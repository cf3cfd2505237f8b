import Mathlib.Data.List.FinRange
import Mathlib.Logic.Function.Basic
import Mathlib.Tactic.Common
import TuyaMiniSwitch.Library.Machine

/-!
# Application - The reporting table

The table of {lit}`zcl_reporting.c` with the timers of its entries, and the functions that
find, add, change and reset an entry.  The rest of the device is seen through the attributes
it has, which never change, through the data of these attributes and through the binding
table.

Main results:

- Theorem {lit}`timerRound_timerStartAt`: what {lit}`reportAttrTimerStart` does to an entry and its
  timer.
-/

namespace Reporting

def ZCL_REPORTING_TABLE_NUM : Nat := 24

def REPORTABLE_CHANGE_MAX_ANALOG_SIZE : Nat := 8

/-- The index of an entry, and of its timer. -/
abbrev Index : Type := Fin ZCL_REPORTING_TABLE_NUM

/-- A value of at most eight bytes, as the table keeps it. -/
abbrev AnalogBytes : Type := Vector UInt8 REPORTABLE_CHANGE_MAX_ANALOG_SIZE

def byteAt (bytes : AnalogBytes) (i : Nat) : UInt8 := bytes[i]?.getD 0

/-- {lit}`memcpy` to such a value. -/
def memcpy (bytes : AnalogBytes) (src : Nat → UInt8) (len : Nat) : AnalogBytes :=
  Vector.ofFn fun i => if i.val < len then src i.val else bytes[i]

/-- {lit}`memcmp` with such a value, which tells only whether the bytes differ. -/
def memcmp (bytes : AnalogBytes) (src : Nat → UInt8) (len : Nat) : Bool :=
  (List.range len).any fun i => byteAt bytes i != src i

/-! ## Data types -/

/-- {lit}`zcl_getDataTypeLen`, by the codes of {lit}`zcl_const.h`. -/
def zclGetDataTypeLen (dataType : UInt8) : Nat :=
  if dataType ∈ [0x10, 0x08, 0x18, 0x20, 0x28, 0x30] then 1
  else if dataType ∈ [0x09, 0x19, 0x21, 0x29, 0x31, 0x38, 0xe8, 0xe9] then 2
  else if dataType ∈ [0x0a, 0x1a, 0x22, 0x2a] then 3
  else if dataType ∈ [0x0b, 0x1b, 0x23, 0x2b, 0x39, 0xe2, 0xe1, 0xea] then 4
  else if dataType ∈ [0x0c, 0x1c, 0x24, 0x2c] then 5
  else if dataType ∈ [0x0d, 0x1d, 0x25, 0x2d] then 6
  else if dataType ∈ [0x0e, 0x1e, 0x26, 0x2e] then 7
  else if dataType ∈ [0x0f, 0x1f, 0x27, 0x2f, 0x3a, 0xf0] then 8
  else if dataType = 0xf1 then 16
  else 0

/-- {lit}`zcl_analogDataType`: the integers, the floats and the three time types. -/
def zclAnalogDataType (dataType : UInt8) : Bool :=
  dataType ∈ [0x20, 0x21, 0x22, 0x23, 0x24, 0x25, 0x26, 0x27, 0x28, 0x29, 0x2a, 0x2b, 0x2c,
    0x2d, 0x2e, 0x2f, 0x38, 0x39, 0x3a, 0xe0, 0xe1, 0xe2]

/-- The items of a structure in {lit}`zcl_getAttrSize`, from an offset on. -/
def structSize (data : Nat → UInt8) : Nat → Nat → Nat
  | 0, dataLen => dataLen
  | itemNum + 1, dataLen =>
      structSize data itemNum ((dataLen + zclGetDataTypeLen (data dataLen) + 1) % 65536)

/-- {lit}`zcl_getAttrSize`. -/
def zclGetAttrSize (dataType : UInt8) (data : Nat → UInt8) : Nat :=
  if dataType = 0x44 ∨ dataType = 0x43 then
    ((data 1).toNat * 256 + (data 0).toNat + 2) % 65536
  else if dataType = 0x42 ∨ dataType = 0x41 then (data 0).toNat + 1
  else if dataType = 0x4c then structSize data (data 0).toNat 2
  else zclGetDataTypeLen dataType

/-- The length that the reporting functions compare and keep: a byte, and no more than the
table has room for. -/
def keptLen (dataType : UInt8) (data : Nat → UInt8) : Nat :=
  min (zclGetAttrSize dataType data % 256) REPORTABLE_CHANGE_MAX_ANALOG_SIZE

theorem keptLen_le (dataType : UInt8) (data : Nat → UInt8) : keptLen dataType data ≤ 8 :=
  Nat.min_le_right _ _

/-! ## Attributes -/

/-- {lit}`zclAttrInfo_t` without its data. -/
structure AttrInfo where
  id : UInt16
  type : UInt8
  reportable : Bool
  deriving Repr, DecidableEq

/-- The attributes that {lit}`zcl_findAttribute` finds.  It finds an attribute by its
identifier, and no cluster is registered under the identifier that stands for none. -/
structure AttrTable where
  find : UInt8 → UInt16 → UInt16 → Option AttrInfo
  id_eq : ∀ {endpoint clusterId attrID attr},
    find endpoint clusterId attrID = some attr → attr.id = attrID
  cluster_ne : ∀ {endpoint attrID}, find endpoint 0xFFFF attrID = none

/-! ## The table -/

/-- {lit}`reportCfgInfo_t`. -/
structure ReportCfgInfo where
  profileID : UInt16 := 0
  clusterID : UInt16 := 0
  attrID : UInt16 := 0
  minIntDft : UInt16 := 0
  maxIntDft : UInt16 := 0
  minInterval : UInt16 := 0
  maxInterval : UInt16 := 0
  minIntCnt : UInt16 := 0
  maxIntCnt : UInt16 := 0
  endPoint : UInt8 := 0
  dataType : UInt8 := 0
  reportableChange : AnalogBytes := Vector.replicate 8 0
  prevData : AnalogBytes := Vector.replicate 8 0
  used : Bool := false
  deriving Repr, DecidableEq

/-- {lit}`zcl_reportingTab_t`. -/
structure ReportingTab where
  reportNum : UInt8
  reportCfgInfo : Index → ReportCfgInfo

/-- Which interval a timer measures. -/
inductive MinOrMax where
  | min
  | max
  deriving Repr, DecidableEq

/-- {lit}`zcl_reportTimerEvt_t`, with the milliseconds its timer still runs for while it is
in the list of {lit}`ev_timer.c`. -/
structure ReportTimerEvt where
  pEntry : Option Index := none
  seconds : UInt16 := 0
  minOrMax : MinOrMax := .min
  timer : Option Nat := none
  deriving Repr, DecidableEq

/-- {lit}`zclReport_t`, with the bytes that are sent. -/
structure ReportRec where
  attrID : UInt16
  dataType : UInt8
  attrData : List UInt8
  deriving Repr, DecidableEq

/-- A report command given to {lit}`zcl_reportAttrs`, and when. -/
structure ReportCmd where
  time : Nat
  profileId : UInt16
  clusterId : UInt16
  endpoint : UInt8
  attrList : List ReportRec
  deriving Repr, DecidableEq

/-- The variables of {lit}`zcl_reporting.c` and what they depend on: the data of the
attributes, the binding table and the stored table.  A null pointer that is used, or an
exception that is posted, is recorded as a fault. -/
structure State where
  tab : ReportingTab
  reportTimer : Index → ReportTimerEvt
  reportingTimer : Option Nat
  nv : Option ReportingTab
  data : UInt8 → UInt16 → UInt16 → Nat → UInt8
  bound : UInt16 → UInt8 → Bool
  now : Nat
  sent : List ReportCmd
  fault : Bool

def State.entry (s : State) (i : Index) : ReportCfgInfo := s.tab.reportCfgInfo i

def State.setEntry (s : State) (i : Index) (entry : ReportCfgInfo) : State :=
  { s with tab := { s.tab with reportCfgInfo := Function.update s.tab.reportCfgInfo i entry } }

def State.setTimer (s : State) (i : Index) (timer : ReportTimerEvt) : State :=
  { s with reportTimer := Function.update s.reportTimer i timer }

@[simp] theorem setEntry_entry_self (s : State) (i : Index) (entry : ReportCfgInfo) :
    (s.setEntry i entry).entry i = entry := by
  simp [State.setEntry, State.entry]

theorem setEntry_entry_ne (s : State) {i j : Index} (hne : j ≠ i) (entry : ReportCfgInfo) :
    (s.setEntry i entry).entry j = s.entry j := by
  simp [State.setEntry, State.entry, hne]

@[simp] theorem setEntry_entry_eq (s : State) (i : Index) : s.setEntry i (s.entry i) = s := by
  simp [State.setEntry, State.entry]

@[simp] theorem setEntry_reportTimer (s : State) (i : Index) (entry : ReportCfgInfo) :
    (s.setEntry i entry).reportTimer = s.reportTimer := rfl

@[simp] theorem setEntry_reportingTimer (s : State) (i : Index) (entry : ReportCfgInfo) :
    (s.setEntry i entry).reportingTimer = s.reportingTimer := rfl

@[simp] theorem setEntry_data (s : State) (i : Index) (entry : ReportCfgInfo) :
    (s.setEntry i entry).data = s.data := rfl

@[simp] theorem setEntry_bound (s : State) (i : Index) (entry : ReportCfgInfo) :
    (s.setEntry i entry).bound = s.bound := rfl

@[simp] theorem setEntry_now (s : State) (i : Index) (entry : ReportCfgInfo) :
    (s.setEntry i entry).now = s.now := rfl

@[simp] theorem setEntry_sent (s : State) (i : Index) (entry : ReportCfgInfo) :
    (s.setEntry i entry).sent = s.sent := rfl

@[simp] theorem setEntry_nv (s : State) (i : Index) (entry : ReportCfgInfo) :
    (s.setEntry i entry).nv = s.nv := rfl

@[simp] theorem setEntry_fault (s : State) (i : Index) (entry : ReportCfgInfo) :
    (s.setEntry i entry).fault = s.fault := rfl

@[simp] theorem setEntry_reportNum (s : State) (i : Index) (entry : ReportCfgInfo) :
    (s.setEntry i entry).tab.reportNum = s.tab.reportNum := rfl

@[simp] theorem setTimer_reportTimer_self (s : State) (i : Index) (timer : ReportTimerEvt) :
    (s.setTimer i timer).reportTimer i = timer := by
  simp [State.setTimer]

theorem setTimer_reportTimer_ne (s : State) {i j : Index} (hne : j ≠ i)
    (timer : ReportTimerEvt) : (s.setTimer i timer).reportTimer j = s.reportTimer j := by
  simp [State.setTimer, hne]

@[simp] theorem setTimer_entry (s : State) (i : Index) (timer : ReportTimerEvt) :
    (s.setTimer i timer).entry = s.entry := rfl

@[simp] theorem setTimer_tab (s : State) (i : Index) (timer : ReportTimerEvt) :
    (s.setTimer i timer).tab = s.tab := rfl

@[simp] theorem setTimer_reportingTimer (s : State) (i : Index) (timer : ReportTimerEvt) :
    (s.setTimer i timer).reportingTimer = s.reportingTimer := rfl

/-- The data of the attribute that an entry is about. -/
def State.dataOf (s : State) (entry : ReportCfgInfo) : Nat → UInt8 :=
  s.data entry.endPoint entry.clusterID entry.attrID

def AttrTable.attrOf (table : AttrTable) (entry : ReportCfgInfo) : Option AttrInfo :=
  table.find entry.endPoint entry.clusterID entry.attrID

/-- The condition under which the reporting functions look at an entry. -/
def State.enabled (s : State) (entry : ReportCfgInfo) : Bool :=
  entry.used && entry.maxInterval != 0xFFFF && s.bound entry.clusterID entry.endPoint

/-! ## Entries -/

/-- {lit}`zcl_reportCfgInfoEntryFind`. -/
def entryFind (s : State) (endpoint : UInt8) (clusterId attrID : UInt16) : Option Index :=
  (List.finRange ZCL_REPORTING_TABLE_NUM).find? fun i =>
    (s.entry i).used && (s.entry i).clusterID == clusterId && (s.entry i).attrID == attrID &&
      (s.entry i).endPoint == endpoint

/-- {lit}`zcl_reportCfgInfoEntryFreeGet`. -/
def entryFreeGet (s : State) : Option Index :=
  (List.finRange ZCL_REPORTING_TABLE_NUM).find? fun i => !(s.entry i).used

/-- {lit}`zcl_reportingEntryActiveNumGet`. -/
def entryActiveNumGet (s : State) : Nat :=
  if s.tab.reportNum ≠ 0 then
    ((List.finRange ZCL_REPORTING_TABLE_NUM).filter fun i =>
      (s.entry i).used && (s.entry i).maxInterval != 0xFFFF).length
  else 0

/-- {lit}`zclCfgReportRec_t`. -/
structure CfgReportRec where
  direction : UInt8 := 0
  attrID : UInt16
  dataType : UInt8
  minReportInt : UInt16
  maxReportInt : UInt16
  reportableChange : Nat → UInt8

/-- The reportable change after {lit}`zcl_reportCfgInfoEntryUpdate`. -/
def ReportCfgInfo.changeFrom (entry : ReportCfgInfo) (rec : CfgReportRec) : AnalogBytes :=
  if zclAnalogDataType entry.dataType then
    memcpy entry.reportableChange rec.reportableChange (zclGetDataTypeLen entry.dataType)
  else entry.reportableChange

/-- {lit}`zcl_reportCfgInfoEntryUpdate` on an entry that is not used. -/
def ReportCfgInfo.add (entry : ReportCfgInfo) (endPoint : UInt8) (profileId clusterId : UInt16)
    (rec : CfgReportRec) : ReportCfgInfo :=
  let entry := { entry with
    profileID := profileId
    clusterID := clusterId
    endPoint := endPoint
    attrID := rec.attrID
    minIntDft := rec.minReportInt
    maxIntDft := rec.maxReportInt
    minInterval := rec.minReportInt
    maxInterval := rec.maxReportInt
    dataType := rec.dataType }
  { entry with
    reportableChange := entry.changeFrom rec
    minIntCnt := rec.minReportInt
    maxIntCnt := rec.maxReportInt
    used := true }

/-- {lit}`zcl_reportCfgInfoEntryUpdate` on an entry that is used. -/
def ReportCfgInfo.update (entry : ReportCfgInfo) (rec : CfgReportRec) : ReportCfgInfo :=
  { entry with
    minInterval := rec.minReportInt
    maxInterval := rec.maxReportInt
    minIntCnt := rec.minReportInt
    maxIntCnt := rec.maxReportInt
    reportableChange := entry.changeFrom rec }

/-- {lit}`zcl_reportCfgInfoEntryUpdate`, which posts an exception if it adds an entry for an
attribute that does not exist. -/
def entryUpdate (table : AttrTable) (s : State) (i : Index) (endPoint : UInt8)
    (profileId clusterId : UInt16) (rec : CfgReportRec) : State :=
  if (s.entry i).used = false then
    let entry := (s.entry i).add endPoint profileId clusterId rec
    let s := s.setEntry i entry
    { s with
      tab := { s.tab with reportNum := s.tab.reportNum + 1 }
      fault := s.fault || (table.attrOf entry).isNone }
  else
    s.setEntry i ((s.entry i).update rec)

/-! ## Timers -/

/-- {lit}`reportAttrTimerStop`. -/
def ReportTimerEvt.stop (timer : ReportTimerEvt) : ReportTimerEvt :=
  if timer.pEntry.isSome then { pEntry := none, seconds := 0, minOrMax := .min, timer := none }
  else timer

/-- Stopping a timer that measures the longest interval. -/
def ReportTimerEvt.stopMax (timer : ReportTimerEvt) : ReportTimerEvt :=
  if timer.pEntry.isSome && timer.minOrMax == .max then timer.stop else timer

/-- The end of a round of {lit}`reportAttrTimerStart`: the timer is started if it does not
run. -/
def ReportTimerEvt.start (timer : ReportTimerEvt) (i : Index) (seconds : UInt16)
    (minOrMax : MinOrMax) : ReportTimerEvt :=
  if timer.pEntry.isNone then
    { pEntry := some i, seconds, minOrMax, timer := some (seconds.toNat * 1000) }
  else timer

/-- {lit}`reportingTimerStart`. -/
def reportingTimerStart (s : State) : State :=
  if s.reportingTimer.isNone then { s with reportingTimer := some 100 } else s

/-! ## What counts as a change -/

/-- The comparison that every case of {lit}`reportableChangeValueChk` makes, with the
subtraction of its type. -/
def changeAtLeast (sub : Int → Int → Int) (P C R : Int) : Bool :=
  if P > C then sub P C ≥ R else if P < C then sub C P ≥ R else false

/-- {lit}`BUILD_U16`, {lit}`BUILD_U24` and {lit}`BUILD_U32`: the first bytes of a value, the lowest
first. -/
def buildU (bytes : Nat → UInt8) : Nat → Nat
  | 0 => 0
  | n + 1 => (bytes 0).toNat + 256 * buildU (fun i => bytes (i + 1)) n

/-- A number read as a signed one of a width. -/
def asSigned (width : Nat) (v : Nat) : Int := Int.bmod v width

/-- {lit}`reportableChangeValueChk`.  {lit}`BUILD_S24` does not extend the sign.  The operands of a
type of less than 32 bits are promoted before they are subtracted, those of {lit}`s32` are not. -/
def reportableChangeValueChk (dataType : UInt8)
    (curValue prevValue reportableChange : Nat → UInt8) : Bool :=
  let unsigned (n : Nat) := changeAtLeast (· - ·) (buildU prevValue n) (buildU curValue n)
    (buildU reportableChange n)
  let signed (n width : Nat) (sub : Int → Int → Int) :=
    changeAtLeast sub (asSigned width (buildU prevValue n)) (asSigned width (buildU curValue n))
      (asSigned width (buildU reportableChange n))
  if dataType = 0x20 then unsigned 1
  else if dataType = 0x21 then unsigned 2
  else if dataType = 0x22 then unsigned 3
  else if dataType = 0x23 then unsigned 4
  else if dataType = 0x28 then signed 1 0x100 (· - ·)
  else if dataType = 0x29 then signed 2 0x10000 (· - ·)
  else if dataType = 0x2a then unsigned 3
  else if dataType = 0x2b then signed 4 0x100000000 fun a b => Int.bmod (a - b) 0x100000000
  else false

/-- The condition on the data in {lit}`reportAttrTimerStart`. -/
def State.changed (s : State) (attr : AttrInfo) (entry : ReportCfgInfo) : Bool :=
  if zclAnalogDataType attr.type then
    reportableChangeValueChk attr.type (s.dataOf entry) (byteAt entry.prevData)
      (byteAt entry.reportableChange)
  else memcmp entry.prevData (s.dataOf entry) (keptLen attr.type (s.dataOf entry))

/-- An entry that keeps the present data for the next comparison. -/
def State.keep (s : State) (attr : AttrInfo) (entry : ReportCfgInfo) : ReportCfgInfo :=
  { entry with
    prevData := memcpy entry.prevData (s.dataOf entry) (keptLen attr.type (s.dataOf entry)) }

/-! ## Starting the timers -/

/-- A report as soon as possible. -/
def reportNow (s : State) (i : Index) : State :=
  let s := s.setTimer i (s.reportTimer i).stop
  reportingTimerStart (s.setEntry i { s.entry i with minIntCnt := 0 })

/-- The branch of {lit}`reportAttrTimerStart` for data that changed. -/
def timerOfChange (s : State) (i : Index) : State :=
  let entry := s.entry i
  let timer := s.reportTimer i
  if entry.minInterval ≠ 0 then
    if entry.minInterval ≠ 0xFFFF ∧ entry.maxInterval = 0 then reportNow s i
    else s.setTimer i (timer.stopMax.start i entry.minInterval .min)
  else reportNow s i

/-- The branch for data that did not change. -/
def timerOfSame (s : State) (i : Index) : State :=
  let entry := s.entry i
  let timer := s.reportTimer i
  if entry.maxInterval ≠ 0 then
    let timer := if timer.seconds ≠ entry.maxInterval then timer.stopMax else timer
    s.setTimer i (timer.start i entry.maxInterval .max)
  else s.setTimer i timer.stopMax

/-- A round of {lit}`reportAttrTimerStart`. -/
def timerStartAt (table : AttrTable) (s : State) (i : Index) : State :=
  let entry := s.entry i
  if s.enabled entry then
    match table.attrOf entry with
    -- the attribute's type is read through a null pointer
    | none => { s with fault := true }
    | some attr =>
        if s.changed attr entry then timerOfChange (s.setEntry i (s.keep attr entry)) i
        else timerOfSame s i
  else s.setTimer i (s.reportTimer i).stop

/-- {lit}`reportAttrTimerStart`. -/
def reportAttrTimerStart (table : AttrTable) (s : State) : State :=
  (List.finRange ZCL_REPORTING_TABLE_NUM).foldl (timerStartAt table) s

/-! ## Configuring -/

/-- {lit}`zcl_reportCfgInfoEntryRst`. -/
def entryRst (table : AttrTable) (s : State) (i : Index) : State :=
  let entry := s.entry i
  if entry.used then
    let s := s.setEntry i { entry with
      minInterval := entry.minIntDft
      maxInterval := entry.maxIntDft
      minIntCnt := entry.minIntDft
      maxIntCnt := entry.maxIntDft
      reportableChange := Vector.replicate 8 0 }
    let s := match (List.finRange ZCL_REPORTING_TABLE_NUM).find? fun j =>
        (s.reportTimer j).pEntry == some i with
      | some j => s.setTimer j (s.reportTimer j).stop
      | none => s
    reportAttrTimerStart table s
  else s

/-- What the functions that configure a report return. -/
inductive Status where
  | ZCL_STA_SUCCESS
  | ZCL_STA_UNSUPPORTED_ATTRIBUTE
  | ZCL_STA_INVALID_VALUE
  | ZCL_STA_INSUFFICIENT_SPACE
  | ZCL_STA_DUPLICATE_EXISTS
  | ZCL_STA_NOT_FOUND
  | ZCL_STA_INVALID_DATA_TYPE
  deriving Repr, DecidableEq

/-- The end of {lit}`zcl_configureReporting`. -/
def configureEntry (table : AttrTable) (s : State) (pEntry : Option Index) (endpoint : UInt8)
    (profileId clusterId : UInt16) (rec : CfgReportRec) : Status × State :=
  match pEntry.or (entryFreeGet s) with
  | none => (.ZCL_STA_INSUFFICIENT_SPACE, s)
  | some i => (.ZCL_STA_SUCCESS, entryUpdate table s i endpoint profileId clusterId rec)

/-- {lit}`zcl_configureReporting`. -/
def configureReporting (table : AttrTable) (s : State) (endpoint : UInt8)
    (profileId clusterId : UInt16) (rec : CfgReportRec) : Status × State :=
  match table.find endpoint clusterId rec.attrID with
  | none => (.ZCL_STA_UNSUPPORTED_ATTRIBUTE, s)
  | some attr =>
      if attr.type ≠ rec.dataType then (.ZCL_STA_INVALID_DATA_TYPE, s)
      else if attr.reportable = false then (.ZCL_STA_UNSUPPORTED_ATTRIBUTE, s)
      else if rec.direction = 1 then (.ZCL_STA_UNSUPPORTED_ATTRIBUTE, s)
      else
        let pEntry := entryFind s endpoint clusterId rec.attrID
        if rec.maxReportInt = 0xFFFF then
          if pEntry.isNone then (.ZCL_STA_NOT_FOUND, s)
          else configureEntry table s pEntry endpoint profileId clusterId rec
        else if rec.maxReportInt = 0 then
          if rec.minReportInt = 0xFFFF then
            match pEntry with
            | none => (.ZCL_STA_NOT_FOUND, s)
            | some i => (.ZCL_STA_SUCCESS, entryRst table s i)
          else configureEntry table s pEntry endpoint profileId clusterId rec
        else if rec.maxReportInt < rec.minReportInt then (.ZCL_STA_INVALID_VALUE, s)
        else configureEntry table s pEntry endpoint profileId clusterId rec

/-- {lit}`bdb_defaultReportingCfg`. -/
def defaultReportingCfg (table : AttrTable) (s : State) (endpoint : UInt8)
    (profileID clusterID attrID minReportInt maxReportInt : UInt16)
    (reportableChange : Nat → UInt8) : Status × State :=
  if (entryFind s endpoint clusterID attrID).isSome then (.ZCL_STA_DUPLICATE_EXISTS, s)
  else
    match table.find endpoint clusterID attrID with
    | none => (.ZCL_STA_UNSUPPORTED_ATTRIBUTE, s)
    | some attr => configureReporting table s endpoint profileID clusterID
        { attrID, dataType := attr.type, minReportInt, maxReportInt, reportableChange }

/-- What {lit}`zcl_configReportHandler` does to the table with a parsed command: every record on
its own, and the table is stored if one of them was accepted. -/
def configReportHandler (table : AttrTable) (s : State) (endpoint : UInt8)
    (profileId clusterId : UInt16) (attrList : List CfgReportRec) : State :=
  let (cfgReportChange, s) := attrList.foldl (fun (cfgReportChange, s) rec =>
      let (status, s) := configureReporting table s endpoint profileId clusterId rec
      (cfgReportChange || status == .ZCL_STA_SUCCESS, s)) (false, s)
  if cfgReportChange then { s with nv := some s.tab } else s

/-! ## Start -/

/-- {lit}`zcl_reportingTab_restore` of a stored table. -/
def restoredTab (tab : ReportingTab) : ReportingTab where
  reportNum := tab.reportNum
  reportCfgInfo i :=
    if i.val < tab.reportNum.toNat then
      { tab.reportCfgInfo i with prevData := Vector.replicate 8 0xFF }
    else tab.reportCfgInfo i

/-- {lit}`zcl_reportingTabInit`. -/
def reportingTabInit (nv : Option ReportingTab) : ReportingTab :=
  match nv with
  | some tab => restoredTab tab
  | none => { reportNum := 0, reportCfgInfo := fun _ => {} }

/-- The variables after a start of the device. -/
def State.boot (s : State) : State :=
  { s with
    tab := reportingTabInit s.nv
    reportTimer := fun _ => {}
    reportingTimer := none }

/-! ## What a round does to an entry and its timer -/

/-- The condition of {lit}`reportAttrTimerStart` for a report as soon as possible. -/
def ReportCfgInfo.atOnce (entry : ReportCfgInfo) : Bool :=
  entry.minInterval == 0 || (entry.minInterval != 0xFFFF && entry.maxInterval == 0)

/-- The timer that sends the collected reports runs on, or is started. -/
def Started (timer timer' : Option Nat) : Prop := timer' = timer ∨ timer = none ∧ timer' = some 100

/-- What is left alone outside an entry and its timer. -/
structure Leaves (i : Index) (s s' : State) : Prop where
  entry : ∀ j, j ≠ i → s'.entry j = s.entry j
  timer : ∀ j, j ≠ i → s'.reportTimer j = s.reportTimer j
  reporting : Started s.reportingTimer s'.reportingTimer
  num : s'.tab.reportNum = s.tab.reportNum
  nv : s'.nv = s.nv
  data : s'.data = s.data
  bound : s'.bound = s.bound
  now : s'.now = s.now
  sent : s'.sent = s.sent

/-- The cases of a round of {lit}`reportAttrTimerStart`. -/
inductive TimerRound (table : AttrTable) (i : Index) (s s' : State) : Prop where
  | off (henabled : s.enabled (s.entry i) = false) (hentry : s'.entry i = s.entry i)
      (htimer : s'.reportTimer i = (s.reportTimer i).stop) (hfault : s'.fault = s.fault)
  | missing (henabled : s.enabled (s.entry i) = true)
      (hnone : table.attrOf (s.entry i) = none) (hentry : s'.entry i = s.entry i)
      (htimer : s'.reportTimer i = s.reportTimer i)
  | atOnce (attr : AttrInfo) (henabled : s.enabled (s.entry i) = true)
      (hattr : table.attrOf (s.entry i) = some attr)
      (hchanged : s.changed attr (s.entry i) = true) (hatOnce : (s.entry i).atOnce = true)
      (hentry : s'.entry i = { s.keep attr (s.entry i) with minIntCnt := 0 })
      (htimer : s'.reportTimer i = (s.reportTimer i).stop)
      (hreporting : s'.reportingTimer.isSome) (hfault : s'.fault = s.fault)
  | wait (attr : AttrInfo) (henabled : s.enabled (s.entry i) = true)
      (hattr : table.attrOf (s.entry i) = some attr)
      (hchanged : s.changed attr (s.entry i) = true) (hatOnce : (s.entry i).atOnce = false)
      (hentry : s'.entry i = s.keep attr (s.entry i))
      (htimer : s'.reportTimer i =
        (s.reportTimer i).stopMax.start i (s.entry i).minInterval .min)
      (hfault : s'.fault = s.fault)
  | repeats (attr : AttrInfo) (henabled : s.enabled (s.entry i) = true)
      (hattr : table.attrOf (s.entry i) = some attr)
      (hsame : s.changed attr (s.entry i) = false) (hmax : (s.entry i).maxInterval ≠ 0)
      (hentry : s'.entry i = s.entry i)
      (htimer : s'.reportTimer i =
        (if (s.reportTimer i).seconds ≠ (s.entry i).maxInterval then (s.reportTimer i).stopMax
          else s.reportTimer i).start i (s.entry i).maxInterval .max)
      (hfault : s'.fault = s.fault)
  | idle (attr : AttrInfo) (henabled : s.enabled (s.entry i) = true)
      (hattr : table.attrOf (s.entry i) = some attr)
      (hsame : s.changed attr (s.entry i) = false) (hmax : (s.entry i).maxInterval = 0)
      (hentry : s'.entry i = s.entry i)
      (htimer : s'.reportTimer i = (s.reportTimer i).stopMax) (hfault : s'.fault = s.fault)

theorem started_reportingTimerStart (s : State) :
    Started s.reportingTimer (reportingTimerStart s).reportingTimer ∧
      (reportingTimerStart s).reportingTimer.isSome := by
  unfold reportingTimerStart Started
  cases htimer : s.reportingTimer with
  | none => simp
  | some ms => simp [htimer]

/-- Starting that timer changes nothing else. -/
theorem reportingTimerStart_eq (s : State) : reportingTimerStart s =
    { s with reportingTimer := (reportingTimerStart s).reportingTimer } := by
  unfold reportingTimerStart
  split <;> rfl

@[simp] theorem reportingTimerStart_tab (s : State) : (reportingTimerStart s).tab = s.tab := by
  rw [reportingTimerStart_eq]

@[simp] theorem reportingTimerStart_reportTimer (s : State) :
    (reportingTimerStart s).reportTimer = s.reportTimer := by
  rw [reportingTimerStart_eq]

@[simp] theorem reportingTimerStart_nv (s : State) : (reportingTimerStart s).nv = s.nv := by
  rw [reportingTimerStart_eq]

@[simp] theorem reportingTimerStart_fault (s : State) :
    (reportingTimerStart s).fault = s.fault := by
  rw [reportingTimerStart_eq]

theorem Leaves.refl (i : Index) (s : State) : Leaves i s s :=
  ⟨fun _ _ => rfl, fun _ _ => rfl, Or.inl rfl, rfl, rfl, rfl, rfl, rfl, rfl⟩

theorem leaves_setTimer (s : State) (i : Index) (timer : ReportTimerEvt) :
    Leaves i s (s.setTimer i timer) :=
  ⟨fun _ _ => rfl, fun _ hne => setTimer_reportTimer_ne s hne timer, Or.inl rfl, rfl, rfl, rfl, rfl,
    rfl, rfl⟩

theorem leaves_setEntry (s : State) (i : Index) (entry : ReportCfgInfo) :
    Leaves i s (s.setEntry i entry) :=
  ⟨fun _ hne => setEntry_entry_ne s hne entry, fun _ _ => rfl, Or.inl rfl, rfl, rfl, rfl, rfl, rfl,
    rfl⟩

theorem leaves_reportingTimerStart (s : State) (i : Index) :
    Leaves i s (reportingTimerStart s) := by
  rw [reportingTimerStart_eq]
  exact ⟨fun _ _ => rfl, fun _ _ => rfl, (started_reportingTimerStart s).1, rfl, rfl, rfl, rfl, rfl,
    rfl⟩

theorem Started.trans {timer timer' timer'' : Option Nat} (h : Started timer timer')
    (h' : Started timer' timer'') : Started timer timer'' := by
  rcases h with rfl | ⟨rfl, rfl⟩
  · exact h'
  · rcases h' with rfl | ⟨hnone, -⟩
    · exact Or.inr ⟨rfl, rfl⟩
    · cases hnone

theorem Leaves.trans {i : Index} {s s' s'' : State} (h : Leaves i s s') (h' : Leaves i s' s'') :
    Leaves i s s'' where
  entry j hne := (h'.entry j hne).trans (h.entry j hne)
  timer j hne := (h'.timer j hne).trans (h.timer j hne)
  reporting := h.reporting.trans h'.reporting
  num := h'.num.trans h.num
  nv := h'.nv.trans h.nv
  data := h'.data.trans h.data
  bound := h'.bound.trans h.bound
  now := h'.now.trans h.now
  sent := h'.sent.trans h.sent

theorem leaves_reportNow (s : State) (i : Index) : Leaves i s (reportNow s i) :=
  ((leaves_setTimer s i _).trans (leaves_setEntry _ i _)).trans (leaves_reportingTimerStart _ i)

theorem leaves_timerOfChange (s : State) (i : Index) : Leaves i s (timerOfChange s i) := by
  dsimp only [timerOfChange]
  split
  · split
    · exact leaves_reportNow s i
    · exact leaves_setTimer s i _
  · exact leaves_reportNow s i

theorem leaves_timerOfSame (s : State) (i : Index) : Leaves i s (timerOfSame s i) := by
  dsimp only [timerOfSame]
  split
  · exact leaves_setTimer s i _
  · exact leaves_setTimer s i _

/-- A round is about one entry and its timer. -/
theorem leaves_timerStartAt (table : AttrTable) (s : State) (i : Index) :
    Leaves i s (timerStartAt table s i) := by
  dsimp only [timerStartAt]
  split
  · split
    · exact ⟨fun _ _ => rfl, fun _ _ => rfl, Or.inl rfl, rfl, rfl, rfl, rfl, rfl, rfl⟩
    · split
      · exact (leaves_setEntry s i _).trans (leaves_timerOfChange _ i)
      · exact leaves_timerOfSame s i
  · exact leaves_setTimer s i _

theorem reportNow_entry (s : State) (i : Index) :
    (reportNow s i).entry i = { s.entry i with minIntCnt := 0 } := by
  rw [reportNow, State.entry, reportingTimerStart_tab]
  exact setEntry_entry_self _ i _

theorem reportNow_timer (s : State) (i : Index) :
    (reportNow s i).reportTimer i = (s.reportTimer i).stop := by
  rw [reportNow, reportingTimerStart_reportTimer]
  exact setTimer_reportTimer_self s i _

theorem reportNow_fault (s : State) (i : Index) : (reportNow s i).fault = s.fault := by
  rw [reportNow, reportingTimerStart_fault]
  rfl

/-- The branch for data that changed, by the condition for a report as soon as possible. -/
theorem timerOfChange_eq (s : State) (i : Index) : timerOfChange s i =
    if (s.entry i).atOnce then reportNow s i
    else s.setTimer i ((s.reportTimer i).stopMax.start i (s.entry i).minInterval .min) := by
  unfold timerOfChange ReportCfgInfo.atOnce
  by_cases hmin : (s.entry i).minInterval = 0
  · simp [hmin]
  · by_cases hmax : (s.entry i).minInterval ≠ 0xFFFF ∧ (s.entry i).maxInterval = 0
    · simp [hmin, hmax]
    · simp only [ne_eq, hmin, not_false_eq_true, if_true, if_neg hmax]
      have hnot : ((s.entry i).minInterval != 0xFFFF && (s.entry i).maxInterval == 0) = false := by
        simpa using hmax
      simp [hmin, hnot]

/-- Every round is as described. -/
theorem timerRound_timerStartAt (table : AttrTable) (s : State) (i : Index) :
    TimerRound table i s (timerStartAt table s i) := by
  dsimp only [timerStartAt]
  cases henabled : s.enabled (s.entry i) with
  | false => exact .off henabled rfl (setTimer_reportTimer_self s i _) rfl
  | true =>
      rw [if_pos rfl]
      cases hattr : table.attrOf (s.entry i) with
      | none => exact .missing henabled hattr rfl rfl
      | some attr =>
          simp only
          cases hchanged : s.changed attr (s.entry i) with
          | true =>
              simp only [if_true]
              have hself := setEntry_entry_self s i (s.keep attr (s.entry i))
              have hsame : ((s.setEntry i (s.keep attr (s.entry i))).entry i).atOnce =
                  (s.entry i).atOnce := by rw [hself]; rfl
              rw [timerOfChange_eq, hsame]
              cases hatOnce : (s.entry i).atOnce with
              | true =>
                  refine .atOnce attr henabled hattr hchanged hatOnce ?_ ?_ ?_ ?_
                  · rw [if_pos rfl, reportNow_entry, hself]
                  · rw [if_pos rfl, reportNow_timer, setEntry_reportTimer]
                  · rw [if_pos rfl, reportNow]
                    exact (started_reportingTimerStart _).2
                  · rw [if_pos rfl, reportNow_fault, setEntry_fault]
              | false =>
                  refine .wait attr henabled hattr hchanged hatOnce hself ?_ rfl
                  simp [State.keep]
          | false =>
              simp only [Bool.false_eq_true, if_false, timerOfSame]
              by_cases hmax : (s.entry i).maxInterval = 0
              · refine .idle attr henabled hattr hchanged hmax ?_ ?_ ?_
                · simp [hmax]
                · simp [hmax]
                · simp [hmax, State.setTimer]
              · refine .repeats attr henabled hattr hchanged hmax ?_ ?_ ?_
                · simp [hmax]
                · simp [hmax]
                · simp [hmax, State.setTimer]

end Reporting
