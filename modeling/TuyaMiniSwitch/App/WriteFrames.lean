import Mathlib.Data.List.GetD
import TuyaMiniSwitch.App.WrittenRecords
import TuyaMiniSwitch.App.Settings
import TuyaMiniSwitch.App.ZclFrames

/-!
# Application - Write commands as frames

A write command from its bytes on.  The parser copies the values of all records into one buffer,
one behind another, and a record only keeps a pointer to its own.  A record with fewer bytes than
are read through its pointer reads on into the values of the records behind it, and at last into
what lies behind the buffer.

Main results:

- Theorem {lit}`receiveWrite_eq`: what a frame does that gets its buffers.
- Theorem {lit}`writeCommand_congr`: what the values of the records are read for.
-/

namespace Firmware

open NorFlash RecordFrames EvBuffer Machine
open Reporting (ReportRec zclGetAttrSize zclGetDataTypeLen)
open ZclFrames (u16Bytes readAttrRec zclParseInWriteCmd attrBufLen u16At_stored stored_cons
  parseAttrRecs_laid)

/-! ## The code -/

/-- The values of records, one behind another. -/
def values (attrList : List ReportRec) : List UInt8 := attrList.flatMap fun rec => rec.attrData

/-- What the buffer holds from the value of the first record on. -/
def bufferData (attrList : List ReportRec) (behind : Nat → UInt8) (i : Nat) : UInt8 :=
  (values attrList).getD i (behind (i - (values attrList).length))

/-- The records that {lit}`zcl_parseInWriteCmd` leaves, with what lies behind their pointers. -/
def writeRecs (behind : Nat → UInt8) : List ReportRec → List WriteRec
  | [] => []
  | rec :: attrList =>
      { attrID := rec.attrID
        dataType := rec.dataType
        attrData := bufferData (rec :: attrList) behind } :: writeRecs behind attrList

/-- A frame with {lit}`ZCL_CMD_WRITE`: {lit}`zcl_writeHandler` parses it and allocates the
response, and the application is called if there is something parsed, even if the response gets no
buffer and nothing was written. -/
def Device.receiveWrite (d : Device) (availBufNum : List Nat) (behind : Nat → UInt8)
    (endpoint : UInt8) (clusterId : UInt16) (m : Mem) (dataLen : Nat) : Device :=
  match zclParseInWriteCmd availBufNum m dataLen with
  | none => d
  | some pWriteCmd =>
      let attrList := writeRecs behind pWriteCmd.attrList
      match evBufAllocate pWriteCmd.availBufNum (1 + pWriteCmd.attrList.length * 3) with
      | none => appZclWriteReqCmd d endpoint clusterId attrList
      | some _ => writeCommand d endpoint clusterId attrList

/-! ## Frames of whole records -/

def recBytes (rec : ReportRec) : List UInt8 := u16Bytes rec.attrID ++ rec.dataType :: rec.attrData

/-- The bytes of a frame. -/
def frameBytes (attrList : List ReportRec) : List UInt8 := attrList.flatMap recBytes

/-- The value of a record has the size that its own bytes say. -/
def WholeValue (rec : ReportRec) : Prop :=
  ∀ data : Nat → UInt8, (∀ i < rec.attrData.length, data i = rec.attrData.getD i 0) →
    zclGetAttrSize rec.dataType data = rec.attrData.length

/-- The command and its response get their buffers. -/
structure Buffered (availBufNum : List Nat) (attrList : List ReportRec) : Prop where
  size : attrBufLen attrList ≤ MAX_BUFFER_SIZE
  free : ((evBufAllocate availBufNum (attrBufLen attrList)).bind fun availBufNum =>
    evBufAllocate availBufNum (1 + attrList.length * 3)).isSome

theorem length_recBytes (rec : ReportRec) : (recBytes rec).length = 3 + rec.attrData.length := by
  rw [recBytes, List.length_append, List.length_cons, u16Bytes]
  change 2 + _ = _
  omega

theorem recBytes_ne_nil (rec : ReportRec) : recBytes rec ≠ [] := List.cons_ne_nil _ _

theorem readAttrRec_whole {m : Mem} {pos : Nat} {rec : ReportRec} (hwhole : WholeValue rec)
    (h : NorFlash.Stored m pos (recBytes rec)) :
    readAttrRec m pos = (rec, pos + (recBytes rec).length) := by
  obtain ⟨hid, htail⟩ := stored_append.mp h
  obtain ⟨htype, hvalue⟩ := stored_cons htail
  have htype : m (pos + 2) = rec.dataType := htype
  have hvalue : NorFlash.Stored m (pos + 3) rec.attrData := hvalue
  have hsize : zclGetAttrSize rec.dataType (fun i => m (pos + 3 + i)) = rec.attrData.length := by
    apply hwhole
    intro i hi
    rw [hvalue.get hi, List.getD_eq_getElem _ _ hi, List.getD_eq_getElem _ _ hi]
  have hread : readBytes m (pos + 3) rec.attrData.length = rec.attrData := hvalue
  rw [readAttrRec, htype, hsize, hread, u16At_stored hid, length_recBytes, ← Nat.add_assoc]

/-- The parser finds the records of a frame. -/
theorem laid_frame {m : Mem} {attrList : List ReportRec}
    (hwhole : ∀ rec ∈ attrList, WholeValue rec) (h : NorFlash.Stored m 0 (frameBytes attrList)) :
    Laid (readAttrRec m) 0 attrList (frameBytes attrList).length := by
  have hall := laid_of_stored (readAttrRec m) id
    (fun rec hrec pos hstored => readAttrRec_whole (hwhole rec hrec) hstored) recBytes_ne_nil h
  rwa [Nat.zero_add, List.map_id] at hall

/-- What a frame does that gets its buffers. -/
theorem receiveWrite_eq (d : Device) {availBufNum : List Nat} (behind : Nat → UInt8)
    (endpoint : UInt8) (clusterId : UInt16) {m : Mem} {attrList : List ReportRec}
    (hbuffered : Buffered availBufNum attrList) (hwhole : ∀ rec ∈ attrList, WholeValue rec)
    (h : NorFlash.Stored m 0 (frameBytes attrList)) :
    d.receiveWrite availBufNum behind endpoint clusterId m (frameBytes attrList).length =
      writeCommand d endpoint clusterId (writeRecs behind attrList) := by
  have hsize := hbuffered.size
  have hnum : attrList.length < 256 := by
    rw [attrBufLen, MAX_BUFFER_SIZE, OFFSETOF_DATA] at hsize
    omega
  have hlen : attrBufLen attrList < 65536 := Nat.lt_of_le_of_lt hsize (by decide)
  have hparsed : zclParseInWriteCmd availBufNum m (frameBytes attrList).length = _ :=
    parseAttrRecs_laid availBufNum (laid_frame hwhole h) hnum hlen
  rcases Option.isSome_iff_exists.mp hbuffered.free with ⟨left', hfree⟩
  rcases Option.bind_eq_some_iff.mp hfree with ⟨left, hleft, hresponse⟩
  rw [hleft, Option.map_some] at hparsed
  unfold Device.receiveWrite
  rw [hparsed]
  dsimp only
  rw [hresponse]

/-! ## What is read through the pointers -/

theorem bufferData_append (attrList attrList' : List ReportRec) (behind : Nat → UInt8) :
    bufferData (attrList ++ attrList') behind =
      bufferData attrList (bufferData attrList' behind) := by
  funext i
  have hvalues : values (attrList ++ attrList') = values attrList ++ values attrList' :=
    List.flatMap_append
  unfold bufferData
  rw [hvalues]
  by_cases hi : i < (values attrList).length
  · rw [List.getD_append _ _ _ _ hi, List.getD_eq_getElem _ _ hi, List.getD_eq_getElem _ _ hi]
  · rw [Nat.not_lt] at hi
    rw [List.getD_append_right _ _ _ _ hi, List.length_append, Nat.sub_add_eq,
      List.getD_eq_default _ _ hi]

theorem bufferData_inside {attrList : List ReportRec} {i : Nat}
    (hi : i < (values attrList).length) (behind behind' : Nat → UInt8) :
    bufferData attrList behind i = bufferData attrList behind' i := by
  rw [bufferData, bufferData, List.getD_eq_getElem _ _ hi, List.getD_eq_getElem _ _ hi]

theorem writeRecs_append (attrList attrList' : List ReportRec) (behind : Nat → UInt8) :
    writeRecs behind (attrList ++ attrList') =
      writeRecs (bufferData attrList' behind) attrList ++ writeRecs behind attrList' := by
  induction attrList with
  | nil => rfl
  | cons rec attrList ih =>
      have hdata := bufferData_append (rec :: attrList) attrList' behind
      rw [List.cons_append] at hdata
      rw [List.cons_append, writeRecs, writeRecs, ih, hdata, List.cons_append]

/-- How many bytes the application reads through the pointer of a record. -/
def bytesRead (clusterId attrID : UInt16) : Nat :=
  if clusterId = ZCL_CLUSTER_GEN_ON_OFF then
    if attrID = ZCL_ATTRID_START_UP_ONOFF then 1 else 0
  else if clusterId = ZCL_CLUSTER_GEN_ON_OFF_SWITCH_CONFIG then
    if attrID ∈ [CUSTOM_ATTRID_SWITCH_TYPE, ZCL_ATTRID_SWITCH_ACTION, CUSTOM_ATTRID_DECOUPLED] then
      1
    else 0
  else if clusterId = ZCL_CLUSTER_GEN_LEVEL_CONTROL then
    if attrID ∈ [ZCL_ATTRID_LEVEL_DEFAULT_MOVE_RATE, ZCL_ATTRID_LEVEL_MIN_LEVEL,
        ZCL_ATTRID_LEVEL_MAX_LEVEL] then 1
    else if attrID = ZCL_ATTRID_LEVEL_ON_OFF_TRANSITION_TIME then 2
    else 0
  else 0

/-- How many bytes are copied to an attribute. -/
def bytesStored : AttrData → Nat
  | .identifyTime | .presentValue | .onTime | .offWaitTime | .transitionTime => 2
  | .const => 0
  | _ => 1

theorem buildU16_congr {data data' : Nat → UInt8} (hsame : ∀ i < 2, data i = data' i) :
    buildU16 data = buildU16 data' := by
  rw [buildU16, buildU16, hsame 0 (by decide), hsame 1 (by decide)]

theorem settingOf_congr {clusterId : UInt16} {rec rec' : WriteRec} (hid : rec.attrID = rec'.attrID)
    (hsame : ∀ i < bytesRead clusterId rec.attrID, rec.attrData i = rec'.attrData i) :
    settingOf clusterId rec = settingOf clusterId rec' := by
  unfold settingOf
  unfold bytesRead at hsame
  rw [← hid]
  split_ifs at hsame ⊢ with hcluster <;>
    first
    | rfl
    | rw [hsame 0 (by decide)]
    | rw [buildU16_congr hsame]
    | simp_all

theorem store_congr (attrs : Attrs) {data : AttrData} {val val' : Nat → UInt8}
    (hsame : ∀ i < bytesStored data, val i = val' i) :
    attrs.store data val = attrs.store data val' := by
  cases data <;>
    first
    | rfl
    | simp only [Attrs.store, buildU16_congr hsame]
    | simp only [Attrs.store, hsame 0 (by decide)]

/-- An attribute that can be written has a type of fixed size, with the bytes that are copied. -/
theorem bytesStored_le {attr : AttrInfo} (hattr : attr ∈ appClusterList1.flatMap Prod.snd)
    (hwrite : attr.write = true) :
    attr.type ∉ [0x44, 0x43, 0x42, 0x41, 0x4c] ∧
      bytesStored attr.data ≤ zclGetDataTypeLen attr.type := by
  have htable : ∀ attr ∈ appClusterList1.flatMap Prod.snd, attr.write = true →
      attr.type ∉ [0x44, 0x43, 0x42, 0x41, 0x4c] ∧
        bytesStored attr.data ≤ zclGetDataTypeLen attr.type := by
    decide
  exact htable attr hattr hwrite

/-- Two records that come to the same. -/
structure SameRec (endpoint : UInt8) (clusterId : UInt16) (rec rec' : WriteRec) : Prop where
  written : ∀ attrs, (zclAttrWrite attrs endpoint clusterId rec true).2 =
    (zclAttrWrite attrs endpoint clusterId rec' true).2
  setting : endpoint = APP_ENDPOINT1 → settingOf clusterId rec = settingOf clusterId rec'

theorem zclWriteHandler_congr {endpoint : UInt8} {clusterId : UInt16}
    {attrList attrList' : List WriteRec}
    (hsame : List.Forall₂ (SameRec endpoint clusterId) attrList attrList') (attrs : Attrs) :
    zclWriteHandler attrs endpoint clusterId attrList =
      zclWriteHandler attrs endpoint clusterId attrList' := by
  unfold zclWriteHandler
  induction hsame generalizing attrs with
  | nil => rfl
  | cons hrec _ ih => rw [List.foldl_cons, List.foldl_cons, hrec.written, ih]

theorem settingsOf_congr {clusterId : UInt16} {attrList attrList' : List WriteRec}
    (hsame : List.Forall₂ (SameRec APP_ENDPOINT1 clusterId) attrList attrList') :
    settingsOf clusterId attrList = settingsOf clusterId attrList' := by
  unfold settingsOf
  induction hsame with
  | nil => rfl
  | cons hrec _ ih => rw [List.filterMap_cons, List.filterMap_cons, hrec.setting rfl, ih]

/-- Frames whose records come to the same do the same. -/
theorem writeCommand_congr (d : Device) {endpoint : UInt8} {clusterId : UInt16}
    {attrList attrList' : List WriteRec}
    (hsame : List.Forall₂ (SameRec endpoint clusterId) attrList attrList') :
    writeCommand d endpoint clusterId attrList = writeCommand d endpoint clusterId attrList' := by
  rw [writeCommand, writeCommand, zclWriteHandler_congr hsame]
  by_cases hendpoint : endpoint = APP_ENDPOINT1
  · subst hendpoint
    rw [appZclWriteReqCmd_eq, appZclWriteReqCmd_eq, settingsOf_congr hsame]
  · rw [appZclWriteReqCmd, appZclWriteReqCmd, if_neg hendpoint, if_neg hendpoint]

/-- What a record writes only depends on its own bytes. -/
theorem zclAttrWrite_own {rec : ReportRec} (hwhole : WholeValue rec) (endpoint : UInt8)
    (clusterId : UInt16) {data data' : Nat → UInt8}
    (hdata : ∀ i < rec.attrData.length, data i = data' i)
    (hown : ∀ i < rec.attrData.length, data i = rec.attrData.getD i 0) (attrs : Attrs) :
    (zclAttrWrite attrs endpoint clusterId ⟨rec.attrID, rec.dataType, data⟩ true).2 =
      (zclAttrWrite attrs endpoint clusterId ⟨rec.attrID, rec.dataType, data'⟩ true).2 := by
  rw [zclAttrWrite_eq, zclAttrWrite_eq, writtenTo, writtenTo]
  dsimp only
  cases hfind : zclFindAttribute endpoint clusterId rec.attrID with
  | none => rfl
  | some attr =>
      dsimp only
      split
      · rename_i hattr
        rcases bytesStored_le (mem_tables_of_find hfind) hattr.2 with ⟨htype, hstored⟩
        have hsize := hwhole data hown
        simp only [List.mem_cons, List.not_mem_nil, or_false, not_or] at htype
        rw [← hattr.1, zclGetAttrSize, if_neg (by tauto), if_neg (by tauto), if_neg (by tauto)]
          at hsize
        apply store_congr
        intro i hi
        exact hdata i (by omega)
      · rfl

/-! ## Frames that are whole -/

/-- All that the application reads of the records lies inside their values. -/
def ReadsInside (clusterId : UInt16) : List ReportRec → Prop
  | [] => True
  | rec :: attrList =>
      bytesRead clusterId rec.attrID ≤ (values (rec :: attrList)).length ∧
        ReadsInside clusterId attrList

instance decidableReadsInside (clusterId : UInt16) : DecidablePred (ReadsInside clusterId)
  | [] => inferInstanceAs (Decidable True)
  | rec :: attrList =>
      have := decidableReadsInside clusterId attrList
      inferInstanceAs (Decidable (bytesRead clusterId rec.attrID ≤ _ ∧
        ReadsInside clusterId attrList))

theorem ReadsInside.of_append {clusterId : UInt16} {attrList attrList' : List ReportRec}
    (h : ReadsInside clusterId (attrList ++ attrList')) : ReadsInside clusterId attrList' := by
  induction attrList with
  | nil => exact h
  | cons rec attrList ih => exact ih h.2

theorem bufferData_own {rec : ReportRec} {attrList : List ReportRec} {behind : Nat → UInt8}
    {i : Nat} (hi : i < rec.attrData.length) :
    bufferData (rec :: attrList) behind i = rec.attrData.getD i 0 := by
  have hvalues : values (rec :: attrList) = rec.attrData ++ values attrList := List.flatMap_cons
  rw [bufferData, hvalues, List.getD_append _ _ _ _ hi, List.getD_eq_getElem _ _ hi,
    List.getD_eq_getElem _ _ hi]

/-- Then the records come to the same, whatever lies behind their values. -/
theorem sameRecs_writeRecs {endpoint : UInt8} {clusterId : UInt16} {attrList : List ReportRec}
    (behind behind' : Nat → UInt8) (hwhole : ∀ rec ∈ attrList, WholeValue rec)
    (hinside : endpoint = APP_ENDPOINT1 → ReadsInside clusterId attrList) :
    List.Forall₂ (SameRec endpoint clusterId) (writeRecs behind attrList)
      (writeRecs behind' attrList) := by
  induction attrList with
  | nil => exact List.Forall₂.nil
  | cons rec attrList ih =>
      refine List.Forall₂.cons ⟨fun attrs => ?_, fun hendpoint => ?_⟩
        (ih (fun rec' hrec => hwhole rec' (List.mem_cons_of_mem _ hrec))
          fun hendpoint => (hinside hendpoint).2)
      · refine zclAttrWrite_own (hwhole rec List.mem_cons_self) endpoint clusterId
          (fun i hi => ?_) (fun i hi => bufferData_own hi) attrs
        rw [bufferData_own hi, bufferData_own hi]
      · refine settingOf_congr rfl fun i hi => ?_
        exact bufferData_inside (Nat.lt_of_lt_of_le hi (hinside hendpoint).1) behind behind'

end Firmware
