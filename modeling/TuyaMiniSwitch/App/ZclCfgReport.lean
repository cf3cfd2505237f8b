import TuyaMiniSwitch.App.ZclFrames

/-!
# Application - The command that configures reporting

What {lit}`zcl_configReport` sends and {lit}`zcl_parseInCfgReportCmd` takes out of it.  The first
pass of the parser skips a byte behind a record for a discrete attribute that is not there.

The length of the records is kept in a byte, so the values of more than eighteen records would lie
over the records.

Main results:

- Theorem {lit}`cfg_report_round_trip`: up to eighteen records are received as they were sent, where
  only the last one may be for a discrete attribute, and the buffer has no room for more.
- Theorem {lit}`discrete_pair_received`: of two records for discrete attributes, three are received.
-/

namespace ZclFrames

open NorFlash RecordFrames Reporting EvBuffer

def ZCL_SEND_ATTR_REPORTS : UInt8 := 0

/-! ## The code -/

/-- {lit}`zclCfgReportRec_t` with the field for reports that are received. -/
structure CfgReportReq extends CfgReportRec where
  timeoutPeriod : UInt16

/-- {lit}`zclCfgReportRec_t` as the parser fills it, over zeros.  The reportable change is what lies
behind the pointer, and nothing where the pointer is null. -/
structure CfgReportIn where
  direction : UInt8
  attrID : UInt16
  dataType : UInt8 := 0
  minReportInt : UInt16 := 0
  maxReportInt : UInt16 := 0
  timeoutPeriod : UInt16 := 0
  reportableChange : List UInt8 := []
  deriving Repr, DecidableEq

/-- The reportable change of a record, which only an analog attribute has. -/
def changeBytes (rec : CfgReportReq) : List UInt8 :=
  if zclAnalogDataType rec.dataType then
    readBytes rec.reportableChange 0 (zclGetAttrSize rec.dataType rec.reportableChange)
  else []

def cfgRecLen (rec : CfgReportReq) : Nat :=
  1 + 2 +
    if rec.direction = ZCL_SEND_ATTR_REPORTS then
      1 + 2 + 2 + if zclAnalogDataType rec.dataType then
        zclGetAttrSize rec.dataType rec.reportableChange else 0
    else 2

def cfgRecBytes (rec : CfgReportReq) : List UInt8 :=
  rec.direction :: (u16Bytes rec.attrID ++
    if rec.direction = ZCL_SEND_ATTR_REPORTS then
      rec.dataType :: (u16Bytes rec.minReportInt ++
        (u16Bytes rec.maxReportInt ++ changeBytes rec))
    else u16Bytes rec.timeoutPeriod)

/-- {lit}`zcl_configReport`. -/
def zclConfigReport (cfgReportCmd : List CfgReportReq) : Payload where
  len := countLen cfgRecLen cfgReportCmd
  buf := cfgReportCmd.flatMap cfgRecBytes

/-- The length that the parser takes for the reportable change. -/
def reportChangeLen (dataType : UInt8) : Nat :=
  if zclAnalogDataType dataType then zclGetDataTypeLen dataType else 0

/-- Where the first pass of the parser looks for the next record. -/
def nextCfgRec (m : Mem) (pos : Nat) : Nat :=
  if m pos = ZCL_SEND_ATTR_REPORTS then
    if zclAnalogDataType (m (pos + 3)) then pos + 8 + zclGetDataTypeLen (m (pos + 3))
    else pos + 8 + 1
  else pos + 5

/-- What the first pass adds to the length of the data. -/
def changeLenAt (m : Mem) (pos : Nat) : Nat :=
  if m pos = ZCL_SEND_ATTR_REPORTS then reportChangeLen (m (pos + 3)) else 0

/-- One record, as the second pass reads it.  {lit}`zcl_analogDataBuild` copies the reportable
change on a machine that has the low byte first. -/
def readCfgRec (m : Mem) (pos : Nat) : CfgReportIn × Nat :=
  if m pos = ZCL_SEND_ATTR_REPORTS then
    let dataType := m (pos + 3)
    ({ direction := m pos
       attrID := u16At m (pos + 1)
       dataType := dataType
       minReportInt := u16At m (pos + 4)
       maxReportInt := u16At m (pos + 6)
       reportableChange := readBytes m (pos + 8) (reportChangeLen dataType) },
      pos + 8 + reportChangeLen dataType)
  else
    ({ direction := m pos
       attrID := u16At m (pos + 1)
       timeoutPeriod := u16At m (pos + 3) }, pos + 5)

/-- {lit}`zcl_parseInCfgReportCmd`.  The length of the records, behind which the reportable changes
are put, is counted in 8 bits.  The list is what is put into the buffer, record by record; it stays
there if the buffer has room for it. -/
def zclParseInCfgReportCmd (availBufNum : List Nat) (m : Mem) (dataLen : Nat) :
    Option (Parsed CfgReportIn) :=
  let found := visited (nextCfgRec m) dataLen dataLen 0
  let numAttr := found.length % 256
  let bufLen := ((1 + numAttr * 14) % 256 + countLen (changeLenAt m) found) % 65536
  (evBufAllocate availBufNum bufLen).map fun availBufNum =>
    { bufLen := bufLen
      availBufNum := availBufNum
      attrList := readMany (readCfgRec m) numAttr 0 }

/-- The memory that records need: one byte, fourteen for each record, and the reportable changes. -/
def cfgBufLen (attrList : List CfgReportIn) : Nat :=
  1 + attrList.length * 14 + (attrList.map fun rec => rec.reportableChange.length).sum

/-- A buffer has room for the records that are put into it, with the reportable changes behind
them. -/
def HasRoom (p : Parsed CfgReportIn) : Prop := cfgBufLen p.attrList ≤ p.bufLen

/-- The first pass of the parser comes to the end of every frame. -/
theorem visited_cfg_fuel (m : Mem) {dataLen fuel : Nat} (hfuel : dataLen ≤ fuel) :
    visited (nextCfgRec m) dataLen fuel 0 = visited (nextCfgRec m) dataLen dataLen 0 := by
  have hmove : ∀ pos, pos < nextCfgRec m pos := by
    intro pos
    rw [nextCfgRec]
    split_ifs <;> omega
  exact visited_fuel hmove hfuel (Nat.le_refl dataLen)

/-! ## One record -/

/-- A record as it is received. -/
def configured (rec : CfgReportReq) : CfgReportIn :=
  if rec.direction = ZCL_SEND_ATTR_REPORTS then
    { direction := rec.direction
      attrID := rec.attrID
      dataType := rec.dataType
      minReportInt := rec.minReportInt
      maxReportInt := rec.maxReportInt
      reportableChange := changeBytes rec }
  else
    { direction := rec.direction
      attrID := rec.attrID
      timeoutPeriod := rec.timeoutPeriod }

theorem zclGetAttrSize_analog {dataType : UInt8} (hanalog : zclAnalogDataType dataType = true)
    (data : Nat → UInt8) : zclGetAttrSize dataType data = zclGetDataTypeLen dataType := by
  have hlong : ¬ (dataType = 0x44 ∨ dataType = 0x43) := by
    rintro (rfl | rfl) <;> exact absurd hanalog (by decide)
  have hshort : ¬ (dataType = 0x42 ∨ dataType = 0x41) := by
    rintro (rfl | rfl) <;> exact absurd hanalog (by decide)
  have hstruct : dataType ≠ 0x4c := by
    rintro rfl
    exact absurd hanalog (by decide)
  rw [zclGetAttrSize, if_neg hlong, if_neg hshort, if_neg hstruct]

theorem length_changeBytes (rec : CfgReportReq) :
    (changeBytes rec).length = reportChangeLen rec.dataType := by
  rw [changeBytes, reportChangeLen]
  split_ifs with hanalog
  · rw [length_readBytes, zclGetAttrSize_analog hanalog]
  · rfl

theorem cfgRecLen_send {rec : CfgReportReq} (hsend : rec.direction = ZCL_SEND_ATTR_REPORTS) :
    cfgRecLen rec = 8 + reportChangeLen rec.dataType := by
  rw [cfgRecLen, if_pos hsend, reportChangeLen]
  split_ifs with hanalog
  · rw [zclGetAttrSize_analog hanalog]
    omega
  · rfl

theorem length_cfgRecBytes (rec : CfgReportReq) : (cfgRecBytes rec).length = cfgRecLen rec := by
  have hchange := length_changeBytes rec
  by_cases hsend : rec.direction = ZCL_SEND_ATTR_REPORTS
  · rw [cfgRecLen_send hsend, cfgRecBytes, if_pos hsend]
    simp only [u16Bytes, List.length_cons, List.length_append, List.length_nil, hchange]
    omega
  · rw [cfgRecLen, if_neg hsend, cfgRecBytes, if_neg hsend]
    rfl

theorem cfgRecBytes_ne_nil (rec : CfgReportReq) : cfgRecBytes rec ≠ [] := List.cons_ne_nil _ _

theorem readCfgRec_stored {m : Mem} {pos : Nat} {rec : CfgReportReq}
    (h : Stored m pos (cfgRecBytes rec)) :
    readCfgRec m pos = (configured rec, pos + (cfgRecBytes rec).length) := by
  obtain ⟨hdirection, htail⟩ := stored_cons h
  obtain ⟨hid, hrest⟩ := stored_append.mp htail
  have hrest : Stored m (pos + 3) _ := hrest
  rw [readCfgRec, length_cfgRecBytes, configured, hdirection, u16At_stored hid]
  by_cases hsend : rec.direction = ZCL_SEND_ATTR_REPORTS
  · rw [if_pos hsend] at hrest
    obtain ⟨htype, hints⟩ := stored_cons hrest
    obtain ⟨hmin, hmaxs⟩ := stored_append.mp hints
    obtain ⟨hmax, hchange⟩ := stored_append.mp hmaxs
    have htype : m (pos + 3) = rec.dataType := htype
    have hmin : Stored m (pos + 4) (u16Bytes rec.minReportInt) := hmin
    have hmax : Stored m (pos + 6) (u16Bytes rec.maxReportInt) := hmax
    have hchange : readBytes m (pos + 8) (changeBytes rec).length = changeBytes rec := hchange
    rw [length_changeBytes] at hchange
    rw [if_pos hsend, if_pos hsend, cfgRecLen_send hsend, htype, u16At_stored hmin,
      u16At_stored hmax]
    dsimp only
    rw [hchange, Nat.add_assoc]
  · rw [if_neg hsend] at hrest
    rw [if_neg hsend, if_neg hsend, cfgRecLen, if_neg hsend, u16At_stored hrest]

/-! ## Whole commands -/

/-- The first pass goes where the second one goes, except behind a record for a discrete
attribute. -/
theorem nextCfgRec_eq {m : Mem} {pos pos' : Nat} {rec : CfgReportIn}
    (hread : readCfgRec m pos = (rec, pos'))
    (hanalog : rec.direction = ZCL_SEND_ATTR_REPORTS → zclAnalogDataType rec.dataType = true) :
    nextCfgRec m pos = pos' := by
  rw [readCfgRec] at hread
  rw [nextCfgRec]
  by_cases hsend : m pos = ZCL_SEND_ATTR_REPORTS
  · rw [if_pos hsend] at hread ⊢
    cases hread
    have htype := hanalog hsend
    dsimp only at htype
    rw [if_pos htype, reportChangeLen, if_pos htype]
  · rw [if_neg hsend] at hread ⊢
    cases hread
    rfl

theorem readCfgRec_le (m : Mem) (pos : Nat) : (readCfgRec m pos).2 ≤ nextCfgRec m pos := by
  rw [readCfgRec, nextCfgRec]
  split_ifs with hsend hanalog
  · change pos + 8 + reportChangeLen (m (pos + 3)) ≤ _
    rw [reportChangeLen, if_pos hanalog]
  · change pos + 8 + reportChangeLen (m (pos + 3)) ≤ _
    rw [reportChangeLen, if_neg hanalog]
    exact Nat.le_succ _
  · exact Nat.le_refl _

theorem changeLenAt_eq {m : Mem} {pos pos' : Nat} {rec : CfgReportIn}
    (hread : readCfgRec m pos = (rec, pos')) :
    changeLenAt m pos = rec.reportableChange.length := by
  rw [readCfgRec] at hread
  rw [changeLenAt]
  split_ifs at hread ⊢ with hsend
  · cases hread
    exact (length_readBytes _ _ _).symm
  · cases hread
    rfl

theorem zclConfigReport_len {cfgReportCmd : List CfgReportReq}
    (hlen : (zclConfigReport cfgReportCmd).buf.length < 65536) :
    (zclConfigReport cfgReportCmd).len = (zclConfigReport cfgReportCmd).buf.length :=
  countLen_flatMap length_cfgRecBytes hlen

theorem laid_zclConfigReport {cfgReportCmd : List CfgReportReq} {m : Mem}
    (h : Stored m 0 (zclConfigReport cfgReportCmd).buf) :
    Laid (readCfgRec m) 0 (cfgReportCmd.map configured)
      (zclConfigReport cfgReportCmd).buf.length := by
  have hall := laid_of_stored (readCfgRec m) configured
    (fun rec _ pos hstored => readCfgRec_stored hstored) cfgRecBytes_ne_nil h
  rwa [Nat.zero_add] at hall

theorem configured_change_le (rec : CfgReportReq) :
    (configured rec).reportableChange.length ≤ cfgRecLen rec := by
  rw [configured]
  by_cases hsend : rec.direction = ZCL_SEND_ATTR_REPORTS
  · rw [if_pos hsend, cfgRecLen_send hsend, length_changeBytes]
    exact Nat.le_add_left _ _
  · rw [if_neg hsend]
    exact Nat.zero_le _

/-- No record is longer than 24 bytes. -/
theorem length_cfgRecBytes_le (cfgReportCmd : List CfgReportReq) :
    (cfgReportCmd.flatMap cfgRecBytes).length ≤ cfgReportCmd.length * 24 := by
  induction cfgReportCmd with
  | nil => exact Nat.le_refl 0
  | cons rec recs ih =>
      have hrec : cfgRecLen rec ≤ 24 := by
        by_cases hsend : rec.direction = ZCL_SEND_ATTR_REPORTS
        · have hsize := zclGetDataTypeLen_le rec.dataType
          rw [cfgRecLen_send hsend, reportChangeLen]
          split_ifs <;> omega
        · rw [cfgRecLen, if_neg hsend]
          decide
      rw [List.flatMap_cons, List.length_append, length_cfgRecBytes, List.length_cons]
      omega

theorem sum_changes_le (cfgReportCmd : List CfgReportReq) :
    ((cfgReportCmd.map configured).map fun rec => rec.reportableChange.length).sum ≤
      (zclConfigReport cfgReportCmd).buf.length := by
  change _ ≤ (cfgReportCmd.flatMap cfgRecBytes).length
  induction cfgReportCmd with
  | nil => exact Nat.le_refl 0
  | cons rec recs ih =>
      have hrec := configured_change_le rec
      rw [List.map_cons, List.map_cons, List.sum_cons, List.flatMap_cons, List.length_append,
        length_cfgRecBytes]
      exact Nat.add_le_add hrec ih

theorem configured_analog {rec : CfgReportReq}
    (hanalog : rec.direction = ZCL_SEND_ATTR_REPORTS → zclAnalogDataType rec.dataType = true) :
    (configured rec).direction = ZCL_SEND_ATTR_REPORTS →
      zclAnalogDataType (configured rec).dataType = true := by
  intro hdirection
  rw [configured] at hdirection ⊢
  by_cases hsend : rec.direction = ZCL_SEND_ATTR_REPORTS
  · rw [if_pos hsend]
    exact hanalog hsend
  · rw [if_neg hsend] at hdirection
    exact absurd hdirection hsend

/-- What the parser puts into its buffer, for records of which only the last one may be for a
discrete attribute. -/
theorem zclParseInCfgReportCmd_sent {cfgReportCmd : List CfgReportReq} {m : Mem}
    (availBufNum : List Nat) (hnum : cfgReportCmd.length ≤ 255)
    (hlen : (cfgReportCmd.flatMap cfgRecBytes).length ≤ 65280)
    (hfront : ∀ rec ∈ cfgReportCmd.dropLast, rec.direction = ZCL_SEND_ATTR_REPORTS →
      zclAnalogDataType rec.dataType = true)
    (h : Stored m 0 (zclConfigReport cfgReportCmd).buf) :
    ∃ bufLen, bufLen = (1 + cfgReportCmd.length * 14) % 256 +
        ((cfgReportCmd.map configured).map fun rec => rec.reportableChange.length).sum ∧
      zclParseInCfgReportCmd availBufNum m (zclConfigReport cfgReportCmd).len =
        (evBufAllocate availBufNum bufLen).map fun availBufNum =>
          { bufLen := bufLen
            availBufNum := availBufNum
            attrList := cfgReportCmd.map configured } := by
  have hlaid := laid_zclConfigReport h
  have hanalog : ∀ rec ∈ (cfgReportCmd.map configured).dropLast,
      rec.direction = ZCL_SEND_ATTR_REPORTS → zclAnalogDataType rec.dataType = true := by
    rw [← List.map_dropLast]
    intro rec hrec
    obtain ⟨sent, hsent, rfl⟩ := List.mem_map.mp hrec
    exact configured_analog (hfront sent hsent)
  have hfound := hlaid.length_visited (zclConfigReport cfgReportCmd).buf.length nextCfgRec_eq
    (readCfgRec_le m) hanalog (Nat.sub_le _ _)
  have hchanges := hlaid.visited_map (zclConfigReport cfgReportCmd).buf.length nextCfgRec_eq
    (readCfgRec_le m) hanalog changeLenAt_eq (Nat.sub_le _ _)
  have hmany := hlaid.readMany_eq
  have hsum := sum_changes_le cfgReportCmd
  have hbytes : (zclConfigReport cfgReportCmd).buf.length ≤ 65280 := hlen
  rw [List.length_map] at hfound hmany
  refine ⟨_, rfl, ?_⟩
  rw [zclConfigReport_len (by omega), zclParseInCfgReportCmd, hfound,
    Nat.mod_eq_of_lt (Nat.lt_succ_of_le hnum), hmany, countLen_eq (by rw [hchanges]; omega),
    hchanges, Nat.mod_eq_of_lt (by omega)]

/-- Of the records of a command that configures reporting only the last one may be for a discrete
attribute.  Then up to eighteen are received as they were sent if the parser gets a buffer for
them.  For more of them the buffer has no room: the reportable changes lie over the records. -/
theorem cfg_report_round_trip (cfgReportCmd : List CfgReportReq) (availBufNum : List Nat) (m : Mem)
    (hnum : cfgReportCmd.length ≤ 255)
    (hfront : ∀ rec ∈ cfgReportCmd.dropLast, rec.direction = ZCL_SEND_ATTR_REPORTS →
      zclAnalogDataType rec.dataType = true)
    (h : Stored m 0 (zclConfigReport cfgReportCmd).buf) :
    (cfgReportCmd.length ≤ 18 →
      zclParseInCfgReportCmd availBufNum m (zclConfigReport cfgReportCmd).len =
        (evBufAllocate availBufNum (cfgBufLen (cfgReportCmd.map configured))).map
          fun availBufNum =>
            { bufLen := cfgBufLen (cfgReportCmd.map configured)
              availBufNum := availBufNum
              attrList := cfgReportCmd.map configured }) ∧
    (18 < cfgReportCmd.length → ∀ p,
      zclParseInCfgReportCmd availBufNum m (zclConfigReport cfgReportCmd).len = some p →
        ¬ HasRoom p) := by
  have hlen := length_cfgRecBytes_le cfgReportCmd
  obtain ⟨bufLen, hbufLen, hparsed⟩ :=
    zclParseInCfgReportCmd_sent availBufNum hnum (by omega) hfront h
  refine ⟨fun hfew => ?_, fun hmany p hp => ?_⟩
  · have hneed : bufLen = cfgBufLen (cfgReportCmd.map configured) := by
      rw [hbufLen, cfgBufLen, List.length_map, Nat.mod_eq_of_lt (by omega)]
    rw [hparsed, hneed]
  · rw [hparsed, Option.map_eq_some_iff] at hp
    rcases hp with ⟨left, -, rfl⟩
    rw [HasRoom, cfgBufLen, List.length_map, hbufLen]
    dsimp only
    omega

/-- A command for an analog attribute and for a discrete one. -/
def configureTwo : List CfgReportReq :=
  [{ attrID := 0x0010, dataType := 0x21, minReportInt := 1, maxReportInt := 300,
     reportableChange := fun i => [5, 0].getD i 0, timeoutPeriod := 0 },
   { attrID := 0x0100, dataType := 0x10, minReportInt := 0, maxReportInt := 600,
     reportableChange := fun _ => 0, timeoutPeriod := 0 }]

theorem cfg_report_round_trip_two :
    (zclParseInCfgReportCmd initBufNum
        (fun i => (zclConfigReport configureTwo).buf.getD i 0xAA) 18).map Parsed.attrList =
      some [{ direction := 0, attrID := 0x0010, dataType := 0x21, minReportInt := 1,
              maxReportInt := 300, reportableChange := [5, 0] },
            { direction := 0, attrID := 0x0100, dataType := 0x10, maxReportInt := 600 }] :=
  congrArg (Option.map Parsed.attrList) (cfg_report_round_trip configureTwo initBufNum
    (fun i => (zclConfigReport configureTwo).buf.getD i 0xAA) (by decide) (by decide) rfl |>.1
    (by decide))

/-! ## Two discrete attributes -/

theorem cfgRecLen_discrete {rec : CfgReportReq} (hsend : rec.direction = ZCL_SEND_ATTR_REPORTS)
    (hdiscrete : zclAnalogDataType rec.dataType = false) : cfgRecLen rec = 8 := by
  rw [cfgRecLen_send hsend, reportChangeLen, hdiscrete]
  rfl

/-- Behind the first of two such records, the first pass begins at the second byte of the other
one, and takes the low byte of the attribute for a direction. -/
theorem visited_discrete_pair {m : Mem} (hdirection : m 0 = ZCL_SEND_ATTR_REPORTS)
    (hdiscrete : zclAnalogDataType (m 3) = false) :
    visited (nextCfgRec m) 16 16 0 = if m 9 = 0 then [0, 9] else [0, 9, 14] := by
  have hfirst : nextCfgRec m 0 = 9 := by
    rw [nextCfgRec, if_pos hdirection, Nat.zero_add, hdiscrete]
    rfl
  have hover : ∀ pos, 11 ≤ pos → 16 ≤ nextCfgRec m pos := by
    intro pos hpos
    rw [nextCfgRec]
    split_ifs <;> omega
  rw [visited, if_pos (by decide), hfirst, visited, if_pos (by decide)]
  by_cases hlow : m 9 = 0
  · have hsecond : 16 ≤ nextCfgRec m 9 := by
      have hsend : m 9 = ZCL_SEND_ATTR_REPORTS := hlow
      rw [nextCfgRec, if_pos hsend]
      split_ifs <;> omega
    rw [if_pos hlow, visited_of_ge hsecond]
  · have hsecond : nextCfgRec m 9 = 14 := by
      rw [nextCfgRec]
      exact if_neg hlow
    rw [if_neg hlow, hsecond, visited, if_pos (by decide), visited_of_ge (hover 14 (by decide))]

/-- Two records for discrete attributes are received with a third one, which lies behind the frame,
unless the low byte of the second attribute is zero. -/
theorem discrete_pair_received (rec rec' : CfgReportReq) (availBufNum : List Nat) (m : Mem)
    (hsend : rec.direction = ZCL_SEND_ATTR_REPORTS)
    (hsend' : rec'.direction = ZCL_SEND_ATTR_REPORTS)
    (hdiscrete : zclAnalogDataType rec.dataType = false)
    (hdiscrete' : zclAnalogDataType rec'.dataType = false)
    (h : Stored m 0 (zclConfigReport [rec, rec']).buf) :
    zclParseInCfgReportCmd availBufNum m (zclConfigReport [rec, rec']).len =
      if rec'.attrID.toUInt8 = 0 then
        (evBufAllocate availBufNum (29 + changeLenAt m 9)).map fun availBufNum =>
          { bufLen := 29 + changeLenAt m 9
            availBufNum := availBufNum
            attrList := [configured rec, configured rec'] }
      else
        (evBufAllocate availBufNum (43 + changeLenAt m 14)).map fun availBufNum =>
          { bufLen := 43 + changeLenAt m 14
            availBufNum := availBufNum
            attrList := [configured rec, configured rec', (readCfgRec m 16).1] } := by
  have hboth : Stored m 0 (cfgRecBytes rec ++ (cfgRecBytes rec' ++ [])) := h
  rw [List.append_nil, stored_append, length_cfgRecBytes, cfgRecLen_discrete hsend hdiscrete]
    at hboth
  obtain ⟨hfirst, hsecond⟩ := hboth
  have hread := readCfgRec_stored hfirst
  have hread' := readCfgRec_stored hsecond
  rw [length_cfgRecBytes, cfgRecLen_discrete hsend hdiscrete] at hread
  rw [length_cfgRecBytes, cfgRecLen_discrete hsend' hdiscrete'] at hread'
  have hdirection : m 0 = ZCL_SEND_ATTR_REPORTS := (stored_cons hfirst).1.trans hsend
  have htype : m 3 = rec.dataType := by
    have hin := congrArg (fun found => found.1.dataType) hread
    rw [readCfgRec, if_pos hdirection, configured, if_pos hsend] at hin
    exact hin
  have hlow : m 9 = rec'.attrID.toUInt8 := (stored_cons (stored_cons hsecond).2).1
  have hlen : (zclConfigReport [rec, rec']).len = 16 := by
    change ((0 + cfgRecLen rec) % 65536 + cfgRecLen rec') % 65536 = 16
    rw [cfgRecLen_discrete hsend hdiscrete, cfgRecLen_discrete hsend' hdiscrete']
  have hfound := visited_discrete_pair hdirection (htype ▸ hdiscrete)
  rw [hlow] at hfound
  have hnone : changeLenAt m 0 = 0 := by
    rw [changeLenAt, if_pos hdirection, htype, reportChangeLen, hdiscrete]
    rfl
  have hsize : ∀ pos, changeLenAt m pos ≤ 16 := by
    intro pos
    have hle := zclGetDataTypeLen_le (m (pos + 3))
    rw [changeLenAt, reportChangeLen]
    split_ifs <;> omega
  rw [hlen, zclParseInCfgReportCmd, hfound]
  split_ifs
  · have hcount : countLen (changeLenAt m) [0, 9] = changeLenAt m 9 := by
      have hle := hsize 9
      rw [countLen_eq (by simp [hnone]; omega)]
      simp [hnone]
    have hle := hsize 9
    rw [hcount, Nat.mod_eq_of_lt (by simp; omega)]
    change (evBufAllocate availBufNum (29 + changeLenAt m 9)).map (fun availBufNum =>
      Parsed.mk (29 + changeLenAt m 9) availBufNum
        [(readCfgRec m 0).1, (readCfgRec m (readCfgRec m 0).2).1]) = _
    rw [hread, hread']
  · have hmiddle : changeLenAt m 9 = 0 := by
      rename_i hne
      rw [changeLenAt, hlow]
      exact if_neg hne
    have hcount : countLen (changeLenAt m) [0, 9, 14] = changeLenAt m 14 := by
      have hle := hsize 14
      rw [countLen_eq (by simp [hnone, hmiddle]; omega)]
      simp [hnone, hmiddle]
    have hle := hsize 14
    rw [hcount, Nat.mod_eq_of_lt (by simp; omega)]
    change (evBufAllocate availBufNum (43 + changeLenAt m 14)).map (fun availBufNum =>
      Parsed.mk (43 + changeLenAt m 14) availBufNum
        [(readCfgRec m 0).1, (readCfgRec m (readCfgRec m 0).2).1,
          (readCfgRec m (readCfgRec m (readCfgRec m 0).2).2).1]) = _
    rw [hread, hread']

/-- Reports of a truth value every five minutes at least. -/
def configureBool (attrID : UInt16) : CfgReportReq where
  attrID := attrID
  dataType := 0x10
  minReportInt := 0
  maxReportInt := 300
  reportableChange := fun _ => 0
  timeoutPeriod := 0

/-- The bytes behind the frame are taken for a third record. -/
theorem discrete_pair_received_third :
    (zclParseInCfgReportCmd initBufNum (fun i => (zclConfigReport [configureBool 0x0012,
      configureBool 0x0014]).buf.getD i 0xAA) 16).map Parsed.attrList =
        some [{ direction := 0, attrID := 0x0012, dataType := 0x10, maxReportInt := 300 },
          { direction := 0, attrID := 0x0014, dataType := 0x10, maxReportInt := 300 },
          { direction := 0xAA, attrID := 0xAAAA, timeoutPeriod := 0xAAAA }] :=
  congrArg (Option.map Parsed.attrList) ((discrete_pair_received (configureBool 0x0012)
    (configureBool 0x0014) initBufNum
    (fun i => (zclConfigReport [configureBool 0x0012, configureBool 0x0014]).buf.getD i 0xAA)
    rfl rfl rfl rfl rfl).trans rfl)

end ZclFrames
