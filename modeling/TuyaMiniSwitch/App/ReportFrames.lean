import TuyaMiniSwitch.App.ReportDevice
import TuyaMiniSwitch.App.ZclFrames

/-!
# Application - The frames of the reports

What {lit}`reportAttrs` hands to {lit}`zcl_reportAttrs` reaches the other side.

Main results:

- Theorem {lit}`reports_received`: every report of the device is received as it was sent.
-/

namespace Reporting

open NorFlash ZclFrames Firmware EvBuffer

/-- The record of an attribute, as {lit}`reportAttrs` fills it. -/
def State.writeRec (s : State) (attr : AttrInfo) (entry : ReportCfgInfo) : WriteRec where
  attrID := attr.id
  dataType := attr.type
  attrData := s.dataOf entry

theorem received_writeRec (s : State) (attr : AttrInfo) (entry : ReportCfgInfo) :
    received (s.writeRec attr entry) = s.record attr entry := by
  have hvalue : attrValue (s.writeRec attr entry) = (s.record attr entry).attrData := by
    rw [attrValue, readBytes]
    exact List.map_congr_left fun i _ => congrArg (s.dataOf entry) (Nat.zero_add i)
  rw [received, hvalue]
  rfl

/-- The types of values that may be longer than 256 bytes. -/
def longTypes : List UInt8 := [0x44, 0x43, 0x4c]

/-- No attribute of the device is of one of these types. -/
theorem deviceTable_type {endpoint : UInt8} {clusterId attrID : UInt16} {attr : AttrInfo}
    (hfind : deviceTable.find endpoint clusterId attrID = some attr) :
    attr.type ∉ longTypes := by
  have htypes : ∀ cluster ∈ appClusterList1, ∀ attr ∈ cluster.2,
      attr.type ∉ longTypes := by decide
  obtain ⟨found, hfound, rfl⟩ := Option.map_eq_some_iff.mp hfind
  rw [zclFindAttribute] at hfound
  split at hfound
  · obtain ⟨attrTable, htable, hattr⟩ := Option.bind_eq_some_iff.mp hfound
    obtain ⟨cluster, hcluster, rfl⟩ := Option.map_eq_some_iff.mp htable
    exact htypes cluster (List.mem_of_find?_eq_some hcluster) found
      (List.mem_of_find?_eq_some hattr)
  · cases hfound

theorem zclGetAttrSize_le {dataType : UInt8} (htype : dataType ∉ longTypes)
    (data : Nat → UInt8) : zclGetAttrSize dataType data ≤ 256 := by
  simp only [longTypes, List.mem_cons, List.not_mem_nil, or_false, not_or] at htype
  obtain ⟨hlong, hlong', hstruct⟩ := htype
  have hdata := (data 0).toNat_lt
  have hlen := zclGetDataTypeLen_le dataType
  rw [zclGetAttrSize, if_neg (by rintro (h | h); exacts [hlong h, hlong' h])]
  split_ifs <;> omega

/-- The records of the entries of a group that are due. -/
def State.writeRecs (s : State) (group : List Index) : List WriteRec :=
  group.flatMap fun i =>
    (s.dueAttr deviceTable i).toList.map fun attr => s.writeRec attr (s.entry i)

theorem received_writeRecs (s : State) (group : List Index) :
    (s.writeRecs group).map received = group.flatMap (recordAt deviceTable s) := by
  rw [State.writeRecs, List.map_flatMap]
  congr 1
  funext i
  rw [recordAt, List.map_map]
  exact List.map_congr_left fun attr _ => received_writeRec s attr (s.entry i)

theorem writeRecs_type {s : State} {group : List Index} {rec : WriteRec}
    (hrec : rec ∈ s.writeRecs group) : rec.dataType ∉ longTypes := by
  obtain ⟨i, -, hattr⟩ := List.mem_flatMap.mp hrec
  obtain ⟨attr, hdue, rfl⟩ := List.mem_map.mp hattr
  have hfind : s.dueAttr deviceTable i = some attr := Option.mem_toList.mp hdue
  rw [State.dueAttr] at hfind
  split at hfind
  · exact deviceTable_type hfind
  · cases hfind

theorem length_writeRecs_le (s : State) (group : List Index) :
    (s.writeRecs group).length ≤ group.length := by
  induction group with
  | nil => exact Nat.le_refl 0
  | cons i group ih =>
      have hone : ((s.dueAttr deviceTable i).toList.map
          fun attr => s.writeRec attr (s.entry i)).length ≤ 1 := by
        rw [List.length_map]
        exact Option.length_toList_le
      rw [State.writeRecs, List.flatMap_cons, List.length_append, List.length_cons, Nat.add_comm]
      exact Nat.add_le_add ih hone

theorem attrBufLen_writeRecs (recs : List WriteRec)
    (htype : ∀ rec ∈ recs, rec.dataType ∉ longTypes) :
    attrBufLen (recs.map received) ≤ 1 + recs.length * 263 := by
  rw [attrBufLen_received]
  induction recs with
  | nil => exact Nat.le_refl 1
  | cons rec recs ih =>
      have hsize := zclGetAttrSize_le (htype rec List.mem_cons_self) rec.attrData
      have hrest := ih fun rec' hrec => htype rec' (List.mem_cons_of_mem _ hrec)
      rw [List.map_cons, List.sum_cons, length_attrValue, List.length_cons]
      omega

/-- Every report that a call of {lit}`reportAttrs` sends is received as it was sent if the receiver
gets a buffer for it, whatever it has in its memory behind the frame. -/
theorem reports_received (s : State) :
    ∃ new, (reportAttrs deviceTable s).sent = s.sent ++ new ∧
      ∀ cmd ∈ new, ∃ pReportAttrs : List WriteRec, pReportAttrs.map received = cmd.attrList ∧
        ∀ availBufNum m, Stored m 0 (zclReportAttrs pReportAttrs).buf →
          zclParseInReportCmd availBufNum m (zclReportAttrs pReportAttrs).len =
            (evBufAllocate availBufNum (attrBufLen cmd.attrList)).map fun availBufNum =>
              { bufLen := attrBufLen cmd.attrList
                availBufNum := availBufNum
                attrList := cmd.attrList } := by
  obtain ⟨groups, hsends⟩ := reportAttrs_sends deviceTable s
  refine ⟨groups.flatMap (commandOf deviceTable s), hsends.sent, fun cmd hcmd => ?_⟩
  obtain ⟨group, hgroup, hone⟩ := List.mem_flatMap.mp hcmd
  obtain ⟨i, -, rfl⟩ := List.mem_map.mp hone
  have hrecords := received_writeRecs s group
  have hnum : (s.writeRecs group).length ≤ 2 :=
    Nat.le_trans (length_writeRecs_le s group) (hsends.size group hgroup).2
  have htypes : ∀ rec ∈ s.writeRecs group, rec.dataType ∉ longTypes :=
    fun rec hrec => writeRecs_type hrec
  have hbytes := attrBufLen_writeRecs (s.writeRecs group) htypes
  have hsized : ∀ rec ∈ s.writeRecs group, Sized rec.dataType rec.attrData := by
    intro rec hrec hlong
    have htype := htypes rec hrec
    simp only [longTypes, List.mem_cons, List.not_mem_nil, or_false, not_or] at htype
    exact absurd hlong (not_or.mpr ⟨htype.1, htype.2.1⟩)
  refine ⟨s.writeRecs group, hrecords, fun availBufNum m hstored => ?_⟩
  have hparsed := parseAttrRecs_payload availBufNum (Nat.lt_of_le_of_lt hnum (by decide))
    (by omega) hsized hstored
  rw [hrecords] at hparsed
  exact hparsed

end Reporting
