import Mathlib.Data.List.Perm.Basic
import TuyaMiniSwitch.App.ReportTable

/-!
# Application - Sending the reports

The rounds of {lit}`reportAttrs`, which collects the entries that are due in commands of at most
two attributes, the callbacks of the timers, and the events that a run of the reporting code
is made of.

Main results:

- Theorem {lit}`reportAttrs_sends`: the commands of a call hold every entry that is due once, and
  no entry is due after it.
-/

namespace Reporting

variable (table : AttrTable)

/-! ## The code -/

/-- The flag {lit}`valid` of {lit}`reportAttrs`. -/
def ReportCfgInfo.valid (entry : ReportCfgInfo) : Bool :=
  (entry.maxIntCnt == 0 && entry.maxInterval != 0) || entry.minIntCnt == 0

/-- The attribute of an entry that is due. -/
def State.dueAttr (s : State) (i : Index) : Option AttrInfo :=
  if s.enabled (s.entry i) && (s.entry i).valid then table.attrOf (s.entry i) else none

/-- An entry that has just been reported. -/
def State.served (s : State) (attr : AttrInfo) (entry : ReportCfgInfo) : ReportCfgInfo :=
  { s.keep attr entry with
    minIntCnt := if entry.minInterval ≠ 0 then entry.minInterval else 0xFFFF
    maxIntCnt := if entry.maxInterval ≠ 0 then entry.maxInterval else 0xFFFF }

/-- The record of an entry in a report command. -/
def State.record (s : State) (attr : AttrInfo) (entry : ReportCfgInfo) : ReportRec where
  attrID := attr.id
  dataType := attr.type
  attrData := (List.range (zclGetAttrSize attr.type (s.dataOf entry))).map (s.dataOf entry)

/-- The local variables of {lit}`reportAttrs` with the state. -/
structure Round where
  s : State
  clusterID : UInt16 := 0xFFFF
  profileID : UInt16 := 0xFFFF
  endpoint : UInt8 := 0
  attr : List ReportRec := []
  again : Bool := false

/-- An entry is put into the command, which is then about its cluster. -/
def Round.serve (r : Round) (i : Index) (attr : AttrInfo) : Round :=
  let entry := r.s.entry i
  { r with
    clusterID := if r.clusterID = 0xFFFF then entry.clusterID else r.clusterID
    profileID := if r.clusterID = 0xFFFF then entry.profileID else r.profileID
    endpoint := if r.clusterID = 0xFFFF then entry.endPoint else r.endpoint
    attr := r.attr ++ [r.s.record attr entry]
    s := r.s.setEntry i (r.s.served attr entry) }

/-- The inner loop of {lit}`reportAttrs` over the entries that are left. -/
def reportRound : List Index → Round → Round
  | [], r => r
  | i :: is, r =>
      match r.s.dueAttr table i with
      | none => reportRound is r
      | some attr =>
          let entry := r.s.entry i
          if r.clusterID ≠ 0xFFFF ∧ (r.clusterID ≠ entry.clusterID ∨
              r.profileID ≠ entry.profileID ∨ r.endpoint ≠ entry.endPoint) then
            reportRound is { r with again := true }
          else
            let r := r.serve i attr
            if r.attr.length ≥ 2 then { r with again := true } else reportRound is r

/-- The command that a round has collected. -/
def Round.send (r : Round) : State :=
  if r.clusterID ≠ 0xFFFF then
    { r.s with
      sent := r.s.sent ++
        [{ time := r.s.now, profileId := r.profileID, clusterId := r.clusterID,
           endpoint := r.endpoint, attrList := r.attr }] }
  else r.s

/-- The outer loop's body: the state, and whether the loop goes round again. -/
def reportBody (s : State) : State × Bool :=
  let r := reportRound table (List.finRange ZCL_REPORTING_TABLE_NUM) { s }
  (r.send, r.again)

/-- The entries that are due. -/
def State.dueList (s : State) : List Index :=
  (List.finRange ZCL_REPORTING_TABLE_NUM).filter fun i => (s.dueAttr table i).isSome

/-! ## A round -/

/-- What a command is about: the profile, the cluster and the endpoint. -/
def ReportCfgInfo.group (entry : ReportCfgInfo) : UInt16 × UInt16 × UInt8 :=
  (entry.profileID, entry.clusterID, entry.endPoint)

/-- What the command of a round is about, once it holds an entry. -/
def Round.group (r : Round) : Option (UInt16 × UInt16 × UInt8) :=
  if r.clusterID = 0xFFFF then none else some (r.profileID, r.clusterID, r.endpoint)

/-- An entry is reported, if it is due. -/
def serveAt (s : State) (i : Index) : State :=
  match s.dueAttr table i with
  | some attr => s.setEntry i (s.served attr (s.entry i))
  | none => s

/-- The record of an entry that is due. -/
def recordAt (s : State) (i : Index) : List ReportRec :=
  (s.dueAttr table i).toList.map fun attr => s.record attr (s.entry i)

theorem dueAttr_setEntry_ne (s : State) {i j : Index} (hne : j ≠ i) (entry : ReportCfgInfo) :
    (s.setEntry i entry).dueAttr table j = s.dueAttr table j := by
  simp [State.dueAttr, State.enabled, setEntry_entry_ne s hne]

theorem serveAt_entry_ne (s : State) {i j : Index} (hne : j ≠ i) :
    (serveAt table s i).entry j = s.entry j := by
  unfold serveAt
  split
  · exact setEntry_entry_ne s hne _
  · rfl

theorem dueAttr_serveAt_ne (s : State) {i j : Index} (hne : j ≠ i) :
    (serveAt table s i).dueAttr table j = s.dueAttr table j := by
  unfold serveAt
  split
  · exact dueAttr_setEntry_ne table s hne _
  · rfl

theorem recordAt_serveAt_ne (s : State) {i j : Index} (hne : j ≠ i) :
    recordAt table (serveAt table s i) j = recordAt table s j := by
  simp only [recordAt, dueAttr_serveAt_ne table s hne, serveAt_entry_ne table s hne]
  unfold serveAt
  split
  · simp [State.record, State.dataOf]
  · rfl

/-- An entry that has been reported is not due: its counters start again. -/
theorem valid_served (s : State) (attr : AttrInfo) (entry : ReportCfgInfo) :
    (s.served attr entry).valid = false := by
  unfold State.served ReportCfgInfo.valid
  by_cases hmin : entry.minInterval = 0 <;> by_cases hmax : entry.maxInterval = 0 <;>
    simp [hmin, hmax, State.keep]

theorem dueAttr_eq_some {s : State} {i : Index} {attr : AttrInfo} :
    s.dueAttr table i = some attr ↔
      s.enabled (s.entry i) = true ∧ (s.entry i).valid = true ∧
        table.attrOf (s.entry i) = some attr := by
  simp [State.dueAttr, and_assoc]

theorem serveAt_of_due {s : State} {i : Index} {attr : AttrInfo}
    (hdue : s.dueAttr table i = some attr) :
    serveAt table s i = s.setEntry i (s.served attr (s.entry i)) := by
  simp only [serveAt, hdue]

theorem dueAttr_serveAt_self (s : State) (i : Index) :
    (serveAt table s i).dueAttr table i = none := by
  cases hdue : s.dueAttr table i with
  | none => simp only [serveAt, hdue]
  | some attr =>
      rw [serveAt_of_due table hdue]
      simp only [State.dueAttr, setEntry_entry_self, valid_served, Bool.and_false]
      rfl

/-- The cluster of an entry that is due is a real one. -/
theorem clusterID_ne_of_due {s : State} {i : Index} {attr : AttrInfo}
    (hdue : s.dueAttr table i = some attr) : (s.entry i).clusterID ≠ 0xFFFF := by
  intro heq
  have hfound := ((dueAttr_eq_some table).mp hdue).2.2
  rw [AttrTable.attrOf, heq, table.cluster_ne] at hfound
  cases hfound

/-- What a round over some entries does: it serves a group of those that are due, which are
all about one cluster, and if it does not ask for another round it served them all. -/
structure RoundOf (is : List Index) (r r' : Round) (served : List Index) : Prop where
  sublist : served.Sublist (is.filter fun i => (r.s.dueAttr table i).isSome)
  state : r'.s = served.foldl (serveAt table) r.s
  attr : r'.attr = r.attr ++ served.flatMap (recordAt table r.s)
  group : r'.group = r.group.or (served.head?.map fun i => (r.s.entry i).group)
  same : ∀ i ∈ served, r'.group = some (r.s.entry i).group
  all : r'.again = false →
    r.again = false ∧ served = is.filter fun i => (r.s.dueAttr table i).isSome
  progress : r'.again = true → r.again = true ∨ r.group.isSome ∨ served ≠ []
  size : r.attr.length < 2 → r'.attr.length ≤ 2

/-- An entry that is not due is passed over. -/
theorem RoundOf.skip {is : List Index} {i : Index} {r r' : Round} {served : List Index}
    (hnone : r.s.dueAttr table i = none) (h : RoundOf table is r r' served) :
    RoundOf table (i :: is) r r' served := by
  have hfilter : (i :: is).filter (fun j => (r.s.dueAttr table j).isSome) =
      is.filter fun j => (r.s.dueAttr table j).isSome := by
    rw [List.filter_cons_of_neg]
    simp [hnone]
  exact { h with
    sublist := hfilter ▸ h.sublist
    all := fun hagain => hfilter ▸ h.all hagain }

/-- An entry of another cluster is left for the next round. -/
theorem RoundOf.leave {is : List Index} {i : Index} {r r' : Round} {served : List Index}
    (hgroup : r.group.isSome) (h : RoundOf table is { r with again := true } r' served) :
    RoundOf table (i :: is) r r' served where
  sublist := h.sublist.trans ((List.sublist_cons_self i is).filter _)
  state := h.state
  attr := h.attr
  group := h.group
  same := h.same
  all := fun hagain => absurd (h.all hagain).1 (by simp)
  progress := fun _ => Or.inr (Or.inl hgroup)
  size := h.size

/-- An entry is served, and the round goes on. -/
theorem RoundOf.serve {is : List Index} {i : Index} {r r' : Round} {served : List Index}
    {attr : AttrInfo} (hnot : i ∉ is) (hdue : r.s.dueAttr table i = some attr)
    (hgroup : (r.serve i attr).group = some (r.s.entry i).group)
    (hold : r.group.or (some (r.s.entry i).group) = some (r.s.entry i).group)
    (hroom : (r.serve i attr).attr.length < 2)
    (h : RoundOf table is (r.serve i attr) r' served) :
    RoundOf table (i :: is) r r' (i :: served) := by
  have hserve : (r.serve i attr).s = serveAt table r.s i := (serveAt_of_due table hdue).symm
  have hrest : is.filter (fun j => ((r.serve i attr).s.dueAttr table j).isSome) =
      is.filter fun j => (r.s.dueAttr table j).isSome := by
    refine List.filter_congr fun j hj => ?_
    have hne : j ≠ i := fun heq => hnot (heq ▸ hj)
    rw [hserve, dueAttr_serveAt_ne table r.s hne]
  have hfilter : (i :: is).filter (fun j => (r.s.dueAttr table j).isSome) =
      i :: is.filter fun j => (r.s.dueAttr table j).isSome := by
    rw [List.filter_cons_of_pos]
    simp [hdue]
  have hmem : ∀ j ∈ served, j ≠ i := by
    intro j hj heq
    exact hnot (heq ▸ List.mem_of_mem_filter (h.sublist.subset hj))
  have hself : recordAt table r.s i = [r.s.record attr (r.s.entry i)] := by
    simp [recordAt, hdue]
  constructor
  · rw [hfilter, ← hrest]
    exact h.sublist.cons_cons i
  · rw [List.foldl_cons, ← hserve]
    exact h.state
  · rw [h.attr, List.flatMap_cons, hself, hserve]
    have hrecords : served.flatMap (recordAt table (serveAt table r.s i)) =
        served.flatMap (recordAt table r.s) :=
      List.flatMap_congr fun j hj => recordAt_serveAt_ne table r.s (hmem j hj)
    rw [hrecords]
    simp [Round.serve]
  · rw [h.group, hgroup]
    simp [hold]
  · intro j hj
    rcases List.mem_cons.mp hj with rfl | hj
    · rw [h.group, hgroup]
      rfl
    · rw [h.same j hj, hserve, serveAt_entry_ne table r.s (hmem j hj)]
  · intro hagain
    refine ⟨(h.all hagain).1, ?_⟩
    rw [hfilter, ← hrest, ← (h.all hagain).2]
  · exact fun _ => Or.inr (Or.inr (List.cons_ne_nil i served))
  · exact fun _ => h.size hroom

/-- The command is about the cluster of what it holds. -/
theorem group_serve {r : Round} {i : Index} {attr : AttrInfo}
    (hdue : r.s.dueAttr table i = some attr)
    (hmatch : ¬ (r.clusterID ≠ 0xFFFF ∧ (r.clusterID ≠ (r.s.entry i).clusterID ∨
      r.profileID ≠ (r.s.entry i).profileID ∨ r.endpoint ≠ (r.s.entry i).endPoint))) :
    (r.serve i attr).group = some (r.s.entry i).group ∧
      r.group.or (some (r.s.entry i).group) = some (r.s.entry i).group := by
  have hcluster := clusterID_ne_of_due table hdue
  by_cases hnone : r.clusterID = 0xFFFF
  · simp [Round.group, Round.serve, ReportCfgInfo.group, hnone, hcluster]
  · have hsame : r.clusterID = (r.s.entry i).clusterID ∧
        r.profileID = (r.s.entry i).profileID ∧ r.endpoint = (r.s.entry i).endPoint := by
      simpa [hnone] using hmatch
    simp [Round.group, Round.serve, ReportCfgInfo.group, hsame, hcluster]

/-- Every round is as described. -/
theorem reportRound_roundOf {is : List Index} (hnodup : is.Nodup) (r : Round) :
    ∃ served, RoundOf table is r (reportRound table is r) served := by
  induction is generalizing r with
  | nil =>
      exact ⟨[], by simp, rfl, by simp [reportRound], by simp [reportRound], by simp,
        by simp [reportRound], fun hagain => Or.inl hagain, fun hsize => Nat.le_of_lt hsize⟩
  | cons i is ih =>
      rcases List.nodup_cons.mp hnodup with ⟨hnot, hnodup⟩
      rw [reportRound]
      cases hdue : r.s.dueAttr table i with
      | none =>
          rcases ih hnodup r with ⟨served, h⟩
          exact ⟨served, h.skip table hdue⟩
      | some attr =>
          simp only
          by_cases hmatch : r.clusterID ≠ 0xFFFF ∧ (r.clusterID ≠ (r.s.entry i).clusterID ∨
              r.profileID ≠ (r.s.entry i).profileID ∨ r.endpoint ≠ (r.s.entry i).endPoint)
          · rw [if_pos hmatch]
            rcases ih hnodup { r with again := true } with ⟨served, h⟩
            have hgroup : r.group.isSome := by simp [Round.group, hmatch.1]
            exact ⟨served, h.leave table hgroup⟩
          · rw [if_neg hmatch]
            rcases group_serve table hdue hmatch with ⟨hgroup, hold⟩
            split
            · rename_i hfull
              have hself : recordAt table r.s i = [r.s.record attr (r.s.entry i)] := by
                simp [recordAt, hdue]
              refine ⟨[i], ?_, (serveAt_of_due table hdue).symm, ?_, ?_, ?_, ?_, ?_, ?_⟩
              · rw [List.filter_cons_of_pos (by simp [hdue])]
                exact (List.nil_sublist _).cons_cons i
              · simp [hself, Round.serve]
              · exact hgroup.trans hold.symm
              · intro j hj
                rw [List.mem_singleton.mp hj]
                exact hgroup
              · exact fun hagain => absurd hagain (by simp)
              · exact fun _ => Or.inr (Or.inr (List.cons_ne_nil i []))
              · intro hsize
                simp only [Round.serve, List.length_append, List.length_singleton]
                omega
            · rename_i hroom
              rcases ih hnodup (r.serve i attr) with ⟨served, h⟩
              have hroom' : (r.serve i attr).attr.length < 2 := Nat.lt_of_not_le hroom
              exact ⟨i :: served, h.serve table hnot hdue hgroup hold hroom'⟩

/-! ## The rounds of a call -/

theorem foldl_serveAt_entry (s : State) (served : List Index) {i : Index} (hnot : i ∉ served) :
    (served.foldl (serveAt table) s).entry i = s.entry i := by
  induction served generalizing s with
  | nil => rfl
  | cons j served ih =>
      rcases not_or.mp (mt List.mem_cons.mpr hnot) with ⟨hne, hnot⟩
      rw [List.foldl_cons, ih (serveAt table s j) hnot, serveAt_entry_ne table s hne]

theorem foldl_serveAt_dueAttr (s : State) (served : List Index) (i : Index) :
    (served.foldl (serveAt table) s).dueAttr table i =
      if i ∈ served then none else s.dueAttr table i := by
  induction served generalizing s with
  | nil => simp
  | cons j served ih =>
      rw [List.foldl_cons, ih]
      by_cases heq : i = j
      · subst heq
        simp [dueAttr_serveAt_self]
      · simp [heq, dueAttr_serveAt_ne table s heq]

/-- What a state keeps while its entries are served. -/
structure Serves (s s' : State) : Prop where
  data : s'.data = s.data
  bound : s'.bound = s.bound
  now : s'.now = s.now
  nv : s'.nv = s.nv
  reportTimer : s'.reportTimer = s.reportTimer
  reportingTimer : s'.reportingTimer = s.reportingTimer
  reportNum : s'.tab.reportNum = s.tab.reportNum
  fault : s'.fault = s.fault

theorem Serves.refl (s : State) : Serves s s := ⟨rfl, rfl, rfl, rfl, rfl, rfl, rfl, rfl⟩

theorem Serves.trans {s s' s'' : State} (h : Serves s s') (h' : Serves s' s'') : Serves s s'' where
  data := h'.data.trans h.data
  bound := h'.bound.trans h.bound
  now := h'.now.trans h.now
  nv := h'.nv.trans h.nv
  reportTimer := h'.reportTimer.trans h.reportTimer
  reportingTimer := h'.reportingTimer.trans h.reportingTimer
  reportNum := h'.reportNum.trans h.reportNum
  fault := h'.fault.trans h.fault

theorem serves_serveAt (s : State) (i : Index) : Serves s (serveAt table s i) := by
  unfold serveAt
  split
  · exact ⟨rfl, rfl, rfl, rfl, rfl, rfl, rfl, rfl⟩
  · exact Serves.refl s

theorem serves_foldl (s : State) (served : List Index) :
    Serves s (served.foldl (serveAt table) s) ∧
      (served.foldl (serveAt table) s).sent = s.sent := by
  induction served generalizing s with
  | nil => exact ⟨Serves.refl s, rfl⟩
  | cons i served ih =>
      rcases ih (serveAt table s i) with ⟨hserves, hsent⟩
      refine ⟨(serves_serveAt table s i).trans hserves, hsent.trans ?_⟩
      unfold serveAt
      split <;> rfl

/-- The command about a group of entries, if there are any. -/
def commandOf (s : State) (group : List Index) : List ReportCmd :=
  group.head?.toList.map fun i =>
    { time := s.now
      profileId := (s.entry i).profileID
      clusterId := (s.entry i).clusterID
      endpoint := (s.entry i).endPoint
      attrList := group.flatMap (recordAt table s) }

/-- A pass of the outer loop: it sends one group of the entries that are due. -/
structure Pass (s s' : State) (served : List Index) : Prop where
  sublist : served.Sublist (s.dueList table)
  entries : ∀ i, s'.entry i = (served.foldl (serveAt table) s).entry i
  due : ∀ i, s'.dueAttr table i = if i ∈ served then none else s.dueAttr table i
  sent : s'.sent = s.sent ++ commandOf table s served
  same : ∀ i ∈ served, ∀ j ∈ served, (s.entry i).group = (s.entry j).group
  size : served.length ≤ 2
  serves : Serves s s'

/-- An entry that is due gives one record. -/
theorem length_records {s : State} {served : List Index}
    (hdue : ∀ i ∈ served, (s.dueAttr table i).isSome) :
    (served.flatMap (recordAt table s)).length = served.length := by
  induction served with
  | nil => rfl
  | cons i served ih =>
      rcases Option.isSome_iff_exists.mp (hdue i List.mem_cons_self) with ⟨attr, hattr⟩
      rw [List.flatMap_cons, List.length_append, ih fun j hj => hdue j (List.mem_cons_of_mem i hj)]
      simp [recordAt, hattr, Nat.add_comm]

theorem mem_dueList {s : State} {i : Index} :
    i ∈ s.dueList table ↔ (s.dueAttr table i).isSome := by
  simp [State.dueList]

theorem send_of_none {r : Round} (hgroup : r.group = none) : r.send = r.s := by
  have hcluster : r.clusterID = 0xFFFF := by simpa [Round.group] using hgroup
  simp [Round.send, hcluster]

theorem send_of_some {r : Round} {profileID clusterID : UInt16} {endpoint : UInt8}
    (hgroup : r.group = some (profileID, clusterID, endpoint)) :
    r.send = { r.s with
      sent := r.s.sent ++ [⟨r.s.now, profileID, clusterID, endpoint, r.attr⟩] } := by
  have hids : r.clusterID ≠ 0xFFFF ∧ r.profileID = profileID ∧ r.clusterID = clusterID ∧
      r.endpoint = endpoint := by simpa [Round.group] using hgroup
  rcases hids with ⟨hne, rfl, rfl, rfl⟩
  simp [Round.send, hne]

/-- What a round collected is sent as one command. -/
theorem send_roundOf {is : List Index} {s : State} {r : Round} {served : List Index}
    (h : RoundOf table is { s } r served) :
    r.send = { served.foldl (serveAt table) s with
      sent := s.sent ++ commandOf table s served } := by
  rcases serves_foldl table s served with ⟨hserves, hsent⟩
  have hnone : Round.group { s } = none := rfl
  have hgroup : r.group = served.head?.map fun i => (s.entry i).group := by
    rw [h.group, hnone, Option.none_or]
  have hattr : r.attr = served.flatMap (recordAt table s) := h.attr
  have hstate : r.s = served.foldl (serveAt table) s := h.state
  cases served with
  | nil =>
      rw [send_of_none hgroup, hstate]
      simp [commandOf]
  | cons i served =>
      rw [send_of_some hgroup, hstate, hattr, hserves.now, hsent]
      rfl

theorem reportBody_pass (s : State) :
    ∃ served, Pass table s (reportBody table s).1 served ∧
      ((reportBody table s).2 = true → served ≠ []) ∧
      ((reportBody table s).2 = false → served = s.dueList table) := by
  rcases reportRound_roundOf table (List.nodup_finRange _) { s } with ⟨served, h⟩
  rcases serves_foldl table s served with ⟨hserves, -⟩
  have hsend : (reportBody table s).1 = { served.foldl (serveAt table) s with
      sent := s.sent ++ commandOf table s served } := send_roundOf table h
  have hdue : ∀ i ∈ served, (s.dueAttr table i).isSome := fun i hi =>
    (mem_dueList table).mp (h.sublist.subset hi)
  refine ⟨served, ⟨h.sublist, fun i => ?_, fun i => ?_, ?_, fun i hi j hj => ?_, ?_, ?_⟩, ?_, ?_⟩
  · rw [hsend]
    rfl
  · rw [hsend]
    exact foldl_serveAt_dueAttr table s served i
  · rw [hsend]
  · exact Option.some.inj ((h.same i hi).symm.trans (h.same j hj))
  · have hsize := h.size (by simp)
    rwa [h.attr, List.nil_append, length_records table hdue] at hsize
  · rw [hsend]
    exact ⟨hserves.data, hserves.bound, hserves.now, hserves.nv, hserves.reportTimer,
      hserves.reportingTimer, hserves.reportNum, hserves.fault⟩
  · intro hagain
    rcases h.progress hagain with hold | hgroup | hne
    · exact absurd hold (by simp)
    · exact absurd hgroup (by simp [Round.group])
    · exact hne
  · exact fun hagain => (h.all hagain).2

/-- A pass that asks for another one leaves fewer entries that are due. -/
theorem dueList_lt {s : State} (hagain : (reportBody table s).2 = true) :
    ((reportBody table s).1.dueList table).length < (s.dueList table).length := by
  rcases reportBody_pass table s with ⟨served, hpass, hsome, -⟩
  have hrest : (reportBody table s).1.dueList table =
      (s.dueList table).filter fun i => i ∉ served := by
    simp only [State.dueList, List.filter_filter]
    refine List.filter_congr fun i _ => ?_
    rw [hpass.due]
    by_cases hmem : i ∈ served <;> simp [hmem]
  rcases List.exists_mem_of_ne_nil served (hsome hagain) with ⟨i, hi⟩
  rw [hrest, List.length_filter_lt_length_iff_exists]
  exact ⟨i, hpass.sublist.subset hi, by simpa using hi⟩

/-- {lit}`reportAttrs`: the passes end, since each of them but the last lowers the number of
entries that are due. -/
def reportAttrs (s : State) : State :=
  if (reportBody table s).2 = true then reportAttrs (reportBody table s).1
  else (reportBody table s).1
termination_by (s.dueList table).length
decreasing_by exact dueList_lt table ‹_›

/-! ## What a call sends -/

/-- The call sends the entries that are due in groups, each entry once, with at most two
entries of one cluster in a command, and none is due after it. -/
structure Sends (s s' : State) (groups : List (List Index)) : Prop where
  once : groups.flatten.Perm (s.dueList table)
  size : ∀ g ∈ groups, 1 ≤ g.length ∧ g.length ≤ 2
  same : ∀ g ∈ groups, ∀ i ∈ g, ∀ j ∈ g, (s.entry i).group = (s.entry j).group
  sent : s'.sent = s.sent ++ groups.flatMap (commandOf table s)
  entry : ∀ i, s'.entry i = (serveAt table s i).entry i
  settled : ∀ i, s'.dueAttr table i = none
  serves : Serves s s'

/-- What serving an entry makes of it depends on the entry and its data only. -/
theorem serveAt_entry_congr {s s' : State} {i : Index} (hentry : s'.entry i = s.entry i)
    (hdue : s'.dueAttr table i = s.dueAttr table i) (hdata : s'.data = s.data) :
    (serveAt table s' i).entry i = (serveAt table s i).entry i := by
  unfold serveAt
  rw [hdue]
  cases s.dueAttr table i with
  | none => exact hentry
  | some attr => simp [State.served, State.keep, State.dataOf, hentry, hdata]

theorem recordAt_congr {s s' : State} {i : Index} (hentry : s'.entry i = s.entry i)
    (hdue : s'.dueAttr table i = s.dueAttr table i) (hdata : s'.data = s.data) :
    recordAt table s' i = recordAt table s i := by
  simp only [recordAt, hdue, hentry]
  cases s.dueAttr table i with
  | none => rfl
  | some attr => simp [State.record, State.dataOf, hdata]

theorem commandOf_congr {s s' : State} {g : List Index}
    (hentry : ∀ i ∈ g, s'.entry i = s.entry i)
    (hdue : ∀ i ∈ g, s'.dueAttr table i = s.dueAttr table i) (hdata : s'.data = s.data)
    (hnow : s'.now = s.now) : commandOf table s' g = commandOf table s g := by
  have hrecords : g.flatMap (recordAt table s') = g.flatMap (recordAt table s) :=
    List.flatMap_congr fun i hi => recordAt_congr table (hentry i hi) (hdue i hi) hdata
  cases g with
  | nil => rfl
  | cons i g => simp [commandOf, hrecords, hentry i List.mem_cons_self, hnow]

theorem foldl_serveAt_entry_mem (s : State) {served : List Index} (hnodup : served.Nodup)
    {i : Index} (hmem : i ∈ served) :
    (served.foldl (serveAt table) s).entry i = (serveAt table s i).entry i := by
  induction served generalizing s with
  | nil => cases hmem
  | cons j served ih =>
      rcases List.nodup_cons.mp hnodup with ⟨hnot, hnodup⟩
      rw [List.foldl_cons]
      rcases List.mem_cons.mp hmem with rfl | hmem
      · exact foldl_serveAt_entry table (serveAt table s i) served hnot
      · have hne : i ≠ j := fun heq => hnot (heq ▸ hmem)
        rw [ih (serveAt table s j) hnodup hmem]
        exact serveAt_entry_congr table (serveAt_entry_ne table s hne)
          (dueAttr_serveAt_ne table s hne) (serves_serveAt table s j).data

theorem nodup_dueList (s : State) : (s.dueList table).Nodup :=
  (List.nodup_finRange _).filter _

/-- The last pass serves everything that is due. -/
theorem Sends.last {s s' : State} (hpass : Pass table s s' (s.dueList table)) :
    ∃ groups, Sends table s s' groups := by
  have hentry : ∀ i, s'.entry i = (serveAt table s i).entry i := by
    intro i
    rw [hpass.entries]
    by_cases hmem : i ∈ s.dueList table
    · exact foldl_serveAt_entry_mem table s (nodup_dueList table s) hmem
    · have hnone : s.dueAttr table i = none := by
        simpa [mem_dueList] using hmem
      rw [foldl_serveAt_entry table s _ hmem]
      simp only [serveAt, hnone]
  have hover : ∀ i, s'.dueAttr table i = none := by
    intro i
    rw [hpass.due]
    split
    · rfl
    · rename_i hmem
      simpa [mem_dueList] using hmem
  by_cases hnil : s.dueList table = []
  · refine ⟨[], by simp [hnil], by simp, by simp, ?_, hentry, hover, hpass.serves⟩
    rw [hpass.sent, hnil]
    rfl
  · refine ⟨[s.dueList table], by simp, ?_, ?_, ?_, hentry, hover, hpass.serves⟩
    · intro g hg
      rw [List.mem_singleton.mp hg]
      exact ⟨List.length_pos_iff.mpr hnil, hpass.size⟩
    · intro g hg
      rw [List.mem_singleton.mp hg]
      exact hpass.same
    · rw [hpass.sent]
      simp

/-- A pass in front of the others. -/
theorem Sends.cons {s s₁ s' : State} {served : List Index} {groups : List (List Index)}
    (hpass : Pass table s s₁ served) (hsome : served ≠ []) (h : Sends table s₁ s' groups) :
    Sends table s s' (served :: groups) := by
  have hnodup : served.Nodup := (nodup_dueList table s).sublist hpass.sublist
  have hleft : ∀ i, i ∈ s₁.dueList table ↔ i ∈ s.dueList table ∧ i ∉ served := by
    intro i
    rw [mem_dueList, mem_dueList, hpass.due]
    by_cases hmem : i ∈ served <;> simp [hmem]
  have hkept : ∀ i, i ∉ served → s₁.entry i = s.entry i := fun i hnot => by
    rw [hpass.entries, foldl_serveAt_entry table s served hnot]
  have hkeptDue : ∀ i, i ∉ served → s₁.dueAttr table i = s.dueAttr table i := fun i hnot => by
    rw [hpass.due, if_neg hnot]
  have hgroup : ∀ g ∈ groups, ∀ i ∈ g, i ∉ served := by
    intro g hg i hi
    have hflat : i ∈ groups.flatten := List.mem_flatten.mpr ⟨g, hg, hi⟩
    exact ((hleft i).mp (h.once.mem_iff.mp hflat)).2
  constructor
  · rw [List.flatten_cons]
    have hperm : (served ++ s₁.dueList table).Perm (s.dueList table) := by
      refine (List.perm_ext_iff_of_nodup ?_ (nodup_dueList table s)).mpr fun i => ?_
      · refine hnodup.append (nodup_dueList table s₁) fun i hi hi' => ?_
        exact ((hleft i).mp hi').2 hi
      · rw [List.mem_append, hleft]
        constructor
        · rintro (hi | hi)
          · exact hpass.sublist.subset hi
          · exact hi.1
        · intro hi
          by_cases hmem : i ∈ served
          · exact Or.inl hmem
          · exact Or.inr ⟨hi, hmem⟩
    exact (h.once.append_left served).trans hperm
  · intro g hg
    rcases List.mem_cons.mp hg with rfl | hg
    · exact ⟨List.length_pos_iff.mpr hsome, hpass.size⟩
    · exact h.size g hg
  · intro g hg
    rcases List.mem_cons.mp hg with rfl | hg
    · exact hpass.same
    · intro i hi j hj
      rw [← hkept i (hgroup g hg i hi), ← hkept j (hgroup g hg j hj)]
      exact h.same g hg i hi j hj
  · have hcommands : groups.flatMap (commandOf table s₁) = groups.flatMap (commandOf table s) :=
      List.flatMap_congr fun g hg => commandOf_congr table
        (fun i hi => hkept i (hgroup g hg i hi)) (fun i hi => hkeptDue i (hgroup g hg i hi))
        hpass.serves.data hpass.serves.now
    rw [h.sent, hpass.sent, hcommands, List.flatMap_cons, List.append_assoc]
  · intro i
    rw [h.entry]
    by_cases hmem : i ∈ served
    · have hnone : s₁.dueAttr table i = none := by rw [hpass.due, if_pos hmem]
      rw [← foldl_serveAt_entry_mem table s hnodup hmem, ← hpass.entries]
      simp only [serveAt, hnone]
    · exact serveAt_entry_congr table (hkept i hmem) (hkeptDue i hmem) hpass.serves.data
  · exact h.settled
  · exact hpass.serves.trans h.serves

/-- Every call of {lit}`reportAttrs` sends each entry that is due once. -/
theorem reportAttrs_sends (s : State) : ∃ groups, Sends table s (reportAttrs table s) groups := by
  induction s using reportAttrs.induct table with
  | case1 s hagain ih =>
      rcases ih with ⟨groups, h⟩
      rcases reportBody_pass table s with ⟨served, hpass, hsome, -⟩
      rw [reportAttrs, if_pos hagain]
      exact ⟨served :: groups, h.cons table hpass (hsome hagain)⟩
  | case2 s hagain =>
      rcases reportBody_pass table s with ⟨served, hpass, -, hall⟩
      rw [reportAttrs, if_neg hagain]
      rw [hall (Bool.not_eq_true _ ▸ hagain)] at hpass
      exact Sends.last table hpass

end Reporting
