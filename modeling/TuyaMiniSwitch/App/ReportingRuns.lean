import TuyaMiniSwitch.App.Reporting

/-!
# Application - Runs of the reporting code

What happens to the reporting table: timers run out, the main loop looks for changes, reports
are configured from the network and by the application, the attributes and the bindings
change, and the device starts again with the table that it stored.

Main results:

- Theorem {lit}`table_always_ok`: in every run from an empty table the used entries are the first
  {lit}`reportNum` ones, no two of them are about one attribute, the intervals and the counters of
  each fit together, and no null pointer is used.
-/

namespace Reporting

open Machine

variable (table : AttrTable)

/-! ## The callbacks -/

/-- A counter of {lit}`reportAttrTimerCb`. -/
def countDown (cnt seconds : UInt16) : UInt16 := if cnt ≥ seconds then cnt - seconds else 0

/-- {lit}`reportAttrTimerCb`. -/
def reportAttrTimerCb (s : State) (i : Index) : State :=
  match (s.reportTimer i).pEntry with
  | none => s
  | some j =>
      let entry := s.entry j
      let seconds := (s.reportTimer i).seconds
      let s := if s.enabled entry then
          s.setEntry j { entry with
            minIntCnt := countDown entry.minIntCnt seconds
            maxIntCnt := countDown entry.maxIntCnt seconds }
        else s
      let s := reportingTimerStart s
      s.setTimer i { s.reportTimer i with pEntry := none, seconds := 0, minOrMax := .min }

/-- {lit}`report_handler`. -/
def reportHandler (s : State) (joined : Bool) : State :=
  if joined then reportAttrTimerStart table s else s

/-! ## Events -/

inductive Event where
  /-- The main loop comes round after some milliseconds, when no timer waits to run. -/
  | pass (ms : Nat)
  /-- The timer of an entry has run out. -/
  | timer (i : Index)
  /-- {lit}`reportingTimer` has run out. -/
  | reporting
  | handler (joined : Bool)
  | configure (endpoint : UInt8) (profileId clusterId : UInt16) (attrList : List CfgReportRec)
  | default (endpoint : UInt8) (profileID clusterID attrID minReportInt maxReportInt : UInt16)
      (reportableChange : Nat → UInt8)
  | write (data : UInt8 → UInt16 → UInt16 → Nat → UInt8)
  | bind (bound : UInt16 → UInt8 → Bool)
  | reboot

/-- A timer waits for its callback to run. -/
def State.timerDue (s : State) : Bool :=
  s.reportingTimer == some 0 ||
    (List.finRange ZCL_REPORTING_TABLE_NUM).any fun i => (s.reportTimer i).timer == some 0

/-- The timers of {lit}`ev_timer.c` after some milliseconds. -/
def State.elapse (s : State) (ms : Nat) : State :=
  { s with
    now := s.now + ms
    reportTimer := fun i => { s.reportTimer i with timer := (s.reportTimer i).timer.map (· - ms) }
    reportingTimer := s.reportingTimer.map (· - ms) }

/-- The callback of an entry's timer runs, which leaves the list. -/
def runTimer (s : State) (i : Index) : State :=
  let s := reportAttrTimerCb s i
  s.setTimer i { s.reportTimer i with timer := none }

/-- {lit}`reportingTimerCb` runs. -/
def runReporting (s : State) : State :=
  { reportAttrs table s with reportingTimer := none }

def step (s : State) : Event → State
  | .pass ms => if s.timerDue then s else s.elapse ms
  | .timer i => if (s.reportTimer i).timer = some 0 then runTimer s i else s
  | .reporting => if s.reportingTimer = some 0 then runReporting table s else s
  | .handler joined => reportHandler table s joined
  | .configure endpoint profileId clusterId attrList =>
      configReportHandler table s endpoint profileId clusterId attrList
  | .default endpoint profileID clusterID attrID minReportInt maxReportInt reportableChange =>
      (defaultReportingCfg table s endpoint profileID clusterID attrID minReportInt maxReportInt
        reportableChange).2
  | .write data => { s with data }
  | .bind bound => { s with bound }
  | .reboot => s.boot

/-- The device as it is delivered: nothing is stored. -/
def State.fresh (data : UInt8 → UInt16 → UInt16 → Nat → UInt8) (bound : UInt16 → UInt8 → Bool) :
    State where
  tab := reportingTabInit none
  reportTimer := fun _ => {}
  reportingTimer := none
  nv := none
  data := data
  bound := bound
  now := 0
  sent := []
  fault := false

/-! ## Entries -/

/-- The attribute that an entry is about. -/
def ReportCfgInfo.key (entry : ReportCfgInfo) : UInt8 × UInt16 × UInt16 :=
  (entry.endPoint, entry.clusterID, entry.attrID)

/-- Intervals that {lit}`zcl_configureReporting` accepts. -/
def Intervals (minInterval maxInterval : UInt16) : Prop :=
  maxInterval = 0xFFFF ∨ maxInterval = 0 ∧ minInterval ≠ 0xFFFF ∨
    maxInterval ≠ 0 ∧ minInterval ≤ maxInterval

/-- A counter does not exceed its interval, unless that is zero. -/
def Counts (interval cnt : UInt16) : Prop := interval ≠ 0 → cnt ≤ interval

/-- An entry that is used is about an attribute that can be reported, and its intervals and
counters fit together. -/
structure EntryOk (entry : ReportCfgInfo) : Prop where
  attr : ∃ attr, table.attrOf entry = some attr ∧ attr.type = entry.dataType ∧
    attr.reportable = true
  intervals : Intervals entry.minInterval entry.maxInterval
  defaults : Intervals entry.minIntDft entry.maxIntDft
  minCounts : Counts entry.minInterval entry.minIntCnt
  maxCounts : Counts entry.maxInterval entry.maxIntCnt

/-- A table whose used entries are its first ones, each about an attribute of its own. -/
structure TabOk (tab : ReportingTab) : Prop where
  used_iff : ∀ i, (tab.reportCfgInfo i).used = true ↔ i.val < tab.reportNum.toNat
  num_le : tab.reportNum.toNat ≤ ZCL_REPORTING_TABLE_NUM
  entry : ∀ i, (tab.reportCfgInfo i).used = true → EntryOk table (tab.reportCfgInfo i)
  unique : ∀ i j, (tab.reportCfgInfo i).used = true → (tab.reportCfgInfo j).used = true →
    (tab.reportCfgInfo i).key = (tab.reportCfgInfo j).key → i = j

/-- What holds at every point of a run. -/
structure StateOk (s : State) : Prop where
  tab : TabOk table s.tab
  nv : ∀ tab, s.nv = some tab → TabOk table tab
  fault : s.fault = false

/-- What an entry may change without being configured: its kept data and its counters. -/
structure Adjusts (entry entry' : ReportCfgInfo) : Prop where
  used : entry'.used = entry.used
  key : entry'.key = entry.key
  profileID : entry'.profileID = entry.profileID
  dataType : entry'.dataType = entry.dataType
  minInterval : entry'.minInterval = entry.minInterval
  maxInterval : entry'.maxInterval = entry.maxInterval
  minIntDft : entry'.minIntDft = entry.minIntDft
  maxIntDft : entry'.maxIntDft = entry.maxIntDft
  reportableChange : entry'.reportableChange = entry.reportableChange
  minCounts : Counts entry.minInterval entry.minIntCnt →
    Counts entry'.minInterval entry'.minIntCnt
  maxCounts : Counts entry.maxInterval entry.maxIntCnt →
    Counts entry'.maxInterval entry'.maxIntCnt

theorem Adjusts.refl (entry : ReportCfgInfo) : Adjusts entry entry :=
  ⟨rfl, rfl, rfl, rfl, rfl, rfl, rfl, rfl, rfl, id, id⟩

theorem Adjusts.trans {entry entry' entry'' : ReportCfgInfo} (h : Adjusts entry entry')
    (h' : Adjusts entry' entry'') : Adjusts entry entry'' where
  used := h'.used.trans h.used
  key := h'.key.trans h.key
  profileID := h'.profileID.trans h.profileID
  dataType := h'.dataType.trans h.dataType
  minInterval := h'.minInterval.trans h.minInterval
  maxInterval := h'.maxInterval.trans h.maxInterval
  minIntDft := h'.minIntDft.trans h.minIntDft
  maxIntDft := h'.maxIntDft.trans h.maxIntDft
  reportableChange := h'.reportableChange.trans h.reportableChange
  minCounts := h'.minCounts ∘ h.minCounts
  maxCounts := h'.maxCounts ∘ h.maxCounts

theorem attrOf_congr {entry entry' : ReportCfgInfo} (hkey : entry'.key = entry.key) :
    table.attrOf entry' = table.attrOf entry := by
  simp only [ReportCfgInfo.key, Prod.mk.injEq] at hkey
  rcases hkey with ⟨hendPoint, hcluster, hattr⟩
  rw [AttrTable.attrOf, hendPoint, hcluster, hattr]
  rfl

theorem EntryOk.adjusts {entry entry' : ReportCfgInfo} (h : EntryOk table entry)
    (hadj : Adjusts entry entry') : EntryOk table entry' where
  attr := by
    rw [attrOf_congr table hadj.key, hadj.dataType]
    exact h.attr
  intervals := by
    rw [hadj.minInterval, hadj.maxInterval]
    exact h.intervals
  defaults := by
    rw [hadj.minIntDft, hadj.maxIntDft]
    exact h.defaults
  minCounts := hadj.minCounts h.minCounts
  maxCounts := hadj.maxCounts h.maxCounts

/-- A table stays in order while its entries are adjusted. -/
theorem TabOk.adjusts {tab tab' : ReportingTab} (h : TabOk table tab)
    (hnum : tab'.reportNum = tab.reportNum)
    (hadj : ∀ i, Adjusts (tab.reportCfgInfo i) (tab'.reportCfgInfo i)) : TabOk table tab' where
  used_iff i := by
    rw [(hadj i).used, hnum]
    exact h.used_iff i
  num_le := hnum ▸ h.num_le
  entry i hused := (h.entry i ((hadj i).used ▸ hused)).adjusts table (hadj i)
  unique i j hi hj hkey := by
    rw [(hadj i).used] at hi
    rw [(hadj j).used] at hj
    rw [(hadj i).key, (hadj j).key] at hkey
    exact h.unique i j hi hj hkey

/-! ## Steps that adjust entries -/

theorem keep_adjusts (s : State) (attr : AttrInfo) (entry : ReportCfgInfo) :
    Adjusts entry (s.keep attr entry) :=
  ⟨rfl, rfl, rfl, rfl, rfl, rfl, rfl, rfl, rfl, id, id⟩

theorem counts_restart (interval : UInt16) :
    Counts interval (if interval ≠ 0 then interval else 0xFFFF) := by
  intro hne
  rw [if_pos hne]
  exact UInt16.le_refl interval

theorem counts_zero (interval : UInt16) : Counts interval 0 := fun _ => UInt16.zero_le

theorem countDown_le (cnt seconds : UInt16) : countDown cnt seconds ≤ cnt := by
  unfold countDown
  split
  · rename_i hle
    rw [UInt16.le_iff_toNat_le, UInt16.toNat_sub_of_le _ _ hle]
    exact Nat.sub_le _ _
  · exact UInt16.zero_le

theorem Counts.countDown {interval cnt : UInt16} (h : Counts interval cnt) (seconds : UInt16) :
    Counts interval (countDown cnt seconds) := fun hne =>
  UInt16.le_trans (countDown_le cnt seconds) (h hne)

theorem served_adjusts (s : State) (attr : AttrInfo) (entry : ReportCfgInfo) :
    Adjusts entry (s.served attr entry) :=
  ⟨rfl, rfl, rfl, rfl, rfl, rfl, rfl, rfl, rfl, fun _ => counts_restart entry.minInterval,
    fun _ => counts_restart entry.maxInterval⟩

/-- A step that adjusts the entries and leaves what is stored alone. -/
structure AdjustsAll (s s' : State) : Prop where
  entry : ∀ i, Adjusts (s.entry i) (s'.entry i)
  num : s'.tab.reportNum = s.tab.reportNum
  nv : s'.nv = s.nv

theorem AdjustsAll.refl (s : State) : AdjustsAll s s := ⟨fun _ => Adjusts.refl _, rfl, rfl⟩

theorem AdjustsAll.trans {s s' s'' : State} (h : AdjustsAll s s') (h' : AdjustsAll s' s'') :
    AdjustsAll s s'' :=
  ⟨fun i => (h.entry i).trans (h'.entry i), h'.num.trans h.num, h'.nv.trans h.nv⟩

/-- Adjusting one entry. -/
theorem adjustsAll_setEntry {s : State} {i : Index} {entry : ReportCfgInfo}
    (hadj : Adjusts (s.entry i) entry) : AdjustsAll s (s.setEntry i entry) where
  entry j := by
    by_cases heq : j = i
    · subst heq
      rwa [setEntry_entry_self]
    · rw [setEntry_entry_ne s heq]
      exact Adjusts.refl _
  num := rfl
  nv := rfl

theorem adjustsAll_of_tab {s s' : State} (htab : s'.tab = s.tab) (hnv : s'.nv = s.nv) :
    AdjustsAll s s' where
  entry i := by
    rw [State.entry, State.entry, htab]
    exact Adjusts.refl _
  num := by rw [htab]
  nv := hnv

/-- A round of the timer starts adjusts one entry at most. -/
theorem adjustsAll_timerStartAt (s : State) (i : Index) :
    AdjustsAll s (timerStartAt table s i) := by
  have hleaves := leaves_timerStartAt table s i
  refine ⟨fun j => ?_, hleaves.num, hleaves.nv⟩
  by_cases heq : j = i
  · subst heq
    cases timerRound_timerStartAt table s j with
    | off _ hentry | missing _ _ hentry | repeats _ _ _ _ _ hentry | idle _ _ _ _ _ hentry =>
        rw [hentry]
        exact Adjusts.refl _
    | wait attr _ _ _ _ hentry =>
        rw [hentry]
        exact keep_adjusts s attr _
    | atOnce attr _ _ _ _ hentry =>
        rw [hentry]
        exact ⟨rfl, rfl, rfl, rfl, rfl, rfl, rfl, rfl, rfl, fun _ => counts_zero _, id⟩
  · rw [hleaves.entry j heq]
    exact Adjusts.refl _

variable {table}

theorem StateOk.adjusts {s s' : State} (h : StateOk table s) (hadj : AdjustsAll s s')
    (hfault : s'.fault = false) : StateOk table s' where
  tab := h.tab.adjusts table hadj.num hadj.entry
  nv tab htab := h.nv tab (hadj.nv ▸ htab)
  fault := hfault

/-- An entry that is looked at is used. -/
theorem used_of_enabled {s : State} {entry : ReportCfgInfo} (henabled : s.enabled entry = true) :
    entry.used = true := by
  simp only [State.enabled, Bool.and_eq_true] at henabled
  exact henabled.1.1

theorem StateOk.timerStartAt {s : State} (h : StateOk table s) (i : Index) :
    StateOk table (timerStartAt table s i) := by
  refine h.adjusts (adjustsAll_timerStartAt table s i) ?_
  cases timerRound_timerStartAt table s i with
  | missing henabled hnone =>
      rcases (h.tab.entry i (used_of_enabled henabled)).attr with ⟨attr, hattr, -⟩
      exact absurd (hnone.symm.trans hattr) (by simp)
  | off _ _ _ hfault => exact hfault.trans h.fault
  | atOnce _ _ _ _ _ _ _ _ hfault => exact hfault.trans h.fault
  | wait _ _ _ _ _ _ _ hfault => exact hfault.trans h.fault
  | repeats _ _ _ _ _ _ _ hfault => exact hfault.trans h.fault
  | idle _ _ _ _ _ _ _ hfault => exact hfault.trans h.fault

theorem StateOk.reportAttrTimerStart {s : State} (h : StateOk table s) :
    StateOk table (reportAttrTimerStart table s) :=
  List.foldlRecOn _ _ h fun _ h i _ => h.timerStartAt i

theorem adjusts_serveAt (s : State) (i : Index) :
    Adjusts (s.entry i) ((serveAt table s i).entry i) := by
  unfold serveAt
  split
  · rw [setEntry_entry_self]
    exact served_adjusts s _ _
  · exact Adjusts.refl _

theorem StateOk.reportAttrs {s : State} (h : StateOk table s) :
    StateOk table (reportAttrs table s) := by
  rcases reportAttrs_sends table s with ⟨groups, hsends⟩
  refine h.adjusts ⟨fun i => ?_, hsends.serves.reportNum, hsends.serves.nv⟩
    (hsends.serves.fault.trans h.fault)
  rw [hsends.entry]
  exact adjusts_serveAt s i

theorem StateOk.runReporting {s : State} (h : StateOk table s) :
    StateOk table (runReporting table s) :=
  h.reportAttrs.adjusts (adjustsAll_of_tab rfl rfl) h.reportAttrs.fault

/-- The callback of a timer counts down and starts the timer that sends. -/
theorem adjustsAll_runTimer (s : State) (i : Index) :
    AdjustsAll s (runTimer s i) ∧ (runTimer s i).fault = s.fault := by
  have hcb : AdjustsAll s (reportAttrTimerCb s i) ∧ (reportAttrTimerCb s i).fault = s.fault := by
    unfold reportAttrTimerCb
    cases (s.reportTimer i).pEntry with
    | none => exact ⟨AdjustsAll.refl s, rfl⟩
    | some j =>
        dsimp only
        split
        · have hadj : Adjusts (s.entry j) { s.entry j with
              minIntCnt := countDown (s.entry j).minIntCnt (s.reportTimer i).seconds
              maxIntCnt := countDown (s.entry j).maxIntCnt (s.reportTimer i).seconds } :=
            ⟨rfl, rfl, rfl, rfl, rfl, rfl, rfl, rfl, rfl, fun hcounts => hcounts.countDown _,
              fun hcounts => hcounts.countDown _⟩
          exact ⟨(adjustsAll_setEntry hadj).trans (adjustsAll_of_tab (reportingTimerStart_tab _)
            (reportingTimerStart_nv _)), reportingTimerStart_fault _⟩
        · exact ⟨adjustsAll_of_tab (reportingTimerStart_tab s) (reportingTimerStart_nv s),
            reportingTimerStart_fault s⟩
  exact ⟨hcb.1.trans (adjustsAll_of_tab rfl rfl), hcb.2⟩

theorem StateOk.runTimer {s : State} (h : StateOk table s) (i : Index) :
    StateOk table (runTimer s i) :=
  h.adjusts (adjustsAll_runTimer s i).1 ((adjustsAll_runTimer s i).2.trans h.fault)

/-! ## Steps that configure -/

theorem of_entryFind {s : State} {endpoint : UInt8} {clusterId attrID : UInt16} {i : Index}
    (hfind : entryFind s endpoint clusterId attrID = some i) :
    (s.entry i).used = true ∧ (s.entry i).key = (endpoint, clusterId, attrID) := by
  have hsome := List.find?_some hfind
  simp only [Bool.and_eq_true, beq_iff_eq] at hsome
  rcases hsome with ⟨⟨⟨hused, hcluster⟩, hattr⟩, hendpoint⟩
  exact ⟨hused, by rw [ReportCfgInfo.key, hcluster, hattr, hendpoint]⟩

theorem key_ne_of_entryFind {s : State} {endpoint : UInt8} {clusterId attrID : UInt16}
    (hfind : entryFind s endpoint clusterId attrID = none) {i : Index}
    (hused : (s.entry i).used = true) : (s.entry i).key ≠ (endpoint, clusterId, attrID) := by
  intro hkey
  have hnone := List.find?_eq_none.mp hfind i (List.mem_finRange i)
  simp only [ReportCfgInfo.key, Prod.mk.injEq] at hkey
  simp [hused, hkey] at hnone

/-- The first free entry comes right behind those that are used. -/
theorem TabOk.freeGet {s : State} (h : TabOk table s.tab) {i : Index}
    (hfree : entryFreeGet s = some i) : i.val = s.tab.reportNum.toNat := by
  rcases List.find?_eq_some_iff_getElem.mp hfree with ⟨hunused, n, hn, hi, hbefore⟩
  have hval : i.val = n := by rw [← hi]; simp
  have hge : ¬ i.val < s.tab.reportNum.toNat := by
    rw [← h.used_iff i]
    simpa [State.entry] using hunused
  by_contra hne
  have hlt : s.tab.reportNum.toNat < n := by omega
  have hused := hbefore s.tab.reportNum.toNat hlt
  simp only [List.getElem_finRange, Bool.not_not, State.entry] at hused
  exact absurd ((h.used_iff _).mp hused) (by simp)

/-- What {lit}`zcl_configureReporting` has checked when it comes to its end. -/
structure Accepted (table : AttrTable) (endpoint : UInt8) (clusterId : UInt16)
    (rec : CfgReportRec) : Prop where
  attr : ∃ attr, table.find endpoint clusterId rec.attrID = some attr ∧
    attr.type = rec.dataType ∧ attr.reportable = true
  intervals : Intervals rec.minReportInt rec.maxReportInt

theorem counts_self (interval : UInt16) : Counts interval interval := fun _ =>
  UInt16.le_refl interval

/-- A new entry. -/
theorem Accepted.add {endpoint : UInt8} {clusterId : UInt16} {rec : CfgReportRec}
    (h : Accepted table endpoint clusterId rec) (entry : ReportCfgInfo)
    (profileId : UInt16) : EntryOk table (entry.add endpoint profileId clusterId rec) where
  attr := h.attr
  intervals := h.intervals
  defaults := h.intervals
  minCounts := counts_self _
  maxCounts := counts_self _

/-- A changed entry. -/
theorem EntryOk.update {entry : ReportCfgInfo} (h : EntryOk table entry) {rec : CfgReportRec}
    (hintervals : Intervals rec.minReportInt rec.maxReportInt) :
    EntryOk table (entry.update rec) where
  attr := h.attr
  intervals := hintervals
  defaults := h.defaults
  minCounts := counts_self _
  maxCounts := counts_self _

theorem TabOk.of_entry {s : State}
    (hused : ∀ i, (s.entry i).used = true ↔ i.val < s.tab.reportNum.toNat)
    (hnum : s.tab.reportNum.toNat ≤ ZCL_REPORTING_TABLE_NUM)
    (hentry : ∀ i, (s.entry i).used = true → EntryOk table (s.entry i))
    (hunique : ∀ i j, (s.entry i).used = true → (s.entry j).used = true →
      (s.entry i).key = (s.entry j).key → i = j) : TabOk table s.tab :=
  ⟨hused, hnum, hentry, hunique⟩

/-- One entry of the table is replaced by another that is about the same attribute. -/
theorem StateOk.setEntry {s : State} (h : StateOk table s) {i : Index} {entry : ReportCfgInfo}
    (hused : entry.used = (s.entry i).used) (hkey : entry.key = (s.entry i).key)
    (hok : entry.used = true → EntryOk table entry) : StateOk table (s.setEntry i entry) := by
  have huses : ∀ j, ((s.setEntry i entry).entry j).used = (s.entry j).used ∧
      ((s.setEntry i entry).entry j).key = (s.entry j).key := by
    intro j
    by_cases heq : j = i
    · subst heq
      rw [setEntry_entry_self]
      exact ⟨hused, hkey⟩
    · rw [setEntry_entry_ne s heq]
      exact ⟨rfl, rfl⟩
  refine ⟨.of_entry (fun j => ?_) h.tab.num_le (fun j hj => ?_) (fun j k hj hk hkey => ?_), h.nv,
    h.fault⟩
  · rw [(huses j).1]
    exact h.tab.used_iff j
  · by_cases heq : j = i
    · subst heq
      rw [setEntry_entry_self] at hj ⊢
      exact hok hj
    · rw [setEntry_entry_ne s heq] at hj ⊢
      exact h.tab.entry j hj
  · rw [(huses j).1] at hj
    rw [(huses k).1] at hk
    rw [(huses j).2, (huses k).2] at hkey
    exact h.tab.unique j k hj hk hkey

/-- An entry is added in the first free place. -/
theorem StateOk.add {s : State} (h : StateOk table s) {i : Index} {endpoint : UInt8}
    {profileId clusterId : UInt16} {rec : CfgReportRec}
    (hfind : entryFind s endpoint clusterId rec.attrID = none) (hfree : entryFreeGet s = some i)
    (hok : Accepted table endpoint clusterId rec) :
    StateOk table (entryUpdate table s i endpoint profileId clusterId rec) := by
  have hunused : (s.entry i).used = false := by simpa using List.find?_some hfree
  have hi := h.tab.freeGet hfree
  have hnum : (s.tab.reportNum + 1).toNat = i.val + 1 := by
    have hlt : i.val < 24 := i.isLt
    rw [UInt8.toNat_add, ← hi]
    exact Nat.mod_eq_of_lt (by simp; omega)
  have hentry := hok.add (s.entry i) profileId
  have hfault : (s.fault || (table.attrOf
      ((s.entry i).add endpoint profileId clusterId rec)).isNone) = false := by
    rcases hentry.attr with ⟨attr, hattr, -⟩
    rw [hattr, h.fault]
    rfl
  have hself : (entryUpdate table s i endpoint profileId clusterId rec).entry i =
      (s.entry i).add endpoint profileId clusterId rec := by
    rw [entryUpdate, if_pos hunused]
    exact setEntry_entry_self s i _
  have hother : ∀ j, j ≠ i →
      (entryUpdate table s i endpoint profileId clusterId rec).entry j = s.entry j := by
    intro j hne
    rw [entryUpdate, if_pos hunused]
    exact setEntry_entry_ne s hne _
  have hnum' : (entryUpdate table s i endpoint profileId clusterId rec).tab.reportNum.toNat =
      i.val + 1 := by
    rw [entryUpdate, if_pos hunused]
    exact hnum
  refine ⟨.of_entry (fun j => ?_) ?_ (fun j hj => ?_) (fun j k hj hk hkey => ?_), ?_, ?_⟩
  · rw [hnum']
    by_cases heq : j = i
    · subst heq
      rw [hself]
      exact iff_of_true rfl (Nat.lt_succ_self _)
    · have hval : j.val ≠ i.val := fun hval => heq (Fin.ext hval)
      rw [hother j heq]
      refine (h.tab.used_iff j).trans ?_
      omega
  · rw [hnum']
    exact i.isLt
  · by_cases heq : j = i
    · subst heq
      rw [hself]
      exact hentry
    · rw [hother j heq] at hj ⊢
      exact h.tab.entry j hj
  · by_cases hj' : j = i <;> by_cases hk' : k = i
    · rw [hj', hk']
    · subst hj'
      rw [hother k hk'] at hk hkey
      rw [hself] at hkey
      exact absurd hkey.symm (key_ne_of_entryFind hfind hk)
    · subst hk'
      rw [hother j hj'] at hj hkey
      rw [hself] at hkey
      exact absurd hkey (key_ne_of_entryFind hfind hj)
    · rw [hother j hj'] at hj hkey
      rw [hother k hk'] at hk hkey
      exact h.tab.unique j k hj hk hkey
  · rw [entryUpdate, if_pos hunused]
    exact h.nv
  · rw [entryUpdate, if_pos hunused]
    exact hfault

/-- Everything that {lit}`zcl_configureReporting` can do. -/
theorem configureReporting_cases (table : AttrTable) (s : State) (endpoint : UInt8)
    (profileId clusterId : UInt16) (rec : CfgReportRec) :
    (configureReporting table s endpoint profileId clusterId rec).2 = s ∨
    (∃ i, (entryFind s endpoint clusterId rec.attrID).or (entryFreeGet s) = some i ∧
      Accepted table endpoint clusterId rec ∧
      (configureReporting table s endpoint profileId clusterId rec).2 =
        entryUpdate table s i endpoint profileId clusterId rec) ∨
    ∃ i, entryFind s endpoint clusterId rec.attrID = some i ∧
      (configureReporting table s endpoint profileId clusterId rec).2 = entryRst table s i := by
  have hupdate : Accepted table endpoint clusterId rec →
      (configureEntry table s (entryFind s endpoint clusterId rec.attrID) endpoint profileId
        clusterId rec).2 = s ∨
      ∃ i, (entryFind s endpoint clusterId rec.attrID).or (entryFreeGet s) = some i ∧
        Accepted table endpoint clusterId rec ∧
        (configureEntry table s (entryFind s endpoint clusterId rec.attrID) endpoint profileId
          clusterId rec).2 = entryUpdate table s i endpoint profileId clusterId rec := by
    intro hok
    unfold configureEntry
    cases (entryFind s endpoint clusterId rec.attrID).or (entryFreeGet s) with
    | none => exact Or.inl rfl
    | some i => exact Or.inr ⟨i, rfl, hok, rfl⟩
  dsimp only [configureReporting]
  cases hattr : table.find endpoint clusterId rec.attrID with
  | none => exact Or.inl rfl
  | some attr =>
      dsimp only
      by_cases htype : attr.type = rec.dataType
      · cases hreportable : attr.reportable with
        | false => simp [htype]
        | true =>
            have haccepted : Intervals rec.minReportInt rec.maxReportInt →
                Accepted table endpoint clusterId rec :=
              fun hintervals => ⟨⟨attr, hattr, htype, hreportable⟩, hintervals⟩
            simp only [htype, ne_eq, not_true_eq_false, if_false, Bool.true_eq_false]
            split_ifs with hdirection hmax hnone hzero hmin hlt
            · exact Or.inl rfl
            · exact Or.inl rfl
            · rw [← or_assoc]
              exact Or.inl (hupdate (haccepted (Or.inl hmax)))
            · cases hfind : entryFind s endpoint clusterId rec.attrID with
              | none => exact Or.inl rfl
              | some i => exact Or.inr (Or.inr ⟨i, rfl, rfl⟩)
            · rw [← or_assoc]
              exact Or.inl (hupdate (haccepted (Or.inr (Or.inl ⟨hzero, hmin⟩))))
            · exact Or.inl rfl
            · rw [← or_assoc]
              exact Or.inl (hupdate (haccepted (Or.inr (Or.inr
                ⟨hzero, UInt16.not_lt.mp hlt⟩))))
      · simp [htype]

theorem StateOk.setTimer {s : State} (h : StateOk table s) (i : Index) (timer : ReportTimerEvt) :
    StateOk table (s.setTimer i timer) :=
  ⟨h.tab, h.nv, h.fault⟩

theorem StateOk.entryRst {s : State} (h : StateOk table s) (i : Index) :
    StateOk table (entryRst table s i) := by
  dsimp only [Reporting.entryRst]
  split
  · rename_i hused
    have hentry := h.tab.entry i hused
    have hset : StateOk table (s.setEntry i { s.entry i with
        minInterval := (s.entry i).minIntDft
        maxInterval := (s.entry i).maxIntDft
        minIntCnt := (s.entry i).minIntDft
        maxIntCnt := (s.entry i).maxIntDft
        reportableChange := Vector.replicate 8 0 }) :=
      h.setEntry rfl rfl fun _ => ⟨hentry.attr, hentry.defaults, hentry.defaults, counts_self _,
        counts_self _⟩
    refine StateOk.reportAttrTimerStart ?_
    split
    · exact hset.setTimer _ _
    · exact hset
  · exact h

theorem StateOk.configureReporting {s : State} (h : StateOk table s) (endpoint : UInt8)
    (profileId clusterId : UInt16) (rec : CfgReportRec) :
    StateOk table (configureReporting table s endpoint profileId clusterId rec).2 := by
  rcases configureReporting_cases table s endpoint profileId clusterId rec with
    hsame | ⟨i, hplace, hok, hupdate⟩ | ⟨i, -, hrst⟩
  · rw [hsame]
    exact h
  · rw [hupdate]
    cases hfind : entryFind s endpoint clusterId rec.attrID with
    | some j =>
        rw [hfind, Option.some_or] at hplace
        cases hplace
        have hused := (of_entryFind hfind).1
        have hentry : EntryOk table ((s.entry i).update rec) :=
          (h.tab.entry i hused).update hok.intervals
        rw [entryUpdate, if_neg (by simp [hused])]
        exact h.setEntry rfl rfl fun _ => hentry
    | none =>
        rw [hfind, Option.none_or] at hplace
        exact h.add hfind hplace hok
  · rw [hrst]
    exact h.entryRst i

theorem StateOk.defaultReportingCfg {s : State} (h : StateOk table s) (endpoint : UInt8)
    (profileID clusterID attrID minReportInt maxReportInt : UInt16)
    (reportableChange : Nat → UInt8) :
    StateOk table (defaultReportingCfg table s endpoint profileID clusterID attrID minReportInt
      maxReportInt reportableChange).2 := by
  unfold Reporting.defaultReportingCfg
  split
  · exact h
  · split
    · exact h
    · exact h.configureReporting _ _ _ _

/-- The records of a command, one after another. -/
def configureAll (table : AttrTable) (s : State) (endpoint : UInt8)
    (profileId clusterId : UInt16) (attrList : List CfgReportRec) : State :=
  attrList.foldl (fun s rec => (configureReporting table s endpoint profileId clusterId rec).2) s

/-- A round of the loop of {lit}`zcl_configReportHandler`. -/
def configRecord (table : AttrTable) (endpoint : UInt8) (profileId clusterId : UInt16)
    (p : Bool × State) (rec : CfgReportRec) : Bool × State :=
  let configured := configureReporting table p.2 endpoint profileId clusterId rec
  (p.1 || configured.1 == .ZCL_STA_SUCCESS, configured.2)

theorem configRecords_snd (table : AttrTable) (endpoint : UInt8) (profileId clusterId : UInt16)
    (attrList : List CfgReportRec) (p : Bool × State) :
    (attrList.foldl (configRecord table endpoint profileId clusterId) p).2 =
      configureAll table p.2 endpoint profileId clusterId attrList := by
  induction attrList generalizing p with
  | nil => rfl
  | cons rec attrList ih => exact ih _

/-- What {lit}`zcl_configReportHandler` does is to configure, and perhaps to store the table. -/
theorem configReportHandler_eq (table : AttrTable) (s : State) (endpoint : UInt8)
    (profileId clusterId : UInt16) (attrList : List CfgReportRec) :
    configReportHandler table s endpoint profileId clusterId attrList =
      if (attrList.foldl (configRecord table endpoint profileId clusterId) (false, s)).1 then
        { configureAll table s endpoint profileId clusterId attrList with
          nv := some (configureAll table s endpoint profileId clusterId attrList).tab }
      else configureAll table s endpoint profileId clusterId attrList := by
  rw [← configRecords_snd table endpoint profileId clusterId attrList (false, s)]
  rfl

theorem StateOk.configureAll {s : State} (h : StateOk table s) (endpoint : UInt8)
    (profileId clusterId : UInt16) (attrList : List CfgReportRec) :
    StateOk table (configureAll table s endpoint profileId clusterId attrList) :=
  List.foldlRecOn attrList _ h fun _ hs rec _ => hs.configureReporting _ _ _ rec

theorem StateOk.configReportHandler {s : State} (h : StateOk table s) (endpoint : UInt8)
    (profileId clusterId : UInt16) (attrList : List CfgReportRec) :
    StateOk table (configReportHandler table s endpoint profileId clusterId attrList) := by
  have hall := h.configureAll endpoint profileId clusterId attrList
  rw [configReportHandler_eq]
  split
  · exact ⟨hall.tab, fun tab htab => Option.some.inj htab ▸ hall.tab, hall.fault⟩
  · exact hall

/-! ## Runs -/

/-- An empty table. -/
theorem tabOk_empty : TabOk table (reportingTabInit none) where
  used_iff i := by simp [reportingTabInit]
  num_le := Nat.zero_le _
  entry i hused := by simp [reportingTabInit] at hused
  unique i j hi := by simp [reportingTabInit] at hi

/-- The table that is read back at a start. -/
theorem TabOk.restored {tab : ReportingTab} (h : TabOk table tab) :
    TabOk table (restoredTab tab) := by
  refine TabOk.adjusts table h rfl fun i => ?_
  unfold restoredTab
  dsimp only
  split
  · exact ⟨rfl, rfl, rfl, rfl, rfl, rfl, rfl, rfl, rfl, id, id⟩
  · exact Adjusts.refl _

theorem StateOk.boot {s : State} (h : StateOk table s) : StateOk table s.boot := by
  refine ⟨?_, h.nv, h.fault⟩
  cases hnv : s.nv with
  | none =>
      simp only [State.boot, hnv]
      exact tabOk_empty
  | some tab =>
      simp only [State.boot, hnv]
      exact (h.nv tab hnv).restored

/-- Every step keeps the table in order. -/
theorem StateOk.step {s : State} (h : StateOk table s) (e : Event) :
    StateOk table (step table s e) := by
  cases e with
  | pass ms =>
      dsimp only [Reporting.step]
      split
      · exact h
      · exact ⟨h.tab, h.nv, h.fault⟩
  | timer i =>
      dsimp only [Reporting.step]
      split
      · exact h.runTimer i
      · exact h
  | reporting =>
      dsimp only [Reporting.step]
      split
      · exact h.runReporting
      · exact h
  | handler joined =>
      dsimp only [Reporting.step, reportHandler]
      split
      · exact h.reportAttrTimerStart
      · exact h
  | configure endpoint profileId clusterId attrList => exact h.configReportHandler _ _ _ _
  | default => exact h.defaultReportingCfg _ _ _ _ _ _ _
  | write data => exact ⟨h.tab, h.nv, h.fault⟩
  | bind bound => exact ⟨h.tab, h.nv, h.fault⟩
  | reboot => exact h.boot

theorem stateOk_fresh (data : UInt8 → UInt16 → UInt16 → Nat → UInt8)
    (bound : UInt16 → UInt8 → Bool) : StateOk table (State.fresh data bound) where
  tab := tabOk_empty
  nv tab htab := by cases htab
  fault := rfl

variable (table)

/-- In every run the table is in order and nothing is read through a null pointer. -/
theorem table_always_ok (data : UInt8 → UInt16 → UInt16 → Nat → UInt8)
    (bound : UInt16 → UInt8 → Bool) (events : List Event) :
    StateOk table (run (step table) (State.fresh data bound) events) :=
  run_invariant_always (StateOk table) (fun _ e h => h.step e) events
    (stateOk_fresh data bound)

end Reporting
