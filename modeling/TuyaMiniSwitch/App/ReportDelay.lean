import TuyaMiniSwitch.App.ReportDevice
import TuyaMiniSwitch.App.ReportingTimes

/-!
# Application - The delay of a report

How long a report can be waited for while the entry is neither configured nor unbound and the
main loop comes round every {lit}`G` milliseconds at least.

Main results:

- Theorem {lit}`due_reported_once`: what is due is sent once.
- Theorem {lit}`changed_reported`: data that changed is reported after the shortest interval.
- Theorem {lit}`repeated_report`: data that does not change is reported after the longest interval,
  or a shortest interval later.
- Theorem {lit}`reports_apart`: two reports of an attribute are a shortest interval apart.
-/

namespace Reporting

open Machine Firmware Relation

variable {table : AttrTable} {G T : Nat} {i : Index}

/-! ## A report that is waited for -/

/-- Since the commands before, the entry's report was sent in time, or it still waits. -/
structure Pending (T G : Nat) (i : Index) (key : UInt8 × UInt16 × UInt16)
    (before : List ReportCmd) (s : State) : Prop where
  watched : Watched i s
  key_eq : (s.entry i).key = key
  outcome : ∃ new, s.sent = before ++ new ∧ (Waits T G i s ∨
    ∃ cmd ∈ new, cmd.reports key = true ∧ cmd.time ≤ T + 2 * G + 100)

theorem Pending.micro {key : UInt8 × UInt16 × UInt16} {before : List ReportCmd} {s s' : State}
    (h : Pending T G i key before s) (hstep : Micro table G i s s') :
    Pending T G i key before s' := by
  refine ⟨h.watched.micro hstep, hstep.adjusts.key.trans h.key_eq, ?_⟩
  rcases h.outcome with ⟨new, hsent, hwaits | ⟨cmd, hmem, hcmd⟩⟩
  · rcases hwaits.micro h.watched hstep with hwaits' | ⟨new', cmd, hsent', hmem, hreports, htime⟩
    · rcases hstep.sent h.watched with hsame | ⟨hok, hs'⟩
      · exact ⟨new, hsame.trans hsent, Or.inl hwaits'⟩
      · rcases sent_runReporting hok (used_of_enabled h.watched.enabled) with ⟨new', hsent', -⟩
        exact ⟨new ++ new', by rw [hs', hsent', hsent, List.append_assoc], Or.inl hwaits'⟩
    · refine ⟨new ++ new', by rw [hsent', hsent, List.append_assoc], Or.inr ⟨cmd, ?_, ?_, ?_⟩⟩
      · exact List.mem_append.mpr (Or.inr hmem)
      · rwa [h.key_eq] at hreports
      · rw [htime]
        exact hwaits.now_le
  · rcases hstep.sent h.watched with hsame | ⟨hok, hs'⟩
    · exact ⟨new, hsame.trans hsent, Or.inr ⟨cmd, hmem, hcmd⟩⟩
    · rcases sent_runReporting hok (used_of_enabled h.watched.enabled) with ⟨new', hsent', -⟩
      refine ⟨new ++ new', by rw [hs', hsent', hsent, List.append_assoc], Or.inr ⟨cmd, ?_, hcmd⟩⟩
      exact List.mem_append.mpr (Or.inl hmem)

theorem Pending.micros {key : UInt8 × UInt16 × UInt16} {before : List ReportCmd} {s s' : State}
    (h : Pending T G i key before s) (hsteps : ReflTransGen (Micro table G i) s s') :
    Pending T G i key before s' := by
  induction hsteps with
  | refl => exact h
  | tail _ hstep ih => exact ih.micro hstep

/-- A report that is waited for is sent in time in every run of quiet events. -/
theorem Pending.run {key : UInt8 × UInt16 × UInt16} {before : List ReportCmd} {s : State}
    (h : Pending T G i key before s) (hok : StateOk table s) (htimers : TimersOk s)
    {events : List Event} (hquiet : ∀ e ∈ events, e.Quiet G key) :
    Pending T G i key before (run (step table) s events) := by
  let Inv (s : State) : Prop := Pending T G i key before s ∧ StateOk table s ∧ TimersOk s
  have hkeeps : ∀ s e, Inv s → e.Quiet G key → Inv (step table s e) := by
    rintro s e ⟨hpending, hok, htimers⟩ hquiet
    have hused := used_of_enabled hpending.watched.enabled
    have hquiet' : e.Quiet G (s.entry i).key := hpending.key_eq.symm ▸ hquiet
    exact ⟨hpending.micros (micro_step hok htimers hused hquiet'), hok.step e, htimers.step e⟩
  have hrun : Inv (Machine.run (step table) s events) :=
    run_invariant Inv hkeeps ⟨h, hok, htimers⟩ (along_of_forall hquiet)
  exact hrun.1

/-- What the call of {lit}`report_handler` makes an entry wait for. -/
theorem pending_reportAttrTimerStart {s : State} (hok : StateOk table s) (htimers : TimersOk s)
    (henabled : s.enabled (s.entry i) = true) (hfresh : UpToDate i s)
    (hT : s.now + (s.entry i).minInterval.toNat * 1000 ≤ T)
    (hwhy : (∃ attr, table.attrOf (s.entry i) = some attr ∧
        s.changed attr (s.entry i) = true) ∨
      (s.entry i).maxInterval ≠ 0 ∧ s.now + (s.entry i).maxInterval.toNat * 1000 +
        (s.entry i).minInterval.toNat * 1000 + G ≤ T) :
    Pending T G i (s.entry i).key s.sent (reportAttrTimerStart table s) := by
  -- in front of the entry's own round nothing about it has changed
  let Before (s' : State) : Prop := StateOk table s' ∧ TimersOk s' ∧
    s'.entry i = s.entry i ∧ s'.reportTimer i = s.reportTimer i ∧ s'.data = s.data ∧
      s'.bound = s.bound ∧ s'.now = s.now ∧ s'.sent = s.sent
  let After (s' : State) : Prop := StateOk table s' ∧
    Pending T G i (s.entry i).key s.sent s'
  have hvisit : After (reportAttrTimerStart table s) := by
    refine foldl_visits (P := Before) (Q := After) ?_ ?_ ?_ (List.mem_finRange i)
      ⟨hok, htimers, rfl, rfl, rfl, rfl, rfl, rfl⟩
    · rintro s' j hne ⟨hok', htimers', hentry, htimer, hdata, hbound, hnow, hsent⟩
      have hleaves := leaves_timerStartAt table s' j
      exact ⟨hok'.timerStartAt j, htimers'.timerStartAt j,
        (hleaves.entry i (Ne.symm hne)).trans hentry, (hleaves.timer i (Ne.symm hne)).trans htimer,
        hleaves.data.trans hdata, hleaves.bound.trans hbound, hleaves.now.trans hnow,
        hleaves.sent.trans hsent⟩
    · rintro s' ⟨hok', htimers', hentry, htimer, hdata, hbound, hnow, hsent⟩
      have hround := timerRound_timerStartAt table s' i
      have hleaves := leaves_timerStartAt table s' i
      have henabled' : s'.enabled (s'.entry i) = true := by
        rw [hentry, State.enabled, hbound]
        exact henabled
      have hwatched := hok'.watched htimers' henabled'
      have hfresh' : UpToDate i s' := by
        rw [UpToDate, htimer, hentry]
        exact hfresh
      have hchanged : ∀ attr, s'.changed attr (s.entry i) = s.changed attr (s.entry i) := by
        intro attr
        simp only [State.changed, State.dataOf, hdata]
      have hwaits : Waits T G i (timerStartAt table s' i) := by
        refine hround.waits hleaves hok' hwatched hfresh' ?_ ?_
        · rw [hnow, hentry]
          exact hT
        · simp only [hentry, hnow, hchanged]
          exact hwhy
      have hmicro : Micro table G i s' (timerStartAt table s' i) := .round hok' hround hleaves
      refine ⟨hok'.timerStartAt i, hwatched.micro hmicro, ?_, [], ?_, Or.inl hwaits⟩
      · rw [hmicro.adjusts.key, hentry]
      · rw [hleaves.sent, hsent, List.append_nil]
    · rintro s' j ⟨hok', hpending⟩
      exact ⟨hok'.timerStartAt j, hpending.micros (micro_rounds hok' [j])⟩
  exact hvisit.2

/-- A state that the device comes to after it was delivered. -/
def Reached (table : AttrTable) (s : State) : Prop :=
  ∃ data bound past, s = run (step table) (State.fresh data bound) past

theorem Reached.ok {s : State} (h : Reached table s) : StateOk table s ∧ TimersOk s := by
  rcases h with ⟨data, bound, past, rfl⟩
  refine ⟨run_invariant_always (StateOk table) (fun _ e hs => hs.step e) past
    (stateOk_fresh data bound), ?_⟩
  exact run_invariant_always TimersOk (fun _ e hs => hs.step e) past
    ⟨timerOk_empty, fun _ hnone => nomatch hnone⟩

theorem Reached.run {s : State} (h : Reached table s) (events : List Event) :
    Reached table (run (step table) s events) := by
  rcases h with ⟨data, bound, past, rfl⟩
  exact ⟨data, bound, past ++ events, (run_append _ _ _ _).symm⟩

/-- A device whose relay is on has just been started for the first time. -/
def firstStart : State :=
  run (step deviceTable) (State.fresh (fun _ _ _ _ => 1) fun _ _ => true) defaultReports

theorem reached_firstStart : Reached deviceTable firstStart := ⟨_, _, _, rfl⟩

/-- When the timer that collects the reports comes round, every entry that is due is reported in
one command with the data its attribute has now, no other entry is, and a command holds at most
two reports. -/
theorem due_reported_once {s : State} (hreached : Reached table s)
    (hdue : s.reportingTimer = some 0) :
    ∃ new, (step table s .reporting).sent = s.sent ++ new ∧
      (∀ cmd ∈ new, 1 ≤ cmd.attrList.length ∧ cmd.attrList.length ≤ 2) ∧
      (∀ i attr, s.dueAttr table i = some attr → ∃ cmd, cmd.time = s.now ∧
        s.record attr (s.entry i) ∈ cmd.attrList ∧
          new.filter (fun cmd => cmd.reports (s.entry i).key) = [cmd]) ∧
      (∀ i, (s.entry i).used = true → s.dueAttr table i = none →
        new.filter (fun cmd => cmd.reports (s.entry i).key) = []) ∧
      ∀ i, (step table s .reporting).dueAttr table i = none := by
  have hok := hreached.ok.1
  have hstep : step table s .reporting = runReporting table s := by
    dsimp only [step]
    rw [if_pos hdue]
  rcases reportAttrs_sends table s with ⟨groups, h⟩
  rw [hstep]
  refine ⟨groups.flatMap (commandOf table s), h.sent, fun cmd hcmd => ?_, fun i attr hattr => ?_,
    fun i hused hnone => ?_, h.settled⟩
  · rcases List.mem_flatMap.mp hcmd with ⟨g, hg, hcmd⟩
    have hlength : cmd.attrList.length = g.length := by
      have hrecords : cmd.attrList = g.flatMap (recordAt table s) := by
        rcases List.mem_map.mp hcmd with ⟨j, -, rfl⟩
        rfl
      have hone : ∀ j ∈ g, (recordAt table s j).length = 1 := by
        intro j hj
        have hmem := h.once.mem_iff.mp (List.mem_flatten.mpr ⟨g, hg, hj⟩)
        rcases recordAt_attrID ((mem_dueList table).mp hmem) with ⟨rec, hrecord, -⟩
        rw [hrecord, List.length_singleton]
      rw [hrecords, List.length_flatMap, List.map_congr_left hone]
      simp
    rw [hlength]
    exact h.size g hg
  · have hused := used_of_enabled ((dueAttr_eq_some table).mp hattr).1
    rcases sent_runReporting hok hused with ⟨new, hsent, hsome, -⟩
    have hnew : groups.flatMap (commandOf table s) = new :=
      List.append_cancel_left (h.sent.symm.trans hsent)
    rcases hsome (by rw [hattr]; rfl) with ⟨cmd, htime, hrecord, hcmd⟩
    refine ⟨cmd, htime, hrecord ?_, hnew ▸ hcmd⟩
    simp [recordAt, hattr]
  · rcases sent_runReporting hok hused with ⟨new, hsent, -, hno⟩
    have hnew : groups.flatMap (commandOf table s) = new :=
      List.append_cancel_left (h.sent.symm.trans hsent)
    exact hnew ▸ hno hnone

/-- The same device after its first look at the attributes, when the timer comes round. -/
def collected : State := run (step deviceTable) firstStart [.handler true, .pass 100]

set_option maxRecDepth 4000 in
theorem due_reported_once_collected :
    ∃ new, (step deviceTable collected .reporting).sent = collected.sent ++ new ∧
      (∀ cmd ∈ new, 1 ≤ cmd.attrList.length ∧ cmd.attrList.length ≤ 2) ∧
      (∀ i attr, collected.dueAttr deviceTable i = some attr → ∃ cmd, cmd.time = collected.now ∧
        collected.record attr (collected.entry i) ∈ cmd.attrList ∧
          new.filter (fun cmd => cmd.reports (collected.entry i).key) = [cmd]) ∧
      (∀ i, (collected.entry i).used = true → collected.dueAttr deviceTable i = none →
        new.filter (fun cmd => cmd.reports (collected.entry i).key) = []) ∧
      ∀ i, (step deviceTable collected .reporting).dueAttr deviceTable i = none :=
  due_reported_once (reached_firstStart.run _) (by decide)

theorem step_handler (s : State) :
    step table s (.handler true) = reportAttrTimerStart table s := by
  simp only [step, reportHandler, if_true]

theorem Pending.sent_drop {key : UInt8 × UInt16 × UInt16} {before : List ReportCmd} {s : State}
    (h : Pending T G i key before s) :
    s.now ≤ T + 2 * G + 100 ∨ ∃ cmd ∈ s.sent.drop before.length,
      cmd.reports key = true ∧ cmd.time ≤ T + 2 * G + 100 := by
  rcases h.outcome with ⟨new, hsent, hwaits | hcmd⟩
  · exact Or.inl hwaits.now_le
  · rw [hsent, List.drop_left]
    exact Or.inr hcmd

/-- The deadline of what the call of {lit}`report_handler` makes an entry wait for. -/
theorem handler_reports {s : State} (hreached : Reached table s)
    (henabled : s.enabled (s.entry i) = true) (hfresh : UpToDate i s)
    (hT : s.now + (s.entry i).minInterval.toNat * 1000 ≤ T)
    (hwhy : (∃ attr, table.attrOf (s.entry i) = some attr ∧
        s.changed attr (s.entry i) = true) ∨
      (s.entry i).maxInterval ≠ 0 ∧ s.now + (s.entry i).maxInterval.toNat * 1000 +
        (s.entry i).minInterval.toNat * 1000 + G ≤ T)
    {events : List Event} (hquiet : ∀ e ∈ events, e.Quiet G (s.entry i).key) :
    let s' := run (step table) s (.handler true :: events)
    s'.now ≤ T + 2 * G + 100 ∨ ∃ cmd ∈ s'.sent.drop s.sent.length,
      cmd.reports (s.entry i).key = true ∧ cmd.time ≤ T + 2 * G + 100 := by
  rcases hreached.ok with ⟨hok, htimers⟩
  have hpending := pending_reportAttrTimerStart hok htimers henabled hfresh hT hwhy
  have hrun :=
    (hpending.run hok.reportAttrTimerStart htimers.reportAttrTimerStart hquiet).sent_drop
  rw [← step_handler, ← run_cons (step table) s (.handler true) events] at hrun
  exact hrun

/-- An attribute whose data has changed when {lit}`report_handler` looks at it is reported after
its shortest interval. -/
theorem changed_reported {s : State} (hreached : Reached table s) {attr : AttrInfo}
    (henabled : s.enabled (s.entry i) = true) (hattr : table.attrOf (s.entry i) = some attr)
    (hchanged : s.changed attr (s.entry i) = true) (hfresh : UpToDate i s)
    {events : List Event} (hquiet : ∀ e ∈ events, e.Quiet G (s.entry i).key) :
    let s' := run (step table) s (.handler true :: events)
    let deadline := s.now + (s.entry i).minInterval.toNat * 1000 + 2 * G + 100
    s'.now ≤ deadline ∨ ∃ cmd ∈ s'.sent.drop s.sent.length,
      cmd.reports (s.entry i).key = true ∧ cmd.time ≤ deadline :=
  handler_reports hreached henabled hfresh le_rfl (Or.inl ⟨attr, hattr, hchanged⟩) hquiet

/-- The On/Off attribute is the first that is configured. -/
def onOffIndex : Index := ⟨0, by decide⟩

theorem changed_reported_firstStart :
    let s' := run (step deviceTable) firstStart (.handler true :: [.pass 60, .pass 50])
    let deadline := firstStart.now +
      (firstStart.entry onOffIndex).minInterval.toNat * 1000 + 2 * 60 + 100
    s'.now ≤ deadline ∨ ∃ cmd ∈ s'.sent.drop firstStart.sent.length,
      cmd.reports (firstStart.entry onOffIndex).key = true ∧ cmd.time ≤ deadline := by
  have hattr : deviceTable.attrOf (firstStart.entry onOffIndex) =
      some ⟨ZCL_ATTRID_ONOFF, ZCL_DATA_TYPE_BOOLEAN, true⟩ := by decide
  have hquiet : ∀ e ∈ [Event.pass 60, .pass 50],
      e.Quiet 60 (firstStart.entry onOffIndex).key := by simp [Event.Quiet]
  exact changed_reported reached_firstStart (by decide) hattr (by decide)
    (fun hrun => absurd hrun (by decide)) hquiet

/-- An attribute is reported after its longest interval even if its data stays the same, or a
shortest interval later if it changes just before. -/
theorem repeated_report {s : State} (hreached : Reached table s)
    (henabled : s.enabled (s.entry i) = true) (hmax : (s.entry i).maxInterval ≠ 0)
    (hfresh : UpToDate i s) {events : List Event}
    (hquiet : ∀ e ∈ events, e.Quiet G (s.entry i).key) :
    let s' := run (step table) s (.handler true :: events)
    let deadline := s.now + (s.entry i).maxInterval.toNat * 1000 +
      (s.entry i).minInterval.toNat * 1000 + 3 * G + 100
    s'.now ≤ deadline ∨ ∃ cmd ∈ s'.sent.drop s.sent.length,
      cmd.reports (s.entry i).key = true ∧ cmd.time ≤ deadline := by
  have hrun := handler_reports (G := G) hreached henabled hfresh
    (T := s.now + (s.entry i).maxInterval.toNat * 1000 +
      (s.entry i).minInterval.toNat * 1000 + G) (by omega) (Or.inr ⟨hmax, le_rfl⟩) hquiet
  have hdeadline : s.now + (s.entry i).maxInterval.toNat * 1000 +
      (s.entry i).minInterval.toNat * 1000 + G + 2 * G + 100 =
      s.now + (s.entry i).maxInterval.toNat * 1000 +
        (s.entry i).minInterval.toNat * 1000 + 3 * G + 100 := by omega
  rw [hdeadline] at hrun
  exact hrun

theorem repeated_report_firstStart :
    let s' := run (step deviceTable) firstStart (.handler true :: [.pass 60, .pass 50])
    let deadline := firstStart.now +
      (firstStart.entry onOffIndex).maxInterval.toNat * 1000 +
      (firstStart.entry onOffIndex).minInterval.toNat * 1000 + 3 * 60 + 100
    s'.now ≤ deadline ∨ ∃ cmd ∈ s'.sent.drop firstStart.sent.length,
      cmd.reports (firstStart.entry onOffIndex).key = true ∧ cmd.time ≤ deadline := by
  have henabled : firstStart.enabled (firstStart.entry onOffIndex) = true := by decide
  have hquiet : ∀ e ∈ [Event.pass 60, .pass 50],
      e.Quiet 60 (firstStart.entry onOffIndex).key := by simp [Event.Quiet]
  exact repeated_report reached_firstStart henabled (by decide)
    (fun hrun => absurd hrun (by decide)) hquiet

/-! ## Reports are apart -/

/-- Two reports are as far apart as the shortest interval demands, but for the delay of the
timer that collects them. -/
def Apart (entry : ReportCfgInfo) (G : Nat) (a b : ReportCmd) : Prop :=
  a.time + entry.minInterval.toNat * 1000 ≤ b.time + 100 + G

/-- The reports since the commands before are apart, and the next one will be as well: if the
entry is collected already, its timer was started while it was. -/
structure Spaced (G : Nat) (i : Index) (entry : ReportCfgInfo) (before : List ReportCmd)
    (s : State) : Prop where
  watched : Watched i s
  config : Adjusts entry (s.entry i)
  window : (s.entry i).valid = true → ∃ ms, s.reportingTimer = some ms ∧
    ∀ left, (s.reportTimer i).timer = some left →
      entry.minInterval.toNat * 1000 + ms ≤ left + 100 + if ms = 0 then G else 0
  outcome : ∃ new, s.sent = before ++ new ∧
    (∀ cmd ∈ new.filter (fun cmd => cmd.reports entry.key), cmd.time ≤ s.now ∧
      ((s.entry i).valid = true →
        cmd.time + entry.minInterval.toNat * 1000 ≤ s.now + 100 + G) ∧
      ∀ left, (s.reportTimer i).timer = some left →
        cmd.time + entry.minInterval.toNat * 1000 ≤ s.now + left + 100 + G) ∧
    (new.filter fun cmd => cmd.reports entry.key).Pairwise (Apart entry G)

/-- A round keeps the entry's state, and it keeps its timer or starts it for one of the two
intervals. -/
theorem TimerRound.starts {s s' : State} (h : TimerRound table i s s') (hok : StateOk table s)
    (hwatched : Watched i s) (hatOnce : (s.entry i).atOnce = false)
    (hmax : (s.entry i).maxInterval ≠ 0) :
    (s'.entry i).valid = (s.entry i).valid ∧ (s'.reportTimer i = s.reportTimer i ∨
      ∃ left, (s'.reportTimer i).timer = some left ∧
        (s.entry i).minInterval.toNat * 1000 ≤ left) := by
  have hentryOk := hok.tab.entry i (used_of_enabled hwatched.enabled)
  have hle : (s.entry i).minInterval.toNat ≤ (s.entry i).maxInterval.toNat := by
    rcases hentryOk.intervals with hoff | ⟨hzero, -⟩ | ⟨-, hle⟩
    · have henabled := hwatched.enabled
      have hoff' : (s.entry i).maxInterval = 0xFFFF := hoff
      simp [State.enabled, hoff'] at henabled
    · exact absurd hzero hmax
    · exact UInt16.le_iff_toNat_le.mp hle
  have hstart : ∀ (seconds : UInt16) (which : MinOrMax) (timer : ReportTimerEvt),
      (s.entry i).minInterval.toNat ≤ seconds.toNat → timer = s.reportTimer i ∨ timer = {} →
      timer.start i seconds which = s.reportTimer i ∨
        ∃ left, (timer.start i seconds which).timer = some left ∧
          (s.entry i).minInterval.toNat * 1000 ≤ left := by
    intro seconds which timer hseconds htimer
    cases hentry : timer.pEntry with
    | none =>
        rw [start_of_none hentry]
        exact Or.inr ⟨_, rfl, by omega⟩
    | some j =>
        rw [start_of_running hentry]
        rcases htimer with htimer | htimer
        · exact Or.inl htimer
        · rw [htimer] at hentry
          cases hentry
  have hstop : (s.reportTimer i).stopMax = s.reportTimer i ∨
      (s.reportTimer i).stopMax = {} := by
    unfold ReportTimerEvt.stopMax ReportTimerEvt.stop
    split
    · split
      · exact Or.inr rfl
      · exact Or.inl rfl
    · exact Or.inl rfl
  cases h with
  | off henabled => exact absurd (henabled.symm.trans hwatched.enabled) Bool.false_ne_true
  | missing _ hnone =>
      rcases hentryOk.attr with ⟨attr, hattr, -⟩
      exact absurd (hnone.symm.trans hattr) (by simp)
  | atOnce _ _ _ _ hyes => exact absurd (hatOnce.symm.trans hyes) Bool.false_ne_true
  | wait attr _ _ _ _ hentry htimer =>
      refine ⟨by rw [hentry]; rfl, ?_⟩
      rw [htimer]
      exact hstart _ _ _ le_rfl hstop
  | repeats attr _ _ _ _ hentry htimer =>
      refine ⟨by rw [hentry], ?_⟩
      rw [htimer]
      refine hstart _ _ _ hle ?_
      split
      · exact hstop
      · exact Or.inl rfl
  | idle _ _ _ _ hzero => exact absurd hzero hmax

/-- A step that sends nothing keeps the reports apart if it makes neither the entry nor its
timer run ahead. -/
theorem Spaced.quiet {entry : ReportCfgInfo} {before : List ReportCmd} {s s' : State}
    (h : Spaced G i entry before s) (hwatched : Watched i s')
    (hadj : Adjusts (s.entry i) (s'.entry i)) (hsent : s'.sent = s.sent) (hnow : s.now ≤ s'.now)
    (hwindow : (s'.entry i).valid = true → ∃ ms, s'.reportingTimer = some ms ∧
      ∀ left, (s'.reportTimer i).timer = some left →
        entry.minInterval.toNat * 1000 + ms ≤ left + 100 + if ms = 0 then G else 0)
    (hvalid : (s'.entry i).valid = true → (s.entry i).valid = true ∨
      ∃ left, (s.reportTimer i).timer = some left ∧ s.now + left ≤ s'.now)
    (htimer : ∀ left', (s'.reportTimer i).timer = some left' →
      entry.minInterval.toNat * 1000 ≤ left' ∨
        ∃ left, (s.reportTimer i).timer = some left ∧ s.now + left ≤ s'.now + left') :
    Spaced G i entry before s' := by
  refine ⟨hwatched, h.config.trans hadj, hwindow, ?_⟩
  rcases h.outcome with ⟨new, hnew, hcmds, hapart⟩
  refine ⟨new, hsent.trans hnew, fun cmd hcmd => ?_, hapart⟩
  rcases hcmds cmd hcmd with ⟨htime, hdue, hleft⟩
  refine ⟨htime.trans hnow, fun hvalid' => ?_, fun left' hleft' => ?_⟩
  · rcases hvalid hvalid' with hold | ⟨left, hold, hle⟩
    · have hbound := hdue hold
      omega
    · have hbound := hleft left hold
      omega
  · rcases htimer left' hleft' with hlong | ⟨left, hold, hle⟩
    · omega
    · have hbound := hleft left hold
      omega

theorem Spaced.elapse {entry : ReportCfgInfo} {before : List ReportCmd} {s : State}
    (h : Spaced G i entry before s) {ms : Nat} (hms : ms ≤ G) (hdue : s.timerDue = false)
    (hwatched : Watched i (s.elapse ms)) : Spaced G i entry before (s.elapse ms) := by
  simp only [State.timerDue, Bool.or_eq_false_iff, beq_eq_false_iff_ne, ne_eq] at hdue
  have htimers : ∀ left', ((s.elapse ms).reportTimer i).timer = some left' →
      ∃ left, (s.reportTimer i).timer = some left ∧ left' = left - ms := by
    intro left' hleft'
    simp only [State.elapse, Option.map_eq_some_iff] at hleft'
    rcases hleft' with ⟨left, hleft, heq⟩
    exact ⟨left, hleft, heq.symm⟩
  refine h.quiet hwatched (Adjusts.refl _) rfl (Nat.le_add_right _ _) (fun hvalid => ?_) Or.inl
    fun left' hleft' => ?_
  · rcases h.window hvalid with ⟨before, hbefore, hleft⟩
    have hpos : before ≠ 0 := fun hzero => hdue.1 (hzero ▸ hbefore)
    refine ⟨before - ms, by simp [State.elapse, hbefore], fun left' hleft' => ?_⟩
    rcases htimers left' hleft' with ⟨left, hold, rfl⟩
    have hbound := hleft left hold
    rw [if_neg hpos] at hbound
    split <;> omega
  · rcases htimers left' hleft' with ⟨left, hold, rfl⟩
    refine Or.inr ⟨left, hold, ?_⟩
    change s.now + left ≤ s.now + ms + (left - ms)
    omega

/-- Every step keeps the reports apart. -/
theorem Spaced.micro {entry : ReportCfgInfo} {before : List ReportCmd} {s s' : State}
    (h : Spaced G i entry before s) (hatOnce : entry.atOnce = false)
    (hmax : entry.maxInterval ≠ 0) (hstep : Micro table G i s s') :
    Spaced G i entry before s' := by
  have hmin : (s.entry i).minInterval = entry.minInterval := h.config.minInterval
  have hwatched := h.watched.micro hstep
  have hadj := hstep.adjusts
  cases hstep with
  | other hother =>
      refine h.quiet hwatched hadj hother.sent hother.now.ge (fun hvalid => ?_) (fun hvalid => ?_)
        fun left hleft => ?_
      · rw [hother.entry] at hvalid
        rcases h.window hvalid with ⟨ms, hms, hleft⟩
        exact ⟨ms, hother.reporting.of_some hms, by rwa [hother.timer]⟩
      · rw [hother.entry] at hvalid
        exact Or.inl hvalid
      · rw [hother.timer] at hleft
        exact Or.inr ⟨left, hleft, by rw [hother.now]⟩
  | round hok hround hleaves =>
      have hatOnce' : (s.entry i).atOnce = false := by
        rw [ReportCfgInfo.atOnce, h.config.minInterval, h.config.maxInterval]
        exact hatOnce
      have hmax' : (s.entry i).maxInterval ≠ 0 := by
        rw [h.config.maxInterval]
        exact hmax
      rcases hround.starts hok h.watched hatOnce' hmax' with ⟨hvalid, htimer⟩
      rw [hmin] at htimer
      refine h.quiet hwatched hadj hleaves.sent hleaves.now.ge (fun hvalid' => ?_)
        (fun hvalid' => ?_) fun left hleft => ?_
      · rw [hvalid] at hvalid'
        rcases h.window hvalid' with ⟨ms, hms, hleft⟩
        refine ⟨ms, hleaves.reporting.of_some hms, ?_⟩
        rcases htimer with hsame | ⟨left, hstart, hlong⟩
        · rwa [hsame]
        · intro left' hleft'
          have hms' := h.watched.reporting ms hms
          have heq : left = left' := Option.some.inj (hstart.symm.trans hleft')
          have hlong' : entry.minInterval.toNat * 1000 + ms ≤ left' + 100 :=
            Nat.add_le_add (heq ▸ hlong) hms'
          exact hlong'.trans (Nat.le_add_right _ _)
      · rw [hvalid] at hvalid'
        exact Or.inl hvalid'
      · rcases htimer with hsame | ⟨left', hstart, hlong⟩
        · rw [hsame] at hleft
          exact Or.inr ⟨left, hleft, by rw [hleaves.now]⟩
        · have heq : left' = left := Option.some.inj (hstart.symm.trans hleft)
          exact Or.inl (heq ▸ hlong)
  | elapse ms hms hdue hs' =>
      rw [hs']
      exact h.elapse hms hdue (hs' ▸ hwatched)
  | fire hdue hs' =>
      have hrun : (s.reportTimer i).timer.isSome := by rw [hdue]; rfl
      have hleaves := leaves_runTimer h.watched.timer hrun
      have hstopped : (s'.reportTimer i).timer = none := by
        rw [hs', runTimer_timer h.watched.timer hrun]
      rw [hs'] at hstopped hwatched hadj ⊢
      rcases Option.isSome_iff_exists.mp (runTimer_entry h.watched hrun).2 with ⟨ms, hms⟩
      refine h.quiet hwatched hadj hleaves.sent hleaves.now.ge
        (fun _ => ⟨ms, hms, fun left hleft => ?_⟩)
        (fun _ => Or.inr ⟨0, hdue, hleaves.now.ge⟩) fun left hleft => ?_
      · exact absurd (hstopped.symm.trans hleft) (by simp)
      · exact absurd (hstopped.symm.trans hleft) (by simp)
  | report hok hdue hs' =>
      rcases reportAttrs_sends table s with ⟨_, hsends⟩
      have hnow : s'.now = s.now := hs' ▸ hsends.serves.now
      have htimers : s'.reportTimer = s.reportTimer := hs' ▸ hsends.serves.reportTimer
      have hentry : s'.entry i = (serveAt table s i).entry i := hs' ▸ hsends.entry i
      have hover : s'.dueAttr table i = none := hs' ▸ hsends.settled i
      have hkey : (s.entry i).key = entry.key := h.config.key
      have hinvalid : (s'.entry i).valid = false := by
        have hok' : StateOk table s' := hs' ▸ hok.runReporting
        by_contra hvalid
        have hdue' := hok'.due hwatched.enabled (Bool.not_eq_false _ ▸ hvalid)
        rw [hover] at hdue'
        exact absurd hdue' (by simp)
      rcases sent_runReporting hok (used_of_enabled h.watched.enabled) with
        ⟨new', hsent', hsome, hnone⟩
      rw [hkey] at hsome hnone
      have hsent' : s'.sent = s.sent ++ new' := hs' ▸ hsent'
      rcases h.outcome with ⟨new, hnew, hcmds, hapart⟩
      refine ⟨hwatched, h.config.trans hadj, fun hvalid => ?_, new ++ new',
        by rw [hsent', hnew, List.append_assoc], ?_⟩
      · exact absurd (hinvalid.symm.trans hvalid) Bool.false_ne_true
      · rw [List.filter_append, hnow, htimers]
        by_cases hvalid : (s.entry i).valid = true
        · rcases hsome (hok.due h.watched.enabled hvalid) with ⟨cmd, htime, -, hcmd⟩
          rcases h.window hvalid with ⟨ms, hms, hwindow⟩
          have hzero : ms = 0 := Option.some.inj (hms.symm.trans hdue)
          rw [hcmd]
          refine ⟨fun c hc => ?_,
            List.pairwise_append.mpr ⟨hapart, List.pairwise_singleton _ _, ?_⟩⟩
          · refine ⟨?_, fun hvalid' => ?_, fun left hleft => ?_⟩
            · rcases List.mem_append.mp hc with hc | hc
              · exact (hcmds c hc).1
              · rw [List.mem_singleton.mp hc, htime]
            · exact absurd (hinvalid.symm.trans hvalid') Bool.false_ne_true
            · rcases List.mem_append.mp hc with hc | hc
              · exact (hcmds c hc).2.2 left hleft
              · have hbound := hwindow left hleft
                rw [if_pos hzero] at hbound
                rw [List.mem_singleton.mp hc, htime]
                omega
          · intro a ha b hb
            rw [List.mem_singleton.mp hb, Apart, htime]
            exact (hcmds a ha).2.1 hvalid
        · have hdueNone : s.dueAttr table i = none := by simp [State.dueAttr, hvalid]
          rw [hnone hdueNone, List.append_nil]
          refine ⟨fun c hc => ⟨(hcmds c hc).1, fun hvalid' => ?_, (hcmds c hc).2.2⟩, hapart⟩
          exact absurd (hinvalid.symm.trans hvalid') Bool.false_ne_true

theorem Spaced.micros {entry : ReportCfgInfo} {before : List ReportCmd} {s s' : State}
    (h : Spaced G i entry before s) (hatOnce : entry.atOnce = false)
    (hmax : entry.maxInterval ≠ 0) (hsteps : ReflTransGen (Micro table G i) s s') :
    Spaced G i entry before s' := by
  induction hsteps with
  | refl => exact h
  | tail _ hstep ih => exact ih.micro hatOnce hmax hstep

/-- Between two reports of an attribute whose intervals are both set there is at least the
shortest one, less the delay of the timer that collects the reports. -/
theorem reports_apart {s : State} (hreached : Reached table s)
    (henabled : s.enabled (s.entry i) = true) (hmin : (s.entry i).minInterval ≠ 0)
    (hmax : (s.entry i).maxInterval ≠ 0) (hstart : (s.entry i).valid = false)
    {events : List Event} (hquiet : ∀ e ∈ events, e.Quiet G (s.entry i).key) :
    let s' := run (step table) s events
    ((s'.sent.drop s.sent.length).filter fun cmd => cmd.reports (s.entry i).key).Pairwise
      (Apart (s.entry i) G) := by
  rcases hreached.ok with ⟨hok, htimers⟩
  have hatOnce : (s.entry i).atOnce = false := by simp [ReportCfgInfo.atOnce, hmin, hmax]
  let Inv (s' : State) : Prop :=
    Spaced G i (s.entry i) s.sent s' ∧ StateOk table s' ∧ TimersOk s'
  have hfirst : Inv s := by
    refine ⟨⟨hok.watched htimers henabled, Adjusts.refl _, fun hvalid => ?_, [], ?_, ?_, ?_⟩, hok,
      htimers⟩
    · exact absurd (hstart.symm.trans hvalid) Bool.false_ne_true
    · rw [List.append_nil]
    · simp
    · simp
  have hkeeps : ∀ s' e, Inv s' → e.Quiet G (s.entry i).key → Inv (step table s' e) := by
    rintro s' e ⟨hspaced, hok', htimers'⟩ hquiet'
    have hused := used_of_enabled hspaced.watched.enabled
    have hsteps := micro_step hok' htimers' hused (hspaced.config.key.symm ▸ hquiet')
    exact ⟨hspaced.micros hatOnce hmax hsteps, hok'.step e, htimers'.step e⟩
  have hrun : Inv (run (step table) s events) :=
    run_invariant Inv hkeeps hfirst (along_of_forall hquiet)
  rcases hrun.1.outcome with ⟨new, hsent, -, hapart⟩
  simp only [hsent, List.drop_left]
  exact hapart

/-- The same device, whose On/Off report was configured with the intervals 3 s and 30 s by a
remote device before it was restarted. -/
def configured : State :=
  run (step deviceTable) firstStart
    [ .configure APP_ENDPOINT1 0x0104 ZCL_CLUSTER_GEN_ON_OFF
        [ { attrID := ZCL_ATTRID_ONOFF, dataType := ZCL_DATA_TYPE_BOOLEAN, minReportInt := 3,
            maxReportInt := 30, reportableChange := fun _ => 0 } ] ]

theorem reports_apart_configured :
    let s' := run (step deviceTable) configured
      [.handler true, .pass 60, .pass 50, .reporting, .write fun _ _ _ _ => 0, .handler true]
    ((s'.sent.drop configured.sent.length).filter fun cmd =>
        cmd.reports (configured.entry onOffIndex).key).Pairwise
      (Apart (configured.entry onOffIndex) 60) := by
  have henabled : configured.enabled (configured.entry onOffIndex) = true := by decide
  exact reports_apart (reached_firstStart.run _) henabled (by decide) (by decide) (by decide)
    (by simp [Event.Quiet])

end Reporting
