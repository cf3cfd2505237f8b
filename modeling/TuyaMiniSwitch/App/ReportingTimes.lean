import Mathlib.Logic.Relation
import TuyaMiniSwitch.App.ReportingRuns

/-!
# Application - When a report is sent

How long a change waits for its report, how often an unchanged attribute is reported, and
how close two reports of an attribute can be.  All three look at one entry of the table while
it is neither configured nor unbound.  Such a run is a sequence of smaller steps, each of
which does one thing to the entry and its timer.

The main loop comes round after {lit}`G` milliseconds at most.

Main results:

- Theorem {lit}`micro_step`: the smaller steps that an event consists of.
- Theorem {lit}`Waits.micro`: an entry that waits for its report keeps its deadline.
-/

namespace Reporting

open Machine Relation

variable {table : AttrTable}

/-! ## Timers -/

/-- A timer that runs belongs to its entry, and one that is stopped is not in the list. -/
structure TimerOk (i : Index) (timer : ReportTimerEvt) : Prop where
  stopped : timer.pEntry = none → timer.timer = none
  running : ∀ j, timer.pEntry = some j →
    j = i ∧ ∃ ms, timer.timer = some ms ∧ ms ≤ timer.seconds.toNat * 1000
  positive : ∀ j, timer.pEntry = some j → timer.minOrMax = .min → timer.seconds ≠ 0

structure TimersOk (s : State) : Prop where
  timer : ∀ i, TimerOk i (s.reportTimer i)
  reporting : ∀ ms, s.reportingTimer = some ms → ms ≤ 100

theorem timerOk_empty (i : Index) : TimerOk i {} := 
  ⟨fun _ => rfl, fun _ hsome => (nomatch hsome), fun _ hsome => nomatch hsome⟩

theorem TimerOk.stop {i : Index} {timer : ReportTimerEvt} (h : TimerOk i timer) :
    TimerOk i timer.stop := by
  unfold ReportTimerEvt.stop
  split
  · exact timerOk_empty i
  · exact h

theorem TimerOk.stopMax {i : Index} {timer : ReportTimerEvt} (h : TimerOk i timer) :
    TimerOk i timer.stopMax := by
  unfold ReportTimerEvt.stopMax
  split
  · exact h.stop
  · exact h

theorem TimerOk.start {i : Index} {timer : ReportTimerEvt} (h : TimerOk i timer)
    (seconds : UInt16) {minOrMax : MinOrMax} (hpositive : minOrMax = .min → seconds ≠ 0) :
    TimerOk i (timer.start i seconds minOrMax) := by
  unfold ReportTimerEvt.start
  split
  · exact ⟨(fun hnone => nomatch hnone),
      fun j hj => ⟨(Option.some.inj hj).symm, _, rfl, le_rfl⟩, fun _ _ => hpositive⟩
  · exact h

theorem Started.le {timer timer' : Option Nat} (h : Started timer timer')
    (hle : ∀ ms, timer = some ms → ms ≤ 100) : ∀ ms, timer' = some ms → ms ≤ 100 := by
  rcases h with rfl | ⟨-, rfl⟩
  · exact hle
  · intro ms hms
    cases hms
    exact le_rfl

theorem TimersOk.leaves {i : Index} {s s' : State} (h : TimersOk s) (hleaves : Leaves i s s')
    (htimer : TimerOk i (s'.reportTimer i)) : TimersOk s' where
  timer j := by
    by_cases heq : j = i
    · subst heq
      exact htimer
    · rw [hleaves.timer j heq]
      exact h.timer j
  reporting := hleaves.reporting.le h.reporting

theorem minInterval_ne_of_atOnce {entry : ReportCfgInfo} (hatOnce : entry.atOnce = false) :
    entry.minInterval ≠ 0 := by
  intro hzero
  simp [ReportCfgInfo.atOnce, hzero] at hatOnce

theorem TimerRound.timerOk {i : Index} {s s' : State} (h : TimerRound table i s s')
    (hok : TimerOk i (s.reportTimer i)) : TimerOk i (s'.reportTimer i) := by
  cases h with
  | off _ _ htimer | atOnce _ _ _ _ _ _ htimer =>
      rw [htimer]
      exact hok.stop
  | missing _ _ _ htimer =>
      rw [htimer]
      exact hok
  | wait _ _ _ _ hatOnce _ htimer =>
      rw [htimer]
      exact hok.stopMax.start _ fun _ => minInterval_ne_of_atOnce hatOnce
  | repeats _ _ _ _ _ _ htimer =>
      rw [htimer]
      split
      · exact hok.stopMax.start _ fun hmin => nomatch hmin
      · exact hok.start _ fun hmin => nomatch hmin
  | idle _ _ _ _ _ _ htimer =>
      rw [htimer]
      exact hok.stopMax

theorem TimersOk.timerStartAt {s : State} (h : TimersOk s) (i : Index) :
    TimersOk (timerStartAt table s i) :=
  h.leaves (leaves_timerStartAt table s i) ((timerRound_timerStartAt table s i).timerOk (h.timer i))

theorem TimersOk.reportAttrTimerStart {s : State} (h : TimersOk s) :
    TimersOk (reportAttrTimerStart table s) :=
  List.foldlRecOn _ _ h fun _ h i _ => h.timerStartAt i

theorem TimersOk.setTimer {s : State} (h : TimersOk s) {i : Index} {timer : ReportTimerEvt}
    (htimer : TimerOk i timer) : TimersOk (s.setTimer i timer) :=
  h.leaves (leaves_setTimer s i timer) ((setTimer_reportTimer_self s i timer).symm ▸ htimer)

theorem entryUpdate_timers (s : State) (i : Index) (endPoint : UInt8)
    (profileId clusterId : UInt16) (rec : CfgReportRec) :
    (entryUpdate table s i endPoint profileId clusterId rec).reportTimer = s.reportTimer ∧
      (entryUpdate table s i endPoint profileId clusterId rec).reportingTimer =
        s.reportingTimer := by
  unfold entryUpdate
  split <;> exact ⟨rfl, rfl⟩

/-- The timer that {lit}`zcl_reportCfgInfoEntryRst` stops is the entry's own. -/
theorem TimersOk.entryRst {s : State} (h : TimersOk s) (i : Index) :
    TimersOk (entryRst table s i) := by
  dsimp only [Reporting.entryRst]
  split
  · refine TimersOk.reportAttrTimerStart ?_
    have hset : TimersOk (s.setEntry i { s.entry i with
        minInterval := (s.entry i).minIntDft
        maxInterval := (s.entry i).maxIntDft
        minIntCnt := (s.entry i).minIntDft
        maxIntCnt := (s.entry i).maxIntDft
        reportableChange := Vector.replicate 8 0 }) := ⟨h.timer, h.reporting⟩
    split
    · exact hset.setTimer (hset.timer _).stop
    · exact hset
  · exact h

theorem TimersOk.configureReporting {s : State} (h : TimersOk s) (endpoint : UInt8)
    (profileId clusterId : UInt16) (rec : CfgReportRec) :
    TimersOk (configureReporting table s endpoint profileId clusterId rec).2 := by
  rcases configureReporting_cases table s endpoint profileId clusterId rec with
    hsame | ⟨i, -, -, hupdate⟩ | ⟨i, -, hrst⟩
  · rw [hsame]
    exact h
  · rw [hupdate]
    rcases @entryUpdate_timers table s i endpoint profileId clusterId rec with
      ⟨htimers, hreporting⟩
    exact ⟨fun j => htimers ▸ h.timer j, hreporting ▸ h.reporting⟩
  · rw [hrst]
    exact h.entryRst i

theorem TimersOk.configureAll {s : State} (h : TimersOk s) (endpoint : UInt8)
    (profileId clusterId : UInt16) (attrList : List CfgReportRec) :
    TimersOk (configureAll table s endpoint profileId clusterId attrList) :=
  List.foldlRecOn attrList _ h fun _ hs rec _ => hs.configureReporting _ _ _ rec

theorem TimersOk.configReportHandler {s : State} (h : TimersOk s) (endpoint : UInt8)
    (profileId clusterId : UInt16) (attrList : List CfgReportRec) :
    TimersOk (configReportHandler table s endpoint profileId clusterId attrList) := by
  have hall : TimersOk (Reporting.configureAll table s endpoint profileId clusterId attrList) :=
    h.configureAll endpoint profileId clusterId attrList
  rw [configReportHandler_eq]
  split
  · exact ⟨hall.timer, hall.reporting⟩
  · exact hall

theorem TimerOk.elapse {i : Index} {s : State} (h : TimerOk i (s.reportTimer i)) (ms : Nat) :
    TimerOk i ((s.elapse ms).reportTimer i) where
  stopped hnone := by simp [State.elapse, h.stopped hnone]
  running j hj := by
    rcases h.running j hj with ⟨hself, left, hleft, hle⟩
    exact ⟨hself, left - ms, by simp [State.elapse, hleft], (Nat.sub_le left ms).trans hle⟩
  positive := h.positive

theorem TimersOk.elapse {s : State} (h : TimersOk s) (ms : Nat) : TimersOk (s.elapse ms) where
  timer i := (h.timer i).elapse ms
  reporting left hleft := by
    simp only [State.elapse, Option.map_eq_some_iff] at hleft
    rcases hleft with ⟨before, hbefore, rfl⟩
    exact (Nat.sub_le before ms).trans (h.reporting before hbefore)

/-- The callback of an entry's timer counts the entry down, and the timer leaves the list. -/
theorem runTimer_eq {s : State} {i : Index} (h : TimerOk i (s.reportTimer i))
    (hrun : (s.reportTimer i).timer.isSome) :
    runTimer s i = (reportingTimerStart (if s.enabled (s.entry i) then s.setEntry i
        { s.entry i with
          minIntCnt := countDown (s.entry i).minIntCnt (s.reportTimer i).seconds
          maxIntCnt := countDown (s.entry i).maxIntCnt (s.reportTimer i).seconds }
      else s)).setTimer i {} := by
  cases hentry : (s.reportTimer i).pEntry with
  | none => simp [h.stopped hentry] at hrun
  | some j =>
      rcases h.running j hentry with ⟨rfl, -⟩
      simp [runTimer, reportAttrTimerCb, hentry, State.setTimer]

theorem leaves_runTimer {s : State} {i : Index} (h : TimerOk i (s.reportTimer i))
    (hrun : (s.reportTimer i).timer.isSome) : Leaves i s (runTimer s i) := by
  rw [runTimer_eq h hrun]
  refine Leaves.trans ?_ (leaves_setTimer _ i _)
  refine Leaves.trans ?_ (leaves_reportingTimerStart _ i)
  split
  · exact leaves_setEntry s i _
  · exact Leaves.refl i s

theorem runTimer_timer {s : State} {i : Index} (h : TimerOk i (s.reportTimer i))
    (hrun : (s.reportTimer i).timer.isSome) : (runTimer s i).reportTimer i = {} := by
  rw [runTimer_eq h hrun]
  exact setTimer_reportTimer_self _ i {}

theorem TimersOk.runTimer {s : State} (h : TimersOk s) {i : Index}
    (hrun : (s.reportTimer i).timer.isSome) : TimersOk (runTimer s i) :=
  h.leaves (leaves_runTimer (h.timer i) hrun)
    ((runTimer_timer (h.timer i) hrun).symm ▸ timerOk_empty i)

theorem TimersOk.step {s : State} (h : TimersOk s) (e : Event) : TimersOk (step table s e) := by
  cases e with
  | pass ms =>
      dsimp only [Reporting.step]
      split
      · exact h
      · exact h.elapse ms
  | timer i =>
      dsimp only [Reporting.step]
      split
      · rename_i hdue
        exact h.runTimer (by rw [hdue]; rfl)
      · exact h
  | reporting =>
      dsimp only [Reporting.step]
      split
      · rcases reportAttrs_sends table s with ⟨_, hsends⟩
        exact ⟨fun i => hsends.serves.reportTimer ▸ h.timer i, fun _ hnone => nomatch hnone⟩
      · exact h
  | handler joined =>
      dsimp only [Reporting.step, reportHandler]
      split
      · exact h.reportAttrTimerStart
      · exact h
  | configure endpoint profileId clusterId attrList => exact h.configReportHandler _ _ _ _
  | default endpoint profileID clusterID attrID minReportInt maxReportInt reportableChange =>
      dsimp only [Reporting.step, defaultReportingCfg]
      split
      · exact h
      · split
        · exact h
        · exact h.configureReporting _ _ _ _
  | write data => exact ⟨h.timer, h.reporting⟩
  | bind bound => exact ⟨h.timer, h.reporting⟩
  | reboot => exact ⟨timerOk_empty, fun _ hnone => nomatch hnone⟩

/-! ## The steps of one entry -/

/-- The entry and its timer are left alone. -/
structure Others (i : Index) (s s' : State) : Prop where
  entry : s'.entry i = s.entry i
  timer : s'.reportTimer i = s.reportTimer i
  reporting : Started s.reportingTimer s'.reportingTimer
  now : s'.now = s.now
  sent : s'.sent = s.sent
  bound : s.bound (s.entry i).clusterID (s.entry i).endPoint = true →
    s'.bound (s.entry i).clusterID (s.entry i).endPoint = true

/-- A step that does one thing to an entry. -/
inductive Micro (table : AttrTable) (G : Nat) (i : Index) (s s' : State) : Prop where
  | other (hother : Others i s s')
  | round (hok : StateOk table s) (hround : TimerRound table i s s') (hleaves : Leaves i s s')
  | elapse (ms : Nat) (hms : ms ≤ G) (hdue : s.timerDue = false) (hstep : s' = s.elapse ms)
  | fire (htimer : (s.reportTimer i).timer = some 0) (hstep : s' = runTimer s i)
  | report (hok : StateOk table s) (hdue : s.reportingTimer = some 0)
      (hstep : s' = runReporting table s)

/-- An event that neither configures nor unbinds an attribute, nor restarts the device, nor
keeps the main loop busy for longer than {lit}`G` milliseconds. -/
def Event.Quiet (G : Nat) (key : UInt8 × UInt16 × UInt16) : Event → Prop
  | .pass ms => ms ≤ G
  | .configure endpoint _ clusterId attrList =>
      ∀ rec ∈ attrList, (endpoint, clusterId, rec.attrID) ≠ key
  | .bind bound => bound key.2.1 key.1 = true
  | .reboot => False
  | _ => True

variable {G : Nat} {i : Index}

theorem Leaves.others {j : Index} {s s' : State} (h : Leaves j s s') (hne : i ≠ j) :
    Others i s s' where
  entry := h.entry i hne
  timer := h.timer i hne
  reporting := h.reporting
  now := h.now
  sent := h.sent
  bound := fun hbound => by rwa [h.bound]

/-- The rounds of {lit}`reportAttrTimerStart`. -/
theorem micro_rounds {s : State} (hok : StateOk table s) (is : List Index) :
    ReflTransGen (Micro table G i) s (is.foldl (timerStartAt table) s) := by
  induction is generalizing s with
  | nil => exact .refl
  | cons j is ih =>
      refine .head ?_ (ih (hok.timerStartAt j))
      by_cases heq : j = i
      · subst heq
        exact .round hok (timerRound_timerStartAt table s j) (leaves_timerStartAt table s j)
      · exact .other ((leaves_timerStartAt table s j).others (Ne.symm heq))

/-- Resetting another entry. -/
theorem micro_entryRst {s : State} (hok : StateOk table s) (htimers : TimersOk s) {j : Index}
    (hne : i ≠ j) : ReflTransGen (Micro table G i) s (entryRst table s j) := by
  dsimp only [entryRst]
  split
  · rename_i hused
    have hentry := hok.tab.entry j hused
    have hset := leaves_setEntry s j { s.entry j with
        minInterval := (s.entry j).minIntDft
        maxInterval := (s.entry j).maxIntDft
        minIntCnt := (s.entry j).minIntDft
        maxIntCnt := (s.entry j).maxIntDft
        reportableChange := Vector.replicate 8 0 }
    have hsetOk : StateOk table (s.setEntry j { s.entry j with
        minInterval := (s.entry j).minIntDft
        maxInterval := (s.entry j).maxIntDft
        minIntCnt := (s.entry j).minIntDft
        maxIntCnt := (s.entry j).maxIntDft
        reportableChange := Vector.replicate 8 0 }) :=
      hok.setEntry rfl rfl fun _ => ⟨hentry.attr, hentry.defaults, hentry.defaults,
        counts_self _, counts_self _⟩
    split
    · rename_i k hfind
      have hown : (s.reportTimer k).pEntry = some j := by simpa using List.find?_some hfind
      rcases (htimers.timer k).running j hown with ⟨rfl, -⟩
      exact .head (.other ((hset.trans (leaves_setTimer _ j _)).others hne))
        (micro_rounds (hsetOk.setTimer _ _) _)
    · exact .head (.other (hset.others hne)) (micro_rounds hsetOk _)
  · exact .refl

/-- Configuring another attribute. -/
theorem micro_configureReporting {s : State} (hok : StateOk table s) (htimers : TimersOk s)
    (hused : (s.entry i).used = true) {endpoint : UInt8} (profileId : UInt16)
    {clusterId : UInt16} {rec : CfgReportRec}
    (hkey : (endpoint, clusterId, rec.attrID) ≠ (s.entry i).key) :
    ReflTransGen (Micro table G i) s
      (configureReporting table s endpoint profileId clusterId rec).2 := by
  have hfound : ∀ j, entryFind s endpoint clusterId rec.attrID = some j → i ≠ j := by
    rintro j hfind rfl
    exact hkey (of_entryFind hfind).2.symm
  rcases configureReporting_cases table s endpoint profileId clusterId rec with
    hsame | ⟨j, hplace, -, hupdate⟩ | ⟨j, hfind, hrst⟩
  · rw [hsame]
  · have hne : i ≠ j := by
      cases hfind : entryFind s endpoint clusterId rec.attrID with
      | some k =>
          rw [hfind, Option.some_or] at hplace
          exact hfound j (hfind.trans hplace)
      | none =>
          rw [hfind, Option.none_or] at hplace
          rintro rfl
          have hunused : (s.entry i).used = false := by simpa using List.find?_some hplace
          exact absurd (hunused.symm.trans hused) Bool.false_ne_true
    rw [hupdate, entryUpdate]
    refine .single (.other ?_)
    split
    · have hleaves := leaves_setEntry s j ((s.entry j).add endpoint profileId clusterId rec)
      exact ⟨hleaves.entry i hne, rfl, Or.inl rfl, rfl, rfl, id⟩
    · exact (leaves_setEntry s j _).others hne
  · rw [hrst]
    exact micro_entryRst hok htimers (hfound j hfind)

/-- A step of one entry adjusts it. -/
theorem Micro.adjusts {s s' : State} (h : Micro table G i s s') :
    Adjusts (s.entry i) (s'.entry i) := by
  cases h with
  | other hother =>
      rw [hother.entry]
      exact Adjusts.refl _
  | round _ hround _ =>
      cases hround with
      | off _ hentry | missing _ _ hentry | repeats _ _ _ _ _ hentry | idle _ _ _ _ _ hentry =>
          rw [hentry]
          exact Adjusts.refl _
      | wait attr _ _ _ _ hentry =>
          rw [hentry]
          exact keep_adjusts s attr _
      | atOnce attr _ _ _ _ hentry =>
          rw [hentry]
          exact ⟨rfl, rfl, rfl, rfl, rfl, rfl, rfl, rfl, rfl, fun _ => counts_zero _, id⟩
  | elapse ms _ _ hstep =>
      rw [hstep]
      exact Adjusts.refl _
  | fire htimer hstep =>
      rw [hstep]
      exact (adjustsAll_runTimer s i).1.entry i
  | report _ _ hstep =>
      rcases reportAttrs_sends table s with ⟨_, hsends⟩
      have hentry : s'.entry i = (serveAt table s i).entry i := hstep ▸ hsends.entry i
      rw [hentry]
      exact adjusts_serveAt s i

theorem adjusts_of_micros {s s' : State} (h : ReflTransGen (Micro table G i) s s') :
    Adjusts (s.entry i) (s'.entry i) := by
  induction h with
  | refl => exact Adjusts.refl _
  | tail _ hstep ih => exact ih.trans hstep.adjusts

/-- The records of a command about other attributes. -/
theorem micro_configureAll {s : State} (hok : StateOk table s) (htimers : TimersOk s)
    (hused : (s.entry i).used = true) {endpoint : UInt8} (profileId : UInt16)
    {clusterId : UInt16} {attrList : List CfgReportRec}
    (hkeys : ∀ rec ∈ attrList, (endpoint, clusterId, rec.attrID) ≠ (s.entry i).key) :
    ReflTransGen (Micro table G i) s
      (configureAll table s endpoint profileId clusterId attrList) := by
  induction attrList generalizing s with
  | nil => exact .refl
  | cons rec attrList ih =>
      have hfirst : ReflTransGen (Micro table G i) s
          (configureReporting table s endpoint profileId clusterId rec).2 :=
        micro_configureReporting hok htimers hused profileId (hkeys rec List.mem_cons_self)
      have hadj := adjusts_of_micros hfirst
      refine hfirst.trans (ih (hok.configureReporting _ _ _ rec)
        (htimers.configureReporting _ _ _ rec)
        (hadj.used.trans hused) fun rec' hmem => ?_)
      rw [hadj.key]
      exact hkeys rec' (List.mem_cons_of_mem rec hmem)

/-- A quiet event consists of steps of the entry. -/
theorem micro_step {s : State} (hok : StateOk table s) (htimers : TimersOk s)
    (hused : (s.entry i).used = true) {e : Event} (hquiet : e.Quiet G (s.entry i).key) :
    ReflTransGen (Micro table G i) s (step table s e) := by
  cases e with
  | pass ms =>
      dsimp only [step]
      split
      · exact .refl
      · rename_i hdue
        exact .single (.elapse ms hquiet (Bool.not_eq_true _ ▸ hdue) rfl)
  | timer j =>
      dsimp only [step]
      split
      · rename_i hdue
        by_cases heq : j = i
        · subst heq
          exact .single (.fire hdue rfl)
        · have hleaves := leaves_runTimer (htimers.timer j) (by rw [hdue]; rfl)
          exact .single (.other (hleaves.others (Ne.symm heq)))
      · exact .refl
  | reporting =>
      dsimp only [step]
      split
      · rename_i hdue
        exact .single (.report hok hdue rfl)
      · exact .refl
  | handler joined =>
      dsimp only [step, reportHandler]
      split
      · exact micro_rounds hok _
      · exact .refl
  | configure endpoint profileId clusterId attrList =>
      have hall := micro_configureAll (G := G) hok htimers hused profileId hquiet
      rw [step, configReportHandler_eq]
      split
      · exact hall.tail (.other ⟨rfl, rfl, Or.inl rfl, rfl, rfl, id⟩)
      · exact hall
  | default endpoint profileID clusterID attrID minReportInt maxReportInt reportableChange =>
      dsimp only [step, defaultReportingCfg]
      split
      · exact .refl
      · rename_i hfind
        split
        · exact .refl
        · rw [Bool.not_eq_true, Option.isSome_eq_false_iff, Option.isNone_iff_eq_none] at hfind
          exact micro_configureReporting hok htimers hused profileID
            (key_ne_of_entryFind hfind hused).symm
  | write data => exact .single (.other ⟨rfl, rfl, Or.inl rfl, rfl, rfl, id⟩)
  | bind bound => exact .single (.other ⟨rfl, rfl, Or.inl rfl, rfl, rfl, fun _ => hquiet⟩)
  | reboot => exact hquiet.elim

/-! ## The reports of one entry -/

/-- A command holds the report of an attribute. -/
def ReportCmd.reports (cmd : ReportCmd) (key : UInt8 × UInt16 × UInt16) : Bool :=
  cmd.endpoint == key.1 && cmd.clusterId == key.2.1 &&
    cmd.attrList.any fun rec => rec.attrID == key.2.2

/-- The record of an entry that is due names its attribute. -/
theorem recordAt_attrID {s : State} {i : Index} (hdue : (s.dueAttr table i).isSome) :
    ∃ rec, recordAt table s i = [rec] ∧ rec.attrID = (s.entry i).attrID := by
  rcases Option.isSome_iff_exists.mp hdue with ⟨attr, hattr⟩
  refine ⟨s.record attr (s.entry i), by simp [recordAt, hattr], ?_⟩
  exact table.id_eq ((dueAttr_eq_some table).mp hattr).2.2

/-- A command of a call holds the report of an entry exactly if its group holds the entry. -/
theorem reports_commandOf {s : State} (hok : StateOk table s) (hused : (s.entry i).used = true)
    {g : List Index} (hdue : ∀ j ∈ g, (s.dueAttr table j).isSome)
    (hsame : ∀ j ∈ g, ∀ k ∈ g, (s.entry j).group = (s.entry k).group) :
    (commandOf table s g).filter (fun cmd => cmd.reports (s.entry i).key) =
      if i ∈ g then commandOf table s g else [] := by
  cases g with
  | nil => simp [commandOf]
  | cons h g =>
      have hiff : ReportCmd.reports ⟨s.now, (s.entry h).profileID, (s.entry h).clusterID,
          (s.entry h).endPoint, (h :: g).flatMap (recordAt table s)⟩ (s.entry i).key = true ↔
          i ∈ h :: g := by
        simp only [ReportCmd.reports, ReportCfgInfo.key, Bool.and_eq_true, beq_iff_eq,
          List.any_eq_true, List.mem_flatMap]
        constructor
        · rintro ⟨⟨hendPoint, hcluster⟩, rec, ⟨j, hj, hrec⟩, hattrID⟩
          rcases recordAt_attrID (hdue j hj) with ⟨rec', hrecord, hid⟩
          rw [hrecord, List.mem_singleton] at hrec
          subst hrec
          have hgroup := hsame h List.mem_cons_self j hj
          simp only [ReportCfgInfo.group, Prod.mk.injEq] at hgroup
          have hkey : (s.entry j).key = (s.entry i).key := by
            simp only [ReportCfgInfo.key, Prod.mk.injEq]
            exact ⟨hgroup.2.2.symm.trans hendPoint, hgroup.2.1.symm.trans hcluster,
              hid.symm.trans hattrID⟩
          rcases Option.isSome_iff_exists.mp (hdue j hj) with ⟨attr, hattr⟩
          have husedj := used_of_enabled ((dueAttr_eq_some table).mp hattr).1
          exact hok.tab.unique j i husedj hused hkey ▸ hj
        · intro hi
          have hgroup := hsame h List.mem_cons_self i hi
          simp only [ReportCfgInfo.group, Prod.mk.injEq] at hgroup
          rcases recordAt_attrID (hdue i hi) with ⟨rec, hrecord, hid⟩
          exact ⟨⟨hgroup.2.2, hgroup.2.1⟩, rec, ⟨i, hi, by simp [hrecord]⟩, hid⟩
      by_cases hi : i ∈ h :: g
      · have hreports := hiff.mpr hi
        simp only [if_pos hi]
        simpa [commandOf] using hreports
      · have hreports := mt hiff.mp hi
        simp only [if_neg hi]
        simpa [commandOf] using hreports

/-- A call sends one report of an entry that is due, and none of one that is not. -/
theorem sent_runReporting {s : State} (hok : StateOk table s) (hused : (s.entry i).used = true) :
    ∃ new, (runReporting table s).sent = s.sent ++ new ∧
      ((s.dueAttr table i).isSome → ∃ cmd, cmd.time = s.now ∧
        recordAt table s i ⊆ cmd.attrList ∧
          new.filter (fun cmd => cmd.reports (s.entry i).key) = [cmd]) ∧
      (s.dueAttr table i = none →
        new.filter (fun cmd => cmd.reports (s.entry i).key) = []) := by
  rcases reportAttrs_sends table s with ⟨groups, h⟩
  have hdue : ∀ g ∈ groups, ∀ j ∈ g, (s.dueAttr table j).isSome := fun g hg j hj =>
    (mem_dueList table).mp (h.once.mem_iff.mp (List.mem_flatten.mpr ⟨g, hg, hj⟩))
  have hfilter : (groups.flatMap (commandOf table s)).filter
      (fun cmd => cmd.reports (s.entry i).key) =
      groups.flatMap fun g => if i ∈ g then commandOf table s g else [] := by
    rw [List.filter_flatMap]
    exact List.flatMap_congr fun g hg => reports_commandOf hok hused (hdue g hg) (h.same g hg)
  have hmem : i ∈ groups.flatten ↔ (s.dueAttr table i).isSome :=
    h.once.mem_iff.trans (mem_dueList table)
  refine ⟨groups.flatMap (commandOf table s), h.sent, ?_, ?_⟩
  · intro hsome
    rcases List.mem_flatten.mp (hmem.mpr hsome) with ⟨g, hg, hi⟩
    rcases List.append_of_mem hg with ⟨before, after, rfl⟩
    have hnodup := h.once.nodup_iff.mpr (nodup_dueList table s)
    rw [List.flatten_append, List.flatten_cons] at hnodup
    have hothers : ∀ g' ∈ before ++ after, i ∉ g' := by
      intro g' hg' hi'
      rcases List.mem_append.mp hg' with hg' | hg'
      · have hdisjoint := (List.nodup_append.mp hnodup).2.2
        exact hdisjoint i (List.mem_flatten.mpr ⟨g', hg', hi'⟩) i
          (List.mem_append.mpr (Or.inl hi)) rfl
      · have hrest := (List.nodup_append.mp (List.nodup_append.mp hnodup).2.1).2.2
        exact hrest i hi i (List.mem_flatten.mpr ⟨g', hg', hi'⟩) rfl
    have hnone : ∀ gs : List (List Index), (∀ g' ∈ gs, i ∉ g') →
        (gs.flatMap fun g => if i ∈ g then commandOf table s g else []) = [] := by
      intro gs hgs
      rw [List.flatMap_eq_nil_iff]
      exact fun g' hg' => if_neg (hgs g' hg')
    have hone : ((before ++ g :: after).flatMap fun g =>
        if i ∈ g then commandOf table s g else []) = commandOf table s g := by
      rw [List.flatMap_append, List.flatMap_cons, if_pos hi,
        hnone before fun g' hg' => hothers g' (List.mem_append.mpr (Or.inl hg')),
        hnone after fun g' hg' => hothers g' (List.mem_append.mpr (Or.inr hg'))]
      simp
    cases g with
    | nil => cases hi
    | cons j g =>
        refine ⟨⟨s.now, (s.entry j).profileID, (s.entry j).clusterID, (s.entry j).endPoint,
          (j :: g).flatMap (recordAt table s)⟩, rfl, fun rec hrec => ?_, hfilter.trans hone⟩
        exact List.mem_flatMap.mpr ⟨i, hi, hrec⟩
  · intro hnone
    have hempty : (groups.flatMap fun g => if i ∈ g then commandOf table s g else []) = [] := by
      rw [List.flatMap_eq_nil_iff]
      intro g hg
      rw [if_neg]
      intro hi
      have hsome := hdue g hg i hi
      rw [hnone] at hsome
      exact absurd hsome (by simp)
    rw [hfilter, hempty]

/-! ## What the steps keep -/

theorem enabled_of_adjusts {s s' : State} (hadj : Adjusts (s.entry i) (s'.entry i))
    (hbound : s.bound (s.entry i).clusterID (s.entry i).endPoint = true →
      s'.bound (s.entry i).clusterID (s.entry i).endPoint = true)
    (henabled : s.enabled (s.entry i) = true) : s'.enabled (s'.entry i) = true := by
  have hkey := hadj.key
  simp only [ReportCfgInfo.key, Prod.mk.injEq] at hkey
  simp only [State.enabled, Bool.and_eq_true] at henabled ⊢
  rw [hadj.used, hadj.maxInterval, hkey.1, hkey.2.1]
  exact ⟨henabled.1, hbound henabled.2⟩

theorem Micro.bound {s s' : State} (h : Micro table G i s s')
    (htimer : TimerOk i (s.reportTimer i)) :
    s.bound (s.entry i).clusterID (s.entry i).endPoint = true →
      s'.bound (s.entry i).clusterID (s.entry i).endPoint = true := by
  intro hbound
  cases h with
  | other hother => exact hother.bound hbound
  | round _ _ hleaves => rwa [hleaves.bound]
  | elapse ms _ _ hstep => rwa [hstep]
  | fire hdue hstep =>
      have hleaves := leaves_runTimer htimer (by rw [hdue]; rfl)
      rwa [hstep, hleaves.bound]
  | report _ _ hstep =>
      rcases reportAttrs_sends table s with ⟨_, hsends⟩
      have hsame : s'.bound = s.bound := hstep ▸ hsends.serves.bound
      rwa [hsame]

/-- What holds of an entry that is looked at while it is neither configured nor unbound. -/
structure Watched (i : Index) (s : State) : Prop where
  enabled : s.enabled (s.entry i) = true
  timer : TimerOk i (s.reportTimer i)
  reporting : ∀ ms, s.reportingTimer = some ms → ms ≤ 100
  minCounts : Counts (s.entry i).minInterval (s.entry i).minIntCnt
  maxCounts : Counts (s.entry i).maxInterval (s.entry i).maxIntCnt

theorem Watched.micro {s s' : State} (h : Watched i s) (hstep : Micro table G i s s') :
    Watched i s' := by
  have hadj := hstep.adjusts
  refine ⟨enabled_of_adjusts hadj (hstep.bound h.timer) h.enabled, ?_, ?_,
    hadj.minCounts h.minCounts, hadj.maxCounts h.maxCounts⟩
  · cases hstep with
    | other hother =>
        rw [hother.timer]
        exact h.timer
    | round _ hround _ => exact hround.timerOk h.timer
    | elapse ms _ _ hs' =>
        rw [hs']
        exact h.timer.elapse ms
    | fire hdue hs' =>
        rw [hs', runTimer_timer h.timer (by rw [hdue]; rfl)]
        exact timerOk_empty i
    | report _ _ hs' =>
        rcases reportAttrs_sends table s with ⟨_, hsends⟩
        have hsame : s'.reportTimer = s.reportTimer := hs' ▸ hsends.serves.reportTimer
        rw [hsame]
        exact h.timer
  · cases hstep with
    | other hother => exact hother.reporting.le h.reporting
    | round _ _ hleaves => exact hleaves.reporting.le h.reporting
    | elapse ms _ _ hs' =>
        rw [hs']
        intro left hleft
        simp only [State.elapse, Option.map_eq_some_iff] at hleft
        rcases hleft with ⟨before, hbefore, rfl⟩
        exact (Nat.sub_le before ms).trans (h.reporting before hbefore)
    | fire hdue hs' =>
        rw [hs']
        exact (leaves_runTimer h.timer (by rw [hdue]; rfl)).reporting.le h.reporting
    | report _ _ hs' =>
        rw [hs']
        exact fun _ hnone => nomatch hnone

theorem StateOk.watched {s : State} (hok : StateOk table s) (htimers : TimersOk s)
    (henabled : s.enabled (s.entry i) = true) : Watched i s :=
  have hentry := hok.tab.entry i (used_of_enabled henabled)
  ⟨henabled, htimers.timer i, htimers.reporting, hentry.minCounts, hentry.maxCounts⟩

/-- An entry that is looked at and valid is due. -/
theorem StateOk.due {s : State} (hok : StateOk table s) (henabled : s.enabled (s.entry i) = true)
    (hvalid : (s.entry i).valid = true) : (s.dueAttr table i).isSome := by
  rcases (hok.tab.entry i (used_of_enabled henabled)).attr with ⟨attr, hattr, -⟩
  rw [(dueAttr_eq_some table).mpr ⟨henabled, hvalid, hattr⟩]
  rfl

/-- A round does not take back that an entry is to be reported. -/
theorem TimerRound.valid {s s' : State} (h : TimerRound table i s s')
    (hvalid : (s.entry i).valid = true) : (s'.entry i).valid = true := by
  cases h with
  | off _ hentry | missing _ _ hentry | repeats _ _ _ _ _ hentry | idle _ _ _ _ _ hentry =>
      rw [hentry]
      exact hvalid
  | wait _ _ _ _ _ hentry =>
      rw [hentry]
      exact hvalid
  | atOnce _ _ _ _ _ hentry =>
      rw [hentry]
      simp [ReportCfgInfo.valid]

/-- What the callback of its timer makes of an entry that is looked at. -/
theorem runTimer_entry {s : State} (h : Watched i s) (hrun : (s.reportTimer i).timer.isSome) :
    (runTimer s i).entry i = { s.entry i with
      minIntCnt := countDown (s.entry i).minIntCnt (s.reportTimer i).seconds
      maxIntCnt := countDown (s.entry i).maxIntCnt (s.reportTimer i).seconds } ∧
    (runTimer s i).reportingTimer.isSome := by
  rw [runTimer_eq h.timer hrun, if_pos h.enabled]
  refine ⟨?_, (started_reportingTimerStart _).2⟩
  rw [setTimer_entry, State.entry, reportingTimerStart_tab]
  exact setEntry_entry_self s i _

theorem countDown_zero (seconds : UInt16) : countDown 0 seconds = 0 := by
  unfold countDown
  split
  · rename_i hle
    have hzero : seconds = 0 := by
      apply UInt16.toNat_inj.mp
      have hle' := UInt16.le_iff_toNat_le.mp hle
      simpa using hle'
    rw [hzero]
    rfl
  · rfl

theorem countDown_of_le {cnt seconds : UInt16} (hle : cnt ≤ seconds) :
    countDown cnt seconds = 0 := by
  unfold countDown
  split
  · rename_i hge
    have heq : cnt = seconds := UInt16.le_antisymm hle hge
    rw [heq, UInt16.sub_self]
  · rfl

/-- Counting down does not take back that an entry is to be reported. -/
theorem valid_countDown {entry : ReportCfgInfo} (hvalid : entry.valid = true) (seconds : UInt16) :
    ReportCfgInfo.valid { entry with
      minIntCnt := countDown entry.minIntCnt seconds
      maxIntCnt := countDown entry.maxIntCnt seconds } = true := by
  simp only [ReportCfgInfo.valid, Bool.or_eq_true, Bool.and_eq_true, beq_iff_eq] at hvalid ⊢
  rcases hvalid with ⟨hmax, hne⟩ | hmin
  · rw [hmax]
    exact Or.inl ⟨countDown_zero seconds, hne⟩
  · rw [hmin]
    exact Or.inr (countDown_zero seconds)

/-! ## Waiting for a report -/

/-- An entry waits for its report, which the timers send at {lit}`T` and a little later: it is
collected already, or its timer measures one of the two intervals. -/
inductive Waits (T G : Nat) (i : Index) (s : State) : Prop where
  | collected (ms : Nat) (hvalid : (s.entry i).valid = true)
      (hreporting : s.reportingTimer = some ms)
      (hle : s.now + ms ≤ T + G + 100 + if ms = 0 then G else 0)
  | min (left : Nat) (hmin : (s.entry i).minInterval ≠ 0)
      (hself : (s.reportTimer i).pEntry = some i) (hwhich : (s.reportTimer i).minOrMax = .min)
      (hseconds : (s.reportTimer i).seconds = (s.entry i).minInterval)
      (htimer : (s.reportTimer i).timer = some left)
      (hle : s.now + left ≤ T + if left = 0 then G else 0)
  | max (left : Nat) (hmax : (s.entry i).maxInterval ≠ 0)
      (hself : (s.reportTimer i).pEntry = some i) (hwhich : (s.reportTimer i).minOrMax = .max)
      (hseconds : (s.reportTimer i).seconds = (s.entry i).maxInterval)
      (htimer : (s.reportTimer i).timer = some left)
      (hle : s.now + left + (s.entry i).minInterval.toNat * 1000 +
        (if left = 0 then 0 else G) ≤ T)

theorem stopMax_of_min {timer : ReportTimerEvt} (hwhich : timer.minOrMax = .min) :
    timer.stopMax = timer := by
  have hnot : (timer.minOrMax == .max) = false := by rw [hwhich]; rfl
  rw [ReportTimerEvt.stopMax, hnot, Bool.and_false]
  rfl

theorem stopMax_of_max {timer : ReportTimerEvt} (hself : timer.pEntry = some i)
    (hwhich : timer.minOrMax = .max) : timer.stopMax = {} := by
  have hsome : (timer.minOrMax == .max) = true := by rw [hwhich]; rfl
  rw [ReportTimerEvt.stopMax, ReportTimerEvt.stop, hsome, hself]
  rfl

theorem start_of_running {timer : ReportTimerEvt} {j : Index} (hself : timer.pEntry = some j)
    (seconds : UInt16) (minOrMax : MinOrMax) : timer.start i seconds minOrMax = timer := by
  rw [ReportTimerEvt.start, hself]
  rfl

/-- While the entry waits, a round of the timer starts leaves it waiting. -/
theorem Waits.round {T : Nat} {s s' : State} (h : Waits T G i s) (hwatched : Watched i s)
    (hok : StateOk table s) (hround : TimerRound table i s s') (hleaves : Leaves i s s') :
    Waits T G i s' := by
  have hnow := hleaves.now
  have hcollect : s.now ≤ T + G → (s'.entry i).valid = true → s'.reportingTimer.isSome →
      Waits T G i s' := by
    intro hle hvalid hsome
    rcases Option.isSome_iff_exists.mp hsome with ⟨ms, hms⟩
    have hms' := hleaves.reporting.le hwatched.reporting ms hms
    refine .collected ms hvalid hms ?_
    rw [hnow]
    omega
  cases h with
  | collected ms hvalid hreporting hle =>
      have hsame : s'.reportingTimer = some ms := by
        rcases hleaves.reporting with heq | ⟨hnone, -⟩
        · exact heq.trans hreporting
        · exact absurd (hnone.symm.trans hreporting) (by simp)
      exact .collected ms (hround.valid hvalid) hsame (hnow.symm ▸ hle)
  | min left hmin hself hwhich hseconds htimer hle =>
      have hpast : s.now ≤ T + G := by
        split at hle <;> omega
      have hkept : ∀ {entry : ReportCfgInfo}, s'.entry i = entry →
          entry.minInterval = (s.entry i).minInterval →
          s'.reportTimer i = s.reportTimer i → Waits T G i s' := by
        intro entry hentry hsame htimer'
        have hinterval : (s'.entry i).minInterval = (s.entry i).minInterval := hentry ▸ hsame
        refine .min left (hinterval ▸ hmin) (htimer' ▸ hself) (htimer' ▸ hwhich) ?_
          (htimer' ▸ htimer) (hnow.symm ▸ hle)
        rw [htimer', hinterval]
        exact hseconds
      cases hround with
      | off henabled => exact absurd (henabled.symm.trans hwatched.enabled) Bool.false_ne_true
      | missing henabled hnone =>
          rcases (hok.tab.entry i (used_of_enabled henabled)).attr with ⟨attr, hattr, -⟩
          exact absurd (hnone.symm.trans hattr) (by simp)
      | atOnce attr _ _ _ _ hentry _ hreporting =>
          refine hcollect hpast ?_ hreporting
          rw [hentry]
          simp [ReportCfgInfo.valid]
      | wait attr _ _ _ _ hentry htimer' =>
          refine hkept hentry rfl ?_
          rw [htimer', stopMax_of_min hwhich, start_of_running hself]
      | repeats attr _ _ _ _ hentry htimer' =>
          refine hkept hentry rfl ?_
          rw [htimer', stopMax_of_min hwhich, ite_self, start_of_running hself]
      | idle attr _ _ _ _ hentry htimer' =>
          refine hkept hentry rfl ?_
          rw [htimer', stopMax_of_min hwhich]
  | max left hmax hself hwhich hseconds htimer hle =>
      have hpast : s.now ≤ T + G := by
        split at hle <;> omega
      cases hround with
      | off henabled => exact absurd (henabled.symm.trans hwatched.enabled) Bool.false_ne_true
      | missing henabled hnone =>
          rcases (hok.tab.entry i (used_of_enabled henabled)).attr with ⟨attr, hattr, -⟩
          exact absurd (hnone.symm.trans hattr) (by simp)
      | atOnce attr _ _ _ _ hentry _ hreporting =>
          refine hcollect hpast ?_ hreporting
          rw [hentry]
          simp [ReportCfgInfo.valid]
      | wait attr _ _ _ hatOnce hentry htimer' =>
          have hmin := minInterval_ne_of_atOnce hatOnce
          have hstart : s'.reportTimer i = ⟨some i, (s.entry i).minInterval, .min,
              some ((s.entry i).minInterval.toNat * 1000)⟩ := by
            rw [htimer', stopMax_of_max hself hwhich]
            rfl
          have hinterval : (s'.entry i).minInterval = (s.entry i).minInterval := by
            rw [hentry]
            rfl
          refine .min ((s.entry i).minInterval.toNat * 1000) (hinterval ▸ hmin) (by rw [hstart])
            (by rw [hstart]) (by rw [hstart, hinterval]) (by rw [hstart]) ?_
          rw [hnow]
          omega
      | repeats attr _ _ _ _ hentry htimer' =>
          have hsame : s'.reportTimer i = s.reportTimer i := by
            rw [htimer', if_neg (not_not.mpr hseconds), start_of_running hself]
          refine .max left (hentry.symm ▸ hmax) (hsame ▸ hself) (hsame ▸ hwhich) ?_
            (hsame ▸ htimer) ?_
          · rw [hsame, hentry]
            exact hseconds
          · rw [hentry, hnow]
            exact hle
      | idle attr _ _ _ hzero => exact absurd hzero hmax

/-- Only a call of {lit}`reportAttrs` sends anything. -/
theorem Micro.sent {s s' : State} (h : Micro table G i s s') (hwatched : Watched i s) :
    s'.sent = s.sent ∨ StateOk table s ∧ s' = runReporting table s := by
  cases h with
  | other hother => exact Or.inl hother.sent
  | round _ _ hleaves => exact Or.inl hleaves.sent
  | elapse ms _ _ hstep => exact Or.inl (hstep ▸ rfl)
  | fire hdue hstep =>
      exact Or.inl (hstep ▸ (leaves_runTimer hwatched.timer (by rw [hdue]; rfl)).sent)
  | report hok _ hstep => exact Or.inr ⟨hok, hstep⟩

theorem Started.of_some {timer timer' : Option Nat} (h : Started timer timer') {ms : Nat}
    (hsome : timer = some ms) : timer' = some ms := by
  rcases h with heq | ⟨hnone, -⟩
  · exact heq.trans hsome
  · exact absurd (hnone.symm.trans hsome) (by simp)

theorem Waits.now_le {T : Nat} {s : State} (h : Waits T G i s) : s.now ≤ T + 2 * G + 100 := by
  cases h with
  | collected ms _ _ hle => split at hle <;> omega
  | min left _ _ _ _ _ hle => split at hle <;> omega
  | max left _ _ _ _ _ hle => split at hle <;> omega

/-- While the entry waits, the time that passes leaves it waiting. -/
theorem Waits.elapse {T ms : Nat} {s : State} (h : Waits T G i s) (hms : ms ≤ G)
    (hdue : s.timerDue = false) : Waits T G i (s.elapse ms) := by
  simp only [State.timerDue, Bool.or_eq_false_iff, List.any_eq_false, beq_eq_false_iff_ne,
    ne_eq, beq_iff_eq] at hdue
  rcases hdue with ⟨hreportingDue, htimerDue⟩
  have htimerDue := htimerDue i (List.mem_finRange i)
  cases h with
  | collected left hvalid hreporting hle =>
      have hpos : left ≠ 0 := fun hzero => hreportingDue (hzero ▸ hreporting)
      rw [if_neg hpos] at hle
      refine .collected (left - ms) hvalid ?_ ?_
      · simp [State.elapse, hreporting]
      · change s.now + ms + (left - ms) ≤ _
        split <;> omega
  | min left hmin hself hwhich hseconds htimer hle =>
      have hpos : left ≠ 0 := fun hzero => htimerDue (hzero ▸ htimer)
      rw [if_neg hpos] at hle
      refine .min (left - ms) hmin hself hwhich hseconds ?_ ?_
      · simp [State.elapse, htimer]
      · change s.now + ms + (left - ms) ≤ _
        split <;> omega
  | max left hmax hself hwhich hseconds htimer hle =>
      have hpos : left ≠ 0 := fun hzero => htimerDue (hzero ▸ htimer)
      rw [if_neg hpos] at hle
      refine .max (left - ms) hmax hself hwhich hseconds ?_ ?_
      · simp [State.elapse, htimer]
      · change s.now + ms + (left - ms) + _ + _ ≤ _
        have hsame : ((s.elapse ms).entry i).minInterval = (s.entry i).minInterval := rfl
        rw [hsame]
        split <;> omega

/-- When its timer has run out, the entry is collected. -/
theorem Waits.fire {T : Nat} {s : State} (h : Waits T G i s) (hwatched : Watched i s)
    (hdue : (s.reportTimer i).timer = some 0) : Waits T G i (runTimer s i) := by
  have hrun : (s.reportTimer i).timer.isSome := by rw [hdue]; rfl
  have hleaves := leaves_runTimer hwatched.timer hrun
  rcases runTimer_entry hwatched hrun with ⟨hentry, hsome⟩
  rcases Option.isSome_iff_exists.mp hsome with ⟨ms, hms⟩
  have hms' := hleaves.reporting.le hwatched.reporting ms hms
  cases h with
  | collected left hvalid hreporting hle =>
      refine .collected left ?_ (hleaves.reporting.of_some hreporting) (hleaves.now.symm ▸ hle)
      rw [hentry]
      exact valid_countDown hvalid _
  | min left hmin hself hwhich hseconds htimer hle =>
      have hzero : left = 0 := Option.some.inj (htimer.symm.trans hdue)
      rw [if_pos hzero] at hle
      refine .collected ms ?_ hms ?_
      · rw [hentry, hseconds]
        simp [ReportCfgInfo.valid, countDown_of_le (hwatched.minCounts hmin)]
      · rw [hleaves.now]
        omega
  | max left hmax hself hwhich hseconds htimer hle =>
      refine .collected ms ?_ hms ?_
      · rw [hentry, hseconds]
        simp [ReportCfgInfo.valid, countDown_of_le (hwatched.maxCounts hmax), hmax]
      · rw [hleaves.now]
        split at hle <;> omega

/-- A step leaves the entry waiting, or it sends its report. -/
theorem Waits.micro {T : Nat} {s s' : State} (h : Waits T G i s) (hwatched : Watched i s)
    (hstep : Micro table G i s s') :
    Waits T G i s' ∨ ∃ new cmd, s'.sent = s.sent ++ new ∧ cmd ∈ new ∧
      cmd.reports (s.entry i).key = true ∧ cmd.time = s.now := by
  cases hstep with
  | other hother =>
      left
      cases h with
      | collected ms hvalid hreporting hle =>
          exact .collected ms (hother.entry.symm ▸ hvalid) (hother.reporting.of_some hreporting)
            (hother.now.symm ▸ hle)
      | min left hmin hself hwhich hseconds htimer hle =>
          refine .min left (hother.entry.symm ▸ hmin) (hother.timer.symm ▸ hself)
            (hother.timer.symm ▸ hwhich) ?_ (hother.timer.symm ▸ htimer) (hother.now.symm ▸ hle)
          rw [hother.timer, hother.entry]
          exact hseconds
      | max left hmax hself hwhich hseconds htimer hle =>
          refine .max left (hother.entry.symm ▸ hmax) (hother.timer.symm ▸ hself)
            (hother.timer.symm ▸ hwhich) ?_ (hother.timer.symm ▸ htimer) ?_
          · rw [hother.timer, hother.entry]
            exact hseconds
          · rw [hother.entry, hother.now]
            exact hle
  | round hok hround hleaves => exact Or.inl (h.round hwatched hok hround hleaves)
  | elapse ms hms hdue hs' => exact Or.inl (hs' ▸ h.elapse hms hdue)
  | fire hdue hs' => exact Or.inl (hs' ▸ h.fire hwatched hdue)
  | report hok hdue hs' =>
      rcases reportAttrs_sends table s with ⟨groups, hsends⟩
      have htimers : s'.reportTimer = s.reportTimer := hs' ▸ hsends.serves.reportTimer
      have hnow : s'.now = s.now := hs' ▸ hsends.serves.now
      by_cases hvalid : (s.entry i).valid = true
      · right
        rcases sent_runReporting hok (used_of_enabled hwatched.enabled) with ⟨new, hsent, hsome, -⟩
        rcases hsome (hok.due hwatched.enabled hvalid) with ⟨cmd, htime, -, hcmd⟩
        have hmem : cmd ∈ new.filter fun cmd => cmd.reports (s.entry i).key := by
          rw [hcmd]
          exact List.mem_singleton_self cmd
        rw [List.mem_filter] at hmem
        exact ⟨new, cmd, hs' ▸ hsent, hmem.1, hmem.2, htime⟩
      · left
        have hnone : s.dueAttr table i = none := by
          simp [State.dueAttr, hvalid]
        have hentry : s'.entry i = s.entry i := by
          have hserved : s'.entry i = (serveAt table s i).entry i := hs' ▸ hsends.entry i
          rw [hserved]
          simp only [serveAt, hnone]
        cases h with
        | collected ms hvalid' => exact absurd hvalid' hvalid
        | min left hmin hself hwhich hseconds htimer hle =>
            refine .min left (hentry.symm ▸ hmin) (htimers.symm ▸ hself) (htimers.symm ▸ hwhich) ?_
              (htimers.symm ▸ htimer) (hnow.symm ▸ hle)
            rw [htimers, hentry]
            exact hseconds
        | max left hmax hself hwhich hseconds htimer hle =>
            refine .max left (hentry.symm ▸ hmax) (htimers.symm ▸ hself) (htimers.symm ▸ hwhich) ?_
              (htimers.symm ▸ htimer) ?_
            · rw [htimers, hentry]
              exact hseconds
            · rw [hentry, hnow]
              exact hle

/-- A timer that measures the shortest interval measures the one that is configured now. -/
def UpToDate (i : Index) (s : State) : Prop :=
  (s.reportTimer i).pEntry.isSome → (s.reportTimer i).minOrMax = .min →
    (s.reportTimer i).seconds = (s.entry i).minInterval

theorem stopMax_of_none {timer : ReportTimerEvt} (hnone : timer.pEntry = none) :
    timer.stopMax = timer := by
  rw [ReportTimerEvt.stopMax, hnone]
  rfl

theorem start_of_none {timer : ReportTimerEvt} (hnone : timer.pEntry = none) (seconds : UInt16)
    (minOrMax : MinOrMax) : timer.start i seconds minOrMax =
      ⟨some i, seconds, minOrMax, some (seconds.toNat * 1000)⟩ := by
  rw [ReportTimerEvt.start, hnone]
  rfl

/-- What a timer is after it may have been stopped and started for an interval. -/
theorem timer_cases {timer : ReportTimerEvt} (h : TimerOk i timer) :
    timer.pEntry = none ∨ ∃ left, timer.pEntry = some i ∧ timer.timer = some left ∧
      left ≤ timer.seconds.toNat * 1000 := by
  cases hentry : timer.pEntry with
  | none => exact Or.inl rfl
  | some j =>
      rcases h.running j hentry with ⟨rfl, left, hleft, hle⟩
      exact Or.inr ⟨left, rfl, hleft, hle⟩

/-- A round makes an entry wait if its data changed, or if it is to be reported again and
again anyway. -/
theorem TimerRound.waits {T : Nat} {s s' : State} (hround : TimerRound table i s s')
    (hleaves : Leaves i s s') (hok : StateOk table s) (hwatched : Watched i s)
    (hfresh : UpToDate i s) (hT : s.now + (s.entry i).minInterval.toNat * 1000 ≤ T)
    (hwhy : (∃ attr, table.attrOf (s.entry i) = some attr ∧
        s.changed attr (s.entry i) = true) ∨
      (s.entry i).maxInterval ≠ 0 ∧ s.now + (s.entry i).maxInterval.toNat * 1000 +
        (s.entry i).minInterval.toNat * 1000 + G ≤ T) : Waits T G i s' := by
  have hnow := hleaves.now
  cases hround with
  | off henabled => exact absurd (henabled.symm.trans hwatched.enabled) Bool.false_ne_true
  | missing henabled hnone =>
      rcases (hok.tab.entry i (used_of_enabled henabled)).attr with ⟨attr, hattr, -⟩
      exact absurd (hnone.symm.trans hattr) (by simp)
  | atOnce attr _ _ _ _ hentry _ hreporting =>
      rcases Option.isSome_iff_exists.mp hreporting with ⟨ms, hms⟩
      have hms' := hleaves.reporting.le hwatched.reporting ms hms
      refine .collected ms ?_ hms ?_
      · rw [hentry]
        simp [ReportCfgInfo.valid]
      · rw [hnow]
        omega
  | wait attr _ _ _ hatOnce hentry htimer =>
      have hmin := minInterval_ne_of_atOnce hatOnce
      have hinterval : (s'.entry i).minInterval = (s.entry i).minInterval := by
        rw [hentry]
        rfl
      have hstarted : s'.reportTimer i = ⟨some i, (s.entry i).minInterval, .min,
          some ((s.entry i).minInterval.toNat * 1000)⟩ → Waits T G i s' := by
        intro hstart
        refine .min ((s.entry i).minInterval.toNat * 1000) (hinterval ▸ hmin) (by rw [hstart])
          (by rw [hstart]) (by rw [hstart, hinterval]) (by rw [hstart]) ?_
        rw [hnow]
        omega
      rcases timer_cases hwatched.timer with hnone | ⟨left, hself, hleft, hle⟩
      · apply hstarted
        rw [htimer, stopMax_of_none hnone, start_of_none hnone]
      · cases hwhich : (s.reportTimer i).minOrMax with
        | max =>
            apply hstarted
            rw [htimer, stopMax_of_max hself hwhich]
            rfl
        | min =>
            have hsame : s'.reportTimer i = s.reportTimer i := by
              rw [htimer, stopMax_of_min hwhich, start_of_running hself]
            have hseconds := hfresh (by rw [hself]; rfl) hwhich
            rw [hseconds] at hle
            refine .min left (hinterval ▸ hmin) (hsame ▸ hself) (hsame ▸ hwhich) ?_
              (hsame ▸ hleft) ?_
            · rw [hsame, hinterval]
              exact hseconds
            · rw [hnow]
              omega
  | repeats attr _ hattr hsame hmax hentry htimer =>
      have hlong : s.now + (s.entry i).maxInterval.toNat * 1000 +
          (s.entry i).minInterval.toNat * 1000 + G ≤ T := by
        rcases hwhy with ⟨attr', hattr', hchanged⟩ | ⟨-, hlong⟩
        · cases hattr.symm.trans hattr'
          exact absurd (hsame.symm.trans hchanged) Bool.false_ne_true
        · exact hlong
      have hstarted : s'.reportTimer i = ⟨some i, (s.entry i).maxInterval, .max,
          some ((s.entry i).maxInterval.toNat * 1000)⟩ → Waits T G i s' := by
        intro hstart
        refine .max ((s.entry i).maxInterval.toNat * 1000) (hentry.symm ▸ hmax) (by rw [hstart])
          (by rw [hstart]) (by rw [hstart, hentry]) (by rw [hstart]) ?_
        rw [hnow, hentry]
        split <;> omega
      rcases timer_cases hwatched.timer with hnone | ⟨left, hself, hleft, hle⟩
      · apply hstarted
        rw [htimer, stopMax_of_none hnone, ite_self, start_of_none hnone]
      · cases hwhich : (s.reportTimer i).minOrMax with
        | max =>
            by_cases hseconds : (s.reportTimer i).seconds = (s.entry i).maxInterval
            · have hkept : s'.reportTimer i = s.reportTimer i := by
                rw [htimer, if_neg (not_not.mpr hseconds), start_of_running hself]
              rw [hseconds] at hle
              refine .max left (hentry.symm ▸ hmax) (hkept ▸ hself) (hkept ▸ hwhich) ?_
                (hkept ▸ hleft) ?_
              · rw [hkept, hentry]
                exact hseconds
              · rw [hnow, hentry]
                split <;> omega
            · apply hstarted
              rw [htimer, if_pos hseconds, stopMax_of_max hself hwhich]
              rfl
        | min =>
            have hkept : s'.reportTimer i = s.reportTimer i := by
              rw [htimer, stopMax_of_min hwhich, ite_self, start_of_running hself]
            have hseconds := hfresh (by rw [hself]; rfl) hwhich
            rw [hseconds] at hle
            have hmin := hseconds ▸ hwatched.timer.positive i hself hwhich
            refine .min left (hentry.symm ▸ hmin) (hkept ▸ hself) (hkept ▸ hwhich) ?_
              (hkept ▸ hleft) ?_
            · rw [hkept, hentry]
              exact hseconds
            · rw [hnow]
              omega
  | idle attr _ hattr hsame hmax =>
      rcases hwhy with ⟨attr', hattr', hchanged⟩ | ⟨hne, -⟩
      · cases hattr.symm.trans hattr'
        exact absurd (hsame.symm.trans hchanged) Bool.false_ne_true
      · exact absurd hmax hne

end Reporting
