import TuyaMiniSwitch.App.SwitchCalls
import TuyaMiniSwitch.Library.Machine

/-!
# Application - Holds and releases

A multifunction switch reports {lit}`ACTION_HOLD` and {lit}`ACTION_RELEASE`, a light
control switch starts and stops a movement.  The two functions are one poll with
different calls, and the flag {lit}`released`, which a click sets, is taken back only half
a second after the latest press.  A hold that begins in this time is released at once.

Main results:

- Definition {lit}`HeldSwitch`: the two functions as one.
- Theorem {lit}`follows_poll`: a monitor of the pairing follows a poll that begins no hold
  while the flag is set.
- Theorem {lit}`hold_release_paired`: holds and releases are paired along such runs.
- Theorem {lit}`hold_release_broken`: a click and a hold.
-/

namespace Firmware

open Machine Utility OnOffLog

/-! ## Pairing -/

/-- What happens in a run, in the order of the code. -/
inductive Mark where
  /-- A debounced press. -/
  | press
  /-- A debounced open. -/
  | opens
  /-- A HOLD action. -/
  | hold
  /-- A RELEASE action. -/
  | release
  deriving Repr, DecidableEq

/-- What the law about holds and releases needs to know: whether the contact was not
debounced open since the last debounced press, and whether there is a hold without a
release, with whether the contact was debounced open since. -/
structure Pairing where
  down : Bool
  held : Option Bool
  deriving Repr, DecidableEq

/-- A hold needs a contact that is down and no hold before it without a release.  A
release needs a hold without a release and a debounced open since. -/
def Pairing.observe (m : Pairing) : Mark → Option Pairing
  | .press => some { m with down := true }
  | .opens => some { down := false, held := m.held.map fun _ => true }
  | .hold => if m.down = true ∧ m.held = none then some { m with held := some false } else none
  | .release => if m.held = some true then some { m with held := none } else none

/-- Holds and releases are paired. -/
def Paired (marks : List Mark) : Prop :=
  (marks.foldlM Pairing.observe { down := false, held := none }).isSome

instance (marks : List Mark) : Decidable (Paired marks) :=
  inferInstanceAs (Decidable (_ = true))

/-! ## The two functions -/

/-- A poll that tells presses from holds: what it calls when a hold begins and when a
burst is over. -/
structure HeldSwitch where
  held : AppSwitch → AppSwitch × List SwitchCall
  finished : AppSwitch → List SwitchCall
  isHold : SwitchCall → Bool
  isRelease : SwitchCall → Bool
  held_frame : ∀ p_switch, ∃ level_dir, (held p_switch).1 = { p_switch with level_dir := level_dir }
  held_calls : ∀ p_switch, ∃ call, (held p_switch).2 = [call] ∧ isHold call = true ∧
    isRelease call = false
  finished_hold : ∀ p_switch, p_switch.hold = true →
    ∃ call, finished p_switch = [call] ∧ isHold call = false ∧ isRelease call = true
  finished_other : ∀ p_switch, p_switch.hold = false →
    ∀ call ∈ finished p_switch, isHold call = false ∧ isRelease call = false
  rejoin : isHold .zbRejoinReq = false ∧ isRelease .zbRejoinReq = false

/-- What a poll of such a switch is given. -/
structure HeldPoll where
  contact : Bool
  poll : Poll
  deriving Repr, DecidableEq

/-- A poll of such a switch. -/
def HeldSwitch.read (k : HeldSwitch) (p_switch : AppSwitch) (e : HeldPoll) :
    AppSwitch × List SwitchCall :=
  readSwitchHeld k.held k.finished p_switch e.contact e.poll

def HeldSwitch.step (k : HeldSwitch) (p_switch : AppSwitch) (e : HeldPoll) : AppSwitch :=
  (k.read p_switch e).1

/-- {lit}`read_switch_multifunction`. -/
def multifunctionSwitch : HeldSwitch where
  held := multifunctionHeld
  finished := multifunctionFinished
  isHold call := decide (call = .msInputReport ACTION_HOLD)
  isRelease call := decide (call = .msInputReport ACTION_RELEASE)
  held_frame p_switch := ⟨p_switch.level_dir, rfl⟩
  held_calls p_switch := ⟨_, rfl, by decide, by decide⟩
  finished_hold p_switch hhold := by
    refine ⟨.msInputReport ACTION_RELEASE, ?_, by decide, by decide⟩
    rw [multifunctionFinished, if_pos hhold]
  finished_other p_switch hhold call hcall := by
    have hnot : ¬ p_switch.hold = true := by
      rw [hhold]
      exact Bool.false_ne_true
    rw [multifunctionFinished, if_neg hnot] at hcall
    split at hcall
    · rename_i hcounter
      rw [List.mem_singleton.mp hcall]
      rcases hcounter with hcounter | hcounter | hcounter
      · rw [hcounter]
        decide
      · rw [hcounter]
        decide
      · rw [hcounter]
        decide
    · split at hcall
      · rw [List.mem_singleton.mp hcall]
        decide
      · split at hcall
        · rw [List.mem_singleton.mp hcall]
          decide
        · cases hcall
  rejoin := by decide

/-- {lit}`read_switch_light_control`. -/
def lightControlSwitch : HeldSwitch where
  held := lightControlHeld
  finished := lightControlFinished
  isHold
    | .appMoveToLevel _ => true
    | _ => false
  isRelease
    | .appLevelStop => true
    | _ => false
  held_frame p_switch := by
    unfold lightControlHeld
    split
    · exact ⟨true, rfl⟩
    · exact ⟨false, rfl⟩
  held_calls p_switch := by
    unfold lightControlHeld
    split
    · exact ⟨_, rfl, rfl, rfl⟩
    · exact ⟨_, rfl, rfl, rfl⟩
  finished_hold p_switch hhold := by
    refine ⟨.appLevelStop, ?_, rfl, rfl⟩
    rw [lightControlFinished, if_pos hhold]
  finished_other p_switch hhold call hcall := by
    have hnot : ¬ p_switch.hold = true := by
      rw [hhold]
      exact Bool.false_ne_true
    rw [lightControlFinished, if_neg hnot] at hcall
    split at hcall
    · rw [List.mem_singleton.mp hcall]
      exact ⟨rfl, rfl⟩
    · split at hcall
      · rw [List.mem_singleton.mp hcall]
        exact ⟨rfl, rfl⟩
      · cases hcall
  rejoin := ⟨rfl, rfl⟩

theorem read_multifunction (p_switch : AppSwitch) (e : HeldPoll) :
    multifunctionSwitch.read p_switch e =
      readSwitchMultifunction p_switch e.contact e.poll := rfl

theorem read_lightControl (p_switch : AppSwitch) (e : HeldPoll) :
    lightControlSwitch.read p_switch e =
      readSwitchLightControl p_switch e.contact e.poll := rfl

/-! ## The marks of a poll -/

/-- The debounce counter of a closed contact reaches its end. -/
@[mk_iff]
structure AppSwitch.Presses (p_switch : AppSwitch) (e : HeldPoll) : Prop where
  closed : e.contact = false
  debounce : p_switch.debounce ≠ DEBOUNCE_SWITCH
  reaches : p_switch.debounceUp.debounce = DEBOUNCE_SWITCH

/-- The debounce counter of an open contact reaches its end. -/
@[mk_iff]
structure AppSwitch.Opens (p_switch : AppSwitch) (e : HeldPoll) : Prop where
  opened : e.contact = true
  debounce : p_switch.debounce ≠ 1
  reaches : p_switch.debounceDown.debounce = 1

/-- A hold begins. -/
@[mk_iff]
structure AppSwitch.BeginsHold (p_switch : AppSwitch) (e : HeldPoll) : Prop where
  closed : e.contact = false
  pressed : p_switch.pressed = true
  timeout : clockTimeExceed e.poll.holdClock p_switch.hold_time TIMEOUT_TICK_500MS = true
  hold : p_switch.hold = false

instance (p_switch : AppSwitch) (e : HeldPoll) : Decidable (p_switch.Presses e) :=
  decidable_of_iff' _ (AppSwitch.presses_iff p_switch e)

instance (p_switch : AppSwitch) (e : HeldPoll) : Decidable (p_switch.Opens e) :=
  decidable_of_iff' _ (AppSwitch.opens_iff p_switch e)

instance (p_switch : AppSwitch) (e : HeldPoll) : Decidable (p_switch.BeginsHold e) :=
  decidable_of_iff' _ (AppSwitch.beginsHold_iff p_switch e)

theorem not_opens_of_closed (p_switch : AppSwitch) {e : HeldPoll} (hcontact : e.contact = false) :
    ¬ p_switch.Opens e := by
  intro hopens
  have hopen := hopens.opened
  rw [hcontact] at hopen
  cases hopen

theorem not_presses_of_open (p_switch : AppSwitch) {e : HeldPoll} (hcontact : e.contact = true) :
    ¬ p_switch.Presses e := by
  intro h
  have hclosed := h.closed
  rw [hcontact] at hclosed
  cases hclosed

theorem not_beginsHold_of_open (p_switch : AppSwitch) {e : HeldPoll}
    (hcontact : e.contact = true) : ¬ p_switch.BeginsHold e := by
  intro h
  have hclosed := h.closed
  rw [hcontact] at hclosed
  cases hclosed

/-- The marks of a poll.  A hold is looked for before the debounce counter moves, and a
burst ends behind it. -/
def HeldSwitch.marks (k : HeldSwitch) (p_switch : AppSwitch) (e : HeldPoll) : List Mark :=
  (((k.read p_switch e).2.filter k.isHold).map fun _ => Mark.hold) ++
    (if p_switch.Presses e then [.press] else []) ++
    (if p_switch.Opens e then [.opens] else []) ++
    (((k.read p_switch e).2.filter k.isRelease).map fun _ => Mark.release)

/-! ## What a poll does -/

section Poll

variable (k : HeldSwitch)

theorem filter_rejoinCalls (p_switch : AppSwitch) (debounce : Nat) (poll : Poll) :
    (rejoinCalls p_switch debounce poll).filter k.isHold = [] ∧
      (rejoinCalls p_switch debounce poll).filter k.isRelease = [] := by
  unfold rejoinCalls
  split
  · rw [List.filter_cons, List.filter_cons, k.rejoin.1, k.rejoin.2]
    exact ⟨rfl, rfl⟩
  · exact ⟨rfl, rfl⟩

/-- A poll in front of its end. -/
def HeldSwitch.body (p_switch : AppSwitch) (e : HeldPoll) : AppSwitch × List SwitchCall :=
  if e.contact = false then heldClosed k.held p_switch e.poll else heldOpen p_switch e.poll

theorem read_eq (p_switch : AppSwitch) (e : HeldPoll) :
    k.read p_switch e =
      if (k.body p_switch e).1.burstOver e.poll then
        ((k.body p_switch e).1.clear,
          (k.body p_switch e).2 ++ k.finished (k.body p_switch e).1)
      else k.body p_switch e := rfl

/-- A poll of {lit}`app_switch` alone. -/
theorem step_eq (p_switch : AppSwitch) (e : HeldPoll) :
    k.step p_switch e =
      if (k.body p_switch e).1.burstOver e.poll then (k.body p_switch e).1.clear
      else (k.body p_switch e).1 := by
  rw [HeldSwitch.step, read_eq, apply_ite Prod.fst]

/-- What a poll does in front of its end. -/
structure BodySpec (p_switch : AppSwitch) (e : HeldPoll) (body : AppSwitch × List SwitchCall) :
    Prop where
  holds : (body.2.filter k.isHold).map (fun _ => Mark.hold) =
    if p_switch.BeginsHold e then [.hold] else []
  releases : body.2.filter k.isRelease = []
  hold : body.1.hold = (p_switch.hold || decide (p_switch.BeginsHold e))
  pressed : body.1.pressed = (p_switch.pressed || decide (p_switch.Presses e))
  released : body.1.released =
    (p_switch.released || (decide (p_switch.Opens e) && p_switch.pressed))
  time : ¬ p_switch.Presses e → body.1.pressed_time = p_switch.pressed_time

variable {k}

theorem holdCalls_spec {p_switch : AppSwitch} {e : HeldPoll} (hcontact : e.contact = false) :
    ∃ level_dir calls, holdCalls k.held p_switch e.poll =
        ({ p_switch with
          hold := p_switch.hold || decide (p_switch.BeginsHold e)
          level_dir := level_dir }, calls) ∧
      (calls.filter k.isHold).map (fun _ => Mark.hold) =
        (if p_switch.BeginsHold e then [.hold] else []) ∧
      calls.filter k.isRelease = [] := by
  by_cases hbegins : p_switch.BeginsHold e
  · rcases k.held_frame { p_switch with hold := true } with ⟨level_dir, hframe⟩
    rcases k.held_calls { p_switch with hold := true } with ⟨call, hcalls, hhold, hrelease⟩
    refine ⟨level_dir, [call], ?_, ?_, ?_⟩
    · rw [holdCalls, if_pos ⟨hbegins.pressed, hbegins.timeout, hbegins.hold⟩, ← hcalls]
      refine Prod.ext ?_ rfl
      rw [hframe]
      simp [hbegins]
    · rw [if_pos hbegins, List.filter_cons, hhold]
      rfl
    · rw [List.filter_cons, hrelease]
      rfl
  · refine ⟨p_switch.level_dir, [], ?_, ?_, rfl⟩
    · rw [holdCalls, if_neg fun h => hbegins ⟨hcontact, h.1, h.2.1, h.2.2⟩]
      simp [hbegins]
    · rw [if_neg hbegins]
      rfl

theorem bodySpec_closed {p_switch : AppSwitch} {e : HeldPoll} (hcontact : e.contact = false) :
    BodySpec k p_switch e (heldClosed k.held p_switch e.poll) := by
  have hopens := not_opens_of_closed p_switch hcontact
  rcases holdCalls_spec (k := k) hcontact with ⟨level_dir, calls, hcalls, hholds, hreleases⟩
  unfold heldClosed
  rw [hcalls]
  dsimp only
  split
  · rename_i hdebounce
    have hrejoin : ∀ p_switch debounce,
        ((calls ++ rejoinCalls p_switch debounce e.poll).filter k.isHold).map
            (fun _ => Mark.hold) = (calls.filter k.isHold).map (fun _ => Mark.hold) ∧
          (calls ++ rejoinCalls p_switch debounce e.poll).filter k.isRelease = [] := by
      intro p_switch debounce
      rcases filter_rejoinCalls k p_switch debounce e.poll with ⟨hholds', hreleases'⟩
      rw [List.filter_append, List.filter_append, hholds', hreleases', hreleases, List.append_nil]
      exact ⟨rfl, rfl⟩
    split
    · rename_i hreaches
      have hpress : p_switch.Presses e := ⟨hcontact, hdebounce, hreaches⟩
      refine ⟨(hrejoin _ _).1.trans hholds, (hrejoin _ _).2, ?_, ?_, ?_, absurd hpress⟩
      · split
        · rfl
        · rfl
      · rw [decide_eq_true hpress, Bool.or_true]
        split
        · rfl
        · rfl
      · rw [decide_eq_false hopens, Bool.false_and, Bool.or_false]
        split
        · rfl
        · rfl
    · rename_i hreaches
      have hpress : ¬ p_switch.Presses e := fun h => hreaches h.reaches
      refine ⟨(hrejoin _ _).1.trans hholds, (hrejoin _ _).2, rfl, ?_, ?_, fun _ => rfl⟩
      · rw [decide_eq_false hpress, Bool.or_false]
        rfl
      · rw [decide_eq_false hopens, Bool.false_and, Bool.or_false]
        rfl
  · rename_i hdebounce
    have hpress : ¬ p_switch.Presses e := fun h => hdebounce h.debounce
    refine ⟨hholds, hreleases, rfl, ?_, ?_, fun _ => rfl⟩
    · rw [decide_eq_false hpress, Bool.or_false]
    · rw [decide_eq_false hopens, Bool.false_and, Bool.or_false]

theorem bodySpec_open {p_switch : AppSwitch} {e : HeldPoll} (hcontact : e.contact = true) :
    BodySpec k p_switch e (heldOpen p_switch e.poll) := by
  have hhold := not_beginsHold_of_open p_switch hcontact
  have hpress := not_presses_of_open p_switch hcontact
  unfold heldOpen
  split
  · rename_i hdebounce
    rcases filter_rejoinCalls k p_switch.debounceDown (DEBOUNCE_SWITCH - 5) e.poll with
      ⟨hholds, hreleases⟩
    dsimp only
    split
    · rename_i hopen
      have hopens : p_switch.Opens e := ⟨hcontact, hdebounce, hopen.1⟩
      have hpressed : p_switch.pressed = true := hopen.2
      refine ⟨?_, hreleases, ?_, ?_, ?_, fun _ => rfl⟩
      · rw [hholds, if_neg hhold]
        rfl
      · simp [hhold, AppSwitch.debounceDown]
      · simp [hpress, AppSwitch.debounceDown]
      · simp [hopens, hpressed]
    · rename_i hopen
      have hopens : ¬ (p_switch.Opens e ∧ p_switch.pressed = true) :=
        fun h => hopen ⟨h.1.reaches, h.2⟩
      refine ⟨?_, hreleases, ?_, ?_, ?_, fun _ => rfl⟩
      · rw [hholds, if_neg hhold]
        rfl
      · simp [hhold, AppSwitch.debounceDown]
      · simp [hpress, AppSwitch.debounceDown]
      · by_cases hopened : p_switch.Opens e
        · have hpressed : p_switch.pressed = false :=
            Bool.not_eq_true _ ▸ fun h => hopens ⟨hopened, h⟩
          simp [hpressed, AppSwitch.debounceDown]
        · simp [hopened, AppSwitch.debounceDown]
  · rename_i hdebounce
    have hopens : ¬ p_switch.Opens e := fun h => hdebounce h.debounce
    refine ⟨?_, rfl, ?_, ?_, ?_, fun _ => rfl⟩
    · rw [if_neg hhold]
      rfl
    · simp [hhold]
    · simp [hpress]
    · simp [hopens]

theorem body_spec (p_switch : AppSwitch) (e : HeldPoll) :
    BodySpec k p_switch e (k.body p_switch e) := by
  unfold HeldSwitch.body
  split
  · rename_i hcontact
    exact bodySpec_closed hcontact
  · rename_i hcontact
    exact bodySpec_open (Bool.not_eq_false _ ▸ hcontact)

/-- The marks of a poll in front of its end. -/
def AppSwitch.bodyMarks (p_switch : AppSwitch) (e : HeldPoll) : List Mark :=
  (if p_switch.BeginsHold e then [.hold] else []) ++
    (if p_switch.Presses e then [.press] else []) ++
    (if p_switch.Opens e then [.opens] else [])

/-- A burst ends with a release if a hold has begun. -/
def HeldSwitch.EndsHold (k : HeldSwitch) (p_switch : AppSwitch) (e : HeldPoll) : Prop :=
  (k.body p_switch e).1.burstOver e.poll = true ∧ (k.body p_switch e).1.hold = true

instance (p_switch : AppSwitch) (e : HeldPoll) : Decidable (k.EndsHold p_switch e) :=
  inferInstanceAs (Decidable (_ ∧ _))

theorem not_endsHold_of_not_over {p_switch : AppSwitch} {e : HeldPoll}
    (hover : (k.body p_switch e).1.burstOver e.poll = false) : ¬ k.EndsHold p_switch e := by
  rintro ⟨h, -⟩
  rw [hover] at h
  cases h

theorem not_endsHold_of_not_hold {p_switch : AppSwitch} {e : HeldPoll}
    (hhold : (k.body p_switch e).1.hold = false) : ¬ k.EndsHold p_switch e := by
  rintro ⟨-, h⟩
  rw [hhold] at h
  cases h

/-- The marks of a poll. -/
theorem marks_eq (p_switch : AppSwitch) (e : HeldPoll) :
    k.marks p_switch e =
      p_switch.bodyMarks e ++ if k.EndsHold p_switch e then [.release] else [] := by
  have hbody := body_spec (k := k) p_switch e
  have hread : ((k.read p_switch e).2.filter k.isHold).map (fun _ => Mark.hold) =
        (if p_switch.BeginsHold e then [.hold] else []) ∧
      ((k.read p_switch e).2.filter k.isRelease).map (fun _ => Mark.release) =
        (if k.EndsHold p_switch e then [.release] else []) := by
    rw [read_eq]
    cases hover : (k.body p_switch e).1.burstOver e.poll with
    | false =>
        have hends := not_endsHold_of_not_over hover
        rw [if_neg Bool.false_ne_true, if_neg hends, hbody.releases]
        exact ⟨hbody.holds, rfl⟩
    | true =>
        rw [if_pos rfl]
        dsimp only
        rw [List.filter_append, List.filter_append, hbody.releases, List.map_append, hbody.holds]
        cases hhold : (k.body p_switch e).1.hold with
        | false =>
            have hends := not_endsHold_of_not_hold hhold
            have hother := k.finished_other _ hhold
            have hholds : (k.finished (k.body p_switch e).1).filter k.isHold = [] :=
              List.filter_eq_nil_iff.mpr fun call hcall h => by
                rw [(hother call hcall).1] at h
                cases h
            have hreleases : (k.finished (k.body p_switch e).1).filter k.isRelease = [] :=
              List.filter_eq_nil_iff.mpr fun call hcall h => by
                rw [(hother call hcall).2] at h
                cases h
            rw [hholds, hreleases, if_neg hends]
            exact ⟨List.append_nil _, rfl⟩
        | true =>
            rcases k.finished_hold _ hhold with ⟨call, hfinished, hnot, hrelease⟩
            rw [hfinished, List.filter_cons, List.filter_cons, hnot, hrelease,
              if_pos (show k.EndsHold p_switch e from ⟨hover, hhold⟩)]
            exact ⟨List.append_nil _, rfl⟩
  rw [HeldSwitch.marks, hread.1, hread.2]
  rfl

end Poll

/-! ## Following a poll -/

/-- What the flags of the switch tell the monitor. -/
structure Follows (p_switch : AppSwitch) (m : Pairing) : Prop where
  down : p_switch.pressed = true → p_switch.released = false → m.down = true
  idle : p_switch.hold = false → m.held = none
  held : p_switch.hold = true →
    ∃ opened, m.held = some opened ∧ (p_switch.released = true → opened = true)

/-- No hold begins while {lit}`released` is set. -/
def HoldsFresh (p_switch : AppSwitch) (e : HeldPoll) : Prop :=
  p_switch.BeginsHold e → p_switch.released = false

instance (p_switch : AppSwitch) : DecidablePred (HoldsFresh p_switch) := fun _ =>
  inferInstanceAs (Decidable (_ → _))

/-- The monitor follows the release of the contact. -/
theorem follows_open (k : HeldSwitch) {p_switch : AppSwitch} {m : Pairing} {e : HeldPoll}
    (hm : Follows p_switch m) (hopens : p_switch.Opens e) :
    ∃ m', (p_switch.bodyMarks e).foldlM Pairing.observe m = some m' ∧
      Follows (k.body p_switch e).1 m' := by
  have hbody := body_spec (k := k) p_switch e
  have hbegins := not_beginsHold_of_open p_switch hopens.opened
  have hpress := not_presses_of_open p_switch hopens.opened
  have hhold : (k.body p_switch e).1.hold = p_switch.hold := by
    rw [hbody.hold, decide_eq_false hbegins, Bool.or_false]
  refine ⟨{ down := false, held := m.held.map fun _ => true }, ?_, ?_, ?_, ?_⟩
  · rw [AppSwitch.bodyMarks, if_neg hbegins, if_neg hpress, if_pos hopens]
    rfl
  · intro hpressed hreleased
    rw [hbody.pressed, decide_eq_false hpress, Bool.or_false] at hpressed
    rw [hbody.released, decide_eq_true hopens, hpressed, Bool.and_self, Bool.or_true] at hreleased
    cases hreleased
  · intro hnone
    rw [hhold] at hnone
    rw [hm.idle hnone]
    rfl
  · intro hheld
    rw [hhold] at hheld
    rcases hm.held hheld with ⟨opened, hopened, -⟩
    refine ⟨true, ?_, fun _ => rfl⟩
    rw [hopened]
    rfl

theorem body_released_of_not_opens (k : HeldSwitch) {p_switch : AppSwitch} {e : HeldPoll}
    (hopens : ¬p_switch.Opens e) : (k.body p_switch e).1.released = p_switch.released := by
  rw [(body_spec (k := k) p_switch e).released, decide_eq_false hopens, Bool.false_and,
    Bool.or_false]

/-- The monitor follows the begin of a hold. -/
theorem follows_hold (k : HeldSwitch) {p_switch : AppSwitch} {m : Pairing} {e : HeldPoll}
    (hm : Follows p_switch m) (hfresh : HoldsFresh p_switch e) (hopens : ¬p_switch.Opens e)
    (hbegins : p_switch.BeginsHold e) :
    ∃ m', (p_switch.bodyMarks e).foldlM Pairing.observe m = some m' ∧
      Follows (k.body p_switch e).1 m' := by
  have hbody := body_spec (k := k) p_switch e
  have hfree : p_switch.released = false := hfresh hbegins
  have hdown : m.down = true := hm.down hbegins.pressed hfree
  have hobserve : m.observe .hold = some { m with held := some false } := by
    rw [Pairing.observe, if_pos ⟨hdown, hm.idle hbegins.hold⟩]
  have hfollows : Follows (k.body p_switch e).1 { down := true, held := some false } := by
    refine ⟨fun _ _ => rfl, fun hnone => ?_, fun _ => ⟨false, rfl, fun hreleased => ?_⟩⟩
    · rw [hbody.hold, decide_eq_true hbegins, Bool.or_true] at hnone
      cases hnone
    · rw [body_released_of_not_opens k hopens, hfree] at hreleased
      cases hreleased
  refine ⟨_, ?_, hfollows⟩
  rw [AppSwitch.bodyMarks, if_neg hopens, List.append_nil, if_pos hbegins]
  by_cases hpress : p_switch.Presses e
  · rw [if_pos hpress, List.cons_append, List.nil_append, List.foldlM_cons, hobserve]
    rfl
  · rw [if_neg hpress, List.append_nil, List.foldlM_cons, hobserve, hdown]
    rfl

/-- The monitor follows a press, and a poll in which nothing happens. -/
theorem follows_press (k : HeldSwitch) {p_switch : AppSwitch} {m : Pairing} {e : HeldPoll}
    (hm : Follows p_switch m) (hopens : ¬p_switch.Opens e) (hbegins : ¬p_switch.BeginsHold e) :
    ∃ m', (p_switch.bodyMarks e).foldlM Pairing.observe m = some m' ∧
      Follows (k.body p_switch e).1 m' := by
  have hbody := body_spec (k := k) p_switch e
  have hreleased := body_released_of_not_opens k hopens
  have hhold : (k.body p_switch e).1.hold = p_switch.hold := by
    rw [hbody.hold, decide_eq_false hbegins, Bool.or_false]
  rw [AppSwitch.bodyMarks, if_neg hopens, List.append_nil, if_neg hbegins, List.nil_append]
  by_cases hpress : p_switch.Presses e
  · refine ⟨{ m with down := true }, ?_, fun _ _ => rfl, ?_, ?_⟩
    · rw [if_pos hpress]
      rfl
    · rw [hhold]
      exact hm.idle
    · rw [hhold, hreleased]
      exact hm.held
  · refine ⟨m, ?_, ?_, ?_, ?_⟩
    · rw [if_neg hpress]
      rfl
    · rw [hbody.pressed, decide_eq_false hpress, Bool.or_false, hreleased]
      exact hm.down
    · rw [hhold]
      exact hm.idle
    · rw [hhold, hreleased]
      exact hm.held

/-- The monitor follows a poll up to its end. -/
theorem follows_body (k : HeldSwitch) {p_switch : AppSwitch} {m : Pairing} {e : HeldPoll}
    (hm : Follows p_switch m) (hfresh : HoldsFresh p_switch e) :
    ∃ m', (p_switch.bodyMarks e).foldlM Pairing.observe m = some m' ∧
      Follows (k.body p_switch e).1 m' := by
  by_cases hopens : p_switch.Opens e
  · exact follows_open k hm hopens
  · by_cases hbegins : p_switch.BeginsHold e
    · exact follows_hold k hm hfresh hopens hbegins
    · exact follows_press k hm hopens hbegins

/-- A monitor of the pairing follows a poll that begins no hold while {lit}`released` is
set. -/
theorem follows_poll (k : HeldSwitch) {p_switch : AppSwitch} {m : Pairing} {e : HeldPoll}
    (hm : Follows p_switch m) (hfresh : HoldsFresh p_switch e) :
    ∃ m', (k.marks p_switch e).foldlM Pairing.observe m = some m' ∧
      Follows (k.step p_switch e) m' := by
  rcases follows_body k hm hfresh with ⟨m₁, hmarks, hm₁⟩
  rw [marks_eq, List.foldlM_append, hmarks, step_eq]
  cases hover : (k.body p_switch e).1.burstOver e.poll with
  | false =>
      have hends := not_endsHold_of_not_over hover
      rw [if_neg hends]
      exact ⟨m₁, rfl, hm₁⟩
  | true =>
      have hreleased : (k.body p_switch e).1.released = true :=
        (Bool.and_eq_true_iff.mp hover).1
      have hclear : ∀ m : Pairing, m.held = none → Follows (k.body p_switch e).1.clear m :=
        fun m hnone => ⟨fun h => Bool.noConfusion h, fun _ => hnone, fun h => Bool.noConfusion h⟩
      cases hhold : (k.body p_switch e).1.hold with
      | false =>
          have hends := not_endsHold_of_not_hold hhold
          rw [if_neg hends]
          exact ⟨m₁, rfl, hclear m₁ (hm₁.idle hhold)⟩
      | true =>
          rcases hm₁.held hhold with ⟨opened, hheld, hopened⟩
          rw [hopened hreleased] at hheld
          refine ⟨{ m₁ with held := none }, ?_, hclear _ rfl⟩
          rw [if_pos (show k.EndsHold p_switch e from ⟨hover, hhold⟩)]
          show [Mark.release].foldlM Pairing.observe m₁ = _
          rw [List.foldlM_cons, Pairing.observe, if_pos hheld]
          rfl

/-! ## A hold behind a click -/

/-- When a hold begins, the end of the poll still sees the half second since the latest
press. -/
def SeesTimeout (p_switch : AppSwitch) (e : HeldPoll) : Prop :=
  p_switch.BeginsHold e → ¬ p_switch.Presses e ∧
    clockTimeExceed e.poll.endClock p_switch.pressed_time TIMEOUT_TICK_500MS = true

/-- A hold that begins while {lit}`released` is set is released in the same poll, without
a debounced open. -/
theorem stale_poll (k : HeldSwitch) {p_switch : AppSwitch} {e : HeldPoll} (m : Pairing)
    (hsees : SeesTimeout p_switch e) (hstale : ¬ HoldsFresh p_switch e) :
    (k.marks p_switch e).foldlM Pairing.observe m = none := by
  have hbody := body_spec (k := k) p_switch e
  rw [HoldsFresh, Classical.not_imp, Bool.not_eq_false] at hstale
  rcases hstale with ⟨hbegins, hreleased⟩
  rcases hsees hbegins with ⟨hpress, htimeout⟩
  have hopens := not_opens_of_closed p_switch hbegins.closed
  have hends : k.EndsHold p_switch e := by
    constructor
    · rw [AppSwitch.burstOver, hbody.released, hbody.time hpress, hreleased, htimeout]
      rfl
    · rw [hbody.hold, decide_eq_true hbegins, Bool.or_true]
  rw [marks_eq, AppSwitch.bodyMarks, if_pos hbegins, if_neg hpress, if_neg hopens, if_pos hends]
  show [Mark.hold, Mark.release].foldlM Pairing.observe m = none
  rw [List.foldlM_cons]
  cases hobserve : m.observe .hold with
  | none => rfl
  | some m' =>
      have hheld : m'.held = some false := by
        rw [Pairing.observe] at hobserve
        split at hobserve
        · rw [← Option.some.inj hobserve]
        · cases hobserve
      show [Mark.release].foldlM Pairing.observe m' = none
      rw [List.foldlM_cons, Pairing.observe, if_neg (by rw [hheld]; decide)]
      rfl

/-- If the monitor accepts, no hold began while {lit}`released` was set. -/
theorem fresh_of_accepted (k : HeldSwitch) {p_switch : AppSwitch} {m : Pairing}
    {es : List HeldPoll} (hm : Follows p_switch m) (hsees : Along k.step SeesTimeout p_switch es)
    (haccepted : ((trace k.step k.marks p_switch es).foldlM Pairing.observe m).isSome) :
    Along k.step HoldsFresh p_switch es := by
  induction es generalizing p_switch m with
  | nil => trivial
  | cons e es ih =>
      rw [trace, List.foldlM_append] at haccepted
      by_cases hfresh : HoldsFresh p_switch e
      · rcases follows_poll k hm hfresh with ⟨m', hmarks, hm'⟩
        rw [hmarks] at haccepted
        exact ⟨hfresh, ih hm' hsees.2 haccepted⟩
      · rw [stale_poll k m hsees.1 hfresh] at haccepted
        cases haccepted

/-! ## Runs -/

theorem follows_idle {p_switch : AppSwitch} (hpressed : p_switch.pressed = false)
    (hhold : p_switch.hold = false) : Follows p_switch { down := false, held := none } := by
  refine ⟨fun h => ?_, fun _ => rfl, fun h => ?_⟩
  · rw [hpressed] at h
    cases h
  · rw [hhold] at h
    cases h

/-- Holds and releases are paired along a run in which no hold begins while
{lit}`released` is set. -/
theorem paired_of_fresh (k : HeldSwitch) {p_switch : AppSwitch} {es : List HeldPoll}
    (hpressed : p_switch.pressed = false) (hhold : p_switch.hold = false)
    (hfresh : Along k.step HoldsFresh p_switch es) :
    Paired (trace k.step k.marks p_switch es) := by
  rcases monitor_trace Follows (fun _ _ _ hm hfresh => follows_poll k hm hfresh)
    (follows_idle hpressed hhold) hfresh with ⟨m, haccepted, -⟩
  exact Option.isSome_iff_exists.mpr ⟨m, haccepted⟩

/-- Behind {lit}`switch_init`, for both functions and over every run of polls: holds and
releases are paired if no hold begins while {lit}`released` is set, and in a run in which
the end of a poll still sees the time of its start only then. -/
theorem hold_release_paired (relay_settings : RelaySettings) (p_switch : AppSwitch)
    (clock : UInt32) (es : List HeldPoll) :
    ∀ k ∈ [multifunctionSwitch, lightControlSwitch],
      (Along k.step HoldsFresh (initAppSwitch relay_settings p_switch clock) es →
        Paired (trace k.step k.marks (initAppSwitch relay_settings p_switch clock) es)) ∧
      (Along k.step SeesTimeout (initAppSwitch relay_settings p_switch clock) es →
        Paired (trace k.step k.marks (initAppSwitch relay_settings p_switch clock) es) →
        Along k.step HoldsFresh (initAppSwitch relay_settings p_switch clock) es) :=
  fun k _ => ⟨paired_of_fresh k rfl rfl, fresh_of_accepted k (follows_idle rfl rfl)⟩

/-! ## Two runs -/

/-- A poll at one time. -/
def pollAt (contact : Bool) (clock : UInt32) : HeldPoll :=
  ⟨contact, ⟨true, false, clock, clock, clock, clock⟩⟩

/-- A press that is held. -/
def pressAndHold : List HeldPoll :=
  List.replicate 64 (pollAt false 0) ++ [pollAt false 8000001] ++
    List.replicate 127 (pollAt true 8000002)

/-- It is held and released. -/
theorem hold_release_paired_hold :
    Paired (trace lightControlSwitch.step lightControlSwitch.marks (initAppSwitch {} {} 0)
      pressAndHold) :=
  (hold_release_paired {} {} 0 pressAndHold lightControlSwitch (by simp)).1 (by decide +kernel)

/-- A click, and in the same half second a press that is held. -/
def clickAndHold : List HeldPoll :=
  List.replicate 64 (pollAt false 0) ++ List.replicate 127 (pollAt true 0) ++
    List.replicate 127 (pollAt false 0) ++ [pollAt false 8000001]

/-- The hold is released while the contact is down. -/
theorem hold_release_broken :
    trace lightControlSwitch.step lightControlSwitch.marks (initAppSwitch {} {} 0) clickAndHold =
        [.press, .opens, .press, .hold, .release] ∧
      ¬ Paired (trace lightControlSwitch.step lightControlSwitch.marks (initAppSwitch {} {} 0)
        clickAndHold) := by
  decide +kernel

end Firmware
