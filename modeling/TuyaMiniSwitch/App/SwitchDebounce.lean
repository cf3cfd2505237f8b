import TuyaMiniSwitch.App.HoldRelease
import TuyaMiniSwitch.Library.Debounce

/-!
# Application - The debounce counter

In all three poll functions the samples of the contact move one debounce counter.  The
function of the toggle and momentary switches also keeps whether the contact is open or
closed, so that a press needs a counter that came from one.  The other two count a press
whenever the counter arrives at its upper end.

Main results:

- Theorem {lit}`toggleStep_debounce`, {lit}`heldStep_debounce`: the counter follows the
  samples.
- Theorem {lit}`spaced_step`: a switch that was closed lately is not closed again.
- Theorem {lit}`debounce_filters`: the bounds of the counter, and what a press of a toggle
  or momentary switch needs.
- Theorem {lit}`clicks_climb_iff`: when the presses of the other switches need the same.
-/

namespace Firmware

open Machine Utility OnOffLog

/-- The contact reads closed. -/
def TogglePoll.closed (e : TogglePoll) : Bool := !e.contact

def HeldPoll.closed (e : HeldPoll) : Bool := !e.contact

/-- The debounce counter is between its ends. -/
structure AppSwitch.InRange (p_switch : AppSwitch) : Prop where
  lower : 1 ≤ p_switch.debounce
  upper : p_switch.debounce ≤ DEBOUNCE_SWITCH

theorem AppSwitch.InRange.debounceUp {p_switch : AppSwitch} (hrange : p_switch.InRange) :
    p_switch.debounceUp.debounce = p_switch.debounce + 1 := by
  have hupper := hrange.upper
  simp only [DEBOUNCE_SWITCH] at hupper
  simp only [AppSwitch.debounceUp]
  omega

theorem AppSwitch.InRange.debounceDown {p_switch : AppSwitch} (hrange : p_switch.InRange) :
    p_switch.debounceDown.debounce = p_switch.debounce - 1 := by
  have hlower := hrange.lower
  have hupper := hrange.upper
  simp only [DEBOUNCE_SWITCH] at hupper
  simp only [AppSwitch.debounceDown]
  omega

/-! ## The debounced contact -/

/-- The contact as its samples show it without bounces: it comes to be closed when the
counter arrives at its upper end, and to be open when the counter arrives at one. -/
structure Contact where
  debounce : Nat := 1
  closed : Bool := false
  deriving Repr, DecidableEq

/-- A debounced close. -/
def Contact.Closes (c : Contact) (e : HeldPoll) : Prop :=
  c.closed = false ∧ Debounce.Arrives DEBOUNCE_SWITCH HeldPoll.closed c.debounce e

/-- A debounced open. -/
def Contact.Opens (c : Contact) (e : HeldPoll) : Prop :=
  c.closed = true ∧ Debounce.Drops DEBOUNCE_SWITCH HeldPoll.closed c.debounce e

instance (c : Contact) (e : HeldPoll) : Decidable (c.Closes e) :=
  inferInstanceAs (Decidable (_ ∧ _))

instance (c : Contact) (e : HeldPoll) : Decidable (c.Opens e) :=
  inferInstanceAs (Decidable (_ ∧ _))

/-- The contact behind a sample. -/
def Contact.next (c : Contact) (e : HeldPoll) : Contact where
  debounce := Debounce.next DEBOUNCE_SWITCH HeldPoll.closed c.debounce e
  closed := if c.Closes e then true else if c.Opens e then false else c.closed

section Contact

variable {c : Contact} {e : HeldPoll}

theorem Contact.next_of_closes (hcloses : c.Closes e) : (c.next e).closed = true :=
  if_pos hcloses

theorem Contact.next_of_opens (hopens : c.Opens e) : (c.next e).closed = false := by
  have hnot : ¬c.Closes e := fun hcloses => by
    have hclosed := hcloses.1
    rw [hopens.1] at hclosed
    cases hclosed
  rw [Contact.next, if_neg hnot, if_pos hopens]

theorem Contact.next_of_neither (hcloses : ¬c.Closes e) (hopens : ¬c.Opens e) :
    (c.next e).closed = c.closed := by
  rw [Contact.next, if_neg hcloses, if_neg hopens]

end Contact

/-- A poll of a toggle switch without its settings. -/
def TogglePoll.held (e : TogglePoll) : HeldPoll := ⟨e.contact, e.poll⟩

/-! ## Toggle and momentary switches -/

/-- Behind the first poll the samples move the counter. -/
theorem toggleStep_debounce {p_switch : AppSwitch} {e : TogglePoll} (hrange : p_switch.InRange)
    (hfloat : p_switch.status ≠ .SWITCH_FLOAT) :
    (toggleStep p_switch e).debounce =
      Debounce.next DEBOUNCE_SWITCH TogglePoll.closed p_switch.debounce e := by
  rw [toggleStep_eq, (toggleEnd_frame _ _).2.1]
  unfold Debounce.next TogglePoll.closed
  cases hcontact : e.contact with
  | false =>
      have hup := hrange.debounceUp
      rcases toggleBody_closed hcontact hfloat with ⟨hmax, hbody⟩ | ⟨hne, -, hbody⟩ |
        ⟨hreach, -, counter, hbody⟩
      · simp [hbody, hmax, DEBOUNCE_SWITCH]
      · simp [hbody, hup, hne, DEBOUNCE_SWITCH]
      · simp only [AppSwitch.debounceUp] at hup
        have hdebounce : p_switch.debounce = 127 := by omega
        simp [hbody, hdebounce, DEBOUNCE_SWITCH]
  | true =>
      have hdown := hrange.debounceDown
      rcases toggleBody_open hcontact hfloat with ⟨hmin, hbody⟩ | ⟨hne, -, hbody⟩ |
        ⟨hreach, -, -, hbody⟩
      · simp [hbody, hmin]
      · simp [hbody, hdown, hne]
      · simp only [AppSwitch.debounceDown] at hdown
        have hdebounce : p_switch.debounce = 2 := by omega
        simp [hbody, hdebounce]

/-- The first poll leaves the counter alone. -/
theorem toggleStep_float {p_switch : AppSwitch} (e : TogglePoll)
    (hfloat : p_switch.status = .SWITCH_FLOAT) :
    (toggleStep p_switch e).debounce = p_switch.debounce := by
  rw [toggleStep_eq, (toggleEnd_frame _ _).2.1, toggleBody_float e hfloat]

/-- A switch that knows whether its contact is open goes on to know it. -/
theorem toggleStep_settled {p_switch : AppSwitch} (e : TogglePoll)
    (hfloat : p_switch.status ≠ .SWITCH_FLOAT) :
    (toggleStep p_switch e).status ≠ .SWITCH_FLOAT := by
  rw [toggleStep_eq, (toggleEnd_frame _ _).1]
  cases hcontact : e.contact with
  | false =>
      rcases toggleBody_closed hcontact hfloat with ⟨-, hbody⟩ | ⟨-, -, hbody⟩ |
        ⟨-, -, counter, hbody⟩
      · rw [hbody]
        exact hfloat
      · rw [hbody]
        exact hfloat
      · rw [hbody]
        exact SwitchStatus.noConfusion
  | true =>
      rcases toggleBody_open hcontact hfloat with ⟨-, hbody⟩ | ⟨-, -, hbody⟩ | ⟨-, -, -, hbody⟩
      · rw [hbody]
        exact hfloat
      · rw [hbody]
        exact hfloat
      · rw [hbody]
        exact SwitchStatus.noConfusion

theorem toggleStep_inRange {p_switch : AppSwitch} (e : TogglePoll) (hrange : p_switch.InRange) :
    (toggleStep p_switch e).InRange := by
  by_cases hfloat : p_switch.status = .SWITCH_FLOAT
  · have hsame := toggleStep_float e hfloat
    exact ⟨hsame ▸ hrange.lower, hsame ▸ hrange.upper⟩
  · have hnext := toggleStep_debounce (e := e) hrange hfloat
    have hbounds := Debounce.next_bounds TogglePoll.closed e hrange.lower hrange.upper
    exact ⟨hnext ▸ hbounds.1, hnext ▸ hbounds.2⟩

/-- The switch knows whether its contact is open, and its counter follows the samples. -/
structure AppSwitch.Tracks (p_switch : AppSwitch) : Prop where
  range : p_switch.InRange
  settled : p_switch.status ≠ .SWITCH_FLOAT

theorem tracks_step (p_switch : AppSwitch) (e : TogglePoll) (hs : p_switch.Tracks) :
    (toggleStep p_switch e).Tracks :=
  ⟨toggleStep_inRange e hs.range, toggleStep_settled e hs.settled⟩

theorem toggle_run_debounce {p_switch : AppSwitch} (hs : p_switch.Tracks) (es : List TogglePoll) :
    (run toggleStep p_switch es).debounce =
      run (Debounce.next DEBOUNCE_SWITCH TogglePoll.closed) p_switch.debounce es :=
  run_map_invariant AppSwitch.Tracks tracks_step
    (fun _ _ hs => toggleStep_debounce hs.range hs.settled) hs es

theorem tracks_body {p_switch : AppSwitch} (e : TogglePoll) (hs : p_switch.Tracks) :
    (toggleBody p_switch e).Tracks := by
  have hstep := tracks_step p_switch e hs
  rcases toggleEnd_frame (toggleBody p_switch e) e.poll with ⟨hstatus, hdebounce, -⟩
  rw [← toggleStep_eq] at hstatus hdebounce
  exact ⟨⟨hdebounce ▸ hstep.range.lower, hdebounce ▸ hstep.range.upper⟩, hstatus ▸ hstep.settled⟩

/-- The click counter behind a press. -/
def AppSwitch.pressCount (p_switch : AppSwitch) (poll : Poll) : Nat :=
  if p_switch.counter = 0 then 1
  else if p_switch.pressed = true ∧
      ¬clockTimeExceed poll.pressClock p_switch.pressed_time TIMEOUT_TICK_500MS = true then
    (p_switch.counter + 1) % 256
  else p_switch.counter

/-- The counter of an open switch arrives at its upper end. -/
theorem toggleBody_press {p_switch : AppSwitch} {e : TogglePoll} (hs : p_switch.Tracks)
    (harrives : Debounce.Arrives DEBOUNCE_SWITCH TogglePoll.closed p_switch.debounce e)
    (hopen : p_switch.status ≠ .SWITCH_CLOSED) :
    toggleBody p_switch e = { p_switch with
      status := .SWITCH_CLOSED
      debounce := DEBOUNCE_SWITCH
      counter := p_switch.pressCount e.poll
      pressed := decide (p_switch.counter = 0) || p_switch.pressed
      hold_time := e.poll.stampClock
      pressed_time := e.poll.stampClock } := by
  rcases Debounce.arrives_up hs.range.upper harrives with ⟨hclosed, hbelow⟩
  have hcontact : e.contact = false := by simpa [TogglePoll.closed] using hclosed
  have hreaches : (p_switch.debounce + 1) % 256 = DEBOUNCE_SWITCH :=
    hs.range.debounceUp.trans hbelow
  unfold toggleBody toggleClosed AppSwitch.pressCount
  rw [if_pos hcontact, if_neg hs.settled, if_pos harrives.1]
  by_cases hcounter : p_switch.counter = 0
  · simp [AppSwitch.debounceUp, AppSwitch.countUp, AppSwitch.stamp, hreaches, hopen, hcounter]
  · by_cases hagain : p_switch.pressed = true ∧
        clockTimeExceed e.poll.pressClock p_switch.pressed_time TIMEOUT_TICK_500MS = false
    · simp [AppSwitch.debounceUp, AppSwitch.countUp, AppSwitch.stamp, hreaches, hopen, hcounter,
        hagain]
    · simp [AppSwitch.debounceUp, AppSwitch.stamp, hreaches, hopen, hcounter, hagain]

/-- The counter of a switch that was pressed arrives at one. -/
theorem toggleBody_release {p_switch : AppSwitch} {e : TogglePoll} (hs : p_switch.Tracks)
    (hdrops : Debounce.Drops DEBOUNCE_SWITCH TogglePoll.closed p_switch.debounce e)
    (hpressed : p_switch.pressed = true) (hclosed : p_switch.status ≠ .SWITCH_OPEN) :
    toggleBody p_switch e = { p_switch with
      status := .SWITCH_OPEN
      debounce := 1
      released := true } := by
  rcases Debounce.drops_down hs.range.lower hdrops with ⟨hopen, habove⟩
  have hcontact : e.contact = true := by simpa [TogglePoll.closed] using hopen
  rcases toggleBody_open hcontact hs.settled with ⟨hone, -⟩ | ⟨-, hstay, -⟩ | ⟨-, -, -, hbody⟩
  · exact absurd hone hdrops.1
  · have hreaches : (p_switch.debounce + 255) % 256 = 1 := by omega
    exact absurd (hstay hreaches hpressed) hclosed
  · exact hbody

/-- A poll that does neither only moves the counter. -/
theorem toggleBody_move {p_switch : AppSwitch} {e : TogglePoll} (hs : p_switch.Tracks)
    (hpress : ¬(Debounce.Arrives DEBOUNCE_SWITCH TogglePoll.closed p_switch.debounce e ∧
      p_switch.status ≠ .SWITCH_CLOSED))
    (hrelease : ¬(Debounce.Drops DEBOUNCE_SWITCH TogglePoll.closed p_switch.debounce e ∧
      p_switch.pressed = true ∧ p_switch.status ≠ .SWITCH_OPEN)) :
    toggleBody p_switch e = { p_switch with
      debounce := Debounce.next DEBOUNCE_SWITCH TogglePoll.closed p_switch.debounce e } := by
  have hnext := toggleStep_debounce (e := e) hs.range hs.settled
  rw [toggleStep_eq, (toggleEnd_frame _ _).2.1] at hnext
  cases hcontact : e.contact with
  | false =>
      rcases toggleBody_closed hcontact hs.settled with ⟨-, hbody⟩ | ⟨-, -, hbody⟩ |
        ⟨hreach, hopen, counter, hbody⟩
      · rw [hbody] at hnext ⊢
        rw [← hnext]
      · rw [hbody] at hnext ⊢
        rw [← hnext]
        rfl
      · rw [hbody] at hnext
        refine absurd ⟨⟨fun hmax => ?_, hnext.symm⟩, hopen⟩ hpress
        rw [hmax] at hreach
        cases hreach
  | true =>
      rcases toggleBody_open hcontact hs.settled with ⟨-, hbody⟩ | ⟨-, -, hbody⟩ |
        ⟨hreach, hpressed, hclosed, hbody⟩
      · rw [hbody] at hnext ⊢
        rw [← hnext]
      · rw [hbody] at hnext ⊢
        rw [← hnext]
        rfl
      · rw [hbody] at hnext
        refine absurd ⟨⟨fun hone => ?_, hnext.symm⟩, hpressed, hclosed⟩ hrelease
        rw [hone] at hreach
        cases hreach

/-! ## The other switches -/

/-- What a poll of such a switch makes of the counters and the times, in front of its
end. -/
structure BodyCounts (p_switch : AppSwitch) (e : HeldPoll) (body : AppSwitch) : Prop where
  debounce : p_switch.InRange →
    body.debounce = Debounce.next DEBOUNCE_SWITCH HeldPoll.closed p_switch.debounce e
  counter : body.counter =
    if p_switch.Presses e then
      if clockTimeExceed e.poll.pressClock p_switch.pressed_time TIMEOUT_TICK_500MS = true then 1
      else (p_switch.counter + 1) % 256
    else p_switch.counter
  pressed_time : body.pressed_time =
    if p_switch.Presses e then e.poll.stampClock else p_switch.pressed_time
  hold_time : body.hold_time =
    if p_switch.Presses e then e.poll.stampClock else p_switch.hold_time

/-- A poll that does not press. -/
theorem bodyCounts_of_not {p_switch : AppSwitch} {e : HeldPoll} {body : AppSwitch}
    (hpress : ¬p_switch.Presses e)
    (hdebounce : p_switch.InRange →
      body.debounce = Debounce.next DEBOUNCE_SWITCH HeldPoll.closed p_switch.debounce e)
    (hsame : body.counter = p_switch.counter ∧ body.pressed_time = p_switch.pressed_time ∧
      body.hold_time = p_switch.hold_time) : BodyCounts p_switch e body := by
  refine ⟨hdebounce, ?_, ?_, ?_⟩
  · rw [if_neg hpress]
    exact hsame.1
  · rw [if_neg hpress]
    exact hsame.2.1
  · rw [if_neg hpress]
    exact hsame.2.2

theorem bodyCounts_closed (k : HeldSwitch) {p_switch : AppSwitch} {e : HeldPoll}
    (hcontact : e.contact = false) :
    BodyCounts p_switch e (heldClosed k.held p_switch e.poll).1 := by
  rcases holdCalls_spec (k := k) hcontact with ⟨level_dir, calls, hcalls, -, -⟩
  unfold heldClosed
  rw [hcalls]
  by_cases hmax : p_switch.debounce = DEBOUNCE_SWITCH
  · refine bodyCounts_of_not (fun h => h.debounce hmax) (fun _ => ?_) ?_
    · simp [hmax, Debounce.next, HeldPoll.closed, hcontact]
    · simp [hmax]
  · have hnext : p_switch.InRange → p_switch.debounceUp.debounce =
        Debounce.next DEBOUNCE_SWITCH HeldPoll.closed p_switch.debounce e := by
      intro hrange
      rw [hrange.debounceUp]
      simp [hmax, Debounce.next, HeldPoll.closed, hcontact]
    by_cases hreaches : p_switch.debounceUp.debounce = DEBOUNCE_SWITCH
    · have hpress : p_switch.Presses e := ⟨hcontact, hmax, hreaches⟩
      simp only [AppSwitch.debounceUp] at hreaches hnext
      refine ⟨fun hrange => ?_, ?_, ?_, ?_⟩
      · cases hexceed : clockTimeExceed e.poll.pressClock p_switch.pressed_time
            TIMEOUT_TICK_500MS with
        | false =>
            simp [hmax, hreaches, hexceed, AppSwitch.debounceUp, AppSwitch.countUp,
              AppSwitch.stamp, ← hnext hrange]
        | true =>
            simp [hmax, hreaches, hexceed, AppSwitch.debounceUp, AppSwitch.stamp,
              ← hnext hrange]
      · cases hexceed : clockTimeExceed e.poll.pressClock p_switch.pressed_time
            TIMEOUT_TICK_500MS with
        | false =>
            simp [hmax, hreaches, hexceed, hpress, AppSwitch.debounceUp, AppSwitch.countUp,
              AppSwitch.stamp]
        | true => simp [hmax, hreaches, hexceed, hpress, AppSwitch.debounceUp, AppSwitch.stamp]
      · simp [hmax, hreaches, hpress, AppSwitch.debounceUp, AppSwitch.stamp]
      · simp [hmax, hreaches, hpress, AppSwitch.debounceUp, AppSwitch.stamp]
    · have hpress : ¬p_switch.Presses e := fun h => hreaches h.reaches
      simp only [AppSwitch.debounceUp] at hreaches hnext
      refine bodyCounts_of_not hpress (fun hrange => ?_) ?_
      · simp [hmax, hreaches, AppSwitch.debounceUp, ← hnext hrange]
      · simp [hmax, hreaches, AppSwitch.debounceUp]

theorem bodyCounts_open {p_switch : AppSwitch} {e : HeldPoll} (hcontact : e.contact = true) :
    BodyCounts p_switch e (heldOpen p_switch e.poll).1 := by
  have hpress := not_presses_of_open p_switch hcontact
  unfold heldOpen
  by_cases hmin : p_switch.debounce = 1
  · refine bodyCounts_of_not hpress (fun _ => ?_) ?_
    · simp [hmin, Debounce.next, HeldPoll.closed, hcontact]
    · simp [hmin]
  · have hnext : p_switch.InRange → p_switch.debounceDown.debounce =
        Debounce.next DEBOUNCE_SWITCH HeldPoll.closed p_switch.debounce e := by
      intro hrange
      rw [hrange.debounceDown]
      simp [hmin, Debounce.next, HeldPoll.closed, hcontact]
    rw [if_pos hmin]
    dsimp only
    split
    · exact bodyCounts_of_not hpress hnext ⟨rfl, rfl, rfl⟩
    · exact bodyCounts_of_not hpress hnext ⟨rfl, rfl, rfl⟩

theorem body_counts (k : HeldSwitch) (p_switch : AppSwitch) (e : HeldPoll) :
    BodyCounts p_switch e (k.body p_switch e).1 := by
  unfold HeldSwitch.body
  split
  · rename_i hcontact
    exact bodyCounts_closed k hcontact
  · rename_i hcontact
    exact bodyCounts_open (Bool.not_eq_false _ ▸ hcontact)

/-- The end of a poll changes neither the debounce counter nor the times. -/
theorem heldStep_frame (k : HeldSwitch) (p_switch : AppSwitch) (e : HeldPoll) :
    (k.step p_switch e).debounce = (k.body p_switch e).1.debounce ∧
      (k.step p_switch e).pressed_time = (k.body p_switch e).1.pressed_time ∧
      (k.step p_switch e).hold_time = (k.body p_switch e).1.hold_time := by
  rw [step_eq]
  split
  · exact ⟨rfl, rfl, rfl⟩
  · exact ⟨rfl, rfl, rfl⟩

/-- The samples move the counter. -/
theorem heldStep_debounce {k : HeldSwitch} {p_switch : AppSwitch} {e : HeldPoll}
    (hrange : p_switch.InRange) :
    (k.step p_switch e).debounce =
      Debounce.next DEBOUNCE_SWITCH HeldPoll.closed p_switch.debounce e := by
  rw [(heldStep_frame k p_switch e).1]
  exact (body_counts k p_switch e).debounce hrange

theorem heldStep_inRange (k : HeldSwitch) {p_switch : AppSwitch} (e : HeldPoll)
    (hrange : p_switch.InRange) : (k.step p_switch e).InRange := by
  have hnext := heldStep_debounce (k := k) (e := e) hrange
  have hbounds := Debounce.next_bounds HeldPoll.closed e hrange.lower hrange.upper
  exact ⟨hnext ▸ hbounds.1, hnext ▸ hbounds.2⟩

/-- A press is counted when the counter arrives at its upper end. -/
theorem presses_iff_arrives {p_switch : AppSwitch} {e : HeldPoll} (hrange : p_switch.InRange) :
    p_switch.Presses e ↔
      Debounce.Arrives DEBOUNCE_SWITCH HeldPoll.closed p_switch.debounce e := by
  have hup := hrange.debounceUp
  rw [AppSwitch.presses_iff, hup]
  constructor
  · rintro ⟨hclosed, hne, hreaches⟩
    refine ⟨hne, ?_⟩
    rw [Debounce.next, HeldPoll.closed, hclosed, if_neg hne]
    exact hreaches
  · intro harrives
    rcases Debounce.arrives_up hrange.upper harrives with ⟨hclosed, hreaches⟩
    exact ⟨by simpa [HeldPoll.closed] using hclosed, harrives.1, hreaches⟩

/-- The contact is debounced open when the counter arrives at one. -/
theorem opens_iff_drops {p_switch : AppSwitch} {e : HeldPoll} (hrange : p_switch.InRange) :
    p_switch.Opens e ↔ Debounce.Drops DEBOUNCE_SWITCH HeldPoll.closed p_switch.debounce e := by
  have hdown := hrange.debounceDown
  rw [AppSwitch.opens_iff, hdown]
  constructor
  · rintro ⟨hopened, hne, hreaches⟩
    refine ⟨hne, ?_⟩
    rw [Debounce.next, HeldPoll.closed, hopened, if_neg hne]
    exact hreaches
  · intro hdrops
    rcases Debounce.drops_down hrange.lower hdrops with ⟨hopened, habove⟩
    exact ⟨by simpa [HeldPoll.closed] using hopened, hdrops.1, by omega⟩

/-! ## Changes of the switch type -/

/-- A poll of {lit}`switch_handler`. -/
def switchStep (p_switch : AppSwitch) (e : TogglePoll) : AppSwitch :=
  (readSwitch e.relay_settings p_switch e.contact e.poll).1

theorem switchStep_inRange (p_switch : AppSwitch) (e : TogglePoll) (hrange : p_switch.InRange) :
    (switchStep p_switch e).InRange := by
  unfold switchStep readSwitch
  split
  · exact toggleStep_inRange e hrange
  · split
    · exact heldStep_inRange multifunctionSwitch ⟨e.contact, e.poll⟩ hrange
    · split
      · exact heldStep_inRange lightControlSwitch ⟨e.contact, e.poll⟩ hrange
      · exact hrange

/-! ## Presses of a toggle or momentary switch -/

/-- The contact is settled open: the state between two uses of the switch. -/
structure SettledOpen (p_switch : AppSwitch) : Prop where
  debounce : p_switch.debounce = 1
  status : p_switch.status = .SWITCH_OPEN
  counter : p_switch.counter = 0

/-- The contact is settled open and no burst is going on. -/
structure AtRest (p_switch : AppSwitch) : Prop extends SettledOpen p_switch where
  pressed : p_switch.pressed = false
  released : p_switch.released = false

theorem SettledOpen.tracks {p_switch : AppSwitch} (hs : SettledOpen p_switch) :
    p_switch.Tracks := by
  refine ⟨⟨?_, ?_⟩, ?_⟩
  · exact Nat.le_of_eq hs.debounce.symm
  · rw [hs.debounce]
    decide
  · rw [hs.status]
    decide

theorem pressCommand_not_release (relay_settings : RelaySettings) :
    pressCommand relay_settings ∉ releaseCommands relay_settings := by
  unfold pressCommand releaseCommands
  split
  · split
    · split
      · decide
      · decide
    · split
      · decide
      · decide
  · simp

theorem CallKind.acts {decoupled : UInt8} {call : SwitchCall} (hkind : CallKind decoupled call) :
    call.Drives ∨ call.Sends := by
  by_cases hcoupled : decoupled = CUSTOM_SWITCH_DECOUPLED_OFF
  · exact .inl (hkind.drives.mpr hcoupled)
  · exact .inr (hkind.sends.mpr hcoupled)

/-- A press command is issued when the counter arrives at its upper end. -/
theorem debounce_of_pressCommand {p_switch : AppSwitch} {e : TogglePoll}
    (hcall : pressCommand e.relay_settings ∈
      (readSwitchToggle e.relay_settings p_switch e.contact e.poll).2) :
    (toggleStep p_switch e).debounce = DEBOUNCE_SWITCH := by
  have hkind := toggleCall_of_mem hcall
  have hacts := (pressCommand_kind e.relay_settings).acts
  generalize hcommand : pressCommand e.relay_settings = call at hkind hacts
  cases hkind with
  | firstStart => exact absurd hcommand (pressCommand_kind _).started
  | press hdebounce hreaches => exact hreaches
  | release hdebounce hreaches hmem =>
      rw [← hcommand] at hmem
      exact absurd hmem (pressCommand_not_release _)
  | rejoin => exact hacts.elim False.elim False.elim
  | reset => exact hacts.elim False.elim False.elim

/-- The contact comes to count as closed. -/
def Closes (p_switch : AppSwitch) (e : TogglePoll) : Prop :=
  p_switch.status ≠ .SWITCH_CLOSED ∧ (toggleStep p_switch e).status = .SWITCH_CLOSED

/-- The contact came to count as closed, and that was {lit}`k` polls ago. -/
structure Spaced (k : Nat) (p_switch : AppSwitch) : Prop where
  tracks : p_switch.Tracks
  closed : p_switch.status = .SWITCH_CLOSED → DEBOUNCE_SWITCH ≤ p_switch.debounce + k
  opened : p_switch.status = .SWITCH_OPEN → p_switch.debounce + (DEBOUNCE_SWITCH - 2) ≤ k

/-- Where the status of a poll comes from. -/
theorem toggleStep_status {p_switch : AppSwitch} (e : TogglePoll) (hs : p_switch.Tracks) :
    (toggleStep p_switch e).status = p_switch.status ∨
      (p_switch.status = .SWITCH_OPEN ∧ (toggleStep p_switch e).status = .SWITCH_CLOSED ∧
        p_switch.debounce + 1 = DEBOUNCE_SWITCH ∧
        (toggleStep p_switch e).debounce = DEBOUNCE_SWITCH) ∨
      (p_switch.status = .SWITCH_CLOSED ∧ (toggleStep p_switch e).status = .SWITCH_OPEN ∧
        p_switch.debounce = 2 ∧ (toggleStep p_switch e).debounce = 1) := by
  rcases toggleEnd_frame (toggleBody p_switch e) e.poll with ⟨hstatus, hdebounce, -⟩
  rw [toggleStep_eq, hstatus, hdebounce]
  have hsettled := hs.settled
  cases hcontact : e.contact with
  | false =>
      have hup := hs.range.debounceUp
      simp only [AppSwitch.debounceUp] at hup
      rcases toggleBody_closed hcontact hs.settled with ⟨-, hbody⟩ | ⟨-, -, hbody⟩ |
        ⟨hreach, hopen, counter, hbody⟩
      · rw [hbody]
        exact .inl rfl
      · rw [hbody]
        exact .inl rfl
      · rw [hbody]
        refine .inr (.inl ⟨?_, rfl, ?_, rfl⟩)
        · cases hold : p_switch.status with
          | SWITCH_OPEN => rfl
          | SWITCH_CLOSED => exact absurd hold hopen
          | SWITCH_FLOAT => exact absurd hold hsettled
        · rw [← hup]
          exact hreach
  | true =>
      have hdown := hs.range.debounceDown
      simp only [AppSwitch.debounceDown] at hdown
      rcases toggleBody_open hcontact hs.settled with ⟨-, hbody⟩ | ⟨-, -, hbody⟩ |
        ⟨hreach, -, hclosed, hbody⟩
      · rw [hbody]
        exact .inl rfl
      · rw [hbody]
        exact .inl rfl
      · rw [hbody]
        refine .inr (.inr ⟨?_, rfl, ?_, rfl⟩)
        · cases hold : p_switch.status with
          | SWITCH_OPEN => exact absurd hold hclosed
          | SWITCH_CLOSED => rfl
          | SWITCH_FLOAT => exact absurd hold hsettled
        · omega

/-- A poll takes the counter one step, and the contact counts as closed again only when
the counter was down at one since. -/
theorem spaced_step {k : Nat} {p_switch : AppSwitch} (e : TogglePoll)
    (hs : Spaced k p_switch) :
    Spaced (k + 1) (toggleStep p_switch e) ∧
      (Closes p_switch e → 2 * (DEBOUNCE_SWITCH - 1) ≤ k + 1) := by
  have htracks := tracks_step p_switch e hs.tracks
  have hnear := Debounce.next_near DEBOUNCE_SWITCH TogglePoll.closed e
    hs.tracks.range.lower
  rw [← toggleStep_debounce hs.tracks.range hs.tracks.settled] at hnear
  have hclosed := hs.closed
  have hopened := hs.opened
  simp only [DEBOUNCE_SWITCH] at hclosed hopened ⊢
  rcases toggleStep_status e hs.tracks with hsame | ⟨hopen, hcloses, hbefore, hbehind⟩ |
    ⟨hwas, hopens, hbefore, hbehind⟩
  · refine ⟨⟨htracks, fun h => ?_, fun h => ?_⟩, fun h => ?_⟩
    · have hold := hclosed (hsame ▸ h)
      simp only [DEBOUNCE_SWITCH]
      omega
    · have hold := hopened (hsame ▸ h)
      simp only [DEBOUNCE_SWITCH]
      omega
    · exact absurd (hsame ▸ h.2) h.1
  · have hold := hopened hopen
    simp only [DEBOUNCE_SWITCH] at hbefore hbehind
    refine ⟨⟨htracks, fun _ => ?_, fun h => ?_⟩, fun _ => ?_⟩
    · simp only [DEBOUNCE_SWITCH]
      omega
    · rw [hcloses] at h
      cases h
    · omega
  · have hold := hclosed hwas
    refine ⟨⟨htracks, fun h => ?_, fun _ => ?_⟩, fun h => absurd hwas h.1⟩
    · rw [hopens] at h
      cases h
    · simp only [DEBOUNCE_SWITCH]
      omega

/-- A poll that closes the contact starts the count. -/
theorem spaced_of_closes {p_switch : AppSwitch} {e : TogglePoll} (hs : p_switch.Tracks)
    (hcloses : Closes p_switch e) : Spaced 0 (toggleStep p_switch e) := by
  rcases toggleStep_status e hs with hsame | ⟨-, hclosed, -, hmax⟩ | ⟨hwas, -⟩
  · exact absurd (hsame ▸ hcloses.2) hcloses.1
  · refine ⟨tracks_step p_switch e hs, fun _ => Nat.le_of_eq hmax.symm, fun h => ?_⟩
    rw [hclosed] at h
    cases h
  · exact absurd hwas hcloses.1

theorem spaced_run {k : Nat} {p_switch : AppSwitch} (es : List TogglePoll)
    (hs : Spaced k p_switch) : Spaced (k + es.length) (run toggleStep p_switch es) := by
  induction es generalizing k p_switch with
  | nil => exact hs
  | cons e es ih =>
      have hnext := ih (spaced_step e hs).1
      rw [List.length_cons, Nat.add_comm es.length 1, ← Nat.add_assoc]
      exact hnext

/-- From {lit}`switch_init` on the counter stays between its ends, whatever the switch type
is at each poll.  From a settled open contact on, a toggle or momentary switch issues a
press command only when the samples up to that poll have a window with almost as many more
closed than open as there are steps to the upper end, and between two changes to closed
there is the time for all steps down and up. -/
theorem debounce_filters (relay_settings : RelaySettings) (p_switch : AppSwitch)
    (clock : UInt32) (es : List TogglePoll) (s : AppSwitch) (hs : SettledOpen s) :
    (run switchStep (initAppSwitch relay_settings p_switch clock) es).InRange ∧
      (∀ e, pressCommand e.relay_settings ∈
          (readSwitchToggle e.relay_settings (run toggleStep s es) e.contact e.poll).2 →
        ∃ w, w <:+ es ++ [e] ∧
          w.countP (fun e => !e.closed) + (DEBOUNCE_SWITCH - 1) ≤ w.countP TogglePoll.closed) ∧
      ∀ e between e', Closes (run toggleStep s es) e →
        Closes (run toggleStep s (es ++ e :: between)) e' →
          2 * (DEBOUNCE_SWITCH - 1) ≤ between.length + 1 := by
  refine ⟨?_, fun e hcall => ?_, fun e between e' hfirst hsecond => ?_⟩
  · have hstart : (initAppSwitch relay_settings p_switch clock).InRange :=
      ⟨show 1 ≤ DEBOUNCE_SWITCH / 2 by decide, show DEBOUNCE_SWITCH / 2 ≤ DEBOUNCE_SWITCH by decide⟩
    exact run_invariant_always AppSwitch.InRange switchStep_inRange es hstart
  · have hmax := debounce_of_pressCommand hcall
    have hrun := toggle_run_debounce hs.tracks (es ++ [e])
    rw [hs.debounce] at hrun
    rw [run_append, run_cons, run_nil, hmax] at hrun
    rcases Debounce.run_le_window (N := DEBOUNCE_SWITCH) TogglePoll.closed (by decide)
      (es ++ [e]) with ⟨w, hsuffix, hcount⟩
    rw [← hrun] at hcount
    refine ⟨w, hsuffix, ?_⟩
    simp only [DEBOUNCE_SWITCH] at hcount ⊢
    omega
  · have htracks : (run toggleStep s es).Tracks :=
      run_invariant_always AppSwitch.Tracks tracks_step es hs.tracks
    have hspaced := spaced_run between (spaced_of_closes htracks hfirst)
    rw [run_append, run_cons] at hsecond
    have hapart := (spaced_step e' hspaced).2 hsecond
    omega

/-- A switch that was settled open and is closed for good. -/
theorem debounce_filters_press :
    SettledOpen { debounce := 1 } ∧
      pressCommand closedPoll.relay_settings ∈
        (readSwitchToggle closedPoll.relay_settings
          (run toggleStep { debounce := 1 } (List.replicate 126 closedPoll)) closedPoll.contact
          closedPoll.poll).2 ∧
      ∃ w, w <:+ List.replicate 126 closedPoll ++ [closedPoll] ∧
        w.countP (fun e => !e.closed) + (DEBOUNCE_SWITCH - 1) ≤ w.countP TogglePoll.closed := by
  have hs : SettledOpen { debounce := 1 } := ⟨rfl, rfl, rfl⟩
  have hcall : pressCommand closedPoll.relay_settings ∈
      (readSwitchToggle closedPoll.relay_settings
        (run toggleStep { debounce := 1 } (List.replicate 126 closedPoll)) closedPoll.contact
        closedPoll.poll).2 := by
    decide +kernel
  exact ⟨hs, hcall, (debounce_filters {} {} 0 (List.replicate 126 closedPoll) _ hs).2.1 _ hcall⟩

/-! ## Clicks of the other switches -/

/-- The debounce counter was at one, and no press has been counted since. -/
def HeldSwitch.ReadyToClimb (k : HeldSwitch) (p_switch : AppSwitch) (es : List HeldPoll) : Prop :=
  ∃ es₁ es₂, es = es₁ ++ es₂ ∧ (run k.step p_switch es₁).debounce = 1 ∧
    ¬Sometime k.step AppSwitch.Presses (run k.step p_switch es₁) es₂

theorem held_run_debounce (k : HeldSwitch) {p_switch : AppSwitch} (hs : p_switch.InRange)
    (es : List HeldPoll) :
    (run k.step p_switch es).debounce =
      run (Debounce.next DEBOUNCE_SWITCH HeldPoll.closed) p_switch.debounce es :=
  run_map_invariant AppSwitch.InRange (fun _ e hs => heldStep_inRange k e hs)
    (fun _ _ hs => heldStep_debounce hs) hs es

theorem readyToClimb_iff_touched (k : HeldSwitch) {p_switch : AppSwitch}
    (hone : p_switch.debounce = 1) (es : List HeldPoll) :
    k.ReadyToClimb p_switch es ↔ Debounce.Touched DEBOUNCE_SWITCH HeldPoll.closed es := by
  have hs : p_switch.InRange := ⟨Nat.le_of_eq hone.symm, by rw [hone]; decide⟩
  have hpresses : ∀ es₁ es₂,
      Sometime k.step AppSwitch.Presses (run k.step p_switch es₁) es₂ ↔
        Sometime (Debounce.next DEBOUNCE_SWITCH HeldPoll.closed)
          (Debounce.Arrives DEBOUNCE_SWITCH HeldPoll.closed)
          (run k.step p_switch es₁).debounce es₂ := by
    intro es₁ es₂
    exact sometime_map_invariant AppSwitch.InRange (fun _ e hs => heldStep_inRange k e hs)
      (fun _ _ hs => heldStep_debounce hs) (fun _ _ hs => presses_iff_arrives hs)
      (run_invariant_always AppSwitch.InRange (fun _ e hs => heldStep_inRange k e hs) es₁ hs) es₂
  constructor
  · rintro ⟨es₁, es₂, rfl, hrun, hnone⟩
    rw [hpresses, hrun] at hnone
    rw [held_run_debounce k hs, hone] at hrun
    exact ⟨es₁, es₂, rfl, hrun, hnone⟩
  · rintro ⟨es₁, es₂, rfl, hrun, hnone⟩
    have hat : (run k.step p_switch es₁).debounce = 1 := by
      rw [held_run_debounce k hs, hone]
      exact hrun
    refine ⟨es₁, es₂, rfl, hat, ?_⟩
    rw [hpresses, hat]
    exact hnone

/-- From a settled open contact on, each press that is counted has climbed from one since
the press before exactly if the samples have no bounce while the counter is at its upper
end. -/
theorem clicks_climb_iff (p_switch : AppSwitch) (hone : p_switch.debounce = 1)
    (es : List HeldPoll) :
    ∀ k ∈ [multifunctionSwitch, lightControlSwitch],
      (∀ es₁ e es₂, es = es₁ ++ e :: es₂ → (run k.step p_switch es₁).Presses e →
          k.ReadyToClimb p_switch es₁) ↔
        ∀ es₁ w es₂, es = es₁ ++ w ++ es₂ →
          (run k.step p_switch es₁).debounce = DEBOUNCE_SWITCH →
            ¬Debounce.Bounce DEBOUNCE_SWITCH HeldPoll.closed w := by
  intro k _
  have hs : p_switch.InRange := ⟨Nat.le_of_eq hone.symm, by rw [hone]; decide⟩
  have hpresses : ∀ es₁ e, (run k.step p_switch es₁).Presses e ↔
      Debounce.Arrives DEBOUNCE_SWITCH HeldPoll.closed
        (run (Debounce.next DEBOUNCE_SWITCH HeldPoll.closed) 1 es₁) e := by
    intro es₁ e
    rw [presses_iff_arrives (run_invariant_always AppSwitch.InRange
      (fun _ e hs => heldStep_inRange k e hs) es₁ hs), held_run_debounce k hs, hone]
  simp only [hpresses, readyToClimb_iff_touched k hone, held_run_debounce k hs, hone]
  exact Debounce.touched_iff_no_bounce (by decide) es

/-- A press without a bounce. -/
theorem clicks_climb_press :
    (run multifunctionSwitch.step { debounce := 1 } (List.replicate 126 (pollAt false 0))).Presses
        (pollAt false 0) ∧
      multifunctionSwitch.ReadyToClimb { debounce := 1 }
        (List.replicate 126 (pollAt false 0)) := by
  have hpress : (run multifunctionSwitch.step { debounce := 1 }
      (List.replicate 126 (pollAt false 0))).Presses (pollAt false 0) := by
    decide +kernel
  have hiff := clicks_climb_iff { debounce := 1 } rfl (List.replicate 127 (pollAt false 0))
    multifunctionSwitch (by simp)
  refine ⟨hpress, hiff.mpr ?_ _ _ [] List.replicate_succ' hpress⟩
  rintro es₁ w es₂ hes - ⟨w', e, rfl, hne, haway, -⟩
  -- a bounce begins with an open sample
  rcases List.exists_cons_of_ne_nil hne with ⟨first, rest, rfl⟩
  have hfirst : first = pollAt false 0 := by
    refine List.eq_of_mem_replicate (n := 127) ?_
    rw [hes]
    simp
  have haway' := haway [first] ⟨rest, rfl⟩ (by simp)
  rw [hfirst] at haway'
  exact absurd haway'.1 (by decide)

/-- A closed contact, and one open sample. -/
def heldWithBounce : List HeldPoll := List.replicate 127 (pollAt false 0) ++ [pollAt true 0]

/-- The closed sample behind it counts as another click, and the debounce counter was only
one step below its upper end. -/
theorem heldWithBounce_counts :
    ∀ k ∈ [multifunctionSwitch, lightControlSwitch],
      (run k.step { debounce := 1 } heldWithBounce).Presses (pollAt false 0) ∧
        ¬k.ReadyToClimb { debounce := 1 } heldWithBounce ∧
        (run k.step { debounce := 1 } heldWithBounce).debounce = DEBOUNCE_SWITCH - 1 ∧
        (run k.step { debounce := 1 } (heldWithBounce ++ [pollAt false 0])).counter = 2 := by
  intro k hk
  have hsplits : ∀ n < 129,
      (run k.step { debounce := 1 } (heldWithBounce.take n)).debounce = 1 →
        Sometime k.step AppSwitch.Presses
          (run k.step { debounce := 1 } (heldWithBounce.take n)) (heldWithBounce.drop n) := by
    simp only [List.mem_cons, List.not_mem_nil, or_false] at hk
    rcases hk with rfl | rfl
    · decide +kernel
    · decide +kernel
  have hready : ¬k.ReadyToClimb { debounce := 1 } heldWithBounce := by
    rintro ⟨es₁, es₂, hsplit, hone, hnone⟩
    have hlen : es₁.length < 129 := by
      have hboth := congrArg List.length hsplit
      simp only [heldWithBounce, List.length_append, List.length_replicate,
        List.length_singleton] at hboth
      omega
    have hsometime := hsplits es₁.length hlen
    rw [hsplit, List.take_left, List.drop_left] at hsometime
    exact hnone (hsometime hone)
  simp only [List.mem_cons, List.not_mem_nil, or_false] at hk
  rcases hk with rfl | rfl
  · refine ⟨?_, hready, ?_⟩
    · decide +kernel
    · decide +kernel
  · refine ⟨?_, hready, ?_⟩
    · decide +kernel
    · decide +kernel

/-- So it does in both functions. -/
theorem bounce_counts :
    ((run multifunctionSwitch.step { debounce := 1 } heldWithBounce).Presses (pollAt false 0) ∧
      ¬multifunctionSwitch.ReadyToClimb { debounce := 1 } heldWithBounce ∧
      (run multifunctionSwitch.step { debounce := 1 } heldWithBounce).debounce =
        DEBOUNCE_SWITCH - 1 ∧
      (run multifunctionSwitch.step { debounce := 1 }
        (heldWithBounce ++ [pollAt false 0])).counter = 2) ∧
    (run lightControlSwitch.step { debounce := 1 } heldWithBounce).Presses (pollAt false 0) ∧
      ¬lightControlSwitch.ReadyToClimb { debounce := 1 } heldWithBounce ∧
      (run lightControlSwitch.step { debounce := 1 } heldWithBounce).debounce =
        DEBOUNCE_SWITCH - 1 ∧
      (run lightControlSwitch.step { debounce := 1 }
        (heldWithBounce ++ [pollAt false 0])).counter = 2 := by
  have hmultifunction := heldWithBounce_counts multifunctionSwitch (by simp)
  have hlight := heldWithBounce_counts lightControlSwitch (by simp)
  exact ⟨hmultifunction, hlight⟩

end Firmware
