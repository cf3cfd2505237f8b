import TuyaMiniSwitch.App.Switch
import TuyaMiniSwitch.Library.Machine

/-!
# Application - Whether the wall switch stays alive

Leaving {lit}`SWITCH_CLOSED` takes the flag {lit}`pressed`.  Two polls separate
them: the first poll after a boot with the contact closed, which enters
{lit}`SWITCH_CLOSED` without a press, and a poll that ends a burst of presses
while the contact counts as closed, which clears the flag.  Behind either of
them the switch is dead until the next boot.

Main results:

- Theorem {lit}`alive_step`: polls that do neither keep the switch alive.
- Theorem {lit}`dead_step`: a dead switch stays dead.
- Theorem {lit}`wall_switch_alive`: the switch works in every run without such
  polls, and such a poll can always be continued to a dead switch.
-/

namespace Firmware

open Utility OnOffLog Machine

/-- What one poll of a toggle or momentary switch is given. -/
structure TogglePoll where
  relay_settings : RelaySettings
  contact : Bool
  poll : Poll

/-- A poll of {lit}`read_switch_toggle`. -/
def toggleStep (p_switch : AppSwitch) (e : TogglePoll) : AppSwitch :=
  (readSwitchToggle e.relay_settings p_switch e.contact e.poll).1

/-- The poll ends a burst of presses while the contact counts as closed: it was
closed before and this poll does not open it, or this poll closes it. -/
def EndsBurstClosed (p_switch : AppSwitch) (e : TogglePoll) : Prop :=
  p_switch.released = true ∧
    (p_switch.status = .SWITCH_CLOSED ∧
        clockTimeExceed e.poll.endClock p_switch.pressed_time TIMEOUT_TICK_500MS = true ∧
        ¬ (e.contact = true ∧ p_switch.debounce = 2 ∧ p_switch.pressed = true) ∨
      p_switch.status = .SWITCH_OPEN ∧ e.contact = false ∧
        p_switch.debounce = DEBOUNCE_SWITCH - 1 ∧
        clockTimeExceed e.poll.endClock e.poll.stampClock TIMEOUT_TICK_500MS = true)

/-- The polls that keep the switch alive: the first one reads an open contact,
and no later one ends a burst while the contact counts as closed. -/
def KeepsAlive (p_switch : AppSwitch) (e : TogglePoll) : Prop :=
  (p_switch.status = .SWITCH_FLOAT → e.contact = true) ∧ ¬ EndsBurstClosed p_switch e

/-- The switch behind {lit}`switch_init`, before its first poll. -/
structure Fresh (p_switch : AppSwitch) : Prop where
  status : p_switch.status = .SWITCH_FLOAT
  debounce : p_switch.debounce = 64
  counter : p_switch.counter = 0
  pressed : p_switch.pressed = false
  released : p_switch.released = false

/-- The switch can be opened and closed. -/
structure Alive (p_switch : AppSwitch) : Prop where
  settled : p_switch.status = .SWITCH_OPEN ∨ p_switch.status = .SWITCH_CLOSED
  lower : 1 ≤ p_switch.debounce
  upper : p_switch.debounce ≤ 128
  pressed : p_switch.status = .SWITCH_CLOSED → p_switch.pressed = true
  closed : p_switch.debounce = 128 → p_switch.status = .SWITCH_CLOSED
  opened : p_switch.debounce = 1 → p_switch.status = .SWITCH_OPEN
  counted : p_switch.counter ≠ 0 → p_switch.pressed = true

/-- The switch is closed and can not be opened any more. -/
structure Dead (p_switch : AppSwitch) : Prop where
  status : p_switch.status = .SWITCH_CLOSED
  pressed : p_switch.pressed = false
  lower : 1 ≤ p_switch.debounce
  upper : p_switch.debounce ≤ 128

/-- A poll recognises a press: the contact counts as open before it and as
closed and pressed behind it, at the time of this poll. -/
def RecognisesPress (p_switch : AppSwitch) (e : TogglePoll) : Prop :=
  p_switch.status ≠ .SWITCH_CLOSED ∧ (toggleStep p_switch e).status = .SWITCH_CLOSED ∧
    (toggleStep p_switch e).pressed = true ∧
    (toggleStep p_switch e).pressed_time = e.poll.stampClock

/-! ## What a poll can do -/

/-- The part of a poll in front of its end. -/
def toggleBody (p_switch : AppSwitch) (e : TogglePoll) : AppSwitch :=
  if e.contact = false then (toggleClosed e.relay_settings p_switch e.poll).1
  else (toggleOpen e.relay_settings p_switch e.poll).1

theorem toggleStep_eq (p_switch : AppSwitch) (e : TogglePoll) :
    toggleStep p_switch e = (toggleEnd (toggleBody p_switch e) e.poll).1 := by
  unfold toggleStep toggleBody readSwitchToggle
  cases e.contact <;> rfl

/-- What a closed contact can do behind the first poll. -/
theorem toggleBody_closed {p_switch : AppSwitch} {e : TogglePoll}
    (hcontact : e.contact = false) (hfloat : p_switch.status ≠ .SWITCH_FLOAT) :
    (p_switch.debounce = 128 ∧ toggleBody p_switch e = p_switch) ∨
    (p_switch.debounce ≠ 128 ∧
      ((p_switch.debounce + 1) % 256 = 128 → p_switch.status = .SWITCH_CLOSED) ∧
      toggleBody p_switch e = p_switch.debounceUp) ∨
    ((p_switch.debounce + 1) % 256 = 128 ∧ p_switch.status ≠ .SWITCH_CLOSED ∧
      ∃ counter, toggleBody p_switch e =
        { p_switch with
          status := .SWITCH_CLOSED, debounce := 128, counter := counter,
          pressed := decide (p_switch.counter = 0) || p_switch.pressed,
          hold_time := e.poll.stampClock, pressed_time := e.poll.stampClock }) := by
  unfold toggleBody toggleClosed
  rw [if_pos hcontact, if_neg hfloat]
  by_cases hdebounce : p_switch.debounce = 128
  · exact Or.inl ⟨hdebounce, by simp [DEBOUNCE_SWITCH, hdebounce]⟩
  · rw [if_pos (show p_switch.debounce ≠ DEBOUNCE_SWITCH from hdebounce)]
    by_cases hpress : (p_switch.debounce + 1) % 256 = 128 ∧ p_switch.status ≠ .SWITCH_CLOSED
    · refine Or.inr (Or.inr ⟨hpress.1, hpress.2, ?_⟩)
      have hpress' : p_switch.debounceUp.debounce = DEBOUNCE_SWITCH ∧
          p_switch.debounceUp.status ≠ .SWITCH_CLOSED := hpress
      dsimp only
      rw [if_pos hpress']
      split
      · rename_i hzero
        refine ⟨(p_switch.counter + 1) % 256, ?_⟩
        have hcounter : p_switch.counter = 0 := hzero
        simp [AppSwitch.stamp, AppSwitch.countUp, AppSwitch.debounceUp, hpress.1, hcounter]
      · rename_i hnonzero
        have hcounter : p_switch.counter ≠ 0 := hnonzero
        split
        · refine ⟨(p_switch.counter + 1) % 256, ?_⟩
          simp [AppSwitch.stamp, AppSwitch.countUp, AppSwitch.debounceUp, hpress.1, hcounter]
        · refine ⟨p_switch.counter, ?_⟩
          simp [AppSwitch.stamp, AppSwitch.debounceUp, hpress.1, hcounter]
    · refine Or.inr (Or.inl ⟨hdebounce, fun h => ?_, ?_⟩)
      · by_contra hopen
        exact hpress ⟨h, hopen⟩
      · have hpress' : ¬ (p_switch.debounceUp.debounce = DEBOUNCE_SWITCH ∧
            p_switch.debounceUp.status ≠ .SWITCH_CLOSED) := hpress
        dsimp only
        rw [if_neg hpress']

/-- What an open contact can do behind the first poll. -/
theorem toggleBody_open {p_switch : AppSwitch} {e : TogglePoll}
    (hcontact : e.contact = true) (hfloat : p_switch.status ≠ .SWITCH_FLOAT) :
    (p_switch.debounce = 1 ∧ toggleBody p_switch e = p_switch) ∨
    (p_switch.debounce ≠ 1 ∧
      ((p_switch.debounce + 255) % 256 = 1 → p_switch.pressed = true →
        p_switch.status = .SWITCH_OPEN) ∧
      toggleBody p_switch e = p_switch.debounceDown) ∨
    ((p_switch.debounce + 255) % 256 = 1 ∧ p_switch.pressed = true ∧
      p_switch.status ≠ .SWITCH_OPEN ∧
      toggleBody p_switch e =
        { p_switch with status := .SWITCH_OPEN, debounce := 1, released := true }) := by
  have hclosed : ¬ e.contact = false := by
    rw [hcontact]
    decide
  unfold toggleBody toggleOpen
  rw [if_neg hclosed, if_neg hfloat]
  by_cases hdebounce : p_switch.debounce = 1
  · exact Or.inl ⟨hdebounce, by simp [hdebounce]⟩
  · rw [if_pos hdebounce]
    by_cases hopen : (p_switch.debounce + 255) % 256 = 1 ∧ p_switch.pressed = true ∧
        p_switch.status ≠ .SWITCH_OPEN
    · refine Or.inr (Or.inr ⟨hopen.1, hopen.2.1, hopen.2.2, ?_⟩)
      have hopen' : p_switch.debounceDown.debounce = 1 ∧ p_switch.debounceDown.pressed = true ∧
          p_switch.debounceDown.status ≠ .SWITCH_OPEN := hopen
      dsimp only
      rw [if_pos hopen']
      split <;> simp [AppSwitch.debounceDown, hopen.1]
    · refine Or.inr (Or.inl ⟨hdebounce, fun h hpressed => ?_, ?_⟩)
      · by_contra hne
        exact hopen ⟨h, hpressed, hne⟩
      · have hopen' : ¬ (p_switch.debounceDown.debounce = 1 ∧
            p_switch.debounceDown.pressed = true ∧
            p_switch.debounceDown.status ≠ .SWITCH_OPEN) := hopen
        dsimp only
        rw [if_neg hopen']

/-- The first poll takes the contact as it is. -/
theorem toggleBody_float {p_switch : AppSwitch} (e : TogglePoll)
    (hfloat : p_switch.status = .SWITCH_FLOAT) :
    toggleBody p_switch e = { p_switch with
      status := if e.contact = false then .SWITCH_CLOSED else .SWITCH_OPEN } := by
  unfold toggleBody toggleClosed toggleOpen
  rw [if_pos hfloat, if_pos hfloat]
  split <;> rfl

/-! ## The end of a poll -/

/-- The end of a poll changes neither the contact nor its time. -/
theorem toggleEnd_frame (p_switch : AppSwitch) (poll : Poll) :
    (toggleEnd p_switch poll).1.status = p_switch.status ∧
      (toggleEnd p_switch poll).1.debounce = p_switch.debounce ∧
      (toggleEnd p_switch poll).1.pressed_time = p_switch.pressed_time := by
  unfold toggleEnd
  split <;> exact ⟨rfl, rfl, rfl⟩

theorem toggleEnd_of_not {p_switch : AppSwitch} {poll : Poll}
    (hover : p_switch.burstOver poll = false) : (toggleEnd p_switch poll).1 = p_switch := by
  simp [toggleEnd, hover]

theorem toggleEnd_of_over {p_switch : AppSwitch} {poll : Poll}
    (hover : p_switch.burstOver poll = true) :
    (toggleEnd p_switch poll).1 = p_switch.clear := by
  simp [toggleEnd, hover]

/-- A switch stays alive at the end of a poll that does not end a burst while the
contact counts as closed. -/
theorem alive_toggleEnd {p_switch : AppSwitch} {poll : Poll} (hs : Alive p_switch)
    (hnot : p_switch.status = .SWITCH_CLOSED → p_switch.burstOver poll = false) :
    Alive (toggleEnd p_switch poll).1 := by
  cases hover : p_switch.burstOver poll with
  | false =>
      rw [toggleEnd_of_not hover]
      exact hs
  | true =>
      have hopen : p_switch.status ≠ .SWITCH_CLOSED := by
        intro hclosed
        rw [hnot hclosed] at hover
        cases hover
      rw [toggleEnd_of_over hover]
      exact ⟨hs.settled, hs.lower, hs.upper, fun h => absurd h hopen, hs.closed, hs.opened,
        fun h => absurd rfl h⟩

/-! ## Polls that keep the switch alive -/

theorem Alive.not_float {p_switch : AppSwitch} (hs : Alive p_switch) :
    p_switch.status ≠ .SWITCH_FLOAT := by
  intro hfloat
  rcases hs.settled with h | h <;> rw [hfloat] at h <;> cases h

/-- A press that a switch which is alive recognises sets the flag. -/
theorem Alive.pressed_of_press {p_switch : AppSwitch} (hs : Alive p_switch) :
    (decide (p_switch.counter = 0) || p_switch.pressed) = true := by
  by_cases hcounter : p_switch.counter = 0
  · simp [hcounter]
  · simp [hs.counted hcounter]

/-- In front of its end every poll keeps the switch alive. -/
theorem alive_body {p_switch : AppSwitch} (e : TogglePoll) (hs : Alive p_switch) :
    Alive (toggleBody p_switch e) := by
  have hlower := hs.lower
  have hupper := hs.upper
  cases hcontact : e.contact with
  | false =>
      rcases toggleBody_closed hcontact hs.not_float with ⟨-, hbody⟩ | ⟨hne, hstay, hbody⟩ |
        ⟨-, -, counter, hbody⟩
      · rw [hbody]
        exact hs
      · have hmod : (p_switch.debounce + 1) % 256 = p_switch.debounce + 1 := by omega
        rw [hmod] at hstay
        have hup : p_switch.debounceUp = { p_switch with debounce := p_switch.debounce + 1 } := by
          rw [AppSwitch.debounceUp, hmod]
        rw [hbody, hup]
        exact ⟨hs.settled, by simp only; omega, by simp only; omega, hs.pressed, hstay,
          fun h => by simp only at h; omega, hs.counted⟩
      · have hpressed := hs.pressed_of_press
        rw [hbody]
        exact ⟨Or.inr rfl, (by decide : 1 ≤ 128), (by decide : 128 ≤ 128), fun _ => hpressed,
          fun _ => rfl, fun h => absurd h (by decide : ¬ 128 = 1), fun _ => hpressed⟩
  | true =>
      rcases toggleBody_open hcontact hs.not_float with ⟨-, hbody⟩ | ⟨hne, hstay, hbody⟩ |
        ⟨-, hpressed, -, hbody⟩
      · rw [hbody]
        exact hs
      · have hmod : (p_switch.debounce + 255) % 256 = p_switch.debounce - 1 := by omega
        have hdown : p_switch.debounceDown =
            { p_switch with debounce := p_switch.debounce - 1 } := by
          rw [AppSwitch.debounceDown, hmod]
        rw [hmod] at hstay
        rw [hbody, hdown]
        refine ⟨hs.settled, by simp only; omega, by simp only; omega, hs.pressed,
          fun h => by simp only at h; omega, fun h => ?_, hs.counted⟩
        rcases hs.settled with hopen | hclosed
        · exact hopen
        · exact hstay h (hs.pressed hclosed)
      · rw [hbody]
        exact ⟨Or.inl rfl, (by decide : 1 ≤ 1), (by decide : 1 ≤ 128), fun _ => hpressed,
          fun h => absurd h (by decide : ¬ 1 = 128), fun _ => rfl, fun _ => hpressed⟩

/-- A poll that ends a burst in front of a closed contact is one of those that
{lit}`EndsBurstClosed` describes. -/
theorem burstOver_closed_iff {p_switch : AppSwitch} (e : TogglePoll) (hs : Alive p_switch) :
    ((toggleBody p_switch e).status = .SWITCH_CLOSED ∧
      (toggleBody p_switch e).burstOver e.poll = true) ↔ EndsBurstClosed p_switch e := by
  have hlower := hs.lower
  have hupper := hs.upper
  have hfloat := hs.not_float
  unfold EndsBurstClosed
  cases hcontact : e.contact with
  | false =>
      rcases toggleBody_closed hcontact hfloat with ⟨hmax, hbody⟩ | ⟨hne, hstay, hbody⟩ |
        ⟨hreach, hopen, counter, hbody⟩
      · have hclosed := hs.closed hmax
        simp [hbody, AppSwitch.burstOver, hclosed]
      · rcases hs.settled with hopen | hclosed
        · have hnot : p_switch.debounce ≠ 127 := by
            intro h
            rw [h] at hstay
            rw [hstay rfl] at hopen
            cases hopen
          simp [hbody, AppSwitch.debounceUp, hopen, DEBOUNCE_SWITCH, hnot]
        · simp [hbody, AppSwitch.debounceUp, AppSwitch.burstOver, hclosed]
      · have hstatus : p_switch.status = .SWITCH_OPEN := by
          rcases hs.settled with h | h
          · exact h
          · exact absurd h hopen
        have hdebounce : p_switch.debounce = 127 := by omega
        simp [hbody, AppSwitch.burstOver, hstatus, DEBOUNCE_SWITCH, hdebounce]
  | true =>
      rcases toggleBody_open hcontact hfloat with ⟨hmin, hbody⟩ | ⟨hne, hstay, hbody⟩ |
        ⟨hreach, hpressed, hclosed, hbody⟩
      · have hopen := hs.opened hmin
        simp [hbody, hopen]
      · rcases hs.settled with hopen | hclosed
        · simp [hbody, AppSwitch.debounceDown, hopen]
        · have hpressed := hs.pressed hclosed
          have hnot : p_switch.debounce ≠ 2 := by
            intro h
            rw [h] at hstay
            rw [hstay rfl hpressed] at hclosed
            cases hclosed
          simp [hbody, AppSwitch.debounceDown, AppSwitch.burstOver, hclosed, hnot]
      · have hdebounce : p_switch.debounce = 2 := by omega
        simp [hbody, hpressed, hdebounce]

/-- A poll that keeps the switch alive does not end a burst in front of a closed
contact. -/
theorem KeepsAlive.burst_goes_on {p_switch : AppSwitch} {e : TogglePoll} (hs : Alive p_switch)
    (hkeep : KeepsAlive p_switch e) (hclosed : (toggleBody p_switch e).status = .SWITCH_CLOSED) :
    (toggleBody p_switch e).burstOver e.poll = false := by
  cases hover : (toggleBody p_switch e).burstOver e.poll with
  | false => rfl
  | true => exact absurd ((burstOver_closed_iff e hs).mp ⟨hclosed, hover⟩) hkeep.2

/-- A poll that does not end a burst in front of a closed contact keeps the
switch alive. -/
theorem alive_step {p_switch : AppSwitch} {e : TogglePoll} (hs : Alive p_switch)
    (hkeep : KeepsAlive p_switch e) : Alive (toggleStep p_switch e) := by
  rw [toggleStep_eq]
  apply alive_toggleEnd (alive_body e hs)
  intro hclosed
  exact hkeep.burst_goes_on hs hclosed

/-- A first poll with an open contact brings the switch to life. -/
theorem fresh_step {p_switch : AppSwitch} {e : TogglePoll} (hs : Fresh p_switch)
    (hkeep : KeepsAlive p_switch e) : Alive (toggleStep p_switch e) := by
  have hcontact := hkeep.1 hs.status
  have hnot : ¬ e.contact = false := by
    rw [hcontact]
    decide
  have hbody := toggleBody_float e hs.status
  rw [if_neg hnot] at hbody
  have hover : (toggleBody p_switch e).burstOver e.poll = false := by
    rw [hbody]
    exact burstOver_of_not_released e.poll hs.released
  have hdebounce := hs.debounce
  rw [toggleStep_eq, toggleEnd_of_not hover, hbody]
  exact ⟨Or.inl rfl, by simp only; omega, by simp only; omega,
    fun h => absurd h (by decide : ¬ SwitchStatus.SWITCH_OPEN = .SWITCH_CLOSED),
    fun h => by simp only at h; omega, fun _ => rfl, fun h => absurd hs.counter h⟩

/-! ## Presses of a switch that is alive -/

/-- An open switch stays open until the debounce counter is at its upper end. -/
theorem open_step {p_switch : AppSwitch} {e : TogglePoll} (hs : Alive p_switch)
    (hopen : p_switch.status = .SWITCH_OPEN) (hbelow : (toggleStep p_switch e).debounce ≠ 128) :
    (toggleStep p_switch e).status = .SWITCH_OPEN := by
  rcases toggleEnd_frame (toggleBody p_switch e) e.poll with ⟨hstatus, hdebounce, -⟩
  rw [toggleStep_eq, hdebounce] at hbelow
  rw [toggleStep_eq, hstatus]
  cases hcontact : e.contact with
  | false =>
      rcases toggleBody_closed hcontact hs.not_float with ⟨-, hbody⟩ | ⟨-, -, hbody⟩ |
        ⟨-, -, counter, hbody⟩
      · rw [hbody]
        exact hopen
      · rw [hbody]
        exact hopen
      · rw [hbody] at hbelow
        exact absurd rfl hbelow
  | true =>
      rcases toggleBody_open hcontact hs.not_float with ⟨-, hbody⟩ | ⟨-, -, hbody⟩ |
        ⟨-, -, -, hbody⟩
      · rw [hbody]
        exact hopen
      · rw [hbody]
        exact hopen
      · rw [hbody]

/-- The poll in which the debounce counter of an open switch reaches its upper
end recognises a press. -/
theorem press_step {p_switch : AppSwitch} {e : TogglePoll} (hs : Alive p_switch)
    (hopen : p_switch.status = .SWITCH_OPEN) (hkeep : KeepsAlive p_switch e)
    (hreach : (toggleStep p_switch e).debounce = 128) : RecognisesPress p_switch e := by
  have hlower := hs.lower
  have hupper := hs.upper
  have hnot : p_switch.status ≠ .SWITCH_CLOSED := by
    rw [hopen]
    decide
  have hbelow : p_switch.debounce ≠ 128 := fun h => hnot (hs.closed h)
  rcases toggleEnd_frame (toggleBody p_switch e) e.poll with ⟨-, hdebounce, -⟩
  rw [toggleStep_eq, hdebounce] at hreach
  cases hcontact : e.contact with
  | false =>
      rcases toggleBody_closed hcontact hs.not_float with ⟨hmax, -⟩ | ⟨-, hstay, hbody⟩ |
        ⟨-, -, counter, hbody⟩
      · exact absurd hmax hbelow
      · rw [hbody] at hreach
        exact absurd (hstay hreach) hnot
      · have hclosed : (toggleBody p_switch e).status = .SWITCH_CLOSED := by rw [hbody]
        have hover := hkeep.burst_goes_on hs hclosed
        refine ⟨hnot, ?_⟩
        rw [toggleStep_eq, toggleEnd_of_not hover, hbody]
        exact ⟨rfl, hs.pressed_of_press, rfl⟩
  | true =>
      rcases toggleBody_open hcontact hs.not_float with ⟨hmin, hbody⟩ | ⟨-, -, hbody⟩ |
        ⟨-, -, -, hbody⟩
      · rw [hbody] at hreach
        exact absurd hreach hbelow
      · rw [hbody] at hreach
        simp only [AppSwitch.debounceDown] at hreach
        omega
      · rw [hbody] at hreach
        exact absurd hreach (by decide : ¬ 1 = 128)

/-- An open switch stays open over polls that do not bring the debounce counter
to its upper end. -/
theorem open_run {p_switch : AppSwitch} {es : List TogglePoll} (hs : Alive p_switch)
    (hopen : p_switch.status = .SWITCH_OPEN) (hkeep : Along toggleStep KeepsAlive p_switch es)
    (hbelow : ∀ before, before <+: es → (run toggleStep p_switch before).debounce ≠ 128) :
    Alive (run toggleStep p_switch es) ∧
      (run toggleStep p_switch es).status = .SWITCH_OPEN := by
  induction es generalizing p_switch with
  | nil => exact ⟨hs, hopen⟩
  | cons e es ih =>
      have hfirst := hbelow [e] (List.cons_prefix_cons.mpr ⟨rfl, List.nil_prefix⟩)
      apply ih (alive_step hs hkeep.1) (open_step hs hopen hfirst) hkeep.2
      intro before hprefix
      exact hbelow (e :: before) (List.cons_prefix_cons.mpr ⟨rfl, hprefix⟩)

/-! ## Dead switches -/

/-- A dead switch stays dead. -/
theorem dead_step {p_switch : AppSwitch} (e : TogglePoll) (hs : Dead p_switch) :
    Dead (toggleStep p_switch e) := by
  have hlower := hs.lower
  have hupper := hs.upper
  have hfloat : p_switch.status ≠ .SWITCH_FLOAT := by
    rw [hs.status]
    decide
  have hbody : Dead (toggleBody p_switch e) := by
    cases hcontact : e.contact with
    | false =>
        rcases toggleBody_closed hcontact hfloat with ⟨-, hbody⟩ | ⟨hne, -, hbody⟩ |
          ⟨-, hopen, -⟩
        · rw [hbody]
          exact hs
        · rw [hbody]
          exact ⟨hs.status, hs.pressed, by simp only [AppSwitch.debounceUp]; omega,
            by simp only [AppSwitch.debounceUp]; omega⟩
        · exact absurd hs.status hopen
    | true =>
        rcases toggleBody_open hcontact hfloat with ⟨-, hbody⟩ | ⟨hne, -, hbody⟩ |
          ⟨-, hpressed, -⟩
        · rw [hbody]
          exact hs
        · rw [hbody]
          exact ⟨hs.status, hs.pressed, by simp only [AppSwitch.debounceDown]; omega,
            by simp only [AppSwitch.debounceDown]; omega⟩
        · rw [hs.pressed] at hpressed
          cases hpressed
  rw [toggleStep_eq]
  cases hover : (toggleBody p_switch e).burstOver e.poll with
  | false =>
      rw [toggleEnd_of_not hover]
      exact hbody
  | true =>
      rw [toggleEnd_of_over hover]
      exact ⟨hbody.status, rfl, hbody.lower, hbody.upper⟩

/-- A poll with an open contact. -/
def openPoll : TogglePoll where
  relay_settings := {}
  contact := true
  poll := ⟨true, false, 0, 0, 0, 0⟩

/-- Open contacts bring a dead switch to the lower end of the debounce counter. -/
theorem dead_reaches_one {p_switch : AppSwitch} (n : Nat) (hs : Dead p_switch)
    (hdebounce : p_switch.debounce = n + 1) :
    (run toggleStep p_switch (List.replicate n openPoll)).debounce = 1 ∧
      (run toggleStep p_switch (List.replicate n openPoll)).status = .SWITCH_CLOSED := by
  induction n generalizing p_switch with
  | zero => exact ⟨hdebounce, hs.status⟩
  | succ n ih =>
      have hupper := hs.upper
      have hfloat : p_switch.status ≠ .SWITCH_FLOAT := by
        rw [hs.status]
        decide
      have hdown : (toggleStep p_switch openPoll).debounce = n + 1 := by
        rcases toggleEnd_frame (toggleBody p_switch openPoll) openPoll.poll with
          ⟨-, hframe, -⟩
        rw [toggleStep_eq, hframe]
        rcases toggleBody_open (e := openPoll) rfl hfloat with ⟨hmin, -⟩ | ⟨-, -, hbody⟩ |
          ⟨-, hpressed, -⟩
        · omega
        · rw [hbody]
          simp only [AppSwitch.debounceDown]
          omega
        · rw [hs.pressed] at hpressed
          cases hpressed
      exact ih (dead_step openPoll hs) hdown

/-- A poll that does not keep the switch alive kills it. -/
theorem dead_of_not_keepsAlive {p_switch : AppSwitch} {e : TogglePoll}
    (hs : Fresh p_switch ∨ Alive p_switch) (hkeep : ¬ KeepsAlive p_switch e) :
    Dead (toggleStep p_switch e) := by
  rcases hs with hs | hs
  · have hcontact : e.contact = false := by
      cases hcontact : e.contact with
      | false => rfl
      | true =>
          refine absurd ⟨fun _ => hcontact, fun hends => ?_⟩ hkeep
          rw [EndsBurstClosed, hs.released] at hends
          cases hends.1
    have hbody := toggleBody_float e hs.status
    rw [if_pos hcontact] at hbody
    have hover : (toggleBody p_switch e).burstOver e.poll = false := by
      rw [hbody]
      exact burstOver_of_not_released e.poll hs.released
    have hdebounce := hs.debounce
    rw [toggleStep_eq, toggleEnd_of_not hover, hbody]
    exact ⟨rfl, hs.pressed, by simp only; omega, by simp only; omega⟩
  · have hends : EndsBurstClosed p_switch e := by
      by_contra hnot
      exact hkeep ⟨fun hfloat => absurd hfloat hs.not_float, hnot⟩
    rcases (burstOver_closed_iff e hs).mpr hends with ⟨hclosed, hover⟩
    have hbody := alive_body e hs
    rw [toggleStep_eq, toggleEnd_of_over hover]
    exact ⟨hclosed, rfl, hbody.lower, hbody.upper⟩

/-! ## Runs from the start -/

theorem fresh_initAppSwitch {relay_settings : RelaySettings} (p_switch : AppSwitch)
    (clock : UInt32)
    (htype : relay_settings.switchType = ZCL_SWITCH_TYPE_TOGGLE ∨
      relay_settings.switchType = ZCL_SWITCH_TYPE_MOMENTARY) :
    Fresh (initAppSwitch relay_settings p_switch clock) := by
  have hlt : relay_settings.switchType < ZCL_SWITCH_TYPE_MULTIFUNCTION := by
    rcases htype with htype | htype <;> rw [htype] <;> decide
  exact ⟨if_pos hlt, rfl, rfl, rfl, rfl⟩

/-- Along polls that keep it alive, the switch is fresh before the first one and
alive behind it. -/
theorem alive_run {p_switch : AppSwitch} {es : List TogglePoll} (hs : Fresh p_switch)
    (hkeep : Along toggleStep KeepsAlive p_switch es) :
    (es = [] ∧ Fresh (run toggleStep p_switch es)) ∨
      (es ≠ [] ∧ Alive (run toggleStep p_switch es)) := by
  cases es with
  | nil => exact Or.inl ⟨rfl, hs⟩
  | cons e es =>
      refine Or.inr ⟨List.cons_ne_nil e es, ?_⟩
      have halive : Alive (toggleStep p_switch e) := fresh_step hs hkeep.1
      rw [run_cons]
      exact run_invariant Alive (fun _ _ => alive_step) halive hkeep.2

/-- From {lit}`switch_init` on, over all polls that keep the switch alive: the
contact does not count as closed at the lower end of the debounce counter and
counts as closed at the upper end, and every later debounced change from open to
closed is recognised as a press.  A poll that does not keep the switch alive can
be continued to a switch that counts as closed at the lower end. -/
theorem wall_switch_alive (relay_settings : RelaySettings) (p_switch : AppSwitch)
    (clock : UInt32)
    (htype : relay_settings.switchType = ZCL_SWITCH_TYPE_TOGGLE ∨
      relay_settings.switchType = ZCL_SWITCH_TYPE_MOMENTARY)
    (es : List TogglePoll)
    (hkeep : Along toggleStep KeepsAlive (initAppSwitch relay_settings p_switch clock) es) :
    let s := run toggleStep (initAppSwitch relay_settings p_switch clock) es
    (s.debounce = 1 → s.status ≠ .SWITCH_CLOSED) ∧
    (es ≠ [] → s.debounce = DEBOUNCE_SWITCH → s.status = .SWITCH_CLOSED) ∧
    (s.debounce = 1 → ∀ es' e, Along toggleStep KeepsAlive s (es' ++ [e]) →
      (∀ before, before <+: es' → (run toggleStep s before).debounce ≠ DEBOUNCE_SWITCH) →
      (toggleStep (run toggleStep s es') e).debounce = DEBOUNCE_SWITCH →
      RecognisesPress (run toggleStep s es') e) ∧
    (∀ e, ¬ KeepsAlive s e → ∃ es',
      (run toggleStep s (e :: es')).debounce = 1 ∧
        (run toggleStep s (e :: es')).status = .SWITCH_CLOSED) := by
  intro s
  have hfresh := fresh_initAppSwitch p_switch clock htype
  have hs : (es = [] ∧ Fresh s) ∨ (es ≠ [] ∧ Alive s) := alive_run hfresh hkeep
  refine ⟨fun hone => ?_, fun hne hmax => ?_, fun hone es' e hkeep' hbelow hreach => ?_,
    fun e hnot => ?_⟩
  · rcases hs with ⟨-, hs⟩ | ⟨-, hs⟩
    · rw [hs.debounce] at hone
      cases hone
    · rw [hs.opened hone]
      decide
  · rcases hs with ⟨hnil, -⟩ | ⟨-, hs⟩
    · exact absurd hnil hne
    · exact hs.closed hmax
  · rcases hs with ⟨-, hs⟩ | ⟨-, hs⟩
    · rw [hs.debounce] at hone
      cases hone
    · rcases along_snoc hkeep' with ⟨hes', he⟩
      rcases open_run hs (hs.opened hone) hes' hbelow with ⟨hs', hopen⟩
      exact press_step hs' hopen he hreach
  · have hdead : Dead (toggleStep s e) := by
      apply dead_of_not_keepsAlive _ hnot
      rcases hs with ⟨-, hs⟩ | ⟨-, hs⟩
      · exact Or.inl hs
      · exact Or.inr hs
    have hlower := hdead.lower
    exact ⟨_, dead_reaches_one ((toggleStep s e).debounce - 1) hdead (by omega)⟩

/-- The start of a momentary switch, with one open poll. -/
theorem wall_switch_alive_open :
    (run toggleStep (initAppSwitch { switchType := ZCL_SWITCH_TYPE_MOMENTARY } {} 0)
      [openPoll]).debounce ≠ 1 ∨
    (run toggleStep (initAppSwitch { switchType := ZCL_SWITCH_TYPE_MOMENTARY } {} 0)
      [openPoll]).status ≠ .SWITCH_CLOSED := by
  have hkeep : Along toggleStep KeepsAlive
      (initAppSwitch { switchType := ZCL_SWITCH_TYPE_MOMENTARY } {} 0) [openPoll] :=
    ⟨⟨fun _ => rfl, fun h => absurd h.1 (by decide)⟩, trivial⟩
  have halive := (wall_switch_alive { switchType := ZCL_SWITCH_TYPE_MOMENTARY } {} 0 (Or.inr rfl)
    [openPoll] hkeep).1
  by_cases hone : (run toggleStep (initAppSwitch { switchType := ZCL_SWITCH_TYPE_MOMENTARY } {} 0)
      [openPoll]).debounce = 1
  · exact Or.inr (halive hone)
  · exact Or.inl hone

/-- A poll with a closed contact. -/
def closedPoll : TogglePoll where
  relay_settings := {}
  contact := false
  poll := ⟨true, false, 0, 0, 0, 0⟩

/-- A boot with the contact closed: when it is debounced open, the switch still
counts as closed. -/
theorem wall_switch_dead :
    (run toggleStep (initAppSwitch {} {} 0)
      (closedPoll :: List.replicate 63 openPoll)).debounce = 1 ∧
    (run toggleStep (initAppSwitch {} {} 0)
      (closedPoll :: List.replicate 63 openPoll)).status = .SWITCH_CLOSED := by
  have hfresh : Fresh (initAppSwitch {} {} 0) := fresh_initAppSwitch {} 0 (Or.inl rfl)
  have hnot : ¬ KeepsAlive (initAppSwitch {} {} 0) closedPoll := by
    intro hkeep
    have hcontact := hkeep.1 hfresh.status
    cases hcontact
  have hdebounce : (toggleStep (initAppSwitch {} {} 0) closedPoll).debounce = 63 + 1 := by
    rw [toggleStep_eq, (toggleEnd_frame _ _).2.1, toggleBody_float _ hfresh.status]
    exact hfresh.debounce
  rw [run_cons]
  exact dead_reaches_one 63 (dead_of_not_keepsAlive (Or.inl hfresh) hnot) hdebounce

end Firmware
