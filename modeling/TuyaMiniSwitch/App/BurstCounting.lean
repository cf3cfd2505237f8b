import TuyaMiniSwitch.App.SwitchDebounce
import Mathlib.Data.List.Basic

/-!
# Application - Bursts of presses

All three poll functions count the presses of a burst and look at the count half a second
after the latest press: ten presses ask for the factory reset, and the multifunction and
light control switches tell one to three presses by it.  The count is a byte, the
multifunction switch compares it with the number of an action, and a contact that is still
closed after the half second turns the burst into a hold.

Main results:

- Definition {lit}`IsBurst`: a burst of presses, as the samples and the clock show it.
- Theorem {lit}`held_run`, {lit}`toggle_run`: what it tells about the switch, and what the
  switch calls.
- Theorem {lit}`quickClicks_burst`: there are bursts of any length.
- Theorem {lit}`burst_counting`: when each function counts rightly.
-/

namespace Firmware

open Machine Utility OnOffLog

/-! ## Bursts -/

/-- A burst so far: its presses with the time of the latest one, whether a press has been
debounced open, whether half a second since the latest press has been seen at all, by a
closed contact while the burst was going on, and at the end of a poll. -/
structure Burst where
  contact : Contact := {}
  presses : Nat := 0
  stamp : UInt32 := 0
  released : Bool := false
  late : Bool := false
  held : Bool := false
  ended : Bool := false
  deriving Repr, DecidableEq

/-- A clock sees half a second since the latest press. -/
def Burst.sees (b : Burst) (clock : UInt32) : Bool :=
  decide (0 < b.presses) && clockTimeExceed clock b.stamp TIMEOUT_TICK_500MS

/-- The burst behind the sample of a poll. -/
def Burst.sample (b : Burst) (e : HeldPoll) : Burst where
  contact := b.contact.next e
  presses := if b.contact.Closes e then b.presses + 1 else b.presses
  stamp := if b.contact.Closes e then e.poll.stampClock else b.stamp
  released := b.released || decide (b.contact.Opens e)
  late := !decide (b.contact.Closes e) && (b.late || b.sees e.poll.holdClock)
  held := b.held || (!b.ended && e.closed && b.sees e.poll.holdClock)
  ended := b.ended

/-- The burst behind the end of a poll. -/
def Burst.finish (b : Burst) (poll : Poll) : Burst :=
  { b with
    late := b.late || b.sees poll.endClock
    ended := b.ended || (b.released && b.sees poll.endClock) }

def Burst.next (b : Burst) (e : HeldPoll) : Burst := (b.sample e).finish e.poll

/-- A press comes less than half a second after the press before it. -/
def Burst.InTime (b : Burst) (e : HeldPoll) : Prop :=
  b.contact.Closes e →
    b.late = false ∧ b.sees e.poll.holdClock = false ∧ b.sees e.poll.pressClock = false

instance (b : Burst) (e : HeldPoll) : Decidable (b.InTime e) :=
  inferInstanceAs (Decidable (_ → _))

/-- The burst that polls show from a settled open contact on. -/
def Burst.after (es : List HeldPoll) : Burst := run Burst.next {} es

/-- The polls show one burst of {lit}`n` presses, from a settled open contact on to the
silence behind it. -/
structure IsBurst (n : Nat) (es : List HeldPoll) : Prop where
  inTime : Along Burst.next Burst.InTime {} es
  presses : (Burst.after es).presses = n
  opened : (Burst.after es).contact.closed = false
  silence : (Burst.after es).ended = true

/-- Each press is debounced open before the counter arrives at its upper end again. -/
def Burst.Opened (b : Burst) (e : HeldPoll) : Prop :=
  Debounce.Arrives DEBOUNCE_SWITCH HeldPoll.closed b.contact.debounce e → b.contact.closed = false

instance (b : Burst) (e : HeldPoll) : Decidable (b.Opened e) :=
  inferInstanceAs (Decidable (_ → _))

theorem after_snoc (es : List HeldPoll) (e : HeldPoll) :
    Burst.after (es ++ [e]) = (Burst.after es).next e := by
  rw [Burst.after, run_append]
  rfl

/-- What every burst keeps. -/
structure Burst.Ordered (b : Burst) : Prop where
  fresh : b.presses = 0 → b.contact.closed = false ∧ b.released = false ∧ b.held = false ∧
    b.ended = false
  opened : 0 < b.presses → b.contact.closed = false → b.released = true
  prompt : b.late = false → b.held = false ∧ b.ended = false

section Burst

variable {b : Burst} {e : HeldPoll}

theorem Burst.Ordered.over_late (hb : b.Ordered) (hover : b.ended = true) : b.late = true := by
  by_contra hlate
  have hnot := (hb.prompt (Bool.not_eq_true _ ▸ hlate)).2
  rw [hover] at hnot
  cases hnot

/-- A burst that is over is not gone on with. -/
theorem Burst.Ordered.not_closes (hb : b.Ordered) (hin : b.InTime e) (hover : b.ended = true) :
    ¬b.contact.Closes e := by
  intro hcloses
  have hlate := (hin hcloses).1
  rw [hb.over_late hover] at hlate
  cases hlate

theorem not_opens_of_closes {c : Contact} (hcloses : c.Closes e) : ¬c.Opens e := by
  intro hopens
  have hclosed := hopens.1
  rw [hcloses.1] at hclosed
  cases hclosed

theorem ordered_sample (hb : b.Ordered) (hin : b.InTime e) : (b.sample e).Ordered := by
  by_cases hcloses : b.contact.Closes e
  · rcases hin hcloses with ⟨hlate, hhold, -⟩
    rcases hb.prompt hlate with ⟨hheld, hover⟩
    have hclosed : (b.sample e).contact.closed = true := Contact.next_of_closes hcloses
    refine ⟨fun hzero => ?_, fun _ hopen => ?_, fun _ => ?_⟩
    · simp [Burst.sample, hcloses] at hzero
    · rw [hclosed] at hopen
      cases hopen
    · simp [Burst.sample, hheld, hover, hhold]
  · have hpresses : (b.sample e).presses = b.presses := if_neg hcloses
    refine ⟨fun hzero => ?_, fun hpos hopen => ?_, fun hlate => ?_⟩
    · rw [hpresses] at hzero
      rcases hb.fresh hzero with ⟨hclosed, hreleased, hheld, hover⟩
      have hopens : ¬b.contact.Opens e := fun h => by
        have hopen := h.1
        rw [hclosed] at hopen
        cases hopen
      refine ⟨(Contact.next_of_neither hcloses hopens).trans hclosed, ?_, ?_, hover⟩
      · simp [Burst.sample, hreleased, hopens]
      · simp [Burst.sample, hheld, Burst.sees, hzero]
    · rw [hpresses] at hpos
      by_cases hopens : b.contact.Opens e
      · simp [Burst.sample, hopens]
      · have hclosed : b.contact.closed = false :=
          (Contact.next_of_neither hcloses hopens).symm.trans hopen
        simp [Burst.sample, hb.opened hpos hclosed]
    · have hboth : b.late = false ∧ b.sees e.poll.holdClock = false := by
        simpa [Burst.sample, hcloses] using hlate
      rcases hb.prompt hboth.1 with ⟨hheld, hover⟩
      simp [Burst.sample, hheld, hover, hboth.2]

theorem ordered_finish (hb : b.Ordered) (poll : Poll) : (b.finish poll).Ordered := by
  refine ⟨fun hzero => ?_, hb.opened, fun hlate => ?_⟩
  · have hpresses : b.presses = 0 := hzero
    rcases hb.fresh hpresses with ⟨hclosed, hreleased, hheld, hover⟩
    exact ⟨hclosed, hreleased, hheld, by simp [Burst.finish, hover, hreleased]⟩
  · have hboth : b.late = false ∧ b.sees poll.endClock = false := by
      simpa [Burst.finish] using hlate
    rcases hb.prompt hboth.1 with ⟨hheld, hover⟩
    exact ⟨hheld, by simp [Burst.finish, hover, hboth.2]⟩

theorem ordered_next (hb : b.Ordered) (hin : b.InTime e) : (b.next e).Ordered :=
  ordered_finish (ordered_sample hb hin) e.poll

end Burst

theorem ordered_start : Burst.Ordered {} :=
  ⟨fun _ => ⟨rfl, rfl, rfl, rfl⟩, fun h => absurd h (Nat.lt_irrefl 0), fun _ => ⟨rfl, rfl⟩⟩

/-! ## The switch in a burst -/

/-- No burst is going on. -/
structure AppSwitch.Cleared (p_switch : AppSwitch) : Prop where
  counter : p_switch.counter = 0
  pressed : p_switch.pressed = false
  released : p_switch.released = false

/-- The contact is settled open and no burst is going on. -/
structure AppSwitch.Idle (p_switch : AppSwitch) : Prop extends AppSwitch.Cleared p_switch where
  debounce : p_switch.debounce = 1
  hold : p_switch.hold = false

theorem AppSwitch.Idle.range {p_switch : AppSwitch} (hidle : p_switch.Idle) :
    p_switch.InRange := by
  refine ⟨Nat.le_of_eq hidle.debounce.symm, ?_⟩
  rw [hidle.debounce]
  decide

/-- A burst is going on. -/
structure AppSwitch.Counts (p_switch : AppSwitch) (b : Burst) : Prop where
  counter : p_switch.counter = b.presses % 256
  pressed : p_switch.pressed = true
  released : p_switch.released = b.released
  pressed_time : p_switch.pressed_time = b.stamp

/-- What a burst tells about the switch of any type. -/
structure BurstTells (p_switch : AppSwitch) (b : Burst) : Prop where
  debounce : p_switch.debounce = b.contact.debounce
  idle : b.presses = 0 ∨ b.ended = true → p_switch.Cleared
  during : 0 < b.presses → b.ended = false → p_switch.Counts b

section BurstTells

variable {p_switch : AppSwitch} {b : Burst}

/-- The poll that ends a burst. -/
theorem burstOver_of_burst (ht : BurstTells p_switch b) (hb : b.Ordered) (poll : Poll) :
    p_switch.burstOver poll = (!b.ended && (b.released && b.sees poll.endClock)) := by
  unfold AppSwitch.burstOver Burst.sees
  by_cases hidle : b.presses = 0 ∨ b.ended = true
  · rw [(ht.idle hidle).released]
    rcases hidle with hzero | hover
    · simp [(hb.fresh hzero).2.1]
    · simp [hover]
  · rw [not_or, Bool.not_eq_true] at hidle
    have hpos : 0 < b.presses := Nat.pos_of_ne_zero hidle.1
    have hcounts := ht.during hpos hidle.2
    simp [hcounts.released, hcounts.pressed_time, hidle.2, hpos]

theorem burstTells_finish (ht : BurstTells p_switch b) (hb : b.Ordered) (poll : Poll) :
    BurstTells (if p_switch.burstOver poll = true then p_switch.clear else p_switch)
      (b.finish poll) := by
  have hends := burstOver_of_burst ht hb poll
  cases hover : p_switch.burstOver poll with
  | false =>
      rw [hover] at hends
      refine ⟨ht.debounce, fun hidle => ?_, fun hpos hgoing => ?_⟩
      · rcases hidle with hzero | hdone
        · exact ht.idle (.inl hzero)
        · refine ht.idle (.inr ?_)
          have hdone' : (b.ended || (b.released && b.sees poll.endClock)) = true := hdone
          cases hold : b.ended with
          | true => rfl
          | false =>
              rw [hold] at hends hdone'
              exact absurd (hends.trans hdone') Bool.false_ne_true
      · have hcounts := ht.during hpos (Bool.or_eq_false_iff.mp hgoing).1
        exact ⟨hcounts.counter, hcounts.pressed, hcounts.released, hcounts.pressed_time⟩
  | true =>
      rw [hover] at hends
      refine ⟨ht.debounce, fun _ => ⟨rfl, rfl, rfl⟩, fun _ hgoing => ?_⟩
      have hnot : (b.released && b.sees poll.endClock) = false := (Bool.or_eq_false_iff.mp hgoing).2
      rw [hnot, Bool.and_false] at hends
      cases hends

/-- A burst was over before a poll, goes on behind it, or is over with it. -/
theorem over_cases {e : HeldPoll} (ht : BurstTells p_switch (b.sample e)) (hb : b.Ordered)
    (hin : b.InTime e) :
    (b.ended = true ∧ (b.next e).ended = true ∧ p_switch.burstOver e.poll = false ∧
      (b.next e).presses = b.presses ∧ (b.next e).held = b.held) ∨
    (b.ended = false ∧ (b.next e).ended = false ∧ p_switch.burstOver e.poll = false) ∨
    (b.ended = false ∧ (b.next e).ended = true ∧ p_switch.burstOver e.poll = true ∧
      p_switch.Counts (b.sample e)) := by
  have hends := burstOver_of_burst ht (ordered_sample hb hin) e.poll
  have hnext : (b.next e).ended =
      (b.ended || ((b.sample e).released && (b.sample e).sees e.poll.endClock)) := rfl
  cases hover : b.ended with
  | true =>
      have hover' : (b.sample e).ended = true := hover
      have hpresses : (b.next e).presses = b.presses := if_neg (hb.not_closes hin hover)
      have hheld : (b.next e).held = b.held := by
        simp [Burst.next, Burst.finish, Burst.sample, hover]
      rw [hover', Bool.not_true, Bool.false_and] at hends
      rw [hover, Bool.true_or] at hnext
      exact .inl ⟨rfl, hnext, hends, hpresses, hheld⟩
  | false =>
      have hover' : (b.sample e).ended = false := hover
      rw [hover', Bool.not_false, Bool.true_and] at hends
      rw [hover, Bool.false_or, ← hends] at hnext
      cases hdone : p_switch.burstOver e.poll with
      | false => exact .inr (.inl ⟨rfl, hnext.trans hdone, rfl⟩)
      | true =>
          have hsees := (Bool.and_eq_true_iff.mp (hends.symm.trans hdone)).2
          have hpos : 0 < (b.sample e).presses := by
            simpa using (Bool.and_eq_true_iff.mp hsees).1
          exact .inr (.inr ⟨rfl, hnext.trans hdone, rfl, ht.during hpos hover'⟩)

end BurstTells

/-! ## The multifunction and light control switches -/

/-- What a burst tells about a switch that tells presses from holds. -/
structure HeldTells (p_switch : AppSwitch) (b : Burst) : Prop extends BurstTells p_switch b where
  range : p_switch.InRange
  hold : p_switch.hold = (b.held && !b.ended)
  hold_time : 0 < b.presses → b.ended = false → p_switch.hold_time = b.stamp

section Held

variable {k : HeldSwitch} {p_switch : AppSwitch} {b : Burst} {e : HeldPoll}

theorem HeldTells.presses_iff (ht : HeldTells p_switch b) (hopened : b.Opened e) :
    p_switch.Presses e ↔ b.contact.Closes e := by
  rw [presses_iff_arrives ht.range, ht.debounce]
  exact ⟨fun harrives => ⟨hopened harrives, harrives⟩, fun hcloses => hcloses.2⟩

/-- A hold begins when the closed contact is first seen half a second since the press. -/
theorem HeldTells.hold_iff (ht : HeldTells p_switch b) (hb : b.Ordered) :
    (p_switch.hold || decide (p_switch.BeginsHold e)) =
      ((b.held || (!b.ended && e.closed && b.sees e.poll.holdClock)) && !b.ended) := by
  by_cases hidle : b.presses = 0 ∨ b.ended = true
  · have hbegins : ¬p_switch.BeginsHold e := fun h => by
      have hpressed := h.pressed
      rw [(ht.idle hidle).pressed] at hpressed
      cases hpressed
    rw [ht.hold, decide_eq_false hbegins, Bool.or_false]
    rcases hidle with hzero | hover
    · simp [(hb.fresh hzero).2.2.1, Burst.sees, hzero]
    · simp [hover]
  · rw [not_or, Bool.not_eq_true] at hidle
    have hpos : 0 < b.presses := Nat.pos_of_ne_zero hidle.1
    have hcounts := ht.during hpos hidle.2
    have hbegins : p_switch.BeginsHold e ↔
        e.closed = true ∧ b.sees e.poll.holdClock = true ∧ b.held = false := by
      have htime := ht.hold_time hpos hidle.2
      have hhold : p_switch.hold = b.held := by simp [ht.hold, hidle.2]
      rw [AppSwitch.beginsHold_iff, hcounts.pressed, htime, hhold]
      simp [HeldPoll.closed, Burst.sees, hpos]
    have hhold : p_switch.hold = b.held := by simp [ht.hold, hidle.2]
    rw [hhold, hidle.2]
    simp only [hbegins, Bool.not_false, Bool.true_and, Bool.and_true]
    cases b.held <;> cases e.closed <;> cases b.sees e.poll.holdClock <;> rfl

/-- A press that is counted. -/
theorem heldCounts_press (ht : HeldTells p_switch b) (hb : b.Ordered) (hin : b.InTime e)
    (hopened : b.Opened e) (hcloses : b.contact.Closes e) :
    (k.body p_switch e).1.Counts (b.sample e) := by
  have hbody := body_spec (k := k) p_switch e
  have hcounts := body_counts k p_switch e
  have hpress := (ht.presses_iff hopened).mpr hcloses
  have hopens := not_opens_of_closed p_switch hpress.closed
  have hopens' := not_opens_of_closes hcloses
  rcases hin hcloses with ⟨hlate, -, hquick⟩
  have hover := (hb.prompt hlate).2
  have hpresses : (b.sample e).presses = b.presses + 1 := if_pos hcloses
  have hstamp : (b.sample e).stamp = e.poll.stampClock := if_pos hcloses
  have hreleased : (b.sample e).released = b.released := by simp [Burst.sample, hopens']
  refine ⟨?_, ?_, ?_, ?_⟩
  · rw [hcounts.counter, if_pos hpress, hpresses]
    by_cases hzero : b.presses = 0
    · rw [(ht.idle (.inl hzero)).counter, hzero]
      split <;> rfl
    · have hpos : 0 < b.presses := Nat.pos_of_ne_zero hzero
      have hduring := ht.during hpos hover
      have hexceed : clockTimeExceed e.poll.pressClock p_switch.pressed_time
          TIMEOUT_TICK_500MS = false := by
        rw [hduring.pressed_time]
        simpa [Burst.sees, hpos] using hquick
      rw [hexceed, if_neg Bool.false_ne_true, hduring.counter]
      omega
  · rw [hbody.pressed, decide_eq_true hpress, Bool.or_true]
  · rw [hbody.released, decide_eq_false hopens, Bool.false_and, Bool.or_false, hreleased]
    by_cases hzero : b.presses = 0
    · rw [(ht.idle (.inl hzero)).released, (hb.fresh hzero).2.1]
    · exact (ht.during (Nat.pos_of_ne_zero hzero) hover).released
  · rw [hcounts.pressed_time, if_pos hpress, hstamp]

/-- A poll without a press leaves a switch alone that counts nothing. -/
theorem heldCleared_body (ht : HeldTells p_switch b) (hopened : b.Opened e)
    (hcloses : ¬b.contact.Closes e) (hcleared : p_switch.Cleared) :
    (k.body p_switch e).1.Cleared := by
  have hbody := body_spec (k := k) p_switch e
  have hpress : ¬p_switch.Presses e := fun h => hcloses ((ht.presses_iff hopened).mp h)
  refine ⟨?_, ?_, ?_⟩
  · rw [(body_counts k p_switch e).counter, if_neg hpress]
    exact hcleared.counter
  · rw [hbody.pressed, hcleared.pressed, decide_eq_false hpress]
    rfl
  · rw [hbody.released, hcleared.released, hcleared.pressed, Bool.and_false]
    rfl

/-- A poll without a press in a burst. -/
theorem heldCounts_body (ht : HeldTells p_switch b) (hb : b.Ordered) (hopened : b.Opened e)
    (hcloses : ¬b.contact.Closes e) (hpos : 0 < b.presses) (hcounting : p_switch.Counts b) :
    (k.body p_switch e).1.Counts (b.sample e) := by
  have hbody := body_spec (k := k) p_switch e
  have hcounts := body_counts k p_switch e
  have hpress : ¬p_switch.Presses e := fun h => hcloses ((ht.presses_iff hopened).mp h)
  have hpresses : (b.sample e).presses = b.presses := if_neg hcloses
  have hstamp : (b.sample e).stamp = b.stamp := if_neg hcloses
  refine ⟨?_, ?_, ?_, ?_⟩
  · rw [hcounts.counter, if_neg hpress, hpresses]
    exact hcounting.counter
  · rw [hbody.pressed, hcounting.pressed, Bool.true_or]
  · rw [hbody.released, hcounting.released, hcounting.pressed, Bool.and_true]
    show _ = (b.released || decide (b.contact.Opens e))
    cases hclosed : b.contact.closed with
    | false => rw [hb.opened hpos hclosed, Bool.true_or, Bool.true_or]
    | true =>
        have hopens : p_switch.Opens e ↔ b.contact.Opens e := by
          rw [opens_iff_drops ht.range, ht.debounce]
          exact ⟨fun hdrops => ⟨hclosed, hdrops⟩, fun hopens => hopens.2⟩
        simp only [hopens]
  · rw [hcounts.pressed_time, if_neg hpress, hstamp]
    exact hcounting.pressed_time

theorem heldTells_sample (ht : HeldTells p_switch b) (hb : b.Ordered) (hin : b.InTime e)
    (hopened : b.Opened e) : HeldTells (k.body p_switch e).1 (b.sample e) := by
  have hcounts := body_counts k p_switch e
  have hdebounce : (k.body p_switch e).1.debounce = (b.sample e).contact.debounce := by
    rw [hcounts.debounce ht.range, ht.debounce]
    rfl
  have hbounds := Debounce.next_bounds HeldPoll.closed e ht.range.lower ht.range.upper
  rw [← hcounts.debounce ht.range] at hbounds
  have hhold : (k.body p_switch e).1.hold = ((b.sample e).held && !(b.sample e).ended) :=
    (body_spec (k := k) p_switch e).hold.trans (ht.hold_iff hb)
  by_cases hcloses : b.contact.Closes e
  · have hpress := (ht.presses_iff hopened).mpr hcloses
    have hover := (hb.prompt (hin hcloses).1).2
    have hpresses : (b.sample e).presses = b.presses + 1 := if_pos hcloses
    have hstamp : (b.sample e).stamp = e.poll.stampClock := if_pos hcloses
    refine ⟨⟨hdebounce, fun hidle => ?_, fun _ _ => ?_⟩, ⟨hbounds.1, hbounds.2⟩, hhold,
      fun _ _ => ?_⟩
    · rcases hidle with hzero | hdone
      · rw [hpresses] at hzero
        cases hzero
      · exact absurd (hover.symm.trans hdone) Bool.false_ne_true
    · exact heldCounts_press ht hb hin hopened hcloses
    · rw [hcounts.hold_time, if_pos hpress, hstamp]
  · have hpress : ¬p_switch.Presses e := fun h => hcloses ((ht.presses_iff hopened).mp h)
    have hpresses : (b.sample e).presses = b.presses := if_neg hcloses
    have hstamp : (b.sample e).stamp = b.stamp := if_neg hcloses
    refine ⟨⟨hdebounce, fun hidle => ?_, fun hpos hgoing => ?_⟩, ⟨hbounds.1, hbounds.2⟩, hhold,
      fun hpos hgoing => ?_⟩
    · rw [hpresses] at hidle
      exact heldCleared_body ht hopened hcloses (ht.idle hidle)
    · rw [hpresses] at hpos
      exact heldCounts_body ht hb hopened hcloses hpos (ht.during hpos hgoing)
    · rw [hpresses] at hpos
      rw [hcounts.hold_time, if_neg hpress, hstamp]
      exact ht.hold_time hpos hgoing

/-- A poll keeps what the burst tells. -/
theorem heldTells_step (ht : HeldTells p_switch b) (hb : b.Ordered) (hin : b.InTime e)
    (hopened : b.Opened e) : HeldTells (k.step p_switch e) (b.next e) := by
  have hsample := heldTells_sample (k := k) ht hb hin hopened
  have htells := burstTells_finish hsample.toBurstTells (ordered_sample hb hin) e.poll
  have hends := burstOver_of_burst hsample.toBurstTells (ordered_sample hb hin) e.poll
  rw [← step_eq] at htells
  refine ⟨htells, heldStep_inRange k e ht.range, ?_, fun hpos hgoing => ?_⟩
  · show _ = ((b.sample e).held &&
      !((b.sample e).ended || ((b.sample e).released && (b.sample e).sees e.poll.endClock)))
    rw [step_eq]
    cases hover : (k.body p_switch e).1.burstOver e.poll with
    | true =>
        rw [hover] at hends
        rw [(Bool.and_eq_true_iff.mp hends.symm).2]
        simp [AppSwitch.clear]
    | false =>
        rw [hover] at hends
        rw [if_neg Bool.false_ne_true, hsample.hold]
        cases hdone : (b.sample e).ended with
        | true => rfl
        | false =>
            rw [hdone, Bool.not_false, Bool.true_and] at hends
            rw [← hends]
            rfl
  · rw [(heldStep_frame k p_switch e).2.2]
    exact hsample.hold_time hpos (Bool.or_eq_false_iff.mp hgoing).1

/-! ## What the multifunction and light control switches call -/

/-- The calls of a poll. -/
def HeldSwitch.calls (k : HeldSwitch) (p_switch : AppSwitch) (e : HeldPoll) : List SwitchCall :=
  (k.read p_switch e).2

/-- The calls that neither begin a hold nor ask to rejoin. -/
def HeldSwitch.ends (k : HeldSwitch) (calls : List SwitchCall) : List SwitchCall :=
  calls.filter fun call => !k.isHold call && decide (call ≠ .zbRejoinReq)

/-- The switch as the end of a burst finds it. -/
def Burst.lastState (b : Burst) : AppSwitch := { counter := b.presses % 256, hold := b.held }

theorem ends_body (p_switch : AppSwitch) (e : HeldPoll) : k.ends (k.body p_switch e).2 = [] := by
  have hheld : ∀ {p_switch : AppSwitch} {call : SwitchCall}, call ∈ (k.held p_switch).2 →
      k.isHold call = true := by
    intro p_switch call hcall
    rcases k.held_calls p_switch with ⟨call', hcalls, hhold, -⟩
    rw [hcalls] at hcall
    rw [List.mem_singleton.mp hcall]
    exact hhold
  refine List.filter_eq_nil_iff.mpr fun call hcall => ?_
  have hkind : call = .zbRejoinReq ∨ k.isHold call = true := by
    unfold HeldSwitch.body at hcall
    split at hcall
    · rcases mem_heldClosed hcall with hrejoin | ⟨p_switch', hmem⟩
      · exact .inl hrejoin
      · exact .inr (hheld hmem)
    · exact .inl (mem_heldOpen hcall)
  rcases hkind with rfl | hhold
  · simp
  · simp [hhold]

theorem calls_eq (p_switch : AppSwitch) (e : HeldPoll) :
    k.calls p_switch e = (k.body p_switch e).2 ++
      if (k.body p_switch e).1.burstOver e.poll = true then k.finished (k.body p_switch e).1
      else [] := by
  rw [HeldSwitch.calls, read_eq]
  split
  · rfl
  · exact (List.append_nil _).symm

/-- The end of a burst begins no hold. -/
theorem not_isHold_finished {p_switch : AppSwitch} {call : SwitchCall}
    (hcall : call ∈ k.finished p_switch) : k.isHold call = false := by
  cases hhold : p_switch.hold with
  | false => exact (k.finished_other p_switch hhold call hcall).1
  | true =>
      rcases k.finished_hold p_switch hhold with ⟨call', hcalls, hnot, -⟩
      rw [hcalls] at hcall
      rw [List.mem_singleton.mp hcall]
      exact hnot

/-- The calls of a poll that end a burst. -/
theorem ends_step (hfinished : ∀ p_switch, k.finished p_switch =
      k.finished { counter := p_switch.counter, hold := p_switch.hold })
    (ht : HeldTells p_switch b) (hb : b.Ordered) (hin : b.InTime e) (hopened : b.Opened e) :
    (if b.ended = true then k.ends (k.finished b.lastState) else []) ++
        k.ends (k.calls p_switch e) =
      if (b.next e).ended = true then k.ends (k.finished (b.next e).lastState) else [] := by
  have hsample := heldTells_sample (k := k) ht hb hin hopened
  have hcalls : k.ends (k.calls p_switch e) =
      if (k.body p_switch e).1.burstOver e.poll = true then
        k.ends (k.finished (k.body p_switch e).1) else [] := by
    rw [calls_eq, HeldSwitch.ends, List.filter_append]
    show k.ends _ ++ k.ends _ = _
    rw [ends_body, List.nil_append]
    split
    · rfl
    · rfl
  rcases over_cases hsample.toBurstTells hb hin with ⟨hover, hnext, hends, hpresses, hheld⟩ |
    ⟨hover, hnext, hends⟩ | ⟨hover, hnext, hends, hcounted⟩
  · have hlast : (b.next e).lastState = b.lastState := by
      rw [Burst.lastState, Burst.lastState, hpresses, hheld]
    rw [hcalls, hends, hover, hnext, hlast]
    simp
  · rw [hcalls, hends, hover, hnext]
    rfl
  · have hhold : (k.body p_switch e).1.hold = (b.sample e).held := by
      rw [hsample.hold, show (b.sample e).ended = false from hover]
      exact Bool.and_true _
    rw [hcalls, hends, hover, hnext, if_pos rfl, if_pos rfl, hfinished (k.body p_switch e).1,
      hcounted.counter, hhold]
    rfl

/-- The calls of a poll that begin a hold. -/
theorem holds_step (ht : HeldTells p_switch b) (hb : b.Ordered) :
    b.held.toNat + ((k.calls p_switch e).filter k.isHold).length = (b.next e).held.toNat := by
  have hbody := (body_spec (k := k) p_switch e).holds
  have hiff := ht.hold_iff (e := e) hb
  have hfinished : ∀ p_switch, (k.finished p_switch).filter k.isHold = [] := by
    intro p_switch
    refine List.filter_eq_nil_iff.mpr fun call hcall hhold => ?_
    rw [not_isHold_finished hcall] at hhold
    cases hhold
  have hlength : ((k.calls p_switch e).filter k.isHold).length =
      if p_switch.BeginsHold e then 1 else 0 := by
    rw [calls_eq, List.filter_append, apply_ite (List.filter k.isHold), hfinished, List.filter_nil,
      ite_self, List.append_nil, ← List.length_map (fun _ => Mark.hold), hbody]
    split <;> rfl
  have hnext : (b.next e).held =
      (b.held || (!b.ended && e.closed && b.sees e.poll.holdClock)) := rfl
  rw [hlength, hnext]
  cases hover : b.ended with
  | true =>
      have hbegins : ¬p_switch.BeginsHold e := by
        rw [hover, Bool.not_true, Bool.and_false] at hiff
        exact of_decide_eq_false (Bool.or_eq_false_iff.mp hiff).2
      rw [if_neg hbegins]
      simp
  | false =>
      have hhold : p_switch.hold = b.held := by simp [ht.hold, hover]
      cases hheld : b.held with
      | true =>
          have hbegins : ¬p_switch.BeginsHold e := fun h => by
            have hfree := h.hold
            rw [hhold, hheld] at hfree
            cases hfree
          rw [if_neg hbegins]
          rfl
      | false =>
          rw [hhold, hheld, hover] at hiff
          simp only [Bool.false_or, Bool.not_false, Bool.true_and, Bool.and_true] at hiff ⊢
          rw [← hiff]
          by_cases hbegins : p_switch.BeginsHold e
          · simp [hbegins]
          · simp [hbegins]

/-- What a burst so far tells about the switch and about what it has called. -/
structure HeldRun (k : HeldSwitch) (p_switch : AppSwitch) (b : Burst) (calls : List SwitchCall) :
    Prop where
  tells : HeldTells p_switch b
  ordered : b.Ordered
  ends : k.ends calls = if b.ended = true then k.ends (k.finished b.lastState) else []
  holds : (calls.filter k.isHold).length = b.held.toNat

theorem held_run (hfinished : ∀ p_switch, k.finished p_switch =
      k.finished { counter := p_switch.counter, hold := p_switch.hold })
    (hs : HeldTells p_switch {}) {es : List HeldPoll} (hin : Along Burst.next Burst.InTime {} es)
    (hopened : Along Burst.next Burst.Opened {} es) :
    HeldRun k (run k.step p_switch es) (Burst.after es) (trace k.step k.calls p_switch es) := by
  induction es using List.reverseRecOn with
  | nil => exact ⟨hs, ordered_start, rfl, rfl⟩
  | append_singleton es e ih =>
      rcases along_snoc hin with ⟨hin, hinLast⟩
      rcases along_snoc hopened with ⟨hopened, hopenedLast⟩
      have hrun := ih hin hopened
      have hends := ends_step hfinished hrun.tells hrun.ordered hinLast hopenedLast
      have hholds := holds_step (k := k) (e := e) hrun.tells hrun.ordered
      rw [after_snoc, run_append, trace_append]
      refine ⟨heldTells_step hrun.tells hrun.ordered hinLast hopenedLast,
        ordered_next hrun.ordered hinLast, ?_, ?_⟩
      · rw [← hends, ← hrun.ends]
        simp [trace, HeldSwitch.ends]
      · rw [← hholds, ← hrun.holds]
        simp [trace]

/-- What the switch shows before a burst. -/
theorem burstTells_start (hidle : p_switch.Idle) : BurstTells p_switch {} :=
  ⟨hidle.debounce, fun _ => hidle.toCleared, fun hpos => absurd hpos (Nat.lt_irrefl 0)⟩

theorem heldTells_start (hidle : p_switch.Idle) : HeldTells p_switch {} :=
  ⟨burstTells_start hidle, hidle.range, hidle.hold, fun hpos => absurd hpos (Nat.lt_irrefl 0)⟩

end Held

/-! ## What a burst comes to -/

/-- How often the factory reset is scheduled. -/
def resets (calls : List SwitchCall) : Nat := calls.count .switchFactoryResetStart

/-- The multistate values that are reported. -/
def reports (calls : List SwitchCall) : List UInt16 :=
  calls.filterMap fun
    | .msInputReport value => some value
    | _ => none

/-- The remote toggles that are sent. -/
def toggles (calls : List SwitchCall) : Nat := calls.count (.remoteCmdOnOff ZCL_CMD_ONOFF_TOGGLE)

/-- The factory reset is scheduled once behind ten presses or more. -/
def ResetRight (n : Nat) (calls : List SwitchCall) : Prop :=
  resets calls = if FR_COUNTER_MAX ≤ n then 1 else 0

/-- The multifunction switch reports one to three presses. -/
def MultifunctionRight (n : Nat) (calls : List SwitchCall) : Prop :=
  ResetRight n calls ∧ reports calls = if n ∈ [1, 2, 3] then [UInt16.ofNat n] else []

/-- The light control switch sends a toggle for one press. -/
def LightControlRight (n : Nat) (calls : List SwitchCall) : Prop :=
  ResetRight n calls ∧ toggles calls = if n = 1 then 1 else 0

theorem resets_ends {k : HeldSwitch} (hreset : k.isHold .switchFactoryResetStart = false)
    (calls : List SwitchCall) : resets (k.ends calls) = resets calls :=
  List.count_filter (by simp [hreset])

theorem toggles_ends (calls : List SwitchCall) :
    toggles (lightControlSwitch.ends calls) = toggles calls :=
  List.count_filter (by simp [lightControlSwitch])

theorem reports_ends {calls : List SwitchCall}
    (hholds : ∀ call ∈ calls, multifunctionSwitch.isHold call = false) :
    reports (multifunctionSwitch.ends calls) = reports calls := by
  unfold reports HeldSwitch.ends
  rw [List.filterMap_filter]
  refine List.filterMap_congr fun call hcall => ?_
  cases call with
  | msInputReport value => simp [hholds _ hcall]
  | _ => simp

/-- What the multifunction switch calls at the end of a burst without a hold. -/
theorem multifunction_end (c : Nat) :
    resets (multifunctionFinished { counter := c }) =
        (if FR_COUNTER_MAX ≤ c ∧ c ≠ ACTION_CLEAR then 1 else 0) ∧
      reports (multifunctionFinished { counter := c }) =
        if c ∈ [1, 2, 3] then [UInt16.ofNat c]
        else if c = ACTION_CLEAR then [ACTION_EMPTY] else [] := by
  unfold multifunctionFinished
  rw [if_neg Bool.false_ne_true]
  by_cases hsmall : c ∈ [1, 2, 3]
  · have hcount : c = ACTION_SINGLE ∨ c = ACTION_DOUBLE ∨ c = ACTION_TRIPLE := by
      simpa [ACTION_SINGLE, ACTION_DOUBLE, ACTION_TRIPLE] using hsmall
    have hfew : ¬(FR_COUNTER_MAX ≤ c ∧ c ≠ ACTION_CLEAR) := by
      simp only [List.mem_cons, List.not_mem_nil, or_false] at hsmall
      simp only [FR_COUNTER_MAX]
      omega
    rw [if_pos hcount, if_neg hfew, if_pos hsmall]
    exact ⟨rfl, rfl⟩
  · have hcount : ¬(c = ACTION_SINGLE ∨ c = ACTION_DOUBLE ∨ c = ACTION_TRIPLE) := by
      simpa [ACTION_SINGLE, ACTION_DOUBLE, ACTION_TRIPLE] using hsmall
    rw [if_neg hcount, if_neg hsmall]
    by_cases hclear : c = ACTION_CLEAR
    · rw [if_pos hclear, if_neg fun h => h.2 hclear, if_pos hclear]
      exact ⟨rfl, rfl⟩
    · rw [if_neg hclear, if_neg hclear]
      by_cases hmany : FR_COUNTER_MAX ≤ c
      · rw [if_pos hmany, if_pos ⟨hmany, hclear⟩]
        exact ⟨rfl, rfl⟩
      · rw [if_neg hmany, if_neg fun h => hmany h.1]
        exact ⟨rfl, rfl⟩

/-- What the light control switch calls at the end of a burst without a hold. -/
theorem lightControl_end (c : Nat) :
    resets (lightControlFinished { counter := c }) = (if FR_COUNTER_MAX ≤ c then 1 else 0) ∧
      toggles (lightControlFinished { counter := c }) = if c = 1 then 1 else 0 := by
  unfold lightControlFinished
  rw [if_neg Bool.false_ne_true]
  by_cases hsingle : c = ACTION_SINGLE
  · have hone : c = 1 := hsingle
    have hfew : ¬FR_COUNTER_MAX ≤ c := by
      rw [hone]
      decide
    rw [if_pos hsingle, if_pos hone, if_neg hfew]
    exact ⟨rfl, rfl⟩
  · have hone : ¬c = 1 := hsingle
    rw [if_neg hsingle, if_neg hone]
    by_cases hmany : FR_COUNTER_MAX ≤ c
    · rw [if_pos hmany, if_pos hmany]
      exact ⟨rfl, rfl⟩
    · rw [if_neg hmany, if_neg hmany]
      exact ⟨rfl, rfl⟩

/-- The byte tells whether there were ten presses. -/
theorem resetRight_iff {n : Nat} :
    ((if FR_COUNTER_MAX ≤ n % 256 then 1 else 0 : Nat) = if FR_COUNTER_MAX ≤ n then 1 else 0) ↔
      n < 256 ∨ FR_COUNTER_MAX ≤ n % 256 := by
  have hmax : FR_COUNTER_MAX = 10 := rfl
  by_cases hbyte : FR_COUNTER_MAX ≤ n % 256
  · have hmany : FR_COUNTER_MAX ≤ n := Nat.le_trans hbyte (Nat.mod_le n 256)
    simp [hbyte, hmany]
  · by_cases hmany : FR_COUNTER_MAX ≤ n
    · simp only [hbyte, hmany, if_true, if_false, or_false]
      omega
    · simp only [hbyte, hmany, if_false, or_false, true_iff]
      omega

theorem multifunctionRight_iff {n : Nat} (hn : 1 ≤ n) {calls : List SwitchCall}
    (hresets : resets calls = resets (multifunctionFinished { counter := n % 256 }))
    (hreports : reports calls = reports (multifunctionFinished { counter := n % 256 })) :
    MultifunctionRight n calls ↔
      n % 256 ≠ ACTION_CLEAR ∧ (n < 256 ∨ FR_COUNTER_MAX ≤ n % 256) := by
  rcases multifunction_end (n % 256) with ⟨hends, htold⟩
  rw [hends] at hresets
  rw [htold] at hreports
  unfold MultifunctionRight ResetRight
  rw [hresets, hreports]
  by_cases hclear : n % 256 = ACTION_CLEAR
  · refine iff_of_false (fun h => ?_) fun h => h.1 hclear
    have hreset := h.1
    simp only [ACTION_CLEAR] at hclear
    have hmany : FR_COUNTER_MAX ≤ n := by
      simp only [FR_COUNTER_MAX]
      omega
    rw [if_neg fun h => h.2 hclear, if_pos hmany] at hreset
    cases hreset
  · simp only [hclear, ne_eq, not_false_eq_true, and_true, true_and, if_false]
    rw [resetRight_iff]
    refine ⟨fun h => h.1, fun h => ⟨h, ?_⟩⟩
    have hmax : FR_COUNTER_MAX = 10 := rfl
    by_cases hsmall : n < 256
    · rw [Nat.mod_eq_of_lt hsmall]
    · have hmany : ¬n % 256 ∈ [1, 2, 3] := by
        simp only [List.mem_cons, List.not_mem_nil, or_false]
        omega
      have hmore : ¬n ∈ [1, 2, 3] := by
        simp only [List.mem_cons, List.not_mem_nil, or_false]
        omega
      rw [if_neg hmany, if_neg hmore]

theorem lightControlRight_iff {n : Nat} {calls : List SwitchCall}
    (hresets : resets calls = resets (lightControlFinished { counter := n % 256 }))
    (htoggles : toggles calls = toggles (lightControlFinished { counter := n % 256 })) :
    LightControlRight n calls ↔ n < 256 ∨ FR_COUNTER_MAX ≤ n % 256 := by
  rcases lightControl_end (n % 256) with ⟨hends, htold⟩
  have hmax : FR_COUNTER_MAX = 10 := rfl
  unfold LightControlRight ResetRight
  rw [hresets, htoggles, hends, htold, resetRight_iff]
  refine ⟨fun h => h.1, fun h => ⟨h, ?_⟩⟩
  by_cases hsmall : n < 256
  · rw [Nat.mod_eq_of_lt hsmall]
  · have hmany : ¬n % 256 = 1 := by omega
    have hmore : ¬n = 1 := by omega
    rw [if_neg hmany, if_neg hmore]

/-- What a burst that is over has called. -/
theorem held_burst {k : HeldSwitch} (hfinished : ∀ p_switch, k.finished p_switch =
      k.finished { counter := p_switch.counter, hold := p_switch.hold }) {n : Nat}
    {p_switch : AppSwitch} (hidle : p_switch.Idle) {es : List HeldPoll} (hburst : IsBurst n es)
    (hopened : Along Burst.next Burst.Opened {} es) :
    k.ends (trace k.step k.calls p_switch es) =
        k.ends (k.finished { counter := n % 256, hold := (Burst.after es).held }) ∧
      ((trace k.step k.calls p_switch es).filter k.isHold).length =
        (Burst.after es).held.toNat := by
  have hrun := held_run hfinished (heldTells_start hidle) hburst.inTime hopened
  refine ⟨?_, hrun.holds⟩
  rw [hrun.ends, hburst.silence, if_pos rfl, Burst.lastState, hburst.presses]

/-- A hold is not reported as one to three presses. -/
theorem not_multifunctionRight_of_hold {n : Nat} {calls : List SwitchCall}
    (hholds : 0 < (calls.filter multifunctionSwitch.isHold).length) :
    ¬MultifunctionRight n calls := by
  intro hright
  rcases List.exists_mem_of_length_pos hholds with ⟨call, hcall⟩
  rcases List.mem_filter.mp hcall with ⟨hmem, hhold⟩
  have haction : call = .msInputReport ACTION_HOLD := of_decide_eq_true hhold
  have hreport : ACTION_HOLD ∈ reports calls :=
    List.mem_filterMap.mpr ⟨call, hmem, by rw [haction]⟩
  rw [hright.2] at hreport
  split at hreport
  · rename_i hfew
    simp only [List.mem_cons, List.not_mem_nil, or_false] at hfew hreport
    rcases hfew with rfl | rfl | rfl <;> cases hreport
  · cases hreport

/-- A multifunction switch tells the number of presses unless it is held, or the byte is
wrong or the number of an action. -/
theorem multifunction_burst {n : Nat} (hn : 1 ≤ n) {p_switch : AppSwitch}
    (hidle : p_switch.Idle) {es : List HeldPoll}
    (hburst : IsBurst n es) (hopened : Along Burst.next Burst.Opened {} es) :
    MultifunctionRight n (trace multifunctionSwitch.step multifunctionSwitch.calls p_switch es) ↔
      (Burst.after es).held = false ∧ n % 256 ≠ ACTION_CLEAR ∧
        (n < 256 ∨ FR_COUNTER_MAX ≤ n % 256) := by
  rcases held_burst (k := multifunctionSwitch) (fun _ => rfl) hidle hburst hopened with
    ⟨hends, hholds⟩
  cases hheld : (Burst.after es).held with
  | false =>
      rw [hheld] at hends hholds
      have hnone : ∀ call ∈ trace multifunctionSwitch.step multifunctionSwitch.calls p_switch es,
          multifunctionSwitch.isHold call = false := by
        have hnil := List.filter_eq_nil_iff.mp (List.length_eq_zero_iff.mp hholds)
        exact fun call hcall => Bool.not_eq_true _ ▸ hnil call hcall
      have hresets := resets_ends (k := multifunctionSwitch) rfl
        (trace multifunctionSwitch.step multifunctionSwitch.calls p_switch es)
      have hreports := reports_ends hnone
      rw [hends, resets_ends rfl] at hresets
      rw [hends, reports_ends fun _ hcall => not_isHold_finished hcall] at hreports
      simp only [true_and]
      exact multifunctionRight_iff hn hresets.symm hreports.symm
  | true =>
      refine iff_of_false (not_multifunctionRight_of_hold ?_) fun h => Bool.noConfusion h.1
      rw [hholds, hheld]
      exact Nat.one_pos

/-- What the light control switch calls at the end of a hold neither schedules the reset nor
sends a toggle. -/
theorem lightControlRight_hold_iff {n : Nat} {calls : List SwitchCall}
    (hresets : resets calls = 0) (htoggles : toggles calls = 0) :
    LightControlRight n calls ↔ n ≠ 1 ∧ n < FR_COUNTER_MAX := by
  rw [LightControlRight, ResetRight, hresets, htoggles]
  by_cases hmany : FR_COUNTER_MAX ≤ n
  · simp [hmany]
  · by_cases hone : n = 1
    · simp [hone]
    · simp [hmany, hone, Nat.lt_of_not_le hmany]

/-- A light control switch sends its toggle rightly unless it is held or the byte is
wrong. -/
theorem lightControl_burst {n : Nat} {p_switch : AppSwitch}
    (hidle : p_switch.Idle) {es : List HeldPoll}
    (hburst : IsBurst n es) (hopened : Along Burst.next Burst.Opened {} es) :
    LightControlRight n (trace lightControlSwitch.step lightControlSwitch.calls p_switch es) ↔
      if (Burst.after es).held then n ≠ 1 ∧ n < FR_COUNTER_MAX
      else n < 256 ∨ FR_COUNTER_MAX ≤ n % 256 := by
  rcases held_burst (k := lightControlSwitch) (fun _ => rfl) hidle hburst hopened with ⟨hends, -⟩
  have hresets := resets_ends (k := lightControlSwitch) rfl
    (trace lightControlSwitch.step lightControlSwitch.calls p_switch es)
  have htoggles := toggles_ends
    (trace lightControlSwitch.step lightControlSwitch.calls p_switch es)
  rw [hends, resets_ends rfl] at hresets
  rw [hends, toggles_ends] at htoggles
  cases hheld : (Burst.after es).held with
  | false =>
      rw [hheld] at hresets htoggles
      rw [if_neg Bool.false_ne_true]
      exact lightControlRight_iff hresets.symm htoggles.symm
  | true =>
      rw [hheld] at hresets htoggles
      rw [if_pos rfl]
      exact lightControlRight_hold_iff hresets.symm htoggles.symm

/-! ## The toggle and momentary switches -/

/-- What a burst tells about a toggle or momentary switch. -/
structure ToggleTells (p_switch : AppSwitch) (b : Burst) : Prop extends BurstTells p_switch b where
  tracks : p_switch.Tracks
  closed : b.contact.closed = true → p_switch.status = .SWITCH_CLOSED
  opened : b.contact.closed = false → b.ended = false → p_switch.status = .SWITCH_OPEN

section Toggle

variable {p_switch : AppSwitch} {b : Burst} {e : TogglePoll}

/-- A press that is counted. -/
theorem toggleTells_press (ht : ToggleTells p_switch b) (hb : b.Ordered) (hin : b.InTime e.held)
    (hcloses : b.contact.Closes e.held) :
    ToggleTells (toggleBody p_switch e) (b.sample e.held) := by
  rcases hin hcloses with ⟨hlate, -, hquick⟩
  have hover := (hb.prompt hlate).2
  have hopen := ht.opened hcloses.1 hover
  have harrives : Debounce.Arrives DEBOUNCE_SWITCH TogglePoll.closed p_switch.debounce e := by
    rw [ht.debounce]
    exact hcloses.2
  have hopens' := not_opens_of_closes hcloses
  have hpresses : (b.sample e.held).presses = b.presses + 1 := if_pos hcloses
  have hstamp : (b.sample e.held).stamp = e.poll.stampClock := if_pos hcloses
  have hclosed : (b.sample e.held).contact.closed = true := Contact.next_of_closes hcloses
  have htracks := tracks_body e ht.tracks
  rw [toggleBody_press ht.tracks harrives (by rw [hopen]; decide)] at htracks ⊢
  refine ⟨⟨hcloses.2.2.symm, fun hidle => ?_, fun _ _ => ⟨?_, ?_, ?_, hstamp.symm⟩⟩, htracks,
    fun _ => rfl, fun hopen' => ?_⟩
  · rcases hidle with hzero | hdone
    · rw [hpresses] at hzero
      cases hzero
    · exact absurd (hover.symm.trans hdone) Bool.false_ne_true
  · rw [hpresses]
    show p_switch.pressCount e.poll = _
    unfold AppSwitch.pressCount
    by_cases hzero : b.presses = 0
    · rw [if_pos (ht.idle (.inl hzero)).counter, hzero]
    · have hpos : 0 < b.presses := Nat.pos_of_ne_zero hzero
      have hduring := ht.during hpos hover
      have hexceed : clockTimeExceed e.poll.pressClock p_switch.pressed_time
          TIMEOUT_TICK_500MS = false := by
        rw [hduring.pressed_time]
        simpa [Burst.sees, hpos, TogglePoll.held] using hquick
      rw [hduring.counter, hduring.pressed, hexceed]
      split
      · omega
      · simp only [Bool.false_eq_true, not_false_eq_true, and_self, if_true]
        omega
  · by_cases hzero : b.presses = 0
    · simp [(ht.idle (.inl hzero)).counter]
    · simp [(ht.during (Nat.pos_of_ne_zero hzero) hover).pressed]
  · show p_switch.released = (b.released || decide (b.contact.Opens e.held))
    rw [decide_eq_false hopens', Bool.or_false]
    by_cases hzero : b.presses = 0
    · rw [(ht.idle (.inl hzero)).released, (hb.fresh hzero).2.1]
    · exact (ht.during (Nat.pos_of_ne_zero hzero) hover).released
  · rw [hclosed] at hopen'
    cases hopen'

/-- A release that is noticed. -/
theorem toggleTells_release (ht : ToggleTells p_switch b) (hcloses : ¬b.contact.Closes e.held)
    (hdrops : Debounce.Drops DEBOUNCE_SWITCH TogglePoll.closed p_switch.debounce e)
    (hpressed : p_switch.pressed = true) (hstatus : p_switch.status ≠ .SWITCH_OPEN) :
    ToggleTells (toggleBody p_switch e) (b.sample e.held) := by
  have hgoing : ¬(b.presses = 0 ∨ b.ended = true) := fun hidle => by
    rw [(ht.idle hidle).pressed] at hpressed
    cases hpressed
  rw [not_or, Bool.not_eq_true] at hgoing
  have hduring := ht.during (Nat.pos_of_ne_zero hgoing.1) hgoing.2
  have hdrops' : Debounce.Drops DEBOUNCE_SWITCH HeldPoll.closed b.contact.debounce e.held := by
    rw [← ht.debounce]
    exact hdrops
  have hopens : b.contact.Opens e.held := by
    refine ⟨?_, hdrops'⟩
    cases hclosed : b.contact.closed with
    | true => rfl
    | false => exact absurd (ht.opened hclosed hgoing.2) hstatus
  have hpresses : (b.sample e.held).presses = b.presses := if_neg hcloses
  have hstamp : (b.sample e.held).stamp = b.stamp := if_neg hcloses
  have hopen : (b.sample e.held).contact.closed = false := Contact.next_of_opens hopens
  have htracks := tracks_body e ht.tracks
  rw [toggleBody_release ht.tracks hdrops hpressed hstatus] at htracks ⊢
  refine ⟨⟨hdrops'.2.symm, fun hidle => ?_, fun _ _ => ⟨?_, hpressed, ?_, ?_⟩⟩, htracks,
    fun hclosed => ?_, fun _ _ => rfl⟩
  · rw [hpresses] at hidle
    exact absurd hidle (by rw [not_or, Bool.not_eq_true]; exact hgoing)
  · rw [hpresses]
    exact hduring.counter
  · simp [Burst.sample, hopens]
  · rw [hstamp]
    exact hduring.pressed_time
  · rw [hopen] at hclosed
    cases hclosed

/-- A poll that does neither. -/
theorem toggleTells_move (ht : ToggleTells p_switch b) (hb : b.Ordered)
    (hcloses : ¬b.contact.Closes e.held)
    (hrelease : ¬(Debounce.Drops DEBOUNCE_SWITCH TogglePoll.closed p_switch.debounce e ∧
      p_switch.pressed = true ∧ p_switch.status ≠ .SWITCH_OPEN)) :
    ToggleTells (toggleBody p_switch e) (b.sample e.held) := by
  have hpress : ¬(Debounce.Arrives DEBOUNCE_SWITCH TogglePoll.closed p_switch.debounce e ∧
      p_switch.status ≠ .SWITCH_CLOSED) := by
    rintro ⟨harrives, hstatus⟩
    rw [ht.debounce] at harrives
    cases hclosed : b.contact.closed with
    | false => exact hcloses ⟨hclosed, harrives⟩
    | true => exact hstatus (ht.closed hclosed)
  -- a contact that is opened belongs to a burst that is over
  have hopens : b.ended = false → ¬b.contact.Opens e.held := by
    rintro hgoing ⟨hclosed, hdrops⟩
    have hpos : 0 < b.presses := by
      refine Nat.pos_of_ne_zero fun hzero => ?_
      rw [(hb.fresh hzero).1] at hclosed
      cases hclosed
    rw [← ht.debounce] at hdrops
    refine hrelease ⟨hdrops, (ht.during hpos hgoing).pressed, ?_⟩
    rw [ht.closed hclosed]
    decide
  have hpresses : (b.sample e.held).presses = b.presses := if_neg hcloses
  have hstamp : (b.sample e.held).stamp = b.stamp := if_neg hcloses
  have htracks := tracks_body e ht.tracks
  rw [toggleBody_move ht.tracks hpress hrelease] at htracks ⊢
  refine ⟨⟨?_, fun hidle => ?_, fun hpos hgoing => ?_⟩, htracks, fun hclosed => ?_,
    fun hopen hgoing => ?_⟩
  · rw [ht.debounce]
    rfl
  · rw [hpresses] at hidle
    have hcleared := ht.idle hidle
    exact ⟨hcleared.counter, hcleared.pressed, hcleared.released⟩
  · rw [hpresses] at hpos
    have hduring := ht.during hpos hgoing
    refine ⟨?_, hduring.pressed, ?_, ?_⟩
    · rw [hpresses]
      exact hduring.counter
    · show p_switch.released = (b.released || decide (b.contact.Opens e.held))
      rw [decide_eq_false (hopens hgoing), Bool.or_false]
      exact hduring.released
    · rw [hstamp]
      exact hduring.pressed_time
  · by_cases hopened : b.contact.Opens e.held
    · have hopen : (b.sample e.held).contact.closed = false := Contact.next_of_opens hopened
      rw [hopen] at hclosed
      cases hclosed
    · exact ht.closed ((Contact.next_of_neither hcloses hopened).symm.trans hclosed)
  · exact ht.opened ((Contact.next_of_neither hcloses (hopens hgoing)).symm.trans hopen) hgoing

theorem toggleTells_sample (ht : ToggleTells p_switch b) (hb : b.Ordered)
    (hin : b.InTime e.held) : ToggleTells (toggleBody p_switch e) (b.sample e.held) := by
  by_cases hcloses : b.contact.Closes e.held
  · exact toggleTells_press ht hb hin hcloses
  · by_cases hrelease : Debounce.Drops DEBOUNCE_SWITCH TogglePoll.closed p_switch.debounce e ∧
        p_switch.pressed = true ∧ p_switch.status ≠ .SWITCH_OPEN
    · exact toggleTells_release ht hcloses hrelease.1 hrelease.2.1 hrelease.2.2
    · exact toggleTells_move ht hb hcloses hrelease

theorem toggleEnd_state (p_switch : AppSwitch) (poll : Poll) :
    (toggleEnd p_switch poll).1 =
      if p_switch.burstOver poll = true then p_switch.clear else p_switch := by
  rw [toggleEnd, apply_ite Prod.fst]

/-- A poll keeps what the burst tells. -/
theorem toggleTells_step (ht : ToggleTells p_switch b) (hb : b.Ordered) (hin : b.InTime e.held) :
    ToggleTells (toggleStep p_switch e) (b.next e.held) := by
  have hsample := toggleTells_sample ht hb hin
  have htells := burstTells_finish hsample.toBurstTells (ordered_sample hb hin) e.poll
  have hstatus := (toggleEnd_frame (toggleBody p_switch e) e.poll).1
  rw [← toggleEnd_state, ← toggleStep_eq] at htells
  rw [← toggleStep_eq] at hstatus
  refine ⟨htells, tracks_step p_switch e ht.tracks, fun hclosed => ?_, fun hopen hgoing => ?_⟩
  · rw [hstatus]
    exact hsample.closed hclosed
  · rw [hstatus]
    exact hsample.opened hopen (Bool.or_eq_false_iff.mp hgoing).1

/-- The calls of a poll. -/
def toggleCalls (p_switch : AppSwitch) (e : TogglePoll) : List SwitchCall :=
  (readSwitchToggle e.relay_settings p_switch e.contact e.poll).2

theorem toggleCalls_eq (p_switch : AppSwitch) (e : TogglePoll) :
    toggleCalls p_switch e =
      (if e.contact = false then toggleClosed e.relay_settings p_switch e.poll
        else toggleOpen e.relay_settings p_switch e.poll).2 ++
      (toggleEnd (toggleBody p_switch e) e.poll).2 := by
  unfold toggleCalls toggleBody readSwitchToggle
  cases e.contact <;> rfl

/-- In front of its end a poll does not schedule the factory reset. -/
theorem reset_not_mem_closed (relay_settings : RelaySettings) (p_switch : AppSwitch)
    (poll : Poll) :
    .switchFactoryResetStart ∉ (toggleClosed relay_settings p_switch poll).2 := by
  intro hcall
  rcases mem_toggleClosed hcall with ⟨-, hstart⟩ | hrejoin | ⟨-, -, hpress⟩
  · cases hstart
  · cases hrejoin
  · have hacts := (pressCommand_kind relay_settings).acts
    rw [← hpress] at hacts
    exact hacts.elim id id

theorem reset_not_mem_open (relay_settings : RelaySettings) (p_switch : AppSwitch)
    (poll : Poll) :
    .switchFactoryResetStart ∉ (toggleOpen relay_settings p_switch poll).2 := by
  intro hcall
  rcases mem_toggleOpen hcall with ⟨-, hstart⟩ | hrejoin | ⟨-, -, hrelease⟩
  · cases hstart
  · cases hrejoin
  · exact (releaseCommands_kind hrelease).acts.elim id id

/-- Only the end of a burst schedules it. -/
theorem resets_toggleCalls (p_switch : AppSwitch) (e : TogglePoll) :
    resets (toggleCalls p_switch e) =
      if (toggleBody p_switch e).burstOver e.poll = true then
        if FR_COUNTER_MAX ≤ (toggleBody p_switch e).counter then 1 else 0
      else 0 := by
  have hbody : resets (if e.contact = false then toggleClosed e.relay_settings p_switch e.poll
      else toggleOpen e.relay_settings p_switch e.poll).2 = 0 := by
    refine List.count_eq_zero.mpr ?_
    split
    · exact reset_not_mem_closed _ _ _
    · exact reset_not_mem_open _ _ _
  have happend : ∀ calls calls', resets (calls ++ calls') = resets calls + resets calls' :=
    fun _ _ => List.count_append
  rw [toggleCalls_eq, happend, hbody, Nat.zero_add, toggleEnd]
  split
  · dsimp only
    split
    · rfl
    · rfl
  · rfl

/-- The resets of a burst so far. -/
def Burst.resets (b : Burst) : Nat :=
  if b.ended = true then if FR_COUNTER_MAX ≤ b.presses % 256 then 1 else 0 else 0

theorem resets_step (ht : ToggleTells p_switch b) (hb : b.Ordered) (hin : b.InTime e.held) :
    b.resets + resets (toggleCalls p_switch e) = (b.next e.held).resets := by
  have hsample := toggleTells_sample ht hb hin
  rw [resets_toggleCalls, Burst.resets, Burst.resets]
  rcases over_cases hsample.toBurstTells hb hin with ⟨hover, hnext, hends, hpresses, -⟩ |
    ⟨hover, hnext, hends⟩ | ⟨hover, hnext, hends, hcounted⟩
  · have hends' : (toggleBody p_switch e).burstOver e.poll = false := hends
    rw [hends', hover, hnext, hpresses]
    simp
  · have hends' : (toggleBody p_switch e).burstOver e.poll = false := hends
    rw [hends', hover, hnext]
    rfl
  · have hends' : (toggleBody p_switch e).burstOver e.poll = true := hends
    rw [hends', hover, hnext, hcounted.counter, if_pos rfl, if_neg Bool.false_ne_true,
      Nat.zero_add]
    rfl

/-- What a burst so far tells about the switch and about what it has called. -/
structure ToggleRun (p_switch : AppSwitch) (b : Burst) (calls : List SwitchCall) : Prop where
  tells : ToggleTells p_switch b
  ordered : b.Ordered
  resets : resets calls = b.resets

theorem toggle_run (hs : ToggleTells p_switch {}) {es : List TogglePoll}
    (hin : Along Burst.next Burst.InTime {} (es.map TogglePoll.held)) :
    ToggleRun (run toggleStep p_switch es) (Burst.after (es.map TogglePoll.held))
      (trace toggleStep toggleCalls p_switch es) := by
  induction es using List.reverseRecOn with
  | nil => exact ⟨hs, ordered_start, rfl⟩
  | append_singleton es e ih =>
      rw [List.map_append, List.map_singleton] at hin ⊢
      rcases along_snoc hin with ⟨hin, hlast⟩
      have hrun := ih hin
      have hresets := resets_step hrun.tells hrun.ordered hlast
      rw [after_snoc, run_append, trace_append]
      refine ⟨toggleTells_step hrun.tells hrun.ordered hlast, ordered_next hrun.ordered hlast, ?_⟩
      rw [← hresets, ← hrun.resets]
      simp [trace, Firmware.resets]

theorem toggleTells_start (hidle : p_switch.Idle) (hopen : p_switch.status = .SWITCH_OPEN) :
    ToggleTells p_switch {} := by
  refine ⟨burstTells_start hidle, ⟨hidle.range, ?_⟩, fun hclosed => ?_, fun _ _ => hopen⟩
  · rw [hopen]
    decide
  · cases hclosed

end Toggle

/-- A toggle or momentary switch schedules the factory reset rightly unless the byte is
wrong. -/
theorem toggle_burst {n : Nat} {p_switch : AppSwitch} (hidle : p_switch.Idle)
    (hopen : p_switch.status = .SWITCH_OPEN) {es : List TogglePoll}
    (hburst : IsBurst n (es.map TogglePoll.held)) :
    ResetRight n (trace toggleStep toggleCalls p_switch es) ↔
      n < 256 ∨ FR_COUNTER_MAX ≤ n % 256 := by
  have hrun := toggle_run (toggleTells_start hidle hopen) hburst.inTime
  rw [ResetRight, hrun.resets, Burst.resets, hburst.silence, hburst.presses, if_pos rfl]
  exact resetRight_iff

/-! ## Quick clicks -/

/-- The clock at a millisecond. -/
def tick (ms : Nat) : UInt32 := UInt32.ofNat (16000 * ms)

/-- Polls that see the same contact, one in each millisecond. -/
def samples (contact : Bool) (ms k : Nat) : List HeldPoll :=
  (List.range k).map fun j => pollAt contact (tick (ms + j))

/-- The contact is closed and then open for as long as the debounce counter needs. -/
def click (ms : Nat) : List HeldPoll := samples false ms 127 ++ samples true (ms + 127) 127

def clicks (n : Nat) : List HeldPoll := (List.range n).flatMap fun i => click (254 * i)

/-- Clicks without a break, and the silence behind them. -/
def quickClicks (n : Nat) : List HeldPoll := clicks n ++ [pollAt true (tick (254 * n + 500))]

theorem exceed_tick {ms ms' : Nat} (hle : ms' ≤ ms) (hnear : ms ≤ ms' + 1000) :
    clockTimeExceed (tick ms) (tick ms') TIMEOUT_TICK_500MS = decide (500 < ms - ms') := by
  have hlimit : (TIMEOUT_TICK_500MS * 16).toNat = 8000000 := by decide
  have hdiff : (tick ms - tick ms').toNat = 16000 * (ms - ms') := by
    rw [tick, tick, ← UInt32.ofNat_sub (by omega), ← Nat.mul_sub]
    exact Nat.mod_eq_of_lt (by omega)
  unfold clockTimeExceed
  rw [decide_eq_decide, gt_iff_lt, UInt32.lt_iff_toNat_lt, hlimit, hdiff]
  omega

/-- Polls take a burst to a burst, in time and with each press debounced open. -/
structure Burst.Leads (b : Burst) (es : List HeldPoll) (b' : Burst) : Prop where
  run : run Burst.next b es = b'
  inTime : Along Burst.next Burst.InTime b es
  opened : Along Burst.next Burst.Opened b es

theorem Burst.Leads.append {b b' b'' : Burst} {es es' : List HeldPoll} (hfirst : b.Leads es b')
    (hsecond : b'.Leads es' b'') : b.Leads (es ++ es') b'' := by
  refine ⟨?_, along_append.mpr ⟨hfirst.inTime, ?_⟩, along_append.mpr ⟨hfirst.opened, ?_⟩⟩
  · rw [run_append, hfirst.run]
    exact hsecond.run
  · rw [hfirst.run]
    exact hsecond.inTime
  · rw [hfirst.run]
    exact hsecond.opened

theorem samples_succ (contact : Bool) (ms k : Nat) :
    samples contact ms (k + 1) = samples contact ms k ++ [pollAt contact (tick (ms + k))] := by
  simp [samples, List.range_succ]

theorem clicks_succ (n : Nat) : clicks (n + 1) = clicks n ++ click (254 * n) := by
  simp [clicks, List.range_succ]

@[simp] theorem next_closed (N d : Nat) (clock : UInt32) :
    Debounce.next N HeldPoll.closed d (pollAt false clock) = if d = N then N else d + 1 := rfl

@[simp] theorem next_opened (N d : Nat) (clock : UInt32) :
    Debounce.next N HeldPoll.closed d (pollAt true clock) = if d = 1 then 1 else d - 1 := rfl

section Quick

variable {b : Burst}

/-- A burst that goes on. -/
structure Burst.Going (b : Burst) : Prop where
  late : b.late = false
  ended : b.ended = false

/-- A sample that takes the counter to neither end. -/
theorem leads_move (hb : b.Going) (contact : Bool) {clock : UInt32}
    (hquiet : b.sees clock = false)
    (harrives : ¬Debounce.Arrives DEBOUNCE_SWITCH HeldPoll.closed b.contact.debounce
      (pollAt contact clock))
    (hdrops : ¬Debounce.Drops DEBOUNCE_SWITCH HeldPoll.closed b.contact.debounce
      (pollAt contact clock)) :
    b.Leads [pollAt contact clock] { b with
      contact := b.contact.next (pollAt contact clock) } := by
  have hcloses : ¬b.contact.Closes (pollAt contact clock) := fun h => harrives h.2
  have hopens : ¬b.contact.Opens (pollAt contact clock) := fun h => hdrops h.2
  have hquiet' : b.sees (pollAt contact clock).poll.holdClock = false := hquiet
  refine ⟨?_, ⟨fun h => absurd h hcloses, trivial⟩, ⟨fun h => absurd h harrives, trivial⟩⟩
  have hsample : b.sample (pollAt contact clock) =
      { b with contact := b.contact.next (pollAt contact clock) } := by
    simp [Burst.sample, hcloses, hopens, hquiet', hb.late]
  have hend : ({ b with contact := b.contact.next (pollAt contact clock) } : Burst).sees
      (pollAt contact clock).poll.endClock = false := hquiet
  rw [run_cons, run_nil, Burst.next, hsample]
  simp [Burst.finish, hend]

/-- A sample that takes the counter to the upper end. -/
theorem leads_close (hb : b.Going) {clock : UInt32} (hquiet : b.sees clock = false)
    (hcontact : b.contact = ⟨DEBOUNCE_SWITCH - 1, false⟩) :
    b.Leads [pollAt false clock] { b with
      contact := ⟨DEBOUNCE_SWITCH, true⟩
      presses := b.presses + 1
      stamp := clock } := by
  have hcloses : b.contact.Closes (pollAt false clock) := by
    rw [hcontact]
    simp [Contact.Closes, Debounce.Arrives, DEBOUNCE_SWITCH]
  have hopens := not_opens_of_closes hcloses
  have hnext : b.contact.next (pollAt false clock) = ⟨DEBOUNCE_SWITCH, true⟩ := by
    rw [hcontact]
    simp [Contact.next, Contact.Closes, Debounce.Arrives, DEBOUNCE_SWITCH]
  have hquiet' : b.sees (pollAt false clock).poll.holdClock = false := hquiet
  have hfresh : clockTimeExceed clock clock TIMEOUT_TICK_500MS = false := by
    simp [clockTimeExceed, TIMEOUT_TICK_500MS]
  refine ⟨?_, ⟨fun _ => ⟨hb.late, hquiet, hquiet⟩, trivial⟩, ⟨fun _ => ?_, trivial⟩⟩
  · rw [run_cons, run_nil, Burst.next]
    simp only [Burst.sample, Burst.finish, hcloses, hopens, hnext, hquiet', hb.late]
    simp [Burst.sees, pollAt, hfresh]
  · rw [hcontact]

/-- A sample that takes the counter of a closed contact to one. -/
theorem leads_open (hb : b.Going) (clock : UInt32) (hquiet : b.sees clock = false)
    (hcontact : b.contact = ⟨2, true⟩) :
    b.Leads [pollAt true clock] { b with contact := ⟨1, false⟩, released := true } := by
  have hcloses : ¬b.contact.Closes (pollAt true clock) := by
    rw [hcontact]
    simp [Contact.Closes, DEBOUNCE_SWITCH]
  have harrives : ¬Debounce.Arrives DEBOUNCE_SWITCH HeldPoll.closed b.contact.debounce
      (pollAt true clock) := by
    rw [hcontact]
    simp [Debounce.Arrives, DEBOUNCE_SWITCH]
  have hopens : b.contact.Opens (pollAt true clock) := by
    rw [hcontact]
    simp [Contact.Opens, Debounce.Drops, DEBOUNCE_SWITCH]
  have hnext : b.contact.next (pollAt true clock) = ⟨1, false⟩ := by
    rw [hcontact]
    simp [Contact.next, Contact.Closes, Contact.Opens, Debounce.Drops, DEBOUNCE_SWITCH]
  have hquiet' : b.sees (pollAt true clock).poll.holdClock = false := hquiet
  have hend : ({ b with contact := ⟨1, false⟩, released := true } : Burst).sees
      (pollAt true clock).poll.endClock = false := hquiet
  refine ⟨?_, ⟨fun h => absurd h hcloses, trivial⟩, ⟨fun h => absurd h harrives, trivial⟩⟩
  have hsample : b.sample (pollAt true clock) =
      { b with contact := ⟨1, false⟩, released := true } := by
    simp [Burst.sample, hcloses, hopens, hnext, hquiet', hb.late]
  rw [run_cons, run_nil, Burst.next, hsample]
  simp [Burst.finish, hend]

/-- Samples that take the counter up towards the upper end. -/
theorem leads_climb (hb : b.Going) (hcontact : b.contact = ⟨1, false⟩) (ms : Nat) {k : Nat}
    (hk : k < DEBOUNCE_SWITCH - 1) (hquiet : ∀ j < k, b.sees (tick (ms + j)) = false) :
    b.Leads (samples false ms k) { b with contact := ⟨k + 1, false⟩ } := by
  induction k with
  | zero => exact ⟨by rw [← hcontact]; rfl, trivial, trivial⟩
  | succ k ih =>
      have hbefore := ih (Nat.lt_of_succ_lt hk) fun j hj => hquiet j (Nat.lt_succ_of_lt hj)
      have hhere : k + 1 ≠ DEBOUNCE_SWITCH := by omega
      have hnext : k + 1 + 1 ≠ DEBOUNCE_SWITCH := by omega
      have hlast := leads_move (b := { b with contact := ⟨k + 1, false⟩ }) ⟨hb.late, hb.ended⟩
        false (hquiet k (Nat.lt_succ_self k))
        (by simp [Debounce.Arrives, hhere, hnext]) (by simp [Debounce.Drops, hhere])
      have hcontact' : (⟨k + 1, false⟩ : Contact).next (pollAt false (tick (ms + k))) =
          ⟨k + 1 + 1, false⟩ := by
        simp [Contact.next, Contact.Closes, Contact.Opens, Debounce.Arrives, hhere, hnext]
      rw [samples_succ]
      rw [hcontact'] at hlast
      exact hbefore.append hlast

/-- Samples that take the counter down towards one. -/
theorem leads_fall (hb : b.Going) (hcontact : b.contact = ⟨DEBOUNCE_SWITCH, true⟩) (ms : Nat)
    {k : Nat} (hk : k < DEBOUNCE_SWITCH - 1) (hquiet : ∀ j < k, b.sees (tick (ms + j)) = false) :
    b.Leads (samples true ms k) { b with contact := ⟨DEBOUNCE_SWITCH - k, true⟩ } := by
  induction k with
  | zero => exact ⟨by rw [Nat.sub_zero, ← hcontact]; rfl, trivial, trivial⟩
  | succ k ih =>
      have hbefore := ih (Nat.lt_of_succ_lt hk) fun j hj => hquiet j (Nat.lt_succ_of_lt hj)
      have hhere : DEBOUNCE_SWITCH - k ≠ 1 := by omega
      have hnext : DEBOUNCE_SWITCH - k - 1 ≠ 1 := by omega
      have hbelow : DEBOUNCE_SWITCH - k - 1 ≠ DEBOUNCE_SWITCH := by omega
      have hlast := leads_move (b := { b with contact := ⟨DEBOUNCE_SWITCH - k, true⟩ })
        ⟨hb.late, hb.ended⟩ true (hquiet k (Nat.lt_succ_self k))
        (by simp [Debounce.Arrives, hhere, hbelow]) (by simp [Debounce.Drops, hhere, hnext])
      have hcontact' : (⟨DEBOUNCE_SWITCH - k, true⟩ : Contact).next (pollAt true (tick (ms + k))) =
          ⟨DEBOUNCE_SWITCH - (k + 1), true⟩ := by
        rw [← Nat.sub_sub]
        simp [Contact.next, Contact.Closes, Contact.Opens, Debounce.Drops, hhere, hnext]
      rw [samples_succ]
      rw [hcontact'] at hlast
      exact hbefore.append hlast

/-- A click in time is one more press. -/
theorem leads_click (hb : b.Going) (hcontact : b.contact = ⟨1, false⟩) {ms : Nat}
    (hquiet : ∀ j ≤ 126, b.sees (tick (ms + j)) = false) :
    b.Leads (click ms) { b with
      presses := b.presses + 1
      stamp := tick (ms + 126)
      released := true } := by
  have hstill : ∀ j ≤ 126, clockTimeExceed (tick (ms + 127 + j)) (tick (ms + 126))
      TIMEOUT_TICK_500MS = false := fun j hj =>
    (exceed_tick (by omega) (by omega)).trans (decide_eq_false (by omega))
  have hclimb := leads_climb hb hcontact ms (k := 126) (by decide) fun j hj =>
    hquiet j (Nat.le_of_lt hj)
  have hclose := leads_close (b := { b with contact := ⟨127, false⟩ }) ⟨hb.late, hb.ended⟩
    (hquiet 126 (Nat.le_refl 126)) rfl
  have hfall := leads_fall (b := { b with
      contact := ⟨DEBOUNCE_SWITCH, true⟩
      presses := b.presses + 1
      stamp := tick (ms + 126) }) ⟨hb.late, hb.ended⟩ rfl (ms + 127) (k := 126) (by decide)
    fun j hj => by simp [Burst.sees, hstill j (Nat.le_of_lt hj)]
  have hopen := leads_open (b := { b with
      contact := ⟨2, true⟩
      presses := b.presses + 1
      stamp := tick (ms + 126) }) ⟨hb.late, hb.ended⟩ (tick (ms + 127 + 126))
    (by simp [Burst.sees, hstill 126 (Nat.le_refl 126)]) rfl
  have hclick := (hclimb.append hclose).append (hfall.append hopen)
  rw [click, samples_succ, samples_succ]
  rw [← hcontact] at hclick
  exact hclick

/-- A late sample of the open contact ends the burst. -/
theorem leads_silence (hcontact : b.contact = ⟨1, false⟩) (hreleased : b.released = true)
    {clock : UInt32} (hsees : b.sees clock = true) :
    b.Leads [pollAt true clock] { b with late := true, ended := true } := by
  have hcloses : ¬b.contact.Closes (pollAt true clock) := by
    rw [hcontact]
    simp [Contact.Closes, Debounce.Arrives, DEBOUNCE_SWITCH]
  have harrives : ¬Debounce.Arrives DEBOUNCE_SWITCH HeldPoll.closed b.contact.debounce
      (pollAt true clock) := by
    rw [hcontact]
    simp [Debounce.Arrives, DEBOUNCE_SWITCH]
  have hopens : ¬b.contact.Opens (pollAt true clock) := by
    rw [hcontact]
    simp [Contact.Opens]
  have hnext : b.contact.next (pollAt true clock) = b.contact := by
    rw [hcontact]
    simp [Contact.next, Contact.Closes, Contact.Opens, Debounce.Arrives, DEBOUNCE_SWITCH]
  have hclosed : (pollAt true clock).closed = false := rfl
  have hsees' : b.sees (pollAt true clock).poll.holdClock = true := hsees
  refine ⟨?_, ⟨fun h => absurd h hcloses, trivial⟩, ⟨fun h => absurd h harrives, trivial⟩⟩
  have hsample : b.sample (pollAt true clock) = { b with late := true } := by
    simp [Burst.sample, hcloses, hopens, hnext, hclosed, hsees']
  have hend : ({ b with late := true } : Burst).sees (pollAt true clock).poll.endClock = true :=
    hsees
  rw [run_cons, run_nil, Burst.next, hsample, Burst.finish, hend]
  simp [hreleased]

end Quick

/-- The burst that clicks show. -/
def clicksBurst : Nat → Burst
  | 0 => {}
  | n + 1 => { presses := n + 1, stamp := tick (254 * n + 126), released := true }

theorem leads_clicks (n : Nat) : Burst.Leads {} (clicks n) (clicksBurst n) := by
  induction n with
  | zero => exact ⟨rfl, trivial, trivial⟩
  | succ n ih =>
      rw [clicks_succ]
      cases n with
      | zero =>
          exact ih.append (leads_click ⟨rfl, rfl⟩ rfl fun j _ => by simp [clicksBurst, Burst.sees])
      | succ n =>
          refine ih.append (leads_click ⟨rfl, rfl⟩ rfl fun j hj => ?_)
          have htime : clockTimeExceed (tick (254 * (n + 1) + j)) (tick (254 * n + 126))
              TIMEOUT_TICK_500MS = false :=
            (exceed_tick (by omega) (by omega)).trans (decide_eq_false (by omega))
          simp [clicksBurst, Burst.sees, htime]

/-- Quick clicks are a burst of presses that are debounced open, and not held. -/
theorem quickClicks_burst (n : Nat) :
    IsBurst (n + 1) (quickClicks (n + 1)) ∧
      Along Burst.next Burst.Opened {} (quickClicks (n + 1)) ∧
      (Burst.after (quickClicks (n + 1))).held = false := by
  have hlate : clockTimeExceed (tick (254 * (n + 1) + 500)) (tick (254 * n + 126))
      TIMEOUT_TICK_500MS = true :=
    (exceed_tick (by omega) (by omega)).trans (decide_eq_true (by omega))
  have hsees : (clicksBurst (n + 1)).sees (tick (254 * (n + 1) + 500)) = true := by
    simp [clicksBurst, Burst.sees, hlate]
  have hquick := (leads_clicks (n + 1)).append (leads_silence rfl rfl hsees)
  have hafter : Burst.after (quickClicks (n + 1)) = _ := hquick.run
  refine ⟨⟨hquick.inTime, ?_, ?_, ?_⟩, hquick.opened, ?_⟩
  · rw [hafter]
    rfl
  · rw [hafter]
    rfl
  · rw [hafter]
  · rw [hafter]
    rfl

/-! ## When each function counts rightly -/

/-- Behind a burst of {lit}`n` presses a toggle or momentary switch schedules the factory
reset exactly when it should as long as the byte tells whether there were ten presses.  If
each press is debounced open, the multifunction switch reports the presses and schedules
the reset under the same condition, unless the byte is the number of {lit}`ACTION_CLEAR` or
the contact is held, and the light control switch sends its toggle and schedules the reset
under that condition as well, or, in a hold, if neither is due. -/
theorem burst_counting {n : Nat} (hn : 1 ≤ n) {p_switch : AppSwitch} (hidle : p_switch.Idle) :
    (p_switch.status = .SWITCH_OPEN → ∀ es, IsBurst n (es.map TogglePoll.held) →
      (ResetRight n (trace toggleStep toggleCalls p_switch es) ↔
        n < 256 ∨ FR_COUNTER_MAX ≤ n % 256)) ∧
    ∀ es, IsBurst n es → Along Burst.next Burst.Opened {} es →
      (MultifunctionRight n
          (trace multifunctionSwitch.step multifunctionSwitch.calls p_switch es) ↔
        (Burst.after es).held = false ∧ n % 256 ≠ ACTION_CLEAR ∧
          (n < 256 ∨ FR_COUNTER_MAX ≤ n % 256)) ∧
      (LightControlRight n
          (trace lightControlSwitch.step lightControlSwitch.calls p_switch es) ↔
        if (Burst.after es).held then n ≠ 1 ∧ n < FR_COUNTER_MAX
        else n < 256 ∨ FR_COUNTER_MAX ≤ n % 256) := by
  refine ⟨fun hopen es hburst => toggle_burst hidle hopen hburst, fun es hburst hopened => ?_⟩
  exact ⟨multifunction_burst hn hidle hburst hopened, lightControl_burst hidle hburst hopened⟩

theorem idle_settled : AppSwitch.Idle { debounce := 1 } := ⟨⟨rfl, rfl, rfl⟩, rfl, rfl⟩

/-- The polls of a toggle switch with the default settings. -/
def toggleClicks (n : Nat) : List TogglePoll :=
  (quickClicks n).map fun e => ⟨{}, e.contact, e.poll⟩

theorem held_toggleClicks (n : Nat) : (toggleClicks n).map TogglePoll.held = quickClicks n := by
  rw [toggleClicks, List.map_map]
  exact List.map_id _

/-- Ten clicks schedule the factory reset, whatever the function. -/
theorem burst_counting_ten :
    ResetRight 10 (trace toggleStep toggleCalls { debounce := 1 } (toggleClicks 10)) ∧
      MultifunctionRight 10
        (trace multifunctionSwitch.step multifunctionSwitch.calls { debounce := 1 }
          (quickClicks 10)) ∧
      LightControlRight 10
        (trace lightControlSwitch.step lightControlSwitch.calls { debounce := 1 }
          (quickClicks 10)) := by
  rcases quickClicks_burst 9 with ⟨hburst, hopened, hheld⟩
  rcases burst_counting (n := 10) (by decide) idle_settled with ⟨htoggle, hothers⟩
  rcases hothers _ hburst hopened with ⟨hmultifunction, hlight⟩
  rw [hheld] at hmultifunction hlight
  refine ⟨?_, hmultifunction.mpr ⟨rfl, by decide, .inl (by decide)⟩, hlight.mpr (.inl (by decide))⟩
  refine (htoggle rfl _ ?_).mpr (.inl (by decide))
  rw [held_toggleClicks]
  exact hburst

/-- The multifunction switch does not schedule it behind 250 clicks, and the others do not
behind 256. -/
theorem clicks_miscounted :
    AppSwitch.Idle { debounce := 1 } ∧
      (IsBurst 250 (quickClicks 250) ∧ Along Burst.next Burst.Opened {} (quickClicks 250) ∧
        ¬MultifunctionRight 250
          (trace multifunctionSwitch.step multifunctionSwitch.calls { debounce := 1 }
            (quickClicks 250))) ∧
      (IsBurst 256 (quickClicks 256) ∧ Along Burst.next Burst.Opened {} (quickClicks 256) ∧
        ¬LightControlRight 256
          (trace lightControlSwitch.step lightControlSwitch.calls { debounce := 1 }
            (quickClicks 256))) ∧
      IsBurst 256 ((toggleClicks 256).map TogglePoll.held) ∧
        ¬ResetRight 256
          (trace toggleStep toggleCalls { debounce := 1 } (toggleClicks 256)) := by
  rcases quickClicks_burst 249 with ⟨hclear, hclearOpened, hclearHeld⟩
  rcases quickClicks_burst 255 with ⟨hwrap, hwrapOpened, hwrapHeld⟩
  have htoggle : IsBurst 256 ((toggleClicks 256).map TogglePoll.held) := by
    rw [held_toggleClicks]
    exact hwrap
  refine ⟨idle_settled, ⟨hclear, hclearOpened, ?_⟩, ⟨hwrap, hwrapOpened, ?_⟩, htoggle, ?_⟩
  · rw [multifunction_burst (by decide) idle_settled hclear hclearOpened]
    exact fun h => h.2.1 rfl
  · rw [lightControl_burst idle_settled hwrap hwrapOpened, hwrapHeld]
    decide
  · rw [toggle_burst idle_settled rfl htoggle]
    decide

end Firmware
