import TuyaMiniSwitch.App.Led
import TuyaMiniSwitch.Library.Machine

/-!
# Application - The Identify command

The Identify command of {lit}`zcl_appCb.c` starts two timers.  One counts the attribute
{lit}`identifyTime` down, a second at a time; the other blinks the LED, one pulse for
each second that the command asked for, on a counter of eight bits.

Main results:

- Theorem {lit}`step_tidy`: the two timers begin together, and the LED follows its state.
- Theorem {lit}`step_covered`: a step within the blink keeps the countdown inside the blink.
- Theorem {lit}`Outlasted.dark`: a countdown that is longer than its blink goes on in the dark.
- Theorem {lit}`identify_visible_when`: when the LED blinks for the whole countdown.
-/

namespace Identify

open Led Machine

/-! ## The code -/

/-- The LED, the attribute {lit}`identifyTime`, its timer, and the moment of the last
event. -/
structure State where
  g_appCtx : AppCtx := {}
  identifyTime : UInt16 := 0
  identifyTimerEvt : Option Timer := none
  now : Nat := 0
  deriving Repr, DecidableEq

/-- {lit}`app_zclIdentifyTimerCb`, and what it returns. -/
def appZclIdentifyTimerCb (s : State) : State × Int :=
  if s.identifyTime ≤ 0 then
    ({ s with g_appCtx := lightBlinkStop s.g_appCtx, identifyTimerEvt := none }, -1)
  else
    ({ s with identifyTime := s.identifyTime - 1 }, 0)

/-- {lit}`app_zclIdentifyTimerStop`. -/
def appZclIdentifyTimerStop (s : State) : State :=
  if s.identifyTimerEvt ≠ none then { s with identifyTimerEvt := none } else s

/-- {lit}`app_zclIdentifyCmdHandler`. -/
def appZclIdentifyCmdHandler (s : State) (identifyTime : UInt16) : State :=
  let s := { s with identifyTime := identifyTime }
  if identifyTime = 0 then
    let s := appZclIdentifyTimerStop s
    { s with g_appCtx := lightBlinkStop s.g_appCtx }
  else if s.identifyTimerEvt = none then
    { s with
      -- the count of the blink is a uint8_t
      g_appCtx := lightBlinkStart s.g_appCtx s.now identifyTime.toUInt8 500 500
      identifyTimerEvt := some (Timer.schedule s.now 1000) }
  else
    s

/-- The timer of the countdown is due and {lit}`ev_timer.c` runs the callback. -/
def fireIdentify (s : State) : State :=
  match s.identifyTimerEvt with
  | none => s
  | some timer =>
      let (s, t) := appZclIdentifyTimerCb { s with now := timer.due }
      match timer.again timer.due t with
      | none => s
      | some timer => { s with identifyTimerEvt := some timer }

/-! ## Runs in time order -/

/-- A command comes in at a moment, or one of the two timers is due. -/
inductive Event where
  | command (now : Nat) (identifyTime : UInt16)
  | led
  | identify
  deriving Repr, DecidableEq

def step (s : State) : Event → State
  | .command now identifyTime => appZclIdentifyCmdHandler { s with now := now } identifyTime
  | .led =>
      match s.g_appCtx.timerLedEvt with
      | none => s
      | some timer => { s with g_appCtx := fireLed s.g_appCtx, now := timer.due }
  | .identify => fireIdentify s

/-- No pending timer is due before the moment. -/
def NotDueBefore (now : Nat) : Option Timer → Prop
  | none => True
  | some timer => now ≤ timer.due

instance (now : Nat) : DecidablePred (NotDueBefore now)
  | none => inferInstanceAs (Decidable True)
  | some timer => inferInstanceAs (Decidable (now ≤ timer.due))

/-- The one timer is pending, and the other is not due before it. -/
def DueFirst : Option Timer → Option Timer → Prop
  | none, _ => False
  | some timer, other => NotDueBefore timer.due other

instance : ∀ timer other : Option Timer, Decidable (DueFirst timer other)
  | none, _ => inferInstanceAs (Decidable False)
  | some timer, other => inferInstanceAs (Decidable (NotDueBefore timer.due other))

/-- Events come in the order of time.  What is due at the same moment comes in any
order. -/
def InOrder (s : State) : Event → Prop
  | .command now _ =>
      s.now ≤ now ∧ NotDueBefore now s.g_appCtx.timerLedEvt ∧
        NotDueBefore now s.identifyTimerEvt
  | .led => DueFirst s.g_appCtx.timerLedEvt s.identifyTimerEvt
  | .identify => DueFirst s.identifyTimerEvt s.g_appCtx.timerLedEvt

instance (s : State) : DecidablePred (InOrder s)
  | .command now _ =>
      inferInstanceAs (Decidable (s.now ≤ now ∧ NotDueBefore now s.g_appCtx.timerLedEvt ∧
        NotDueBefore now s.identifyTimerEvt))
  | .led => inferInstanceAs (Decidable (DueFirst s.g_appCtx.timerLedEvt s.identifyTimerEvt))
  | .identify => inferInstanceAs (Decidable (DueFirst s.identifyTimerEvt s.g_appCtx.timerLedEvt))

/-! ## What a viewer is promised -/

/-- The LED rests in its base state, and neither timer is pending. -/
def AtRest (s : State) : Prop :=
  s.g_appCtx.led = s.g_appCtx.base ∧ s.g_appCtx.timerLedEvt = none ∧ s.identifyTimerEvt = none

/-- Nothing identifies itself. -/
def Idle (s : State) : Prop :=
  AtRest s ∧ s.identifyTime = 0

/-- The LED blinks while the attribute is greater than 0. -/
def Visible (s : State) : Prop :=
  0 < s.identifyTime → s.g_appCtx.timerLedEvt ≠ none

/-- The event ends the identification: the last callback of the countdown, or an Identify
command with no time. -/
def Ends (s : State) : Event → Prop
  | .command _ identifyTime => identifyTime = 0
  | .led => False
  | .identify => s.identifyTime = 0

/-- The moment at which a blink of half seconds stops itself. -/
def blinkEnd (ctx : AppCtx) : Nat :=
  match ctx.timerLedEvt with
  | none => 0
  | some timer =>
      timer.due + (if ctx.sta = ctx.oriSta then 0 else 500) + ctx.times.toNat * 1000

/-- An Identify command asks for no more than its blink: a command that starts one for
255 seconds at the most, and a command during a countdown for no more seconds than the
running blink still lasts. -/
def WithinBlink (s : State) : Event → Prop
  | .command _ identifyTime =>
      identifyTime = 0 ∨
        (s.identifyTimerEvt = none → identifyTime.toNat ≤ 255) ∧
          ∀ timer ∈ s.identifyTimerEvt,
            timer.due + (identifyTime.toNat - 1) * 1000 < blinkEnd s.g_appCtx
  | .led => True
  | .identify => True

instance (s : State) : DecidablePred (WithinBlink s)
  | .command _ identifyTime =>
      inferInstanceAs (Decidable (identifyTime = 0 ∨
        (s.identifyTimerEvt = none → identifyTime.toNat ≤ 255) ∧
          ∀ timer ∈ s.identifyTimerEvt,
            timer.due + (identifyTime.toNat - 1) * 1000 < blinkEnd s.g_appCtx))
  | .led => inferInstanceAs (Decidable True)
  | .identify => inferInstanceAs (Decidable True)

/-! ## The two timers -/

/-- The LED blinks only during a countdown, in half seconds, and the countdown goes in
seconds. -/
structure Tidy (s : State) : Prop where
  tracks : Tracks s.g_appCtx
  together : s.g_appCtx.timerLedEvt ≠ none → s.identifyTimerEvt ≠ none
  halves : s.g_appCtx.timerLedEvt ≠ none →
    s.g_appCtx.ledOnTime = 500 ∧ s.g_appCtx.ledOffTime = 500
  sta : s.g_appCtx.timerLedEvt ≠ none → s.g_appCtx.sta = 0 ∨ s.g_appCtx.sta = 1
  second : ∀ timer, s.identifyTimerEvt = some timer → timer.period = 1000

theorem Idle.tidy {s : State} (h : Idle s) : Tidy s := by
  rcases h with ⟨⟨hled, htimer, hidentify⟩, -⟩
  constructor
  case tracks => exact ⟨fun _ => hled, fun hpending => absurd htimer hpending⟩
  case together => exact fun hpending => absurd htimer hpending
  case halves => exact fun hpending => absurd htimer hpending
  case sta => exact fun hpending => absurd htimer hpending
  case second =>
    intro timer hsome
    rw [hidentify] at hsome
    cases hsome

/-- A state that is tidy and has no countdown has no blink. -/
theorem Tidy.dark {s : State} (h : Tidy s) (hnone : s.identifyTimerEvt = none) :
    s.g_appCtx.timerLedEvt = none := by
  by_contra hpending
  exact h.together hpending hnone

/-! ### Commands -/

theorem appZclIdentifyTimerStop_eq (s : State) :
    appZclIdentifyTimerStop s = { s with identifyTimerEvt := none } := by
  unfold appZclIdentifyTimerStop
  split
  · rfl
  · rename_i hnone
    rw [ne_eq, not_not] at hnone
    rw [← hnone]

/-- An Identify command with no time stops the countdown and the blink. -/
theorem appZclIdentifyCmdHandler_zero (s : State) :
    appZclIdentifyCmdHandler s 0 =
      { s with
        g_appCtx := lightBlinkStop s.g_appCtx
        identifyTime := 0
        identifyTimerEvt := none } := by
  simp [appZclIdentifyCmdHandler, appZclIdentifyTimerStop_eq]

/-- The first command starts both timers. -/
theorem appZclIdentifyCmdHandler_first {s : State} {identifyTime : UInt16}
    (hpos : identifyTime ≠ 0) (hnone : s.identifyTimerEvt = none) :
    appZclIdentifyCmdHandler s identifyTime =
      { s with
        g_appCtx := lightBlinkStart s.g_appCtx s.now identifyTime.toUInt8 500 500
        identifyTime := identifyTime
        identifyTimerEvt := some (Timer.schedule s.now 1000) } := by
  simp [appZclIdentifyCmdHandler, hpos, hnone]

/-- A command during a countdown sets the attribute and nothing else. -/
theorem appZclIdentifyCmdHandler_again {s : State} {identifyTime : UInt16}
    (hpos : identifyTime ≠ 0) (hsome : s.identifyTimerEvt ≠ none) :
    appZclIdentifyCmdHandler s identifyTime = { s with identifyTime := identifyTime } := by
  simp [appZclIdentifyCmdHandler, hpos, hsome]

/-! ### Callbacks -/

/-- The callback that finds the attribute at 0 stops the countdown and the blink. -/
theorem fireIdentify_last {s : State} {timer : Timer} (htimer : s.identifyTimerEvt = some timer)
    (hzero : s.identifyTime = 0) :
    fireIdentify s =
      { s with
        g_appCtx := lightBlinkStop s.g_appCtx
        identifyTimerEvt := none
        now := timer.due } := by
  simp [fireIdentify, htimer, appZclIdentifyTimerCb, hzero, Timer.again]

theorem identifyTime_sub_one {identifyTime : UInt16} (hpos : identifyTime ≠ 0) :
    (identifyTime - 1).toNat + 1 = identifyTime.toNat := by
  have hne : identifyTime.toNat ≠ 0 := fun hzero => hpos (UInt16.toNat_inj.mp hzero)
  have hle : (1 : UInt16) ≤ identifyTime :=
    UInt16.le_iff_toNat_le.mpr (Nat.pos_of_ne_zero hne)
  rw [UInt16.toNat_sub_of_le _ _ hle]
  exact Nat.sub_add_cancel (Nat.pos_of_ne_zero hne)

/-- Every other callback takes one second from the attribute. -/
theorem fireIdentify_tick {s : State} {timer : Timer} (htimer : s.identifyTimerEvt = some timer)
    (hpos : s.identifyTime ≠ 0) :
    fireIdentify s =
      { s with
        identifyTime := s.identifyTime - 1
        identifyTimerEvt := some (Timer.schedule timer.due timer.period)
        now := timer.due } := by
  have hnot : ¬ s.identifyTime ≤ 0 := by
    intro hle
    exact hpos (UInt16.le_zero_iff.mp hle)
  simp [fireIdentify, htimer, appZclIdentifyTimerCb, hnot, Timer.again]

/-! ### Steps -/

/-- What an event can do: nothing, stop both timers, start both, set the attribute during a
countdown, turn the LED, or take a second from the attribute. -/
theorem step_cases {P : State → Prop} (s : State) (e : Event) (hsame : P s)
    (hstop : ∀ now, P { s with
      g_appCtx := lightBlinkStop s.g_appCtx, identifyTime := 0, identifyTimerEvt := none,
      now := now })
    (hstart : ∀ now identifyTime, s.identifyTimerEvt = none → P { s with
      g_appCtx := lightBlinkStart s.g_appCtx now identifyTime.toUInt8 500 500,
      identifyTime := identifyTime, identifyTimerEvt := some (Timer.schedule now 1000),
      now := now })
    (hagain : ∀ now identifyTime, s.identifyTimerEvt ≠ none →
      P { s with identifyTime := identifyTime, now := now })
    (hled : ∀ now, P { s with g_appCtx := fireLed s.g_appCtx, now := now })
    (htick : ∀ timer, s.identifyTimerEvt = some timer → P { s with
      identifyTime := s.identifyTime - 1,
      identifyTimerEvt := some (Timer.schedule timer.due timer.period), now := timer.due }) :
    P (step s e) := by
  cases e with
  | command now identifyTime =>
      by_cases hzero : identifyTime = 0
      · subst hzero
        rw [step, appZclIdentifyCmdHandler_zero]
        exact hstop now
      · by_cases hnone : s.identifyTimerEvt = none
        · rw [step, appZclIdentifyCmdHandler_first (s := { s with now := now }) hzero hnone]
          exact hstart now identifyTime hnone
        · rw [step, appZclIdentifyCmdHandler_again (s := { s with now := now }) hzero hnone]
          exact hagain now identifyTime hnone
  | led =>
      rw [step]
      split
      · exact hsame
      · exact hled _
  | identify =>
      rw [step]
      cases htimer : s.identifyTimerEvt with
      | none => simpa [fireIdentify, htimer] using hsame
      | some timer =>
          by_cases hzero : s.identifyTime = 0
          · rw [fireIdentify_last htimer hzero, hzero]
            exact hstop timer.due
          · rw [fireIdentify_tick htimer hzero]
            exact htick timer htimer

/-- No event changes the base state. -/
theorem step_oriSta (s : State) (e : Event) :
    (step s e).g_appCtx.oriSta = s.g_appCtx.oriSta := by
  refine step_cases (P := fun s' => s'.g_appCtx.oriSta = s.g_appCtx.oriSta) s e rfl ?_ ?_ ?_ ?_ ?_
  · exact fun _ => lightBlinkStop_oriSta s.g_appCtx
  · exact fun _ _ _ => lightBlinkStart_oriSta s.g_appCtx _ _ _ _
  · exact fun _ _ _ => rfl
  · exact fun _ => (fireLed_frame s.g_appCtx).oriSta
  · exact fun _ _ => rfl

/-- Every event keeps the two timers together and the LED on its state. -/
theorem step_tidy {s : State} (h : Tidy s) (e : Event) : Tidy (step s e) := by
  refine step_cases s e h ?stop ?start ?again ?led ?tick
  case stop =>
    intro now
    exact ⟨h.tracks.lightBlinkStop, by simp, by simp, by simp, by simp⟩
  case start =>
    intro now identifyTime hnone
    have hdark := h.dark hnone
    constructor
    case tracks => exact h.tracks.lightBlinkStart _ _ _ _
    case together => simp
    case halves => simp [lightBlinkStart_idle _ _ _ _ _ hdark]
    case sta =>
      intro _
      rw [lightBlinkStart_idle _ _ _ _ _ hdark]
      exact turned_binary s.g_appCtx.oriSta
    case second =>
      rintro timer ⟨rfl⟩
      rfl
  case again =>
    intro now identifyTime _
    exact ⟨h.tracks, h.together, h.halves, h.sta, h.second⟩
  case led =>
    intro now
    have hframe := fireLed_frame s.g_appCtx
    constructor
    case tracks => exact h.tracks.fireLed
    case together => exact fun hpending => h.together (hframe.pending hpending)
    case halves =>
      intro hpending
      have hhalves := h.halves (hframe.pending hpending)
      exact ⟨hframe.ledOnTime.trans hhalves.1, hframe.ledOffTime.trans hhalves.2⟩
    case sta => exact fun hpending => fireLed_binary (h.sta (hframe.pending hpending))
    case second => exact h.second
  case tick =>
    intro timer htimer
    constructor
    case tracks => exact h.tracks
    case together => simp
    case halves => exact h.halves
    case sta => exact h.sta
    case second =>
      rintro timer' ⟨rfl⟩
      exact h.second timer htimer

/-- An event that ends the identification leaves the LED at rest. -/
theorem step_ends {s : State} {e : Event} (h : Tidy s) (horder : InOrder s e) (hends : Ends s e) :
    AtRest (step s e) := by
  have htidy := step_tidy h e
  have hstopped : (step s e).g_appCtx.timerLedEvt = none ∧ (step s e).identifyTimerEvt = none := by
    cases e with
    | command now identifyTime =>
        have hzero : identifyTime = 0 := hends
        rw [step, hzero, appZclIdentifyCmdHandler_zero]
        exact ⟨lightBlinkStop_timerLedEvt _, rfl⟩
    | led => exact hends.elim
    | identify =>
        cases htimer : s.identifyTimerEvt with
        | none =>
            rw [InOrder, htimer] at horder
            exact horder.elim
        | some timer =>
            rw [step, fireIdentify_last htimer hends]
            exact ⟨lightBlinkStop_timerLedEvt _, rfl⟩
  exact ⟨htidy.tracks.resting (Or.inl hstopped.1), hstopped⟩

/-! ## The countdown lies inside the blink -/

/-- The attribute comes to 0 before the blink stops itself. -/
def Covered (s : State) : Prop :=
  s.identifyTime ≠ 0 → ∃ timer, s.identifyTimerEvt = some timer ∧
    timer.due + (s.identifyTime.toNat - 1) * 1000 < blinkEnd s.g_appCtx

theorem Covered.visible {s : State} (h : Covered s) : Visible s := by
  intro hpos hnone
  have hne : s.identifyTime ≠ 0 := by
    intro hzero
    rw [hzero] at hpos
    exact absurd hpos (by decide)
  rcases h hne with ⟨timer, -, hlt⟩
  simp [blinkEnd, hnone] at hlt

/-- A blink that starts lasts one second more than it was asked for. -/
theorem blinkEnd_start {ctx : AppCtx} (now : Nat) (times : UInt8)
    (hidle : ctx.timerLedEvt = none) :
    blinkEnd (lightBlinkStart ctx now times 500 500) = now + 1000 + times.toNat * 1000 := by
  rw [lightBlinkStart_idle ctx now times 500 500 hidle]
  simp [blinkEnd, Timer.schedule, turned_ne ctx.oriSta]

/-- A callback of the LED does not shorten its blink, unless the blink is at its end. -/
theorem blinkEnd_fireLed {ctx : AppCtx} {timer : Timer} (htimer : ctx.timerLedEvt = some timer)
    (hhalves : ctx.ledOnTime = 500 ∧ ctx.ledOffTime = 500) :
    blinkEnd ctx = timer.due ∨ blinkEnd ctx ≤ blinkEnd (fireLed ctx) := by
  by_cases hstop : ctx.sta = ctx.oriSta ∧ ctx.times = 0
  · left
    simp [blinkEnd, htimer, hstop.1, hstop.2]
  · right
    have hhalf : (if ctx.sta = 0 then ctx.ledOnTime else ctx.ledOffTime) = 500 := by
      rw [hhalves.1, hhalves.2, ite_self]
    rcases fireLed_turn htimer hstop with ⟨interval, hfire, hinterval⟩
    rw [hhalf] at hinterval
    have hinterval : interval = 500 := hinterval (by decide)
    rw [hfire, hinterval]
    by_cases hsta : ctx.sta = ctx.oriSta
    · have hpos : ctx.times ≠ 0 := fun hzero => hstop ⟨hsta, hzero⟩
      have htimes : (ctx.times - 1).toNat + 1 = ctx.times.toNat := times_sub_one hpos
      have haway : (if ctx.sta = 0 then (1 : UInt8) else 0) ≠ ctx.oriSta := by
        rw [hsta]
        exact turned_ne ctx.oriSta
      simp only [blinkEnd, htimer, hsta, if_true, Timer.schedule]
      rw [hsta] at haway
      rw [if_neg haway, ← htimes]
      omega
    · simp only [blinkEnd, htimer, Timer.schedule, if_neg hsta]
      omega

/-- An Identify command within the blink keeps the countdown inside the blink. -/
theorem covered_command {s : State} (htidy : Tidy s) {now : Nat} {identifyTime : UInt16}
    (hwithin : WithinBlink s (.command now identifyTime)) :
    Covered (step s (.command now identifyTime)) := by
  intro hpos
  by_cases hzero : identifyTime = 0
  · rw [step, hzero, appZclIdentifyCmdHandler_zero] at hpos
    exact absurd rfl hpos
  · cases hidentify : s.identifyTimerEvt with
    | none =>
        have hcount : identifyTime.toNat ≤ 255 := (hwithin.resolve_left hzero).1 hidentify
        have htimes : identifyTime.toUInt8.toNat = identifyTime.toNat := by
          rw [UInt16.toNat_toUInt8]
          exact Nat.mod_eq_of_lt (Nat.lt_succ_of_le hcount)
        have hne : identifyTime.toNat ≠ 0 := fun h => hzero (UInt16.toNat_inj.mp h)
        rw [step, appZclIdentifyCmdHandler_first (s := { s with now := now }) hzero hidentify]
        refine ⟨_, rfl, ?_⟩
        show now + 1000 + (identifyTime.toNat - 1) * 1000 <
          blinkEnd (lightBlinkStart s.g_appCtx now identifyTime.toUInt8 500 500)
        rw [blinkEnd_start now _ (htidy.dark hidentify), htimes]
        omega
    | some timer =>
        have hlt : timer.due + (identifyTime.toNat - 1) * 1000 < blinkEnd s.g_appCtx :=
          (hwithin.resolve_left hzero).2 timer hidentify
        have hsome : s.identifyTimerEvt ≠ none := by simp [hidentify]
        rw [step, appZclIdentifyCmdHandler_again (s := { s with now := now }) hzero hsome]
        exact ⟨timer, hidentify, hlt⟩

/-- A callback of the LED keeps it there: a blink at its end finds the attribute at 0. -/
theorem covered_led {s : State} (htidy : Tidy s) (h : Covered s) (horder : InOrder s .led) :
    Covered (step s .led) := by
  cases hled : s.g_appCtx.timerLedEvt with
  | none =>
      rw [InOrder, hled] at horder
      exact horder.elim
  | some timer =>
      have hpending : s.g_appCtx.timerLedEvt ≠ none := by simp [hled]
      have hstep : step s .led =
          { s with g_appCtx := fireLed s.g_appCtx, now := timer.due } := by simp [step, hled]
      rw [hstep]
      intro hpos
      rcases h hpos with ⟨countdown, hidentify, hlt⟩
      have hdue : timer.due ≤ countdown.due := by
        rw [InOrder, hled, hidentify] at horder
        exact horder
      refine ⟨countdown, hidentify, ?_⟩
      rcases blinkEnd_fireLed hled (htidy.halves hpending) with hend | hlater
      · omega
      · exact Nat.lt_of_lt_of_le hlt hlater

/-- A callback of the countdown keeps it there: a second is gone, and one less is to come. -/
theorem covered_identify {s : State} (htidy : Tidy s) (h : Covered s)
    (horder : InOrder s .identify) : Covered (step s .identify) := by
  cases hidentify : s.identifyTimerEvt with
  | none =>
      rw [InOrder, hidentify] at horder
      exact horder.elim
  | some timer =>
      by_cases hzero : s.identifyTime = 0
      · rw [step, fireIdentify_last hidentify hzero]
        exact fun hpos => absurd hzero hpos
      · rw [step, fireIdentify_tick hidentify hzero]
        intro hpos
        rcases h hzero with ⟨countdown, hsame, hlt⟩
        rw [hidentify] at hsame
        cases hsame
        refine ⟨_, rfl, ?_⟩
        have hleft := identifyTime_sub_one hzero
        have hmore : (s.identifyTime - 1).toNat ≠ 0 := fun h => hpos (UInt16.toNat_inj.mp h)
        show timer.due + timer.period + ((s.identifyTime - 1).toNat - 1) * 1000 <
          blinkEnd s.g_appCtx
        rw [htidy.second timer hidentify]
        omega

/-- An event in its order and within the blink keeps the countdown inside the blink. -/
theorem step_covered {s : State} {e : Event} (htidy : Tidy s) (h : Covered s)
    (horder : InOrder s e) (hwithin : WithinBlink s e) : Covered (step s e) := by
  cases e with
  | command now identifyTime => exact covered_command htidy hwithin
  | led => exact covered_led htidy h horder
  | identify => exact covered_identify htidy h horder

/-! ## The countdown outlasts the blink -/

/-- The callbacks of the LED that come before the one that stops it. -/
def callbacksLeft (ctx : AppCtx) : Nat :=
  2 * ctx.times.toNat + if ctx.sta = ctx.oriSta then 0 else 1

/-- A callback that does not stop the LED leaves one callback less and does not move the
end of the blink. -/
theorem fireLed_left {ctx : AppCtx} {timer : Timer} (htimer : ctx.timerLedEvt = some timer)
    (hhalves : ctx.ledOnTime = 500 ∧ ctx.ledOffTime = 500)
    (hori : ctx.oriSta = 0 ∨ ctx.oriSta = 1) (hstate : ctx.sta = 0 ∨ ctx.sta = 1)
    (hturn : ¬ (ctx.sta = ctx.oriSta ∧ ctx.times = 0)) :
    callbacksLeft (fireLed ctx) + 1 = callbacksLeft ctx ∧
      blinkEnd (fireLed ctx) = blinkEnd ctx := by
  have hhalf : (if ctx.sta = 0 then ctx.ledOnTime else ctx.ledOffTime) = 500 := by
    rw [hhalves.1, hhalves.2, ite_self]
  rcases fireLed_turn htimer hturn with ⟨interval, hfire, hinterval⟩
  rw [hhalf] at hinterval
  have hinterval : interval = 500 := hinterval (by decide)
  rw [hfire, hinterval]
  by_cases hsta : ctx.sta = ctx.oriSta
  · have htimes := times_sub_one fun hzero => hturn ⟨hsta, hzero⟩
    have haway := turned_ne ctx.oriSta
    simp only [callbacksLeft, blinkEnd, htimer, hsta, if_true, Timer.schedule, if_neg haway]
    omega
  · have hback : (if ctx.sta = 0 then (1 : UInt8) else 0) = ctx.oriSta := by
      rcases hstate with hoff | hon
      · rcases hori with hori | hori
        · exact absurd (hoff.trans hori.symm) hsta
        · simp [hoff, hori]
      · rcases hori with hori | hori
        · simp [hon, hori]
        · exact absurd (hon.trans hori.symm) hsta
    simp [callbacksLeft, blinkEnd, htimer, if_neg hsta, if_pos hback, Timer.schedule]

/-- The blink stops itself before the attribute comes to 0. -/
def Outlasted (s : State) : Prop :=
  s.identifyTime ≠ 0 ∧ ∃ timer, s.identifyTimerEvt = some timer ∧
    blinkEnd s.g_appCtx ≤ timer.due + (s.identifyTime.toNat - 1) * 1000

/-- The callbacks that come before the blink or the countdown is over. -/
def stepsLeft (s : State) : Nat :=
  callbacksLeft s.g_appCtx + s.identifyTime.toNat

/-- A callback of the LED that does not stop it leaves one step less. -/
theorem Outlasted.led {s : State} {timer : Timer} (h : Outlasted s) (htidy : Tidy s)
    (hori : s.g_appCtx.oriSta = 0 ∨ s.g_appCtx.oriSta = 1)
    (hled : s.g_appCtx.timerLedEvt = some timer)
    (hturn : ¬ (s.g_appCtx.sta = s.g_appCtx.oriSta ∧ s.g_appCtx.times = 0)) :
    Outlasted (step s .led) ∧ stepsLeft (step s .led) < stepsLeft s := by
  have hpending : s.g_appCtx.timerLedEvt ≠ none := by simp [hled]
  have hstep : step s .led =
      { s with g_appCtx := fireLed s.g_appCtx, now := timer.due } := by simp [step, hled]
  rcases fireLed_left hled (htidy.halves hpending) hori (htidy.sta hpending) hturn with
    ⟨hless, hsame⟩
  rcases h with ⟨hpos, countdown, hidentify, hend⟩
  rw [hstep]
  refine ⟨⟨hpos, countdown, hidentify, by rw [hsame]; exact hend⟩, ?_⟩
  show callbacksLeft (fireLed s.g_appCtx) + s.identifyTime.toNat <
    callbacksLeft s.g_appCtx + s.identifyTime.toNat
  omega

/-- So does a callback of the countdown before the LED is due. -/
theorem Outlasted.identify {s : State} {timer countdown : Timer} (h : Outlasted s)
    (htidy : Tidy s) (hled : s.g_appCtx.timerLedEvt = some timer)
    (hidentify : s.identifyTimerEvt = some countdown) (hfirst : countdown.due < timer.due) :
    Outlasted (step s .identify) ∧ stepsLeft (step s .identify) < stepsLeft s := by
  rcases h with ⟨hpos, countdown', hsame, hend⟩
  rw [hidentify] at hsame
  cases hsame
  have hleft := identifyTime_sub_one hpos
  have hlow : timer.due ≤ blinkEnd s.g_appCtx := by
    simp only [blinkEnd, hled]
    omega
  have hsecond := htidy.second countdown hidentify
  rw [step, fireIdentify_tick hidentify hpos]
  refine ⟨⟨fun hzero => ?_, _, rfl, ?_⟩, ?_⟩
  · have hzero : s.identifyTime - 1 = 0 := hzero
    rw [hzero] at hleft
    have hone : s.identifyTime.toNat = 1 := hleft.symm
    omega
  · show blinkEnd s.g_appCtx ≤
      countdown.due + countdown.period + ((s.identifyTime - 1).toNat - 1) * 1000
    omega
  · show callbacksLeft s.g_appCtx + (s.identifyTime - 1).toNat <
      callbacksLeft s.g_appCtx + s.identifyTime.toNat
    omega

/-- Then the two timers alone lead to a countdown without a blink. -/
theorem Outlasted.dark {s : State} (h : Outlasted s) (htidy : Tidy s)
    (hori : s.g_appCtx.oriSta = 0 ∨ s.g_appCtx.oriSta = 1) :
    ∃ es, (∀ e ∈ es, e = .led ∨ e = .identify) ∧ Along step InOrder s es ∧
      ¬ Visible (run step s es) := by
  induction hn : stepsLeft s using Nat.strong_induction_on generalizing s with
  | _ n ih =>
    subst hn
    have hpos : 0 < s.identifyTime := UInt16.pos_iff_ne_zero.mpr h.1
    rcases h.2 with ⟨countdown, hidentify, -⟩
    cases hled : s.g_appCtx.timerLedEvt with
    | none => exact ⟨[], by simp, trivial, fun hvisible => hvisible hpos hled⟩
    | some timer =>
      rcases Nat.lt_or_ge countdown.due timer.due with hfirst | hfirst
      · have horder : InOrder s .identify := by
          rw [InOrder, hled, hidentify]
          exact Nat.le_of_lt hfirst
        rcases h.identify htidy hled hidentify hfirst with ⟨hnext, hless⟩
        rcases ih _ hless hnext (step_tidy htidy .identify) (by rwa [step_oriSta]) rfl with
          ⟨es, htimers, hlater, hdark⟩
        exact ⟨.identify :: es, by simpa using htimers, ⟨horder, hlater⟩, hdark⟩
      · have horder : InOrder s .led := by
          rw [InOrder, hled, hidentify]
          exact hfirst
        by_cases hstop : s.g_appCtx.sta = s.g_appCtx.oriSta ∧ s.g_appCtx.times = 0
        · refine ⟨[.led], by simp, ⟨horder, trivial⟩, fun hvisible => ?_⟩
          have hstep : run step s [.led] =
              { s with g_appCtx := fireLed s.g_appCtx, now := timer.due } := by simp [step, hled]
          rw [hstep, fireLed_stop hstop.1 hstop.2] at hvisible
          exact hvisible hpos rfl
        · rcases h.led htidy hori hled hstop with ⟨hnext, hless⟩
          rcases ih _ hless hnext (step_tidy htidy .led) (by rwa [step_oriSta]) rfl with
            ⟨es, htimers, hlater, hdark⟩
          exact ⟨.led :: es, by simpa using htimers, ⟨horder, hlater⟩, hdark⟩

/-- A command that is not within the blink starts such a countdown. -/
theorem outlasted_of_not_within {s : State} {now : Nat} {identifyTime : UInt16}
    (htidy : Tidy s) (hnot : ¬ WithinBlink s (.command now identifyTime)) :
    Outlasted (step s (.command now identifyTime)) := by
  rw [WithinBlink, not_or] at hnot
  rcases hnot with ⟨hzero, hnot⟩
  cases hidentify : s.identifyTimerEvt with
  | none =>
      have hcount : ¬ identifyTime.toNat ≤ 255 := by
        intro hcount
        exact hnot ⟨fun _ => hcount, by simp [hidentify]⟩
      have htimes : identifyTime.toUInt8.toNat < 256 := UInt8.toNat_lt identifyTime.toUInt8
      rw [step, appZclIdentifyCmdHandler_first (s := { s with now := now }) hzero hidentify]
      refine ⟨hzero, _, rfl, ?_⟩
      show blinkEnd (lightBlinkStart s.g_appCtx now identifyTime.toUInt8 500 500) ≤
        now + 1000 + (identifyTime.toNat - 1) * 1000
      rw [blinkEnd_start now _ (htidy.dark hidentify)]
      omega
  | some timer =>
      have hsome : s.identifyTimerEvt ≠ none := by simp [hidentify]
      rw [step, appZclIdentifyCmdHandler_again (s := { s with now := now }) hzero hsome]
      refine ⟨hzero, timer, hidentify, ?_⟩
      by_contra hlt
      refine hnot ⟨fun hnone => absurd hnone hsome, ?_⟩
      intro timer' hmem
      rw [hidentify] at hmem
      cases hmem
      exact Nat.not_le.mp hlt

/-! ## Runs -/

/-- From idle, in whatever order of time: when the identification ends the LED is at rest.
The LED blinks at every moment of the countdown if every command keeps within the blink,
and after a command that does not, the timers alone lead to a countdown without a blink. -/
theorem identify_visible_when (s : State) (es : List Event) (hidle : Idle s)
    (horder : Along step InOrder s es) :
    Along step (fun s e => Ends s e → AtRest (step s e)) s es ∧
      (Along step WithinBlink s es → ∀ es', es' <+: es → Visible (run step s es')) ∧
      (s.g_appCtx.oriSta = 0 ∨ s.g_appCtx.oriSta = 1 → ¬ Along step WithinBlink s es →
        ∃ es' ts, es' <+: es ∧ (∀ e ∈ ts, e = .led ∨ e = .identify) ∧
          Along step InOrder s (es' ++ ts) ∧ ¬ Visible (run step s (es' ++ ts))) := by
  refine ⟨?_, ?_, ?_⟩
  · exact along_of_invariant Tidy
      (fun s e htidy hin => ⟨step_tidy htidy e, step_ends htidy hin⟩) hidle.tidy horder
  · rintro hwithin es' ⟨rest, rfl⟩
    have hboth := along_and.mpr ⟨(along_append.mp horder).1, (along_append.mp hwithin).1⟩
    have hkept : Tidy (run step s es') ∧ Covered (run step s es') :=
      run_invariant (fun s => Tidy s ∧ Covered s)
        (fun s e h hstep => ⟨step_tidy h.1 e, step_covered h.1 h.2 hstep.1 hstep.2⟩)
        ⟨hidle.tidy, fun hpos => absurd hidle.2 hpos⟩ hboth
    exact hkept.2.visible
  · intro hori hnot
    rcases exists_of_not_along hnot with ⟨es', e, ⟨rest, rfl⟩, hout⟩
    have hkept : Tidy (run step s es') ∧
        ((run step s es').g_appCtx.oriSta = 0 ∨ (run step s es').g_appCtx.oriSta = 1) :=
      run_invariant_always
        (fun s => Tidy s ∧ (s.g_appCtx.oriSta = 0 ∨ s.g_appCtx.oriSta = 1))
        (fun s e h => ⟨step_tidy h.1 e, by rw [step_oriSta]; exact h.2⟩) es' ⟨hidle.tidy, hori⟩
    cases e with
    | led => exact absurd trivial hout
    | identify => exact absurd trivial hout
    | command now identifyTime =>
        have hnext := outlasted_of_not_within hkept.1 hout
        rcases hnext.dark (step_tidy hkept.1 _) (by rw [step_oriSta]; exact hkept.2) with
          ⟨ts, htimers, hlater, hdark⟩
        have hcommand := (along_append.mp horder).1
        refine ⟨es' ++ [.command now identifyTime], ts, List.prefix_append _ rest, htimers, ?_, ?_⟩
        · refine along_append.mpr ⟨hcommand, ?_⟩
          rw [run_append]
          exact hlater
        · rw [run_append, run_append]
          exact hdark

/-- Identify for one second, and once more for one second while the LED blinks: the
countdown goes to its end. -/
theorem identify_visible_when_twice :
    let es : List Event :=
      [.command 0 1, .led, .command 700 1, .led, .identify, .led, .led, .identify]
    Along step (fun s e => Ends s e → AtRest (step s e)) {} es ∧
      ∀ es', es' <+: es → Visible (run step {} es') := by
  intro es
  rcases identify_visible_when {} es ⟨⟨rfl, rfl, rfl⟩, rfl⟩ (by decide) with
    ⟨hends, hvisible, -⟩
  exact ⟨hends, hvisible (by decide)⟩

/-- Identify for 256 seconds: the blink of no further pulse is at its end after one
second, and 255 are to come. -/
theorem identify_dark_256 :
    let es : List Event := [.command 0 256, .led, .led, .identify]
    Idle {} ∧ Along step InOrder {} es ∧ (run step {} es).identifyTime = 255 ∧
      ¬ Visible (run step {} es) := by
  refine ⟨⟨⟨rfl, rfl, rfl⟩, rfl⟩, by decide, rfl, ?_⟩
  intro hvisible
  exact hvisible (by decide) rfl

end Identify
