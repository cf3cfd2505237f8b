import Mathlib.Logic.Function.Iterate
import TuyaMiniSwitch.Platform.EvTimer

/-!
# Application - The LED

The blinking LED of {lit}`app_led.c`: a starter that makes the first pulse itself,
a callback that keeps rescheduling itself, and a counter that the callback lowers
before each further pulse.

Main results:

- Theorem {lit}`again_eq_endCB`: rescheduling is what {lit}`ev_timer.c` does.
- Theorem {lit}`Blinking.run`: what a blinking LED still does, by its counter.
- Theorem {lit}`blink_count_never`: a blink of {lit}`n` times makes {lit}`n + 1` pulses.
-/

namespace Led

/-! ## Timers with a due time -/

/-- A pending timer: the moment at which it is due and its period, in
milliseconds. -/
structure Timer where
  due : Nat
  period : Nat
  deriving Repr, DecidableEq

/-- {lit}`TL_ZB_TIMER_SCHEDULE` at a moment. -/
def Timer.schedule (now interval : Nat) : Timer where
  due := now + interval
  period := interval

/-- What becomes of a timer that ran at a moment, by what its callback returned. -/
def Timer.again (timer : Timer) (now : Nat) (t : Int) : Option Timer :=
  if t < 0 then none
  else if t = 0 then some (Timer.schedule now timer.period)
  else some (Timer.schedule now t.toNat)

theorem Timer.again_of_ne_zero (timer : Timer) (now : Nat) {n : Nat} (hn : n ≠ 0) :
    timer.again now (n : Int) = some (Timer.schedule now n) := by
  have hnonneg : ¬ (n : Int) < 0 := Int.not_lt.mpr (Int.natCast_nonneg n)
  rw [Timer.again, if_neg hnonneg, if_neg (Int.natCast_ne_zero.mpr hn), Int.toNat_natCast]

/-- Rescheduling is what {lit}`ev_timer_executeCB` does to the slot of the timer. -/
theorem again_eq_endCB {γ : Type} {pool : EvTimer.Pool γ} {i : EvTimer.Slot}
    {event : EvTimer.TimerEvent γ} (hevent : pool.evt i = some event) (due now : Nat)
    (t : Int) :
    ((pool.beginCB i).endCB i t).evt i =
      (Timer.again ⟨due, event.period⟩ now t).map fun timer =>
        { event with timeout := timer.due - now, period := timer.period, isBusy := false } := by
  rw [EvTimer.endCB_beginCB, EvTimer.set_evt_self, hevent]
  unfold Timer.again
  split
  · rfl
  · split
    · simp [Timer.schedule]
    · simp [Timer.schedule]

/-! ## The code -/

/-- The fields of {lit}`g_appCtx` that the LED uses, whether the device has an LED
at all, and whether it is lit. -/
structure AppCtx where
  oriSta : UInt8 := 0
  sta : UInt8 := 0
  times : UInt8 := 0
  ledOnTime : UInt16 := 0
  ledOffTime : UInt16 := 0
  timerLedEvt : Option Timer := none
  device_en : Bool := true
  led : Bool := false
  deriving Repr, DecidableEq

/-- {lit}`light_on`. -/
def lightOn (ctx : AppCtx) : AppCtx :=
  if ctx.device_en then { ctx with led := true } else ctx

/-- {lit}`light_off`. -/
def lightOff (ctx : AppCtx) : AppCtx :=
  if ctx.device_en then { ctx with led := false } else ctx

/-- {lit}`zclLightTimerCb`, and what it returns. -/
def zclLightTimerCb (ctx : AppCtx) : AppCtx × Int :=
  if ctx.sta = ctx.oriSta ∧ ctx.times = 0 then
    ({ ctx with timerLedEvt := none }, -1)
  else
    let ctx := if ctx.sta = ctx.oriSta then { ctx with times := ctx.times - 1 } else ctx
    let ctx := { ctx with sta := if ctx.sta = 0 then 1 else 0 }
    if ctx.sta ≠ 0 then (lightOn ctx, ctx.ledOnTime.toNat)
    else (lightOff ctx, ctx.ledOffTime.toNat)

/-- {lit}`light_blink_start`. -/
def lightBlinkStart (ctx : AppCtx) (now : Nat) (times : UInt8) (ledOnTime ledOffTime : UInt16) :
    AppCtx :=
  let ctx := { ctx with times := times }
  if ctx.timerLedEvt = none then
    let (ctx, interval) :=
      if ctx.oriSta ≠ 0 then ({ lightOff ctx with sta := 0 }, ledOffTime)
      else ({ lightOn ctx with sta := 1 }, ledOnTime)
    { ctx with
      ledOnTime := ledOnTime
      ledOffTime := ledOffTime
      timerLedEvt := some (Timer.schedule now interval.toNat) }
  else
    ctx

/-- {lit}`light_blink_stop`. -/
def lightBlinkStop (ctx : AppCtx) : AppCtx :=
  if ctx.timerLedEvt ≠ none then
    let ctx := { ctx with timerLedEvt := none, times := 0 }
    if ctx.oriSta ≠ 0 then lightOn ctx else lightOff ctx
  else
    ctx

/-- The timer of the LED is due and {lit}`ev_timer.c` runs the callback. -/
def fireLed (ctx : AppCtx) : AppCtx :=
  match ctx.timerLedEvt with
  | none => ctx
  | some timer =>
      let (ctx, t) := zclLightTimerCb ctx
      match timer.again timer.due t with
      | none => ctx
      | some timer => { ctx with timerLedEvt := some timer }

/-- The state that the LED has between two blinks. -/
def AppCtx.base (ctx : AppCtx) : Bool :=
  decide (ctx.oriSta ≠ 0)

/-! ## What the operations do -/

theorem lightOn_eq (ctx : AppCtx) :
    lightOn ctx = { ctx with led := ctx.device_en || ctx.led } := by
  by_cases hen : ctx.device_en = true
  · simp [lightOn, hen]
  · have hkeep : (ctx.device_en || ctx.led) = ctx.led := by simp [hen]
    rw [lightOn, if_neg hen, hkeep]

theorem lightOff_eq (ctx : AppCtx) :
    lightOff ctx = { ctx with led := !ctx.device_en && ctx.led } := by
  by_cases hen : ctx.device_en = true
  · simp [lightOff, hen]
  · have hkeep : (!ctx.device_en && ctx.led) = ctx.led := by simp [hen]
    rw [lightOff, if_neg hen, hkeep]

/-- The callback that finds the LED in its base state and the counter at zero stops
the timer. -/
theorem fireLed_stop {ctx : AppCtx} (hsta : ctx.sta = ctx.oriSta) (htimes : ctx.times = 0) :
    fireLed ctx = { ctx with timerLedEvt := none } := by
  rcases ctx with ⟨oriSta, sta, times, ledOnTime, ledOffTime, _ | timer, device_en, led⟩
  · rfl
  · simp only at hsta htimes
    simp [fireLed, zclLightTimerCb, hsta, htimes, Timer.again]

/-- Every other callback turns the LED over and reschedules itself; the counter pays
for leaving the base state. -/
theorem fireLed_turn {ctx : AppCtx} {timer : Timer} (htimer : ctx.timerLedEvt = some timer)
    (hturn : ¬ (ctx.sta = ctx.oriSta ∧ ctx.times = 0)) :
    ∃ interval, fireLed ctx =
      { ctx with
        times := if ctx.sta = ctx.oriSta then ctx.times - 1 else ctx.times
        sta := if ctx.sta = 0 then 1 else 0
        led := if ctx.device_en then decide (ctx.sta = 0) else ctx.led
        timerLedEvt := some (Timer.schedule timer.due interval) } ∧
      ((if ctx.sta = 0 then ctx.ledOnTime else ctx.ledOffTime) ≠ 0 →
        interval = (if ctx.sta = 0 then ctx.ledOnTime else ctx.ledOffTime).toNat) := by
  have hcb : zclLightTimerCb ctx =
      ({ ctx with
        times := if ctx.sta = ctx.oriSta then ctx.times - 1 else ctx.times
        sta := if ctx.sta = 0 then 1 else 0
        led := if ctx.device_en then decide (ctx.sta = 0) else ctx.led },
        ((if ctx.sta = 0 then ctx.ledOnTime else ctx.ledOffTime).toNat : Int)) := by
    rw [zclLightTimerCb, if_neg hturn]
    rcases ctx with ⟨oriSta, sta, times, ledOnTime, ledOffTime, evt, device_en, led⟩
    by_cases hori : sta = oriSta
    · by_cases hzero : sta = 0
      · cases device_en <;> simp [lightOn, ← hori, hzero]
      · cases device_en <;> simp [lightOff, ← hori, hzero]
    · by_cases hzero : sta = 0
      · cases device_en <;> simp [lightOn, hzero, hzero ▸ hori]
      · cases device_en <;> simp [lightOff, hori, hzero]
  generalize (if ctx.sta = 0 then ctx.ledOnTime else ctx.ledOffTime) = interval at hcb ⊢
  by_cases hinterval : interval = 0
  · refine ⟨timer.period, ?_, fun hne => absurd hinterval hne⟩
    simp [fireLed, htimer, hcb, Timer.again, hinterval]
  · refine ⟨interval.toNat, ?_, fun _ => rfl⟩
    have hne : interval.toNat ≠ 0 := by
      intro hzero
      exact hinterval (UInt16.toNat_inj.mp hzero)
    simp only [fireLed, htimer, hcb, timer.again_of_ne_zero timer.due hne]

/-- What no callback changes: the base state, the intervals and whether there is an LED.
Without an LED nothing is lit or put out, and no callback starts a timer. -/
structure Frame (ctx ctx' : AppCtx) : Prop where
  oriSta : ctx'.oriSta = ctx.oriSta
  ledOnTime : ctx'.ledOnTime = ctx.ledOnTime
  ledOffTime : ctx'.ledOffTime = ctx.ledOffTime
  device_en : ctx'.device_en = ctx.device_en
  led : ctx.device_en = false → ctx'.led = ctx.led
  pending : ctx'.timerLedEvt ≠ none → ctx.timerLedEvt ≠ none

theorem fireLed_frame (ctx : AppCtx) : Frame ctx (fireLed ctx) := by
  by_cases hstop : ctx.sta = ctx.oriSta ∧ ctx.times = 0
  · rw [fireLed_stop hstop.1 hstop.2]
    exact ⟨rfl, rfl, rfl, rfl, fun _ => rfl, fun hpending => absurd rfl hpending⟩
  · cases htimer : ctx.timerLedEvt with
    | none =>
        have hsame : fireLed ctx = ctx := by simp [fireLed, htimer]
        rw [hsame]
        exact ⟨rfl, rfl, rfl, rfl, fun _ => rfl, id⟩
    | some timer =>
        rcases fireLed_turn htimer hstop with ⟨interval, hfire, -⟩
        rw [hfire]
        refine ⟨rfl, rfl, rfl, rfl, fun hen => ?_, fun _ => by simp [htimer]⟩
        show (if ctx.device_en then decide (ctx.sta = 0) else ctx.led) = ctx.led
        rw [hen, if_neg Bool.false_ne_true]

theorem times_sub_one {times : UInt8} (hpos : times ≠ 0) :
    (times - 1).toNat + 1 = times.toNat := by
  have hne : times.toNat ≠ 0 := fun hzero => hpos (UInt8.toNat_inj.mp hzero)
  have hle : (1 : UInt8) ≤ times := UInt8.le_iff_toNat_le.mpr (Nat.pos_of_ne_zero hne)
  rw [UInt8.toNat_sub_of_le _ _ hle]
  exact Nat.sub_add_cancel (Nat.pos_of_ne_zero hne)

/-- A state that is turned over is another one. -/
theorem turned_ne (sta : UInt8) : (if sta = 0 then (1 : UInt8) else 0) ≠ sta := by
  split
  · rename_i hzero
    rw [hzero]
    decide
  · rename_i hne
    exact Ne.symm hne

/-- The blinking state is off or on once it was turned over. -/
theorem turned_binary (sta : UInt8) :
    (if sta = 0 then (1 : UInt8) else 0) = 0 ∨ (if sta = 0 then (1 : UInt8) else 0) = 1 := by
  split
  · exact Or.inr rfl
  · exact Or.inl rfl

theorem fireLed_binary {ctx : AppCtx} (h : ctx.sta = 0 ∨ ctx.sta = 1) :
    (fireLed ctx).sta = 0 ∨ (fireLed ctx).sta = 1 := by
  by_cases hstop : ctx.sta = ctx.oriSta ∧ ctx.times = 0
  · rw [fireLed_stop hstop.1 hstop.2]
    exact h
  · cases htimer : ctx.timerLedEvt with
    | none => simpa [fireLed, htimer] using h
    | some timer =>
        rcases fireLed_turn htimer hstop with ⟨interval, hfire, -⟩
        rw [hfire]
        exact turned_binary ctx.sta

/-- From idle the starter leaves the base state and schedules the callback. -/
theorem lightBlinkStart_idle (ctx : AppCtx) (now : Nat) (times : UInt8)
    (ledOnTime ledOffTime : UInt16) (hidle : ctx.timerLedEvt = none) :
    lightBlinkStart ctx now times ledOnTime ledOffTime =
      { ctx with
        times := times
        sta := if ctx.oriSta = 0 then 1 else 0
        led := if ctx.device_en then !ctx.base else ctx.led
        ledOnTime := ledOnTime
        ledOffTime := ledOffTime
        timerLedEvt := some (Timer.schedule now
          (if ctx.oriSta = 0 then ledOnTime else ledOffTime).toNat) } := by
  by_cases hori : ctx.oriSta = 0
  · cases hen : ctx.device_en with
    | false => simp [lightBlinkStart, hidle, hori, hen, lightOn_eq]
    | true => simp [lightBlinkStart, hidle, hori, hen, lightOn_eq, AppCtx.base]
  · cases hen : ctx.device_en with
    | false => simp [lightBlinkStart, hidle, hori, hen, lightOff_eq]
    | true => simp [lightBlinkStart, hidle, hori, hen, lightOff_eq, AppCtx.base]

/-- While the LED blinks the starter replaces the counter and nothing else. -/
theorem lightBlinkStart_pending (ctx : AppCtx) (now : Nat) (times : UInt8)
    (ledOnTime ledOffTime : UInt16) (hpending : ctx.timerLedEvt ≠ none) :
    lightBlinkStart ctx now times ledOnTime ledOffTime = { ctx with times := times } := by
  simp [lightBlinkStart, hpending]

@[simp]
theorem lightBlinkStop_idle {ctx : AppCtx} (hidle : ctx.timerLedEvt = none) :
    lightBlinkStop ctx = ctx := by
  simp [lightBlinkStop, hidle]

/-- A blink that is stopped leaves the LED in its base state. -/
theorem lightBlinkStop_pending {ctx : AppCtx} (hpending : ctx.timerLedEvt ≠ none) :
    lightBlinkStop ctx =
      { ctx with
        timerLedEvt := none
        times := 0
        led := if ctx.device_en then ctx.base else ctx.led } := by
  rcases ctx with ⟨oriSta, sta, times, ledOnTime, ledOffTime, evt, device_en, led⟩
  by_cases hori : oriSta = 0
  · cases device_en <;> simp_all [lightBlinkStop, lightOff, AppCtx.base]
  · cases device_en <;> simp_all [lightBlinkStop, lightOn, AppCtx.base]

@[simp]
theorem lightBlinkStop_timerLedEvt (ctx : AppCtx) : (lightBlinkStop ctx).timerLedEvt = none := by
  by_cases hidle : ctx.timerLedEvt = none
  · rw [lightBlinkStop_idle hidle, hidle]
  · rw [lightBlinkStop_pending hidle]

@[simp]
theorem lightBlinkStop_oriSta (ctx : AppCtx) : (lightBlinkStop ctx).oriSta = ctx.oriSta := by
  by_cases hidle : ctx.timerLedEvt = none
  · rw [lightBlinkStop_idle hidle]
  · rw [lightBlinkStop_pending hidle]

@[simp]
theorem lightBlinkStart_oriSta (ctx : AppCtx) (now : Nat) (times : UInt8)
    (ledOnTime ledOffTime : UInt16) :
    (lightBlinkStart ctx now times ledOnTime ledOffTime).oriSta = ctx.oriSta := by
  by_cases hidle : ctx.timerLedEvt = none
  · rw [lightBlinkStart_idle ctx now times ledOnTime ledOffTime hidle]
  · rw [lightBlinkStart_pending ctx now times ledOnTime ledOffTime hidle]

/-- The LED shows what the blinking state says, and its base state while it does not
blink. -/
structure Tracks (ctx : AppCtx) : Prop where
  resting : ctx.timerLedEvt = none ∨ ctx.device_en = false → ctx.led = ctx.base
  blinking : ctx.timerLedEvt ≠ none → ctx.device_en = true → ctx.led = decide (ctx.sta ≠ 0)

theorem Tracks.fireLed {ctx : AppCtx} (h : Tracks ctx) : Tracks (fireLed ctx) := by
  by_cases hstop : ctx.sta = ctx.oriSta ∧ ctx.times = 0
  · rw [fireLed_stop hstop.1 hstop.2]
    refine ⟨fun _ => ?_, fun hpending => absurd rfl hpending⟩
    show ctx.led = ctx.base
    cases hen : ctx.device_en with
    | false => exact h.resting (Or.inr hen)
    | true =>
        by_cases hpending : ctx.timerLedEvt = none
        · exact h.resting (Or.inl hpending)
        · rw [h.blinking hpending hen, hstop.1, AppCtx.base]
  · cases htimer : ctx.timerLedEvt with
    | none => simpa [Led.fireLed, htimer] using h
    | some timer =>
        rcases fireLed_turn htimer hstop with ⟨interval, hfire, -⟩
        rw [hfire]
        constructor
        · intro hrest
          have hen : ctx.device_en = false := by simpa using hrest
          have hled : ctx.led = ctx.base := h.resting (Or.inr hen)
          simp [hen, hled, AppCtx.base]
        · intro hpending hen
          have hen : ctx.device_en = true := hen
          by_cases hzero : ctx.sta = 0
          · simp [hen, hzero]
          · simp [hen, hzero]

theorem Tracks.lightBlinkStart {ctx : AppCtx} (h : Tracks ctx) (now : Nat) (times : UInt8)
    (ledOnTime ledOffTime : UInt16) :
    Tracks (lightBlinkStart ctx now times ledOnTime ledOffTime) := by
  by_cases hidle : ctx.timerLedEvt = none
  · rw [lightBlinkStart_idle ctx now times ledOnTime ledOffTime hidle]
    constructor
    · intro hrest
      have hen : ctx.device_en = false := by simpa using hrest
      have hled : ctx.led = ctx.base := h.resting (Or.inr hen)
      simp [hen, hled, AppCtx.base]
    · intro hpending hen
      have hen : ctx.device_en = true := hen
      by_cases hori : ctx.oriSta = 0
      · simp [hen, hori, AppCtx.base]
      · simp [hen, hori, AppCtx.base]
  · rw [lightBlinkStart_pending ctx now times ledOnTime ledOffTime hidle]
    exact ⟨h.resting, h.blinking⟩

theorem Tracks.lightBlinkStop {ctx : AppCtx} (h : Tracks ctx) :
    Tracks (lightBlinkStop ctx) := by
  by_cases hidle : ctx.timerLedEvt = none
  · rwa [lightBlinkStop_idle hidle]
  · rw [lightBlinkStop_pending hidle]
    refine ⟨fun _ => ?_, fun hpending => absurd rfl hpending⟩
    cases hen : ctx.device_en with
    | false => simpa [AppCtx.base] using h.resting (Or.inr hen)
    | true => rfl

/-! ## Pulses -/

/-- The LED now and after each of the next callbacks. -/
def ledTrace : Nat → AppCtx → List Bool
  | 0, ctx => [ctx.led]
  | k + 1, ctx => ctx.led :: ledTrace k (fireLed ctx)

/-- How often a sequence of states leaves the base state. -/
def pulses (base : Bool) : List Bool → Nat
  | a :: b :: rest => (if a = base ∧ b ≠ base then 1 else 0) + pulses base (b :: rest)
  | _ => 0

/-- The timer of the LED stops itself with the {lit}`k`-th callback. -/
def StopsAfter : Nat → AppCtx → Prop
  | 0, ctx => ctx.timerLedEvt = none
  | k + 1, ctx => ctx.timerLedEvt ≠ none ∧ StopsAfter k (fireLed ctx)

/-- The blink makes so many pulses and then stops, with the LED in its base state
and no timer pending. -/
def BlinkCount (ctx : AppCtx) (now : Nat) (times : UInt8) (ledOnTime ledOffTime : UInt16)
    (count : Nat) : Prop :=
  ∃ k, StopsAfter k (lightBlinkStart ctx now times ledOnTime ledOffTime) ∧
    (fireLed^[k] (lightBlinkStart ctx now times ledOnTime ledOffTime)).led = ctx.base ∧
    pulses ctx.base
      (ctx.base :: ledTrace k (lightBlinkStart ctx now times ledOnTime ledOffTime)) = count

theorem StopsAfter.unique {k k' : Nat} {ctx : AppCtx} (h : StopsAfter k ctx)
    (h' : StopsAfter k' ctx) : k = k' := by
  induction k generalizing k' ctx with
  | zero =>
      cases k' with
      | zero => rfl
      | succ k' => exact absurd h h'.1
  | succ k ih =>
      cases k' with
      | zero => exact absurd h' h.1
      | succ k' => rw [ih h.2 h'.2]

/-! ## A blinking LED -/

/-- The LED blinks: it is away from its base state or in it, with so many pulses
still on the counter. -/
structure Blinking (ctx : AppCtx) (away : Bool) (count : Nat) : Prop where
  pending : ctx.timerLedEvt ≠ none
  enabled : ctx.device_en = true
  oriSta : ctx.oriSta = 0 ∨ ctx.oriSta = 1
  sta : ctx.sta = if away then (if ctx.oriSta = 0 then 1 else 0) else ctx.oriSta
  times : ctx.times.toNat = count
  led : ctx.led = if away then !ctx.base else ctx.base

/-- A blinking LED that does not stop turns over. -/
theorem Blinking.turn {ctx : AppCtx} {away : Bool} {m : Nat} (h : Blinking ctx away m)
    (hturn : ¬ (ctx.sta = ctx.oriSta ∧ ctx.times = 0)) :
    ∃ evt, fireLed ctx =
      { ctx with
        times := if ctx.sta = ctx.oriSta then ctx.times - 1 else ctx.times
        sta := if ctx.sta = 0 then 1 else 0
        led := decide (ctx.sta = 0)
        timerLedEvt := some evt } := by
  rcases Option.ne_none_iff_exists'.mp h.pending with ⟨timer, htimer⟩
  rcases fireLed_turn htimer hturn with ⟨interval, hfire, -⟩
  rw [if_pos h.enabled] at hfire
  exact ⟨_, hfire⟩

/-- A pulse ends, whatever is on the counter. -/
theorem Blinking.fire_away {ctx : AppCtx} {m : Nat} (h : Blinking ctx true m) :
    Blinking (fireLed ctx) false m ∧ (fireLed ctx).base = ctx.base := by
  have hsta : ctx.sta = if ctx.oriSta = 0 then 1 else 0 := h.sta
  have hne : ctx.sta ≠ ctx.oriSta := by
    rw [hsta]
    exact turned_ne ctx.oriSta
  rcases h.turn (fun hstop => hne hstop.1) with ⟨evt, hfire⟩
  rw [if_neg hne] at hfire
  rw [hfire]
  refine ⟨⟨by simp, h.enabled, h.oriSta, ?_, h.times, ?_⟩, rfl⟩
  · rcases h.oriSta with hori | hori <;> simp [hsta, hori]
  · rcases h.oriSta with hori | hori <;> simp [hsta, hori, AppCtx.base]

/-- A further pulse begins, at the cost of one on the counter. -/
theorem Blinking.fire_base {ctx : AppCtx} {m : Nat} (h : Blinking ctx false (m + 1)) :
    Blinking (fireLed ctx) true m ∧ (fireLed ctx).base = ctx.base := by
  have hsta : ctx.sta = ctx.oriSta := h.sta
  have hcount : ctx.times.toNat = m + 1 := h.times
  have hpos : ctx.times ≠ 0 := by
    intro hzero
    rw [hzero] at hcount
    exact absurd hcount.symm (Nat.succ_ne_zero m)
  have htimes : (ctx.times - 1).toNat = m :=
    Nat.succ.inj ((times_sub_one hpos).trans hcount)
  rcases h.turn (fun hstop => hpos hstop.2) with ⟨evt, hfire⟩
  rw [if_pos hsta, hsta] at hfire
  rw [hfire]
  exact ⟨⟨by simp, h.enabled, h.oriSta, by simp, htimes, by simp [AppCtx.base]⟩, rfl⟩

/-- The callback that finds the counter at zero stops the timer. -/
theorem Blinking.fire_last {ctx : AppCtx} (h : Blinking ctx false 0) :
    fireLed ctx = { ctx with timerLedEvt := none } :=
  fireLed_stop h.sta (UInt8.toNat_inj.mp h.times)

/-- The head of a trace is the LED now. -/
theorem pulses_cons_ledTrace (base a : Bool) (k : Nat) (ctx : AppCtx) :
    pulses base (a :: ledTrace k ctx) =
      (if a = base ∧ ctx.led ≠ base then 1 else 0) + pulses base (ledTrace k ctx) := by
  cases k with
  | zero => rfl
  | succ k => rfl

/-- A LED in its base state makes one pulse for each on the counter, two callbacks
each, and one more callback stops it. -/
theorem Blinking.run {ctx : AppCtx} {m : Nat} (h : Blinking ctx false m) :
    StopsAfter (2 * m + 1) ctx ∧ (fireLed^[2 * m + 1] ctx).led = ctx.base ∧
      pulses ctx.base (ledTrace (2 * m + 1) ctx) = m := by
  induction m generalizing ctx with
  | zero =>
      have hlast := h.fire_last
      have hled : ctx.led = ctx.base := h.led
      refine ⟨⟨h.pending, ?_⟩, ?_, ?_⟩
      · rw [StopsAfter, hlast]
      · simp [hlast, hled]
      · simp [ledTrace, pulses, hlast, hled]
  | succ m ih =>
      rcases h.fire_base with ⟨haway, hbase⟩
      rcases haway.fire_away with ⟨hnext, hbase'⟩
      rcases ih hnext with ⟨hstops, hled, hpulses⟩
      have hnext_base : (fireLed (fireLed ctx)).base = ctx.base := hbase'.trans hbase
      have hctx_led : ctx.led = ctx.base := h.led
      have haway_led : (fireLed ctx).led = !ctx.base := by rw [← hbase]; exact haway.led
      refine ⟨⟨h.pending, haway.pending, hstops⟩, hled.trans hnext_base, ?_⟩
      show pulses ctx.base
        (ctx.led :: (fireLed ctx).led :: ledTrace (2 * m + 1) (fireLed (fireLed ctx))) = m + 1
      have hrest : pulses ctx.base
          ((fireLed ctx).led :: ledTrace (2 * m + 1) (fireLed (fireLed ctx))) = m := by
        rw [pulses_cons_ledTrace, haway_led, ← hnext_base, hpulses]
        simp
      rw [pulses, hrest, hctx_led, haway_led]
      simp [Nat.add_comm]

/-! ## From idle -/

/-- From idle the starter makes the first pulse itself and leaves the whole count to
the callback. -/
theorem lightBlinkStart_blinking (ctx : AppCtx) (now : Nat) (times : UInt8)
    (ledOnTime ledOffTime : UInt16) (hidle : ctx.timerLedEvt = none)
    (hori : ctx.oriSta.toNat ≤ 1) (hen : ctx.device_en = true) :
    Blinking (lightBlinkStart ctx now times ledOnTime ledOffTime) true times.toNat := by
  have hori' : ctx.oriSta = 0 ∨ ctx.oriSta = 1 := by
    rcases Nat.le_one_iff_eq_zero_or_eq_one.mp hori with hzero | hone
    · exact Or.inl (UInt8.toNat_inj.mp hzero)
    · exact Or.inr (UInt8.toNat_inj.mp hone)
  rw [lightBlinkStart_idle ctx now times ledOnTime ledOffTime hidle]
  constructor
  case pending => simp
  case enabled => exact hen
  case oriSta => exact hori'
  case sta => rfl
  case times => rfl
  case led => simp [hen, AppCtx.base]

/-- With an LED whose base state is off or on, a blink makes one pulse more than it
is asked for. -/
theorem blinkCount_succ (ctx : AppCtx) (now : Nat) (times : UInt8)
    (ledOnTime ledOffTime : UInt16) (hidle : ctx.timerLedEvt = none)
    (hori : ctx.oriSta.toNat ≤ 1) (hen : ctx.device_en = true) :
    BlinkCount ctx now times ledOnTime ledOffTime (times.toNat + 1) := by
  have hstart :=
    lightBlinkStart_blinking ctx now times ledOnTime ledOffTime hidle hori hen
  have hbase : (lightBlinkStart ctx now times ledOnTime ledOffTime).base = ctx.base := by
    rw [AppCtx.base, AppCtx.base, lightBlinkStart_oriSta]
  unfold BlinkCount
  generalize lightBlinkStart ctx now times ledOnTime ledOffTime = start at hstart hbase ⊢
  rw [← hbase]
  rcases hstart.fire_away with ⟨hnext, hnext_base⟩
  rcases hnext.run with ⟨hstops, hled, hpulses⟩
  refine ⟨2 * times.toNat + 2, ⟨hstart.pending, hstops⟩, hled.trans hnext_base, ?_⟩
  have hstart_led : start.led = !start.base := hstart.led
  have hrest : pulses start.base (ledTrace (2 * times.toNat + 2) start) = times.toNat := by
    show pulses start.base (start.led :: ledTrace (2 * times.toNat + 1) (fireLed start)) = _
    rw [pulses_cons_ledTrace, hstart_led, ← hnext_base, hpulses]
    simp
  rw [pulses_cons_ledTrace, hrest, hstart_led]
  simp [Nat.add_comm]

/-! ## Where no blink ends -/

/-- Without an LED the trace stays where it is, and there is no pulse in it. -/
theorem pulses_of_disabled {ctx : AppCtx} (hen : ctx.device_en = false) (k : Nat) :
    (fireLed^[k] ctx).led = ctx.led ∧ pulses ctx.led (ledTrace k ctx) = 0 := by
  induction k generalizing ctx with
  | zero => exact ⟨rfl, rfl⟩
  | succ k ih =>
      have hled := (fireLed_frame ctx).led hen
      rcases ih ((fireLed_frame ctx).device_en.trans hen) with ⟨hlast, hpulses⟩
      refine ⟨hlast.trans hled, ?_⟩
      rw [ledTrace, pulses_cons_ledTrace, ← hled, hpulses]
      simp

/-- A base state that the blinking state never takes: the callback always reschedules
itself. -/
theorem fireLed_of_large {ctx : AppCtx} (hpending : ctx.timerLedEvt ≠ none)
    (hori : 1 < ctx.oriSta.toNat) (hsta : ctx.sta.toNat ≤ 1) :
    (fireLed ctx).timerLedEvt ≠ none ∧ (fireLed ctx).sta.toNat ≤ 1 := by
  have hne : ctx.sta ≠ ctx.oriSta := by
    intro heq
    rw [heq] at hsta
    exact absurd hsta (Nat.not_le.mpr hori)
  rcases Option.ne_none_iff_exists'.mp hpending with ⟨timer, htimer⟩
  rcases fireLed_turn htimer (fun hstop => hne hstop.1) with ⟨interval, hfire, -⟩
  rw [hfire]
  refine ⟨by simp, ?_⟩
  show (if ctx.sta = 0 then (1 : UInt8) else 0).toNat ≤ 1
  split
  · exact Nat.le_refl 1
  · exact Nat.zero_le 1

theorem not_stopsAfter_of_large {ctx : AppCtx} (hpending : ctx.timerLedEvt ≠ none)
    (hori : 1 < ctx.oriSta.toNat) (hsta : ctx.sta.toNat ≤ 1) (k : Nat) :
    ¬ StopsAfter k ctx := by
  induction k generalizing ctx with
  | zero => exact hpending
  | succ k ih =>
      intro hstops
      rcases fireLed_of_large hpending hori hsta with ⟨hpending', hsta'⟩
      have hori' : 1 < (fireLed ctx).oriSta.toNat := by rw [(fireLed_frame ctx).oriSta]; exact hori
      exact ih hpending' hori' hsta' hstops.2

/-! ## The blink count -/

/-- A blink has one count at most. -/
theorem BlinkCount.unique {ctx : AppCtx} {now : Nat} {times : UInt8}
    {ledOnTime ledOffTime : UInt16} {count count' : Nat}
    (h : BlinkCount ctx now times ledOnTime ledOffTime count)
    (h' : BlinkCount ctx now times ledOnTime ledOffTime count') : count = count' := by
  rcases h with ⟨k, hstops, -, hcount⟩
  rcases h' with ⟨k', hstops', -, hcount'⟩
  rw [← hcount, ← hcount', hstops.unique hstops']

/-- A blink that ends, ends without a pulse where there is no LED. -/
theorem blinkCount_of_disabled {ctx : AppCtx} {now : Nat} {times : UInt8}
    {ledOnTime ledOffTime : UInt16} {count : Nat} (hidle : ctx.timerLedEvt = none)
    (hen : ctx.device_en = false)
    (h : BlinkCount ctx now times ledOnTime ledOffTime count) : count = 0 := by
  have hstart := lightBlinkStart_idle ctx now times ledOnTime ledOffTime hidle
  have hstart_en : (lightBlinkStart ctx now times ledOnTime ledOffTime).device_en = false := by
    rw [hstart]
    exact hen
  rcases h with ⟨k, -, hled, hcount⟩
  rcases pulses_of_disabled hstart_en k with ⟨hlast, hpulses⟩
  rw [hlast] at hled
  rw [pulses_cons_ledTrace, ← hled, hpulses] at hcount
  rw [← hcount]
  simp

/-- A blink never ends where the base state is none that the blinking state takes. -/
theorem not_blinkCount_of_large {ctx : AppCtx} {now : Nat} {times : UInt8}
    {ledOnTime ledOffTime : UInt16} {count : Nat} (hidle : ctx.timerLedEvt = none)
    (hori : 1 < ctx.oriSta.toNat) :
    ¬ BlinkCount ctx now times ledOnTime ledOffTime count := by
  rintro ⟨k, hstops, -⟩
  have hstart := lightBlinkStart_idle ctx now times ledOnTime ledOffTime hidle
  have hpending : (lightBlinkStart ctx now times ledOnTime ledOffTime).timerLedEvt ≠ none := by
    rw [hstart]
    simp
  have hstart_ori :
      1 < (lightBlinkStart ctx now times ledOnTime ledOffTime).oriSta.toNat := by
    rw [hstart]
    exact hori
  have hstart_sta :
      (lightBlinkStart ctx now times ledOnTime ledOffTime).sta.toNat ≤ 1 := by
    rw [hstart]
    show (if ctx.oriSta = 0 then (1 : UInt8) else 0).toNat ≤ 1
    split
    · exact Nat.le_refl 1
    · exact Nat.zero_le 1
  exact not_stopsAfter_of_large hpending hstart_ori hstart_sta k hstops

/-- No blink of one time or more makes as many pulses as it is asked for. Where the
base state is off or on and there is an LED, it makes exactly one more. -/
theorem blink_count_never (ctx : AppCtx) (now : Nat) (times : UInt8)
    (ledOnTime ledOffTime : UInt16) (hidle : ctx.timerLedEvt = none)
    (htimes : 1 ≤ times.toNat) :
    ¬ BlinkCount ctx now times ledOnTime ledOffTime times.toNat ∧
      (ctx.oriSta.toNat ≤ 1 → ctx.device_en = true →
        BlinkCount ctx now times ledOnTime ledOffTime (times.toNat + 1)) := by
  constructor
  · intro hcount
    by_cases hori : ctx.oriSta.toNat ≤ 1
    · cases hen : ctx.device_en with
      | false =>
          have hzero := blinkCount_of_disabled hidle hen hcount
          rw [hzero] at htimes
          exact absurd htimes (Nat.not_succ_le_zero 0)
      | true =>
          have hsucc := blinkCount_succ ctx now times ledOnTime ledOffTime hidle hori hen
          exact absurd (hsucc.unique hcount) (Nat.succ_ne_self _)
    · exact not_blinkCount_of_large hidle (Nat.not_le.mp hori) hcount
  · intro hori hen
    exact blinkCount_succ ctx now times ledOnTime ledOffTime hidle hori hen

/-- The blink of a key press, {lit}`light_blink_start(1, 30, 1)`, makes two pulses. -/
theorem blink_count_never_key :
    ¬ BlinkCount {} 0 1 30 1 1 ∧ BlinkCount {} 0 1 30 1 2 :=
  ⟨(blink_count_never {} 0 1 30 1 rfl (by decide)).1,
    (blink_count_never {} 0 1 30 1 rfl (by decide)).2 (by decide) rfl⟩

/-- Four callbacks after a key press the LED went on twice and rests, so it did not
blink once. -/
theorem blink_count_twice : ¬ BlinkCount {} 0 1 30 1 1 := by
  have hcount : BlinkCount {} 0 1 30 1 2 :=
    ⟨4, by simp only [StopsAfter]; decide, by decide, by decide⟩
  intro hone
  exact absurd (hcount.unique hone) (by decide)

end Led
