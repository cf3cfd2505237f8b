import TuyaMiniSwitch.App.Button
import TuyaMiniSwitch.App.Led
import TuyaMiniSwitch.App.Steering

/-!
# Application - The window behind a factory reset

A factory reset opens a window of 90 seconds: it sets {lit}`net_steer_start`, lets the LED
blink and posts a timer that closes the window.  The handle of the timer is thrown away,
so nothing cancels it, and its callback does not know which window it was posted for.

Main results:

- Theorem {lit}`right_step`: what the flag, the last request and the timers have in common.
- Theorem {lit}`kept_step_iff`: the one step that breaks the promise of a window.
- Theorem {lit}`window_kept_iff`: when no window is closed before its time.
-/

namespace SteerWindow

open Led Machine Firmware
open Steering (CommissionSta InitStatus Jitter scheduleSteer cancelSteer)

def TIMEOUT_1MIN30SEC : Nat := 90 * 1000

/-! ## The code -/

/-- The LED and {lit}`net_steer_start` in {lit}`g_appCtx`, the pending timers of
{lit}`net_steer_start_offCb`, and the moment of the last event. -/
structure State where
  g_appCtx : AppCtx := {}
  net_steer_start : Bool := false
  windows : List Timer := []
  now : Nat := 0
  deriving Repr, DecidableEq

/-- What both requests do behind {lit}`zb_factoryReset`. -/
def openWindow (s : State) : State where
  g_appCtx := lightBlinkStart s.g_appCtx s.now 90 250 750
  net_steer_start := true
  windows := s.windows ++ [Timer.schedule s.now TIMEOUT_1MIN30SEC]
  now := s.now

/-- {lit}`buttonKeepPressed`. -/
def buttonKeepPressed (s : State) (btNum device_switch_model : UInt8) : State :=
  if btNum = VK_SW1 ∧ device_switch_model ≠ DEVICE_SWITCH_NONE then openWindow s else s

/-- {lit}`switch_factory_reset_start`. -/
def switchFactoryResetStart (s : State) : State := openWindow s

/-- {lit}`net_steer_start_offCb`, and what it returns. -/
def netSteerStartOffCb (s : State) : State × Int :=
  ({ s with net_steer_start := false, g_appCtx := lightBlinkStop s.g_appCtx }, -1)

/-- {lit}`zb_bdbCommissioningCb`. -/
def zbBdbCommissioningCb (s : State) (status : CommissionSta) : State :=
  if status = .BDB_COMMISSION_STA_SUCCESS then
    { s with
      net_steer_start := false
      g_appCtx := lightBlinkStart s.g_appCtx s.now 2 200 200 }
  else
    s

/-- {lit}`zb_bdbInitCb`. -/
def zbBdbInitCb (s : State) (status : InitStatus) (joinedNetwork : Bool) : State :=
  if status = .BDB_INIT_STATUS_SUCCESS ∧ joinedNetwork then
    { s with net_steer_start := false }
  else
    s

/-- {lit}`app_leaveCnfHandler`. -/
def appLeaveCnfHandler (s : State) (status : UInt8) : State :=
  if status = 0 ∧ ¬s.net_steer_start then
    { s with g_appCtx := lightBlinkStart s.g_appCtx s.now 90 250 750 }
  else
    s

/-- The timer of a window is due and {lit}`ev_timer.c` runs the callback. -/
def fireWindow (s : State) (timer : Timer) : State :=
  let (s, t) := netSteerStartOffCb { s with windows := s.windows.erase timer }
  match timer.again timer.due t with
  | none => s
  | some timer => { s with windows := s.windows ++ [timer] }

/-! ## Runs in time order -/

/-- What can happen: a request, a report of the stack, a timer that is due, and what the
other users of the LED ask for. -/
inductive Event where
  | buttonKeepPressed (now : Nat) (btNum device_switch_model : UInt8)
  | switchFactoryResetStart (now : Nat)
  | zbBdbCommissioningCb (now : Nat) (status : CommissionSta)
  | zbBdbInitCb (now : Nat) (status : InitStatus) (joinedNetwork : Bool)
  | appLeaveCnfHandler (now : Nat) (status : UInt8)
  | netSteerStartOffCb (timer : Timer)
  | zclLightTimerCb
  | lightBlinkStart (now : Nat) (times : UInt8) (ledOnTime ledOffTime : UInt16)
  | lightBlinkStop (now : Nat)
  deriving Repr, DecidableEq

/-- The moment of an event: a timer runs when it is due, if it is pending. -/
def Event.moment (s : State) : Event → Option Nat
  | .buttonKeepPressed now _ _ => some now
  | .switchFactoryResetStart now => some now
  | .zbBdbCommissioningCb now _ => some now
  | .zbBdbInitCb now _ _ => some now
  | .appLeaveCnfHandler now _ => some now
  | .netSteerStartOffCb timer => if timer ∈ s.windows then some timer.due else none
  | .zclLightTimerCb => s.g_appCtx.timerLedEvt.map Timer.due
  | .lightBlinkStart now _ _ _ => some now
  | .lightBlinkStop now => some now

/-- What the event does. -/
def act (s : State) : Event → State
  | .buttonKeepPressed _ btNum device_switch_model =>
      SteerWindow.buttonKeepPressed s btNum device_switch_model
  | .switchFactoryResetStart _ => switchFactoryResetStart s
  | .zbBdbCommissioningCb _ status => SteerWindow.zbBdbCommissioningCb s status
  | .zbBdbInitCb _ status joinedNetwork => SteerWindow.zbBdbInitCb s status joinedNetwork
  | .appLeaveCnfHandler _ status => SteerWindow.appLeaveCnfHandler s status
  | .netSteerStartOffCb timer => fireWindow s timer
  | .zclLightTimerCb => { s with g_appCtx := fireLed s.g_appCtx }
  | .lightBlinkStart _ times ledOnTime ledOffTime =>
      { s with g_appCtx := Led.lightBlinkStart s.g_appCtx s.now times ledOnTime ledOffTime }
  | .lightBlinkStop _ => { s with g_appCtx := Led.lightBlinkStop s.g_appCtx }

def step (s : State) (e : Event) : State :=
  match e.moment s with
  | none => s
  | some now => act { s with now := now } e

/-- No pending timer is due before the moment, and time does not go back. -/
def InTime (s : State) (now : Nat) : Prop :=
  s.now ≤ now ∧ (∀ timer ∈ s.windows, now ≤ timer.due) ∧
    ∀ timer ∈ s.g_appCtx.timerLedEvt, now ≤ timer.due

instance (s : State) (now : Nat) : Decidable (InTime s now) :=
  inferInstanceAs (Decidable (s.now ≤ now ∧ (∀ timer ∈ s.windows, now ≤ timer.due) ∧
    ∀ timer ∈ s.g_appCtx.timerLedEvt, now ≤ timer.due))

/-- Events come in the order of time.  What is due at the same moment comes in any
order. -/
def InOrder (s : State) (e : Event) : Prop :=
  ∃ now ∈ e.moment s, InTime s now

instance (s : State) : DecidablePred (InOrder s) := fun e =>
  inferInstanceAs (Decidable (∃ now ∈ e.moment s, InTime s now))

/-! ## The promise of a window -/

/-- What an observer keeps: the moment of the last request if neither a success nor a join
has been reported since, and whether {lit}`net_steer_start_offCb` has stopped the blink
since. -/
structure Watch where
  opened : Option Nat := none
  stopped : Bool := false
  deriving Repr, DecidableEq

def Watch.next (w : Watch) (s : State) : Event → Watch
  | .buttonKeepPressed now btNum device_switch_model =>
      if btNum = VK_SW1 ∧ device_switch_model ≠ DEVICE_SWITCH_NONE then { opened := some now }
      else w
  | .switchFactoryResetStart now => { opened := some now }
  | .zbBdbCommissioningCb _ status =>
      if status = .BDB_COMMISSION_STA_SUCCESS then { w with opened := none } else w
  | .zbBdbInitCb _ status joinedNetwork =>
      if status = .BDB_INIT_STATUS_SUCCESS ∧ joinedNetwork then { w with opened := none } else w
  | .netSteerStartOffCb _ =>
      { w with stopped := w.stopped || decide (s.g_appCtx.timerLedEvt ≠ none) }
  | .appLeaveCnfHandler _ _ => w
  | .zclLightTimerCb => w
  | .lightBlinkStart _ _ _ _ => w
  | .lightBlinkStop _ => w

/-- A step, and what the observer makes of it. -/
def followStep (s : State × Watch) (e : Event) : State × Watch :=
  (step s.1 e, s.2.next s.1 e)

/-- A run with its observer. -/
def follow (s : State) (es : List Event) : State × Watch :=
  run followStep (s, {}) es

/-- Before the 90 seconds of the last request have passed, the flag is set and its blink
has not been stopped by the callback of a window. -/
def Kept (s : State × Watch) : Prop :=
  ∀ t ∈ s.2.opened, s.1.now < t + TIMEOUT_1MIN30SEC →
    s.1.net_steer_start = true ∧ s.2.stopped = false

/-- No window is pending, and the flag is clear. -/
def Closed (s : State) : Prop :=
  s.windows = [] ∧ s.net_steer_start = false

/-- When the timer of a window expires, the flag is already clear, or no window of a newer
request is pending. -/
def Youngest (s : State) : Event → Prop
  | .netSteerStartOffCb timer =>
      s.net_steer_start = true → ∀ other ∈ s.windows, other.due ≤ timer.due
  | _ => True

instance (s : State) : DecidablePred (Youngest s)
  | .netSteerStartOffCb timer =>
      inferInstanceAs (Decidable (s.net_steer_start = true → ∀ other ∈ s.windows,
        other.due ≤ timer.due))
  | .buttonKeepPressed _ _ _ => inferInstanceAs (Decidable True)
  | .switchFactoryResetStart _ => inferInstanceAs (Decidable True)
  | .zbBdbCommissioningCb _ _ => inferInstanceAs (Decidable True)
  | .zbBdbInitCb _ _ _ => inferInstanceAs (Decidable True)
  | .appLeaveCnfHandler _ _ => inferInstanceAs (Decidable True)
  | .zclLightTimerCb => inferInstanceAs (Decidable True)
  | .lightBlinkStart _ _ _ _ => inferInstanceAs (Decidable True)
  | .lightBlinkStop _ => inferInstanceAs (Decidable True)

/-! ## The flag in the other models -/

/-- A long press opens a window exactly when it resets the device. -/
theorem buttonKeepPressed_eq (s : State) (d : Device) (btNum : UInt8) :
    SteerWindow.buttonKeepPressed s btNum d.device_switch_model =
      if (Firmware.buttonKeepPressed d btNum).outputs = d.outputs ++ [.zbFactoryReset] then
        openWindow s
      else s := by
  by_cases hrequest : btNum = VK_SW1 ∧ d.device_switch_model ≠ DEVICE_SWITCH_NONE
  · simp [SteerWindow.buttonKeepPressed, Firmware.buttonKeepPressed, hrequest, Device.output]
  · rw [SteerWindow.buttonKeepPressed, Firmware.buttonKeepPressed, if_neg hrequest]
    simp [hrequest]

section Steering

variable {s : State} {app app' : Steering.App}

theorem cancelSteer_flag (app : Steering.App) :
    (cancelSteer app).net_steer_start = app.net_steer_start := by
  unfold cancelSteer
  split
  · rfl
  · rfl

theorem scheduleSteer_flag {jitter : Nat} (hcb : scheduleSteer app jitter = some app') :
    app'.net_steer_start = app.net_steer_start := by
  unfold scheduleSteer at hcb
  dsimp only at hcb
  split at hcb
  · cases hcb
    exact cancelSteer_flag app
  · cases hcb

/-- The flag is that of the steering model, behind every report of a procedure. -/
theorem zbBdbCommissioningCb_flag {status : CommissionSta} {jitter : Jitter 0x2710 5000}
    (hflag : s.net_steer_start = app.net_steer_start)
    (hcb : Steering.zbBdbCommissioningCb app status jitter = some app') :
    (SteerWindow.zbBdbCommissioningCb s status).net_steer_start = app'.net_steer_start := by
  unfold SteerWindow.zbBdbCommissioningCb
  cases status with
  | BDB_COMMISSION_STA_SUCCESS =>
      cases hcb
      have hclear := cancelSteer_flag
        (({ app with heartInterval := 1000, net_steer_start := false } : Steering.App).request
          (.lightBlinkStart 2 200 200))
      exact hclear.symm
  | BDB_COMMISSION_STA_NO_NETWORK => exact hflag.trans (scheduleSteer_flag hcb).symm
  | BDB_COMMISSION_STA_TCLK_EX_FAILURE => exact hflag.trans (scheduleSteer_flag hcb).symm
  | BDB_COMMISSION_STA_TARGET_FAILURE => exact hflag.trans (scheduleSteer_flag hcb).symm
  | _ =>
      cases hcb
      exact hflag

/-- So it is behind the initialisation. -/
theorem zbBdbInitCb_flag {status : InitStatus} {joinedNetwork : Bool} {jitter : Jitter 0x0fff 1}
    (hflag : s.net_steer_start = app.net_steer_start)
    (hcb : Steering.zbBdbInitCb app status joinedNetwork jitter = some app') :
    (SteerWindow.zbBdbInitCb s status joinedNetwork).net_steer_start = app'.net_steer_start := by
  unfold SteerWindow.zbBdbInitCb
  unfold Steering.zbBdbInitCb at hcb
  cases status with
  | BDB_INIT_STATUS_FAILURE =>
      cases hcb
      exact hflag
  | BDB_INIT_STATUS_SUCCESS =>
      cases joinedNetwork with
      | true =>
          cases hcb
          rfl
      | false => exact hflag.trans (scheduleSteer_flag hcb).symm

end Steering

/-! ## What a step can do -/

/-- The kinds of steps: a request opens a window, a success or a join is reported, a window
expires, and the others leave flag, windows and observer as they are. -/
inductive Change (s s' : State × Watch) (now : Nat) (e : Event) : Prop where
  | opens (hevent : ∀ timer, e ≠ .netSteerStartOffCb timer)
      (hflag : s'.1.net_steer_start = true) (hwatch : s'.2 = { opened := some now })
      (hwindows : s'.1.windows = s.1.windows ++ [Timer.schedule now TIMEOUT_1MIN30SEC])
  | reports (hevent : ∀ timer, e ≠ .netSteerStartOffCb timer)
      (hflag : s'.1.net_steer_start = false) (hwatch : s'.2.opened = none)
      (hwindows : s'.1.windows = s.1.windows)
  | expires (timer : Timer) (hevent : e = .netSteerStartOffCb timer)
      (hmem : timer ∈ s.1.windows) (hdue : timer.due = now)
      (hflag : s'.1.net_steer_start = false) (hwatch : s'.2.opened = s.2.opened)
      (hwindows : s'.1.windows = s.1.windows.erase timer)
  | quiet (hevent : ∀ timer, e ≠ .netSteerStartOffCb timer)
      (hflag : s'.1.net_steer_start = s.1.net_steer_start) (hwatch : s'.2 = s.2)
      (hwindows : s'.1.windows = s.1.windows)

/-- No event but a step changes the moment. -/
theorem act_now (s : State) (e : Event) : (act s e).now = s.now := by
  cases e with
  | buttonKeepPressed now btNum device_switch_model =>
      simp only [act, SteerWindow.buttonKeepPressed]
      split <;> rfl
  | switchFactoryResetStart now => rfl
  | zbBdbCommissioningCb now status =>
      simp only [act, SteerWindow.zbBdbCommissioningCb]
      split <;> rfl
  | zbBdbInitCb now status joinedNetwork =>
      simp only [act, SteerWindow.zbBdbInitCb]
      split <;> rfl
  | appLeaveCnfHandler now status =>
      simp only [act, SteerWindow.appLeaveCnfHandler]
      split <;> rfl
  | netSteerStartOffCb timer => rfl
  | zclLightTimerCb => rfl
  | lightBlinkStart now times ledOnTime ledOffTime => rfl
  | lightBlinkStop now => rfl

/-- An event that does nothing is a quiet one. -/
theorem change_of_idle {s : State × Watch} {now : Nat} {e : Event}
    (hevent : ∀ timer, e ≠ .netSteerStartOffCb timer)
    (hact : act { s.1 with now := now } e = { s.1 with now := now })
    (hnext : s.2.next s.1 e = s.2) :
    Change s (act { s.1 with now := now } e, s.2.next s.1 e) now e := by
  refine .quiet hevent ?_ hnext ?_
  · rw [hact]
  · rw [hact]

/-- What an event does at its moment is of one of the kinds. -/
theorem act_change (s : State × Watch) {now : Nat} {e : Event} (hmoment : e.moment s.1 = some now) :
    Change s (act { s.1 with now := now } e, s.2.next s.1 e) now e := by
  cases e with
  | buttonKeepPressed now' btNum device_switch_model =>
      cases hmoment
      by_cases hrequest : btNum = VK_SW1 ∧ device_switch_model ≠ DEVICE_SWITCH_NONE
      · refine .opens (by simp) ?_ ?_ ?_
        · simp [act, SteerWindow.buttonKeepPressed, hrequest, openWindow]
        · simp [Watch.next, hrequest]
        · simp [act, SteerWindow.buttonKeepPressed, hrequest, openWindow]
      · exact change_of_idle (by simp) (if_neg hrequest) (if_neg hrequest)
  | switchFactoryResetStart now' =>
      cases hmoment
      exact .opens (by simp) rfl rfl rfl
  | zbBdbCommissioningCb now' status =>
      cases hmoment
      by_cases hsuccess : status = .BDB_COMMISSION_STA_SUCCESS
      · refine .reports (by simp) ?_ ?_ ?_
        · rw [act, SteerWindow.zbBdbCommissioningCb, if_pos hsuccess]
        · rw [Watch.next, if_pos hsuccess]
        · rw [act, SteerWindow.zbBdbCommissioningCb, if_pos hsuccess]
      · exact change_of_idle (by simp) (if_neg hsuccess) (if_neg hsuccess)
  | zbBdbInitCb now' status joinedNetwork =>
      cases hmoment
      by_cases hjoin : status = .BDB_INIT_STATUS_SUCCESS ∧ joinedNetwork = true
      · refine .reports (by simp) ?_ ?_ ?_
        · rw [act, SteerWindow.zbBdbInitCb, if_pos hjoin]
        · rw [Watch.next, if_pos hjoin]
        · rw [act, SteerWindow.zbBdbInitCb, if_pos hjoin]
      · exact change_of_idle (by simp) (if_neg hjoin) (if_neg hjoin)
  | appLeaveCnfHandler now' status =>
      cases hmoment
      refine .quiet (by simp) ?_ rfl ?_
      · rw [act, SteerWindow.appLeaveCnfHandler]
        split <;> rfl
      · rw [act, SteerWindow.appLeaveCnfHandler]
        split <;> rfl
  | netSteerStartOffCb timer =>
      rw [Event.moment] at hmoment
      split at hmoment
      · rename_i hmem
        cases hmoment
        exact .expires timer rfl hmem rfl rfl rfl rfl
      · cases hmoment
  | zclLightTimerCb => exact .quiet (by simp) rfl rfl rfl
  | lightBlinkStart now' times ledOnTime ledOffTime => exact .quiet (by simp) rfl rfl rfl
  | lightBlinkStop now' => exact .quiet (by simp) rfl rfl rfl

/-- A step in its order is of one of the kinds, at a moment in its time. -/
theorem step_change {s : State × Watch} {e : Event} (horder : InOrder s.1 e) :
    ∃ now, InTime s.1 now ∧ (followStep s e).1.now = now ∧ Change s (followStep s e) now e := by
  rcases horder with ⟨now, hmoment, htime⟩
  have hmoment : e.moment s.1 = some now := hmoment
  have hstep : followStep s e = (act { s.1 with now := now } e, s.2.next s.1 e) := by
    rw [followStep, step, hmoment]
  rw [hstep]
  exact ⟨now, htime, act_now _ e, act_change s hmoment⟩

/-! ## The windows and the last request -/

/-- A set flag has its request.  The window of the last request is pending until it expires,
and no other is due after it. -/
structure Right (s : State × Watch) : Prop where
  known : s.1.net_steer_start = true → s.2.opened ≠ none
  past : ∀ t ∈ s.2.opened, t ≤ s.1.now
  pending : ∀ t ∈ s.2.opened, s.1.now < t + TIMEOUT_1MIN30SEC →
    ∃ timer ∈ s.1.windows, timer.due = t + TIMEOUT_1MIN30SEC
  latest : ∀ t ∈ s.2.opened, ∀ timer ∈ s.1.windows, timer.due ≤ t + TIMEOUT_1MIN30SEC
  bounded : ∀ timer ∈ s.1.windows, timer.due ≤ s.1.now + TIMEOUT_1MIN30SEC

theorem Closed.right {s : State} (h : Closed s) : Right (s, {}) := by
  constructor
  case known =>
    intro hflag
    rw [h.2] at hflag
    cases hflag
  case past => simp
  case pending => simp
  case latest => simp
  case bounded => simp [h.1]

/-- They stay right when time passes and windows expire, if a window that is still ahead of
the last request does not. -/
theorem Right.later {s s' : State × Watch} (h : Right s)
    (hflag : s'.1.net_steer_start = true → s.1.net_steer_start = true)
    (hopened : s'.2.opened = s.2.opened) (hpast : s.1.now ≤ s'.1.now)
    (hwindows : ∀ timer ∈ s'.1.windows, timer ∈ s.1.windows)
    (hahead : ∀ timer ∈ s.1.windows, s'.1.now < timer.due → timer ∈ s'.1.windows) :
    Right s' := by
  constructor
  case known =>
    intro hset
    rw [hopened]
    exact h.known (hflag hset)
  case past =>
    intro t hmem
    rw [hopened] at hmem
    exact (h.past t hmem).trans hpast
  case pending =>
    intro t hmem hbefore
    rw [hopened] at hmem
    rcases h.pending t hmem (Nat.lt_of_le_of_lt hpast hbefore) with ⟨own, hown, hdue⟩
    exact ⟨own, hahead own hown (by rw [hdue]; exact hbefore), hdue⟩
  case latest =>
    intro t hmem timer htimer
    rw [hopened] at hmem
    exact h.latest t hmem timer (hwindows timer htimer)
  case bounded =>
    intro timer htimer
    exact (h.bounded timer (hwindows timer htimer)).trans (Nat.add_le_add_right hpast _)

/-- A request makes them right: no window is due after its own. -/
theorem Right.request {s s' : State × Watch} (h : Right s) (hpast : s.1.now ≤ s'.1.now)
    (hopened : s'.2.opened = some s'.1.now)
    (hwindows : s'.1.windows =
      s.1.windows ++ [Timer.schedule s'.1.now TIMEOUT_1MIN30SEC]) : Right s' := by
  have hbounded : ∀ timer ∈ s'.1.windows, timer.due ≤ s'.1.now + TIMEOUT_1MIN30SEC := by
    intro timer htimer
    rw [hwindows, List.mem_append, List.mem_singleton] at htimer
    rcases htimer with hold | rfl
    · exact (h.bounded timer hold).trans (Nat.add_le_add_right hpast _)
    · exact Nat.le_refl _
  have hnow : ∀ t ∈ s'.2.opened, t = s'.1.now := by
    intro t hmem
    rw [hopened] at hmem
    exact (Option.some.inj hmem).symm
  constructor
  case known => simp [hopened]
  case past => exact fun t hmem => Nat.le_of_eq (hnow t hmem)
  case pending =>
    intro t hmem _
    rw [hnow t hmem]
    exact ⟨Timer.schedule s'.1.now TIMEOUT_1MIN30SEC, by simp [hwindows], rfl⟩
  case latest =>
    intro t hmem timer htimer
    rw [hnow t hmem]
    exact hbounded timer htimer
  case bounded => exact hbounded

/-- Every step in its order keeps them right. -/
theorem right_step {s : State × Watch} {e : Event} (h : Right s) (horder : InOrder s.1 e) :
    Right (followStep s e) := by
  rcases step_change horder with ⟨now, ⟨hpast, -, -⟩, rfl, hchange⟩
  cases hchange with
  | opens _ hflag hwatch hwindows => exact h.request hpast (by rw [hwatch]) hwindows
  | reports _ hflag hwatch hwindows =>
      constructor
      case known => simp [hflag]
      case past => simp [hwatch]
      case pending => simp [hwatch]
      case latest => simp [hwatch]
      case bounded =>
        intro timer htimer
        rw [hwindows] at htimer
        exact (h.bounded timer htimer).trans (Nat.add_le_add_right hpast _)
  | expires timer _ _ hdue hflag hwatch hwindows =>
      refine h.later ?_ hwatch hpast ?_ ?_
      · simp [hflag]
      · intro other hother
        rw [hwindows] at hother
        exact List.mem_of_mem_erase hother
      · intro other hother hahead
        have hne : other ≠ timer := by
          rintro rfl
          rw [hdue] at hahead
          exact absurd hahead (Nat.lt_irrefl _)
        rw [hwindows]
        exact (List.mem_erase_of_ne hne).mpr hother
  | quiet _ hflag hwatch hwindows =>
      refine h.later ?_ (by rw [hwatch]) hpast ?_ ?_
      · rw [hflag]
        exact id
      · rw [hwindows]
        exact fun _ hother => hother
      · rw [hwindows]
        exact fun _ hother _ => hother

/-! ## Where the promise is broken -/

/-- A step keeps the promise of the last request exactly if it is no expiry that leaves the
window of a newer one. -/
theorem kept_step_iff {s : State × Watch} {e : Event} (h : Right s) (hkept : Kept s)
    (horder : InOrder s.1 e) : Kept (followStep s e) ↔ Youngest s.1 e := by
  have hyoungest : (∀ timer, e ≠ .netSteerStartOffCb timer) → Youngest s.1 e := by
    intro hevent
    cases e with
    | netSteerStartOffCb timer => exact absurd rfl (hevent timer)
    | _ => trivial
  rcases step_change horder with ⟨now, ⟨hpast, -, -⟩, hnow, hchange⟩
  cases hchange with
  | opens hevent hflag hwatch hwindows =>
      refine iff_of_true (fun t _ _ => ⟨hflag, ?_⟩) (hyoungest hevent)
      rw [hwatch]
  | reports hevent hflag hwatch hwindows =>
      refine iff_of_true (fun t hmem _ => ?_) (hyoungest hevent)
      rw [hwatch] at hmem
      cases hmem
  | expires timer hevent hmem hdue hflag hwatch hwindows =>
      subst hevent
      constructor
      · intro hkept' hset other hother
        -- the request that set the flag is over, and no window is due after its own
        rcases Option.ne_none_iff_exists'.mp (h.known hset) with ⟨t, hopened⟩
        have hover : t + TIMEOUT_1MIN30SEC ≤ now := by
          by_contra hbefore
          have hstill := hkept' t (by rw [hwatch]; exact hopened)
            (by rw [hnow]; exact Nat.not_le.mp hbefore)
          rw [hflag] at hstill
          cases hstill.1
        rw [hdue]
        exact (h.latest t hopened other hother).trans hover
      · intro hyoung t hopened hbefore
        -- the window of the request is pending, and due after the one that expires
        rw [hwatch] at hopened
        rw [hnow] at hbefore
        have hbefore' : s.1.now < t + TIMEOUT_1MIN30SEC := Nat.lt_of_le_of_lt hpast hbefore
        rcases h.pending t hopened hbefore' with ⟨own, hown, howndue⟩
        have hle := hyoung (hkept t hopened hbefore').1 own hown
        omega
  | quiet hevent hflag hwatch hwindows =>
      refine iff_of_true (fun t hmem hbefore => ?_) (hyoungest hevent)
      rw [hwatch] at hmem ⊢
      rw [hflag]
      rw [hnow] at hbefore
      exact hkept t hmem (Nat.lt_of_le_of_lt hpast hbefore)

/-- In a run in time order from where no window is open, every window is kept for its 90
seconds exactly if no window that expires finds the flag set and the window of a newer
request pending. -/
theorem window_kept_iff (s : State) (es : List Event) (hclosed : Closed s)
    (horder : Along step InOrder s es) :
    (∀ es', es' <+: es → Kept (follow s es')) ↔ Along step Youngest s es := by
  have hproject : ∀ (sw : State × Watch) (e : Event), (followStep sw e).1 = step sw.1 e :=
    fun _ _ => rfl
  have hstart : Right (s, {}) ∧ Kept (s, {}) := ⟨hclosed.right, by simp [Kept]⟩
  rw [← along_map hproject Youngest (s, {}) es]
  exact observed_iff_along_of (P := fun sw => Right sw ∧ Kept sw) (fun _ h => h.2)
    (fun sw e hin h hyoung => ⟨right_step h.1 hin, (kept_step_iff h.1 h.2 hin).mpr hyoung⟩)
    (fun sw e hin h hnext => (kept_step_iff h.1 h.2 hin).mp hnext) hstart
    ((along_map hproject InOrder (s, {}) es).mpr horder)

/-- So many callbacks of the LED. -/
def blinks (n : Nat) : List Event := List.replicate n .zclLightTimerCb

/-- A request, a success after a second, and a second request after the first window. -/
def inTurn : List Event :=
  [.switchFactoryResetStart 0] ++ blinks 2 ++
    [.zbBdbCommissioningCb 1000 .BDB_COMMISSION_STA_SUCCESS] ++ blinks 6 ++
    [.netSteerStartOffCb (Timer.schedule 0 TIMEOUT_1MIN30SEC), .switchFactoryResetStart 95000]

/-- Both windows are kept. -/
theorem window_kept_in_turn :
    Along step InOrder {} inTurn ∧ ∀ es', es' <+: inTurn → Kept (follow {} es') := by
  have horder : Along step InOrder {} inTurn := by decide +kernel
  refine ⟨horder, ?_⟩
  exact (window_kept_iff {} inTurn ⟨rfl, rfl⟩ horder).mpr (by decide +kernel)

/-- Two requests, the second after a minute. -/
def inMinute : List Event :=
  [.switchFactoryResetStart 0] ++ blinks 120 ++ [.switchFactoryResetStart 60000] ++ blinks 60 ++
    [.netSteerStartOffCb (Timer.schedule 0 TIMEOUT_1MIN30SEC)]

/-- The first window closes the second one after half a minute. -/
theorem window_closed_early :
    Closed {} ∧ Along step InOrder {} inMinute ∧
      (follow {} inMinute).2 = { opened := some 60000, stopped := true } ∧
      (follow {} inMinute).1.now = 90000 ∧
      (follow {} inMinute).1.net_steer_start = false ∧ ¬ Kept (follow {} inMinute) := by
  have hwatch : (follow {} inMinute).2 = { opened := some 60000, stopped := true } := by
    decide +kernel
  have hnow : (follow {} inMinute).1.now = 90000 := by decide +kernel
  have hflag : (follow {} inMinute).1.net_steer_start = false := by decide +kernel
  refine ⟨⟨rfl, rfl⟩, by decide +kernel, hwatch, hnow, hflag, ?_⟩
  intro hkept
  have hstill := hkept 60000 (by rw [hwatch]; rfl) (by rw [hnow]; decide)
  rw [hflag] at hstill
  cases hstill.1

end SteerWindow
