import TuyaMiniSwitch.Library.Machine
import TuyaMiniSwitch.Platform.EvTimer

/-!
# Application - Network steering

The callbacks of {lit}`zb_appCb.c` start the attempts to join a network: they post a timer
whose callback {lit}`app_bdbNetworkSteerStart` asks {lit}`bdb` for a commissioning
procedure.  {lit}`bdb` can refuse, and how the procedure ends is told by another callback.

A step of the system has no next state when its event cannot happen, and when no timer is
left: the exception that {lit}`ev_timer_taskPost` posts then resets the device.

Main results:

- Theorem {lit}`oneTimer_step`: every step keeps the handle right.
- Theorem {lit}`one_steering_timer`: one steering timer at most is pending.
- Theorem {lit}`kept_step`: the only step that can lose the attempts.
- Theorem {lit}`steering_kept_iff`: when they are never lost.
-/

namespace Steering

open EvTimer Machine

/-! ## The stack -/

/-- The commissioning status of {lit}`bdb`. -/
inductive CommissionSta where
  | BDB_COMMISSION_STA_SUCCESS
  | BDB_COMMISSION_STA_IN_PROGRESS
  | BDB_COMMISSION_STA_NOT_AA_CAPABLE
  | BDB_COMMISSION_STA_NO_NETWORK
  | BDB_COMMISSION_STA_TARGET_FAILURE
  | BDB_COMMISSION_STA_FORMATION_FAILURE
  | BDB_COMMISSION_STA_NO_IDENTIFY_QUERY_RESPONSE
  | BDB_COMMISSION_STA_BINDING_TABLE_FULL
  | BDB_COMMISSION_STA_NO_SCAN_RESPONSE
  | BDB_COMMISSION_STA_NOT_PERMITTED
  | BDB_COMMISSION_STA_TCLK_EX_FAILURE
  | BDB_COMMISSION_STA_PARENT_LOST
  | BDB_COMMISSION_STA_REJOIN_FAILURE
  | BDB_COMMISSION_STA_FORMATION_DONE
  deriving Repr, DecidableEq

inductive InitStatus where
  | BDB_INIT_STATUS_SUCCESS
  | BDB_INIT_STATUS_FAILURE
  deriving Repr, DecidableEq

inductive BdbState where
  | BDB_STATE_IDLE
  | BDB_STATE_INIT
  | BDB_STATE_COMMISSIONING_TOUCHLINK
  | BDB_STATE_COMMISSIONING_NETWORK_STEER
  | BDB_STATE_COMMISSIONING_NETWORK_FORMATION
  | BDB_STATE_COMMISSIONING_FINDORBIND
  | BDB_STATE_COMMISSIONING_BUSY
  | BDB_STATE_REJOIN_DONE
  deriving Repr, DecidableEq

inductive BdbRole where
  | BDB_COMMISSIONING_ROLE_INITIATOR
  | BDB_COMMISSIONING_ROLE_TARGET
  deriving Repr, DecidableEq

structure CommissioningMode where
  touchlink : Bool := false
  networkSteer : Bool := false
  networkFormation : Bool := false
  findOrBind : Bool := false
  deriving Repr, DecidableEq

/-- What {lit}`bdb` keeps about commissioning. -/
structure Bdb where
  role : BdbRole := .BDB_COMMISSIONING_ROLE_INITIATOR
  commissioningStatus : CommissionSta := .BDB_COMMISSION_STA_SUCCESS
  commissioningMode : CommissioningMode := {}
  deriving Repr, DecidableEq

/-- What the rest of the stack is doing: {lit}`BDB_STATE_GET` and
{lit}`zdo_ifZdoNwkManagerIdle`. -/
structure Stack where
  state : BdbState
  nwkManagerIdle : Bool
  deriving Repr, DecidableEq

/-- What the callbacks ask for. -/
inductive Request where
  /-- {lit}`bdb_task` is scheduled with {lit}`BDB_EVT_COMMISSIONING_START`. -/
  | bdbCommissioningStart
  | otaQueryStart
  | lightBlinkStart (times ledOnTime ledOffTime : Nat)
  | zbRejoinReq
  | tlZbMacChannelSet
  deriving Repr, DecidableEq

/-! ## The variables -/

/-- The callbacks of the timers. -/
inductive TimerCb where
  | appBdbNetworkSteerStart
  | other (id : Nat)
  deriving Repr, DecidableEq

/-- The variables of {lit}`zb_appCb.c`, the timers and {lit}`bdb`. -/
structure App where
  pool : Pool TimerCb := .init
  steerTimerEvt : Option Slot := none
  heartInterval : Nat := 0
  net_steer_start : Bool := false
  deviceFactoryNew : Bool := false
  bdb : Bdb := {}
  requests : List Request := []

def App.request (s : App) (r : Request) : App := { s with requests := s.requests ++ [r] }

/-- The loop that draws a jitter comes to an end with a random number whose remainder is
large enough. -/
structure Jitter (modulus least : Nat) where
  random : Nat
  accepted : least ≤ random % modulus

def Jitter.value {modulus least : Nat} (jitter : Jitter modulus least) : Nat :=
  jitter.random % modulus

/-! ## The functions -/

/-- {lit}`bdb_topLevelCommissioning`. -/
def bdbTopLevelCommissioning (s : App) (stack : Stack) (target : BdbRole) : BdbState × App :=
  if stack.state ≠ .BDB_STATE_IDLE ∨ ¬stack.nwkManagerIdle ∨
      s.bdb.commissioningStatus = .BDB_COMMISSION_STA_IN_PROGRESS then
    (.BDB_STATE_COMMISSIONING_BUSY, s)
  else
    let bdb := { s.bdb with
      role := target
      commissioningStatus := .BDB_COMMISSION_STA_IN_PROGRESS }
    (.BDB_STATE_IDLE, { s with bdb := bdb }.request .bdbCommissioningStart)

/-- {lit}`bdb_networkSteerStart`. -/
def bdbNetworkSteerStart (s : App) (stack : Stack) : BdbState × App :=
  let mode : CommissioningMode :=
    { networkFormation := false, touchlink := false, findOrBind := false, networkSteer := true }
  bdbTopLevelCommissioning { s with bdb := { s.bdb with commissioningMode := mode } } stack
    .BDB_COMMISSIONING_ROLE_TARGET

/-- {lit}`app_bdbNetworkSteerStart`. -/
def appBdbNetworkSteerStart (s : App) (stack : Stack) : Int × App :=
  let (_, s) := bdbNetworkSteerStart s stack
  (-1, { s with steerTimerEvt := none })

/-- The timer is cancelled if the handle says that there is one. -/
def cancelSteer (s : App) : App :=
  if s.steerTimerEvt.isSome then
    let (_, steerTimerEvt, pool) := s.pool.taskCancel s.steerTimerEvt
    { s with pool := pool, steerTimerEvt := steerTimerEvt }
  else s

/-- The end of each of the three callbacks that start an attempt. -/
def scheduleSteer (s : App) (jitter : Nat) : Option App :=
  let s := cancelSteer s
  match s.pool.taskPost .appBdbNetworkSteerStart jitter with
  | some (slot, pool) => some { s with pool := pool, steerTimerEvt := some slot }
  | none => none

/-- {lit}`zb_bdbInitCb`. -/
def zbBdbInitCb (s : App) (status : InitStatus) (joinedNetwork : Bool)
    (jitter : Jitter 0x0fff 1) : Option App :=
  if status = .BDB_INIT_STATUS_SUCCESS then
    if joinedNetwork then
      let s := { s with heartInterval := 1000, net_steer_start := false }
      some (s.request .otaQueryStart)
    else
      scheduleSteer { s with heartInterval := 500 } jitter.value
  else
    some { s with heartInterval := 200 }

/-- {lit}`zb_bdbCommissioningCb`. -/
def zbBdbCommissioningCb (s : App) (status : CommissionSta) (jitter : Jitter 0x2710 5000) :
    Option App :=
  match status with
  | .BDB_COMMISSION_STA_SUCCESS =>
      let s := { s with heartInterval := 1000, net_steer_start := false }
      let s := s.request (.lightBlinkStart 2 200 200)
      let s := cancelSteer s
      some (s.request .otaQueryStart)
  | .BDB_COMMISSION_STA_NO_NETWORK
  | .BDB_COMMISSION_STA_TCLK_EX_FAILURE
  | .BDB_COMMISSION_STA_TARGET_FAILURE => scheduleSteer s jitter.value
  | .BDB_COMMISSION_STA_REJOIN_FAILURE => some (s.request .zbRejoinReq)
  | .BDB_COMMISSION_STA_FORMATION_DONE => some (s.request .tlZbMacChannelSet)
  | _ => some s

/-- {lit}`app_leaveCnfHandler`; a status of zero is {lit}`SUCCESS`. -/
def appLeaveCnfHandler (s : App) (status : UInt8) (jitter : Jitter 0x0fff 1) : Option App :=
  if status = 0 then
    let s := { s with deviceFactoryNew := true, heartInterval := 500 }
    match scheduleSteer s jitter.value with
    | some s => some (if ¬s.net_steer_start then s.request (.lightBlinkStart 90 250 750) else s)
    | none => none
  else
    some s

/-- {lit}`bdb` takes over the status of a procedure before it tells it; the end of a
formation is told while the procedure goes on. -/
def bdbConfirm (s : App) (status : CommissionSta) : App :=
  if status = .BDB_COMMISSION_STA_FORMATION_DONE then s
  else { s with bdb := { s.bdb with commissioningStatus := status } }

/-! ## The system -/

inductive Event where
  | zbBdbInitCb (status : InitStatus) (joinedNetwork : Bool) (jitter : Jitter 0x0fff 1)
  | zbBdbCommissioningCb (status : CommissionSta) (jitter : Jitter 0x2710 5000)
  | appLeaveCnfHandler (status : UInt8) (jitter : Jitter 0x0fff 1)
  /-- A timer expires.  What the callback returns is given for the timers of the others. -/
  | expiry (slot : Slot) (stack : Stack) (t : Int)
  | otherPost (id t_ms : Nat)
  | otherCancel (slot : Slot)

/-- A timer expires: its callback runs between the two parts of
{lit}`ev_timer_executeCB`. -/
def executeCB (s : App) (slot : Slot) (stack : Stack) (t : Int) : Option App :=
  match s.pool.evt slot with
  | none => none
  | some event =>
      let s := { s with pool := s.pool.beginCB slot }
      match event.cb with
      | .appBdbNetworkSteerStart =>
          let (t, s) := appBdbNetworkSteerStart s stack
          some { s with pool := s.pool.endCB slot t }
      | .other _ => some { s with pool := s.pool.endCB slot t }

/-- The rest of the firmware posts a timer of its own. -/
def otherPost (s : App) (id t_ms : Nat) : Option App :=
  match s.pool.taskPost (.other id) t_ms with
  | some (_, pool) => some { s with pool := pool }
  | none => none

/-- The rest of the firmware cancels a timer of its own. -/
def otherCancel (s : App) (slot : Slot) : Option App :=
  match s.pool.evt slot with
  | none => none
  | some event =>
      match event.cb with
      | .appBdbNetworkSteerStart => none
      | .other _ => some { s with pool := (s.pool.taskCancel (some slot)).2.2 }

def App.step (s : App) : Event → Option App
  | .zbBdbInitCb status joinedNetwork jitter => zbBdbInitCb s status joinedNetwork jitter
  | .zbBdbCommissioningCb status jitter => zbBdbCommissioningCb (bdbConfirm s status) status jitter
  | .appLeaveCnfHandler status jitter => appLeaveCnfHandler s status jitter
  | .expiry slot stack t => executeCB s slot stack t
  | .otherPost id t_ms => otherPost s id t_ms
  | .otherCancel slot => otherCancel s slot

/-! ## The handle -/

/-- The handle points to the one steering timer, and no callback is running. -/
structure OneTimer (s : App) : Prop where
  owns : s.pool.Owns .appBdbNetworkSteerStart s.steerTimerEvt
  idle : s.pool.Idle

theorem oneTimer_start : OneTimer {} :=
  ⟨owns_init _, idle_init⟩

section Handle

variable {s s' : App}

theorem OneTimer.cancelSteer (hone : OneTimer s) :
    OneTimer (cancelSteer s) ∧ (Steering.cancelSteer s).steerTimerEvt = none := by
  unfold Steering.cancelSteer
  split
  · rcases hone.owns.taskCancel hone.idle with ⟨hnone, howns, hidle⟩
    refine ⟨⟨?_, hidle⟩, hnone⟩
    dsimp only
    rw [hnone]
    exact howns
  · rename_i hnone
    have hhandle : s.steerTimerEvt = none := by simpa using hnone
    exact ⟨hone, hhandle⟩

/-- Behind the scheduling the new timer is the one. -/
theorem OneTimer.scheduleSteer {jitter : Nat} (hone : OneTimer s)
    (hschedule : scheduleSteer s jitter = some s') :
    OneTimer s' ∧ s'.steerTimerEvt ≠ none ∧ s'.bdb = s.bdb := by
  rcases hone.cancelSteer with ⟨hcancel, hnone⟩
  have howns := hcancel.owns
  have hbdb : (Steering.cancelSteer s).bdb = s.bdb := by
    unfold Steering.cancelSteer
    split <;> rfl
  rw [hnone] at howns
  unfold Steering.scheduleSteer at hschedule
  dsimp only at hschedule
  split at hschedule
  · rename_i slot pool hpost
    cases hschedule
    exact ⟨⟨howns.taskPost hpost, hcancel.idle.taskPost hpost⟩, by simp, hbdb⟩
  · cases hschedule

theorem OneTimer.zbBdbInitCb {status : InitStatus} {joined : Bool} {jitter : Jitter 0x0fff 1}
    (hone : OneTimer s) (hcb : zbBdbInitCb s status joined jitter = some s') : OneTimer s' := by
  unfold Steering.zbBdbInitCb at hcb
  split at hcb
  · split at hcb
    · cases hcb
      exact ⟨hone.owns, hone.idle⟩
    · have hbefore : OneTimer { s with heartInterval := 500 } := ⟨hone.owns, hone.idle⟩
      exact (hbefore.scheduleSteer hcb).1
  · cases hcb
    exact ⟨hone.owns, hone.idle⟩

theorem OneTimer.zbBdbCommissioningCb {status : CommissionSta} {jitter : Jitter 0x2710 5000}
    (hone : OneTimer s) (hcb : zbBdbCommissioningCb s status jitter = some s') :
    OneTimer s' := by
  unfold Steering.zbBdbCommissioningCb at hcb
  split at hcb
  · cases hcb
    have hbefore : OneTimer (({ s with heartInterval := 1000, net_steer_start := false } :
        App).request (.lightBlinkStart 2 200 200)) := ⟨hone.owns, hone.idle⟩
    have hcancel := hbefore.cancelSteer.1
    exact ⟨hcancel.owns, hcancel.idle⟩
  · exact (hone.scheduleSteer hcb).1
  · exact (hone.scheduleSteer hcb).1
  · exact (hone.scheduleSteer hcb).1
  · cases hcb
    exact ⟨hone.owns, hone.idle⟩
  · cases hcb
    exact ⟨hone.owns, hone.idle⟩
  · cases hcb
    exact hone

theorem OneTimer.appLeaveCnfHandler {status : UInt8} {jitter : Jitter 0x0fff 1}
    (hone : OneTimer s) (hcb : appLeaveCnfHandler s status jitter = some s') : OneTimer s' := by
  unfold Steering.appLeaveCnfHandler at hcb
  split at hcb
  · have hbefore : OneTimer { s with deviceFactoryNew := true, heartInterval := 500 } :=
      ⟨hone.owns, hone.idle⟩
    dsimp only at hcb
    split at hcb
    · rename_i s₁ hschedule
      have hafter := (hbefore.scheduleSteer hschedule).1
      cases hcb
      split
      · exact ⟨hafter.owns, hafter.idle⟩
      · exact hafter
    · cases hcb
  · cases hcb
    exact hone

/-- The callback of the steering timer touches its handle and {lit}`bdb` only. -/
theorem appBdbNetworkSteerStart_pool (s : App) (stack : Stack) :
    (appBdbNetworkSteerStart s stack).1 = -1 ∧
      (appBdbNetworkSteerStart s stack).2.pool = s.pool ∧
      (appBdbNetworkSteerStart s stack).2.steerTimerEvt = none := by
  refine ⟨rfl, ?_, rfl⟩
  unfold appBdbNetworkSteerStart bdbNetworkSteerStart bdbTopLevelCommissioning
  dsimp only
  split <;> rfl

/-- What the expiry of a timer leaves: the steering timer is gone with its handle, and
another timer does not matter. -/
theorem OneTimer.executeCB {slot : Slot} {stack : Stack} {t : Int} (hone : OneTimer s)
    (hcb : executeCB s slot stack t = some s') : OneTimer s' := by
  unfold Steering.executeCB at hcb
  split at hcb
  · cases hcb
  · rename_i event hevent
    dsimp only at hcb
    split at hcb
    · rename_i hsteer
      rcases appBdbNetworkSteerStart_pool { s with pool := s.pool.beginCB slot } stack with
        ⟨hret, hpool, hhandle⟩
      cases hcb
      constructor
      · dsimp only
        rw [hret, hpool, hhandle]
        exact hone.owns.expired ⟨event, hevent, hsteer⟩ (by decide)
      · dsimp only
        rw [hret, hpool]
        exact hone.idle.expired (-1)
    · rename_i id hother
      cases hcb
      refine ⟨hone.owns.expired_other ?_ t, hone.idle.expired t⟩
      rintro ⟨event', hevent', hsteer⟩
      rw [hevent] at hevent'
      cases hevent'
      rw [hother] at hsteer
      cases hsteer

theorem OneTimer.otherPost {id t_ms : Nat} (hone : OneTimer s)
    (hcb : otherPost s id t_ms = some s') : OneTimer s' := by
  unfold Steering.otherPost at hcb
  split at hcb
  · rename_i slot pool hpost
    cases hcb
    exact ⟨hone.owns.taskPost_other (by simp) hpost, hone.idle.taskPost hpost⟩
  · cases hcb

theorem OneTimer.otherCancel {slot : Slot} (hone : OneTimer s)
    (hcb : otherCancel s slot = some s') : OneTimer s' := by
  unfold Steering.otherCancel at hcb
  split at hcb
  · cases hcb
  · rename_i event hevent
    split at hcb
    · cases hcb
    · rename_i id hother
      have hfree : (s.pool.taskCancel (some slot)).2.2 = s.pool.set slot none := by
        simp [Pool.taskCancel, hevent, hone.idle slot event hevent]
      cases hcb
      rw [hfree]
      refine ⟨hone.owns.set_other ?_ (by simp), hone.idle.set (by simp)⟩
      rintro ⟨event', hevent', hsteer⟩
      rw [hevent] at hevent'
      cases hevent'
      rw [hother] at hsteer
      cases hsteer

/-- Every step keeps the handle right. -/
theorem oneTimer_step (s : App) (e : Event) (s' : App) (hone : OneTimer s)
    (hstep : s.step e = some s') : OneTimer s' := by
  cases e with
  | zbBdbInitCb status joinedNetwork jitter => exact hone.zbBdbInitCb hstep
  | zbBdbCommissioningCb status jitter =>
      have hconfirm : OneTimer (bdbConfirm s status) := by
        unfold bdbConfirm
        split
        · exact hone
        · exact ⟨hone.owns, hone.idle⟩
      exact hconfirm.zbBdbCommissioningCb hstep
  | appLeaveCnfHandler status jitter => exact hone.appLeaveCnfHandler hstep
  | expiry slot stack t => exact hone.executeCB hstep
  | otherPost id t_ms => exact hone.otherPost hstep
  | otherCancel slot => exact hone.otherCancel hstep

end Handle

/-- Behind any events one steering timer at most is pending, and the handle is
{lit}`NULL` when there is none and points to it otherwise. -/
theorem one_steering_timer (events : List Event) (s : App)
    (hrun : events.foldlM App.step {} = some s) :
    (∀ i j, s.pool.PendingAt .appBdbNetworkSteerStart i →
      s.pool.PendingAt .appBdbNetworkSteerStart j → i = j) ∧
      (s.steerTimerEvt ≠ none ↔ ∃ i, s.pool.PendingAt .appBdbNetworkSteerStart i) ∧
      ∀ i, s.steerTimerEvt = some i → s.pool.PendingAt .appBdbNetworkSteerStart i := by
  have hone : OneTimer s := foldlM_invariant OneTimer oneTimer_step oneTimer_start hrun
  refine ⟨fun i j hi hj => ?_, ?_, fun i hi => (hone.owns i).mpr hi⟩
  · have hhandle := (hone.owns i).mp hi
    rw [(hone.owns j).mp hj] at hhandle
    exact (Option.some.inj hhandle).symm
  · constructor
    · intro hsome
      rcases Option.ne_none_iff_exists'.mp hsome with ⟨i, hi⟩
      exact ⟨i, (hone.owns i).mpr hi⟩
    · rintro ⟨i, hi⟩
      rw [(hone.owns i).mp hi]
      exact Option.some_ne_none i

/-- The device has left its network. -/
def hasLeft : Event := .appLeaveCnfHandler 0 ⟨1, by decide⟩

/-- It has left its network, and left it again. -/
theorem one_steering_timer_left :
    ∃ s, [hasLeft, hasLeft].foldlM App.step {} = some s ∧
      (s.steerTimerEvt ≠ none ↔ ∃ i, s.pool.PendingAt .appBdbNetworkSteerStart i) := by
  have hsome : ([hasLeft, hasLeft].foldlM App.step {}).isSome := by
    decide
  rcases Option.isSome_iff_exists.mp hsome with ⟨s, hrun⟩
  exact ⟨s, hrun, (one_steering_timer _ s hrun).2.1⟩

/-! ## The attempts -/

/-- An attempt is to come, or a procedure that {lit}`bdb` has accepted is in progress. -/
def Kept (s : App) : Prop :=
  (∃ i, s.pool.PendingAt .appBdbNetworkSteerStart i) ∨
    s.bdb.commissioningStatus = .BDB_COMMISSION_STA_IN_PROGRESS

/-- The callbacks that start an attempt. -/
def Event.Arms : Event → Prop
  | .zbBdbInitCb status joinedNetwork _ =>
      status = .BDB_INIT_STATUS_SUCCESS ∧ joinedNetwork = false
  | .zbBdbCommissioningCb status _ =>
      status = .BDB_COMMISSION_STA_NO_NETWORK ∨
        status = .BDB_COMMISSION_STA_TCLK_EX_FAILURE ∨
        status = .BDB_COMMISSION_STA_TARGET_FAILURE
  | .appLeaveCnfHandler status _ => status = 0
  | _ => False

/-- What can happen while no commissioning success is reported: these callbacks, and what
the timers do. -/
def Event.Unjoined : Event → Prop
  | .expiry _ _ _ | .otherPost _ _ | .otherCancel _ => True
  | e => e.Arms

/-- When the steering timer expires, {lit}`bdb` accepts the request or has accepted one
before. -/
def Answered (s : App) : Event → Prop
  | .expiry slot stack _ => s.pool.PendingAt .appBdbNetworkSteerStart slot →
      (stack.state = .BDB_STATE_IDLE ∧ stack.nwkManagerIdle = true) ∨
        s.bdb.commissioningStatus = .BDB_COMMISSION_STA_IN_PROGRESS
  | _ => True

section Attempts

variable {s s' : App}

theorem OneTimer.kept_iff (hone : OneTimer s) :
    Kept s ↔ s.steerTimerEvt ≠ none ∨
      s.bdb.commissioningStatus = .BDB_COMMISSION_STA_IN_PROGRESS := by
  have hpending : (∃ i, s.pool.PendingAt .appBdbNetworkSteerStart i) ↔
      s.steerTimerEvt ≠ none := by
    rw [Option.ne_none_iff_exists']
    exact exists_congr hone.owns
  rw [Kept, hpending]

/-- A callback that starts an attempt leaves a timer. -/
theorem kept_of_arms {e : Event} (hone : OneTimer s) (harms : e.Arms)
    (hstep : s.step e = some s') : Kept s' := by
  rw [(oneTimer_step s e s' hone hstep).kept_iff]
  left
  cases e with
  | zbBdbInitCb status joinedNetwork jitter =>
      rcases harms with ⟨rfl, rfl⟩
      have hbefore : OneTimer { s with heartInterval := 500 } := ⟨hone.owns, hone.idle⟩
      exact (hbefore.scheduleSteer hstep).2.1
  | zbBdbCommissioningCb status jitter =>
      have hbefore : OneTimer { s with bdb := { s.bdb with commissioningStatus := status } } :=
        ⟨hone.owns, hone.idle⟩
      rcases harms with rfl | rfl | rfl
      · exact (hbefore.scheduleSteer hstep).2.1
      · exact (hbefore.scheduleSteer hstep).2.1
      · exact (hbefore.scheduleSteer hstep).2.1
  | appLeaveCnfHandler status jitter =>
      have hzero : status = 0 := harms
      have hbefore : OneTimer { s with deviceFactoryNew := true, heartInterval := 500 } :=
        ⟨hone.owns, hone.idle⟩
      simp only [App.step, appLeaveCnfHandler, hzero, if_true] at hstep
      split at hstep
      · rename_i s₁ hschedule
        have hsome := (hbefore.scheduleSteer hschedule).2.1
        cases hstep
        split
        · exact hsome
        · exact hsome
      · cases hstep
  | expiry slot stack t => exact harms.elim
  | otherPost id t_ms => exact harms.elim
  | otherCancel slot => exact harms.elim

/-- Whether {lit}`bdb` is busy with an accepted procedure behind the callback of the
steering timer. -/
theorem appBdbNetworkSteerStart_status (s : App) (stack : Stack) :
    (appBdbNetworkSteerStart s stack).2.bdb.commissioningStatus =
        .BDB_COMMISSION_STA_IN_PROGRESS ↔
      (stack.state = .BDB_STATE_IDLE ∧ stack.nwkManagerIdle = true) ∨
        s.bdb.commissioningStatus = .BDB_COMMISSION_STA_IN_PROGRESS := by
  unfold appBdbNetworkSteerStart bdbNetworkSteerStart bdbTopLevelCommissioning
  dsimp only
  split
  · rename_i hbusy
    constructor
    · exact .inr
    · rintro (⟨hstate, hmanager⟩ | hprogress)
      · rcases hbusy with hne | hmanager' | hprogress
        · exact absurd hstate hne
        · exact absurd hmanager hmanager'
        · exact hprogress
      · exact hprogress
  · rename_i hidle
    rw [not_or, not_or, not_not, not_not] at hidle
    exact iff_of_true rfl (.inl ⟨hidle.1, hidle.2.1⟩)

/-- The expiry of a timer: the attempts go on if the timer is another one, or if the request
is answered. -/
theorem kept_executeCB {slot : Slot} {stack : Stack} {t : Int} (hone : OneTimer s)
    (hkept : Kept s) (hcb : executeCB s slot stack t = some s') :
    Kept s' ↔ Answered s (.expiry slot stack t) := by
  have hafter := hone.executeCB hcb
  rw [hafter.kept_iff]
  unfold executeCB at hcb
  split at hcb
  · cases hcb
  · rename_i event hevent
    dsimp only at hcb
    split at hcb
    · rename_i hsteer
      have hstatus := appBdbNetworkSteerStart_status { s with pool := s.pool.beginCB slot } stack
      rcases appBdbNetworkSteerStart_pool { s with pool := s.pool.beginCB slot } stack with
        ⟨-, -, hhandle⟩
      have hpending : s.pool.PendingAt .appBdbNetworkSteerStart slot := ⟨event, hevent, hsteer⟩
      cases hcb
      simp only [hhandle, hstatus, Answered, hpending]
      simp
    · rename_i id hother
      have hnot : ¬s.pool.PendingAt .appBdbNetworkSteerStart slot := by
        rintro ⟨event', hevent', hsteer⟩
        rw [hevent] at hevent'
        cases hevent'
        rw [hother] at hsteer
        cases hsteer
      cases hcb
      exact iff_of_true (hone.kept_iff.mp hkept) fun hpending => absurd hpending hnot

/-- The only step that can lose the attempts is an expiry of the steering timer. -/
theorem kept_step {e : Event} (hone : OneTimer s) (hkept : Kept s) (hunjoined : e.Unjoined)
    (hstep : s.step e = some s') : Kept s' ↔ Answered s e := by
  cases e with
  | zbBdbInitCb status joinedNetwork jitter =>
      have harms : (Event.zbBdbInitCb status joinedNetwork jitter).Arms := hunjoined
      exact iff_of_true (kept_of_arms hone harms hstep) trivial
  | zbBdbCommissioningCb status jitter =>
      have harms : (Event.zbBdbCommissioningCb status jitter).Arms := hunjoined
      exact iff_of_true (kept_of_arms hone harms hstep) trivial
  | appLeaveCnfHandler status jitter =>
      have harms : (Event.appLeaveCnfHandler status jitter).Arms := hunjoined
      exact iff_of_true (kept_of_arms hone harms hstep) trivial
  | expiry slot stack t => exact kept_executeCB hone hkept hstep
  | otherPost id t_ms =>
      have hafter := oneTimer_step s _ s' hone hstep
      refine iff_of_true ?_ trivial
      rw [hafter.kept_iff]
      simp only [App.step, otherPost] at hstep
      split at hstep
      · cases hstep
        exact hone.kept_iff.mp hkept
      · cases hstep
  | otherCancel slot =>
      have hafter := oneTimer_step s _ s' hone hstep
      refine iff_of_true ?_ trivial
      rw [hafter.kept_iff]
      simp only [App.step, otherCancel] at hstep
      split at hstep
      · cases hstep
      · split at hstep
        · cases hstep
        · cases hstep
          exact hone.kept_iff.mp hkept

end Attempts

/-- From any state in which one of the callbacks has started an attempt, as long as no
success is reported: behind every step an attempt is to come or an accepted procedure is
in progress exactly if every expiry of the steering timer on the way is answered. -/
theorem steering_kept_iff (before events : List Event) (first : Event) (s : App)
    (hrun : (before ++ [first]).foldlM App.step {} = some s) (hfirst : first.Arms)
    (hunjoined : ∀ e ∈ events, e.Unjoined) :
    (∀ es, es <+: events → ∀ s', es.foldlM App.step s = some s' → Kept s') ↔
      ∀ es e, es ++ [e] <+: events → ∀ s' s'', es.foldlM App.step s = some s' →
        s'.step e = some s'' → Answered s' e := by
  have hone : OneTimer s := foldlM_invariant OneTimer oneTimer_step oneTimer_start hrun
  have hkept : Kept s := by
    rw [List.foldlM_append] at hrun
    rcases Option.bind_eq_some_iff.mp hrun with ⟨s₀, hbefore, hlast⟩
    have hstep : s₀.step first = some s := by simpa using hlast
    have hone₀ : OneTimer s₀ := foldlM_invariant OneTimer oneTimer_step oneTimer_start hbefore
    exact kept_of_arms hone₀ hfirst hstep
  have hsteps : ∀ s e s', e ∈ events → OneTimer s ∧ Kept s → App.step s e = some s' →
      (OneTimer s' ∧ Kept s' ↔ Answered s e) := by
    rintro s e s' hmem ⟨hone, hkept⟩ hstep
    rw [← kept_step hone hkept (hunjoined e hmem) hstep]
    exact and_iff_right (oneTimer_step s e s' hone hstep)
  have hiff := foldlM_always_iff hsteps ⟨hone, hkept⟩
  rw [← hiff]
  constructor
  · intro hall es hprefix s' hes
    exact ⟨foldlM_invariant OneTimer oneTimer_step hone hes, hall es hprefix s' hes⟩
  · exact fun hall es hprefix s' hes => (hall es hprefix s' hes).2

/-- The steering timer, which is the only one, expires while {lit}`bdb` is idle. -/
def expiredIdle : Event := .expiry ⟨0, by decide⟩ ⟨.BDB_STATE_IDLE, true⟩ 0

/-- It expires while another node is commissioning the device by touch link. -/
def expiredBusy : Event :=
  .expiry ⟨0, by decide⟩ ⟨.BDB_STATE_COMMISSIONING_TOUCHLINK, true⟩ 0

/-- An expiry that is answered leaves a procedure in progress. -/
theorem steering_kept_idle :
    ∃ s, [hasLeft].foldlM App.step {} = some s ∧
      ∀ s', [expiredIdle].foldlM App.step s = some s' → Kept s' := by
  have hsome : ([hasLeft].foldlM App.step {}).isSome := by
    decide
  rcases Option.isSome_iff_exists.mp hsome with ⟨s, hrun⟩
  refine ⟨s, hrun, fun s' hes => ?_⟩
  have hiff := steering_kept_iff [] [expiredIdle] hasLeft s hrun rfl
    (by simp [expiredIdle, Event.Unjoined])
  refine hiff.mpr (fun es e hprefix s₁ s₂ hfirst hlast => ?_) _ (List.prefix_refl _) s' hes
  have hlen := hprefix.length_le
  have hes : es = [] := by
    simpa using hlen
  subst hes
  rcases List.cons_prefix_cons.mp hprefix with ⟨rfl, -⟩
  exact fun _ => .inl ⟨rfl, rfl⟩

/-- An expiry that finds {lit}`bdb` busy leaves nothing: no timer is pending, and no
procedure is in progress. -/
theorem steering_lost :
    ∃ s, [hasLeft, expiredBusy].foldlM App.step {} = some s ∧ ¬Kept s := by
  have hsome : ([hasLeft, expiredBusy].foldlM App.step {}).isSome := by
    decide
  rcases Option.isSome_iff_exists.mp hsome with ⟨s, hrun⟩
  have hone : OneTimer s := foldlM_invariant OneTimer oneTimer_step oneTimer_start hrun
  have hstate : ([hasLeft, expiredBusy].foldlM App.step {}).map
      (fun s => (s.steerTimerEvt, s.bdb.commissioningStatus)) =
      some (none, .BDB_COMMISSION_STA_SUCCESS) := by
    decide
  rw [hrun] at hstate
  have hboth := Option.some.inj hstate
  refine ⟨s, hrun, ?_⟩
  rw [hone.kept_iff]
  simp only [Prod.mk.injEq] at hboth
  simp [hboth.1, hboth.2]

end Steering
