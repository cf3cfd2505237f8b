import Mathlib.Data.List.FinRange
import Mathlib.Logic.Function.Basic
import Mathlib.Tactic.Common

/-!
# Platform - The software timers

The timers of {lit}`ev_timer.c` lie in a pool of 24 slots, and a handle is the address of
a slot.  A slot is used while its timer is in the list of pending timers, and a timer
that is posted takes the first free one.

A handle owns a callback when it points to the one slot in which the callback is
pending, and is {lit}`NULL` when it is pending nowhere.

Main results:

- Theorem {lit}`Pool.Owns.taskPost`, {lit}`Pool.Owns.taskCancel`, {lit}`Pool.Owns.expired`: what the
  owner does keeps its handle right.
- Theorem {lit}`Pool.Owns.set_other`: what the others do does so too.
-/

namespace EvTimer

variable {γ : Type}

def TIMER_EVENT_NUM : Nat := 24

/-- The address of a timer in the pool. -/
abbrev Slot : Type := Fin TIMER_EVENT_NUM

/-- {lit}`ev_timer_event_t`. -/
structure TimerEvent (γ : Type) where
  cb : γ
  timeout : Nat
  period : Nat
  isBusy : Bool := false
  deriving Repr, DecidableEq

/-- {lit}`ev_timer_event_pool_t`, with the slots that are not used left empty. -/
structure Pool (γ : Type) where
  evt : Slot → Option (TimerEvent γ)

/-- The pool behind {lit}`ev_timer_init`. -/
def Pool.init : Pool γ where
  evt := fun _ => none

def Pool.set (pool : Pool γ) (i : Slot) (event : Option (TimerEvent γ)) : Pool γ where
  evt := Function.update pool.evt i event

/-- {lit}`ev_timer_freeGet`. -/
def Pool.freeGet (pool : Pool γ) : Option Slot :=
  (List.finRange TIMER_EVENT_NUM).find? fun i => (pool.evt i).isNone

/-- {lit}`ev_timer_taskPost`.  When all slots are used an exception is posted instead. -/
def Pool.taskPost (pool : Pool γ) (func : γ) (t_ms : Nat) : Option (Slot × Pool γ) :=
  match pool.freeGet with
  | some i => some (i, pool.set i (some { cb := func, timeout := t_ms, period := t_ms }))
  | none => none

/-- What {lit}`ev_timer_taskCancel` returns. -/
inductive CancelStatus where
  | SUCCESS
  | NO_TIMER_AVAIL
  | TIMER_CANCEL_NOT_ALLOWED
  deriving Repr, DecidableEq

/-- {lit}`ev_timer_taskCancel`, which clears the handle if it cancels. -/
def Pool.taskCancel (pool : Pool γ) (evt : Option Slot) : CancelStatus × Option Slot × Pool γ :=
  match evt with
  | none => (.NO_TIMER_AVAIL, none, pool)
  | some i =>
      match pool.evt i with
      | none => (.NO_TIMER_AVAIL, some i, pool)
      | some event =>
          if event.isBusy then (.TIMER_CANCEL_NOT_ALLOWED, some i, pool)
          else (.SUCCESS, none, pool.set i none)

/-- The part of {lit}`ev_timer_executeCB` in front of the callback of a slot. -/
def Pool.beginCB (pool : Pool γ) (i : Slot) : Pool γ :=
  pool.set i ((pool.evt i).map fun event => { event with isBusy := true })

/-- The part of {lit}`ev_timer_executeCB` behind the callback, by what it returned. -/
def Pool.endCB (pool : Pool γ) (i : Slot) (t : Int) : Pool γ :=
  if t < 0 then
    pool.set i none
  else if t = 0 then
    pool.set i ((pool.evt i).map fun event =>
      { event with timeout := event.period, isBusy := false })
  else
    pool.set i ((pool.evt i).map fun event =>
      { event with timeout := t.toNat, period := t.toNat, isBusy := false })

/-! ## Slots -/

@[simp] theorem set_evt_self (pool : Pool γ) (i : Slot) (event : Option (TimerEvent γ)) :
    (pool.set i event).evt i = event := by
  simp [Pool.set]

theorem set_evt_ne (pool : Pool γ) {i j : Slot} (hne : j ≠ i) (event : Option (TimerEvent γ)) :
    (pool.set i event).evt j = pool.evt j := by
  simp [Pool.set, hne]

@[simp] theorem set_set (pool : Pool γ) (i : Slot) (event event' : Option (TimerEvent γ)) :
    (pool.set i event).set i event' = pool.set i event' := by
  simp [Pool.set]

/-- The slot that is taken was free. -/
theorem evt_of_freeGet {pool : Pool γ} {i : Slot} (hfree : pool.freeGet = some i) :
    pool.evt i = none := by
  have hnone := List.find?_some hfree
  exact Option.isNone_iff_eq_none.mp hnone

/-- What a slot with the given callback is replaced with by a callback's run. -/
theorem endCB_beginCB (pool : Pool γ) (i : Slot) (t : Int) :
    (pool.beginCB i).endCB i t = pool.set i
      (if t < 0 then none
      else if t = 0 then (pool.evt i).map fun event =>
        { event with timeout := event.period, isBusy := false }
      else (pool.evt i).map fun event =>
        { event with timeout := t.toNat, period := t.toNat, isBusy := false }) := by
  unfold Pool.endCB Pool.beginCB
  split
  · rw [set_set]
  · split
    · simp [Function.comp_def]
    · simp [Function.comp_def]

/-! ## Pending callbacks -/

/-- The callback is pending in a slot. -/
def Pool.PendingAt (pool : Pool γ) (func : γ) (i : Slot) : Prop :=
  ∃ event, pool.evt i = some event ∧ event.cb = func

/-- No callback is running. -/
def Pool.Idle (pool : Pool γ) : Prop :=
  ∀ i event, pool.evt i = some event → event.isBusy = false

/-- The handle points to the one slot in which the callback is pending. -/
def Pool.Owns (pool : Pool γ) (func : γ) (handle : Option Slot) : Prop :=
  ∀ i, pool.PendingAt func i ↔ handle = some i

theorem idle_init : (Pool.init : Pool γ).Idle := by
  intro i event hevent
  cases hevent

theorem owns_init (func : γ) : (Pool.init : Pool γ).Owns func none := by
  intro i
  constructor
  · rintro ⟨event, hevent, -⟩
    cases hevent
  · intro hnone
    cases hnone

section Owner

variable {pool : Pool γ} {func : γ} {handle : Option Slot} {i : Slot}

theorem Pool.Idle.set (hidle : pool.Idle) {event : Option (TimerEvent γ)}
    (hevent : ∀ e, event = some e → e.isBusy = false) : (pool.set i event).Idle := by
  intro j e he
  by_cases hj : j = i
  · rw [hj, set_evt_self] at he
    exact hevent e he
  · rw [set_evt_ne pool hj] at he
    exact hidle j e he

/-- A slot in which something else happens. -/
theorem Pool.Owns.set_other (howns : pool.Owns func handle) (hnot : ¬pool.PendingAt func i)
    {event : Option (TimerEvent γ)} (hevent : ∀ e, event = some e → e.cb ≠ func) :
    (pool.set i event).Owns func handle := by
  intro j
  rw [← howns j]
  by_cases hj : j = i
  · subst hj
    refine iff_of_false ?_ hnot
    rintro ⟨e, he, hcb⟩
    rw [set_evt_self] at he
    exact hevent e he hcb
  · unfold Pool.PendingAt
    rw [set_evt_ne pool hj]

/-- The slot of the callback is emptied. -/
theorem Pool.Owns.free (howns : pool.Owns func (some i)) : (pool.set i none).Owns func none := by
  intro j
  refine iff_of_false ?_ (by simp)
  rintro ⟨e, he, hcb⟩
  by_cases hj : j = i
  · rw [hj, set_evt_self] at he
    cases he
  · rw [set_evt_ne pool hj] at he
    have hhandle := (howns j).mp ⟨e, he, hcb⟩
    exact hj (Option.some.inj hhandle).symm

/-- The callback is pending nowhere, and is posted. -/
theorem Pool.Owns.taskPost {t_ms : Nat} {pool' : Pool γ} (howns : pool.Owns func none)
    (hpost : pool.taskPost func t_ms = some (i, pool')) : pool'.Owns func (some i) := by
  unfold Pool.taskPost at hpost
  split at hpost
  · rename_i slot hfree
    cases hpost
    intro j
    by_cases hj : j = i
    · rw [hj]
      refine iff_of_true ⟨_, set_evt_self _ _ _, rfl⟩ rfl
    · have hno := (howns j).mp
      refine iff_of_false ?_ fun h => hj (Option.some.inj h).symm
      rintro ⟨e, he, hcb⟩
      rw [set_evt_ne pool hj] at he
      cases hno ⟨e, he, hcb⟩
  · cases hpost

/-- Another callback is posted. -/
theorem Pool.Owns.taskPost_other {func' : γ} {t_ms : Nat} {pool' : Pool γ}
    (howns : pool.Owns func handle) (hne : func' ≠ func)
    (hpost : pool.taskPost func' t_ms = some (i, pool')) : pool'.Owns func handle := by
  unfold Pool.taskPost at hpost
  split at hpost
  · rename_i slot hfree
    cases hpost
    apply howns.set_other
    · rintro ⟨e, he, -⟩
      rw [evt_of_freeGet hfree] at he
      cases he
    · intro e he
      cases he
      exact hne
  · cases hpost

theorem Pool.Idle.taskPost {func' : γ} {t_ms : Nat} {pool' : Pool γ} (hidle : pool.Idle)
    (hpost : pool.taskPost func' t_ms = some (i, pool')) : pool'.Idle := by
  unfold Pool.taskPost at hpost
  split at hpost
  · cases hpost
    apply hidle.set
    intro e he
    cases he
    rfl
  · cases hpost

/-- The owner cancels: nothing is pending, and the handle is {lit}`NULL`. -/
theorem Pool.Owns.taskCancel (howns : pool.Owns func handle) (hidle : pool.Idle) :
    (pool.taskCancel handle).2.1 = none ∧ (pool.taskCancel handle).2.2.Owns func none ∧
      (pool.taskCancel handle).2.2.Idle := by
  unfold Pool.taskCancel
  cases handle with
  | none => exact ⟨rfl, howns, hidle⟩
  | some i =>
      rcases (howns i).mpr rfl with ⟨event, hevent, -⟩
      have hbusy := hidle i event hevent
      simp only [hevent, hbusy]
      exact ⟨rfl, howns.free, hidle.set (by simp)⟩

/-- The timer of the callback has expired, and the callback says that it is done. -/
theorem Pool.Owns.expired {t : Int} (howns : pool.Owns func handle)
    (hpending : pool.PendingAt func i) (hdone : t < 0) :
    ((pool.beginCB i).endCB i t).Owns func none := by
  have hhandle := (howns i).mp hpending
  rw [endCB_beginCB, if_pos hdone]
  rw [hhandle] at howns
  exact howns.free

/-- The timer of another callback has expired. -/
theorem Pool.Owns.expired_other (howns : pool.Owns func handle) (hnot : ¬pool.PendingAt func i)
    (t : Int) : ((pool.beginCB i).endCB i t).Owns func handle := by
  rw [endCB_beginCB]
  apply howns.set_other hnot
  intro e he hcb
  have hsome : ∃ event, pool.evt i = some event ∧ event.cb = e.cb := by
    split at he
    · cases he
    · split at he
      · rcases Option.map_eq_some_iff.mp he with ⟨event, hevent, rfl⟩
        exact ⟨event, hevent, rfl⟩
      · rcases Option.map_eq_some_iff.mp he with ⟨event, hevent, rfl⟩
        exact ⟨event, hevent, rfl⟩
  rcases hsome with ⟨event, hevent, hsame⟩
  exact hnot ⟨event, hevent, hsame.trans hcb⟩

theorem Pool.Idle.expired (hidle : pool.Idle) (t : Int) : ((pool.beginCB i).endCB i t).Idle := by
  rw [endCB_beginCB]
  apply hidle.set
  intro e he
  split at he
  · cases he
  · split at he
    · rcases Option.map_eq_some_iff.mp he with ⟨event, -, rfl⟩
      rfl
    · rcases Option.map_eq_some_iff.mp he with ⟨event, -, rfl⟩
      rfl

end Owner

end EvTimer
