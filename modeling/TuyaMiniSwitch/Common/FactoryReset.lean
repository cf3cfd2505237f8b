import TuyaMiniSwitch.Library.Machine

/-!
# Common - Factory reset by power cycles

{lit}`factory_reset.c` counts the boots that end before a timer of four seconds fires.
The count lives in one byte of the NV memory: it is read and incremented at a boot, and
set to zero by the timer.  What the read answers is not looked at.

Main results:

- Theorem {lit}`powerCnt_eq`: the count of a boot, as a number of boots.
- Theorem {lit}`request_iff`: when a boot asks for the factory reset.
- Theorem {lit}`factory_reset_after_power_cycles`: when that is right.
-/

namespace FactoryReset

open Machine

def FACTORY_RESET_POWER_CNT_THRESHOLD : UInt8 := 3

/-- In seconds. -/
def FACTORY_RESET_TIMEOUT : Nat := 4

/-- How {lit}`nv_flashReadNew` comes back from the item of one byte. -/
inductive NvRead where
  | NV_SUCC
  /-- Nothing was read into the buffer. -/
  | NV_ITEM_NOT_FOUND
  /-- The byte that was read is in the buffer, and the item is deleted. -/
  | NV_CHECK_SUM_ERROR (byte : UInt8)
  deriving Repr, DecidableEq

/-- The variables of {lit}`factory_reset.c`, the time at which its timer is due, and the
item {lit}`NV_ITEM_APP_POWER_CNT`. -/
structure FactoryRst where
  powerCnt : UInt8 := 0
  exist : Bool := false
  timerEvt : Option Nat := none
  item : Option UInt8
  deriving Repr, DecidableEq

/-- What is asked of the stack. -/
inductive ZbRequest where
  | zbFactoryReset
  deriving Repr, DecidableEq

/-- {lit}`factoryRst_powerCntSave`. -/
def powerCntSave (s : FactoryRst) : FactoryRst :=
  { s with item := some s.powerCnt }

/-- {lit}`factoryRst_powerCntRestore`. -/
def powerCntRestore (s : FactoryRst) (read : NvRead) : FactoryRst :=
  match read with
  | .NV_SUCC => { s with powerCnt := s.item.getD s.powerCnt }
  | .NV_ITEM_NOT_FOUND => s
  | .NV_CHECK_SUM_ERROR byte => { s with powerCnt := byte, item := none }

/-- {lit}`factoryRst_timerCb`. -/
def timerCb (s : FactoryRst) : FactoryRst :=
  let s := if FACTORY_RESET_POWER_CNT_THRESHOLD ≤ s.powerCnt then { s with exist := true } else s
  let s := powerCntSave { s with powerCnt := 0 }
  { s with timerEvt := none }

/-- {lit}`factoryRst_handler`. -/
def handler (s : FactoryRst) : FactoryRst × List ZbRequest :=
  if s.exist then ({ s with exist := false }, [.zbFactoryReset]) else (s, [])

/-- {lit}`factoryRst_init`. -/
def init (s : FactoryRst) (read : NvRead) : FactoryRst :=
  let s := powerCntRestore s read
  let s := powerCntSave { s with powerCnt := s.powerCnt + 1 }
  let s := if s.timerEvt.isSome then { s with timerEvt := none } else s
  { s with timerEvt := some (FACTORY_RESET_TIMEOUT * 1000) }

/-- One round of the main loop at a time in milliseconds: {lit}`ev_timer_process`, and
then {lit}`app_task`. -/
def evMain (s : FactoryRst) (time : Nat) : FactoryRst × List ZbRequest :=
  let s :=
    match s.timerEvt with
    | some due => if due ≤ time then timerCb s else s
    | none => s
  handler s

/-! ## Boots -/

/-- One boot: what the read answers, and when the main loop comes round before the power
goes. -/
structure PowerUp where
  read : NvRead
  loops : List Nat
  deriving Repr, DecidableEq

/-- The main loop still comes round when the timer is due. -/
def PowerUp.Survives (b : PowerUp) : Prop :=
  ∃ time ∈ b.loops, FACTORY_RESET_TIMEOUT * 1000 ≤ time

instance (b : PowerUp) : Decidable b.Survives :=
  inferInstanceAs (Decidable (∃ time ∈ b.loops, _ ≤ time))

/-- The state behind {lit}`factoryRst_init`: the RAM starts anew and the item stays. -/
def PowerUp.start (item : Option UInt8) (b : PowerUp) : FactoryRst :=
  init { item := item } b.read

/-- The item that a boot leaves behind. -/
def PowerUp.itemAfter (item : Option UInt8) (b : PowerUp) : Option UInt8 :=
  (run (fun s time => (evMain s time).1) (b.start item) b.loops).item

/-- What a boot asks of the stack. -/
def PowerUp.requests (item : Option UInt8) (b : PowerUp) : List ZbRequest :=
  trace (fun s time => (evMain s time).1) (fun s time => (evMain s time).2) (b.start item)
    b.loops

/-- The item before a boot, as the boots before it have left it. -/
def itemBefore (earlier : List PowerUp) : Option UInt8 :=
  run PowerUp.itemAfter none earlier

/-! ## Runs of short boots -/

/-- The boots since the last one that survived or could not read the count, and the byte
that the failed read left in the variable. -/
structure ShortBoots where
  left : UInt8 := 0
  length : Nat := 0
  deriving Repr, DecidableEq

/-- A boot ends the run it continues, or a run of its own when nothing can be read. -/
def ShortBoots.next (r : ShortBoots) (b : PowerUp) : ShortBoots :=
  match b.read with
  | .NV_SUCC => { r with length := r.length + 1 }
  | .NV_ITEM_NOT_FOUND => { left := 0, length := 1 }
  | .NV_CHECK_SUM_ERROR byte => { left := byte, length := 1 }

/-- What the next boot continues. -/
def ShortBoots.after (r : ShortBoots) (b : PowerUp) : ShortBoots :=
  if b.Survives then {} else r.next b

/-- The run that a boot ends. -/
def runEndedBy (earlier : List PowerUp) (b : PowerUp) : ShortBoots :=
  (run ShortBoots.after {} earlier).next b

/-- The byte counts the run right, as far as the threshold goes. -/
def ShortBoots.Told (r : ShortBoots) : Prop :=
  FACTORY_RESET_POWER_CNT_THRESHOLD.toNat ≤ r.length ↔
    FACTORY_RESET_POWER_CNT_THRESHOLD.toNat ≤ (r.left.toNat + r.length) % 256

instance (r : ShortBoots) : Decidable r.Told :=
  inferInstanceAs (Decidable (_ ↔ _))

/-! ## One boot -/

/-- Behind the timer nothing happens any more. -/
theorem loops_done (loops : List Nat) {s : FactoryRst} (htimer : s.timerEvt = none)
    (hexist : s.exist = false) :
    run (fun s time => (evMain s time).1) s loops = s ∧
      trace (fun s time => (evMain s time).1) (fun s time => (evMain s time).2) s loops = [] := by
  have hround : ∀ time, evMain s time = (s, []) := by
    intro time
    simp [evMain, handler, htimer, hexist]
  induction loops with
  | nil => exact ⟨rfl, rfl⟩
  | cons time loops ih => simpa [trace, hround] using ih

/-- The round in which the timer is due. -/
theorem evMain_due {s : FactoryRst} {due time : Nat} (htimer : s.timerEvt = some due)
    (hexist : s.exist = false) (hdue : due ≤ time) :
    evMain s time = ({ s with powerCnt := 0, item := some 0, timerEvt := none },
      if FACTORY_RESET_POWER_CNT_THRESHOLD ≤ s.powerCnt then [.zbFactoryReset] else []) := by
  by_cases hcount : FACTORY_RESET_POWER_CNT_THRESHOLD ≤ s.powerCnt
  · simp [evMain, handler, timerCb, powerCntSave, htimer, hdue, hcount, hexist]
  · simp [evMain, handler, timerCb, powerCntSave, htimer, hdue, hcount, hexist]

/-- The rounds of a boot from {lit}`factoryRst_init` on. -/
theorem loops_waiting (loops : List Nat) {s : FactoryRst} {due : Nat}
    (htimer : s.timerEvt = some due) (hexist : s.exist = false) :
    (run (fun s time => (evMain s time).1) s loops).item =
        (if ∃ time ∈ loops, due ≤ time then some 0 else s.item) ∧
      trace (fun s time => (evMain s time).1) (fun s time => (evMain s time).2) s loops =
        if (∃ time ∈ loops, due ≤ time) ∧ FACTORY_RESET_POWER_CNT_THRESHOLD ≤ s.powerCnt then
          [.zbFactoryReset]
        else [] := by
  induction loops with
  | nil => simp [trace]
  | cons time loops ih =>
      by_cases hdue : due ≤ time
      · have hround := evMain_due htimer hexist hdue
        have hrest := loops_done loops
          (s := { s with powerCnt := 0, item := some 0, timerEvt := none }) rfl hexist
        simp [trace, hround, hrest.1, hrest.2, hdue]
      · have hround : evMain s time = (s, []) := by
          simp [evMain, handler, htimer, hdue, hexist]
        simpa [trace, hround, hdue] using ih

section Boot

variable (item : Option UInt8) (b : PowerUp)

theorem start_timerEvt : (b.start item).timerEvt = some (FACTORY_RESET_TIMEOUT * 1000) := rfl

theorem start_item : (b.start item).item = some (b.start item).powerCnt := by
  unfold PowerUp.start init powerCntSave powerCntRestore
  cases b.read <;> rfl

theorem start_exist : (b.start item).exist = false := by
  unfold PowerUp.start init powerCntSave powerCntRestore
  cases b.read <;> rfl

/-- The count of a boot. -/
theorem start_powerCnt : (b.start item).powerCnt =
    (match b.read with
      | .NV_SUCC => item.getD 0
      | .NV_ITEM_NOT_FOUND => 0
      | .NV_CHECK_SUM_ERROR byte => byte) + 1 := by
  unfold PowerUp.start init powerCntSave powerCntRestore
  cases b.read <;> rfl

theorem itemAfter_eq :
    b.itemAfter item = if b.Survives then some 0 else some (b.start item).powerCnt := by
  have hloops := loops_waiting b.loops (start_timerEvt item b) (start_exist item b)
  rw [PowerUp.itemAfter, hloops.1, start_item]
  rfl

theorem requests_eq :
    b.requests item =
      if b.Survives ∧ FACTORY_RESET_POWER_CNT_THRESHOLD ≤ (b.start item).powerCnt then
        [.zbFactoryReset]
      else [] := by
  have hloops := loops_waiting b.loops (start_timerEvt item b) (start_exist item b)
  rw [PowerUp.requests, hloops.2]
  rfl

end Boot

/-! ## Any number of boots -/

/-- The item holds the length of the run that the next boot continues. -/
def Holds (item : Option UInt8) (r : ShortBoots) : Prop :=
  (item.getD 0).toNat = (r.left.toNat + r.length) % 256

/-- The count of a boot is the length of the run it ends. -/
theorem start_of_holds {item : Option UInt8} {r : ShortBoots} (hholds : Holds item r)
    (b : PowerUp) :
    (b.start item).powerCnt.toNat = ((r.next b).left.toNat + (r.next b).length) % 256 := by
  have hone : (1 : UInt8).toNat = 1 := rfl
  unfold Holds at hholds
  rw [start_powerCnt, UInt8.toNat_add, hone]
  unfold ShortBoots.next
  cases b.read with
  | NV_SUCC =>
      rw [hholds, Nat.mod_add_mod]
      rfl
  | NV_ITEM_NOT_FOUND => rfl
  | NV_CHECK_SUM_ERROR byte => rfl

theorem holds_after {item : Option UInt8} {r : ShortBoots} (hholds : Holds item r)
    (b : PowerUp) : Holds (b.itemAfter item) (r.after b) := by
  rw [itemAfter_eq]
  unfold ShortBoots.after
  by_cases hsurvives : b.Survives
  · rw [if_pos hsurvives, if_pos hsurvives]
    rfl
  · rw [if_neg hsurvives, if_neg hsurvives]
    exact start_of_holds hholds b

theorem holds_run (boots : List PowerUp) {item : Option UInt8} {r : ShortBoots}
    (hholds : Holds item r) :
    Holds (run PowerUp.itemAfter item boots) (run ShortBoots.after r boots) := by
  induction boots generalizing item r with
  | nil => exact hholds
  | cons b boots ih => exact ih (holds_after hholds b)

/-- The count of a boot is the length of the run that it ends, as far as one byte goes. -/
theorem powerCnt_eq (earlier : List PowerUp) (b : PowerUp) :
    (b.start (itemBefore earlier)).powerCnt.toNat =
      ((runEndedBy earlier b).left.toNat + (runEndedBy earlier b).length) % 256 :=
  have hnew : Holds none {} := rfl
  start_of_holds (holds_run earlier hnew) b

/-- A boot asks for the factory reset when it survives and the byte says three. -/
theorem request_iff (earlier : List PowerUp) (b : PowerUp) :
    .zbFactoryReset ∈ b.requests (itemBefore earlier) ↔
      b.Survives ∧ FACTORY_RESET_POWER_CNT_THRESHOLD.toNat ≤
        ((runEndedBy earlier b).left.toNat + (runEndedBy earlier b).length) % 256 := by
  rw [requests_eq, ← powerCnt_eq, ← UInt8.le_iff_toNat_le]
  split
  · rename_i hboth
    simp [hboth]
  · rename_i hnot
    simp [hnot]

/-- A boot after any others asks for the factory reset exactly if it survives and ends a
run of three boots at least.  That holds of a boot unless it survives and ends a run that
the byte tells wrongly. -/
theorem factory_reset_after_power_cycles (earlier : List PowerUp) (b : PowerUp) :
    (.zbFactoryReset ∈ b.requests (itemBefore earlier) ↔
        b.Survives ∧
          FACTORY_RESET_POWER_CNT_THRESHOLD.toNat ≤ (runEndedBy earlier b).length) ↔
      (b.Survives → (runEndedBy earlier b).Told) := by
  rw [request_iff]
  unfold ShortBoots.Told
  by_cases hsurvives : b.Survives
  · simp only [hsurvives, true_and, true_implies]
    exact iff_comm
  · simp [hsurvives]

/-- Without a damaged item the byte is wrong about the runs that are up to two boots
longer than a multiple of 256. -/
theorem told_of_left_zero {r : ShortBoots} (hleft : r.left = 0) :
    r.Told ↔ r.length < 256 ∨ 3 ≤ r.length % 256 := by
  have hthreshold : FACTORY_RESET_POWER_CNT_THRESHOLD.toNat = 3 := rfl
  have hzero : (0 : UInt8).toNat = 0 := rfl
  rw [ShortBoots.Told, hthreshold, hleft, hzero]
  omega

/-- A boot that ends before the timer is due, and one that does not. -/
def shortBoot : PowerUp := { read := .NV_SUCC, loops := [] }

def longBoot : PowerUp := { read := .NV_SUCC, loops := [4000] }

/-- The boot after 255 short ones does not ask for the factory reset. -/
theorem no_factory_reset_after_256_boots :
    longBoot.Survives ∧
      FACTORY_RESET_POWER_CNT_THRESHOLD.toNat ≤
        (runEndedBy (List.replicate 255 shortBoot) longBoot).length ∧
      .zbFactoryReset ∉ longBoot.requests (itemBefore (List.replicate 255 shortBoot)) := by
  have hrun : runEndedBy (List.replicate 255 shortBoot) longBoot =
      { left := 0, length := 256 } := by
    decide +kernel
  rw [request_iff, hrun]
  decide

end FactoryReset
