import Mathlib.Tactic.Common

/-!
# Platform - The buffers

The buffers of {lit}`ev_buffer.c` are blocks of four sizes, of which a few each are in a pool.
An allocation takes the smallest block that is free and large enough.

Main results:

- Theorem {lit}`evBufAllocate_of_large`: there are no buffers of more than 504 bytes.
- Theorem {lit}`evBufAllocate_mono`: where there is a buffer, there is one for less.
-/

namespace EvBuffer

/-- {lit}`BUFFER_GROUP_0` and the other three. -/
def bufferGroups : List Nat := [24, 60, 152, 512]

/-- The offset of {lit}`data` in {lit}`ev_bufItem_t`. -/
def OFFSETOF_DATA : Nat := 8

def MAX_BUFFER_SIZE : Nat := 512 - OFFSETOF_DATA

/-- The search of {lit}`ev_buf_allocate`, over the groups and the number of blocks that each has
left.  It gives the numbers that are left behind it. -/
def takeBlock : List Nat → List Nat → Nat → Option (List Nat)
  | group :: groups, num :: availBufNum, size =>
      if size ≤ group - OFFSETOF_DATA ∧ num ≠ 0 then some ((num - 1) :: availBufNum)
      else (takeBlock groups availBufNum size).map (num :: ·)
  | _, _, _ => none

/-- {lit}`ev_buf_allocate`, with the size as a 16-bit argument. -/
def evBufAllocate (availBufNum : List Nat) (size : Nat) : Option (List Nat) :=
  let size := size % 65536
  if size = 0 ∨ MAX_BUFFER_SIZE < size then none
  else takeBlock bufferGroups availBufNum size

/-- The blocks behind {lit}`ev_buf_init`. -/
def initBufNum : List Nat := [8, 8, 8, 2]

/-- There are no buffers of more than 504 bytes. -/
theorem evBufAllocate_of_large {availBufNum : List Nat} {size : Nat} (hsize : size < 65536)
    (hlarge : MAX_BUFFER_SIZE < size) : evBufAllocate availBufNum size = none := by
  rw [evBufAllocate, Nat.mod_eq_of_lt hsize]
  exact if_pos (Or.inr hlarge)

theorem takeBlock_mono {groups availBufNum : List Nat} {size size' : Nat} (hle : size' ≤ size)
    (hfree : (takeBlock groups availBufNum size).isSome) :
    (takeBlock groups availBufNum size').isSome := by
  induction groups generalizing availBufNum with
  | nil => cases hfree
  | cons group groups ih =>
      cases availBufNum with
      | nil => cases hfree
      | cons num availBufNum =>
          rw [takeBlock] at hfree ⊢
          by_cases hfits' : size' ≤ group - OFFSETOF_DATA ∧ num ≠ 0
          · rw [if_pos hfits']
            rfl
          · have hfits : ¬ (size ≤ group - OFFSETOF_DATA ∧ num ≠ 0) :=
              fun hfits => hfits' ⟨Nat.le_trans hle hfits.1, hfits.2⟩
            rw [if_neg hfits, Option.isSome_map] at hfree
            rw [if_neg hfits', Option.isSome_map]
            exact ih hfree

/-- Where there is a buffer, there is one for less. -/
theorem evBufAllocate_mono {availBufNum : List Nat} {size size' : Nat} (hpos : 0 < size')
    (hle : size' ≤ size) (hsize : size < 65536)
    (hfree : (evBufAllocate availBufNum size).isSome) :
    (evBufAllocate availBufNum size').isSome := by
  unfold evBufAllocate at hfree ⊢
  dsimp only at hfree ⊢
  rw [Nat.mod_eq_of_lt hsize] at hfree
  rw [Nat.mod_eq_of_lt (Nat.lt_of_le_of_lt hle hsize)]
  split at hfree
  · cases hfree
  · rename_i hbounds
    rw [not_or] at hbounds
    have hbounds' : ¬ (size' = 0 ∨ MAX_BUFFER_SIZE < size') := by omega
    rw [if_neg hbounds']
    exact takeBlock_mono hle hfree

end EvBuffer
