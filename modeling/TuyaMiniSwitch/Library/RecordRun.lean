import Mathlib.Tactic.Common

/-!
# Library - The first run of valid records

An append-only log of fixed-size slots is recovered by looking for the first
valid slot and then following the valid slots behind it.  The run found this way
depends on the validity of the slots alone, so what an append or a torn append
does to it can be said once, for any notion of validity.

Main results:

- Theorem {lit}`FirstRun.unique`: the first run of a log is unique.
- Theorem {lit}`FirstRun.extend`: a valid slot behind the run joins it.
- Theorem {lit}`FirstRun.keep`: an invalid slot behind the run leaves it as it is.
-/

namespace RecordRun

/-- The slots from {lit}`first` to {lit}`last` are the first maximal run of valid
slots among the first {lit}`size` slots. -/
structure FirstRun (valid : Nat → Prop) (size first last : Nat) : Prop where
  first_le_last : first ≤ last
  last_lt_size : last < size
  invalid_before : ∀ i, i < first → ¬ valid i
  valid_inside : ∀ i, first ≤ i → i ≤ last → valid i
  invalid_after : last + 1 < size → ¬ valid (last + 1)

/-- No slot is valid. -/
def NoRecord (valid : Nat → Prop) (size : Nat) : Prop :=
  ∀ i, i < size → ¬ valid i

variable {valid valid' : Nat → Prop} {size first last first' last' : Nat}

theorem FirstRun.not_noRecord (hrun : FirstRun valid size first last) :
    ¬ NoRecord valid size := by
  intro hnone
  exact hnone last hrun.last_lt_size (hrun.valid_inside last hrun.first_le_last (Nat.le_refl _))

/-- The first run starts at the first valid slot. -/
theorem FirstRun.first_unique (hrun : FirstRun valid size first last)
    (hrun' : FirstRun valid size first' last') : first = first' := by
  rcases Nat.lt_trichotomy first first' with hlt | heq | hgt
  · exact absurd (hrun.valid_inside first (Nat.le_refl _) hrun.first_le_last)
      (hrun'.invalid_before first hlt)
  · exact heq
  · exact absurd (hrun'.valid_inside first' (Nat.le_refl _) hrun'.first_le_last)
      (hrun.invalid_before first' hgt)

theorem FirstRun.last_le (hrun : FirstRun valid size first last)
    (hrun' : FirstRun valid size first' last') : last' ≤ last := by
  by_contra hlt
  have hfirst := hrun.first_unique hrun'
  have hle := hrun.first_le_last
  have hbound := hrun'.last_lt_size
  exact hrun.invalid_after (by omega) (hrun'.valid_inside (last + 1) (by omega) (by omega))

/-- The first run is determined by the validity of the slots. -/
theorem FirstRun.unique (hrun : FirstRun valid size first last)
    (hrun' : FirstRun valid size first' last') : first = first' ∧ last = last' :=
  ⟨hrun.first_unique hrun', Nat.le_antisymm (hrun'.last_le hrun) (hrun.last_le hrun')⟩

/-- Validity may change behind the slot that ends the run. -/
theorem FirstRun.keep (hrun : FirstRun valid size first last)
    (hsame : ∀ i, i ≤ last → (valid' i ↔ valid i))
    (hafter : last + 1 < size → ¬ valid' (last + 1)) :
    FirstRun valid' size first last where
  first_le_last := hrun.first_le_last
  last_lt_size := hrun.last_lt_size
  invalid_before i hi := by
    have hle := hrun.first_le_last
    rw [hsame i (by omega)]
    exact hrun.invalid_before i hi
  valid_inside i hfirst hlast := (hsame i hlast).mpr (hrun.valid_inside i hfirst hlast)
  invalid_after := hafter

/-- A valid slot directly behind the run becomes its new end. -/
theorem FirstRun.extend (hrun : FirstRun valid size first last)
    (hsame : ∀ i, i ≤ last → (valid' i ↔ valid i))
    (hnew : valid' (last + 1)) (hsize : last + 1 < size)
    (hafter : last + 2 < size → ¬ valid' (last + 2)) :
    FirstRun valid' size first (last + 1) where
  first_le_last := Nat.le_succ_of_le hrun.first_le_last
  last_lt_size := hsize
  invalid_before i hi := by
    have hle := hrun.first_le_last
    rw [hsame i (by omega)]
    exact hrun.invalid_before i hi
  valid_inside i hfirst hlast := by
    rcases Nat.lt_or_ge last i with hgt | hle
    · have heq : i = last + 1 := by omega
      rw [heq]
      exact hnew
    · exact (hsame i hle).mpr (hrun.valid_inside i hfirst hle)
  invalid_after := hafter

/-- A log whose only valid slot is the first one. -/
theorem firstRun_zero (hsize : 0 < size) (hzero : valid 0)
    (hafter : 1 < size → ¬ valid 1) : FirstRun valid size 0 0 where
  first_le_last := (Nat.le_refl _)
  last_lt_size := hsize
  invalid_before i hi := absurd hi (Nat.not_lt_zero i)
  valid_inside i _ hlast := by
    have heq : i = 0 := by omega
    rw [heq]
    exact hzero
  invalid_after := hafter

end RecordRun
