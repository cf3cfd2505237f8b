import Mathlib.Algebra.GroupWithZero.Nat

/-!
# Library - Lanes of bytes

Numbers as rows of bytes, lowest first.  An operation on a whole number acts on its bytes one by one
as long as no byte reaches into the next one.

Main results:

- Theorem {lit}`pack_and`, {lit}`pack_shift_and`: masks, behind a shift as well.
- Theorem {lit}`pack_add`, {lit}`pack_sub`: sums and differences.
- Theorem {lit}`countP_testBit_pack`: the bits of a number are those of its bytes.
-/

namespace ByteLanes

/-- The number of a row of bytes. -/
def pack : List Nat → Nat
  | [] => 0
  | d :: ds => 256 * pack ds + d

/-- The first bytes of a number. -/
def bytes : Nat → Nat → List Nat
  | 0, _ => []
  | n + 1, x => x % 256 :: bytes n (x / 256)

/-- A row of the same byte. -/
def lanes (n m : Nat) : Nat := pack (List.replicate n m)

theorem bytes_lt (n x : Nat) : ∀ d ∈ bytes n x, d < 256 := by
  induction n generalizing x with
  | zero => exact fun d hd => absurd hd List.not_mem_nil
  | succ n ih =>
      intro d hd
      rcases List.mem_cons.mp hd with rfl | hd
      · exact Nat.mod_lt x (by decide)
      · exact ih (x / 256) d hd

theorem length_bytes (n x : Nat) : (bytes n x).length = n := by
  induction n generalizing x with
  | zero => rfl
  | succ n ih => rw [bytes, List.length_cons, ih]

theorem lanes_succ (n m : Nat) : lanes (n + 1) m = 256 * lanes n m + m := rfl

theorem pack_bytes {n x : Nat} (hx : x ≤ lanes n 255) : pack (bytes n x) = x := by
  induction n generalizing x with
  | zero => exact (Nat.le_zero.mp hx).symm
  | succ n ih =>
      rw [lanes_succ] at hx
      rw [bytes, pack, ih (by omega), Nat.div_add_mod]

theorem testBit_byte {h l : Nat} (hl : l < 256) (j : Nat) :
    (256 * h + l).testBit j = if j < 8 then l.testBit j else h.testBit (j - 8) :=
  Nat.testBit_two_pow_mul_add (i := 8) h hl j

theorem testBit_high {m k i : Nat} (hm : m >>> k = 0) (hi : k ≤ i) : m.testBit i = false := by
  have hbit := Nat.testBit_shiftRight (i := k) (j := i - k) m
  rw [hm, Nat.zero_testBit, Nat.add_sub_cancel' hi] at hbit
  exact hbit.symm

theorem and_byte {h l m k : Nat} (hl : l < 256) (hk : k < 256) :
    (256 * h + l) &&& (256 * m + k) = 256 * (h &&& m) + (l &&& k) := by
  have hand : l &&& k < 256 := Nat.lt_of_le_of_lt Nat.and_le_left hl
  apply Nat.eq_of_testBit_eq
  intro i
  rw [Nat.testBit_and, testBit_byte hl, testBit_byte hk, testBit_byte hand]
  split
  · exact (Nat.testBit_and ..).symm
  · exact (Nat.testBit_and ..).symm

theorem pack_and {m : Nat} (hm : m < 256) {ds : List Nat} (hds : ∀ d ∈ ds, d < 256) :
    pack ds &&& lanes ds.length m = pack (ds.map fun d => d &&& m) := by
  induction ds with
  | nil => exact Nat.zero_and _
  | cons d ds ih =>
      have hd := hds d List.mem_cons_self
      have ih := ih fun d' hd' => hds d' (List.mem_cons_of_mem d hd')
      rw [List.length_cons, lanes_succ, pack, and_byte hd hm, ih, List.map_cons, pack]

/-- What the byte above shifts in is not in the mask. -/
theorem pack_shift_and {s m : Nat} (hs : s ≤ 8) (hm : m < 256) (hclear : m >>> (8 - s) = 0)
    {ds : List Nat} (hds : ∀ d ∈ ds, d < 256) :
    (pack ds >>> s) &&& lanes ds.length m = pack (ds.map fun d => (d >>> s) &&& m) := by
  induction ds with
  | nil => exact Nat.and_zero _
  | cons d ds ih =>
      have hd := hds d List.mem_cons_self
      have hand : (d >>> s) &&& m < 256 := Nat.lt_of_le_of_lt Nat.and_le_right hm
      have ih := ih fun d' hd' => hds d' (List.mem_cons_of_mem d hd')
      apply Nat.eq_of_testBit_eq
      intro i
      rw [List.map_cons, pack, pack, List.length_cons, lanes_succ, Nat.testBit_and,
        Nat.testBit_shiftRight, testBit_byte hd, testBit_byte hm, testBit_byte hand, ← ih]
      by_cases hi : i < 8
      · rw [if_pos hi, if_pos hi, Nat.testBit_and, Nat.testBit_shiftRight]
        split
        · rfl
        · rw [testBit_high hclear (by omega), Bool.and_false, Bool.and_false]
      · have hindex : s + i - 8 = s + (i - 8) := by omega
        rw [if_neg hi, if_neg hi, if_neg (by omega), Nat.testBit_and, Nat.testBit_shiftRight,
          hindex]

theorem pack_add (ds : List Nat) (f g : Nat → Nat) :
    pack (ds.map f) + pack (ds.map g) = pack (ds.map fun d => f d + g d) := by
  induction ds with
  | nil => rfl
  | cons d ds ih =>
      rw [List.map_cons, List.map_cons, List.map_cons, pack, pack, pack, ← ih]
      omega

theorem pack_le {ds : List Nat} {f g : Nat → Nat} (h : ∀ d ∈ ds, f d ≤ g d) :
    pack (ds.map f) ≤ pack (ds.map g) := by
  induction ds with
  | nil => exact Nat.le_refl 0
  | cons d ds ih =>
      have hd := h d List.mem_cons_self
      have ih := ih fun d' hd' => h d' (List.mem_cons_of_mem d hd')
      rw [List.map_cons, List.map_cons, pack, pack]
      omega

theorem pack_sub (ds : List Nat) {f g : Nat → Nat} (h : ∀ d ∈ ds, g d ≤ f d) :
    pack (ds.map f) - pack (ds.map g) = pack (ds.map fun d => f d - g d) := by
  induction ds with
  | nil => rfl
  | cons d ds ih =>
      have hd := h d List.mem_cons_self
      have htail : ∀ d' ∈ ds, g d' ≤ f d' := fun d' hd' => h d' (List.mem_cons_of_mem d hd')
      have hle := pack_le htail
      have ih := ih htail
      rw [List.map_cons, List.map_cons, List.map_cons, pack, pack, pack, ← ih]
      omega

theorem pack_le_lanes (ds : List Nat) (hds : ∀ d ∈ ds, d < 256) :
    pack ds ≤ lanes ds.length 255 := by
  induction ds with
  | nil => exact Nat.le_refl 0
  | cons d ds ih =>
      have hd := hds d List.mem_cons_self
      have ih := ih fun d' hd' => hds d' (List.mem_cons_of_mem d hd')
      rw [pack, List.length_cons, lanes_succ]
      omega

/-- The bits of a byte. -/
def bitCount (d : Nat) : Nat := (List.range 8).countP d.testBit

theorem countP_testBit_pack {ds : List Nat} (hds : ∀ d ∈ ds, d < 256) :
    (List.range (8 * ds.length)).countP (pack ds).testBit = (ds.map bitCount).sum := by
  induction ds with
  | nil => rfl
  | cons d ds ih =>
      have hd := hds d List.mem_cons_self
      have ih := ih fun d' hd' => hds d' (List.mem_cons_of_mem d hd')
      have hsplit : 8 * (d :: ds).length = 8 + 8 * ds.length := by
        rw [List.length_cons]
        omega
      rw [hsplit, List.range_add, List.countP_append, List.countP_map, List.map_cons,
        List.sum_cons, ← ih, bitCount]
      congr 1
      · refine List.countP_congr fun i hi => ?_
        rw [pack, testBit_byte hd, if_pos (List.mem_range.mp hi)]
      · refine List.countP_congr fun i hi => ?_
        rw [Function.comp_apply, pack, testBit_byte hd, if_neg (by omega), Nat.add_sub_cancel_left]

end ByteLanes
