import Mathlib.Data.Bool.Basic

/-!
# App - 64-bit arithmetic

What {lit}`app_arith64.c` puts in the place of the compiler's own routines, on a processor with
words of 32 bits: shifts, counts of bits and divisions of numbers of 64 bits.

Main results:

- Theorem {lit}`shifts_eq`: the shifts are those of numbers of 64 bits.
- Theorem {lit}`counts_eq`: the zeros in front and behind are counted.
-/

namespace Arith64

/-! ## Words -/

/-- {lit}`arith64_word`: the two halves of a number. -/
structure Word where
  lo : BitVec 32
  hi : BitVec 32

def Word.of (a : BitVec 64) : Word where
  lo := a.setWidth 32
  hi := (a >>> 32).setWidth 32

def Word.num (w : Word) : BitVec 64 := w.hi.setWidth 64 <<< 32 ||| w.lo.setWidth 64

/-- {lit}`arith64_hi`. -/
def hi (a : BitVec 64) : BitVec 32 := (Word.of a).hi

/-- {lit}`arith64_lo`. -/
def lo (a : BitVec 64) : BitVec 32 := (Word.of a).lo

/-! ## Shifts -/

/-- {lit}`__ashldi3`. -/
def ashldi3 (a : BitVec 64) (b : BitVec 32) : BitVec 64 :=
  let w := Word.of a
  let b := (b &&& 63).toNat
  if b ≥ 32 then Word.num { hi := w.lo <<< (b - 32), lo := 0 }
  else if b ≠ 0 then Word.num { hi := w.lo >>> (32 - b) ||| w.hi <<< b, lo := w.lo <<< b }
  else w.num

/-- {lit}`__ashrdi3`. -/
def ashrdi3 (a : BitVec 64) (b : BitVec 32) : BitVec 64 :=
  let w := Word.of a
  let b := (b &&& 63).toNat
  if b ≥ 32 then Word.num { lo := w.hi.sshiftRight (b - 32), hi := w.hi.sshiftRight 31 }
  else if b ≠ 0 then
    Word.num { lo := w.hi <<< (32 - b) ||| w.lo >>> b, hi := w.hi.sshiftRight b }
  else w.num

/-- {lit}`__lshrdi3`. -/
def lshrdi3 (a : BitVec 64) (b : BitVec 32) : BitVec 64 :=
  let w := Word.of a
  let b := (b &&& 63).toNat
  if b ≥ 32 then Word.num { lo := w.hi >>> (b - 32), hi := 0 }
  else if b ≠ 0 then Word.num { lo := w.hi <<< (32 - b) ||| w.lo >>> b, hi := w.hi >>> b }
  else w.num

theorem getLsbD_num (w : Word) (i : Nat) :
    w.num.getLsbD i = if i < 32 then w.lo.getLsbD i else w.hi.getLsbD (i - 32) := by
  rw [Word.num, BitVec.getLsbD_or, BitVec.getLsbD_shiftLeft, BitVec.getLsbD_setWidth,
    BitVec.getLsbD_setWidth]
  by_cases hi : i < 32
  · simp [hi, show i < 64 by omega]
  · have hlo : w.lo.getLsbD i = false := BitVec.getLsbD_of_ge _ _ (by omega)
    by_cases hlt : i < 64
    · simp [hi, hlo, hlt, show i - 32 < 64 by omega]
    · have hhi : w.hi.getLsbD (i - 32) = false := BitVec.getLsbD_of_ge _ _ (by omega)
      simp [hi, hlo, hhi, hlt]

theorem getLsbD_lo (a : BitVec 64) (i : Nat) :
    (Word.of a).lo.getLsbD i = (decide (i < 32) && a.getLsbD i) := BitVec.getLsbD_setWidth ..

theorem getLsbD_hi (a : BitVec 64) (i : Nat) :
    (Word.of a).hi.getLsbD i = (decide (i < 32) && a.getLsbD (32 + i)) := by
  rw [Word.of, BitVec.getLsbD_setWidth, BitVec.getLsbD_ushiftRight]

theorem num_of (a : BitVec 64) : (Word.of a).num = a := by
  apply BitVec.eq_of_getLsbD_eq
  intro i hi
  rw [getLsbD_num, getLsbD_lo, getLsbD_hi]
  split
  · simp [*]
  · rw [Nat.add_sub_cancel' (by omega), decide_eq_true (by omega), Bool.true_and]

theorem shift_lt (b : BitVec 32) : (b &&& 63).toNat < 64 := by
  rw [BitVec.toNat_and]
  exact Nat.lt_of_le_of_lt Nat.and_le_right (by decide)

theorem ashldi3_eq (a : BitVec 64) (b : BitVec 32) : ashldi3 a b = a <<< (b &&& 63).toNat := by
  have hlt := shift_lt b
  apply BitVec.eq_of_getLsbD_eq
  intro i hi
  rw [ashldi3, BitVec.getLsbD_shiftLeft]
  generalize (b &&& 63).toNat = n at hlt
  split
  · rw [getLsbD_num]
    simp only [BitVec.getLsbD_shiftLeft, getLsbD_lo]
    grind
  · split
    · rw [getLsbD_num]
      simp only [BitVec.getLsbD_shiftLeft, BitVec.getLsbD_ushiftRight, BitVec.getLsbD_or,
        getLsbD_lo, getLsbD_hi]
      grind
    · rw [num_of]
      grind

/-- The lower half of a number that is shifted right. -/
theorem getLsbD_low (a : BitVec 64) {n i : Nat} (hn : n < 32) (hi : i < 32) :
    ((Word.of a).hi <<< (32 - n) ||| (Word.of a).lo >>> n).getLsbD i = a.getLsbD (n + i) := by
  rw [BitVec.getLsbD_or, BitVec.getLsbD_shiftLeft, BitVec.getLsbD_ushiftRight, getLsbD_lo,
    getLsbD_hi]
  by_cases hlow : i < 32 - n
  · simp [hlow, show n + i < 32 by omega]
  · have hbit : 32 + (i - (32 - n)) = n + i := by omega
    simp [hi, hlow, hbit, show i - (32 - n) < 32 by omega, show ¬ n + i < 32 by omega]

theorem lshrdi3_eq (a : BitVec 64) (b : BitVec 32) : lshrdi3 a b = a >>> (b &&& 63).toNat := by
  have hlt := shift_lt b
  apply BitVec.eq_of_getLsbD_eq
  intro i hi
  rw [lshrdi3, BitVec.getLsbD_ushiftRight]
  generalize (b &&& 63).toNat = n at hlt
  split
  · rw [getLsbD_num]
    simp only [BitVec.getLsbD_ushiftRight, getLsbD_hi]
    grind
  · split
    · rw [getLsbD_num]
      split
      · exact getLsbD_low a (by omega) (by assumption)
      · simp only [BitVec.getLsbD_ushiftRight, getLsbD_hi]
        grind
    · rw [num_of]
      grind

theorem msb_hi (a : BitVec 64) : (Word.of a).hi.msb = a.msb := by
  rw [BitVec.msb_eq_getLsbD_last, BitVec.msb_eq_getLsbD_last, getLsbD_hi]
  rfl

theorem ashrdi3_eq (a : BitVec 64) (b : BitVec 32) :
    ashrdi3 a b = a.sshiftRight (b &&& 63).toNat := by
  have hlt := shift_lt b
  apply BitVec.eq_of_getLsbD_eq
  intro i hi
  rw [ashrdi3, BitVec.getLsbD_sshiftRight]
  generalize (b &&& 63).toNat = n at hlt
  split
  · rw [getLsbD_num]
    simp only [BitVec.getLsbD_sshiftRight, getLsbD_hi, msb_hi]
    grind [BitVec.msb_eq_getLsbD_last]
  · split
    · rw [getLsbD_num]
      split
      · rw [getLsbD_low a (by omega) (by assumption)]
        grind
      · simp only [BitVec.getLsbD_sshiftRight, getLsbD_hi, msb_hi]
        grind
    · rw [num_of]
      grind

/-- Numbers of 64 bits are shifted by the lowest six bits of the count. -/
theorem shifts_eq (a : BitVec 64) (b : BitVec 32) :
    ashldi3 a b = a <<< (b.toNat % 64) ∧ lshrdi3 a b = a >>> (b.toNat % 64) ∧
      ashrdi3 a b = a.sshiftRight (b.toNat % 64) := by
  have hcount : (b &&& 63).toNat = b.toNat % 64 := by
    rw [BitVec.toNat_and]
    exact Nat.and_two_pow_sub_one_eq_mod b.toNat 6
  rw [ashldi3_eq, lshrdi3_eq, ashrdi3_eq, hcount]
  exact ⟨rfl, rfl, rfl⟩

/-! ## Counts of zeros -/

variable {w : Nat}

/-- A line of {lit}`__clzsi2` or {lit}`__clzdi2`: the count and what is left of the number. -/
def clzStep (mask : BitVec w) (k : Nat) (s : Nat × BitVec w) : Nat × BitVec w :=
  let b := (if s.2 &&& mask = 0 then 1 else 0) <<< k
  (s.1 + b, s.2 <<< b)

/-- {lit}`__clzsi2`. -/
def clzsi2 (a : BitVec 32) : Nat :=
  let s := clzStep 0xffff0000 4 (0, a)
  let s := clzStep 0xff000000 3 s
  let s := clzStep 0xf0000000 2 s
  let s := clzStep 0xc0000000 1 s
  s.1 + if s.2 &&& 0x80000000 = 0 then 1 else 0

/-- {lit}`__clzdi2`. -/
def clzdi2 (a : BitVec 64) : Nat :=
  let s := clzStep 0xffffffff00000000 5 (0, a)
  let s := clzStep 0xffff000000000000 4 s
  let s := clzStep 0xff00000000000000 3 s
  let s := clzStep 0xf000000000000000 2 s
  let s := clzStep 0xc000000000000000 1 s
  s.1 + if s.2 &&& 0x8000000000000000 = 0 then 1 else 0

/-- A line of {lit}`__ctzsi2` or {lit}`__ctzdi2`. -/
def ctzStep (mask : BitVec w) (k : Nat) (s : Nat × BitVec w) : Nat × BitVec w :=
  let b := (if s.2 &&& mask = 0 then 1 else 0) <<< k
  (s.1 + b, s.2 >>> b)

/-- {lit}`__ctzsi2`. -/
def ctzsi2 (a : BitVec 32) : Nat :=
  let s := ctzStep 0x0000ffff 4 (0, a)
  let s := ctzStep 0x000000ff 3 s
  let s := ctzStep 0x0000000f 2 s
  let s := ctzStep 0x00000003 1 s
  s.1 + if s.2 &&& 0x00000001 = 0 then 1 else 0

/-- {lit}`__ctzdi2`. -/
def ctzdi2 (a : BitVec 64) : Nat :=
  let s := ctzStep 0x00000000ffffffff 5 (0, a)
  let s := ctzStep 0x000000000000ffff 4 s
  let s := ctzStep 0x00000000000000ff 3 s
  let s := ctzStep 0x000000000000000f 2 s
  let s := ctzStep 0x0000000000000003 1 s
  s.1 + if s.2 &&& 0x0000000000000001 = 0 then 1 else 0

/-- {lit}`__ffsdi2`. -/
def ffsdi2 (a : BitVec 64) : Nat := if a ≠ 0 then ctzdi2 a + 1 else 0

theorem and_eq_zero_iff (c mask : BitVec w) :
    c &&& mask = 0 ↔ ∀ i, mask.getLsbD i = true → c.getLsbD i = false := by
  constructor
  · intro h i hi
    have hbit : (c &&& mask).getLsbD i = false := by
      rw [h]
      exact BitVec.getLsbD_zero
    rwa [BitVec.getLsbD_and, hi, Bool.and_true] at hbit
  · intro h
    apply BitVec.eq_of_getLsbD_eq
    intro i _
    rw [BitVec.getLsbD_and]
    cases hmask : mask.getLsbD i with
    | false => rw [Bool.and_false]; exact BitVec.getLsbD_zero.symm
    | true => rw [h i hmask]; exact BitVec.getLsbD_zero.symm

/-- The zeros in front that were counted, with the rest, one of whose upper bits is set. -/
structure Normalised (a : BitVec w) (b : Nat) (s : Nat × BitVec w) : Prop where
  rest : s.2 = a <<< s.1
  zeros : ∀ i, w - s.1 ≤ i → a.getLsbD i = false
  upper : ∃ i, w - b ≤ i ∧ s.2.getLsbD i = true

/-- The zeros behind that were counted, with the rest, one of whose lower bits is set. -/
structure Reduced (a : BitVec w) (b : Nat) (s : Nat × BitVec w) : Prop where
  rest : s.2 = a >>> s.1
  zeros : ∀ i < s.1, a.getLsbD i = false
  lower : ∃ i < b, s.2.getLsbD i = true

theorem clzStep_spec {a mask : BitVec w} {b k : Nat} {s : Nat × BitVec w} (hk : 1 <<< k = b)
    (hmask : ∀ i, mask.getLsbD i = decide (w - b ≤ i ∧ i < w)) (h : Normalised a (2 * b) s) :
    Normalised a b (clzStep mask k s) := by
  obtain ⟨i, hi, hbit⟩ := h.upper
  rw [clzStep]
  split
  · rename_i hzero
    rw [and_eq_zero_iff] at hzero
    have hupper : ∀ j, w - b ≤ j → s.2.getLsbD j = false := by
      intro j hj
      by_cases hlt : j < w
      · exact hzero j (by rw [hmask, decide_eq_true ⟨hj, hlt⟩])
      · exact BitVec.getLsbD_of_ge _ _ (by omega)
    have hlow : i < w - b := by
      rw [← Nat.not_le]
      intro hle
      rw [hupper i hle] at hbit
      cases hbit
    rw [hk]
    refine ⟨by rw [h.rest, BitVec.shiftLeft_add], fun j hj => ?_, i + b, by omega, ?_⟩
    · by_cases hmore : w - s.1 ≤ j
      · exact h.zeros j hmore
      · have hrest := hupper (j + s.1) (by omega)
        rw [h.rest, BitVec.getLsbD_shiftLeft, Nat.add_sub_cancel] at hrest
        simpa [show j + s.1 < w by omega] using hrest
    · rw [BitVec.getLsbD_shiftLeft, Nat.add_sub_cancel, hbit]
      simp
      omega
  · rename_i hsome
    rw [and_eq_zero_iff] at hsome
    rw [Nat.zero_shiftLeft]
    have hkept : s.2 <<< 0 = s.2 := BitVec.shiftLeft_zero s.2
    rw [Nat.add_zero, hkept]
    refine ⟨h.rest, h.zeros, ?_⟩
    apply Classical.byContradiction
    intro hnone
    refine hsome fun j hj => ?_
    rw [hmask, decide_eq_true_iff] at hj
    rw [← Bool.not_eq_true]
    exact fun hset => hnone ⟨j, hj.1, hset⟩

theorem ctzStep_spec {a mask : BitVec w} {b k : Nat} {s : Nat × BitVec w} (hk : 1 <<< k = b)
    (hmask : ∀ i, mask.getLsbD i = decide (i < b)) (h : Reduced a (2 * b) s) :
    Reduced a b (ctzStep mask k s) := by
  obtain ⟨i, hi, hbit⟩ := h.lower
  rw [ctzStep]
  split
  · rename_i hzero
    rw [and_eq_zero_iff] at hzero
    have hlower : ∀ j < b, s.2.getLsbD j = false :=
      fun j hj => hzero j (by rw [hmask, decide_eq_true hj])
    have hhigh : b ≤ i := by
      rw [← Nat.not_lt]
      intro hlt
      rw [hlower i hlt] at hbit
      cases hbit
    rw [hk]
    refine ⟨by rw [h.rest, BitVec.shiftRight_add], fun j hj => ?_, i - b, by omega, ?_⟩
    · by_cases hless : j < s.1
      · exact h.zeros j hless
      · have hrest := hlower (j - s.1) (by omega)
        rwa [h.rest, BitVec.getLsbD_ushiftRight, Nat.add_sub_cancel' (by omega)] at hrest
    · rw [BitVec.getLsbD_ushiftRight, Nat.add_sub_cancel' hhigh, hbit]
  · rename_i hsome
    rw [and_eq_zero_iff] at hsome
    rw [Nat.zero_shiftLeft]
    have hkept : s.2 >>> 0 = s.2 := BitVec.ushiftRight_zero s.2
    rw [Nat.add_zero, hkept]
    refine ⟨h.rest, h.zeros, ?_⟩
    apply Classical.byContradiction
    intro hnone
    refine hsome fun j hj => ?_
    rw [hmask, decide_eq_true_iff] at hj
    rw [← Bool.not_eq_true]
    exact fun hset => hnone ⟨j, hj, hset⟩

theorem Normalised.count {a : BitVec w} {s : Nat × BitVec w} (hw : 0 < w) (ha : a ≠ 0)
    (h : Normalised a 1 s) : s.1 = a.clz.toNat := by
  obtain ⟨i, hi, hbit⟩ := h.upper
  have hlt := BitVec.lt_of_getLsbD hbit
  rw [h.rest, BitVec.getLsbD_shiftLeft] at hbit
  simp only [Bool.and_eq_true, Bool.not_eq_true', decide_eq_true_iff,
    decide_eq_false_iff_not] at hbit
  have hfirst := BitVec.getLsbD_true_clz_of_ne_zero hw ha
  rcases Nat.lt_trichotomy s.1 a.clz.toNat with hless | heq | hmore
  · have hfalse : a.getLsbD (i - s.1) = false :=
      Nat.testBit_lt_two_pow (Nat.lt_of_lt_of_le BitVec.toNat_lt_two_pow_sub_clz
        (Nat.pow_le_pow_right (by decide) (by omega)))
    rw [hfalse] at hbit
    exact absurd hbit.2 (by decide)
  · exact heq
  · rw [h.zeros _ (by omega)] at hfirst
    cases hfirst

theorem Reduced.count {a : BitVec w} {s : Nat × BitVec w} (ha : a ≠ 0) (h : Reduced a 1 s) :
    s.1 = a.ctz.toNat := by
  obtain ⟨i, hi, hbit⟩ := h.lower
  rw [h.rest, BitVec.getLsbD_ushiftRight] at hbit
  have hfirst := BitVec.getLsbD_true_ctz_of_ne_zero ha
  rcases Nat.lt_trichotomy s.1 a.ctz.toNat with hless | heq | hmore
  · rw [BitVec.getLsbD_false_of_lt_ctz (by omega)] at hbit
    cases hbit
  · exact heq
  · rw [h.zeros _ hmore] at hfirst
    cases hfirst

/-- Some bit of a number is set. -/
theorem exists_bit {a : BitVec w} (ha : a ≠ 0) : ∃ i < w, a.getLsbD i = true :=
  ⟨a.ctz.toNat, BitVec.lt_of_getLsbD (BitVec.getLsbD_true_ctz_of_ne_zero ha),
    BitVec.getLsbD_true_ctz_of_ne_zero ha⟩

theorem normalised_start {a : BitVec w} (ha : a ≠ 0) : Normalised a w (0, a) := by
  obtain ⟨i, -, hbit⟩ := exists_bit ha
  exact ⟨(BitVec.shiftLeft_zero a).symm, fun j hj => BitVec.getLsbD_of_ge _ _ hj, i, by omega, hbit⟩

theorem reduced_start {a : BitVec w} (ha : a ≠ 0) : Reduced a w (0, a) := by
  obtain ⟨i, hi, hbit⟩ := exists_bit ha
  exact ⟨(BitVec.ushiftRight_zero a).symm, fun j hj => absurd hj (Nat.not_lt_zero j), i, hi, hbit⟩

theorem upperMask (n i : Nat) :
    (BitVec.allOnes w <<< n).getLsbD i = decide (n ≤ i ∧ i < w) := by
  rw [BitVec.getLsbD_shiftLeft, BitVec.getLsbD_allOnes]
  grind

theorem lowerMask (n i : Nat) (hn : n ≤ w) :
    (BitVec.allOnes w >>> (w - n)).getLsbD i = decide (i < n) := by
  rw [BitVec.getLsbD_ushiftRight, BitVec.getLsbD_allOnes]
  grind

theorem clzsi2_eq {a : BitVec 32} (ha : a ≠ 0) : clzsi2 a = a.clz.toNat := by
  have h := normalised_start ha
  have h := clzStep_spec (b := 16) (k := 4) rfl (upperMask 16) h
  have h := clzStep_spec (b := 8) (k := 3) rfl (upperMask 24) h
  have h := clzStep_spec (b := 4) (k := 2) rfl (upperMask 28) h
  have h := clzStep_spec (b := 2) (k := 1) rfl (upperMask 30) h
  exact (clzStep_spec (b := 1) (k := 0) rfl (upperMask 31) h).count (by decide) ha

theorem clzdi2_eq {a : BitVec 64} (ha : a ≠ 0) : clzdi2 a = a.clz.toNat := by
  have h := normalised_start ha
  have h := clzStep_spec (b := 32) (k := 5) rfl (upperMask 32) h
  have h := clzStep_spec (b := 16) (k := 4) rfl (upperMask 48) h
  have h := clzStep_spec (b := 8) (k := 3) rfl (upperMask 56) h
  have h := clzStep_spec (b := 4) (k := 2) rfl (upperMask 60) h
  have h := clzStep_spec (b := 2) (k := 1) rfl (upperMask 62) h
  exact (clzStep_spec (b := 1) (k := 0) rfl (upperMask 63) h).count (by decide) ha

theorem ctzsi2_eq {a : BitVec 32} (ha : a ≠ 0) : ctzsi2 a = a.ctz.toNat := by
  have h := reduced_start ha
  have h := ctzStep_spec (b := 16) (k := 4) rfl (fun i => lowerMask 16 i (by decide)) h
  have h := ctzStep_spec (b := 8) (k := 3) rfl (fun i => lowerMask 8 i (by decide)) h
  have h := ctzStep_spec (b := 4) (k := 2) rfl (fun i => lowerMask 4 i (by decide)) h
  have h := ctzStep_spec (b := 2) (k := 1) rfl (fun i => lowerMask 2 i (by decide)) h
  exact (ctzStep_spec (b := 1) (k := 0) rfl (fun i => lowerMask 1 i (by decide)) h).count ha

theorem ctzdi2_eq {a : BitVec 64} (ha : a ≠ 0) : ctzdi2 a = a.ctz.toNat := by
  have h := reduced_start ha
  have h := ctzStep_spec (b := 32) (k := 5) rfl (fun i => lowerMask 32 i (by decide)) h
  have h := ctzStep_spec (b := 16) (k := 4) rfl (fun i => lowerMask 16 i (by decide)) h
  have h := ctzStep_spec (b := 8) (k := 3) rfl (fun i => lowerMask 8 i (by decide)) h
  have h := ctzStep_spec (b := 4) (k := 2) rfl (fun i => lowerMask 4 i (by decide)) h
  have h := ctzStep_spec (b := 2) (k := 1) rfl (fun i => lowerMask 2 i (by decide)) h
  exact (ctzStep_spec (b := 1) (k := 0) rfl (fun i => lowerMask 1 i (by decide)) h).count ha

/-- The zeros in front of a number and behind it are counted, of 64 bits as of 32. -/
theorem counts_eq {a : BitVec 64} {c : BitVec 32} (ha : a ≠ 0) (hc : c ≠ 0) :
    clzdi2 a = a.clz.toNat ∧ ctzdi2 a = a.ctz.toNat ∧ ffsdi2 a = a.ctz.toNat + 1 ∧
      clzsi2 c = c.clz.toNat ∧ ctzsi2 c = c.ctz.toNat := by
  refine ⟨clzdi2_eq ha, ctzdi2_eq ha, ?_, clzsi2_eq hc, ctzsi2_eq hc⟩
  rw [ffsdi2, if_pos ha, ctzdi2_eq ha]

/-- Of a number with six bits. -/
theorem counts_eq_small : clzdi2 40 = (40 : BitVec 64).clz.toNat ∧
    ctzdi2 40 = (40 : BitVec 64).ctz.toNat ∧ ffsdi2 40 = (40 : BitVec 64).ctz.toNat + 1 ∧
      clzsi2 40 = (40 : BitVec 32).clz.toNat ∧ ctzsi2 40 = (40 : BitVec 32).ctz.toNat :=
  counts_eq (by decide) (by decide)

end Arith64
