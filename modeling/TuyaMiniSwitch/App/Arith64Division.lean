import TuyaMiniSwitch.App.Arith64

/-!
# App - 64-bit division

The divisions of {lit}`app_arith64.c`: a loop that brings down one bit of the numerator after
another.

Main results:

- Theorem {lit}`unsigned_division_eq`: quotient and remainder of numbers without sign.
- Theorem {lit}`signed_division_eq`: quotient and remainder of numbers with sign.
-/

namespace Arith64

/-! ## Signs -/

/-- {lit}`arith64_neg`. -/
def neg (a b : BitVec 64) : BitVec 64 :=
  (a ^^^ ((if 0 ≤ b.toInt then 1 else 0) - 1)) + if b.toInt < 0 then 1 else 0

/-- {lit}`arith64_abs`. -/
def abs (a : BitVec 64) : BitVec 64 := neg a a

/-- {lit}`__absvdi2`. -/
def absvdi2 (a : BitVec 64) : BitVec 64 := abs a

theorem neg_eq (a b : BitVec 64) : neg a b = if b.msb then -a else a := by
  rw [neg]
  cases hsign : b.msb with
  | true =>
      have hlt : b.toInt < 0 := BitVec.toInt_neg_of_msb_true hsign
      rw [if_neg (by omega), if_pos hlt, if_pos rfl, BitVec.neg_eq_not_add]
      congr 1
      exact BitVec.xor_allOnes
  | false =>
      have hle : 0 ≤ b.toInt := BitVec.toInt_nonneg_of_msb_false hsign
      rw [if_pos hle, if_neg (by omega), if_neg (by decide)]
      simp

/-! ## Long division -/

/-- The variables of the loop of {lit}`__divmoddi4`. -/
structure LongDivision where
  rem : BitVec 64
  a : BitVec 64
  wrap : BitVec 64

/-- A pass of that loop. -/
def divPass (b : BitVec 64) (s : LongDivision) : LongDivision :=
  let rem := (s.rem <<< 1) ||| (s.a >>> 63)
  let a := (s.a <<< 1) ||| (s.wrap &&& 1)
  let wrap := (b - rem - 1).sshiftRight 63
  { rem := rem - (b &&& wrap), a, wrap }

/-- That loop. -/
def divLoop (b : BitVec 64) : Nat → LongDivision → LongDivision
  | 0, s => s
  | bits + 1, s => divLoop b bits (divPass b s)

/-- {lit}`__divmoddi4` for a divisor that is not zero: the quotient and the remainder. -/
def divmoddi4 (a b : BitVec 64) : BitVec 64 × BitVec 64 :=
  if b > a then (0, a)
  else if hi b = 0 ∧ b = 1 then (a, 0)
  else if hi b = 0 ∧ hi a = 0 then
    ((lo a / lo b).setWidth 64, (lo a % lo b).setWidth 64)
  else
    let bits := clzdi2 b - clzdi2 a + 1
    let s := divLoop b bits { rem := a >>> bits, a := a <<< (64 - bits), wrap := 0 }
    ((s.a <<< 1) ||| (s.wrap &&& 1), s.rem)

/-- {lit}`__udivdi3`. -/
def udivdi3 (a b : BitVec 64) : BitVec 64 := (divmoddi4 a b).1

/-- {lit}`__umoddi3`. -/
def umoddi3 (a b : BitVec 64) : BitVec 64 := (divmoddi4 a b).2

/-- {lit}`__divdi3`. -/
def divdi3 (a b : BitVec 64) : BitVec 64 :=
  let q := (divmoddi4 (abs a) (abs b)).1
  neg q (a ^^^ b)

/-- {lit}`__moddi3`. -/
def moddi3 (a b : BitVec 64) : BitVec 64 :=
  let r := (divmoddi4 (abs a) (abs b)).2
  neg r a

/-! ## One bit more -/

/-- A digit that is brought down. -/
theorem div_digit {n b d : Nat} (hb : 0 < b) (hd : d < 2) :
    (2 * n + d) / b = 2 * (n / b) + (if b ≤ 2 * (n % b) + d then 1 else 0) ∧
      (2 * n + d) % b = 2 * (n % b) + d - (if b ≤ 2 * (n % b) + d then b else 0) := by
  have hrem := Nat.mod_lt n hb
  have hdiv := Nat.div_add_mod n b
  have hmul : b * (2 * (n / b) + 1) = 2 * (b * (n / b)) + b := by
    rw [Nat.mul_add, Nat.mul_one, Nat.mul_left_comm]
  have hmul' : b * (2 * (n / b)) = 2 * (b * (n / b)) := Nat.mul_left_comm ..
  split
  · rename_i hle
    have hsplit : 2 * n + d = b * (2 * (n / b) + 1) + (2 * (n % b) + d - b) := by omega
    have hsmall : 2 * (n % b) + d - b < b := by omega
    rw [hsplit, Nat.mul_add_div hb, Nat.mul_add_mod, Nat.div_eq_of_lt hsmall,
      Nat.mod_eq_of_lt hsmall]
    exact ⟨rfl, rfl⟩
  · rename_i hlt
    have hsplit : 2 * n + d = b * (2 * (n / b)) + (2 * (n % b) + d) := by omega
    have hsmall : 2 * (n % b) + d < b := by omega
    rw [hsplit, Nat.mul_add_div hb, Nat.mul_add_mod, Nat.div_eq_of_lt hsmall,
      Nat.mod_eq_of_lt hsmall]
    exact ⟨rfl, rfl⟩

/-- The comparison by the sign of a difference is right where the loop makes it. -/
theorem wrap_eq {b rem : BitVec 64} (hrem : rem.toNat < 2 * b.toNat)
    (hb : b.toNat < 9223372036854775808 ∨ b.toNat ≤ rem.toNat) :
    (b - rem - 1).sshiftRight 63 = if b.toNat ≤ rem.toNat then BitVec.allOnes 64 else 0 := by
  have hlt := rem.isLt
  have hlt' := b.isLt
  have hmsb : (b - rem - 1).msb = decide (b.toNat ≤ rem.toNat) := by
    rw [BitVec.msb_eq_decide, BitVec.toNat_sub, BitVec.toNat_sub, decide_eq_decide]
    have hone : (1 : BitVec 64).toNat = 1 := rfl
    rw [hone]
    omega
  apply BitVec.eq_of_getLsbD_eq
  intro i hi
  have hbit : (if 63 + i < 64 then (b - rem - 1).getLsbD (63 + i) else (b - rem - 1).msb) =
      decide (b.toNat ≤ rem.toNat) := by
    split
    · have hzero : i = 0 := by omega
      rw [hzero]
      exact hmsb
    · exact hmsb
  rw [BitVec.getLsbD_sshiftRight, hbit]
  by_cases hle : b.toNat ≤ rem.toNat
  · rw [if_pos hle, BitVec.getLsbD_allOnes]
    simp [hle, hi, show ¬ 64 ≤ i by omega]
  · rw [if_neg hle]
    simp [hle]

/-- The digits of a number that were brought down are divided, {lit}`j` of them are not. -/
structure Dividing (n b : BitVec 64) (j : Nat) (s : LongDivision) : Prop where
  rem : s.rem.toNat = (n.toNat >>> j) % b.toNat
  quotient : ∃ q : BitVec 64, q.toNat = (n.toNat >>> j) / b.toNat ∧
    s.a = (n <<< (64 - j) ||| q >>> 1) ∧ s.wrap &&& 1 = q &&& 1

theorem shiftRight_step (n j : Nat) :
    n >>> j = 2 * (n >>> (j + 1)) + (n.testBit j).toNat := by
  rw [Nat.shiftRight_succ, Nat.testBit]
  have hmod : 1 &&& (n >>> j) = (n >>> j) % 2 := by
    rw [Nat.and_comm]
    exact Nat.and_one_is_mod _
  rw [hmod]
  have hcases := Nat.mod_two_eq_zero_or_one (n >>> j)
  rcases hcases with hmod | hmod
  · rw [hmod]
    simp
    omega
  · rw [hmod]
    simp
    omega

/-- What the loop shifts out of the numerator. -/
theorem top_digit {n q : BitVec 64} {j : Nat} (hj : j < 64) :
    (n <<< (64 - (j + 1)) ||| q >>> 1) >>> 63 = BitVec.ofNat 64 (n.toNat.testBit j).toNat := by
  apply BitVec.eq_of_getLsbD_eq
  intro i hi
  have hout : q.getLsbD (1 + (63 + i)) = false := BitVec.getLsbD_of_ge _ _ (by omega)
  rw [BitVec.getLsbD_ushiftRight, BitVec.getLsbD_or, BitVec.getLsbD_shiftLeft,
    BitVec.getLsbD_ushiftRight, hout, Bool.or_false, BitVec.getLsbD_ofNat]
  cases i with
  | zero =>
      have hindex : 63 + 0 - (64 - (j + 1)) = j := by omega
      rw [hindex, BitVec.getLsbD]
      cases n.toNat.testBit j <;> simp
  | succ i =>
      rw [decide_eq_false (p := 63 + (i + 1) < 64) (by omega)]
      cases n.toNat.testBit j <;> simp [Nat.testBit_succ]

/-- A bit is put behind a number. -/
theorem append_bit (x : BitVec 64) (d : Bool) :
    x <<< 1 ||| BitVec.ofNat 64 d.toNat = x <<< 1 + BitVec.ofNat 64 d.toNat := by
  refine (BitVec.add_eq_or_of_and_eq_zero _ _ ?_).symm
  apply BitVec.eq_of_getLsbD_eq
  intro i hi
  rw [BitVec.getLsbD_and, BitVec.getLsbD_shiftLeft, BitVec.getLsbD_ofNat]
  cases i with
  | zero => simp
  | succ i => cases d <;> simp [Nat.testBit_succ]

/-- A bit of the quotient that comes a pass late. -/
theorem rejoin (q : BitVec 64) : (q >>> 1) <<< 1 ||| (q &&& 1) = q := by
  apply BitVec.eq_of_getLsbD_eq
  intro i hi
  rw [BitVec.getLsbD_or, BitVec.getLsbD_shiftLeft, BitVec.getLsbD_ushiftRight, BitVec.getLsbD_and]
  cases i with
  | zero => simp
  | succ i =>
      have hone : (1 : BitVec 64).getLsbD (i + 1) = false := by simp
      rw [hone]
      simp [hi, Nat.add_comm]

theorem divPass_spec {n b : BitVec 64} {j : Nat} {s : LongDivision} (hb : b ≠ 0) (hj : j < 64)
    (hle : b.toNat ≤ n.toNat) (hwide : b.toNat < 9223372036854775808 ∨ j = 0)
    (h : Dividing n b (j + 1) s) : Dividing n b j (divPass b s) := by
  obtain ⟨q, hq, ha, hwrap⟩ := h.quotient
  have hpos : 0 < b.toNat := Nat.pos_of_ne_zero fun hzero => hb (BitVec.eq_of_toNat_eq hzero)
  have hstep := shiftRight_step n.toNat j
  have hdigit := Bool.toNat_lt (n.toNat.testBit j)
  obtain ⟨hdiv, hmod⟩ := div_digit (n := n.toNat >>> (j + 1)) hpos hdigit
  rw [← hstep] at hdiv hmod
  have hshift : n.toNat >>> j ≤ n.toNat := Nat.shiftRight_le n.toNat j
  have hn := n.isLt
  obtain ⟨rem, hrem⟩ : ∃ rem, rem = (s.rem <<< 1) ||| (s.a >>> 63) := ⟨_, rfl⟩
  have hmodle := Nat.mod_le (n.toNat >>> (j + 1)) b.toNat
  have hmodlt := Nat.mod_lt (n.toNat >>> (j + 1)) hpos
  have hnum : rem.toNat = 2 * ((n.toNat >>> (j + 1)) % b.toNat) + (n.toNat.testBit j).toNat := by
    rw [hrem, ha, top_digit hj, append_bit, BitVec.toNat_add, BitVec.toNat_shiftLeft, h.rem,
      BitVec.toNat_ofNat, Nat.shiftLeft_eq]
    omega
  have hrest : (s.a <<< 1) ||| (s.wrap &&& 1) = n <<< (64 - j) ||| q := by
    have hcount : 64 - (j + 1) + 1 = 64 - j := by omega
    rw [hwrap, ha, BitVec.shiftLeft_or_distrib, ← BitVec.shiftLeft_add, hcount, BitVec.or_assoc,
      rejoin]
  have hcompare : (b - rem - 1).sshiftRight 63 =
      if b.toNat ≤ rem.toNat then BitVec.allOnes 64 else 0 := by
    refine wrap_eq (by omega) ?_
    by_cases hsmall : b.toNat < 9223372036854775808
    · exact Or.inl hsmall
    · -- a divisor with 64 bits has but one digit brought down
      obtain rfl : j = 0 := hwide.resolve_left hsmall
      have hhalf : n.toNat >>> (0 + 1) = n.toNat / 2 := rfl
      have hwhole : n.toNat >>> 0 = n.toNat := rfl
      rw [Nat.mod_eq_of_lt (by omega)] at hnum
      omega
  have hquot : ((n.toNat >>> j) / b.toNat) ≤ n.toNat >>> j := Nat.div_le_self ..
  obtain ⟨q', hq'⟩ : ∃ q' : BitVec 64, q'.toNat = (n.toNat >>> j) / b.toNat :=
    ⟨BitVec.ofNat 64 ((n.toNat >>> j) / b.toNat),
      by rw [BitVec.toNat_ofNat, Nat.mod_eq_of_lt (by omega)]⟩
  rw [← hnum] at hdiv hmod
  have hhalf : q' >>> 1 = q := by
    apply BitVec.eq_of_toNat_eq
    rw [BitVec.toNat_ushiftRight, Nat.shiftRight_eq_div_pow, hq', hdiv, hq]
    split <;> omega
  rw [divPass, ← hrem, hrest, hcompare]
  refine ⟨?_, q', hq', by rw [hhalf], ?_⟩
  · rw [hmod]
    split
    · rename_i hwrap
      have hall : b &&& BitVec.allOnes 64 = b := BitVec.and_allOnes
      rw [hall, BitVec.toNat_sub_of_le (BitVec.le_def.mpr hwrap)]
    · have hnone : b &&& 0 = 0 := BitVec.and_zero
      rw [hnone, Nat.sub_zero]
      exact congrArg BitVec.toNat (BitVec.sub_zero rem)
  · apply BitVec.eq_of_toNat_eq
    have hone : (1 : BitVec 64).toNat = 1 := rfl
    have hlow : (q' &&& 1).toNat = (n.toNat >>> j) / b.toNat % 2 := by
      rw [BitVec.toNat_and, hone, Nat.and_one_is_mod, hq']
    rw [hlow, hdiv]
    split
    · rw [Nat.mul_add_mod]
      change (BitVec.allOnes 64 &&& 1).toNat = 1 % 2
      decide
    · rw [Nat.add_zero, Nat.mul_mod_right]
      change ((0 : BitVec 64) &&& 1).toNat = 0
      decide

theorem divLoop_spec {n b : BitVec 64} {j : Nat} (hb : b ≠ 0) (hj : j ≤ 64)
    (hle : b.toNat ≤ n.toNat) (hwide : b.toNat < 9223372036854775808 ∨ j ≤ 1) {s : LongDivision}
    (h : Dividing n b j s) : Dividing n b 0 (divLoop b j s) := by
  induction j generalizing s with
  | zero => exact h
  | succ j ih =>
      refine ih (by omega) (by omega) (divPass_spec hb (by omega) hle ?_ h)
      omega

/-- The digits that are not brought down one by one are fewer than those of the divisor. -/
theorem dividing_start {n b : BitVec 64} {j : Nat} (hsmall : n.toNat >>> j < b.toNat) :
    Dividing n b j { rem := n >>> j, a := n <<< (64 - j), wrap := 0 } := by
  refine ⟨?_, 0, ?_, ?_, rfl⟩
  · rw [Nat.mod_eq_of_lt hsmall]
    rfl
  · rw [Nat.div_eq_of_lt hsmall]
    rfl
  · have hzero : (0 : BitVec 64) >>> 1 = 0 := rfl
    rw [hzero]
    exact BitVec.or_zero.symm

theorem toNat_lo {a : BitVec 64} (h : hi a = 0) : (lo a).toNat = a.toNat := by
  have hhi : (hi a).toNat = 0 := by
    rw [h]
    rfl
  have hlt := a.isLt
  rw [hi, Word.of, BitVec.toNat_setWidth, BitVec.toNat_ushiftRight,
    Nat.shiftRight_eq_div_pow] at hhi
  rw [lo, Word.of, BitVec.toNat_setWidth]
  omega

/-- How many digits are brought down. -/
theorem digits {a b : BitVec 64} (hb : b ≠ 0) (hle : b.toNat ≤ a.toNat) :
    clzdi2 b - clzdi2 a + 1 ≤ 64 ∧
      (b.toNat < 9223372036854775808 ∨ clzdi2 b - clzdi2 a + 1 ≤ 1) ∧
      a.toNat >>> (clzdi2 b - clzdi2 a + 1) < b.toNat := by
  have ha : a ≠ 0 := by
    rintro rfl
    exact hb (BitVec.eq_of_toNat_eq (Nat.le_zero.mp hle))
  have hbelow := BitVec.toNat_lt_two_pow_sub_clz (x := a)
  have habove := BitVec.two_pow_sub_clz_le_toNat_of_ne_zero (by decide) hb
  have hzeros : b.clz.toNat < 64 := by
    have hclz := BitVec.clz_lt_iff_ne_zero.mpr hb
    exact BitVec.lt_def.mp hclz
  rw [clzdi2_eq ha, clzdi2_eq hb]
  have hclz : 64 - 1 - b.clz.toNat < 64 - a.clz.toNat :=
    (Nat.pow_lt_pow_iff_right Nat.one_lt_two).mp (by omega)
  refine ⟨by omega, ?_, ?_⟩
  · rcases Nat.eq_zero_or_pos b.clz.toNat with hzero | hpos
    · exact Or.inr (by omega)
    · left
      have hbound := BitVec.toNat_lt_two_pow_sub_clz (x := b)
      exact Nat.lt_of_lt_of_le hbound (Nat.pow_le_pow_right (by decide) (by omega : _ ≤ 63))
  · have hsum : 64 - a.clz.toNat = (b.clz.toNat - a.clz.toNat + 1) + (64 - 1 - b.clz.toNat) := by
      omega
    rw [hsum, Nat.pow_add] at hbelow
    rw [Nat.shiftRight_eq_div_pow]
    exact Nat.div_lt_of_lt_mul (Nat.lt_of_lt_of_le hbelow (Nat.mul_le_mul_left _ habove))

theorem divmoddi4_spec (a : BitVec 64) {b : BitVec 64} (hb : b ≠ 0) :
    divmoddi4 a b = (a / b, a % b) := by
  have hpair : ∀ q r : BitVec 64, q.toNat = a.toNat / b.toNat → r.toNat = a.toNat % b.toNat →
      (q, r) = (a / b, a % b) := by
    intro q r hq hr
    rw [Prod.mk.injEq]
    exact ⟨BitVec.eq_of_toNat_eq (hq.trans BitVec.toNat_udiv.symm),
      BitVec.eq_of_toNat_eq (hr.trans BitVec.toNat_umod.symm)⟩
  rw [divmoddi4]
  split
  · rename_i hlt
    have hlt' : a.toNat < b.toNat := hlt
    exact hpair _ _ (Nat.div_eq_of_lt hlt').symm (Nat.mod_eq_of_lt hlt').symm
  · rename_i hle
    have hle' : b.toNat ≤ a.toNat := Nat.not_lt.mp hle
    split
    · rename_i hone
      refine hpair _ _ ?_ ?_
      · rw [hone.2]
        exact (Nat.div_one a.toNat).symm
      · rw [hone.2]
        exact (Nat.mod_one a.toNat).symm
    · split
      · rename_i hshort
        have hdiv := Nat.div_le_self a.toNat b.toNat
        have hmod := Nat.mod_le a.toNat b.toNat
        have hlt := a.isLt
        refine hpair _ _ ?_ ?_
        · rw [BitVec.toNat_setWidth, BitVec.toNat_udiv, toNat_lo hshort.1, toNat_lo hshort.2]
          exact Nat.mod_eq_of_lt (by omega)
        · rw [BitVec.toNat_setWidth, BitVec.toNat_umod, toNat_lo hshort.1, toNat_lo hshort.2]
          exact Nat.mod_eq_of_lt (by omega)
      · obtain ⟨hbits, hwide, hsmall⟩ := digits hb hle'
        have hdone := divLoop_spec hb hbits hle' hwide (dividing_start hsmall)
        obtain ⟨q, hq, ha, hwrap⟩ := hdone.quotient
        dsimp only
        refine hpair _ _ ?_ hdone.rem
        have hout : a <<< (64 - 0) ||| q >>> 1 = q >>> 1 := by
          rw [BitVec.shiftLeft_eq_zero (by decide), BitVec.zero_or]
        rw [ha, hout, hwrap, rejoin]
        exact hq

/-- Quotient and remainder of any two numbers, if the divisor is not zero. -/
theorem unsigned_division_eq (a : BitVec 64) {b : BitVec 64} (hb : b ≠ 0) :
    (udivdi3 a b).toNat = a.toNat / b.toNat ∧ (umoddi3 a b).toNat = a.toNat % b.toNat := by
  rw [udivdi3, umoddi3, divmoddi4_spec a hb]
  exact ⟨BitVec.toNat_udiv, BitVec.toNat_umod⟩

/-- A divisor that is as long as the numerator. -/
theorem unsigned_division_eq_long :
    (udivdi3 0xffffffffffffffff 0x8000000000000001).toNat =
        (0xffffffffffffffff : BitVec 64).toNat / (0x8000000000000001 : BitVec 64).toNat ∧
      (umoddi3 0xffffffffffffffff 0x8000000000000001).toNat =
        (0xffffffffffffffff : BitVec 64).toNat % (0x8000000000000001 : BitVec 64).toNat :=
  unsigned_division_eq _ (by decide)

/-! ## Division with signs -/

theorem abs_ne_zero {b : BitVec 64} (hb : b ≠ 0) : abs b ≠ 0 := by
  rw [abs, neg_eq]
  split
  · exact fun hzero => hb (BitVec.neg_eq_zero_iff.mp hzero)
  · exact hb

theorem divdi3_sdiv (a : BitVec 64) {b : BitVec 64} (hb : b ≠ 0) : divdi3 a b = a.sdiv b := by
  rw [divdi3, divmoddi4_spec _ (abs_ne_zero hb), abs, abs, neg_eq, neg_eq, neg_eq, BitVec.msb_xor,
    BitVec.sdiv_eq]
  cases a.msb <;> cases b.msb <;> rfl

theorem moddi3_srem (a : BitVec 64) {b : BitVec 64} (hb : b ≠ 0) : moddi3 a b = a.srem b := by
  rw [moddi3, divmoddi4_spec _ (abs_ne_zero hb), abs, abs, neg_eq, neg_eq, neg_eq, BitVec.srem_eq]
  cases a.msb <;> cases b.msb <;> rfl

/-- The quotient of the smallest number by minus one is no number of 64 bits. -/
theorem sdiv_intMin_ne :
    (BitVec.sdiv (BitVec.intMin 64) (-1)).toInt ≠
      (BitVec.intMin 64).toInt.tdiv (-1 : BitVec 64).toInt := by
  decide

/-- The quotient is rounded towards zero, and the remainder has the sign of the numerator; only the
quotient of the smallest number by minus one wraps. -/
theorem signed_division_eq (a : BitVec 64) {b : BitVec 64} (hb : b ≠ 0) :
    (divdi3 a b).toInt = (a.toInt.tdiv b.toInt).bmod 18446744073709551616 ∧
      ((divdi3 a b).toInt = a.toInt.tdiv b.toInt ↔ ¬ (a = BitVec.intMin 64 ∧ b = -1)) ∧
      (moddi3 a b).toInt = a.toInt.tmod b.toInt := by
  rw [divdi3_sdiv a hb, moddi3_srem a hb]
  refine ⟨BitVec.toInt_sdiv a b, ⟨?_, fun hother => ?_⟩, BitVec.toInt_srem a b⟩
  · rintro hquotient ⟨rfl, rfl⟩
    exact sdiv_intMin_ne hquotient
  · exact BitVec.toInt_sdiv_of_ne_or_ne a b (Classical.not_and_iff_not_or_not.mp hother)

/-- The smallest number divided by minus one. -/
theorem signed_division_eq_wrap :
    (divdi3 0x8000000000000000 (-1)).toInt =
        ((0x8000000000000000 : BitVec 64).toInt.tdiv (-1 : BitVec 64).toInt).bmod
          18446744073709551616 ∧
      ((divdi3 0x8000000000000000 (-1)).toInt =
          (0x8000000000000000 : BitVec 64).toInt.tdiv (-1 : BitVec 64).toInt ↔
        ¬ ((0x8000000000000000 : BitVec 64) = BitVec.intMin 64 ∧ (-1 : BitVec 64) = -1)) ∧
      (moddi3 0x8000000000000000 (-1)).toInt =
        (0x8000000000000000 : BitVec 64).toInt.tmod (-1 : BitVec 64).toInt :=
  signed_division_eq _ (by decide)

end Arith64
