import Mathlib.Tactic.Common

/-!
# Library - Cyclic redundancy checks

A reflected CRC of any width: a register that takes a message byte by byte, eight
steps for each.  Everything here follows from two properties of one step.  It is
linear over exclusive or, so the registers of two messages differ by the register
of their difference; and it loses nothing when the polynomial has its top bit, so
a difference never disappears by itself.

Main results:

- Theorem {lit}`feed_xor`: two registers fed with two messages of one length
  differ by the difference of the registers fed with that of the messages.
- Theorem {lit}`feed_eq_steps`: a message that is no longer than the register acts
  as one word.
- Theorem {lit}`feed_replicate_zero_eq_zero_iff`: zero bytes clear no register.
-/

namespace Crc

variable {w : Nat}

/-! ## The register -/

/-- One step of a reflected register. -/
def step (poly r : BitVec w) : BitVec w :=
  if r.getLsbD 0 then (r >>> 1) ^^^ poly else r >>> 1

def steps (poly : BitVec w) : Nat → BitVec w → BitVec w
  | 0, r => r
  | n + 1, r => steps poly n (step poly r)

/-- A message byte as a register. -/
def byteWord (w : Nat) (b : UInt8) : BitVec w :=
  b.toBitVec.setWidth w

def feedByte (poly r : BitVec w) (b : UInt8) : BitVec w :=
  steps poly 8 (r ^^^ byteWord w b)

/-- The register after a message. -/
def feed (poly r : BitVec w) (bytes : List UInt8) : BitVec w :=
  bytes.foldl (feedByte poly) r

theorem steps_add (poly : BitVec w) (m n : Nat) (r : BitVec w) :
    steps poly (m + n) r = steps poly n (steps poly m r) := by
  induction m generalizing r with
  | zero => rw [Nat.zero_add, steps]
  | succ m ih => rw [Nat.succ_add, steps, steps, ih]

@[simp]
theorem feed_nil (poly r : BitVec w) : feed poly r [] = r :=
  rfl

@[simp]
theorem feed_cons (poly r : BitVec w) (b : UInt8) (bytes : List UInt8) :
    feed poly r (b :: bytes) = feed poly (feedByte poly r b) bytes :=
  rfl

theorem feed_append (poly r : BitVec w) (a b : List UInt8) :
    feed poly r (a ++ b) = feed poly (feed poly r a) b := by
  exact List.foldl_append

/-! ## Linearity -/

theorem step_xor (poly r s : BitVec w) :
    step poly (r ^^^ s) = step poly r ^^^ step poly s := by
  unfold step
  rw [BitVec.getLsbD_xor, BitVec.ushiftRight_xor_distrib]
  cases r.getLsbD 0 <;> cases s.getLsbD 0
  case false.false => rfl
  case false.true => exact BitVec.xor_assoc _ _ _
  case true.false =>
    show (r >>> 1 ^^^ s >>> 1) ^^^ poly = (r >>> 1 ^^^ poly) ^^^ s >>> 1
    ac_rfl
  case true.true =>
    show r >>> 1 ^^^ s >>> 1 = (r >>> 1 ^^^ poly) ^^^ (s >>> 1 ^^^ poly)
    have hregroup : (r >>> 1 ^^^ poly) ^^^ (s >>> 1 ^^^ poly) =
        (r >>> 1 ^^^ s >>> 1) ^^^ (poly ^^^ poly) := by
      ac_rfl
    rw [hregroup, BitVec.xor_self, BitVec.xor_zero]

theorem steps_xor (poly : BitVec w) (n : Nat) (r s : BitVec w) :
    steps poly n (r ^^^ s) = steps poly n r ^^^ steps poly n s := by
  induction n generalizing r s with
  | zero => rfl
  | succ n ih => rw [steps, steps, steps, step_xor, ih]

theorem byteWord_xor (a b : UInt8) :
    byteWord w (a ^^^ b) = byteWord w a ^^^ byteWord w b := by
  unfold byteWord
  rw [UInt8.toBitVec_xor, BitVec.setWidth_xor]

theorem feedByte_xor (poly r s : BitVec w) (a b : UInt8) :
    feedByte poly (r ^^^ s) (a ^^^ b) = feedByte poly r a ^^^ feedByte poly s b := by
  unfold feedByte
  rw [byteWord_xor, ← steps_xor]
  congr 1
  ac_rfl

theorem feed_xor (poly r s : BitVec w) {a b : List UInt8} (h : a.length = b.length) :
    feed poly r a ^^^ feed poly s b =
      feed poly (r ^^^ s) (List.zipWith (· ^^^ ·) a b) := by
  induction a generalizing r s b with
  | nil =>
      obtain rfl := List.length_eq_zero_iff.mp h.symm
      rfl
  | cons x xs ih =>
      cases b with
      | nil => cases h
      | cons y ys =>
          rw [feed_cons, feed_cons, ih _ _ (Nat.succ.inj h), List.zipWith_cons_cons,
            feed_cons, feedByte_xor]

/-- The same bytes keep a difference alive, as zero bytes do. -/
theorem feed_xor_same (poly r s : BitVec w) (a : List UInt8) :
    feed poly r a ^^^ feed poly s a = feed poly (r ^^^ s) (List.replicate a.length 0) := by
  have hzero : List.zipWith (· ^^^ ·) a a = List.replicate a.length 0 := by
    simp [List.zipWith_self, List.map_const']
  rw [feed_xor poly r s rfl, hzero]

/-! ## Nothing is lost -/

/-- A step clears no register, since the polynomial marks the bit that the shift
leaves free. -/
theorem step_eq_zero_iff {poly : BitVec w} (hpoly : poly.msb = true) {r : BitVec w} :
    step poly r = 0 ↔ r = 0 := by
  constructor
  · intro hzero
    unfold step at hzero
    split at hzero
    case isTrue =>
      have hshift : r >>> 1 = poly := BitVec.xor_eq_zero_iff.mp hzero
      have hmsb : (r >>> 1).msb = false := by simp [BitVec.msb_ushiftRight]
      rw [hshift, hpoly] at hmsb
      cases hmsb
    case isFalse hlow =>
      apply BitVec.eq_of_getLsbD_eq
      intro i _
      cases i with
      | zero => simpa using hlow
      | succ i =>
          have hbit := congrArg (fun x => BitVec.getLsbD x i) hzero
          simpa [Nat.add_comm] using hbit
  · intro hzero
    rw [hzero]
    simp [step]

theorem steps_eq_zero_iff {poly : BitVec w} (hpoly : poly.msb = true) (n : Nat)
    {r : BitVec w} : steps poly n r = 0 ↔ r = 0 := by
  induction n generalizing r with
  | zero => exact Iff.rfl
  | succ n ih => rw [steps, ih, step_eq_zero_iff hpoly]

theorem feed_replicate_zero (poly r : BitVec w) (n : Nat) :
    feed poly r (List.replicate n 0) = steps poly (8 * n) r := by
  induction n generalizing r with
  | zero => rfl
  | succ n ih =>
      have hbyte : feedByte poly r 0 = steps poly 8 r := by
        simp [feedByte, byteWord]
      rw [List.replicate_succ, feed_cons, ih, hbyte, ← steps_add]
      congr 1
      omega

theorem feed_replicate_zero_eq_zero_iff {poly : BitVec w} (hpoly : poly.msb = true) (n : Nat)
    {r : BitVec w} : feed poly r (List.replicate n 0) = 0 ↔ r = 0 := by
  rw [feed_replicate_zero, steps_eq_zero_iff hpoly]

/-! ## Short messages as one word -/

/-- The word of a message, its first byte lowest. -/
def wordOfLE (w : Nat) : List UInt8 → BitVec w
  | [] => 0
  | b :: bytes => byteWord w b ^^^ (wordOfLE w bytes <<< 8)

/-- Steps that meet no set bit only shift. -/
theorem steps_eq_ushiftRight (poly : BitVec w) (n : Nat) {r : BitVec w}
    (hlow : ∀ i, i < n → r.getLsbD i = false) : steps poly n r = r >>> n := by
  induction n generalizing r with
  | zero => simp [steps]
  | succ n ih =>
      have hstep : step poly r = r >>> 1 := by
        simp [step, hlow 0 (Nat.succ_pos n)]
      have hlow' : ∀ i, i < n → (r >>> 1).getLsbD i = false := by
        intro i hi
        rw [BitVec.getLsbD_ushiftRight]
        exact hlow (1 + i) (by omega)
      rw [steps, hstep, ih hlow', ← BitVec.shiftRight_add, Nat.add_comm]

/-- The word of a message has no bits above it. -/
theorem wordOfLE_getLsbD (bytes : List UInt8) {i : Nat} (hi : 8 * bytes.length ≤ i) :
    (wordOfLE w bytes).getLsbD i = false := by
  induction bytes generalizing i with
  | nil => simp [wordOfLE]
  | cons b bytes ih =>
      rw [List.length_cons] at hi
      have hrest := ih (i := i - 8) (by omega)
      have hbyte : (byteWord w b).getLsbD i = false := by
        rw [byteWord, BitVec.getLsbD_setWidth, BitVec.getLsbD_of_ge _ _ (by omega),
          Bool.and_false]
      simp [wordOfLE, hbyte, hrest]

theorem feed_eq_steps (poly r : BitVec w) {bytes : List UInt8}
    (hlength : 8 * bytes.length ≤ w) :
    feed poly r bytes = steps poly (8 * bytes.length) (r ^^^ wordOfLE w bytes) := by
  induction bytes generalizing r with
  | nil => simp [wordOfLE, steps]
  | cons b bytes ih =>
      rw [List.length_cons] at hlength
      have hshift : steps poly 8 (wordOfLE w bytes <<< 8) = wordOfLE w bytes := by
        rw [steps_eq_ushiftRight]
        · apply BitVec.eq_of_getLsbD_eq
          intro i hi
          rw [BitVec.getLsbD_ushiftRight, BitVec.getLsbD_shiftLeft]
          by_cases hfit : 8 + i < w
          · simp [hfit]
          · have htop : (wordOfLE w bytes).getLsbD i = false :=
              wordOfLE_getLsbD bytes (by omega)
            simp [htop]
        · intro i hi
          rw [BitVec.getLsbD_shiftLeft]
          simp [hi]
      have hcount : 8 * (bytes.length + 1) = 8 + 8 * bytes.length := by omega
      rw [feed_cons, ih _ (by omega), List.length_cons, hcount, steps_add, wordOfLE,
        ← BitVec.xor_assoc, steps_xor poly 8, hshift]
      rfl

/-- A short message clears the register exactly when it is the register. -/
theorem feed_eq_zero_iff {poly : BitVec w} (hpoly : poly.msb = true) {r : BitVec w}
    {bytes : List UInt8} (hlength : 8 * bytes.length ≤ w) :
    feed poly r bytes = 0 ↔ wordOfLE w bytes = r := by
  rw [feed_eq_steps poly r hlength, steps_eq_zero_iff hpoly]
  exact BitVec.xor_eq_zero_iff.trans eq_comm

theorem wordOfLE_xor {a b : List UInt8} (h : a.length = b.length) :
    wordOfLE w (List.zipWith (· ^^^ ·) a b) = wordOfLE w a ^^^ wordOfLE w b := by
  induction a generalizing b with
  | nil =>
      obtain rfl := List.length_eq_zero_iff.mp h.symm
      simp [wordOfLE]
  | cons x xs ih =>
      cases b with
      | nil => cases h
      | cons y ys =>
          rw [List.zipWith_cons_cons, wordOfLE, wordOfLE, wordOfLE, ih (Nat.succ.inj h),
            byteWord_xor, BitVec.shiftLeft_xor_distrib]
          ac_rfl

/-! ## Numbers as bytes -/

/-- The lowest bytes of a number, the lowest first. -/
def leBytes : Nat → Nat → List UInt8
  | 0, _ => []
  | count + 1, n => UInt8.ofNat n :: leBytes count (n / 256)

@[simp]
theorem leBytes_length (count n : Nat) : (leBytes count n).length = count := by
  induction count generalizing n with
  | zero => rfl
  | succ count ih => rw [leBytes, List.length_cons, ih]

theorem wordOfLE_leBytes_getLsbD (count n : Nat) {i : Nat} (hi : i < 8 * count)
    (hfit : i < w) : (wordOfLE w (leBytes count n)).getLsbD i = n.testBit i := by
  induction count generalizing n i with
  | zero => omega
  | succ count ih =>
      have hbyte : (byteWord w (UInt8.ofNat n)).getLsbD i = (decide (i < 8) && n.testBit i) := by
        have hnumber : (UInt8.ofNat n).toBitVec = BitVec.ofNat 8 n := rfl
        rw [byteWord, BitVec.getLsbD_setWidth, hnumber, BitVec.getLsbD_ofNat]
        simp [hfit]
      rw [leBytes, wordOfLE, BitVec.getLsbD_xor, BitVec.getLsbD_shiftLeft, hbyte]
      by_cases hlow : i < 8
      · simp [hlow]
      · have hshift : (n / 256).testBit (i - 8) = n.testBit i := by
          have hpow : 256 = 2 ^ 8 := rfl
          rw [hpow, Nat.testBit_div_two_pow]
          congr 1
          omega
        rw [ih (n / 256) (by omega) (by omega), hshift]
        simp [hlow, hfit]

/-- The bytes of a number are its word. -/
theorem wordOfLE_leBytes {count : Nat} (n : Nat) (hwidth : w = 8 * count) :
    wordOfLE w (leBytes count n) = BitVec.ofNat w n := by
  apply BitVec.eq_of_getLsbD_eq
  intro i hi
  rw [wordOfLE_leBytes_getLsbD count n (hwidth ▸ hi) hi, BitVec.getLsbD_ofNat]
  simp [hi]

end Crc
