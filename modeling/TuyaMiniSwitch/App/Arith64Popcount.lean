import TuyaMiniSwitch.App.Arith64
import TuyaMiniSwitch.Library.ByteLanes

/-!
# App - Counting bits

The counts of the bits that are set of {lit}`app_arith64.c`: sums of neighbours, of two bits, of
four and of eight at a time.

Main results:

- Theorem {lit}`popcounts_eq`: they count the bits.
-/

namespace Arith64

open ByteLanes

/-! ## The source -/

/-- The first lines of {lit}`__popcountsi2` and {lit}`__popcountdi2`: each byte is replaced by the
count of its bits. -/
def byteCounts {w : Nat} (pairs nibbles bytes : BitVec w) (a : BitVec w) : BitVec w :=
  let a := a - ((a >>> 1) &&& pairs)
  let a := ((a >>> 2) &&& nibbles) + (a &&& nibbles)
  (a + (a >>> 4)) &&& bytes

/-- {lit}`__popcountsi2`. -/
def popcountsi2 (a : BitVec 32) : Nat :=
  let a := byteCounts 0x55555555 0x33333333 0x0F0F0F0F a
  let a := a + (a >>> 16)
  ((a + (a >>> 8)) &&& 63).toNat

/-- {lit}`__popcountdi2`. -/
def popcountdi2 (a : BitVec 64) : Nat :=
  let a := byteCounts 0x5555555555555555 0x3333333333333333 0x0F0F0F0F0F0F0F0F a
  let a := a + (a >>> 32)
  let a := a + (a >>> 16)
  ((a + (a >>> 8)) &&& 127).toNat

/-! ## Bytes -/

/-- The first line, for a byte. -/
def pairCounts (d : Nat) : Nat := d - ((d >>> 1) &&& 0x55)

/-- The second line, for a byte. -/
def nibbleCounts (d : Nat) : Nat := ((d >>> 2) &&& 0x33) + (d &&& 0x33)

/-- The third line, for a byte. -/
def byteCount (d : Nat) : Nat := (d + (d >>> 4)) &&& 0x0F

theorem byteCount_eq : ∀ d < 256, byteCount (nibbleCounts (pairCounts d)) = bitCount d := by
  decide +kernel

/-- Neither half of the byte is more than four. -/
theorem nibbleCounts_le : ∀ d < 256, nibbleCounts (pairCounts d) % 16 ≤ 4 ∧
    nibbleCounts (pairCounts d) / 16 ≤ 4 := by
  decide +kernel

theorem pairCounts_lt {d : Nat} (hd : d < 256) : pairCounts d < 256 :=
  Nat.lt_of_le_of_lt (Nat.sub_le ..) hd

/-! ## Numbers -/

theorem pack_pairCounts {ds : List Nat} (hds : ∀ d ∈ ds, d < 256) :
    pack ds - ((pack ds >>> 1) &&& lanes ds.length 0x55) = pack (ds.map pairCounts) := by
  have hsub := pack_sub (f := id) (g := fun d => (d >>> 1) &&& 0x55) ds
    fun d _ => Nat.le_trans Nat.and_le_left (Nat.shiftRight_le ..)
  rw [List.map_id] at hsub
  rw [pack_shift_and (by decide) (by decide) (by decide) hds]
  exact hsub

theorem pack_nibbleCounts (ds : List Nat) (hds : ∀ d ∈ ds, d < 256) :
    ((pack ds >>> 2) &&& lanes ds.length 0x33) + (pack ds &&& lanes ds.length 0x33) =
      pack (ds.map nibbleCounts) := by
  rw [pack_shift_and (by decide) (by decide) (by decide) hds, pack_and (by decide) hds, pack_add]
  rfl

theorem pack_byteCount (ds : List Nat) (hds : ∀ d ∈ ds, d % 16 ≤ 4 ∧ d / 16 ≤ 4) :
    (pack ds + (pack ds >>> 4)) &&& lanes ds.length 0x0F = pack (ds.map byteCount) := by
  induction ds with
  | nil => rfl
  | cons d ds ih =>
      have hd := hds d List.mem_cons_self
      have ih := ih fun d' hd' => hds d' (List.mem_cons_of_mem d hd')
      -- what the byte above shifts in does not reach the lower half
      have hlow : pack ds % 16 ≤ 4 := by
        cases ds with
        | nil => exact Nat.zero_le 4
        | cons d' ds' =>
            have hd' := hds d' (List.mem_cons_of_mem d List.mem_cons_self)
            rw [pack]
            omega
      have hshift : (256 * pack ds + d) + ((256 * pack ds + d) >>> 4) =
          256 * (pack ds + (pack ds >>> 4)) + (d + d / 16 + 16 * (pack ds % 16)) := by
        rw [Nat.shiftRight_eq_div_pow, Nat.shiftRight_eq_div_pow]
        omega
      have hbyte : (d + d / 16 + 16 * (pack ds % 16)) &&& 0x0F = byteCount d := by
        have hmod := Nat.and_two_pow_sub_one_eq_mod (d + d / 16 + 16 * (pack ds % 16)) 4
        have hmod' := Nat.and_two_pow_sub_one_eq_mod (d + (d >>> 4)) 4
        rw [Nat.shiftRight_eq_div_pow] at hmod'
        rw [byteCount, Nat.shiftRight_eq_div_pow]
        exact hmod.trans (Eq.trans (by omega) hmod'.symm)
      rw [List.length_cons, lanes_succ, pack, hshift, and_byte (by omega) (by decide), ih, hbyte,
        List.map_cons, pack]

theorem toNat_byteCounts {w n : Nat} {pairs nibbles bytes' : BitVec w}
    (hpairs : pairs.toNat = lanes n 0x55) (hnibbles : nibbles.toNat = lanes n 0x33)
    (hbytes : bytes'.toNat = lanes n 0x0F)
    (hw : ∀ x ≤ lanes n 255, (BitVec.ofNat w x).toNat = x) {a : BitVec w}
    (ha : a.toNat ≤ lanes n 255) :
    (byteCounts pairs nibbles bytes' a).toNat = pack ((bytes n a.toNat).map bitCount) := by
  obtain ⟨ds, hds⟩ : ∃ ds, ds = bytes n a.toNat := ⟨_, rfl⟩
  have hlt : ∀ d ∈ ds, d < 256 := hds ▸ bytes_lt n a.toNat
  have hlength : ds.length = n := hds ▸ length_bytes n a.toNat
  have hpack : a.toNat = pack ds := hds ▸ (pack_bytes ha).symm
  have hsmall : ∀ f : Nat → Nat, (∀ d ∈ ds, f d < 256) → pack (ds.map f) ≤ lanes n 255 := by
    intro f hf
    have hle := pack_le_lanes (ds.map f) fun d hd => by
      obtain ⟨d', hd', rfl⟩ := List.mem_map.mp hd
      exact hf d' hd'
    rwa [List.length_map, hlength] at hle
  have hsum : ∀ x y : BitVec w, x.toNat + y.toNat ≤ lanes n 255 →
      (x + y).toNat = x.toNat + y.toNat := by
    intro x y hle
    rw [BitVec.toNat_add, ← BitVec.toNat_ofNat, hw _ hle]
  have hpairCounts : (a - ((a >>> 1) &&& pairs)).toNat = pack (ds.map pairCounts) := by
    rw [BitVec.toNat_sub_of_le, BitVec.toNat_and, BitVec.toNat_ushiftRight, hpairs, hpack,
      ← hlength, pack_pairCounts hlt]
    rw [BitVec.le_def, BitVec.toNat_and, BitVec.toNat_ushiftRight]
    exact Nat.le_trans Nat.and_le_left (Nat.shiftRight_le ..)
  have hnibbleCounts : ∀ x : BitVec w, x.toNat = pack (ds.map pairCounts) →
      (((x >>> 2) &&& nibbles) + (x &&& nibbles)).toNat =
        pack (ds.map (nibbleCounts ∘ pairCounts)) := by
    intro x hx
    have hcounts := pack_nibbleCounts (ds.map pairCounts) fun d hd => by
      obtain ⟨d', hd', rfl⟩ := List.mem_map.mp hd
      exact pairCounts_lt (hlt d' hd')
    rw [List.length_map, hlength, List.map_map] at hcounts
    rw [hsum, BitVec.toNat_and, BitVec.toNat_and, BitVec.toNat_ushiftRight, hnibbles, hx, hcounts]
    rw [BitVec.toNat_and, BitVec.toNat_and, BitVec.toNat_ushiftRight, hnibbles, hx, hcounts]
    refine hsmall _ fun d hd => ?_
    have hle := nibbleCounts_le d (hlt d hd)
    rw [Function.comp_apply]
    omega
  have hbyteCounts : ∀ x : BitVec w, x.toNat = pack (ds.map (nibbleCounts ∘ pairCounts)) →
      ((x + (x >>> 4)) &&& bytes').toNat = pack (ds.map bitCount) := by
    intro x hx
    have hcounts := pack_byteCount (ds.map (nibbleCounts ∘ pairCounts)) fun d hd => by
      obtain ⟨d', hd', rfl⟩ := List.mem_map.mp hd
      exact nibbleCounts_le d' (hlt d' hd')
    have hbits : ds.map (byteCount ∘ nibbleCounts ∘ pairCounts) = ds.map bitCount :=
      List.map_congr_left fun d hd => byteCount_eq d (hlt d hd)
    rw [List.length_map, hlength, List.map_map, hbits] at hcounts
    rw [BitVec.toNat_and, hsum, BitVec.toNat_ushiftRight, hbytes, hx, hcounts]
    rw [BitVec.toNat_ushiftRight, hx]
    refine Nat.le_trans (Nat.add_le_add_left (Nat.shiftRight_le ..) _) ?_
    rw [pack_add]
    refine hsmall _ fun d hd => ?_
    have hle := nibbleCounts_le d (hlt d hd)
    rw [Function.comp_apply]
    omega
  rw [← hds]
  exact hbyteCounts _ (hnibbleCounts _ hpairCounts)

theorem bitCount_le (d : Nat) : bitCount d ≤ 8 := by
  have hle := List.countP_le_length (p := d.testBit) (l := List.range 8)
  rwa [List.length_range] at hle

/-- The bits of a number are those of its bytes. -/
theorem countP_getLsbD {w n : Nat} {a : BitVec w} (ha : a.toNat ≤ lanes n 255) :
    (List.range (8 * n)).countP a.getLsbD = ((bytes n a.toNat).map bitCount).sum := by
  rw [← countP_testBit_pack (bytes_lt n a.toNat), length_bytes, pack_bytes ha]
  rfl

/-- The upper part of a number is added to the lower one. -/
theorem toNat_fold {w k n : Nat} (hk : ∀ x : Nat, x >>> k = x / n) {A : BitVec w} {l t : Nat}
    (hl : l < n) (hA : A.toNat = l + n * t)
    (hw : (BitVec.ofNat w (l + n * t + t)).toNat = l + n * t + t) :
    (A + (A >>> k)).toNat = l + n * t + t := by
  have hdiv : (l + n * t) / n = t := by
    rw [Nat.add_mul_div_left _ _ (Nat.zero_lt_of_lt hl), Nat.div_eq_of_lt hl, Nat.zero_add]
  rw [BitVec.toNat_add, BitVec.toNat_ushiftRight, hk, hA, hdiv, ← BitVec.toNat_ofNat, hw]

theorem toNat_ofNat_of_le {x : Nat} (hx : x ≤ 4611686018427387904) :
    (BitVec.ofNat 64 x).toNat = x := by
  rw [BitVec.toNat_ofNat]
  omega

/-- The last byte of a sum of two bytes, masked. -/
theorem mod_fold {e f v n : Nat} (hn : n ∣ 256) (hsum : e + f < n) :
    (e + 256 * (f + 256 * v) + (f + 256 * v)) % n = e + f := by
  obtain ⟨q, hq⟩ := hn
  have hmul : n * (q * (f + 256 * v) + q * v) = 256 * (f + 256 * v) + 256 * v := by
    rw [hq, Nat.mul_add, Nat.mul_assoc, Nat.mul_assoc]
  have hsplit : e + 256 * (f + 256 * v) + (f + 256 * v) =
      e + f + n * (q * (f + 256 * v) + q * v) := by
    omega
  rw [hsplit, Nat.add_mul_mod_self_left, Nat.mod_eq_of_lt hsum]

/-- A number is folded three times, and a byte of it is left. -/
theorem fold_three {A B C : BitVec 64} {l t k u e f v : Nat} (hl : l < 4294967296)
    (hk : k < 65536) (he : e < 256) (hsum : e + f < 128) (ht : t ≤ 268435456)
    (hA : A.toNat = l + 4294967296 * t) (hB : B = A + (A >>> 32))
    (hfour : l + 4294967296 * t + t = k + 65536 * u) (hC : C = B + (B >>> 16))
    (htwo : k + 65536 * u + u = e + 256 * (f + 256 * v)) :
    ((C + (C >>> 8)) &&& 127).toNat = e + f := by
  have hmask : ((C + (C >>> 8)) &&& 127).toNat = (C + (C >>> 8)).toNat % 128 := by
    rw [BitVec.toNat_and]
    exact Nat.and_two_pow_sub_one_eq_mod _ 7
  have hfold : B.toNat = k + 65536 * u := by
    rw [hB, toNat_fold (fun x => Nat.shiftRight_eq_div_pow x 32) hl hA
      (toNat_ofNat_of_le (by omega)), hfour]
  have hfold' : C.toNat = e + 256 * (f + 256 * v) := by
    rw [hC, toNat_fold (fun x => Nat.shiftRight_eq_div_pow x 16) hk hfold
      (toNat_ofNat_of_le (by omega)), htwo]
  rw [hmask, toNat_fold (fun x => Nat.shiftRight_eq_div_pow x 8) he hfold'
    (toNat_ofNat_of_le (by omega))]
  exact mod_fold ⟨2, rfl⟩ hsum

/-- The last lines for 64 bits: eight counts are added up. -/
theorem sum_eight {A : BitVec 64} {c₀ c₁ c₂ c₃ c₄ c₅ c₆ c₇ : Nat}
    (hA : A.toNat = pack [c₀, c₁, c₂, c₃, c₄, c₅, c₆, c₇])
    (h : ∀ c ∈ [c₀, c₁, c₂, c₃, c₄, c₅, c₆, c₇], c ≤ 8) {B C : BitVec 64}
    (hB : B = A + (A >>> 32)) (hC : C = B + (B >>> 16)) :
    ((C + (C >>> 8)) &&& 127).toNat = [c₀, c₁, c₂, c₃, c₄, c₅, c₆, c₇].sum := by
  simp only [List.forall_mem_cons] at h
  have hcounts : [c₀, c₁, c₂, c₃, c₄, c₅, c₆, c₇].sum =
      c₀ + c₄ + (c₂ + c₆) + (c₁ + c₅ + (c₃ + c₇)) := by
    simp only [List.sum_cons, List.sum_nil]
    omega
  have hpack : A.toNat = c₀ + 256 * (c₁ + 256 * (c₂ + 256 * c₃)) +
      4294967296 * (c₄ + 256 * (c₅ + 256 * (c₆ + 256 * c₇))) := by
    rw [hA]
    simp only [pack]
    omega
  rw [hcounts]
  clear hA hcounts
  refine fold_three (k := c₀ + c₄ + 256 * (c₁ + c₅))
    (u := c₂ + c₆ + 256 * (c₃ + c₇ + 256 * (c₄ + 256 * (c₅ + 256 * (c₆ + 256 * c₇)))))
    (v := c₄ + 256 * (c₅ + 256 * (c₆ + 256 * c₇)) + (c₂ + c₆ + 256 * (c₃ + c₇ + 256 *
      (c₄ + 256 * (c₅ + 256 * (c₆ + 256 * c₇)))))) ?_ ?_ ?_ ?_ ?_ hpack hB ?_ hC ?_ <;>
    clear hpack <;> omega

/-- The last lines for 32 bits: four counts are added up. -/
theorem sum_four {A : BitVec 32} {c₀ c₁ c₂ c₃ : Nat} (hA : A.toNat = pack [c₀, c₁, c₂, c₃])
    (h : ∀ c ∈ [c₀, c₁, c₂, c₃], c ≤ 8) {B : BitVec 32} (hB : B = A + (A >>> 16)) :
    ((B + (B >>> 8)) &&& 63).toNat = [c₀, c₁, c₂, c₃].sum := by
  have hfits : ∀ x ≤ 1073741824, (BitVec.ofNat 32 x).toNat = x := by
    intro x hx
    rw [BitVec.toNat_ofNat]
    omega
  simp only [List.forall_mem_cons] at h
  have htwo := toNat_fold (fun x => Nat.shiftRight_eq_div_pow x 16) (A := A)
    (l := c₀ + 256 * c₁) (t := c₂ + 256 * c₃) (by omega)
    (by rw [hA]; simp only [pack]; omega) (hfits _ (by omega))
  rw [← hB] at htwo
  have hone := toNat_fold (fun x => Nat.shiftRight_eq_div_pow x 8) (A := B) (l := c₀ + c₂)
    (t := c₁ + c₃ + 256 * (c₂ + 256 * c₃)) (by omega) (by rw [htwo]; omega)
    (hfits _ (by omega))
  have hmask : ((B + (B >>> 8)) &&& 63).toNat = (B + (B >>> 8)).toNat % 64 := by
    rw [BitVec.toNat_and]
    exact Nat.and_two_pow_sub_one_eq_mod _ 6
  rw [hmask, hone]
  refine (mod_fold ⟨4, rfl⟩ (by omega)).trans ?_
  simp only [List.sum_cons, List.sum_nil]
  omega

theorem counts_le (n x : Nat) : ∀ c ∈ (bytes n x).map bitCount, c ≤ 8 := by
  intro c hc
  obtain ⟨d, -, rfl⟩ := List.mem_map.mp hc
  exact bitCount_le d

theorem popcountdi2_eq (a : BitVec 64) : popcountdi2 a = (List.range 64).countP a.getLsbD := by
  have hlanes : lanes 8 255 = 18446744073709551615 := by decide
  have hlt := a.isLt
  have hle : a.toNat ≤ lanes 8 255 := by omega
  have hcounts : (byteCounts 0x5555555555555555 0x3333333333333333 0x0F0F0F0F0F0F0F0F a).toNat =
      pack ((bytes 8 a.toNat).map bitCount) :=
    toNat_byteCounts (by decide) (by decide) (by decide)
      (fun x hx => by rw [BitVec.toNat_ofNat]; exact Nat.mod_eq_of_lt (by omega)) hle
  exact (sum_eight hcounts (counts_le 8 a.toNat) rfl rfl).trans (countP_getLsbD hle).symm

theorem popcountsi2_eq (a : BitVec 32) : popcountsi2 a = (List.range 32).countP a.getLsbD := by
  have hlanes : lanes 4 255 = 4294967295 := by decide
  have hlt := a.isLt
  have hle : a.toNat ≤ lanes 4 255 := by omega
  have hcounts : (byteCounts 0x55555555 0x33333333 0x0F0F0F0F a).toNat =
      pack ((bytes 4 a.toNat).map bitCount) :=
    toNat_byteCounts (by decide) (by decide) (by decide)
      (fun x hx => by rw [BitVec.toNat_ofNat]; exact Nat.mod_eq_of_lt (by omega)) hle
  exact (sum_four hcounts (counts_le 4 a.toNat) rfl).trans (countP_getLsbD hle).symm

/-- The bits that are set are counted, of 64 as of 32. -/
theorem popcounts_eq (a : BitVec 64) (c : BitVec 32) :
    popcountdi2 a = (List.range 64).countP a.getLsbD ∧
      popcountsi2 c = (List.range 32).countP c.getLsbD :=
  ⟨popcountdi2_eq a, popcountsi2_eq c⟩

end Arith64
