import TuyaMiniSwitch.Platform.NvCopy

/-!
# Platform - Making the other sector ready

The other sector is erased, and the valid items are copied to it.  Until its info is written, the
sector that is left goes on counting.

Main results:

- Theorem {lit}`nvSectorUpdate_spec`: what the two sectors hold before the item itself is written,
  and what they hold whenever power fails.
-/

namespace NvDriver

open NorFlash FlashDriver

variable {E : Cmd → Nat → Prop} {M : NvModule} {m m' m₀ : Mem} {sect : Nat} {slots : List Slot}
  {len : UInt8 → Nat}

/-- A sector in which nothing is written yet. -/
theorem sector_blank (hM : M.Sized)
    (hblank : Blank m (M.idxStart sect) (M.sectEnd sect - M.idxStart sect)) :
    Sector M m sect [] ∧ Clean M m sect [] := by
  have hend := contextStart_le_sectEnd hM sect
  have hplace : ∀ i, i < M.idxNum → Blank m (M.idxAddr sect i) 8 := by
    intro i hi
    have hidx := hM.idxAddr_le sect hi
    have hstart := idxStart_le_idxAddr M sect i
    exact hblank.sub hstart (by omega)
  have hclean : Clean M m sect [] := by
    refine ⟨?_, fun hlt => ⟨0, Nat.zero_le 4, fun idx _ => ?_⟩⟩
    · have hcontext : M.slotsEnd sect [] = M.contextStart sect := Nat.add_zero _
      have hidx := hM.idxAddr_le sect hM.place
      have hstart := idxStart_le_idxAddr M sect 0
      exact hblank.sub (by omega) (by omega)
    · exact stored_firstBytes_zero.mpr (hplace 0 hlt)
  exact ⟨⟨fun i slot hget => (nomatch hget), Nat.zero_le _, hend, fun i _ hi => hplace i hi,
    Or.inl hclean⟩, hclean⟩

/-! ## Leaving a sector -/

/-- What a module holds while its other sector is made ready. -/
structure Leaving (M : NvModule) (len : UInt8 → Nat) (sect : Nat) (slots : List Slot)
    (m₀ m : Mem) : Prop where
  within : Within M m₀ m
  info : ∀ x, M.sectStart sect ≤ x → x < M.idxStart sect → m x = m₀ x
  other : (∀ x, M.sectStart (otherSect sect) ≤ x → x < M.idxStart (otherSect sect) →
      m x = m₀ x) ∨ Blank m (M.sectStart (otherSect sect)) 4
  items : ∃ slots', Sector M m sect slots' ∧ slots'.length = slots.length ∧ Lengths len slots' ∧
    ∀ itemId, contents slots' itemId = contents slots itemId

/-- What lies behind the info of the other sector does not count. -/
theorem Leaving.behind (hM : M.Sized) (h : Leaving M len sect slots m₀ m)
    (hbehind : Behind M (otherSect sect) m m') : Leaving M len sect slots m₀ m' := by
  have hapart := sect_apart M (otherSect_ne sect)
  have hstart : ∀ sect, M.idxStart sect = M.sectStart sect + 4 := fun _ => rfl
  have hinfo : ∀ sect, M.idxStart sect ≤ M.sectEnd sect := by
    intro sect
    have hcontext := contextStart_le_sectEnd hM sect
    have hidx := hM.idxAddr_le sect hM.place
    have hle := idxStart_le_idxAddr M sect 0
    omega
  have hold := hinfo sect
  have hnew := hinfo (otherSect sect)
  refine ⟨h.within.trans (hbehind.within (otherSect_lt sect)), fun x hle hx => ?_, ?_, ?_⟩
  · have hx' := hstart (otherSect sect)
    rw [hbehind x (by omega)]
    exact h.info x hle hx
  · rcases h.other with hsame | hblank
    · refine Or.inl fun x hle hx => ?_
      rw [hbehind x (by omega)]
      exact hsame x hle hx
    · refine Or.inr (hblank.congr fun x hle hx => hbehind x ?_)
      rw [hstart]
      omega
  · rcases h.items with ⟨slots', hsector, hitems⟩
    exact ⟨slots', hsector.behind hM (otherSect_ne sect) hbehind, hitems⟩

/-- Erasing the other sector, part by part. -/
theorem leaving_erased (hM : M.Sized) (h : Sector M m sect slots)
    (hlengths : Lengths len slots) {k : Nat} (hk : k ≤ M.sectorSize / FLASH_SECTOR_SIZE) :
    Leaving M len sect slots m (erasedTo m (M.sectStart (otherSect sect)) k) := by
  have hsize : FLASH_SECTOR_SIZE = 4096 := rfl
  have hsector := hM.sector_mod
  have hend := sectEnd_eq M (otherSect sect)
  have hwithin := sect_within M (otherSect_lt sect)
  have hapart := sect_apart M (otherSect_ne sect)
  have hupper : M.sectStart (otherSect sect) + k * FLASH_SECTOR_SIZE ≤
      M.sectEnd (otherSect sect) := by
    rw [hsize] at hk ⊢
    omega
  have hsame : ∀ x, ¬ (M.sectStart (otherSect sect) ≤ x ∧ x < M.sectEnd (otherSect sect)) →
      erasedTo m (M.sectStart (otherSect sect)) k x = m x := by
    intro x hx
    rw [erasedTo, if_neg (by omega)]
  have hstart : ∀ sect, M.idxStart sect = M.sectStart sect + 4 := fun _ => rfl
  have hold := sectEnd_eq M sect
  have hpos := hM.sector_pos
  refine ⟨fun x hx => hsame x (by omega), fun x hle hx => hsame x ?_, ?_,
    slots, h.congr hM fun x hle hx => hsame x ?_, rfl, hlengths, fun _ => rfl⟩
  · rw [hstart] at hx
    omega
  · rcases Nat.eq_zero_or_pos k with rfl | hpos
    · refine Or.inl fun x _ _ => ?_
      rw [erasedTo, if_neg (by omega)]
    · refine Or.inr fun i hi => ?_
      rw [erasedTo, if_pos]
      rw [hsize]
      omega
  · rw [hstart] at hle
    omega

/-- The valid items are copied, and if there is room for another one, it can be written. -/
theorem nvSectorUpdate_spec (hM : M.Sized) (hsect : sect < 2) {chip : Chip}
    (h : Sector M chip.mem sect slots) (hlengths : Lengths len slots)
    (hvalid : sectValidCheck (M.readInfo chip.mem sect) = true) (itemId : UInt8) (n : Nat)
    (allocated : Bool) :
    ∃ slots' chip', nvSectorUpdate M chip true itemId n sect allocated =
        (if (kept slots' itemId).length = M.idxNum ∨
            M.slotsEnd (otherSect sect) (kept slots' itemId) + itemTotalLen n >
              M.sectEnd (otherSect sect) then .error .NV_NOT_ENOUGH_SAPCE
          else .ok (kept slots' itemId).length, chip') ∧
      Blank chip'.mem (M.sectStart (otherSect sect)) 4 ∧
      Sector M chip'.mem (otherSect sect) (kept slots' itemId) ∧
      Clean M chip'.mem (otherSect sect) (kept slots' itemId) ∧
      Lengths len slots' ∧ (∀ itemId, contents slots' itemId = contents slots itemId) ∧
      (allocated = true → Single slots') ∧
      CrashSafe geometry E (Leaving M len sect slots chip.mem) chip chip' := by
  have hne := otherSect_ne sect
  have hlt := otherSect_lt sect
  have hsize : FLASH_SECTOR_SIZE = 4096 := rfl
  have hend := sectEnd_eq M (otherSect sect)
  have hstart : ∀ sect, M.idxStart sect = M.sectStart sect + 4 := fun _ => rfl
  -- erasing
  obtain ⟨chip₁, hchip₁⟩ : ∃ chip₁, chip₁ = eraseFrom chip (M.sectStart (otherSect sect))
      (M.sectorSize / FLASH_SECTOR_SIZE) := ⟨_, rfl⟩
  obtain ⟨hmem₁, hsafe₁⟩ := eraseFrom_spec (E := E) chip (hM.sectStart_mod hlt)
    (M.sectorSize / FLASH_SECTOR_SIZE)
  rw [← hchip₁] at hmem₁ hsafe₁
  have hleaving₁ : Leaving M len sect slots chip.mem chip₁.mem := by
    rw [hmem₁]
    exact leaving_erased hM h hlengths (Nat.le_refl _)
  have hblank₁ : Blank chip₁.mem (M.sectStart (otherSect sect)) M.sectorSize := by
    have hmod := hM.sector_mod
    intro i hi
    rw [hmem₁, erasedTo, if_pos]
    rw [hsize]
    omega
  have hsector₁ : Sector M chip₁.mem sect slots := by
    have hapart := sect_apart M hne
    refine h.congr hM fun x hle hx => ?_
    rw [hmem₁, erasedTo, if_neg]
    rw [hstart] at hle
    rw [hsize]
    omega
  -- what is valid twice
  obtain ⟨slots', hmarked, hsingle, hsafe₂⟩ :=
    nvExceptionDataHandler_spec (E := E) hM hsect hsector₁ hlengths true allocated
  obtain ⟨chip₂, hchip₂⟩ : ∃ chip₂, chip₂ = nvExceptionDataHandler M chip₁ true sect allocated :=
    ⟨_, rfl⟩
  rw [← hchip₂] at hmarked hsafe₂
  have hleaving : ∀ m slots', Marked M len sect slots chip₁.mem m slots' →
      Leaving M len sect slots chip.mem m := by
    intro m slots' hm
    have hapart := sect_apart M hne
    refine ⟨hleaving₁.within.trans (hm.behind.within hsect), fun x hle hx => ?_, Or.inr ?_,
      slots', hm.sector, hm.length, hm.lengths, hm.contents⟩
    · rw [hm.behind x (by omega)]
      exact hleaving₁.info x hle hx
    · have hpos := hM.sector_pos
      have hmod := hM.sector_mod
      refine (hblank₁.sub (Nat.le_refl _) (by omega)).congr fun x hle hx => hm.behind x ?_
      rw [hstart]
      omega
  have hblank₂ : Blank chip₂.mem (M.sectStart (otherSect sect)) M.sectorSize := by
    have hapart := sect_apart M hne
    refine hblank₁.congr fun x hle hx => hmarked.behind x ?_
    rw [hstart]
    omega
  -- copying
  obtain ⟨hsector', hclean'⟩ : Sector M chip₂.mem (otherSect sect) [] ∧
      Clean M chip₂.mem (otherSect sect) [] := by
    refine sector_blank hM (hblank₂.sub ?_ ?_)
    · rw [hstart]
      omega
    · have hcontext := contextStart_le_sectEnd hM (otherSect sect)
      have hidx := hM.idxAddr_le (otherSect sect) hM.place
      have hle := idxStart_le_idxAddr M (otherSect sect) 0
      omega
  have hc : Copying M sect (otherSect sect) slots' itemId chip₂.mem 0
      ⟨M.contextStart sect, 0, M.contextStart (otherSect sect), chip₂⟩ :=
    ⟨rfl, rfl, rfl, Behind.refl _ _ _, hsector', hclean'⟩
  obtain ⟨c, hitems, hcopied, hsafe₃⟩ := nvCopyItems_range (E := E) hM hsect hlt hne
    hmarked.sector M.idxNum hc (Nat.zero_le _) (Nat.zero_add _)
  have hinfo : M.readInfo chip₂.mem sect = M.readInfo chip.mem sect := by
    rw [NvModule.readInfo, NvModule.readInfo]
    congr 1
    exact readBytes_congr fun i hi => (hleaving _ _ hmarked).info _ (Nat.le_add_right _ _)
      (by rw [hstart]; omega)
  refine ⟨slots', c.chip, ?_, ?_, hcopied.sector, hcopied.clean, hmarked.lengths,
    hmarked.contents, hsingle, ?_⟩
  · rw [nvSectorUpdate, ← hchip₁]
    rw [← hchip₂, hinfo, if_pos hvalid, List.range_eq_range', hitems]
    dsimp only
    rw [hcopied.count, hcopied.used]
    split <;> rfl
  · have hpos := hM.sector_pos
    have hmod := hM.sector_mod
    refine (hblank₂.sub (Nat.le_refl _) (by omega)).congr fun x hle hx => hsafe₃.post x ?_
    rw [hstart]
    omega
  · refine (hsafe₁.mono fun m hm => ?_).trans ((hsafe₂.mono fun m hm => ?_).trans
      (hsafe₃.mono fun m hm => (hleaving _ _ hmarked).behind hM hm))
    · rcases hm with ⟨k, hk, rfl⟩
      exact leaving_erased hM h hlengths hk
    · rcases hm with ⟨slots'', hm⟩
      exact hleaving m slots'' hm

end NvDriver
