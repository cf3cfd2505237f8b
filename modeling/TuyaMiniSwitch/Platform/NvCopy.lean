import Mathlib.Data.List.Induction
import TuyaMiniSwitch.Platform.NvItem
import TuyaMiniSwitch.Platform.NvTwoSectors

/-!
# Platform - Copying the items to the other sector

What happens to the items of a sector before it is left: an item that is valid twice is deleted,
and the valid ones are copied one after another to the sector that takes over.

Main results:

- Theorem {lit}`nvExceptionDataHandler_spec`: the sector goes on holding what it held.
- Theorem {lit}`nvCopyItems_range`: the other sector holds it as well, but for the item that is
  about to be written.
-/

namespace NvDriver

open NorFlash FlashDriver

variable {E : Cmd → Nat → Prop} {M : NvModule} {m m' m₀ : Mem} {sect sect' : Nat}
  {slots slots' : List Slot} {slot : Slot} {i : Nat} {len : UInt8 → Nat}

/-! ## What lies behind the info -/

theorem contextStart_le_sectEnd (hM : M.Sized) (sect : Nat) :
    M.contextStart sect ≤ M.sectEnd sect := by
  have hinfo := hM.info
  rw [sectEnd_eq, NvModule.contextStart]
  omega

theorem idxStart_le_idxAddr (M : NvModule) (sect i : Nat) : M.idxStart sect ≤ M.idxAddr sect i :=
  Nat.le_add_right _ _

theorem Extends.behind (hM : M.Sized) (h : Extends M sect slots m₀ m)
    (hcount : slots.length < M.idxNum) : Behind M sect m₀ m := by
  intro x hx
  have hidx := hM.idxAddr_le sect hcount
  have hstart := idxStart_le_idxAddr M sect slots.length
  have hstart' := idxStart_le_idxAddr M sect slots.length
  have hcontext := contextStart_le_slotsEnd M sect slots
  have hend := contextStart_le_sectEnd hM sect
  exact h x (by omega) (by omega)

theorem Slot.At.congr {addr : Nat} (h : slot.At M m sect i addr)
    (hidx : ∀ x, M.idxAddr sect i ≤ x → x < M.idxAddr sect i + 8 → m' x = m x)
    (hcontent : ∀ x, addr ≤ x → x < addr + (slot.data.length + 8) → m' x = m x) :
    slot.At M m' sect i addr :=
  ⟨h.idx.congr fun x hle hx => hidx x hle (by rwa [NvInfoIdx.length_toBytes] at hx),
    h.content.congr hcontent⟩

/-- A sector is told by what lies behind its info. -/
theorem Sector.congr (hM : M.Sized) (h : Sector M m sect slots)
    (hsame : ∀ x, M.idxStart sect ≤ x → x < M.sectEnd sect → m' x = m x) :
    Sector M m' sect slots := by
  have hend := contextStart_le_sectEnd hM sect
  have hplace : ∀ i, i < M.idxNum →
      ∀ x, M.idxAddr sect i ≤ x → x < M.idxAddr sect i + 8 → m' x = m x := by
    intro i hi x hle hlt
    have hidx := hM.idxAddr_le sect hi
    have hstart := idxStart_le_idxAddr M sect i
    exact hsame x (by omega) (by omega)
  have hcontext : M.idxStart sect ≤ M.contextStart sect := by
    have hindex := hM.index
    rw [NvModule.idxStart, NvModule.contextStart]
    omega
  have hfits := h.fits
  refine ⟨fun i slot hget => ?_, h.count, h.fits, fun i hlt hi => ?_, ?_⟩
  · have hlt : i < slots.length := (List.getElem?_eq_some_iff.mp hget).1
    have hstart := contextStart_le_slotAddr M sect slots i
    have haddr := slotAddr_add_room M sect hget
    have hlength := slot.length_le_room
    exact (h.slot i slot hget).congr (hplace i (Nat.lt_of_lt_of_le hlt h.count))
      fun x hle hx => hsame x (by omega) (by omega)
  · exact (h.later i hlt hi).congr (hplace i hi)
  · rcases h.tail with hclean | hspoilt
    · left
      have hstart := contextStart_le_slotsEnd M sect slots
      refine ⟨hclean.content.congr fun x hle hx => hsame x (by omega) (by omega), fun hlt => ?_⟩
      rcases hclean.index hlt with ⟨j, hj, hfirst⟩
      refine ⟨j, hj, fun idx hidx => (hfirst idx hidx).congr fun x hle hx => ?_⟩
      rw [length_firstBytes, NvInfoIdx.length_toBytes] at hx
      exact hplace _ hlt x hle hx
    · right
      have hread : M.readIdx m' sect slots.length = M.readIdx m sect slots.length := by
        rw [NvModule.readIdx, NvModule.readIdx]
        congr 1
        exact readBytes_congr fun i hi => hplace _ hspoilt.count _ (by omega) (by omega)
      exact ⟨hspoilt.count, hread ▸ hspoilt.state, hread ▸ hspoilt.used⟩

/-! ## Deleting an item -/

/-- An item that is marked as invalid. -/
def Slot.delete (slot : Slot) : Slot := { slot with state := .invalid }

@[simp] theorem Slot.delete_data (slot : Slot) : slot.delete.data = slot.data := rfl

@[simp] theorem Slot.delete_state (slot : Slot) : slot.delete.state = .invalid := rfl

theorem Slot.delete_not_valid (slot : Slot) : slot.delete.state ≠ .valid := by
  rw [Slot.delete_state]
  decide

@[simp] theorem Slot.delete_itemId (slot : Slot) : slot.delete.itemId = slot.itemId := rfl

theorem room_delete (hget : slots[i]? = some slot) (j : Nat) :
    room ((slots.set i slot.delete).take j) = room (slots.take j) := by
  have hmap : (slots.set i slot.delete).map Slot.room = slots.map Slot.room := by
    apply List.ext_getElem?
    intro k
    rw [List.getElem?_map, List.getElem?_map, List.getElem?_set]
    split
    · rename_i hik
      subst hik
      have hlt : i < slots.length := (List.getElem?_eq_some_iff.mp hget).1
      rw [if_pos hlt, hget]
      rfl
    · rfl
  rw [room, room, List.map_take, List.map_take, hmap]

theorem slotAddr_delete (M : NvModule) (sect : Nat) (hget : slots[i]? = some slot) (j : Nat) :
    M.slotAddr sect (slots.set i slot.delete) j = M.slotAddr sect slots j := by
  rw [NvModule.slotAddr, room_delete hget, NvModule.slotAddr]

theorem slotsEnd_delete (M : NvModule) (sect : Nat) (hget : slots[i]? = some slot) :
    M.slotsEnd sect (slots.set i slot.delete) = M.slotsEnd sect slots := by
  have hroom := room_delete hget slots.length
  rw [List.take_length, List.take_of_length_le (Nat.le_of_eq List.length_set)] at hroom
  rw [NvModule.slotsEnd, hroom, NvModule.slotsEnd]

theorem Sector.delete (hM : M.Sized) (h : Sector M m sect slots) (hget : slots[i]? = some slot)
    (hvalid : slot.state = .valid) :
    Sector M (programAt m (M.idxAddr sect i + 7) [ITEM_FIELD_INVALID]) sect
      (slots.set i slot.delete) := by
  have hlt : i < slots.length := (List.getElem?_eq_some_iff.mp hget).1
  have hidx := hM.idxAddr_le sect (Nat.lt_of_lt_of_le hlt h.count)
  have hone : [ITEM_FIELD_INVALID].length = 1 := rfl
  have hlength : (slots.set i slot.delete).length = slots.length := List.length_set
  have hafter : ∀ j, i < j → M.idxAddr sect i + 8 ≤ M.idxAddr sect j := fun j =>
    idxAddr_lt M sect
  refine ⟨fun j slot' hget' => ?_, hlength ▸ h.count, ?_, fun j hj hi => ?_, ?_⟩
  · have hcontext := contextStart_le_slotAddr M sect slots j
    rw [slotAddr_delete M sect hget]
    rw [List.getElem?_set] at hget'
    split at hget'
    · rename_i hij
      subst hij
      rw [Option.some.injEq] at hget'
      subst hget'
      have hslot := h.slot i slot hget
      refine ⟨?_, ?_⟩
      · have hbefore : slot = { slot with state := .valid } := by rw [← hvalid]
        have hplace := hslot.idx
        rw [hbefore] at hplace
        have hand : SlotState.valid.byte &&& SlotState.invalid.byte = SlotState.invalid.byte := by
          decide
        exact stored_state hplace hand
      · have hcontent := hslot.content
        rw [Slot.Content, if_neg (by rw [hvalid]; decide)] at hcontent
        rw [Slot.Content, Slot.delete_state, if_neg (by decide)]
        exact hcontent.programAt (Or.inr (by omega))
    · rename_i hne
      refine (h.slot j slot' hget').congr (fun x hle hx => programAt_apart ?_) fun x hle hx =>
        programAt_apart (by omega)
      rcases Nat.lt_or_gt_of_ne hne with hlt' | hgt
      · have hbefore := hafter j hlt'
        omega
      · have hbefore := idxAddr_lt M sect hgt
        omega
  · rw [slotsEnd_delete M sect hget]
    exact h.fits
  · rw [hlength] at hj
    have hbefore := hafter j (by omega)
    exact (h.later j hj hi).programAt (Or.inr (by omega))
  · have hcontext := contextStart_le_slotsEnd M sect slots
    have hbefore := hafter slots.length hlt
    rcases h.tail with hclean | hspoilt
    · left
      refine ⟨?_, fun hcount => ?_⟩
      · rw [slotsEnd_delete M sect hget]
        exact hclean.content.programAt (Or.inr (by omega))
      · rw [hlength] at hcount ⊢
        rw [slotsEnd_delete M sect hget]
        rcases hclean.index hcount with ⟨j, hj, hfirst⟩
        exact ⟨j, hj, fun idx hoffset => (hfirst idx hoffset).programAt (Or.inr (by omega))⟩
    · right
      have hread : M.readIdx (programAt m (M.idxAddr sect i + 7) [ITEM_FIELD_INVALID]) sect
          slots.length = M.readIdx m sect slots.length := by
        rw [NvModule.readIdx, NvModule.readIdx]
        congr 1
        exact readBytes_congr fun k hk => programAt_apart (by omega)
      exact ⟨hlength ▸ hspoilt.count, by rw [hlength, hread]; exact hspoilt.state,
        by rw [hlength, hread]; exact hspoilt.used⟩

/-- A write of one byte is done or not. -/
theorem crashSafe_byte (chip : Chip) (addr : Nat) (b : UInt8) :
    CrashSafe geometry E (fun m => m = chip.mem ∨ m = programAt chip.mem addr [b]) chip
      (flashWritePage chip addr [b]) := by
  refine (crashSafe_flashWritePage chip addr [b]).mono fun m hm => ?_
  rcases hm with ⟨k, -, rfl⟩
  rcases Nat.eq_zero_or_pos k with rfl | hpos
  · exact Or.inl rfl
  · rw [List.take_of_length_le hpos]
    exact Or.inr rfl

/-! ## Items that are valid twice -/

/-- A memory in which a sector has other marks and holds the same. -/
structure Marked (M : NvModule) (len : UInt8 → Nat) (sect : Nat) (slots : List Slot) (m₀ m : Mem)
    (slots' : List Slot) : Prop where
  behind : Behind M sect m₀ m
  sector : Sector M m sect slots'
  length : slots'.length = slots.length
  lengths : Lengths len slots'
  contents : ∀ itemId, contents slots' itemId = contents slots itemId

theorem Sector.marked (h : Sector M m sect slots) (hlengths : Lengths len slots) :
    Marked M len sect slots m m slots :=
  ⟨Behind.refl M sect m, h, rfl, hlengths, fun _ => rfl⟩

/-- An item that does not count is deleted. -/
theorem Marked.delete (hM : M.Sized) (h : Marked M len sect slots m₀ m slots')
    (hget : slots'[i]? = some slot) (hvalid : slot.state = .valid)
    (hother : lastIndex slots' slot.itemId ≠ some i) :
    Marked M len sect slots m₀ (programAt m (M.idxAddr sect i + 7) [ITEM_FIELD_INVALID])
      (slots'.set i slot.delete) := by
  have hlt : i < slots'.length := (List.getElem?_eq_some_iff.mp hget).1
  have hidx := hM.idxAddr_le sect (Nat.lt_of_lt_of_le hlt h.sector.count)
  have hstart := idxStart_le_idxAddr M sect i
  have hend := contextStart_le_sectEnd hM sect
  have hone : [ITEM_FIELD_INVALID].length = 1 := rfl
  have hlength : slot.delete.data.length = len slot.delete.itemId := by
    rw [Slot.delete_data, Slot.delete_itemId]
    exact h.lengths.get hget
  refine ⟨h.behind.programAt (by omega) (by omega), h.sector.delete hM hget hvalid, ?_,
    h.lengths.set hlength, fun itemId => ?_⟩
  · rw [List.length_set, h.length]
  · rw [contents_set hget slot.delete_not_valid, h.contents]
    intro hholds
    simp only [Slot.holds, Bool.and_eq_true, beq_iff_eq] at hholds
    rw [← hholds.2]
    exact hother

/-- From a place of the index on every valid item counts, and the table has its identifier. -/
structure Swept (idxTbl : List UInt8) (slots : List Slot) (n : Nat) : Prop where
  listed : ∀ itemId, itemId ∈ idxTbl ↔
    ∃ j, n ≤ j ∧ ∃ slot : Slot, slots[j]? = some slot ∧ slot.holds itemId = true
  counts : ∀ j (slot : Slot), n ≤ j → slots[j]? = some slot → slot.state = .valid →
    lastIndex slots slot.itemId = some j

theorem holds_itemId {slot : Slot} (hvalid : slot.state = .valid) :
    slot.holds slot.itemId = true := by
  simp [Slot.holds, hvalid]

theorem holds_state {slot : Slot} {itemId : UInt8} (h : slot.holds itemId = true) :
    slot.state = .valid ∧ slot.itemId = itemId := by
  simpa [Slot.holds] using h

theorem Swept.skip {idxTbl : List UInt8} {n : Nat} (h : Swept idxTbl slots (n + 1))
    (hno : ∀ slot : Slot, slots[n]? = some slot → slot.state ≠ .valid) :
    Swept idxTbl slots n := by
  refine ⟨fun itemId => (h.listed itemId).trans ⟨?_, ?_⟩, fun j slot hj hget hvalid => ?_⟩
  · rintro ⟨j, hj, hslot⟩
    exact ⟨j, by omega, hslot⟩
  · rintro ⟨j, hj, slot, hget, hholds⟩
    rcases Nat.eq_or_lt_of_le hj with rfl | hlt
    · exact absurd (holds_state hholds).1 (hno slot hget)
    · exact ⟨j, hlt, slot, hget, hholds⟩
  · rcases Nat.eq_or_lt_of_le hj with rfl | hlt
    · exact absurd hvalid (hno slot hget)
    · exact h.counts j slot hlt hget hvalid

theorem Swept.add {idxTbl : List UInt8} {n : Nat} (h : Swept idxTbl slots (n + 1))
    (hget : slots[n]? = some slot) (hvalid : slot.state = .valid) (hnew : slot.itemId ∉ idxTbl) :
    Swept (idxTbl ++ [slot.itemId]) slots n := by
  refine ⟨fun itemId => ?_, fun j slot' hj hget' hvalid' => ?_⟩
  · rw [List.mem_append, List.mem_singleton, h.listed]
    constructor
    · rintro (⟨j, hj, hslot⟩ | rfl)
      · exact ⟨j, by omega, hslot⟩
      · exact ⟨n, Nat.le_refl n, slot, hget, holds_itemId hvalid⟩
    · rintro ⟨j, hj, slot', hget', hholds⟩
      rcases Nat.eq_or_lt_of_le hj with rfl | hlt
      · rw [hget, Option.some.injEq] at hget'
        subst hget'
        exact Or.inr (holds_state hholds).2.symm
      · exact Or.inl ⟨j, hlt, slot', hget', hholds⟩
  · rcases Nat.eq_or_lt_of_le hj with rfl | hlt
    · rw [hget, Option.some.injEq] at hget'
      subst hget'
      rw [lastIndex_eq_some]
      refine ⟨⟨slot, hget, holds_itemId hvalid⟩, fun k slot' hk hget' => ?_⟩
      by_contra hholds
      rw [Bool.not_eq_false] at hholds
      exact hnew ((h.listed _).mpr ⟨k, hk, slot', hget', hholds⟩)
    · exact h.counts j slot' hlt hget' hvalid'

/-- An item that is valid further behind as well does not count. -/
theorem Swept.not_last {idxTbl : List UInt8} {n : Nat} (h : Swept idxTbl slots (n + 1))
    (hold : slot.itemId ∈ idxTbl) : lastIndex slots slot.itemId ≠ some n := by
  rcases (h.listed _).mp hold with ⟨j, hj, slot', hget', hholds⟩
  obtain ⟨hvalid, hid⟩ := holds_state hholds
  have hlast := h.counts j slot' hj hget' hvalid
  rw [hid] at hlast
  rw [hlast, ne_eq, Option.some.injEq]
  omega

theorem Swept.delete {idxTbl : List UInt8} {n : Nat} (h : Swept idxTbl slots (n + 1))
    (hget : slots[n]? = some slot) (hold : slot.itemId ∈ idxTbl) :
    Swept idxTbl (slots.set n slot.delete) n := by
  have hstate := slot.delete_not_valid
  have hlater : ∀ j, n < j → (slots.set n slot.delete)[j]? = slots[j]? := fun j hj =>
    List.getElem?_set_ne (by omega)
  have hswept : Swept idxTbl (slots.set n slot.delete) (n + 1) := by
    refine ⟨fun itemId => (h.listed itemId).trans ⟨?_, ?_⟩, fun j slot' hj hget' hvalid => ?_⟩
    · rintro ⟨j, hj, hslot⟩
      exact ⟨j, hj, by rwa [hlater j hj]⟩
    · rintro ⟨j, hj, hslot⟩
      exact ⟨j, hj, by rwa [hlater j hj] at hslot⟩
    · rw [hlater j hj] at hget'
      rw [lastIndex_set hget hstate]
      · exact h.counts j slot' hj hget' hvalid
      · intro hholds
        rw [← (holds_state hholds).2]
        exact h.not_last hold
  refine hswept.skip fun slot' hget' => ?_
  have hlt : n < slots.length := (List.getElem?_eq_some_iff.mp hget).1
  rw [List.getElem?_set_self hlt, Option.some.injEq] at hget'
  exact hget' ▸ hstate

/-- What the index tells about the state of an item. -/
theorem Sector.usedState (hM : M.Sized) (hsect : sect < 2) (h : Sector M m sect slots)
    (hi : i < M.idxNum) : (M.readIdx m sect i).usedState =
      (slots[i]?.map fun slot => slot.state.byte).getD ITEM_FIELD_IDLE := by
  cases hget : slots[i]? with
  | some slot =>
      rw [h.readIdx hM hsect hget]
      rfl
  | none =>
      have hle : slots.length ≤ i := List.getElem?_eq_none_iff.mp hget
      rcases Nat.eq_or_lt_of_le hle with rfl | hlt
      · exact h.readIdx_length hi
      · exact (h.readIdx_later hlt hi).1

theorem nvExceptionDataPass_spec (hM : M.Sized) (hsect : sect < 2) {chip : Chip} {n : Nat}
    {idxTbl : List UInt8} (hmarked : Marked M len sect slots m₀ chip.mem slots')
    (hswept : Swept idxTbl slots' (n + 1)) (hn : n < M.idxNum) (single : Bool) :
    ∃ slots'' idxTbl' chip', nvExceptionDataPass M single sect (idxTbl, chip) n =
        (idxTbl', chip') ∧ Marked M len sect slots m₀ chip'.mem slots'' ∧
      Swept idxTbl' slots'' n ∧
      CrashSafe geometry E (fun m => ∃ slots'', Marked M len sect slots m₀ m slots'') chip
        chip' := by
  have hstate := hmarked.sector.usedState hM hsect hn
  rw [nvExceptionDataPass]
  cases hget : slots'[n]? with
  | none =>
      rw [hget] at hstate
      rw [if_pos (by rw [hstate]; rfl)]
      refine ⟨slots', idxTbl, chip, rfl, hmarked, hswept.skip fun slot hslot => ?_,
        crashSafe_refl ⟨slots', hmarked⟩⟩
      rw [hget] at hslot
      cases hslot
  | some slot =>
      rw [hget] at hstate
      have hbyte : (M.readIdx chip.mem sect n).usedState = slot.state.byte := hstate
      have hid : (M.readIdx chip.mem sect n).itemId = slot.itemId := by
        rw [hmarked.sector.readIdx hM hsect hget, Slot.idx_itemId]
      rw [hbyte, hid, itemValidFlagCheck_byte]
      by_cases hvalid : slot.state = .valid
      · rw [if_neg (by simp [hvalid]), if_pos (Or.inl (by rw [hvalid]; rfl))]
        split
        · rename_i hold
          have hdelete := hmarked.delete hM hget hvalid (hswept.not_last hold)
          refine ⟨slots'.set n slot.delete, idxTbl, _, rfl, ?_, hswept.delete hget hold, ?_⟩
          · rw [nvItemDeleteByIndex, flashWritePage_mem]
            exact hdelete
          · refine (crashSafe_byte _ _ _).mono fun m hm => ?_
            rcases hm with rfl | rfl
            · exact ⟨slots', hmarked⟩
            · exact ⟨_, hdelete⟩
        · rename_i hnew
          exact ⟨slots', _, chip, rfl, hmarked, hswept.add hget hvalid hnew,
            crashSafe_refl ⟨slots', hmarked⟩⟩
      · rw [if_pos (by simp [hvalid])]
        refine ⟨slots', idxTbl, chip, rfl, hmarked, hswept.skip fun slot' hslot => ?_,
          crashSafe_refl ⟨slots', hmarked⟩⟩
        rw [hget, Option.some.injEq] at hslot
        exact hslot ▸ hvalid

theorem nvExceptionDataPasses_spec (hM : M.Sized) (hsect : sect < 2) (single : Bool) {n : Nat}
    (hn : n ≤ M.idxNum) {chip : Chip} {idxTbl : List UInt8}
    (hmarked : Marked M len sect slots m₀ chip.mem slots') (hswept : Swept idxTbl slots' n) :
    ∃ slots'' idxTbl' chip', (List.range n).reverse.foldl (nvExceptionDataPass M single sect)
        (idxTbl, chip) = (idxTbl', chip') ∧ Marked M len sect slots m₀ chip'.mem slots'' ∧
      Swept idxTbl' slots'' 0 ∧
      CrashSafe geometry E (fun m => ∃ slots'', Marked M len sect slots m₀ m slots'') chip
        chip' := by
  induction n generalizing chip idxTbl slots' with
  | zero => exact ⟨slots', idxTbl, chip, rfl, hmarked, hswept, crashSafe_refl ⟨slots', hmarked⟩⟩
  | succ n ih =>
      obtain ⟨slots₁, idxTbl₁, chip₁, hpass, hmarked₁, hswept₁, hsafe₁⟩ :=
        nvExceptionDataPass_spec (E := E) hM hsect hmarked hswept hn single
      obtain ⟨slots₂, idxTbl₂, chip₂, hpasses, hmarked₂, hswept₂, hsafe₂⟩ :=
        ih (Nat.le_of_succ_le hn) hmarked₁ hswept₁
      refine ⟨slots₂, idxTbl₂, chip₂, ?_, hmarked₂, hswept₂, hsafe₁.trans hsafe₂⟩
      rw [List.range_succ, List.reverse_append, List.reverse_singleton, List.singleton_append,
        List.foldl_cons, hpass, hpasses]

/-- Every valid item counts. -/
def Single (slots : List Slot) : Prop :=
  ∀ j (slot : Slot), slots[j]? = some slot → slot.state = .valid →
    lastIndex slots slot.itemId = some j

/-- The sector goes on holding what it held, and if there was a buffer, holds no item twice. -/
theorem nvExceptionDataHandler_spec (hM : M.Sized) (hsect : sect < 2) {chip : Chip}
    (h : Sector M chip.mem sect slots) (hlengths : Lengths len slots) (single allocated : Bool) :
    ∃ slots', Marked M len sect slots chip.mem
        (nvExceptionDataHandler M chip single sect allocated).mem slots' ∧
      (allocated = true → Single slots') ∧
      CrashSafe geometry E (fun m => ∃ slots', Marked M len sect slots chip.mem m slots') chip
        (nvExceptionDataHandler M chip single sect allocated) := by
  have hmarked := h.marked hlengths
  rw [nvExceptionDataHandler]
  split
  · have hbehind : ∀ j (slot : Slot), M.idxNum ≤ j → slots[j]? = some slot → False := by
      intro j slot hj hget
      have hlt : j < slots.length := (List.getElem?_eq_some_iff.mp hget).1
      have hcount := h.count
      omega
    have hswept : Swept [] slots M.idxNum := by
      refine ⟨fun itemId => ⟨fun hmem => (nomatch hmem), ?_⟩, fun j slot hj hget _ =>
        (hbehind j slot hj hget).elim⟩
      rintro ⟨j, hj, slot, hget, -⟩
      exact (hbehind j slot hj hget).elim
    obtain ⟨slots', idxTbl', chip', hpasses, hmarked', hswept', hsafe⟩ :=
      nvExceptionDataPasses_spec (E := E) hM hsect single (Nat.le_refl _) hmarked hswept
    rw [hpasses]
    exact ⟨slots', hmarked', fun _ j slot => hswept'.counts j slot (Nat.zero_le j), hsafe⟩
  · rename_i hnone
    exact ⟨slots, hmarked, fun htrue => absurd htrue hnone, crashSafe_refl ⟨slots, hmarked⟩⟩

/-! ## The items that are copied -/

/-- The valid items, but for the one that is about to be written. -/
def kept (slots : List Slot) (itemId : UInt8) : List Slot :=
  slots.filter fun slot => slot.state == .valid && slot.itemId != itemId

theorem kept_append (slots : List Slot) (slot : Slot) (itemId : UInt8) :
    kept (slots ++ [slot]) itemId =
      if slot.state = .valid ∧ slot.itemId ≠ itemId then kept slots itemId ++ [slot]
      else kept slots itemId := by
  rw [kept, List.filter_append, kept]
  by_cases hcopy : slot.state = .valid ∧ slot.itemId ≠ itemId
  · rw [if_pos hcopy]
    simp [hcopy.1, hcopy.2]
  · rw [if_neg hcopy]
    rw [not_and_or, not_not] at hcopy
    rcases hcopy with hstate | hid
    · simp [hstate]
    · simp [hid]

theorem kept_take_succ (hget : slots[i]? = some slot) (itemId : UInt8) :
    kept (slots.take (i + 1)) itemId =
      if slot.state = .valid ∧ slot.itemId ≠ itemId then kept (slots.take i) itemId ++ [slot]
      else kept (slots.take i) itemId := by
  rw [List.take_add_one, hget]
  exact kept_append _ _ _

theorem sum_le_of_sublist {ns ns' : List Nat} (h : ns.Sublist ns') : ns.sum ≤ ns'.sum := by
  induction h with
  | slnil => exact Nat.le_refl _
  | cons n _ ih =>
      rw [List.sum_cons]
      exact Nat.le_trans ih (Nat.le_add_left _ _)
  | cons_cons n _ ih =>
      rw [List.sum_cons, List.sum_cons]
      exact Nat.add_le_add_left ih n

theorem room_kept_le (slots : List Slot) (itemId : UInt8) :
    room (kept slots itemId) ≤ room slots :=
  sum_le_of_sublist (List.filter_sublist.map Slot.room)

theorem length_kept_le (slots : List Slot) (itemId : UInt8) :
    (kept slots itemId).length ≤ slots.length := List.length_filter_le _ _

theorem Lengths.kept (h : Lengths len slots) (itemId : UInt8) :
    Lengths len (NvDriver.kept slots itemId) := fun slot hmem => 
  h slot (List.mem_filter.mp hmem).1

/-- The copied items tell the same about every other item. -/
theorem contents_kept (slots : List Slot) (itemId itemId' : UInt8) :
    contents (kept slots itemId) itemId' =
      if itemId' = itemId then none else contents slots itemId' := by
  induction slots using List.reverseRecOn with
  | nil => simp [kept, contents_nil]
  | append_singleton slots slot ih =>
      rw [kept_append, contents_append]
      split
      · rename_i hcopy
        rw [contents_append, ih]
        by_cases hid : itemId' = itemId
        · have hholds : slot.holds itemId' = false := by
            simp [Slot.holds, hid, hcopy.2]
          rw [hholds, if_neg (by decide), if_pos hid, if_pos hid]
        · rw [if_neg hid, if_neg hid]
      · rename_i hskip
        rw [ih]
        by_cases hid : itemId' = itemId
        · rw [if_pos hid, if_pos hid]
        · have hholds : slot.holds itemId' = false := by
            rw [← Bool.not_eq_true]
            intro hholds
            obtain ⟨hvalid, rfl⟩ := holds_state hholds
            exact hskip ⟨hvalid, hid⟩
          rw [hholds, if_neg hid, if_neg hid, if_neg (by decide)]

/-! ## Copying -/

/-- What happens behind the info of one sector leaves the other one alone. -/
theorem Sector.behind (hM : M.Sized) (hne : sect ≠ sect') (h : Sector M m₀ sect slots)
    (hbehind : Behind M sect' m₀ m) : Sector M m sect slots := by
  have hapart := sect_apart M hne
  refine h.congr hM fun x hle hx => hbehind x ?_
  rw [NvModule.idxStart] at hle ⊢
  omega

/-- Where the copying stands in front of a place of the index. -/
structure Copying (M : NvModule) (sect sect' : Nat) (slots : List Slot) (itemId : UInt8)
    (m₀ : Mem) (i : Nat) (c : CopyState) : Prop where
  expected : c.expected = M.slotAddr sect slots i
  count : c.wItemIdx = (kept (slots.take i) itemId).length
  used : c.sizeusedAddr = M.slotsEnd sect' (kept (slots.take i) itemId)
  behind : Behind M sect' m₀ c.chip.mem
  sector : Sector M c.chip.mem sect' (kept (slots.take i) itemId)
  clean : Clean M c.chip.mem sect' (kept (slots.take i) itemId)

theorem slotAddr_succ (M : NvModule) (sect : Nat) (hget : slots[i]? = some slot) :
    M.slotAddr sect slots (i + 1) = M.slotAddr sect slots i + slot.room := by
  rw [NvModule.slotAddr, List.take_add_one, hget, Option.toList_some, room_append,
    room_singleton, NvModule.slotAddr, Nat.add_assoc]

/-- An item is copied, or left out. -/
theorem nvCopyPass_spec (hM : M.Sized) (hsect : sect < 2) (hsect' : sect' < 2) (hne : sect ≠ sect')
    {itemId : UInt8} (h : Sector M m₀ sect slots) {c : CopyState}
    (hc : Copying M sect sect' slots itemId m₀ i c) (hget : slots[i]? = some slot) :
    ∃ c', nvCopyPass M true itemId sect sect' c i = .next c' ∧
      Copying M sect sect' slots itemId m₀ (i + 1) c' ∧
      CrashSafe geometry E (Behind M sect' m₀) c.chip c'.chip := by
  have hold := h.behind hM hne hc.behind
  have hsize := hold.length_lt hM hsect hget
  have hslot := hold.slot i slot hget
  have haddr := slotAddr_add_room M sect hget
  have hlength := slot.length_le_room
  have hnext : align4 (M.slotAddr sect slots i + (slot.data.length + 8)) =
      M.slotAddr sect slots (i + 1) := by
    rw [align4_add (hM.slotAddr_mod hsect slots i), slotAddr_succ M sect hget, Slot.room]
  rw [nvCopyPass, hold.readIdx hM hsect hget]
  simp only [Slot.idx_offset, Slot.idx_size, Slot.idx_itemId, Slot.idx_usedState,
    itemValidFlagCheck_byte, hnext]
  rw [if_neg (by rw [hc.expected]; have hfits := h.fits; omega)]
  by_cases hcopy : slot.state = .valid ∧ slot.itemId ≠ itemId
  · have hkept : kept (slots.take (i + 1)) itemId = kept (slots.take i) itemId ++ [slot] := by
      rw [kept_take_succ hget, if_pos hcopy]
    have hcount : (kept (slots.take i) itemId).length < M.idxNum := by
      have hle := length_kept_le (slots.take i) itemId
      have hlt : i < slots.length := (List.getElem?_eq_some_iff.mp hget).1
      have hall := h.count
      rw [List.length_take] at hle
      omega
    have hroom : M.slotsEnd sect' (kept (slots.take i) itemId) + slot.room ≤ M.sectEnd sect' := by
      have hle := room_kept_le (slots.take i) itemId
      have hall := room_take_add hget
      have hfits := h.fits
      rw [sectEnd_eq, NvModule.slotsEnd, NvModule.contextStart] at hfits ⊢
      omega
    have hsource : ∀ m, Extends M sect' (kept (slots.take i) itemId) c.chip.mem m →
        (ItemSource.flash (M.slotAddr sect slots i)).Gives m slot
          (M.slotsEnd sect' (kept (slots.take i) itemId)) := by
      intro m hext
      have hslot' := (hold.behind hM hne (hext.behind hM hcount)).slot i slot hget
      have hcontent := hslot'.content
      rw [Slot.Content, if_neg (by rw [hcopy.1]; decide)] at hcontent
      refine ⟨⟨_, hcontent⟩, ?_⟩
      have hstart := contextStart_le_slotAddr M sect slots i
      have hstart' := contextStart_le_slotsEnd M sect' (kept (slots.take i) itemId)
      have hfits := h.fits
      have hapart := sect_apart M hne
      rw [NvModule.contextStart] at hstart hstart'
      omega
    obtain ⟨chip', hwrite, hsector, hclean, hsafe⟩ :=
      nvWriteItem_spec (E := E) hM hsect' hc.sector hc.clean hcount hroom hcopy.1 hsource
    rw [← hc.count] at hwrite
    rw [if_pos ⟨by simp [hcopy.1], Or.inl hcopy.2⟩, if_neg (hslot.content.crc_eq (by omega)),
      Nat.add_sub_cancel, hcopy.1]
    rw [show (SlotState.valid.byte == ITEM_FIELD_VALID_SINGLE) = true from rfl, hwrite]
    refine ⟨_, rfl, ⟨rfl, ?_, ?_, ?_, ?_, ?_⟩, hsafe.mono fun m hm =>
      hc.behind.trans (hm.1.behind hM hcount)⟩
    · rw [hkept, List.length_append, List.length_singleton, hc.count]
    · rw [hkept, slotsEnd_append, hc.used, align4_add (hM.slotsEnd_mod hsect' _), Slot.room]
    · exact hc.behind.trans (hsafe.post.1.behind hM hcount)
    · rw [hkept]
      exact hsector
    · rw [hkept]
      exact hclean
  · have hkept : kept (slots.take (i + 1)) itemId = kept (slots.take i) itemId := by
      rw [kept_take_succ hget, if_neg hcopy]
    rw [if_neg (by simpa using hcopy)]
    refine ⟨_, rfl, ⟨rfl, ?_, ?_, hc.behind, ?_, ?_⟩, crashSafe_refl hc.behind⟩
    · rw [hkept]
      exact hc.count
    · rw [hkept]
      exact hc.used
    · rw [hkept]
      exact hc.sector
    · rw [hkept]
      exact hc.clean

/-- Behind the items nothing is copied. -/
theorem nvCopyItems_rest (hM : M.Sized) (hsect : sect < 2) (h : Sector M m sect slots)
    (single : Bool) (itemId : UInt8) (k n : Nat) {c : CopyState} (hm : c.chip.mem = m)
    (hi : slots.length ≤ i) (hn : i + n ≤ M.idxNum) :
    ∃ c', nvCopyItems M single itemId sect k c (List.range' i n) = (.ok c', c.chip) ∧
      c'.chip = c.chip ∧ c'.wItemIdx = c.wItemIdx ∧ c'.sizeusedAddr = c.sizeusedAddr := by
  induction n generalizing i c with
  | zero => exact ⟨c, rfl, rfl, rfl, rfl⟩
  | succ n ih =>
      have hstate := h.usedState hM hsect (i := i) (by omega)
      rw [List.getElem?_eq_none hi] at hstate
      have hidle : itemValidFlagCheck (M.readIdx c.chip.mem sect i).usedState = false := by
        rw [hm, hstate]
        rfl
      rw [List.range'_succ, nvCopyItems, nvCopyPass]
      dsimp only
      split
      · rename_i heq
        split at heq
        · cases heq
        · rw [if_neg (by rw [hidle]; simp)] at heq
          cases heq
          exact ih hm (by omega) (by omega)
      · rename_i heq
        split at heq
        · cases heq
          exact ⟨c, rfl, rfl, rfl, rfl⟩
        · rw [if_neg (by rw [hidle]; simp)] at heq
          cases heq
      · rename_i heq
        split at heq
        · cases heq
        · rw [if_neg (by rw [hidle]; simp)] at heq
          cases heq

/-- What is there when everything is copied. -/
structure Copied (M : NvModule) (sect' : Nat) (copies : List Slot) (c : CopyState) : Prop where
  count : c.wItemIdx = copies.length
  used : c.sizeusedAddr = M.slotsEnd sect' copies
  sector : Sector M c.chip.mem sect' copies
  clean : Clean M c.chip.mem sect' copies

theorem nvCopyItems_range (hM : M.Sized) (hsect : sect < 2) (hsect' : sect' < 2)
    (hne : sect ≠ sect') {itemId : UInt8} (h : Sector M m₀ sect slots) (n : Nat) {c : CopyState}
    (hc : Copying M sect sect' slots itemId m₀ i c) (hi : i ≤ slots.length)
    (hn : i + n = M.idxNum) :
    ∃ c', nvCopyItems M true itemId sect sect' c (List.range' i n) = (.ok c', c'.chip) ∧
      Copied M sect' (kept slots itemId) c' ∧
      CrashSafe geometry E (Behind M sect' m₀) c.chip c'.chip := by
  have hcount := h.count
  induction n generalizing i c with
  | zero =>
      have hall : slots.take i = slots := List.take_of_length_le (by omega)
      rcases hc with ⟨-, hwritten, hused, hbehind, hsector, hclean⟩
      rw [hall] at hwritten hused hsector hclean
      exact ⟨c, rfl, ⟨hwritten, hused, hsector, hclean⟩, crashSafe_refl hbehind⟩
  | succ n ih =>
      rcases Nat.eq_or_lt_of_le hi with rfl | hlt
      · rcases hc with ⟨-, hwritten, hused, hbehind, hsector, hclean⟩
        rw [List.take_length] at hwritten hused hsector hclean
        have hold := h.behind hM hne hbehind
        obtain ⟨c', hrest, hchip', hcount', hused'⟩ := nvCopyItems_rest hM hsect hold true itemId
          sect' (n + 1) rfl (Nat.le_refl _) (by omega)
        refine ⟨c', hchip' ▸ hrest, ⟨hcount'.trans hwritten, hused'.trans hused, ?_, ?_⟩, ?_⟩
        · rw [hchip']
          exact hsector
        · rw [hchip']
          exact hclean
        · rw [hchip']
          exact crashSafe_refl hbehind
      · have hget : slots[i]? = some slots[i] := List.getElem?_eq_getElem hlt
        obtain ⟨c₁, hpass, hc₁, hsafe₁⟩ := nvCopyPass_spec (E := E) hM hsect hsect' hne h hc hget
        obtain ⟨c₂, hitems, hcopied, hsafe₂⟩ := ih hc₁ hlt (by omega)
        refine ⟨c₂, ?_, hcopied, hsafe₁.trans hsafe₂⟩
        rw [List.range'_succ, nvCopyItems, hpass]
        exact hitems

end NvDriver
