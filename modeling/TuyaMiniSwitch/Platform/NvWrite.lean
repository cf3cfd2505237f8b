import TuyaMiniSwitch.Platform.NvStore

/-!
# Platform - Writing to a module

An item that is written is held from then on, or there is no room for it.  While it is written the
module holds what it held, or the new item already.

Main results:

- Theorem {lit}`nvFlashWriteNew_spec`: what a write does to a module.
- Theorem {lit}`nvFlashWriteNew_sector`: the sector stays in use, or the other one takes over.
-/

namespace NvDriver

open NorFlash FlashDriver

variable {E : Cmd → Nat → Prop} {M : NvModule} {m m' m₀ : Mem} {sect flag : Nat}
  {slots : List Slot} {slot : Slot} {len : UInt8 → Nat} {map : UInt8 → Option (List UInt8)}

/-! ## A place for an item -/

/-- Behind the last item there is a place, if it can be used and the index is not full. -/
theorem nvPlace_spec (hM : M.Sized) (hsect : sect < 2) (h : Sector M m sect slots)
    (hne : slots ≠ []) (n : Nat) : nvPlace M m sect n = none ∨
      nvPlace M m sect n = some slots.length ∧ slots.length < M.idxNum ∧ Clean M m sect slots ∧
        M.slotsEnd sect slots + itemTotalLen n ≤ M.sectEnd sect + 3 := by
  have hpos : 0 < slots.length := List.length_pos_iff.mpr hne
  have hplace := hM.place
  rw [nvPlace, h.nvIndexReadIdle hM hsect]
  rcases h.tail with hclean | hspoilt
  · have hidle : ¬ (slots.length < M.idxNum ∧ ¬ (M.readIdx m sect slots.length).Idle) :=
      fun hused => hused.2 (hclean.idle hused.1)
    have hlt : slots.length - 1 < slots.length := by omega
    have hget : slots[slots.length - 1]? = some slots[slots.length - 1] :=
      List.getElem?_eq_getElem hlt
    have hcount := h.count
    rw [if_neg hidle, if_neg hne]
    dsimp only
    rw [h.readIdx hM hsect hget, Slot.idx_offset, Slot.idx_size, Slot.idx_usedState]
    split
    · exact Or.inl rfl
    · rename_i hfull
      right
      rw [if_pos ⟨itemFlagCheck_byte _, h.oft hget⟩, Nat.sub_add_cancel hpos]
      have hroom := room_take_add hget
      have hnone : slots.drop (slots.length - 1 + 1) = [] := List.drop_eq_nil_of_le (by omega)
      have hslot : slots[slots.length - 1].room ≤ slots[slots.length - 1].data.length + 8 + 3 := by
        rw [Slot.room, align4]
        omega
      have hend : M.slotsEnd sect slots ≤ M.slotAddr sect slots (slots.length - 1) +
          (slots[slots.length - 1].data.length + 8) + 3 := by
        have hnil : room [] = 0 := rfl
        rw [hnone, hnil] at hroom
        rw [NvModule.slotsEnd, NvModule.slotAddr]
        omega
      exact ⟨rfl, by omega, hclean, by omega⟩
  · left
    rw [if_pos ⟨hspoilt.count, hspoilt.used⟩]
    dsimp only
    have hcheck : itemFlagCheck (M.readIdx m sect slots.length).usedState = false := by
      rw [hspoilt.state]
      rfl
    rw [hcheck]
    split
    · rfl
    · exact if_neg (by simp)

/-- An item that does not fit is refused before anything is written. -/
theorem nvWriteItem_full (hM : M.Sized) (hsect : sect < 2) {chip : Chip}
    (h : Sector M chip.mem sect slots) (single : Bool) (itemId : UInt8) {n : Nat}
    (source : ItemSource) (hfull : M.sectEnd sect < M.slotsEnd sect slots + (n + 8)) :
    nvWriteItem M chip single itemId sect slots.length n source = (.NV_ITEM_CHECK_ERROR, chip) := by
  have hoft : M.itemOftCheck (M.slotsEnd sect slots) (n + 8) sect = false := by
    rw [← Bool.not_eq_true, itemOftCheck_eq]
    omega
  rw [nvWriteItem, h.nvItemOffset hM hsect]
  dsimp only
  rw [if_pos hoft]

/-- What is held when an item is written. -/
def written (map : UInt8 → Option (List UInt8)) (itemId : UInt8) (data : List UInt8) :
    UInt8 → Option (List UInt8) := Function.update map itemId (some data)

theorem contents_written (hvalid : slot.state = .valid)
    (h : ∀ itemId, itemId ≠ slot.itemId → contents slots itemId = map itemId) (itemId : UInt8) :
    contents (slots ++ [slot]) itemId = written map slot.itemId slot.data itemId := by
  rw [contents_append, written, Function.update_apply]
  by_cases hid : itemId = slot.itemId
  · rw [hid, holds_itemId hvalid, if_pos rfl, if_pos rfl]
  · have hholds : slot.holds itemId = false := by
      rw [← Bool.not_eq_true]
      exact fun hholds => hid (holds_state hholds).2.symm
    rw [hholds, if_neg (by decide), if_neg hid, h itemId hid]

/-- Other items in the sector that is in use. -/
theorem Live.replace (hM : M.Sized) {map' : UInt8 → Option (List UInt8)}
    (h : Live M len m₀ flag sect map) (hbehind : Behind M sect m₀ m) (hne : slots ≠ [])
    (hsector : Sector M m sect slots) (hlengths : Lengths len slots)
    (hcontents : ∀ itemId, contents slots itemId = map' itemId) :
    Live M len m flag sect map' :=
  InForce.replace hM h hbehind ⟨slots, hne, hsector, hlengths, hcontents⟩

/-- A module that holds what it held, or a new item. -/
def Between (M : NvModule) (len : UInt8 → Nat) (map : UInt8 → Option (List UInt8))
    (itemId : UInt8) (data : List UInt8) (m₀ m : Mem) : Prop :=
  Kept M len map m₀ m ∨ Kept M len (written map itemId data) m₀ m

/-! ## In the sector that is in use -/

/-- An item is appended, and the one before is marked as invalid. -/
theorem nvWriteAt_append (hM : M.Sized) {chip : Chip} (hwithin : Within M m₀ chip.mem)
    (hlive : Live M len chip.mem NV_SECTOR_VALID_CHECKCRC sect map) (hne : slots ≠ [])
    (h : Sector M chip.mem sect slots) (hlengths : Lengths len slots)
    (hcontents : ∀ itemId, contents slots itemId = map itemId)
    (hclean : Clean M chip.mem sect slots)
    (hcount : slots.length < M.idxNum)
    (hroom : M.slotsEnd sect slots + slot.room ≤ M.sectEnd sect) (hvalid : slot.state = .valid)
    (hlength : slot.data.length = len slot.itemId) (hid : slot.itemId ≠ ITEM_FIELD_IDLE) :
    ∃ chip', nvWriteAt M chip true slot.itemId slot.data false sect sect slots.length =
        (.NV_SUCC, chip') ∧
      (Within M m₀ chip'.mem ∧ Live M len chip'.mem NV_SECTOR_VALID_CHECKCRC sect
        (written map slot.itemId slot.data)) ∧
      CrashSafe geometry E (Between M len map slot.itemId slot.data m₀) chip chip' := by
  have hsect := hlive.sect_lt
  have hpos : 0 < slots.length := List.length_pos_iff.mpr hne
  have hsource : ∀ m, Extends M sect slots chip.mem m →
      (ItemSource.ram slot.data).Gives m slot (M.slotsEnd sect slots) := fun _ _ => rfl
  obtain ⟨chip₁, hwrite, hsector₁, -, hsafe₁⟩ :=
    nvWriteItem_spec (E := E) hM hsect h hclean hcount hroom hvalid hsource
  have hwritten := contents_written hvalid fun itemId _ => hcontents itemId
  have hlengths₁ := hlengths.append hlength
  have hne₁ : slots ++ [slot] ≠ [] := by simp
  have hbehind₁ := hsafe₁.post.1.behind hM hcount
  have hlive₁ := hlive.replace hM hbehind₁ hne₁ hsector₁ hlengths₁ hwritten
  have hwithin₁ : Within M m₀ chip₁.mem := hwithin.trans (hbehind₁.within hsect)
  have hbetween₁ : CrashSafe geometry E (Between M len map slot.itemId slot.data m₀) chip
      chip₁ := by
    refine hsafe₁.mono fun m hm => ?_
    have hbehind := hm.1.behind hM hcount
    have hwithin' := hwithin.trans (hbehind.within hsect)
    rcases hm.2 with hsame | hpending | hdone
    · exact Or.inl ⟨hwithin', .valid sect (hlive.replace hM hbehind hne hsame hlengths hcontents)⟩
    · refine Or.inl ⟨hwithin', .valid sect (hlive.replace hM hbehind ?_ hpending
        (hlengths.append hlength) fun itemId => ?_)⟩
      · simp
      · have hholds : ({ slot with state := .pending } : Slot).holds itemId = false := rfl
        rw [contents_append, hholds, if_neg (by decide), hcontents]
    · exact Or.inr ⟨hwithin', .valid sect (hlive.replace hM hbehind hne₁ hdone hlengths₁ hwritten)⟩
  rw [nvWriteAt, if_pos rfl, hlength, h.nvIndexRead hM hsect hlengths hid, ← hlength, hwrite]
  dsimp only
  have hcommit : ∀ chip, nvSectorCommit M chip false sect sect slots.length = (.NV_SUCC, chip) := by
    intro chip
    rw [nvSectorCommit, if_neg (by decide), if_neg (by omega)]
  cases hindex : lastIndex slots slot.itemId with
  | none =>
      dsimp only
      rw [hcommit]
      exact ⟨chip₁, rfl, ⟨hwithin₁, hlive₁⟩, hbetween₁⟩
  | some i =>
      rcases (lastIndex_eq_some.mp hindex).1 with ⟨old, hget, hholds⟩
      obtain ⟨hvalid', hid'⟩ := holds_state hholds
      have hlt : i < slots.length := (List.getElem?_eq_some_iff.mp hget).1
      have hget₁ : (slots ++ [slot])[i]? = some old := by
        rw [List.getElem?_append_left hlt, hget]
      have hlast : lastIndex (slots ++ [slot]) old.itemId ≠ some i := by
        rw [hid', lastIndex_append, holds_itemId hvalid, if_pos rfl, ne_eq, Option.some.injEq]
        omega
      have hmarked := (hsector₁.marked hlengths₁).delete hM hget₁ hvalid' hlast
      have hne₂ : (slots ++ [slot]).set i old.delete ≠ [] := by simp
      have hstored : Stored (programAt chip₁.mem (M.idxAddr sect i + 7) [ITEM_FIELD_INVALID])
          (M.idxAddr sect i + 7) [ITEM_FIELD_INVALID] := by
        have hset : ((slots ++ [slot]).set i old.delete)[i]? = some old.delete := by
          rw [List.getElem?_set_self (by rw [List.length_append]; omega)]
        have hplace := (hmarked.sector.slot i old.delete hset).idx
        rw [toBytes_state, stored_append] at hplace
        exact hplace.2
      have hwithin₂ := hwithin₁.trans (hmarked.behind.within hsect)
      have hlive₂ := hlive₁.replace hM hmarked.behind hne₂ hmarked.sector hmarked.lengths
        fun itemId => (hmarked.contents itemId).trans (hwritten itemId)
      dsimp only
      rw [flashWriteWithCheck_eq hstored]
      dsimp only
      rw [if_neg (by decide), hcommit]
      refine ⟨_, rfl, ?_, hbetween₁.trans ((crashSafe_byte _ _ _).mono fun m hm => ?_)⟩
      · rw [flashWritePage_mem]
        exact ⟨hwithin₂, hlive₂⟩
      · rcases hm with rfl | rfl
        · exact Or.inr ⟨hwithin₁, .valid sect hlive₁⟩
        · exact Or.inr ⟨hwithin₂, .valid sect hlive₂⟩

/-! ## Taking over -/

/-- The sector that was made ready takes over. -/
theorem nvSectorCommit_update (hM : M.HoldsItems) (hE : ∀ c k, LosingCut M c k → E c k)
    {chip : Chip} (hwithin : Within M m₀ chip.mem)
    (hlive : Live M len chip.mem NV_SECTOR_VALID_CHECKCRC sect map)
    (hblank : Blank chip.mem (M.sectStart (otherSect sect)) 4)
    {map' : UInt8 → Option (List UInt8)} (hitems : ItemsIn M len map' chip.mem (otherSect sect))
    (wItemIdx : Nat) :
    ∃ chip', nvSectorCommit M chip true sect (otherSect sect) wItemIdx = (.NV_SUCC, chip') ∧
      Kept M len map' m₀ chip'.mem ∧ TakesOver M (ItemsIn M len map') sect chip chip' ∧
      CrashSafe geometry E (fun m => Kept M len map m₀ m ∨ Kept M len map' m₀ m) chip chip' := by
  obtain ⟨chip₁, chip₂, chip', hinfo, hmark, hflag, hwithin', hlive', hover, hsafe⟩ :=
    takeOver_spec hM.known (itemsIn_local hM.sized) (itemsIn_local hM.sized) hE hwithin hlive
      hblank hitems
  refine ⟨chip', ?_, ⟨hwithin', .valid _ hlive'⟩, hover, hsafe⟩
  rw [nvSectorCommit, if_pos rfl, hinfo]
  dsimp only
  rw [if_neg (by decide), hmark]
  dsimp only
  rw [if_pos rfl, hflag]

/-- The first item of a module: the info of its first sector is written behind it. -/
theorem nvSectorCommit_first (hM : M.HoldsItems) (hE : ∀ c k, LosingCut M c k → E c k)
    {chip : Chip} (hwithin : Within M m₀ chip.mem) (hdead : Dead M chip.mem 1)
    (hblank : Blank chip.mem (M.sectStart 0) 4) {map' : UInt8 → Option (List UInt8)}
    (hnone : ∀ itemId, map itemId = none) (hitems : ItemsIn M len map' chip.mem 0) :
    ∃ chip', nvSectorCommit M chip false 0 0 0 = (.NV_SUCC, chip') ∧
      Kept M len map' m₀ chip'.mem ∧
      CrashSafe geometry E (fun m => Kept M len map m₀ m ∨ Kept M len map' m₀ m) chip chip' := by
  obtain ⟨chip', hinfo, -, hwithin', hlive', hsafe⟩ :=
    firstInfo_spec (Q := ItemsIn M len map) hM.known (itemsIn_local hM.sized) hE hwithin hdead
      hblank hitems hnone (Or.inl rfl)
  have hkept : Kept M len map' m₀ chip'.mem := ⟨hwithin', .valid 0 hlive'⟩
  refine ⟨chip', ?_, hkept, hsafe.mono fun m hm => hm.imp id ?_⟩
  swap
  · rintro rfl
    exact hkept
  rw [nvSectorCommit, if_neg (by decide), if_pos rfl, hinfo]

/-! ## Into another sector -/

theorem align4_room (hM : M.Sized) (hsect : sect < 2)
    (hfits : M.slotsEnd sect slots + (slot.data.length + 8) ≤ M.sectEnd sect) :
    M.slotsEnd sect slots + slot.room ≤ M.sectEnd sect := by
  rw [Slot.room, ← align4_add (hM.slotsEnd_mod hsect slots)]
  exact align4_le (hM.sectEnd_mod hsect) hfits

/-- The item is written behind those that were copied, and the sector takes over. -/
theorem nvWriteAt_update (hM : M.HoldsItems) (hE : ∀ c k, LosingCut M c k → E c k) {chip : Chip}
    (hwithin : Within M m₀ chip.mem)
    (hlive : Live M len chip.mem NV_SECTOR_VALID_CHECKCRC sect map)
    (hblank : Blank chip.mem (M.sectStart (otherSect sect)) 4)
    (h : Sector M chip.mem (otherSect sect) slots)
    (hclean : Clean M chip.mem (otherSect sect) slots)
    (hlengths : Lengths len slots) (hnone : lastIndex slots slot.itemId = none)
    (hcontents : ∀ itemId, itemId ≠ slot.itemId → contents slots itemId = map itemId)
    (hcount : slots.length < M.idxNum)
    (hroom : M.slotsEnd (otherSect sect) slots + slot.room ≤ M.sectEnd (otherSect sect))
    (hvalid : slot.state = .valid) (hlength : slot.data.length = len slot.itemId)
    (hid : slot.itemId ≠ ITEM_FIELD_IDLE) :
    ∃ chip', nvWriteAt M chip true slot.itemId slot.data true sect (otherSect sect) slots.length =
        (.NV_SUCC, chip') ∧
      Kept M len (written map slot.itemId slot.data) m₀ chip'.mem ∧
      TakesOver M (ItemsIn M len (written map slot.itemId slot.data)) sect chip chip' ∧
      CrashSafe geometry E (Between M len map slot.itemId slot.data m₀) chip chip' := by
  have hsized := hM.sized
  have hlt := otherSect_lt sect
  have hsource : ∀ m, Extends M (otherSect sect) slots chip.mem m →
      (ItemSource.ram slot.data).Gives m slot (M.slotsEnd (otherSect sect) slots) := fun _ _ => rfl
  obtain ⟨chip₁, hwrite, hsector₁, -, hsafe₁⟩ :=
    nvWriteItem_spec (E := E) hsized hlt h hclean hcount hroom hvalid hsource
  have hbehind₁ := hsafe₁.post.1.behind hsized hcount
  have hblank₁ : Blank chip₁.mem (M.sectStart (otherSect sect)) 4 := by
    refine hblank.congr fun x hle hx => hbehind₁ x ?_
    rw [NvModule.idxStart]
    omega
  have hne : slots ++ [slot] ≠ [] := by simp
  obtain ⟨chip₂, hcommit, hkept, hover, hsafe₂⟩ := nvSectorCommit_update hM hE
    (hwithin.trans (hbehind₁.within hlt)) (hlive.behind hsized (itemsIn_local hsized) hbehind₁)
    hblank₁ ⟨_, hne, hsector₁, hlengths.append hlength, contents_written hvalid hcontents⟩
    slots.length
  refine ⟨chip₂, ?_, hkept, hover.after hsafe₁.run, (hsafe₁.mono fun m hm => ?_).trans hsafe₂⟩
  · rw [nvWriteAt, if_pos rfl, hlength, h.nvIndexRead hsized hlt hlengths hid, hnone, ← hlength,
      hwrite]
    exact hcommit
  · have hbehind := hm.1.behind hsized hcount
    exact Or.inl ⟨hwithin.trans (hbehind.within hlt),
      .valid sect (hlive.behind hsized (itemsIn_local hsized) hbehind)⟩

/-- The first item of a module that holds none. -/
theorem nvWriteAt_first (hM : M.HoldsItems) (hE : ∀ c k, LosingCut M c k → E c k) {chip : Chip}
    (hwithin : Within M m₀ chip.mem) (hdead : Dead M chip.mem 1)
    (hblank : Blank chip.mem (M.sectStart 0) M.sectorSize) (hnone : ∀ itemId, map itemId = none)
    (hfits : M.slotsEnd 0 [] + (slot.data.length + 8) ≤ M.sectEnd 0)
    (hvalid : slot.state = .valid) (hlength : slot.data.length = len slot.itemId)
    (hid : slot.itemId ≠ ITEM_FIELD_IDLE) :
    ∃ chip', nvWriteAt M chip true slot.itemId slot.data false 0 0 0 = (.NV_SUCC, chip') ∧
      Kept M len (written map slot.itemId slot.data) m₀ chip'.mem ∧
      CrashSafe geometry E (Between M len map slot.itemId slot.data m₀) chip chip' := by
  have hsized := hM.sized
  have hlt : 0 < 2 := Nat.zero_lt_two
  have hstart : ∀ sect, M.idxStart sect = M.sectStart sect + 4 := fun _ => rfl
  have hend := sectEnd_eq M 0
  have hpos := hsized.sector_pos
  have hmod := hsized.sector_mod
  have hlengths : Lengths len [] := fun slot hmem => (nomatch hmem)
  obtain ⟨hsector, hclean⟩ : Sector M chip.mem 0 [] ∧ Clean M chip.mem 0 [] := by
    refine sector_blank hsized (hblank.sub ?_ ?_)
    · rw [hstart]
      omega
    · rw [hstart]
      omega
  have hsource : ∀ m, Extends M 0 [] chip.mem m →
      (ItemSource.ram slot.data).Gives m slot (M.slotsEnd 0 []) := fun _ _ => rfl
  obtain ⟨chip₁, hwrite, hsector₁, -, hsafe₁⟩ := nvWriteItem_spec (E := E) hsized hlt hsector
    hclean hsized.place (align4_room hsized hlt hfits) hvalid hsource
  have hempty : ∀ m, Behind M 0 chip.mem m → Blank m (M.sectStart 0) 4 ∧ Dead M m 1 := by
    intro m hbehind
    have hne : (0 : Nat) ≠ 1 := by decide
    have hapart := sect_apart M hne
    have hend' := sectEnd_eq M 1
    refine ⟨(hblank.sub (Nat.le_refl _) (by omega)).congr fun x hle hx => hbehind x ?_,
      hdead.congr fun x hle hx => hbehind x ?_⟩
    · rw [hstart]
      omega
    · rw [hstart] at hx ⊢
      omega
  have hbehind₁ := hsafe₁.post.1.behind hsized hsized.place
  obtain ⟨hblank₁, hdead₁⟩ := hempty _ hbehind₁
  have hne : [] ++ [slot] ≠ [] := by simp
  have hother : ∀ itemId, itemId ≠ slot.itemId → contents [] itemId = map itemId := by
    intro itemId _
    rw [contents_nil, hnone]
  obtain ⟨chip₂, hcommit, hkept, hsafe₂⟩ := nvSectorCommit_first hM hE
    (hwithin.trans (hbehind₁.within hlt)) hdead₁ hblank₁ hnone
    ⟨_, hne, hsector₁, hlengths.append hlength, contents_written hvalid hother⟩
  refine ⟨chip₂, ?_, hkept, (hsafe₁.mono fun m hm => ?_).trans hsafe₂⟩
  · have hindex : nvIndexRead M chip.mem slot.itemId (len slot.itemId) 0 = none := by
      rw [hsector.nvIndexRead hsized hlt hlengths hid]
      rfl
    have hwrite' : nvWriteItem M chip true slot.itemId 0 0 slot.data.length (.ram slot.data) =
        (.NV_SUCC, chip₁) := hwrite
    rw [nvWriteAt, if_pos rfl, hlength, hindex, ← hlength, hwrite']
    exact hcommit
  · have hbehind := hm.1.behind hsized hsized.place
    obtain ⟨hblank', hdead'⟩ := hempty m hbehind
    exact Or.inl ⟨hwithin.trans (hbehind.within hlt), .empty (dead_blank hblank') hdead' hnone⟩

/-- There is no room for an item: it is too long for a sector, or the valid items leave none in the
index or behind it. -/
def Full (M : NvModule) (len : UInt8 → Nat) (map : UInt8 → Option (List UInt8)) (itemId : UInt8)
    (n : Nat) (allocated : Bool) : Prop :=
  M.sectorSize < itemTotalLen n + M.infoSize ∨
    ∃ slots, Lengths len slots ∧ (∀ itemId, contents slots itemId = map itemId) ∧
      (allocated = true → Single slots) ∧
      ((kept slots itemId).length = M.idxNum ∨
        M.sectorSize < M.infoSize + room (kept slots itemId) + itemTotalLen n)

/-- While its other sector is made ready a module holds what it held. -/
theorem Leaving.live (hlive : Live M len m₀ NV_SECTOR_VALID_CHECKCRC sect map)
    (hne : slots ≠ []) (hcontents : ∀ itemId, contents slots itemId = map itemId)
    (h : Leaving M len sect slots m₀ m) : Live M len m NV_SECTOR_VALID_CHECKCRC sect map := by
  rcases h.items with ⟨slots', hsector, hlength, hlengths, hsame⟩
  refine ⟨hlive.sect_lt, hlive.info.congr fun x hle hx => h.info x hle hx, fun hone => ?_, slots',
    ?_, hsector, hlengths, fun itemId => (hsame itemId).trans (hcontents itemId)⟩
  · have hzero : otherSect sect = 0 := by rw [hone]; rfl
    have hother := h.other
    rw [hzero] at hother
    rcases hother with hsame' | hblank
    · exact (hlive.other hone).congr hsame'
    · exact dead_blank hblank
  · intro hnil
    rw [hnil] at hlength
    exact hne (List.length_eq_zero_iff.mp hlength.symm)

/-- A write that changes the sector. -/
theorem nvFlashWrite_update (hM : M.HoldsItems) (hE : ∀ c k, LosingCut M c k → E c k) {chip : Chip}
    (hwithin : Within M m₀ chip.mem)
    (hlive : Live M len chip.mem NV_SECTOR_VALID_CHECKCRC sect map) {itemId : UInt8}
    {buf : List UInt8} (hlength : buf.length = len itemId) (hid : itemId ≠ ITEM_FIELD_IDLE)
    (allocated : Bool) :
    ∃ status chip', (match nvSectorUpdate M chip true itemId buf.length sect allocated with
        | (.error status, chip) => (status, chip)
        | (.ok wItemIdx, chip) =>
            nvWriteAt M chip true itemId buf true sect (otherSect sect) wItemIdx) =
        (status, chip') ∧
      CrashSafe geometry E (Between M len map itemId buf m₀) chip chip' ∧
      (status = .NV_SUCC ∧ Kept M len (written map itemId buf) m₀ chip'.mem ∧
          TakesOver M (ItemsIn M len (written map itemId buf)) sect chip chip' ∨
        status = .NV_NOT_ENOUGH_SAPCE ∧ Kept M len map m₀ chip'.mem ∧
          Full M len map itemId buf.length allocated) := by
  have hsized := hM.sized
  rcases hlive.content with ⟨slots, hne, hsector, hlengths, hcontents⟩
  have hcheck : sectValidCheck (M.readInfo chip.mem sect) = true := by
    rw [readInfo_of_stored (Or.inl rfl) hlive.info]
    rfl
  obtain ⟨slots', chip₁, hupdate, hblank₁, hsector₁, hclean₁, hlengths₁, hcontents₁, hsingle₁,
    hsafe₁⟩ := nvSectorUpdate_spec (E := E) hsized hlive.sect_lt hsector hlengths hcheck itemId
      buf.length allocated
  have hkept : ∀ m, Leaving M len sect slots chip.mem m → Kept M len map m₀ m := fun m hm =>
    ⟨hwithin.trans hm.within, .valid sect (hm.live hlive hne hcontents)⟩
  have hcontents' : ∀ itemId, contents slots' itemId = map itemId := fun itemId =>
    (hcontents₁ itemId).trans (hcontents itemId)
  have hstart : M.slotsEnd (otherSect sect) (kept slots' itemId) =
      M.sectStart (otherSect sect) + M.infoSize + room (kept slots' itemId) := rfl
  have hend := sectEnd_eq M (otherSect sect)
  rw [hupdate]
  split
  · rename_i heq
    split at heq
    · rename_i hfull
      cases heq
      refine ⟨_, _, rfl, hsafe₁.mono fun m hm => Or.inl (hkept m hm), Or.inr ⟨rfl,
        hkept _ hsafe₁.post, Or.inr ⟨slots', hlengths₁, hcontents', hsingle₁, ?_⟩⟩⟩
      rcases hfull with hindex | hroom
      · exact Or.inl hindex
      · right
        omega
    · cases heq
  · rename_i heq
    split at heq
    · cases heq
    · rename_i hfits
      cases heq
      have hslot : buf.length + 8 = itemTotalLen buf.length := rfl
      have hnone : lastIndex (kept slots' itemId) itemId = none := by
        rw [lastIndex_eq_none]
        intro j slot hget
        have hcopy := (List.mem_filter.mp (List.mem_of_getElem? hget)).2
        rw [Bool.and_eq_true, bne_iff_ne] at hcopy
        rw [← Bool.not_eq_true]
        exact fun hholds => hcopy.2 (holds_state hholds).2
      have hother : ∀ itemId', itemId' ≠ itemId →
          contents (kept slots' itemId) itemId' = map itemId' := by
        intro itemId' hne'
        rw [contents_kept, if_neg hne', hcontents']
      have hcount : (kept slots' itemId).length < M.idxNum := by
        have hle := hsector₁.count
        omega
      have hfits' : M.slotsEnd (otherSect sect) (kept slots' itemId) +
          ((⟨itemId, buf, .valid⟩ : Slot).data.length + 8) ≤ M.sectEnd (otherSect sect) := by
        change _ + (buf.length + 8) ≤ _
        omega
      have hroom := align4_room hsized (otherSect_lt sect) hfits'
      have hlive₁ := hsafe₁.post.live hlive hne hcontents
      obtain ⟨chip₂, hwrite, hkept₂, hover, hsafe₂⟩ := nvWriteAt_update hM hE
        (hwithin.trans hsafe₁.post.within) hlive₁ hblank₁ hsector₁ hclean₁ (hlengths₁.kept itemId)
        hnone hother hcount hroom rfl hlength hid
      exact ⟨_, chip₂, hwrite, (hsafe₁.mono fun m hm => Or.inl (hkept m hm)).trans hsafe₂,
        Or.inl ⟨rfl, hkept₂, hover.after hsafe₁.run⟩⟩

/-! ## A write -/

/-- How a write ends: the item is held, or there is no room for it. -/
def WriteEnds (M : NvModule) (len : UInt8 → Nat) (map : UInt8 → Option (List UInt8))
    (itemId : UInt8) (buf : List UInt8) (allocated : Bool) (m₀ : Mem) (status : Status)
    (m : Mem) : Prop :=
  status = .NV_SUCC ∧ Kept M len (written map itemId buf) m₀ m ∨
    status = .NV_NOT_ENOUGH_SAPCE ∧ Kept M len map m₀ m ∧ Full M len map itemId buf.length allocated

theorem writeEnds_of_update {itemId : UInt8} {buf : List UInt8} {allocated : Bool}
    {status : Status} {chip chip' : Chip}
    (h : status = .NV_SUCC ∧ Kept M len (written map itemId buf) m₀ chip'.mem ∧
        TakesOver M (ItemsIn M len (written map itemId buf)) sect chip chip' ∨
      status = .NV_NOT_ENOUGH_SAPCE ∧ Kept M len map m₀ chip'.mem ∧
        Full M len map itemId buf.length allocated) :
    WriteEnds M len map itemId buf allocated m₀ status chip'.mem := by
  rcases h with ⟨hstatus, hkept, -⟩ | hfull
  · exact Or.inl ⟨hstatus, hkept⟩
  · exact Or.inr hfull

/-- With {lit}`forceChgSec` the sector is changed. -/
theorem nvFlashWriteNewHandler_force (hM : M.HoldsItems) (hE : ∀ c k, LosingCut M c k → E c k)
    {chip : Chip} (hwithin : Within M m₀ chip.mem)
    (hlive : Live M len chip.mem NV_SECTOR_VALID_CHECKCRC sect map) {itemId : UInt8}
    {buf : List UInt8} (hlength : buf.length = len itemId) (hid : itemId ≠ ITEM_FIELD_IDLE)
    (allocated : Bool) :
    ∃ status chip', nvFlashWriteNewHandler M chip true true itemId buf allocated =
        (status, chip') ∧
      CrashSafe geometry E (Between M len map itemId buf m₀) chip chip' ∧
      WriteEnds M len map itemId buf allocated m₀ status chip'.mem := by
  have hkept : Kept M len map m₀ chip.mem := ⟨hwithin, .valid sect hlive⟩
  rw [nvFlashWriteNewHandler]
  split
  · rename_i hlong
    exact ⟨_, chip, rfl, crashSafe_refl (Or.inl hkept), Or.inr ⟨rfl, hkept, Or.inl hlong⟩⟩
  · rw [hlive.nvSectorRead]
    obtain ⟨status, chip', hupdate, hsafe, hends⟩ :=
      nvFlashWrite_update hM hE hwithin hlive hlength hid allocated
    exact ⟨status, chip', hupdate, hsafe, writeEnds_of_update hends⟩

/-- The sector stays in use with the item, or the other one takes over. -/
def StaysOrMoves (M : NvModule) (len : UInt8 → Nat) (map : UInt8 → Option (List UInt8))
    (sect : Nat) (chip chip' : Chip) : Prop :=
  Live M len chip'.mem NV_SECTOR_VALID_CHECKCRC sect map ∨
    TakesOver M (ItemsIn M len map) sect chip chip'

/-- Without it the item is appended to the sector that is in use, if there is a place for it.  If
the place turns out too small when it is aligned, nothing has happened. -/
theorem nvFlashWriteNewHandler_found (hM : M.HoldsItems) (hE : ∀ c k, LosingCut M c k → E c k)
    {chip chip₁ : Chip} (hread : nvSectorRead M chip = (some sect, chip₁))
    (hwithin : Within M m₀ chip₁.mem)
    (hlive : Live M len chip₁.mem NV_SECTOR_VALID_CHECKCRC sect map) {itemId : UInt8}
    {buf : List UInt8} (hlength : buf.length = len itemId) (hid : itemId ≠ ITEM_FIELD_IDLE)
    (hshort : ¬ M.sectorSize < itemTotalLen buf.length + M.infoSize) (allocated : Bool) :
    ∃ status chip', nvFlashWriteNewHandler M chip false true itemId buf allocated =
        (status, chip') ∧
      CrashSafe geometry E (Between M len map itemId buf m₀) chip₁ chip' ∧
      (WriteEnds M len map itemId buf allocated m₀ status chip'.mem ∧
          (status = .NV_SUCC → StaysOrMoves M len (written map itemId buf) sect chip₁ chip') ∨
        status = .NV_ITEM_CHECK_ERROR ∧ chip' = chip₁) := by
  have hsized := hM.sized
  obtain ⟨slot, hslot⟩ : ∃ slot : Slot, slot = ⟨itemId, buf, .valid⟩ := ⟨_, rfl⟩
  have hdata : slot.data = buf := by rw [hslot]
  have hitem : slot.itemId = itemId := by rw [hslot]
  have hvalid : slot.state = .valid := by rw [hslot]
  rw [nvFlashWriteNewHandler, if_neg hshort, hread]
  dsimp only
  rcases hlive.content with ⟨slots, hne, hsector, hlengths, hcontents⟩
  rcases nvPlace_spec hsized hlive.sect_lt hsector hne buf.length with
    hplace | ⟨hplace, hcount, hclean, -⟩
  · obtain ⟨status, chip₂, hupdate, hsafe₂, hends⟩ :=
      nvFlashWrite_update hM hE hwithin hlive hlength hid allocated
    refine ⟨status, chip₂, ?_, hsafe₂, Or.inl ⟨writeEnds_of_update hends, fun hsucc => ?_⟩⟩
    · rw [if_neg (by decide), hplace]
      exact hupdate
    · rcases hends with ⟨-, -, hover⟩ | ⟨rfl, -⟩
      · exact Or.inr hover
      · cases hsucc
  · rw [if_neg (by decide), hplace]
    dsimp only
    rcases Nat.lt_or_ge (M.sectEnd sect) (M.slotsEnd sect slots + (buf.length + 8)) with
      hfull | hfits
    · have hwrite : nvWriteAt M chip₁ true itemId buf false sect sect slots.length =
          (.NV_ITEM_CHECK_ERROR, chip₁) := by
        rw [nvWriteAt, nvWriteItem_full hsized hlive.sect_lt hsector true itemId (.ram buf) hfull]
      exact ⟨_, chip₁, hwrite, crashSafe_refl (Or.inl ⟨hwithin, .valid sect hlive⟩),
        Or.inr ⟨rfl, rfl⟩⟩
    · rw [← hdata] at hfits
      obtain ⟨chip₂, hwrite, ⟨hwithin₂, hlive₂⟩, hsafe₂⟩ := nvWriteAt_append (E := E) hsized
        hwithin hlive hne hsector hlengths hcontents hclean hcount
        (align4_room hsized hlive.sect_lt hfits) hvalid (by rw [hdata, hitem, hlength])
        (by rwa [hitem])
      rw [hdata, hitem] at hwrite hlive₂ hsafe₂
      exact ⟨_, chip₂, hwrite, hsafe₂, Or.inl ⟨Or.inl ⟨rfl, hwithin₂, .valid sect hlive₂⟩,
        fun _ => Or.inl hlive₂⟩⟩

/-- The same, whatever the module holds. -/
theorem nvFlashWriteNewHandler_spec (hM : M.HoldsItems) (hE : ∀ c k, LosingCut M c k → E c k)
    {chip : Chip} (h : Holds M len chip.mem map) {itemId : UInt8} {buf : List UInt8}
    (hlength : buf.length = len itemId) (hid : itemId ≠ ITEM_FIELD_IDLE) (allocated : Bool) :
    ∃ status chip', nvFlashWriteNewHandler M chip false true itemId buf allocated =
        (status, chip') ∧
      CrashSafe geometry E (Between M len map itemId buf chip.mem) chip chip' ∧
      (WriteEnds M len map itemId buf allocated chip.mem status chip'.mem ∨
        status = .NV_ITEM_CHECK_ERROR ∧ Within M chip.mem chip'.mem ∧
          ∃ sect, Live M len chip'.mem NV_SECTOR_VALID_CHECKCRC sect map) := by
  have hsized := hM.sized
  have hkept : Kept M len map chip.mem chip.mem := ⟨Within.refl M chip.mem, h⟩
  obtain ⟨slot, hslot⟩ : ∃ slot : Slot, slot = ⟨itemId, buf, .valid⟩ := ⟨_, rfl⟩
  have hdata : slot.data = buf := by rw [hslot]
  have hitem : slot.itemId = itemId := by rw [hslot]
  have hvalid : slot.state = .valid := by rw [hslot]
  by_cases hshort : M.sectorSize < itemTotalLen buf.length + M.infoSize
  · rw [nvFlashWriteNewHandler, if_pos hshort]
    exact ⟨_, chip, rfl, crashSafe_refl (Or.inl hkept), Or.inl (Or.inr ⟨rfl, hkept, Or.inl hshort⟩)⟩
  rcases nvSectorRead_spec hsized (itemsIn_local hsized) hE h with
    ⟨sect, chip₁, hread, hlive, hsafe₁⟩ | ⟨hread, hfirst, hsecond, hnone⟩
  · have hbetween := hsafe₁.mono fun m hm => (Or.inl hm : Between M len map itemId buf chip.mem m)
    obtain ⟨status, chip₂, hwrite, hsafe₂, ⟨hends, -⟩ | ⟨rfl, rfl⟩⟩ :=
      nvFlashWriteNewHandler_found hM hE hread hsafe₁.post.1 hlive hlength hid hshort allocated
    · exact ⟨status, chip₂, hwrite, hbetween.trans hsafe₂, Or.inl hends⟩
    · exact ⟨_, _, hwrite, hbetween.trans hsafe₂, Or.inr ⟨rfl, hsafe₁.post.1, sect, hlive⟩⟩
  · rw [nvFlashWriteNewHandler, if_neg hshort, hread]
    dsimp only
    have hsize : FLASH_SECTOR_SIZE = 4096 := rfl
    have hend := sectEnd_eq M 0
    have hmod := hsized.sector_mod
    have hstart : M.sectStart 0 = M.startAddr := by
      rw [NvModule.sectStart, Nat.zero_mul, Nat.add_zero]
    obtain ⟨chip₁, hchip₁⟩ : ∃ chip₁, chip₁ = eraseFrom chip M.startAddr
        (M.sectorSize / FLASH_SECTOR_SIZE) := ⟨_, rfl⟩
    obtain ⟨hmem₁, hsafe₁⟩ := eraseFrom_spec (E := E) chip hsized.start_mod
      (M.sectorSize / FLASH_SECTOR_SIZE)
    have hne : (0 : Nat) ≠ 1 := by decide
    have hapart := sect_apart M hne
    have hwithin₁ : ∀ k ≤ M.sectorSize / FLASH_SECTOR_SIZE,
        Within M chip.mem (erasedTo chip.mem M.startAddr k) := by
      intro k hk x hx
      have hupper := sect_within M Nat.zero_lt_two
      rw [hsize] at hk
      rw [erasedTo, if_neg]
      rw [hsize]
      omega
    have hdead₁ : ∀ k ≤ M.sectorSize / FLASH_SECTOR_SIZE,
        Dead M (erasedTo chip.mem M.startAddr k) 1 := by
      intro k hk
      have hend' := sectEnd_eq M 1
      have hpos := hsized.sector_pos
      refine hsecond.congr fun x hle hx => ?_
      rw [hsize] at hk
      rw [NvModule.idxStart] at hx
      rw [erasedTo, if_neg]
      rw [hsize]
      omega
    have hempty : ∀ k ≤ M.sectorSize / FLASH_SECTOR_SIZE,
        Kept M len map chip.mem (erasedTo chip.mem M.startAddr k) := by
      intro k hk
      refine ⟨hwithin₁ k hk, .empty ?_ (hdead₁ k hk) hnone⟩
      rcases Nat.eq_zero_or_pos k with rfl | hpos
      · refine hfirst.congr fun x _ _ => ?_
        rw [erasedTo, if_neg (by omega)]
      · refine dead_blank fun i hi => ?_
        rw [erasedTo, if_pos]
        rw [hsize]
        omega
    have hblank₁ : Blank chip₁.mem (M.sectStart 0) M.sectorSize := by
      intro i hi
      rw [hchip₁, hmem₁, erasedTo, if_pos]
      rw [hsize]
      omega
    have hidle : nvPlace M chip₁.mem 0 buf.length = some 0 := by
      have hsector : Sector M chip₁.mem 0 [] ∧ Clean M chip₁.mem 0 [] := by
        have hpos := hsized.sector_pos
        refine sector_blank hsized (hblank₁.sub ?_ ?_)
        · rw [NvModule.idxStart]
          omega
        · rw [NvModule.idxStart]
          omega
      have hused : ¬ (([] : List Slot).length < M.idxNum ∧
          ¬ (M.readIdx chip₁.mem 0 ([] : List Slot).length).Idle) :=
        fun hused => hused.2 (hsector.2.idle hused.1)
      rw [nvPlace, hsector.1.nvIndexReadIdle hsized Nat.zero_lt_two, if_neg hused, if_pos rfl]
    have hfits : M.slotsEnd 0 [] + (slot.data.length + 8) ≤ M.sectEnd 0 := by
      have hslots : M.slotsEnd 0 [] = M.sectStart 0 + M.infoSize := rfl
      rw [itemTotalLen] at hshort
      rw [hdata]
      omega
    have hkept₁ : Within M chip.mem chip₁.mem ∧ Dead M chip₁.mem 1 := by
      rw [hchip₁, hmem₁]
      exact ⟨hwithin₁ _ (Nat.le_refl _), hdead₁ _ (Nat.le_refl _)⟩
    obtain ⟨chip₂, hwrite, hkept₂, hsafe₂⟩ := nvWriteAt_first hM hE hkept₁.1 hkept₁.2 hblank₁
      hnone hfits hvalid (by rw [hdata, hitem, hlength]) (by rwa [hitem])
    rw [hdata, hitem] at hwrite hkept₂ hsafe₂
    refine ⟨_, chip₂, ?_, ?_, Or.inl (Or.inl ⟨rfl, hkept₂⟩)⟩
    · rw [← hchip₁, if_neg (by decide), hidle]
      exact hwrite
    · rw [← hchip₁] at hsafe₁
      refine (hsafe₁.mono fun m hm => ?_).trans hsafe₂
      rcases hm with ⟨k, hk, rfl⟩
      exact Or.inl (hempty k hk)

/-- A write ends with the item held, or with the module as it was.  A power cut leaves the module as
it was, or with the item. -/
theorem nvFlashWriteNew_spec (hM : M.HoldsItems) (hE : ∀ c k, LosingCut M c k → E c k)
    {chip : Chip} (h : Holds M len chip.mem map) {itemId : UInt8} {buf : List UInt8}
    (hlength : buf.length = len itemId) (hid : itemId ≠ ITEM_FIELD_IDLE)
    (allocated : Bool × Bool) :
    ∃ status chip', nvFlashWriteNew M chip true itemId buf allocated = (status, chip') ∧
      CrashSafe geometry E (Between M len map itemId buf chip.mem) chip chip' ∧
      (WriteEnds M len map itemId buf allocated.1 chip.mem status chip'.mem ∨
        WriteEnds M len map itemId buf allocated.2 chip.mem status chip'.mem) := by
  rw [nvFlashWriteNew, if_neg hM.ne_frameCount]
  obtain ⟨status, chip₁, hfirst, hsafe₁, hends | ⟨rfl, hwithin, sect, hlive⟩⟩ :=
    nvFlashWriteNewHandler_spec hM hE h hlength hid allocated.1
  · refine ⟨status, chip₁, ?_, hsafe₁, Or.inl hends⟩
    rw [hfirst]
    rcases hends with ⟨rfl, -⟩ | ⟨rfl, -⟩ <;> rfl
  · obtain ⟨status, chip₂, hsecond, hsafe₂, hends⟩ :=
      nvFlashWriteNewHandler_force hM hE hwithin hlive hlength hid allocated.2
    refine ⟨status, chip₂, ?_, hsafe₁.trans hsafe₂, Or.inr hends⟩
    rw [hfirst]
    exact hsecond

/-- What a write makes of the sector that was in use before it, in either attempt. -/
theorem nvFlashWriteNew_sector (hM : M.HoldsItems) {chip chip' : Chip}
    (h : Holds M len chip.mem map) (hread : (nvSectorRead M chip).1 = some sect) {itemId : UInt8}
    {buf : List UInt8} (hlength : buf.length = len itemId) (hid : itemId ≠ ITEM_FIELD_IDLE)
    {allocated : Bool × Bool}
    (hdone : nvFlashWriteNew M chip true itemId buf allocated = (.NV_SUCC, chip')) :
    StaysOrMoves M len (written map itemId buf) sect chip chip' := by
  have hsized := hM.sized
  have hE : ∀ c k, LosingCut M c k → LosingCut M c k := fun _ _ hlosing => hlosing
  rw [nvFlashWriteNew, if_neg hM.ne_frameCount] at hdone
  rcases nvSectorRead_spec hsized (itemsIn_local hsized) hE h with
    ⟨sect', chip₁, hread', hlive, hsafe₁⟩ | ⟨hread', -⟩
  · rw [hread'] at hread
    cases hread
    by_cases hshort : M.sectorSize < itemTotalLen buf.length + M.infoSize
    · rw [nvFlashWriteNewHandler, if_pos hshort] at hdone
      cases hdone
    obtain ⟨status, chip₂, hfirst, -, ⟨hends, hmoves⟩ | ⟨rfl, rfl⟩⟩ := nvFlashWriteNewHandler_found
      hM hE hread' (Within.refl M chip₁.mem) hlive hlength hid hshort allocated.1
    · rw [hfirst] at hdone
      rcases hends with ⟨rfl, -⟩ | ⟨rfl, -⟩
      · cases hdone
        exact (hmoves rfl).imp_right fun hover => hover.after hsafe₁.run
      · cases hdone
    · -- the second attempt changes the sector
      obtain ⟨status, chip₃, hupdate, -, hends⟩ := nvFlashWrite_update hM hE
        (Within.refl M chip₂.mem) hlive hlength hid allocated.2
      have hsecond : nvFlashWriteNewHandler M chip₂ true true itemId buf allocated.2 =
          (status, chip₃) := by
        rw [nvFlashWriteNewHandler, if_neg hshort, hlive.nvSectorRead]
        exact hupdate
      rw [hfirst] at hdone
      dsimp only at hdone
      rw [hsecond] at hdone
      cases hdone
      rcases hends with ⟨-, -, hover⟩ | ⟨hfull, -⟩
      · exact Or.inr (hover.after hsafe₁.run)
      · cases hfull
  · rw [hread'] at hread
    cases hread

end NvDriver
