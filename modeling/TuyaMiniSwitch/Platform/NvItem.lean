import TuyaMiniSwitch.Platform.NvSector

/-!
# Platform - Writing an item

What {lit}`nv_write_item` makes of a sector that has room for the item, and what it leaves behind
when power fails.

Main results:

- Theorem {lit}`nvWriteItem_spec`: the item is appended, and a power cut leaves the items as they
  were, or with an item behind them that does not count.
-/

namespace NvDriver

open NorFlash FlashDriver

variable {E : Cmd → Nat → Prop} {M : NvModule} {m m' m₀ : Mem} {sect : Nat} {slots : List Slot}
  {slot : Slot} {i : Nat}

/-! ## Where the item goes -/

theorem low16_lt (crc : BitVec 32) : low16 crc < 65536 := Nat.mod_lt _ (by decide)

theorem NvInfoIdx.crc_lt (idx : NvInfoIdx) : idx.crc < 65536 := low16_lt _

theorem Slot.hdr_checkSum_lt (slot : Slot) (addr : Nat) :
    (slot.hdr addr).checkSum < 4294967296 := by
  have hcrc := (slot.idx addr).crc_lt
  have hlow := low16_lt ((ItemHdr.mk 0 slot.data.length slot.itemId
    ITEM_HDR_FIELD_VALID_CHECKCRC).closeCrc (xcrc32 slot.data 0xffffffff))
  rw [Slot.hdr]
  dsimp only
  omega

theorem Slot.hdr_checkSum_div (slot : Slot) (addr : Nat) :
    (slot.hdr addr).checkSum / 65536 = (slot.idx addr).crc := by
  have hlow := low16_lt ((ItemHdr.mk 0 slot.data.length slot.itemId
    ITEM_HDR_FIELD_VALID_CHECKCRC).closeCrc (xcrc32 slot.data 0xffffffff))
  rw [Slot.hdr]
  dsimp only
  omega

theorem Slot.hdr_checkSum_mod (slot : Slot) (addr : Nat) :
    (slot.hdr addr).checkSum % 65536 =
      low16 ((slot.hdr addr).closeCrc (xcrc32 slot.data 0xffffffff)) := by
  have hlow := low16_lt ((ItemHdr.mk 0 slot.data.length slot.itemId
    ITEM_HDR_FIELD_VALID_CHECKCRC).closeCrc (xcrc32 slot.data 0xffffffff))
  have hclose : (slot.hdr addr).closeCrc (xcrc32 slot.data 0xffffffff) =
      (ItemHdr.mk 0 slot.data.length slot.itemId
        ITEM_HDR_FIELD_VALID_CHECKCRC).closeCrc (xcrc32 slot.data 0xffffffff) := rfl
  rw [hclose, Slot.hdr]
  dsimp only
  omega

theorem readHdr_of_stored {addr : Nat} {rest : List UInt8} (hsize : slot.data.length < 65536)
    {addr' : Nat} (h : Stored m addr ((slot.hdr addr').toBytes ++ rest)) :
    readHdr m addr = slot.hdr addr' := by
  have hread : readBytes m addr 8 = (slot.hdr addr').toBytes := (stored_append.mp h).1
  rw [readHdr, hread, ItemHdr.ofBytes_toBytes (slot.hdr_checkSum_lt addr') hsize]

theorem readHdr_used (m : Mem) (addr : Nat) : (readHdr m addr).used = m (addr + 7) := by
  change (readBytes m addr 8).getD 7 0 = m (addr + 7)
  exact getD_readBytes 0 (by decide)

/-- A header passes the check of the index. -/
theorem Slot.Content.crc_eq {addr : Nat} (h : slot.Content m addr)
    (hsize : slot.data.length < 65536) :
    ¬ ((readHdr m addr).used = ITEM_HDR_FIELD_VALID_CHECKCRC ∧
      (slot.idx addr).crc ≠ (readHdr m addr).checkSum / 65536) := by
  rintro ⟨hused, hne⟩
  refine hne ?_
  have hstored : ∀ rest, Stored m addr ((slot.hdr addr).toBytes ++ rest) →
      (slot.idx addr).crc = (readHdr m addr).checkSum / 65536 := by
    intro rest hstored
    rw [readHdr_of_stored hsize hstored, Slot.hdr_checkSum_div]
  rw [Slot.Content] at h
  split at h
  · rcases h with hblank | hhdr
    · rw [readHdr_used, hblank] at hused
      exact absurd hused (by decide)
    · exact hstored [] (by rwa [List.append_nil])
  · exact hstored slot.data h

/-- The bounds of an item of a sector. -/
theorem Sector.length_lt (hM : M.Sized) (hsect : sect < 2) (h : Sector M m sect slots)
    (hget : slots[i]? = some slot) : slot.data.length < 0x4000 := by
  have hbounds := hM.bounds hsect h.fits
  have hroom := room_take_add hget
  have hlength := slot.length_le_room
  omega

theorem itemOftCheck_eq {oft size : Nat} : M.itemOftCheck oft size sect = true ↔
    M.contextStart sect ≤ oft ∧ oft < M.sectEnd sect ∧ size ≤ M.sectEnd sect - oft := by
  simp only [NvModule.itemOftCheck, Bool.and_eq_true, decide_eq_true_eq, and_assoc]

theorem Sector.oft (h : Sector M m sect slots) (hget : slots[i]? = some slot) :
    M.itemOftCheck (M.slotAddr sect slots i) (slot.data.length + 8) sect = true := by
  have haddr := slotAddr_add_room M sect hget
  have hlength := slot.length_le_room
  have hfits := h.fits
  exact itemOftCheck_eq.mpr ⟨contextStart_le_slotAddr M sect slots i, by omega, by omega⟩

/-- The item goes behind the others. -/
theorem Sector.nvItemOffset (hM : M.Sized) (hsect : sect < 2) (h : Sector M m sect slots) :
    NvDriver.nvItemOffset M m sect slots.length = some (M.slotsEnd sect slots) := by
  rw [NvDriver.nvItemOffset]
  split
  · rename_i hzero
    rw [List.length_eq_zero_iff.mp hzero, NvModule.slotsEnd]
    rfl
  · rename_i hpos
    have hlt : slots.length - 1 < slots.length := by omega
    have hget : slots[slots.length - 1]? = some slots[slots.length - 1] :=
      List.getElem?_eq_getElem hlt
    generalize slots[slots.length - 1] = slot at hget
    have hsize := h.length_lt hM hsect hget
    have hcrc := (h.slot _ slot hget).content.crc_eq (by omega)
    have hroom := room_take_add hget
    have hnone : slots.drop (slots.length - 1 + 1) = [] := List.drop_eq_nil_of_le (by omega)
    rw [hnone] at hroom
    have hend : M.slotAddr sect slots (slots.length - 1) + slot.room = M.slotsEnd sect slots := by
      rw [NvModule.slotAddr, NvModule.slotsEnd, ← hroom]
      change _ = _ + (_ + 0)
      omega
    dsimp only
    rw [h.readIdx hM hsect hget]
    generalize hidx : slot.idx (M.slotAddr sect slots (slots.length - 1)) = idx at hcrc
    have hoffset : idx.offset = M.slotAddr sect slots (slots.length - 1) := hidx ▸ rfl
    have hsize : idx.size = slot.data.length + 8 := hidx ▸ rfl
    have hstate : idx.usedState = slot.state.byte := hidx ▸ rfl
    rw [← hoffset] at hcrc
    rw [if_neg hcrc, hoffset, hsize, hstate, if_pos ⟨itemFlagCheck_byte _, h.oft hget⟩, ← hend,
      Slot.room, ← align4_add (hM.slotAddr_mod hsect slots _)]

/-! ## Writing the data -/

theorem xcrc32_append (bytes bytes' : List UInt8) (init : BitVec 32) :
    xcrc32 (bytes ++ bytes') init = xcrc32 bytes' (xcrc32 bytes init) :=
  Crc.feed_append _ _ _ _

theorem Begun.refl (m : Mem) (addr : Nat) (bytes : List UInt8) : Begun m addr bytes m :=
  ⟨0, Nat.zero_le _, rfl⟩

/-- Copying an item from a place that the copy does not touch. -/
theorem nvCopyLoop_spec (data : List UInt8) (chip : Chip) (sAddr dAddr sum : Nat)
    (crc : BitVec 32) (hsource : Stored chip.mem sAddr data)
    (hblank : Blank chip.mem dAddr data.length)
    (hapart : sAddr + data.length ≤ dAddr ∨ dAddr + data.length ≤ sAddr) :
    ∃ sum' chip', nvCopyLoop chip sAddr dAddr data.length sum crc =
        (some (sum', xcrc32 data crc), chip') ∧ chip'.mem = programAt chip.mem dAddr data ∧
      CrashSafe geometry E (Begun chip.mem dAddr data) chip chip' := by
  induction hn : data.length using Nat.strongRecOn generalizing data chip sAddr dAddr sum crc with
  | ind n ih =>
      rw [nvCopyLoop]
      split
      · rename_i hzero
        have hnil : data = [] := List.length_eq_zero_iff.mp (hn.trans hzero)
        rw [hnil]
        exact ⟨sum, chip, rfl, rfl, crashSafe_refl (Begun.refl _ _ _)⟩
      · rename_i hpos
        have hle : (if n > 48 then 48 else n) ≤ data.length := by split <;> omega
        have hpos' : 0 < if n > 48 then 48 else n := by split <;> omega
        generalize (if n > 48 then 48 else n) = w at hle hpos'
        have hsplit : data.take w ++ data.drop w = data := List.take_append_drop w data
        have htake : (data.take w).length = w := List.length_take_of_le hle
        have hdrop : (data.drop w).length = data.length - w := List.length_drop
        have hparts := hsource
        rw [← hsplit, stored_append, htake] at hparts
        have hread : readBytes chip.mem sAddr w = data.take w := by
          have hfront := hparts.1
          rwa [Stored, htake] at hfront
        have hstored : Stored (programAt chip.mem dAddr (data.take w)) dAddr (data.take w) :=
          stored_programAt (hblank.sub (Nat.le_refl _) (by omega))
        dsimp only
        rw [hread, flashWriteWithCheck_eq hstored]
        dsimp only
        rw [if_pos rfl]
        have hsource' : Stored (flashWritePage chip dAddr (data.take w)).mem (sAddr + w)
            (data.drop w) := by
          rw [flashWritePage_mem]
          exact hparts.2.programAt (by omega)
        have hblank' : Blank (flashWritePage chip dAddr (data.take w)).mem (dAddr + w)
            (data.drop w).length := by
          rw [flashWritePage_mem]
          exact (hblank.sub (by omega) (by omega)).programAt (by omega)
        rcases ih (n - w) (by omega) (data.drop w) _ (sAddr + w) (dAddr + w)
          ((sum + ((data.take w).map UInt8.toNat).sum) % 4294967296)
          (xcrc32 (data.take w) crc) hsource' hblank' (by omega) (by omega) with
          ⟨sum', chip', heq, hmem, hsafe⟩
        have hmem' : ∀ bytes, programAt (flashWritePage chip dAddr (data.take w)).mem (dAddr + w)
            bytes = programAt chip.mem dAddr (data.take w ++ bytes) := by
          intro bytes
          rw [flashWritePage_mem, programAt_append, htake]
        refine ⟨sum', chip', ?_, ?_, ?_⟩
        · rw [heq, ← xcrc32_append, hsplit]
        · rw [hmem, hmem', hsplit]
        · refine ((crashSafe_flashWritePage chip dAddr (data.take w)).mono fun m hm => ?_).trans
            (hsafe.mono fun m hm => ?_)
          · rcases hm with ⟨k, hk, rfl⟩
            exact ⟨k, by omega, by rw [List.take_take, Nat.min_eq_left (by omega)]⟩
          · rcases hm with ⟨k, hk, rfl⟩
            refine ⟨w + k, by omega, ?_⟩
            rw [hmem', List.take_add]

/-- A source of the data of an item: a buffer, or the same item at another address. -/
def ItemSource.Gives (source : ItemSource) (m : Mem) (slot : Slot) (offset : Nat) : Prop :=
  match source with
  | .ram buf => buf = slot.data
  | .flash sAddr => (∃ addr, Stored m sAddr ((slot.hdr addr).toBytes ++ slot.data)) ∧
      (sAddr + 8 + slot.data.length ≤ offset ∨ offset + 8 + slot.data.length ≤ sAddr)

/-- The data of an item is written behind the place of its header. -/
theorem nvWriteData_spec {chip : Chip} {offset : Nat} {source : ItemSource}
    (hsource : source.Gives chip.mem slot offset) (hsize : slot.data.length < 65536)
    (hblank : Blank chip.mem (offset + 8) slot.data.length) :
    ∃ hdr chip', nvWriteData chip slot.itemId offset slot.data.length source =
        (.ok (hdr, hdr.closeCrc (xcrc32 slot.data 0xffffffff)), chip') ∧
      (∀ checkSum, ({ hdr with checkSum } : ItemHdr) =
        ⟨checkSum, slot.data.length, slot.itemId, ITEM_HDR_FIELD_VALID_CHECKCRC⟩) ∧
      chip'.mem = programAt chip.mem (offset + 8) slot.data ∧
      CrashSafe geometry E (Begun chip.mem (offset + 8) slot.data) chip chip' := by
  cases source with
  | ram buf =>
      obtain rfl : buf = slot.data := hsource
      have hstored : Stored (programAt chip.mem (offset + 8) slot.data) (offset + 8) slot.data :=
        stored_programAt hblank
      have hread : readBytes (flashWritePage chip (offset + 8) slot.data).mem (offset + 8)
          slot.data.length = slot.data := by
        rw [flashWritePage_mem]
        exact hstored
      refine ⟨⟨0, slot.data.length, slot.itemId, ITEM_HDR_FIELD_VALID_CHECKCRC⟩,
        flashWritePage chip (offset + 8) slot.data, ?_, fun _ => rfl, flashWritePage_mem _ _ _,
        crashSafe_flashWritePage _ _ _⟩
      rw [nvWriteData]
      dsimp only
      rw [hread, if_pos rfl]
  | flash sAddr =>
      rcases hsource with ⟨⟨addr, hstored⟩, hapart⟩
      have hhdr := readHdr_of_stored hsize hstored
      have hdata := (stored_append.mp hstored).2
      rw [ItemHdr.length_toBytes] at hdata
      rcases nvCopyLoop_spec (E := E) slot.data chip (sAddr + 8) (offset + 8) 0 0xffffffff hdata
        hblank (by omega) with ⟨sum', chip', heq, hmem, hsafe⟩
      refine ⟨slot.hdr addr, chip', ?_, fun _ => rfl, hmem, hsafe⟩
      have hused : (slot.hdr addr).used ≠ ITEM_HDR_FIELD_VALID_CHECKSUM := by
        change ITEM_HDR_FIELD_VALID_CHECKCRC ≠ ITEM_HDR_FIELD_VALID_CHECKSUM
        decide
      rw [nvWriteData]
      dsimp only
      rw [hhdr, heq]
      dsimp only
      rw [if_neg hused, if_neg]
      rw [not_not]
      exact (slot.hdr_checkSum_mod addr).symm

/-! ## Appending -/

/-- A memory that differs at the next place of the index and behind the items only. -/
def Extends (M : NvModule) (sect : Nat) (slots : List Slot) (m₀ m : Mem) : Prop :=
  ∀ x, ¬ (M.idxAddr sect slots.length ≤ x ∧ x < M.idxAddr sect slots.length + 8) →
    ¬ (M.slotsEnd sect slots ≤ x ∧ x < M.sectEnd sect) → m x = m₀ x

theorem Extends.refl (M : NvModule) (sect : Nat) (slots : List Slot) (m : Mem) :
    Extends M sect slots m m := fun _ _ _ => rfl

theorem Extends.programAt (h : Extends M sect slots m₀ m) {addr : Nat} {bytes : List UInt8}
    (hinside : M.idxAddr sect slots.length ≤ addr ∧
        addr + bytes.length ≤ M.idxAddr sect slots.length + 8 ∨
      M.slotsEnd sect slots ≤ addr ∧ addr + bytes.length ≤ M.sectEnd sect) :
    Extends M sect slots m₀ (programAt m addr bytes) := by
  intro x hidx hcontent
  rw [programAt_apart (by omega)]
  exact h x hidx hcontent

theorem Slot.Content.congr {addr : Nat} (h : slot.Content m addr)
    (hsame : ∀ x, addr ≤ x → x < addr + (slot.data.length + 8) → m' x = m x) :
    slot.Content m' addr := by
  rw [Slot.Content] at h ⊢
  split at h
  · rename_i hpending
    rw [if_pos hpending]
    rcases h with hblank | hhdr
    · exact Or.inl ((hsame _ (by omega) (by omega)).trans hblank)
    · refine Or.inr (hhdr.congr fun x hle hlt => hsame x hle ?_)
      rw [ItemHdr.length_toBytes] at hlt
      omega
  · rename_i hdone
    rw [if_neg hdone]
    refine h.congr fun x hle hlt => hsame x hle ?_
    rw [List.length_append, ItemHdr.length_toBytes] at hlt
    omega

theorem idxAddr_add (M : NvModule) (sect i n : Nat) :
    M.idxAddr sect (i + n) = M.idxAddr sect i + n * 8 := by
  rw [NvModule.idxAddr, NvModule.idxAddr, Nat.add_mul, Nat.add_assoc]

theorem idxAddr_lt (M : NvModule) (sect : Nat) {j : Nat} (hlt : i < j) :
    M.idxAddr sect i + 8 ≤ M.idxAddr sect j := by
  obtain ⟨n, rfl⟩ := Nat.exists_eq_add_of_lt hlt
  rw [Nat.add_assoc, idxAddr_add]
  omega

/-- The items stay where they are. -/
theorem Sector.at_extends (hM : M.Sized) (h : Sector M m₀ sect slots)
    (hext : Extends M sect slots m₀ m) (hcount : slots.length < M.idxNum)
    (hget : slots[i]? = some slot) : slot.At M m sect i (M.slotAddr sect slots i) := by
  have hlt : i < slots.length := (List.getElem?_eq_some_iff.mp hget).1
  have hidx := hM.idxAddr_le sect hcount
  have hbefore := idxAddr_lt M sect hlt
  have hcontext := contextStart_le_slotAddr M sect slots i
  have hcontext' := contextStart_le_slotsEnd M sect slots
  have haddr := slotAddr_add_room M sect hget
  have hlength := slot.length_le_room
  have hslot := h.slot i slot hget
  refine ⟨hslot.idx.congr fun x _ hx => hext x ?_ ?_, hslot.content.congr fun x hle hx =>
    hext x ?_ ?_⟩
  · rw [NvInfoIdx.length_toBytes] at hx
    omega
  · rw [NvInfoIdx.length_toBytes] at hx
    omega
  · omega
  · omega

theorem Sector.later_extends (hM : M.Sized) (h : Sector M m₀ sect slots)
    (hext : Extends M sect slots m₀ m) (hlt : slots.length < i) (hi : i < M.idxNum) :
    Blank m (M.idxAddr sect i) 8 := by
  have hidx := hM.idxAddr_le sect hi
  have hafter := idxAddr_lt M sect hlt
  have hcontext' := contextStart_le_slotsEnd M sect slots
  refine (h.later i hlt hi).congr fun x hle hx => hext x ?_ ?_
  · omega
  · omega

/-- An item behind the others. -/
theorem Sector.add (hM : M.Sized) (h : Sector M m₀ sect slots)
    (hext : Extends M sect slots m₀ m) (hcount : slots.length < M.idxNum)
    (hfits : M.slotsEnd sect slots + slot.room ≤ M.sectEnd sect)
    (hslot : slot.At M m sect slots.length (M.slotsEnd sect slots))
    (hblank : Blank m (M.slotsEnd sect slots + slot.room)
      (M.sectEnd sect - (M.slotsEnd sect slots + slot.room))) :
    Sector M m sect (slots ++ [slot]) ∧ Clean M m sect (slots ++ [slot]) := by
  have hlength : (slots ++ [slot]).length = slots.length + 1 := by simp
  have hclean : Clean M m sect (slots ++ [slot]) := by
    refine ⟨?_, fun hlt => ⟨0, by omega, fun idx _ => ?_⟩⟩
    · rw [slotsEnd_append]
      exact hblank
    · rw [hlength] at hlt ⊢
      exact stored_firstBytes_zero.mpr (h.later_extends hM hext (by omega) hlt)
  refine ⟨⟨fun i slot' hget => ?_, by omega, ?_, fun i hlt hi => ?_, Or.inl hclean⟩, hclean⟩
  · rcases Nat.lt_or_ge i slots.length with hlt | hge
    · rw [List.getElem?_append_left hlt] at hget
      rw [slotAddr_append M sect [slot] (Nat.le_of_lt hlt)]
      exact h.at_extends hM hext hcount hget
    · have hi : i < (slots ++ [slot]).length := (List.getElem?_eq_some_iff.mp hget).1
      obtain rfl : i = slots.length := by omega
      rw [slotAddr_length]
      have hlast : (slots ++ [slot])[slots.length]? = some slot := by simp
      rw [hlast, Option.some.injEq] at hget
      exact hget ▸ hslot
  · rw [slotsEnd_append]
    exact hfits
  · rw [hlength] at hlt
    exact h.later_extends hM hext (by omega) hi

/-- A place of the index that was not written to its end. -/
theorem Sector.torn (hM : M.Sized) (h : Sector M m sect slots) (hclean : Clean M m sect slots)
    (hcount : slots.length < M.idxNum) {idx : NvInfoIdx}
    (hoffset : idx.offset = M.slotsEnd sect slots) (hsize : idx.size < 0xFF00) {k : Nat}
    (hk : k < 8) :
    Sector M (programAt m (M.idxAddr sect slots.length) (idx.toBytes.take k)) sect slots := by
  have hidx := hM.idxAddr_le sect hcount
  have hcontext := contextStart_le_slotsEnd M sect slots
  have htake : (idx.toBytes.take k).length = k := List.length_take_of_le (by simp; omega)
  have hext : Extends M sect slots m
      (programAt m (M.idxAddr sect slots.length) (idx.toBytes.take k)) :=
    (Extends.refl M sect slots m).programAt (Or.inl ⟨Nat.le_refl _, by omega⟩)
  refine ⟨fun i slot hget => h.at_extends hM hext hcount hget, h.count, h.fits,
    fun i hlt hi => h.later_extends hM hext hlt hi, ?_⟩
  have hcontent : Blank (programAt m (M.idxAddr sect slots.length) (idx.toBytes.take k))
      (M.slotsEnd sect slots) (M.sectEnd sect - M.slotsEnd sect slots) :=
    hclean.content.programAt (by omega)
  rcases hclean.index hcount with ⟨j, hj, hfirst⟩
  rcases Nat.lt_or_ge 4 k with hfour | hle
  · -- bytes behind the offset are there
    have hstored := stored_torn (hfirst idx hoffset) k
    rw [Nat.max_eq_right (by omega)] at hstored
    have hread : readBytes (programAt m (M.idxAddr sect slots.length) (idx.toBytes.take k))
        (M.idxAddr sect slots.length) 8 = firstBytes idx.toBytes k := by
      rw [Stored, length_firstBytes, NvInfoIdx.length_toBytes] at hstored
      exact hstored
    have hlow : idx.size % 65536 = idx.size := Nat.mod_eq_of_lt (by omega)
    have hcases : k = 5 ∨ k = 6 ∨ k = 7 := by omega
    by_cases hfive : k = 5 ∧ UInt8.ofNat idx.size = blank
    · -- the only byte of the size that is there does not show
      left
      refine ⟨hcontent, fun _ => ⟨4, Nat.le_refl _, fun idx' hoffset' => ?_⟩⟩
      have hsame : firstBytes idx.toBytes k = firstBytes idx'.toBytes 4 := by
        rw [hfive.1]
        have hoff : idx.offset = idx'.offset := hoffset.trans hoffset'.symm
        change Crc.leBytes 4 idx.offset ++ [UInt8.ofNat idx.size] ++ [blank, blank, blank] =
          Crc.leBytes 4 idx'.offset ++ [blank, blank, blank, blank]
        rw [hfive.2, hoff, List.append_assoc]
        rfl
      rw [← hsame]
      exact hstored
    · right
      have hsize' : (M.readIdx (programAt m (M.idxAddr sect slots.length) (idx.toBytes.take k))
          sect slots.length).size ≠ 0xffff := by
        rw [NvModule.readIdx, hread]
        rcases hcases with rfl | rfl | rfl
        · change leNat [UInt8.ofNat idx.size, blank] ≠ 0xffff
          have hne : UInt8.ofNat idx.size ≠ blank := fun heq => hfive ⟨rfl, heq⟩
          intro heq
          apply hne
          apply UInt8.toNat_inj.mp
          have hblank : blank.toNat = 255 := rfl
          simp only [leNat, hblank] at heq
          rw [hblank]
          omega
        · change leNat (Crc.leBytes 2 idx.size) ≠ 0xffff
          rw [leNat_leBytes_two (by omega)]
          omega
        · change leNat (Crc.leBytes 2 idx.size) ≠ 0xffff
          rw [leNat_leBytes_two (by omega)]
          omega
      refine ⟨hcount, ?_, fun hidle => hsize' hidle.2.1⟩
      rw [NvModule.readIdx, hread]
      rcases hcases with rfl | rfl | rfl <;> rfl
  · left
    refine ⟨hcontent, fun _ => ⟨max j k, by omega, fun idx' hoffset' => ?_⟩⟩
    have hsame : idx'.toBytes.take k = idx.toBytes.take k := by
      have hfront : ∀ idx : NvInfoIdx, idx.toBytes.take k = (Crc.leBytes 4 idx.offset).take k := by
        intro idx
        rw [NvInfoIdx.toBytes, List.append_assoc, List.take_append_of_le_length]
        rw [Crc.leBytes_length]
        exact hle
      rw [hfront, hfront, hoffset, hoffset']
    rw [← hsame]
    exact stored_torn (hfirst idx' hoffset') k

/-! ## Writing an item -/

/-- What power cuts leave of a sector while an item is appended. -/
def Appending (M : NvModule) (sect : Nat) (slots : List Slot) (slot : Slot) (m₀ m : Mem) : Prop :=
  Extends M sect slots m₀ m ∧ (Sector M m sect slots ∨
    Sector M m sect (slots ++ [{ slot with state := .pending }]) ∨
    Sector M m sect (slots ++ [slot]))

theorem toBytes_state (slot : Slot) (addr : Nat) : (slot.idx addr).toBytes =
    (slot.idx addr).toBytes.take 7 ++ [slot.state.byte] := rfl

/-- The last byte of a place in the index decides what its item counts for. -/
theorem stored_state {addr : Nat} {state state' : SlotState}
    (h : Stored m (M.idxAddr sect i) (({ slot with state } : Slot).idx addr).toBytes)
    (hstate : state.byte &&& state'.byte = state'.byte) :
    Stored (programAt m (M.idxAddr sect i + 7) [state'.byte]) (M.idxAddr sect i)
      (({ slot with state := state' } : Slot).idx addr).toBytes := by
  rw [toBytes_state, stored_append] at h ⊢
  refine ⟨h.1.programAt (Or.inl (Nat.le_refl _)), ?_⟩
  have hbyte := h.2.get (i := 0) Nat.zero_lt_one
  rw [stored_iff]
  intro b hb
  obtain rfl : b = 0 := by
    rw [List.length_singleton] at hb
    omega
  have hseven : (({ slot with state := state' } : Slot).idx addr).toBytes.take 7 =
      (({ slot with state } : Slot).idx addr).toBytes.take 7 := rfl
  have hlength : ((({ slot with state } : Slot).idx addr).toBytes.take 7).length = 7 := rfl
  rw [hseven]
  rw [hlength] at hbyte ⊢
  rw [programAt_apply, if_pos (by omega), hbyte, Nat.sub_self]
  exact hstate

/-- What is there of an item that does not count yet: its place in the index, and its header or
the last byte of it that is still erased. -/
structure Filling (M : NvModule) (sect : Nat) (slots : List Slot) (slot : Slot) (m₀ m : Mem) :
    Prop where
  extends_ : Extends M sect slots m₀ m
  place : Stored m (M.idxAddr sect slots.length)
    (({ slot with state := .pending } : Slot).idx (M.slotsEnd sect slots)).toBytes
  hdr : m (M.slotsEnd sect slots + 7) = blank ∨
    Stored m (M.slotsEnd sect slots) (slot.hdr (M.slotsEnd sect slots)).toBytes
  rest : Blank m (M.slotsEnd sect slots + slot.room)
    (M.sectEnd sect - (M.slotsEnd sect slots + slot.room))

/-- Writing to the room of an item. -/
theorem Filling.programAt (hM : M.Sized) (h : Filling M sect slots slot m₀ m)
    (hcount : slots.length < M.idxNum) (hroom : M.slotsEnd sect slots + slot.room ≤ M.sectEnd sect)
    {addr : Nat} {bytes : List UInt8} (hle : M.slotsEnd sect slots ≤ addr)
    (hend : addr + bytes.length ≤ M.slotsEnd sect slots + slot.room)
    (hhdr : NorFlash.programAt m addr bytes (M.slotsEnd sect slots + 7) = blank ∨
      Stored (NorFlash.programAt m addr bytes) (M.slotsEnd sect slots)
        (slot.hdr (M.slotsEnd sect slots)).toBytes) :
    Filling M sect slots slot m₀ (NorFlash.programAt m addr bytes) := by
  have hidx := hM.idxAddr_le sect hcount
  have hcontext := contextStart_le_slotsEnd M sect slots
  refine ⟨h.extends_.programAt (Or.inr ⟨hle, by omega⟩), h.place.programAt (Or.inl ?_), hhdr,
    h.rest.programAt (Or.inr hend)⟩
  rw [NvInfoIdx.length_toBytes]
  omega

theorem Filling.appending (hM : M.Sized) (h : Sector M m₀ sect slots)
    (hcount : slots.length < M.idxNum) (hroom : M.slotsEnd sect slots + slot.room ≤ M.sectEnd sect)
    (hfilling : Filling M sect slots slot m₀ m) : Appending M sect slots slot m₀ m := by
  have hslot : ({ slot with state := .pending } : Slot).At M m sect slots.length
      (M.slotsEnd sect slots) := by
    refine ⟨hfilling.place, ?_⟩
    rw [Slot.Content, if_pos rfl]
    exact hfilling.hdr
  have hroom' : M.slotsEnd sect slots + ({ slot with state := .pending } : Slot).room ≤
      M.sectEnd sect := hroom
  exact ⟨hfilling.extends_, Or.inr (Or.inl
    (h.add hM hfilling.extends_ hcount hroom' hslot hfilling.rest).1)⟩

/-- The state is the last thing that is written of an item. -/
theorem Filling.finish (hM : M.Sized) (h : Sector M m₀ sect slots)
    (hcount : slots.length < M.idxNum) (hroom : M.slotsEnd sect slots + slot.room ≤ M.sectEnd sect)
    (hvalid : slot.state = .valid) (hfilling : Filling M sect slots slot m₀ m)
    (hcontent : Stored m (M.slotsEnd sect slots)
      ((slot.hdr (M.slotsEnd sect slots)).toBytes ++ slot.data)) {m' : Mem}
    (hm' : m' = NorFlash.programAt m (M.idxAddr sect slots.length + 7) [ITEM_FIELD_VALID_SINGLE]) :
    Extends M sect slots m₀ m' ∧ Sector M m' sect (slots ++ [slot]) ∧
      Clean M m' sect (slots ++ [slot]) := by
  have hidx := hM.idxAddr_le sect hcount
  have hcontext := contextStart_le_slotsEnd M sect slots
  have hone : [ITEM_FIELD_VALID_SINGLE].length = 1 := rfl
  have hext : Extends M sect slots m₀ m' := by
    rw [hm']
    exact hfilling.extends_.programAt (Or.inl (by omega))
  refine ⟨hext, h.add hM hext hcount hroom ⟨?_, ?_⟩ ?_⟩
  · have hslot : slot = { slot with state := .valid } := by rw [← hvalid]
    have hand : SlotState.pending.byte &&& SlotState.valid.byte = SlotState.valid.byte := by decide
    rw [hslot, hm']
    exact stored_state hfilling.place hand
  · rw [Slot.Content, if_neg (by rw [hvalid]; decide), hm']
    exact hcontent.programAt (Or.inr (by omega))
  · rw [hm']
    exact hfilling.rest.programAt (Or.inr (by omega))

/-- The place in the index is written first. -/
theorem filling_place (hM : M.Sized) (hclean : Clean M m sect slots)
    (hcount : slots.length < M.idxNum) (hroom : M.slotsEnd sect slots + slot.room ≤ M.sectEnd sect)
    {idx : NvInfoIdx}
    (hplace : idx = ({ slot with state := .pending } : Slot).idx (M.slotsEnd sect slots)) :
    Filling M sect slots slot m (programAt m (M.idxAddr sect slots.length) idx.toBytes) ∧
      Blank (programAt m (M.idxAddr sect slots.length) idx.toBytes) (M.slotsEnd sect slots)
        slot.room := by
  have hidx := hM.idxAddr_le sect hcount
  have hcontext := contextStart_le_slotsEnd M sect slots
  have hlength := slot.length_le_room
  have hlen : idx.toBytes.length = 8 := idx.length_toBytes
  have hblank : Blank (programAt m (M.idxAddr sect slots.length) idx.toBytes)
      (M.slotsEnd sect slots) (M.sectEnd sect - M.slotsEnd sect slots) :=
    hclean.content.programAt (Or.inr (by omega))
  refine ⟨⟨?_, ?_, Or.inl (hblank 7 (by omega)), hblank.sub (by omega) (by omega)⟩,
    hblank.sub (Nat.le_refl _) (by omega)⟩
  · exact (Extends.refl M sect slots m).programAt (Or.inl ⟨Nat.le_refl _, by omega⟩)
  · rw [← hplace]
    rcases hclean.index hcount with ⟨j, -, hfirst⟩
    have hall := stored_torn (hfirst idx (by rw [hplace, Slot.idx_offset])) 8
    have hmax : 8 ≤ max j 8 := Nat.le_max_right _ _
    rwa [firstBytes_all _ hmax, List.take_of_length_le (Nat.le_of_eq hlen)] at hall

/-- An item is appended, and a power cut leaves the items as they were, or with one behind them
that does not count. -/
theorem nvWriteItem_spec (hM : M.Sized) (hsect : sect < 2) {chip : Chip}
    (h : Sector M chip.mem sect slots) (hclean : Clean M chip.mem sect slots)
    (hcount : slots.length < M.idxNum)
    (hroom : M.slotsEnd sect slots + slot.room ≤ M.sectEnd sect)
    (hvalid : slot.state = .valid) {source : ItemSource}
    (hsource : ∀ m, Extends M sect slots chip.mem m →
      source.Gives m slot (M.slotsEnd sect slots)) :
    ∃ chip', nvWriteItem M chip true slot.itemId sect slots.length slot.data.length source =
        (.NV_SUCC, chip') ∧ Sector M chip'.mem sect (slots ++ [slot]) ∧
      Clean M chip'.mem sect (slots ++ [slot]) ∧
      CrashSafe geometry E (Appending M sect slots slot chip.mem) chip chip' := by
  have hlength := slot.length_le_room
  have hcontext := contextStart_le_slotsEnd M sect slots
  have hsize : slot.data.length + 8 ≤ 0x4000 := by
    have hsector := hM.sector
    have hend := sectEnd_eq M sect
    rw [NvModule.contextStart] at hcontext
    omega
  obtain ⟨idx, hidx⟩ : ∃ idx, idx = ({ slot with state := .pending } : Slot).idx
      (M.slotsEnd sect slots) := ⟨_, rfl⟩
  have hlen : idx.toBytes.length = 8 := idx.length_toBytes
  have hhdrlen : (slot.hdr (M.slotsEnd sect slots)).toBytes.length = 8 :=
    ItemHdr.length_toBytes _
  -- the place in the index
  obtain ⟨hfilling₁, hblank₁⟩ := filling_place hM hclean hcount hroom hidx
  rw [← flashWritePage_mem] at hfilling₁ hblank₁
  obtain ⟨chip₁, hchip₁⟩ : ∃ chip₁, chip₁ =
      flashWritePage chip (M.idxAddr sect slots.length) idx.toBytes := ⟨_, rfl⟩
  have hsafe₁ : CrashSafe geometry E (Appending M sect slots slot chip.mem) chip chip₁ := by
    rw [hchip₁]
    refine (crashSafe_flashWritePage _ _ _).mono fun m hm => ?_
    rcases hm with ⟨k, hk, rfl⟩
    rcases Nat.lt_or_ge k 8 with hlt | hge
    · refine ⟨(Extends.refl M sect slots chip.mem).programAt (Or.inl ?_), Or.inl ?_⟩
      · rw [List.length_take]
        omega
      · refine h.torn hM hclean hcount (by rw [hidx, Slot.idx_offset]) ?_ hlt
        rw [hidx, Slot.idx_size]
        change slot.data.length + 8 < 0xFF00
        omega
    · rw [List.take_of_length_le (by omega), ← flashWritePage_mem]
      exact hfilling₁.appending hM h hcount hroom
  rw [← hchip₁] at hfilling₁ hblank₁
  -- the data
  obtain ⟨hdr, chip₂, hdata, hhdr, hmem₂, hsafe⟩ :=
    nvWriteData_spec (E := E) (hsource _ hfilling₁.extends_) (by omega)
      (hblank₁.sub (Nat.le_add_right _ 8) (by omega))
  have hfilling : ∀ k, Filling M sect slots slot chip.mem
      (programAt chip₁.mem (M.slotsEnd sect slots + 8) (slot.data.take k)) := by
    intro k
    have htake : (slot.data.take k).length ≤ slot.data.length := List.length_take_le' k slot.data
    refine hfilling₁.programAt hM hcount hroom (Nat.le_add_right _ 8) (by omega) (Or.inl ?_)
    rw [programAt_apart (by omega)]
    exact hblank₁ 7 (by omega)
  have hsafe₂ : CrashSafe geometry E (Appending M sect slots slot chip.mem) chip₁ chip₂ := by
    refine hsafe.mono fun m hm => ?_
    rcases hm with ⟨k, -, rfl⟩
    exact (hfilling k).appending hM h hcount hroom
  have hfilling₂ : Filling M sect slots slot chip.mem chip₂.mem := by
    have hall := hfilling slot.data.length
    rwa [List.take_length, ← hmem₂] at hall
  have hblank₂ : Blank chip₂.mem (M.slotsEnd sect slots) 8 := by
    rw [hmem₂]
    exact (hblank₁.sub (Nat.le_refl _) (by omega)).programAt (Or.inl (Nat.le_refl _))
  -- the header
  have hclose : ∀ crc, hdr.closeCrc crc = ({ hdr with checkSum := 0 } : ItemHdr).closeCrc crc :=
    fun _ => rfl
  have hheader : ∀ checkSum, checkSum = idx.crc * 65536 +
      low16 (hdr.closeCrc (xcrc32 slot.data 0xffffffff)) →
      ({ hdr with checkSum } : ItemHdr) = slot.hdr (M.slotsEnd sect slots) := by
    rintro _ rfl
    rw [hhdr, hclose, hhdr, hidx]
    rfl
  have hstored₃ : Stored (programAt chip₂.mem (M.slotsEnd sect slots)
      (slot.hdr (M.slotsEnd sect slots)).toBytes) (M.slotsEnd sect slots)
      (slot.hdr (M.slotsEnd sect slots)).toBytes := stored_programAt hblank₂
  obtain ⟨chip₃, hchip₃⟩ : ∃ chip₃, chip₃ = flashWritePage chip₂ (M.slotsEnd sect slots)
      (slot.hdr (M.slotsEnd sect slots)).toBytes := ⟨_, rfl⟩
  have hfilling' : ∀ k, Filling M sect slots slot chip.mem (programAt chip₂.mem
      (M.slotsEnd sect slots) ((slot.hdr (M.slotsEnd sect slots)).toBytes.take k)) := by
    intro k
    refine hfilling₂.programAt hM hcount hroom (Nat.le_refl _) ?_ ?_
    · rw [List.length_take]
      omega
    · rcases Nat.lt_or_ge k 8 with hlt | hge
      · left
        rw [programAt_apart (by rw [List.length_take]; omega)]
        exact hblank₂ 7 (by omega)
      · rw [List.take_of_length_le (by omega)]
        exact Or.inr hstored₃
  have hsafe₃ : CrashSafe geometry E (Appending M sect slots slot chip.mem) chip₂ chip₃ := by
    rw [hchip₃]
    refine (crashSafe_flashWritePage _ _ _).mono fun m hm => ?_
    rcases hm with ⟨k, -, rfl⟩
    exact (hfilling' k).appending hM h hcount hroom
  have hmem₃ : chip₃.mem = programAt chip₂.mem (M.slotsEnd sect slots)
      (slot.hdr (M.slotsEnd sect slots)).toBytes := by
    rw [hchip₃, flashWritePage_mem]
  have hfilling₃ : Filling M sect slots slot chip.mem chip₃.mem := by
    have hall := hfilling' 8
    rwa [List.take_of_length_le (Nat.le_of_eq hhdrlen), ← hmem₃] at hall
  have hcontent₃ : Stored chip₃.mem (M.slotsEnd sect slots)
      ((slot.hdr (M.slotsEnd sect slots)).toBytes ++ slot.data) := by
    rw [stored_append, hmem₃, hhdrlen]
    refine ⟨hstored₃, Stored.programAt ?_ (Or.inr (by omega))⟩
    rw [hmem₂]
    exact stored_programAt (hblank₁.sub (Nat.le_add_right _ 8) (by omega))
  -- the state
  obtain ⟨chip₄, hchip₄⟩ : ∃ chip₄, chip₄ =
      flashWritePage chip₃ (M.idxAddr sect slots.length + 7) [ITEM_FIELD_VALID_SINGLE] := ⟨_, rfl⟩
  obtain ⟨hext₄, hsector₄, hclean₄⟩ := hfilling₃.finish hM h hcount hroom hvalid hcontent₃ rfl
  rw [← flashWritePage_mem, ← hchip₄] at hext₄ hsector₄ hclean₄
  have hsafe₄ : CrashSafe geometry E (Appending M sect slots slot chip.mem) chip₃ chip₄ := by
    rw [hchip₄]
    refine (crashSafe_flashWritePage _ _ _).mono fun m hm => ?_
    rcases hm with ⟨k, hk, rfl⟩
    rcases Nat.eq_zero_or_pos k with rfl | hpos
    · exact hfilling₃.appending hM h hcount hroom
    · rw [List.take_of_length_le hpos, ← flashWritePage_mem, ← hchip₄]
      exact ⟨hext₄, Or.inr (Or.inr hsector₄)⟩
  refine ⟨chip₄, ?_, hsector₄, hclean₄, hsafe₁.trans (hsafe₂.trans (hsafe₃.trans hsafe₄))⟩
  have hoft : M.itemOftCheck (M.slotsEnd sect slots) (slot.data.length + 8) sect = true :=
    itemOftCheck_eq.mpr ⟨hcontext, by omega, by omega⟩
  have hplace : flashWriteWithCheck chip (M.idxAddr sect slots.length) idx.toBytes =
      (true, chip₁) := by
    rw [hchip₁, flashWriteWithCheck_eq]
    have hfilling := (filling_place hM hclean hcount hroom hidx).1.place
    rwa [← hidx] at hfilling
  have hidxInfo : (⟨M.slotsEnd sect slots, slot.data.length + 8, slot.itemId,
      ITEM_FIELD_OPERATION⟩ : NvInfoIdx) = idx := by
    rw [hidx]
    rfl
  rw [nvWriteItem, h.nvItemOffset hM hsect]
  dsimp only
  rw [hoft, if_neg (by decide), hidxInfo, hplace]
  dsimp only
  rw [if_neg (by decide), hdata]
  dsimp only
  rw [hheader _ rfl, flashWriteWithCheck_eq hstored₃, ← hchip₃]
  dsimp only
  rw [if_neg (by decide), if_pos rfl, flashWriteWithCheck_snd, ← hchip₄]

end NvDriver
