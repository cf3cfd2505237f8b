import TuyaMiniSwitch.Platform.NvDriver

/-!
# Platform - A sector of the NV driver

What a sector holds: items one behind the other, each with a place in the index.  A power cut can
leave the last place or the last item half written.

Main results:

- Theorem {lit}`crashSafe_flashWritePage`: what a write leaves behind when power fails.
-/

namespace NvDriver

open NorFlash FlashDriver

variable {E : Cmd → Nat → Prop}

/-! ## Writing bytes -/

/-- A memory to which the first bytes of a message were written. -/
def Begun (m : Mem) (addr : Nat) (bytes : List UInt8) (m' : Mem) : Prop :=
  ∃ k ≤ bytes.length, m' = programAt m addr (bytes.take k)

/-- A write of the driver stores all of its bytes, and when power fails the first of them. -/
theorem flashWriteLoop_spec (chip : Chip) (addr : Nat) (ns : {n : Nat // 0 < n})
    (buf : List UInt8) (hns : ns.val = PAGE_SIZE - addr % PAGE_SIZE) :
    (flashWriteLoop chip addr ns buf).mem = programAt chip.mem addr buf ∧
      CrashSafe geometry E (Begun chip.mem addr buf) chip (flashWriteLoop chip addr ns buf) := by
  fun_induction flashWriteLoop chip addr ns buf with
  | case1 chip addr ns buf nw chip' hmore ih =>
      have hpage : PAGE_SIZE = 256 := rfl
      have hpos := ns.property
      have hmin : nw = min ns.val buf.length := by
        simp only [nw]
        split <;> omega
      rw [List.length_drop] at hmore
      change 0 < buf.length - nw at hmore
      have hnw : nw = ns.val := by omega
      have hlen : nw ≤ buf.length := by omega
      have htake : (buf.take nw).length = nw := List.length_take_of_le hlen
      have hmem : ∀ k ≤ nw, runCmd geometry chip.mem (.program addr ((buf.take nw).take k)) =
          programAt chip.mem addr (buf.take k) := by
        intro k hk
        rw [runCmd_program_of_fit, List.take_take, Nat.min_eq_left hk]
        rw [List.length_take, htake, Nat.min_eq_left hk]
        omega
      have hmem' : chip'.mem = programAt chip.mem addr (buf.take nw) := by
        have hall := hmem nw (Nat.le_refl _)
        rwa [List.take_take, Nat.min_self] at hall
      have hmod : (addr + nw) % 256 = 0 := by
        rw [hpage] at hns
        omega
      have hnext := ih (by
        change 256 = 256 - (addr + nw) % 256
        omega)
      have hsplit : ∀ bytes, programAt chip'.mem (addr + nw) bytes =
          programAt chip.mem addr (buf.take nw ++ bytes) := by
        intro bytes
        rw [hmem', programAt_append, htake]
      refine ⟨?_, CrashSafe.trans (crashSafe_program fun k hk _ => ?_)
        (hnext.2.mono fun m hm => ?_)⟩
      · rw [hnext.1, hsplit, List.take_append_drop]
      · rw [htake] at hk
        exact ⟨k, Nat.le_trans hk hlen, hmem k hk⟩
      · rcases hm with ⟨k, hk, rfl⟩
        rw [List.length_drop] at hk
        refine ⟨nw + k, by omega, ?_⟩
        rw [hsplit, List.take_add]
  | case2 chip addr ns buf nw chip' hdone =>
      have hpage : PAGE_SIZE = 256 := rfl
      have hmin : nw = min ns.val buf.length := by
        simp only [nw]
        split <;> omega
      rw [List.length_drop] at hdone
      change ¬ 0 < buf.length - nw at hdone
      have hnw : nw = buf.length := by omega
      have hpos := ns.property
      have hfit : addr % PAGE_SIZE + buf.length ≤ PAGE_SIZE := by omega
      have hmem : ∀ k ≤ buf.length,
          runCmd geometry chip.mem (.program addr ((buf.take nw).take k)) =
            programAt chip.mem addr (buf.take k) := by
        intro k hk
        rw [hnw, List.take_length, runCmd_program_of_fit]
        rw [List.length_take]
        omega
      refine ⟨?_, crashSafe_program fun k hk _ => ?_⟩
      · have hall := hmem buf.length (Nat.le_refl _)
        rw [hnw, List.take_length, List.take_length] at hall
        have hmem' : chip'.mem = runCmd geometry chip.mem (.program addr (buf.take nw)) := rfl
        rwa [hmem', hnw, List.take_length]
      · rw [hnw, List.take_length] at hk
        exact ⟨k, hk, hmem k hk⟩

@[simp] theorem flashWritePage_mem (chip : Chip) (addr : Nat) (buf : List UInt8) :
    (flashWritePage chip addr buf).mem = programAt chip.mem addr buf :=
  (flashWriteLoop_spec (E := fun _ _ => False) chip addr _ buf rfl).1

theorem crashSafe_flashWritePage (chip : Chip) (addr : Nat) (buf : List UInt8) :
    CrashSafe geometry E (Begun chip.mem addr buf) chip (flashWritePage chip addr buf) :=
  (flashWriteLoop_spec chip addr _ buf rfl).2

@[simp] theorem flashWriteWithCheck_snd (chip : Chip) (addr : Nat) (buf : List UInt8) :
    (flashWriteWithCheck chip addr buf).2 = flashWritePage chip addr buf := rfl

/-- A write into erased cells passes its check. -/
theorem flashWriteWithCheck_fst {chip : Chip} {addr : Nat} {buf : List UInt8}
    (h : Stored (programAt chip.mem addr buf) addr buf) :
    (flashWriteWithCheck chip addr buf).1 = true := by
  have hread : readBytes (flashWritePage chip addr buf).mem addr buf.length = buf := by
    rw [flashWritePage_mem]
    exact h
  simp only [flashWriteWithCheck, hread, beq_self_eq_true]

theorem flashWriteWithCheck_eq {chip : Chip} {addr : Nat} {buf : List UInt8}
    (h : Stored (programAt chip.mem addr buf) addr buf) :
    flashWriteWithCheck chip addr buf = (true, flashWritePage chip addr buf) :=
  Prod.ext (flashWriteWithCheck_fst h) rfl

/-! ## Structures as bytes -/

theorem leNat_leBytes_two {n : Nat} (hn : n < 65536) : leNat (Crc.leBytes 2 n) = n := by
  simp only [Crc.leBytes, leNat, UInt8.toNat_ofNat']
  omega

theorem leNat_leBytes_four {n : Nat} (hn : n < 4294967296) : leNat (Crc.leBytes 4 n) = n := by
  simp only [Crc.leBytes, leNat, UInt8.toNat_ofNat']
  omega

@[simp] theorem NvInfoIdx.length_toBytes (idx : NvInfoIdx) : idx.toBytes.length = 8 := rfl

@[simp] theorem ItemHdr.length_toBytes (hdr : ItemHdr) : hdr.toBytes.length = 8 := rfl

@[simp] theorem NvSectInfo.length_toBytes (s : NvSectInfo) : s.toBytes.length = 4 := rfl

theorem NvInfoIdx.ofBytes_toBytes {idx : NvInfoIdx} (hoffset : idx.offset < 4294967296)
    (hsize : idx.size < 65536) : NvInfoIdx.ofBytes idx.toBytes = idx := by
  have htake : idx.toBytes.take 4 = Crc.leBytes 4 idx.offset := rfl
  have hdrop : (idx.toBytes.drop 4).take 2 = Crc.leBytes 2 idx.size := rfl
  rw [NvInfoIdx.ofBytes, htake, hdrop, leNat_leBytes_four hoffset, leNat_leBytes_two hsize]
  rfl

theorem ItemHdr.ofBytes_toBytes {hdr : ItemHdr} (hsum : hdr.checkSum < 4294967296)
    (hsize : hdr.size < 65536) : ItemHdr.ofBytes hdr.toBytes = hdr := by
  have htake : hdr.toBytes.take 4 = Crc.leBytes 4 hdr.checkSum := rfl
  have hdrop : (hdr.toBytes.drop 4).take 2 = Crc.leBytes 2 hdr.size := rfl
  rw [ItemHdr.ofBytes, htake, hdrop, leNat_leBytes_four hsum, leNat_leBytes_two hsize]
  rfl

/-! ## Addresses -/

/-- The modules of {lit}`nv_module_t`. -/
def NvModule.Known (M : NvModule) : Prop := M.id ∈ ([0, 1, 2, 3, 4, 5, 6, 7] : List UInt8)

/-- The modules that hold items. -/
def NvModule.HoldsItems (M : NvModule) : Prop := M.id ∈ ([0, 1, 2, 3, 5, 6, 7] : List UInt8)

instance (M : NvModule) : Decidable M.HoldsItems := inferInstanceAs (Decidable (M.id ∈ _))

/-- What the sizes of a module have in common. -/
structure NvModule.Sized (M : NvModule) : Prop where
  index : 4 + M.idxNum * 8 ≤ M.infoSize
  place : 0 < M.idxNum
  info : M.infoSize ≤ M.sectorSize
  info_mod : M.infoSize % 4 = 0
  sector : M.sectorSize ≤ 0x4000
  sector_mod : M.sectorSize % 4096 = 0
  sector_pos : 0 < M.sectorSize
  start : M.startAddr ≤ 0xFF0000
  start_mod : M.startAddr % 4096 = 0

theorem NvModule.Known.sized {M : NvModule} (h : M.Known) : M.Sized := by
  rcases M with ⟨cap, id⟩
  simp only [NvModule.Known, List.mem_cons, List.not_mem_nil, or_false] at h
  rcases h with rfl | rfl | rfl | rfl | rfl | rfl | rfl | rfl <;> cases cap <;>
    exact ⟨by decide, by decide, by decide, by decide, by decide, by decide, by decide, by decide,
      by decide⟩

theorem NvModule.HoldsItems.known {M : NvModule} (h : M.HoldsItems) : M.Known := by
  simp only [NvModule.HoldsItems, List.mem_cons, List.not_mem_nil, or_false] at h
  simp only [NvModule.Known, List.mem_cons, List.not_mem_nil, or_false]
  rcases h with h | h | h | h | h | h | h <;> simp [h]

theorem NvModule.HoldsItems.sized {M : NvModule} (h : M.HoldsItems) : M.Sized := h.known.sized

variable {M : NvModule} {m m' : Mem} {sect : Nat}

theorem sectEnd_eq (M : NvModule) (sect : Nat) :
    M.sectEnd sect = M.sectStart sect + M.sectorSize := by
  rw [NvModule.sectEnd, NvModule.sectStart, Nat.add_mul, Nat.one_mul, Nat.add_assoc]

theorem NvModule.Sized.sectStart_mod (h : M.Sized) (hsect : sect < 2) :
    M.sectStart sect % 4096 = 0 := by
  have hsector := h.sector_mod
  have hstart := h.start_mod
  have hcases : sect = 0 ∨ sect = 1 := by omega
  rcases hcases with rfl | rfl <;> rw [NvModule.sectStart] <;> omega

theorem NvModule.Sized.sectEnd_le (h : M.Sized) (hsect : sect < 2) :
    M.sectEnd sect ≤ 0xFFFFFF := by
  have hsector := h.sector
  have hstart := h.start
  have hcases : sect = 0 ∨ sect = 1 := by omega
  rcases hcases with rfl | rfl <;> rw [NvModule.sectEnd] <;> omega

/-- A place of the index lies between the info and the items. -/
theorem NvModule.Sized.idxAddr_le (h : M.Sized) (sect : Nat) {i : Nat} (hi : i < M.idxNum) :
    M.idxAddr sect i + 8 ≤ M.contextStart sect := by
  have hindex := h.index
  rw [NvModule.idxAddr, NvModule.idxStart, NvModule.contextStart]
  omega

theorem align4_mod (a : Nat) : align4 a % 4 = 0 := by
  rw [align4]
  omega

theorem le_align4 (a : Nat) : a ≤ align4 a := by
  rw [align4]
  omega

theorem align4_add {a : Nat} (ha : a % 4 = 0) (n : Nat) : align4 (a + n) = a + align4 n := by
  rw [align4, align4]
  omega

theorem align4_le {a b : Nat} (hb : b % 4 = 0) (hle : a ≤ b) : align4 a ≤ b := by
  rw [align4]
  omega

/-! ## The items of a sector -/

/-- What {lit}`usedState` tells about an item. -/
inductive SlotState where
  | pending
  | valid
  | invalid
  deriving Repr, DecidableEq

def SlotState.byte : SlotState → UInt8
  | .pending => ITEM_FIELD_OPERATION
  | .valid => ITEM_FIELD_VALID_SINGLE
  | .invalid => ITEM_FIELD_INVALID

/-- An item of a sector. -/
structure Slot where
  itemId : UInt8
  data : List UInt8
  state : SlotState
  deriving Repr, DecidableEq

/-- The place in the index of an item at an address. -/
def Slot.idx (slot : Slot) (addr : Nat) : NvInfoIdx where
  offset := addr
  size := slot.data.length + 8
  itemId := slot.itemId
  usedState := slot.state.byte

@[simp] theorem Slot.idx_offset (slot : Slot) (addr : Nat) : (slot.idx addr).offset = addr := rfl

@[simp] theorem Slot.idx_size (slot : Slot) (addr : Nat) :
    (slot.idx addr).size = slot.data.length + 8 := rfl

@[simp] theorem Slot.idx_itemId (slot : Slot) (addr : Nat) :
    (slot.idx addr).itemId = slot.itemId := rfl

@[simp] theorem Slot.idx_usedState (slot : Slot) (addr : Nat) :
    (slot.idx addr).usedState = slot.state.byte := rfl

/-- The header of an item at an address. -/
def Slot.hdr (slot : Slot) (addr : Nat) : ItemHdr :=
  let hdr : ItemHdr :=
    { checkSum := 0
      size := slot.data.length
      itemId := slot.itemId
      used := ITEM_HDR_FIELD_VALID_CHECKCRC }
  { hdr with
    checkSum := (slot.idx addr).crc * 65536 + low16 (hdr.closeCrc (xcrc32 slot.data 0xffffffff)) }

/-- What an item takes up. -/
def Slot.room (slot : Slot) : Nat := align4 (slot.data.length + 8)

/-- What items take up. -/
def room (slots : List Slot) : Nat := (slots.map Slot.room).sum

/-- Where an item of a sector lies. -/
def NvModule.slotAddr (M : NvModule) (sect : Nat) (slots : List Slot) (i : Nat) : Nat :=
  M.contextStart sect + room (slots.take i)

/-- Where the next item goes. -/
def NvModule.slotsEnd (M : NvModule) (sect : Nat) (slots : List Slot) : Nat :=
  M.contextStart sect + room slots

/-- What is stored of an item: while it is being written, its header is complete or its last byte
is not there. -/
def Slot.Content (slot : Slot) (m : Mem) (addr : Nat) : Prop :=
  if slot.state = .pending then m (addr + 7) = blank ∨ Stored m addr (slot.hdr addr).toBytes
  else Stored m addr ((slot.hdr addr).toBytes ++ slot.data)

/-- An item with its place in the index. -/
structure Slot.At (slot : Slot) (M : NvModule) (m : Mem) (sect i addr : Nat) : Prop where
  idx : Stored m (M.idxAddr sect i) (slot.idx addr).toBytes
  content : slot.Content m addr

/-- A place of the index looks as if it had never been written. -/
def NvInfoIdx.Idle (idx : NvInfoIdx) : Prop :=
  idx.usedState = ITEM_FIELD_IDLE ∧ idx.size = 0xffff ∧ idx.itemId = ITEM_FIELD_IDLE

instance (idx : NvInfoIdx) : Decidable idx.Idle := by
  unfold NvInfoIdx.Idle
  infer_instance

/-- Behind the items there is room for another one, whose offset may be in the index already. -/
structure Clean (M : NvModule) (m : Mem) (sect : Nat) (slots : List Slot) : Prop where
  content : Blank m (M.slotsEnd sect slots) (M.sectEnd sect - M.slotsEnd sect slots)
  index : slots.length < M.idxNum → ∃ j ≤ 4, ∀ idx : NvInfoIdx,
    idx.offset = M.slotsEnd sect slots →
      Stored m (M.idxAddr sect slots.length) (firstBytes idx.toBytes j)

/-- The next place of the index is spoilt by a power cut. -/
structure Spoilt (M : NvModule) (m : Mem) (sect : Nat) (slots : List Slot) : Prop where
  count : slots.length < M.idxNum
  state : (M.readIdx m sect slots.length).usedState = ITEM_FIELD_IDLE
  used : ¬ (M.readIdx m sect slots.length).Idle

/-- What a sector holds behind its info. -/
structure Sector (M : NvModule) (m : Mem) (sect : Nat) (slots : List Slot) : Prop where
  slot : ∀ i (slot : Slot), slots[i]? = some slot → slot.At M m sect i (M.slotAddr sect slots i)
  count : slots.length ≤ M.idxNum
  fits : M.slotsEnd sect slots ≤ M.sectEnd sect
  later : ∀ i, slots.length < i → i < M.idxNum → Blank m (M.idxAddr sect i) 8
  tail : Clean M m sect slots ∨ Spoilt M m sect slots

/-! ## Where the items lie -/

variable {slots : List Slot} {slot : Slot} {i : Nat}

theorem room_append (slots slots' : List Slot) :
    room (slots ++ slots') = room slots + room slots' := by
  rw [room, List.map_append, List.sum_append]
  rfl

theorem room_singleton (slot : Slot) : room [slot] = slot.room := by
  simp [room]

theorem room_cons (slot : Slot) (slots : List Slot) :
    room (slot :: slots) = slot.room + room slots := by
  simp [room]

theorem room_mod (slots : List Slot) : room slots % 4 = 0 := by
  induction slots with
  | nil => rfl
  | cons slot slots ih =>
      have hslot : slot.room % 4 = 0 := align4_mod _
      rw [room_cons]
      omega

theorem room_take_add (hget : slots[i]? = some slot) :
    room (slots.take i) + slot.room + room (slots.drop (i + 1)) = room slots := by
  rw [List.getElem?_eq_some_iff] at hget
  rcases hget with ⟨hlt, rfl⟩
  have hsplit : slots.take i ++ [slots[i]] ++ slots.drop (i + 1) = slots := by
    rw [List.take_append_getElem hlt, List.take_append_drop]
  conv_rhs => rw [← hsplit]
  rw [room_append, room_append, room_singleton]

/-- An item lies before the place of the next one. -/
theorem slotAddr_add_room (M : NvModule) (sect : Nat) (hget : slots[i]? = some slot) :
    M.slotAddr sect slots i + slot.room ≤ M.slotsEnd sect slots := by
  have hroom := room_take_add hget
  rw [NvModule.slotAddr, NvModule.slotsEnd]
  omega

theorem slotAddr_append (M : NvModule) (sect : Nat) (slots' : List Slot)
    (hi : i ≤ slots.length) : M.slotAddr sect (slots ++ slots') i = M.slotAddr sect slots i := by
  rw [NvModule.slotAddr, List.take_append_of_le_length hi, NvModule.slotAddr]

theorem slotAddr_length (M : NvModule) (sect : Nat) (slots slots' : List Slot) :
    M.slotAddr sect (slots ++ slots') slots.length = M.slotsEnd sect slots := by
  rw [NvModule.slotAddr, List.take_left, NvModule.slotsEnd]

theorem slotsEnd_append (M : NvModule) (sect : Nat) (slots : List Slot) (slot : Slot) :
    M.slotsEnd sect (slots ++ [slot]) = M.slotsEnd sect slots + slot.room := by
  rw [NvModule.slotsEnd, room_append, room_singleton, NvModule.slotsEnd, Nat.add_assoc]

theorem NvModule.Sized.sectStart_mod4 (h : M.Sized) (hsect : sect < 2) :
    M.sectStart sect % 4 = 0 := by
  have hmod := h.sectStart_mod hsect
  omega

theorem NvModule.Sized.slotAddr_mod (h : M.Sized) (hsect : sect < 2) (slots : List Slot)
    (i : Nat) : M.slotAddr sect slots i % 4 = 0 := by
  have hstart := h.sectStart_mod4 hsect
  have hinfo := h.info_mod
  have hroom := room_mod (slots.take i)
  rw [NvModule.slotAddr, NvModule.contextStart]
  omega

theorem NvModule.Sized.slotsEnd_mod (h : M.Sized) (hsect : sect < 2) (slots : List Slot) :
    M.slotsEnd sect slots % 4 = 0 := by
  have hmod := h.slotAddr_mod hsect slots slots.length
  rwa [NvModule.slotAddr, List.take_length] at hmod

theorem NvModule.Sized.sectEnd_mod (h : M.Sized) (hsect : sect < 2) : M.sectEnd sect % 4 = 0 := by
  have hstart := h.sectStart_mod hsect
  have hsector := h.sector_mod
  rw [sectEnd_eq]
  omega

theorem contextStart_le_slotAddr (M : NvModule) (sect : Nat) (slots : List Slot) (i : Nat) :
    M.contextStart sect ≤ M.slotAddr sect slots i := Nat.le_add_right _ _

theorem contextStart_le_slotsEnd (M : NvModule) (sect : Nat) (slots : List Slot) :
    M.contextStart sect ≤ M.slotsEnd sect slots := Nat.le_add_right _ _

theorem Slot.length_le_room (slot : Slot) : slot.data.length + 8 ≤ slot.room := le_align4 _

/-- The bounds of an item that fits in a sector. -/
theorem NvModule.Sized.bounds (h : M.Sized) (hsect : sect < 2)
    (hfits : M.slotsEnd sect slots ≤ M.sectEnd sect) :
    M.slotsEnd sect slots ≤ 0xFFFFFF ∧ room slots ≤ 0x4000 := by
  have hend := h.sectEnd_le hsect
  have hsector := h.sector
  have heq := sectEnd_eq M sect
  rw [NvModule.slotsEnd, NvModule.contextStart] at hfits ⊢
  omega

/-! ## Reading the index -/

theorem readIdx_of_stored {idx : NvInfoIdx} (h : Stored m (M.idxAddr sect i) idx.toBytes)
    (hoffset : idx.offset < 4294967296) (hsize : idx.size < 65536) :
    M.readIdx m sect i = idx := by
  have hread : readBytes m (M.idxAddr sect i) 8 = idx.toBytes := h
  rw [NvModule.readIdx, hread, NvInfoIdx.ofBytes_toBytes hoffset hsize]

theorem Sector.readIdx (hM : M.Sized) (hsect : sect < 2) (h : Sector M m sect slots)
    (hget : slots[i]? = some slot) :
    M.readIdx m sect i = slot.idx (M.slotAddr sect slots i) := by
  have hbounds := hM.bounds hsect h.fits
  have hroom := room_take_add hget
  have haddr := slotAddr_add_room M sect hget
  have hlength := slot.length_le_room
  refine readIdx_of_stored (h.slot i slot hget).idx ?_ ?_
  · change M.slotAddr sect slots i < 4294967296
    omega
  · change slot.data.length + 8 < 65536
    omega

/-- A place whose last four bytes are erased. -/
theorem idle_of_blank (h : Blank m (M.idxAddr sect i + 4) 4) : (M.readIdx m sect i).Idle := by
  have hfour : readBytes m (M.idxAddr sect i) 8 =
      readBytes m (M.idxAddr sect i) 4 ++ List.replicate 4 blank := by
    have hblank : Stored m (M.idxAddr sect i + 4) (firstBytes [0, 0, 0, 0] 0) :=
      stored_firstBytes_zero.mpr h
    rw [readBytes_append m _ 4 4]
    exact congrArg _ hblank
  have hlength : (readBytes m (M.idxAddr sect i) 4).length = 4 := length_readBytes _ _ _
  have hdrop : (readBytes m (M.idxAddr sect i) 4 ++ List.replicate 4 blank).drop 4 =
      List.replicate 4 blank := List.drop_left' hlength
  rw [NvModule.readIdx, hfour]
  generalize readBytes m (M.idxAddr sect i) 4 = front at hlength hdrop
  refine ⟨?_, ?_, ?_⟩
  · simp only [NvInfoIdx.ofBytes, List.getD]
    rw [List.getElem?_append_right (by omega), hlength]
    rfl
  · simp only [NvInfoIdx.ofBytes, hdrop]
    rfl
  · simp only [NvInfoIdx.ofBytes, List.getD]
    rw [List.getElem?_append_right (by omega), hlength]
    rfl

theorem Sector.readIdx_later (h : Sector M m sect slots) (hi : slots.length < i)
    (hlt : i < M.idxNum) : (M.readIdx m sect i).Idle :=
  idle_of_blank ((h.later i hi hlt).sub (by omega) (by omega))

theorem Clean.idle (h : Clean M m sect slots) (hlt : slots.length < M.idxNum) :
    (M.readIdx m sect slots.length).Idle := by
  rcases h.index hlt with ⟨j, hj, hstored⟩
  have hfirst := hstored ⟨M.slotsEnd sect slots, 0, 0, 0⟩ rfl
  refine idle_of_blank fun b hb => ?_
  have hbyte := hfirst.get (i := 4 + b) (by rw [length_firstBytes]; simp; omega)
  rw [getD_firstBytes, if_neg (by omega)] at hbyte
  rw [Nat.add_assoc]
  exact hbyte

/-- The place behind the items does not hold a valid one. -/
theorem Sector.readIdx_length (h : Sector M m sect slots) (hlt : slots.length < M.idxNum) :
    (M.readIdx m sect slots.length).usedState = ITEM_FIELD_IDLE := by
  rcases h.tail with hclean | hspoilt
  · exact (hclean.idle hlt).1
  · exact hspoilt.state

/-! ## Searching -/

theorem groupSearch_eq_some {p : Nat → Bool} {first n : Nat} :
    groupSearch p first n = some i ↔ first ≤ i ∧ i < first + n ∧ p i = true ∧
      ∀ j, i < j → j < first + n → p j = false := by
  induction n with
  | zero =>
      rw [groupSearch]
      exact ⟨fun h => (nomatch h), fun h => by omega⟩
  | succ n ih =>
      rw [groupSearch]
      split
      · rename_i hp
        rw [Option.some.injEq]
        constructor
        · rintro rfl
          exact ⟨by omega, by omega, hp, fun j hj hlt => by omega⟩
        · rintro ⟨hle, hlt, hpi, hlater⟩
          by_contra hne
          have hfalse := hlater (first + n) (by omega) (by omega)
          exact absurd (hp.symm.trans hfalse) (by simp)
      · rename_i hp
        rw [ih]
        constructor
        · rintro ⟨hle, hlt, hpi, hlater⟩
          refine ⟨hle, by omega, hpi, fun j hj hlt' => ?_⟩
          rcases Nat.lt_or_ge j (first + n) with hlt'' | hge
          · exact hlater j hj hlt''
          · obtain rfl : j = first + n := by omega
            exact Bool.eq_false_iff.mpr hp
        · rintro ⟨hle, hlt, hpi, hlater⟩
          refine ⟨hle, ?_, hpi, fun j hj hlt' => hlater j hj (by omega)⟩
          rcases Nat.lt_or_ge i (first + n) with hlt' | hge
          · exact hlt'
          · obtain rfl : i = first + n := by omega
            exact absurd hpi hp

theorem groupSearch_eq_none {p : Nat → Bool} {first n : Nat} :
    groupSearch p first n = none ↔ ∀ j, first ≤ j → j < first + n → p j = false := by
  induction n with
  | zero =>
      rw [groupSearch]
      exact ⟨fun _ j hle hlt => by omega, fun _ => rfl⟩
  | succ n ih =>
      rw [groupSearch]
      split
      · rename_i hp
        constructor
        · intro h
          cases h
        · intro h
          exact absurd (hp.symm.trans (h (first + n) (by omega) (by omega))) (by simp)
      · rename_i hp
        rw [ih]
        constructor
        · intro h j hle hlt
          rcases Nat.lt_or_ge j (first + n) with hlt' | hge
          · exact h j hle hlt'
          · obtain rfl : j = first + n := by omega
            exact Bool.eq_false_iff.mpr hp
        · exact fun h j hle hlt => h j hle (by omega)

theorem groupSearch_congr {p q : Nat → Bool} {first n : Nat}
    (h : ∀ j, first ≤ j → j < first + n → p j = q j) :
    groupSearch p first n = groupSearch q first n := by
  induction n with
  | zero => rfl
  | succ n ih =>
      rw [groupSearch, groupSearch, h (first + n) (by omega) (by omega),
        ih fun j hle hlt => h j hle (by omega)]

theorem groupSearch_add (p : Nat → Bool) (first n n' : Nat) :
    groupSearch p first (n + n') = (groupSearch p (first + n) n').or (groupSearch p first n) := by
  induction n' with
  | zero => rfl
  | succ n' ih =>
      rw [← Nat.add_assoc, groupSearch, groupSearch, ih, Nat.add_assoc]
      split <;> rfl

/-- The search goes through all places from the last one down. -/
theorem nvIndexReadLoop_eq (p : Nat → Bool) (n : Nat) :
    nvIndexReadLoop p n = groupSearch p 0 n := by
  induction n using Nat.strongRecOn with
  | ind n ih =>
      rw [nvIndexReadLoop]
      split
      · rename_i hzero
        rw [hzero]
        rfl
      · rename_i hpos
        have hle : (if n > 4 then 4 else n) ≤ n := by split <;> omega
        have hpos' : 0 < if n > 4 then 4 else n := by split <;> omega
        generalize (if n > 4 then 4 else n) = count at hle hpos'
        have hsplit := groupSearch_add p 0 (n - count) count
        rw [Nat.sub_add_cancel hle, Nat.zero_add] at hsplit
        dsimp only
        rw [hsplit, ih (n - count) (by omega)]
        cases groupSearch p (n - count) count <;> rfl

/-! ## What the items tell -/

/-- A valid item of an identifier. -/
def Slot.holds (slot : Slot) (itemId : UInt8) : Bool :=
  slot.state == .valid && slot.itemId == itemId

/-- Which item counts. -/
def lastIndex (slots : List Slot) (itemId : UInt8) : Option Nat :=
  groupSearch (fun i => slots[i]?.any fun slot => slot.holds itemId) 0 slots.length

/-- The data that the items hold under an identifier. -/
def contents (slots : List Slot) (itemId : UInt8) : Option (List UInt8) :=
  (lastIndex slots itemId).bind fun i => slots[i]?.map Slot.data

theorem lastIndex_eq_some {itemId : UInt8} :
    lastIndex slots itemId = some i ↔ (∃ slot, slots[i]? = some slot ∧ slot.holds itemId = true) ∧
      ∀ j (slot : Slot), i < j → slots[j]? = some slot → slot.holds itemId = false := by
  rw [lastIndex, groupSearch_eq_some, Option.any_eq_true]
  constructor
  · rintro ⟨-, -, hslot, hlater⟩
    refine ⟨hslot, fun j slot hj hget => ?_⟩
    have hlt : j < slots.length := (List.getElem?_eq_some_iff.mp hget).1
    have hnone := hlater j hj (by omega)
    rwa [hget, Option.any_some] at hnone
  · rintro ⟨⟨slot, hget, hholds⟩, hlater⟩
    have hlt : i < slots.length := (List.getElem?_eq_some_iff.mp hget).1
    refine ⟨Nat.zero_le _, by omega, ⟨slot, hget, hholds⟩, fun j hj hlt' => ?_⟩
    cases hget' : slots[j]? with
    | none => rfl
    | some slot' => exact hlater j slot' hj hget'

theorem lastIndex_eq_none {itemId : UInt8} :
    lastIndex slots itemId = none ↔
      ∀ (j : Nat) (slot : Slot), slots[j]? = some slot → slot.holds itemId = false := by
  rw [lastIndex, groupSearch_eq_none]
  constructor
  · intro h j slot hget
    have hlt : j < slots.length := (List.getElem?_eq_some_iff.mp hget).1
    have hnone := h j (Nat.zero_le _) (by omega)
    rwa [hget, Option.any_some] at hnone
  · intro h j _ _
    cases hget : slots[j]? with
    | none => rfl
    | some slot => exact h j slot hget

theorem contents_nil (itemId : UInt8) : contents [] itemId = none := rfl

/-- An item behind the others. -/
theorem lastIndex_append (slots : List Slot) (slot : Slot) (itemId : UInt8) :
    lastIndex (slots ++ [slot]) itemId =
      if slot.holds itemId then some slots.length else lastIndex slots itemId := by
  have hlast : (slots ++ [slot])[slots.length]? = some slot := by simp
  rw [lastIndex, List.length_append, List.length_singleton, groupSearch, Nat.zero_add, hlast,
    Option.any_some]
  split
  · rfl
  · refine groupSearch_congr fun j _ hj => ?_
    rw [List.getElem?_append_left (by omega)]

theorem contents_append (slots : List Slot) (slot : Slot) (itemId : UInt8) :
    contents (slots ++ [slot]) itemId =
      if slot.holds itemId then some slot.data else contents slots itemId := by
  have hlast : (slots ++ [slot])[slots.length]? = some slot := by simp
  rw [contents, lastIndex_append]
  split
  · rw [Option.bind_some, hlast, Option.map_some]
  · rw [contents]
    cases hindex : lastIndex slots itemId with
    | none => rfl
    | some i =>
        rcases (lastIndex_eq_some.mp hindex).1 with ⟨slot', hget, -⟩
        rw [Option.bind_some, Option.bind_some,
          List.getElem?_append_left (List.getElem?_eq_some_iff.mp hget).1]

/-- An item that does not count, or for another identifier, can be marked as invalid. -/
theorem lastIndex_set {itemId : UInt8} {slot' : Slot} (hget : slots[i]? = some slot)
    (hinvalid : slot'.state ≠ .valid)
    (hother : slot.holds itemId = true → lastIndex slots itemId ≠ some i) :
    lastIndex (slots.set i slot') itemId = lastIndex slots itemId := by
  have hlt : i < slots.length := (List.getElem?_eq_some_iff.mp hget).1
  have hset : ∀ j, (slots.set i slot')[j]? = if i = j then some slot' else slots[j]? := by
    intro j
    rw [List.getElem?_set]
    split <;> rfl
  have hholds : slot'.holds itemId = false := by
    simp [Slot.holds, hinvalid]
  cases hindex : lastIndex slots itemId with
  | none =>
      rw [lastIndex_eq_none] at hindex ⊢
      intro j slot'' hget'
      rw [hset] at hget'
      split at hget'
      · rw [← Option.some.inj hget']
        exact hholds
      · exact hindex j slot'' hget'
  | some j =>
      have hindex' := hindex
      rw [lastIndex_eq_some] at hindex'
      rcases hindex' with ⟨⟨slot'', hget', hholds'⟩, hlater⟩
      have hne : i ≠ j := by
        rintro rfl
        rw [hget] at hget'
        exact hother (Option.some.inj hget' ▸ hholds') hindex
      rw [lastIndex_eq_some]
      refine ⟨⟨slot'', by rw [hset, if_neg hne, hget'], hholds'⟩, fun k slot₃ hk hget₃ => ?_⟩
      rw [hset] at hget₃
      split at hget₃
      · rw [← Option.some.inj hget₃]
        exact hholds
      · exact hlater k slot₃ hk hget₃

theorem contents_set {itemId : UInt8} {slot' : Slot} (hget : slots[i]? = some slot)
    (hinvalid : slot'.state ≠ .valid)
    (hother : slot.holds itemId = true → lastIndex slots itemId ≠ some i) :
    contents (slots.set i slot') itemId = contents slots itemId := by
  rw [contents, contents, lastIndex_set hget hinvalid hother]
  cases hindex : lastIndex slots itemId with
  | none => rfl
  | some j =>
      have hne : i ≠ j := by
        rintro rfl
        rcases (lastIndex_eq_some.mp hindex).1 with ⟨slot'', hget', hholds'⟩
        rw [hget] at hget'
        exact hother (Option.some.inj hget' ▸ hholds') hindex
      rw [Option.bind_some, Option.bind_some, List.getElem?_set_ne hne]

/-! ## Searching a sector -/

@[simp] theorem itemValidFlagCheck_byte (state : SlotState) :
    itemValidFlagCheck state.byte = (state == .valid) := by
  cases state <;> rfl

@[simp] theorem itemFlagCheck_byte (state : SlotState) : itemFlagCheck state.byte = true := by
  cases state <;> rfl

theorem state_byte_ne_idle (state : SlotState) : state.byte ≠ ITEM_FIELD_IDLE := by
  cases state <;> decide

/-- Every item has the length that goes with its identifier. -/
def Lengths (len : UInt8 → Nat) (slots : List Slot) : Prop :=
  ∀ slot ∈ slots, slot.data.length = len slot.itemId

theorem Lengths.get {len : UInt8 → Nat} (h : Lengths len slots) (hget : slots[i]? = some slot) :
    slot.data.length = len slot.itemId := h slot (List.mem_of_getElem? hget)

theorem Lengths.append {len : UInt8 → Nat} (h : Lengths len slots)
    (hslot : slot.data.length = len slot.itemId) : Lengths len (slots ++ [slot]) := by
  intro slot' hmem
  rcases List.mem_append.mp hmem with hmem | hmem
  · exact h slot' hmem
  · rw [List.mem_singleton.mp hmem]
    exact hslot

theorem Lengths.set {len : UInt8 → Nat} (h : Lengths len slots)
    (hslot : slot.data.length = len slot.itemId) : Lengths len (slots.set i slot) := by
  intro slot' hmem
  rcases List.mem_or_eq_of_mem_set hmem with hmem | rfl
  · exact h slot' hmem
  · exact hslot

/-- The search for an item finds the one that counts. -/
theorem Sector.nvIndexRead (hM : M.Sized) (hsect : sect < 2) (h : Sector M m sect slots)
    {len : UInt8 → Nat} (hlengths : Lengths len slots) {itemId : UInt8}
    (hid : itemId ≠ ITEM_FIELD_IDLE) :
    NvDriver.nvIndexRead M m itemId (len itemId) sect = lastIndex slots itemId := by
  rw [NvDriver.nvIndexRead, if_neg hid, nvIndexReadLoop_eq, lastIndex]
  obtain ⟨more, hmore⟩ := Nat.le.dest h.count
  rw [← hmore, groupSearch_add]
  have hbehind : ∀ i, slots.length ≤ i → i < M.idxNum →
      itemValidFlagCheck (M.readIdx m sect i).usedState = false := by
    intro i hle hlt
    have hidle : (M.readIdx m sect i).usedState = ITEM_FIELD_IDLE := by
      rcases Nat.eq_or_lt_of_le hle with rfl | hlt'
      · exact h.readIdx_length hlt
      · exact (h.readIdx_later hlt' hlt).1
    rw [hidle]
    rfl
  have hnone : groupSearch (fun i => itemValidFlagCheck (M.readIdx m sect i).usedState &&
      (M.readIdx m sect i).itemId == itemId && ((M.readIdx m sect i).size - 8) % len itemId == 0)
      (0 + slots.length) more = none := by
    rw [groupSearch_eq_none]
    intro i hle hlt
    rw [hbehind i (by omega) (by omega), Bool.false_and, Bool.false_and]
  dsimp only
  rw [hnone, Option.none_or]
  refine groupSearch_congr fun i _ hi => ?_
  have hlt : i < slots.length := by omega
  have hget : slots[i]? = some slots[i] := List.getElem?_eq_getElem hlt
  rw [h.readIdx hM hsect hget, hget, Option.any_some]
  have hlength := hlengths.get hget
  simp only [Slot.idx, itemValidFlagCheck_byte, Slot.holds, Nat.add_sub_cancel]
  by_cases hid : slots[i].itemId = itemId
  · rw [← hid, ← hlength, Nat.mod_self]
    simp
  · simp [hid]

/-- The search for the last place that is in use. -/
theorem Sector.nvIndexReadIdle (hM : M.Sized) (hsect : sect < 2) (h : Sector M m sect slots) :
    NvDriver.nvIndexReadIdle M m sect =
      if slots.length < M.idxNum ∧ ¬ (M.readIdx m sect slots.length).Idle then some slots.length
      else if slots = [] then none else some (slots.length - 1) := by
  have hpred : ∀ idx : NvInfoIdx, (idx.usedState != ITEM_FIELD_IDLE || idx.size != 0xffff ||
      idx.itemId != ITEM_FIELD_IDLE) = decide (¬ idx.Idle) := by
    intro idx
    rw [Bool.eq_iff_iff, decide_eq_true_iff]
    simp only [NvInfoIdx.Idle, Bool.or_eq_true, bne_iff_ne]
    tauto
  rw [NvDriver.nvIndexReadIdle, nvIndexReadLoop_eq]
  simp only [hpred]
  have hlater : ∀ i, slots.length < i → i < M.idxNum →
      decide (¬ (M.readIdx m sect i).Idle) = false := by
    intro i hlt hi
    simp [h.readIdx_later hlt hi]
  have hinside : ∀ i < slots.length, decide (¬ (M.readIdx m sect i).Idle) = true := by
    intro i hlt
    have hget : slots[i]? = some slots[i] := List.getElem?_eq_getElem hlt
    rw [h.readIdx hM hsect hget, decide_eq_true_eq]
    exact fun hidle => state_byte_ne_idle _ hidle.1
  have hcount := h.count
  split
  · rename_i hused
    rw [groupSearch_eq_some]
    refine ⟨Nat.zero_le _, by omega, by simp [hused.2], fun j hj hlt => ?_⟩
    exact hlater j hj (by omega)
  · rename_i hfree
    have hbehind : ∀ i, slots.length ≤ i → i < M.idxNum →
        decide (¬ (M.readIdx m sect i).Idle) = false := by
      intro i hle hlt
      rcases Nat.eq_or_lt_of_le hle with rfl | hlt'
      · have hidle : (M.readIdx m sect slots.length).Idle := by
          by_contra hne
          exact hfree ⟨hlt, hne⟩
        simp [hidle]
      · exact hlater i hlt' hlt
    split
    · rename_i hnil
      rw [groupSearch_eq_none]
      intro j _ hlt
      refine hbehind j ?_ (by omega)
      rw [hnil]
      exact Nat.zero_le _
    · rename_i hne
      have hpos : 0 < slots.length := List.length_pos_iff.mpr hne
      rw [groupSearch_eq_some]
      exact ⟨Nat.zero_le _, by omega, hinside _ (by omega), fun j hj hlt =>
        hbehind j (by omega) (by omega)⟩

end NvDriver
