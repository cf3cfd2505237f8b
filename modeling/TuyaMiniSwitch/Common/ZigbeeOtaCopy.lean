import Mathlib.Data.List.GetD
import TuyaMiniSwitch.Common.ZigbeeOta

/-!
# Common - The copy of the migration

The commands {lit}`tuya_zigbee_ota` gives the flash when it accepts a firmware, and
the memory behind each block of the copy.  Three frontiers move upwards: what is
copied, what is erased, and what is read.  The first two never reach the third,
because the source lies at least eight sectors above the destination.

Main results:

- Theorem {lit}`runCmds_copyCmds`: the memory behind every number of blocks.
- Theorem {lit}`tuyaZigbeeOta_eq`: the commands of an accepted firmware.
- Theorem {lit}`migration_copies_image`: the image is copied, every block into
  erased cells, and nothing is read after it was altered.
-/

namespace ZigbeeOta

open NorFlash FlashDriver

/-! ## The image -/

/-- A word in the flash. -/
def memU32 (m : Mem) (addr : Nat) : Nat := u32At (readBytes m addr 4) 0

/-- The firmware the search finds. -/
def Finds (m : Mem) (src : Nat) : Prop :=
  (src = ZIGBEE_BOOT_OTA_FADDR ∧ memU32 m (ZIGBEE_BOOT_OTA_FADDR + 8) = ID_BOOTABLE) ∨
  (src = OTA2_FADDR ∧ memU32 m (ZIGBEE_BOOT_OTA_FADDR + 8) ≠ ID_BOOTABLE ∧
    memU32 m (OTA2_FADDR + 8) = ID_BOOTABLE)

/-- The firmware is found and its size is good. -/
structure Accepts (m : Mem) (src : Nat) : Prop where
  finds : Finds m src
  above : FLASH_SECTOR_SIZE < memU32 m (src + 24)
  below : memU32 m (src + 24) < BIN_SIZE_MAX_OTA

/-- The size of the image, rounded up to whole sectors. -/
def imageSize (m : Mem) (src : Nat) : Nat :=
  (memU32 m (src + 24) + (FLASH_SECTOR_SIZE - 1)) / FLASH_SECTOR_SIZE * FLASH_SECTOR_SIZE

theorem u32At_readBytes (m : Mem) (addr : Nat) {len i : Nat} (hfit : 4 * i + 4 ≤ len) :
    u32At (readBytes m addr len) i = memU32 m (addr + 4 * i) := by
  have hbyte : ∀ j, j < 4 →
      (readBytes m addr len).getD (4 * i + j) 0 = (readBytes m (addr + 4 * i) 4).getD j 0 := by
    intro j hj
    rw [getD_readBytes 0 (by omega), getD_readBytes 0 hj, Nat.add_assoc]
  have hzero := hbyte 0 (by decide)
  have hone := hbyte 1 (by decide)
  have htwo := hbyte 2 (by decide)
  have hthree := hbyte 3 (by decide)
  rw [Nat.add_zero] at hzero
  simp only [memU32, u32At, hzero, hone, htwo, hthree, Nat.mul_zero, Nat.zero_add]

theorem memU32_eq (m : Mem) (addr : Nat) :
    memU32 m addr = (m addr).toNat + 256 * (m (addr + 1)).toNat +
      65536 * (m (addr + 2)).toNat + 16777216 * (m (addr + 3)).toNat := by
  have hbyte : ∀ j, j < 4 → (readBytes m addr 4).getD j 0 = m (addr + j) :=
    fun j hj => getD_readBytes 0 hj
  simp only [memU32, u32At, Nat.mul_zero, Nat.zero_add, hbyte 0 (by decide), hbyte 1 (by decide),
    hbyte 2 (by decide), hbyte 3 (by decide), Nat.add_zero]

theorem Accepts.src_ge {m : Mem} {src : Nat} (h : Accepts m src) : 0x8000 ≤ src := by
  rcases h.finds with ⟨rfl, -⟩ | ⟨rfl, -⟩
  · exact Nat.le_refl _
  · decide

theorem Accepts.bootable {m : Mem} {src : Nat} (h : Accepts m src) :
    memU32 m (src + 8) = ID_BOOTABLE := by
  rcases h.finds with ⟨rfl, hid⟩ | ⟨rfl, -, hid⟩
  · exact hid
  · exact hid

theorem Accepts.imageSize_bounds {m : Mem} {src : Nat} (h : Accepts m src) :
    8192 ≤ imageSize m src ∧ imageSize m src ≤ BIN_SIZE_MAX_OTA ∧
      imageSize m src % FLASH_SECTOR_SIZE = 0 := by
  have habove := h.above
  have hbelow := h.below
  simp only [imageSize, FLASH_SECTOR_SIZE, BIN_SIZE_MAX_OTA] at *
  omega

/-! ## The header -/

/-- The bytes of the word that four bytes make. -/
theorem u32Bytes_of_bytes (a b c d : UInt8) :
    u32Bytes (a.toNat + 256 * b.toNat + 65536 * c.toNat + 16777216 * d.toNat) = [a, b, c, d] := by
  have ha := a.toNat_lt
  have hb := b.toNat_lt
  have hc := c.toNat_lt
  have hd := d.toNat_lt
  have hbyte : ∀ (n : Nat) (e : UInt8), n % 256 = e.toNat → UInt8.ofNat n = e := by
    intro n e hmod
    apply UInt8.toNat_inj.mp
    rw [UInt8.toNat_ofNat']
    exact hmod
  unfold u32Bytes
  rw [hbyte _ a (by omega), hbyte _ b (by omega), hbyte _ c (by omega), hbyte _ d (by omega)]

/-- Taking a word out of a buffer and putting it back. -/
theorem setU32_u32At {buf : List UInt8} {i : Nat} (hfit : 4 * i + 4 ≤ buf.length) :
    setU32 buf i (u32At buf i) = buf := by
  have hdrop : buf.drop (4 * i) =
      [buf.getD (4 * i) 0, buf.getD (4 * i + 1) 0, buf.getD (4 * i + 2) 0,
        buf.getD (4 * i + 3) 0] ++ buf.drop (4 * i + 4) := by
    rw [List.drop_eq_getElem_cons (by omega), List.drop_eq_getElem_cons (by omega),
      List.drop_eq_getElem_cons (by omega), List.drop_eq_getElem_cons (by omega),
      List.getD_eq_getElem _ _ (by omega), List.getD_eq_getElem _ _ (by omega),
      List.getD_eq_getElem _ _ (by omega), List.getD_eq_getElem _ _ (by omega)]
    rfl
  rw [setU32, u32At, u32Bytes_of_bytes, List.append_assoc, ← hdrop, List.take_append_drop]

/-- Masking a word with all ones keeps the word. -/
theorem u32At_mask (buf : List UInt8) (i : Nat) : u32At buf i &&& 0xffffffff = u32At buf i := by
  have hzero := (buf.getD (4 * i) 0).toNat_lt
  have hone := (buf.getD (4 * i + 1) 0).toNat_lt
  have htwo := (buf.getD (4 * i + 2) 0).toNat_lt
  have hthree := (buf.getD (4 * i + 3) 0).toNat_lt
  have hlt : u32At buf i < 2 ^ 32 := by
    unfold u32At
    omega
  rw [show 0xffffffff = 2 ^ 32 - 1 from rfl, Nat.and_two_pow_sub_one_eq_mod,
    Nat.mod_eq_of_lt hlt]

/-! ## Commands -/

/-- The commands in front of the copy. -/
def headCmds (src : Nat) : List Cmd :=
  [.writeStatus [0], .read ZIGBEE_BOOT_OTA_FADDR 16] ++
    (if src = OTA2_FADDR then [.read OTA2_FADDR 16] else []) ++ [.read src bufBlkSize]

/-- The erase in front of a block, if a sector begins there. -/
def openCmds (w : Nat) : List Cmd := if w % FLASH_SECTOR_SIZE = 0 then [.erase w] else []

/-- The commands of a block of the loop. -/
def blockCmds (m : Mem) (src w : Nat) : List Cmd :=
  openCmds w ++ [.read (src + w) bufBlkSize, .program w (readBytes m (src + w) bufBlkSize)]

/-- The commands of the copy of the first block, and of so many blocks more. -/
def copyCmds (m : Mem) (src : Nat) : Nat → List Cmd
  | 0 => [.erase BIG_OTA1_FADDR, .program BIG_OTA1_FADDR (readBytes m src bufBlkSize)]
  | n + 1 => copyCmds m src n ++ blockCmds m src (bufBlkSize * (n + 1))

/-- The mark of the new firmware. -/
def idCmd : Cmd := .program (BIG_OTA1_FADDR + 8) (u32Bytes ID_BOOTABLE)

/-- The commands behind the mark. -/
def macCmds : List Cmd := [.erase ZIGBEE_MAC_FADDR, .erase ZIGBEE_MAC_FADDR_1M]

/-- The commands up to the end of the copy loop. -/
def loopCmds (m : Mem) (src : Nat) : List Cmd :=
  headCmds src ++ copyCmds m src (imageSize m src / bufBlkSize - 1)

/-! ## Memory -/

/-- First address behind the erased sectors when the copy has come to an address. -/
def sectorUp (w : Nat) : Nat :=
  (w + (FLASH_SECTOR_SIZE - 1)) / FLASH_SECTOR_SIZE * FLASH_SECTOR_SIZE

/-- The memory when the copy has come to an address: below it the image, then the
rest of the erased sector. -/
def copied (m : Mem) (src w : Nat) : Mem := fun x =>
  if x < w then m (src + x) else if x < sectorUp w then blank else m x

/-- The memory a block is programmed into: its sector is erased. -/
def opened (m : Mem) (src w : Nat) : Mem := fun x =>
  if x < w then m (src + x) else if x < sectorUp (w + 1) then blank else m x

theorem sectorUp_mono {w w' : Nat} (hle : w ≤ w') : sectorUp w ≤ sectorUp w' := by
  simp only [sectorUp, FLASH_SECTOR_SIZE]
  omega

theorem sectorUp_succ_le (w : Nat) : sectorUp (w + 1) ≤ w + FLASH_SECTOR_SIZE := by
  simp only [sectorUp, FLASH_SECTOR_SIZE]
  omega

theorem sectorUp_of_aligned {w : Nat} (hsector : w % FLASH_SECTOR_SIZE = 0) :
    sectorUp w = w ∧ sectorUp (w + 1) = w + FLASH_SECTOR_SIZE := by
  simp only [sectorUp, FLASH_SECTOR_SIZE] at *
  omega

theorem sectorUp_of_unaligned {w : Nat} (hsector : w % FLASH_SECTOR_SIZE ≠ 0) :
    sectorUp w = sectorUp (w + 1) := by
  simp only [sectorUp, FLASH_SECTOR_SIZE] at *
  omega

theorem runCmds_open (m : Mem) (src w : Nat) :
    runCmds geometry (copied m src w) (openCmds w) = opened m src w := by
  unfold openCmds
  by_cases hsector : w % FLASH_SECTOR_SIZE = 0
  · rw [if_pos hsector]
    rcases sectorUp_of_aligned hsector with ⟨hup, hup'⟩
    funext x
    have hin : x / 4096 = w / 4096 ↔ w ≤ x ∧ x < w + FLASH_SECTOR_SIZE := by
      simp only [FLASH_SECTOR_SIZE] at *
      omega
    show (if x / 4096 = w / 4096 then blank else copied m src w x) = _
    unfold copied opened
    rw [hup, hup']
    by_cases hlt : x < w
    · rw [if_neg fun h => absurd (hin.mp h).1 (Nat.not_le.mpr hlt), if_pos hlt, if_pos hlt]
    · by_cases hend : x < w + FLASH_SECTOR_SIZE
      · rw [if_pos (hin.mpr ⟨Nat.not_lt.mp hlt, hend⟩), if_neg hlt, if_pos hend]
      · rw [if_neg fun h => hend (hin.mp h).2, if_neg hlt, if_neg hlt, if_neg hlt, if_neg hend]
  · rw [if_neg hsector, runCmds_nil]
    unfold copied opened
    rw [sectorUp_of_unaligned hsector]

/-- The place of a block is erased. -/
theorem opened_blank {m : Mem} {src w i : Nat} (hpage : w % bufBlkSize = 0)
    (hi : i < bufBlkSize) : opened m src w (w + i) = blank := by
  have hroom : w + bufBlkSize ≤ sectorUp (w + 1) := by
    simp only [sectorUp, bufBlkSize, FLASH_SECTOR_SIZE] at *
    omega
  unfold opened
  rw [if_neg (Nat.not_lt.mpr (Nat.le_add_right w i)),
    if_pos (Nat.lt_of_lt_of_le (Nat.add_lt_add_left hi w) hroom)]

/-- Programming a block of the image into its erased place. -/
theorem runCmd_block {m : Mem} {src w : Nat} (hpage : w % bufBlkSize = 0) :
    runCmd geometry (opened m src w) (.program w (readBytes m (src + w) bufBlkSize)) =
      copied m src (w + bufBlkSize) := by
  have hfit : w % PAGE_SIZE + (readBytes m (src + w) bufBlkSize).length ≤ PAGE_SIZE := by
    rw [length_readBytes]
    simp only [PAGE_SIZE, bufBlkSize] at *
    omega
  have hup : sectorUp (w + bufBlkSize) = sectorUp (w + 1) := by
    simp only [sectorUp, bufBlkSize, FLASH_SECTOR_SIZE] at *
    omega
  rw [runCmd_program_of_fit _ hfit]
  funext x
  rcases Nat.lt_or_ge x w with hlt | hge
  · rw [programAt_of_lt _ hlt]
    unfold opened copied
    rw [if_pos hlt, if_pos (Nat.lt_add_right _ hlt)]
  · rcases Nat.lt_or_ge x (w + bufBlkSize) with hlt' | hge'
    · rcases Nat.exists_eq_add_of_le hge with ⟨i, rfl⟩
      have hi : i < bufBlkSize := Nat.lt_of_add_lt_add_left hlt'
      rw [programAt_blank _ (opened_blank hpage hi), getD_readBytes _ hi]
      unfold copied
      rw [if_pos hlt', Nat.add_assoc]
    · rw [programAt_of_ge (by rw [length_readBytes]; exact hge')]
      unfold opened copied
      rw [if_neg (Nat.not_lt.mpr hge), if_neg (Nat.not_lt.mpr hge'), hup]

/-- The block that is read is still the one of the image. -/
theorem readBytes_opened {m : Mem} {src w : Nat} (hsrc : FLASH_SECTOR_SIZE ≤ src) :
    readBytes (opened m src w) (src + w) bufBlkSize = readBytes m (src + w) bufBlkSize := by
  apply readBytes_congr
  intro i hi
  unfold opened
  have hlow : ¬ src + w + i < w := by omega
  have hhigh : ¬ src + w + i < sectorUp (w + 1) := by
    simp only [sectorUp, FLASH_SECTOR_SIZE] at *
    omega
  rw [if_neg hlow, if_neg hhigh]

theorem runCmds_blockCmds {m : Mem} {src w : Nat} (hpage : w % bufBlkSize = 0) :
    runCmds geometry (copied m src w) (blockCmds m src w) = copied m src (w + bufBlkSize) := by
  rw [blockCmds, runCmds_append, runCmds_open, runCmds_cons, runCmds_cons, runCmds_nil]
  exact runCmd_block hpage

/-- The first block is a block like the others. -/
theorem copied_zero (m : Mem) (src : Nat) : copied m src 0 = m := by
  funext x
  unfold copied
  rw [if_neg (Nat.not_lt_zero x), if_neg (by simp [sectorUp, FLASH_SECTOR_SIZE])]

/-- The memory behind so many blocks. -/
theorem runCmds_copyCmds (m : Mem) (src n : Nat) :
    runCmds geometry m (copyCmds m src n) = copied m src (bufBlkSize * (n + 1)) := by
  induction n with
  | zero =>
      have hopen := runCmds_open m src 0
      rw [copied_zero, openCmds, if_pos (Nat.zero_mod _), runCmds_cons, runCmds_nil] at hopen
      have hblock := @runCmd_block m src 0 (Nat.zero_mod _)
      rw [Nat.add_zero, Nat.zero_add] at hblock
      rw [copyCmds, BIG_OTA1_FADDR, runCmds_cons, runCmds_cons, runCmds_nil, hopen, hblock,
        Nat.zero_add, Nat.mul_one]
  | succ n ih =>
      rw [copyCmds, runCmds_append, ih, runCmds_blockCmds (Nat.mul_mod_right _ _)]
      rfl

/-! ## Discipline of the copy -/

theorem headCmds_not_alters (src : Nat) : ∀ c ∈ headCmds src, ∀ x, ¬ c.Alters geometry x := by
  intro c hc x
  unfold headCmds at hc
  split at hc
  · simp only [List.mem_append, List.mem_cons, List.not_mem_nil, or_false] at hc
    rcases hc with ((rfl | rfl) | rfl) | rfl <;> exact id
  · simp only [List.mem_append, List.mem_cons, List.not_mem_nil, or_false] at hc
    rcases hc with (rfl | rfl) | rfl <;> exact id

theorem runCmds_headCmds (m : Mem) (src : Nat) : runCmds geometry m (headCmds src) = m := by
  funext x
  exact runCmds_frame m fun c hc => headCmds_not_alters src c hc x

/-- An erase stays in the sector of its address. -/
theorem erase_alters {w x : Nat} (hx : (Cmd.erase w).Alters geometry x) :
    x < sectorUp (w + 1) := by
  have hdiv : x / 4096 = w / 4096 := hx
  simp only [sectorUp, FLASH_SECTOR_SIZE]
  omega

/-- A program stays in the page of its address. -/
theorem program_alters {w x : Nat} {bytes : List UInt8}
    (hx : (Cmd.program w bytes).Alters geometry x) : x < sectorUp (w + 1) := by
  have hdiv : x / 256 = w / 256 := hx.2.1
  simp only [sectorUp, FLASH_SECTOR_SIZE]
  omega

theorem openCmds_alters {w x : Nat} {c : Cmd} (hc : c ∈ openCmds w)
    (hx : c.Alters geometry x) : x < sectorUp (w + 1) := by
  unfold openCmds at hc
  split at hc
  · rw [List.mem_singleton.mp hc] at hx
    exact erase_alters hx
  · cases hc

theorem blockCmds_alters {m : Mem} {src w x : Nat} {c : Cmd} (hc : c ∈ blockCmds m src w)
    (hx : c.Alters geometry x) : x < sectorUp (w + 1) := by
  unfold blockCmds at hc
  rcases List.mem_append.mp hc with hopen | hblock
  · exact openCmds_alters hopen hx
  · simp only [List.mem_cons, List.not_mem_nil, or_false] at hblock
    rcases hblock with rfl | rfl
    · exact hx.elim
    · exact program_alters hx

/-- The copy of so many blocks stays in the sectors it erases. -/
theorem copyCmds_alters {m : Mem} {src n x : Nat} {c : Cmd} (hc : c ∈ copyCmds m src n)
    (hx : c.Alters geometry x) : x < sectorUp (bufBlkSize * n + 1) := by
  induction n with
  | zero =>
      simp only [copyCmds, List.mem_cons, List.not_mem_nil, or_false] at hc
      rcases hc with rfl | rfl
      · exact erase_alters hx
      · exact program_alters hx
  | succ n ih =>
      rcases List.mem_append.mp hc with hcopy | hblock
      · apply Nat.lt_of_lt_of_le (ih hcopy)
        apply sectorUp_mono
        exact Nat.succ_le_succ (Nat.mul_le_mul_left _ (Nat.le_succ n))
      · exact blockCmds_alters hblock hx

/-- What comes before the read of a block stays in the sectors up to its own. -/
theorem before_read_alters {m : Mem} {src n x : Nat} {c : Cmd}
    (hc : c ∈ headCmds src ++ copyCmds m src n ++ openCmds (bufBlkSize * (n + 1)))
    (hx : c.Alters geometry x) : x < sectorUp (bufBlkSize * (n + 1) + 1) := by
  rcases List.mem_append.mp hc with hc | hopen
  · rcases List.mem_append.mp hc with hhead | hcopy
    · exact absurd hx (headCmds_not_alters src c hhead x)
    · apply Nat.lt_of_lt_of_le (copyCmds_alters hcopy hx)
      apply sectorUp_mono
      exact Nat.succ_le_succ (Nat.mul_le_mul_left _ (Nat.le_succ n))
  · exact openCmds_alters hopen hx

/-- The destination never reaches what is still to be read. -/
theorem readsUndisturbed_copyCmds {m : Mem} {src : Nat} (hsrc : FLASH_SECTOR_SIZE ≤ src) (n : Nat) :
    ReadsUndisturbed geometry (headCmds src ++ copyCmds m src n) := by
  induction n with
  | zero =>
      have hhead := readsUndisturbed_of_not_alters (headCmds_not_alters src)
      have herase := hhead.snoc_other (d := .erase BIG_OTA1_FADDR) (by simp)
      have hprogram := herase.snoc_other
        (d := .program BIG_OTA1_FADDR (readBytes m src bufBlkSize)) (by simp)
      rw [List.append_assoc] at hprogram
      exact hprogram
  | succ n ih =>
      have hopen : ReadsUndisturbed geometry
          (headCmds src ++ copyCmds m src n ++ openCmds (bufBlkSize * (n + 1))) := by
        unfold openCmds
        split
        · exact ih.snoc_other (by simp)
        · rw [List.append_nil]
          exact ih
      have hread := hopen.snoc (d := .read (src + bufBlkSize * (n + 1)) bufBlkSize) (by
        rintro addr len hcmd c hc i - hx
        cases hcmd
        have hlt := before_read_alters hc hx
        have hle := sectorUp_succ_le (bufBlkSize * (n + 1))
        omega)
      have hprogram := hread.snoc_other (d := .program (bufBlkSize * (n + 1))
        (readBytes m (src + bufBlkSize * (n + 1)) bufBlkSize)) (by simp)
      rw [copyCmds, blockCmds]
      simpa only [List.append_assoc, List.cons_append, List.nil_append] using hprogram

/-- Every block is programmed into erased cells. -/
theorem programsErased_copyCmds (m : Mem) (src n : Nat) :
    ProgramsErased geometry m (headCmds src ++ copyCmds m src n) := by
  rw [programsErased_append, runCmds_headCmds]
  constructor
  · unfold headCmds
    split
    · exact ⟨trivial, trivial, trivial, trivial, trivial⟩
    · exact ⟨trivial, trivial, trivial, trivial⟩
  · induction n with
    | zero =>
        have hopen := runCmds_open m src 0
        rw [copied_zero, openCmds, if_pos (Nat.zero_mod _), runCmds_cons, runCmds_nil] at hopen
        refine ⟨trivial, fun i hi => ?_, trivial⟩
        rw [length_readBytes] at hi
        rw [BIG_OTA1_FADDR, hopen]
        exact opened_blank (Nat.zero_mod _) hi
    | succ n ih =>
        rw [copyCmds, programsErased_append]
        refine ⟨ih, ?_⟩
        rw [runCmds_copyCmds, blockCmds, programsErased_append, runCmds_open]
        constructor
        · unfold openCmds
          split
          · exact ⟨trivial, trivial⟩
          · exact trivial
        · refine ⟨trivial, fun i hi => ?_, trivial⟩
          rw [length_readBytes] at hi
          exact opened_blank (Nat.mul_mod_right _ _) hi

/-! ## The loop -/

/-- The loop has copied the first blocks. -/
structure Copying (chip : Chip) (m : Mem) (src size : Nat) (s : Copy) (n : Nat) : Prop where
  bound : bufBlkSize * (n + 1) ≤ size
  faddrr : s.faddrr = src + bufBlkSize * (n + 1)
  faddrw : s.faddrw = bufBlkSize * (n + 1)
  chip_run : s.chip = chip.run geometry (headCmds src ++ copyCmds m src n)

/-- One pass of the loop gives the commands of its block. -/
theorem pass_run {chip : Chip} {m : Mem} {src w : Nat} (hmem : chip.mem = copied m src w)
    (hpage : w % bufBlkSize = 0) (hsrc : FLASH_SECTOR_SIZE ≤ src) :
    flashWritePage
        (flashReadPage (if w % FLASH_SECTOR_SIZE = 0 then flashEraseSector chip w else chip)
          (src + w) bufBlkSize).2 w
        (flashReadPage (if w % FLASH_SECTOR_SIZE = 0 then flashEraseSector chip w else chip)
          (src + w) bufBlkSize).1 =
      chip.run geometry (blockCmds m src w) := by
  have hopen : (if w % FLASH_SECTOR_SIZE = 0 then flashEraseSector chip w else chip) =
      chip.run geometry (openCmds w) := by
    unfold openCmds
    split
    · rfl
    · rfl
  have hopened : (chip.run geometry (openCmds w)).mem = opened m src w := by
    rw [Chip.run_mem, hmem, runCmds_open]
  have hfit : w % PAGE_SIZE + (readBytes m (src + w) bufBlkSize).length ≤ PAGE_SIZE := by
    rw [length_readBytes]
    simp only [PAGE_SIZE, bufBlkSize] at *
    omega
  rw [hopen]
  simp only [flashReadPage, hopened, readBytes_opened hsrc]
  rw [flashWritePage_of_fit _ hfit, blockCmds, Chip.run_append]
  rfl

theorem copyPass_continue {chip : Chip} {src size : Nat} {s s' : Copy}
    (hsrc : FLASH_SECTOR_SIZE ≤ src) (hsize : size % bufBlkSize = 0)
    (hs : ∃ n, Copying chip chip.mem src size s n) (hbody : copyPass size s = .inl s') :
    (∃ n, Copying chip chip.mem src size s' n) ∧
      (size - s'.faddrw) / bufBlkSize < (size - s.faddrw) / bufBlkSize := by
  rcases hs with ⟨n, hs⟩
  unfold copyPass at hbody
  split at hbody
  · rename_i hlt
    dsimp only at hbody
    have hpage : bufBlkSize * (n + 1) % bufBlkSize = 0 := Nat.mul_mod_right _ _
    have hmem : s.chip.mem = copied chip.mem src (bufBlkSize * (n + 1)) := by
      rw [hs.chip_run, Chip.run_mem, runCmds_append, runCmds_headCmds, runCmds_copyCmds]
    rw [hs.faddrr, hs.faddrw, pass_run hmem hpage hsrc, hs.chip_run, ← Chip.run_append] at hbody
    rw [hs.faddrw] at hlt
    have hnext : bufBlkSize * (n + 1 + 1) ≤ size := by
      simp only [bufBlkSize] at *
      omega
    cases hbody
    have hsucc : bufBlkSize * (n + 1 + 1) = bufBlkSize * (n + 1) + bufBlkSize :=
      Nat.mul_succ bufBlkSize (n + 1)
    refine ⟨⟨n + 1, hnext, ?_, hsucc.symm, ?_⟩, ?_⟩
    · rw [hsucc, Nat.add_assoc]
    · rw [copyCmds, ← List.append_assoc]
    · rw [hs.faddrw]
      rw [hsucc] at hnext
      simp only [bufBlkSize] at *
      omega
  · cases hbody

theorem copyPass_exit {chip : Chip} {src size : Nat} {s s' : Copy}
    (hs : ∃ n, Copying chip chip.mem src size s n) (hbody : copyPass size s = .inr s') :
    s'.chip = chip.run geometry
      (headCmds src ++ copyCmds chip.mem src (size / bufBlkSize - 1)) := by
  rcases hs with ⟨n, hs⟩
  have hbound := hs.bound
  unfold copyPass at hbody
  split at hbody
  · cases hbody
  · rename_i hend
    cases hbody
    have hn : n = size / bufBlkSize - 1 := by
      rw [hs.faddrw] at hend
      simp only [bufBlkSize] at *
      omega
    rw [← hn]
    exact hs.chip_run

/-! ## The whole function -/

/-- All the commands of an accepted firmware. -/
def otaCmds (m : Mem) (src : Nat) : List Cmd := loopCmds m src ++ idCmd :: macCmds

/-- The search finds the firmware and reads only. -/
theorem searchFirmware_eq {chip : Chip} {src : Nat} (hfinds : Finds chip.mem src) :
    searchFirmware chip = (some src, chip.run geometry
      (.read ZIGBEE_BOOT_OTA_FADDR 16 ::
        if src = OTA2_FADDR then [.read OTA2_FADDR 16] else [])) := by
  have hword : ∀ addr, u32At (readBytes chip.mem addr 16) 2 = memU32 chip.mem (addr + 8) :=
    fun addr => u32At_readBytes chip.mem addr (by decide)
  unfold searchFirmware
  rcases hfinds with ⟨rfl, hid⟩ | ⟨rfl, hno, hid⟩
  · have hne : ZIGBEE_BOOT_OTA_FADDR ≠ OTA2_FADDR := by decide
    simp only [flashReadPage, hword, hid, ne_eq, not_true_eq_false, if_false, if_neg hne]
    rfl
  · have hmem : (chip.exec geometry (.read ZIGBEE_BOOT_OTA_FADDR 16)).mem = chip.mem := rfl
    simp only [flashReadPage, hword, hmem, hid, hno, ne_eq, not_true_eq_false, not_false_eq_true,
      if_true, if_false]
    rfl

/-- The header is read when the search is over. -/
theorem head_run {chip : Chip} {src : Nat} :
    flashReadPage ((flashWriteStatus chip 0).run geometry
        (.read ZIGBEE_BOOT_OTA_FADDR 16 :: if src = OTA2_FADDR then [.read OTA2_FADDR 16] else []))
        src bufBlkSize =
      (readBytes chip.mem src bufBlkSize, chip.run geometry (headCmds src)) := by
  unfold headCmds
  split
  · rfl
  · rfl

/-- The loop copies all the blocks behind the first one. -/
theorem copy_total {chip : Chip} {src : Nat} (haccepts : Accepts chip.mem src) :
    ∃ s, Loop.run (copyPass (imageSize chip.mem src)) copyFuel
        { chip := chip.run geometry (headCmds src ++ copyCmds chip.mem src 0)
          faddrr := src + bufBlkSize
          faddrw := bufBlkSize } = some s ∧
      s.chip = chip.run geometry (loopCmds chip.mem src) := by
  have hsrc : FLASH_SECTOR_SIZE ≤ src := Nat.le_trans (by decide) haccepts.src_ge
  rcases haccepts.imageSize_bounds with ⟨hmin, hmax, hsectors⟩
  have hblocks : imageSize chip.mem src % bufBlkSize = 0 := by
    simp only [FLASH_SECTOR_SIZE, bufBlkSize] at *
    omega
  refine Loop.run_total (fun s => ∃ n, Copying chip chip.mem src (imageSize chip.mem src) s n)
    (fun s => (imageSize chip.mem src - s.faddrw) / bufBlkSize) _
    (fun _ _ => copyPass_continue hsrc hblocks) (fun _ _ => copyPass_exit) ⟨0, ?_⟩ ?_
  · refine ⟨?_, rfl, rfl, rfl⟩
    simp only [bufBlkSize]
    omega
  · simp only [BIN_SIZE_MAX_OTA, bufBlkSize, copyFuel] at *
    omega

/-- The function gives an accepted firmware these commands and resets the chip. -/
theorem tuyaZigbeeOta_eq {chip : Chip} {src : Nat} (haccepts : Accepts chip.mem src) :
    tuyaZigbeeOta chip = some (.reset (chip.run geometry (otaCmds chip.mem src))) := by
  have hsearch := @searchFirmware_eq (flashWriteStatus chip 0) src haccepts.finds
  have hid : u32At (readBytes chip.mem src bufBlkSize) 2 = ID_BOOTABLE := by
    rw [u32At_readBytes _ _ (by decide)]
    exact haccepts.bootable
  have hsize : u32At (readBytes chip.mem src bufBlkSize) 6 = memU32 chip.mem (src + 24) :=
    u32At_readBytes _ _ (by decide)
  have hheader : setU32 (readBytes chip.mem src bufBlkSize) 2
      (u32At (readBytes chip.mem src bufBlkSize) 2 &&& 0xffffffff) =
      readBytes chip.mem src bufBlkSize := by
    rw [u32At_mask]
    apply setU32_u32At
    rw [length_readBytes]
    decide
  have hfirst : flashWritePage (flashEraseSector (chip.run geometry (headCmds src)) BIG_OTA1_FADDR)
      BIG_OTA1_FADDR (readBytes chip.mem src bufBlkSize) =
      chip.run geometry (headCmds src ++ copyCmds chip.mem src 0) := by
    have hfit : BIG_OTA1_FADDR % PAGE_SIZE + (readBytes chip.mem src bufBlkSize).length ≤
        PAGE_SIZE := by
      rw [length_readBytes]
      decide
    rw [flashWritePage_of_fit _ hfit, Chip.run_append]
    rfl
  have hmark : ∀ chip : Chip,
      flashWritePage chip (BIG_OTA1_FADDR + 8) (u32Bytes ID_BOOTABLE) = chip.exec geometry idCmd :=
    fun chip => flashWritePage_of_fit chip (by decide)
  rcases copy_total haccepts with ⟨s, hloop, hchip⟩
  have hgood : u32At (readBytes chip.mem src bufBlkSize) 2 = ID_BOOTABLE ∧
      u32At (readBytes chip.mem src bufBlkSize) 6 > FLASH_SECTOR_SIZE ∧
      u32At (readBytes chip.mem src bufBlkSize) 6 < BIN_SIZE_MAX_OTA := by
    rw [hsize]
    exact ⟨hid, haccepts.above, haccepts.below⟩
  unfold tuyaZigbeeOta
  simp only [hsearch, head_run]
  rw [if_pos hgood, hheader, hsize, hfirst]
  have hzero : BIG_OTA1_FADDR + bufBlkSize = bufBlkSize := rfl
  have hround : (memU32 chip.mem (src + 24) + (FLASH_SECTOR_SIZE - 1)) / FLASH_SECTOR_SIZE *
      FLASH_SECTOR_SIZE + BIG_OTA1_FADDR = imageSize chip.mem src := by
    rw [imageSize, BIG_OTA1_FADDR, Nat.add_zero]
  rw [hzero, hround, hloop, Option.bind_eq_bind, Option.bind_some, Option.pure_def, hmark, hchip,
    otaCmds, Chip.run_append]
  rfl

/-! ## The result -/

theorem runCmds_loopCmds {m : Mem} {src : Nat} (haccepts : Accepts m src) :
    runCmds geometry m (loopCmds m src) = copied m src (imageSize m src) := by
  rcases haccepts.imageSize_bounds with ⟨hmin, -, hsectors⟩
  have hblocks : bufBlkSize * (imageSize m src / bufBlkSize - 1 + 1) = imageSize m src := by
    simp only [FLASH_SECTOR_SIZE, bufBlkSize] at *
    omega
  rw [loopCmds, runCmds_append, runCmds_headCmds, runCmds_copyCmds, hblocks]

/-- A word of the flash, as bytes. -/
theorem u32Bytes_memU32 (m : Mem) (addr : Nat) :
    u32Bytes (memU32 m addr) = [m addr, m (addr + 1), m (addr + 2), m (addr + 3)] := by
  rw [memU32_eq, u32Bytes_of_bytes]

/-- The mark is already there, so programming it changes nothing. -/
theorem runCmd_idCmd {m m' : Mem} {src : Nat} (haccepts : Accepts m src)
    (hcopy : ∀ x, x < 12 → m' x = m (src + x)) : runCmd geometry m' idCmd = m' := by
  have hbytes : u32Bytes ID_BOOTABLE = [m' 8, m' 9, m' 10, m' 11] := by
    rw [← haccepts.bootable, u32Bytes_memU32, hcopy 8 (by decide), hcopy 9 (by decide),
      hcopy 10 (by decide), hcopy 11 (by decide)]
  have hprogram : runCmd geometry m' idCmd = programAt m' 8 [m' 8, m' 9, m' 10, m' 11] := by
    rw [← hbytes]
    exact runCmd_program_of_fit m' (by decide)
  rw [hprogram]
  funext x
  rw [programAt_apply]
  split
  · rename_i hge
    rcases Nat.exists_eq_add_of_le hge with ⟨i, rfl⟩
    rw [Nat.add_sub_cancel_left]
    match i with
    | 0 | 1 | 2 | 3 => exact UInt8.and_self
    | i + 4 => exact and_blank _
  · rfl

theorem macCmds_frame {m : Mem} {x : Nat} (hx : x < BIN_SIZE_MAX_OTA) :
    runCmds geometry m macCmds x = m x := by
  apply runCmds_frame
  intro c hc hx'
  simp only [macCmds, List.mem_cons, List.not_mem_nil, or_false] at hc
  simp only [BIN_SIZE_MAX_OTA] at hx
  rcases hc with rfl | rfl
  · have hdiv : x / 4096 = 0x076000 / 4096 := hx'
    omega
  · have hdiv : x / 4096 = 0x0ff000 / 4096 := hx'
    omega

/-- From every flash with an accepted firmware: behind the mark, and when the chip is
reset, the beginning of the flash holds the image as it was; every block was
programmed into erased cells, and no byte was altered before it was read. -/
theorem migration_copies_image (chip : Chip) (src : Nat) (haccepts : Accepts chip.mem src) :
    ∃ chip' copy, tuyaZigbeeOta chip = some (.reset chip') ∧
      issued chip chip' = copy ++ idCmd :: macCmds ∧
      (∀ x, x < imageSize chip.mem src →
        runCmds geometry chip.mem (copy ++ [idCmd]) x = chip.mem (src + x) ∧
          chip'.mem x = chip.mem (src + x)) ∧
      ProgramsErased geometry chip.mem copy ∧ ReadsUndisturbed geometry (issued chip chip') := by
  have hsrc : FLASH_SECTOR_SIZE ≤ src := Nat.le_trans (by decide) haccepts.src_ge
  rcases haccepts.imageSize_bounds with ⟨hmin, hmax, -⟩
  have hcopied : ∀ x, x < imageSize chip.mem src →
      copied chip.mem src (imageSize chip.mem src) x = chip.mem (src + x) :=
    fun x hx => if_pos hx
  have hmarked : runCmds geometry chip.mem (loopCmds chip.mem src ++ [idCmd]) =
      copied chip.mem src (imageSize chip.mem src) := by
    rw [runCmds_append, runCmds_loopCmds haccepts, runCmds_cons, runCmds_nil]
    exact runCmd_idCmd haccepts fun x hx => hcopied x (by omega)
  have hissued : issued chip (chip.run geometry (otaCmds chip.mem src)) =
      loopCmds chip.mem src ++ idCmd :: macCmds := issued_run _ _ _
  refine ⟨_, loopCmds chip.mem src, tuyaZigbeeOta_eq haccepts, hissued, fun x hx => ⟨?_, ?_⟩,
    programsErased_copyCmds _ _ _, ?_⟩
  · rw [hmarked]
    exact hcopied x hx
  · have hall : otaCmds chip.mem src = loopCmds chip.mem src ++ [idCmd] ++ macCmds := by
      rw [otaCmds, List.append_assoc]
      rfl
    rw [Chip.run_mem, hall, runCmds_append, hmarked, macCmds_frame (Nat.lt_of_lt_of_le hx hmax)]
    exact hcopied x hx
  · have hcopy := readsUndisturbed_copyCmds (m := chip.mem) hsrc
      (imageSize chip.mem src / bufBlkSize - 1)
    have hid := hcopy.snoc_other (d := idCmd) (by simp [idCmd])
    have hmac := (hid.snoc_other (d := .erase ZIGBEE_MAC_FADDR) (by simp)).snoc_other
      (d := .erase ZIGBEE_MAC_FADDR_1M) (by simp)
    rw [hissued]
    simpa only [loopCmds, macCmds, List.append_assoc, List.cons_append, List.nil_append] using hmac

/-- The header of an image of two sectors, and a byte of its second block. -/
def imageMem : Mem :=
  programAt (programAt (programAt Chip.erased.mem (ZIGBEE_BOOT_OTA_FADDR + 8)
    (u32Bytes ID_BOOTABLE)) (ZIGBEE_BOOT_OTA_FADDR + 24) (u32Bytes 0x2000))
    (ZIGBEE_BOOT_OTA_FADDR + 256) [0]

def imageChip : Chip where
  mem := imageMem
  trace := []

theorem accepts_imageChip : Accepts imageChip.mem ZIGBEE_BOOT_OTA_FADDR := by
  refine ⟨Or.inl ⟨rfl, ?_⟩, ?_, ?_⟩
  · decide
  · decide
  · decide

/-- The image of two sectors is copied. -/
theorem migration_copies_image_small :
    ∃ chip', tuyaZigbeeOta imageChip = some (.reset chip') ∧
      ∀ x, x < imageSize imageChip.mem ZIGBEE_BOOT_OTA_FADDR →
        chip'.mem x = imageChip.mem (ZIGBEE_BOOT_OTA_FADDR + x) := by
  rcases migration_copies_image imageChip ZIGBEE_BOOT_OTA_FADDR accepts_imageChip with
    ⟨chip', copy, hrun, -, hcopied, -, -⟩
  exact ⟨chip', hrun, fun x hx => (hcopied x hx).2⟩

end ZigbeeOta
