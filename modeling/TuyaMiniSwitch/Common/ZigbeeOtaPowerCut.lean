import TuyaMiniSwitch.Common.ZigbeeOtaCopy

/-!
# Common - Power cuts during the migration

The destination is to be marked bootable when the copy is complete.  But the mask
that is meant to clear the mark of the first block keeps every bit of it, so the
mark is there as soon as twelve bytes are programmed, and stays there during the
whole copy.

Main results:

- Theorem {lit}`migration_not_power_safe`: every accepted firmware can be marked
  bootable before it is copied.
-/

namespace ZigbeeOta

open NorFlash FlashDriver

/-- Behind a cut, a beginning of the flash that this run erased is marked bootable
only if it holds the whole image. -/
def CutSafe (chip chip' : Chip) (src n k : Nat) : Prop :=
  .erase BIG_OTA1_FADDR ∈ cutCmds (issued chip chip') n k →
  memU32 (runCmds geometry chip.mem (cutCmds (issued chip chip') n k)) (BIG_OTA1_FADDR + 8) =
    ID_BOOTABLE →
  ∀ x, x < imageSize chip.mem src →
    runCmds geometry chip.mem (cutCmds (issued chip chip') n k) x = chip.mem (src + x)

/-! ## The first block -/

/-- The commands behind the erase of the first sector. -/
theorem otaCmds_eq (m : Mem) (src : Nat) :
    ∃ c after, otaCmds m src = headCmds src ++ copyCmds m src 0 ++ c :: after := by
  have hcopy : ∀ n, ∃ rest, copyCmds m src n = copyCmds m src 0 ++ rest := by
    intro n
    induction n with
    | zero => exact ⟨[], (List.append_nil _).symm⟩
    | succ n ih =>
        rcases ih with ⟨rest, hrest⟩
        refine ⟨rest ++ blockCmds m src (bufBlkSize * (n + 1)), ?_⟩
        show copyCmds m src n ++ _ = _
        rw [hrest, List.append_assoc]
  rcases hcopy (imageSize m src / bufBlkSize - 1) with ⟨rest, hrest⟩
  unfold otaCmds loopCmds
  rw [hrest]
  cases rest with
  | nil => exact ⟨idCmd, macCmds, by rw [List.append_nil]⟩
  | cons c rest => exact ⟨c, rest ++ idCmd :: macCmds, by simp⟩

/-- The first sector is erased. -/
theorem runCmds_erased (m : Mem) (src : Nat) :
    runCmds geometry m (headCmds src ++ [.erase BIG_OTA1_FADDR]) = opened m src 0 := by
  have hopen := runCmds_open m src 0
  rw [copied_zero, openCmds, if_pos (Nat.zero_mod _)] at hopen
  rw [runCmds_append, runCmds_headCmds]
  exact hopen

/-- The first sector when only twelve bytes of the first block were programmed. -/
theorem runCmds_torn {m : Mem} {src x : Nat} (hx : x < FLASH_SECTOR_SIZE) :
    runCmds geometry m (headCmds src ++ [.erase BIG_OTA1_FADDR] ++
        [.program BIG_OTA1_FADDR ((readBytes m src bufBlkSize).take 12)]) x =
      if x < 12 then m (src + x) else blank := by
  have hlen : ((readBytes m src bufBlkSize).take 12).length = 12 := by
    rw [List.length_take, length_readBytes]
    rfl
  have hfit : BIG_OTA1_FADDR % PAGE_SIZE + ((readBytes m src bufBlkSize).take 12).length ≤
      PAGE_SIZE := by
    rw [hlen]
    decide
  have hblank : opened m src 0 (0 + x) = blank := by
    have hup : sectorUp (0 + 1) = FLASH_SECTOR_SIZE := rfl
    unfold opened
    rw [Nat.zero_add, if_neg (Nat.not_lt_zero x), hup, if_pos hx]
  rw [runCmds_append, runCmds_erased, runCmds_cons, runCmds_nil, runCmd_program_of_fit _ hfit]
  have hprogram := programAt_blank ((readBytes m src bufBlkSize).take 12) hblank
  rw [Nat.zero_add] at hprogram
  rw [BIG_OTA1_FADDR, hprogram]
  split
  · rename_i hlt
    have hbyte : x < bufBlkSize := Nat.lt_trans hlt (by decide)
    rw [List.getD_eq_getElem?_getD, List.getElem?_take_of_lt hlt, ← List.getD_eq_getElem?_getD,
      getD_readBytes _ hbyte]
  · rename_i hge
    rw [List.getD_eq_default _ _ (by omega)]

/-- The image is not complete: its size is not there. -/
theorem size_missing {m : Mem} {src : Nat} (haccepts : Accepts m src) : m (src + 27) ≠ blank := by
  intro hblank
  have hbelow := haccepts.below
  rw [memU32_eq, Nat.add_assoc, hblank] at hbelow
  have hff : blank.toNat = 255 := rfl
  rw [hff, BIN_SIZE_MAX_OTA] at hbelow
  omega

/-- The memory in which only the first block was copied. -/
theorem copied_rest {m : Mem} {src x : Nat} (hle : bufBlkSize ≤ x) (hlt : x < FLASH_SECTOR_SIZE) :
    copied m src bufBlkSize x = blank := by
  have hup : sectorUp bufBlkSize = FLASH_SECTOR_SIZE := rfl
  unfold copied
  rw [if_neg (Nat.not_lt.mpr hle), hup, if_pos hlt]

/-! ## Two cuts -/

theorem issued_ota (chip : Chip) (src : Nat) :
    issued chip (chip.run geometry (otaCmds chip.mem src)) = otaCmds chip.mem src :=
  issued_run _ _ _

/-- Power fails when the mark of the first block has been programmed. -/
theorem not_cutSafe_torn {chip : Chip} {src : Nat} (haccepts : Accepts chip.mem src) :
    ¬ CutSafe chip (chip.run geometry (otaCmds chip.mem src)) src
      (headCmds src ++ [Cmd.erase BIG_OTA1_FADDR]).length 12 := by
  rcases otaCmds_eq chip.mem src with ⟨c, after, hcmds⟩
  rcases haccepts.imageSize_bounds with ⟨hmin, -, -⟩
  have hsplit : otaCmds chip.mem src = headCmds src ++ [Cmd.erase BIG_OTA1_FADDR] ++
      .program BIG_OTA1_FADDR (readBytes chip.mem src bufBlkSize) :: c :: after := by
    rw [hcmds, copyCmds]
    simp
  have hmem : ∀ x, x < FLASH_SECTOR_SIZE → runCmds geometry chip.mem
      (headCmds src ++ [.erase BIG_OTA1_FADDR] ++ Cmd.torn 12
        (.program BIG_OTA1_FADDR (readBytes chip.mem src bufBlkSize))) x =
      if x < 12 then chip.mem (src + x) else blank :=
    fun x hx => runCmds_torn hx
  have hmarked : memU32 (runCmds geometry chip.mem
      (headCmds src ++ [.erase BIG_OTA1_FADDR] ++ Cmd.torn 12
        (.program BIG_OTA1_FADDR (readBytes chip.mem src bufBlkSize)))) (BIG_OTA1_FADDR + 8) =
      ID_BOOTABLE := by
    rw [← haccepts.bootable, memU32_eq, memU32_eq, hmem _ (by decide), hmem _ (by decide),
      hmem _ (by decide), hmem _ (by decide)]
    rfl
  unfold CutSafe
  rw [issued_ota, hsplit, cutCmds_split]
  intro hsafe
  have hcopied := hsafe (by simp) hmarked 27 (by omega)
  rw [hmem 27 (by decide)] at hcopied
  exact size_missing haccepts hcopied.symm

/-- Power fails when the first block has been programmed, and the image goes on. -/
theorem not_cutSafe_between {chip : Chip} {src x : Nat} (haccepts : Accepts chip.mem src)
    (hle : bufBlkSize ≤ x) (hlt : x < FLASH_SECTOR_SIZE) (hx : chip.mem (src + x) ≠ blank) :
    ¬ CutSafe chip (chip.run geometry (otaCmds chip.mem src)) src
      (headCmds src ++ copyCmds chip.mem src 0).length 0 := by
  rcases otaCmds_eq chip.mem src with ⟨c, after, hcmds⟩
  rcases haccepts.imageSize_bounds with ⟨hmin, -, -⟩
  have hsize : x < imageSize chip.mem src := by
    rw [FLASH_SECTOR_SIZE] at hlt
    omega
  have hmarked : memU32 (copied chip.mem src bufBlkSize) (BIG_OTA1_FADDR + 8) = ID_BOOTABLE := by
    rw [← haccepts.bootable, memU32_eq, memU32_eq]
    rfl
  have hmem : Cmd.erase BIG_OTA1_FADDR ∈ headCmds src ++ copyCmds chip.mem src 0 ++ c.torn 0 := by
    simp [copyCmds]
  unfold CutSafe
  rw [issued_ota, hcmds, runCmds_cutCmds_zero, cutCmds_split, runCmds_append, runCmds_headCmds,
    runCmds_copyCmds, Nat.zero_add, Nat.mul_one]
  intro hsafe
  have hcopied := hsafe hmem hmarked x hsize
  rw [copied_rest hle hlt] at hcopied
  exact hx hcopied.symm

/-- For every flash with an accepted firmware, power can fail so that the flash is
marked bootable without the image; if the first sector of the image goes on behind
its first block, it can do so between two commands. -/
theorem migration_not_power_safe (chip : Chip) (src : Nat) (haccepts : Accepts chip.mem src) :
    ∃ chip', tuyaZigbeeOta chip = some (.reset chip') ∧
      (∃ n k, ¬ CutSafe chip chip' src n k) ∧
      ((∃ x, bufBlkSize ≤ x ∧ x < FLASH_SECTOR_SIZE ∧ chip.mem (src + x) ≠ blank) →
        ∃ n, ¬ CutSafe chip chip' src n 0) := by
  refine ⟨_, tuyaZigbeeOta_eq haccepts, ⟨_, _, not_cutSafe_torn haccepts⟩, ?_⟩
  rintro ⟨x, hle, hlt, hx⟩
  exact ⟨_, not_cutSafe_between haccepts hle hlt hx⟩

/-- The image of two sectors. -/
theorem migration_not_power_safe_small :
    ∃ chip', tuyaZigbeeOta imageChip = some (.reset chip') ∧
      ∃ n k, ¬ CutSafe imageChip chip' ZIGBEE_BOOT_OTA_FADDR n k := by
  rcases migration_not_power_safe imageChip ZIGBEE_BOOT_OTA_FADDR accepts_imageChip with
    ⟨chip', hrun, hcut, -⟩
  exact ⟨chip', hrun, hcut⟩

/-- With that image, power fails between the fifth command and the sixth: the first
block is there with its mark, and the rest of the first sector is erased. -/
theorem migration_cut_marked :
    ∃ chip', tuyaZigbeeOta imageChip = some (.reset chip') ∧
      ¬ CutSafe imageChip chip' ZIGBEE_BOOT_OTA_FADDR 5 0 := by
  have hbyte : imageChip.mem (ZIGBEE_BOOT_OTA_FADDR + 256) ≠ blank := by decide
  exact ⟨_, tuyaZigbeeOta_eq accepts_imageChip,
    not_cutSafe_between accepts_imageChip (by decide) (by decide) hbyte⟩

end ZigbeeOta
