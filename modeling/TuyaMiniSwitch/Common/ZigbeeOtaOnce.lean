import TuyaMiniSwitch.Common.ZigbeeOtaCopy

/-!
# Common - How often the firmware migrates

{lit}`main` calls {lit}`tuya_zigbee_ota` when the word behind the boot loader's offset is
the mark of a firmware.  The migration does not clear that word.  It stays as it is when
the image ends below the offset, and is copied over when the image is longer.

Main results:

- Theorem {lit}`main_resets_iff`: when a boot migrates.
- Theorem {lit}`main_resets_forever`: a short image is migrated at every boot.
- Theorem {lit}`migration_once`: when the boot behind a migration does not migrate.
-/

namespace ZigbeeOta

open NorFlash FlashDriver

/-- {lit}`flag_addr_ok`. -/
def flagAddrOk : Nat := 0x33CC55AA

/-- The boot guard of {lit}`main`, and what it guards.  When {lit}`tuya_zigbee_ota` is not
called or comes back, {lit}`flash_main` follows. -/
def main (chip : Chip) : Option Ending :=
  if memU32 chip.mem (ZIGBEE_BOOT_OTA_FADDR + 8) = ID_BOOTABLE ∨ flagAddrOk ≠ 0x33CC55AA then
    tuyaZigbeeOta chip
  else
    some (.returned chip)

/-- The header of a firmware whose size is good. -/
structure HeaderAt (m : Mem) (addr : Nat) : Prop where
  bootable : memU32 m (addr + 8) = ID_BOOTABLE
  above : FLASH_SECTOR_SIZE < memU32 m (addr + 24)
  below : memU32 m (addr + 24) < BIN_SIZE_MAX_OTA

/-! ## One boot -/

theorem HeaderAt.accepts {m : Mem} (h : HeaderAt m ZIGBEE_BOOT_OTA_FADDR) :
    Accepts m ZIGBEE_BOOT_OTA_FADDR :=
  ⟨.inl ⟨rfl, h.bootable⟩, h.above, h.below⟩

/-- A firmware that is found is refused for its size. -/
theorem tuyaZigbeeOta_refused {chip : Chip} {src : Nat} (hfinds : Finds chip.mem src)
    (hrefused : ¬Accepts chip.mem src) : ∃ chip', tuyaZigbeeOta chip = some (.returned chip') := by
  have hsearch := @searchFirmware_eq (flashWriteStatus chip 0) src hfinds
  have hsize : u32At (readBytes chip.mem src bufBlkSize) 6 = memU32 chip.mem (src + 24) :=
    u32At_readBytes _ _ (by decide)
  have hbad : ¬(u32At (readBytes chip.mem src bufBlkSize) 2 = ID_BOOTABLE ∧
      u32At (readBytes chip.mem src bufBlkSize) 6 > FLASH_SECTOR_SIZE ∧
      u32At (readBytes chip.mem src bufBlkSize) 6 < BIN_SIZE_MAX_OTA) := by
    rintro ⟨-, habove, hbelow⟩
    rw [hsize] at habove hbelow
    exact hrefused ⟨hfinds, habove, hbelow⟩
  unfold tuyaZigbeeOta
  simp only [hsearch, head_run]
  rw [if_neg hbad]
  exact ⟨_, rfl⟩

theorem main_of_header {chip : Chip} (h : HeaderAt chip.mem ZIGBEE_BOOT_OTA_FADDR) :
    main chip = some (.reset (chip.run geometry (otaCmds chip.mem ZIGBEE_BOOT_OTA_FADDR))) := by
  rw [main, if_pos (.inl h.bootable)]
  exact tuyaZigbeeOta_eq h.accepts

/-- A boot migrates when the header at the boot loader's offset is good. -/
theorem main_resets_iff (chip : Chip) :
    (∃ chip', main chip = some (.reset chip')) ↔ HeaderAt chip.mem ZIGBEE_BOOT_OTA_FADDR := by
  constructor
  · rintro ⟨chip', hreset⟩
    by_cases hguard : memU32 chip.mem (ZIGBEE_BOOT_OTA_FADDR + 8) = ID_BOOTABLE
    · have hfinds : Finds chip.mem ZIGBEE_BOOT_OTA_FADDR := .inl ⟨rfl, hguard⟩
      by_cases haccepts : Accepts chip.mem ZIGBEE_BOOT_OTA_FADDR
      · exact ⟨hguard, haccepts.above, haccepts.below⟩
      · rcases tuyaZigbeeOta_refused hfinds haccepts with ⟨chip'', hreturned⟩
        rw [main, if_pos (.inl hguard), hreturned] at hreset
        cases hreset
    · have hflag : ¬flagAddrOk ≠ 0x33CC55AA := fun hne => hne rfl
      rw [main, if_neg (not_or.mpr ⟨hguard, hflag⟩)] at hreset
      cases hreset
  · exact fun h => ⟨_, main_of_header h⟩

/-! ## The flash behind a migration -/

/-- The part of the flash that holds firmware, behind a migration. -/
theorem ota_mem {m : Mem} {src x : Nat} (haccepts : Accepts m src) (hx : x < BIN_SIZE_MAX_OTA) :
    runCmds geometry m (otaCmds m src) x =
      if x < imageSize m src then m (src + x) else m x := by
  rcases haccepts.imageSize_bounds with ⟨hmin, -, hsectors⟩
  have hmark : runCmd geometry (copied m src (imageSize m src)) idCmd =
      copied m src (imageSize m src) :=
    runCmd_idCmd haccepts fun x hlt => if_pos (by omega)
  rw [otaCmds, runCmds_append, runCmds_loopCmds haccepts, runCmds_cons, hmark, macCmds_frame hx,
    copied, (sectorUp_of_aligned hsectors).1]
  split
  · rfl
  · rfl

/-- A header is told by 28 bytes. -/
theorem headerAt_congr {m m' : Mem} {addr addr' : Nat}
    (hsame : ∀ i, i < 28 → m' (addr' + i) = m (addr + i)) :
    HeaderAt m' addr' ↔ HeaderAt m addr := by
  have hword : ∀ i, i ≤ 24 → memU32 m' (addr' + i) = memU32 m (addr + i) := by
    intro i hi
    simp only [memU32_eq, Nat.add_assoc]
    rw [hsame i (by omega), hsame (i + 1) (by omega), hsame (i + 2) (by omega),
      hsame (i + 3) (by omega)]
  constructor
  · rintro ⟨hid, habove, hbelow⟩
    rw [hword 8 (by decide)] at hid
    rw [hword 24 (by decide)] at habove hbelow
    exact ⟨hid, habove, hbelow⟩
  · rintro ⟨hid, habove, hbelow⟩
    rw [← hword 8 (by decide)] at hid
    rw [← hword 24 (by decide)] at habove hbelow
    exact ⟨hid, habove, hbelow⟩

section Migration

variable {m : Mem} (h : HeaderAt m ZIGBEE_BOOT_OTA_FADDR)
include h

/-- An image that ends below the offset leaves the header there alone. -/
theorem header_stays (hshort : memU32 m (ZIGBEE_BOOT_OTA_FADDR + 24) ≤ ZIGBEE_BOOT_OTA_FADDR) :
    ∀ i, i < 28 →
      runCmds geometry m (otaCmds m ZIGBEE_BOOT_OTA_FADDR) (ZIGBEE_BOOT_OTA_FADDR + i) =
        m (ZIGBEE_BOOT_OTA_FADDR + i) := by
  intro i hi
  have hsize : imageSize m ZIGBEE_BOOT_OTA_FADDR ≤ ZIGBEE_BOOT_OTA_FADDR := by
    simp only [imageSize, FLASH_SECTOR_SIZE, ZIGBEE_BOOT_OTA_FADDR] at *
    omega
  have hfirmware : ZIGBEE_BOOT_OTA_FADDR + i < BIN_SIZE_MAX_OTA := by
    simp only [ZIGBEE_BOOT_OTA_FADDR, BIN_SIZE_MAX_OTA]
    omega
  rw [ota_mem h.accepts hfirmware, if_neg (by omega)]

/-- A longer image is copied over it. -/
theorem header_copied (hlong : ZIGBEE_BOOT_OTA_FADDR < memU32 m (ZIGBEE_BOOT_OTA_FADDR + 24)) :
    ∀ i, i < 28 →
      runCmds geometry m (otaCmds m ZIGBEE_BOOT_OTA_FADDR) (ZIGBEE_BOOT_OTA_FADDR + i) =
        m (2 * ZIGBEE_BOOT_OTA_FADDR + i) := by
  intro i hi
  have hsize : ZIGBEE_BOOT_OTA_FADDR + 28 ≤ imageSize m ZIGBEE_BOOT_OTA_FADDR := by
    simp only [imageSize, FLASH_SECTOR_SIZE, ZIGBEE_BOOT_OTA_FADDR] at *
    omega
  have hfirmware : ZIGBEE_BOOT_OTA_FADDR + i < BIN_SIZE_MAX_OTA := by
    simp only [ZIGBEE_BOOT_OTA_FADDR, BIN_SIZE_MAX_OTA]
    omega
  rw [ota_mem h.accepts hfirmware, if_pos (by omega), Nat.two_mul, Nat.add_assoc]

/-- The header that the boot behind a migration sees. -/
theorem header_after :
    HeaderAt (runCmds geometry m (otaCmds m ZIGBEE_BOOT_OTA_FADDR)) ZIGBEE_BOOT_OTA_FADDR ↔
      memU32 m (ZIGBEE_BOOT_OTA_FADDR + 24) ≤ ZIGBEE_BOOT_OTA_FADDR ∨
        HeaderAt m (2 * ZIGBEE_BOOT_OTA_FADDR) := by
  by_cases hshort : memU32 m (ZIGBEE_BOOT_OTA_FADDR + 24) ≤ ZIGBEE_BOOT_OTA_FADDR
  · have hsame := headerAt_congr (header_stays h hshort)
    exact iff_of_true (hsame.mpr h) (.inl hshort)
  · have hsame := headerAt_congr (header_copied h (Nat.lt_of_not_le hshort))
    simp [hsame, hshort]

end Migration

/-! ## Boot after boot -/

/-- The flash behind a number of boots that each migrate. -/
def migrations : Nat → Chip → Option Chip
  | 0, chip => some chip
  | n + 1, chip =>
      match main chip with
      | some (.reset chip') => migrations n chip'
      | _ => none

/-- An image that ends below the offset is migrated at every boot. -/
theorem main_resets_forever (n : Nat) {chip : Chip} (h : HeaderAt chip.mem ZIGBEE_BOOT_OTA_FADDR)
    (hshort : memU32 chip.mem (ZIGBEE_BOOT_OTA_FADDR + 24) ≤ ZIGBEE_BOOT_OTA_FADDR) :
    (migrations n chip).isSome := by
  induction n generalizing chip with
  | zero => rfl
  | succ n ih =>
      have hstays := header_stays h hshort
      have hsize : memU32 (runCmds geometry chip.mem (otaCmds chip.mem ZIGBEE_BOOT_OTA_FADDR))
          (ZIGBEE_BOOT_OTA_FADDR + 24) = memU32 chip.mem (ZIGBEE_BOOT_OTA_FADDR + 24) := by
        simp only [memU32_eq, Nat.add_assoc]
        rw [hstays 24 (by decide), hstays 25 (by decide), hstays 26 (by decide),
          hstays 27 (by decide)]
      rw [migrations, main_of_header h]
      apply ih
      · rw [Chip.run_mem]
        exact (headerAt_congr hstays).mpr h
      · rw [Chip.run_mem, hsize]
        exact hshort

/-- For every flash that {lit}`main` migrates: the boot behind the migration does not
migrate again exactly if the image reaches beyond the offset, and the bytes of the image
that come to the offset are no header of a firmware. -/
theorem migration_once (chip chip' : Chip) (hmigrates : main chip = some (.reset chip')) :
    (∀ chip'', main chip' ≠ some (.reset chip'')) ↔
      ZIGBEE_BOOT_OTA_FADDR < memU32 chip.mem (ZIGBEE_BOOT_OTA_FADDR + 24) ∧
        ¬HeaderAt chip.mem (2 * ZIGBEE_BOOT_OTA_FADDR) := by
  have hheader := (main_resets_iff chip).mp ⟨chip', hmigrates⟩
  have hchip : chip' = chip.run geometry (otaCmds chip.mem ZIGBEE_BOOT_OTA_FADDR) := by
    rw [main_of_header hheader] at hmigrates
    cases hmigrates
    rfl
  have hagain := main_resets_iff chip'
  rw [hchip, Chip.run_mem, header_after hheader, ← hchip] at hagain
  rw [← not_exists, hagain, not_or, Nat.not_le]

/-- The header of an image of nine sectors, which is one sector more than what lies in
front of it. -/
def longImage : Chip where
  mem := programAt (programAt Chip.erased.mem (ZIGBEE_BOOT_OTA_FADDR + 8) (u32Bytes ID_BOOTABLE))
    (ZIGBEE_BOOT_OTA_FADDR + 24) (u32Bytes 0x9000)
  trace := []

theorem headerAt_longImage : HeaderAt longImage.mem ZIGBEE_BOOT_OTA_FADDR := by
  refine ⟨?_, ?_, ?_⟩
  · decide
  · decide
  · decide

/-- It is migrated once. -/
theorem migration_once_long :
    ∃ chip', main longImage = some (.reset chip') ∧
      ∀ chip'', main chip' ≠ some (.reset chip'') := by
  have hnot : ¬HeaderAt longImage.mem (2 * ZIGBEE_BOOT_OTA_FADDR) := by
    intro h
    have hid := h.bootable
    revert hid
    decide
  exact ⟨_, main_of_header headerAt_longImage,
    (migration_once longImage _ (main_of_header headerAt_longImage)).mpr ⟨by decide, hnot⟩⟩

/-- The image of two sectors is migrated, and migrated again behind the reset. -/
theorem migration_repeats :
    ∃ chip' chip'', main imageChip = some (.reset chip') ∧ main chip' = some (.reset chip'') := by
  have hheader : HeaderAt imageChip.mem ZIGBEE_BOOT_OTA_FADDR :=
    ⟨by decide, accepts_imageChip.above, accepts_imageChip.below⟩
  have hagain : HeaderAt
      (imageChip.run geometry (otaCmds imageChip.mem ZIGBEE_BOOT_OTA_FADDR)).mem
      ZIGBEE_BOOT_OTA_FADDR := by
    rw [Chip.run_mem, header_after hheader]
    exact .inl (by decide)
  exact ⟨_, _, main_of_header hheader, main_of_header hagain⟩

end ZigbeeOta
