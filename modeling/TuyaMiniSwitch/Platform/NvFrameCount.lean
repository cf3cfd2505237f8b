import TuyaMiniSwitch.Platform.NvTwoSectors

/-!
# Platform - The frame counter

The part of {lit}`drv_nv.c` that keeps the counter of the frames that were sent, against replays.
Its module is a log: values are appended to the sector in use, four bytes each, and when the sector
is full the last one starts the other sector.

Main results:

- Definition {lit}`nvNwkFrameCountSaveToFlash`, {lit}`nvNwkFrameCountFromFlash`: how the counter is
  saved and restored.
- Theorem {lit}`Counts.nvNwkFrameCountSearch`: the search finds the last value of a sector.
-/

namespace NvDriver

open NorFlash FlashDriver

/-! ## The source -/

def UPDATE_FRAMECOUNT_THRES : Nat := 1024

/-- The module of the frame counter. -/
def frameModule (cap : FlashCap) : NvModule := ⟨cap, NV_MODULE_NWK_FRAME_COUNT⟩

/-- {lit}`FRAMECOUNT_PAYLOAD_START`. -/
def framePayloadStart (cap : FlashCap) (opSect : Nat) : Nat :=
  align4 ((frameModule cap).sectStart opSect + 4)

/-- {lit}`FRAMECOUNT_NUM_PER_SECT`. -/
def FRAMECOUNT_NUM_PER_SECT : Nat := (FLASH_SECTOR_SIZE - 4) / 4 * 4 / 4

/-- A number of four bytes in the flash. -/
def readWord (m : Mem) (addr : Nat) : Nat := leNat (readBytes m addr 4)

/-- The first loop of {lit}`nv_nwkFrameCountSearch`: the last page whose first number is set, how
much of it has to be looked at, and the page behind it. -/
def framePages (m : Mem) (start : Nat) : Nat → Nat → Nat → Nat × Nat × Nat
  | 0, _, validAddr => (start, (PAGE_SIZE - 4) / 4 * 4, validAddr)
  | pages + 1, opPageAddr, validAddr =>
      if readWord m opPageAddr ≠ 0xffffffff then (opPageAddr, PAGE_SIZE, validAddr)
      else framePages m start pages (opPageAddr - PAGE_SIZE) opPageAddr

/-- The loop over the numbers of a unit behind its first one: the last one that is set and the
place behind it. -/
def frameUnit (m : Mem) (opPageAddr count : Nat) : Nat → Nat → Nat → Option (Nat × Nat)
  | 0, _, _ => none
  | left + 1, i, frameCount =>
      let w := readWord m (opPageAddr + 4 * i)
      if w ≠ 0xffffffff then
        if i = count - 1 then some (w, opPageAddr + 4 * (i + 1))
        else frameUnit m opPageAddr count left (i + 1) w
      else some (frameCount, opPageAddr + 4 * i)

/-- The second loop of {lit}`nv_nwkFrameCountSearch`: units of four numbers from the last one
down. -/
def frameUnits (m : Mem) (opPageAddr checkSize validAddr : Nat) : Option Nat × Nat :=
  if checkSize = 0 then (none, validAddr)
  else
    let readSize := if checkSize > 16 then 16 else checkSize
    let opPageAddr := opPageAddr - readSize
    let w := readWord m opPageAddr
    if w ≠ 0xffffffff then
      match frameUnit m opPageAddr (readSize / 4) (readSize / 4 - 1) 1 w with
      | some (frameCount, validAddr) => (some frameCount, validAddr)
      | none => frameUnits m opPageAddr (checkSize - readSize) validAddr
    else frameUnits m opPageAddr (checkSize - readSize) opPageAddr
  termination_by checkSize
  decreasing_by all_goals split <;> omega

/-- {lit}`nv_nwkFrameCountSearch`: the last value, if there is one, and the place for the next. -/
def nvNwkFrameCountSearch (cap : FlashCap) (m : Mem) (opSect : Nat) : Option Nat × Nat :=
  let sizeUsed := FRAMECOUNT_NUM_PER_SECT * 4
  let pageUsed :=
    if sizeUsed % PAGE_SIZE ≠ 0 then sizeUsed / PAGE_SIZE + 1 else sizeUsed / PAGE_SIZE
  let start := framePayloadStart cap opSect
  let (opPageAddr, checkSize, validAddr) :=
    framePages m start (pageUsed - 1) ((frameModule cap).sectEnd opSect - PAGE_SIZE) start
  frameUnits m ((opPageAddr + PAGE_SIZE) / PAGE_SIZE * PAGE_SIZE) checkSize validAddr

/-- The part of {lit}`nv_nwkFrameCountSaveToFlashHandler` that chooses the sector, with the status
that it leaves. -/
def frameSector (cap : FlashCap) (chip : Chip) (forceChgSec : Bool) (errSect : Nat) :
    Status × Nat × Chip :=
  let M := frameModule cap
  if forceChgSec then
    let opSect := otherSect errSect
    (.NV_SUCC, opSect,
      eraseFrom chip (M.startAddr + opSect * M.sectorSize) (M.sectorSize / FLASH_SECTOR_SIZE))
  else
    match nvSectorRead M chip with
    | (some opSect, chip) => (.NV_SUCC, opSect, chip)
    | (none, chip) => (.NV_ITEM_NOT_FOUND, 0, eraseFrom chip M.startAddr 2)

/-- The part of {lit}`nv_nwkFrameCountSaveToFlashHandler` that chooses the place: the sector, the
address and whether the sector is changed, unless the last value cannot be written. -/
def framePlace (cap : FlashCap) (chip : Chip) (opSect : Nat) : Option (Nat × Nat × Bool) × Chip :=
  let M := frameModule cap
  match nvNwkFrameCountSearch cap chip.mem opSect with
  | (some lastFrmCnt, wAddr) =>
      if wAddr = M.sectEnd opSect then
        let opSect := otherSect opSect
        let chip := flashEraseSector chip (M.startAddr + opSect * FLASH_SECTOR_SIZE)
        let (written, chip) := flashWriteWithCheck chip (framePayloadStart cap opSect)
          (Crc.leBytes 4 lastFrmCnt)
        if written then (some (opSect, framePayloadStart cap opSect + 4, true), chip)
        else (none, chip)
      else (some (opSect, wAddr, false), chip)
  | (none, wAddr) => (some (opSect, wAddr, false), chip)

/-- The end of {lit}`nv_nwkFrameCountSaveToFlashHandler`: the infos of the two sectors. -/
def frameCommit (cap : FlashCap) (chip : Chip) (ret : Status) (change : Bool)
    (oldSect opSect : Nat) : Status × Chip :=
  let M := frameModule cap
  let (written, chip) := flashWriteWithCheck chip (M.sectStart opSect)
    (sectInfoOf M NV_SECTOR_VALID_READY_CHECKCRC opSect).toBytes
  if written = false then (.NV_CHECK_SUM_ERROR, chip)
  else if change then
    let (written, chip) := flashWriteWithCheck chip (M.sectStart oldSect)
      (Crc.leBytes 2 NV_SECTOR_INVALID)
    if written = false then (.NV_CHECK_SUM_ERROR, chip)
    else
      (ret, (flashWriteWithCheck chip (M.sectStart opSect)
        (Crc.leBytes 2 NV_SECTOR_VALID_CHECKCRC)).2)
  else (ret, chip)

/-- {lit}`nv_nwkFrameCountSaveToFlashHandler`. -/
def nvNwkFrameCountSaveToFlashHandler (cap : FlashCap) (chip : Chip) (forceChgSec : Bool)
    (errSect frameCount : Nat) : Status × Chip :=
  let (ret, oldSect, chip) := frameSector cap chip forceChgSec errSect
  match framePlace cap chip oldSect with
  | (none, chip) => (.NV_CHECK_SUM_ERROR, chip)
  | (some (opSect, wAddr, sectorUpdate), chip) =>
      let (written, chip) := flashWriteWithCheck chip wAddr (Crc.leBytes 4 frameCount)
      if written = false then (.NV_CHECK_SUM_ERROR, chip)
      else if sectorUpdate = true ∨ wAddr = framePayloadStart cap opSect then
        frameCommit cap chip ret (sectorUpdate || forceChgSec)
          (if forceChgSec then errSect else oldSect) opSect
      else (ret, chip)

/-- {lit}`nv_nwkFrameCountSaveToFlash`, which always returns {lit}`NV_SUCC`. -/
def nvNwkFrameCountSaveToFlash (cap : FlashCap) (chip : Chip) (frameCount : Nat) : Chip :=
  match nvNwkFrameCountSaveToFlashHandler cap chip false 0xff frameCount with
  | (.NV_CHECK_SUM_ERROR, chip) =>
      (nvNwkFrameCountSaveToFlashHandler cap chip true 0xff frameCount).2
  | (_, chip) => chip

/-- {lit}`nv_nwkFrameCountFromFlash`: the counter, unless none is found. -/
def nvNwkFrameCountFromFlash (cap : FlashCap) (chip : Chip) : Option Nat × Chip :=
  match nvSectorRead (frameModule cap) chip with
  | (none, chip) => (none, chip)
  | (some opSect, chip) =>
      match nvNwkFrameCountSearch cap chip.mem opSect with
      | (none, _) => (none, chip)
      | (some lastFrmCnt, wAddr) =>
          if wAddr > framePayloadStart cap opSect + 8 then
            let first := readWord chip.mem (wAddr - 8)
            let second := readWord chip.mem (wAddr - 8 + 4)
            if (second + 4294967296 - first) % 4294967296 > UPDATE_FRAMECOUNT_THRES then
              let frameCount := (first + UPDATE_FRAMECOUNT_THRES) % 4294967296
              (some frameCount,
                (nvNwkFrameCountSaveToFlashHandler cap chip true opSect frameCount).2)
            else (some lastFrmCnt, chip)
          else (some lastFrmCnt, chip)

/-! ## Addresses -/

theorem frameModule_known (cap : FlashCap) : (frameModule cap).Known := by
  change NV_MODULE_NWK_FRAME_COUNT ∈ _
  decide

theorem frameModule_sized (cap : FlashCap) : (frameModule cap).Sized :=
  (frameModule_known cap).sized

theorem frameModule_sectorSize (cap : FlashCap) : (frameModule cap).sectorSize = 4096 := by
  cases cap <;> decide

theorem framePayloadStart_eq (cap : FlashCap) {sect : Nat} (hsect : sect < 2) :
    framePayloadStart cap sect = (frameModule cap).sectStart sect + 4 := by
  have hmod := (frameModule_sized cap).sectStart_mod hsect
  rw [framePayloadStart, align4]
  omega

/-- Where a number lies. -/
def wordAddr (cap : FlashCap) (sect i : Nat) : Nat := (frameModule cap).sectStart sect + 4 + 4 * i

/-! ## The numbers of a sector -/

theorem readWord_eq (m : Mem) (addr : Nat) : readWord m addr = (m addr).toNat + 256 *
    ((m (addr + 1)).toNat + 256 * ((m (addr + 2)).toNat + 256 * (m (addr + 3)).toNat)) := rfl

theorem readWord_lt (m : Mem) (addr : Nat) : readWord m addr < 4294967296 := by
  have h₀ := UInt8.toNat_lt (m addr)
  have h₁ := UInt8.toNat_lt (m (addr + 1))
  have h₂ := UInt8.toNat_lt (m (addr + 2))
  have h₃ := UInt8.toNat_lt (m (addr + 3))
  rw [readWord_eq]
  omega

/-- The values of a sector, with nothing written behind them. -/
structure Counts (cap : FlashCap) (ws : List Nat) (m : Mem) (sect : Nat) : Prop where
  room : ws.length ≤ 1023
  set : ∀ w ∈ ws, w ≠ 0xffffffff
  words : ∀ i < 1023, readWord m (wordAddr cap sect i) = ws.getD i 0xffffffff

variable {cap : FlashCap} {ws : List Nat} {m : Mem} {sect : Nat}

theorem Counts.blank_iff (h : Counts cap ws m sect) {i : Nat} (hi : i < 1023) :
    readWord m (wordAddr cap sect i) ≠ 0xffffffff ↔ i < ws.length := by
  rw [h.words i hi, List.getD_eq_getElem?_getD]
  constructor
  · intro hset
    rw [← Nat.not_le]
    intro hle
    rw [List.getElem?_eq_none hle] at hset
    exact hset rfl
  · intro hlt
    rw [List.getElem?_eq_getElem hlt]
    exact h.set _ (List.getElem_mem hlt)

theorem Counts.last (h : Counts cap ws m sect) {i : Nat} (hi : i + 1 = ws.length) :
    some (readWord m (wordAddr cap sect i)) = ws.getLast? := by
  have hroom := h.room
  rw [h.words i (by omega), List.getLast?_eq_getElem?, List.getD_eq_getElem?_getD, ← hi,
    Nat.add_sub_cancel, List.getElem?_eq_getElem (by omega)]
  rfl

/-! ## The search -/

/-- The page with the last number is found. -/
theorem framePages_spec (h : Counts cap ws m sect) (start pages : Nat)
    (hpages : pages ≤ 15) (hlast : ws.length / 64 ≤ pages) (validAddr : Nat) :
    ∃ validAddr', framePages m start pages ((frameModule cap).sectStart sect + 256 * pages)
        validAddr =
      (if ws.length / 64 = 0 then (start, 252, validAddr')
        else ((frameModule cap).sectStart sect + 256 * (ws.length / 64), 256, validAddr')) := by
  induction pages generalizing validAddr with
  | zero =>
      have hzero : ws.length / 64 = 0 := by omega
      exact ⟨validAddr, by rw [hzero, if_pos rfl]; rfl⟩
  | succ pages ih =>
      have haddr : (frameModule cap).sectStart sect + 256 * (pages + 1) =
          wordAddr cap sect (64 * pages + 63) := by
        rw [wordAddr]
        omega
      have hblank := h.blank_iff (i := 64 * pages + 63) (by omega)
      rw [← haddr] at hblank
      rw [framePages]
      by_cases hset : 64 * pages + 63 < ws.length
      · have heq : ws.length / 64 = pages + 1 := by omega
        rw [if_pos (hblank.mpr hset), heq]
        exact ⟨validAddr, rfl⟩
      · have hprev : (frameModule cap).sectStart sect + 256 * (pages + 1) - PAGE_SIZE =
            (frameModule cap).sectStart sect + 256 * pages := by
          have hpage : PAGE_SIZE = 256 := rfl
          omega
        rw [if_neg fun hne => hset (hblank.mp hne), hprev]
        exact ih (by omega) (by omega) _

/-- In a unit whose first number is set, the last one that is set is found. -/
theorem frameUnit_spec (h : Counts cap ws m sect) {b count : Nat} (hcount : b + count ≤ 1023)
    (hle : ws.length ≤ b + count) {left i : Nat} (hleft : left + i = count) (hpos : 1 ≤ i)
    (hlt : i < count) (hbegun : b + i ≤ ws.length) {frameCount : Nat}
    (hlast : frameCount = readWord m (wordAddr cap sect (b + i - 1))) :
    frameUnit m (wordAddr cap sect b) count left i frameCount =
      some (readWord m (wordAddr cap sect (ws.length - 1)), wordAddr cap sect ws.length) := by
  induction left generalizing i frameCount with
  | zero => omega
  | succ left ih =>
      have haddr : ∀ j, wordAddr cap sect b + 4 * j = wordAddr cap sect (b + j) := by
        intro j
        rw [wordAddr, wordAddr]
        omega
      have hblank := h.blank_iff (i := b + i) (by omega)
      rw [frameUnit, haddr, haddr]
      by_cases hset : b + i < ws.length
      · rw [if_pos (hblank.mpr hset)]
        by_cases hend : i = count - 1
        · have hn : ws.length = b + (i + 1) := by omega
          have hn' : ws.length - 1 = b + i := by omega
          rw [if_pos hend, hn', hn]
        · rw [if_neg hend]
          exact ih (by omega) (by omega) (by omega) (by omega) rfl
      · have hn : ws.length = b + i := by omega
        rw [if_neg fun hne => hset (hblank.mp hne), hlast, hn]

/-- The units of a page from its end down. -/
theorem frameUnits_spec (h : Counts cap ws m sect) {k a : Nat} (hka : k ≤ a) (ha : a ≤ 1023)
    (hle : ws.length ≤ a) (hunits : k % 4 ≠ 1)
    (hfound : a - k < ws.length ∨ ws.length = 0 ∧ a = k ∧ 0 < k) (validAddr : Nat) :
    frameUnits m (wordAddr cap sect a) (4 * k) validAddr =
      (ws.getLast?, wordAddr cap sect ws.length) := by
  induction k using Nat.strongRecOn generalizing a validAddr with
  | ind k ih =>
      obtain ⟨r, hr⟩ : ∃ r, r = if k > 4 then 4 else k := ⟨_, rfl⟩
      have hsize : (if 4 * k > 16 then 16 else 4 * k) = 4 * r := by
        rw [hr]
        split <;> split <;> omega
      have hbounds : r ≤ k ∧ 2 ≤ r ∧ (k - r) % 4 ≠ 1 ∧ (k - r = 0 ∨ r = 4) := by
        rw [hr]
        split <;> omega
      have haddr : wordAddr cap sect a - 4 * r = wordAddr cap sect (a - r) := by
        rw [wordAddr, wordAddr]
        omega
      have hrest : 4 * k - 4 * r = 4 * (k - r) := by omega
      have hblank := h.blank_iff (i := a - r) (by omega)
      rw [frameUnits, if_neg (by omega)]
      dsimp only
      rw [hsize, haddr, hrest]
      by_cases hset : a - r < ws.length
      · have hunit : frameUnit m (wordAddr cap sect (a - r)) r (r - 1) 1
              (readWord m (wordAddr cap sect (a - r))) =
            some (readWord m (wordAddr cap sect (ws.length - 1)), wordAddr cap sect ws.length) :=
          frameUnit_spec h (by omega) (by omega) (by omega) (by omega) (by omega) (by omega) rfl
        rw [if_pos (hblank.mpr hset), Nat.mul_div_cancel_left r (by decide), hunit]
        dsimp only
        rw [h.last (i := ws.length - 1) (by omega)]
      · rw [if_neg fun hne => hset (hblank.mp hne)]
        rcases Nat.eq_zero_or_pos (k - r) with hzero | hpos
        · have hnone : ws.length = 0 := by omega
          have hstart : a - r = 0 := by omega
          rw [hzero, frameUnits, if_pos rfl, hstart, hnone, List.eq_nil_of_length_eq_zero hnone]
          rfl
        · exact ih (k - r) (by omega) (by omega) (by omega) (by omega) hbounds.2.2.1 (by omega) _

/-- The search finds the last number of a sector and the place behind it. -/
theorem Counts.nvNwkFrameCountSearch (h : Counts cap ws m sect) (hsect : sect < 2) :
    NvDriver.nvNwkFrameCountSearch cap m sect = (ws.getLast?, wordAddr cap sect ws.length) := by
  have hroom := h.room
  have hstart := framePayloadStart_eq cap hsect
  have hmod := (frameModule_sized cap).sectStart_mod hsect
  have hpage : PAGE_SIZE = 256 := rfl
  have hend : (frameModule cap).sectEnd sect - PAGE_SIZE =
      (frameModule cap).sectStart sect + 256 * 15 := by
    rw [sectEnd_eq, frameModule_sectorSize]
    omega
  obtain ⟨validAddr, hpages⟩ := framePages_spec h (framePayloadStart cap sect) 15
    (by omega) (by omega) (framePayloadStart cap sect)
  have hused : (if FRAMECOUNT_NUM_PER_SECT * 4 % PAGE_SIZE ≠ 0
      then FRAMECOUNT_NUM_PER_SECT * 4 / PAGE_SIZE + 1
      else FRAMECOUNT_NUM_PER_SECT * 4 / PAGE_SIZE) - 1 = 15 := by decide
  rw [NvDriver.nvNwkFrameCountSearch]
  dsimp only
  rw [hused, hend, hpages]
  by_cases hfirst : ws.length / 64 = 0
  · have haddr : (framePayloadStart cap sect + PAGE_SIZE) / PAGE_SIZE * PAGE_SIZE =
        wordAddr cap sect 63 := by
      rw [wordAddr, hstart, hpage]
      omega
    rw [if_pos hfirst]
    dsimp only
    rw [haddr]
    exact frameUnits_spec h (k := 63) (by omega) (by omega) (by omega) (by omega) (by omega) _
  · have haddr : ((frameModule cap).sectStart sect + 256 * (ws.length / 64) + PAGE_SIZE) /
        PAGE_SIZE * PAGE_SIZE = wordAddr cap sect (64 * (ws.length / 64) + 63) := by
      rw [wordAddr, hpage]
      omega
    rw [if_neg hfirst]
    dsimp only
    rw [haddr]
    exact frameUnits_spec h (k := 64) (by omega) (by omega) (by omega) (by omega) (by omega) _

end NvDriver
