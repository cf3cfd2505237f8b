import TuyaMiniSwitch.Library.NorFlash

/-!
# Platform - The flash driver

The driver functions of {lit}`flash.c`.  The SDK's copy serves the application
through {lit}`drv_flash.c` ({lit}`flash_read_page`, {lit}`flash_write`,
{lit}`flash_erase`), and the copy of {lit}`common/flash.c`, whose names start
with {lit}`app_`, serves the code that replaces the firmware.  The two copies
are the same functions.

Main results:

- Theorem {lit}`flashWritePage_of_fit`: a buffer that fits into the page it
  starts in is written with one command.
-/

namespace FlashDriver

open NorFlash

/-- {lit}`PAGE_SIZE` of {lit}`flash.c`. -/
def PAGE_SIZE : Nat := 256

/-- {lit}`FLASH_SECTOR_SIZE` of the flash map. -/
def FLASH_SECTOR_SIZE : Nat := 4096

/-- The flash part the driver is written for. -/
def geometry : Geometry where
  pageSize := PAGE_SIZE
  sectorSize := FLASH_SECTOR_SIZE
  pageSize_pos := by decide
  sectorSize_pos := by decide

@[simp] theorem geometry_pageSize : geometry.pageSize = 256 := rfl

@[simp] theorem geometry_sectorSize : geometry.sectorSize = 4096 := rfl

/-- {lit}`flash_read_page`: the bytes that were read, and the chip. -/
def flashReadPage (chip : Chip) (addr len : Nat) : List UInt8 × Chip :=
  (readBytes chip.mem addr len, chip.exec geometry (.read addr len))

/-- {lit}`flash_erase_sector`, which {lit}`flash_erase` ends in. -/
def flashEraseSector (chip : Chip) (addr : Nat) : Chip :=
  chip.exec geometry (.erase addr)

/-- The loop of {lit}`flash_write_page`: {lit}`ns` bytes are left in the page. -/
def flashWriteLoop (chip : Chip) (addr : Nat) (ns : {n : Nat // 0 < n})
    (buf : List UInt8) : Chip :=
  let nw := if buf.length > ns.val then ns.val else buf.length
  let chip := chip.exec geometry (.program addr (buf.take nw))
  if 0 < (buf.drop nw).length then
    flashWriteLoop chip (addr + nw) ⟨PAGE_SIZE, by decide⟩ (buf.drop nw)
  else
    chip
  termination_by buf.length
  decreasing_by
    rename_i hrest
    have hns := ns.property
    have hlen : 0 < buf.length := by
      rw [List.length_drop] at hrest
      omega
    rw [List.length_drop]
    split <;> omega

/-- {lit}`flash_write_page`, which {lit}`flash_write` ends in: the buffer is
split where a page ends. -/
def flashWritePage (chip : Chip) (addr : Nat) (buf : List UInt8) : Chip :=
  flashWriteLoop chip addr
    ⟨PAGE_SIZE - addr % PAGE_SIZE, Nat.sub_pos_of_lt (Nat.mod_lt addr (by decide))⟩ buf

/-- {lit}`flash_write_status` with a status of one byte. -/
def flashWriteStatus (chip : Chip) (data : UInt8) : Chip :=
  chip.exec geometry (.writeStatus [data])

theorem flashWritePage_of_fit (chip : Chip) {addr : Nat} {buf : List UInt8}
    (hfit : addr % PAGE_SIZE + buf.length ≤ PAGE_SIZE) :
    flashWritePage chip addr buf = chip.exec geometry (.program addr buf) := by
  have hle : ¬ buf.length > PAGE_SIZE - addr % PAGE_SIZE := by omega
  rw [flashWritePage, flashWriteLoop]
  simp [hle]

/-- Every write gives the chip a command. -/
theorem trace_flashWriteLoop (chip : Chip) (addr : Nat) (ns : {n : Nat // 0 < n})
    (buf : List UInt8) : chip.trace.length < (flashWriteLoop chip addr ns buf).trace.length := by
  have hexec : ∀ (chip : Chip) (c : Cmd),
      chip.trace.length < (chip.exec geometry c).trace.length := by
    intro chip c
    simp [Chip.exec]
  fun_induction flashWriteLoop chip addr ns buf with
  | case1 chip addr ns buf nw chip' hmore ih => exact Nat.lt_trans (hexec chip _) ih
  | case2 chip addr ns buf nw chip' hdone => exact hexec chip _

theorem trace_flashWritePage (chip : Chip) (addr : Nat) (buf : List UInt8) :
    chip.trace.length < (flashWritePage chip addr buf).trace.length :=
  trace_flashWriteLoop chip addr _ buf

/-- Programming inside a page stores the bytes one after another. -/
theorem runCmd_program_of_fit (m : Mem) {addr : Nat} {bytes : List UInt8}
    (hfit : addr % PAGE_SIZE + bytes.length ≤ PAGE_SIZE) :
    runCmd geometry m (.program addr bytes) = programAt m addr bytes :=
  pageProgram_eq_programAt geometry m addr bytes hfit

end FlashDriver
