import TuyaMiniSwitch.Library.Loop
import TuyaMiniSwitch.Platform.FlashDriver

/-!
# Common - The migration of the boot loader

{lit}`tuya_zigbee_ota` of {lit}`main.c` moves the firmware from where the boot
loader of the maker keeps it to the beginning of the flash, and restarts.  Source
and destination overlap, and the copy runs upwards.

The buffer {lit}`buf_blk` of 64 words is the list of its 256 bytes; the words are
little-endian.
-/

namespace ZigbeeOta

open NorFlash FlashDriver

def ID_BOOTABLE : Nat := 0x544c4e4b

def ZIGBEE_BOOT_OTA_FADDR : Nat := 0x008000

def OTA2_FADDR : Nat := 0x020000

def BIG_OTA1_FADDR : Nat := 0x000000

def ZIGBEE_MAC_FADDR : Nat := 0x076000

def ZIGBEE_MAC_FADDR_1M : Nat := 0x0ff000

def BIN_SIZE_MAX_OTA : Nat := 0x036000

/-- {lit}`sizeof(buf_blk)`. -/
def bufBlkSize : Nat := 256

/-- A word of a buffer. -/
def u32At (buf : List UInt8) (i : Nat) : Nat :=
  (buf.getD (4 * i) 0).toNat + 256 * (buf.getD (4 * i + 1) 0).toNat +
    65536 * (buf.getD (4 * i + 2) 0).toNat + 16777216 * (buf.getD (4 * i + 3) 0).toNat

/-- The bytes of a word. -/
def u32Bytes (v : Nat) : List UInt8 :=
  [UInt8.ofNat v, UInt8.ofNat (v / 256), UInt8.ofNat (v / 65536), UInt8.ofNat (v / 16777216)]

/-- Assigning a word of a buffer. -/
def setU32 (buf : List UInt8) (i v : Nat) : List UInt8 :=
  buf.take (4 * i) ++ u32Bytes v ++ buf.drop (4 * i + 4)

/-- The search for the firmware: where it starts, if there is one. -/
def searchFirmware (chip : Chip) : Option Nat × Chip :=
  let faddrr := ZIGBEE_BOOT_OTA_FADDR
  let (buf_blk, chip) := flashReadPage chip faddrr 16
  if u32At buf_blk 2 ≠ ID_BOOTABLE then
    let faddrr := OTA2_FADDR
    let (buf_blk, chip) := flashReadPage chip faddrr 16
    if u32At buf_blk 2 ≠ ID_BOOTABLE then
      (none, chip)
    else
      (some faddrr, chip)
  else
    (some faddrr, chip)

/-- The variables of the copy loop. -/
structure Copy where
  chip : Chip
  faddrr : Nat
  faddrw : Nat

/-- The copy loop: a sector is erased when the destination reaches it. -/
def copyPass (size : Nat) (s : Copy) : Copy ⊕ Copy :=
  if s.faddrw < size then
    let chip :=
      if s.faddrw % FLASH_SECTOR_SIZE = 0 then flashEraseSector s.chip s.faddrw else s.chip
    let (buf_blk, chip) := flashReadPage chip s.faddrr bufBlkSize
    let faddrr := s.faddrr + bufBlkSize
    let chip := flashWritePage chip s.faddrw buf_blk
    .inl { chip := chip, faddrr := faddrr, faddrw := s.faddrw + bufBlkSize }
  else
    .inr s

/-- More passes than the greatest image has blocks. -/
def copyFuel : Nat := 1024

/-- How the function ends: it returns, or it resets the chip. -/
inductive Ending where
  | returned (chip : Chip)
  | reset (chip : Chip)

/-- {lit}`tuya_zigbee_ota`. -/
def tuyaZigbeeOta (chip : Chip) : Option Ending := do
  let faddrw := BIG_OTA1_FADDR
  let chip := flashWriteStatus chip 0
  let (found, chip) := searchFirmware chip
  match found with
  | none => return .returned chip
  | some faddrr =>
      let (buf_blk, chip) := flashReadPage chip faddrr bufBlkSize
      if u32At buf_blk 2 = ID_BOOTABLE ∧ u32At buf_blk 6 > FLASH_SECTOR_SIZE ∧
          u32At buf_blk 6 < BIN_SIZE_MAX_OTA then
        -- the mask clears no bit of the word
        let buf_blk := setU32 buf_blk 2 (u32At buf_blk 2 &&& 0xffffffff)
        let size := u32At buf_blk 6
        let size := size + (FLASH_SECTOR_SIZE - 1)
        -- the sectors are a power of two, so the mask rounds down
        let size := size / FLASH_SECTOR_SIZE * FLASH_SECTOR_SIZE
        let size := size + faddrw
        let chip := flashEraseSector chip faddrw
        let chip := flashWritePage chip faddrw buf_blk
        let s ← Loop.run (copyPass size) copyFuel
          { chip := chip, faddrr := faddrr + bufBlkSize, faddrw := faddrw + bufBlkSize }
        let chip := flashWritePage s.chip (BIG_OTA1_FADDR + 8) (u32Bytes ID_BOOTABLE)
        let chip := flashEraseSector chip ZIGBEE_MAC_FADDR
        let chip := flashEraseSector chip ZIGBEE_MAC_FADDR_1M
        return .reset chip
      else
        return .returned chip

end ZigbeeOta
