import TuyaMiniSwitch.App.Utility
import TuyaMiniSwitch.Library.Loop
import TuyaMiniSwitch.Platform.FlashDriver

/-!
# Application - The on/off status log

The on/off status is kept in one flash sector.  Every save appends a record of
three bytes in a slot of four, and a restore looks for the first run of valid
records and takes the last record of it.  This module embeds the log functions
of {lit}`app_onoff.c` over the flash driver.

The firmware is built for one relay ({lit}`AMT_RELAY` is 1), so the array
{lit}`status_onoff` of a record is a single byte.
-/

namespace OnOffLog

open NorFlash FlashDriver Utility

/-- First address of the status sector. -/
def BEGIN_STATUS_ONOFF_DATA : Nat := 0x74000

/-- First address behind the status sector. -/
def END_STATUS_ONOFF_DATA : Nat := 0x75000

def ID_SETTING : UInt8 := 0x65

/-- Size of a slot. -/
def FLASH_SAVE_SIZE : Nat := 4

def ZCL_ONOFF_STATUS_OFF : UInt8 := 0

def ZCL_ONOFF_STATUS_ON : UInt8 := 1

/-- {lit}`status_onoff_t`, a packed structure of three bytes. -/
structure StatusOnoff where
  id : UInt8
  status_onoff : UInt8
  crc : UInt8
  deriving Repr, DecidableEq

/-- {lit}`sizeof(status_onoff_t)`. -/
def statusOnoffSize : Nat := 3

/-- A record as the bytes it is stored in. -/
def StatusOnoff.toBytes (r : StatusOnoff) : List UInt8 := [r.id, r.status_onoff, r.crc]

/-- The record that a buffer of bytes holds. -/
def StatusOnoff.ofBytes (bs : List UInt8) : StatusOnoff where
  id := bs.getD 0 0
  status_onoff := bs.getD 1 0
  crc := bs.getD 2 0

/-- The test both scans of {lit}`status_onoff_restore` make on a record. -/
def StatusOnoff.valid (r : StatusOnoff) : Bool :=
  r.id == ID_SETTING && checksum r.toBytes == r.crc

/-- What the log functions work on: the flash, {lit}`flash_addr_start` and the
global {lit}`status_onoff`. -/
structure StatusLog where
  chip : Chip
  flash_addr_start : Nat
  status_onoff : StatusOnoff

/-- The log when the program starts: the flash is kept, the variables have their
initial values. -/
def powerOn (chip : Chip) : StatusLog where
  chip := chip
  flash_addr_start := BEGIN_STATUS_ONOFF_DATA
  status_onoff := ⟨0, 0, 0⟩

/-! ## Default record -/

/-- {lit}`init_default_status_onoff`: the record it fills in, and the log. -/
def initDefaultStatusOnoff (log : StatusLog) : StatusOnoff × StatusLog :=
  let status : StatusOnoff := ⟨0, 0, 0⟩
  let status := { status with status_onoff := ZCL_ONOFF_STATUS_OFF }
  let status := { status with id := ID_SETTING }
  let log := { log with flash_addr_start := BEGIN_STATUS_ONOFF_DATA }
  let status := { status with crc := checksum status.toBytes }
  let chip := flashEraseSector log.chip log.flash_addr_start
  let chip := flashWritePage chip log.flash_addr_start status.toBytes
  (status, { log with chip := chip })

/-! ## Restore -/

/-- The local variables of the scans in {lit}`status_onoff_restore`. -/
structure Scan where
  chip : Chip
  flash_addr : Nat
  onoff_curr : StatusOnoff

/-- The first scan stops at the first valid record. -/
def findPass (s : Scan) : Scan ⊕ Scan :=
  if s.flash_addr < END_STATUS_ONOFF_DATA then
    let (bytes, chip) := flashReadPage s.chip s.flash_addr statusOnoffSize
    let s := { s with chip := chip, onoff_curr := .ofBytes bytes }
    if s.onoff_curr.valid then
      .inr s
    else
      .inl { s with flash_addr := s.flash_addr + FLASH_SAVE_SIZE }
  else
    .inr s

/-- The second scan follows the valid records and keeps the last one. -/
def followPass (s : Scan) : Scan ⊕ Scan :=
  if s.flash_addr < END_STATUS_ONOFF_DATA then
    let (bytes, chip) := flashReadPage s.chip s.flash_addr statusOnoffSize
    let s := { s with chip := chip }
    let onoff_next : StatusOnoff := .ofBytes bytes
    if onoff_next.valid then
      .inl { s with onoff_curr := onoff_next, flash_addr := s.flash_addr + FLASH_SAVE_SIZE }
    else
      .inr s
  else
    .inr s

/-- More passes than the sector has slots. -/
def scanFuel : Nat := 1025

/-- {lit}`status_onoff_restore`. -/
def statusOnoffRestore (log : StatusLog) : Option StatusLog := do
  -- `onoff_curr` is not initialised in the source; both paths below fill it in
  let s ← Loop.run findPass scanFuel
    { chip := log.chip, flash_addr := BEGIN_STATUS_ONOFF_DATA, onoff_curr := ⟨0, 0, 0⟩ }
  if s.flash_addr ≥ END_STATUS_ONOFF_DATA then
    let (onoff_curr, log) := initDefaultStatusOnoff { log with chip := s.chip }
    return { log with status_onoff := onoff_curr }
  else
    let s ← Loop.run followPass scanFuel
      { s with flash_addr := s.flash_addr + FLASH_SAVE_SIZE }
    return {
      chip := s.chip
      flash_addr_start := s.flash_addr - FLASH_SAVE_SIZE
      status_onoff := s.onoff_curr }

/-! ## Save -/

/-- {lit}`status_onoff_save`. -/
def statusOnoffSave (log : StatusLog) : StatusLog :=
  let addr := log.flash_addr_start + FLASH_SAVE_SIZE
  let addr := if addr = END_STATUS_ONOFF_DATA then BEGIN_STATUS_ONOFF_DATA else addr
  let chip := if addr % FLASH_SECTOR_SIZE = 0 then flashEraseSector log.chip addr else log.chip
  let status := { log.status_onoff with crc := checksum log.status_onoff.toBytes }
  { chip := flashWritePage chip addr status.toBytes
    flash_addr_start := addr
    status_onoff := status }

/-- A save after the program has set the status, as its callers do. -/
def StatusLog.saveStatus (log : StatusLog) (v : UInt8) : StatusLog :=
  statusOnoffSave { log with status_onoff := { log.status_onoff with status_onoff := v } }

/-- A reboot: the variables are lost and the log is read again. -/
def StatusLog.reboot (log : StatusLog) : Option StatusLog :=
  statusOnoffRestore (powerOn log.chip)

end OnOffLog
