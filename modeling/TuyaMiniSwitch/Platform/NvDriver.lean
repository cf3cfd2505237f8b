import Mathlib.Algebra.GroupWithZero.Nat
import TuyaMiniSwitch.Library.Crc
import TuyaMiniSwitch.Library.CrashSafety
import TuyaMiniSwitch.Platform.FlashDriver

/-!
# Platform - The NV driver

The item store of {lit}`drv_nv.c`.  A module has two sectors of which one is in use: in front its
info and an index, behind them the items, each with a header.  An item that is written again is
appended, and the one before is marked as invalid; when the sector is full, what is valid is copied
to the other one.  Reading the flash does not change it, so that only erasing and writing count as
commands here.

Main results:

- Definition {lit}`nvFlashWriteNew`, {lit}`nvFlashReadNew`: how an item is written and read.
-/

namespace NvDriver

open NorFlash FlashDriver

inductive Status where
  | NV_SUCC
  | NV_INVALID_MODULS
  | NV_ITEM_NOT_FOUND
  | NV_NOT_ENOUGH_SAPCE
  | NV_CHECK_SUM_ERROR
  | NV_DATA_CHECK_ERROR
  | NV_ITEM_CHECK_ERROR
  deriving Repr, DecidableEq

/-! ## Checksums -/

/-- {lit}`xcrc32`: its table holds what eight steps make of a byte. -/
def xcrc32 (buf : List UInt8) (init : BitVec 32) : BitVec 32 :=
  Crc.feed 0xEDB88320 init buf

/-- The lower half of a checksum. -/
def low16 (crc : BitVec 32) : Nat := crc.toNat % 65536

/-! ## The flash map -/

/-- {lit}`FLASH_CAP_SIZE_1M`, or the part with half of that. -/
inductive FlashCap where
  | cap512K
  | cap1M
  deriving Repr, DecidableEq

def NV_MODULE_ADDRESS_TABLE : UInt8 := 1

def NV_MODULE_NWK_FRAME_COUNT : UInt8 := 4

def NV_MODULE_OTA : UInt8 := 5

def NV_MODULE_APP : UInt8 := 6

def NV_MODULE_KEYPAIR : UInt8 := 7

/-- A module on a flash part. -/
structure NvModule where
  cap : FlashCap
  id : UInt8
  deriving Repr, DecidableEq

/-- {lit}`MODULES_START_ADDR`. -/
def NvModule.startAddr (M : NvModule) : Nat :=
  match M.cap with
  | .cap1M => 0x80000 + FLASH_SECTOR_SIZE * (2 * M.id.toNat)
  | .cap512K =>
      if M.id < 6 then 0x34000 + FLASH_SECTOR_SIZE * (2 * M.id.toNat)
      else 0x7A000 + FLASH_SECTOR_SIZE * (2 * (M.id.toNat - 6))

/-- {lit}`NV_SECTOR_SIZE`. -/
def NvModule.sectorSize (M : NvModule) : Nat :=
  match M.cap with
  | .cap1M => if M.id = NV_MODULE_KEYPAIR then 4 * FLASH_SECTOR_SIZE else FLASH_SECTOR_SIZE
  | .cap512K => if M.id = NV_MODULE_KEYPAIR then 2 * FLASH_SECTOR_SIZE else FLASH_SECTOR_SIZE

/-- {lit}`MODULE_INFO_SIZE`. -/
def NvModule.infoSize (M : NvModule) : Nat :=
  if M.id = NV_MODULE_OTA ∨ M.id = NV_MODULE_KEYPAIR ∨ M.id = NV_MODULE_ADDRESS_TABLE then
    match M.cap with
    | .cap1M => if M.id = NV_MODULE_KEYPAIR then 12 * PAGE_SIZE else 4 * PAGE_SIZE
    | .cap512K => 4 * PAGE_SIZE
  else 2 * PAGE_SIZE

/-- {lit}`MODULE_SECT_START`. -/
def NvModule.sectStart (M : NvModule) (sectNo : Nat) : Nat :=
  M.startAddr + sectNo * M.sectorSize

/-- {lit}`MODULE_SECT_END`. -/
def NvModule.sectEnd (M : NvModule) (sectNo : Nat) : Nat :=
  M.startAddr + (sectNo + 1) * M.sectorSize

/-- {lit}`MODULE_IDX_START`. -/
def NvModule.idxStart (M : NvModule) (sectNo : Nat) : Nat := M.sectStart sectNo + 4

/-- {lit}`MODULE_IDX_NUM`. -/
def NvModule.idxNum (M : NvModule) : Nat := (M.infoSize - 4) / 8

/-- {lit}`MODULE_CONTEXT_START`. -/
def NvModule.contextStart (M : NvModule) (sectNo : Nat) : Nat := M.sectStart sectNo + M.infoSize

/-- {lit}`ITEM_TOTAL_LEN`. -/
def itemTotalLen (len : Nat) : Nat := len + 8

/-- The next multiple of four. -/
def align4 (addr : Nat) : Nat := (addr + 3) / 4 * 4

/-! ## Structures in the flash -/

/-- A number whose lowest byte comes first. -/
def leNat : List UInt8 → Nat
  | [] => 0
  | b :: bytes => b.toNat + 256 * leNat bytes

/-- {lit}`nv_sect_info_t`. -/
structure NvSectInfo where
  usedFlag : Nat
  idName : UInt8
  opSect : UInt8
  deriving Repr, DecidableEq

def NvSectInfo.ofBytes (bytes : List UInt8) : NvSectInfo where
  usedFlag := leNat (bytes.take 2)
  idName := bytes.getD 2 0
  opSect := bytes.getD 3 0

def NvSectInfo.toBytes (s : NvSectInfo) : List UInt8 :=
  Crc.leBytes 2 s.usedFlag ++ [s.idName, s.opSect]

/-- {lit}`nv_info_idx_t`. -/
structure NvInfoIdx where
  offset : Nat
  size : Nat
  itemId : UInt8
  usedState : UInt8
  deriving Repr, DecidableEq

def NvInfoIdx.ofBytes (bytes : List UInt8) : NvInfoIdx where
  offset := leNat (bytes.take 4)
  size := leNat ((bytes.drop 4).take 2)
  itemId := bytes.getD 6 0
  usedState := bytes.getD 7 0

def NvInfoIdx.toBytes (idx : NvInfoIdx) : List UInt8 :=
  Crc.leBytes 4 idx.offset ++ Crc.leBytes 2 idx.size ++ [idx.itemId, idx.usedState]

/-- The checksum of an index without its state. -/
def NvInfoIdx.crc (idx : NvInfoIdx) : Nat := low16 (xcrc32 (idx.toBytes.take 7) 0xffffffff)

/-- {lit}`itemHdr_t`. -/
structure ItemHdr where
  checkSum : Nat
  size : Nat
  itemId : UInt8
  used : UInt8
  deriving Repr, DecidableEq

def ItemHdr.ofBytes (bytes : List UInt8) : ItemHdr where
  checkSum := leNat (bytes.take 4)
  size := leNat ((bytes.drop 4).take 2)
  itemId := bytes.getD 6 0
  used := bytes.getD 7 0

def ItemHdr.toBytes (hdr : ItemHdr) : List UInt8 :=
  Crc.leBytes 4 hdr.checkSum ++ Crc.leBytes 2 hdr.size ++ [hdr.itemId, hdr.used]

/-- The checksum of an item goes over its data and the fields of its header behind the checksum. -/
def ItemHdr.closeCrc (hdr : ItemHdr) (crc : BitVec 32) : BitVec 32 :=
  xcrc32 (Crc.leBytes 2 hdr.size ++ [hdr.itemId, hdr.used]) crc

def NV_SECTOR_VALID : Nat := 0x5A5A

def NV_SECTOR_VALID_CHECKCRC : Nat := 0x7A7A

def NV_SECTOR_VALID_READY_CHECKCRC : Nat := 0xFAFA

def NV_SECTOR_INVALID : Nat := 0x5050

def ITEM_FIELD_VALID : UInt8 := 0x5A

def ITEM_FIELD_VALID_SINGLE : UInt8 := 0x7A

def ITEM_FIELD_INVALID : UInt8 := 0x50

def ITEM_FIELD_OPERATION : UInt8 := 0xFA

def ITEM_FIELD_IDLE : UInt8 := 0xFF

def ITEM_HDR_FIELD_VALID_CHECKSUM : UInt8 := 0x5A

def ITEM_HDR_FIELD_VALID_CHECKCRC : UInt8 := 0x7A

/-- {lit}`ITEM_VALID_FLAG_CHECK`. -/
def itemValidFlagCheck (v : UInt8) : Bool :=
  v == ITEM_FIELD_VALID || v == ITEM_FIELD_VALID_SINGLE

/-- {lit}`ITEM_FLAG_CHECK`. -/
def itemFlagCheck (v : UInt8) : Bool :=
  itemValidFlagCheck v || v == ITEM_FIELD_INVALID || v == ITEM_FIELD_OPERATION

/-- {lit}`SECT_VALID_CHECK`. -/
def sectValidCheck (s : NvSectInfo) : Bool :=
  s.usedFlag == NV_SECTOR_VALID || s.usedFlag == NV_SECTOR_VALID_CHECKCRC

/-- {lit}`ITEM_OFT_CHECK`. -/
def NvModule.itemOftCheck (M : NvModule) (oft size sect : Nat) : Bool :=
  M.contextStart sect ≤ oft && oft < M.sectEnd sect && size ≤ M.sectEnd sect - oft

/-- The info of a sector. -/
def NvModule.readInfo (M : NvModule) (m : Mem) (sect : Nat) : NvSectInfo :=
  .ofBytes (readBytes m (M.sectStart sect) 4)

/-- Where a place of the index lies. -/
def NvModule.idxAddr (M : NvModule) (sect i : Nat) : Nat := M.idxStart sect + i * 8

def NvModule.readIdx (M : NvModule) (m : Mem) (sect i : Nat) : NvInfoIdx :=
  .ofBytes (readBytes m (M.idxAddr sect i) 8)

def readHdr (m : Mem) (addr : Nat) : ItemHdr := .ofBytes (readBytes m addr 8)

/-- {lit}`flash_writeWithCheck`. -/
def flashWriteWithCheck (chip : Chip) (addr : Nat) (buf : List UInt8) : Bool × Chip :=
  let chip := flashWritePage chip addr buf
  (readBytes chip.mem addr buf.length == buf, chip)

variable (M : NvModule)

/-! ## The sector in use -/

/-- The six bits of {lit}`opSect` that check the rest of the info. -/
def sectCrc (idName opSect : UInt8) : Nat :=
  (xcrc32 [idName, opSect] 0xffffffff).toNat % 64

/-- {lit}`nv_sectInfoCrcCheck`. -/
def nvSectInfoCrcCheck (s : NvSectInfo) : Bool :=
  sectCrc s.idName (s.opSect &&& 3) == s.opSect.toNat / 4

/-- The other one of the two sectors. -/
def otherSect (sect : Nat) : Nat := (sect + 1) % 2

/-- A pass of the loop of {lit}`nv_sector_read`: the sector in use, if this is where it says so. -/
def nvSectorReadAt (chip : Chip) (i : Nat) : Option Nat × Chip :=
  let s := M.readInfo chip.mem i
  let sectNo := (s.opSect &&& 3).toNat
  if s.usedFlag = NV_SECTOR_VALID_READY_CHECKCRC then
    if nvSectInfoCrcCheck s then
      let (written, chip) := flashWriteWithCheck chip (M.sectStart (otherSect sectNo))
        (Crc.leBytes 2 NV_SECTOR_INVALID)
      let chip := if written then
          (flashWriteWithCheck chip (M.sectStart i) (Crc.leBytes 2 NV_SECTOR_VALID_CHECKCRC)).2
        else chip
      (some sectNo, chip)
    else (none, chip)
  else if sectValidCheck s ∧ s.idName = M.id then
    if s.usedFlag = NV_SECTOR_VALID_CHECKCRC then
      if nvSectInfoCrcCheck s then (some sectNo, chip) else (none, chip)
    else (some sectNo, chip)
  else (none, chip)

/-- {lit}`nv_sector_read`. -/
def nvSectorRead (chip : Chip) : Option Nat × Chip :=
  match nvSectorReadAt M chip 0 with
  | (some sect, chip) => (some sect, chip)
  | (none, chip) => nvSectorReadAt M chip 1

/-! ## Searching the index -/

/-- The inner loop of {lit}`nv_index_read`: the places of a group from the last one down. -/
def groupSearch (p : Nat → Bool) (first : Nat) : Nat → Option Nat
  | 0 => none
  | n + 1 => if p (first + n) then some (first + n) else groupSearch p first n

/-- Its outer loop: groups of four places from the last one down. -/
def nvIndexReadLoop (p : Nat → Bool) (idxTotalNum : Nat) : Option Nat :=
  if idxTotalNum = 0 then none
  else
    let readIdxNum := if idxTotalNum > 4 then 4 else idxTotalNum
    match groupSearch p (idxTotalNum - readIdxNum) readIdxNum with
    | some i => some i
    | none => nvIndexReadLoop p (idxTotalNum - readIdxNum)
  termination_by idxTotalNum
  decreasing_by
    split <;> omega

/-- {lit}`nv_index_read` for {lit}`ITEM_FIELD_IDLE`: the last place that is in use. -/
def nvIndexReadIdle (m : Mem) (opSect : Nat) : Option Nat :=
  nvIndexReadLoop (fun i =>
    let idx := M.readIdx m opSect i
    idx.usedState != ITEM_FIELD_IDLE || idx.size != 0xffff || idx.itemId != ITEM_FIELD_IDLE)
    M.idxNum

/-- {lit}`nv_index_read`. -/
def nvIndexRead (m : Mem) (itemId : UInt8) (len opSect : Nat) : Option Nat :=
  if itemId = ITEM_FIELD_IDLE then nvIndexReadIdle M m opSect
  else
    nvIndexReadLoop (fun i =>
      let idx := M.readIdx m opSect i
      itemValidFlagCheck idx.usedState && idx.itemId == itemId && (idx.size - 8) % len == 0)
      M.idxNum

/-! ## Writing an item -/

/-- Where the data of an item comes from: {lit}`isFlashCopy` tells that the buffer is in the
flash. -/
inductive ItemSource where
  | ram (buf : List UInt8)
  | flash (addr : Nat)

/-- The first part of {lit}`nv_write_item`: where the item goes. -/
def nvItemOffset (m : Mem) (opSect opItemIdx : Nat) : Option Nat :=
  if opItemIdx = 0 then some (M.contextStart opSect)
  else
    let idxInfo := M.readIdx m opSect (opItemIdx - 1)
    let hdr := readHdr m idxInfo.offset
    if hdr.used = ITEM_HDR_FIELD_VALID_CHECKCRC ∧ idxInfo.crc ≠ hdr.checkSum / 65536 then none
    else if itemFlagCheck idxInfo.usedState ∧ M.itemOftCheck idxInfo.offset idxInfo.size opSect then
      some (align4 (idxInfo.offset + idxInfo.size))
    else none

/-- The loop of {lit}`nv_write_item` that copies an item, and the sum and the checksum of what it
copied. -/
def nvCopyLoop (chip : Chip) (sAddr dAddr toalLen : Nat) (sum : Nat) (crc : BitVec 32) :
    Option (Nat × BitVec 32) × Chip :=
  if toalLen = 0 then (some (sum, crc), chip)
  else
    let wLen := if toalLen > 48 then 48 else toalLen
    let pTemp := readBytes chip.mem sAddr wLen
    let (written, chip) := flashWriteWithCheck chip dAddr pTemp
    if written then
      nvCopyLoop chip (sAddr + wLen) (dAddr + wLen) (toalLen - wLen)
        ((sum + (pTemp.map UInt8.toNat).sum) % 4294967296) (xcrc32 pTemp crc)
    else (none, chip)
  termination_by toalLen
  decreasing_by
    split <;> omega

/-- The part of {lit}`nv_write_item` that writes the data: the header and the checksum it is to
be completed with. -/
def nvWriteData (chip : Chip) (itemId : UInt8) (offset len : Nat) (source : ItemSource) :
    Except Status (ItemHdr × BitVec 32) × Chip :=
  match source with
  | .flash sAddr =>
      let hdr := readHdr chip.mem sAddr
      match nvCopyLoop chip (sAddr + 8) (offset + 8) len 0 0xffffffff with
      | (none, chip) => (.error .NV_CHECK_SUM_ERROR, chip)
      | (some (sum, crc), chip) =>
          if hdr.used = ITEM_HDR_FIELD_VALID_CHECKSUM then
            if hdr.checkSum ≠ sum then (.error .NV_DATA_CHECK_ERROR, chip)
            else
              let hdr := { hdr with used := ITEM_HDR_FIELD_VALID_CHECKCRC }
              (.ok (hdr, hdr.closeCrc crc), chip)
          else if low16 (hdr.closeCrc crc) ≠ hdr.checkSum % 65536 then
            (.error .NV_DATA_CHECK_ERROR, chip)
          else (.ok (hdr, hdr.closeCrc crc), chip)
  | .ram buf =>
      let chip := flashWritePage chip (offset + 8) buf
      if xcrc32 (readBytes chip.mem (offset + 8) len) 0xffffffff = xcrc32 buf 0xffffffff then
        let hdr : ItemHdr :=
          { checkSum := 0, size := len, itemId, used := ITEM_HDR_FIELD_VALID_CHECKCRC }
        (.ok (hdr, hdr.closeCrc (xcrc32 buf 0xffffffff)), chip)
      else (.error .NV_CHECK_SUM_ERROR, chip)

/-- {lit}`nv_write_item`. -/
def nvWriteItem (chip : Chip) (single : Bool) (itemId : UInt8) (opSect opItemIdx len : Nat)
    (source : ItemSource) : Status × Chip :=
  match nvItemOffset M chip.mem opSect opItemIdx with
  | none => (.NV_ITEM_CHECK_ERROR, chip)
  | some offset =>
      let idxInfo : NvInfoIdx :=
        { offset, size := len + 8, itemId, usedState := ITEM_FIELD_OPERATION }
      if M.itemOftCheck idxInfo.offset idxInfo.size opSect = false then
        (.NV_ITEM_CHECK_ERROR, chip)
      else
        let (written, chip) := flashWriteWithCheck chip (M.idxAddr opSect opItemIdx) idxInfo.toBytes
        if written = false then (.NV_ITEM_CHECK_ERROR, chip)
        else
          match nvWriteData chip itemId offset len source with
          | (.error status, chip) => (status, chip)
          | (.ok (hdr, crc), chip) =>
              let usedState := if single then ITEM_FIELD_VALID_SINGLE else ITEM_FIELD_VALID
              let hdr := { hdr with checkSum := idxInfo.crc * 65536 + low16 crc }
              let (written, chip) := flashWriteWithCheck chip offset hdr.toBytes
              if written = false then (.NV_CHECK_SUM_ERROR, chip)
              else
                (.NV_SUCC,
                  (flashWriteWithCheck chip (M.idxAddr opSect opItemIdx + 7) [usedState]).2)

/-- {lit}`nv_itemDeleteByIndex`. -/
def nvItemDeleteByIndex (chip : Chip) (opSect opIdx : Nat) : Chip :=
  flashWritePage chip (M.idxAddr opSect opIdx + 7) [ITEM_FIELD_INVALID]

/-! ## Reading an item -/

/-- {lit}`nv_itemLengthValidCheck` with its table. -/
def nvItemLengthValidCheck (tbl : List (UInt8 × Nat)) (itemId : UInt8) (len : Nat) : Nat :=
  match tbl.find? fun entry => entry.1 == itemId with
  | some entry => min entry.2 len
  | none => len

/-- {lit}`nv_flashReadByIndex`, and what it puts into the buffer. -/
def nvFlashReadByIndex (tbl : List (UInt8 × Nat)) (m : Mem) (itemId : UInt8)
    (opSect opIdx len : Nat) : Status × List UInt8 :=
  let idx := M.readIdx m opSect opIdx
  if itemValidFlagCheck idx.usedState = false then (.NV_ITEM_NOT_FOUND, [])
  else
    let hdr := readHdr m idx.offset
    let realLen := nvItemLengthValidCheck tbl itemId hdr.size
    if hdr.size % len = 0 ∧ (hdr.used = ITEM_HDR_FIELD_VALID_CHECKSUM ∨
        hdr.used = ITEM_HDR_FIELD_VALID_CHECKCRC) ∧ hdr.itemId = itemId then
      let buf := readBytes m (idx.offset + 8) realLen
      let rest := readBytes m (idx.offset + 8 + realLen) (hdr.size - realLen)
      if hdr.used = ITEM_HDR_FIELD_VALID_CHECKSUM then
        if ((buf ++ rest).map UInt8.toNat).sum % 4294967296 ≠ hdr.checkSum then
          (.NV_CHECK_SUM_ERROR, buf)
        else (.NV_SUCC, buf)
      else if low16 (hdr.closeCrc (xcrc32 rest (xcrc32 buf 0xffffffff))) ≠
          hdr.checkSum % 65536 then
        (.NV_CHECK_SUM_ERROR, buf)
      else (.NV_SUCC, buf)
    else (.NV_ITEM_NOT_FOUND, [])

/-- {lit}`nv_flashReadNew` for a single item. -/
def nvFlashReadNew (tbl : List (UInt8 × Nat)) (chip : Chip) (itemId : UInt8) (len : Nat) :
    (Status × List UInt8) × Chip :=
  if M.id = NV_MODULE_NWK_FRAME_COUNT then ((.NV_INVALID_MODULS, []), chip)
  else
    match nvSectorRead M chip with
    | (none, chip) => ((.NV_ITEM_NOT_FOUND, []), chip)
    | (some opSect, chip) =>
        match nvIndexRead M chip.mem itemId len opSect with
        | none => ((.NV_ITEM_NOT_FOUND, []), chip)
        | some opIdx =>
            let (status, buf) := nvFlashReadByIndex M tbl chip.mem itemId opSect opIdx len
            if status = .NV_CHECK_SUM_ERROR then
              ((status, buf), nvItemDeleteByIndex M chip opSect opIdx)
            else ((status, buf), chip)

/-! ## Changing the sector -/

/-- A pass of the loop of {lit}`nv_exceptionDataHandler`: an item that is valid further behind as
well is deleted. -/
def nvExceptionDataPass (single : Bool) (opSect : Nat) (state : List UInt8 × Chip) (opIdx : Nat) :
    List UInt8 × Chip :=
  let (idxTbl, chip) := state
  let idx := M.readIdx chip.mem opSect opIdx
  if itemValidFlagCheck idx.usedState = false then (idxTbl, chip)
  else if idx.usedState = ITEM_FIELD_VALID_SINGLE ∨ (idx.itemId = M.id ∧ single = true) then
    if idx.itemId ∈ idxTbl then (idxTbl, nvItemDeleteByIndex M chip opSect opIdx)
    else (idxTbl ++ [idx.itemId], chip)
  else (idxTbl, chip)

/-- {lit}`nv_exceptionDataHandler`, which does nothing if it gets no buffer. -/
def nvExceptionDataHandler (chip : Chip) (single : Bool) (opSect : Nat) (allocated : Bool) : Chip :=
  if allocated then
    ((List.range M.idxNum).reverse.foldl (nvExceptionDataPass M single opSect) ([], chip)).2
  else chip

/-- The variables of the loop of {lit}`nv_flashWriteNewHandler` that copies the valid items:
where the next item of the old sector has to begin, and how much of the new one is in use. -/
structure CopyState where
  expected : Nat
  wItemIdx : Nat
  sizeusedAddr : Nat
  chip : Chip

/-- How a pass of that loop ends. -/
inductive CopyPass where
  | next (c : CopyState)
  | stop (c : CopyState)
  | fail (status : Status) (chip : Chip)

/-- A pass of that loop. -/
def nvCopyPass (single : Bool) (itemId : UInt8) (oldSect opSect : Nat) (c : CopyState) (i : Nat) :
    CopyPass :=
  let idxInfo := M.readIdx c.chip.mem oldSect i
  if idxInfo.offset ≠ c.expected ∨ M.sectEnd oldSect - idxInfo.offset < idxInfo.size then .stop c
  else
    let c := { c with expected := align4 (idxInfo.offset + idxInfo.size) }
    if itemValidFlagCheck idxInfo.usedState ∧ (idxInfo.itemId ≠ itemId ∨ single = false) then
      let sgl := idxInfo.usedState == ITEM_FIELD_VALID_SINGLE
      let hdr := readHdr c.chip.mem idxInfo.offset
      if hdr.used = ITEM_HDR_FIELD_VALID_CHECKCRC ∧ idxInfo.crc ≠ hdr.checkSum / 65536 then .next c
      else
        let (status, chip) := nvWriteItem M c.chip sgl idxInfo.itemId opSect c.wItemIdx
          (idxInfo.size - 8) (.flash idxInfo.offset)
        let c := { c with
          wItemIdx := c.wItemIdx + 1
          sizeusedAddr := align4 (c.sizeusedAddr + idxInfo.size)
          chip }
        match status with
        | .NV_SUCC => .next c
        | .NV_ITEM_CHECK_ERROR => .stop c
        | .NV_NOT_ENOUGH_SAPCE => .fail .NV_NOT_ENOUGH_SAPCE chip
        | .NV_CHECK_SUM_ERROR => .fail .NV_CHECK_SUM_ERROR chip
        | _ => .next c
    else .next c

/-- That loop. -/
def nvCopyItems (single : Bool) (itemId : UInt8) (oldSect opSect : Nat) (c : CopyState) :
    List Nat → Except Status CopyState × Chip
  | [] => (.ok c, c.chip)
  | i :: is =>
      match nvCopyPass M single itemId oldSect opSect c i with
      | .next c => nvCopyItems single itemId oldSect opSect c is
      | .stop c => (.ok c, c.chip)
      | .fail status chip => (.error status, chip)

/-- {lit}`flash_erase` for the parts of a sector of the module. -/
def eraseFrom (chip : Chip) (addr count : Nat) : Chip :=
  (List.range count).foldl (fun chip k => flashEraseSector chip (addr + k * FLASH_SECTOR_SIZE)) chip

/-- The part of {lit}`nv_flashWriteNewHandler` that goes to the other sector: where the item
has to be written. -/
def nvSectorUpdate (chip : Chip) (single : Bool) (itemId : UInt8) (len oldSect : Nat)
    (allocated : Bool) : Except Status Nat × Chip :=
  let opSect := otherSect oldSect
  let chip := eraseFrom chip (M.sectStart opSect) (M.sectorSize / FLASH_SECTOR_SIZE)
  let chip := nvExceptionDataHandler M chip single oldSect allocated
  let c : CopyState :=
    { expected := M.contextStart oldSect
      wItemIdx := 0
      sizeusedAddr := M.contextStart opSect
      chip }
  let copied := if sectValidCheck (M.readInfo chip.mem oldSect) then
      nvCopyItems M single itemId oldSect opSect c (List.range M.idxNum)
    else (.ok c, chip)
  match copied with
  | (.error status, chip) => (.error status, chip)
  | (.ok c, chip) =>
      if c.wItemIdx = M.idxNum ∨ c.sizeusedAddr + itemTotalLen len > M.sectEnd opSect then
        (.error .NV_NOT_ENOUGH_SAPCE, chip)
      else (.ok c.wItemIdx, chip)

/-- The part of {lit}`nv_flashWriteNewHandler` that looks for a place in the sector in use;
without one the sector has to be changed. -/
def nvPlace (m : Mem) (opSect len : Nat) : Option Nat :=
  match nvIndexReadIdle M m opSect with
  | none => some 0
  | some wItemIdx =>
      let idxInfo := M.readIdx m opSect wItemIdx
      if wItemIdx = M.idxNum - 1 ∨
          idxInfo.offset + idxInfo.size + itemTotalLen len > M.sectEnd opSect then none
      else if itemFlagCheck idxInfo.usedState ∧
          M.itemOftCheck idxInfo.offset idxInfo.size opSect then some (wItemIdx + 1)
      else none

/-- The info of a sector, with its check. -/
def sectInfoOf (usedFlag opSect : Nat) : NvSectInfo where
  usedFlag
  idName := M.id
  opSect := UInt8.ofNat (sectCrc M.id (UInt8.ofNat opSect) * 4 + opSect)

/-- The end of {lit}`nv_flashWriteNewHandler`: the sector that was changed to is put in use, or the
first one if nothing was in use. -/
def nvSectorCommit (chip : Chip) (sectorUpdate : Bool) (oldSect opSect wItemIdx : Nat) :
    Status × Chip :=
  if sectorUpdate then
    let (written, chip) := flashWriteWithCheck chip (M.sectStart opSect)
      (sectInfoOf M NV_SECTOR_VALID_READY_CHECKCRC opSect).toBytes
    if written = false then (.NV_CHECK_SUM_ERROR, chip)
    else
      let (written, chip) := flashWriteWithCheck chip (M.sectStart oldSect)
        (Crc.leBytes 2 NV_SECTOR_INVALID)
      if written then
        (.NV_SUCC, (flashWriteWithCheck chip (M.sectStart opSect)
          (Crc.leBytes 2 NV_SECTOR_VALID_CHECKCRC)).2)
      else (.NV_SUCC, chip)
  else if wItemIdx = 0 then
    (.NV_SUCC, (flashWriteWithCheck chip (M.sectStart opSect)
      (sectInfoOf M NV_SECTOR_VALID_CHECKCRC opSect).toBytes).2)
  else (.NV_SUCC, chip)

/-- The part of {lit}`nv_flashWriteNewHandler` behind the choice of the place. -/
def nvWriteAt (chip : Chip) (single : Bool) (itemId : UInt8) (buf : List UInt8)
    (sectorUpdate : Bool) (oldSect opSect wItemIdx : Nat) : Status × Chip :=
  let deleteIdx := if single then nvIndexRead M chip.mem itemId buf.length opSect else none
  match nvWriteItem M chip single itemId opSect wItemIdx buf.length (.ram buf) with
  | (.NV_SUCC, chip) =>
      match deleteIdx with
      | some deleteIdx =>
          let (written, chip) := flashWriteWithCheck chip (M.idxAddr opSect deleteIdx + 7)
            [ITEM_FIELD_INVALID]
          if written = false then (.NV_CHECK_SUM_ERROR, chip)
          else nvSectorCommit M chip sectorUpdate oldSect opSect wItemIdx
      | none => nvSectorCommit M chip sectorUpdate oldSect opSect wItemIdx
  | (status, chip) => (status, chip)

/-- {lit}`nv_flashWriteNewHandler`. -/
def nvFlashWriteNewHandler (chip : Chip) (forceChgSec single : Bool) (itemId : UInt8)
    (buf : List UInt8) (allocated : Bool) : Status × Chip :=
  if M.sectorSize < itemTotalLen buf.length + M.infoSize then (.NV_NOT_ENOUGH_SAPCE, chip)
  else
    let (opSect, chip) := match nvSectorRead M chip with
      | (some opSect, chip) => (opSect, chip)
      | (none, chip) => (0, eraseFrom chip M.startAddr (M.sectorSize / FLASH_SECTOR_SIZE))
    match if forceChgSec then none else nvPlace M chip.mem opSect buf.length with
    | some wItemIdx => nvWriteAt M chip single itemId buf false opSect opSect wItemIdx
    | none =>
        match nvSectorUpdate M chip single itemId buf.length opSect allocated with
        | (.error status, chip) => (status, chip)
        | (.ok wItemIdx, chip) =>
            nvWriteAt M chip single itemId buf true opSect (otherSect opSect) wItemIdx

/-- {lit}`nv_flashWriteNew`. -/
def nvFlashWriteNew (chip : Chip) (single : Bool) (itemId : UInt8) (buf : List UInt8)
    (allocated : Bool × Bool) : Status × Chip :=
  if M.id = NV_MODULE_NWK_FRAME_COUNT then (.NV_INVALID_MODULS, chip)
  else
    match nvFlashWriteNewHandler M chip false single itemId buf allocated.1 with
    | (.NV_ITEM_CHECK_ERROR, chip) =>
        nvFlashWriteNewHandler M chip true single itemId buf allocated.2
    | (status, chip) => (status, chip)

end NvDriver
