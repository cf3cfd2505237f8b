import Mathlib.Algebra.GroupWithZero.Nat
import TuyaMiniSwitch.App.ReportTable
import TuyaMiniSwitch.App.ZclWrite
import TuyaMiniSwitch.Library.RecordFrames
import TuyaMiniSwitch.Platform.EvBuffer

/-!
# Application - Records in ZCL frames

The functions of {lit}`zcl.c` that put attribute records into the payload of a frame and those that
take them out of one: the commands that write and report attributes, and the one that configures
reporting.  A frame is the memory from its payload on, with the length that was received, since the
parsers read behind its end where a record is cut off.  What a parser finds it puts into a buffer of
its own, for which it asks with a size that is counted in 16 bits.

Main results:

- Theorem {lit}`zclGetAttrSize_congr`: the size of a value depends on its own bytes only.
- Theorem {lit}`attr_records_round_trip`: attributes are received as they were sent.
- Theorem {lit}`no_long_string_received_iff`: a long string that has no length is not.
-/

namespace ZclFrames

open NorFlash RecordFrames Reporting EvBuffer
open Firmware (WriteRec buildU16)

/-! ## The code -/

/-- {lit}`LO_UINT16` and {lit}`HI_UINT16`, one after the other. -/
def u16Bytes (x : UInt16) : List UInt8 := [x.toUInt8, (x >>> 8).toUInt8]

/-- {lit}`BUILD_U16` of two bytes of a frame. -/
def u16At (m : Mem) (pos : Nat) : UInt16 := buildU16 fun i => m (pos + i)

/-- What a command function hands to {lit}`zcl_sendCmd`: the length, which is counted in 16 bits
before the buffer is allocated, and the bytes it puts into the buffer. -/
structure Payload where
  len : Nat
  buf : List UInt8
  deriving Repr, DecidableEq

/-- The value of an attribute record, which is as long as {lit}`zcl_getAttrSize` says. -/
def attrValue (rec : WriteRec) : List UInt8 :=
  readBytes rec.attrData 0 (zclGetAttrSize rec.dataType rec.attrData)

def attrRecBytes (rec : WriteRec) : List UInt8 :=
  u16Bytes rec.attrID ++ rec.dataType :: attrValue rec

def attrRecLen (rec : WriteRec) : Nat := 2 + 1 + zclGetAttrSize rec.dataType rec.attrData

/-- The length of a command, counted record by record in 16 bits. -/
def countLen {σ : Type} (recLen : σ → Nat) (recs : List σ) : Nat :=
  recs.foldl (fun len rec => (len + recLen rec) % 65536) 0

/-- The payload that {lit}`zcl_writeReq` and {lit}`zcl_reportAttrs` build. -/
def attrPayload (attrList : List WriteRec) : Payload where
  len := countLen attrRecLen attrList
  buf := attrList.flatMap attrRecBytes

/-- {lit}`zcl_writeReq`. -/
def zclWriteReq (writeCmd : List WriteRec) : Payload := attrPayload writeCmd

/-- {lit}`zcl_reportAttrs`. -/
def zclReportAttrs (pReportAttrs : List WriteRec) : Payload := attrPayload pReportAttrs

/-- What a parser puts into its buffer: the size it has asked for, the blocks that are left then,
and the records.  The records of {lit}`zclWriteCmd_t` and {lit}`zclReportCmd_t` have the same
fields.  Their values lie one behind another in the buffer, behind the records. -/
structure Parsed (ρ : Type) where
  bufLen : Nat
  availBufNum : List Nat
  attrList : List ρ
  deriving Repr, DecidableEq

/-- One attribute record of a frame, and where the next one begins. -/
def readAttrRec (m : Mem) (pos : Nat) : ReportRec × Nat :=
  let dataType := m (pos + 2)
  let attrDataLen := zclGetAttrSize dataType fun i => m (pos + 3 + i)
  ({ attrID := u16At m pos
     dataType := dataType
     attrData := readBytes m (pos + 3) attrDataLen }, pos + 3 + attrDataLen)

/-- The parser of attribute records, with the size of the packed command and of its records.  It
finds nothing if it gets no buffer. -/
def parseAttrRecs (sizeofCmd sizeofRec : Nat) (availBufNum : List Nat) (m : Mem)
    (dataLen : Nat) : Option (Parsed ReportRec) :=
  let found := visited (fun pos => (readAttrRec m pos).2) dataLen dataLen 0
  let numAttr := found.length % 256
  let attrDataLen :=
    countLen (fun pos => zclGetAttrSize (m (pos + 2)) fun i => m (pos + 3 + i)) found
  let bufLen := ((sizeofCmd + numAttr * sizeofRec) % 65536 + attrDataLen) % 65536
  (evBufAllocate availBufNum bufLen).map fun availBufNum =>
    { bufLen := bufLen
      availBufNum := availBufNum
      attrList := readMany (readAttrRec m) numAttr 0 }

/-- {lit}`zcl_parseInWriteCmd`. -/
def zclParseInWriteCmd : List Nat → Mem → Nat → Option (Parsed ReportRec) := parseAttrRecs 1 7

/-- {lit}`zcl_parseInReportCmd`. -/
def zclParseInReportCmd : List Nat → Mem → Nat → Option (Parsed ReportRec) := parseAttrRecs 1 7

/-- The memory that the parser needs for records: one byte, seven for each record, and the
values. -/
def attrBufLen (attrList : List ReportRec) : Nat :=
  1 + attrList.length * 7 + (attrList.map fun rec => rec.attrData.length).sum

/-! ## The size of a value -/

theorem zclGetDataTypeLen_le (dataType : UInt8) : zclGetDataTypeLen dataType ≤ 16 := by
  unfold zclGetDataTypeLen
  repeat' split
  all_goals decide

/-- The items of a structure are inside it. -/
theorem structSize_ge (data : Nat → UInt8) {itemNum dataLen : Nat}
    (hfit : dataLen + 17 * itemNum < 65536) :
    dataLen + itemNum ≤ structSize data itemNum dataLen := by
  induction itemNum generalizing dataLen with
  | zero => exact Nat.le_refl dataLen
  | succ itemNum ih =>
      have hlen := zclGetDataTypeLen_le (data dataLen)
      have hrest : dataLen + zclGetDataTypeLen (data dataLen) + 1 + itemNum ≤
          structSize data itemNum (dataLen + zclGetDataTypeLen (data dataLen) + 1) :=
        ih (by omega)
      rw [structSize, Nat.mod_eq_of_lt (by omega)]
      omega

theorem structSize_congr {data data' : Nat → UInt8} {itemNum dataLen : Nat}
    (hfit : dataLen + 17 * itemNum < 65536)
    (hsame : ∀ i < structSize data itemNum dataLen, data' i = data i) :
    structSize data' itemNum dataLen = structSize data itemNum dataLen := by
  induction itemNum generalizing dataLen with
  | zero => rfl
  | succ itemNum ih =>
      -- The type of the first item is one of the bytes that are the same.
      have hinside := structSize_ge data hfit
      have htype : data' dataLen = data dataLen := hsame dataLen (by omega)
      have hlen := zclGetDataTypeLen_le (data dataLen)
      rw [structSize, Nat.mod_eq_of_lt (by omega)] at hsame
      rw [structSize, structSize, htype, Nat.mod_eq_of_lt (by omega)]
      exact ih (by omega) hsame

/-- A long string with a length that the 16-bit size of the value can count. -/
def Sized (dataType : UInt8) (data : Nat → UInt8) : Prop :=
  dataType = 0x44 ∨ dataType = 0x43 → (data 1).toNat * 256 + (data 0).toNat + 2 < 65536

/-- The size of a value depends on its own bytes only. -/
theorem zclGetAttrSize_congr {dataType : UInt8} {data data' : Nat → UInt8}
    (hsized : Sized dataType data)
    (hsame : ∀ i < zclGetAttrSize dataType data, data' i = data i) :
    zclGetAttrSize dataType data' = zclGetAttrSize dataType data := by
  unfold zclGetAttrSize at hsame ⊢
  split_ifs at hsame ⊢ with hlong hshort hstruct
  · rw [Nat.mod_eq_of_lt (hsized hlong)] at hsame
    rw [hsame 0 (by omega), hsame 1 (by omega)]
  · rw [hsame 0 (Nat.succ_pos _)]
  · have hitems := (data 0).toNat_lt
    have hinside : 2 + (data 0).toNat ≤ structSize data (data 0).toNat 2 :=
      structSize_ge data (by omega)
    rw [hsame 0 (by omega)]
    exact structSize_congr (by omega) hsame
  · rfl

/-! ## One record -/

theorem buildU16_of_bytes {data : Nat → UInt8} {x : UInt16} (hlow : data 0 = x.toUInt8)
    (hhigh : data 1 = (x >>> 8).toUInt8) : buildU16 data = x := by
  rw [buildU16, hlow, hhigh]
  apply UInt16.toNat_inj.mp
  have hx := x.toNat_lt
  have hrest : x.toNat % 256 < 2 ^ 8 := Nat.mod_lt _ (by decide)
  have hor := Nat.shiftLeft_add_eq_or_of_lt hrest (x.toNat / 256)
  have hshift : x.toNat / 256 % 256 * 256 % 65536 = x.toNat / 256 * 2 ^ 8 := by omega
  rw [Nat.shiftLeft_eq] at hor
  simp only [UInt16.toNat_or, UInt8.toNat_toUInt16, UInt16.toNat_toUInt8, UInt16.toNat_shiftLeft,
    UInt16.toNat_shiftRight, UInt16.toNat_ofNat, Nat.shiftRight_eq_div_pow, Nat.shiftLeft_eq]
  rw [hshift, Nat.or_comm, ← hor]
  omega

theorem u16At_stored {m : Mem} {pos : Nat} {x : UInt16} (h : Stored m pos (u16Bytes x)) :
    u16At m pos = x := by
  have hlow : m (pos + 0) = x.toUInt8 := h.get Nat.zero_lt_two
  have hhigh : m (pos + 1) = (x >>> 8).toUInt8 := h.get Nat.one_lt_two
  exact buildU16_of_bytes hlow hhigh

theorem stored_cons {m : Mem} {pos : Nat} {b : UInt8} {bytes : List UInt8}
    (h : Stored m pos (b :: bytes)) : m pos = b ∧ Stored m (pos + 1) bytes := by
  have hsplit : Stored m pos [b] ∧ Stored m (pos + 1) bytes := stored_append.mp h
  exact ⟨hsplit.1.get Nat.zero_lt_one, hsplit.2⟩

/-- A record as it is received. -/
def received (rec : WriteRec) : ReportRec where
  attrID := rec.attrID
  dataType := rec.dataType
  attrData := attrValue rec

theorem length_attrValue (rec : WriteRec) :
    (attrValue rec).length = zclGetAttrSize rec.dataType rec.attrData := length_readBytes _ _ _

theorem length_attrRecBytes (rec : WriteRec) :
    (attrRecBytes rec).length = attrRecLen rec := by
  rw [attrRecBytes, List.length_append, List.length_cons, length_attrValue, attrRecLen, u16Bytes]
  change 2 + _ = _
  omega

theorem attrRecBytes_ne_nil (rec : WriteRec) : attrRecBytes rec ≠ [] := List.cons_ne_nil _ _

theorem readAttrRec_stored {m : Mem} {pos : Nat} {rec : WriteRec}
    (hsized : Sized rec.dataType rec.attrData) (h : Stored m pos (attrRecBytes rec)) :
    readAttrRec m pos = (received rec, pos + (attrRecBytes rec).length) := by
  obtain ⟨hid, htail⟩ := stored_append.mp h
  obtain ⟨htype, hvalue⟩ := stored_cons htail
  have htype : m (pos + 2) = rec.dataType := htype
  have hvalue : Stored m (pos + 3) (attrValue rec) := hvalue
  have hsize : zclGetAttrSize rec.dataType (fun i => m (pos + 3 + i)) =
      zclGetAttrSize rec.dataType rec.attrData := by
    apply zclGetAttrSize_congr hsized
    intro i hi
    have hbyte := hvalue.get (i := i) (by rwa [length_attrValue])
    rw [hbyte, attrValue, getD_readBytes blank hi, Nat.zero_add]
  have hread : readBytes m (pos + 3) (zclGetAttrSize rec.dataType rec.attrData) =
      attrValue rec := by
    rw [← length_attrValue]
    exact hvalue
  rw [readAttrRec, htype, hsize, hread, u16At_stored hid, length_attrRecBytes, attrRecLen,
    ← Nat.add_assoc]
  rfl

/-! ## Whole commands -/

/-- The first pass of the parser comes to the end of every frame. -/
theorem visited_attr_fuel (m : Mem) {dataLen fuel : Nat} (hfuel : dataLen ≤ fuel) :
    visited (fun pos => (readAttrRec m pos).2) dataLen fuel 0 =
      visited (fun pos => (readAttrRec m pos).2) dataLen dataLen 0 := by
  have hmove : ∀ pos, pos < (readAttrRec m pos).2 := fun pos =>
    Nat.lt_of_lt_of_le (Nat.lt_add_of_pos_right (by decide)) (Nat.le_add_right (pos + 3) _)
  exact visited_fuel hmove hfuel (Nat.le_refl dataLen)

theorem countLen_eq {σ : Type} {recLen : σ → Nat} {recs : List σ}
    (hfit : (recs.map recLen).sum < 65536) : countLen recLen recs = (recs.map recLen).sum := by
  have hsum : ∀ (recs : List σ) (len : Nat), len + (recs.map recLen).sum < 65536 →
      recs.foldl (fun len rec => (len + recLen rec) % 65536) len =
        len + (recs.map recLen).sum := by
    intro recs
    induction recs with
    | nil => exact fun len _ => rfl
    | cons rec recs ih =>
        intro len hlen
        rw [List.map_cons, List.sum_cons] at hlen ⊢
        rw [List.foldl_cons, Nat.mod_eq_of_lt (by omega), ih _ (by omega), Nat.add_assoc]
  have htotal := hsum recs 0 (by rwa [Nat.zero_add])
  rwa [Nat.zero_add] at htotal

/-- The length that is counted is that of the bytes, as long as 16 bits hold it. -/
theorem countLen_flatMap {σ : Type} {recLen : σ → Nat} {encode : σ → List UInt8} {recs : List σ}
    (hrec : ∀ rec, (encode rec).length = recLen rec)
    (hlen : (recs.flatMap encode).length < 65536) :
    countLen recLen recs = (recs.flatMap encode).length := by
  have hbytes : (recs.flatMap encode).length = (recs.map recLen).sum := by
    rw [List.length_flatMap]
    exact congrArg List.sum (List.map_congr_left fun rec _ => hrec rec)
  rw [hbytes] at hlen ⊢
  exact countLen_eq hlen

theorem attrPayload_len {attrList : List WriteRec}
    (hlen : (attrPayload attrList).buf.length < 65536) :
    (attrPayload attrList).len = (attrPayload attrList).buf.length :=
  countLen_flatMap length_attrRecBytes hlen

theorem length_attrPayload (attrList : List WriteRec) :
    (attrPayload attrList).buf.length =
      3 * attrList.length + (attrList.map fun rec => (attrValue rec).length).sum := by
  change (attrList.flatMap attrRecBytes).length = _
  induction attrList with
  | nil => rfl
  | cons rec recs ih =>
      rw [List.flatMap_cons, List.length_append, ih, length_attrRecBytes, attrRecLen, List.map_cons,
        List.sum_cons, length_attrValue, List.length_cons]
      omega

theorem laid_attrPayload {attrList : List WriteRec} {m : Mem}
    (hsized : ∀ rec ∈ attrList, Sized rec.dataType rec.attrData)
    (h : Stored m 0 (attrPayload attrList).buf) :
    Laid (readAttrRec m) 0 (attrList.map received) (attrPayload attrList).buf.length := by
  have hall := laid_of_stored (readAttrRec m) received
    (fun rec hrec pos hstored => readAttrRec_stored (hsized rec hrec) hstored)
    attrRecBytes_ne_nil h
  rwa [Nat.zero_add] at hall

theorem attrBufLen_received (attrList : List WriteRec) :
    attrBufLen (attrList.map received) =
      1 + attrList.length * 7 + (attrList.map fun rec => (attrValue rec).length).sum := by
  rw [attrBufLen, List.length_map, List.map_map]
  rfl

/-- The parser of attribute records takes out of a frame the records that lie in it, if it gets as
much memory as they need. -/
theorem parseAttrRecs_laid {recs : List ReportRec} {m : Mem} {dataLen : Nat}
    (availBufNum : List Nat) (hlaid : Laid (readAttrRec m) 0 recs dataLen)
    (hnum : recs.length < 256) (hlen : attrBufLen recs < 65536) :
    parseAttrRecs 1 7 availBufNum m dataLen =
      (evBufAllocate availBufNum (attrBufLen recs)).map fun availBufNum =>
        { bufLen := attrBufLen recs
          availBufNum := availBufNum
          attrList := recs } := by
  have hsize : ∀ {pos pos' : Nat} {rec : ReportRec}, readAttrRec m pos = (rec, pos') →
      (zclGetAttrSize (m (pos + 2)) fun i => m (pos + 3 + i)) = rec.attrData.length :=
    fun hread => (length_readBytes _ _ _).symm.trans
      (congrArg (fun found => found.1.attrData.length) hread)
  have hfound := hlaid.length_visited (P := fun _ => True) dataLen
    (fun hread _ => congrArg Prod.snd hread) (fun pos => Nat.le_refl _) (fun _ _ => trivial)
    (Nat.sub_le _ _)
  have hsizes := hlaid.visited_map (P := fun _ => True) dataLen
    (fun hread _ => congrArg Prod.snd hread) (fun pos => Nat.le_refl _) (fun _ _ => trivial)
    hsize (Nat.sub_le _ _)
  have hmany := hlaid.readMany_eq
  have hneed : (1 + recs.length * 7) % 65536 +
      (recs.map fun rec => rec.attrData.length).sum = attrBufLen recs := by
    rw [attrBufLen] at hlen ⊢
    rw [Nat.mod_eq_of_lt (by omega)]
  rw [attrBufLen] at hlen
  rw [parseAttrRecs, hfound, Nat.mod_eq_of_lt hnum, hmany,
    countLen_eq (by rw [hsizes]; omega), hsizes, hneed,
    Nat.mod_eq_of_lt (by rw [attrBufLen]; omega)]

/-- What was put into a frame lies in it. -/
theorem parseAttrRecs_payload {attrList : List WriteRec} {m : Mem} (availBufNum : List Nat)
    (hnum : attrList.length < 256) (hlen : attrBufLen (attrList.map received) < 65536)
    (hsized : ∀ rec ∈ attrList, Sized rec.dataType rec.attrData)
    (h : Stored m 0 (attrPayload attrList).buf) :
    parseAttrRecs 1 7 availBufNum m (attrPayload attrList).len =
      (evBufAllocate availBufNum (attrBufLen (attrList.map received))).map fun availBufNum =>
        { bufLen := attrBufLen (attrList.map received)
          availBufNum := availBufNum
          attrList := attrList.map received } := by
  have htotal := length_attrPayload attrList
  have hneed := attrBufLen_received attrList
  rw [attrPayload_len (by omega)]
  exact parseAttrRecs_laid availBufNum (laid_attrPayload hsized h) (by rwa [List.length_map]) hlen

/-- The attributes of a write command, and those of a report, are received as they were sent if the
parser gets a buffer for them, and otherwise not at all, as all that need more than 504 bytes. -/
theorem attr_records_round_trip (attrList : List WriteRec) (availBufNum : List Nat) (m : Mem)
    (hnum : attrList.length ≤ 255) (hlen : attrBufLen (attrList.map received) ≤ 65535)
    (hsized : ∀ rec ∈ attrList, Sized rec.dataType rec.attrData) :
    (Stored m 0 (zclWriteReq attrList).buf →
      zclParseInWriteCmd availBufNum m (zclWriteReq attrList).len =
        (evBufAllocate availBufNum (attrBufLen (attrList.map received))).map fun availBufNum =>
          { bufLen := attrBufLen (attrList.map received)
            availBufNum := availBufNum
            attrList := attrList.map received }) ∧
    (Stored m 0 (zclReportAttrs attrList).buf →
      zclParseInReportCmd availBufNum m (zclReportAttrs attrList).len =
        (evBufAllocate availBufNum (attrBufLen (attrList.map received))).map fun availBufNum =>
          { bufLen := attrBufLen (attrList.map received)
            availBufNum := availBufNum
            attrList := attrList.map received }) ∧
    (MAX_BUFFER_SIZE < attrBufLen (attrList.map received) →
      evBufAllocate availBufNum (attrBufLen (attrList.map received)) = none) := by
  have hboth : Stored m 0 (attrPayload attrList).buf → _ :=
    parseAttrRecs_payload availBufNum (Nat.lt_succ_of_le hnum) (Nat.lt_succ_of_le hlen) hsized
  exact ⟨hboth, hboth, evBufAllocate_of_large (Nat.lt_succ_of_le hlen)⟩

/-- A command to write a number and a string. -/
def writeTwo : List WriteRec :=
  [⟨0x0010, 0x21, fun i => [0x34, 0x12].getD i 0⟩,
   ⟨0x0004, 0x42, fun i => [2, 0x61, 0x62].getD i 0⟩]

theorem attr_records_round_trip_two :
    zclParseInWriteCmd initBufNum (fun i => (zclWriteReq writeTwo).buf.getD i 0xAA) 11 =
      some { bufLen := 20
             availBufNum := [8, 7, 8, 2]
             attrList := [⟨0x0010, 0x21, [0x34, 0x12]⟩, ⟨0x0004, 0x42, [2, 0x61, 0x62]⟩] } :=
  (attr_records_round_trip writeTwo initBufNum (fun i => (zclWriteReq writeTwo).buf.getD i 0xAA)
    (by decide) (by decide) (by simp [writeTwo, Sized])).1 rfl

/-! ## A long string without a length -/

/-- The size of a long string whose length ends in 0xFF. -/
def longSize (high : UInt8) : Nat := (high.toNat * 256 + 257) % 65536

theorem longSize_eq_one {high : UInt8} : longSize high = 1 ↔ high = 0xFF := by
  have hlt := high.toNat_lt
  rw [longSize, ← UInt8.toNat_inj]
  change _ ↔ high.toNat = 255
  omega

theorem longSize_pos (high : UInt8) : 1 ≤ longSize high := by
  have hlt := high.toNat_lt
  rw [longSize]
  omega

theorem attrValue_no_long_string {rec : WriteRec}
    (htype : rec.dataType = 0x44 ∨ rec.dataType = 0x43) (hlow : rec.attrData 0 = 0xFF)
    (hhigh : rec.attrData 1 = 0xFF) : attrValue rec = [0xFF] := by
  have hsize : zclGetAttrSize rec.dataType rec.attrData = 1 := by
    rw [zclGetAttrSize, if_pos htype, hlow, hhigh]
    rfl
  rw [attrValue, hsize]
  exact congrArg (fun b => [b]) hlow

/-- Such a value is read together with the byte behind it. -/
theorem readAttrRec_no_long_string {rec : WriteRec} {m : Mem}
    (htype : rec.dataType = 0x44 ∨ rec.dataType = 0x43) (hvalue : attrValue rec = [0xFF])
    (h : Stored m 0 (attrRecBytes rec)) :
    m 3 = 0xFF ∧ readAttrRec m 0 =
      (⟨rec.attrID, rec.dataType, readBytes m 3 (longSize (m 4))⟩, 3 + longSize (m 4)) := by
  rw [attrRecBytes, hvalue] at h
  obtain ⟨hid, htail⟩ := stored_append.mp h
  obtain ⟨htype2, hlast⟩ := stored_cons htail
  have htype2 : m 2 = rec.dataType := htype2
  have hlast : m 3 = 0xFF := (stored_cons hlast).1
  have hread : zclGetAttrSize rec.dataType (fun i => m (3 + i)) = longSize (m 4) := by
    rw [zclGetAttrSize, if_pos htype]
    change ((m 4).toNat * 256 + (m 3).toNat + 2) % 65536 = _
    rw [hlast]
    rfl
  refine ⟨hlast, ?_⟩
  rw [← hread, ← u16At_stored hid, ← htype2]
  rfl

/-- The length 0xFFFF of a long string stands for no string.  The size of such a value wraps, only
one byte of it is sent, and the receiver takes the byte behind the frame for the other one. -/
theorem no_long_string_received_iff (rec : WriteRec) (availBufNum : List Nat) (m : Mem)
    (htype : rec.dataType = 0x44 ∨ rec.dataType = 0x43) (hlow : rec.attrData 0 = 0xFF)
    (hhigh : rec.attrData 1 = 0xFF) (h : Stored m 0 (zclWriteReq [rec]).buf) :
    (zclParseInWriteCmd availBufNum m (zclWriteReq [rec]).len).map Parsed.attrList =
        some [received rec] ↔
      m 4 = 0xFF ∧ (evBufAllocate availBufNum 9).isSome := by
  have hvalue := attrValue_no_long_string htype hlow hhigh
  have hone : (attrPayload [rec]).buf = attrRecBytes rec := List.append_nil _
  obtain ⟨hlast, hread⟩ := readAttrRec_no_long_string htype hvalue (hone ▸ h)
  have hlen : (zclWriteReq [rec]).len = 4 := by
    have hbytes : (attrPayload [rec]).buf.length = 4 := by
      rw [length_attrPayload, List.map_singleton, hvalue]
      rfl
    exact (attrPayload_len (by omega)).trans hbytes
  have hfound : visited (fun pos => (readAttrRec m pos).2) 4 4 0 = [0] := by
    have hpos := longSize_pos (m 4)
    rw [visited, if_pos (by decide), visited_of_ge]
    rw [hread]
    dsimp only
    omega
  have hsize : (zclGetAttrSize (m (0 + 2)) fun i => m (0 + 3 + i)) = longSize (m 4) := by
    have hbytes := congrArg (fun found => found.1.attrData.length) hread
    dsimp only at hbytes
    rwa [length_readBytes, readAttrRec, length_readBytes] at hbytes
  have hparsed : (zclParseInWriteCmd availBufNum m 4).map Parsed.attrList =
      (evBufAllocate availBufNum ((8 + longSize (m 4)) % 65536)).map fun _ =>
        [(readAttrRec m 0).1] := by
    have hlongSize : longSize (m 4) < 65536 := Nat.mod_lt _ (by decide)
    rw [zclParseInWriteCmd, parseAttrRecs, hfound, Option.map_map, countLen_eq (by
      rw [List.map_singleton, hsize]
      exact hlongSize), List.map_singleton, hsize]
    rfl
  rw [hlen, hparsed, hread, received, hvalue, Option.map_eq_some_iff]
  constructor
  · rintro ⟨left, hfree, hsame⟩
    have hdata := congrArg (fun recs => recs.map fun rec => rec.attrData.length) hsame
    simp only [List.map_cons, List.map_nil, length_readBytes, List.length_singleton,
      List.cons.injEq, and_true] at hdata
    rw [hdata] at hfree
    exact ⟨longSize_eq_one.mp hdata, Option.isSome_iff_exists.mpr ⟨left, hfree⟩⟩
  · rintro ⟨hbyte, hfree⟩
    rcases Option.isSome_iff_exists.mp hfree with ⟨left, hleft⟩
    rw [longSize_eq_one.mpr hbyte]
    refine ⟨left, hleft, ?_⟩
    change [ReportRec.mk rec.attrID rec.dataType [m 3]] = _
    rw [hlast]

/-- With a zero behind the frame, the value that is written has 257 bytes. -/
theorem no_long_string_received_zero :
    (zclParseInWriteCmd initBufNum
        (fun i => (zclWriteReq [⟨0x0001, 0x44, fun _ => 0xFF⟩]).buf.getD i 0)
        (zclWriteReq [⟨0x0001, 0x44, fun _ => 0xFF⟩]).len).map Parsed.attrList ≠
      some [received ⟨0x0001, 0x44, fun _ => 0xFF⟩] := by
  have hiff := no_long_string_received_iff ⟨0x0001, 0x44, fun _ => 0xFF⟩ initBufNum
    (fun i => (zclWriteReq [⟨0x0001, 0x44, fun _ => 0xFF⟩]).buf.getD i 0) (.inl rfl) rfl rfl rfl
  intro hreceived
  exact absurd (hiff.mp hreceived).1 (by decide)

end ZclFrames
