import Mathlib.Tactic.Common
import TuyaMiniSwitch.Library.Crc

/-!
# Tools - The packers of OTA images

Four scripts under {lit}`tools` turn a firmware image into one that the boot
loader takes: padding to a multiple of 16, the total length at {lit}`0x18`, a
magic constant at 6 and a CRC behind it all.  Three of them write the CRC last.
{lit}`make_ota_tuya.py` writes it before the length and the magic, so its CRC is
that of the bytes it goes on to change.

Main results:

- Theorem {lit}`stampThenCrc_packed`: what the three scripts write has the format.
- Theorem {lit}`crc32_stamp_eq_iff`: the two changes leave the CRC as it is exactly
  when one undoes the trace of the other.
- Theorem {lit}`packers_agree_iff`: the images on which all four agree.
-/

namespace OtaPackers

/-! ## The scripts -/

/-- {lit}`OTA_MAGIC`. -/
def otaMagic : List UInt8 :=
  [0x5d, 0x02]

/-- The slice {lit}`firmware[lo:hi]`. -/
def slice (firmware : List UInt8) (lo hi : Nat) : List UInt8 :=
  (firmware.take hi).drop lo

/-- The assignment {lit}`firmware[lo:hi] = bytes`. -/
def setSlice (firmware : List UInt8) (lo hi : Nat) (bytes : List UInt8) : List UInt8 :=
  firmware.take lo ++ (bytes ++ firmware.drop hi)

/-- {lit}`n.to_bytes(4, byteorder='little')`, which raises an error for a number
that does not fit. -/
def toBytes (n : Nat) : Option (List UInt8) :=
  if n < 0x100000000 then some (Crc.leBytes 4 n) else none

/-- {lit}`binascii.crc32`. -/
def crc32 (bytes : List UInt8) : BitVec 32 :=
  Crc.feed 0xEDB88320 0xffffffff bytes ^^^ 0xffffffff

/-- The padding with {lit}`0xFF` that all scripts begin with. -/
def pad (firmware : List UInt8) : List UInt8 :=
  let padding := 16 - firmware.length % 16
  if padding < 16 then firmware ++ List.replicate padding 0xFF else firmware

/-- {lit}`append_crc` of {lit}`make_ota_tuya.py`. -/
def appendCrc (firmware : List UInt8) : Option (List UInt8) := do
  let firmware := pad firmware
  let crc := crc32 firmware ^^^ 0xffffffff
  return firmware ++ (← toBytes crc.toNat)

/-- {lit}`patch_firmware` of {lit}`make_ota_tuya.py`. -/
def patchFirmware (firmware : List UInt8) : Option (List UInt8) :=
  if slice firmware 6 8 ≠ otaMagic then do
    let firmware ← appendCrc firmware
    let firmware := setSlice firmware 0x18 0x1c (← toBytes firmware.length)
    return setSlice firmware 6 8 otaMagic
  else
    some firmware

/-- The patching that the other three scripts share: length, magic, then CRC. -/
def stampThenCrc (firmware : List UInt8) : Option (List UInt8) :=
  if slice firmware 6 8 ≠ otaMagic then do
    let firmware := pad firmware
    let firmware := setSlice firmware 0x18 0x1c (← toBytes (firmware.length + 4))
    let firmware := setSlice firmware 6 8 otaMagic
    let crc := crc32 firmware ^^^ 0xffffffff
    return firmware ++ (← toBytes crc.toNat)
  else
    some firmware

/-- The patching in {lit}`main` of {lit}`zigbee_ota.py`. -/
def zigbeeOta : List UInt8 → Option (List UInt8) :=
  stampThenCrc

/-- The patching in {lit}`main` of {lit}`make_ota.py`. -/
def makeOta : List UInt8 → Option (List UInt8) :=
  stampThenCrc

/-- {lit}`tl_check_fw.py`: the file it leaves behind. -/
def tlCheckFw : List UInt8 → Option (List UInt8) :=
  stampThenCrc

/-! ## The format -/

/-- A packed image of a raw one. -/
structure Packed (raw image : List UInt8) : Prop where
  aligned : (pad raw).length % 16 = 0
  length : image.length = (pad raw).length + 4
  unchanged : ∀ i, i < (pad raw).length → ¬ (6 ≤ i ∧ i < 8) → ¬ (0x18 ≤ i ∧ i < 0x1c) →
    image[i]? = (pad raw)[i]?
  total : toBytes image.length = some (slice image 0x18 0x1c)
  magic : slice image 6 8 = otaMagic
  crc : slice image (image.length - 4) image.length =
    Crc.leBytes 4 (crc32 (image.take (image.length - 4)) ^^^ 0xffffffff).toNat

/-- An image that every script leaves alone. -/
def Untouched (image : List UInt8) : Prop :=
  patchFirmware image = some image ∧ zigbeeOta image = some image ∧
    makeOta image = some image ∧ tlCheckFw image = some image

/-- The four scripts write one packed image, and leave it alone from then on. -/
def Agree (raw : List UInt8) : Prop :=
  ∃ image, patchFirmware raw = some image ∧ zigbeeOta raw = some image ∧
    makeOta raw = some image ∧ tlCheckFw raw = some image ∧ Packed raw image ∧
    Untouched image

/-- An image that carries the magic is left alone. -/
theorem untouched_of_magic {image : List UInt8} (hmagic : slice image 6 8 = otaMagic) :
    Untouched image := by
  have hstamp : stampThenCrc image = some image := by
    rw [stampThenCrc, if_neg (not_not_intro hmagic)]
  have hpatch : patchFirmware image = some image := by
    rw [patchFirmware, if_neg (not_not_intro hmagic)]
  exact ⟨hpatch, hstamp, hstamp, hstamp⟩

/-! ## Padding -/

theorem exists_pad (raw : List UInt8) :
    ∃ tail, pad raw = raw ++ tail ∧ (pad raw).length % 16 = 0 := by
  unfold pad
  simp only
  split
  case isTrue hpadding =>
    refine ⟨_, rfl, ?_⟩
    rw [List.length_append, List.length_replicate]
    omega
  case isFalse hpadding =>
    refine ⟨[], (List.append_nil raw).symm, ?_⟩
    omega

/-- Padding changes nothing before the end of the raw image. -/
theorem slice_pad {raw : List UInt8} {lo hi : Nat} (hhi : hi ≤ raw.length) :
    slice (pad raw) lo hi = slice raw lo hi := by
  obtain ⟨tail, htail, -⟩ := exists_pad raw
  rw [htail, slice, slice, List.take_append_of_le_length hhi]

/-! ## Slices -/

/-- A slice that ends where a part begins and ends is that part. -/
theorem slice_middle {before middle after : List UInt8} {lo hi : Nat}
    (hlo : before.length = lo) (hhi : lo + middle.length = hi) :
    slice (before ++ (middle ++ after)) lo hi = middle := by
  have htake : (before ++ (middle ++ after)).take hi = before ++ middle := by
    rw [← List.append_assoc]
    apply List.take_left'
    rw [List.length_append, hlo, hhi]
  rw [slice, htake, ← hlo]
  exact List.drop_left

/-- The assignment to such a slice replaces the part. -/
theorem setSlice_middle {before middle after : List UInt8} {lo hi : Nat}
    (hlo : before.length = lo) (hhi : lo + middle.length = hi) (bytes : List UInt8) :
    setSlice (before ++ (middle ++ after)) lo hi bytes = before ++ (bytes ++ after) := by
  have hdrop : (before ++ (middle ++ after)).drop hi = after := by
    rw [← List.append_assoc]
    apply List.drop_left'
    rw [List.length_append, hlo, hhi]
  rw [setSlice, List.take_left' hlo, hdrop]

/-! ## The parts of an image -/

/-- The parts of an image that the scripts tell apart: the two bytes of the magic,
the word of the length, and what stands around them. -/
structure Parts where
  head : List UInt8
  mark : List UInt8
  body : List UInt8
  word : List UInt8
  rest : List UInt8
  head_length : head.length = 6
  mark_length : mark.length = 2
  body_length : body.length = 16
  word_length : word.length = 4

namespace Parts

/-- The image that the parts make up. -/
def bytes (p : Parts) : List UInt8 :=
  p.head ++ (p.mark ++ (p.body ++ (p.word ++ p.rest)))

theorem bytes_length (p : Parts) : p.bytes.length = 28 + p.rest.length := by
  simp only [bytes, List.length_append, p.head_length, p.mark_length, p.body_length,
    p.word_length]
  omega

theorem exists_of_length {firmware : List UInt8} (hlength : 0x1c ≤ firmware.length) :
    ∃ p : Parts, p.bytes = firmware := by
  refine ⟨⟨firmware.take 6, (firmware.drop 6).take 2, (firmware.drop 8).take 16,
    (firmware.drop 24).take 4, firmware.drop 28, ?_, ?_, ?_, ?_⟩, ?_⟩
  · rw [List.length_take]
    omega
  · rw [List.length_take, List.length_drop]
    omega
  · rw [List.length_take, List.length_drop]
    omega
  · rw [List.length_take, List.length_drop]
    omega
  · have hword : (firmware.drop 24).take 4 ++ firmware.drop 28 = firmware.drop 24 := by
      rw [← List.drop_drop (i := 4) (j := 24)]
      exact List.take_append_drop 4 _
    have hbody : (firmware.drop 8).take 16 ++ firmware.drop 24 = firmware.drop 8 := by
      rw [← List.drop_drop (i := 16) (j := 8)]
      exact List.take_append_drop 16 _
    have hmark : (firmware.drop 6).take 2 ++ firmware.drop 8 = firmware.drop 6 := by
      rw [← List.drop_drop (i := 2) (j := 6)]
      exact List.take_append_drop 2 _
    rw [bytes, hword, hbody, hmark, List.take_append_drop]

/-- The image with other bytes in the place of the magic. -/
def withMark (p : Parts) (mark : List UInt8) (h : mark.length = 2) : Parts :=
  { p with mark := mark, mark_length := h }

/-- The image with other bytes in the place of the length. -/
def withWord (p : Parts) (word : List UInt8) (h : word.length = 4) : Parts :=
  { p with word := word, word_length := h }

/-- The image with more bytes behind it. -/
def append (p : Parts) (tail : List UInt8) : Parts :=
  { p with rest := p.rest ++ tail }

theorem bytes_append (p : Parts) (tail : List UInt8) :
    (p.append tail).bytes = p.bytes ++ tail := by
  simp only [bytes, append, List.append_assoc]

theorem slice_mark (p : Parts) : slice p.bytes 6 8 = p.mark := by
  apply slice_middle p.head_length
  rw [p.mark_length]

theorem setSlice_mark (p : Parts) {mark : List UInt8} (h : mark.length = 2) :
    setSlice p.bytes 6 8 mark = (p.withMark mark h).bytes := by
  apply setSlice_middle p.head_length
  rw [p.mark_length]

/-- The parts before the word of the length, as one. -/
theorem bytes_eq (p : Parts) :
    p.bytes = (p.head ++ (p.mark ++ p.body)) ++ (p.word ++ p.rest) := by
  simp only [bytes, List.append_assoc]

theorem before_word_length (p : Parts) :
    (p.head ++ (p.mark ++ p.body)).length = 0x18 := by
  simp only [List.length_append, p.head_length, p.mark_length, p.body_length]

theorem slice_word (p : Parts) : slice p.bytes 0x18 0x1c = p.word := by
  rw [bytes_eq]
  apply slice_middle p.before_word_length
  rw [p.word_length]

theorem setSlice_word (p : Parts) {word : List UInt8} (h : word.length = 4) :
    setSlice p.bytes 0x18 0x1c word = (p.withWord word h).bytes := by
  rw [bytes_eq, setSlice_middle p.before_word_length (by rw [p.word_length])]
  simp only [bytes, withWord, List.append_assoc]

/-- Where neither the magic nor the length stands, stamping changes nothing. -/
theorem getElem?_stamp (p : Parts) {mark word : List UInt8} (hmark : mark.length = 2)
    (hword : word.length = 4) {i : Nat} (hi : ¬ (6 ≤ i ∧ i < 8))
    (hi' : ¬ (0x18 ≤ i ∧ i < 0x1c)) :
    ((p.withWord word hword).withMark mark hmark).bytes[i]? = p.bytes[i]? := by
  have hhead := p.head_length
  have hmark' := p.mark_length
  have hbody := p.body_length
  have hword' := p.word_length
  simp only [bytes, withWord, withMark, List.getElem?_append, hhead, hmark, hmark', hbody,
    hword, hword']
  split
  · rfl
  · split
    · omega
    · split
      · rfl
      · split
        · omega
        · rfl

/-- The image with a length and the magic in place. -/
def stamp (p : Parts) (word : List UInt8) (h : word.length = 4) : Parts :=
  (p.withWord word h).withMark otaMagic rfl

theorem stamp_bytes_length (p : Parts) {word : List UInt8} (h : word.length = 4) :
    (p.stamp word h).bytes.length = p.bytes.length := by
  rw [bytes_length, bytes_length]
  rfl

/-- Stamping does not reach what stands behind the image. -/
theorem stamp_append (p : Parts) {word : List UInt8} (h : word.length = 4)
    (tail : List UInt8) :
    ((p.append tail).stamp word h).bytes = (p.stamp word h).bytes ++ tail := by
  exact bytes_append (p.stamp word h) tail

end Parts

/-! ## What the scripts write -/

/-- The CRC as all scripts store it. -/
def crcBytes (firmware : List UInt8) : List UInt8 :=
  Crc.leBytes 4 (crc32 firmware ^^^ 0xffffffff).toNat

theorem toBytes_crc (firmware : List UInt8) :
    toBytes (crc32 firmware ^^^ 0xffffffff).toNat = some (crcBytes firmware) := by
  exact if_pos (BitVec.isLt _)

theorem crcBytes_length (firmware : List UInt8) : (crcBytes firmware).length = 4 := by
  exact Crc.leBytes_length 4 _

/-- The stored bytes read back as the word they were made from. -/
theorem wordOfLE_crcBytes (firmware : List UInt8) :
    Crc.wordOfLE 32 (crcBytes firmware) = crc32 firmware ^^^ 0xffffffff := by
  have hwidth : 32 = 8 * 4 := rfl
  rw [crcBytes, Crc.wordOfLE_leBytes _ hwidth, BitVec.ofNat_toNat, BitVec.setWidth_eq]

theorem crcBytes_eq_iff (a b : List UInt8) : crcBytes a = crcBytes b ↔ crc32 a = crc32 b := by
  constructor
  · intro h
    have hword := congrArg (Crc.wordOfLE 32) h
    rw [wordOfLE_crcBytes, wordOfLE_crcBytes] at hword
    exact (BitVec.xor_left_inj _).mp hword
  · intro h
    rw [crcBytes, crcBytes, h]

/-- The four bytes of the total length of the packed image. -/
def totalBytes (raw : List UInt8) : List UInt8 :=
  Crc.leBytes 4 ((pad raw).length + 4)

theorem totalBytes_length (raw : List UInt8) : (totalBytes raw).length = 4 := by
  exact Crc.leBytes_length 4 _

section Scripts

variable {raw : List UInt8} {p : Parts}

/-- The three scripts find the CRC of the image that they have stamped. -/
theorem stampThenCrc_eq (hmagic : slice raw 6 8 ≠ otaMagic) (hp : p.bytes = pad raw)
    (hfit : (pad raw).length + 4 < 0x100000000) :
    stampThenCrc raw = some ((p.stamp (totalBytes raw) (totalBytes_length raw)).bytes ++
      crcBytes (p.stamp (totalBytes raw) (totalBytes_length raw)).bytes) := by
  have htotal : toBytes ((pad raw).length + 4) = some (totalBytes raw) := if_pos hfit
  have hstamp : setSlice (setSlice (pad raw) 0x18 0x1c (totalBytes raw)) 6 8 otaMagic =
      (p.stamp (totalBytes raw) (totalBytes_length raw)).bytes := by
    rw [← hp, p.setSlice_word (totalBytes_length raw), Parts.setSlice_mark _ rfl]
    rfl
  rw [stampThenCrc, if_pos hmagic]
  simp only [htotal, hstamp, toBytes_crc, Option.bind_eq_bind, Option.bind_some, Option.pure_def]

/-- {lit}`patch_firmware` finds the CRC of the image that it has yet to stamp. -/
theorem patchFirmware_eq (hmagic : slice raw 6 8 ≠ otaMagic) (hp : p.bytes = pad raw)
    (hfit : (pad raw).length + 4 < 0x100000000) :
    patchFirmware raw = some ((p.stamp (totalBytes raw) (totalBytes_length raw)).bytes ++
      crcBytes p.bytes) := by
  have hcrc : appendCrc raw = some (pad raw ++ crcBytes (pad raw)) := by
    simp only [appendCrc, toBytes_crc, Option.bind_eq_bind, Option.bind_some, Option.pure_def]
  have htotal : toBytes (pad raw ++ crcBytes (pad raw)).length = some (totalBytes raw) := by
    rw [List.length_append, crcBytes_length]
    exact if_pos hfit
  have hstamp : setSlice (setSlice (pad raw ++ crcBytes (pad raw)) 0x18 0x1c
      (totalBytes raw)) 6 8 otaMagic =
        (p.stamp (totalBytes raw) (totalBytes_length raw)).bytes ++ crcBytes p.bytes := by
    rw [← hp, ← p.bytes_append, Parts.setSlice_word _ (totalBytes_length raw),
      Parts.setSlice_mark _ rfl, ← Parts.stamp_append]
    rfl
  rw [patchFirmware, if_pos hmagic]
  simp only [hcrc, htotal, hstamp, Option.bind_eq_bind, Option.bind_some, Option.pure_def]

/-- A length that needs more than four bytes stops every script. -/
theorem stampThenCrc_eq_none (hmagic : slice raw 6 8 ≠ otaMagic)
    (hfit : ¬ (pad raw).length + 4 < 0x100000000) : stampThenCrc raw = none := by
  have htotal : toBytes ((pad raw).length + 4) = none := if_neg hfit
  rw [stampThenCrc, if_pos hmagic]
  simp only [htotal, Option.bind_eq_bind, Option.bind_none]

/-- What the three scripts write has the format. -/
theorem stampThenCrc_packed (hp : p.bytes = pad raw)
    (hfit : (pad raw).length + 4 < 0x100000000) :
    Packed raw ((p.stamp (totalBytes raw) (totalBytes_length raw)).bytes ++
      crcBytes (p.stamp (totalBytes raw) (totalBytes_length raw)).bytes) := by
  generalize hs : p.stamp (totalBytes raw) (totalBytes_length raw) = s
  have hlength : s.bytes.length = (pad raw).length := by
    rw [← hs, p.stamp_bytes_length, hp]
  have hlength' : (s.bytes ++ crcBytes s.bytes).length = (pad raw).length + 4 := by
    rw [List.length_append, crcBytes_length, hlength]
  have hend : (s.bytes ++ crcBytes s.bytes).length - 4 = s.bytes.length := by
    rw [List.length_append, crcBytes_length]
    exact Nat.add_sub_cancel _ 4
  obtain ⟨tail, -, haligned⟩ := exists_pad raw
  exact
    { aligned := haligned
      length := hlength'
      unchanged := by
        intro i hi hmark hword
        rw [List.getElem?_append_left (by omega), ← hs, ← hp]
        exact p.getElem?_stamp rfl (totalBytes_length raw) hmark hword
      total := by
        have hword : slice (s.bytes ++ crcBytes s.bytes) 0x18 0x1c = s.word := by
          rw [← s.bytes_append]
          exact (s.append (crcBytes s.bytes)).slice_word
        rw [hlength', hword, ← hs]
        exact if_pos hfit
      magic := by
        have hmark : slice (s.bytes ++ crcBytes s.bytes) 6 8 = s.mark := by
          rw [← s.bytes_append]
          exact (s.append (crcBytes s.bytes)).slice_mark
        rw [hmark, ← hs]
        rfl
      crc := by
        rw [hend, List.take_left' rfl, slice, List.take_length, List.drop_left' rfl]
        rfl }

end Scripts

/-! ## What the late changes do to the CRC -/

/-- The register that a CRC started at zero reaches through the bytes by which a
mark differs from the magic and the sixteen bytes up to the length. -/
def magicTrace (mark : List UInt8) : BitVec 32 :=
  Crc.feed 0xEDB88320 0 (List.zipWith (· ^^^ ·) mark otaMagic ++ List.replicate 16 0)

/-- Stamping leaves the CRC as it is exactly when the change of the length undoes
the trace of the change of the magic. -/
theorem crc32_stamp_eq_iff (p : Parts) {word : List UInt8} (h : word.length = 4) :
    crc32 p.bytes = crc32 (p.stamp word h).bytes ↔
      Crc.wordOfLE 32 p.word ^^^ Crc.wordOfLE 32 word = magicTrace p.mark := by
  have hpoly : (0xEDB88320 : BitVec 32).msb = true := by decide
  have hbytes : (p.stamp word h).bytes =
      p.head ++ (otaMagic ++ (p.body ++ (word ++ p.rest))) := rfl
  rw [crc32, crc32, BitVec.xor_left_inj, ← BitVec.xor_eq_zero_iff, hbytes, Parts.bytes]
  simp only [Crc.feed_append]
  generalize Crc.feed 0xEDB88320 0xffffffff p.head = start
  have hmark : Crc.feed 0xEDB88320 start p.mark ^^^ Crc.feed 0xEDB88320 start otaMagic =
      Crc.feed 0xEDB88320 0 (List.zipWith (· ^^^ ·) p.mark otaMagic) := by
    rw [Crc.feed_xor _ _ _ p.mark_length, BitVec.xor_self]
    rfl
  generalize Crc.feed 0xEDB88320 start p.mark = r at hmark ⊢
  generalize Crc.feed 0xEDB88320 start otaMagic = r' at hmark ⊢
  have hbody : Crc.feed 0xEDB88320 r p.body ^^^ Crc.feed 0xEDB88320 r' p.body =
      magicTrace p.mark := by
    rw [Crc.feed_xor_same, hmark, p.body_length, magicTrace, Crc.feed_append]
  generalize Crc.feed 0xEDB88320 r p.body = q at hbody ⊢
  generalize Crc.feed 0xEDB88320 r' p.body = q' at hbody ⊢
  have hlength : p.word.length = word.length := p.word_length.trans h.symm
  have hshort : 8 * (List.zipWith (· ^^^ ·) p.word word).length ≤ 32 := by
    rw [List.length_zipWith, p.word_length, h]
    decide
  rw [Crc.feed_xor_same]
  refine (Crc.feed_replicate_zero_eq_zero_iff hpoly _).trans ?_
  rw [Crc.feed_xor _ _ _ hlength, hbody, Crc.feed_eq_zero_iff hpoly hshort,
    Crc.wordOfLE_xor hlength]

/-! ## Agreement -/

/-- The four scripts agree on an image exactly when its total length fits the word
at {lit}`0x18` and what this word held before differs from the length by the trace
that the change of the magic leaves in the CRC. -/
theorem packers_agree_iff (raw : List UInt8) (hlength : 0x1c ≤ raw.length)
    (hmagic : slice raw 6 8 ≠ otaMagic) :
    Agree raw ↔
      (pad raw).length + 4 < 0x100000000 ∧
        Crc.wordOfLE 32 (slice raw 0x18 0x1c) ^^^ BitVec.ofNat 32 ((pad raw).length + 4) =
          magicTrace (slice raw 6 8) := by
  obtain ⟨tail, htail, -⟩ := exists_pad raw
  have hpadded : 0x1c ≤ (pad raw).length := by
    rw [htail, List.length_append]
    omega
  obtain ⟨p, hp⟩ := Parts.exists_of_length hpadded
  have hmark : p.mark = slice raw 6 8 := by
    rw [← p.slice_mark, hp, slice_pad (by omega)]
  have hword : p.word = slice raw 0x18 0x1c := by
    rw [← p.slice_word, hp, slice_pad hlength]
  have htotal : Crc.wordOfLE 32 (totalBytes raw) =
      BitVec.ofNat 32 ((pad raw).length + 4) := by
    have hwidth : 32 = 8 * 4 := rfl
    exact Crc.wordOfLE_leBytes _ hwidth
  rw [← hmark, ← hword, ← htotal, ← crc32_stamp_eq_iff p (totalBytes_length raw),
    ← crcBytes_eq_iff]
  constructor
  · rintro ⟨image, hpatch, hstamp, -, -, -, -⟩
    by_cases hfit : (pad raw).length + 4 < 0x100000000
    · rw [patchFirmware_eq hmagic hp hfit] at hpatch
      rw [zigbeeOta, stampThenCrc_eq hmagic hp hfit, ← hpatch] at hstamp
      exact ⟨hfit, (List.append_cancel_left (Option.some.inj hstamp)).symm⟩
    · rw [zigbeeOta, stampThenCrc_eq_none hmagic hfit] at hstamp
      cases hstamp
  · rintro ⟨hfit, hcrc⟩
    have hpatch := patchFirmware_eq hmagic hp hfit
    have hstamp := stampThenCrc_eq hmagic hp hfit
    have hpacked := stampThenCrc_packed hp hfit
    rw [hcrc] at hpatch
    exact ⟨_, hpatch, hstamp, hstamp, hstamp, hpacked, untouched_of_magic hpacked.magic⟩

/-- An image of 24 zero bytes whose length word is chosen to undo the trace. -/
theorem packers_agree_undone :
    Agree (List.replicate 24 0 ++ [0x70, 0x73, 0xb9, 0xb3] ++ List.replicate 4 0) := by
  refine (packers_agree_iff _ (by decide) (by decide)).mpr ⟨by decide, ?_⟩
  decide +kernel

/-- On 32 zero bytes the CRC of {lit}`make_ota_tuya.py` is not that of its image. -/
theorem packers_disagree_zero :
    0x1c ≤ (List.replicate 32 (0 : UInt8)).length ∧
      slice (List.replicate 32 0) 6 8 ≠ otaMagic ∧
      (patchFirmware (List.replicate 32 0)).map (fun image => slice image 32 36) =
        some [0x52, 0xaa, 0xf5, 0xe6] ∧
      (zigbeeOta (List.replicate 32 0)).map (fun image => slice image 32 36) =
        some [0x0d, 0xc1, 0x87, 0xfd] ∧
      ¬ Agree (List.replicate 32 0) := by
  have hpatch : (patchFirmware (List.replicate 32 0)).map (fun image => slice image 32 36) =
      some [0x52, 0xaa, 0xf5, 0xe6] := by
    decide +kernel
  have hzigbee : (zigbeeOta (List.replicate 32 0)).map (fun image => slice image 32 36) =
      some [0x0d, 0xc1, 0x87, 0xfd] := by
    decide +kernel
  refine ⟨by decide, by decide, hpatch, hzigbee, ?_⟩
  rintro ⟨image, hpatch', hzigbee', -⟩
  rw [hpatch'] at hpatch
  rw [hzigbee', hpatch] at hzigbee
  exact absurd hzigbee (by decide)

end OtaPackers
