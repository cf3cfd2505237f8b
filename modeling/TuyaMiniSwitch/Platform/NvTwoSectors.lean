import TuyaMiniSwitch.Platform.NvSector

/-!
# Platform - The two sectors of a module

Which of its two sectors a module has in use, whatever it holds in it: the infos in front tell, and
a sector takes over from the other one with three writes to them.

Main results:

- Theorem {lit}`nvSectorRead_spec`: looking for the sector in use loses nothing.
- Theorem {lit}`takeOver_spec`: when power fails while a sector takes over, one of the two is in
  use.
-/

namespace NvDriver

open NorFlash FlashDriver

variable {E : Cmd → Nat → Prop} {M : NvModule} {m m' m₀ : Mem} {sect sect' flag : Nat}

/-! ## Sectors next to each other -/

/-- A memory that differs behind the info of a sector only. -/
def Behind (M : NvModule) (sect : Nat) (m₀ m : Mem) : Prop :=
  ∀ x, ¬ (M.idxStart sect ≤ x ∧ x < M.sectEnd sect) → m x = m₀ x

theorem Behind.refl (M : NvModule) (sect : Nat) (m : Mem) : Behind M sect m m := fun _ _ => rfl

theorem Behind.trans (h : Behind M sect m₀ m) (h' : Behind M sect m m') : Behind M sect m₀ m' :=
  fun x hx => (h' x hx).trans (h x hx)

theorem Behind.programAt (h : Behind M sect m₀ m) {addr : Nat} {bytes : List UInt8}
    (hle : M.idxStart sect ≤ addr) (hend : addr + bytes.length ≤ M.sectEnd sect) :
    Behind M sect m₀ (NorFlash.programAt m addr bytes) := by
  intro x hx
  rw [programAt_apart (by omega)]
  exact h x hx

theorem sect_apart (M : NvModule) (hne : sect ≠ sect') :
    M.sectEnd sect ≤ M.sectStart sect' ∨ M.sectEnd sect' ≤ M.sectStart sect := by
  rcases Nat.lt_or_gt_of_ne hne with hlt | hgt
  · left
    rw [NvModule.sectEnd, NvModule.sectStart]
    exact Nat.add_le_add_left (Nat.mul_le_mul_right _ hlt) _
  · right
    rw [NvModule.sectEnd, NvModule.sectStart]
    exact Nat.add_le_add_left (Nat.mul_le_mul_right _ hgt) _

/-- A memory that differs in the sectors of a module only. -/
def Within (M : NvModule) (m₀ m : Mem) : Prop :=
  ∀ x, ¬ (M.sectStart 0 ≤ x ∧ x < M.sectEnd 1) → m x = m₀ x

theorem Within.refl (M : NvModule) (m : Mem) : Within M m m := fun _ _ => rfl

theorem Within.trans (h : Within M m₀ m) (h' : Within M m m') : Within M m₀ m' :=
  fun x hx => (h' x hx).trans (h x hx)

/-- A sector is one of the sectors of its module. -/
theorem sect_within (M : NvModule) (hsect : sect < 2) :
    M.sectStart 0 ≤ M.sectStart sect ∧ M.sectEnd sect ≤ M.sectEnd 1 := by
  have hcases : sect = 0 ∨ sect = 1 := by omega
  have hzero := sectEnd_eq M 0
  have hone := sectEnd_eq M 1
  have hstart : M.sectStart 1 = M.sectStart 0 + M.sectorSize := by
    rw [NvModule.sectStart, NvModule.sectStart]
    omega
  rcases hcases with rfl | rfl <;> omega

theorem Within.programAt (h : Within M m₀ m) (hsect : sect < 2) {addr : Nat} {bytes : List UInt8}
    (hle : M.sectStart sect ≤ addr) (hend : addr + bytes.length ≤ M.sectEnd sect) :
    Within M m₀ (NorFlash.programAt m addr bytes) := by
  intro x hx
  have hwithin := sect_within M hsect
  rw [programAt_apart (by omega)]
  exact h x hx

theorem Behind.within (hsect : sect < 2) (h : Behind M sect m₀ m) : Within M m₀ m := by
  intro x hx
  have hwithin := sect_within M hsect
  refine h x ?_
  rw [NvModule.idxStart]
  omega

theorem otherSect_lt (sect : Nat) : otherSect sect < 2 := Nat.mod_lt _ (by decide)

theorem otherSect_ne (sect : Nat) : sect ≠ otherSect sect := by
  rw [otherSect]
  omega

/-! ## Erasing -/

/-- A memory in which some of the parts of a sector are erased. -/
def erasedTo (m : Mem) (addr count : Nat) : Mem :=
  fun x => if addr ≤ x ∧ x < addr + count * FLASH_SECTOR_SIZE then blank else m x

theorem eraseFrom_spec (chip : Chip) {addr : Nat} (haddr : addr % 4096 = 0) (count : Nat) :
    (eraseFrom chip addr count).mem = erasedTo chip.mem addr count ∧
      CrashSafe geometry E (fun m => ∃ k ≤ count, m = erasedTo chip.mem addr k) chip
        (eraseFrom chip addr count) := by
  have hzero : erasedTo chip.mem addr 0 = chip.mem := by
    funext x
    rw [erasedTo, if_neg (by omega)]
  induction count with
  | zero => exact ⟨hzero.symm, crashSafe_refl ⟨0, Nat.le_refl 0, hzero.symm⟩⟩
  | succ count ih =>
      have hstep : eraseFrom chip addr (count + 1) = (eraseFrom chip addr count).exec geometry
          (.erase (addr + count * FLASH_SECTOR_SIZE)) := by
        rw [eraseFrom, List.range_succ, List.foldl_append]
        rfl
      have herase : eraseSector geometry (erasedTo chip.mem addr count)
          (addr + count * FLASH_SECTOR_SIZE) = erasedTo chip.mem addr (count + 1) := by
        funext x
        have hsize : FLASH_SECTOR_SIZE = 4096 := rfl
        have hpart : x / 4096 = (addr + count * 4096) / 4096 ↔
            addr + count * 4096 ≤ x ∧ x < addr + count * 4096 + 4096 := by omega
        have hnext : addr + (count + 1) * 4096 = addr + count * 4096 + 4096 := by omega
        simp only [eraseSector, erasedTo, geometry_sectorSize, hsize, hpart, hnext]
        have hlast : addr ≤ addr + count * 4096 := Nat.le_add_right _ _
        generalize addr + count * 4096 = last at hlast
        split
        · rw [if_pos (by omega)]
        · split
          · rw [if_pos (by omega)]
          · rw [if_neg (by omega)]
      rcases ih with ⟨hmem, hsafe⟩
      rw [← hmem] at herase
      have hbefore : ∃ k ≤ count + 1, (eraseFrom chip addr count).mem = erasedTo chip.mem addr k :=
        ⟨count, Nat.le_succ count, hmem⟩
      have hafter : ∃ k ≤ count + 1, eraseSector geometry (eraseFrom chip addr count).mem
          (addr + count * FLASH_SECTOR_SIZE) = erasedTo chip.mem addr k :=
        ⟨count + 1, Nat.le_refl _, herase⟩
      rw [hstep]
      refine ⟨herase, (hsafe.mono fun m hm => ?_).trans (crashSafe_erase hbefore hafter)⟩
      rcases hm with ⟨k, hk, rfl⟩
      exact ⟨k, Nat.le_succ_of_le hk, rfl⟩

/-! ## Infos -/

/-- The sector that is in use according to an info. -/
def accepted (M : NvModule) (s : NvSectInfo) : Option Nat :=
  if s.usedFlag = NV_SECTOR_VALID_READY_CHECKCRC then
    if nvSectInfoCrcCheck s then some (s.opSect &&& 3).toNat else none
  else if sectValidCheck s ∧ s.idName = M.id then
    if s.usedFlag = NV_SECTOR_VALID_CHECKCRC then
      if nvSectInfoCrcCheck s then some (s.opSect &&& 3).toNat else none
    else some (s.opSect &&& 3).toNat
  else none

/-- The info of a sector does not tell that one is in use. -/
def Dead (M : NvModule) (m : Mem) (sect : Nat) : Prop := accepted M (M.readInfo m sect) = none

theorem nvSectorReadAt_dead {chip : Chip} (h : Dead M chip.mem sect) :
    nvSectorReadAt M chip sect = (none, chip) := by
  rw [Dead, accepted] at h
  rw [nvSectorReadAt]
  dsimp only
  split
  · rename_i hready
    rw [if_pos hready] at h
    split
    · rename_i hcrc
      rw [if_pos hcrc] at h
      cases h
    · rfl
  · rename_i hready
    rw [if_neg hready] at h
    split
    · rename_i hvalid
      rw [if_pos hvalid] at h
      split
      · rename_i hflag
        rw [if_pos hflag] at h
        split
        · rename_i hcrc
          rw [if_pos hcrc] at h
          cases h
        · rfl
      · rename_i hflag
        rw [if_neg hflag] at h
        cases h
    · rfl

theorem Dead.congr (h : Dead M m sect)
    (hsame : ∀ x, M.sectStart sect ≤ x → x < M.idxStart sect → m' x = m x) : Dead M m' sect := by
  have hread : M.readInfo m' sect = M.readInfo m sect := by
    rw [NvModule.readInfo, NvModule.readInfo]
    congr 1
    refine readBytes_congr fun i hi => hsame _ (Nat.le_add_right _ _) ?_
    rw [NvModule.idxStart]
    omega
  rw [Dead, hread]
  exact h

theorem usedFlag_readInfo (M : NvModule) (m : Mem) (sect : Nat) :
    (M.readInfo m sect).usedFlag =
      (m (M.sectStart sect)).toNat + 256 * (m (M.sectStart sect + 1)).toNat := rfl

/-- The low byte of the flag decides. -/
theorem dead_of_low (hready : m (M.sectStart sect) ≠ 0xFA) (hcrc : m (M.sectStart sect) ≠ 0x7A)
    (hvalid : m (M.sectStart sect) ≠ 0x5A) : Dead M m sect := by
  have hflag := usedFlag_readInfo M m sect
  have hlow := UInt8.toNat_lt (m (M.sectStart sect))
  have hne : ∀ b : UInt8, m (M.sectStart sect) ≠ b →
      (M.readInfo m sect).usedFlag % 256 ≠ b.toNat := by
    intro b hb heq
    rw [hflag, Nat.add_mul_mod_self_left, Nat.mod_eq_of_lt hlow] at heq
    exact hb (UInt8.toNat_inj.mp heq)
  have hready' := hne _ hready
  have hcrc' := hne _ hcrc
  have hvalid' := hne _ hvalid
  have hno : ∀ n, (n % 256 = 0xFA ∨ n % 256 = 0x7A ∨ n % 256 = 0x5A) →
      (M.readInfo m sect).usedFlag ≠ n := by
    rintro n hn heq
    rw [heq] at hready' hcrc' hvalid'
    rcases hn with hn | hn | hn
    · exact hready' hn
    · exact hcrc' hn
    · exact hvalid' hn
  have hcheck : sectValidCheck (M.readInfo m sect) = false := by
    rw [sectValidCheck, Bool.or_eq_false_iff, beq_eq_false_iff_ne, beq_eq_false_iff_ne]
    exact ⟨hno _ (Or.inr (Or.inr rfl)), hno _ (Or.inr (Or.inl rfl))⟩
  rw [Dead, accepted, if_neg (hno _ (Or.inl rfl)), hcheck, if_neg (by simp)]

theorem dead_blank (h : Blank m (M.sectStart sect) 4) : Dead M m sect := by
  have hbyte : m (M.sectStart sect) = blank := h 0 (by omega)
  apply dead_of_low <;> rw [hbyte] <;> decide

/-- The flags of the infos that the driver writes. -/
def InUse (flag : Nat) : Prop :=
  flag = NV_SECTOR_VALID_CHECKCRC ∨ flag = NV_SECTOR_VALID_READY_CHECKCRC

theorem opSect_fields : ∀ crc < 64, ∀ sect < 2,
    (UInt8.ofNat (crc * 4 + sect) &&& 3).toNat = sect ∧
      UInt8.ofNat (crc * 4 + sect) &&& 3 = UInt8.ofNat sect ∧
      (UInt8.ofNat (crc * 4 + sect)).toNat / 4 = crc := by decide

theorem sectCrc_lt (idName opSect : UInt8) : sectCrc idName opSect < 64 := Nat.mod_lt _ (by decide)

theorem sectInfoOf_sect (M : NvModule) (flag : Nat) (hsect : sect < 2) :
    ((sectInfoOf M flag sect).opSect &&& 3).toNat = sect :=
  (opSect_fields _ (sectCrc_lt _ _) sect hsect).1

theorem sectInfoOf_crc (M : NvModule) (flag : Nat) (hsect : sect < 2) :
    nvSectInfoCrcCheck (sectInfoOf M flag sect) = true := by
  obtain ⟨-, hsect', hcrc⟩ := opSect_fields _ (sectCrc_lt M.id (UInt8.ofNat sect)) sect hsect
  rw [nvSectInfoCrcCheck, beq_iff_eq]
  change sectCrc M.id ((sectInfoOf M flag sect).opSect &&& 3) = _
  rw [sectInfoOf]
  dsimp only
  rw [hsect', hcrc]

theorem InUse.lt (h : InUse flag) : flag < 65536 := by
  rcases h with rfl | rfl <;> decide

theorem readInfo_of_stored (hflag : InUse flag)
    (h : Stored m (M.sectStart sect) (sectInfoOf M flag sect).toBytes) :
    M.readInfo m sect = sectInfoOf M flag sect := by
  have hread : readBytes m (M.sectStart sect) 4 = (sectInfoOf M flag sect).toBytes := h
  have htake : (sectInfoOf M flag sect).toBytes.take 2 = Crc.leBytes 2 flag := rfl
  rw [NvModule.readInfo, hread, NvSectInfo.ofBytes, htake, leNat_leBytes_two hflag.lt]
  rfl

/-- The first bytes of an info.  The only ones that are taken for an info are three bytes of one of
{lit}`NV_MODULE_OTA`. -/
theorem accepted_torn : ∀ id ∈ ([0, 1, 2, 3, 4, 5, 6, 7] : List UInt8), ∀ k < 4,
    (id = NV_MODULE_OTA → k ≠ 3) →
      ∀ flag ∈ [NV_SECTOR_VALID_CHECKCRC, NV_SECTOR_VALID_READY_CHECKCRC],
        accepted ⟨.cap1M, id⟩ (.ofBytes (firstBytes (Crc.leBytes 2 flag ++ [id, 0]) k)) = none := by
  decide +kernel

/-- The write of an info that was not carried to its end. -/
theorem dead_torn (hM : M.Known) (hflag : InUse flag) {k : Nat} (hk : k < 4)
    (hota : M.id = NV_MODULE_OTA → k ≠ 3)
    (h : Stored m (M.sectStart sect) (firstBytes (sectInfoOf M flag sect).toBytes k)) :
    Dead M m sect := by
  have hread : readBytes m (M.sectStart sect) 4 =
      firstBytes (sectInfoOf M flag sect).toBytes k := by
    have hlength : (firstBytes (sectInfoOf M flag sect).toBytes k).length = 4 := by
      rw [length_firstBytes, NvSectInfo.length_toBytes]
    rwa [Stored, hlength] at h
  -- the byte of the sector is the last one
  have hfirst : firstBytes (sectInfoOf M flag sect).toBytes k =
      firstBytes (Crc.leBytes 2 flag ++ [M.id, 0]) k := by
    have hcases : k = 0 ∨ k = 1 ∨ k = 2 ∨ k = 3 := by omega
    rcases hcases with rfl | rfl | rfl | rfl <;> rfl
  have hmem : flag ∈ [NV_SECTOR_VALID_CHECKCRC, NV_SECTOR_VALID_READY_CHECKCRC] := by
    rcases hflag with rfl | rfl <;> simp
  rw [Dead, NvModule.readInfo, hread, hfirst]
  exact accepted_torn M.id hM k hk hota flag hmem

theorem accepted_live (hflag : InUse flag) (hsect : sect < 2) :
    accepted M (sectInfoOf M flag sect) = some sect := by
  have hused : (sectInfoOf M flag sect).usedFlag = flag := rfl
  rw [accepted, hused, sectInfoOf_crc M flag hsect, sectInfoOf_sect M flag hsect]
  rcases hflag with rfl | rfl
  · have hcheck : sectValidCheck (sectInfoOf M NV_SECTOR_VALID_CHECKCRC sect) = true := rfl
    rw [if_neg (by decide), if_pos ⟨hcheck, rfl⟩, if_pos rfl, if_pos rfl]
  · rw [if_pos rfl, if_pos rfl]

/-! ## The sector in use -/

/-- What a sector holds does not depend on what is elsewhere. -/
def Local (M : NvModule) (P : Mem → Nat → Prop) : Prop :=
  ∀ m m' sect, (∀ x, M.idxStart sect ≤ x → x < M.sectEnd sect → m' x = m x) →
    P m sect → P m' sect

/-- The sector that is in use, with its flag and what it holds. -/
structure InForce (M : NvModule) (P : Mem → Nat → Prop) (m : Mem) (flag sect : Nat) : Prop where
  sect_lt : sect < 2
  info : Stored m (M.sectStart sect) (sectInfoOf M flag sect).toBytes
  other : sect = 1 → Dead M m 0
  content : P m sect

/-- A sector whose flag can be turned into that of an invalid one. -/
def Markable (m : Mem) (addr : Nat) : Prop := m addr &&& 0x50 = 0x50 ∧ m (addr + 1) &&& 0x50 = 0x50

/-- What a module holds: a sector that is in use, or one whose predecessor has not been marked
yet, or nothing. -/
inductive Holding (M : NvModule) (P : Mem → Nat → Prop) (none : Prop) (m : Mem) : Prop where
  | valid (sect : Nat) (live : InForce M P m NV_SECTOR_VALID_CHECKCRC sect)
  | ready (sect : Nat) (live : InForce M P m NV_SECTOR_VALID_READY_CHECKCRC sect)
      (markable : Markable m (M.sectStart (otherSect sect)))
  | empty (first : Dead M m 0) (second : Dead M m 1) (none : none)

/-- A module that holds something, in a flash that is the same elsewhere. -/
def Keeping (M : NvModule) (P : Mem → Nat → Prop) (none : Prop) (m₀ m : Mem) : Prop :=
  Within M m₀ m ∧ Holding M P none m

/-! ## Flags -/

/-- The cuts that a module does not survive: one between the two bytes of the flag of the sector
that takes over, and one in front of the last byte of an info of {lit}`NV_MODULE_OTA`. -/
def LosingCut (M : NvModule) (c : Cmd) (k : Nat) : Prop :=
  ∃ sect, (c = .program (M.sectStart sect) (Crc.leBytes 2 NV_SECTOR_VALID_CHECKCRC) ∧ k = 1) ∨
    M.id = NV_MODULE_OTA ∧ k = 3 ∧
      ∃ flag, c = .program (M.sectStart sect) (sectInfoOf M flag sect).toBytes

/-- A write to the beginning of a sector is one command. -/
theorem crashSafe_start (hM : M.Sized) (hsect : sect < 2) (chip : Chip) {buf : List UInt8}
    (hlen : buf.length ≤ 4) {I : Mem → Prop}
    (h : ∀ k ≤ buf.length, (k < buf.length → ¬ E (.program (M.sectStart sect) buf) k) →
      I (programAt chip.mem (M.sectStart sect) (buf.take k))) :
    CrashSafe geometry E I chip (flashWritePage chip (M.sectStart sect) buf) := by
  have hmod := hM.sectStart_mod hsect
  have hpage : PAGE_SIZE = 256 := rfl
  have hfit : M.sectStart sect % PAGE_SIZE + buf.length ≤ PAGE_SIZE := by
    rw [hpage]
    omega
  rw [flashWritePage_of_fit chip hfit]
  refine crashSafe_program fun k hk hallowed => ?_
  rw [runCmd_program_of_fit]
  · exact h k hk hallowed
  · rw [List.length_take]
    omega

/-- Programming over what is stored. -/
theorem stored_over {addr : Nat} {bytes bytes' : List UInt8} (h : Stored m addr bytes)
    (hlen : bytes'.length = bytes.length)
    (hand : ∀ i < bytes.length, bytes.getD i blank &&& bytes'.getD i blank = bytes'.getD i blank) :
    Stored (programAt m addr bytes') addr bytes' := by
  rw [stored_iff]
  intro i hi
  rw [programAt_apply, if_pos (Nat.le_add_right _ _), h.get (by omega), Nat.add_sub_cancel_left]
  exact hand i (by omega)

theorem marked_byte (m : Mem) (addr k : Nat) {i : Nat} (hi : i < 2) :
    programAt m addr ((Crc.leBytes 2 NV_SECTOR_INVALID).take k) (addr + i) =
      if i < k then m (addr + i) &&& 0x50 else m (addr + i) := by
  have hbytes : Crc.leBytes 2 NV_SECTOR_INVALID = [0x50, 0x50] := rfl
  have hempty := getD_take_append_replicate [0x50, 0x50] k 0 i
  rw [List.replicate_zero, List.append_nil] at hempty
  rw [programAt_apply, if_pos (Nat.le_add_right _ _), Nat.add_sub_cancel_left, hbytes, hempty]
  split
  · have hcases : i = 0 ∨ i = 1 := by omega
    rcases hcases with rfl | rfl <;> rfl
  · exact and_blank _

/-- A mark that is begun is enough. -/
theorem dead_marked {k : Nat} (hk : 0 < k) :
    Dead M (programAt m (M.sectStart sect) ((Crc.leBytes 2 NV_SECTOR_INVALID).take k)) sect := by
  have hlow : programAt m (M.sectStart sect) ((Crc.leBytes 2 NV_SECTOR_INVALID).take k)
      (M.sectStart sect) = m (M.sectStart sect) &&& 0x50 := by
    have hbyte := marked_byte m (M.sectStart sect) k Nat.zero_lt_two
    rwa [if_pos hk] at hbyte
  have hclear : ∀ b : UInt8, b &&& 0x0A ≠ 0 → m (M.sectStart sect) &&& 0x50 ≠ b := by
    rintro b hb rfl
    rw [UInt8.and_assoc] at hb
    exact hb (UInt8.and_zero)
  apply dead_of_low <;> rw [hlow] <;> exact hclear _ (by decide)

theorem Dead.marked (h : Dead M m sect) (k : Nat) :
    Dead M (programAt m (M.sectStart sect) ((Crc.leBytes 2 NV_SECTOR_INVALID).take k)) sect := by
  rcases Nat.eq_zero_or_pos k with rfl | hpos
  · exact h
  · exact dead_marked hpos

theorem Markable.marked {addr : Nat} (h : Markable m addr) (k : Nat) :
    Markable (programAt m addr ((Crc.leBytes 2 NV_SECTOR_INVALID).take k)) addr := by
  have hand : ∀ b : UInt8, b &&& 0x50 &&& 0x50 = b &&& 0x50 := fun b => by
    rw [UInt8.and_assoc, UInt8.and_self]
  have hfirst := marked_byte m addr k Nat.zero_lt_two
  have hsecond := marked_byte m addr k Nat.one_lt_two
  rw [Nat.add_zero] at hfirst
  refine ⟨?_, ?_⟩
  · rw [hfirst]
    split
    · rw [hand]
      exact h.1
    · exact h.1
  · rw [hsecond]
    split
    · rw [hand]
      exact h.2
    · exact h.2

theorem Markable.stored {addr : Nat} (h : Markable m addr) :
    Stored (programAt m addr (Crc.leBytes 2 NV_SECTOR_INVALID)) addr
      (Crc.leBytes 2 NV_SECTOR_INVALID) := by
  rw [stored_iff]
  intro i hi
  have hlength : (Crc.leBytes 2 NV_SECTOR_INVALID).length = 2 := rfl
  rw [hlength] at hi
  have hbyte := marked_byte m addr 2 hi
  rw [if_pos hi, List.take_of_length_le (Nat.le_of_eq hlength)] at hbyte
  rw [hbyte]
  have hcases : i = 0 ∨ i = 1 := by omega
  rcases hcases with rfl | rfl
  · exact h.1
  · exact h.2

theorem ready_and : ∀ i < 2, (Crc.leBytes 2 NV_SECTOR_VALID_READY_CHECKCRC).getD i blank &&&
    (Crc.leBytes 2 NV_SECTOR_VALID_CHECKCRC).getD i blank =
      (Crc.leBytes 2 NV_SECTOR_VALID_CHECKCRC).getD i blank := by decide

theorem toBytes_sectInfoOf (M : NvModule) (flag sect : Nat) : (sectInfoOf M flag sect).toBytes =
    Crc.leBytes 2 flag ++
      [M.id, UInt8.ofNat (sectCrc M.id (UInt8.ofNat sect) * 4 + sect)] := rfl

theorem nvSectorRead_eq {chip chip' : Chip} (hsect : sect < 2)
    (hother : sect = 1 → Dead M chip.mem 0)
    (hat : nvSectorReadAt M chip sect = (some sect, chip')) :
    nvSectorRead M chip = (some sect, chip') := by
  have hcases : sect = 0 ∨ sect = 1 := by omega
  rw [nvSectorRead]
  rcases hcases with rfl | rfl
  · rw [hat]
  · rw [nvSectorReadAt_dead (hother rfl)]
    exact hat

theorem start_within (hM : M.Sized) (hsect : sect < 2) (h : Within M m₀ m) {bytes : List UInt8}
    (hlen : bytes.length ≤ 4) :
    Within M m₀ (programAt m (M.sectStart sect) bytes) := by
  have hend := sectEnd_eq M sect
  have hpos := hM.sector_pos
  have hmod := hM.sector_mod
  exact h.programAt hsect (Nat.le_refl _) (by omega)

theorem otherSect_otherSect (hsect : sect < 2) : otherSect (otherSect sect) = sect := by
  rw [otherSect, otherSect]
  omega

/-- The info of a sector that was erased, when it is written up to some byte. -/
theorem info_torn (hblank : Blank m (M.sectStart sect) 4) (flag k : Nat) :
    Stored (programAt m (M.sectStart sect) ((sectInfoOf M flag sect).toBytes.take k))
      (M.sectStart sect) (firstBytes (sectInfoOf M flag sect).toBytes k) := by
  have hzero : Stored m (M.sectStart sect) (firstBytes (sectInfoOf M flag sect).toBytes 0) :=
    stored_firstBytes_zero.mpr hblank
  have htorn := stored_torn hzero k
  rwa [Nat.zero_max] at htorn

theorem info_stored (hblank : Blank m (M.sectStart sect) 4) (flag : Nat) :
    Stored (programAt m (M.sectStart sect) (sectInfoOf M flag sect).toBytes) (M.sectStart sect)
      (sectInfoOf M flag sect).toBytes :=
  stored_programAt hblank

/-- A cut in the write of an info. -/
theorem info_dead (hM : M.Known) (hE : ∀ c k, LosingCut M c k → E c k)
    (hflag : InUse flag) (hblank : Blank m (M.sectStart sect) 4) {k : Nat} (hk : k < 4)
    (hallowed : ¬ E (.program (M.sectStart sect) (sectInfoOf M flag sect).toBytes) k) :
    Dead M (programAt m (M.sectStart sect) ((sectInfoOf M flag sect).toBytes.take k)) sect := by
  refine dead_torn hM hflag hk (fun hota hthree => ?_) (info_torn hblank flag k)
  exact hallowed (hE _ _ ⟨sect, Or.inr ⟨hota, hthree, flag, rfl⟩⟩)

/-! ## What stays in use -/

variable {P Q : Mem → Nat → Prop} {N O : Prop}

/-- Elsewhere nothing counts but the info of the first sector. -/
theorem InForce.congr (hM : M.Sized) (hP : Local M P) (h : InForce M P m flag sect)
    (hsame : ∀ x, M.sectStart sect ≤ x → x < M.sectEnd sect → m' x = m x)
    (hother : sect = 1 → Dead M m' 0) : InForce M P m' flag sect := by
  have hend := sectEnd_eq M sect
  have hpos := hM.sector_pos
  have hmod := hM.sector_mod
  refine ⟨h.sect_lt, h.info.congr fun x hle hx => hsame x hle ?_, hother,
    hP m m' sect (fun x hle hx => hsame x ?_ hx) h.content⟩
  · rw [NvSectInfo.length_toBytes] at hx
    omega
  · rw [NvModule.idxStart] at hle
    omega

/-- A module is told by its two sectors. -/
theorem Holding.congr (hM : M.Sized) (hP : Local M P) (h : Holding M P N m)
    (hsame : ∀ x, M.sectStart 0 ≤ x → x < M.sectEnd 1 → m' x = m x) : Holding M P N m' := by
  have hpos := hM.sector_pos
  have hmod := hM.sector_mod
  have hsect : ∀ sect < 2, ∀ x, M.sectStart sect ≤ x → x < M.sectEnd sect → m' x = m x := by
    intro sect hlt x hle hx
    have hwithin := sect_within M hlt
    exact hsame x (by omega) (by omega)
  have hdead : ∀ sect < 2, Dead M m sect → Dead M m' sect := by
    intro sect hlt hdead
    have hend := sectEnd_eq M sect
    refine hdead.congr fun x hle hx => hsect sect hlt x hle ?_
    rw [NvModule.idxStart] at hx
    omega
  cases h with
  | valid sect live =>
      exact .valid sect (live.congr hM hP (hsect sect live.sect_lt) fun hone =>
        hdead 0 (by omega) (live.other hone))
  | ready sect live markable =>
      have hlt := otherSect_lt sect
      have hend := sectEnd_eq M (otherSect sect)
      refine .ready sect (live.congr hM hP (hsect sect live.sect_lt) fun hone =>
        hdead 0 (by omega) (live.other hone)) ⟨?_, ?_⟩
      · rw [hsect _ hlt _ (Nat.le_refl _) (by omega)]
        exact markable.1
      · rw [hsect _ hlt _ (Nat.le_add_right _ _) (by omega)]
        exact markable.2
  | empty first second none =>
      exact .empty (hdead 0 (by omega) first) (hdead 1 (by omega) second) none

/-- A mark on the other sector. -/
theorem InForce.mark (hM : M.Sized) (hP : Local M P) (h : InForce M P m flag sect) (k : Nat) :
    InForce M P (programAt m (M.sectStart (otherSect sect))
      ((Crc.leBytes 2 NV_SECTOR_INVALID).take k)) flag sect := by
  have hlength : ((Crc.leBytes 2 NV_SECTOR_INVALID).take k).length ≤ 2 := List.length_take_le' k _
  have hapart := sect_apart M (otherSect_ne sect)
  have hend := sectEnd_eq M (otherSect sect)
  have hpos := hM.sector_pos
  have hmod := hM.sector_mod
  refine h.congr hM hP (fun x hle hx => programAt_apart (by omega)) fun hone => ?_
  have hzero : otherSect sect = 0 := by rw [hone]; rfl
  rw [hzero]
  exact (h.other hone).marked k

/-- What happens behind the info of the other sector leaves the module as it is. -/
theorem InForce.behind (hM : M.Sized) (hP : Local M P) (h : InForce M P m flag sect)
    (hbehind : Behind M (otherSect sect) m m') : InForce M P m' flag sect := by
  have hapart := sect_apart M (otherSect_ne sect)
  have hstart : ∀ sect, M.idxStart sect = M.sectStart sect + 4 := fun _ => rfl
  refine h.congr hM hP (fun x hle hx => hbehind x ?_) fun hone => ?_
  · rw [hstart]
    omega
  · have hzero : otherSect sect = 0 := by rw [hone]; rfl
    refine (h.other hone).congr fun x hle hx => hbehind x ?_
    rw [hzero]
    omega

/-- What happens behind the info of the sector that is in use leaves the info as it is. -/
theorem InForce.replace (hM : M.Sized) (h : InForce M P m flag sect)
    (hbehind : Behind M sect m m') (hcontent : Q m' sect) : InForce M Q m' flag sect := by
  have hstart : ∀ sect, M.idxStart sect = M.sectStart sect + 4 := fun _ => rfl
  refine ⟨h.sect_lt, h.info.congr fun x hle hx => hbehind x ?_, fun hone => ?_, hcontent⟩
  · rw [NvSectInfo.length_toBytes] at hx
    rw [hstart]
    omega
  · have hne : sect ≠ 0 := by omega
    have hapart := sect_apart M hne
    have hend := sectEnd_eq M 0
    have hpos := hM.sector_pos
    have hmod := hM.sector_mod
    refine (h.other hone).congr fun x hle hx => hbehind x ?_
    rw [hstart] at hx ⊢
    omega

/-! ## Taking over -/

/-- The sector that takes over is put in use. -/
theorem InForce.promote (hM : M.Sized) (hP : Local M P)
    (h : InForce M P m NV_SECTOR_VALID_READY_CHECKCRC sect) :
    InForce M P (programAt m (M.sectStart sect) (Crc.leBytes 2 NV_SECTOR_VALID_CHECKCRC))
      NV_SECTOR_VALID_CHECKCRC sect := by
  have hlength : (Crc.leBytes 2 NV_SECTOR_VALID_CHECKCRC).length = 2 := rfl
  have hinfo := h.info
  rw [toBytes_sectInfoOf, stored_append] at hinfo
  obtain ⟨hflag, hrest⟩ := hinfo
  refine ⟨h.sect_lt, ?_, fun hone => ?_, hP _ _ sect (fun x hle _ => programAt_apart ?_) h.content⟩
  · rw [toBytes_sectInfoOf, stored_append]
    refine ⟨stored_over hflag rfl ready_and, hrest.programAt ?_⟩
    right
    rw [hlength]
    exact Nat.le_refl _
  · have hne : 0 ≠ sect := by omega
    have hapart := sect_apart M hne
    have hend := sectEnd_eq M 0
    have hpos := hM.sector_pos
    have hmod := hM.sector_mod
    refine (h.other hone).congr fun x hle hx => programAt_apart ?_
    rw [NvModule.idxStart] at hx
    rw [hlength]
    have hstart := sectEnd_eq M sect
    omega
  · rw [NvModule.idxStart] at hle
    rw [hlength]
    omega

/-- What a write of the driver to the flag of the sector that takes over leaves behind. -/
theorem crashSafe_promote (hM : M.Sized) (hP : Local M P) (hE : ∀ c k, LosingCut M c k → E c k)
    {chip : Chip} (hwithin : Within M m₀ chip.mem)
    (h : InForce M P chip.mem NV_SECTOR_VALID_READY_CHECKCRC sect)
    (hmark : Markable chip.mem (M.sectStart (otherSect sect))) :
    CrashSafe geometry E (Keeping M P N m₀) chip
      (flashWritePage chip (M.sectStart sect) (Crc.leBytes 2 NV_SECTOR_VALID_CHECKCRC)) := by
  have hlength : (Crc.leBytes 2 NV_SECTOR_VALID_CHECKCRC).length = 2 := rfl
  refine crashSafe_start hM h.sect_lt chip (by omega) fun k hk hallowed => ⟨?_, ?_⟩
  · refine start_within hM h.sect_lt hwithin ?_
    rw [List.length_take]
    omega
  · have hcases : k = 0 ∨ k = 1 ∨ k = 2 := by omega
    rcases hcases with rfl | rfl | rfl
    · exact .ready sect h hmark
    · exact absurd (hE _ _ ⟨sect, Or.inl ⟨rfl, rfl⟩⟩) (hallowed (by omega))
    · rw [List.take_of_length_le (Nat.le_of_eq hlength)]
      exact .valid sect (h.promote hM hP)

/-- The flag of the sector that is in use. -/
theorem markable_valid (h : Stored m (M.sectStart sect)
    (sectInfoOf M NV_SECTOR_VALID_CHECKCRC sect).toBytes) : Markable m (M.sectStart sect) := by
  rw [toBytes_sectInfoOf, stored_append] at h
  have hfirst := h.1.get (i := 0) (by decide)
  have hsecond := h.1.get (i := 1) (by decide)
  rw [Nat.add_zero] at hfirst
  rw [Markable, hfirst, hsecond]
  decide

/-- Both infos are written, and the sector that is left has not been marked yet. -/
structure Handover (M : NvModule) (P Q : Mem → Nat → Prop) (m : Mem) (sect : Nat) : Prop where
  sect_lt : sect < 2
  old : Stored m (M.sectStart sect) (sectInfoOf M NV_SECTOR_VALID_CHECKCRC sect).toBytes
  new : Stored m (M.sectStart (otherSect sect))
    (sectInfoOf M NV_SECTOR_VALID_READY_CHECKCRC (otherSect sect)).toBytes
  content : P m sect
  content' : Q m (otherSect sect)

/-- The first sector decides, whichever it is. -/
theorem Handover.holding (h : Handover M P Q m sect) :
    Holding M P N m ∨ Holding M Q O m := by
  have hcases : sect = 0 ∨ sect = 1 := by
    have hsect := h.sect_lt
    omega
  rcases hcases with hzero | hone
  · exact Or.inl (.valid sect ⟨h.sect_lt, h.old, fun hone => by omega, h.content⟩)
  · have hnew : otherSect sect = 0 := by rw [hone]; rfl
    refine Or.inr (.ready (otherSect sect) ⟨otherSect_lt sect, h.new, fun hone' => by omega,
      h.content'⟩ ?_)
    rw [otherSect_otherSect h.sect_lt]
    exact markable_valid h.old

/-- The info of the sector that takes over is written. -/
theorem handover_spec (hM : M.Known) (hP : Local M P) (hQ : Local M Q)
    (hE : ∀ c k, LosingCut M c k → E c k) {chip : Chip} (hwithin : Within M m₀ chip.mem)
    (hlive : InForce M P chip.mem NV_SECTOR_VALID_CHECKCRC sect)
    (hblank : Blank chip.mem (M.sectStart (otherSect sect)) 4)
    (hcontent : Q chip.mem (otherSect sect)) :
    ∃ chip', flashWriteWithCheck chip (M.sectStart (otherSect sect))
        (sectInfoOf M NV_SECTOR_VALID_READY_CHECKCRC (otherSect sect)).toBytes = (true, chip') ∧
      Within M m₀ chip'.mem ∧ Handover M P Q chip'.mem sect ∧
      CrashSafe geometry E (fun m => Keeping M P N m₀ m ∨ Keeping M Q O m₀ m) chip chip' := by
  have hsized := hM.sized
  have hlt := otherSect_lt sect
  have hapart := sect_apart M (otherSect_ne sect)
  have hend := sectEnd_eq M sect
  have hend' := sectEnd_eq M (otherSect sect)
  have hpos := hsized.sector_pos
  have hmod := hsized.sector_mod
  obtain ⟨info, hinfo⟩ : ∃ info, info =
      (sectInfoOf M NV_SECTOR_VALID_READY_CHECKCRC (otherSect sect)).toBytes := ⟨_, rfl⟩
  have hlen : info.length = 4 := hinfo ▸ rfl
  have hsame : ∀ k x, M.sectStart sect ≤ x → x < M.sectEnd sect →
      programAt chip.mem (M.sectStart (otherSect sect)) (info.take k) x = chip.mem x := by
    intro k x hle hx
    have htake := List.length_take_le' k info
    exact programAt_apart (by omega)
  have hsame' := hsame 4
  rw [List.take_of_length_le (Nat.le_of_eq hlen)] at hsame'
  have hstored : Stored (programAt chip.mem (M.sectStart (otherSect sect)) info)
      (M.sectStart (otherSect sect)) info := by
    rw [hinfo]
    exact info_stored hblank _
  have hafter : Within M m₀ (programAt chip.mem (M.sectStart (otherSect sect)) info) :=
    start_within hsized hlt hwithin (by omega)
  have hboth : Handover M P Q (programAt chip.mem (M.sectStart (otherSect sect)) info) sect := by
    refine ⟨hlive.sect_lt, hlive.info.congr fun x hle hx => hsame' x hle ?_, hinfo ▸ hstored,
      hP _ _ sect (fun x hle hx => hsame' x ?_ hx) hlive.content,
      hQ _ _ _ (fun x hle _ => programAt_apart ?_) hcontent⟩
    · rw [NvSectInfo.length_toBytes] at hx
      omega
    · rw [NvModule.idxStart] at hle
      omega
    · rw [NvModule.idxStart] at hle
      omega
  refine ⟨flashWritePage chip (M.sectStart (otherSect sect)) info, ?_, ?_, ?_, ?_⟩
  · rw [← hinfo, flashWriteWithCheck_eq hstored]
  · rw [flashWritePage_mem]
    exact hafter
  · rw [flashWritePage_mem]
    exact hboth
  · refine crashSafe_start hsized hlt chip (by omega) fun k hk hallowed => ?_
    rcases Nat.eq_or_lt_of_le hk with rfl | hlt'
    · rw [List.take_length]
      exact hboth.holding.imp (fun hold => ⟨hafter, hold⟩) fun hnew => ⟨hafter, hnew⟩
    · have htake := List.length_take_le' k info
      refine Or.inl ⟨start_within hsized hlt hwithin (by omega),
        .valid sect (hlive.congr hsized hP (hsame k) fun hone => ?_)⟩
      have hnew : otherSect sect = 0 := by rw [hone]; rfl
      have hallowed' := hallowed hlt'
      rw [hinfo] at hallowed' ⊢
      rw [← hnew]
      exact info_dead hM hE (Or.inr rfl) hblank (by omega) hallowed'

/-- The sector that is left is marked. -/
theorem Handover.mark (hM : M.Sized) (hQ : Local M Q) (h : Handover M P Q m sect) {k : Nat}
    (hk : 0 < k) :
    InForce M Q (programAt m (M.sectStart sect) ((Crc.leBytes 2 NV_SECTOR_INVALID).take k))
        NV_SECTOR_VALID_READY_CHECKCRC (otherSect sect) ∧
      Markable (programAt m (M.sectStart sect) ((Crc.leBytes 2 NV_SECTOR_INVALID).take k))
        (M.sectStart (otherSect (otherSect sect))) := by
  have htake := List.length_take_le' k (Crc.leBytes 2 NV_SECTOR_INVALID)
  have hlength : (Crc.leBytes 2 NV_SECTOR_INVALID).length = 2 := rfl
  have htake' : ((Crc.leBytes 2 NV_SECTOR_INVALID).take k).length ≤ 2 := by
    rw [List.length_take]
    omega
  have hapart := sect_apart M (otherSect_ne sect)
  have hend := sectEnd_eq M sect
  have hend' := sectEnd_eq M (otherSect sect)
  have hpos := hM.sector_pos
  have hmod := hM.sector_mod
  refine ⟨⟨otherSect_lt sect, h.new.programAt ?_, fun hone => ?_,
    hQ _ _ _ (fun x hle hx => programAt_apart ?_) h.content'⟩, ?_⟩
  · rw [NvSectInfo.length_toBytes]
    omega
  · have hzero : sect = 0 := by
      rw [otherSect] at hone
      have hsect := h.sect_lt
      omega
    have hdead : Dead M (programAt m (M.sectStart sect)
        ((Crc.leBytes 2 NV_SECTOR_INVALID).take k)) sect := dead_marked hk
    rwa [hzero] at hdead ⊢
  · rw [NvModule.idxStart] at hle
    omega
  · rw [otherSect_otherSect h.sect_lt]
    exact (markable_valid h.old).marked k

/-- The other sector takes over with the last command, the one that completes its flag. -/
def TakesOver (M : NvModule) (P : Mem → Nat → Prop) (sect : Nat) (chip chip' : Chip) : Prop :=
  ∃ cs chip₁, chip₁ = chip.run geometry cs ∧
    chip' = flashWritePage chip₁ (M.sectStart (otherSect sect))
      (Crc.leBytes 2 NV_SECTOR_VALID_CHECKCRC) ∧
    InForce M P chip₁.mem NV_SECTOR_VALID_READY_CHECKCRC (otherSect sect) ∧
    Dead M chip₁.mem sect

theorem TakesOver.after {chip chip₁ chip' : Chip} (hrun : ∃ cs, chip₁ = chip.run geometry cs)
    (h : TakesOver M P sect chip₁ chip') : TakesOver M P sect chip chip' := by
  rcases hrun with ⟨cs, rfl⟩
  rcases h with ⟨ds, chip₂, rfl, hready⟩
  exact ⟨cs ++ ds, _, (chip.run_append geometry cs ds).symm, hready⟩

/-- The sector that was made ready takes over: its info is written, the one before is marked, and
then its flag is completed. -/
theorem takeOver_spec (hM : M.Known) (hP : Local M P) (hQ : Local M Q)
    (hE : ∀ c k, LosingCut M c k → E c k) {chip : Chip} (hwithin : Within M m₀ chip.mem)
    (hlive : InForce M P chip.mem NV_SECTOR_VALID_CHECKCRC sect)
    (hblank : Blank chip.mem (M.sectStart (otherSect sect)) 4)
    (hcontent : Q chip.mem (otherSect sect)) :
    ∃ chip₁ chip₂ chip', flashWriteWithCheck chip (M.sectStart (otherSect sect))
        (sectInfoOf M NV_SECTOR_VALID_READY_CHECKCRC (otherSect sect)).toBytes = (true, chip₁) ∧
      flashWriteWithCheck chip₁ (M.sectStart sect) (Crc.leBytes 2 NV_SECTOR_INVALID) =
        (true, chip₂) ∧
      (flashWriteWithCheck chip₂ (M.sectStart (otherSect sect))
        (Crc.leBytes 2 NV_SECTOR_VALID_CHECKCRC)).2 = chip' ∧
      Within M m₀ chip'.mem ∧ InForce M Q chip'.mem NV_SECTOR_VALID_CHECKCRC (otherSect sect) ∧
      TakesOver M Q sect chip chip' ∧
      CrashSafe geometry E (fun m => Keeping M P N m₀ m ∨ Keeping M Q O m₀ m) chip chip' := by
  have hsized := hM.sized
  have hmarklen : (Crc.leBytes 2 NV_SECTOR_INVALID).length = 2 := rfl
  obtain ⟨chip₁, hinfo, hwithin₁, hboth, hsafe₁⟩ :=
    handover_spec (N := N) (O := O) hM hP hQ hE hwithin hlive hblank hcontent
  obtain ⟨chip₂, hchip₂⟩ : ∃ chip₂, chip₂ = flashWritePage chip₁ (M.sectStart sect)
      (Crc.leBytes 2 NV_SECTOR_INVALID) := ⟨_, rfl⟩
  have hmem₂ : chip₂.mem = programAt chip₁.mem (M.sectStart sect)
      ((Crc.leBytes 2 NV_SECTOR_INVALID).take 2) := by
    rw [hchip₂, flashWritePage_mem, List.take_of_length_le (Nat.le_of_eq hmarklen)]
  have hwithin₂ : ∀ k, Within M m₀ (programAt chip₁.mem (M.sectStart sect)
      ((Crc.leBytes 2 NV_SECTOR_INVALID).take k)) := by
    intro k
    have htake := List.length_take_le' k (Crc.leBytes 2 NV_SECTOR_INVALID)
    exact start_within hsized hlive.sect_lt hwithin₁ (by omega)
  have hsafe₂ : CrashSafe geometry E (fun m => Keeping M P N m₀ m ∨ Keeping M Q O m₀ m) chip₁
      chip₂ := by
    rw [hchip₂]
    refine crashSafe_start hsized hlive.sect_lt chip₁ (by omega) fun k hk _ => ?_
    rcases Nat.eq_zero_or_pos k with rfl | hpos
    · exact hboth.holding.imp (fun hold => ⟨hwithin₁, hold⟩) fun hnew => ⟨hwithin₁, hnew⟩
    · obtain ⟨hready, hmark⟩ := hboth.mark hsized hQ hpos
      exact Or.inr ⟨hwithin₂ k, .ready _ hready hmark⟩
  obtain ⟨hready, hmark⟩ := hboth.mark hsized hQ Nat.zero_lt_two
  have hwithin₂' := hwithin₂ 2
  have hdead : Dead M (programAt chip₁.mem (M.sectStart sect)
    ((Crc.leBytes 2 NV_SECTOR_INVALID).take 2)) sect := dead_marked Nat.zero_lt_two
  rw [← hmem₂] at hready hmark hwithin₂' hdead
  have hsafe₃ := crashSafe_promote (N := O) hsized hQ hE hwithin₂' hready hmark
  obtain ⟨cs, hrun⟩ := (hsafe₁.trans hsafe₂).run
  refine ⟨chip₁, chip₂, flashWritePage chip₂ (M.sectStart (otherSect sect))
    (Crc.leBytes 2 NV_SECTOR_VALID_CHECKCRC), hinfo, ?_, rfl, hsafe₃.post.1, ?_,
    ⟨cs, chip₂, hrun, rfl, hready, hdead⟩,
    hsafe₁.trans (hsafe₂.trans (hsafe₃.mono fun m hm => Or.inr hm))⟩
  · rw [flashWriteWithCheck_eq (markable_valid hboth.old).stored, hchip₂]
  · rw [flashWritePage_mem]
    exact hready.promote hsized hQ

/-- The info of the first sector, when nothing was in use before. -/
theorem firstInfo_spec (hM : M.Known) (hP : Local M P) (hE : ∀ c k, LosingCut M c k → E c k)
    {chip : Chip} (hwithin : Within M m₀ chip.mem) (hdead : Dead M chip.mem 1)
    (hblank : Blank chip.mem (M.sectStart 0) 4) (hcontent : P chip.mem 0) (hnone : N)
    (hflag : InUse flag) :
    ∃ chip', flashWriteWithCheck chip (M.sectStart 0) (sectInfoOf M flag 0).toBytes =
        (true, chip') ∧
      chip'.mem = programAt chip.mem (M.sectStart 0) (sectInfoOf M flag 0).toBytes ∧
      Within M m₀ chip'.mem ∧ InForce M P chip'.mem flag 0 ∧
      CrashSafe geometry E (fun m => Keeping M Q N m₀ m ∨ m = chip'.mem) chip chip' := by
  have hsized := hM.sized
  have hlen : (sectInfoOf M flag 0).toBytes.length = 4 := rfl
  have hstored := info_stored hblank flag
  have hwithin' : Within M m₀ (programAt chip.mem (M.sectStart 0) (sectInfoOf M flag 0).toBytes) :=
    start_within hsized Nat.zero_lt_two hwithin (by omega)
  have hlive : InForce M P (programAt chip.mem (M.sectStart 0) (sectInfoOf M flag 0).toBytes)
      flag 0 := by
    refine ⟨Nat.zero_lt_two, hstored, fun hone => (nomatch hone),
      hP _ _ 0 (fun x hle _ => programAt_apart ?_) hcontent⟩
    rw [NvModule.idxStart] at hle
    omega
  refine ⟨flashWritePage chip (M.sectStart 0) (sectInfoOf M flag 0).toBytes, ?_, ?_, ?_, ?_, ?_⟩
  · exact flashWriteWithCheck_eq hstored
  · rw [flashWritePage_mem]
  · rw [flashWritePage_mem]
    exact hwithin'
  · rw [flashWritePage_mem]
    exact hlive
  · refine crashSafe_start hsized Nat.zero_lt_two chip (by omega) fun k hk hallowed => ?_
    rcases Nat.eq_or_lt_of_le hk with rfl | hlt
    · rw [List.take_length, flashWritePage_mem]
      exact Or.inr rfl
    · have htake := List.length_take_le' k (sectInfoOf M flag 0).toBytes
      have hone : (0 : Nat) ≠ 1 := by decide
      have hapart := sect_apart M hone
      have hend := sectEnd_eq M 0
      have hpos := hsized.sector_pos
      have hmod := hsized.sector_mod
      have hend' := sectEnd_eq M 1
      refine Or.inl ⟨start_within hsized Nat.zero_lt_two hwithin (by omega), .empty
        (info_dead hM hE hflag hblank (by omega) (hallowed hlt))
        (hdead.congr fun x hle hx => programAt_apart ?_) hnone⟩
      rw [NvModule.idxStart] at hx
      omega

/-! ## Looking for the sector in use -/

theorem InForce.nvSectorRead {chip : Chip}
    (h : InForce M P chip.mem NV_SECTOR_VALID_CHECKCRC sect) :
    NvDriver.nvSectorRead M chip = (some sect, chip) := by
  refine nvSectorRead_eq h.sect_lt h.other ?_
  have hused : (sectInfoOf M NV_SECTOR_VALID_CHECKCRC sect).usedFlag =
      NV_SECTOR_VALID_CHECKCRC := rfl
  have hcheck : sectValidCheck (sectInfoOf M NV_SECTOR_VALID_CHECKCRC sect) = true := rfl
  rw [nvSectorReadAt, readInfo_of_stored (Or.inl rfl) h.info]
  dsimp only
  rw [hused, if_neg (by decide), if_pos ⟨hcheck, rfl⟩, if_pos rfl,
    sectInfoOf_crc M _ h.sect_lt, if_pos rfl, sectInfoOf_sect M _ h.sect_lt]

/-- The sector that took over is the one in use. -/
theorem TakesOver.nvSectorRead (hM : M.Sized) (hP : Local M P) {chip chip' : Chip}
    (h : TakesOver M P sect chip chip') :
    NvDriver.nvSectorRead M chip' = (some (otherSect sect), chip') := by
  rcases h with ⟨_, chip₁, -, rfl, hready, -⟩
  apply InForce.nvSectorRead (P := P)
  rw [flashWritePage_mem]
  exact hready.promote hM hP

/-- Looking for the sector in use finishes what was left undone, and loses nothing. -/
theorem nvSectorRead_spec (hM : M.Sized) (hP : Local M P) (hE : ∀ c k, LosingCut M c k → E c k)
    {chip : Chip} (h : Holding M P N chip.mem) :
    (∃ sect chip', NvDriver.nvSectorRead M chip = (some sect, chip') ∧
      InForce M P chip'.mem NV_SECTOR_VALID_CHECKCRC sect ∧
      CrashSafe geometry E (Keeping M P N chip.mem) chip chip') ∨
    (NvDriver.nvSectorRead M chip = (none, chip) ∧ Dead M chip.mem 0 ∧ Dead M chip.mem 1 ∧ N) := by
  have hrefl : Keeping M P N chip.mem chip.mem := ⟨Within.refl M chip.mem, h⟩
  cases h with
  | valid sect live => exact Or.inl ⟨sect, chip, live.nvSectorRead, live, crashSafe_refl hrefl⟩
  | ready sect live markable =>
      left
      have hused : (sectInfoOf M NV_SECTOR_VALID_READY_CHECKCRC sect).usedFlag =
          NV_SECTOR_VALID_READY_CHECKCRC := rfl
      have hlength : (Crc.leBytes 2 NV_SECTOR_INVALID).length = 2 := rfl
      obtain ⟨chip₁, hchip₁⟩ : ∃ chip₁, chip₁ = flashWritePage chip
          (M.sectStart (otherSect sect)) (Crc.leBytes 2 NV_SECTOR_INVALID) := ⟨_, rfl⟩
      have hmem₁ : chip₁.mem = programAt chip.mem (M.sectStart (otherSect sect))
          ((Crc.leBytes 2 NV_SECTOR_INVALID).take 2) := by
        rw [hchip₁, flashWritePage_mem, List.take_of_length_le (Nat.le_of_eq hlength)]
      have hwithin : ∀ k, Within M chip.mem (programAt chip.mem (M.sectStart (otherSect sect))
          ((Crc.leBytes 2 NV_SECTOR_INVALID).take k)) := by
        intro k
        refine start_within hM (otherSect_lt sect) (Within.refl M chip.mem) ?_
        rw [List.length_take]
        omega
      have hsafe₁ : CrashSafe geometry E (Keeping M P N chip.mem) chip chip₁ := by
        rw [hchip₁]
        exact crashSafe_start hM (otherSect_lt sect) chip (by omega) fun k _ _ =>
          ⟨hwithin k, .ready sect (live.mark hM hP k) (markable.marked k)⟩
      have hlive₁ : InForce M P chip₁.mem NV_SECTOR_VALID_READY_CHECKCRC sect := by
        rw [hmem₁]
        exact live.mark hM hP 2
      have hmark₁ : Markable chip₁.mem (M.sectStart (otherSect sect)) := by
        rw [hmem₁]
        exact markable.marked 2
      have hsafe₂ := crashSafe_promote (N := N) hM hP hE hsafe₁.post.1 hlive₁ hmark₁
      refine ⟨sect, flashWritePage chip₁ (M.sectStart sect)
        (Crc.leBytes 2 NV_SECTOR_VALID_CHECKCRC), ?_, ?_, hsafe₁.trans hsafe₂⟩
      · refine nvSectorRead_eq live.sect_lt live.other ?_
        rw [nvSectorReadAt, readInfo_of_stored (Or.inr rfl) live.info]
        dsimp only
        rw [hused, if_pos rfl, sectInfoOf_crc M _ live.sect_lt, if_pos rfl,
          sectInfoOf_sect M _ live.sect_lt, flashWriteWithCheck_eq markable.stored, ← hchip₁]
        rfl
      · rw [flashWritePage_mem]
        exact hlive₁.promote hM hP
  | empty first second none =>
      right
      refine ⟨?_, first, second, none⟩
      rw [NvDriver.nvSectorRead, nvSectorReadAt_dead first]
      exact nvSectorReadAt_dead second

end NvDriver
