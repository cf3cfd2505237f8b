import TuyaMiniSwitch.App.OnOffLog
import TuyaMiniSwitch.Library.RecordRun

/-!
# Application - The slots of the status log

The status sector seen as a sequence of slots, and what the log functions do to
the slots.

Main results:

- Theorem {lit}`statusOnoffRestore_spec`: a restore ends for every flash
  content, in the default state if no slot is valid and at the end of the first
  run of valid slots otherwise.
- Theorem {lit}`saveStatus_eq`: a save programs the next slot and erases the
  sector first if that slot is slot 0.
-/

namespace OnOffLog

open NorFlash FlashDriver Utility RecordRun

/-- Number of slots in the sector. -/
def SLOTS : Nat := 1024

/-- Address of a slot. -/
def slotAddr (i : Nat) : Nat := BEGIN_STATUS_ONOFF_DATA + FLASH_SAVE_SIZE * i

/-- The record in a slot. -/
def slotRecord (m : Mem) (i : Nat) : StatusOnoff :=
  .ofBytes (readBytes m (slotAddr i) statusOnoffSize)

/-- A slot that the scans take for a record. -/
def ValidSlot (m : Mem) (i : Nat) : Prop := (slotRecord m i).valid = true

/-- All bytes of a slot are erased. -/
def BlankSlot (m : Mem) (i : Nat) : Prop :=
  ∀ j, j < FLASH_SAVE_SIZE → m (slotAddr i + j) = blank

/-- Two flash contents agree on a slot. -/
def SameSlot (m m' : Mem) (i : Nat) : Prop :=
  ∀ j, j < FLASH_SAVE_SIZE → m (slotAddr i + j) = m' (slotAddr i + j)

/-- The record that stores a status. -/
def mkRecord (v : UInt8) : StatusOnoff := ⟨ID_SETTING, v, ID_SETTING + v⟩

/-- Programming a record of this status into the slot makes it the record. -/
def Takes (m : Mem) (i : Nat) (v : UInt8) : Prop :=
  slotRecord (runCmd geometry m (.program (slotAddr i) (mkRecord v).toBytes)) i = mkRecord v

/-- The slot the next save uses. -/
def nextSlot (last : Nat) : Nat := if last + 1 = SLOTS then 0 else last + 1

/-- The flash commands of a save. -/
def saveCmds (last : Nat) (v : UInt8) : List Cmd :=
  if last + 1 = SLOTS then
    [.erase BEGIN_STATUS_ONOFF_DATA, .program (slotAddr 0) (mkRecord v).toBytes]
  else
    [.program (slotAddr (last + 1)) (mkRecord v).toBytes]

/-! ## Records -/

theorem checksum_toBytes (r : StatusOnoff) : checksum r.toBytes = r.id + r.status_onoff := by
  simp [checksum, StatusOnoff.toBytes]

theorem valid_iff (r : StatusOnoff) :
    r.valid = true ↔ r.id = ID_SETTING ∧ r.id + r.status_onoff = r.crc := by
  simp [StatusOnoff.valid, checksum_toBytes]

@[simp] theorem valid_mkRecord (v : UInt8) : (mkRecord v).valid = true := by
  simp [valid_iff, mkRecord]

theorem slotRecord_eq (m : Mem) (i : Nat) :
    slotRecord m i = ⟨m (slotAddr i), m (slotAddr i + 1), m (slotAddr i + 2)⟩ := rfl

theorem SameSlot.slotRecord_eq {m m' : Mem} {i : Nat} (hsame : SameSlot m m' i) :
    slotRecord m i = slotRecord m' i := by
  have hzero := hsame 0 (by decide)
  have hone := hsame 1 (by decide)
  have htwo := hsame 2 (by decide)
  rw [Nat.add_zero] at hzero
  rw [OnOffLog.slotRecord_eq, OnOffLog.slotRecord_eq, hzero, hone, htwo]

theorem SameSlot.validSlot_iff {m m' : Mem} {i : Nat} (hsame : SameSlot m m' i) :
    ValidSlot m i ↔ ValidSlot m' i := by
  rw [ValidSlot, ValidSlot, hsame.slotRecord_eq]

theorem SameSlot.blankSlot {m m' : Mem} {i : Nat} (hsame : SameSlot m m' i)
    (hblank : BlankSlot m' i) : BlankSlot m i := by
  intro j hj
  rw [hsame j hj]
  exact hblank j hj

/-! ## Programming a slot -/

theorem slotAddr_fits {i n : Nat} (hn : n ≤ FLASH_SAVE_SIZE) :
    slotAddr i % PAGE_SIZE + n ≤ PAGE_SIZE := by
  simp only [slotAddr, BEGIN_STATUS_ONOFF_DATA, FLASH_SAVE_SIZE, PAGE_SIZE] at *
  omega

/-- A record never crosses a page. -/
theorem record_fits (i : Nat) (r : StatusOnoff) :
    slotAddr i % PAGE_SIZE + r.toBytes.length ≤ PAGE_SIZE :=
  slotAddr_fits (n := 3) (by decide)

theorem begin_fits (r : StatusOnoff) :
    BEGIN_STATUS_ONOFF_DATA % PAGE_SIZE + r.toBytes.length ≤ PAGE_SIZE :=
  record_fits 0 r

theorem length_toBytes (r : StatusOnoff) : r.toBytes.length = 3 := rfl

/-- What programming a prefix of a record does to a byte of the sector. -/
theorem program_slot_apply (m : Mem) (i k : Nat) (r : StatusOnoff) (x : Nat) :
    runCmd geometry m (.program (slotAddr i) (r.toBytes.take k)) x =
      if slotAddr i ≤ x then m x &&& (r.toBytes.take k).getD (x - slotAddr i) blank else m x := by
  have hlen : (r.toBytes.take k).length ≤ FLASH_SAVE_SIZE := by
    rw [List.length_take, length_toBytes, FLASH_SAVE_SIZE]
    omega
  rw [runCmd_program_of_fit m (slotAddr_fits hlen), programAt_apply]

/-- Programming a slot does not reach the other slots. -/
theorem sameSlot_program (m : Mem) {i i' : Nat} (k : Nat) (r : StatusOnoff) (hne : i' ≠ i) :
    SameSlot (runCmd geometry m (.program (slotAddr i) (r.toBytes.take k))) m i' := by
  intro j hj
  have hlen : (r.toBytes.take k).length ≤ 3 := by
    rw [List.length_take, length_toBytes]
    omega
  have hlen' : (r.toBytes.take k).length ≤ FLASH_SAVE_SIZE := by
    rw [FLASH_SAVE_SIZE]
    omega
  rw [runCmd_program_of_fit m (slotAddr_fits hlen')]
  simp only [slotAddr, FLASH_SAVE_SIZE] at *
  rcases Nat.lt_or_gt_of_ne hne with hlt | hgt
  · exact programAt_of_lt _ (by omega)
  · exact programAt_of_ge (by omega)

/-- What programming a prefix of a record leaves in its slot. -/
theorem slotRecord_program_self (m : Mem) (i k : Nat) (r : StatusOnoff) :
    slotRecord (runCmd geometry m (.program (slotAddr i) (r.toBytes.take k))) i =
      ⟨m (slotAddr i) &&& (r.toBytes.take k).getD 0 blank,
       m (slotAddr i + 1) &&& (r.toBytes.take k).getD 1 blank,
       m (slotAddr i + 2) &&& (r.toBytes.take k).getD 2 blank⟩ := by
  rw [slotRecord_eq]
  simp only [program_slot_apply]
  simp

theorem take_toBytes {k : Nat} (r : StatusOnoff) (hk : 3 ≤ k) : r.toBytes.take k = r.toBytes :=
  List.take_of_length_le hk

/-- Whether a slot takes a record depends on its first three bytes. -/
theorem takes_iff (m : Mem) (i : Nat) (v : UInt8) :
    Takes m i v ↔ m (slotAddr i) &&& ID_SETTING = ID_SETTING ∧ m (slotAddr i + 1) &&& v = v ∧
      m (slotAddr i + 2) &&& (ID_SETTING + v) = ID_SETTING + v := by
  have hself := slotRecord_program_self m i 3 (mkRecord v)
  rw [take_toBytes _ (Nat.le_refl 3)] at hself
  rw [Takes, hself]
  simp [mkRecord, StatusOnoff.toBytes]

theorem SameSlot.takes_iff {m m' : Mem} {i : Nat} {v : UInt8} (hsame : SameSlot m m' i) :
    Takes m i v ↔ Takes m' i v := by
  have hzero := hsame 0 (by decide)
  have hone := hsame 1 (by decide)
  have htwo := hsame 2 (by decide)
  rw [Nat.add_zero] at hzero
  rw [OnOffLog.takes_iff, OnOffLog.takes_iff, hzero, hone, htwo]

theorem BlankSlot.takes {m : Mem} {i : Nat} (hblank : BlankSlot m i) (v : UInt8) :
    Takes m i v := by
  have hzero := hblank 0 (by decide)
  have hone := hblank 1 (by decide)
  have htwo := hblank 2 (by decide)
  rw [Nat.add_zero] at hzero
  rw [takes_iff, hzero, hone, htwo]
  exact ⟨blank_and _, blank_and _, blank_and _⟩

theorem BlankSlot.not_valid {m : Mem} {i : Nat} (hblank : BlankSlot m i) : ¬ ValidSlot m i := by
  have hzero := hblank 0 (by decide)
  rw [Nat.add_zero] at hzero
  rw [ValidSlot, valid_iff, slotRecord_eq, hzero]
  have hne : blank ≠ ID_SETTING := by decide
  intro h
  exact hne h.1

theorem Takes.validSlot {m : Mem} {i : Nat} {v : UInt8} (htakes : Takes m i v) :
    ValidSlot (runCmd geometry m (.program (slotAddr i) (mkRecord v).toBytes)) i := by
  rw [ValidSlot, htakes]
  exact valid_mkRecord v

/-- Erasing the sector blanks every slot. -/
theorem blankSlot_erase (m : Mem) {i : Nat} (hi : i < SLOTS) :
    BlankSlot (runCmd geometry m (.erase BEGIN_STATUS_ONOFF_DATA)) i := by
  intro j hj
  simp only [FLASH_SAVE_SIZE, SLOTS] at hi hj
  have hdiv : (slotAddr i + j) / 4096 = BEGIN_STATUS_ONOFF_DATA / 4096 := by
    simp only [slotAddr, BEGIN_STATUS_ONOFF_DATA, FLASH_SAVE_SIZE]
    omega
  simp [runCmd, eraseSector, hdiv]

/-! ## Save -/

/-- The default record. -/
def defaultCmds : List Cmd :=
  [.erase BEGIN_STATUS_ONOFF_DATA, .program (slotAddr 0) (mkRecord ZCL_ONOFF_STATUS_OFF).toBytes]

theorem initDefaultStatusOnoff_eq (log : StatusLog) :
    initDefaultStatusOnoff log = (mkRecord ZCL_ONOFF_STATUS_OFF,
      { chip := log.chip.run geometry defaultCmds
        flash_addr_start := slotAddr 0
        status_onoff := log.status_onoff }) := by
  simp only [initDefaultStatusOnoff, flashEraseSector, checksum_toBytes]
  rw [flashWritePage_of_fit _ (begin_fits _)]
  rfl

/-- A save appends a record in the next slot, after an erase if the log wraps. -/
theorem saveStatus_eq {log : StatusLog} {last : Nat} (v : UInt8) (hlast : last < SLOTS)
    (hptr : log.flash_addr_start = slotAddr last) (hid : log.status_onoff.id = ID_SETTING) :
    log.saveStatus v =
      { chip := log.chip.run geometry (saveCmds last v)
        flash_addr_start := slotAddr (nextSlot last)
        status_onoff := mkRecord v } := by
  have hrecord :
      (⟨log.status_onoff.id, v, log.status_onoff.id + v⟩ : StatusOnoff) = mkRecord v := by
    rw [hid]
    rfl
  simp only [StatusLog.saveStatus, statusOnoffSave, checksum_toBytes, hptr, hrecord]
  by_cases hwrap : last + 1 = SLOTS
  · have hend : slotAddr last + FLASH_SAVE_SIZE = END_STATUS_ONOFF_DATA := by
      simp only [SLOTS, slotAddr, FLASH_SAVE_SIZE, BEGIN_STATUS_ONOFF_DATA,
        END_STATUS_ONOFF_DATA] at *
      omega
    have hsector : BEGIN_STATUS_ONOFF_DATA % FLASH_SECTOR_SIZE = 0 := by decide
    simp only [hend, hsector, if_true, nextSlot, saveCmds, hwrap, flashEraseSector]
    rw [flashWritePage_of_fit _ (begin_fits _)]
    rfl
  · have hend : slotAddr last + FLASH_SAVE_SIZE ≠ END_STATUS_ONOFF_DATA := by
      simp only [SLOTS, slotAddr, FLASH_SAVE_SIZE, BEGIN_STATUS_ONOFF_DATA,
        END_STATUS_ONOFF_DATA] at *
      omega
    have hsector : (slotAddr last + FLASH_SAVE_SIZE) % FLASH_SECTOR_SIZE ≠ 0 := by
      simp only [SLOTS, slotAddr, FLASH_SAVE_SIZE, BEGIN_STATUS_ONOFF_DATA,
        FLASH_SECTOR_SIZE] at *
      omega
    have hnext : slotAddr last + FLASH_SAVE_SIZE = slotAddr (last + 1) := by
      simp only [slotAddr, FLASH_SAVE_SIZE]
      omega
    simp only [if_neg hend, if_neg hsector, nextSlot, saveCmds, hwrap, if_false]
    rw [hnext, flashWritePage_of_fit _ (record_fits _ _)]
    rfl

/-! ## Restore -/

/-- What a restore can come to. -/
inductive Restored (log r : StatusLog) : Prop
  /-- No slot is valid and the default record is written. -/
  | fresh (reads : List Cmd) (hreads : OnlyReads reads)
      (hnone : NoRecord (ValidSlot log.chip.mem) SLOTS)
      (hresult : r = {
        chip := log.chip.run geometry (reads ++ defaultCmds)
        flash_addr_start := slotAddr 0
        status_onoff := mkRecord ZCL_ONOFF_STATUS_OFF })
  /-- The last record of the first run is taken. -/
  | found (reads : List Cmd) (first last : Nat) (hreads : OnlyReads reads)
      (hrun : FirstRun (ValidSlot log.chip.mem) SLOTS first last)
      (hresult : r = {
        chip := log.chip.run geometry reads
        flash_addr_start := slotAddr last
        status_onoff := slotRecord log.chip.mem last })

/-- A scan has read the chip only, and stands at the beginning of a slot. -/
structure ScanAt (chip : Chip) (s : Scan) (i : Nat) : Prop where
  bound : i ≤ SLOTS
  addr : s.flash_addr = slotAddr i
  chip_reads : ∃ reads, OnlyReads reads ∧ s.chip = chip.run geometry reads

theorem ScanAt.mem {chip : Chip} {s : Scan} {i : Nat} (hs : ScanAt chip s i) :
    s.chip.mem = chip.mem := by
  rcases hs.chip_reads with ⟨reads, hreads, hchip⟩
  rw [hchip, Chip.run_mem, hreads.runCmds]

/-- Reading the slot and moving on to the next one. -/
theorem ScanAt.next {chip : Chip} {s : Scan} {i : Nat} (hs : ScanAt chip s i)
    (hi : i < SLOTS) (r : StatusOnoff) :
    ScanAt chip
      { chip := (flashReadPage s.chip s.flash_addr statusOnoffSize).2
        flash_addr := s.flash_addr + FLASH_SAVE_SIZE
        onoff_curr := r } (i + 1) := by
  rcases hs.chip_reads with ⟨reads, hreads, hchip⟩
  refine ⟨hi, ?_, reads ++ [.read s.flash_addr statusOnoffSize], hreads.snoc _ _, ?_⟩
  · simp only [hs.addr, slotAddr, FLASH_SAVE_SIZE]
    omega
  · simp only [flashReadPage, hchip, Chip.run_snoc]

/-- Reading the slot and staying there. -/
theorem ScanAt.stay {chip : Chip} {s : Scan} {i : Nat} (hs : ScanAt chip s i) (r : StatusOnoff) :
    ScanAt chip
      { chip := (flashReadPage s.chip s.flash_addr statusOnoffSize).2
        flash_addr := s.flash_addr
        onoff_curr := r } i := by
  rcases hs.chip_reads with ⟨reads, hreads, hchip⟩
  refine ⟨hs.bound, hs.addr, reads ++ [.read s.flash_addr statusOnoffSize], hreads.snoc _ _, ?_⟩
  simp only [flashReadPage, hchip, Chip.run_snoc]

theorem ScanAt.read {chip : Chip} {s : Scan} {i : Nat} (hs : ScanAt chip s i) :
    StatusOnoff.ofBytes (flashReadPage s.chip s.flash_addr statusOnoffSize).1 =
      slotRecord chip.mem i := by
  simp only [flashReadPage, hs.mem, hs.addr, slotRecord]

theorem ScanAt.lt_end_iff {chip : Chip} {s : Scan} {i : Nat} (hs : ScanAt chip s i) :
    s.flash_addr < END_STATUS_ONOFF_DATA ↔ i < SLOTS := by
  rw [hs.addr]
  simp only [slotAddr, BEGIN_STATUS_ONOFF_DATA, END_STATUS_ONOFF_DATA, FLASH_SAVE_SIZE, SLOTS]
  omega

/-- Slots left in front of a scan. -/
def slotsLeft (s : Scan) : Nat := (END_STATUS_ONOFF_DATA - s.flash_addr) / FLASH_SAVE_SIZE

theorem ScanAt.slotsLeft {chip : Chip} {s : Scan} {i : Nat} (hs : ScanAt chip s i) :
    slotsLeft s = SLOTS - i := by
  have hbound := hs.bound
  rw [OnOffLog.slotsLeft, hs.addr]
  simp only [slotAddr, BEGIN_STATUS_ONOFF_DATA, END_STATUS_ONOFF_DATA, FLASH_SAVE_SIZE,
    SLOTS] at *
  omega

/-- No slot in front of the first scan is valid. -/
def FindInv (chip : Chip) (s : Scan) : Prop :=
  ∃ i, ScanAt chip s i ∧ ∀ j, j < i → ¬ ValidSlot chip.mem j

/-- The first scan ends behind the sector or at the first valid slot. -/
def FindPost (chip : Chip) (s : Scan) : Prop :=
  ∃ i, ScanAt chip s i ∧ (∀ j, j < i → ¬ ValidSlot chip.mem j) ∧
    (i < SLOTS → ValidSlot chip.mem i ∧ s.onoff_curr = slotRecord chip.mem i)

theorem findPass_continue {chip : Chip} {s s' : Scan} (hs : FindInv chip s)
    (hbody : findPass s = .inl s') : FindInv chip s' ∧ slotsLeft s' < slotsLeft s := by
  rcases hs with ⟨i, hat, hbefore⟩
  unfold findPass at hbody
  simp only [hat.lt_end_iff, hat.read] at hbody
  split at hbody
  · rename_i hi
    split at hbody
    · cases hbody
    · rename_i hinvalid
      cases hbody
      have hnext := hat.next hi (slotRecord chip.mem i)
      refine ⟨⟨i + 1, hnext, fun j hj => ?_⟩, ?_⟩
      · rcases Nat.lt_succ_iff_lt_or_eq.mp hj with hlt | heq
        · exact hbefore j hlt
        · rw [heq]
          exact hinvalid
      · rw [hnext.slotsLeft, hat.slotsLeft]
        omega
  · cases hbody

theorem findPass_exit {chip : Chip} {s s' : Scan} (hs : FindInv chip s)
    (hbody : findPass s = .inr s') : FindPost chip s' := by
  rcases hs with ⟨i, hat, hbefore⟩
  unfold findPass at hbody
  simp only [hat.lt_end_iff, hat.read] at hbody
  split at hbody
  · split at hbody
    · rename_i hvalid
      cases hbody
      exact ⟨i, hat.stay _, hbefore, fun _ => ⟨hvalid, rfl⟩⟩
    · cases hbody
  · rename_i hend
    cases hbody
    exact ⟨i, hat, hbefore, fun hi => absurd hi hend⟩

theorem findPass_total (chip : Chip) (r : StatusOnoff) :
    ∃ s, Loop.run findPass scanFuel ⟨chip, BEGIN_STATUS_ONOFF_DATA, r⟩ = some s ∧
      FindPost chip s := by
  have hstart : ScanAt chip ⟨chip, BEGIN_STATUS_ONOFF_DATA, r⟩ 0 :=
    ⟨Nat.zero_le _, rfl, [], onlyReads_nil, rfl⟩
  have hfuel : slotsLeft ⟨chip, BEGIN_STATUS_ONOFF_DATA, r⟩ < scanFuel := by
    rw [hstart.slotsLeft]
    decide
  exact Loop.run_total (FindInv chip) slotsLeft (FindPost chip)
    (fun _ _ => findPass_continue) (fun _ _ => findPass_exit)
    ⟨0, hstart, fun j hj => absurd hj (Nat.not_lt_zero j)⟩ hfuel

/-- The second scan has followed valid slots and holds the last one. -/
def FollowInv (chip : Chip) (first : Nat) (s : Scan) : Prop :=
  ∃ last, first ≤ last ∧ ScanAt chip s (last + 1) ∧ s.onoff_curr = slotRecord chip.mem last ∧
    ∀ j, first ≤ j → j ≤ last → ValidSlot chip.mem j

/-- The second scan ends behind the last slot of the run. -/
def FollowPost (chip : Chip) (first : Nat) (s : Scan) : Prop :=
  ∃ last, first ≤ last ∧ ScanAt chip s (last + 1) ∧ s.onoff_curr = slotRecord chip.mem last ∧
    (∀ j, first ≤ j → j ≤ last → ValidSlot chip.mem j) ∧
    (last + 1 < SLOTS → ¬ ValidSlot chip.mem (last + 1))

theorem followPass_continue {chip : Chip} {first : Nat} {s s' : Scan}
    (hs : FollowInv chip first s) (hbody : followPass s = .inl s') :
    FollowInv chip first s' ∧ slotsLeft s' < slotsLeft s := by
  rcases hs with ⟨last, hle, hat, hcurr, hinside⟩
  unfold followPass at hbody
  simp only [hat.lt_end_iff, hat.read] at hbody
  split at hbody
  · rename_i hlt
    split at hbody
    · rename_i hvalid
      cases hbody
      have hnext := hat.next hlt (slotRecord chip.mem (last + 1))
      refine ⟨⟨last + 1, Nat.le_succ_of_le hle, hnext, rfl, fun j hge hj => ?_⟩, ?_⟩
      · rcases Nat.lt_or_ge last j with hgt | hjle
        · have heq : j = last + 1 := by omega
          rw [heq]
          exact hvalid
        · exact hinside j hge hjle
      · rw [hnext.slotsLeft, hat.slotsLeft]
        omega
    · cases hbody
  · cases hbody

theorem followPass_exit {chip : Chip} {first : Nat} {s s' : Scan}
    (hs : FollowInv chip first s) (hbody : followPass s = .inr s') :
    FollowPost chip first s' := by
  rcases hs with ⟨last, hle, hat, hcurr, hinside⟩
  unfold followPass at hbody
  simp only [hat.lt_end_iff, hat.read] at hbody
  split at hbody
  · split at hbody
    · cases hbody
    · rename_i hinvalid
      cases hbody
      exact ⟨last, hle, hat.stay _, hcurr, hinside, fun _ => hinvalid⟩
  · rename_i hend
    cases hbody
    exact ⟨last, hle, hat, hcurr, hinside, fun hlt => absurd hlt hend⟩

theorem followPass_total (chip : Chip) {s : Scan} {first : Nat}
    (hs : ScanAt chip s (first + 1)) (hfirst : ValidSlot chip.mem first)
    (hcurr : s.onoff_curr = slotRecord chip.mem first) :
    ∃ s', Loop.run followPass scanFuel s = some s' ∧ FollowPost chip first s' := by
  have hfuel : slotsLeft s < scanFuel := by
    rw [hs.slotsLeft, SLOTS, scanFuel]
    omega
  refine Loop.run_total (FollowInv chip first) slotsLeft (FollowPost chip first)
    (fun _ _ => followPass_continue) (fun _ _ => followPass_exit)
    ⟨first, Nat.le_refl first, hs, hcurr, fun j hge hj => ?_⟩ hfuel
  have heq : j = first := Nat.le_antisymm hj hge
  rw [heq]
  exact hfirst

/-- A restore ends for every flash content. -/
theorem statusOnoffRestore_spec (log : StatusLog) :
    ∃ r, statusOnoffRestore log = some r ∧ Restored log r := by
  rcases findPass_total log.chip ⟨0, 0, 0⟩ with ⟨s, hfind, i, hs, hbefore, hfound⟩
  rcases hs.chip_reads with ⟨reads, hreads, hchip⟩
  by_cases hi : i < SLOTS
  · rcases hfound hi with ⟨hvalid, hcurr⟩
    have haddr : ¬ s.flash_addr ≥ END_STATUS_ONOFF_DATA := Nat.not_le.mpr (hs.lt_end_iff.mpr hi)
    have hs' : ScanAt log.chip { s with flash_addr := s.flash_addr + FLASH_SAVE_SIZE } (i + 1) := by
      refine ⟨hi, ?_, reads, hreads, hchip⟩
      simp only [hs.addr, slotAddr, FLASH_SAVE_SIZE]
      omega
    rcases followPass_total log.chip hs' hvalid hcurr with
      ⟨s', hfollow, last, hle, hat, hcurr', hinside, hafter⟩
    rcases hat.chip_reads with ⟨reads', hreads', hchip'⟩
    have hptr : s'.flash_addr - FLASH_SAVE_SIZE = slotAddr last := by
      simp only [hat.addr, slotAddr, FLASH_SAVE_SIZE]
      omega
    refine ⟨_, ?_, .found reads' i last hreads' ⟨hle, hat.bound, hbefore, hinside, hafter⟩ rfl⟩
    simp only [statusOnoffRestore, hfind, Option.bind_eq_bind, Option.bind_some, if_neg haddr,
      hfollow, hptr, hcurr', hchip', Option.pure_def]
  · have haddr : s.flash_addr ≥ END_STATUS_ONOFF_DATA :=
      Nat.not_lt.mp (fun h => hi (hs.lt_end_iff.mp h))
    have hnone : NoRecord (ValidSlot log.chip.mem) SLOTS := by
      intro j hj
      have hbound := hs.bound
      exact hbefore j (by omega)
    refine ⟨_, ?_, .fresh reads hreads hnone rfl⟩
    simp only [statusOnoffRestore, hfind, Option.bind_eq_bind, Option.bind_some, if_pos haddr,
      initDefaultStatusOnoff_eq, hchip, Chip.run_append, Option.pure_def]

end OnOffLog
