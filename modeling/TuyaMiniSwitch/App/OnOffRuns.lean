import TuyaMiniSwitch.App.OnOffSlots

/-!
# Application - Runs of the status log

Saves and reboots in any order.  The invariant says that the pointer stands at
the end of the first run of valid records and that every slot behind it is free
for the next records; it survives a save inside the sector, a save that wraps
and a restore.

Main results:

- Theorem {lit}`Serviceable.save`: a save keeps the invariant and stores its status.
- Theorem {lit}`Serviceable.reboot`: a reboot finds the log as it was.
- Theorem {lit}`status_log_round_trip`: every restore yields the last saved status
  and the old pointer, and every save writes an erased slot.
- Theorem {lit}`status_log_confined`: whatever the flash holds, the log stays in
  its sector.
-/

namespace OnOffLog

open NorFlash FlashDriver Utility RecordRun

/-! ## The log invariant -/

/-- Every slot behind {lit}`last` is free: it is not taken for a record, and it
takes a record of every status that may come. -/
def FreeBehind (vals : UInt8 → Prop) (m : Mem) (last : Nat) : Prop :=
  ∀ i, last < i → i < SLOTS → ¬ ValidSlot m i ∧ ∀ v, vals v → Takes m i v

/-- Every slot behind {lit}`last` is erased. -/
def BlankBehind (m : Mem) (last : Nat) : Prop :=
  ∀ i, last < i → i < SLOTS → BlankSlot m i

/-- The pointer of a log stands at the end of the first run. -/
structure Placed (log : StatusLog) (last : Nat) : Prop where
  addr : log.flash_addr_start = slotAddr last
  id : log.status_onoff.id = ID_SETTING
  run : ∃ first, FirstRun (ValidSlot log.chip.mem) SLOTS first last

/-- The state of a log that goes on storing what it is given. -/
structure Serviceable (vals : UInt8 → Prop) (log : StatusLog) (last : Nat) : Prop
    extends Placed log last where
  free : FreeBehind vals log.chip.mem last

theorem Placed.last_lt {log : StatusLog} {last : Nat} (hlog : Placed log last) :
    last < SLOTS := by
  rcases hlog.run with ⟨first, hrun⟩
  exact hrun.last_lt_size

theorem BlankBehind.freeBehind {m : Mem} {last : Nat} (hblank : BlankBehind m last)
    (vals : UInt8 → Prop) : FreeBehind vals m last :=
  fun i hlast hi => ⟨(hblank i hlast hi).not_valid, fun v _ => (hblank i hlast hi).takes v⟩

/-- The memory a save programs its record into. -/
def saveBase (m : Mem) (last : Nat) : Mem :=
  if last + 1 = SLOTS then runCmd geometry m (.erase BEGIN_STATUS_ONOFF_DATA) else m

theorem nextSlot_lt {last : Nat} (hlast : last < SLOTS) : nextSlot last < SLOTS := by
  unfold nextSlot SLOTS at *
  split <;> omega

theorem runCmds_saveCmds (m : Mem) (last : Nat) (v : UInt8) :
    runCmds geometry m (saveCmds last v) =
      runCmd geometry (saveBase m last)
        (.program (slotAddr (nextSlot last)) (mkRecord v).toBytes) := by
  unfold saveCmds saveBase nextSlot
  split <;> rfl

/-- Behind the slot of the next save everything is as free as before. -/
theorem FreeBehind.saveBase {vals : UInt8 → Prop} {m : Mem} {last i : Nat}
    (hfree : FreeBehind vals m last) (hnext : nextSlot last ≤ i) (hi : i < SLOTS) :
    ¬ ValidSlot (saveBase m last) i ∧ ∀ v, vals v → Takes (saveBase m last) i v := by
  unfold OnOffLog.saveBase
  unfold nextSlot at hnext
  split
  · have hblank := blankSlot_erase m hi
    exact ⟨hblank.not_valid, fun v _ => hblank.takes v⟩
  · rename_i hwrap
    rw [if_neg hwrap] at hnext
    exact hfree i (by omega) hi

theorem BlankBehind.saveBase {m : Mem} {last i : Nat} (hblank : BlankBehind m last)
    (hnext : nextSlot last ≤ i) (hi : i < SLOTS) : BlankSlot (saveBase m last) i := by
  unfold OnOffLog.saveBase
  unfold nextSlot at hnext
  split
  · exact blankSlot_erase m hi
  · rename_i hwrap
    rw [if_neg hwrap] at hnext
    exact hblank i (by omega) hi

/-- Programming the next slot leaves the slots behind it alone. -/
theorem sameSlot_behind (m : Mem) {n i : Nat} (r : StatusOnoff) (hlt : n < i) :
    SameSlot (runCmd geometry m (.program (slotAddr n) r.toBytes)) m i := by
  have hsame := sameSlot_program m 3 r (show i ≠ n by omega)
  rwa [take_toBytes r (Nat.le_refl 3)] at hsame

/-- Programming a slot leaves the slots in front of it alone. -/
theorem sameSlot_before (m : Mem) {n i : Nat} (r : StatusOnoff) (hlt : i < n) :
    SameSlot (runCmd geometry m (.program (slotAddr n) r.toBytes)) m i := by
  have hsame := sameSlot_program m 3 r (show i ≠ n by omega)
  rwa [take_toBytes r (Nat.le_refl 3)] at hsame

/-- The next save is good: inside the sector, its slot takes the record and the slot
behind it is not taken for one. -/
def NextReady (m : Mem) (last : Nat) (v : UInt8) : Prop :=
  last + 1 < SLOTS →
    Takes m (last + 1) v ∧ (last + 2 < SLOTS → ¬ ValidSlot m (last + 2))

theorem FreeBehind.nextReady {vals : UInt8 → Prop} {m : Mem} {last : Nat} {v : UInt8}
    (hfree : FreeBehind vals m last) (hv : vals v) : NextReady m last v :=
  fun hlt => ⟨(hfree (last + 1) (Nat.lt_succ_self last) hlt).2 v hv,
    fun hlt' => (hfree (last + 2) (by omega) hlt').1⟩

theorem BlankBehind.nextReady {m : Mem} {last i : Nat} (hblank : BlankBehind m last)
    (hle : last ≤ i) (v : UInt8) : NextReady m i v :=
  fun hlt => ⟨(hblank (i + 1) (by omega) hlt).takes v,
    fun hlt' => (hblank (i + 2) (by omega) hlt').not_valid⟩

/-- The slot of the next save, in the memory it programs. -/
theorem NextReady.saveBase {m : Mem} {last : Nat} {v : UInt8} (hready : NextReady m last v)
    (hlast : last < SLOTS) :
    Takes (saveBase m last) (nextSlot last) v ∧
      (nextSlot last + 1 < SLOTS → ¬ ValidSlot (saveBase m last) (nextSlot last + 1)) := by
  unfold OnOffLog.saveBase nextSlot
  split
  · exact ⟨(blankSlot_erase m (by decide)).takes v, fun hlt => (blankSlot_erase m hlt).not_valid⟩
  · rename_i hwrap
    exact hready (by omega)

/-- A save moves the end of the first run to the slot it writes. -/
theorem firstRun_save {m : Mem} {first last : Nat} {v : UInt8}
    (hrun : FirstRun (ValidSlot m) SLOTS first last) (hready : NextReady m last v) :
    ∃ first', FirstRun (ValidSlot (runCmds geometry m (saveCmds last v))) SLOTS first'
      (nextSlot last) := by
  have hlast := nextSlot_lt hrun.last_lt_size
  rcases hready.saveBase hrun.last_lt_size with ⟨htakes, hbehind⟩
  have hnew := htakes.validSlot
  have hafter : nextSlot last + 1 < SLOTS →
      ¬ ValidSlot (runCmds geometry m (saveCmds last v)) (nextSlot last + 1) := by
    intro hlt
    rw [runCmds_saveCmds, (sameSlot_behind _ _ (Nat.lt_succ_self _)).validSlot_iff]
    exact hbehind hlt
  rw [← runCmds_saveCmds] at hnew
  by_cases hwrap : last + 1 = SLOTS
  · have hzero : nextSlot last = 0 := if_pos hwrap
    rw [hzero] at hnew hafter ⊢
    exact ⟨0, firstRun_zero (by decide) hnew hafter⟩
  · have hsucc : nextSlot last = last + 1 := if_neg hwrap
    have hbase : OnOffLog.saveBase m last = m := if_neg hwrap
    rw [hsucc] at hnew hafter hlast ⊢
    refine ⟨first, hrun.extend (fun i hi => ?_) hnew hlast hafter⟩
    rw [runCmds_saveCmds, hbase, hsucc]
    exact (sameSlot_before _ _ (Nat.lt_succ_of_le hi)).validSlot_iff

theorem freeBehind_save {vals : UInt8 → Prop} {m : Mem} {last : Nat} (v : UInt8)
    (hfree : FreeBehind vals m last) :
    FreeBehind vals (runCmds geometry m (saveCmds last v)) (nextSlot last) := by
  intro i hlt hi
  have hsame := sameSlot_behind (saveBase m last) (mkRecord v) hlt
  have hbase := hfree.saveBase (Nat.le_of_lt hlt) hi
  rw [runCmds_saveCmds]
  exact ⟨fun h => hbase.1 (hsame.validSlot_iff.mp h),
    fun w hw => hsame.takes_iff.mpr (hbase.2 w hw)⟩

theorem blankBehind_save {m : Mem} {last : Nat} (v : UInt8) (hblank : BlankBehind m last) :
    BlankBehind (runCmds geometry m (saveCmds last v)) (nextSlot last) := by
  intro i hlt hi
  rw [runCmds_saveCmds]
  exact (sameSlot_behind _ _ hlt).blankSlot (hblank.saveBase (Nat.le_of_lt hlt) hi)

/-- A save of a log whose pointer stands at the end of the first run. -/
theorem Placed.saveStatus_eq {log : StatusLog} {last : Nat} (hlog : Placed log last)
    (v : UInt8) :
    log.saveStatus v =
      { chip := log.chip.run geometry (saveCmds last v)
        flash_addr_start := slotAddr (nextSlot last)
        status_onoff := mkRecord v } :=
  OnOffLog.saveStatus_eq v hlog.last_lt hlog.addr hlog.id

/-- A good save moves the pointer to the new end of the run. -/
theorem Placed.save {log : StatusLog} {last : Nat} {v : UInt8} (hlog : Placed log last)
    (hready : NextReady log.chip.mem last v) : Placed (log.saveStatus v) (nextSlot last) := by
  rcases hlog.run with ⟨first, hrun⟩
  rw [hlog.saveStatus_eq v]
  refine ⟨rfl, rfl, ?_⟩
  simp only [Chip.run_mem]
  exact firstRun_save hrun hready

/-- A good save stores its status at the new end of the log. -/
theorem Placed.save_stored {log : StatusLog} {last : Nat} {v : UInt8} (hlog : Placed log last)
    (hready : NextReady log.chip.mem last v) :
    slotRecord (log.saveStatus v).chip.mem (nextSlot last) = mkRecord v := by
  rw [hlog.saveStatus_eq v]
  simp only [Chip.run_mem, runCmds_saveCmds]
  exact (hready.saveBase hlog.last_lt).1

/-- A save keeps the log in service. -/
theorem Serviceable.save {vals : UInt8 → Prop} {log : StatusLog} {last : Nat} {v : UInt8}
    (hlog : Serviceable vals log last) (hv : vals v) :
    Serviceable vals (log.saveStatus v) (nextSlot last) := by
  refine ⟨hlog.toPlaced.save (hlog.free.nextReady hv), ?_⟩
  rw [hlog.saveStatus_eq v]
  simp only [Chip.run_mem]
  exact freeBehind_save v hlog.free

/-- A save stores its status at the new end of the log. -/
theorem Serviceable.save_stored {vals : UInt8 → Prop} {log : StatusLog} {last : Nat} {v : UInt8}
    (hlog : Serviceable vals log last) (hv : vals v) :
    slotRecord (log.saveStatus v).chip.mem (nextSlot last) = mkRecord v :=
  hlog.toPlaced.save_stored (hlog.free.nextReady hv)

/-- A restore that finds the first run takes the last record of it. -/
theorem restore_of_firstRun {log r : StatusLog} {first last : Nat}
    (hrun : FirstRun (ValidSlot log.chip.mem) SLOTS first last)
    (hrestore : Restored log r) :
    r.chip.mem = log.chip.mem ∧ r.flash_addr_start = slotAddr last ∧
      r.status_onoff = slotRecord log.chip.mem last := by
  cases hrestore with
  | fresh reads hreads hnone hresult => exact absurd hnone hrun.not_noRecord
  | found reads first' last' hreads hrun' hresult =>
      rcases hrun.unique hrun' with ⟨-, rfl⟩
      rw [hresult]
      refine ⟨?_, rfl, rfl⟩
      simp only [Chip.run_mem, hreads.runCmds]

/-- The status that a restore finds depends on the flash alone. -/
theorem Restored.status_eq {log log' r r' : StatusLog} (hmem : log.chip.mem = log'.chip.mem)
    (hrestored : Restored log r) (hrestored' : Restored log' r') :
    r.status_onoff = r'.status_onoff := by
  cases hrestored with
  | fresh reads hreads hnone hresult =>
      cases hrestored' with
      | fresh reads' hreads' hnone' hresult' => rw [hresult, hresult']
      | found reads' first last hreads' hrun hresult' =>
          rw [hmem] at hnone
          exact absurd hnone hrun.not_noRecord
  | found reads first last hreads hrun hresult =>
      rw [hmem] at hrun
      rw [hresult, (restore_of_firstRun hrun hrestored').2.2, ← hmem]

/-- A reboot finds the log as it was, with the status that was stored last. -/
theorem Placed.reboot {log : StatusLog} {last : Nat} (hlog : Placed log last) :
    ∃ r, log.reboot = some r ∧ Placed r last ∧ r.chip.mem = log.chip.mem ∧
      r.flash_addr_start = log.flash_addr_start ∧
      r.status_onoff = slotRecord log.chip.mem last := by
  rcases hlog.run with ⟨first, hrun⟩
  rcases statusOnoffRestore_spec (powerOn log.chip) with ⟨r, hr, hrestored⟩
  have hpower : (powerOn log.chip).chip = log.chip := rfl
  rw [← hpower] at hrun
  rcases restore_of_firstRun hrun hrestored with ⟨hmem, haddr, hstatus⟩
  rw [hpower] at hrun hmem hstatus
  have hid : r.status_onoff.id = ID_SETTING := by
    have hvalid := hrun.valid_inside last hrun.first_le_last (Nat.le_refl last)
    rw [hstatus]
    exact ((valid_iff _).mp hvalid).1
  refine ⟨r, hr, ⟨haddr, hid, ⟨first, ?_⟩⟩, hmem, ?_, hstatus⟩
  · rw [hmem]
    exact hrun
  · rw [haddr, hlog.addr]

theorem Serviceable.reboot {vals : UInt8 → Prop} {log : StatusLog} {last : Nat}
    (hlog : Serviceable vals log last) :
    ∃ r, log.reboot = some r ∧ Serviceable vals r last ∧ r.chip.mem = log.chip.mem ∧
      r.flash_addr_start = log.flash_addr_start ∧
      r.status_onoff = slotRecord log.chip.mem last := by
  rcases hlog.toPlaced.reboot with ⟨r, hr, hplaced, hmem, haddr, hstatus⟩
  refine ⟨r, hr, ⟨hplaced, ?_⟩, hmem, haddr, hstatus⟩
  rw [hmem]
  exact hlog.free

/-- The default record over a fresh sector: the log is in service, and all the
slots behind it are erased. -/
theorem Restored.of_noRecord {log r : StatusLog} (hrestored : Restored log r)
    (hnone : NoRecord (ValidSlot log.chip.mem) SLOTS) :
    Serviceable (fun _ => True) r 0 ∧ BlankBehind r.chip.mem 0 ∧
      r.status_onoff = mkRecord ZCL_ONOFF_STATUS_OFF ∧
      slotRecord r.chip.mem 0 = mkRecord ZCL_ONOFF_STATUS_OFF := by
  cases hrestored with
  | found reads first last hreads hrun hresult => exact absurd hnone hrun.not_noRecord
  | fresh reads hreads hnone' hresult =>
      have hmem : r.chip.mem = runCmd geometry
          (runCmd geometry log.chip.mem (.erase BEGIN_STATUS_ONOFF_DATA))
          (.program (slotAddr 0) (mkRecord ZCL_ONOFF_STATUS_OFF).toBytes) := by
        rw [hresult]
        simp only [Chip.run_mem, runCmds_append, hreads.runCmds]
        rfl
      have hblank : BlankBehind r.chip.mem 0 := by
        intro i hlt hi
        rw [hmem]
        exact (sameSlot_behind _ _ hlt).blankSlot (blankSlot_erase _ hi)
      have htakes : slotRecord r.chip.mem 0 = mkRecord ZCL_ONOFF_STATUS_OFF := by
        rw [hmem]
        exact (blankSlot_erase log.chip.mem (by decide)).takes _
      have hvalid : ValidSlot r.chip.mem 0 := by
        rw [ValidSlot, htakes]
        exact valid_mkRecord _
      have hrun : FirstRun (ValidSlot r.chip.mem) SLOTS 0 0 :=
        firstRun_zero (by decide) hvalid (fun hlt => (hblank 1 (by decide) hlt).not_valid)
      have haddr : r.flash_addr_start = slotAddr 0 := by rw [hresult]
      have hstatus : r.status_onoff = mkRecord ZCL_ONOFF_STATUS_OFF := by rw [hresult]
      have hid : r.status_onoff.id = ID_SETTING := by rw [hstatus, mkRecord]
      exact ⟨⟨⟨haddr, hid, ⟨0, hrun⟩⟩, hblank.freeBehind _⟩, hblank, hstatus, htakes⟩

/-! ## Runs -/

/-- What the device does with the log. -/
inductive Op where
  | save (on : Bool)
  | reboot
  deriving Repr, DecidableEq

/-- The status byte of a relay state. -/
def onOffByte (on : Bool) : UInt8 := if on then ZCL_ONOFF_STATUS_ON else ZCL_ONOFF_STATUS_OFF

def StatusLog.step (log : StatusLog) : Op → Option StatusLog
  | .save on => some (log.saveStatus (onOffByte on))
  | .reboot => log.reboot

/-- Completed operations one after another. -/
def StatusLog.run (log : StatusLog) : List Op → Option StatusLog
  | [] => some log
  | op :: ops => (log.step op).bind fun log => log.run ops

/-- The status of the last completed save, or the given one if there was none. -/
def lastSaved (v : UInt8) : List Op → UInt8
  | [] => v
  | .save on :: ops => lastSaved (onOffByte on) ops
  | .reboot :: ops => lastSaved v ops

/-- A log in service that stores a status, in the flash and in the variable. -/
structure Stores (vals : UInt8 → Prop) (log : StatusLog) (last : Nat) (v : UInt8) : Prop
    extends Serviceable vals log last where
  stored : slotRecord log.chip.mem last = mkRecord v
  status : log.status_onoff = mkRecord v

/-- The status bytes of on and off. -/
def OnOff (v : UInt8) : Prop := ∃ on, v = onOffByte on

theorem Stores.save {vals : UInt8 → Prop} {log : StatusLog} {last : Nat} {v w : UInt8}
    (hlog : Stores vals log last v) (hw : vals w) :
    Stores vals (log.saveStatus w) (nextSlot last) w := by
  refine ⟨hlog.toServiceable.save hw, hlog.toServiceable.save_stored hw, ?_⟩
  rw [hlog.saveStatus_eq]

theorem Serviceable.blankBehind_save {vals : UInt8 → Prop} {log : StatusLog} {last : Nat}
    (hlog : Serviceable vals log last) (hblank : BlankBehind log.chip.mem last) (v : UInt8) :
    BlankBehind (log.saveStatus v).chip.mem (nextSlot last) := by
  rw [hlog.saveStatus_eq]
  simp only [Chip.run_mem]
  exact OnOffLog.blankBehind_save v hblank

theorem Stores.reboot {vals : UInt8 → Prop} {log : StatusLog} {last : Nat} {v : UInt8}
    (hlog : Stores vals log last v) :
    ∃ r, log.reboot = some r ∧ Stores vals r last v ∧ r.chip.mem = log.chip.mem := by
  rcases hlog.toServiceable.reboot with ⟨r, hr, hservice, hmem, -, hstatus⟩
  refine ⟨r, hr, ⟨hservice, ?_, ?_⟩, hmem⟩
  · rw [hmem]
    exact hlog.stored
  · rw [hstatus]
    exact hlog.stored

/-- The next operation of a log that stores a status. -/
theorem Stores.step {vals : UInt8 → Prop} {log : StatusLog} {last : Nat} {v : UInt8} (op : Op)
    (hvals : ∀ on, vals (onOffByte on)) (hlog : Stores vals log last v) :
    ∃ log' last', log.step op = some log' ∧ Stores vals log' last' (lastSaved v [op]) ∧
      (BlankBehind log.chip.mem last → BlankBehind log'.chip.mem last') := by
  cases op with
  | save on =>
      exact ⟨_, nextSlot last, rfl, hlog.save (hvals on),
        fun hblank => hlog.toServiceable.blankBehind_save hblank _⟩
  | reboot =>
      rcases hlog.reboot with ⟨r, hr, hstores, hmem⟩
      refine ⟨r, last, hr, hstores, fun hblank => ?_⟩
      rw [hmem]
      exact hblank

/-- A run of a log that stores a status. -/
theorem Stores.runs {vals : UInt8 → Prop} {log : StatusLog} {last : Nat} {v : UInt8}
    (ops : List Op) (hvals : ∀ on, vals (onOffByte on)) (hlog : Stores vals log last v) :
    ∃ log' last', log.run ops = some log' ∧ Stores vals log' last' (lastSaved v ops) ∧
      (BlankBehind log.chip.mem last → BlankBehind log'.chip.mem last') := by
  induction ops generalizing log last v with
  | nil => exact ⟨log, last, rfl, hlog, id⟩
  | cons op ops ih =>
      rcases hlog.step op hvals with ⟨log', last', hstep, hlog', hblank⟩
      rcases ih hlog' with ⟨log'', last'', hrun, hlog'', hblank'⟩
      refine ⟨log'', last'', ?_, ?_, fun h => hblank' (hblank h)⟩
      · rw [StatusLog.run, hstep]
        exact hrun
      · cases op <;> exact hlog''

/-- The record of a save goes into an erased slot. -/
theorem Serviceable.save_blank {vals : UInt8 → Prop} {log : StatusLog} {last : Nat}
    (hlog : Serviceable vals log last) (hblank : BlankBehind log.chip.mem last) (v : UInt8) :
    ∃ before, issued log.chip (log.saveStatus v).chip =
        before ++ [.program (log.saveStatus v).flash_addr_start (mkRecord v).toBytes] ∧
      ∀ j, j < FLASH_SAVE_SIZE →
        runCmds geometry log.chip.mem before ((log.saveStatus v).flash_addr_start + j) =
          blank := by
  have hbase := hblank.saveBase (Nat.le_refl _) (nextSlot_lt hlog.last_lt)
  rw [hlog.saveStatus_eq v]
  simp only [issued_run]
  unfold saveCmds
  unfold saveBase at hbase
  unfold nextSlot at hbase ⊢
  split at hbase
  · rename_i hwrap
    simp only [hwrap, if_true]
    exact ⟨[.erase BEGIN_STATUS_ONOFF_DATA], rfl, hbase⟩
  · rename_i hwrap
    simp only [hwrap, if_false]
    exact ⟨[], rfl, hbase⟩

/-- From the state a restore without a record leaves, over every sequence of
saves and reboots: a restore yields the status of the last save and the pointer
of before, and the next save finds its slot erased. -/
theorem status_log_round_trip (log start : StatusLog)
    (hnone : NoRecord (ValidSlot log.chip.mem) SLOTS)
    (hstart : statusOnoffRestore log = some start) (ops : List Op) :
    ∃ s, start.run ops = some s ∧
      s.status_onoff.status_onoff = lastSaved ZCL_ONOFF_STATUS_OFF ops ∧
      (∃ r, s.reboot = some r ∧
        r.status_onoff.status_onoff = lastSaved ZCL_ONOFF_STATUS_OFF ops ∧
        r.flash_addr_start = s.flash_addr_start) ∧
      ∀ on, ∃ before, issued s.chip (s.saveStatus (onOffByte on)).chip = before ++
          [.program (s.saveStatus (onOffByte on)).flash_addr_start
            (s.saveStatus (onOffByte on)).status_onoff.toBytes] ∧
        ∀ j, j < FLASH_SAVE_SIZE →
          runCmds geometry s.chip.mem before
            ((s.saveStatus (onOffByte on)).flash_addr_start + j) = 0xFF := by
  rcases statusOnoffRestore_spec log with ⟨start', hstart', hrestored⟩
  obtain rfl : start' = start := Option.some.inj (hstart'.symm.trans hstart)
  rcases hrestored.of_noRecord hnone with ⟨hservice, hblank, hstatus, hstored⟩
  rcases Stores.runs ops (fun _ => trivial) ⟨hservice, hstored, hstatus⟩ with
    ⟨s, last, hrun, hs, hkeep⟩
  rcases hs.toServiceable.reboot with ⟨r, hr, -, -, haddr, hrstatus⟩
  refine ⟨s, hrun, ?_, ⟨r, hr, ?_, haddr⟩, fun on => ?_⟩
  · rw [hs.status]
    rfl
  · rw [hrstatus, hs.stored]
    rfl
  · have hrecord : (s.saveStatus (onOffByte on)).status_onoff = mkRecord (onOffByte on) := by
      rw [hs.saveStatus_eq]
    rw [hrecord]
    exact hs.save_blank (hkeep hblank) (onOffByte on)

/-- A new chip holds no record. -/
theorem noRecord_erased : NoRecord (ValidSlot (powerOn Chip.erased).chip.mem) SLOTS :=
  fun _ _ => BlankSlot.not_valid fun _ _ => rfl

/-- On a new chip, with one save and one reboot. -/
theorem status_log_round_trip_erased :
    ∃ start s, statusOnoffRestore (powerOn Chip.erased) = some start ∧
      start.run [.save true, .reboot] = some s ∧ s.status_onoff.status_onoff = 1 := by
  rcases statusOnoffRestore_spec (powerOn Chip.erased) with ⟨start, hstart, -⟩
  rcases status_log_round_trip (powerOn Chip.erased) start noRecord_erased hstart
    [.save true, .reboot] with ⟨s, hs, hstatus, -⟩
  exact ⟨start, s, hstart, hs, hstatus⟩

/-! ## Confinement -/

/-- The calls the firmware makes. -/
inductive Call where
  | restore
  | save (status : UInt8)
  deriving Repr, DecidableEq

def StatusLog.call (log : StatusLog) : Call → Option StatusLog
  | .restore => statusOnoffRestore log
  | .save status => some (log.saveStatus status)

def StatusLog.calls (log : StatusLog) : List Call → Option StatusLog
  | [] => some log
  | c :: cs => (log.call c).bind fun log => log.calls cs

/-- A command alters no byte outside the status sector. -/
def Confined (c : Cmd) : Prop :=
  ∀ x, c.Alters geometry x → BEGIN_STATUS_ONOFF_DATA ≤ x ∧ x < END_STATUS_ONOFF_DATA

/-- The pointer stands at a slot, the record in memory carries its id, and the
flash has seen nothing but commands that stay in the sector. -/
structure Inside (chip : Chip) (log : StatusLog) : Prop where
  addr : ∃ i, i < SLOTS ∧ log.flash_addr_start = slotAddr i
  id : log.status_onoff.id = ID_SETTING
  cmds : ∃ cs, log.chip = chip.run geometry cs ∧ ∀ c ∈ cs, Confined c

theorem confined_erase : Confined (.erase BEGIN_STATUS_ONOFF_DATA) := by
  intro x halters
  simp only [Cmd.Alters, geometry_sectorSize, BEGIN_STATUS_ONOFF_DATA,
    END_STATUS_ONOFF_DATA] at *
  omega

theorem confined_program {i : Nat} (r : StatusOnoff) (hi : i < SLOTS) :
    Confined (.program (slotAddr i) r.toBytes) := by
  intro x halters
  rcases halters with ⟨-, -, hrange⟩
  have hx := hrange (record_fits i r)
  rw [length_toBytes] at hx
  simp only [slotAddr, BEGIN_STATUS_ONOFF_DATA, END_STATUS_ONOFF_DATA, FLASH_SAVE_SIZE,
    SLOTS] at *
  omega

theorem confined_reads {cs : List Cmd} (hcs : OnlyReads cs) : ∀ c ∈ cs, Confined c :=
  fun c hc x halters => absurd halters (hcs.not_alters geometry x c hc)

theorem confined_defaultCmds : ∀ c ∈ defaultCmds, Confined c := by
  intro c hc
  rcases List.mem_cons.mp hc with rfl | hc
  · exact confined_erase
  · rw [List.mem_singleton.mp hc]
    exact confined_program _ (by decide)

theorem confined_saveCmds {last : Nat} (v : UInt8) (hlast : last < SLOTS) :
    ∀ c ∈ saveCmds last v, Confined c := by
  intro c hc
  unfold saveCmds at hc
  split at hc
  · rcases List.mem_cons.mp hc with rfl | hc
    · exact confined_erase
    · rw [List.mem_singleton.mp hc]
      exact confined_program _ (by decide)
  · rename_i hwrap
    rw [List.mem_singleton.mp hc]
    exact confined_program _ (by unfold SLOTS at *; omega)

theorem Inside.extend {chip : Chip} {log log' : StatusLog} {cs : List Cmd}
    (hlog : ∃ cs, log.chip = chip.run geometry cs ∧ ∀ c ∈ cs, Confined c)
    (hchip : log'.chip = log.chip.run geometry cs) (hcs : ∀ c ∈ cs, Confined c) :
    ∃ cs, log'.chip = chip.run geometry cs ∧ ∀ c ∈ cs, Confined c := by
  rcases hlog with ⟨ds, hds, hconfined⟩
  refine ⟨ds ++ cs, ?_, fun c hc => ?_⟩
  · rw [hchip, hds, Chip.run_append]
  · rcases List.mem_append.mp hc with hc | hc
    · exact hconfined c hc
    · exact hcs c hc

/-- A restore brings the log inside from any state of the variables. -/
theorem inside_restore {chip : Chip} {log : StatusLog}
    (hcmds : ∃ cs, log.chip = chip.run geometry cs ∧ ∀ c ∈ cs, Confined c) :
    ∃ r, statusOnoffRestore log = some r ∧ Inside chip r := by
  rcases statusOnoffRestore_spec log with ⟨r, hr, hrestored⟩
  refine ⟨r, hr, ?_⟩
  cases hrestored with
  | fresh reads hreads hnone hresult =>
      rw [hresult]
      refine ⟨⟨0, by decide, rfl⟩, rfl, Inside.extend hcmds rfl fun c hc => ?_⟩
      rcases List.mem_append.mp hc with hc | hc
      · exact confined_reads hreads c hc
      · exact confined_defaultCmds c hc
  | found reads first last hreads hrun hresult =>
      have hvalid := hrun.valid_inside last hrun.first_le_last (Nat.le_refl last)
      rw [hresult]
      exact ⟨⟨last, hrun.last_lt_size, rfl⟩, ((valid_iff _).mp hvalid).1,
        Inside.extend hcmds rfl (confined_reads hreads)⟩

theorem Inside.save {chip : Chip} {log : StatusLog} (hlog : Inside chip log) (v : UInt8) :
    Inside chip (log.saveStatus v) := by
  rcases hlog.addr with ⟨last, hlast, haddr⟩
  rw [saveStatus_eq v hlast haddr hlog.id]
  exact ⟨⟨nextSlot last, nextSlot_lt hlast, rfl⟩, rfl,
    Inside.extend hlog.cmds rfl (confined_saveCmds v hlast)⟩

theorem Inside.calls {chip : Chip} {log : StatusLog} (cs : List Call)
    (hlog : Inside chip log) : ∃ s, log.calls cs = some s ∧ Inside chip s := by
  induction cs generalizing log with
  | nil => exact ⟨log, rfl, hlog⟩
  | cons c cs ih =>
      cases c with
      | restore =>
          rcases inside_restore hlog.cmds with ⟨r, hr, hinside⟩
          rcases ih hinside with ⟨s, hs, hinside'⟩
          refine ⟨s, ?_, hinside'⟩
          rw [StatusLog.calls, StatusLog.call, hr]
          exact hs
      | save status =>
          exact ih (hlog.save status)

/-- Whatever the flash and the variables hold, every sequence of calls that
starts with a restore keeps the log in its sector. -/
theorem status_log_confined (log : StatusLog) (cs : List Call) :
    ∃ s, log.calls (.restore :: cs) = some s ∧
      (s.flash_addr_start % 4 = 0 ∧ BEGIN_STATUS_ONOFF_DATA ≤ s.flash_addr_start ∧
        s.flash_addr_start ≤ END_STATUS_ONOFF_DATA - 4) ∧
      s.status_onoff.id = ID_SETTING ∧
      (∀ c ∈ issued log.chip s.chip, ∀ x, c.Alters geometry x →
        BEGIN_STATUS_ONOFF_DATA ≤ x ∧ x < END_STATUS_ONOFF_DATA) ∧
      ∀ x, x < BEGIN_STATUS_ONOFF_DATA ∨ END_STATUS_ONOFF_DATA ≤ x →
        s.chip.mem x = log.chip.mem x := by
  have hstart : ∃ cs, log.chip = log.chip.run geometry cs ∧ ∀ c ∈ cs, Confined c :=
    ⟨[], rfl, fun c hc => absurd hc List.not_mem_nil⟩
  rcases inside_restore hstart with ⟨r, hr, hinside⟩
  rcases hinside.calls cs with ⟨s, hs, hinside'⟩
  rcases hinside'.addr with ⟨i, hi, haddr⟩
  rcases hinside'.cmds with ⟨ds, hchip, hconfined⟩
  refine ⟨s, ?_, ?_, hinside'.id, ?_, fun x hx => ?_⟩
  · rw [StatusLog.calls, StatusLog.call, hr]
    exact hs
  · rw [haddr]
    simp only [slotAddr, BEGIN_STATUS_ONOFF_DATA, END_STATUS_ONOFF_DATA, FLASH_SAVE_SIZE,
      SLOTS] at *
    omega
  · rw [hchip, issued_run]
    exact hconfined
  · rw [hchip, Chip.run_mem]
    refine runCmds_frame _ fun c hc halters => ?_
    have hin := hconfined c hc x halters
    omega

end OnOffLog
