import TuyaMiniSwitch.App.OnOffPowerCut

/-!
# Application - The log after a torn record

What becomes of the status log after power failed while a record was programmed.
The slot of a torn record is not skipped: the next save programs it again, and
the bits that are already cleared stay cleared.

Main results:

- Theorem {lit}`Stores.not_durable`: behind a torn record of off, saves are lost.
- Theorem {lit}`torn_durable_iff`: the log goes on storing after a torn record,
  except when the record is left with the status byte of off and no checksum, and
  when the torn save had erased a status of on.
-/

namespace OnOffLog

open NorFlash FlashDriver Utility RecordRun

/-- Number of commands of a save in front of the one that programs its record. -/
def beforeRecord (log : StatusLog) (on : Bool) : Nat :=
  (issued log.chip (log.saveStatus (onOffByte on)).chip).length - 1

/-- After a save whose record was torn behind {lit}`k` bytes, a reboot and any
further saves and reboots leave the status of the last completed save. -/
def TornDurable (log : StatusLog) (on : Bool) (k : Nat) : Prop :=
  ∀ ops, ∃ s, (powerOn (cutSave log on (beforeRecord log on) k)).run (.reboot :: ops) = some s ∧
    s.status_onoff.status_onoff = lastSaved log.status_onoff.status_onoff ops

theorem Serviceable.cutRecord_append {vals : UInt8 → Prop} {log : StatusLog} {last : Nat}
    (hlog : Serviceable vals log last) (hwrap : last + 1 ≠ SLOTS) (on : Bool) (k : Nat) :
    cutSave log on (beforeRecord log on) k = log.chip.run geometry
      [.program (slotAddr (last + 1)) ((mkRecord (onOffByte on)).toBytes.take k)] := by
  have hzero : beforeRecord log on = 0 := by
    rw [beforeRecord, hlog.saveStatus_eq, issued_run, saveCmds, if_neg hwrap]
    rfl
  rw [hzero, hlog.cutSave_eq, cutCmds_append _ _ hwrap]

theorem Serviceable.cutRecord_wrap {vals : UInt8 → Prop} {log : StatusLog} {last : Nat}
    (hlog : Serviceable vals log last) (hwrap : last + 1 = SLOTS) (on : Bool) (k : Nat) :
    cutSave log on (beforeRecord log on) k = log.chip.run geometry
      [.erase BEGIN_STATUS_ONOFF_DATA,
        .program (slotAddr 0) ((mkRecord (onOffByte on)).toBytes.take k)] := by
  have hone : beforeRecord log on = 1 := by
    rw [beforeRecord, hlog.saveStatus_eq, issued_run, saveCmds, if_pos hwrap]
    rfl
  rw [hone, hlog.cutSave_eq, cutCmds_wrap_one _ _ hwrap]

/-- A reboot into a log that stores a status, and a run from there. -/
theorem run_of_reboot {vals : UInt8 → Prop} {chip : Chip} {r : StatusLog} {last : Nat}
    {v : UInt8} (hvals : ∀ on, vals (onOffByte on)) (hr : (powerOn chip).reboot = some r)
    (hstores : Stores vals r last v) (ops : List Op) :
    ∃ s, (powerOn chip).run (.reboot :: ops) = some s ∧
      s.status_onoff.status_onoff = lastSaved v ops := by
  rcases Stores.runs ops hvals hstores with ⟨s, last', hs, hs', -⟩
  refine ⟨s, ?_, ?_⟩
  · rw [StatusLog.run, StatusLog.step, hr]
    exact hs
  · rw [hs'.status]
    rfl

/-- The slot behind a torn record of off takes no record of on: what is saved
next is not there after a reboot. -/
theorem reboot_of_lost_save {log : StatusLog} {first last : Nat} {v w : UInt8}
    (hrun : FirstRun (ValidSlot log.chip.mem) SLOTS first last)
    (haddr : log.flash_addr_start = slotAddr last) (hid : log.status_onoff.id = ID_SETTING)
    (hstored : slotRecord log.chip.mem last = mkRecord v) (hwrap : last + 1 ≠ SLOTS)
    (hlost : ¬ ValidSlot (runCmds geometry log.chip.mem (saveCmds last w)) (last + 1)) :
    ∃ r, (log.saveStatus w).reboot = some r ∧
      r.chip.mem = runCmds geometry log.chip.mem (saveCmds last w) ∧
      FirstRun (ValidSlot r.chip.mem) SLOTS first last ∧ r.flash_addr_start = slotAddr last ∧
      r.status_onoff = mkRecord v ∧ slotRecord r.chip.mem last = mkRecord v := by
  have hsave := saveStatus_eq w hrun.last_lt_size haddr hid
  have hmem : (log.saveStatus w).chip.mem = runCmds geometry log.chip.mem (saveCmds last w) := by
    rw [hsave]
    simp only [Chip.run_mem]
  have hbase : saveBase log.chip.mem last = log.chip.mem := if_neg hwrap
  have hnext : nextSlot last = last + 1 := if_neg hwrap
  have hsame : ∀ i, i ≤ last → SameSlot (log.saveStatus w).chip.mem log.chip.mem i := by
    intro i hi
    rw [hmem, runCmds_saveCmds, hbase, hnext]
    exact sameSlot_before _ _ (Nat.lt_succ_of_le hi)
  rw [← hmem] at hlost
  have hrun' := hrun.keep (fun i hi => (hsame i hi).validSlot_iff) (fun _ => hlost)
  have hpower : (powerOn (log.saveStatus w).chip).chip = (log.saveStatus w).chip := rfl
  rw [← hpower] at hrun'
  rcases statusOnoffRestore_spec (powerOn (log.saveStatus w).chip) with ⟨r, hr, hrestored⟩
  rcases restore_of_firstRun hrun' hrestored with ⟨hrmem, hraddr, hrstatus⟩
  have hstored' : slotRecord (log.saveStatus w).chip.mem last = mkRecord v := by
    rw [(hsame last (Nat.le_refl last)).slotRecord_eq]
    exact hstored
  rw [hpower] at hrun' hrmem hrstatus
  refine ⟨r, hr, hrmem.trans hmem, ?_, hraddr, ?_, ?_⟩
  · rw [hrmem]
    exact hrun'
  · rw [hrstatus]
    exact hstored'
  · rw [hrmem]
    exact hstored'

/-- What a save leaves in a slot. -/
theorem slotRecord_saveCmds {m : Mem} {last : Nat} (v : UInt8) (hwrap : last + 1 ≠ SLOTS) :
    slotRecord (runCmds geometry m (saveCmds last v)) (last + 1) =
      ⟨(slotRecord m (last + 1)).id &&& ID_SETTING,
        (slotRecord m (last + 1)).status_onoff &&& v,
        (slotRecord m (last + 1)).crc &&& (ID_SETTING + v)⟩ := by
  have hself := slotRecord_program_self m (last + 1) 3 (mkRecord v)
  rw [take_toBytes _ (Nat.le_refl 3)] at hself
  rw [saveCmds, if_neg hwrap]
  exact hself

/-- A torn record of off makes the log lose what is saved next. -/
theorem Stores.not_durable {log : StatusLog} {last : Nat} {v : Bool}
    (hlog : Stores OnOff log last (onOffByte v)) (hblank : BlankBehind log.chip.mem last)
    (hwrap : last + 1 ≠ SLOTS) : ¬ TornDurable log false 2 := by
  intro hdurable
  have hlast := hlog.last_lt
  obtain ⟨r, hr, hmem, ⟨first, hrun⟩, haddr, hstatus, hstored⟩ :=
    hlog.restore_torn hblank false hwrap (show 2 < 3 by decide)
  have hslot : slotRecord r.chip.mem (last + 1) = ⟨ID_SETTING, 0, blank⟩ := by
    rw [hmem, slotRecord_torn (hblank (last + 1) (Nat.lt_succ_self last) (by omega))]
    rfl
  have hid : r.status_onoff.id = ID_SETTING := by
    rw [hstatus, mkRecord]
  -- on is saved into the slot that already holds the status byte of off
  have hslot' := slotRecord_saveCmds (m := r.chip.mem) (onOffByte true) hwrap
  rw [hslot] at hslot'
  rcases reboot_of_lost_save (w := onOffByte true) hrun haddr hid hstored hwrap
      (by rw [ValidSlot, hslot']; decide) with
    ⟨r', hr', hmem', hrun', haddr', hstatus', hstored'⟩
  have hid' : r'.status_onoff.id = ID_SETTING := by
    rw [hstatus', mkRecord]
  rw [← hmem'] at hslot'
  -- so is the opposite of what the log stores
  have hslot'' := slotRecord_saveCmds (m := r'.chip.mem) (onOffByte !v) hwrap
  rw [hslot'] at hslot''
  rcases reboot_of_lost_save (w := onOffByte !v) hrun' haddr' hid' hstored' hwrap
      (by rw [ValidSlot, hslot'']; cases v <;> decide) with
    ⟨r'', hr'', -, -, -, hstatus'', -⟩
  rcases hdurable [.save true, .reboot, .save !v, .reboot] with ⟨s, hs, hsaved⟩
  rw [hlog.cutRecord_append hwrap] at hs
  simp only [StatusLog.run, StatusLog.step, hr, hr', hr'', Option.bind_some] at hs
  obtain rfl : r'' = s := Option.some.inj hs
  rw [hstatus''] at hsaved
  have heq : onOffByte v = onOffByte !v := hsaved
  cases v <;> exact absurd heq (by decide)

/-- After a tear every slot behind the run takes every status, the torn one too,
unless it was left with the status byte of off. -/
theorem BlankBehind.freeBehind_torn {m : Mem} {last k : Nat} {on : Bool}
    (hblank : BlankBehind m last) (hlast : last < SLOTS) (hwrap : last + 1 ≠ SLOTS) (hk : k < 3)
    (hoff : ¬ (k = 2 ∧ on = false)) :
    FreeBehind OnOff (runCmd geometry m
      (.program (slotAddr (last + 1)) ((mkRecord (onOffByte on)).toBytes.take k))) last := by
  have hslot := hblank (last + 1) (Nat.lt_succ_self last) (by omega)
  intro i hlt hi
  rcases Nat.eq_or_lt_of_le (Nat.succ_le_of_lt hlt) with rfl | hgt
  · refine ⟨torn_not_valid hslot hk on, ?_⟩
    rintro w ⟨on', rfl⟩
    exact torn_takes hslot hk hoff on'
  · have hsame := sameSlot_program m k (mkRecord (onOffByte on)) (show i ≠ last + 1 by omega)
    have hfree := hblank.freeBehind OnOff i hlt hi
    constructor
    · intro hvalid
      exact hfree.1 (hsame.validSlot_iff.mp hvalid)
    · intro w hw
      exact hsame.takes_iff.mpr (hfree.2 w hw)

/-- A torn record inside the sector. -/
theorem Stores.tornDurable_append_iff {log : StatusLog} {last k : Nat} {v : Bool}
    (hlog : Stores OnOff log last (onOffByte v)) (hblank : BlankBehind log.chip.mem last)
    (hwrap : last + 1 ≠ SLOTS) (on : Bool) (hk : k < 3) :
    TornDurable log on k ↔ ¬ (k = 2 ∧ on = false) := by
  constructor
  · rintro hdurable ⟨rfl, rfl⟩
    exact hlog.not_durable hblank hwrap hdurable
  · intro hoff ops
    rcases hlog.restore_torn hblank on hwrap hk with
      ⟨r, hr, hmem, hrun, haddr, hrstatus, hstored⟩
    have hfree := hblank.freeBehind_torn hlog.last_lt hwrap hk hoff
    rw [← hmem] at hfree
    have hid : r.status_onoff.id = ID_SETTING := by
      rw [hrstatus, mkRecord]
    have hstores : Stores OnOff r last (onOffByte v) :=
      ⟨⟨⟨haddr, hid, hrun⟩, hfree⟩, hstored, hrstatus⟩
    rcases run_of_reboot (fun on => ⟨on, rfl⟩) hr hstores ops with ⟨s, hs, hsaved⟩
    refine ⟨s, ?_, ?_⟩
    · rw [hlog.cutRecord_append hwrap]
      exact hs
    · rw [hsaved, hlog.status]
      rfl

/-- A torn record behind the erase of a wrap: the restore starts over with off. -/
theorem Stores.tornDurable_wrap_iff {log : StatusLog} {last k : Nat} {v : Bool}
    (hlog : Stores OnOff log last (onOffByte v)) (hwrap : last + 1 = SLOTS) (on : Bool)
    (hk : k < 3) : TornDurable log on k ↔ v = false := by
  have hstatus : log.status_onoff.status_onoff = onOffByte v := by
    rw [hlog.status]
    rfl
  rcases restore_wrapped log.chip on hk with ⟨r, hr, hstores⟩
  constructor
  · intro hdurable
    rcases hdurable [] with ⟨s, hs, hsaved⟩
    rw [hlog.cutRecord_wrap hwrap, StatusLog.run, StatusLog.step, hr] at hs
    obtain rfl : r = s := Option.some.inj hs
    rw [hstores.status, hstatus] at hsaved
    exact (onOffByte_injective (show onOffByte false = onOffByte v from hsaved)).symm
  · intro hoff ops
    rcases run_of_reboot (fun on => ⟨on, rfl⟩) hr hstores ops with ⟨s, hs, hsaved⟩
    refine ⟨s, ?_, ?_⟩
    · rw [hlog.cutRecord_wrap hwrap]
      exact hs
    · rw [hsaved, hstatus, hoff]
      rfl

/-- When the log goes on storing after a torn record. -/
theorem Stores.tornDurable_iff {log : StatusLog} {last k : Nat} {v : Bool}
    (hlog : Stores OnOff log last (onOffByte v)) (hblank : BlankBehind log.chip.mem last)
    (on : Bool) (hk : k < 3) :
    TornDurable log on k ↔
      (last + 1 ≠ SLOTS → ¬ (k = 2 ∧ on = false)) ∧ (last + 1 = SLOTS → v = false) := by
  by_cases hwrap : last + 1 = SLOTS
  · rw [hlog.tornDurable_wrap_iff hwrap on hk]
    simp [hwrap]
  · rw [hlog.tornDurable_append_iff hblank hwrap on hk]
    simp [hwrap]

/-- The log goes on storing after a torn record exactly if a save inside the
sector was not torn between the status byte of off and the checksum, and a save
that wraps had no status of on to lose. -/
theorem torn_durable_iff (log : StatusLog) (hlog : Reachable log) (on : Bool) (k : Nat)
    (hk : k < 3) :
    TornDurable log on k ↔
      (log.flash_addr_start ≠ END_STATUS_ONOFF_DATA - FLASH_SAVE_SIZE →
        ¬ (k = 2 ∧ on = false)) ∧
      (log.flash_addr_start = END_STATUS_ONOFF_DATA - FLASH_SAVE_SIZE →
        log.status_onoff.status_onoff = ZCL_ONOFF_STATUS_OFF) := by
  rcases hlog.stores with ⟨last, v, hstores, hblank⟩
  have hoff := hstores.status_eq_iff false
  rw [onOffByte, if_neg (by decide)] at hoff
  simp only [hstores.tornDurable_iff hblank on hk, ne_eq, hstores.addr_eq_iff, hoff]

/-- The first save on a new chip, torn before its status byte. -/
theorem torn_durable_iff_erased :
    ∃ start, statusOnoffRestore (powerOn Chip.erased) = some start ∧
      TornDurable start false 1 := by
  rcases exists_firstBoot with ⟨start, hstart, hstores, -⟩
  have hreach : Reachable start := ⟨_, start, [], noRecord_erased, hstart, rfl⟩
  have haddr : start.flash_addr_start ≠ END_STATUS_ONOFF_DATA - FLASH_SAVE_SIZE := by
    rw [Ne, hstores.addr_eq_iff]
    decide
  exact ⟨start, hstart, (torn_durable_iff start hreach false 1 (by decide)).mpr
    ⟨fun _ h => absurd h.1 (by decide), fun h => absurd h haddr⟩⟩

/-- The first save on a new chip, of off, torn behind its status byte. -/
theorem torn_not_durable :
    ∃ start, statusOnoffRestore (powerOn Chip.erased) = some start ∧ Reachable start ∧
      ¬ TornDurable start false 2 := by
  rcases exists_firstBoot with ⟨start, hstart, hstores, hblank⟩
  exact ⟨start, hstart, ⟨_, start, [], noRecord_erased, hstart, rfl⟩,
    hstores.not_durable hblank (by decide)⟩

end OnOffLog
