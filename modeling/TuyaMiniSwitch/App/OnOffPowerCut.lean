import TuyaMiniSwitch.App.OnOffRuns

/-!
# Application - Power cuts in a save

What the next restore finds when power fails during a save.

Main results:

- Theorem {lit}`Stores.restore_torn`: a torn record behind the run is not found.
- Theorem {lit}`save_atomic_iff`: a cut save leaves the old or the new status,
  except behind the erase of a save that wraps while both are on.
-/

namespace OnOffLog

open NorFlash FlashDriver Utility RecordRun

/-- The chip when power fails in a save: {lit}`n` commands are complete and
{lit}`k` data bytes of the next one were programmed. -/
def cutSave (log : StatusLog) (on : Bool) (n k : Nat) : Chip :=
  log.chip.run geometry
    (cutCmds (issued log.chip (log.saveStatus (onOffByte on)).chip) n k)

/-- A log that completed saves and reboots can lead to. -/
def Reachable (log : StatusLog) : Prop :=
  ∃ origin start ops, NoRecord (ValidSlot origin.chip.mem) SLOTS ∧
    statusOnoffRestore origin = some start ∧ start.run ops = some log

/-- The next restore yields the status of before or the status being saved. -/
def CutAtomic (log : StatusLog) (on : Bool) (n k : Nat) : Prop :=
  ∃ r, (powerOn (cutSave log on n k)).reboot = some r ∧
    (r.status_onoff.status_onoff = log.status_onoff.status_onoff ∨
      r.status_onoff.status_onoff = onOffByte on)

/-- A reachable log stores a relay state, and the slots behind it are erased. -/
theorem Reachable.stores {log : StatusLog} (hlog : Reachable log) :
    ∃ last on, Stores OnOff log last (onOffByte on) ∧ BlankBehind log.chip.mem last := by
  rcases hlog with ⟨origin, start, ops, hnone, hstart, hrun⟩
  rcases statusOnoffRestore_spec origin with ⟨start', hstart', hrestored⟩
  obtain rfl : start' = start := Option.some.inj (hstart'.symm.trans hstart)
  rcases hrestored.of_noRecord hnone with ⟨hservice, hblank, hstatus, hstored⟩
  have hservice' : Serviceable OnOff start' 0 :=
    ⟨hservice.toPlaced, hblank.freeBehind OnOff⟩
  rcases Stores.runs ops (fun on => ⟨on, rfl⟩) ⟨hservice', hstored, hstatus⟩ with
    ⟨s, last, hs, hstores, hkeep⟩
  obtain rfl : s = log := Option.some.inj (hs.symm.trans hrun)
  obtain ⟨on, hon⟩ : ∃ on, lastSaved ZCL_ONOFF_STATUS_OFF ops = onOffByte on := by
    have hlast : ∀ ops on, ∃ on', lastSaved (onOffByte on) ops = onOffByte on' := by
      intro ops
      induction ops with
      | nil => exact fun on => ⟨on, rfl⟩
      | cons op ops ih =>
          intro on
          cases op with
          | save on' => exact ih on'
          | reboot => exact ih on
    exact hlast ops false
  rw [hon] at hstores
  exact ⟨last, on, hstores, hkeep hblank⟩

/-! ## Torn records -/

/-- An erased slot with the first bytes of a record. -/
theorem slotRecord_torn {m : Mem} {i : Nat} (hblank : BlankSlot m i) (k : Nat) (r : StatusOnoff) :
    slotRecord (runCmd geometry m (.program (slotAddr i) (r.toBytes.take k))) i =
      ⟨(r.toBytes.take k).getD 0 blank, (r.toBytes.take k).getD 1 blank,
        (r.toBytes.take k).getD 2 blank⟩ := by
  have hzero := hblank 0 (by decide)
  rw [Nat.add_zero] at hzero
  rw [slotRecord_program_self, hzero, hblank 1 (by decide), hblank 2 (by decide)]
  simp only [blank_and]

/-- A torn record does not pass the test of the scans. -/
theorem torn_not_valid {m : Mem} {i k : Nat} (hblank : BlankSlot m i) (hk : k < 3) (on : Bool) :
    ¬ ValidSlot (runCmd geometry m
      (.program (slotAddr i) ((mkRecord (onOffByte on)).toBytes.take k))) i := by
  rw [ValidSlot, slotRecord_torn hblank]
  have hcases : k = 0 ∨ k = 1 ∨ k = 2 := by omega
  rcases hcases with rfl | rfl | rfl <;> cases on <;> decide

/-- A torn record leaves room for every later record, unless it holds the status
byte of off. -/
theorem torn_takes {m : Mem} {i k : Nat} (hblank : BlankSlot m i) (hk : k < 3) {on : Bool}
    (hoff : ¬ (k = 2 ∧ on = false)) (on' : Bool) :
    Takes (runCmd geometry m
      (.program (slotAddr i) ((mkRecord (onOffByte on)).toBytes.take k))) i (onOffByte on') := by
  have htorn := slotRecord_torn hblank k (mkRecord (onOffByte on))
  rw [slotRecord_eq] at htorn
  injection htorn with hid hstatus hcrc
  rw [takes_iff, hid, hstatus, hcrc]
  have hcases : k = 0 ∨ k = 1 ∨ k = 2 := by omega
  rcases hcases with rfl | rfl | rfl
  · cases on <;> cases on' <;> decide
  · cases on <;> cases on' <;> decide
  · cases on with
    | false => exact absurd ⟨rfl, rfl⟩ hoff
    | true => cases on' <;> decide

/-! ## Cut commands -/

/-- A save that does not wrap has one command. -/
theorem cutCmds_append {last : Nat} (v : UInt8) (k : Nat) (hwrap : last + 1 ≠ SLOTS) :
    cutCmds (saveCmds last v) 0 k =
      [.program (slotAddr (last + 1)) ((mkRecord v).toBytes.take k)] := by
  rw [saveCmds, if_neg hwrap]
  rfl

/-- A save that wraps can lose power before the erase is done. -/
theorem cutCmds_wrap_zero {last : Nat} (v : UInt8) (k : Nat) (hwrap : last + 1 = SLOTS) :
    cutCmds (saveCmds last v) 0 k = [] := by
  rw [saveCmds, if_pos hwrap]
  rfl

/-- A save that wraps can lose power with the sector erased. -/
theorem cutCmds_wrap_one {last : Nat} (v : UInt8) (k : Nat) (hwrap : last + 1 = SLOTS) :
    cutCmds (saveCmds last v) 1 k = [.erase BEGIN_STATUS_ONOFF_DATA,
      .program (slotAddr 0) ((mkRecord v).toBytes.take k)] := by
  rw [saveCmds, if_pos hwrap]
  rfl

/-- A cut behind the last byte of the record is no cut. -/
theorem cutCmds_complete {last n k : Nat} (v : UInt8)
    (hcut : (saveCmds last v).length ≤ n ∨ (saveCmds last v).length = n + 1 ∧ 3 ≤ k) :
    cutCmds (saveCmds last v) n k = saveCmds last v := by
  rcases hcut with hge | ⟨hlen, hk⟩
  · exact cutCmds_of_ge k hge
  · by_cases hwrap : last + 1 = SLOTS
    · have hn : n = 1 := by
        rw [saveCmds, if_pos hwrap] at hlen
        exact (Nat.succ.inj hlen).symm
      rw [hn, cutCmds_wrap_one v k hwrap, take_toBytes _ hk, saveCmds, if_pos hwrap]
    · have hn : n = 0 := by
        rw [saveCmds, if_neg hwrap] at hlen
        exact (Nat.succ.inj hlen).symm
      rw [hn, cutCmds_append v k hwrap, take_toBytes _ hk, saveCmds, if_neg hwrap]

theorem Serviceable.cutSave_eq {vals : UInt8 → Prop} {log : StatusLog} {last : Nat}
    (hlog : Serviceable vals log last) (on : Bool) (n k : Nat) :
    cutSave log on n k =
      log.chip.run geometry (cutCmds (saveCmds last (onOffByte on)) n k) := by
  rw [cutSave, hlog.saveStatus_eq, issued_run]

/-! ## Restores behind a cut -/

/-- The record is complete: the restore finds the status being saved. -/
theorem Stores.restore_complete {vals : UInt8 → Prop} {log : StatusLog} {last : Nat} {v w : UInt8}
    (hlog : Stores vals log last v) (hw : vals w) :
    ∃ r, (powerOn (log.chip.run geometry (saveCmds last w))).reboot = some r ∧
      r.status_onoff = mkRecord w := by
  rcases (hlog.save hw).reboot with ⟨r, hr, hstores, -⟩
  rw [hlog.saveStatus_eq] at hr
  exact ⟨r, hr, hstores.status⟩

/-- A torn record in the slot behind the run is not found. -/
theorem Stores.restore_torn {log : StatusLog} {last k : Nat} {v : UInt8}
    (hlog : Stores OnOff log last v) (hblank : BlankBehind log.chip.mem last) (on : Bool)
    (hwrap : last + 1 ≠ SLOTS) (hk : k < 3) :
    ∃ r, (powerOn (log.chip.run geometry [.program (slotAddr (last + 1))
        ((mkRecord (onOffByte on)).toBytes.take k)])).reboot = some r ∧
      r.chip.mem = runCmd geometry log.chip.mem
        (.program (slotAddr (last + 1)) ((mkRecord (onOffByte on)).toBytes.take k)) ∧
      (∃ first, FirstRun (ValidSlot r.chip.mem) SLOTS first last) ∧
      r.flash_addr_start = slotAddr last ∧ r.status_onoff = mkRecord v ∧
      slotRecord r.chip.mem last = mkRecord v := by
  rcases hlog.run with ⟨first, hrun⟩
  have hlast := hlog.last_lt
  have hsame : ∀ i, i ≤ last → SameSlot (runCmd geometry log.chip.mem (.program
      (slotAddr (last + 1)) ((mkRecord (onOffByte on)).toBytes.take k))) log.chip.mem i :=
    fun i hi => sameSlot_program _ k _ (by omega)
  have hslot := hblank (last + 1) (Nat.lt_succ_self last) (by omega)
  have hrun' := hrun.keep (fun i hi => (hsame i hi).validSlot_iff)
    (fun _ => torn_not_valid hslot hk on)
  obtain ⟨r, hr, hrestored⟩ := statusOnoffRestore_spec (powerOn (log.chip.run geometry
    [.program (slotAddr (last + 1)) ((mkRecord (onOffByte on)).toBytes.take k)]))
  rcases restore_of_firstRun hrun' hrestored with ⟨hmem, haddr, hstatus⟩
  have hmem' : r.chip.mem = runCmd geometry log.chip.mem
      (.program (slotAddr (last + 1)) ((mkRecord (onOffByte on)).toBytes.take k)) := hmem
  have hstored : slotRecord r.chip.mem last = mkRecord v := by
    rw [hmem', (hsame last (Nat.le_refl last)).slotRecord_eq]
    exact hlog.stored
  refine ⟨r, hr, hmem', ⟨first, ?_⟩, haddr, ?_, hstored⟩
  · rw [hmem']
    exact hrun'
  · rw [hstatus, ← hstored, hmem]

/-- Behind the erase of a save that wraps no record is left. -/
theorem restore_wrapped (chip : Chip) {k : Nat} (on : Bool) (hk : k < 3) :
    ∃ r, (powerOn (chip.run geometry [.erase BEGIN_STATUS_ONOFF_DATA,
        .program (slotAddr 0) ((mkRecord (onOffByte on)).toBytes.take k)])).reboot = some r ∧
      Stores OnOff r 0 ZCL_ONOFF_STATUS_OFF := by
  obtain ⟨r, hr, hrestored⟩ := statusOnoffRestore_spec (powerOn (chip.run geometry
    [.erase BEGIN_STATUS_ONOFF_DATA,
      .program (slotAddr 0) ((mkRecord (onOffByte on)).toBytes.take k)]))
  have hnone : NoRecord (ValidSlot (runCmd geometry
      (runCmd geometry chip.mem (.erase BEGIN_STATUS_ONOFF_DATA))
      (.program (slotAddr 0) ((mkRecord (onOffByte on)).toBytes.take k)))) SLOTS := by
    intro i hi
    rcases Nat.eq_zero_or_pos i with rfl | hpos
    · exact torn_not_valid (blankSlot_erase _ hi) hk on
    · rw [(sameSlot_program _ k _ (by omega)).validSlot_iff]
      exact (blankSlot_erase _ hi).not_valid
  rcases hrestored.of_noRecord hnone with ⟨hservice, hblank, hstatus, hstored⟩
  exact ⟨r, hr, ⟨hservice.toPlaced, hblank.freeBehind OnOff⟩, hstored,
    hstatus⟩

/-! ## Atomicity of a save -/

theorem onOffByte_injective {on on' : Bool} (heq : onOffByte on = onOffByte on') : on = on' := by
  cases on <;> cases on' <;> first | rfl | exact absurd heq (by decide)

/-- Off, which a restore finds on an erased sector, is the old or the new status
unless both are on. -/
theorem off_old_or_new_iff (old on : Bool) :
    (onOffByte false = onOffByte old ∨ onOffByte false = onOffByte on) ↔
      ¬ (old = true ∧ on = true) := by
  cases old <;> cases on <;> decide

/-- When a save that is cut behind its erase yields the old or the new status. -/
theorem Stores.cutAtomic_erased_iff {log : StatusLog} {last k : Nat} {old : Bool}
    (hlog : Stores OnOff log last (onOffByte old)) (hwrap : last + 1 = SLOTS) (on : Bool)
    (hk : k < 3) : CutAtomic log on 1 k ↔ ¬ (old = true ∧ on = true) := by
  rcases restore_wrapped log.chip on hk with ⟨r, hr, hstores⟩
  have hold : log.status_onoff.status_onoff = onOffByte old := by
    rw [hlog.status]
    rfl
  have hoff : r.status_onoff.status_onoff = onOffByte false := by
    rw [hstores.status]
    rfl
  rw [CutAtomic, hlog.cutSave_eq, hold, cutCmds_wrap_one _ _ hwrap, ← off_old_or_new_iff,
    ← hoff]
  constructor
  · rintro ⟨r', hr', heq⟩
    have hsame : r = r' := Option.some.inj (hr.symm.trans hr')
    rw [hsame]
    exact heq
  · intro heq
    exact ⟨r, hr, heq⟩

/-- When a cut save yields the old or the new status. -/
theorem Stores.cutAtomic_iff {log : StatusLog} {last : Nat} {old : Bool}
    (hlog : Stores OnOff log last (onOffByte old)) (hblank : BlankBehind log.chip.mem last)
    (on : Bool) (n k : Nat) :
    CutAtomic log on n k ↔
      ¬ (last + 1 = SLOTS ∧ n = 1 ∧ k < 3 ∧ old = true ∧ on = true) := by
  have hold : log.status_onoff.status_onoff = onOffByte old := by
    rw [hlog.status]
    rfl
  by_cases hcut : (saveCmds last (onOffByte on)).length ≤ n ∨
      (saveCmds last (onOffByte on)).length = n + 1 ∧ 3 ≤ k
  · -- the save is complete
    rcases hlog.restore_complete (⟨on, rfl⟩ : OnOff (onOffByte on)) with ⟨r, hr, hstatus⟩
    rw [CutAtomic, hlog.cutSave_eq, cutCmds_complete _ hcut]
    refine iff_of_true ⟨r, hr, Or.inr ?_⟩ ?_
    · rw [hstatus]
      rfl
    · rintro ⟨hwrap, rfl, hk, -, -⟩
      rw [saveCmds, if_pos hwrap] at hcut
      simp only [List.length_cons, List.length_nil] at hcut
      omega
  · by_cases hwrap : last + 1 = SLOTS
    · have hn : n = 0 ∨ n = 1 ∧ k < 3 := by
        rw [saveCmds, if_pos hwrap] at hcut
        simp only [List.length_cons, List.length_nil] at hcut
        omega
      rcases hn with rfl | ⟨rfl, hk⟩
      · -- before the erase
        rcases hlog.reboot with ⟨r, hr, hstores, -⟩
        rw [CutAtomic, hlog.cutSave_eq, hold, cutCmds_wrap_zero _ _ hwrap]
        refine iff_of_true ⟨r, hr, Or.inl ?_⟩ (fun h => absurd h.2.1 (by decide))
        rw [hstores.status]
        rfl
      · -- behind the erase
        rw [hlog.cutAtomic_erased_iff hwrap on hk]
        constructor
        · rintro hnot ⟨-, -, -, hboth⟩
          exact hnot hboth
        · intro hnot hboth
          exact hnot ⟨hwrap, rfl, hk, hboth⟩
    · have hn : n = 0 ∧ k < 3 := by
        rw [saveCmds, if_neg hwrap] at hcut
        simp only [List.length_cons, List.length_nil] at hcut
        omega
      rcases hn with ⟨rfl, hk⟩
      rcases hlog.restore_torn hblank on hwrap hk with ⟨r, hr, -, -, -, hstatus, -⟩
      rw [CutAtomic, hlog.cutSave_eq, hold, cutCmds_append _ _ hwrap]
      refine iff_of_true ⟨r, hr, Or.inl ?_⟩ (fun h => hwrap h.1)
      rw [hstatus]
      rfl

theorem Serviceable.addr_eq_iff {vals : UInt8 → Prop} {log : StatusLog} {last : Nat}
    (hlog : Serviceable vals log last) :
    log.flash_addr_start = END_STATUS_ONOFF_DATA - FLASH_SAVE_SIZE ↔ last + 1 = SLOTS := by
  rw [hlog.addr]
  simp only [slotAddr, BEGIN_STATUS_ONOFF_DATA, END_STATUS_ONOFF_DATA, FLASH_SAVE_SIZE, SLOTS]
  omega

theorem Stores.status_eq_iff {vals : UInt8 → Prop} {log : StatusLog} {last : Nat} {old : Bool}
    (hlog : Stores vals log last (onOffByte old)) (on : Bool) :
    log.status_onoff.status_onoff = onOffByte on ↔ old = on := by
  rw [hlog.status]
  exact ⟨onOffByte_injective, fun h => by rw [h]; rfl⟩

/-- A cut save yields the old or the new status exactly if it is not cut between
the erase of a wrap and the end of its record while both are on. -/
theorem save_atomic_iff (log : StatusLog) (hlog : Reachable log) (on : Bool) (n k : Nat) :
    CutAtomic log on n k ↔
      ¬ (log.flash_addr_start = END_STATUS_ONOFF_DATA - FLASH_SAVE_SIZE ∧ n = 1 ∧ k < 3 ∧
        log.status_onoff.status_onoff = ZCL_ONOFF_STATUS_ON ∧ on = true) := by
  rcases hlog.stores with ⟨last, old, hstores, hblank⟩
  have hon := hstores.status_eq_iff true
  rw [onOffByte, if_pos rfl] at hon
  rw [hstores.cutAtomic_iff hblank, hstores.addr_eq_iff, hon]

/-- The log of a new chip. -/
theorem exists_firstBoot :
    ∃ start, statusOnoffRestore (powerOn Chip.erased) = some start ∧
      Stores OnOff start 0 (onOffByte false) ∧ BlankBehind start.chip.mem 0 := by
  rcases statusOnoffRestore_spec (powerOn Chip.erased) with ⟨start, hstart, hrestored⟩
  rcases hrestored.of_noRecord noRecord_erased with ⟨hservice, hblank, hstatus, hstored⟩
  exact ⟨start, hstart,
    ⟨⟨hservice.toPlaced, hblank.freeBehind OnOff⟩, hstored, hstatus⟩, hblank⟩

/-- The first save on a new chip, cut after two bytes of its record. -/
theorem save_atomic_iff_erased :
    ∃ start, statusOnoffRestore (powerOn Chip.erased) = some start ∧
      CutAtomic start true 0 2 := by
  rcases exists_firstBoot with ⟨start, hstart, -⟩
  have hreach : Reachable start := ⟨_, start, [], noRecord_erased, hstart, rfl⟩
  exact ⟨start, hstart, (save_atomic_iff start hreach true 0 2).mpr
    (fun h => absurd h.2.1 (by decide))⟩

/-- Saves inside the sector move the end of the log slot by slot. -/
theorem Stores.run_saves {vals : UInt8 → Prop} {log : StatusLog} {last : Nat} {v : UInt8}
    {on : Bool} (hvals : vals (onOffByte on)) (hlog : Stores vals log last v)
    (hblank : BlankBehind log.chip.mem last) (m : Nat) (hlt : last + m < SLOTS) :
    ∃ log', log.run (List.replicate m (.save on)) = some log' ∧
      Stores vals log' (last + m) (lastSaved v (List.replicate m (.save on))) ∧
      BlankBehind log'.chip.mem (last + m) := by
  induction m generalizing log last v with
  | zero => exact ⟨log, rfl, hlog, hblank⟩
  | succ m ih =>
      have hnext : nextSlot last = last + 1 := if_neg (by omega)
      have hsave := hlog.save hvals
      have hblank' := hlog.toServiceable.blankBehind_save hblank (onOffByte on)
      rw [hnext] at hsave hblank'
      rcases ih hsave hblank' (by omega) with ⟨log', hrun, hlog', hblank''⟩
      rw [show last + (m + 1) = last + 1 + m by omega, List.replicate_succ]
      exact ⟨log', hrun, hlog', hblank''⟩

theorem lastSaved_replicate (v : UInt8) (on : Bool) (m : Nat) :
    lastSaved v (List.replicate (m + 1) (.save on)) = onOffByte on := by
  induction m generalizing v with
  | zero => rfl
  | succ m ih =>
      rw [List.replicate_succ, lastSaved]
      exact ih (onOffByte on)

/-- The log of a new chip after saves of on up to a slot of the sector. -/
theorem exists_filledLog (m : Nat) (hlt : m + 1 < SLOTS) :
    ∃ start log, statusOnoffRestore (powerOn Chip.erased) = some start ∧
      start.run (List.replicate (m + 1) (.save true)) = some log ∧
      Stores OnOff log (m + 1) (onOffByte true) ∧ BlankBehind log.chip.mem (m + 1) := by
  rcases exists_firstBoot with ⟨start, hstart, hstores, hblank⟩
  rcases hstores.run_saves (⟨true, rfl⟩ : OnOff (onOffByte true)) hblank (m + 1) (by omega) with
    ⟨log, hrun, hlog, hblank'⟩
  rw [Nat.zero_add, lastSaved_replicate] at hlog
  rw [Nat.zero_add] at hblank'
  exact ⟨start, log, hstart, hrun, hlog, hblank'⟩

/-- With the log full and on stored in every slot but the first, a save of on
that loses power behind its erase comes back as off. -/
theorem save_not_atomic :
    ∃ start log, statusOnoffRestore (powerOn Chip.erased) = some start ∧
      start.run (List.replicate 1023 (.save true)) = some log ∧ Reachable log ∧
      ¬ CutAtomic log true 1 0 := by
  rcases exists_filledLog 1022 (by decide) with ⟨start, log, hstart, hrun, hlog, hblank⟩
  refine ⟨start, log, hstart, hrun, ⟨_, start, _, noRecord_erased, hstart, hrun⟩, ?_⟩
  rw [hlog.cutAtomic_iff hblank]
  exact fun h => h ⟨rfl, rfl, by decide, rfl, rfl⟩

end OnOffLog
