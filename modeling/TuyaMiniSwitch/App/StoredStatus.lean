import TuyaMiniSwitch.App.OnOffDurability
import TuyaMiniSwitch.App.RelayAgreement
import TuyaMiniSwitch.App.SettingsReboot

/-!
# Application - The stored status

The policies {lit}`PREVIOUS` and {lit}`TOGGLE` look at the stored status, so while
one of them is set the log has to hold the status of the relay.  The firmware saves
in four places and under two different tests; together they save often enough.
What they save is lost where the log itself loses a record: in front of a slot that
does not take the record, or that is followed by an old one.

Main results:

- Theorem {lit}`Stored.command`: a relay command keeps the log current.
- Theorem {lit}`Stored.write`: a frame of {lit}`StartUpOnOff` records keeps it current.
- Theorem {lit}`lastDriven_reboot_iff`: when the next boot gives the relay its state back.
- Theorem {lit}`stored_status_current`: the log is current over every run whose
  saves find their slots ready, and what that makes of the relay at the next boot.
-/

namespace Firmware

open NorFlash FlashDriver Utility OnOffLog Machine RecordRun

/-! ## Slots for more than one save -/

/-- The slot the pointer of a log stands at. -/
def slotOfAddr (addr : Nat) : Nat := (addr - BEGIN_STATUS_ONOFF_DATA) / FLASH_SAVE_SIZE

/-- The next saves of a status are good, each in its slot. -/
def SlotsReady (log : StatusLog) (v : UInt8) (n : Nat) : Prop :=
  ∀ i, i < n → NextReady log.chip.mem (slotOfAddr log.flash_addr_start + i) v

theorem slotOfAddr_slotAddr (i : Nat) : slotOfAddr (slotAddr i) = i := by
  simp only [slotOfAddr, slotAddr, FLASH_SAVE_SIZE]
  omega

/-- After a save the slots of the following saves are as ready as before. -/
theorem slotsReady_save {log : StatusLog} {last n : Nat} {v : UInt8} (hlog : Placed log last)
    (hready : SlotsReady log v (n + 1)) : SlotsReady (log.saveStatus v) v n := by
  intro i hi
  rw [hlog.saveStatus_eq v]
  simp only [Chip.run_mem, slotOfAddr_slotAddr]
  by_cases hwrap : last + 1 = SLOTS
  · have hblank : BlankBehind (runCmds geometry log.chip.mem (saveCmds last v))
        (nextSlot last) := by
      apply blankBehind_save
      intro j hlt hj
      omega
    exact hblank.nextReady (Nat.le_add_right _ _) v
  · have hnext := hready (i + 1) (Nat.succ_lt_succ hi)
    rw [hlog.addr, slotOfAddr_slotAddr] at hnext
    have hslot : nextSlot last + i = last + (i + 1) := by
      rw [nextSlot, if_neg hwrap]
      omega
    have hbase : saveBase log.chip.mem last = log.chip.mem := if_neg hwrap
    have hsame : ∀ j, last + 1 < j →
        SameSlot (runCmds geometry log.chip.mem (saveCmds last v)) log.chip.mem j := by
      intro j hj
      rw [runCmds_saveCmds, hbase, nextSlot, if_neg hwrap]
      exact sameSlot_behind _ _ hj
    rw [hslot]
    intro hlt
    rcases hnext hlt with ⟨htakes, hbehind⟩
    refine ⟨(hsame _ (by omega)).takes_iff.mpr htakes, fun hlt' => ?_⟩
    rw [(hsame _ (by omega)).validSlot_iff]
    exact hbehind hlt'

/-! ## A log that is current -/

/-- If the policy looks at the stored status, the log holds the status. -/
structure Current (log : StatusLog) (startUp : UInt8) (last : Nat) : Prop
    extends Placed log last where
  stored : startUp > ZCL_START_UP_ONOFF_SET_ONOFF_TO_ON →
    slotRecord log.chip.mem last = log.status_onoff

/-- A good save makes the log current for every policy. -/
theorem current_save {log : StatusLog} {last n : Nat} {v : UInt8} (hlog : Placed log last)
    (hready : SlotsReady log v (n + 1)) (startUp : UInt8) :
    Current (log.saveStatus v) startUp (nextSlot last) := by
  have hnext := hready 0 (Nat.succ_pos n)
  rw [hlog.addr, slotOfAddr_slotAddr, Nat.add_zero] at hnext
  refine ⟨hlog.save hnext, fun _ => ?_⟩
  rw [hlog.save_stored hnext, hlog.saveStatus_eq]

/-- A restore makes the log current for every policy. -/
theorem current_restore {log r : StatusLog} (hrestored : Restored log r) (startUp : UInt8) :
    ∃ last, Current r startUp last := by
  cases hrestored with
  | fresh reads hreads hnone hresult =>
      rcases Restored.of_noRecord (.fresh reads hreads hnone hresult) hnone with
        ⟨hservice, -, hstatus, hstored⟩
      exact ⟨0, hservice.toPlaced, fun _ => hstored.trans hstatus.symm⟩
  | found reads first last hreads hrun hresult =>
      have hfound := restore_of_firstRun hrun (.found reads first last hreads hrun hresult)
      rcases hfound with ⟨hmem, haddr, hstatus⟩
      have hvalid := hrun.valid_inside last hrun.first_le_last (Nat.le_refl last)
      refine ⟨last, ⟨haddr, ?_, first, ?_⟩, fun _ => ?_⟩
      · rw [hstatus]
        exact ((valid_iff _).mp hvalid).1
      · rw [hmem]
        exact hrun
      · rw [hmem, hstatus]

/-- The log of the firmware is current for the policy that is set. -/
structure Stored (d : Device) : Prop where
  policy : d.attrs.onOff.startUpOnOff = d.relay_settings.startUpOnOff
  current : ∃ last, Current d.log d.relay_settings.startUpOnOff last

/-! ## Commands -/

/-- How often a command saves. -/
def commandSaves (d : Device) (v : UInt8) : Nat :=
  if (d.attrs.onOff.onOff ≠ v ∨ d.status ≠ v) ∧
      d.attrs.onOff.startUpOnOff > ZCL_START_UP_ONOFF_SET_ONOFF_TO_ON then 1 else 0

/-- A relay command keeps the log current. -/
theorem Stored.command {d : Device} {v : UInt8} (hd : Stored d)
    (hready : SlotsReady d.log v (commandSaves d v)) : Stored (relayCommand d v) := by
  rcases hd.current with ⟨last, hcurrent⟩
  refine ⟨?_, ?_⟩
  · rw [relayCommand_startUp, relayCommand_settings]
    exact hd.policy
  · rw [relayCommand_settings, relayCommand, (setRelayStatus_frame _ _).log, commitStatus_log]
    unfold commandSaves at hready
    by_cases hchange : d.attrs.onOff.onOff ≠ v ∨ d.status ≠ v
    · rw [if_pos hchange]
      by_cases hpolicy : d.attrs.onOff.startUpOnOff > ZCL_START_UP_ONOFF_SET_ONOFF_TO_ON
      · rw [if_pos ⟨hchange, hpolicy⟩] at hready
        rw [if_pos hpolicy]
        exact ⟨nextSlot last, current_save hcurrent.toPlaced hready _⟩
      · rw [if_neg hpolicy]
        rw [hd.policy] at hpolicy
        exact ⟨last, ⟨hcurrent.addr, hcurrent.id, hcurrent.run⟩, fun h => absurd h hpolicy⟩
    · rw [if_neg hchange]
      exact ⟨last, hcurrent⟩

/-! ## Frames -/

/-- Every {lit}`StartUpOnOff` record of a frame is accepted by {lit}`zcl_attrWrite`. -/
def Accepted (attrList : List WriteRec) : Prop :=
  ∀ rec ∈ attrList, rec.attrID = ZCL_ATTRID_START_UP_ONOFF → ∀ attrs,
    (zclAttrWrite attrs APP_ENDPOINT1 ZCL_CLUSTER_GEN_ON_OFF rec true).1 = .ZCL_STA_SUCCESS

/-- The policy behind the records of a frame. -/
def lastPolicy (startUp : UInt8) : List WriteRec → UInt8
  | [] => startUp
  | rec :: attrList =>
      lastPolicy (if rec.attrID = ZCL_ATTRID_START_UP_ONOFF then rec.attrData 0 else startUp)
        attrList

/-- How often a frame saves: at every record that changes the policy to one that
looks at the stored status. -/
def policySaves (startUp : UInt8) : List WriteRec → Nat
  | [] => 0
  | rec :: attrList =>
      if rec.attrID = ZCL_ATTRID_START_UP_ONOFF ∧ startUp ≠ rec.attrData 0 then
        (if rec.attrData 0 > ZCL_START_UP_ONOFF_SET_ONOFF_TO_ON then 1 else 0) +
          policySaves (rec.attrData 0) attrList
      else
        policySaves startUp attrList

/-- A record writes the policy if it is about it. -/
theorem zclAttrWrite_startUp (attrs : Attrs) {rec : WriteRec}
    (haccepted : rec.attrID = ZCL_ATTRID_START_UP_ONOFF →
      AttrAccepted APP_ENDPOINT1 ZCL_CLUSTER_GEN_ON_OFF rec) :
    (zclAttrWrite attrs APP_ENDPOINT1 ZCL_CLUSTER_GEN_ON_OFF rec true).2.onOff.startUpOnOff =
      if rec.attrID = ZCL_ATTRID_START_UP_ONOFF then rec.attrData 0
      else attrs.onOff.startUpOnOff := by
  have htarget : AttrData.startUpOnOff ∈ settingTargets := by
    decide
  rw [← toUInt16_inj]
  show (zclAttrWrite _ _ _ _ _).2.read .startUpOnOff = _
  rw [zclAttrWrite_eq]
  cases hwritten : writtenTo APP_ENDPOINT1 ZCL_CLUSTER_GEN_ON_OFF rec with
  | none =>
      have hother : rec.attrID ≠ ZCL_ATTRID_START_UP_ONOFF := by
        intro hid
        have hsome := attrAccepted_iff.mp (haccepted hid)
        rw [hwritten] at hsome
        cases hsome
      rw [if_neg hother]
      rfl
  | some data =>
      have hwrites := targetOf_writtenTo hwritten
      rw [targetOf, if_pos rfl] at hwrites
      rw [Option.elim_some]
      by_cases hid : rec.attrID = ZCL_ATTRID_START_UP_ONOFF
      · rw [if_pos hid] at hwrites ⊢
        split at hwrites
        · rw [← Option.some.inj hwrites]
          exact read_store_same attrs .startUpOnOff rec.attrData
        · cases hwrites
      · rw [if_neg hid] at hwrites ⊢
        apply read_store_other
        rintro rfl
        rw [if_pos htarget] at hwrites
        cases hwrites

/-- The foundation leaves the policy of the last record. -/
theorem zclWriteHandler_startUp {attrList : List WriteRec} (attrs : Attrs)
    (haccepted : Accepted attrList) :
    (zclWriteHandler attrs APP_ENDPOINT1 ZCL_CLUSTER_GEN_ON_OFF attrList).onOff.startUpOnOff =
      lastPolicy attrs.onOff.startUpOnOff attrList := by
  unfold zclWriteHandler
  induction attrList generalizing attrs with
  | nil => rfl
  | cons rec attrList ih =>
      have hrest : Accepted attrList := by
        intro rec' hmem
        exact haccepted rec' (List.mem_cons_of_mem _ hmem)
      rw [List.foldl_cons, ih _ hrest, lastPolicy,
        zclAttrWrite_startUp attrs (haccepted rec List.mem_cons_self)]

/-- A record that changes nothing. -/
theorem writeOnOffRec_same {d : Device} (save : Bool) {rec : WriteRec}
    (hsame : ¬ (rec.attrID = ZCL_ATTRID_START_UP_ONOFF ∧
      d.relay_settings.startUpOnOff ≠ rec.attrData 0)) :
    writeOnOffRec (d, save) rec = (d, save) := by
  unfold writeOnOffRec
  dsimp only
  split
  · rename_i hid
    rw [if_neg fun hne => hsame ⟨hid, hne⟩]
  · rfl

/-- A record that changes the policy. -/
theorem writeOnOffRec_change {d : Device} (save : Bool) {rec : WriteRec}
    (hchange : rec.attrID = ZCL_ATTRID_START_UP_ONOFF ∧
      d.relay_settings.startUpOnOff ≠ rec.attrData 0) :
    ∃ d', writeOnOffRec (d, save) rec = (d', true) ∧ d'.attrs = d.attrs ∧
      d'.relay_settings.startUpOnOff = rec.attrData 0 ∧
      d'.log = if rec.attrData 0 > ZCL_START_UP_ONOFF_SET_ONOFF_TO_ON then
        d.log.saveStatus d.status else d.log := by
  unfold writeOnOffRec
  dsimp only
  rw [if_pos hchange.1, if_pos hchange.2]
  split
  · exact ⟨_, rfl, rfl, rfl, rfl⟩
  · exact ⟨_, rfl, rfl, rfl, rfl⟩

/-- The policy behind a record. -/
theorem lastPolicy_cons (startUp : UInt8) (rec : WriteRec) (attrList : List WriteRec) :
    lastPolicy startUp (rec :: attrList) =
      if rec.attrID = ZCL_ATTRID_START_UP_ONOFF ∧ startUp ≠ rec.attrData 0 then
        lastPolicy (rec.attrData 0) attrList
      else lastPolicy startUp attrList := by
  rw [lastPolicy]
  by_cases hid : rec.attrID = ZCL_ATTRID_START_UP_ONOFF
  · by_cases hsame : startUp = rec.attrData 0
    · rw [if_pos hid, if_neg fun h => h.2 hsame, hsame]
    · rw [if_pos hid, if_pos ⟨hid, hsame⟩]
  · rw [if_neg hid, if_neg fun h => hid h.1]

/-- The records of a frame, handled one after another: the settings follow the
policy, and the log is current behind each. -/
theorem current_records {d : Device} {last : Nat} (save : Bool) (attrList : List WriteRec)
    (hcurrent : Current d.log d.relay_settings.startUpOnOff last)
    (hready : SlotsReady d.log d.status
      (policySaves d.relay_settings.startUpOnOff attrList)) :
    ∃ last', (attrList.foldl writeOnOffRec (d, save)).1.attrs = d.attrs ∧
      (attrList.foldl writeOnOffRec (d, save)).1.relay_settings.startUpOnOff =
        lastPolicy d.relay_settings.startUpOnOff attrList ∧
      Current (attrList.foldl writeOnOffRec (d, save)).1.log
        (lastPolicy d.relay_settings.startUpOnOff attrList) last' := by
  induction attrList generalizing d save last with
  | nil => exact ⟨last, rfl, rfl, hcurrent⟩
  | cons rec attrList ih =>
      rw [List.foldl_cons, lastPolicy_cons]
      unfold policySaves at hready
      by_cases hchange : rec.attrID = ZCL_ATTRID_START_UP_ONOFF ∧
          d.relay_settings.startUpOnOff ≠ rec.attrData 0
      · rcases writeOnOffRec_change save hchange with ⟨d', hrec, hattrs, hstartUp, hlog⟩
        rw [hrec, if_pos hchange, ← hattrs, ← hstartUp]
        rw [if_pos hchange, ← hstartUp] at hready
        rw [← hstartUp] at hlog
        by_cases hpolicy : d'.relay_settings.startUpOnOff > ZCL_START_UP_ONOFF_SET_ONOFF_TO_ON
        · rw [if_pos hpolicy, Nat.add_comm] at hready
          rw [if_pos hpolicy] at hlog
          have hstatus : d'.status = d.status := by
            rw [Device.status, hlog, hcurrent.saveStatus_eq]
            rfl
          apply ih true
          · rw [hlog]
            exact current_save hcurrent.toPlaced hready _
          · rw [hlog, hstatus]
            exact slotsReady_save hcurrent.toPlaced hready
        · rw [if_neg hpolicy, Nat.zero_add] at hready
          rw [if_neg hpolicy] at hlog
          apply ih true
          · rw [hlog]
            exact ⟨hcurrent.toPlaced, fun h => absurd h hpolicy⟩
          · rw [Device.status, hlog]
            exact hready
      · rw [writeOnOffRec_same save hchange, if_neg hchange]
        rw [if_neg hchange] at hready
        exact ih save hcurrent hready

/-- A frame of accepted records keeps the log current. -/
theorem Stored.write {d : Device} {attrList : List WriteRec} (hd : Stored d)
    (haccepted : Accepted attrList)
    (hready : SlotsReady d.log d.status
      (policySaves d.relay_settings.startUpOnOff attrList)) :
    Stored (writeCommand d APP_ENDPOINT1 ZCL_CLUSTER_GEN_ON_OFF attrList) := by
  rcases hd.current with ⟨last, hcurrent⟩
  have hstartUp := zclWriteHandler_startUp d.attrs haccepted
  rw [hd.policy] at hstartUp
  unfold writeCommand appZclWriteReqCmd
  generalize zclWriteHandler d.attrs APP_ENDPOINT1 ZCL_CLUSTER_GEN_ON_OFF attrList = attrs
    at hstartUp ⊢
  rcases current_records (d := { d with attrs := attrs }) false attrList hcurrent hready with
    ⟨last', hattrs, hpolicy, hcurrent'⟩
  have hstored : Stored (attrList.foldl writeOnOffRec ({ d with attrs := attrs }, false)).1 := by
    refine ⟨?_, last', ?_⟩
    · rw [hattrs, hpolicy]
      exact hstartUp
    · rw [hpolicy]
      exact hcurrent'
  rw [if_pos rfl]
  show Stored (if (attrList.foldl writeOnOffRec ({ d with attrs := attrs }, false)).2 then
    relaySettingsSave (attrList.foldl writeOnOffRec ({ d with attrs := attrs }, false)).1
    else (attrList.foldl writeOnOffRec ({ d with attrs := attrs }, false)).1)
  split
  · exact ⟨hstored.policy, hstored.current⟩
  · exact hstored

/-! ## Runs -/

/-- The relay commands, and frames of accepted {lit}`StartUpOnOff` records. -/
inductive PolicyEvent where
  | on
  | off
  | toggle
  | write (frame : {attrList : List WriteRec // Accepted attrList})

def Device.policyStep (d : Device) : PolicyEvent → Device
  | .on => cmdOnOffOn d
  | .off => cmdOnOffOff d
  | .toggle => cmdOnOffToggle d
  | .write frame => writeCommand d APP_ENDPOINT1 ZCL_CLUSTER_GEN_ON_OFF frame.1

/-- Every save of an event finds its slot ready. -/
def SavesReady (d : Device) : PolicyEvent → Prop
  | .on => SlotsReady d.log ZCL_ONOFF_STATUS_ON (commandSaves d ZCL_ONOFF_STATUS_ON)
  | .off => SlotsReady d.log ZCL_ONOFF_STATUS_OFF (commandSaves d ZCL_ONOFF_STATUS_OFF)
  | .toggle => SlotsReady d.log (toggled d.status) (commandSaves d (toggled d.status))
  | .write frame =>
      SlotsReady d.log d.status (policySaves d.relay_settings.startUpOnOff frame.1)

theorem Stored.step {d : Device} {e : PolicyEvent} (hd : Stored d) (hready : SavesReady d e) :
    Stored (d.policyStep e) := by
  cases e with
  | on => exact hd.command hready
  | off => exact hd.command hready
  | toggle =>
      show Stored (cmdOnOffToggle d)
      rw [cmdOnOffToggle_eq]
      exact hd.command hready
  | write frame => exact hd.write frame.2 hready

theorem Booted.stored {input : BootInput} {d : Device} (hd : Booted input d) : Stored d := by
  rcases hd.restored with ⟨log, -, hrestored⟩
  exact ⟨hd.startUp, current_restore hrestored _⟩

/-! ## The relay behind the next boot -/

/-- The level that a policy which looks at the stored status makes of the one the relay was
left at: {lit}`TOGGLE` makes the other one of it and {lit}`PREVIOUS` the same. -/
def Device.restoredLevel (d : Device) (level : UInt8) : UInt8 :=
  if d.relay_settings.startUpOnOff = ZCL_START_UP_ONOFF_SET_ONOFF_TOGGLE then
    if level = d.device.relayOn then d.device.relayOff else d.device.relayOn
  else level

/-- The relay is on exactly when the status is. -/
def ShowsStatus (d : Device) (level : UInt8) : Prop :=
  level = d.device.relayOn ↔ d.status ≠ ZCL_ONOFF_STATUS_OFF

/-- When the next boot gives the relay the level it is to have.  A toggle or momentary switch
goes by the status, and the others leave the relay off. -/
def RelayReturns (d : Device) (level : UInt8) : Prop :=
  if d.relay_settings.switchType < ZCL_SWITCH_TYPE_MULTIFUNCTION then ShowsStatus d level
  else d.restoredLevel level = d.device.relayOff

theorem relayLevel_previous (device : SwitchDevice) (stored : UInt8) :
    device.relayLevel (policyValue ZCL_START_UP_ONOFF_SET_ONOFF_TO_PREVIOUS stored) =
      if stored = ZCL_ONOFF_STATUS_OFF then device.relayOff else device.relayOn := by
  show device.relayLevel (if stored ≠ ZCL_ONOFF_STATUS_OFF then _ else _) = _
  by_cases hstored : stored = ZCL_ONOFF_STATUS_OFF
  · rw [if_neg (not_not.mpr hstored), if_pos hstored]
    rfl
  · rw [if_pos hstored, if_neg hstored]
    rfl

theorem relayLevel_toggle (device : SwitchDevice) (stored : UInt8) :
    device.relayLevel (policyValue ZCL_START_UP_ONOFF_SET_ONOFF_TOGGLE stored) =
      if stored = ZCL_ONOFF_STATUS_OFF then device.relayOn else device.relayOff := by
  show device.relayLevel (if stored = ZCL_ONOFF_STATUS_OFF then _ else _) = _
  split
  · rfl
  · rfl

/-- The level of the policy is the one that is to be restored if the relay shows the status. -/
theorem relayLevel_policy_iff {d : Device} {level : UInt8} (hmodel : d.device ∈ switchDevices)
    (hen : d.device.device_en = true)
    (hlevel : level = d.device.relayOn ∨ level = d.device.relayOff)
    (hpolicy : d.relay_settings.startUpOnOff = ZCL_START_UP_ONOFF_SET_ONOFF_TO_PREVIOUS ∨
      d.relay_settings.startUpOnOff = ZCL_START_UP_ONOFF_SET_ONOFF_TOGGLE) :
    d.device.relayLevel (policyValue d.relay_settings.startUpOnOff d.status) =
      d.restoredLevel level ↔ ShowsStatus d level := by
  have hne := relayOn_ne_relayOff hmodel hen
  unfold Device.restoredLevel ShowsStatus
  rcases hpolicy with hprevious | htoggle
  · have hother : ZCL_START_UP_ONOFF_SET_ONOFF_TO_PREVIOUS ≠
        ZCL_START_UP_ONOFF_SET_ONOFF_TOGGLE := by
      decide
    rw [hprevious, relayLevel_previous, if_neg hother]
    by_cases hstatus : d.status = ZCL_ONOFF_STATUS_OFF
    · rcases hlevel with rfl | rfl
      · simp [hstatus, hne.symm]
      · simp [hstatus, hne.symm]
    · rcases hlevel with rfl | rfl
      · simp [hstatus]
      · simp [hstatus, hne, hne.symm]
  · rw [htoggle, relayLevel_toggle, if_pos rfl]
    by_cases hstatus : d.status = ZCL_ONOFF_STATUS_OFF
    · rcases hlevel with rfl | rfl
      · simp [hstatus, hne]
      · simp [hstatus, hne.symm]
    · rcases hlevel with rfl | rfl
      · simp [hstatus]
      · simp [hstatus, hne.symm]

/-- When the first poll behind the next boot leaves the relay at the level it is to have. -/
theorem lastDriven_reboot_iff {input : BootInput} {start d d' : Device} {buffer : RelaySettings}
    {clock : UInt32} (hinit : userInit input = some start) (hd : Rebootable input d)
    (hsame : SameParts start d) (hen : d.device.device_en = true)
    (hinit' : userInit (d.reboot buffer clock) = some d') (hstatus : d'.status = d.status)
    (hpolicy : d.relay_settings.startUpOnOff = ZCL_START_UP_ONOFF_SET_ONOFF_TO_PREVIOUS ∨
      d.relay_settings.startUpOnOff = ZCL_START_UP_ONOFF_SET_ONOFF_TOGGLE) {level : UInt8}
    (hlevel : level = d.device.relayOn ∨ level = d.device.relayOff) (sample : Sample)
    (poll : Poll) :
    LastDriven (switchHandler d' sample poll) (d.restoredLevel level) ↔ RelayReturns d level := by
  have hbooted := userInit_spec hinit'
  have hmodel : d.device ∈ switchDevices := by
    rw [hsame.device]
    exact (userInit_spec hinit).device_mem
  have hdevice : d'.device = d.device := by
    have htable := hbooted.model
    rw [hd.reboot_model, (userInit_spec hinit).model] at htable
    rw [hsame.device]
    exact (Option.some.inj htable).symm
  have hsettings : ∀ data ∈ [AttrData.startUpOnOff, .switchActions, .custom_swtichType,
      .custom_decoupled], d'.relay_settings.read data = d.relay_settings.read data := by
    rw [hbooted.settings]
    exact hd.synced.restored buffer clock
  have hstartUp : d'.relay_settings.startUpOnOff = d.relay_settings.startUpOnOff :=
    toUInt16_inj.mp (hsettings .startUpOnOff (by decide))
  have htype : d'.relay_settings.switchType = d.relay_settings.switchType :=
    toUInt16_inj.mp (hsettings .custom_swtichType (by decide))
  have hwaits : WaitsForPoll d' := by
    refine hbooted.relay.resolve_right fun hdormant => ?_
    have hdisabled := hdormant.disabled
    rw [hdevice, hen] at hdisabled
    cases hdisabled
  have hpolled := hwaits.lastDriven_poll sample poll
  rw [hdevice, hstartUp, hstatus, htype] at hpolled
  have hiff : LastDriven (switchHandler d' sample poll) (d.restoredLevel level) ↔
      (if d.relay_settings.switchType < ZCL_SWITCH_TYPE_MULTIFUNCTION then
        d.device.relayLevel (policyValue d.relay_settings.startUpOnOff d.status)
      else d.device.relayOff) = d.restoredLevel level := by
    rw [LastDriven, hpolled, Option.some.injEq]
  rw [hiff, RelayReturns]
  split
  · exact relayLevel_policy_iff hmodel hen hlevel hpolicy
  · exact eq_comm

/-! ## The invariants of a run -/

/-- The events that command the relay. -/
def PolicyEvent.Commands : PolicyEvent → Prop
  | .write _ => False
  | .on | .off | .toggle => True

theorem policyStep_of_commands {e : PolicyEvent} (he : e.Commands) (d : Device) :
    ∃ v, (v = ZCL_ONOFF_STATUS_ON ∨ v = ZCL_ONOFF_STATUS_OFF) ∧
      d.policyStep e = relayCommand d v := by
  cases e with
  | on => exact ⟨ZCL_ONOFF_STATUS_ON, Or.inl rfl, cmdOnOffOn_eq d⟩
  | off => exact ⟨ZCL_ONOFF_STATUS_OFF, Or.inr rfl, cmdOnOffOff_eq d⟩
  | toggle => exact ⟨toggled d.status, toggled_onOff d.status, cmdOnOffToggle_eq d⟩
  | write frame => exact he.elim

theorem Rebootable.policyStep {input : BootInput} {d : Device} (e : PolicyEvent)
    (hd : Rebootable input d) : Rebootable input (d.policyStep e) := by
  cases e with
  | on => exact hd.relayCommand ZCL_ONOFF_STATUS_ON
  | off => exact hd.relayCommand ZCL_ONOFF_STATUS_OFF
  | toggle =>
      show Rebootable input (cmdOnOffToggle d)
      rw [cmdOnOffToggle_eq]
      exact hd.relayCommand _
  | write frame => exact hd.writeCommand ZCL_CLUSTER_GEN_ON_OFF frame.1

theorem sameParts_policyStep {start d : Device} (e : PolicyEvent) (hd : SameParts start d) :
    SameParts start (d.policyStep e) := by
  cases e with
  | on => exact hd.trans (sameParts_relayCommand d ZCL_ONOFF_STATUS_ON)
  | off => exact hd.trans (sameParts_relayCommand d ZCL_ONOFF_STATUS_OFF)
  | toggle =>
      show SameParts start (cmdOnOffToggle d)
      rw [cmdOnOffToggle_eq]
      exact hd.trans (sameParts_relayCommand d _)
  | write frame => exact hd.trans (sameParts_writeCommand d _ _ frame.1)

theorem Settled.policyStep {drives : List UInt8} {d : Device} (e : PolicyEvent)
    (hd : Settled drives d) : Settled drives (d.policyStep e) := by
  cases e with
  | on => exact hd.cmdOnOffOn
  | off => exact hd.cmdOnOffOff
  | toggle => exact hd.cmdOnOffToggle
  | write frame => exact hd.writeCommand APP_ENDPOINT1 ZCL_CLUSTER_GEN_ON_OFF frame.1

/-- Behind a run with a relay command everything agrees. -/
theorem agree_of_command {start : Device} {es : List PolicyEvent} {e : PolicyEvent}
    (hstart : Settled (relays start.outputs) start) (hmem : e ∈ es) (he : e.Commands) :
    Agree (run Device.policyStep start es) := by
  rcases List.append_of_mem hmem with ⟨pre, post, rfl⟩
  rw [run_append, run_cons]
  have hpre : Settled (relays start.outputs) (run Device.policyStep start pre) :=
    run_invariant_always _ (fun _ e => Settled.policyStep e) pre hstart
  rcases policyStep_of_commands he (run Device.policyStep start pre) with ⟨v, hv, hstep⟩
  have hcommand := hpre.policyStep e
  have hagree : Agree ((run Device.policyStep start pre).policyStep e) := by
    rw [hstep]
    exact agree_relayCommand hpre.enabled hv
  exact agree_of_settled hcommand.model hcommand.enabled hagree fun drives hd =>
    run_invariant_always (Settled drives) (fun _ e => Settled.policyStep e) post hd

/-- Since the boot of an enabled device the relay is off, or it agrees with the status. -/
theorem Settled.level {d : Device} (hd : Settled [d.device.relayOff] d) {level : UInt8}
    (hlevel : LastDriven d level) : level = d.device.relayOn ∨ level = d.device.relayOff := by
  rcases hd.agree with hoff | hagree
  · rw [LastDriven, hoff] at hlevel
    exact Or.inr (Option.some.inj hlevel).symm
  · have hsame : d.device.relayLevel d.status = level :=
      Option.some.inj (hagree.relay.symm.trans hlevel)
    rw [← hsame, SwitchDevice.relayLevel]
    split
    · exact Or.inl rfl
    · exact Or.inr rfl

theorem Agree.showsStatus {d : Device} (hd : Agree d) (hmodel : d.device ∈ switchDevices)
    (hen : d.device.device_en = true) {level : UInt8} (hlevel : LastDriven d level) :
    ShowsStatus d level := by
  have hsame : d.device.relayLevel d.status = level :=
    Option.some.inj (hd.relay.symm.trans hlevel)
  have hoff := relayLevel_eq_off_iff hmodel hen d.status
  rw [ShowsStatus, ← hsame]
  rcases hd.onOff with hstatus | hstatus
  · rw [hstatus]
    exact iff_of_true rfl (by decide)
  · rw [hstatus]
    exact iff_of_false (relayOn_ne_relayOff hmodel hen).symm (not_not.mpr rfl)

/-- Behind a boot, over every run whose saves find their slots ready: while the
policy looks at the stored status, a restore finds the status of the firmware, and
so does every boot from the flash as it is.  Of a model with a relay the next boot succeeds,
and its first poll gives the relay the level that the policy makes of the one the relay was
left at exactly when the relay returns; from the first command on the relay shows the status. -/
theorem stored_status_current (input : BootInput) (start : Device)
    (hinit : userInit input = some start) (es : List PolicyEvent)
    (hready : Along Device.policyStep SavesReady start es)
    (hpolicy : (run Device.policyStep start es).relay_settings.startUpOnOff >
      ZCL_START_UP_ONOFF_SET_ONOFF_TO_ON) :
    (∃ r, (run Device.policyStep start es).log.reboot = some r ∧
      r.status_onoff = (run Device.policyStep start es).log.status_onoff) ∧
    (∀ input' d', input'.chip = (run Device.policyStep start es).log.chip →
      userInit input' = some d' → d'.status = (run Device.policyStep start es).status) ∧
    (input.model ≠ DEVICE_SWITCH_NONE →
      ((run Device.policyStep start es).relay_settings.startUpOnOff =
          ZCL_START_UP_ONOFF_SET_ONOFF_TO_PREVIOUS ∨
        (run Device.policyStep start es).relay_settings.startUpOnOff =
          ZCL_START_UP_ONOFF_SET_ONOFF_TOGGLE) →
      ∀ level, LastDriven (run Device.policyStep start es) level →
        (∀ buffer clock, ∃ d',
          userInit ((run Device.policyStep start es).reboot buffer clock) = some d' ∧
          ∀ sample poll,
            LastDriven (switchHandler d' sample poll)
                ((run Device.policyStep start es).restoredLevel level) ↔
              RelayReturns (run Device.policyStep start es) level) ∧
        ((∃ e ∈ es, e.Commands) → ShowsStatus (run Device.policyStep start es) level)) := by
  have hbooted := userInit_spec hinit
  have hrun : Stored (run Device.policyStep start es) :=
    run_invariant Stored (fun _ _ => Stored.step) hbooted.stored hready
  rcases hrun.current with ⟨last, hcurrent⟩
  rcases hcurrent.reboot with ⟨r, hr, -, -, -, hstatus⟩
  have hfound : r.status_onoff = (run Device.policyStep start es).log.status_onoff :=
    hstatus.trans (hcurrent.stored hpolicy)
  have hboots : ∀ input' d', input'.chip = (run Device.policyStep start es).log.chip →
      userInit input' = some d' → d'.status = (run Device.policyStep start es).status := by
    intro input' d' hchip hinit'
    have hlog : statusOnoffRestore (powerOn input'.chip) = some r := by
      rw [hchip]
      exact hr
    rw [(userInit_spec hinit').status_eq hlog, hfound]
    rfl
  refine ⟨⟨r, hr, hfound⟩, hboots, fun hmodel hpolicy' level hlevel => ?_⟩
  have hen : start.device.device_en = true := hbooted.enabled_iff.mpr hmodel
  have hsame : SameParts start (run Device.policyStep start es) :=
    run_invariant_always (SameParts start) (fun _ e => sameParts_policyStep e) es
      ⟨rfl, rfl, rfl, rfl, rfl⟩
  have hrebootable : Rebootable input (run Device.policyStep start es) :=
    run_invariant_always (Rebootable input) (fun _ e => Rebootable.policyStep e) es
      (configured_userInit hinit).toRebootable
  have hwaits : WaitsForPoll start := by
    refine hbooted.relay.resolve_right fun hdormant => ?_
    rw [hdormant.disabled] at hen
    cases hen
  have hsettled : Settled [start.device.relayOff] (run Device.policyStep start es) :=
    run_invariant_always (Settled [start.device.relayOff]) (fun _ e => Settled.policyStep e) es
      ⟨hbooted.device_mem, hen, Or.inl hwaits.relays⟩
  rw [← hsame.device] at hsettled
  refine ⟨fun buffer clock => ?_, fun hcommand => ?_⟩
  · rcases hrebootable.exists_reboot hinit buffer clock with ⟨d', hinit'⟩
    refine ⟨d', hinit', fun sample poll => ?_⟩
    exact lastDriven_reboot_iff hinit hrebootable hsame hsettled.enabled hinit'
      (hboots _ d' rfl hinit') hpolicy' (hsettled.level hlevel) sample poll
  · rcases hcommand with ⟨e, hmem, he⟩
    have hagree := agree_of_command ⟨hbooted.device_mem, hen, Or.inl rfl⟩ hmem he
    exact hagree.showsStatus hsettled.model hsettled.enabled hlevel

/-! ## Two runs -/

/-- Every slot behind a log that was started anew is ready. -/
theorem slotsReady_of_noRecord {log r : StatusLog} (hrestored : Restored log r)
    (hnone : NoRecord (ValidSlot log.chip.mem) SLOTS) (v : UInt8) (n : Nat) :
    SlotsReady r v n := by
  rcases hrestored.of_noRecord hnone with ⟨hservice, hblank, -, -⟩
  intro i _
  exact hblank.nextReady (Nat.zero_le _) v

theorem noRecord_modelChip : NoRecord (ValidSlot modelChip.mem) SLOTS := by
  intro i hi
  apply BlankSlot.not_valid
  intro j hj
  apply programAt_of_lt
  simp only [slotAddr, BEGIN_STATUS_ONOFF_DATA, FLASH_SAVE_SIZE, SLOTS, DEVICE_MODEL_CFG_ADDR] at *
  omega

/-- A relay that is to keep its status. -/
def keepPrevious : RelaySettings where
  startUpOnOff := ZCL_START_UP_ONOFF_SET_ONOFF_TO_PREVIOUS
  switchType := ZCL_SWITCH_TYPE_MOMENTARY
  crc := 0

theorem startUp_on {input : BootInput} {d : Device} (hd : Booted input d)
    (hstored : input.stored = some keepPrevious) :
    (run Device.policyStep d [.on]).relay_settings = keepPrevious := by
  show (cmdOnOffOn d).relay_settings = _
  rw [cmdOnOffOn_eq, relayCommand_settings, hd.settings, hstored]
  rfl

/-- On a new chip the status is stored. -/
theorem stored_status_current_new :
    ∃ start r, userInit (modelBoot modelChip keepPrevious) = some start ∧
      (run Device.policyStep start [.on]).log.reboot = some r ∧
      r.status_onoff = (run Device.policyStep start [.on]).log.status_onoff := by
  rcases exists_modelBoot (model_modelChip keepPrevious) with ⟨start, -, hinit, -⟩
  have hd := userInit_spec hinit
  have hpolicy : (run Device.policyStep start [.on]).relay_settings.startUpOnOff >
      ZCL_START_UP_ONOFF_SET_ONOFF_TO_ON := by
    rw [startUp_on hd rfl]
    decide
  have hready : Along Device.policyStep SavesReady start [.on] := by
    rcases hd.restored with ⟨log, hmem, hrestored⟩
    have hnone : NoRecord (ValidSlot log.chip.mem) SLOTS := by
      rw [hmem]
      exact noRecord_modelChip
    exact ⟨slotsReady_of_noRecord hrestored hnone _ _, trivial⟩
  rcases (stored_status_current _ start hinit [.on] hready hpolicy).1 with ⟨r, hr, hstatus⟩
  exact ⟨start, r, hinit, hr, hstatus⟩

/-- A chip with a record of off, and behind it what power left of another one. -/
def tornChip : Chip where
  mem := programAt modelChip.mem BEGIN_STATUS_ONOFF_DATA [0x65, 0x00, 0x65, 0xFF, 0x65, 0x00]
  trace := []

theorem model_tornChip : (modelBoot tornChip keepPrevious).model = DEVICE_SWITCH_1 := by
  apply model_of_record
  show readBytes tornChip.mem _ _ = _
  decide

theorem slotRecord_tornChip :
    slotRecord tornChip.mem 0 = mkRecord ZCL_ONOFF_STATUS_OFF ∧
      slotRecord tornChip.mem 1 = ⟨ID_SETTING, ZCL_ONOFF_STATUS_OFF, blank⟩ := by
  constructor
  · decide
  · decide

/-- The boot from that chip finds the first record. -/
theorem exists_tornBoot :
    ∃ start, userInit (modelBoot tornChip keepPrevious) = some start ∧
      Booted (modelBoot tornChip keepPrevious) start ∧
      FirstRun (ValidSlot start.log.chip.mem) SLOTS 0 0 ∧
      start.log.flash_addr_start = slotAddr 0 ∧
      start.log.status_onoff = mkRecord ZCL_ONOFF_STATUS_OFF ∧
      start.log.chip.mem = tornChip.mem := by
  rcases exists_modelBoot model_tornChip with ⟨start, -, hinit, -⟩
  have hd := userInit_spec hinit
  rcases slotRecord_tornChip with ⟨hzero, hone⟩
  have hrun : FirstRun (ValidSlot tornChip.mem) SLOTS 0 0 := by
    apply firstRun_zero (by decide)
    · rw [ValidSlot, hzero]
      exact valid_mkRecord _
    · intro _
      rw [ValidSlot, hone]
      decide
  rcases hd.restored with ⟨log, hmem, hrestored⟩
  have hsame : log.chip.mem = tornChip.mem := hmem
  rw [← hsame] at hrun
  rcases restore_of_firstRun hrun hrestored with ⟨hstart, haddr, hstatus⟩
  rw [← hstart] at hrun
  rw [hsame, hzero] at hstatus
  exact ⟨start, hinit, hd, hrun, haddr, hstatus, hstart.trans hsame⟩

/-- The command on saves when it changes the status and the policy asks for it. -/
theorem log_of_saved_on {d : Device} (hchange : d.status ≠ ZCL_ONOFF_STATUS_ON)
    (hsaves : d.attrs.onOff.startUpOnOff > ZCL_START_UP_ONOFF_SET_ONOFF_TO_ON) :
    (run Device.policyStep d [.on]).log = d.log.saveStatus ZCL_ONOFF_STATUS_ON := by
  show (cmdOnOffOn d).log = _
  rw [cmdOnOffOn_eq, relayCommand, (setRelayStatus_frame _ _).log, commitStatus_log,
    if_pos (Or.inr hchange), if_pos hsaves]

/-- On that chip the command is executed and its status is not stored. -/
theorem stored_status_stale :
    ∃ start r, userInit (modelBoot tornChip keepPrevious) = some start ∧
      (run Device.policyStep start [.on]).relay_settings.startUpOnOff >
        ZCL_START_UP_ONOFF_SET_ONOFF_TO_ON ∧
      (run Device.policyStep start [.on]).log.reboot = some r ∧
      r.status_onoff ≠ (run Device.policyStep start [.on]).log.status_onoff := by
  rcases exists_tornBoot with ⟨start, hinit, hd, hrun, haddr, hstatus, hmem⟩
  have hid : start.log.status_onoff.id = ID_SETTING := by
    rw [hstatus, mkRecord]
  have hzero : slotRecord start.log.chip.mem 0 = mkRecord ZCL_ONOFF_STATUS_OFF := by
    rw [hmem]
    exact slotRecord_tornChip.1
  -- the status byte of off in the slot behind takes no status byte of on
  have hlost : ¬ ValidSlot (runCmds geometry start.log.chip.mem
      (saveCmds 0 ZCL_ONOFF_STATUS_ON)) (0 + 1) := by
    rw [ValidSlot, slotRecord_saveCmds _ (by decide), hmem, slotRecord_tornChip.2]
    decide
  rcases reboot_of_lost_save hrun haddr hid hzero (by decide) hlost with
    ⟨r, hr, -, -, -, hfound, -⟩
  have hlog := log_of_saved_on (d := start)
    (by rw [Device.status, hstatus]; decide)
    (by rw [hd.startUp, hd.settings]; decide)
  refine ⟨start, r, hinit, ?_, ?_, ?_⟩
  · rw [startUp_on hd rfl]
    decide
  · rw [hlog]
    exact hr
  · rw [hlog, hfound, saveStatus_eq _ hrun.last_lt_size haddr hid]
    exact (by decide : mkRecord ZCL_ONOFF_STATUS_OFF ≠ mkRecord ZCL_ONOFF_STATUS_ON)

end Firmware
