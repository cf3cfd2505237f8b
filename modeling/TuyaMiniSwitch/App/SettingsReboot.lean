import TuyaMiniSwitch.App.PowerOnPolicy
import TuyaMiniSwitch.App.RemoteCommands
import TuyaMiniSwitch.App.SettingsMirror

/-!
# Application - Settings and reboots

The settings are stored as one packed structure and restored by another function,
which copies them back to the attributes one by one.  What is not on its list is
lost: the level attributes start from their initial values, and the custom model
from the model record of the flash.

Main results:

- Theorem {lit}`userInit_config`: the configuration behind a boot.
- Theorem {lit}`behaves_startUp_iff`: when the relay goes by {lit}`StartUpOnOff` behind a boot.
- Theorem {lit}`settings_survive_reboot_iff`: which attributes the next boot keeps.
-/

namespace Firmware

open Machine NorFlash FlashDriver Utility OnOffLog

/-! ## The configuration behind a boot -/

/-- What a boot makes of the configuration. -/
structure BootConfig (input : BootInput) (d : Device) : Prop where
  nv : d.nv = input.nv
  build : d.DEVICE_MODEL = input.DEVICE_MODEL
  model : d.device_switch_model = input.model
  mirrors : Mirrors d
  custom_model : d.attrs.onOffCfg.custom_model = input.model
  level : d.attrs.level = {}
  inside : ∃ chip, chip.mem = input.chip.mem ∧ Inside chip d.log

theorem deviceModelInit_model {input : BootInput} {d d' : Device} {clock : UInt32}
    (hd : Cold input d) (hinit : deviceModelInit d clock = some d') :
    d'.device_switch_model = d.device_switch_model ∧ d'.DEVICE_MODEL = d.DEVICE_MODEL := by
  rcases Option.bind_eq_some_iff.mp hinit with ⟨device, -, hrest⟩
  have hd1 : Cold input { d with device := device } :=
    ⟨hd.mem, hd.nv, hd.attrs, hd.settings, hd.status⟩
  have hswitch : ∀ d : Device, (switchInit d clock).device_switch_model =
      d.device_switch_model ∧ (switchInit d clock).DEVICE_MODEL = d.DEVICE_MODEL := by
    intro d
    unfold switchInit
    split
    · exact ⟨rfl, rfl⟩
    · exact ⟨rfl, rfl⟩
  cases hrest
  rw [(hswitch _).1, (hswitch _).2]
  split
  · rw [devRelayInit_cold hd1]
    unfold setRelayStatus
    split
    · exact ⟨rfl, rfl⟩
    · exact ⟨rfl, rfl⟩
  · exact ⟨rfl, rfl⟩

theorem userInit_config {input : BootInput} {d : Device} (hinit : userInit input = some d) :
    BootConfig input d := by
  rcases Option.bind_eq_some_iff.mp hinit with ⟨d1, hmodel, hrest⟩
  rcases Option.bind_eq_some_iff.mp hrest with ⟨d2, hrestore, hstart⟩
  rcases deviceModelRestore_cold hmodel with ⟨hcold, -, -⟩
  have hselected : d1.device_switch_model = input.model ∧
      d1.DEVICE_MODEL = input.DEVICE_MODEL := by
    have hcold' : Cold input input.withModel := ⟨rfl, rfl, rfl, rfl, rfl⟩
    rw [deviceModelRestore_eq] at hmodel
    exact deviceModelInit_model hcold' hmodel
  have hmirrors := mirrors_restore hrestore
  have hbase : ∃ cs, d1.log.chip = d1.log.chip.run geometry cs ∧ ∀ c ∈ cs, Confined c :=
    ⟨[], rfl, fun c hc => absurd hc List.not_mem_nil⟩
  rcases inside_restore hbase with ⟨log, hlog, hinside⟩
  rcases Option.bind_eq_some_iff.mp hrestore with ⟨log', hlog', hrest'⟩
  have heq : log = log' := Option.some.inj (hlog.symm.trans hlog')
  cases hrest'
  cases hstart
  rw [zclOnOffStartUpOnOff_eq]
  constructor
  · exact hcold.nv
  · exact hselected.2
  · exact hselected.1
  · exact ⟨hmirrors.startUpOnOff, hmirrors.switchActions, hmirrors.switchType,
      hmirrors.custom_swtichType, hmirrors.custom_decoupled⟩
  · exact hselected.1
  · show d1.attrs.level = {}
    rw [hcold.attrs]
  · refine ⟨d1.log.chip, hcold.mem, ?_⟩
    rw [heq] at hinside
    exact hinside

/-- A boot from the flash and the stored settings of a device. -/
def Device.reboot (d : Device) (buffer : RelaySettings) (clock : UInt32) : BootInput where
  DEVICE_MODEL := d.DEVICE_MODEL
  chip := d.log.chip
  nv := d.nv
  buffer := buffer
  clock := clock

theorem BootInput.stored_of_some {input : BootInput} {s : RelaySettings}
    (hstored : input.stored = some s) : input.nv = some s ∧ s.crc = checksum s.toBytes := by
  rw [BootInput.stored, Option.filter_eq_some_iff] at hstored
  exact ⟨hstored.1, beq_iff_eq.mp hstored.2⟩

/-! ## What a reboot keeps -/

/-- The configuration attributes that can be written and that the application stores or
applies. -/
def configAttrs : List AttrData :=
  [ .startUpOnOff, .switchActions, .custom_swtichType, .custom_decoupled, .custom_model,
    .defaultMoveRate, .minLevel, .maxLevel, .transitionTime ]

/-- The value the firmware goes by where it looks an attribute up: the settings, the
model, and for the level attributes what the level commands of endpoint 1 carry. -/
def Device.applied (d : Device) (outside : UInt8 → UInt8) : AttrData → UInt16
  | .custom_model => d.device_switch_model.toUInt16
  | .defaultMoveRate =>
      (settingAt d.relay_settings.defaultMoveRate outside APP_ENDPOINT1).toUInt16
  | .minLevel =>
      (moveToLevel d.relay_settings outside APP_ENDPOINT1 LEVEL_MOVE_DOWN).level.toUInt16
  | .maxLevel =>
      (moveToLevel d.relay_settings outside APP_ENDPOINT1 LEVEL_MOVE_UP).level.toUInt16
  | .transitionTime =>
      (moveToLevel d.relay_settings outside APP_ENDPOINT1 LEVEL_MOVE_UP).transitionTime
  | data => d.relay_settings.read data

/-- Behind a boot the firmware behaves by a value of an attribute.  By one of
{lit}`StartUpOnOff` it does so if the first poll of the wall switch finds the relay, the
OnOff attribute and the status as the value wants them for the status that was restored. -/
def Behaves (outside : UInt8 → UInt8) (d : Device) (data : AttrData) (v : UInt16) : Prop :=
  match data with
  | .startUpOnOff => ∀ sample poll,
      PolicyApplied (policyValue v.toUInt8 d.status) (switchHandler d sample poll)
  | data => d.applied outside data = v

/-- Behind a reboot an attribute reads as before, and the firmware behaves by that value. -/
def Kept (outside : UInt8 → UInt8) (d d' : Device) (data : AttrData) : Prop :=
  d'.attrs.read data = d.attrs.read data ∧ Behaves outside d' data (d.attrs.read data)

/-- The status that {lit}`status_onoff_restore` finds in the flash is off. -/
def StoredOff (chip : Chip) : Prop :=
  ∃ log, statusOnoffRestore (powerOn chip) = some log ∧
    log.status_onoff.status_onoff = ZCL_ONOFF_STATUS_OFF

/-- When an attribute is kept.  For {lit}`StartUpOnOff` the device has to have a relay, and
its switch has to be a toggle or momentary one unless the relay is off and is to stay off.
The decoupled attribute has to show its setting, the custom model has to be the model
already, and a level attribute must have the value it starts with, which the stored
settings must have, too, where the firmware reads them. -/
def Survives (d : Device) (input : BootInput) (data : AttrData) : Prop :=
  match data with
  | .startUpOnOff => d.device_switch_model ≠ DEVICE_SWITCH_NONE ∧
      (d.relay_settings.switchType < ZCL_SWITCH_TYPE_MULTIFUNCTION ∨
        (StoredOff d.log.chip ∧ policyValue d.relay_settings.startUpOnOff ZCL_ONOFF_STATUS_OFF =
          ZCL_ONOFF_STATUS_OFF))
  | .custom_decoupled => d.attrs.onOffCfg.custom_decoupled = d.relay_settings.switch_decoupled
  | .custom_model => d.attrs.onOffCfg.custom_model = d.device_switch_model
  | .defaultMoveRate | .minLevel | .maxLevel =>
      d.attrs.read data = ({} : Attrs).read data ∧
        (input.stored.getD input.defaults).read data = ({} : Attrs).read data
  | .transitionTime => d.attrs.read data = ({} : Attrs).read data
  | _ => True

/-! ## The configuration over a run of frames -/

/-- The settings in use are the stored ones, or nothing was stored and the settings in
use are the defaults. -/
inductive Synced (d : Device) : Prop
  | stored (hnv : d.nv = some d.relay_settings)
      (hcrc : d.relay_settings.crc = checksum d.relay_settings.toBytes)
  | defaults (hnv : d.nv.filter (fun s => s.crc == checksum s.toBytes) = none)
      (hstartUp : d.relay_settings.startUpOnOff = ZCL_START_UP_ONOFF_SET_ONOFF_TO_OFF)
      (hactions : d.relay_settings.switchActions = ZCL_SWITCH_ACTION_OFF_ON)
      (htype : d.relay_settings.switchType = ZCL_SWITCH_TYPE_MOMENTARY)
      (hdecoupled : d.relay_settings.switch_decoupled = CUSTOM_SWITCH_DECOUPLED_OFF)

/-- The firmware since a boot, as far as the next boot is concerned. -/
structure Rebootable (input : BootInput) (d : Device) : Prop where
  build : d.DEVICE_MODEL = input.DEVICE_MODEL
  model : d.device_switch_model = input.model
  inside : ∃ chip, chip.mem = input.chip.mem ∧ Inside chip d.log
  synced : Synced d

/-- The firmware since a boot, with attributes that show the settings. -/
structure Configured (input : BootInput) (d : Device) : Prop
    extends Rebootable input d where
  shown : ∀ data ∈ [AttrData.startUpOnOff, .switchActions, .custom_swtichType],
    d.attrs.read data = d.relay_settings.read data

/-- The checksum does not depend on where it is stored. -/
theorem checksum_withCrc (s : RelaySettings) (crc : UInt8) :
    checksum { s with crc := crc }.toBytes = checksum s.toBytes := rfl

theorem configured_userInit {input : BootInput} {d : Device} (hinit : userInit input = some d) :
    Configured input d := by
  have hconfig := userInit_config hinit
  have hsettings := (userInit_spec hinit).settings
  refine ⟨⟨hconfig.build, hconfig.model, hconfig.inside, ?_⟩, ?_⟩
  · cases hstored : input.stored with
    | none =>
        rw [hstored, Option.getD_none] at hsettings
        apply Synced.defaults
        · rw [hconfig.nv]
          exact hstored
        · rw [hsettings]
          rfl
        · rw [hsettings]
          rfl
        · rw [hsettings]
          rfl
        · rw [hsettings]
          rfl
    | some s =>
        rw [hstored, Option.getD_some] at hsettings
        rcases BootInput.stored_of_some hstored with ⟨hnv, hcrc⟩
        apply Synced.stored
        · rw [hconfig.nv, hnv, hsettings]
        · rw [hsettings]
          exact hcrc
  · intro data hdata
    simp only [List.mem_cons, List.not_mem_nil, or_false] at hdata
    rcases hdata with rfl | rfl | rfl
    · exact toUInt16_inj.mpr hconfig.mirrors.startUpOnOff
    · exact toUInt16_inj.mpr hconfig.mirrors.switchActions
    · exact toUInt16_inj.mpr hconfig.mirrors.custom_swtichType

theorem inside_setStatus {chip : Chip} {d : Device} (hd : Inside chip d.log) (v : UInt8) :
    Inside chip (d.setStatus v).log := ⟨hd.addr, hd.id, hd.cmds⟩

theorem inside_commitStatus {chip : Chip} {d : Device} (hd : Inside chip d.log) (v : UInt8) :
    Inside chip (commitStatus d v).log := by
  rw [commitStatus_log]
  split
  · split
    · exact hd.save _
    · exact inside_setStatus hd _
  · exact hd

/-- A setting leaves the log inside its sector. -/
theorem inside_handle {chip : Chip} {d : Device} (hd : Inside chip d.log) (setting : Setting) :
    Inside chip (d.handle setting).log := by
  rw [handle_log]
  split
  · exact inside_commitStatus hd _
  · split
    · exact hd.save _
    · exact hd

/-- A frame either saves the settings it leaves or leaves everything as it is. -/
theorem Synced.writeCommand {d : Device} (hd : Synced d) (clusterId : UInt16)
    (attrList : List WriteRec) : Synced (writeCommand d APP_ENDPOINT1 clusterId attrList) := by
  rw [Firmware.writeCommand, appZclWriteReqCmd_eq]
  split
  · apply Synced.stored
    · rfl
    · exact (checksum_withCrc _ _).symm
  · cases hd with
    | stored hnv hcrc => exact Synced.stored hnv hcrc
    | defaults hnv hstartUp hactions htype hdecoupled =>
        exact Synced.defaults hnv hstartUp hactions htype hdecoupled

theorem inside_writeCommand {chip : Chip} {d : Device} (hd : Inside chip d.log)
    (clusterId : UInt16) (attrList : List WriteRec) :
    Inside chip (writeCommand d APP_ENDPOINT1 clusterId attrList).log := by
  have hrun : ∀ (d : Device) settings, Inside chip d.log →
      Inside chip (run Device.handle d settings).log := by
    intro d settings hd
    exact run_invariant_always (fun d : Device => Inside chip d.log)
      (fun _ setting hd => inside_handle hd setting) settings hd
  rw [Firmware.writeCommand, appZclWriteReqCmd_eq]
  split
  · exact hrun _ _ hd
  · exact hd

/-- A frame leaves the next boot what it needs. -/
theorem Rebootable.writeCommand {input : BootInput} {d : Device} (hd : Rebootable input d)
    (clusterId : UInt16) (attrList : List WriteRec) :
    Rebootable input (writeCommand d APP_ENDPOINT1 clusterId attrList) := by
  rcases hd.inside with ⟨chip, hmem, hinside⟩
  have hsame := sameParts_writeCommand d APP_ENDPOINT1 clusterId attrList
  exact ⟨hsame.build.trans hd.build, hsame.model.trans hd.model,
    ⟨chip, hmem, inside_writeCommand hinside clusterId attrList⟩,
    hd.synced.writeCommand clusterId attrList⟩

/-- So does a relay command. -/
theorem Rebootable.relayCommand {input : BootInput} {d : Device} (hd : Rebootable input d)
    (v : UInt8) : Rebootable input (relayCommand d v) := by
  rcases hd.inside with ⟨chip, hmem, hinside⟩
  have hsame := sameParts_relayCommand d v
  refine ⟨hsame.build.trans hd.build, hsame.model.trans hd.model, ⟨chip, hmem, ?_⟩, ?_⟩
  · rw [Firmware.relayCommand, (setRelayStatus_frame _ _).log]
    exact inside_commitStatus hinside v
  · have hnv := relayCommand_nv d v
    have hsettings := relayCommand_settings d v
    cases hd.synced with
    | stored hstored hcrc =>
        apply Synced.stored
        · rw [hnv, hsettings]
          exact hstored
        · rw [hsettings]
          exact hcrc
    | defaults hnone hstartUp hactions htype hdecoupled =>
        rw [← hnv] at hnone
        rw [← hsettings] at hstartUp hactions htype hdecoupled
        exact Synced.defaults hnone hstartUp hactions htype hdecoupled

/-- A frame of accepted records leaves the attributes as the settings are. -/
theorem Configured.writeFrame {input : BootInput} {d : Device} (hd : Configured input d)
    (frame : ConfigFrame) : Configured input (d.writeFrame frame) := by
  refine ⟨hd.toRebootable.writeCommand frame.clusterId frame.attrList, fun data hdata => ?_⟩
  have htargets : ∀ data ∈ [AttrData.startUpOnOff, .switchActions, .custom_swtichType],
      data ∈ settingTargets ∧ data ≠ .custom_decoupled := by
    decide
  rcases htargets data hdata with ⟨htarget, hne⟩
  rw [writeFrame_read htarget hne, writeFrame_settings_read hne, hd.shown data hdata]

/-! ## The next boot -/

/-- The log never reaches the model record. -/
theorem readBytes_of_inside {chip : Chip} {log : StatusLog} (hlog : Inside chip log) :
    readBytes log.chip.mem DEVICE_MODEL_CFG_ADDR configSwitchModelSize =
      readBytes chip.mem DEVICE_MODEL_CFG_ADDR configSwitchModelSize := by
  rcases hlog.cmds with ⟨cs, hchip, hconfined⟩
  apply readBytes_congr
  intro i hi
  rw [hchip, Chip.run_mem]
  refine runCmds_frame _ fun c hc halters => ?_
  have hin := hconfined c hc _ halters
  simp only [DEVICE_MODEL_CFG_ADDR, END_STATUS_ONOFF_DATA] at hin
  omega

theorem Rebootable.reboot_model {input : BootInput} {d : Device} (hd : Rebootable input d)
    (buffer : RelaySettings) (clock : UInt32) : (d.reboot buffer clock).model = input.model := by
  rcases hd.inside with ⟨chip, hmem, hinside⟩
  have hrecord := readBytes_of_inside hinside
  rw [hmem] at hrecord
  simp only [BootInput.model, Device.reboot, hrecord, hd.build]

/-- The settings that the next boot restores are the ones in use. -/
theorem Synced.restored {d : Device} (hd : Synced d) (buffer : RelaySettings) (clock : UInt32) :
    ∀ data ∈ [AttrData.startUpOnOff, .switchActions, .custom_swtichType, .custom_decoupled],
      ((d.reboot buffer clock).stored.getD (d.reboot buffer clock).defaults).read data =
        d.relay_settings.read data := by
  intro data hdata
  cases hd with
  | stored hnv hcrc =>
      rw [BootInput.stored_of_crc hnv hcrc, Option.getD_some]
  | defaults hnv hstartUp hactions htype hdecoupled =>
      have hnone : (d.reboot buffer clock).stored = none := hnv
      rw [hnone, Option.getD_none]
      simp only [List.mem_cons, List.not_mem_nil, or_false] at hdata
      rcases hdata with rfl | rfl | rfl | rfl
      · exact (toUInt16_inj.mpr hstartUp).symm
      · exact (toUInt16_inj.mpr hactions).symm
      · exact (toUInt16_inj.mpr htype).symm
      · exact (toUInt16_inj.mpr hdecoupled).symm

theorem Rebootable.exists_reboot {input : BootInput} {start d : Device}
    (hinit : userInit input = some start) (hd : Rebootable input d) (buffer : RelaySettings)
    (clock : UInt32) : ∃ d', userInit (d.reboot buffer clock) = some d' := by
  apply exists_userInit
  rw [hd.reboot_model]
  exact (List.getElem?_eq_some_iff.mp (userInit_spec hinit).model).1

/-- The attributes that show the settings. -/
theorem Mirrors.read {d : Device} (hd : Mirrors d) :
    ∀ data ∈ [AttrData.startUpOnOff, .switchActions, .custom_swtichType, .custom_decoupled],
      d.attrs.read data = d.relay_settings.read data := by
  intro data hdata
  simp only [List.mem_cons, List.not_mem_nil, or_false] at hdata
  rcases hdata with rfl | rfl | rfl | rfl
  · exact toUInt16_inj.mpr hd.startUpOnOff
  · exact toUInt16_inj.mpr hd.switchActions
  · exact toUInt16_inj.mpr hd.custom_swtichType
  · exact toUInt16_inj.mpr hd.custom_decoupled

/-- The level attributes are the ones a boot starts with. -/
theorem BootConfig.read_level {input : BootInput} {d : Device} (hconfig : BootConfig input d) :
    ∀ data ∈ [AttrData.defaultMoveRate, .minLevel, .maxLevel, .transitionTime],
      d.attrs.read data = ({} : Attrs).read data := by
  intro data hdata
  simp only [List.mem_cons, List.not_mem_nil, or_false] at hdata
  rcases hdata with rfl | rfl | rfl | rfl
  · simp only [Attrs.read, hconfig.level]
  · simp only [Attrs.read, hconfig.level]
  · simp only [Attrs.read, hconfig.level]
  · simp only [Attrs.read, hconfig.level]

/-- An attribute is kept if its value before is the one it has behind the boot. -/
theorem kept_iff_of_read {outside : UInt8 → UInt8} {d d' : Device} {data : AttrData}
    {v : UInt16} (hread : d'.attrs.read data = v) :
    Kept outside d d' data ↔ d.attrs.read data = v ∧ Behaves outside d' data v := by
  unfold Kept
  rw [hread]
  constructor
  · rintro ⟨hsame, hbehaves⟩
    exact ⟨hsame.symm, hsame ▸ hbehaves⟩
  · rintro ⟨hsame, hbehaves⟩
    exact ⟨hsame.symm, hsame.symm ▸ hbehaves⟩

/-- When the firmware behaves by {lit}`StartUpOnOff` behind the next boot. -/
theorem behaves_startUp_iff {input : BootInput} {d d' : Device} {buffer : RelaySettings}
    {clock : UInt32} (hd : Rebootable input d)
    (hinit : userInit (d.reboot buffer clock) = some d') (outside : UInt8 → UInt8) :
    Behaves outside d' .startUpOnOff d.relay_settings.startUpOnOff.toUInt16 ↔
      Survives d (d.reboot buffer clock) .startUpOnOff := by
  have hbooted := userInit_spec hinit
  have hmodel : (d.reboot buffer clock).model = d.device_switch_model :=
    (hd.reboot_model buffer clock).trans hd.model.symm
  have hrestored : ∀ data ∈ [AttrData.startUpOnOff, .switchActions, .custom_swtichType,
      .custom_decoupled], d'.relay_settings.read data = d.relay_settings.read data := by
    rw [hbooted.settings]
    exact hd.synced.restored buffer clock
  have hstartUp : d'.relay_settings.startUpOnOff = d.relay_settings.startUpOnOff :=
    toUInt16_inj.mp (hrestored .startUpOnOff (by decide))
  have htype : d'.relay_settings.switchType = d.relay_settings.switchType :=
    toUInt16_inj.mp (hrestored .custom_swtichType (by decide))
  rcases statusOnoffRestore_spec (powerOn d.log.chip) with ⟨log, hlog, -⟩
  have hstatus : d'.status = log.status_onoff.status_onoff := hbooted.status_eq hlog
  have hoff : d'.status = ZCL_ONOFF_STATUS_OFF ↔ StoredOff d.log.chip := by
    rw [hstatus]
    constructor
    · intro h
      exact ⟨log, hlog, h⟩
    · rintro ⟨log', hlog', h⟩
      rw [Option.some.inj (hlog.symm.trans hlog')]
      exact h
  have hpoll : ∀ sample poll, PolicyApplied (policyValue d.relay_settings.startUpOnOff d'.status)
      (switchHandler d' sample poll) ↔ Survives d (d.reboot buffer clock) .startUpOnOff := by
    intro sample poll
    rw [← hstartUp, hbooted.policyApplied_poll_iff, Survives, hmodel, hstartUp, htype, ← hoff]
    have hboth : (d'.status = ZCL_ONOFF_STATUS_OFF ∧
        policyValue d.relay_settings.startUpOnOff d'.status = ZCL_ONOFF_STATUS_OFF) ↔
        (d'.status = ZCL_ONOFF_STATUS_OFF ∧
          policyValue d.relay_settings.startUpOnOff ZCL_ONOFF_STATUS_OFF =
            ZCL_ONOFF_STATUS_OFF) := and_congr_right fun h => by rw [h]
    rw [hboth]
  rw [Behaves, UInt8.toUInt8_toUInt16]
  constructor
  · intro h
    exact (hpoll ⟨false, 0⟩ ⟨false, false, 0, 0, 0, 0⟩).mp (h _ _)
  · intro h sample poll
    exact (hpoll sample poll).mpr h

/-- Which attributes a reboot keeps. -/
theorem kept_iff {input : BootInput} {d d' : Device} {buffer : RelaySettings} {clock : UInt32}
    (hd : Configured input d) (hinit : userInit (d.reboot buffer clock) = some d')
    (outside : UInt8 → UInt8) :
    ∀ data ∈ configAttrs, Kept outside d d' data ↔ Survives d (d.reboot buffer clock) data := by
  have hconfig := userInit_config hinit
  have hsettings := (userInit_spec hinit).settings
  have hmodel : d'.device_switch_model = d.device_switch_model := by
    rw [hconfig.model, hd.reboot_model, hd.model]
  have hcustom : d'.attrs.read .custom_model = d.device_switch_model.toUInt16 := by
    rw [← hmodel, ← hconfig.custom_model.trans hconfig.model.symm]
    rfl
  have hrestored : ∀ data ∈ [AttrData.startUpOnOff, .switchActions, .custom_swtichType,
      .custom_decoupled], d'.relay_settings.read data = d.relay_settings.read data := by
    rw [hsettings]
    exact hd.synced.restored buffer clock
  have hmirrors := hconfig.mirrors.read
  have hlevel := hconfig.read_level
  have hshown : ∀ data ∈ [AttrData.startUpOnOff, .switchActions, .custom_swtichType],
      (Kept outside d d' data ↔ Behaves outside d' data (d.relay_settings.read data)) := by
    intro data hdata
    have hmem : data ∈ [AttrData.startUpOnOff, .switchActions, .custom_swtichType,
        .custom_decoupled] := List.mem_append_left [AttrData.custom_decoupled] hdata
    rw [kept_iff_of_read (hmirrors data hmem), hrestored data hmem]
    exact and_iff_right (hd.shown data hdata)
  intro data hdata
  simp only [configAttrs, List.mem_cons, List.not_mem_nil, or_false] at hdata
  rcases hdata with rfl | rfl | rfl | rfl | rfl | rfl | rfl | rfl | rfl
  · rw [hshown .startUpOnOff (by decide)]
    exact behaves_startUp_iff hd.toRebootable hinit outside
  · rw [hshown .switchActions (by decide)]
    exact iff_of_true (hrestored .switchActions (by decide)) trivial
  · rw [hshown .custom_swtichType (by decide)]
    exact iff_of_true (hrestored .custom_swtichType (by decide)) trivial
  · have hsetting := hrestored .custom_decoupled (by decide)
    rw [kept_iff_of_read ((hmirrors .custom_decoupled (by decide)).trans hsetting)]
    constructor
    · intro h
      exact toUInt16_inj.mp h.1
    · intro h
      exact ⟨toUInt16_inj.mpr h, hsetting⟩
  · rw [kept_iff_of_read hcustom]
    constructor
    · intro h
      exact toUInt16_inj.mp h.1
    · intro h
      exact ⟨toUInt16_inj.mpr h, toUInt16_inj.mpr hmodel⟩
  · rw [kept_iff_of_read (hlevel .defaultMoveRate (by decide)), Survives, ← hsettings]
    rfl
  · rw [kept_iff_of_read (hlevel .minLevel (by decide)), Survives, ← hsettings]
    rfl
  · rw [kept_iff_of_read (hlevel .maxLevel (by decide)), Survives, ← hsettings]
    rfl
  · rw [kept_iff_of_read (hlevel .transitionTime (by decide)), Survives]
    exact and_iff_left rfl

/-- Over every run of accepted frames behind a boot: the next boot succeeds, and of each
configuration attribute it keeps the value exactly when the attribute survives. -/
theorem settings_survive_reboot_iff (input : BootInput) (start : Device)
    (hinit : userInit input = some start) (frames : List ConfigFrame) (buffer : RelaySettings)
    (clock : UInt32) (outside : UInt8 → UInt8) :
    ∃ d', userInit ((run Device.writeFrame start frames).reboot buffer clock) = some d' ∧
      ∀ data ∈ configAttrs, Kept outside (run Device.writeFrame start frames) d' data ↔
        Survives (run Device.writeFrame start frames)
          ((run Device.writeFrame start frames).reboot buffer clock) data := by
  have hd : Configured input (run Device.writeFrame start frames) :=
    run_invariant_always (Configured input) (fun _ frame hd => hd.writeFrame frame) frames
      (configured_userInit hinit)
  rcases hd.exists_reboot hinit buffer clock with ⟨d', hinit'⟩
  exact ⟨d', hinit', kept_iff hd hinit' outside⟩

/-! ## Two boots -/

/-- A boot of a new chip without stored settings. -/
def unsetBoot : BootInput where
  DEVICE_MODEL := defaultBuild
  chip := modelChip
  nv := none
  buffer := {}
  clock := 0

theorem exists_unsetBoot : ∃ start, userInit unsetBoot = some start := by
  apply exists_userInit
  have hmodel : unsetBoot.model = DEVICE_SWITCH_1 := by
    apply model_of_record
    show readBytes modelChip.mem _ _ = _
    decide
  rw [hmodel]
  decide

/-- The minimal level is to be 10. -/
def minLevelFrame : ConfigFrame where
  clusterId := ZCL_CLUSTER_GEN_LEVEL_CONTROL
  attrList := [byteRec ZCL_ATTRID_LEVEL_MIN_LEVEL ZCL_DATA_TYPE_UINT8 10]
  accepted := by decide
  inRange := by decide

/-- The switch type behind a reboot is the one that was written. -/
theorem settings_survive_reboot_type :
    ∃ start d', userInit unsetBoot = some start ∧
      userInit ((run Device.writeFrame start [coupledAgainFrame]).reboot {} 0) = some d' ∧
      Kept (fun _ => 0) (run Device.writeFrame start [coupledAgainFrame]) d'
        .custom_swtichType := by
  rcases exists_unsetBoot with ⟨start, hinit⟩
  rcases settings_survive_reboot_iff unsetBoot start hinit [coupledAgainFrame] {} 0
    (fun _ => 0) with ⟨d', hinit', hkept⟩
  exact ⟨start, d', hinit, hinit', (hkept .custom_swtichType (by decide)).mpr trivial⟩

/-- The minimal level behind a reboot is not the one that was written. -/
theorem settings_lost_min_level :
    ∃ start d', userInit unsetBoot = some start ∧
      userInit ((run Device.writeFrame start [minLevelFrame]).reboot {} 0) = some d' ∧
      (run Device.writeFrame start [minLevelFrame]).attrs.level.minLevel = 10 ∧
      d'.attrs.level.minLevel = 1 := by
  rcases exists_unsetBoot with ⟨start, hinit⟩
  have hd := (configured_userInit hinit).writeFrame minLevelFrame
  rcases hd.exists_reboot hinit {} 0 with ⟨d', hinit'⟩
  have htarget : AttrData.minLevel ∈ settingTargets := by
    decide
  have hread := writeFrame_read htarget (by decide) start minLevelFrame
  refine ⟨start, d', hinit, hinit', toUInt16_inj.mp ?_, ?_⟩
  · exact hread
  · rw [(userInit_config hinit').level]

end Firmware
