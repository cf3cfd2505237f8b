import TuyaMiniSwitch.App.Boot
import TuyaMiniSwitch.App.OnOffRuns
import TuyaMiniSwitch.App.RelayCommand

/-!
# Application - The state behind a boot

What {lit}`user_init` leaves behind.  It initialises the relay and the wall switch
before it restores the settings, so both see settings that are still zero: the
relay is switched off and the policy is left to the first poll, whatever the
stored switch type says.

Main results:

- Theorem {lit}`userInit_spec`: the state behind {lit}`user_init`.
-/

namespace Firmware

open NorFlash FlashDriver Utility OnOffLog

/-! ## What the flash and the settings select -/

/-- The model that the model record selects. -/
def BootInput.model (input : BootInput) : UInt8 :=
  let bytes := readBytes input.chip.mem DEVICE_MODEL_CFG_ADDR configSwitchModelSize
  if (ConfigSwitchModel.ofBytes bytes).id = DEVICE_MODEL_CFG_ID ∧
      (ConfigSwitchModel.ofBytes bytes).crc = checksum bytes then
    (ConfigSwitchModel.ofBytes bytes).device_model
  else
    input.DEVICE_MODEL.val

/-- The stored settings, if the record is whole. -/
def BootInput.stored (input : BootInput) : Option RelaySettings :=
  input.nv.filter fun relay_settings => relay_settings.crc == checksum relay_settings.toBytes

/-- The settings that stand for a record that is missing or damaged. -/
def BootInput.defaults (input : BootInput) : RelaySettings :=
  { input.nv.getD input.buffer with
    startUpOnOff := ZCL_START_UP_ONOFF_SET_ONOFF_TO_OFF
    switchActions := ZCL_SWITCH_ACTION_OFF_ON
    switchType := ZCL_SWITCH_TYPE_MOMENTARY
    switch_decoupled := CUSTOM_SWITCH_DECOUPLED_OFF }

theorem BootInput.stored_of_crc {input : BootInput} {relay_settings : RelaySettings}
    (hnv : input.nv = some relay_settings)
    (hcrc : relay_settings.crc = checksum relay_settings.toBytes) :
    input.stored = some relay_settings := by
  rw [BootInput.stored, hnv, Option.filter_some, if_pos (beq_iff_eq.mpr hcrc)]

/-! ## Before the settings are restored -/

/-- The parts of the firmware that the model record does not reach. -/
structure Cold (input : BootInput) (d : Device) : Prop where
  mem : d.log.chip.mem = input.chip.mem
  nv : d.nv = input.nv
  attrs : d.attrs = {}
  settings : d.relay_settings = {}
  status : d.status = ZCL_ONOFF_STATUS_OFF

/-- The relay is off and the wall switch waits for its first poll. -/
structure WaitsForPoll (d : Device) : Prop where
  enabled : d.device.device_en = true
  amt : d.dev_relay_amt = AMT_RELAY
  status : d.app_switch.status = .SWITCH_FLOAT
  debounce : d.app_switch.debounce = DEBOUNCE_SWITCH / 2
  pressed : d.app_switch.pressed = false
  released : d.app_switch.released = false
  relays : relays d.outputs = [d.device.relayOff]

/-- A model without a relay: nothing is polled and nothing is driven. -/
structure Dormant (d : Device) : Prop where
  disabled : d.device.device_en = false
  amt : d.dev_relay_amt = 0
  outputs : d.outputs = []

theorem commitStatus_same {d : Device} {v : UInt8} (hattr : d.attrs.onOff.onOff = v)
    (hstatus : d.status = v) : commitStatus d v = d := by
  unfold commitStatus
  rw [if_neg]
  rintro (hne | hne)
  · exact hne hattr
  · exact hne hstatus

/-- Switching off a relay that is off only drives the pin. -/
theorem cmdOnOffOff_off {d : Device} (hattr : d.attrs.onOff.onOff = ZCL_ONOFF_STATUS_OFF)
    (hstatus : d.status = ZCL_ONOFF_STATUS_OFF) :
    cmdOnOffOff d = setRelayStatus d d.device.relayOff := by
  rw [cmdOnOffOff_eq, relayCommand, commitStatus_same hattr hstatus]
  rfl

/-- With settings that are zero the relay is switched off and nothing else happens. -/
theorem devRelayInit_cold {input : BootInput} {d : Device} (hd : Cold input d) :
    devRelayInit d = setRelayStatus { d with dev_relay_amt := AMT_RELAY } d.device.relayOff := by
  have hattr : ({ d with dev_relay_amt := AMT_RELAY } : Device).attrs.onOff.onOff =
      ZCL_ONOFF_STATUS_OFF := by
    show d.attrs.onOff.onOff = _
    rw [hd.attrs]
    rfl
  have hoff := cmdOnOffOff_off hattr hd.status
  have htype : d.relay_settings.switchType ≠ ZCL_SWITCH_TYPE_MULTIFUNCTION := by
    rw [hd.settings]
    decide
  unfold devRelayInit
  dsimp only
  rw [hoff, (setRelayStatus_frame _ _).settings, if_neg htype]

theorem Cold.setRelayStatus {input : BootInput} {d : Device} (hd : Cold input d)
    (level : UInt8) : Cold input (setRelayStatus d level) := by
  unfold Firmware.setRelayStatus
  split
  · exact ⟨hd.mem, hd.nv, hd.attrs, hd.settings, hd.status⟩
  · exact hd

theorem Cold.devRelayInit {input : BootInput} {d : Device} (hd : Cold input d) :
    Cold input (devRelayInit d) := by
  rw [devRelayInit_cold hd]
  apply Cold.setRelayStatus
  exact ⟨hd.mem, hd.nv, hd.attrs, hd.settings, hd.status⟩

theorem Cold.switchInit {input : BootInput} {d : Device} (hd : Cold input d) (clock : UInt32) :
    Cold input (switchInit d clock) := by
  unfold Firmware.switchInit
  split
  · exact ⟨hd.mem, hd.nv, hd.attrs, hd.settings, hd.status⟩
  · exact hd

theorem switchInit_device (d : Device) (clock : UInt32) :
    (switchInit d clock).device = d.device := by
  unfold switchInit
  split <;> rfl

/-- The initialisation of an enabled device. -/
theorem waitsForPoll_init {input : BootInput} {d : Device} (hd : Cold input d) (clock : UInt32)
    (hen : d.device.device_en = true) (houtputs : d.outputs = []) :
    WaitsForPoll (switchInit (devRelayInit d) clock) := by
  have hdrive : devRelayInit d =
      { d with dev_relay_amt := AMT_RELAY }.output (.relay d.device.relayOff) := by
    rw [devRelayInit_cold hd]
    exact setRelayStatus_enabled _ hen
  have hsettings : (devRelayInit d).relay_settings = {} := hd.devRelayInit.settings
  have hamt : 0 < (devRelayInit d).dev_relay_amt := by
    rw [hdrive]
    exact Nat.one_pos
  unfold switchInit
  rw [if_pos hamt]
  refine ⟨?_, ?_, ?_, rfl, rfl, rfl, ?_⟩
  · rw [hdrive]
    exact hen
  · rw [hdrive]
    rfl
  · rw [hsettings]
    rfl
  · rw [hdrive]
    show relays (d.outputs ++ _) = _
    rw [houtputs]
    rfl

/-- Every model but {lit}`DEVICE_SWITCH_NONE` is enabled. -/
theorem device_en_of_model {model : UInt8} {device : SwitchDevice}
    (hdevice : switchDevices[model.toNat]? = some device) (hmodel : model ≠ DEVICE_SWITCH_NONE) :
    device.device_en = true := by
  have hpos : model.toNat ≠ 0 := fun h => hmodel (UInt8.toNat_inj.mp h)
  have htable : ∀ i < 4, i ≠ 0 → ∀ device, switchDevices[i]? = some device →
      device.device_en = true := by
    decide
  exact htable _ (List.getElem?_eq_some_iff.mp hdevice).1 hpos device hdevice

theorem deviceModelInit_cold {input : BootInput} {d d' : Device} {clock : UInt32}
    (hd : Cold input d) (hamt : d.dev_relay_amt = 0) (houtputs : d.outputs = [])
    (hinit : deviceModelInit d clock = some d') :
    Cold input d' ∧ switchDevices[d.device_switch_model.toNat]? = some d'.device ∧
      (WaitsForPoll d' ∨ Dormant d') := by
  rcases Option.bind_eq_some_iff.mp hinit with ⟨device, hdevice, hrest⟩
  have hd1 : Cold input { d with device := device } :=
    ⟨hd.mem, hd.nv, hd.attrs, hd.settings, hd.status⟩
  dsimp only at hrest
  split at hrest
  · rename_i hmodel
    cases hrest
    have hen : device.device_en = true := device_en_of_model hdevice hmodel
    have hwaits := waitsForPoll_init hd1 clock hen houtputs
    refine ⟨hd1.devRelayInit.switchInit clock, ?_, Or.inl hwaits⟩
    rw [switchInit_device, devRelayInit_cold hd1, (setRelayStatus_frame _ _).device]
    exact hdevice
  · rename_i hmodel
    rw [not_not] at hmodel
    have hnone := hdevice
    rw [hmodel] at hnone
    cases hnone
    cases hrest
    have hstill : switchInit { d with device := ⟨false, false, false⟩ } clock =
        { d with device := ⟨false, false, false⟩ } :=
      if_neg (Nat.not_lt.mpr (Nat.le_of_eq hamt))
    rw [hstill]
    exact ⟨⟨hd.mem, hd.nv, hd.attrs, hd.settings, hd.status⟩, hdevice,
      Or.inr ⟨rfl, hamt, houtputs⟩⟩

/-- The start of the firmware with the model that the record selects. -/
def BootInput.withModel (input : BootInput) : Device :=
  { input.start with
    log := { input.start.log with
      chip := (flashReadPage input.chip DEVICE_MODEL_CFG_ADDR configSwitchModelSize).2 }
    device_switch_model := input.model }

theorem deviceModelRestore_eq (input : BootInput) :
    deviceModelRestore input.start input.clock = deviceModelInit input.withModel input.clock := by
  unfold deviceModelRestore BootInput.withModel BootInput.model
  dsimp only
  split
  · rename_i hcfg
    rw [if_pos (by exact hcfg)]
    rfl
  · rename_i hcfg
    rw [if_neg (by exact hcfg)]
    rfl

theorem deviceModelRestore_cold {input : BootInput} {d : Device}
    (hrestore : deviceModelRestore input.start input.clock = some d) :
    Cold input d ∧ switchDevices[input.model.toNat]? = some d.device ∧
      (WaitsForPoll d ∨ Dormant d) := by
  have hcold : Cold input input.withModel := ⟨rfl, rfl, rfl, rfl, rfl⟩
  rw [deviceModelRestore_eq] at hrestore
  exact deviceModelInit_cold hcold rfl rfl hrestore

/-! ## Behind the boot -/

/-- The value {lit}`zcl_onOff_startUpOnOff` gives the OnOff attribute. -/
def startUpValue (startUpOnOff stored : UInt8) : UInt8 :=
  if startUpOnOff = ZCL_START_UP_ONOFF_SET_ONOFF_TO_OFF then
    ZCL_ONOFF_STATUS_OFF
  else if startUpOnOff = ZCL_START_UP_ONOFF_SET_ONOFF_TO_ON then
    ZCL_ONOFF_STATUS_ON
  else if startUpOnOff = ZCL_START_UP_ONOFF_SET_ONOFF_TOGGLE then
    if stored = ZCL_ONOFF_STATUS_ON then ZCL_ONOFF_STATUS_OFF else ZCL_ONOFF_STATUS_ON
  else if startUpOnOff = ZCL_START_UP_ONOFF_SET_ONOFF_TO_PREVIOUS then
    stored
  else
    0

/-- The state behind {lit}`user_init`. -/
structure Booted (input : BootInput) (d : Device) : Prop where
  model : switchDevices[input.model.toNat]? = some d.device
  restored : ∃ log, log.chip.mem = input.chip.mem ∧ Restored log d.log
  settings : d.relay_settings = input.stored.getD input.defaults
  startUp : d.attrs.onOff.startUpOnOff = d.relay_settings.startUpOnOff
  onOff : d.attrs.onOff.onOff = startUpValue d.relay_settings.startUpOnOff d.status
  relay : WaitsForPoll d ∨ Dormant d

theorem zclOnOffStartUpOnOff_eq (d : Device) :
    zclOnOffStartUpOnOff d =
      d.setOnOffAttr (startUpValue d.attrs.onOff.startUpOnOff d.attrs.onOff.onOff) := by
  show (if startUpValue d.attrs.onOff.startUpOnOff d.attrs.onOff.onOff ≠ d.attrs.onOff.onOff then
    d.setOnOffAttr (startUpValue d.attrs.onOff.startUpOnOff d.attrs.onOff.onOff) else d) = _
  split
  · rfl
  · rename_i hsame
    rw [not_not] at hsame
    rw [hsame]
    rfl

theorem relaySettingsRestore_spec {input : BootInput} {d d' : Device} (hd : Cold input d)
    (hrestore : relaySettingsRestore d input.buffer = some d') :
    Restored d.log d'.log ∧ d'.relay_settings = input.stored.getD input.defaults ∧
      d'.attrs.onOff.startUpOnOff = d'.relay_settings.startUpOnOff ∧
      d'.attrs.onOff.onOff = d'.status ∧ d'.device = d.device ∧
      (WaitsForPoll d ∨ Dormant d → WaitsForPoll d' ∨ Dormant d') := by
  rcases Option.bind_eq_some_iff.mp hrestore with ⟨log, hlog, hrest⟩
  rcases statusOnoffRestore_spec d.log with ⟨log', hlog', hrestored⟩
  have heq : log' = log := Option.some.inj (hlog'.symm.trans hlog)
  cases hrest
  refine ⟨by rw [← heq]; exact hrestored, ?_, rfl, rfl, rfl, fun h => ?_⟩
  · unfold BootInput.stored BootInput.defaults
    rw [← hd.nv]
    cases hnv : d.nv with
    | none => rfl
    | some relay_settings =>
        rw [Option.filter_some]
        dsimp only [Option.getD_some]
        by_cases hcrc : relay_settings.crc = checksum relay_settings.toBytes
        · rw [if_pos ⟨rfl, hcrc⟩, if_pos (beq_iff_eq.mpr hcrc)]
          rfl
        · rw [if_neg (fun h => hcrc h.2), if_neg (fun h => hcrc (beq_iff_eq.mp h))]
          rfl
  · rcases h with h | h
    · exact Or.inl ⟨h.enabled, h.amt, h.status, h.debounce, h.pressed, h.released, h.relays⟩
    · exact Or.inr ⟨h.disabled, h.amt, h.outputs⟩

/-- The state behind {lit}`user_init`. -/
theorem userInit_spec {input : BootInput} {d : Device} (hinit : userInit input = some d) :
    Booted input d := by
  rcases Option.bind_eq_some_iff.mp hinit with ⟨d1, hmodel, hrest⟩
  rcases Option.bind_eq_some_iff.mp hrest with ⟨d2, hrestore, hstart⟩
  rcases deviceModelRestore_cold hmodel with ⟨hcold, hmem, hwaits⟩
  rcases relaySettingsRestore_spec hcold hrestore with
    ⟨hrestored, hsettings, hstartUp, honOff, hdevice, hkeep⟩
  cases hstart
  rw [zclOnOffStartUpOnOff_eq]
  constructor
  · show _ = some d2.device
    rw [hdevice]
    exact hmem
  · exact ⟨d1.log, hcold.mem, hrestored⟩
  · exact hsettings
  · exact hstartUp
  · show startUpValue _ _ = _
    rw [honOff, hstartUp]
    rfl
  · rcases hkeep hwaits with h | h
    · exact Or.inl ⟨h.enabled, h.amt, h.status, h.debounce, h.pressed, h.released, h.relays⟩
    · exact Or.inr ⟨h.disabled, h.amt, h.outputs⟩

theorem Booted.device_mem {input : BootInput} {d : Device} (hd : Booted input d) :
    d.device ∈ switchDevices := List.mem_of_getElem? hd.model

/-- The relay of every model but {lit}`DEVICE_SWITCH_NONE` is enabled. -/
theorem Booted.enabled_iff {input : BootInput} {d : Device} (hd : Booted input d) :
    d.device.device_en = true ↔ input.model ≠ DEVICE_SWITCH_NONE := by
  constructor
  · intro hen hnone
    have hmodel := hd.model
    rw [hnone] at hmodel
    have hdisabled : switchDevices[DEVICE_SWITCH_NONE.toNat]? = some ⟨false, false, false⟩ := rfl
    rw [hdisabled] at hmodel
    rw [← Option.some.inj hmodel] at hen
    cases hen
  · exact device_en_of_model hd.model

/-- The firmware boots with every model of the table. -/
theorem exists_userInit {input : BootInput} (hmodel : input.model.toNat < switchDevices.length) :
    ∃ d, userInit input = some d := by
  have hdevice : switchDevices[input.model.toNat]? = some (switchDevices[input.model.toNat]) :=
    List.getElem?_eq_getElem hmodel
  have hrestore : ∃ d, deviceModelRestore input.start input.clock = some d := by
    rw [deviceModelRestore_eq]
    exact ⟨_, Option.bind_eq_some_iff.mpr ⟨_, hdevice, rfl⟩⟩
  rcases hrestore with ⟨d, hrestore⟩
  rcases statusOnoffRestore_spec d.log with ⟨log, hlog, -⟩
  have hsettings : ∃ d', relaySettingsRestore d input.buffer = some d' :=
    ⟨_, Option.bind_eq_some_iff.mpr ⟨log, hlog, rfl⟩⟩
  rcases hsettings with ⟨d', hsettings⟩
  have hrest : (relaySettingsRestore d input.buffer).bind
      (fun d => some (zclOnOffStartUpOnOff d)) = some (zclOnOffStartUpOnOff d') :=
    Option.bind_eq_some_iff.mpr ⟨d', hsettings, rfl⟩
  exact ⟨_, Option.bind_eq_some_iff.mpr ⟨d, hrestore, hrest⟩⟩

/-! ## A chip to boot from -/

/-- A new chip with the model record of {lit}`DEVICE_SWITCH_1`. -/
def modelChip : Chip where
  mem := programAt Chip.erased.mem DEVICE_MODEL_CFG_ADDR [0x65, 0x14, 0x01, 0x7A]
  trace := []

/-- A boot of a chip with stored settings. -/
def modelBoot (chip : Chip) (relay_settings : RelaySettings) : BootInput where
  DEVICE_MODEL := defaultBuild
  chip := chip
  nv := some relay_settings
  buffer := {}
  clock := 0

theorem model_of_record {input : BootInput}
    (hrecord : readBytes input.chip.mem DEVICE_MODEL_CFG_ADDR configSwitchModelSize =
      [0x65, 0x14, 0x01, 0x7A]) :
    input.model = DEVICE_SWITCH_1 := by
  unfold BootInput.model
  rw [hrecord]
  exact if_pos (by decide)

theorem model_modelChip (relay_settings : RelaySettings) :
    (modelBoot modelChip relay_settings).model = DEVICE_SWITCH_1 := by
  apply model_of_record
  show readBytes modelChip.mem _ _ = _
  decide

theorem exists_modelBoot {chip : Chip} {relay_settings : RelaySettings}
    (hmodel : (modelBoot chip relay_settings).model = DEVICE_SWITCH_1) :
    ∃ d log, userInit (modelBoot chip relay_settings) = some d ∧
      statusOnoffRestore (powerOn (modelBoot chip relay_settings).chip) = some log := by
  have htable : (modelBoot chip relay_settings).model.toNat < switchDevices.length := by
    rw [hmodel]
    decide
  rcases exists_userInit htable with ⟨d, hd⟩
  rcases statusOnoffRestore_spec (powerOn (modelBoot chip relay_settings).chip) with ⟨log, hlog, -⟩
  exact ⟨d, log, hd, hlog⟩

end Firmware
