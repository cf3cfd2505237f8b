import TuyaMiniSwitch.App.Switch

/-!
# Application - Booting

{lit}`user_init` as far as the relay and its settings are concerned: the model
record selects the device, {lit}`device_init` initialises the relay and the
switch, and {lit}`user_app_init` restores the settings and registers the On/Off
cluster, which applies the power-on policy to the OnOff attribute.
-/

namespace Firmware

open NorFlash FlashDriver Utility OnOffLog

def DEVICE_MODEL_CFG_ADDR : Nat := 0x75000

def DEVICE_MODEL_CFG_ID : UInt16 := 0x1465

/-- {lit}`config_switch_model_t`. -/
structure ConfigSwitchModel where
  id : UInt16
  device_model : UInt8
  crc : UInt8
  deriving Repr, DecidableEq

def configSwitchModelSize : Nat := 4

/-- The record that a buffer of bytes holds. -/
def ConfigSwitchModel.ofBytes (bs : List UInt8) : ConfigSwitchModel where
  id := (bs.getD 0 0).toUInt16 ||| ((bs.getD 1 0).toUInt16 <<< 8)
  device_model := bs.getD 2 0
  crc := bs.getD 3 0

/-- {lit}`device_model_init`.  There is no device for a model number outside the
table. -/
def deviceModelInit (d : Device) (clock : UInt32) : Option Device := do
  let device ← switchDevices[d.device_switch_model.toNat]?
  let d := { d with device := device }
  let d := if d.device_switch_model ≠ DEVICE_SWITCH_NONE then devRelayInit d else d
  return switchInit d clock

/-- {lit}`device_model_restore`. -/
def deviceModelRestore (d : Device) (clock : UInt32) : Option Device :=
  let (bytes, chip) := flashReadPage d.log.chip DEVICE_MODEL_CFG_ADDR configSwitchModelSize
  let d := { d with log := { d.log with chip := chip } }
  let model_cfg := ConfigSwitchModel.ofBytes bytes
  let d :=
    if model_cfg.id = DEVICE_MODEL_CFG_ID ∧ model_cfg.crc = checksum bytes then
      { d with device_switch_model := model_cfg.device_model }
    else
      { d with device_switch_model := d.DEVICE_MODEL.val }
  deviceModelInit d clock

/-- {lit}`zcl_onOff_startUpOnOff`, which {lit}`zcl_onOff_register` calls. -/
def zclOnOffStartUpOnOff (d : Device) : Device :=
  let startUpOnOff := d.attrs.onOff.startUpOnOff
  let preOnOff := d.attrs.onOff.onOff
  let dstOnOff :=
    if startUpOnOff = ZCL_START_UP_ONOFF_SET_ONOFF_TO_OFF then
      ZCL_ONOFF_STATUS_OFF
    else if startUpOnOff = ZCL_START_UP_ONOFF_SET_ONOFF_TO_ON then
      ZCL_ONOFF_STATUS_ON
    else if startUpOnOff = ZCL_START_UP_ONOFF_SET_ONOFF_TOGGLE then
      if preOnOff = ZCL_ONOFF_STATUS_ON then ZCL_ONOFF_STATUS_OFF else ZCL_ONOFF_STATUS_ON
    else if startUpOnOff = ZCL_START_UP_ONOFF_SET_ONOFF_TO_PREVIOUS then
      preOnOff
    else
      0
  if dstOnOff ≠ preOnOff then d.setOnOffAttr dstOnOff else d

/-- What a boot starts from: the model the firmware is built for, the flash, the stored
settings, what the stack holds where {lit}`relay_settings_restore` puts its buffer, and
the clock. -/
structure BootInput where
  DEVICE_MODEL : BuildModel
  chip : Chip
  nv : Option RelaySettings
  buffer : RelaySettings
  clock : UInt32

/-- The firmware when it starts. -/
def BootInput.start (input : BootInput) : Device where
  log := powerOn input.chip
  nv := input.nv
  DEVICE_MODEL := input.DEVICE_MODEL

/-- {lit}`user_init`. -/
def userInit (input : BootInput) : Option Device := do
  let d ← deviceModelRestore input.start input.clock
  let d ← relaySettingsRestore d input.buffer
  return zclOnOffStartUpOnOff d

end Firmware
