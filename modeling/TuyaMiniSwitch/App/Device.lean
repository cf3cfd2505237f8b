import TuyaMiniSwitch.App.OnOffLog

/-!
# Application - The device

The global variables of the firmware that the relay, the wall switch, the button
and the ZCL handlers share, and the functions of {lit}`app_onoff.c` and
{lit}`app_relay.c` over them.  The firmware has one relay on endpoint 1, so the
arrays with one element per relay are single values, and the functions that take
an endpoint or an index are the ones for endpoint 1 and index 0.

What the firmware does to the outside is recorded in the order in which it
happens.
-/

namespace Firmware

open NorFlash FlashDriver Utility OnOffLog

/-! ## Constants -/

def ZCL_START_UP_ONOFF_SET_ONOFF_TO_OFF : UInt8 := 0x00

def ZCL_START_UP_ONOFF_SET_ONOFF_TO_ON : UInt8 := 0x01

def ZCL_START_UP_ONOFF_SET_ONOFF_TOGGLE : UInt8 := 0x02

def ZCL_START_UP_ONOFF_SET_ONOFF_TO_PREVIOUS : UInt8 := 0xFF

def ZCL_SWITCH_TYPE_TOGGLE : UInt8 := 0x00

def ZCL_SWITCH_TYPE_MOMENTARY : UInt8 := 0x01

def ZCL_SWITCH_TYPE_MULTIFUNCTION : UInt8 := 0x02

def ZCL_CUSTOM_SWITCH_TYPE_LIGHT_CONTROL : UInt8 := 0x03

def ZCL_CUSTOM_SWITCH_TYPE_MAXNUM : UInt8 := 0x04

def ZCL_SWITCH_ACTION_OFF_ON : UInt8 := 0x01

def CUSTOM_SWITCH_DECOUPLED_OFF : UInt8 := 0x00

def CUSTOM_SWITCH_DECOUPLED_ON : UInt8 := 0x01

def ZCL_CMD_ONOFF_OFF : UInt8 := 0x00

def ZCL_CMD_ONOFF_ON : UInt8 := 0x01

def ZCL_CMD_ONOFF_TOGGLE : UInt8 := 0x02

def ZCL_CMD_ON_WITH_RECALL_GLOBAL_SCENE : UInt8 := 0x41

def APP_ENDPOINT1 : UInt8 := 1

/-- {lit}`AMT_RELAY`. -/
def AMT_RELAY : Nat := 1

/-! ## Device models -/

def DEVICE_SWITCH_NONE : UInt8 := 0

def DEVICE_SWITCH_1 : UInt8 := 1

def DEVICE_SWITCH_2 : UInt8 := 2

def DEVICE_SWITCH_3 : UInt8 := 3

/-- {lit}`DEVICE_SWITCH_MAX`. -/
def DEVICE_SWITCH_MAX : Nat := 4

/-- A model that the firmware can be built for. -/
abbrev BuildModel : Type := {model : UInt8 // model.toNat < DEVICE_SWITCH_MAX}

/-- {lit}`DEVICE_MODEL` where the makefile does not define it. -/
def defaultBuild : BuildModel := ⟨DEVICE_SWITCH_NONE, by decide⟩

/-- The fields of {lit}`switch_device_t` that the modelled functions read. -/
structure SwitchDevice where
  device_en : Bool
  relay_on : Bool
  relay_off : Bool
  deriving Repr, DecidableEq

/-- {lit}`switch_device`, as {lit}`device_init` fills it in. -/
def switchDevices : List SwitchDevice :=
  [ { device_en := false, relay_on := false, relay_off := false },
    { device_en := true, relay_on := true, relay_off := false },
    { device_en := true, relay_on := true, relay_off := false },
    { device_en := true, relay_on := true, relay_off := false } ]

/-- {lit}`RELAY_ON`. -/
def SwitchDevice.relayOn (device : SwitchDevice) : UInt8 := if device.relay_on then 1 else 0

/-- {lit}`RELAY_OFF`. -/
def SwitchDevice.relayOff (device : SwitchDevice) : UInt8 := if device.relay_off then 1 else 0

/-! ## Attributes and settings -/

/-- {lit}`zcl_onOffAttr_t`. -/
structure OnOffAttr where
  onOff : UInt8 := 0x00
  globalSceneControl : UInt8 := 1
  onTime : UInt16 := 0x0000
  offWaitTime : UInt16 := 0x0000
  startUpOnOff : UInt8 := ZCL_START_UP_ONOFF_SET_ONOFF_TO_OFF
  deriving Repr, DecidableEq

/-- {lit}`zcl_onOffCfgAttr_t`. -/
structure OnOffCfgAttr where
  switchType : UInt8 := ZCL_SWITCH_TYPE_MOMENTARY
  switchActions : UInt8 := ZCL_SWITCH_ACTION_OFF_ON
  custom_swtichType : UInt8 := ZCL_SWITCH_TYPE_MOMENTARY
  custom_decoupled : UInt8 := CUSTOM_SWITCH_DECOUPLED_OFF
  custom_model : UInt8 := DEVICE_SWITCH_NONE
  deriving Repr, DecidableEq

/-- {lit}`zcl_msInputAttr_t`; its initial value is {lit}`ACTION_EMPTY`. -/
structure MsInputAttr where
  value : UInt16 := 300
  num : UInt16 := 8
  out_of_service : UInt8 := 0
  status_flag : UInt8 := 0
  deriving Repr, DecidableEq

/-- {lit}`zcl_levelAttr_t`. -/
structure LevelAttr where
  currentLevel : UInt8 := 10
  minLevel : UInt8 := 0x01
  maxLevel : UInt8 := 0xFE
  options : UInt8 := 0
  defaultMoveRate : UInt8 := 100
  transitionTime : UInt16 := 25
  deriving Repr, DecidableEq

/-- The attributes of endpoint 1 that can change. -/
structure Attrs where
  deviceEnable : UInt8 := 1
  identifyTime : UInt16 := 0x0000
  onOff : OnOffAttr := {}
  onOffCfg : OnOffCfgAttr := {}
  msInput : MsInputAttr := {}
  level : LevelAttr := {}
  deriving Repr, DecidableEq

/-- {lit}`relay_settings_t`, a packed structure of ten bytes. -/
structure RelaySettings where
  startUpOnOff : UInt8 := 0
  switchType : UInt8 := 0
  switchActions : UInt8 := 0
  switch_decoupled : UInt8 := 0
  defaultMoveRate : UInt8 := 0
  levelMin : UInt8 := 0
  levelMax : UInt8 := 0
  transitionTime : UInt16 := 0
  crc : UInt8 := 0
  deriving Repr, DecidableEq

/-- The settings as the bytes the checksum is taken of. -/
def RelaySettings.toBytes (s : RelaySettings) : List UInt8 :=
  [s.startUpOnOff, s.switchType, s.switchActions, s.switch_decoupled, s.defaultMoveRate,
    s.levelMin, s.levelMax, s.transitionTime.toUInt8, (s.transitionTime >>> 8).toUInt8, s.crc]

/-! ## The wall switch and the button -/

/-- {lit}`switch_status_t`. -/
inductive SwitchStatus where
  | SWITCH_OPEN
  | SWITCH_CLOSED
  | SWITCH_FLOAT
  deriving Repr, DecidableEq

/-- {lit}`app_switch_t`.  The counters are bytes. -/
structure AppSwitch where
  status : SwitchStatus := .SWITCH_OPEN
  released : Bool := false
  pressed : Bool := false
  hold : Bool := false
  level_dir : Bool := false
  color_dir : Bool := false
  counter : Nat := 0
  debounce : Nat := 0
  pressed_time : UInt32 := 0
  hold_time : UInt32 := 0
  deriving Repr, DecidableEq

/-- The states of {lit}`button_t`. -/
inductive ButtonState where
  | APP_STATE_NORMAL
  | APP_STATE_RELEASE
  | APP_FACTORY_NEW_SET_CHECK
  | APP_FACTORY_NEW_DOING
  deriving Repr, DecidableEq

/-- {lit}`button_t`.  The press counter is a byte. -/
structure Button where
  ctn : Nat := 0
  pressed_time : UInt32 := 0
  released_time : UInt32 := 0
  state : ButtonState := .APP_STATE_NORMAL
  valid_keyCode : UInt8 := 0xff
  keyPressed : Bool := false
  deriving Repr, DecidableEq

/-! ## The state of the firmware -/

/-- What the firmware does to the outside. -/
inductive Output where
  /-- {lit}`drv_gpio_write` on the relay pin. -/
  | relay (status : UInt8)
  | remoteCmdOnOff (command : UInt8)
  | appMoveToLevel (up_down : UInt8)
  | appLevelStop
  | zbRejoinReq
  /-- {lit}`app_forcedReport` of the present value of the multistate input. -/
  | appForcedReport (value : UInt16)
  /-- {lit}`switch_factory_reset_start` is scheduled. -/
  | switchFactoryResetStart
  | zbFactoryReset
  deriving Repr, DecidableEq

/-- The variables, the flash and what the firmware has done so far. -/
structure Device where
  log : StatusLog
  nv : Option RelaySettings
  attrs : Attrs := {}
  relay_settings : RelaySettings := {}
  /-- The model the firmware is built for, which never changes. -/
  DEVICE_MODEL : BuildModel := defaultBuild
  device_switch_model : UInt8 := DEVICE_MODEL.val
  device : SwitchDevice := { device_en := false, relay_on := false, relay_off := false }
  dev_relay_amt : Nat := 0
  app_switch : AppSwitch := {}
  button : Button := {}
  outputs : List Output := []

/-- {lit}`status_onoff.status_onoff[0]`. -/
def Device.status (d : Device) : UInt8 := d.log.status_onoff.status_onoff

/-- {lit}`status_onoff.status_onoff[0] = v`. -/
def Device.setStatus (d : Device) (v : UInt8) : Device :=
  { d with log := { d.log with status_onoff := { d.log.status_onoff with status_onoff := v } } }

/-- The OnOff attribute is assigned. -/
def Device.setOnOffAttr (d : Device) (v : UInt8) : Device :=
  { d with attrs := { d.attrs with onOff := { d.attrs.onOff with onOff := v } } }

/-- {lit}`status_onoff_save`. -/
def Device.statusOnoffSave (d : Device) : Device :=
  { d with log := OnOffLog.statusOnoffSave d.log }

def Device.output (d : Device) (o : Output) : Device := { d with outputs := d.outputs ++ [o] }

/-! ## The relay -/

/-- {lit}`set_relay_status`. -/
def setRelayStatus (d : Device) (status : UInt8) : Device :=
  if d.device.device_en then d.output (.relay status) else d

/-- {lit}`cmdOnOff_toggle`. -/
def cmdOnOffToggle (d : Device) : Device :=
  let d := d.setStatus (if d.status = 0 then 1 else 0)
  let d := d.setOnOffAttr d.status
  let d := if d.attrs.onOff.startUpOnOff > ZCL_START_UP_ONOFF_SET_ONOFF_TO_ON then
    d.statusOnoffSave else d
  let status := d.device.relayOff
  let status := if d.attrs.onOff.onOff ≠ 0 then d.device.relayOn else status
  setRelayStatus d status

/-- {lit}`cmdOnOff_on`. -/
def cmdOnOffOn (d : Device) : Device :=
  let d :=
    if d.attrs.onOff.onOff ≠ ZCL_ONOFF_STATUS_ON ∨ d.status ≠ ZCL_ONOFF_STATUS_ON then
      let d := d.setStatus ZCL_ONOFF_STATUS_ON
      let d := d.setOnOffAttr ZCL_ONOFF_STATUS_ON
      if d.attrs.onOff.startUpOnOff > ZCL_START_UP_ONOFF_SET_ONOFF_TO_ON then
        d.statusOnoffSave else d
    else d
  setRelayStatus d d.device.relayOn

/-- {lit}`cmdOnOff_off`. -/
def cmdOnOffOff (d : Device) : Device :=
  let d :=
    if d.attrs.onOff.onOff ≠ ZCL_ONOFF_STATUS_OFF ∨ d.status ≠ ZCL_ONOFF_STATUS_OFF then
      let d := d.setStatus ZCL_ONOFF_STATUS_OFF
      let d := d.setOnOffAttr ZCL_ONOFF_STATUS_OFF
      if d.attrs.onOff.startUpOnOff > ZCL_START_UP_ONOFF_SET_ONOFF_TO_ON then
        d.statusOnoffSave else d
    else d
  setRelayStatus d d.device.relayOff

/-! ## Settings -/

/-- {lit}`relay_settings_save`. -/
def relaySettingsSave (d : Device) : Device :=
  let relay_settings := { d.relay_settings with crc := checksum d.relay_settings.toBytes }
  { d with relay_settings := relay_settings, nv := some relay_settings }

/-- {lit}`relay_settings_restore`.  When {lit}`nv_flashReadNew` fails, the local
buffer keeps what it held before. -/
def relaySettingsRestore (d : Device) (buffer : RelaySettings) : Option Device := do
  let log ← statusOnoffRestore d.log
  let d := { d with log := log }
  let relay_settings_tmp := d.nv.getD buffer
  let relay_settings_tmp :=
    if d.nv.isSome ∧ relay_settings_tmp.crc = checksum relay_settings_tmp.toBytes then
      relay_settings_tmp
    else
      { relay_settings_tmp with
        startUpOnOff := ZCL_START_UP_ONOFF_SET_ONOFF_TO_OFF
        switchActions := ZCL_SWITCH_ACTION_OFF_ON
        switchType := ZCL_SWITCH_TYPE_MOMENTARY
        switch_decoupled := CUSTOM_SWITCH_DECOUPLED_OFF }
  let d := { d with relay_settings := relay_settings_tmp }
  return { d with
    attrs := { d.attrs with
      onOff := { d.attrs.onOff with
        onOff := d.status
        startUpOnOff := d.relay_settings.startUpOnOff }
      onOffCfg := { d.attrs.onOffCfg with
        custom_swtichType := d.relay_settings.switchType
        switchType := d.relay_settings.switchType
        switchActions := d.relay_settings.switchActions
        custom_decoupled := d.relay_settings.switch_decoupled
        custom_model := d.device_switch_model } } }

/-! ## The power-on policy -/

/-- {lit}`check_first_start`, and the policy of {lit}`switch_first_start`. -/
def checkFirstStart (d : Device) : Device :=
  if d.relay_settings.startUpOnOff = ZCL_START_UP_ONOFF_SET_ONOFF_TO_PREVIOUS then
    if d.status ≠ 0 then cmdOnOffOn d else cmdOnOffOff d
  else if d.relay_settings.startUpOnOff = ZCL_START_UP_ONOFF_SET_ONOFF_TOGGLE then
    cmdOnOffToggle d
  else if d.relay_settings.startUpOnOff = ZCL_START_UP_ONOFF_SET_ONOFF_TO_ON then
    cmdOnOffOn d
  else if d.relay_settings.startUpOnOff = ZCL_START_UP_ONOFF_SET_ONOFF_TO_OFF then
    cmdOnOffOff d
  else
    cmdOnOffOff d

/-- {lit}`dev_relay_init`. -/
def devRelayInit (d : Device) : Device :=
  let d := { d with dev_relay_amt := AMT_RELAY }
  let d := cmdOnOffOff d
  if d.relay_settings.switchType = ZCL_SWITCH_TYPE_MULTIFUNCTION then checkFirstStart d else d

end Firmware
