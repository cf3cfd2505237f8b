import TuyaMiniSwitch.App.Device

/-!
# Application - The wall switch

The three poll functions of {lit}`app_switch.c`.  What a poll does to
{lit}`app_switch` depends on nothing but the contact, the clock and the settings,
and what it does to the rest of the firmware is a list of calls, so a poll is a
machine step that returns the new {lit}`app_switch` and the calls in the order in
which they are made.
-/

namespace Firmware

open Utility OnOffLog

/-- {lit}`DEBOUNCE_SWITCH`. -/
def DEBOUNCE_SWITCH : Nat := 128

/-- {lit}`FR_COUNTER_MAX`. -/
def FR_COUNTER_MAX : Nat := 10

def TIMEOUT_TICK_500MS : UInt32 := 500000

def THRESHOLD_MODEL_2 : Nat := 500

def THRESHOLD_MODEL_3 : Nat := 600

def ACTION_HOLD : UInt16 := 0

def ACTION_SINGLE : Nat := 1

def ACTION_DOUBLE : Nat := 2

def ACTION_TRIPLE : Nat := 3

def ACTION_CLEAR : Nat := 250

def ACTION_RELEASE : UInt16 := 255

def ACTION_EMPTY : UInt16 := 300

def LEVEL_MOVE_UP : UInt8 := 0

def LEVEL_MOVE_DOWN : UInt8 := 1

/-- The functions a poll calls. -/
inductive SwitchCall where
  /-- The policy of {lit}`switch_first_start`. -/
  | firstStart
  | cmdOnOffOn
  | cmdOnOffOff
  | cmdOnOffToggle
  | remoteCmdOnOff (command : UInt8)
  | zbRejoinReq
  | switchFactoryResetStart
  /-- The present value of the multistate input is assigned and reported. -/
  | msInputReport (value : UInt16)
  | appMoveToLevel (up_down : UInt8)
  | appLevelStop
  deriving Repr, DecidableEq

/-- What a poll reads from outside, besides the contact: the state of the network
and the clock at the places where {lit}`clock_time` is called. -/
structure Poll where
  joined : Bool
  factoryNew : Bool
  /-- In the test of {lit}`hold_time`. -/
  holdClock : UInt32
  /-- In the test of {lit}`pressed_time` at a press. -/
  pressClock : UInt32
  /-- Where {lit}`pressed_time` is assigned. -/
  stampClock : UInt32
  /-- In the test of {lit}`pressed_time` at the end. -/
  endClock : UInt32
  deriving Repr, DecidableEq

/-! ## Parts of the polls -/

/-- The request to rejoin that is made while the contact settles. -/
def rejoinCalls (p_switch : AppSwitch) (debounce : Nat) (poll : Poll) : List SwitchCall :=
  if p_switch.debounce = debounce ∧ ¬ poll.joined ∧ ¬ poll.factoryNew then [.zbRejoinReq] else []

/-- The debounce counter of a closed contact, a byte. -/
def AppSwitch.debounceUp (p_switch : AppSwitch) : AppSwitch :=
  { p_switch with debounce := (p_switch.debounce + 1) % 256 }

/-- The debounce counter of an open contact, a byte. -/
def AppSwitch.debounceDown (p_switch : AppSwitch) : AppSwitch :=
  { p_switch with debounce := (p_switch.debounce + 255) % 256 }

/-- The press counter, a byte. -/
def AppSwitch.countUp (p_switch : AppSwitch) : AppSwitch :=
  { p_switch with counter := (p_switch.counter + 1) % 256 }

/-- {lit}`hold_time` and {lit}`pressed_time` are assigned. -/
def AppSwitch.stamp (p_switch : AppSwitch) (clock : UInt32) : AppSwitch :=
  { p_switch with hold_time := clock, pressed_time := clock }

/-- The end of a burst of presses. -/
def AppSwitch.clear (p_switch : AppSwitch) : AppSwitch :=
  { p_switch with counter := 0, pressed := false, released := false, hold := false }

/-- The burst ends half a second after the last press if the contact was released. -/
def AppSwitch.burstOver (p_switch : AppSwitch) (poll : Poll) : Bool :=
  p_switch.released && clockTimeExceed poll.endClock p_switch.pressed_time TIMEOUT_TICK_500MS

theorem burstOver_of_not_released {p_switch : AppSwitch} (poll : Poll)
    (hreleased : p_switch.released = false) : p_switch.burstOver poll = false := by
  simp [AppSwitch.burstOver, hreleased]

/-! ## Toggle and momentary switches -/

/-- The command of a debounced press. -/
def pressCommand (relay_settings : RelaySettings) : SwitchCall :=
  if relay_settings.switchType = ZCL_SWITCH_TYPE_MOMENTARY then
    if relay_settings.switchActions = ZCL_SWITCH_ACTION_OFF_ON then
      if relay_settings.switch_decoupled = CUSTOM_SWITCH_DECOUPLED_OFF then
        .cmdOnOffOn
      else
        .remoteCmdOnOff ZCL_CMD_ONOFF_ON
    else
      if relay_settings.switch_decoupled = CUSTOM_SWITCH_DECOUPLED_OFF then
        .cmdOnOffOff
      else
        .remoteCmdOnOff ZCL_CMD_ONOFF_OFF
  else
    if relay_settings.switch_decoupled = CUSTOM_SWITCH_DECOUPLED_OFF then
      .cmdOnOffToggle
    else
      .remoteCmdOnOff ZCL_CMD_ONOFF_TOGGLE

/-- The command of a debounced release. -/
def releaseCommands (relay_settings : RelaySettings) : List SwitchCall :=
  if relay_settings.switchType = ZCL_SWITCH_TYPE_MOMENTARY then
    if relay_settings.switchActions = ZCL_SWITCH_ACTION_OFF_ON then
      if relay_settings.switch_decoupled = CUSTOM_SWITCH_DECOUPLED_OFF then
        [.cmdOnOffOff]
      else
        [.remoteCmdOnOff ZCL_CMD_ONOFF_OFF]
    else
      if relay_settings.switch_decoupled = CUSTOM_SWITCH_DECOUPLED_OFF then
        [.cmdOnOffOn]
      else
        [.remoteCmdOnOff ZCL_CMD_ONOFF_ON]
  else
    []

/-- The branch of {lit}`read_switch_toggle` for a closed contact. -/
def toggleClosed (relay_settings : RelaySettings) (p_switch : AppSwitch) (poll : Poll) :
    AppSwitch × List SwitchCall :=
  if p_switch.status = .SWITCH_FLOAT then
    ({ p_switch with status := .SWITCH_CLOSED }, [.firstStart])
  else if p_switch.debounce ≠ DEBOUNCE_SWITCH then
    let p_switch := p_switch.debounceUp
    let calls := rejoinCalls p_switch 5 poll
    if p_switch.debounce = DEBOUNCE_SWITCH ∧ p_switch.status ≠ .SWITCH_CLOSED then
      let p_switch := { p_switch with status := .SWITCH_CLOSED }
      if p_switch.counter = 0 then
        let p_switch := { p_switch.countUp with pressed := true }
        (p_switch.stamp poll.stampClock, calls ++ [pressCommand relay_settings])
      else if p_switch.pressed ∧
          ¬ clockTimeExceed poll.pressClock p_switch.pressed_time TIMEOUT_TICK_500MS then
        (p_switch.countUp.stamp poll.stampClock, calls)
      else
        (p_switch.stamp poll.stampClock, calls)
    else
      (p_switch, calls)
  else
    (p_switch, [])

/-- The branch of {lit}`read_switch_toggle` for an open contact. -/
def toggleOpen (relay_settings : RelaySettings) (p_switch : AppSwitch) (poll : Poll) :
    AppSwitch × List SwitchCall :=
  if p_switch.status = .SWITCH_FLOAT then
    ({ p_switch with status := .SWITCH_OPEN }, [.firstStart])
  else if p_switch.debounce ≠ 1 then
    let p_switch := p_switch.debounceDown
    let calls := rejoinCalls p_switch (DEBOUNCE_SWITCH - 5) poll
    if p_switch.debounce = 1 ∧ p_switch.pressed ∧ p_switch.status ≠ .SWITCH_OPEN then
      let p_switch := { p_switch with status := .SWITCH_OPEN, released := true }
      if p_switch.counter = 1 ∧ poll.joined then
        (p_switch, calls ++ releaseCommands relay_settings)
      else
        (p_switch, calls)
    else
      (p_switch, calls)
  else
    (p_switch, [])

/-- The end of {lit}`read_switch_toggle`. -/
def toggleEnd (p_switch : AppSwitch) (poll : Poll) : AppSwitch × List SwitchCall :=
  if p_switch.burstOver poll then
    (p_switch.clear, if p_switch.counter ≥ FR_COUNTER_MAX then [.switchFactoryResetStart] else [])
  else
    (p_switch, [])

/-- {lit}`read_switch_toggle`. -/
def readSwitchToggle (relay_settings : RelaySettings) (p_switch : AppSwitch) (contact : Bool)
    (poll : Poll) : AppSwitch × List SwitchCall :=
  let (p_switch, calls) :=
    if contact = false then toggleClosed relay_settings p_switch poll
    else toggleOpen relay_settings p_switch poll
  let (p_switch, endCalls) := toggleEnd p_switch poll
  (p_switch, calls ++ endCalls)

/-! ## Switches that tell presses from holds -/

/-- A held contact is noticed once, half a second after the press. -/
def holdCalls (held : AppSwitch → AppSwitch × List SwitchCall) (p_switch : AppSwitch)
    (poll : Poll) : AppSwitch × List SwitchCall :=
  if p_switch.pressed ∧ clockTimeExceed poll.holdClock p_switch.hold_time TIMEOUT_TICK_500MS ∧
      p_switch.hold = false then
    held { p_switch with hold := true }
  else
    (p_switch, [])

/-- The closed branch that {lit}`read_switch_multifunction` and
{lit}`read_switch_light_control` share. -/
def heldClosed (held : AppSwitch → AppSwitch × List SwitchCall) (p_switch : AppSwitch)
    (poll : Poll) : AppSwitch × List SwitchCall :=
  let (p_switch, calls) := holdCalls held p_switch poll
  if p_switch.debounce ≠ DEBOUNCE_SWITCH then
    let p_switch := p_switch.debounceUp
    let calls := calls ++ rejoinCalls p_switch 5 poll
    if p_switch.debounce = DEBOUNCE_SWITCH then
      let p_switch := { p_switch with pressed := true }
      let p_switch :=
        if ¬ clockTimeExceed poll.pressClock p_switch.pressed_time TIMEOUT_TICK_500MS then
          p_switch.countUp
        else
          { p_switch with counter := 1 }
      (p_switch.stamp poll.stampClock, calls)
    else
      (p_switch, calls)
  else
    (p_switch, calls)

/-- The open branch that both functions share. -/
def heldOpen (p_switch : AppSwitch) (poll : Poll) : AppSwitch × List SwitchCall :=
  if p_switch.debounce ≠ 1 then
    let p_switch := p_switch.debounceDown
    let calls := rejoinCalls p_switch (DEBOUNCE_SWITCH - 5) poll
    if p_switch.debounce = 1 ∧ p_switch.pressed then
      ({ p_switch with released := true }, calls)
    else
      (p_switch, calls)
  else
    (p_switch, [])

/-- The poll that both functions share: {lit}`held` is what they do when a hold
begins, and {lit}`finished` what they do when a burst is over. -/
def readSwitchHeld (held : AppSwitch → AppSwitch × List SwitchCall)
    (finished : AppSwitch → List SwitchCall) (p_switch : AppSwitch) (contact : Bool)
    (poll : Poll) : AppSwitch × List SwitchCall :=
  let (p_switch, calls) :=
    if contact = false then heldClosed held p_switch poll else heldOpen p_switch poll
  if p_switch.burstOver poll then
    (p_switch.clear, calls ++ finished p_switch)
  else
    (p_switch, calls)

/-- A hold in {lit}`read_switch_multifunction`. -/
def multifunctionHeld (p_switch : AppSwitch) : AppSwitch × List SwitchCall :=
  (p_switch, [.msInputReport ACTION_HOLD])

/-- The end of a burst in {lit}`read_switch_multifunction`. -/
def multifunctionFinished (p_switch : AppSwitch) : List SwitchCall :=
  if p_switch.hold then
    [.msInputReport ACTION_RELEASE]
  else if p_switch.counter = ACTION_SINGLE ∨ p_switch.counter = ACTION_DOUBLE ∨
      p_switch.counter = ACTION_TRIPLE then
    [.msInputReport (UInt16.ofNat p_switch.counter)]
  else if p_switch.counter = ACTION_CLEAR then
    [.msInputReport ACTION_EMPTY]
  else if p_switch.counter ≥ FR_COUNTER_MAX then
    [.switchFactoryResetStart]
  else
    []

/-- {lit}`read_switch_multifunction`. -/
def readSwitchMultifunction (p_switch : AppSwitch) (contact : Bool) (poll : Poll) :
    AppSwitch × List SwitchCall :=
  readSwitchHeld multifunctionHeld multifunctionFinished p_switch contact poll

/-- A hold in {lit}`read_switch_light_control`: the direction changes each time. -/
def lightControlHeld (p_switch : AppSwitch) : AppSwitch × List SwitchCall :=
  if ¬ p_switch.level_dir then
    ({ p_switch with level_dir := true }, [.appMoveToLevel LEVEL_MOVE_UP])
  else
    ({ p_switch with level_dir := false }, [.appMoveToLevel LEVEL_MOVE_DOWN])

/-- The end of a burst in {lit}`read_switch_light_control`. -/
def lightControlFinished (p_switch : AppSwitch) : List SwitchCall :=
  if p_switch.hold then
    [.appLevelStop]
  else if p_switch.counter = ACTION_SINGLE then
    [.remoteCmdOnOff ZCL_CMD_ONOFF_TOGGLE]
  else if p_switch.counter ≥ FR_COUNTER_MAX then
    [.switchFactoryResetStart]
  else
    []

/-- {lit}`read_switch_light_control`. -/
def readSwitchLightControl (p_switch : AppSwitch) (contact : Bool) (poll : Poll) :
    AppSwitch × List SwitchCall :=
  readSwitchHeld lightControlHeld lightControlFinished p_switch contact poll

/-! ## The poll of the device -/

/-- What can be measured at the switch pin. -/
structure Sample where
  gpio : Bool
  key_level : Nat
  deriving Repr, DecidableEq

/-- {lit}`switch_gpio_read`: two models measure a voltage. -/
def switchGpioRead (device_switch_model : UInt8) (sample : Sample) : Bool :=
  if device_switch_model = DEVICE_SWITCH_2 ∨ device_switch_model = DEVICE_SWITCH_3 then
    let threshold :=
      if device_switch_model = DEVICE_SWITCH_2 then THRESHOLD_MODEL_2 else THRESHOLD_MODEL_3
    if sample.key_level < threshold then false else true
  else
    sample.gpio

/-- A call of a poll is carried out. -/
def Device.switchCall (d : Device) : SwitchCall → Device
  | .firstStart => checkFirstStart d
  | .cmdOnOffOn => Firmware.cmdOnOffOn d
  | .cmdOnOffOff => Firmware.cmdOnOffOff d
  | .cmdOnOffToggle => Firmware.cmdOnOffToggle d
  | .remoteCmdOnOff command => d.output (.remoteCmdOnOff command)
  | .zbRejoinReq => d.output .zbRejoinReq
  | .switchFactoryResetStart => d.output .switchFactoryResetStart
  | .msInputReport value =>
      { d with attrs := { d.attrs with msInput := { d.attrs.msInput with value := value } } }.output
        (.appForcedReport value)
  | .appMoveToLevel up_down => d.output (.appMoveToLevel up_down)
  | .appLevelStop => d.output .appLevelStop

/-- The poll function that {lit}`switch_handler` selects. -/
def readSwitch (relay_settings : RelaySettings) (p_switch : AppSwitch) (contact : Bool)
    (poll : Poll) : AppSwitch × List SwitchCall :=
  if relay_settings.switchType = ZCL_SWITCH_TYPE_TOGGLE ∨
      relay_settings.switchType = ZCL_SWITCH_TYPE_MOMENTARY then
    readSwitchToggle relay_settings p_switch contact poll
  else if relay_settings.switchType = ZCL_SWITCH_TYPE_MULTIFUNCTION then
    readSwitchMultifunction p_switch contact poll
  else if relay_settings.switchType = ZCL_CUSTOM_SWITCH_TYPE_LIGHT_CONTROL then
    readSwitchLightControl p_switch contact poll
  else
    (p_switch, [])

/-- {lit}`switch_handler`. -/
def switchHandler (d : Device) (sample : Sample) (poll : Poll) : Device :=
  if 0 < d.dev_relay_amt then
    let contact := switchGpioRead d.device_switch_model sample
    let (p_switch, calls) := readSwitch d.relay_settings d.app_switch contact poll
    calls.foldl Device.switchCall { d with app_switch := p_switch }
  else
    d

/-- What {lit}`switch_init` makes of {lit}`app_switch`. -/
def initAppSwitch (relay_settings : RelaySettings) (p_switch : AppSwitch) (clock : UInt32) :
    AppSwitch :=
  { p_switch with
    debounce := DEBOUNCE_SWITCH / 2
    hold := false
    counter := 0
    pressed := false
    released := false
    level_dir := false
    color_dir := false
    status :=
      if relay_settings.switchType < ZCL_SWITCH_TYPE_MULTIFUNCTION then .SWITCH_FLOAT
      else .SWITCH_OPEN
    pressed_time := clock }

/-- {lit}`switch_init`. -/
def switchInit (d : Device) (clock : UInt32) : Device :=
  if 0 < d.dev_relay_amt then
    { d with app_switch := initAppSwitch d.relay_settings d.app_switch clock }
  else
    d

end Firmware
