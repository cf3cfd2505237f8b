import TuyaMiniSwitch.App.Device

/-!
# Application - The button

{lit}`button_handler` of {lit}`app_button.c`: a short press toggles the relay, a
press of five seconds resets the device to factory settings.
-/

namespace Firmware

open Utility

def TIMEOUT_TICK_250MS : UInt32 := 250000

def TIMEOUT_TICK_5SEC : UInt32 := 5000000

/-- {lit}`VK_SW1`. -/
def VK_SW1 : UInt8 := 1

/-- The fields of {lit}`kb_event` that the handler reads: the number of pressed
keys and the first key code. -/
structure KbEvent where
  cnt : UInt8
  keycode : UInt8
  deriving Repr, DecidableEq

/-- What a call of {lit}`button_handler` reads from outside: the clock at the
places where {lit}`clock_time` is called, and what {lit}`kb_scan_key` found. -/
structure ButtonPoll where
  /-- In the test of the press. -/
  pressedClock : UInt32
  /-- In the test of the release. -/
  releasedClock : UInt32
  /-- Where a time is assigned. -/
  stampClock : UInt32
  scan : Option KbEvent
  deriving Repr, DecidableEq

/-- {lit}`buttonKeepPressed`. -/
def buttonKeepPressed (d : Device) (btNum : UInt8) : Device :=
  let d := { d with button := { d.button with state := .APP_FACTORY_NEW_DOING, ctn := 0 } }
  if btNum = VK_SW1 ∧ d.device_switch_model ≠ DEVICE_SWITCH_NONE then
    d.output .zbFactoryReset
  else
    d

/-- {lit}`buttonSinglePressed`. -/
def buttonSinglePressed (d : Device) (btNum : UInt8) : Device :=
  if btNum = VK_SW1 then cmdOnOffToggle d else d

/-- {lit}`buttonCheckCommand`. -/
def buttonCheckCommand (d : Device) (btNum : UInt8) : Device :=
  let d := { d with button := { d.button with state := .APP_STATE_NORMAL } }
  let d := if d.button.ctn = 1 then buttonSinglePressed d btNum else d
  { d with button := { d.button with ctn := 0 } }

/-- {lit}`keyScan_keyPressedCB`. -/
def keyScanKeyPressedCB (button : Button) (kbEvt : KbEvent) (clock : UInt32) : Button :=
  if kbEvt.keycode ≠ 0xff then
    { button with
      pressed_time := clock
      state := .APP_FACTORY_NEW_SET_CHECK
      ctn := (button.ctn + 1) % 256 }
  else
    button

/-- {lit}`keyScan_keyReleasedCB`. -/
def keyScanKeyReleasedCB (button : Button) (keyCode : UInt8) (clock : UInt32) : Button :=
  if keyCode ≠ 0xff then
    { button with released_time := clock, state := .APP_STATE_RELEASE }
  else
    button

/-- What {lit}`button_handler` makes of a scan. -/
def buttonScan (button : Button) (kbEvt : KbEvent) (clock : UInt32) : Button :=
  if kbEvt.cnt ≠ 0 then
    let button := keyScanKeyPressedCB { button with keyPressed := true } kbEvt clock
    if kbEvt.cnt = 1 then { button with valid_keyCode := kbEvt.keycode } else button
  else
    { keyScanKeyReleasedCB button button.valid_keyCode clock with
      valid_keyCode := 0xff
      keyPressed := false }

/-- {lit}`button_handler`. -/
def buttonHandler (d : Device) (poll : ButtonPoll) : Device :=
  let d :=
    if d.button.state = .APP_FACTORY_NEW_SET_CHECK ∧
        clockTimeExceed poll.pressedClock d.button.pressed_time TIMEOUT_TICK_5SEC then
      buttonKeepPressed d VK_SW1
    else d
  let d :=
    if d.button.state = .APP_STATE_RELEASE ∧
        clockTimeExceed poll.releasedClock d.button.released_time TIMEOUT_TICK_250MS then
      buttonCheckCommand d VK_SW1
    else d
  match poll.scan with
  | some kbEvt => { d with button := buttonScan d.button kbEvt poll.stampClock }
  | none => d

end Firmware
