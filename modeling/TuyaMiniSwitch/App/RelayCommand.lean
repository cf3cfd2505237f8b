import TuyaMiniSwitch.App.Button
import TuyaMiniSwitch.App.Switch
import TuyaMiniSwitch.App.ZclWrite

/-!
# Application - The commands of the relay

The three functions that command the relay are one function of the new status:
they assign the status and the OnOff attribute if one of them differs, save the
log if the policy looks at the stored status, and drive the relay.  What else the
wall switch, the button and the network cause leaves the status, the attribute and the
relay alone.

Main results:

- Theorem {lit}`cmdOnOffToggle_eq`: toggling is the command of the other status.
- Theorem {lit}`agree_relayCommand`: behind a command status, attribute and relay
  agree.
- Theorem {lit}`Settled.switchHandler`, {lit}`Settled.buttonHandler`: so they do behind
  the polls.
-/

namespace Firmware

open OnOffLog

/-! ## One command -/

/-- The status and the attribute are assigned, and saved if the policy needs it. -/
def commitStatus (d : Device) (v : UInt8) : Device :=
  if d.attrs.onOff.onOff ≠ v ∨ d.status ≠ v then
    let d := (d.setStatus v).setOnOffAttr v
    if d.attrs.onOff.startUpOnOff > ZCL_START_UP_ONOFF_SET_ONOFF_TO_ON then
      d.statusOnoffSave else d
  else d

/-- The level of the relay pin for a status. -/
def SwitchDevice.relayLevel (device : SwitchDevice) (v : UInt8) : UInt8 :=
  if v ≠ 0 then device.relayOn else device.relayOff

/-- The command that gives the relay a status. -/
def relayCommand (d : Device) (v : UInt8) : Device :=
  setRelayStatus (commitStatus d v) ((commitStatus d v).device.relayLevel v)

/-- The other status. -/
def toggled (v : UInt8) : UInt8 := if v = 0 then 1 else 0

theorem toggled_ne (v : UInt8) : v ≠ toggled v := by
  unfold toggled
  by_cases hzero : v = 0
  · rw [if_pos hzero, hzero]
    decide
  · rw [if_neg hzero]
    exact hzero

theorem cmdOnOffOn_eq (d : Device) : cmdOnOffOn d = relayCommand d ZCL_ONOFF_STATUS_ON := rfl

theorem cmdOnOffOff_eq (d : Device) : cmdOnOffOff d = relayCommand d ZCL_ONOFF_STATUS_OFF := rfl

@[simp] theorem commitStatus_device (d : Device) (v : UInt8) :
    (commitStatus d v).device = d.device := by
  unfold commitStatus
  split
  · dsimp only
    split <;> rfl
  · rfl

@[simp] theorem commitStatus_outputs (d : Device) (v : UInt8) :
    (commitStatus d v).outputs = d.outputs := by
  unfold commitStatus
  split
  · dsimp only
    split <;> rfl
  · rfl

@[simp] theorem commitStatus_settings (d : Device) (v : UInt8) :
    (commitStatus d v).relay_settings = d.relay_settings := by
  unfold commitStatus
  split
  · dsimp only
    split <;> rfl
  · rfl

@[simp] theorem commitStatus_nv (d : Device) (v : UInt8) : (commitStatus d v).nv = d.nv := by
  unfold commitStatus
  split
  · dsimp only
    split <;> rfl
  · rfl

@[simp] theorem commitStatus_startUp (d : Device) (v : UInt8) :
    (commitStatus d v).attrs.onOff.startUpOnOff = d.attrs.onOff.startUpOnOff := by
  unfold commitStatus
  split
  · dsimp only
    split <;> rfl
  · rfl

@[simp] theorem commitStatus_onOff (d : Device) (v : UInt8) :
    (commitStatus d v).attrs.onOff.onOff = v := by
  unfold commitStatus
  split
  · dsimp only
    split <;> rfl
  · rename_i hsame
    rw [not_or, not_not, not_not] at hsame
    exact hsame.1

@[simp] theorem commitStatus_status (d : Device) (v : UInt8) : (commitStatus d v).status = v := by
  unfold commitStatus
  split
  · dsimp only
    split <;> rfl
  · rename_i hsame
    rw [not_or, not_not, not_not] at hsame
    exact hsame.2

/-- Toggling is the command of the other status: the status always differs. -/
theorem cmdOnOffToggle_eq (d : Device) : cmdOnOffToggle d = relayCommand d (toggled d.status) := by
  have hne : d.attrs.onOff.onOff ≠ toggled d.status ∨ d.status ≠ toggled d.status :=
    Or.inr (toggled_ne d.status)
  have hcommit : cmdOnOffToggle d = setRelayStatus (commitStatus d (toggled d.status))
      ((commitStatus d (toggled d.status)).device.relayLevel
        (commitStatus d (toggled d.status)).attrs.onOff.onOff) := by
    unfold commitStatus
    rw [if_pos hne]
    rfl
  rw [hcommit, commitStatus_onOff, relayCommand]

/-- The log behind a command. -/
theorem commitStatus_log (d : Device) (v : UInt8) :
    (commitStatus d v).log =
      if d.attrs.onOff.onOff ≠ v ∨ d.status ≠ v then
        if d.attrs.onOff.startUpOnOff > ZCL_START_UP_ONOFF_SET_ONOFF_TO_ON then
          d.log.saveStatus v
        else (d.setStatus v).log
      else d.log := by
  unfold commitStatus
  split
  · dsimp only
    split <;> rename_i hstart
    · rw [if_pos (show d.attrs.onOff.startUpOnOff > _ from hstart)]
      rfl
    · rw [if_neg (show ¬ d.attrs.onOff.startUpOnOff > _ from hstart)]
      rfl
  · rfl

/-! ## The relay -/

/-- The levels the relay pin was driven to, oldest first. -/
def relays (outputs : List Output) : List UInt8 :=
  outputs.filterMap fun
    | .relay status => some status
    | _ => none

theorem relays_append (outputs outputs' : List Output) :
    relays (outputs ++ outputs') = relays outputs ++ relays outputs' := by
  simp [relays]

/-- The relay pin was last driven to this level. -/
def LastDriven (d : Device) (level : UInt8) : Prop := (relays d.outputs).getLast? = some level

/-- Driving the relay changes nothing but the outputs. -/
structure SameBut (d d' : Device) : Prop where
  log : d'.log = d.log
  attrs : d'.attrs = d.attrs
  settings : d'.relay_settings = d.relay_settings
  device : d'.device = d.device
  nv : d'.nv = d.nv

theorem setRelayStatus_frame (d : Device) (level : UInt8) :
    SameBut d (setRelayStatus d level) := by
  unfold setRelayStatus
  split
  · exact ⟨rfl, rfl, rfl, rfl, rfl⟩
  · exact ⟨rfl, rfl, rfl, rfl, rfl⟩

theorem setRelayStatus_enabled {d : Device} (level : UInt8) (hen : d.device.device_en = true) :
    setRelayStatus d level = d.output (.relay level) := by
  simp [setRelayStatus, hen]

theorem relayOn_ne_relayOff {device : SwitchDevice} (hmodel : device ∈ switchDevices)
    (hen : device.device_en = true) : device.relayOn ≠ device.relayOff := by
  have htable : ∀ device ∈ switchDevices, device.device_en = true →
      device.relayOn ≠ device.relayOff := by
    decide
  exact htable device hmodel hen

/-- Levels tell on from off. -/
theorem relayLevel_eq_off_iff {device : SwitchDevice} (hmodel : device ∈ switchDevices)
    (hen : device.device_en = true) (v : UInt8) :
    device.relayLevel v = device.relayOff ↔ v = ZCL_ONOFF_STATUS_OFF := by
  unfold SwitchDevice.relayLevel
  split
  · rename_i hne
    exact iff_of_false (relayOn_ne_relayOff hmodel hen) hne
  · rename_i heq
    rw [not_not] at heq
    exact iff_of_true rfl heq

/-- The attribute, the status and the relay agree. -/
structure Agree (d : Device) : Prop where
  onOff : d.status = ZCL_ONOFF_STATUS_ON ∨ d.status = ZCL_ONOFF_STATUS_OFF
  attr : d.attrs.onOff.onOff = d.status
  relay : LastDriven d (d.device.relayLevel d.status)

@[simp] theorem relayCommand_device (d : Device) (v : UInt8) :
    (relayCommand d v).device = d.device := by
  rw [relayCommand, (setRelayStatus_frame _ _).device, commitStatus_device]

@[simp] theorem relayCommand_settings (d : Device) (v : UInt8) :
    (relayCommand d v).relay_settings = d.relay_settings := by
  rw [relayCommand, (setRelayStatus_frame _ _).settings, commitStatus_settings]

@[simp] theorem relayCommand_nv (d : Device) (v : UInt8) : (relayCommand d v).nv = d.nv := by
  rw [relayCommand, (setRelayStatus_frame _ _).nv, commitStatus_nv]

@[simp] theorem relayCommand_status (d : Device) (v : UInt8) : (relayCommand d v).status = v := by
  rw [relayCommand, Device.status, (setRelayStatus_frame _ _).log]
  exact commitStatus_status d v

@[simp] theorem relayCommand_onOff (d : Device) (v : UInt8) :
    (relayCommand d v).attrs.onOff.onOff = v := by
  rw [relayCommand, (setRelayStatus_frame _ _).attrs, commitStatus_onOff]

@[simp] theorem relayCommand_startUp (d : Device) (v : UInt8) :
    (relayCommand d v).attrs.onOff.startUpOnOff = d.attrs.onOff.startUpOnOff := by
  rw [relayCommand, (setRelayStatus_frame _ _).attrs, commitStatus_startUp]

/-- Neither a command nor a setting changes these. -/
structure SameParts (d d' : Device) : Prop where
  device : d'.device = d.device
  app_switch : d'.app_switch = d.app_switch
  amt : d'.dev_relay_amt = d.dev_relay_amt
  model : d'.device_switch_model = d.device_switch_model
  build : d'.DEVICE_MODEL = d.DEVICE_MODEL

theorem SameParts.trans {d d' d'' : Device} (h : SameParts d d') (h' : SameParts d' d'') :
    SameParts d d'' :=
  ⟨h'.device.trans h.device, h'.app_switch.trans h.app_switch, h'.amt.trans h.amt,
    h'.model.trans h.model, h'.build.trans h.build⟩

theorem sameParts_commitStatus (d : Device) (v : UInt8) : SameParts d (commitStatus d v) := by
  unfold commitStatus
  split
  · dsimp only
    split
    · exact ⟨rfl, rfl, rfl, rfl, rfl⟩
    · exact ⟨rfl, rfl, rfl, rfl, rfl⟩
  · exact ⟨rfl, rfl, rfl, rfl, rfl⟩

theorem sameParts_relayCommand (d : Device) (v : UInt8) : SameParts d (relayCommand d v) := by
  apply (sameParts_commitStatus d v).trans
  unfold relayCommand setRelayStatus
  split
  · exact ⟨rfl, rfl, rfl, rfl, rfl⟩
  · exact ⟨rfl, rfl, rfl, rfl, rfl⟩

/-- A command drives the relay pin of an enabled device. -/
theorem relays_relayCommand {d : Device} (v : UInt8) (hen : d.device.device_en = true) :
    relays (relayCommand d v).outputs = relays d.outputs ++ [d.device.relayLevel v] := by
  have hen' : (commitStatus d v).device.device_en = true := by
    rw [commitStatus_device]
    exact hen
  rw [relayCommand, setRelayStatus_enabled _ hen', Device.output, relays_append,
    commitStatus_outputs, commitStatus_device]
  rfl

theorem lastDriven_relayCommand {d : Device} (v : UInt8) (hen : d.device.device_en = true) :
    LastDriven (relayCommand d v) (d.device.relayLevel v) := by
  rw [LastDriven, relays_relayCommand v hen, List.getLast?_append]
  rfl

/-- Behind a command everything agrees. -/
theorem agree_relayCommand {d : Device} {v : UInt8} (hen : d.device.device_en = true)
    (hv : v = ZCL_ONOFF_STATUS_ON ∨ v = ZCL_ONOFF_STATUS_OFF) : Agree (relayCommand d v) := by
  constructor
  · rw [relayCommand_status]
    exact hv
  · rw [relayCommand_onOff, relayCommand_status]
  · rw [relayCommand_status, relayCommand_device]
    exact lastDriven_relayCommand v hen

theorem toggled_onOff (v : UInt8) :
    toggled v = ZCL_ONOFF_STATUS_ON ∨ toggled v = ZCL_ONOFF_STATUS_OFF := by
  unfold toggled
  split
  · exact Or.inl rfl
  · exact Or.inr rfl

/-! ## What is no command -/

/-- Nothing that a command changes is changed. -/
structure Quiet (d d' : Device) : Prop where
  device : d'.device = d.device
  status : d'.status = d.status
  attr : d'.attrs.onOff.onOff = d.attrs.onOff.onOff
  relays : relays d'.outputs = relays d.outputs

theorem Quiet.agree {d d' : Device} (h : Quiet d d') (hd : Agree d) : Agree d' where
  onOff := by
    rw [h.status]
    exact hd.onOff
  attr := by
    rw [h.attr, h.status]
    exact hd.attr
  relay := by
    rw [LastDriven, h.relays, h.device, h.status]
    exact hd.relay

/-- Since some earlier moment the relay was not driven, or everything agrees. -/
structure Settled (drives : List UInt8) (d : Device) : Prop where
  model : d.device ∈ switchDevices
  enabled : d.device.device_en = true
  agree : relays d.outputs = drives ∨ Agree d

theorem Settled.quiet {drives : List UInt8} {d d' : Device} (hd : Settled drives d)
    (h : Quiet d d') : Settled drives d' := by
  refine ⟨by rw [h.device]; exact hd.model, by rw [h.device]; exact hd.enabled, ?_⟩
  rcases hd.agree with hsame | hagree
  · exact Or.inl (h.relays.trans hsame)
  · exact Or.inr (h.agree hagree)

theorem Settled.command {drives : List UInt8} {d : Device} {v : UInt8} (hd : Settled drives d)
    (hv : v = ZCL_ONOFF_STATUS_ON ∨ v = ZCL_ONOFF_STATUS_OFF) :
    Settled drives (relayCommand d v) := by
  refine ⟨?_, ?_, Or.inr (agree_relayCommand hd.enabled hv)⟩
  · rw [relayCommand_device]
    exact hd.model
  · rw [relayCommand_device]
    exact hd.enabled

/-- What keeps everything settled since any moment keeps the agreement. -/
theorem agree_of_settled {d d' : Device} (hmodel : d.device ∈ switchDevices)
    (hen : d.device.device_en = true) (hd : Agree d)
    (hkeep : ∀ drives, Settled drives d → Settled drives d') : Agree d' := by
  -- no drives of the pin end like these
  have hother : relays d'.outputs ≠ relays d'.outputs ++ [0] := by
    intro heq
    rw [List.self_eq_append_right] at heq
    exact List.cons_ne_nil 0 [] heq
  exact (hkeep (relays d'.outputs ++ [0]) ⟨hmodel, hen, Or.inr hd⟩).agree.resolve_left hother

theorem Settled.cmdOnOffOn {drives : List UInt8} {d : Device} (hd : Settled drives d) :
    Settled drives (cmdOnOffOn d) := hd.command (Or.inl rfl)

theorem Settled.cmdOnOffOff {drives : List UInt8} {d : Device} (hd : Settled drives d) :
    Settled drives (cmdOnOffOff d) := hd.command (Or.inr rfl)

theorem Settled.cmdOnOffToggle {drives : List UInt8} {d : Device} (hd : Settled drives d) :
    Settled drives (cmdOnOffToggle d) := by
  rw [cmdOnOffToggle_eq]
  exact hd.command (toggled_onOff d.status)

theorem quiet_output (d : Device) {o : Output} (ho : relays [o] = []) : Quiet d (d.output o) := by
  refine ⟨rfl, rfl, rfl, ?_⟩
  rw [Device.output, relays_append, ho, List.append_nil]

/-! ## The wall switch and the button -/

theorem Settled.checkFirstStart {drives : List UInt8} {d : Device} (hd : Settled drives d) :
    Settled drives (checkFirstStart d) := by
  unfold Firmware.checkFirstStart
  split
  · split
    · exact hd.cmdOnOffOn
    · exact hd.cmdOnOffOff
  · split
    · exact hd.cmdOnOffToggle
    · split
      · exact hd.cmdOnOffOn
      · split
        · exact hd.cmdOnOffOff
        · exact hd.cmdOnOffOff

theorem Settled.switchCall {drives : List UInt8} {d : Device} (call : SwitchCall)
    (hd : Settled drives d) : Settled drives (d.switchCall call) := by
  cases call with
  | firstStart => exact hd.checkFirstStart
  | cmdOnOffOn => exact hd.cmdOnOffOn
  | cmdOnOffOff => exact hd.cmdOnOffOff
  | cmdOnOffToggle => exact hd.cmdOnOffToggle
  | remoteCmdOnOff command => exact hd.quiet (quiet_output d rfl)
  | zbRejoinReq => exact hd.quiet (quiet_output d rfl)
  | switchFactoryResetStart => exact hd.quiet (quiet_output d rfl)
  | msInputReport value =>
      refine (hd.quiet ?_).quiet (quiet_output _ rfl)
      exact ⟨rfl, rfl, rfl, rfl⟩
  | appMoveToLevel up_down => exact hd.quiet (quiet_output d rfl)
  | appLevelStop => exact hd.quiet (quiet_output d rfl)

theorem Settled.switchCalls {drives : List UInt8} {d : Device} (calls : List SwitchCall)
    (hd : Settled drives d) : Settled drives (calls.foldl Device.switchCall d) := by
  induction calls generalizing d with
  | nil => exact hd
  | cons call calls ih => exact ih (hd.switchCall call)

theorem Settled.switchHandler {drives : List UInt8} {d : Device} (sample : Sample) (poll : Poll)
    (hd : Settled drives d) : Settled drives (switchHandler d sample poll) := by
  unfold Firmware.switchHandler
  split
  · dsimp only
    apply Settled.switchCalls
    exact hd.quiet ⟨rfl, rfl, rfl, rfl⟩
  · exact hd

theorem Settled.buttonKeepPressed {drives : List UInt8} {d : Device} (btNum : UInt8)
    (hd : Settled drives d) : Settled drives (buttonKeepPressed d btNum) := by
  unfold Firmware.buttonKeepPressed
  dsimp only
  split
  · refine (hd.quiet ?_).quiet (quiet_output _ rfl)
    exact ⟨rfl, rfl, rfl, rfl⟩
  · exact hd.quiet ⟨rfl, rfl, rfl, rfl⟩

theorem Settled.buttonCheckCommand {drives : List UInt8} {d : Device} (btNum : UInt8)
    (hd : Settled drives d) : Settled drives (buttonCheckCommand d btNum) := by
  have hstate : Settled drives
      { d with button := { d.button with state := .APP_STATE_NORMAL } } :=
    hd.quiet ⟨rfl, rfl, rfl, rfl⟩
  unfold Firmware.buttonCheckCommand
  dsimp only
  split
  · unfold buttonSinglePressed
    split
    · exact hstate.cmdOnOffToggle.quiet ⟨rfl, rfl, rfl, rfl⟩
    · exact hstate.quiet ⟨rfl, rfl, rfl, rfl⟩
  · exact hstate.quiet ⟨rfl, rfl, rfl, rfl⟩

theorem Settled.buttonHandler {drives : List UInt8} {d : Device} (poll : ButtonPoll)
    (hd : Settled drives d) : Settled drives (buttonHandler d poll) := by
  unfold Firmware.buttonHandler
  dsimp only
  have hkeep : Settled drives (if d.button.state = .APP_FACTORY_NEW_SET_CHECK ∧
      Utility.clockTimeExceed poll.pressedClock d.button.pressed_time TIMEOUT_TICK_5SEC then
      Firmware.buttonKeepPressed d VK_SW1 else d) := by
    split
    · exact hd.buttonKeepPressed VK_SW1
    · exact hd
  generalize (if d.button.state = .APP_FACTORY_NEW_SET_CHECK ∧
      Utility.clockTimeExceed poll.pressedClock d.button.pressed_time TIMEOUT_TICK_5SEC then
      Firmware.buttonKeepPressed d VK_SW1 else d) = d' at hkeep ⊢
  have hcheck : Settled drives (if d'.button.state = .APP_STATE_RELEASE ∧
      Utility.clockTimeExceed poll.releasedClock d'.button.released_time TIMEOUT_TICK_250MS then
      Firmware.buttonCheckCommand d' VK_SW1 else d') := by
    split
    · exact hkeep.buttonCheckCommand VK_SW1
    · exact hkeep
  cases poll.scan with
  | none => exact hcheck
  | some kbEvt => exact hcheck.quiet ⟨rfl, rfl, rfl, rfl⟩

/-! ## Commands from the network -/

theorem Settled.appOnOffCb {drives : List UInt8} {d : Device} (cmdId : UInt8)
    (hd : Settled drives d) : Settled drives (appOnOffCb d cmdId) := by
  unfold Firmware.appOnOffCb
  split
  · exact hd.cmdOnOffOn
  · split
    · exact hd.cmdOnOffOff
    · split
      · exact hd.cmdOnOffToggle
      · split
        · split
          · exact hd.quiet ⟨rfl, rfl, rfl, rfl⟩
          · exact hd
        · exact hd

end Firmware
