import TuyaMiniSwitch.App.BootState
import TuyaMiniSwitch.App.Settings
import TuyaMiniSwitch.App.WrittenRecords

/-!
# Application - Relay, attribute and status

The relay, the OnOff attribute and the stored status are three copies of one bit.
From the first command that is executed behind a boot they agree, in whatever
order the network, the button, the wall switch and configuration writes come.

Main results:

- Theorem {lit}`Settled.writeCommand`: no written frame makes the copies differ.
- Theorem {lit}`Settled.step`: no event makes the copies differ.
- Theorem {lit}`agree_of_executes`: behind an executed command the copies agree.
- Theorem {lit}`relay_agreement`: the three copies agree over every run.
-/

namespace Firmware

open Machine OnOffLog Utility

/-! ## Written frames -/

/-- A written frame does not reach the OnOff attribute. -/
theorem zclWriteHandler_onOff (attrs : Attrs) (endpoint : UInt8) (clusterId : UInt16)
    (attrList : List WriteRec) :
    (zclWriteHandler attrs endpoint clusterId attrList).onOff.onOff = attrs.onOff.onOff := by
  have hnot : NotWritable .onOff := by
    decide
  exact toUInt16_inj.mp (zclWriteHandler_notWritable hnot attrs endpoint clusterId attrList)

/-- A setting switches the relay off, or it leaves the three copies alone. -/
theorem Settled.handle {drives : List UInt8} {d : Device} (setting : Setting)
    (hd : Settled drives d) : Settled drives (d.handle setting) := by
  by_cases hoff : TurnsOff d.relay_settings setting
  · rw [handle_of_turnsOff hoff]
    exact hd.cmdOnOffOff.quiet ⟨rfl, rfl, rfl, rfl⟩
  · simp only [Device.handle]
    rw [if_neg hoff]
    split
    · exact hd.quiet ⟨rfl, rfl, rfl, rfl⟩
    · exact hd.quiet ⟨rfl, rfl, rfl, rfl⟩

theorem Settled.writeCommand {drives : List UInt8} {d : Device} (endpoint : UInt8)
    (clusterId : UInt16) (attrList : List WriteRec) (hd : Settled drives d) :
    Settled drives (writeCommand d endpoint clusterId attrList) := by
  have hwritten : Settled drives
      { d with attrs := zclWriteHandler d.attrs endpoint clusterId attrList } :=
    hd.quiet ⟨rfl, rfl, zclWriteHandler_onOff _ _ _ _, rfl⟩
  unfold Firmware.writeCommand
  by_cases hendpoint : endpoint = APP_ENDPOINT1
  · rw [hendpoint] at hwritten ⊢
    rw [appZclWriteReqCmd_eq]
    split
    · have hrun := run_invariant_always (Settled drives) (fun _ setting => Settled.handle setting)
        (settingsOf clusterId attrList) hwritten
      exact hrun.quiet ⟨rfl, rfl, rfl, rfl⟩
    · exact hwritten
  · rw [appZclWriteReqCmd, if_neg hendpoint]
    exact hwritten

/-! ## Events -/

/-- What the firmware reacts to. -/
inductive Event where
  /-- An On/Off command from the network. -/
  | onOff (cmdId : UInt8)
  | button (poll : ButtonPoll)
  | switch (sample : Sample) (poll : Poll)
  /-- A write command from the network. -/
  | write (endpoint : UInt8) (clusterId : UInt16) (attrList : List WriteRec)

/-- The reaction to an event. -/
def Device.step (d : Device) : Event → Device
  | .onOff cmdId => appOnOffCb d cmdId
  | .button poll => buttonHandler d poll
  | .switch sample poll => switchHandler d sample poll
  | .write endpoint clusterId attrList => writeCommand d endpoint clusterId attrList

/-- The calls of a poll that are relay commands, or that come to one. -/
def SwitchCall.Commands : SwitchCall → Prop
  | .firstStart | .cmdOnOffOn | .cmdOnOffOff | .cmdOnOffToggle => True
  | .remoteCmdOnOff _ | .zbRejoinReq | .switchFactoryResetStart | .msInputReport _
  | .appMoveToLevel _ | .appLevelStop => False

/-- An event executes a relay command: a command of the network that is one, a single click
that is over, a poll of the wall switch with such a call, or a record that switches the
relay off. -/
def Executes (d : Device) : Event → Prop
  | .onOff cmdId =>
      cmdId = ZCL_CMD_ONOFF_ON ∨ cmdId = ZCL_CMD_ONOFF_OFF ∨ cmdId = ZCL_CMD_ONOFF_TOGGLE
  | .button poll =>
      d.button.state = .APP_STATE_RELEASE ∧ d.button.ctn = 1 ∧
        clockTimeExceed poll.releasedClock d.button.released_time TIMEOUT_TICK_250MS
  | .switch sample poll =>
      0 < d.dev_relay_amt ∧ ∃ call ∈ (readSwitch d.relay_settings d.app_switch
        (switchGpioRead d.device_switch_model sample) poll).2, call.Commands
  | .write endpoint clusterId attrList =>
      endpoint = APP_ENDPOINT1 ∧
        Sometime RelaySettings.set TurnsOff d.relay_settings (settingsOf clusterId attrList)

/-- A run executes a relay command. -/
def CommandExecuted (start : Device) (es : List Event) : Prop :=
  Sometime Device.step Executes start es

theorem Settled.step {drives : List UInt8} {d : Device} (e : Event) (hd : Settled drives d) :
    Settled drives (d.step e) := by
  cases e with
  | onOff cmdId => exact hd.appOnOffCb cmdId
  | button poll => exact hd.buttonHandler poll
  | switch sample poll => exact hd.switchHandler sample poll
  | write endpoint clusterId attrList => exact hd.writeCommand endpoint clusterId attrList

/-! ## Executed commands -/

/-- Behind a command of the wall switch everything agrees. -/
theorem agree_switchCall {drives : List UInt8} {d : Device} (hd : Settled drives d)
    {call : SwitchCall} (hcall : call.Commands) : Agree (d.switchCall call) := by
  have hcommand : ∀ v, v = ZCL_ONOFF_STATUS_ON ∨ v = ZCL_ONOFF_STATUS_OFF →
      Agree (relayCommand d v) := fun v hv => agree_relayCommand hd.enabled hv
  have htoggle : Agree (cmdOnOffToggle d) := by
    rw [cmdOnOffToggle_eq]
    exact hcommand _ (toggled_onOff d.status)
  cases call with
  | firstStart =>
      show Agree (checkFirstStart d)
      unfold checkFirstStart
      split
      · split
        · exact hcommand _ (Or.inl rfl)
        · exact hcommand _ (Or.inr rfl)
      · split
        · exact htoggle
        · split
          · exact hcommand _ (Or.inl rfl)
          · split
            · exact hcommand _ (Or.inr rfl)
            · exact hcommand _ (Or.inr rfl)
  | cmdOnOffOn => exact hcommand _ (Or.inl rfl)
  | cmdOnOffOff => exact hcommand _ (Or.inr rfl)
  | cmdOnOffToggle => exact htoggle
  | remoteCmdOnOff | zbRejoinReq | switchFactoryResetStart | msInputReport | appMoveToLevel
  | appLevelStop => exact hcall.elim

theorem agree_switchCalls {drives : List UInt8} {d : Device} (hd : Settled drives d)
    {calls : List SwitchCall} {call : SwitchCall} (hmem : call ∈ calls) (hcall : call.Commands) :
    Agree (calls.foldl Device.switchCall d) := by
  rcases List.append_of_mem hmem with ⟨pre, post, rfl⟩
  rw [List.foldl_append, List.foldl_cons]
  have hpre := hd.switchCalls pre
  have hat := hpre.switchCall call
  exact agree_of_settled hat.model hat.enabled (agree_switchCall hpre hcall)
    fun drives hd => hd.switchCalls post

/-- So it does behind a click. -/
theorem agree_buttonHandler {drives : List UInt8} {d : Device} (hd : Settled drives d)
    {poll : ButtonPoll} (hclick : Executes d (.button poll)) : Agree (buttonHandler d poll) := by
  rcases hclick with ⟨hstate, hctn, hover⟩
  have hchecked : Agree (buttonCheckCommand d VK_SW1) := by
    have hnormal : Settled drives
        { d with button := { d.button with state := .APP_STATE_NORMAL } } :=
      hd.quiet ⟨rfl, rfl, rfl, rfl⟩
    have hcommands : SwitchCall.cmdOnOffToggle.Commands := trivial
    have htoggle := agree_switchCall hnormal hcommands
    unfold buttonCheckCommand buttonSinglePressed
    dsimp only
    rw [if_pos hctn, if_pos rfl]
    refine Quiet.agree ?_ htoggle
    exact ⟨rfl, rfl, rfl, rfl⟩
  have hpressed : ¬ (d.button.state = .APP_FACTORY_NEW_SET_CHECK ∧
      clockTimeExceed poll.pressedClock d.button.pressed_time TIMEOUT_TICK_5SEC) := by
    rw [hstate]
    rintro ⟨hcheck, -⟩
    cases hcheck
  unfold buttonHandler
  dsimp only
  rw [if_neg hpressed, if_pos ⟨hstate, hover⟩]
  cases poll.scan with
  | none => exact hchecked
  | some kbEvt =>
      refine Quiet.agree ?_ hchecked
      exact ⟨rfl, rfl, rfl, rfl⟩

/-- A record that switches the relay off changes a setting. -/
theorem acts_of_turnsOff {s : RelaySettings} {setting : Setting} (hoff : TurnsOff s setting) :
    Acts s setting := by
  cases setting with
  | switchType type => exact hoff.1
  | switch_decoupled decoupled => exact hoff
  | startUpOnOff | switchActions | defaultMoveRate | levelMin | levelMax | transitionTime =>
      exact hoff.elim

/-- So it does behind a frame with such a record. -/
theorem agree_writeCommand {drives : List UInt8} {d : Device} (hd : Settled drives d)
    {clusterId : UInt16} {attrList : List WriteRec}
    (hoff : Sometime RelaySettings.set TurnsOff d.relay_settings
      (settingsOf clusterId attrList)) :
    Agree (writeCommand d APP_ENDPOINT1 clusterId attrList) := by
  have hacts : Sometime RelaySettings.set Acts d.relay_settings (settingsOf clusterId attrList) :=
    sometime_mono (fun _ _ => acts_of_turnsOff) hoff
  have hwritten : Settled drives
      { d with attrs := zclWriteHandler d.attrs APP_ENDPOINT1 clusterId attrList } :=
    hd.quiet ⟨rfl, rfl, zclWriteHandler_onOff _ _ _ _, rfl⟩
  have hrun : Agree (run Device.handle
      { d with attrs := zclWriteHandler d.attrs APP_ENDPOINT1 clusterId attrList }
      (settingsOf clusterId attrList)) := by
    refine run_of_sometime_invariant (Settled drives) Agree
      (fun _ setting => Settled.handle setting) (fun d setting hd hagree => ?_)
      (fun d setting hd hoff => ?_) hwritten
      ((sometime_map handle_settings TurnsOff _ _).mpr hoff)
    · exact agree_of_settled hd.model hd.enabled hagree fun _ => Settled.handle setting
    · rw [handle_of_turnsOff hoff]
      refine Quiet.agree ?_ (agree_relayCommand hd.enabled (Or.inr rfl))
      exact ⟨rfl, rfl, rfl, rfl⟩
  rw [writeCommand, appZclWriteReqCmd_eq, if_pos hacts]
  refine Quiet.agree ?_ hrun
  exact ⟨rfl, rfl, rfl, rfl⟩

theorem agree_of_executes {drives : List UInt8} {d : Device} {e : Event}
    (hd : Settled drives d) (hexecutes : Executes d e) : Agree (d.step e) := by
  cases e with
  | onOff cmdId =>
      show Agree (appOnOffCb d cmdId)
      unfold appOnOffCb
      rcases hexecutes with rfl | rfl | rfl
      · exact agree_switchCall hd (show SwitchCall.cmdOnOffOn.Commands from trivial)
      · exact agree_switchCall hd (show SwitchCall.cmdOnOffOff.Commands from trivial)
      · exact agree_switchCall hd (show SwitchCall.cmdOnOffToggle.Commands from trivial)
  | button poll => exact agree_buttonHandler hd hexecutes
  | switch sample poll =>
      rcases hexecutes with ⟨hamt, call, hmem, hcall⟩
      show Agree (switchHandler d sample poll)
      unfold switchHandler
      rw [if_pos hamt]
      let contact := switchGpioRead d.device_switch_model sample
      let p_switch := (readSwitch d.relay_settings d.app_switch contact poll).1
      have hpolled : Settled drives { d with app_switch := p_switch } :=
        hd.quiet ⟨rfl, rfl, rfl, rfl⟩
      exact agree_switchCalls hpolled hmem hcall
  | write endpoint clusterId attrList =>
      rcases hexecutes with ⟨rfl, hoff⟩
      exact agree_writeCommand hd hoff

/-- Behind a run that executes a command everything agrees. -/
theorem Settled.agree_of_commandExecuted {start : Device} {es : List Event}
    {drives : List UInt8} (hstart : Settled drives start)
    (hexecuted : CommandExecuted start es) : Agree (run Device.step start es) := by
  refine run_of_sometime_invariant (Settled drives) Agree (fun _ e => Settled.step e)
    (fun d e hd hagree => ?_) (fun _ _ => agree_of_executes) hstart hexecuted
  exact agree_of_settled hd.model hd.enabled hagree fun _ => Settled.step e

/-- The relay level tells the status. -/
theorem Agree.relayOn_iff {d : Device} (hd : Agree d) (hmodel : d.device ∈ switchDevices)
    (hen : d.device.device_en = true) :
    LastDriven d d.device.relayOn ↔ d.status = ZCL_ONOFF_STATUS_ON := by
  have hrelay := hd.relay
  rcases hd.onOff with hon | hoff
  · rw [hon] at hrelay
    exact iff_of_true hrelay hon
  · rw [hoff] at hrelay ⊢
    refine iff_of_false (fun h => ?_) (by decide)
    have hlevel : some d.device.relayOff = some d.device.relayOn := hrelay.symm.trans h
    exact relayOn_ne_relayOff hmodel hen (Option.some.inj hlevel).symm

/-- Behind a boot of an enabled model, over every run of events: once a command was
executed, the attribute equals the status, and the relay was last driven on exactly
when the status is on. -/
theorem relay_agreement (input : BootInput) (start : Device) (hinit : userInit input = some start)
    (hmodel : input.model ≠ DEVICE_SWITCH_NONE) (es : List Event)
    (hexecuted : CommandExecuted start es) :
    (run Device.step start es).attrs.onOff.onOff = (run Device.step start es).status ∧
      (LastDriven (run Device.step start es) (run Device.step start es).device.relayOn ↔
        (run Device.step start es).status = ZCL_ONOFF_STATUS_ON) := by
  have hbooted := userInit_spec hinit
  have hstart : Settled (relays start.outputs) start :=
    ⟨hbooted.device_mem, hbooted.enabled_iff.mpr hmodel, Or.inl rfl⟩
  have hrun : Settled (relays start.outputs) (run Device.step start es) :=
    run_invariant_always _ (fun _ e => Settled.step e) es hstart
  have hagree := hstart.agree_of_commandExecuted hexecuted
  exact ⟨hagree.attr, hagree.relayOn_iff hrun.model hrun.enabled⟩

/-- One command from the network behind a boot. -/
theorem relay_agreement_on :
    ∃ start, userInit (modelBoot modelChip {}) = some start ∧
      (run Device.step start [.onOff ZCL_CMD_ONOFF_ON]).attrs.onOff.onOff =
        (run Device.step start [.onOff ZCL_CMD_ONOFF_ON]).status := by
  rcases exists_modelBoot (model_modelChip {}) with ⟨start, -, hinit, -⟩
  have hmodel : (modelBoot modelChip {}).model ≠ DEVICE_SWITCH_NONE := by
    rw [model_modelChip]
    decide
  have hexecuted : CommandExecuted start [.onOff ZCL_CMD_ONOFF_ON] := Or.inl (Or.inl rfl)
  exact ⟨start, hinit, (relay_agreement _ start hinit hmodel _ hexecuted).1⟩

end Firmware
