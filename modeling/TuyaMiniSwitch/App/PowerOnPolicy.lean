import TuyaMiniSwitch.App.BootState

/-!
# Application - The power-on policy

What the policy prescribes for the relay after a power loss, and when the
firmware does it.  A toggle or momentary switch applies the policy at its first
poll, whatever the contact is.  The other switch types are to have it applied by
{lit}`dev_relay_init`, which runs before the settings are restored and never sees
such a type, so the relay stays off.

Main results:

- Theorem {lit}`checkFirstStart_eq`: applying the policy is one relay command.
- Theorem {lit}`power_on_policy_iff`: when the first poll finds the policy applied.
- Theorem {lit}`power_on_policy_lost`: a multifunction switch that is to power on.
-/

namespace Firmware

open NorFlash FlashDriver Utility OnOffLog

/-! ## The policy -/

/-- The relay status that a policy prescribes for a stored status. -/
def policyValue (startUpOnOff stored : UInt8) : UInt8 :=
  if startUpOnOff = ZCL_START_UP_ONOFF_SET_ONOFF_TO_OFF then
    ZCL_ONOFF_STATUS_OFF
  else if startUpOnOff = ZCL_START_UP_ONOFF_SET_ONOFF_TO_ON then
    ZCL_ONOFF_STATUS_ON
  else if startUpOnOff = ZCL_START_UP_ONOFF_SET_ONOFF_TOGGLE then
    toggled stored
  else if startUpOnOff = ZCL_START_UP_ONOFF_SET_ONOFF_TO_PREVIOUS then
    if stored ≠ 0 then ZCL_ONOFF_STATUS_ON else ZCL_ONOFF_STATUS_OFF
  else
    ZCL_ONOFF_STATUS_OFF

/-- The relay, the OnOff attribute and the status all have a value. -/
structure PolicyApplied (v : UInt8) (d : Device) : Prop where
  status : d.status = v
  attr : d.attrs.onOff.onOff = v
  relay : LastDriven d (d.device.relayLevel v)

/-- Applying the policy is the command of the status it prescribes. -/
theorem checkFirstStart_eq (d : Device) :
    checkFirstStart d = relayCommand d (policyValue d.relay_settings.startUpOnOff d.status) := by
  unfold checkFirstStart
  split
  · rename_i hprevious
    have hvalue : policyValue ZCL_START_UP_ONOFF_SET_ONOFF_TO_PREVIOUS d.status =
        if d.status ≠ 0 then ZCL_ONOFF_STATUS_ON else ZCL_ONOFF_STATUS_OFF := rfl
    rw [hprevious, hvalue]
    split
    · exact cmdOnOffOn_eq d
    · exact cmdOnOffOff_eq d
  · split
    · rename_i htoggle
      rw [htoggle]
      exact cmdOnOffToggle_eq d
    · split
      · rename_i hon
        rw [hon]
        exact cmdOnOffOn_eq d
      · split
        · rename_i hoff
          rw [hoff]
          exact cmdOnOffOff_eq d
        · rename_i hprevious htoggle hon hoff
          have hvalue : policyValue d.relay_settings.startUpOnOff d.status =
              ZCL_ONOFF_STATUS_OFF := by
            simp only [policyValue, hprevious, htoggle, hon, hoff, if_false]
          rw [hvalue]
          exact cmdOnOffOff_eq d

theorem policyApplied_relayCommand {d : Device} (hen : d.device.device_en = true) (v : UInt8) :
    PolicyApplied v (relayCommand d v) := by
  refine ⟨relayCommand_status d v, relayCommand_onOff d v, ?_⟩
  rw [relayCommand_device]
  exact lastDriven_relayCommand v hen

/-! ## The first poll -/

/-- The first poll of a toggle or momentary switch applies the policy. -/
theorem readSwitchToggle_float {p_switch : AppSwitch} (relay_settings : RelaySettings)
    (contact : Bool) (poll : Poll) (hfloat : p_switch.status = .SWITCH_FLOAT)
    (hreleased : p_switch.released = false) :
    (readSwitchToggle relay_settings p_switch contact poll).2 = [.firstStart] := by
  have hover : ∀ status, ({ p_switch with status := status } : AppSwitch).burstOver poll = false :=
    fun _ => burstOver_of_not_released poll hreleased
  unfold readSwitchToggle toggleClosed toggleOpen
  rw [if_pos hfloat, if_pos hfloat]
  cases contact with
  | false => simp [toggleEnd, hover]
  | true => simp [toggleEnd, hover]

/-- The first poll of the other switches does nothing. -/
theorem readSwitchHeld_first {p_switch : AppSwitch}
    (held : AppSwitch → AppSwitch × List SwitchCall) (finished : AppSwitch → List SwitchCall)
    (contact : Bool) (poll : Poll) (hdebounce : p_switch.debounce = DEBOUNCE_SWITCH / 2)
    (hpressed : p_switch.pressed = false) (hreleased : p_switch.released = false) :
    (readSwitchHeld held finished p_switch contact poll).2 = [] := by
  cases contact with
  | false => simp [readSwitchHeld, heldClosed, holdCalls, rejoinCalls, hpressed, hdebounce,
      AppSwitch.debounceUp, DEBOUNCE_SWITCH, AppSwitch.burstOver, hreleased]
  | true => simp [readSwitchHeld, heldOpen, rejoinCalls, hpressed, hdebounce,
      AppSwitch.debounceDown, DEBOUNCE_SWITCH, AppSwitch.burstOver, hreleased]

/-- The switch types with a toggle poll. -/
theorem lt_multifunction_iff (type : UInt8) :
    type < ZCL_SWITCH_TYPE_MULTIFUNCTION ↔
      type = ZCL_SWITCH_TYPE_TOGGLE ∨ type = ZCL_SWITCH_TYPE_MOMENTARY := by
  rw [UInt8.lt_iff_toNat_lt, ← UInt8.toNat_inj, ← UInt8.toNat_inj]
  show type.toNat < 2 ↔ type.toNat = 0 ∨ type.toNat = 1
  omega

theorem switchHandler_eq {d : Device} (hd : WaitsForPoll d) (sample : Sample) (poll : Poll) :
    switchHandler d sample poll =
      (readSwitch d.relay_settings d.app_switch (switchGpioRead d.device_switch_model sample)
        poll).2.foldl Device.switchCall
        { d with app_switch := (readSwitch d.relay_settings d.app_switch
          (switchGpioRead d.device_switch_model sample) poll).1 } := by
  have hamt : 0 < d.dev_relay_amt := by
    rw [hd.amt]
    exact Nat.one_pos
  unfold switchHandler
  rw [if_pos hamt]

/-- The first poll of a toggle or momentary switch is the command of the policy. -/
theorem switchHandler_toggle {d : Device} (hd : WaitsForPoll d) (sample : Sample) (poll : Poll)
    (htype : d.relay_settings.switchType < ZCL_SWITCH_TYPE_MULTIFUNCTION) :
    ∃ p_switch, switchHandler d sample poll = relayCommand { d with app_switch := p_switch }
      (policyValue d.relay_settings.startUpOnOff d.status) := by
  rw [lt_multifunction_iff] at htype
  rw [switchHandler_eq hd]
  unfold readSwitch
  rw [if_pos htype, readSwitchToggle_float _ _ _ hd.status hd.released]
  exact ⟨_, checkFirstStart_eq _⟩

/-- The first poll of the other switches leaves everything as the boot left it. -/
theorem switchHandler_held {d : Device} (hd : WaitsForPoll d) (sample : Sample) (poll : Poll)
    (htype : ¬ d.relay_settings.switchType < ZCL_SWITCH_TYPE_MULTIFUNCTION) :
    ∃ p_switch, switchHandler d sample poll = { d with app_switch := p_switch } := by
  rw [lt_multifunction_iff] at htype
  have hcalls : (readSwitch d.relay_settings d.app_switch
      (switchGpioRead d.device_switch_model sample) poll).2 = [] := by
    unfold readSwitch
    rw [if_neg htype]
    split
    · exact readSwitchHeld_first _ _ _ _ hd.debounce hd.pressed hd.released
    · split
      · exact readSwitchHeld_first _ _ _ _ hd.debounce hd.pressed hd.released
      · rfl
  rw [switchHandler_eq hd, hcalls]
  exact ⟨_, rfl⟩

/-- Where the first poll leaves the relay. -/
theorem WaitsForPoll.lastDriven_poll {d : Device} (hd : WaitsForPoll d) (sample : Sample)
    (poll : Poll) :
    LastDriven (switchHandler d sample poll)
      (if d.relay_settings.switchType < ZCL_SWITCH_TYPE_MULTIFUNCTION then
        d.device.relayLevel (policyValue d.relay_settings.startUpOnOff d.status)
      else d.device.relayOff) := by
  by_cases htype : d.relay_settings.switchType < ZCL_SWITCH_TYPE_MULTIFUNCTION
  · rcases switchHandler_toggle hd sample poll htype with ⟨p_switch, hpoll⟩
    rw [hpoll, if_pos htype]
    exact lastDriven_relayCommand (d := { d with app_switch := p_switch }) _ hd.enabled
  · rcases switchHandler_held hd sample poll htype with ⟨p_switch, hpoll⟩
    rw [hpoll, if_neg htype, LastDriven, hd.relays]
    rfl

/-! ## The policy after a boot -/

/-- A stored status that is off is the attribute of a boot whose policy says off. -/
theorem startUpValue_off {startUpOnOff : UInt8}
    (hoff : policyValue startUpOnOff ZCL_ONOFF_STATUS_OFF = ZCL_ONOFF_STATUS_OFF) :
    startUpValue startUpOnOff ZCL_ONOFF_STATUS_OFF = ZCL_ONOFF_STATUS_OFF := by
  unfold policyValue at hoff
  unfold startUpValue
  split
  · rfl
  · rename_i hne
    rw [if_neg hne] at hoff
    split
    · rename_i hon
      rw [if_pos hon] at hoff
      cases hoff
    · rename_i hon
      rw [if_neg hon] at hoff
      split
      · rename_i htoggle
        rw [if_pos htoggle] at hoff
        cases hoff
      · split <;> rfl

/-- A boot that the first poll adds nothing to has applied the policy exactly when
the stored status is off and is to stay off. -/
theorem Booted.policyApplied_iff {input : BootInput} {d : Device} (hd : Booted input d)
    (hwaits : WaitsForPoll d) (p_switch : AppSwitch) :
    PolicyApplied (policyValue d.relay_settings.startUpOnOff d.status)
        { d with app_switch := p_switch } ↔
      d.status = ZCL_ONOFF_STATUS_OFF ∧
        policyValue d.relay_settings.startUpOnOff d.status = ZCL_ONOFF_STATUS_OFF := by
  constructor
  · intro h
    have hlevel := h.relay
    rw [LastDriven, hwaits.relays] at hlevel
    have hvalue := (relayLevel_eq_off_iff hd.device_mem hwaits.enabled _).mp
      (Option.some.inj hlevel).symm
    exact ⟨h.status.trans hvalue, hvalue⟩
  · rintro ⟨hstatus, hvalue⟩
    rw [hvalue]
    refine ⟨hstatus, ?_, ?_⟩
    · show d.attrs.onOff.onOff = _
      rw [hstatus] at hvalue
      rw [hd.onOff, hstatus]
      exact startUpValue_off hvalue
    · rw [LastDriven, hwaits.relays]
      rfl

/-- A device that is not enabled drives no relay, whatever the first poll reads. -/
theorem Dormant.not_policyApplied {d : Device} (hd : Dormant d) (v : UInt8) (sample : Sample)
    (poll : Poll) : ¬ PolicyApplied v (switchHandler d sample poll) := by
  have hstill : switchHandler d sample poll = d := by
    unfold switchHandler
    rw [hd.amt, if_neg (Nat.lt_irrefl 0)]
  intro happlied
  have hdriven := happlied.relay
  rw [hstill, LastDriven, hd.outputs] at hdriven
  cases hdriven

/-- When the first poll behind a boot finds the policy applied. -/
theorem Booted.policyApplied_poll_iff {input : BootInput} {d : Device} (hd : Booted input d)
    (sample : Sample) (poll : Poll) :
    PolicyApplied (policyValue d.relay_settings.startUpOnOff d.status)
        (switchHandler d sample poll) ↔
      input.model ≠ DEVICE_SWITCH_NONE ∧
        (d.relay_settings.switchType < ZCL_SWITCH_TYPE_MULTIFUNCTION ∨
          (d.status = ZCL_ONOFF_STATUS_OFF ∧
            policyValue d.relay_settings.startUpOnOff d.status = ZCL_ONOFF_STATUS_OFF)) := by
  rw [← hd.enabled_iff]
  rcases hd.relay with hwaits | hdormant
  · rw [and_iff_right hwaits.enabled]
    by_cases htype : d.relay_settings.switchType < ZCL_SWITCH_TYPE_MULTIFUNCTION
    · rcases switchHandler_toggle hwaits sample poll htype with ⟨p_switch, hpoll⟩
      rw [hpoll]
      have happlied := policyApplied_relayCommand (d := { d with app_switch := p_switch })
        hwaits.enabled (policyValue d.relay_settings.startUpOnOff d.status)
      exact iff_of_true happlied (Or.inl htype)
    · rcases switchHandler_held hwaits sample poll htype with ⟨p_switch, hpoll⟩
      rw [hpoll, hd.policyApplied_iff hwaits, or_iff_right htype]
  · have hnever : ¬ d.device.device_en = true := by
      rw [hdormant.disabled]
      exact Bool.false_ne_true
    exact iff_of_false (hdormant.not_policyApplied _ sample poll) (fun h => hnever h.1)

/-- The status behind a boot is the one that the flash holds. -/
theorem Booted.status_eq {input : BootInput} {d : Device} (hd : Booted input d)
    {log : StatusLog} (hlog : statusOnoffRestore (powerOn input.chip) = some log) :
    d.status = log.status_onoff.status_onoff := by
  rcases hd.restored with ⟨log', hmem, hrestored⟩
  rcases statusOnoffRestore_spec (powerOn input.chip) with ⟨r, hr, hrestored'⟩
  rw [hlog] at hr
  cases hr
  rw [Device.status, hrestored.status_eq hmem hrestored']

/-- Behind the first poll the relay, the attribute and the status have the value
of the policy exactly when the model is enabled and either the switch is a toggle
or momentary switch or the stored status is off and the policy leaves it off. -/
theorem power_on_policy_iff (input : BootInput) (relay_settings : RelaySettings)
    (log : StatusLog) (d : Device) (sample : Sample) (poll : Poll)
    (hnv : input.nv = some relay_settings)
    (hcrc : relay_settings.crc = checksum relay_settings.toBytes)
    (hlog : statusOnoffRestore (powerOn input.chip) = some log)
    (hinit : userInit input = some d) :
    PolicyApplied (policyValue relay_settings.startUpOnOff log.status_onoff.status_onoff)
        (switchHandler d sample poll) ↔
      input.model ≠ DEVICE_SWITCH_NONE ∧
        (relay_settings.switchType < ZCL_SWITCH_TYPE_MULTIFUNCTION ∨
          (log.status_onoff.status_onoff = ZCL_ONOFF_STATUS_OFF ∧
            policyValue relay_settings.startUpOnOff log.status_onoff.status_onoff =
              ZCL_ONOFF_STATUS_OFF)) := by
  have hd := userInit_spec hinit
  have hsettings : d.relay_settings = relay_settings := by
    rw [hd.settings, BootInput.stored_of_crc hnv hcrc]
    rfl
  rw [← hsettings, ← hd.status_eq hlog]
  exact hd.policyApplied_poll_iff sample poll

/-! ## Two boots -/

/-- A momentary switch that is to power on does so. -/
def momentaryOn : RelaySettings where
  startUpOnOff := ZCL_START_UP_ONOFF_SET_ONOFF_TO_ON
  switchType := ZCL_SWITCH_TYPE_MOMENTARY
  crc := 2

theorem power_on_policy_iff_momentary :
    ∃ d, userInit (modelBoot modelChip momentaryOn) = some d ∧ ∀ sample poll,
      PolicyApplied ZCL_ONOFF_STATUS_ON (switchHandler d sample poll) := by
  rcases exists_modelBoot (model_modelChip momentaryOn) with ⟨d, log, hd, hlog⟩
  refine ⟨d, hd, fun sample poll => ?_⟩
  exact (power_on_policy_iff (modelBoot modelChip momentaryOn) momentaryOn log d sample poll rfl
    (by decide) hlog hd).mpr ⟨by rw [model_modelChip]; decide, Or.inl (by decide)⟩

/-- A multifunction switch that is to power on. -/
def multifunctionOn : RelaySettings where
  startUpOnOff := ZCL_START_UP_ONOFF_SET_ONOFF_TO_ON
  switchType := ZCL_SWITCH_TYPE_MULTIFUNCTION
  crc := 3

/-- It stays off. -/
theorem power_on_policy_lost :
    ∃ d log, userInit (modelBoot modelChip multifunctionOn) = some d ∧
      statusOnoffRestore (powerOn (modelBoot modelChip multifunctionOn).chip) = some log ∧
      d.device.device_en = true ∧ ∀ sample poll,
        ¬ PolicyApplied
          (policyValue multifunctionOn.startUpOnOff log.status_onoff.status_onoff)
          (switchHandler d sample poll) := by
  rcases exists_modelBoot (model_modelChip multifunctionOn) with ⟨d, log, hinit, hlog⟩
  have hd := userInit_spec hinit
  have hen : d.device.device_en = true := by
    rw [hd.enabled_iff, model_modelChip]
    decide
  have hsettings : d.relay_settings = multifunctionOn := hd.settings
  have htype : ¬ d.relay_settings.switchType < ZCL_SWITCH_TYPE_MULTIFUNCTION := by
    rw [hsettings]
    decide
  refine ⟨d, log, hinit, hlog, hen, fun sample poll => ?_⟩
  rcases hd.relay with hwaits | hdormant
  · rcases switchHandler_held hwaits sample poll htype with ⟨p_switch, hpoll⟩
    rw [hpoll, ← hsettings]
    intro happlied
    have hvalue : ∀ stored, policyValue multifunctionOn.startUpOnOff stored = ZCL_ONOFF_STATUS_ON :=
      fun _ => rfl
    rw [hsettings, hvalue, ← hvalue d.status, ← hsettings] at happlied
    have hoff := ((hd.policyApplied_iff hwaits p_switch).mp happlied).2
    rw [hsettings, hvalue] at hoff
    cases hoff
  · rw [hdormant.disabled] at hen
    cases hen

end Firmware
