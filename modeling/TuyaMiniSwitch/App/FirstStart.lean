import TuyaMiniSwitch.App.SwitchOutputs
import TuyaMiniSwitch.App.WriteCommands

/-!
# Application - The first start of the wall switch

{lit}`SWITCH_FLOAT` says that the power-on policy is still to be applied.  Every boot
leaves it behind, since {lit}`switch_init` runs before the settings are restored, and only
the poll of a toggle or momentary switch takes it away.  On a switch of another type it
waits until a write makes the switch a toggle or momentary switch.

Main results:

- Theorem {lit}`startsOnce_iff`: when a poll starts the switch.
- Theorem {lit}`first_start_once_iff`: which runs start it no second time.
- Theorem {lit}`first_start_by_write`: a run that does.
-/

namespace Firmware

open Machine Utility OnOffLog

/-- What happens behind the first poll. -/
inductive ConfigEvent where
  | poll (e : Sample × Poll)
  | write (endpoint : UInt8) (clusterId : UInt16) (attrList : List WriteRec)

def Device.react (d : Device) : ConfigEvent → Device
  | .poll e => d.poll e
  | .write endpoint clusterId attrList => writeCommand d endpoint clusterId attrList

/-- A poll does not call {lit}`switch_first_start`, and it changes the status or the relay
only if the debounce counter reaches an end. -/
structure StartsOnce (d : Device) (e : Sample × Poll) : Prop where
  firstStart : SwitchCall.firstStart ∉ d.calls e.1 e.2
  changes : (d.poll e).status ≠ d.status ∨ relays (d.poll e).outputs ≠ relays d.outputs →
    Reaches d.app_switch (d.poll e).app_switch

/-- The polls of a run do so. -/
def ConfigEvent.StartsOnce (d : Device) : ConfigEvent → Prop
  | .poll e => Firmware.StartsOnce d e
  | .write _ _ _ => True

/-- A poll finds no toggle or momentary switch. -/
def ConfigEvent.NotToggle (d : Device) : ConfigEvent → Prop
  | .poll _ => ¬ d.relay_settings.IsToggle
  | .write _ _ _ => True

/-- The switch was not started yet. -/
def Device.Unstarted (d : Device) : Prop :=
  0 < d.dev_relay_amt ∧ d.app_switch.status = .SWITCH_FLOAT

/-! ## One poll -/

/-- The first poll of a toggle or momentary switch begins with the policy. -/
theorem calls_unstarted {d : Device} (hd : d.Unstarted) (htype : d.relay_settings.IsToggle)
    (e : Sample × Poll) :
    ∃ endCalls, d.calls e.1 e.2 = .firstStart :: endCalls ∧
      ∀ call ∈ endCalls, ¬ call.Drives := by
  rw [calls_of_toggle htype hd.1]
  generalize d.contact e.1 = contact
  have hend : ∀ p_switch, ∀ call ∈ (toggleEnd p_switch e.2).2, ¬ call.Drives := by
    intro p_switch call hcall
    rw [mem_toggleEnd hcall]
    exact id
  cases contact with
  | false =>
      refine ⟨_, ?_, hend (toggleClosed d.relay_settings d.app_switch e.2).1⟩
      simp [readSwitchToggle, toggleClosed, hd.2]
  | true =>
      refine ⟨_, ?_, hend (toggleOpen d.relay_settings d.app_switch e.2).1⟩
      simp [readSwitchToggle, toggleOpen, hd.2]

/-- A poll starts the switch exactly if it was not started and drives the relay. -/
theorem startsOnce_iff (d : Device) (e : Sample × Poll) :
    StartsOnce d e ↔ ¬ (d.Unstarted ∧ d.relay_settings.IsToggle) := by
  constructor
  · rintro h ⟨hd, htype⟩
    rcases calls_unstarted hd htype e with ⟨endCalls, hcalls, -⟩
    apply h.firstStart
    rw [hcalls]
    exact List.mem_cons_self
  · intro hstarted
    have hfirst : SwitchCall.firstStart ∉ d.calls e.1 e.2 := fun hcall =>
      hstarted ⟨float_of_firstStart hcall, (drives_calls hcall trivial).1⟩
    constructor
    · exact hfirst
    · intro hchanges
      by_contra hnot
      have hundriven : Undriven d (d.poll e) := by
        apply undriven_of_calls
        intro call hcall hdrives
        rcases drives_calls hcall hdrives with ⟨-, ⟨-, rfl⟩ | ⟨-, hreaches⟩⟩
        · exact hfirst hcall
        · apply hnot
          rw [poll_app_switch]
          exact hreaches
      rcases hchanges with hstatus | hrelays
      · exact hstatus hundriven.status
      · exact hrelays hundriven.relays

/-! ## Runs -/

/-- A switch that was started stays so. -/
theorem react_started {d : Device} (e : ConfigEvent) (hd : ¬ d.Unstarted) :
    ¬ (d.react e).Unstarted := by
  rintro ⟨hamt, hfloat⟩
  cases e with
  | poll e =>
      have hamt' : 0 < d.dev_relay_amt := by
        rw [← poll_amt d e]
        exact hamt
      have hstatus : d.app_switch.status ≠ .SWITCH_FLOAT := fun h => hd ⟨hamt', h⟩
      exact poll_not_float e hstatus hfloat
  | write endpoint clusterId attrList =>
      have hsame := sameParts_writeCommand d endpoint clusterId attrList
      apply hd
      constructor
      · rw [← hsame.amt]
        exact hamt
      · rw [← hsame.app_switch]
        exact hfloat

/-- Nothing but the poll of a toggle or momentary switch starts it. -/
theorem react_unstarted {d : Device} {e : ConfigEvent} (hd : d.Unstarted)
    (htype : e.NotToggle d) : (d.react e).Unstarted := by
  cases e with
  | poll e =>
      constructor
      · rw [Device.react, poll_amt]
        exact hd.1
      · rw [Device.react, poll_app_switch, polled_status htype]
        exact hd.2
  | write endpoint clusterId attrList =>
      have hsame := sameParts_writeCommand d endpoint clusterId attrList
      constructor
      · rw [Device.react, hsame.amt]
        exact hd.1
      · rw [Device.react, hsame.app_switch]
        exact hd.2

/-- The polls of a switch that was started do not start it. -/
theorem along_startsOnce {d : Device} (hd : ¬ d.Unstarted) (es : List ConfigEvent) :
    Along Device.react (fun d e => e.StartsOnce d) d es := by
  induction es generalizing d with
  | nil => trivial
  | cons e es ih =>
      refine ⟨?_, ih (react_started e hd)⟩
      cases e with
      | poll e => exact (startsOnce_iff d e).mpr fun h => hd h.1
      | write endpoint clusterId attrList => trivial

/-- The polls of a switch that was not started do not start it exactly if none of them
finds a toggle or momentary switch. -/
theorem along_startsOnce_iff {d : Device} (hd : d.Unstarted) (es : List ConfigEvent) :
    Along Device.react (fun d e => e.StartsOnce d) d es ↔
      Along Device.react (fun d e => e.NotToggle d) d es := by
  induction es generalizing d with
  | nil => exact Iff.rfl
  | cons e es ih =>
      have hstep : e.StartsOnce d ↔ e.NotToggle d := by
        cases e with
        | poll e =>
            refine (startsOnce_iff d e).trans ⟨fun h htype => h ⟨hd, htype⟩, fun h hboth => ?_⟩
            exact h hboth.2
        | write endpoint clusterId attrList => exact Iff.rfl
      constructor
      · rintro ⟨honce, hrest⟩
        have htype := hstep.mp honce
        exact ⟨htype, (ih (react_unstarted hd htype)).mp hrest⟩
      · rintro ⟨htype, hrest⟩
        exact ⟨hstep.mpr htype, (ih (react_unstarted hd htype)).mpr hrest⟩

/-- Behind {lit}`user_init` and the first poll, over every run of polls and writes of any
records: no poll starts the switch again, and the status and the relay change only where
the debounce counter reaches an end, exactly when the first poll found a toggle or
momentary switch, or no later poll finds one.  A model without a relay is never polled. -/
theorem first_start_once_iff (input : BootInput) (start : Device)
    (hinit : userInit input = some start) (first : Sample × Poll) (es : List ConfigEvent) :
    Along Device.react (fun d e => e.StartsOnce d) (start.poll first) es ↔
      input.model = DEVICE_SWITCH_NONE ∨ start.relay_settings.IsToggle ∨
        Along Device.react (fun d e => e.NotToggle d) (start.poll first) es := by
  have hboot := userInit_spec hinit
  rcases hboot.relay with hwaits | hdormant
  · have hmodel : input.model ≠ DEVICE_SWITCH_NONE := hboot.enabled_iff.mp hwaits.enabled
    have hstart : start.Unstarted := by
      refine ⟨?_, hwaits.status⟩
      rw [hwaits.amt]
      exact Nat.one_pos
    rw [or_iff_right hmodel]
    by_cases htype : start.relay_settings.IsToggle
    · refine iff_of_true (along_startsOnce ?_ es) (Or.inl htype)
      exact fun h => poll_toggle_not_float htype h.1 h.2
    · rw [or_iff_right htype]
      have hfirst : (start.poll first).Unstarted := react_unstarted (e := .poll first) hstart htype
      exact along_startsOnce_iff hfirst es
  · have hmodel : input.model = DEVICE_SWITCH_NONE := by
      by_contra hne
      have hen := hboot.enabled_iff.mpr hne
      rw [hdormant.disabled] at hen
      cases hen
    have hstarted : ¬ start.Unstarted := by
      rintro ⟨hamt, -⟩
      rw [hdormant.amt] at hamt
      exact Nat.lt_irrefl 0 hamt
    exact iff_of_true (along_startsOnce (react_started (.poll first) hstarted) es) (Or.inl hmodel)

/-! ## Two boots -/

/-- The switch type becomes {lit}`TOGGLE`. -/
def toggleFrame : ConfigFrame where
  clusterId := ZCL_CLUSTER_GEN_ON_OFF_SWITCH_CONFIG
  attrList := [byteRec CUSTOM_ATTRID_SWITCH_TYPE ZCL_DATA_TYPE_ENUM8 ZCL_SWITCH_TYPE_TOGGLE]
  accepted := by decide
  inRange := by decide

/-- A momentary switch that becomes a toggle switch is started by its first poll only. -/
theorem first_start_once_momentary :
    ∃ start, userInit (modelBoot modelChip momentaryOn) = some start ∧
      Along Device.react (fun d e => e.StartsOnce d)
        (start.poll (⟨true, 0⟩, ⟨true, false, 0, 0, 0, 0⟩))
        [.write APP_ENDPOINT1 toggleFrame.clusterId toggleFrame.attrList,
          .poll (⟨true, 0⟩, ⟨true, false, 0, 0, 0, 0⟩)] := by
  rcases exists_modelBoot (model_modelChip momentaryOn) with ⟨start, -, hinit, -⟩
  have hsettings : start.relay_settings = momentaryOn := (userInit_spec hinit).settings
  refine ⟨start, hinit, (first_start_once_iff _ start hinit _ _).mpr (Or.inr (Or.inl ?_))⟩
  rw [hsettings]
  exact Or.inr rfl

/-- A poll that starts the switch does not move the debounce counter. -/
theorem debounce_unstarted {d : Device} (hd : d.Unstarted) (htype : d.relay_settings.IsToggle)
    (e : Sample × Poll) : ¬ Reaches d.app_switch (d.poll e).app_switch := by
  have hdebounce : (d.poll e).app_switch.debounce = d.app_switch.debounce := by
    rw [poll_app_switch, polled_of_toggle htype hd.1]
    show (toggleStep d.app_switch ⟨_, _, _⟩).debounce = _
    rw [toggleStep_eq, (toggleEnd_frame _ _).2.1, toggleBody_float _ hd.2]
  rintro (⟨hne, heq⟩ | ⟨hne, heq⟩)
  · exact hne (hdebounce.symm.trans heq)
  · exact hne (hdebounce.symm.trans heq)

/-- The poll that starts the switch gives the relay the command of the policy. -/
theorem lastDriven_unstarted {d : Device} (hd : d.Unstarted) (hen : d.device.device_en = true)
    (htype : d.relay_settings.IsToggle) (e : Sample × Poll) :
    LastDriven (d.poll e)
      (d.device.relayLevel (policyValue d.relay_settings.startUpOnOff d.status)) := by
  rcases calls_unstarted hd htype e with ⟨endCalls, hcalls, hend⟩
  rw [Device.poll, switchHandler_calls, hcalls, List.foldl_cons, LastDriven,
    (undriven_switchCalls _ hend).relays]
  show LastDriven (checkFirstStart _) _
  rw [checkFirstStart_eq]
  exact lastDriven_relayCommand _ hen

/-- The frame leaves the relay alone. -/
theorem toggleFrame_quiet (d : Device) : (d.writeFrame toggleFrame).relayState = d.relayState := by
  have hkeeps : ∀ s, ¬ TurnsOff s (.switchType ZCL_SWITCH_TYPE_TOGGLE) := by
    rintro s ⟨-, hmulti⟩
    exact absurd hmulti (by decide)
  have hsettings : settingsOf toggleFrame.clusterId toggleFrame.attrList =
      [.switchType ZCL_SWITCH_TYPE_TOGGLE] := rfl
  rw [Device.writeFrame, writeCommand, appZclWriteReqCmd_eq, hsettings]
  split
  · exact (handle_quiet (hkeeps _)).2.2
  · rfl

/-- A multifunction switch that is to power on stays off until it becomes a toggle switch.
The poll behind the write then switches it on. -/
theorem first_start_by_write :
    ∃ start, userInit (modelBoot modelChip multifunctionOn) = some start ∧ ∀ first e,
      LastDriven ((start.poll first).writeFrame toggleFrame) start.device.relayOff ∧
      LastDriven (((start.poll first).writeFrame toggleFrame).poll e) start.device.relayOn ∧
      ¬ Reaches ((start.poll first).writeFrame toggleFrame).app_switch
        (((start.poll first).writeFrame toggleFrame).poll e).app_switch := by
  rcases exists_modelBoot (model_modelChip multifunctionOn) with ⟨start, -, hinit, -⟩
  have hboot := userInit_spec hinit
  have hsettings : start.relay_settings = multifunctionOn := hboot.settings
  have hen : start.device.device_en = true := by
    rw [hboot.enabled_iff, model_modelChip]
    decide
  have hmulti : ¬ start.relay_settings.IsToggle := by
    rw [hsettings]
    decide
  have hwaits : WaitsForPoll start := by
    rcases hboot.relay with h | h
    · exact h
    · rw [h.disabled] at hen
      cases hen
  have hstart : start.Unstarted := by
    refine ⟨?_, hwaits.status⟩
    rw [hwaits.amt]
    exact Nat.one_pos
  refine ⟨start, hinit, fun first e => ?_⟩
  have hpolled : Undriven start (start.poll first) :=
    undriven_of_calls fun _ hcall => not_drives_of_not_toggle hmulti hcall
  have hrelay := toggleFrame_quiet (start.poll first)
  have hdevice := (sameParts_writeFrame (start.poll first) toggleFrame).device
  rcases writeFrame_settings (start.poll first) toggleFrame with ⟨crc, hwritten⟩
  have hsame : (start.poll first).relay_settings = multifunctionOn :=
    (poll_settings start first).trans hsettings
  have hfirst : (start.poll first).Unstarted := react_unstarted (e := .poll first) hstart hmulti
  generalize hd : (start.poll first).writeFrame toggleFrame = d at *
  rw [hsame] at hwritten
  have htoggle : d.relay_settings.IsToggle := by
    rw [hwritten]
    exact Or.inl rfl
  have hunstarted : d.Unstarted := by
    rw [← hd]
    exact react_unstarted (e := .write _ _ _) hfirst trivial
  have hdevice' : d.device = start.device := hdevice.trans hpolled.device
  have hlast := lastDriven_unstarted hunstarted (by rw [hdevice']; exact hen) htoggle e
  refine ⟨?_, ?_, debounce_unstarted hunstarted htoggle e⟩
  · rw [LastDriven]
    refine hrelay.trans ?_
    rw [Device.relayState, hpolled.relays, hwaits.relays]
    rfl
  · rw [hwritten, hdevice'] at hlast
    exact hlast

end Firmware
