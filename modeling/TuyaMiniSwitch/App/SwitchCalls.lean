import TuyaMiniSwitch.App.PowerOnPolicy
import TuyaMiniSwitch.App.SwitchAlive

/-!
# Application - Calls of the wall switch

What a poll of the wall switch does outside {lit}`app_switch` is a list of calls.  Some
of them command the relay, some send a message, and the others do neither.

Main results:

- Theorem {lit}`switchHandler_calls`: a poll is its calls.
- Theorem {lit}`toggleCall_of_mem`: what a toggle or momentary switch calls, and when.
- Theorem {lit}`not_drives_of_not_toggle`: the other switches do not command the relay.
-/

namespace Firmware

open Utility OnOffLog

/-! ## Kinds of calls -/

/-- The call commands the relay. -/
def SwitchCall.Drives : SwitchCall → Prop
  | .firstStart | .cmdOnOffOn | .cmdOnOffOff | .cmdOnOffToggle => True
  | _ => False

/-- The call sends an on/off, level or multistate message. -/
def SwitchCall.Sends : SwitchCall → Prop
  | .remoteCmdOnOff _ | .msInputReport _ | .appMoveToLevel _ | .appLevelStop => True
  | _ => False

/-- The switch drives the relay: it is a toggle or momentary switch. -/
def RelaySettings.IsToggle (s : RelaySettings) : Prop :=
  s.switchType = ZCL_SWITCH_TYPE_TOGGLE ∨ s.switchType = ZCL_SWITCH_TYPE_MOMENTARY

instance (s : RelaySettings) : Decidable s.IsToggle := inferInstanceAs (Decidable (_ ∨ _))

/-! ## The calls of a poll -/

/-- The contact as the firmware reads it. -/
def Device.contact (d : Device) (sample : Sample) : Bool :=
  switchGpioRead d.device_switch_model sample

/-- {lit}`app_switch` behind a poll. -/
def Device.polled (d : Device) (sample : Sample) (poll : Poll) : AppSwitch :=
  if 0 < d.dev_relay_amt then
    (readSwitch d.relay_settings d.app_switch (d.contact sample) poll).1
  else d.app_switch

/-- The calls of a poll. -/
def Device.calls (d : Device) (sample : Sample) (poll : Poll) : List SwitchCall :=
  if 0 < d.dev_relay_amt then
    (readSwitch d.relay_settings d.app_switch (d.contact sample) poll).2
  else []

/-- A poll is its calls. -/
theorem switchHandler_calls (d : Device) (sample : Sample) (poll : Poll) :
    switchHandler d sample poll =
      (d.calls sample poll).foldl Device.switchCall
        { d with app_switch := d.polled sample poll } := by
  unfold switchHandler Device.calls Device.polled
  split
  · rfl
  · rfl

/-- What no call changes. -/
structure SameSwitch (d d' : Device) : Prop where
  app_switch : d'.app_switch = d.app_switch
  settings : d'.relay_settings = d.relay_settings
  amt : d'.dev_relay_amt = d.dev_relay_amt
  model : d'.device_switch_model = d.device_switch_model

theorem sameSwitch_relayCommand (d : Device) (v : UInt8) : SameSwitch d (relayCommand d v) := by
  have hparts := sameParts_relayCommand d v
  exact ⟨hparts.app_switch, relayCommand_settings d v, hparts.amt, hparts.model⟩

theorem sameSwitch_switchCall (d : Device) (call : SwitchCall) :
    SameSwitch d (d.switchCall call) := by
  cases call with
  | firstStart =>
      show SameSwitch d (checkFirstStart d)
      rw [checkFirstStart_eq]
      exact sameSwitch_relayCommand d _
  | cmdOnOffOn => exact sameSwitch_relayCommand d _
  | cmdOnOffOff => exact sameSwitch_relayCommand d _
  | cmdOnOffToggle =>
      show SameSwitch d (cmdOnOffToggle d)
      rw [cmdOnOffToggle_eq]
      exact sameSwitch_relayCommand d _
  | _ => exact ⟨rfl, rfl, rfl, rfl⟩

theorem sameSwitch_switchCalls (d : Device) (calls : List SwitchCall) :
    SameSwitch d (calls.foldl Device.switchCall d) := by
  induction calls generalizing d with
  | nil => exact ⟨rfl, rfl, rfl, rfl⟩
  | cons call calls ih =>
      have hfirst := sameSwitch_switchCall d call
      have hrest := ih (d.switchCall call)
      exact ⟨hrest.app_switch.trans hfirst.app_switch, hrest.settings.trans hfirst.settings,
        hrest.amt.trans hfirst.amt, hrest.model.trans hfirst.model⟩

/-- A poll changes {lit}`app_switch` and neither the settings nor the model. -/
theorem sameSwitch_switchHandler (d : Device) (sample : Sample) (poll : Poll) :
    SameSwitch { d with app_switch := d.polled sample poll } (switchHandler d sample poll) := by
  rw [switchHandler_calls]
  exact sameSwitch_switchCalls _ _

/-! ## Toggle and momentary switches -/

/-- What {lit}`read_switch_toggle` can call. -/
inductive ToggleCall (relay_settings : RelaySettings) (p_switch : AppSwitch) (contact : Bool)
    (poll : Poll) : SwitchCall → Prop
  | firstStart (hfloat : p_switch.status = .SWITCH_FLOAT) :
      ToggleCall relay_settings p_switch contact poll .firstStart
  | press (hdebounce : p_switch.debounce ≠ DEBOUNCE_SWITCH)
      (hreaches : (readSwitchToggle relay_settings p_switch contact poll).1.debounce =
        DEBOUNCE_SWITCH) :
      ToggleCall relay_settings p_switch contact poll (pressCommand relay_settings)
  | release {call : SwitchCall} (hdebounce : p_switch.debounce ≠ 1)
      (hreaches : (readSwitchToggle relay_settings p_switch contact poll).1.debounce = 1)
      (hcall : call ∈ releaseCommands relay_settings) :
      ToggleCall relay_settings p_switch contact poll call
  | rejoin : ToggleCall relay_settings p_switch contact poll .zbRejoinReq
  | reset : ToggleCall relay_settings p_switch contact poll .switchFactoryResetStart

theorem mem_rejoinCalls {p_switch : AppSwitch} {debounce : Nat} {poll : Poll}
    {call : SwitchCall} (hcall : call ∈ rejoinCalls p_switch debounce poll) :
    call = .zbRejoinReq := by
  unfold rejoinCalls at hcall
  split at hcall
  · exact List.mem_singleton.mp hcall
  · cases hcall

theorem mem_toggleEnd {p_switch : AppSwitch} {poll : Poll} {call : SwitchCall}
    (hcall : call ∈ (toggleEnd p_switch poll).2) : call = .switchFactoryResetStart := by
  unfold toggleEnd at hcall
  split at hcall
  · dsimp only at hcall
    split at hcall
    · exact List.mem_singleton.mp hcall
    · cases hcall
  · cases hcall

theorem mem_toggleClosed {relay_settings : RelaySettings} {p_switch : AppSwitch} {poll : Poll}
    {call : SwitchCall} (hcall : call ∈ (toggleClosed relay_settings p_switch poll).2) :
    (p_switch.status = .SWITCH_FLOAT ∧ call = .firstStart) ∨ call = .zbRejoinReq ∨
      (p_switch.debounce ≠ DEBOUNCE_SWITCH ∧
        (toggleClosed relay_settings p_switch poll).1.debounce = DEBOUNCE_SWITCH ∧
        call = pressCommand relay_settings) := by
  unfold toggleClosed at hcall ⊢
  split at hcall
  · rename_i hfloat
    exact Or.inl ⟨hfloat, List.mem_singleton.mp hcall⟩
  · rename_i hfloat
    rw [if_neg hfloat]
    split at hcall
    · rename_i hdebounce
      rw [if_pos hdebounce]
      dsimp only at hcall ⊢
      split at hcall
      · rename_i hpress
        rw [if_pos hpress]
        split at hcall
        · rename_i hcounter
          rw [if_pos hcounter]
          rcases List.mem_append.mp hcall with hrejoin | hcommand
          · exact Or.inr (Or.inl (mem_rejoinCalls hrejoin))
          · exact Or.inr (Or.inr ⟨hdebounce, hpress.1, List.mem_singleton.mp hcommand⟩)
        · split at hcall
          · exact Or.inr (Or.inl (mem_rejoinCalls hcall))
          · exact Or.inr (Or.inl (mem_rejoinCalls hcall))
      · exact Or.inr (Or.inl (mem_rejoinCalls hcall))
    · cases hcall

theorem mem_toggleOpen {relay_settings : RelaySettings} {p_switch : AppSwitch} {poll : Poll}
    {call : SwitchCall} (hcall : call ∈ (toggleOpen relay_settings p_switch poll).2) :
    (p_switch.status = .SWITCH_FLOAT ∧ call = .firstStart) ∨ call = .zbRejoinReq ∨
      (p_switch.debounce ≠ 1 ∧ (toggleOpen relay_settings p_switch poll).1.debounce = 1 ∧
        call ∈ releaseCommands relay_settings) := by
  unfold toggleOpen at hcall ⊢
  split at hcall
  · rename_i hfloat
    exact Or.inl ⟨hfloat, List.mem_singleton.mp hcall⟩
  · rename_i hfloat
    rw [if_neg hfloat]
    split at hcall
    · rename_i hdebounce
      rw [if_pos hdebounce]
      dsimp only at hcall ⊢
      split at hcall
      · rename_i hopen
        rw [if_pos hopen]
        split at hcall
        · rename_i hsingle
          rw [if_pos hsingle]
          rcases List.mem_append.mp hcall with hrejoin | hcommand
          · exact Or.inr (Or.inl (mem_rejoinCalls hrejoin))
          · exact Or.inr (Or.inr ⟨hdebounce, hopen.1, hcommand⟩)
        · exact Or.inr (Or.inl (mem_rejoinCalls hcall))
      · exact Or.inr (Or.inl (mem_rejoinCalls hcall))
    · cases hcall

/-- What a toggle or momentary switch calls, and when. -/
theorem toggleCall_of_mem {relay_settings : RelaySettings} {p_switch : AppSwitch}
    {contact : Bool} {poll : Poll} {call : SwitchCall}
    (hcall : call ∈ (readSwitchToggle relay_settings p_switch contact poll).2) :
    ToggleCall relay_settings p_switch contact poll call := by
  have hframe : ∀ s : AppSwitch × List SwitchCall,
      (toggleEnd s.1 poll).1.debounce = s.1.debounce := fun s => (toggleEnd_frame s.1 poll).2.1
  cases contact with
  | false =>
      rcases List.mem_append.mp hcall with hbody | hend
      · rcases mem_toggleClosed hbody with ⟨hfloat, rfl⟩ | rfl | ⟨hdebounce, hreaches, rfl⟩
        · exact .firstStart hfloat
        · exact .rejoin
        · exact .press hdebounce ((hframe _).trans hreaches)
      · rw [mem_toggleEnd hend]
        exact .reset
  | true =>
      rcases List.mem_append.mp hcall with hbody | hend
      · rcases mem_toggleOpen hbody with ⟨hfloat, rfl⟩ | rfl | ⟨hdebounce, hreaches, hrelease⟩
        · exact .firstStart hfloat
        · exact .rejoin
        · exact .release hdebounce ((hframe _).trans hreaches) hrelease
      · rw [mem_toggleEnd hend]
        exact .reset

/-- The call commands the relay if the switch is coupled, and sends a message if it is not.
It does not start the switch. -/
structure CallKind (decoupled : UInt8) (call : SwitchCall) : Prop where
  drives : call.Drives ↔ decoupled = CUSTOM_SWITCH_DECOUPLED_OFF
  sends : call.Sends ↔ decoupled ≠ CUSTOM_SWITCH_DECOUPLED_OFF
  started : call ≠ .firstStart

theorem callKind_coupled {decoupled : UInt8} {call : SwitchCall}
    (hcoupled : decoupled = CUSTOM_SWITCH_DECOUPLED_OFF) (hdrives : call.Drives)
    (hsends : ¬ call.Sends) (hstarted : call ≠ .firstStart) : CallKind decoupled call :=
  ⟨iff_of_true hdrives hcoupled, iff_of_false hsends fun hne => hne hcoupled, hstarted⟩

theorem callKind_decoupled {decoupled : UInt8} {call : SwitchCall}
    (hdecoupled : decoupled ≠ CUSTOM_SWITCH_DECOUPLED_OFF) (hdrives : ¬ call.Drives)
    (hsends : call.Sends) : CallKind decoupled call := by
  refine ⟨iff_of_false hdrives hdecoupled, iff_of_true hsends hdecoupled, ?_⟩
  rintro rfl
  exact hsends

/-- A press commands the relay or sends a message, depending on whether the switch is
decoupled. -/
theorem pressCommand_kind (relay_settings : RelaySettings) :
    CallKind relay_settings.switch_decoupled (pressCommand relay_settings) := by
  unfold pressCommand
  by_cases hcoupled : relay_settings.switch_decoupled = CUSTOM_SWITCH_DECOUPLED_OFF
  · simp only [if_pos hcoupled]
    split
    · split
      · exact callKind_coupled hcoupled trivial id SwitchCall.noConfusion
      · exact callKind_coupled hcoupled trivial id SwitchCall.noConfusion
    · exact callKind_coupled hcoupled trivial id SwitchCall.noConfusion
  · simp only [if_neg hcoupled]
    split
    · split
      · exact callKind_decoupled hcoupled id trivial
      · exact callKind_decoupled hcoupled id trivial
    · exact callKind_decoupled hcoupled id trivial

/-- So does a release. -/
theorem releaseCommands_kind {relay_settings : RelaySettings} {call : SwitchCall}
    (hcall : call ∈ releaseCommands relay_settings) :
    CallKind relay_settings.switch_decoupled call := by
  unfold releaseCommands at hcall
  by_cases hcoupled : relay_settings.switch_decoupled = CUSTOM_SWITCH_DECOUPLED_OFF
  · simp only [if_pos hcoupled] at hcall
    split at hcall
    · split at hcall
      · rw [List.mem_singleton.mp hcall]
        exact callKind_coupled hcoupled trivial id SwitchCall.noConfusion
      · rw [List.mem_singleton.mp hcall]
        exact callKind_coupled hcoupled trivial id SwitchCall.noConfusion
    · cases hcall
  · simp only [if_neg hcoupled] at hcall
    split at hcall
    · split at hcall
      · rw [List.mem_singleton.mp hcall]
        exact callKind_decoupled hcoupled id trivial
      · rw [List.mem_singleton.mp hcall]
        exact callKind_decoupled hcoupled id trivial
    · cases hcall

/-! ## The other switches -/

theorem mem_holdCalls {held : AppSwitch → AppSwitch × List SwitchCall} {p_switch : AppSwitch}
    {poll : Poll} {call : SwitchCall} (hcall : call ∈ (holdCalls held p_switch poll).2) :
    ∃ p_switch, call ∈ (held p_switch).2 := by
  unfold holdCalls at hcall
  split at hcall
  · exact ⟨_, hcall⟩
  · cases hcall

theorem mem_heldClosed {held : AppSwitch → AppSwitch × List SwitchCall} {p_switch : AppSwitch}
    {poll : Poll} {call : SwitchCall} (hcall : call ∈ (heldClosed held p_switch poll).2) :
    call = .zbRejoinReq ∨ ∃ p_switch, call ∈ (held p_switch).2 := by
  unfold heldClosed at hcall
  dsimp only at hcall
  split at hcall
  · split at hcall
    · rcases List.mem_append.mp hcall with hhold | hrejoin
      · exact Or.inr (mem_holdCalls hhold)
      · exact Or.inl (mem_rejoinCalls hrejoin)
    · rcases List.mem_append.mp hcall with hhold | hrejoin
      · exact Or.inr (mem_holdCalls hhold)
      · exact Or.inl (mem_rejoinCalls hrejoin)
  · exact Or.inr (mem_holdCalls hcall)

theorem mem_heldOpen {p_switch : AppSwitch} {poll : Poll} {call : SwitchCall}
    (hcall : call ∈ (heldOpen p_switch poll).2) : call = .zbRejoinReq := by
  unfold heldOpen at hcall
  split at hcall
  · dsimp only at hcall
    split at hcall
    · exact mem_rejoinCalls hcall
    · exact mem_rejoinCalls hcall
  · cases hcall

/-- What a switch calls that tells presses from holds. -/
theorem mem_readSwitchHeld {held : AppSwitch → AppSwitch × List SwitchCall}
    {finished : AppSwitch → List SwitchCall} {p_switch : AppSwitch} {contact : Bool}
    {poll : Poll} {call : SwitchCall}
    (hcall : call ∈ (readSwitchHeld held finished p_switch contact poll).2) :
    call = .zbRejoinReq ∨ (∃ p_switch, call ∈ (held p_switch).2) ∨
      ∃ p_switch, call ∈ finished p_switch := by
  have hbody : ∀ call ∈ (if contact = false then heldClosed held p_switch poll
      else heldOpen p_switch poll).2,
      call = .zbRejoinReq ∨ ∃ p_switch, call ∈ (held p_switch).2 := by
    intro call hcall
    split at hcall
    · exact mem_heldClosed hcall
    · exact Or.inl (mem_heldOpen hcall)
  unfold readSwitchHeld at hcall
  generalize (if contact = false then heldClosed held p_switch poll
    else heldOpen p_switch poll) = body at hcall hbody
  dsimp only at hcall
  have hmem : call ∈ body.2 ∨ ∃ p_switch, call ∈ finished p_switch := by
    split at hcall
    · rcases List.mem_append.mp hcall with h | h
      · exact Or.inl h
      · exact Or.inr ⟨_, h⟩
    · exact Or.inl hcall
  rcases hmem with h | h
  · rcases hbody call h with hrejoin | hhold
    · exact Or.inl hrejoin
    · exact Or.inr (Or.inl hhold)
  · exact Or.inr (Or.inr h)

theorem not_drives_multifunction {p_switch : AppSwitch} {contact : Bool} {poll : Poll}
    {call : SwitchCall} (hcall : call ∈ (readSwitchMultifunction p_switch contact poll).2) :
    ¬ call.Drives := by
  rcases mem_readSwitchHeld hcall with rfl | ⟨p_switch', h⟩ | ⟨p_switch', h⟩
  · exact id
  · rw [List.mem_singleton.mp h]
    exact id
  · unfold multifunctionFinished at h
    split at h
    · rw [List.mem_singleton.mp h]
      exact id
    · split at h
      · rw [List.mem_singleton.mp h]
        exact id
      · split at h
        · rw [List.mem_singleton.mp h]
          exact id
        · split at h
          · rw [List.mem_singleton.mp h]
            exact id
          · cases h

theorem not_drives_lightControl {p_switch : AppSwitch} {contact : Bool} {poll : Poll}
    {call : SwitchCall} (hcall : call ∈ (readSwitchLightControl p_switch contact poll).2) :
    ¬ call.Drives := by
  rcases mem_readSwitchHeld hcall with rfl | ⟨p_switch', h⟩ | ⟨p_switch', h⟩
  · exact id
  · unfold lightControlHeld at h
    split at h
    · rw [List.mem_singleton.mp h]
      exact id
    · rw [List.mem_singleton.mp h]
      exact id
  · unfold lightControlFinished at h
    split at h
    · rw [List.mem_singleton.mp h]
      exact id
    · split at h
      · rw [List.mem_singleton.mp h]
        exact id
      · split at h
        · rw [List.mem_singleton.mp h]
          exact id
        · cases h

/-! ## The calls of the device -/

/-- A device without a relay is not polled. -/
theorem amt_of_calls {d : Device} {sample : Sample} {poll : Poll} {call : SwitchCall}
    (hcall : call ∈ d.calls sample poll) : 0 < d.dev_relay_amt := by
  by_contra hnone
  rw [Device.calls, if_neg hnone] at hcall
  cases hcall

theorem calls_of_toggle {d : Device} (htype : d.relay_settings.IsToggle)
    (hamt : 0 < d.dev_relay_amt) (sample : Sample) (poll : Poll) :
    d.calls sample poll =
      (readSwitchToggle d.relay_settings d.app_switch (d.contact sample) poll).2 := by
  unfold RelaySettings.IsToggle at htype
  rw [Device.calls, if_pos hamt, readSwitch, if_pos htype]

theorem polled_of_toggle {d : Device} (htype : d.relay_settings.IsToggle)
    (hamt : 0 < d.dev_relay_amt) (sample : Sample) (poll : Poll) :
    d.polled sample poll =
      (readSwitchToggle d.relay_settings d.app_switch (d.contact sample) poll).1 := by
  unfold RelaySettings.IsToggle at htype
  rw [Device.polled, if_pos hamt, readSwitch, if_pos htype]

/-- Only toggle and momentary switches command the relay. -/
theorem not_drives_of_not_toggle {d : Device} (htype : ¬ d.relay_settings.IsToggle)
    {sample : Sample} {poll : Poll} {call : SwitchCall} (hcall : call ∈ d.calls sample poll) :
    ¬ call.Drives := by
  unfold RelaySettings.IsToggle at htype
  unfold Device.calls readSwitch at hcall
  rw [if_neg htype] at hcall
  split at hcall
  · split at hcall
    · exact not_drives_multifunction hcall
    · split at hcall
      · exact not_drives_lightControl hcall
      · cases hcall
  · cases hcall

/-- A poll reaches a debounced press or a debounced release. -/
def Reaches (p_switch p_switch' : AppSwitch) : Prop :=
  (p_switch.debounce ≠ DEBOUNCE_SWITCH ∧ p_switch'.debounce = DEBOUNCE_SWITCH) ∨
    (p_switch.debounce ≠ 1 ∧ p_switch'.debounce = 1)

/-- When a call commands the relay: the switch is a toggle or momentary switch, and it is
the first poll, or the switch is coupled and the debounce counter reaches an end. -/
theorem drives_calls {d : Device} {sample : Sample} {poll : Poll} {call : SwitchCall}
    (hcall : call ∈ d.calls sample poll) (hdrives : call.Drives) :
    d.relay_settings.IsToggle ∧
      (d.app_switch.status = .SWITCH_FLOAT ∧ call = .firstStart ∨
        d.relay_settings.switch_decoupled = CUSTOM_SWITCH_DECOUPLED_OFF ∧
          Reaches d.app_switch (d.polled sample poll)) := by
  have htype : d.relay_settings.IsToggle := by
    by_contra htype
    exact not_drives_of_not_toggle htype hcall hdrives
  have hamt := amt_of_calls hcall
  refine ⟨htype, ?_⟩
  rw [calls_of_toggle htype hamt] at hcall
  rw [polled_of_toggle htype hamt]
  cases toggleCall_of_mem hcall with
  | firstStart hfloat => exact Or.inl ⟨hfloat, rfl⟩
  | press hdebounce hreaches =>
      exact Or.inr ⟨(pressCommand_kind _).drives.mp hdrives, Or.inl ⟨hdebounce, hreaches⟩⟩
  | release hdebounce hreaches hrelease =>
      exact Or.inr ⟨(releaseCommands_kind hrelease).drives.mp hdrives, Or.inr ⟨hdebounce, hreaches⟩⟩
  | rejoin => exact hdrives.elim
  | reset => exact hdrives.elim

/-- Only a switch that was not started calls {lit}`switch_first_start`. -/
theorem float_of_firstStart {d : Device} {sample : Sample} {poll : Poll}
    (hcall : SwitchCall.firstStart ∈ d.calls sample poll) :
    0 < d.dev_relay_amt ∧ d.app_switch.status = .SWITCH_FLOAT := by
  have hamt := amt_of_calls hcall
  have htype := (drives_calls hcall trivial).1
  refine ⟨hamt, ?_⟩
  rw [calls_of_toggle htype hamt] at hcall
  generalize hfirst : SwitchCall.firstStart = call at hcall
  cases toggleCall_of_mem hcall with
  | firstStart hfloat => exact hfloat
  | press hdebounce hreaches => exact absurd hfirst.symm (pressCommand_kind _).started
  | release hdebounce hreaches hmem => exact absurd hfirst.symm (releaseCommands_kind hmem).started
  | rejoin => cases hfirst
  | reset => cases hfirst

/-- A coupled toggle or momentary switch sends no message. -/
theorem not_sends_calls {d : Device} {sample : Sample} {poll : Poll} {call : SwitchCall}
    (htype : d.relay_settings.IsToggle)
    (hcoupled : d.relay_settings.switch_decoupled = CUSTOM_SWITCH_DECOUPLED_OFF)
    (hcall : call ∈ d.calls sample poll) : ¬ call.Sends := by
  have hamt := amt_of_calls hcall
  rw [calls_of_toggle htype hamt] at hcall
  intro hsends
  cases toggleCall_of_mem hcall with
  | firstStart hfloat => exact hsends
  | press hdebounce hreaches => exact (pressCommand_kind _).sends.mp hsends hcoupled
  | release hdebounce hreaches hrelease =>
      exact (releaseCommands_kind hrelease).sends.mp hsends hcoupled
  | rejoin => exact hsends
  | reset => exact hsends

/-! ## The status of the switch -/

theorem toggle_not_float (relay_settings : RelaySettings) (p_switch : AppSwitch)
    (contact : Bool) (poll : Poll) :
    (readSwitchToggle relay_settings p_switch contact poll).1.status ≠ .SWITCH_FLOAT := by
  show (toggleStep p_switch ⟨relay_settings, contact, poll⟩).status ≠ .SWITCH_FLOAT
  rw [toggleStep_eq, (toggleEnd_frame _ _).1]
  by_cases hfloat : p_switch.status = .SWITCH_FLOAT
  · rw [toggleBody_float _ hfloat]
    dsimp only
    split
    · decide
    · decide
  · cases contact with
    | false =>
        rcases toggleBody_closed (e := ⟨relay_settings, false, poll⟩) rfl hfloat with
          ⟨-, h⟩ | ⟨-, -, h⟩ | ⟨-, -, counter, h⟩
        · rw [h]
          exact hfloat
        · rw [h]
          exact hfloat
        · rw [h]
          exact SwitchStatus.noConfusion
    | true =>
        rcases toggleBody_open (e := ⟨relay_settings, true, poll⟩) rfl hfloat with
          ⟨-, h⟩ | ⟨-, -, h⟩ | ⟨-, -, -, h⟩
        · rw [h]
          exact hfloat
        · rw [h]
          exact hfloat
        · rw [h]
          exact SwitchStatus.noConfusion

/-- The other switches leave the status alone. -/
theorem readSwitchHeld_status {held : AppSwitch → AppSwitch × List SwitchCall}
    (finished : AppSwitch → List SwitchCall) (p_switch : AppSwitch) (contact : Bool) (poll : Poll)
    (hheld : ∀ p_switch, (held p_switch).1.status = p_switch.status) :
    (readSwitchHeld held finished p_switch contact poll).1.status = p_switch.status := by
  have hhold : (holdCalls held p_switch poll).1.status = p_switch.status := by
    unfold holdCalls
    split
    · exact hheld _
    · rfl
  have hclosed : (heldClosed held p_switch poll).1.status = p_switch.status := by
    unfold heldClosed
    dsimp only
    split
    · split
      · show (if _ then _ else _ : AppSwitch).status = _
        split
        · exact hhold
        · exact hhold
      · exact hhold
    · exact hhold
  have hopen : (heldOpen p_switch poll).1.status = p_switch.status := by
    unfold heldOpen
    split
    · dsimp only
      split
      · rfl
      · rfl
    · rfl
  have hbody : (if contact = false then heldClosed held p_switch poll
      else heldOpen p_switch poll).1.status = p_switch.status := by
    split
    · exact hclosed
    · exact hopen
  unfold readSwitchHeld
  generalize (if contact = false then heldClosed held p_switch poll
    else heldOpen p_switch poll) = body at hbody
  dsimp only
  split
  · exact hbody
  · exact hbody

theorem readSwitch_status {relay_settings : RelaySettings} (htype : ¬ relay_settings.IsToggle)
    (p_switch : AppSwitch) (contact : Bool) (poll : Poll) :
    (readSwitch relay_settings p_switch contact poll).1.status = p_switch.status := by
  unfold RelaySettings.IsToggle at htype
  unfold readSwitch
  rw [if_neg htype]
  split
  · exact readSwitchHeld_status _ _ _ _ fun _ => rfl
  · split
    · apply readSwitchHeld_status
      intro p_switch
      unfold lightControlHeld
      split
      · rfl
      · rfl
    · rfl

/-- A poll of a switch that does not drive the relay leaves the status alone. -/
theorem polled_status {d : Device} (htype : ¬ d.relay_settings.IsToggle) (sample : Sample)
    (poll : Poll) : (d.polled sample poll).status = d.app_switch.status := by
  unfold Device.polled
  split
  · exact readSwitch_status htype _ _ _
  · rfl

/-- A switch that was started is not started again. -/
theorem polled_not_float {d : Device} (sample : Sample) (poll : Poll)
    (hstatus : d.app_switch.status ≠ .SWITCH_FLOAT) :
    (d.polled sample poll).status ≠ .SWITCH_FLOAT := by
  by_cases htype : d.relay_settings.IsToggle
  · by_cases hamt : 0 < d.dev_relay_amt
    · rw [polled_of_toggle htype hamt]
      exact toggle_not_float _ _ _ _
    · rw [Device.polled, if_neg hamt]
      exact hstatus
  · rw [polled_status htype]
    exact hstatus

end Firmware
