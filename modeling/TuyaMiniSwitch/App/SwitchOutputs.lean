import TuyaMiniSwitch.App.SwitchCalls
import TuyaMiniSwitch.Library.Machine

/-!
# Application - Outputs of the wall switch

A wall switch either drives the relay of the device or sends messages to others.  Which
of the two it does is decided at several places in the poll functions; over a run of
polls the outputs never mix.

Main results:

- Theorem {lit}`undriven_switchHandler`: a switch that is decoupled or of a type that
  does not drive the relay leaves the relay and its copies alone.
- Theorem {lit}`messages_switchHandler`: a coupled one sends no message.
- Theorem {lit}`outputs_never_mix`: both over every run of polls.
-/

namespace Firmware

open Machine OnOffLog

/-- A poll as a step of the firmware. -/
def Device.poll (d : Device) (e : Sample × Poll) : Device := switchHandler d e.1 e.2

section Poll

variable (d : Device) (e : Sample × Poll)

@[simp] theorem poll_app_switch : (d.poll e).app_switch = d.polled e.1 e.2 :=
  (sameSwitch_switchHandler d e.1 e.2).app_switch

@[simp] theorem poll_settings : (d.poll e).relay_settings = d.relay_settings :=
  (sameSwitch_switchHandler d e.1 e.2).settings

@[simp] theorem poll_amt : (d.poll e).dev_relay_amt = d.dev_relay_amt :=
  (sameSwitch_switchHandler d e.1 e.2).amt

@[simp] theorem poll_model : (d.poll e).device_switch_model = d.device_switch_model :=
  (sameSwitch_switchHandler d e.1 e.2).model

end Poll

theorem poll_not_float {d : Device} (e : Sample × Poll)
    (hstatus : d.app_switch.status ≠ .SWITCH_FLOAT) :
    (d.poll e).app_switch.status ≠ .SWITCH_FLOAT := by
  rw [poll_app_switch]
  exact polled_not_float e.1 e.2 hstatus

/-- A poll of a toggle or momentary switch starts it. -/
theorem poll_toggle_not_float {d : Device} {e : Sample × Poll}
    (htype : d.relay_settings.IsToggle) (hamt : 0 < (d.poll e).dev_relay_amt) :
    (d.poll e).app_switch.status ≠ .SWITCH_FLOAT := by
  rw [poll_amt] at hamt
  rw [poll_app_switch, polled_of_toggle htype hamt]
  exact toggle_not_float _ _ _ _

/-! ## The relay -/

/-- The status, the attribute, the relay and the status log are the same. -/
structure Undriven (d d' : Device) : Prop extends Quiet d d' where
  log : d'.log = d.log

theorem Undriven.trans {d d' d'' : Device} (h : Undriven d d') (h' : Undriven d' d'') :
    Undriven d d'' :=
  ⟨⟨h'.device.trans h.device, h'.status.trans h.status, h'.attr.trans h.attr,
    h'.relays.trans h.relays⟩, h'.log.trans h.log⟩

theorem undriven_output (d : Device) {o : Output} (ho : relays [o] = []) :
    Undriven d (d.output o) := ⟨quiet_output d ho, rfl⟩

/-- A call that does not command the relay leaves all of this alone. -/
theorem undriven_switchCall (d : Device) {call : SwitchCall} (hcall : ¬ call.Drives) :
    Undriven d (d.switchCall call) := by
  cases call with
  | firstStart => exact absurd trivial hcall
  | cmdOnOffOn => exact absurd trivial hcall
  | cmdOnOffOff => exact absurd trivial hcall
  | cmdOnOffToggle => exact absurd trivial hcall
  | remoteCmdOnOff command => exact undriven_output d rfl
  | zbRejoinReq => exact undriven_output d rfl
  | switchFactoryResetStart => exact undriven_output d rfl
  | msInputReport value =>
      have hassign : Undriven d { d with attrs := { d.attrs with
          msInput := { d.attrs.msInput with value := value } } } := ⟨⟨rfl, rfl, rfl, rfl⟩, rfl⟩
      exact hassign.trans (undriven_output _ rfl)
  | appMoveToLevel up_down => exact undriven_output d rfl
  | appLevelStop => exact undriven_output d rfl

theorem undriven_switchCalls (d : Device) {calls : List SwitchCall}
    (hcalls : ∀ call ∈ calls, ¬ call.Drives) :
    Undriven d (calls.foldl Device.switchCall d) := by
  induction calls generalizing d with
  | nil => exact ⟨⟨rfl, rfl, rfl, rfl⟩, rfl⟩
  | cons call calls ih =>
      have hfirst := undriven_switchCall d (hcalls call List.mem_cons_self)
      have hrest := ih (d.switchCall call) fun call' h => hcalls call' (List.mem_cons_of_mem _ h)
      exact hfirst.trans hrest

/-- A poll none of whose calls commands the relay. -/
theorem undriven_of_calls {d : Device} {sample : Sample} {poll : Poll}
    (hcalls : ∀ call ∈ d.calls sample poll, ¬ call.Drives) :
    Undriven d (switchHandler d sample poll) := by
  have hassign : Undriven d { d with app_switch := d.polled sample poll } :=
    ⟨⟨rfl, rfl, rfl, rfl⟩, rfl⟩
  rw [switchHandler_calls]
  exact hassign.trans (undriven_switchCalls _ hcalls)

/-- A decoupled switch, or one of a type that does not drive the relay. -/
def NotCoupled (s : RelaySettings) : Prop :=
  s.switch_decoupled ≠ CUSTOM_SWITCH_DECOUPLED_OFF ∨
    s.switchType ≥ ZCL_SWITCH_TYPE_MULTIFUNCTION

theorem undriven_switchHandler {d : Device} (hstatus : d.app_switch.status ≠ .SWITCH_FLOAT)
    (hsettings : NotCoupled d.relay_settings) (sample : Sample) (poll : Poll) :
    Undriven d (switchHandler d sample poll) := by
  apply undriven_of_calls
  intro call hcall hdrives
  rcases drives_calls hcall hdrives with ⟨htype, ⟨hfloat, -⟩ | ⟨hcoupled, -⟩⟩
  · exact hstatus hfloat
  · rcases hsettings with hdecoupled | hmulti
    · exact hdecoupled hcoupled
    · exact absurd ((lt_multifunction_iff _).mpr htype) (UInt8.not_lt.mpr hmulti)

/-! ## Messages -/

/-- The output is an on/off, level or multistate message. -/
def Output.isMessage : Output → Bool
  | .remoteCmdOnOff _ | .appMoveToLevel _ | .appLevelStop | .appForcedReport _ => true
  | _ => false

/-- The messages among the outputs. -/
def messages (outputs : List Output) : List Output := outputs.filter Output.isMessage

theorem messages_output (d : Device) {o : Output} (ho : o.isMessage = false) :
    messages (d.output o).outputs = messages d.outputs := by
  have hnone : [o].filter Output.isMessage = [] := by
    rw [List.filter_cons, ho]
    rfl
  rw [messages, Device.output, List.filter_append, hnone, List.append_nil]
  rfl

theorem messages_relayCommand (d : Device) (v : UInt8) :
    messages (relayCommand d v).outputs = messages d.outputs := by
  unfold relayCommand setRelayStatus
  split
  · rw [messages_output _ rfl, commitStatus_outputs]
  · rw [commitStatus_outputs]

/-- A call that sends no message. -/
theorem messages_switchCall (d : Device) {call : SwitchCall} (hcall : ¬ call.Sends) :
    messages (d.switchCall call).outputs = messages d.outputs := by
  cases call with
  | firstStart =>
      show messages (checkFirstStart d).outputs = _
      rw [checkFirstStart_eq]
      exact messages_relayCommand d _
  | cmdOnOffOn => exact messages_relayCommand d _
  | cmdOnOffOff => exact messages_relayCommand d _
  | cmdOnOffToggle =>
      show messages (cmdOnOffToggle d).outputs = _
      rw [cmdOnOffToggle_eq]
      exact messages_relayCommand d _
  | remoteCmdOnOff command => exact absurd trivial hcall
  | zbRejoinReq => exact messages_output d rfl
  | switchFactoryResetStart => exact messages_output d rfl
  | msInputReport value => exact absurd trivial hcall
  | appMoveToLevel up_down => exact absurd trivial hcall
  | appLevelStop => exact absurd trivial hcall

theorem messages_switchCalls (d : Device) {calls : List SwitchCall}
    (hcalls : ∀ call ∈ calls, ¬ call.Sends) :
    messages (calls.foldl Device.switchCall d).outputs = messages d.outputs := by
  induction calls generalizing d with
  | nil => rfl
  | cons call calls ih =>
      rw [List.foldl_cons, ih _ fun call' h => hcalls call' (List.mem_cons_of_mem _ h)]
      exact messages_switchCall d (hcalls call List.mem_cons_self)

theorem messages_switchHandler {d : Device} (htype : d.relay_settings.IsToggle)
    (hcoupled : d.relay_settings.switch_decoupled = CUSTOM_SWITCH_DECOUPLED_OFF)
    (sample : Sample) (poll : Poll) :
    messages (switchHandler d sample poll).outputs = messages d.outputs := by
  rw [switchHandler_calls]
  exact messages_switchCalls _ fun call hcall => not_sends_calls htype hcoupled hcall

/-! ## Runs of polls -/

/-- Over every run of polls of a switch that was started: one that is decoupled or of a
type that does not drive the relay changes neither the status, the attribute, the relay
nor the status log, and a coupled toggle or momentary switch sends no message. -/
theorem outputs_never_mix (d : Device) (hstatus : d.app_switch.status ≠ .SWITCH_FLOAT)
    (es : List (Sample × Poll)) :
    (NotCoupled d.relay_settings → Undriven d (run Device.poll d es)) ∧
      (d.relay_settings.switch_decoupled = CUSTOM_SWITCH_DECOUPLED_OFF →
        d.relay_settings.IsToggle →
        messages (run Device.poll d es).outputs = messages d.outputs) := by
  constructor
  · intro hsettings
    suffices hinv : (run Device.poll d es).app_switch.status ≠ .SWITCH_FLOAT ∧
        (run Device.poll d es).relay_settings = d.relay_settings ∧
        Undriven d (run Device.poll d es) from hinv.2.2
    apply run_invariant_always (fun d' : Device => d'.app_switch.status ≠ .SWITCH_FLOAT ∧
      d'.relay_settings = d.relay_settings ∧ Undriven d d')
    · rintro d' e ⟨hstarted, hsame, hundriven⟩
      refine ⟨poll_not_float e hstarted, ?_, ?_⟩
      · exact (poll_settings d' e).trans hsame
      · rw [← hsame] at hsettings
        exact hundriven.trans (undriven_switchHandler hstarted hsettings e.1 e.2)
    · exact ⟨hstatus, rfl, ⟨rfl, rfl, rfl, rfl⟩, rfl⟩
  · intro hcoupled htype
    suffices hinv : (run Device.poll d es).relay_settings = d.relay_settings ∧
        messages (run Device.poll d es).outputs = messages d.outputs from hinv.2
    apply run_invariant_always (fun d' : Device => d'.relay_settings = d.relay_settings ∧
      messages d'.outputs = messages d.outputs)
    · rintro d' e ⟨hsame, hmessages⟩
      refine ⟨(poll_settings d' e).trans hsame, ?_⟩
      rw [← hsame] at hcoupled htype
      exact (messages_switchHandler htype hcoupled e.1 e.2).trans hmessages
    · exact ⟨rfl, rfl⟩

/-- A decoupled toggle switch that was started. -/
def decoupledSwitch : Device where
  log := powerOn NorFlash.Chip.erased
  nv := none
  relay_settings := { switch_decoupled := CUSTOM_SWITCH_DECOUPLED_ON }
  dev_relay_amt := AMT_RELAY

/-- However long it is held closed, its relay is not driven. -/
theorem outputs_never_mix_decoupled :
    Undriven decoupledSwitch
      (run Device.poll decoupledSwitch
        (List.replicate 200 (⟨false, 0⟩, ⟨true, false, 0, 0, 0, 0⟩))) :=
  (outputs_never_mix decoupledSwitch (by decide) _).1 (Or.inl (by decide))

end Firmware
