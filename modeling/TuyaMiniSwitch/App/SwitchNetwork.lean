import TuyaMiniSwitch.App.SwitchOutputs

/-!
# Application - The wall switch without a network

A poll looks at the state of the network, and with it at something the relay in the
wall should not depend on.  In two runs that differ in nothing but the network the switch
goes through the same states.  One relay command does depend on the network: the
release of a momentary switch commands the relay only while the device is joined.

Main results:

- Theorem {lit}`polled_network`: the network does not reach {lit}`app_switch`.
- Theorem {lit}`relayCommands_toggle`: the relay commands of a poll.
- Theorem {lit}`relay_independent_iff`: when two runs command the relay alike.
-/

namespace Firmware

open Machine Utility OnOffLog

/-! ## Relay commands -/

/-- The relay command of {lit}`switch_first_start`. -/
def Device.startCommand (d : Device) : SwitchCall :=
  if d.relay_settings.startUpOnOff = ZCL_START_UP_ONOFF_SET_ONOFF_TO_PREVIOUS then
    if d.status ≠ 0 then .cmdOnOffOn else .cmdOnOffOff
  else if d.relay_settings.startUpOnOff = ZCL_START_UP_ONOFF_SET_ONOFF_TOGGLE then
    .cmdOnOffToggle
  else if d.relay_settings.startUpOnOff = ZCL_START_UP_ONOFF_SET_ONOFF_TO_ON then
    .cmdOnOffOn
  else
    .cmdOnOffOff

/-- The relay command that a call of a poll comes to. -/
def Device.commandOf (d : Device) : SwitchCall → List SwitchCall
  | .firstStart => [d.startCommand]
  | .cmdOnOffOn => [.cmdOnOffOn]
  | .cmdOnOffOff => [.cmdOnOffOff]
  | .cmdOnOffToggle => [.cmdOnOffToggle]
  | _ => []

/-- The relay commands of a poll. -/
def Device.relayCommands (d : Device) (e : Sample × Poll) : List SwitchCall :=
  (d.calls e.1 e.2).flatMap d.commandOf

/-! ## Presses and releases -/

/-- The press that begins a burst. -/
@[mk_iff]
structure AppSwitch.FirstPress (p_switch : AppSwitch) (contact : Bool) : Prop where
  closed : contact = false
  started : p_switch.status ≠ .SWITCH_FLOAT
  debounce : p_switch.debounce ≠ DEBOUNCE_SWITCH
  reaches : p_switch.debounceUp.debounce = DEBOUNCE_SWITCH
  status : p_switch.status ≠ .SWITCH_CLOSED
  counter : p_switch.counter = 0

/-- The release of a burst with one press. -/
@[mk_iff]
structure AppSwitch.SingleRelease (p_switch : AppSwitch) (contact : Bool) : Prop where
  opened : contact = true
  started : p_switch.status ≠ .SWITCH_FLOAT
  debounce : p_switch.debounce ≠ 1
  reaches : p_switch.debounceDown.debounce = 1
  pressed : p_switch.pressed = true
  status : p_switch.status ≠ .SWITCH_OPEN
  counter : p_switch.counter = 1

instance (p_switch : AppSwitch) (contact : Bool) : Decidable (p_switch.FirstPress contact) :=
  decidable_of_iff' _ (AppSwitch.firstPress_iff p_switch contact)

instance (p_switch : AppSwitch) (contact : Bool) : Decidable (p_switch.SingleRelease contact) :=
  decidable_of_iff' _ (AppSwitch.singleRelease_iff p_switch contact)

theorem flatMap_rejoinCalls (d : Device) (p_switch : AppSwitch) (debounce : Nat) (poll : Poll) :
    (rejoinCalls p_switch debounce poll).flatMap d.commandOf = [] := by
  unfold rejoinCalls
  split
  · rfl
  · rfl

theorem flatMap_toggleEnd (d : Device) (p_switch : AppSwitch) (poll : Poll) :
    (toggleEnd p_switch poll).2.flatMap d.commandOf = [] := by
  unfold toggleEnd
  split
  · dsimp only
    split
    · rfl
    · rfl
  · rfl

theorem flatMap_pressCommand (d : Device) {relay_settings : RelaySettings}
    (hcoupled : relay_settings.switch_decoupled = CUSTOM_SWITCH_DECOUPLED_OFF) :
    [pressCommand relay_settings].flatMap d.commandOf = [pressCommand relay_settings] := by
  unfold pressCommand
  simp only [if_pos hcoupled]
  split
  · split
    · rfl
    · rfl
  · rfl

theorem flatMap_releaseCommands (d : Device) {relay_settings : RelaySettings}
    (hcoupled : relay_settings.switch_decoupled = CUSTOM_SWITCH_DECOUPLED_OFF) :
    (releaseCommands relay_settings).flatMap d.commandOf = releaseCommands relay_settings := by
  unfold releaseCommands
  simp only [if_pos hcoupled]
  split
  · split
    · rfl
    · rfl
  · rfl

theorem flatMap_toggleClosed (d : Device) {relay_settings : RelaySettings}
    (hcoupled : relay_settings.switch_decoupled = CUSTOM_SWITCH_DECOUPLED_OFF)
    {p_switch : AppSwitch} (poll : Poll) (hfloat : p_switch.status ≠ .SWITCH_FLOAT) :
    (toggleClosed relay_settings p_switch poll).2.flatMap d.commandOf =
      if p_switch.FirstPress false then [pressCommand relay_settings] else [] := by
  unfold toggleClosed
  rw [if_neg hfloat]
  split
  · rename_i hdebounce
    dsimp only
    split
    · rename_i hpress
      split
      · rename_i hcounter
        have hfirst : p_switch.FirstPress false :=
          ⟨rfl, hfloat, hdebounce, hpress.1, hpress.2, hcounter⟩
        rw [if_pos hfirst, List.flatMap_append, flatMap_rejoinCalls,
          flatMap_pressCommand d hcoupled, List.nil_append]
      · rename_i hcounter
        have hlater : ¬ p_switch.FirstPress false := fun h => hcounter h.counter
        rw [if_neg hlater]
        split
        · exact flatMap_rejoinCalls _ _ _ _
        · exact flatMap_rejoinCalls _ _ _ _
    · rename_i hpress
      have hnone : ¬ p_switch.FirstPress false := fun h => hpress ⟨h.reaches, h.status⟩
      rw [if_neg hnone]
      exact flatMap_rejoinCalls _ _ _ _
  · rename_i hdebounce
    have hnone : ¬ p_switch.FirstPress false := fun h => hdebounce h.debounce
    rw [if_neg hnone]
    rfl

theorem flatMap_toggleOpen (d : Device) {relay_settings : RelaySettings}
    (hcoupled : relay_settings.switch_decoupled = CUSTOM_SWITCH_DECOUPLED_OFF)
    {p_switch : AppSwitch} (poll : Poll) (hfloat : p_switch.status ≠ .SWITCH_FLOAT) :
    (toggleOpen relay_settings p_switch poll).2.flatMap d.commandOf =
      if p_switch.SingleRelease true ∧ poll.joined = true then releaseCommands relay_settings
      else [] := by
  unfold toggleOpen
  rw [if_neg hfloat]
  split
  · rename_i hdebounce
    dsimp only
    split
    · rename_i hopen
      split
      · rename_i hsingle
        have hrelease : p_switch.SingleRelease true ∧ poll.joined = true :=
          ⟨⟨rfl, hfloat, hdebounce, hopen.1, hopen.2.1, hopen.2.2, hsingle.1⟩, hsingle.2⟩
        rw [if_pos hrelease, List.flatMap_append, flatMap_rejoinCalls,
          flatMap_releaseCommands d hcoupled, List.nil_append]
      · rename_i hsingle
        have hnone : ¬ (p_switch.SingleRelease true ∧ poll.joined = true) :=
          fun h => hsingle ⟨h.1.counter, h.2⟩
        rw [if_neg hnone]
        exact flatMap_rejoinCalls _ _ _ _
    · rename_i hopen
      have hnone : ¬ (p_switch.SingleRelease true ∧ poll.joined = true) :=
        fun h => hopen ⟨h.1.reaches, h.1.pressed, h.1.status⟩
      rw [if_neg hnone]
      exact flatMap_rejoinCalls _ _ _ _
  · rename_i hdebounce
    have hnone : ¬ (p_switch.SingleRelease true ∧ poll.joined = true) :=
      fun h => hdebounce h.1.debounce
    rw [if_neg hnone]
    rfl

/-- The end of a poll commands no relay. -/
theorem flatMap_readSwitchToggle (d : Device) (relay_settings : RelaySettings)
    (p_switch : AppSwitch) (contact : Bool) (poll : Poll) :
    (readSwitchToggle relay_settings p_switch contact poll).2.flatMap d.commandOf =
      (if contact = false then toggleClosed relay_settings p_switch poll
        else toggleOpen relay_settings p_switch poll).2.flatMap d.commandOf := by
  unfold readSwitchToggle
  dsimp only
  rw [List.flatMap_append, flatMap_toggleEnd, List.append_nil]

/-- The relay commands of a poll of a coupled toggle or momentary switch. -/
theorem relayCommands_toggle {d : Device} (htype : d.relay_settings.IsToggle)
    (hcoupled : d.relay_settings.switch_decoupled = CUSTOM_SWITCH_DECOUPLED_OFF)
    (hamt : 0 < d.dev_relay_amt) (e : Sample × Poll) :
    d.relayCommands e =
      if d.app_switch.status = .SWITCH_FLOAT then [d.startCommand]
      else if d.app_switch.FirstPress (d.contact e.1) then [pressCommand d.relay_settings]
      else if d.app_switch.SingleRelease (d.contact e.1) ∧ e.2.joined = true then
        releaseCommands d.relay_settings
      else [] := by
  rw [Device.relayCommands, calls_of_toggle htype hamt, flatMap_readSwitchToggle]
  generalize d.contact e.1 = contact
  cases contact with
  | false =>
      have hnone : ¬ (d.app_switch.SingleRelease false ∧ e.2.joined = true) := by
        rintro ⟨hrelease, -⟩
        cases hrelease.opened
      rw [if_pos rfl, if_neg hnone]
      split
      · rename_i hfloat
        rw [toggleClosed, if_pos hfloat]
        rfl
      · rename_i hfloat
        exact flatMap_toggleClosed d hcoupled e.2 hfloat
  | true =>
      have hopen : ¬ true = false := Bool.noConfusion
      have hnone : ¬ d.app_switch.FirstPress true := by
        intro hpress
        cases hpress.closed
      rw [if_neg hopen, if_neg hnone]
      split
      · rename_i hfloat
        rw [toggleOpen, if_pos hfloat]
        rfl
      · rename_i hfloat
        exact flatMap_toggleOpen d hcoupled e.2 hfloat

/-! ## Two networks -/

/-- The same poll with another network. -/
def Poll.onNetwork (poll : Poll) (joined factoryNew : Bool) : Poll :=
  { poll with joined := joined, factoryNew := factoryNew }

theorem toggleClosed_network (relay_settings : RelaySettings) (p_switch : AppSwitch)
    (poll : Poll) (joined factoryNew : Bool) :
    (toggleClosed relay_settings p_switch (poll.onNetwork joined factoryNew)).1 =
      (toggleClosed relay_settings p_switch poll).1 := by
  unfold toggleClosed
  by_cases hfloat : p_switch.status = .SWITCH_FLOAT
  · rw [if_pos hfloat, if_pos hfloat]
  · rw [if_neg hfloat, if_neg hfloat]
    by_cases hdebounce : p_switch.debounce ≠ DEBOUNCE_SWITCH
    · rw [if_pos hdebounce, if_pos hdebounce]
      dsimp only
      by_cases hpress : p_switch.debounceUp.debounce = DEBOUNCE_SWITCH ∧
          p_switch.debounceUp.status ≠ .SWITCH_CLOSED
      · rw [if_pos hpress, if_pos hpress]
        by_cases hcounter : p_switch.debounceUp.counter = 0
        · rw [if_pos hcounter, if_pos hcounter]
          rfl
        · rw [if_neg hcounter, if_neg hcounter, apply_ite Prod.fst, apply_ite Prod.fst]
          rfl
      · rw [if_neg hpress, if_neg hpress]
    · rw [if_neg hdebounce, if_neg hdebounce]

theorem toggleOpen_network (relay_settings : RelaySettings) (p_switch : AppSwitch)
    (poll : Poll) (joined factoryNew : Bool) :
    (toggleOpen relay_settings p_switch (poll.onNetwork joined factoryNew)).1 =
      (toggleOpen relay_settings p_switch poll).1 := by
  unfold toggleOpen
  by_cases hfloat : p_switch.status = .SWITCH_FLOAT
  · rw [if_pos hfloat, if_pos hfloat]
  · rw [if_neg hfloat, if_neg hfloat]
    by_cases hdebounce : p_switch.debounce ≠ 1
    · rw [if_pos hdebounce, if_pos hdebounce]
      dsimp only
      by_cases hopen : p_switch.debounceDown.debounce = 1 ∧
          p_switch.debounceDown.pressed = true ∧ p_switch.debounceDown.status ≠ .SWITCH_OPEN
      · rw [if_pos hopen, if_pos hopen, apply_ite Prod.fst, apply_ite Prod.fst, ite_self, ite_self]
      · rw [if_neg hopen, if_neg hopen]
    · rw [if_neg hdebounce, if_neg hdebounce]

/-- The network does not reach {lit}`app_switch`. -/
theorem readSwitchToggle_network (relay_settings : RelaySettings) (p_switch : AppSwitch)
    (contact : Bool) (poll : Poll) (joined factoryNew : Bool) :
    (readSwitchToggle relay_settings p_switch contact (poll.onNetwork joined factoryNew)).1 =
      (readSwitchToggle relay_settings p_switch contact poll).1 := by
  have hend : ∀ p_switch, (toggleEnd p_switch (poll.onNetwork joined factoryNew)).1 =
      (toggleEnd p_switch poll).1 := fun _ => rfl
  cases contact with
  | false =>
      show (toggleEnd (toggleClosed _ _ _).1 _).1 = (toggleEnd (toggleClosed _ _ _).1 _).1
      rw [toggleClosed_network, hend]
  | true =>
      show (toggleEnd (toggleOpen _ _ _).1 _).1 = (toggleEnd (toggleOpen _ _ _).1 _).1
      rw [toggleOpen_network, hend]

/-- A poll of two runs, which differ in the network. -/
structure PollPair where
  sample : Sample
  poll : Poll
  joined : Bool
  factoryNew : Bool

/-- The poll of the first run. -/
def PollPair.first (e : PollPair) : Sample × Poll := (e.sample, e.poll)

/-- The poll of the second run. -/
def PollPair.second (e : PollPair) : Sample × Poll :=
  (e.sample, e.poll.onNetwork e.joined e.factoryNew)

/-- Two devices whose wall switches are in the same state.  Before it is started, the
status counts, too. -/
structure Alike (d d' : Device) : Prop extends SameSwitch d d' where
  status : 0 < d.dev_relay_amt → d.app_switch.status = .SWITCH_FLOAT → d'.status = d.status

theorem Alike.contact {d d' : Device} (h : Alike d d') (sample : Sample) :
    d'.contact sample = d.contact sample := by
  rw [Device.contact, Device.contact, h.model]

theorem Alike.startCommand {d d' : Device} (h : Alike d d') (hamt : 0 < d.dev_relay_amt)
    (hfloat : d.app_switch.status = .SWITCH_FLOAT) : d'.startCommand = d.startCommand := by
  rw [Device.startCommand, Device.startCommand, h.settings, h.status hamt hfloat]

/-- Two polls that differ in the network leave the switches in the same state. -/
theorem Alike.poll {d d' : Device} (h : Alike d d') (htype : d.relay_settings.IsToggle)
    (e : PollPair) : Alike (d.poll e.first) (d'.poll e.second) := by
  by_cases hamt : 0 < d.dev_relay_amt
  · have hamt' : 0 < d'.dev_relay_amt := by
      rw [h.amt]
      exact hamt
    have htype' : d'.relay_settings.IsToggle := by
      rw [h.settings]
      exact htype
    have hpolled : d'.polled e.second.1 e.second.2 = d.polled e.first.1 e.first.2 := by
      rw [polled_of_toggle htype' hamt', polled_of_toggle htype hamt, h.settings, h.app_switch,
        h.contact]
      exact readSwitchToggle_network _ _ _ _ _ _
    refine ⟨⟨?_, ?_, ?_, ?_⟩, fun _ hfloat => ?_⟩
    · rw [poll_app_switch, poll_app_switch, hpolled]
    · rw [poll_settings, poll_settings, h.settings]
    · rw [poll_amt, poll_amt, h.amt]
    · rw [poll_model, poll_model, h.model]
    · rw [poll_app_switch, polled_of_toggle htype hamt] at hfloat
      exact absurd hfloat (toggle_not_float _ _ _ _)
  · have hsame : d.poll e.first = d := by
      rw [Device.poll, switchHandler, if_neg hamt]
    have hsame' : d'.poll e.second = d' := by
      rw [← h.amt] at hamt
      rw [Device.poll, switchHandler, if_neg hamt]
    rw [hsame, hsame']
    exact h

/-! ## When two runs command the relay alike -/

/-- The command of a release of a coupled momentary switch. -/
def RelaySettings.releaseCommand (s : RelaySettings) : SwitchCall :=
  if s.switchActions = ZCL_SWITCH_ACTION_OFF_ON then .cmdOnOffOff else .cmdOnOffOn

theorem releaseCommands_momentary {s : RelaySettings}
    (htype : s.switchType = ZCL_SWITCH_TYPE_MOMENTARY)
    (hcoupled : s.switch_decoupled = CUSTOM_SWITCH_DECOUPLED_OFF) :
    releaseCommands s = [s.releaseCommand] := by
  rw [releaseCommands, if_pos htype, if_pos hcoupled, if_pos hcoupled,
    RelaySettings.releaseCommand]
  split
  · rfl
  · rfl

/-- A press never gives the command of a release. -/
theorem pressCommand_ne {s : RelaySettings}
    (hcoupled : s.switch_decoupled = CUSTOM_SWITCH_DECOUPLED_OFF) :
    s.releaseCommand ≠ pressCommand s := by
  unfold pressCommand RelaySettings.releaseCommand
  simp only [if_pos hcoupled]
  split
  · split
    · exact SwitchCall.noConfusion
    · exact SwitchCall.noConfusion
  · split
    · exact SwitchCall.noConfusion
    · exact SwitchCall.noConfusion

/-- A poll with the press that begins a burst. -/
def Device.FirstPress (d : Device) (sample : Sample) : Prop :=
  0 < d.dev_relay_amt ∧ d.app_switch.FirstPress (d.contact sample)

/-- A poll with the release of a momentary switch that was pressed once. -/
def Device.SingleRelease (d : Device) (sample : Sample) : Prop :=
  0 < d.dev_relay_amt ∧ d.relay_settings.switchType = ZCL_SWITCH_TYPE_MOMENTARY ∧
    d.app_switch.SingleRelease (d.contact sample)

instance (d : Device) (sample : Sample) : Decidable (d.FirstPress sample) :=
  inferInstanceAs (Decidable (_ ∧ _))

instance (d : Device) (sample : Sample) : Decidable (d.SingleRelease sample) :=
  inferInstanceAs (Decidable (_ ∧ _))

/-- The relay commands of a poll, release by release. -/
theorem relayCommands_eq {d : Device} (htype : d.relay_settings.IsToggle)
    (hcoupled : d.relay_settings.switch_decoupled = CUSTOM_SWITCH_DECOUPLED_OFF)
    (e : Sample × Poll) :
    d.relayCommands e =
      if 0 < d.dev_relay_amt ∧ d.app_switch.status = .SWITCH_FLOAT then [d.startCommand]
      else if d.FirstPress e.1 then [pressCommand d.relay_settings]
      else if d.SingleRelease e.1 then
        List.replicate e.2.joined.toNat d.relay_settings.releaseCommand
      else [] := by
  by_cases hamt : 0 < d.dev_relay_amt
  · rw [relayCommands_toggle htype hcoupled hamt]
    simp only [Device.FirstPress, Device.SingleRelease, hamt, true_and]
    split
    · rfl
    · split
      · rfl
      · by_cases hrelease : d.app_switch.SingleRelease (d.contact e.1)
        · by_cases hmomentary : d.relay_settings.switchType = ZCL_SWITCH_TYPE_MOMENTARY
          · rw [releaseCommands_momentary hmomentary hcoupled]
            cases hjoined : e.2.joined with
            | false => simp
            | true => simp [hrelease, hmomentary]
          · simp [releaseCommands, hmomentary]
        · simp [hrelease]
  · have hnone : d.calls e.1 e.2 = [] := by
      rw [Device.calls, if_neg hamt]
    rw [Device.relayCommands, hnone, if_neg fun h => hamt h.1, if_neg fun h => hamt h.1,
      if_neg fun h => hamt h.1]
    rfl

/-- The condition: between two presses that begin a burst, both runs are joined at equally
many releases of a momentary switch that was pressed once.  The first run is ahead by a
number of releases. -/
def Balanced (d : Device) (ahead : Int) : List PollPair → Prop
  | [] => ahead = 0
  | e :: es =>
      if d.FirstPress e.sample then
        ahead = 0 ∧ Balanced (d.poll e.first) 0 es
      else if d.SingleRelease e.sample then
        Balanced (d.poll e.first) (ahead + e.poll.joined.toNat - e.joined.toNat) es
      else
        Balanced (d.poll e.first) ahead es

/-- Two lists that begin with some releases and then a press. -/
theorem releases_append_press_inj {r p : SwitchCall} (hne : r ≠ p) (a b : Nat)
    (l l' : List SwitchCall) :
    List.replicate a r ++ p :: l = List.replicate b r ++ p :: l' ↔ a = b ∧ l = l' := by
  induction a generalizing b with
  | zero =>
      cases b with
      | zero => simp
      | succ b =>
          rw [List.replicate_succ]
          simp [hne.symm]
  | succ a ih =>
      cases b with
      | zero =>
          rw [List.replicate_succ]
          simp [hne]
      | succ b =>
          rw [List.replicate_succ, List.replicate_succ, List.cons_append, List.cons_append,
            List.cons_inj_right, ih, Nat.add_right_cancel_iff]

theorem Alike.firstPress {d d' : Device} (h : Alike d d') (sample : Sample) :
    d'.FirstPress sample ↔ d.FirstPress sample := by
  rw [Device.FirstPress, Device.FirstPress, h.amt, h.app_switch, h.contact]

theorem Alike.singleRelease {d d' : Device} (h : Alike d d') (sample : Sample) :
    d'.SingleRelease sample ↔ d.SingleRelease sample := by
  rw [Device.SingleRelease, Device.SingleRelease, h.amt, h.app_switch, h.contact, h.settings]

/-- The relay commands of the second run, as the first run tells them. -/
theorem Alike.relayCommands {d d' : Device} (h : Alike d d') (htype : d.relay_settings.IsToggle)
    (hcoupled : d.relay_settings.switch_decoupled = CUSTOM_SWITCH_DECOUPLED_OFF) (e : PollPair) :
    d'.relayCommands e.second =
      if 0 < d.dev_relay_amt ∧ d.app_switch.status = .SWITCH_FLOAT then [d.startCommand]
      else if d.FirstPress e.sample then [pressCommand d.relay_settings]
      else if d.SingleRelease e.sample then
        List.replicate e.joined.toNat d.relay_settings.releaseCommand
      else [] := by
  have htype' : d'.relay_settings.IsToggle := by
    rw [h.settings]
    exact htype
  have hcoupled' : d'.relay_settings.switch_decoupled = CUSTOM_SWITCH_DECOUPLED_OFF := by
    rw [h.settings]
    exact hcoupled
  have hpress : d'.FirstPress e.second.1 ↔ d.FirstPress e.sample := h.firstPress e.sample
  have hrelease : d'.SingleRelease e.second.1 ↔ d.SingleRelease e.sample :=
    h.singleRelease e.sample
  rw [relayCommands_eq htype' hcoupled', h.amt, h.settings, h.app_switch]
  simp only [hpress, hrelease]
  by_cases hfloat : 0 < d.dev_relay_amt ∧ d.app_switch.status = .SWITCH_FLOAT
  · rw [if_pos hfloat, if_pos hfloat, h.startCommand hfloat.1 hfloat.2]
  · rw [if_neg hfloat, if_neg hfloat]
    rfl

/-- Two switches in the same state, when the first run has given {lit}`a` and the second
{lit}`b` releases since the last press that began a burst. -/
theorem trace_eq_iff {d d' : Device} (h : Alike d d') (htype : d.relay_settings.IsToggle)
    (hcoupled : d.relay_settings.switch_decoupled = CUSTOM_SWITCH_DECOUPLED_OFF) (a b : Nat)
    (hstart : 0 < d.dev_relay_amt → d.app_switch.status = .SWITCH_FLOAT → a = b)
    (es : List PollPair) :
    List.replicate a d.relay_settings.releaseCommand ++
        trace Device.poll Device.relayCommands d (es.map PollPair.first) =
      List.replicate b d.relay_settings.releaseCommand ++
        trace Device.poll Device.relayCommands d' (es.map PollPair.second) ↔
      Balanced d (a - b) es := by
  induction es generalizing d d' a b with
  | nil =>
      simp only [List.map_nil, trace, List.append_nil, Balanced, List.replicate_inj, or_true,
        and_true]
      omega
  | cons e es ih =>
      have hsettings : (d.poll e.first).relay_settings = d.relay_settings :=
        poll_settings d e.first
      have hrest : ∀ a b : Nat,
          List.replicate a d.relay_settings.releaseCommand ++
              trace Device.poll Device.relayCommands (d.poll e.first) (es.map PollPair.first) =
            List.replicate b d.relay_settings.releaseCommand ++
              trace Device.poll Device.relayCommands (d'.poll e.second)
                (es.map PollPair.second) ↔
            Balanced (d.poll e.first) (a - b) es := by
        intro a b
        have hrest := ih (h.poll htype e) (by rw [hsettings]; exact htype)
          (by rw [hsettings]; exact hcoupled) a b fun hamt hfloat =>
            absurd hfloat (poll_toggle_not_float htype hamt)
        rw [hsettings] at hrest
        exact hrest
      rw [List.map_cons, List.map_cons, trace, trace, relayCommands_eq htype hcoupled,
        h.relayCommands htype hcoupled]
      by_cases hfloat : 0 < d.dev_relay_amt ∧ d.app_switch.status = .SWITCH_FLOAT
      · have hpress : ¬ d.FirstPress e.sample := fun hpress => hpress.2.started hfloat.2
        have hrelease : ¬ d.SingleRelease e.sample := fun hrelease => hrelease.2.2.started hfloat.2
        obtain rfl := hstart hfloat.1 hfloat.2
        rw [if_pos hfloat, if_pos hfloat, List.append_cancel_left_eq, List.append_cancel_left_eq,
          Balanced, if_neg hpress, if_neg hrelease, Int.sub_self]
        exact hrest 0 0
      · rw [if_neg hfloat, if_neg hfloat]
        by_cases hpress : d.FirstPress e.sample
        · rw [if_pos hpress, List.singleton_append, Balanced, if_pos hpress]
          rw [if_pos (show d.FirstPress e.first.1 from hpress), List.singleton_append,
            releases_append_press_inj (pressCommand_ne hcoupled)]
          exact and_congr (by omega) (hrest 0 0)
        · rw [if_neg hpress, Balanced, if_neg hpress,
            if_neg (show ¬ d.FirstPress e.first.1 from hpress)]
          by_cases hrelease : d.SingleRelease e.sample
          · rw [if_pos hrelease, if_pos hrelease,
              if_pos (show d.SingleRelease e.first.1 from hrelease), ← List.append_assoc,
              ← List.append_assoc, List.replicate_append_replicate,
              List.replicate_append_replicate, hrest]
            have hahead : ((a + e.first.2.joined.toNat : Nat) : Int) - (b + e.joined.toNat : Nat) =
                (a - b : Int) + e.poll.joined.toNat - e.joined.toNat := by
              show ((a + e.poll.joined.toNat : Nat) : Int) - (b + e.joined.toNat : Nat) = _
              omega
            rw [hahead]
          · rw [if_neg hrelease, if_neg hrelease,
              if_neg (show ¬ d.SingleRelease e.first.1 from hrelease)]
            exact hrest a b

/-- Two runs of a coupled toggle or momentary switch that differ in the network give the
relay the same sequence of commands exactly when between two presses that begin a burst
both are joined at equally many single releases. -/
theorem relay_independent_iff (d : Device) (htype : d.relay_settings.IsToggle)
    (hcoupled : d.relay_settings.switch_decoupled = CUSTOM_SWITCH_DECOUPLED_OFF)
    (es : List PollPair) :
    trace Device.poll Device.relayCommands d (es.map PollPair.first) =
        trace Device.poll Device.relayCommands d (es.map PollPair.second) ↔
      Balanced d 0 es :=
  trace_eq_iff ⟨⟨rfl, rfl, rfl, rfl⟩, fun _ _ => rfl⟩ htype hcoupled 0 0 (fun _ _ => rfl) es

/-- A momentary switch that was pressed once and is about to be released. -/
def pressedSwitch : Device where
  log := powerOn NorFlash.Chip.erased
  nv := none
  relay_settings :=
    { switchType := ZCL_SWITCH_TYPE_MOMENTARY, switchActions := ZCL_SWITCH_ACTION_OFF_ON }
  dev_relay_amt := AMT_RELAY
  app_switch := { status := .SWITCH_CLOSED, pressed := true, counter := 1, debounce := 2 }

/-- It is released while both runs are joined, one of them as a new device. -/
theorem relay_independent_joined :
    trace Device.poll Device.relayCommands pressedSwitch
        [(⟨true, 0⟩, ⟨true, false, 0, 0, 0, 0⟩)] =
      trace Device.poll Device.relayCommands pressedSwitch
        [(⟨true, 0⟩, ⟨true, true, 0, 0, 0, 0⟩)] := by
  apply (relay_independent_iff pressedSwitch (Or.inr rfl) rfl
    [⟨⟨true, 0⟩, ⟨true, false, 0, 0, 0, 0⟩, true, true⟩]).mpr
  rw [Balanced, if_neg (by decide), if_pos (by decide)]
  rfl

/-- It is released while the network is down: the relay stays on. -/
theorem relay_depends_on_network :
    trace Device.poll Device.relayCommands pressedSwitch
        [(⟨true, 0⟩, ⟨true, false, 0, 0, 0, 0⟩)] = [.cmdOnOffOff] ∧
      trace Device.poll Device.relayCommands pressedSwitch
        [(⟨true, 0⟩, ⟨false, false, 0, 0, 0, 0⟩)] = [] := by
  decide

end Firmware
