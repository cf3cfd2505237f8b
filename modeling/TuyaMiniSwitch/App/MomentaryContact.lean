import TuyaMiniSwitch.App.SwitchDebounce
import TuyaMiniSwitch.App.SwitchNetwork

/-!
# Application - The relay of a momentary switch

A momentary switch that is coupled drives its relay when its contact is closed and again
when it is opened.  The commands are tied to the click counter: the press needs a counter
of zero and the release a counter of one, and the counter goes back to zero only when half
a second has passed since the press and the contact is open.

Main results:

- Theorem {lit}`shows_step`: what the history of the contact tells about the switch.
- Theorem {lit}`lastDriven_poll`: where a poll leaves the relay.
- Theorem {lit}`momentary_follows_iff`: when the relay follows the contact.
-/

namespace Firmware

open Machine Utility OnOffLog

/-! ## The history of the contact -/

/-- What the samples and the clock say: the contact, whether it was ever closed, and the
time of the latest debounced close until half a second since it is seen with the contact
open. -/
structure ContactHistory where
  contact : Contact := {}
  everClosed : Bool := false
  recent : Option UInt32 := none
  deriving Repr, DecidableEq

/-- The history behind a poll. -/
def ContactHistory.next (h : ContactHistory) (e : HeldPoll) : ContactHistory where
  contact := h.contact.next e
  everClosed := h.everClosed || decide (h.contact.Closes e)
  recent :=
    if h.contact.Closes e then some e.poll.stampClock
    else if (h.contact.next e).closed then h.recent
    else h.recent.filter fun stamp => !clockTimeExceed e.poll.endClock stamp TIMEOUT_TICK_500MS

/-- A poll closes the contact only when half a second since the close before was seen with
the contact open. -/
def ContactHistory.ClosesRested (h : ContactHistory) (e : HeldPoll) : Prop :=
  h.contact.Closes e → h.recent = none

instance (h : ContactHistory) (e : HeldPoll) : Decidable (h.ClosesRested e) :=
  inferInstanceAs (Decidable (_ → _))

/-- The switch is as the history says. -/
structure Shows (p_switch : AppSwitch) (h : ContactHistory) : Prop where
  tracks : p_switch.Tracks
  debounce : p_switch.debounce = h.contact.debounce
  status : p_switch.status = if h.contact.closed then .SWITCH_CLOSED else .SWITCH_OPEN
  idle : h.recent = none → p_switch.counter = 0 ∧ p_switch.pressed = false ∧
    p_switch.released = false ∧ h.contact.closed = false
  burst : ∀ stamp, h.recent = some stamp → p_switch.counter = 1 ∧ p_switch.pressed = true ∧
    p_switch.released = !h.contact.closed ∧ p_switch.pressed_time = stamp ∧ h.everClosed = true

section Switch

variable {p_switch : AppSwitch} {h : ContactHistory} {e : TogglePoll}

theorem Shows.closes_iff (hs : Shows p_switch h) :
    h.contact.Closes e.held ↔
      Debounce.Arrives DEBOUNCE_SWITCH TogglePoll.closed p_switch.debounce e ∧
        p_switch.status ≠ .SWITCH_CLOSED := by
  rw [hs.debounce, hs.status, Contact.Closes, and_comm]
  cases h.contact.closed with
  | false => exact and_congr_right fun _ => by simp
  | true => exact and_congr_right fun _ => by simp

theorem Shows.opens_iff (hs : Shows p_switch h) :
    h.contact.Opens e.held ↔
      Debounce.Drops DEBOUNCE_SWITCH TogglePoll.closed p_switch.debounce e ∧
        p_switch.pressed = true ∧ p_switch.status ≠ .SWITCH_OPEN := by
  rw [hs.debounce, hs.status, Contact.Opens, and_comm]
  refine and_congr_right fun _ => ?_
  cases hclosed : h.contact.closed with
  | false => simp
  | true =>
      cases hrecent : h.recent with
      | none =>
          have hopen := (hs.idle hrecent).2.2.2
          rw [hclosed] at hopen
          cases hopen
      | some stamp => simp [(hs.burst stamp hrecent).2.1]

/-- A poll that does not close the contact, up to its end. -/
structure BodyShows (p_switch body : AppSwitch) (h h' : ContactHistory) : Prop where
  status : body.status = if h'.contact.closed then .SWITCH_CLOSED else .SWITCH_OPEN
  counter : body.counter = p_switch.counter
  pressed : body.pressed = p_switch.pressed
  pressed_time : body.pressed_time = p_switch.pressed_time
  idle : h.recent = none → body.released = false ∧ h'.contact.closed = false
  burst : ∀ stamp, h.recent = some stamp → body.released = !h'.contact.closed

theorem body_shows (hs : Shows p_switch h) (hcloses : ¬h.contact.Closes e.held) :
    BodyShows p_switch (toggleBody p_switch e) h (h.next e.held) := by
  by_cases hopens : h.contact.Opens e.held
  · have hnext : (h.next e.held).contact.closed = false := Contact.next_of_opens hopens
    rcases hs.opens_iff.mp hopens with ⟨hdrops, hpressed, hclosed⟩
    rw [toggleBody_release hs.tracks hdrops hpressed hclosed]
    refine ⟨?_, rfl, rfl, rfl, fun hnone => ?_, fun _ _ => ?_⟩
    · rw [hnext]
      rfl
    · rw [(hs.idle hnone).2.1] at hpressed
      cases hpressed
    · rw [hnext]
      rfl
  · have hnext : (h.next e.held).contact.closed = h.contact.closed :=
      Contact.next_of_neither hcloses hopens
    rw [toggleBody_move hs.tracks (fun h => hcloses (hs.closes_iff.mpr h))
      (fun h => hopens (hs.opens_iff.mpr h))]
    refine ⟨?_, rfl, rfl, rfl, fun hnone => ?_, fun stamp hsome => ?_⟩
    · rw [hnext]
      exact hs.status
    · rw [hnext]
      exact (hs.idle hnone).2.2
    · rw [hnext]
      exact (hs.burst stamp hsome).2.2.1

theorem shows_debounce (hs : Shows p_switch h) :
    (toggleStep p_switch e).debounce = (h.next e.held).contact.debounce := by
  rw [toggleStep_debounce hs.tracks.range hs.tracks.settled, hs.debounce]
  rfl

/-- A poll that closes a contact that rested. -/
theorem shows_close (hs : Shows p_switch h) (hcloses : h.contact.Closes e.held)
    (hrecent : h.recent = none) : Shows (toggleStep p_switch e) (h.next e.held) := by
  rcases hs.idle hrecent with ⟨hcounter, hpressed, hreleased, -⟩
  rcases hs.closes_iff.mp hcloses with ⟨harrives, hopen⟩
  have hbody := toggleBody_press hs.tracks harrives hopen
  have hover : (toggleBody p_switch e).burstOver e.poll = false :=
    burstOver_of_not_released e.poll (by rw [hbody]; exact hreleased)
  have hnext : (h.next e.held).contact.closed = true := Contact.next_of_closes hcloses
  have hstamp : (h.next e.held).recent = some e.poll.stampClock := if_pos hcloses
  refine ⟨tracks_step p_switch e hs.tracks, shows_debounce hs, ?_, fun hnone => ?_,
    fun stamp hsome => ?_⟩
  · rw [toggleStep_eq, toggleEnd_of_not hover, hbody, hnext]
    rfl
  · rw [hstamp] at hnone
    cases hnone
  · rw [hstamp] at hsome
    rw [toggleStep_eq, toggleEnd_of_not hover, hbody, hnext]
    refine ⟨?_, ?_, hreleased, Option.some.inj hsome, ?_⟩
    · simp [AppSwitch.pressCount, hcounter]
    · simp [hcounter]
    · simp [ContactHistory.next, hcloses]

theorem BodyShows.status_step {h' : ContactHistory}
    (hbody : BodyShows p_switch (toggleBody p_switch e) h h') :
    (toggleStep p_switch e).status =
      if h'.contact.closed then .SWITCH_CLOSED else .SWITCH_OPEN := by
  rw [toggleStep_eq, (toggleEnd_frame _ _).1]
  exact hbody.status

/-- A poll that leaves a contact alone that rested. -/
theorem shows_rest (hs : Shows p_switch h) (hcloses : ¬h.contact.Closes e.held)
    (hrecent : h.recent = none) : Shows (toggleStep p_switch e) (h.next e.held) := by
  have hbody := body_shows hs hcloses
  rcases hs.idle hrecent with ⟨hcounter, hpressed, -⟩
  rcases hbody.idle hrecent with ⟨hreleased, hopen⟩
  have hnone : (h.next e.held).recent = none := by
    simp [ContactHistory.next, hcloses, hrecent]
  have hover := burstOver_of_not_released e.poll hreleased
  refine ⟨tracks_step p_switch e hs.tracks, shows_debounce hs, hbody.status_step, fun _ => ?_,
    fun stamp hsome => ?_⟩
  · rw [toggleStep_eq, toggleEnd_of_not hover]
    exact ⟨hbody.counter.trans hcounter, hbody.pressed.trans hpressed, hreleased, hopen⟩
  · rw [hnone] at hsome
    cases hsome

/-- When a poll that does not close the contact ends its burst. -/
theorem ContactHistory.recent_next {e : HeldPoll} {stamp : UInt32}
    (hcloses : ¬h.contact.Closes e) (hrecent : h.recent = some stamp) :
    (h.next e).recent =
      if (!(h.next e).contact.closed &&
        clockTimeExceed e.poll.endClock stamp TIMEOUT_TICK_500MS) = true then none
      else some stamp := by
  show (if h.contact.Closes e then some e.poll.stampClock
    else if (h.next e).contact.closed then h.recent
    else h.recent.filter fun stamp =>
      !clockTimeExceed e.poll.endClock stamp TIMEOUT_TICK_500MS) = _
  rw [if_neg hcloses, hrecent]
  cases (h.next e).contact.closed with
  | false =>
      cases hexceed : clockTimeExceed e.poll.endClock stamp TIMEOUT_TICK_500MS with
      | false => simp [hexceed]
      | true => simp [hexceed]
  | true => rfl

/-- A poll in a burst that does not close the contact. -/
theorem shows_burst (hs : Shows p_switch h) (hcloses : ¬h.contact.Closes e.held) {stamp : UInt32}
    (hrecent : h.recent = some stamp) : Shows (toggleStep p_switch e) (h.next e.held) := by
  have htracks := tracks_step p_switch e hs.tracks
  have hbody := body_shows hs hcloses
  have hever : (h.next e.held).everClosed = h.everClosed := by
    simp [ContactHistory.next, hcloses]
  rcases hs.burst stamp hrecent with ⟨hcounter, hpressed, -, htime, hclosedOnce⟩
  have hreleased := hbody.burst stamp hrecent
  have hover : (toggleBody p_switch e).burstOver e.poll =
      (!(h.next e.held).contact.closed &&
        clockTimeExceed e.poll.endClock stamp TIMEOUT_TICK_500MS) := by
    rw [AppSwitch.burstOver, hreleased, hbody.pressed_time, htime]
  have hnext : (h.next e.held).recent =
      if (!(h.next e.held).contact.closed &&
        clockTimeExceed e.poll.endClock stamp TIMEOUT_TICK_500MS) = true then none
      else some stamp := ContactHistory.recent_next hcloses hrecent
  cases hends : (!(h.next e.held).contact.closed &&
      clockTimeExceed e.poll.endClock stamp TIMEOUT_TICK_500MS) with
  | false =>
      rw [hends] at hover hnext
      refine ⟨htracks, shows_debounce hs, hbody.status_step, fun hnone => ?_,
        fun stamp' hsome => ?_⟩
      · rw [hnext] at hnone
        cases hnone
      · rw [hnext] at hsome
        rw [toggleStep_eq, toggleEnd_of_not hover, hever]
        exact ⟨hbody.counter.trans hcounter, hbody.pressed.trans hpressed, hreleased,
          (hbody.pressed_time.trans htime).trans (Option.some.inj hsome), hclosedOnce⟩
  | true =>
      have hopen : (h.next e.held).contact.closed = false := by
        simpa using (Bool.and_eq_true_iff.mp hends).1
      rw [hends] at hover hnext
      refine ⟨htracks, shows_debounce hs, hbody.status_step, fun _ => ?_,
        fun stamp' hsome => ?_⟩
      · rw [toggleStep_eq, toggleEnd_of_over hover]
        exact ⟨rfl, rfl, rfl, hopen⟩
      · rw [hnext] at hsome
        cases hsome

/-- A poll that closes the contact only when it rested keeps the history right. -/
theorem shows_step (hs : Shows p_switch h) (hrested : h.ClosesRested e.held) :
    Shows (toggleStep p_switch e) (h.next e.held) := by
  by_cases hcloses : h.contact.Closes e.held
  · exact shows_close hs hcloses (hrested hcloses)
  · cases hrecent : h.recent with
    | none => exact shows_rest hs hcloses hrecent
    | some stamp => exact shows_burst hs hcloses hrecent

/-- A close is the press that begins a burst if the contact rested before. -/
theorem Shows.firstPress_iff (hs : Shows p_switch h) :
    p_switch.FirstPress e.contact ↔ h.contact.Closes e.held ∧ h.recent = none := by
  have hpresses := presses_iff_arrives (e := e.held) hs.tracks.range
  rw [hs.closes_iff]
  constructor
  · intro hfirst
    refine ⟨⟨hpresses.mp ⟨hfirst.closed, hfirst.debounce, hfirst.reaches⟩, hfirst.status⟩, ?_⟩
    cases hrecent : h.recent with
    | none => rfl
    | some stamp =>
        have hcounter := (hs.burst stamp hrecent).1
        rw [hfirst.counter] at hcounter
        cases hcounter
  · rintro ⟨⟨harrives, hopen⟩, hrecent⟩
    have hpress : p_switch.Presses e.held := hpresses.mpr harrives
    exact ⟨hpress.closed, hs.tracks.settled, hpress.debounce, hpress.reaches, hopen,
      (hs.idle hrecent).1⟩

/-- An open is the release of a burst with one press. -/
theorem Shows.singleRelease_iff (hs : Shows p_switch h) :
    p_switch.SingleRelease e.contact ↔ h.contact.Opens e.held := by
  have hdrops := opens_iff_drops (e := e.held) hs.tracks.range
  constructor
  · intro hrelease
    rw [hs.opens_iff]
    exact ⟨hdrops.mp ⟨hrelease.opened, hrelease.debounce, hrelease.reaches⟩, hrelease.pressed,
      hrelease.status⟩
  · intro hopens
    rcases hs.opens_iff.mp hopens with ⟨hdrop, hpressed, hclosed⟩
    have hopened : p_switch.Opens e.held := hdrops.mpr hdrop
    have hcounter : p_switch.counter = 1 := by
      cases hrecent : h.recent with
      | none =>
          rw [(hs.idle hrecent).2.1] at hpressed
          cases hpressed
      | some stamp => exact (hs.burst stamp hrecent).1
    exact ⟨hopened.opened, hs.tracks.settled, hopened.debounce, hopened.reaches, hpressed, hclosed,
      hcounter⟩

end Switch

/-! ## The relay behind a poll -/

theorem not_drives_of_commandOf {d : Device} {call : SwitchCall} (hnone : d.commandOf call = []) :
    ¬call.Drives := by
  intro hdrives
  cases call with
  | firstStart => cases hnone
  | cmdOnOffOn => cases hnone
  | cmdOnOffOff => cases hnone
  | cmdOnOffToggle => cases hnone
  | _ => exact hdrives

theorem not_drives_of_flatMap {d : Device} {calls : List SwitchCall}
    (hnone : calls.flatMap d.commandOf = []) : ∀ call ∈ calls, ¬call.Drives :=
  fun call hcall => not_drives_of_commandOf (List.flatMap_eq_nil_iff.mp hnone call hcall)

/-- The command that gives the relay a status. -/
def Commands (call : SwitchCall) (v : UInt8) : Prop :=
  (call = .cmdOnOffOn ∧ v = ZCL_ONOFF_STATUS_ON) ∨ (call = .cmdOnOffOff ∧ v = ZCL_ONOFF_STATUS_OFF)

theorem switchCall_of_commands (d : Device) {call : SwitchCall} {v : UInt8}
    (hcommands : Commands call v) : d.switchCall call = relayCommand d v := by
  rcases hcommands with ⟨rfl, rfl⟩ | ⟨rfl, rfl⟩
  · exact cmdOnOffOn_eq d
  · exact cmdOnOffOff_eq d

/-- The relay is where the only command among the calls has put it. -/
theorem lastDriven_switchCalls {d₀ d : Device} {calls : List SwitchCall} {command : SwitchCall}
    {v : UInt8} (hen : d.device.device_en = true) (hcommands : Commands command v)
    (hstarted : .firstStart ∉ calls) (hcalls : calls.flatMap d₀.commandOf = [command]) :
    LastDriven (calls.foldl Device.switchCall d) (d.device.relayLevel v) ∧
      (calls.foldl Device.switchCall d).device = d.device := by
  induction calls generalizing d with
  | nil => cases hcalls
  | cons call calls ih =>
      rw [List.mem_cons, not_or] at hstarted
      rw [List.flatMap_cons] at hcalls
      rw [List.foldl_cons]
      by_cases hnone : d₀.commandOf call = []
      · have hundriven := undriven_switchCall d (not_drives_of_commandOf hnone)
        rw [hnone, List.nil_append] at hcalls
        rw [← hundriven.device] at hen ⊢
        exact ih hen hstarted.2 hcalls
      · have hcall : d₀.commandOf call = [call] := by
          cases call with
          | firstStart => exact absurd rfl hstarted.1
          | cmdOnOffOn => rfl
          | cmdOnOffOff => rfl
          | cmdOnOffToggle => rfl
          | _ => exact absurd rfl hnone
        rw [hcall, List.singleton_append, List.cons.injEq] at hcalls
        rcases hcalls with ⟨rfl, hrest⟩
        have hundriven := undriven_switchCalls (d.switchCall call) (not_drives_of_flatMap hrest)
        rw [switchCall_of_commands d hcommands] at hundriven ⊢
        refine ⟨?_, hundriven.device.trans (relayCommand_device d v)⟩
        rw [LastDriven, hundriven.relays]
        exact lastDriven_relayCommand v hen

/-- The relay is where the only command of a poll has put it. -/
theorem lastDriven_poll {d : Device} {e : Sample × Poll} {command : SwitchCall} {v : UInt8}
    (hen : d.device.device_en = true) (hcommands : Commands command v)
    (hstarted : d.app_switch.status ≠ .SWITCH_FLOAT) (hcalls : d.relayCommands e = [command]) :
    LastDriven (d.poll e) (d.device.relayLevel v) ∧ (d.poll e).device = d.device := by
  have hnot : SwitchCall.firstStart ∉ d.calls e.1 e.2 :=
    fun hmem => hstarted (float_of_firstStart hmem).2
  rw [Device.poll, switchHandler_calls]
  exact lastDriven_switchCalls (d := { d with app_switch := d.polled e.1 e.2 }) hen hcommands hnot
    hcalls

/-! ## Runs of polls -/

/-- A coupled momentary switch of a device with a relay. -/
structure CoupledMomentary (d : Device) : Prop where
  amt : 0 < d.dev_relay_amt
  switchType : d.relay_settings.switchType = ZCL_SWITCH_TYPE_MOMENTARY
  coupled : d.relay_settings.switch_decoupled = CUSTOM_SWITCH_DECOUPLED_OFF
  model : d.device ∈ switchDevices
  enabled : d.device.device_en = true

/-- The status that {lit}`switchActions` gives a closed and an open contact. -/
def RelaySettings.contactStatus (s : RelaySettings) (closed : Bool) : UInt8 :=
  if closed = decide (s.switchActions = ZCL_SWITCH_ACTION_OFF_ON) then ZCL_ONOFF_STATUS_ON
  else ZCL_ONOFF_STATUS_OFF

/-- Since the contact was first closed, the relay is at the level of the contact. -/
def RelayFollows (d : Device) (h : ContactHistory) : Prop :=
  h.everClosed = true →
    LastDriven d (d.device.relayLevel (d.relay_settings.contactStatus h.contact.closed))

/-- A poll as the contact and the clock. -/
def Device.sampled (d : Device) (e : Sample × Poll) : HeldPoll := ⟨d.contact e.1, e.2⟩

/-- A poll of the device as a step of the history. -/
def Device.recall (d : Device) (h : ContactHistory) (e : Sample × Poll) : ContactHistory :=
  h.next (d.sampled e)

/-- The history behind polls. -/
def Device.history (d : Device) (es : List (Sample × Poll)) : ContactHistory :=
  run d.recall {} es

section Momentary

variable {s : RelaySettings}

theorem commands_press (htype : s.switchType = ZCL_SWITCH_TYPE_MOMENTARY)
    (hcoupled : s.switch_decoupled = CUSTOM_SWITCH_DECOUPLED_OFF) :
    Commands (pressCommand s) (s.contactStatus true) := by
  unfold pressCommand RelaySettings.contactStatus
  simp only [if_pos htype, if_pos hcoupled]
  by_cases hactions : s.switchActions = ZCL_SWITCH_ACTION_OFF_ON
  · rw [if_pos hactions, if_pos (by simp [hactions])]
    exact .inl ⟨rfl, rfl⟩
  · rw [if_neg hactions, if_neg (by simp [hactions])]
    exact .inr ⟨rfl, rfl⟩

theorem commands_release : Commands s.releaseCommand (s.contactStatus false) := by
  unfold RelaySettings.releaseCommand RelaySettings.contactStatus
  by_cases hactions : s.switchActions = ZCL_SWITCH_ACTION_OFF_ON
  · rw [if_pos hactions, if_neg (by simp [hactions])]
    exact .inr ⟨rfl, rfl⟩
  · rw [if_neg hactions, if_pos (by simp [hactions])]
    exact .inl ⟨rfl, rfl⟩

theorem contactStatus_level_ne {device : SwitchDevice} (hmodel : device ∈ switchDevices)
    (hen : device.device_en = true) :
    device.relayLevel (s.contactStatus true) ≠ device.relayLevel (s.contactStatus false) := by
  have hne := relayOn_ne_relayOff hmodel hen
  unfold RelaySettings.contactStatus
  by_cases hactions : s.switchActions = ZCL_SWITCH_ACTION_OFF_ON
  · simpa [hactions, SwitchDevice.relayLevel, ZCL_ONOFF_STATUS_ON, ZCL_ONOFF_STATUS_OFF] using hne
  · simpa [hactions, SwitchDevice.relayLevel, ZCL_ONOFF_STATUS_ON, ZCL_ONOFF_STATUS_OFF]
      using hne.symm

end Momentary

/-- A device behind polls and the history of its contact. -/
structure FollowsFrom (d d' : Device) (h : ContactHistory) : Prop where
  settings : d'.relay_settings = d.relay_settings
  amt : d'.dev_relay_amt = d.dev_relay_amt
  model : d'.device_switch_model = d.device_switch_model
  device : d'.device = d.device
  shows : Shows d'.app_switch h
  relay : RelayFollows d' h

section Follows

variable {d d' : Device} {h : ContactHistory} {e : Sample × Poll}

theorem FollowsFrom.coupled (hd : CoupledMomentary d) (hf : FollowsFrom d d' h) :
    CoupledMomentary d' where
  amt := by
    rw [hf.amt]
    exact hd.amt
  switchType := by
    rw [hf.settings]
    exact hd.switchType
  coupled := by
    rw [hf.settings]
    exact hd.coupled
  model := by
    rw [hf.device]
    exact hd.model
  enabled := by
    rw [hf.device]
    exact hd.enabled

theorem FollowsFrom.sampled (hf : FollowsFrom d d' h) (e : Sample × Poll) :
    d'.sampled e = d.sampled e := by
  rw [Device.sampled, Device.sampled, Device.contact, Device.contact, hf.model]

/-- The commands of a poll of a device that is joined. -/
theorem relayCommands_follow (hd : CoupledMomentary d) (hs : Shows d.app_switch h)
    (hjoined : e.2.joined = true) :
    d.relayCommands e =
      if h.contact.Closes (d.sampled e) ∧ h.recent = none then [pressCommand d.relay_settings]
      else if h.contact.Opens (d.sampled e) then [d.relay_settings.releaseCommand]
      else [] := by
  have hpress := hs.firstPress_iff (e := ⟨d.relay_settings, d.contact e.1, e.2⟩)
  have hrelease := hs.singleRelease_iff (e := ⟨d.relay_settings, d.contact e.1, e.2⟩)
  rw [relayCommands_toggle (Or.inr hd.switchType) hd.coupled hd.amt, if_neg hs.tracks.settled,
    releaseCommands_momentary hd.switchType hd.coupled]
  simp only [hpress, hrelease, hjoined, and_true]
  rfl

/-- The switch of a device behind a poll. -/
theorem shows_poll (hd : CoupledMomentary d) (hs : Shows d.app_switch h)
    (hrested : h.ClosesRested (d.sampled e)) :
    Shows (d.poll e).app_switch (h.next (d.sampled e)) := by
  have hstep := shows_step (e := ⟨d.relay_settings, d.contact e.1, e.2⟩) hs hrested
  rw [poll_app_switch, polled_of_toggle (Or.inr hd.switchType) hd.amt]
  exact hstep

/-- A poll that commands no relay. -/
theorem undriven_poll (hnone : d.relayCommands e = []) : Undriven d (d.poll e) :=
  undriven_of_calls (not_drives_of_flatMap hnone)

/-- Where a poll leaves the relay, if it closes the contact only when it rested. -/
theorem relay_poll (hd : CoupledMomentary d) (hs : Shows d.app_switch h)
    (hjoined : e.2.joined = true) (hrested : h.ClosesRested (d.sampled e))
    (hfollows : RelayFollows d h) :
    RelayFollows (d.poll e) (h.next (d.sampled e)) ∧ (d.poll e).device = d.device := by
  have hcommands := relayCommands_follow hd hs hjoined
  unfold RelayFollows
  rw [poll_settings]
  by_cases hcloses : h.contact.Closes (d.sampled e)
  · rw [if_pos ⟨hcloses, hrested hcloses⟩] at hcommands
    rcases lastDriven_poll hd.enabled (commands_press hd.switchType hd.coupled) hs.tracks.settled
      hcommands with ⟨hdriven, hdevice⟩
    have hclosed : (h.next (d.sampled e)).contact.closed = true := Contact.next_of_closes hcloses
    rw [hdevice, hclosed]
    exact ⟨fun _ => hdriven, rfl⟩
  · rw [if_neg fun h => hcloses h.1] at hcommands
    by_cases hopens : h.contact.Opens (d.sampled e)
    · rw [if_pos hopens] at hcommands
      rcases lastDriven_poll hd.enabled commands_release hs.tracks.settled hcommands with
        ⟨hdriven, hdevice⟩
      have hclosed : (h.next (d.sampled e)).contact.closed = false := Contact.next_of_opens hopens
      rw [hdevice, hclosed]
      exact ⟨fun _ => hdriven, rfl⟩
    · rw [if_neg hopens] at hcommands
      have hundriven := undriven_poll hcommands
      have hclosed : (h.next (d.sampled e)).contact.closed = h.contact.closed :=
        Contact.next_of_neither hcloses hopens
      rw [hundriven.device, hclosed, LastDriven, hundriven.relays]
      refine ⟨fun hever => hfollows ?_, rfl⟩
      simpa [ContactHistory.next, hcloses] using hever

theorem followsFrom_step (hd : CoupledMomentary d) (hf : FollowsFrom d d' h)
    (hjoined : e.2.joined = true) (hrested : h.ClosesRested (d.sampled e)) :
    FollowsFrom d (d'.poll e) (h.next (d.sampled e)) := by
  have hd' := hf.coupled hd
  rw [← hf.sampled] at hrested ⊢
  rcases relay_poll hd' hf.shows hjoined hrested hf.relay with ⟨hrelay, hdevice⟩
  refine ⟨?_, ?_, ?_, hdevice.trans hf.device, shows_poll hd' hf.shows hrested, hrelay⟩
  · rw [poll_settings]
    exact hf.settings
  · rw [poll_amt]
    exact hf.amt
  · rw [poll_model]
    exact hf.model

/-- A poll that closes the contact too early leaves the relay where the open contact had
put it. -/
theorem rested_of_follows (hd : CoupledMomentary d) (hf : FollowsFrom d d' h)
    (hjoined : e.2.joined = true)
    (hnext : RelayFollows (d'.poll e) (h.next (d.sampled e))) :
    h.ClosesRested (d.sampled e) := by
  intro hcloses
  by_contra hrecent
  rcases Option.ne_none_iff_exists'.mp hrecent with ⟨stamp, hsome⟩
  have hever := (hf.shows.burst stamp hsome).2.2.2.2
  have hd' := hf.coupled hd
  rw [← hf.sampled] at hcloses hnext
  have hopens : ¬h.contact.Opens (d'.sampled e) := by
    intro hopens
    have hclosed := hopens.1
    rw [hcloses.1] at hclosed
    cases hclosed
  have hcommands := relayCommands_follow hd' hf.shows hjoined
  rw [if_neg fun h => hrecent h.2, if_neg hopens] at hcommands
  have hundriven := undriven_poll hcommands
  have hbefore := hf.relay hever
  have hbehind := hnext (by simp [ContactHistory.next, hever])
  rw [LastDriven, hundriven.relays, hundriven.device, poll_settings,
    show (h.next (d'.sampled e)).contact.closed = true from Contact.next_of_closes hcloses,
    ← LastDriven] at hbehind
  rw [hcloses.1] at hbefore
  exact contactStatus_level_ne hd'.model hd'.enabled
    (Option.some.inj (hbehind.symm.trans hbefore))

end Follows

/-- A switch at rest is as an empty history says. -/
theorem shows_atRest {p_switch : AppSwitch} (hs : AtRest p_switch) : Shows p_switch {} := by
  refine ⟨hs.tracks, hs.debounce, hs.status, fun _ => ?_, fun stamp hsome => ?_⟩
  · exact ⟨hs.counter, hs.pressed, hs.released, rfl⟩
  · cases hsome

/-- A poll of a device together with the history. -/
def followStep (d : Device) (s : Device × ContactHistory) (e : Sample × Poll) :
    Device × ContactHistory := (s.1.poll e, d.recall s.2 e)

theorem followStep_run (d : Device) (es : List (Sample × Poll)) :
    run (followStep d) (d, {}) es = (run Device.poll d es, d.history es) :=
  Prod.ext (run_map (fun _ _ => rfl) _ es) (run_map (fun _ _ => rfl) _ es)

/-- From a settled open contact on, for every run of polls of a device that is joined: the
relay is at the level of the debounced contact from the first close on exactly if no close
comes before half a second since the close before it is seen with the contact open. -/
theorem momentary_follows_iff (d : Device) (hd : CoupledMomentary d) (hrest : AtRest d.app_switch)
    (es : List (Sample × Poll)) (hjoined : ∀ e ∈ es, e.2.joined = true) :
    (∀ es', es' <+: es → RelayFollows (run Device.poll d es') (d.history es')) ↔
      Along d.recall (fun h e => h.ClosesRested (d.sampled e)) {} es := by
  have hstart : FollowsFrom d d {} :=
    ⟨rfl, rfl, rfl, rfl, shows_atRest hrest, fun hever => Bool.noConfusion hever⟩
  have hiff : (∀ es', es' <+: es → RelayFollows (run (followStep d) (d, {}) es').1
      (run (followStep d) (d, {}) es').2) ↔
      Along (followStep d) (fun s e => s.2.ClosesRested (d.sampled e)) (d, {}) es :=
    observed_iff_along (fun (s : Device × ContactHistory) (hf : FollowsFrom d s.1 s.2) =>
        hf.relay)
      (fun _ e hmem hf hrested => followsFrom_step hd hf (hjoined e hmem) hrested)
      (fun _ e hmem hf hnext => rested_of_follows hd hf (hjoined e hmem) hnext) hstart
  have halong : Along (followStep d) (fun s e => s.2.ClosesRested (d.sampled e)) (d, {}) es ↔
      Along d.recall (fun h e => h.ClosesRested (d.sampled e)) {} es :=
    along_map (fun _ _ => rfl) (fun (h : ContactHistory) e => h.ClosesRested (d.sampled e)) _ es
  rw [← halong, ← hiff]
  simp only [followStep_run]

/-- A momentary switch with a relay, at rest. -/
def restingMomentary : Device where
  log := powerOn NorFlash.Chip.erased
  nv := none
  relay_settings :=
    { switchType := ZCL_SWITCH_TYPE_MOMENTARY, switchActions := ZCL_SWITCH_ACTION_OFF_ON }
  device := { device_en := true, relay_on := true, relay_off := false }
  dev_relay_amt := AMT_RELAY
  app_switch := { debounce := 1 }

theorem coupled_restingMomentary : CoupledMomentary restingMomentary := by
  constructor <;> decide

theorem atRest_restingMomentary : AtRest restingMomentary.app_switch :=
  ⟨⟨rfl, rfl, rfl⟩, rfl, rfl⟩

/-- Polls with one contact at one time. -/
def samplesAt (n : Nat) (gpio : Bool) (clock : UInt32) : List (Sample × Poll) :=
  List.replicate n (⟨gpio, 0⟩, ⟨true, false, clock, clock, clock, clock⟩)

/-- Two presses a second apart. -/
def slowPresses : List (Sample × Poll) :=
  samplesAt 127 false 0 ++ samplesAt 127 true 0 ++ samplesAt 1 true 16000000 ++
    samplesAt 127 false 16000000

/-- The relay follows them. -/
theorem momentary_follows_slow :
    (∀ e ∈ slowPresses, e.2.joined = true) ∧
      ∀ es', es' <+: slowPresses →
        RelayFollows (run Device.poll restingMomentary es') (restingMomentary.history es') := by
  have hjoined : ∀ e ∈ slowPresses, e.2.joined = true := by
    decide +kernel
  refine ⟨hjoined, ?_⟩
  exact (momentary_follows_iff restingMomentary coupled_restingMomentary atRest_restingMomentary
    slowPresses hjoined).mpr (by decide +kernel)

/-- A press within half a second of the press before it. -/
def quickPress : List (Sample × Poll) :=
  samplesAt 127 false 0 ++ samplesAt 127 true 0 ++ samplesAt 127 false 0

/-- The contact is closed and the relay stays at the level of the open contact. -/
theorem quick_press_ignored :
    (restingMomentary.history quickPress).everClosed = true ∧
      (restingMomentary.history quickPress).contact.closed = true ∧
      ¬RelayFollows (run Device.poll restingMomentary quickPress)
        (restingMomentary.history quickPress) := by
  have hclosed : (restingMomentary.history quickPress).everClosed = true ∧
      (restingMomentary.history quickPress).contact.closed = true := by
    decide +kernel
  refine ⟨hclosed.1, hclosed.2, fun hfollows => ?_⟩
  have hdriven := hfollows hclosed.1
  rw [hclosed.2] at hdriven
  revert hdriven
  unfold LastDriven
  decide +kernel

end Firmware
