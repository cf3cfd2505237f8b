import TuyaMiniSwitch.App.RelayCommand
import TuyaMiniSwitch.Library.Machine

/-!
# Application - Bursts of presses of the button

The button is told by its key presses and releases and by the times of the polls: a
hold of more than five seconds starts the long-press action, and a burst of one press
toggles the relay a quarter of a second behind its release.  {lit}`button_handler` keeps
one state and one byte for both.

Main results:

- Theorem {lit}`buttonHandler_eq`: what a poll does, as actions and a next state.
- Theorem {lit}`tells_run`: how the state and the byte tell the key events.
- Theorem {lit}`button_bursts`: when a poll does what the key events ask for.
-/

namespace Firmware

open Utility Machine

/-! ## The actions of a poll -/

inductive ButtonAction where
  | buttonKeepPressed
  | cmdOnOffToggle
  deriving Repr, DecidableEq

def ButtonAction.run (d : Device) : ButtonAction → Device
  | .buttonKeepPressed => Firmware.buttonKeepPressed d VK_SW1
  | .cmdOnOffToggle => Firmware.cmdOnOffToggle d

/-- The test of the press. -/
def Button.pressTest (button : Button) (poll : ButtonPoll) : Bool :=
  button.state = .APP_FACTORY_NEW_SET_CHECK ∧
    clockTimeExceed poll.pressedClock button.pressed_time TIMEOUT_TICK_5SEC

/-- The test of the release. -/
def Button.releaseTest (button : Button) (poll : ButtonPoll) : Bool :=
  button.state = .APP_STATE_RELEASE ∧
    clockTimeExceed poll.releasedClock button.released_time TIMEOUT_TICK_250MS

/-- What a poll starts. -/
def Button.actions (button : Button) (poll : ButtonPoll) : List ButtonAction :=
  if button.pressTest poll then [.buttonKeepPressed]
  else if button.releaseTest poll ∧ button.ctn = 1 then [.cmdOnOffToggle]
  else []

/-- The button behind the two tests. -/
def Button.tested (button : Button) (poll : ButtonPoll) : Button :=
  if button.pressTest poll then { button with state := .APP_FACTORY_NEW_DOING, ctn := 0 }
  else if button.releaseTest poll then { button with state := .APP_STATE_NORMAL, ctn := 0 }
  else button

/-- The button behind a poll. -/
def Button.next (button : Button) (poll : ButtonPoll) : Button :=
  match poll.scan with
  | some kbEvt => buttonScan (button.tested poll) kbEvt poll.stampClock
  | none => button.tested poll

/-- A command of the relay does not look at the button. -/
theorem commitStatus_button (d : Device) (button : Button) (v : UInt8) :
    commitStatus { d with button := button } v = { commitStatus d v with button := button } := by
  unfold commitStatus
  by_cases hsame : d.attrs.onOff.onOff ≠ v ∨ d.status ≠ v
  · have hsame' : { d with button := button }.attrs.onOff.onOff ≠ v ∨
        { d with button := button }.status ≠ v := hsame
    rw [if_pos hsame, if_pos hsame']
    dsimp only [Device.setStatus, Device.setOnOffAttr]
    split <;> rfl
  · have hsame' : ¬({ d with button := button }.attrs.onOff.onOff ≠ v ∨
        { d with button := button }.status ≠ v) := hsame
    rw [if_neg hsame, if_neg hsame']

theorem setRelayStatus_button (d : Device) (button : Button) (status : UInt8) :
    setRelayStatus { d with button := button } status =
      { setRelayStatus d status with button := button } := by
  unfold setRelayStatus
  split <;> rfl

theorem cmdOnOffToggle_button (d : Device) (button : Button) :
    cmdOnOffToggle { d with button := button } = { cmdOnOffToggle d with button := button } := by
  rw [cmdOnOffToggle_eq, cmdOnOffToggle_eq, relayCommand, relayCommand,
    ← setRelayStatus_button]
  have hstatus : ({ d with button := button } : Device).status = d.status := rfl
  rw [hstatus, commitStatus_button]

theorem buttonCheckCommand_eq (d : Device) :
    buttonCheckCommand d VK_SW1 =
      { (if d.button.ctn = 1 then cmdOnOffToggle d else d) with
        button := { d.button with state := .APP_STATE_NORMAL, ctn := 0 } } := by
  have hkeep : ∀ button : Button, (cmdOnOffToggle { d with button := button }).button = button := by
    intro button
    rw [cmdOnOffToggle_button]
  unfold buttonCheckCommand buttonSinglePressed
  by_cases hone : d.button.ctn = 1
  · simp only [if_pos hone, if_true, hkeep]
    rw [cmdOnOffToggle_button]
  · simp only [if_neg hone]

/-- What a poll does to the device: its actions, and the next state of the button. -/
theorem buttonHandler_eq (d : Device) (poll : ButtonPoll) :
    buttonHandler d poll =
      { (d.button.actions poll).foldl ButtonAction.run d with button := d.button.next poll } := by
  unfold buttonHandler Button.next Button.actions Button.tested
  by_cases hpress : d.button.pressTest poll = true
  · -- behind the long press the state is not the one of a release
    have htest := of_decide_eq_true hpress
    have hkeep : (buttonKeepPressed d VK_SW1).button =
        { d.button with state := .APP_FACTORY_NEW_DOING, ctn := 0 } := by
      unfold buttonKeepPressed
      dsimp only
      split <;> rfl
    simp only [if_pos hpress, if_pos htest, hkeep, reduceCtorEq, false_and, if_false,
      List.foldl_cons, List.foldl_nil, ButtonAction.run]
    cases poll.scan with
    | none => rw [← hkeep]
    | some kbEvt => rfl
  · have htest : ¬(d.button.state = .APP_FACTORY_NEW_SET_CHECK ∧
        clockTimeExceed poll.pressedClock d.button.pressed_time TIMEOUT_TICK_5SEC = true) :=
      fun h => hpress (decide_eq_true h)
    simp only [if_neg hpress, if_neg htest]
    by_cases hrelease : d.button.releaseTest poll = true
    · have htest' := of_decide_eq_true hrelease
      rw [if_pos htest', buttonCheckCommand_eq]
      by_cases hone : d.button.ctn = 1
      · simp only [hrelease, hone, and_self, if_true, List.foldl_cons, List.foldl_nil,
          ButtonAction.run]
        cases poll.scan <;> rfl
      · simp only [hrelease, hone, and_false, if_true, if_false, List.foldl_nil]
        cases poll.scan <;> rfl
    · have htest' : ¬(d.button.state = .APP_STATE_RELEASE ∧
          clockTimeExceed poll.releasedClock d.button.released_time TIMEOUT_TICK_250MS = true) :=
        fun h => hrelease (decide_eq_true h)
      simp only [if_neg htest', hrelease]
      cases poll.scan <;> rfl

/-- The button goes its own way. -/
theorem buttonHandler_button (d : Device) (poll : ButtonPoll) :
    (buttonHandler d poll).button = d.button.next poll := by
  rw [buttonHandler_eq]

/-! ## The key events -/

inductive KeyEvent where
  | press
  | release
  deriving Repr, DecidableEq

/-- {lit}`kb_event` of the board's one key. -/
def KeyEvent.kbEvent : KeyEvent → KbEvent
  | .press => { cnt := 1, keycode := VK_SW1 }
  | .release => { cnt := 0, keycode := 0xff }

/-- A poll of the button with the key event that is scanned in it. -/
structure KeyPoll where
  pressedClock : UInt32
  releasedClock : UInt32
  stampClock : UInt32
  key : Option KeyEvent
  deriving Repr, DecidableEq

def KeyPoll.poll (p : KeyPoll) : ButtonPoll where
  pressedClock := p.pressedClock
  releasedClock := p.releasedClock
  stampClock := p.stampClock
  scan := p.key.map KeyEvent.kbEvent

inductive KeyPhase where
  | idle
  | held (since : UInt32)
  | released (since : UInt32)
  deriving Repr, DecidableEq

/-- What the key events and the times of the polls say: whether the key is held, and the
presses of the burst, the last one first, with whether the long-press action was started
in them. -/
structure KeyHistory where
  phase : KeyPhase := .idle
  burst : List Bool := []
  deriving Repr, DecidableEq

/-- The poll sees more than five seconds since the last press, for the first time. -/
def KeyHistory.overdue (h : KeyHistory) (p : KeyPoll) : Bool :=
  match h.phase with
  | .held since =>
      h.burst.head? == some false && clockTimeExceed p.pressedClock since TIMEOUT_TICK_5SEC
  | _ => false

/-- The poll sees a quarter of a second since the last release. -/
def KeyHistory.finished (h : KeyHistory) (p : KeyPoll) : Bool :=
  match h.phase with
  | .released since => clockTimeExceed p.releasedClock since TIMEOUT_TICK_250MS
  | _ => false

/-- What the key events ask of a poll. -/
def KeyHistory.expected (h : KeyHistory) (p : KeyPoll) : List ButtonAction :=
  if h.overdue p then [.buttonKeepPressed]
  else if h.finished p ∧ h.burst = [false] then [.cmdOnOffToggle]
  else []

def KeyHistory.tested (h : KeyHistory) (p : KeyPoll) : KeyHistory :=
  if h.overdue p then { h with burst := true :: h.burst.tail }
  else if h.finished p then {}
  else h

/-- A press opens a hold, and a release ends it. -/
def KeyHistory.scan (h : KeyHistory) (clock : UInt32) : KeyEvent → KeyHistory
  | .press => { phase := .held clock, burst := false :: h.burst }
  | .release =>
      match h.phase with
      | .held _ => { h with phase := .released clock }
      | _ => h

/-- The history behind a poll. -/
def KeyHistory.next (h : KeyHistory) (p : KeyPoll) : KeyHistory :=
  match p.key with
  | some key => (h.tested p).scan p.stampClock key
  | none => h.tested p

/-- The presses of the burst since the last one with a long-press action. -/
def KeyHistory.shortPresses (h : KeyHistory) : Nat :=
  (h.burst.takeWhile fun long => !long).length

/-- A burst of several presses is finished, and the number of its last short ones is one
as far as a byte goes. -/
def KeyHistory.Miscounted (h : KeyHistory) (p : KeyPoll) : Prop :=
  h.finished p = true ∧ 1 < h.burst.length ∧ h.shortPresses % 256 = 1

/-! ## The button tells the history -/

/-- The state of the button for a phase. -/
def TellsPhase (button : Button) (burst : List Bool) : KeyPhase → Prop
  | .idle => button.state = .APP_STATE_NORMAL ∧ button.valid_keyCode = 0xff ∧ burst = []
  | .held since => button.valid_keyCode = VK_SW1 ∧
      ((burst.head? = some false ∧ button.state = .APP_FACTORY_NEW_SET_CHECK ∧
          button.pressed_time = since) ∨
        (burst.head? = some true ∧ button.state = .APP_FACTORY_NEW_DOING))
  | .released since => button.valid_keyCode = 0xff ∧ button.state = .APP_STATE_RELEASE ∧
      button.released_time = since

/-- The state and the byte of the button tell the history. -/
structure Tells (button : Button) (h : KeyHistory) : Prop where
  ctn : button.ctn = h.shortPresses % 256
  phase : TellsPhase button h.burst h.phase

section Tells

variable {button : Button} {h : KeyHistory}

theorem Tells.pressTest (htells : Tells button h) (p : KeyPoll) :
    button.pressTest p.poll = h.overdue p := by
  have hphase := htells.phase
  unfold Button.pressTest KeyHistory.overdue
  cases hcase : h.phase with
  | idle =>
      rw [hcase] at hphase
      simp [hphase.1]
  | held since =>
      rw [hcase] at hphase
      rcases hphase.2 with ⟨hhead, hstate, htime⟩ | ⟨hhead, hstate⟩
      · simp [hhead, hstate, htime, KeyPoll.poll]
      · simp [hhead, hstate]
  | released since =>
      rw [hcase] at hphase
      simp [hphase.2.1]

theorem Tells.releaseTest (htells : Tells button h) (p : KeyPoll) :
    button.releaseTest p.poll = h.finished p := by
  have hphase := htells.phase
  unfold Button.releaseTest KeyHistory.finished
  cases hcase : h.phase with
  | idle =>
      rw [hcase] at hphase
      simp [hphase.1]
  | held since =>
      rw [hcase] at hphase
      rcases hphase.2 with ⟨hhead, hstate, htime⟩ | ⟨hhead, hstate⟩
      · simp [hstate]
      · simp [hstate]
  | released since =>
      rw [hcase] at hphase
      simp [hphase.2, KeyPoll.poll]

theorem held_of_overdue {p : KeyPoll} (hover : h.overdue p = true) :
    ∃ since, h.phase = .held since := by
  unfold KeyHistory.overdue at hover
  split at hover
  · rename_i since hphase
    exact ⟨since, hphase⟩
  · cases hover

theorem released_of_finished {p : KeyPoll} (hfinished : h.finished p = true) :
    ∃ since, h.phase = .released since := by
  unfold KeyHistory.finished at hfinished
  split at hfinished
  · rename_i since hphase
    exact ⟨since, hphase⟩
  · cases hfinished

/-- The two tests of a poll. -/
theorem Tells.tested (htells : Tells button h) (p : KeyPoll) :
    Tells (button.tested p.poll) (h.tested p) := by
  have hphase := htells.phase
  unfold Button.tested KeyHistory.tested
  rw [htells.pressTest, htells.releaseTest]
  by_cases hover : h.overdue p = true
  · rw [if_pos hover, if_pos hover]
    rcases held_of_overdue hover with ⟨since, hheld⟩
    rw [hheld] at hphase
    refine ⟨by simp [KeyHistory.shortPresses], ?_⟩
    rw [hheld]
    exact ⟨hphase.1, .inr ⟨rfl, rfl⟩⟩
  · rw [if_neg hover, if_neg hover]
    by_cases hfinished : h.finished p = true
    · rw [if_pos hfinished, if_pos hfinished]
      rcases released_of_finished hfinished with ⟨since, hreleased⟩
      rw [hreleased] at hphase
      exact ⟨rfl, rfl, hphase.1, rfl⟩
    · rw [if_neg hfinished, if_neg hfinished]
      exact htells

/-- A press is counted, and a release without a press is ignored. -/
theorem Tells.scan (htells : Tells button h) (clock : UInt32) (key : KeyEvent) :
    Tells (buttonScan button key.kbEvent clock) (h.scan clock key) := by
  have hphase := htells.phase
  have hctn := htells.ctn
  cases key with
  | press =>
      have hcount : (button.ctn + 1) % 256 = (h.shortPresses + 1) % 256 := by
        rw [hctn]
        omega
      refine ⟨?_, rfl, .inl ⟨rfl, rfl, rfl⟩⟩
      simpa [buttonScan, keyScanKeyPressedCB, KeyEvent.kbEvent, VK_SW1, KeyHistory.scan,
        KeyHistory.shortPresses] using hcount
  | release =>
      unfold KeyHistory.scan
      simp only [buttonScan, keyScanKeyReleasedCB, KeyEvent.kbEvent]
      cases hcase : h.phase with
      | idle =>
          rw [hcase] at hphase
          rcases hphase with ⟨hstate, hkey, hburst⟩
          refine ⟨by simpa [hkey] using hctn, ?_⟩
          rw [hcase]
          exact ⟨by simpa [hkey] using hstate, rfl, hburst⟩
      | held since =>
          rw [hcase] at hphase
          have hkey : button.valid_keyCode ≠ 0xff := by
            rw [hphase.1]
            decide
          exact ⟨by simpa [hkey, KeyHistory.shortPresses] using hctn,
            by simp [hkey, TellsPhase]⟩
      | released since =>
          rw [hcase] at hphase
          rcases hphase with ⟨hkey, hstate, htime⟩
          refine ⟨by simpa [hkey] using hctn, ?_⟩
          rw [hcase]
          exact ⟨rfl, by simpa [hkey] using hstate, by simpa [hkey] using htime⟩

/-- One poll. -/
theorem Tells.next (htells : Tells button h) (p : KeyPoll) :
    Tells (button.next p.poll) (h.next p) := by
  have htested := htells.tested p
  have hscan : p.poll.scan = p.key.map KeyEvent.kbEvent := rfl
  unfold Button.next KeyHistory.next
  rw [hscan]
  cases p.key with
  | none => exact htested
  | some key => exact htested.scan p.stampClock key

theorem Tells.run (htells : Tells button h) (polls : List KeyPoll) :
    Tells (Machine.run (fun button p => Button.next button p.poll) button polls)
      (Machine.run KeyHistory.next h polls) := by
  induction polls generalizing button h with
  | nil => exact htells
  | cons p polls ih => exact ih (htells.next p)

end Tells

/-! ## Runs -/

/-- The key events of a run of polls. -/
def keyHistory (polls : List KeyPoll) : KeyHistory :=
  run KeyHistory.next {} polls

/-- The device behind a run of polls from a button at rest on. -/
def buttonRun (d : Device) (polls : List KeyPoll) : Device :=
  run (fun d p => buttonHandler d p.poll) { d with button := {} } polls

/-- Behind every run the button tells the history of the key events. -/
theorem tells_run (d : Device) (polls : List KeyPoll) :
    Tells (buttonRun d polls).button (keyHistory polls) := by
  have hstart : Tells {} {} := ⟨rfl, rfl, rfl, rfl⟩
  have hbutton : (buttonRun d polls).button =
      run (fun button p => Button.next button p.poll) {} polls :=
    run_map (fun d p => buttonHandler_button d p.poll) _ polls
  rw [hbutton]
  exact hstart.run polls

/-- The byte tells a burst of one short press from the others, unless it is one of several
presses that are miscounted. -/
theorem single_press_iff (burst : List Bool) :
    ((burst.takeWhile fun long => !long).length % 256 = 1 ↔ burst = [false]) ↔
      ¬(1 < burst.length ∧ (burst.takeWhile fun long => !long).length % 256 = 1) := by
  cases burst with
  | nil => simp
  | cons last earlier =>
      cases earlier with
      | nil => cases last <;> simp
      | cons long earlier => simp

/-- Behind any run of polls with any key events: what the next poll starts is what the key
events ask for, the long-press action once in a hold that is overdue and the toggle once
behind a burst of one press without it, unless the poll finishes a burst that is
miscounted. -/
theorem button_bursts (d : Device) (polls : List KeyPoll) (p : KeyPoll) :
    buttonHandler (buttonRun d polls) p.poll =
        { ((buttonRun d polls).button.actions p.poll).foldl ButtonAction.run
            (buttonRun d polls) with
          button := (buttonRun d polls).button.next p.poll } ∧
      ((buttonRun d polls).button.actions p.poll = (keyHistory polls).expected p ↔
        ¬(keyHistory polls).Miscounted p) := by
  have htells := tells_run d polls
  refine ⟨buttonHandler_eq _ _, ?_⟩
  unfold Button.actions KeyHistory.expected KeyHistory.Miscounted
  rw [htells.pressTest, htells.releaseTest, htells.ctn]
  by_cases hover : (keyHistory polls).overdue p = true
  · -- a key that is held has finished no burst
    rcases held_of_overdue hover with ⟨since, hheld⟩
    have hfinished : (keyHistory polls).finished p = false := by
      simp [KeyHistory.finished, hheld]
    simp [hover, hfinished]
  · by_cases hfinished : (keyHistory polls).finished p = true
    · have hsingle := single_press_iff (keyHistory polls).burst
      simp only [hover, hfinished, true_and]
      rw [← KeyHistory.shortPresses] at hsingle
      rw [← hsingle]
      by_cases hone : (keyHistory polls).shortPresses % 256 = 1
      · by_cases hburst : (keyHistory polls).burst = [false]
        · simp [hone, hburst]
        · simp [hone, hburst]
      · by_cases hburst : (keyHistory polls).burst = [false]
        · simp [hone, hburst]
        · simp [hone, hburst]
    · simp [hover, hfinished]

/-- A device whose button was never pressed. -/
def restingButton : Device where
  log := OnOffLog.powerOn NorFlash.Chip.erased
  nv := none

/-- A poll at a time in microseconds. -/
def keyPoll (time : UInt32) (key : Option KeyEvent) : KeyPoll where
  pressedClock := time * 16
  releasedClock := time * 16
  stampClock := time * 16
  key := key

/-- Many presses in quick succession. -/
def quickPresses (n : Nat) : List KeyPoll :=
  (List.replicate n [keyPoll 0 (some .press), keyPoll 0 (some .release)]).flatten

/-- A hold of six seconds, and a short press right behind it. -/
def holdThenPress : List KeyPoll :=
  [keyPoll 0 (some .press), keyPoll 6000000 none, keyPoll 6000000 (some .release),
    keyPoll 6000000 (some .press), keyPoll 6000000 (some .release)]

/-- A burst of 257 presses toggles the relay, and so does a burst of a long press and a
short one. -/
theorem bursts_toggle :
    ((keyHistory (quickPresses 257)).burst.length = 257 ∧
      (keyHistory (quickPresses 257)).expected (keyPoll 300000 none) = [] ∧
      (buttonRun restingButton (quickPresses 257)).button.actions (keyPoll 300000 none).poll =
        [.cmdOnOffToggle]) ∧
    ((keyHistory holdThenPress).burst = [false, true] ∧
      (keyHistory holdThenPress).expected (keyPoll 6300000 none) = [] ∧
      (buttonRun restingButton holdThenPress).button.actions (keyPoll 6300000 none).poll =
        [.cmdOnOffToggle]) := by
  refine ⟨⟨?_, ?_, ?_⟩, ?_, ?_, ?_⟩
  all_goals decide +kernel

end Firmware
