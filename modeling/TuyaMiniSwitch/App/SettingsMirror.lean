import TuyaMiniSwitch.App.BootState
import TuyaMiniSwitch.App.WrittenAttributes

/-!
# Application - Attributes and settings

The firmware keeps its settings twice, in {lit}`relay_settings` and in the
attributes.  The foundation writes the attributes of a whole frame before the
application looks at its first record, so when a record forces the switch to be
decoupled, the attribute is written behind every record of the frame and the
setting is not.

Main results:

- Theorem {lit}`mirrors_writeFrame_iff`: when a frame keeps the two copies alike.
- Theorem {lit}`attributes_mirror_iff`: when they are alike over a whole run.
-/

namespace Firmware

open Machine OnOffLog

/-- The attributes show the settings. -/
structure Mirrors (d : Device) : Prop where
  startUpOnOff : d.attrs.onOff.startUpOnOff = d.relay_settings.startUpOnOff
  switchActions : d.attrs.onOffCfg.switchActions = d.relay_settings.switchActions
  switchType : d.attrs.onOffCfg.switchType = d.relay_settings.switchType
  custom_swtichType : d.attrs.onOffCfg.custom_swtichType = d.relay_settings.switchType
  custom_decoupled : d.attrs.onOffCfg.custom_decoupled = d.relay_settings.switch_decoupled

/-- Behind the last setting that forces decoupling, the last record about decoupling,
if there is one, asks for {lit}`CUSTOM_SWITCH_DECOUPLED_ON`. -/
def KeepsMirror (s : RelaySettings) : List Setting → Prop
  | [] => True
  | setting :: settings =>
      (Forces s setting → ¬ Sometime RelaySettings.set Forces (s.set setting) settings →
        lastValue .custom_decoupled CUSTOM_SWITCH_DECOUPLED_ON.toUInt16 settings =
          CUSTOM_SWITCH_DECOUPLED_ON.toUInt16) ∧
      KeepsMirror (s.set setting) settings

instance decidableKeepsMirror (s : RelaySettings) : DecidablePred (KeepsMirror s)
  | [] => inferInstanceAs (Decidable True)
  | setting :: settings =>
      have := decidableKeepsMirror (s.set setting) settings
      inferInstanceAs (Decidable (_ ∧ KeepsMirror (s.set setting) settings))

/-! ## The settings of a frame -/

theorem set_of_forces {s : RelaySettings} {setting : Setting} (hforces : Forces s setting) :
    (s.set setting).switch_decoupled = CUSTOM_SWITCH_DECOUPLED_ON := by
  cases setting with
  | switchType type => simp only [RelaySettings.set, if_pos hforces]
  | switch_decoupled decoupled => simp only [RelaySettings.set, if_pos hforces]
  | _ => exact False.elim hforces

/-- Where a frame forces decoupling, it keeps the copies alike exactly when the
setting stays what was forced. -/
theorem keepsMirror_iff {s : RelaySettings} {settings : List Setting} :
    KeepsMirror s settings ↔ (Sometime RelaySettings.set Forces s settings →
      (run RelaySettings.set s settings).switch_decoupled = CUSTOM_SWITCH_DECOUPLED_ON) := by
  induction settings generalizing s with
  | nil => exact iff_of_true trivial False.elim
  | cons setting settings ih =>
      rw [KeepsMirror, ih, Sometime, run_cons]
      by_cases hlater : Sometime RelaySettings.set Forces (s.set setting) settings
      · constructor
        · intro h _
          exact h.2 hlater
        · intro h
          exact ⟨fun _ hnot => absurd hlater hnot, fun _ => h (Or.inr hlater)⟩
      · by_cases hforces : Forces s setting
        · have hread := run_set_read .custom_decoupled (s := s.set setting) fun _ => hlater
          rw [RelaySettings.read, RelaySettings.read, set_of_forces hforces] at hread
          rw [← toUInt16_inj, hread]
          constructor
          · intro h _
            exact h.1 hforces hlater
          · intro h
            exact ⟨fun _ _ => h (Or.inl hforces), fun h' => absurd h' hlater⟩
        · constructor
          · rintro - (h | h)
            · exact absurd h hforces
            · exact absurd h hlater
          · intro _
            exact ⟨fun h => absurd h hforces, fun h => absurd h hlater⟩

/-! ## One frame -/

/-- A setting keeps the two copies of the switch type alike. -/
theorem handle_switchType {d : Device} (setting : Setting)
    (hd : d.attrs.onOffCfg.switchType = d.relay_settings.switchType) :
    (d.handle setting).attrs.onOffCfg.switchType =
      (d.handle setting).relay_settings.switchType := by
  rw [handle_onOffCfg, handle_settings, OnOffCfgAttr.set]
  dsimp only
  split
  · rfl
  · rename_i hkeeps
    rw [hd]
    cases setting with
    | switchType type => exact Decidable.not_not.mp hkeeps
    | _ => rfl

theorem run_handle_switchType {d : Device} (settings : List Setting)
    (hd : d.attrs.onOffCfg.switchType = d.relay_settings.switchType) :
    (run Device.handle d settings).attrs.onOffCfg.switchType =
      (run RelaySettings.set d.relay_settings settings).switchType := by
  rw [← run_map handle_settings d settings]
  exact run_invariant_always
    (fun d : Device => d.attrs.onOffCfg.switchType = d.relay_settings.switchType)
    (fun _ setting hsame => handle_switchType setting hsame) settings hd

/-- The decoupled attribute behind the handler. -/
theorem run_handle_decoupled (d : Device) (settings : List Setting) :
    (run Device.handle d settings).attrs.onOffCfg.custom_decoupled =
      if Sometime RelaySettings.set Forces d.relay_settings settings then
        CUSTOM_SWITCH_DECOUPLED_ON
      else d.attrs.onOffCfg.custom_decoupled := by
  induction settings generalizing d with
  | nil => rfl
  | cons setting settings ih =>
      rw [run_cons, ih, handle_settings, handle_onOffCfg, OnOffCfgAttr.set]
      dsimp only
      by_cases hlater : Sometime RelaySettings.set Forces (d.relay_settings.set setting) settings
      · have hsome : Sometime RelaySettings.set Forces d.relay_settings (setting :: settings) :=
          Or.inr hlater
        rw [if_pos hlater, if_pos hsome]
      · rw [if_neg hlater]
        by_cases hforces : Forces d.relay_settings setting
        · have hsome : Sometime RelaySettings.set Forces d.relay_settings (setting :: settings) :=
            Or.inl hforces
          rw [if_pos hforces, if_pos hsome]
        · have hnever : ¬ Sometime RelaySettings.set Forces d.relay_settings
              (setting :: settings) := not_or.mpr ⟨hforces, hlater⟩
          rw [if_neg hforces, if_neg hnever]

/-- A frame keeps the decoupled attribute like the setting exactly when it keeps the
mirror. -/
theorem writeFrame_decoupled_iff {d : Device} (frame : ConfigFrame)
    (hd : d.attrs.onOffCfg.custom_decoupled = d.relay_settings.switch_decoupled) :
    (d.writeFrame frame).attrs.onOffCfg.custom_decoupled =
        (d.writeFrame frame).relay_settings.switch_decoupled ↔
      KeepsMirror d.relay_settings frame.settings := by
  rcases writeFrame_settings d frame with ⟨crc, hsettings⟩
  have htarget : AttrData.custom_decoupled ∈ settingTargets := by
    decide
  have hwritten := zclWriteHandler_read d.attrs htarget frame.accepted fun _ => frame.inRange
  rw [keepsMirror_iff, hsettings, Device.writeFrame, writeCommand, appZclWriteReqCmd_attrs,
    run_handle_decoupled]
  dsimp only
  show (if Sometime RelaySettings.set Forces d.relay_settings frame.settings then _ else _) = _ ↔ _
  by_cases hforces : Sometime RelaySettings.set Forces d.relay_settings frame.settings
  · rw [if_pos hforces]
    constructor
    · intro heq _
      exact heq.symm
    · intro h
      exact (h hforces).symm
  · have hset := run_set_read .custom_decoupled fun _ => hforces
    rw [if_neg hforces]
    refine iff_of_true ?_ fun h => absurd h hforces
    rw [← toUInt16_inj]
    simp only [RelaySettings.read, ← hd] at hset
    exact hwritten.trans hset.symm

/-- A frame keeps the attributes like the settings exactly when it keeps the mirror. -/
theorem mirrors_writeFrame_iff {d : Device} (frame : ConfigFrame) (hd : Mirrors d) :
    Mirrors (d.writeFrame frame) ↔ KeepsMirror d.relay_settings frame.settings := by
  rw [← writeFrame_decoupled_iff frame hd.custom_decoupled]
  have hread : ∀ data ∈ settingTargets, data ≠ .custom_decoupled →
      d.attrs.read data = d.relay_settings.read data →
      (d.writeFrame frame).attrs.read data = (d.writeFrame frame).relay_settings.read data := by
    intro data hdata hne hsame
    rw [writeFrame_read hdata hne, writeFrame_settings_read hne, hsame]
  have htype : (d.writeFrame frame).attrs.onOffCfg.switchType =
      (d.writeFrame frame).relay_settings.switchType := by
    rcases writeFrame_settings d frame with ⟨crc, hsettings⟩
    rw [hsettings, Device.writeFrame, writeCommand, appZclWriteReqCmd_attrs]
    apply run_handle_switchType
    rw [← toUInt16_inj]
    have hkept : NotWritable .switchType := by
      decide
    exact (zclWriteHandler_notWritable hkept d.attrs _ _ _).trans (toUInt16_inj.mpr hd.switchType)
  constructor
  · intro h
    exact h.custom_decoupled
  · intro hdecoupled
    refine ⟨?_, ?_, htype, ?_, hdecoupled⟩
    · rw [← toUInt16_inj]
      exact hread .startUpOnOff (by decide) (by decide) (toUInt16_inj.mpr hd.startUpOnOff)
    · rw [← toUInt16_inj]
      exact hread .switchActions (by decide) (by decide) (toUInt16_inj.mpr hd.switchActions)
    · rw [← toUInt16_inj]
      exact hread .custom_swtichType (by decide) (by decide)
        (toUInt16_inj.mpr hd.custom_swtichType)

/-! ## Runs of frames -/

theorem mirrors_restore {d start : Device} {buffer : RelaySettings}
    (hrestore : relaySettingsRestore d buffer = some start) : Mirrors start := by
  rcases Option.bind_eq_some_iff.mp hrestore with ⟨log, -, hrest⟩
  cases hrest
  exact ⟨rfl, rfl, rfl, rfl, rfl⟩

/-- Behind {lit}`relay_settings_restore` the attributes show the settings after every
frame of a run exactly when every frame keeps the mirror. -/
theorem attributes_mirror_iff (d start : Device) (buffer : RelaySettings)
    (hrestore : relaySettingsRestore d buffer = some start) (frames : List ConfigFrame) :
    (∀ frames', frames' <+: frames → Mirrors (run Device.writeFrame start frames')) ↔
      Along Device.writeFrame (fun d frame => KeepsMirror d.relay_settings frame.settings)
        start frames := by
  apply always_iff_along
  · intro d frame hd
    exact mirrors_writeFrame_iff frame hd
  · exact mirrors_restore hrestore

/-! ## Two frames -/

/-- A device without stored settings. -/
def newDevice : Device where
  log := powerOn NorFlash.Chip.erased
  nv := none

/-- The switch is to be decoupled. -/
def decoupledFrame : ConfigFrame where
  clusterId := ZCL_CLUSTER_GEN_ON_OFF_SWITCH_CONFIG
  attrList :=
    [byteRec CUSTOM_ATTRID_DECOUPLED ZCL_DATA_TYPE_ENUM8 CUSTOM_SWITCH_DECOUPLED_ON]
  accepted := by decide
  inRange := by decide

/-- The switch type becomes {lit}`MULTIFUNCTION` and then {lit}`TOGGLE` again, and the
switch is to be coupled. -/
def coupledAgainFrame : ConfigFrame where
  clusterId := ZCL_CLUSTER_GEN_ON_OFF_SWITCH_CONFIG
  attrList :=
    [ byteRec CUSTOM_ATTRID_SWITCH_TYPE ZCL_DATA_TYPE_ENUM8 ZCL_SWITCH_TYPE_MULTIFUNCTION,
      byteRec CUSTOM_ATTRID_SWITCH_TYPE ZCL_DATA_TYPE_ENUM8 ZCL_SWITCH_TYPE_TOGGLE,
      byteRec CUSTOM_ATTRID_DECOUPLED ZCL_DATA_TYPE_ENUM8 CUSTOM_SWITCH_DECOUPLED_OFF ]
  accepted := by decide
  inRange := by decide

/-- Without stored settings the defaults are restored. -/
theorem exists_restored {d : Device} (buffer : RelaySettings) (hnv : d.nv = none) :
    ∃ start, relaySettingsRestore d buffer = some start ∧ start.relay_settings =
      { buffer with
        startUpOnOff := ZCL_START_UP_ONOFF_SET_ONOFF_TO_OFF
        switchActions := ZCL_SWITCH_ACTION_OFF_ON
        switchType := ZCL_SWITCH_TYPE_MOMENTARY
        switch_decoupled := CUSTOM_SWITCH_DECOUPLED_OFF } := by
  rcases statusOnoffRestore_spec d.log with ⟨log, hlog, -⟩
  refine ⟨_, Option.bind_eq_some_iff.mpr ⟨log, hlog, rfl⟩, ?_⟩
  dsimp only
  rw [hnv]
  rfl

/-- The attributes of a new device mirror a change of decoupling. -/
theorem attributes_mirror_decoupled :
    ∃ start, relaySettingsRestore newDevice {} = some start ∧
      ∀ frames', frames' <+: [decoupledFrame] → Mirrors (run Device.writeFrame start frames') := by
  rcases exists_restored (d := newDevice) {} rfl with ⟨start, hrestore, hsettings⟩
  refine ⟨start, hrestore, (attributes_mirror_iff newDevice start {} hrestore _).mpr ⟨?_, trivial⟩⟩
  show KeepsMirror start.relay_settings decoupledFrame.settings
  rw [hsettings]
  decide

/-- On a new device the frame leaves the decoupled attribute on and the setting off. -/
theorem attributes_mirror_broken :
    ∃ start, relaySettingsRestore newDevice {} = some start ∧
      ¬ Mirrors (run Device.writeFrame start [coupledAgainFrame]) := by
  rcases exists_restored (d := newDevice) {} rfl with ⟨start, hrestore, hsettings⟩
  refine ⟨start, hrestore, fun hmirrors => ?_⟩
  have hkeeps := (mirrors_writeFrame_iff coupledAgainFrame (mirrors_restore hrestore)).mp hmirrors
  rw [hsettings] at hkeeps
  revert hkeeps
  decide

end Firmware
