import TuyaMiniSwitch.App.RelayCommand
import TuyaMiniSwitch.Library.Machine

/-!
# Application - Written settings

The write handler of the application walks the records of a frame a second time
and keeps those that are about a setting.  Here such a record becomes a value of
its own, with what it does to {lit}`relay_settings`, to the attributes, to the
relay and to the status log said separately, and a frame becomes the list of its
settings.

Main results:

- Theorem {lit}`writeRec_eq`: what the handler does with a record.
- Theorem {lit}`appZclWriteReqCmd_eq`: what it does with a frame.
-/

namespace Firmware

open Machine OnOffLog

/-! ## Settings -/

/-- What a record asks the application for. -/
inductive Setting where
  | startUpOnOff (startup : UInt8)
  | switchType (type : UInt8)
  | switchActions (action : UInt8)
  | switch_decoupled (decoupled : UInt8)
  | defaultMoveRate (rate : UInt8)
  | levelMin (min : UInt8)
  | levelMax (max : UInt8)
  | transitionTime (time : UInt16)
  deriving Repr, DecidableEq

/-- The setting a record is about.  A switch type out of range is none. -/
def settingOf (clusterId : UInt16) (rec : WriteRec) : Option Setting :=
  if clusterId = ZCL_CLUSTER_GEN_ON_OFF then
    if rec.attrID = ZCL_ATTRID_START_UP_ONOFF then some (.startUpOnOff (rec.attrData 0)) else none
  else if clusterId = ZCL_CLUSTER_GEN_ON_OFF_SWITCH_CONFIG then
    if rec.attrID = CUSTOM_ATTRID_SWITCH_TYPE then
      if rec.attrData 0 < ZCL_CUSTOM_SWITCH_TYPE_MAXNUM then
        some (.switchType (rec.attrData 0))
      else
        none
    else if rec.attrID = ZCL_ATTRID_SWITCH_ACTION then
      some (.switchActions (rec.attrData 0))
    else if rec.attrID = CUSTOM_ATTRID_DECOUPLED then
      some (.switch_decoupled (rec.attrData 0))
    else
      none
  else if clusterId = ZCL_CLUSTER_GEN_LEVEL_CONTROL then
    if rec.attrID = ZCL_ATTRID_LEVEL_DEFAULT_MOVE_RATE then
      some (.defaultMoveRate (rec.attrData 0))
    else if rec.attrID = ZCL_ATTRID_LEVEL_MIN_LEVEL then
      some (.levelMin (rec.attrData 0))
    else if rec.attrID = ZCL_ATTRID_LEVEL_MAX_LEVEL then
      some (.levelMax (rec.attrData 0))
    else if rec.attrID = ZCL_ATTRID_LEVEL_ON_OFF_TRANSITION_TIME then
      some (.transitionTime (buildU16 rec.attrData))
    else
      none
  else
    none

/-- The settings of a frame. -/
def settingsOf (clusterId : UInt16) (attrList : List WriteRec) : List Setting :=
  attrList.filterMap (settingOf clusterId)

/-- The switch type changes. -/
def Retypes (s : RelaySettings) : Setting → Prop
  | .switchType type => s.switchType ≠ type
  | _ => False

/-- The switch is decoupled whatever was asked for: the switch type changes to one
that does not drive the relay, or it is such a one already. -/
def Forces (s : RelaySettings) : Setting → Prop
  | .switchType type => s.switchType ≠ type ∧ type ≥ ZCL_SWITCH_TYPE_MULTIFUNCTION
  | .switch_decoupled decoupled =>
      s.switch_decoupled ≠ decoupled ∧ decoupled = CUSTOM_SWITCH_DECOUPLED_OFF ∧
        s.switchType ≥ ZCL_SWITCH_TYPE_MULTIFUNCTION
  | _ => False

/-- The relay is switched off. -/
def TurnsOff (s : RelaySettings) : Setting → Prop
  | .switchType type => s.switchType ≠ type ∧ type ≥ ZCL_SWITCH_TYPE_MULTIFUNCTION
  | .switch_decoupled decoupled => s.switch_decoupled ≠ decoupled
  | _ => False

/-- The status is saved. -/
def Logs (s : RelaySettings) : Setting → Prop
  | .startUpOnOff startup =>
      s.startUpOnOff ≠ startup ∧ startup > ZCL_START_UP_ONOFF_SET_ONOFF_TO_ON
  | _ => False

/-- The settings have to be saved.  A record of the level cluster always asks for it. -/
def Acts (s : RelaySettings) : Setting → Prop
  | .startUpOnOff startup => s.startUpOnOff ≠ startup
  | .switchType type => s.switchType ≠ type
  | .switchActions action => s.switchActions ≠ action
  | .switch_decoupled decoupled => s.switch_decoupled ≠ decoupled
  | .defaultMoveRate _ => True
  | .levelMin _ => True
  | .levelMax _ => True
  | .transitionTime _ => True

instance (s : RelaySettings) : DecidablePred (Retypes s)
  | .switchType type => inferInstanceAs (Decidable (s.switchType ≠ type))
  | .startUpOnOff _ | .switchActions _ | .switch_decoupled _ | .defaultMoveRate _
  | .levelMin _ | .levelMax _ | .transitionTime _ => inferInstanceAs (Decidable False)

instance (s : RelaySettings) : DecidablePred (Forces s)
  | .switchType type =>
      inferInstanceAs (Decidable (s.switchType ≠ type ∧ type ≥ ZCL_SWITCH_TYPE_MULTIFUNCTION))
  | .switch_decoupled decoupled =>
      inferInstanceAs (Decidable (s.switch_decoupled ≠ decoupled ∧
        decoupled = CUSTOM_SWITCH_DECOUPLED_OFF ∧ s.switchType ≥ ZCL_SWITCH_TYPE_MULTIFUNCTION))
  | .startUpOnOff _ | .switchActions _ | .defaultMoveRate _
  | .levelMin _ | .levelMax _ | .transitionTime _ => inferInstanceAs (Decidable False)

instance (s : RelaySettings) : DecidablePred (TurnsOff s)
  | .switchType type =>
      inferInstanceAs (Decidable (s.switchType ≠ type ∧ type ≥ ZCL_SWITCH_TYPE_MULTIFUNCTION))
  | .switch_decoupled decoupled => inferInstanceAs (Decidable (s.switch_decoupled ≠ decoupled))
  | .startUpOnOff _ | .switchActions _ | .defaultMoveRate _
  | .levelMin _ | .levelMax _ | .transitionTime _ => inferInstanceAs (Decidable False)

instance (s : RelaySettings) : DecidablePred (Logs s)
  | .startUpOnOff startup =>
      inferInstanceAs (Decidable (s.startUpOnOff ≠ startup ∧
        startup > ZCL_START_UP_ONOFF_SET_ONOFF_TO_ON))
  | .switchType _ | .switchActions _ | .switch_decoupled _ | .defaultMoveRate _
  | .levelMin _ | .levelMax _ | .transitionTime _ => inferInstanceAs (Decidable False)

instance (s : RelaySettings) : DecidablePred (Acts s)
  | .startUpOnOff startup => inferInstanceAs (Decidable (s.startUpOnOff ≠ startup))
  | .switchType type => inferInstanceAs (Decidable (s.switchType ≠ type))
  | .switchActions action => inferInstanceAs (Decidable (s.switchActions ≠ action))
  | .switch_decoupled decoupled => inferInstanceAs (Decidable (s.switch_decoupled ≠ decoupled))
  | .defaultMoveRate _ | .levelMin _ | .levelMax _ | .transitionTime _ =>
      inferInstanceAs (Decidable True)

/-- {lit}`relay_settings` behind a setting. -/
def RelaySettings.set (s : RelaySettings) : Setting → RelaySettings
  | .startUpOnOff startup => { s with startUpOnOff := startup }
  | .switchType type =>
      { s with
        switchType := type
        switch_decoupled := if Forces s (.switchType type) then CUSTOM_SWITCH_DECOUPLED_ON
          else s.switch_decoupled }
  | .switchActions action => { s with switchActions := action }
  | .switch_decoupled decoupled =>
      { s with switch_decoupled := if Forces s (.switch_decoupled decoupled) then
          CUSTOM_SWITCH_DECOUPLED_ON else decoupled }
  | .defaultMoveRate rate => { s with defaultMoveRate := rate }
  | .levelMin min => { s with levelMin := min }
  | .levelMax max => { s with levelMax := max }
  | .transitionTime time => { s with transitionTime := time }

/-- The attributes that the handler writes itself. -/
def OnOffCfgAttr.set (cfg : OnOffCfgAttr) (s : RelaySettings) (setting : Setting) :
    OnOffCfgAttr :=
  { cfg with
    switchType := if Retypes s setting then (s.set setting).switchType else cfg.switchType
    custom_decoupled := if Forces s setting then CUSTOM_SWITCH_DECOUPLED_ON
      else cfg.custom_decoupled }

/-- The settings and the switch configuration attributes are assigned. -/
def Device.withConfig (d : Device) (s : RelaySettings) (cfg : OnOffCfgAttr) : Device :=
  { d with relay_settings := s, attrs := { d.attrs with onOffCfg := cfg } }

/-- The settings and the attributes behind a setting. -/
def Device.configure (d : Device) (setting : Setting) : Device :=
  d.withConfig (d.relay_settings.set setting) (d.attrs.onOffCfg.set d.relay_settings setting)

/-- The firmware behind a setting. -/
def Device.handle (d : Device) (setting : Setting) : Device :=
  let d' := if TurnsOff d.relay_settings setting then cmdOnOffOff (d.configure setting)
    else d.configure setting
  if Logs d.relay_settings setting then d'.statusOnoffSave else d'

/-! ## One record -/

theorem setRelayStatus_withConfig (d : Device) (s : RelaySettings) (cfg : OnOffCfgAttr)
    (level : UInt8) :
    setRelayStatus (d.withConfig s cfg) level = (setRelayStatus d level).withConfig s cfg := by
  have hen : (d.withConfig s cfg).device.device_en = d.device.device_en := rfl
  rw [setRelayStatus, setRelayStatus, hen]
  split
  · rfl
  · rfl

theorem commitStatus_withConfig (d : Device) (s : RelaySettings) (cfg : OnOffCfgAttr)
    (v : UInt8) :
    commitStatus (d.withConfig s cfg) v = (commitStatus d v).withConfig s cfg := by
  have honOff : (d.withConfig s cfg).attrs.onOff.onOff = d.attrs.onOff.onOff := rfl
  have hstatus : (d.withConfig s cfg).status = d.status := rfl
  have hstartUp : (((d.withConfig s cfg).setStatus v).setOnOffAttr v).attrs.onOff.startUpOnOff =
      ((d.setStatus v).setOnOffAttr v).attrs.onOff.startUpOnOff := rfl
  simp only [commitStatus, honOff, hstatus, hstartUp]
  split
  · split
    · rfl
    · rfl
  · rfl

/-- Switching the relay off neither reads nor writes what is configured. -/
theorem cmdOnOffOff_withConfig (d : Device) (s : RelaySettings) (cfg : OnOffCfgAttr) :
    cmdOnOffOff (d.withConfig s cfg) = (cmdOnOffOff d).withConfig s cfg := by
  rw [cmdOnOffOff_eq, cmdOnOffOff_eq, relayCommand, commitStatus_withConfig,
    setRelayStatus_withConfig]
  rfl

/-- Switching the relay off writes one attribute. -/
theorem cmdOnOffOff_attrs (d : Device) :
    (cmdOnOffOff d).attrs =
      { d.attrs with onOff := { d.attrs.onOff with onOff := ZCL_ONOFF_STATUS_OFF } } := by
  rw [cmdOnOffOff_eq, relayCommand, (setRelayStatus_frame _ _).attrs]
  unfold commitStatus
  split
  · dsimp only
    split
    · rfl
    · rfl
  · rename_i hsame
    rw [not_or, not_not, not_not] at hsame
    rw [← hsame.1]

/-- A setting that switches the relay off. -/
theorem handle_of_turnsOff {d : Device} {setting : Setting}
    (hoff : TurnsOff d.relay_settings setting) :
    d.handle setting = (cmdOnOffOff d).withConfig (d.relay_settings.set setting)
      (d.attrs.onOffCfg.set d.relay_settings setting) := by
  have hlogs : ¬ Logs d.relay_settings setting := by
    cases setting <;> first | exact False.elim hoff | exact id
  simp only [Device.handle]
  rw [if_pos hoff, if_neg hlogs, Device.configure, cmdOnOffOff_withConfig]

/-- A setting that leaves the relay and the log alone. -/
theorem handle_of_configures {d : Device} {setting : Setting}
    (hoff : ¬ TurnsOff d.relay_settings setting) (hlogs : ¬ Logs d.relay_settings setting) :
    d.handle setting = d.configure setting := by
  simp only [Device.handle]
  rw [if_neg hoff, if_neg hlogs]

/-- A setting that is there already changes nothing. -/
theorem handle_of_not_acts {d : Device} {setting : Setting}
    (hsame : ¬ Acts d.relay_settings setting) : d.handle setting = d := by
  cases setting with
  | startUpOnOff v | switchType v | switchActions v | switch_decoupled v =>
      simp only [Acts, ne_eq, not_not] at hsame
      simp [Device.handle, TurnsOff, Logs, Device.configure, Device.withConfig,
        RelaySettings.set, OnOffCfgAttr.set, Retypes, Forces, ← hsame]
  | defaultMoveRate v | levelMin v | levelMax v | transitionTime v => exact absurd trivial hsame

/-- A setting as the handler carries it out: the firmware behind it, and whether the
settings have to be saved. -/
def handleSetting (s : Device × Bool) (setting : Setting) : Device × Bool :=
  (s.1.handle setting, s.2 || decide (Acts s.1.relay_settings setting))

theorem handleSetting_of_acts (s : Device × Bool) (setting : Setting)
    (hacts : Acts s.1.relay_settings setting) :
    handleSetting s setting = (s.1.handle setting, true) := by
  simp [handleSetting, hacts]

theorem handleSetting_of_not_acts {s : Device × Bool} {setting : Setting}
    (hsame : ¬ Acts s.1.relay_settings setting) : handleSetting s setting = s := by
  simp [handleSetting, handle_of_not_acts hsame, hsame]

theorem writeSwitchTypeRec_eq (s : Device × Bool) {type : UInt8}
    (hrange : type < ZCL_CUSTOM_SWITCH_TYPE_MAXNUM) :
    writeSwitchTypeRec s type = handleSetting s (.switchType type) := by
  rcases s with ⟨d, save⟩
  have hvalid : type ≥ ZCL_SWITCH_TYPE_TOGGLE ∧ type < ZCL_CUSTOM_SWITCH_TYPE_MAXNUM :=
    ⟨UInt8.zero_le, hrange⟩
  unfold writeSwitchTypeRec
  dsimp only
  rw [if_pos hvalid]
  by_cases hacts : Acts (d, save).1.relay_settings (.switchType type)
  · have hne : d.relay_settings.switchType ≠ type := hacts
    rw [if_pos hne, handleSetting_of_acts _ _ hacts]
    by_cases hmulti : type ≥ ZCL_SWITCH_TYPE_MULTIFUNCTION
    · have hset : d.relay_settings.set (.switchType type) = { d.relay_settings with
          switchType := type
          switch_decoupled := CUSTOM_SWITCH_DECOUPLED_ON } := by
        simp [RelaySettings.set, Forces, hne, hmulti]
      have hcfg : d.attrs.onOffCfg.set d.relay_settings (.switchType type) =
          { d.attrs.onOffCfg with
            switchType := type
            custom_decoupled := CUSTOM_SWITCH_DECOUPLED_ON } := by
        simp [OnOffCfgAttr.set, RelaySettings.set, Retypes, Forces, hne, hmulti]
      have hassign : cmdOnOffOff { d with
            relay_settings := { d.relay_settings with switchType := type }
            attrs := { d.attrs with onOffCfg := { d.attrs.onOffCfg with switchType := type } } } =
          (cmdOnOffOff d).withConfig { d.relay_settings with switchType := type }
            { d.attrs.onOffCfg with switchType := type } := cmdOnOffOff_withConfig d _ _
      have hoff : TurnsOff d.relay_settings (.switchType type) := ⟨hne, hmulti⟩
      dsimp only at hassign
      rw [if_pos hmulti, handle_of_turnsOff hoff, hset, hcfg, hassign]
      rfl
    · have hset : d.relay_settings.set (.switchType type) =
          { d.relay_settings with switchType := type } := by
        simp [RelaySettings.set, Forces, hmulti]
      have hcfg : d.attrs.onOffCfg.set d.relay_settings (.switchType type) =
          { d.attrs.onOffCfg with switchType := type } := by
        simp [OnOffCfgAttr.set, RelaySettings.set, Retypes, Forces, hne, hmulti]
      have hquiet : ¬ TurnsOff d.relay_settings (.switchType type) := fun h => hmulti h.2
      rw [if_neg hmulti, handle_of_configures hquiet id, Device.configure, hset, hcfg]
      rfl
  · have hsame : ¬ d.relay_settings.switchType ≠ type := hacts
    rw [if_neg hsame, handleSetting_of_not_acts hacts]

theorem writeSwitchActionRec_eq (s : Device × Bool) (action : UInt8) :
    writeSwitchActionRec s action = handleSetting s (.switchActions action) := by
  rcases s with ⟨d, save⟩
  unfold writeSwitchActionRec
  dsimp only
  by_cases hacts : Acts (d, save).1.relay_settings (.switchActions action)
  · have hne : d.relay_settings.switchActions ≠ action := hacts
    rw [if_pos hne, handleSetting_of_acts _ _ hacts]
    rfl
  · have hsame : ¬ d.relay_settings.switchActions ≠ action := hacts
    rw [if_neg hsame, handleSetting_of_not_acts hacts]

theorem writeDecoupledRec_eq (s : Device × Bool) (decoupled : UInt8) :
    writeDecoupledRec s decoupled = handleSetting s (.switch_decoupled decoupled) := by
  rcases s with ⟨d, save⟩
  unfold writeDecoupledRec
  dsimp only
  by_cases hacts : Acts (d, save).1.relay_settings (.switch_decoupled decoupled)
  · have hne : d.relay_settings.switch_decoupled ≠ decoupled := hacts
    have hsettings : (cmdOnOffOff d).relay_settings = d.relay_settings :=
      relayCommand_settings d ZCL_ONOFF_STATUS_OFF
    have hattrs : (cmdOnOffOff d).attrs.onOffCfg = d.attrs.onOffCfg := by
      rw [cmdOnOffOff_attrs]
    rw [if_pos hne, handleSetting_of_acts _ _ hacts, hsettings]
    have hoff : TurnsOff d.relay_settings (.switch_decoupled decoupled) := hne
    rw [handle_of_turnsOff hoff]
    by_cases hforces : decoupled = CUSTOM_SWITCH_DECOUPLED_OFF ∧
        d.relay_settings.switchType ≥ ZCL_SWITCH_TYPE_MULTIFUNCTION
    · have hforced : Forces d.relay_settings (.switch_decoupled decoupled) := ⟨hne, hforces⟩
      have hset : d.relay_settings.set (.switch_decoupled decoupled) =
          { d.relay_settings with switch_decoupled := CUSTOM_SWITCH_DECOUPLED_ON } := by
        rw [RelaySettings.set, if_pos hforced]
      have hcfg : d.attrs.onOffCfg.set d.relay_settings (.switch_decoupled decoupled) =
          { d.attrs.onOffCfg with custom_decoupled := CUSTOM_SWITCH_DECOUPLED_ON } := by
        rw [OnOffCfgAttr.set, if_pos hforced]
        rfl
      rw [if_pos hforces, hset, hcfg, hattrs]
      rfl
    · have hset : d.relay_settings.set (.switch_decoupled decoupled) =
          { d.relay_settings with switch_decoupled := decoupled } := by
        simp [RelaySettings.set, Forces, hforces]
      have hcfg : d.attrs.onOffCfg.set d.relay_settings (.switch_decoupled decoupled) =
          d.attrs.onOffCfg := by
        simp [OnOffCfgAttr.set, Retypes, Forces, hforces]
      rw [if_neg hforces, hset, hcfg, ← hattrs]
      rfl
  · have hsame : ¬ d.relay_settings.switch_decoupled ≠ decoupled := hacts
    rw [if_neg hsame, handleSetting_of_not_acts hacts]

theorem writeStartUpRec_eq (s : Device × Bool) {rec : WriteRec}
    (hid : rec.attrID = ZCL_ATTRID_START_UP_ONOFF) :
    writeOnOffRec s rec = handleSetting s (.startUpOnOff (rec.attrData 0)) := by
  rcases s with ⟨d, save⟩
  unfold writeOnOffRec
  dsimp only
  rw [if_pos hid]
  by_cases hacts : Acts (d, save).1.relay_settings (.startUpOnOff (rec.attrData 0))
  · have hne : d.relay_settings.startUpOnOff ≠ rec.attrData 0 := hacts
    rw [if_pos hne, handleSetting_of_acts _ _ hacts]
    by_cases hpolicy : rec.attrData 0 > ZCL_START_UP_ONOFF_SET_ONOFF_TO_ON
    · rw [if_pos hpolicy]
      simp [Device.handle, Device.configure, TurnsOff, Logs, RelaySettings.set,
        OnOffCfgAttr.set, Retypes, Forces, hne, hpolicy, Device.withConfig]
    · rw [if_neg hpolicy]
      simp [Device.handle, Device.configure, TurnsOff, Logs, RelaySettings.set,
        OnOffCfgAttr.set, Retypes, Forces, hne, hpolicy, Device.withConfig]
  · have hsame : ¬ d.relay_settings.startUpOnOff ≠ rec.attrData 0 := hacts
    rw [if_neg hsame, handleSetting_of_not_acts hacts]

theorem writeLevelRec_eq (s : Device × Bool) (rec : WriteRec) :
    writeLevelRec s rec =
      (if rec.attrID = ZCL_ATTRID_LEVEL_DEFAULT_MOVE_RATE then
        some (Setting.defaultMoveRate (rec.attrData 0))
      else if rec.attrID = ZCL_ATTRID_LEVEL_MIN_LEVEL then
        some (.levelMin (rec.attrData 0))
      else if rec.attrID = ZCL_ATTRID_LEVEL_MAX_LEVEL then
        some (.levelMax (rec.attrData 0))
      else if rec.attrID = ZCL_ATTRID_LEVEL_ON_OFF_TRANSITION_TIME then
        some (.transitionTime (buildU16 rec.attrData))
      else
        none).elim s (handleSetting s) := by
  rcases s with ⟨d, save⟩
  unfold writeLevelRec
  dsimp only
  split
  · exact (handleSetting_of_acts (d, save) (.defaultMoveRate _) trivial).symm
  · split
    · exact (handleSetting_of_acts (d, save) (.levelMin _) trivial).symm
    · split
      · exact (handleSetting_of_acts (d, save) (.levelMax _) trivial).symm
      · split
        · exact (handleSetting_of_acts (d, save) (.transitionTime _) trivial).symm
        · rfl

/-- What the handler does with a record. -/
theorem writeRec_eq (clusterId : UInt16) (s : Device × Bool) (rec : WriteRec) :
    writeRec clusterId s rec = (settingOf clusterId rec).elim s (handleSetting s) := by
  unfold writeRec settingOf
  split
  · split
    · rename_i hid
      exact writeStartUpRec_eq s hid
    · rename_i hid
      simp [writeOnOffRec, hid]
  · split
    · unfold writeOnOffCfgRec
      split
      · split
        · rename_i hrange
          exact writeSwitchTypeRec_eq s hrange
        · rename_i hrange
          simp [writeSwitchTypeRec, hrange]
      · split
        · exact writeSwitchActionRec_eq s _
        · split
          · exact writeDecoupledRec_eq s _
          · rfl
    · split
      · exact writeLevelRec_eq s rec
      · rfl

/-! ## Frames -/

@[simp] theorem handle_settings (d : Device) (setting : Setting) :
    (d.handle setting).relay_settings = d.relay_settings.set setting := by
  by_cases hoff : TurnsOff d.relay_settings setting
  · rw [handle_of_turnsOff hoff]
    rfl
  · simp only [Device.handle]
    rw [if_neg hoff]
    split
    · rfl
    · rfl

/-- A setting changes the configuration, the status and the relay. -/
theorem sameParts_handle (d : Device) (setting : Setting) : SameParts d (d.handle setting) := by
  by_cases hoff : TurnsOff d.relay_settings setting
  · have hcommand := sameParts_relayCommand d ZCL_ONOFF_STATUS_OFF
    rw [handle_of_turnsOff hoff, cmdOnOffOff_eq]
    exact hcommand.trans ⟨rfl, rfl, rfl, rfl, rfl⟩
  · simp only [Device.handle]
    rw [if_neg hoff]
    split
    · exact ⟨rfl, rfl, rfl, rfl, rfl⟩
    · exact ⟨rfl, rfl, rfl, rfl, rfl⟩

theorem sameParts_run (d : Device) (settings : List Setting) :
    SameParts d (run Device.handle d settings) :=
  run_invariant_always (SameParts d) (fun d' setting h => h.trans (sameParts_handle d' setting))
    settings ⟨rfl, rfl, rfl, rfl, rfl⟩

/-- The log behind a setting. -/
theorem handle_log (d : Device) (setting : Setting) :
    (d.handle setting).log =
      if TurnsOff d.relay_settings setting then (commitStatus d ZCL_ONOFF_STATUS_OFF).log
      else if Logs d.relay_settings setting then d.log.saveStatus d.status
      else d.log := by
  by_cases hoff : TurnsOff d.relay_settings setting
  · rw [handle_of_turnsOff hoff, if_pos hoff, cmdOnOffOff_eq, relayCommand]
    exact (setRelayStatus_frame _ _).log
  · simp only [Device.handle]
    rw [if_neg hoff, if_neg hoff]
    split
    · rfl
    · rfl

/-- The settings of a frame, carried out one after another. -/
theorem foldl_handleSetting (s : Device × Bool) (settings : List Setting) :
    settings.foldl handleSetting s = (run Device.handle s.1 settings,
      s.2 || decide (Sometime RelaySettings.set Acts s.1.relay_settings settings)) := by
  induction settings generalizing s with
  | nil => exact Prod.ext rfl (Bool.or_false s.2).symm
  | cons setting settings ih =>
      have hdecide : decide (Sometime RelaySettings.set Acts s.1.relay_settings
            (setting :: settings)) =
          (decide (Acts s.1.relay_settings setting) || decide (Sometime RelaySettings.set Acts
            (s.1.relay_settings.set setting) settings)) := by
        rw [← Bool.decide_or]
        exact decide_eq_decide.mpr Iff.rfl
      rw [List.foldl_cons, ih, hdecide, ← Bool.or_assoc, handleSetting, handle_settings]
      rfl

/-- The records of a frame as the handler walks them. -/
theorem foldl_writeRec (clusterId : UInt16) (s : Device × Bool) (attrList : List WriteRec) :
    attrList.foldl (writeRec clusterId) s =
      (settingsOf clusterId attrList).foldl handleSetting s := by
  induction attrList generalizing s with
  | nil => rfl
  | cons rec attrList ih =>
      rw [List.foldl_cons, ih, writeRec_eq, settingsOf, settingsOf]
      cases hsetting : settingOf clusterId rec with
      | none => rw [List.filterMap_cons_none hsetting, Option.elim_none]
      | some setting =>
          rw [List.filterMap_cons_some hsetting, Option.elim_some, List.foldl_cons]

/-- A frame whose settings are all there already changes nothing. -/
theorem run_handle_of_not_acts {d : Device} {settings : List Setting}
    (hnever : ¬ Sometime RelaySettings.set Acts d.relay_settings settings) :
    run Device.handle d settings = d := by
  apply run_of_not_sometime (C := fun d setting => Acts d.relay_settings setting)
  · intro d setting hsame
    exact handle_of_not_acts hsame
  · rw [sometime_map handle_settings]
    exact hnever

/-- What the handler does with a frame. -/
theorem appZclWriteReqCmd_eq (d : Device) (clusterId : UInt16) (attrList : List WriteRec) :
    appZclWriteReqCmd d APP_ENDPOINT1 clusterId attrList =
      if Sometime RelaySettings.set Acts d.relay_settings (settingsOf clusterId attrList) then
        relaySettingsSave (run Device.handle d (settingsOf clusterId attrList))
      else d := by
  unfold appZclWriteReqCmd
  rw [if_pos rfl, foldl_writeRec, foldl_handleSetting]
  dsimp only
  by_cases hacts : Sometime RelaySettings.set Acts d.relay_settings (settingsOf clusterId attrList)
  · simp [hacts]
  · simp [hacts, run_handle_of_not_acts hacts]

end Firmware
