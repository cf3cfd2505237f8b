import TuyaMiniSwitch.App.Settings
import TuyaMiniSwitch.App.WrittenRecords

/-!
# Application - Written attributes

The foundation writes the records it accepts to the attributes, one after another,
and the application walks the same records again.  For a frame whose records are
all accepted the two walks see the same settings: an attribute that stands for a
setting holds the value of the last record about it.

Main results:

- Theorem {lit}`zclAttrWrite_read`: what an accepted record does to the attribute of a
  setting.
- Theorem {lit}`zclWriteHandler_read`: the attributes behind an accepted frame.
-/

namespace Firmware

open Machine OnOffLog

/-! ## Frames that are accepted -/

/-- The attribute that stands for a setting. -/
def Setting.target : Setting → AttrData
  | .startUpOnOff _ => .startUpOnOff
  | .switchType _ => .custom_swtichType
  | .switchActions _ => .switchActions
  | .switch_decoupled _ => .custom_decoupled
  | .defaultMoveRate _ => .defaultMoveRate
  | .levelMin _ => .minLevel
  | .levelMax _ => .maxLevel
  | .transitionTime _ => .transitionTime

/-- The value of a setting in its attribute. -/
def Setting.value : Setting → UInt16
  | .startUpOnOff startup => startup.toUInt16
  | .switchType type => type.toUInt16
  | .switchActions action => action.toUInt16
  | .switch_decoupled decoupled => decoupled.toUInt16
  | .defaultMoveRate rate => rate.toUInt16
  | .levelMin min => min.toUInt16
  | .levelMax max => max.toUInt16
  | .transitionTime time => time

/-- The attributes that stand for settings. -/
def settingTargets : List AttrData :=
  [ .startUpOnOff, .custom_swtichType, .switchActions, .custom_decoupled, .defaultMoveRate,
    .minLevel, .maxLevel, .transitionTime ]

/-- The attribute of the setting that a record with this identifier is about. -/
def targetOf (clusterId attrId : UInt16) : Option AttrData :=
  if clusterId = ZCL_CLUSTER_GEN_ON_OFF then
    if attrId = ZCL_ATTRID_START_UP_ONOFF then some .startUpOnOff else none
  else if clusterId = ZCL_CLUSTER_GEN_ON_OFF_SWITCH_CONFIG then
    if attrId = CUSTOM_ATTRID_SWITCH_TYPE then some .custom_swtichType
    else if attrId = ZCL_ATTRID_SWITCH_ACTION then some .switchActions
    else if attrId = CUSTOM_ATTRID_DECOUPLED then some .custom_decoupled
    else none
  else if clusterId = ZCL_CLUSTER_GEN_LEVEL_CONTROL then
    if attrId = ZCL_ATTRID_LEVEL_DEFAULT_MOVE_RATE then some .defaultMoveRate
    else if attrId = ZCL_ATTRID_LEVEL_MIN_LEVEL then some .minLevel
    else if attrId = ZCL_ATTRID_LEVEL_MAX_LEVEL then some .maxLevel
    else if attrId = ZCL_ATTRID_LEVEL_ON_OFF_TRANSITION_TIME then some .transitionTime
    else none
  else
    none

/-- The tables and the handler mean the same attributes. -/
theorem targetOf_tables : ∀ cluster ∈ appClusterList1, ∀ attr ∈ cluster.2, attr.write = true →
    targetOf cluster.1 attr.id =
      if attr.data ∈ settingTargets then some attr.data else none := by
  decide

/-- The switch type of a record is below {lit}`ZCL_CUSTOM_SWITCH_TYPE_MAXNUM`. -/
def InRange (clusterId : UInt16) (rec : WriteRec) : Prop :=
  clusterId = ZCL_CLUSTER_GEN_ON_OFF_SWITCH_CONFIG → rec.attrID = CUSTOM_ATTRID_SWITCH_TYPE →
    rec.attrData 0 < ZCL_CUSTOM_SWITCH_TYPE_MAXNUM

instance (clusterId : UInt16) (rec : WriteRec) : Decidable (InRange clusterId rec) :=
  inferInstanceAs (Decidable (_ → _ → _))

/-- The setting of a record in range has the target of its identifier, and its value. -/
theorem settingOf_target {clusterId : UInt16} {rec : WriteRec} (hrange : InRange clusterId rec) :
    ((settingOf clusterId rec).map fun setting => (setting.target, setting.value)) =
      (targetOf clusterId rec.attrID).map fun data => (data, data.value rec.attrData) := by
  unfold settingOf targetOf
  split
  · split
    · rfl
    · rfl
  · split
    · rename_i hcfg
      split
      · rename_i hid
        rw [if_pos (hrange hcfg hid)]
        rfl
      · split
        · rfl
        · split
          · rfl
          · rfl
    · split
      · split
        · rfl
        · split
          · rfl
          · split
            · rfl
            · split
              · rfl
              · rfl
      · rfl

/-- The target of an accepted record. -/
theorem targetOf_writtenTo {clusterId : UInt16} {rec : WriteRec} {data : AttrData}
    (hwritten : writtenTo APP_ENDPOINT1 clusterId rec = some data) :
    targetOf clusterId rec.attrID = if data ∈ settingTargets then some data else none := by
  unfold writtenTo zclFindAttribute at hwritten
  rw [if_pos rfl] at hwritten
  split at hwritten
  · cases hwritten
  · rename_i attr hfind
    split at hwritten
    · rename_i hattr
      rcases Option.bind_eq_some_iff.mp hfind with ⟨table, htable, hentry⟩
      rcases Option.map_eq_some_iff.mp htable with ⟨cluster, hcluster, rfl⟩
      have hmatch := List.find?_some hcluster
      have hclusterId : cluster.1 = clusterId := beq_iff_eq.mp hmatch
      have hmatch' := List.find?_some hentry
      have hattrId : attr.id = rec.attrID := beq_iff_eq.mp hmatch'
      rw [← hclusterId, ← hattrId, ← Option.some.inj hwritten]
      exact targetOf_tables cluster (List.mem_of_find?_eq_some hcluster) attr
        (List.mem_of_find?_eq_some hentry) hattr.2
    · cases hwritten

/-- The value of an attribute behind a setting. -/
def Setting.over (data : AttrData) (v : UInt16) (setting : Setting) : UInt16 :=
  if setting.target = data then setting.value else v

/-- The value of the last setting for an attribute, if there is one. -/
def lastValue (data : AttrData) (v : UInt16) (settings : List Setting) : UInt16 :=
  settings.foldl (Setting.over data) v

/-- A last value stays the last one from itself on. -/
theorem lastValue_of_eq {data : AttrData} {v w : UInt16} {settings : List Setting}
    (hlast : lastValue data v settings = w) : lastValue data w settings = w := by
  induction settings generalizing v with
  | nil => rfl
  | cons setting settings ih =>
      have hlast' : lastValue data (setting.over data v) settings = w := hlast
      show lastValue data (setting.over data w) settings = w
      by_cases htarget : setting.target = data
      · rw [Setting.over, if_pos htarget] at hlast' ⊢
        exact hlast'
      · rw [Setting.over, if_neg htarget] at hlast' ⊢
        exact ih hlast'

/-- The setting that an attribute stands for. -/
def RelaySettings.read (s : RelaySettings) : AttrData → UInt16
  | .startUpOnOff => s.startUpOnOff.toUInt16
  | .custom_swtichType => s.switchType.toUInt16
  | .switchActions => s.switchActions.toUInt16
  | .custom_decoupled => s.switch_decoupled.toUInt16
  | .defaultMoveRate => s.defaultMoveRate.toUInt16
  | .minLevel => s.levelMin.toUInt16
  | .maxLevel => s.levelMax.toUInt16
  | .transitionTime => s.transitionTime
  | _ => 0

/-- The settings are what the attributes stand for, and the checksum. -/
theorem RelaySettings.ext_read {s s' : RelaySettings}
    (hread : ∀ data ∈ settingTargets, s.read data = s'.read data) (hcrc : s.crc = s'.crc) :
    s = s' := by
  have hfield (data : AttrData) (hdata : data ∈ settingTargets) {v v' : UInt8}
      (hv : s.read data = v.toUInt16) (hv' : s'.read data = v'.toUInt16) : v = v' :=
    toUInt16_inj.mp (hv.symm.trans ((hread data hdata).trans hv'))
  have htime : s.transitionTime = s'.transitionTime := hread .transitionTime (by decide)
  cases s
  cases s'
  rw [RelaySettings.mk.injEq]
  refine ⟨?_, ?_, ?_, ?_, ?_, ?_, ?_, htime, hcrc⟩
  · exact hfield .startUpOnOff (by decide) rfl rfl
  · exact hfield .custom_swtichType (by decide) rfl rfl
  · exact hfield .switchActions (by decide) rfl rfl
  · exact hfield .custom_decoupled (by decide) rfl rfl
  · exact hfield .defaultMoveRate (by decide) rfl rfl
  · exact hfield .minLevel (by decide) rfl rfl
  · exact hfield .maxLevel (by decide) rfl rfl

/-- A setting takes effect on {lit}`relay_settings`, unless decoupling is forced. -/
theorem read_set (data : AttrData) {s : RelaySettings} {setting : Setting}
    (hforces : data = .custom_decoupled → ¬ Forces s setting) :
    (s.set setting).read data = setting.over data (s.read data) := by
  have hforced : data = .custom_decoupled →
      (s.set setting).switch_decoupled.toUInt16 =
        setting.over .custom_decoupled s.switch_decoupled.toUInt16 := by
    intro heq
    have hnot := hforces heq
    cases setting with
    | switchType type =>
        rw [RelaySettings.set, if_neg hnot]
        rfl
    | switch_decoupled decoupled =>
        rw [RelaySettings.set, if_neg hnot]
        rfl
    | _ => rfl
  cases data with
  | custom_decoupled => exact hforced rfl
  | _ => cases setting <;> rfl

/-- The settings behind a frame: each is the last one asked for. -/
theorem run_set_read (data : AttrData) {s : RelaySettings} {settings : List Setting}
    (hforces : data = .custom_decoupled → ¬ Sometime RelaySettings.set Forces s settings) :
    (run RelaySettings.set s settings).read data = lastValue data (s.read data) settings := by
  induction settings generalizing s with
  | nil => rfl
  | cons setting settings ih =>
      have hhead : data = .custom_decoupled → ¬ Forces s setting := by
        intro heq hforce
        exact hforces heq (Or.inl hforce)
      have hrest := ih (s := s.set setting) fun heq hforce => hforces heq (Or.inr hforce)
      rw [run_cons, hrest, read_set data hhead]
      rfl

/-- A switch type out of range is no setting, but it has its attribute. -/
theorem settingOf_not_inRange {clusterId : UInt16} {rec : WriteRec}
    (hrange : ¬ InRange clusterId rec) :
    settingOf clusterId rec = none ∧
      targetOf clusterId rec.attrID = some .custom_swtichType := by
  simp only [InRange, not_forall] at hrange
  rcases hrange with ⟨hcfg, hid, hlarge⟩
  subst hcfg
  rw [settingOf, targetOf, hid, if_neg (by decide), if_pos rfl, if_pos rfl, if_neg hlarge,
    if_neg (by decide), if_pos rfl, if_pos rfl]
  exact ⟨rfl, rfl⟩

/-- An accepted record gives an attribute the value of its setting, if a switch type is
in range. -/
theorem zclAttrWrite_read (attrs : Attrs) {clusterId : UInt16} {rec : WriteRec} {data : AttrData}
    (hdata : data ∈ settingTargets) (haccepted : AttrAccepted APP_ENDPOINT1 clusterId rec)
    (htype : data = .custom_swtichType → InRange clusterId rec) :
    (zclAttrWrite attrs APP_ENDPOINT1 clusterId rec true).2.read data =
      (settingOf clusterId rec).elim (attrs.read data) (Setting.over data (attrs.read data)) := by
  rcases Option.isSome_iff_exists.mp (attrAccepted_iff.mp haccepted) with ⟨data', hwritten⟩
  have hwrites := targetOf_writtenTo hwritten
  rw [zclAttrWrite_eq, hwritten, Option.elim_some]
  by_cases hrange : InRange clusterId rec
  swap
  · rcases settingOf_not_inRange hrange with ⟨hnone, hswitch⟩
    rw [hnone, Option.elim_none]
    apply read_store_other
    rintro rfl
    rw [hswitch, if_pos hdata] at hwrites
    exact hrange (htype (Option.some.inj hwrites).symm)
  have htarget := settingOf_target hrange
  rw [hwrites] at htarget
  cases hsetting : settingOf clusterId rec with
  | none =>
      rw [hsetting] at htarget
      have hother : data' ∉ settingTargets := by
        intro hmem
        rw [if_pos hmem] at htarget
        cases htarget
      rw [Option.elim_none]
      apply read_store_other
      rintro rfl
      exact hother hdata
  | some setting =>
      rw [hsetting] at htarget
      by_cases hmem : data' ∈ settingTargets
      · rw [if_pos hmem] at htarget
        have hpair := Option.some.inj htarget
        have hsame : setting.target = data' := congrArg Prod.fst hpair
        have hvalue : setting.value = data'.value rec.attrData := congrArg Prod.snd hpair
        rw [Option.elim_some, Setting.over, hsame]
        split
        · rename_i heq
          rw [← heq, hvalue]
          exact read_store_same attrs data' rec.attrData
        · rename_i hne
          exact read_store_other attrs rec.attrData hne
      · rw [if_neg hmem] at htarget
        cases htarget

/-- The attributes behind an accepted frame. -/
theorem zclWriteHandler_read (attrs : Attrs) {data : AttrData} {clusterId : UInt16}
    {attrList : List WriteRec} (hdata : data ∈ settingTargets)
    (haccepted : ∀ rec ∈ attrList, AttrAccepted APP_ENDPOINT1 clusterId rec)
    (htype : data = .custom_swtichType → ∀ rec ∈ attrList, InRange clusterId rec) :
    (zclWriteHandler attrs APP_ENDPOINT1 clusterId attrList).read data =
      lastValue data (attrs.read data) (settingsOf clusterId attrList) := by
  unfold zclWriteHandler
  induction attrList generalizing attrs with
  | nil => rfl
  | cons rec attrList ih =>
      have hhead := zclAttrWrite_read attrs hdata (haccepted rec List.mem_cons_self)
        (fun heq => htype heq rec List.mem_cons_self)
      have hrest := ih (zclAttrWrite attrs APP_ENDPOINT1 clusterId rec true).2
        (fun rec' hmem => haccepted rec' (List.mem_cons_of_mem _ hmem))
        (fun heq rec' hmem => htype heq rec' (List.mem_cons_of_mem _ hmem))
      rw [List.foldl_cons, hrest, hhead, settingsOf, settingsOf]
      cases hsetting : settingOf clusterId rec with
      | none => rw [List.filterMap_cons_none hsetting, Option.elim_none]
      | some setting =>
          rw [List.filterMap_cons_some hsetting, Option.elim_some]
          rfl

/-! ## Configuration frames -/

/-- A frame for endpoint 1 whose records are accepted and in range. -/
structure ConfigFrame where
  clusterId : UInt16
  attrList : List WriteRec
  accepted : ∀ rec ∈ attrList, AttrAccepted APP_ENDPOINT1 clusterId rec
  inRange : ∀ rec ∈ attrList, InRange clusterId rec

/-- A record of one byte. -/
def byteRec (attrID : UInt16) (dataType data : UInt8) : WriteRec :=
  ⟨attrID, dataType, fun _ => data⟩

def ConfigFrame.settings (frame : ConfigFrame) : List Setting :=
  settingsOf frame.clusterId frame.attrList

/-- The write command of a frame. -/
def Device.writeFrame (d : Device) (frame : ConfigFrame) : Device :=
  writeCommand d APP_ENDPOINT1 frame.clusterId frame.attrList

/-- What the handler does to the attributes. -/
theorem handle_attrs (d : Device) (setting : Setting) :
    ∃ onOff, (d.handle setting).attrs = { d.attrs with
      onOff := { d.attrs.onOff with onOff := onOff }
      onOffCfg := d.attrs.onOffCfg.set d.relay_settings setting } := by
  by_cases hoff : TurnsOff d.relay_settings setting
  · rw [handle_of_turnsOff hoff]
    simp only [Device.withConfig, cmdOnOffOff_attrs]
    exact ⟨_, rfl⟩
  · simp only [Device.handle]
    rw [if_neg hoff]
    split
    · exact ⟨_, rfl⟩
    · exact ⟨_, rfl⟩

theorem handle_onOffCfg (d : Device) (setting : Setting) :
    (d.handle setting).attrs.onOffCfg = d.attrs.onOffCfg.set d.relay_settings setting := by
  rcases handle_attrs d setting with ⟨onOff, hattrs⟩
  rw [hattrs]

/-- The attributes that the handler does not write itself. -/
theorem run_handle_read {data : AttrData} (hdata : data ≠ .onOff) (htype : data ≠ .switchType)
    (hdecoupled : data ≠ .custom_decoupled) (d : Device) (settings : List Setting) :
    (run Device.handle d settings).attrs.read data = d.attrs.read data := by
  apply run_invariant_always (fun d' : Device => d'.attrs.read data = d.attrs.read data)
  · intro d' setting hsame
    rcases handle_attrs d' setting with ⟨onOff, hattrs⟩
    rw [hattrs, ← hsame]
    cases data <;> first | rfl | contradiction
  · rfl

theorem appZclWriteReqCmd_attrs (d : Device) (clusterId : UInt16) (attrList : List WriteRec) :
    (appZclWriteReqCmd d APP_ENDPOINT1 clusterId attrList).attrs =
      (run Device.handle d (settingsOf clusterId attrList)).attrs := by
  rw [appZclWriteReqCmd_eq]
  split
  · rfl
  · rename_i hnever
    rw [run_handle_of_not_acts hnever]

theorem appZclWriteReqCmd_settings (d : Device) (clusterId : UInt16)
    (attrList : List WriteRec) :
    ∃ crc, (appZclWriteReqCmd d APP_ENDPOINT1 clusterId attrList).relay_settings =
      { run RelaySettings.set d.relay_settings (settingsOf clusterId attrList) with
        crc := crc } := by
  rw [appZclWriteReqCmd_eq, ← run_map handle_settings d (settingsOf clusterId attrList)]
  split
  · exact ⟨_, rfl⟩
  · rename_i hnever
    rw [run_handle_of_not_acts hnever]
    exact ⟨_, rfl⟩

theorem sameParts_writeCommand (d : Device) (endpoint : UInt8) (clusterId : UInt16)
    (attrList : List WriteRec) : SameParts d (writeCommand d endpoint clusterId attrList) := by
  rw [writeCommand]
  generalize zclWriteHandler d.attrs endpoint clusterId attrList = attrs
  have hassign : SameParts d { d with attrs := attrs } := ⟨rfl, rfl, rfl, rfl, rfl⟩
  by_cases hendpoint : endpoint = APP_ENDPOINT1
  · rw [hendpoint, appZclWriteReqCmd_eq]
    split
    · have hrun := hassign.trans (sameParts_run _ (settingsOf clusterId attrList))
      exact hrun.trans ⟨rfl, rfl, rfl, rfl, rfl⟩
    · exact hassign
  · rw [appZclWriteReqCmd, if_neg hendpoint]
    exact hassign

theorem sameParts_writeFrame (d : Device) (frame : ConfigFrame) :
    SameParts d (d.writeFrame frame) := sameParts_writeCommand d _ _ _

/-- The settings behind a frame. -/
theorem writeFrame_settings (d : Device) (frame : ConfigFrame) :
    ∃ crc, (d.writeFrame frame).relay_settings =
      { run RelaySettings.set d.relay_settings frame.settings with crc := crc } :=
  appZclWriteReqCmd_settings _ frame.clusterId frame.attrList

/-- The setting of an attribute behind a frame is the last one asked for. -/
theorem writeFrame_settings_read {data : AttrData} (hdecoupled : data ≠ .custom_decoupled)
    (d : Device) (frame : ConfigFrame) :
    (d.writeFrame frame).relay_settings.read data =
      lastValue data (d.relay_settings.read data) frame.settings := by
  rcases writeFrame_settings d frame with ⟨crc, hsettings⟩
  rw [hsettings, ← run_set_read data fun heq => absurd heq hdecoupled]
  cases data <;> rfl

/-- An attribute behind a frame holds the last value asked for. -/
theorem writeFrame_read {data : AttrData} (hdata : data ∈ settingTargets)
    (hdecoupled : data ≠ .custom_decoupled) (d : Device) (frame : ConfigFrame) :
    (d.writeFrame frame).attrs.read data =
      lastValue data (d.attrs.read data) frame.settings := by
  have hnotOnOff : data ≠ .onOff := by
    rintro rfl
    exact absurd hdata (by decide)
  have hnotType : data ≠ .switchType := by
    rintro rfl
    exact absurd hdata (by decide)
  rw [Device.writeFrame, writeCommand, appZclWriteReqCmd_attrs,
    run_handle_read hnotOnOff hnotType hdecoupled]
  exact zclWriteHandler_read d.attrs hdata frame.accepted fun _ => frame.inRange

end Firmware
