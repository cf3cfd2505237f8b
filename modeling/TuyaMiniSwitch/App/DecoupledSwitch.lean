import TuyaMiniSwitch.App.SettingsReboot

/-!
# Application - Decoupled switches

The switch types {lit}`MULTIFUNCTION` and {lit}`LIGHT_CONTROL` do not drive the relay,
and a switch of such a type must be decoupled.  The write handler sees to it at two
places, when the type changes and when the decoupled attribute does, and nowhere else.

Main results:

- Theorem {lit}`MultifunctionDecoupled.set`: no setting couples such a switch.
- Theorem {lit}`multifunction_decoupled`: it is decoupled behind every record of every
  frame and behind every reboot.
-/

namespace Firmware

open Machine Utility OnOffLog

/-- A switch whose type does not drive the relay is decoupled. -/
def MultifunctionDecoupled (s : RelaySettings) : Prop :=
  s.switchType ≥ ZCL_SWITCH_TYPE_MULTIFUNCTION → s.switch_decoupled ≠ CUSTOM_SWITCH_DECOUPLED_OFF

/-- No setting, whatever its value, couples such a switch. -/
theorem MultifunctionDecoupled.set {s : RelaySettings} (hs : MultifunctionDecoupled s)
    (setting : Setting) : MultifunctionDecoupled (s.set setting) := by
  by_cases hforces : Forces s setting
  · intro _
    rw [set_of_forces hforces]
    decide
  · intro htype
    cases setting with
    | switchType type =>
        rw [RelaySettings.set, if_neg hforces] at htype ⊢
        dsimp only at htype ⊢
        by_cases hsame : s.switchType = type
        · rw [← hsame] at htype
          exact hs htype
        · exact absurd ⟨hsame, htype⟩ hforces
    | switch_decoupled decoupled =>
        rw [RelaySettings.set, if_neg hforces] at htype ⊢
        dsimp only at htype ⊢
        intro hoff
        by_cases hsame : s.switch_decoupled = decoupled
        · exact hs htype (hsame.trans hoff)
        · exact hforces ⟨hsame, hoff, htype⟩
    | _ => exact hs htype

theorem MultifunctionDecoupled.run {s : RelaySettings} (hs : MultifunctionDecoupled s)
    (settings : List Setting) : MultifunctionDecoupled (run RelaySettings.set s settings) :=
  run_invariant_always _ (fun _ setting hs => hs.set setting) settings hs

/-- The firmware when {lit}`app_zclWriteReqCmd` has handled the first records of a
frame. -/
def Device.afterRecords (d : Device) (endpoint : UInt8) (clusterId : UInt16)
    (attrList : List WriteRec) (n : Nat) : Device :=
  ((attrList.take n).foldl (writeRec clusterId)
    ({ d with attrs := zclWriteHandler d.attrs endpoint clusterId attrList }, false)).1

theorem afterRecords_settings (d : Device) (endpoint : UInt8) (clusterId : UInt16)
    (attrList : List WriteRec) (n : Nat) :
    (d.afterRecords endpoint clusterId attrList n).relay_settings =
      run RelaySettings.set d.relay_settings (settingsOf clusterId (attrList.take n)) := by
  rw [Device.afterRecords, foldl_writeRec, foldl_handleSetting]
  exact run_map handle_settings _ _

/-! ## Frames and reboots -/

/-- What happens to a device over its life. -/
inductive LifeEvent where
  | write (endpoint : UInt8) (clusterId : UInt16) (attrList : List WriteRec)
  | reboot (buffer : RelaySettings) (clock : UInt32)

def Device.live (d : Device) : LifeEvent → Option Device
  | .write endpoint clusterId attrList => some (writeCommand d endpoint clusterId attrList)
  | .reboot buffer clock => userInit (d.reboot buffer clock)

/-- The settings in use and the stored ones are decoupled if their type asks for it. -/
structure StaysDecoupled (d : Device) : Prop where
  settings : MultifunctionDecoupled d.relay_settings
  stored : ∀ s, d.nv = some s → s.crc = checksum s.toBytes → MultifunctionDecoupled s

theorem StaysDecoupled.write {d : Device} (hd : StaysDecoupled d) (endpoint : UInt8)
    (clusterId : UInt16) (attrList : List WriteRec) :
    StaysDecoupled (writeCommand d endpoint clusterId attrList) := by
  unfold writeCommand
  generalize zclWriteHandler d.attrs endpoint clusterId attrList = attrs
  have hattrs : StaysDecoupled { d with attrs := attrs } := ⟨hd.settings, hd.stored⟩
  by_cases hep : endpoint = APP_ENDPOINT1
  · have hrun : MultifunctionDecoupled (Machine.run Device.handle { d with attrs := attrs }
        (settingsOf clusterId attrList)).relay_settings := by
      rw [run_map handle_settings]
      exact hd.settings.run _
    rw [hep, appZclWriteReqCmd_eq]
    split
    · refine ⟨hrun, fun s hs _ => ?_⟩
      cases hs
      exact hrun
    · exact hattrs
  · unfold appZclWriteReqCmd
    rw [if_neg hep]
    exact hattrs

theorem multifunctionDecoupled_defaults (input : BootInput) :
    MultifunctionDecoupled input.defaults := by
  intro htype
  have hmomentary : ¬ ZCL_SWITCH_TYPE_MOMENTARY ≥ ZCL_SWITCH_TYPE_MULTIFUNCTION := by
    decide
  exact absurd htype hmomentary

theorem StaysDecoupled.reboot {d d' : Device} {buffer : RelaySettings} {clock : UInt32}
    (hd : StaysDecoupled d) (hinit : userInit (d.reboot buffer clock) = some d') :
    StaysDecoupled d' := by
  have hboot := userInit_spec hinit
  have hconfig := userInit_config hinit
  constructor
  · rw [hboot.settings]
    cases hstored : (d.reboot buffer clock).stored with
    | none => exact multifunctionDecoupled_defaults _
    | some s =>
        rcases BootInput.stored_of_some hstored with ⟨hnv, hcrc⟩
        exact hd.stored s hnv hcrc
  · rw [hconfig.nv]
    exact hd.stored

/-- Over every life of frames and reboots that starts from the default settings: behind
every frame and every reboot, and behind every record of the next frame, a switch whose
type does not drive the relay is decoupled. -/
theorem multifunction_decoupled (input : BootInput) (start d : Device)
    (hinit : userInit input = some start) (hdefault : input.stored = none)
    (es : List LifeEvent) (hrun : es.foldlM Device.live start = some d) :
    MultifunctionDecoupled d.relay_settings ∧
      ∀ endpoint clusterId attrList n,
        MultifunctionDecoupled (d.afterRecords endpoint clusterId attrList n).relay_settings := by
  have hboot := userInit_spec hinit
  have hconfig := userInit_config hinit
  have hstart : StaysDecoupled start := by
    constructor
    · rw [hboot.settings, hdefault]
      exact multifunctionDecoupled_defaults input
    · intro s hnv hcrc
      rw [hconfig.nv] at hnv
      rw [BootInput.stored_of_crc hnv hcrc] at hdefault
      cases hdefault
  have hd : StaysDecoupled d := by
    refine foldlM_invariant StaysDecoupled (fun d e d' hd hstep => ?_) hstart hrun
    cases e with
    | write endpoint clusterId attrList =>
        cases hstep
        exact hd.write endpoint clusterId attrList
    | reboot buffer clock => exact hd.reboot hstep
  refine ⟨hd.settings, fun endpoint clusterId attrList n => ?_⟩
  rw [afterRecords_settings]
  exact hd.settings.run _

/-- A new device becomes a multifunction switch and boots again. -/
theorem multifunction_decoupled_reboot :
    ∃ start d, userInit unsetBoot = some start ∧
      [LifeEvent.write APP_ENDPOINT1 coupledAgainFrame.clusterId coupledAgainFrame.attrList,
        .reboot {} 0].foldlM Device.live start = some d ∧
      MultifunctionDecoupled d.relay_settings := by
  rcases exists_unsetBoot with ⟨start, hinit⟩
  have hd := (configured_userInit hinit).writeFrame coupledAgainFrame
  rcases hd.exists_reboot hinit {} 0 with ⟨d, hreboot⟩
  have hrun : [LifeEvent.write APP_ENDPOINT1 coupledAgainFrame.clusterId
      coupledAgainFrame.attrList, .reboot {} 0].foldlM Device.live start = some d := by
    rw [List.foldlM_cons]
    refine Option.bind_eq_some_iff.mpr ⟨_, rfl, ?_⟩
    rw [List.foldlM_cons]
    exact Option.bind_eq_some_iff.mpr ⟨d, hreboot, rfl⟩
  exact ⟨start, d, hinit, hrun, (multifunction_decoupled unsetBoot start d hinit rfl _ hrun).1⟩

end Firmware
