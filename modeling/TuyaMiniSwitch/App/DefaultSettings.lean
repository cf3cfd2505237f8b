import TuyaMiniSwitch.App.RemoteCommands
import TuyaMiniSwitch.App.SettingsReboot

/-!
# Application - The default settings

{lit}`relay_settings_restore` reads the stored settings into a local buffer.  When
the read fails or the checksum is wrong, it writes its defaults into the buffer and
copies the whole of it: the fields that have no default, and the checksum, are
whatever the buffer holds by then.

Main results:

- Theorem {lit}`restoreFrom_refused`: the settings behind a refused record.
- Theorem {lit}`restore_saved`: once saved, they are restored as valid settings.
- Theorem {lit}`default_settings_determined_iff`: two runs agree exactly when their
  buffers agree on what the defaults do not set.
-/

namespace Firmware

open FlashDriver Utility OnOffLog

/-! ## Two runs -/

/-- What {lit}`nv_flashReadNew` and the stack give to {lit}`relay_settings_restore`:
the record that was read, if one was, and the buffer as a failed read leaves it. -/
structure Delivery where
  nv : Option RelaySettings
  buffer : RelaySettings

/-- The buffer behind the read. -/
def Delivery.bytes (x : Delivery) : RelaySettings :=
  x.nv.getD x.buffer

/-- The read fails, or the checksum does not match. -/
def Delivery.Refused (x : Delivery) : Prop :=
  ∀ s, x.nv = some s → s.crc ≠ checksum s.toBytes

/-- {lit}`relay_settings_restore` with such a delivery. -/
def restoreFrom (d : Device) (x : Delivery) : Option Device :=
  relaySettingsRestore { d with nv := x.nv } x.buffer

/-- The part of the buffer that the default settings leave alone. -/
structure SameUnset (s t : RelaySettings) : Prop where
  defaultMoveRate : s.defaultMoveRate = t.defaultMoveRate
  levelMin : s.levelMin = t.levelMin
  levelMax : s.levelMax = t.levelMax
  transitionTime : s.transitionTime = t.transitionTime
  crc : s.crc = t.crc

/-- Two runs from one state end in the same settings, send the same levels and the
same rate, and have the same settings again after they were saved and restored. -/
def Determined (d : Device) (x y : Delivery) : Prop :=
  ∃ a b, restoreFrom d x = some a ∧ restoreFrom d y = some b ∧
    a.relay_settings = b.relay_settings ∧
    (∀ tables outside ep up_down,
      appMoveToLevel tables a.relay_settings outside ep up_down =
        appMoveToLevel tables b.relay_settings outside ep up_down) ∧
    (∀ tables outside ep up_down,
      appLevelMove tables a.relay_settings outside ep up_down =
        appLevelMove tables b.relay_settings outside ep up_down) ∧
    ∀ buffer buffer' a' b', relaySettingsRestore (relaySettingsSave a) buffer = some a' →
      relaySettingsRestore (relaySettingsSave b) buffer' = some b' →
        a'.relay_settings = b'.relay_settings

/-! ## The default path -/

/-- The settings that stand for a refused record. -/
def withDefaults (s : RelaySettings) : RelaySettings :=
  { s with
    startUpOnOff := ZCL_START_UP_ONOFF_SET_ONOFF_TO_OFF
    switchActions := ZCL_SWITCH_ACTION_OFF_ON
    switchType := ZCL_SWITCH_TYPE_MOMENTARY
    switch_decoupled := CUSTOM_SWITCH_DECOUPLED_OFF }

theorem withDefaults_eq_iff (s t : RelaySettings) :
    withDefaults s = withDefaults t ↔ SameUnset s t := by
  constructor
  · intro h
    rw [withDefaults, withDefaults, RelaySettings.mk.injEq] at h
    rcases h with ⟨-, -, -, -, hrate, hmin, hmax, htime, hcrc⟩
    exact ⟨hrate, hmin, hmax, htime, hcrc⟩
  · rintro ⟨hrate, hmin, hmax, htime, hcrc⟩
    rw [withDefaults, withDefaults, hrate, hmin, hmax, htime, hcrc]

/-- {lit}`relay_settings_restore` always returns, with the stored record if it is
whole and with the buffer and its defaults if not. -/
theorem exists_relaySettingsRestore (d : Device) (buffer : RelaySettings) :
    ∃ d', relaySettingsRestore d buffer = some d' ∧
      d'.relay_settings =
        if d.nv.isSome ∧ (d.nv.getD buffer).crc = checksum (d.nv.getD buffer).toBytes then
          d.nv.getD buffer
        else
          withDefaults (d.nv.getD buffer) := by
  rcases statusOnoffRestore_spec d.log with ⟨log, hlog, -⟩
  exact ⟨_, Option.bind_eq_some_iff.mpr ⟨log, hlog, rfl⟩, rfl⟩

/-- The settings behind a refused record. -/
theorem restoreFrom_refused (d : Device) {x : Delivery} (hx : x.Refused) :
    ∃ a, restoreFrom d x = some a ∧ a.relay_settings = withDefaults x.bytes := by
  rcases exists_relaySettingsRestore { d with nv := x.nv } x.buffer with ⟨a, ha, hsettings⟩
  refine ⟨a, ha, ?_⟩
  rw [hsettings, if_neg]
  · rfl
  · rintro ⟨hsome, hcrc⟩
    cases hnv : x.nv with
    | none =>
        rw [hnv] at hsome
        cases hsome
    | some s =>
        rw [hnv] at hcrc
        exact hx s hnv hcrc

/-- Whatever the settings are, a save makes them valid: the next restore brings
them back with the checksum that goes with them. -/
theorem restore_saved {d d' : Device} {buffer : RelaySettings}
    (hrestore : relaySettingsRestore (relaySettingsSave d) buffer = some d') :
    d'.relay_settings = { d.relay_settings with crc := checksum d.relay_settings.toBytes } := by
  rcases exists_relaySettingsRestore (relaySettingsSave d) buffer with ⟨a, ha, hsettings⟩
  obtain rfl : a = d' := Option.some.inj (ha.symm.trans hrestore)
  rw [hsettings, if_pos]
  · rfl
  · exact ⟨rfl, rfl⟩

/-- Two runs that take the defaults agree exactly when their buffers agree on what
the defaults do not set. -/
theorem default_settings_determined_iff (d : Device) (x y : Delivery) (hx : x.Refused)
    (hy : y.Refused) : Determined d x y ↔ SameUnset x.bytes y.bytes := by
  rcases restoreFrom_refused d hx with ⟨a, ha, hsettings⟩
  rcases restoreFrom_refused d hy with ⟨b, hb, hsettings'⟩
  rw [← withDefaults_eq_iff, ← hsettings, ← hsettings']
  constructor
  · rintro ⟨a', b', ha', hb', hsame, -⟩
    obtain rfl : a' = a := Option.some.inj (ha'.symm.trans ha)
    obtain rfl : b' = b := Option.some.inj (hb'.symm.trans hb)
    exact hsame
  · intro hsame
    refine ⟨a, b, ha, hb, hsame, ?_, ?_, ?_⟩
    · intro tables outside ep up_down
      rw [hsame]
    · intro tables outside ep up_down
      rw [hsame]
    · intro buffer buffer' a' b' ha' hb'
      rw [restore_saved ha', restore_saved hb', hsame]

/-- A device with nothing stored. -/
def unsetDevice : Device where
  log := powerOn NorFlash.Chip.erased
  nv := none

/-- A failed read and a damaged record that agree on what the defaults do not set. -/
theorem default_settings_determined_damaged :
    Determined unsetDevice ⟨none, { levelMax := 254, crc := 1 }⟩
      ⟨some { startUpOnOff := 7, levelMax := 254, crc := 1 }, {}⟩ := by
  refine (default_settings_determined_iff _ _ _ ?_ ?_).mpr ⟨rfl, rfl, rfl, rfl, rfl⟩
  · intro s hs
    cases hs
  · intro s hs
    cases hs
    decide

/-- Two failed reads with other levels in the buffer: the settings differ, the levels
that are sent differ, and after a save and a restore the levels are still there. -/
theorem default_settings_garbage :
    ∃ a b a' b',
      restoreFrom unsetDevice ⟨none, { levelMin := 1 }⟩ = some a ∧
      restoreFrom unsetDevice ⟨none, { levelMin := 200 }⟩ = some b ∧
      a.relay_settings ≠ b.relay_settings ∧
      (moveToLevel a.relay_settings (fun _ => 0) APP_ENDPOINT1 LEVEL_MOVE_DOWN).level = 1 ∧
      (moveToLevel b.relay_settings (fun _ => 0) APP_ENDPOINT1 LEVEL_MOVE_DOWN).level = 200 ∧
      relaySettingsRestore (relaySettingsSave a) {} = some a' ∧
      relaySettingsRestore (relaySettingsSave b) {} = some b' ∧
      a'.relay_settings.levelMin = 1 ∧ b'.relay_settings.levelMin = 200 ∧
      ¬ Determined unsetDevice ⟨none, { levelMin := 1 }⟩ ⟨none, { levelMin := 200 }⟩ := by
  have hrefused : ∀ buffer, Delivery.Refused ⟨none, buffer⟩ := by
    intro buffer s hs
    cases hs
  rcases restoreFrom_refused unsetDevice (hrefused { levelMin := 1 }) with ⟨a, ha, hsettings⟩
  rcases restoreFrom_refused unsetDevice (hrefused { levelMin := 200 }) with
    ⟨b, hb, hsettings'⟩
  rcases exists_relaySettingsRestore (relaySettingsSave a) {} with ⟨a', ha', -⟩
  rcases exists_relaySettingsRestore (relaySettingsSave b) {} with ⟨b', hb', -⟩
  have hdiffer : a.relay_settings ≠ b.relay_settings := by
    rw [hsettings, hsettings']
    decide
  refine ⟨a, b, a', b', ha, hb, hdiffer, ?_, ?_, ha', hb', ?_, ?_, ?_⟩
  · rw [hsettings]
    decide
  · rw [hsettings']
    decide
  · rw [restore_saved ha', hsettings]
    rfl
  · rw [restore_saved hb', hsettings']
    rfl
  · rintro ⟨c, e, hc, he, hsame, -⟩
    obtain rfl : c = a := Option.some.inj (hc.symm.trans ha)
    obtain rfl : e = b := Option.some.inj (he.symm.trans hb)
    exact hdiffer hsame

end Firmware
