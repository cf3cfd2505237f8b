import TuyaMiniSwitch.App.SettingsMirror

/-!
# Application - Write commands

The foundation knows three commands that write attributes, and it carries all of them
out.  The application looks at one: the settings in a {lit}`ZCL_CMD_WRITE_NO_RSP` or a
{lit}`ZCL_CMD_WRITE_UNDIVIDED` frame reach the attributes and nothing else.

Main results:

- Theorem {lit}`sameState_of_undone`, {lit}`undone_of_sameState`: when the application
  leaves the state it found.
- Theorem {lit}`write_commands_agree_iff`: when the three commands do the same.
-/

namespace Firmware

open Machine OnOffLog FlashDriver

/-! ## The three commands -/

def ZCL_CMD_WRITE : UInt8 := 0x02

def ZCL_CMD_WRITE_UNDIVIDED : UInt8 := 0x03

def ZCL_CMD_WRITE_NO_RSP : UInt8 := 0x05

/-- What {lit}`zcl_writeUndividedHandler` does to the attributes: it writes when a first
pass that does not write finds all records acceptable. -/
def zclWriteUndividedHandler (attrs : Attrs) (endpoint : UInt8) (clusterId : UInt16)
    (attrList : List WriteRec) : Attrs :=
  let needWrite := attrList.foldl (fun needWrite rec =>
    if (zclAttrWrite attrs endpoint clusterId rec false).1 ≠ .ZCL_STA_SUCCESS then false
    else needWrite) true
  if needWrite then
    attrList.foldl (fun attrs rec => (zclAttrWrite attrs endpoint clusterId rec true).2) attrs
  else
    attrs

/-- {lit}`app_zclProcessIncomingMsg` for a message that carries write records.  The other
commands it tells apart carry something else. -/
def appZclProcessIncomingMsg (d : Device) (cmd endpoint : UInt8) (clusterId : UInt16)
    (attrList : List WriteRec) : Device :=
  if cmd = ZCL_CMD_WRITE then appZclWriteReqCmd d endpoint clusterId attrList else d

/-- A command of the foundation: its own handler, and then the callback of the
application. -/
def zclFoundationCmd (d : Device) (cmd endpoint : UInt8) (clusterId : UInt16)
    (attrList : List WriteRec) : Device :=
  let attrs :=
    if cmd = ZCL_CMD_WRITE ∨ cmd = ZCL_CMD_WRITE_NO_RSP then
      zclWriteHandler d.attrs endpoint clusterId attrList
    else if cmd = ZCL_CMD_WRITE_UNDIVIDED then
      zclWriteUndividedHandler d.attrs endpoint clusterId attrList
    else
      d.attrs
  appZclProcessIncomingMsg { d with attrs := attrs } cmd endpoint clusterId attrList

/-- The level the relay pin was last driven to. -/
def Device.relayState (d : Device) : Option UInt8 := (relays d.outputs).getLast?

/-- The attributes, the settings, the stored settings, the status log and the relay are
the same. -/
structure SameState (d d' : Device) : Prop where
  attrs : d'.attrs = d.attrs
  settings : d'.relay_settings = d.relay_settings
  nv : d'.nv = d.nv
  log : d'.log = d.log
  relay : d'.relayState = d.relayState

/-- The three commands leave the same state. -/
def CommandsAgree (d : Device) (endpoint : UInt8) (clusterId : UInt16)
    (attrList : List WriteRec) : Prop :=
  SameState (zclFoundationCmd d ZCL_CMD_WRITE endpoint clusterId attrList)
      (zclFoundationCmd d ZCL_CMD_WRITE_NO_RSP endpoint clusterId attrList) ∧
    SameState (zclFoundationCmd d ZCL_CMD_WRITE endpoint clusterId attrList)
      (zclFoundationCmd d ZCL_CMD_WRITE_UNDIVIDED endpoint clusterId attrList)

/-- The frame behind the foundation. -/
def Device.written (d : Device) (endpoint : UInt8) (clusterId : UInt16)
    (attrList : List WriteRec) : Device :=
  { d with attrs := zclWriteHandler d.attrs endpoint clusterId attrList }

theorem zclFoundationCmd_write (d : Device) (endpoint : UInt8) (clusterId : UInt16)
    (attrList : List WriteRec) :
    zclFoundationCmd d ZCL_CMD_WRITE endpoint clusterId attrList =
      writeCommand d endpoint clusterId attrList := rfl

theorem zclFoundationCmd_noRsp (d : Device) (endpoint : UInt8) (clusterId : UInt16)
    (attrList : List WriteRec) :
    zclFoundationCmd d ZCL_CMD_WRITE_NO_RSP endpoint clusterId attrList =
      d.written endpoint clusterId attrList := rfl

/-- A list that is accepted passes the first pass. -/
theorem zclWriteUndividedHandler_accepted {endpoint : UInt8} {clusterId : UInt16}
    {attrList : List WriteRec} (attrs : Attrs)
    (haccepted : ∀ rec ∈ attrList, AttrAccepted endpoint clusterId rec) :
    zclWriteUndividedHandler attrs endpoint clusterId attrList =
      zclWriteHandler attrs endpoint clusterId attrList := by
  have hpass : ∀ attrList : List WriteRec,
      (∀ rec ∈ attrList, AttrAccepted endpoint clusterId rec) →
      attrList.foldl (fun needWrite rec =>
        if (zclAttrWrite attrs endpoint clusterId rec false).1 ≠ .ZCL_STA_SUCCESS then false
        else needWrite) true = true := by
    intro attrList
    induction attrList with
    | nil => exact fun _ => rfl
    | cons rec attrList ih =>
        intro haccepted
        have hrec : (zclAttrWrite attrs endpoint clusterId rec false).1 = .ZCL_STA_SUCCESS :=
          (zclAttrWrite_status attrs endpoint clusterId rec false).mpr
            (attrAccepted_iff.mp (haccepted rec List.mem_cons_self))
        rw [List.foldl_cons, if_neg fun hne => hne hrec]
        exact ih fun rec' hmem => haccepted rec' (List.mem_cons_of_mem _ hmem)
  unfold zclWriteUndividedHandler
  dsimp only
  rw [hpass attrList haccepted]
  rfl

theorem zclFoundationCmd_undivided (d : Device) {endpoint : UInt8} {clusterId : UInt16}
    {attrList : List WriteRec}
    (haccepted : ∀ rec ∈ attrList, AttrAccepted endpoint clusterId rec) :
    zclFoundationCmd d ZCL_CMD_WRITE_UNDIVIDED endpoint clusterId attrList =
      d.written endpoint clusterId attrList := by
  show ({ d with
    attrs := zclWriteUndividedHandler d.attrs endpoint clusterId attrList } : Device) = _
  rw [zclWriteUndividedHandler_accepted d.attrs haccepted]
  rfl

/-! ## What a frame does besides the attributes -/

/-- The relay is off in every respect. -/
structure IsOff (d : Device) : Prop where
  status : d.status = ZCL_ONOFF_STATUS_OFF
  onOff : d.attrs.onOff.onOff = ZCL_ONOFF_STATUS_OFF
  relay : d.device.device_en = true → d.relayState = some d.device.relayOff

theorem isOff_cmdOnOffOff (d : Device) : IsOff (cmdOnOffOff d) := by
  rw [cmdOnOffOff_eq]
  refine ⟨relayCommand_status _ _, relayCommand_onOff _ _, fun hen => ?_⟩
  rw [relayCommand_device] at hen ⊢
  exact lastDriven_relayCommand _ hen

/-- A setting that switches the relay off does so in every respect. -/
theorem isOff_of_turnsOff {d : Device} {setting : Setting}
    (hoff : TurnsOff d.relay_settings setting) : IsOff (d.handle setting) := by
  have h := isOff_cmdOnOffOff d
  rw [handle_of_turnsOff hoff]
  exact ⟨h.status, h.onOff, h.relay⟩

/-- The other settings leave the status and the relay alone. -/
theorem handle_quiet {d : Device} {setting : Setting}
    (hoff : ¬ TurnsOff d.relay_settings setting) :
    (d.handle setting).status = d.status ∧
      (d.handle setting).attrs.onOff = d.attrs.onOff ∧
      (d.handle setting).relayState = d.relayState := by
  simp only [Device.handle]
  rw [if_neg hoff]
  split
  · exact ⟨rfl, rfl, rfl⟩
  · exact ⟨rfl, rfl, rfl⟩

theorem IsOff.handle {d : Device} (hd : IsOff d) (setting : Setting) :
    IsOff (d.handle setting) := by
  by_cases hoff : TurnsOff d.relay_settings setting
  · exact isOff_of_turnsOff hoff
  · have hdevice := (sameParts_handle d setting).device
    rcases handle_quiet hoff with ⟨hstatus, honOff, hrelay⟩
    refine ⟨hstatus.trans hd.status, ?_, fun hen => ?_⟩
    · rw [honOff]
      exact hd.onOff
    · rw [hdevice] at hen ⊢
      exact hrelay.trans (hd.relay hen)

/-- The log, the attributes of the On/Off cluster and the relay are the same. -/
structure Untouched (d d' : Device) : Prop where
  log : d'.log = d.log
  onOff : d'.attrs.onOff = d.attrs.onOff
  relay : d'.relayState = d.relayState

/-- Switching off a relay that is off in every respect changes nothing. -/
theorem IsOff.cmdOnOffOff {d : Device} (hd : IsOff d) : Untouched d (cmdOnOffOff d) := by
  rw [cmdOnOffOff_off hd.onOff hd.status]
  have hframe := setRelayStatus_frame d d.device.relayOff
  refine ⟨hframe.log, by rw [hframe.attrs], ?_⟩
  by_cases hen : d.device.device_en = true
  · rw [hd.relay hen, setRelayStatus_enabled _ hen, Device.relayState, Device.output,
      relays_append, List.getLast?_append]
    rfl
  · rw [setRelayStatus, if_neg hen]

/-- A setting that does not save, and that switches the relay off only if it is off,
leaves all of this alone. -/
theorem handle_untouched {d : Device} {setting : Setting}
    (hoff : TurnsOff d.relay_settings setting → IsOff d)
    (hlogs : ¬ Logs d.relay_settings setting) : Untouched d (d.handle setting) := by
  by_cases hturns : TurnsOff d.relay_settings setting
  · have h := (hoff hturns).cmdOnOffOff
    rw [handle_of_turnsOff hturns]
    exact ⟨h.log, h.onOff, h.relay⟩
  · rw [handle_of_configures hturns hlogs]
    exact ⟨rfl, rfl, rfl⟩

theorem run_handle_untouched {d : Device} {settings : List Setting}
    (hoff : Sometime RelaySettings.set TurnsOff d.relay_settings settings → IsOff d)
    (hlogs : ¬ Sometime RelaySettings.set Logs d.relay_settings settings) :
    Untouched d (run Device.handle d settings) := by
  induction settings generalizing d with
  | nil => exact ⟨rfl, rfl, rfl⟩
  | cons setting settings ih =>
      rw [Sometime, not_or] at hlogs
      have hfirst := handle_untouched (fun h => hoff (Or.inl h)) hlogs.1
      rw [← handle_settings d setting] at hlogs
      have hrest := ih (d := d.handle setting) (fun h => (hoff (Or.inr (by
        rw [handle_settings] at h
        exact h))).handle setting) hlogs.2
      rw [run_cons]
      exact ⟨hrest.log.trans hfirst.log, hrest.onOff.trans hfirst.onOff,
        hrest.relay.trans hfirst.relay⟩

/-- The commands the flash was given. -/
def Device.flashCommands (d : Device) : Nat := d.log.chip.trace.length

theorem flashCommands_saveStatus (log : StatusLog) (v : UInt8) :
    log.chip.trace.length < (log.saveStatus v).chip.trace.length := by
  have hwrite : ∀ chip addr buf, log.chip.trace.length ≤ chip.trace.length →
      log.chip.trace.length < (flashWritePage chip addr buf).trace.length :=
    fun chip addr buf hle => Nat.lt_of_le_of_lt hle (trace_flashWritePage chip addr buf)
  have herase : ∀ addr : Nat, log.chip.trace.length ≤
      (if addr % FLASH_SECTOR_SIZE = 0 then flashEraseSector log.chip addr
        else log.chip).trace.length := by
    intro addr
    split
    · simp [flashEraseSector, NorFlash.Chip.exec]
    · exact Nat.le_refl _
  exact hwrite _ _ _ (herase _)

/-- No setting takes a flash command back. -/
theorem flashCommands_handle (d : Device) (setting : Setting) :
    d.flashCommands ≤ (d.handle setting).flashCommands := by
  unfold Device.flashCommands
  rw [handle_log, commitStatus_log]
  split
  · split
    · split
      · exact Nat.le_of_lt (flashCommands_saveStatus _ _)
      · exact Nat.le_refl _
    · exact Nat.le_refl _
  · split
    · exact Nat.le_of_lt (flashCommands_saveStatus _ _)
    · exact Nat.le_refl _

theorem flashCommands_run (d : Device) (settings : List Setting) :
    d.flashCommands ≤ (run Device.handle d settings).flashCommands :=
  run_invariant_always (fun d' : Device => d.flashCommands ≤ d'.flashCommands)
    (fun d' setting hle => Nat.le_trans hle (flashCommands_handle d' setting)) settings
    (Nat.le_refl _)

theorem flashCommands_of_logs {d : Device} {setting : Setting}
    (hlogs : Logs d.relay_settings setting) :
    d.flashCommands < (d.handle setting).flashCommands := by
  have hoff : ¬ TurnsOff d.relay_settings setting := by
    cases setting <;> first | exact False.elim hlogs | exact id
  unfold Device.flashCommands
  rw [handle_log, if_neg hoff, if_pos hlogs]
  exact flashCommands_saveStatus _ _

/-- A frame that saves the status gives the flash a command. -/
theorem flashCommands_run_of_logs {d : Device} {settings : List Setting}
    (hlogs : Sometime RelaySettings.set Logs d.relay_settings settings) :
    d.flashCommands < (run Device.handle d settings).flashCommands := by
  induction settings generalizing d with
  | nil => exact hlogs.elim
  | cons setting settings ih =>
      rcases hlogs with hfirst | hlater
      · exact Nat.lt_of_lt_of_le (flashCommands_of_logs hfirst) (flashCommands_run _ _)
      · rw [← handle_settings] at hlater
        exact Nat.lt_of_le_of_lt (flashCommands_handle d setting) (ih hlater)

/-- The attributes that the handler can change. -/
theorem run_handle_attrs (d : Device) (settings : List Setting) :
    ∃ onOff switchType custom_decoupled,
      (run Device.handle d settings).attrs = { d.attrs with
        onOff := { d.attrs.onOff with onOff := onOff }
        onOffCfg := { d.attrs.onOffCfg with
          switchType := switchType
          custom_decoupled := custom_decoupled } } := by
  apply run_invariant_always (fun d' : Device => ∃ onOff switchType custom_decoupled,
    d'.attrs = { d.attrs with
      onOff := { d.attrs.onOff with onOff := onOff }
      onOffCfg := { d.attrs.onOffCfg with
        switchType := switchType
        custom_decoupled := custom_decoupled } })
  · rintro d' setting ⟨onOff, switchType, custom_decoupled, hattrs⟩
    rcases handle_attrs d' setting with ⟨onOff', hattrs'⟩
    rw [hattrs', hattrs]
    exact ⟨_, _, _, rfl⟩
  · exact ⟨_, _, _, rfl⟩

/-- The switch type attribute behind a frame that changes the type. -/
theorem run_handle_retyped {d : Device} {settings : List Setting}
    (hretypes : Sometime RelaySettings.set Retypes d.relay_settings settings) :
    (run Device.handle d settings).attrs.onOffCfg.switchType =
      (run RelaySettings.set d.relay_settings settings).switchType := by
  rw [← run_map handle_settings]
  rw [← sometime_map handle_settings] at hretypes
  apply run_of_sometime
    (fun d : Device => d.attrs.onOffCfg.switchType = d.relay_settings.switchType)
  · intro d setting hsame
    exact handle_switchType setting hsame
  · intro d setting hretype
    rw [handle_onOffCfg, handle_settings, OnOffCfgAttr.set]
    exact if_pos hretype
  · exact hretypes

/-- The switch type attribute behind a frame that does not change the type. -/
theorem run_handle_not_retyped {d : Device} {settings : List Setting}
    (hnever : ¬ Sometime RelaySettings.set Retypes d.relay_settings settings) :
    (run Device.handle d settings).attrs.onOffCfg.switchType = d.attrs.onOffCfg.switchType := by
  induction settings generalizing d with
  | nil => rfl
  | cons setting settings ih =>
      rw [Sometime, not_or, ← handle_settings] at hnever
      rw [run_cons, ih hnever.2, handle_onOffCfg, OnOffCfgAttr.set]
      exact if_neg hnever.1

/-! ## When the commands do the same -/

/-- Where decoupling is forced and last asked for, the switch ends up decoupled. -/
theorem run_set_forced {s : RelaySettings} {settings : List Setting} {v : UInt16}
    (hforces : Sometime RelaySettings.set Forces s settings)
    (hlast : lastValue .custom_decoupled v settings = CUSTOM_SWITCH_DECOUPLED_ON.toUInt16) :
    (run RelaySettings.set s settings).switch_decoupled = CUSTOM_SWITCH_DECOUPLED_ON := by
  induction settings generalizing s v with
  | nil => exact hforces.elim
  | cons setting settings ih =>
      have hrest : lastValue .custom_decoupled (setting.over .custom_decoupled v) settings =
          CUSTOM_SWITCH_DECOUPLED_ON.toUInt16 := hlast
      rw [run_cons]
      by_cases hlater : Sometime RelaySettings.set Forces (s.set setting) settings
      · exact ih hlater hrest
      · have hforced : Forces s setting := hforces.resolve_right hlater
        have hread := run_set_read .custom_decoupled (s := s.set setting) fun _ => hlater
        rw [RelaySettings.read, RelaySettings.read, set_of_forces hforced,
          lastValue_of_eq hrest] at hread
        exact toUInt16_inj.mp hread

/-- A frame asks for nothing new in the end, the settings are the stored ones, and nothing
on the way leaves a trace: the status is not saved, the relay is off if it is switched
off, and the attributes that the handler writes hold what it writes.  The decoupled
attribute is the one the frame itself writes. -/
structure Undone (d : Device) (settings : List Setting) (decoupled : UInt16) : Prop where
  asked : ∀ data ∈ settingTargets,
    (data = .custom_decoupled → ¬ Sometime RelaySettings.set Forces d.relay_settings settings) →
    lastValue data (d.relay_settings.read data) settings = d.relay_settings.read data
  crc : d.relay_settings.crc = Utility.checksum d.relay_settings.toBytes
  nv : d.nv = some d.relay_settings
  logs : ¬ Sometime RelaySettings.set Logs d.relay_settings settings
  off : Sometime RelaySettings.set TurnsOff d.relay_settings settings → IsOff d
  retypes : Sometime RelaySettings.set Retypes d.relay_settings settings →
    d.attrs.onOffCfg.switchType = d.relay_settings.switchType
  forces : Sometime RelaySettings.set Forces d.relay_settings settings →
    d.relay_settings.switch_decoupled = CUSTOM_SWITCH_DECOUPLED_ON ∧
      decoupled = CUSTOM_SWITCH_DECOUPLED_ON.toUInt16

theorem set_crc (s : RelaySettings) (setting : Setting) : (s.set setting).crc = s.crc := by
  cases setting <;> rfl

theorem run_set_crc (s : RelaySettings) (settings : List Setting) :
    (run RelaySettings.set s settings).crc = s.crc :=
  run_invariant_always (fun s' : RelaySettings => s'.crc = s.crc)
    (fun s' setting hcrc => (set_crc s' setting).trans hcrc) settings rfl

theorem eq_of_crc {s s' : RelaySettings} {crc : UInt8} (hsaved : s = { s' with crc := crc })
    (hcrc : s'.crc = s.crc) : s' = s := by
  subst hsaved
  obtain rfl : s'.crc = crc := hcrc
  rfl

theorem isOff_of_run {d : Device} {settings : List Setting}
    (hoff : Sometime RelaySettings.set TurnsOff d.relay_settings settings) :
    IsOff (run Device.handle d settings) := by
  rw [← sometime_map handle_settings] at hoff
  exact run_of_sometime IsOff (fun _ setting hd => hd.handle setting)
    (fun _ _ hturns => isOff_of_turnsOff hturns) hoff

/-- The settings of a frame that is undone come out as they were. -/
theorem Undone.restored {d : Device} {settings : List Setting} {decoupled v : UInt16}
    (h : Undone d settings decoupled)
    (hlast : lastValue .custom_decoupled v settings = decoupled) :
    run RelaySettings.set d.relay_settings settings = d.relay_settings := by
  refine RelaySettings.ext_read (fun data hdata => ?_) (run_set_crc d.relay_settings settings)
  by_cases hforced : data = .custom_decoupled ∧
      Sometime RelaySettings.set Forces d.relay_settings settings
  · rcases hforced with ⟨rfl, hforces⟩
    rcases h.forces hforces with ⟨hsetting, hon⟩
    rw [RelaySettings.read, RelaySettings.read, run_set_forced hforces (hlast.trans hon), hsetting]
  · have hfree : data = .custom_decoupled →
        ¬ Sometime RelaySettings.set Forces d.relay_settings settings :=
      fun heq hforces => hforced ⟨heq, hforces⟩
    rw [run_set_read data hfree, h.asked data hdata hfree]

/-- If the state is the one found, all that the frame did is undone. -/
theorem undone_of_sameState {d : Device} {settings : List Setting} {v : UInt16}
    (hlast : lastValue .custom_decoupled v settings = d.attrs.read .custom_decoupled)
    (h : SameState (relaySettingsSave (run Device.handle d settings)) d) :
    Undone d settings (d.attrs.read .custom_decoupled) := by
  have hrun := run_map handle_settings d settings
  have hcrc := run_set_crc d.relay_settings settings
  have hsaved : d.relay_settings = { run RelaySettings.set d.relay_settings settings with
      crc := Utility.checksum (run RelaySettings.set d.relay_settings settings).toBytes } := by
    rw [← hrun]
    exact h.settings
  have hrestored : run RelaySettings.set d.relay_settings settings = d.relay_settings :=
    eq_of_crc hsaved hcrc
  have hlog : d.log = (run Device.handle d settings).log := h.log
  have hattrs : d.attrs = (run Device.handle d settings).attrs := h.attrs
  refine ⟨fun data _ hfree => ?_, ?_, ?_, fun hlogs => ?_, fun hoff => ?_, fun hretypes => ?_,
    fun hforces => ?_⟩
  · rw [← run_set_read data hfree, hrestored]
  · rw [hrestored] at hsaved
    exact congrArg RelaySettings.crc hsaved
  · exact h.nv.trans (congrArg some h.settings.symm)
  · have hmore := flashCommands_run_of_logs hlogs
    rw [Device.flashCommands, hlog] at hmore
    exact absurd hmore (Nat.lt_irrefl _)
  · have hisOff := isOff_of_run hoff
    refine ⟨?_, ?_, fun hen => ?_⟩
    · rw [Device.status, hlog]
      exact hisOff.status
    · rw [hattrs]
      exact hisOff.onOff
    · rw [← (sameParts_run d settings).device] at hen ⊢
      exact h.relay.trans (hisOff.relay hen)
  · have hattr := run_handle_retyped hretypes
    rw [hrestored] at hattr
    rw [hattrs, hattr]
  · have hattr := run_handle_decoupled d settings
    rw [if_pos hforces] at hattr
    have hon : d.attrs.read .custom_decoupled = CUSTOM_SWITCH_DECOUPLED_ON.toUInt16 := by
      rw [hattrs, Attrs.read, hattr]
    have hsetting := run_set_forced hforces (hlast.trans hon)
    rw [hrestored] at hsetting
    exact ⟨hsetting, hon⟩

/-- If all that the frame did is undone, the state is the one found. -/
theorem sameState_of_undone {d : Device} {settings : List Setting} {v : UInt16}
    (hlast : lastValue .custom_decoupled v settings = d.attrs.read .custom_decoupled)
    (h : Undone d settings (d.attrs.read .custom_decoupled)) :
    SameState (relaySettingsSave (run Device.handle d settings)) d := by
  have hrestored := h.restored hlast
  have hrun := run_map handle_settings d settings
  rw [hrestored] at hrun
  have hsaved : (relaySettingsSave (run Device.handle d settings)).relay_settings =
      d.relay_settings := by
    rw [relaySettingsSave, hrun, ← h.crc]
  have huntouched := run_handle_untouched h.off h.logs
  have htype : (run Device.handle d settings).attrs.onOffCfg.switchType =
      d.attrs.onOffCfg.switchType := by
    by_cases hretypes : Sometime RelaySettings.set Retypes d.relay_settings settings
    · rw [run_handle_retyped hretypes, hrestored, h.retypes hretypes]
    · exact run_handle_not_retyped hretypes
  have hdecoupled : (run Device.handle d settings).attrs.onOffCfg.custom_decoupled =
      d.attrs.onOffCfg.custom_decoupled := by
    rw [run_handle_decoupled]
    split
    · rename_i hforces
      exact (toUInt16_inj.mp (h.forces hforces).2).symm
    · rfl
  refine ⟨?_, hsaved.symm, ?_, huntouched.log.symm, huntouched.relay.symm⟩
  · rcases run_handle_attrs d settings with ⟨onOff, switchType, custom_decoupled, hattrs⟩
    have honOff := huntouched.onOff
    rw [hattrs] at honOff htype hdecoupled
    show d.attrs = (run Device.handle d settings).attrs
    rw [hattrs]
    dsimp only at honOff htype hdecoupled
    rw [honOff, htype, hdecoupled]
  · rw [h.nv, ← hsaved]
    rfl

/-- The foundation does not reach what decides besides the decoupled attribute. -/
theorem undone_written (d : Device) {endpoint : UInt8} {clusterId : UInt16}
    {attrList : List WriteRec} {settings : List Setting} {decoupled : UInt16} :
    Undone (d.written endpoint clusterId attrList) settings decoupled ↔
      Undone d settings decoupled := by
  have hread (data : AttrData) (hdata : NotWritable data) :
      (zclWriteHandler d.attrs endpoint clusterId attrList).read data = d.attrs.read data :=
    zclWriteHandler_notWritable hdata d.attrs endpoint clusterId attrList
  have honOff : (zclWriteHandler d.attrs endpoint clusterId attrList).onOff.onOff =
      d.attrs.onOff.onOff := toUInt16_inj.mp (hread .onOff (by decide))
  have htype : (zclWriteHandler d.attrs endpoint clusterId attrList).onOffCfg.switchType =
      d.attrs.onOffCfg.switchType := toUInt16_inj.mp (hread .switchType (by decide))
  have hoff : IsOff (d.written endpoint clusterId attrList) ↔ IsOff d :=
    ⟨fun h => ⟨h.status, honOff ▸ h.onOff, h.relay⟩,
      fun h => ⟨h.status, honOff.symm ▸ h.onOff, h.relay⟩⟩
  constructor
  · intro h
    exact ⟨h.asked, h.crc, h.nv, h.logs, fun hturns => hoff.mp (h.off hturns),
      fun hretypes => htype ▸ h.retypes hretypes, h.forces⟩
  · intro h
    exact ⟨h.asked, h.crc, h.nv, h.logs, fun hturns => hoff.mpr (h.off hturns),
      fun hretypes => htype.trans (h.retypes hretypes), h.forces⟩

/-- The three commands do the same with an accepted list exactly when none of its settings
has to be saved, or the list undoes all that the application does for it. -/
theorem write_commands_agree_iff (d : Device) (endpoint : UInt8) (clusterId : UInt16)
    (attrList : List WriteRec)
    (haccepted : ∀ rec ∈ attrList, AttrAccepted endpoint clusterId rec) :
    CommandsAgree d endpoint clusterId attrList ↔
      (Sometime RelaySettings.set Acts d.relay_settings (settingsOf clusterId attrList) →
        Undone d (settingsOf clusterId attrList)
          (lastValue .custom_decoupled (d.attrs.read .custom_decoupled)
            (settingsOf clusterId attrList))) := by
  have hsame : CommandsAgree d endpoint clusterId attrList ↔
      SameState (writeCommand d endpoint clusterId attrList)
        (d.written endpoint clusterId attrList) := by
    rw [CommandsAgree, zclFoundationCmd_undivided d haccepted, zclFoundationCmd_noRsp,
      zclFoundationCmd_write, and_self]
  rw [hsame]
  by_cases hendpoint : endpoint = APP_ENDPOINT1
  · subst hendpoint
    have hread : (d.written APP_ENDPOINT1 clusterId attrList).attrs.read .custom_decoupled =
        lastValue .custom_decoupled (d.attrs.read .custom_decoupled)
          (settingsOf clusterId attrList) :=
      zclWriteHandler_read d.attrs (by decide) haccepted fun heq => by cases heq
    have hcommand : writeCommand d APP_ENDPOINT1 clusterId attrList =
        if Sometime RelaySettings.set Acts d.relay_settings (settingsOf clusterId attrList) then
          relaySettingsSave (run Device.handle (d.written APP_ENDPOINT1 clusterId attrList)
            (settingsOf clusterId attrList))
        else d.written APP_ENDPOINT1 clusterId attrList := appZclWriteReqCmd_eq _ _ _
    rw [hcommand]
    by_cases hacts : Sometime RelaySettings.set Acts d.relay_settings
        (settingsOf clusterId attrList)
    · rw [if_pos hacts, ← hread]
      constructor
      · intro h _
        exact (undone_written d).mp (undone_of_sameState hread.symm h)
      · intro h
        exact sameState_of_undone hread.symm ((undone_written d).mpr (h hacts))
    · rw [if_neg hacts]
      exact iff_of_true ⟨rfl, rfl, rfl, rfl, rfl⟩ fun h => absurd h hacts
  · have hnil : attrList = [] := by
      cases attrList with
      | nil => rfl
      | cons rec attrList =>
          have hsome := attrAccepted_iff.mp (haccepted rec List.mem_cons_self)
          rw [writtenTo, zclFindAttribute, if_neg hendpoint] at hsome
          cases hsome
    subst hnil
    refine iff_of_true ?_ fun h => h.elim
    rw [writeCommand, appZclWriteReqCmd, if_neg hendpoint]
    exact ⟨rfl, rfl, rfl, rfl, rfl⟩

/-- A record that says what is set already. -/
theorem write_commands_agree_coupled :
    CommandsAgree newDevice APP_ENDPOINT1 ZCL_CLUSTER_GEN_ON_OFF_SWITCH_CONFIG
      [byteRec CUSTOM_ATTRID_DECOUPLED ZCL_DATA_TYPE_ENUM8 CUSTOM_SWITCH_DECOUPLED_OFF] :=
  (write_commands_agree_iff _ _ _ _ (by decide)).mpr fun hacts => absurd hacts (by decide)

/-- On a new device the switch is decoupled by the one command and stays coupled with the
others. -/
theorem write_commands_disagree_decoupled :
    ∃ start, relaySettingsRestore newDevice {} = some start ∧
      (∀ rec ∈ decoupledFrame.attrList,
        AttrAccepted APP_ENDPOINT1 decoupledFrame.clusterId rec) ∧
      ¬ CommandsAgree start APP_ENDPOINT1 decoupledFrame.clusterId decoupledFrame.attrList := by
  rcases exists_restored (d := newDevice) {} rfl with ⟨start, hrestore, hsettings⟩
  refine ⟨start, hrestore, decoupledFrame.accepted, fun hagree => ?_⟩
  rcases writeFrame_settings start decoupledFrame with ⟨crc, hwritten⟩
  have hsame : start.relay_settings = (start.writeFrame decoupledFrame).relay_settings :=
    hagree.1.settings
  rw [hwritten, hsettings] at hsame
  have hdiffer : CUSTOM_SWITCH_DECOUPLED_OFF ≠ CUSTOM_SWITCH_DECOUPLED_ON := by decide
  exact hdiffer (congrArg RelaySettings.switch_decoupled hsame)

end Firmware
