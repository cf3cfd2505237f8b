import TuyaMiniSwitch.App.PowerOnPolicy

/-!
# Application - The record of the device model

{lit}`device_model_save` writes a record of four bytes into a sector of its own,
and {lit}`device_model_restore` reads it at every start.  A record is taken for its
identifier and its checksum alone: the model byte between them selects the device
without being compared with the size of the table.

Main results:

- Theorem {lit}`accepted_iff_written`: the accepted records are those that a save
  of some byte writes.
- Theorem {lit}`selectedModel_torn`: a record of a model of the table that was
  written in part is not accepted.
- Theorem {lit}`model_record_sound_iff`: a sector is safe exactly unless it holds
  an accepted record of a model outside the table.
-/

namespace Firmware

open NorFlash FlashDriver Utility OnOffLog

theorem switchDevices_length : switchDevices.length = DEVICE_SWITCH_MAX := rfl

/-! ## Saving a model -/

/-- The bytes of a record. -/
def ConfigSwitchModel.toBytes (model_cfg : ConfigSwitchModel) : List UInt8 :=
  [model_cfg.id.toUInt8, (model_cfg.id >>> 8).toUInt8, model_cfg.device_model, model_cfg.crc]

/-- The record that {lit}`device_model_save` fills in.  The checksum does not read
the byte it is stored in. -/
def modelRecord (model : UInt8) : ConfigSwitchModel :=
  let model_cfg : ConfigSwitchModel :=
    { id := DEVICE_MODEL_CFG_ID, device_model := model, crc := 0 }
  { model_cfg with crc := checksum model_cfg.toBytes }

/-- What {lit}`device_model_save` does to the flash. -/
def saveModelRecord (chip : Chip) (model : UInt8) : Chip :=
  let chip := flashEraseSector chip DEVICE_MODEL_CFG_ADDR
  flashWritePage chip DEVICE_MODEL_CFG_ADDR (modelRecord model).toBytes

/-- {lit}`device_model_save`. -/
def deviceModelSave (d : Device) (clock : UInt32) (model : UInt8) : Option Device :=
  let d := { d with device_switch_model := model }
  let d := { d with log := { d.log with chip := saveModelRecord d.log.chip model } }
  deviceModelInit d clock

/-- The chip when power fails in {lit}`device_model_save`: {lit}`n` commands are
complete and {lit}`k` data bytes of the next one were programmed. -/
def cutModelSave (chip : Chip) (model : UInt8) (n k : Nat) : Chip :=
  chip.run geometry (cutCmds (issued chip (saveModelRecord chip model)) n k)

/-! ## The record -/

/-- {lit}`device_model_restore` takes the record. -/
def RecordAccepted (bytes : List UInt8) : Prop :=
  (ConfigSwitchModel.ofBytes bytes).id = DEVICE_MODEL_CFG_ID ∧
    (ConfigSwitchModel.ofBytes bytes).crc = checksum bytes

instance (bytes : List UInt8) : Decidable (RecordAccepted bytes) :=
  inferInstanceAs (Decidable (_ ∧ _))

/-- The bytes at the address of the record. -/
def recordBytes (mem : Mem) : List UInt8 :=
  readBytes mem DEVICE_MODEL_CFG_ADDR configSwitchModelSize

/-- The model byte of the record, as {lit}`device_model_restore` reads it. -/
def recordedModel (mem : Mem) : UInt8 :=
  (ConfigSwitchModel.ofBytes (recordBytes mem)).device_model

/-- The value that {lit}`device_model_restore` assigns to
{lit}`device_switch_model`. -/
def selectedModel (DEVICE_MODEL : BuildModel) (mem : Mem) : UInt8 :=
  if RecordAccepted (recordBytes mem) then recordedModel mem else DEVICE_MODEL.val

theorem modelRecord_toBytes (model : UInt8) :
    (modelRecord model).toBytes = [0x65, 0x14, model, 0x79 + model] := by
  simp [modelRecord, ConfigSwitchModel.toBytes, checksum, DEVICE_MODEL_CFG_ID]
  decide

theorem recordBytes_eq (mem : Mem) :
    recordBytes mem =
      [mem DEVICE_MODEL_CFG_ADDR, mem (DEVICE_MODEL_CFG_ADDR + 1),
        mem (DEVICE_MODEL_CFG_ADDR + 2), mem (DEVICE_MODEL_CFG_ADDR + 3)] := by
  rfl

/-- The identifier, byte by byte. -/
theorem id_eq_iff (lo hi : UInt8) :
    lo.toUInt16 ||| (hi.toUInt16 <<< 8) = DEVICE_MODEL_CFG_ID ↔ lo = 0x65 ∧ hi = 0x14 := by
  have hlo := lo.toNat_lt
  have hhi := hi.toNat_lt
  have hfit : hi.toNat <<< 8 < 2 ^ 16 := by
    rw [Nat.shiftLeft_eq]
    omega
  have hword : (lo.toUInt16 ||| (hi.toUInt16 <<< 8)).toNat = 256 * hi.toNat + lo.toNat := by
    have hor := Nat.shiftLeft_add_eq_or_of_lt hlo hi.toNat
    have height : (8 : UInt16).toNat % 16 = 8 := rfl
    rw [UInt16.toNat_or, UInt16.toNat_shiftLeft, UInt8.toNat_toUInt16, UInt8.toNat_toUInt16,
      height, Nat.mod_eq_of_lt hfit, Nat.or_comm, ← hor, Nat.shiftLeft_eq]
    omega
  have hid : DEVICE_MODEL_CFG_ID.toNat = 0x1465 := rfl
  have hfirst : (0x65 : UInt8).toNat = 0x65 := rfl
  have hsecond : (0x14 : UInt8).toNat = 0x14 := rfl
  rw [← UInt16.toNat_inj, ← UInt8.toNat_inj, ← UInt8.toNat_inj, hword, hid, hfirst, hsecond]
  omega

theorem accepted_iff (a b c e : UInt8) :
    RecordAccepted [a, b, c, e] ↔ a = 0x65 ∧ b = 0x14 ∧ e = 0x79 + c := by
  have hid : (ConfigSwitchModel.ofBytes [a, b, c, e]).id = DEVICE_MODEL_CFG_ID ↔
      a = 0x65 ∧ b = 0x14 := id_eq_iff a b
  have hsum : checksum [a, b, c, e] = a + b + c := by
    simp [checksum]
  have hcrc : (ConfigSwitchModel.ofBytes [a, b, c, e]).crc = e := rfl
  rw [RecordAccepted, hid, hsum, hcrc]
  constructor
  · rintro ⟨⟨rfl, rfl⟩, he⟩
    exact ⟨rfl, rfl, he⟩
  · rintro ⟨rfl, rfl, he⟩
    exact ⟨⟨rfl, rfl⟩, he⟩

/-- The accepted records are those that a save of their model byte writes. -/
theorem accepted_iff_written (mem : Mem) :
    RecordAccepted (recordBytes mem) ↔
      recordBytes mem = (modelRecord (recordedModel mem)).toBytes := by
  have hmodel : recordedModel mem = mem (DEVICE_MODEL_CFG_ADDR + 2) := rfl
  rw [hmodel, modelRecord_toBytes, recordBytes_eq, accepted_iff]
  simp

theorem recordedModel_written {mem : Mem} {model : UInt8}
    (hwritten : recordBytes mem = (modelRecord model).toBytes) :
    recordedModel mem = model := by
  rw [recordedModel, hwritten, modelRecord_toBytes]
  rfl

/-- A complete record selects its model. -/
theorem selectedModel_written (DEVICE_MODEL : BuildModel) {mem : Mem} {model : UInt8}
    (hwritten : recordBytes mem = (modelRecord model).toBytes) :
    selectedModel DEVICE_MODEL mem = model := by
  have hmodel := recordedModel_written hwritten
  have haccepted : RecordAccepted (recordBytes mem) := by
    rw [accepted_iff_written, hmodel]
    exact hwritten
  rw [selectedModel, if_pos haccepted, hmodel]

/-! ## A record written in part -/

/-- Some bytes of the record of a model have been programmed into an erased
sector, in whatever order. -/
def PartlyWritten (mem : Mem) (model : UInt8) : Prop :=
  ∀ i, i < configSwitchModelSize →
    mem (DEVICE_MODEL_CFG_ADDR + i) = blank ∨
      mem (DEVICE_MODEL_CFG_ADDR + i) = (modelRecord model).toBytes.getD i blank

/-- A record of a model of the table that lacks a byte is not accepted: an erased
byte in the identifier spoils it, and an erased model or checksum does not go with
the other. -/
theorem selectedModel_torn (DEVICE_MODEL : BuildModel) {mem : Mem} {model : UInt8}
    (hmodel : model.toNat < DEVICE_SWITCH_MAX) (hpartly : PartlyWritten mem model) :
    selectedModel DEVICE_MODEL mem = model ∨
      selectedModel DEVICE_MODEL mem = DEVICE_MODEL.val := by
  by_cases haccepted : RecordAccepted (recordBytes mem)
  · left
    have hbytes := haccepted
    rw [recordBytes_eq, accepted_iff] at hbytes
    obtain ⟨-, -, hsum⟩ := hbytes
    have hthird := hpartly 2 (by decide)
    have hfourth := hpartly 3 (by decide)
    rw [modelRecord_toBytes] at hthird hfourth
    simp only [List.getD_cons_succ, List.getD_cons_zero] at hthird hfourth
    rw [selectedModel, if_pos haccepted]
    show mem (DEVICE_MODEL_CFG_ADDR + 2) = model
    rcases hthird with hblank | hwritten
    · -- with an erased model byte the checksum would have to be that of 0xFF
      rw [hblank] at hsum
      rcases hfourth with hblank' | hwritten'
      · rw [hblank'] at hsum
        exact absurd hsum (by decide)
      · rw [hwritten'] at hsum
        have hcancel : model = blank := by
          exact (UInt8.add_right_inj _).mp hsum
        rw [hcancel] at hmodel
        exact absurd hmodel (by decide)
    · exact hwritten
  · right
    rw [selectedModel, if_neg haccepted]

/-! ## Power cuts -/

/-- The commands of a save: the sector is erased, then the record is programmed. -/
def modelCmds (model : UInt8) : List Cmd :=
  [.erase DEVICE_MODEL_CFG_ADDR, .program DEVICE_MODEL_CFG_ADDR (modelRecord model).toBytes]

theorem record_fits (model : UInt8) (k : Nat) :
    DEVICE_MODEL_CFG_ADDR % PAGE_SIZE + ((modelRecord model).toBytes.take k).length ≤
      PAGE_SIZE := by
  have hlength : ((modelRecord model).toBytes.take k).length ≤ 4 := by
    rw [List.length_take]
    exact Nat.min_le_right _ _
  have hstart : DEVICE_MODEL_CFG_ADDR % PAGE_SIZE = 0 := rfl
  have hsize : PAGE_SIZE = 256 := rfl
  omega

theorem take_record (model : UInt8) :
    (modelRecord model).toBytes.take 4 = (modelRecord model).toBytes := rfl

theorem saveModelRecord_eq (chip : Chip) (model : UInt8) :
    saveModelRecord chip model = chip.run geometry (modelCmds model) := by
  have hfit := record_fits model 4
  rw [take_record] at hfit
  rw [saveModelRecord, flashWritePage_of_fit _ hfit]
  rfl

/-- What the first bytes of the record leave behind in the erased sector. -/
theorem programmed_apply (mem : Mem) (model : UInt8) (k : Nat) {i : Nat}
    (hi : i < configSwitchModelSize) :
    runCmds geometry mem
      [.erase DEVICE_MODEL_CFG_ADDR,
        .program DEVICE_MODEL_CFG_ADDR ((modelRecord model).toBytes.take k)]
      (DEVICE_MODEL_CFG_ADDR + i) = ((modelRecord model).toBytes.take k).getD i blank := by
  have hsize : configSwitchModelSize = 4 := rfl
  have haddr : DEVICE_MODEL_CFG_ADDR = 0x75000 := rfl
  have hblank : eraseSector geometry mem DEVICE_MODEL_CFG_ADDR (DEVICE_MODEL_CFG_ADDR + i) =
      blank := by
    rw [eraseSector, if_pos]
    rw [geometry_sectorSize, haddr]
    omega
  rw [runCmds_cons, runCmds_cons, runCmds_nil, runCmd_program_of_fit _ (record_fits model k)]
  exact programAt_blank _ hblank

/-- The first bytes of the record in the erased sector. -/
theorem partlyWritten_programmed (mem : Mem) (model : UInt8) (k : Nat) :
    PartlyWritten (runCmds geometry mem
      [.erase DEVICE_MODEL_CFG_ADDR,
        .program DEVICE_MODEL_CFG_ADDR ((modelRecord model).toBytes.take k)]) model := by
  intro i hi
  rw [programmed_apply mem model k hi]
  rcases Nat.lt_or_ge i k with hlt | hge
  · right
    rw [List.getD, List.getD, List.getElem?_take_of_lt hlt]
  · left
    have hnone : ((modelRecord model).toBytes.take k)[i]? = none := by
      apply List.getElem?_eq_none
      rw [List.length_take]
      omega
    rw [List.getD, hnone]
    rfl

/-- A save that is not cut selects its model. -/
theorem selectedModel_saved (DEVICE_MODEL : BuildModel) (chip : Chip) (model : UInt8) :
    selectedModel DEVICE_MODEL (saveModelRecord chip model).mem = model := by
  apply selectedModel_written
  rw [saveModelRecord_eq, Chip.run_mem, modelCmds, ← take_record, recordBytes_eq]
  rw [programmed_apply chip.mem model 4 (by decide : 1 < configSwitchModelSize),
    programmed_apply chip.mem model 4 (by decide : 2 < configSwitchModelSize),
    programmed_apply chip.mem model 4 (by decide : 3 < configSwitchModelSize)]
  have hfirst := programmed_apply chip.mem model 4 (by decide : 0 < configSwitchModelSize)
  rw [Nat.add_zero] at hfirst
  rw [hfirst]
  rfl

/-- After a power cut the record is the old one, or part of the new one. -/
theorem cutModelSave_cases (chip : Chip) (model : UInt8) (n k : Nat) :
    recordBytes (cutModelSave chip model n k).mem = recordBytes chip.mem ∨
      PartlyWritten (cutModelSave chip model n k).mem model := by
  rw [cutModelSave, saveModelRecord_eq, issued_run, Chip.run_mem]
  rcases n with _ | _ | n
  · left
    rfl
  · right
    exact partlyWritten_programmed chip.mem model k
  · right
    have hcomplete : cutCmds (modelCmds model) (n + 2) k = modelCmds model :=
      cutCmds_of_ge k (Nat.le_add_left 2 n)
    rw [hcomplete, modelCmds, ← take_record]
    exact partlyWritten_programmed chip.mem model 4

/-! ## Restoring -/

theorem devRelayInit_model (d : Device) :
    (devRelayInit d).device_switch_model = d.device_switch_model := by
  have hoff := sameParts_relayCommand { d with dev_relay_amt := AMT_RELAY } ZCL_ONOFF_STATUS_OFF
  unfold devRelayInit
  simp only
  rw [cmdOnOffOff_eq]
  split
  · rw [checkFirstStart_eq]
    exact (hoff.trans (sameParts_relayCommand _ _)).model
  · exact hoff.model

theorem switchInit_model (d : Device) (clock : UInt32) :
    (switchInit d clock).device_switch_model = d.device_switch_model := by
  unfold switchInit
  split <;> rfl

/-- The models of the table are initialised, the others have no device. -/
theorem deviceModelInit_spec (d : Device) (clock : UInt32) :
    (d.device_switch_model.toNat < DEVICE_SWITCH_MAX ∧
      ∃ d', deviceModelInit d clock = some d' ∧
        d'.device_switch_model = d.device_switch_model) ∨
    (DEVICE_SWITCH_MAX ≤ d.device_switch_model.toNat ∧ deviceModelInit d clock = none) := by
  rcases Nat.lt_or_ge d.device_switch_model.toNat DEVICE_SWITCH_MAX with hlt | hge
  · left
    obtain ⟨device, hdevice⟩ : ∃ device,
        switchDevices[d.device_switch_model.toNat]? = some device :=
      ⟨_, List.getElem?_eq_getElem hlt⟩
    refine ⟨hlt, _, Option.bind_eq_some_iff.mpr ⟨device, hdevice, rfl⟩, ?_⟩
    rw [switchInit_model]
    split
    · exact devRelayInit_model _
    · rfl
  · right
    have hget : switchDevices[d.device_switch_model.toNat]? = none := by
      apply List.getElem?_eq_none
      rw [switchDevices_length]
      exact hge
    refine ⟨hge, ?_⟩
    rw [deviceModelInit, hget]
    rfl

/-- The device with the model that its flash selects, after the record was read. -/
def withSelected (d : Device) : Device :=
  { d with
    log := { d.log with
      chip := (flashReadPage d.log.chip DEVICE_MODEL_CFG_ADDR configSwitchModelSize).2 }
    device_switch_model := selectedModel d.DEVICE_MODEL d.log.chip.mem }

theorem deviceModelRestore_eq_init (d : Device) (clock : UInt32) :
    deviceModelRestore d clock = deviceModelInit (withSelected d) clock := by
  unfold deviceModelRestore withSelected selectedModel
  dsimp only
  by_cases haccepted : RecordAccepted (recordBytes d.log.chip.mem)
  · rw [if_pos haccepted, if_pos (by exact haccepted)]
    rfl
  · rw [if_neg haccepted, if_neg (by exact haccepted)]

/-- Spec of {lit}`device_model_restore`: it selects the model of an accepted record
and {lit}`DEVICE_MODEL` otherwise, and finds a device for the models of the table. -/
theorem deviceModelRestore_spec (d : Device) (clock : UInt32) :
    ((selectedModel d.DEVICE_MODEL d.log.chip.mem).toNat < DEVICE_SWITCH_MAX ∧
      ∃ d', deviceModelRestore d clock = some d' ∧
        d'.device_switch_model = selectedModel d.DEVICE_MODEL d.log.chip.mem) ∨
    (DEVICE_SWITCH_MAX ≤ (selectedModel d.DEVICE_MODEL d.log.chip.mem).toNat ∧
      deviceModelRestore d clock = none) := by
  rw [deviceModelRestore_eq_init]
  exact deviceModelInit_spec (withSelected d) clock

/-- {lit}`device_model_save` starts the device of a model of the table. -/
theorem deviceModelSave_spec (d : Device) (clock : UInt32) {model : UInt8}
    (hmodel : model.toNat < DEVICE_SWITCH_MAX) :
    ∃ d', deviceModelSave d clock model = some d' ∧ d'.device_switch_model = model := by
  rcases deviceModelInit_spec
      { d with
        log := { d.log with chip := saveModelRecord d.log.chip model }
        device_switch_model := model } clock with ⟨-, hsome⟩ | ⟨hge, -⟩
  · exact hsome
  · exact absurd hmodel (Nat.not_lt.mpr hge)

/-! ## What the record guarantees -/

/-- What the record of a chip has to guarantee. -/
structure SoundRecord (chip : Chip) : Prop where
  /-- The index into {lit}`switch_device` is in range. -/
  in_table : ∀ (d : Device) (clock : UInt32), d.log.chip = chip →
    ∃ d', deviceModelRestore d clock = some d' ∧
      d'.device_switch_model.toNat < DEVICE_SWITCH_MAX
  /-- A record that no save of a model of the table writes is not taken. -/
  fallback : (∀ model : UInt8, model.toNat < DEVICE_SWITCH_MAX →
      recordBytes chip.mem ≠ (modelRecord model).toBytes) →
    ∀ (d d' : Device) (clock : UInt32), d.log.chip = chip →
      deviceModelRestore d clock = some d' → d'.device_switch_model = d.DEVICE_MODEL.val
  /-- After a power cut in a save the next restore selects the new model, the
  previous one or {lit}`DEVICE_MODEL`. -/
  cut : ∀ (model : UInt8), model.toNat < DEVICE_SWITCH_MAX → ∀ (n k : Nat) (d : Device)
    (clock : UInt32), d.log.chip = cutModelSave chip model n k →
      ∃ d', deviceModelRestore d clock = some d' ∧
        (d'.device_switch_model = model ∨
          d'.device_switch_model = selectedModel d.DEVICE_MODEL chip.mem ∨
          d'.device_switch_model = d.DEVICE_MODEL.val)

theorem selectedModel_congr (DEVICE_MODEL : BuildModel) {mem mem' : Mem}
    (h : recordBytes mem = recordBytes mem') :
    selectedModel DEVICE_MODEL mem = selectedModel DEVICE_MODEL mem' := by
  rw [selectedModel, selectedModel, recordedModel, recordedModel, h]

/-- A power cut leaves the new model, the previous one or none. -/
theorem selectedModel_cut (DEVICE_MODEL : BuildModel) (chip : Chip) {model : UInt8}
    (hmodel : model.toNat < DEVICE_SWITCH_MAX) (n k : Nat) :
    selectedModel DEVICE_MODEL (cutModelSave chip model n k).mem = model ∨
      selectedModel DEVICE_MODEL (cutModelSave chip model n k).mem =
        selectedModel DEVICE_MODEL chip.mem ∨
      selectedModel DEVICE_MODEL (cutModelSave chip model n k).mem = DEVICE_MODEL.val := by
  rcases cutModelSave_cases chip model n k with hold | hpartly
  · exact Or.inr (Or.inl (selectedModel_congr DEVICE_MODEL hold))
  · rcases selectedModel_torn DEVICE_MODEL hmodel hpartly with hnew | hnone
    · exact Or.inl hnew
    · exact Or.inr (Or.inr hnone)

/-- The model that is selected has a device unless an accepted record names one outside
the table. -/
theorem selectedModel_lt_iff (DEVICE_MODEL : BuildModel) (mem : Mem) :
    (selectedModel DEVICE_MODEL mem).toNat < DEVICE_SWITCH_MAX ↔
      ¬ (RecordAccepted (recordBytes mem) ∧
        DEVICE_SWITCH_MAX ≤ (recordedModel mem).toNat) := by
  by_cases haccepted : RecordAccepted (recordBytes mem)
  · rw [selectedModel, if_pos haccepted]
    simp [haccepted]
  · rw [selectedModel, if_neg haccepted]
    exact iff_of_true DEVICE_MODEL.property fun h => haccepted h.1

/-- A model that has a device is restored. -/
theorem deviceModelRestore_of_lt {d : Device} (clock : UInt32)
    (hlt : (selectedModel d.DEVICE_MODEL d.log.chip.mem).toNat < DEVICE_SWITCH_MAX) :
    ∃ d', deviceModelRestore d clock = some d' ∧
      d'.device_switch_model = selectedModel d.DEVICE_MODEL d.log.chip.mem := by
  rcases deviceModelRestore_spec d clock with ⟨-, hsome⟩ | ⟨hge, -⟩
  · exact hsome
  · exact absurd hlt (Nat.not_lt.mpr hge)

/-- A sector is safe exactly unless it holds an accepted record of a model outside
the table. -/
theorem model_record_sound_iff (chip : Chip) :
    SoundRecord chip ↔
      ¬ (RecordAccepted (recordBytes chip.mem) ∧
        DEVICE_SWITCH_MAX ≤ (recordedModel chip.mem).toNat) := by
  constructor
  · intro hsound
    rw [← selectedModel_lt_iff defaultBuild]
    obtain ⟨d', hrestore, -⟩ := hsound.in_table { log := powerOn chip, nv := none } 0 rfl
    rcases deviceModelRestore_spec { log := powerOn chip, nv := none } 0 with ⟨hlt, -⟩ | ⟨-, hnone⟩
    · exact hlt
    · rw [hnone] at hrestore
      cases hrestore
  · intro hsafe
    have hselected : ∀ DEVICE_MODEL : BuildModel,
        (selectedModel DEVICE_MODEL chip.mem).toNat < DEVICE_SWITCH_MAX :=
      fun DEVICE_MODEL => (selectedModel_lt_iff DEVICE_MODEL chip.mem).mpr hsafe
    refine ⟨?_, ?_, ?_⟩
    · rintro d clock rfl
      obtain ⟨d', hrestore, hmodel⟩ := deviceModelRestore_of_lt clock (hselected d.DEVICE_MODEL)
      exact ⟨d', hrestore, by rw [hmodel]; exact hselected d.DEVICE_MODEL⟩
    · rintro hforeign d d' clock rfl hrestore
      have hlt := hselected d.DEVICE_MODEL
      obtain ⟨d'', hrestore', hmodel⟩ := deviceModelRestore_of_lt clock hlt
      obtain rfl : d'' = d' := Option.some.inj (hrestore'.symm.trans hrestore)
      rw [hmodel, selectedModel]
      by_cases haccepted : RecordAccepted (recordBytes d.log.chip.mem)
      · have hwritten := accepted_iff_written _ |>.mp haccepted
        rw [selectedModel, if_pos haccepted] at hlt
        exact absurd hwritten (hforeign _ hlt)
      · exact if_neg haccepted
    · intro model hmodel n k d clock hchip
      have hcases := selectedModel_cut d.DEVICE_MODEL chip hmodel n k
      have hlt : (selectedModel d.DEVICE_MODEL d.log.chip.mem).toNat < DEVICE_SWITCH_MAX := by
        rw [hchip]
        rcases hcases with hnew | hold | hnone
        · rw [hnew]
          exact hmodel
        · rw [hold]
          exact hselected d.DEVICE_MODEL
        · rw [hnone]
          exact d.DEVICE_MODEL.property
      obtain ⟨d', hrestore, hmodel'⟩ := deviceModelRestore_of_lt clock hlt
      rw [hchip] at hmodel'
      exact ⟨d', hrestore, by rw [hmodel']; exact hcases⟩

/-- A chip with a record of the model 4 and the checksum that goes with it. -/
def foreignChip : Chip where
  mem := programAt Chip.erased.mem DEVICE_MODEL_CFG_ADDR [0x65, 0x14, 0x04, 0x7D]
  trace := []

/-- The record is accepted, and there is no device for it. -/
theorem model_record_foreign :
    (∀ DEVICE_MODEL, selectedModel DEVICE_MODEL foreignChip.mem = 4) ∧
      deviceModelRestore { log := powerOn foreignChip, nv := none } 0 = none ∧
      ¬ SoundRecord foreignChip := by
  have hselected : ∀ DEVICE_MODEL, selectedModel DEVICE_MODEL foreignChip.mem = 4 :=
    fun _ => if_pos (by decide)
  have hnone : deviceModelRestore { log := powerOn foreignChip, nv := none } 0 = none := by
    rcases deviceModelRestore_spec { log := powerOn foreignChip, nv := none } 0 with
      ⟨hlt, -⟩ | ⟨-, hnone⟩
    · have hmodel : selectedModel defaultBuild (powerOn foreignChip).chip.mem = 4 :=
        hselected defaultBuild
      rw [hmodel] at hlt
      exact absurd hlt (by decide)
    · exact hnone
  refine ⟨hselected, hnone, ?_⟩
  intro hsound
  obtain ⟨d', hrestore, -⟩ := hsound.in_table { log := powerOn foreignChip, nv := none } 0 rfl
  rw [hnone] at hrestore
  cases hrestore

end Firmware
