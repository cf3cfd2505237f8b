import TuyaMiniSwitch.App.ZclWrite

/-!
# Application - Written records

The foundation looks a record up in the attribute tables, and it writes the record if the
data type is the one of the table and the attribute can be written.

Main results:

- Theorem {lit}`zclAttrWrite_eq`: what the foundation does with a record.
- Theorem {lit}`attrAccepted_iff`: which records it accepts.
- Theorem {lit}`zclWriteHandler_notWritable`: what no frame reaches.
-/

namespace Firmware

open OnOffLog

/-! ## Reading attributes -/

/-- The value of an attribute. -/
def Attrs.read (attrs : Attrs) : AttrData → UInt16
  | .deviceEnable => attrs.deviceEnable.toUInt16
  | .identifyTime => attrs.identifyTime
  | .outOfService => attrs.msInput.out_of_service.toUInt16
  | .presentValue => attrs.msInput.value
  | .onOff => attrs.onOff.onOff.toUInt16
  | .globalSceneControl => attrs.onOff.globalSceneControl.toUInt16
  | .onTime => attrs.onOff.onTime
  | .offWaitTime => attrs.onOff.offWaitTime
  | .startUpOnOff => attrs.onOff.startUpOnOff.toUInt16
  | .switchType => attrs.onOffCfg.switchType.toUInt16
  | .switchActions => attrs.onOffCfg.switchActions.toUInt16
  | .custom_swtichType => attrs.onOffCfg.custom_swtichType.toUInt16
  | .custom_decoupled => attrs.onOffCfg.custom_decoupled.toUInt16
  | .custom_model => attrs.onOffCfg.custom_model.toUInt16
  | .currentLevel => attrs.level.currentLevel.toUInt16
  | .minLevel => attrs.level.minLevel.toUInt16
  | .maxLevel => attrs.level.maxLevel.toUInt16
  | .options => attrs.level.options.toUInt16
  | .defaultMoveRate => attrs.level.defaultMoveRate.toUInt16
  | .transitionTime => attrs.level.transitionTime
  | .const => 0

/-- The value that the data of a record has in an attribute. -/
def AttrData.value (data : AttrData) (val : Nat → UInt8) : UInt16 :=
  match data with
  | .identifyTime | .presentValue | .onTime | .offWaitTime | .transitionTime => buildU16 val
  | .const => 0
  | _ => (val 0).toUInt16

theorem toUInt16_inj {a b : UInt8} : a.toUInt16 = b.toUInt16 ↔ a = b := by
  constructor
  · intro h
    have hnat := congrArg UInt16.toNat h
    rw [UInt8.toNat_toUInt16, UInt8.toNat_toUInt16] at hnat
    exact UInt8.toNat_inj.mp hnat
  · intro h
    rw [h]

theorem read_store_same (attrs : Attrs) (data : AttrData) (val : Nat → UInt8) :
    (attrs.store data val).read data = data.value val := by
  cases data <;> rfl

theorem read_store_other (attrs : Attrs) {data data' : AttrData} (val : Nat → UInt8)
    (hne : data' ≠ data) : (attrs.store data' val).read data = attrs.read data := by
  cases data' <;> cases data <;> first | rfl | exact absurd rfl hne

/-! ## One record -/

/-- The attribute that a record is written to, if it is accepted. -/
def writtenTo (endpoint : UInt8) (clusterId : UInt16) (rec : WriteRec) : Option AttrData :=
  match zclFindAttribute endpoint clusterId rec.attrID with
  | none => none
  | some pAttrEntry =>
      if pAttrEntry.type = rec.dataType ∧ pAttrEntry.write = true then some pAttrEntry.data
      else none

/-- What the foundation does with a record. -/
theorem zclAttrWrite_eq (attrs : Attrs) (endpoint : UInt8) (clusterId : UInt16)
    (rec : WriteRec) :
    (zclAttrWrite attrs endpoint clusterId rec true).2 =
      (writtenTo endpoint clusterId rec).elim attrs fun data => attrs.store data rec.attrData := by
  unfold zclAttrWrite writtenTo
  cases zclFindAttribute endpoint clusterId rec.attrID with
  | none => rfl
  | some attr =>
      dsimp only
      split
      · rename_i htype
        rw [if_neg fun h => htype h.1]
        rfl
      · rename_i htype
        rw [not_not] at htype
        split
        · rename_i hwrite
          rw [if_neg fun h => Bool.false_ne_true (hwrite.symm.trans h.2)]
          rfl
        · rename_i hwrite
          have hboth : attr.type = rec.dataType ∧ attr.write = true :=
            ⟨htype, Bool.not_eq_false _ ▸ hwrite⟩
          rw [if_pos hboth]
          rfl

/-- The status does not depend on whether the record is really written. -/
theorem zclAttrWrite_status (attrs : Attrs) (endpoint : UInt8) (clusterId : UInt16)
    (rec : WriteRec) (enable : Bool) :
    (zclAttrWrite attrs endpoint clusterId rec enable).1 = .ZCL_STA_SUCCESS ↔
      (writtenTo endpoint clusterId rec).isSome := by
  unfold zclAttrWrite writtenTo
  cases zclFindAttribute endpoint clusterId rec.attrID with
  | none => simp
  | some attr =>
      dsimp only
      split
      · rename_i htype
        simp [htype]
      · rename_i htype
        rw [not_not] at htype
        split
        · rename_i hwrite
          simp [hwrite]
        · rename_i hwrite
          cases enable <;> simp [htype, hwrite]

/-- {lit}`zcl_attrWrite` accepts a record. -/
def AttrAccepted (endpoint : UInt8) (clusterId : UInt16) (rec : WriteRec) : Prop :=
  ∀ attrs, (zclAttrWrite attrs endpoint clusterId rec true).1 = .ZCL_STA_SUCCESS

theorem attrAccepted_iff {endpoint : UInt8} {clusterId : UInt16} {rec : WriteRec} :
    AttrAccepted endpoint clusterId rec ↔ (writtenTo endpoint clusterId rec).isSome := by
  constructor
  · intro haccepted
    exact (zclAttrWrite_status {} endpoint clusterId rec true).mp (haccepted {})
  · intro hsome attrs
    exact (zclAttrWrite_status attrs endpoint clusterId rec true).mpr hsome

instance (endpoint : UInt8) (clusterId : UInt16) (rec : WriteRec) :
    Decidable (AttrAccepted endpoint clusterId rec) :=
  decidable_of_iff _ attrAccepted_iff.symm

/-- No table lets an attribute be written. -/
def NotWritable (data : AttrData) : Prop :=
  ∀ attr ∈ appClusterList1.flatMap Prod.snd, attr.write = true → attr.data ≠ data

instance (data : AttrData) : Decidable (NotWritable data) :=
  inferInstanceAs (Decidable (∀ attr ∈ appClusterList1.flatMap Prod.snd,
    attr.write = true → attr.data ≠ data))

theorem mem_tables_of_find {endpoint : UInt8} {clusterId attrId : UInt16} {attr : AttrInfo}
    (hfind : zclFindAttribute endpoint clusterId attrId = some attr) :
    attr ∈ appClusterList1.flatMap Prod.snd := by
  unfold zclFindAttribute at hfind
  split at hfind
  · rcases Option.bind_eq_some_iff.mp hfind with ⟨table, htable, hattr⟩
    rcases Option.map_eq_some_iff.mp htable with ⟨cluster, hcluster, rfl⟩
    exact List.mem_flatMap.mpr
      ⟨cluster, List.mem_of_find?_eq_some hcluster, List.mem_of_find?_eq_some hattr⟩
  · cases hfind

theorem writtenTo_ne {endpoint : UInt8} {clusterId : UInt16} {rec : WriteRec}
    {data data' : AttrData} (hdata : NotWritable data)
    (hwritten : writtenTo endpoint clusterId rec = some data') : data' ≠ data := by
  unfold writtenTo at hwritten
  split at hwritten
  · cases hwritten
  · rename_i attr hfind
    split at hwritten
    · rename_i hattr
      rw [← Option.some.inj hwritten]
      exact hdata attr (mem_tables_of_find hfind) hattr.2
    · cases hwritten

/-- A frame does not reach an attribute that is not writable. -/
theorem zclWriteHandler_notWritable {data : AttrData} (hdata : NotWritable data) (attrs : Attrs)
    (endpoint : UInt8) (clusterId : UInt16) (attrList : List WriteRec) :
    (zclWriteHandler attrs endpoint clusterId attrList).read data = attrs.read data := by
  unfold zclWriteHandler
  induction attrList generalizing attrs with
  | nil => rfl
  | cons rec attrList ih =>
      rw [List.foldl_cons, ih, zclAttrWrite_eq]
      cases hwritten : writtenTo endpoint clusterId rec with
      | none => rfl
      | some data' => exact read_store_other attrs rec.attrData (writtenTo_ne hdata hwritten)

end Firmware
