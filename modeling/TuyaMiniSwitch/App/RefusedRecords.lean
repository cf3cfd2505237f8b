import TuyaMiniSwitch.App.WriteCommands
import TuyaMiniSwitch.App.WriteFrames

/-!
# Application - Refused records

The foundation checks every record of a write frame before it writes it.  The
application walks all records again, also the refused ones, and looks neither at the
data type nor at the access: what it takes for a setting takes effect.  It does not look
at the size of a value either, so it may read the value of a refused record for a record
that has none.

Main results:

- Theorem {lit}`refused_record_no_effect_iff`: which refused records have no effect.
- Theorem {lit}`refused_value_read`: a record without a value makes any refused record have one.
-/

namespace Firmware

open Machine OnOffLog NorFlash EvBuffer
open Reporting (ReportRec)
open ZclFrames (attrBufLen)

/-! ## Records without effect -/

/-- In a frame and a state, a record has no effect: the frame without it leaves the same, whatever
lies behind the buffers of the two. -/
def NoEffect (d : Device) (endpoint : UInt8) (clusterId : UInt16) (pre : List ReportRec)
    (rec : ReportRec) (post : List ReportRec) : Prop :=
  ∀ availBufNum behind behind' m m',
    Buffered availBufNum (pre ++ rec :: post) → Buffered availBufNum (pre ++ post) →
    NorFlash.Stored m 0 (frameBytes (pre ++ rec :: post)) →
    NorFlash.Stored m' 0 (frameBytes (pre ++ post)) →
    SameState
      (d.receiveWrite availBufNum behind' endpoint clusterId m' (frameBytes (pre ++ post)).length)
      (d.receiveWrite availBufNum behind endpoint clusterId m
        (frameBytes (pre ++ rec :: post)).length)

/-- A record, with what lies behind its pointer. -/
def pointed (behind : Nat → UInt8) (rec : ReportRec) (post : List ReportRec) : WriteRec where
  attrID := rec.attrID
  dataType := rec.dataType
  attrData := bufferData (rec :: post) behind

/-- The foundation accepts a record, whatever lies behind its value. -/
def RecAccepted (endpoint : UInt8) (clusterId : UInt16) (rec : ReportRec) : Prop :=
  AttrAccepted endpoint clusterId (pointed (fun _ => 0) rec [])

/-- A record is about no setting, whatever lies behind its value. -/
def NoSetting (endpoint : UInt8) (clusterId : UInt16) (rec : ReportRec) : Prop :=
  endpoint = APP_ENDPOINT1 → ∀ behind, settingOf clusterId (pointed behind rec []) = none

/-- The other records of a frame are whole, and the application reads nothing for them that moves
when a record is left out: neither its value nor what lies behind the buffer. -/
structure Apart (endpoint : UInt8) (clusterId : UInt16) (pre : List ReportRec) (rec : ReportRec)
    (post : List ReportRec) : Prop where
  whole : ∀ other ∈ pre ++ post, WholeValue other
  inside : endpoint = APP_ENDPOINT1 → ReadsInside clusterId (pre ++ post)
  front : endpoint = APP_ENDPOINT1 → rec.attrData ≠ [] → ReadsInside clusterId pre

theorem attrAccepted_pointed {endpoint : UInt8} {clusterId : UInt16} {rec : ReportRec}
    {post : List ReportRec} {behind : Nat → UInt8} :
    AttrAccepted endpoint clusterId (pointed behind rec post) ↔
      RecAccepted endpoint clusterId rec := by
  rw [RecAccepted, attrAccepted_iff, attrAccepted_iff]
  exact Iff.rfl

/-- The foundation skips a record it refuses. -/
theorem zclWriteHandler_refused (attrs : Attrs) {endpoint : UInt8} {clusterId : UInt16}
    {rec : WriteRec} (hrefused : ¬ AttrAccepted endpoint clusterId rec)
    (pre post : List WriteRec) :
    zclWriteHandler attrs endpoint clusterId (pre ++ rec :: post) =
      zclWriteHandler attrs endpoint clusterId (pre ++ post) := by
  have hwritten : writtenTo endpoint clusterId rec = none := by
    rw [attrAccepted_iff] at hrefused
    exact Option.not_isSome_iff_eq_none.mp hrefused
  unfold zclWriteHandler
  rw [List.foldl_append, List.foldl_append, List.foldl_cons, zclAttrWrite_eq, hwritten,
    Option.elim_none]

/-- The application skips a record that is about no setting, or about one that is set
when it comes to it. -/
theorem appZclWriteReqCmd_skip (d : Device) {clusterId : UInt16} {rec : WriteRec}
    (pre post : List WriteRec)
    (hsame : ∀ setting, settingOf clusterId rec = some setting →
      ¬ Acts (run RelaySettings.set d.relay_settings (settingsOf clusterId pre)) setting) :
    appZclWriteReqCmd d APP_ENDPOINT1 clusterId (pre ++ rec :: post) =
      appZclWriteReqCmd d APP_ENDPOINT1 clusterId (pre ++ post) := by
  have hskip : writeRec clusterId (pre.foldl (writeRec clusterId) (d, false)) rec =
      pre.foldl (writeRec clusterId) (d, false) := by
    rw [writeRec_eq]
    cases hsetting : settingOf clusterId rec with
    | none => rfl
    | some setting =>
        rw [Option.elim_some]
        apply handleSetting_of_not_acts
        rw [foldl_writeRec, foldl_handleSetting]
        dsimp only
        rw [run_map handle_settings]
        exact hsame setting hsetting
  unfold appZclWriteReqCmd
  rw [if_pos rfl, if_pos rfl, List.foldl_append, List.foldl_append, List.foldl_cons, hskip]

/-- A frame without a refused record that the application skips. -/
theorem writeCommand_skip {endpoint : UInt8} {clusterId : UInt16} {rec : WriteRec}
    (hrefused : ¬ AttrAccepted endpoint clusterId rec) (d : Device) (pre post : List WriteRec)
    (hsame : endpoint = APP_ENDPOINT1 → ∀ setting, settingOf clusterId rec = some setting →
      ¬ Acts (run RelaySettings.set d.relay_settings (settingsOf clusterId pre)) setting) :
    writeCommand d endpoint clusterId (pre ++ rec :: post) =
      writeCommand d endpoint clusterId (pre ++ post) := by
  rw [writeCommand, zclWriteHandler_refused d.attrs hrefused]
  by_cases hendpoint : endpoint = APP_ENDPOINT1
  · subst hendpoint
    exact appZclWriteReqCmd_skip _ pre post (hsame rfl)
  · rw [writeCommand, appZclWriteReqCmd, appZclWriteReqCmd, if_neg hendpoint, if_neg hendpoint]

/-- The other records come to the same with and without a record that they are apart from. -/
theorem Apart.sameRecs {endpoint : UInt8} {clusterId : UInt16} {pre post : List ReportRec}
    {rec : ReportRec} (h : Apart endpoint clusterId pre rec post) (behind behind' : Nat → UInt8) :
    List.Forall₂ (SameRec endpoint clusterId)
      (writeRecs (bufferData (rec :: post) behind) pre ++ writeRecs behind post)
      (writeRecs behind' (pre ++ post)) := by
  by_cases hnone : rec.attrData = []
  · have hdata : bufferData (rec :: post) behind = bufferData post behind := by
      have hvalues : values (rec :: post) = values post := by
        rw [values, List.flatMap_cons, hnone, List.nil_append]
        rfl
      funext i
      rw [bufferData, bufferData, hvalues]
    rw [hdata, ← writeRecs_append]
    exact sameRecs_writeRecs behind behind' h.whole h.inside
  · rw [writeRecs_append]
    refine List.rel_append ?_ ?_
    · exact sameRecs_writeRecs _ _
        (fun other hother => h.whole other (List.mem_append_left post hother))
        fun hendpoint => h.front hendpoint hnone
    · exact sameRecs_writeRecs _ _
        (fun other hother => h.whole other (List.mem_append_right pre hother))
        fun hendpoint => (h.inside hendpoint).of_append

/-- A refused record has no effect in a frame where the application skips it. -/
theorem noEffect_of_refused {endpoint : UInt8} {clusterId : UInt16} {pre post : List ReportRec}
    {rec : ReportRec} (hwhole : WholeValue rec) (hrefused : ¬ RecAccepted endpoint clusterId rec)
    (hapart : Apart endpoint clusterId pre rec post) (d : Device)
    (hsame : endpoint = APP_ENDPOINT1 → ∀ behind setting,
      settingOf clusterId (pointed behind rec post) = some setting →
      ¬ Acts (run RelaySettings.set d.relay_settings
        (settingsOf clusterId (writeRecs (bufferData (rec :: post) behind) pre))) setting) :
    NoEffect d endpoint clusterId pre rec post := by
  intro availBufNum behind behind' m m' hbuffered hbuffered' hm hm'
  have hall : ∀ other ∈ pre ++ rec :: post, WholeValue other := by
    intro other hother
    rcases List.mem_append.mp hother with hpre | hpost
    · exact hapart.whole other (List.mem_append_left post hpre)
    · rcases List.mem_cons.mp hpost with rfl | hpost
      · exact hwhole
      · exact hapart.whole other (List.mem_append_right pre hpost)
  have hskip := writeCommand_skip (fun h => hrefused (attrAccepted_pointed.mp h)) d
    (writeRecs (bufferData (rec :: post) behind) pre) (writeRecs behind post)
    fun hendpoint => hsame hendpoint behind
  have hrecs : writeRecs behind (pre ++ rec :: post) =
      writeRecs (bufferData (rec :: post) behind) pre ++
        pointed behind rec post :: writeRecs behind post :=
    writeRecs_append pre (rec :: post) behind
  rw [receiveWrite_eq d behind' endpoint clusterId hbuffered' hapart.whole hm',
    receiveWrite_eq d behind endpoint clusterId hbuffered hall hm, hrecs, hskip,
    ← writeCommand_congr d (hapart.sameRecs behind behind')]
  exact ⟨rfl, rfl, rfl, rfl, rfl⟩

/-! ## Records with effect -/

/-- Behind the start there are buffers for every frame that fits into one. -/
theorem buffered_initBufNum {attrList : List ReportRec}
    (hsize : attrBufLen attrList ≤ MAX_BUFFER_SIZE) : Buffered initBufNum attrList := by
  have hnum : 1 + attrList.length * 7 ≤ MAX_BUFFER_SIZE :=
    Nat.le_trans (Nat.le_add_right _ _) hsize
  have hpos : 0 < attrBufLen attrList := by
    rw [attrBufLen]
    omega
  have hfirst : (evBufAllocate initBufNum (attrBufLen attrList)).isSome :=
    evBufAllocate_mono hpos hsize (by decide) (by decide)
  rcases Option.isSome_iff_exists.mp hfirst with ⟨left, hleft⟩
  have hlarge : (evBufAllocate left MAX_BUFFER_SIZE).isSome := by
    unfold evBufAllocate at hleft
    dsimp only at hleft
    split at hleft
    · cases hleft
    · simp only [takeBlock, bufferGroups, initBufNum] at hleft
      split_ifs at hleft <;> cases hleft <;> decide
  refine ⟨hsize, ?_⟩
  rw [hleft, Option.bind_some]
  exact evBufAllocate_mono (by omega) (by omega) (by decide) hlarge

/-- A frame of one record, which has no effect. -/
theorem NoEffect.single {d : Device} {endpoint : UInt8} {clusterId : UInt16} {rec : ReportRec}
    (hnone : NoEffect d endpoint clusterId [] rec []) (hwhole : WholeValue rec)
    (hsize : attrBufLen [rec] ≤ MAX_BUFFER_SIZE) (behind : Nat → UInt8) :
    SameState (writeCommand d endpoint clusterId [])
      (writeCommand d endpoint clusterId [pointed behind rec []]) := by
  have hbuffered : Buffered initBufNum [rec] := buffered_initBufNum hsize
  have hbuffered' : Buffered initBufNum [] := buffered_initBufNum (by decide)
  have hm := stored_getD (frameBytes [rec])
  have hm' : NorFlash.Stored (fun _ => 0) 0 (frameBytes []) := rfl
  have hboth := hnone initBufNum behind behind _ _ hbuffered hbuffered' hm hm'
  have hwholes : ∀ other ∈ [rec], WholeValue other := by
    intro other hother
    rwa [List.mem_singleton.mp hother]
  have hwith := receiveWrite_eq d behind endpoint clusterId hbuffered hwholes hm
  have hwithout := receiveWrite_eq d behind endpoint clusterId hbuffered'
    (fun _ hother => absurd hother List.not_mem_nil) hm'
  rw [List.nil_append, List.nil_append, hwith, hwithout] at hboth
  exact hboth

theorem add_one_ne (v : UInt8) : v + 1 ≠ v := by
  intro heq
  rw [UInt8.add_eq_left] at heq
  exact absurd heq (by decide)

/-- For any setting there are settings it is not in. -/
theorem exists_acts (setting : Setting) : ∃ s : RelaySettings, Acts s setting := by
  cases setting with
  | startUpOnOff startup => exact ⟨{ startUpOnOff := startup + 1 }, add_one_ne startup⟩
  | switchType type => exact ⟨{ switchType := type + 1 }, add_one_ne type⟩
  | switchActions action => exact ⟨{ switchActions := action + 1 }, add_one_ne action⟩
  | switch_decoupled decoupled =>
      exact ⟨{ switch_decoupled := decoupled + 1 }, add_one_ne decoupled⟩
  | defaultMoveRate rate => exact ⟨{}, trivial⟩
  | levelMin min => exact ⟨{}, trivial⟩
  | levelMax max => exact ⟨{}, trivial⟩
  | transitionTime time => exact ⟨{}, trivial⟩

/-- A record that is about a setting has an effect, refused or not: where nothing is
stored yet, the settings are stored. -/
theorem exists_effect_of_setting {clusterId : UInt16} {rec : WriteRec} {setting : Setting}
    (hsetting : settingOf clusterId rec = some setting) :
    ∃ d, ¬ SameState (writeCommand d APP_ENDPOINT1 clusterId [])
      (writeCommand d APP_ENDPOINT1 clusterId [rec]) := by
  rcases exists_acts setting with ⟨s, hacts⟩
  have hsettings : settingsOf clusterId [rec] = [setting] := by
    rw [settingsOf, List.filterMap_cons_some hsetting]
    rfl
  have hstored : ∀ d : Device, d.relay_settings = s →
      (appZclWriteReqCmd d APP_ENDPOINT1 clusterId [rec]).nv ≠ none := by
    rintro d rfl
    have hsome : Sometime RelaySettings.set Acts d.relay_settings [setting] := Or.inl hacts
    rw [appZclWriteReqCmd_eq, hsettings, if_pos hsome]
    exact Option.some_ne_none _
  exact ⟨{ newDevice with relay_settings := s }, fun hnone => hstored _ rfl hnone.nv⟩

/-- A record that is accepted and out of range has an effect: its attribute takes the
value. -/
theorem exists_effect_of_accepted {endpoint : UInt8} {clusterId : UInt16} {rec : WriteRec}
    (haccepted : AttrAccepted endpoint clusterId rec) (hrange : ¬ InRange clusterId rec) :
    ∃ d, ¬ SameState (writeCommand d endpoint clusterId [])
      (writeCommand d endpoint clusterId [rec]) := by
  rcases Option.isSome_iff_exists.mp (attrAccepted_iff.mp haccepted) with ⟨data, hwritten⟩
  rcases settingOf_not_inRange hrange with ⟨hsetting, htarget⟩
  have hendpoint : endpoint = APP_ENDPOINT1 := by
    by_contra hother
    rw [writtenTo, zclFindAttribute, if_neg hother] at hwritten
    cases hwritten
  subst hendpoint
  have hdata : data = .custom_swtichType := by
    rw [targetOf_writtenTo hwritten] at htarget
    split at htarget
    · exact Option.some.inj htarget
    · cases htarget
  have hread : ∀ d : Device, (writeCommand d APP_ENDPOINT1 clusterId [rec]).attrs.read
      .custom_swtichType = (rec.attrData 0).toUInt16 := by
    intro d
    have hnil : settingsOf clusterId [rec] = [] := by
      rw [settingsOf, List.filterMap_cons_none hsetting]
      rfl
    have hhandler : zclWriteHandler d.attrs APP_ENDPOINT1 clusterId [rec] =
        (zclAttrWrite d.attrs APP_ENDPOINT1 clusterId rec true).2 := rfl
    rw [writeCommand, appZclWriteReqCmd_attrs, hnil, run_nil, hhandler, zclAttrWrite_eq,
      hwritten, hdata]
    exact read_store_same d.attrs .custom_swtichType rec.attrData
  refine ⟨{ newDevice with attrs := { newDevice.attrs with
    onOffCfg := { newDevice.attrs.onOffCfg with
      custom_swtichType := rec.attrData 0 + 1 } } }, fun hnone => ?_⟩
  have hvalue := congrArg (fun attrs => attrs.read .custom_swtichType) hnone.attrs
  dsimp only at hvalue
  rw [hread] at hvalue
  exact add_one_ne _ (toUInt16_inj.mp hvalue.symm)

/-! ## Which refused records have no effect -/

/-- A record that is refused or out of range, and that fits into a buffer, has no effect in any
state and any frame whose other records are apart from it exactly when it is refused and, for the
application, about no setting.  In one frame and one state a refused record also has none if what
it is about is set when the application comes to it. -/
theorem refused_record_no_effect_iff (endpoint : UInt8) (clusterId : UInt16) (rec : ReportRec)
    (hwhole : WholeValue rec) (hsize : attrBufLen [rec] ≤ MAX_BUFFER_SIZE)
    (hrefused : ¬ RecAccepted endpoint clusterId rec ∨
      ¬ InRange clusterId (pointed (fun _ => 0) rec [])) :
    ((∀ d pre post, Apart endpoint clusterId pre rec post →
        NoEffect d endpoint clusterId pre rec post) ↔
      ¬ RecAccepted endpoint clusterId rec ∧ NoSetting endpoint clusterId rec) ∧
    ∀ d pre post, Apart endpoint clusterId pre rec post → ¬ RecAccepted endpoint clusterId rec →
      (endpoint = APP_ENDPOINT1 → ∀ behind setting,
        settingOf clusterId (pointed behind rec post) = some setting →
        ¬ Acts (run RelaySettings.set d.relay_settings
          (settingsOf clusterId (writeRecs (bufferData (rec :: post) behind) pre))) setting) →
      NoEffect d endpoint clusterId pre rec post := by
  have halone : Apart endpoint clusterId [] rec [] :=
    ⟨fun other hother => absurd hother List.not_mem_nil, fun _ => trivial, fun _ _ => trivial⟩
  refine ⟨⟨fun hnone => ⟨fun haccepted => ?_, ?_⟩, ?_⟩, ?_⟩
  · rcases hrefused with hnot | hrange
    · exact hnot haccepted
    · rcases exists_effect_of_accepted haccepted hrange with ⟨d, heffect⟩
      exact heffect ((hnone d [] [] halone).single hwhole hsize _)
  · rintro rfl behind
    cases hsetting : settingOf clusterId (pointed behind rec []) with
    | none => rfl
    | some setting =>
        rcases exists_effect_of_setting hsetting with ⟨d, heffect⟩
        exact absurd ((hnone d [] [] halone).single hwhole hsize behind) heffect
  · rintro ⟨hnot, hnone⟩ d pre post hapart
    refine noEffect_of_refused hwhole hnot hapart d fun hendpoint behind setting hsetting => ?_
    have hpointed : pointed behind rec post = pointed (bufferData post behind) rec [] :=
      congrArg (WriteRec.mk rec.attrID rec.dataType) (bufferData_append [rec] post behind)
    rw [hpointed, hnone hendpoint] at hsetting
    cases hsetting
  · intro d pre post hapart hnot hsame
    exact noEffect_of_refused hwhole hnot hapart d hsame

/-! ## Values that are read for others -/

def ZCL_DATA_TYPE_NO_DATA : UInt8 := 0x00

/-- {lit}`StartUpOnOff` with a type that has no value. -/
def emptyRec : ReportRec := ⟨ZCL_ATTRID_START_UP_ONOFF, ZCL_DATA_TYPE_NO_DATA, []⟩

theorem settingsOf_writeRecs_other {attrList : List ReportRec} {behind : Nat → UInt8}
    (hother : ∀ rec ∈ attrList, rec.attrID ≠ ZCL_ATTRID_START_UP_ONOFF) :
    settingsOf ZCL_CLUSTER_GEN_ON_OFF (writeRecs behind attrList) = [] := by
  induction attrList with
  | nil => rfl
  | cons rec attrList ih =>
      have hnone : settingOf ZCL_CLUSTER_GEN_ON_OFF (pointed behind rec attrList) = none := by
        rw [settingOf, if_pos rfl]
        exact if_neg (hother rec List.mem_cons_self)
      have hrest := ih fun rec' hrec => hother rec' (List.mem_cons_of_mem _ hrec)
      exact (List.filterMap_cons_none hnone).trans hrest

/-- Behind a frame that begins with that record, {lit}`StartUpOnOff` is the byte that follows. -/
theorem receiveWrite_emptyRec (d : Device) {attrList : List ReportRec} (behind : Nat → UInt8)
    {m : Mem} (hsize : attrBufLen (emptyRec :: attrList) ≤ MAX_BUFFER_SIZE)
    (hwhole : ∀ rec ∈ attrList, WholeValue rec)
    (hother : ∀ rec ∈ attrList, rec.attrID ≠ ZCL_ATTRID_START_UP_ONOFF)
    (hm : NorFlash.Stored m 0 (frameBytes (emptyRec :: attrList))) :
    (d.receiveWrite initBufNum behind APP_ENDPOINT1 ZCL_CLUSTER_GEN_ON_OFF m
      (frameBytes (emptyRec :: attrList)).length).relay_settings.startUpOnOff =
        bufferData attrList behind 0 := by
  have hwholes : ∀ rec ∈ emptyRec :: attrList, WholeValue rec := by
    intro rec hrec
    rcases List.mem_cons.mp hrec with rfl | hrec
    · exact fun _ _ => rfl
    · exact hwhole rec hrec
  have hsettings : settingsOf ZCL_CLUSTER_GEN_ON_OFF (writeRecs behind (emptyRec :: attrList)) =
      [.startUpOnOff (bufferData attrList behind 0)] := by
    rw [writeRecs, settingsOf, List.filterMap_cons]
    exact congrArg (List.cons _) (settingsOf_writeRecs_other hother)
  rw [receiveWrite_eq d behind APP_ENDPOINT1 ZCL_CLUSTER_GEN_ON_OFF (buffered_initBufNum hsize)
    hwholes hm, writeCommand]
  rcases appZclWriteReqCmd_settings
    (d.written APP_ENDPOINT1 ZCL_CLUSTER_GEN_ON_OFF (writeRecs behind (emptyRec :: attrList)))
    ZCL_CLUSTER_GEN_ON_OFF (writeRecs behind (emptyRec :: attrList)) with ⟨crc, hwritten⟩
  rw [hsettings] at hwritten
  exact congrArg RelaySettings.startUpOnOff hwritten

/-- A record with a value, behind that one, has an effect on the setting, refused or not, unless the
byte that follows without it is the same. -/
theorem refused_value_read (d : Device) {rec : ReportRec} {post : List ReportRec} {b : UInt8}
    {rest : List UInt8} {behind : Nat → UInt8} (hvalue : rec.attrData = b :: rest)
    (hsize : attrBufLen (emptyRec :: rec :: post) ≤ MAX_BUFFER_SIZE)
    (hwhole : ∀ other ∈ rec :: post, WholeValue other)
    (hother : ∀ other ∈ rec :: post, other.attrID ≠ ZCL_ATTRID_START_UP_ONOFF)
    (hnext : bufferData post behind 0 ≠ b) :
    ¬ NoEffect d APP_ENDPOINT1 ZCL_CLUSTER_GEN_ON_OFF [emptyRec] rec post := by
  intro hnone
  have hpost : ∀ {P : ReportRec → Prop}, (∀ other ∈ rec :: post, P other) →
      ∀ other ∈ post, P other :=
    fun hall other hpost => hall other (List.mem_cons_of_mem rec hpost)
  have hsize' : attrBufLen (emptyRec :: post) ≤ MAX_BUFFER_SIZE := by
    simp only [attrBufLen, List.length_cons, List.map_cons, List.sum_cons] at hsize ⊢
    omega
  have hm := stored_getD (frameBytes (emptyRec :: rec :: post))
  have hm' := stored_getD (frameBytes (emptyRec :: post))
  have hwith := receiveWrite_emptyRec d behind hsize hwhole hother hm
  have hwithout := receiveWrite_emptyRec d behind hsize' (hpost hwhole)
    (hpost hother) hm'
  rw [NoEffect, List.singleton_append, List.singleton_append] at hnone
  have hsettings := (hnone initBufNum behind behind _ _ (buffered_initBufNum hsize)
    (buffered_initBufNum hsize') hm hm').settings
  have hfirst : bufferData (rec :: post) behind 0 = b := by
    have hpos : 0 < rec.attrData.length := by
      rw [hvalue]
      exact Nat.succ_pos _
    rw [bufferData_own hpos, hvalue]
    rfl
  rw [hsettings, hwithout, hfirst] at hwith
  exact hnext hwith

/-! ## Two records -/

/-- A record with a value of one byte. -/
def byteReportRec (attrID : UInt16) (dataType data : UInt8) : ReportRec :=
  ⟨attrID, dataType, [data]⟩

/-- The on/off status, which cannot be written. -/
theorem refused_record_no_effect_onOff :
    NoEffect newDevice APP_ENDPOINT1 ZCL_CLUSTER_GEN_ON_OFF []
      (byteReportRec ZCL_ATTRID_ONOFF ZCL_DATA_TYPE_BOOLEAN ZCL_ONOFF_STATUS_ON) [] := by
  have hnot : ¬ RecAccepted APP_ENDPOINT1 ZCL_CLUSTER_GEN_ON_OFF
      (byteReportRec ZCL_ATTRID_ONOFF ZCL_DATA_TYPE_BOOLEAN ZCL_ONOFF_STATUS_ON) := by
    unfold RecAccepted
    decide
  exact (refused_record_no_effect_iff _ _ _ (fun _ _ => rfl) (by decide) (Or.inl hnot)).1.mpr
    ⟨hnot, fun _ _ => rfl⟩ newDevice [] []
    ⟨fun _ hother => absurd hother List.not_mem_nil, fun _ => trivial, fun _ _ => trivial⟩

/-- {lit}`StartUpOnOff` as a number instead of an enumeration. -/
def wrongTypeRec : ReportRec :=
  byteReportRec ZCL_ATTRID_START_UP_ONOFF ZCL_DATA_TYPE_UINT8 ZCL_START_UP_ONOFF_SET_ONOFF_TO_ON

/-- On a new device the record is refused, and the setting changes. -/
theorem refused_record_sets_startUpOnOff :
    ∃ start, relaySettingsRestore newDevice {} = some start ∧
      ¬ RecAccepted APP_ENDPOINT1 ZCL_CLUSTER_GEN_ON_OFF wrongTypeRec ∧
      ¬ NoEffect start APP_ENDPOINT1 ZCL_CLUSTER_GEN_ON_OFF [] wrongTypeRec [] := by
  rcases exists_restored (d := newDevice) {} rfl with ⟨start, hrestore, hsettings⟩
  refine ⟨start, hrestore, by unfold RecAccepted; decide, fun hnone => ?_⟩
  have hsingle := hnone.single (fun _ _ => rfl) (by decide) fun _ => 0
  rcases appZclWriteReqCmd_settings
    (start.written APP_ENDPOINT1 ZCL_CLUSTER_GEN_ON_OFF [pointed (fun _ => 0) wrongTypeRec []])
    ZCL_CLUSTER_GEN_ON_OFF [pointed (fun _ => 0) wrongTypeRec []] with ⟨crc, hwritten⟩
  have hsame : (appZclWriteReqCmd (start.written APP_ENDPOINT1 ZCL_CLUSTER_GEN_ON_OFF
      [pointed (fun _ => 0) wrongTypeRec []]) APP_ENDPOINT1 ZCL_CLUSTER_GEN_ON_OFF
      [pointed (fun _ => 0) wrongTypeRec []]).relay_settings = start.relay_settings :=
    hsingle.settings
  have hstart : (start.written APP_ENDPOINT1 ZCL_CLUSTER_GEN_ON_OFF
      [pointed (fun _ => 0) wrongTypeRec []]).relay_settings = start.relay_settings := rfl
  rw [hwritten, hstart, hsettings] at hsame
  have hdiffer : ZCL_START_UP_ONOFF_SET_ONOFF_TO_ON ≠ ZCL_START_UP_ONOFF_SET_ONOFF_TO_OFF := by
    decide
  exact hdiffer (congrArg RelaySettings.startUpOnOff hsame)

end Firmware
