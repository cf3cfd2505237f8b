import TuyaMiniSwitch.Library.Refinement
import TuyaMiniSwitch.Platform.NvFrameWrite

/-!
# Platform - The frame counter in use

A device that saves the frame counter as it grows and goes on from the restored value after every
start, while power may fail at any time.  A counter that went back would let old frames in again.

Main results:

- Theorem {lit}`frame_count_never_back`: what is restored is never less than what was saved or
  restored before.
- Theorem {lit}`far_save_forgotten`: a value saved too far ahead is not the one that is restored.
- Theorem {lit}`torn_save`: what is restored when power failed while a value was written.
-/

namespace NvDriver

open NorFlash FlashDriver Refinement

/-! ## Runs -/

/-- What the device does with the frame counter, or what happens to it. -/
inductive FrameEvent where
  | save (frameCount : Nat)
  | restore (result : Option Nat)
  | cutSave (frameCount : Nat)
  | cutRestore
  | restart

/-- The flash, and the value the device goes on from; after a start it has none. -/
structure FrameState where
  chip : Chip
  known : Option Nat

/-- A value that the device may save: it is not less than the one before, and it is saved before
the counter has gone {lit}`UPDATE_FRAMECOUNT_THRES` further. -/
structure Follows (b v : Nat) : Prop where
  le : b ≤ v
  near : v ≤ b + UPDATE_FRAMECOUNT_THRES
  lt : v < 0xffffffff

/-- A call, which may be cut short anywhere but where the module does not survive. -/
inductive FrameStep (cap : FlashCap) : FrameState → FrameEvent → FrameState → Prop where
  | save {chip : Chip} {b v : Nat} (follows : Follows b v) :
      FrameStep cap ⟨chip, some b⟩ (.save v) ⟨nvNwkFrameCountSaveToFlash cap chip v, some v⟩
  | restore {chip chip' : Chip} {known result : Option Nat}
      (call : nvNwkFrameCountFromFlash cap chip = (result, chip')) :
      FrameStep cap ⟨chip, known⟩ (.restore result) ⟨chip', some (result.getD 0)⟩
  | cutSave (n k : Nat) {chip : Chip} {b v : Nat} (follows : Follows b v)
      (allowed : CutAllowed (LosingCut (frameModule cap))
        (issued chip (nvNwkFrameCountSaveToFlash cap chip v)) n k) :
      FrameStep cap ⟨chip, some b⟩ (.cutSave v) ⟨chip.run geometry
        (cutCmds (issued chip (nvNwkFrameCountSaveToFlash cap chip v)) n k), none⟩
  | cutRestore (n k : Nat) {chip chip' : Chip} {known result : Option Nat}
      (call : nvNwkFrameCountFromFlash cap chip = (result, chip'))
      (allowed : CutAllowed (LosingCut (frameModule cap)) (issued chip chip') n k) :
      FrameStep cap ⟨chip, known⟩ .cutRestore
        ⟨chip.run geometry (cutCmds (issued chip chip') n k), none⟩
  | restart {chip : Chip} {known : Option Nat} :
      FrameStep cap ⟨chip, known⟩ .restart ⟨chip, none⟩

/-- The value that an event makes known. -/
def FrameEvent.shown : FrameEvent → Option Nat
  | .save v => some v
  | .restore result => some (result.getD 0)
  | _ => none

variable {cap : FlashCap} {s s' : FrameState} {e : FrameEvent} {b v : Nat} {m : Mem}

/-- From now on nothing less than a value is restored. -/
def FrameState.Above (cap : FlashCap) (b : Nat) (s : FrameState) : Prop :=
  match s.known with
  | none => Holding (frameModule cap) (Logged cap (Sound b)) (b = 0) s.chip.mem
  | some c => b ≤ c ∧ InStep cap c s.chip.mem

theorem Sound.mono {c : Nat} {ws : List Nat} (h : Sound c ws) (hle : b ≤ c) : Sound b ws := by
  rcases h with ⟨w, hw, init, hws, hprev⟩
  refine ⟨w, Nat.le_trans hle hw, init, hws, fun p hp hlen => ?_⟩
  have hbounds := hprev p hp hlen
  exact ⟨hbounds.1, Nat.le_trans hle hbounds.2⟩

theorem holding_of_le {c : Nat} (hle : b ≤ c)
    (h : Holding (frameModule cap) (Logged cap (Sound c)) (c = 0) m) :
    Holding (frameModule cap) (Logged cap (Sound b)) (b = 0) m :=
  holding_mono (fun _ hws => hws.mono hle) (by omega) h

theorem FrameState.Above.holding (h : s.Above cap b) :
    Holding (frameModule cap) (Logged cap (Sound b)) (b = 0) s.chip.mem := by
  rcases s with ⟨chip, _ | c⟩
  · exact h
  · exact holding_of_le h.1 (h.2.standing (Within.refl _ _)).2

/-- Whatever the device does, nothing less is restored. -/
theorem above_step (h : s.Above cap b) (hstep : FrameStep cap s e s') : s'.Above cap b := by
  cases hstep with
  | save follows =>
      obtain ⟨hdone, -⟩ := frameSave_spec (E := LosingCut (frameModule cap))
        (fun _ _ hlosing => hlosing) h.2 follows.le follows.near follows.lt
      exact ⟨Nat.le_trans h.1 follows.le, hdone⟩
  | restore call =>
      obtain ⟨result, chip', hread, hle, hdone, -⟩ := frameRead_spec
        (E := LosingCut (frameModule cap)) (fun _ _ hlosing => hlosing) h.holding
      rw [hread, Prod.mk.injEq] at call
      obtain ⟨rfl, rfl⟩ := call
      exact ⟨hle, hdone⟩
  | cutSave n k follows allowed =>
      obtain ⟨-, hsafe⟩ := frameSave_spec (fun _ _ hlosing => hlosing) h.2 follows.le
        follows.near follows.lt
      exact holding_of_le h.1 (hsafe.cut allowed).2
  | cutRestore n k call allowed =>
      obtain ⟨result, chip', hread, -, -, hsafe⟩ := frameRead_spec
        (fun _ _ hlosing => hlosing) h.holding
      rw [hread, Prod.mk.injEq] at call
      obtain ⟨rfl, rfl⟩ := call
      exact (hsafe.cut allowed).2
  | restart => exact h.holding

/-- A value that was saved or restored is such a value. -/
theorem above_shown (h : s.Above cap b) (hstep : FrameStep cap s e s') (hshown : e.shown = some v) :
    s'.Above cap v := by
  cases hstep with
  | save follows =>
      cases hshown
      obtain ⟨hdone, -⟩ := frameSave_spec (E := LosingCut (frameModule cap))
        (fun _ _ hlosing => hlosing) h.2 follows.le follows.near follows.lt
      exact ⟨Nat.le_refl _, hdone⟩
  | restore call =>
      cases hshown
      obtain ⟨result, chip', hread, -, hdone, -⟩ := frameRead_spec
        (E := LosingCut (frameModule cap)) (fun _ _ hlosing => hlosing) h.holding
      rw [hread, Prod.mk.injEq] at call
      obtain ⟨rfl, rfl⟩ := call
      exact ⟨Nat.le_refl _, hdone⟩
  | cutSave n k follows allowed => cases hshown
  | cutRestore n k call allowed => cases hshown
  | restart => cases hshown

/-- A module that is erased. -/
theorem above_blank (hblank : ∀ x, (frameModule cap).sectStart 0 ≤ x →
    x < (frameModule cap).sectEnd 1 → m x = blank) :
    Holding (frameModule cap) (Logged cap (Sound 0)) (0 = 0) m := by
  have hsize := frameModule_sectorSize cap
  have hdead : ∀ sect < 2, Dead (frameModule cap) m sect := by
    intro sect hlt
    have hwithin := sect_within (frameModule cap) hlt
    have hend := sectEnd_eq (frameModule cap) sect
    exact dead_blank fun i hi => hblank _ (by omega) (by omega)
  exact .empty (hdead 0 (by decide)) (hdead 1 (by decide)) rfl

/-- What is restored is never less than what was saved or restored before, however often power
fails in between. -/
theorem frame_count_never_back (cap : FlashCap) {chip : Chip}
    (hblank : ∀ x, (frameModule cap).sectStart 0 ≤ x → x < (frameModule cap).sectEnd 1 →
      chip.mem x = blank)
    {before between : List FrameEvent} (hshown : e.shown = some v) {result : Option Nat}
    (hrun : Runs (FrameStep cap) ⟨chip, none⟩
      (before ++ e :: (between ++ [.restore result])) s') :
    v ≤ result.getD 0 := by
  obtain ⟨s₁, hbefore, hrest⟩ := runs_append.mp hrun
  have hstart : FrameState.Above cap 0 ⟨chip, none⟩ := above_blank hblank
  have habove₁ := hbefore.invariant (L := fun _ => True)
    (fun _ _ _ hs _ hstep => above_step hs hstep) hstart fun _ _ => trivial
  cases hrest with
  | cons hevent hrest =>
      have habove₂ := above_shown habove₁ hevent hshown
      obtain ⟨s₃, hbetween, hrestore⟩ := runs_append.mp hrest
      have habove₃ := hbetween.invariant (L := fun _ => True)
        (fun _ _ _ hs _ hstep => above_step hs hstep) habove₂ fun _ _ => trivial
      have hlast := above_step habove₃ (runs_singleton.mp hrestore)
      cases runs_singleton.mp hrestore with
      | restore call => exact hlast.1

/-- A value is saved, a write of the next one is cut short, and the value is restored. -/
theorem frame_count_never_back_cut : ∃ result s', Runs (FrameStep .cap1M) ⟨Chip.erased, none⟩
      [.restore none, .save 700, .cutSave 900, .restore result] s' ∧ 700 ≤ result.getD 0 := by
  have hdead : ∀ sect, Dead (frameModule .cap1M) Chip.erased.mem sect :=
    fun _ => dead_blank fun _ _ => rfl
  have hnone : nvNwkFrameCountFromFlash .cap1M Chip.erased = (none, Chip.erased) := by
    rw [nvNwkFrameCountFromFlash, nvSectorRead, nvSectorReadAt_dead (hdead 0)]
    dsimp only
    rw [nvSectorReadAt_dead (hdead 1)]
  have hallowed : ∀ cs, CutAllowed (LosingCut (frameModule .cap1M)) cs 0 0 := by
    rintro cs _ - ⟨_, ⟨-, hk⟩ | ⟨-, hk, -⟩⟩ <;> cases hk
  obtain ⟨result, s', hrun⟩ : ∃ result s', Runs (FrameStep .cap1M) ⟨Chip.erased, none⟩
      ([.restore none] ++ .save 700 :: ([.cutSave 900] ++ [.restore result])) s' :=
    ⟨_, _, .cons (.restore hnone) (.cons (.save ⟨by decide, by decide, by decide⟩)
      (.cons (.cutSave 0 0 ⟨by decide, by decide, by decide⟩ (hallowed _))
        (.cons (.restore rfl) (.nil _))))⟩
  exact ⟨result, s', hrun, frame_count_never_back .cap1M (fun _ _ _ => rfl) rfl hrun⟩

/-! ## The first values -/

/-- The first value that is saved. -/
theorem saved_first {chip : Chip} (hfirst : Dead (frameModule cap) chip.mem 0)
    (hsecond : Dead (frameModule cap) chip.mem 1) (hv : v < 0xffffffff) :
    Holding (frameModule cap) (Exactly cap [v]) False
      (nvNwkFrameCountSaveToFlash cap chip v).mem := by
  have hnone : nvSectorRead (frameModule cap) chip = (none, chip) := by
    rw [nvSectorRead, nvSectorReadAt_dead hfirst]
    exact nvSectorReadAt_dead hsecond
  obtain ⟨chip', hhandler, hdone, -⟩ := frameFirst_spec (E := LosingCut (frameModule cap))
    (fun _ _ hlosing => hlosing) hfirst hsecond rfl hv hnone
  rw [nvNwkFrameCountSaveToFlash, hhandler]
  exact hdone

/-- The next one. -/
theorem saved_next {chip : Chip} {ws : List Nat}
    (h : Holding (frameModule cap) (Exactly cap ws) False chip.mem) (hws : Synced b ws)
    (hroom : ws.length < 1023) (hle : b ≤ v) (hv : v < 0xffffffff) :
    ∃ sect, InForce (frameModule cap) (Exactly cap (ws ++ [v]))
      (nvNwkFrameCountSaveToFlash cap chip v).mem NV_SECTOR_VALID_CHECKCRC sect := by
  rcases nvSectorRead_spec (E := LosingCut (frameModule cap)) (frameModule_sized cap)
    (logged_local cap _) (fun _ _ hlosing => hlosing) h with
    ⟨sect, chip₁, hread, hlive, hsafe⟩ | ⟨-, -, -, hnone⟩
  · obtain ⟨us, hcounts, rfl⟩ := hlive.content
    obtain ⟨chip', hhandler, -, hlive', -⟩ := frameAppend_spec (E := LosingCut (frameModule cap))
      (Exactly.inForce hlive hws) hcounts hws hroom hsafe.post.1 hle hv hread
    rw [nvNwkFrameCountSaveToFlash, hhandler]
    exact ⟨sect, hlive'⟩
  · exact hnone.elim

/-! ## Values far apart -/

variable {chip : Chip} {ws : List Nat} {sect : Nat}

/-- A value that was saved too far ahead of the one before is not the one that is restored: the
device goes back to a value it has left behind. -/
theorem far_save_forgotten
    (hlive : InForce (frameModule cap) (Exactly cap ws) chip.mem NV_SECTOR_VALID_CHECKCRC sect)
    (hws : Synced b ws) (htwo : 2 ≤ ws.length) (hroom : ws.length < 1023)
    (hfar : b + UPDATE_FRAMECOUNT_THRES < v) (hv : v < 0xffffffff) :
    (nvNwkFrameCountFromFlash cap (nvNwkFrameCountSaveToFlash cap chip v)).1 =
      some (b + UPDATE_FRAMECOUNT_THRES) := by
  obtain ⟨us, hcounts, rfl⟩ := hlive.content
  obtain ⟨chip', hhandler, -, hlive', -⟩ := frameAppend_spec (E := LosingCut (frameModule cap))
    (Exactly.inForce hlive hws) hcounts hws hroom (Within.refl _ _) (by omega) hv
    hlive.nvSectorRead
  obtain ⟨init, rfl, -⟩ := hws
  obtain ⟨_, hcounts', rfl⟩ := hlive'.content
  rw [List.length_append, List.length_singleton] at htwo
  rw [nvNwkFrameCountSaveToFlash, hhandler]
  dsimp only
  rw [restored_far hlive'.sect_lt hlive'.nvSectorRead hcounts' rfl (by omega) hfar]

/-- The third value of an erased module. -/
theorem far_save_forgotten_third :
    (nvNwkFrameCountFromFlash .cap1M (nvNwkFrameCountSaveToFlash .cap1M
      (nvNwkFrameCountSaveToFlash .cap1M
        (nvNwkFrameCountSaveToFlash .cap1M Chip.erased 5) 7) 5000)).1 = some 1031 := by
  have hdead : ∀ sect, Dead (frameModule .cap1M) Chip.erased.mem sect :=
    fun _ => dead_blank fun _ _ => rfl
  obtain ⟨sect, hlive⟩ := saved_next (saved_first (v := 5) (hdead 0) (hdead 1) (by decide))
    (synced_singleton 5) (by decide) (v := 7) (by decide) (by decide)
  have hws : Synced 7 [5, 7] :=
    (synced_singleton 5).append (by decide) (by decide)
  exact far_save_forgotten hlive hws (by decide) (by decide) (by decide) (by decide)

/-- When power fails while a value is written, the value that is restored is at most
{lit}`UPDATE_FRAMECOUNT_THRES` ahead of the one before, but for the second value of a sector: with
some of its bytes missing it comes back as one near the end of the counter. -/
theorem torn_save
    (hlive : InForce (frameModule cap) (Exactly cap ws) chip.mem NV_SECTOR_VALID_CHECKCRC sect)
    (hws : Synced b ws) (hroom : ws.length < 1023) (hfollows : Follows b v) (k : Nat) :
    ∃ r, (nvNwkFrameCountFromFlash cap (chip.run geometry
        (cutCmds (issued chip (nvNwkFrameCountSaveToFlash cap chip v)) 0 k))).1 = some r ∧ b ≤ r ∧
      (2 ≤ ws.length → r ≤ b + UPDATE_FRAMECOUNT_THRES) ∧
      (ws.length = 1 → v % 256 ≠ 255 → 0 < k → k < 4 → 0xff000000 ≤ r) := by
  have hlt := hlive.sect_lt
  obtain ⟨us, hcounts, rfl⟩ := hlive.content
  obtain ⟨chip', hhandler, hchip', -, -⟩ := frameAppend_spec (E := LosingCut (frameModule cap))
    (Exactly.inForce hlive hws) hcounts hws hroom (Within.refl _ _) hfollows.le hfollows.lt
    hlive.nvSectorRead
  have hissued : issued chip (nvNwkFrameCountSaveToFlash cap chip v) =
      [.program (wordAddr cap sect us.length) (Crc.leBytes 4 v)] := by
    rw [nvNwkFrameCountSaveToFlash, hhandler, hchip']
    exact issued_run _ _ _
  obtain ⟨chip₂, hchip₂⟩ : ∃ chip₂, chip₂ = chip.run geometry
      (cutCmds (issued chip (nvNwkFrameCountSaveToFlash cap chip v)) 0 k) := ⟨_, rfl⟩
  have hmem : chip₂.mem = programAt chip.mem (wordAddr cap sect us.length)
      ((Crc.leBytes 4 v).take k) := by
    have hmod := (frameModule_sized cap).sectStart_mod hlt
    have hpage : PAGE_SIZE = 256 := rfl
    have htake := List.length_take_le' k (Crc.leBytes 4 v)
    have hlen : (Crc.leBytes 4 v).length = 4 := rfl
    have hcut : cutCmds [Cmd.program (wordAddr cap sect us.length) (Crc.leBytes 4 v)] 0 k =
        [.program (wordAddr cap sect us.length) ((Crc.leBytes 4 v).take k)] := rfl
    rw [hchip₂, hissued, hcut, Chip.run_mem, runCmds_cons, runCmds_nil, runCmd_program_of_fit]
    rw [hpage, wordAddr]
    omega
  have hbounds := tornWord_bounds (v := v) (Nat.lt_trans hfollows.lt (by decide)) k
  obtain ⟨hbehind, hcounts₂⟩ := hcounts.torn hlt hroom v k hmem
  have hread : nvSectorRead (frameModule cap) chip₂ = (some sect, chip₂) :=
    (hlive.replace (Q := fun _ _ => True) (frameModule_sized cap) hbehind trivial).nvSectorRead
  have hle := hfollows.le
  have hpos : 0 < us.length := List.length_pos_iff.mpr hws.ne_nil
  rw [← hchip₂]
  split at hcounts₂
  · -- nothing was written
    rw [restored_last hlt hread hcounts₂ hws]
    exact ⟨b, rfl, Nat.le_refl b, fun _ => Nat.le_add_right _ _, fun _ hbyte hk _ => by omega⟩
  · by_cases hnear : 2 ≤ us.length → tornWord v k ≤ b + UPDATE_FRAMECOUNT_THRES
    · rw [restored_last hlt hread hcounts₂ ⟨us, rfl, fun p hp hlen => ?_⟩]
      · exact ⟨_, rfl, by omega, hnear, fun _ _ _ hk => hbounds.2.1 hk⟩
      · rw [hws.getLast] at hp
        cases hp
        exact ⟨by omega, hnear hlen⟩
    · obtain ⟨init, rfl, -⟩ := hws
      rw [List.length_append, List.length_singleton] at hnear hpos
      rw [restored_far hlt hread hcounts₂ rfl (by omega) (by omega)]
      exact ⟨_, rfl, Nat.le_add_right _ _, fun _ => Nat.le_refl _, fun hone => by
        rw [List.length_append, List.length_singleton] at hone
        omega⟩

/-- The second value of a module comes back near the end of the counter. -/
theorem torn_save_second : ∃ (chip : Chip) (r : Nat),
    (nvNwkFrameCountFromFlash .cap1M (chip.run geometry
      (cutCmds (issued chip (nvNwkFrameCountSaveToFlash .cap1M chip 200)) 0 1))).1 = some r ∧
    0xff000000 ≤ r := by
  have hdead : ∀ sect, Dead (frameModule .cap1M) Chip.erased.mem sect :=
    fun _ => dead_blank fun _ _ => rfl
  rcases nvSectorRead_spec (E := LosingCut (frameModule .cap1M)) (frameModule_sized .cap1M)
    (logged_local .cap1M _) (fun _ _ hlosing => hlosing)
    (saved_first (v := 100) (hdead 0) (hdead 1) (by decide)) with
    ⟨sect, chip, -, hlive, -⟩ | ⟨-, -, -, hnone⟩
  · obtain ⟨r, hread, -, -, hend⟩ := torn_save hlive (synced_singleton 100) (by decide)
      (v := 200) ⟨by decide, by decide, by decide⟩ 1
    exact ⟨chip, r, hread, hend rfl (by decide) (by decide) (by decide)⟩
  · exact hnone.elim

end NvDriver
