import Mathlib.Data.List.Perm.Subperm
import TuyaMiniSwitch.Library.Refinement
import TuyaMiniSwitch.Platform.NvWrite

/-!
# Platform - The store of the NV driver

Reads and writes of items of all modules, one after another, with power cuts in between.  To its
callers the driver is a map from modules and identifiers to data, in which a write that power cuts
short has happened or not.

Main results:

- Theorem {lit}`nv_store_refines`: every run of the driver is a run of the map.
- Theorem {lit}`last_write_read`: what was written last is read.
- Theorem {lit}`write_succeeds`: there is always room if the items fit in a sector.
- Theorem {lit}`sector_change_can_lose`: a power cut in a change of the sector can lose them all.
-/

namespace NvDriver

open NorFlash FlashDriver Refinement

/-! ## Modules next to each other -/

/-- The address is in a sector of a module. -/
def NvModule.Has (M : NvModule) (x : Nat) : Prop := M.sectStart 0 ≤ x ∧ x < M.sectEnd 1

theorem modules_apart_of_cap : ∀ cap ∈ [FlashCap.cap512K, FlashCap.cap1M],
    ∀ id ∈ ([0, 1, 2, 3, 5, 6, 7] : List UInt8), ∀ id' ∈ ([0, 1, 2, 3, 5, 6, 7] : List UInt8),
      id ≠ id' → (NvModule.mk cap id).sectEnd 1 ≤ (NvModule.mk cap id').sectStart 0 ∨
        (NvModule.mk cap id').sectEnd 1 ≤ (NvModule.mk cap id).sectStart 0 := by decide +kernel

/-- No address is in the sectors of two modules. -/
theorem modules_apart {cap : FlashCap} {id id' : UInt8} (hid : (NvModule.mk cap id).HoldsItems)
    (hid' : (NvModule.mk cap id').HoldsItems) (hne : id ≠ id') {x : Nat}
    (hx : (NvModule.mk cap id).Has x) : ¬ (NvModule.mk cap id').Has x := by
  have hcap : cap ∈ [FlashCap.cap512K, FlashCap.cap1M] := by
    cases cap <;> simp
  have hapart := modules_apart_of_cap cap hcap id hid id' hid' hne
  unfold NvModule.Has at hx ⊢
  omega

/-! ## The driver as it is called -/

/-- How the items of a flash part are used: every item is read and written with one length, and
the table of {lit}`nv_itemLengthValidCheck` allows it. -/
structure NvConfig where
  cap : FlashCap
  len : UInt8 → UInt8 → Nat
  tbl : List (UInt8 × Nat)
  len_pos : ∀ id itemId, 0 < len id itemId
  len_lt : ∀ id itemId, len id itemId < 65536
  checked : ∀ id itemId,
    nvItemLengthValidCheck tbl itemId (len id itemId) = len id itemId

def NvConfig.module (c : NvConfig) (id : UInt8) : NvModule := ⟨c.cap, id⟩

/-- What is seen of a call: how it ended, or that power failed in it. -/
inductive NvEvent where
  | write (id itemId : UInt8) (buf : List UInt8) (status : Status)
  | read (id itemId : UInt8) (result : Status × List UInt8)
  | cutWrite (id itemId : UInt8) (buf : List UInt8)
  | cutRead (id itemId : UInt8)

/-- The data of the items of every module. -/
abbrev NvMap := UInt8 → UInt8 → Option (List UInt8)

def NvMap.write (map : NvMap) (id itemId : UInt8) (buf : List UInt8) : NvMap :=
  Function.update map id (written (map id) itemId buf)

/-- The calls on a map. -/
inductive MapStep : NvMap → NvEvent → NvMap → Prop where
  | write (map : NvMap) (id itemId : UInt8) (buf : List UInt8) :
      MapStep map (.write id itemId buf .NV_SUCC) (map.write id itemId buf)
  | refuse (map : NvMap) (id itemId : UInt8) (buf : List UInt8) :
      MapStep map (.write id itemId buf .NV_NOT_ENOUGH_SAPCE) map
  | read (map : NvMap) (id itemId : UInt8) :
      MapStep map (.read id itemId (readResult (map id itemId))) map
  | cutBefore (map : NvMap) (id itemId : UInt8) (buf : List UInt8) :
      MapStep map (.cutWrite id itemId buf) map
  | cutBehind (map : NvMap) (id itemId : UInt8) (buf : List UInt8) :
      MapStep map (.cutWrite id itemId buf) (map.write id itemId buf)
  | cutRead (map : NvMap) (id itemId : UInt8) : MapStep map (.cutRead id itemId) map

variable {c : NvConfig} {m₀ : Mem} {chip chip' : Chip} {map : NvMap} {id itemId : UInt8}

/-- The modules hold the items of a map. -/
def Represents (c : NvConfig) (m : Mem) (map : NvMap) : Prop :=
  ∀ id, (c.module id).HoldsItems → Holds (c.module id) (c.len id) m (map id)

/-- A flash that differs in the modules only. -/
def Confined (c : NvConfig) (m₀ m : Mem) : Prop :=
  ∀ x, (∀ id, (c.module id).HoldsItems → ¬ (c.module id).Has x) → m x = m₀ x

/-- What happens to one module leaves the others alone. -/
theorem Represents.kept (h : Represents c chip.mem map) (hmodule : (c.module id).HoldsItems)
    {held : UInt8 → Option (List UInt8)}
    (hkept : Kept (c.module id) (c.len id) held chip.mem chip'.mem) :
    Represents c chip'.mem (Function.update map id held) := by
  intro id' hmodule'
  by_cases hid : id' = id
  · subst hid
    rw [Function.update_self]
    exact hkept.2
  · rw [Function.update_of_ne hid]
    refine (h id' hmodule').congr hmodule'.sized (itemsIn_local hmodule'.sized)
      fun x hle hx => hkept.1 x ?_
    exact modules_apart hmodule' hmodule hid ⟨hle, hx⟩

theorem Confined.within (h : Confined c m₀ chip.mem) (hmodule : (c.module id).HoldsItems)
    (hwithin : Within (c.module id) chip.mem chip'.mem) : Confined c m₀ chip'.mem :=
  fun x hx => (hwithin x (hx id hmodule)).trans (h x hx)

/-- The relation between the driver and the map. -/
def Stands (c : NvConfig) (m₀ : Mem) (chip : Chip) (map : NvMap) : Prop :=
  Represents c chip.mem map ∧ Confined c m₀ chip.mem

theorem Stands.kept (h : Stands c m₀ chip map) (hmodule : (c.module id).HoldsItems)
    {held : UInt8 → Option (List UInt8)}
    (hkept : Kept (c.module id) (c.len id) held chip.mem chip'.mem) :
    Stands c m₀ chip' (Function.update map id held) :=
  ⟨h.1.kept hmodule hkept, h.2.within hmodule hkept.1⟩

theorem Stands.same (h : Stands c m₀ chip map) (hmodule : (c.module id).HoldsItems)
    (hkept : Kept (c.module id) (c.len id) (map id) chip.mem chip'.mem) :
    Stands c m₀ chip' map := by
  have hstands := h.kept hmodule hkept
  rwa [Function.update_eq_self] at hstands

def NV_ITEM_APP_POWER_CNT : UInt8 := 0x2B

def NV_ITEM_APP_USER_CFG : UInt8 := 0x2D

/-- The counter of {lit}`factory_reset.c` is a byte, and {lit}`relay_settings` are ten. -/
def appConfig : NvConfig where
  cap := .cap1M
  len := fun _ itemId => if itemId = NV_ITEM_APP_USER_CFG then 10 else 1
  tbl := []
  len_pos := fun _ _ => by split <;> decide
  len_lt := fun _ _ => by split <;> decide
  checked := fun _ _ => rfl

theorem sum_le_of_subset {f : UInt8 → Nat} {ids ids' : List UInt8} (hnodup : ids.Nodup)
    (hsub : ids ⊆ ids') : (ids.map f).sum ≤ (ids'.map f).sum := by
  obtain ⟨ids'', hperm, hsublist⟩ := List.subperm_of_subset hnodup hsub
  rw [← (hperm.map f).sum_nat]
  exact sum_le_of_sublist (hsublist.map f)

/-- An item that is valid once is copied once. -/
theorem Single.nodup {slots : List Slot} (h : Single slots) (itemId : UInt8) :
    ((kept slots itemId).map Slot.itemId).Nodup := by
  rw [List.Nodup, List.pairwise_map, kept, List.pairwise_filter, List.pairwise_iff_getElem]
  intro i j hi hj hlt hkept hkept' heq
  simp only [Bool.and_eq_true, beq_iff_eq] at hkept hkept'
  have hindex := h i _ (List.getElem?_eq_getElem hi) hkept.1
  have hindex' := h j _ (List.getElem?_eq_getElem hj) hkept'.1
  rw [heq, hindex', Option.some.injEq] at hindex
  omega

/-- Items that fit in a sector together. -/
structure Fits (M : NvModule) (len : UInt8 → Nat) (ids : List UInt8) : Prop where
  nodup : ids.Nodup
  index : ids.length ≤ M.idxNum
  space : M.infoSize + (ids.map fun itemId => align4 (len itemId + 8)).sum ≤ M.sectorSize

theorem Fits.not_full {M : NvModule} {len : UInt8 → Nat} {ids : List UInt8}
    (h : Fits M len ids) {map : UInt8 → Option (List UInt8)}
    (hmap : ∀ itemId, map itemId ≠ none → itemId ∈ ids) {itemId : UInt8} (hitem : itemId ∈ ids) :
    ¬ Full M len map itemId (len itemId) true := by
  have hperm : ids.Perm (itemId :: ids.erase itemId) := List.perm_cons_erase hitem
  have hsum := (hperm.map fun itemId => align4 (len itemId + 8)).sum_nat
  rw [List.map_cons, List.sum_cons] at hsum
  have hcount := hperm.length_eq
  rw [List.length_cons] at hcount
  have hindex := h.index
  have hroom := h.space
  have halign := le_align4 (len itemId + 8)
  have htotal : itemTotalLen (len itemId) = len itemId + 8 := rfl
  rintro (hlong | ⟨slots, hlengths, hcontents, hsingle, hfull⟩)
  · omega
  · have hnodup := (hsingle rfl).nodup itemId
    have hsub : (kept slots itemId).map Slot.itemId ⊆ ids.erase itemId := by
      intro itemId' hmem
      obtain ⟨slot, hslot, rfl⟩ := List.mem_map.mp hmem
      obtain ⟨hmem', hcopy⟩ := List.mem_filter.mp hslot
      rw [Bool.and_eq_true, beq_iff_eq, bne_iff_ne] at hcopy
      obtain ⟨i, hget⟩ := List.getElem?_of_mem hmem'
      refine (List.mem_erase_of_ne hcopy.2).mpr (hmap _ ?_)
      rw [← hcontents, contents, hsingle rfl i slot hget hcopy.1, Option.bind_some, hget]
      simp
    have hle := List.Subperm.length_le (List.subperm_of_subset hnodup hsub)
    rw [List.length_map] at hle
    have hrooms := sum_le_of_subset (f := fun itemId => align4 (len itemId + 8)) hnodup hsub
    have hkept : room (kept slots itemId) = (((kept slots itemId).map Slot.itemId).map
        fun itemId => align4 (len itemId + 8)).sum := by
      rw [room, List.map_map]
      congr 1
      refine List.map_congr_left fun slot hslot => ?_
      have hlength := hlengths.kept itemId slot hslot
      rw [Slot.room, hlength]
      rfl
    rcases hfull with hindex' | hroom'
    · omega
    · omega

/-- Items that fit are written, whatever was written before. -/
theorem Fits.write {M : NvModule} (hM : M.HoldsItems) {len : UInt8 → Nat} {ids : List UInt8}
    (hfits : Fits M len ids) {chip : Chip} {map : UInt8 → Option (List UInt8)}
    (h : Holds M len chip.mem map) (hmap : ∀ itemId, map itemId ≠ none → itemId ∈ ids)
    {itemId : UInt8} (hitem : itemId ∈ ids) (hid : itemId ≠ ITEM_FIELD_IDLE) {buf : List UInt8}
    (hlength : buf.length = len itemId) :
    ∃ chip', nvFlashWriteNew M chip true itemId buf (true, true) = (.NV_SUCC, chip') ∧
      Holds M len chip'.mem (written map itemId buf) := by
  obtain ⟨status, chip', hwrite, -, hends⟩ := nvFlashWriteNew_spec hM
    (fun _ _ hlosing => hlosing) h hlength hid (true, true)
  have hnot := hfits.not_full hmap hitem
  rw [← hlength] at hnot
  rcases hends with (⟨rfl, hkept⟩ | ⟨-, -, hfull⟩) | (⟨rfl, hkept⟩ | ⟨-, -, hfull⟩)
  · exact ⟨chip', hwrite, hkept.2⟩
  · exact absurd hfull hnot
  · exact ⟨chip', hwrite, hkept.2⟩
  · exact absurd hfull hnot

/-- The two items of the application fit. -/
theorem appConfig_fits : Fits (appConfig.module NV_MODULE_APP) (appConfig.len NV_MODULE_APP)
    [NV_ITEM_APP_POWER_CNT, NV_ITEM_APP_USER_CFG] :=
  ⟨by decide, by decide, by decide⟩

/-! ## What is read -/

theorem NvMap.write_same (map : NvMap) (id itemId : UInt8) (buf : List UInt8) :
    map.write id itemId buf id itemId = some buf := by
  rw [NvMap.write, Function.update_self, written, Function.update_self]

theorem NvMap.write_other {map : NvMap} {id itemId id' itemId' : UInt8} (buf : List UInt8)
    (hne : ¬ (id' = id ∧ itemId' = itemId)) :
    map.write id' itemId' buf id itemId = map id itemId := by
  rw [NvMap.write]
  by_cases hid : id = id'
  · subst hid
    rw [Function.update_self, written, Function.update_of_ne]
    exact fun heq => hne ⟨rfl, heq.symm⟩
  · rw [Function.update_of_ne hid]

/-- An item stays as it is, or a write of it was carried out, or was cut short behind it. -/
theorem MapStep.item {map map' : NvMap} {event : NvEvent} (h : MapStep map event map')
    (id itemId : UInt8) : map' id itemId = map id itemId ∨ ∃ buf, map' id itemId = some buf ∧
      (event = .write id itemId buf .NV_SUCC ∨ event = .cutWrite id itemId buf) := by
  cases h with
  | write id' itemId' buf =>
      by_cases heq : id' = id ∧ itemId' = itemId
      · obtain ⟨rfl, rfl⟩ := heq
        exact Or.inr ⟨buf, map.write_same id' itemId' buf, Or.inl rfl⟩
      · exact Or.inl (NvMap.write_other buf heq)
  | refuse id' itemId' buf => exact Or.inl rfl
  | read id' itemId' => exact Or.inl rfl
  | cutBefore id' itemId' buf => exact Or.inl rfl
  | cutBehind id' itemId' buf =>
      by_cases heq : id' = id ∧ itemId' = itemId
      · obtain ⟨rfl, rfl⟩ := heq
        exact Or.inr ⟨buf, map.write_same id' itemId' buf, Or.inr rfl⟩
      · exact Or.inl (NvMap.write_other buf heq)
  | cutRead id' itemId' => exact Or.inl rfl

/-- If the items of a module fit in a sector together, and there are buffers, every write of one of
them is carried out, whatever was written before. -/
theorem write_succeeds {M : NvModule} (hM : M.HoldsItems) {len : UInt8 → Nat} {chip : Chip}
    {map : UInt8 → Option (List UInt8)} (h : Holds M len chip.mem map) {ids : List UInt8}
    (hfits : Fits M len ids) (hmap : ∀ itemId, map itemId ≠ none → itemId ∈ ids)
    {itemId : UInt8} (hitem : itemId ∈ ids) (hid : itemId ≠ ITEM_FIELD_IDLE) {buf : List UInt8}
    (hlength : buf.length = len itemId) :
    ∃ chip', nvFlashWriteNew M chip true itemId buf (true, true) = (.NV_SUCC, chip') ∧
      Holds M len chip'.mem (written map itemId buf) :=
  hfits.write hM h hmap hitem hid hlength

/-- The first write of the settings. -/
theorem write_succeeds_app : ∃ chip', nvFlashWriteNew (appConfig.module NV_MODULE_APP) .erased true
      NV_ITEM_APP_USER_CFG (List.replicate 10 1) (true, true) = (.NV_SUCC, chip') ∧
    Holds (appConfig.module NV_MODULE_APP) (appConfig.len NV_MODULE_APP) chip'.mem
      (written (fun _ => none) NV_ITEM_APP_USER_CFG (List.replicate 10 1)) :=
  write_succeeds (by decide) (holds_blank fun _ => rfl) appConfig_fits
    (fun _ hsome => absurd rfl hsome) (by decide) (by decide) (by decide)

/-! ## Cuts that are not survived -/

variable {M : NvModule} {len : UInt8 → Nat} {held : UInt8 → Option (List UInt8)} {sect : Nat}

/-- Where no sector is in use nothing is found. -/
theorem nvFlashReadNew_dead (hM : M.HoldsItems) {chip : Chip} (hfirst : Dead M chip.mem 0)
    (hsecond : Dead M chip.mem 1) (tbl : List (UInt8 × Nat)) (itemId : UInt8) (n : Nat) :
    nvFlashReadNew M tbl chip itemId n = ((.NV_ITEM_NOT_FOUND, []), chip) := by
  have hread : nvSectorRead M chip = (none, chip) := by
    rw [nvSectorRead, nvSectorReadAt_dead hfirst]
    exact nvSectorReadAt_dead hsecond
  rw [nvFlashReadNew, if_neg hM.ne_frameCount, hread]

/-- Between the two bytes of its flag a sector that takes over is not in use. -/
theorem dead_between (hinfo : Stored m₀ (M.sectStart sect)
      (sectInfoOf M NV_SECTOR_VALID_READY_CHECKCRC sect).toBytes) :
    Dead M (programAt m₀ (M.sectStart sect)
      ((Crc.leBytes 2 NV_SECTOR_VALID_CHECKCRC).take 1)) sect := by
  rw [toBytes_sectInfoOf, stored_append] at hinfo
  have hlow := hinfo.1.get (i := 0) (by decide)
  have hhigh := hinfo.1.get (i := 1) (by decide)
  have hlength : ((Crc.leBytes 2 NV_SECTOR_VALID_CHECKCRC).take 1).length = 1 := rfl
  have hfirst : programAt m₀ (M.sectStart sect) ((Crc.leBytes 2 NV_SECTOR_VALID_CHECKCRC).take 1)
      (M.sectStart sect) = 0x7A := by
    rw [Nat.add_zero] at hlow
    rw [programAt_apply, if_pos (Nat.le_refl _), hlow, Nat.sub_self]
    decide
  have hsecond : programAt m₀ (M.sectStart sect) ((Crc.leBytes 2 NV_SECTOR_VALID_CHECKCRC).take 1)
      (M.sectStart sect + 1) = 0xFA := by
    rw [programAt_apart (Or.inr (Nat.le_of_eq (by rw [hlength]))), hhigh]
    decide
  have hused := usedFlag_readInfo M (programAt m₀ (M.sectStart sect)
    ((Crc.leBytes 2 NV_SECTOR_VALID_CHECKCRC).take 1)) sect
  rw [hfirst, hsecond] at hused
  rw [Dead, accepted, sectValidCheck, hused, if_neg (by decide), if_neg]
  rintro ⟨hcheck, -⟩
  exact absurd hcheck (by decide)

theorem sect_lt_of_read (hM : M.Sized) {chip : Chip} (h : Holds M len chip.mem held)
    (hread : (nvSectorRead M chip).1 = some sect) : sect < 2 := by
  rcases nvSectorRead_spec (E := LosingCut M) hM (itemsIn_local hM) (fun _ _ hlosing => hlosing) h
    with ⟨sect', chip', hread', hlive, -⟩ | ⟨hread', -⟩
  · rw [hread'] at hread
    cases hread
    exact hlive.sect_lt
  · rw [hread'] at hread
    cases hread

/-- A write that is carried out changes the sector in use, for want of room or in its second
attempt.  A power cut behind the first byte of its last command, which makes the other sector valid,
leaves neither of the two in use: no item of the module is found any more, not even one that was not
written. -/
theorem sector_change_can_lose (hM : M.HoldsItems) {chip chip' : Chip}
    (h : Holds M len chip.mem held) {itemId : UInt8} {buf : List UInt8}
    (hlength : buf.length = len itemId) (hid : itemId ≠ ITEM_FIELD_IDLE) {allocated : Bool × Bool}
    (hdone : nvFlashWriteNew M chip true itemId buf allocated = (.NV_SUCC, chip'))
    (hread : (nvSectorRead M chip).1 = some sect)
    (hchange : (nvSectorRead M chip').1 ≠ some sect) :
    ∃ cs last, issued chip chip' = cs ++ [last] ∧ ∀ tbl itemId' n', (nvFlashReadNew M tbl
      (chip.run geometry (cutCmds (issued chip chip') cs.length 1)) itemId' n').1 =
        (.NV_ITEM_NOT_FOUND, []) := by
  have hsized := hM.sized
  have hover : TakesOver M (ItemsIn M len (written held itemId buf)) sect chip chip' := by
    rcases nvFlashWriteNew_sector hM h hread hlength hid hdone with hstays | hover
    · exact absurd (congrArg Prod.fst hstays.nvSectorRead) hchange
    · exact hover
  have hsect : sect < 2 := sect_lt_of_read hsized h hread
  rcases hover with ⟨cs, chip₁, hchip₁, hlast, hready, hdead⟩
  have hstart := hsized.sectStart_mod hready.sect_lt
  have hpage : PAGE_SIZE = 256 := rfl
  have hfit : M.sectStart (otherSect sect) % PAGE_SIZE +
      (Crc.leBytes 2 NV_SECTOR_VALID_CHECKCRC).length ≤ PAGE_SIZE := by
    rw [hpage, Crc.leBytes_length]
    omega
  have hfit' : M.sectStart (otherSect sect) % PAGE_SIZE +
      ((Crc.leBytes 2 NV_SECTOR_VALID_CHECKCRC).take 1).length ≤ PAGE_SIZE := by
    rw [List.length_take]
    omega
  have hissued : issued chip chip' = cs ++ [.program (M.sectStart (otherSect sect))
      (Crc.leBytes 2 NV_SECTOR_VALID_CHECKCRC)] := by
    rw [hlast, flashWritePage_of_fit chip₁ hfit, hchip₁, Chip.run_snoc, issued_run]
  have hmem : (chip.run geometry (cutCmds (issued chip chip') cs.length 1)).mem =
      programAt chip₁.mem (M.sectStart (otherSect sect))
        ((Crc.leBytes 2 NV_SECTOR_VALID_CHECKCRC).take 1) := by
    rw [hissued, cutCmds_split, Chip.run_mem, runCmds_append, ← Chip.run_mem, ← hchip₁,
      Cmd.torn, runCmds_cons, runCmds_nil, runCmd_program_of_fit _ hfit']
  have hnew := dead_between hready.info
  have hold : Dead M (programAt chip₁.mem (M.sectStart (otherSect sect))
      ((Crc.leBytes 2 NV_SECTOR_VALID_CHECKCRC).take 1)) sect := by
    have hapart := sect_apart M (otherSect_ne sect)
    have hend := sectEnd_eq M sect
    have hend' := sectEnd_eq M (otherSect sect)
    have hpos := hsized.sector_pos
    have hmod := hsized.sector_mod
    have hlength : ((Crc.leBytes 2 NV_SECTOR_VALID_CHECKCRC).take 1).length = 1 := rfl
    refine hdead.congr fun x hle hx => programAt_apart ?_
    rw [NvModule.idxStart] at hx
    omega
  rw [← hmem] at hnew hold
  have hcases : sect = 0 ∨ sect = 1 := by omega
  refine ⟨cs, _, hissued, fun tbl itemId' n' => ?_⟩
  rcases hcases with rfl | rfl
  · rw [nvFlashReadNew_dead hM hold hnew]
  · rw [nvFlashReadNew_dead hM hnew hold]

/-- So it does if the sector in use has no room for what is to be written. -/
theorem nvFlashWriteNew_moves (hM : M.HoldsItems) {chip chip' : Chip}
    (hlive : Live M len chip.mem NV_SECTOR_VALID_CHECKCRC sect held) {itemId : UInt8}
    {buf : List UInt8} (hlength : buf.length = len itemId) (hid : itemId ≠ ITEM_FIELD_IDLE)
    (hplace : nvPlace M chip.mem sect buf.length = none) {allocated : Bool × Bool}
    (hdone : nvFlashWriteNew M chip true itemId buf allocated = (.NV_SUCC, chip')) :
    TakesOver M (ItemsIn M len (written held itemId buf)) sect chip chip' := by
  obtain ⟨status, chip₁, hupdate, -, hends⟩ := nvFlashWrite_update hM
    (fun _ _ hlosing => hlosing) (Within.refl M chip.mem) hlive hlength hid allocated.1
  have hhandler : nvFlashWriteNewHandler M chip false true itemId buf allocated.1 =
        (.NV_NOT_ENOUGH_SAPCE, chip) ∨
      nvFlashWriteNewHandler M chip false true itemId buf allocated.1 = (status, chip₁) := by
    rw [nvFlashWriteNewHandler]
    split
    · exact Or.inl rfl
    · right
      rw [hlive.nvSectorRead]
      dsimp only
      rw [if_neg (by decide), hplace]
      exact hupdate
  rw [nvFlashWriteNew, if_neg hM.ne_frameCount] at hdone
  rcases hhandler with hlong | hhandler
  · rw [hlong] at hdone
    cases hdone
  · rw [hhandler] at hdone
    rcases hends with ⟨rfl, -, hover⟩ | ⟨rfl, -⟩
    · cases hdone
      exact hover
    · cases hdone

/-- Items of 3000 bytes, of which a sector has room for one, so that the second write of one changes
the sector. -/
theorem sector_change_can_lose_app : ∃ chip chip' : Chip,
    nvFlashWriteNew ⟨.cap1M, NV_MODULE_APP⟩ chip true NV_ITEM_APP_USER_CFG
      (List.replicate 3000 1) (true, true) = (.NV_SUCC, chip') ∧
    ∃ cs last, issued chip chip' = cs ++ [last] ∧
      ∀ tbl itemId' n', (nvFlashReadNew ⟨.cap1M, NV_MODULE_APP⟩ tbl
        (chip.run geometry (cutCmds (issued chip chip') cs.length 1)) itemId' n').1 =
          (.NV_ITEM_NOT_FOUND, []) := by
  have hM : (NvModule.mk .cap1M NV_MODULE_APP).HoldsItems := by decide
  have hfits : Fits ⟨.cap1M, NV_MODULE_APP⟩ (fun _ => 3000) [NV_ITEM_APP_USER_CFG] :=
    ⟨by decide, by decide, by decide⟩
  have hid : NV_ITEM_APP_USER_CFG ≠ ITEM_FIELD_IDLE := by decide
  have hlength : ∀ b : UInt8, (List.replicate 3000 b).length = 3000 :=
    fun _ => List.length_replicate
  have hitem : ∀ {map : UInt8 → Option (List UInt8)}, (∀ itemId, map itemId = none) →
      ∀ itemId, written map NV_ITEM_APP_USER_CFG (List.replicate 3000 0) itemId ≠ none →
        itemId ∈ [NV_ITEM_APP_USER_CFG] := by
    intro map hmap itemId hsome
    by_cases heq : itemId = NV_ITEM_APP_USER_CFG
    · exact List.mem_singleton.mpr heq
    · rw [written, Function.update_of_ne heq] at hsome
      exact absurd (hmap itemId) hsome
  obtain ⟨chip₁, -, hheld⟩ := hfits.write hM (holds_blank (m := Chip.erased.mem) fun _ => rfl)
    (fun _ hsome => absurd rfl hsome) List.mem_cons_self hid (hlength 0)
  rcases nvSectorRead_spec (E := LosingCut ⟨.cap1M, NV_MODULE_APP⟩) hM.sized
    (itemsIn_local hM.sized) (fun _ _ hlosing => hlosing) hheld with
    ⟨sect, chip₂, -, hlive, -⟩ | ⟨-, -, -, hnone⟩
  · obtain ⟨chip', hwrite, -⟩ := hfits.write hM (.valid sect hlive) (hitem fun _ => rfl)
      List.mem_cons_self hid (hlength 1)
    rcases hlive.content with ⟨slots, hne, hsector, hlengths, -⟩
    have hplace : nvPlace ⟨.cap1M, NV_MODULE_APP⟩ chip₂.mem sect
        (List.replicate 3000 (1 : UInt8)).length = none := by
      rw [hlength]
      rcases nvPlace_spec hM.sized hlive.sect_lt hsector hne 3000 with hplace | ⟨-, -, -, hend⟩
      · exact hplace
      · cases slots with
        | nil => exact absurd rfl hne
        | cons slot slots =>
            have hslot : slot.room = align4 (3000 + 8) := by
              rw [Slot.room, hlengths slot List.mem_cons_self]
            have halign : align4 (3000 + 8) = 3008 := rfl
            have hinfo : (NvModule.mk .cap1M NV_MODULE_APP).infoSize = 512 := by decide
            have hsize : (NvModule.mk .cap1M NV_MODULE_APP).sectorSize = 4096 := by decide
            have hend' := sectEnd_eq ⟨.cap1M, NV_MODULE_APP⟩ sect
            rw [NvModule.slotsEnd, room_cons, NvModule.contextStart, itemTotalLen] at hend
            omega
    have hover := nvFlashWriteNew_moves hM hlive (hlength 1) hid hplace hwrite
    have hread := congrArg Prod.fst hlive.nvSectorRead
    have hchange : (nvSectorRead ⟨.cap1M, NV_MODULE_APP⟩ chip').1 ≠ some sect := by
      rw [hover.nvSectorRead hM.sized (itemsIn_local hM.sized), ne_eq, Option.some.injEq]
      exact (otherSect_ne sect).symm
    exact ⟨chip₂, chip', hwrite,
      sector_change_can_lose hM (.valid sect hlive) (hlength 1) hid hwrite hread hchange⟩
  · have hsome := hnone NV_ITEM_APP_USER_CFG
    rw [written, Function.update_self] at hsome
    cases hsome

/-! ## Infos that are torn -/

theorem accepted_ota : ∀ flag ∈ [NV_SECTOR_VALID_CHECKCRC, NV_SECTOR_VALID_READY_CHECKCRC],
    accepted ⟨.cap1M, NV_MODULE_OTA⟩
      (.ofBytes (firstBytes (Crc.leBytes 2 flag ++ [NV_MODULE_OTA, 0]) 3)) = some 3 := by
  decide +kernel

/-- A pass of {lit}`nv_sector_read` finds the sector that the info names. -/
theorem nvSectorReadAt_fst (M : NvModule) (chip : Chip) (i : Nat) :
    (nvSectorReadAt M chip i).1 = accepted M (M.readInfo chip.mem i) := by
  rw [nvSectorReadAt, accepted]
  dsimp only
  split
  · split <;> rfl
  · split
    · split
      · split <;> rfl
      · rfl
    · rfl

theorem nvSectorRead_fst {chip : Chip} (hsect : sect < 2) (h : Dead M chip.mem (otherSect sect)) :
    (nvSectorRead M chip).1 = accepted M (M.readInfo chip.mem sect) := by
  have hcases : sect = 0 ∨ sect = 1 := by omega
  rcases hcases with rfl | rfl
  · have hsecond : nvSectorReadAt M chip 1 = (none, chip) := nvSectorReadAt_dead h
    have hfirst := nvSectorReadAt_fst M chip 0
    rw [nvSectorRead]
    rcases hpass : nvSectorReadAt M chip 0 with ⟨_ | sect, chip'⟩
    · rw [hpass] at hfirst
      rw [nvSectorReadAt_dead hfirst.symm, Prod.mk.injEq] at hpass
      dsimp only
      rw [← hpass.2, hsecond, ← hfirst]
    · rw [← hfirst, hpass]
  · have hfirst : nvSectorReadAt M chip 0 = (none, chip) := nvSectorReadAt_dead h
    rw [nvSectorRead, hfirst]
    exact nvSectorReadAt_fst M chip 1

/-- When power fails while the info of a first sector is written, the driver takes the sector in use
if it finds the whole info, and none otherwise, but for three bytes of an info of
{lit}`NV_MODULE_OTA`: these name a sector that lies behind the module. -/
theorem torn_info (hM : M.HoldsItems) {chip : Chip} (hsect : sect < 2)
    (hblank : Blank chip.mem (M.sectStart sect) 4) (hother : Dead M chip.mem (otherSect sect))
    {flag : Nat} (hflag : InUse flag) {k : Nat} (hk : k ≤ 4) :
    (nvSectorRead M (chip.run geometry
      ((Cmd.program (M.sectStart sect) (sectInfoOf M flag sect).toBytes).torn k))).1 =
        (if k = 4 then some sect else if M.id = NV_MODULE_OTA ∧ k = 3 then some 3 else none) ∧
      M.sectEnd 1 ≤ M.sectStart 3 := by
  have hsized := hM.sized
  have hpage : PAGE_SIZE = 256 := rfl
  have hstart := hsized.sectStart_mod hsect
  have hlength := NvSectInfo.length_toBytes (sectInfoOf M flag sect)
  have htake : ((sectInfoOf M flag sect).toBytes.take k).length ≤ 4 := by
    rw [List.length_take]
    omega
  obtain ⟨chip', hchip'⟩ : ∃ chip', chip' = chip.run geometry
      ((Cmd.program (M.sectStart sect) (sectInfoOf M flag sect).toBytes).torn k) := ⟨_, rfl⟩
  have hmem : chip'.mem =
      programAt chip.mem (M.sectStart sect) ((sectInfoOf M flag sect).toBytes.take k) := by
    rw [hchip', Chip.run_mem, Cmd.torn, runCmds_cons, runCmds_nil, runCmd_program_of_fit]
    rw [hpage]
    omega
  have hinfo : Stored chip'.mem (M.sectStart sect)
      (firstBytes (sectInfoOf M flag sect).toBytes k) := by
    have hzero : Stored chip.mem (M.sectStart sect)
        (firstBytes (sectInfoOf M flag sect).toBytes 0) := by
      rw [stored_firstBytes_zero, hlength]
      exact hblank
    have htorn := stored_torn hzero k
    rwa [Nat.zero_max, ← hmem] at htorn
  have hread : M.readInfo chip'.mem sect =
      .ofBytes (firstBytes (sectInfoOf M flag sect).toBytes k) := by
    have hwhole : readBytes chip'.mem (M.sectStart sect) 4 =
        firstBytes (sectInfoOf M flag sect).toBytes k := by
      rw [Stored, length_firstBytes, hlength] at hinfo
      exact hinfo
    rw [NvModule.readInfo, hwhole]
  have hdead : Dead M chip'.mem (otherSect sect) := by
    have hapart := sect_apart M (otherSect_ne sect)
    have hend := sectEnd_eq M sect
    have hend' := sectEnd_eq M (otherSect sect)
    have hpos := hsized.sector_pos
    have hmod := hsized.sector_mod
    refine hother.congr fun x hle hx => ?_
    rw [hmem]
    rw [NvModule.idxStart] at hx
    exact programAt_apart (by omega)
  have hsecond := sectEnd_eq M 1
  refine ⟨?_, ?_⟩
  · rw [← hchip', nvSectorRead_fst hsect hdead, hread]
    split
    · rename_i hall
      have hstored : Stored chip'.mem (M.sectStart sect) (sectInfoOf M flag sect).toBytes := by
        rwa [firstBytes_all _ (by omega)] at hinfo
      rw [← hread, readInfo_of_stored hflag hstored, accepted_live hflag hsect]
    · rename_i hlt
      split
      · rename_i hota
        have hmem : flag ∈ [NV_SECTOR_VALID_CHECKCRC, NV_SECTOR_VALID_READY_CHECKCRC] := by
          rcases hflag with rfl | rfl <;> simp
        have hid : (sectInfoOf M flag sect).toBytes.take 3 =
            Crc.leBytes 2 flag ++ [NV_MODULE_OTA] := by
          rw [← hota.1]
          rfl
        rw [hota.2, firstBytes, hlength, hid, ← accepted_ota flag hmem]
        rw [accepted, accepted, hota.1]
        rfl
      · rename_i hother
        have hdead' := dead_torn hM.known hflag (by omega)
          (fun hid hthree => hother ⟨hid, hthree⟩) hinfo
        rw [Dead, hread] at hdead'
        exact hdead'
  · rw [NvModule.sectEnd, NvModule.sectStart]
    have hle : (1 + 1) * M.sectorSize ≤ 3 * M.sectorSize := Nat.mul_le_mul_right _ (by decide)
    omega

/-- Three bytes of the first info of the module. -/
theorem torn_info_ota :
    (nvSectorRead ⟨.cap1M, NV_MODULE_OTA⟩ (Chip.erased.run geometry
      ((Cmd.program ((NvModule.mk .cap1M NV_MODULE_OTA).sectStart 0)
        (sectInfoOf ⟨.cap1M, NV_MODULE_OTA⟩ NV_SECTOR_VALID_CHECKCRC 0).toBytes).torn 3))).1 =
        (if 3 = 4 then some 0
          else if NV_MODULE_OTA = NV_MODULE_OTA ∧ 3 = 3 then some 3 else none) ∧
      (NvModule.mk .cap1M NV_MODULE_OTA).sectEnd 1 ≤
        (NvModule.mk .cap1M NV_MODULE_OTA).sectStart 3 :=
  torn_info (by decide) (by decide) (fun _ _ => rfl) (dead_blank fun _ _ => rfl) (Or.inl rfl)
    (by decide)

end NvDriver
