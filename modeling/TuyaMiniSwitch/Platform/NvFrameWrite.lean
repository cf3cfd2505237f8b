import TuyaMiniSwitch.Platform.NvFrameCount

/-!
# Platform - Writing the frame counter

How a value of the frame counter gets into the flash: behind the other values of the sector in use,
as the second value of the other sector when that one is full, or as the first one at all.  When
power fails, a value that is not less may be left in its place.

Main results:

- Theorem {lit}`Counts.write`: a value is put behind the others.
- Theorem {lit}`frameSave_spec`, {lit}`frameRead_spec`: saving and restoring a value, with power
  failing at any time.
-/

namespace NvDriver

open NorFlash FlashDriver

variable {E : Cmd → Nat → Prop} {cap : FlashCap} {ws : List Nat} {m m' m₀ : Mem} {sect v : Nat}

/-! ## A number in the flash -/

theorem readWord_congr {addr : Nat} (hsame : ∀ x, addr ≤ x → x < addr + 4 → m' x = m x) :
    readWord m' addr = readWord m addr := by
  have hbytes : readBytes m' addr 4 = readBytes m addr 4 :=
    readBytes_congr fun i hi => hsame (addr + i) (by omega) (by omega)
  rw [readWord, hbytes, readWord]

theorem readWord_stored {addr : Nat} {bytes : List UInt8} (hlen : bytes.length = 4)
    (h : Stored m addr bytes) : readWord m addr = leNat bytes := by
  have hbytes : readBytes m addr bytes.length = bytes := h
  rw [hlen] at hbytes
  rw [readWord, hbytes]

theorem blank_of_readWord {addr : Nat} (h : readWord m addr = 0xffffffff) : Blank m addr 4 := by
  have hbyte : ∀ x, (m x).toNat = 255 → m x = blank := fun x hx => UInt8.toNat_inj.mp hx
  have h₀ := UInt8.toNat_lt (m addr)
  have h₁ := UInt8.toNat_lt (m (addr + 1))
  have h₂ := UInt8.toNat_lt (m (addr + 2))
  have h₃ := UInt8.toNat_lt (m (addr + 3))
  rw [readWord_eq] at h
  intro i hi
  have hcases : i = 0 ∨ i = 1 ∨ i = 2 ∨ i = 3 := by omega
  rcases hcases with rfl | rfl | rfl | rfl
  · exact hbyte addr (by omega)
  · exact hbyte _ (by omega)
  · exact hbyte _ (by omega)
  · exact hbyte _ (by omega)

theorem readWord_blank {addr : Nat} (h : Blank m addr 4) : readWord m addr = 0xffffffff := by
  have hbyte : ∀ i < 4, (m (addr + i)).toNat = 255 := fun i hi => congrArg UInt8.toNat (h i hi)
  have h₀ := hbyte 0 (by decide)
  have h₁ := hbyte 1 (by decide)
  have h₂ := hbyte 2 (by decide)
  have h₃ := hbyte 3 (by decide)
  rw [readWord_eq]
  rw [Nat.add_zero] at h₀
  omega

/-- What is read when power has failed while a number was written: its upper bytes are missing. -/
def tornWord (v k : Nat) : Nat := leNat (firstBytes (Crc.leBytes 4 v) k)

theorem tornWord_bounds (hv : v < 4294967296) (k : Nat) :
    v ≤ tornWord v k ∧ (k < 4 → 0xff000000 ≤ tornWord v k) ∧ (4 ≤ k → tornWord v k = v) ∧
      (0 < k → v % 256 ≠ 255 → tornWord v k ≠ 0xffffffff) := by
  have hblank : blank.toNat = 255 := rfl
  rcases k with _ | _ | _ | _ | k <;>
    simp only [tornWord, firstBytes, Crc.leBytes, leNat, List.take_succ_cons, List.take_zero,
      List.take_nil, List.length_cons, List.length_nil, List.replicate, List.cons_append,
      List.nil_append, List.append_nil, UInt8.toNat_ofNat', hblank, Nat.reduceAdd, Nat.reduceSub,
      Nat.reduceSubDiff, Nat.zero_sub] <;>
    omega

theorem readWord_torn {addr : Nat} (h : Blank m addr 4) (v k : Nat) :
    readWord (programAt m addr ((Crc.leBytes 4 v).take k)) addr = tornWord v k := by
  have hstored : Stored m addr (firstBytes (Crc.leBytes 4 v) 0) := stored_firstBytes_zero.mpr h
  have htorn := stored_torn hstored k
  rw [Nat.zero_max] at htorn
  exact readWord_stored (by rw [length_firstBytes]; rfl) htorn

/-! ## The numbers of a sector -/

/-- Its numbers tell all that lies behind the info of a sector. -/
theorem Counts.congr (h : Counts cap ws m sect)
    (hsame : ∀ x, (frameModule cap).idxStart sect ≤ x → x < (frameModule cap).sectEnd sect →
      m' x = m x) : Counts cap ws m' sect := by
  refine ⟨h.room, h.set, fun i hi => ?_⟩
  rw [← h.words i hi]
  refine readWord_congr fun x hle hx => hsame x ?_ ?_
  · rw [NvModule.idxStart]
    rw [wordAddr] at hle
    omega
  · rw [sectEnd_eq, frameModule_sectorSize]
    rw [wordAddr] at hx
    omega

/-- An erased sector. -/
theorem counts_blank (h : Blank m ((frameModule cap).sectStart sect) 4096) :
    Counts cap [] m sect := by
  refine ⟨Nat.zero_le _, fun w hw => (nomatch hw), fun i hi => ?_⟩
  rw [readWord_blank (h.sub (by rw [wordAddr]; omega) (by rw [wordAddr]; omega))]
  rfl

/-- One more number. -/
theorem Counts.extend (h : Counts cap ws m sect) (hroom : ws.length < 1023) {w : Nat}
    (hset : w ≠ 0xffffffff) (hword : readWord m' (wordAddr cap sect ws.length) = w)
    (hsame : ∀ x, (x < wordAddr cap sect ws.length ∨ wordAddr cap sect ws.length + 4 ≤ x) →
      m' x = m x) : Counts cap (ws ++ [w]) m' sect := by
  refine ⟨?_, fun x hx => ?_, fun i hi => ?_⟩
  · rw [List.length_append, List.length_singleton]
    exact hroom
  · rcases List.mem_append.mp hx with hold | hnew
    · exact h.set x hold
    · rw [List.mem_singleton.mp hnew]
      exact hset
  · rcases Nat.lt_trichotomy i ws.length with hlt | rfl | hgt
    · have hold : readWord m' (wordAddr cap sect i) = readWord m (wordAddr cap sect i) := by
        refine readWord_congr fun x hle hx => hsame x (Or.inl ?_)
        rw [wordAddr] at hx ⊢
        omega
      rw [hold, h.words i hi, List.getD_eq_getElem?_getD, List.getD_eq_getElem?_getD,
        List.getElem?_append_left hlt]
    · rw [hword, List.getD_eq_getElem?_getD, List.getElem?_concat_length]
      rfl
    · have hold : readWord m' (wordAddr cap sect i) = readWord m (wordAddr cap sect i) := by
        refine readWord_congr fun x hle hx => hsame x (Or.inr ?_)
        rw [wordAddr] at hle ⊢
        omega
      have hnone : (ws ++ [w])[i]? = none := by
        apply List.getElem?_eq_none
        rw [List.length_append, List.length_singleton]
        omega
      rw [hold, h.words i hi, List.getD_eq_getElem?_getD, List.getD_eq_getElem?_getD, hnone,
        List.getElem?_eq_none (by omega)]

/-- The numbers of a sector while one more is written: it is not there yet, or one that is not less
stands in its place. -/
def Growing (ws : List Nat) (v : Nat) (us : List Nat) : Prop :=
  us = ws ∨ ∃ w, v ≤ w ∧ us = ws ++ [w]

/-- Some bytes of a number are put behind the others. -/
theorem Counts.torn (hsect : sect < 2) (h : Counts cap ws m sect) (hroom : ws.length < 1023)
    (v k : Nat) {m' : Mem}
    (hm' : m' = programAt m (wordAddr cap sect ws.length) ((Crc.leBytes 4 v).take k)) :
    Behind (frameModule cap) sect m m' ∧
      Counts cap (if tornWord v k = 0xffffffff then ws else ws ++ [tornWord v k]) m' sect := by
  have hmod := (frameModule_sized cap).sectStart_mod hsect
  have hlen : (Crc.leBytes 4 v).length = 4 := rfl
  have htake := List.length_take_le' k (Crc.leBytes 4 v)
  have hword := h.words ws.length hroom
  rw [List.getD_eq_getElem?_getD, List.getElem?_eq_none (Nat.le_refl _)] at hword
  have hblank : Blank m (wordAddr cap sect ws.length) 4 := blank_of_readWord hword
  rw [hm']
  constructor
  · refine (Behind.refl _ _ _).programAt ?_ ?_
    · rw [NvModule.idxStart, wordAddr]
      omega
    · rw [sectEnd_eq, frameModule_sectorSize, wordAddr]
      omega
  · split
    · -- the bytes that were written are those of erased cells
      rename_i hset
      refine ⟨h.room, h.set, fun i hi => ?_⟩
      rw [← h.words i hi]
      by_cases heq : i = ws.length
      · rw [heq, readWord_torn hblank, hset, hword]
        rfl
      · refine readWord_congr fun x hle hx => programAt_apart ?_
        rw [wordAddr] at hle hx ⊢
        omega
    · rename_i hset
      exact h.extend hroom hset (readWord_torn hblank v k) fun x hx => programAt_apart (by omega)

/-- A number is put behind the others. -/
theorem Counts.write {chip : Chip} (hsect : sect < 2) (h : Counts cap ws chip.mem sect)
    (hroom : ws.length < 1023) (hv : v < 0xffffffff) :
    ∃ chip', flashWriteWithCheck chip (wordAddr cap sect ws.length) (Crc.leBytes 4 v) =
        (true, chip') ∧
      chip' = chip.run geometry [.program (wordAddr cap sect ws.length) (Crc.leBytes 4 v)] ∧
      Behind (frameModule cap) sect chip.mem chip'.mem ∧ Counts cap (ws ++ [v]) chip'.mem sect ∧
      CrashSafe geometry E (fun m => Behind (frameModule cap) sect chip.mem m ∧
        ∃ us, Counts cap us m sect ∧ Growing ws v us) chip chip' := by
  have hmod := (frameModule_sized cap).sectStart_mod hsect
  have hpage : PAGE_SIZE = 256 := rfl
  have hlen : (Crc.leBytes 4 v).length = 4 := rfl
  have hfit : wordAddr cap sect ws.length % PAGE_SIZE + (Crc.leBytes 4 v).length ≤
      PAGE_SIZE := by
    rw [hpage, hlen, wordAddr]
    omega
  have hword := h.words ws.length hroom
  rw [List.getD_eq_getElem?_getD, List.getElem?_eq_none (Nat.le_refl _)] at hword
  have hstored : Stored (programAt chip.mem (wordAddr cap sect ws.length) (Crc.leBytes 4 v))
      (wordAddr cap sect ws.length) (Crc.leBytes 4 v) :=
    stored_programAt (blank_of_readWord hword)
  have hall := (tornWord_bounds (v := v) (by omega) 4).2.2.1 (Nat.le_refl 4)
  have htakeall : (Crc.leBytes 4 v).take 4 = Crc.leBytes 4 v := List.take_of_length_le (by omega)
  obtain ⟨hbehind, hcounts⟩ := h.torn hsect hroom v 4 rfl
  rw [htakeall, hall, if_neg (by omega)] at hcounts
  rw [htakeall] at hbehind
  refine ⟨flashWritePage chip (wordAddr cap sect ws.length) (Crc.leBytes 4 v),
    flashWriteWithCheck_eq hstored, flashWritePage_of_fit chip hfit, ?_, ?_, ?_⟩
  · rw [flashWritePage_mem]
    exact hbehind
  · rw [flashWritePage_mem]
    exact hcounts
  · rw [flashWritePage_of_fit chip hfit]
    refine crashSafe_program fun k _ _ => ?_
    have htake := List.length_take_le' k (Crc.leBytes 4 v)
    rw [runCmd_program_of_fit _ (by omega)]
    obtain ⟨hbehind', hcounts'⟩ := h.torn hsect hroom v k rfl
    refine ⟨hbehind', _, hcounts', ?_⟩
    split
    · exact Or.inl rfl
    · exact Or.inr ⟨_, (tornWord_bounds (by omega) k).1, rfl⟩

/-! ## What a sector is good for -/

/-- A sector with numbers of some kind. -/
def Logged (cap : FlashCap) (R : List Nat → Prop) (m : Mem) (sect : Nat) : Prop :=
  ∃ ws, Counts cap ws m sect ∧ R ws

theorem logged_local (cap : FlashCap) (R : List Nat → Prop) :
    Local (frameModule cap) (Logged cap R) := by
  rintro m m' sect hsame ⟨ws, hcounts, hR⟩
  exact ⟨ws, hcounts.congr hsame, hR⟩

/-- The last number, and a property of the one in front of it where both are compared. -/
def EndsWith (ws : List Nat) (w : Nat) (Q : Nat → Prop) : Prop :=
  ∃ init, ws = init ++ [w] ∧ ∀ p, init.getLast? = some p → 2 ≤ init.length → Q p

/-- The number that is restored is this one. -/
def Synced (b : Nat) (ws : List Nat) : Prop :=
  EndsWith ws b fun p => p ≤ b ∧ b ≤ p + UPDATE_FRAMECOUNT_THRES

/-- The number that is restored is not less than this one. -/
def Sound (b : Nat) (ws : List Nat) : Prop :=
  ∃ w, b ≤ w ∧ EndsWith ws w fun p => p ≤ w ∧ b ≤ p + UPDATE_FRAMECOUNT_THRES

variable {b : Nat}

theorem Synced.sound (h : Synced b ws) : Sound b ws := ⟨b, Nat.le_refl b, h⟩

theorem Synced.sound_of_le {b' : Nat} (h : Synced b ws) (hle : b' ≤ b) : Sound b' ws := by
  rcases h with ⟨init, hws, hprev⟩
  refine ⟨b, hle, init, hws, fun p hp hlen => ?_⟩
  have hbounds := hprev p hp hlen
  omega

theorem Synced.getLast (h : Synced b ws) : ws.getLast? = some b := by
  rcases h with ⟨init, rfl, -⟩
  exact List.getLast?_concat

theorem Synced.ne_nil (h : Synced b ws) : ws ≠ [] := by
  rcases h with ⟨init, rfl, -⟩
  exact List.append_ne_nil_of_right_ne_nil init (List.cons_ne_nil b [])

theorem synced_singleton (v : Nat) : Synced v [v] :=
  ⟨[], rfl, fun _ hp => (nomatch hp)⟩

/-- A number that is near enough is restored once it is written. -/
theorem Synced.append (h : Synced b ws) (hle : b ≤ v) (hnear : v ≤ b + UPDATE_FRAMECOUNT_THRES) :
    Synced v (ws ++ [v]) := by
  refine ⟨ws, rfl, fun p hp _ => ?_⟩
  rw [h.getLast] at hp
  cases hp
  exact ⟨hle, hnear⟩

/-- While it is written nothing less is restored than before. -/
theorem Synced.growing (h : Synced b ws) (hle : b ≤ v) {us : List Nat} (hus : Growing ws v us) :
    Sound b us := by
  rcases hus with rfl | ⟨w, hw, rfl⟩
  · exact h.sound
  · refine ⟨w, Nat.le_trans hle hw, ws, rfl, fun p hp _ => ?_⟩
    rw [h.getLast] at hp
    cases hp
    exact ⟨Nat.le_trans hle hw, Nat.le_add_right _ _⟩

/-! ## Making the other sector ready -/

/-- What the module holds while its other sector is filled. -/
structure Fresh (cap : FlashCap) (P : Mem → Nat → Prop) (m₀ m : Mem) (sect : Nat)
    (us : List Nat) : Prop where
  within : Within (frameModule cap) m₀ m
  live : InForce (frameModule cap) P m NV_SECTOR_VALID_CHECKCRC sect
  info : Blank m ((frameModule cap).sectStart (otherSect sect)) 4
  counts : Counts cap us m (otherSect sect)

variable {P Q : Mem → Nat → Prop} {N : Prop} {us : List Nat}

theorem Fresh.keeping (h : Fresh cap P m₀ m sect us) : Keeping (frameModule cap) P N m₀ m :=
  ⟨h.within, .valid sect h.live⟩

/-- The other sector is erased. -/
theorem fresh_erased (hP : Local (frameModule cap) P) {chip : Chip}
    (hwithin : Within (frameModule cap) m₀ chip.mem)
    (hlive : InForce (frameModule cap) P chip.mem NV_SECTOR_VALID_CHECKCRC sect) :
    Fresh cap P m₀
        (flashEraseSector chip ((frameModule cap).sectStart (otherSect sect))).mem sect [] ∧
      CrashSafe geometry E (Keeping (frameModule cap) P N m₀) chip
        (flashEraseSector chip ((frameModule cap).sectStart (otherSect sect))) := by
  have hM := frameModule_sized cap
  have hlt := otherSect_lt sect
  have hsize := frameModule_sectorSize cap
  have hend := sectEnd_eq (frameModule cap) sect
  have hend' := sectEnd_eq (frameModule cap) (otherSect sect)
  have hapart := sect_apart (frameModule cap) (otherSect_ne sect)
  obtain ⟨chip', hchip'⟩ : ∃ chip', chip' =
      eraseFrom chip ((frameModule cap).sectStart (otherSect sect)) 1 := ⟨_, rfl⟩
  have heq : flashEraseSector chip ((frameModule cap).sectStart (otherSect sect)) = chip' := by
    rw [hchip']
    rfl
  obtain ⟨hmem, hsafe⟩ := eraseFrom_spec (E := E) chip (hM.sectStart_mod hlt) 1
  rw [← hchip'] at hmem hsafe
  have hsector : FLASH_SECTOR_SIZE = 4096 := rfl
  have hinside : ∀ x, erasedTo chip.mem ((frameModule cap).sectStart (otherSect sect)) 1 x ≠
      chip.mem x → (frameModule cap).sectStart (otherSect sect) ≤ x ∧
        x < (frameModule cap).sectEnd (otherSect sect) := by
    intro x hx
    rw [erasedTo] at hx
    split at hx
    · omega
    · exact absurd rfl hx
  have hblank : Blank chip'.mem ((frameModule cap).sectStart (otherSect sect)) 4096 := by
    intro i hi
    rw [hmem, erasedTo, if_pos]
    omega
  have hfresh : Fresh cap P m₀ chip'.mem sect [] := by
    refine ⟨hwithin.trans fun x hx => ?_, hlive.congr hM hP (fun x hle hx => ?_) fun hone => ?_,
      hblank.sub (Nat.le_refl _) (by omega), counts_blank hblank⟩
    · rw [hmem]
      refine Decidable.not_not.mp fun hne => hx ?_
      have hin := hinside x hne
      have hsect := sect_within (frameModule cap) hlt
      omega
    · rw [hmem]
      refine Decidable.not_not.mp fun hne => ?_
      have hin := hinside x hne
      omega
    · have hzero : otherSect sect = 0 := by rw [hone]; rfl
      rw [hzero] at hblank
      exact dead_blank (hblank.sub (Nat.le_refl _) (by omega))
  rw [heq]
  refine ⟨hfresh, hsafe.mono fun m hm => ?_⟩
  rcases hm with ⟨k, hk, rfl⟩
  have hcases : k = 0 ∨ k = 1 := by omega
  rcases hcases with rfl | rfl
  · have hsame : erasedTo chip.mem ((frameModule cap).sectStart (otherSect sect)) 0 =
        chip.mem := by
      funext x
      rw [erasedTo, if_neg (by omega)]
    rw [hsame]
    exact ⟨hwithin, .valid sect hlive⟩
  · rw [← hmem]
    exact hfresh.keeping

/-- A number is written to it. -/
theorem Fresh.write (hP : Local (frameModule cap) P) {chip : Chip}
    (h : Fresh cap P m₀ chip.mem sect us) (hroom : us.length < 1023) (hv : v < 0xffffffff) :
    ∃ chip', flashWriteWithCheck chip (wordAddr cap (otherSect sect) us.length)
        (Crc.leBytes 4 v) = (true, chip') ∧
      Fresh cap P m₀ chip'.mem sect (us ++ [v]) ∧
      CrashSafe geometry E (Keeping (frameModule cap) P N m₀) chip chip' := by
  have hM := frameModule_sized cap
  have hlt := otherSect_lt sect
  obtain ⟨chip', hwrite, -, hbehind, hcounts, hsafe⟩ :=
    h.counts.write (E := E) hlt hroom hv
  have hkept : ∀ m, Behind (frameModule cap) (otherSect sect) chip.mem m →
      Within (frameModule cap) m₀ m ∧
        InForce (frameModule cap) P m NV_SECTOR_VALID_CHECKCRC sect := fun m hm =>
    ⟨h.within.trans (hm.within hlt), h.live.behind hM hP hm⟩
  obtain ⟨hwithin', hlive'⟩ := hkept _ hbehind
  refine ⟨chip', hwrite, ⟨hwithin', hlive', h.info.congr fun x hle hx => hbehind x ?_, hcounts⟩,
    hsafe.mono fun m hm => ?_⟩
  · rw [NvModule.idxStart]
    omega
  · obtain ⟨hwithin, hlive⟩ := hkept m hm.1
    exact ⟨hwithin, .valid sect hlive⟩

/-- It takes over. -/
theorem Fresh.commit (hP : Local (frameModule cap) P) (hE : ∀ c k, LosingCut (frameModule cap) c k →
    E c k) {chip : Chip} (h : Fresh cap P m₀ chip.mem sect us) {R : List Nat → Prop} (hR : R us)
    (ret : Status) :
    ∃ chip', frameCommit cap chip ret true sect (otherSect sect) = (ret, chip') ∧
      Within (frameModule cap) m₀ chip'.mem ∧
      InForce (frameModule cap) (Logged cap R) chip'.mem NV_SECTOR_VALID_CHECKCRC
        (otherSect sect) ∧
      CrashSafe geometry E (fun m => Keeping (frameModule cap) P N m₀ m ∨
        Keeping (frameModule cap) (Logged cap R) N m₀ m) chip chip' := by
  obtain ⟨chip₁, chip₂, chip', hready, hmark, hdone, hwithin, hlive, -, hsafe⟩ :=
    takeOver_spec (N := N) (O := N) (frameModule_known cap) hP (logged_local cap R) hE h.within
      h.live h.info ⟨us, h.counts, hR⟩
  refine ⟨chip', ?_, hwithin, hlive, hsafe⟩
  rw [frameCommit]
  dsimp only
  rw [hready]
  dsimp only
  rw [if_neg (by simp), if_pos rfl, hmark]
  dsimp only
  rw [if_neg (by simp), hdone]

/-! ## Saving a value -/

/-- The module when power may have failed in the last call: what is restored is not less. -/
abbrev Standing (cap : FlashCap) (b : Nat) : Mem → Mem → Prop :=
  Keeping (frameModule cap) (Logged cap (Sound b)) (b = 0)

/-- The module behind a call that was not cut short. -/
abbrev InStep (cap : FlashCap) (b : Nat) (m : Mem) : Prop :=
  Holding (frameModule cap) (Logged cap (Synced b)) (b = 0) m

theorem holding_mono {R R' : List Nat → Prop} {N N' : Prop} (hR : ∀ ws, R ws → R' ws)
    (hN : N → N') (h : Holding (frameModule cap) (Logged cap R) N m) :
    Holding (frameModule cap) (Logged cap R') N' m := by
  have hlive : ∀ {flag sect}, InForce (frameModule cap) (Logged cap R) m flag sect →
      InForce (frameModule cap) (Logged cap R') m flag sect := by
    rintro flag sect ⟨hlt, hinfo, hother, ws, hcounts, hws⟩
    exact ⟨hlt, hinfo, hother, ws, hcounts, hR ws hws⟩
  cases h with
  | valid sect live => exact .valid sect (hlive live)
  | ready sect live markable => exact .ready sect (hlive live) markable
  | empty first second none => exact .empty first second (hN none)

theorem InStep.standing (h : InStep cap b m) (hwithin : Within (frameModule cap) m₀ m) :
    Standing cap b m₀ m :=
  ⟨hwithin, holding_mono (fun _ => Synced.sound) id h⟩

/-- The module behind a value that was written, as one that stands for what was known before. -/
theorem standing_of_le {c : Nat} (hle : b ≤ c) (h : Keeping (frameModule cap)
    (Logged cap (Synced c)) (b = 0) m₀ m) : Standing cap b m₀ m :=
  ⟨h.1, holding_mono (fun _ hws => hws.sound_of_le hle) id h.2⟩

/-- The numbers of a sector, all of them. -/
abbrev Exactly (cap : FlashCap) (ws : List Nat) : Mem → Nat → Prop := Logged cap fun us => us = ws

theorem Exactly.inForce {flag : Nat} (h : InForce (frameModule cap) (Exactly cap ws) m flag sect)
    {R : List Nat → Prop} (hR : R ws) : InForce (frameModule cap) (Logged cap R) m flag sect := by
  rcases h with ⟨hlt, hinfo, hother, us, hcounts, rfl⟩
  exact ⟨hlt, hinfo, hother, us, hcounts, hR⟩

variable {chip : Chip}

theorem frameSector_found {chip' : Chip}
    (h : nvSectorRead (frameModule cap) chip = (some sect, chip')) (errSect : Nat) :
    frameSector cap chip false errSect = (.NV_SUCC, sect, chip') := by
  rw [frameSector, if_neg (by simp), h]

/-- A value is put behind the others of the sector in use. -/
theorem frameAppend_spec (hlive : InForce (frameModule cap) (Logged cap (Synced b)) chip.mem
      NV_SECTOR_VALID_CHECKCRC sect) (hcounts : Counts cap ws chip.mem sect) (hws : Synced b ws)
    (hroom : ws.length < 1023) (hwithin : Within (frameModule cap) m₀ chip.mem) (hle : b ≤ v)
    (hv : v < 0xffffffff) {chip₀ : Chip}
    (hread : nvSectorRead (frameModule cap) chip₀ = (some sect, chip)) :
    ∃ chip', nvNwkFrameCountSaveToFlashHandler cap chip₀ false 0xff v = (.NV_SUCC, chip') ∧
      chip' = chip.run geometry [.program (wordAddr cap sect ws.length) (Crc.leBytes 4 v)] ∧
      InForce (frameModule cap) (Exactly cap (ws ++ [v])) chip'.mem NV_SECTOR_VALID_CHECKCRC
        sect ∧ CrashSafe geometry E (Standing cap b m₀) chip chip' := by
  have hM := frameModule_sized cap
  have hlt := hlive.sect_lt
  have hpos : 0 < ws.length := List.length_pos_iff.mpr hws.ne_nil
  obtain ⟨chip', hwrite, hchip', hbehind, hcounts', hsafe⟩ :=
    hcounts.write (E := E) hlt hroom hv
  have hsearch := hcounts.nvNwkFrameCountSearch hlt
  have hnotend : wordAddr cap sect ws.length ≠ (frameModule cap).sectEnd sect := by
    rw [sectEnd_eq, frameModule_sectorSize, wordAddr]
    omega
  have hnotstart : wordAddr cap sect ws.length ≠ framePayloadStart cap sect := by
    rw [framePayloadStart_eq cap hlt, wordAddr]
    omega
  have hplace : framePlace cap chip sect =
      (some (sect, wordAddr cap sect ws.length, false), chip) := by
    rw [framePlace, hsearch, hws.getLast]
    dsimp only
    rw [if_neg hnotend]
  refine ⟨chip', ?_, hchip', hlive.replace hM hbehind ⟨_, hcounts', rfl⟩,
    hsafe.mono fun m hm => ?_⟩
  · rw [nvNwkFrameCountSaveToFlashHandler, frameSector_found hread]
    dsimp only
    rw [hplace]
    dsimp only
    rw [hwrite]
    dsimp only
    rw [if_neg (by simp), if_neg (by simpa using hnotstart)]
  · rcases hm with ⟨hm, us, hus, hgrowing⟩
    exact ⟨hwithin.trans (hm.within hlt), .valid sect (hlive.replace hM hm
      ⟨us, hus, hws.growing hle hgrowing⟩)⟩

/-- The sector in use is full: the last value and the new one begin the other sector. -/
theorem frameChange_spec (hE : ∀ c k, LosingCut (frameModule cap) c k → E c k)
    (hlive : InForce (frameModule cap) (Logged cap (Synced b)) chip.mem
      NV_SECTOR_VALID_CHECKCRC sect) (hcounts : Counts cap ws chip.mem sect) (hws : Synced b ws)
    (hfull : ws.length = 1023) (hwithin : Within (frameModule cap) m₀ chip.mem) (hle : b ≤ v)
    (hnear : v ≤ b + UPDATE_FRAMECOUNT_THRES) (hv : v < 0xffffffff) {chip₀ : Chip}
    (hread : nvSectorRead (frameModule cap) chip₀ = (some sect, chip)) :
    ∃ chip', nvNwkFrameCountSaveToFlashHandler cap chip₀ false 0xff v = (.NV_SUCC, chip') ∧
      InStep cap v chip'.mem ∧ CrashSafe geometry E (Standing cap b m₀) chip chip' := by
  have hlt := hlive.sect_lt
  have hlt' := otherSect_lt sect
  have hlocal := logged_local cap (Synced b)
  have hstart : framePayloadStart cap (otherSect sect) = wordAddr cap (otherSect sect) 0 := by
    rw [framePayloadStart_eq cap hlt', wordAddr]
  obtain ⟨hfresh₁, hsafe₁⟩ := fresh_erased (E := E) (N := b = 0) hlocal hwithin hlive
  obtain ⟨chip₁, hchip₁⟩ : ∃ chip₁, chip₁ =
      flashEraseSector chip ((frameModule cap).sectStart (otherSect sect)) := ⟨_, rfl⟩
  rw [← hchip₁] at hfresh₁ hsafe₁
  obtain ⟨chip₂, hwrite₂, hfresh₂, hsafe₂⟩ := hfresh₁.write (E := E) (N := b = 0) hlocal
    (Nat.zero_lt_succ _) (Nat.lt_of_le_of_lt hle hv)
  obtain ⟨chip₃, hwrite₃, hfresh₃, hsafe₃⟩ := hfresh₂.write (E := E) (N := b = 0) hlocal
    (v := v) (by simp) hv
  have hnew : Synced v ([] ++ [b] ++ [v]) := (synced_singleton b).append hle hnear
  obtain ⟨chip', hcommit, -, hlive', hsafe'⟩ := hfresh₃.commit (N := b = 0) hlocal hE hnew .NV_SUCC
  have hsearch := hcounts.nvNwkFrameCountSearch hlt
  have hend : wordAddr cap sect ws.length = (frameModule cap).sectEnd sect := by
    rw [sectEnd_eq, frameModule_sectorSize, wordAddr]
    omega
  have herase : (frameModule cap).startAddr + otherSect sect * FLASH_SECTOR_SIZE =
      (frameModule cap).sectStart (otherSect sect) := by
    rw [NvModule.sectStart, frameModule_sectorSize]
    rfl
  have hplace : framePlace cap chip sect =
      (some (otherSect sect, wordAddr cap (otherSect sect) 1, true), chip₂) := by
    rw [framePlace, hsearch, hws.getLast]
    dsimp only
    rw [if_pos hend, herase, ← hchip₁, hstart]
    have hwrite : flashWriteWithCheck chip₁ (wordAddr cap (otherSect sect) 0)
        (Crc.leBytes 4 b) = (true, chip₂) := hwrite₂
    rw [hwrite]
    rfl
  have hfilled := (hsafe₁.trans (hsafe₂.trans hsafe₃)).mono fun m hm =>
    standing_of_le (Nat.le_refl b) hm
  refine ⟨chip', ?_, .valid _ hlive', hfilled.trans (hsafe'.mono fun m hm => ?_)⟩
  · have hwrite : flashWriteWithCheck chip₂ (wordAddr cap (otherSect sect) 1)
        (Crc.leBytes 4 v) = (true, chip₃) := hwrite₃
    rw [nvNwkFrameCountSaveToFlashHandler, frameSector_found hread]
    dsimp only
    rw [hplace]
    dsimp only
    rw [hwrite]
    dsimp only
    rw [if_neg (by simp), if_pos (Or.inl rfl), if_neg (by simp), Bool.true_or]
    exact hcommit
  · rcases hm with hold | hnew
    · exact standing_of_le (Nat.le_refl b) hold
    · exact standing_of_le hle hnew

/-! ## The first value -/

/-- The module is erased, one sector after the other. -/
theorem erased_keeping (hfirst : Dead (frameModule cap) m 0)
    (hsecond : Dead (frameModule cap) m 1) (hnone : b = 0) {k : Nat} (hk : k ≤ 2) :
    Standing cap b m (erasedTo m ((frameModule cap).sectStart 0) k) := by
  have hsize := frameModule_sectorSize cap
  have hsector : FLASH_SECTOR_SIZE = 4096 := rfl
  have hend := sectEnd_eq (frameModule cap) 1
  have hplace : ∀ sect, (frameModule cap).sectStart sect =
      (frameModule cap).sectStart 0 + sect * 4096 := by
    intro sect
    rw [NvModule.sectStart, NvModule.sectStart, hsize, Nat.zero_mul, Nat.add_zero]
  have hnext := hplace 1
  have hdead : ∀ sect < 2, Dead (frameModule cap) m sect →
      Dead (frameModule cap) (erasedTo m ((frameModule cap).sectStart 0) k) sect := by
    intro sect hlt hdead
    have hsect := hplace sect
    by_cases herased : sect < k
    · refine dead_blank fun i hi => ?_
      rw [erasedTo, hsector, if_pos]
      omega
    · refine hdead.congr fun x hle hx => ?_
      rw [NvModule.idxStart] at hx
      rw [erasedTo, hsector, if_neg]
      omega
  refine ⟨fun x hx => ?_, .empty (hdead 0 (by decide) hfirst) (hdead 1 (by decide) hsecond) hnone⟩
  rw [erasedTo, hsector, if_neg]
  omega

/-- What the module holds when both its sectors are erased, up to the info of the first. -/
structure Erased (cap : FlashCap) (m₀ m : Mem) : Prop where
  within : Within (frameModule cap) m₀ m
  info : Blank m ((frameModule cap).sectStart 0) 4
  other : Blank m ((frameModule cap).sectStart 1) 4

theorem Erased.behind (h : Erased cap m₀ m) (hbehind : Behind (frameModule cap) 0 m m') :
    Erased cap m₀ m' := by
  have hone : (0 : Nat) ≠ 1 := by decide
  have hapart := sect_apart (frameModule cap) hone
  have hend := sectEnd_eq (frameModule cap) 0
  have hend' := sectEnd_eq (frameModule cap) 1
  have hsize := frameModule_sectorSize cap
  refine ⟨h.within.trans (hbehind.within Nat.zero_lt_two),
    h.info.congr fun x hle hx => hbehind x ?_, h.other.congr fun x hle hx => hbehind x ?_⟩
  · rw [NvModule.idxStart]
    omega
  · rw [NvModule.idxStart]
    omega

theorem Erased.standing (h : Erased cap m₀ m) (hnone : b = 0) : Standing cap b m₀ m :=
  ⟨h.within, .empty (dead_blank h.info) (dead_blank h.other) hnone⟩

theorem erased_spec (hfirst : Dead (frameModule cap) chip.mem 0)
    (hsecond : Dead (frameModule cap) chip.mem 1) (hnone : b = 0) :
    Erased cap chip.mem (eraseFrom chip (frameModule cap).startAddr 2).mem ∧
      Counts cap [] (eraseFrom chip (frameModule cap).startAddr 2).mem 0 ∧
      CrashSafe geometry E (Standing cap b chip.mem) chip
        (eraseFrom chip (frameModule cap).startAddr 2) := by
  have hsize := frameModule_sectorSize cap
  have hsector : FLASH_SECTOR_SIZE = 4096 := rfl
  have hstart : (frameModule cap).startAddr = (frameModule cap).sectStart 0 := by
    rw [NvModule.sectStart, Nat.zero_mul, Nat.add_zero]
  have hnext : (frameModule cap).sectStart 1 = (frameModule cap).sectStart 0 + 4096 := by
    rw [NvModule.sectStart, ← hstart, hsize]
  rw [hstart]
  obtain ⟨hmem, hsafe⟩ := eraseFrom_spec (E := E) chip
    ((frameModule_sized cap).sectStart_mod Nat.zero_lt_two) 2
  have hblank : Blank (eraseFrom chip ((frameModule cap).sectStart 0) 2).mem
      ((frameModule cap).sectStart 0) 8192 := by
    intro i hi
    rw [hmem, erasedTo, hsector, if_pos]
    omega
  have hwithin := (erased_keeping hfirst hsecond hnone (Nat.le_refl 2)).1
  rw [← hmem] at hwithin
  refine ⟨⟨hwithin, hblank.sub (Nat.le_refl _) (by omega), hblank.sub (by omega) (by omega)⟩,
    counts_blank (hblank.sub (Nat.le_refl _) (by omega)), hsafe.mono fun m hm => ?_⟩
  rcases hm with ⟨k, hk, rfl⟩
  exact erased_keeping hfirst hsecond hnone hk

/-- The first value: both sectors are erased, and the first one is put in use. -/
theorem frameFirst_spec (hE : ∀ c k, LosingCut (frameModule cap) c k → E c k)
    (hfirst : Dead (frameModule cap) chip.mem 0) (hsecond : Dead (frameModule cap) chip.mem 1)
    (hnone : b = 0) (hv : v < 0xffffffff)
    (hread : nvSectorRead (frameModule cap) chip = (none, chip)) :
    ∃ chip', nvNwkFrameCountSaveToFlashHandler cap chip false 0xff v =
        (.NV_ITEM_NOT_FOUND, chip') ∧
      Holding (frameModule cap) (Exactly cap [v]) False chip'.mem ∧
      CrashSafe geometry E (Standing cap b chip.mem) chip chip' := by
  have hzero := Nat.zero_lt_two
  have hflag : InUse NV_SECTOR_VALID_READY_CHECKCRC := Or.inr rfl
  obtain ⟨chip₁, hchip₁⟩ : ∃ chip₁, chip₁ = eraseFrom chip (frameModule cap).startAddr 2 :=
    ⟨_, rfl⟩
  obtain ⟨herased₁, hcounts₁, hsafe₁⟩ := erased_spec (E := E) hfirst hsecond hnone
  rw [← hchip₁] at herased₁ hcounts₁ hsafe₁
  obtain ⟨chip₂, hwrite₂, -, hbehind₂, hcounts₂, hsafe₂⟩ :=
    hcounts₁.write (E := E) hzero (Nat.zero_lt_succ _) hv
  have herased₂ := herased₁.behind hbehind₂
  obtain ⟨chip', hinfo', hmem', hwithin', hlive', hsafe'⟩ := firstInfo_spec
    (P := Exactly cap [v]) (Q := Logged cap (Sound b)) (N := b = 0) (frameModule_known cap)
    (logged_local cap _) hE herased₂.within (dead_blank herased₂.other) herased₂.info
    ⟨_, hcounts₂, rfl⟩ hnone hflag
  have hmarkable : Markable chip'.mem ((frameModule cap).sectStart (otherSect 0)) := by
    have hone : otherSect 0 = 1 := rfl
    have hapart := sect_apart (frameModule cap) (otherSect_ne 0)
    have hend := sectEnd_eq (frameModule cap) (otherSect 0)
    have hend' := sectEnd_eq (frameModule cap) 0
    have hsize := frameModule_sectorSize cap
    have hlen : (sectInfoOf (frameModule cap) NV_SECTOR_VALID_READY_CHECKCRC 0).toBytes.length =
        4 := rfl
    have hbyte : ∀ i < 4, chip'.mem ((frameModule cap).sectStart (otherSect 0) + i) = blank := by
      intro i hi
      rw [hmem', programAt_apart (by omega)]
      exact herased₂.other i hi
    have hbyte₀ := hbyte 0 (by decide)
    rw [Nat.add_zero] at hbyte₀
    rw [Markable, hbyte₀, hbyte 1 (by decide)]
    exact ⟨rfl, rfl⟩
  have hdone : Holding (frameModule cap) (Exactly cap [v]) False chip'.mem :=
    .ready 0 hlive' hmarkable
  refine ⟨chip', ?_, hdone, hsafe₁.trans
    ((hsafe₂.mono fun m hm => (herased₁.behind hm.1).standing hnone).trans
      (hsafe'.mono fun m hm => ?_))⟩
  · have hsearch := hcounts₁.nvNwkFrameCountSearch hzero
    have hplace : framePlace cap chip₁ 0 = (some (0, wordAddr cap 0 0, false), chip₁) := by
      rw [framePlace, hsearch]
      rfl
    have hpayload : wordAddr cap 0 0 = framePayloadStart cap 0 := by
      rw [framePayloadStart_eq cap hzero, wordAddr]
    have hfound : frameSector cap chip false 0xff = (.NV_ITEM_NOT_FOUND, 0, chip₁) := by
      rw [frameSector, if_neg (by simp), hread, hchip₁]
    have hwrite : flashWriteWithCheck chip₁ (wordAddr cap 0 0) (Crc.leBytes 4 v) =
        (true, chip₂) := hwrite₂
    rw [nvNwkFrameCountSaveToFlashHandler, hfound]
    dsimp only
    rw [hplace]
    dsimp only
    rw [hwrite]
    dsimp only
    rw [if_neg (by simp), if_pos (Or.inr hpayload), frameCommit]
    dsimp only
    rw [hinfo']
    rfl
  · rcases hm with hold | rfl
    · exact hold
    · refine ⟨hwithin', holding_mono (fun ws hws => ?_) False.elim hdone⟩
      exact hws ▸ (synced_singleton v).sound_of_le (by omega)

/-- A value is saved.  When power fails, what is restored later is not less than before. -/
theorem frameSave_spec (hE : ∀ c k, LosingCut (frameModule cap) c k → E c k)
    (h : InStep cap b chip.mem) (hle : b ≤ v) (hnear : v ≤ b + UPDATE_FRAMECOUNT_THRES)
    (hv : v < 0xffffffff) :
    InStep cap v (nvNwkFrameCountSaveToFlash cap chip v).mem ∧
      CrashSafe geometry E (Standing cap b chip.mem) chip
        (nvNwkFrameCountSaveToFlash cap chip v) := by
  rcases nvSectorRead_spec (E := E) (frameModule_sized cap) (logged_local cap (Synced b)) hE h with
    ⟨sect, chip₁, hread, hlive, hsafe₁⟩ | ⟨hread, hfirst, hsecond, hnone⟩
  · obtain ⟨ws, hcounts, hws⟩ := hlive.content
    have hwithin := hsafe₁.post.1
    obtain ⟨chip', hhandler, hdone, hsafe⟩ : ∃ chip',
        nvNwkFrameCountSaveToFlashHandler cap chip false 0xff v = (.NV_SUCC, chip') ∧
          InStep cap v chip'.mem ∧ CrashSafe geometry E (Standing cap b chip.mem) chip₁ chip' := by
      rcases Nat.lt_or_ge ws.length 1023 with hroom | hfull
      · obtain ⟨chip', hhandler, -, hlive', hsafe⟩ := frameAppend_spec hlive hcounts hws hroom
          hwithin hle hv hread
        exact ⟨chip', hhandler, .valid sect (Exactly.inForce hlive' (hws.append hle hnear)), hsafe⟩
      · exact frameChange_spec hE hlive hcounts hws (Nat.le_antisymm hcounts.room hfull) hwithin
          hle hnear hv hread
    rw [nvNwkFrameCountSaveToFlash, hhandler]
    exact ⟨hdone, (hsafe₁.mono fun m hm => standing_of_le (Nat.le_refl b) hm).trans hsafe⟩
  · obtain ⟨chip', hhandler, hdone, hsafe⟩ := frameFirst_spec hE hfirst hsecond hnone hv hread
    rw [nvNwkFrameCountSaveToFlash, hhandler]
    refine ⟨holding_mono (fun ws hws => ?_) False.elim hdone, hsafe⟩
    rw [hws]
    exact synced_singleton v

/-! ## Restoring the value -/

/-- The number in front of the last one. -/
theorem Counts.previous (h : Counts cap ws m sect) {init : List Nat} {p w : Nat}
    (hws : ws = init ++ [p] ++ [w]) :
    readWord m (wordAddr cap sect init.length) = p ∧
      readWord m (wordAddr cap sect (init.length + 1)) = w := by
  have hroom := h.room
  have hlen : ws.length = init.length + 2 := by
    rw [hws, List.length_append, List.length_append, List.length_singleton, List.length_singleton]
  constructor
  · rw [h.words _ (by omega), hws, List.append_assoc, List.getD_eq_getElem?_getD,
      List.getElem?_append_right (Nat.le_refl _), Nat.sub_self]
    rfl
  · rw [h.words _ (by omega), hws, List.append_assoc, List.getD_eq_getElem?_getD,
      List.getElem?_append_right (Nat.le_add_right _ 1), Nat.add_sub_cancel_left]
    rfl

/-- The last value is restored, if it is near enough to the one in front of it. -/
theorem restored_last {chip₁ : Chip} (hsect : sect < 2)
    (hread : nvSectorRead (frameModule cap) chip = (some sect, chip₁))
    (h : Counts cap ws chip₁.mem sect) {w : Nat}
    (hws : EndsWith ws w fun p => p ≤ w ∧ w ≤ p + UPDATE_FRAMECOUNT_THRES) :
    nvNwkFrameCountFromFlash cap chip = (some w, chip₁) := by
  rcases hws with ⟨init, hws, hprev⟩
  have hlast : ws.getLast? = some w := by rw [hws, List.getLast?_concat]
  have hlen : ws.length = init.length + 1 := by rw [hws, List.length_append]; rfl
  have hstart := framePayloadStart_eq cap hsect
  rw [nvNwkFrameCountFromFlash, hread]
  dsimp only
  rw [h.nvNwkFrameCountSearch hsect, hlast]
  dsimp only
  by_cases hthree : 2 ≤ init.length
  · obtain ⟨front, p, rfl⟩ : ∃ front p, init = front ++ [p] :=
      ⟨init.dropLast, init.getLast (List.ne_nil_of_length_pos (by omega)),
        (List.dropLast_concat_getLast _).symm⟩
    obtain ⟨hpw, hwp⟩ := hprev p List.getLast?_concat hthree
    rw [List.length_append, List.length_singleton] at hlen hthree
    obtain ⟨hfirst, hsecond⟩ := h.previous hws
    have hw : w < 4294967296 := hsecond ▸ readWord_lt _ _
    have haddr : wordAddr cap sect ws.length - 8 = wordAddr cap sect front.length := by
      rw [hlen, wordAddr, wordAddr]
      omega
    have hnext : wordAddr cap sect front.length + 4 = wordAddr cap sect (front.length + 1) := by
      rw [wordAddr, wordAddr]
      omega
    have hsub : (w + 4294967296 - p) % 4294967296 = w - p := by omega
    rw [if_pos (by rw [hstart, hlen, wordAddr]; omega), haddr, hnext, hfirst, hsecond, hsub,
      if_neg (by omega)]
  · rw [if_neg (by rw [hstart, hlen, wordAddr]; omega)]

/-- A value too far ahead of the one in front of it is replaced, if there are at least three. -/
theorem restored_far {chip₁ : Chip} (hsect : sect < 2)
    (hread : nvSectorRead (frameModule cap) chip = (some sect, chip₁))
    (h : Counts cap ws chip₁.mem sect) {front : List Nat} {p w : Nat}
    (hws : ws = front ++ [p] ++ [w]) (hfront : 0 < front.length)
    (hfar : p + UPDATE_FRAMECOUNT_THRES < w) :
    nvNwkFrameCountFromFlash cap chip = (some (p + UPDATE_FRAMECOUNT_THRES),
      (nvNwkFrameCountSaveToFlashHandler cap chip₁ true sect (p + UPDATE_FRAMECOUNT_THRES)).2) := by
  have hlast : ws.getLast? = some w := by rw [hws, List.getLast?_concat]
  have hlen : ws.length = front.length + 2 := by
    rw [hws, List.length_append, List.length_append, List.length_singleton, List.length_singleton]
  have hstart := framePayloadStart_eq cap hsect
  obtain ⟨hfirst, hsecond⟩ := h.previous hws
  have hw : w < 4294967296 := hsecond ▸ readWord_lt _ _
  have haddr : wordAddr cap sect ws.length - 8 = wordAddr cap sect front.length := by
    rw [hlen, wordAddr, wordAddr]
    omega
  have hnext : wordAddr cap sect front.length + 4 = wordAddr cap sect (front.length + 1) := by
    rw [wordAddr, wordAddr]
    omega
  have hsub : (w + 4294967296 - p) % 4294967296 = w - p := by omega
  have hmod : (p + UPDATE_FRAMECOUNT_THRES) % 4294967296 = p + UPDATE_FRAMECOUNT_THRES :=
    Nat.mod_eq_of_lt (by omega)
  rw [nvNwkFrameCountFromFlash, hread]
  dsimp only
  rw [h.nvNwkFrameCountSearch hsect, hlast]
  dsimp only
  rw [if_pos (by rw [hstart, hlen, wordAddr]; omega), haddr, hnext, hfirst, hsecond, hsub,
    if_pos (by omega), hmod]

/-- A value that is restored instead of one that is too far ahead begins the other sector. -/
theorem frameForce_spec (hE : ∀ c k, LosingCut (frameModule cap) c k → E c k)
    (hlive : InForce (frameModule cap) (Logged cap (Sound b)) chip.mem NV_SECTOR_VALID_CHECKCRC
      sect) (hwithin : Within (frameModule cap) m₀ chip.mem) (hle : b ≤ v) (hv : v < 0xffffffff) :
    ∃ chip', nvNwkFrameCountSaveToFlashHandler cap chip true sect v = (.NV_SUCC, chip') ∧
      InStep cap v chip'.mem ∧ CrashSafe geometry E (Standing cap b m₀) chip chip' := by
  have hlt := otherSect_lt sect
  have hlocal := logged_local cap (Sound b)
  obtain ⟨chip₁, hchip₁⟩ : ∃ chip₁, chip₁ =
      flashEraseSector chip ((frameModule cap).sectStart (otherSect sect)) := ⟨_, rfl⟩
  obtain ⟨hfresh₁, hsafe₁⟩ := fresh_erased (E := E) (N := b = 0) hlocal hwithin hlive
  rw [← hchip₁] at hfresh₁ hsafe₁
  obtain ⟨chip₂, hwrite₂, hfresh₂, hsafe₂⟩ := hfresh₁.write (E := E) (N := b = 0) hlocal
    (Nat.zero_lt_succ _) hv
  obtain ⟨chip', hcommit, -, hlive', hsafe'⟩ := hfresh₂.commit (N := b = 0) hlocal hE
    (synced_singleton v) .NV_SUCC
  have hsector : frameSector cap chip true sect = (.NV_SUCC, otherSect sect, chip₁) := by
    have hcount : (frameModule cap).sectorSize / FLASH_SECTOR_SIZE = 1 := by
      rw [frameModule_sectorSize]
      rfl
    rw [frameSector, if_pos rfl, hcount, hchip₁]
    rfl
  have hplace : framePlace cap chip₁ (otherSect sect) =
      (some (otherSect sect, wordAddr cap (otherSect sect) 0, false), chip₁) := by
    rw [framePlace, hfresh₁.counts.nvNwkFrameCountSearch hlt]
    rfl
  have hpayload : wordAddr cap (otherSect sect) 0 = framePayloadStart cap (otherSect sect) := by
    rw [framePayloadStart_eq cap hlt, wordAddr]
  have hwrite : flashWriteWithCheck chip₁ (wordAddr cap (otherSect sect) 0) (Crc.leBytes 4 v) =
      (true, chip₂) := hwrite₂
  refine ⟨chip', ?_, .valid _ hlive', (hsafe₁.trans hsafe₂).trans (hsafe'.mono fun m hm => ?_)⟩
  · rw [nvNwkFrameCountSaveToFlashHandler, hsector]
    dsimp only
    rw [hplace]
    dsimp only
    rw [hwrite]
    dsimp only
    rw [if_neg (by simp), if_pos (Or.inr hpayload), if_pos rfl, Bool.false_or]
    exact hcommit
  · rcases hm with hold | hnew
    · exact hold
    · exact standing_of_le hle hnew

/-- The value is restored, whenever power failed before. -/
theorem frameRead_spec (hE : ∀ c k, LosingCut (frameModule cap) c k → E c k)
    (h : Holding (frameModule cap) (Logged cap (Sound b)) (b = 0) chip.mem) :
    ∃ result chip', nvNwkFrameCountFromFlash cap chip = (result, chip') ∧ b ≤ result.getD 0 ∧
      InStep cap (result.getD 0) chip'.mem ∧
      CrashSafe geometry E (Standing cap b chip.mem) chip chip' := by
  rcases nvSectorRead_spec (E := E) (frameModule_sized cap) (logged_local cap (Sound b)) hE h with
    ⟨sect, chip₁, hread, hlive, hsafe₁⟩ | ⟨hread, hfirst, hsecond, hnone⟩
  · obtain ⟨ws, hcounts, w, hle, init, hws, hprev⟩ := hlive.content
    have hlt := hlive.sect_lt
    have hlast : ws.getLast? = some w := by rw [hws, List.getLast?_concat]
    have hset : w ≠ 0xffffffff := hcounts.set w (List.mem_of_getLast? hlast)
    by_cases hnear : ∀ p, init.getLast? = some p → 2 ≤ init.length →
        p ≤ w ∧ w ≤ p + UPDATE_FRAMECOUNT_THRES
    · exact ⟨_, chip₁, restored_last hlt hread hcounts ⟨init, hws, hnear⟩, hle, .valid sect
        ⟨hlt, hlive.info, hlive.other, ws, hcounts, init, hws, hnear⟩, hsafe₁⟩
    · -- the last two values are too far apart
      obtain ⟨p, hp, hthree, hfar⟩ : ∃ p, init.getLast? = some p ∧ 2 ≤ init.length ∧
          ¬ (p ≤ w ∧ w ≤ p + UPDATE_FRAMECOUNT_THRES) := by
        simpa only [Classical.not_forall, exists_prop] using hnear
      obtain ⟨front, rfl⟩ := List.getLast?_eq_some_iff.mp hp
      obtain ⟨hpw, hbp⟩ := hprev p hp hthree
      rw [List.length_append, List.length_singleton] at hthree
      have hw : w < 4294967296 := (hcounts.previous hws).2 ▸ readWord_lt _ _
      obtain ⟨chip', hforce, hdone, hsafe⟩ := frameForce_spec hE hlive hsafe₁.post.1 hbp
        (by omega)
      rw [restored_far hlt hread hcounts hws (by omega) (by omega), hforce]
      exact ⟨_, chip', rfl, hbp, hdone, hsafe₁.trans hsafe⟩
  · rw [nvNwkFrameCountFromFlash, hread]
    exact ⟨none, chip, rfl, Nat.le_of_eq hnone, .empty hfirst hsecond rfl,
      crashSafe_refl ⟨Within.refl _ _, h⟩⟩

end NvDriver
