import TuyaMiniSwitch.Library.NorFlash

/-!
# Library - Power cuts all along an operation

An operation on a flash part is judged by what it leaves behind when power fails in it, at
whatever moment.  The judgement composes: an operation that keeps an invariant across every cut,
followed by another one that does, keeps it as well.  Some cuts may be left out of the judgement,
where it does not hold for them.

Main results:

- Theorem {lit}`CrashSafe.trans`: the rule for one operation after another.
- Theorem {lit}`crashSafe_program`, {lit}`crashSafe_erase`: the rules for single commands.
- Theorem {lit}`stored_torn`: what a torn write leaves behind.
-/

namespace NorFlash

variable {g : Geometry} {E : Cmd → Nat → Prop} {I J : Mem → Prop}

/-! ## Stored bytes -/

/-- The bytes at consecutive addresses. -/
def Stored (m : Mem) (addr : Nat) (bytes : List UInt8) : Prop :=
  readBytes m addr bytes.length = bytes

/-- Erased cells at consecutive addresses. -/
def Blank (m : Mem) (addr len : Nat) : Prop := ∀ i < len, m (addr + i) = blank

theorem stored_iff {m : Mem} {addr : Nat} {bytes : List UInt8} :
    Stored m addr bytes ↔ ∀ i < bytes.length, m (addr + i) = bytes.getD i blank := by
  constructor
  · intro h i hi
    have hread : readBytes m addr bytes.length = bytes := h
    have hbyte : (readBytes m addr bytes.length).getD i blank = m (addr + i) :=
      getD_readBytes blank hi
    rw [hread] at hbyte
    exact hbyte.symm
  · intro h
    apply List.ext_getElem (length_readBytes _ _ _)
    intro i hi hi'
    have hbyte := h i hi'
    simp only [readBytes, List.getElem_map, List.getElem_range, hbyte]
    rw [List.getD, List.getElem?_eq_getElem hi', Option.getD_some]

theorem Stored.get {m : Mem} {addr i : Nat} {bytes : List UInt8} (h : Stored m addr bytes)
    (hi : i < bytes.length) : m (addr + i) = bytes.getD i blank := stored_iff.mp h i hi

/-- Bytes lie at the beginning of the memory that is made of them. -/
theorem stored_getD (bytes : List UInt8) : Stored (fun i => bytes.getD i blank) 0 bytes := by
  rw [stored_iff]
  intro i _
  rw [Nat.zero_add]

theorem Stored.congr {m m' : Mem} {addr : Nat} {bytes : List UInt8} (h : Stored m addr bytes)
    (hsame : ∀ x, addr ≤ x → x < addr + bytes.length → m' x = m x) : Stored m' addr bytes := by
  refine (readBytes_congr fun i hi => ?_).trans h
  exact hsame (addr + i) (Nat.le_add_right _ _) (Nat.add_lt_add_left hi _)

theorem Blank.congr {m m' : Mem} {addr len : Nat} (h : Blank m addr len)
    (hsame : ∀ x, addr ≤ x → x < addr + len → m' x = m x) : Blank m' addr len := by
  intro i hi
  rw [hsame _ (Nat.le_add_right _ _) (Nat.add_lt_add_left hi _)]
  exact h i hi

theorem Blank.sub {m : Mem} {addr len addr' len' : Nat} (h : Blank m addr len)
    (hle : addr ≤ addr') (hend : addr' + len' ≤ addr + len) : Blank m addr' len' := by
  intro i hi
  have hcell := h (addr' - addr + i) (by omega)
  rwa [show addr + (addr' - addr + i) = addr' + i by omega] at hcell

theorem readBytes_append (m : Mem) (addr len len' : Nat) :
    readBytes m addr (len + len') = readBytes m addr len ++ readBytes m (addr + len) len' := by
  unfold readBytes
  rw [List.range_add, List.map_append, List.map_map]
  congr 1
  apply List.map_congr_left
  intro i _
  simp [Nat.add_assoc]

theorem stored_append {m : Mem} {addr : Nat} {bytes bytes' : List UInt8} :
    Stored m addr (bytes ++ bytes') ↔
      Stored m addr bytes ∧ Stored m (addr + bytes.length) bytes' := by
  unfold Stored
  rw [List.length_append, readBytes_append]
  constructor
  · intro h
    exact List.append_inj h (length_readBytes _ _ _)
  · rintro ⟨h, h'⟩
    rw [h, h']

theorem programAt_append (m : Mem) (addr : Nat) (bytes bytes' : List UInt8) :
    programAt m addr (bytes ++ bytes') =
      programAt (programAt m addr bytes) (addr + bytes.length) bytes' := by
  induction bytes generalizing m addr with
  | nil => rfl
  | cons b bytes ih =>
      rw [List.cons_append, programAt, programAt, ih, List.length_cons]
      congr 1
      omega

/-- Erased cells take what is written to them. -/
theorem stored_programAt {m : Mem} {addr : Nat} {bytes : List UInt8}
    (hblank : Blank m addr bytes.length) : Stored (programAt m addr bytes) addr bytes := by
  rw [stored_iff]
  exact fun i hi => programAt_blank bytes (hblank i hi)

/-- Writing to other cells. -/
theorem programAt_apart {m : Mem} {addr x : Nat} {bytes : List UInt8}
    (hapart : x < addr ∨ addr + bytes.length ≤ x) : programAt m addr bytes x = m x := by
  rcases hapart with hlt | hge
  · exact programAt_of_lt bytes hlt
  · exact programAt_of_ge hge

theorem Stored.programAt {m : Mem} {addr addr' : Nat} {bytes bytes' : List UInt8}
    (h : Stored m addr bytes)
    (hapart : addr + bytes.length ≤ addr' ∨ addr' + bytes'.length ≤ addr) :
    Stored (programAt m addr' bytes') addr bytes :=
  h.congr fun _ _ _ => programAt_apart (by omega)

theorem Blank.programAt {m : Mem} {addr len addr' : Nat} {bytes : List UInt8}
    (h : Blank m addr len) (hapart : addr + len ≤ addr' ∨ addr' + bytes.length ≤ addr) :
    Blank (programAt m addr' bytes) addr len :=
  h.congr fun _ _ _ => programAt_apart (by omega)

/-- The first bytes of a message in front of erased cells. -/
def firstBytes (bytes : List UInt8) (k : Nat) : List UInt8 :=
  bytes.take k ++ List.replicate (bytes.length - k) blank

@[simp] theorem length_firstBytes (bytes : List UInt8) (k : Nat) :
    (firstBytes bytes k).length = bytes.length := by
  rw [firstBytes, List.length_append, List.length_take, List.length_replicate]
  omega

theorem getD_take_append_replicate (bytes : List UInt8) (k count i : Nat) :
    (bytes.take k ++ List.replicate count blank).getD i blank =
      if i < k then bytes.getD i blank else blank := by
  rw [List.getD, List.getD]
  rcases Nat.lt_or_ge i (bytes.take k).length with hlt | hge
  · have hk : i < k := Nat.lt_of_lt_of_le hlt (List.length_take_le k bytes)
    rw [List.getElem?_append_left hlt, List.getElem?_take, if_pos hk, if_pos hk]
  · have hbehind : (List.replicate count blank)[i - (bytes.take k).length]?.getD blank = blank := by
      rw [List.getElem?_replicate]
      split <;> rfl
    rw [List.getElem?_append_right hge, hbehind]
    split
    · rename_i hk
      have hnone : bytes[i]? = none := by
        rw [List.length_take] at hge
        exact List.getElem?_eq_none (by omega)
      rw [hnone, Option.getD_none]
    · rfl

theorem getD_firstBytes (bytes : List UInt8) (k i : Nat) :
    (firstBytes bytes k).getD i blank = if i < k then bytes.getD i blank else blank :=
  getD_take_append_replicate bytes k _ i

theorem firstBytes_all (bytes : List UInt8) {k : Nat} (hk : bytes.length ≤ k) :
    firstBytes bytes k = bytes := by
  rw [firstBytes, List.take_of_length_le hk, Nat.sub_eq_zero_of_le hk, List.replicate_zero,
    List.append_nil]

theorem stored_firstBytes_zero {m : Mem} {addr : Nat} {bytes : List UInt8} :
    Stored m addr (firstBytes bytes 0) ↔ Blank m addr bytes.length := by
  rw [stored_iff, length_firstBytes]
  simp only [getD_firstBytes, Nat.not_lt_zero, if_false, Blank]

/-- Cells that hold the first bytes of a message, when power fails while it is written to them
once more. -/
theorem stored_torn {m : Mem} {addr j : Nat} {bytes : List UInt8}
    (h : Stored m addr (firstBytes bytes j)) (k : Nat) :
    Stored (programAt m addr (bytes.take k)) addr (firstBytes bytes (max j k)) := by
  rw [stored_iff, length_firstBytes] at h ⊢
  intro i hi
  have hbyte := h i hi
  have htake : (bytes.take k).getD (addr + i - addr) blank =
      if i < k then bytes.getD i blank else blank := by
    have hempty := getD_take_append_replicate bytes k 0 i
    rw [List.replicate_zero, List.append_nil] at hempty
    rwa [Nat.add_sub_cancel_left]
  rw [programAt_apply, if_pos (Nat.le_add_right _ _), htake, hbyte, getD_firstBytes,
    getD_firstBytes]
  by_cases hj : i < j
  · by_cases hk : i < k
    · rw [if_pos hj, if_pos hk, if_pos (by omega)]
      exact UInt8.and_self
    · rw [if_pos hj, if_neg hk, if_pos (by omega)]
      exact and_blank _
  · by_cases hk : i < k
    · rw [if_neg hj, if_pos hk, if_pos (by omega)]
      exact blank_and _
    · rw [if_neg hj, if_neg hk, if_neg (by omega)]
      exact blank_and _

/-! ## Cuts -/

/-- A cut that is not left out. -/
def CutAllowed (E : Cmd → Nat → Prop) (cs : List Cmd) (n k : Nat) : Prop :=
  ∀ c, cs[n]? = some c → ¬ E c k

/-- An operation gives commands to a chip, and an invariant holds whenever power fails. -/
def CrashSafe (g : Geometry) (E : Cmd → Nat → Prop) (I : Mem → Prop) (chip chip' : Chip) :
    Prop :=
  ∃ cs, chip' = chip.run g cs ∧
    ∀ n k, CutAllowed E cs n k → I (runCmds g chip.mem (cutCmds cs n k))

theorem crashSafe_refl {chip : Chip} (h : I chip.mem) : CrashSafe g E I chip chip := by
  refine ⟨[], rfl, fun n k _ => ?_⟩
  rw [cutCmds_of_ge k (Nat.zero_le n)]
  exact h

theorem CrashSafe.run {chip chip' : Chip} (h : CrashSafe g E I chip chip') :
    ∃ cs, chip' = chip.run g cs := by
  rcases h with ⟨cs, hrun, -⟩
  exact ⟨cs, hrun⟩

/-- What a power cut in an operation leaves behind. -/
theorem CrashSafe.cut {chip chip' : Chip} (h : CrashSafe g E I chip chip') {n k : Nat}
    (hallowed : CutAllowed E (issued chip chip') n k) :
    I (chip.run g (cutCmds (issued chip chip') n k)).mem := by
  rcases h with ⟨cs, rfl, hcut⟩
  rw [issued_run] at hallowed ⊢
  rw [Chip.run_mem]
  exact hcut n k hallowed

/-- The invariant holds behind the operation. -/
theorem CrashSafe.post {chip chip' : Chip} (h : CrashSafe g E I chip chip') : I chip'.mem := by
  rcases h with ⟨cs, rfl, hcut⟩
  have hlast := hcut cs.length 0 fun c hc => by
    rw [List.getElem?_eq_none (Nat.le_refl _)] at hc
    cases hc
  rwa [cutCmds_of_ge 0 (Nat.le_refl _), ← Chip.run_mem] at hlast

theorem CrashSafe.mono {chip chip' : Chip} (h : CrashSafe g E I chip chip')
    (hIJ : ∀ m, I m → J m) : CrashSafe g E J chip chip' := by
  rcases h with ⟨cs, hrun, hcut⟩
  exact ⟨cs, hrun, fun n k hallowed => hIJ _ (hcut n k hallowed)⟩

theorem cutCmds_append_left {cs ds : List Cmd} {n : Nat} (k : Nat) (hlt : n < cs.length) :
    cutCmds (cs ++ ds) n k = cutCmds cs n k := by
  have hget : (cs ++ ds)[n]? = cs[n]? := List.getElem?_append_left hlt
  unfold cutCmds
  rw [hget, List.getElem?_eq_getElem hlt, List.take_append_of_le_length (by omega)]

theorem cutCmds_append_right {cs ds : List Cmd} {n : Nat} (k : Nat) (hge : cs.length ≤ n) :
    cutCmds (cs ++ ds) n k = cs ++ cutCmds ds (n - cs.length) k := by
  have hget : (cs ++ ds)[n]? = ds[n - cs.length]? := List.getElem?_append_right hge
  unfold cutCmds
  rw [hget]
  cases ds[n - cs.length]? with
  | none => rfl
  | some c =>
      dsimp only
      rw [List.take_append, List.take_of_length_le hge, List.append_assoc]

/-- One operation after another. -/
theorem CrashSafe.trans {chip chip' chip'' : Chip} (h : CrashSafe g E I chip chip')
    (h' : CrashSafe g E I chip' chip'') : CrashSafe g E I chip chip'' := by
  rcases h with ⟨cs, rfl, hcut⟩
  rcases h' with ⟨ds, rfl, hcut'⟩
  refine ⟨cs ++ ds, (chip.run_append g cs ds).symm, fun n k hallowed => ?_⟩
  rcases Nat.lt_or_ge n cs.length with hlt | hge
  · rw [cutCmds_append_left k hlt]
    refine hcut n k fun c hc => hallowed c ?_
    rw [List.getElem?_append_left hlt]
    exact hc
  · rw [cutCmds_append_right k hge, runCmds_append]
    rw [Chip.run_mem] at hcut'
    refine hcut' (n - cs.length) k fun c hc => hallowed c ?_
    rw [List.getElem?_append_right hge]
    exact hc

/-- A command that is cut has left a prefix of its data bytes. -/
theorem crashSafe_program {chip : Chip} {addr : Nat} {bytes : List UInt8}
    (h : ∀ k ≤ bytes.length, (k < bytes.length → ¬ E (.program addr bytes) k) →
      I (runCmd g chip.mem (.program addr (bytes.take k)))) :
    CrashSafe g E I chip (chip.exec g (.program addr bytes)) := by
  refine ⟨[.program addr bytes], rfl, fun n k hallowed => ?_⟩
  rcases Nat.eq_zero_or_pos n with rfl | hpos
  · have hnot := hallowed _ rfl
    have hcut : cutCmds [.program addr bytes] 0 k = [.program addr (bytes.take k)] := rfl
    rw [hcut, runCmds_cons, runCmds_nil]
    rcases Nat.lt_or_ge k bytes.length with hlt | hge
    · exact h k (Nat.le_of_lt hlt) fun _ => hnot
    · rw [List.take_of_length_le hge]
      have hall := h bytes.length (Nat.le_refl _) fun hlt => absurd hlt (Nat.lt_irrefl _)
      rwa [List.take_length] at hall
  · rw [cutCmds_of_ge k hpos, runCmds_cons, runCmds_nil]
    have hall := h bytes.length (Nat.le_refl _) fun hlt => absurd hlt (Nat.lt_irrefl _)
    rwa [List.take_length] at hall

/-- An erase that is cut has not begun. -/
theorem crashSafe_erase {chip : Chip} {addr : Nat} (hbefore : I chip.mem)
    (hafter : I (eraseSector g chip.mem addr)) :
    CrashSafe g E I chip (chip.exec g (.erase addr)) := by
  refine ⟨[.erase addr], rfl, fun n k _ => ?_⟩
  rcases Nat.eq_zero_or_pos n with rfl | hpos
  · exact hbefore
  · rw [cutCmds_of_ge k hpos]
    exact hafter

end NorFlash
