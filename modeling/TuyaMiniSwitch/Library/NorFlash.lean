import Mathlib.Tactic.Common

/-!
# Library - NOR flash behind a command interface

A NOR flash part takes commands.  Erasing sets a whole sector to ones, and
programming can only clear bits: the byte that ends up in a cell is the bitwise
AND of the old byte and the data byte.  A programming command stays inside the
page it starts in, so data that runs over the end of the page comes back at the
beginning of the same page.

A chip records the commands it was given.  A power cut leaves a prefix of them,
with a prefix of the data bytes of the command it interrupts.

Main results:

- Theorem {lit}`pageProgram_eq_programAt`: data that fits into its page is
  programmed at consecutive addresses.
- Theorem {lit}`runCmds_frame`: commands that do not alter an address leave the
  byte there alone.
- Theorem {lit}`issued_run`: the trace of a chip holds exactly the commands it
  was given.
-/

namespace NorFlash

/-- The contents of a flash part. -/
abbrev Mem := Nat → UInt8

/-- The value of an erased cell. -/
def blank : UInt8 := 0xFF

theorem and_blank (b : UInt8) : b &&& blank = b := UInt8.and_neg_one

theorem blank_and (b : UInt8) : blank &&& b = b := UInt8.neg_one_and

/-- The granularity of programming and of erasing. -/
structure Geometry where
  pageSize : Nat
  sectorSize : Nat
  pageSize_pos : 0 < pageSize
  sectorSize_pos : 0 < sectorSize

/-- The commands a flash part takes. -/
inductive Cmd where
  | read (addr len : Nat)
  | erase (addr : Nat)
  | program (addr : Nat) (bytes : List UInt8)
  | writeStatus (bytes : List UInt8)
  deriving Repr, DecidableEq

/-! ## Memory operations -/

/-- The bytes a read command returns. -/
def readBytes (m : Mem) (addr len : Nat) : List UInt8 :=
  (List.range len).map fun i => m (addr + i)

/-- Set every byte of the sector that holds an address to ones. -/
def eraseSector (g : Geometry) (m : Mem) (addr : Nat) : Mem := fun x =>
  if x / g.sectorSize = addr / g.sectorSize then blank else m x

/-- Program one byte. -/
def programByte (m : Mem) (addr : Nat) (b : UInt8) : Mem := fun x =>
  if x = addr then m x &&& b else m x

/-- Program bytes at consecutive addresses. -/
def programAt (m : Mem) (addr : Nat) : List UInt8 → Mem
  | [] => m
  | b :: bs => programAt (programByte m addr b) (addr + 1) bs

/-- The address the next data byte goes to: a page wraps around. -/
def pageNext (g : Geometry) (addr : Nat) : Nat :=
  if (addr + 1) % g.pageSize = 0 then addr + 1 - g.pageSize else addr + 1

/-- Program bytes inside one page. -/
def pageProgram (g : Geometry) (m : Mem) (addr : Nat) : List UInt8 → Mem
  | [] => m
  | b :: bs => pageProgram g (programByte m addr b) (pageNext g addr) bs

@[simp] theorem length_readBytes (m : Mem) (addr len : Nat) :
    (readBytes m addr len).length = len := by
  simp [readBytes]

theorem getD_readBytes {m : Mem} {addr len i : Nat} (d : UInt8) (hlt : i < len) :
    (readBytes m addr len).getD i d = m (addr + i) := by
  simp [readBytes, List.getD, hlt]

theorem readBytes_congr {m m' : Mem} {addr len : Nat}
    (hsame : ∀ i, i < len → m (addr + i) = m' (addr + i)) :
    readBytes m addr len = readBytes m' addr len := by
  unfold readBytes
  apply List.map_congr_left
  intro i hi
  exact hsame i (List.mem_range.mp hi)

/-- What programming leaves at an address: beyond the data, a missing byte acts
as a byte of ones. -/
theorem programAt_apply (m : Mem) (addr : Nat) (bs : List UInt8) (x : Nat) :
    programAt m addr bs x =
      if addr ≤ x then m x &&& bs.getD (x - addr) blank else m x := by
  induction bs generalizing m addr with
  | nil => simp [programAt, and_blank]
  | cons b bs ih =>
      rw [programAt, ih]
      rcases Nat.lt_trichotomy x addr with hlt | rfl | hgt
      · have hnot : ¬ addr + 1 ≤ x := by omega
        have hnot' : ¬ addr ≤ x := by omega
        have hne : x ≠ addr := by omega
        simp [programByte, hnot, hnot', hne]
      · have hnot : ¬ x + 1 ≤ x := by omega
        simp [programByte, hnot]
      · have hle : addr + 1 ≤ x := by omega
        have hle' : addr ≤ x := by omega
        have hne : x ≠ addr := by omega
        have hsub : x - addr = (x - (addr + 1)) + 1 := by omega
        simp [programByte, hle, hle', hne, hsub]

theorem programAt_of_lt {m : Mem} {addr x : Nat} (bs : List UInt8) (hlt : x < addr) :
    programAt m addr bs x = m x := by
  rw [programAt_apply, if_neg (by omega)]

theorem programAt_of_ge {m : Mem} {addr x : Nat} {bs : List UInt8}
    (hge : addr + bs.length ≤ x) : programAt m addr bs x = m x := by
  rw [programAt_apply]
  split
  · have hnone : bs[x - addr]? = none := List.getElem?_eq_none (by omega)
    rw [List.getD, hnone]
    exact and_blank (m x)
  · rfl

/-- Programming erased cells stores the data itself. -/
theorem programAt_blank {m : Mem} {addr i : Nat} (bs : List UInt8)
    (hblank : m (addr + i) = blank) :
    programAt m addr bs (addr + i) = bs.getD i blank := by
  rw [programAt_apply, if_pos (by omega), hblank, blank_and]
  congr 1
  omega

/-- Inside one page the wrap-around of the page does not show. -/
theorem pageProgram_eq_programAt (g : Geometry) (m : Mem) (addr : Nat) (bs : List UInt8)
    (hfit : addr % g.pageSize + bs.length ≤ g.pageSize) :
    pageProgram g m addr bs = programAt m addr bs := by
  induction bs generalizing m addr with
  | nil => rfl
  | cons b bs ih =>
      rw [pageProgram, programAt]
      cases bs with
      | nil => rfl
      | cons c bs =>
          simp only [List.length_cons] at hfit ih
          -- at least one more byte follows, so the page end is not reached here
          have hone : 1 % g.pageSize = 1 := Nat.mod_eq_of_lt (by omega)
          have hmod : (addr + 1) % g.pageSize = addr % g.pageSize + 1 := by
            rw [Nat.add_mod, hone]
            exact Nat.mod_eq_of_lt (by omega)
          have hnext : pageNext g addr = addr + 1 := by
            simp [pageNext, hmod]
          rw [hnext]
          exact ih _ _ (by omega)

/-! ## Commands -/

/-- The memory after a command. -/
def runCmd (g : Geometry) (m : Mem) : Cmd → Mem
  | .read _ _ => m
  | .erase addr => eraseSector g m addr
  | .program addr bytes => pageProgram g m addr bytes
  | .writeStatus _ => m

/-- The memory after a sequence of commands. -/
def runCmds (g : Geometry) (m : Mem) (cs : List Cmd) : Mem := cs.foldl (runCmd g) m

/-- What a command leaves behind when power fails after so many of its data
bytes: a programming command keeps the bytes already programmed, the others have
no effect until they are complete. -/
def Cmd.torn (k : Nat) : Cmd → List Cmd
  | .program addr bytes => [.program addr (bytes.take k)]
  | _ => []

/-- What a command sequence comes to when power fails in it: the first {lit}`n`
commands are complete and {lit}`k` data bytes of the next one were programmed. -/
def cutCmds (cs : List Cmd) (n k : Nat) : List Cmd :=
  match cs[n]? with
  | some c => cs.take n ++ c.torn k
  | none => cs

/-- A command may change the byte at an address. -/
def Cmd.Alters (g : Geometry) (x : Nat) : Cmd → Prop
  | .erase addr => x / g.sectorSize = addr / g.sectorSize
  | .program addr bytes => bytes ≠ [] ∧ x / g.pageSize = addr / g.pageSize ∧
      (addr % g.pageSize + bytes.length ≤ g.pageSize → addr ≤ x ∧ x < addr + bytes.length)
  | _ => False

@[simp] theorem runCmds_nil (g : Geometry) (m : Mem) : runCmds g m [] = m := rfl

@[simp] theorem runCmds_cons (g : Geometry) (m : Mem) (c : Cmd) (cs : List Cmd) :
    runCmds g m (c :: cs) = runCmds g (runCmd g m c) cs := rfl

theorem runCmds_append (g : Geometry) (m : Mem) (cs ds : List Cmd) :
    runCmds g m (cs ++ ds) = runCmds g (runCmds g m cs) ds := by
  simp [runCmds]

theorem pageNext_div (g : Geometry) (addr : Nat) :
    pageNext g addr / g.pageSize = addr / g.pageSize := by
  have hpos := g.pageSize_pos
  have hdiv := Nat.div_add_mod addr g.pageSize
  have hlt := Nat.mod_lt addr hpos
  unfold pageNext
  split
  · rename_i hzero
    have hdvd := Nat.dvd_of_mod_eq_zero hzero
    rcases hdvd with ⟨q, hq⟩
    have hqpos : 0 < q := by
      rcases Nat.eq_zero_or_pos q with rfl | h
      · simp at hq
      · exact h
    obtain ⟨r, rfl⟩ : ∃ r, q = r + 1 := ⟨q - 1, by omega⟩
    have haddr : addr = g.pageSize * r + (g.pageSize - 1) := by
      rw [Nat.mul_add] at hq
      omega
    have hsub : addr + 1 - g.pageSize = g.pageSize * r := by
      rw [Nat.mul_add] at hq
      omega
    rw [hsub, haddr, Nat.mul_div_cancel_left _ hpos, Nat.mul_add_div hpos,
      Nat.div_eq_of_lt (by omega), Nat.add_zero]
  · rename_i hne
    rw [Nat.succ_div, if_neg (fun h => hne (Nat.mod_eq_zero_of_dvd h)), Nat.add_zero]

/-- A programming command leaves the other pages alone. -/
theorem pageProgram_of_page_ne {g : Geometry} {addr x : Nat} (m : Mem) (bs : List UInt8)
    (hpage : x / g.pageSize ≠ addr / g.pageSize) : pageProgram g m addr bs x = m x := by
  induction bs generalizing m addr with
  | nil => rfl
  | cons b bs ih =>
      rw [pageProgram, ih _ (by rw [pageNext_div]; exact hpage)]
      have hne : x ≠ addr := fun h => hpage (by rw [h])
      simp [programByte, hne]

/-- A command that does not alter an address leaves its byte alone. -/
theorem runCmd_frame {g : Geometry} {c : Cmd} {x : Nat} (m : Mem) (hno : ¬ c.Alters g x) :
    runCmd g m c x = m x := by
  cases c with
  | read addr len => rfl
  | writeStatus bytes => rfl
  | erase addr =>
      simp only [Cmd.Alters] at hno
      simp [runCmd, eraseSector, hno]
  | program addr bytes =>
      simp only [Cmd.Alters, not_and] at hno
      by_cases hnil : bytes = []
      · subst hnil
        rfl
      by_cases hpage : x / g.pageSize = addr / g.pageSize
      · have hfit := hno hnil hpage
        rw [Classical.not_imp] at hfit
        rw [runCmd, pageProgram_eq_programAt g m addr bytes hfit.1]
        rcases Nat.lt_or_ge x addr with hlt | hge
        · exact programAt_of_lt bytes hlt
        · exact programAt_of_ge (by omega)
      · exact pageProgram_of_page_ne m bytes hpage

/-- Commands that do not alter an address leave its byte alone. -/
theorem runCmds_frame {g : Geometry} {cs : List Cmd} {x : Nat} (m : Mem)
    (hno : ∀ c ∈ cs, ¬ c.Alters g x) : runCmds g m cs x = m x := by
  induction cs generalizing m with
  | nil => rfl
  | cons c cs ih =>
      rw [runCmds_cons, ih _ (fun d hd => hno d (List.mem_cons_of_mem c hd))]
      exact runCmd_frame m (hno c List.mem_cons_self)

/-! ## Power cuts -/

/-- A cut behind the last command is no cut. -/
theorem cutCmds_of_ge {cs : List Cmd} {n : Nat} (k : Nat) (hge : cs.length ≤ n) :
    cutCmds cs n k = cs := by
  simp [cutCmds, hge]

theorem cutCmds_of_get {cs : List Cmd} {n : Nat} {c : Cmd} (k : Nat)
    (hget : cs[n]? = some c) : cutCmds cs n k = cs.take n ++ c.torn k := by
  simp [cutCmds, hget]

theorem cutCmds_split (before : List Cmd) (c : Cmd) (after : List Cmd) (k : Nat) :
    cutCmds (before ++ c :: after) before.length k = before ++ c.torn k := by
  have hget : (before ++ c :: after)[before.length]? = some c := by
    rw [List.getElem?_append_right (Nat.le_refl _), Nat.sub_self]
    rfl
  rw [cutCmds_of_get k hget, List.take_left]

/-- A cut between two commands. -/
theorem runCmds_cutCmds_zero (g : Geometry) (m : Mem) (before : List Cmd) (c : Cmd)
    (after : List Cmd) :
    runCmds g m (cutCmds (before ++ c :: after) before.length 0) = runCmds g m before := by
  rw [cutCmds_split, runCmds_append]
  cases c <;> rfl

/-! ## Chips -/

/-- A flash part together with the commands it was given, oldest first. -/
structure Chip where
  mem : Mem
  trace : List Cmd

/-- A chip on which every cell is erased. -/
def Chip.erased : Chip where
  mem := fun _ => blank
  trace := []

/-- Give a chip a command. -/
def Chip.exec (g : Geometry) (chip : Chip) (c : Cmd) : Chip where
  mem := runCmd g chip.mem c
  trace := chip.trace ++ [c]

/-- Give a chip a sequence of commands. -/
def Chip.run (g : Geometry) (chip : Chip) (cs : List Cmd) : Chip :=
  cs.foldl (Chip.exec g) chip

/-- The commands a chip was given since an earlier moment. -/
def issued (before after : Chip) : List Cmd := after.trace.drop before.trace.length

@[simp] theorem Chip.run_nil (g : Geometry) (chip : Chip) : chip.run g [] = chip := rfl

@[simp] theorem Chip.run_cons (g : Geometry) (chip : Chip) (c : Cmd) (cs : List Cmd) :
    chip.run g (c :: cs) = (chip.exec g c).run g cs := rfl

theorem Chip.run_snoc (g : Geometry) (chip : Chip) (cs : List Cmd) (c : Cmd) :
    (chip.run g cs).exec g c = chip.run g (cs ++ [c]) := by
  simp [Chip.run]

theorem Chip.run_append (g : Geometry) (chip : Chip) (cs ds : List Cmd) :
    chip.run g (cs ++ ds) = (chip.run g cs).run g ds := by
  simp [Chip.run]

@[simp] theorem Chip.run_mem (g : Geometry) (chip : Chip) (cs : List Cmd) :
    (chip.run g cs).mem = runCmds g chip.mem cs := by
  induction cs generalizing chip with
  | nil => rfl
  | cons c cs ih =>
      rw [Chip.run_cons, ih, runCmds_cons]
      rfl

@[simp] theorem Chip.run_trace (g : Geometry) (chip : Chip) (cs : List Cmd) :
    (chip.run g cs).trace = chip.trace ++ cs := by
  induction cs generalizing chip with
  | nil => simp
  | cons c cs ih =>
      rw [Chip.run_cons, ih]
      simp [Chip.exec]

@[simp] theorem issued_run (g : Geometry) (chip : Chip) (cs : List Cmd) :
    issued chip (chip.run g cs) = cs := by
  simp [issued]

/-! ## Discipline of a command sequence -/

/-- Nothing but read commands. -/
def OnlyReads (cs : List Cmd) : Prop := ∀ c ∈ cs, ∃ addr len, c = .read addr len

theorem onlyReads_nil : OnlyReads [] := by
  intro c hc
  cases hc

theorem OnlyReads.snoc {cs : List Cmd} (hcs : OnlyReads cs) (addr len : Nat) :
    OnlyReads (cs ++ [.read addr len]) := by
  intro c hc
  rcases List.mem_append.mp hc with hc | hc
  · exact hcs c hc
  · exact ⟨addr, len, List.mem_singleton.mp hc⟩

theorem OnlyReads.not_alters {cs : List Cmd} (hcs : OnlyReads cs) (g : Geometry) (x : Nat) :
    ∀ c ∈ cs, ¬ c.Alters g x := by
  intro c hc
  rcases hcs c hc with ⟨addr, len, rfl⟩
  exact id

/-- Reading changes nothing. -/
theorem OnlyReads.runCmds {cs : List Cmd} (hcs : OnlyReads cs) (g : Geometry) (m : Mem) :
    runCmds g m cs = m := by
  funext x
  exact runCmds_frame m (hcs.not_alters g x)

/-- Every programming command finds erased cells under its data. -/
def ProgramsErased (g : Geometry) (m : Mem) : List Cmd → Prop
  | [] => True
  | c :: cs =>
      (match c with
        | .program addr bytes => ∀ i, i < bytes.length → m (addr + i) = blank
        | _ => True) ∧ ProgramsErased g (runCmd g m c) cs

/-- No byte is altered by a command that comes before the command that reads it. -/
def ReadsUndisturbed (g : Geometry) (cs : List Cmd) : Prop :=
  ∀ before addr len after, cs = before ++ .read addr len :: after →
    ∀ c ∈ before, ∀ i, i < len → ¬ c.Alters g (addr + i)

theorem programsErased_append (g : Geometry) (m : Mem) (cs ds : List Cmd) :
    ProgramsErased g m (cs ++ ds) ↔
      ProgramsErased g m cs ∧ ProgramsErased g (runCmds g m cs) ds := by
  induction cs generalizing m with
  | nil => exact ⟨fun h => ⟨trivial, h⟩, fun h => h.2⟩
  | cons c cs ih =>
      show (_ ∧ ProgramsErased g (runCmd g m c) (cs ++ ds)) ↔
        (_ ∧ ProgramsErased g (runCmd g m c) cs) ∧ _
      rw [ih, runCmds_cons, and_assoc]

/-- A split of a longer sequence in front of a read command is a split of the shorter
one, or the read command is the one that was added. -/
theorem split_snoc {cs before after : List Cmd} {d : Cmd} {addr len : Nat}
    (hsplit : cs ++ [d] = before ++ .read addr len :: after) :
    (before = cs ∧ d = .read addr len) ∨
      ∃ after', cs = before ++ .read addr len :: after' := by
  rcases List.eq_nil_or_concat after with rfl | ⟨after', e, rfl⟩
  · rcases List.append_inj' hsplit rfl with ⟨hcs, hd⟩
    exact Or.inl ⟨hcs.symm, List.singleton_inj.mp hd⟩
  · rw [List.concat_eq_append, ← List.cons_append, ← List.append_assoc] at hsplit
    rcases List.append_inj' hsplit rfl with ⟨hcs, -⟩
    exact Or.inr ⟨after', hcs⟩

/-- One more command: if it reads, nothing in front of it alters what it reads. -/
theorem ReadsUndisturbed.snoc {g : Geometry} {cs : List Cmd} {d : Cmd}
    (hcs : ReadsUndisturbed g cs)
    (hd : ∀ addr len, d = .read addr len → ∀ c ∈ cs, ∀ i, i < len → ¬ c.Alters g (addr + i)) :
    ReadsUndisturbed g (cs ++ [d]) := by
  intro before addr len after hsplit
  rcases split_snoc hsplit with ⟨rfl, hread⟩ | ⟨after', hcs'⟩
  · exact hd addr len hread
  · exact hcs before addr len after' hcs'

/-- One more command that does not read. -/
theorem ReadsUndisturbed.snoc_other {g : Geometry} {cs : List Cmd} {d : Cmd}
    (hcs : ReadsUndisturbed g cs) (hd : ∀ addr len, d ≠ .read addr len) :
    ReadsUndisturbed g (cs ++ [d]) :=
  hcs.snoc fun addr len hread => absurd hread (hd addr len)

/-- Commands that alter nothing do not disturb each other. -/
theorem readsUndisturbed_of_not_alters {g : Geometry} {cs : List Cmd}
    (hcs : ∀ c ∈ cs, ∀ x, ¬ c.Alters g x) : ReadsUndisturbed g cs := by
  rintro before addr len after rfl c hc i -
  exact hcs c (List.mem_append_left _ hc) (addr + i)

end NorFlash
