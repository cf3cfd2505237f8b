import TuyaMiniSwitch.Library.CrashSafety

/-!
# Library - Records one behind another

A parser that goes over its input twice: the first pass finds the records up to the end of the
input, and the second reads as many of them.  Each pass has its own idea of where a record ends.

Main results:

- Theorem {lit}`Laid.visited_map`, {lit}`Laid.readMany_eq`: both passes find records that are laid
  one behind another, as long as they agree on all of them but the last.
- Theorem {lit}`laid_of_stored`: the encodings of records are laid one behind another.
-/

namespace RecordFrames

open NorFlash

variable {ρ σ τ : Type} {next : Nat → Nat} {read : Nat → ρ × Nat}

/-- The first pass: where it finds a record in front of the end of the input. -/
def visited (next : Nat → Nat) (stop : Nat) : Nat → Nat → List Nat
  | 0, _ => []
  | fuel + 1, pos => if pos < stop then pos :: visited next stop fuel (next pos) else []

/-- The second pass: a given number of records. -/
def readMany (read : Nat → ρ × Nat) : Nat → Nat → List ρ
  | 0, _ => []
  | n + 1, pos => (read pos).1 :: readMany read n (read pos).2

theorem visited_of_ge {fuel pos stop : Nat} (hge : stop ≤ pos) :
    visited next stop fuel pos = [] := by
  cases fuel with
  | zero => rfl
  | succ fuel => rw [visited, if_neg (Nat.not_lt.mpr hge)]

/-- A pass that moves on at every record needs no more fuel than the input has bytes. -/
theorem visited_fuel {stop fuel fuel' pos : Nat} (hnext : ∀ pos, pos < next pos)
    (hfuel : stop - pos ≤ fuel) (hfuel' : stop - pos ≤ fuel') :
    visited next stop fuel pos = visited next stop fuel' pos := by
  induction fuel generalizing fuel' pos with
  | zero => rw [visited_of_ge (by omega), visited_of_ge (by omega)]
  | succ fuel ih =>
      by_cases hlt : pos < stop
      · have hmove := hnext pos
        obtain ⟨fuel', rfl⟩ : ∃ n, fuel' = n + 1 := ⟨fuel' - 1, by omega⟩
        have hrest : visited next stop fuel (next pos) = visited next stop fuel' (next pos) :=
          ih (by omega) (by omega)
        rw [visited, visited, if_pos hlt, if_pos hlt, hrest]
      · rw [visited_of_ge (Nat.not_lt.mp hlt), visited_of_ge (Nat.not_lt.mp hlt)]

/-! ## Records that lie one behind another -/

/-- What the second pass finds between two places. -/
inductive Laid (read : Nat → ρ × Nat) : Nat → List ρ → Nat → Prop
  | nil (pos : Nat) : Laid read pos [] pos
  | cons {pos pos' stop : Nat} {rec : ρ} {recs : List ρ} (hread : read pos = (rec, pos'))
      (hlt : pos < pos') (hrest : Laid read pos' recs stop) : Laid read pos (rec :: recs) stop

theorem Laid.le {pos stop : Nat} {recs : List ρ} (h : Laid read pos recs stop) : pos ≤ stop := by
  induction h with
  | nil pos => exact Nat.le_refl pos
  | cons _ hlt _ ih => exact Nat.le_trans (Nat.le_of_lt hlt) ih

theorem Laid.readMany_eq {pos stop : Nat} {recs : List ρ} (h : Laid read pos recs stop) :
    readMany read recs.length pos = recs := by
  induction h with
  | nil pos => rfl
  | cons hread _ _ ih => rw [List.length_cons, readMany, hread, ih]

/-- The first pass may overrun the end, so it need not agree with the second one on the last
record. -/
theorem Laid.visited_map {P : ρ → Prop} {f : Nat → τ} {g : ρ → τ} {pos stop : Nat}
    {recs : List ρ} (h : Laid read pos recs stop) (fuel : Nat)
    (hnext : ∀ {pos pos' rec}, read pos = (rec, pos') → P rec → next pos = pos')
    (hover : ∀ pos, (read pos).2 ≤ next pos) (hfront : ∀ rec ∈ recs.dropLast, P rec)
    (hsame : ∀ {pos pos' rec}, read pos = (rec, pos') → f pos = g rec)
    (hfuel : stop - pos ≤ fuel) : (visited next stop fuel pos).map f = recs.map g := by
  induction h generalizing fuel with
  | nil pos => rw [visited_of_ge (Nat.le_refl pos), List.map_nil, List.map_nil]
  | @cons pos pos' stop rec recs hread hlt hrest ih =>
      have hle := hrest.le
      obtain ⟨fuel, rfl⟩ : ∃ n, fuel = n + 1 := ⟨fuel - 1, by omega⟩
      rw [visited, if_pos (by omega), List.map_cons, List.map_cons, hsame hread]
      congr 1
      cases hrest with
      | nil =>
          have hend := hover pos
          rw [hread] at hend
          rw [visited_of_ge hend, List.map_nil, List.map_nil]
      | cons hread' hlt' hrest' =>
          rw [hnext hread (hfront rec List.mem_cons_self)]
          exact ih fuel (fun r hr => hfront r (List.mem_cons_of_mem _ hr)) (by omega)

theorem Laid.length_visited {P : ρ → Prop} {pos stop : Nat} {recs : List ρ}
    (h : Laid read pos recs stop) (fuel : Nat)
    (hnext : ∀ {pos pos' rec}, read pos = (rec, pos') → P rec → next pos = pos')
    (hover : ∀ pos, (read pos).2 ≤ next pos) (hfront : ∀ rec ∈ recs.dropLast, P rec)
    (hfuel : stop - pos ≤ fuel) : (visited next stop fuel pos).length = recs.length := by
  have hmap := h.visited_map (f := fun _ => ()) (g := fun _ => ()) fuel hnext hover hfront
    (fun _ => rfl) hfuel
  have hlength := congrArg List.length hmap
  rwa [List.length_map, List.length_map] at hlength

theorem laid_of_stored (read : Nat → ρ × Nat) (val : σ → ρ) {m : Mem} {encode : σ → List UInt8}
    {recs : List σ} {pos : Nat}
    (hread : ∀ r ∈ recs, ∀ pos, Stored m pos (encode r) →
      read pos = (val r, pos + (encode r).length))
    (hne : ∀ r, encode r ≠ []) (h : Stored m pos (recs.flatMap encode)) :
    Laid read pos (recs.map val) (pos + (recs.flatMap encode).length) := by
  induction recs generalizing pos with
  | nil => exact .nil pos
  | cons r recs ih =>
      rw [List.flatMap_cons, stored_append] at h
      have hlen := List.length_pos_iff.mpr (hne r)
      have hrest := ih (fun r hr => hread r (List.mem_cons_of_mem _ hr)) h.2
      rw [List.flatMap_cons, List.length_append, ← Nat.add_assoc]
      exact .cons (hread r List.mem_cons_self pos h.1) (by omega) hrest

end RecordFrames
