import Mathlib.Tactic.Common

/-!
# Library - Loops with an exit

A loop is given by its body alone.  One pass of the body either goes round again
with a new state or leaves the loop with a result, which is how a source loop
with a guard at the top and a {lit}`break` inside reads once the guard is part of
the body.  The fuel only bounds the number of passes.

Main results:

- Theorem {lit}`run_total`: an invariant that every pass keeps, together with a
  measure that every pass lowers, makes the loop leave with a result that
  satisfies the postcondition.
-/

namespace Loop

variable {σ ρ : Type}

/-- Run a loop body until it leaves, for at most the given number of passes. -/
def run (body : σ → σ ⊕ ρ) : Nat → σ → Option ρ
  | 0, _ => none
  | fuel + 1, s =>
      match body s with
      | .inl s' => run body fuel s'
      | .inr r => some r

theorem run_of_continue {body : σ → σ ⊕ ρ} {s s' : σ} (fuel : Nat)
    (hbody : body s = .inl s') : run body (fuel + 1) s = run body fuel s' := by
  simp [run, hbody]

theorem run_of_exit {body : σ → σ ⊕ ρ} {s : σ} {r : ρ} (fuel : Nat)
    (hbody : body s = .inr r) : run body (fuel + 1) s = some r := by
  simp [run, hbody]

/-- Total correctness of a loop: with an invariant that every pass keeps and a
measure that every pass lowers, enough fuel brings the loop to an exit, and the
result satisfies what every exit from an invariant state guarantees. -/
theorem run_total {body : σ → σ ⊕ ρ} (Inv : σ → Prop) (measure : σ → Nat)
    (Post : ρ → Prop)
    (hcont : ∀ s s', Inv s → body s = .inl s' → Inv s' ∧ measure s' < measure s)
    (hexit : ∀ s r, Inv s → body s = .inr r → Post r)
    {fuel : Nat} {s : σ} (hs : Inv s) (hfuel : measure s < fuel) :
    ∃ r, run body fuel s = some r ∧ Post r := by
  induction fuel generalizing s with
  | zero => omega
  | succ fuel ih =>
      cases hbody : body s with
      | inl s' =>
          have hstep := hcont s s' hs hbody
          have hlt : measure s' < fuel := by omega
          rw [run_of_continue fuel hbody]
          exact ih hstep.1 hlt
      | inr r =>
          rw [run_of_exit fuel hbody]
          exact ⟨r, rfl, hexit s r hs hbody⟩

end Loop
