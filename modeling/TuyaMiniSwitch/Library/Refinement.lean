import Mathlib.Tactic.Common

/-!
# Library - Refinement

A step relation takes a state to another one and shows a label.  A relation between the states of
two of them is a simulation if every step of the first is matched by a step of the second that
shows the same.  Then whatever a run of the first shows, a run of the second shows as well.

Main results:

- Theorem {lit}`Simulation.runs`: the rule for runs.
- Theorem {lit}`Runs.invariant`: what steps with certain labels keep, their runs keep.
-/

namespace Refinement

variable {σ τ ℓ : Type} {step : σ → ℓ → σ → Prop} {step' : τ → ℓ → τ → Prop}

/-- A run shows the labels of its steps. -/
inductive Runs (step : σ → ℓ → σ → Prop) : σ → List ℓ → σ → Prop where
  | nil (s : σ) : Runs step s [] s
  | cons {s s' s'' : σ} {l : ℓ} {ls : List ℓ} (first : step s l s')
      (rest : Runs step s' ls s'') : Runs step s (l :: ls) s''

theorem runs_append {s s'' : σ} {ls ls' : List ℓ} :
    Runs step s (ls ++ ls') s'' ↔ ∃ s', Runs step s ls s' ∧ Runs step s' ls' s'' := by
  constructor
  · intro h
    induction ls generalizing s with
    | nil => exact ⟨s, .nil s, h⟩
    | cons l ls ih =>
        cases h with
        | cons first rest =>
            obtain ⟨s', hfront, hback⟩ := ih rest
            exact ⟨s', .cons first hfront, hback⟩
  · rintro ⟨s', hfront, hback⟩
    induction hfront with
    | nil s => exact hback
    | cons first _ ih => exact .cons first (ih hback)

theorem runs_singleton {s s' : σ} {l : ℓ} : Runs step s [l] s' ↔ step s l s' := by
  constructor
  · intro h
    cases h with
    | cons first rest =>
        cases rest
        exact first
  · exact fun h => .cons h (.nil s')

/-- What steps with certain labels keep holds behind a run of them. -/
theorem Runs.invariant {I : σ → Prop} {L : ℓ → Prop}
    (hstep : ∀ s l s', I s → L l → step s l s' → I s') {s s' : σ} {ls : List ℓ}
    (h : Runs step s ls s') (hs : I s) (hls : ∀ l ∈ ls, L l) : I s' := by
  induction h with
  | nil s => exact hs
  | cons first _ ih =>
      exact ih (hstep _ _ _ hs (hls _ List.mem_cons_self) first) fun l hl =>
        hls l (List.mem_cons_of_mem _ hl)

/-- Every step of the one is matched by a step of the other. -/
def Simulation (step : σ → ℓ → σ → Prop) (step' : τ → ℓ → τ → Prop) (R : σ → τ → Prop) : Prop :=
  ∀ s t l s', R s t → step s l s' → ∃ t', step' t l t' ∧ R s' t'

/-- What a run of the one shows, a run of the other shows as well. -/
theorem Simulation.runs {R : σ → τ → Prop} (h : Simulation step step' R) {s s' : σ} {t : τ}
    {ls : List ℓ} (hR : R s t) (hrun : Runs step s ls s') :
    ∃ t', Runs step' t ls t' ∧ R s' t' := by
  induction hrun generalizing t with
  | nil s => exact ⟨t, .nil t, hR⟩
  | cons first _ ih =>
      obtain ⟨t₁, hfirst, hR₁⟩ := h _ _ _ _ hR first
      obtain ⟨t₂, hrest, hR₂⟩ := ih hR₁
      exact ⟨t₂, .cons hfirst hrest, hR₂⟩

end Refinement
