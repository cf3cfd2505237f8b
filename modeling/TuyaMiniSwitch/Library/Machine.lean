import Mathlib.Data.List.Induction
import Mathlib.Tactic.Common

/-!
# Library - Runs of a machine

A machine takes events one after another.  An invariant that every step keeps
holds after every run; when a step keeps it only under a condition, it holds
after every run whose steps all meet the condition.

Main results:

- Theorem {lit}`run_invariant`: the invariant rule for runs under a condition.
- Theorem {lit}`run_invariant_always`: the rule without a condition.
- Theorem {lit}`foldl_visits`: what a loop over a list brings about when it comes to an element.
- Theorem {lit}`foldlM_invariant`: the rule for a machine whose steps can fail.
- Theorem {lit}`along_of_invariant`: what an invariant gives for each step of a run.
- Theorem {lit}`observed_iff_along_of`: a property that holds all along a run exactly under a
  condition on its steps.
- Theorem {lit}`foldlM_always_iff`: the same for a machine whose steps can fail.
- Theorem {lit}`run_of_sometime_invariant`, {lit}`run_of_sometime`: what one step of a run
  brings about.
- Theorem {lit}`run_map`: a projection of the state that is a machine of its own.
- Theorem {lit}`monitor_trace`: a monitor accepts what the runs put out.
-/

namespace Machine

variable {σ τ ε : Type}

/-- The state after a sequence of events. -/
def run (step : σ → ε → σ) (s : σ) : List ε → σ
  | [] => s
  | e :: es => run step (step s e) es

/-- What a run puts out. -/
def trace {α : Type} (step : σ → ε → σ) (out : σ → ε → List α) (s : σ) : List ε → List α
  | [] => []
  | e :: es => out s e ++ trace step out (step s e) es

/-- Every step of a run meets a condition on its state and its event. -/
def Along (step : σ → ε → σ) (C : σ → ε → Prop) (s : σ) : List ε → Prop
  | [] => True
  | e :: es => C s e ∧ Along step C (step s e) es

/-- Some step of a run meets a condition on its state and its event. -/
def Sometime (step : σ → ε → σ) (C : σ → ε → Prop) (s : σ) : List ε → Prop
  | [] => False
  | e :: es => C s e ∨ Sometime step C (step s e) es

instance decidableSometime (step : σ → ε → σ) (C : σ → ε → Prop) [∀ s, DecidablePred (C s)]
    (s : σ) : DecidablePred (Sometime step C s)
  | [] => inferInstanceAs (Decidable False)
  | e :: es =>
      have := decidableSometime step C (step s e) es
      inferInstanceAs (Decidable (C s e ∨ Sometime step C (step s e) es))

instance decidableAlong (step : σ → ε → σ) (C : σ → ε → Prop) [∀ s, DecidablePred (C s)]
    (s : σ) : DecidablePred (Along step C s)
  | [] => inferInstanceAs (Decidable True)
  | e :: es =>
      have := decidableAlong step C (step s e) es
      inferInstanceAs (Decidable (C s e ∧ Along step C (step s e) es))

@[simp] theorem run_nil (step : σ → ε → σ) (s : σ) : run step s [] = s := rfl

@[simp] theorem run_cons (step : σ → ε → σ) (s : σ) (e : ε) (es : List ε) :
    run step s (e :: es) = run step (step s e) es := rfl

theorem run_append (step : σ → ε → σ) (s : σ) (es es' : List ε) :
    run step s (es ++ es') = run step (run step s es) es' := by
  induction es generalizing s with
  | nil => rfl
  | cons e es ih => exact ih (step s e)

theorem along_append {step : σ → ε → σ} {C : σ → ε → Prop} {s : σ} {es es' : List ε} :
    Along step C s (es ++ es') ↔ Along step C s es ∧ Along step C (run step s es) es' := by
  induction es generalizing s with
  | nil => simp [Along]
  | cons e es ih => simp [Along, ih, and_assoc]

theorem sometime_append {step : σ → ε → σ} {C : σ → ε → Prop} {s : σ} {es es' : List ε} :
    Sometime step C s (es ++ es') ↔
      Sometime step C s es ∨ Sometime step C (run step s es) es' := by
  induction es generalizing s with
  | nil => simp [Sometime]
  | cons e es ih => simp [Sometime, ih, or_assoc]

theorem trace_append {α : Type} (step : σ → ε → σ) (out : σ → ε → List α) (s : σ)
    (es es' : List ε) :
    trace step out s (es ++ es') = trace step out s es ++ trace step out (run step s es) es' := by
  induction es generalizing s with
  | nil => rfl
  | cons e es ih => simp [trace, ih]

/-- An invariant that every step keeps under a condition holds after every run
along which the condition holds. -/
theorem run_invariant {step : σ → ε → σ} {C : σ → ε → Prop} (Inv : σ → Prop)
    (hstep : ∀ s e, Inv s → C s e → Inv (step s e)) {s : σ} {es : List ε}
    (hs : Inv s) (halong : Along step C s es) : Inv (run step s es) := by
  induction es generalizing s with
  | nil => exact hs
  | cons e es ih =>
      rcases halong with ⟨hC, hrest⟩
      exact ih (hstep s e hs hC) hrest

/-- Where a condition does not hold along a run, there is a first step that does not meet
it. -/
theorem exists_of_not_along {step : σ → ε → σ} {C : σ → ε → Prop} {s : σ} {es : List ε}
    (hnot : ¬ Along step C s es) :
    ∃ es' e, es' ++ [e] <+: es ∧ ¬ C (run step s es') e := by
  induction es generalizing s with
  | nil => exact absurd trivial hnot
  | cons e es ih =>
      by_cases hfirst : C s e
      · have hlater : ¬ Along step C (step s e) es := fun hlater => hnot ⟨hfirst, hlater⟩
        rcases ih hlater with ⟨es', e', hprefix, hne⟩
        exact ⟨e :: es', e', List.cons_prefix_cons.mpr ⟨rfl, hprefix⟩, hne⟩
      · exact ⟨[], e, List.cons_prefix_cons.mpr ⟨rfl, List.nil_prefix⟩, hfirst⟩

/-- What an invariant gives for each step holds along every run. -/
theorem along_of_invariant {step : σ → ε → σ} {C D : σ → ε → Prop} (Inv : σ → Prop)
    (hstep : ∀ s e, Inv s → C s e → Inv (step s e) ∧ D s e) {s : σ} {es : List ε}
    (hs : Inv s) (halong : Along step C s es) : Along step D s es := by
  induction es generalizing s with
  | nil => trivial
  | cons e es ih =>
      rcases halong with ⟨hC, hrest⟩
      rcases hstep s e hs hC with ⟨hnext, hD⟩
      exact ⟨hD, ih hnext hrest⟩

/-- Two conditions along one run. -/
theorem along_and {step : σ → ε → σ} {C D : σ → ε → Prop} {s : σ} {es : List ε} :
    Along step (fun s e => C s e ∧ D s e) s es ↔ Along step C s es ∧ Along step D s es := by
  induction es generalizing s with
  | nil => simp [Along]
  | cons e es ih => simp [Along, ih, and_and_and_comm]

/-- An invariant that every step keeps holds after every run. -/
theorem run_invariant_always {step : σ → ε → σ} (Inv : σ → Prop)
    (hstep : ∀ s e, Inv s → Inv (step s e)) {s : σ} (es : List ε) (hs : Inv s) :
    Inv (run step s es) := by
  induction es generalizing s with
  | nil => exact hs
  | cons e es ih => exact ih (hstep s e hs)

/-- A loop over a list that visits an element: what holds in front of the element is kept by
the rounds for the others, the element's own round brings about what every later round
keeps. -/
theorem foldl_visits {f : σ → ε → σ} {P Q : σ → Prop} {e : ε}
    (hbefore : ∀ s e', e' ≠ e → P s → P (f s e')) (hat : ∀ s, P s → Q (f s e))
    (hafter : ∀ s e', Q s → Q (f s e')) {s : σ} {es : List ε} (hmem : e ∈ es) (hs : P s) :
    Q (es.foldl f s) := by
  induction es generalizing s with
  | nil => cases hmem
  | cons e' es ih =>
      by_cases heq : e' = e
      · subst heq
        exact List.foldlRecOn es f (hat s hs) fun s hs e' _ => hafter s e' hs
      · have hrest : e ∈ es := List.mem_of_ne_of_mem (Ne.symm heq) hmem
        exact ih hrest (hbefore s e' heq hs)

/-- The rule for a machine whose steps can fail. -/
theorem foldlM_invariant {step : σ → ε → Option σ} (Inv : σ → Prop)
    (hstep : ∀ s e s', Inv s → step s e = some s' → Inv s') {s s' : σ} {es : List ε}
    (hs : Inv s) (hrun : es.foldlM step s = some s') : Inv s' := by
  induction es generalizing s with
  | nil =>
      cases hrun
      exact hs
  | cons e es ih =>
      rw [List.foldlM_cons] at hrun
      rcases Option.bind_eq_some_iff.mp hrun with ⟨s₁, hfirst, hrest⟩
      exact ih (hstep s e s₁ hs hfirst) hrest

/-- The condition along a run, with its last step on its own. -/
theorem along_snoc {step : σ → ε → σ} {C : σ → ε → Prop} {s : σ} {es : List ε} {e : ε}
    (halong : Along step C s (es ++ [e])) : Along step C s es ∧ C (run step s es) e := by
  induction es generalizing s with
  | nil => exact ⟨trivial, halong.1⟩
  | cons e' es ih =>
      rcases ih halong.2 with ⟨hes, he⟩
      exact ⟨⟨halong.1, hes⟩, he⟩

/-- An invariant that tells a property is kept by the steps that meet a condition, and a
step that does not meet it loses the property.  Then the property holds at every point of a
run exactly when the condition holds along it.  The steps are those that the run can take. -/
theorem observed_iff_along_of {step : σ → ε → σ} {O C : σ → ε → Prop} {P Q : σ → Prop}
    (hobserve : ∀ s, P s → Q s) (hkeep : ∀ s e, O s e → P s → C s e → P (step s e))
    (hneed : ∀ s e, O s e → P s → Q (step s e) → C s e) {s : σ} {es : List ε} (hs : P s)
    (hruns : Along step O s es) :
    (∀ es', es' <+: es → Q (run step s es')) ↔ Along step C s es := by
  induction es generalizing s with
  | nil =>
      refine iff_of_true (fun es' hprefix => ?_) trivial
      rw [List.prefix_nil.mp hprefix]
      exact hobserve s hs
  | cons e es ih =>
      rcases hruns with ⟨hO, hrest⟩
      constructor
      · intro halways
        have hC : C s e := hneed s e hO hs (halways [e] (List.prefix_append [e] es))
        refine ⟨hC, (ih (hkeep s e hO hs hC) hrest).mp fun es' hprefix => ?_⟩
        exact halways (e :: es') (List.cons_prefix_cons.mpr ⟨rfl, hprefix⟩)
      · rintro ⟨hC, hlater⟩ es' hprefix
        cases es' with
        | nil => exact hobserve s hs
        | cons e' es' =>
            rcases List.cons_prefix_cons.mp hprefix with ⟨rfl, hprefix'⟩
            exact (ih (hkeep s e' hO hs hC) hrest).mpr hlater es' hprefix'

/-- A condition on the events alone holds along a run of such events. -/
theorem along_of_forall {step : σ → ε → σ} {C : ε → Prop} {s : σ} {es : List ε}
    (h : ∀ e ∈ es, C e) : Along step (fun _ e => C e) s es := by
  induction es generalizing s with
  | nil => trivial
  | cons e es ih =>
      exact ⟨h e List.mem_cons_self, ih fun e' hmem => h e' (List.mem_cons_of_mem e hmem)⟩

/-- The same where the steps are asked about the events of the run only. -/
theorem observed_iff_along {step : σ → ε → σ} {C : σ → ε → Prop} {P Q : σ → Prop}
    {es : List ε} (hobserve : ∀ s, P s → Q s)
    (hkeep : ∀ s e, e ∈ es → P s → C s e → P (step s e))
    (hneed : ∀ s e, e ∈ es → P s → Q (step s e) → C s e) {s : σ} (hs : P s) :
    (∀ es', es' <+: es → Q (run step s es')) ↔ Along step C s es :=
  observed_iff_along_of hobserve hkeep hneed hs (along_of_forall fun _ hmem => hmem)

/-- If a step keeps a property exactly under a condition, the property holds at every
point of a run exactly when the condition holds along it. -/
theorem always_iff_along {step : σ → ε → σ} {C : σ → ε → Prop} {P : σ → Prop}
    (hstep : ∀ s e, P s → (P (step s e) ↔ C s e)) {s : σ} (hs : P s) (es : List ε) :
    (∀ es', es' <+: es → P (run step s es')) ↔ Along step C s es :=
  observed_iff_along (fun _ => id) (fun s e _ hs => (hstep s e hs).mpr)
    (fun s e _ hs => (hstep s e hs).mp) hs

/-- The same for a machine whose steps can fail: the property holds at every point that a
run comes to exactly when the steps it takes meet the condition. -/
theorem foldlM_always_iff {step : σ → ε → Option σ} {C : σ → ε → Prop} {P : σ → Prop}
    {es : List ε} (hstep : ∀ s e s', e ∈ es → P s → step s e = some s' → (P s' ↔ C s e)) {s : σ}
    (hs : P s) :
    (∀ es', es' <+: es → ∀ s', es'.foldlM step s = some s' → P s') ↔
      ∀ es' e, es' ++ [e] <+: es → ∀ s' s'', es'.foldlM step s = some s' →
        step s' e = some s'' → C s' e := by
  have hsnoc : ∀ (es' : List ε) (e : ε) (s' s'' : σ), es'.foldlM step s = some s' →
      step s' e = some s'' → (es' ++ [e]).foldlM step s = some s'' := by
    intro es' e s' s'' hrun hlast
    rw [List.foldlM_append, hrun]
    simpa using hlast
  constructor
  · intro halways es' e hprefix s' s'' hrun hlast
    have hes' : es' <+: es := (List.prefix_append es' [e]).trans hprefix
    have hmem : e ∈ es := hprefix.subset (by simp)
    exact (hstep s' e s'' hmem (halways es' hes' s' hrun) hlast).mp
      (halways _ hprefix s'' (hsnoc es' e s' s'' hrun hlast))
  · intro hcond es' hprefix
    induction es' using List.reverseRecOn with
    | nil =>
        intro s' hrun
        cases hrun
        exact hs
    | append_singleton es' e ih =>
        intro s'' hrun
        have hes' : es' <+: es := (List.prefix_append es' [e]).trans hprefix
        have hmem : e ∈ es := hprefix.subset (by simp)
        rw [List.foldlM_append] at hrun
        rcases Option.bind_eq_some_iff.mp hrun with ⟨s', hfirst, hrest⟩
        have hlast : step s' e = some s'' := by simpa using hrest
        exact (hstep s' e s'' hmem (ih hes' s' hfirst) hlast).mpr
          (hcond es' e hprefix s' s'' hfirst hlast)

/-- A weaker condition is met where a stronger one is. -/
theorem sometime_mono {step : σ → ε → σ} {C D : σ → ε → Prop} (himp : ∀ s e, C s e → D s e)
    {s : σ} {es : List ε} (hsome : Sometime step C s es) : Sometime step D s es := by
  induction es generalizing s with
  | nil => exact hsome
  | cons e es ih => exact hsome.imp (himp s e) ih

/-- What under an invariant every step keeps and a step under a condition brings about holds
behind a run in which the condition was met. -/
theorem run_of_sometime_invariant {step : σ → ε → σ} {C : σ → ε → Prop} (Inv P : σ → Prop)
    (hinv : ∀ s e, Inv s → Inv (step s e)) (hkeep : ∀ s e, Inv s → P s → P (step s e))
    (hmeet : ∀ s e, Inv s → C s e → P (step s e)) {s : σ} {es : List ε} (hs : Inv s)
    (hsome : Sometime step C s es) : P (run step s es) := by
  induction es generalizing s with
  | nil => exact hsome.elim
  | cons e es ih =>
      rcases hsome with hfirst | hlater
      · have hboth : Inv (step s e) ∧ P (step s e) := ⟨hinv s e hs, hmeet s e hs hfirst⟩
        exact (run_invariant_always (fun s => Inv s ∧ P s)
          (fun s e h => ⟨hinv s e h.1, hkeep s e h.1 h.2⟩) es hboth).2
      · exact ih (hinv s e hs) hlater

/-- The rule without an invariant. -/
theorem run_of_sometime {step : σ → ε → σ} {C : σ → ε → Prop} (P : σ → Prop)
    (hkeep : ∀ s e, P s → P (step s e)) (hmeet : ∀ s e, C s e → P (step s e)) {s : σ}
    {es : List ε} (hsome : Sometime step C s es) : P (run step s es) :=
  run_of_sometime_invariant (fun _ => True) P (fun _ _ _ => trivial) (fun s e _ => hkeep s e)
    (fun s e _ => hmeet s e) trivial hsome

/-! ## Projections -/

section Projection

variable {step : σ → ε → σ} {step' : τ → ε → τ} {f : σ → τ}

/-- A projection that the steps respect under an invariant is respected by runs. -/
theorem run_map_invariant (Inv : σ → Prop) (hkeep : ∀ s e, Inv s → Inv (step s e))
    (hstep : ∀ s e, Inv s → f (step s e) = step' (f s) e) {s : σ} (hs : Inv s) (es : List ε) :
    f (run step s es) = run step' (f s) es := by
  induction es generalizing s with
  | nil => rfl
  | cons e es ih => rw [run_cons, run_cons, ih (hkeep s e hs), hstep s e hs]

/-- A condition that is one on the projected state can be followed on the projection. -/
theorem sometime_map_invariant (Inv : σ → Prop) {C : σ → ε → Prop} {C' : τ → ε → Prop}
    (hkeep : ∀ s e, Inv s → Inv (step s e)) (hstep : ∀ s e, Inv s → f (step s e) = step' (f s) e)
    (hcond : ∀ s e, Inv s → (C s e ↔ C' (f s) e)) {s : σ} (hs : Inv s) (es : List ε) :
    Sometime step C s es ↔ Sometime step' C' (f s) es := by
  induction es generalizing s with
  | nil => exact Iff.rfl
  | cons e es ih =>
      rw [Sometime, Sometime, ih (hkeep s e hs), hstep s e hs, hcond s e hs]

/-- A projection that the steps respect is respected by runs. -/
theorem run_map (hstep : ∀ s e, f (step s e) = step' (f s) e) (s : σ) (es : List ε) :
    f (run step s es) = run step' (f s) es :=
  run_map_invariant (fun _ => True) (fun _ _ _ => trivial) (fun s e _ => hstep s e)
    trivial es

/-- A condition on the projected state can be followed on the projection. -/
theorem sometime_map (hstep : ∀ s e, f (step s e) = step' (f s) e) (C : τ → ε → Prop) (s : σ)
    (es : List ε) : Sometime step (fun s e => C (f s) e) s es ↔ Sometime step' C (f s) es :=
  sometime_map_invariant (C := fun s e => C (f s) e) (fun _ => True) (fun _ _ _ => trivial)
    (fun s e _ => hstep s e) (fun _ _ _ => Iff.rfl) trivial es

/-- So can a condition along the run. -/
theorem along_map (hstep : ∀ s e, f (step s e) = step' (f s) e) (C : τ → ε → Prop) (s : σ)
    (es : List ε) : Along step (fun s e => C (f s) e) s es ↔ Along step' C (f s) es := by
  induction es generalizing s with
  | nil => exact Iff.rfl
  | cons e es ih => rw [Along, Along, ih, hstep]

end Projection

/-- A run none of whose steps meets the condition stays where it is, if only a step
that meets it moves. -/
theorem run_of_not_sometime {step : σ → ε → σ} {C : σ → ε → Prop}
    (hstep : ∀ s e, ¬ C s e → step s e = s) {s : σ} {es : List ε}
    (hnever : ¬ Sometime step C s es) : run step s es = s := by
  induction es generalizing s with
  | nil => rfl
  | cons e es ih =>
      rw [Sometime, not_or] at hnever
      rw [run_cons, ih hnever.2, hstep s e hnever.1]

/-! ## Monitors -/

/-- A monitor follows what a machine puts out and can reject it.  If the monitor can
follow every step that meets a condition, and the two states stay related, it accepts
what a run puts out along which the condition holds. -/
theorem monitor_trace {α : Type} {step : σ → ε → σ} {out : σ → ε → List α}
    {C : σ → ε → Prop} {observe : τ → α → Option τ} (R : σ → τ → Prop)
    (hstep : ∀ s t e, R s t → C s e →
      ∃ t', (out s e).foldlM observe t = some t' ∧ R (step s e) t')
    {s : σ} {t : τ} {es : List ε} (hs : R s t) (halong : Along step C s es) :
    ∃ t', (trace step out s es).foldlM observe t = some t' ∧ R (run step s es) t' := by
  induction es generalizing s t with
  | nil => exact ⟨t, rfl, hs⟩
  | cons e es ih =>
      rcases halong with ⟨hC, hrest⟩
      rcases hstep s t e hs hC with ⟨t₁, hfirst, hnext⟩
      rcases ih hnext hrest with ⟨t', hlater, hend⟩
      refine ⟨t', ?_, hend⟩
      rw [trace, List.foldlM_append, hfirst]
      exact hlater

end Machine
