import TuyaMiniSwitch.Library.Machine

/-!
# Library - A debounce counter

A counter between one and an upper end follows the samples of an input: each sample
moves it one step to the end that the sample stands for.  The input counts as up when the
counter arrives at the upper end, and as down when it arrives at one.

A bounce takes the counter from the upper end down, not as far as one, and back up.

Main results:

- Theorem {lit}`run_bounds`: the counter stays between its ends.
- Theorem {lit}`run_le_window`: the counter is no higher than the last samples make it.
- Theorem {lit}`run_of_away`: where samples that stay away from the ends take the counter.
- Theorem {lit}`touched_iff_no_bounce`: the counter comes down to one between any two
  arrivals at the upper end exactly if there is no bounce.
-/

namespace Debounce

open Machine

variable {ε : Type}

/-- The counter behind a sample. -/
def next (N : Nat) (up : ε → Bool) (c : Nat) (e : ε) : Nat :=
  if up e then (if c = N then N else c + 1) else (if c = 1 then 1 else c - 1)

/-- The counter arrives at the upper end. -/
def Arrives (N : Nat) (up : ε → Bool) (c : Nat) (e : ε) : Prop :=
  c ≠ N ∧ next N up c e = N

/-- The counter arrives at one. -/
def Drops (N : Nat) (up : ε → Bool) (c : Nat) (e : ε) : Prop :=
  c ≠ 1 ∧ next N up c e = 1

instance (N : Nat) (up : ε → Bool) (c : Nat) (e : ε) : Decidable (Arrives N up c e) :=
  inferInstanceAs (Decidable (_ ∧ _))

instance (N : Nat) (up : ε → Bool) (c : Nat) (e : ε) : Decidable (Drops N up c e) :=
  inferInstanceAs (Decidable (_ ∧ _))

section Counter

variable {N : Nat} {up : ε → Bool} {c : Nat} {e : ε}

theorem next_bounds (up : ε → Bool) (e : ε) (hlow : 1 ≤ c) (hhigh : c ≤ N) :
    1 ≤ next N up c e ∧ next N up c e ≤ N := by
  unfold next
  split
  · split <;> omega
  · split <;> omega

/-- The counter moves one step at most. -/
theorem next_near (N : Nat) (up : ε → Bool) (e : ε) (hlow : 1 ≤ c) :
    next N up c e ≤ c + 1 ∧ c ≤ next N up c e + 1 := by
  unfold next
  split
  · split <;> omega
  · split <;> omega

theorem arrives_up (hhigh : c ≤ N) (harrives : Arrives N up c e) :
    up e = true ∧ c + 1 = N := by
  rcases harrives with ⟨hne, hnext⟩
  unfold next at hnext
  by_cases hup : up e = true
  · rw [if_pos hup, if_neg hne] at hnext
    exact ⟨hup, hnext⟩
  · rw [if_neg hup] at hnext
    split at hnext <;> omega

theorem drops_down (hlow : 1 ≤ c) (hdrops : Drops N up c e) :
    up e = false ∧ c = 2 := by
  rcases hdrops with ⟨hne, hnext⟩
  unfold next at hnext
  by_cases hup : up e = true
  · rw [if_pos hup] at hnext
    split at hnext <;> omega
  · rw [if_neg hup, if_neg hne] at hnext
    exact ⟨Bool.not_eq_true _ ▸ hup, by omega⟩

theorem run_bounds (up : ε → Bool) (hlow : 1 ≤ c) (hhigh : c ≤ N) (es : List ε) :
    1 ≤ run (next N up) c es ∧ run (next N up) c es ≤ N :=
  run_invariant_always (fun c => 1 ≤ c ∧ c ≤ N) (fun _ e h => next_bounds up e h.1 h.2) es
    ⟨hlow, hhigh⟩

/-! ## Windows -/

/-- The counter that started at one is no higher than the samples of some last window have
made it: they have more steps up than down by what it is above one. -/
theorem run_le_window (up : ε → Bool) (hN : 1 ≤ N) (es : List ε) :
    ∃ w, w <:+ es ∧
      run (next N up) 1 es + w.countP (fun e => !up e) ≤ 1 + w.countP up := by
  induction es using List.reverseRecOn with
  | nil => exact ⟨[], List.suffix_refl [], by simp⟩
  | append_singleton es e ih =>
      rcases ih with ⟨w, ⟨before, hw⟩, hcount⟩
      have hbounds := run_bounds up (Nat.le_refl 1) hN es
      rw [run_append, run_cons, run_nil]
      by_cases hup : up e = true
      · refine ⟨w ++ [e], ⟨before, by rw [← List.append_assoc, hw]⟩, ?_⟩
        have hnear := (next_near N up e hbounds.1).1
        simp only [List.countP_append, List.countP_singleton, hup]
        simp only [Bool.not_true, Bool.false_eq_true, if_false, if_true]
        omega
      · by_cases hone : run (next N up) 1 es = 1
        · -- at one the window starts anew
          refine ⟨[], List.nil_suffix, ?_⟩
          simp [next, hup, hone]
        · refine ⟨w ++ [e], ⟨before, by rw [← List.append_assoc, hw]⟩, ?_⟩
          simp only [List.countP_append, List.countP_singleton, next, hup, if_neg hone]
          simp only [Bool.not_false, Bool.false_eq_true, if_false, if_true]
          omega

/-! ## Arrivals -/

/-- A counter that comes to the upper end from below has arrived there. -/
theorem sometime_arrives {es : List ε} (hc : c ≠ N) (hrun : run (next N up) c es = N) :
    Sometime (next N up) (Arrives N up) c es := by
  induction es generalizing c with
  | nil => exact absurd hrun hc
  | cons e es ih =>
      by_cases hnext : next N up c e = N
      · exact .inl ⟨hc, hnext⟩
      · exact .inr (ih hnext hrun)

/-- The counter was at one, and has not arrived at the upper end since. -/
def Touched (N : Nat) (up : ε → Bool) (es : List ε) : Prop :=
  ∃ es₁ es₂, es = es₁ ++ es₂ ∧ run (next N up) 1 es₁ = 1 ∧
    ¬Sometime (next N up) (Arrives N up) 1 es₂

/-- Every start of the samples has more of them down than up, and not as many more as it
takes to come down to one. -/
def Away (N : Nat) (up : ε → Bool) (w : List ε) : Prop :=
  ∀ u, u <+: w → u ≠ [] →
    u.countP up < u.countP (fun e => !up e) ∧ u.countP (fun e => !up e) + 1 < u.countP up + N

/-- Samples that go down from the upper end and back, and not as far as one. -/
def Bounce (N : Nat) (up : ε → Bool) (w : List ε) : Prop :=
  ∃ w' e, w = w' ++ [e] ∧ w' ≠ [] ∧ Away N up w' ∧ w.countP up = w.countP fun e => !up e

/-- The counter was at the upper end, and the samples since have kept it away from both
ends. -/
def Left (N : Nat) (up : ε → Bool) (es : List ε) : Prop :=
  ∃ es₁ w, es = es₁ ++ w ∧ run (next N up) 1 es₁ = N ∧ Away N up w

theorem Away.left {w w' : List ε} (haway : Away N up (w ++ w')) : Away N up w :=
  fun u hstart => haway u (hstart.trans (List.prefix_append w w'))

theorem countP_snoc (p : ε → Bool) (w : List ε) (e : ε) :
    (w ++ [e]).countP p = w.countP p + if p e then 1 else 0 := by
  rw [List.countP_append, List.countP_singleton]

/-- As long as the samples are away, the counter is as far below the upper end as they have
more down than up. -/
theorem run_of_away {w : List ε} (haway : Away N up w) :
    run (next N up) N w + w.countP (fun e => !up e) = N + w.countP up := by
  induction w using List.reverseRecOn with
  | nil => simp
  | append_singleton w e ih =>
      have hbefore := ih haway.left
      have hnow := haway (w ++ [e]) (List.prefix_refl _) (by simp)
      rw [countP_snoc, countP_snoc] at hnow ⊢
      rw [run_append, run_cons, run_nil, next]
      by_cases hup : up e = true
      · simp only [hup, Bool.not_true, Bool.false_eq_true, if_true, if_false] at hnow ⊢
        split <;> omega
      · simp only [hup, Bool.not_false, if_true, if_false, Bool.false_eq_true] at hnow ⊢
        split <;> omega

/-- Away from the ends the counter is above one. -/
theorem one_lt_of_away (hN : 2 ≤ N) {w : List ε} (haway : Away N up w) :
    1 < run (next N up) N w := by
  by_cases hnil : w = []
  · rw [hnil]
    exact hN
  · have hrun := run_of_away haway
    have hnow := haway w (List.prefix_refl w) hnil
    omega

/-- Samples are away as long as the counter is between the ends. -/
theorem Away.snoc (hN : 2 ≤ N) {w : List ε} {e : ε} (haway : Away N up w)
    (hlow : 1 < run (next N up) N (w ++ [e])) (hhigh : run (next N up) N (w ++ [e]) < N) :
    Away N up (w ++ [e]) := by
  intro u hprefix hne
  rcases List.prefix_concat_iff.mp hprefix with rfl | hearlier
  · have hrun := run_of_away haway
    have hone := one_lt_of_away hN haway
    rw [run_append, run_cons, run_nil, next] at hlow hhigh
    rw [countP_snoc, countP_snoc]
    by_cases hup : up e = true
    · simp only [hup, Bool.not_true, Bool.false_eq_true, if_true, if_false] at hlow hhigh ⊢
      split at hhigh <;> omega
    · have hnot : ¬run (next N up) N w = 1 := by omega
      simp only [hup, hnot, Bool.not_false, if_true, if_false, Bool.false_eq_true] at hlow hhigh ⊢
      omega
  · exact haway u hearlier hne

/-- Of the two ends the counter has seen one last. -/
theorem touched_or_left (hN : 2 ≤ N) (es : List ε) : Touched N up es ∨ Left N up es := by
  induction es using List.reverseRecOn with
  | nil => exact .inl ⟨[], [], rfl, rfl, id⟩
  | append_singleton es e ih =>
      have hbounds := run_bounds up (Nat.le_refl 1) (Nat.le_of_succ_le hN) (es ++ [e])
      by_cases hend : run (next N up) 1 (es ++ [e]) = N
      · refine .inr ⟨es ++ [e], [], by simp, hend, fun u hprefix hne => ?_⟩
        exact absurd (List.prefix_nil.mp hprefix) hne
      · by_cases hone : run (next N up) 1 (es ++ [e]) = 1
        · exact .inl ⟨es ++ [e], [], by simp, hone, id⟩
        · rcases ih with ⟨es₁, es₂, rfl, hrun, hnone⟩ | ⟨es₁, w, rfl, hrun, haway⟩
          · refine .inl ⟨es₁, es₂ ++ [e], by simp, hrun, ?_⟩
            rw [sometime_append]
            rintro (hearlier | ⟨-, harrives⟩ | hnever)
            · exact hnone hearlier
            · apply hend
              rw [run_append, run_append, hrun]
              exact harrives
            · exact hnever
          · rw [List.append_assoc, run_append, hrun] at hbounds hend hone
            refine .inr ⟨es₁, w ++ [e], by simp, hrun, haway.snoc hN ?_ ?_⟩
            · omega
            · omega

/-- A bounce ends with an arrival, and was not at one. -/
theorem arrives_of_bounce {w : List ε} (hbounce : Bounce N up w) :
    ∃ w' e, w = w' ++ [e] ∧ Away N up w' ∧ Arrives N up (run (next N up) N w') e := by
  rcases hbounce with ⟨w', e, rfl, hne, haway, hback⟩
  refine ⟨w', e, rfl, haway, ?_⟩
  have hrun := run_of_away haway
  have hnow := haway w' (List.prefix_refl w') hne
  rw [countP_snoc, countP_snoc] at hback
  by_cases hup : up e = true
  · simp only [hup, Bool.not_true, Bool.false_eq_true, if_true, if_false] at hback
    have hbelow : run (next N up) N w' ≠ N := by omega
    refine ⟨hbelow, ?_⟩
    rw [next, if_pos hup, if_neg hbelow]
    omega
  · simp only [hup, Bool.not_false, if_true, if_false, Bool.false_eq_true] at hback
    omega

/-- The counter is at one between any two arrivals at the upper end, and before the first
one, exactly if the samples have no bounce while it is at the upper end. -/
theorem touched_iff_no_bounce (hN : 2 ≤ N) (es : List ε) :
    (∀ es₁ e es₂, es = es₁ ++ e :: es₂ → Arrives N up (run (next N up) 1 es₁) e →
        Touched N up es₁) ↔
      ∀ es₁ w es₂, es = es₁ ++ w ++ es₂ → run (next N up) 1 es₁ = N → ¬Bounce N up w := by
  constructor
  · intro htouched es₁ w es₂ hes hrun hbounce
    rcases arrives_of_bounce hbounce with ⟨w', e, rfl, haway, harrives⟩
    have harrives' : Arrives N up (run (next N up) 1 (es₁ ++ w')) e := by
      rw [run_append, hrun]
      exact harrives
    rcases htouched (es₁ ++ w') e es₂ (by simp [hes]) harrives' with ⟨b, c, hsplit, hone, hnone⟩
    rcases List.append_eq_append_iff.mp hsplit with ⟨x, rfl, hw'⟩ | ⟨x, rfl, rfl⟩
    · -- the counter would have been at one in the bounce
      rw [hw'] at haway
      rw [run_append, hrun] at hone
      have habove := one_lt_of_away hN haway.left
      omega
    · -- it would have come from one to the upper end without an arrival
      rw [run_append, hone] at hrun
      exact hnone (sometime_append.mpr (.inl (sometime_arrives (by omega) hrun)))
  · intro hno es₁ e es₂ hes harrives
    rcases touched_or_left hN es₁ with htouched | ⟨a, w, rfl, hrun, haway⟩
    · exact htouched
    · rw [run_append, hrun] at harrives
      have hdist := run_of_away haway
      have hhigh := (run_bounds up (Nat.le_of_succ_le hN) (Nat.le_refl N) w).2
      rcases arrives_up hhigh harrives with ⟨hup, hbelow⟩
      refine absurd ⟨w, e, rfl, ?_, haway, ?_⟩ (hno a (w ++ [e]) es₂ (by simp [hes]) hrun)
      · rintro rfl
        exact harrives.1 rfl
      · rw [countP_snoc, countP_snoc, hup]
        simp only [Bool.not_true, Bool.false_eq_true, if_true, if_false]
        omega

end Counter

end Debounce
