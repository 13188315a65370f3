import Mathlib.Logic.Basic

/-!
# Runs of a guarded step function

A system is a partial step function: `step s a = none` when action `a` is not enabled in
`s`. A run folds a list of actions. The rules below are the only inductions over runs
that the development needs: an invariant kept by every step holds at the end of every run,
also when it is kept only by steps that meet a condition, and a relation between start and
end holds when it is reflexive and composes with a step.
-/

namespace MyApiSpec.Base

variable {σ A : Type} {s : σ} {as : List A}

/-- Perform the actions in order; `none` when one of them is not enabled. -/
def run (step : σ → A → Option σ) : σ → List A → Option σ
  | s, [] => some s
  | s, a :: as => (step s a).bind (fun s' => run step s' as)

theorem run_cons (step : σ → A → Option σ) (s : σ) (a : A) (as : List A) :
    run step s (a :: as) = (step s a).bind (fun s' => run step s' as) := rfl

variable {step : σ → A → Option σ} {t : σ}

theorem run_cons_eq_some {a : A} :
    run step s (a :: as) = some t ↔ ∃ s', step s a = some s' ∧ run step s' as = some t := by
  rw [run_cons]
  cases step s a <;> simp

theorem run_append (step : σ → A → Option σ) (s : σ) (as bs : List A) :
    run step s (as ++ bs) = (run step s as).bind (fun s' => run step s' bs) := by
  induction as generalizing s with
  | nil => rfl
  | cons a as ih =>
    simp only [List.cons_append, run_cons]
    cases step s a with
    | none => rfl
    | some s' => exact ih s'

/-- The end of a run that goes through. -/
theorem run_getD (h : (run step s as).isSome = true) :
    run step s as = some ((run step s as).getD s) := by
  cases hr : run step s as with
  | none => rw [hr] at h; cases h
  | some t => rfl

/-- What every step keeps, every run keeps. -/
theorem run_invariant (Inv : σ → Prop)
    (hstep : ∀ s a s', Inv s → step s a = some s' → Inv s') :
    ∀ (as : List A) (s t : σ), Inv s → run step s as = some t → Inv t := by
  intro as
  induction as with
  | nil =>
    intro s t hs h
    cases h
    exact hs
  | cons a as ih =>
    intro s t hs h
    obtain ⟨s', h1, h2⟩ := run_cons_eq_some.mp h
    exact ih s' t (hstep s a s' hs h1) h2

/-- Every action of the run meets `P` in the state in which it is performed. -/
def Meets (step : σ → A → Option σ) (P : σ → A → Prop) : σ → List A → Prop
  | _, [] => True
  | s, a :: as => P s a ∧ ∀ s' ∈ step s a, Meets step P s' as

instance Meets.decidable (step : σ → A → Option σ) (P : σ → A → Prop) [∀ s a, Decidable (P s a)] :
    ∀ (s : σ) (as : List A), Decidable (Meets step P s as)
  | _, [] => isTrue trivial
  | s, a :: as =>
    match hstep : step s a with
    | none => decidable_of_iff (P s a) (by simp [Meets, hstep])
    | some s' =>
      have : Decidable (Meets step P s' as) := Meets.decidable step P s' as
      decidable_of_iff (P s a ∧ Meets step P s' as) (by simp [Meets, hstep])

variable {P : σ → A → Prop}

/-- What every step that meets `P` keeps, every run of such steps keeps. -/
theorem Meets.invariant (Inv : σ → Prop)
    (hstep : ∀ s a s', Inv s → P s a → step s a = some s' → Inv s') :
    ∀ (as : List A) (s t : σ), Inv s → Meets step P s as → run step s as = some t → Inv t := by
  intro as
  induction as with
  | nil =>
    intro s t hs _ h
    cases h
    exact hs
  | cons a as ih =>
    intro s t hs hmeets h
    obtain ⟨s', h1, h2⟩ := run_cons_eq_some.mp h
    exact ih s' t (hstep s a s' hs hmeets.1 h1) (hmeets.2 s' h1) h2

/-- A run that meets `P` does so before and behind every state that it passes. -/
theorem Meets.split {bs : List A}
    (h : Meets step P s (as ++ bs)) (hrun : run step s as = some t) :
    Meets step P s as ∧ Meets step P t bs := by
  induction as generalizing s with
  | nil =>
    cases hrun
    exact ⟨trivial, h⟩
  | cons a as ih =>
    obtain ⟨s', h1, h2⟩ := run_cons_eq_some.mp hrun
    obtain ⟨hbefore, hbehind⟩ := ih (h.2 s' h1) h2
    refine ⟨⟨h.1, fun x hx => ?_⟩, hbehind⟩
    cases h1.symm.trans hx
    exact hbefore

end MyApiSpec.Base
