import Mathlib.Logic.Basic

/-!
# Fallible computations

Error-returning code is modelled in `Except`. A guard clause is `check`, a lookup that
must succeed is `need`. The lemmas here invert a successful computation into the list of
guards that passed and values that were found, and run it forward from the same list.
-/

namespace MyApiSpec.Base

variable {ε α β : Type} {p : Prop} {e e' : ε} {x : Except ε α} {f : α → Except ε β}

/-- A guard clause: continue when `p` holds, fail with `e` otherwise. -/
def check (p : Prop) [Decidable p] (e : ε) : Except ε Unit :=
  if p then .ok () else .error e

/-- A lookup that must succeed. -/
def need (o : Option α) (e : ε) : Except ε α :=
  match o with
  | some a => .ok a
  | none => .error e

@[simp]
theorem check_eq_ok [Decidable p] {u : Unit} : check p e = .ok u ↔ p := by
  unfold check
  split <;> simp_all

theorem check_pos [Decidable p] (h : p) (e : ε) : check p e = .ok () := if_pos h

theorem check_neg [Decidable p] (h : ¬ p) (e : ε) : check p e = .error e := if_neg h

theorem check_eq_error [Decidable p] : check p e = .error e' ↔ ¬ p ∧ e = e' := by
  unfold check
  split <;> simp_all

@[simp]
theorem need_eq_ok {o : Option α} {a : α} : need o e = .ok a ↔ o = some a := by
  cases o <;> simp [need]

@[simp]
theorem need_some (a : α) (e : ε) : need (some a) e = .ok a := rfl

@[simp]
theorem need_none (e : ε) : need (none : Option α) e = .error e := rfl

/-- A successful sequence succeeded in its first part and then in its second. -/
@[simp]
theorem bind_eq_ok {b : β} : x >>= f = .ok b ↔ ∃ a, x = .ok a ∧ f a = .ok b := by
  cases x <;> simp [bind, Except.bind]

@[simp]
theorem pure_eq_ok {a b : α} : (pure a : Except ε α) = .ok b ↔ a = b := by simp [pure, Except.pure]

/-- A failed sequence failed in its first part or in its second. -/
theorem bind_eq_error : x >>= f = .error e ↔ x = .error e ∨ ∃ a, x = .ok a ∧ f a = .error e := by
  cases x <;> simp [bind, Except.bind]

theorem map_eq_ok {f : α → β} {b : β} : x.map f = .ok b ↔ ∃ a, x = .ok a ∧ f a = b := by
  cases x <;> simp [Except.map]

@[simp]
theorem ok_bind (a : α) (f : α → Except ε β) : (Except.ok a : Except ε α) >>= f = f a := rfl

@[simp]
theorem error_bind (e : ε) (f : α → Except ε β) :
    (Except.error e : Except ε α) >>= f = .error e := rfl

/-- What every step of a fallible loop keeps, the loop keeps. -/
theorem foldlM_invariant {f : β → α → Except ε β} (P : β → Prop)
    (hstep : ∀ b a b', P b → f b a = .ok b' → P b') :
    ∀ {l : List α} {b b' : β}, P b → l.foldlM f b = .ok b' → P b'
  | [], b, b', hb, h => by
    cases h
    exact hb
  | a :: l, b, b', hb, h => by
    rw [List.foldlM_cons, bind_eq_ok] at h
    obtain ⟨c, hc, h⟩ := h
    exact foldlM_invariant P hstep (hstep b a c hb hc) h

theorem forM_ok {f : α → Except ε Unit} {l : List α} (h : l.forM f = .ok ()) : ∀ x ∈ l, f x = .ok () := by
  induction l with
  | nil => exact nofun
  | cons x l ih =>
    obtain ⟨_, hx, hl⟩ := bind_eq_ok.mp h
    exact List.forall_mem_cons.mpr ⟨hx, ih hl⟩

/-! ### Errors that a computation never has -/

/-- The computation does not fail with `e`. -/
def Avoids (e : ε) (x : Except ε α) : Prop := x ≠ .error e

@[simp]
theorem avoids_ok (e : ε) (a : α) : Avoids e (.ok a : Except ε α) := nofun

@[simp]
theorem avoids_pure (e : ε) (a : α) : Avoids e (pure a : Except ε α) := nofun

@[simp]
theorem avoids_error : Avoids e (.error e' : Except ε α) ↔ e' ≠ e := by simp [Avoids]

/-- A sequence avoids what its first part and every continuation of it avoid. -/
@[simp]
theorem avoids_bind : Avoids e (x >>= f) ↔ Avoids e x ∧ ∀ a, x = .ok a → Avoids e (f a) := by
  cases x <;> simp

@[simp]
theorem avoids_map {f : α → β} : Avoids e (x.map f) ↔ Avoids e x := by
  cases x <;> simp [Except.map]

@[simp]
theorem avoids_fmap {f : α → β} : Avoids e (f <$> x) ↔ Avoids e x := avoids_map

@[simp]
theorem avoids_check [Decidable p] : Avoids e (check p e') ↔ p ∨ e' ≠ e := by
  by_cases hp : p <;> simp [check, hp]

@[simp]
theorem avoids_need {o : Option α} : Avoids e (need o e') ↔ o.isSome ∨ e' ≠ e := by
  cases o <;> simp [need]

@[simp]
theorem avoids_ite [Decidable p] {y : Except ε α} :
    Avoids e (if p then x else y) ↔ (p → Avoids e x) ∧ (¬ p → Avoids e y) := by
  by_cases hp : p <;> simp [hp]

end MyApiSpec.Base
