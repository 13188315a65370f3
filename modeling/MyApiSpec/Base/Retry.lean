import MyApiSpec.Base.Outcome

/-!
# Retried transactions

The body of a transaction is a closure: what it assigns to the variables that it captures stays when it
fails or is rolled back, and the next attempt sees it. A commit is acknowledged, or takes effect without an
answer, or does not take effect. An attempt that failed is repeated while the error allows it.
-/

namespace MyApiSpec.Base

variable {σ V ε α β : Type} {s s' : σ} {v v' : V}

/-- A closure with captured variables. -/
def Body (V ε α : Type) : Type := V → Except ε α × V

namespace Body

variable {w : V}

instance : Monad (Body V ε) where
  pure a := fun v => (.ok a, v)
  bind x f := fun v =>
    match x v with
    | (.ok a, v') => f a v'
    | (.error e, v') => (.error e, v')

/-- A computation that assigns nothing. -/
def lift (x : Except ε α) : Body V ε α := fun v => (x, v)

/-- The captured variables. -/
def captured : Body V ε V := fun v => (.ok v, v)

/-- An assignment. -/
def assign (f : V → V) : Body V ε Unit := fun v => (.ok (), f v)

/-- A sequence returns when its parts do. -/
theorem bind_ok {x : Body V ε α} {f : α → Body V ε β} {b : β} :
    (x >>= f) v = (.ok b, w) ↔ ∃ a u, x v = (.ok a, u) ∧ f a u = (.ok b, w) := by
  show (match x v with
    | (.ok a, v') => f a v'
    | (.error e, v') => (.error e, v')) = _ ↔ _
  cases hx : x v with
  | mk r u =>
    cases r with
    | error e => simp
    | ok a =>
      constructor
      · intro h
        exact ⟨a, u, rfl, h⟩
      · rintro ⟨a', u', heq, h⟩
        cases heq
        exact h

theorem lift_ok {x : Except ε α} {a : α} :
    (lift x : Body V ε α) v = (.ok a, w) ↔ x = .ok a ∧ w = v := by
  simp [lift, eq_comm]

theorem pure_ok {a b : α} : (pure a : Body V ε α) v = (.ok b, w) ↔ b = a ∧ w = v := by
  show ((.ok a, v) : Except ε α × V) = _ ↔ _
  simp [eq_comm]

theorem captured_ok {u : V} : (captured : Body V ε V) v = (.ok u, w) ↔ u = v ∧ w = v := by
  simp [captured, eq_comm]

theorem assign_ok {f : V → V} {u : Unit} : (assign f : Body V ε Unit) v = (.ok u, w) ↔ w = f v := by
  simp [assign, eq_comm]

end Body

/-- What becomes of a commit. -/
inductive Delivery (ε : Type) where
  | acknowledged
  | lost (error : ε)
  | refused (error : ε)
  deriving DecidableEq, Repr

/-- What an attempt does not control: a context that ends before it, behind its failure or while it
waits, a transaction that cannot be opened, and the commit. -/
structure Circumstances (ε : Type) where
  cancelled : Option ε := none
  unopened : Option ε := none
  delivery : Delivery ε := .acknowledged
  interrupted : Option ε := none
  expired : Option ε := none
  deriving DecidableEq, Repr

/-- Whether the loop ends behind an attempt. -/
inductive Verdict (ε : Type) where
  | ends (result : Except ε Unit)
  | again

/-- One transaction on the store `s`: its answer, the store behind it, and the captured variables. -/
def transaction (c : Circumstances ε) (body : Body V ε σ) (s : σ) (v : V) : Except ε Unit × σ × V :=
  match c.unopened with
  | some e => (.error e, s, v)
  | none =>
    match body v, c.delivery with
    | (.error e, v'), _ => (.error e, s, v')
    | (.ok s', v'), .acknowledged => (.ok (), s', v')
    | (.ok s', v'), .lost e => (.error e, s', v')
    | (.ok _, v'), .refused e => (.error e, s, v')

/-- One round of the loop, with `left` rounds to go including this one. -/
def attempt (retryable : ε → Bool) (left : Nat) (c : Circumstances ε) (body : Body V ε σ) (s : σ) (v : V) :
    Verdict ε × σ × V :=
  match c.cancelled with
  | some e => (.ends (.error e), s, v)
  | none =>
    match transaction c body s v with
    | (.ok (), s', v') => (.ends (.ok ()), s', v')
    | (.error e, s', v') =>
      match c.interrupted, retryable e, c.expired with
      | some e', _, _ => (.ends (.error e'), s', v')
      | none, false, _ => (.ends (.error e), s', v')
      | none, true, some e' => (.ends (.error e'), s', v')
      | none, true, none => if left ≤ 1 then (.ends (.error e), s', v') else (.again, s', v')

/-- What one round can do: it is acknowledged, or it ends with an error or another round and has taken
effect or not. -/
inductive Attempted (body : Body V ε σ) (s : σ) (v : V) : Verdict ε → σ → V → Prop
  | acknowledged {s' : σ} {v' : V} (h : body v = (.ok s', v')) : Attempted body s v (.ends (.ok ())) s' v'
  | unanswered {verdict : Verdict ε} {s' : σ} {v' : V} (h : body v = (.ok s', v'))
      (hv : verdict ≠ .ends (.ok ())) : Attempted body s v verdict s' v'
  | undone {verdict : Verdict ε} {v' : V} (hv : verdict ≠ .ends (.ok ())) : Attempted body s v verdict s v'

variable {c : Circumstances ε} {body : Body V ε σ}

theorem transaction_error {e : ε} (h : transaction c body s v = (.error e, s', v')) :
    s' = s ∨ body v = (.ok s', v') := by
  unfold transaction at h
  split at h
  · cases h
    exact .inl rfl
  · split at h <;> cases h
    · exact .inl rfl
    · exact .inr ‹_›
    · exact .inl rfl

theorem transaction_ok {u : Unit} (h : transaction c body s v = (.ok u, s', v')) :
    body v = (.ok s', v') := by
  unfold transaction at h
  split at h
  · cases h
  · split at h <;> cases h
    assumption

theorem attempt_attempted {retryable : ε → Bool} {left : Nat} {verdict : Verdict ε}
    (h : attempt retryable left c body s v = (verdict, s', v')) :
    Attempted body s v verdict s' v' := by
  have failed : ∀ {e : ε} {verdict : Verdict ε}, transaction c body s v = (.error e, s', v') →
      verdict ≠ .ends (.ok ()) → Attempted body s v verdict s' v' := by
    intro e verdict ht hv
    rcases transaction_error ht with rfl | hb
    · exact .undone hv
    · exact .unanswered hb hv
  unfold attempt at h
  split at h
  · cases h
    exact .undone nofun
  · split at h
    · next ht =>
      cases h
      exact .acknowledged (transaction_ok ht)
    · next ht =>
      split at h
      · cases h
        exact failed ht nofun
      · cases h
        exact failed ht nofun
      · cases h
        exact failed ht nofun
      · split at h <;> cases h
        · exact failed ht nofun
        · exact failed ht nofun

end MyApiSpec.Base
