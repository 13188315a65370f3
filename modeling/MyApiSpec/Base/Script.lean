import MyApiSpec.Base.Outcome

/-!
# Scripts of statements without a transaction

A script runs statements against a store one after the other. Nothing encloses them: what was
written before an error stays. The environment decides the outcome of every statement, so an
interruption at any point is one choice of outcomes, and a list of outcomes that ends early is
a deadline. `Ensures` relates the store before a script to the store behind it: an invariant
that holds on every exit, and a postcondition for a script that returns.
-/

namespace MyApiSpec.Base

variable {σ ε α β : Type}

/-- What happens to one statement: it is answered, it is executed but its answer is lost, or it
is not executed. -/
inductive StatementOutcome where
  | answered
  | lost
  | failed
  deriving DecidableEq, Repr

/-- A store with the outcomes of the statements that are still to come. -/
structure Session (σ : Type) where
  store : σ
  outcomes : List StatementOutcome

/-- A sequence of statements. -/
def Script (σ ε α : Type) : Type := Session σ → Except ε α × Session σ

namespace Script

variable {Q : α → σ → Prop} {x : Script σ ε α}

instance : Monad (Script σ ε) where
  pure a := fun s => (.ok a, s)
  bind x f := fun s =>
    match x s with
    | (.ok a, s') => f a s'
    | (.error e, s') => (.error e, s')

/-- End with an error. -/
def fail (e : ε) : Script σ ε α := fun s => (.error e, s)

/-- A computation that touches no store. -/
def lift (x : Except ε α) : Script σ ε α := fun s => (x, s)

/-- The number of statements that can still be made. -/
def budget : Script σ ε Nat := fun s => (.ok s.outcomes.length, s)

/-- A reading statement; `e` is the error of a statement that is not answered. -/
def query (e : ε) (f : σ → α) : Script σ ε α := fun s =>
  match s.outcomes with
  | .answered :: rest => (.ok (f s.store), { s with outcomes := rest })
  | _ :: rest => (.error e, { s with outcomes := rest })
  | [] => (.error e, s)

/-- A writing statement; a refused write changes nothing. -/
def exec (e : ε) (f : σ → Except ε σ) : Script σ ε Unit := fun s =>
  match s.outcomes with
  | [] => (.error e, s)
  | outcome :: rest =>
    match outcome, f s.store with
    | .failed, _ => (.error e, { s with outcomes := rest })
    | _, .error e' => (.error e', { s with outcomes := rest })
    | .answered, .ok t => (.ok (), ⟨t, rest⟩)
    | .lost, .ok t => (.error e, ⟨t, rest⟩)

/-- The result of a script as a value, so that its error can be handled. -/
def attempt (x : Script σ ε α) : Script σ ε (Except ε α) := fun s =>
  (.ok (x s).1, (x s).2)

/-! ### Pre- and postconditions -/

/-- Started in a store with the invariant and the precondition, the script keeps the invariant,
and a result meets the postcondition. -/
def Ensures (I P : σ → Prop) (x : Script σ ε α) (Q : α → σ → Prop) : Prop :=
  ∀ s, I s.store → P s.store → I (x s).2.store ∧ ∀ a, (x s).1 = .ok a → Q a (x s).2.store

variable {I P : σ → Prop}

theorem Ensures.pure {a : α} (h : ∀ s, I s → P s → Q a s) :
    Ensures I P (Pure.pure a : Script σ ε α) Q := by
  intro s hI hP
  refine ⟨hI, ?_⟩
  intro b hb
  cases hb
  exact h s.store hI hP

theorem Ensures.bind {R : α → σ → Prop} {Q : β → σ → Prop} {f : α → Script σ ε β}
    (hx : Ensures I P x R) (hf : ∀ a, Ensures I (R a) (f a) Q) : Ensures I P (x >>= f) Q := by
  intro s hI hP
  obtain ⟨hI', hR⟩ := hx s hI hP
  show I (match x s with
      | (.ok a, s') => f a s'
      | (.error e, s') => (.error e, s')).2.store ∧ ∀ b, (match x s with
      | (.ok a, s') => f a s'
      | (.error e, s') => (.error e, s')).1 = .ok b → Q b (match x s with
      | (.ok a, s') => f a s'
      | (.error e, s') => (.error e, s')).2.store
  rcases hxs : x s with ⟨r, s'⟩
  rw [hxs] at hI' hR
  cases r with
  | error e => exact ⟨hI', fun b hb => by cases hb⟩
  | ok a => exact hf a s' hI' (hR a rfl)

/-- A stronger precondition and a weaker postcondition. -/
theorem Ensures.mono {P' : σ → Prop} {Q' : α → σ → Prop} (h : Ensures I P x Q)
    (hP : ∀ s, I s → P' s → P s) (hQ : ∀ a s, I s → Q a s → Q' a s) : Ensures I P' x Q' := by
  intro s hI hP'
  obtain ⟨hI', hR⟩ := h s hI (hP s.store hI hP')
  exact ⟨hI', fun a ha => hQ a _ hI' (hR a ha)⟩

/-- A part of the precondition that every statement keeps holds on every exit. -/
theorem Ensures.carry {J : σ → Prop} (h : Ensures (fun s => I s ∧ J s) P x Q) :
    Ensures I (fun s => P s ∧ J s) x (fun a s => Q a s ∧ J s) := by
  intro s hI hP
  obtain ⟨⟨hI', hJ'⟩, hQ⟩ := h s ⟨hI, hP.2⟩ hP.1
  exact ⟨hI', fun a ha => ⟨hQ a ha, hJ'⟩⟩

/-- The store before a script may be named. -/
theorem Ensures.named (h : ∀ t, P t → Ensures I (fun s => s = t) x Q) : Ensures I P x Q :=
  fun s hI hP => h s.store hP s hI rfl

theorem ensures_fail (e : ε) : Ensures I P (fail e : Script σ ε α) Q := by
  intro s hI hP
  exact ⟨hI, fun a ha => by cases ha⟩

theorem ensures_lift {x : Except ε α} (h : ∀ a, x = .ok a → ∀ s, I s → P s → Q a s) :
    Ensures I P (lift x) Q := by
  intro s hI hP
  exact ⟨hI, fun a ha => h a ha s.store hI hP⟩

theorem ensures_budget : Ensures I P (budget : Script σ ε Nat) (fun _ => P) := by
  intro s hI hP
  exact ⟨hI, fun _ _ => hP⟩

theorem ensures_query (e : ε) {f : σ → α} (h : ∀ s, I s → P s → Q (f s) s) :
    Ensures I P (query e f) Q := by
  rintro ⟨s, outcomes⟩ hI hP
  cases outcomes with
  | nil => exact ⟨hI, fun a ha => by cases ha⟩
  | cons o rest =>
    cases o with
    | answered =>
      refine ⟨hI, ?_⟩
      intro a ha
      cases ha
      exact h s hI hP
    | lost | failed => exact ⟨hI, fun a ha => by cases ha⟩

theorem ensures_exec {Q : Unit → σ → Prop} (e : ε) {f : σ → Except ε σ}
    (h : ∀ s t, I s → P s → f s = .ok t → I t ∧ Q () t) : Ensures I P (exec e f) Q := by
  rintro ⟨s, outcomes⟩ hI hP
  unfold exec
  cases outcomes with
  | nil => exact ⟨hI, fun a ha => by cases ha⟩
  | cons o rest =>
    cases hf : f s with
    | error e' => cases o <;> exact ⟨hI, fun a ha => by cases ha⟩
    | ok t =>
      obtain ⟨hIt, hQ⟩ := h s t hI hP hf
      cases o with
      | answered => exact ⟨hIt, fun _ _ => hQ⟩
      | lost => exact ⟨hIt, fun a ha => by cases ha⟩
      | failed => exact ⟨hI, fun a ha => by cases ha⟩

/-- A handled script: the invariant holds whatever its result was. -/
theorem Ensures.attempt (h : Ensures I P x Q) :
    Ensures I P (attempt x) (fun r s => ∀ a, r = .ok a → Q a s) := by
  intro s hI hP
  obtain ⟨hI', hQ⟩ := h s hI hP
  refine ⟨hI', ?_⟩
  intro r hr a ha
  cases hr
  exact hQ a ha

/-- A fold over a list, with an assertion between every two elements. -/
theorem Ensures.foldlM {f : β → α → Script σ ε β} (A : List α → β → σ → Prop)
    (hf : ∀ x l b, Ensures I (A (x :: l) b) (f b x) (A l)) :
    ∀ (l : List α) (b : β), Ensures I (A l b) (l.foldlM f b) (A []) := by
  intro l
  induction l with
  | nil =>
    intro b
    exact Ensures.pure fun _ _ hA => hA
  | cons x l ih =>
    intro b
    exact (hf x l b).bind fun c => ih c

end Script

end MyApiSpec.Base
