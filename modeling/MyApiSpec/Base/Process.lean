import MyApiSpec.Base.Run
import MyApiSpec.Base.Script
import Mathlib.Algebra.BigOperators.Group.List.Basic
import Mathlib.Algebra.Ring.Int.Defs

/-!
# Concurrent processes over one shared state

A program is the sequence of its atomic actions on the shared state; between two of them any
other process may act. The environment value of an action is what the process does not control:
the outcome of a statement, a clock. A system holds the shared state, the processes in progress
and the history of all transitions, each under the job that made it. A process that is never
advanced again has crashed.

`Safe` is the rely–guarantee judgement: under interference by `R` the program keeps the
invariant, and each of its own transitions meets the guarantee. The rules follow the program
text, and `System.run_sound` turns the judgements of all jobs into an invariant of every run.
-/

namespace MyApiSpec.Base

open List

variable {σ E J ε α β : Type} {s : σ} {P : α → Prop}

/-- A program: a result, or an atomic action on the shared state and what follows it. -/
inductive Prog (σ E α : Type) where
  | ret (a : α)
  | atom (act : σ → E → σ) (next : σ → E → Prog σ E α)

namespace Prog

variable {p : Prog σ E α}

/-- Run a program and continue with its result. -/
def bind : Prog σ E α → (α → Prog σ E β) → Prog σ E β
  | .ret a, f => f a
  | .atom act next, f => .atom act (fun s e => (next s e).bind f)

instance : Monad (Prog σ E) where
  pure := .ret
  bind := bind

/-- One atomic action with a result. -/
def update (f : σ → E → σ × α) : Prog σ E α :=
  .atom (fun s e => (f s e).1) (fun s e => .ret (f s e).2)

/-- One atomic read. -/
def read (f : σ → E → α) : Prog σ E α := .atom (fun s _ => s) (fun s e => .ret (f s e))

/-! ### Rely and guarantee -/

/-- Started in `s` and disturbed by `R`, the program keeps `I`, its own transitions meet `G`, and
its result meets `Q`. -/
def Safe (I : σ → Prop) (G R : σ → σ → Prop) (Q : α → σ → Prop) : Prog σ E α → σ → Prop
  | .ret a, s => Q a s
  | .atom act next, s => ∀ s', R s s' → I s' → ∀ e,
      G s' (act s' e) ∧ I (act s' e) ∧ Safe I G R Q (next s' e) (act s' e)

variable {I : σ → Prop} {G R : σ → σ → Prop} {Q : α → σ → Prop} {a : α}

theorem safe_pure (h : Q a s) : Safe I G R Q (pure a : Prog σ E α) s := h

variable {f : α → Prog σ E β} {Q' : β → σ → Prop}

theorem Safe.bind (hp : Safe I G R Q p s) (hI : I s)
    (hf : ∀ a s', I s' → Q a s' → Safe I G R Q' (f a) s') : Safe I G R Q' (p >>= f) s := by
  induction p generalizing s with
  | ret a => exact hf a s hI hp
  | atom act next ih =>
    intro s' hR hI' e
    obtain ⟨hG, hI'', hnext⟩ := hp s' hR hI' e
    exact ⟨hG, hI'', ih s' e hnext hI''⟩

variable {Q' : α → σ → Prop}

/-- A weaker postcondition. -/
theorem Safe.mono (hp : Safe I G R Q p s) (hI : I s)
    (hQ : ∀ a s', I s' → Q a s' → Q' a s') : Safe I G R Q' p s := by
  induction p generalizing s with
  | ret a => exact hQ a s hI hp
  | atom act next ih =>
    intro s' hR hI' e
    obtain ⟨hG, hI'', hnext⟩ := hp s' hR hI' e
    exact ⟨hG, hI'', ih s' e hnext hI''⟩

/-- Interference does not spoil a judgement whose postcondition it keeps. -/
theorem Safe.stable {s' : σ} (hp : Safe I G R Q p s) (htrans : ∀ a b c, R a b → R b c → R a c)
    (hQ : ∀ a, Q a s → Q a s') (hR : R s s') : Safe I G R Q p s' := by
  cases p with
  | ret a => exact hQ a hp
  | atom act next =>
    intro t hRt hI e
    exact hp t (htrans s s' t hR hRt) hI e

theorem safe_update {f : σ → E → σ × α}
    (h : ∀ s', R s s' → I s' → ∀ e, G s' (f s' e).1 ∧ I (f s' e).1 ∧ Q (f s' e).2 (f s' e).1) :
    Safe I G R Q (update f) s := h

theorem safe_read {f : σ → E → α} (hG : ∀ s', G s' s')
    (h : ∀ s', R s s' → I s' → ∀ e, Q (f s' e) s') : Safe I G R Q (read f) s := by
  intro s' hR hI e
  exact ⟨hG s', hI, h s' hR hI e⟩

/-- The program alone, with the choices of the environment in their order; it stops where they
end. -/
def exec : Prog σ E α → σ → List E → σ
  | .atom act next, s, e :: es => exec (next s e) (act s e) es
  | _, s, _ => s

/-- The result of the program alone, if the choices last. -/
def outcome : Prog σ E α → σ → List E → Option α
  | .ret a, _, _ => some a
  | .atom act next, s, e :: es => outcome (next s e) (act s e) es
  | .atom _ _, _, [] => none

/-- The program alone from start to end, with one choice of the environment for all its actions. -/
def alone (e : E) : Prog σ E α → σ → σ × α
  | .ret a, s => (s, a)
  | .atom act next, s => alone e (next s e) (act s e)

variable {p : Prog σ E α}

/-- A program that is safe keeps its invariant when it runs alone. -/
theorem Safe.exec (hp : Safe I G R Q p s) (hR : ∀ s, R s s) (hI : I s) (es : List E) :
    I (p.exec s es) := by
  induction p generalizing s es with
  | ret a => exact hI
  | atom act next ih =>
    cases es with
    | nil => exact hI
    | cons e es =>
      obtain ⟨-, hI', hnext⟩ := hp s (hR s) hI e
      exact ih s e hnext hI' es

/-- The result of a program that is safe and runs alone meets the postcondition. -/
theorem Safe.outcome (hp : Safe I G R Q p s) (hR : ∀ s, R s s) (hI : I s) {es : List E}
    (h : p.outcome s es = some a) : Q a (p.exec s es) := by
  induction p generalizing s es with
  | ret b =>
    cases h
    exact hp
  | atom act next ih =>
    cases es with
    | nil => cases h
    | cons e es =>
      obtain ⟨-, hI', hnext⟩ := hp s (hR s) hI e
      exact ih s e hnext hI' h

/-! ### Programs that keep an invariant from every state

Most programs need nothing but the invariant: each action keeps it from every state. -/

/-- Every action keeps `I` and meets `G`, and the result meets `Q`. -/
def Keeps (I : σ → Prop) (G : σ → σ → Prop) (Q : α → Prop) : Prog σ E α → Prop
  | .ret a => Q a
  | .atom act next => ∀ s e, I s → G s (act s e) ∧ I (act s e) ∧ Keeps I G Q (next s e)

theorem keeps_pure (h : P a) : Keeps I G P (pure a : Prog σ E α) := h

theorem keeps_update {f : σ → E → σ × α}
    (h : ∀ s e, I s → G s (f s e).1 ∧ I (f s e).1 ∧ P (f s e).2) : Keeps I G P (update f) := h

theorem keeps_read {f : σ → E → α} (hG : ∀ s, I s → G s s) (h : ∀ s e, I s → P (f s e)) :
    Keeps I G P (read f) := by
  intro s e hI
  exact ⟨hG s hI, hI, h s e hI⟩

theorem Keeps.bind {P' : β → Prop} (hp : Keeps I G P p)
    (hf : ∀ a, P a → Keeps I G P' (f a)) : Keeps I G P' (p >>= f) := by
  induction p with
  | ret a => exact hf a hp
  | atom act next ih =>
    intro s e hI
    obtain ⟨hG, hI', hnext⟩ := hp s e hI
    exact ⟨hG, hI', ih s e hnext⟩

theorem Keeps.mono {P' : α → Prop} (hp : Keeps I G P p) (hP : ∀ a, P a → P' a) :
    Keeps I G P' p := by
  induction p with
  | ret a => exact hP a hp
  | atom act next ih =>
    intro s e hI
    obtain ⟨hG, hI', hnext⟩ := hp s e hI
    exact ⟨hG, hI', ih s e hnext⟩

theorem Keeps.safe_all (hp : Keeps I G P p) (s : σ) : Safe I G R (fun a _ => P a) p s := by
  induction p generalizing s with
  | ret a => exact hp
  | atom act next ih =>
    intro s' _ hI e
    obtain ⟨hG, hI', hnext⟩ := hp s' e hI
    exact ⟨hG, hI', ih s' e hnext (act s' e)⟩

/-- Knowledge that interference keeps can be added to the invariant of a program. -/
theorem Keeps.safe {K : σ → Prop} (hp : Keeps (fun t => I t ∧ K t) G P p)
    (hK : ∀ a b, R a b → K a → K b) (hs : K s) : Safe I G R (fun a t => P a ∧ K t) p s := by
  induction p generalizing s with
  | ret a => exact ⟨hp, hs⟩
  | atom act next ih =>
    intro s' hR hI e
    obtain ⟨hG, ⟨hI', hK'⟩, hnext⟩ := hp s' e ⟨hI, hK s s' hR hs⟩
    exact ⟨hG, hI', ih s' e hnext hK'⟩

end Prog

/-! ### Statements and transactions

A statement is answered, is executed without an answer, or is not executed. The error of a
statement that is not answered is given with it. -/

/-- A program that returns or fails. -/
abbrev Routine (σ E ε α : Type) : Type := ExceptT ε (Prog σ E) α

namespace Routine

variable {I : σ → Prop} {G R : σ → σ → Prop} {s : σ} {x : Routine σ E ε α} {f : α → Routine σ E ε β}
  {δ : Type}

/-- The result of a routine as a value, so that its error can be handled. -/
def attempt (x : Routine σ E ε α) : Routine σ E ε (Except ε α) := ExceptT.mk do
  let r ← x.run
  return .ok r

/-- The result of a routine as a value for a caller with other errors. -/
def catching {δ : Type} (x : Routine σ E ε α) : Routine σ E δ (Except ε α) := ExceptT.mk do
  let r ← x.run
  return .ok r

/-- A computation without an action. -/
def lift (x : Except ε α) : Routine σ E ε α := ExceptT.mk (pure x)

/-- A judgement about a routine: one postcondition for a result, one for an error. -/
def Safe (I : σ → Prop) (G R : σ → σ → Prop) (Q : α → σ → Prop) (F : ε → σ → Prop)
    (x : Routine σ E ε α) (s : σ) : Prop :=
  Prog.Safe I G R (fun r s' => match r with
    | .ok a => Q a s'
    | .error e => F e s') x.run s

variable {Q : α → σ → Prop} {F : ε → σ → Prop}

theorem safe_pure (h : Q a s) : Safe I G R Q F (pure a : Routine σ E ε α) s := h

theorem safe_throw {e : ε} (h : F e s) : Safe I G R Q F (throw e : Routine σ E ε α) s := h

theorem safe_lift {x : Except ε α} (hok : ∀ a, x = .ok a → Q a s) (herr : ∀ e, x = .error e → F e s) :
    Safe I G R Q F (lift x : Routine σ E ε α) s := by
  cases x with
  | error e => exact herr e rfl
  | ok a => exact hok a rfl

/-- The program behind a routine goes on from its result or from its error. -/
theorem Safe.run {k : Except ε α → Prog σ E δ} {P : δ → σ → Prop} (hx : Safe I G R Q F x s) (hI : I s)
    (hok : ∀ a s', I s' → Q a s' → Prog.Safe I G R P (k (.ok a)) s')
    (herr : ∀ e s', I s' → F e s' → Prog.Safe I G R P (k (.error e)) s') :
    Prog.Safe I G R P (x.run >>= k) s := by
  apply Prog.Safe.bind hx hI
  intro r s' hI' hr
  cases r with
  | error e => exact herr e s' hI' hr
  | ok a => exact hok a s' hI' hr

theorem Safe.bind (hx : Safe I G R Q F x s) (hI : I s)
    (hf : ∀ a s', I s' → Q a s' → Safe I G R Q' F (f a) s') : Safe I G R Q' F (x >>= f) s :=
  hx.run hI hf fun _ _ _ he => he

variable {F' : ε → σ → Prop}

theorem Safe.mono (hx : Safe I G R Q F x s) (hI : I s)
    (hQ : ∀ a s', I s' → Q a s' → Q' a s') (hF : ∀ e s', I s' → F e s' → F' e s') :
    Safe I G R Q' F' x s := by
  apply Prog.Safe.mono hx hI
  intro r s' hI' hr
  cases r with
  | error e => exact hF e s' hI' hr
  | ok a => exact hQ a s' hI' hr

theorem Safe.attempt {Q' : Except ε α → σ → Prop} (hx : Safe I G R Q F x s)
    (hI : I s) (hQ : ∀ a s', I s' → Q a s' → Q' (.ok a) s')
    (hF : ∀ e s', I s' → F e s' → Q' (.error e) s') : Safe I G R Q' F' (attempt x) s :=
  hx.run hI hQ hF

variable {g : ε → δ}

theorem Safe.adapt {H : δ → σ → Prop} (hx : Safe I G R Q F x s) (hI : I s)
    (hH : ∀ e s', I s' → F e s' → H (g e) s') : Safe I G R Q H (ExceptT.adapt g x) s :=
  hx.run hI (fun _ _ _ ha => ha) hH

/-- Every action keeps `I` and meets `G`, a result meets `P` and an error meets `H`. -/
def Keeps (I : σ → Prop) (G : σ → σ → Prop) (P : α → Prop) (H : ε → Prop)
    (x : Routine σ E ε α) : Prop :=
  Prog.Keeps I G (fun r => match r with
    | .ok a => P a
    | .error e => H e) x.run

variable {P : α → Prop} {P' : β → Prop} {H : ε → Prop}

theorem keeps_pure (h : P a) : Keeps I G P H (pure a : Routine σ E ε α) := h

theorem keeps_throw {e : ε} (h : H e) : Keeps I G P H (throw e : Routine σ E ε α) := h

theorem keeps_lift {x : Except ε α} (h : ∀ a, x = .ok a → P a) (hH : ∀ e, x = .error e → H e) :
    Keeps I G P H (lift x : Routine σ E ε α) := by
  cases x with
  | error e => exact hH e rfl
  | ok a => exact h a rfl

/-- The rule `Safe.run` for programs that keep an invariant. -/
theorem Keeps.run {k : Except ε α → Prog σ E δ} {Q : δ → Prop} (hx : Keeps I G P H x)
    (hok : ∀ a, P a → Prog.Keeps I G Q (k (.ok a)))
    (herr : ∀ e, H e → Prog.Keeps I G Q (k (.error e))) : Prog.Keeps I G Q (x.run >>= k) := by
  apply Prog.Keeps.bind hx
  intro r hr
  cases r with
  | error e => exact herr e hr
  | ok a => exact hok a hr

theorem Keeps.bind (hx : Keeps I G P H x) (hf : ∀ a, P a → Keeps I G P' H (f a)) :
    Keeps I G P' H (x >>= f) :=
  hx.run hf fun _ he => he

/-- A part whose result does not matter for what follows. -/
theorem Keeps.before (hx : Keeps I G (fun _ => True) H x) (hf : ∀ a, Keeps I G P' H (f a)) :
    Keeps I G P' H (x >>= f) :=
  hx.bind fun a _ => hf a

variable {H' : ε → Prop}

theorem Keeps.mono {P' : α → Prop} (hx : Keeps I G P H x) (hP : ∀ a, P a → P' a)
    (hH : ∀ e, H e → H' e) : Keeps I G P' H' x := by
  apply Prog.Keeps.mono hx
  intro r hr
  cases r with
  | error e => exact hH e hr
  | ok a => exact hP a hr

theorem Keeps.adapt {H' : δ → Prop} (hx : Keeps I G P H x) (hH : ∀ e, H e → H' (g e)) :
    Keeps I G P H' (ExceptT.adapt g x) :=
  hx.run (fun _ ha => ha) hH

theorem Keeps.adapted (hx : Keeps I G P H x) :
    Keeps I G P (fun _ => True) (ExceptT.adapt g x) :=
  hx.adapt fun _ _ => trivial

variable {P' : Except ε α → Prop}

theorem Keeps.attempt (hx : Keeps I G P H x)
    (hok : ∀ a, P a → P' (.ok a)) (herr : ∀ e, H e → P' (.error e)) :
    Keeps I G P' H' (attempt x) :=
  hx.run hok herr

/-- The result of a routine as a value for a caller with other errors. -/
theorem Keeps.caught {H' : δ → Prop} (hx : Keeps I G P H x)
    (hok : ∀ a, P a → P' (.ok a)) (herr : ∀ e, H e → P' (.error e)) :
    Keeps I G P' H' (catching x : Routine σ E δ (Except ε α)) :=
  hx.run hok herr

/-- The rule `Prog.Keeps.safe` for a routine. -/
theorem Keeps.safe {K : σ → Prop} (hx : Keeps (fun t => I t ∧ K t) G P H x)
    (hK : ∀ a b, R a b → K a → K b) (hI : I s) (hs : K s) :
    Safe I G R (fun a t => P a ∧ K t) (fun e t => H e ∧ K t) x s := by
  apply (Prog.Keeps.safe hx hK hs).mono hI
  intro r s' _ hr
  cases r with
  | error e => exact hr
  | ok a => exact hr

end Routine

/-! ### Systems -/

/-- A process: the job it was started for and the rest of its program. -/
structure Process (σ E J : Type) where
  job : J
  prog : Prog σ E Unit

/-- One transition of the shared state and the job that made it. -/
structure Transition (σ J : Type) where
  job : J
  before : σ
  after : σ

/-- Shared state, processes, and the history with the newest transition first. -/
structure System (σ E J : Type) where
  state : σ
  processes : List (Process σ E J) := []
  history : List (Transition σ J) := []

/-- What happens next: a job is started, or a process makes its next action. -/
inductive Event (E J : Type) where
  | launch (j : J)
  | advance (k : Nat) (e : E)

namespace System

variable {w : System σ E J}

/-- The step function; `launch` gives the first transition and the program of a job, `none` when
the job cannot be started now. -/
def step (launch : J → σ → Option (σ × Prog σ E Unit)) (w : System σ E J) :
    Event E J → Option (System σ E J)
  | .launch j =>
    match launch j w.state with
    | some (s, p) => some ⟨s, w.processes ++ [⟨j, p⟩], ⟨j, w.state, s⟩ :: w.history⟩
    | none => none
  | .advance k e =>
    match w.processes[k]? with
    | some ⟨j, .atom act next⟩ =>
      some ⟨act w.state e, w.processes.set k ⟨j, next w.state e⟩,
        ⟨j, w.state, act w.state e⟩ :: w.history⟩
    | _ => none

/-- The history leads from `s₀` to `s`. -/
def Linked (s₀ : σ) : List (Transition σ J) → σ → Prop
  | [], s => s = s₀
  | t :: ts, s => t.after = s ∧ Linked s₀ ts t.before

/-- The amount by which the jobs that satisfy `p` moved the measure `m`. -/
def moved (w : System σ E J) (p : J → Bool) (m : σ → Int) : Int :=
  ((w.history.filter (fun t => p t.job)).map (fun t => m t.after - m t.before)).sum

/-- The invariant that soundness carries along a run. -/
structure Sound (I : σ → Prop) (G : J → σ → σ → Prop) (R : σ → σ → Prop) (s₀ : σ)
    (w : System σ E J) : Prop where
  inv : I w.state
  safe : ∀ p ∈ w.processes, Prog.Safe I (G p.job) R (fun _ _ => True) p.prog w.state
  guarantee : ∀ t ∈ w.history, G t.job t.before t.after
  linked : Linked s₀ w.history w.state

variable {I : σ → Prop} {G : J → σ → σ → Prop} {R : σ → σ → Prop} {s₀ : σ}
  {launch : J → σ → Option (σ × Prog σ E Unit)}

theorem sound_init (h : I s₀) : Sound I G R s₀ (⟨s₀, [], []⟩ : System σ E J) :=
  ⟨h, by simp, by simp, rfl⟩

section

variable {w' : System σ E J} (hrefl : ∀ s, R s s) (htrans : ∀ a b c, R a b → R b c → R a c)
  (hG : ∀ j s s', G j s s' → R s s')
  (hlaunch : ∀ j s s' p, I s → launch j s = some (s', p) →
    G j s s' ∧ I s' ∧ Prog.Safe I (G j) R (fun _ _ => True) p s')

include htrans hG in
/-- A transition of one process, which leaves the others as they are. -/
theorem Sound.transition {j : J} {s : σ} {ps : List (Process σ E J)} (hw : Sound I G R s₀ w)
    (hg : G j w.state s) (hi : I s) (hps : ∀ q ∈ ps, q ∈ w.processes ∨
      Prog.Safe I (G q.job) R (fun _ _ => True) q.prog s) :
    Sound I G R s₀ ⟨s, ps, ⟨j, w.state, s⟩ :: w.history⟩ := by
  refine ⟨hi, ?_, forall_mem_cons.mpr ⟨hg, hw.guarantee⟩, rfl, hw.linked⟩
  intro q hq
  rcases hps q hq with hq | hq
  · exact (hw.safe q hq).stable htrans (fun _ _ => trivial) (hG j _ _ hg)
  · exact hq

include hrefl htrans hG hlaunch

theorem Sound.step {ev : Event E J} (hw : Sound I G R s₀ w) (h : w.step launch ev = some w') :
    Sound I G R s₀ w' := by
  cases ev with
  | launch j =>
    simp only [System.step] at h
    split at h <;> cases h
    next s p hl =>
      obtain ⟨hg, hi, hp⟩ := hlaunch j w.state s p hw.inv hl
      refine hw.transition htrans hG hg hi fun q hq => ?_
      rcases mem_append.mp hq with hq | hq
      · exact .inl hq
      · obtain rfl := mem_singleton.mp hq
        exact .inr hp
  | advance k e =>
    simp only [System.step] at h
    split at h <;> cases h
    next j act next hk =>
      have hmem := mem_of_getElem? hk
      obtain ⟨hg, hi, hp⟩ := hw.safe _ hmem w.state (hrefl _) hw.inv e
      refine hw.transition htrans hG hg hi fun q hq => ?_
      rcases mem_or_eq_of_mem_set hq with hq | rfl
      · exact .inl hq
      · exact .inr hp

/-- The judgements of all jobs make their invariant, their guarantees and the linked history hold
at the end of every run. -/
theorem run_sound {evs : List (Event E J)} (hw : Sound I G R s₀ w)
    (h : run (step launch) w evs = some w') : Sound I G R s₀ w' :=
  run_invariant (Sound I G R s₀)
    (fun _ _ _ => Sound.step hrefl htrans hG hlaunch) evs w w' hw h

end

/-- Every state of the history is related to the present one. -/
theorem Linked.related (htrans : ∀ a b c, R a b → R b c → R a c)
    (hlinked : Linked s₀ w.history w.state) (hR : ∀ t ∈ w.history, R t.before t.after) :
    ∀ t ∈ w.history, R t.before w.state := by
  generalize w.history = ts at hlinked hR
  generalize w.state = s at hlinked
  induction ts generalizing s with
  | nil =>
    intro t ht
    cases ht
  | cons t ts ih =>
    obtain ⟨rfl, hrest⟩ := hlinked
    have hnow := hR t mem_cons_self
    intro u hu
    rcases mem_cons.mp hu with rfl | hu
    · exact hnow
    · exact htrans _ _ _
        (ih (fun x hx => hR x (mem_cons_of_mem t hx)) t.before hrest u hu) hnow

/-- What every transition of the history keeps holds of every state of the history. -/
theorem Linked.invariant {P : σ → Prop} {ts : List (Transition σ J)} {s : σ}
    (hlinked : Linked s₀ ts s) (h₀ : P s₀) (hstep : ∀ t ∈ ts, P t.before → P t.after) :
    P s ∧ ∀ t ∈ ts, P t.before := by
  induction ts generalizing s with
  | nil =>
    obtain rfl : s = s₀ := hlinked
    exact ⟨h₀, by simp⟩
  | cons t ts ih =>
    obtain ⟨rfl, hrest⟩ := hlinked
    obtain ⟨hbefore, hall⟩ := ih hrest fun x hx => hstep x (mem_cons_of_mem t hx)
    refine ⟨hstep t mem_cons_self hbefore, ?_⟩
    intro x hx
    rcases mem_cons.mp hx with rfl | hx
    · exact hbefore
    · exact hall x hx

/-- When the chosen jobs move the measure `m` as they move `φ`, and the others leave `φ` alone,
the total they moved is the change of `φ` since the start. -/
theorem moved_eq {p : J → Bool} {m φ : σ → Int} (hlinked : Linked s₀ w.history w.state)
    (hown : ∀ t ∈ w.history, p t.job = true → m t.after - m t.before = φ t.after - φ t.before)
    (hother : ∀ t ∈ w.history, p t.job = false → φ t.after = φ t.before) :
    w.moved p m = φ w.state - φ s₀ := by
  unfold moved
  generalize w.history = ts at hlinked hown hother
  generalize w.state = s at hlinked
  induction ts generalizing s with
  | nil =>
    obtain rfl : s = s₀ := hlinked
    simp
  | cons t ts ih =>
    obtain ⟨rfl, hrest⟩ := hlinked
    have hsum := ih (fun x hx => hown x (mem_cons_of_mem t hx))
      (fun x hx => hother x (mem_cons_of_mem t hx)) t.before hrest
    cases hp : p t.job with
    | true =>
      have := hown t mem_cons_self hp
      simp only [filter_cons, hp, if_true, map_cons, sum_cons, hsum]
      omega
    | false =>
      have := hother t mem_cons_self hp
      simp only [filter_cons, hp, Bool.false_eq_true, if_false, hsum]
      omega

end System

-- the judgements are used through their rules; unfolding them would run the program
attribute [irreducible] Prog.Safe Prog.Keeps

end MyApiSpec.Base
