import Mathlib.Algebra.BigOperators.Group.List.Basic
import Mathlib.Algebra.Ring.Int.Defs
import Mathlib.Data.List.Nodup
import MyApiSpec.Base.Run

/-!
# Processes with local states

A configuration is one shared state and the local states of the processes in progress. A move starts
a process for a job or lets one process act atomically on the shared state and on its own local
state; between two actions of a process any others may act, and a process that never acts again has
crashed. An invariant of such a system speaks about the shared state, about every local state, about
the total of a measure over all local states, or about tickets that no two of them hold.
-/

namespace MyApiSpec.Base

open List

variable {σ L E J : Type}

/-- The shared state and the local states. -/
structure Config (σ L : Type) where
  shared : σ
  locals : List L := []

/-- What happens next; `e` is what the process does not control. -/
inductive Move (E J : Type) where
  | start (j : J)
  | act (k : Nat) (e : E)

/-- How jobs start and processes act; `none` when they cannot. -/
structure Machine (σ L E J : Type) where
  start : J → σ → Option (σ × L)
  act : σ → L → E → Option (σ × L)

/-- The total of a measure over the local states. -/
def Config.total (c : Config σ L) (f : L → Int) : Int := (c.locals.map f).sum

namespace Machine

/-- One move. -/
def step (m : Machine σ L E J) (c : Config σ L) : Move E J → Option (Config σ L)
  | .start j => (m.start j c.shared).map fun r => ⟨r.1, c.locals ++ [r.2]⟩
  | .act k e => c.locals[k]?.bind fun l =>
      (m.act c.shared l e).map fun r => ⟨r.1, c.locals.set k r.2⟩

/-- The moves lead from one configuration to the other. -/
def Reaches (m : Machine σ L E J) (c c' : Config σ L) : Prop :=
  ∃ moves, run m.step c moves = some c'

variable {m : Machine σ L E J} {c c' : Config σ L}

/-- What a move can do. -/
inductive Steps (m : Machine σ L E J) (c : Config σ L) : Move E J → Config σ L → Prop
  | start {j : J} {s : σ} {l : L} (h : m.start j c.shared = some (s, l)) :
    Steps m c (.start j) ⟨s, c.locals ++ [l]⟩
  | act {k : Nat} {e : E} {s : σ} {l l' : L} (hk : c.locals[k]? = some l)
    (h : m.act c.shared l e = some (s, l')) : Steps m c (.act k e) ⟨s, c.locals.set k l'⟩

variable {mv : Move E J}

theorem step_steps (h : m.step c mv = some c') : Steps m c mv c' := by
  cases mv with
  | start j =>
    obtain ⟨⟨s, l⟩, hs, rfl⟩ := Option.map_eq_some_iff.mp h
    exact .start hs
  | act k e =>
    obtain ⟨l, hk, h⟩ := Option.bind_eq_some_iff.mp h
    obtain ⟨⟨s, l'⟩, hs, rfl⟩ := Option.map_eq_some_iff.mp h
    exact .act hk hs

theorem Reaches.refl (c : Config σ L) : m.Reaches c c := ⟨[], rfl⟩

theorem Reaches.trans {c'' : Config σ L} (h : m.Reaches c c') (h' : m.Reaches c' c'') :
    m.Reaches c c'' := by
  obtain ⟨moves, hm⟩ := h
  obtain ⟨moves', hm'⟩ := h'
  exact ⟨moves ++ moves', by rw [run_append, hm]; exact hm'⟩

/-- What every move keeps holds of every configuration that is reached. -/
theorem Reaches.invariant (Inv : Config σ L → Prop)
    (hstep : ∀ c mv c', Inv c → Steps m c mv c' → Inv c') (h : m.Reaches c c') (hc : Inv c) :
    Inv c' := by
  obtain ⟨moves, hm⟩ := h
  exact run_invariant Inv (fun c mv c' hc hs => hstep c mv c' hc (step_steps hs)) moves c c' hc hm

/-! ### Invariants of the shared state and of every local state -/

/-- `I` holds of the shared state and `P` of every local state. -/
structure Holds (I : σ → Prop) (P : σ → L → Prop) (c : Config σ L) : Prop where
  shared : I c.shared
  locals : ∀ l ∈ c.locals, P c.shared l

/-- The shared state keeps `I`, and what the local states know of it. -/
structure Keeps (I : σ → Prop) (P : σ → L → Prop) (s s' : σ) (l' : L) : Prop where
  shared : I s'
  own : P s' l'
  others : ∀ l, P s l → P s' l

variable {I : σ → Prop} {P : σ → L → Prop} {s' : σ} {l' : L}

section

variable (hc : Holds I P c)
include hc

theorem Holds.start (h : Keeps I P c.shared s' l') :
    Holds I P ⟨s', c.locals ++ [l']⟩ := by
  refine ⟨h.shared, fun x hx => ?_⟩
  rcases mem_append.mp hx with hx | hx
  · exact h.others x (hc.locals x hx)
  · obtain rfl := mem_singleton.mp hx
    exact h.own

theorem Holds.act (k : Nat) (h : Keeps I P c.shared s' l') :
    Holds I P ⟨s', c.locals.set k l'⟩ := by
  refine ⟨h.shared, fun x hx => ?_⟩
  rcases mem_or_eq_of_mem_set hx with hx | rfl
  · exact h.others x (hc.locals x hx)
  · exact h.own

section

variable (hstart : ∀ j s s' l, I s → m.start j s = some (s', l) → Keeps I P s s' l)
include hstart

section

variable (hact : ∀ s l e s' l', I s → P s l → m.act s l e = some (s', l') → Keeps I P s s' l')
include hact

theorem Holds.steps
    (h : Steps m c mv c') : Holds I P c' := by
  cases h with
  | start hs => exact hc.start (hstart _ _ _ _ hc.shared hs)
  | act hk hs => exact hc.act _ (hact _ _ _ _ _ hc.shared (hc.locals _ (mem_of_getElem? hk)) hs)

theorem Holds.reaches
    (h : m.Reaches c c') : Holds I P c' :=
  h.invariant (Holds I P) (fun _ _ _ hc => hc.steps hstart hact) hc

end

end

end

/-! ### Totals -/

variable {l : L}

theorem total_set (s : σ) (f : L → Int) (l' : L) : ∀ {ls : List L} {k : Nat},
    ls[k]? = some l → Config.total ⟨s, ls.set k l'⟩ f = Config.total ⟨s, ls⟩ f - f l + f l'
  | [], k, hk => by simp at hk
  | x :: ls, 0, hk => by
    obtain rfl : x = l := by simpa using hk
    simp only [Config.total, set_cons_zero, map_cons, sum_cons]
    omega
  | x :: ls, k + 1, hk => by
    have htail : ls[k]? = some l := by simpa using hk
    have ih := total_set s f l' htail
    simp only [Config.total, set_cons_succ, map_cons, sum_cons] at ih ⊢
    omega

/-! ### Tickets

A ticket is a value that a local state holds. Tickets stay pairwise different when a process keeps its
own, drops it, or takes one that nobody holds. -/

variable {κ : Type}

theorem nodup_tickets_set {f : L → Option κ} : ∀ {ls : List L} {k : Nat},
    (ls.filterMap f).Nodup → ls[k]? = some l → (∀ a ∈ f l', f l = some a ∨ a ∉ ls.filterMap f) →
    ((ls.set k l').filterMap f).Nodup
  | [], k, _, hk, _ => by simp at hk
  | x :: ls, 0, hnodup, hk, hnew => by
    obtain rfl : x = l := by simpa using hk
    rw [set_cons_zero]
    have htail : (ls.filterMap f).Nodup := hnodup.sublist ((sublist_cons_self x ls).filterMap f)
    cases hf : f l' with
    | none => rwa [filterMap_cons_none hf]
    | some a =>
      rw [filterMap_cons_some hf, nodup_cons]
      refine ⟨?_, htail⟩
      rcases hnew a hf with hx | hx
      · rw [filterMap_cons_some hx] at hnodup
        exact (nodup_cons.mp hnodup).1
      · intro ha
        exact hx (((sublist_cons_self x ls).filterMap f).subset ha)
  | x :: ls, k + 1, hnodup, hk, hnew => by
    have htail : ls[k]? = some l := by simpa using hk
    have hsub := (sublist_cons_self x ls).filterMap f
    rw [set_cons_succ]
    have ih := nodup_tickets_set (hnodup.sublist hsub) htail fun a ha =>
      (hnew a ha).imp_right fun hn hmem => hn (hsub.subset hmem)
    cases hf : f x with
    | none => rwa [filterMap_cons_none hf]
    | some b =>
      rw [filterMap_cons_some hf] at hnodup hnew ⊢
      obtain ⟨hb, -⟩ := nodup_cons.mp hnodup
      refine nodup_cons.mpr ⟨?_, ih⟩
      -- the ticket of the head is neither kept nor taken by the process that acts
      intro hmem
      obtain ⟨y, hy, hyb⟩ := mem_filterMap.mp hmem
      rcases mem_or_eq_of_mem_set hy with hy | rfl
      · exact hb (mem_filterMap.mpr ⟨y, hy, hyb⟩)
      · rcases hnew b hyb with hl | hl
        · exact hb (mem_filterMap.mpr ⟨l, mem_of_getElem? htail, hl⟩)
        · exact hl mem_cons_self

theorem nodup_tickets_append {f : L → Option κ} {ls : List L}
    (hnodup : (ls.filterMap f).Nodup) (hnew : ∀ a ∈ f l, a ∉ ls.filterMap f) :
    ((ls ++ [l]).filterMap f).Nodup := by
  cases hf : f l with
  | none => simpa [hf] using hnodup
  | some a => simpa [hf, nodup_append'] using ⟨hnodup, by simpa using hnew a hf⟩

/-- Who holds the same ticket is the same process. -/
theorem eq_of_ticket {f : L → Option κ} {a : κ} : ∀ {ls : List L} {i j : Nat},
    (ls.filterMap f).Nodup → ls[i]? = some l → ls[j]? = some l' → f l = some a → f l' = some a → i = j
  | [], i, j, _, hi, _, _, _ => by simp at hi
  | x :: ls, i, j, hnodup, hi, hj, hl, hl' => by
    have htail : (ls.filterMap f).Nodup := hnodup.sublist ((sublist_cons_self x ls).filterMap f)
    -- the head's ticket is not among those of the tail
    have hhead : f x = some a → ∀ {k : Nat} {y : L}, ls[k]? = some y → f y ≠ some a := by
      intro hx k y hy hya
      rw [filterMap_cons_some hx] at hnodup
      exact (nodup_cons.mp hnodup).1 (mem_filterMap.mpr ⟨y, mem_of_getElem? hy, hya⟩)
    cases i with
    | zero =>
      obtain rfl : x = l := by simpa using hi
      cases j with
      | zero => rfl
      | succ j => exact absurd hl' (hhead hl (by simpa using hj))
    | succ i =>
      cases j with
      | zero =>
        obtain rfl : x = l' := by simpa using hj
        exact absurd hl (hhead hl' (by simpa using hi))
      | succ j =>
        have hij : i = j := eq_of_ticket htail (by simpa using hi) (by simpa using hj) hl hl'
        rw [hij]

end Machine

end MyApiSpec.Base
