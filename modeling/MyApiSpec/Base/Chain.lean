import Mathlib.Data.List.Nodup
import Mathlib.Data.List.Perm.Subperm
import Mathlib.Logic.Relation

/-!
# Following a chain

A partial successor function is followed from a start until it has no successor or comes back to a visited value.
On a finite domain one of the two happens, and which one says whether the chain ends or runs into a cycle.
-/

namespace MyApiSpec.Base

open Relation List

variable {α : Type} {a e y : α}

/-- `b` is the successor of `a`. -/
def Follows (next : α → Option α) (a b : α) : Prop := next a = some b

/-- The chain from `a` ends at `e`. -/
def EndsAt (next : α → Option α) (a e : α) : Prop := ReflTransGen (Follows next) a e ∧ next e = none

/-- The chain from `a` runs into a cycle. -/
def RunsIntoCycle (next : α → Option α) (a : α) : Prop :=
  ∃ x, ReflTransGen (Follows next) a x ∧ TransGen (Follows next) x x

/-- Follow the chain from `current`: the end, `some none` behind a return to a visited value, `none` out of fuel. -/
def followChain [DecidableEq α] (next : α → Option α) : Nat → List α → α → Option (Option α)
  | 0, _, _ => none
  | fuel + 1, visited, current =>
    match next current with
    | none => some (some current)
    | some n => if n ∈ visited then some none else followChain next fuel (n :: visited) n

variable {next : α → Option α}

/-- From a value on a cycle one comes to values on a cycle only. -/
theorem TransGen.follow {x : α} (h : TransGen (Follows next) x x)
    (hxy : ReflTransGen (Follows next) x y) : TransGen (Follows next) y y := by
  induction hxy with
  | refl => exact h
  | tail _ hyz ih =>
    obtain ⟨z, hz, hback⟩ := TransGen.head'_iff.mp ih
    cases hz.symm.trans hyz
    exact TransGen.tail' hback hz

/-- Two values of one chain lie behind each other. -/
theorem follows_total {x : α} (hx : ReflTransGen (Follows next) a x)
    (hy : ReflTransGen (Follows next) a y) :
    ReflTransGen (Follows next) x y ∨ ReflTransGen (Follows next) y x :=
  ReflTransGen.total_of_right_unique (fun _ _ _ h h' => Option.some.inj (h.symm.trans h')) hx hy

/-- Nothing but itself lies behind the end. -/
theorem eq_of_follows_end (he : next e = none) (h : ReflTransGen (Follows next) e y) : y = e := by
  rcases ReflTransGen.cases_head h with rfl | ⟨z, hz, -⟩
  · rfl
  · cases he.symm.trans hz

/-- A chain that ends does not run into a cycle. -/
theorem EndsAt.not_cycle (h : EndsAt next a e) : ¬ RunsIntoCycle next a := by
  rintro ⟨x, hx, hcycle⟩
  have hon : TransGen (Follows next) e e := by
    rcases follows_total hx h.1 with hxe | hex
    · exact TransGen.follow hcycle hxe
    · obtain rfl := eq_of_follows_end h.2 hex
      exact hcycle
  obtain ⟨z, hz, -⟩ := TransGen.head'_iff.mp hon
  cases h.2.symm.trans hz

/-- A chain has one end. -/
theorem EndsAt.unique {e' : α} (h : EndsAt next a e) (h' : EndsAt next a e') : e = e' := by
  rcases follows_total h.1 h'.1 with hp | hp
  · exact (eq_of_follows_end h.2 hp).symm
  · exact eq_of_follows_end h'.2 hp

/-- What following a chain knows: the visited values are different, and all of them lie between the start and the
current one. -/
structure Visited (next : α → Option α) (start : α) (visited : List α) (current : α) : Prop where
  nodup : visited.Nodup
  mem : current ∈ visited
  behind : ∀ v ∈ visited, ReflTransGen (Follows next) start v
  ahead : ∀ v ∈ visited, ReflTransGen (Follows next) v current

theorem Visited.single (a : α) : Visited next a [a] a := by
  refine ⟨nodup_singleton a, mem_singleton_self a, ?_, ?_⟩ <;>
  · intro v hv
    obtain rfl := mem_singleton.mp hv
    exact .refl

theorem Visited.cons {start current n : α} {visited : List α} (h : Visited next start visited current)
    (hn : next current = some n) (hnew : n ∉ visited) : Visited next start (n :: visited) n := by
  refine ⟨nodup_cons.mpr ⟨hnew, h.nodup⟩, mem_cons_self, ?_, ?_⟩
  · intro v hv
    rcases mem_cons.mp hv with rfl | hv
    · exact (h.behind current h.mem).tail hn
    · exact h.behind v hv
  · intro v hv
    rcases mem_cons.mp hv with rfl | hv
    · exact .refl
    · exact (h.ahead v hv).tail hn

/-- With fuel for the values of the domain that are not visited, the walk finds the end or the cycle. -/
theorem followChain_spec [DecidableEq α] {domain : List α} (hdomain : ∀ x y, next x = some y → x ∈ domain)
    {start : α} : ∀ {fuel : Nat} {visited : List α} {current : α}, Visited next start visited current →
      (∀ v ∈ visited, v ≠ current → v ∈ domain) → domain.length + 2 ≤ fuel + visited.length → 0 < fuel →
      (∃ e, EndsAt next start e ∧ followChain next fuel visited current = some (some e)) ∨
        (RunsIntoCycle next start ∧ followChain next fuel visited current = some none)
  | fuel + 1, visited, current, hv, hin, hfuel, _ => by
    unfold followChain
    cases hn : next current with
    | none => exact .inl ⟨current, ⟨hv.behind current hv.mem, hn⟩, rfl⟩
    | some n =>
      dsimp only
      split
      · next hold => exact .inr ⟨⟨n, hv.behind n hold, TransGen.tail' (hv.ahead n hold) hn⟩, rfl⟩
      · next hnew =>
        -- every visited value has a successor now, so there are no more of them than the domain has
        have hall : ∀ v ∈ visited, v ∈ domain := by
          intro v hmem
          by_cases heq : v = current
          · exact heq ▸ hdomain current n hn
          · exact hin v hmem heq
        have hle : visited.length ≤ domain.length := (hv.nodup.subperm hall).length_le
        refine followChain_spec hdomain (hv.cons hn hnew) ?_ ?_ ?_
        · intro v hmem hne
          exact hall v ((mem_cons.mp hmem).resolve_left hne)
        · simp only [length_cons]
          omega
        · omega

/-- Following a chain from its start. -/
theorem followChain_start [DecidableEq α] {domain : List α} (hdomain : ∀ x y, next x = some y → x ∈ domain)
    (start : α) {fuel : Nat} (hfuel : domain.length < fuel) :
    (∃ e, EndsAt next start e ∧ followChain next fuel [start] start = some (some e)) ∨
      (RunsIntoCycle next start ∧ followChain next fuel [start] start = some none) := by
  refine followChain_spec hdomain (Visited.single start) ?_ ?_ (by omega)
  · intro v hv hne
    exact absurd (mem_singleton.mp hv) hne
  · simp only [length_singleton]
    omega

end MyApiSpec.Base
