import Mathlib.Data.List.Nodup

/-!
# Collecting distinct values

Loops that keep the first occurrence of every value of a list: `distinct` on the values as they
are, and `collect`, which converts them one after another and stops at the first value that cannot
be converted.
-/

namespace MyApiSpec.Base

open List

section Distinct

variable {α : Type} [DecidableEq α]

/-- The values of `as` that are not in `acc` yet, behind `acc`. -/
def distinctFrom : List α → List α → List α
  | acc, [] => acc
  | acc, a :: as => distinctFrom (if a ∈ acc then acc else acc ++ [a]) as

/-- Every value once, in the order of the first occurrences. -/
def distinct (as : List α) : List α := distinctFrom [] as

theorem mem_distinctFrom {x : α} : ∀ {as acc : List α},
    x ∈ distinctFrom acc as ↔ x ∈ acc ∨ x ∈ as
  | [], acc => by simp [distinctFrom]
  | a :: as, acc => by
    rw [distinctFrom, mem_distinctFrom]
    by_cases ha : a ∈ acc
    · rw [if_pos ha, List.mem_cons]
      constructor
      · rintro (hx | hx)
        · exact .inl hx
        · exact .inr (.inr hx)
      · rintro (hx | rfl | hx)
        · exact .inl hx
        · exact .inl ha
        · exact .inr hx
    · rw [if_neg ha, List.mem_append, List.mem_singleton, List.mem_cons, or_assoc]

@[simp]
theorem mem_distinct {x : α} {as : List α} : x ∈ distinct as ↔ x ∈ as := by
  simp [distinct, mem_distinctFrom]

theorem nodup_distinctFrom : ∀ {as acc : List α}, acc.Nodup → (distinctFrom acc as).Nodup
  | [], _, h => h
  | a :: as, acc, h => by
    rw [distinctFrom]
    split
    · exact nodup_distinctFrom h
    · next ha =>
      exact nodup_distinctFrom (List.nodup_append.mpr ⟨h, List.nodup_singleton a, by
        rintro x hx y hy rfl
        exact ha (List.mem_singleton.mp hy ▸ hx)⟩)

theorem length_distinctFrom : ∀ (acc as : List α), (distinctFrom acc as).length ≤ acc.length + as.length
  | _, [] => Nat.le_refl _
  | acc, a :: as => by
    have ih := length_distinctFrom (if a ∈ acc then acc else acc ++ [a]) as
    have hone : (if a ∈ acc then acc else acc ++ [a]).length ≤ acc.length + 1 := by
      split <;> simp
    rw [distinctFrom, length_cons]
    omega

theorem nodup_distinct (as : List α) : (distinct as).Nodup := nodup_distinctFrom nodup_nil

end Distinct

variable {α β ε : Type} [DecidableEq β]

/-- Convert the values and append the results that are not in `acc` yet. -/
def collect (f : α → Except ε β) : List β → List α → Except ε (List β)
  | acc, [] => .ok acc
  | acc, a :: as =>
    match f a with
    | .error e => .error e
    | .ok b => if b ∈ acc then collect f acc as else collect f (acc ++ [b]) as

/-- What a completed collection holds. -/
structure Collected (f : α → Except ε β) (acc : List β) (as : List α) (out : List β) : Prop where
  nodup : acc.Nodup → out.Nodup
  mem : ∀ b, b ∈ out ↔ b ∈ acc ∨ ∃ a ∈ as, f a = .ok b
  length : out.length ≤ acc.length + as.length
  all : ∀ a ∈ as, ∃ b, f a = .ok b

/-- A collection that completes keeps the distinct results. -/
theorem collect_eq_distinctFrom {f : α → Except ε β} : ∀ {as : List α} {acc out : List β},
    collect f acc as = .ok out → ∃ bs, as.map f = bs.map .ok ∧ out = distinctFrom acc bs
  | [], acc, out, h => ⟨[], rfl, (Except.ok.inj h).symm⟩
  | a :: as, acc, out, h => by
    unfold collect at h
    cases hf : f a with
    | error e => rw [hf] at h; cases h
    | ok b =>
      rw [hf] at h
      dsimp only at h
      rw [← apply_ite (collect f · as)] at h
      obtain ⟨bs, hbs, rfl⟩ := collect_eq_distinctFrom h
      exact ⟨b :: bs, by rw [map_cons, map_cons, hf, hbs], rfl⟩

theorem collect_ok {f : α → Except ε β} {as : List α} {acc out : List β}
    (h : collect f acc as = .ok out) : Collected f acc as out := by
  obtain ⟨bs, hbs, rfl⟩ := collect_eq_distinctFrom h
  have hmem : ∀ b, b ∈ bs ↔ ∃ a ∈ as, f a = .ok b := by
    intro b
    rw [← mem_map, hbs]
    simp
  refine ⟨nodup_distinctFrom, fun b => by rw [mem_distinctFrom, hmem], ?_, ?_⟩
  · rw [← length_map f, hbs, length_map]
    exact length_distinctFrom acc bs
  · intro a ha
    have hfa := mem_map_of_mem (f := f) ha
    rw [hbs] at hfa
    obtain ⟨b, -, hb⟩ := mem_map.mp hfa
    exact ⟨b, hb.symm⟩

/-- Distinct values that the conversion keeps are collected as they are. -/
theorem collect_self {f : β → Except ε β} : ∀ {as acc : List β}, (acc ++ as).Nodup →
    (∀ a ∈ as, f a = .ok a) → collect f acc as = .ok (acc ++ as)
  | [], acc, _, _ => by rw [List.append_nil]; rfl
  | a :: as, acc, hn, h => by
    obtain ⟨ha, hrest⟩ := forall_mem_cons.mp h
    have hnew : a ∉ acc := fun hmem =>
      (nodup_append.mp hn).2.2 a hmem a mem_cons_self rfl
    have happ : acc ++ a :: as = acc ++ [a] ++ as := by simp
    unfold collect
    rw [ha]
    dsimp only
    rw [if_neg hnew, happ]
    exact collect_self (happ ▸ hn) hrest

end MyApiSpec.Base
