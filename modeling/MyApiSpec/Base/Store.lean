import Mathlib.Algebra.BigOperators.Group.List.Basic
import Mathlib.Data.List.Nodup
import Mathlib.Tactic.Abel

/-!
# Stores with a natural key

A store is a finite list of rows with pairwise different keys; the key is a column that the writer
chooses. `set` writes a row under its key, over an existing row or behind all rows, and is the only
write: an insertion is a `set` under a new key, an update one under a stored key. A sum over all rows
changes by the difference of the two summands.
-/

namespace MyApiSpec.Base

open List

/-- A row type with its key column. -/
class Keyed (κ : outParam Type) (ρ : Type) where
  key : ρ → κ

/-- Rows with pairwise different keys. -/
structure Store (κ ρ : Type) [Keyed κ ρ] where
  rows : List ρ
  nodup : (rows.map Keyed.key).Nodup

namespace Store

variable {κ ρ : Type} [Keyed κ ρ] [DecidableEq κ] {s : Store κ ρ} {k : κ} {r : ρ}

/-- The store without rows. -/
def empty : Store κ ρ := ⟨[], List.nodup_nil⟩

/-- The row under a key. -/
def get? (s : Store κ ρ) (k : κ) : Option ρ := s.rows.find? (fun r => Keyed.key r = k)

/-- Write a row into a list of rows. -/
def setRows (r : ρ) : List ρ → List ρ
  | [] => [r]
  | x :: xs => if Keyed.key x = Keyed.key r then r :: xs else x :: setRows r xs

theorem keys_setRows (r : ρ) : ∀ rows : List ρ, (setRows r rows).map Keyed.key =
    if Keyed.key r ∈ rows.map Keyed.key then rows.map Keyed.key
    else rows.map Keyed.key ++ [Keyed.key r]
  | [] => rfl
  | x :: xs => by
    rw [setRows]
    by_cases hx : Keyed.key x = Keyed.key r
    · simp [hx]
    · rw [if_neg hx, List.map_cons, keys_setRows r xs]
      by_cases hm : Keyed.key r ∈ xs.map Keyed.key
      · have hc : Keyed.key r ∈ (x :: xs).map Keyed.key := mem_cons_of_mem _ hm
        rw [if_pos hm, if_pos hc, map_cons]
      · have hn : Keyed.key r ∉ (x :: xs).map Keyed.key := by
          rw [map_cons, mem_cons, not_or]
          exact ⟨fun he => hx he.symm, hm⟩
        rw [if_neg hm, if_neg hn, map_cons, cons_append]

/-- Write a row under its key. -/
def set (s : Store κ ρ) (r : ρ) : Store κ ρ where
  rows := setRows r s.rows
  nodup := by
    rw [keys_setRows]
    split
    · exact s.nodup
    · next hn => exact List.nodup_append'.mpr ⟨s.nodup, List.nodup_singleton _, by simpa using hn⟩

/-- Insert a row; `none` when its key is taken. -/
def create (s : Store κ ρ) (r : ρ) : Option (Store κ ρ) :=
  match s.get? (Keyed.key r) with
  | some _ => none
  | none => some (s.set r)

/-- The sum of `c` over all rows. -/
def sum {M : Type} [AddMonoid M] (s : Store κ ρ) (c : ρ → M) : M := (s.rows.map c).sum

/-! ### Lookup -/

theorem get?_mem (h : s.get? k = some r) : r ∈ s.rows :=
  mem_of_find?_eq_some h

theorem get?_key (h : s.get? k = some r) : Keyed.key r = k := by
  simpa using find?_some h

theorem get?_of_mem (h : r ∈ s.rows) : s.get? (Keyed.key r) = some r := by
  cases hf : s.get? (Keyed.key r) with
  | none => exact absurd (by simp) (find?_eq_none.mp hf r h)
  | some x => rw [inj_on_of_nodup_map s.nodup (get?_mem hf) h (get?_key hf)]

omit [DecidableEq κ] in
/-- Rows with one key are one row. -/
theorem eq_of_key {s : Store κ ρ} {r r' : ρ} (hr : r ∈ s.rows) (hr' : r' ∈ s.rows)
    (h : Keyed.key r = Keyed.key r') : r = r' := inj_on_of_nodup_map s.nodup hr hr' h

private theorem find?_setRows (r : ρ) (k : κ) : ∀ rows : List ρ,
    (setRows r rows).find? (fun x => Keyed.key x = k) =
      if k = Keyed.key r then some r else rows.find? (fun x => Keyed.key x = k)
  | [] => by
    by_cases hk : k = Keyed.key r
    · simp [setRows, hk]
    · simp [setRows, hk, Ne.symm hk]
  | x :: xs => by
    rw [setRows]
    by_cases hk : k = Keyed.key r
    · subst hk
      by_cases hx : Keyed.key x = Keyed.key r
      · simp [hx]
      · rw [if_neg hx, List.find?_cons_of_neg (by simpa using hx), find?_setRows r _ xs]
        simp
    · by_cases hx : Keyed.key x = Keyed.key r
      · rw [if_pos hx, if_neg hk, List.find?_cons_of_neg (by simpa using Ne.symm hk),
          List.find?_cons_of_neg (by simpa [hx] using Ne.symm hk)]
      · rw [if_neg hx, if_neg hk]
        by_cases hxk : Keyed.key x = k
        · rw [List.find?_cons_of_pos (by simpa using hxk), List.find?_cons_of_pos (by simpa using hxk)]
        · rw [List.find?_cons_of_neg (by simpa using hxk), List.find?_cons_of_neg (by simpa using hxk),
            find?_setRows r k xs, if_neg hk]

theorem get?_set (s : Store κ ρ) (r : ρ) (k : κ) :
    (s.set r).get? k = if k = Keyed.key r then some r else s.get? k := find?_setRows r k s.rows

@[simp]
theorem get?_set_self (s : Store κ ρ) (r : ρ) : (s.set r).get? (Keyed.key r) = some r := by
  rw [get?_set, if_pos rfl]

theorem get?_set_of_ne (h : k ≠ Keyed.key r) : (s.set r).get? k = s.get? k := by
  rw [get?_set, if_neg h]

theorem mem_set {x : ρ} :
    x ∈ (s.set r).rows ↔ x = r ∨ (x ∈ s.rows ∧ Keyed.key x ≠ Keyed.key r) := by
  constructor
  · intro h
    have hx := get?_of_mem h
    by_cases hk : Keyed.key x = Keyed.key r
    · rw [hk, get?_set_self] at hx
      exact .inl (Option.some.inj hx).symm
    · rw [get?_set_of_ne hk] at hx
      exact .inr ⟨get?_mem hx, hk⟩
  · rintro (rfl | ⟨hx, hk⟩)
    · exact get?_mem (get?_set_self s x)
    · exact get?_mem ((get?_set_of_ne hk).trans (get?_of_mem hx))

theorem create_eq_some {s' : Store κ ρ} :
    s.create r = some s' ↔ s.get? (Keyed.key r) = none ∧ s' = s.set r := by
  unfold create
  split
  · next hg => simp [hg]
  · next hg => simp [hg, eq_comm]

/-! ### Sums -/

private theorem sum_setRows {M : Type} [AddCommGroup M] (c : ρ → M) (r : ρ) : ∀ rows : List ρ,
    ((setRows r rows).map c).sum =
      (rows.map c).sum + (c r - ((rows.find? (fun x => Keyed.key x = Keyed.key r)).map c).getD 0)
  | [] => by simp [setRows]
  | x :: xs => by
    rw [setRows]
    by_cases hx : Keyed.key x = Keyed.key r
    · rw [if_pos hx, List.find?_cons_of_pos (by simpa using hx), List.map_cons, List.sum_cons,
        List.map_cons, List.sum_cons, Option.map_some, Option.getD_some]
      abel
    · rw [if_neg hx, List.find?_cons_of_neg (by simpa using hx), List.map_cons, List.sum_cons,
        sum_setRows c r xs, List.map_cons, List.sum_cons, add_assoc]

/-- A write changes a sum by the difference of the written and the replaced summand. -/
theorem sum_set {M : Type} [AddCommGroup M] (s : Store κ ρ) (r : ρ) (c : ρ → M) :
    (s.set r).sum c = s.sum c + (c r - ((s.get? (Keyed.key r)).map c).getD 0) :=
  sum_setRows c r s.rows

end Store

end MyApiSpec.Base
