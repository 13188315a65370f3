import Mathlib.Data.List.Sort
import MyApiSpec.Base.Table

/-!
# Keyset pages

A keyset page holds the rows behind a cursor in the order of their keys, up to a limit. A scan
that moves its cursor to the key of every row it worked on leaves no row behind the cursor out.
-/

namespace MyApiSpec.Base

open List

variable {ρ : Type} [Row ρ] {cursor : Int} {keys : Int → Prop} {full : Prop} {l : List ρ}

/-- The rows with `p` and a key above the cursor, by key, at most `limit` of them. -/
def Table.keysetPage (t : Table ρ) (p : ρ → Bool) (cursor : Int) (limit : Nat) : List ρ :=
  ((t.rows.filter (fun r => p r && decide (cursor < Row.id r))).insertionSort
    (fun a b => Row.id a ≤ Row.id b)).take limit

/-- An ascending list of rows above the cursor. Every key of interest is at most the cursor, or
in the list, or, when the page was full, above the whole list. -/
structure Covers (keys : Int → Prop) (full : Prop) (cursor : Int) (l : List ρ) : Prop where
  ascending : l.Pairwise (fun a b => Row.id a < Row.id b)
  above : ∀ x ∈ l, cursor < Row.id x
  split : ∀ i, keys i → i ≤ cursor ∨ (∃ x ∈ l, Row.id x = i) ∨ (full ∧ ∀ x ∈ l, Row.id x < i)

theorem Table.mem_keysetPage {t : Table ρ} {p : ρ → Bool} {limit : Nat} {r : ρ}
    (h : r ∈ t.keysetPage p cursor limit) : r ∈ t.rows ∧ p r = true ∧ cursor < Row.id r := by
  have hmem := (perm_insertionSort _ _).mem_iff.mp (mem_of_mem_take h)
  simpa [mem_filter] using hmem

private instance keyTotal : Std.Total (fun a b : ρ => Row.id a ≤ Row.id b) :=
  ⟨fun a b => le_total (Row.id a) (Row.id b)⟩

private instance keyTrans : IsTrans ρ (fun a b => Row.id a ≤ Row.id b) :=
  ⟨fun _ _ _ hab hbc => le_trans hab hbc⟩

private theorem keysetSorted (t : Table ρ) (p : ρ → Bool) (cursor : Int) :
    ((t.rows.filter (fun r => p r && decide (cursor < Row.id r))).insertionSort
      (fun a b => Row.id a ≤ Row.id b)).Pairwise (fun a b => Row.id a < Row.id b) := by
  have hle := pairwise_insertionSort (fun a b : ρ => Row.id a ≤ Row.id b)
    (t.rows.filter (fun r => p r && decide (cursor < Row.id r)))
  have hrows : (t.rows.filter (fun r => p r && decide (cursor < Row.id r))).Pairwise
      (fun a b => Row.id a ≠ Row.id b) := (pairwise_map.mp t.nodup).filter _
  have hne := hrows.perm (perm_insertionSort (fun a b : ρ => Row.id a ≤ Row.id b) _).symm
    (fun h => h.symm)
  exact (hle.and hne).imp fun ⟨h1, h2⟩ => lt_of_le_of_ne h1 h2

/-- A fresh page covers all keys of its rows. -/
theorem Table.keysetPage_covers (t : Table ρ) (p : ρ → Bool) (cursor : Int) (limit : Nat) :
    Covers (fun i => ∃ r ∈ t.rows, p r = true ∧ Row.id r = i)
      ((t.keysetPage p cursor limit).length = limit) cursor (t.keysetPage p cursor limit) := by
  have hsorted := keysetSorted t p cursor
  refine ⟨hsorted.take, fun x hx => (Table.mem_keysetPage hx).2.2, ?_⟩
  rintro i ⟨r, hr, hp, rfl⟩
  by_cases hle : Row.id r ≤ cursor
  · exact .inl hle
  have hmem : r ∈ (t.rows.filter (fun r => p r && decide (cursor < Row.id r))).insertionSort
      (fun a b => Row.id a ≤ Row.id b) := by
    rw [mem_insertionSort, mem_filter]
    exact ⟨hr, by simp [hp]; omega⟩
  -- the row is in the page, or behind its limit
  rw [← take_append_drop limit ((t.rows.filter _).insertionSort _)] at hmem hsorted
  rcases mem_append.mp hmem with htake | hdrop
  · exact .inr (.inl ⟨r, htake, rfl⟩)
  · have hlimit : limit < ((t.rows.filter (fun r => p r && decide (cursor < Row.id r))).insertionSort
        (fun a b => Row.id a ≤ Row.id b)).length := by
      by_contra hge
      rw [drop_eq_nil_of_le (not_lt.mp hge)] at hdrop
      cases hdrop
    refine .inr (.inr ⟨?_, ?_⟩)
    · rw [Table.keysetPage, length_take]
      omega
    · intro x hx
      exact (pairwise_append.mp hsorted).2.2 x hx r hdrop

theorem Covers.mono {keys' : Int → Prop} {full' : Prop} (h : Covers keys full cursor l)
    (hkeys : ∀ i, keys' i → keys i) (hfull : full → full') : Covers keys' full' cursor l := by
  refine { h with split := ?_ }
  intro i hi
  rcases h.split i (hkeys i hi) with hle | hmem | ⟨hf, habove⟩
  · exact .inl hle
  · exact .inr (.inl hmem)
  · exact .inr (.inr ⟨hfull hf, habove⟩)

/-- Between two pages nothing is known about the keys behind the cursor. -/
theorem covers_nil (keys : Int → Prop) (cursor : Int) : Covers keys True cursor ([] : List ρ) :=
  ⟨List.Pairwise.nil, by simp, fun _ _ => .inr (.inr ⟨trivial, by simp⟩)⟩

/-- Work on the first row moves the cursor to it. -/
theorem Covers.next {x : ρ} (h : Covers keys full cursor (x :: l)) :
    Covers keys full (Row.id x) l := by
  obtain ⟨hlt, hasc⟩ := pairwise_cons.mp h.ascending
  refine ⟨hasc, hlt, ?_⟩
  intro i hi
  rcases h.split i hi with hle | ⟨y, hy, hid⟩ | ⟨hf, habove⟩
  · exact .inl (le_trans hle (le_of_lt (h.above x mem_cons_self)))
  · rcases mem_cons.mp hy with rfl | hy
    · exact .inl (le_of_eq hid.symm)
    · exact .inr (.inl ⟨y, hy, hid⟩)
  · exact .inr (.inr ⟨hf, fun y hy => habove y (mem_cons_of_mem _ hy)⟩)

/-- The keys up to the first row are those up to the cursor and its own. -/
theorem Covers.first {i : Int} {x : ρ} (h : Covers keys full cursor (x :: l)) (hi : keys i)
    (hle : i ≤ Row.id x) : i ≤ cursor ∨ i = Row.id x := by
  rcases h.split i hi with hc | ⟨y, hy, hid⟩ | ⟨-, habove⟩
  · exact .inl hc
  · rcases mem_cons.mp hy with rfl | hy
    · exact .inr hid.symm
    · have hlt := (pairwise_cons.mp h.ascending).1 y hy
      omega
  · have hlt := habove x mem_cons_self
    omega

/-- Behind the last row of a page that was not full no key is left. -/
theorem Covers.last {i : Int} (h : Covers keys full cursor ([] : List ρ)) (hfull : ¬ full)
    (hi : keys i) : i ≤ cursor := by
  rcases h.split i hi with hle | ⟨x, hx, -⟩ | ⟨hf, -⟩
  · exact hle
  · cases hx
  · exact absurd hf hfull

end MyApiSpec.Base
