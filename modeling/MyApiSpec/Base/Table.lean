import Mathlib.Data.List.Nodup
import Mathlib.Algebra.Order.BigOperators.Group.List
import Mathlib.Algebra.Order.Group.Int
import Mathlib.Algebra.Ring.Int.Defs

/-!
# Keyed tables

A table is a finite list of rows with a positive integer primary key and an
auto-increment counter. The structure carries its own well-formedness: keys are
pairwise different and lie between zero and the counter, so a row read by key is the
only row with that key. Insertion takes the next key, replacement keeps the key, and a
sum over all rows changes by exactly the replaced or inserted summand.
-/

namespace MyApiSpec.Base

open List

/-- A row type with an integer primary key that the table assigns on insertion. -/
class Row (ρ : Type) where
  id : ρ → Int
  withId : Int → ρ → ρ
  id_withId : ∀ (i : Int) (r : ρ), id (withId i r) = i

attribute [simp] Row.id_withId

/-- Rows with pairwise different keys in `(0, nextId)`. -/
@[ext]
structure Table (ρ : Type) [Row ρ] where
  rows : List ρ
  nextId : Int
  nodup : (rows.map Row.id).Nodup
  bounds : ∀ r ∈ rows, 0 < Row.id r ∧ Row.id r < nextId
  pos : 0 < nextId

namespace Table

variable {ρ κ : Type} [Row ρ] {t : Table ρ} {i : Int} {old r x : ρ} {c : ρ → Int} {p : ρ → Bool}
  {M : ρ → ρ → Int → Prop}

/-- The table without rows. -/
def empty : Table ρ := ⟨[], 1, List.nodup_nil, by simp, by decide⟩

/-- The row with key `i`. -/
def get? (t : Table ρ) (i : Int) : Option ρ := t.rows.find? (fun r => Row.id r = i)

/-- The first row that satisfies `p`. -/
def find? (t : Table ρ) (p : ρ → Bool) : Option ρ := t.rows.find? p

/-- Append a row under the next key. -/
def insert (t : Table ρ) (r : ρ) : Table ρ where
  rows := t.rows ++ [Row.withId t.nextId r]
  nextId := t.nextId + 1
  nodup := by
    rw [List.map_append, List.nodup_append']
    refine ⟨t.nodup, by simp, ?_⟩
    intro i hi hn
    obtain ⟨x, hx, rfl⟩ := List.mem_map.mp hi
    have := (t.bounds x hx).2
    simp at hn
    omega
  bounds := by
    intro x hx
    have hp := t.pos
    rcases List.mem_append.mp hx with hx | hx
    · have := t.bounds x hx
      omega
    · obtain rfl := List.mem_singleton.mp hx
      simp only [Row.id_withId]
      omega
  pos := by
    have := t.pos
    omega

private theorem map_replace_id (rows : List ρ) (r : ρ) :
    (rows.map (fun x => if Row.id x = Row.id r then r else x)).map Row.id =
      rows.map Row.id := by
  rw [map_map]
  apply map_congr_left
  intro x _
  by_cases h : Row.id x = Row.id r <;> simp [h]

/-- Replace the row that has the key of `r`. -/
def put (t : Table ρ) (r : ρ) : Table ρ where
  rows := t.rows.map (fun x => if Row.id x = Row.id r then r else x)
  nextId := t.nextId
  nodup := by rw [map_replace_id]; exact t.nodup
  bounds := by
    intro x hx
    obtain ⟨y, hy, rfl⟩ := List.mem_map.mp hx
    have := t.bounds y hy
    by_cases h : Row.id y = Row.id r
    · rw [if_pos h, ← h]; exact this
    · rw [if_neg h]; exact this
  pos := t.pos

/-- A guarded single-row update, `none` when it affects no row. -/
def cas (t : Table ρ) (i : Int) (guard : ρ → Bool) (f : ρ → ρ) : Option (Table ρ) :=
  match t.get? i with
  | none => none
  | some r => if guard r then some (t.put (f r)) else none

/-- The sum of `c` over all rows. -/
def sum (t : Table ρ) (c : ρ → Int) : Int := (t.rows.map c).sum

/-! ### Lookup by key -/

@[simp]
theorem insert_nextId (t : Table ρ) (r : ρ) : (t.insert r).nextId = t.nextId + 1 := rfl

@[simp]
theorem rows_empty : (empty : Table ρ).rows = [] := rfl

theorem get?_mem (h : t.get? i = some r) : r ∈ t.rows :=
  mem_of_find?_eq_some h

theorem get?_id (h : t.get? i = some r) : Row.id r = i := by
  simpa using find?_some h

/-- A stored row is the row its key finds. -/
theorem get?_of_mem (h : r ∈ t.rows) : t.get? (Row.id r) = some r := by
  cases hf : t.get? (Row.id r) with
  | none => exact absurd (by simp) (find?_eq_none.mp hf r h)
  | some x =>
    have hx := get?_mem hf
    have hid := get?_id hf
    rw [inj_on_of_nodup_map t.nodup hx h hid]

/-- Rows with the same key are the same row. -/
theorem eq_of_id (hx : x ∈ t.rows) (hr : r ∈ t.rows) (h : Row.id x = Row.id r) : x = r :=
  inj_on_of_nodup_map t.nodup hx hr h

/-- A row that was read is stored under its own id. -/
theorem get?_own (h : t.get? i = some r) : t.get? (Row.id r) = some r := get?_of_mem (get?_mem h)

theorem get?_eq_some_iff : t.get? i = some r ↔ r ∈ t.rows ∧ Row.id r = i :=
  ⟨fun h => ⟨get?_mem h, get?_id h⟩, fun ⟨hm, hi⟩ => hi ▸ get?_of_mem hm⟩

theorem get?_bounds (h : t.get? i = some r) : 0 < i ∧ i < t.nextId := by
  have := t.bounds r (get?_mem h)
  rwa [get?_id h] at this

theorem ne_zero_of_get? (h : t.get? i = some r) : i ≠ 0 := ne_of_gt (get?_bounds h).1

theorem mem_insert : x ∈ (t.insert r).rows ↔ x ∈ t.rows ∨ x = Row.withId t.nextId r := by
  simp [insert]

/-- Insertion adds one key and keeps every other lookup. -/
theorem get?_insert (t : Table ρ) (r : ρ) (i : Int) :
    (t.insert r).get? i = if i = t.nextId then some (Row.withId t.nextId r) else t.get? i := by
  by_cases h : i = t.nextId
  · rw [if_pos h, get?_eq_some_iff]
    exact ⟨mem_insert.mpr (.inr rfl), by simp [h]⟩
  · rw [if_neg h]
    simp only [get?, insert, find?_append]
    have : (List.find? (fun x => decide (Row.id x = i)) [Row.withId t.nextId r]) = none := by
      simp [Ne.symm h]
    rw [this, Option.or_none]

theorem get?_insert_of_some (h : t.get? i = some x) : (t.insert r).get? i = some x := by
  have := (get?_bounds h).2
  rw [get?_insert, if_neg (by omega), h]

@[simp]
theorem get?_insert_nextId (t : Table ρ) (r : ρ) :
    (t.insert r).get? t.nextId = some (Row.withId t.nextId r) := by
  rw [get?_insert, if_pos rfl]

theorem mem_put (h : x ∈ (t.put r).rows) : x = r ∨ (x ∈ t.rows ∧ Row.id x ≠ Row.id r) := by
  obtain ⟨y, hy, rfl⟩ := mem_map.mp h
  by_cases hid : Row.id y = Row.id r
  · left; rw [if_pos hid]
  · right; rw [if_neg hid]; exact ⟨hy, hid⟩

theorem mem_put_of_ne (h : x ∈ t.rows) (hne : Row.id x ≠ Row.id r) : x ∈ (t.put r).rows :=
  mem_map.mpr ⟨x, h, if_neg hne⟩

theorem mem_put_self (h : t.get? (Row.id r) = some old) : r ∈ (t.put r).rows :=
  mem_map.mpr ⟨old, get?_mem h, if_pos (get?_id h)⟩

/-- Behind a replacement every row but the replaced one is stored. -/
theorem mem_put_or (h : t.get? (Row.id r) = some old) (hx : x ∈ t.rows) :
    x = old ∨ x ∈ (t.put r).rows := by
  by_cases hid : Row.id x = Row.id r
  · exact .inl (eq_of_id hx (get?_mem h) (hid.trans (get?_id h).symm))
  · exact .inr (mem_put_of_ne hx hid)

/-- Replacement changes one lookup and no other. -/
theorem get?_put (t : Table ρ) (r : ρ) (i : Int) :
    (t.put r).get? i = if i = Row.id r then (t.get? i).map (fun _ => r) else t.get? i := by
  by_cases h : i = Row.id r
  · subst h
    rw [if_pos rfl]
    cases hg : t.get? (Row.id r) with
    | some old => exact get?_eq_some_iff.mpr ⟨mem_put_self hg, rfl⟩
    | none =>
      apply find?_eq_none.mpr
      intro x hx hid
      rcases mem_put hx with rfl | ⟨hm, hne⟩
      · obtain ⟨y, hy, hxy⟩ := mem_map.mp hx
        by_cases hyid : Row.id y = Row.id x
        · have := get?_of_mem hy
          rw [hyid, hg] at this
          cases this
        · rw [if_neg hyid] at hxy
          exact hyid (by rw [hxy])
      · exact hne (by simpa using hid)
  · rw [if_neg h]
    cases hg : t.get? i with
    | some x =>
      have hx := get?_id hg
      exact get?_eq_some_iff.mpr ⟨mem_put_of_ne (get?_mem hg) (by omega), hx⟩
    | none =>
      apply find?_eq_none.mpr
      intro x hx hid
      rcases mem_put hx with rfl | ⟨hm, -⟩
      · exact h (by simpa using Eq.symm (of_decide_eq_true hid))
      · have := get?_of_mem hm
        rw [of_decide_eq_true hid, hg] at this
        cases this

theorem get?_put_self (h : t.get? (Row.id r) = some old) : (t.put r).get? (Row.id r) = some r := by
  rw [get?_put, if_pos rfl, h]; rfl

theorem get?_put_of_ne (h : i ≠ Row.id r) : (t.put r).get? i = t.get? i := by
  rw [get?_put, if_neg h]

/-- Replacing a row by itself changes nothing. -/
theorem put_self (h : t.get? (Row.id r) = some r) : t.put r = t := by
  have hrows : t.rows.map (fun x => if Row.id x = Row.id r then r else x) = t.rows := by
    conv_rhs => rw [← t.rows.map_id]
    apply map_congr_left
    intro x hx
    by_cases hid : Row.id x = Row.id r
    · rw [if_pos hid]
      exact eq_of_id (get?_mem h) hx hid.symm
    · rw [if_neg hid]
      rfl
  exact Table.ext hrows rfl

/-- A successful guarded update replaces the row it read. -/
theorem cas_eq_some {t' : Table ρ} {guard : ρ → Bool} {f : ρ → ρ} :
    t.cas i guard f = some t' ↔ ∃ r, t.get? i = some r ∧ guard r = true ∧ t' = t.put (f r) := by
  unfold cas
  cases hg : t.get? i with
  | none => simp
  | some r =>
    by_cases h : guard r = true
    · simp only [h, if_true, Option.some.injEq, exists_eq_left', true_and]
      exact eq_comm
    · simp [h]

/-- The value of the column `f` in row `i`, zero when there is no such row. -/
def column (t : Table ρ) (f : ρ → Int) (i : Int) : Int := ((t.get? i).map f).getD 0

theorem column_of_get? {f : ρ → Int} (h : t.get? i = some r) : t.column f i = f r := by
  simp [column, h]

/-- Replacing a row moves one value of a column by the difference of the two rows. -/
theorem column_put (f : ρ → Int) (h : t.get? (Row.id r) = some old) (i : Int) :
    (t.put r).column f i = t.column f i + if i = Row.id r then f r - f old else 0 := by
  by_cases hi : i = Row.id r
  · subst hi
    rw [column_of_get? (get?_put_self h), column_of_get? h, if_pos rfl]
    omega
  · simp only [column, get?_put_of_ne hi]
    omega

/-! ### Sums over rows -/

@[simp]
theorem sum_empty (c : ρ → Int) : (empty : Table ρ).sum c = 0 := rfl

theorem sum_insert (t : Table ρ) (r : ρ) (c : ρ → Int) :
    (t.insert r).sum c = t.sum c + c (Row.withId t.nextId r) := by
  simp [sum, insert]

theorem sum_congr {d : ρ → Int} (h : ∀ r ∈ t.rows, c r = d r) : t.sum c = t.sum d := by
  unfold sum
  rw [map_congr_left h]

private theorem sum_replace (r old : ρ) (c : ρ → Int) (hid : Row.id old = Row.id r) :
    ∀ rows : List ρ, (rows.map Row.id).Nodup → old ∈ rows →
      ((rows.map (fun x => if Row.id x = Row.id r then r else x)).map c).sum =
        (rows.map c).sum - c old + c r := by
  intro rows
  induction rows with
  | nil => intro _ h; cases h
  | cons x xs ih =>
    intro hnd hmem
    obtain ⟨hx, hxs⟩ := nodup_cons.mp (map_cons ▸ hnd)
    rcases mem_cons.mp hmem with rfl | hmem
    · have hrest : xs.map (fun y => if Row.id y = Row.id r then r else y) = xs := by
        conv_rhs => rw [← xs.map_id]
        apply map_congr_left
        intro y hy
        have : Row.id y ≠ Row.id r := by
          intro he
          exact hx (mem_map.mpr ⟨y, hy, by rw [he, hid]⟩)
        simp [this]
      simp only [map_cons, sum_cons, if_pos hid, hrest]
      omega
    · have hne : Row.id x ≠ Row.id r := by
        intro he
        exact hx (mem_map.mpr ⟨old, hmem, by rw [hid, he]⟩)
      simp only [map_cons, sum_cons, if_neg hne, ih hxs hmem]
      omega

/-- Replacing a row moves the sum by the difference of the two summands. -/
theorem sum_put (c : ρ → Int) (h : t.get? (Row.id r) = some old) :
    (t.put r).sum c = t.sum c - c old + c r :=
  sum_replace r old c (get?_id h) t.rows t.nodup (get?_mem h)

/-- A sum of nonnegative summands bounds each of them. -/
theorem le_sum_of_mem (h : ∀ x ∈ t.rows, 0 ≤ c x) (hr : r ∈ t.rows) : c r ≤ t.sum c :=
  single_le_sum (forall_mem_map.mpr h) _ (mem_map_of_mem hr)

theorem sum_eq_zero (h : ∀ r ∈ t.rows, c r = 0) : t.sum c = 0 :=
  List.sum_eq_zero (forall_mem_map.mpr h)

/-- The sum over the rows that satisfy `p`. -/
theorem sum_filter (t : Table ρ) (p : ρ → Bool) (c : ρ → Int) :
    ((t.rows.filter p).map c).sum = t.sum (fun r => if p r then c r else 0) := by
  unfold sum
  induction t.rows with
  | nil => rfl
  | cons x xs ih =>
    by_cases h : p x = true
    · simp [h, ih]
    · simp [h, ih]

/-- A sum with one summand. -/
theorem sum_eq_single [DecidableEq ρ] (hr : r ∈ t.rows) (h : ∀ x ∈ t.rows, x ≠ r → c x = 0) :
    t.sum c = c r := by
  have hcount : t.rows.count r = 1 := count_eq_one_of_mem t.nodup.of_map hr
  rw [sum, sum_map_eq_nsmul_single r c fun x hx hm => h x hm hx, hcount, one_nsmul]

/-! ### Unique columns -/

/-- No two rows share a value of the column `f`. -/
def UniqueOn {κ : Type} (t : Table ρ) (f : ρ → κ) : Prop :=
  ∀ a ∈ t.rows, ∀ b ∈ t.rows, f a = f b → a = b

theorem uniqueOn_empty (f : ρ → κ) : (empty : Table ρ).UniqueOn f := by
  intro a ha
  cases ha

variable {f : ρ → κ}

theorem UniqueOn.insert (h : t.UniqueOn f)
    (hf : ∀ a ∈ t.rows, f a ≠ f (Row.withId t.nextId r)) : (t.insert r).UniqueOn f := by
  intro a ha b hb hab
  rcases mem_insert.mp ha with ha | rfl <;> rcases mem_insert.mp hb with hb | rfl
  · exact h a ha b hb hab
  · exact absurd hab (hf a ha)
  · exact absurd hab.symm (hf b hb)
  · rfl

theorem UniqueOn.put (h : t.UniqueOn f) (hold : t.get? (Row.id r) = some old)
    (hf : f r = f old) : (t.put r).UniqueOn f := by
  have hmem := get?_mem hold
  have hid := get?_id hold
  intro a ha b hb hab
  rcases mem_put ha with hra | ⟨ha', hna⟩ <;> rcases mem_put hb with hrb | ⟨hb', hnb⟩
  · rw [hra, hrb]
  · exact absurd (h old hmem b hb' (by rw [← hf, ← hra, hab])) (fun he => hnb (by rw [← he, hid]))
  · exact absurd (h a ha' old hmem (by rw [hab, hrb, hf])) (fun he => hna (by rw [he, hid]))
  · exact h a ha' b hb' hab

/-- A lookup by a unique column finds the row that has the value. -/
theorem find?_of_unique [DecidableEq κ] (h : t.UniqueOn f) (hr : r ∈ t.rows) :
    t.find? (fun x => f x = f r) = some r := by
  cases hfind : t.find? (fun x => f x = f r) with
  | none => exact absurd (by simp) (find?_eq_none.mp hfind r hr)
  | some x =>
    have hx : f x = f r := by simpa using find?_some hfind
    rw [h x (mem_of_find?_eq_some hfind) r hr hx]

theorem find?_mem (h : t.find? p = some r) : r ∈ t.rows :=
  mem_of_find?_eq_some h

theorem find?_pred (h : t.find? p = some r) : p r = true :=
  find?_some h

theorem find?_none : t.find? p = none ↔ ∀ r ∈ t.rows, ¬ p r = true :=
  find?_eq_none

/-- A lookup by a unique column that finds a row with the value finds that row. -/
theorem UniqueOn.find?_eq [DecidableEq κ] (h : t.UniqueOn f) {k : κ} :
    t.find? (fun x => f x = k) = some r ↔ r ∈ t.rows ∧ f r = k := by
  constructor
  · intro hr
    exact ⟨find?_mem hr, by simpa using find?_pred hr⟩
  · rintro ⟨hr, rfl⟩
    exact find?_of_unique h hr

/-- A row that keeps its unique value is found under it, and no other lookup changes. -/
theorem UniqueOn.find?_put [DecidableEq κ] (h : t.UniqueOn f)
    (hold : t.get? (Row.id r) = some old) (hf : f r = f old) (k : κ) :
    (t.put r).find? (fun x => f x = k) =
      if k = f r then some r else t.find? (fun x => f x = k) := by
  have hput := h.put hold hf
  by_cases hk : k = f r
  · rw [if_pos hk]
    exact hput.find?_eq.mpr ⟨mem_put_self hold, hk.symm⟩
  · rw [if_neg hk]
    cases hfind : t.find? (fun x => f x = k) with
    | some x =>
      obtain ⟨hx, hxk⟩ := h.find?_eq.mp hfind
      rcases mem_put_or hold hx with rfl | hx
      · exact absurd (hxk.symm.trans hf.symm) hk
      · exact hput.find?_eq.mpr ⟨hx, hxk⟩
    | none =>
      apply find?_none.mpr
      intro x hx hxk
      rcases mem_put hx with rfl | ⟨hx, -⟩
      · exact hk (of_decide_eq_true hxk).symm
      · exact find?_none.mp hfind x hx hxk

/-- A new row with a new unique value is found under it, and no other lookup changes. -/
theorem UniqueOn.find?_insert [DecidableEq κ] (h : t.UniqueOn f)
    (hf : ∀ a ∈ t.rows, f a ≠ f (Row.withId t.nextId r)) (k : κ) :
    (t.insert r).find? (fun x => f x = k) =
      if k = f (Row.withId t.nextId r) then some (Row.withId t.nextId r)
      else t.find? (fun x => f x = k) := by
  have hins := h.insert hf
  by_cases hk : k = f (Row.withId t.nextId r)
  · rw [if_pos hk]
    exact hins.find?_eq.mpr ⟨mem_insert.mpr (.inr rfl), hk.symm⟩
  · rw [if_neg hk]
    cases hfind : t.find? (fun x => f x = k) with
    | some x =>
      obtain ⟨hx, hxk⟩ := h.find?_eq.mp hfind
      exact hins.find?_eq.mpr ⟨mem_insert.mpr (.inl hx), hxk⟩
    | none =>
      apply find?_none.mpr
      intro x hx hxk
      rcases mem_insert.mp hx with hx | rfl
      · exact find?_none.mp hfind x hx hxk
      · exact hk (of_decide_eq_true hxk).symm

/-! ### Movements of rows -/

/-- Every row of `t` is still in `t'`, moved by the amount of its key. -/
def Moves (M : ρ → ρ → Int → Prop) (t t' : Table ρ) (δ : Int → Int) : Prop :=
  ∀ i r, t.get? i = some r → ∃ r', t'.get? i = some r' ∧ M r r' (δ i)

theorem Moves.refl (hM : ∀ r, M r r 0) (t : Table ρ) : Moves M t t (fun _ => 0) :=
  fun _ r hr => ⟨r, hr, hM r⟩

theorem Moves.trans (hM : ∀ a b c x y, M a b x → M b c y → M a c (x + y)) {t' t'' : Table ρ}
    {δ δ' : Int → Int} (h : Moves M t t' δ) (h' : Moves M t' t'' δ') :
    Moves M t t'' (fun i => δ i + δ' i) := by
  intro i r hr
  obtain ⟨r', hr', hm⟩ := h i r hr
  obtain ⟨r'', hr'', hm'⟩ := h' i r' hr'
  exact ⟨r'', hr'', hM _ _ _ _ _ hm hm'⟩

/-- Replacing one row moves that row and no other. -/
theorem Moves.put (hM : ∀ r, M r r 0) {r' : ρ} {x : Int} (hr : t.get? (Row.id r) = some r)
    (hm : M r r' x) (hid : Row.id r' = Row.id r) :
    Moves M t (t.put r') (fun i => if Row.id r = i then x else 0) := by
  intro i s hs
  by_cases hi : Row.id r = i
  · subst hi
    cases hr.symm.trans hs
    refine ⟨r', ?_, by simpa using hm⟩
    rw [← hid]
    exact get?_put_self (by rw [hid]; exact hr)
  · refine ⟨s, ?_, by simpa [hi] using hM s⟩
    rw [get?_put_of_ne (by rw [hid]; exact Ne.symm hi)]
    exact hs

end Table

end MyApiSpec.Base
