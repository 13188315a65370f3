import Mathlib.Logic.Relation
import MyApiSpec.Access.Registry

/-!
# Fallback cycles

The search of `parseAccessProfileDefinitions` (`setting/access_profile.go:282–322`) marks the ids that it enters and
leaves. It fails exactly when the fallbacks of some profile lead back to the profile.
-/

namespace MyApiSpec.Access

open Base List Relation

/-- The profile `id` names `fallback` as one of its fallbacks. -/
def FallsTo (graph : String → List String) (fallback id : String) : Prop := fallback ∈ graph id

variable {graph : String → List String} {ids fs path done out : List String} {e : String}

/-- A search that ends leaves only ids behind whose fallbacks end. -/
theorem search_ends (hgraph : ∀ id, graph id ⊆ ids) (depth : Nat) (hfs : fs ⊆ ids) (hn : path.Nodup)
    (hs : path ⊆ ids) (hlen : ids.length < depth + path.length) (hdone : ∀ x ∈ done, Acc (FallsTo graph) x)
    (h : fs.foldlM (visit graph depth path) done = .ok out) :
    (∀ x ∈ out, Acc (FallsTo graph) x) ∧ done ⊆ out ∧ fs ⊆ out := by
  induction depth generalizing fs path done out with
  | zero =>
    have hle := (hn.subperm hs).length_le
    omega
  | succ depth ih =>
    induction fs generalizing done with
    | nil =>
      cases h
      exact ⟨hdone, Subset.refl _, nil_subset _⟩
    | cons f fs ihfs =>
      obtain ⟨hf, hfs⟩ := cons_subset.mp hfs
      rw [foldlM_cons, visit] at h
      obtain ⟨next, hnext, h⟩ := bind_eq_ok.mp h
      have hvisit : (∀ x ∈ next, Acc (FallsTo graph) x) ∧ done ⊆ next ∧ f ∈ next := by
        split at hnext
        · cases hnext
        next hpath =>
        split at hnext
        · next hmem =>
          cases hnext
          exact ⟨hdone, Subset.refl _, hmem⟩
        obtain ⟨inner, hinner, hr⟩ := bind_eq_ok.mp hnext
        cases hr
        -- the ids entered from here lie one level lower on a path that is one longer
        obtain ⟨hacc, hsub, hall⟩ := ih (hgraph f) (nodup_cons.mpr ⟨hpath, hn⟩) (cons_subset.mpr ⟨hf, hs⟩)
          (by rw [length_cons]; omega) hdone hinner
        have hend : Acc (FallsTo graph) f := .intro f fun x hx => hacc x (hall hx)
        exact ⟨forall_mem_cons.mpr ⟨hend, hacc⟩, subset_cons_of_subset _ hsub, mem_cons_self⟩
      obtain ⟨hacc, hsub, hall⟩ := ihfs hfs hvisit.1 h
      exact ⟨hacc, List.Subset.trans hvisit.2.1 hsub, cons_subset.mpr ⟨hsub hvisit.2.2, hall⟩⟩

/-- A search that fails has found a cycle: every id on its path leads to the one that it enters. -/
theorem search_cycle (depth : Nat) (hpath : ∀ f ∈ fs, ∀ p ∈ path, TransGen (FallsTo graph) f p)
    (h : fs.foldlM (visit graph depth path) done = .error e) : ∃ id, TransGen (FallsTo graph) id id := by
  induction depth generalizing fs path done with
  | zero =>
    induction fs generalizing done with
    | nil => cases h
    | cons f fs ihfs => exact ihfs (fun x hx => hpath x (mem_cons_of_mem _ hx)) h
  | succ depth ih =>
    induction fs generalizing done with
    | nil => cases h
    | cons f fs ihfs =>
      obtain ⟨hf, hfs⟩ := forall_mem_cons.mp hpath
      rw [foldlM_cons, visit] at h
      rcases bind_eq_error.mp h with h | ⟨next, -, h⟩
      · split at h
        · next hmem => exact ⟨f, hf f hmem⟩
        split at h
        · cases h
        rcases bind_eq_error.mp h with h | ⟨_, -, hr⟩
        · exact ih (fun x hx => forall_mem_cons.mpr ⟨.single hx, fun p hp => .head hx (hf p hp)⟩) h
        · cases hr
      · exact ihfs hfs h

theorem not_rel_of_acc {α : Type} {r : α → α → Prop} {x : α} (h : Acc r x) : ¬ r x x := by
  induction h with
  | intro x _ ih => exact fun hx => ih x hx hx

variable {normalized : List (String × AccessProfileDefinition)}

theorem fallbackGraph_subset (h : checkFallbacks normalized = .ok ()) (id : String) :
    fallbackGraph normalized id ⊆ normalized.map Prod.fst := by
  intro fallback hf
  unfold fallbackGraph at hf
  cases hp : normalized.lookup id with
  | none => simp [hp] at hf
  | some p =>
    obtain ⟨before, behind, hsplit, -⟩ := lookup_eq_some_iff.mp hp
    rw [hp] at hf
    have hentry := forM_ok (forM_ok h (id, p) (by simp [hsplit])) fallback hf
    simp only [bind_eq_ok, check_eq_ok] at hentry
    obtain ⟨_, ⟨other, hother, rfl⟩, -⟩ := hentry
    exact mem_map_of_mem hother

/-- The parser accepts exactly the registries whose entries are valid, whose fallbacks exist, and in which no profile
is led back to itself by its fallbacks. -/
theorem parseAccessProfileDefinitions_iff_acyclic (profiles normalized : List (String × AccessProfileDefinition)) :
    parseAccessProfileDefinitions (some profiles) = .ok normalized ↔
      parseEntries "access profile" normalizeProfile [] profiles = .ok normalized ∧
        checkFallbacks normalized = .ok () ∧ ∀ id, ¬ TransGen (FallsTo (fallbackGraph normalized)) id id := by
  simp only [parseAccessProfileDefinitions, bind_eq_ok, pure_eq_ok, ← foldlM_map (f := Prod.fst)]
  constructor
  · rintro ⟨_, hentries, ⟨⟩, hchecked, done, hsearch, rfl⟩
    refine ⟨hentries, hchecked, fun id hcycle => ?_⟩
    obtain ⟨hacc, -, hall⟩ := search_ends (fallbackGraph_subset hchecked) _ (Subset.refl _) nodup_nil
      (nil_subset _) (by simp) (by simp) hsearch
    obtain ⟨y, hy, -⟩ := TransGen.head'_iff.mp hcycle
    exact not_rel_of_acc (hacc id (hall (fallbackGraph_subset hchecked y hy))).transGen hcycle
  · rintro ⟨hentries, hchecked, hacyclic⟩
    refine ⟨normalized, hentries, (), hchecked, ?_⟩
    cases hsearch : (normalized.map Prod.fst).foldlM
      (visit (fallbackGraph normalized) (normalized.length + 1) []) [] with
    | ok done => exact ⟨done, rfl, rfl⟩
    | error e =>
      obtain ⟨id, hcycle⟩ := search_cycle _ (by simp) hsearch
      exact absurd hcycle (hacyclic id)

end MyApiSpec.Access
