import MyApiSpec.Share.Calls
import MyApiSpec.Share.Invariant

/-!
# What the transactions keep

The projection of samples, the calls of the administrator and the admission of attempts keep the
invariant of the tables and lower no estimate. Only one of them can break the sum of a generation: a
rebaseline of a generation that has counted usage without ever having had a baseline.
-/

namespace MyApiSpec.Share

open Base List Table Option

variable {db db' : DB} {a : Allocation} {g g' : Generation} {pool' : Pool}
  {actorID now tokenID usedMicro userID : Int} {input : ConfigInput} {rd : Reads} {s : Snapshot}

/-- The tables behind a transaction: the invariant holds, no estimate decreased, and every
allocation still belongs to its pool. -/
structure Kept (db db' : DB) : Prop where
  inv : Inv db'
  grows : Grows db.usages db'.usages
  owners : ∀ id poolID, poolOf db.allocations id = some poolID → poolOf db'.allocations id = some poolID

theorem Kept.refl (h : Inv db) : Kept db db := ⟨h, Grows.refl _, fun _ _ => id⟩

theorem Kept.trans {a b c : DB} (hab : Kept a b) (hbc : Kept b c) : Kept a c :=
  ⟨hbc.inv, hab.grows.trans hbc.grows, fun i p h => hbc.owners i p (hab.owners i p h)⟩

theorem SameCore.kept (h : SameCore db db') (hi : Inv db) : Kept db db' :=
  ⟨h.inv hi, by rw [h.usages]; exact Grows.refl _, by rw [h.allocations]; exact fun _ _ => id⟩

theorem Kept.updatePool (h : Kept db db') (poolID : Int) (f : Pool → Pool) :
    Kept db (db'.updatePool poolID f) :=
  h.trans ((updatePool_core ..).kept h.inv)

theorem Kept.audits (h : Kept db db') (audits : Store String Audit) :
    Kept db { db' with audits := audits } :=
  h.trans (SameCore.kept ⟨rfl, rfl, rfl, rfl, le_rfl⟩ h.inv)

theorem finalizeUncertainAttempts_kept (h : Inv db) (poolID generation coveredAt : Int) :
    Kept db (finalizeUncertainAttempts db poolID generation coveredAt).1 :=
  ⟨{ h with windows := h.windows.update }, Grows.refl _, fun _ _ => id⟩

/-! ### New generations -/

theorem createUsages_kept {l : List Allocation} {generation : Int} (h : Inv db)
    (hl : ∀ a ∈ l, (poolOf db.allocations a.id).isSome)
    (hok : l.foldlM (fun db a => createUsage db a.id generation) db = .ok db') : Kept db db' := by
  obtain ⟨-, hdb, hgrows, hback, hest⟩ := createUsages_ok hok
  rw [hdb]
  refine ⟨{ h with usages := fun u hu => ?_, generations := fun g hg => ?_ }, hgrows, fun _ _ => id⟩
  · rcases hback u hu with hold | ⟨a, hmem, hid⟩
    · exact h.usages u hold
    · rw [hid]
      exact hl a hmem
  · rw [hest]
    exact h.generations g hg

/-- A generation in which the pool is not charged yet. -/
theorem createGeneration_kept (h : Inv db) (hok : createGeneration db g = .ok (db', g'))
    (hzero : estimated db.allocations db.usages g.poolID g.generation = 0) (hg : GenerationOk 0 g) :
    Kept db db' ∧ db'.generations.get? g'.id = some g' := by
  simp only [createGeneration, bind_eq_ok] at hok
  obtain ⟨generations, hinsert, hc⟩ := hok
  obtain ⟨hclash, rfl⟩ := insertUnique_ok hinsert
  cases hc
  refine ⟨⟨{ h with generations := fun x hx => ?_, oneGeneration := ?_ }, Grows.refl _, fun _ _ => id⟩,
    get?_insert_nextId _ _⟩
  · rcases mem_insert.mp hx with hx | rfl
    · exact h.generations x hx
    · have hsame : estimated db.allocations db.usages (Row.withId db.generations.nextId g).poolID
          (Row.withId db.generations.nextId g).generation = 0 := hzero
      rw [hsame]
      exact { hg with }
  · refine h.oneGeneration.insert fun x hx he => ?_
    have hne := hclash x hx
    simp only [decide_eq_false_iff_not] at hne
    exact hne ⟨congrArg Prod.fst he, congrArg Prod.snd he⟩

/-- A pool without usage rows in a generation is not charged in it. -/
theorem estimated_eq_zero {poolID generation : Int}
    (h : ∀ a ∈ db.poolAllocations poolID, ∀ u ∈ db.usages.rows,
      ¬ (u.allocationID = a.id ∧ u.generation = generation)) :
    estimated db.allocations db.usages poolID generation = 0 := by
  refine Table.sum_eq_zero fun u hu => ?_
  refine if_neg ?_
  rintro ⟨hgeneration, hpool⟩
  obtain ⟨a, hget, hid⟩ := Option.map_eq_some_iff.mp hpool
  have hmem : a ∈ db.poolAllocations poolID :=
    mem_filter.mpr ⟨get?_mem hget, by simpa using hid⟩
  exact h a hmem u hu ⟨(get?_id hget).symm, hgeneration⟩

/-- A new generation with the usages of all allocations of its pool. -/
theorem openGeneration_kept {db₁ db₂ : DB} (h : Inv db)
    (hcreate : createGeneration db g = .ok (db₁, g')) (hcore : SameCore db₁ db₂)
    (husages : (db₂.poolAllocations g.poolID).foldlM
      (fun db a => createUsage db a.id g.generation) db₂ = .ok db') (hg : GenerationOk 0 g) :
    Kept db db' ∧ db'.generations.get? g'.id = some g' := by
  obtain ⟨hfresh, hdb, -⟩ := createUsages_ok husages
  have htables : db₁.allocations = db.allocations ∧ db₁.usages = db.usages := by
    simp only [createGeneration, bind_eq_ok] at hcreate
    obtain ⟨_, -, hc⟩ := hcreate
    cases hc
    exact ⟨rfl, rfl⟩
  -- the unique index of the usages was free for every allocation of the pool
  have hzero : estimated db.allocations db.usages g.poolID g.generation = 0 := by
    rw [← htables.1, ← htables.2, ← hcore.allocations, ← hcore.usages]
    exact estimated_eq_zero hfresh
  obtain ⟨hcreated, hstored⟩ := createGeneration_kept h hcreate hzero hg
  have hkept := hcreated.trans (hcore.kept hcreated.inv)
  refine ⟨hkept.trans (createUsages_kept hkept.inv (fun a ha => ?_) husages), ?_⟩
  · rw [poolOf, show a.id = Row.id a from rfl, get?_of_mem (mem_filter.mp ha).1]
    rfl
  · rw [hdb, hcore.generations]
    exact hstored

/-! ### Projection -/

/-- A projection step goes on with the generation it stored. -/
structure Projected (db db' : DB) (pool' : Pool) (g' : Generation) : Prop extends Kept db db' where
  carried : Carried db' pool' g'

/-- Writes outside the four tables do not disturb a projection step. -/
theorem Projected.core {db'' : DB} (h : Projected db db' pool' g') (hcore : SameCore db' db'') :
    Projected db db'' pool' g' :=
  { toKept := h.toKept.trans (hcore.kept h.inv)
    carried := ⟨by rw [hcore.generations]; exact h.carried.stored, h.carried.poolID,
      h.carried.generation⟩ }

theorem Projected.pool {pool : Pool} (h : Projected db db' pool g') (hid : pool'.id = pool.id)
    (hgeneration : pool'.currentGeneration = pool.currentGeneration) : Projected db db' pool' g' :=
  { toKept := h.toKept
    carried := ⟨h.carried.stored, h.carried.poolID.trans hid.symm,
      h.carried.generation.trans hgeneration.symm⟩ }

theorem Projected.cover {pool : Pool} (h : Projected db db' pool g') (s : Snapshot)
    (evidence : List SampleAllocation) :
    Projected db (coverAttempts db' pool s evidence).1 pool g' :=
  { toKept := h.toKept.trans ⟨{ h.inv with windows := h.inv.windows.update }, Grows.refl _, fun _ _ => id⟩
    carried := ⟨h.carried.stored, h.carried.poolID, h.carried.generation⟩ }

section Sample

variable {pool : Pool}

theorem applyReset_ok (h : Inv db) (hobserved : 0 < s.observedAt)
    (hok : applyReset db pool g s usedMicro = .ok (db', pool', g')) :
    Projected db db' pool' g' := by
  simp only [applyReset, bind_eq_ok] at hok
  obtain ⟨⟨db₁, next⟩, hcreate, _, -, _, -, db₂, husages, hr⟩ := hok
  cases hr
  have hfinal := finalizeUncertainAttempts_kept h pool.id pool.currentGeneration s.observedAt
  -- the new generation starts with a baseline and all of its usage unattributed
  obtain ⟨hopened, hstored⟩ := openGeneration_kept hfinal.inv hcreate (updatePool_core _ _ _)
    husages ⟨hobserved.le, fun _ => hobserved, fun hz => absurd hz (ne_of_gt hobserved),
      fun _ => (Int.add_zero _).symm⟩
  simp only [createGeneration, bind_eq_ok] at hcreate
  obtain ⟨_, -, hc⟩ := hcreate
  cases hc
  exact Projected.core ⟨hfinal.trans hopened, hstored, rfl, rfl⟩ (recordSampleApplication_core ..)

/-- The stored generation behind a sample that neither repeats the last one nor resets the window. -/
theorem sampleEffect_projected (h : Inv db) (hc : Carried db pool g) {e : SampleEffect}
    (he : sampleEffect db pool g s (sampleFacts pool g s) = .ok e) :
    Projected db
      { e.db with
        generations := e.db.generations.put (e.next g s (sampleFacts pool g s)) }
      pool (e.next g s (sampleFacts pool g s)) := by
  obtain ⟨hgenerations, hallocations, hpools, hwindows, ⟨hid, hkey⟩, amount, hcharged, hok⟩ :=
    sampleEffect_ok h hc he
  have hput := putGeneration_inv _ h hc.stored hid hkey hcharged hwindows hok
  have hinv : Inv { e.db with
      generations := e.db.generations.put (e.next g s (sampleFacts pool g s)) } := by
    refine SameCore.inv ?_ hput
    exact ⟨rfl, rfl, congrArg (put · _) hgenerations, hallocations, hpools⟩
  refine ⟨⟨hinv, hcharged.grows, ?_⟩, ?_, ?_, ?_⟩
  · rw [hallocations]
    exact fun _ _ => id
  · rw [hgenerations]
    have hget : db.generations.get? (Row.id (e.next g s (sampleFacts pool g s))) = some g := by
      rw [show Row.id (e.next g s (sampleFacts pool g s)) = g.id from hid]
      exact hc.stored
    exact get?_put_self hget
  · exact hkey.1.trans hc.poolID
  · exact hkey.2.trans hc.generation

theorem applySubscriptionShareSnapshot_ok (h : Inv db) (hc : Carried db pool g)
    (hok : applySubscriptionShareSnapshot db pool g s = .ok (db', pool', g')) :
    Projected db db' pool' g' := by
  simp only [applySubscriptionShareSnapshot] at hok
  split at hok
  · cases hok
    have hg := h.generations g (get?_mem hc.stored)
    have hput := putGeneration_inv { g with lastSnapshotID := s.id } h hc.stored rfl ⟨rfl, rfl⟩
      (Charged.refl _) h.windows
      (by rw [Int.add_zero]; exact { hg with })
    have hprojected : Projected db
        { db with
          generations := db.generations.put { g with lastSnapshotID := s.id } }
        pool { g with lastSnapshotID := s.id } :=
      ⟨⟨hput, Grows.refl _, fun _ _ => id⟩, get?_put_self hc.stored, hc.poolID, hc.generation⟩
    exact ((hprojected.core (updatePool_core ..)).core (recordSampleApplication_core ..)).pool rfl rfl
  split at hok
  · next hreset =>
    have hq : (sampleFacts pool g s).qualified = true := by
      simp only [sampleFacts, Bool.and_eq_true] at hreset ⊢
      exact hreset.1.1.1.2
    exact applyReset_ok h (sampleFacts_observed hq) hok
  · obtain ⟨e, he, hr⟩ := bind_eq_ok.mp hok
    have hp := sampleEffect_projected h hc he
    cases hr
    refine Projected.core ?_ (recordSampleApplication_core ..)
    split
    · split
      · refine Projected.cover ?_ s e.evidence
        exact (hp.core (updatePool_core ..)).pool rfl rfl
      · exact hp.cover s e.evidence
    · split
      · exact (hp.core (updatePool_core ..)).pool rfl rfl
      · exact hp

end Sample

variable {snapshots : List Snapshot} {subjectRef : String} {backlog : Bool}

theorem refreshPool_kept {pool : Pool}
    (h : Inv db)
    (hok : refreshPool snapshots subjectRef db pool = .ok (db', backlog)) : Kept db db' := by
  simp only [refreshPool, bind_eq_ok, need_eq_ok] at hok
  obtain ⟨g, hg, ⟨db₁, pool₁, g₁⟩, hloop, hr⟩ := hok
  cases hr
  have hkey : g.poolID = pool.id ∧ g.generation = pool.currentGeneration := by
    simpa using find?_pred hg
  have hcarried : Carried db pool g := ⟨get?_of_mem (find?_mem hg), hkey.1, hkey.2⟩
  have hfold := foldlM_invariant
    (fun acc : DB × Pool × Generation => Kept db acc.1 ∧ Carried acc.1 acc.2.1 acc.2.2)
    (fun acc s acc' hacc hstep => by
      have hp := applySubscriptionShareSnapshot_ok hacc.1.inv hacc.2 hstep
      exact ⟨hacc.1.trans hp.toKept, hp.carried⟩) ⟨Kept.refl h, hcarried⟩ hloop
  exact hfold.1

theorem refreshSubscriptionSharePools_kept
    {pools : List Pool} (h : Inv db)
    (hok : refreshSubscriptionSharePools snapshots subjectRef db pools = .ok (db', backlog)) :
    Kept db db' := by
  refine foldlM_invariant (fun acc : DB × Bool => Kept db acc.1) ?_ (Kept.refl h) hok
  intro acc pool acc' hacc hstep
  obtain ⟨⟨db₁, b⟩, hpool, hr⟩ := bind_eq_ok.mp hstep
  cases hr
  exact hacc.trans (refreshPool_kept hacc.inv hpool)

/-! ### Allocations -/

/-- The shares of a pool without the token. -/
def othersBPS (allocations : Table Allocation) (poolID tokenID : Int) : Int :=
  allocations.sum (fun a => if a.poolID = poolID ∧ a.tokenID ≠ tokenID then a.shareBPS else 0)

theorem reviewAllocations_ok {tokenID userID : Int} : ∀ {l : List Allocation}
    {found found' : Option Allocation} {allocated allocated' : Int},
    reviewAllocations tokenID userID l found allocated = .ok (found', allocated') →
    allocated' = allocated + (l.map fun a => if a.tokenID = tokenID then 0 else a.shareBPS).sum ∧
      (found.isSome → found'.isSome) ∧ (∀ a ∈ l, a.tokenID = tokenID → found'.isSome) ∧
      ∀ a, found' = some a → found = some a ∨ (a ∈ l ∧ a.tokenID = tokenID)
  | [], found, found', allocated, allocated', h => by
    cases h
    exact ⟨by simp, id, fun a ha => by (cases ha), fun a ha => .inl ha⟩
  | a :: l, found, found', allocated, allocated', h => by
    simp only [reviewAllocations, bind_eq_ok] at h
    obtain ⟨_, -, h⟩ := h
    split at h
    · next ht =>
      simp only [bind_eq_ok] at h
      obtain ⟨_, -, h⟩ := h
      obtain ⟨hsum, hkeep, -, hback⟩ := reviewAllocations_ok h
      refine ⟨by simpa [ht] using hsum, fun _ => hkeep rfl, fun _ _ _ => hkeep rfl, fun x hx => ?_⟩
      rcases hback x hx with hxa | ⟨hx, hxt⟩
      · cases hxa
        exact .inr ⟨mem_cons_self, ht⟩
      · exact .inr ⟨mem_cons_of_mem _ hx, hxt⟩
    · next ht =>
      simp only [bind_eq_ok] at h
      obtain ⟨_, -, h⟩ := h
      obtain ⟨hsum, hkeep, hsome, hback⟩ := reviewAllocations_ok h
      refine ⟨?_, hkeep, fun x hx hxt => ?_, fun x hx => ?_⟩
      · rw [map_cons, sum_cons, if_neg ht]
        omega
      · rcases mem_cons.mp hx with rfl | hx
        · exact absurd hxt ht
        · exact hsome x hx hxt
      · exact (hback x hx).imp id fun h => ⟨mem_cons_of_mem _ h.1, h.2⟩

variable {found : Option Allocation} {poolID : Int} {allocated : Int}

/-- The review of the allocations of a pool finds the one of the token and adds up the others. -/
theorem reviewPool_ok
    (h : reviewAllocations tokenID userID (db.poolAllocations poolID) none 0 =
      .ok (found, allocated)) :
    allocated = othersBPS db.allocations poolID tokenID ∧
      (found = none → ∀ a ∈ db.allocations.rows, a.poolID = poolID → a.tokenID ≠ tokenID) ∧
      ∀ a, found = some a → a ∈ db.allocations.rows ∧ a.poolID = poolID ∧ a.tokenID = tokenID := by
  obtain ⟨hsum, -, hsome, hback⟩ := reviewAllocations_ok h
  refine ⟨?_, fun hn a ha hp ht => ?_, fun a ha => ?_⟩
  · rw [hsum, Int.zero_add, DB.poolAllocations, sum_filter, othersBPS]
    refine sum_congr fun a _ => ?_
    by_cases hp : a.poolID = poolID <;> by_cases ht : a.tokenID = tokenID <;> simp [hp, ht]
  · have hfound := hsome a (mem_filter.mpr ⟨ha, by simpa using hp⟩) ht
    rw [hn] at hfound
    cases hfound
  · rcases hback a ha with hnone | ⟨hmem, ht⟩
    · cases hnone
    · obtain ⟨hmem, hp⟩ := mem_filter.mp hmem
      exact ⟨hmem, by simpa using hp, ht⟩

variable {allocations : Table Allocation}

/-- The share of one allocation and those of the others make up the shares of its pool. -/
theorem allocatedBPS_eq
    (h : allocations.UniqueOn (fun a => (a.poolID, a.tokenID))) (ha : a ∈ allocations.rows) :
    allocatedBPS allocations a.poolID = othersBPS allocations a.poolID a.tokenID + a.shareBPS := by
  have hsingle : allocations.sum (fun x => if x.poolID = a.poolID ∧ x.tokenID = a.tokenID
      then x.shareBPS else 0) = a.shareBPS := by
    rw [sum_eq_single ha, if_pos ⟨rfl, rfl⟩]
    intro x hx hne
    exact if_neg fun he => hne (h x hx a ha (Prod.ext he.1 he.2))
  rw [← hsingle, allocatedBPS, othersBPS]
  simp only [Table.sum, ← sum_map_add]
  congr 2
  funext x
  by_cases hp : x.poolID = a.poolID <;> by_cases ht : x.tokenID = a.tokenID <;> simp [hp, ht]

theorem allocatedBPS_eq_others
    (h : ∀ a ∈ allocations.rows, a.poolID = poolID → a.tokenID ≠ tokenID) :
    allocatedBPS allocations poolID = othersBPS allocations poolID tokenID := by
  refine sum_congr fun a ha => ?_
  by_cases hp : a.poolID = poolID
  · rw [if_pos hp, if_pos ⟨hp, h a ha hp⟩]
  · rw [if_neg hp, if_neg fun hc => hp hc.1]

/-- A table that keeps the pool of every allocation keeps the estimates. -/
theorem allocations_kept (h : Inv db)
    (howner : ∀ id p, poolOf db.allocations id = some p → poolOf allocations id = some p)
    (hone : allocations.UniqueOn (fun a => (a.poolID, a.tokenID)))
    (hshares : ∀ poolID, allocatedBPS allocations poolID ≤ 10000)
    (hpooled : ∀ a ∈ allocations.rows, a.poolID < db.pools.nextId) :
    Kept db { db with allocations := allocations } := by
  have hknown : ∀ u ∈ db.usages.rows,
      poolOf allocations u.allocationID = poolOf db.allocations u.allocationID := by
    intro u hu
    obtain ⟨q, hq⟩ := isSome_iff_exists.mp (h.usages u hu)
    rw [hq, howner _ _ hq]
  refine ⟨⟨fun w hw => howner _ _ (h.windows w hw), fun u hu => ?_, fun g hg => ?_, h.oneGeneration,
    hone, hshares, hpooled⟩, Grows.refl _, howner⟩
  · rw [hknown u hu]
    exact h.usages u hu
  · have hest : estimated allocations db.usages g.poolID g.generation =
        estimated db.allocations db.usages g.poolID g.generation :=
      sum_congr fun u hu => by rw [usageOf, usageOf, hknown u hu]
    rw [hest]
    exact h.generations g hg

/-- A new share of a stored allocation. -/
theorem putAllocation_kept {a' : Allocation} (h : Inv db) (ha : a ∈ db.allocations.rows)
    (hid : a'.id = a.id) (hpool : a'.poolID = a.poolID) (htoken : a'.tokenID = a.tokenID)
    (hshare : othersBPS db.allocations a.poolID a.tokenID + a'.shareBPS ≤ 10000) :
    Kept db { db with allocations := db.allocations.put a' } := by
  have hget : db.allocations.get? (Row.id a') = some a := by
    rw [show Row.id a' = Row.id a from hid]
    exact get?_of_mem ha
  refine allocations_kept h (fun id p hp => ?_) (h.oneAllocation.put hget (Prod.ext hpool htoken))
    (fun p => ?_) ?_
  · rw [poolOf, get?_put]
    split
    · next he =>
      rw [← hp, poolOf, he, hget]
      exact congrArg some hpool
    · exact hp
  · have hall := allocatedBPS_eq h.oneAllocation ha
    have hp := h.shares p
    rw [allocatedBPS] at hall hp ⊢
    rw [sum_put _ hget, hpool]
    by_cases he : a.poolID = p
    · subst he
      omega
    · omega
  · intro x hx
    rcases mem_put hx with rfl | ⟨hx, -⟩
    · rw [hpool]
      exact h.pooled a ha
    · exact h.pooled x hx

/-- A new allocation of a token that has none in the pool. -/
theorem insertAllocation_kept (a : Allocation) (h : Inv db)
    (hnone : ∀ x ∈ db.allocations.rows, x.poolID = a.poolID → x.tokenID ≠ a.tokenID)
    (hpool : a.poolID < db.pools.nextId)
    (hshare : othersBPS db.allocations a.poolID a.tokenID + a.shareBPS ≤ 10000) :
    Kept db { db with allocations := db.allocations.insert a } := by
  refine allocations_kept h (fun id p hp => ?_) (h.oneAllocation.insert ?_) (fun p => ?_) ?_
  · obtain ⟨x, hx, hxp⟩ := map_eq_some_iff.mp hp
    rw [poolOf, get?_insert_of_some hx]
    exact congrArg some hxp
  · exact fun x hx he => hnone x hx (congrArg Prod.fst he) (congrArg Prod.snd he)
  · have hall := allocatedBPS_eq_others hnone
    have hp := h.shares p
    rw [allocatedBPS] at hall hp ⊢
    rw [sum_insert]
    show _ + (if a.poolID = p then a.shareBPS else 0) ≤ 10000
    by_cases he : a.poolID = p
    · subst he
      omega
    · omega
  · intro x hx
    rcases mem_insert.mp hx with hx | rfl
    · exact h.pooled x hx
    · exact hpool

theorem createUsage_kept {allocationID generation : Int} (h : Inv db)
    (hknown : (poolOf db.allocations allocationID).isSome)
    (hok : createUsage db allocationID generation = .ok db') :
    Kept db db' ∧ db' = { db with usages := db'.usages } := by
  obtain ⟨a, hget⟩ : ∃ a, db.allocations.get? allocationID = some a := by
    simpa [poolOf, isSome_iff_exists] using hknown
  have hid : a.id = allocationID := get?_id hget
  have hfold : [a].foldlM (fun db a => createUsage db a.id generation) db = .ok db' := by
    rw [foldlM_cons, hid, hok]
    rfl
  exact ⟨createUsages_kept h (by simpa [hid] using hknown) hfold, (createUsages_ok hfold).2.1⟩

theorem placeAllocation_kept {pool : Pool}
    (h : Inv db) (hpool : pool.id < db.pools.nextId)
    (hreview : reviewAllocations tokenID userID (db.poolAllocations pool.id) none 0 =
      .ok (found, allocated)) (hshare : allocated + input.shareBPS ≤ 10000)
    (hok : placeAllocation db pool tokenID userID input now found = .ok db') :
    Kept db db' ∧ db'.generations = db.generations := by
  obtain ⟨hallocated, hnone, hsome⟩ := reviewPool_ok hreview
  rw [hallocated] at hshare
  cases found with
  | some a =>
    cases hok
    obtain ⟨hmem, hp, ht⟩ := hsome a rfl
    rw [← hp, ← ht] at hshare
    exact ⟨putAllocation_kept h hmem rfl rfl rfl hshare, rfl⟩
  | none =>
    simp only [placeAllocation, bind_eq_ok] at hok
    obtain ⟨allocations, hinsert, hok⟩ := hok
    obtain ⟨-, rfl⟩ := insertUnique_ok hinsert
    have hkept := insertAllocation_kept
      { poolID := pool.id
        tokenID := tokenID
        userID := userID
        shareBPS := input.shareBPS
        createdAt := now
        updatedAt := now } h (hnone rfl) hpool hshare
    split at hok
    · cases hok
      exact ⟨hkept, rfl⟩
    · obtain ⟨husage, hdb⟩ := createUsage_kept hkept.inv (by simp [poolOf]) hok
      exact ⟨hkept.trans husage, by rw [hdb]⟩

/-! ### Configuration -/

theorem awaitingGeneration_ok (poolID generation : Int) (s : Snapshot) :
    GenerationOk 0 (awaitingGeneration poolID generation s) :=
  ⟨le_rfl, fun hr => by (cases hr), fun _ => ⟨rfl, rfl⟩, fun hp => absurd hp (lt_irrefl 0)⟩

theorem createPool_kept {pool : Pool} (h : Inv db)
    (hok : createPool db rd input s now = .ok (db', pool)) :
    Kept db db' ∧ pool.id < db'.pools.nextId ∧ input.replaceWindow = false := by
  simp only [createPool, bind_eq_ok, check_eq_ok] at hok
  obtain ⟨_, hwindow, _, -, _, -, name, -, ⟨db₁, g⟩, hcreate, hr⟩ := hok
  cases hr
  have hpools : SameCore db { db with pools := db.pools.insert (newPool s name now) } :=
    ⟨rfl, rfl, rfl, rfl, Int.le_add_of_nonneg_right (by decide)⟩
  have hzero : estimated db.allocations db.usages db.pools.nextId 1 = 0 := by
    refine estimated_eq_zero fun a ha => ?_
    obtain ⟨hmem, hp⟩ := mem_filter.mp ha
    have hlt := h.pooled a hmem
    simp only [decide_eq_true_eq] at hp
    omega
  have hkept := (createGeneration_kept (hpools.inv h) hcreate hzero (awaitingGeneration_ok ..)).1
  simp only [createGeneration, bind_eq_ok] at hcreate
  obtain ⟨_, -, hc⟩ := hcreate
  cases hc
  exact ⟨(hpools.kept h).trans hkept, Int.lt_add_one_iff.mpr le_rfl, hwindow⟩

variable {uncertain : Int}

theorem replaceWindow_kept {pool : Pool} (h : Inv db)
    (hok : replaceWindow db pool s now = .ok (db', pool', uncertain)) : Kept db db' := by
  simp only [replaceWindow, bind_eq_ok] at hok
  obtain ⟨⟨db₁, g⟩, hcreate, db₂, husages, hr⟩ := hok
  cases hr
  have hfinal := finalizeUncertainAttempts_kept ((updatePool_core db pool.id (fun p =>
    { p with
      revision := pool.revision + 1
      descriptorKey := s.descriptor
      snapshotID := s.id
      windowType := s.windowType
      windowSeconds := s.windowSeconds
      planType := s.planType
      configuredAt := now
      currentGeneration := pool.currentGeneration + 1 })).inv h)
    pool.id pool.currentGeneration s.observedAt
  have hopened := openGeneration_kept hfinal.inv hcreate ⟨rfl, rfl, rfl, rfl, le_rfl⟩ husages
    (awaitingGeneration_ok ..)
  exact (((updatePool_core ..).kept h).trans hfinal).trans hopened.1

/-- A rebaseline keeps the sum of a generation that has a baseline or no unattributed usage. -/
theorem takeBaseline_kept {pool : Pool} (h : Inv db) (hg : db.generations.get? g.id = some g)
    (hobserved : 0 < s.observedAt) (hsound : g.baselineTime ≠ 0 ∨ g.unattributedMicro = 0) :
    Kept db (takeBaseline db pool g s usedMicro).1 := by
  have hcore := updatePool_core db pool.id
    (fun p => { p with revision := pool.revision + 1, snapshotID := s.id })
  have hpool := hcore.kept h
  have hfinal := finalizeUncertainAttempts_kept hpool.inv pool.id pool.currentGeneration s.observedAt
  have hstored : (finalizeUncertainAttempts (db.updatePool pool.id
      (fun p => { p with revision := pool.revision + 1, snapshotID := s.id })) pool.id
        pool.currentGeneration s.observedAt).1.generations.get? g.id = some g := by
    show (db.updatePool _ _).generations.get? g.id = some g
    rw [hcore.generations]
    exact hg
  have hold := hfinal.inv.generations g (get?_mem hstored)
  have hput := putGeneration_inv (rebaselinedGeneration g s usedMicro) hfinal.inv hstored rfl ⟨rfl, rfl⟩
    (Charged.refl _) hfinal.inv.windows ?_
  · exact (hpool.trans hfinal).trans ⟨hput, Grows.refl _, fun _ _ => id⟩
  refine ⟨hobserved.le, fun _ => hobserved, fun hz => absurd hz (ne_of_gt hobserved), fun _ => ?_⟩
  have hnonneg := hold.nonneg
  rcases hnonneg.lt_or_eq with hpos | hzero
  · have hcons := hold.conserved hpos
    simp only [rebaselinedGeneration]
    split <;> omega
  · obtain ⟨hlast, hest⟩ := hold.idle hzero.symm
    have hun := hsound.resolve_left (not_not_intro hzero.symm)
    simp only [rebaselinedGeneration, hest, hun, hlast]
    split <;> omega

theorem advancePool_kept {pool next : Pool} {rebaseline : Option Generation}
    (h : Inv db) (hobserved : 0 < s.observedAt)
    (hrebaseline : ∀ g, rebaseline = some g → db.generations.get? g.id = some g ∧
      (g.baselineTime ≠ 0 ∨ g.unattributedMicro = 0))
    (hok : advancePool db pool input s usedMicro now rebaseline = .ok (db', next, uncertain)) :
    Kept db db' := by
  unfold advancePool at hok
  split at hok
  · cases hok
    exact Kept.refl h
  split at hok
  · next g =>
    cases hok
    exact takeBaseline_kept h (hrebaseline g rfl).1 hobserved (hrebaseline g rfl).2
  · split at hok
    · exact replaceWindow_kept h hok
    · cases hok
      exact (updatePool_core ..).kept h

/-- The generation that a rebaseline would continue has a baseline, or it has no unattributed
usage. -/
def DB.RebaselineSound (db : DB) (input : ConfigInput) (s : Snapshot) : Prop :=
  input.replaceWindow = true → ∀ pool g, db.pools.get? input.poolID = some pool →
    pool.descriptorKey = s.descriptor → db.generation? pool.id pool.currentGeneration = some g →
    g.baselineTime ≠ 0 ∨ g.unattributedMicro = 0

theorem configuredPool_ok {pool : Pool} (h : Inv db)
    (hok : configuredPool db rd input s now = .ok (db', pool)) :
    Kept db db' ∧ pool.id < db'.pools.nextId ∧
      (input.replaceWindow = true → db' = db ∧ db.pools.get? input.poolID = some pool) := by
  unfold configuredPool at hok
  split at hok
  · obtain ⟨hkept, hid, hwindow⟩ := createPool_kept h hok
    exact ⟨hkept, hid, fun hw => absurd (hwindow.symm.trans hw) (by decide)⟩
  · simp only [lockPool, bind_eq_ok, need_eq_ok] at hok
    obtain ⟨_, hget, _, -, hr⟩ := hok
    cases hr
    have hid : pool.id = input.poolID := get?_id hget
    exact ⟨Kept.refl h, by rw [hid]; exact (get?_bounds hget).2, fun _ => ⟨rfl, hget⟩⟩

theorem configurePool_kept (h : Inv db) (hobserved : 0 < s.observedAt)
    (hsound : db.RebaselineSound input s)
    (hok : configurePool db rd actorID tokenID userID input s usedMicro now = .ok db') :
    Kept db db' := by
  simp only [configurePool, bind_eq_ok, check_eq_ok, need_eq_ok] at hok
  obtain ⟨⟨db₁, pool⟩, hpool, rebaseline, hlock, ⟨found, allocated⟩, hreview, _, -, _, hshare, db₂,
    hplace, ⟨db₃, next, uncertain⟩, hadvance, audits, -, hr⟩ := hok
  cases hr
  obtain ⟨hfirst, hid, hstored⟩ := configuredPool_ok h hpool
  obtain ⟨hplaced, hgenerations⟩ := placeAllocation_kept hfirst.inv hid hreview hshare hplace
  have hrebaseline : ∀ g, rebaseline = some g → db₂.generations.get? g.id = some g ∧
      (g.baselineTime ≠ 0 ∨ g.unattributedMicro = 0) := by
    rintro g rfl
    unfold rebaselined at hlock
    split at hlock
    · next hw =>
      obtain ⟨g', hg, he⟩ := map_eq_ok.mp hlock
      cases he
      obtain ⟨rfl, hget⟩ := hstored hw.1
      simp only [lockRebaseline, bind_eq_ok, need_eq_ok] at hg
      obtain ⟨_, hgen, _, -, hr⟩ := hg
      cases hr
      rw [hgenerations]
      exact ⟨get?_of_mem (find?_mem hgen), hsound hw.1 pool g hget hw.2 hgen⟩
    · cases hlock
  have hadvanced := advancePool_kept hplaced.inv hobserved hrebaseline hadvance
  exact ((hfirst.trans hplaced).trans hadvanced).audits audits

theorem configureSubscriptionShare_kept (h : Inv db)
    (hsound : ∀ s, rd.snapshots.find? (fun s => s.id = input.snapshotID) = some s →
      db.RebaselineSound input s)
    (hok : configureSubscriptionShare db rd actorID tokenID input now = .ok db') : Kept db db' := by
  simp only [configureSubscriptionShare, bind_eq_ok, need_eq_ok, check_eq_ok] at hok
  obtain ⟨_, -, _, -, token, -, _, -, hok⟩ := hok
  split at hok
  · obtain ⟨_, -, hr⟩ := bind_eq_ok.mp hok
    cases hr
    exact Kept.refl h
  · simp only [bind_eq_ok, need_eq_ok, check_eq_ok] at hok
    obtain ⟨_, -, s, hs, _, hvalid, used, -, hok⟩ := hok
    have hobservation : validSubscriptionShareObservation s = true := by
      split at hvalid
      · simp only [validSubscriptionShareSnapshot, Bool.and_eq_true] at hvalid
        exact hvalid.1.1.1
      · exact hvalid
    simp only [validSubscriptionShareObservation, Bool.and_eq_true, decide_eq_true_eq] at hobservation
    exact configurePool_kept h hobservation.1.1.2 (hsound s hs) hok

/-! ### Closing and attempts -/

variable {input : CloseInput}

theorem closePool_kept {pool : Pool} (h : Inv db)
    (hok : closePool db actorID input pool now = .ok db') : Kept db db' := by
  simp only [closePool, bind_eq_ok, need_eq_ok] at hok
  obtain ⟨_, -, g, hg, audits, -, hr⟩ := hok
  cases hr
  have hfinal := finalizeUncertainAttempts_kept h pool.id pool.currentGeneration now
  have hstored := get?_of_mem (find?_mem hg)
  have hold := hfinal.inv.generations g (get?_mem hstored)
  have hput := putGeneration_inv
    { g with
      state := .stopped
      reason := "pool_closed"
      stoppedAt := now
      stoppedSnapshotID := g.lastSnapshotID }
    hfinal.inv hstored rfl ⟨rfl, rfl⟩ (Charged.refl _) hfinal.inv.windows
    (by rw [Int.add_zero]; exact { hold with ready := fun hr => by (cases hr) })
  have hclosed : Kept db _ := hfinal.trans ⟨hput, Grows.refl _, fun _ _ => id⟩
  exact (hclosed.updatePool ..).audits _

theorem closeSubscriptionSharePool_kept (h : Inv db)
    (hok : closeSubscriptionSharePool db rd actorID input now = .ok db') : Kept db db' := by
  simp only [closeSubscriptionSharePool, bind_eq_ok, need_eq_ok] at hok
  obtain ⟨_, -, _, -, pool, -, hok⟩ := hok
  split at hok
  · obtain ⟨_, -, hr⟩ := bind_eq_ok.mp hok
    cases hr
    exact Kept.refl h
  · exact closePool_kept h hok

variable {bindings : List Allocation}

theorem poolDecision_ok {pool : Pool}
    (h : poolDecision db bindings userID now pool = .ok (.ok a)) :
    a ∈ bindings ∧ a.poolID = pool.id := by
  unfold poolDecision at h
  split at h
  · cases h
  next x hx =>
  have hfound : x ∈ bindings ∧ x.poolID = pool.id :=
    ⟨mem_of_find?_eq_some hx, by simpa using find?_some hx⟩
  split at h
  · cases h
  split at h
  · cases h
  simp only [bind_eq_ok] at h
  obtain ⟨g, -, h⟩ := h
  split at h
  · cases h
  split at h
  · cases h
  split at h
  · cases h
  split at h
  · cases h
  split at h <;> cases h
  exact hfound

/-- A selected allocation is one of its pool. -/
theorem selectAllocations_ok {db : DB} {userID now : Int} :
    ∀ {pools : List Pool} {selected selected' : List (Pool × Allocation)},
      (∀ x ∈ selected, x.2 ∈ bindings ∧ x.2.poolID = x.1.id) →
      selectAllocations db bindings userID now pools selected = .ok (.ok selected') →
      ∀ x ∈ selected', x.2 ∈ bindings ∧ x.2.poolID = x.1.id
  | [], selected, selected', hs, h => by
    cases h
    exact hs
  | pool :: rest, selected, selected', hs, h => by
    simp only [selectAllocations, bind_eq_ok] at h
    obtain ⟨decision, hdecision, h⟩ := h
    cases decision with
    | error e => cases h
    | ok a =>
      refine selectAllocations_ok (fun x hx => ?_) h
      rcases mem_append.mp hx with hx | hx
      · exact hs x hx
      · obtain rfl := mem_singleton.mp hx
        exact poolDecision_ok hdecision

variable {attemptID : String}

theorem createWindow_kept {pool : Pool} (h : Inv db)
    (howner : poolOf db.allocations a.id = some pool.id)
    (hok : createWindow db attemptID pool a = .ok db') : Kept db db' := by
  simp only [createWindow, bind_eq_ok] at hok
  obtain ⟨windows, hinsert, hr⟩ := hok
  cases hr
  obtain ⟨-, rfl⟩ := insertUnique_ok hinsert
  refine ⟨{ h with windows := fun w hw => ?_ }, Grows.refl _, fun _ _ => id⟩
  rcases mem_insert.mp hw with hw | rfl
  · exact h.windows w hw
  · exact howner

theorem createWindows_kept : ∀ {selected : List (Pool × Allocation)} {db db' : DB},
    Inv db → (∀ x ∈ selected, poolOf db.allocations x.2.id = some x.1.id) →
    selected.foldlM (fun db x => createWindow db attemptID x.1 x.2) db = .ok db' → Kept db db'
  | [], db, db', h, _, hok => by
    cases hok
    exact Kept.refl h
  | x :: rest, db, db', h, hs, hok => by
    rw [List.foldlM_cons, bind_eq_ok] at hok
    obtain ⟨mid, hmid, hok⟩ := hok
    have hfirst := createWindow_kept h (hs x mem_cons_self) hmid
    exact hfirst.trans (createWindows_kept hfirst.inv
      (fun y hy => hfirst.owners _ _ (hs y (mem_cons_of_mem _ hy))) hok)

theorem admitSubscriptionShareAttempt_kept {input : AttemptInput} {refusal : Option ShareError}
    (h : Inv db) (hok : admitSubscriptionShareAttempt db rd input now = .ok (db', refusal)) :
    Kept db db' := by
  simp only [admitSubscriptionShareAttempt, bind_eq_ok] at hok
  obtain ⟨_, -, token, -, _, -, _, -, hok⟩ := hok
  split at hok
  · obtain ⟨_, -, hr⟩ := bind_eq_ok.mp hok
    cases hr
    exact Kept.refl h
  obtain ⟨⟨db₁, backlog⟩, hrefresh, hok⟩ := bind_eq_ok.mp hok
  have hrefreshed := refreshSubscriptionSharePools_kept h hrefresh
  split at hok
  · cases hok
    exact hrefreshed
  obtain ⟨decision, hselect, hok⟩ := bind_eq_ok.mp hok
  cases decision with
  | error e =>
    cases hok
    exact hrefreshed
  | ok selected =>
    simp only [bind_eq_ok] at hok
    obtain ⟨attempts, -, db₂, hwindows, hr⟩ := hok
    cases hr
    have hselected := selectAllocations_ok (fun x hx => by (cases hx)) hselect
    have hattempt : Kept db { db₁ with attempts := attempts } :=
      hrefreshed.trans (SameCore.kept ⟨rfl, rfl, rfl, rfl, le_rfl⟩ hrefreshed.inv)
    refine hattempt.trans (createWindows_kept hattempt.inv (fun x hx => ?_) hwindows)
    -- the binding was read before the projection, which moves no allocation to another pool
    obtain ⟨hbinding, hpool⟩ := hselected x hx
    refine hattempt.owners _ _ ?_
    rw [poolOf, show x.2.id = Row.id x.2 from rfl, get?_of_mem (mem_filter.mp hbinding).1]
    exact congrArg some hpool

theorem markSubscriptionShareAttemptNotSent_kept (h : Inv db)
    (hok : markSubscriptionShareAttemptNotSent db attemptID now = .ok db') : Kept db db' := by
  simp only [markSubscriptionShareAttemptNotSent, bind_eq_ok] at hok
  obtain ⟨_, -, _, -, attempt, -, hok⟩ := hok
  split at hok
  · cases hok
    exact Kept.refl h
  · obtain ⟨_, -, hr⟩ := bind_eq_ok.mp hok
    cases hr
    exact SameCore.kept ⟨rfl, rfl, rfl, rfl, le_rfl⟩ h

end MyApiSpec.Share
