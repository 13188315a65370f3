import MyApiSpec.Share.Calls

/-!
# Subscription shares: the invariant

The last observed usage of a generation with a baseline is its unattributed usage plus the estimates
of the allocations of its pool. A generation without a baseline has seen no usage and charged
nobody, which is why the baseline may be set to whatever is observed.
-/

namespace MyApiSpec.Share

open Base List Table SampleEffect

variable {db db' : DB} {g : Generation}

/-- The pool of an allocation. -/
def poolOf (allocations : Table Allocation) (allocationID : Int) : Option Int :=
  (allocations.get? allocationID).map Allocation.poolID

/-- The estimate of a usage row, when it belongs to the pool and generation. -/
def usageOf (allocations : Table Allocation) (poolID generation : Int) (u : Usage) : Int :=
  if u.generation = generation ∧ poolOf allocations u.allocationID = some poolID
  then u.estimatedUsedMicro else 0

/-- The estimates of the allocations of a pool in a generation. -/
def estimated (allocations : Table Allocation) (usages : Table Usage) (poolID generation : Int) : Int :=
  usages.sum (usageOf allocations poolID generation)

/-- The shares of a pool. -/
def allocatedBPS (allocations : Table Allocation) (poolID : Int) : Int :=
  allocations.sum (fun a => if a.poolID = poolID then a.shareBPS else 0)

/-- What holds of a generation whose pool is charged `estimate` in it. -/
structure GenerationOk (estimate : Int) (g : Generation) : Prop where
  nonneg : 0 ≤ g.baselineTime
  ready : g.state = .ready → 0 < g.baselineTime
  idle : g.baselineTime = 0 → g.lastUsedMicro = 0 ∧ estimate = 0
  conserved : 0 < g.baselineTime → g.lastUsedMicro = g.unattributedMicro + estimate

/-- Every window names an allocation of its pool. -/
def WindowsOk (allocations : Table Allocation) (windows : Table AttemptWindow) : Prop :=
  ∀ w ∈ windows.rows, poolOf allocations w.allocationID = some w.poolID

/-- Every usage is one of an allocation. -/
def UsagesOk (allocations : Table Allocation) (usages : Table Usage) : Prop :=
  ∀ u ∈ usages.rows, (poolOf allocations u.allocationID).isSome

/-- The invariant of the tables. -/
structure Inv (db : DB) : Prop where
  windows : WindowsOk db.allocations db.windows
  usages : UsagesOk db.allocations db.usages
  generations : ∀ g ∈ db.generations.rows,
    GenerationOk (estimated db.allocations db.usages g.poolID g.generation) g
  oneGeneration : db.generations.UniqueOn (fun g => (g.poolID, g.generation))
  oneAllocation : db.allocations.UniqueOn (fun a => (a.poolID, a.tokenID))
  shares : ∀ poolID, allocatedBPS db.allocations poolID ≤ 10000
  pooled : ∀ a ∈ db.allocations.rows, a.poolID < db.pools.nextId

/-- The four tables that the invariant speaks about are unchanged, and no pool is lost. -/
structure SameCore (db db' : DB) : Prop where
  windows : db'.windows = db.windows
  usages : db'.usages = db.usages
  generations : db'.generations = db.generations
  allocations : db'.allocations = db.allocations
  pools : db.pools.nextId ≤ db'.pools.nextId

theorem SameCore.inv (h : SameCore db db') (hi : Inv db) : Inv db' := by
  obtain ⟨hw, hu, hg, ha, hp⟩ := h
  exact ⟨by rw [hw, ha]; exact hi.windows, by rw [hu, ha]; exact hi.usages,
    by rw [hu, ha, hg]; exact hi.generations, by rw [hg]; exact hi.oneGeneration,
    by rw [ha]; exact hi.oneAllocation, by rw [ha]; exact hi.shares,
    by rw [ha]; exact fun a h => (hi.pooled a h).trans_le hp⟩

/-! ### Estimates -/

/-- No estimate is lost or decreases. -/
def Grows (usages usages' : Table Usage) : Prop :=
  ∀ u ∈ usages.rows, ∃ u' ∈ usages'.rows, u'.id = u.id ∧ u'.allocationID = u.allocationID ∧
    u'.generation = u.generation ∧ u.estimatedUsedMicro ≤ u'.estimatedUsedMicro

theorem Grows.refl (usages : Table Usage) : Grows usages usages :=
  fun u hu => ⟨u, hu, rfl, rfl, rfl, le_rfl⟩

theorem Grows.trans {a b c : Table Usage} (hab : Grows a b) (hbc : Grows b c) : Grows a c := by
  intro u hu
  obtain ⟨v, hv, hid, hallocation, hgeneration, hle⟩ := hab u hu
  obtain ⟨x, hx, hid', hallocation', hgeneration', hle'⟩ := hbc v hv
  exact ⟨x, hx, hid'.trans hid, hallocation'.trans hallocation, hgeneration'.trans hgeneration,
    hle.trans hle'⟩

theorem Grows.insert (usages : Table Usage) (u : Usage) : Grows usages (usages.insert u) :=
  fun v hv => ⟨v, mem_insert.mpr (.inl hv), rfl, rfl, rfl, le_rfl⟩

/-- The usages of one pool and generation are charged with `amount` in total. -/
structure Charged (allocations : Table Allocation) (poolID generation amount : Int)
    (usages usages' : Table Usage) : Prop where
  estimated : ∀ p g, Share.estimated allocations usages' p g =
    Share.estimated allocations usages p g + if p = poolID ∧ g = generation then amount else 0
  grows : Grows usages usages'
  known : UsagesOk allocations usages → UsagesOk allocations usages'

section Charged

variable {allocations : Table Allocation} {poolID generation : Int}

theorem Charged.refl (usages : Table Usage) : Charged allocations poolID generation 0 usages usages :=
  ⟨fun _ _ => by simp, Grows.refl _, id⟩

theorem Charged.trans {x y : Int} {a b c : Table Usage}
    (hab : Charged allocations poolID generation x a b)
    (hbc : Charged allocations poolID generation y b c) :
    Charged allocations poolID generation (x + y) a c := by
  refine ⟨fun p g => ?_, hab.grows.trans hbc.grows, fun h => hbc.known (hab.known h)⟩
  rw [hbc.estimated, hab.estimated]
  split <;> omega

theorem chargeAllocation_ok {usages usages' : Table Usage} {id share : Int}
    (hpool : poolOf allocations id = some poolID) (hshare : 0 ≤ share)
    (h : chargeAllocation usages id generation share = .ok usages') :
    Charged allocations poolID generation share usages usages' := by
  unfold chargeAllocation at h
  split at h
  · next hzero =>
    cases h
    rw [hzero]
    exact Charged.refl _
  · split at h <;> cases h
    next u hu =>
      have hmem := find?_mem hu
      have hget : usages.get? (Row.id { u with estimatedUsedMicro := u.estimatedUsedMicro + share }) =
          some u := get?_of_mem hmem
      obtain ⟨hid, hgen, -⟩ : u.allocationID = id ∧ u.generation = generation ∧ _ := by
        simpa using find?_pred hu
      refine ⟨fun p g => ?_, fun v hv => ?_, fun hk v hv => ?_⟩
      · rw [Share.estimated, sum_put _ hget, Share.estimated]
        by_cases he : g = generation ∧ p = poolID
        · obtain ⟨rfl, rfl⟩ := he
          simp only [usageOf, hid, hgen, hpool, and_self, if_true]
          omega
        · have hne : ¬ (u.generation = g ∧ poolOf allocations u.allocationID = some p) := by
            rintro ⟨hg, hp⟩
            rw [hid, hpool] at hp
            exact he ⟨hg.symm.trans hgen, (Option.some.inj hp).symm⟩
          have hne' : ¬ (p = poolID ∧ g = generation) := fun hc => he ⟨hc.2, hc.1⟩
          simp only [usageOf, if_neg hne, if_neg hne']
          omega
      · rcases mem_put_or hget hv with rfl | hv
        · exact ⟨_, mem_put_self hget, rfl, rfl, rfl, Int.le_add_of_nonneg_right hshare⟩
        · exact ⟨v, hv, rfl, rfl, rfl, le_rfl⟩
      · rcases mem_put hv with rfl | ⟨hv, -⟩
        · exact hk u hmem
        · exact hk v hv

theorem subscriptionShareProportionalMicro_ok {delta count total share : Int}
    (h : subscriptionShareProportionalMicro delta count total = .ok share) : 0 ≤ share := by
  simp only [subscriptionShareProportionalMicro, bind_eq_ok, check_eq_ok] at h
  obtain ⟨_, ⟨hdelta, -, hcount, htotal, -⟩, _, -, hs⟩ := h
  cases hs
  exact Int.ediv_nonneg (Int.mul_nonneg hdelta hcount) htotal.le

/-- The loop charges the pool with the sum it reports. -/
theorem attributeLoop_ok {delta : Int} {rows : List AttemptWindow} :
    ∀ {ids : List Int} {usages usages' : Table Usage} {attributed attributed' : Int}
      {evidence evidence' : List SampleAllocation},
      (∀ id ∈ ids, poolOf allocations id = some poolID) →
      attributeLoop generation delta rows ids usages attributed evidence =
        .ok (usages', attributed', evidence') →
      Charged allocations poolID generation (attributed' - attributed) usages usages'
  | [], usages, usages', attributed, attributed', evidence, evidence', _, h => by
    cases h
    rw [Int.sub_self]
    exact Charged.refl _
  | id :: ids, usages, usages', attributed, attributed', evidence, evidence', hids, h => by
    simp only [attributeLoop, bind_eq_ok] at h
    obtain ⟨share, hshare, charged, hcharge, h⟩ := h
    have hfirst := chargeAllocation_ok (hids id mem_cons_self)
      (subscriptionShareProportionalMicro_ok hshare) hcharge
    have hrest := attributeLoop_ok (fun i hi => hids i (mem_cons_of_mem _ hi)) h
    have hall := hfirst.trans hrest
    rwa [show share + (attributed' - (attributed + share)) = attributed' - attributed by omega] at hall

end Charged

/-! ### Windows -/

theorem WindowsOk.update {allocations : Table Allocation} {coveredAt : Int}
    {allocatedAt : Option Int} : ∀ {ids : List Int} {windows : Table AttemptWindow},
    WindowsOk allocations windows →
    WindowsOk allocations (updateAttemptWindows windows ids coveredAt allocatedAt)
  | [], _, h => h
  | id :: ids, windows, h => by
    rw [updateAttemptWindows, List.foldl_cons]
    refine WindowsOk.update ?_
    split
    · exact h
    · next w hw =>
      intro x hx
      rcases Table.mem_put hx with rfl | ⟨hx, -⟩
      · exact h w (Table.get?_mem hw)
      · exact h x hx

theorem updatePool_core (db : DB) (poolID : Int) (f : Pool → Pool) :
    SameCore db (db.updatePool poolID f) := by
  unfold DB.updatePool
  split
  · exact ⟨rfl, rfl, rfl, rfl, le_rfl⟩
  · exact ⟨rfl, rfl, rfl, rfl, le_rfl⟩

theorem recordSampleApplication_core (db : DB) (poolID generation : Int) (s : Snapshot)
    (fromID before after delta : Int) (allocations : List SampleAllocation) (unattributed : Int)
    (reason : String) : SameCore db (recordSampleApplication db poolID generation s fromID before after
      delta allocations unattributed reason) := by
  unfold recordSampleApplication
  split
  · exact ⟨rfl, rfl, rfl, rfl, le_rfl⟩
  · exact ⟨rfl, rfl, rfl, rfl, le_rfl⟩

/-! ### New usages -/

theorem insertUnique_ok {ρ : Type} [Row ρ] {t t' : Table ρ} {clash : ρ → Bool} {r : ρ}
    (h : insertUnique t clash r = .ok t') : (∀ x ∈ t.rows, clash x = false) ∧ t' = t.insert r := by
  simp only [insertUnique, bind_eq_ok, check_eq_ok] at h
  obtain ⟨_, hclash, ht⟩ := h
  cases ht
  exact ⟨by simpa using any_eq_false.mp hclash, rfl⟩

variable {generation : Int}

/-- The usages of new allocations in a generation are new and empty. -/
theorem createUsages_ok : ∀ {l : List Allocation} {db db' : DB},
    l.foldlM (fun db a => createUsage db a.id generation) db = .ok db' →
    (∀ a ∈ l, ∀ u ∈ db.usages.rows, ¬ (u.allocationID = a.id ∧ u.generation = generation)) ∧
      db' = { db with usages := db'.usages } ∧ Grows db.usages db'.usages ∧
      (∀ u ∈ db'.usages.rows, u ∈ db.usages.rows ∨ ∃ a ∈ l, u.allocationID = a.id) ∧
      ∀ allocations p g, estimated allocations db'.usages p g = estimated allocations db.usages p g
  | [], db, db', h => by
    cases h
    exact ⟨fun a ha => by (cases ha), rfl, Grows.refl _, fun u hu => .inl hu, fun _ _ _ => rfl⟩
  | a :: l, db, db', h => by
    rw [List.foldlM_cons, bind_eq_ok] at h
    obtain ⟨mid, hmid, h⟩ := h
    simp only [createUsage, bind_eq_ok] at hmid
    obtain ⟨usages, hinsert, hm⟩ := hmid
    cases hm
    obtain ⟨hclash, rfl⟩ := insertUnique_ok hinsert
    obtain ⟨hfresh, hdb, hgrows, hback, hest⟩ := createUsages_ok h
    have hkeep : ∀ u ∈ db.usages.rows, u ∈ (db.usages.insert
        ({ allocationID := a.id, generation := generation } : Usage)).rows :=
      fun u hu => mem_insert.mpr (.inl hu)
    refine ⟨?_, hdb, (Grows.insert _ _).trans hgrows, ?_, fun allocations p g => ?_⟩
    · intro x hx u hu
      rcases mem_cons.mp hx with rfl | hx
      · simpa using hclash u hu
      · exact hfresh x hx u (hkeep u hu)
    · intro u hu
      rcases hback u hu with hu | ⟨x, hx, hux⟩
      · rcases mem_insert.mp hu with hu | rfl
        · exact .inl hu
        · exact .inr ⟨a, mem_cons_self, rfl⟩
      · exact .inr ⟨x, mem_cons_of_mem _ hx, hux⟩
    · rw [hest, estimated, sum_insert, estimated]
      have hzero : usageOf allocations p g (Row.withId db.usages.nextId
          ({ allocationID := a.id, generation := generation } : Usage)) = 0 := ite_self 0
      rw [hzero, Int.add_zero]

/-! ### One sample -/

/-- The stored generation that a projection carries in memory. -/
structure Carried (db : DB) (pool : Pool) (g : Generation) : Prop where
  stored : db.generations.get? g.id = some g
  poolID : g.poolID = pool.id
  generation : g.generation = pool.currentGeneration

/-- The update of a generation whose pool is charged in it. -/
theorem putGeneration_inv (next : Generation) {usages : Table Usage} {windows : Table AttemptWindow}
    {amount : Int} (h : Inv db) (hstored : db.generations.get? g.id = some g) (hid : next.id = g.id)
    (hkey : next.poolID = g.poolID ∧ next.generation = g.generation)
    (hcharged : Charged db.allocations g.poolID g.generation amount db.usages usages)
    (hwindows : WindowsOk db.allocations windows)
    (hok : GenerationOk (estimated db.allocations db.usages g.poolID g.generation + amount) next) :
    Inv { db with
      usages := usages
      windows := windows
      generations := db.generations.put next } := by
  have hget : db.generations.get? (Row.id next) = some g := by
    rw [show Row.id next = g.id from hid]
    exact hstored
  refine ⟨hwindows, hcharged.known h.usages, ?_, ?_, h.oneAllocation, h.shares, h.pooled⟩
  · intro x hx
    rw [hcharged.estimated]
    rcases mem_put hx with rfl | ⟨hx, hne⟩
    · rw [hkey.1, hkey.2, if_pos ⟨rfl, rfl⟩]
      exact hok
    · have hother : ¬ (x.poolID = g.poolID ∧ x.generation = g.generation) := by
        rintro ⟨hp, hi⟩
        refine hne ?_
        rw [h.oneGeneration x hx g (get?_mem hstored) (Prod.ext hp hi)]
        exact hid.symm
      rw [if_neg hother, Int.add_zero]
      exact h.generations x hx
  · exact h.oneGeneration.put hget (Prod.ext hkey.1 hkey.2)

theorem sampleFacts_observed {pool : Pool} {s : Snapshot}
    (h : (sampleFacts pool g s).qualified = true) : 0 < s.observedAt := by
  have hvalid : validSubscriptionShareObservation s = true := by
    simp only [sampleFacts, Bool.and_eq_true] at h
    exact h.1
  simp only [validSubscriptionShareObservation, Bool.and_eq_true, decide_eq_true_eq] at hvalid
  exact hvalid.1.1.2

/-- What the branches of a sample do to the tables and the generation. -/
structure EffectOk (db : DB) (g : Generation) (e : SampleEffect) (next : Generation) : Prop where
  generations : e.db.generations = db.generations
  allocations : e.db.allocations = db.allocations
  pools : db.pools.nextId ≤ e.db.pools.nextId
  windows : WindowsOk db.allocations e.db.windows
  key : next.id = g.id ∧ next.poolID = g.poolID ∧ next.generation = g.generation
  charged : ∃ amount, Charged db.allocations g.poolID g.generation amount db.usages e.db.usages ∧
    GenerationOk (estimated db.allocations db.usages g.poolID g.generation + amount) next

section Sample

variable {pool : Pool} {s : Snapshot} {f : SampleFacts}

theorem stopEffect_ok (h : Inv db)
    (hg : GenerationOk (estimated db.allocations db.usages g.poolID g.generation) g) (reason : String) :
    EffectOk db g (stopEffect db g reason) ((stopEffect db g reason).next g s f) := by
  refine ⟨rfl, rfl, le_rfl, h.windows, ⟨rfl, rfl, rfl⟩, 0, Charged.refl _, ?_⟩
  refine ⟨hg.nonneg, fun hr => by (cases hr), fun hz => ?_, fun hp => ?_⟩
  · simpa [stopEffect, SampleEffect.next] using hg.idle hz
  · simpa [stopEffect, SampleEffect.next] using hg.conserved hp

theorem unattributedEffect_ok (h : Inv db)
    (hg : GenerationOk (estimated db.allocations db.usages g.poolID g.generation) g)
    (hq : f.qualified = true) {state : GenerationState} (hstate : state ≠ .ready)
    (reason applicationReason : String) :
    EffectOk db g (unattributedEffect db g f.usedMicro state reason applicationReason)
      ((unattributedEffect db g f.usedMicro state reason applicationReason).next g s f) := by
  unfold unattributedEffect
  split
  · refine ⟨rfl, rfl, le_rfl, h.windows, ⟨rfl, rfl, rfl⟩, 0, Charged.refl _, ?_⟩
    refine ⟨hg.nonneg, fun hr => absurd hr hstate, fun hz => ?_, fun hp => ?_⟩
    · have hz' : g.baselineTime = 0 := hz
      simpa [SampleEffect.next, hz'] using hg.idle hz
    · have hp' : 0 < g.baselineTime := hp
      have hc := hg.conserved hp'
      simp only [SampleEffect.next, hq, hp', and_self, if_true]
      omega
  · refine ⟨rfl, rfl, le_rfl, h.windows, ⟨rfl, rfl, rfl⟩, 0, Charged.refl _, ?_⟩
    refine ⟨hg.nonneg, fun hr => absurd hr hstate, fun hz => ?_, fun hp => ?_⟩
    · simpa [SampleEffect.next] using hg.idle hz
    · simpa [SampleEffect.next] using hg.conserved hp

variable {e : SampleEffect}

theorem growthEffect_ok (h : Inv db) (hc : Carried db pool g)
    (hg : GenerationOk (estimated db.allocations db.usages g.poolID g.generation) g)
    (hq : f.qualified = true) (hready : g.state = .ready)
    (he : growthEffect db pool g s f.usedMicro = .ok e) : EffectOk db g e (e.next g s f) := by
  simp only [growthEffect, attributeGrowth, bind_eq_ok] at he
  obtain ⟨_, ⟨⟨usages, attributed, evidence⟩, hloop, hr⟩, he⟩ := he
  cases hr
  cases he
  have hbase := hg.ready hready
  have hpools : ∀ id ∈ distinct ((db.attemptWindows pool.id pool.currentGeneration
      (fun w a => decide (w.allocatedAt = 0) && decide (a.createdAt < s.observedAt))).map
        AttemptWindow.allocationID), poolOf db.allocations id = some g.poolID := by
    intro id hid
    obtain ⟨w, hw, rfl⟩ := mem_map.mp (mem_distinct.mp hid)
    obtain ⟨hmem, hp⟩ := mem_filter.mp hw
    simp only [Bool.and_eq_true, decide_eq_true_eq] at hp
    rw [h.windows w hmem, hp.1.1, hc.poolID]
  have hcharged := attributeLoop_ok hpools hloop
  rw [Int.sub_zero, ← hc.generation] at hcharged
  refine ⟨rfl, rfl, le_rfl, h.windows.update, ⟨rfl, rfl, rfl⟩, attributed, hcharged, ?_⟩
  refine ⟨hg.nonneg, fun _ => hbase, fun hz => absurd hz (ne_of_gt hbase), fun _ => ?_⟩
  have hcons := hg.conserved hbase
  simp only [SampleEffect.next, hq, hbase, and_self, if_true]
  omega

theorem sampleEffect_ok (h : Inv db) (hc : Carried db pool g)
    (he : sampleEffect db pool g s (sampleFacts pool g s) = .ok e) :
    EffectOk db g e (e.next g s (sampleFacts pool g s)) := by
  have hg := h.generations g (get?_mem hc.stored)
  unfold sampleEffect at he
  split at he
  · cases he
    exact stopEffect_ok h hg _
  split at he
  · cases he
    exact stopEffect_ok h hg _
  split at he
  · cases he
    exact stopEffect_ok h hg _
  next hq =>
  have hqualified : (sampleFacts pool g s).qualified = true := by simpa using hq
  split at he
  · cases he
    exact stopEffect_ok h hg _
  split at he
  · cases he
    exact unattributedEffect_ok h hg hqualified (by decide) _ _
  split at he
  · next hbase =>
    cases he
    have hobserved := sampleFacts_observed hqualified
    refine ⟨rfl, rfl, le_rfl, h.windows, ⟨rfl, rfl, rfl⟩, 0, Charged.refl _, ?_⟩
    rw [Int.add_zero, (hg.idle hbase.1).2]
    refine ⟨hobserved.le, fun _ => hobserved, fun hz => ?_, fun _ => ?_⟩
    · exact absurd hz (ne_of_gt hobserved)
    · simp [SampleEffect.next, baselineEffect]
  split at he
  · next hstate =>
    cases he
    exact unattributedEffect_ok h hg hqualified hstate _ _
  next hready =>
  have hready' : g.state = .ready := by simpa using hready
  split at he
  · cases he
    exact stopEffect_ok h hg _
  split at he
  · exact growthEffect_ok h hc hg hqualified hready' he
  · next hlow hhigh =>
    cases he
    have hbase := hg.ready hready'
    refine ⟨rfl, rfl, le_rfl, h.windows, ⟨rfl, rfl, rfl⟩, 0, Charged.refl _, ?_⟩
    refine ⟨hg.nonneg, fun _ => hbase, fun hz => absurd hz (ne_of_gt hbase), fun _ => ?_⟩
    have hcons := hg.conserved hbase
    simp only [SampleEffect.next, hqualified, hbase, and_self, if_true]
    omega

end Sample

end MyApiSpec.Share
