import MyApiSpec.Share.Types

/-!
# Subscription shares: projection of samples

`model/subscription_share.go:1170–1430`. Every sample of the window of a pool moves its current
generation on. Growth of the usage is divided among the allocations with requests since the last
growth, in proportion to their number and rounded down; the rest stays unattributed. A sample that
breaks the sequence stops the generation, and a credible reset opens the next one.
-/

namespace MyApiSpec.Share

open Base

/-- The relation of a sample to the pool and its current generation. -/
structure SampleFacts where
  qualified : Bool
  usedMicro : Int
  descriptorMatched : Bool
  chronological : Bool
  resetEquivalent : Bool
  zeroWindowShift : Bool
  duplicateObservation : Bool
  credibleReset : Bool
  deriving DecidableEq, Repr

/-- The reset times of a sample and a generation differ by two seconds at most. -/
def resetEquivalent (s : Snapshot) (g : Generation) : Bool :=
  g.resetAt - 2 ≤ s.resetAt && s.resetAt ≤ g.resetAt + 2

/-- The facts that `applySubscriptionShareSnapshot` computes first. -/
def sampleFacts (pool : Pool) (g : Generation) (s : Snapshot) : SampleFacts :=
  let micro := subscriptionShareUsedMicro s
  let qualified := validSubscriptionShareObservation s && micro.isSome
  let usedMicro := micro.getD 0
  let descriptorMatched := s.source = pool.windowSource && s.windowType = pool.windowType &&
    s.windowSeconds = pool.windowSeconds && s.planType = pool.planType
  let chronological := decide (g.observedAt < s.observedAt)
  { qualified := qualified
    usedMicro := usedMicro
    descriptorMatched := descriptorMatched
    chronological := chronological
    resetEquivalent := resetEquivalent s g
    zeroWindowShift := qualified && g.lastUsedMicro = 0 && usedMicro = 0 && s.observedAt < g.resetAt &&
      g.resetAt < s.resetAt
    duplicateObservation := s.observedAt = g.observedAt && qualified && descriptorMatched &&
      resetEquivalent s g && usedMicro = g.lastUsedMicro
    credibleReset := chronological && qualified && descriptorMatched && g.resetAt + 2 < s.resetAt &&
      g.resetAt ≤ s.observedAt }

/-- `recordSubscriptionShareSampleApplication`; a stored record of the same sample is kept. -/
def recordSampleApplication (db : DB) (poolID generation : Int) (s : Snapshot)
    (fromSnapshotID beforeUsed afterUsed delta : Int) (allocations : List SampleAllocation)
    (unattributedDelta : Int) (reason : String) : DB :=
  let record : SampleApplication :=
    { poolID := poolID
      generation := generation
      snapshotID := s.id
      fromSnapshotID := fromSnapshotID
      beforeUsedMicro := beforeUsed
      afterUsedMicro := afterUsed
      deltaMicro := delta
      attemptCount := (allocations.map SampleAllocation.attemptCount).sum
      allocations := allocations.insertionSort (fun a b => a.allocationID ≤ b.allocationID)
      unattributedDeltaMicro := unattributedDelta
      reason := reason
      createdAt := s.observedAt }
  if db.applications.rows.any (fun a => a.poolID = poolID ∧ a.generation = generation ∧
      a.snapshotID = s.id) then db
  else { db with applications := db.applications.insert record }

/-! ### Growth -/

/-- Charge an allocation with its part of the growth; a part of zero writes nothing. -/
def chargeAllocation (usages : Table Usage) (allocationID generation share : Int) :
    Except ShareError (Table Usage) :=
  if share = 0 then pure usages
  else
    match usages.find? (fun u => u.allocationID = allocationID ∧ u.generation = generation ∧
        0 ≤ u.estimatedUsedMicro) with
    | none => .error .conflict
    | some u => pure (usages.put { u with estimatedUsedMicro := u.estimatedUsedMicro + share })

/-- The loop over the allocations with requests: the usages, the attributed sum and the evidence. -/
def attributeLoop (generation delta : Int) (rows : List AttemptWindow) :
    List Int → Table Usage → Int → List SampleAllocation →
      Except ShareError (Table Usage × Int × List SampleAllocation)
  | [], usages, attributed, evidence => pure (usages, attributed, evidence)
  | id :: ids, usages, attributed, evidence => do
    let count : Int := rows.countP (fun w => w.allocationID = id)
    let share ← subscriptionShareProportionalMicro delta count rows.length
    let usages ← chargeAllocation usages id generation share
    attributeLoop generation delta rows ids usages (attributed + share)
      (evidence ++ [⟨id, count, share⟩])

/-- The attribution of positive growth. -/
def attributeGrowth (db : DB) (pool : Pool) (s : Snapshot) (delta : Int) :
    Except ShareError (DB × Int × List SampleAllocation) := do
  let rows := db.attemptWindows pool.id pool.currentGeneration
    (fun w a => w.allocatedAt = 0 && a.createdAt < s.observedAt)
  let (usages, attributed, evidence) ← attributeLoop pool.currentGeneration delta rows
    (distinct (rows.map AttemptWindow.allocationID)) db.usages 0 []
  pure ({ db with
      usages := usages
      windows := updateAttemptWindows db.windows (rows.map AttemptWindow.id) s.observedAt
        (some s.observedAt) },
    attributed, evidence)

/-! ### One sample -/

/-- What the branches of a sample decide. `advanceUsed` says whether the sample becomes the last
observed usage. -/
structure SampleEffect where
  db : DB
  generation : Generation
  state : GenerationState
  reason : String
  applicationReason : String
  unattributedDelta : Int := 0
  evidence : List SampleAllocation := []
  advanceUsed : Bool := false

/-- A sample that stops the generation. -/
def stopEffect (db : DB) (g : Generation) (reason : String) : SampleEffect :=
  { db := db, generation := g, state := .stopped, reason := reason, applicationReason := reason }

/-- Usage that grew while nothing can be attributed. -/
def unattributedEffect (db : DB) (g : Generation) (usedMicro : Int) (state : GenerationState)
    (reason applicationReason : String) : SampleEffect :=
  let effect : SampleEffect :=
    { db := db
      generation := g
      state := state
      reason := reason
      applicationReason := applicationReason }
  if g.lastUsedMicro ≤ usedMicro then
    { effect with
      generation := { g with unattributedMicro := g.unattributedMicro + (usedMicro - g.lastUsedMicro) }
      unattributedDelta := usedMicro - g.lastUsedMicro
      advanceUsed := true }
  else effect

/-- The baseline of a generation. -/
def baselineEffect (db : DB) (g : Generation) (s : Snapshot) (usedMicro : Int) : SampleEffect :=
  { db := db
    generation := { g with
      baselineTime := s.observedAt
      baselineUsedMicro := usedMicro
      lastUsedMicro := usedMicro
      unattributedMicro := usedMicro }
    state := .ready
    reason := "eligible"
    applicationReason := "baseline"
    unattributedDelta := usedMicro
    advanceUsed := true }

/-- Growth of a generation that is ready. -/
def growthEffect (db : DB) (pool : Pool) (g : Generation) (s : Snapshot) (usedMicro : Int) :
    Except ShareError SampleEffect := do
  let delta := usedMicro - g.lastUsedMicro
  let (db, attributed, evidence) ← attributeGrowth db pool s delta
  pure
    { db := db
      generation := { g with unattributedMicro := g.unattributedMicro + (delta - attributed) }
      state := g.state
      reason := g.reason
      applicationReason := "positive_delta"
      unattributedDelta := delta - attributed
      evidence := evidence
      advanceUsed := true }

/-- The branches of `applySubscriptionShareSnapshot` behind the duplicate and the reset. -/
def sampleEffect (db : DB) (pool : Pool) (g : Generation) (s : Snapshot) (f : SampleFacts) :
    Except ShareError SampleEffect :=
  if ¬ f.chronological then
    pure (stopEffect db g
      (if s.observedAt < g.observedAt then "evidence_time_regression" else "evidence_time_conflict"))
  else if s.source = pool.windowSource ∧ s.status = "unsupported" ∧ s.errorCode = "window_absent" then
    pure (stopEffect db g "window_absent")
  else if ¬ f.qualified then pure (stopEffect db g "sample_failed")
  else if ¬ f.descriptorMatched ∨ (¬ f.resetEquivalent ∧ ¬ f.zeroWindowShift) then
    pure (stopEffect db g "window_changed")
  else if pool.maxAgeSeconds < s.observedAt - g.observedAt then
    pure (unattributedEffect db g f.usedMicro .stopped "long_gap" "long_gap")
  else if g.baselineTime = 0 ∧ g.state = .awaitingBaseline then
    pure (baselineEffect db g s f.usedMicro)
  else if g.state ≠ .ready then
    pure (unattributedEffect db g f.usedMicro g.state g.reason ("stopped_" ++ g.reason))
  else if f.usedMicro < g.lastUsedMicro then pure (stopEffect db g "anomalous_decrease")
  else if g.lastUsedMicro < f.usedMicro then growthEffect db pool g s f.usedMicro
  else
    pure
      { db := db
        generation := g
        state := g.state
        reason := g.reason
        applicationReason := "zero_delta"
        advanceUsed := true }

/-- The generation behind a sample: the last observed usage advances only when there is a baseline. -/
def SampleEffect.next (e : SampleEffect) (before : Generation) (s : Snapshot) (f : SampleFacts) :
    Generation :=
  let g := e.generation
  let stops := e.state = .stopped ∧ before.state ≠ .stopped
  { g with
    lastUsedMicro := if f.qualified ∧ 0 < g.baselineTime ∧ e.advanceUsed then f.usedMicro
      else g.lastUsedMicro
    resetAt := if f.zeroWindowShift then s.resetAt else g.resetAt
    stoppedAt := if stops then s.observedAt else g.stoppedAt
    stoppedSnapshotID := if stops then s.id else g.stoppedSnapshotID
    lastSnapshotID := s.id
    state := e.state
    reason := e.reason
    observedAt := if f.chronological then s.observedAt else g.observedAt }

/-- The coverage of earlier requests by a sample that leaves the generation ready, and its evidence
when nothing was attributed. -/
def coverAttempts (db : DB) (pool : Pool) (s : Snapshot) (evidence : List SampleAllocation) :
    DB × List SampleAllocation :=
  let rows := db.attemptWindows pool.id pool.currentGeneration
    (fun w a => w.coveredAt = 0 && a.createdAt < s.observedAt)
  ({ db with windows :=
      updateAttemptWindows db.windows (rows.map AttemptWindow.id) s.observedAt none },
    if evidence = [] then countByAllocation rows else evidence)

/-- A credible reset: the next generation starts with the usage of the sample as its baseline. -/
def applyReset (db : DB) (pool : Pool) (g : Generation) (s : Snapshot) (usedMicro : Int) :
    Except ShareError (DB × Pool × Generation) := do
  let (db, uncertain, _) := finalizeUncertainAttempts db pool.id pool.currentGeneration s.observedAt
  let newGeneration := pool.currentGeneration + 1
  let (db, next) ← createGeneration db
    { poolID := pool.id
      generation := newGeneration
      baselineTime := s.observedAt
      baselineUsedMicro := usedMicro
      lastUsedMicro := usedMicro
      unattributedMicro := usedMicro
      lastSnapshotID := s.id
      observedAt := s.observedAt
      resetAt := s.resetAt
      state := .ready
      reason := "eligible"
      descriptorKey := pool.descriptorKey
      windowSource := pool.windowSource
      windowType := pool.windowType
      windowSeconds := pool.windowSeconds
      planType := pool.planType }
  let stored ← need (db.pools.get? pool.id) .conflict
  check (stored.currentGeneration = pool.currentGeneration) .conflict
  let db := db.updatePool pool.id
    (fun p => { p with currentGeneration := newGeneration, snapshotID := s.id })
  let db ← (db.poolAllocations pool.id).foldlM (fun db a => createUsage db a.id newGeneration) db
  pure (recordSampleApplication db pool.id newGeneration s g.lastSnapshotID g.lastUsedMicro usedMicro 0
      uncertain usedMicro "reset_baseline",
    { pool with currentGeneration := newGeneration }, next)

/-- `applySubscriptionShareSnapshot`: the tables and the pool and generation that the caller goes on
with. -/
def applySubscriptionShareSnapshot (db : DB) (pool : Pool) (g : Generation) (s : Snapshot) :
    Except ShareError (DB × Pool × Generation) :=
  let f := sampleFacts pool g s
  if f.duplicateObservation then
    let next := { g with lastSnapshotID := s.id }
    let db := { db with generations := db.generations.put next }
    let db := db.updatePool pool.id (fun p => { p with snapshotID := s.id })
    pure (recordSampleApplication db pool.id g.generation s g.lastSnapshotID g.lastUsedMicro
      g.lastUsedMicro 0 [] 0 "duplicate_observation", { pool with snapshotID := s.id }, next)
  else if f.credibleReset then applyReset db pool g s f.usedMicro
  else do
    let e ← sampleEffect db pool g s f
    let next := e.next g s f
    let db := { e.db with generations := e.db.generations.put next }
    let accepted := f.chronological && f.qualified && f.descriptorMatched
    let db := if accepted then db.updatePool pool.id (fun p => { p with snapshotID := s.id }) else db
    let pool := if accepted then { pool with snapshotID := s.id } else pool
    let (db, evidence) := if e.state = .ready then coverAttempts db pool s e.evidence
      else (db, e.evidence)
    let afterUsed := if f.qualified then f.usedMicro else g.lastUsedMicro
    pure (recordSampleApplication db pool.id next.generation s g.lastSnapshotID g.lastUsedMicro
      afterUsed (afterUsed - g.lastUsedMicro) evidence e.unattributedDelta e.applicationReason, pool,
      next)

/-! ### All samples -/

/-- The samples that a generation has not seen, in the order of their ids. Before the baseline only
those that were observed after the configuration count. -/
def pendingSnapshots (snapshots : List Snapshot) (subjectRef : String) (pool : Pool) (g : Generation) :
    List Snapshot :=
  (snapshots.filter fun s => s.subjectRef = subjectRef && s.identityQuality = "provider_confirmed" &&
      s.metricType = "codex_rate_limit" &&
      (s.source = pool.windowSource || s.source = "codex_wham_usage") && g.lastSnapshotID < s.id &&
      (g.baselineTime ≠ 0 || pool.configuredAt < s.observedAt)).insertionSort (fun a b => a.id ≤ b.id)

/-- The projection of one pool. -/
def refreshPool (snapshots : List Snapshot) (subjectRef : String) (db : DB) (pool : Pool) :
    Except ShareError (DB × Bool) := do
  let g ← need (db.generation? pool.id pool.currentGeneration) .recordNotFound
  let pending := (pendingSnapshots snapshots subjectRef pool g).take 257
  let (db, _, _) ← (pending.take 256).foldlM
    (fun acc s => applySubscriptionShareSnapshot acc.1 acc.2.1 acc.2.2 s) (db, pool, g)
  pure (db, decide (256 < pending.length))

/-- `refreshSubscriptionSharePools`: the tables and whether samples are left. -/
def refreshSubscriptionSharePools (snapshots : List Snapshot) (subjectRef : String) (db : DB)
    (pools : List Pool) : Except ShareError (DB × Bool) :=
  pools.foldlM (fun acc pool => do
    let (db, backlog) ← refreshPool snapshots subjectRef acc.1 pool
    pure (db, acc.2 || backlog)) (db, false)

/-- The enabled pools of an account. -/
def DB.enabledPools (db : DB) (subjectRef : String) : List Pool :=
  db.pools.rows.filter (fun p => p.subjectRef = subjectRef ∧ p.enabled)

/-- One transaction of `RefreshSubscriptionShareProjection`, which repeats it while samples are
left. -/
def refreshSubscriptionShareProjection (db : DB) (snapshots : List Snapshot) (subjectRef : String)
    (now : Int) : Except ShareError (DB × Bool) := do
  check (canonicalChannelQuotaIdentitySubject subjectRef ∧ 0 < now) .invalid
  refreshSubscriptionSharePools snapshots subjectRef db (db.enabledPools subjectRef)

end MyApiSpec.Share
