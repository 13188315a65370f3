import MyApiSpec.Base.GoText
import MyApiSpec.Share.Projection

/-!
# Subscription shares: calls

`model/subscription_share.go:383–779, 950–1147`. The administrator creates a pool from a fresh
sample, allocates shares of it, moves it to another window, or takes a new baseline after a stop, and
closes it; a relay attempt is admitted under the shares of its token and may be marked as not sent.
Each call is one transaction behind the gate of its account.
-/

namespace MyApiSpec.Share

open Base

/-- The columns of a user row that a call reads. -/
structure UserRow where
  root : Bool := false
  enabled : Bool := true
  deriving DecidableEq, Repr

/-- The columns of a token row that a call reads. -/
structure TokenRow where
  userID : Int
  enabled : Bool := true
  deleted : Bool := false
  deriving DecidableEq, Repr

/-- What a call reads beside its own tables: the actor, the token, whether a token or fee budget of
the token is enabled, the samples, and the names of the channels. -/
structure Reads where
  actor : Option UserRow := none
  token : Option TokenRow := none
  budgetEnabled : Bool := false
  snapshots : List Snapshot := []
  channelName : Int → Option String := fun _ => some ""

/-- The check of an administrator. -/
def authorizeRoot (rd : Reads) : Except ShareError Unit := do
  let actor ← need rd.actor .recordNotFound
  check (actor.enabled ∧ actor.root) .denied

/-! ### Configuration -/

/-- The checks of `ConfigureSubscriptionShare` before its transaction. -/
def validConfigInput (actorID tokenID now : Int) (input : ConfigInput) : Bool :=
  0 < actorID && 0 < tokenID && 0 < now && canonicalLowerHex input.id 64 && 0 ≤ input.poolID &&
    0 < input.snapshotID && 0 ≤ input.expectedRevision && 0 ≤ input.shareBPS &&
    input.shareBPS ≤ 10000 && input.confirmedApproximate

/-- A generation that waits for its first sample. -/
def awaitingGeneration (poolID generation : Int) (s : Snapshot) : Generation :=
  { poolID := poolID
    generation := generation
    lastSnapshotID := s.id
    observedAt := s.observedAt
    resetAt := s.resetAt
    state := .awaitingBaseline
    reason := "baseline_required"
    descriptorKey := s.descriptor
    windowSource := s.source
    windowType := s.windowType
    windowSeconds := s.windowSeconds
    planType := s.planType }

/-- The row of a new pool. -/
def newPool (s : Snapshot) (channelName : String) (now : Int) : Pool :=
  { descriptorKey := s.descriptor
    subjectRef := s.subjectRef
    snapshotID := s.id
    channelID := s.channelID
    channelName := channelName
    windowSource := s.source
    windowType := s.windowType
    windowSeconds := s.windowSeconds
    planType := s.planType
    revision := 1
    currentGeneration := 1
    selectedObservedAt := s.observedAt
    configuredAt := now
    maxAgeSeconds := defaultMaxAge
    enabled := true
    approximate := true }

/-- The creation of a pool with its first generation. -/
def createPool (db : DB) (rd : Reads) (input : ConfigInput) (s : Snapshot) (now : Int) :
    Except ShareError (DB × Pool) := do
  check (input.replaceWindow = false) .invalid
  check (db.pools.rows.any
    (fun p => p.subjectRef = s.subjectRef ∧ p.windowSource = s.source ∧ p.enabled) = false) .conflict
  check (db.pools.rows.any (fun p => p.descriptorKey = s.descriptor) = false ∧
    input.expectedRevision = 0) .conflict
  let channelName ← need (rd.channelName s.channelID) .recordNotFound
  let pool := { newPool s channelName now with id := db.pools.nextId }
  let (db, _) ← createGeneration { db with pools := db.pools.insert (newPool s channelName now) }
    (awaitingGeneration pool.id 1 s)
  pure (db, pool)

/-- The stored pool that a configuration names. -/
def lockPool (db : DB) (input : ConfigInput) (s : Snapshot) : Except ShareError (DB × Pool) := do
  let pool ← need (db.pools.get? input.poolID) .recordNotFound
  check (pool.subjectRef = s.subjectRef ∧ pool.revision = input.expectedRevision ∧ pool.enabled ∧
    pool.approximate ∧ (input.replaceWindow → pool.windowSource = s.source) ∧
    (input.replaceWindow = false → pool.descriptorKey = s.descriptor)) .conflict
  pure (db, pool)

/-- The pool of a configuration: a new one, or the stored one that it names. -/
def configuredPool (db : DB) (rd : Reads) (input : ConfigInput) (s : Snapshot) (now : Int) :
    Except ShareError (DB × Pool) :=
  if input.poolID = 0 then createPool db rd input s now else lockPool db input s

/-- The generation that a rebaseline continues: it is stopped, and the sample is the last one it saw,
later than the stop and not below the last usage. -/
def lockRebaseline (db : DB) (pool : Pool) (s : Snapshot) (usedMicro : Int) :
    Except ShareError Generation := do
  let g ← need (db.generation? pool.id pool.currentGeneration) .recordNotFound
  check (g.state = .stopped ∧ g.stoppedAt < s.observedAt ∧ s.id = g.lastSnapshotID ∧
    resetEquivalent s g ∧ g.lastUsedMicro ≤ usedMicro) .conflict
  pure g

/-- The generation that the configuration rebaselines, if it replaces a window by itself. -/
def rebaselined (db : DB) (pool : Pool) (input : ConfigInput) (s : Snapshot) (usedMicro : Int) :
    Except ShareError (Option Generation) :=
  if input.replaceWindow ∧ pool.descriptorKey = s.descriptor then
    (lockRebaseline db pool s usedMicro).map some
  else pure none

/-- The loop over the allocations of the pool: the allocation of the token, and the shares of the
others. -/
def reviewAllocations (tokenID userID : Int) :
    List Allocation → Option Allocation → Int → Except ShareError (Option Allocation × Int)
  | [], found, allocated => pure (found, allocated)
  | a :: rest, found, allocated => do
    check (0 ≤ a.shareBPS ∧ a.shareBPS ≤ 10000) .unavailable
    if a.tokenID = tokenID then do
      check (a.userID = userID) .conflict
      reviewAllocations tokenID userID rest (some a) allocated
    else do
      check (allocated + a.shareBPS ≤ 10000) .invalid
      reviewAllocations tokenID userID rest found (allocated + a.shareBPS)

/-- Write the share of the token. A new allocation gets its usage in the current generation here,
unless the window is replaced. -/
def placeAllocation (db : DB) (pool : Pool) (tokenID userID : Int) (input : ConfigInput) (now : Int) :
    Option Allocation → Except ShareError DB
  | some a => pure { db with
      allocations := db.allocations.put { a with shareBPS := input.shareBPS, updatedAt := now } }
  | none => do
    let allocations ← insertUnique db.allocations
      (fun a => a.poolID = pool.id ∧ a.tokenID = tokenID)
      { poolID := pool.id
        tokenID := tokenID
        userID := userID
        shareBPS := input.shareBPS
        createdAt := now
        updatedAt := now }
    let placed := { db with allocations := allocations }
    if input.replaceWindow then pure placed
    else createUsage placed db.allocations.nextId pool.currentGeneration

/-- Move the pool to the window of the sample in a new generation. -/
def replaceWindow (db : DB) (pool : Pool) (s : Snapshot) (now : Int) :
    Except ShareError (DB × Pool × Int) := do
  let db := db.updatePool pool.id (fun p =>
    { p with
      revision := pool.revision + 1
      descriptorKey := s.descriptor
      snapshotID := s.id
      windowType := s.windowType
      windowSeconds := s.windowSeconds
      planType := s.planType
      configuredAt := now
      currentGeneration := pool.currentGeneration + 1 })
  let (db, _, uncertain) := finalizeUncertainAttempts db pool.id pool.currentGeneration s.observedAt
  let newGeneration := pool.currentGeneration + 1
  let (db, _) ← createGeneration db (awaitingGeneration pool.id newGeneration s)
  let db ← (db.poolAllocations pool.id).foldlM (fun db a => createUsage db a.id newGeneration) db
  pure (db, { pool with revision := pool.revision + 1, currentGeneration := newGeneration }, uncertain)

/-- The generation behind a rebaseline: growth since the last usage is unattributed. -/
def rebaselinedGeneration (g : Generation) (s : Snapshot) (usedMicro : Int) : Generation :=
  { g with
    lastUsedMicro := if g.lastUsedMicro < usedMicro then usedMicro else g.lastUsedMicro
    unattributedMicro := if g.lastUsedMicro < usedMicro
      then g.unattributedMicro + (usedMicro - g.lastUsedMicro) else g.unattributedMicro
    baselineTime := s.observedAt
    baselineUsedMicro := usedMicro
    lastSnapshotID := s.id
    observedAt := s.observedAt
    resetAt := s.resetAt
    state := .ready
    reason := "observation_rebaseline" }

/-- Take a new baseline in the stopped generation. -/
def takeBaseline (db : DB) (pool : Pool) (g : Generation) (s : Snapshot) (usedMicro : Int) :
    DB × Pool × Int :=
  let db := db.updatePool pool.id
    (fun p => { p with revision := pool.revision + 1, snapshotID := s.id })
  let (db, _, uncertain) := finalizeUncertainAttempts db pool.id pool.currentGeneration s.observedAt
  ({ db with generations := db.generations.put (rebaselinedGeneration g s usedMicro) },
    { pool with revision := pool.revision + 1 }, uncertain)

/-- The update of a stored pool: a new window, a new baseline, or the next revision only. -/
def advancePool (db : DB) (pool : Pool) (input : ConfigInput) (s : Snapshot) (usedMicro now : Int)
    (rebaseline : Option Generation) : Except ShareError (DB × Pool × Int) :=
  if input.poolID = 0 then pure (db, pool, 0)
  else
    match rebaseline with
    | some g => pure (takeBaseline db pool g s usedMicro)
    | none =>
      if input.replaceWindow then replaceWindow db pool s now
      else pure (db.updatePool pool.id (fun p => { p with revision := pool.revision + 1 }),
        { pool with revision := pool.revision + 1 }, 0)

/-- The action that the audit of a configuration names. -/
def configAction (input : ConfigInput) (rebaseline : Option Generation) (found : Option Allocation) :
    AuditAction :=
  if input.poolID = 0 then .poolCreation
  else if rebaseline.isSome then .observationRebaseline
  else if input.replaceWindow then .windowReplacement
  else if found.isNone then .allocationCreate
  else .allocationUpdate

/-- The transaction of a configuration behind its replay check. -/
def configurePool (db : DB) (rd : Reads) (actorID tokenID userID : Int) (input : ConfigInput)
    (s : Snapshot) (usedMicro now : Int) : Except ShareError DB := do
  let (db, pool) ← configuredPool db rd input s now
  let rebaseline ← rebaselined db pool input s usedMicro
  let (found, allocated) ← reviewAllocations tokenID userID (db.poolAllocations pool.id) none 0
  let beforeShare := (found.map Allocation.shareBPS).getD 0
  check (rebaseline.isSome → found.isSome ∧ input.shareBPS = beforeShare) .conflict
  check (allocated + input.shareBPS ≤ 10000) .invalid
  let db ← placeAllocation db pool tokenID userID input now found
  let (db, next, uncertain) ← advancePool db pool input s usedMicro now rebaseline
  let created := input.poolID = 0
  let beforeUsed := (rebaseline.map Generation.lastUsedMicro).getD 0
  let audits ← need (db.audits.create
    { id := input.id
      digest := .configure actorID tokenID input
      actorID := actorID
      tokenID := tokenID
      poolID := pool.id
      snapshotID := input.snapshotID
      expectedRevision := input.expectedRevision
      beforeShareBPS := beforeShare
      afterShareBPS := input.shareBPS
      beforeRevision := if created then 0 else pool.revision
      afterRevision := next.revision
      createdAt := now
      beforeDescriptor := if created then none else some pool.descriptorKey
      afterDescriptor := s.descriptor
      beforeGeneration := if created then 0 else pool.currentGeneration
      afterGeneration := next.currentGeneration
      allocations := if input.replaceWindow ∧ rebaseline.isNone then db.poolAllocations pool.id else []
      action := configAction input rebaseline found
      beforeUsedMicro := beforeUsed
      afterUsedMicro := if rebaseline.isSome then usedMicro else 0
      unattributedDeltaMicro := if rebaseline.isSome then usedMicro - beforeUsed else 0
      uncertainAttempts := uncertain }) .conflict
  pure { db with audits := audits }

/-- `ConfigureSubscriptionShare`. -/
def configureSubscriptionShare (db : DB) (rd : Reads) (actorID tokenID : Int) (input : ConfigInput)
    (now : Int) : Except ShareError DB := do
  check (validConfigInput actorID tokenID now input) .invalid
  authorizeRoot rd
  let token ← need rd.token .recordNotFound
  check (token.deleted = false) .denied
  match db.audits.get? input.id with
  | some replay => do
    check (replay.digest = .configure actorID tokenID input) .conflict
    pure db
  | none => do
    check (rd.budgetEnabled = false) .conflict
    let s ← need (rd.snapshots.find? (fun s => s.id = input.snapshotID)) .recordNotFound
    check (if input.poolID = 0 ∨ input.replaceWindow then validSubscriptionShareSnapshot s now = true
      else validSubscriptionShareObservation s = true) .unavailable
    let usedMicro ← need (subscriptionShareUsedMicro s) .unavailable
    configurePool db rd actorID tokenID token.userID input s usedMicro now

/-! ### Closing -/

/-- The transaction of a closure behind its replay check. -/
def closePool (db : DB) (actorID : Int) (input : CloseInput) (pool : Pool) (now : Int) :
    Except ShareError DB := do
  check (pool.enabled ∧ pool.revision = input.expectedRevision ∧ 0 < pool.currentGeneration) .conflict
  let g ← need (db.generation? pool.id pool.currentGeneration) .recordNotFound
  let allocations := db.poolAllocations pool.id
  let (db, _, uncertain) := finalizeUncertainAttempts db pool.id pool.currentGeneration now
  let stopped : Generation :=
    { g with
      state := .stopped
      reason := "pool_closed"
      stoppedAt := now
      stoppedSnapshotID := g.lastSnapshotID }
  let db := { db with generations := db.generations.put stopped }
  let db := db.updatePool pool.id (fun p => { p with enabled := false, revision := pool.revision + 1 })
  let audits ← need (db.audits.create
    { id := input.id
      digest := .close actorID input
      actorID := actorID
      poolID := pool.id
      snapshotID := pool.snapshotID
      expectedRevision := input.expectedRevision
      beforeRevision := pool.revision
      afterRevision := pool.revision + 1
      createdAt := now
      beforeDescriptor := some pool.descriptorKey
      afterDescriptor := pool.descriptorKey
      beforeGeneration := pool.currentGeneration
      afterGeneration := pool.currentGeneration
      allocations := allocations
      action := .poolClose
      uncertainAttempts := uncertain }) .conflict
  pure { db with audits := audits }

/-- `CloseSubscriptionSharePool`. -/
def closeSubscriptionSharePool (db : DB) (rd : Reads) (actorID : Int) (input : CloseInput) (now : Int) :
    Except ShareError DB := do
  check (0 < actorID ∧ 0 < now ∧ canonicalLowerHex input.id 64 ∧ 0 < input.poolID ∧
    0 < input.expectedRevision ∧ input.confirmedClose) .invalid
  authorizeRoot rd
  let pool ← need (db.pools.get? input.poolID) .recordNotFound
  match db.audits.get? input.id with
  | some replay => do
    check (replay.digest = .close actorID input ∧ replay.poolID = pool.id ∧
      replay.action = .poolClose) .conflict
    pure db
  | none => closePool db actorID input pool now

/-! ### Attempts -/

/-- An attempt that asks for admission. -/
structure AttemptInput where
  tokenID : Int
  userID : Int
  subjectRef : String
  channelID : Int
  credentialRef : String
  requestID : String
  attemptID : String
  deriving DecidableEq, Repr

/-- The checks of `AdmitSubscriptionShareAttempt` before its transaction;
`validSubscriptionShareAttemptIdentity` is the second half. -/
def validAttemptInput (input : AttemptInput) (now : Int) : Bool :=
  0 < input.tokenID && 0 < input.userID && 0 < input.channelID && 0 < now &&
    canonicalChannelQuotaIdentitySubject input.subjectRef && canonicalLowerHex input.attemptID 64 &&
    input.requestID ≠ "" && input.requestID.utf8ByteSize ≤ 128 && input.credentialRef ≠ "" &&
    input.credentialRef.utf8ByteSize ≤ 128 &&
    trimSpace input.credentialRef = input.credentialRef

/-- Whether one pool admits the attempt. An error of the outer kind aborts the transaction, one of
the inner kind is the answer of a transaction that commits. -/
def poolDecision (db : DB) (bindings : List Allocation) (userID now : Int) (pool : Pool) :
    Except ShareError (Except ShareError Allocation) :=
  match bindings.find? (fun a => a.poolID = pool.id) with
  | none => pure (.error .denied)
  | some a =>
    if a.userID ≠ userID then pure (.error .denied)
    else if pool.currentGeneration ≤ 0 then pure (.error .awaitingSample)
    else do
      let g ← need (db.generation? pool.id pool.currentGeneration) .recordNotFound
      if ¬ (g.state = .ready ∧ 0 < g.observedAt ∧ g.observedAt ≤ now ∧
          now - g.observedAt ≤ pool.maxAgeSeconds ∧ now < g.resetAt) then
        pure (.error .unavailable)
      else
        match db.usages.find? (fun u => u.allocationID = a.id ∧
            u.generation = pool.currentGeneration) with
        | none => pure (.error .unavailable)
        | some u =>
          let open_ := db.attemptWindows pool.id pool.currentGeneration (fun w _ => w.coveredAt = 0)
          if u.estimatedUsedMicro < 0 then pure (.error .unavailable)
          else if a.shareBPS = 0 ∨ a.shareBPS * 10000 ≤ u.estimatedUsedMicro then
            pure (.error .exceeded)
          else if maxUnsampledKey ≤ open_.countP (fun w => w.allocationID = a.id) ∨
              maxUnsampledPool ≤ open_.length then pure (.error .awaitingSample)
          else pure (.ok a)

/-- The loop over the pools: the allocation of each, or the first refusal. -/
def selectAllocations (db : DB) (bindings : List Allocation) (userID now : Int) :
    List Pool → List (Pool × Allocation) →
      Except ShareError (Except ShareError (List (Pool × Allocation)))
  | [], selected => pure (.ok selected)
  | pool :: rest, selected => do
    match ← poolDecision db bindings userID now pool with
    | .error e => pure (.error e)
    | .ok a => selectAllocations db bindings userID now rest (selected ++ [(pool, a)])

/-- The window of an attempt in one pool, under the unique index on both. -/
def createWindow (db : DB) (attemptID : String) (pool : Pool) (a : Allocation) :
    Except ShareError DB := do
  let windows ← insertUnique db.windows (fun w => w.attemptID = attemptID ∧ w.poolID = pool.id)
    { attemptID := attemptID
      poolID := pool.id
      allocationID := a.id
      generation := pool.currentGeneration }
  pure { db with windows := windows }

/-- The row of an admitted attempt. -/
def admittedAttempt (input : AttemptInput) (now : Int) : Attempt :=
  { attemptID := input.attemptID
    requestID := input.requestID
    tokenID := input.tokenID
    userID := input.userID
    subjectRef := input.subjectRef
    channelID := input.channelID
    credentialRef := input.credentialRef
    createdAt := now
    updatedAt := now }

/-- `AdmitSubscriptionShareAttempt`: the tables and the refusal, which is returned although the
projection is committed. -/
def admitSubscriptionShareAttempt (db : DB) (rd : Reads) (input : AttemptInput) (now : Int) :
    Except ShareError (DB × Option ShareError) := do
  check (validAttemptInput input now) .invalid
  let token ← need (rd.token.filter (fun t => !t.deleted)) .recordNotFound
  check (token.userID = input.userID ∧ token.enabled) .denied
  check ((db.attempts.get? input.attemptID).isNone) .conflict
  let bindings := db.allocations.rows.filter (fun a => a.tokenID = input.tokenID ∧
    (db.pools.get? a.poolID).any (fun p => p.enabled))
  let pools := db.enabledPools input.subjectRef
  if pools = [] then do
    check (bindings = []) .denied
    pure (db, none)
  else do
    let (db, backlog) ← refreshSubscriptionSharePools rd.snapshots input.subjectRef db pools
    if backlog then pure (db, some .awaitingSample)
    else do
      match ← selectAllocations db bindings input.userID now (db.enabledPools input.subjectRef) [] with
      | .error e => pure (db, some e)
      | .ok selected =>
        let attempts ← need (db.attempts.create (admittedAttempt input now)) .conflict
        let db ← selected.foldlM (fun db x => createWindow db input.attemptID x.1 x.2)
          { db with attempts := attempts }
        pure (db, none)

/-- `MarkSubscriptionShareAttemptNotSent`. -/
def markSubscriptionShareAttemptNotSent (db : DB) (attemptID : String) (now : Int) :
    Except ShareError DB := do
  check (0 < now) .invalid
  check (canonicalLowerHex attemptID 64) .invalid
  let attempt ← need (db.attempts.get? attemptID) .recordNotFound
  if attempt.notSent then pure db
  else do
    check ((db.windows.rows.filter (fun w => w.attemptID = attemptID)).all
      (fun w => w.allocatedAt = 0)) .conflict
    pure { db with attempts := db.attempts.set { attempt with notSent := true, updatedAt := now } }

end MyApiSpec.Share
