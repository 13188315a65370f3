import Mathlib.Data.List.Sort
import Mathlib.Data.Rat.Defs
import MyApiSpec.Base.Distinct
import MyApiSpec.Base.Outcome
import MyApiSpec.Base.Store
import MyApiSpec.Base.Table

/-!
# Subscription shares: rows and samples

`model/subscription_share.go:21–400`. A pool divides the usage of one native subscription window
among tokens. Its generations follow the window from reset to reset; each keeps the last usage that
was observed, the part of it that no token is charged for, and an estimate per allocation. Usage is
counted in millionths of a percent.
-/

namespace MyApiSpec.Share

open Base

/-- The errors of the package and those of the database that it passes on. -/
inductive ShareError where
  | invalid
  | conflict
  | denied
  | unavailable
  | exceeded
  | awaitingSample
  | recordNotFound
  | duplicatedKey
  deriving DecidableEq, Repr

/-- `SubscriptionShareTotalMicro`. -/
def totalMicro : Int := 100000000

/-- `SubscriptionShareDefaultMaxAge`. -/
def defaultMaxAge : Int := 300

/-- `SubscriptionShareMaxUnsampledKey`. -/
def maxUnsampledKey : Nat := 8

/-- `SubscriptionShareMaxUnsampledPool`. -/
def maxUnsampledPool : Nat := 64

/-! ### Texts -/

/-- `canonicalLowerHex` (`model/channel_quota_identity.go:432–438`). -/
def canonicalLowerHex (value : String) (expectedLength : Nat) : Bool :=
  value.toList.length = expectedLength && expectedLength % 2 = 0 &&
    value.toList.all (fun c => c.isDigit || ('a'.toNat ≤ c.toNat && c.toNat ≤ 'f'.toNat))

/-- The value of a character of the URL-safe base64 alphabet. -/
def base64Value (c : Char) : Option Nat :=
  if c.isUpper then some (c.toNat - 'A'.toNat)
  else if c.isLower then some (c.toNat - 'a'.toNat + 26)
  else if c.isDigit then some (c.toNat - '0'.toNat + 52)
  else if c = '-' then some 62
  else if c = '_' then some 63
  else none

/-- `canonicalChannelQuotaIdentitySubject` (`model/channel_quota_identity.go:440–446`): 43 characters
encode 32 bytes when the two surplus bits of the last one are zero. -/
def canonicalChannelQuotaIdentitySubject (value : String) : Bool :=
  value.toList.length = 43 && value.toList.all (fun c => (base64Value c).isSome) &&
    (value.toList.getLast?.bind base64Value).any (fun v => v % 4 = 0)

/-- `codexQuotaWindowPrimarySource`. -/
def primarySource : String := "codex_wham_usage_primary"

/-- `codexQuotaWindowSecondarySource`. -/
def secondarySource : String := "codex_wham_usage_secondary"

/-! ### Samples -/

/-- `ChannelQuotaSnapshot`, the columns that the shares read. `used` and `total` are the numbers of
the floating-point columns, `none` for a missing value, a NaN or an infinity; `availableAgrees` is the
floating-point comparison of `Available` with `100 - Used`. -/
structure Snapshot where
  id : Int
  codexObservationQualified : Bool := true
  codexThresholdQualified : Bool := true
  channelID : Int := 1
  observedAt : Int
  availableAgrees : Bool := true
  used : Option ℚ
  total : Option ℚ := some 100
  unit : String := "percent"
  currency : String := ""
  metricType : String := "codex_rate_limit"
  windowType : String
  planType : String
  windowSeconds : Int
  resetAt : Int
  source : String
  subjectRef : String
  identityQuality : String := "provider_confirmed"
  status : String := "success"
  errorCode : String := ""
  deriving DecidableEq, Repr

/-- `subscriptionShareUsedMicro`; `none` is `ErrSubscriptionShareUnavailable`. -/
def subscriptionShareUsedMicro (s : Snapshot) : Option Int :=
  s.used.bind fun used =>
    if used < 0 ∨ 100 < used then none
    else
      let micro := used * 1000000
      if micro.den = 1 ∧ 0 ≤ micro.num ∧ micro.num ≤ totalMicro then some micro.num else none

/-- `subscriptionShareProportionalMicro`. -/
def subscriptionShareProportionalMicro (delta count total : Int) : Except ShareError Int := do
  check (0 ≤ delta ∧ delta ≤ totalMicro ∧ 0 ≤ count ∧ 0 < total ∧ count ≤ total) .invalid
  let quotient := delta * count / total
  check (quotient ≤ delta) .invalid
  pure quotient

/-- `validSubscriptionShareObservation`. -/
def validSubscriptionShareObservation (s : Snapshot) : Bool :=
  0 < s.id && s.codexObservationQualified && s.codexThresholdQualified &&
    s.identityQuality = "provider_confirmed" && canonicalChannelQuotaIdentitySubject s.subjectRef &&
    s.metricType = "codex_rate_limit" && (s.source = primarySource || s.source = secondarySource) &&
    s.status = "success" && s.unit = "percent" && s.currency = "" && s.total = some 100 &&
    s.used.any (fun used => 0 ≤ used && used ≤ 100) && s.availableAgrees && s.windowType ≠ "" &&
    s.windowType ≠ "none" && s.windowType ≠ "unknown" && s.planType ≠ "" && 0 < s.windowSeconds &&
    0 < s.observedAt && s.observedAt < s.resetAt && s.resetAt - s.observedAt ≤ s.windowSeconds

/-- `validSubscriptionShareSnapshot`. -/
def validSubscriptionShareSnapshot (s : Snapshot) (now : Int) : Bool :=
  validSubscriptionShareObservation s && s.observedAt ≤ now && now - s.observedAt ≤ defaultMaxAge &&
    now < s.resetAt

/-! ### Rows -/

/-- What `subscriptionShareDescriptorKey` digests; the digest is taken to be injective. -/
structure DescriptorKey where
  subject : String
  source : String
  windowType : String
  windowSeconds : Int
  planType : String
  deriving DecidableEq, Repr

/-- The descriptor of a sample. -/
def Snapshot.descriptor (s : Snapshot) : DescriptorKey :=
  ⟨s.subjectRef, s.source, s.windowType, s.windowSeconds, s.planType⟩

/-- `SubscriptionSharePool`. -/
structure Pool where
  id : Int := 0
  descriptorKey : DescriptorKey
  subjectRef : String
  snapshotID : Int
  channelID : Int
  channelName : String
  windowSource : String
  windowType : String
  windowSeconds : Int
  planType : String
  revision : Int
  currentGeneration : Int
  selectedObservedAt : Int
  configuredAt : Int
  maxAgeSeconds : Int
  enabled : Bool
  approximate : Bool
  deriving DecidableEq, Repr

/-- The states of a generation. -/
inductive GenerationState where
  | awaitingBaseline
  | ready
  | stopped
  deriving DecidableEq, Repr

/-- `SubscriptionShareGeneration`. -/
structure Generation where
  id : Int := 0
  poolID : Int
  generation : Int
  baselineTime : Int := 0
  baselineUsedMicro : Int := 0
  lastUsedMicro : Int := 0
  unattributedMicro : Int := 0
  lastSnapshotID : Int
  observedAt : Int
  resetAt : Int
  state : GenerationState
  reason : String
  descriptorKey : DescriptorKey
  windowSource : String
  windowType : String
  windowSeconds : Int
  planType : String
  stoppedAt : Int := 0
  stoppedSnapshotID : Int := 0
  deriving DecidableEq, Repr

/-- `SubscriptionShareAllocation`. -/
structure Allocation where
  id : Int := 0
  poolID : Int
  tokenID : Int
  userID : Int
  shareBPS : Int
  createdAt : Int
  updatedAt : Int
  deriving DecidableEq, Repr

/-- `SubscriptionShareAllocationUsage`. -/
structure Usage where
  id : Int := 0
  allocationID : Int
  generation : Int
  estimatedUsedMicro : Int := 0
  deriving DecidableEq, Repr

/-- `SubscriptionShareAttempt`; an attempt is dispatching until it is marked as not sent. -/
structure Attempt where
  attemptID : String
  requestID : String
  tokenID : Int
  userID : Int
  subjectRef : String
  channelID : Int
  credentialRef : String
  notSent : Bool := false
  createdAt : Int
  updatedAt : Int
  deriving DecidableEq, Repr

/-- `SubscriptionShareAttemptWindow`. -/
structure AttemptWindow where
  id : Int := 0
  attemptID : String
  poolID : Int
  allocationID : Int
  generation : Int
  coveredAt : Int := 0
  allocatedAt : Int := 0
  deriving DecidableEq, Repr

/-- `subscriptionShareSampleAllocation`. -/
structure SampleAllocation where
  allocationID : Int
  attemptCount : Int
  allocatedMicro : Int := 0
  deriving DecidableEq, Repr

/-- `SubscriptionShareSampleApplication`, with the list whose JSON text it stores. -/
structure SampleApplication where
  id : Int := 0
  poolID : Int
  generation : Int
  snapshotID : Int
  fromSnapshotID : Int
  beforeUsedMicro : Int
  afterUsedMicro : Int
  deltaMicro : Int
  attemptCount : Int
  allocations : List SampleAllocation
  unattributedDeltaMicro : Int
  reason : String
  createdAt : Int
  deriving DecidableEq, Repr

/-- `SubscriptionShareConfigInput`. -/
structure ConfigInput where
  id : String
  poolID : Int
  snapshotID : Int
  expectedRevision : Int
  shareBPS : Int
  confirmedApproximate : Bool := true
  replaceWindow : Bool := false
  deriving DecidableEq, Repr

/-- `SubscriptionShareCloseInput`. -/
structure CloseInput where
  id : String
  poolID : Int
  expectedRevision : Int
  confirmedClose : Bool := true
  deriving DecidableEq, Repr

/-- `subscriptionShareDigest` of the two structures it is applied to. -/
inductive AuditDigest where
  | configure (actorID tokenID : Int) (input : ConfigInput)
  | close (actorID : Int) (input : CloseInput)
  deriving DecidableEq, Repr

/-- The actions that the audit names. -/
inductive AuditAction where
  | poolCreation
  | windowReplacement
  | observationRebaseline
  | allocationCreate
  | allocationUpdate
  | poolClose
  deriving DecidableEq, Repr

/-- `SubscriptionShareAudit`, with the allocations whose JSON text it stores. -/
structure Audit where
  id : String
  digest : AuditDigest
  actorID : Int
  tokenID : Int := 0
  poolID : Int
  snapshotID : Int
  expectedRevision : Int
  beforeShareBPS : Int := 0
  afterShareBPS : Int := 0
  beforeRevision : Int
  afterRevision : Int
  createdAt : Int
  beforeDescriptor : Option DescriptorKey
  afterDescriptor : DescriptorKey
  beforeGeneration : Int
  afterGeneration : Int
  allocations : List Allocation := []
  action : AuditAction
  beforeUsedMicro : Int := 0
  afterUsedMicro : Int := 0
  unattributedDeltaMicro : Int := 0
  uncertainAttempts : Int := 0
  deriving DecidableEq, Repr

instance : Row Pool := ⟨Pool.id, fun i r => { r with id := i }, fun _ _ => rfl⟩

instance : Row Generation := ⟨Generation.id, fun i r => { r with id := i }, fun _ _ => rfl⟩

instance : Row Allocation := ⟨Allocation.id, fun i r => { r with id := i }, fun _ _ => rfl⟩

instance : Row Usage := ⟨Usage.id, fun i r => { r with id := i }, fun _ _ => rfl⟩

instance : Row AttemptWindow := ⟨AttemptWindow.id, fun i r => { r with id := i }, fun _ _ => rfl⟩

instance : Row SampleApplication :=
  ⟨SampleApplication.id, fun i r => { r with id := i }, fun _ _ => rfl⟩

instance : Keyed String Attempt := ⟨Attempt.attemptID⟩

instance : Keyed String Audit := ⟨Audit.id⟩

/-- The tables of the feature. The rows of the account gates are locks only. -/
structure DB where
  pools : Table Pool := .empty
  generations : Table Generation := .empty
  allocations : Table Allocation := .empty
  usages : Table Usage := .empty
  attempts : Store String Attempt := .empty
  windows : Table AttemptWindow := .empty
  audits : Store String Audit := .empty
  applications : Table SampleApplication := .empty

/-- Insert a row unless a stored row violates a unique index with it. -/
def insertUnique {ρ : Type} [Row ρ] (t : Table ρ) (clash : ρ → Bool) (r : ρ) :
    Except ShareError (Table ρ) := do
  check (t.rows.any clash = false) .duplicatedKey
  pure (t.insert r)

/-- Create a generation under the unique index on pool and generation. -/
def createGeneration (db : DB) (g : Generation) : Except ShareError (DB × Generation) := do
  let generations ← insertUnique db.generations
    (fun x => x.poolID = g.poolID ∧ x.generation = g.generation) g
  pure ({ db with generations := generations }, { g with id := db.generations.nextId })

/-- Create the usage of an allocation in a generation, under the unique index on both. -/
def createUsage (db : DB) (allocationID generation : Int) : Except ShareError DB := do
  let usages ← insertUnique db.usages
    (fun x => x.allocationID = allocationID ∧ x.generation = generation)
    { allocationID := allocationID, generation := generation }
  pure { db with usages := usages }

/-- The allocations of a pool. -/
def DB.poolAllocations (db : DB) (poolID : Int) : List Allocation :=
  db.allocations.rows.filter (fun a => a.poolID = poolID)

/-- The generation of a pool. -/
def DB.generation? (db : DB) (poolID generation : Int) : Option Generation :=
  db.generations.find? (fun g => g.poolID = poolID ∧ g.generation = generation)

/-- An update of the columns of a pool. -/
def DB.updatePool (db : DB) (poolID : Int) (f : Pool → Pool) : DB :=
  match db.pools.get? poolID with
  | none => db
  | some p => { db with pools := db.pools.put { f p with id := p.id } }

/-! ### Attempt windows -/

/-- The windows of a generation whose attempt may have been sent and satisfies `p`. -/
def DB.attemptWindows (db : DB) (poolID generation : Int) (p : AttemptWindow → Attempt → Bool) :
    List AttemptWindow :=
  db.windows.rows.filter fun w => w.poolID = poolID && w.generation = generation &&
    (db.attempts.get? w.attemptID).any (fun a => !a.notSent && p w a)

/-- The update of one window: an unset coverage time is filled, the allocation time is set. -/
def coverWindow (coveredAt : Int) (allocatedAt : Option Int) (w : AttemptWindow) : AttemptWindow :=
  { w with
    coveredAt := if coveredAt ≠ 0 ∧ w.coveredAt = 0 then coveredAt else w.coveredAt
    allocatedAt := allocatedAt.getD w.allocatedAt }

/-- `updateSubscriptionShareAttemptWindows`; the batches only bound the size of a statement. -/
def updateAttemptWindows (windows : Table AttemptWindow) (ids : List Int) (coveredAt : Int)
    (allocatedAt : Option Int) : Table AttemptWindow :=
  ids.foldl (fun t id =>
    match t.get? id with
    | none => t
    | some w => t.put (coverWindow coveredAt allocatedAt w)) windows

/-- The number of windows of each allocation, by allocation id. -/
def countByAllocation (windows : List AttemptWindow) : List SampleAllocation :=
  ((distinct (windows.map AttemptWindow.allocationID)).insertionSort (· ≤ ·)).map fun id =>
    { allocationID := id, attemptCount := windows.countP (fun w => w.allocationID = id) }

/-- `finalizeSubscriptionShareUncertainAttempts`. -/
def finalizeUncertainAttempts (db : DB) (poolID generation coveredAt : Int) :
    DB × List SampleAllocation × Int :=
  let rows := db.attemptWindows poolID generation (fun w _ => w.allocatedAt = 0)
  ({ db with windows :=
      updateAttemptWindows db.windows (rows.map AttemptWindow.id) coveredAt (some (-1)) },
    countByAllocation rows, rows.length)

end MyApiSpec.Share
