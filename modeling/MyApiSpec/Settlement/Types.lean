import MyApiSpec.Base.Process
import MyApiSpec.Ledger.Mutation

/-!
# Data of settlements and refunds

Rows of `model/account_quota_settlement_fact.go`, `model/account_quota_execution_permit.go`,
`model/account_quota_refund_fact.go` and `model/legacy_usage_reservation.go`. The eleven columns
that identify a settlement in a fact, an intent and a permit are one record. A SHA-256 digest is
the symbolic term of what it digests, as in the ledger.
-/

namespace MyApiSpec.Settlement

open Base

/-! ### Errors -/

/-- Sentinel errors, one constructor per error value. `duplicateKey` is a violated unique index,
`database` any failure of the database or of a statement that is not answered. -/
inductive Fault where
  | recordNotFound
  | invalidInput
  | conflict
  | notFound
  | terminal
  | ineligible
  | insufficient
  | casLost
  | staleReceipt
  | recoveryConflict
  | usageUnresolved
  | writerEpochUnavailable
  | writerEpochMismatch
  | legacyWriterModeDisabled
  | executionGateInvalid
  | executionFrozen
  | settlementPending
  | settlementFactUnknown
  | settlementManualRequired
  | refundPending
  | refundFactUnknown
  | refundManualRequired
  | balanceOutOfRange
  | cacheUnavailable
  | unsupportedFunding
  | duplicateKey
  | database
  | ledger (e : Ledger.LedgerError)
  deriving DecidableEq, Repr

/-- An error value with everything that `errors.Join` put into it; `errors.Is` is membership. -/
abbrev Failure : Type := List Fault

/-- A fallible computation. -/
abbrev Fallible (α : Type) : Type := Except Failure α

/-- An error of the ledger, under the sentinel that this part of the code compares with. -/
def Fault.ofLedger : Ledger.LedgerError → Fault
  | .recordNotFound => .recordNotFound
  | .invalidInput => .invalidInput
  | .conflict => .conflict
  | .notFound => .notFound
  | .terminal => .terminal
  | .ineligible => .ineligible
  | .insufficient => .insufficient
  | .casLost => .casLost
  | .staleReceipt => .staleReceipt
  | .recoveryConflict => .recoveryConflict
  | .usageUnresolved => .usageUnresolved
  | .writerEpochUnavailable => .writerEpochUnavailable
  | .writerEpochMismatch => .writerEpochMismatch
  | .duplicateKey => .duplicateKey
  | .database => .database
  | e => .ledger e

/-! ### Identity of a settlement -/

/-- Kind of a settlement fact (`model/account_quota_settlement_fact.go:18–21`). -/
inductive SettlementKind where
  | authoritative
  | legacyWallet
  | legacySelfUse
  | legacySubscription
  deriving DecidableEq, Repr

/-- State of a fact or an intent (`model/account_quota_settlement_fact.go:23–28`); `blank` is the
state of a row variable that was never read. -/
inductive WorkState where
  | blank
  | pending
  | materialized
  | claimed
  | retryable
  | applied
  | manual
  deriving DecidableEq, Repr

/-- `AccountQuotaSettlementFactInput` (`model/account_quota_settlement_fact.go:121–133`). -/
structure SettlementInput where
  eventKey : String
  requestID : String
  kind : SettlementKind
  userID : Int
  tokenID : Int
  subscriptionID : Int := 0
  reserveReceiptID : Int := 0
  writerEpoch : Int := 0
  actualQuota : Int := 0
  delta : Int := 0
  applyToken : Bool := false
  deriving DecidableEq, Repr

/-- A stored request fingerprint: version 2 digests an authoritative identity, version 1 a legacy
one (`model/account_quota_settlement_fact.go:164–199`). -/
inductive SettlementDigest where
  | authoritative (eventKey requestID : String)
      (userID tokenID subscriptionID reserveReceiptID writerEpoch actualQuota : Int)
  | legacy (eventKey requestID : String) (kind : SettlementKind)
      (userID tokenID subscriptionID delta : Int) (applyToken : Bool)
  | text (s : String)
  deriving DecidableEq, Repr

/-! ### Rows -/

/-- `AccountQuotaSettlementFact` (`model/account_quota_settlement_fact.go:91–117`). -/
structure SettlementFact where
  id : Int := 0
  input : SettlementInput
  fundingApplied : Bool := false
  tokenApplied : Bool := false
  terminalReceiptID : Int := 0
  requestFingerprint : SettlementDigest
  state : WorkState := .pending
  attempts : Int := 0
  nextAttemptAt : Int := 0
  leaseOwner : String := ""
  leaseUntil : Int := 0
  lockVersion : Int := 1
  deriving DecidableEq, Repr

/-- `AccountQuotaSettlementIntent` (`model/account_quota_settlement_fact.go:65–87`). -/
structure SettlementIntent where
  id : Int := 0
  input : SettlementInput
  requestFingerprint : SettlementDigest
  state : WorkState := .pending
  factID : Int := 0
  terminalReceiptID : Int := 0
  attempts : Int := 0
  lockVersion : Int := 1
  deriving DecidableEq, Repr

/-- Source of a permit (`model/account_quota_execution_permit.go:24–25`). -/
inductive PermitSource where
  | runtimeV1
  | historicalReviewV1
  deriving DecidableEq, Repr

/-- Stored text of a permit source. -/
def PermitSource.text : PermitSource → String
  | .runtimeV1 => "runtime_v1"
  | .historicalReviewV1 => "historical_review_v1"

/-- State of a permit (`model/account_quota_execution_permit.go:26–27`). -/
inductive PermitState where
  | active
  | revoked
  deriving DecidableEq, Repr

/-- The columns that a binding digest covers, apart from the evidence. -/
structure PermitPayload where
  bindingVersion : Int
  source : PermitSource
  approvalID : String
  intentID : Int
  factID : Int
  input : SettlementInput
  requestFingerprint : SettlementDigest
  initialFundingApplied : Bool
  initialTokenApplied : Bool
  allowFunding : Bool
  allowToken : Bool
  deriving DecidableEq, Repr

/-- A stored digest of a permit: the digest of a payload with its historical evidence, or a text
of another origin. -/
inductive BindingDigest where
  | payload (p : PermitPayload) (historicalEvidence : BindingDigest)
  | text (s : String)
  deriving DecidableEq, Repr

/-- `AccountQuotaExecutionPermit` (`model/account_quota_execution_permit.go:50–77`). -/
structure ExecutionPermit where
  id : Int := 0
  intentID : Int := 0
  factID : Int := 0
  source : PermitSource
  bindingVersion : Int
  bindingDigest : BindingDigest := .text ""
  input : SettlementInput
  requestFingerprint : SettlementDigest
  initialFundingApplied : Bool := false
  initialTokenApplied : Bool := false
  allowFunding : Bool
  allowToken : Bool
  state : PermitState := .active
  approvalID : String
  evidenceDigest : BindingDigest := .text ""
  createdAt : Int := 0
  deriving DecidableEq, Repr

/-- `AccountQuotaExecutionGate` (`model/account_quota_execution_permit.go:36–42`). -/
structure ExecutionGate where
  id : Int
  schemaVersion : Int
  enforcing : Bool
  deriving DecidableEq, Repr

/-- State of a usage journal (`model/legacy_usage_reservation.go:13–21`). -/
inductive UsageState where
  | preparing
  | admissionFailed
  | prepared
  | unknown
  | settled
  | refunded
  | reviewPending
  deriving DecidableEq, Repr

/-- Funding source of a usage journal; `pending` until the reservation is bound. -/
inductive UsageFunding where
  | pending
  | wallet
  | subscription
  | free
  | selfUse
  deriving DecidableEq, Repr

/-- `LegacyUsageReservation` (`model/legacy_usage_reservation.go:125–146`). -/
structure LegacyUsageReservation where
  id : Int := 0
  usagePolicyRevision : Int := 0
  requestID : String
  userID : Int
  tokenID : Int
  fundingSource : UsageFunding
  subscriptionID : Int := 0
  reservedQuota : Int := 0
  tokenReservedQuota : Int := 0
  actualQuota : Option Int := none
  state : UsageState
  reviewMetadata : Ledger.ReviewMetadata := .empty
  lockVersion : Int := 1
  deriving DecidableEq, Repr

/-- Kind of a refund fact (`model/account_quota_refund_fact.go:16–19`). -/
inductive RefundKind where
  | authoritative
  | legacyWallet
  | legacySelfUse
  | legacySubscription
  deriving DecidableEq, Repr

/-- `AccountQuotaRefundFactInput` (`model/account_quota_refund_fact.go:69–82`). -/
structure RefundInput where
  eventKey : String
  kind : RefundKind
  requestID : String
  reserveReceiptID : Int := 0
  auditKey : String := ""
  writerEpoch : Int := 0
  userID : Int
  tokenID : Int
  subscriptionID : Int := 0
  walletQuota : Int := 0
  subscriptionQuota : Int := 0
  tokenQuota : Int := 0
  deriving DecidableEq, Repr

/-- A stored refund fingerprint: the digest of an identity or a text of another origin. -/
inductive RefundDigest where
  | of (input : RefundInput)
  | text (s : String)
  deriving DecidableEq, Repr

/-- `AccountQuotaRefundFact` (`model/account_quota_refund_fact.go:41–66`). -/
structure RefundFact where
  id : Int := 0
  input : RefundInput
  requestFingerprint : RefundDigest
  state : WorkState := .pending
  attempts : Int := 0
  nextAttemptAt : Int := 0
  leaseOwner : String := ""
  leaseUntil : Int := 0
  lockVersion : Int := 1
  deriving DecidableEq, Repr

/-- Status of a subscription pre-consume record. -/
inductive PreConsumeStatus where
  | consumed
  | refunded
  deriving DecidableEq, Repr

/-- `SubscriptionPreConsumeRecord`, the columns that refunds and extensions read. -/
structure PreConsumeRecord where
  id : Int := 0
  requestID : String
  userID : Int
  userSubscriptionID : Int
  preConsumed : Int
  status : PreConsumeStatus := .consumed
  deriving DecidableEq, Repr

instance : Row SettlementFact :=
  ⟨SettlementFact.id, fun i r => { r with id := i }, fun _ _ => rfl⟩
instance : Row SettlementIntent :=
  ⟨SettlementIntent.id, fun i r => { r with id := i }, fun _ _ => rfl⟩
instance : Row ExecutionPermit :=
  ⟨ExecutionPermit.id, fun i r => { r with id := i }, fun _ _ => rfl⟩
instance : Row LegacyUsageReservation :=
  ⟨LegacyUsageReservation.id, fun i r => { r with id := i }, fun _ _ => rfl⟩
instance : Row RefundFact := ⟨RefundFact.id, fun i r => { r with id := i }, fun _ _ => rfl⟩
instance : Row PreConsumeRecord :=
  ⟨PreConsumeRecord.id, fun i r => { r with id := i }, fun _ _ => rfl⟩

/-! ### Database and programs -/

/-- The tables that settlements and refunds read and write; balances are those of the ledger. -/
structure DB where
  ledger : Ledger.DB
  gates : List ExecutionGate
  facts : Table SettlementFact
  intents : Table SettlementIntent
  permits : Table ExecutionPermit
  journals : Table LegacyUsageReservation
  refundFacts : Table RefundFact
  preConsumes : Table PreConsumeRecord

/-- What an action does not control: the outcome of the statement, time and calendar, whether a
failure was a lock conflict, and the error of a subsystem that is not modelled (the cache lock of
a balance and the drain behind it). -/
structure Env where
  outcome : StatementOutcome := .answered
  tx : Ledger.TxEnv
  busy : Bool := false
  refusal : Option Failure := none

/-- A program over a state of type `σ`. -/
abbrev Task (σ α : Type) : Type := Routine σ Env Failure α

/-- A read that is answered or fails; the reader sees database and time. -/
def query (f : DB → Ledger.TxEnv → Fallible α) : Task DB α :=
  ExceptT.mk (Prog.read fun db e =>
    match e.outcome with
    | .answered => f db e.tx
    | _ => .error [.database])

/-- One transaction. It commits as a whole when its function succeeds; a lost answer is an error
after the commit, and a transaction that is not executed changes nothing. -/
def transaction (f : DB → Ledger.TxEnv → Fallible (DB × α)) : Task DB α :=
  ExceptT.mk (Prog.update fun db e =>
    match e.outcome with
    | .failed => (db, .error [.database])
    | .lost =>
      match f db e.tx with
      | .ok (db', _) => (db', .error [.database])
      | .error _ => (db, .error [.database])
    | .answered =>
      match f db e.tx with
      | .ok (db', a) => (db', .ok a)
      | .error failure => (db, .error failure))

/-- Ask a subsystem that is not modelled; it may refuse with any error. -/
def permission : Task DB Unit :=
  ExceptT.mk (Prog.read fun _ env =>
    match env.refusal with
    | none => .ok ()
    | some failure => .error failure)

/-- The time of the database. -/
def databaseTime : Task DB Int := query fun _ env => .ok env.now

/-- A result of the ledger with its error as a failure. -/
def ofLedger (x : Except Ledger.LedgerError α) : Fallible α :=
  x.mapError fun e => [Fault.ofLedger e]

end MyApiSpec.Settlement
