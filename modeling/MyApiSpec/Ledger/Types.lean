import MyApiSpec.Base.Table
import MyApiSpec.Base.Outcome
import MyApiSpec.Base.GoText
import MyApiSpec.Ledger.Balance

/-!
# Data of the authoritative account ledger

Rows and enumerations of `model/account_quota_mutation.go`, `model/account_quota_recovery.go`
and the account tables they change. Only fields that a modelled function reads or that a
stored receipt is identified by are kept. String enumerations become inductive types whose
stored text is given by a `text` function. A SHA-256 digest over a JSON payload is the
symbolic term of that payload, so two digests are equal exactly when the payloads are.
-/

namespace MyApiSpec.Ledger

open Base

/-! ### Enumerations -/

/-- Phase of a receipt (`model/account_quota_mutation.go:24–29`, `1314`). -/
inductive Phase where
  | reserve
  | adjust
  | settle
  | refund
  | directToken
  | other (name : String)
  deriving DecidableEq, Repr

/-- Stored text of a phase. -/
def Phase.text : Phase → String
  | .reserve => "reserve"
  | .adjust => "reserve_adjust"
  | .settle => "settle"
  | .refund => "refund"
  | .directToken => "direct_token"
  | .other name => name

/-- The two phases that end a reservation. -/
inductive TerminalPhase where
  | settle
  | refund
  deriving DecidableEq, Repr

/-- A terminal phase as a receipt phase. -/
def TerminalPhase.toPhase : TerminalPhase → Phase
  | .settle => .settle
  | .refund => .refund

/-- Funding source of a reservation. -/
inductive BillingSource where
  | free
  | wallet
  | subscription
  | selfUse
  | token
  deriving DecidableEq, Repr

/-- Normalised billing preference; `direct` marks direct token receipts. -/
inductive BillingPreference where
  | walletOnly
  | subscriptionOnly
  | walletFirst
  | subscriptionFirst
  | direct
  deriving DecidableEq, Repr

/-- Stored text of a billing preference. -/
def BillingPreference.text : BillingPreference → String
  | .walletOnly => "wallet_only"
  | .subscriptionOnly => "subscription_only"
  | .walletFirst => "wallet_first"
  | .subscriptionFirst => "subscription_first"
  | .direct => "direct"

/-- `common.NormalizeBillingPreference`: unknown text falls back to `subscription_first`. -/
def normalizeBillingPreference (preference : String) : BillingPreference :=
  match trimSpace preference with
  | "wallet_only" => .walletOnly
  | "subscription_only" => .subscriptionOnly
  | "wallet_first" => .walletFirst
  | _ => .subscriptionFirst

/-- State of a lifecycle obligation (`model/account_quota_recovery.go:16–25`). -/
inductive ObligationState where
  | open
  | usageUnknown
  | refundPending
  | claimed
  | retryable
  | applied
  | manual
  | legacyPending
  deriving DecidableEq, Repr

/-- Writer mode (`model/quota_writer_epoch.go:24–28`). -/
inductive QuotaWriterMode where
  | legacy
  | bridge
  | authoritative
  deriving DecidableEq, Repr

/-- Subscription status. -/
inductive SubscriptionStatus where
  | active
  | expired
  | cancelled
  deriving DecidableEq, Repr

/-- Errors of the ledger, one constructor per error value the code returns. `duplicateKey`
is a unique index violation, `database` any failure of the database itself. -/
inductive LedgerError where
  | invalidInput
  | conflict
  | notFound
  | terminal
  | ineligible
  | insufficient
  | casLost
  | staleReceipt
  | recordNotFound
  | recoveryConflict
  | usageUnresolved
  | writerEpochUnavailable
  | writerEpochMismatch
  | durableWriterModeDisabled
  | projectionModeDisabled
  | backfillIncomplete
  | workIncomplete
  | usagePolicyInvalid
  | fundingUnavailable
  | invalidPlan
  | subscriptionOutOfRange
  | projectionConflict
  | duplicateKey
  | database
  deriving DecidableEq, Repr

/-! ### Billing context and fingerprints -/

/-- `AccountBillingContext` (`model/account_quota_mutation.go:49–60`). -/
structure AccountBillingContext where
  version : Int := 0
  modelName : String := ""
  originModelName : String := ""
  usingGroup : String := ""
  billingPreference : Option BillingPreference := none
  channelID : Int := 0
  forcePreConsume : Bool := false
  playground : Bool := false
  freeModel : Bool := false
  metadata : List (String × String) := []
  deriving DecidableEq, Repr

/-- A stored fingerprint column: blank, a digest of an account payload, a digest of a
recovery payload, or any other text an earlier schema version left there. -/
inductive Fingerprint where
  | blank
  | account (version : Int) (requestID : String) (phase : Phase) (reserveReceiptID : Int)
      (reserveFingerprint : Fingerprint) (userID tokenID requestedQuota actualQuota : Int)
      (preference : Option BillingPreference) (playground : Bool) (auditKey : String)
      (billingContext : AccountBillingContext)
  | recovery (version : Int) (requestID : String) (reserveReceiptID : Int) (auditKey : String)
      (writerEpoch : Int)
  | earlier (text : String)
  deriving DecidableEq, Repr

/-- `accountQuotaFingerprintPayload` (`model/account_quota_mutation.go:245–259`). -/
structure FingerprintPayload where
  version : Int
  requestID : String
  phase : Phase
  reserveReceiptID : Int := 0
  reserveFingerprint : Fingerprint := .blank
  userID : Int
  tokenID : Int
  requestedQuota : Int := 0
  actualQuota : Int := 0
  preference : Option BillingPreference := none
  playground : Bool := false
  auditKey : String := ""
  billingContext : AccountBillingContext := {}
  deriving DecidableEq, Repr

/-- `AccountQuotaDeltas` (`model/account_quota_mutation.go:82–87`). -/
structure AccountQuotaDeltas where
  userQuota : Int := 0
  tokenRemainQuota : Int := 0
  tokenUsedQuota : Int := 0
  subscriptionAmountUsed : Int := 0
  deriving DecidableEq, Repr

/-! ### Account rows -/

/-- `User`, the columns that quota mutations read or write. -/
structure User where
  id : Int
  status : Int := 1
  quota : Int
  usedQuota : Int := 0
  quotaVersion : Int := 0
  selfUseNoBalance : Bool := false
  usagePolicyRevision : Int := 0
  deriving DecidableEq, Repr

/-- `Token`, the columns that quota mutations read or write. -/
structure Token where
  id : Int
  userID : Int
  status : Int := 1
  expiredTime : Int := -1
  accessedTime : Int := 0
  remainQuota : Int
  usedQuota : Int := 0
  quotaVersion : Int := 0
  unlimitedQuota : Bool := false
  deriving DecidableEq, Repr

/-- `UserSubscription` (`model/subscription.go:279–310`). -/
structure UserSubscription where
  id : Int
  userID : Int
  planID : Int
  amountTotal : Int
  amountUsed : Int := 0
  quotaVersion : Int := 0
  startTime : Int := 0
  endTime : Int
  status : SubscriptionStatus := .active
  lastResetTime : Int := 0
  nextResetTime : Int := 0
  allowWalletOverflow : Bool := true
  updatedAt : Int := 0
  deriving DecidableEq, Repr

/-- `SubscriptionPlan`, the columns that period resets read. -/
structure SubscriptionPlan where
  id : Int
  quotaResetPeriod : String := ""
  quotaResetCustomSeconds : Int := 0
  deriving DecidableEq, Repr

/-- `QuotaMutationUserSnapshot`, the quota columns (`model/quota_mutation.go:91–103`). -/
structure UserSnapshot where
  id : Int
  status : Int
  quota : Int
  usedQuota : Int
  quotaVersion : Int
  deriving DecidableEq, Repr

/-- `QuotaMutationTokenSnapshot`, the quota columns. -/
structure TokenSnapshot where
  id : Int
  userID : Int
  status : Int
  accessedTime : Int
  expiredTime : Int
  remainQuota : Int
  quotaVersion : Int
  unlimitedQuota : Bool
  usedQuota : Int
  deriving DecidableEq, Repr

/-- `QuotaMutationAccountSnapshot`; the subscription part is the row itself. -/
structure AccountSnapshot where
  user : UserSnapshot
  token : TokenSnapshot
  subscription : Option UserSubscription
  deriving DecidableEq, Repr

/-! ### Ledger rows -/

/-- `AccountQuotaMutationReceipt` (`model/account_quota_mutation.go:107–133`). -/
structure Receipt where
  id : Int := 0
  receiptVersion : Int
  fingerprintVersion : Int
  writerEpoch : Int
  requestID : String
  phase : Phase
  eventKey : String
  mutationSlot : String
  parentReceiptID : Int := 0
  auditKey : String := ""
  reserveFingerprint : Fingerprint
  requestFingerprint : Fingerprint
  billingSource : BillingSource
  billingPreference : BillingPreference
  userID : Int
  tokenID : Int
  subscriptionID : Int := 0
  requestedQuota : Int
  appliedQuota : Int
  requestedDeltas : AccountQuotaDeltas
  appliedDeltas : AccountQuotaDeltas
  before : AccountSnapshot
  after : AccountSnapshot
  billingContext : AccountBillingContext
  createdAt : Int := 0
  deriving DecidableEq, Repr

/-- `AccountQuotaReservationHead` (`model/account_quota_mutation.go:140–156`). -/
structure Head where
  id : Int := 0
  requestID : String
  writerEpoch : Int
  rootReceiptID : Int
  currentReceiptID : Int
  terminalReceiptID : Int := 0
  reserveFingerprint : Fingerprint
  userID : Int
  tokenID : Int
  subscriptionID : Int
  billingSource : BillingSource
  appliedQuota : Int
  lockVersion : Int
  deriving DecidableEq, Repr

/-- A decoded JSON member as far as the dispatch markers distinguish values. -/
inductive JsonMember where
  | null
  | bool (b : Bool)
  | int (n : Int)
  | string (s : String)
  | composite
  deriving DecidableEq, Repr

/-- The `review_metadata` column: empty, not a JSON object of at most 16384 bytes, or the
members of the object. -/
inductive ReviewMetadata where
  | empty
  | malformed
  | object (members : List (String × JsonMember))
  deriving DecidableEq, Repr

/-- `AccountQuotaTerminalRecoveryObligation` (`model/account_quota_recovery.go:41–61`). -/
structure Obligation where
  id : Int := 0
  requestID : String
  reserveReceiptID : Int
  phase : Option TerminalPhase := none
  auditKey : String := ""
  actualQuota : Int := 0
  writerEpoch : Int
  requestFingerprint : Fingerprint
  state : ObligationState
  terminalReceiptID : Int := 0
  attempts : Int := 0
  reviewMetadata : ReviewMetadata := .empty
  nextAttemptAt : Int := 0
  leaseOwner : String := ""
  leaseUntil : Int := 0
  lockVersion : Int
  deriving DecidableEq, Repr

/-- `QuotaProjectionObligation` of an account receipt, the columns that identify it. -/
structure ProjectionObligation where
  id : Int := 0
  receiptID : Int
  eventKey : String
  writerEpoch : Int
  userID : Int
  tokenID : Int
  expectedUserVersion : Int
  expectedTokenVersion : Int
  deriving DecidableEq, Repr

instance : Row User := ⟨User.id, fun i r => { r with id := i }, fun _ _ => rfl⟩
instance : Row Token := ⟨Token.id, fun i r => { r with id := i }, fun _ _ => rfl⟩
instance : Row UserSubscription :=
  ⟨UserSubscription.id, fun i r => { r with id := i }, fun _ _ => rfl⟩
instance : Row SubscriptionPlan :=
  ⟨SubscriptionPlan.id, fun i r => { r with id := i }, fun _ _ => rfl⟩
instance : Row Receipt := ⟨Receipt.id, fun i r => { r with id := i }, fun _ _ => rfl⟩
instance : Row Head := ⟨Head.id, fun i r => { r with id := i }, fun _ _ => rfl⟩
instance : Row Obligation := ⟨Obligation.id, fun i r => { r with id := i }, fun _ _ => rfl⟩
instance : Row ProjectionObligation :=
  ⟨ProjectionObligation.id, fun i r => { r with id := i }, fun _ _ => rfl⟩

/-! ### Database -/

/-- The validated `QuotaWriterEpoch` singleton: a stored epoch is positive
(`model/quota_writer_epoch.go:112–118`). -/
structure QuotaWriterEpoch where
  mode : QuotaWriterMode
  epoch : Int
  epoch_pos : 0 < epoch
  deriving DecidableEq, Repr

/-- `personalusage.FundingState`, what `readUserFundingStateTx` reads
(`pkg/personalusage/policy.go:15–18`). -/
structure FundingState where
  valid : Bool
  disabled : Bool
  deriving DecidableEq, Repr

/-- The tables and singletons that the ledger transactions read and write. `writer` is
`none` when the persisted writer state is missing or invalid; `balanceBackfillDone` is the
part of the maintenance gate that concerns batch generations. -/
structure DB where
  writer : Option QuotaWriterEpoch
  accountCursorComplete : Bool
  balanceBackfillDone : Bool
  funding : FundingState
  users : Table User
  tokens : Table Token
  subscriptions : Table UserSubscription
  plans : Table SubscriptionPlan
  receipts : Table Receipt
  heads : Table Head
  obligations : Table Obligation
  projections : Table ProjectionObligation

end MyApiSpec.Ledger
