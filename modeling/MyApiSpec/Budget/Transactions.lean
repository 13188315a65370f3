import MyApiSpec.Base.Store
import MyApiSpec.Budget.Fee
import MyApiSpec.Ledger.Fingerprint

/-!
# Token budget transactions

`model/token_budget.go:14–231, 361–809`. A token has at most one budget row and any number of
reservations. Three functions write them, each in one transaction that locks the token first:
`configureTokenBudget` changes the policy, `reserveTokenBudget` admits a request, and
`mutateTokenBudgetRequest` moves an admitted request on.
-/

namespace MyApiSpec.Budget

open Base
open Ledger (normalizeAccountRequestID)

/-! ### Rows -/

/-- `MaxTokenBudget`. -/
def maxTokenBudget : Int := 2 ^ 53 - 1

/-- `common.MaxQuota`. -/
def maxQuota : Int := 2 ^ 31 - 1

/-- The source of a verified request bound; every text other than the two known ones is
`unknown`. -/
inductive BoundSource where
  | openAIResponses
  | openAIChat
  | unknown
  deriving DecidableEq, Repr

/-- `TokenBudgetOpenAIChatModel`. -/
def openAIChatModel : String := "gpt-6.1-sol"

/-- `TokenBudgetOpenAIChatContext`. -/
def openAIChatContext : Int := 1050000

/-- `TokenBudgetOpenAIChatMaxOutput`. -/
def openAIChatMaxOutput : Int := 128000

/-- The states of a reservation. -/
inductive ReservationState where
  | prepared
  | sent
  | usageUnknown
  | settled
  | notSent
  deriving DecidableEq, Repr

/-- `AccountQuotaThresholdPolicyInput`. -/
structure ThresholdPolicyInput where
  enabled : Bool
  minimumRemainingBPS : Int
  maxAgeSeconds : Int
  deriving DecidableEq, Repr

/-- `FeeBudgetPolicyInput`. -/
structure FeePolicyInput where
  enabled : Bool
  limitUSD : String
  deriving DecidableEq, Repr

/-- `TokenBudgetPolicyInput`. -/
structure TokenBudgetPolicyInput where
  accountThreshold : Option ThresholdPolicyInput := none
  fee : Option FeePolicyInput := none
  id : String
  tokenID : Int
  expectedRevision : Int
  enabled : Bool
  limit : Int
  deriving DecidableEq, Repr

/-- `budgetDigest` of the four structures it is applied to; SHA-256 over their JSON text is taken
to be injective. -/
inductive BudgetDigest where
  | policy (actor : Int) (input : TokenBudgetPolicyInput)
  | cancel (request : String) (actor : Int) (evidence : String)
  | usage (request : String) (input output actor : Int) (evidence : String)
  | usageWithFee (tokenDigest : BudgetDigest) (feeUSD : String)
  deriving DecidableEq, Repr

/-- `TokenBudget`. -/
structure TokenBudget where
  accountThresholdEnabled : Bool := false
  accountMinRemainingBPS : Int := 2000
  accountMaxAgeSeconds : Int := 300
  feeEnabled : Bool := false
  feeLimitUSD : String := "0"
  feeUsedUSD : String := "0"
  feeReservedUSD : String := "0"
  tokenID : Int
  userID : Int
  enabled : Bool := false
  limit : Int := 0
  used : Int := 0
  reserved : Int := 0
  pendingRequestID : String := ""
  revision : Int := 0
  deriving DecidableEq, Repr

/-- `TokenBudgetReservation`; the digest of a row without evidence is empty. -/
structure TokenBudgetReservation where
  requestServiceTier : String := ""
  observedFeeUSD : Option String := none
  feeEnabled : Bool := false
  feeReservedUSD : String := "0"
  actualFeeUSD : Option String := none
  feePriceEvidence : String := ""
  pricingEvidence : String := ""
  boundSource : BoundSource
  requestID : String
  tokenID : Int
  userID : Int
  channelID : Int
  modelName : String
  payloadSHA256 : String
  inputTokens : Int
  maxOutputTokens : Int
  reserved : Int := 0
  state : ReservationState := .prepared
  actualInput : Option Int := none
  actualOutput : Option Int := none
  observedInput : Option Int := none
  observedOutput : Option Int := none
  reason : String := ""
  reviewedBy : Int := 0
  evidenceReference : String := ""
  evidenceDigest : Option BudgetDigest := none
  createdAt : Int := 0
  updatedAt : Int := 0
  deriving DecidableEq, Repr

/-- `TokenBudgetPolicyChange`, with the two budgets whose JSON text it stores. -/
structure TokenBudgetPolicyChange where
  id : String
  digest : BudgetDigest
  actorID : Int
  tokenID : Int
  before : TokenBudget
  after : TokenBudget
  createdAt : Int
  deriving DecidableEq, Repr

instance : Keyed Int TokenBudget := ⟨TokenBudget.tokenID⟩

instance : Keyed String TokenBudgetReservation := ⟨TokenBudgetReservation.requestID⟩

instance : Keyed String TokenBudgetPolicyChange := ⟨TokenBudgetPolicyChange.id⟩

/-- The three tables of the token budget. -/
structure DB where
  budgets : Store Int TokenBudget := .empty
  reservations : Store String TokenBudgetReservation := .empty
  policyChanges : Store String TokenBudgetPolicyChange := .empty

/-- The columns of a token row that a transaction reads. -/
structure TokenRow where
  userID : Int
  enabled : Bool := true
  expiredTime : Int := -1
  deleted : Bool := false
  deriving DecidableEq, Repr

/-- The columns of a user row that a transaction reads. -/
structure UserRow where
  root : Bool := false
  enabled : Bool := true
  deriving DecidableEq, Repr

/-- What a transaction reads beside the budget tables: the row of the token, the users, whether the
token has an allocation in an enabled subscription-share pool, the clocks of the process and of the
database, and which texts are JSON objects with a canonical digest. -/
structure Reads where
  token : Option TokenRow
  user : Int → Option UserRow
  shareBound : Bool := false
  now : Int := 0
  databaseTime : Int := 0
  canonicalObject : String → Bool := fun _ => true

/-! ### Checks -/

/-- `validBudgetDigest`: the lower-case hexadecimal text of 32 bytes. -/
def validBudgetDigest (value : String) : Bool :=
  value.toList.length = 64 &&
    value.toList.all (fun c => c.isDigit || ('a'.toNat ≤ c.toNat && c.toNat ≤ 'f'.toNat))

/-- `common.ValidAccountQuotaThreshold`. -/
def validAccountQuotaThreshold (minimumRemainingBPS maxAgeSeconds : Int) : Bool :=
  0 ≤ minimumRemainingBPS && minimumRemainingBPS ≤ 10000 && 30 ≤ maxAgeSeconds && maxAgeSeconds ≤ 3600

/-- `validateFeeBudgetState` (`model/fee_budget.go:46–59`). -/
def validateFeeBudgetState (budget : TokenBudget) : Except BudgetError Unit := do
  check (validAccountQuotaThreshold budget.accountMinRemainingBPS budget.accountMaxAgeSeconds)
    .thresholdInvalid
  check (¬ (budget.accountThresholdEnabled ∧ (budget.enabled ∨ budget.feeEnabled)))
    .thresholdCombination
  let _ ← feeBudgetDecimal budget.feeLimitUSD
  let _ ← feeBudgetDecimal budget.feeUsedUSD
  let _ ← feeBudgetDecimal budget.feeReservedUSD

/-- `authorizeUsageReviewer` (`model/account_quota_usage_review.go:170–179`). -/
def authorizeUsageReviewer (rd : Reads) (actorID : Int) : Except BudgetError Unit := do
  let actor ← need (rd.user actorID) .recordNotFound
  check (actor.root ∧ actor.enabled) .ineligible

/-- The read of the token row; a deleted row is seen by an unscoped read only. -/
def Reads.firstToken (rd : Reads) (unscoped : Bool) : Option TokenRow :=
  rd.token.filter (fun token => unscoped || !token.deleted)

/-- `eligibleTokenBudgetSubject`. -/
def eligibleTokenBudgetSubject (rd : Reads) (userID : Int) : Except BudgetError Unit := do
  let token ← need (rd.firstToken false) .recordNotFound
  let user ← need (rd.user userID) .recordNotFound
  check (token.userID = userID ∧ token.enabled ∧ user.enabled ∧
    (token.expiredTime = -1 ∨ rd.now ≤ token.expiredTime)) .ineligible

/-- The budget of a token without a row. -/
def unconfigured (tokenID userID : Int) : TokenBudget := { tokenID := tokenID, userID := userID }

/-- The range checks on a stored row. -/
def TokenBudget.InRange (b : TokenBudget) : Prop :=
  0 ≤ b.limit ∧ 0 ≤ b.used ∧ 0 ≤ b.reserved ∧ b.limit ≤ maxTokenBudget ∧ b.used ≤ maxTokenBudget ∧
    b.reserved ≤ maxTokenBudget ∧ 0 < b.revision ∧ b.revision < maxTokenBudget

instance (b : TokenBudget) : Decidable b.InRange := inferInstanceAs (Decidable (_ ∧ _))

/-- `lockTokenBudget`. -/
def lockTokenBudget (db : DB) (rd : Reads) (tokenID : Int) (allowDeleted : Bool) :
    Except BudgetError TokenBudget := do
  check (0 < tokenID) .invalid
  let token ← need (rd.firstToken allowDeleted) .recordNotFound
  match db.budgets.get? tokenID with
  | none => pure (unconfigured tokenID token.userID)
  | some budget =>
    check (budget.userID = token.userID) .conflict
    check budget.InRange .conflict
    validateFeeBudgetState budget
    pure budget

/-- `saveTokenBudget`. An update writes every column but the keys, under the previous revision. -/
def saveTokenBudget (db : DB) (budget : TokenBudget) (previous : Int) : Except BudgetError DB :=
  if previous = 0 then do
    let budgets ← need (db.budgets.create budget) .duplicatedKey
    pure { db with budgets := budgets }
  else
    match db.budgets.get? budget.tokenID with
    | some stored => do
      check (stored.revision = previous) .conflict
      pure { db with budgets := db.budgets.set { budget with userID := stored.userID } }
    | none => .error .conflict

/-! ### Policy -/

/-- The validation and normalisation before the transaction. -/
def normalizePolicyInput (input : TokenBudgetPolicyInput) :
    Except BudgetError TokenBudgetPolicyInput := do
  check (validBudgetDigest input.id ∧ 0 < input.tokenID ∧ 0 ≤ input.expectedRevision ∧
    0 ≤ input.limit ∧ input.limit ≤ maxTokenBudget) .invalid
  match input.accountThreshold with
  | some threshold =>
    check (validAccountQuotaThreshold threshold.minimumRemainingBPS threshold.maxAgeSeconds)
      .thresholdInvalid
  | none => pure ()
  match input.fee with
  | some fee => do
    let limitUSD ← normalizeFeeBudgetUSD fee.limitUSD
    pure { input with fee := some { fee with limitUSD := limitUSD } }
  | none => pure input

/-- The fee part of a new policy. -/
def applyFeePolicy (budget : TokenBudget) : Option FeePolicyInput → Except BudgetError TokenBudget
  | none => pure budget
  | some fee => do
    if fee.enabled then feeBudgetFits fee.limitUSD budget.feeUsedUSD "0"
    pure { budget with feeEnabled := fee.enabled, feeLimitUSD := fee.limitUSD }

/-- The threshold part of a new policy. -/
def applyThresholdPolicy (budget : TokenBudget) : Option ThresholdPolicyInput → TokenBudget
  | none => budget
  | some threshold =>
    { budget with
      accountThresholdEnabled := threshold.enabled
      accountMinRemainingBPS := threshold.minimumRemainingBPS
      accountMaxAgeSeconds := threshold.maxAgeSeconds }

/-- The new policy of a budget without a pending request. -/
def applyPolicy (rd : Reads) (budget : TokenBudget) (input : TokenBudgetPolicyInput) :
    Except BudgetError TokenBudget := do
  check (budget.revision = input.expectedRevision) .conflict
  check (budget.pendingRequestID = "") .pending
  check (¬ (input.enabled ∧ input.limit < budget.used)) .exceeded
  let withFee ← applyFeePolicy budget input.fee
  let next := applyThresholdPolicy withFee input.accountThreshold
  check (¬ (next.accountThresholdEnabled ∧ (input.enabled ∨ next.feeEnabled))) .thresholdCombination
  check (¬ ((input.enabled ∨ next.feeEnabled) ∧ rd.shareBound)) .shareConflict
  pure { next with enabled := input.enabled, limit := input.limit, revision := budget.revision + 1 }

/-- `ConfigureTokenBudget`. The receipt of an earlier call with the same id and content is answered
with the budget as it is now. -/
def configureTokenBudget (db : DB) (rd : Reads) (actorID : Int) (request : TokenBudgetPolicyInput) :
    Except BudgetError (DB × TokenBudget) := do
  let input ← normalizePolicyInput request
  let digest := BudgetDigest.policy actorID input
  authorizeUsageReviewer rd actorID
  let budget ← lockTokenBudget db rd input.tokenID false
  match db.policyChanges.get? input.id with
  | some old =>
    check (old.digest = digest) .conflict
    pure (db, budget)
  | none =>
    let next ← applyPolicy rd budget input
    let saved ← saveTokenBudget db next budget.revision
    let changes ← need (saved.policyChanges.create
      ⟨input.id, digest, actorID, input.tokenID, budget, next, rd.databaseTime⟩) .duplicatedKey
    pure ({ saved with policyChanges := changes }, next)

/-! ### Admission -/

/-- The checks of `ReserveTokenBudget` before its transaction. -/
def validateReservationInput (input : TokenBudgetReservation) : Except BudgetError Unit := do
  check (normalizeAccountRequestID input.requestID = .ok input.requestID ∧ 0 < input.userID ∧
    0 < input.tokenID ∧ 0 < input.channelID ∧ input.modelName ≠ "" ∧
    input.modelName.utf8ByteSize ≤ 512 ∧ input.pricingEvidence.utf8ByteSize ≤ 16384 ∧
    input.boundSource ≠ .unknown ∧ validBudgetDigest input.payloadSHA256 ∧ 0 ≤ input.inputTokens ∧
    input.inputTokens ≤ maxQuota ∧ 0 < input.maxOutputTokens ∧ input.maxOutputTokens ≤ maxQuota) .invalid
  check (input.boundSource = .openAIChat → input.modelName = openAIChatModel ∧
    input.inputTokens = openAIChatContext ∧ input.maxOutputTokens ≤ openAIChatMaxOutput) .invalid

/-- The tokens that a request reserves; a chat context holds input and output together. -/
def reservationBound (input : TokenBudgetReservation) : Int :=
  if input.boundSource = .openAIChat then openAIChatContext
  else input.inputTokens + input.maxOutputTokens

/-- The fee that a request reserves. -/
def reservationFee (rd : Reads) (budget : TokenBudget) (input : TokenBudgetReservation) :
    Except BudgetError String :=
  if budget.feeEnabled then do
    check (input.requestServiceTier = "default") .feeInvalid
    check (input.feePriceEvidence ≠ "" ∧ input.feePriceEvidence.utf8ByteSize ≤ 16384) .feeInvalid
    check (rd.canonicalObject input.feePriceEvidence) .feeInvalid
    feeBudgetFits budget.feeLimitUSD budget.feeUsedUSD input.feeReservedUSD
    pure input.feeReservedUSD
  else do
    check ((input.feeReservedUSD = "" ∨ input.feeReservedUSD = "0") ∧ input.feePriceEvidence = "")
      .feeInvalid
    pure "0"

/-- The row of an admitted request. Terminal columns, times and the state are not taken from the
caller. -/
def admittedRow (rd : Reads) (budget : TokenBudget) (input : TokenBudgetReservation)
    (feeReserved : String) : TokenBudgetReservation :=
  { requestServiceTier := input.requestServiceTier
    feeEnabled := budget.feeEnabled
    feeReservedUSD := feeReserved
    feePriceEvidence := input.feePriceEvidence
    pricingEvidence := input.pricingEvidence
    boundSource := input.boundSource
    requestID := input.requestID
    tokenID := input.tokenID
    userID := input.userID
    channelID := input.channelID
    modelName := input.modelName
    payloadSHA256 := input.payloadSHA256
    inputTokens := input.inputTokens
    maxOutputTokens := input.maxOutputTokens
    reserved := reservationBound input
    state := .prepared
    createdAt := rd.databaseTime
    updatedAt := rd.databaseTime }

/-- `ReserveTokenBudget`. -/
def reserveTokenBudget (db : DB) (rd : Reads) (input : TokenBudgetReservation) :
    Except BudgetError DB := do
  validateReservationInput input
  let budget ← lockTokenBudget db rd input.tokenID false
  check ((budget.enabled ∨ budget.feeEnabled) ∧ budget.userID = input.userID) .conflict
  eligibleTokenBudgetSubject rd input.userID
  check ((db.reservations.get? input.requestID).isNone) .duplicate
  check (budget.pendingRequestID = "" ∧ budget.reserved = 0) .pending
  let bound := reservationBound input
  check (budget.enabled → budget.used ≤ budget.limit ∧ bound ≤ budget.limit - budget.used) .exceeded
  check (budget.feeEnabled = input.feeEnabled) .conflict
  let feeReserved ← reservationFee rd budget input
  let reservations ← need (db.reservations.create (admittedRow rd budget input feeReserved))
    .duplicatedKey
  saveTokenBudget { db with reservations := reservations }
    { budget with
      pendingRequestID := input.requestID
      reserved := bound
      revision := budget.revision + 1
      feeReservedUSD := feeReserved } budget.revision

/-! ### Requests -/

/-- The actions on an admitted request; every text other than the five known ones is `unknown`. -/
inductive BudgetAction where
  | send
  | cancel
  | hold
  | settle
  | reconcile
  | unknown
  deriving DecidableEq, Repr

/-- `TokenBudgetMutation`. -/
structure TokenBudgetMutation where
  feeUSD : Option String := none
  tokenID : Int
  requestID : String
  action : BudgetAction
  input : Int := 0
  output : Int := 0
  actorID : Int := 0
  evidence : String := ""
  reason : String := ""
  deriving DecidableEq, Repr

/-- The action ends the request with reported usage. -/
def BudgetAction.terminal (a : BudgetAction) : Bool := a = .settle || a = .reconcile

/-- The action is a decision of a reviewer. -/
def TokenBudgetMutation.manual (m : TokenBudgetMutation) : Bool :=
  m.action = .reconcile || (m.action = .cancel && 0 < m.actorID)

/-- The checks by action before the transaction. -/
def validateAction (m : TokenBudgetMutation) : Except BudgetError Unit :=
  match m.action with
  | .send | .hold => check (m.actorID = 0 ∧ m.evidence = "") .invalid
  | .cancel => check (0 ≤ m.actorID ∧ ¬ (m.actorID = 0 ∧ m.evidence ≠ "")) .invalid
  | .settle | .reconcile =>
    check (0 ≤ m.input ∧ 0 ≤ m.output ∧ m.input ≤ maxTokenBudget ∧ m.output ≤ maxTokenBudget - m.input)
      .invalid
  | .unknown => .error .invalid

/-- The normal form of the reported fee. -/
def normalizeMutationFee (m : TokenBudgetMutation) : Except BudgetError TokenBudgetMutation :=
  match m.feeUSD with
  | none => pure m
  | some fee => do
    check m.action.terminal .feeInvalid
    let normalized ← normalizeFeeBudgetUSD fee
    pure { m with feeUSD := some normalized }

/-- The validation and normalisation before the transaction. -/
def normalizeMutation (request : TokenBudgetMutation) : Except BudgetError TokenBudgetMutation := do
  check (normalizeAccountRequestID request.requestID = .ok request.requestID ∧ 0 < request.tokenID)
    .invalid
  validateAction request
  let withFee ← normalizeMutationFee request
  let m := { withFee with evidence := trimSpace withFee.evidence }
  check (m.manual → 0 < m.actorID ∧ m.evidence ≠ "" ∧ m.evidence.utf8ByteSize ≤ 2048) .invalid
  check (m.action = .settle → m.actorID = 0 ∧ m.evidence = "") .invalid
  check (m.reason.utf8ByteSize ≤ 64) .invalid
  pure m

/-- Whether reported usage is what the bound of the request allows. -/
def withinBound (row : TokenBudgetReservation) (m : TokenBudgetMutation) : Except BudgetError Bool :=
  match row.boundSource with
  | .openAIResponses => pure (m.input = row.inputTokens && m.output ≤ row.maxOutputTokens)
  | .openAIChat =>
    pure (row.modelName = openAIChatModel && row.inputTokens = openAIChatContext &&
      row.reserved = openAIChatContext && row.maxOutputTokens ≤ openAIChatMaxOutput &&
      m.input ≤ row.inputTokens && m.output ≤ row.maxOutputTokens && m.input + m.output ≤ row.reserved)
  | .unknown => .error .conflict

/-- What reported usage leads to: a mismatch with the bound, which keeps the request open, or a
charge. -/
inductive Verdict where
  | mismatch (reason : String) (observedFeeUSD : Option String)
  | charge (feeUsedUSD : String) (actualFeeUSD : Option String)
  deriving DecidableEq, Repr

/-- The bounds that a settlement is held to and a reconciliation is not, and the new fee sum. -/
def usageVerdict (budget : TokenBudget) (row : TokenBudgetReservation) (m : TokenBudgetMutation) :
    Except BudgetError Verdict := do
  let within ← withinBound row m
  if m.action = .settle ∧ within = false then pure (.mismatch "bound_mismatch" none)
  else if row.feeEnabled then do
    let fee ← need m.feeUSD .feeInvalid
    let actualFee ← feeBudgetDecimal fee
    let reservedFee ← feeBudgetDecimal row.feeReservedUSD
    if m.action = .settle ∧ actualFee.greaterThan reservedFee then
      pure (.mismatch "fee_bound_mismatch" (some fee))
    else do
      let feeUsed ← feeBudgetAdd budget.feeUsedUSD fee
      pure (.charge feeUsed (some fee))
  else pure (.charge budget.feeUsedUSD none)

/-- The digest of the evidence of a settled row. -/
def usageDigest (row : TokenBudgetReservation) (m : TokenBudgetMutation) : BudgetDigest :=
  let tokenDigest := BudgetDigest.usage m.requestID m.input m.output m.actorID m.evidence
  if row.feeEnabled then .usageWithFee tokenDigest (m.feeUSD.getD "") else tokenDigest

/-- The row of a settled request. -/
def settledRow (row : TokenBudgetReservation) (m : TokenBudgetMutation) (actualFee : Option String) :
    TokenBudgetReservation :=
  { row with
    state := .settled
    actualInput := some m.input
    actualOutput := some m.output
    actualFeeUSD := if row.feeEnabled then actualFee else row.actualFeeUSD
    reviewedBy := m.actorID
    evidenceReference := m.evidence
    evidenceDigest := some (usageDigest row m) }

/-- The row of a request whose reported usage exceeds its bound. -/
def mismatchedRow (row : TokenBudgetReservation) (m : TokenBudgetMutation) (reason : String)
    (observedFee : Option String) : TokenBudgetReservation :=
  { row with
    state := .usageUnknown
    reason := reason
    observedInput := some m.input
    observedOutput := some m.output
    observedFeeUSD := observedFee.or row.observedFeeUSD }

/-- The row of a cancelled request. -/
def cancelledRow (row : TokenBudgetReservation) (m : TokenBudgetMutation) : TokenBudgetReservation :=
  if m.manual then
    { row with
      state := .notSent
      reviewedBy := m.actorID
      evidenceReference := m.evidence
      evidenceDigest := some (.cancel m.requestID m.actorID m.evidence) }
  else { row with state := .notSent }

/-- The switch over the actions: the budget, the row and the error that is reported although the
transaction commits. -/
def applyAction (rd : Reads) (budget : TokenBudget) (row : TokenBudgetReservation)
    (m : TokenBudgetMutation) :
    Except BudgetError (TokenBudget × TokenBudgetReservation × Option BudgetError) :=
  match m.action with
  | .send => do
    check (row.state = .prepared) .duplicate
    eligibleTokenBudgetSubject rd row.userID
    pure (budget, { row with state := .sent }, none)
  | .cancel => do
    check (row.state = .prepared) .pending
    pure (budget, cancelledRow row m, none)
  | .hold => do
    check (row.state = .sent ∨ row.state = .usageUnknown) .conflict
    pure (budget, { row with state := .usageUnknown, reason := m.reason }, none)
  | .settle | .reconcile => do
    check (m.action = .settle → row.state = .sent) .pending
    check (m.action = .reconcile → row.state = .sent ∨ row.state = .usageUnknown) .conflict
    match ← usageVerdict budget row m with
    | .mismatch reason observedFee =>
      pure (budget, mismatchedRow row m reason observedFee, some .bound)
    | .charge feeUsed actualFee =>
      check (budget.used ≤ maxTokenBudget - (m.input + m.output)) .invalid
      pure ({ budget with feeUsedUSD := feeUsed, used := budget.used + (m.input + m.output) },
        settledRow row m actualFee, none)
  | .unknown => pure (budget, row, none)

/-- The replay of a settled request. -/
def replaysSettled (row : TokenBudgetReservation) (m : TokenBudgetMutation) : Prop :=
  m.action.terminal ∧ row.actualInput = some m.input ∧ row.actualOutput = some m.output ∧
    row.reviewedBy = m.actorID ∧ row.evidenceReference = m.evidence ∧
    (row.feeEnabled → row.actualFeeUSD.isSome ∧ row.actualFeeUSD = m.feeUSD)

instance (row : TokenBudgetReservation) (m : TokenBudgetMutation) : Decidable (replaysSettled row m) :=
  inferInstanceAs (Decidable (_ ∧ _))

/-- What a committed mutation did. -/
inductive MutationOutcome where
  | replayed (row : TokenBudgetReservation)
  | applied (db : DB) (row : TokenBudgetReservation) (reported : Option BudgetError)

/-- The budget behind a mutation; a terminal request no longer holds a reservation. -/
def releasedBudget (budget : TokenBudget) (row : TokenBudgetReservation) : TokenBudget :=
  if row.state = .settled ∨ row.state = .notSent then
    { budget with pendingRequestID := "", reserved := 0, feeReservedUSD := "0" }
  else budget

/-- The mutation of the request that the budget names as pending. -/
def applyMutation (db : DB) (rd : Reads) (budget : TokenBudget) (row : TokenBudgetReservation)
    (m : TokenBudgetMutation) : Except BudgetError MutationOutcome := do
  let (charged, moved, reported) ← applyAction rd budget row m
  let next := { moved with updatedAt := rd.databaseTime }
  -- the guarded update finds the row that was locked above in its previous state
  let stored ← need (db.reservations.get? m.requestID) .conflict
  check (stored.state = row.state) .conflict
  let released := releasedBudget charged next
  let saved ← saveTokenBudget { db with reservations := db.reservations.set next }
    { released with revision := released.revision + 1 } released.revision
  pure (.applied saved next reported)

/-- The transaction of a mutation behind the check of the reviewer. -/
def mutateLocked (db : DB) (rd : Reads) (m : TokenBudgetMutation) :
    Except BudgetError MutationOutcome := do
  let budget ← lockTokenBudget db rd m.tokenID true
  let row ← need (db.reservations.get? m.requestID) .recordNotFound
  check (row.tokenID = m.tokenID ∧ row.userID = budget.userID) .conflict
  check (m.action.terminal → row.feeEnabled = m.feeUSD.isSome) .feeInvalid
  if row.state = .settled then do
    check (replaysSettled row m) .conflict
    pure (.replayed row)
  else if row.state = .notSent ∧ m.action = .cancel then do
    check (row.reviewedBy = m.actorID ∧ row.evidenceReference = m.evidence) .conflict
    pure (.replayed row)
  else do
    check (budget.pendingRequestID = m.requestID ∧ budget.reserved = row.reserved ∧
      budget.feeEnabled = row.feeEnabled ∧ budget.feeReservedUSD = row.feeReservedUSD) .conflict
    if row.state = .usageUnknown ∧ m.action = .hold then pure (.replayed row)
    else applyMutation db rd budget row m

/-- `MutateTokenBudgetRequest`. -/
def mutateTokenBudgetRequest (db : DB) (rd : Reads) (request : TokenBudgetMutation) :
    Except BudgetError MutationOutcome := do
  let m ← normalizeMutation request
  if m.manual then authorizeUsageReviewer rd m.actorID
  mutateLocked db rd m

end MyApiSpec.Budget
