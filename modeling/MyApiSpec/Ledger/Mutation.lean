import Mathlib.Tactic.MkIffOfInductiveProp
import MyApiSpec.Ledger.Account

/-!
# Ledger transactions

The reserve, extend and terminal transactions of `model/account_quota_mutation.go:545–1300`
with the lifecycle updates they make in `model/account_quota_recovery.go:131–225`. Each
transaction is a function from the database it locked to the database it commits; an error
rolls back. The checks that a call makes before it opens the transaction are separate
functions, because other transactions can commit in between.
-/

namespace MyApiSpec.Ledger

open Base

/-! ### Dispatch markers -/

/-- `TextDispatchPending` (`model/text_dispatch.go:14–31`). -/
def textDispatchPending : ReviewMetadata → Except LedgerError Bool
  | .empty => .ok false
  | .malformed => .error .usageUnresolved
  | .object members =>
    match members.lookup "text_dispatch_pending" with
    | none => .ok false
    | some (.bool pending) => .ok pending
    | some _ => .error .usageUnresolved

/-- `RealtimeDispatchPending` (`model/text_dispatch.go:35–61`). -/
def realtimeDispatchPending (metadata : ReviewMetadata) : Except LedgerError Bool := do
  let pending ← textDispatchPending metadata
  if pending = false then return false
  else
    match metadata with
    | .empty | .malformed => return false
    | .object members => do
      let version ← match members.lookup "version" with
        | none | some .null => (.ok 0 : Except LedgerError Int)
        | some (.int n) => .ok n
        | some _ => .error .usageUnresolved
      let protocol ← match members.lookup "dispatch_protocol" with
        | none | some .null => (.ok none : Except LedgerError (Option String))
        | some (.string s) => .ok (some s)
        | some _ => .error .usageUnresolved
      match protocol with
      | none => return false
      | some protocol => do
        check (version = 1 ∧ protocol = "openai_realtime") .usageUnresolved
        check (members.lookup "strict_token_budget" = none ∨
          members.lookup "strict_token_budget" = some (.bool false)) .usageUnresolved
        return true

/-! ### Receipts, heads and replay -/

/-- Byte length of a stored fingerprint. -/
def Fingerprint.length : Fingerprint → Nat
  | .blank => 0
  | .account .. => 64
  | .recovery .. => 64
  | .earlier text => text.utf8ByteSize

/-- `findAccountQuotaReceiptByEvent` (`model/account_quota_mutation.go:343–353`). -/
def findAccountQuotaReceiptByEvent (db : DB) (eventKey : String) : Option Receipt :=
  db.receipts.find? (fun r => r.eventKey = eventKey)

/-- `FindAccountQuotaTerminalReceipt` on a normalised id
(`model/account_quota_mutation.go:363–377`). -/
def findAccountQuotaTerminalReceipt (db : DB) (requestID : String) : Option Receipt :=
  db.receipts.find? (fun r => r.mutationSlot = accountQuotaMutationSlot requestID .settle)

/-- `findAccountQuotaReservationHead` (`model/account_quota_mutation.go:798–808`). -/
def findAccountQuotaReservationHead (db : DB) (requestID : String) : Except LedgerError Head :=
  need (db.heads.find? (fun h => h.requestID = requestID)) .notFound

/-- `accountQuotaReplay` (`model/account_quota_mutation.go:565–578`). -/
def accountQuotaReplay (db : DB) (eventKey : String) (fingerprint : Fingerprint) :
    Except LedgerError (Option Receipt) :=
  match findAccountQuotaReceiptByEvent db eventKey with
  | none => .ok none
  | some r =>
    if r.requestFingerprint ≠ fingerprint then .error .conflict
    else if ¬ r.Sealed then .error .conflict
    else .ok (some r)

/-- Creation of a receipt behind its create hook and its two unique indexes
(`model/account_quota_mutation.go:164–181`). -/
def createReceipt (db : DB) (receipt : Receipt) (now : Int) :
    Except LedgerError (DB × Receipt) := do
  check (receipt.receiptVersion = accountQuotaMutationReceiptVersion ∧
    receipt.fingerprintVersion = accountQuotaFingerprintVersion ∧ 0 < receipt.writerEpoch ∧
    receipt.requestID ≠ "" ∧ receipt.eventKey ≠ "" ∧ receipt.mutationSlot ≠ "" ∧
    receipt.reserveFingerprint.length = 64 ∧ receipt.requestFingerprint.length = 64 ∧
    0 < receipt.userID ∧ 0 < receipt.tokenID) .invalidInput
  check (∀ r ∈ db.receipts.rows,
    r.eventKey ≠ receipt.eventKey ∧ r.mutationSlot ≠ receipt.mutationSlot) .duplicateKey
  let stored := { receipt with id := db.receipts.nextId, createdAt := now }
  return ({ db with receipts := db.receipts.insert stored }, stored)

/-- Creation of a reservation head; the request id is unique. -/
def createHead (db : DB) (head : Head) : Except LedgerError (DB × Head) := do
  check (∀ h ∈ db.heads.rows, h.requestID ≠ head.requestID) .duplicateKey
  let stored := { head with id := db.heads.nextId }
  return ({ db with heads := db.heads.insert stored }, stored)

/-- The loop of `accountQuotaReceiptInChain` (`model/account_quota_mutation.go:815–828`). -/
def chainWalk (db : DB) (head : Head) (receiptID : Int) : Nat → Int → Except LedgerError Bool
  | 0, _ => .ok false
  | depth + 1, currentID =>
    if 0 < currentID then do
      let receipt ← need (db.receipts.get? currentID) .recordNotFound
      check (receipt.requestID = head.requestID ∧
        receipt.reserveFingerprint = head.reserveFingerprint ∧ receipt.Sealed) .staleReceipt
      if currentID = receiptID then return true
      else chainWalk db head receiptID depth receipt.parentReceiptID
    else .ok false

/-- Depth bound of the chain walk. -/
def chainDepth : Nat := 1024

/-- `accountQuotaReceiptInChain` (`model/account_quota_mutation.go:810–830`). -/
def accountQuotaReceiptInChain (db : DB) (head : Head) (receiptID : Int) :
    Except LedgerError Bool := do
  check (0 < receiptID) .invalidInput
  chainWalk db head receiptID chainDepth head.currentReceiptID

/-- The columns that `validateAccountQuotaHeadReceipt` compares. -/
@[mk_iff]
structure HeadMatches (head : Head) (receipt : Receipt) : Prop where
  id : receipt.id = head.currentReceiptID
  requestID : receipt.requestID = head.requestID
  writerEpoch : receipt.writerEpoch = head.writerEpoch
  userID : receipt.userID = head.userID
  tokenID : receipt.tokenID = head.tokenID
  subscriptionID : receipt.subscriptionID = head.subscriptionID
  billingSource : receipt.billingSource = head.billingSource
  reserveFingerprint : receipt.reserveFingerprint = head.reserveFingerprint
  appliedQuota : receipt.appliedQuota = head.appliedQuota
  fingerprint : receipt.Sealed

instance (head : Head) (receipt : Receipt) : Decidable (HeadMatches head receipt) :=
  decidable_of_iff _ (headMatches_iff head receipt).symm

/-- `validateAccountQuotaHeadReceipt` (`model/account_quota_mutation.go:832–844`). -/
def validateAccountQuotaHeadReceipt (head : Head) (receipt : Receipt) : Except LedgerError Unit :=
  check (HeadMatches head receipt) .conflict

/-! ### Lifecycle obligation -/

/-- The obligation of a request. -/
def findObligation (db : DB) (requestID : String) : Option Obligation :=
  db.obligations.find? (fun o => o.requestID = requestID)

/-- Creation of an obligation row; the request id is unique. -/
def createObligation (db : DB) (o : Obligation) : Except LedgerError DB := do
  check (∀ x ∈ db.obligations.rows, x.requestID ≠ o.requestID) .duplicateKey
  return { db with obligations := db.obligations.insert o }

/-- `createAccountQuotaLifecycleObligation` (`model/account_quota_recovery.go:131–151`). -/
def createAccountQuotaLifecycleObligation (db : DB) (head : Head) (reserve : Receipt) :
    Except LedgerError DB := do
  check (head.requestID = reserve.requestID ∧ head.writerEpoch = reserve.writerEpoch ∧
    head.currentReceiptID = reserve.id ∧
    head.reserveFingerprint = reserve.reserveFingerprint) .recoveryConflict
  createObligation db
    { requestID := reserve.requestID, reserveReceiptID := reserve.id
      writerEpoch := reserve.writerEpoch, requestFingerprint := reserve.reserveFingerprint
      state := .open, lockVersion := 1 }

/-- `updateAccountQuotaLifecycleReservation` (`model/account_quota_recovery.go:153–179`). -/
def updateAccountQuotaLifecycleReservation (db : DB) (head : Head) (receipt : Receipt) :
    Except LedgerError DB := do
  let o ← need (findObligation db head.requestID) .recordNotFound
  check (o.state = .open ∧ o.writerEpoch = head.writerEpoch ∧
    o.requestFingerprint = head.reserveFingerprint ∧ 0 < o.lockVersion) .terminal
  -- both readings fail closed on malformed evidence with the same error
  let pending ← textDispatchPending o.reviewMetadata
  let realtime ← realtimeDispatchPending o.reviewMetadata
  check (pending = false ∨ realtime = true) .usageUnresolved
  let obligations ← need (db.obligations.cas o.id
    (fun x => x.state = .open ∧ x.lockVersion = o.lockVersion)
    (fun x => { x with reserveReceiptID := receipt.id, lockVersion := o.lockVersion + 1 })) .casLost
  return { db with obligations := obligations }

/-- `AccountQuotaTerminalInput`, the fields the ledger reads. -/
structure TerminalInput where
  requestID : String
  reserveReceiptID : Int
  actualQuota : Int := 0
  auditKey : String := ""
  deriving DecidableEq, Repr

/-- `accountQuotaTerminalRecoveryFingerprint` (`model/account_quota_recovery.go:76–86`). -/
def accountQuotaTerminalRecoveryFingerprint (input : TerminalInput) (writerEpoch : Int) :
    Fingerprint :=
  .recovery accountQuotaFingerprintVersion input.requestID input.reserveReceiptID input.auditKey
    writerEpoch

/-- The admission test of `closeAccountQuotaLifecycle` (`model/account_quota_recovery.go:186–207`). -/
def closeAdmission (o : Obligation) (head : Head) (input : TerminalInput) (phase : TerminalPhase) :
    Except LedgerError Unit :=
  match phase with
  | .settle => check (o.state = .open ∧ o.requestFingerprint = head.reserveFingerprint) .terminal
  | .refund => do
    let pending ← textDispatchPending o.reviewMetadata
    check (pending = false) .usageUnresolved
    if o.state = .open then
      check (o.requestFingerprint = head.reserveFingerprint) .recoveryConflict
    else if o.state = .refundPending ∨ o.state = .retryable ∨ o.state = .claimed then
      check (o.phase = some .refund ∧ o.auditKey = input.auditKey ∧
        o.reserveReceiptID = input.reserveReceiptID ∧
        o.requestFingerprint = accountQuotaTerminalRecoveryFingerprint input head.writerEpoch)
        .recoveryConflict
    else .error .terminal

/-- The obligation row that a terminal receipt closes. -/
def Obligation.close (o : Obligation) (input : TerminalInput) (phase : TerminalPhase)
    (terminal : Receipt) : Obligation :=
  { o with phase := some phase, auditKey := input.auditKey, actualQuota := input.actualQuota
           state := .applied, terminalReceiptID := terminal.id, nextAttemptAt := 0
           leaseOwner := "", leaseUntil := 0, lockVersion := o.lockVersion + 1 }

/-- `closeAccountQuotaLifecycle` (`model/account_quota_recovery.go:181–225`). -/
def closeAccountQuotaLifecycle (db : DB) (head : Head) (input : TerminalInput)
    (phase : TerminalPhase) (terminal : Receipt) : Except LedgerError DB := do
  let o ← need (findObligation db head.requestID) .recordNotFound
  check (o.writerEpoch = head.writerEpoch ∧ 0 < o.lockVersion) .recoveryConflict
  closeAdmission o head input phase
  let obligations ← need (db.obligations.cas o.id (fun x => x.lockVersion = o.lockVersion)
    (fun x => x.close input phase terminal)) .casLost
  return { db with obligations := obligations }

/-- `ensureQuotaProjectionObligation` for an account receipt (`model/quota_projection.go:119–156`). -/
def ensureQuotaProjectionObligation (db : DB) (receipt : Receipt) : Except LedgerError DB := do
  check (0 < receipt.id ∧ receipt.eventKey ≠ "" ∧ 0 < receipt.userID ∧
    0 ≤ receipt.after.user.quotaVersion ∧ 0 ≤ receipt.after.token.quotaVersion) .projectionConflict
  let candidate : ProjectionObligation :=
    { receiptID := receipt.id, eventKey := receipt.eventKey, writerEpoch := receipt.writerEpoch
      userID := receipt.userID, tokenID := receipt.tokenID
      expectedUserVersion := receipt.after.user.quotaVersion
      expectedTokenVersion := receipt.after.token.quotaVersion }
  let projections :=
    if db.projections.rows.any (fun p => p.receiptID = receipt.id || p.eventKey = receipt.eventKey)
    then db.projections else db.projections.insert candidate
  let stored ← need (projections.find? (fun p => p.receiptID = receipt.id)) .recordNotFound
  check (stored.eventKey = receipt.eventKey ∧ stored.userID = receipt.userID ∧
    stored.tokenID = receipt.tokenID ∧ stored.writerEpoch = receipt.writerEpoch ∧
    stored.expectedUserVersion = receipt.after.user.quotaVersion ∧
    stored.expectedTokenVersion = receipt.after.token.quotaVersion) .projectionConflict
  return { db with projections := projections }

/-! ### Reserve -/

/-- `AccountQuotaReserveInput` (`model/account_quota_mutation.go:190–200`). -/
structure ReserveInput where
  requestID : String
  userID : Int
  tokenID : Int
  requestedQuota : Int
  billingPreference : String := ""
  trustQuota : Int := 0
  allowTrust : Bool := false
  playground : Bool := false
  billingContext : AccountBillingContext := {}
  deriving DecidableEq, Repr

/-- What a reserve call keeps from its normalised input and its first reads. -/
structure ReserveCtx where
  requestID : String
  userID : Int
  tokenID : Int
  requestedQuota : Int
  preference : BillingPreference
  trustQuota : Int
  allowTrust : Bool
  playground : Bool
  billingContext : AccountBillingContext
  fingerprint : Fingerprint
  epoch : Int
  deriving DecidableEq, Repr

/-- Outcome of the checks before the transaction: the call already has its answer, or it goes
on with the values it captured. -/
inductive Precheck (κ : Type) where
  | done (receipt : Receipt)
  | go (ctx : κ)

/-- The payload of a reserve fingerprint (`model/account_quota_mutation.go:557–561`). -/
def reservePayload (requestID : String) (userID tokenID requestedQuota : Int)
    (preference : BillingPreference) (playground : Bool) (context : AccountBillingContext) :
    FingerprintPayload :=
  { version := accountQuotaFingerprintVersion, requestID := requestID, phase := .reserve
    userID := userID, tokenID := tokenID, requestedQuota := requestedQuota
    preference := some preference, playground := playground, billingContext := context }

/-- `normalizeAccountReserveInput` (`model/account_quota_mutation.go:545–563`); the epoch is
filled in by the caller. -/
def normalizeAccountReserveInput (input : ReserveInput) (epoch : Int) :
    Except LedgerError ReserveCtx := do
  let requestID ← normalizeAccountRequestID input.requestID
  check (0 < input.userID ∧ 0 < input.tokenID ∧ validAccountQuotaValue input.requestedQuota ∧
    validAccountQuotaValue input.trustQuota) .invalidInput
  let preference := normalizeBillingPreference input.billingPreference
  let context := { input.billingContext with billingPreference := some preference
                                             playground := input.playground }
  let fingerprint ← accountQuotaFingerprint
    (reservePayload requestID input.userID input.tokenID input.requestedQuota preference
      input.playground context)
  return ⟨requestID, input.userID, input.tokenID, input.requestedQuota, preference,
    input.trustQuota, input.allowTrust, input.playground, context, fingerprint, epoch⟩

/-- The part of `ReserveAccountQuota` before its transaction
(`model/account_quota_mutation.go:659–681`). -/
def reservePrecheck (db : DB) (input : ReserveInput) : Except LedgerError (Precheck ReserveCtx) := do
  let ctx ← normalizeAccountReserveInput input 0
  let state ← requireDurableQuotaWriterEpoch db
  let replay ← accountQuotaReplay db (accountQuotaEventKey ctx.requestID .reserve) ctx.fingerprint
  match replay with
  | some existing => do
    check (existing.writerEpoch = state.epoch) .writerEpochMismatch
    return .done existing
  | none => return .go { ctx with epoch := state.epoch }

/-- Funding decision inside the reserve transaction: source, applied amount, subscription row and
the subscription table after its resets (`model/account_quota_mutation.go:708–731`). -/
def reserveFunding (db : DB) (env : TxEnv) (ctx : ReserveCtx) (user : User) (token : Token) :
    Except LedgerError (SourceChoice × Int) :=
  if ctx.billingContext.freeModel then .ok (⟨.free, none, db.subscriptions, []⟩, 0)
  else do
    let minimumReserve := if ctx.requestedQuota = 0 then 1 else ctx.requestedQuota
    let choice ← selectAccountBillingSource db env user ctx.preference minimumReserve minimumReserve
    let trusted := ctx.requestedQuota > 0 ∧ ctx.allowTrust = true ∧ choice.source = .wallet ∧
      ctx.trustQuota > 0 ∧ user.quota > ctx.trustQuota ∧
      (token.unlimitedQuota = true ∨ token.remainQuota > ctx.trustQuota)
    let applied := if trusted then 0 else minimumReserve
    check (ctx.playground = true ∨ token.unlimitedQuota = true ∨ ¬ token.remainQuota < applied)
      .insufficient
    return (choice, applied)

/-- The receipt of a reserve (`model/account_quota_mutation.go:746–756`). -/
def reserveReceipt (ctx : ReserveCtx) (epoch : Int) (user : User) (token : Token)
    (choice : SourceChoice) (applied : Int) (before after : AccountSnapshot) : Receipt where
  receiptVersion := accountQuotaMutationReceiptVersion
  fingerprintVersion := accountQuotaFingerprintVersion
  writerEpoch := epoch
  requestID := ctx.requestID
  phase := .reserve
  eventKey := accountQuotaEventKey ctx.requestID .reserve
  mutationSlot := accountQuotaMutationSlot ctx.requestID .reserve
  reserveFingerprint := ctx.fingerprint
  requestFingerprint := ctx.fingerprint
  billingSource := choice.source
  billingPreference := ctx.preference
  userID := user.id
  tokenID := token.id
  subscriptionID := (choice.subscription.map UserSubscription.id).getD 0
  requestedQuota := ctx.requestedQuota
  appliedQuota := applied
  requestedDeltas := accountQuotaRequestedDeltas choice.source ctx.requestedQuota ctx.playground
  appliedDeltas := accountQuotaRequestedDeltas choice.source applied ctx.playground
  before := before
  after := after
  billingContext := ctx.billingContext

/-- The head of a new reservation (`model/account_quota_mutation.go:760–764`). -/
def reserveHead (ctx : ReserveCtx) (receipt : Receipt) : Head where
  requestID := ctx.requestID
  writerEpoch := receipt.writerEpoch
  rootReceiptID := receipt.id
  currentReceiptID := receipt.id
  reserveFingerprint := ctx.fingerprint
  userID := receipt.userID
  tokenID := receipt.tokenID
  subscriptionID := receipt.subscriptionID
  billingSource := receipt.billingSource
  appliedQuota := receipt.appliedQuota
  lockVersion := 1

/-- The transaction of `ReserveAccountQuota` (`model/account_quota_mutation.go:683–773`). The log
lists the period resets that the selection applied. -/
def reserveTx (db : DB) (env : TxEnv) (ctx : ReserveCtx) :
    Except LedgerError (DB × Receipt × ResetLog) := do
  let state ← requireDurableQuotaWriterEpoch db
  check (state.epoch = ctx.epoch) .durableWriterModeDisabled
  let replay ← accountQuotaReplay db (accountQuotaEventKey ctx.requestID .reserve) ctx.fingerprint
  match replay with
  | some existing => return (db, existing, [])
  | none => do
    let user ← need (db.users.get? ctx.userID) .recordNotFound
    check (user.status = 1 ∧ quotaMutationVersionValid user.quotaVersion) .ineligible
    let token ← need (db.tokens.get? ctx.tokenID) .recordNotFound
    check (token.userID = user.id ∧ token.status = 1 ∧
      ¬ (token.expiredTime ≠ -1 ∧ token.expiredTime ≤ env.now) ∧
      quotaMutationVersionValid token.quotaVersion) .ineligible
    let (choice, applied) ← reserveFunding db env ctx user token
    let deltas := accountQuotaRequestedDeltas choice.source applied ctx.playground
    let before := quotaMutationSnapshot user token choice.subscription
    let after ← accountQuotaAfter before deltas env.now
    requireQuotaProjectionEpoch db state.epoch
    let charged ← applyAccountQuotaBalances { db with subscriptions := choice.subscriptions }
      before after deltas
    let (stored, receipt) ← createReceipt charged
      (reserveReceipt ctx state.epoch user token choice applied before after) env.now
    let (headed, head) ← createHead stored (reserveHead ctx receipt)
    let obliged ← createAccountQuotaLifecycleObligation headed head receipt
    let final ← ensureQuotaProjectionObligation obliged receipt
    return (final, receipt, choice.log)

/-! ### Extend -/

/-- What an extend call keeps from its first reads. -/
structure ExtendCtx where
  reserveReceiptID : Int
  targetQuota : Int
  requestID : String
  writerEpoch : Int
  fingerprint : Fingerprint
  deriving DecidableEq, Repr

/-- The payload of an adjustment fingerprint (`model/account_quota_mutation.go:1160–1164`). -/
def adjustPayload (head : Head) (current : Receipt) (target : Int) : FingerprintPayload :=
  { version := accountQuotaFingerprintVersion, requestID := head.requestID, phase := .adjust
    reserveFingerprint := head.reserveFingerprint, userID := head.userID, tokenID := head.tokenID
    requestedQuota := target, preference := some current.billingPreference
    playground := current.billingContext.playground, billingContext := current.billingContext }

/-- The part of `ExtendAccountQuotaReservation` before its transaction
(`model/account_quota_mutation.go:1121–1170`). -/
def extendPrecheck (db : DB) (reserveReceiptID targetQuota : Int) :
    Except LedgerError (Precheck ExtendCtx) := do
  check (0 < reserveReceiptID ∧ validAccountQuotaValue targetQuota) .invalidInput
  let supplied ← need (db.receipts.get? reserveReceiptID) .recordNotFound
  check (supplied.phase = .reserve ∨ supplied.phase = .adjust) .invalidInput
  let head ← findAccountQuotaReservationHead db supplied.requestID
  let state ← requireDurableQuotaWriterEpoch db
  check (state.epoch = head.writerEpoch) .writerEpochMismatch
  let current ← need (db.receipts.get? head.currentReceiptID) .recordNotFound
  if targetQuota ≤ head.appliedQuota then do
    let inChain ← accountQuotaReceiptInChain db head reserveReceiptID
    check (inChain = true) .staleReceipt
    return .done current
  else do
    let fingerprint ← accountQuotaFingerprint (adjustPayload head current targetQuota)
    let replay ← accountQuotaReplay db (accountQuotaAdjustKey head.requestID targetQuota) fingerprint
    match replay with
    | some existing => return .done existing
    | none => return .go ⟨reserveReceiptID, targetQuota, head.requestID, head.writerEpoch, fingerprint⟩

/-- Funds test of an extension by `delta` (`model/account_quota_mutation.go:1225–1244`). -/
def extendFunds (head : Head) (current : Receipt) (user : User) (token : Token)
    (subscription : Option UserSubscription) (delta : Int) : Except LedgerError Unit := do
  check (current.billingContext.playground = true ∨ token.unlimitedQuota = true ∨
    ¬ token.remainQuota < delta) .insufficient
  match head.billingSource with
  | .wallet => check (¬ user.quota < delta) .insufficient
  | .subscription =>
    match subscription with
    | none => .error .insufficient
    | some s => check (¬ (s.amountTotal > 0 ∧ s.amountUsed > s.amountTotal - delta)) .insufficient
  | .selfUse => .ok ()
  | .free => .error .invalidInput
  | .token => .error .invalidInput

/-- The receipt of an adjustment (`model/account_quota_mutation.go:1261–1270`). -/
def adjustReceipt (ctx : ExtendCtx) (head : Head) (current : Receipt) (deltas : AccountQuotaDeltas)
    (before after : AccountSnapshot) : Receipt where
  receiptVersion := accountQuotaMutationReceiptVersion
  fingerprintVersion := accountQuotaFingerprintVersion
  writerEpoch := head.writerEpoch
  requestID := head.requestID
  phase := .adjust
  eventKey := accountQuotaAdjustKey ctx.requestID ctx.targetQuota
  mutationSlot := accountQuotaAdjustKey ctx.requestID ctx.targetQuota
  parentReceiptID := current.id
  reserveFingerprint := head.reserveFingerprint
  requestFingerprint := ctx.fingerprint
  billingSource := current.billingSource
  billingPreference := current.billingPreference
  userID := current.userID
  tokenID := current.tokenID
  subscriptionID := current.subscriptionID
  requestedQuota := ctx.targetQuota
  appliedQuota := ctx.targetQuota
  requestedDeltas := deltas
  appliedDeltas := deltas
  before := before
  after := after
  billingContext := current.billingContext

/-- The subscription a head is charged to, read under lock. -/
def lockSubscription (db : DB) (subscriptionID : Int) :
    Except LedgerError (Option UserSubscription) :=
  if 0 < subscriptionID then (need (db.subscriptions.get? subscriptionID) .recordNotFound).map some
  else .ok none

/-- The transaction of `ExtendAccountQuotaReservation` (`model/account_quota_mutation.go:1172–1290`). -/
def extendTx (db : DB) (env : TxEnv) (ctx : ExtendCtx) : Except LedgerError (DB × Receipt) := do
  let state ← getQuotaWriterEpochState db
  check (state.mode = .authoritative ∧ state.epoch = ctx.writerEpoch) .durableWriterModeDisabled
  let observed ← findAccountQuotaReservationHead db ctx.requestID
  let user ← need (db.users.get? observed.userID) .recordNotFound
  let token ← need (db.tokens.get? observed.tokenID) .recordNotFound
  let subscription ← lockSubscription db observed.subscriptionID
  let head ← need (db.heads.get? observed.id) .recordNotFound
  check (¬ 0 < head.terminalReceiptID) .terminal
  let inChain ← accountQuotaReceiptInChain db head ctx.reserveReceiptID
  check (inChain = true) .staleReceipt
  let current ← need (db.receipts.get? head.currentReceiptID) .recordNotFound
  validateAccountQuotaHeadReceipt head current
  let replay ← accountQuotaReplay db (accountQuotaAdjustKey ctx.requestID ctx.targetQuota)
    ctx.fingerprint
  match replay with
  | some existing => return (db, existing)
  | none =>
    if ctx.targetQuota ≤ head.appliedQuota then return (db, current)
    else do
      let delta := ctx.targetQuota - head.appliedQuota
      extendFunds head current user token subscription delta
      let deltas := accountQuotaRequestedDeltas head.billingSource delta
        current.billingContext.playground
      let before := quotaMutationSnapshot user token subscription
      let after ← accountQuotaAfter before deltas env.now
      requireQuotaProjectionEpoch db head.writerEpoch
      let charged ← applyAccountQuotaBalances db before after deltas
      let (stored, receipt) ← createReceipt charged
        (adjustReceipt ctx head current deltas before after) env.now
      let heads ← need (stored.heads.cas head.id
        (fun h => h.lockVersion = head.lockVersion ∧ h.currentReceiptID = head.currentReceiptID ∧
          h.terminalReceiptID = 0)
        (fun h => { h with currentReceiptID := receipt.id, appliedQuota := ctx.targetQuota
                           lockVersion := head.lockVersion + 1 })) .casLost
      let obliged ← updateAccountQuotaLifecycleReservation { stored with heads := heads } head receipt
      let final ← ensureQuotaProjectionObligation obliged receipt
      return (final, receipt)

/-! ### Settle and refund -/

/-- `normalizeAccountTerminalInput` (`model/account_quota_mutation.go:785–796`). -/
def normalizeAccountTerminalInput (input : TerminalInput) (phase : TerminalPhase) :
    Except LedgerError TerminalInput := do
  let requestID ← normalizeAccountRequestID input.requestID
  let auditKey := trimSpace input.auditKey
  check (0 < input.reserveReceiptID ∧ validAccountQuotaValue input.actualQuota ∧
    auditKey.utf8ByteSize ≤ 96) .invalidInput
  check (phase = .refund → auditKey ≠ "") .invalidInput
  return { input with requestID := requestID, auditKey := auditKey }

/-- The payload of a terminal fingerprint (`model/account_quota_mutation.go:850–856`). -/
def terminalPayload (input : TerminalInput) (phase : TerminalPhase) (head : Head)
    (current : Receipt) : FingerprintPayload :=
  { version := accountQuotaFingerprintVersion, requestID := input.requestID
    phase := phase.toPhase, reserveReceiptID := current.id
    reserveFingerprint := head.reserveFingerprint, userID := head.userID, tokenID := head.tokenID
    actualQuota := input.actualQuota, preference := some current.billingPreference
    playground := current.billingContext.playground, auditKey := input.auditKey
    billingContext := current.billingContext }

/-- `accountQuotaTerminalFingerprint` (`model/account_quota_mutation.go:846–857`). -/
def accountQuotaTerminalFingerprint (input : TerminalInput) (phase : TerminalPhase) (head : Head)
    (current : Receipt) : Except LedgerError Fingerprint := do
  check (current.id = head.currentReceiptID ∧
    current.reserveFingerprint = head.reserveFingerprint) .conflict
  accountQuotaFingerprint (terminalPayload input phase head current)

/-- `terminalAccountQuotaDeltas`: deltas and applied quota (`model/account_quota_mutation.go:859–869`). -/
def terminalAccountQuotaDeltas (reserve : Receipt) (actualQuota : Int) (phase : TerminalPhase) :
    AccountQuotaDeltas × Int :=
  match phase with
  | .refund =>
    let d := accountQuotaRequestedDeltas reserve.billingSource reserve.appliedQuota
      reserve.billingContext.playground
    (⟨-d.userQuota, -d.tokenRemainQuota, -d.tokenUsedQuota, -d.subscriptionAmountUsed⟩, 0)
  | .settle =>
    (accountQuotaRequestedDeltas reserve.billingSource (actualQuota - reserve.appliedQuota)
      reserve.billingContext.playground, actualQuota)

/-- What a terminal call keeps from its normalised input and its first reads. -/
structure TerminalCtx where
  phase : TerminalPhase
  input : TerminalInput
  fingerprint : Fingerprint
  deriving DecidableEq, Repr

/-- Event key of a terminal call. -/
def TerminalCtx.eventKey (ctx : TerminalCtx) : String :=
  accountQuotaEventKey ctx.input.requestID ctx.phase.toPhase

/-- The writer gate of a terminal call: authoritative with finished backfills, or bridge
(`model/account_quota_mutation.go:893–906`). -/
def requireTerminalWriter (db : DB) : Except LedgerError QuotaWriterEpoch := do
  let state ← getQuotaWriterEpochState db
  check (state.mode = .authoritative ∨ state.mode = .bridge) .projectionModeDisabled
  if state.mode = .authoritative then requireDurableQuotaWriterEpoch db else return state

/-- The part of `applyAccountQuotaTerminalReviewed` before its transaction
(`model/account_quota_mutation.go:875–930`). -/
def terminalPrecheck (db : DB) (phase : TerminalPhase) (input : TerminalInput) :
    Except LedgerError (Precheck TerminalCtx) := do
  let input ← normalizeAccountTerminalInput input phase
  let state ← requireTerminalWriter db
  let head ← findAccountQuotaReservationHead db input.requestID
  let current ← need (db.receipts.get? head.currentReceiptID) .recordNotFound
  validateAccountQuotaHeadReceipt head current
  let fingerprint ← accountQuotaTerminalFingerprint input phase head current
  let replay ← accountQuotaReplay db (accountQuotaEventKey input.requestID phase.toPhase) fingerprint
  match replay with
  | some existing => do
    check (existing.writerEpoch = state.epoch) .writerEpochMismatch
    return .done existing
  | none => return .go ⟨phase, input, fingerprint⟩

/-- The rows a terminal transaction locked and the fingerprint it computed from them. -/
structure TerminalLocked where
  user : User
  token : Token
  subscription : Option UserSubscription
  head : Head
  current : Receipt
  fingerprint : Fingerprint

/-- The locking part of the terminal transaction, up to the assignment of the fingerprint
(`model/account_quota_mutation.go:933–997`). -/
def terminalLock (db : DB) (ctx : TerminalCtx) : Except LedgerError TerminalLocked := do
  let state ← requireTerminalWriter db
  let observed ← findAccountQuotaReservationHead db ctx.input.requestID
  let user ← need (db.users.get? observed.userID) .recordNotFound
  let token ← need (db.tokens.get? observed.tokenID) .recordNotFound
  let subscription ← lockSubscription db observed.subscriptionID
  let head ← need (db.heads.get? observed.id) .recordNotFound
  check (head.writerEpoch = state.epoch) .writerEpochMismatch
  check (head.userID = user.id ∧ token.userID = user.id ∧ head.tokenID = token.id ∧
    0 < head.lockVersion ∧ quotaMutationVersionValid user.quotaVersion ∧
    quotaMutationVersionValid token.quotaVersion ∧
    ∀ s ∈ subscription, s.userID = user.id ∧ s.id = head.subscriptionID ∧
      quotaMutationVersionValid s.quotaVersion) .ineligible
  let inChain ← accountQuotaReceiptInChain db head ctx.input.reserveReceiptID
  check (inChain = true) .staleReceipt
  let current ← need (db.receipts.get? head.currentReceiptID) .recordNotFound
  validateAccountQuotaHeadReceipt head current
  let fingerprint ← accountQuotaTerminalFingerprint ctx.input ctx.phase head current
  return ⟨user, token, subscription, head, current, fingerprint⟩

/-- The receipt of a settle or refund (`model/account_quota_mutation.go:1033–1042`). -/
def terminalReceipt (ctx : TerminalCtx) (l : TerminalLocked) (deltas : AccountQuotaDeltas)
    (applied : Int) (before after : AccountSnapshot) : Receipt where
  receiptVersion := accountQuotaMutationReceiptVersion
  fingerprintVersion := accountQuotaFingerprintVersion
  writerEpoch := l.current.writerEpoch
  requestID := ctx.input.requestID
  phase := ctx.phase.toPhase
  eventKey := ctx.eventKey
  mutationSlot := accountQuotaMutationSlot ctx.input.requestID ctx.phase.toPhase
  parentReceiptID := l.current.id
  auditKey := ctx.input.auditKey
  reserveFingerprint := l.head.reserveFingerprint
  requestFingerprint := l.fingerprint
  billingSource := l.current.billingSource
  billingPreference := l.current.billingPreference
  userID := l.current.userID
  tokenID := l.current.tokenID
  subscriptionID := l.current.subscriptionID
  requestedQuota := ctx.input.actualQuota
  appliedQuota := applied
  requestedDeltas := deltas
  appliedDeltas := deltas
  before := before
  after := after
  billingContext := l.current.billingContext

/-- The writing part of the terminal transaction (`model/account_quota_mutation.go:998–1057`). -/
def terminalWrite (db : DB) (env : TxEnv) (ctx : TerminalCtx) (l : TerminalLocked) :
    Except LedgerError (DB × Receipt) := do
  let replay ← accountQuotaReplay db ctx.eventKey l.fingerprint
  match replay with
  | some existing => return (db, existing)
  | none =>
    if 0 < l.head.terminalReceiptID then do
      let terminal ← need (db.receipts.get? l.head.terminalReceiptID) .recordNotFound
      check (terminal.eventKey = ctx.eventKey ∧ terminal.requestFingerprint = l.fingerprint) .terminal
      return (db, terminal)
    else do
      let (deltas, applied) := terminalAccountQuotaDeltas l.current ctx.input.actualQuota ctx.phase
      let before := quotaMutationSnapshot l.user l.token l.subscription
      let after ← accountQuotaAfter before deltas env.now
      requireQuotaProjectionEpoch db l.current.writerEpoch
      let charged ← applyAccountQuotaBalances db before after deltas
      let (stored, receipt) ← createReceipt charged
        (terminalReceipt ctx l deltas applied before after) env.now
      let heads ← need (stored.heads.cas l.head.id
        (fun h => h.lockVersion = l.head.lockVersion ∧
          h.currentReceiptID = l.head.currentReceiptID ∧ h.terminalReceiptID = 0)
        (fun h => { h with terminalReceiptID := receipt.id
                           lockVersion := l.head.lockVersion + 1 })) .casLost
      let closed ← closeAccountQuotaLifecycle { stored with heads := heads } l.head ctx.input
        ctx.phase receipt
      let final ← ensureQuotaProjectionObligation closed receipt
      return (final, receipt)

/-- The transaction of a settle or refund. -/
def terminalTx (db : DB) (env : TxEnv) (ctx : TerminalCtx) : Except LedgerError (DB × Receipt) := do
  let l ← terminalLock db ctx
  terminalWrite db env ctx l

/-- The fingerprint variable of a terminal call after one attempt of its transaction: the
transaction assigns it as soon as it has locked its rows. -/
def TerminalCtx.afterAttempt (db : DB) (ctx : TerminalCtx) : TerminalCtx :=
  match terminalLock db ctx with
  | .ok l => { ctx with fingerprint := l.fingerprint }
  | .error _ => ctx

/-- What a terminal call answers after its transaction finally failed with `e`
(`model/account_quota_mutation.go:1059–1068`). -/
def terminalFallback (db : DB) (ctx : TerminalCtx) (e : LedgerError) : Except LedgerError Receipt :=
  match findAccountQuotaTerminalReceipt db ctx.input.requestID with
  | none => .error e
  | some terminal =>
    if terminal.eventKey = ctx.eventKey ∧ ctx.fingerprint ≠ .blank ∧
        terminal.requestFingerprint = ctx.fingerprint then .ok terminal
    else .error .terminal

end MyApiSpec.Ledger
