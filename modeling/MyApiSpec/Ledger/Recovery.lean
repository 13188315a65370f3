import MyApiSpec.Ledger.Mutation

/-!
# Refund intents and terminal recovery

The operations of `model/account_quota_recovery.go:98–129` and `240–638` on the lifecycle
obligation of a request: recording a refund intent, recording manual settlement evidence,
and the claim, finish and manual marking of the refund worker. Every write is a
compare-and-swap on the lock version of the row.
-/

namespace MyApiSpec.Ledger

open Base

/-- Lease of a claimed obligation in seconds (`model/account_quota_recovery.go:27`). -/
def accountQuotaTerminalRecoveryLeaseSeconds : Int := 30

/-- `validateAccountQuotaTerminalRecoveryRecord` (`model/account_quota_recovery.go:98–129`). -/
def validateAccountQuotaTerminalRecoveryRecord (db : DB) (o : Obligation) :
    Except LedgerError Unit := do
  check (o.phase = some .refund ∧ 0 < o.lockVersion) .recoveryConflict
  let head ← findAccountQuotaReservationHead db o.requestID
  check (head.writerEpoch = o.writerEpoch) .recoveryConflict
  let inChain ← accountQuotaReceiptInChain db head o.reserveReceiptID
  check (inChain = true) .recoveryConflict
  let current ← need (db.receipts.get? head.currentReceiptID) .recordNotFound
  validateAccountQuotaHeadReceipt head current
  check (o.requestFingerprint = accountQuotaTerminalRecoveryFingerprint
    { requestID := o.requestID, reserveReceiptID := o.reserveReceiptID, auditKey := o.auditKey }
    o.writerEpoch) .recoveryConflict

/-- `validateAccountQuotaSettlementManualEvidenceIdentity` accepts the row
(`model/account_quota_recovery.go:227–234`). -/
def ManualEvidenceMatches (stored : Obligation) (input : TerminalInput) (writerEpoch : Int)
    (fingerprint : Fingerprint) : Prop :=
  stored.requestID = input.requestID ∧ stored.reserveReceiptID = input.reserveReceiptID ∧
    stored.phase = some .settle ∧ stored.actualQuota = input.actualQuota ∧
    stored.writerEpoch = writerEpoch ∧ stored.requestFingerprint = fingerprint ∧
    stored.state = .manual

instance (stored : Obligation) (input : TerminalInput) (writerEpoch : Int)
    (fingerprint : Fingerprint) :
    Decidable (ManualEvidenceMatches stored input writerEpoch fingerprint) :=
  inferInstanceAs (Decidable (_ ∧ _))

/-- The transaction of `PersistAccountQuotaSettlementManualEvidence`
(`model/account_quota_recovery.go:261–320`). -/
def manualEvidenceTx (db : DB) (input : TerminalInput) : Except LedgerError DB := do
  let observed ← findAccountQuotaReservationHead db input.requestID
  let head ← need (db.heads.get? observed.id) .recordNotFound
  check (¬ 0 < head.terminalReceiptID) .terminal
  let inChain ← accountQuotaReceiptInChain db head input.reserveReceiptID
  check (inChain = true) .staleReceipt
  let current ← need (db.receipts.get? head.currentReceiptID) .recordNotFound
  let fingerprint ← accountQuotaTerminalFingerprint input .settle head current
  let stored ← need (findObligation db input.requestID) .recordNotFound
  if stored.state = .manual then do
    check (ManualEvidenceMatches stored input head.writerEpoch fingerprint) .recoveryConflict
    return db
  else do
    check (stored.state = .open ∧ stored.requestFingerprint = head.reserveFingerprint)
      .recoveryConflict
    let obligations ← need (db.obligations.cas stored.id
      (fun x => x.state = .open ∧ x.lockVersion = stored.lockVersion)
      (fun x => { x with reserveReceiptID := input.reserveReceiptID, phase := some .settle
                         actualQuota := input.actualQuota, requestFingerprint := fingerprint
                         state := .manual, lockVersion := stored.lockVersion + 1 })) .casLost
    return { db with obligations := obligations }

/-- `PersistAccountQuotaSettlementManualEvidence` as one database change: the readback after a
lost response only reads. -/
def persistManualEvidence (db : DB) (input : TerminalInput) : Except LedgerError DB := do
  let input ← normalizeAccountTerminalInput input .settle
  manualEvidenceTx db input

/-- `validateAccountQuotaTerminalRecoveryIdentity` accepts the stored row for a refund intent
(`model/account_quota_recovery.go:88–96`). -/
def RefundIntentMatches (stored : Obligation) (input : TerminalInput) (writerEpoch : Int) : Prop :=
  stored.requestID = input.requestID ∧ stored.reserveReceiptID = input.reserveReceiptID ∧
    stored.phase = some .refund ∧ stored.auditKey = input.auditKey ∧
    stored.writerEpoch = writerEpoch ∧
    stored.requestFingerprint = accountQuotaTerminalRecoveryFingerprint input writerEpoch

instance (stored : Obligation) (input : TerminalInput) (writerEpoch : Int) :
    Decidable (RefundIntentMatches stored input writerEpoch) :=
  inferInstanceAs (Decidable (_ ∧ _))

/-- The terminal receipt of a head if it is a refund, an error if it is a settlement
(`model/account_quota_recovery.go:387–396`). -/
def refundTerminal (db : DB) (head : Head) : Except LedgerError (Option Receipt) :=
  if 0 < head.terminalReceiptID then do
    let receipt ← need (db.receipts.get? head.terminalReceiptID) .recordNotFound
    check (receipt.phase = .refund) .terminal
    return some receipt
  else .ok none

/-- The row that records the intent to refund. -/
def Obligation.recordRefund (o : Obligation) (input : TerminalInput) (writerEpoch : Int) :
    Obligation :=
  { o with reserveReceiptID := input.reserveReceiptID, phase := some .refund
           auditKey := input.auditKey
           requestFingerprint := accountQuotaTerminalRecoveryFingerprint input writerEpoch
           state := .refundPending, nextAttemptAt := 0, leaseOwner := "", leaseUntil := 0
           lockVersion := o.lockVersion + 1 }

/-- The state-dependent write of a refund intent (`model/account_quota_recovery.go:432–481`);
`hasCause` says whether the call carries the error of an earlier attempt. -/
def refundIntentWrite (db : DB) (stored : Obligation) (input : TerminalInput) (writerEpoch : Int)
    (hasCause : Bool) : Except LedgerError DB :=
  match stored.state with
  | .open => do
    let obligations ← need (db.obligations.cas stored.id
      (fun x => x.state = .open ∧ x.lockVersion = stored.lockVersion)
      (fun x => x.recordRefund input writerEpoch)) .recoveryConflict
    return { db with obligations := obligations }
  | .refundPending | .retryable | .claimed => do
    check (RefundIntentMatches stored input writerEpoch) .recoveryConflict
    if hasCause = true ∧ stored.state ≠ .claimed then do
      let obligations ← need (db.obligations.cas stored.id
        (fun x => x.state = stored.state ∧ x.lockVersion = stored.lockVersion)
        (fun x => { x with lockVersion := stored.lockVersion + 1 })) .recoveryConflict
      return { db with obligations := obligations }
    else return db
  | .applied => .error .terminal
  | .usageUnknown | .manual | .legacyPending => .error .recoveryConflict

/-- The transaction of `EnsureAccountQuotaRefundRecovery` (`model/account_quota_recovery.go:370–485`). -/
def refundIntentTx (db : DB) (input : TerminalInput) (hasCause : Bool) : Except LedgerError DB := do
  let observed ← findAccountQuotaReservationHead db input.requestID
  let head ← need (db.heads.get? observed.id) .recordNotFound
  let inChain ← accountQuotaReceiptInChain db head input.reserveReceiptID
  check (inChain = true) .staleReceipt
  let terminal ← refundTerminal db head
  let current ← need (db.receipts.get? head.currentReceiptID) .recordNotFound
  validateAccountQuotaHeadReceipt head current
  let stored ← need (findObligation db input.requestID) .recordNotFound
  check (stored.writerEpoch = head.writerEpoch ∧ 0 < stored.lockVersion) .recoveryConflict
  match terminal with
  | some receipt => do
    check (stored.state = .applied ∧ stored.terminalReceiptID = receipt.id) .recoveryConflict
    return db
  | none => do
    let pending ← textDispatchPending stored.reviewMetadata
    check (pending = false) .usageUnresolved
    refundIntentWrite db stored input head.writerEpoch hasCause

/-- `EnsureAccountQuotaRefundRecovery` as one database change: the readback after a lost
response only reads. -/
def ensureRefundRecovery (db : DB) (input : TerminalInput) (hasCause : Bool) :
    Except LedgerError DB := do
  let input ← normalizeAccountTerminalInput input .refund
  refundIntentTx db { input with actualQuota := 0 } hasCause

/-- The candidates of a worker round (`model/account_quota_recovery.go:676–681`). -/
def RecoveryCandidate (o : Obligation) (now : Int) : Prop :=
  o.state = .refundPending ∨ (o.state = .retryable ∧ o.nextAttemptAt ≤ now) ∨
    (o.state = .claimed ∧ o.leaseUntil ≤ now)

instance (o : Obligation) (now : Int) : Decidable (RecoveryCandidate o now) :=
  inferInstanceAs (Decidable (_ ∨ _))

/-- The update of `claimAccountQuotaTerminalRecovery`; `none` when the candidate is not claimable
or another writer was faster (`model/account_quota_recovery.go:528–549`). -/
def claimAccountQuotaTerminalRecovery (db : DB) (candidate : Obligation) (workerID : String)
    (now : Int) : Option DB :=
  if trimSpace workerID ≠ "" ∧ RecoveryCandidate candidate now then
    (db.obligations.cas candidate.id
      (fun x => x.state = candidate.state ∧ x.lockVersion = candidate.lockVersion ∧
        x.leaseUntil = candidate.leaseUntil ∧ x.nextAttemptAt = candidate.nextAttemptAt)
      (fun x => { x with
        state := .claimed, leaseOwner := workerID
        leaseUntil := now + accountQuotaTerminalRecoveryLeaseSeconds, nextAttemptAt := 0
        attempts := candidate.attempts + 1, lockVersion := candidate.lockVersion + 1 })).map
      (fun obligations => { db with obligations := obligations })
  else none

/-- The failure update of `finishAccountQuotaTerminalRecovery`; a successful refund writes nothing
(`model/account_quota_recovery.go:556–596`). -/
def finishAccountQuotaTerminalRecovery (db : DB) (claimed : Obligation) (now : Int) : Option DB :=
  (db.obligations.cas claimed.id
    (fun x => x.state = .claimed ∧ x.leaseOwner = claimed.leaseOwner ∧
      x.lockVersion = claimed.lockVersion)
    (fun x => { x with
      state := .retryable, leaseOwner := "", leaseUntil := 0
      nextAttemptAt := now + min (claimed.attempts + 1) 30
      lockVersion := claimed.lockVersion + 1 })).map
    (fun obligations => { db with obligations := obligations })

/-- `accountQuotaRecoveryStructuralError` (`model/account_quota_recovery.go:598–602`). -/
def accountQuotaRecoveryStructuralError : LedgerError → Bool
  | .recordNotFound | .notFound | .recoveryConflict | .staleReceipt | .invalidInput => true
  | _ => false

/-- The update of `markAccountQuotaTerminalRecoveryManual` (`model/account_quota_recovery.go:604–638`). -/
def markAccountQuotaTerminalRecoveryManual (db : DB) (candidate : Obligation) : Option DB :=
  (db.obligations.cas candidate.id
    (fun x => x.state = candidate.state ∧ x.lockVersion = candidate.lockVersion)
    (fun x => { x with state := .manual, leaseOwner := "", leaseUntil := 0
                       lockVersion := candidate.lockVersion + 1 })).map
    (fun obligations => { db with obligations := obligations })

/-- The authoritative branch of `setUsageDispatchEvidence` (`model/text_dispatch.go:128–236`): the
encoded evidence is a parameter, the rows it may be written to are the code's. -/
def setUsageDispatchEvidenceTx (db : DB) (requestID : String) (userID tokenID reserveID : Int)
    (evidence : ReviewMetadata) : Except LedgerError DB := do
  let head ← need (db.heads.find? (fun h => h.requestID = requestID)) .recordNotFound
  check (head.userID = userID ∧ head.tokenID = tokenID ∧ head.terminalReceiptID = 0 ∧
    head.currentReceiptID = reserveID) .conflict
  let receipt ← need (db.receipts.get? reserveID) .recordNotFound
  validateAccountQuotaHeadReceipt head receipt
  let o ← need (findObligation db requestID) .recordNotFound
  check (o.state = .open ∧ o.writerEpoch = head.writerEpoch ∧ o.reserveReceiptID = reserveID ∧
    o.requestFingerprint = head.reserveFingerprint) .usageUnresolved
  check (0 < o.lockVersion) .conflict
  let obligations ← need (db.obligations.cas o.id
    (fun x => x.state = .open ∧ x.lockVersion = o.lockVersion)
    (fun x => { x with reviewMetadata := evidence, lockVersion := o.lockVersion + 1 })) .casLost
  return { db with obligations := obligations }

end MyApiSpec.Ledger
