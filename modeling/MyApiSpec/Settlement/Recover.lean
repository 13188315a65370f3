import MyApiSpec.Settlement.Ensure
import MyApiSpec.Ledger.Concurrent

/-!
# Applying a settlement

`RecoverAccountQuotaSettlementFact` and `RecoverAccountQuotaSettlementIntent`
(`model/account_quota_settlement_fact.go:540–1222`). A worker claims the fact under a lease,
applies the funding leg and the token leg in one transaction each, or hands an authoritative fact
to the ledger, and records a failure in the fact. Every statement outside a transaction is an
action of its own, so that other workers can act between any two of them.
-/

namespace MyApiSpec.Settlement

open Base
open Ledger (Token UserSubscription quotaMutationVersionValid checkedQuotaBalance
  checkedQuotaUsed)

/-! ### Claiming -/

/-- `accountQuotaSettlementLeaseSeconds`. -/
def settlementLeaseSeconds : Int := 30

/-- The states that a worker may claim (`model/account_quota_settlement_fact.go:541–543`). -/
def SettlementFact.Claimable (f : SettlementFact) (now : Int) : Prop :=
  f.state = .pending ∨ (f.state = .retryable ∧ f.nextAttemptAt ≤ now) ∨
    (f.state = .claimed ∧ f.leaseUntil ≤ now)

instance (f : SettlementFact) (now : Int) : Decidable (f.Claimable now) :=
  inferInstanceAs (Decidable (_ ∨ _))

/-- The guarded update of a claim; the result says whether a row was hit. -/
def claimTx (fact : SettlementFact) (workerID : String) (now : Int) (db : DB) (_ : Ledger.TxEnv) :
    Fallible (DB × Bool) :=
  match db.facts.cas fact.id
    (fun f => f.state = fact.state ∧ f.lockVersion = fact.lockVersion ∧
      f.leaseUntil = fact.leaseUntil ∧ f.nextAttemptAt = fact.nextAttemptAt)
    (fun f => { f with
      state := .claimed, leaseOwner := workerID, leaseUntil := now + settlementLeaseSeconds
      nextAttemptAt := 0, attempts := fact.attempts + 1, lockVersion := fact.lockVersion + 1 }) with
  | some facts => .ok ({ db with facts := facts }, true)
  | none => .ok (db, false)

/-- A row by its id. -/
def readFact (id : Int) : Task DB SettlementFact :=
  query fun db _ => need (db.facts.get? id) [.recordNotFound]

/-- `claimAccountQuotaSettlementFact`: the row a worker goes on with, `none` when it did not win.
The error carries the row returned with it (`model/account_quota_settlement_fact.go:540–561`). -/
def claimAccountQuotaSettlementFact (fact : SettlementFact) (workerID : String) (now : Int) :
    Routine DB Env (Option SettlementFact × Failure) (Option SettlementFact) :=
  if fact.Claimable now then do
    let won ← ExceptT.adapt (some fact, ·) (transaction (claimTx fact workerID now))
    if won then do
      let claimed ← ExceptT.adapt (none, ·) (readFact fact.id)
      return some claimed
    else return none
  else return none

/-! ### The funding leg -/

/-- The charge of a subscription (`model/account_quota_settlement_fact.go:653–685`). -/
def fundSubscription (db : DB) (input : SettlementInput) : Fallible DB := do
  let sub ← need (db.ledger.subscriptions.get? input.subscriptionID) [.recordNotFound]
  check (sub.userID = input.userID) [.recoveryConflict]
  check (sub.amountTotal ≠ 0 → (checkedQuotaUsed sub.amountTotal 0).isSome = true)
    [.balanceOutOfRange]
  let used ← need (checkedQuotaUsed sub.amountUsed input.delta) [.balanceOutOfRange]
  check (¬ (0 < sub.amountTotal ∧ sub.amountTotal < used)) [.ineligible]
  check (quotaMutationVersionValid sub.quotaVersion) [.ineligible]
  return writeSubscription db { sub with
    amountUsed := used, quotaVersion := sub.quotaVersion + 1 }

/-- The charge of the funding source; a self-use settlement charges none. -/
def fundSource (db : DB) (input : SettlementInput) : Fallible DB :=
  match input.kind with
  | .legacySelfUse => .ok db
  | .legacyWallet => moveUserQuota db input.userID (-input.delta)
  | .legacySubscription => fundSubscription db input
  | .authoritative => .error [.invalidInput]

/-- The fact behind its funding leg; without a token leg it is applied. -/
def SettlementFact.funded (f : SettlementFact) : SettlementFact :=
  if f.input.applyToken then { f with fundingApplied := true, lockVersion := f.lockVersion + 1 }
  else { f with fundingApplied := true, tokenApplied := true, state := .applied, leaseOwner := ""
                leaseUntil := 0, lockVersion := f.lockVersion + 1 }

/-- The identity that the journal check inside a leg uses: the event key and the token flag are
left out. -/
def SettlementInput.journalKey (i : SettlementInput) : SettlementInput :=
  { i with eventKey := "", applyToken := false, reserveReceiptID := 0, writerEpoch := 0
           actualQuota := 0 }

/-- The transaction of the funding leg (`model/account_quota_settlement_fact.go:606–705`). -/
def fundingTx (fact : SettlementFact) (db : DB) (_ : Ledger.TxEnv) : Fallible (DB × Unit) := do
  let current ← need (db.facts.get? fact.id) [.recordNotFound]
  let permit ← loadAccountQuotaExecutionPermitForFact db current
  if current.fundingApplied then return (db, ())
  else do
    check (permit.allowFunding = true) [.executionFrozen]
    validateLegacyUsageSettlement db current.input.journalKey
    check (current.state = .claimed ∧ current.leaseOwner = fact.leaseOwner ∧
      current.lockVersion = fact.lockVersion) [.recoveryConflict]
    let db ← fundSource db current.input
    return ({ db with facts := db.facts.put current.funded }, ())

/-- The result of a leg: an error of the transaction stands unless the row read back shows that
the leg was applied. -/
def settleLeg (result : Fallible Unit) (readback : Fallible SettlementFact)
    (applied : SettlementFact → Bool) : Fallible Unit :=
  match result with
  | .ok () => .ok ()
  | .error failure =>
    match readback with
    | .ok stored => if applied stored then .ok () else .error failure
    | .error readFailure => .error (failure ++ readFailure)

/-- `applyAccountQuotaSettlementFunding` (`model/account_quota_settlement_fact.go:595–723`); the
cache refresh behind it is left out. -/
def applyAccountQuotaSettlementFunding (fact : SettlementFact) : Task DB Unit := do
  if fact.input.kind = .legacyWallet then permission else pure ()
  let result ← Routine.attempt (transaction (fundingTx fact))
  let readback ← Routine.attempt (readFact fact.id)
  Routine.lift (settleLeg result readback SettlementFact.fundingApplied)

/-! ### The token leg -/

/-- The fact behind its token leg. -/
def SettlementFact.finished (f : SettlementFact) : SettlementFact :=
  { f with tokenApplied := true, state := .applied, leaseOwner := "", leaseUntil := 0
           nextAttemptAt := 0, lockVersion := f.lockVersion + 1 }

/-- The completion marker of a fact without a token leg
(`model/account_quota_settlement_fact.go:730–764`). -/
def markTx (fact : SettlementFact) (db : DB) (_ : Ledger.TxEnv) : Fallible (DB × Unit) := do
  let current ← need (db.facts.get? fact.id) [.recordNotFound]
  let _ ← loadAccountQuotaExecutionPermitForFact db current
  if current.tokenApplied = true ∧ current.state = .applied then return (db, ())
  else do
    check (current.input.applyToken = false ∧ current.fundingApplied = true ∧
      current.state = .claimed ∧ current.leaseOwner = fact.leaseOwner ∧
      current.lockVersion = fact.lockVersion) [.recoveryConflict]
    return ({ db with facts := db.facts.put current.finished }, ())

/-- A token of a user. -/
def findToken (db : DB) (tokenID userID : Int) : Option Token :=
  (db.ledger.tokens.get? tokenID).filter fun t => t.userID = userID

/-- The charge of the token (`model/account_quota_settlement_fact.go:803–828`). -/
def chargeToken (db : DB) (input : SettlementInput) (now : Int) : Fallible DB := do
  let token ← need (findToken db input.tokenID input.userID) [.recordNotFound]
  check (quotaMutationVersionValid token.quotaVersion) [.ineligible]
  let remain ← need (checkedQuotaBalance token.remainQuota (-input.delta)) [.balanceOutOfRange]
  let used ← need (checkedQuotaUsed token.usedQuota input.delta) [.ineligible]
  return writeToken db token remain used now

/-- The transaction of the token leg; it compares the lease owner and not the lock version
(`model/account_quota_settlement_fact.go:782–841`). -/
def tokenTx (fact : SettlementFact) (db : DB) (env : Ledger.TxEnv) : Fallible (DB × Unit) := do
  let current ← need (db.facts.get? fact.id) [.recordNotFound]
  let permit ← loadAccountQuotaExecutionPermitForFact db current
  if current.tokenApplied = true ∧ current.state = .applied then return (db, ())
  else do
    check (permit.allowToken = true) [.executionFrozen]
    validateLegacyUsageSettlement db current.input.journalKey
    check (current.fundingApplied = true ∧ current.state = .claimed ∧
      current.leaseOwner = fact.leaseOwner) [.recoveryConflict]
    let db ← chargeToken db current.input env.now
    return ({ db with facts := db.facts.put current.finished }, ())

/-- `applyAccountQuotaSettlementToken` (`model/account_quota_settlement_fact.go:725–856`). -/
def applyAccountQuotaSettlementToken (fact : SettlementFact) : Task DB Unit :=
  if fact.input.applyToken then do
    let _ ← query fun db _ => need (findToken db fact.input.tokenID fact.input.userID)
      [.recordNotFound]
    permission
    let result ← Routine.attempt (transaction (tokenTx fact))
    let readback ← Routine.attempt (readFact fact.id)
    Routine.lift (settleLeg result readback fun stored => stored.state = .applied)
  else transaction (markTx fact)

/-! ### The authoritative leg -/

/-- `accountQuotaTerminalExecutionGuard` (`model/account_quota_mutation.go:211–216`). -/
structure TerminalGuard where
  factID : Int
  bindingDigest : BindingDigest
  leaseOwner : String
  lockVersion : Int
  deriving DecidableEq, Repr

/-- `validateAccountQuotaTerminalExecutionGuard` for a settlement
(`model/account_quota_mutation.go:218–243`). -/
def validateTerminalGuard (db : DB) (guard : TerminalGuard) (input : Ledger.TerminalInput) :
    Fallible Unit := do
  check (0 < guard.factID ∧ guard.bindingDigest.Wellformed ∧ guard.leaseOwner ≠ "" ∧
    0 < guard.lockVersion) [.executionFrozen]
  let fact ← need (db.facts.get? guard.factID) [.executionFrozen, .recordNotFound]
  check (fact.input.kind = .authoritative ∧ fact.input.requestID = input.requestID ∧
    fact.input.reserveReceiptID = input.reserveReceiptID ∧
    fact.input.actualQuota = input.actualQuota ∧ fact.state = .claimed ∧
    fact.leaseOwner = guard.leaseOwner ∧ fact.lockVersion = guard.lockVersion) [.executionFrozen]
  let permit ← loadAccountQuotaExecutionPermitForFact db fact
  check (permit.bindingDigest = guard.bindingDigest ∧ permit.allowFunding = true ∧
    permit.allowToken = true) [.executionFrozen]

/-- The terminal transaction of the ledger behind the guard; the fingerprint is computed with the
locked rows, before the guard. -/
def guardedTerminalTx (guard : TerminalGuard) (ctx : Ledger.TerminalCtx) (db : DB)
    (env : Ledger.TxEnv) : Fallible (DB × Ledger.Receipt) := do
  let locked ← ofLedger (Ledger.terminalLock db.ledger ctx)
  validateTerminalGuard db guard ctx.input
  let (ledger, receipt) ← ofLedger (Ledger.terminalWrite db.ledger env ctx locked)
  return ({ db with ledger := ledger }, receipt)

/-- The captured fingerprint after the transaction function ran. -/
def guardedCtx (guard : TerminalGuard) (ctx : Ledger.TerminalCtx) (db : DB) : Ledger.TerminalCtx :=
  match validateTerminalGuard db guard ctx.input with
  | .ok _ => ctx.afterAttempt db.ledger
  | .error _ => ctx

/-- One attempt of the terminal transaction, the values captured behind it, and whether a failure
was a lock conflict. -/
def terminalAttempt (guard : TerminalGuard) (ctx : Ledger.TerminalCtx) :
    Prog DB Env (Ledger.TerminalCtx × Bool × Fallible Ledger.Receipt) :=
  Prog.update fun db e =>
    match e.outcome with
    | .failed => (db, ctx, e.busy, .error [.database])
    | .lost =>
      match guardedTerminalTx guard ctx db e.tx with
      | .ok (db', _) => (db', guardedCtx guard ctx db, e.busy, .error [.database])
      | .error _ => (db, guardedCtx guard ctx db, e.busy, .error [.database])
    | .answered =>
      match guardedTerminalTx guard ctx db e.tx with
      | .ok (db', r) => (db', guardedCtx guard ctx db, e.busy, .ok r)
      | .error failure => (db, guardedCtx guard ctx db, false, .error failure)

/-- The readback behind a failed attempt: a stored receipt of the same identity, or none when the
read hit a lock conflict (`model/account_quota_mutation.go:634–645`). -/
def terminalReadback (ctx : Ledger.TerminalCtx) : Task DB (Option Ledger.Receipt) :=
  ExceptT.mk (Prog.read fun db e =>
    match e.outcome with
    | .answered => ofLedger (Ledger.accountQuotaReplay db.ledger ctx.eventKey ctx.fingerprint)
    | _ => if e.busy then .ok none else .error [.database])

/-- The transaction loop of `SettleAccountQuota` with `n` attempts left; the error carries the
captured values (`model/account_quota_mutation.go:613–657`). -/
def terminalLoop (guard : TerminalGuard) (ctx : Ledger.TerminalCtx) :
    Nat → Routine DB Env (Ledger.TerminalCtx × Failure) Ledger.Receipt
  | 0 => throw (ctx, [.database])
  | n + 1 => do
    let (ctx, busy, result) ← ExceptT.lift (terminalAttempt guard ctx)
    match result with
    | .ok receipt => return receipt
    | .error failure => do
      let replay ← ExceptT.adapt (ctx, ·) (terminalReadback ctx)
      match replay with
      | some receipt => return receipt
      | none =>
        if (busy = true ∨ .casLost ∈ failure) ∧ n ≠ 0 then terminalLoop guard ctx n
        else throw (ctx, failure)

/-- What a terminal call answers when its transaction finally failed
(`model/account_quota_mutation.go:1059–1068`). -/
def settledElsewhere (ctx : Ledger.TerminalCtx) (failure : Failure) : Task DB Ledger.Receipt :=
  ExceptT.mk (Prog.read fun db e =>
    match e.outcome, Ledger.findAccountQuotaTerminalReceipt db.ledger ctx.input.requestID with
    | .answered, some terminal =>
      if terminal.eventKey = ctx.eventKey ∧ ctx.fingerprint ≠ .blank ∧
          terminal.requestFingerprint = ctx.fingerprint then .ok terminal
      else .error [.terminal]
    | _, _ => .error failure)

/-- `SettleAccountQuota` under a guard (`model/account_quota_mutation.go:875–1078`). -/
def settleAccountQuota (guard : TerminalGuard) (input : Ledger.TerminalInput) :
    Task DB Ledger.Receipt := do
  let first ← query fun db _ => ofLedger (Ledger.terminalPrecheck db.ledger .settle input)
  match first with
  | .done receipt => return receipt
  | .go ctx => do
    let result ← Routine.catching
      (terminalLoop guard ctx Ledger.accountQuotaSQLiteTransactionAttempts)
    match result with
    | .ok receipt => return receipt
    | .error (ctx, failure) => settledElsewhere ctx failure

/-- The update of an authoritative fact behind its terminal receipt
(`model/account_quota_settlement_fact.go:895–922`). -/
def finishAuthoritativeTx (fact : SettlementFact) (receiptID : Int) (db : DB) (_ : Ledger.TxEnv) :
    Fallible (DB × Bool) := do
  let current ← need (db.facts.get? fact.id) [.recordNotFound]
  let permit ← loadAccountQuotaExecutionPermitForFact db current
  check (permit.allowFunding = true ∧ permit.allowToken = true) [.executionFrozen]
  match db.facts.cas fact.id
    (fun f => f.state = .claimed ∧ f.leaseOwner = fact.leaseOwner ∧ f.lockVersion = fact.lockVersion)
    (fun f => { f with
      fundingApplied := true, tokenApplied := true, terminalReceiptID := receiptID
      state := .applied, nextAttemptAt := 0, leaseOwner := "", leaseUntil := 0
      lockVersion := fact.lockVersion + 1 }) with
  | some facts => return ({ db with facts := facts }, true)
  | none => return (db, false)

/-- The result of the authoritative leg: the update hit its row, or the row read back is applied
with the same receipt. -/
def settleAuthoritative (receiptID : Int) (result : Fallible Bool)
    (readback : Fallible SettlementFact) : Fallible Unit :=
  match result, readback with
  | .ok true, _ => .ok ()
  | .ok false, .ok stored =>
    check (stored.state = .applied ∧ stored.terminalReceiptID = receiptID) [.casLost]
  | .ok false, .error e => .error (.casLost :: e)
  | .error failure, .ok stored =>
    check (stored.state = .applied ∧ stored.terminalReceiptID = receiptID) failure
  | .error failure, .error e => .error (failure ++ e)

/-- `applyAuthoritativeAccountQuotaSettlement`
(`model/account_quota_settlement_fact.go:858–934`). -/
def applyAuthoritativeAccountQuotaSettlement (fact : SettlementFact) : Task DB Unit := do
  let permit ← query fun db _ => loadAccountQuotaExecutionPermitForFact db fact
  Routine.lift (check (permit.allowFunding = true ∧ permit.allowToken = true) [.executionFrozen])
  let receipt ← settleAccountQuota
    ⟨fact.id, permit.bindingDigest, fact.leaseOwner, fact.lockVersion⟩
    { requestID := fact.input.requestID, reserveReceiptID := fact.input.reserveReceiptID
      actualQuota := fact.input.actualQuota }
  Routine.lift (check (receipt.phase = .settle ∧ receipt.writerEpoch = fact.input.writerEpoch ∧
    receipt.userID = fact.input.userID ∧ receipt.tokenID = fact.input.tokenID ∧
    receipt.subscriptionID = fact.input.subscriptionID ∧
    receipt.requestedQuota = fact.input.actualQuota) [.recoveryConflict])
  let result ← Routine.attempt (transaction (finishAuthoritativeTx fact receipt.id))
  let readback ← Routine.attempt (readFact fact.id)
  Routine.lift (settleAuthoritative receipt.id result readback)

/-! ### Failures -/

/-- Errors that need a person (`model/account_quota_settlement_fact.go:941–948`). -/
def structuralFaults : Failure :=
  [.recordNotFound, .invalidInput, .ineligible, .recoveryConflict, .terminal, .notFound,
    .staleReceipt, .writerEpochMismatch]

/-- `errors.Is` against one of several sentinels. -/
def Failure.isAny (failure : Failure) (faults : Failure) : Bool := failure.any (· ∈ faults)

/-- The state a failed attempt leaves. -/
def failureState (failure : Failure) : WorkState :=
  if failure.isAny structuralFaults then .manual else .retryable

/-- The guarded update of a failed attempt. -/
def failTx (claimed : SettlementFact) (failure : Failure) (now : Int) (db : DB)
    (_ : Ledger.TxEnv) : Fallible (DB × Bool) :=
  match db.facts.cas claimed.id
    (fun f => f.state = .claimed ∧ f.leaseOwner = claimed.leaseOwner ∧
      f.lockVersion = claimed.lockVersion)
    (fun f => { f with
      state := failureState failure
      nextAttemptAt := if failureState failure = .manual then 0 else now
      leaseOwner := "", leaseUntil := 0, lockVersion := claimed.lockVersion + 1 }) with
  | some facts => .ok ({ db with facts := facts }, true)
  | none => .ok (db, false)

/-- `finishAccountQuotaSettlementFailure` (`model/account_quota_settlement_fact.go:936–973`). -/
def finishAccountQuotaSettlementFailure (claimed : SettlementFact) (failure : Failure) :
    Task DB Unit := do
  let now ← databaseTime
  let hit ← transaction (failTx claimed failure now)
  if hit then return ()
  else do
    let stored ← Routine.attempt (readFact claimed.id)
    Routine.lift (match stored with
      | .ok stored => check (stored.state = .applied) [.recoveryConflict]
      | .error _ => .error [.recoveryConflict])

/-! ### Recovery of a fact -/

/-- `validateAccountQuotaSettlementAppliedTerminal` of a stored fact
(`model/account_quota_settlement_fact.go:253–291`). -/
def validateStoredApplied (db : DB) (fact : SettlementFact) : Fallible Unit := do
  check (fact.input.kind = .authoritative → 0 < fact.terminalReceiptID) [.recoveryConflict]
  check (fact.fundingApplied = true ∧ fact.tokenApplied = true) [.recoveryConflict]
  if fact.input.kind = .authoritative then do
    let terminal ← need (db.ledger.receipts.get? fact.terminalReceiptID) [.recoveryConflict]
    check (terminal.requestID = fact.input.requestID ∧ terminal.userID = fact.input.userID ∧
      terminal.tokenID = fact.input.tokenID ∧
      terminal.subscriptionID = fact.input.subscriptionID ∧
      terminal.writerEpoch = fact.input.writerEpoch ∧
      terminal.receiptVersion = Ledger.accountQuotaMutationReceiptVersion ∧
      terminal.fingerprintVersion = Ledger.accountQuotaFingerprintVersion ∧
      terminal.phase = .settle ∧
      terminal.eventKey = Ledger.accountQuotaEventKey fact.input.requestID .settle ∧
      terminal.requestedQuota = fact.input.actualQuota ∧ terminal.Sealed) [.recoveryConflict]
  else return ()

/-- The stored row is a valid settlement and has the identity of the given one
(`model/account_quota_settlement_fact.go:986–994`). -/
def matchStored (fact stored : SettlementFact) : Fallible Unit := do
  let normalized ← (normalizeAccountQuotaSettlementInput stored.input).mapError
    fun _ => [.recoveryConflict]
  validateAccountQuotaSettlementIdentity fact stored.input normalized.2

/-- The checks before a claim: the stored row, its identity against the given one, its permit.
`.inl` is a fact that is applied already (`model/account_quota_settlement_fact.go:982–1006`). -/
def recoveryAdmission (fact : SettlementFact) :
    Routine DB Env (Option SettlementFact × Failure) (SettlementFact ⊕ SettlementFact) := do
  let stored ← ExceptT.adapt (none, ·) (readFact fact.id)
  ExceptT.adapt (some stored, ·) (Routine.lift (matchStored fact stored))
  if stored.state = .applied then do
    ExceptT.adapt (some stored, ·) (query fun db _ => validateStoredApplied db stored)
    return .inl stored
  else do
    let _ ← ExceptT.adapt (some stored, ·)
      (query fun db _ => loadAccountQuotaExecutionPermitForFact db stored)
    return .inr stored

/-- The funding leg of a claimed fact and the row read behind it; the error carries the row that
the failure is recorded under. -/
def recoverFunding (claimed : SettlementFact) :
    Routine DB Env (SettlementFact × Failure) SettlementFact :=
  if claimed.fundingApplied then return claimed
  else do
    ExceptT.adapt (claimed, ·) (applyAccountQuotaSettlementFunding claimed)
    ExceptT.adapt (claimed, ·) (readFact claimed.id)

/-- The token leg of a claimed fact. -/
def recoverToken (claimed : SettlementFact) :
    Routine DB Env (SettlementFact × Failure) SettlementFact :=
  if claimed.state ≠ .applied ∧ claimed.tokenApplied = false then do
    ExceptT.adapt (claimed, ·) (applyAccountQuotaSettlementToken claimed)
    return claimed
  else return claimed

/-- The legs of a claimed fact (`model/account_quota_settlement_fact.go:1015–1027`). -/
def recoverLegs (claimed : SettlementFact) :
    Routine DB Env (SettlementFact × Failure) SettlementFact :=
  if claimed.input.kind = .authoritative then do
    ExceptT.adapt (claimed, ·) (applyAuthoritativeAccountQuotaSettlement claimed)
    return claimed
  else do
    let claimed ← recoverFunding claimed
    recoverToken claimed

/-- A row variable that a failed read left blank; its identity columns are not looked at. -/
def SettlementFact.unread (f : SettlementFact) : SettlementFact :=
  { f with id := 0, fundingApplied := false, tokenApplied := false, terminalReceiptID := 0
           state := .blank, attempts := 0, nextAttemptAt := 0, leaseOwner := "", leaseUntil := 0
           lockVersion := 0 }

/-- Record a failed attempt and return the row behind it
(`model/account_quota_settlement_fact.go:1028–1037`). -/
def recoverFailure (claimed : SettlementFact) (failure : Failure) :
    Routine DB Env (Option SettlementFact × Failure) SettlementFact := do
  ExceptT.adapt (fun e => (some claimed, failure ++ e))
    (finishAccountQuotaSettlementFailure claimed failure)
  let read ← ExceptT.adapt (none, ·) (Routine.attempt (readFact claimed.id))
  match read with
  | .ok stored =>
    if stored.state = .manual then throw (some stored, .settlementManualRequired :: failure)
    else throw (some stored, .settlementPending :: failure)
  | .error _ => throw (some claimed.unread, .settlementPending :: failure)

/-- The work of the worker that won the claim. -/
def recoverClaimed (claimed : SettlementFact) :
    Routine DB Env (Option SettlementFact × Failure) SettlementFact := do
  let legs ← Routine.catching (recoverLegs claimed)
  match legs with
  | .ok claimed => ExceptT.adapt (some claimed, ·) (readFact claimed.id)
  | .error (claimed, failure) => recoverFailure claimed failure

/-- The claim and the work behind the admission. -/
def recoverAdmitted (fact : SettlementFact) (workerID : String) :
    Routine DB Env (Option SettlementFact × Failure) SettlementFact := do
  let now ← ExceptT.adapt (none, ·) databaseTime
  let claimed ← claimAccountQuotaSettlementFact fact workerID now
  match claimed with
  | none => return fact
  | some claimed => recoverClaimed claimed

/-- `RecoverAccountQuotaSettlementFact`; the error carries the row returned with it
(`model/account_quota_settlement_fact.go:975–1042`). -/
def recoverAccountQuotaSettlementFact (fact : SettlementFact) (workerID : String) :
    Routine DB Env (Option SettlementFact × Failure) SettlementFact := do
  Routine.lift (check (trimSpace workerID ≠ "") (none, [.database]))
  let admitted ← recoveryAdmission fact
  match admitted with
  | .inl stored => return stored
  | .inr _ => recoverAdmitted fact workerID

/-! ### Recovery of an intent -/

/-- `accountQuotaSettlementIntentCreationStructuralError`
(`model/account_quota_settlement_fact.go:1149–1153`). -/
def creationFaults : Failure :=
  [.invalidInput, .ineligible, .recoveryConflict, .terminal, .staleReceipt, .writerEpochMismatch]

/-- The guarded update of an intent. -/
def intentTx (intent : SettlementIntent) (fact : Option SettlementFact) (state : WorkState) (db : DB)
    (_ : Ledger.TxEnv) : Fallible (DB × Bool) :=
  match db.intents.cas intent.id (fun i => i.lockVersion = intent.lockVersion)
    (fun i => { i with
      state := state, attempts := intent.attempts + 1, lockVersion := intent.lockVersion + 1
      factID := (fact.map SettlementFact.id).getD i.factID
      terminalReceiptID := (fact.map SettlementFact.terminalReceiptID).getD i.terminalReceiptID })
    with
  | some intents => .ok ({ db with intents := intents }, true)
  | none => .ok (db, false)

/-- `updateAccountQuotaSettlementIntent`; the error carries the intent returned with it
(`model/account_quota_settlement_fact.go:1104–1140`). -/
def updateAccountQuotaSettlementIntent (intent : SettlementIntent) (fact : Option SettlementFact)
    (state : WorkState) : Routine DB Env (SettlementIntent × Failure) SettlementIntent := do
  let _ ← ExceptT.adapt (intent, ·) databaseTime
  let hit ← ExceptT.adapt (intent, ·) (transaction (intentTx intent fact state))
  let stored ← ExceptT.adapt (intent, ·)
    (query fun db _ => need (db.intents.get? intent.id) [.recordNotFound])
  if hit = false ∧ stored.state ≠ .applied ∧ stored.state ≠ .manual then
    throw (stored, [.casLost])
  else return stored

/-- What `RecoverAccountQuotaSettlementIntent` returns. -/
structure IntentResult where
  intent : Option SettlementIntent
  fact : Option SettlementFact
  failure : Option Failure

/-- The state of an intent behind the recovery of its fact. -/
def intentState (fact : SettlementFact) (failure : Option Failure) : WorkState :=
  if fact.state = .applied then .applied
  else if fact.state = .manual ∨ (failure.getD []).isAny structuralFaults = true then .manual
  else .materialized

/-- The intent and the failure of an update. -/
def intentUpdate (intent : SettlementIntent) (fact : Option SettlementFact) (state : WorkState) :
    Prog DB Env (SettlementIntent × Failure) := do
  let updated ← (updateAccountQuotaSettlementIntent intent fact state).run
  match updated with
  | .ok stored => return (stored, [])
  | .error (stored, failure) => return (stored, failure)

/-- The part of `RecoverAccountQuotaSettlementIntent` behind a fact that could not be created
(`model/account_quota_settlement_fact.go:1190–1200`). -/
def intentWithoutFact (intent : SettlementIntent) (failure : Failure) : Prog DB Env IntentResult := do
  let state := if failure.isAny creationFaults then .manual else .pending
  let (stored, updateFailure) ← intentUpdate intent none state
  if state = .manual then
    return ⟨some stored, none, some (.settlementManualRequired :: (failure ++ updateFailure))⟩
  else return ⟨some stored, none, some (.settlementPending :: (failure ++ updateFailure))⟩

/-- The part of `RecoverAccountQuotaSettlementIntent` behind the fact
(`model/account_quota_settlement_fact.go:1201–1221`). -/
def intentWithFact (intent : SettlementIntent) (fact : SettlementFact) (workerID : String) :
    Prog DB Env IntentResult := do
  let recovered ← (recoverAccountQuotaSettlementFact fact (workerID ++ ":fact")).run
  let (storedFact, failure) : SettlementFact × Option Failure := match recovered with
    | .ok stored => (stored, none)
    | .error (stored, failure) => (stored.getD fact, some failure)
  let state := intentState storedFact failure
  let (stored, updateFailure) ← intentUpdate intent (some storedFact) state
  if state = .applied ∧ updateFailure = [] then return ⟨some stored, some storedFact, none⟩
  else if state = .manual then
    return ⟨some stored, some storedFact,
      some (.settlementManualRequired :: (failure.getD [] ++ updateFailure))⟩
  else return ⟨some stored, some storedFact,
      some (.settlementPending :: (failure.getD [] ++ updateFailure))⟩

/-- The applied fact of an applied intent (`model/account_quota_settlement_fact.go:1179–1185`). -/
def appliedIntent (intent : SettlementIntent) : Prog DB Env IntentResult := do
  let fact ← (query fun db _ => need (db.facts.get? intent.factID) [.recordNotFound]).run
  match fact with
  | .ok fact =>
    if 0 < intent.factID ∧ fact.state = .applied then return ⟨some intent, some fact, none⟩
    else return ⟨some intent, none, some [.recoveryConflict]⟩
  | .error _ => return ⟨some intent, none, some [.recoveryConflict]⟩

/-- A stored intent that still has to be worked on. -/
def openIntent (intent : SettlementIntent) (workerID : String) : Prog DB Env IntentResult := do
  let permit ← (query fun db _ => loadAccountQuotaExecutionPermitForIntent db intent).run
  match permit with
  | .error failure => return ⟨some intent, none, some failure⟩
  | .ok _ => do
    let fact ← (ensureAccountQuotaSettlementFact intent.input).run
    match fact with
    | .error failure => intentWithoutFact intent failure
    | .ok fact => intentWithFact intent fact workerID

/-- `RecoverAccountQuotaSettlementIntent` (`model/account_quota_settlement_fact.go:1158–1222`). -/
def recoverAccountQuotaSettlementIntent (intent : SettlementIntent) (workerID : String) :
    Prog DB Env IntentResult := do
  let read ← (query fun db _ => need (db.intents.get? intent.id) [.recordNotFound]).run
  match read with
  | .error failure => return ⟨none, none, some failure⟩
  | .ok stored =>
    match (do
      let (_, fingerprint) ← normalizeAccountQuotaSettlementInput stored.input
      validateAccountQuotaSettlementIntent intent stored.input fingerprint) with
    | .error failure => return ⟨some stored, none, some (.settlementManualRequired :: failure)⟩
    | .ok () =>
      match stored.state with
      | .manual => return ⟨some stored, none, some [.settlementManualRequired]⟩
      | .applied => appliedIntent stored
      | _ => openIntent stored workerID

end MyApiSpec.Settlement
