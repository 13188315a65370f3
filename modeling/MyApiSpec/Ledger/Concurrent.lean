import MyApiSpec.Base.Run
import MyApiSpec.Ledger.Invariant

/-!
# Interleaved ledger calls

Any number of calls and recovery workers over one database. A call makes its first reads,
opens its transaction, and after a failed or unanswered attempt reads its own event back
before it retries (`accountQuotaTransaction`, `model/account_quota_mutation.go:613–657`).
Every action is one atomic step, so a run is one interleaving. The database decides the
outcome of an attempt: it answers, it commits without an answer, or it rolls back.
-/

namespace MyApiSpec.Ledger

open Base List Table

/-! ### Calls -/

variable {db db' : DB} {r : Receipt} {norm : TerminalInput} {phase : TerminalPhase} {env : TxEnv}
  {log : ResetLog}

/-- The calls of the ledger. -/
inductive CallInput where
  | reserve (input : ReserveInput)
  | extend (reserveReceiptID targetQuota : Int)
  | settle (input : TerminalInput)
  | refund (input : TerminalInput)
  deriving DecidableEq, Repr

/-- The values a call captured before its transaction. -/
inductive CallCtx where
  | reserve (ctx : ReserveCtx)
  | extend (ctx : ExtendCtx)
  | terminal (ctx : TerminalCtx)
  deriving DecidableEq, Repr

/-- The request a transaction works on. -/
def CallCtx.requestID : CallCtx → String
  | .reserve ctx => ctx.requestID
  | .extend ctx => ctx.requestID
  | .terminal ctx => ctx.input.requestID

/-- The event key under which the call records its receipt. -/
def CallCtx.eventKey : CallCtx → String
  | .reserve ctx => accountQuotaEventKey ctx.requestID .reserve
  | .extend ctx => accountQuotaAdjustKey ctx.requestID ctx.targetQuota
  | .terminal ctx => ctx.eventKey

/-- The fingerprint that a readback compares. -/
def CallCtx.fingerprint : CallCtx → Fingerprint
  | .reserve ctx => ctx.fingerprint
  | .extend ctx => ctx.fingerprint
  | .terminal ctx => ctx.fingerprint

/-- The captured values after the transaction function ran on `db`. -/
def CallCtx.afterAttempt (db : DB) : CallCtx → CallCtx
  | .terminal ctx => .terminal (ctx.afterAttempt db)
  | ctx => ctx

/-- Apply a function to the captured values of a precheck. -/
def Precheck.map {κ κ' : Type} (f : κ → κ') : Precheck κ → Precheck κ'
  | .done r => .done r
  | .go ctx => .go (f ctx)

/-- The first reads of a call; `RefundAccountQuota` clears the actual quota. -/
def callPrecheck (db : DB) : CallInput → Except LedgerError (Precheck CallCtx)
  | .reserve input => (reservePrecheck db input).map (Precheck.map .reserve)
  | .extend id target => (extendPrecheck db id target).map (Precheck.map .extend)
  | .settle input => (terminalPrecheck db .settle input).map (Precheck.map .terminal)
  | .refund input =>
    (terminalPrecheck db .refund { input with actualQuota := 0 }).map (Precheck.map .terminal)

/-- The transaction of a call. -/
def callTx (db : DB) (env : TxEnv) : CallCtx → Except LedgerError (DB × Receipt × ResetLog)
  | .reserve ctx => reserveTx db env ctx
  | .extend ctx => (extendTx db env ctx).map (fun p => (p.1, p.2, []))
  | .terminal ctx => (terminalTx db env ctx).map (fun p => (p.1, p.2, []))

/-- Progress of a call. -/
inductive CallState where
  | ready
  | attempt (ctx : CallCtx) (n : Nat)
  | readback (ctx : CallCtx) (n : Nat) (e : LedgerError)
  | failed (ctx : TerminalCtx) (e : LedgerError)
  | returned (result : Except LedgerError Receipt)
  deriving DecidableEq

/-- `accountQuotaSQLiteTransactionAttempts`. -/
def accountQuotaSQLiteTransactionAttempts : Nat := 20

/-- The state after the first reads. -/
def CallState.afterPrecheck : Except LedgerError (Precheck CallCtx) → CallState
  | .error e => .returned (.error e)
  | .ok (.done r) => .returned (.ok r)
  | .ok (.go ctx) => .attempt ctx 0

/-- The state after the transaction loop gave up: settle and refund look for a terminal
receipt once more, the other calls return the error. -/
def CallState.giveUp : CallCtx → LedgerError → CallState
  | .terminal ctx, e => .failed ctx e
  | _, e => .returned (.error e)

/-- The retry decision behind a readback that found nothing; `busy` says whether a database
error was a lock conflict. -/
def CallState.retry (ctx : CallCtx) (n : Nat) (e : LedgerError) (busy : Bool) : CallState :=
  if (e = .casLost ∨ (e = .database ∧ busy = true)) ∧ n + 1 < accountQuotaSQLiteTransactionAttempts
  then .attempt ctx (n + 1) else CallState.giveUp ctx e

/-- Outcome of the readback query itself. -/
inductive ReadOutcome where
  | answered
  | locked
  | failed
  deriving DecidableEq, Repr

/-- The state after a readback (`model/account_quota_mutation.go:634–656`). -/
def CallState.afterReadback (db : DB) (ctx : CallCtx) (n : Nat) (e : LedgerError)
    (read : ReadOutcome) (busy : Bool) : CallState :=
  if ctx.fingerprint = .blank then CallState.retry ctx n e busy
  else
    match read with
    | .failed => CallState.giveUp ctx .database
    | .locked => CallState.retry ctx n e busy
    | .answered =>
      match accountQuotaReplay db ctx.eventKey ctx.fingerprint with
      | .error replayErr => CallState.giveUp ctx replayErr
      | .ok (some r) => .returned (.ok r)
      | .ok none => CallState.retry ctx n e busy

/-- What the database does with an attempt. -/
inductive TxOutcome where
  | respond
  | loseResponse
  | abort (locked : Bool)
  deriving DecidableEq, Repr

/-- A call in progress. -/
structure Call where
  input : CallInput
  state : CallState
  deriving DecidableEq

/-! ### Recovery workers -/

variable {input : CallInput} {ctx : CallCtx} {c : Call}

/-- Progress of a recovery worker on one candidate
(`model/account_quota_recovery.go:676–740`). -/
inductive WorkerState where
  | scanned (workerID : String) (now : Int) (candidate : Obligation)
  | invalid (candidate : Obligation)
  | valid (workerID : String) (now : Int) (candidate : Obligation)
  | won (id : Int)
  | refunding (claimed : Obligation) (call : Nat)
  | done

/-- The state after the validation of a candidate. -/
def WorkerState.afterValidation (workerID : String) (now : Int) (candidate : Obligation) :
    Except LedgerError Unit → WorkerState
  | .ok _ => .valid workerID now candidate
  | .error e => if accountQuotaRecoveryStructuralError e then .invalid candidate else .done

/-- The input of the refund a worker starts for a claimed obligation. -/
def Obligation.refundInput (o : Obligation) : TerminalInput :=
  { requestID := o.requestID, reserveReceiptID := o.reserveReceiptID, auditKey := o.auditKey }

/-! ### The system -/

/-- Database, calls, workers, and the log of all applied resets. -/
structure World where
  db : DB
  calls : List Call := []
  workers : List WorkerState := []
  resets : ResetLog := []

/-- One atomic step of some participant. -/
inductive Action where
  | start (input : CallInput)
  | precheck (i : Nat)
  | precheckFail (i : Nat)
  | transact (i : Nat) (env : TxEnv) (outcome : TxOutcome)
  | readback (i : Nat) (read : ReadOutcome) (busy : Bool)
  | cancel (i : Nat)
  | fallback (i : Nat) (found : Bool)
  | refundIntent (input : TerminalInput) (hasCause : Bool)
  | manualEvidence (input : TerminalInput)
  | dispatchEvidence (requestID : String) (userID tokenID reserveID : Int) (evidence : ReviewMetadata)
  | scan (workerID : String) (now id : Int)
  | validate (k : Nat) (read : Bool)
  | markManual (k : Nat)
  | claim (k : Nat) (answered : Bool)
  | reread (k : Nat)
  | finish (k : Nat) (now : Int)
  | periodReset (env : TxEnv) (id : Int)
  | adminReset (env : TxEnv) (id : Int) (advance : Bool)

/-- Replace the state of call `i`. -/
def World.setCall (w : World) (i : Nat) (c : Call) : World := { w with calls := w.calls.set i c }

/-- Start a call. -/
def World.addCall (w : World) (input : CallInput) : World :=
  { w with calls := w.calls ++ [⟨input, .ready⟩] }

/-- Replace the state of worker `k`. -/
def World.setWorker (w : World) (k : Nat) (s : WorkerState) : World :=
  { w with workers := w.workers.set k s }

/-- Commit a database change with the resets it applied. -/
def World.commit (w : World) (db : DB) (log : ResetLog) : World :=
  { w with db := db, resets := w.resets ++ log }

/-- Commit the result of an operation; a failed one changes nothing. -/
def World.attempt (w : World) : Except LedgerError DB → World
  | .ok db => w.commit db []
  | .error _ => w

/-- One attempt of the transaction of call `i`. -/
def World.transact (w : World) (i : Nat) (input : CallInput) (ctx : CallCtx) (n : Nat) (env : TxEnv)
    (outcome : TxOutcome) : World :=
  match outcome with
  | .abort locked =>
    w.setCall i ⟨input, .readback (if locked then ctx.afterAttempt w.db else ctx) n .database⟩
  | .respond =>
    match callTx w.db env ctx with
    | .error e => w.setCall i ⟨input, .readback (ctx.afterAttempt w.db) n e⟩
    | .ok (db, r, log) => (w.commit db log).setCall i ⟨input, .returned (.ok r)⟩
  | .loseResponse =>
    match callTx w.db env ctx with
    | .error _ => w.setCall i ⟨input, .readback (ctx.afterAttempt w.db) n .database⟩
    | .ok (db, _, log) =>
      (w.commit db log).setCall i ⟨input, .readback (ctx.afterAttempt w.db) n .database⟩

/-- The period reset of one subscription as the maintenance task runs it. -/
def periodResetTx (db : DB) (env : TxEnv) (id : Int) :
    Except LedgerError (Table UserSubscription × ResetLog) := do
  let sub ← need (db.subscriptions.get? id) .recordNotFound
  let plan ← getSubscriptionPlanByIdTx db.plans sub.planID
  let (subs, _, log) ← maybeResetUserSubscriptionWithPlanTx env db.subscriptions sub plan
  return (subs, log)

/-- The reset of one subscription that an administrator asked for. -/
def adminResetTx (db : DB) (env : TxEnv) (id : Int) (advance : Bool) :
    Except LedgerError (Table UserSubscription × ResetLog) := do
  let sub ← need (db.subscriptions.get? id) .recordNotFound
  let plan ← getSubscriptionPlanByIdTx db.plans sub.planID
  resetUserSubscriptionTx env db.subscriptions sub plan advance

/-- Commit a reset; a failed one changes nothing. -/
def World.reset (w : World) : Except LedgerError (Table UserSubscription × ResetLog) → World
  | .ok (subs, log) => w.commit { w.db with subscriptions := subs } log
  | .error _ => w

/-- The step function; `none` when the participant is not at the point the action needs. -/
def World.step (w : World) : Action → Option World
  | .start input => some (w.addCall input)
  | .precheck i =>
    match w.calls[i]? with
    | some ⟨input, .ready⟩ => some (w.setCall i ⟨input, .afterPrecheck (callPrecheck w.db input)⟩)
    | _ => none
  | .precheckFail i =>
    match w.calls[i]? with
    | some ⟨input, .ready⟩ => some (w.setCall i ⟨input, .returned (.error .database)⟩)
    | _ => none
  | .transact i env outcome =>
    match w.calls[i]? with
    | some ⟨input, .attempt ctx n⟩ => some (w.transact i input ctx n env outcome)
    | _ => none
  | .readback i read busy =>
    match w.calls[i]? with
    | some ⟨input, .readback ctx n e⟩ =>
      some (w.setCall i ⟨input, .afterReadback w.db ctx n e read busy⟩)
    | _ => none
  | .cancel i =>
    match w.calls[i]? with
    | some ⟨input, .attempt ctx (_ + 1)⟩ => some (w.setCall i ⟨input, .giveUp ctx .database⟩)
    | _ => none
  | .fallback i found =>
    match w.calls[i]? with
    | some ⟨input, .failed ctx e⟩ =>
      some (w.setCall i
        ⟨input, .returned (if found then terminalFallback w.db ctx e else .error e)⟩)
    | _ => none
  | .refundIntent input hasCause => some (w.attempt (ensureRefundRecovery w.db input hasCause))
  | .manualEvidence input => some (w.attempt (persistManualEvidence w.db input))
  | .dispatchEvidence requestID userID tokenID reserveID evidence =>
    some (w.attempt
      (setUsageDispatchEvidenceTx w.db requestID userID tokenID reserveID evidence))
  | .scan workerID now id =>
    match w.db.obligations.get? id with
    | some candidate =>
      if RecoveryCandidate candidate now then
        some { w with workers := w.workers ++ [.scanned workerID now candidate] }
      else none
    | none => none
  | .validate k read =>
    match w.workers[k]? with
    | some (.scanned workerID now candidate) =>
      some (w.setWorker k (if read then
        .afterValidation workerID now candidate
          (validateAccountQuotaTerminalRecoveryRecord w.db candidate) else .done))
    | _ => none
  | .markManual k =>
    match w.workers[k]? with
    | some (.invalid candidate) =>
      some ((w.attempt (need (markAccountQuotaTerminalRecoveryManual w.db candidate)
        .recoveryConflict)).setWorker k .done)
    | _ => none
  | .claim k answered =>
    match w.workers[k]? with
    | some (.valid workerID now candidate) =>
      match claimAccountQuotaTerminalRecovery w.db candidate workerID now with
      | some db => some ((w.commit db []).setWorker k (if answered then .won candidate.id else .done))
      | none => some (w.setWorker k .done)
    | _ => none
  | .reread k =>
    match w.workers[k]? with
    | some (.won id) =>
      match w.db.obligations.get? id with
      | some claimed =>
        some ((w.addCall (.refund claimed.refundInput)).setWorker k
          (.refunding claimed w.calls.length))
      | none => some (w.setWorker k .done)
    | _ => none
  | .finish k now =>
    match w.workers[k]? with
    | some (.refunding claimed i) =>
      match w.calls[i]? with
      | some ⟨_, .returned (.ok _)⟩ => some (w.setWorker k .done)
      | some ⟨_, .returned (.error _)⟩ =>
        some ((w.attempt (need (finishAccountQuotaTerminalRecovery w.db claimed now)
          .recoveryConflict)).setWorker k .done)
      | _ => none
    | _ => none
  | .periodReset env id => some (w.reset (periodResetTx w.db env id))
  | .adminReset env id advance => some (w.reset (adminResetTx w.db env id advance))

/-- A world before any call: the ledger tables are empty, the account tables are arbitrary. -/
structure World.Initial (w : World) : Prop where
  ledger : EmptyLedger w.db
  calls : w.calls = []
  workers : w.workers = []
  resets : w.resets = []

/-- A world that some interleaving reaches from an initial one. -/
def World.ReachableFrom (w₀ w : World) : Prop :=
  w₀.Initial ∧ ∃ actions, run World.step w₀ actions = some w

/-! ### What a call captured and what it answered -/

variable {w : World}

/-- The captured values of a call come from its input and from rows that are still stored. -/
inductive Captured (db : DB) : CallInput → CallCtx → Prop
  | reserve {input : ReserveInput} {c : ReserveCtx} (epoch : Int)
      (hn : normalizeAccountReserveInput input 0 = .ok c) :
      Captured db (.reserve input) (.reserve { c with epoch := epoch })
  | extend {ctx : ExtendCtx} {r : Receipt} (ok : ctx.Ok db)
      (hr : db.receipts.get? ctx.reserveReceiptID = some r) (hreq : r.requestID = ctx.requestID) :
      Captured db (.extend ctx.reserveReceiptID ctx.targetQuota) (.extend ctx)
  | settle {input norm : TerminalInput} (h : Head) (c : Receipt)
      (hn : normalizeAccountTerminalInput input .settle = .ok norm) :
      Captured db (.settle input)
        (.terminal ⟨.settle, norm, (terminalPayload norm .settle h c).digest⟩)
  | refund {input norm : TerminalInput} (h : Head) (c : Receipt)
      (hn : normalizeAccountTerminalInput { input with actualQuota := 0 } .refund = .ok norm) :
      Captured db (.refund input)
        (.terminal ⟨.refund, norm, (terminalPayload norm .refund h c).digest⟩)

/-- The receipt has the identity of a terminal input. -/
structure Receipt.Answers (r : Receipt) (phase : TerminalPhase) (input : TerminalInput) : Prop where
  requestID : r.requestID = input.requestID
  phase : r.phase = phase.toPhase
  requestedQuota : r.requestedQuota = input.actualQuota
  auditKey : r.auditKey = input.auditKey

/-- The receipt that a successful call returned is stored and has the identity of the input. -/
inductive Answered (db : DB) : CallInput → Receipt → Prop
  | reserve {input : ReserveInput} {c : ReserveCtx} {r : Receipt}
      (hn : normalizeAccountReserveInput input 0 = .ok c) (hr : r ∈ db.receipts.rows)
      (hf : r.requestFingerprint = c.fingerprint) : Answered db (.reserve input) r
  | extend {id target : Int} {supplied r : Receipt} (hs : db.receipts.get? id = some supplied)
      (hr : r ∈ db.receipts.rows) (hreq : r.requestID = supplied.requestID)
      (hp : r.phase.Chained) (ht : target ≤ r.appliedQuota) : Answered db (.extend id target) r
  | settle {input norm : TerminalInput} {r : Receipt}
      (hn : normalizeAccountTerminalInput input .settle = .ok norm) (hr : r ∈ db.receipts.rows)
      (ha : r.Answers .settle norm) : Answered db (.settle input) r
  | refund {input norm : TerminalInput} {r : Receipt}
      (hn : normalizeAccountTerminalInput { input with actualQuota := 0 } .refund = .ok norm)
      (hr : r ∈ db.receipts.rows) (ha : r.Answers .refund norm) : Answered db (.refund input) r

/-- A call whose captured values and answer are in order. -/
def CallOk (db : DB) (c : Call) : Prop :=
  match c.state with
  | .attempt ctx _ => Captured db c.input ctx
  | .readback ctx _ _ => Captured db c.input ctx
  | .failed ctx _ => Captured db c.input (.terminal ctx)
  | .returned (.ok r) => Answered db c.input r
  | _ => True

theorem Captured.grow (h : Captured db input ctx) (hr : ReceiptsGrow db db') (hh : HeadsGrow db db') :
    Captured db' input ctx := by
  cases h with
  | reserve epoch hn => exact .reserve epoch hn
  | extend ok hs hreq => exact .extend (ok.grow hr hh) (hr _ _ hs) hreq
  | settle h c hn => exact .settle h c hn
  | refund h c hn => exact .refund h c hn

theorem ReceiptsGrow.mem (hr : ReceiptsGrow db db') (h : r ∈ db.receipts.rows) :
    r ∈ db'.receipts.rows :=
  get?_mem (hr _ r (get?_of_mem h))

theorem Answered.grow (h : Answered db input r) (hr : ReceiptsGrow db db') :
    Answered db' input r := by
  cases h with
  | reserve hn hm hf => exact .reserve hn (hr.mem hm) hf
  | extend hs hm hreq hp ht => exact .extend (hr _ _ hs) (hr.mem hm) hreq hp ht
  | settle hn hm ha => exact .settle hn (hr.mem hm) ha
  | refund hn hm ha => exact .refund hn (hr.mem hm) ha

theorem CallOk.grow (h : CallOk db c) (hr : ReceiptsGrow db db') (hh : HeadsGrow db db') :
    CallOk db' c := by
  unfold CallOk at h ⊢
  split at h
  · exact h.grow hr hh
  · exact h.grow hr hh
  · exact h.grow hr hh
  · exact h.grow hr
  · trivial

/-! ### Normalised inputs -/

theorem normalizeAccountRequestID_ne {requestID norm : String}
    (h : normalizeAccountRequestID requestID = .ok norm) : norm ≠ "" := by
  simp only [normalizeAccountRequestID] at h
  split at h <;> cases h
  next hn => exact fun he => hn (.inl he)

/-- The values a normalised reserve input captures are valid under every epoch. -/
theorem reserveInput_ok {input : ReserveInput} {c : ReserveCtx} {e : Int}
    (h : normalizeAccountReserveInput input e = .ok c) (epoch : Int) :
    ({ c with epoch := epoch } : ReserveCtx).Ok := by
  simp only [normalizeAccountReserveInput, bind_eq_ok, check_eq_ok, exists_const, pure_eq_ok] at h
  obtain ⟨requestID, hid, ⟨huser, htoken, hquota, -⟩, fingerprint, hfp, rfl⟩ := h
  generalize normalizeBillingPreference input.billingPreference = preference at hfp ⊢
  exact ⟨normalizeAccountRequestID_ne hid, huser, htoken, hquota, rfl, hfp⟩

/-- What a normalised terminal input satisfies. -/
theorem terminalInput_ok {input : TerminalInput}
    (h : normalizeAccountTerminalInput input phase = .ok norm) :
    norm.requestID ≠ "" ∧ 0 < norm.reserveReceiptID ∧ validAccountQuotaValue norm.actualQuota ∧
      (phase = .refund → norm.auditKey ≠ "") ∧ norm.actualQuota = input.actualQuota := by
  simp only [normalizeAccountTerminalInput, bind_eq_ok, check_eq_ok, exists_const, pure_eq_ok] at h
  obtain ⟨requestID, hid, ⟨hreserve, hquota, -⟩, haudit, rfl⟩ := h
  exact ⟨normalizeAccountRequestID_ne hid, hreserve, hquota, haudit, rfl⟩

variable {f : Fingerprint}

theorem settleCtx_ok {input : TerminalInput}
    (h : normalizeAccountTerminalInput input .settle = .ok norm) :
    TerminalCtx.Ok ⟨.settle, norm, f⟩ :=
  ⟨(terminalInput_ok h).1, (terminalInput_ok h).2.2.1, fun hp => by cases hp⟩

theorem refundCtx_ok {input : TerminalInput}
    (h : normalizeAccountTerminalInput { input with actualQuota := 0 } .refund = .ok norm) :
    TerminalCtx.Ok ⟨.refund, norm, f⟩ :=
  ⟨(terminalInput_ok h).1, (terminalInput_ok h).2.2.1,
    fun _ => ⟨(terminalInput_ok h).2.2.2.2, (terminalInput_ok h).2.2.2.1 rfl⟩⟩

/-! ### Identity of answers -/

variable {h : Head}

/-- A sealed receipt with a terminal fingerprint has the identity of the input behind it. -/
theorem Receipt.Sealed.answers {input : TerminalInput} {c : Receipt} (hs : r.Sealed)
    (hf : r.requestFingerprint = (terminalPayload input phase h c).digest) :
    r.Answers phase input := by
  have hp := hs.payload_eq hf
  have hphase : r.phase = phase.toPhase := by
    rw [← r.payload_phase, hp]
    rfl
  refine ⟨?_, hphase, ?_, ?_⟩
  · rw [← r.payload_requestID, hp]
    rfl
  · have hq : r.payload.actualQuota = r.requestedQuota := by
      unfold Receipt.payload
      rw [hphase]
      cases phase <;> rfl
    rw [← hq, hp]
    rfl
  · rw [← r.payload_auditKey, hp]
    rfl

/-- A sealed receipt with an adjustment fingerprint is the adjustment to that target. -/
theorem Receipt.Sealed.adjusts {target : Int} {c : Receipt} (hs : r.Sealed)
    (hf : r.requestFingerprint = (adjustPayload h c target).digest) :
    r.phase = .adjust ∧ r.requestID = h.requestID ∧ r.requestedQuota = target := by
  have hp := hs.payload_eq hf
  have hphase : r.phase = .adjust := by
    rw [← r.payload_phase, hp]
    rfl
  refine ⟨hphase, ?_, ?_⟩
  · rw [← r.payload_requestID, hp]
    rfl
  · have hq : r.payload.requestedQuota = r.requestedQuota := by
      unfold Receipt.payload
      rw [hphase]
    rw [← hq, hp]
    rfl

/-- A stored receipt with the fingerprint that a call captured answers the call. -/
theorem Captured.answered (hw : WF db) (hc : Captured db input ctx) (hr : r ∈ db.receipts.rows)
    (hf : r.requestFingerprint = ctx.fingerprint) : Answered db input r := by
  have hok := hw.receipt r hr
  cases hc with
  | reserve epoch hn => exact .reserve hn hr hf
  | extend ok hs hreq =>
    obtain ⟨h, hh, hhr, c, -, -, hfp⟩ := ok.fingerprint
    obtain ⟨-, hd⟩ := accountQuotaFingerprint_eq_ok.mp hfp
    obtain ⟨hphase, hid, hq⟩ := hok.isSealed.adjusts (hf.trans hd)
    exact .extend hs hr (hid.trans (hhr.trans hreq.symm)) (.inr hphase)
      (by rw [hok.adjusted hphase, hq])
  | settle h c hn => exact .settle hn hr (hok.isSealed.answers hf)
  | refund h c hn => exact .refund hn hr (hok.isSealed.answers hf)

/-! ### First reads -/

theorem reservePrecheck_ok {input : ReserveInput} {p : Precheck ReserveCtx}
    (h : reservePrecheck db input = .ok p) :
    ∃ c, normalizeAccountReserveInput input 0 = .ok c ∧
      ((∃ r ∈ db.receipts.rows, p = .done r ∧ r.requestFingerprint = c.fingerprint) ∨
        ∃ epoch, p = .go { c with epoch := epoch }) := by
  simp only [reservePrecheck, bind_eq_ok] at h
  obtain ⟨c, hc, st, -, replay, hreplay, h⟩ := h
  refine ⟨c, hc, ?_⟩
  rcases replay_eq_ok.mp hreplay with ⟨rfl, -⟩ | ⟨r, rfl, hr, hf, -⟩
  · cases h
    exact .inr ⟨_, rfl⟩
  · simp only [bind_eq_ok, check_eq_ok, exists_const, pure_eq_ok] at h
    exact .inl ⟨r, (eventFind_mem hr).1, h.2.symm, hf⟩

variable {id : Int}

theorem extendPrecheck_ok {target : Int} {p : Precheck ExtendCtx} (hw : WF db)
    (h : extendPrecheck db id target = .ok p) :
    ∃ supplied head, db.receipts.get? id = some supplied ∧ head ∈ db.heads.rows ∧
      head.requestID = supplied.requestID ∧
      ((∃ r ∈ db.receipts.rows, p = .done r ∧ HeadMatches head r ∧ r.phase.Chained ∧
          target ≤ head.appliedQuota) ∨
        ∃ ctx, ctx.Ok db ∧ ctx.requestID = head.requestID ∧ ctx.reserveReceiptID = id ∧
          ctx.targetQuota = target ∧
          ((∃ r ∈ db.receipts.rows, p = .done r ∧ r.requestFingerprint = ctx.fingerprint) ∨
            p = .go ctx)) := by
  simp only [extendPrecheck, bind_eq_ok, check_eq_ok, exists_const, need_eq_ok, findHead_eq_ok] at h
  obtain ⟨⟨-, hvalid⟩, supplied, hs, -, head, hhead, st, -, -, current, hcur, h⟩ := h
  obtain ⟨hmem, hreq⟩ := headFind_mem hhead
  obtain ⟨c, hc, hm, hch⟩ := (hw.head head hmem).current
  cases hcur.symm.trans hc
  refine ⟨supplied, head, hs, hmem, hreq, ?_⟩
  split at h
  · next hle =>
    simp only [bind_eq_ok, check_eq_ok, exists_const, pure_eq_ok] at h
    obtain ⟨inChain, -, -, rfl⟩ := h
    exact .inl ⟨current, get?_mem hcur, rfl, hm, hch, hle⟩
  · simp only [bind_eq_ok] at h
    obtain ⟨fp, hfp, replay, hreplay, h⟩ := h
    refine .inr ⟨⟨id, target, head.requestID, head.writerEpoch, fp⟩,
      ⟨hvalid, head, hmem, rfl, current, get?_mem hcur, hm.requestID, hfp⟩, rfl, rfl, rfl, ?_⟩
    rcases replay_eq_ok.mp hreplay with ⟨rfl, -⟩ | ⟨r, rfl, hr, hf, -⟩
    · cases h
      exact .inr rfl
    · cases h
      exact .inl ⟨r, (eventFind_mem hr).1, rfl, hf⟩

theorem terminalPrecheck_ok {input : TerminalInput} {p : Precheck TerminalCtx}
    (h : terminalPrecheck db phase input = .ok p) :
    ∃ norm head current, normalizeAccountTerminalInput input phase = .ok norm ∧
      ((∃ r ∈ db.receipts.rows, p = .done r ∧
          r.requestFingerprint = (terminalPayload norm phase head current).digest) ∨
        p = .go ⟨phase, norm, (terminalPayload norm phase head current).digest⟩) := by
  simp only [terminalPrecheck, accountQuotaTerminalFingerprint, bind_eq_ok, check_eq_ok, exists_const,
    need_eq_ok] at h
  obtain ⟨norm, hnorm, st, -, head, -, current, -, _, -, fp, ⟨-, hfp⟩, replay, hreplay, h⟩ := h
  obtain ⟨-, rfl⟩ := accountQuotaFingerprint_eq_ok.mp hfp
  refine ⟨norm, head, current, hnorm, ?_⟩
  rcases replay_eq_ok.mp hreplay with ⟨rfl, -⟩ | ⟨r, rfl, hr, hf, -⟩
  · cases h
    exact .inr rfl
  · simp only [bind_eq_ok, check_eq_ok, exists_const, pure_eq_ok] at h
    exact .inl ⟨r, (eventFind_mem hr).1, h.2.symm, hf⟩

/-- The first reads capture values of the input, or answer with a receipt of its identity. -/
theorem callPrecheck_ok (hw : WF db) (input : CallInput) :
    CallOk db ⟨input, .afterPrecheck (callPrecheck db input)⟩ := by
  cases hp : callPrecheck db input with
  | error e => trivial
  | ok p =>
    cases input with
    | reserve input =>
      rw [callPrecheck, map_eq_ok] at hp
      obtain ⟨q, hq, rfl⟩ := hp
      obtain ⟨c, hc, ⟨r, hr, rfl, hf⟩ | ⟨epoch, rfl⟩⟩ := reservePrecheck_ok hq
      · exact Answered.reserve hc hr hf
      · exact Captured.reserve epoch hc
    | extend id target =>
      rw [callPrecheck, map_eq_ok] at hp
      obtain ⟨q, hq, rfl⟩ := hp
      obtain ⟨supplied, head, hs, hmem, hreq, ⟨r, hr, rfl, hm, hch, hle⟩ |
        ⟨ctx, hok, hcr, rfl, rfl, hpq⟩⟩ := extendPrecheck_ok hw hq
      · exact Answered.extend hs hr (hm.requestID.trans hreq) hch (hm.appliedQuota ▸ hle)
      · have hcap : Captured db (.extend ctx.reserveReceiptID ctx.targetQuota) (.extend ctx) :=
          .extend hok hs (hreq.symm.trans hcr.symm)
        rcases hpq with ⟨r, hr, rfl, hf⟩ | rfl
        · exact hcap.answered hw hr hf
        · exact hcap
    | settle input =>
      rw [callPrecheck, map_eq_ok] at hp
      obtain ⟨q, hq, rfl⟩ := hp
      obtain ⟨norm, head, current, hn, ⟨r, hr, rfl, hf⟩ | rfl⟩ := terminalPrecheck_ok hq
      · exact (Captured.settle head current hn).answered hw hr hf
      · exact Captured.settle head current hn
    | refund input =>
      rw [callPrecheck, map_eq_ok] at hp
      obtain ⟨q, hq, rfl⟩ := hp
      obtain ⟨norm, head, current, hn, ⟨r, hr, rfl, hf⟩ | rfl⟩ := terminalPrecheck_ok hq
      · exact (Captured.refund head current hn).answered hw hr hf
      · exact Captured.refund head current hn

/-! ### Transactions and readbacks -/

theorem Captured.afterAttempt (h : Captured db input ctx) :
    Captured db input (ctx.afterAttempt db) := by
  cases h with
  | reserve epoch hn => exact .reserve epoch hn
  | extend ok hs hreq => exact .extend ok hs hreq
  | settle h c hn =>
    simp only [CallCtx.afterAttempt, TerminalCtx.afterAttempt]
    split
    · next l hl =>
      obtain ⟨-, hd⟩ := accountQuotaFingerprint_eq_ok.mp (terminalLock_eq_ok.mp hl).fingerprint
      simp only [hd]
      exact .settle l.head l.current hn
    · exact .settle h c hn
  | refund h c hn =>
    simp only [CallCtx.afterAttempt, TerminalCtx.afterAttempt]
    split
    · next l hl =>
      obtain ⟨-, hd⟩ := accountQuotaFingerprint_eq_ok.mp (terminalLock_eq_ok.mp hl).fingerprint
      simp only [hd]
      exact .refund l.head l.current hn
    · exact .refund h c hn

/-- The receipt a committed terminal transaction returns has the identity of its input. -/
theorem terminalTx_answers {ctx : TerminalCtx} (hw : WF db) (hok : ctx.Ok)
    (h : terminalTx db env ctx = .ok (db', r)) :
    r ∈ db'.receipts.rows ∧ r.Answers ctx.phase ctx.input := by
  have hw' : WF db' := (Commit.terminal hok h).wf hw
  rcases terminalTx_ok h with ⟨rfl, l, hl, hr, -, hf⟩ | ⟨l, o, ps, g, rfl, rfl, hps⟩
  · obtain ⟨-, hd⟩ := accountQuotaFingerprint_eq_ok.mp hl.fingerprint
    exact ⟨hr, (hw.receipt r hr).isSealed.answers (hf.trans hd)⟩
  · exact ⟨mem_insert.mpr (.inr rfl), ⟨rfl, rfl, rfl, rfl⟩⟩

/-- The receipt a committed extension returns is a chain receipt that covers the target. -/
theorem extendTx_answers {ctx : ExtendCtx} {s : Receipt} (hw : WF db) (hok : ctx.Ok db)
    (hs : db.receipts.get? ctx.reserveReceiptID = some s) (hreq : s.requestID = ctx.requestID)
    (h : extendTx db env ctx = .ok (db', r)) :
    Answered db' (.extend ctx.reserveReceiptID ctx.targetQuota) r := by
  rcases extendTx_ok h with ⟨rfl, head, hhead, -, hr, hcase⟩ |
    ⟨head, current, user, token, sub, o, ps, g, rfl, rfl, hps⟩
  · rcases hcase with ⟨hm, hle⟩ | hf
    · obtain ⟨hmem, hid⟩ := headFind_mem hhead
      obtain ⟨c, hc, -, hch⟩ := (hw.head head hmem).current
      cases (get?_eq_some_iff.mpr ⟨hr, hm.id⟩).symm.trans hc
      exact .extend hs hr (hm.requestID.trans (hid.trans hreq.symm)) hch (hm.appliedQuota ▸ hle)
    · exact (Captured.extend hok hs hreq).answered hw hr hf
  · refine .extend (get?_insert_of_some hs) (mem_insert.mpr (.inr rfl)) ?_ (.inr rfl)
      (le_refl _)
    exact (headFind_mem g.headRow).2.trans hreq.symm

/-- A committed attempt is a committed change, and its receipt answers the call. -/
theorem callTx_ok (hw : WF db) (hc : Captured db input ctx)
    (h : callTx db env ctx = .ok (db', r, log)) : Commit db db' log ∧ Answered db' input r := by
  cases hc with
  | reserve epoch hn =>
    refine ⟨.reserve (reserveInput_ok hn epoch) h, ?_⟩
    rcases reserveTx_ok h with ⟨rfl, -, hr, -, hf⟩ | ⟨user, token, choice, applied, ps, g, rfl, -, rfl, -⟩
    · exact .reserve hn hr hf
    · exact .reserve hn (mem_insert.mpr (.inr rfl)) rfl
  | extend ok hs hreq =>
    rw [callTx, map_eq_ok] at h
    obtain ⟨⟨d, x⟩, hx, he⟩ := h
    cases he
    exact ⟨.extend ok hx, extendTx_answers hw ok hs hreq hx⟩
  | settle h0 c hn =>
    rw [callTx, map_eq_ok] at h
    obtain ⟨⟨d, x⟩, hx, he⟩ := h
    cases he
    obtain ⟨hr, ha⟩ := terminalTx_answers hw (settleCtx_ok hn) hx
    exact ⟨.terminal (settleCtx_ok hn) hx, .settle hn hr ha⟩
  | refund h0 c hn =>
    rw [callTx, map_eq_ok] at h
    obtain ⟨⟨d, x⟩, hx, he⟩ := h
    cases he
    obtain ⟨hr, ha⟩ := terminalTx_answers hw (refundCtx_ok hn) hx
    exact ⟨.terminal (refundCtx_ok hn) hx, .refund hn hr ha⟩

theorem giveUp_ok (h : Captured db input ctx) (e : LedgerError) :
    CallOk db ⟨input, .giveUp ctx e⟩ := by
  cases ctx with
  | terminal ctx => exact h
  | reserve ctx => trivial
  | extend ctx => trivial

theorem retry_ok (h : Captured db input ctx) (n : Nat) (e : LedgerError) (busy : Bool) :
    CallOk db ⟨input, .retry ctx n e busy⟩ := by
  unfold CallState.retry
  split
  · exact h
  · exact giveUp_ok h e

theorem afterReadback_ok (hw : WF db) (h : Captured db input ctx) (n : Nat) (e : LedgerError)
    (read : ReadOutcome) (busy : Bool) :
    CallOk db ⟨input, .afterReadback db ctx n e read busy⟩ := by
  unfold CallState.afterReadback
  split
  · exact retry_ok h n e busy
  cases read with
  | failed => exact giveUp_ok h _
  | locked => exact retry_ok h n e busy
  | answered =>
    cases hr : accountQuotaReplay db ctx.eventKey ctx.fingerprint with
    | error e' => exact giveUp_ok h e'
    | ok o =>
      rcases replay_eq_ok.mp hr with ⟨rfl, -⟩ | ⟨r, rfl, hfind, hf, -⟩
      · exact retry_ok h n e busy
      · exact h.answered hw (eventFind_mem hfind).1 hf

theorem fallback_ok {ctx : TerminalCtx} (hw : WF db) (h : Captured db input (.terminal ctx))
    (e : LedgerError) : CallOk db ⟨input, .returned (terminalFallback db ctx e)⟩ := by
  unfold terminalFallback
  split
  · trivial
  · next t ht =>
    split
    · next hm => exact h.answered hw (find?_mem ht) hm.2.2
    · trivial

/-! ### Steps and runs -/

/-- A candidate was read in a state that the refund worker owns. -/
def WorkerOk : WorkerState → Prop
  | .scanned _ _ candidate => candidate.state.Refunding
  | .invalid candidate => candidate.state.Refunding
  | .valid _ _ candidate => candidate.state.Refunding
  | _ => True

/-- The invariant of the whole system. -/
structure World.Ok (w : World) : Prop where
  wf : WF w.db
  calls : ∀ c ∈ w.calls, CallOk w.db c
  workers : ∀ s ∈ w.workers, WorkerOk s

/-- The database moves by one committed change whose resets are logged. -/
def World.Advances (w w' : World) : Prop :=
  ∃ log, Commit w.db w'.db log ∧ w'.resets = w.resets ++ log

/-- A step of the system: one logged change that keeps the invariant. -/
def World.Steps (w w' : World) : Prop := w.Advances w' ∧ w'.Ok

theorem World.Initial.ok (h : w.Initial) : w.Ok :=
  ⟨wf_empty h.ledger, by simp [h.calls], by simp [h.workers]⟩

theorem World.Advances.refl (w : World) : w.Advances w :=
  ⟨[], .lifecycle (.inl rfl), by simp⟩

theorem World.Ok.setCall (h : w.Ok) (i : Nat) (hc : CallOk w.db c) : (w.setCall i c).Ok := by
  refine ⟨h.wf, ?_, h.workers⟩
  intro x hx
  rcases mem_or_eq_of_mem_set hx with hx | rfl
  · exact h.calls x hx
  · exact hc

theorem World.Ok.addCall (h : w.Ok) (input : CallInput) : (w.addCall input).Ok := by
  refine ⟨h.wf, ?_, h.workers⟩
  intro x hx
  rcases mem_append.mp hx with hx | hx
  · exact h.calls x hx
  · rw [mem_singleton.mp hx]
    trivial

variable {s : WorkerState}

theorem World.Ok.setWorker (h : w.Ok) (k : Nat) (hs : WorkerOk s) :
    (w.setWorker k s).Ok := by
  refine ⟨h.wf, h.calls, ?_⟩
  intro x hx
  rcases mem_or_eq_of_mem_set hx with hx | rfl
  · exact h.workers x hx
  · exact hs

theorem World.Ok.commit (h : w.Ok) (hc : Commit w.db db log) : w.Steps (w.commit db log) :=
  ⟨⟨log, hc, rfl⟩, hc.wf h.wf, fun c hm => (h.calls c hm).grow hc.grow.1 hc.grow.2, h.workers⟩

theorem World.Ok.attempt (h : w.Ok) {r : Except LedgerError DB}
    (hr : ∀ db, r = .ok db → MovesObligation w.db db) : w.Steps (w.attempt r) := by
  cases r with
  | error e => exact ⟨World.Advances.refl w, h⟩
  | ok db => exact h.commit (.lifecycle (hr db rfl))

theorem World.Ok.reset (h : w.Ok) {r : Except LedgerError (Table UserSubscription × ResetLog)}
    (hr : ∀ subs log, r = .ok (subs, log) → ResetEffect w.db.subscriptions subs log) :
    w.Steps (w.reset r) := by
  cases r with
  | error e => exact ⟨World.Advances.refl w, h⟩
  | ok p => exact h.commit (.reset (hr p.1 p.2 rfl))

variable {subs : Table UserSubscription}

theorem periodResetTx_effect
    (h : periodResetTx db env id = .ok (subs, log)) : ResetEffect db.subscriptions subs log := by
  simp only [periodResetTx, bind_eq_ok, need_eq_ok, pure_eq_ok, Prod.mk.injEq] at h
  obtain ⟨sub, hs, plan, -, ⟨t, x, l⟩, hr, rfl, rfl⟩ := h
  have hid : sub.id = id := get?_id hs
  exact (maybeReset_effect (hid ▸ hs) hr).1

theorem adminResetTx_effect {advance : Bool}
    (h : adminResetTx db env id advance = .ok (subs, log)) :
    ResetEffect db.subscriptions subs log := by
  simp only [adminResetTx, bind_eq_ok, need_eq_ok] at h
  obtain ⟨sub, hs, plan, -, hr⟩ := h
  have hid : sub.id = id := get?_id hs
  exact resetUserSubscriptionTx_effect (hid ▸ hs) hr

theorem World.Ok.transact (hok : w.Ok) {i n : Nat} (hc : Captured w.db input ctx) (env : TxEnv)
    (outcome : TxOutcome) : w.Steps (w.transact i input ctx n env outcome) := by
  have hstay : ∀ e, w.Steps (w.setCall i ⟨input, .readback (ctx.afterAttempt w.db) n e⟩) :=
    fun e => ⟨World.Advances.refl w, hok.setCall i hc.afterAttempt⟩
  cases outcome with
  | abort locked =>
    cases locked
    · exact ⟨World.Advances.refl w, hok.setCall i hc⟩
    · exact hstay _
  | respond =>
    unfold World.transact
    cases htx : callTx w.db env ctx with
    | error e => exact hstay e
    | ok p =>
      obtain ⟨hcommit, ha⟩ := callTx_ok hok.wf hc htx
      obtain ⟨hadv, hok'⟩ := hok.commit hcommit
      exact ⟨hadv, hok'.setCall i ha⟩
  | loseResponse =>
    unfold World.transact
    cases htx : callTx w.db env ctx with
    | error e => exact hstay _
    | ok p =>
      obtain ⟨hcommit, -⟩ := callTx_ok hok.wf hc htx
      obtain ⟨hadv, hok'⟩ := hok.commit hcommit
      exact ⟨hadv, hok'.setCall i (hc.afterAttempt.grow hcommit.grow.1 hcommit.grow.2)⟩

variable {now : Int}

theorem RecoveryCandidate.refunding {o : Obligation} (h : RecoveryCandidate o now) :
    o.state.Refunding := by
  rcases h with h | ⟨h, -⟩ | ⟨h, -⟩
  · exact .inl h
  · exact .inr (.inl h)
  · exact .inr (.inr h)

theorem afterValidation_ok {workerID : String} {candidate : Obligation}
    (h : candidate.state.Refunding) (r : Except LedgerError Unit) :
    WorkerOk (.afterValidation workerID now candidate r) := by
  cases r with
  | ok _ => exact h
  | error e =>
    simp only [WorkerState.afterValidation]
    split
    · exact h
    · trivial

private theorem call_of_get (hok : w.Ok) {i : Nat} (h : w.calls[i]? = some c) :
    CallOk w.db c := hok.calls c (mem_of_getElem? h)

private theorem worker_of_get (hok : w.Ok) {k : Nat} (h : w.workers[k]? = some s) :
    WorkerOk s := hok.workers s (mem_of_getElem? h)

/-- Every step is one logged change of the database and keeps the invariant. -/
theorem World.Ok.step {w' : World} {a : Action} (hok : w.Ok) (h : w.step a = some w') :
    w.Steps w' := by
  have hadv := World.Advances.refl w
  cases a with
  | start input =>
    cases h
    exact ⟨hadv, hok.addCall input⟩
  | precheck i =>
    simp only [World.step] at h
    split at h <;> cases h
    next input hi => exact ⟨hadv, hok.setCall i (callPrecheck_ok hok.wf input)⟩
  | precheckFail i =>
    simp only [World.step] at h
    split at h <;> cases h
    exact ⟨hadv, hok.setCall i trivial⟩
  | transact i env outcome =>
    simp only [World.step] at h
    split at h <;> cases h
    next input ctx n hi => exact hok.transact (call_of_get hok hi) env outcome
  | readback i read busy =>
    simp only [World.step] at h
    split at h <;> cases h
    next input ctx n e hi =>
      exact ⟨hadv, hok.setCall i (afterReadback_ok hok.wf (call_of_get hok hi) n e read busy)⟩
  | cancel i =>
    simp only [World.step] at h
    split at h <;> cases h
    next input ctx n hi => exact ⟨hadv, hok.setCall i (giveUp_ok (call_of_get hok hi) _)⟩
  | fallback i found =>
    simp only [World.step] at h
    split at h <;> cases h
    next input ctx e hi =>
      refine ⟨hadv, hok.setCall i ?_⟩
      cases found
      · trivial
      · exact fallback_ok hok.wf (call_of_get hok hi) e
  | refundIntent input hasCause =>
    cases h
    exact hok.attempt (fun _ => refundIntent_moves)
  | manualEvidence input =>
    cases h
    exact hok.attempt (fun _ => manualEvidence_moves)
  | dispatchEvidence requestID userID tokenID reserveID evidence =>
    cases h
    exact hok.attempt (fun _ => dispatchEvidence_moves)
  | scan workerID now id =>
    simp only [World.step] at h
    split at h
    · split at h <;> cases h
      next hc =>
        refine ⟨hadv, hok.wf, hok.calls, ?_⟩
        intro s hs
        rcases mem_append.mp hs with hs | hs
        · exact hok.workers s hs
        · rw [mem_singleton.mp hs]
          exact hc.refunding
    · cases h
  | validate k read =>
    simp only [World.step] at h
    split at h <;> cases h
    next workerID now candidate hk =>
      refine ⟨hadv, hok.setWorker k ?_⟩
      cases read
      · trivial
      · exact afterValidation_ok (worker_of_get hok hk) _
  | markManual k =>
    simp only [World.step] at h
    split at h <;> cases h
    next candidate hk =>
      obtain ⟨hadv', hok'⟩ := hok.attempt (r := need
        (markAccountQuotaTerminalRecoveryManual w.db candidate) .recoveryConflict)
        (fun _ hdb => markManual_moves (worker_of_get hok hk) (need_eq_ok.mp hdb))
      exact ⟨hadv', hok'.setWorker k trivial⟩
  | claim k answered =>
    simp only [World.step] at h
    split at h
    · split at h <;> cases h
      · next db hdb =>
        obtain ⟨hadv', hok'⟩ := hok.commit (.lifecycle (claim_moves hdb))
        refine ⟨hadv', hok'.setWorker k ?_⟩
        cases answered <;> trivial
      · exact ⟨hadv, hok.setWorker k trivial⟩
    · cases h
  | reread k =>
    simp only [World.step] at h
    split at h
    · split at h <;> cases h
      · exact ⟨hadv, (hok.addCall _).setWorker k trivial⟩
      · exact ⟨hadv, hok.setWorker k trivial⟩
    · cases h
  | finish k now =>
    simp only [World.step] at h
    split at h
    · next claimed i hk =>
      split at h <;> cases h
      · exact ⟨hadv, hok.setWorker k trivial⟩
      · obtain ⟨hadv', hok'⟩ := hok.attempt (r := need
          (finishAccountQuotaTerminalRecovery w.db claimed now) .recoveryConflict)
          (fun _ hdb => finish_moves (need_eq_ok.mp hdb))
        exact ⟨hadv', hok'.setWorker k trivial⟩
    · cases h
  | periodReset env id =>
    cases h
    exact hok.reset (fun _ _ => periodResetTx_effect)
  | adminReset env id advance =>
    cases h
    exact hok.reset (fun _ _ => adminResetTx_effect)

variable {w₀ : World}

/-- The invariant holds in every reachable world. -/
theorem World.ReachableFrom.ok (h : w₀.ReachableFrom w) : w.Ok := by
  obtain ⟨h0, actions, hrun⟩ := h
  exact run_invariant World.Ok (fun _ _ _ hs hstep => (hs.step hstep).2) actions w₀ w h0.ok hrun

/-- What every committed change keeps holds in every reachable world. -/
theorem World.ReachableFrom.invariant (h : w₀.ReachableFrom w)
    (P : DB → ResetLog → Prop) (h0 : P w₀.db [])
    (hstep : ∀ db db' log log', WF db → P db log → Commit db db' log' → P db' (log ++ log')) :
    P w.db w.resets := by
  obtain ⟨hinit, actions, hrun⟩ := h
  have hinv := run_invariant (fun w : World => w.Ok ∧ P w.db w.resets) (by
    rintro s a s' ⟨hok, hp⟩ hs
    obtain ⟨⟨log, hc, hlog⟩, hok'⟩ := hok.step hs
    exact ⟨hok', hlog ▸ hstep _ _ _ _ hok.wf hp hc⟩) actions w₀ w
    ⟨hinit.ok, by rw [hinit.resets]; exact h0⟩ hrun
  exact hinv.2

/-! ### A concrete ledger -/

/-- A database time with a calendar of plain days. -/
def plainEnv (now : Int) : TxEnv :=
  ⟨⟨fun t d => (t / 86400 + d) * 86400, fun t => (t / 86400 + 4) % 7,
    fun t => (t / 86400 + 30) * 86400⟩, now, 10⟩

/-- One user with one token and one subscription of a daily plan; the period of the subscription
ended at 86400, and 5 of its 100 units are used. -/
def plainDB : DB where
  writer := some ⟨.authoritative, 1, Int.one_pos⟩
  accountCursorComplete := true
  balanceBackfillDone := true
  funding := ⟨true, false⟩
  users := Table.empty.insert { id := 1, quota := 1000 }
  tokens := Table.empty.insert { id := 1, userID := 1, remainQuota := 1000 }
  subscriptions := Table.empty.insert
    { id := 1, userID := 1, planID := 1, amountTotal := 100, amountUsed := 5, startTime := 1
      endTime := 1000000, lastResetTime := 1, nextResetTime := 86400 }
  plans := Table.empty.insert { id := 1, quotaResetPeriod := "daily" }
  receipts := Table.empty
  heads := Table.empty
  obligations := Table.empty
  projections := Table.empty

/-- The world of `plainDB` before any call. -/
def plainWorld : World := { db := plainDB }

theorem plainWorld_initial : plainWorld.Initial := ⟨⟨rfl, rfl, rfl, rfl⟩, rfl, rfl, rfl⟩

/-- The end of a run from `plainWorld`. -/
def plainRun (actions : List Action) : World := (run World.step plainWorld actions).getD plainWorld

theorem plainRun_reachable {actions : List Action}
    (h : (run World.step plainWorld actions).isSome = true) :
    plainWorld.ReachableFrom (plainRun actions) :=
  ⟨plainWorld_initial, actions, run_getD h⟩

/-- A call that runs to its end without a failure of the database. -/
def smoothCall (i : Nat) (input : CallInput) (now : Int) : List Action :=
  [.start input, .precheck i, .transact i (plainEnv now) .respond]

end MyApiSpec.Ledger
