import MyApiSpec.Settlement.Journal

/-!
# Recording a settlement

`EnsureAccountQuotaSettlementIntent` and `EnsureAccountQuotaSettlementFact`
(`model/account_quota_settlement_fact.go:336–538`): the row is created with its permit in one
transaction, and a failed or unanswered creation is read back under the same identity.
-/

namespace MyApiSpec.Settlement

open Base

/-- `validateAuthoritativeSettlementReceiptIdentity` of a reservation
(`model/account_quota_settlement_fact.go:229–251`). -/
def validateAuthoritativeReserveIdentity (input : SettlementInput) (receipt : Ledger.Receipt) :
    Fallible Unit :=
  check (input.kind = .authoritative ∧ 0 < input.reserveReceiptID ∧
    receipt.id = input.reserveReceiptID ∧ receipt.requestID = input.requestID ∧
    receipt.userID = input.userID ∧ receipt.tokenID = input.tokenID ∧
    receipt.subscriptionID = input.subscriptionID ∧ receipt.writerEpoch = input.writerEpoch ∧
    (receipt.phase = .reserve ∨ receipt.phase = .adjust)) [.recoveryConflict]

/-- `validateAuthoritativeSettlementFactSubject`
(`model/account_quota_settlement_fact.go:215–227`). -/
def validateAuthoritativeSettlementFactSubject (db : DB) (input : SettlementInput) :
    Fallible Unit :=
  if input.kind = .authoritative then do
    let reserve ← need (db.ledger.receipts.get? input.reserveReceiptID) [.recordNotFound]
    validateAuthoritativeReserveIdentity input reserve
  else .ok ()

/-- An intent by its event key. -/
def findIntent (db : DB) (eventKey : String) : Option SettlementIntent :=
  db.intents.find? fun i => i.input.eventKey = eventKey

/-- A fact by its event key. -/
def findFact (db : DB) (eventKey : String) : Option SettlementFact :=
  db.facts.find? fun f => f.input.eventKey = eventKey

/-- Give an error further causes. -/
def withCauses (causes : Failure) (x : Task DB α) : Task DB α := ExceptT.adapt (· ++ causes) x

/-! ### Intents -/

/-- The intent that is created for an identity. -/
def intentCandidate (input : SettlementInput) (fingerprint : SettlementDigest) :
    SettlementIntent where
  input := input
  requestFingerprint := fingerprint

/-- The transaction that creates an intent with its permit
(`model/account_quota_settlement_fact.go:374–405`). -/
def ensureIntentTx (input : SettlementInput) (fingerprint : SettlementDigest) (db : DB)
    (env : Ledger.TxEnv) : Fallible (DB × SettlementIntent) := do
  validateAccountQuotaExecutionGate db
  match findIntent db input.eventKey with
  | some concurrent => do
    validateAccountQuotaSettlementIntent concurrent input fingerprint
    return (db, concurrent)
  | none => do
    check (findFact db input.eventKey = none) [.executionFrozen]
    let intent := { intentCandidate input fingerprint with id := db.intents.nextId }
    let db := { db with intents := db.intents.insert (intentCandidate input fingerprint) }
    let (db, _) ← createRuntimeAccountQuotaExecutionPermit db env.now (some intent) none input
      fingerprint
    return (db, intent)

variable {fingerprint : SettlementDigest} {input : SettlementInput} {env : Ledger.TxEnv} {db : DB}

/-- Recording an intent writes intents and permits. -/
theorem ensureIntentTx_ok
    {r : DB × SettlementIntent}
    (h : ensureIntentTx input fingerprint db env = .ok r) :
    r.2.input = input ∧
      (r.1 = db ∨ (findIntent db input.eventKey = none ∧ findFact db input.eventKey = none ∧
        (∀ q ∈ db.permits.rows, q.input.eventKey ≠ input.eventKey) ∧
        r.1 = { db with
          intents := db.intents.insert (intentCandidate input fingerprint)
          permits := db.permits.insert (runtimePermit env.now
            (some { intentCandidate input fingerprint with id := db.intents.nextId }) none input
            fingerprint) })) := by
  simp only [ensureIntentTx, bind_eq_ok] at h
  obtain ⟨-, -, h⟩ := h
  split at h
  · next concurrent hfound =>
    simp only [bind_eq_ok, validateAccountQuotaSettlementIntent, check_eq_ok, exists_const] at h
    obtain ⟨⟨hin, -, -⟩, hr⟩ := h
    cases hr
    exact ⟨hin, .inl rfl⟩
  · next hnone =>
    simp only [bind_eq_ok, check_eq_ok, exists_const] at h
    obtain ⟨hfact, ⟨db', permit⟩, hcreate, hr⟩ := h
    cases hr
    obtain ⟨hnew, hdb⟩ := createRuntime_ok hcreate
    exact ⟨rfl, .inr ⟨hnone, hfact, hnew, hdb⟩⟩

/-- `readAccountQuotaSettlementIntentDetached`
(`model/account_quota_settlement_fact.go:315–331`). -/
def readIntentDetached (input : SettlementInput) (fingerprint : SettlementDigest) :
    Task DB SettlementIntent :=
  query fun db _ => do
    let stored ← need (findIntent db input.eventKey) [.recordNotFound]
    validateAccountQuotaSettlementIntent stored input fingerprint
    return stored

/-- The creation of an intent that was not found, with its readback. -/
def createIntent (input : SettlementInput) (fingerprint : SettlementDigest) :
    Task DB SettlementIntent := do
  let _ ← withCauses [.settlementFactUnknown] databaseTime
  let created ← Routine.attempt (transaction (ensureIntentTx input fingerprint))
  match created with
  | .ok intent => return intent
  | .error failure =>
    ExceptT.adapt (fun _ => failure ++ [.settlementFactUnknown])
      (readIntentDetached input fingerprint)

/-- `EnsureAccountQuotaSettlementIntent` (`model/account_quota_settlement_fact.go:336–415`). -/
def ensureAccountQuotaSettlementIntent (input : SettlementInput) : Task DB SettlementIntent := do
  let (input, fingerprint) ← Routine.lift (normalizeAccountQuotaSettlementInput input)
  query fun db _ => validateAuthoritativeSettlementFactSubject db input
  query fun db _ => validateLegacyUsageSettlement db input
  let stored ← withCauses [.settlementFactUnknown] (query fun db _ =>
    .ok (findIntent db input.eventKey))
  match stored with
  | some stored => do
    Routine.lift (validateAccountQuotaSettlementIntent stored input fingerprint)
    return stored
  | none => createIntent input fingerprint

/-! ### Facts -/

/-- The fact that is created for an identity (`model/account_quota_settlement_fact.go:466–473`). -/
def factCandidate (input : SettlementInput) (fingerprint : SettlementDigest) : SettlementFact where
  input := input
  requestFingerprint := fingerprint

/-- The permit of a new fact: the intent's permit is bound to it, or a permit of its own is
created (`model/account_quota_settlement_fact.go:489–515`). -/
def permitNewFact (input : SettlementInput) (fingerprint : SettlementDigest) (db : DB) (now : Int)
    (fact : SettlementFact) : Option (SettlementIntent × ExecutionPermit) → Fallible DB
  | some (intent, permit) => bindRuntimeAccountQuotaExecutionPermitFact db permit intent fact
  | none => do
    let (db, _) ← createRuntimeAccountQuotaExecutionPermit db now none (some fact) input fingerprint
    return db

/-- The intent of a new fact with its unbound permit
(`model/account_quota_settlement_fact.go:489–505`). -/
def unboundIntentPermit (db : DB) (eventKey : String) :
    Fallible (Option (SettlementIntent × ExecutionPermit)) :=
  match findIntent db eventKey with
  | none => .ok none
  | some intent => do
    let permit ← loadAccountQuotaExecutionPermitForIntent db intent
    check (permit.factID = 0) [.executionFrozen]
    return some (intent, permit)

/-- The transaction that creates a fact (`model/account_quota_settlement_fact.go:475–521`). -/
def ensureFactTx (input : SettlementInput) (fingerprint : SettlementDigest) (db : DB)
    (env : Ledger.TxEnv) : Fallible (DB × SettlementFact) := do
  validateAccountQuotaExecutionGate db
  match findFact db input.eventKey with
  | some concurrent => do
    validateAccountQuotaSettlementIdentity concurrent input fingerprint
    return (db, concurrent)
  | none => do
    let intentPermit ← unboundIntentPermit db input.eventKey
    let fact := { factCandidate input fingerprint with id := db.facts.nextId }
    let db := { db with facts := db.facts.insert (factCandidate input fingerprint) }
    let db ← permitNewFact input fingerprint db env.now fact intentPermit
    return (db, fact)

/-- The permits behind a new fact: a permit of its own when the key has no intent, or the permit of
the intent, which had no fact and is bound to this one. -/
def PermitsNewFact (db : DB) (now : Int) (fact : SettlementFact) (permits : Table ExecutionPermit) :
    Prop :=
  (findIntent db fact.input.eventKey = none ∧
    (∀ q ∈ db.permits.rows, q.input.eventKey ≠ fact.input.eventKey) ∧
    permits = db.permits.insert
      (runtimePermit now none (some fact) fact.input fact.requestFingerprint)) ∨
  ∃ p ∈ db.permits.rows, p.input.eventKey = fact.input.eventKey ∧ p.factID = 0 ∧
    permits = db.permits.put (boundPermit p p fact.id)

/-- Recording a fact finds the fact of the key or inserts it with its permit. -/
theorem ensureFactTx_ok
    {r : DB × SettlementFact}
    (h : ensureFactTx input fingerprint db env = .ok r) :
    r.2.input = input ∧ (r.1 = db ∨ (findFact db input.eventKey = none ∧ ∃ permits,
      PermitsNewFact db env.now { factCandidate input fingerprint with id := db.facts.nextId }
        permits ∧
      r.1 = { db with
        facts := db.facts.insert (factCandidate input fingerprint), permits := permits })) := by
  simp only [ensureFactTx, bind_eq_ok] at h
  obtain ⟨-, -, h⟩ := h
  split at h
  · next concurrent hfound =>
    simp only [bind_eq_ok, validateAccountQuotaSettlementIdentity, check_eq_ok, exists_const] at h
    obtain ⟨⟨hin, -⟩, hr⟩ := h
    cases hr
    exact ⟨hin, .inl rfl⟩
  · next hnone =>
    simp only [bind_eq_ok] at h
    obtain ⟨source, hsource, db', hpermit, hr⟩ := h
    cases hr
    refine ⟨rfl, .inr ⟨hnone, ?_⟩⟩
    unfold unboundIntentPermit at hsource
    split at hsource
    · next hintent =>
      cases hsource
      simp only [permitNewFact, bind_eq_ok] at hpermit
      obtain ⟨created, hcreate, hr⟩ := hpermit
      cases hr
      obtain ⟨hnew, hdb⟩ := createRuntime_ok hcreate
      exact ⟨_, .inl ⟨hintent, hnew, rfl⟩, hdb⟩
    · next intent hintent =>
      simp only [bind_eq_ok, check_eq_ok, exists_const] at hsource
      obtain ⟨permit, hload, hunbound, hr⟩ := hsource
      cases hr
      obtain ⟨cur, hcur, -, hdb⟩ := bindRuntime_ok hpermit
      obtain ⟨hmem, hkey⟩ := loadForIntent_mem hload
      have hpred := Table.find?_pred hintent
      have hkey' : intent.input.eventKey = input.eventKey := of_decide_eq_true hpred
      cases (Table.get?_of_mem hmem).symm.trans hcur
      exact ⟨_, .inr ⟨permit, hmem, hkey.trans hkey', hunbound, rfl⟩, hdb⟩

/-- The readback of a fact whose creation failed or was not answered
(`model/account_quota_settlement_fact.go:525–537`). -/
def readFactBack (input : SettlementInput) (fingerprint : SettlementDigest) (failure : Failure) :
    Task DB SettlementFact := do
  let stored ← ExceptT.adapt
    (failure ++ · ++ [.settlementFactUnknown, .settlementManualRequired])
    (query fun db _ => need (findFact db input.eventKey) [.recordNotFound])
  Routine.lift (validateAccountQuotaSettlementIdentity stored input fingerprint)
  return stored

/-- The creation of a fact that was not found, with its readback. -/
def createFact (input : SettlementInput) (fingerprint : SettlementDigest) :
    Task DB SettlementFact := do
  let _ ← withCauses [.settlementFactUnknown, .settlementManualRequired] databaseTime
  let created ← Routine.attempt (transaction (ensureFactTx input fingerprint))
  match created with
  | .ok fact => return fact
  | .error failure => readFactBack input fingerprint failure

/-- `EnsureAccountQuotaSettlementFact` (`model/account_quota_settlement_fact.go:438–538`). A stored
fact of another identity is an error of its own. -/
def ensureAccountQuotaSettlementFact (input : SettlementInput) : Task DB SettlementFact := do
  let (input, fingerprint) ← Routine.lift (normalizeAccountQuotaSettlementInput input)
  query fun db _ => validateAuthoritativeSettlementFactSubject db input
  query fun db _ => validateLegacyUsageSettlement db input
  let stored ← withCauses [.settlementFactUnknown, .settlementManualRequired] (query fun db _ =>
    .ok (findFact db input.eventKey))
  match stored with
  | some stored => do
    Routine.lift (validateAccountQuotaSettlementIdentity stored input fingerprint)
    return stored
  | none => createFact input fingerprint

end MyApiSpec.Settlement
