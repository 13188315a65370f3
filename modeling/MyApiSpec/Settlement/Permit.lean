import MyApiSpec.Settlement.Types

/-!
# Settlement identities and execution permits

A settlement is normalised to its identity and fingerprint. An execution permit authorises the
legs of one settlement: it is created for an intent or for a fact, bound to the fact once, and
loaded again inside every transaction that moves money
(`model/account_quota_execution_permit.go`).
-/

namespace MyApiSpec.Settlement

open Base

/-! ### Identity -/

variable {db : DB}

/-- The digest of a normalised identity (`model/account_quota_settlement_fact.go:164–199`). -/
def SettlementInput.digest (i : SettlementInput) : SettlementDigest :=
  match i.kind with
  | .authoritative => .authoritative i.eventKey i.requestID i.userID i.tokenID i.subscriptionID
      i.reserveReceiptID i.writerEpoch i.actualQuota
  | kind => .legacy i.eventKey i.requestID kind i.userID i.tokenID i.subscriptionID i.delta
      i.applyToken

/-- The checks that all kinds share (`model/account_quota_settlement_fact.go:138–141`). -/
def SettlementInput.Plausible (i : SettlementInput) : Prop :=
  i.eventKey ≠ "" ∧ i.eventKey.utf8ByteSize ≤ 128 ∧ i.requestID ≠ "" ∧
    i.requestID.utf8ByteSize ≤ 64 ∧ 0 < i.userID ∧ ¬ (i.applyToken = true ∧ i.tokenID ≤ 0) ∧
    0 ≤ i.tokenID ∧ 0 ≤ i.subscriptionID

instance (i : SettlementInput) : Decidable i.Plausible :=
  inferInstanceAs (Decidable (_ ∧ _))

/-- The amount of a legacy settlement and the columns it leaves at zero. -/
def SettlementInput.LegacyAmount (i : SettlementInput) : Prop :=
  i.reserveReceiptID = 0 ∧ i.writerEpoch = 0 ∧ i.actualQuota = 0 ∧ i.delta ≠ 0 ∧
    -Ledger.maxQuota ≤ i.delta ∧ i.delta ≤ Ledger.maxQuota

instance (i : SettlementInput) : Decidable i.LegacyAmount :=
  inferInstanceAs (Decidable (_ ∧ _))

/-- The checks of one kind (`model/account_quota_settlement_fact.go:142–163`). -/
def SettlementKind.Fits (i : SettlementInput) : SettlementKind → Prop
  | .authoritative => 0 < i.tokenID ∧ 0 < i.reserveReceiptID ∧ 0 < i.writerEpoch ∧
      Ledger.validAccountQuotaValue i.actualQuota ∧ i.delta = 0 ∧ i.applyToken = false
  | .legacyWallet => i.subscriptionID = 0 ∧ i.LegacyAmount
  | .legacySelfUse => i.subscriptionID = 0 ∧ i.LegacyAmount
  | .legacySubscription => 0 < i.subscriptionID ∧ i.LegacyAmount

instance (i : SettlementInput) : (k : SettlementKind) → Decidable (k.Fits i)
  | .authoritative => inferInstanceAs (Decidable (_ ∧ _))
  | .legacyWallet => inferInstanceAs (Decidable (_ ∧ _))
  | .legacySelfUse => inferInstanceAs (Decidable (_ ∧ _))
  | .legacySubscription => inferInstanceAs (Decidable (_ ∧ _))

/-- `normalizeAccountQuotaSettlementInput`
(`model/account_quota_settlement_fact.go:135–199`). -/
def normalizeAccountQuotaSettlementInput (input : SettlementInput) :
    Fallible (SettlementInput × SettlementDigest) := do
  let input := { input with
    eventKey := trimSpace input.eventKey, requestID := trimSpace input.requestID }
  check input.Plausible [.invalidInput]
  check (input.kind.Fits input) [.invalidInput]
  return (input, input.digest)

variable {input : SettlementInput}

theorem normalize_ok {r : SettlementInput × SettlementDigest}
    (h : normalizeAccountQuotaSettlementInput input = .ok r) :
    r.1 = { input with
      eventKey := trimSpace input.eventKey, requestID := trimSpace input.requestID } ∧
      r.2 = r.1.digest ∧ r.1.Plausible ∧ r.1.kind.Fits r.1 := by
  simp only [normalizeAccountQuotaSettlementInput, bind_eq_ok, check_eq_ok, exists_const] at h
  obtain ⟨hvalid, hfits, hr⟩ := h
  cases hr
  exact ⟨rfl, rfl, hvalid, hfits⟩

/-- `validateAccountQuotaSettlementIdentity`
(`model/account_quota_settlement_fact.go:205–213`). -/
def validateAccountQuotaSettlementIdentity (fact : SettlementFact) (input : SettlementInput)
    (fingerprint : SettlementDigest) : Fallible Unit :=
  check (fact.input = input ∧ fact.requestFingerprint = fingerprint) [.recoveryConflict]

/-- `validateAccountQuotaSettlementIntent`
(`model/account_quota_settlement_fact.go:305–313`). -/
def validateAccountQuotaSettlementIntent (intent : SettlementIntent) (input : SettlementInput)
    (fingerprint : SettlementDigest) : Fallible Unit :=
  check (intent.input = input ∧ intent.requestFingerprint = fingerprint ∧ 0 < intent.lockVersion)
    [.recoveryConflict]

/-! ### The execution gate -/

/-- `AccountQuotaExecutionGateSchemaVersion`. -/
def executionGateSchemaVersion : Int := 1

/-- `AccountQuotaExecutionPermitBindingVersion`. -/
def executionPermitBindingVersion : Int := 1

/-- `ValidateAccountQuotaExecutionGate` (`model/account_quota_execution_permit.go:93–112`). -/
def validateAccountQuotaExecutionGate (db : DB) : Fallible Unit :=
  match db.gates with
  | [gate] => check (gate.id = 1 ∧ gate.schemaVersion = executionGateSchemaVersion ∧
      gate.enforcing = true) [.executionGateInvalid]
  | _ => .error [.executionGateInvalid]

/-! ### Binding -/

/-- The columns of a permit that its digest covers. -/
def ExecutionPermit.payload (p : ExecutionPermit) : PermitPayload where
  bindingVersion := p.bindingVersion
  source := p.source
  approvalID := p.approvalID
  intentID := p.intentID
  factID := p.factID
  input := p.input
  requestFingerprint := p.requestFingerprint
  initialFundingApplied := p.initialFundingApplied
  initialTokenApplied := p.initialTokenApplied
  allowFunding := p.allowFunding
  allowToken := p.allowToken

/-- `accountQuotaExecutionPermitDigest`; only a historical permit digests its evidence
(`model/account_quota_execution_permit.go:168–221`). -/
def accountQuotaExecutionPermitDigest (p : ExecutionPermit) : BindingDigest :=
  .payload p.payload (match p.source with
    | .historicalReviewV1 => p.evidenceDigest
    | .runtimeV1 => .text "")

/-- A lower-case hexadecimal digit. -/
def isLowerHex (c : Char) : Bool := ('0' ≤ c && c ≤ '9') || ('a' ≤ c && c ≤ 'f')

/-- The column holds 32 bytes in lower-case hexadecimal digits, as every digest does. -/
def BindingDigest.Wellformed : BindingDigest → Prop
  | .payload .. => True
  | .text s => s.toList.length = 64 ∧ s.toList.all isLowerHex = true

instance : (d : BindingDigest) → Decidable d.Wellformed
  | .payload .. => inferInstanceAs (Decidable True)
  | .text s => inferInstanceAs (Decidable (s.toList.length = 64 ∧ s.toList.all isLowerHex = true))

/-- The permit's own columns are in order (`model/account_quota_execution_permit.go:224–240`). -/
def ExecutionPermit.Authentic (p : ExecutionPermit) : Prop :=
  0 < p.id ∧ p.input.eventKey ≠ "" ∧ p.bindingVersion = executionPermitBindingVersion ∧
    ¬ (p.intentID ≤ 0 ∧ p.factID ≤ 0) ∧ 0 ≤ p.intentID ∧ 0 ≤ p.factID ∧
    ¬ (p.initialTokenApplied = true ∧ p.initialFundingApplied = false) ∧ 0 < p.createdAt ∧
    trimSpace p.approvalID ≠ "" ∧ trimSpace p.approvalID = p.approvalID ∧
    p.approvalID.utf8ByteSize ≤ 128 ∧ p.evidenceDigest.Wellformed ∧
    (p.source = .runtimeV1 →
      p.approvalID = p.source.text ∧ p.evidenceDigest = p.bindingDigest)

instance (p : ExecutionPermit) : Decidable p.Authentic :=
  inferInstanceAs (Decidable (_ ∧ _))

/-- The intent part of the binding: a permit with an intent id is checked against that intent, a
permit without one against none (`model/account_quota_execution_permit.go:249–258`). -/
def ExecutionPermit.BindsIntent (p : ExecutionPermit) (input : SettlementInput)
    (fingerprint : SettlementDigest) : Option SettlementIntent → Prop
  | none => p.intentID ≤ 0
  | some i => 0 < p.intentID ∧ i.id = p.intentID ∧
      validateAccountQuotaSettlementIntent i input fingerprint = .ok () ∧
      ¬ (0 < p.factID ∧ 0 < i.factID ∧ i.factID ≠ p.factID)

instance (p : ExecutionPermit) (input : SettlementInput) (fingerprint : SettlementDigest) :
    (intent : Option SettlementIntent) → Decidable (p.BindsIntent input fingerprint intent)
  | none => inferInstanceAs (Decidable (_ ≤ _))
  | some _ => inferInstanceAs (Decidable (_ ∧ _))

/-- The fact part of the binding (`model/account_quota_execution_permit.go:259–270`). -/
def ExecutionPermit.BindsFact (p : ExecutionPermit) (input : SettlementInput)
    (fingerprint : SettlementDigest) : Option SettlementFact → Prop
  | none => p.factID ≤ 0
  | some f => 0 < p.factID ∧ f.id = p.factID ∧
      validateAccountQuotaSettlementIdentity f input fingerprint = .ok () ∧
      ¬ (p.initialFundingApplied = true ∧ f.fundingApplied = false) ∧
      ¬ (p.initialTokenApplied = true ∧ f.tokenApplied = false) ∧
      ¬ (f.fundingApplied = true ∧ p.initialFundingApplied = false ∧ p.allowFunding = false) ∧
      ¬ (f.tokenApplied = true ∧ p.input.applyToken = true ∧ p.initialTokenApplied = false ∧
        p.allowToken = false) ∧
      ¬ (f.tokenApplied = true ∧ f.fundingApplied = false)

instance (p : ExecutionPermit) (input : SettlementInput) (fingerprint : SettlementDigest) :
    (fact : Option SettlementFact) → Decidable (p.BindsFact input fingerprint fact)
  | none => inferInstanceAs (Decidable (_ ≤ _))
  | some _ => inferInstanceAs (Decidable (_ ∧ _))

/-- `validateAccountQuotaExecutionPermitBinding`
(`model/account_quota_execution_permit.go:223–272`). -/
def validateAccountQuotaExecutionPermitBinding (p : ExecutionPermit)
    (intent : Option SettlementIntent) (fact : Option SettlementFact) : Fallible Unit := do
  check p.Authentic [.executionFrozen]
  match normalizeAccountQuotaSettlementInput p.input with
  | .error e => .error (.executionFrozen :: e)
  | .ok (normalized, fingerprint) => do
    check (fingerprint = p.requestFingerprint ∧ normalized.eventKey = p.input.eventKey)
      [.executionFrozen]
    check (accountQuotaExecutionPermitDigest p = p.bindingDigest) [.executionFrozen]
    check (p.BindsIntent normalized fingerprint intent) [.executionFrozen]
    check (p.BindsFact normalized fingerprint fact) [.executionFrozen]

/-! ### Creation and binding to a fact -/

/-- `newAccountQuotaExecutionPermit` without its digests
(`model/account_quota_execution_permit.go:274–291`). -/
def permitDraft (intent : Option SettlementIntent) (fact : Option SettlementFact)
    (input : SettlementInput) (fingerprint : SettlementDigest) (source : PermitSource) :
    ExecutionPermit where
  intentID := (intent.map SettlementIntent.id).getD 0
  factID := (fact.map SettlementFact.id).getD 0
  source := source
  bindingVersion := executionPermitBindingVersion
  input := input
  requestFingerprint := fingerprint
  initialFundingApplied := (fact.map SettlementFact.fundingApplied).getD false
  initialTokenApplied := (fact.map SettlementFact.tokenApplied).getD false
  allowFunding := true
  allowToken := true
  approvalID := source.text

/-- Digest a permit and take the digest as its evidence. -/
def ExecutionPermit.stamp (p : ExecutionPermit) : ExecutionPermit :=
  { p with bindingDigest := accountQuotaExecutionPermitDigest p
           evidenceDigest := accountQuotaExecutionPermitDigest p }

/-- `newAccountQuotaExecutionPermit` (`model/account_quota_execution_permit.go:274–299`). -/
def newAccountQuotaExecutionPermit (intent : Option SettlementIntent)
    (fact : Option SettlementFact) (input : SettlementInput) (fingerprint : SettlementDigest)
    (source : PermitSource) : ExecutionPermit :=
  (permitDraft intent fact input fingerprint source).stamp

/-- Insert a permit; the event key is unique. -/
def createPermit (db : DB) (p : ExecutionPermit) : Fallible (DB × ExecutionPermit) := do
  check (∀ q ∈ db.permits.rows, q.input.eventKey ≠ p.input.eventKey) [.duplicateKey]
  return ({ db with permits := db.permits.insert p }, { p with id := db.permits.nextId })

/-- A runtime permit as it is inserted. -/
def runtimePermit (now : Int) (intent : Option SettlementIntent) (fact : Option SettlementFact)
    (input : SettlementInput) (fingerprint : SettlementDigest) : ExecutionPermit :=
  { newAccountQuotaExecutionPermit intent fact input fingerprint .runtimeV1 with createdAt := now }

/-- `createRuntimeAccountQuotaExecutionPermit`
(`model/account_quota_execution_permit.go:301–318`). -/
def createRuntimeAccountQuotaExecutionPermit (db : DB) (now : Int)
    (intent : Option SettlementIntent) (fact : Option SettlementFact) (input : SettlementInput)
    (fingerprint : SettlementDigest) : Fallible (DB × ExecutionPermit) := do
  validateAccountQuotaExecutionGate db
  let (db, permit) ← createPermit db (runtimePermit now intent fact input fingerprint)
  validateAccountQuotaExecutionPermitBinding permit intent fact
  return (db, permit)

/-- The stored permit `cur` with the fact id and the digests that the given permit has with it. -/
def boundPermit (cur permit : ExecutionPermit) (factID : Int) : ExecutionPermit :=
  let bound := { permit with factID := factID }.stamp
  { cur with factID := factID, bindingDigest := bound.bindingDigest
             evidenceDigest := bound.evidenceDigest }

/-- `bindRuntimeAccountQuotaExecutionPermitFact`: the fact id is written once, into a permit that
has none (`model/account_quota_execution_permit.go:320–341`). -/
def bindRuntimeAccountQuotaExecutionPermitFact (db : DB) (permit : ExecutionPermit)
    (intent : SettlementIntent) (fact : SettlementFact) : Fallible DB := do
  check (permit.source = .runtimeV1 ∧ permit.state = .active ∧ permit.intentID = intent.id ∧
    permit.factID = 0) [.executionFrozen]
  let permits ← need (db.permits.cas permit.id
    (fun p => p.factID = 0 ∧ p.bindingDigest = permit.bindingDigest ∧ p.state = .active)
    (fun p => boundPermit p permit fact.id)) [.executionFrozen]
  validateAccountQuotaExecutionPermitBinding { permit with factID := fact.id }.stamp (some intent)
    (some fact)
  return { db with permits := permits }

/-- A created permit is the only one with its event key, and it is bound as it is created. -/
theorem createRuntime_ok {now : Int} {intent : Option SettlementIntent}
    {fact : Option SettlementFact} {fingerprint : SettlementDigest}
    {r : DB × ExecutionPermit}
    (h : createRuntimeAccountQuotaExecutionPermit db now intent fact input fingerprint = .ok r) :
    (∀ q ∈ db.permits.rows, q.input.eventKey ≠ input.eventKey) ∧
      r.1 = { db with
        permits := db.permits.insert (runtimePermit now intent fact input fingerprint) } := by
  simp only [createRuntimeAccountQuotaExecutionPermit, createPermit, bind_eq_ok, check_eq_ok,
    exists_const] at h
  obtain ⟨-, -, ⟨db', permit⟩, ⟨hnew, hpermit⟩, -, -, hr⟩ := h
  cases hpermit
  cases hr
  exact ⟨hnew, rfl⟩

variable {intent : SettlementIntent}

/-- Binding a permit to its fact rewrites that permit, which had no fact. -/
theorem bindRuntime_ok {db' : DB} {permit : ExecutionPermit}
    {fact : SettlementFact}
    (h : bindRuntimeAccountQuotaExecutionPermitFact db permit intent fact = .ok db') :
    ∃ cur, db.permits.get? permit.id = some cur ∧ cur.factID = 0 ∧
      db' = { db with permits := db.permits.put (boundPermit cur permit fact.id) } := by
  simp only [bindRuntimeAccountQuotaExecutionPermitFact, bind_eq_ok, need_eq_ok, check_eq_ok,
    exists_const] at h
  obtain ⟨-, permits, hcas, -, -, hr⟩ := h
  cases hr
  obtain ⟨cur, hcur, hguard, rfl⟩ := Table.cas_eq_some.mp hcas
  exact ⟨cur, hcur, (of_decide_eq_true hguard).1, rfl⟩

/-! ### Loading -/

/-- The intent a permit names. -/
def permitIntent (db : DB) (permit : ExecutionPermit) : Fallible (Option SettlementIntent) :=
  if 0 < permit.intentID then
    match db.intents.get? permit.intentID with
    | some intent => .ok (some intent)
    | none => .error [.executionFrozen, .recordNotFound]
  else .ok none

/-- The fact a permit names. -/
def permitFact (db : DB) (permit : ExecutionPermit) : Fallible (Option SettlementFact) :=
  if 0 < permit.factID then
    match db.facts.get? permit.factID with
    | some fact => .ok (some fact)
    | none => .error [.executionFrozen, .recordNotFound]
  else .ok none

/-- `loadAccountQuotaExecutionPermitForFact`
(`model/account_quota_execution_permit.go:343–371`). -/
def loadAccountQuotaExecutionPermitForFact (db : DB) (fact : SettlementFact) :
    Fallible ExecutionPermit := do
  let permit ← need (db.permits.find? fun p =>
    p.input.eventKey = fact.input.eventKey ∧ p.factID = fact.id) [.executionFrozen, .recordNotFound]
  let intent ← permitIntent db permit
  validateAccountQuotaExecutionPermitBinding permit intent (some fact)
  check (permit.state = .active) [.executionFrozen]
  return permit

/-- `loadAccountQuotaExecutionPermitForIntent`
(`model/account_quota_execution_permit.go:373–401`). -/
def loadAccountQuotaExecutionPermitForIntent (db : DB) (intent : SettlementIntent) :
    Fallible ExecutionPermit := do
  let permit ← need (db.permits.find? fun p =>
    p.input.eventKey = intent.input.eventKey ∧ p.intentID = intent.id)
    [.executionFrozen, .recordNotFound]
  let fact ← permitFact db permit
  validateAccountQuotaExecutionPermitBinding permit (some intent) fact
  check (permit.state = .active) [.executionFrozen]
  return permit

theorem loadForIntent_mem {p : ExecutionPermit}
    (h : loadAccountQuotaExecutionPermitForIntent db intent = .ok p) :
    p ∈ db.permits.rows ∧ p.input.eventKey = intent.input.eventKey := by
  simp only [loadAccountQuotaExecutionPermitForIntent, bind_eq_ok, need_eq_ok] at h
  obtain ⟨q, hfound, _, -, -, -, -, -, hr⟩ := h
  cases hr
  have hpred := Table.find?_pred hfound
  exact ⟨Table.find?_mem hfound, (of_decide_eq_true hpred).1⟩

/-! ### Historical permits -/

/-- `HistoricalAccountQuotaExecutionPermitInput`
(`model/account_quota_execution_permit.go:81–91`). -/
structure HistoricalPermitInput where
  factID : Int
  settlement : SettlementInput
  requestFingerprint : SettlementDigest
  initialFundingApplied : Bool
  initialTokenApplied : Bool
  allowFunding : Bool
  allowToken : Bool
  approvalID : String
  evidenceDigest : String
  deriving DecidableEq, Repr

/-- The permit that a historical review creates
(`model/account_quota_execution_permit.go:468–483`). -/
def historicalPermit (input : HistoricalPermitInput) (intent : Option SettlementIntent)
    (fact : SettlementFact) (normalized : SettlementInput) (fingerprint : SettlementDigest)
    (now : Int) : ExecutionPermit :=
  let permit := { permitDraft intent (some fact) normalized fingerprint .historicalReviewV1 with
    initialFundingApplied := input.initialFundingApplied
    initialTokenApplied := input.initialTokenApplied
    allowFunding := input.allowFunding
    allowToken := input.allowToken
    approvalID := input.approvalID
    evidenceDigest := .text input.evidenceDigest }
  { permit with bindingDigest := accountQuotaExecutionPermitDigest permit, createdAt := now }

/-- The intent of the same settlement, when there is one
(`model/account_quota_execution_permit.go:439–448`). -/
def historicalIntent (db : DB) (fact : SettlementFact) (normalized : SettlementInput)
    (fingerprint : SettlementDigest) : Fallible (Option SettlementIntent) :=
  match db.intents.find? (fun i => i.input.eventKey = fact.input.eventKey) with
  | none => .ok none
  | some intent => do
    check (validateAccountQuotaSettlementIntent intent normalized fingerprint = .ok () ∧
      ¬ (0 < intent.factID ∧ intent.factID ≠ fact.id)) [.recoveryConflict]
    return some intent

/-- The transaction of `PermitHistoricalAccountQuotaSettlement`
(`model/account_quota_execution_permit.go:422–493`). -/
def permitHistoricalTx (input : HistoricalPermitInput) (normalized : SettlementInput)
    (fingerprint : SettlementDigest) (db : DB) (env : Ledger.TxEnv) :
    Fallible (DB × ExecutionPermit) := do
  validateAccountQuotaExecutionGate db
  let fact ← need (db.facts.get? input.factID) [.recordNotFound]
  validateAccountQuotaSettlementIdentity fact normalized fingerprint
  let intent ← historicalIntent db fact normalized fingerprint
  match db.permits.find? (fun p => p.input.eventKey = fact.input.eventKey) with
  | some existing => do
    check (existing.source = .historicalReviewV1 ∧ existing.factID = fact.id ∧
      existing.initialFundingApplied = input.initialFundingApplied ∧
      existing.initialTokenApplied = input.initialTokenApplied ∧
      existing.allowFunding = input.allowFunding ∧ existing.allowToken = input.allowToken ∧
      existing.approvalID = input.approvalID ∧
      existing.evidenceDigest = .text input.evidenceDigest) [.recoveryConflict]
    validateAccountQuotaExecutionPermitBinding existing intent (some fact)
    return (db, existing)
  | none => do
    check (fact.fundingApplied = input.initialFundingApplied ∧
      fact.tokenApplied = input.initialTokenApplied) [.recoveryConflict]
    let (db, permit) ← createPermit db
      (historicalPermit input intent fact normalized fingerprint env.now)
    validateAccountQuotaExecutionPermitBinding permit intent (some fact)
    return (db, permit)

/-- `PermitHistoricalAccountQuotaSettlement`
(`model/account_quota_execution_permit.go:405–497`). -/
def permitHistoricalAccountQuotaSettlement (input : HistoricalPermitInput) :
    Task DB ExecutionPermit := do
  let input := { input with
    approvalID := trimSpace input.approvalID, evidenceDigest := trimSpace input.evidenceDigest }
  let (normalized, fingerprint) ← Routine.lift do
    check (0 < input.factID ∧ input.approvalID ≠ "" ∧ input.approvalID.utf8ByteSize ≤ 128 ∧
      (BindingDigest.text input.evidenceDigest).Wellformed ∧
      ¬ (input.initialTokenApplied = true ∧ input.initialFundingApplied = false)) [.invalidInput]
    let normalized ← normalizeAccountQuotaSettlementInput input.settlement
    check (normalized.2 = input.requestFingerprint) [.invalidInput]
    return normalized
  transaction (permitHistoricalTx input normalized fingerprint)

end MyApiSpec.Settlement
