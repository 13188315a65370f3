import MyApiSpec.Settlement.System

/-!
# Steps of the settlement system

Everything that a transition of a run can be, with the guard that admitted it. A worker knows the
identity of the fact it works on: it compared the stored row with the one it was given, and a
fact keeps its id and its identity. The invariants of the following modules are derived from
these steps and do not look at the programs again.
-/

namespace MyApiSpec.Settlement

open Base Table Prog

/-! ### Facts and their identity -/

variable {db db' : DB} {input : SettlementInput} {f : SettlementFact}

/-- Every event key names one fact. -/
def FactKeys (db : DB) : Prop := db.facts.UniqueOn fun f => f.input.eventKey

/-- A fact with the key of `input` is stored under `id` and has this identity. -/
def Stored (id : Int) (input : SettlementInput) (db : DB) : Prop :=
  ∃ f, findFact db input.eventKey = some f ∧ f.id = id ∧ f.input = input

/-- Facts stay, with their id and identity. -/
def Continues (db db' : DB) : Prop :=
  ∀ k f, findFact db k = some f → ∃ f', findFact db' k = some f' ∧ f'.id = f.id ∧ f'.input = f.input

theorem Continues.refl (db : DB) : Continues db db := fun _ f hf => ⟨f, hf, rfl, rfl⟩

theorem Continues.trans (a b c : DB) (h : Continues a b) (h' : Continues b c) : Continues a c := by
  intro k f hf
  obtain ⟨f', hf', hid, hin⟩ := h k f hf
  obtain ⟨f'', hf'', hid', hin'⟩ := h' k f' hf'
  exact ⟨f'', hf'', hid'.trans hid, hin'.trans hin⟩

theorem Continues.of_facts (h : db'.facts = db.facts) : Continues db db' := by
  intro k f hf
  refine ⟨f, ?_, rfl, rfl⟩
  unfold findFact at hf ⊢
  rw [h]
  exact hf

variable {id : Int}

theorem Stored.continues (db db' : DB) (hc : Continues db db') (h : Stored id input db) :
    Stored id input db' := by
  obtain ⟨f, hf, rfl, rfl⟩ := h
  exact hc _ f hf

/-- The row under the id of a stored fact is that fact. -/
theorem Stored.row (h : Stored id input db) (hf : db.facts.get? id = some f) :
    findFact db input.eventKey = some f ∧ f.input = input := by
  obtain ⟨g, hg, rfl, rfl⟩ := h
  have hrow : db.facts.get? g.id = some g := get?_of_mem (find?_mem hg)
  cases hrow.symm.trans hf
  exact ⟨hg, rfl⟩

theorem FactKeys.of_facts (h : FactKeys db) (hf : db'.facts = db.facts) : FactKeys db' := by
  unfold FactKeys
  rw [hf]
  exact h

/-- A rewrite of a fact that keeps its identity. -/
theorem FactKeys.find_put {cur row : SettlementFact} (hI : FactKeys db)
    (hcur : db.facts.get? cur.id = some cur) (hid : row.id = cur.id) (hin : row.input = cur.input)
    (hfacts : db'.facts = db.facts.put row) (k : String) :
    findFact db' k = if k = cur.input.eventKey then some row else findFact db k := by
  have hold : db.facts.get? (Row.id row) = some cur := (congrArg db.facts.get? hid).trans hcur
  have hkey : row.input.eventKey = cur.input.eventKey := by rw [hin]
  unfold findFact
  rw [hfacts, hI.find?_put hold hkey k, hkey]

theorem FactKeys.put {cur row : SettlementFact} (hI : FactKeys db)
    (hcur : db.facts.get? cur.id = some cur) (hid : row.id = cur.id) (hin : row.input = cur.input)
    (hfacts : db'.facts = db.facts.put row) : FactKeys db' ∧ Continues db db' := by
  have hold : db.facts.get? (Row.id row) = some cur := (congrArg db.facts.get? hid).trans hcur
  constructor
  · unfold FactKeys
    rw [hfacts]
    exact Table.UniqueOn.put hI hold (by rw [hin])
  · intro k f hf
    rw [hI.find_put hcur hid hin hfacts k]
    split
    · next hk =>
      have hfind : findFact db k = some cur := by
        rw [hk]
        exact find?_of_unique hI (get?_mem hcur)
      cases hfind.symm.trans hf
      exact ⟨row, rfl, hid, hin⟩
    · exact ⟨f, hf, rfl, rfl⟩

variable {key : String}

theorem findFact_none (h : findFact db key = none) :
    ∀ f ∈ db.facts.rows, f.input.eventKey ≠ key :=
  fun f hf he => find?_none.mp h f hf (decide_eq_true he)

/-- A new fact under a key without one. -/
theorem FactKeys.find_insert (hI : FactKeys db) (hnone : findFact db f.input.eventKey = none)
    (hfacts : db'.facts = db.facts.insert f) (k : String) :
    findFact db' k = if k = f.input.eventKey then some { f with id := db.facts.nextId }
      else findFact db k := by
  unfold findFact
  rw [hfacts]
  exact hI.find?_insert (findFact_none hnone) k

theorem FactKeys.insert (hI : FactKeys db) (hnone : findFact db f.input.eventKey = none)
    (hfacts : db'.facts = db.facts.insert f) : FactKeys db' ∧ Continues db db' := by
  constructor
  · unfold FactKeys
    rw [hfacts]
    exact Table.UniqueOn.insert hI (findFact_none hnone)
  · intro k g hg
    rw [hI.find_insert hnone hfacts k]
    split
    · next hk =>
      rw [hk, hnone] at hg
      cases hg
    · exact ⟨g, hg, rfl, rfl⟩

/-! ### Steps -/

/-- A transaction of a worker on the fact with an id and an identity. -/
inductive WorkerStep (id : Int) (input : SettlementInput) (db : DB) : DB → Prop where
  | claim {fact : SettlementFact} {workerID : String} {now : Int} {env : Ledger.TxEnv}
      {r : DB × Bool} (hfact : fact.id = id) (hclaimable : fact.Claimable now)
      (h : claimTx fact workerID now db env = .ok r) : WorkerStep id input db r.1
  | funding {fact : SettlementFact} {env : Ledger.TxEnv} {r : DB × Unit} (hfact : fact.id = id)
      (h : fundingTx fact db env = .ok r) : WorkerStep id input db r.1
  | token {fact : SettlementFact} {env : Ledger.TxEnv} {r : DB × Unit} (hfact : fact.id = id)
      (happly : input.applyToken = true) (h : tokenTx fact db env = .ok r) :
      WorkerStep id input db r.1
  | mark {fact : SettlementFact} {env : Ledger.TxEnv} {r : DB × Unit} (hfact : fact.id = id)
      (h : markTx fact db env = .ok r) : WorkerStep id input db r.1
  | terminal {guard : TerminalGuard} {ctx : Ledger.TerminalCtx} {env : Ledger.TxEnv}
      {r : DB × Ledger.Receipt} (hguard : guard.factID = id) (hkind : input.kind = .authoritative)
      (h : guardedTerminalTx guard ctx db env = .ok r) : WorkerStep id input db r.1
  | finish {fact : SettlementFact} {receiptID : Int} {env : Ledger.TxEnv} {r : DB × Bool}
      (hfact : fact.id = id) (hkind : input.kind = .authoritative)
      (h : finishAuthoritativeTx fact receiptID db env = .ok r) : WorkerStep id input db r.1
  | failure {claimed : SettlementFact} {failure : Failure} {now : Int} {env : Ledger.TxEnv}
      {r : DB × Bool} (hfact : claimed.id = id) (h : failTx claimed failure now db env = .ok r) :
      WorkerStep id input db r.1

/-- A transition of a job, under the party of the job. -/
inductive Step : Party → DB → DB → Prop where
  | stay {party : Party} {db : DB} : Step party db db
  | worker {id : Int} {input : SettlementInput} {db db' : DB} (hstored : Stored id input db)
      (h : WorkerStep id input db db') : Step (.settlement input.eventKey) db db'
  | ensureFact {raw input : SettlementInput} {fingerprint : SettlementDigest} {db : DB}
      {env : Ledger.TxEnv} {r : DB × SettlementFact}
      (hinput : normalizeAccountQuotaSettlementInput raw = .ok (input, fingerprint))
      (h : ensureFactTx input fingerprint db env = .ok r) : Step (.settlement input.eventKey) db r.1
  | ensureIntent {raw input : SettlementInput} {fingerprint : SettlementDigest} {db : DB}
      {env : Ledger.TxEnv} {r : DB × SettlementIntent}
      (hinput : normalizeAccountQuotaSettlementInput raw = .ok (input, fingerprint))
      (h : ensureIntentTx input fingerprint db env = .ok r) : Step (.settlement input.eventKey) db r.1
  | intent {key : String} {intent : SettlementIntent} {fact : Option SettlementFact}
      {state : WorkState} {db : DB} {env : Ledger.TxEnv} {r : DB × Bool}
      (h : intentTx intent fact state db env = .ok r) : Step (.settlement key) db r.1
  | historical {input : HistoricalPermitInput} {raw normalized : SettlementInput}
      {fingerprint : SettlementDigest} {db : DB} {env : Ledger.TxEnv} {r : DB × ExecutionPermit}
      (hinput : normalizeAccountQuotaSettlementInput raw = .ok (normalized, fingerprint))
      (h : permitHistoricalTx input normalized fingerprint db env = .ok r) : Step .review db r.1
  | revoke {permitID : Int} {db : DB} {env : Ledger.TxEnv} {r : DB × Unit}
      (h : revokeTx permitID db env = .ok r) : Step .review db r.1
  | foreign (change : Foreign) {db : DB} : Step .other db (change.act db)

/-! ### What each transaction does -/

/-- A row that differs in the work columns only. -/
structure SettlementFact.SameLegs (row cur : SettlementFact) : Prop where
  id : row.id = cur.id
  input : row.input = cur.input
  fundingApplied : row.fundingApplied = cur.fundingApplied
  tokenApplied : row.tokenApplied = cur.tokenApplied

/-- What a transaction of a worker writes. -/
inductive Work (id : Int) (input : SettlementInput) (db : DB) : DB → Prop
  | kept : Work id input db db
  | rewritten {cur row : SettlementFact} (hcur : db.facts.get? id = some cur)
      (hsame : row.SameLegs cur) (hs : cur.state ≠ .applied) (hs' : row.state ≠ .applied) :
      Work id input db { db with facts := db.facts.put row }
  | funded {cur : SettlementFact} {permit : ExecutionPermit} {ledger : Ledger.DB}
      (hcur : db.facts.get? id = some cur)
      (hload : loadAccountQuotaExecutionPermitForFact db cur = .ok permit)
      (hallow : permit.allowFunding = true) (hflag : cur.fundingApplied = false)
      (hstate : cur.state = .claimed)
      (hfund : fundSource db cur.input = .ok { db with ledger := ledger }) :
      Work id input db { db with ledger := ledger, facts := db.facts.put cur.funded }
  | charged {cur : SettlementFact} {permit : ExecutionPermit} {ledger : Ledger.DB} {now : Int}
      (hcur : db.facts.get? id = some cur)
      (hload : loadAccountQuotaExecutionPermitForFact db cur = .ok permit)
      (hallow : permit.allowToken = true) (happly : input.applyToken = true)
      (hfunding : cur.fundingApplied = true) (hstate : cur.state = .claimed)
      (hcharge : chargeToken db cur.input now = .ok { db with ledger := ledger }) :
      Work id input db { db with ledger := ledger, facts := db.facts.put cur.finished }
  | marked {cur : SettlementFact} (hcur : db.facts.get? id = some cur)
      (happly : cur.input.applyToken = false) (hfunding : cur.fundingApplied = true) :
      Work id input db { db with facts := db.facts.put cur.finished }
  | settled {cur : SettlementFact} {permit : ExecutionPermit} {ledger : Ledger.DB}
      (hcur : db.facts.get? id = some cur) (hkind : input.kind = .authoritative)
      (hload : loadAccountQuotaExecutionPermitForFact db cur = .ok permit)
      (hf : permit.allowFunding = true) (ht : permit.allowToken = true) :
      Work id input db { db with ledger := ledger }
  | confirmed {cur row : SettlementFact} (hcur : db.facts.get? id = some cur)
      (hkind : input.kind = .authoritative) (hid : row.id = cur.id) (hin : row.input = cur.input)
      (happlied : row.fundingApplied = true ∧ row.tokenApplied = true ∧ row.state = .applied) :
      Work id input db { db with facts := db.facts.put row }

/-- What a step writes. -/
inductive Effect (db : DB) : Party → DB → Prop
  | kept {party : Party} : Effect db party db
  | work {id : Int} {input : SettlementInput} {db' : DB} (hstored : Stored id input db)
      (h : Work id input db db') : Effect db (.settlement input.eventKey) db'
  | newFact {raw input : SettlementInput} {fingerprint : SettlementDigest} {now : Int}
      {permits : Table ExecutionPermit}
      (hinput : normalizeAccountQuotaSettlementInput raw = .ok (input, fingerprint))
      (hnone : findFact db input.eventKey = none)
      (hpermits : PermitsNewFact db now
        { factCandidate input fingerprint with id := db.facts.nextId } permits) :
      Effect db (.settlement input.eventKey)
        { db with facts := db.facts.insert (factCandidate input fingerprint), permits := permits }
  | newIntent {raw input : SettlementInput} {fingerprint : SettlementDigest} {now : Int}
      (hinput : normalizeAccountQuotaSettlementInput raw = .ok (input, fingerprint))
      (hnone : findIntent db input.eventKey = none)
      (hnew : ∀ q ∈ db.permits.rows, q.input.eventKey ≠ input.eventKey) :
      Effect db (.settlement input.eventKey) { db with
        intents := db.intents.insert (intentCandidate input fingerprint)
        permits := db.permits.insert (runtimePermit now
          (some { intentCandidate input fingerprint with id := db.intents.nextId }) none input
          fingerprint) }
  | intent {key : String} {i : Int} {cur row : SettlementIntent} (hcur : db.intents.get? i = some cur)
      (hid : row.id = cur.id) (hin : row.input = cur.input) :
      Effect db (.settlement key) { db with intents := db.intents.put row }
  | newPermit {input : HistoricalPermitInput} {raw normalized : SettlementInput} {now : Int}
      {fingerprint : SettlementDigest} {fact : SettlementFact} {intent : Option SettlementIntent}
      (hinput : normalizeAccountQuotaSettlementInput raw = .ok (normalized, fingerprint))
      (hin : fact.input = normalized)
      (hintent : historicalIntent db fact normalized fingerprint = .ok intent)
      (hnew : ∀ q ∈ db.permits.rows, q.input.eventKey ≠ normalized.eventKey) :
      Effect db .review { db with
        permits := db.permits.insert
          (historicalPermit input intent fact normalized fingerprint now) }
  | revoked {i : Int} {cur : ExecutionPermit} (hcur : db.permits.get? i = some cur) :
      Effect db .review { db with permits := db.permits.put { cur with state := .revoked } }
  | foreign (change : Foreign) : Effect db .other (change.act db)

section Inversion

variable {env : Ledger.TxEnv} {fact : SettlementFact} {r : DB × Bool} {workerID : String}
  {now : Int}

theorem claimTx_work (hc : fact.Claimable now) (h : claimTx fact workerID now db env = .ok r) :
    Work fact.id input db r.1 := by
  unfold claimTx at h
  split at h <;> cases h
  · next facts hcas =>
    obtain ⟨cur, hcur, hguard, rfl⟩ := cas_eq_some.mp hcas
    have hstate : cur.state = fact.state := (of_decide_eq_true hguard).1
    refine .rewritten hcur ⟨rfl, rfl, rfl, rfl⟩ ?_ (by simp)
    rw [hstate]
    rcases hc with hc | ⟨hc, -⟩ | ⟨hc, -⟩ <;> rw [hc] <;> simp
  · exact .kept

theorem failTx_work {failure : Failure} (h : failTx fact failure now db env = .ok r) :
    Work fact.id input db r.1 := by
  unfold failTx at h
  split at h <;> cases h
  · next facts hcas =>
    obtain ⟨cur, hcur, hguard, rfl⟩ := cas_eq_some.mp hcas
    have hstate : cur.state = .claimed := (of_decide_eq_true hguard).1
    refine .rewritten hcur ⟨rfl, rfl, rfl, rfl⟩ (by simp [hstate]) ?_
    unfold failureState
    split <;> simp
  · exact .kept

/-- The funding of a settlement writes the ledger only. -/
theorem fundSource_ledger (h : fundSource db input = .ok db') :
    ∃ ledger, db' = { db with ledger := ledger } := by
  unfold fundSource at h
  split at h
  · cases h
    exact ⟨_, rfl⟩
  · obtain ⟨-, users, hdb⟩ := moveUserQuota_ok h
    exact ⟨_, hdb⟩
  · simp only [fundSubscription, bind_eq_ok] at h
    obtain ⟨_, -, -, -, -, -, _, -, -, -, -, -, hdb⟩ := h
    cases hdb
    exact ⟨_, rfl⟩
  · cases h

theorem fundingTx_work {r : DB × Unit} (h : fundingTx fact db env = .ok r) :
    Work fact.id input db r.1 := by
  simp only [fundingTx, bind_eq_ok, need_eq_ok] at h
  obtain ⟨cur, hcur, permit, hload, h⟩ := h
  split at h
  · cases h
    exact .kept
  · next hflag =>
    simp only [bind_eq_ok, check_eq_ok, exists_const] at h
    obtain ⟨hallow, _, -, ⟨hstate, -, -⟩, db', hfund, hr⟩ := h
    cases hr
    obtain ⟨ledger, rfl⟩ := fundSource_ledger hfund
    exact .funded hcur hload hallow (by simpa using hflag) hstate hfund

theorem tokenTx_work {r : DB × Unit} (happly : input.applyToken = true)
    (h : tokenTx fact db env = .ok r) : Work fact.id input db r.1 := by
  simp only [tokenTx, bind_eq_ok, need_eq_ok] at h
  obtain ⟨cur, hcur, permit, hload, h⟩ := h
  split at h
  · cases h
    exact .kept
  · simp only [bind_eq_ok, check_eq_ok, exists_const] at h
    obtain ⟨hallow, _, -, ⟨hfunding, hstate, -⟩, db', hcharge, hr⟩ := h
    cases hr
    have hledger : ∃ ledger, db' = { db with ledger := ledger } := by
      simp only [chargeToken, bind_eq_ok] at hcharge
      obtain ⟨_, -, -, -, _, -, _, -, hdb⟩ := hcharge
      cases hdb
      exact ⟨_, rfl⟩
    obtain ⟨ledger, rfl⟩ := hledger
    exact .charged hcur hload hallow happly hfunding hstate hcharge

theorem markTx_work {r : DB × Unit} (h : markTx fact db env = .ok r) :
    Work fact.id input db r.1 := by
  simp only [markTx, bind_eq_ok, need_eq_ok] at h
  obtain ⟨cur, hcur, permit, -, h⟩ := h
  split at h
  · cases h
    exact .kept
  · simp only [bind_eq_ok, check_eq_ok, exists_const] at h
    obtain ⟨⟨happly, hfunding, -⟩, hr⟩ := h
    cases hr
    exact .marked hcur happly hfunding

theorem finishAuthoritativeTx_work {receiptID : Int} (hkind : input.kind = .authoritative)
    (h : finishAuthoritativeTx fact receiptID db env = .ok r) : Work fact.id input db r.1 := by
  simp only [finishAuthoritativeTx, bind_eq_ok, need_eq_ok, check_eq_ok, exists_const] at h
  obtain ⟨-, -, permit, -, -, h⟩ := h
  split at h <;> cases h
  · next facts hcas =>
    obtain ⟨cur, hcur, -, rfl⟩ := cas_eq_some.mp hcas
    exact .confirmed hcur hkind rfl rfl ⟨rfl, rfl, rfl⟩
  · exact .kept

theorem guardedTerminalTx_work {guard : TerminalGuard} {ctx : Ledger.TerminalCtx}
    {r : DB × Ledger.Receipt} (hkind : input.kind = .authoritative)
    (h : guardedTerminalTx guard ctx db env = .ok r) : Work guard.factID input db r.1 := by
  simp only [guardedTerminalTx, validateTerminalGuard, bind_eq_ok, need_eq_ok, check_eq_ok,
    exists_const] at h
  obtain ⟨locked, -, ⟨-, cur, hcur, -, permit, hload, -, hf, ht⟩, ⟨ledger, receipt⟩, -, hr⟩ := h
  cases hr
  exact .settled hcur hkind hload hf ht

theorem WorkerStep.work (h : WorkerStep id input db db') : Work id input db db' := by
  cases h with
  | claim hfact hc h => exact hfact ▸ claimTx_work hc h
  | funding hfact h => exact hfact ▸ fundingTx_work h
  | token hfact happly h => exact hfact ▸ tokenTx_work happly h
  | mark hfact h => exact hfact ▸ markTx_work h
  | terminal hguard hkind h => exact hguard ▸ guardedTerminalTx_work hkind h
  | finish hfact hkind h => exact hfact ▸ finishAuthoritativeTx_work hkind h
  | failure hfact h => exact hfact ▸ failTx_work h

variable {fingerprint : SettlementDigest} {party : Party}

theorem intentTx_effect {fact : Option SettlementFact} {intent : SettlementIntent}
    {state : WorkState} {key : String} (h : intentTx intent fact state db env = .ok r) :
    Effect db (.settlement key) r.1 := by
  unfold intentTx at h
  split at h <;> cases h
  · next intents hcas =>
    obtain ⟨cur, hcur, -, rfl⟩ := cas_eq_some.mp hcas
    exact .intent hcur rfl rfl
  · exact .kept

theorem revokeTx_effect {permitID : Int} {r : DB × Unit} (h : revokeTx permitID db env = .ok r) :
    Effect db .review r.1 := by
  unfold revokeTx at h
  split at h <;> cases h
  · next permits hcas =>
    obtain ⟨cur, hcur, -, rfl⟩ := cas_eq_some.mp hcas
    exact .revoked hcur
  · exact .kept

/-- A historical review finds the permit of its fact or creates it. -/
theorem permitHistoricalTx_effect {input : HistoricalPermitInput} {raw normalized : SettlementInput}
    {r : DB × ExecutionPermit}
    (hinput : normalizeAccountQuotaSettlementInput raw = .ok (normalized, fingerprint))
    (h : permitHistoricalTx input normalized fingerprint db env = .ok r) : Effect db .review r.1 := by
  simp only [permitHistoricalTx, validateAccountQuotaSettlementIdentity, bind_eq_ok, need_eq_ok,
    check_eq_ok, exists_const] at h
  obtain ⟨-, -, fact, -, ⟨hin, -⟩, intent, hintent, h⟩ := h
  split at h
  · simp only [bind_eq_ok] at h
    obtain ⟨-, -, -, -, hr⟩ := h
    cases hr
    exact .kept
  · simp only [bind_eq_ok, createPermit, check_eq_ok, exists_const] at h
    obtain ⟨-, ⟨db', permit⟩, ⟨hnew, hcreate⟩, -, -, hr⟩ := h
    cases hcreate
    cases hr
    exact .newPermit hinput hin hintent hnew

theorem Step.effect (h : Step party db db') : Effect db party db' := by
  cases h with
  | stay => exact .kept
  | worker hstored h => exact .work hstored h.work
  | ensureFact hinput h =>
    obtain ⟨-, hdb | ⟨hnone, permits, hpermits, hdb⟩⟩ := ensureFactTx_ok h
    · exact hdb ▸ .kept
    · exact hdb ▸ .newFact hinput hnone hpermits
  | ensureIntent hinput h =>
    obtain ⟨-, hdb | ⟨hnone, -, hnew, hdb⟩⟩ := ensureIntentTx_ok h
    · exact hdb ▸ .kept
    · exact hdb ▸ .newIntent hinput hnone hnew
  | intent h => exact intentTx_effect h
  | historical hinput h => exact permitHistoricalTx_effect hinput h
  | revoke h => exact revokeTx_effect h
  | foreign change => exact .foreign change

end Inversion

section

variable (f : SettlementFact)

@[simp]
theorem funded_input : f.funded.input = f.input := by
  unfold SettlementFact.funded
  split <;> rfl

@[simp]
theorem funded_id : f.funded.id = f.id := by
  unfold SettlementFact.funded
  split <;> rfl

@[simp]
theorem funded_fundingApplied : f.funded.fundingApplied = true := by
  unfold SettlementFact.funded
  split <;> rfl

end

/-- The facts behind a worker's transaction: unchanged, or the worker's row rewritten under its
identity. -/
theorem Work.facts (h : Work id input db db') :
    db'.facts = db.facts ∨ ∃ cur row, db.facts.get? id = some cur ∧ row.id = cur.id ∧
      row.input = cur.input ∧ db'.facts = db.facts.put row := by
  cases h with
  | kept | settled => exact .inl rfl
  | rewritten hcur hsame => exact .inr ⟨_, _, hcur, hsame.id, hsame.input, rfl⟩
  | @funded cur _ _ hcur => exact .inr ⟨cur, _, hcur, funded_id cur, funded_input cur, rfl⟩
  | charged hcur | marked hcur => exact .inr ⟨_, .finished _, hcur, rfl, rfl, rfl⟩
  | confirmed hcur _ hid hin => exact .inr ⟨_, _, hcur, hid, hin, rfl⟩

variable {party : Party}

/-- Facts keep their keys and their identity along every step. -/
theorem Step.keys (h : Step party db db') (hI : FactKeys db) :
    FactKeys db' ∧ Continues db db' := by
  have same : ∀ {db' : DB}, db'.facts = db.facts → FactKeys db' ∧ Continues db db' :=
    fun hf => ⟨hI.of_facts hf, Continues.of_facts hf⟩
  cases h.effect with
  | kept | newIntent | intent | newPermit | revoked => exact same rfl
  | work _ h =>
    obtain hf | ⟨cur, row, hcur, hid, hin, hf⟩ := h.facts
    · exact same hf
    · have hcur' : db.facts.get? cur.id = some cur := get?_of_mem (get?_mem hcur)
      exact hI.put hcur' hid hin hf
  | @newFact _ input fingerprint _ _ _ hnone =>
    exact hI.insert (f := factCandidate input fingerprint) hnone rfl
  | foreign change => exact same (change.facts db)

/-- The guarantee of a job: a step for its key that keeps the facts. -/
def Guarantee (party : Party) (db db' : DB) : Prop := Step party db db' ∧ Continues db db'

theorem guarantee_refl (party : Party) (db : DB) : Guarantee party db db :=
  ⟨.stay, Continues.refl db⟩

theorem Step.guarantee (h : Step party db db') (hI : FactKeys db) :
    Guarantee party db db' ∧ FactKeys db' :=
  ⟨⟨h, (h.keys hI).2⟩, (h.keys hI).1⟩

/-! ### Programs of a worker -/

section Programs

variable {α ε : Type} {id : Int} {P : α → Prop} {H : ε → Prop} {claimed fact : SettlementFact}
  {workerID : String}

/-- A program of a worker on the fact with an id and an identity: whatever the other processes
did before, each of its actions is a step for that fact. -/
def Works (id : Int) (input : SettlementInput) (P : α → Prop) (H : ε → Prop)
    (x : Routine DB Env ε α) : Prop :=
  Routine.Keeps (fun db => FactKeys db ∧ Stored id input db) (Guarantee (.settlement input.eventKey)) P H x

/-- Such a program, whatever it ends with. -/
abbrev Acts (id : Int) (input : SettlementInput) (x : Routine DB Env ε α) : Prop :=
  Works id input (fun _ => True) (fun _ => True) x

/-- A row of the worker's fact. -/
def IsRow (id : Int) (input : SettlementInput) (f : SettlementFact) : Prop :=
  f.id = id ∧ f.input = input

theorem works_query {f : DB → Ledger.TxEnv → Fallible α} :
    Acts id input (query f) :=
  keeps_query (fun db _ => guarantee_refl _ db) fun _ _ _ _ _ => trivial

theorem works_transaction {f : DB → Ledger.TxEnv → Fallible (DB × α)}
    (h : ∀ db env r, f db env = .ok r → WorkerStep id input db r.1) :
    Acts id input (transaction f) := by
  refine keeps_transaction (fun db _ => guarantee_refl _ db) ?_
  rintro db env r ⟨hI, hK⟩ hf
  obtain ⟨hG, hI'⟩ := (Step.worker hK (h db env r hf)).guarantee hI
  exact ⟨hG, ⟨hI', hK.continues _ _ hG.2⟩, trivial⟩

theorem works_readFact : Works id input (IsRow id input) (fun _ => True) (readFact id) := by
  refine keeps_query (fun db _ => guarantee_refl _ db) ?_
  rintro db env f ⟨-, hK⟩ hf
  have hrow := need_eq_ok.mp hf
  exact ⟨get?_id hrow, (hK.row hrow).2⟩

variable {x : Fallible α}

theorem works_lift : Acts id input
    (Routine.lift x : Task DB α) :=
  Routine.keeps_lift (fun _ _ => trivial) fun _ _ => trivial

theorem Works.attempted {x : Task DB α} (h : Works id input P (fun _ => True) x) :
    Acts id input (Routine.attempt x) :=
  h.attempt (fun _ _ => trivial) fun _ _ => trivial

theorem applyFunding_works (hid : claimed.id = id) :
    Acts id input (applyAccountQuotaSettlementFunding claimed) := by
  subst hid
  have hlegs : Acts claimed.id input (do
      let result ← Routine.attempt (transaction (fundingTx claimed))
      let readback ← Routine.attempt (readFact claimed.id)
      Routine.lift (settleLeg result readback SettlementFact.fundingApplied)) := by
    refine (works_transaction fun _ _ _ => .funding rfl).attempted.bind
      fun _ _ => ?_
    exact works_readFact.attempted.before fun _ => works_lift
  unfold applyAccountQuotaSettlementFunding
  split
  · exact (keeps_permission fun db _ => guarantee_refl _ db).bind fun _ _ => hlegs
  · exact hlegs

theorem applyToken_works (h : IsRow id input claimed) :
    Acts id input (applyAccountQuotaSettlementToken claimed) := by
  obtain ⟨rfl, rfl⟩ := h
  unfold applyAccountQuotaSettlementToken
  split
  · next ha =>
    refine works_query.before fun _ => ?_
    refine (keeps_permission fun db _ => guarantee_refl _ db).before fun _ => ?_
    refine (works_transaction fun _ _ _ => .token rfl ha).attempted.bind fun _ _ => ?_
    exact works_readFact.attempted.before fun _ => works_lift
  · exact works_transaction fun _ _ _ => .mark rfl

/-- The transaction loop of an authoritative settlement. -/
theorem terminalLoop_works {guard : TerminalGuard} (hguard : guard.factID = id)
    (hkind : input.kind = .authoritative) :
    ∀ (n : Nat) (ctx : Ledger.TerminalCtx),
      Acts id input (terminalLoop guard ctx n)
  | 0, _ => Routine.keeps_throw trivial
  | n + 1, ctx => by
    have hattempt : Acts id input
        (ExceptT.lift (terminalAttempt guard ctx) :
          Routine DB Env (Ledger.TerminalCtx × Failure) _) := by
      refine Keeps.bind (P := fun _ => True) (keeps_update ?_) fun _ _ =>
        keeps_pure trivial
      rintro db e ⟨hI, hK⟩
      have htx : ∀ r, guardedTerminalTx guard ctx db e.tx = .ok r →
          Guarantee (.settlement input.eventKey) db r.1 ∧ FactKeys r.1 ∧ Stored id input r.1 := by
        intro r hr
        obtain ⟨hG, hI'⟩ := (Step.worker hK (.terminal hguard hkind hr)).guarantee hI
        exact ⟨hG, hI', hK.continues _ _ hG.2⟩
      have hsame := guarantee_refl (.settlement input.eventKey) db
      cases e.outcome with
      | failed => exact ⟨hsame, ⟨hI, hK⟩, trivial⟩
      | lost | answered =>
        cases hf : guardedTerminalTx guard ctx db e.tx with
        | error failure => exact ⟨hsame, ⟨hI, hK⟩, trivial⟩
        | ok r => exact ⟨(htx r hf).1, (htx r hf).2, trivial⟩
    refine hattempt.bind ?_
    rintro ⟨ctx', busy, result⟩ -
    cases result with
    | ok receipt => exact Routine.keeps_pure trivial
    | error failure =>
      have hread : Acts id input (terminalReadback ctx') :=
        keeps_read fun db _ => guarantee_refl _ db
      refine hread.adapted.bind ?_
      rintro replay -
      cases replay with
      | some receipt => exact Routine.keeps_pure trivial
      | none =>
        show Works id input _ _ (if _ then _ else _)
        split
        · exact terminalLoop_works hguard hkind n ctx'
        · exact Routine.keeps_throw trivial

theorem settleAccountQuota_works {guard : TerminalGuard} {terminal : Ledger.TerminalInput}
    (hguard : guard.factID = id) (hkind : input.kind = .authoritative) :
    Acts id input (settleAccountQuota guard terminal) := by
  refine works_query.bind ?_
  rintro (receipt | ctx) -
  · exact Routine.keeps_pure trivial
  · refine Routine.Keeps.bind (P := fun _ => True) ((terminalLoop_works hguard hkind _ ctx).caught
      (fun _ _ => trivial) fun _ _ => trivial) ?_
    rintro (⟨ctx, failure⟩ | receipt) -
    · exact keeps_read fun db _ => guarantee_refl _ db
    · exact Routine.keeps_pure trivial

section

variable (h : IsRow id input claimed)
include h

theorem applyAuthoritative_works (hkind : input.kind = .authoritative) :
    Acts id input
      (applyAuthoritativeAccountQuotaSettlement claimed) := by
  obtain ⟨rfl, rfl⟩ := h
  refine works_query.before fun permit => ?_
  refine works_lift.before fun _ => ?_
  refine Routine.Keeps.before (settleAccountQuota_works rfl hkind) fun receipt => ?_
  refine works_lift.before fun _ => ?_
  refine Routine.Keeps.bind (works_transaction fun _ _ _ =>
    .finish rfl hkind).attempted fun _ _ => ?_
  exact works_readFact.attempted.before fun _ => works_lift

/-- The legs end with a row of the fact, also when they fail. -/
theorem recoverLegs_works :
    Works id input (IsRow id input) (fun e => IsRow id input e.1) (recoverLegs claimed) := by
  unfold recoverLegs
  split
  · next hkind =>
    rw [h.2] at hkind
    refine Routine.Keeps.before ((applyAuthoritative_works h hkind).adapt fun _ _ => h) fun _ => ?_
    exact Routine.keeps_pure h
  · refine Routine.Keeps.bind (P := IsRow id input) ?_ ?_
    · unfold recoverFunding
      split
      · exact Routine.keeps_pure h
      · refine Routine.Keeps.before ((applyFunding_works h.1).adapt fun _ _ => h) fun _ => ?_
        rw [h.1]
        exact works_readFact.adapt fun _ _ => h
    · intro claimed h
      unfold recoverToken
      split
      · refine Routine.Keeps.before ((applyToken_works h).adapt fun _ _ => h) fun _ => ?_
        exact Routine.keeps_pure h
      · exact Routine.keeps_pure h

theorem recoverFailure_works {failure : Failure} :
    Acts id input (recoverFailure claimed failure) := by
  obtain ⟨rfl, rfl⟩ := h
  have hfinish : Acts claimed.id claimed.input
      (finishAccountQuotaSettlementFailure claimed failure) := by
    refine (keeps_databaseTime fun db _ => guarantee_refl _ db).before fun now => ?_
    refine (works_transaction fun _ _ _ => .failure rfl).before fun hit => ?_
    cases hit with
    | true => exact Routine.keeps_pure trivial
    | false => exact works_readFact.attempted.before fun _ => works_lift
  refine hfinish.adapted.before fun _ => ?_
  refine works_readFact.attempted.adapted.bind ?_
  rintro (e | stored) -
  · exact Routine.keeps_throw trivial
  · show Works _ _ _ _ (if _ then _ else _)
    split
    · exact Routine.keeps_throw trivial
    · exact Routine.keeps_throw trivial

theorem recoverClaimed_works :
    Acts id input (recoverClaimed claimed) := by
  refine Routine.Keeps.bind (P := fun r : Except (SettlementFact × Failure) SettlementFact =>
    match r with
    | .ok row => IsRow id input row
    | .error e => IsRow id input e.1)
    ((recoverLegs_works h).caught (fun _ hrow => hrow) fun _ hrow => hrow) ?_
  rintro (⟨row, failure⟩ | row) hrow
  · exact recoverFailure_works hrow
  · show Works id input _ _ (ExceptT.adapt _ (readFact row.id))
    rw [show row.id = id from hrow.1]
    exact works_readFact.adapted.mono (fun _ _ => trivial) fun _ h => h

end

/-- Everything a worker does after it found the fact that it was given. -/
theorem claim_works (h : IsRow id input fact) :
    Works id input (fun r => ∀ claimed, r = some claimed → IsRow id input claimed) (fun _ => True)
      (claimAccountQuotaSettlementFact fact workerID now) := by
  obtain ⟨rfl, rfl⟩ := h
  unfold claimAccountQuotaSettlementFact
  split
  · next hc =>
    refine (works_transaction fun _ _ _ => .claim rfl hc).adapted.before fun won => ?_
    cases won with
    | false => exact Routine.keeps_pure (by simp)
    | true =>
      refine works_readFact.adapted.bind fun claimed hrow => ?_
      refine Routine.keeps_pure ?_
      intro row h
      cases h
      exact hrow
  · exact Routine.keeps_pure (by simp)

/-- A worker's program under interference. -/
theorem Works.safe {x : Routine DB Env ε α} (h : Works id input P H x) (hI : FactKeys db)
    (hK : Stored id input db) :
    Routine.Safe FactKeys (Guarantee (.settlement input.eventKey)) Continues
      (fun a t => P a ∧ Stored id input t) (fun e t => H e ∧ Stored id input t) x db :=
  Routine.Keeps.safe h Stored.continues hI hK

/-- A check of the database in front of a result. -/
theorem works_query_then {β : Type} {f : DB → Ledger.TxEnv → Fallible β} {g : Failure → ε} {a : α} :
    Acts id input
      (ExceptT.adapt g (query f) >>= fun _ => pure a : Routine DB Env ε α) :=
  works_query.adapted.bind fun _ _ => Routine.keeps_pure trivial

/-- The stored row behind the admission has the identity of the given one. -/
theorem recoveryAdmission_safe (hI : FactKeys db) :
    Routine.Safe FactKeys (Guarantee (.settlement fact.input.eventKey)) Continues
      (fun r t => r.isRight = true → Stored fact.id fact.input t) (fun _ _ => True)
      (recoveryAdmission fact) db := by
  refine Routine.Safe.bind (Q := fun stored t => t.facts.get? fact.id = some stored)
    ((safe_query (guarantee_refl _) ?_).adapt hI fun _ _ _ _ => trivial) hI ?_
  · intro t env stored _ _ hread
    exact need_eq_ok.mp hread
  · intro stored t hI hrow
    have hcheck : Routine.Safe FactKeys (Guarantee (.settlement fact.input.eventKey)) Continues
        (fun _ => Stored fact.id fact.input) (fun _ _ => True)
        (Routine.lift (matchStored fact stored) : Task DB Unit) t := by
      refine Routine.safe_lift ?_ fun _ _ => trivial
      intro _ h
      simp only [matchStored, bind_eq_ok, validateAccountQuotaSettlementIdentity, check_eq_ok] at h
      obtain ⟨_, -, hin, -⟩ := h
      refine ⟨stored, ?_, get?_id hrow, hin.symm⟩
      rw [hin]
      exact find?_of_unique hI (get?_mem hrow)
    refine (hcheck.adapt hI fun _ _ _ _ => trivial).bind hI fun _ u hI hK => ?_
    split
    · exact (works_query_then.safe hI hK).mono hI (fun _ _ _ h _ => h.2) fun _ _ _ _ => trivial
    · exact (works_query_then.safe hI hK).mono hI (fun _ _ _ h _ => h.2) fun _ _ _ _ => trivial

theorem recoverAdmitted_works : Acts fact.id fact.input (recoverAdmitted fact workerID) := by
  refine (keeps_databaseTime fun db _ => guarantee_refl _ db).adapted.before fun now => ?_
  refine (claim_works ⟨rfl, rfl⟩).bind fun claimed hclaimed => ?_
  cases claimed with
  | none => exact Routine.keeps_pure trivial
  | some row => exact recoverClaimed_works (hclaimed row rfl)

theorem recoverFact_safe (hI : FactKeys db) :
    Routine.Safe FactKeys (Guarantee (.settlement fact.input.eventKey)) Continues (fun _ _ => True)
      (fun _ _ => True) (recoverAccountQuotaSettlementFact fact workerID) db := by
  refine (Routine.safe_lift (Q := fun _ _ => True) (fun _ _ => trivial)
    fun _ _ => trivial).bind hI fun _ db hI _ => ?_
  refine (recoveryAdmission_safe hI).bind hI fun admitted db hI hadmitted => ?_
  cases admitted with
  | inl stored => exact Routine.safe_pure trivial
  | inr stored =>
    exact (recoverAdmitted_works.safe hI (hadmitted rfl)).mono hI (fun _ _ _ _ => trivial)
      fun _ _ _ _ => trivial

end Programs

/-! ### Programs of the other jobs -/

section Jobs

variable {α : Type} {party : Party} {P : α → Prop}

/-- A program that needs no knowledge but the invariant. -/
def Records (party : Party) (P : α → Prop) (x : Task DB α) : Prop :=
  Routine.Keeps FactKeys (Guarantee party) P (fun _ => True) x

theorem records_read {f : DB → Ledger.TxEnv → Fallible α} : Records party (fun _ => True) (query f) :=
  keeps_query (fun db _ => guarantee_refl _ db) fun _ _ _ _ _ => trivial

theorem records_lift (h : ∀ a, x = .ok a → P a) :
    Records party P (Routine.lift x) :=
  Routine.keeps_lift h fun _ _ => trivial

theorem records_time : Records party (fun _ => True) databaseTime :=
  keeps_databaseTime fun db _ => guarantee_refl _ db

theorem records_transaction {f : DB → Ledger.TxEnv → Fallible (DB × α)}
    (hstep : ∀ db env r, f db env = .ok r → Step party db r.1)
    (hP : ∀ db env r, f db env = .ok r → P r.2) : Records party P (transaction f) := by
  refine keeps_transaction (fun db _ => guarantee_refl _ db) fun db env r hI hr => ?_
  obtain ⟨hG, hI'⟩ := (hstep db env r hr).guarantee hI
  exact ⟨hG, hI', hP db env r hr⟩

/-- The creation of a fact, and its readback. -/
theorem createFact_records {raw : SettlementInput}
    (hinput : normalizeAccountQuotaSettlementInput raw = .ok (input, fingerprint)) :
    Records (.settlement input.eventKey) (fun f => f.input = input) (createFact input fingerprint) := by
  have htx : Records (.settlement input.eventKey) (fun f => f.input = input)
      (transaction (ensureFactTx input fingerprint)) :=
    records_transaction (fun _ _ _ => .ensureFact hinput) fun _ _ _ h => (ensureFactTx_ok h).1
  refine records_time.adapted.before fun _ => ?_
  refine Routine.Keeps.bind (P := fun r : Fallible SettlementFact => ∀ f, r = .ok f → f.input = input)
    (htx.attempt (fun f hf g hg => ?_) fun e _ g hg => ?_) ?_
  · cases hg
    exact hf
  · cases hg
  · rintro (failure | fact) hfact
    · refine records_read.adapted.before fun stored => ?_
      refine (records_lift fun _ h => ?_).bind fun _ => Routine.keeps_pure
      exact (check_eq_ok.mp h).1
    · exact Routine.keeps_pure (hfact fact rfl)

theorem ensureFact_records :
    Records (.settlement (trimSpace input.eventKey))
      (fun f => f.input.eventKey = trimSpace input.eventKey)
      (ensureAccountQuotaSettlementFact input) := by
  refine (records_lift fun _ hr => hr).bind ?_
  rintro ⟨normalized, fingerprint⟩ hinput
  have hkey : normalized.eventKey = trimSpace input.eventKey := by
    rw [show normalized = _ from (normalize_ok hinput).1]
  rw [← hkey]
  refine records_read.before fun _ => ?_
  refine records_read.before fun _ => ?_
  refine records_read.adapted.before fun stored => ?_
  cases stored with
  | some stored =>
    refine (records_lift fun _ h => (check_eq_ok.mp h).1).bind fun _ h => ?_
    exact Routine.keeps_pure (by rw [h])
  | none => exact (createFact_records hinput).mono (fun f hf => by rw [hf]) fun _ _ => trivial

theorem ensureIntent_records :
    Records (.settlement (trimSpace input.eventKey)) (fun _ => True)
      (ensureAccountQuotaSettlementIntent input) := by
  refine (records_lift fun _ hr => hr).bind ?_
  rintro ⟨normalized, fingerprint⟩ hinput
  have hkey : normalized.eventKey = trimSpace input.eventKey := by
    rw [show normalized = _ from (normalize_ok hinput).1]
  rw [← hkey]
  have htx : Records (.settlement normalized.eventKey) (fun _ => True)
      (transaction (ensureIntentTx normalized fingerprint)) :=
    records_transaction (fun _ _ _ => .ensureIntent hinput) fun _ _ _ _ => trivial
  refine records_read.before fun _ => ?_
  refine records_read.before fun _ => ?_
  refine records_read.adapted.before fun stored => ?_
  cases stored with
  | some stored =>
    exact Routine.Keeps.bind (P := fun _ => True) (records_lift fun _ _ => trivial) fun _ _ =>
      Routine.keeps_pure trivial
  | none =>
    refine records_time.adapted.before fun _ => ?_
    refine Routine.Keeps.bind (P := fun _ => True)
      (htx.attempt (fun _ _ => trivial) fun _ _ => trivial) fun created _ => ?_
    cases created with
    | ok intent => exact Routine.keeps_pure trivial
    | error failure => exact records_read.adapted

theorem intentUpdate_records
    :
    Keeps FactKeys (Guarantee (.settlement key)) (fun _ => True) (intentUpdate intent fact state) := by
  have htx : Records (.settlement key) (fun _ => True) (transaction (intentTx intent fact state)) :=
    records_transaction (fun _ _ _ => .intent) fun _ _ _ _ => trivial
  have hupdate : Routine.Keeps FactKeys (Guarantee (.settlement key)) (fun _ => True) (fun _ => True)
      (updateAccountQuotaSettlementIntent intent fact state) := by
    refine records_time.adapted.before fun _ => ?_
    refine htx.adapted.before fun hit => ?_
    refine records_read.adapted.before fun stored => ?_
    split
    · exact Routine.keeps_throw trivial
    · exact Routine.keeps_pure trivial
  refine Keeps.bind hupdate fun r _ => ?_
  cases r with
  | ok | error => exact keeps_pure trivial

theorem permitHistorical_records {input : HistoricalPermitInput} :
    Records .review (fun _ => True) (permitHistoricalAccountQuotaSettlement input) := by
  refine Routine.Keeps.bind (P := fun r => ∃ raw, normalizeAccountQuotaSettlementInput raw = .ok r)
    (records_lift fun r hr => ?_) ?_
  · simp only [bind_eq_ok] at hr
    obtain ⟨-, -, normalized, hnormalized, -, -, hr⟩ := hr
    cases hr
    exact ⟨_, hnormalized⟩
  · rintro ⟨normalized, fingerprint⟩ ⟨raw, hinput⟩
    exact records_transaction (fun _ _ _ => .historical hinput) fun _ _ _ _ => trivial

end Jobs

/-! ### Runs -/

/-- The fact of an intent, its recovery and the update of the intent. -/
theorem openIntent_safe (hI : FactKeys db) :
    Safe FactKeys (Guarantee (.settlement (trimSpace intent.input.eventKey))) Continues
      (fun _ _ => True) (openIntent intent workerID) db := by
  have hpermit : Records (.settlement (trimSpace intent.input.eventKey)) (fun _ => True)
      (query fun db _ => loadAccountQuotaExecutionPermitForIntent db intent) := records_read
  refine Safe.bind (hpermit.safe_all db) hI fun permit db hI _ => ?_
  cases permit with
  | error failure => exact safe_pure trivial
  | ok permit =>
    refine Safe.bind (ensureFact_records.safe_all db) hI
      fun fact db hI hfact => ?_
    cases fact with
    | error failure =>
      refine Safe.bind (intentUpdate_records.safe_all db) hI fun r db hI _ => ?_
      show Safe _ _ _ _ (if _ then _ else _) db
      split <;> exact safe_pure trivial
    | ok fact =>
      have hfact := hfact
      rw [← hfact]
      refine Safe.bind (recoverFact_safe hI) hI fun recovered db hI _ => ?_
      refine Safe.bind (intentUpdate_records.safe_all db) hI fun r db hI _ => ?_
      repeat' split
      all_goals exact safe_pure trivial

/-- A worker on an intent works on the fact of the intent's key. -/
theorem recoverIntent_safe (hI : FactKeys db) :
    Safe FactKeys (Guarantee (.settlement (trimSpace intent.input.eventKey))) Continues
      (fun _ _ => True) (recoverAccountQuotaSettlementIntent intent workerID) db := by
  have hread : Records (.settlement (trimSpace intent.input.eventKey)) (fun _ => True)
      (query fun db _ => need (db.intents.get? intent.id) [.recordNotFound]) := records_read
  refine (hread.safe_all db).bind hI fun read db hI _ => ?_
  cases read with
  | error failure => exact safe_pure trivial
  | ok stored =>
    dsimp only
    split
    · exact safe_pure trivial
    · next hchecked =>
      simp only [bind_eq_ok, validateAccountQuotaSettlementIntent, check_eq_ok] at hchecked
      obtain ⟨_, -, hin, -, -⟩ := hchecked
      rw [hin]
      split
      · exact safe_pure trivial
      · have hfact : Records (.settlement (trimSpace stored.input.eventKey)) (fun _ => True)
            (query fun db _ => need (db.facts.get? stored.factID) [.recordNotFound]) := records_read
        refine (hfact.safe_all db).bind hI fun fact db hI _ => ?_
        cases fact with
        | error failure => exact safe_pure trivial
        | ok fact =>
          show Safe _ _ _ _ (if _ then _ else _) db
          split <;> exact safe_pure trivial
      · exact openIntent_safe hI

/-- Every action of every job is a step. -/
theorem Job.program_safe (j : Job) (hI : FactKeys db) :
    Safe FactKeys (Guarantee j.party) Continues (fun _ _ => True) j.program db := by
  cases j with
  | ensureIntent input => exact (keeps_finish ensureIntent_records).safe_all db
  | ensureFact input => exact (keeps_finish ensureFact_records).safe_all db
  | recoverFact fact workerID =>
    exact Safe.bind (recoverFact_safe hI) hI fun _ _ _ _ => safe_pure trivial
  | recoverIntent intent workerID =>
    exact Safe.bind (recoverIntent_safe hI) hI fun _ _ _ _ => safe_pure trivial
  | permitHistorical input => exact (keeps_finish permitHistorical_records).safe_all db
  | revoke permitID =>
    have htx : Records .review (fun _ => True) (transaction (revokeTx permitID)) :=
      records_transaction (fun _ _ _ => .revoke) fun _ _ _ _ => trivial
    exact (keeps_finish htx).safe_all db
  | foreign change =>
    refine safe_update fun db' _ hI' _ => ?_
    obtain ⟨hG, hI''⟩ := (Step.foreign change).guarantee hI'
    exact ⟨hG, hI'', trivial⟩

/-- In every run the keys stay unique and every transition is a step of its job. -/
theorem reaches_sound {db₀ : DB} {w : System DB Env Job} (h₀ : FactKeys db₀) (hw : Reaches db₀ w) :
    System.Sound FactKeys (fun j : Job => Guarantee j.party) Continues db₀ w := by
  obtain ⟨events, hrun⟩ := hw
  refine System.run_sound Continues.refl Continues.trans (fun _ _ _ h => h.2) ?_
    (System.sound_init h₀) hrun
  intro j db db' p hI hl
  cases hl
  exact ⟨guarantee_refl _ db, hI, j.program_safe hI⟩

end MyApiSpec.Settlement
