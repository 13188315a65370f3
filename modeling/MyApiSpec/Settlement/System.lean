import MyApiSpec.Settlement.Recover

/-!
# The settlement system

Any number of processes over one database: callers that record a settlement, workers that apply
facts and intents, historical reviews, revocations, and other code. Other code may change
everything but the facts, the intents, the permits and the gate.
-/

namespace MyApiSpec.Settlement

open Base Prog

/-- A change by other code: sessions, the ledger, batch drains, administrators. -/
structure Foreign where
  act : DB → DB
  facts : ∀ db, (act db).facts = db.facts
  intents : ∀ db, (act db).intents = db.intents
  permits : ∀ db, (act db).permits = db.permits
  gates : ∀ db, (act db).gates = db.gates

/-- What a process is started for. -/
inductive Job where
  | ensureIntent (input : SettlementInput)
  | ensureFact (input : SettlementInput)
  | recoverFact (fact : SettlementFact) (workerID : String)
  | recoverIntent (intent : SettlementIntent) (workerID : String)
  | permitHistorical (input : HistoricalPermitInput)
  | revoke (permitID : Int)
  | foreign (change : Foreign)

/-- On whose behalf a job acts: a settlement with an event key, the review of permits, or other
code. -/
inductive Party where
  | settlement (eventKey : String)
  | review
  | other
  deriving DecidableEq, Repr

/-- The party of a job; a job on a settlement works on the event key it trims from its input. -/
def Job.party : Job → Party
  | .ensureIntent input => .settlement (trimSpace input.eventKey)
  | .ensureFact input => .settlement (trimSpace input.eventKey)
  | .recoverFact fact _ => .settlement fact.input.eventKey
  | .recoverIntent intent _ => .settlement (trimSpace intent.input.eventKey)
  | .permitHistorical _ => .review
  | .revoke _ => .review
  | .foreign _ => .other

/-- Revoke a permit. -/
def revokeTx (permitID : Int) (db : DB) (_ : Ledger.TxEnv) : Fallible (DB × Unit) :=
  match db.permits.cas permitID (fun _ => true) (fun p => { p with state := .revoked }) with
  | some permits => .ok ({ db with permits := permits }, ())
  | none => .ok (db, ())

/-- Forget the result of a program. -/
def finish (p : Prog DB Env α) : Prog DB Env Unit := do
  let _ ← p
  return ()

/-- The program of a job. -/
def Job.program : Job → Prog DB Env Unit
  | .ensureIntent input => finish (ensureAccountQuotaSettlementIntent input).run
  | .ensureFact input => finish (ensureAccountQuotaSettlementFact input).run
  | .recoverFact fact workerID => finish (recoverAccountQuotaSettlementFact fact workerID).run
  | .recoverIntent intent workerID => finish (recoverAccountQuotaSettlementIntent intent workerID)
  | .permitHistorical input => finish (permitHistoricalAccountQuotaSettlement input).run
  | .revoke permitID => finish (transaction (revokeTx permitID)).run
  | .foreign change => Prog.update fun db _ => (change.act db, ())

/-- Every job can be started at any time. -/
def launch (j : Job) (db : DB) : Option (DB × Prog DB Env Unit) := some (db, j.program)

/-- A system that some interleaving reaches from the database `db₀`. -/
def Reaches (db₀ : DB) (w : System DB Env Job) : Prop :=
  ∃ events, run (System.step launch) ⟨db₀, [], []⟩ events = some w

/-! ### Rules for statements -/

section Rules

variable {I : DB → Prop} {G R : DB → DB → Prop} {α : Type} {P : α → Prop}
  {f : DB → Ledger.TxEnv → Fallible α}

section

variable (hG : ∀ db, I db → G db db)
include hG

theorem keeps_query
    (h : ∀ db env a, I db → f db env = .ok a → P a) :
    Routine.Keeps I G P (fun _ => True) (query f) := by
  refine keeps_read hG fun db e hI => ?_
  cases e.outcome with
  | answered =>
    cases hf : f db e.tx with
    | error failure => trivial
    | ok a => exact h db e.tx a hI hf
  | lost => trivial
  | failed => trivial

theorem keeps_databaseTime :
    Routine.Keeps I G (fun _ => True) (fun _ => True) databaseTime :=
  keeps_query hG fun _ _ _ _ _ => trivial

/-- A read of any form. -/
theorem keeps_read {f : DB → Env → Fallible α} :
    Routine.Keeps I G (fun _ => True) (fun _ => True) (ExceptT.mk (Prog.read f)) := by
  refine Prog.keeps_read hG fun db e _ => ?_
  cases f db e with
  | error failure => trivial
  | ok a => trivial

theorem keeps_permission :
    Routine.Keeps I G (fun _ => True) (fun _ => True) permission :=
  keeps_read hG

theorem keeps_transaction {f : DB → Ledger.TxEnv → Fallible (DB × α)}
    (h : ∀ db env r, I db → f db env = .ok r → G db r.1 ∧ I r.1 ∧ P r.2) :
    Routine.Keeps I G P (fun _ => True) (transaction f) := by
  refine keeps_update fun db e hI => ?_
  cases e.outcome with
  | failed => exact ⟨hG db hI, hI, trivial⟩
  | lost =>
    cases hf : f db e.tx with
    | error failure => exact ⟨hG db hI, hI, trivial⟩
    | ok r =>
      obtain ⟨h1, h2, -⟩ := h db e.tx r hI hf
      exact ⟨h1, h2, trivial⟩
  | answered =>
    cases hf : f db e.tx with
    | error failure => exact ⟨hG db hI, hI, trivial⟩
    | ok r => exact h db e.tx r hI hf

end

/-- A read that is used later: what it found in the state of the read. -/
theorem safe_query {Q : α → DB → Prop} {db : DB}
    (hG : ∀ db, G db db) (h : ∀ db' env a, R db db' → I db' → f db' env = .ok a → Q a db') :
    Routine.Safe I G R Q (fun _ _ => True) (query f) db := by
  refine safe_read hG fun db' hR hI e => ?_
  cases e.outcome with
  | answered =>
    cases hf : f db' e.tx with
    | error failure => trivial
    | ok a => exact h db' e.tx a hR hI hf
  | lost => trivial
  | failed => trivial

theorem keeps_finish {p : Prog DB Env α} {Q : α → Prop} (h : Keeps I G Q p) :
    Keeps I G (fun _ => True) (finish p) :=
  h.bind fun _ _ => keeps_pure trivial

end Rules

/-! ### Concrete runs -/

/-- A database with one user, one token and one subscription; request `q2` is a self-use request
with its journal row. -/
def plainDB : DB where
  ledger := Ledger.plainDB
  gates := [⟨1, 1, true⟩]
  facts := Table.empty
  intents := Table.empty
  permits := Table.empty
  journals := Table.empty.insert
    { requestID := "q2", userID := 1, tokenID := 1, fundingSource := .selfUse
      usagePolicyRevision := 1, state := .prepared }
  refundFacts := Table.empty
  preConsumes := Table.empty

/-- A wallet settlement of 30 with a token leg. -/
def walletSettlement : SettlementInput :=
  { eventKey := "s1", requestID := "q1", kind := .legacyWallet, userID := 1, tokenID := 1
    delta := 30, applyToken := true }

/-- An action at a time, with an outcome. -/
def plainEnv (now : Int) (outcome : StatementOutcome := .answered) : Env :=
  { tx := Ledger.plainEnv now, outcome := outcome }

/-- The next `n` actions of a process, all answered. -/
def advances (k n : Nat) (now : Int) : List (Event Env Job) :=
  List.replicate n (.advance k (plainEnv now))

/-- The end of a run from `plainDB`. -/
def plainRun (events : List (Event Env Job)) : System DB Env Job :=
  (run (System.step launch) ⟨plainDB, [], []⟩ events).getD ⟨plainDB, [], []⟩

theorem plainRun_reaches {events : List (Event Env Job)}
    (h : (run (System.step launch) ⟨plainDB, [], []⟩ events).isSome = true) :
    Reaches plainDB (plainRun events) :=
  ⟨events, run_getD h⟩

end MyApiSpec.Settlement
