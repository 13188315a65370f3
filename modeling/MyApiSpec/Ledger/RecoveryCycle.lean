import MyApiSpec.Base.Keyset
import MyApiSpec.Base.Run
import MyApiSpec.Ledger.Recovery

/-!
# Cycles of the terminal recovery

`RunAccountQuotaTerminalRecoveryObligations` with the cursor `account_refund_recovery_v1`
(`model/account_quota_recovery.go:640–736`, `model/quota_work_cursor.go:65–91`). A run is modelled statement by
statement: between two statements rows are inserted and changed by others, and the run may be interrupted, by an
error or by its context, before any of them. What `RefundAccountQuota` writes counts as a change by others.

The record `cycle` is a history of the current cycle that no statement reads.
-/

namespace MyApiSpec.Ledger.Cycle

open Base

/-- The columns `LastID` and `HighWatermark` of the cursor, zero before it is first saved. -/
structure Cursor where
  lastID : Int := 0
  highWatermark : Int := 0
  deriving DecidableEq, Repr

/-- The statement that a run makes next, and the candidates of its page that are left. -/
inductive Stage where
  | begin
  | fix (newest : Int)
  | page
  | closing
  | rows (rest : List Obligation)
  | manual (candidate : Obligation) (rest : List Obligation)
  | claim (candidate : Obligation) (rest : List Obligation)
  | claimed (id : Int) (rest : List Obligation)
  | refund (claimed : Obligation) (rest : List Obligation)
  | finish (claimed : Obligation) (failed : Bool) (rest : List Obligation)
  deriving DecidableEq, Repr

/-- The variables of a run. `unsaved` is a history: the rows attempted since the cursor was last saved. -/
structure Runner where
  workerID : String
  now : Int
  limit : Nat
  cursor : Cursor
  scanned : Nat := 0
  stage : Stage := .begin
  unsaved : List Int := []
  deriving DecidableEq, Repr

/-- The history of a cycle since its watermark was fixed: the rows that were there, the attempts, the rows that a
page query found ineligible before they were attempted, the attempts whose run was interrupted before it saved its
cursor, the runs that used up their limit, the interrupted runs, and the statements made. -/
structure History where
  watermark : Int := 0
  rows : Nat := 0
  attempted : List Int := []
  ineligible : List Int := []
  lost : List Int := []
  completed : Nat := 0
  interruptions : Nat := 0
  statements : Nat := 0
  deriving DecidableEq, Repr

structure State where
  db : DB
  cursor : Cursor := {}
  runner : Option Runner := none
  cycle : History := {}

/-- What a run does not control: an error of a statement that does not end the run, the result of the refund, and the
database time. -/
structure Env where
  fault : Bool := false
  refunded : Bool := true
  now : Int := 0
  deriving DecidableEq, Repr

/-- Starting a run, its next statement, an interruption, and what others do: insert an obligation, change one, change
other tables. -/
inductive Action where
  | start (workerID : String) (now limit : Int)
  | advance (e : Env)
  | interrupt
  | insert (o : Obligation)
  | change (o : Obligation)
  | others (db : DB)

/-- The limit of a run. -/
def normalLimit (limit : Int) : Nat := if limit ≤ 0 ∨ 100 < limit then 25 else limit.toNat

/-- The newest key of the table, zero without rows. -/
def newestID (t : Table Obligation) : Int := t.rows.foldl (fun m o => max m o.id) 0

/-- How many rows have a key up to `x`. -/
def seen (t : Table Obligation) (x : Int) : Nat := (t.rows.map Obligation.id).countP (· ≤ x)

/-- The rows that the page query selects. -/
def Runner.selects (r : Runner) (o : Obligation) : Bool :=
  decide (o.id ≤ r.cursor.highWatermark) && decide (RecoveryCandidate o r.now)

/-- The page query. -/
def Runner.candidates (r : Runner) (t : Table Obligation) : List Obligation :=
  t.keysetPage r.selects r.cursor.lastID (min 25 (r.limit - r.scanned))

/-- The keys that are not eligible for the run. -/
def Runner.refused (r : Runner) (t : Table Obligation) : List Int :=
  (t.rows.filter fun o => !decide (RecoveryCandidate o r.now)).map Obligation.id

namespace State

/-- The run goes on with another statement, behind a change of the database. -/
def proceed (s : State) (db : DB) (r : Runner) (stage : Stage) : State :=
  { s with
    db := db
    runner := some { r with stage := stage }
    cycle := { s.cycle with statements := s.cycle.statements + 1 } }

/-- The save of `beginQuotaWorkCycle`; without rows the run ends. -/
def fix (s : State) (r : Runner) (newest : Int) : State :=
  let cursor : Cursor := ⟨0, newest⟩
  { s with
    cursor := cursor
    runner := if newest = 0 then none else some { r with cursor := cursor, stage := .page }
    cycle := { watermark := newest, rows := seen s.db.obligations newest } }

/-- A page query. -/
def query (s : State) (r : Runner) : State :=
  let page := r.candidates s.db.obligations
  { s with
    runner := some { r with stage := if page = [] then .closing else .rows page }
    cycle := { s.cycle with
      ineligible := (r.refused s.db.obligations).filter (· ∉ s.cycle.attempted) ++ s.cycle.ineligible
      statements := s.cycle.statements + 1 } }

/-- The save behind a page. -/
def savePage (s : State) (r : Runner) : State :=
  { s with
    cursor := r.cursor
    runner := some { r with stage := .page, unsaved := [] }
    cycle := { s.cycle with statements := s.cycle.statements + 1 } }

/-- The save of a run that used up its limit. -/
def saveLast (s : State) (r : Runner) : State :=
  { s with
    cursor := r.cursor
    runner := none
    cycle := { s.cycle with
      completed := s.cycle.completed + 1
      statements := s.cycle.statements + 1 } }

/-- `finishQuotaWorkCycle`. -/
def close (s : State) : State := { s with cursor := {}, runner := none }

/-- The attempt of a row begins with its validation. A structural error marks the row for manual review, any other
error leaves it. -/
def attempt (s : State) (r : Runner) (e : Env) (candidate : Obligation) (rest : List Obligation) : State :=
  let stage : Stage :=
    if e.fault then .rows rest
    else match validateAccountQuotaTerminalRecoveryRecord s.db candidate with
      | .ok _ => .claim candidate rest
      | .error err => if accountQuotaRecoveryStructuralError err then .manual candidate rest else .rows rest
  { s with
    runner := some { r with
      cursor := { r.cursor with lastID := candidate.id }
      scanned := r.scanned + 1
      stage := stage
      unsaved := candidate.id :: r.unsaved }
    cycle := { s.cycle with
      attempted := candidate.id :: s.cycle.attempted
      statements := s.cycle.statements + 1 } }

/-- The next statement of a run. -/
def advance (s : State) (r : Runner) (e : Env) : State :=
  match r.stage with
  | .begin =>
    if 0 < r.cursor.highWatermark then s.proceed s.db r .page
    else s.proceed s.db r (.fix (newestID s.db.obligations))
  | .fix newest => s.fix r newest
  | .page => if r.scanned < r.limit then s.query r else s.saveLast r
  | .closing => s.close
  | .rows [] => s.savePage r
  | .rows (candidate :: rest) => s.attempt r e candidate rest
  | .manual candidate rest =>
    s.proceed (if e.fault then s.db else (markAccountQuotaTerminalRecoveryManual s.db candidate).getD s.db) r
      (.rows rest)
  | .claim candidate rest =>
    if e.fault then s.proceed s.db r (.rows rest)
    else match claimAccountQuotaTerminalRecovery s.db candidate r.workerID r.now with
      | none => s.proceed s.db r (.rows rest)
      | some db => s.proceed db r (.claimed candidate.id rest)
  | .claimed id rest =>
    match if e.fault then none else s.db.obligations.get? id with
    | none => s.proceed s.db r (.rows rest)
    | some claimed => s.proceed s.db r (.refund claimed rest)
  | .refund claimed rest => s.proceed s.db r (.finish claimed (!e.refunded) rest)
  | .finish claimed failed rest =>
    s.proceed (if failed && !e.fault then (finishAccountQuotaTerminalRecovery s.db claimed e.now).getD s.db else s.db)
      r (.rows rest)

/-- The end of a run that is interrupted. -/
def interrupt (s : State) (r : Runner) : State :=
  { s with
    runner := none
    cycle := { s.cycle with
      lost := r.unsaved ++ s.cycle.lost
      interruptions := s.cycle.interruptions + 1 } }

/-- The table of obligations changes. -/
def withObligations (s : State) (t : Table Obligation) : State := { s with db := { s.db with obligations := t } }

end State

/-- One runner at a time: a run starts when none is in progress. -/
def step (s : State) : Action → Option State
  | .start workerID now limit =>
    if s.runner = none ∧ trimSpace workerID ≠ "" then
      some { s with runner := some { workerID, now, limit := normalLimit limit, cursor := s.cursor } }
    else none
  | .advance e => s.runner.map fun r => s.advance r e
  | .interrupt => s.runner.map fun r => s.interrupt r
  | .insert o => some (s.withObligations (s.db.obligations.insert o))
  | .change o => some (s.withObligations (s.db.obligations.put o))
  | .others db => some { s with db := { db with obligations := s.db.obligations } }

end MyApiSpec.Ledger.Cycle
