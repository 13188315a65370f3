import MyApiSpec.Base.Script
import MyApiSpec.Base.Keyset
import MyApiSpec.Ledger.Mutation

/-!
# Backfill of receipts, heads and obligations

`InitializeAccountQuotaReservationHeadsWithDB` moves the receipts of earlier schema versions to
the current fingerprint version (`model/account_quota_mutation.go:1393–1656`). It scans the
reserve roots page by page, rewrites the chain of every root, creates or repairs its head and
its obligation, and stores a cursor behind each page. No transaction encloses these statements,
so a run that is interrupted leaves a partly migrated chain behind.
-/

namespace MyApiSpec.Ledger

open Base

/-! ### The store and its cursor -/

/-- The database with the position of the cursor `account_quota_migration_v2`; its flag is
`accountCursorComplete`. -/
structure MigrationStore where
  db : DB
  lastID : Int := 0

/-- `QuotaWorkCursor`, the columns that this work uses (`model/quota_work_cursor.go:22–28`). -/
structure QuotaWorkCursor where
  lastID : Int
  complete : Bool
  deriving DecidableEq, Repr

/-- Statements of the backfill. -/
abbrev Migration (α : Type) : Type := Script MigrationStore LedgerError α

/-- A reading statement of the backfill. -/
def Migration.query {α : Type} (f : DB → α) : Migration α := Script.query .database (fun s => f s.db)

/-- A writing statement of the backfill. -/
def Migration.exec (f : DB → Except LedgerError DB) : Migration Unit :=
  Script.exec .database (fun s => (f s.db).map (fun db => { s with db := db }))

/-- `loadQuotaWorkCursor` (`model/quota_work_cursor.go:32–50`). -/
def loadQuotaWorkCursor : Migration QuotaWorkCursor :=
  Script.query .database (fun s => ⟨s.lastID, s.db.accountCursorComplete⟩)

/-- `saveQuotaWorkCursor` (`model/quota_work_cursor.go:52–63`). -/
def saveQuotaWorkCursor (cursor : QuotaWorkCursor) : Migration Unit :=
  Script.exec .database (fun s =>
    .ok ⟨{ s.db with accountCursorComplete := cursor.complete }, cursor.lastID⟩)

/-! ### One chain -/

/-- `accountQuotaMigrationBatchSize`. -/
def accountQuotaMigrationBatchSize : Nat := 200

/-- `accountQuotaMigrationRunBudget`. -/
def accountQuotaMigrationRunBudget : Nat := 1000

/-- The variables of the loop over the receipts of one request. -/
structure ChainScan where
  root : Option Receipt := none
  current : Option Receipt := none
  terminal : Option Receipt := none
  reserveFingerprint : Fingerprint := .blank
  cursor : Int := 0

/-- A receipt under the current version with these fingerprints. -/
def Receipt.stamped (r : Receipt) (reserveFingerprint requestFingerprint : Fingerprint) : Receipt :=
  { r with fingerprintVersion := accountQuotaFingerprintVersion
           reserveFingerprint := reserveFingerprint, requestFingerprint := requestFingerprint }

/-- The migrated receipt and the reserve fingerprint of its chain
(`model/account_quota_mutation.go:1422–1451`). -/
def migrateFingerprints (scan : ChainScan) (receipt : Receipt) :
    Except LedgerError (Receipt × Fingerprint) :=
  if receipt.phase = .reserve then do
    check (scan.root = none) .conflict
    let fingerprint ← accountQuotaReceiptFingerprint (receipt.stamped .blank receipt.requestFingerprint)
    return (receipt.stamped fingerprint fingerprint, fingerprint)
  else do
    check (scan.reserveFingerprint ≠ .blank) .conflict
    let fingerprint ← accountQuotaReceiptFingerprint
      (receipt.stamped scan.reserveFingerprint receipt.requestFingerprint)
    return (receipt.stamped scan.reserveFingerprint fingerprint, scan.reserveFingerprint)

/-- The guarded update of one receipt (`model/account_quota_mutation.go:1457–1469`). -/
def updateReceipt (receipt migrated : Receipt) (db : DB) : Except LedgerError DB := do
  let receipts ← need (db.receipts.cas receipt.id
    (fun x => x.fingerprintVersion = receipt.fingerprintVersion)
    (fun x => x.stamped migrated.reserveFingerprint migrated.requestFingerprint)) .casLost
  return { db with receipts := receipts }

/-- A receipt of the current version is compared, an earlier one is updated
(`model/account_quota_mutation.go:1452–1470`). -/
def storeMigrated (receipt migrated : Receipt) : Migration Unit :=
  if receipt.fingerprintVersion = accountQuotaFingerprintVersion then
    Script.lift (check (receipt.reserveFingerprint = migrated.reserveFingerprint ∧
      receipt.requestFingerprint = migrated.requestFingerprint) .conflict)
  else Migration.exec (updateReceipt receipt migrated)

/-- The variables of the loop behind one receipt. -/
def ChainScan.after (scan : ChainScan) (receipt migrated : Receipt)
    (reserveFingerprint : Fingerprint) : ChainScan where
  root := if receipt.phase = .reserve then some migrated else scan.root
  current := if receipt.phase = .reserve ∨ receipt.phase = .adjust then some migrated
    else scan.current
  terminal := if receipt.phase = .settle ∨ receipt.phase = .refund then some migrated
    else scan.terminal
  reserveFingerprint := reserveFingerprint
  cursor := receipt.id

/-- The loop body for one receipt (`model/account_quota_mutation.go:1418–1479`). -/
def migrateReceipt (scan : ChainScan) (receipt : Receipt) : Migration ChainScan := do
  let (migrated, reserveFingerprint) ← Script.lift (migrateFingerprints scan receipt)
  storeMigrated receipt migrated
  return scan.after receipt migrated reserveFingerprint

/-- The loop over the pages of one request; every round makes a statement, so the number of
rounds is bounded by the number of statements that are answered. -/
def chainPages (requestID : String) : Nat → ChainScan → Migration ChainScan
  | 0, _ => Script.fail .database
  | rounds + 1, scan => do
    let receipts ← Migration.query (fun db =>
      db.receipts.keysetPage (fun r => r.requestID = requestID) scan.cursor
        accountQuotaMigrationBatchSize)
    let scan ← receipts.foldlM migrateReceipt scan
    if receipts.length < accountQuotaMigrationBatchSize then return scan
    else chainPages requestID rounds scan

/-- `backfillAccountQuotaReceiptChain` (`model/account_quota_mutation.go:1400–1485`). -/
def backfillAccountQuotaReceiptChain (requestID : String) :
    Migration (Receipt × Receipt × Option Receipt) := do
  let rounds ← Script.budget
  let scan ← chainPages requestID (rounds + 1) {}
  match scan.root, scan.current with
  | some root, some current => return (root, current, scan.terminal)
  | _, _ => Script.fail .conflict

/-! ### Head and obligation of a root -/

/-- The head of a migrated chain (`model/account_quota_mutation.go:1561–1568`). -/
def backfilledHead (root current : Receipt) (terminal : Option Receipt) : Head where
  requestID := root.requestID
  writerEpoch := root.writerEpoch
  rootReceiptID := root.id
  currentReceiptID := current.id
  terminalReceiptID := (terminal.map Receipt.id).getD 0
  reserveFingerprint := root.reserveFingerprint
  userID := root.userID
  tokenID := root.tokenID
  subscriptionID := root.subscriptionID
  billingSource := root.billingSource
  appliedQuota := current.appliedQuota
  lockVersion := 1

/-- A create whose error is forgiven when the row is there afterwards
(`model/account_quota_mutation.go:1575–1579`, `1615–1620`). -/
def createUnlessStored (create : DB → Except LedgerError DB) (stored : DB → Bool) :
    Migration Unit := do
  match ← Script.attempt (Migration.exec create) with
  | .ok _ => return ()
  | .error e =>
    match ← Script.attempt (Migration.query stored) with
    | .ok true => return ()
    | _ => Script.fail e

/-- An update of the row with this key, if it is there. -/
def updateRow {ρ : Type} [Row ρ] (t : Table ρ) (i : Int) (f : ρ → ρ) : Table ρ :=
  (t.cas i (fun _ => true) f).getD t

/-- The columns that the repair of the stored head `existing` writes
(`model/account_quota_mutation.go:1583–1594`). -/
def Head.repaired (h existing : Head) (reserveFingerprint : Fingerprint) : Head :=
  { h with lockVersion := if existing.lockVersion < 1 then 1 else h.lockVersion
           reserveFingerprint := if existing.reserveFingerprint ≠ reserveFingerprint
             then reserveFingerprint else h.reserveFingerprint }

/-- The update of a stored head, if it needs one. -/
def repairHead (root : Receipt) (existing : Head) : Migration Unit :=
  if existing.lockVersion < 1 ∨ existing.reserveFingerprint ≠ root.reserveFingerprint then
    Migration.exec (fun db => .ok { db with
      heads := updateRow db.heads existing.id
        (fun h => h.repaired existing root.reserveFingerprint) })
  else return ()

/-- The head step of one root (`model/account_quota_mutation.go:1569–1596`). -/
def backfillHead (root current : Receipt) (terminal : Option Receipt) : Migration Unit := do
  match ← Migration.query (fun db => db.heads.find? (fun h => h.requestID = root.requestID)) with
  | none =>
    createUnlessStored (fun db => (createHead db (backfilledHead root current terminal)).map Prod.fst)
      (fun db => (db.heads.find? (fun h => h.requestID = root.requestID)).isSome)
  | some existing => repairHead root existing

/-- The obligation of a migrated chain (`model/account_quota_mutation.go:1603–1614`). -/
def backfilledObligation (root current : Receipt) (terminal : Option Receipt) : Obligation :=
  let o : Obligation :=
    { requestID := root.requestID, reserveReceiptID := current.id, writerEpoch := root.writerEpoch
      requestFingerprint := root.reserveFingerprint, state := .open, lockVersion := 1 }
  match terminal with
  | none => o
  | some t =>
    { o with phase := if t.phase = .settle then some .settle else some .refund
             auditKey := t.auditKey, actualQuota := t.requestedQuota
             requestFingerprint := t.requestFingerprint, state := .applied
             terminalReceiptID := t.id }

/-- The fingerprint that a stored obligation should have (`model/account_quota_mutation.go:1626–1645`). -/
def Obligation.expectedFingerprint (o : Obligation) (root : Receipt) (terminal : Option Receipt) :
    Fingerprint :=
  match o.state with
  | .legacyPending | .refundPending | .retryable | .claimed =>
    accountQuotaTerminalRecoveryFingerprint
      { requestID := o.requestID, reserveReceiptID := o.reserveReceiptID, auditKey := o.auditKey }
      o.writerEpoch
  | .open => root.reserveFingerprint
  | .applied => (terminal.map Receipt.requestFingerprint).getD o.requestFingerprint
  | _ => o.requestFingerprint

/-- The state that a stored obligation should have (`model/account_quota_mutation.go:1623–1625`). -/
def Obligation.expectedState (o : Obligation) : ObligationState :=
  if o.state = .legacyPending then .refundPending else o.state

/-- The columns that the repair of the stored obligation `existing` writes. -/
def Obligation.repaired (o existing : Obligation) (root : Receipt) (terminal : Option Receipt) :
    Obligation :=
  let fingerprint := existing.expectedFingerprint root terminal
  { o with state := if existing.expectedState ≠ existing.state then existing.expectedState else o.state
           requestFingerprint := if fingerprint ≠ existing.requestFingerprint then fingerprint
             else o.requestFingerprint }

/-- The update of a stored obligation, if it needs one. -/
def repairObligation (root : Receipt) (terminal : Option Receipt) (existing : Obligation) :
    Migration Unit :=
  if existing.expectedState ≠ existing.state ∨
      existing.expectedFingerprint root terminal ≠ existing.requestFingerprint then
    Migration.exec (fun db => .ok { db with
      obligations := updateRow db.obligations existing.id
        (fun o => o.repaired existing root terminal) })
  else return ()

/-- The obligation step of one root (`model/account_quota_mutation.go:1597–1652`). -/
def backfillObligation (root current : Receipt) (terminal : Option Receipt) : Migration Unit := do
  match ← Migration.query (fun db => findObligation db root.requestID) with
  | none =>
    createUnlessStored (fun db => createObligation db (backfilledObligation root current terminal))
      (fun db => (findObligation db root.requestID).isSome)
  | some existing => repairObligation root terminal existing

/-- The time of the new rows comes from the database when the receipt has none
(`model/account_quota_mutation.go:1553–1559`). -/
def backfillTime (current : Receipt) : Migration Unit :=
  if current.createdAt ≤ 0 then Migration.query (fun _ => ()) else return ()

/-- The work on one root (`model/account_quota_mutation.go:1547–1653`). -/
def backfillRoot (requestID : String) : Migration Unit := do
  let (root, current, terminal) ← backfillAccountQuotaReceiptChain requestID
  backfillTime current
  backfillHead root current terminal
  backfillObligation root current terminal

/-! ### Runs -/

/-- The scan over the reserve roots (`model/account_quota_mutation.go:1522–1655`). -/
def scanRoots : Nat → Int → Nat → Migration Unit
  | 0, _, _ => Script.fail .database
  | rounds + 1, cursor, processed =>
    if processed < accountQuotaMigrationRunBudget then do
      let roots ← Migration.query (fun db =>
        db.receipts.keysetPage (fun r => r.phase = .reserve) cursor
          (min accountQuotaMigrationBatchSize (accountQuotaMigrationRunBudget - processed)))
      if roots = [] then saveQuotaWorkCursor ⟨cursor, true⟩
      else do
        let cursor ← roots.foldlM (fun _ root => do
          backfillRoot root.requestID
          return root.id) cursor
        saveQuotaWorkCursor ⟨cursor, false⟩
        scanRoots rounds cursor (processed + roots.length)
    else do
      let next ← Migration.query (fun db =>
        db.receipts.rows.any (fun r => r.phase = .reserve && decide (cursor < r.id)))
      if next then Script.fail .workIncomplete else saveQuotaWorkCursor ⟨cursor, true⟩

/-- `InitializeAccountQuotaReservationHeadsWithDB` on a database that has the tables
(`model/account_quota_mutation.go:1489–1656`). -/
def initializeAccountQuotaReservationHeadsWithDB : Migration Unit := do
  let workCursor ← loadQuotaWorkCursor
  if workCursor.complete then return ()
  else do
    let rounds ← Script.budget
    scanRoots (rounds + 1) workCursor.lastID 0

/-- The store behind one run. -/
def backfillRun (s : MigrationStore) (outcomes : List StatementOutcome) : MigrationStore :=
  (initializeAccountQuotaReservationHeadsWithDB ⟨s, outcomes⟩).2.store

/-- The store behind a sequence of runs, each of them complete or interrupted. -/
def backfillRuns (s : MigrationStore) (runs : List (List StatementOutcome)) : MigrationStore :=
  runs.foldl backfillRun s

end MyApiSpec.Ledger
