import MyApiSpec.Base.Machine
import MyApiSpec.Credential.Rotation

/-!
# Calls under way

Any number of calls run at once. A call is a sequence of actions: reads outside a transaction, attempts of
its transaction (`runChannelQuotaIdentityTransaction`, `model/channel_quota_identity.go:460–486`), and the work
on the cache. Transactions that lock the same user and token are serialised, so an attempt is one action. A
call that is not advanced again has crashed. The 32 random bytes of an admission id are not drawn twice.
-/

namespace MyApiSpec.Credential

open Base

/-- A call with its arguments; `random` is what `newTokenCredentialDispatchAdmissionID` yields. -/
inductive Call where
  | begin (call : BeginCall) (random : Except Error String)
  | complete (call : CompleteCall)
  | mark (call : MarkCall)
  | rotate (call : RotateCall)

/-- What a call returns. -/
inductive Reply where
  | begun (admission : Option Admission) (error : Option Error)
  | finished (error : Option Error)
  | rotation (view : Option OperationView) (secret : String) (replayed : Bool) (error : Option Error)
  deriving DecidableEq, Repr

/-- `channelQuotaIdentityResolveMaxAttempts`. -/
def channelQuotaIdentityResolveMaxAttempts : Nat := 32

/-- Where a call stands. -/
inductive Phase where
  | beginning (call : BeginCall) (requestHash admissionID : String) (left : Nat) (result : Admission)
  | completing (call : CompleteCall) (left : Nat)
  | marking (call : MarkCall) (left : Nat)
  | loading (call : RotateCall) (requestDigest : String)
  | looking (call : RotateCall) (requestDigest : String)
  | locking (call : RotateCall) (requestDigest : String)
  | rotating (call : RotateCall) (requestDigest : String) (left : Nat) (vars : RotationVars)
  | reviewing (call : RotateCall) (requestDigest : String) (error : Error)
  | publishing (call : RotateCall) (requestDigest : String) (vars : RotationVars) (view : OperationView)
  | begun (call : BeginCall) (requestHash : String) (reply : Reply)
  | finished (reply : Reply)
  | rotated (call : RotateCall) (requestDigest : String) (reply : Reply)

/-- The rows, and the admission ids that were drawn. -/
structure World where
  db : DB
  drawn : List String := []

/-- What an action does not control. -/
structure Choice where
  reads : Reads
  circumstances : Circumstances Error := {}

/-- A rotation that returns an error. -/
def refusal (e : Error) : Reply := .rotation none "" false (some e)

/-! ### The first action -/

/-- The checks of a call before it touches the database. -/
def startCall (env : Environment) (w : World) : Call → Option (World × Phase)
  | .begin call random =>
    let checked : Except Error String := do
      check (0 < call.expectedVersion ∧ call.expectedVersion ≤ tokenCredentialVersionMaxExactJSON ∧
        validTokenCredentialDispatchKind call.kind = true) .invalid
      tokenCredentialDispatchRequestIdentityHash env call.requestIdentity
    match checked, random with
    | .error e, _ => some (w, .finished (.begun none (some e)))
    | .ok _, .error e => some (w, .finished (.begun none (some e)))
    | .ok requestHash, .ok admissionID =>
      if admissionID ∈ w.drawn then none
      else some ({ w with drawn := admissionID :: w.drawn },
        .beginning call requestHash admissionID channelQuotaIdentityResolveMaxAttempts {})
  | .complete call =>
    match (check (canonicalLowerHex call.admissionID 64 = true ∧ 0 < call.linkedRecordID) .invalid :
        Except Error Unit) with
    | .error e => some (w, .finished (.finished (some e)))
    | .ok _ => some (w, .completing call channelQuotaIdentityResolveMaxAttempts)
  | .mark call =>
    match (check (canonicalLowerHex call.admissionID 64 = true ∧
        validTokenCredentialDispatchReason call.reasonCode = true) .invalid : Except Error Unit) with
    | .error e => some (w, .finished (.finished (some e)))
    | .ok _ => some (w, .marking call channelQuotaIdentityResolveMaxAttempts)
  | .rotate call =>
    let checked : Except Error String := do
      check (0 < call.now ∧ canonicalLowerHex call.command.operationID 64 = true ∧
        canonicalLowerHex call.command.previewRevision 64 = true ∧ call.command.confirmed = true) .invalid
      env.requestDigest call.actorID call.tokenID call.command
    match checked with
    | .error e => some (w, .finished (refusal e))
    | .ok requestDigest => some (w, .loading call requestDigest)

/-! ### Attempts -/

/-- The end of `BeginTokenCredentialDispatchAdmission`. -/
def replyBegun (result : Admission) : Except Error Unit → Reply
  | .ok _ => .begun (some result) none
  | .error e => .begun (if result.admissionID ≠ "" then some result else none) (some e)

def stepBeginning (env : Environment) (w : World) (c : Choice) (call : BeginCall)
    (requestHash admissionID : String) (left : Nat) (result : Admission) : World × Phase :=
  match attempt env.retryable left c.circumstances (beginBody c.reads call requestHash admissionID w.db)
      w.db result with
  | (.again, db, result') => ({ w with db := db }, .beginning call requestHash admissionID (left - 1) result')
  | (.ends r, db, result') => ({ w with db := db }, .begun call requestHash (replyBegun result' r))

/-- An attempt of a transaction that captures nothing. -/
def stepPlain (env : Environment) (w : World) (c : Choice) (body : Except Error DB) (left : Nat)
    (again : Phase) : World × Phase :=
  match attempt env.retryable left c.circumstances (Body.lift body) w.db () with
  | (.again, db, _) => ({ w with db := db }, again)
  | (.ends (.ok _), db, _) => ({ w with db := db }, .finished (.finished none))
  | (.ends (.error e), db, _) => ({ w with db := db }, .finished (.finished (some e)))

/-- What follows the transaction of a rotation that was acknowledged. -/
def afterRotation (call : RotateCall) (requestDigest : String) (vars : RotationVars) : Phase :=
  if vars.replayed = true then .rotated call requestDigest (.rotation vars.result "" true none)
  else
    match vars.result with
    | none => .rotated call requestDigest (refusal .outcomeUnknown)
    | some view =>
      if vars.freshCommitted = false ∨ vars.candidateKey = "" ∨ vars.oldKey = "" then
        .rotated call requestDigest (refusal .outcomeUnknown)
      else .publishing call requestDigest vars view

/-- What follows the transaction of a rotation that returned an error. -/
def afterFailure (call : RotateCall) (requestDigest : String) (vars : RotationVars) (e : Error) : Phase :=
  if vars.receiptAttempted = true then .reviewing call requestDigest e
  else .rotated call requestDigest (refusal e)

def stepRotating (env : Environment) (w : World) (c : Choice) (call : RotateCall) (requestDigest : String)
    (left : Nat) (vars : RotationVars) : World × Phase :=
  match attempt env.retryable left c.circumstances (rotateBody env c.reads call requestDigest w.db)
      w.db vars with
  | (.again, db, vars') => ({ w with db := db }, .rotating call requestDigest (left - 1) vars')
  | (.ends (.ok _), db, vars') => ({ w with db := db }, afterRotation call requestDigest vars')
  | (.ends (.error e), db, vars') => ({ w with db := db }, afterFailure call requestDigest vars' e)

/-! ### Reads of a rotation outside its transaction -/

/-- The receipt that a rotation looks for before it locks. -/
def lookForReceipt (r : Reads) (w : World) (call : RotateCall) (requestDigest : String) : Phase :=
  match readTokenCredentialRotationReceipt r w.db call.actorID call.tokenID call.command.operationID with
  | .error e => .rotated call requestDigest (refusal e)
  | .ok none => .locking call requestDigest
  | .ok (some existing) =>
    if existing.requestDigest ≠ requestDigest then .rotated call requestDigest (refusal .operationConflict)
    else
      match tokenCredentialRotationReceiptView existing with
      | .ok view => .rotated call requestDigest (.rotation (some view) "" true none)
      | .error e => .rotated call requestDigest (.rotation none "" true (some e))

/-- The receipt that a rotation looks for behind an error. -/
def reviewReceipt (r : Reads) (w : World) (call : RotateCall) (requestDigest : String) (e : Error) : Error :=
  match readTokenCredentialRotationReceipt r w.db call.actorID call.tokenID call.command.operationID with
  | .error readError => .joined .outcomeUnknown (.joined e readError)
  | .ok none => e
  | .ok (some stored) =>
    if stored.requestDigest = requestDigest then
      match tokenCredentialRotationReceiptView stored with
      | .error viewError => .joined .outcomeUnknown (.joined e viewError)
      | .ok _ => .joined .outcomeUnknown e
    else .operationConflict

/-- The next action of a call. -/
def stepCall (env : Environment) (w : World) : Phase → Choice → Option (World × Phase)
  | .beginning call requestHash admissionID left result, c =>
    some (stepBeginning env w c call requestHash admissionID left result)
  | .completing call left, c =>
    some (stepPlain env w c (completeBody env c.reads call w.db) left (.completing call (left - 1)))
  | .marking call left, c =>
    some (stepPlain env w c (markBody c.reads call w.db) left (.marking call (left - 1)))
  | .loading call requestDigest, c =>
    match loadTokenMaintenanceOwner c.reads w.db call.actorID call.tokenID with
    | .error e => some (w, .rotated call requestDigest (refusal e))
    | .ok _ => some (w, .looking call requestDigest)
  | .looking call requestDigest, c => some (w, lookForReceipt c.reads w call requestDigest)
  | .locking call requestDigest, c =>
    match if env.redisEnabled = true then c.reads.subjectLock else .ok () with
    | .error e => some (w, .rotated call requestDigest (refusal (.joined .preconditionUnknown e)))
    | .ok _ => some (w, .rotating call requestDigest channelQuotaIdentityResolveMaxAttempts {})
  | .rotating call requestDigest left vars, c => some (stepRotating env w c call requestDigest left vars)
  | .reviewing call requestDigest e, c =>
    some (w, .rotated call requestDigest (refusal (reviewReceipt c.reads w call requestDigest e)))
  | .publishing call requestDigest vars view, c =>
    match invalidateTokenCredentialRotationCaches env c.reads vars.oldKey vars.candidateKey with
    | .error e => some (w, .rotated call requestDigest (refusal (.joined .outcomeUnknown e)))
    | .ok _ => some (w, .rotated call requestDigest (.rotation (some view) vars.candidateKey false none))
  | .begun .., _ => none
  | .finished _, _ => none
  | .rotated .., _ => none

/-- The calls on one database. -/
def machine (env : Environment) : Machine World Phase Choice Call where
  start call w := startCall env w call
  act w phase c := stepCall env w phase c

end MyApiSpec.Credential
