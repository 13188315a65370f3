import MyApiSpec.Base.Retry
import MyApiSpec.Credential.Types

/-!
# Dispatch admissions

`model/token_credential_dispatch_admission.go:80–93, 166–271, 273–457`: the bodies of the transactions that
begin an admission, link it and mark it unknown. Each locks the user and the token first.
-/

namespace MyApiSpec.Credential

open Base

/-- `tokenCredentialDispatchRequestIdentityHash`. -/
def tokenCredentialDispatchRequestIdentityHash (env : Environment) (requestIdentity : String) :
    Except Error String := do
  check (requestIdentity ≠ "" ∧ requestIdentity.utf8ByteSize ≤ 512 ∧
    trimSpace requestIdentity = requestIdentity) .invalid
  return env.generateHMAC ("myapi/token-credential-dispatch/request/v1:" ++ requestIdentity)

/-- `lockTokenCredentialDispatchOwner`. -/
def lockTokenCredentialDispatchOwner (r : Reads) (db : DB) (userID tokenID : Int) : Except Error Token := do
  check (0 < userID ∧ 0 < tokenID) .invalid
  r.perform .takeUser
  check ((r.user userID).isSome = true) .recordNotFound
  r.perform .takeToken
  let token ← need (db.tokens.get? tokenID) .recordNotFound
  check (token.deleted = false ∧ token.userID = userID) .denied
  return token

/-! ### Begin -/

/-- The arguments of `BeginTokenCredentialDispatchAdmission`. -/
structure BeginCall where
  userID : Int
  tokenID : Int
  expectedVersion : Int
  requestIdentity : String
  kind : Kind
  deriving DecidableEq, Repr

/-- The row that a call proposes. -/
def BeginCall.candidate (call : BeginCall) (requestHash admissionID : String) : Admission where
  admissionID := admissionID
  requestIdentityHash := requestHash
  kind := call.kind
  state := .open
  userID := call.userID
  tokenID := call.tokenID
  credentialVersion := call.expectedVersion

/-- `Create` behind its hook; a row that meets one of the unique indexes is not written. -/
def createAdmission (r : Reads) (db : DB) (candidate : Admission) : Except Error DB := do
  validateTokenCredentialDispatchAdmission candidate
  let now ← r.clock
  r.perform .createAdmission
  if db.admissions.rows.any (fun a =>
      a.admissionID = candidate.admissionID || a.requestKey = candidate.requestKey) then
    return db
  else
    return { db with
      admissions := db.admissions.insert { candidate with createdAt := now, updatedAt := now } }

/-- Whether the stored admission lets the call send: only the row it has written itself does. -/
def authorizes (result : Admission) (admissionID : String) : Except Error Unit :=
  if result.admissionID = admissionID then check (result.state = .open) .unknown
  else
    match result.state with
    | .open => .error .preconditionUnknown
    | .unknown => .error .preconditionUnknown
    | .linked => .error .conflict
    | .other _ => .error .unknown

/-- The transaction of `BeginTokenCredentialDispatchAdmission`; it captures `result`. -/
def beginBody (r : Reads) (call : BeginCall) (requestHash admissionID : String) (db : DB) :
    Body Admission Error DB := do
  let token ← Body.lift (lockTokenCredentialDispatchOwner r db call.userID call.tokenID)
  Body.lift (check (token.credentialVersion = call.expectedVersion ∧ 0 < token.credentialVersion ∧
    token.credentialVersion ≤ tokenCredentialVersionMaxExactJSON) .versionChanged)
  let candidate := call.candidate requestHash admissionID
  let written ← Body.lift (createAdmission r db candidate)
  -- a primary key left in `result` by an earlier attempt becomes a condition of the query
  let stale ← Body.captured
  Body.lift (joining .unknown (r.perform .takeAdmission))
  let result ← Body.lift (joining .unknown (need (written.admissions.find? fun a =>
    a.requestKey = candidate.requestKey && (stale.id = 0 || a.id = stale.id)) .recordNotFound))
  Body.assign fun _ => result
  Body.lift (joining .unknown (validateTokenCredentialDispatchAdmission result))
  Body.lift (check (result.userID = call.userID ∧ result.tokenID = call.tokenID ∧
    result.credentialVersion = call.expectedVersion ∧ result.kind = call.kind) .conflict)
  Body.lift (authorizes result admissionID)
  return written

/-! ### Complete -/

/-- The identity of a `Midjourney` task by its code. -/
def midjourneyIdentity (t : MidjourneyTask) (linkedRecordID : Int) : Except Error MidjourneyIdentity :=
  if t.code = 1 ∨ t.code = 21 ∨ t.code = 22 then do
    check (t.mjID ≠ "") .conflict
    return ⟨linkedRecordID, "accepted", 0, t.dispatchTokenID, t.mjID⟩
  else if t.code = 23 ∨ t.code = 24 then do
    check (t.status = "FAILURE" ∧ t.progress = "100%") .conflict
    return ⟨linkedRecordID, "rejected", t.code, t.dispatchTokenID, t.mjID⟩
  else .error .conflict

/-- `tokenCredentialDispatchLinkedIdentity`. -/
def tokenCredentialDispatchLinkedIdentity (env : Environment) (r : Reads) (a : Admission)
    (linkedRecordID : Int) : Except Error String := do
  check (0 < linkedRecordID) .invalid
  match a.kind with
  | .legacyTask => do
    let task ← r.task linkedRecordID
    check (task.id = linkedRecordID ∧ task.taskID ≠ "" ∧ task.userID = a.userID ∧
      task.tokenID = a.tokenID) .conflict
    return env.generateHMAC ("myapi/token-credential-dispatch/legacy-task/v1:" ++ task.taskID)
  | .midjourney => do
    let task ← r.midjourneyTask linkedRecordID
    check (task.id = linkedRecordID ∧ task.userID = a.userID ∧ task.dispatchTokenID = a.tokenID) .conflict
    let identity ← midjourneyIdentity task linkedRecordID
    env.midjourneyDigest identity
  | .other _ => .error .unknown

/-- The token and the admission that `Complete` and `MarkUnknown` work on. -/
def loadDispatchAdmission (r : Reads) (db : DB) (userID tokenID : Int) (admissionID : String) :
    Except Error Admission := do
  let token ← lockTokenCredentialDispatchOwner r db userID tokenID
  r.perform .takeAdmission
  let a ← need (db.admissions.find? fun a => a.admissionID = admissionID) .recordNotFound
  joining .unknown (validateTokenCredentialDispatchAdmission a)
  check (a.userID = userID ∧ a.tokenID = tokenID) .denied
  check (token.credentialVersion = a.credentialVersion) .versionChanged
  return a

/-- The arguments of `CompleteTokenCredentialDispatchAdmission`. -/
structure CompleteCall where
  userID : Int
  tokenID : Int
  admissionID : String
  linkedRecordID : Int
  deriving DecidableEq, Repr

/-- The row behind the update that links it. -/
def Admission.link (a : Admission) (recordID : Int) (identityHash : String) (now : Int) : Admission :=
  { a with
    state := .linked
    linkedRecordID := recordID
    linkedIdentityHash := identityHash
    unknownReasonCode := ""
    linkedAt := now
    updatedAt := now }

/-- The write of a link. -/
def linkAdmission (r : Reads) (call : CompleteCall) (db : DB) (a : Admission) (identityHash : String) :
    Except Error DB := do
  r.perform .findDuplicate
  check (db.admissions.rows.all (fun d => ¬ (d.tokenID = call.tokenID ∧ d.kind = a.kind ∧
    d.linkedRecordID = call.linkedRecordID ∧ d.admissionID ≠ call.admissionID)) = true) .conflict
  let now ← r.clock
  r.perform .updateAdmission
  let admissions ← need (db.admissions.cas a.id
    (fun x => (x.state = .open || x.state = .unknown) && x.linkedRecordID = 0)
    (fun x => x.link call.linkedRecordID identityHash now)) .conflict
  return { db with admissions := admissions }

/-- The transaction of `CompleteTokenCredentialDispatchAdmission`. -/
def completeBody (env : Environment) (r : Reads) (call : CompleteCall) (db : DB) : Except Error DB := do
  let a ← loadDispatchAdmission r db call.userID call.tokenID call.admissionID
  let identityHash ← tokenCredentialDispatchLinkedIdentity env r a call.linkedRecordID
  match a.state with
  | .linked => do
    check (a.linkedRecordID = call.linkedRecordID ∧ a.linkedIdentityHash = identityHash) .conflict
    return db
  | .other _ => .error .unknown
  | _ => linkAdmission r call db a identityHash

/-! ### MarkUnknown -/

/-- The arguments of `MarkTokenCredentialDispatchAdmissionUnknown`. -/
structure MarkCall where
  userID : Int
  tokenID : Int
  admissionID : String
  reasonCode : String
  deriving DecidableEq, Repr

/-- The row behind the update that marks it unknown. -/
def Admission.markUnknown (a : Admission) (reasonCode : String) (now : Int) : Admission :=
  { a with state := .unknown, unknownReasonCode := reasonCode, updatedAt := now }

/-- The transaction of `MarkTokenCredentialDispatchAdmissionUnknown`. -/
def markBody (r : Reads) (call : MarkCall) (db : DB) : Except Error DB := do
  let a ← loadDispatchAdmission r db call.userID call.tokenID call.admissionID
  match a.state with
  | .unknown => return db
  | .linked => .error .conflict
  | .other _ => .error .unknown
  | .open => do
    let now ← r.clock
    r.perform .updateAdmission
    let admissions ← need (db.admissions.cas a.id (fun x => x.state = .open)
      (fun x => x.markUnknown call.reasonCode now)) .conflict
    return { db with admissions := admissions }

end MyApiSpec.Credential
