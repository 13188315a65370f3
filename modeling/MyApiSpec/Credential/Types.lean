import MyApiSpec.Base.GoText
import MyApiSpec.Base.Outcome
import MyApiSpec.Base.Store
import MyApiSpec.Base.Table

/-!
# Tokens, dispatch admissions and rotation receipts

`model/token_credential_dispatch_admission.go:15–57, 102–164`, `model/token_credential_rotation.go:16–114,
858–900`, and the columns of `Token` that they use. An admission is written before a provider is called for
a token and linked to the task that the call produced; a receipt records one rotation of the token's key.
-/

namespace MyApiSpec.Credential

open Base

/-- The errors of credential maintenance; `external` is an error of the database, a cache or the context. -/
inductive Error where
  | invalid
  | denied
  | conflict
  | blocked
  | unknown
  | preconditionUnknown
  | versionChanged
  | operationConflict
  | outcomeUnknown
  | recordNotFound
  | external (text : String)
  | joined (first second : Error)
  deriving DecidableEq, Repr

/-- `errors.Join` with an error of the computation. -/
def joining {α : Type} (e : Error) (x : Except Error α) : Except Error α := x.mapError (Error.joined e)

@[simp]
theorem joining_eq_ok {α : Type} {e : Error} {x : Except Error α} {a : α} :
    joining e x = .ok a ↔ x = .ok a := by
  cases x <;> simp [joining, Except.mapError]

/-- `tokenCredentialVersionMaxExactJSON`. -/
def tokenCredentialVersionMaxExactJSON : Int := 2 ^ 53 - 1

/-! ### Rows -/

/-- `Token`. -/
structure Token where
  id : Int := 0
  userID : Int
  key : String
  credentialVersion : Int := 1
  deleted : Bool := false
  deriving DecidableEq, Repr

instance : Row Token := ⟨Token.id, fun i r => { r with id := i }, fun _ _ => rfl⟩

/-- `TokenCredentialDispatchAdmissionKind`. -/
inductive Kind where
  | legacyTask
  | midjourney
  | other (text : String)
  deriving DecidableEq, Repr

/-- `TokenCredentialDispatchAdmissionState`. -/
inductive AdmissionState where
  | «open»
  | unknown
  | linked
  | other (text : String)
  deriving DecidableEq, Repr

/-- `TokenCredentialDispatchAdmission`. -/
structure Admission where
  id : Int := 0
  admissionID : String := ""
  requestIdentityHash : String := ""
  kind : Kind := .other ""
  state : AdmissionState := .other ""
  userID : Int := 0
  tokenID : Int := 0
  credentialVersion : Int := 0
  linkedRecordID : Int := 0
  linkedIdentityHash : String := ""
  unknownReasonCode : String := ""
  createdAt : Int := 0
  updatedAt : Int := 0
  linkedAt : Int := 0
  deriving DecidableEq, Repr

instance : Row Admission := ⟨Admission.id, fun i r => { r with id := i }, fun _ _ => rfl⟩

/-- The columns of the unique index `uidx_token_dispatch_req`. -/
structure RequestKey where
  tokenID : Int
  credentialVersion : Int
  kind : Kind
  requestIdentityHash : String
  deriving DecidableEq, Repr

def Admission.requestKey (a : Admission) : RequestKey :=
  ⟨a.tokenID, a.credentialVersion, a.kind, a.requestIdentityHash⟩

/-- `TokenCredentialRotationReceipt`. -/
structure Receipt where
  operationID : String
  requestDigest : String
  actorID : Int
  tokenID : Int
  state : String
  credentialVersionBefore : Int
  credentialVersionAfter : Int
  keyFingerprint : String
  maskedKey : String
  previewRevision : String
  createdAt : Int
  oldSecretInvalidatedAt : Int
  deriving DecidableEq, Repr

instance : Keyed String Receipt := ⟨Receipt.operationID⟩

/-- The rows that the calls write. -/
structure DB where
  tokens : Table Token := .empty
  admissions : Table Admission := .empty
  receipts : Store String Receipt := .empty

/-! ### Validation -/

/-- `validTokenCredentialDispatchKind`. -/
def validTokenCredentialDispatchKind (kind : Kind) : Bool := kind = .legacyTask || kind = .midjourney

/-- `validTokenCredentialDispatchReason`. -/
def validTokenCredentialDispatchReason (code : String) : Bool :=
  code ≠ "" && code.utf8ByteSize ≤ 64 &&
    code.toList.all (fun c => ('a' ≤ c && c ≤ 'z') || ('0' ≤ c && c ≤ '9') || c = '_')

/-- The columns that go with a state. -/
def Admission.fitsState (a : Admission) : Bool :=
  match a.state with
  | .open => a.linkedRecordID = 0 && a.linkedIdentityHash = "" && a.unknownReasonCode = "" && a.linkedAt = 0
  | .unknown =>
    a.linkedRecordID = 0 && a.linkedIdentityHash = "" &&
      validTokenCredentialDispatchReason a.unknownReasonCode && a.linkedAt = 0
  | .linked =>
    0 < a.linkedRecordID && canonicalLowerHex a.linkedIdentityHash 64 && a.unknownReasonCode = "" &&
      0 < a.linkedAt
  | .other _ => false

/-- `validateTokenCredentialDispatchAdmission`. -/
def validateTokenCredentialDispatchAdmission (a : Admission) : Except Error Unit := do
  check (canonicalLowerHex a.admissionID 64 = true ∧ canonicalLowerHex a.requestIdentityHash 64 = true ∧
    validTokenCredentialDispatchKind a.kind = true ∧ 0 < a.userID ∧ 0 < a.tokenID ∧
    0 < a.credentialVersion ∧ a.credentialVersion ≤ tokenCredentialVersionMaxExactJSON) .invalid
  check (a.fitsState = true) .invalid
  check (0 ≤ a.createdAt ∧ 0 ≤ a.updatedAt ∧ a.createdAt ≤ a.updatedAt) .invalid

/-! ### Commands and what the calls read elsewhere -/

/-- `TokenCredentialRotationCommand`. -/
structure Command where
  operationID : String
  previewRevision : String
  confirmed : Bool
  deriving DecidableEq, Repr

/-- `TokenCredentialRotationOperationView`, without its constant members. -/
structure OperationView where
  operationID : String
  state : String
  tokenID : Int
  credentialVersionBefore : Int
  credentialVersionAfter : Int
  maskedKey : String
  createdAt : Int
  oldSecretInvalidatedAt : Int
  deriving DecidableEq, Repr

/-- `tokenCredentialRotationStateCommitted`. -/
def tokenCredentialRotationStateCommitted : String := "committed"

/-- `tokenCredentialRotationReceiptView`. -/
def tokenCredentialRotationReceiptView (r : Receipt) : Except Error OperationView := do
  check (canonicalLowerHex r.operationID 64 = true ∧ canonicalLowerHex r.requestDigest 64 = true ∧
    0 < r.actorID ∧ 0 < r.tokenID ∧ r.state = tokenCredentialRotationStateCommitted ∧
    0 < r.credentialVersionBefore ∧ r.credentialVersionBefore < tokenCredentialVersionMaxExactJSON ∧
    r.credentialVersionAfter = r.credentialVersionBefore + 1 ∧
    canonicalLowerHex r.keyFingerprint 64 = true ∧ canonicalLowerHex r.previewRevision 64 = true ∧
    r.maskedKey ≠ "" ∧ 0 < r.createdAt ∧ 0 < r.oldSecretInvalidatedAt) .unknown
  return {
    operationID := r.operationID
    state := r.state
    tokenID := r.tokenID
    credentialVersionBefore := r.credentialVersionBefore
    credentialVersionAfter := r.credentialVersionAfter
    maskedKey := r.maskedKey
    createdAt := r.createdAt
    oldSecretInvalidatedAt := r.oldSecretInvalidatedAt }

/-- The columns of a `Task` that a link depends on. -/
structure Task where
  id : Int
  taskID : String
  userID : Int
  tokenID : Int
  deriving DecidableEq, Repr

/-- The columns of a `Midjourney` task that a link depends on. -/
structure MidjourneyTask where
  id : Int
  code : Int
  mjID : String
  userID : Int
  status : String
  progress : String
  dispatchTokenID : Int
  deriving DecidableEq, Repr

/-- The payload whose digest identifies a `Midjourney` record. -/
structure MidjourneyIdentity where
  recordID : Int
  identityClass : String
  code : Int
  dispatchTokenID : Int
  mjID : String
  deriving DecidableEq, Repr

/-- `TokenMaintenanceBlocker`; its state is `unknown` or `blocked`. -/
structure Blocker where
  code : String
  state : String
  deriving DecidableEq, Repr

/-- `tokenCredentialRotationEvidenceDigest`. -/
structure Evidence where
  domain : String
  count : Nat
  digest : String
  deriving DecidableEq, Repr

/-- What the readers of the other domains find: blockers, evidence, and the writer epoch as text. -/
structure Qualification where
  blockers : List Blocker := []
  evidence : List Evidence := []
  writer : String := ""
  deriving DecidableEq, Repr

/-- `tokenCredentialRotationState`. -/
structure RotationState where
  token : Token
  writer : String := ""
  blockers : List Blocker := []
  evidence : List Evidence := []
  expiresAt : Int := 0
  previewRevision : String := ""
  deriving DecidableEq, Repr

/-- Keyed hashes and digests, the errors that are retried, and whether Redis is used. -/
structure Environment where
  generateHMAC : String → String
  midjourneyDigest : MidjourneyIdentity → Except Error String
  requestDigest : Int → Int → Command → Except Error String
  revisionDigest : Int → RotationState → Except Error String
  evidenceDigest : List Admission → Except Error String
  retryable : Error → Bool
  redisEnabled : Bool

/-- The statements of a transaction that the database may fail. -/
inductive Statement where
  | takeUser
  | takeToken
  | createAdmission
  | takeAdmission
  | findDuplicate
  | updateAdmission
  | findReceipt
  | findAdmissions (final : Bool)
  | countKeys
  | updateToken
  | createReceipt
  deriving DecidableEq, Repr

/-- `User`, as far as a rotation looks at it. -/
structure User where
  enabled : Bool := true
  root : Bool := true
  deriving DecidableEq, Repr

/-- What one action of a call finds outside the rows above. The state of a rotation is built twice; `final`
is the second time. -/
structure Reads where
  fault : Statement → Option Error := fun _ => none
  user : Int → Option User := fun _ => some {}
  clock : Except Error Int
  task : Int → Except Error Task := fun _ => .error .recordNotFound
  midjourneyTask : Int → Except Error MidjourneyTask := fun _ => .error .recordNotFound
  receiptTableReady : Bool := true
  admissionTableReady : Bool := true
  earlierDomains : Bool → Except Error Qualification := fun _ => .ok {}
  laterDomains : Bool → Except Error Qualification := fun _ => .ok {}
  generatedKeys : List (Except Error String) := []
  subjectLock : Except Error Unit := .ok ()
  invalidation : Except Error Unit := .ok ()

/-- The answer of the database to a statement. -/
def Reads.perform (r : Reads) (s : Statement) : Except Error Unit :=
  match r.fault s with
  | some e => .error e
  | none => .ok ()

end MyApiSpec.Credential
