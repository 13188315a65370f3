import Mathlib.Data.List.Sort
import Mathlib.Data.String.Basic
import MyApiSpec.Credential.Dispatch

/-!
# Rotation of a credential

`model/token_credential_rotation.go:145–160, 756–812, 887–935, 976–1137`,
`model/token_credential_dispatch_admission.go:476–525` and `model/token_maintenance.go:244–255, 284–312`: the
conditions of a rotation, and the transaction that writes a new key, the next version and a receipt.
-/

namespace MyApiSpec.Credential

open Base

/-! ### Blockers -/

/-- `TokenMaintenanceStatusUnknown`. -/
def statusUnknown : String := "unknown"

/-- `TokenMaintenanceStatusBlocked`. -/
def statusBlocked : String := "blocked"

/-- `TokenMaintenanceStatusReady`. -/
def statusReady : String := "ready"

/-- `tokenCredentialRotationAddBlocker`. -/
def addBlocker (blockers : List Blocker) (code state : String) : List Blocker :=
  if (⟨code, state⟩ : Blocker) ∈ blockers then blockers else blockers ++ [⟨code, state⟩]

/-- `tokenMaintenanceStatus`. -/
def tokenMaintenanceStatus (blockers : List Blocker) : String :=
  if blockers.any (fun b => b.state = statusUnknown) then statusUnknown
  else if blockers.any (fun b => b.state = statusBlocked) then statusBlocked
  else statusReady

/-- What one admission adds to the blockers. -/
def admissionBlockers (env : Environment) (r : Reads) (token : Token) (blockers : List Blocker)
    (a : Admission) : List Blocker :=
  if (validateTokenCredentialDispatchAdmission a).toBool = false ∨ a.userID ≠ token.userID ∨
      a.tokenID ≠ token.id ∨ token.credentialVersion < a.credentialVersion then
    addBlocker blockers "credential_dispatch_admission_unknown" statusUnknown
  else
    match a.state with
    | .open => addBlocker blockers "credential_dispatch_admission_open" statusUnknown
    | .unknown => addBlocker blockers "credential_dispatch_admission_unknown" statusUnknown
    | .linked =>
      if a.credentialVersion ≠ token.credentialVersion then blockers
      else if tokenCredentialDispatchLinkedIdentity env r a a.linkedRecordID = .ok a.linkedIdentityHash then
        blockers
      else addBlocker blockers "credential_dispatch_link_unknown" statusUnknown
    | .other _ => addBlocker blockers "credential_dispatch_admission_unknown" statusUnknown

/-- The admissions that a rotation looks at, in the order of their ids. -/
def rotationAdmissions (db : DB) (token : Token) : List Admission :=
  db.admissions.rows.filter fun a =>
    a.tokenID = token.id && (a.state = .open || a.state = .unknown || a.credentialVersion = token.credentialVersion)

/-- `readTokenCredentialRotationDispatchAdmissions`. -/
def readTokenCredentialRotationDispatchAdmissions (env : Environment) (r : Reads) (final : Bool) (db : DB)
    (token : Token) (state : RotationState) : Except Error RotationState :=
  if r.admissionTableReady = false then
    .ok { state with
      blockers := addBlocker state.blockers "credential_dispatch_admission_unavailable" statusUnknown }
  else do
    r.perform (.findAdmissions final)
    let admissions := rotationAdmissions db token
    let digest ← env.evidenceDigest admissions
    return { state with
      blockers := admissions.foldl (admissionBlockers env r token) state.blockers
      evidence := state.evidence ++ [⟨"credential_dispatch_admissions", admissions.length, digest⟩] }

/-- Add what the readers of other domains found. -/
def RotationState.extend (state : RotationState) (q : Qualification) : RotationState :=
  { state with
    blockers := q.blockers.foldl (fun bs b => addBlocker bs b.code b.state) state.blockers
    evidence := state.evidence ++ q.evidence }

/-- The blockers of the token itself. -/
def tokenBlockers (r : Reads) (token : Token) : List Blocker :=
  let schema := if r.receiptTableReady then []
    else addBlocker [] "credential_rotation_schema_unavailable" statusUnknown
  let version :=
    if token.credentialVersion ≤ 0 then addBlocker schema "token_credential_version_unknown" statusUnknown
    else if tokenCredentialVersionMaxExactJSON ≤ token.credentialVersion then
      addBlocker schema "credential_version_overflow" statusBlocked
    else schema
  if token.key = "" then addBlocker version "token_credential_state_unknown" statusUnknown else version

/-- `tokenCredentialRotationPreviewMaxAge`. -/
def tokenCredentialRotationPreviewMaxAge : Int := 300

/-- The order of `tokenCredentialRotationSortBlockers`. -/
def Blocker.before (a b : Blocker) : Bool :=
  if a.state ≠ b.state then decide (a.state ≤ b.state) else decide (a.code ≤ b.code)

/-- Blockers and evidence in the order of the digest, and the revision of a state that is ready. -/
def RotationState.seal (env : Environment) (actorID : Int) (state : RotationState) :
    Except Error RotationState :=
  let sorted := { state with
    evidence := state.evidence.insertionSort fun a b => a.domain ≤ b.domain
    blockers := state.blockers.insertionSort fun a b => a.before b = true }
  if tokenMaintenanceStatus sorted.blockers = statusReady then do
    let revision ← env.revisionDigest actorID sorted
    return { sorted with previewRevision := revision }
  else .ok sorted

/-- `buildTokenCredentialRotationState`. -/
def buildTokenCredentialRotationState (env : Environment) (r : Reads) (final : Bool) (db : DB) (actorID : Int)
    (token : Token) (now : Int) : Except Error RotationState := do
  check (0 < now ∧ now ≤ 2 ^ 63 - 1 - tokenCredentialRotationPreviewMaxAge) .invalid
  let earlier ← r.earlierDomains final
  let state : RotationState :=
    { token := token
      writer := earlier.writer
      blockers := tokenBlockers r token
      expiresAt := (now / tokenCredentialRotationPreviewMaxAge + 1) * tokenCredentialRotationPreviewMaxAge }
  let admitted ← readTokenCredentialRotationDispatchAdmissions env r final db token (state.extend earlier)
  let later ← r.laterDomains final
  (admitted.extend later).seal env actorID

/-! ### The transaction -/

/-- `loadTokenMaintenanceOwner`. -/
def loadTokenMaintenanceOwner (r : Reads) (db : DB) (actorID tokenID : Int) : Except Error Token := do
  check (0 < actorID ∧ 0 < tokenID) .invalid
  r.perform .takeUser
  let actor ← need (r.user actorID) .denied
  check (actor.enabled = true ∧ actor.root = true) .denied
  r.perform .takeToken
  let token ← need (db.tokens.get? tokenID) .recordNotFound
  check (token.deleted = false ∧ token.userID = actorID) .denied
  return token

/-- `readTokenCredentialRotationReceipt`. -/
def readTokenCredentialRotationReceipt (r : Reads) (db : DB) (actorID tokenID : Int) (operationID : String) :
    Except Error (Option Receipt) := do
  r.perform .findReceipt
  match db.receipts.get? operationID with
  | none => return none
  | some receipt => do
    check (receipt.actorID = actorID ∧ receipt.tokenID = tokenID) .operationConflict
    return some receipt

/-- `newTokenCredentialRotationKey`: the first of eight generated keys that no token has. -/
def newTokenCredentialRotationKey (r : Reads) (db : DB) : List (Except Error String) → Except Error String
  | [] => .error .unknown
  | generated :: rest => do
    let candidate ← generated
    r.perform .countKeys
    if db.tokens.rows.all (fun t => t.key ≠ candidate) then return candidate
    else newTokenCredentialRotationKey r db rest

/-- `MaskTokenKey`, on keys of one-byte characters. -/
def maskTokenKey (key : String) : String :=
  let chars := key.toList
  if chars.length ≤ 4 then String.ofList (List.replicate chars.length '*')
  else if chars.length ≤ 8 then
    String.ofList (chars.take 2 ++ "****".toList ++ chars.drop (chars.length - 2))
  else String.ofList (chars.take 4 ++ "**********".toList ++ chars.drop (chars.length - 4))

/-- The arguments of `CommitTokenCredentialRotation`. -/
structure RotateCall where
  actorID : Int
  tokenID : Int
  command : Command
  now : Int
  deriving DecidableEq, Repr

/-- The variables that the transaction captures. -/
structure RotationVars where
  result : Option OperationView := none
  candidateKey : String := ""
  oldKey : String := ""
  replayed : Bool := false
  freshCommitted : Bool := false
  receiptAttempted : Bool := false
  deriving DecidableEq, Repr

/-- The receipt of a rotation. -/
def RotateCall.receipt (env : Environment) (call : RotateCall) (requestDigest : String) (token : Token)
    (candidateKey : String) (commitNow : Int) : Receipt where
  operationID := call.command.operationID
  requestDigest := requestDigest
  actorID := call.actorID
  tokenID := call.tokenID
  state := tokenCredentialRotationStateCommitted
  credentialVersionBefore := token.credentialVersion
  credentialVersionAfter := token.credentialVersion + 1
  keyFingerprint := env.generateHMAC ("myapi/token-credential-rotation/receipt/v1:" ++ candidateKey)
  maskedKey := maskTokenKey candidateKey
  previewRevision := call.command.previewRevision
  createdAt := commitNow
  oldSecretInvalidatedAt := commitNow

/-- The conditions of a rotation under the held locks; the result is the time of the commit. -/
def qualifyRotation (env : Environment) (r : Reads) (call : RotateCall) (db : DB) (token : Token) :
    Except Error Int := do
  let _ ← buildTokenCredentialRotationState env r false db call.actorID token call.now
  let commitNow ← r.clock
  let state ← buildTokenCredentialRotationState env r true db call.actorID token commitNow
  check (tokenMaintenanceStatus state.blockers ≠ statusUnknown) .preconditionUnknown
  check (tokenMaintenanceStatus state.blockers ≠ statusBlocked) .blocked
  check (state.previewRevision ≠ "") .preconditionUnknown
  check (state.previewRevision = call.command.previewRevision) .conflict
  return commitNow

/-- `invalidateTokenCredentialRotationCaches`. -/
def invalidateTokenCredentialRotationCaches (env : Environment) (r : Reads) (oldKey newKey : String) :
    Except Error Unit :=
  if env.redisEnabled = false then .ok ()
  else do
    check (oldKey ≠ "" ∧ newKey ≠ "" ∧ oldKey ≠ newKey) (.external "batch quota cache unavailable")
    r.invalidation

/-- The guarded update of the token; the key is a unique column. -/
def updateTokenKey (r : Reads) (db : DB) (token : Token) (candidateKey : String) : Except Error DB := do
  r.perform .updateToken
  check (db.tokens.rows.all (fun t => t.id = token.id || t.key ≠ candidateKey) = true)
    (.external "UNIQUE constraint failed: tokens.key")
  let tokens ← need (db.tokens.cas token.id
    (fun t => t.userID = token.userID && t.key = token.key && t.credentialVersion = token.credentialVersion)
    (fun t => { t with key := candidateKey, credentialVersion := token.credentialVersion + 1 })) .conflict
  return { db with tokens := tokens }

/-- The insertion of the receipt. -/
def createReceipt (r : Reads) (db : DB) (receipt : Receipt) : Except Error DB := do
  r.perform .createReceipt
  let receipts ← need (db.receipts.create receipt) .operationConflict
  return { db with receipts := receipts }

/-- The part of the transaction that writes. -/
def rotateToken (env : Environment) (r : Reads) (call : RotateCall) (requestDigest : String) (db : DB)
    (token : Token) : Body RotationVars Error DB := do
  let commitNow ← Body.lift (qualifyRotation env r call db token)
  let vars ← Body.captured
  let candidateKey ← Body.lift (if vars.candidateKey = "" then
    newTokenCredentialRotationKey r db (r.generatedKeys.take 8) else .ok vars.candidateKey)
  Body.assign fun v => { v with candidateKey := candidateKey, oldKey := token.key }
  Body.lift (joining .preconditionUnknown
    (invalidateTokenCredentialRotationCaches env r token.key candidateKey))
  let updated ← Body.lift (updateTokenKey r db token candidateKey)
  let receipt := call.receipt env requestDigest token candidateKey commitNow
  Body.assign fun v => { v with receiptAttempted := true }
  let written ← Body.lift (createReceipt r updated receipt)
  let view ← Body.lift (tokenCredentialRotationReceiptView receipt)
  Body.assign fun v => { v with result := some view, freshCommitted := true }
  return written

/-- A receipt that is found answers the call. -/
def replayRotation (requestDigest : String) (db : DB) (existing : Receipt) : Body RotationVars Error DB := do
  Body.lift (check (existing.requestDigest = requestDigest) .operationConflict)
  let view ← Body.lift (tokenCredentialRotationReceiptView existing)
  Body.assign fun v => { v with result := some view, replayed := true }
  return db

/-- The transaction of `CommitTokenCredentialRotation`. -/
def rotateBody (env : Environment) (r : Reads) (call : RotateCall) (requestDigest : String) (db : DB) :
    Body RotationVars Error DB := do
  Body.assign fun v => { v with
    result := none, replayed := false, freshCommitted := false, receiptAttempted := false }
  let token ← Body.lift (loadTokenMaintenanceOwner r db call.actorID call.tokenID)
  let existing ← Body.lift
    (readTokenCredentialRotationReceipt r db call.actorID call.tokenID call.command.operationID)
  match existing with
  | some receipt => replayRotation requestDigest db receipt
  | none => rotateToken env r call requestDigest db token

end MyApiSpec.Credential
