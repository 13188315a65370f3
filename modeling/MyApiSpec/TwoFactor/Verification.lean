import MyApiSpec.Base.Machine
import MyApiSpec.Base.Table

/-!
# Verification of a second factor

`model/twofa.go:92–185, 236–268, 336–397` and the handlers that call it (`controller/twofa.go:225–262,
344–380, 470–512`, `controller/channel.go:651–667`). A verification loads the factor of the user, checks
the lock on its copy, evaluates a code and records the result; each is a statement of its own, and any
number of verifications of the same user are under way.
-/

namespace MyApiSpec.TwoFactor

open Base

/-! ### Codes -/

/-- `MaxFailAttempts` (`common/totp.go:19`). -/
def maxFailAttempts : Int := 5

/-- `LockoutDuration`, in seconds (`common/totp.go:20`). -/
def lockoutDuration : Int := 300

/-- `maxUpdateRetries` of `IncrementFailedAttempts`. -/
def maxUpdateRetries : Nat := 5

/-- `ValidateNumericCode` (`common/totp.go:120–134`): six bytes without the blanks that
`strconv.Atoi` accepts. -/
def validateNumericCode (code : String) : Option String :=
  let clean := String.ofList (code.toList.filter (· ≠ ' '))
  let digits := match clean.toList with
    | '+' :: rest => rest
    | '-' :: rest => rest
    | rest => rest
  if clean.utf8ByteSize = 6 ∧ digits ≠ [] ∧ digits.all Char.isDigit then some clean else none

/-- `unicode.ToUpper` on the characters whose upper case is an ASCII letter. -/
def upperChar (c : Char) : Char :=
  if c = 'ı' then 'I' else if c = 'ſ' then 'S' else c.toUpper

/-- The code without hyphens in upper case. -/
def cleanBackupCode (code : String) : String :=
  String.ofList ((code.toList.filter (· ≠ '-')).map upperChar)

/-- `common.ValidateBackupCode` (`common/totp.go:81–97`). -/
def validBackupCode (code : String) : Bool :=
  (cleanBackupCode code).utf8ByteSize = 8 &&
    (cleanBackupCode code).toList.all (fun c => ('A' ≤ c && c ≤ 'Z') || c.isDigit)

/-- `NormalizeBackupCode` (`common/totp.go:100–106`) of a code in the right format. -/
def normalizeBackupCode (code : String) : String :=
  let clean := (cleanBackupCode code).toList
  String.ofList (clean.take 4 ++ ['-'] ++ clean.drop 4)

/-- The two checks that are not computed here: a time-based code of the user's secret at a time, and
a backup code against a stored hash. -/
structure Oracle where
  totp : String → Int → Bool
  hash : String → String → Bool

/-- `ValidateTOTPCode` (`common/totp.go:38–47`). -/
def validateTOTPCode (o : Oracle) (code : String) (now : Int) : Bool :=
  let clean := String.ofList (code.toList.filter (· ≠ ' '))
  clean.utf8ByteSize = 6 && o.totp clean now

/-! ### Rows -/

/-- `TwoFA`, the columns that a verification reads and writes. -/
structure TwoFA where
  isEnabled : Bool := true
  failedAttempts : Int := 0
  lockedUntil : Option Int := none
  lastUsedAt : Option Int := none
  deriving DecidableEq, Repr

/-- `TwoFABackupCode` of the user. -/
structure BackupCode where
  id : Int := 0
  codeHash : String
  isUsed : Bool := false
  usedAt : Option Int := none
  deriving DecidableEq, Repr

instance : Row BackupCode := ⟨BackupCode.id, fun i r => { r with id := i }, fun _ _ => rfl⟩

/-- `IsLocked`. -/
def TwoFA.isLocked (t : TwoFA) (now : Int) : Bool := t.lockedUntil.any (fun u => now < u)

/-- What a verification accepted. -/
inductive Acceptance where
  | totp
  | backup (id : Int)
  deriving DecidableEq, Repr

/-- The rows of one user and the clock, with what the verifications did so far: the codes that were
evaluated and those that were rejected, the failures that were counted with the lock that each of them
set, the failures that met a lock, those that were given up, and the acceptances. -/
structure World where
  now : Int
  factor : TwoFA
  codes : Table BackupCode := .empty
  evaluated : Nat := 0
  rejected : Nat := 0
  failures : List (Option Int) := []
  lockMet : Nat := 0
  givenUp : Nat := 0
  accepted : List Acceptance := []

/-! ### Steps -/

/-- What a request verifies: a code, and whether a backup code is tried when it is no valid
time-based one. -/
structure Request where
  code : String
  backup : Bool := true
  deriving DecidableEq, Repr

/-- The kind of code that is evaluated. -/
inductive Kind where
  | totp
  | backup
  deriving DecidableEq, Repr

/-- Where a verification stands, with the copy `t` of the row that it carries. -/
inductive Phase where
  | loading (r : Request)
  | checking (r : Request) (t : TwoFA) (kind : Kind)
  | evaluating (r : Request) (t : TwoFA) (kind : Kind)
  | using (r : Request) (t : TwoFA) (id : Int)
  | reading (r : Request) (t : TwoFA) (kind : Kind) (tries : Nat)
  | timing (r : Request) (t : TwoFA) (kind : Kind) (tries : Nat) (current : TwoFA)
  | writing (r : Request) (t : TwoFA) (kind : Kind) (tries : Nat) (current : TwoFA) (now : Int)
  | stamping (t : TwoFA)
  | saving (t : TwoFA)
  | finished (ok : Bool)
  deriving DecidableEq, Repr

/-- What follows a code that was not accepted: the backup code behind the time-based one. -/
def afterRejection (r : Request) (t : TwoFA) : Kind → Phase
  | .totp => if r.backup then .checking r t .backup else .finished false
  | .backup => .finished false

/-- The first code of a request. -/
def firstCheck (r : Request) (t : TwoFA) : Phase :=
  match validateNumericCode r.code with
  | some _ => .checking r t .totp
  | none => if r.backup then .checking r t .backup else .finished false

/-- A rejected code goes on with `IncrementFailedAttempts`. -/
def World.reject (w : World) (r : Request) (t : TwoFA) (kind : Kind) : World × Phase :=
  ({ w with rejected := w.rejected + 1 }, .reading r t kind maxUpdateRetries)

/-- The evaluation of a time-based code. -/
def World.evaluateTOTP (o : Oracle) (w : World) (r : Request) (t : TwoFA) : World × Phase :=
  let w := { w with evaluated := w.evaluated + 1 }
  if validateTOTPCode o ((validateNumericCode r.code).getD "") w.now then
    ({ w with accepted := w.accepted ++ [.totp] }, .stamping t)
  else w.reject r t .totp

/-- The evaluation of a backup code: the first unused row whose hash it has. A code in another format
is refused before it is evaluated, and not counted. -/
def World.evaluateBackup (o : Oracle) (w : World) (r : Request) (t : TwoFA) : World × Phase :=
  if validBackupCode r.code then
    let w := { w with evaluated := w.evaluated + 1 }
    match w.codes.find? (fun bc => !bc.isUsed && o.hash (normalizeBackupCode r.code) bc.codeHash) with
    | some bc => (w, .using r t bc.id)
    | none => w.reject r t .backup
  else (w, .finished false)

/-- The conditional update that uses a backup code. -/
def World.useBackup (w : World) (r : Request) (t : TwoFA) (id : Int) : World × Phase :=
  match w.codes.cas id (fun bc => !bc.isUsed)
      (fun bc => { bc with isUsed := true, usedAt := some w.now }) with
  | some codes => ({ w with codes := codes, accepted := w.accepted ++ [.backup id] }, .stamping t)
  | none => w.reject r t .backup

/-- `nextLockedUntil` of `IncrementFailedAttempts`. -/
def newLock (current : TwoFA) (now : Int) : Option Int :=
  if maxFailAttempts ≤ current.failedAttempts + 1 then some (now + lockoutDuration) else none

/-- The conditional update of `IncrementFailedAttempts`; it repeats the loop when the row has changed
since it was read, and gives up after the last try. -/
def World.writeFailure (w : World) (r : Request) (t : TwoFA) (kind : Kind) (tries : Nat)
    (current : TwoFA) (now : Int) : World × Phase :=
  if w.factor.failedAttempts = current.failedAttempts ∧ w.factor.isLocked now = false then
    let lock := newLock current now
    let factor := { w.factor with
      failedAttempts := current.failedAttempts + 1
      lockedUntil := lock <|> current.lockedUntil }
    ({ w with factor := factor, failures := w.failures ++ [lock] },
      afterRejection r { t with
        failedAttempts := factor.failedAttempts, lockedUntil := factor.lockedUntil } kind)
  else if tries ≤ 1 then ({ w with givenUp := w.givenUp + 1 }, afterRejection r t kind)
  else (w, .reading r t kind (tries - 1))

/-- The clock reading of `IncrementFailedAttempts`: a lock in force ends it. -/
def World.timeFailure (w : World) (r : Request) (t : TwoFA) (kind : Kind) (tries : Nat)
    (current : TwoFA) : World × Phase :=
  if current.isLocked w.now then
    ({ w with lockMet := w.lockMet + 1 }, afterRejection r { t with
      failedAttempts := current.failedAttempts, lockedUntil := current.lockedUntil } kind)
  else (w, .writing r t kind tries current w.now)

/-- One statement of a verification. -/
def World.advance (o : Oracle) (w : World) : Phase → Option (World × Phase)
  | .loading r => some (w, if w.factor.isEnabled then firstCheck r w.factor else .finished false)
  | .checking r t kind =>
    -- a locked copy is an error; behind the time-based code the error is dropped
    some (w, if t.isLocked w.now then afterRejection r t kind else .evaluating r t kind)
  | .evaluating r t .totp => some (w.evaluateTOTP o r t)
  | .evaluating r t .backup => some (w.evaluateBackup o r t)
  | .using r t id => some (w.useBackup r t id)
  | .reading r t kind tries => some (w, .timing r t kind tries w.factor)
  | .timing r t kind tries current => some (w.timeFailure r t kind tries current)
  | .writing r t kind tries current now => some (w.writeFailure r t kind tries current now)
  | .stamping t =>
    some (w, .saving { t with failedAttempts := 0, lockedUntil := none, lastUsedAt := some w.now })
  | .saving t =>
    some ({ w with factor := { w.factor with
      failedAttempts := t.failedAttempts
      lockedUntil := t.lockedUntil
      lastUsedAt := t.lastUsedAt } }, .finished true)
  | .finished _ => none

/-- The clock and the verifications. -/
inductive Actor where
  | clock
  | verifier (p : Phase)
  deriving DecidableEq, Repr

/-- The verifications of one user. The clock moves by any number of seconds. -/
def verifications (o : Oracle) : Machine World Actor Nat (Option Request) where
  start
    | none, w => some (w, .clock)
    | some r, w => some (w, .verifier (.loading r))
  act
    | w, .clock, elapsed => some ({ w with now := w.now + elapsed }, .clock)
    | w, .verifier p, _ => (w.advance o p).map fun x => (x.1, .verifier x.2)

end MyApiSpec.TwoFactor
