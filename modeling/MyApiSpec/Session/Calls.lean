import MyApiSpec.Session.Types

/-!
# Login sessions: calls

`model/user_session.go:211–393, 446–774` and `service/auth_session.go:200–260`. Every statement, Redis
command and clock reading is an action of its own; transactions that lock the row are one action. A call
may stop for good behind any of them.
-/

namespace MyApiSpec.Session

open Base

/-! ### The cached copy -/

/-- How a write sets the lifetime of the hash: `PEXPIREAT` or `PEXPIRE`. -/
inductive Expiration where
  | at (time : Int)
  | after (duration : Int)
  deriving DecidableEq, Repr

/-- The results of `writeUserSessionCache`: `nil`, `ErrUserSessionInactive`,
`errUserSessionCacheObservationStale`, `ErrUserSessionInvalid`, or an error of Redis. -/
inductive WriteResult where
  | written
  | inactive
  | stale
  | invalid
  | failed
  deriving DecidableEq, Repr

/-- The part of `writeUserSessionCache` before the script; a deny state has no deadline. -/
def expiration (p : Settings) (entry : CacheEntry) (deadline : Option Int) (now : Int) :
    Except WriteResult Expiration :=
  let sessionExpiresAt := entry.expiresAt * 1000
  let sessionTTL := sessionExpiresAt - now
  if entry.status = .active then
    match deadline with
    | none => .error .invalid
    | some deadline =>
      if deadline - now ≤ 0 then .error .stale
      else if sessionTTL ≤ 0 then .error .inactive
      else
        let cacheExpiresAt := min deadline sessionExpiresAt
        if cacheExpiresAt - now < 1 then .error .stale else .ok (.at cacheExpiresAt)
  else
    let ttl := min sessionTTL (p.cacheTTL * 1000)
    .ok (.after (if ttl ≤ 0 then 1000 else ttl))

/-- The script of `writeUserSessionCache`: no active copy replaces a deny entry, and no copy replaces
one of a higher version. -/
def World.runScript (w : World) (entry : CacheEntry) (e : Expiration) : World × Bool :=
  let current := w.visible
  if entry.status = .active ∧ current.any (fun c => c.status ≠ .active) then (w, false)
  else if entry.version < (current.map CacheEntry.version).getD 0 then (w, false)
  else
    match e with
    | .at time => ({ w with cache := if w.now < time then some ⟨entry, time⟩ else none }, true)
    | .after duration => ({ w with cache := some ⟨entry, w.now + duration⟩ }, true)

/-- The script as a command that may not be executed or not be answered. -/
def evalScript (entry : CacheEntry) (e : Expiration) : Call WriteResult :=
  Prog.update fun w env =>
    match env.delivery with
    | .answered =>
      let r := w.runScript entry e
      (r.1, if r.2 then .written else .inactive)
    | .lost => ((w.runScript entry e).1, .failed)
    | .failed => (w, .failed)

/-- The check of `writeUserSessionCache` behind the script of an active copy. -/
def completedAt (entry : CacheEntry) (deadline : Option Int) (now : Int) : WriteResult :=
  if deadline.any (fun d => d ≤ now) then .stale
  else if entry.expiresAt * 1000 ≤ now then .inactive
  else .written

/-- `writeUserSessionCache`. -/
def writeUserSessionCache (p : Settings) (entry : CacheEntry) (deadline : Option Int) :
    Call WriteResult := do
  let now ← clock
  match expiration p entry deadline now with
  | .error r => return r
  | .ok e =>
    let r ← evalScript entry e
    if r = .written ∧ entry.status = .active then
      let now ← clock
      return completedAt entry deadline now
    else return r

/-- `confirmUserSessionActiveSnapshot`. -/
def confirmUserSessionActiveSnapshot (s : UserSession) : Call Bool := do
  let now ← clock
  Prog.read fun w _ => w.row.usable (unix now) && w.row.userID = s.userID &&
    w.row.version = s.version && w.row.userAuthVersion = s.userAuthVersion

/-- The deny entry of `writeUserSessionDenyFence` and of the final tombstones. -/
def denyEntry (s : UserSession) (status : Status) (now : Int) (reason : String) : CacheEntry :=
  { s.cacheEntry with status := status, revokedAt := now, revokedReason := reason }

/-- `writeUserSessionDenyFence`. -/
def writeUserSessionDenyFence (p : Settings) (s : UserSession) (now : Int) (reason : String) :
    Call WriteResult :=
  writeUserSessionCache p (denyEntry s .revoking now reason) none

/-- The last cache write of a revocation, whose error is only logged. -/
def writeTombstone (p : Settings) (s : UserSession) (now : Int) (reason : String) : Call Unit := do
  let _ ← writeUserSessionCache p (denyEntry s .revoked now reason) none
  return ()

/-- The read of the row behind a deadline. -/
def getUserSessionBySID (deadline : Int) : Call UserSession :=
  Prog.update fun w _ => (w.observe deadline, w.row)

/-! ### `GetUserSessionCached` -/

/-- `RedisHGetObj` and the check of the schema; a failure is a miss. -/
def getUserSessionCache : Call (Option CacheEntry) :=
  Prog.read fun w env => if env.delivery = .answered then
    w.visible.filter (fun e => 0 < e.userID && 0 < e.version && 0 < e.userAuthVersion) else none

/-- The copy of an active session behind a read of its row: `none` is an error. -/
def fillCache (p : Settings) (s : UserSession) (deadline : Int) : Call (Option UserSession) := do
  match ← writeUserSessionCache p s.cacheEntry (some deadline) with
  | .stale => do
    let confirmed ← confirmUserSessionActiveSnapshot s
    return if confirmed then some s else none
  | .inactive => return none
  | _ => return some s

/-- The fallback to the database. -/
def getFromDatabase (p : Settings) : Call (Option UserSession) := do
  let deadline ← userSessionCacheDeadline p
  let s ← getUserSessionBySID deadline
  let now ← clock
  if s.usable (unix now) then fillCache p s deadline
  else do
    let _ ← writeUserSessionCache p { s.cacheEntry with status := .revoked } none
    return none

/-- `userSessionCacheEntry.session`, for the columns that the callers read. -/
def CacheEntry.session (e : CacheEntry) : UserSession :=
  { userID := e.userID
    version := e.version
    userAuthVersion := e.userAuthVersion
    status := e.status
    refreshHash := ""
    lastActiveAt := e.lastActiveAt
    expiresAt := e.expiresAt
    revokedAt := e.revokedAt
    revokedReason := e.revokedReason }

/-- `GetUserSessionCached` of the session, without its records. -/
def lookupSession (p : Settings) : Call (Option UserSession) := do
  match ← getUserSessionCache with
  | some e => do
    let now ← clock
    return if e.session.usable (unix now) then some e.session else none
  | none => getFromDatabase p

/-- `GetUserSessionCached`; the first and the last action record the call. -/
def getUserSessionCached (p : Settings) : Call (Option UserSession) := do
  let late ← Prog.read fun w _ => decide (w.row.status ≠ .active)
  let r ← lookupSession p
  Prog.update fun w _ => ({ w with answers := ⟨late, r.isSome⟩ :: w.answers }, ())
  return r

/-! ### `RotateUserSessionRefresh` -/

/-- The read of the row by a rotation, under a deadline; it is the decision about the presented
digest. -/
def readForRotation (presented : String) (now deadline : Int) : Call UserSession :=
  Prog.update fun w _ =>
    ({ w.observe deadline with decisions := ⟨presented, now, w.row⟩ :: w.decisions }, w.row)

/-- The compare-and-swap of a rotation. -/
def World.rotate (w : World) (presented next : String) (now graceSeconds : Int) : World × Bool :=
  if w.row.usable now ∧ w.row.refreshHash = presented then
    ({ w with
      row := { w.row with
        previousRefreshHash := presented
        previousValidUntil := now + graceSeconds
        refreshHash := next
        lastActiveAt := now }
      rotations := w.rotations ++ [(presented, next)] }, true)
  else (w, false)

/-- The results of `RotateUserSessionRefresh`: a rotation, or the errors `ErrUserSessionRefreshRace`,
`ErrUserSessionRefreshReuse`, `ErrUserSessionRefreshInvalid`, `ErrUserSessionInactive` and others. -/
inductive RotateResult where
  | rotated (s : UserSession)
  | race (s : UserSession)
  | reuse
  | refreshInvalid
  | inactive
  | failed
  deriving DecidableEq, Repr

/-- A rotation that won its compare-and-swap. -/
def finishRotation (p : Settings) (s : UserSession) (deadline : Int) : Call RotateResult := do
  match ← fillCache p s deadline with
  | some s => return .rotated s
  | none => return .inactive

/-- The replay of a previous digest behind its window: deny fence, revocation, tombstone. -/
def revokeReuse (p : Settings) (s : UserSession) (now : Int) : Call RotateResult := do
  match ← writeUserSessionDenyFence p s now "refresh_reuse" with
  | .written => do
    let revoked ← Prog.update fun w _ => w.revoke (fun row => row.usable now) now "refresh_reuse"
    if revoked then do
      writeTombstone p s now "refresh_reuse"
      return .reuse
    else return .inactive
  | .inactive => return .inactive
  | _ => return .failed

/-- The loop of `RotateUserSessionRefresh`: the result and the row it decided on. -/
def rotateLoop (p : Settings) (presented next : String) (now graceSeconds : Int) :
    Nat → Decision → Call (RotateResult × Decision)
  | 0, d => return (.refreshInvalid, d)
  | tries + 1, _ => do
    let deadline ← userSessionCacheDeadline p
    let s ← readForRotation presented now deadline
    let d : Decision := ⟨presented, now, s⟩
    if s.usable now = false then return (.inactive, d)
    else if s.refreshHash = presented then do
      let won ← Prog.update fun w _ => w.rotate presented next now graceSeconds
      if won then do
        let r ← finishRotation p { s with
          previousRefreshHash := s.refreshHash
          previousValidUntil := now + graceSeconds
          refreshHash := next
          lastActiveAt := now } deadline
        return (r, d)
      else rotateLoop p presented next now graceSeconds tries d
    else if s.previousRefreshHash = "" ∨ s.previousRefreshHash ≠ presented then
      return (.refreshInvalid, d)
    else if now ≤ s.previousValidUntil then return (.race s, d)
    else do
      let r ← revokeReuse p s now
      return (r, d)

/-- `RotateUserSessionRefresh`, with the decision of its last read; `none` when it has not read the
row. -/
def rotateUserSessionRefresh (p : Settings) (userID : Int) (presented next : String)
    (now graceSeconds : Int) : Call (RotateResult × Option Decision) := do
  let row ← readRow
  if userID ≤ 0 ∨ presented = "" ∨ next = "" ∨ presented = next ∨ graceSeconds < 0 ∨
      row.userID ≠ userID then return (.failed, none)
  else do
    let (r, d) ← rotateLoop p presented next now graceSeconds 3 ⟨presented, now, row⟩
    return (r, some d)

/-! ### Revocations -/

/-- `RevokeUserSession`. -/
def revokeUserSession (p : Settings) (userID : Int) (reason : String) : Call Unit := do
  let time ← clock
  let now := unix time
  let candidate ← readRow
  if userID ≤ 0 ∨ candidate.userID ≠ userID ∨ candidate.usable now = false then return ()
  else do
    match ← writeUserSessionDenyFence p candidate now reason with
    | .written => do
      let revoked ← Prog.update fun w _ => w.revoke (fun row => row.usable now) now reason
      if revoked then writeTombstone p candidate now reason else return ()
    | _ => return ()

/-- The digests that `RevokeUserSessionByRefreshHash` accepts. -/
def acceptsLogout (s : UserSession) (presented : String) (now : Int) : Bool :=
  s.usable now && (s.refreshHash = presented ||
    (s.previousRefreshHash ≠ "" && now ≤ s.previousValidUntil && s.previousRefreshHash = presented))

/-- `RevokeUserSessionByRefreshHash`. The lock of its transaction is not modelled: others may act
between its read and its update, which repeats the status only. -/
def revokeUserSessionByRefreshHash (p : Settings) (presented reason : String) : Call Unit := do
  let time ← clock
  let now := unix time
  let s ← readRow
  if presented ≠ "" ∧ acceptsLogout s presented now then do
    match ← writeUserSessionDenyFence p s now reason with
    | .written => do
      let revoked ← Prog.update fun w _ => w.revoke (fun _ => true) now reason
      if revoked then writeTombstone p s now reason else return ()
    | _ => return ()
  else return ()

/-- The rounds of `revokeUserSessions`, for the session among the candidates; its loop ends with the
first round that finds none. -/
def revokeRounds (p : Settings) (userID now : Int) (reason : String) : Nat → Call Unit
  | 0 => return ()
  | rounds + 1 => do
    let s ← readRow
    if s.userID = userID ∧ s.status = .active ∧ now < s.expiresAt then do
      match ← writeUserSessionDenyFence p s now reason with
      | .written => do
        let locked ← Prog.update fun w _ =>
          let r := w.revoke (fun _ => true) now reason
          (r.1, if r.2 then some w.row else none)
        match locked with
        | some row => do
          writeTombstone p row now reason
          revokeRounds p userID now reason rounds
        | none => revokeRounds p userID now reason rounds
      | _ => return ()
    else return ()

/-- `revokeUserSessions` with a number of rounds that its loop does not exceed. -/
def revokeUserSessions (p : Settings) (userID : Int) (reason : String) (rounds : Nat) : Call Unit := do
  let time ← clock
  revokeRounds p userID (unix time) reason rounds

/-! ### `AdvanceUserSessionAuthVersion` -/

/-- The transaction of `AdvanceUserSessionAuthVersion`, under the deadline taken before. -/
def World.advance (w : World) (userID expectedVersion expectedAuth nextAuth now deadline : Int) :
    World × Option UserSession :=
  if w.row.userID = userID ∧ w.row.status = .active ∧ now < w.row.expiresAt ∧
      w.row.version = expectedVersion ∧ w.row.userAuthVersion = expectedAuth then
    let row := { w.row with
      version := w.row.version + 1
      userAuthVersion := nextAuth
      lastActiveAt := now }
    ({ w.observe deadline with row := row }, some row)
  else (w, none)

/-- `AdvanceUserSessionAuthVersion`. -/
def advanceUserSessionAuthVersion (p : Settings) (userID expectedVersion expectedAuth nextAuth : Int) :
    Call Unit := do
  if userID ≤ 0 ∨ expectedVersion ≤ 0 ∨ expectedAuth ≤ 0 ∨ nextAuth ≤ expectedAuth then return ()
  else do
    let deadline ← userSessionCacheDeadline p
    let time ← clock
    match ← Prog.update fun w _ =>
        w.advance userID expectedVersion expectedAuth nextAuth (unix time) deadline with
    | some row => do
      let _ ← fillCache p row deadline
      return ()
    | none => return ()

/-! ### `RefreshLoginSession` -/

/-- `RefreshReplayWindow`, in seconds (`service/auth_token.go:21`). -/
def refreshReplayWindow : Int := 30

/-- What `RefreshLoginSession` makes of the result of the rotation. -/
def refreshOutcome (p : Settings) (nextSecret : String) : RotateResult → Outcome
  | .rotated _ => .rotated nextSecret
  | .race s => if p.hash nextSecret = s.refreshHash then .replayed nextSecret else .race
  | .reuse => .reuse
  | .refreshInvalid => .refused
  | .inactive => .inactive
  | .failed => .failed

/-- `RefreshLoginSession` with the secret of a token of this session. Whether the user still has the
status and version of the session is read from the cache and the database of users; if not, the session
is revoked. -/
def refreshLoginSession (p : Settings) (secret : String) : Call Unit := do
  match ← getUserSessionCached p with
  | none => return ()
  | some s => do
    let time ← clock
    if s.usable (unix time) = false then return ()
    else do
      let userOk ← Prog.read fun _ env => env.userOk
      if userOk = false then revokeUserSession p s.userID "user_security_changed"
      else do
        let nextSecret := p.derive secret
        let time ← clock
        let (r, d) ← rotateUserSessionRefresh p s.userID (p.hash secret) (p.hash nextSecret)
          (unix time) refreshReplayWindow
        match d with
        | none => return ()
        | some d =>
          Prog.update fun w _ =>
            ({ w with returns := ⟨d, refreshOutcome p nextSecret r⟩ :: w.returns }, ())

end MyApiSpec.Session
