import MyApiSpec.Base.Process

/-!
# Login sessions: row, cache and clock

`model/user_session.go:16–130`. A login session has a row in the database and a cached copy in Redis
that lives until its expiry. The copy of an active session may only be written under a deadline that
was taken before the row was read; a deny entry, also called tombstone, gets its lifetime when it is
written. One session is modelled, on any number of nodes with one clock in milliseconds.
-/

namespace MyApiSpec.Session

open Base

/-- The statuses of a session; `revoking` occurs in the cache only. -/
inductive Status where
  | active
  | revoking
  | revoked
  deriving DecidableEq, Repr

/-- `UserSession`, without the data of the login that is only shown. -/
structure UserSession where
  userID : Int
  version : Int := 1
  userAuthVersion : Int
  status : Status := .active
  refreshHash : String
  previousRefreshHash : String := ""
  previousValidUntil : Int := 0
  lastActiveAt : Int
  expiresAt : Int
  revokedAt : Int := 0
  revokedReason : String := ""
  deriving DecidableEq, Repr

/-- `userSessionCacheEntry`, with the same columns left out. -/
structure CacheEntry where
  userID : Int
  version : Int
  userAuthVersion : Int
  status : Status
  lastActiveAt : Int
  expiresAt : Int
  revokedAt : Int
  revokedReason : String
  deriving DecidableEq, Repr

/-- `UserSession.cacheEntry`. -/
def UserSession.cacheEntry (s : UserSession) : CacheEntry :=
  { userID := s.userID
    version := s.version
    userAuthVersion := s.userAuthVersion
    status := s.status
    lastActiveAt := s.lastActiveAt
    expiresAt := s.expiresAt
    revokedAt := s.revokedAt
    revokedReason := s.revokedReason }

/-- `session.Status != active || session.RevokedAt != 0 || session.ExpiresAt <= now`, negated. -/
def UserSession.usable (s : UserSession) (now : Int) : Bool :=
  s.status = .active && s.revokedAt = 0 && now < s.expiresAt

/-- A hash with the time at which Redis drops it. -/
structure Cached where
  entry : CacheEntry
  expireAt : Int
  deriving DecidableEq, Repr

/-- The settings of the instance, and the derivations of refresh tokens for this session:
`hashRefreshSecret` and `deriveNextRefreshSecret` of its id. -/
structure Settings where
  cacheTTL : Int
  ttl_pos : 0 < cacheTTL
  hash : String → String
  derive : String → String

/-- The result of one call of `GetUserSessionCached`; `late` says that the session was revoked when
the call started. -/
structure Answer where
  late : Bool
  ok : Bool
  deriving DecidableEq, Repr

/-- A read of the row by `RotateUserSessionRefresh`. -/
structure Decision where
  presented : String
  now : Int
  row : UserSession
  deriving DecidableEq, Repr

/-- What a refresh hands out or reports: the secret of a new or a repeated rotation,
`ErrRefreshRace`, `ErrLoginSessionRevoked`, `ErrRefreshTokenInvalid`, or the error
`ErrUserSessionInactive` or another one of the rotation. -/
inductive Outcome where
  | rotated (secret : String)
  | replayed (secret : String)
  | race
  | reuse
  | refused
  | inactive
  | failed
  deriving DecidableEq, Repr

/-- The result of one call of `RefreshLoginSession` that came to a decision about the presented
digest. -/
structure Return where
  decision : Decision
  outcome : Outcome
  deriving DecidableEq, Repr

/-- The row, the cached copy and the clock. The other fields record the run: the deadlines under which
the row was read as active, whether every revocation so far was covered by a deny entry, the rotations
of the refresh digest, the answers, decisions and returns. -/
structure World where
  now : Int
  row : UserSession
  cache : Option Cached := none
  observations : List Int := []
  covered : Bool := true
  rotations : List (String × String) := []
  answers : List Answer := []
  decisions : List Decision := []
  returns : List Return := []

/-- The cached entry, unless Redis has dropped it. -/
def World.visible (w : World) : Option CacheEntry :=
  (w.cache.filter (fun c => w.now < c.expireAt)).map Cached.entry

/-- The end of the session in milliseconds. -/
def World.expiry (w : World) : Int := w.row.expiresAt * 1000

/-- A deny entry is cached that outlives every deadline under which the session was read as
active. -/
def World.Fenced (w : World) : Prop :=
  ∃ c ∈ w.cache, c.entry.status ≠ .active ∧ ∀ d ∈ w.observations, min d w.expiry ≤ c.expireAt

instance (w : World) : Decidable w.Fenced := inferInstanceAs (Decidable (∃ c ∈ w.cache, _))

/-- What the environment decides: whether a Redis command is answered, whether the user of the session
is still the one that logged in, and how much time passes. -/
structure Env where
  delivery : StatementOutcome := .answered
  userOk : Bool := true
  elapsed : Nat := 0
  deriving DecidableEq, Repr

/-- A program of a call. -/
abbrev Call (α : Type) : Type := Prog World Env α

/-- `time.Now()`. -/
def clock : Call Int := Prog.read fun w _ => w.now

/-- `time.Now().Unix()` of a time in milliseconds. -/
def unix (ms : Int) : Int := ms / 1000

/-- `userSessionCacheDeadline`. -/
def userSessionCacheDeadline (p : Settings) : Call Int := do
  let now ← clock
  return now + p.cacheTTL * 1000

/-- A read of the row without a deadline. -/
def readRow : Call UserSession := Prog.read fun w _ => w.row

/-- A read of the row under a deadline. -/
def World.observe (w : World) (deadline : Int) : World :=
  if w.row.status = .active then { w with observations := deadline :: w.observations } else w

/-- Revoke the row if it satisfies the condition of the statement. -/
def World.revoke (w : World) (cond : UserSession → Bool) (now : Int) (reason : String) :
    World × Bool :=
  if w.row.status = .active ∧ cond w.row then
    ({ w with
      row := { w.row with status := .revoked, revokedAt := now, revokedReason := reason }
      covered := w.covered && decide w.Fenced }, true)
  else (w, false)

end MyApiSpec.Session
