import MyApiSpec.Base.Expiring
import MyApiSpec.Base.Outcome

/-!
# The cached user and its version floors

`model/user_auth_cache.go:23–78, 110–276, 324–383, 448–515` and `model/quota_reserve.go:66–110`: the Redis keys of
one user and the scripts that work on them. The hash holds a snapshot of the user under its authentication
version; a pending fence and a committed floor bound the versions that may be written and read. Versions are
canonical decimal texts that the scripts order by length and then by characters; they are modelled by the
numbers. Times are milliseconds.
-/

namespace MyApiSpec.UserCache

open Base

/-- The user, and `common.RedisKeyCacheSeconds`. -/
structure Settings where
  userID : Int
  redisKeyCacheSeconds : Int
  deriving DecidableEq, Repr

/-- `userCacheTTLSeconds`. -/
def Settings.userCacheTTLSeconds (s : Settings) : Int :=
  if s.redisKeyCacheSeconds ≤ 0 then 60 else s.redisKeyCacheSeconds

/-- What `userAuthFenceTTLSeconds` adds to the life of a hash. -/
def Settings.extraSeconds (s : Settings) : Int := if s.userCacheTTLSeconds < 60 then 60 else s.userCacheTTLSeconds

/-- `userAuthFenceTTLSeconds`. -/
def Settings.userAuthFenceTTLSeconds (s : Settings) : Int := s.userCacheTTLSeconds + s.extraSeconds

/-- The life of a hash in milliseconds. -/
def Settings.hashLife (s : Settings) : Int := 1000 * s.userCacheTTLSeconds

/-- What a fence lives longer than a hash. -/
def Settings.margin (s : Settings) : Int := 1000 * s.extraSeconds

/-- `userCacheSchemaVersion`. -/
def userCacheSchemaVersion : Int := 6

/-- `common.MaxQuotaBalance`. -/
def maxQuotaBalance : Int := 2 ^ 53 - 1

/-- The columns of a user that are cached next to the versions. -/
structure Profile where
  group : String := ""
  accountTierID : String := ""
  email : String := ""
  status : Int := 1
  role : Int := 1
  username : String := ""
  setting : String := ""
  deriving DecidableEq, Repr

/-- `UserBase`, and the fields of the cached hash. -/
structure UserBase where
  id : Int
  profile : Profile := {}
  quota : Int := 0
  authVersion : Int
  cacheSchema : Int := userCacheSchemaVersion
  quotaVersion : Int := 0
  quotaWriterEpoch : Int := 0
  deriving DecidableEq, Repr

/-- The keys of the user, the writer epoch, and the owner of the user's balance. -/
structure Redis where
  hash : Option (Expiring UserBase) := none
  fence : Option (Expiring Int) := none
  committed : Option Int := none
  epoch : Option Int := none
  owner : Option String := none
  deriving DecidableEq, Repr

namespace Redis

/-- The pending version, zero without a fence. -/
def pending (r : Redis) (now : Int) : Int := liveD r.fence now 0

/-- The committed floor, zero without one. -/
def floor (r : Redis) : Int := r.committed.getD 0

/-- The stored writer epoch, zero without one. -/
def globalEpoch (r : Redis) : Int := r.epoch.getD 0

/-- The version of the hash, zero without one. -/
def current (r : Redis) (now : Int) : Int := ((live r.hash now).map fun h => h.value.authVersion).getD 0

/-- The floor rises to a version, and a fence at or below it is removed. -/
def commit (r : Redis) (now version : Int) : Redis :=
  { r with
    committed := if r.floor < version then some version else r.committed
    fence := if r.pending now ≠ 0 ∧ r.pending now ≤ version then none else r.fence }

end Redis

/-- `quotaStateInteger(value, false)`. -/
def quotaInRange (quota : Int) : Prop := -maxQuotaBalance ≤ quota ∧ quota ≤ maxQuotaBalance

instance (quota : Int) : Decidable (quotaInRange quota) := inferInstanceAs (Decidable (_ ∧ _))

/-! ### Writing a snapshot -/

/-- What the scripts return instead of a success. -/
inductive Refusal where
  | pending
  | epochMismatch
  | ownerMismatch
  | identityMismatch
  | error (text : String)
  deriving DecidableEq, Repr

/-- The arguments of the script of `writeUserCacheWithQuotaBalanceOwner`; `token` is empty without an owner. -/
structure Write where
  user : UserBase
  includeQuota : Bool
  token : String := ""
  deriving DecidableEq, Repr

/-- The checks of the script before its first write. -/
def writeChecks (r : Redis) (now : Int) (w : Write) : Except Refusal Unit := do
  check (if w.token ≠ "" then r.owner = some w.token else r.owner = none) .ownerMismatch
  check (0 < w.user.authVersion ∧ 0 < w.user.id ∧ 0 < w.user.quotaWriterEpoch ∧ 0 ≤ w.user.quotaVersion ∧
    0 < w.user.cacheSchema) (.error "invalid cache version")
  check (w.includeQuota = true → quotaInRange w.user.quota) (.error "invalid quota state")
  check (r.globalEpoch ≤ w.user.quotaWriterEpoch) .epochMismatch
  check (r.pending now ≤ w.user.authVersion ∧ r.floor ≤ w.user.authVersion ∧
    r.current now ≤ w.user.authVersion) .pending
  check (∀ h ∈ live r.hash now, h.value.id = w.user.id) .identityMismatch
  check (∀ h ∈ live r.hash now, h.value.cacheSchema = w.user.cacheSchema →
    quotaInRange h.value.quota ∧ 0 < h.value.quotaWriterEpoch ∧ 0 ≤ h.value.quotaVersion)
    (.error "invalid cached quota state")

/-- Whether the stored hash is dropped: it has another schema, or no expiry and no owner writes it. -/
def Write.replaces (w : Write) (h : Expiring UserBase) : Bool :=
  h.value.cacheSchema ≠ w.user.cacheSchema || (w.token = "" && h.expiresAt = none)

/-- Whether the quota of the snapshot is newer than that of the hash. -/
def Write.newerQuota (w : Write) (h : UserBase) : Bool :=
  h.quotaWriterEpoch < w.user.quotaWriterEpoch ||
    (h.quotaWriterEpoch = w.user.quotaWriterEpoch && h.quotaVersion < w.user.quotaVersion)

/-- The fields behind the script over those of a kept hash. -/
def Write.onto (w : Write) (h : UserBase) : UserBase :=
  if w.token ≠ "" ∧ w.includeQuota = true ∧ w.newerQuota h = true then w.user
  else { w.user with
    quota := h.quota
    quotaVersion := h.quotaVersion
    quotaWriterEpoch := h.quotaWriterEpoch }

/-- The hash behind the script: a kept one is refreshed, and a new one is written by an owner with the quota. -/
def Write.newHash (s : Settings) (now : Int) (w : Write) (h : Option (Expiring UserBase)) :
    Option (Expiring UserBase) :=
  match h.filter fun h => !w.replaces h with
  | some h => some ⟨w.onto h.value, some (now + s.hashLife)⟩
  | none =>
    if w.token ≠ "" ∧ w.includeQuota = true then some ⟨w.user, some (now + s.hashLife)⟩ else none

/-- The script of `writeUserCacheWithQuotaBalanceOwner`. -/
def writeScript (s : Settings) (now : Int) (w : Write) (r : Redis) : Redis × Except Refusal Unit :=
  match writeChecks r now w with
  | .error e => (r, .error e)
  | .ok _ =>
    ({ r.commit now w.user.authVersion with
        epoch := if r.globalEpoch < w.user.quotaWriterEpoch then some w.user.quotaWriterEpoch else r.epoch
        hash := w.newHash s now (live r.hash now) }, .ok ())

/-! ### Quota projections -/

/-- The arguments of `hydrateUserQuotaCacheScript`. -/
structure Projection where
  quota : Int
  quotaVersion : Int
  writerEpoch : Int
  deriving DecidableEq, Repr

/-- `hydrateUserQuotaCacheScript`: an older projection only touches the hash. -/
def hydrateScript (s : Settings) (now : Int) (p : Projection) (r : Redis) : Redis :=
  if ¬ (quotaInRange p.quota ∧ 0 ≤ p.quotaVersion ∧ 0 < p.writerEpoch) then r
  else
    match live r.hash now with
    | none => r
    | some h =>
      if h.value.id ≠ s.userID then r
      else if h.value.cacheSchema ≠ userCacheSchemaVersion then { r with hash := none }
      else if ¬ (0 < h.value.quotaWriterEpoch ∧ 0 ≤ h.value.quotaVersion ∧ quotaInRange h.value.quota) then r
      else if p.writerEpoch < r.globalEpoch then r
      else if p.writerEpoch < h.value.quotaWriterEpoch ∨
          (p.writerEpoch = h.value.quotaWriterEpoch ∧ p.quotaVersion ≤ h.value.quotaVersion) then
        { r with hash := some { h with expiresAt := some (now + s.hashLife) } }
      else
        { r with
          epoch := if r.globalEpoch < p.writerEpoch then some p.writerEpoch else r.epoch
          hash := some ⟨{ h.value with
            quota := p.quota
            quotaVersion := p.quotaVersion
            quotaWriterEpoch := p.writerEpoch }, some (now + s.hashLife)⟩ }

/-- `userQuotaReserveScript` and `userQuotaDeltaScript`: they change the quota of a hash and nothing of its
life. A reservation needs the quota that it takes. -/
def quotaScript (s : Settings) (now : Int) (delta : Int) (reserve : Bool) (epoch : Int) (r : Redis) : Redis :=
  match live r.hash now with
  | none => r
  | some h =>
    if (∃ e ∈ r.epoch, e ≠ epoch) ∨ h.value.id ≠ s.userID ∨ h.value.cacheSchema ≠ userCacheSchemaVersion ∨
        h.value.quotaWriterEpoch ≠ epoch ∨ ¬ quotaInRange h.value.quota ∨
        ¬ quotaInRange (h.value.quota + delta) ∨ (reserve = true ∧ h.value.quota + delta < 0) then r
    else
      { r with
        epoch := some epoch
        hash := some { h with value := { h.value with quota := h.value.quota + delta } } }

/-! ### Fences and floors -/

/-- The script of `SetUserAuthVersionFence`. -/
def fenceScript (s : Settings) (now version : Int) (r : Redis) : Redis :=
  let expiry := some (now + 1000 * s.userAuthFenceTTLSeconds)
  if r.pending now < version then { r with fence := some ⟨version, expiry⟩ }
  else if r.pending now = version then { r with fence := some ⟨version, expiry⟩ }
  else
    match live r.fence now with
    | some f => if f.expiresAt = none then { r with fence := some { f with expiresAt := expiry } } else r
    | none => r

/-- The script of `publishCommittedUserAuthVersion`. -/
def promoteScript (now version : Int) (r : Redis) : Redis := r.commit now version

/-- A single cached field. -/
inductive Field where
  | group (value : String)
  | username (value : String)
  | setting (value : String)
  deriving DecidableEq, Repr

/-- The hash with the field. -/
def Field.write (f : Field) (u : UserBase) : UserBase :=
  match f with
  | .group v => { u with profile := { u.profile with group := v } }
  | .username v => { u with profile := { u.profile with username := v } }
  | .setting v => { u with profile := { u.profile with setting := v } }

/-- The script of `updateUserCacheFieldAtVersion`. -/
def fieldScript (s : Settings) (now : Int) (f : Field) (version : Int) (r : Redis) : Redis :=
  match live r.hash now with
  | some h =>
    if h.value.id ≠ s.userID then r
    else if h.value.cacheSchema ≠ userCacheSchemaVersion then { r with hash := none }
    else if ¬ (quotaInRange h.value.quota ∧ 0 ≤ h.value.quotaVersion ∧ 0 < h.value.quotaWriterEpoch) then r
    else if version < r.pending now ∨ version < r.floor ∨ version < h.value.authVersion then r
    else if h.value.authVersion ≠ version then r.commit now version
    else { r.commit now version with hash := some { h with value := f.write h.value } }
  | none => if version < r.pending now ∨ version < r.floor then r else r.commit now version

end MyApiSpec.UserCache
