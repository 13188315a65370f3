import MyApiSpec.Base.Machine
import MyApiSpec.Base.Script
import MyApiSpec.UserCache.Scripts

/-!
# Calls on the cached user

`model/user_auth_cache.go:78–107, 300–322, 385–446`, `model/user_cache.go:102–182, 243–308`: increments of the
authentication version, publications, cache fills, field updates, quota projections and readers. Scripts and
statements are atomic; between any two of them other calls may act, time may pass, and a call may stop for good.
A statement may fail, or take effect without an answer. `RefreshUserGroupCache` repeats the update of one field;
each repetition is a call of its own.
-/

namespace MyApiSpec.UserCache

open Base

/-- The clock, Redis, the committed authentication version, and the version that an open transaction has
written over it: the row stays locked until the transaction ends. -/
structure World where
  now : Int := 0
  redis : Redis := {}
  version : Int
  uncommitted : Option Int := none
  deriving DecidableEq, Repr

/-- What a call reports instead of a result. -/
inductive Error where
  | pending
  | other
  deriving DecidableEq, Repr

/-- What a write of a snapshot is made for: a caller that ignores its result, or a reader that started when the
committed version was `started` and returns `user`. -/
inductive After where
  | finish
  | answer (started : Int) (user : UserBase)
  deriving DecidableEq, Repr

/-- The columns of the user's row that change without its version. -/
structure Columns where
  profile : Profile := {}
  quota : Int := 0
  quotaVersion : Int := 0
  deriving DecidableEq, Repr

/-- Where a call stands. -/
inductive Phase where
  | surroundings
  | incrementing (tries : Nat)
  | fencing (tries : Nat) (stored : Int)
  | updating (tries : Nat) (stored : Int)
  | deciding (next : Int)
  | decided (next : Int)
  | promoting (next : Int)
  | loading (includeQuota : Bool) (token : String)
  | stamping (after : After) (w : Write)
  | writing (after : After) (w : Write)
  | hydrating (p : Projection)
  | adjusting (delta : Int) (reserve : Bool) (epoch : Int)
  | refreshing (field : Field)
  | setting (field : Field) (version : Int)
  | probing (started : Int)
  | comparing (started : Int) (cached : UserBase) (readAt : Int)
  | measuring (started : Int) (cached : UserBase) (readAt : Int)
  | discarding (started : Int)
  | falling (started : Int)
  | flooring (started : Int) (user : UserBase)
  | answered (started : Int) (result : Except Error UserBase)
  | finished
  deriving DecidableEq

/-- What is called. -/
inductive Job where
  | surroundings
  | increment
  | fill (includeQuota : Bool) (token : String)
  | hydrate (p : Projection)
  | adjust (delta : Int) (reserve : Bool) (epoch : Int)
  | refresh (field : Field)
  | read
  deriving DecidableEq, Repr

/-- What happens around the calls. -/
inductive Event where
  | elapse (milliseconds : Nat)
  | setEpoch (epoch : Option Int)
  | setOwner (owner : Option String)
  | invalidate
  deriving DecidableEq, Repr

/-- What a caller does behind the commit of its increment. -/
inductive Publication where
  | refresh
  | promote
  | nothing
  deriving DecidableEq, Repr

/-- What an action does not control. -/
structure Choice where
  outcome : StatementOutcome := .answered
  event : Event := .elapse 0
  commits : Bool := true
  publication : Publication := .nothing
  columns : Columns := {}
  writerEpoch : Int := 1
  deriving DecidableEq, Repr

/-- The user's row as a snapshot. -/
def World.snapshot (s : Settings) (w : World) (c : Columns) : UserBase where
  id := s.userID
  profile := c.profile
  quota := c.quota
  authVersion := w.version
  quotaVersion := c.quotaVersion

/-- `getUserAuthVersionFloor`. -/
def World.floor (w : World) : Int := max (max 0 (w.redis.pending w.now)) w.redis.floor

/-- A script, which takes effect unless it fails. -/
def World.script (w : World) (c : Choice) (f : Redis → Redis) : World :=
  if c.outcome = .failed then w else { w with redis := f w.redis }

/-- What the caller of a write does with its result. -/
def After.resume : After → Option Error → Phase
  | .finish, _ => .finished
  | .answer started _, some .pending => .answered started (.error .pending)
  | .answer started user, _ => .answered started (.ok user)

/-- The result of the script of a write. -/
def writeError (c : Choice) (result : Except Refusal Unit) : Option Error :=
  match c.outcome, result with
  | .answered, .ok _ => none
  | .answered, .error .pending => some .pending
  | _, _ => some .other

/-- The checks of `writeUserCacheWithQuotaBalanceOwner` before the script. -/
def writable (w : Write) : Prop :=
  0 < w.user.authVersion ∧ (w.includeQuota = true → quotaInRange w.user.quota ∧ 0 ≤ w.user.quotaVersion)

instance (w : Write) : Decidable (writable w) := inferInstanceAs (Decidable (_ ∧ (_ → _)))

/-- The version that an increment writes over `stored`. -/
def nextVersion (stored : Int) : Int := (if stored < 1 then 1 else stored) + 1

/-- The conditions under which a cached hash is used. -/
def usable (s : Settings) (u : UserBase) : Prop :=
  u.id = s.userID ∧ u.cacheSchema = userCacheSchemaVersion ∧ 0 < u.authVersion ∧ 0 < u.quotaWriterEpoch ∧
    quotaInRange u.quota

instance (s : Settings) (u : UserBase) : Decidable (usable s u) := inferInstanceAs (Decidable (_ ∧ _ ∧ _ ∧ _ ∧ _))

/-! ### Increments -/

/-- `IncrementUserAuthVersionWithTx` reads the row. -/
def stepIncrementing (w : World) (c : Choice) (tries : Nat) : Phase :=
  if tries = 0 ∨ c.outcome ≠ .answered ∨ (if w.version < 1 then 1 else w.version) = 2 ^ 63 - 1 then .finished
  else .fencing (tries - 1) w.version

/-- The update of the row under the version that was read. -/
def stepUpdating (w : World) (c : Choice) (tries : Nat) (stored : Int) : Option (World × Phase) :=
  if w.uncommitted ≠ none then none
  else if c.outcome ≠ .answered then some (w, .finished)
  else if w.version = stored then
    some ({ w with uncommitted := some (nextVersion stored) }, .deciding (nextVersion stored))
  else some (w, .incrementing tries)

/-- The end of the transaction; the answer to a commit may be lost. -/
def stepDeciding (w : World) (c : Choice) (next : Int) : Option (World × Phase) :=
  if w.uncommitted ≠ some next then none
  else if c.commits = true then
    some ({ w with version := next, uncommitted := none },
      if c.outcome = .answered then .decided next else .finished)
  else some ({ w with uncommitted := none }, .finished)

/-- What follows a commit. -/
def stepDecided (c : Choice) (next : Int) : Phase :=
  match c.publication with
  | .refresh => .loading false ""
  | .promote => .promoting next
  | .nothing => .finished

/-! ### Readers -/

/-- `cacheGetUserBase` reads the hash. -/
def stepProbing (s : Settings) (w : World) (c : Choice) (started : Int) : Phase :=
  match c.outcome, live w.redis.hash w.now with
  | .answered, some h => if usable s h.value then .comparing started h.value w.now else .falling started
  | _, _ => .falling started

/-- It compares the writer epoch, -/
def stepComparing (w : World) (c : Choice) (started : Int) (cached : UserBase) (readAt : Int) : Phase :=
  if c.outcome = .answered ∧ w.redis.epoch = some cached.quotaWriterEpoch then .measuring started cached readAt
  else .discarding started

/-- and the version floors. -/
def stepMeasuring (w : World) (c : Choice) (started : Int) (cached : UserBase) : Phase :=
  if c.outcome = .answered ∧ w.floor ≤ cached.authVersion then .answered started (.ok cached)
  else .falling started

/-- `GetUserCache` falls back to the database. -/
def stepFalling (s : Settings) (w : World) (c : Choice) (started : Int) : Phase :=
  if c.outcome = .answered then .flooring started (w.snapshot s c.columns)
  else .answered started (.error .other)

/-- A floor above the database is an error; floors that cannot be read are ignored. -/
def stepFlooring (w : World) (c : Choice) (started : Int) (user : UserBase) : Phase :=
  if c.outcome = .answered ∧ user.authVersion < w.floor then .answered started (.error .pending)
  else .stamping (.answer started user) { user := user, includeQuota := true }

/-! ### Actions -/

/-- `GetQuotaWriterEpochState` and the checks before the script. -/
def stepStamping (c : Choice) (after : After) (wr : Write) : Phase :=
  let stamped := { wr with user := { wr.user with quotaWriterEpoch := c.writerEpoch } }
  if c.outcome = .answered ∧ writable stamped then .writing after stamped else after.resume (some .other)

/-- What happens around the calls. -/
def stepEvent (w : World) : Event → World
  | .elapse d => { w with now := w.now + d }
  | .setEpoch e => { w with redis := { w.redis with epoch := e } }
  | .setOwner o => { w with redis := { w.redis with owner := o } }
  | .invalidate => { w with redis := { w.redis with hash := none } }

/-- The next action of a call. -/
def stepCall (s : Settings) (w : World) : Phase → Choice → Option (World × Phase)
  | .surroundings, c => some (stepEvent w c.event, .surroundings)
  | .incrementing tries, c => some (w, stepIncrementing w c tries)
  | .fencing tries stored, c =>
    some (w.script c (fenceScript s w.now (nextVersion stored)),
      if c.outcome = .answered then .updating tries stored else .finished)
  | .updating tries stored, c => stepUpdating w c tries stored
  | .deciding next, c => stepDeciding w c next
  | .decided next, c => some (w, stepDecided c next)
  | .promoting next, c => some (w.script c (promoteScript w.now next), .finished)
  | .loading includeQuota token, c =>
    some (w, if c.outcome = .answered then .stamping .finish ⟨w.snapshot s c.columns, includeQuota, token⟩
      else .finished)
  | .stamping after wr, c => some (w, stepStamping c after wr)
  | .writing after wr, c =>
    some (w.script c (fun r => (writeScript s w.now wr r).1),
      after.resume (writeError c (writeScript s w.now wr w.redis).2))
  | .hydrating p, c => some (w.script c (hydrateScript s w.now p), .finished)
  | .adjusting delta reserve epoch, c => some (w.script c (quotaScript s w.now delta reserve epoch), .finished)
  | .refreshing field, c =>
    some (w, if c.outcome = .answered ∧ 0 < w.version then .setting field w.version else .finished)
  | .setting field version, c => some (w.script c (fieldScript s w.now field version), .finished)
  | .probing started, c => some (w, stepProbing s w c started)
  | .comparing started cached readAt, c => some (w, stepComparing w c started cached readAt)
  | .measuring started cached _, c => some (w, stepMeasuring w c started cached)
  | .discarding started, c => some (w.script c (fun r => { r with hash := none }), .falling started)
  | .falling started, c => some (w, stepFalling s w c started)
  | .flooring started user, c => some (w, stepFlooring w c started user)
  | .answered .., _ => none
  | .finished, _ => none

/-- The first state of a call; a reader notes the committed version at its start. -/
def startCall (w : World) : Job → Phase
  | .surroundings => .surroundings
  | .increment => .incrementing 3
  | .fill includeQuota token => .loading includeQuota token
  | .hydrate p => .hydrating p
  | .adjust delta reserve epoch => .adjusting delta reserve epoch
  | .refresh field => .refreshing field
  | .read => .probing w.version

/-- The calls on one user. -/
def machine (s : Settings) : Machine World Phase Choice Job where
  start job w := some (w, startCall w job)
  act w phase c := stepCall s w phase c

end MyApiSpec.UserCache
