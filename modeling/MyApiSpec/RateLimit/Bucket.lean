import Mathlib.Data.Rat.Floor
import MyApiSpec.Base.Expiring
import MyApiSpec.Base.Outcome

/-!
# The token bucket

`common/limiter/limiter.go:30–85` and `common/limiter/lua/rate_limit.lua`: a bucket of tokens under one Redis
key. A call refills the bucket by the seconds since the last one, takes what it requests when that is there,
and lets the key expire when the bucket would be full again. Arithmetic is exact: the script divides rationals,
and stores integers only, so that its tests for fractions never fail.
-/

namespace MyApiSpec.RateLimit

open Base List

/-- `MaxExactInteger`, and `max_safe_ttl_seconds` of the script. -/
def maxExactInteger : Int := 2 ^ 53 - 1

/-- `Config`, with the defaults of `Allow`. -/
structure Config where
  capacity : Int := 10
  rate : Int := 1
  requested : Int := 1
  deriving DecidableEq, Repr

/-- `ValidateConfig`. -/
def validateConfig (c : Config) : Except String Unit := do
  check (0 < c.capacity ∧ 0 < c.rate ∧ 0 < c.requested)
    "rate limit failed: capacity, rate, and requested must be positive"
  check (c.requested ≤ c.capacity) "rate limit failed: requested must not exceed capacity"
  check (c.capacity ≤ maxExactInteger ∧ c.rate ≤ maxExactInteger ∧ c.requested ≤ maxExactInteger)
    "rate limit failed: capacity, rate, and requested must not exceed 9007199254740991"

/-- A moment of the server's clock, which counts microseconds in an int64. Keys expire by milliseconds. -/
structure Moment where
  millis : Int
  nonneg : 0 ≤ millis
  bounded : 1000 * millis < 2 ^ 63
  deriving DecidableEq, Repr

/-- `nowInSeconds`. -/
def Moment.seconds (t : Moment) : Int := t.millis / 1000

/-- The hash behind the key. -/
structure Bucket where
  tokens : Int
  lastTime : Int
  deriving DecidableEq, Repr

/-- What the script demands of its arguments. -/
def Config.Accepted (c : Config) : Prop :=
  0 < c.requested ∧ 0 < c.rate ∧ 0 < c.capacity ∧ c.requested ≤ c.capacity ∧
    c.requested ≤ maxExactInteger ∧ c.rate ≤ maxExactInteger ∧ c.capacity ≤ maxExactInteger

/-- What the script demands of a stored bucket. -/
def Bucket.Accepted (b : Bucket) (c : Config) (now : Int) : Prop :=
  0 ≤ b.tokens ∧ b.tokens ≤ c.capacity ∧ b.tokens ≤ maxExactInteger ∧
    0 ≤ b.lastTime ∧ b.lastTime ≤ now ∧ b.lastTime ≤ maxExactInteger

instance (c : Config) : Decidable c.Accepted := inferInstanceAs (Decidable (_ ∧ _))

instance (b : Bucket) (c : Config) (now : Int) : Decidable (b.Accepted c now) :=
  inferInstanceAs (Decidable (_ ∧ _))

/-- The tokens of a stored bucket at a later second. -/
def Bucket.refill (b : Bucket) (c : Config) (now : Int) : Int :=
  if ((c.capacity - b.tokens : Int) : ℚ) / c.rate < (now - b.lastTime : Int) then c.capacity
  else b.tokens + (now - b.lastTime) * c.rate

/-- `ttl`: the seconds until the bucket is full. -/
def Config.ttl (c : Config) (tokens : Int) : Int := max 1 ⌈((c.capacity - tokens : Int) : ℚ) / c.rate⌉

/-- The tokens that the script finds: a missing bucket is full, and a stored one is checked and refilled. -/
def available (c : Config) (t : Moment) (key : Option (Expiring Bucket)) : Except String Int :=
  match live key t.millis with
  | none => .ok c.capacity
  | some e => do
    check (e.value.Accepted c t.seconds) "ERR invalid rate limit bucket state"
    return e.value.refill c t.seconds

/-- The script: the bucket it stores and whether the request is allowed. An error stores nothing. -/
def script (c : Config) (t : Moment) (key : Option (Expiring Bucket)) :
    Except String (Expiring Bucket × Bool) := do
  check c.Accepted "ERR invalid rate limit config"
  let tokens ← available c t key
  let allowed := decide (c.requested ≤ tokens)
  let tokens := if allowed then tokens - c.requested else tokens
  return (⟨⟨tokens, t.seconds⟩, some (t.millis + 1000 * c.ttl tokens)⟩, allowed)

/-- `Allow` of a limiter with a client: the key behind the call and what it returns. -/
def allow (c : Config) (t : Moment) (key : Option (Expiring Bucket)) :
    Option (Expiring Bucket) × Except String Bool :=
  match validateConfig c with
  | .error e => (key, .error e)
  | .ok _ =>
    match script c t key with
    | .error e => (key, .error ("rate limit failed: " ++ e))
    | .ok (e, allowed) => (some e, .ok allowed)

/-! ### Sequences of calls -/

/-- A call of `Allow`. -/
structure Call where
  time : Moment
  config : Config
  deriving DecidableEq, Repr

/-- A call that was served: the key that it found and what it returned. -/
structure Served where
  call : Call
  before : Option (Expiring Bucket)
  outcome : Except String Bool

/-- Calls one after the other; `store` says what is kept of the key that a call leaves. -/
def serve (store : Option (Expiring Bucket) → Option (Expiring Bucket)) :
    Option (Expiring Bucket) → List Call → List Served
  | _, [] => []
  | key, call :: calls =>
    ⟨call, key, (allow call.config call.time key).2⟩ ::
      serve store (store (allow call.config call.time key).1) calls

/-- The key without its expiry. -/
def persisted (key : Option (Expiring Bucket)) : Option (Expiring Bucket) :=
  key.map fun e => { e with expiresAt := none }

/-- The tokens that the call took. -/
def Served.granted (s : Served) : Int :=
  match s.outcome with
  | .ok true => s.call.config.requested
  | _ => 0

/-- The tokens granted in an interval of whole seconds. -/
def grantedWithin (start : Int) (seconds : Nat) (l : List Served) : Int :=
  ((l.filter fun s => start ≤ s.call.time.millis && s.call.time.millis < start + 1000 * seconds).map
    Served.granted).sum

/-- Calls under one configuration. -/
def constantly (c : Config) (times : List Moment) : List Call := times.map fun t => ⟨t, c⟩

/-! ### One call -/

section Step

variable {c : Config} {t : Moment} {key : Option (Expiring Bucket)}

theorem validateConfig_ok : validateConfig c = .ok () ↔ c.Accepted := by
  simp only [validateConfig, bind_eq_ok, check_eq_ok, exists_const, Config.Accepted]
  tauto

theorem Moment.seconds_bounds (t : Moment) : 0 ≤ t.seconds ∧ t.seconds ≤ maxExactInteger := by
  have h0 := t.nonneg
  have h1 := t.bounded
  simp only [Moment.seconds, maxExactInteger]
  omega

theorem Moment.seconds_mono {t' : Moment} (h : t.millis ≤ t'.millis) : t.seconds ≤ t'.seconds := by
  simp only [Moment.seconds]
  omega

/-- The shortcut of the refill caps it at the capacity. -/
theorem Bucket.refill_eq (b : Bucket) (now : Int) (hc : c.Accepted) :
    b.refill c now = min c.capacity (b.tokens + (now - b.lastTime) * c.rate) := by
  have hrate : (0 : ℚ) < c.rate := by exact_mod_cast hc.2.1
  have hiff : ((c.capacity - b.tokens : Int) : ℚ) / c.rate < (now - b.lastTime : Int) ↔
      c.capacity - b.tokens < (now - b.lastTime) * c.rate := by
    rw [div_lt_iff₀ hrate]
    exact_mod_cast Iff.rfl
  simp only [Bucket.refill, hiff]
  split <;> omega

/-- In the time to live the missing tokens are refilled. -/
theorem Config.missing_le_ttl (hc : c.Accepted) (tokens : Int) : c.capacity - tokens ≤ c.ttl tokens * c.rate := by
  have hrate : (0 : ℚ) < c.rate := by exact_mod_cast hc.2.1
  have hceil : ((c.capacity - tokens : Int) : ℚ) / c.rate ≤ (c.ttl tokens : Int) :=
    (Int.le_ceil _).trans (Int.cast_le.mpr (le_max_right _ _))
  rw [div_le_iff₀ hrate] at hceil
  exact_mod_cast hceil

/-- What the calls keep of the key: the bucket was stored at most now with a number of tokens. -/
def Stored (now : Int) (key : Option (Expiring Bucket)) : Prop :=
  ∀ e ∈ key, 0 ≤ e.value.tokens ∧ e.value.tokens ≤ maxExactInteger ∧ 0 ≤ e.value.lastTime ∧ e.value.lastTime ≤ now

/-- The tokens that a call finds. -/
def level (c : Config) (t : Moment) (key : Option (Expiring Bucket)) : Int :=
  match live key t.millis with
  | none => c.capacity
  | some e => e.value.refill c t.seconds

/-- The tokens that a call leaves. -/
def rest (c : Config) (t : Moment) (key : Option (Expiring Bucket)) : Int :=
  if c.requested ≤ level c t key then level c t key - c.requested else level c t key

/-- The bucket that a call leaves. -/
def left (c : Config) (t : Moment) (key : Option (Expiring Bucket)) : Expiring Bucket :=
  ⟨⟨rest c t key, t.seconds⟩, some (t.millis + 1000 * c.ttl (rest c t key))⟩

section

variable (hc : c.Accepted)
include hc

/-- A call on a bucket within the capacity takes what it requests when that is there. -/
theorem allow_within (hs : Stored t.seconds key)
    (hcap : ∀ e ∈ live key t.millis, e.value.tokens ≤ c.capacity) :
    allow c t key = (some (left c t key), .ok (decide (c.requested ≤ level c t key))) := by
  have havail : available c t key = .ok (level c t key) := by
    unfold available level
    split
    · rfl
    · next e he =>
      obtain ⟨h1, h2, h3, h4⟩ := hs e (live_eq_some.mp he).1
      have hb : e.value.Accepted c t.seconds :=
        ⟨h1, hcap e he, h2, h3, h4, h4.trans t.seconds_bounds.2⟩
      rw [check_pos hb]
      rfl
  simp [allow, validateConfig_ok.mpr hc, script, check_pos hc, havail, left, rest, pure, Except.pure]

/-- A call on a bucket beyond the capacity fails and leaves the key. -/
theorem allow_beyond {e : Expiring Bucket} (he : live key t.millis = some e)
    (hcap : ¬ e.value.tokens ≤ c.capacity) :
    allow c t key = (key, .error "rate limit failed: ERR invalid rate limit bucket state") := by
  have hb : ¬ e.value.Accepted c t.seconds := fun h => hcap h.2.1
  simp only [allow, validateConfig_ok.mpr hc, script, available, check_pos hc, ok_bind, he, check_neg hb,
    error_bind]
  rfl

section

variable (hs : Stored t.seconds key)
include hs

theorem level_bounds :
    0 ≤ level c t key ∧ level c t key ≤ c.capacity := by
  have hrate := hc.2.1
  have hpos := hc.2.2.1
  unfold level
  split
  · omega
  · next e he =>
    obtain ⟨h1, -, -, h4⟩ := hs e (live_eq_some.mp he).1
    have hprod : 0 ≤ (t.seconds - e.value.lastTime) * c.rate := Int.mul_nonneg (by omega) (by omega)
    rw [Bucket.refill_eq _ _ hc]
    omega

theorem rest_bounds :
    0 ≤ rest c t key ∧ rest c t key ≤ c.capacity := by
  have hl := level_bounds hc hs
  have hr := hc.1
  unfold rest
  split <;> omega

theorem stored_left {t' : Moment} (h : t.millis ≤ t'.millis) :
    Stored t'.seconds (some (left c t key)) := by
  rintro _ ⟨⟩
  have hr := rest_bounds hc hs
  have hmax := hc.2.2.2.2.2.2
  exact ⟨hr.1, hr.2.trans hmax, t.seconds_bounds.1, Moment.seconds_mono h⟩

end

end

end Step

/-! ### Changing configurations -/

theorem serve_decided_iff {calls : List Call} (hv : ∀ call ∈ calls, validateConfig call.config = .ok ())
    (hsorted : calls.Pairwise fun a b => a.time.millis ≤ b.time.millis) :
    ∀ {key : Option (Expiring Bucket)}, (∀ call ∈ calls, Stored call.time.seconds key) →
      ∀ s ∈ serve id key calls, (∃ allowed, s.outcome = .ok allowed) ↔
        ∀ e ∈ live s.before s.call.time.millis, e.value.tokens ≤ s.call.config.capacity := by
  induction calls with
  | nil => exact fun _ s hs => by cases hs
  | cons call calls ih =>
    intro key hkey s hs
    have hc := validateConfig_ok.mp (hv call (by simp))
    have hstored := hkey call (by simp)
    obtain ⟨hfirst, hrest⟩ := pairwise_cons.mp hsorted
    by_cases hcap : ∀ e ∈ live key call.time.millis, e.value.tokens ≤ call.config.capacity
    · have hallow := allow_within hc hstored hcap
      rcases mem_cons.mp hs with rfl | hs
      · simp only [hallow]
        exact ⟨fun _ => hcap, fun _ => ⟨_, rfl⟩⟩
      · rw [hallow] at hs
        exact ih (fun x hx => hv x (by simp [hx])) hrest (fun x hx => stored_left hc hstored (hfirst x hx)) s hs
    · obtain ⟨e, he, hbeyond⟩ : ∃ e, live key call.time.millis = some e ∧
          ¬ e.value.tokens ≤ call.config.capacity := by simpa using hcap
      have hallow := allow_beyond hc he hbeyond
      rcases mem_cons.mp hs with rfl | hs
      · simp only [hallow]
        constructor
        · rintro ⟨_, ⟨⟩⟩
        · exact fun h => absurd (h e he) hbeyond
      · rw [hallow] at hs
        exact ih (fun x hx => hv x (by simp [hx])) hrest (fun x hx => hkey x (by simp [hx])) s hs

/-- A call under a valid configuration returns a decision exactly when the bucket it finds holds no more than
the capacity of the call. -/
theorem limit_change_decided_iff {calls : List Call} (hv : ∀ call ∈ calls, validateConfig call.config = .ok ())
    (hsorted : calls.Pairwise fun a b => a.time.millis ≤ b.time.millis) :
    ∀ s ∈ serve id none calls, (∃ allowed, s.outcome = .ok allowed) ↔
      ∀ e ∈ live s.before s.call.time.millis, e.value.tokens ≤ s.call.config.capacity :=
  serve_decided_iff hv hsorted fun _ _ e he => by cases he

/-- Ten requests a minute, lowered to five behind the first one. -/
def loweredCalls : List Call :=
  [⟨⟨0, by decide, by decide⟩, ⟨600, 10, 60⟩⟩, ⟨⟨1000, by decide, by decide⟩, ⟨300, 5, 60⟩⟩]

theorem loweredCalls_valid : (∀ call ∈ loweredCalls, validateConfig call.config = .ok ()) ∧
    loweredCalls.Pairwise fun a b => a.time.millis ≤ b.time.millis := by
  decide

theorem limit_change_decided_iff_loweredCalls :
    loweredCalls.length = 2 ∧ ∀ s ∈ serve id none loweredCalls, (∃ allowed, s.outcome = .ok allowed) ↔
      ∀ e ∈ live s.before s.call.time.millis, e.value.tokens ≤ s.call.config.capacity :=
  ⟨rfl, limit_change_decided_iff loweredCalls_valid.1 loweredCalls_valid.2⟩

/-- Behind the first call the bucket holds 540 tokens; the second call, with a capacity of 300, fails. -/
theorem lowered_limit_fails :
    (∀ call ∈ loweredCalls, validateConfig call.config = .ok ()) ∧
      loweredCalls.Pairwise (fun a b => a.time.millis ≤ b.time.millis) ∧
      (serve id none loweredCalls).map Served.outcome =
        [.ok true, .error "rate limit failed: ERR invalid rate limit bucket state"] := by
  refine ⟨loweredCalls_valid.1, loweredCalls_valid.2, ?_⟩
  decide +kernel

/-! ### One configuration -/

section Constant

variable {c : Config} {t : Moment} {key : Option (Expiring Bucket)} {e : Expiring Bucket}

/-- The key was stored under the configuration, and expires when its bucket is full again. -/
def Timely (c : Config) (key : Option (Expiring Bucket)) : Prop :=
  ∀ e ∈ key, e.value.tokens ≤ c.capacity ∧
    ∀ expiry ∈ e.expiresAt, 1000 * (e.value.lastTime + c.ttl e.value.tokens) ≤ expiry

/-- A bucket that expired was full. -/
theorem level_stored (hc : c.Accepted) (ht : Timely c (some e)) :
    level c t (some e) = min c.capacity (e.value.tokens + (t.seconds - e.value.lastTime) * c.rate) := by
  unfold level
  split
  · next hlive =>
    obtain ⟨expiry, hexp, hpassed⟩ : ∃ expiry, e.expiresAt = some expiry ∧ expiry ≤ t.millis := by
      cases hexp : e.expiresAt <;> simp_all [live, Expiring.alive]
    have hfull : e.value.lastTime + c.ttl e.value.tokens ≤ t.seconds := by
      have htime := (ht e rfl).2 expiry hexp
      simp only [Moment.seconds]
      omega
    have hmissing := Config.missing_le_ttl hc e.value.tokens
    have hmono : c.ttl e.value.tokens * c.rate ≤ (t.seconds - e.value.lastTime) * c.rate :=
      Int.mul_le_mul_of_nonneg_right (by omega) hc.2.1.le
    omega
  · next e' hlive =>
    cases (live_eq_some.mp hlive).1
    exact Bucket.refill_eq _ _ hc

/-- Calls at these times may follow on the key. -/
structure Ready (c : Config) (key : Option (Expiring Bucket)) (times : List Moment) : Prop where
  config : c.Accepted
  sorted : times.Pairwise fun a b => a.millis ≤ b.millis
  stored : ∀ t ∈ times, Stored t.seconds key
  timely : Timely c key

variable {times : List Moment}

theorem Ready.allow (h : Ready c key (t :: times)) :
    allow c t key = (some (left c t key), .ok (decide (c.requested ≤ level c t key))) :=
  allow_within h.config (h.stored t (by simp)) fun e he => (h.timely e (live_eq_some.mp he).1).1

theorem Ready.next (h : Ready c key (t :: times)) : Ready c (some (left c t key)) times := by
  have hstored := h.stored t (by simp)
  obtain ⟨hfirst, hrest⟩ := pairwise_cons.mp h.sorted
  refine ⟨h.config, hrest, fun x hx => stored_left h.config hstored (hfirst x hx), ?_⟩
  rintro _ ⟨⟩
  refine ⟨(rest_bounds h.config hstored).2, ?_⟩
  rintro _ ⟨⟩
  simp only [left, Moment.seconds]
  omega

section

variable (h : Ready c key times)
include h

theorem Ready.persisted : Ready c (persisted key) times := by
  refine ⟨h.config, h.sorted, fun t ht e he => ?_, fun e he => ?_⟩
  all_goals obtain ⟨e', he', rfl⟩ := Option.map_eq_some_iff.mp he
  · exact h.stored t ht e' he'
  · exact ⟨(h.timely e' he').1, fun _ hx => by cases hx⟩

/-- A call finds the same number of tokens whether or not the key expires. -/
theorem Ready.level_persisted : level c t (RateLimit.persisted key) = level c t key := by
  cases key with
  | none => rfl
  | some e =>
    rw [level_stored h.config h.timely]
    exact level_stored h.config h.persisted.timely

/-- Every call under one configuration decides, from a bucket within it. -/
theorem Ready.serve : ∀ s ∈ serve id key (constantly c times),
    Stored s.call.time.seconds s.before ∧ Timely c s.before ∧ ∃ allowed, s.outcome = .ok allowed := by
  induction times generalizing key with
  | nil => exact fun s hs => by cases hs
  | cons t times ih =>
    intro s hs
    rcases mem_cons.mp hs with rfl | hs
    · exact ⟨h.stored t (by simp), h.timely, by simp only [h.allow]; exact ⟨_, rfl⟩⟩
    · rw [h.allow] at hs
      exact ih h.next s hs

/-- The calls decide as on a key that never expires. -/
theorem Ready.serve_persisted :
    (RateLimit.serve id key (constantly c times)).map Served.outcome =
      (RateLimit.serve RateLimit.persisted (RateLimit.persisted key) (constantly c times)).map Served.outcome := by
  induction times generalizing key with
  | nil => rfl
  | cons t times ih =>
    have hlevel : level c t (RateLimit.persisted key) = level c t key := h.level_persisted
    have hleft : left c t (RateLimit.persisted key) = left c t key := by simp only [left, rest, hlevel]
    have hnext := ih h.next
    simp only [constantly, map_cons, RateLimit.serve, h.allow, h.persisted.allow, hlevel, hleft] at hnext ⊢
    exact congrArg _ hnext

end

theorem grantedWithin_cons (start : Int) (seconds : Nat) (s : Served) (l : List Served) :
    grantedWithin start seconds (s :: l) =
      (if start ≤ s.call.time.millis ∧ s.call.time.millis < start + 1000 * seconds then s.granted else 0) +
        grantedWithin start seconds l := by
  by_cases h : start ≤ s.call.time.millis ∧ s.call.time.millis < start + 1000 * seconds
  · simp [grantedWithin, h]
  · simp [grantedWithin, h]

/-- A call of the interval takes the difference between the tokens it finds and those it leaves. -/
theorem Ready.granted (h : Ready c key (t :: times)) (start : Int) (seconds : Nat) :
    grantedWithin start seconds (RateLimit.serve id key (constantly c (t :: times))) =
      (if start ≤ t.millis ∧ t.millis < start + 1000 * seconds then level c t key - rest c t key else 0) +
        grantedWithin start seconds (RateLimit.serve id (some (left c t key)) (constantly c times)) := by
  have hgranted : Served.granted ⟨⟨t, c⟩, key, (RateLimit.allow c t key).2⟩ = level c t key - rest c t key := by
    rw [h.allow]
    by_cases hless : c.requested ≤ level c t key
    · simp [Served.granted, rest, hless]
    · simp [Served.granted, rest, hless]
  rw [constantly, map_cons, RateLimit.serve, grantedWithin_cons, hgranted, h.allow]
  rfl

/-- What a stored bucket can still give until a second. -/
def Config.potential (c : Config) (e : Expiring Bucket) (finish : Int) : Int :=
  if e.value.lastTime ≤ finish then e.value.tokens + c.rate * (finish - e.value.lastTime) else 0

theorem Config.potential_nonneg (hc : c.Accepted) (h : 0 ≤ e.value.tokens) (finish : Int) :
    0 ≤ c.potential e finish := by
  unfold Config.potential
  split
  · exact Int.add_nonneg h (Int.mul_nonneg hc.2.1.le (by omega))
  · exact le_refl _

theorem Config.potential_left (finish : Int) : c.potential (left c t key) finish =
    if t.seconds ≤ finish then rest c t key + c.rate * (finish - t.seconds) else 0 := rfl

theorem Ready.granted_stored (h : Ready c (some e) times) (htokens : 0 ≤ e.value.tokens)
    (start : Int) (seconds : Nat) :
    grantedWithin start seconds (RateLimit.serve id (some e) (constantly c times)) ≤
      c.potential e (start / 1000 + seconds) := by
  induction times generalizing e with
  | nil => exact Config.potential_nonneg h.config htokens _
  | cons t times ih =>
    have hstored := h.stored t (by simp)
    have hlast : e.value.lastTime ≤ t.seconds := (hstored e rfl).2.2.2
    have hbound := ih h.next (rest_bounds h.config hstored).1
    rw [h.granted]
    rw [Config.potential_left] at hbound
    by_cases hlate : t.seconds ≤ start / 1000 + seconds
    · have hlevel : level c t (some e) ≤ e.value.tokens + (t.seconds - e.value.lastTime) * c.rate :=
        level_stored h.config h.timely ▸ min_le_right _ _
      have hsplit : c.rate * (start / 1000 + seconds - e.value.lastTime) =
          c.rate * (start / 1000 + seconds - t.seconds) + (t.seconds - e.value.lastTime) * c.rate := by ring
      have htaken : rest c t (some e) ≤ level c t (some e) := by
        have hr := h.config.1
        unfold rest
        split <;> omega
      rw [Config.potential, if_pos (hlast.trans hlate)]
      split <;> omega
    · have hnonneg := Config.potential_nonneg h.config htokens (start / 1000 + seconds)
      rw [if_neg (by simp only [Moment.seconds] at hlate; omega)]
      omega

theorem Ready.granted_le (h : Ready c key times) (start : Int) (seconds : Nat) :
    grantedWithin start seconds (RateLimit.serve id key (constantly c times)) ≤ c.capacity + c.rate * seconds := by
  have hrate := h.config.2.1.le
  induction times generalizing key with
  | nil => exact Int.add_nonneg h.config.2.2.1.le (Int.mul_nonneg hrate (by omega))
  | cons t times ih =>
    have hstored := h.stored t (by simp)
    rw [h.granted]
    split
    · next hin =>
      -- the first call of the interval finds at most a full bucket
      have hbound := h.next.granted_stored (rest_bounds h.config hstored).1 start seconds
      have hlevel := (level_bounds h.config hstored).2
      have hfrom : start / 1000 ≤ t.seconds ∧ t.seconds ≤ start / 1000 + seconds := by
        simp only [Moment.seconds]
        omega
      have hshort : c.rate * (start / 1000 + seconds - t.seconds) ≤ c.rate * seconds :=
        Int.mul_le_mul_of_nonneg_left (by omega) hrate
      rw [Config.potential_left, if_pos hfrom.2] at hbound
      omega
    · have hbound := ih h.next
      omega

/-- What the expiry of the key leaves as it would be without: in any interval of whole seconds the calls take no
more than a full bucket and the refill, the stored buckets are valid, every call decides, and it decides as on
a key that never expires. -/
structure Unaffected (c : Config) (times : List Moment) : Prop where
  bound : ∀ (start : Int) (seconds : Nat),
    grantedWithin start seconds (serve id none (constantly c times)) ≤ c.capacity + c.rate * (seconds + 1)
  stored : ∀ s ∈ serve id none (constantly c times), ∀ e ∈ s.before, 0 ≤ e.value.tokens ∧
    e.value.tokens ≤ c.capacity ∧ e.value.lastTime ≤ s.call.time.seconds
  decided : ∀ s ∈ serve id none (constantly c times), ∃ allowed, s.outcome = .ok allowed
  same : (serve id none (constantly c times)).map Served.outcome =
    (serve persisted none (constantly c times)).map Served.outcome

theorem expiry_never_grants (hv : validateConfig c = .ok ()) {times : List Moment}
    (hsorted : times.Pairwise fun a b => a.millis ≤ b.millis) : Unaffected c times := by
  have h : Ready c none times :=
    ⟨validateConfig_ok.mp hv, hsorted, fun _ _ _ he => (by cases he), fun _ he => (by cases he)⟩
  refine ⟨fun start seconds => ?_, fun s hs e he => ?_, fun s hs => (h.serve s hs).2.2, h.serve_persisted⟩
  · have hbound := h.granted_le start seconds
    have hrate := h.config.2.1
    rw [Int.mul_add, Int.mul_one]
    omega
  · obtain ⟨hs, ht, -⟩ := h.serve s hs
    exact ⟨(hs e he).1, (ht e he).1, (hs e he).2.2.2⟩

/-- Three calls within a second, and one behind the expiry of the key. -/
def burst : List Moment :=
  [⟨900, by decide, by decide⟩, ⟨950, by decide, by decide⟩, ⟨1100, by decide, by decide⟩,
    ⟨7000, by decide, by decide⟩]

theorem expiry_never_grants_burst :
    (serve id none (constantly ⟨2, 1, 1⟩ burst)).map Served.outcome = [.ok true, .ok true, .ok true, .ok true] ∧
      Unaffected ⟨2, 1, 1⟩ burst :=
  ⟨by decide +kernel, expiry_never_grants (by decide) (by decide)⟩

/-- A call is allowed when the refill since the call before it covers what it requests, whatever was taken before. -/
theorem spaced_call_allowed (hv : validateConfig c = .ok ()) {earlier later : List Moment} {t t' : Moment}
    (hsorted : (earlier ++ t :: t' :: later).Pairwise fun a b => a.millis ≤ b.millis)
    (hpause : c.requested ≤ (t'.seconds - t.seconds) * c.rate) :
    ((serve id none (constantly c (earlier ++ t :: t' :: later))).map Served.outcome)[earlier.length + 1]? =
      some (.ok true) := by
  have h : Ready c none (earlier ++ t :: t' :: later) :=
    ⟨validateConfig_ok.mp hv, hsorted, fun _ _ _ he => (by cases he), fun _ he => (by cases he)⟩
  clear hsorted
  generalize (none : Option (Expiring Bucket)) = key at h
  induction earlier generalizing key with
  | nil =>
    have hlevel : c.requested ≤ level c t' (some (left c t key)) := by
      have hrest := (rest_bounds h.config (h.stored t (by simp))).1
      have hfits := h.config.2.2.2.1
      rw [level_stored h.config h.next.timely]
      simp only [left]
      omega
    have hfirst := h.allow
    have hnext := h.next.allow
    simp [constantly, serve, hfirst, hnext, hlevel]
  | cons first earlier ih =>
    have hfirst := h.allow
    simpa [constantly, serve, hfirst] using ih _ h.next

theorem spaced_call_allowed_burst :
    ((serve id none (constantly ⟨2, 1, 1⟩ burst)).map Served.outcome)[3]? = some (.ok true) :=
  @spaced_call_allowed ⟨2, 1, 1⟩ (by decide) (burst.take 2) [] _ _ (by decide) (by decide)

end Constant

end MyApiSpec.RateLimit
