import Mathlib.Algebra.Order.Group.Int
import MyApiSpec.Session.Calls

/-!
# Revoked sessions stay unusable

A delayed call may write the copy of an active session long after the session was revoked, but only
until the deadline that it took before its read. The deny entry of the revocation therefore has to
outlive every such deadline: then a later lookup finds a deny entry, or no entry and the revoked row.
The deny entry is written before the revocation commits; a read between the two has a deadline behind
its lifetime, and unless the tombstone behind the commit is written in time the session comes back.
-/

namespace MyApiSpec.Session

open Base List Option World Prog

/-! ### Jobs -/

variable {p : Settings}

/-- The calls of the package, and the passage of time. -/
inductive Job where
  | tick
  | get
  | refresh (secret : String)
  | rotate (userID : Int) (presented next : String) (graceSeconds : Int)
  | revoke (userID : Int) (reason : String)
  | logout (presented reason : String)
  | revokeAll (userID : Int) (reason : String) (rounds : Nat)
  | advance (userID expectedVersion expectedAuth nextAuth : Int)
  deriving DecidableEq, Repr

/-- Forget the result of a call. -/
def finish {α : Type} (c : Call α) : Call Unit := do
  let _ ← c
  return ()

/-- The program of a job. -/
def Job.program (p : Settings) : Job → Call Unit
  | .tick => Prog.update fun w env => ({ w with now := w.now + env.elapsed }, ())
  | .get => finish (getUserSessionCached p)
  | .refresh secret => refreshLoginSession p secret
  | .rotate userID presented next graceSeconds => do
    let time ← clock
    finish (rotateUserSessionRefresh p userID presented next (unix time) graceSeconds)
  | .revoke userID reason => revokeUserSession p userID reason
  | .logout presented reason => revokeUserSessionByRefreshHash p presented reason
  | .revokeAll userID reason rounds => revokeUserSessions p userID reason rounds
  | .advance userID expectedVersion expectedAuth nextAuth =>
    advanceUserSessionAuthVersion p userID expectedVersion expectedAuth nextAuth

/-- Every job can be started at any time. -/
def launch (p : Settings) (j : Job) (w : World) : Option (World × Call Unit) := some (w, j.program p)

/-- A system that some interleaving reaches from `w₀`. -/
def Reaches (p : Settings) (w₀ : World) (sys : System World Env Job) : Prop :=
  ∃ events, run (System.step (launch p)) ⟨w₀, [], []⟩ events = some sys

/-! ### The invariant -/

/-- Behind a covered revocation no active copy is stored, and every deadline of an active read is past
or below the lifetime of the stored deny entry. -/
structure World.Denied (w : World) : Prop where
  noActive : ∀ c ∈ w.cache, c.entry.status ≠ .active
  deadlines : ∀ d ∈ w.observations, min d w.expiry ≤ w.now ∨ ∃ c ∈ w.cache, min d w.expiry ≤ c.expireAt

/-- The invariant of the system. -/
structure Inv (p : Settings) (w : World) : Prop where
  deadlines : ∀ d ∈ w.observations, d ≤ w.now + p.cacheTTL * 1000
  denied : w.covered = true → w.row.status ≠ .active → w.Denied
  answers : w.covered = true → ∀ a ∈ w.answers, a.late = true → a.ok = false

/-- What interference and every action respect. -/
structure Later (w w' : World) : Prop where
  now : w.now ≤ w'.now
  expiresAt : w'.row.expiresAt = w.row.expiresAt
  status : w.row.status ≠ .active → w'.row.status ≠ .active
  observations : ∀ d ∈ w.observations, d ∈ w'.observations
  covered : w'.covered = true → w.covered = true

theorem Later.refl (w : World) : Later w w := ⟨le_rfl, rfl, id, fun _ => id, id⟩

theorem Later.trans (a b c : World) (h : Later a b) (h' : Later b c) : Later a c :=
  ⟨h.now.trans h'.now, h'.expiresAt.trans h.expiresAt, fun hs => h'.status (h.status hs),
    fun d hd => h'.observations d (h.observations d hd), fun hc => h.covered (h'.covered hc)⟩

/-- An action that revokes the session behind a fence keeps the record of covered revocations. -/
structure Guarantee (w w' : World) : Prop extends Later w w' where
  flag : w.covered = true → (w.row.status = .active → w'.row.status ≠ .active → w.Fenced) →
    w'.covered = true

theorem Guarantee.refl (w : World) : Guarantee w w := ⟨Later.refl w, fun h _ => h⟩

/-- The judgement about the calls. -/
abbrev Ok (p : Settings) {α : Type} (Q : α → World → Prop) (c : Call α) (w : World) : Prop :=
  Prog.Safe (Inv p) Guarantee Later Q c w

/-- Knowledge that interference does not spoil. -/
def Stable (K : World → Prop) : Prop := ∀ w w', Later w w' → K w → K w'

/-! ### Actions -/

section Actions

variable {w w' : World} {K : World → Prop} {entry : CacheEntry} {d n now : Int}
  {deadline : Option Int} {s : UserSession} {reason : String} {α : Type}

/-- A read returns a value that is described in the state it is read in. -/
theorem read_ok {f : World → Env → α} {Q : α → World → Prop}
    (h : ∀ w', Later w w' → Inv p w' → ∀ e, Q (f w' e) w') : Ok p Q (Prog.read f) w :=
  safe_read Guarantee.refl h

theorem clock_ok (hK : Stable K) (hw : K w) : Ok p (fun n w' => n ≤ w'.now ∧ K w') clock w :=
  read_ok fun w' hl _ _ => ⟨le_rfl, hK w w' hl hw⟩

theorem readRow_ok (hK : Stable K) (hw : K w) :
    Ok p (fun s w' => s.expiresAt = w'.row.expiresAt ∧ K w') readRow w :=
  read_ok fun w' hl _ _ => ⟨rfl, hK w w' hl hw⟩

theorem visible_eq {e : CacheEntry} (h : w.visible = some e) :
    ∃ c ∈ w.cache, w.now < c.expireAt ∧ c.entry = e := by
  obtain ⟨c, hc, he⟩ := map_eq_some_iff.mp h
  obtain ⟨hc, hlt⟩ := filter_eq_some_iff.mp hc
  exact ⟨c, hc, by simpa using hlt, he⟩

/-- What is known of an entry that a call is about to cache. -/
structure EntryOk (entry : CacheEntry) (deadline : Option Int) (w : World) : Prop where
  expiresAt : entry.expiresAt = w.row.expiresAt
  observed : entry.status = .active → ∀ d ∈ deadline, d ∈ w.observations

theorem EntryOk.stable (entry : CacheEntry) (deadline : Option Int) :
    Stable (EntryOk entry deadline) := by
  intro w w' hl h
  exact ⟨h.expiresAt.trans hl.expiresAt.symm, fun ha d hd => hl.observations d (h.observed ha d hd)⟩

theorem Guarantee.cache (w : World) (cache : Option Cached) : Guarantee w { w with cache := cache } :=
  ⟨⟨le_rfl, rfl, id, fun _ => id, id⟩, fun h _ => h⟩

theorem Inv.cache (h : Inv p w) {cache : Option Cached}
    (hd : w.Denied → World.Denied { w with cache := cache }) : Inv p { w with cache := cache } :=
  { h with denied := fun hc hs => hd (h.denied hc hs) }

/-- A deny entry that is written now outlives every deadline. -/
theorem denyEntry_lifetime {t : Int} (hn : n ≤ w.now) (hd : d ≤ w.now + p.cacheTTL * 1000)
    (hexpires : entry.expiresAt = w.row.expiresAt)
    (ht : min (entry.expiresAt * 1000 - n) (p.cacheTTL * 1000) = t) :
    min d w.expiry ≤ w.now ∨ min d w.expiry ≤ w.now + if t ≤ 0 then 1000 else t := by
  rw [expiry, ← hexpires]
  split <;> omega

variable {e : Expiration}

/-- The script keeps the invariant, whatever was cached. -/
theorem runScript_ok (h : Inv p w) (he : EntryOk entry deadline w) (hn : n ≤ w.now)
    (hexp : expiration p entry deadline n = .ok e) :
    Guarantee w (w.runScript entry e).1 ∧ Inv p (w.runScript entry e).1 := by
  unfold runScript
  simp only
  split
  · exact ⟨Guarantee.refl w, h⟩
  next hdeny =>
  split
  · exact ⟨Guarantee.refl w, h⟩
  simp only [expiration] at hexp
  by_cases hactive : entry.status = .active
  · -- the copy of an active session: its deadline is past when no deny entry is visible
    rw [if_pos hactive] at hexp
    cases deadline with
    | none => cases hexp
    | some d =>
      simp only at hexp
      split at hexp
      · cases hexp
      split at hexp
      · cases hexp
      split at hexp
      · cases hexp
      cases hexp
      refine ⟨Guarantee.cache w _, h.cache fun hden => ?_⟩
      have hinvisible : ∀ c ∈ w.cache, c.expireAt ≤ w.now := by
        intro c hc
        by_contra hlt
        refine hdeny ⟨hactive, ?_⟩
        have hvis : w.visible = some c.entry := by
          rw [visible, mem_def.mp hc]
          simp [not_le.mp hlt]
        simp [hvis, hden.noActive c hc]
      have hpast : ∀ d' ∈ w.observations, min d' w.expiry ≤ w.now := by
        intro d' hd'
        rcases hden.deadlines d' hd' with hp | ⟨c, hc, hle⟩
        · exact hp
        · exact hle.trans (hinvisible c hc)
      have hgone : ¬ w.now < min d (entry.expiresAt * 1000) := by
        have := hpast d (he.observed hactive d rfl)
        rw [expiry, ← he.expiresAt] at this
        omega
      rw [if_neg hgone]
      exact ⟨fun c hc => by (cases hc), fun d' hd' => .inl (hpast d' hd')⟩
  · rw [if_neg hactive] at hexp
    cases hexp
    refine ⟨Guarantee.cache w _, h.cache fun hden => ⟨fun c hc => ?_, fun d hd => ?_⟩⟩
    · cases hc
      exact hactive
    · rcases denyEntry_lifetime hn (h.deadlines d hd) he.expiresAt rfl with hp | hle
      · exact .inl hp
      · exact .inr ⟨_, rfl, hle⟩

theorem evalScript_ok (hK : Stable K) (hw : K w) (he : EntryOk entry deadline w)
    (hn : n ≤ w.now) (hexp : expiration p entry deadline n = .ok e) :
    Ok p (fun _ => K) (evalScript entry e) w := by
  refine safe_update fun w' hl hI env => ?_
  have hscript := runScript_ok hI (EntryOk.stable _ _ w w' hl he) (hn.trans hl.now) hexp
  have hkeep : ∀ w'', Guarantee w' w'' → K w'' := fun w'' hg =>
    hK w' w'' hg.toLater (hK w w' hl hw)
  cases env.delivery with
  | answered | lost => exact ⟨hscript.1, hscript.2, hkeep _ hscript.1⟩
  | failed => exact ⟨Guarantee.refl w', hI, hkeep _ (Guarantee.refl w')⟩

theorem stable_true : Stable (fun _ => True) := fun _ _ _ => id

theorem Stable.and {K' : World → Prop} (h : Stable K) (h' : Stable K') :
    Stable (fun w => K w ∧ K' w) :=
  fun w w' hl hw => ⟨h w w' hl hw.1, h' w w' hl hw.2⟩

/-- `writeUserSessionCache` keeps the invariant and what the caller knows. -/
theorem writeUserSessionCache_ok (hI : Inv p w) (hK : Stable K) (hw : K w)
    (he : EntryOk entry deadline w) :
    Ok p (fun _ => K) (writeUserSessionCache p entry deadline) w := by
  have hKe := hK.and (EntryOk.stable entry deadline)
  refine (clock_ok hKe ⟨hw, he⟩).bind hI fun n w₁ hI₁ hn => ?_
  cases hexp : expiration p entry deadline n with
  | error r => exact safe_pure hn.2.1
  | ok e =>
    refine (evalScript_ok hK hn.2.1 hn.2.2 hn.1 hexp).bind hI₁ fun r w₂ hI₂ hw₂ => ?_
    split
    · exact (clock_ok hK hw₂).bind hI₂ fun _ w₃ _ hw₃ => safe_pure hw₃.2
    · exact safe_pure hw₂

theorem writeTombstone_ok (hI : Inv p w) (hK : Stable K) (hw : K w)
    (hs : s.expiresAt = w.row.expiresAt) : Ok p (fun _ => K) (writeTombstone p s now reason) w :=
  (writeUserSessionCache_ok hI hK hw ⟨hs, fun ha => by (cases ha)⟩).bind hI
    fun _ _ _ hw' => safe_pure hw'

theorem writeUserSessionDenyFence_ok (hI : Inv p w) (hK : Stable K) (hw : K w)
    (hs : s.expiresAt = w.row.expiresAt) :
    Ok p (fun _ => K) (writeUserSessionDenyFence p s now reason) w :=
  writeUserSessionCache_ok hI hK hw ⟨hs, fun ha => by (cases ha)⟩

/-- A revoking update: it is covered when it is made behind a fence. -/
theorem revoke_ok (h : Inv p w) (cond : UserSession → Bool) (now : Int) (reason : String) :
    Guarantee w (w.revoke cond now reason).1 ∧ Inv p (w.revoke cond now reason).1 := by
  unfold revoke
  split
  · next hcond =>
    refine ⟨⟨⟨le_rfl, rfl, fun _ => by simp, fun _ => id, fun hc => ?_⟩, fun hc hf => ?_⟩,
      h.deadlines, fun hc _ => ?_, fun hc => ?_⟩
    · simp only [Bool.and_eq_true] at hc
      exact hc.1
    · simp only [Bool.and_eq_true, decide_eq_true_eq]
      exact ⟨hc, hf hcond.1 (by simp)⟩
    · simp only [Bool.and_eq_true, decide_eq_true_eq] at hc
      obtain ⟨c, hcache, hdeny, hlife⟩ := hc.2
      refine ⟨fun c' hc' => ?_, fun d hd => .inr ⟨c, hcache, hlife d hd⟩⟩
      cases (mem_def.mp hcache).symm.trans hc'
      exact hdeny
    · simp only [Bool.and_eq_true] at hc
      exact h.answers hc.1
  · exact ⟨Guarantee.refl w, h⟩

theorem observe_ok (h : Inv p w) (hd : d ≤ w.now + p.cacheTTL * 1000) :
    Guarantee w (w.observe d) ∧ Inv p (w.observe d) := by
  unfold observe
  split
  · next hactive =>
    refine ⟨⟨⟨le_rfl, rfl, id, fun x => mem_cons_of_mem _, id⟩, fun hc _ => hc⟩,
      fun x hx => ?_, fun _ => absurd hactive, h.answers⟩
    rcases mem_cons.mp hx with rfl | hx
    · exact hd
    · exact h.deadlines x hx
  · exact ⟨Guarantee.refl w, h⟩

/-! ### Calls -/

theorem stable_deadline (d : Int) : Stable (fun w => d ≤ w.now + p.cacheTTL * 1000) :=
  fun _ _ hl h => by
    have := hl.now
    omega

theorem userSessionCacheDeadline_ok (hI : Inv p w) (hK : Stable K) (hw : K w) :
    Ok p (fun d w' => d ≤ w'.now + p.cacheTTL * 1000 ∧ K w') (userSessionCacheDeadline p) w :=
  (clock_ok hK hw).bind hI fun n w' _ hn => safe_pure ⟨by have := hn.1; omega, hn.2⟩

theorem getUserSessionBySID_ok (hK : Stable K) (hw : K w) (hd : d ≤ w.now + p.cacheTTL * 1000) :
    Ok p (fun s w' => s = w'.row ∧ (s.status = .active → d ∈ w'.observations) ∧ K w')
      (getUserSessionBySID d) w := by
  refine safe_update fun w' hl hI _ => ?_
  obtain ⟨hg, hinv⟩ := observe_ok hI (stable_deadline d w w' hl hd)
  refine ⟨hg, hinv, ?_, fun hs => ?_, hK w' _ hg.toLater (hK w w' hl hw)⟩
  · unfold observe
    split <;> rfl
  · unfold observe
    rw [if_pos hs]
    exact mem_cons_self

theorem confirmUserSessionActiveSnapshot_ok (hI : Inv p w) (hK : Stable K) (hw : K w) :
    Ok p (fun _ => K) (confirmUserSessionActiveSnapshot s) w :=
  (clock_ok hK hw).bind hI fun _ _ _ hn =>
    read_ok fun w' hl _ _ => hK _ w' hl hn.2

theorem fillCache_ok (hI : Inv p w) (hK : Stable K) (hw : K w)
    (hs : EntryOk s.cacheEntry (some d) w) : Ok p (fun _ => K) (fillCache p s d) w := by
  refine (writeUserSessionCache_ok hI hK hw hs).bind hI fun r w' hI' hw' => ?_
  cases r with
  | stale =>
    exact (confirmUserSessionActiveSnapshot_ok hI' hK hw').bind hI'
      fun _ _ _ hw'' => safe_pure hw''
  | inactive | written | invalid | failed => exact safe_pure hw'

/-- The session was revoked when the call started. -/
def Late (late : Bool) (w : World) : Prop := late = true → w.row.status ≠ .active

theorem stable_late (late : Bool) : Stable (Late late) := fun _ _ hl h hlate => hl.status (h hlate)

theorem usable_active (h : s.usable now = true) : s.status = .active := by
  simp only [UserSession.usable, Bool.and_eq_true, decide_eq_true_eq] at h
  exact h.1.1

variable {late : Bool}

/-- A late lookup in the database finds the revoked row. -/
theorem getFromDatabase_ok (hI : Inv p w) (hw : Late late w) :
    Ok p (fun r _ => late = true → r = none) (getFromDatabase p) w := by
  refine (userSessionCacheDeadline_ok hI (stable_late late) hw).bind hI
    fun d w₁ hI₁ hd => ?_
  refine (getUserSessionBySID_ok (stable_late late) hd.2 hd.1).bind hI₁
    fun s w₂ hI₂ hs => ?_
  obtain ⟨hrow, hobserved, hlate⟩ := hs
  have hentry : EntryOk s.cacheEntry (some d) w₂ :=
    ⟨by rw [hrow]; rfl, fun ha x hx => by cases hx; exact hobserved ha⟩
  have hfact : late = true → s.status ≠ .active := by rw [hrow]; exact hlate
  refine (clock_ok (EntryOk.stable _ _) hentry).bind hI₂ fun n w₃ hI₃ hn => ?_
  split
  · next husable =>
    have hearly : late ≠ true := fun hl => hfact hl (usable_active husable)
    exact (fillCache_ok hI₃ (EntryOk.stable _ _) hn.2 hn.2).mono hI₃
      fun _ _ _ _ hl => absurd hl hearly
  · have hdeny : EntryOk { s.cacheEntry with status := .revoked } none w₃ :=
      ⟨hn.2.expiresAt, fun ha => by (cases ha)⟩
    exact (writeUserSessionCache_ok hI₃ (EntryOk.stable _ _) hn.2 hdeny).bind hI₃
      fun _ _ _ _ => safe_pure fun _ => rfl

/-- A late lookup finds no active copy, unless some revocation was not covered. -/
theorem lookupSession_ok (hI : Inv p w) (hw : Late late w) :
    Ok p (fun r w' => w'.covered = true → late = true → r = none) (lookupSession p) w := by
  have hread : Ok p (fun e w' => Late late w' ∧
      (w'.covered = true → late = true → ∀ x ∈ e, x.status ≠ .active)) getUserSessionCache w := by
    refine read_ok fun w' hl hI' env => ⟨stable_late late w w' hl hw, fun hc hlate x hx => ?_⟩
    have hdenied := hI'.denied hc (hl.status (hw hlate))
    split at hx
    · obtain ⟨hvis, -⟩ := filter_eq_some_iff.mp (mem_def.mp hx)
      obtain ⟨c, hcache, -, rfl⟩ := visible_eq hvis
      exact hdenied.noActive c hcache
    · cases hx
  refine hread.bind hI fun e w₁ hI₁ he => ?_
  cases e with
  | none => exact (getFromDatabase_ok hI₁ he.1).mono hI₁ fun _ _ _ h _ => h
  | some x =>
    have hstable : Stable (fun w => w.covered = true → late = true → ∀ y ∈ some x, y.status ≠ .active) :=
      fun _ _ hl h hc => h (hl.covered hc)
    refine (clock_ok hstable he.2).bind hI₁ fun n w₂ _ hn => safe_pure fun hc hlate => ?_
    have hdeny := hn.2 hc hlate x rfl
    split
    · next husable => exact absurd (usable_active husable) hdeny
    · rfl

theorem getUserSessionCached_ok (hI : Inv p w) : Ok p (fun _ _ => True) (getUserSessionCached p) w := by
  have hlate : Ok p Late
      (read fun w _ => decide (w.row.status ≠ .active)) w :=
    read_ok fun w' _ _ _ => of_decide_eq_true
  refine hlate.bind hI fun late w₁ hI₁ hl => ?_
  refine (lookupSession_ok hI₁ hl).bind hI₁ fun r w₂ hI₂ hr => ?_
  have hrecord : Ok p (fun _ _ => True)
      (update fun w _ => ({ w with answers := ⟨late, r.isSome⟩ :: w.answers }, ())) w₂ := by
    refine safe_update fun w' hl' hI' _ => ⟨⟨⟨le_rfl, rfl, id, fun _ => id, id⟩, fun hc _ => hc⟩,
      ⟨hI'.deadlines, fun hc hs => ?_, fun hc a ha hlate => ?_⟩, trivial⟩
    · exact ⟨(hI'.denied hc hs).noActive, (hI'.denied hc hs).deadlines⟩
    · rcases mem_cons.mp ha with rfl | ha
      · rw [hr (hl'.covered hc) hlate]
        rfl
      · exact hI'.answers hc a ha hlate
  exact hrecord.bind hI₂ fun _ _ _ _ => safe_pure trivial

/-- The session's end is known to the caller. -/
theorem stable_expiresAt (s : UserSession) : Stable (fun w => s.expiresAt = w.row.expiresAt) :=
  fun _ _ hl h => h.trans hl.expiresAt.symm

/-- A revoking statement of a call that goes on with `f`. -/
theorem revoking_ok {Q : α → World → Prop} {cond : UserSession → Bool}
    {f : Bool → Call α} (hI : Inv p w) (hK : Stable K) (hw : K w)
    (hf : ∀ b w', Inv p w' → K w' → Ok p Q (f b) w') :
    Ok p Q ((Prog.update fun w _ => w.revoke cond now reason) >>= f) w := by
  refine (safe_update fun w' hl hI' _ => ?_).bind hI hf
  obtain ⟨hg, hinv⟩ := revoke_ok hI' cond now reason
  exact ⟨hg, hinv, hK w' _ hg.toLater (hK w w' hl hw)⟩

theorem revokeUserSession_ok (hI : Inv p w) (userID : Int) (reason : String) :
    Ok p (fun _ _ => True) (revokeUserSession p userID reason) w := by
  refine (clock_ok stable_true trivial).bind hI fun time w₁ hI₁ _ => ?_
  refine (readRow_ok stable_true trivial).bind hI₁ fun s w₂ hI₂ hs => ?_
  split
  · exact safe_pure trivial
  have hexpires := stable_expiresAt s
  refine (writeUserSessionDenyFence_ok hI₂ hexpires hs.1 hs.1).bind hI₂
    fun r w₃ hI₃ hs₃ => ?_
  cases r with
  | written =>
    refine revoking_ok hI₃ hexpires hs₃ fun b w₄ hI₄ hs₄ => ?_
    split
    · exact writeTombstone_ok hI₄ stable_true trivial hs₄
    · exact safe_pure trivial
  | _ => exact safe_pure trivial

theorem revokeUserSessionByRefreshHash_ok (hI : Inv p w) (presented reason : String) :
    Ok p (fun _ _ => True) (revokeUserSessionByRefreshHash p presented reason) w := by
  refine (clock_ok stable_true trivial).bind hI fun time w₁ hI₁ _ => ?_
  refine (readRow_ok stable_true trivial).bind hI₁ fun s w₂ hI₂ hs => ?_
  split
  · have hexpires := stable_expiresAt s
    refine (writeUserSessionDenyFence_ok hI₂ hexpires hs.1 hs.1).bind hI₂
      fun r w₃ hI₃ hs₃ => ?_
    cases r with
    | written =>
      refine revoking_ok hI₃ hexpires hs₃ fun b w₄ hI₄ hs₄ => ?_
      split
      · exact writeTombstone_ok hI₄ stable_true trivial hs₄
      · exact safe_pure trivial
    | _ => exact safe_pure trivial
  · exact safe_pure trivial

theorem revokeRounds_ok {userID now : Int} {reason : String} : ∀ (rounds : Nat) {w : World}, Inv p w →
    Ok p (fun _ _ => True) (revokeRounds p userID now reason rounds) w
  | 0, _, _ => Prog.safe_pure trivial
  | rounds + 1, w, hI => by
    refine (readRow_ok stable_true trivial).bind hI fun s w₁ hI₁ hs => ?_
    split
    · refine (writeUserSessionDenyFence_ok hI₁ stable_true trivial hs.1).bind hI₁
        fun r w₂ hI₂ _ => ?_
      cases r with
      | written =>
        have hlocked : Ok p (fun locked w' => ∀ row ∈ locked, row.expiresAt = w'.row.expiresAt)
            (Prog.update fun w _ =>
              ((w.revoke (fun _ => true) now reason).1,
                if (w.revoke (fun _ => true) now reason).2 then some w.row else none)) w₂ := by
          refine safe_update fun w' _ hI' _ => ?_
          obtain ⟨hg, hinv⟩ := revoke_ok hI' (fun _ => true) now reason
          refine ⟨hg, hinv, fun row hrow => ?_⟩
          split at hrow <;> cases hrow
          exact hg.expiresAt.symm
        refine hlocked.bind hI₂ fun locked w₃ hI₃ hrow => ?_
        cases locked with
        | none => exact revokeRounds_ok rounds hI₃
        | some row =>
          exact (writeTombstone_ok hI₃ stable_true trivial (hrow row rfl)).bind hI₃
            fun _ _ hI₄ _ => revokeRounds_ok rounds hI₄
      | _ => exact safe_pure trivial
    · exact safe_pure trivial

/-- A change of the row that keeps its status and its end. -/
theorem keepRow_ok (h : Inv p w) {row : UserSession} {rotations : List (String × String)}
    (hstatus : row.status = w.row.status) (hexpires : row.expiresAt = w.row.expiresAt) :
    Guarantee w { w with row := row, rotations := rotations } ∧
      Inv p { w with row := row, rotations := rotations } := by
  have hsame : expiry { w with row := row, rotations := rotations } = w.expiry :=
    congrArg (· * 1000) hexpires
  refine ⟨⟨⟨le_rfl, hexpires, fun hs => ?_, fun _ => id, id⟩, fun hc _ => hc⟩, h.deadlines, fun hc hs => ?_,
    h.answers⟩
  · exact fun ha => hs (hstatus.symm.trans ha)
  · have hden := h.denied hc (fun ha => hs (hstatus.trans ha))
    exact ⟨hden.noActive, by rw [hsame]; exact hden.deadlines⟩

theorem rotate_ok (h : Inv p w) (presented next : String) (now graceSeconds : Int) :
    Guarantee w (w.rotate presented next now graceSeconds).1 ∧
      Inv p (w.rotate presented next now graceSeconds).1 := by
  unfold World.rotate
  split
  · exact keepRow_ok h rfl rfl
  · exact ⟨Guarantee.refl w, h⟩

theorem advance_ok (h : Inv p w) {userID ev ea na : Int} (hd : d ≤ w.now + p.cacheTTL * 1000) :
    Guarantee w (w.advance userID ev ea na now d).1 ∧ Inv p (w.advance userID ev ea na now d).1 ∧
      ∀ row ∈ (w.advance userID ev ea na now d).2,
        EntryOk row.cacheEntry (some d) (w.advance userID ev ea na now d).1 := by
  unfold advance
  split
  · next hcond =>
    have hactive : w.row.status = .active := hcond.2.1
    obtain ⟨hg, hinv⟩ := observe_ok h hd
    rw [observe, if_pos hactive] at hg hinv ⊢
    refine ⟨⟨⟨le_rfl, rfl, id, hg.observations, id⟩, fun hc _ => hc⟩,
      ⟨hinv.deadlines, fun _ => absurd hactive, h.answers⟩, fun row hrow => ?_⟩
    cases hrow
    exact ⟨rfl, fun _ x hx => by cases hx; exact mem_cons_self⟩
  · exact ⟨Guarantee.refl w, h, fun row hrow => by (cases hrow)⟩

theorem advanceUserSessionAuthVersion_ok (hI : Inv p w) (userID ev ea na : Int) :
    Ok p (fun _ _ => True) (advanceUserSessionAuthVersion p userID ev ea na) w := by
  unfold advanceUserSessionAuthVersion
  split
  · exact safe_pure trivial
  refine (userSessionCacheDeadline_ok hI stable_true trivial).bind hI fun d w₁ hI₁ hd => ?_
  refine (clock_ok (stable_deadline d) hd.1).bind hI₁ fun time w₂ hI₂ hd₂ => ?_
  have htx : Ok p (fun row w' => ∀ r ∈ row, EntryOk r.cacheEntry (some d) w')
      (update fun w _ => w.advance userID ev ea na (unix time) d) w₂ := by
    refine safe_update fun w' hl hI' _ => ?_
    exact advance_ok hI' (stable_deadline d w₂ w' hl hd₂.2)
  refine htx.bind hI₂ fun row w₃ hI₃ hrow => ?_
  cases row with
  | none => exact safe_pure trivial
  | some r =>
    exact (fillCache_ok hI₃ stable_true trivial (hrow r rfl)).bind hI₃
      fun _ _ _ _ => safe_pure trivial

/-! ### Rotation and refresh -/

theorem readForRotation_ok {presented : String} (hd : d ≤ w.now + p.cacheTTL * 1000) :
    Ok p (fun s w' => EntryOk s.cacheEntry (some d) w') (readForRotation presented now d) w := by
  refine safe_update fun w' hl hI _ => ?_
  obtain ⟨hg, hinv⟩ := observe_ok hI (stable_deadline d w w' hl hd)
  refine ⟨⟨{ hg with }, hg.flag⟩,
    { hinv with denied := fun hc hs => ?_ }, hg.expiresAt.symm, fun ha x hx => ?_⟩
  · exact ⟨(hinv.denied hc hs).noActive, (hinv.denied hc hs).deadlines⟩
  · cases hx
    have hactive : w'.row.status = .active := ha
    rw [observe, if_pos hactive]
    exact mem_cons_self

theorem revokeReuse_ok (hI : Inv p w) (hs : s.expiresAt = w.row.expiresAt) :
    Ok p (fun _ _ => True) (revokeReuse p s now) w := by
  have hexpires := stable_expiresAt s
  refine (writeUserSessionDenyFence_ok hI hexpires hs hs).bind hI fun r w₁ hI₁ hs₁ => ?_
  cases r with
  | written =>
    refine revoking_ok hI₁ hexpires hs₁ fun b w₂ hI₂ hs₂ => ?_
    split
    · exact (writeTombstone_ok hI₂ stable_true trivial hs₂).bind hI₂
        fun _ _ _ _ => safe_pure trivial
    · exact safe_pure trivial
  | _ => exact safe_pure trivial

theorem finishRotation_ok (hI : Inv p w) (hs : EntryOk s.cacheEntry (some d) w) :
    Ok p (fun _ _ => True) (finishRotation p s d) w := by
  refine (fillCache_ok hI stable_true trivial hs).bind hI fun r _ _ _ => ?_
  cases r with
  | none | some => exact safe_pure trivial

theorem rotateLoop_ok {presented next : String} {now graceSeconds : Int} :
    ∀ (tries : Nat) {d : Decision} {w : World}, Inv p w →
      Ok p (fun _ _ => True) (rotateLoop p presented next now graceSeconds tries d) w
  | 0, _, _, _ => Prog.safe_pure trivial
  | tries + 1, _, w, hI => by
    refine Safe.bind (userSessionCacheDeadline_ok hI stable_true trivial) hI fun d w₁ hI₁ hd => ?_
    refine Safe.bind (readForRotation_ok hd.1) hI₁ fun s w₂ hI₂ hs => ?_
    split
    · exact Prog.safe_pure trivial
    split
    · have hcas : Ok p (fun _ w' => EntryOk s.cacheEntry (some d) w')
          (Prog.update fun w _ => w.rotate presented next now graceSeconds) w₂ := by
        refine safe_update fun w' hl hI' _ => ?_
        obtain ⟨hg, hinv⟩ := rotate_ok hI' presented next now graceSeconds
        have hstable := EntryOk.stable s.cacheEntry (some d)
        exact ⟨hg, hinv, hstable w' _ hg.toLater (hstable w₂ w' hl hs)⟩
      refine Safe.bind hcas hI₂ fun won w₃ hI₃ hs₃ => ?_
      split
      · exact Safe.bind (finishRotation_ok hI₃ ⟨hs₃.expiresAt, hs₃.observed⟩) hI₃
          fun _ _ _ _ => safe_pure trivial
      · exact rotateLoop_ok tries hI₃
    split
    · exact safe_pure trivial
    split
    · exact safe_pure trivial
    · exact Safe.bind (revokeReuse_ok hI₂ hs.expiresAt) hI₂ fun _ _ _ _ => safe_pure trivial

theorem rotateUserSessionRefresh_ok (hI : Inv p w) (userID : Int) (presented next : String)
    (now graceSeconds : Int) :
    Ok p (fun _ _ => True) (rotateUserSessionRefresh p userID presented next now graceSeconds) w := by
  refine (readRow_ok stable_true trivial).bind hI fun row w₁ hI₁ _ => ?_
  split
  · exact safe_pure trivial
  · exact (rotateLoop_ok 3 hI₁).bind hI₁ fun _ _ _ _ => safe_pure trivial

theorem refreshLoginSession_ok (hI : Inv p w) (secret : String) :
    Ok p (fun _ _ => True) (refreshLoginSession p secret) w := by
  refine (getUserSessionCached_ok hI).bind hI fun r w₁ hI₁ _ => ?_
  cases r with
  | none => exact safe_pure trivial
  | some s =>
    refine (clock_ok stable_true trivial).bind hI₁ fun time w₂ hI₂ _ => ?_
    split
    · exact safe_pure trivial
    have huser : Ok p (fun _ _ => True) (read fun _ env => env.userOk) w₂ :=
      read_ok fun _ _ _ _ => trivial
    refine huser.bind hI₂ fun userOk w₃ hI₃ _ => ?_
    split
    · exact revokeUserSession_ok hI₃ _ _
    refine (clock_ok stable_true trivial).bind hI₃ fun time w₄ hI₄ _ => ?_
    refine (rotateUserSessionRefresh_ok hI₄ _ _ _ _ _).bind hI₄ fun ⟨r, d⟩ w₅ hI₅ _ => ?_
    cases d with
    | none => exact safe_pure trivial
    | some d =>
      refine safe_update fun w' _ hI' _ => ⟨⟨⟨le_rfl, rfl, id, fun _ => id, id⟩, fun hc _ => hc⟩,
        { hI' with denied := fun hc hs => ?_ }, trivial⟩
      exact ⟨(hI'.denied hc hs).noActive, (hI'.denied hc hs).deadlines⟩

theorem tick_ok : Ok p (fun _ _ => True) (Job.tick.program p) w := by
  refine safe_update fun w' _ hI' env => ?_
  have hnow : w'.now ≤ w'.now + env.elapsed := Int.le_add_of_nonneg_right (Int.natCast_nonneg _)
  refine ⟨⟨⟨hnow, rfl, id, fun _ => id, id⟩, fun hc _ => hc⟩,
    ⟨fun d hd => ?_, fun hc hs => ?_, hI'.answers⟩, trivial⟩
  · have := hI'.deadlines d hd
    show d ≤ w'.now + env.elapsed + _
    omega
  · have hden := hI'.denied hc hs
    exact ⟨hden.noActive, fun d hd => (hden.deadlines d hd).imp (fun h => h.trans hnow) id⟩

end Actions

/-! ### Runs -/

variable {w : World}

theorem program_ok (hI : Inv p w) (j : Job) :
    Ok p (fun _ _ => True) (j.program p) w := by
  cases j with
  | tick => exact tick_ok
  | get => exact (getUserSessionCached_ok hI).bind hI fun _ _ _ _ => safe_pure trivial
  | refresh secret => exact refreshLoginSession_ok hI secret
  | rotate userID presented next graceSeconds =>
    refine (clock_ok stable_true trivial).bind hI fun time w₁ hI₁ _ => ?_
    exact (rotateUserSessionRefresh_ok hI₁ _ _ _ _ _).bind hI₁
      fun _ _ _ _ => safe_pure trivial
  | revoke userID reason => exact revokeUserSession_ok hI userID reason
  | logout presented reason => exact revokeUserSessionByRefreshHash_ok hI presented reason
  | revokeAll userID reason rounds =>
    exact (clock_ok stable_true trivial).bind hI fun _ _ hI₁ _ => revokeRounds_ok rounds hI₁
  | advance userID ev ea na => exact advanceUserSessionAuthVersion_ok hI userID ev ea na

variable {sys : System World Env Job} {w₀ : World}

theorem reaches_sound (h₀ : Inv p w₀)
    (h : Reaches p w₀ sys) : System.Sound (Inv p) (fun _ => Guarantee) Later w₀ sys := by
  obtain ⟨events, hrun⟩ := h
  refine System.run_sound Later.refl Later.trans (fun _ _ _ hg => hg.toLater) ?_ (System.sound_init h₀) hrun
  intro j w w' prog hI hl
  cases hl
  exact ⟨Guarantee.refl w, hI, program_ok hI j⟩

/-- The session is active, and nothing is recorded of a run. -/
structure World.Initial (w : World) : Prop where
  active : w.row.status = .active
  observations : w.observations = []
  covered : w.covered = true
  answers : w.answers = []

/-- In every run in which each revocation commits while a deny entry is cached that outlives the
deadlines of all active reads, a lookup that starts behind the revocation fails. -/
theorem revoked_session_unusable {p : Settings} {w₀ : World} (h₀ : w₀.Initial)
    {sys : System World Env Job} (h : Reaches p w₀ sys)
    (hfenced : ∀ t ∈ sys.history, t.before.row.status = .active → t.after.row.status ≠ .active →
      t.before.Fenced) :
    ∀ a ∈ sys.state.answers, a.late = true → a.ok = false := by
  have hinit : Inv p w₀ := by
    refine ⟨?_, fun _ => absurd h₀.active, ?_⟩
    · rw [h₀.observations]
      exact fun d hd => by (cases hd)
    · rw [h₀.answers]
      exact fun _ a ha => by (cases ha)
  have hsound := reaches_sound hinit h
  have hcovered : sys.state.covered = true := by
    refine (hsound.linked.invariant (P := fun w => w.covered = true) h₀.covered fun t ht hc => ?_).1
    exact (hsound.guarantee t ht).flag hc (hfenced t ht)
  exact hsound.inv.answers hcovered

/-! ### Two runs -/

/-- Tokens are digested and derived by injective functions. -/
def plainSettings : Settings := ⟨60, by decide, fun s => "#" ++ s, fun s => s ++ "+"⟩

/-- An active session of user 1 at time 0, with nothing cached. -/
def freshWorld : World where
  now := 0
  row :=
    { userID := 1
      version := 1
      userAuthVersion := 1
      status := .active
      refreshHash := "#s"
      lastActiveAt := 0
      expiresAt := 100000 }

theorem freshWorld_initial : freshWorld.Initial := ⟨rfl, rfl, rfl, rfl⟩

/-- The next `n` actions of a process, all answered. -/
def actions (k n : Nat) : List (Event Env Job) := List.replicate n (.advance k {})

/-- A tick of so many milliseconds, as process `k`. -/
def wait (k elapsed : Nat) : List (Event Env Job) := [.launch .tick, .advance k { elapsed := elapsed }]

/-- The end of a run. -/
def after (p : Settings) (w : World) (events : List (Event Env Job)) : System World Env Job :=
  (run (System.step (launch p)) ⟨w, [], []⟩ events).getD ⟨w, [], []⟩

theorem reaches_after {events : List (Event Env Job)}
    (h : (run (System.step (launch p)) ⟨w, [], []⟩ events).isSome = true) :
    Reaches p w (after p w events) :=
  ⟨events, run_getD h⟩

/-- A lookup caches the session, it is revoked, and a second lookup finds the deny entry. -/
def fencedEvents : List (Event Env Job) :=
  [.launch .get] ++ actions 0 9 ++ [.launch (.revoke 1 "logout")] ++ actions 1 5 ++
    [.launch .get] ++ actions 2 4

theorem revoked_session_unusable_fencedEvents :
    Reaches plainSettings freshWorld (after plainSettings freshWorld fencedEvents) ∧
      ∀ a ∈ (after plainSettings freshWorld fencedEvents).state.answers, a.late = true → a.ok = false := by
  have hrun : (run (System.step (launch plainSettings)) ⟨freshWorld, [], []⟩ fencedEvents).isSome = true ∧
      ∀ t ∈ (after plainSettings freshWorld fencedEvents).history,
        t.before.row.status = .active → t.after.row.status ≠ .active → t.before.Fenced := by
    decide +kernel
  have hreach := reaches_after hrun.1
  exact ⟨hreach, revoked_session_unusable freshWorld_initial hreach hrun.2⟩

example : (after plainSettings freshWorld fencedEvents).state.answers = [⟨true, false⟩, ⟨false, true⟩] := by
  decide +kernel

/-- A lookup misses the cache before the deny entry is written, reads the row one second later and
stores it when the deny entry has lapsed; the revocation stops behind its commit. -/
def delayedEvents : List (Event Env Job) :=
  [.launch .get] ++ actions 0 2 ++ [.launch (.revoke 1 "logout")] ++ actions 1 4 ++ wait 2 1000 ++
    actions 0 3 ++ actions 1 1 ++ wait 3 59000 ++ actions 0 2 ++ [.launch .get] ++ actions 4 4

/-- A lookup that starts after the revocation has committed finds the session. -/
theorem revoked_session_usable :
    ∃ sys : System World Env Job, Reaches plainSettings freshWorld sys ∧
      ∃ a ∈ sys.state.answers, a.late = true ∧ a.ok = true :=
  ⟨after plainSettings freshWorld delayedEvents, reaches_after (by decide +kernel), by decide +kernel⟩

end MyApiSpec.Session
