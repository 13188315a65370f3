import Mathlib.Data.List.Nodup
import Mathlib.Logic.Function.Iterate
import MyApiSpec.Session.Revocation

/-!
# Refresh tokens are single use

`service/auth_session.go:200–260` and `model/user_session.go:446–542`, for any number of refreshes of one
session with arbitrary secrets. The digest of the row moves along the chain of the derived secrets,
because a rotation replaces the digest that was presented. What becomes of a call depends on the row of
its last read alone: the presented digest is current there, or the previous one within or behind its
window, or unknown.
-/

namespace MyApiSpec.Session.Refresh

open Base List World Prog

/-! ### Runs of refreshes -/

variable {p : Settings} {s₀ : String}

/-- The jobs of these runs: refreshes, and the passage of time. -/
def started : Job → Bool
  | .tick => true
  | .refresh _ => true
  | _ => false

def launchRefresh (p : Settings) (j : Job) (w : World) : Option (World × Call Unit) :=
  if started j then launch p j w else none

/-- A system that some interleaving of refreshes reaches from `w₀`. -/
def RefreshReaches (p : Settings) (w₀ : World) (sys : System World Env Job) : Prop :=
  ∃ events, run (System.step (launchRefresh p)) ⟨w₀, [], []⟩ events = some sys

/-! ### The chain -/

section Chain

variable (p : Settings) (s₀ : String)

/-- The digest of the secret that is `n` derivations behind `s₀`. -/
def digest (n : Nat) : String := p.hash (p.derive^[n] s₀)

/-- The first `n` rotations. -/
def chain (n : Nat) : List (String × String) :=
  (List.range n).map fun i => (digest p s₀ i, digest p s₀ (i + 1))

/-- The previous digest behind `n` rotations; a new session has none. -/
def previousDigest : Nat → String
  | 0 => ""
  | n + 1 => digest p s₀ n

/-- The row behind `n` rotations. -/
structure Link (row : UserSession) (n : Nat) : Prop where
  current : row.refreshHash = digest p s₀ n
  previous : row.previousRefreshHash = previousDigest p s₀ n

end Chain

theorem chain_succ (p : Settings) (s₀ : String) (n : Nat) :
    chain p s₀ (n + 1) = chain p s₀ n ++ [(digest p s₀ n, digest p s₀ (n + 1))] := by
  simp [chain, range_succ]

/-- The successor of a secret of the chain is the next one. -/
theorem digest_derive {secret : String} {n : Nat} (hhash : p.hash.Injective)
    (h : p.hash secret = digest p s₀ n) : p.hash (p.derive secret) = digest p s₀ (n + 1) := by
  rw [hhash h, digest, Function.iterate_succ_apply']

/-- No digest comes twice when the first secret is not a derived one. -/
theorem digest_injective (hhash : p.hash.Injective) (hderive : p.derive.Injective)
    (hdrawn : ∀ s, p.derive s ≠ s₀) : Function.Injective (digest p s₀) := by
  intro i j hij
  have hiter : p.derive^[i] s₀ = p.derive^[j] s₀ := hhash hij
  clear hij
  induction i generalizing j with
  | zero =>
    cases j with
    | zero => rfl
    | succ j =>
      rw [Function.iterate_succ_apply'] at hiter
      exact absurd hiter.symm (hdrawn _)
  | succ i ih =>
    cases j with
    | zero =>
      rw [Function.iterate_succ_apply'] at hiter
      exact absurd hiter (hdrawn _)
    | succ j =>
      rw [Function.iterate_succ_apply', Function.iterate_succ_apply'] at hiter
      rw [ih (hderive hiter)]

/-! ### Decisions -/

/-- The presented digest is current. -/
structure Current (d : Decision) : Prop where
  usable : d.row.usable d.now = true
  current : d.row.refreshHash = d.presented

/-- The presented digest is the immediately previous one. -/
structure Replays (d : Decision) : Prop where
  usable : d.row.usable d.now = true
  notCurrent : d.row.refreshHash ≠ d.presented
  nonempty : d.presented ≠ ""
  previous : d.row.previousRefreshHash = d.presented

/-- The presented digest is neither current nor previous. -/
structure Unknown (d : Decision) : Prop where
  usable : d.row.usable d.now = true
  notCurrent : d.row.refreshHash ≠ d.presented
  notPrevious : d.row.previousRefreshHash ≠ d.presented

/-- What a refresh returns, by the row of its last read. -/
structure Answered (p : Settings) (w : World) (r : Return) : Prop where
  decided : r.decision ∈ w.decisions
  rotated : ∀ s, r.outcome = .rotated s → Current r.decision
  replay : Replays r.decision → r.decision.now ≤ r.decision.row.previousValidUntil →
    ∃ s, r.outcome = .replayed s ∧ p.hash s = r.decision.row.refreshHash
  reuse : Replays r.decision → r.decision.row.previousValidUntil < r.decision.now →
    r.outcome = .failed ∨ w.row.status ≠ .active
  unknown : Unknown r.decision → r.outcome = .refused

/-- What an action of a job does to the row. -/
inductive RowStep (p : Settings) : Job → World → World → Prop
  | keep {j : Job} {w w' : World} (row : w'.row = w.row) (rotations : w'.rotations = w.rotations) :
      RowStep p j w w'
  | rotate {x : String} {w w' : World} {d : Decision} (decided : d ∈ w.decisions)
      (presented : d.presented = p.hash x) (current : Current d)
      (now : w.row.refreshHash = p.hash x)
      (row : w'.row = { w.row with
        previousRefreshHash := p.hash x
        previousValidUntil := d.now + refreshReplayWindow
        refreshHash := p.hash (p.derive x)
        lastActiveAt := d.now })
      (rotations : w'.rotations = w.rotations ++ [(p.hash x, p.hash (p.derive x))]) :
      RowStep p (.refresh x) w w'
  | reuse {x : String} {w w' : World} {d : Decision} (decided : d ∈ w.decisions)
      (presented : d.presented = p.hash x) (replays : Replays d)
      (late : d.row.previousValidUntil < d.now)
      (row : w'.row = { w.row with
        status := .revoked
        revokedAt := d.now
        revokedReason := "refresh_reuse" })
      (rotations : w'.rotations = w.rotations) : RowStep p (.refresh x) w w'
  | security {x : String} {w w' : World} {now : Int}
      (row : w'.row = { w.row with
        status := .revoked
        revokedAt := now
        revokedReason := "user_security_changed" })
      (rotations : w'.rotations = w.rotations) : RowStep p (.refresh x) w w'

/-! ### The invariant -/

/-- The invariant of the system, for a session of version `v` that was opened with `s₀`. -/
structure Inv (p : Settings) (s₀ : String) (v : Int) (w : World) : Prop where
  chain : ∃ n, w.rotations = chain p s₀ n ∧ Link p s₀ w.row n
  decisions : ∀ d ∈ w.decisions, ∃ n, Link p s₀ d.row n
  returns : ∀ r ∈ w.returns, Answered p w r
  version : w.row.version = v
  cached : ∀ c ∈ w.cache, c.entry.version = v
  live : w.row.status = .active → w.row.revokedAt = 0

/-- What interference and every action respect. -/
structure Onward (w w' : World) : Prop where
  expiresAt : w'.row.expiresAt = w.row.expiresAt
  status : w.row.status ≠ .active → w'.row.status ≠ .active
  decisions : ∀ d ∈ w.decisions, d ∈ w'.decisions

theorem Onward.refl (w : World) : Onward w w := ⟨rfl, id, fun _ => id⟩

theorem Onward.trans (a b c : World) (h : Onward a b) (h' : Onward b c) : Onward a c :=
  ⟨h'.expiresAt.trans h.expiresAt, fun hs => h'.status (h.status hs),
    fun d hd => h'.decisions d (h.decisions d hd)⟩

/-- The guarantee of a job. -/
structure Step (p : Settings) (j : Job) (w w' : World) : Prop extends Onward w w' where
  row : RowStep p j w w'

/-- Knowledge that interference does not spoil. -/
def Stable (K : World → Prop) : Prop := ∀ w w', Onward w w' → K w → K w'

/-- An action beside the row and its records. -/
structure Frame (v : Int) (w w' : World) : Prop where
  row : w'.row = w.row
  rotations : w'.rotations = w.rotations
  decisions : w'.decisions = w.decisions
  returns : w'.returns = w.returns
  cached : ∀ c ∈ w'.cache, c ∈ w.cache ∨ c.entry.version = v

section Actions

variable {x : String} {v deadline now : Int} {j : Job} {w w' : World} {K : World → Prop}
  {entry : CacheEntry} {d : Decision}

theorem Answered.onward {r : Return} (h : Answered p w r) (hd : ∀ d ∈ w.decisions, d ∈ w'.decisions)
    (hs : w.row.status ≠ .active → w'.row.status ≠ .active) : Answered p w' r :=
  { h with decided := hd _ h.decided, reuse := fun hr hlate => (h.reuse hr hlate).imp id hs }

theorem Frame.refl (v : Int) (w : World) : Frame v w w := ⟨rfl, rfl, rfl, rfl, fun _ => .inl⟩

theorem Frame.step (h : Frame v w w') : Step p j w w' :=
  ⟨⟨by rw [h.row], by rw [h.row]; exact id, by rw [h.decisions]; exact fun _ => id⟩,
    .keep h.row h.rotations⟩

theorem Frame.inv (h : Frame v w w') (hI : Inv p s₀ v w) : Inv p s₀ v w' := by
  refine ⟨?_, ?_, ?_, ?_, fun c hc => ?_, ?_⟩
  · rw [h.rotations, h.row]
    exact hI.chain
  · rw [h.decisions]
    exact hI.decisions
  · rw [h.returns]
    exact fun r hr => (hI.returns r hr).onward (by rw [h.decisions]; exact fun _ => id) (by rw [h.row]; exact id)
  · rw [h.row]
    exact hI.version
  · exact (h.cached c hc).elim (hI.cached c) id
  · rw [h.row]
    exact hI.live

/-- The judgement about programs that need no knowledge of their own; `K` is the caller's. -/
abbrev Quiet (p : Settings) (s₀ : String) (v : Int) (j : Job) (K : World → Prop) {α : Type}
    (P : α → Prop) (c : Call α) : Prop :=
  Prog.Keeps (fun w => Inv p s₀ v w ∧ K w) (Step p j) P c

variable {α : Type}

theorem quiet_update {f : World → Env → World × α} {P : α → Prop} (hK : Stable K)
    (h : ∀ w e, Inv p s₀ v w → Frame v w (f w e).1 ∧ P (f w e).2) :
    Quiet p s₀ v j K P (Prog.update f) := by
  refine keeps_update fun w e hI => ?_
  obtain ⟨hframe, hP⟩ := h w e hI.1
  exact ⟨hframe.step, ⟨hframe.inv hI.1, hK w _ (hframe.step (p := p) (j := j)).toOnward hI.2⟩, hP⟩

theorem quiet_read {f : World → Env → α} {P : α → Prop}
    (h : ∀ w e, Inv p s₀ v w → P (f w e)) : Quiet p s₀ v j K P (Prog.read f) :=
  keeps_read (fun w _ => (Frame.refl v w).step) fun w e hI => h w e hI.1

theorem quiet_clock : Quiet p s₀ v j K (fun _ => True) clock := quiet_read fun _ _ _ => trivial

theorem quiet_readRow : Quiet p s₀ v j K (fun s => s.version = v) readRow :=
  quiet_read fun _ _ hI => hI.version

theorem quiet_deadline : Quiet p s₀ v j K (fun _ => True) (userSessionCacheDeadline p) :=
  quiet_clock.bind fun _ _ => keeps_pure trivial

/-! ### The cached copy -/

variable {e : Expiration}

theorem runScript_frame (hentry : entry.version = v) :
    Frame v w (w.runScript entry e).1 := by
  unfold runScript
  simp only
  split
  · exact Frame.refl v w
  split
  · exact Frame.refl v w
  cases e with
  | «at» time =>
    refine ⟨rfl, rfl, rfl, rfl, fun c hc => .inr ?_⟩
    simp only at hc
    split at hc <;> cases hc
    exact hentry
  | after duration =>
    refine ⟨rfl, rfl, rfl, rfl, fun c hc => .inr ?_⟩
    cases hc
    exact hentry

/-- A deny entry of the only version replaces whatever is cached. -/
theorem runScript_deny (hI : Inv p s₀ v w) (hv : 0 < v)
    (hentry : entry.version = v) (hdeny : entry.status ≠ .active) :
    (w.runScript entry e).2 = true := by
  have hversion : (w.visible.map CacheEntry.version).getD 0 ≤ v := by
    cases hvis : w.visible with
    | none => simpa using hv.le
    | some c =>
      obtain ⟨c', hc', -, rfl⟩ := visible_eq hvis
      simpa using (hI.cached c' hc').le
  unfold runScript
  rw [if_neg (fun h => hdeny h.1), hentry, if_neg (not_lt.mpr hversion)]
  cases e with
  | «at» time => rfl
  | after duration => rfl

/-- A write of a deny entry succeeds unless Redis fails. -/
theorem quiet_writeUserSessionCache {deadline : Option Int} (hK : Stable K) (hv : 0 < v)
    (hentry : entry.version = v) :
    Quiet p s₀ v j K (fun r => entry.status ≠ .active → r = .written ∨ r = .failed)
      (writeUserSessionCache p entry deadline) := by
  refine quiet_clock.bind fun n _ => ?_
  cases hexp : expiration p entry deadline n with
  | error r =>
    refine keeps_pure fun hdeny => ?_
    simp only [expiration, if_neg hdeny] at hexp
    cases hexp
  | ok e =>
    have hscript : Quiet p s₀ v j K (fun r => entry.status ≠ .active → r = .written ∨ r = .failed)
        (evalScript entry e) := by
      refine quiet_update hK fun w env hI => ?_
      cases env.delivery with
      | answered =>
        refine ⟨runScript_frame hentry, fun hdeny => .inl ?_⟩
        simp only [runScript_deny hI hv hentry hdeny, if_true]
      | lost => exact ⟨runScript_frame hentry, fun _ => .inr rfl⟩
      | failed => exact ⟨Frame.refl v w, fun _ => .inr rfl⟩
    refine hscript.bind fun r hr => ?_
    split
    · next h => exact quiet_clock.bind fun _ _ => keeps_pure fun hdeny => absurd h.2 hdeny
    · exact keeps_pure hr

variable {s : UserSession}

theorem quiet_fillCache (hK : Stable K) (hv : 0 < v) (hs : s.version = v) :
    Quiet p s₀ v j K (fun _ => True) (fillCache p s deadline) := by
  refine (quiet_writeUserSessionCache hK hv hs).bind fun r _ => ?_
  cases r with
  | stale =>
    have hconfirm : Quiet p s₀ v j K (fun _ => True) (confirmUserSessionActiveSnapshot s) :=
      quiet_clock.bind fun _ _ => quiet_read fun _ _ _ => trivial
    exact hconfirm.bind fun _ _ => keeps_pure trivial
  | inactive | written | invalid | failed => exact keeps_pure trivial

variable {reason : String}

theorem quiet_writeTombstone (hK : Stable K) (hv : 0 < v)
    (hs : s.version = v) : Quiet p s₀ v j K (fun _ => True) (writeTombstone p s now reason) :=
  (quiet_writeUserSessionCache hK hv hs).bind fun _ _ => keeps_pure trivial

theorem observe_frame (d : Int) : Frame v w (w.observe d) := by
  unfold observe
  split
  · exact ⟨rfl, rfl, rfl, rfl, fun _ => .inl⟩
  · exact Frame.refl v w

theorem quiet_getUserSessionCached (hK : Stable K) (hv : 0 < v) :
    Quiet p s₀ v j K (fun _ => True) (getUserSessionCached p) := by
  have hdatabase : Quiet p s₀ v j K (fun _ => True) (getFromDatabase p) := by
    refine quiet_deadline.bind fun d _ => ?_
    have hread : Quiet p s₀ v j K (fun s => s.version = v) (getUserSessionBySID d) :=
      quiet_update hK fun w _ hI => ⟨observe_frame d, hI.version⟩
    refine hread.bind fun s hs => ?_
    refine quiet_clock.bind fun now _ => ?_
    split
    · exact quiet_fillCache hK hv hs
    · exact (quiet_writeUserSessionCache hK hv hs).bind fun _ _ => keeps_pure trivial
  have hlookup : Quiet p s₀ v j K (fun _ => True) (lookupSession p) := by
    refine Keeps.bind (P := fun _ => True) (quiet_read fun _ _ _ => trivial) fun r _ => ?_
    cases r with
    | none => exact hdatabase
    | some e => exact quiet_clock.bind fun _ _ => keeps_pure trivial
  refine Keeps.bind (P := fun _ => True) (quiet_read fun _ _ _ => trivial) fun late _ => ?_
  refine hlookup.bind fun r _ => ?_
  refine Keeps.bind (P := fun _ => True) (quiet_update hK fun w _ _ => ?_) fun _ _ => keeps_pure trivial
  exact ⟨⟨rfl, rfl, rfl, rfl, fun _ => .inl⟩, trivial⟩

/-! ### Changes of the row -/

/-- A row that is not usable at a time before its end is not active. -/
theorem Inv.closed (hI : Inv p s₀ v w) (hnow : now < w.row.expiresAt)
    (h : ¬ w.row.usable now = true) : w.row.status ≠ .active := by
  intro hactive
  refine h ?_
  simp [UserSession.usable, hactive, hI.live hactive, hnow]

/-- A revocation keeps the invariant; the caller says which one it is. -/
theorem revoke_step (cond : UserSession → Bool) (hI : Inv p s₀ v w)
    (hrow : ∀ w', w'.row = { w.row with status := .revoked, revokedAt := now, revokedReason := reason } →
      w'.rotations = w.rotations → RowStep p j w w') :
    Step p j w (w.revoke cond now reason).1 ∧ Inv p s₀ v (w.revoke cond now reason).1 := by
  unfold revoke
  split
  · obtain ⟨n, hrot, hlink⟩ := hI.chain
    refine ⟨⟨⟨rfl, fun _ => by simp, fun _ => id⟩, hrow _ rfl rfl⟩, ⟨n, hrot, hlink.current, hlink.previous⟩,
      hI.decisions, fun r hr => (hI.returns r hr).onward (fun _ => id) fun _ => by simp, hI.version, hI.cached, ?_⟩
    intro h
    cases h
  · exact ⟨(Frame.refl v w).step, hI⟩

/-- The compare-and-swap moves the digest along the chain. -/
theorem rotate_step (hhash : p.hash.Injective) (hI : Inv p s₀ v w) (hd : d ∈ w.decisions)
    (hpresented : d.presented = p.hash x) (hcurrent : Current d) :
    Step p (.refresh x) w (w.rotate (p.hash x) (p.hash (p.derive x)) d.now refreshReplayWindow).1 ∧
      Inv p s₀ v (w.rotate (p.hash x) (p.hash (p.derive x)) d.now refreshReplayWindow).1 := by
  unfold World.rotate
  split
  · next hcas =>
    obtain ⟨n, hrot, hlink⟩ := hI.chain
    have hn : p.hash x = digest p s₀ n := hcas.2.symm.trans hlink.current
    have hnext := digest_derive hhash hn
    refine ⟨⟨⟨rfl, id, fun _ => id⟩, .rotate hd hpresented hcurrent hcas.2 rfl rfl⟩,
      ⟨n + 1, ?_, hnext, hn⟩, hI.decisions, fun r hr => (hI.returns r hr).onward (fun _ => id) id, hI.version,
      hI.cached, hI.live⟩
    rw [chain_succ, hrot, hn, hnext]
  · exact ⟨(Frame.refl v w).step, hI⟩

/-! ### Calls -/

/-- The judgement about the calls. -/
abbrev Ok (p : Settings) (s₀ : String) (v : Int) (j : Job) {α : Type} (Q : α → World → Prop)
    (c : Call α) (w : World) : Prop :=
  Prog.Safe (Inv p s₀ v) (Step p j) Onward Q c w

/-- A revocation for the security of the user, whatever was presented. -/
theorem quiet_revokeUserSession {userID : Int} (hK : Stable K) (hv : 0 < v) :
    Quiet p s₀ v (.refresh x) K (fun _ => True)
      (revokeUserSession p userID "user_security_changed") := by
  refine quiet_clock.bind fun time _ => ?_
  refine quiet_readRow.bind fun s hs => ?_
  split
  · exact keeps_pure trivial
  refine (quiet_writeUserSessionCache hK hv hs).bind fun r _ => ?_
  cases r with
  | written =>
    refine Keeps.bind (P := fun _ => True) (keeps_update fun w _ hI => ?_) fun b _ => ?_
    · obtain ⟨hstep, hinv⟩ := revoke_step (fun row => row.usable (unix time)) hI.1
        fun _ => .security
      exact ⟨hstep, ⟨hinv, hK w _ hstep.toOnward hI.2⟩, trivial⟩
    split
    · exact quiet_writeTombstone hK hv hs
    · exact keeps_pure trivial
  | inactive | stale | invalid | failed => exact keeps_pure trivial

/-- What is known behind the read of a rotation. -/
structure Read (d : Decision) (w : World) : Prop where
  decided : d ∈ w.decisions
  expiresAt : d.row.expiresAt = w.row.expiresAt

theorem stable_read (d : Decision) : Stable (Read d) := fun _ _ hl h =>
  ⟨hl.decisions d h.decided, h.expiresAt.trans hl.expiresAt.symm⟩

theorem Read.before_end (h : Read d w) (hu : d.row.usable d.now = true) :
    d.now < w.row.expiresAt := by
  simp only [UserSession.usable, Bool.and_eq_true, decide_eq_true_eq] at hu
  exact h.expiresAt ▸ hu.2

/-- The results of a rotation, by the row of its last read. -/
inductive Decided (d : Decision) (w : World) : RotateResult → Prop
  | rotated (s : UserSession) (h : Current d) : Decided d w (.rotated s)
  | beaten (h : Current d) : Decided d w .refreshInvalid
  | unwritten (h : Current d) : Decided d w .inactive
  | race (h : Replays d) (within : d.now ≤ d.row.previousValidUntil) : Decided d w (.race d.row)
  | reuse (h : Replays d) (late : d.row.previousValidUntil < d.now) (closed : w.row.status ≠ .active) :
      Decided d w .reuse
  | revoked (h : Replays d) (late : d.row.previousValidUntil < d.now)
      (closed : w.row.status ≠ .active) : Decided d w .inactive
  | failed (h : Replays d) (late : d.row.previousValidUntil < d.now) : Decided d w .failed
  | unknown (h : Unknown d) : Decided d w .refreshInvalid
  | unusable (h : d.row.usable d.now = false) : Decided d w .inactive

theorem stable_decided (d : Decision) (r : RotateResult) : Stable (fun w => Decided d w r) := by
  intro w w' hl h
  cases h with
  | rotated s h => exact .rotated s h
  | beaten h => exact .beaten h
  | unwritten h => exact .unwritten h
  | race h within => exact .race h within
  | reuse h late closed => exact .reuse h late (hl.status closed)
  | revoked h late closed => exact .revoked h late (hl.status closed)
  | failed h late => exact .failed h late
  | unknown h => exact .unknown h
  | unusable h => exact .unusable h

/-- The replay of a previous digest behind its window closes the session, unless Redis fails. -/
theorem revokeReuse_ok (hv : 0 < v) (hI : Inv p s₀ v w) (hread : Read d w)
    (hversion : d.row.version = v) (hpresented : d.presented = p.hash x) (hreplays : Replays d)
    (hlate : d.row.previousValidUntil < d.now) :
    Ok p s₀ v (.refresh x) (fun r w' => Decided d w' r ∧ Read d w') (revokeReuse p d.row d.now) w := by
  have hK := stable_read d
  have hfence : Ok p s₀ v (.refresh x) (fun r w' => (r = .written ∨ r = .failed) ∧ Read d w')
      (writeUserSessionDenyFence p d.row d.now "refresh_reuse") w := by
    refine ((quiet_writeUserSessionCache hK hv hversion).safe hK hread).mono hI ?_
    exact fun r w' _ h => ⟨h.1 (by simp [denyEntry]), h.2⟩
  refine hfence.bind hI fun r w₁ hI₁ hr => ?_
  rcases hr.1 with rfl | rfl
  · have hrevoke : Ok p s₀ v (.refresh x) (fun _ w' => w'.row.status ≠ .active ∧ Read d w')
        (update fun w _ => w.revoke (fun row => row.usable d.now) d.now "refresh_reuse") w₁ := by
      refine safe_update fun w' hl hI' _ => ?_
      have hread' := hK w₁ w' hl hr.2
      obtain ⟨hstep, hinv⟩ := revoke_step (fun row => row.usable d.now) hI'
        fun _ => .reuse hread'.decided hpresented hreplays hlate
      refine ⟨hstep, hinv, ?_, hK w' _ hstep.toOnward hread'⟩
      unfold revoke
      split
      · simp
      · next hcond =>
        intro hactive
        refine hI'.closed (hread'.before_end hreplays.usable) ?_ hactive
        exact fun hu => hcond ⟨hactive, hu⟩
    refine hrevoke.bind hI₁ fun b w₂ hI₂ hclosed => ?_
    have hK' : Stable (fun w => w.row.status ≠ .active ∧ Read d w) := fun w w' hl h =>
      ⟨hl.status h.1, hK w w' hl h.2⟩
    split
    · refine (Keeps.safe (quiet_writeTombstone hK' hv hversion) hK' hclosed).bind hI₂
        fun _ w₃ _ h => safe_pure ⟨.reuse hreplays hlate h.2.1, h.2.2⟩
    · exact safe_pure ⟨.revoked hreplays hlate hclosed.1, hclosed.2⟩
  · exact safe_pure ⟨.failed hreplays hlate, hr.2⟩

/-- The read of a rotation is recorded as its decision. -/
theorem readForRotation_ok {presented : String} :
    Ok p s₀ v j (fun s w' => s.version = v ∧ Read ⟨presented, now, s⟩ w')
      (readForRotation presented now deadline) w := by
  refine safe_update fun w' _ hI _ => ?_
  have hframe : Frame v w' (w'.observe deadline) := observe_frame deadline
  obtain ⟨hexpires, hstatus, -⟩ := (hframe.step (p := p) (j := j)).toOnward
  have hinv := hframe.inv hI
  have hdecisions : ∀ d ∈ (w'.observe deadline).decisions,
      d ∈ Decision.mk presented now w'.row :: w'.decisions := by
    rw [hframe.decisions]
    exact fun d => mem_cons_of_mem _
  refine ⟨⟨⟨hexpires, hstatus, fun d => mem_cons_of_mem _⟩, .keep hframe.row hframe.rotations⟩,
    { hinv with decisions := fun d hd => ?_, returns := fun r hr => (hinv.returns r hr).onward hdecisions id }, hI.version, mem_cons_self, hexpires.symm⟩
  rcases mem_cons.mp hd with rfl | hd
  · obtain ⟨n, -, hlink⟩ := hI.chain
    exact ⟨n, hlink⟩
  · exact hI.decisions d hd

/-- The judgement of a rotation: it returns what its last read decides. -/
abbrev RotateOk (p : Settings) (s₀ : String) (v : Int) (x : String)
    (c : Call (RotateResult × Decision)) (w : World) : Prop :=
  Ok p s₀ v (.refresh x)
    (fun rd w' => rd.2.presented = p.hash x ∧ Decided rd.2 w' rd.1 ∧ Read rd.2 w') c w

section

variable (hhash : p.hash.Injective)
include hhash

/-- A call that found the presented digest current: it rotates, or it has been beaten. -/
theorem rotateCurrent_ok {retry : Call (RotateResult × Decision)}
    (hv : 0 < v) (hI : Inv p s₀ v w) (hpresented : d.presented = p.hash x) (hcurrent : Current d)
    (hversion : d.row.version = v) (hread : Read d w)
    (hretry : ∀ w', Inv p s₀ v w' → Read d w' → RotateOk p s₀ v x retry w') :
    RotateOk p s₀ v x (do
      let won ← Prog.update fun w _ =>
        w.rotate (p.hash x) (p.hash (p.derive x)) d.now refreshReplayWindow
      if won then do
        let r ← finishRotation p { d.row with
          previousRefreshHash := d.row.refreshHash
          previousValidUntil := d.now + refreshReplayWindow
          refreshHash := p.hash (p.derive x)
          lastActiveAt := d.now } deadline
        return (r, d)
      else retry) w := by
  have hK := stable_read d
  have hcas : Ok p s₀ v (.refresh x) (fun _ => Read d)
      (update fun w _ => w.rotate (p.hash x) (p.hash (p.derive x)) d.now refreshReplayWindow) w := by
    refine safe_update fun w' hl hI' _ => ?_
    have hread' := hK w w' hl hread
    obtain ⟨hstep, hinv⟩ := rotate_step hhash hI' hread'.decided hpresented hcurrent
    exact ⟨hstep, hinv, hK w' _ hstep.toOnward hread'⟩
  refine hcas.bind hI fun won w₁ hI₁ hread₁ => ?_
  split
  · refine Safe.bind (Q := fun r w' => Decided d w' r ∧ Read d w') ?_ hI₁
      fun r w₂ _ hr => safe_pure ⟨hpresented, hr⟩
    refine Safe.bind (Keeps.safe (quiet_fillCache hK hv hversion) hK hread₁) hI₁
      fun r w₂ _ hr => ?_
    cases r with
    | none => exact safe_pure ⟨.unwritten hcurrent, hr.2⟩
    | some s => exact safe_pure ⟨.rotated s hcurrent, hr.2⟩
  · exact hretry w₁ hI₁ hread₁

/-- The loop returns what its last read decides. -/
theorem rotateLoop_ok (hv : 0 < v) (hnonempty : p.hash x ≠ "")
    (tries : Nat) (hI : Inv p s₀ v w)
    (hd : tries = 0 → d.presented = p.hash x ∧ Current d ∧ Read d w) :
    RotateOk p s₀ v x
      (rotateLoop p (p.hash x) (p.hash (p.derive x)) now refreshReplayWindow tries d) w := by
  induction tries generalizing d w with
  | zero =>
    obtain ⟨hpresented, hcurrent, hread⟩ := hd rfl
    exact safe_pure ⟨hpresented, .beaten hcurrent, hread⟩
  | succ tries ih =>
    have htrivial : Stable (fun _ => True) := fun _ _ _ => id
    refine (quiet_deadline.safe htrivial trivial).bind hI fun deadline w₁ hI₁ _ => ?_
    refine readForRotation_ok.bind hI₁ fun s w₂ hI₂ ⟨hversion, hread⟩ => ?_
    split
    · next hu => exact safe_pure ⟨rfl, .unusable hu, hread⟩
    next hu =>
    have husable : s.usable now = true := by simpa using hu
    split
    · next hcur =>
      have hcurrent : Current ⟨p.hash x, now, s⟩ := ⟨husable, hcur⟩
      exact rotateCurrent_ok (d := ⟨p.hash x, now, s⟩) hhash hv hI₂ rfl hcurrent hversion hread fun w' hI' hread' =>
        ih hI' fun _ => ⟨rfl, hcurrent, hread'⟩
    next hcur =>
    split
    · next hunknown =>
      have hprevious : s.previousRefreshHash ≠ p.hash x := by
        intro h
        rcases hunknown with he | hne
        · exact hnonempty (h.symm.trans he)
        · exact hne h
      exact safe_pure ⟨rfl, .unknown ⟨husable, hcur, hprevious⟩, hread⟩
    next hknown =>
    have hprevious : s.previousRefreshHash = p.hash x := by
      by_contra h
      exact hknown (.inr h)
    have hreplays : Replays ⟨p.hash x, now, s⟩ := ⟨husable, hcur, hnonempty, hprevious⟩
    split
    · next hwithin => exact safe_pure ⟨rfl, .race hreplays hwithin, hread⟩
    · next hlate =>
      have hreuse :=
        revokeReuse_ok (d := ⟨p.hash x, now, s⟩) hv hI₂ hread hversion rfl hreplays (not_le.mp hlate)
      exact hreuse.bind hI₂ fun r w₃ _ hr => safe_pure ⟨rfl, hr⟩

/-- The token of a replay within the window is the current one. -/
theorem replayed_current {n : Nat} (hpresented : d.presented = p.hash x)
    (hreplays : Replays d) (hlink : Link p s₀ d.row n) :
    p.hash (p.derive x) = d.row.refreshHash := by
  have hprevious : previousDigest p s₀ n = p.hash x :=
    hlink.previous.symm.trans (hreplays.previous.trans hpresented)
  cases n with
  | zero => exact absurd (hpresented.trans hprevious.symm) hreplays.nonempty
  | succ n => exact (digest_derive hhash hprevious.symm).trans hlink.current.symm

/-- A decided rotation gives the refresh its answer. -/
theorem Decided.answered {r : RotateResult} (hI : Inv p s₀ v w)
    (hread : Read d w) (hpresented : d.presented = p.hash x) (h : Decided d w r) :
    Answered p w ⟨d, refreshOutcome p (p.derive x) r⟩ := by
  obtain ⟨n, hlink⟩ := hI.decisions d hread.decided
  have hcurrent : ∀ {o : Outcome}, Current d → Answered p w ⟨d, o⟩ := fun hc =>
    ⟨hread.decided, fun _ _ => hc, fun hr => absurd hc.current hr.notCurrent, fun hr => absurd hc.current hr.notCurrent,
      fun hu => absurd hc.current hu.notCurrent⟩
  have hlateReplay : ∀ {o : Outcome}, Replays d → d.row.previousValidUntil < d.now →
      (∀ s, o ≠ .rotated s) → (o = .failed ∨ w.row.status ≠ .active) → Answered p w ⟨d, o⟩ :=
    fun hr hlate ho hclosed => ⟨hread.decided, fun s hs => absurd hs (ho s), fun _ hwithin => absurd hwithin (not_le.mpr hlate),
      fun _ _ => hclosed, fun hu => absurd hr.previous hu.notPrevious⟩
  cases h with
  | rotated _ hc | beaten hc | unwritten hc => exact hcurrent hc
  | race hr hwithin =>
    have htoken := replayed_current hhash hpresented hr hlink
    rw [refreshOutcome, if_pos htoken]
    exact ⟨hread.decided, fun s hs => by (cases hs), fun _ _ => ⟨_, rfl, htoken⟩,
      fun _ hlate => absurd hwithin (not_le.mpr hlate), fun hu => absurd hr.previous hu.notPrevious⟩
  | reuse hr hlate hclosed | revoked hr hlate hclosed => exact hlateReplay hr hlate (by simp [refreshOutcome]) (.inr hclosed)
  | failed hr hlate => exact hlateReplay hr hlate (by simp [refreshOutcome]) (.inl rfl)
  | unknown hu =>
    exact ⟨hread.decided, fun s hs => by (cases hs), fun hr => absurd hr.previous hu.notPrevious,
      fun hr => absurd hr.previous hu.notPrevious, fun _ => rfl⟩
  | unusable hu =>
    have hnot : d.row.usable d.now ≠ true := by simp [hu]
    exact ⟨hread.decided, fun s hs => by (cases hs), fun hr => absurd hr.usable hnot, fun hr => absurd hr.usable hnot,
      fun hu' => absurd hu'.usable hnot⟩

theorem refreshLoginSession_ok (hv : 0 < v) (hI : Inv p s₀ v w) (x : String) :
    Ok p s₀ v (.refresh x) (fun _ _ => True) (refreshLoginSession p x) w := by
  have htrivial : Stable (fun _ => True) := fun _ _ _ => id
  refine (Keeps.safe (quiet_getUserSessionCached htrivial hv) htrivial trivial).bind hI
    fun r w₁ hI₁ _ => ?_
  cases r with
  | none => exact safe_pure trivial
  | some s =>
    refine (quiet_clock.safe htrivial trivial).bind hI₁ fun time w₂ hI₂ _ => ?_
    split
    · exact safe_pure trivial
    have huser : Quiet p s₀ v (.refresh x) (fun _ => True) (fun _ => True)
        (read fun _ env => env.userOk) := quiet_read fun _ _ _ => trivial
    refine (huser.safe htrivial trivial).bind hI₂ fun userOk w₃ hI₃ _ => ?_
    split
    · refine ((quiet_revokeUserSession htrivial hv).safe htrivial trivial).mono hI₃ ?_
      exact fun _ _ _ _ => trivial
    refine (quiet_clock.safe htrivial trivial).bind hI₃ fun time w₄ hI₄ _ => ?_
    refine Safe.bind (Q := fun rd w' => ∀ d ∈ rd.2, d.presented = p.hash x ∧ Decided d w' rd.1 ∧ Read d w')
      ?_ hI₄ fun ⟨r, d⟩ w₅ hI₅ hd => ?_
    · refine (quiet_readRow.safe htrivial trivial).bind hI₄ fun row w₅ hI₅ _ => ?_
      split
      · exact safe_pure fun d hd => by (cases hd)
      next hvalid =>
      have hnonempty : p.hash x ≠ "" := fun h => hvalid (.inr (.inl h))
      refine (rotateLoop_ok hhash hv hnonempty 3 hI₅ fun h => by (cases h)).bind hI₅
        fun ⟨r, d⟩ w₆ _ hr => safe_pure fun d' hd' => ?_
      cases hd'
      exact hr
    cases d with
    | none => exact safe_pure trivial
    | some d =>
      obtain ⟨hpresented, hdecided, hread⟩ := hd d rfl
      refine safe_update fun w' hl hI' _ => ⟨⟨⟨rfl, id, fun _ => id⟩, .keep rfl rfl⟩,
        { hI' with returns := fun ret hret => ?_ }, trivial⟩
      rcases mem_cons.mp hret with rfl | hret
      · exact ((stable_decided d r w₅ w' hl hdecided).answered hhash hI' (stable_read d w₅ w' hl hread)
          hpresented).onward (fun _ => id) id
      · exact (hI'.returns ret hret).onward (fun _ => id) id

end

end Actions

/-! ### Runs -/

variable {sys : System World Env Job} {w₀ : World}

theorem refreshReaches_sound {v : Int}
    (hhash : p.hash.Injective) (hv : 0 < v) (h₀ : Inv p s₀ v w₀) (h : RefreshReaches p w₀ sys) :
    System.Sound (Inv p s₀ v) (Step p) Onward w₀ sys := by
  obtain ⟨events, hrun⟩ := h
  refine System.run_sound Onward.refl Onward.trans (fun _ _ _ hg => hg.toOnward) ?_
    (System.sound_init h₀) hrun
  intro j w w' prog hI hl
  have hrefl : Step p j w w := (Frame.refl v w).step
  cases j with
  | tick =>
    cases hl
    refine ⟨hrefl, hI, safe_update fun w' _ hI' env => ?_⟩
    have hframe : Frame v w' { w' with now := w'.now + env.elapsed } := ⟨rfl, rfl, rfl, rfl, fun _ => .inl⟩
    exact ⟨hframe.step, hframe.inv hI', trivial⟩
  | refresh x =>
    cases hl
    exact ⟨hrefl, hI, refreshLoginSession_ok hhash hv hI x⟩
  | _ => cases hl

/-- A session that was opened with the secret `s₀` and has a version, as every row has. -/
structure Opened (p : Settings) (s₀ : String) (w : World) : Prop where
  refreshHash : w.row.refreshHash = p.hash s₀
  previous : w.row.previousRefreshHash = ""
  live : w.row.status = .active → w.row.revokedAt = 0
  version : 0 < w.row.version
  cache : w.cache = none
  rotations : w.rotations = []
  decisions : w.decisions = []
  returns : w.returns = []

variable {w : World}

theorem Opened.inv (h : Opened p s₀ w) : Inv p s₀ w.row.version w := by
  refine ⟨⟨0, h.rotations, h.refreshHash, h.previous⟩, ?_, ?_, rfl, ?_, h.live⟩
  · rw [h.decisions]
    exact fun d hd => by (cases hd)
  · rw [h.returns]
    exact fun r hr => by (cases hr)
  · rw [h.cache]
    exact fun c hc => by (cases hc)

/-- The digests form one chain, and a refresh does what the row of its last read says. -/
structure Contained (p : Settings) (s₀ : String) (sys : System World Env Job) : Prop where
  chain : ∃ n, sys.state.rotations = chain p s₀ n ∧ sys.state.row.refreshHash = digest p s₀ n
  once : (sys.state.rotations.map Prod.fst).Nodup
  decisions : ∀ d ∈ sys.state.decisions, ∃ n, Link p s₀ d.row n
  returns : ∀ r ∈ sys.state.returns, Answered p sys.state r
  changes : ∀ t ∈ sys.history, RowStep p t.job t.before t.after

theorem freshWorld_opened : Opened plainSettings "s" freshWorld :=
  ⟨rfl, rfl, fun _ => rfl, by decide, rfl, rfl, rfl, rfl⟩

/-- The end of a run of refreshes. -/
def refreshed (p : Settings) (w : World) (events : List (Event Env Job)) : System World Env Job :=
  (run (System.step (launchRefresh p)) ⟨w, [], []⟩ events).getD ⟨w, [], []⟩

theorem reaches_refreshed {events : List (Event Env Job)}
    (h : (run (System.step (launchRefresh p)) ⟨w, [], []⟩ events).isSome = true) :
    RefreshReaches p w (refreshed p w events) :=
  ⟨events, run_getD h⟩

theorem plainSettings_hash_injective : plainSettings.hash.Injective := by
  intro a b h
  simpa [plainSettings] using h

theorem plainSettings_derive_injective : plainSettings.derive.Injective := by
  intro a b h
  simpa [plainSettings] using h

theorem plainSettings_drawn (s : String) : plainSettings.derive s ≠ "s" := by
  intro h
  have hchars := congrArg String.toList h
  have hlast := congrArg getLast? hchars
  simp [plainSettings] at hlast

/-- A rotation, a replay of the first secret within its window, and one behind it. -/
def replayEvents : List (Event Env Job) :=
  [.launch (.refresh "s")] ++ actions 0 20 ++ [.launch (.refresh "s")] ++ actions 1 11 ++ wait 2 31000 ++
    [.launch (.refresh "s")] ++ actions 3 16

/-- A secret that was never current, presented when the user of the session has been disabled. -/
def unknownSecretEvents : List (Event Env Job) :=
  [.launch (.refresh "z")] ++ List.replicate 18 (.advance 0 { userOk := false })

/-- Derivations that lead back to the first secret. -/
def cyclicSettings : Settings :=
  { plainSettings with derive := fun s => if s = "s" then "t" else if s = "t" then "s" else s }

theorem cyclicSettings_derive_injective : cyclicSettings.derive.Injective := by
  intro a b h
  simp only [cyclicSettings] at h
  grind

/-- Three rotations, from `s` to `t`, back to `s` and to `t` again. -/
def cyclicEvents : List (Event Env Job) :=
  [.launch (.refresh "s")] ++ actions 0 20 ++ [.launch (.refresh "t")] ++ actions 1 15 ++
    [.launch (.refresh "s")] ++ actions 2 15

/-- A replay within the window that is overtaken by a rotation of the current secret before it
returns. -/
def overtakenEvents : List (Event Env Job) :=
  [.launch (.refresh "s")] ++ actions 0 20 ++ [.launch (.refresh "s")] ++ actions 1 10 ++
    [.launch (.refresh "s+")] ++ actions 2 15 ++ actions 1 1

end MyApiSpec.Session.Refresh
