import Mathlib.Algebra.Order.Group.Int
import MyApiSpec.TwoFactor.Verification

/-!
# Lockout under concurrency

The lock is checked on a copy of the row, so any number of codes can be evaluated before a lock takes
effect; what is bounded is the number of failures that are counted. As long as no code is accepted, the
count only grows, every failure from the fifth on sets a lock, and a lock in force stays. An accepted
code overwrites count and lock.
-/

namespace MyApiSpec.TwoFactor

open Base List Option World Phase Acceptance Config

variable {o : Oracle} {w w' w₀ : World} {a : Actor}

/-- A lock is in force. -/
def World.InForce (w : World) : Prop := w.factor.isLocked w.now = true

/-- One for a verification that has a rejected code to record. -/
def Phase.recording : Phase → Int
  | .reading .. => 1
  | .timing .. => 1
  | .writing .. => 1
  | _ => 0

/-- The measure of `Phase.recording` for all actors. -/
def Actor.recording : Actor → Int
  | .clock => 0
  | .verifier p => p.recording

/-- The backup code of an acceptance. -/
def Acceptance.backup? : Acceptance → Option Int
  | .totp => none
  | .backup id => some id

/-- Nothing has been verified yet. -/
structure World.Initial (w : World) : Prop where
  attempts : 0 ≤ w.factor.failedAttempts
  rejected : w.rejected = 0
  failures : w.failures = []
  lockMet : w.lockMet = 0
  givenUp : w.givenUp = 0
  accepted : w.accepted = []

/-! ### One statement -/

/-- The rejected codes that are neither counted nor met a lock nor were given up. -/
def World.unrecorded (w : World) : Int := w.rejected - w.failures.length - w.lockMet - w.givenUp

/-- What a verification knows of the row as long as no code is accepted. -/
def Phase.Knows (w : World) : Phase → Prop
  | .timing _ _ _ _ current =>
    ∀ u, current.lockedUntil = some u → u ≤ w.now ∨ w.factor.lockedUntil = some u
  | .writing _ _ _ _ _ now => now ≤ w.now
  | .stamping _ => False
  | .saving _ => False
  | _ => True

/-- The copy of an evaluation has no lock that is still to come. -/
def Phase.Unlocked (w : World) : Phase → Prop
  | .evaluating _ t _ => ∀ u, t.lockedUntil = some u → u ≤ w.now
  | _ => True

/-- A code is still to be checked, or the verification is over. -/
def Phase.Resting : Phase → Prop
  | .checking .. => True
  | .finished _ => True
  | _ => False

section Step

variable {p p' : Phase} {r : Request} {t current : TwoFA} {kind : Kind} {tries : Nat} {now : Int}

theorem Phase.Resting.recording (h : p.Resting) : p.recording = 0 := by
  cases p <;> simp_all [Phase.Resting, recording]

theorem Phase.Resting.knows (h : p.Resting) : p.Knows w := by
  cases p <;> simp_all [Phase.Resting, Phase.Knows]

theorem Phase.Resting.unlocked (h : p.Resting) : p.Unlocked w := by
  cases p <;> simp_all [Phase.Resting, Phase.Unlocked]

theorem afterRejection_resting : (afterRejection r t kind).Resting := by
  cases kind with
  | totp => cases hb : r.backup <;> simp [afterRejection, hb, Phase.Resting]
  | backup => trivial

theorem firstCheck_resting : (firstCheck r t).Resting := by
  unfold firstCheck
  split
  · trivial
  · split <;> trivial

/-- What one statement does. A statement that leaves the rows alone keeps what is to be recorded and
what is known. -/
inductive Advanced (w : World) : Phase → World → Phase → Prop
  | moved {p p' : Phase} {n : Nat} (hrecording : p'.recording = p.recording)
      (hknows : p.Knows w → p'.Knows w) (hunlocked : p'.Unlocked w) :
      Advanced w p { w with evaluated := n } p'
  | rejected {p : Phase} {r : Request} {t : TwoFA} {kind : Kind} {n : Nat} (hp : p.recording = 0) :
      Advanced w p { w with evaluated := n, rejected := w.rejected + 1 }
        (.reading r t kind maxUpdateRetries)
  | totp {r : Request} {t : TwoFA} {n : Nat} : Advanced w (.evaluating r t .totp)
      { w with evaluated := n, accepted := w.accepted ++ [.totp] } (.stamping t)
  | backup {r : Request} {t : TwoFA} {id : Int} {codes : Table BackupCode}
      (hcas : w.codes.cas id (fun bc => !bc.isUsed)
        (fun bc => { bc with isUsed := true, usedAt := some w.now }) = some codes) :
      Advanced w (.using r t id)
        { w with codes := codes, accepted := w.accepted ++ [.backup id] } (.stamping t)
  | locked {p' : Phase} {r : Request} {t current : TwoFA} {kind : Kind} {tries : Nat}
      (hlocked : current.isLocked w.now = true) (hrests : p'.Resting) :
      Advanced w (.timing r t kind tries current) { w with lockMet := w.lockMet + 1 } p'
  | counted {p' : Phase} {r : Request} {t current factor : TwoFA} {kind : Kind} {tries : Nat}
      {now : Int} (hsame : w.factor.failedAttempts = current.failedAttempts)
      (hfree : w.factor.isLocked now = false)
      (hfactor : factor.failedAttempts = current.failedAttempts + 1) (hrests : p'.Resting) :
      Advanced w (.writing r t kind tries current now)
        { w with factor := factor, failures := w.failures ++ [newLock current now] } p'
  | givenUp {p p' : Phase} (hp : p.recording = 1) (hrests : p'.Resting) :
      Advanced w p { w with givenUp := w.givenUp + 1 } p'
  | saved {t factor : TwoFA} : Advanced w (.saving t) { w with factor := factor } (.finished true)

theorem Phase.Resting.advanced {n : Nat} (h' : p'.Resting) (h : p.recording = 0) :
    Advanced w p { w with evaluated := n } p' :=
  .moved (h'.recording.trans h.symm) (fun _ => h'.knows) h'.unlocked

theorem TwoFA.isLocked_eq_false {u : Int} (h : t.isLocked now = false) (hu : t.lockedUntil = some u) :
    u ≤ now := by
  simpa [TwoFA.isLocked, hu] using h

theorem TwoFA.isLocked_eq_true (h : t.isLocked now = true) :
    ∃ u, t.lockedUntil = some u ∧ now < u := by
  unfold TwoFA.isLocked at h
  cases hu : t.lockedUntil with
  | none => simp [hu] at h
  | some u => exact ⟨u, rfl, by simpa [hu] using h⟩

theorem advance_advanced (h : w.advance o p = some (w', p')) : Advanced w p w' p' := by
  cases p with
  | loading r =>
    cases h
    split
    · exact firstCheck_resting.advanced rfl
    · exact Phase.Resting.advanced trivial rfl
  | checking r t kind =>
    cases h
    split
    · exact afterRejection_resting.advanced rfl
    · next hfree =>
      exact .moved rfl (fun _ => trivial) fun u => TwoFA.isLocked_eq_false (by simpa using hfree)
  | evaluating r t kind =>
    cases kind with
    | totp =>
      simp only [advance, evaluateTOTP, reject] at h
      split at h <;> cases h
      · exact .totp
      · exact .rejected rfl
    | backup =>
      simp only [advance, evaluateBackup, reject] at h
      split at h
      · split at h <;> cases h
        · exact .moved rfl (fun _ => trivial) trivial
        · exact .rejected rfl
      · cases h
        exact Phase.Resting.advanced trivial rfl
  | «using» r t id =>
    simp only [advance, useBackup, reject] at h
    split at h <;> cases h
    · next hcas => exact .backup hcas
    · exact .rejected rfl
  | reading r t kind tries =>
    cases h
    exact .moved rfl (fun _ _ => .inr) trivial
  | timing r t kind tries current =>
    simp only [advance, timeFailure] at h
    split at h <;> cases h
    · next hlocked => exact .locked hlocked afterRejection_resting
    · exact .moved rfl (fun _ => le_rfl) trivial
  | writing r t kind tries current now =>
    simp only [advance, writeFailure] at h
    split at h
    · next hguard =>
      cases h
      exact .counted hguard.1 hguard.2 rfl afterRejection_resting
    · split at h <;> cases h
      · exact .givenUp rfl afterRejection_resting
      · exact .moved rfl (fun _ => trivial) trivial
  | stamping t =>
    cases h
    exact .moved rfl False.elim trivial
  | saving t =>
    cases h
    exact .saved
  | finished ok => cases h

/-- Rejected codes are recorded. -/
theorem Advanced.unrecorded (h : Advanced w p w' p') :
    w'.unrecorded - p'.recording = w.unrecorded - p.recording := by
  cases h with
  | moved hrecording => rw [hrecording, World.unrecorded, World.unrecorded]
  | rejected hp =>
    rw [hp]
    simp only [World.unrecorded, recording]
    omega
  | totp | backup | saved => rfl
  | locked _ hrests =>
    rw [hrests.recording]
    simp only [World.unrecorded, recording]
    omega
  | counted _ _ _ hrests =>
    rw [hrests.recording]
    simp only [World.unrecorded, recording, length_append, length_singleton]
    omega
  | givenUp hp hrests =>
    rw [hrests.recording, hp]
    simp only [World.unrecorded]
    omega

/-! ### Backup codes are accepted once -/

/-- An accepted backup code is used, and none was accepted twice. -/
structure World.CodesOk (w : World) : Prop where
  used : ∀ id ∈ w.accepted.filterMap Acceptance.backup?,
    ∃ bc, w.codes.get? id = some bc ∧ bc.isUsed = true
  once : (w.accepted.filterMap Acceptance.backup?).Nodup

theorem Advanced.codesOk (h : Advanced w p w' p') (hw : w.CodesOk) : w'.CodesOk := by
  cases h with
  | totp =>
    have hsame : (w.accepted ++ [Acceptance.totp]).filterMap Acceptance.backup? =
        w.accepted.filterMap backup? := by simp [backup?]
    exact ⟨by rw [hsame]; exact hw.used, by rw [hsame]; exact hw.once⟩
  | @backup _ _ id _ hcas =>
    obtain ⟨bc, hget, hunused, rfl⟩ := Table.cas_eq_some.mp hcas
    have hid : bc.id = id := Table.get?_id hget
    have hrow : w.codes.get? (Row.id { bc with isUsed := true, usedAt := some w.now }) = some bc := by
      rw [← hid] at hget
      exact hget
    constructor
    · intro x hx
      by_cases hxid : x = id
      · rw [hxid, ← hid]
        exact ⟨_, Table.get?_put_self hrow, rfl⟩
      · have hold : x ∈ w.accepted.filterMap backup? := by
          simpa [filterMap_append, backup?, hxid] using hx
        obtain ⟨bc', hget', hused⟩ := hw.used x hold
        refine ⟨bc', ?_, hused⟩
        rw [Table.get?_put_of_ne (by show x ≠ bc.id; rw [hid]; exact hxid)]
        exact hget'
    · rw [filterMap_append, nodup_append']
      refine ⟨hw.once, nodup_singleton _, ?_⟩
      intro x hx hxid
      obtain rfl : x = id := by simpa [backup?] using hxid
      obtain ⟨bc', hget', hused⟩ := hw.used x hx
      rw [hget] at hget'
      cases hget'
      simp [hused] at hunused
  | _ => exact ⟨hw.used, hw.once⟩

/-! ### Counts and locks -/

/-- The failure with number `i` sets a lock when the count reaches the limit with it. -/
structure World.Counted (w₀ w : World) : Prop where
  attempts : w.factor.failedAttempts = w₀.factor.failedAttempts + w.failures.length
  locks : ∀ (i : Nat) lock, w.failures[i]? = some lock →
    (lock = none ↔ w₀.factor.failedAttempts + i + 1 < maxFailAttempts)

/-- The rows of two moments of a run without an acceptance: time passes, and a lock in force
stays. -/
structure World.Follows (w w' : World) : Prop where
  now : w.now ≤ w'.now
  lock : ∀ u, w.factor.lockedUntil = some u → u ≤ w.now ∨ w'.factor.lockedUntil = some u

theorem World.Follows.refl (w : World) : w.Follows w := ⟨le_rfl, fun _ hu => .inr hu⟩

theorem Phase.Knows.follows (h : p.Knows w) (hf : w.Follows w') : p.Knows w' := by
  cases p with
  | timing r t kind tries current =>
    intro u hu
    rcases h u hu with hpast | hrow
    · exact .inl (hpast.trans hf.now)
    · exact (hf.lock u hrow).imp (fun hpast => hpast.trans hf.now) id
  | writing r t kind tries current now => exact le_trans h hf.now
  | stamping t => exact h
  | saving t => exact h
  | _ => trivial

theorem World.Follows.of_same (hnow : w'.now = w.now) (hrow : w'.factor = w.factor) :
    w.Follows w' :=
  ⟨hnow.ge, fun u hu => .inr (by rw [hrow]; exact hu)⟩

/-- What one statement does in a run without an acceptance. -/
structure Uneventful (w₀ w w' : World) (p' : Phase) : Prop where
  counted : w₀.Counted w'
  knows : p'.Knows w'
  follows : w.Follows w'
  lockMet : w.lockMet < w'.lockMet → w.InForce

theorem Uneventful.of_same (hc : w₀.Counted w) (hk : p'.Knows w') (hnow : w'.now = w.now)
    (hrow : w'.factor = w.factor) (hfail : w'.failures = w.failures) (hmet : w'.lockMet = w.lockMet) :
    Uneventful w₀ w w' p' :=
  ⟨⟨by rw [hrow, hfail]; exact hc.attempts, by rw [hfail]; exact hc.locks⟩, hk,
    .of_same hnow hrow, fun h => absurd hmet (by omega)⟩

/-- One statement of a verification in a run without an acceptance. -/
theorem Advanced.uneventful (h : Advanced w p w' p') (hc : w₀.Counted w) (hk : p.Knows w)
    (hnone : w'.accepted = []) : Uneventful w₀ w w' p' := by
  cases h with
  | moved _ hknows => exact .of_same hc ((hknows hk).follows (.of_same rfl rfl)) rfl rfl rfl rfl
  | rejected => exact .of_same hc trivial rfl rfl rfl rfl
  | givenUp _ hrests => exact .of_same hc hrests.knows rfl rfl rfl rfl
  | totp | backup => simp at hnone
  | locked hlocked hrests =>
    refine ⟨⟨hc.attempts, hc.locks⟩, hrests.knows, .of_same rfl rfl, fun _ => ?_⟩
    -- the lock that was read is still stored: it could only go at its time
    obtain ⟨u, hu, hlt⟩ := TwoFA.isLocked_eq_true hlocked
    rcases hk u hu with hpast | hrow
    · omega
    · simp [World.InForce, TwoFA.isLocked, hrow, hlt]
  | counted hsame hfree hfactor hrests =>
    have hcount := hc.attempts
    refine ⟨⟨?_, fun i lock hi => ?_⟩, hrests.knows, ⟨le_rfl, fun u hu => ?_⟩,
      fun h => absurd h (lt_irrefl _)⟩
    · simp only [length_append, length_singleton]
      omega
    · rw [getElem?_append] at hi
      split at hi
      · exact hc.locks i lock hi
      · next hlen =>
        have hlast : i = w.failures.length := by
          have := (List.getElem?_eq_some_iff.mp hi).1
          simp only [length_singleton] at this
          omega
        subst hlast
        simp only [Nat.sub_self, getElem?_cons_zero, some.injEq] at hi
        rw [← hi, newLock]
        split <;> simp <;> omega
    · exact .inl ((TwoFA.isLocked_eq_false hfree hu).trans hk)
  | saved => exact hk.elim

theorem Phase.Unlocked.later (h : p.Unlocked w) (hnow : w.now ≤ w'.now) : p.Unlocked w' := by
  cases p with
  | evaluating r t kind => exact fun u hu => (h u hu).trans hnow
  | _ => trivial

/-- A statement takes no time, evaluates under no lock, and does not forget an acceptance. -/
theorem Advanced.unlocked (h : Advanced w p w' p') :
    w'.now = w.now ∧ p'.Unlocked w' ∧ (w'.accepted = [] → w.accepted = []) := by
  cases h with
  | moved _ _ hunlocked => exact ⟨rfl, hunlocked.later le_rfl, id⟩
  | rejected | saved => exact ⟨rfl, trivial, id⟩
  | totp | backup => exact ⟨rfl, trivial, fun hnone => by simp at hnone⟩
  | locked _ hrests | counted _ _ _ hrests | givenUp _ hrests => exact ⟨rfl, hrests.unlocked, id⟩

end Step

/-! ### Runs -/

/-- What holds of the rows in every run. -/
structure World.Ok (w₀ w : World) : Prop where
  codes : w.CodesOk
  counted : w.accepted = [] → w₀.Counted w

/-- What every actor knows in every run. -/
def Actor.Ok (w : World) : Actor → Prop
  | .clock => True
  | .verifier p => p.Unlocked w ∧ (w.accepted = [] → p.Knows w)

variable {a' : Actor} {elapsed : Nat}

/-- What a move of the verifications does when no code is accepted. -/
theorem act_follows (hw : w₀.Ok w) (ha : a.Ok w)
    (h : (verifications o).act w a elapsed = some (w', a')) (hnone : w'.accepted = []) :
    w.Follows w' ∧ (w.lockMet < w'.lockMet → w.InForce) := by
  cases a with
  | clock =>
    cases h
    exact ⟨⟨Int.le_add_of_nonneg_right (Int.natCast_nonneg _), fun _ => .inr⟩,
      fun hlt => absurd hlt (lt_irrefl _)⟩
  | verifier p =>
    obtain ⟨⟨w', p'⟩, hadv, hr⟩ := map_eq_some_iff.mp h
    cases hr
    have hbefore := (advance_advanced hadv).unlocked.2.2 hnone
    have huneventful := (advance_advanced hadv).uneventful (hw.counted hbefore) (ha.2 hbefore) hnone
    exact ⟨huneventful.follows, huneventful.lockMet⟩

theorem act_ok (hw : w₀.Ok w) (ha : a.Ok w)
    (h : (verifications o).act w a elapsed = some (w', a')) :
    Machine.Keeps w₀.Ok Actor.Ok w w' a' := by
  have hothers : w.now ≤ w'.now → (w'.accepted = [] → w.accepted = []) → ∀ x : Actor, x.Ok w → x.Ok w' := by
    intro hnow haccepted x hx
    cases x with
    | clock => trivial
    | verifier p =>
      refine ⟨hx.1.later hnow, fun hnone => ?_⟩
      exact (hx.2 (haccepted hnone)).follows (act_follows hw ha h hnone).1
  cases a with
  | clock =>
    cases h
    have hnow : w.now ≤ w.now + elapsed := Int.le_add_of_nonneg_right (Int.natCast_nonneg _)
    refine ⟨⟨⟨hw.codes.used, hw.codes.once⟩, fun hnone => ?_⟩, trivial, hothers hnow id⟩
    exact ⟨(hw.counted hnone).attempts, (hw.counted hnone).locks⟩
  | verifier p =>
    obtain ⟨⟨w', p'⟩, hadv, hr⟩ := map_eq_some_iff.mp h
    cases hr
    have hadvanced := advance_advanced hadv
    obtain ⟨hnow, hunlocked, haccepted⟩ := hadvanced.unlocked
    have huneventful : w'.accepted = [] → Uneventful w₀ w w' p' := fun hnone =>
      hadvanced.uneventful (hw.counted (haccepted hnone)) (ha.2 (haccepted hnone)) hnone
    exact ⟨⟨hadvanced.codesOk hw.codes, fun hnone => (huneventful hnone).counted⟩,
      ⟨hunlocked, fun hnone => (huneventful hnone).knows⟩, hothers hnow.ge haccepted⟩

theorem start_ok {j : Option Request} (hw : w₀.Ok w)
    (h : (verifications o).start j w = some (w', a)) : Machine.Keeps w₀.Ok Actor.Ok w w' a := by
  cases j with
  | none =>
    cases h
    exact ⟨hw, trivial, fun _ hx => hx⟩
  | some r =>
    cases h
    exact ⟨hw, ⟨trivial, fun _ => trivial⟩, fun _ hx => hx⟩

theorem total_recording {c c' : Config World Actor} {mv : Move Nat (Option Request)}
    (h : Machine.Steps (verifications o) c mv c') :
    c'.shared.unrecorded - c'.total Actor.recording =
      c.shared.unrecorded - c.total Actor.recording := by
  cases h with
  | @start j s l hs =>
    cases j with
    | none =>
      cases hs
      simp [Actor.recording, total]
    | some r =>
      cases hs
      simp [Actor.recording, recording, total]
  | @act k e s l l' hk hs =>
    rw [Machine.total_set _ _ _ hk]
    cases l with
    | clock =>
      cases hs
      simp only [unrecorded, total]
      omega
    | verifier p =>
      obtain ⟨⟨w', p'⟩, hadv, hr⟩ := map_eq_some_iff.mp hs
      cases hr
      have hone := (advance_advanced hadv).unrecorded
      simp only [Actor.recording, total] at hone ⊢
      omega

/-- What is left of the lockout when verifications run concurrently. -/
structure Contained (o : Oracle) (w₀ : World) (c : Config World Actor) : Prop where
  bound : c.shared.accepted = [] →
    ((c.shared.failures.filter Option.isNone).length : Int) < maxFailAttempts ∧
      ∀ (i j : Nat) u, i ≤ j → c.shared.failures[i]? = some (some u) → c.shared.failures[j]? ≠ some none
  raised : c.shared.accepted = [] →
    c.shared.factor.failedAttempts = w₀.factor.failedAttempts + c.shared.failures.length
  lock : ∀ mv c', (verifications o).step c mv = some c' → c'.shared.accepted = [] →
    (c.shared.InForce → c'.shared.factor.lockedUntil = c.shared.factor.lockedUntil) ∧
      (c.shared.lockMet < c'.shared.lockMet → c.shared.InForce)
  recorded : (c.shared.rejected : Int) = c.shared.failures.length + c.shared.lockMet +
    c.shared.givenUp + c.total Actor.recording
  unlocked : ∀ r t kind, Actor.verifier (.evaluating r t kind) ∈ c.locals →
    ∀ u, t.lockedUntil = some u → u ≤ c.shared.now
  once : (c.shared.accepted.filterMap Acceptance.backup?).Nodup

theorem World.Counted.bound (h₀ : 0 ≤ w₀.factor.failedAttempts) (h : w₀.Counted w) :
    ((w.failures.filter Option.isNone).length : Int) < maxFailAttempts ∧
      ∀ (i j : Nat) u, i ≤ j → w.failures[i]? = some (some u) → w.failures[j]? ≠ some none := by
  constructor
  · -- a failure without a lock is one of the first four
    have htail : (w.failures.drop 4).filter isNone = [] := by
      rw [filter_eq_nil_iff]
      intro lock hmem hnone
      obtain ⟨i, hi⟩ := mem_iff_getElem?.mp hmem
      rw [getElem?_drop] at hi
      have hlt := (h.locks _ _ hi).mp (isNone_iff_eq_none.mp hnone)
      simp only [maxFailAttempts] at hlt
      omega
    have hhead : ((w.failures.take 4).filter isNone).length ≤ 4 :=
      (length_filter_le _ _).trans (length_take_le _ _)
    rw [← take_append_drop 4 w.failures, filter_append, htail, append_nil]
    simp only [maxFailAttempts]
    omega
  · intro i j u hij hi hj
    have hlock := (h.locks i _ hi).not.mp (by simp)
    have hfree := (h.locks j _ hj).mp rfl
    omega

/-- Every hash is the code itself, and one time-based code is always right. -/
def plainOracle : Oracle := ⟨fun code _ => code = "111111", fun code hash => code = hash⟩

/-- The factor of a user who has not failed yet. -/
def plainWorld : World where
  now := 1000
  factor := {}

/-- A verification of a wrong or of the right time-based code, `k` of them in progress: load, check and
evaluate. -/
def evaluateMoves (k : Nat) (code : String) : List (Move Nat (Option Request)) :=
  [.start (some ⟨code, false⟩), .act k 0, .act k 0, .act k 0]

/-- The statements that count a failure. -/
def recordMoves (k : Nat) : List (Move Nat (Option Request)) := [.act k 0, .act k 0, .act k 0]

/-- The configuration behind the moves. -/
def plainRun (w : World) (moves : List (Move Nat (Option Request))) : Config World Actor :=
  (run (verifications plainOracle).step ⟨w, []⟩ moves).getD ⟨w, []⟩

theorem plainRun_reaches {moves : List (Move Nat (Option Request))}
    (h : (run (verifications plainOracle).step ⟨w, []⟩ moves).isSome = true) :
    (verifications plainOracle).Reaches ⟨w, []⟩ (plainRun w moves) :=
  ⟨moves, run_getD h⟩

/-- Five wrong codes one after the other, then the load of a sixth verification. -/
def lockedMoves : List (Move Nat (Option Request)) :=
  (List.range 5).flatMap (fun k => evaluateMoves k "000000" ++ recordMoves k) ++
    [.start (some ⟨"000000", true⟩), .act 5 0]

/-- A user whose lock has just expired. -/
def expiredWorld : World where
  now := 1000
  factor := { failedAttempts := 5, lockedUntil := some 900 }

/-- Six wrong codes are evaluated before the first of them is recorded. -/
def raceMoves : List (Move Nat (Option Request)) :=
  (List.range 6).flatMap (fun k => evaluateMoves k "000000")

/-- The right code is evaluated, five wrong ones lock the user, and the right one is recorded, up to
its last statement. -/
def liftMoves : List (Move Nat (Option Request)) :=
  evaluateMoves 0 "111111" ++
    (List.range 5).flatMap (fun k => evaluateMoves (k + 1) "000000" ++ recordMoves (k + 1)) ++ [.act 0 0]

/-- The first verification reads the row, the `k`-th one counts its own failure, and the update of the
first one meets a changed row. -/
def loseMoves (k : Nat) : List (Move Nat (Option Request)) :=
  [.act 0 0] ++ evaluateMoves k "000000" ++ recordMoves k ++ [.act 0 0, .act 0 0]

/-- A wrong code whose update is lost five times; an accepted code resets the count in between. -/
def giveUpMoves : List (Move Nat (Option Request)) :=
  evaluateMoves 0 "000000" ++ loseMoves 1 ++ loseMoves 2 ++
    evaluateMoves 3 "111111" ++ [.act 3 0, .act 3 0] ++ loseMoves 4 ++ loseMoves 5 ++ loseMoves 6

end MyApiSpec.TwoFactor
