import MyApiSpec.Settlement.Steps

/-!
# A settlement is applied exactly once

The two flags of a fact say what its workers have done to the balances. Every transaction that
moves a balance for a legacy fact sets the flag of that leg in the same commit, and every other
step leaves flags and balances alone. Under any interleaving the jobs of one event key have
therefore moved the balances by exactly what the flags say.
-/

namespace MyApiSpec.Settlement

open Base Table SettlementFact
open Ledger (Token UserSubscription)

/-! ### What a fact accounts for -/

variable {f : SettlementFact} {db db' : DB} {input : SettlementInput} {key : String}

/-- The movements that the flags of a legacy fact account for. A self-use fact has no funding
movement, and a fact without a token leg has no token movement. -/
def SettlementFact.share (f : SettlementFact) : Movement where
  user i := if f.input.kind = .legacyWallet ∧ f.fundingApplied = true ∧ i = f.input.userID
    then -f.input.delta else 0
  remain i := if f.input.applyToken = true ∧ f.tokenApplied = true ∧ i = f.input.tokenID
    then -f.input.delta else 0
  used i := if f.input.applyToken = true ∧ f.tokenApplied = true ∧ i = f.input.tokenID
    then f.input.delta else 0
  subscription i := if f.input.kind = .legacySubscription ∧ f.fundingApplied = true ∧
      i = f.input.subscriptionID then f.input.delta else 0

/-- The movements of the fact with a key, none when there is no such fact. -/
def shareOf : Option SettlementFact → Movement
  | none => {}
  | some f => f.share

instance : Sub Movement where
  sub m m' := ⟨fun i => m.user i - m'.user i, fun i => m.remain i - m'.remain i,
    fun i => m.used i - m'.used i, fun i => m.subscription i - m'.subscription i⟩

/-- Flags and state of a fact agree. -/
structure SettlementFact.Consistent (f : SettlementFact) : Prop where
  token : f.tokenApplied = true → f.state = .applied
  applied : f.state = .applied → f.fundingApplied = true ∧ f.tokenApplied = true

theorem SettlementFact.Consistent.of_unapplied (ht : f.tokenApplied = false)
    (hs : f.state ≠ .applied) : f.Consistent := by
  constructor
  · intro h
    rw [ht] at h
    cases h
  · intro h
    exact absurd h hs

/-- Every key names one fact, and the facts are consistent. -/
structure FactsOk (db : DB) : Prop where
  keys : FactKeys db
  consistent : ∀ f ∈ db.facts.rows, f.Consistent

/-- What a job of one event key may do: other facts are untouched, and balances move as the flags
of a legacy fact do. -/
structure Recorded (key : String) (db db' : DB) : Prop where
  others : ∀ k, k ≠ key → findFact db' k = findFact db k
  share : (∀ f, findFact db key = some f → f.input.kind ≠ .authoritative) →
    Moved (shareOf (findFact db' key) - shareOf (findFact db key)) db db'

/-! ### Balances -/

theorem Moved.congr {m m' : Movement} (h : Moved m db db') (hu : ∀ i, m.user i = m'.user i)
    (hr : ∀ i, m.remain i = m'.remain i) (hd : ∀ i, m.used i = m'.used i)
    (hs : ∀ i, m.subscription i = m'.subscription i) : Moved m' db db' := by
  refine ⟨?_, ?_, ?_, ?_⟩ <;> intro i
  · rw [h.user, hu]
  · rw [h.remain, hr]
  · rw [h.used, hd]
  · rw [h.subscription, hs]

/-- Nothing moves while the share stays. -/
theorem Moved.still {m : Movement} (h : Moved {} db db') : Moved (m - m) db db' :=
  h.congr (fun _ => (Int.sub_self _).symm) (fun _ => (Int.sub_self _).symm)
    (fun _ => (Int.sub_self _).symm) (fun _ => (Int.sub_self _).symm)

theorem fundSubscription_ok (h : fundSubscription db input = .ok db') :
    Moved { subscription := fun i => if i = input.subscriptionID then input.delta else 0 } db
      db' := by
  simp only [fundSubscription, bind_eq_ok, need_eq_ok, check_eq_ok, exists_const] at h
  obtain ⟨sub, hsub, -, -, used, hused, -, -, hdb⟩ := h
  cases hdb
  obtain ⟨-, -, rfl⟩ := Ledger.checkedQuotaUsed_eq_some.mp hused
  have hid : sub.id = input.subscriptionID := get?_id hsub
  rw [← hid] at hsub ⊢
  have hmoved := @writeSubscription_moved db sub
    { sub with amountUsed := sub.amountUsed + input.delta, quotaVersion := sub.quotaVersion + 1 }
    hsub
  have hdelta : (sub.amountUsed + input.delta) - sub.amountUsed = input.delta := by omega
  simpa only [hdelta] using hmoved

/-- The funding leg does not change the token part of a share: it sets the token flag of a fact
without a token leg only. -/
theorem funded_tokenApplied (f : SettlementFact) (h : f.input.applyToken = true) :
    f.funded.tokenApplied = f.tokenApplied := by
  unfold funded
  rw [if_pos h]

/-- The funding leg moves what the funding flag accounts for. -/
theorem fundSource_share (hflag : f.fundingApplied = false) (h : fundSource db f.input = .ok db') :
    Moved (f.funded.share - f.share) db db' := by
  have hremain : ∀ i, 0 = (f.funded.share - f.share).remain i := by
    intro i
    show 0 = f.funded.share.remain i - f.share.remain i
    cases ha : f.input.applyToken <;>
      simp [share, funded_tokenApplied, ha]
  have hused : ∀ i, 0 = (f.funded.share - f.share).used i := by
    intro i
    show 0 = f.funded.share.used i - f.share.used i
    cases ha : f.input.applyToken <;>
      simp [share, funded_tokenApplied, ha]
  have huser : ∀ i, (if f.input.kind = .legacyWallet ∧ i = f.input.userID then -f.input.delta
      else 0) = (f.funded.share - f.share).user i := by
    intro i
    show _ = f.funded.share.user i - f.share.user i
    simp [share, hflag]
  have hsub : ∀ i, (if f.input.kind = .legacySubscription ∧ i = f.input.subscriptionID
      then f.input.delta else 0) = (f.funded.share - f.share).subscription i := by
    intro i
    show _ = f.funded.share.subscription i - f.share.subscription i
    simp [share, hflag]
  unfold fundSource at h
  split at h
  · next hk =>
    cases h
    refine (Moved.of_eq rfl rfl rfl).congr ?_ hremain hused ?_
    · simp [← huser, hk]
    · simp [← hsub, hk]
  · next hk =>
    refine (moveUserQuota_ok h).1.congr ?_ hremain hused ?_
    · simp [← huser, hk]
    · simp [← hsub, hk]
  · next hk =>
    refine (fundSubscription_ok h).congr ?_ hremain hused ?_
    · simp [← huser, hk]
    · simp [← hsub, hk]
  · cases h

variable {now : Int}

theorem chargeToken_ok (h : chargeToken db input now = .ok db') :
    Moved { remain := fun i => if i = input.tokenID then -input.delta else 0
            used := fun i => if i = input.tokenID then input.delta else 0 } db db' := by
  simp only [chargeToken, bind_eq_ok, need_eq_ok, check_eq_ok, exists_const] at h
  obtain ⟨token, htoken, -, remain, hremain, used, hused, hdb⟩ := h
  cases hdb
  obtain ⟨-, -, rfl⟩ := Ledger.checkedQuotaBalance_eq_some.mp hremain
  obtain ⟨-, -, rfl⟩ := Ledger.checkedQuotaUsed_eq_some.mp hused
  have hrow : db.ledger.tokens.get? input.tokenID = some token := by
    exact (Option.filter_eq_some_iff.mp htoken).1
  have hid : token.id = input.tokenID := get?_id hrow
  rw [← hid] at hrow ⊢
  have hmoved := @writeToken_moved db token (token.remainQuota + -input.delta)
    (token.usedQuota + input.delta) now hrow
  have h1 : (token.remainQuota + -input.delta) - token.remainQuota = -input.delta := by omega
  have h2 : (token.usedQuota + input.delta) - token.usedQuota = input.delta := by omega
  simpa only [h1, h2] using hmoved

/-- The token leg moves what the token flag accounts for. -/
theorem chargeToken_share (htoken : f.tokenApplied = false)
    (ha : f.input.applyToken = true) (h : chargeToken db f.input now = .ok db') :
    Moved (f.finished.share - f.share) db db' := by
  refine (chargeToken_ok h).congr ?_ ?_ ?_ ?_ <;> intro i
  · exact (Int.sub_self (f.share.user i)).symm
  · show _ = f.finished.share.remain i - f.share.remain i
    simp [share, finished, htoken, ha]
  · show _ = f.finished.share.used i - f.share.used i
    simp [share, finished, htoken, ha]
  · exact (Int.sub_self (f.share.subscription i)).symm

/-! ### Steps on the fact table -/

/-- A step that leaves the facts and the balances alone. -/
theorem recorded_of_eq (hf : db'.facts = db.facts) (hu : db'.ledger.users = db.ledger.users)
    (ht : db'.ledger.tokens = db.ledger.tokens)
    (hs : db'.ledger.subscriptions = db.ledger.subscriptions) : Recorded key db db' := by
  have hfind : ∀ k, findFact db' k = findFact db k := by
    intro k
    unfold findFact
    rw [hf]
  refine ⟨fun k _ => hfind k, ?_⟩
  intro _
  rw [hfind]
  exact (Moved.of_eq hu ht hs).still

theorem FactsOk.of_facts (h : FactsOk db) (hf : db'.facts = db.facts) : FactsOk db' := by
  refine ⟨h.keys.of_facts hf, ?_⟩
  rw [hf]
  exact h.consistent

/-- A step that inserts a fact without flags. -/
theorem recorded_insert {fingerprint : SettlementDigest} (hI : FactsOk db)
    (hnone : findFact db input.eventKey = none)
    (hfacts : db'.facts = db.facts.insert (factCandidate input fingerprint)) (hm : Moved {} db db') :
    Recorded input.eventKey db db' ∧ FactsOk db' := by
  have hfind := hI.keys.find_insert (f := factCandidate input fingerprint) hnone hfacts
  constructor
  · refine ⟨fun k hk => (hfind k).trans (if_neg hk), ?_⟩
    intro _
    rw [(hfind input.eventKey).trans (if_pos rfl), hnone]
    refine hm.congr ?_ ?_ ?_ ?_ <;> intro i
    · show 0 = _ - 0
      simp [shareOf, share, factCandidate]
    · show 0 = _ - 0
      simp [shareOf, share, factCandidate]
    · show 0 = _ - 0
      simp [shareOf, share, factCandidate]
    · show 0 = _ - 0
      simp [shareOf, share, factCandidate]
  · refine ⟨(hI.keys.insert (f := factCandidate input fingerprint) hnone hfacts).1, ?_⟩
    intro f hf
    rw [hfacts] at hf
    rcases mem_insert.mp hf with hf | rfl
    · exact hI.consistent f hf
    · exact SettlementFact.Consistent.of_unapplied rfl (by simp [factCandidate, Row.withId])

/-! ### Transactions of a worker -/

section Worker

variable {id : Int} {cur : SettlementFact}

/-- A rewrite of the fact under the worker's id. -/
theorem worker_put {r : SettlementFact} (hI : FactsOk db) (hK : Stored id input db)
    (hcur : db.facts.get? id = some cur) (hid : r.id = cur.id) (hin : r.input = cur.input)
    (hfacts : db'.facts = db.facts.put r) (hrow : r.Consistent)
    (hm : input.kind ≠ .authoritative → Moved (r.share - cur.share) db db') :
    Recorded input.eventKey db db' ∧ FactsOk db' := by
  obtain ⟨hfind, rfl⟩ := hK.row hcur
  have hrow' : db.facts.get? cur.id = some cur := get?_of_mem (get?_mem hcur)
  have hnew := hI.keys.find_put hrow' hid hin hfacts
  constructor
  · refine ⟨fun k hk => (hnew k).trans (if_neg hk), ?_⟩
    intro hkind
    rw [hnew, if_pos rfl, hfind]
    exact hm (hkind cur hfind)
  · refine ⟨(hI.keys.put hrow' hid hin hfacts).1, ?_⟩
    intro f hf
    rw [hfacts] at hf
    rcases mem_put hf with rfl | ⟨hf, -⟩
    · exact hrow
    · exact hI.consistent f hf

/-- The last flag of a fact, with the movement it accounts for. -/
theorem finished_recorded {l : Ledger.DB} (hI : FactsOk db) (hK : Stored id input db)
    (hcur : db.facts.get? id = some cur) (hfunding : cur.fundingApplied = true)
    (hm : Moved (cur.finished.share - cur.share) db { db with ledger := l }) :
    let db' : DB := { db with ledger := l, facts := db.facts.put cur.finished }
    Recorded input.eventKey db db' ∧ FactsOk db' := by
  refine worker_put (r := cur.finished) hI hK hcur rfl rfl rfl
    ⟨fun _ => rfl, fun _ => ⟨hfunding, rfl⟩⟩ ?_
  intro _
  exact { hm with }

theorem Work.recorded (h : Work id input db db') (hI : FactsOk db) (hK : Stored id input db) :
    Recorded input.eventKey db db' ∧ FactsOk db' := by
  -- a fact that is not applied has no token flag
  have unset : ∀ {cur : SettlementFact}, db.facts.get? id = some cur → cur.state ≠ .applied →
      cur.tokenApplied = false := by
    intro cur hcur hstate
    rw [← Bool.not_eq_true]
    exact fun ht => hstate ((hI.consistent _ (get?_mem hcur)).token ht)
  cases h with
  | kept => exact ⟨recorded_of_eq rfl rfl rfl rfl, hI⟩
  | rewritten hcur hsame hs hs' =>
    refine worker_put hI hK hcur hsame.id hsame.input rfl
      (.of_unapplied (hsame.tokenApplied.trans (unset hcur hs)) hs') ?_
    intro _
    simp only [share, hsame.input, hsame.fundingApplied, hsame.tokenApplied]
    apply Moved.still
    exact Moved.of_eq rfl rfl rfl
  | @funded cur _ ledger hcur _ _ hflag hstate hfund =>
    have hm := fundSource_share hflag hfund
    have htoken := unset hcur (by simp [hstate])
    refine worker_put (r := cur.funded) hI hK hcur (by simp) (by simp) rfl ?_ ?_
    · unfold SettlementFact.funded
      split
      · exact .of_unapplied htoken (by simp [hstate])
      · exact ⟨fun _ => rfl, fun _ => ⟨rfl, rfl⟩⟩
    · intro _
      exact { hm with }
  | @charged cur _ _ _ hcur _ _ happly hfunding hstate hcharge =>
    have ha : cur.input.applyToken = true := by rw [(hK.row hcur).2, happly]
    have hm := chargeToken_share (unset hcur (by simp [hstate])) ha hcharge
    exact finished_recorded hI hK hcur hfunding hm
  | @marked cur hcur ha hfunding =>
    refine finished_recorded (l := db.ledger) hI hK hcur hfunding ?_
    refine (Moved.of_eq rfl rfl rfl).congr ?_ ?_ ?_ ?_ <;> intro i
    · exact (Int.sub_self (cur.share.user i)).symm
    · show 0 = cur.finished.share.remain i - cur.share.remain i
      simp [share, finished, ha]
    · show 0 = cur.finished.share.used i - cur.share.used i
      simp [share, finished, ha]
    · exact (Int.sub_self (cur.share.subscription i)).symm
  | settled _ hkind =>
    -- an authoritative settlement moves balances under the ledger's own accounting
    refine ⟨⟨fun _ _ => rfl, ?_⟩, hI.of_facts rfl⟩
    intro hne
    obtain ⟨f, hf, -, rfl⟩ := hK
    exact absurd hkind (hne f hf)
  | @confirmed _ row hcur hkind hid hin happlied =>
    obtain ⟨hf, ht, hs⟩ := happlied
    exact worker_put (r := row) hI hK hcur hid hin rfl ⟨fun _ => hs, fun _ => ⟨hf, ht⟩⟩ (absurd hkind)

end Worker

/-- A job with an event key records what it does. -/
theorem Step.recorded (h : Step (.settlement key) db db') (hI : FactsOk db) :
    Recorded key db db' ∧ FactsOk db' := by
  cases h.effect with
  | kept | newIntent | intent => exact ⟨recorded_of_eq rfl rfl rfl rfl, hI.of_facts rfl⟩
  | work hK h => exact h.recorded hI hK
  | newFact _ hnone => exact recorded_insert hI hnone rfl (Moved.of_eq rfl rfl rfl)

variable {party : Party}

/-- The other parties leave the facts alone. -/
theorem Step.facts_eq (h : Step party db db') (hp : ∀ key, party ≠ .settlement key) :
    db'.facts = db.facts := by
  cases h.effect with
  | kept | newPermit | revoked => rfl
  | work | newFact | newIntent | intent => exact absurd rfl (hp _)
  | foreign change => exact change.facts db

theorem Step.factsOk (h : Step party db db') (hI : FactsOk db) : FactsOk db' := by
  cases hp : party with
  | settlement key =>
    subst hp
    exact (h.recorded hI).2
  | review | other => exact hI.of_facts (h.facts_eq (by simp [hp]))

/-! ### Runs -/

/-- No fact has been worked on. -/
structure Unapplied (db : DB) : Prop where
  keys : FactKeys db
  funding : ∀ f ∈ db.facts.rows, f.fundingApplied = false
  token : ∀ f ∈ db.facts.rows, f.tokenApplied = false
  state : ∀ f ∈ db.facts.rows, f.state ≠ .applied

theorem Unapplied.factsOk (h : Unapplied db) : FactsOk db :=
  ⟨h.keys, fun f hf => .of_unapplied (h.token f hf) (h.state f hf)⟩

theorem Unapplied.share (h : Unapplied db) (key : String) : shareOf (findFact db key) = {} := by
  cases hf : findFact db key with
  | none => rfl
  | some f =>
    have hmem := find?_mem hf
    simp [shareOf, SettlementFact.share, h.funding f hmem, h.token f hmem]

/-- The jobs of one settlement. -/
def worksOn (key : String) (j : Job) : Bool := j.party = .settlement key

variable {w : System DB Env Job} {db₀ : DB}

/-- The jobs of a legacy settlement moved each balance as the flags of its fact say. -/
theorem moved_share {m : DB → Int} {g : Movement → Int}
    (h₀ : Unapplied db₀) (hw : Reaches db₀ w)
    (hlegacy : ∀ f, findFact w.state key = some f → f.input.kind ≠ .authoritative)
    (hg : ∀ a b : Movement, g (a - b) = g a - g b) (hzero : g {} = 0)
    (hm : ∀ mv db db', Moved mv db db' → m db' = m db + g mv) :
    w.moved (worksOn key) m = g (shareOf (findFact w.state key)) := by
  have hsound := reaches_sound h₀.keys hw
  have hpast := hsound.linked.related Continues.trans fun t ht => (hsound.guarantee t ht).2
  have hfacts := (hsound.linked.invariant h₀.factsOk fun t ht =>
    (hsound.guarantee t ht).1.factsOk).2
  rw [System.moved_eq (φ := fun db => g (shareOf (findFact db key))) hsound.linked ?_ ?_,
    h₀.share, hzero, Int.sub_zero]
  · intro t ht hj
    have hstep := (hsound.guarantee t ht).1
    rw [show t.job.party = .settlement key from of_decide_eq_true hj] at hstep
    have hmoved := (hstep.recorded (hfacts t ht)).1.share (by
      intro f hf
      obtain ⟨f', hf', -, hin⟩ := hpast t ht key f hf
      rw [← hin]
      exact hlegacy f' hf')
    rw [hm _ _ _ hmoved, hg]
    omega
  · intro t ht hj
    have hstep := (hsound.guarantee t ht).1
    have hne : t.job.party ≠ .settlement key := of_decide_eq_false hj
    have hsame : findFact t.after key = findFact t.before key := by
      by_cases hp : ∃ k, t.job.party = .settlement k
      · obtain ⟨k, hk⟩ := hp
        rw [hk] at hstep hne
        exact (hstep.recorded (hfacts t ht)).1.others key fun h =>
          hne (congrArg Party.settlement h.symm)
      · unfold findFact
        rw [hstep.facts_eq fun k hk => hp ⟨k, hk⟩]
    rw [hsame]

/-- In every reachable state the jobs of a legacy settlement have moved the wallet or the
subscription by the fact's delta when its funding flag is set and not at all otherwise, the token
likewise with the token flag, and the flags and the state agree. A self-use fact has no funding
movement. -/
theorem legs_applied_exactly_once {db₀ : DB} {w : System DB Env Job} {f : SettlementFact}
    (h₀ : Unapplied db₀) (hw : Reaches db₀ w) (hf : f ∈ w.state.facts.rows)
    (hlegacy : f.input.kind ≠ .authoritative) :
    (∀ i, w.moved (worksOn f.input.eventKey) (userQuota i) = f.share.user i) ∧
      (∀ i, w.moved (worksOn f.input.eventKey) (subscriptionUsed i) = f.share.subscription i) ∧
      (∀ i, w.moved (worksOn f.input.eventKey) (tokenRemain i) = f.share.remain i) ∧
      (∀ i, w.moved (worksOn f.input.eventKey) (tokenUsed i) = f.share.used i) ∧
      (f.tokenApplied = true → f.fundingApplied = true) ∧
      (f.state = .applied → f.fundingApplied = true ∧ f.tokenApplied = true) := by
  have hsound := reaches_sound h₀.keys hw
  have hfacts := (hsound.linked.invariant h₀.factsOk fun t ht =>
    (hsound.guarantee t ht).1.factsOk).1
  have hfind : findFact w.state f.input.eventKey = some f :=
    find?_of_unique hsound.inv hf
  have hconsistent := hfacts.consistent f hf
  have hkind : ∀ g, findFact w.state f.input.eventKey = some g → g.input.kind ≠ .authoritative := by
    intro g hg
    cases hfind.symm.trans hg
    exact hlegacy
  have hshare : shareOf (findFact w.state f.input.eventKey) = f.share := by rw [hfind]; rfl
  refine ⟨?_, ?_, ?_, ?_, fun ht => (hconsistent.applied (hconsistent.token ht)).1,
    hconsistent.applied⟩
  · intro i
    rw [moved_share (g := fun m => m.user i) h₀ hw hkind (fun _ _ => rfl) rfl
      fun _ _ _ h => h.user i, hshare]
  · intro i
    rw [moved_share (g := fun m => m.subscription i) h₀ hw hkind (fun _ _ => rfl) rfl
      fun _ _ _ h => h.subscription i, hshare]
  · intro i
    rw [moved_share (g := fun m => m.remain i) h₀ hw hkind (fun _ _ => rfl) rfl
      fun _ _ _ h => h.remain i, hshare]
  · intro i
    rw [moved_share (g := fun m => m.used i) h₀ hw hkind (fun _ _ => rfl) rfl
      fun _ _ _ h => h.used i, hshare]

/-- The row of a new settlement fact. -/
def plainFact (input : SettlementInput) : SettlementFact :=
  { id := 1, input := input, requestFingerprint := input.digest }

/-- A worker commits the funding leg, loses the answer and stops; behind its lease another worker
claims the fact again and applies the token leg. -/
def reclaimedRun : List (Event Env Job) :=
  [.launch (.ensureFact walletSettlement)] ++ advances 0 5 1 ++
  [.launch (.recoverFact (plainFact walletSettlement) "a")] ++ advances 1 6 2 ++
  [.advance 1 (plainEnv 2 .lost),
    .launch (.recoverFact { plainFact walletSettlement with
      fundingApplied := true, state := .claimed, leaseOwner := "a", leaseUntil := 32
      attempts := 1, lockVersion := 3 } "b")] ++ advances 2 10 50

theorem plainDB_unapplied : Unapplied plainDB :=
  ⟨uniqueOn_empty _, by simp [plainDB], by simp [plainDB], by simp [plainDB]⟩

theorem legs_applied_exactly_once_reclaimedRun :
    Reaches plainDB (plainRun reclaimedRun) ∧
      ∃ f ∈ (plainRun reclaimedRun).state.facts.rows, f.state = .applied ∧
        (plainRun reclaimedRun).moved (worksOn f.input.eventKey) (userQuota 1) = -30 ∧
        (plainRun reclaimedRun).moved (worksOn f.input.eventKey) (tokenUsed 1) = 30 := by
  have hrun : (run (System.step launch) ⟨plainDB, [], []⟩ reclaimedRun).isSome = true ∧
      ∃ f ∈ (plainRun reclaimedRun).state.facts.rows, f.state = .applied ∧
        f.input.kind ≠ .authoritative ∧ f.share.user 1 = -30 ∧ f.share.used 1 = 30 := by
    decide +kernel
  obtain ⟨hsome, f, hf, hstate, hkind, huser, hused⟩ := hrun
  have hreach := plainRun_reaches hsome
  have h := legs_applied_exactly_once plainDB_unapplied hreach hf hkind
  exact ⟨hreach, f, hf, hstate, (h.1 1).trans huser, (h.2.2.2.1 1).trans hused⟩

/-- A self-use settlement of 30. -/
def selfUseSettlement : SettlementInput :=
  { eventKey := "s2", requestID := "q2", kind := .legacySelfUse, userID := 1, tokenID := 1
    delta := 30, applyToken := true }

/-- One worker applies a self-use settlement. -/
def selfUseRun : List (Event Env Job) :=
  [.launch (.ensureFact selfUseSettlement)] ++ advances 0 5 1 ++
  [.launch (.recoverFact (plainFact selfUseSettlement) "a")] ++ advances 1 13 2

/-- The funding flag of a self-use fact stands for no wallet movement. -/
theorem selfUse_funding_moves_nothing :
    ∃ w, Reaches plainDB w ∧ ∃ f ∈ w.state.facts.rows, f.input.kind = .legacySelfUse ∧
      f.input.delta = 30 ∧ f.fundingApplied = true ∧ f.tokenApplied = true ∧
      w.moved (worksOn f.input.eventKey) (userQuota f.input.userID) = 0 ∧
      userQuota f.input.userID w.state = userQuota f.input.userID plainDB := by
  have hrun : (run (System.step launch) ⟨plainDB, [], []⟩ selfUseRun).isSome = true ∧
      ∃ f ∈ (plainRun selfUseRun).state.facts.rows, f.input.kind = .legacySelfUse ∧
        f.input.delta = 30 ∧ f.fundingApplied = true ∧ f.tokenApplied = true ∧
        (plainRun selfUseRun).moved (worksOn f.input.eventKey) (userQuota f.input.userID) = 0 ∧
        userQuota f.input.userID (plainRun selfUseRun).state =
          userQuota f.input.userID plainDB := by
    decide +kernel
  exact ⟨_, plainRun_reaches hrun.1, hrun.2⟩

end MyApiSpec.Settlement
