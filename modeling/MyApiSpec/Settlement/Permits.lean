import MyApiSpec.Settlement.Steps

/-!
# Money moves under a permit

Every transaction that moves a balance for a settlement loads the permit of its fact again. The
tables of intents, facts and permits are linked by an invariant: one permit per event key, with
the normalised identity and the intent of that key, bound to one fact at most once. A permit that
passes the check is therefore the permit of exactly that fact.
-/

namespace MyApiSpec.Settlement

open Base Table

/-! ### The permit of a fact -/

variable {db db' : DB} {input : SettlementInput}

/-- The id of an intent, zero without one. -/
def intentID : Option SettlementIntent → Int
  | none => 0
  | some i => i.id

/-- The permit `p` is active in `db` and is the exact permit of the fact `f`. -/
structure Covers (db : DB) (p : ExecutionPermit) (f : SettlementFact) : Prop where
  stored : p ∈ db.permits.rows
  active : p.state = .active
  factID : p.factID = f.id
  intentID : p.intentID = intentID (findIntent db f.input.eventKey)
  input : p.input = f.input
  fingerprint : p.requestFingerprint = f.requestFingerprint
  digest : p.bindingDigest = accountQuotaExecutionPermitDigest p

/-- One permit per event key, with a normalised identity and the intent of its key. -/
structure PermitsOk (db : DB) : Prop where
  keys : db.permits.UniqueOn fun p => p.input.eventKey
  normalized : ∀ p ∈ db.permits.rows, trimSpace p.input.eventKey = p.input.eventKey ∧
    trimSpace p.input.requestID = p.input.requestID
  intents : db.intents.UniqueOn fun i => i.input.eventKey
  intent : ∀ p ∈ db.permits.rows, p.intentID = intentID (findIntent db p.input.eventKey)

variable {p : ExecutionPermit}

theorem loadForFact_covers {f : SettlementFact} (hI : PermitsOk db)
    (h : loadAccountQuotaExecutionPermitForFact db f = .ok p) : Covers db p f := by
  simp only [loadAccountQuotaExecutionPermitForFact, bind_eq_ok, need_eq_ok, check_eq_ok,
    exists_const] at h
  obtain ⟨_, hfound, intent, -, _, hbind, hactive, hr⟩ := h
  cases hr
  have hmem := find?_mem hfound
  have hpred := find?_pred hfound
  obtain ⟨hkey, hfact⟩ := of_decide_eq_true hpred
  obtain ⟨-, -, hbind⟩ := bind_eq_ok.mp hbind
  split at hbind
  · cases hbind
  · next normalized fingerprint hnormalize =>
    simp only [bind_eq_ok, check_eq_ok, exists_const] at hbind
    obtain ⟨⟨hfp, -⟩, hdigest, -, hbinds⟩ := hbind
    obtain ⟨-, -, hidentity, -⟩ := hbinds
    obtain ⟨hin, hfp'⟩ := check_eq_ok.mp hidentity
    obtain ⟨htrimKey, htrimReq⟩ := hI.normalized p hmem
    -- the identity of a stored permit is its own normal form
    have hsame : normalized = p.input := by
      have := (normalize_ok hnormalize).1
      rw [htrimKey, htrimReq] at this
      exact this
    refine ⟨hmem, hactive, hfact, ?_, ?_, ?_, hdigest.symm⟩
    · rw [hI.intent p hmem, hkey]
    · rw [hin, hsame]
    · rw [hfp', hfp]

/-! ### Steps on the permit table -/

/-- A permit keeps its identity and its intent; its fact is set once. -/
structure Succeeds (db' : DB) (p p' : ExecutionPermit) : Prop where
  input : p'.input = p.input
  intentID : p'.intentID = p.intentID
  bound : p.factID ≠ 0 → p'.factID = p.factID
  binds : p'.factID ≠ p.factID → ∃ f, db'.facts.get? p'.factID = some f ∧
    f.input.eventKey = p.input.eventKey

/-- Permits stay and are bound at most once. -/
def PermitsContinue (db db' : DB) : Prop :=
  ∀ i p, db.permits.get? i = some p → ∃ p', db'.permits.get? i = some p' ∧ Succeeds db' p p'

theorem succeeds_refl (db : DB) (p : ExecutionPermit) : Succeeds db p p :=
  ⟨rfl, rfl, fun _ => rfl, absurd rfl⟩

theorem permitsContinue_of_eq (h : db'.permits = db.permits) : PermitsContinue db db' := by
  intro i p hp
  exact ⟨p, by rw [h]; exact hp, succeeds_refl db' p⟩

theorem PermitsOk.of_eq (hI : PermitsOk db) (hp : db'.permits = db.permits)
    (hi : db'.intents = db.intents) : PermitsOk db' := by
  refine ⟨?_, ?_, ?_, ?_⟩
  · rw [hp]
    exact hI.keys
  · rw [hp]
    exact hI.normalized
  · rw [hi]
    exact hI.intents
  · unfold findIntent
    rw [hp, hi]
    exact hI.intent

/-- A new permit for a key that has none. -/
theorem PermitsOk.insert (hI : PermitsOk db)
    (hnew : ∀ q ∈ db.permits.rows, q.input.eventKey ≠ p.input.eventKey)
    (htrim : trimSpace p.input.eventKey = p.input.eventKey ∧
      trimSpace p.input.requestID = p.input.requestID)
    (hintents : db'.intents.UniqueOn fun i => i.input.eventKey)
    (hfind : ∀ k, k ≠ p.input.eventKey → findIntent db' k = findIntent db k)
    (hintent : p.intentID = intentID (findIntent db' p.input.eventKey))
    (hp : db'.permits = db.permits.insert p) : PermitsOk db' ∧ PermitsContinue db db' := by
  constructor
  · refine ⟨?_, ?_, hintents, ?_⟩
    · rw [hp]
      exact hI.keys.insert hnew
    · rw [hp]
      intro q hq
      rcases mem_insert.mp hq with hq | rfl
      · exact hI.normalized q hq
      · exact htrim
    · rw [hp]
      intro q hq
      rcases mem_insert.mp hq with hq | rfl
      · rw [hfind _ (hnew q hq)]
        exact hI.intent q hq
      · exact hintent
  · intro i q hq
    exact ⟨q, by rw [hp]; exact get?_insert_of_some hq, succeeds_refl db' q⟩

/-- A rewrite of a permit that keeps identity and intent. -/
theorem PermitsOk.put {cur r : ExecutionPermit} (hI : PermitsOk db)
    (hcur : db.permits.get? cur.id = some cur) (hid : r.id = cur.id) (hrow : Succeeds db' cur r)
    (hi : db'.intents = db.intents) (hp : db'.permits = db.permits.put r) :
    PermitsOk db' ∧ PermitsContinue db db' := by
  have hold : db.permits.get? (Row.id r) = some cur := by
    show db.permits.get? r.id = some cur
    rw [hid]
    exact hcur
  have hmem := get?_mem hcur
  constructor
  · refine ⟨?_, ?_, by rw [hi]; exact hI.intents, ?_⟩
    · rw [hp]
      exact hI.keys.put hold (by rw [hrow.input])
    · rw [hp]
      intro q hq
      rcases mem_put hq with rfl | ⟨hq, -⟩
      · rw [hrow.input]
        exact hI.normalized cur hmem
      · exact hI.normalized q hq
    · rw [hp]
      unfold findIntent
      rw [hi]
      intro q hq
      rcases mem_put hq with rfl | ⟨hq, -⟩
      · rw [hrow.input, hrow.intentID]
        exact hI.intent cur hmem
      · exact hI.intent q hq
  · intro i q hq
    by_cases hqi : i = Row.id r
    · subst hqi
      cases hold.symm.trans hq
      exact ⟨r, by rw [hp]; exact get?_put_self hold, hrow⟩
    · exact ⟨q, by rw [hp, get?_put_of_ne hqi]; exact hq, succeeds_refl db' q⟩

variable {fingerprint : SettlementDigest}

theorem normalize_trimmed {raw : SettlementInput}
    (h : normalizeAccountQuotaSettlementInput raw = .ok (input, fingerprint)) :
    trimSpace input.eventKey = input.eventKey ∧ trimSpace input.requestID = input.requestID := by
  rw [show input = _ from (normalize_ok h).1]
  exact ⟨trimSpace_trimSpace _, trimSpace_trimSpace _⟩

variable {id : Int}

/-- A worker's transaction does not touch permits and intents. -/
theorem Work.permits_eq (h : Work id input db db') :
    db'.permits = db.permits ∧ db'.intents = db.intents := by
  cases h <;> exact ⟨rfl, rfl⟩

/-- An intent keeps its id and its key. -/
theorem intents_put {cur row : SettlementIntent} {i : Int}
    (hI : db.intents.UniqueOn fun i => i.input.eventKey) (hcur : db.intents.get? i = some cur)
    (hid : row.id = cur.id) (hin : row.input = cur.input) :
    (db.intents.put row).UniqueOn (fun i => i.input.eventKey) ∧ ∀ k,
      intentID (findIntent { db with intents := db.intents.put row } k) =
        intentID (findIntent db k) := by
  have hold : db.intents.get? (Row.id row) = some cur := by
    show db.intents.get? row.id = some cur
    rw [hid]
    exact get?_of_mem (get?_mem hcur)
  have hkey : row.input.eventKey = cur.input.eventKey := by rw [hin]
  constructor
  · exact hI.put hold hkey
  · intro k
    unfold findIntent
    rw [hI.find?_put hold hkey k]
    split
    · next hk =>
      have hfind := find?_of_unique hI (get?_mem hcur)
      rw [hk, hkey, hfind]
      exact hid
    · rfl

variable {fact : SettlementFact} {now : Int}

/-- The permits of a new fact. -/
theorem PermitsOk.newFact {permits : Table ExecutionPermit}
    (hI : PermitsOk db) (hfacts : db'.facts.get? fact.id = some fact)
    (htrim : trimSpace fact.input.eventKey = fact.input.eventKey ∧
      trimSpace fact.input.requestID = fact.input.requestID)
    (h : PermitsNewFact db now fact permits) (hp : db'.permits = permits)
    (hi : db'.intents = db.intents) : PermitsOk db' ∧ PermitsContinue db db' := by
  obtain ⟨hnone, hnew, hpermits⟩ | ⟨p, hmem, hkey, hunbound, hpermits⟩ := h
  · have hfind : ∀ k, findIntent db' k = findIntent db k := by
      intro k
      unfold findIntent
      rw [hi]
    refine hI.insert (p := runtimePermit now none (some fact) fact.input fact.requestFingerprint)
      hnew htrim (by rw [hi]; exact hI.intents) (fun k _ => hfind k) ?_ (hp.trans hpermits)
    show 0 = intentID (findIntent db' fact.input.eventKey)
    rw [hfind, hnone]
    rfl
  · refine hI.put (r := boundPermit p p fact.id) (get?_of_mem hmem) rfl ⟨rfl, rfl,
      absurd hunbound, fun _ => ?_⟩ hi (hp.trans hpermits)
    exact ⟨fact, hfacts, hkey.symm⟩

theorem intentID_getD (o : Option SettlementIntent) :
    (o.map SettlementIntent.id).getD 0 = intentID o := by
  cases o <;> rfl

/-- A historical review takes the intent of the fact's key. -/
theorem historicalIntent_ok {normalized : SettlementInput}
    {intent : Option SettlementIntent}
    (h : historicalIntent db fact normalized fingerprint = .ok intent) :
    intent = findIntent db fact.input.eventKey := by
  unfold historicalIntent at h
  split at h
  · next hnone =>
    cases h
    exact hnone.symm
  · next stored hstored =>
    obtain ⟨-, -, hr⟩ := bind_eq_ok.mp h
    cases hr
    exact hstored.symm

variable {party : Party}

theorem Step.permitsOk (h : Step party db db') (hI : PermitsOk db) :
    PermitsOk db' ∧ PermitsContinue db db' := by
  have same : ∀ {db' : DB}, db'.permits = db.permits → db'.intents = db.intents →
      PermitsOk db' ∧ PermitsContinue db db' :=
    fun hp hi => ⟨hI.of_eq hp hi, permitsContinue_of_eq hp⟩
  cases h.effect with
  | kept => exact same rfl rfl
  | work _ h => exact same h.permits_eq.1 h.permits_eq.2
  | @newFact _ input fingerprint _ _ hinput _ hpermits =>
    refine hI.newFact ?_ (normalize_trimmed hinput) hpermits rfl rfl
    exact db.facts.get?_insert_nextId (factCandidate input fingerprint)
  | @newIntent _ input fingerprint _ hinput hnone hnew =>
    have hkeys : ∀ a ∈ db.intents.rows, a.input.eventKey ≠ input.eventKey := by
      intro a ha he
      exact find?_none.mp hnone a ha (decide_eq_true he)
    have hfind := fun k => hI.intents.find?_insert
      (r := intentCandidate input fingerprint) hkeys k
    refine hI.insert (p := runtimePermit _ _ _ input fingerprint) hnew (normalize_trimmed hinput)
      (hI.intents.insert hkeys) (fun k hk => (hfind k).trans (if_neg hk)) ?_ rfl
    have hself := (hfind input.eventKey).trans (if_pos rfl)
    exact (congrArg intentID hself).symm
  | intent hcur hid hin =>
    obtain ⟨hkeys, hfind⟩ := intents_put hI.intents hcur hid hin
    refine ⟨⟨hI.keys, hI.normalized, hkeys, ?_⟩, permitsContinue_of_eq rfl⟩
    intro p hp
    rw [hfind]
    exact hI.intent p hp
  | @newPermit _ _ _ _ _ fact intent hinput hin hintent hnew =>
    refine hI.insert (p := historicalPermit _ intent fact _ _ _) hnew (normalize_trimmed hinput)
      hI.intents (fun _ _ => rfl) ?_ rfl
    rw [historicalIntent_ok hintent, hin]
    exact intentID_getD _
  | @revoked _ cur hcur =>
    exact hI.put (r := { cur with state := .revoked }) (get?_of_mem (get?_mem hcur)) rfl
      ⟨rfl, rfl, fun _ => rfl, absurd rfl⟩ rfl rfl
  | foreign change => exact same (change.permits db) (change.intents db)

/-! ### Balances -/

/-- There is an active exact permit for the fact of a key that allows a leg. -/
def Authorised (db : DB) (key : String) (allows : ExecutionPermit → Bool) : Prop :=
  ∃ f ∈ db.facts.rows, f.input.eventKey = key ∧ ∃ p, Covers db p f ∧ allows p = true

theorem fundSource_tokens (h : fundSource db input = .ok db') :
    db'.ledger.tokens = db.ledger.tokens := by
  unfold fundSource at h
  split at h
  · cases h
    rfl
  · obtain ⟨-, users, rfl⟩ := moveUserQuota_ok h
    rfl
  · simp only [fundSubscription, bind_eq_ok] at h
    obtain ⟨_, -, -, -, -, -, _, -, -, -, -, -, hdb⟩ := h
    cases hdb
    rfl
  · cases h

theorem chargeToken_funding (h : chargeToken db input now = .ok db') :
    db'.ledger.users = db.ledger.users ∧ db'.ledger.subscriptions = db.ledger.subscriptions := by
  simp only [chargeToken, bind_eq_ok] at h
  obtain ⟨_, -, -, -, _, -, _, -, hdb⟩ := h
  cases hdb
  exact ⟨rfl, rfl⟩

/-- A step that moves a balance meets the condition of the leg. -/
def MovesUnder (db db' : DB) (funding token : Prop) : Prop :=
  ((db'.ledger.users = db.ledger.users ∧ db'.ledger.subscriptions = db.ledger.subscriptions) ∨ funding) ∧
    (db'.ledger.tokens = db.ledger.tokens ∨ token)

theorem MovesUnder.still {funding token : Prop} (h : db'.ledger = db.ledger) : MovesUnder db db' funding token :=
  ⟨.inl ⟨by rw [h], by rw [h]⟩, .inl (by rw [h])⟩

/-- What a worker's transaction may do to the balances: nothing, or a leg that the permit allows. -/
theorem Work.authorised (h : Work id input db db') (hK : Stored id input db)
    (hI : PermitsOk db) :
    MovesUnder db db' (Authorised db input.eventKey ExecutionPermit.allowFunding)
      (Authorised db input.eventKey ExecutionPermit.allowToken) := by
  have authorised : ∀ {cur : SettlementFact} {p : ExecutionPermit} {allows : ExecutionPermit → Bool},
      db.facts.get? id = some cur → loadAccountQuotaExecutionPermitForFact db cur = .ok p →
      allows p = true → Authorised db input.eventKey allows := by
    intro cur p allows hcur hload hallow
    have hkey : cur.input.eventKey = input.eventKey := by rw [(hK.row hcur).2]
    exact ⟨cur, get?_mem hcur, hkey, p, loadForFact_covers hI hload, hallow⟩
  cases h with
  | kept | rewritten | marked | confirmed => exact .still rfl
  | funded hcur hload hallow _ _ hfund =>
    exact ⟨.inr (authorised hcur hload hallow), .inl (fundSource_tokens hfund :)⟩
  | charged hcur hload hallow _ _ _ hcharge =>
    exact ⟨.inl (chargeToken_funding hcharge :), .inr (authorised hcur hload hallow)⟩
  | settled hcur _ hload hf ht =>
    exact ⟨.inr (authorised hcur hload hf), .inr (authorised hcur hload ht)⟩

/-- A step that is not other code moves a balance for the key of its settlement only, under a
permit that allows the leg. -/
theorem Step.authorised (h : Step party db db') (hp : party ≠ .other)
    (hI : PermitsOk db) :
    MovesUnder db db' (∃ key, party = .settlement key ∧ Authorised db key ExecutionPermit.allowFunding)
      (∃ key, party = .settlement key ∧ Authorised db key ExecutionPermit.allowToken) := by
  cases h.effect with
  | kept | newFact | newIntent | intent | newPermit | revoked => exact .still rfl
  | work hK h =>
    obtain ⟨hf, ht⟩ := h.authorised hK hI
    exact ⟨hf.imp_right fun h => ⟨_, rfl, h⟩, ht.imp_right fun h => ⟨_, rfl, h⟩⟩
  | foreign change => exact absurd rfl hp

/-! ### Runs -/

/-- The permit `p'` is the permit `p` at a later time. -/
def Later (p p' : ExecutionPermit) : Prop :=
  p'.id = p.id ∧ p'.input = p.input ∧ (p.factID ≠ 0 → p'.factID = p.factID)

/-- Every permit is still stored later. -/
def PermitsStay (db db' : DB) : Prop :=
  ∀ p ∈ db.permits.rows, ∃ p' ∈ db'.permits.rows, Later p p'

theorem PermitsContinue.stay (h : PermitsContinue db db') : PermitsStay db db' := by
  intro p hp
  obtain ⟨p', hp', hs⟩ := h p.id p (get?_of_mem hp)
  exact ⟨p', get?_mem hp', get?_id hp', hs.input, hs.bound⟩

theorem PermitsStay.trans (a b c : DB) (h : PermitsStay a b) (h' : PermitsStay b c) :
    PermitsStay a c := by
  intro p hp
  obtain ⟨q, hq, hid, hin, hfact⟩ := h p hp
  obtain ⟨r, hr, hid', hin', hfact'⟩ := h' q hq
  refine ⟨r, hr, hid'.trans hid, hin'.trans hin, fun hne => ?_⟩
  have hqf := hfact hne
  rw [hfact' (by rw [hqf]; exact hne), hqf]

/-- A permit that was stored at some time of the run. -/
def EverStored (w : System DB Env Job) (p : ExecutionPermit) : Prop :=
  p ∈ w.state.permits.rows ∨ ∃ t ∈ w.history, p ∈ t.before.permits.rows

/-- In every run each movement of a balance for a settlement happens in a transaction in which the
fact of its event key has an active exact permit that allows the leg; a permit's fact is written
once, into a permit without one; and an event key never has two permits. -/
theorem settlement_money_under_permit {db₀ : DB} {w : System DB Env Job} (hfacts : FactKeys db₀)
    (hintents : db₀.intents.UniqueOn fun i => i.input.eventKey) (hpermits : db₀.permits.rows = [])
    (hw : Reaches db₀ w) :
    (∀ t ∈ w.history, t.job.party ≠ .other →
      ((∃ i, userQuota i t.after ≠ userQuota i t.before ∨
          subscriptionUsed i t.after ≠ subscriptionUsed i t.before) →
        ∃ key, t.job.party = .settlement key ∧
          Authorised t.before key ExecutionPermit.allowFunding) ∧
      ((∃ i, tokenRemain i t.after ≠ tokenRemain i t.before ∨
          tokenUsed i t.after ≠ tokenUsed i t.before) →
        ∃ key, t.job.party = .settlement key ∧
          Authorised t.before key ExecutionPermit.allowToken)) ∧
      (∀ t ∈ w.history, PermitsContinue t.before t.after) ∧
      (∀ p q, EverStored w p → EverStored w q → p.input.eventKey = q.input.eventKey →
        p.id = q.id ∧ (p.factID ≠ 0 → q.factID ≠ 0 → p.factID = q.factID)) := by
  have hsound := reaches_sound hfacts hw
  have h₀ : PermitsOk db₀ := by
    refine ⟨?_, ?_, hintents, ?_⟩ <;> simp [Table.UniqueOn, hpermits]
  obtain ⟨hok, hbefore⟩ := hsound.linked.invariant h₀ fun t ht h =>
    ((hsound.guarantee t ht).1.permitsOk h).1
  have hcontinue : ∀ t ∈ w.history, PermitsContinue t.before t.after := fun t ht =>
    ((hsound.guarantee t ht).1.permitsOk (hbefore t ht)).2
  refine ⟨?_, hcontinue, ?_⟩
  · intro t ht hparty
    obtain ⟨hf, htok⟩ := (hsound.guarantee t ht).1.authorised hparty (hbefore t ht)
    constructor
    · rintro ⟨i, hi⟩
      refine hf.resolve_left ?_
      rintro ⟨hu, hs⟩
      simp [userQuota, subscriptionUsed, hu, hs] at hi
    · rintro ⟨i, hi⟩
      refine htok.resolve_left ?_
      intro htokens
      simp [tokenRemain, tokenUsed, htokens] at hi
  · have hstays := hsound.linked.related PermitsStay.trans fun t ht => (hcontinue t ht).stay
    -- every permit of the run is in the last state, where keys are unique
    have hlast : ∀ p, EverStored w p → ∃ p' ∈ w.state.permits.rows, Later p p' := by
      rintro p (hp | ⟨t, ht, hp⟩)
      · exact ⟨p, hp, rfl, rfl, fun _ => rfl⟩
      · exact hstays t ht p hp
    intro p q hp hq hkey
    obtain ⟨p', hp', hpid, hpin, hpf⟩ := hlast p hp
    obtain ⟨q', hq', hqid, hqin, hqf⟩ := hlast q hq
    have hsame : p'.input.eventKey = q'.input.eventKey := by rw [hpin, hqin, hkey]
    obtain rfl := hok.keys p' hp' q' hq' hsame
    exact ⟨hpid.symm.trans hqid, fun hp0 hq0 => (hpf hp0).symm.trans (hqf hq0)⟩

/-- An intent is recorded and a worker applies it. -/
def intentRun : List (Event Env Job) :=
  [.launch (.ensureIntent walletSettlement)] ++ advances 0 5 1 ++
  [.launch (.recoverIntent
    { intentCandidate walletSettlement walletSettlement.digest with id := 1 } "w")] ++
  advances 1 24 2

theorem settlement_money_under_permit_intentRun :
    Reaches plainDB (plainRun intentRun) ∧
      ∃ t ∈ (plainRun intentRun).history, userQuota 1 t.after ≠ userQuota 1 t.before ∧
        ∃ key, t.job.party = .settlement key ∧
          Authorised t.before key ExecutionPermit.allowFunding := by
  have hrun : (run (System.step launch) ⟨plainDB, [], []⟩ intentRun).isSome = true ∧
      ∃ t ∈ (plainRun intentRun).history, userQuota 1 t.after ≠ userQuota 1 t.before ∧
        t.job.party ≠ .other := by
    decide +kernel
  obtain ⟨hsome, t, ht, hmoved, hparty⟩ := hrun
  have hreach := plainRun_reaches hsome
  have hfacts : FactKeys plainDB := uniqueOn_empty _
  have h := settlement_money_under_permit hfacts (uniqueOn_empty _) rfl hreach
  exact ⟨hreach, t, ht, hmoved, (h.1 t ht hparty).1 ⟨1, .inl hmoved⟩⟩

end MyApiSpec.Settlement
