import MyApiSpec.Ledger.Recovery

/-!
# What a committed ledger transaction does

One lemma per function of `Ledger/Mutation.lean` and `Ledger/Recovery.lean`: the function
succeeds exactly when its guards pass, and then its result is the stated database. Later
modules use these lemmas and never unfold a transaction again.
-/

namespace MyApiSpec.Ledger

open Base Table Option

/-! ### Lookups -/

variable {db db' : DB} {eventKey requestID : String} {h head : Head} {o : Obligation} {i now : Int}
  {s : Option UserSubscription} {r : Receipt} {env : TxEnv} {ctx : ReserveCtx} {user : User}
  {token : Token} {input : TerminalInput}

theorem findHead_eq_ok :
    findAccountQuotaReservationHead db requestID = .ok h ↔
      db.heads.find? (fun x => x.requestID = requestID) = some h := by
  simp [findAccountQuotaReservationHead]

section

variable (hf : db.heads.find? (fun x => x.requestID = requestID) = some h)
include hf

theorem headFind_mem :
    h ∈ db.heads.rows ∧ h.requestID = requestID :=
  ⟨find?_mem hf, by simpa using find?_pred hf⟩

theorem headFind_get? :
    db.heads.get? h.id = some h :=
  get?_of_mem (headFind_mem hf).1

end

theorem obligationFind_mem (hf : findObligation db requestID = some o) :
    o ∈ db.obligations.rows ∧ o.requestID = requestID :=
  ⟨find?_mem hf, by simpa using find?_pred hf⟩

theorem obligationFind_get? (hf : findObligation db requestID = some o) :
    db.obligations.get? o.id = some o :=
  get?_of_mem (obligationFind_mem hf).1

theorem lockSubscription_eq_ok :
    lockSubscription db i = .ok s ↔
      (0 < i ∧ ∃ x, db.subscriptions.get? i = some x ∧ s = some x) ∨ (¬ 0 < i ∧ s = none) := by
  unfold lockSubscription
  by_cases h : 0 < i
  · cases db.subscriptions.get? i <;> simp [h, Except.map, eq_comm]
  · simp [h, eq_comm]

/-- The row a successful lock returned is stored under its own id. -/
theorem lockSubscription_stored (h : lockSubscription db i = .ok s) :
    ∀ x, s = some x → db.subscriptions.get? x.id = some x ∧ x.id = i := by
  rintro x rfl
  rcases lockSubscription_eq_ok.mp h with ⟨-, y, hy, he⟩ | ⟨-, he⟩
  · cases he
    exact ⟨get?_own hy, get?_id hy⟩
  · cases he

theorem replay_eq_ok {fingerprint : Fingerprint} {o : Option Receipt} :
    accountQuotaReplay db eventKey fingerprint = .ok o ↔
      (o = none ∧ findAccountQuotaReceiptByEvent db eventKey = none) ∨
        ∃ r, o = some r ∧ findAccountQuotaReceiptByEvent db eventKey = some r ∧
          r.requestFingerprint = fingerprint ∧ r.Sealed := by
  unfold accountQuotaReplay
  cases hf : findAccountQuotaReceiptByEvent db eventKey with
  | none => simp [eq_comm]
  | some r =>
    by_cases h1 : r.requestFingerprint = fingerprint
    · by_cases h2 : r.Sealed <;> simp [h1, h2, eq_comm]
    · simp only [ne_eq, h1, not_false_eq_true, if_true, reduceCtorEq, and_false, false_or, false_iff,
        some.injEq]
      rintro ⟨x, -, rfl, hx, -⟩
      exact h1 hx

theorem eventFind_mem (hf : findAccountQuotaReceiptByEvent db eventKey = some r) :
    r ∈ db.receipts.rows ∧ r.eventKey = eventKey :=
  ⟨find?_mem hf, by simpa using find?_pred hf⟩

theorem eventFind_none :
    findAccountQuotaReceiptByEvent db eventKey = none ↔
      ∀ r ∈ db.receipts.rows, r.eventKey ≠ eventKey := by
  simp [findAccountQuotaReceiptByEvent, find?_none]

variable {st : QuotaWriterEpoch}

theorem durable_eq_ok :
    requireDurableQuotaWriterEpoch db = .ok st ↔
      db.writer = some st ∧ st.mode = .authoritative ∧
        quotaMaintenanceBackfillsComplete db = true := by
  simp only [requireDurableQuotaWriterEpoch, getQuotaWriterEpochState, bind_eq_ok, need_eq_ok, check_eq_ok,
    exists_const, pure_eq_ok]
  constructor
  · rintro ⟨s, hs, hm, hc, rfl⟩
    exact ⟨hs, hm, hc⟩
  · rintro ⟨hs, hm, hc⟩
    exact ⟨st, hs, hm, hc, rfl⟩

theorem terminalWriter_eq_ok :
    requireTerminalWriter db = .ok st ↔
      db.writer = some st ∧
        (st.mode = .bridge ∨
          (st.mode = .authoritative ∧ quotaMaintenanceBackfillsComplete db = true)) := by
  simp only [requireTerminalWriter, getQuotaWriterEpochState, bind_eq_ok, need_eq_ok, check_eq_ok,
    exists_const]
  constructor
  · rintro ⟨s, hs, hm, h⟩
    split at h
    · next ha =>
      obtain ⟨h1, h2, h3⟩ := durable_eq_ok.mp h
      exact ⟨h1, .inr ⟨h2, h3⟩⟩
    · next ha =>
      cases h
      exact ⟨hs, .inl (hm.resolve_left ha)⟩
  · rintro ⟨hs, hm | ⟨hm, hc⟩⟩
    · exact ⟨st, hs, .inr hm, by simp [hm, pure, Except.pure]⟩
    · exact ⟨st, hs, .inl hm, by rw [if_pos hm]; exact durable_eq_ok.mpr ⟨hs, hm, hc⟩⟩

/-! ### Row creation -/

/-- The receipt passes its create hook and both unique indexes. -/
structure Recordable (db : DB) (r : Receipt) : Prop where
  receiptVersion : r.receiptVersion = accountQuotaMutationReceiptVersion
  fingerprintVersion : r.fingerprintVersion = accountQuotaFingerprintVersion
  writerEpoch : 0 < r.writerEpoch
  requestID : r.requestID ≠ ""
  eventKey : r.eventKey ≠ ""
  mutationSlot : r.mutationSlot ≠ ""
  reserveFingerprint : r.reserveFingerprint.length = 64
  requestFingerprint : r.requestFingerprint.length = 64
  userID : 0 < r.userID
  tokenID : 0 < r.tokenID
  fresh : ∀ x ∈ db.receipts.rows, x.eventKey ≠ r.eventKey ∧ x.mutationSlot ≠ r.mutationSlot

/-- The row under which a receipt is stored. -/
def Receipt.storedAs (r : Receipt) (id now : Int) : Receipt := { r with id := id, createdAt := now }

theorem createReceipt_eq_ok {r' : Receipt} :
    createReceipt db r now = .ok (db', r') ↔
      Recordable db r ∧ r' = r.storedAs db.receipts.nextId now ∧
        db' = { db with receipts := db.receipts.insert r' } := by
  simp only [createReceipt, bind_eq_ok, check_eq_ok, exists_const, pure_eq_ok, Prod.mk.injEq]
  constructor
  · rintro ⟨⟨a, b, c, d, e, f, g, h, i, j⟩, k, h1, h2⟩
    exact ⟨⟨a, b, c, d, e, f, g, h, i, j, k⟩, h2.symm, by rw [← h1, ← h2]⟩
  · rintro ⟨⟨a, b, c, d, e, f, g, h, i, j, k⟩, rfl, rfl⟩
    exact ⟨⟨a, b, c, d, e, f, g, h, i, j⟩, k, rfl, rfl⟩

/-- The obligation of a new reservation. -/
def openObligation (reserve : Receipt) : Obligation :=
  { requestID := reserve.requestID, reserveReceiptID := reserve.id
    writerEpoch := reserve.writerEpoch, requestFingerprint := reserve.reserveFingerprint
    state := .open, lockVersion := 1 }

/-- The projections grow by those of one receipt. -/
def ProjectsTo (db : DB) (ps : Table ProjectionObligation) (r : Receipt) : Prop :=
  ∀ p ∈ ps.rows, p ∈ db.projections.rows ∨ (p.receiptID = r.id ∧ p.eventKey = r.eventKey)

/-- Creating the projection obligation of a receipt touches no other table. -/
theorem ensureProjection_frame (h : ensureQuotaProjectionObligation db r = .ok db') :
    ∃ ps, db' = { db with projections := ps } ∧ ProjectsTo db ps r := by
  simp only [ensureQuotaProjectionObligation, bind_eq_ok, check_eq_ok, exists_const, need_eq_ok,
    pure_eq_ok] at h
  obtain ⟨-, stored, -, -, rfl⟩ := h
  refine ⟨_, rfl, ?_⟩
  intro p hp
  split at hp
  · exact .inl hp
  · rcases mem_insert.mp hp with hp | rfl
    · exact .inl hp
    · exact .inr ⟨rfl, rfl⟩

/-! ### Reserve -/

/-- The deltas a reserve applies. -/
def reserveDeltas (ctx : ReserveCtx) (choice : SourceChoice) (applied : Int) : AccountQuotaDeltas :=
  accountQuotaRequestedDeltas choice.source applied ctx.playground

/-- The snapshot of rows after a charge. -/
def chargedSnapshot (u : User) (t : Token) (s : Option UserSubscription) (d : AccountQuotaDeltas)
    (now : Int) : AccountSnapshot :=
  quotaMutationSnapshot (u.charge d) (t.charge d now) (s.map (fun x => x.charge d now))

/-- The receipt row a reserve stores. -/
def reserveStored (db : DB) (env : TxEnv) (ctx : ReserveCtx) (user : User) (token : Token)
    (choice : SourceChoice) (applied : Int) : Receipt :=
  (reserveReceipt ctx ctx.epoch user token choice applied
    (quotaMutationSnapshot user token choice.subscription)
    (chargedSnapshot user token choice.subscription (reserveDeltas ctx choice applied)
      env.now)).storedAs db.receipts.nextId env.now

/-- The database a fresh reserve commits, up to the projection table. -/
def reserveResult (db : DB) (env : TxEnv) (ctx : ReserveCtx) (user : User) (token : Token)
    (choice : SourceChoice) (applied : Int) (projections : Table ProjectionObligation) : DB :=
  let receipt := reserveStored db env ctx user token choice applied
  { DB.charge { db with subscriptions := choice.subscriptions } user token choice.subscription
      (reserveDeltas ctx choice applied) env.now with
    receipts := db.receipts.insert receipt
    heads := db.heads.insert { reserveHead ctx receipt with id := db.heads.nextId }
    obligations := db.obligations.insert (openObligation receipt)
    projections := projections }

/-- The guards that a fresh reserve passed. -/
structure ReserveGuards (db : DB) (env : TxEnv) (ctx : ReserveCtx) (user : User) (token : Token)
    (choice : SourceChoice) (applied : Int) : Prop where
  writer : ∃ st, requireDurableQuotaWriterEpoch db = .ok st ∧ st.epoch = ctx.epoch
  fresh : findAccountQuotaReceiptByEvent db (accountQuotaEventKey ctx.requestID .reserve) = none
  userRow : db.users.get? ctx.userID = some user
  userValid : user.status = 1 ∧ quotaMutationVersionValid user.quotaVersion
  tokenRow : db.tokens.get? ctx.tokenID = some token
  tokenValid : token.userID = user.id ∧ token.status = 1 ∧
    ¬ (token.expiredTime ≠ -1 ∧ token.expiredTime ≤ env.now) ∧
    quotaMutationVersionValid token.quotaVersion
  funding : reserveFunding db env ctx user token = .ok (choice, applied)
  chargeable : Chargeable user token choice.subscription (reserveDeltas ctx choice applied)
  recordable : Recordable db (reserveStored db env ctx user token choice applied)
  headFresh : ∀ h ∈ db.heads.rows, h.requestID ≠ ctx.requestID
  obligationFresh : ∀ o ∈ db.obligations.rows, o.requestID ≠ ctx.requestID

variable {choice : SourceChoice} {applied : Int}

/-- The choice of a reserve applied only logged resets; a subscription is charged only with a
usable stored row, and the applied amount is a valid quota. -/
theorem reserveFunding_ok
    (h : reserveFunding db env ctx user token = .ok (choice, applied)) :
    ResetEffect db.subscriptions choice.subscriptions choice.log ∧
      ((choice.source = .subscription ∧ ∃ s, choice.subscription = some s ∧
          Usable choice.subscriptions user.id s) ∨
        (choice.source ≠ .subscription ∧ choice.source ≠ .token ∧ choice.subscription = none)) ∧
      (applied = 0 ∨ applied = if ctx.requestedQuota = 0 then 1 else ctx.requestedQuota) ∧
      (choice.source = .free → applied = 0) := by
  unfold reserveFunding at h
  split at h
  · cases h
    exact ⟨ResetEffect.refl _, .inr ⟨by simp, by simp, rfl⟩, .inl rfl, fun _ => rfl⟩
  simp only [bind_eq_ok, check_eq_ok, exists_const, pure_eq_ok, Prod.mk.injEq] at h
  obtain ⟨c, hc, -, rfl, rfl⟩ := h
  obtain ⟨heff, hsrc⟩ := selectAccountBillingSource_ok hc
  refine ⟨heff, ?_, ?_, ?_⟩
  · rcases hsrc with hs | ⟨hs | hs, hn⟩
    · exact .inl hs
    · exact .inr ⟨by simp [hs], by simp [hs], hn⟩
    · exact .inr ⟨by simp [hs], by simp [hs], hn⟩
  · split
    · exact .inl rfl
    · exact .inr rfl
  · intro hf
    rcases hsrc with ⟨hs, -⟩ | ⟨hs | hs, -⟩ <;> rw [hs] at hf <;> cases hf

/-- The row that a reserve charges is stored behind the resets. -/
theorem reserveFunding_stored
    (h : reserveFunding db env ctx user token = .ok (choice, applied)) (x : UserSubscription)
    (hx : choice.subscription = some x) : choice.subscriptions.get? x.id = some x ∧
      x.id = (choice.subscription.map UserSubscription.id).getD 0 := by
  obtain ⟨-, ⟨-, s, hs, hus⟩ | ⟨-, -, hn⟩, -⟩ := reserveFunding_ok h
  · cases hs.symm.trans hx
    exact ⟨hus.stored, by rw [hx]; rfl⟩
  · cases hn.symm.trans hx

/-- A committed reserve replayed a stored receipt, or passed its guards and wrote its result. -/
theorem reserveTx_ok {log : ResetLog} (h : reserveTx db env ctx = .ok (db', r, log)) :
    (db' = db ∧ log = [] ∧ r ∈ db.receipts.rows ∧
        r.eventKey = accountQuotaEventKey ctx.requestID .reserve ∧
        r.requestFingerprint = ctx.fingerprint) ∨
      ∃ user token choice applied ps, ReserveGuards db env ctx user token choice applied ∧
        r = reserveStored db env ctx user token choice applied ∧ log = choice.log ∧
        db' = reserveResult db env ctx user token choice applied ps ∧ ProjectsTo db ps r := by
  simp only [reserveTx, bind_eq_ok, check_eq_ok, exists_const] at h
  obtain ⟨st, hst, hepoch, replay, hreplay, h⟩ := h
  rcases replay_eq_ok.mp hreplay with ⟨rfl, hfresh⟩ | ⟨x, rfl, hx, hfp, -⟩
  · right
    simp only [bind_eq_ok, check_eq_ok, exists_const, need_eq_ok] at h
    obtain ⟨user, huser, huv, token, htoken, htv, ⟨choice, applied⟩, hfund, after, hafter, -,
      hepoch2, charged, hcharged, ⟨stored, receipt⟩, hrec, ⟨headed, head⟩, hhead, obliged, hobl,
      final, hproj, h⟩ := h
    obtain ⟨hchg, rfl⟩ := accountQuotaAfter_eq_ok.mp hafter
    rw [@applyAccountQuotaBalances_eq _ _ { db with subscriptions := choice.subscriptions } _ _ _ _
      env.now huser htoken (fun x hx => (reserveFunding_stored hfund x hx).1) hchg] at hcharged
    cases hcharged
    obtain ⟨hrecord, hreceipt, rfl⟩ := createReceipt_eq_ok.mp hrec
    simp only [createHead, bind_eq_ok, check_eq_ok, exists_const, pure_eq_ok, Prod.mk.injEq] at hhead
    obtain ⟨hheadfresh, rfl, rfl⟩ := hhead
    simp only [createAccountQuotaLifecycleObligation, createObligation, bind_eq_ok, check_eq_ok, exists_const,
      pure_eq_ok] at hobl
    obtain ⟨-, hoblfresh, rfl⟩ := hobl
    obtain ⟨ps, rfl, hps⟩ := ensureProjection_frame hproj
    obtain ⟨rfl, rfl, rfl⟩ := h
    have hr : receipt = reserveStored db env ctx user token choice applied := by
      rw [hreceipt, hepoch]
      rfl
    subst hr
    refine ⟨user, token, choice, applied, ps,
      ⟨⟨st, hst, hepoch⟩, hfresh, huser, huv, htoken, htv, hfund, hchg, ?_, hheadfresh, ?_⟩, rfl,
      rfl, ?_, hps⟩
    · rw [hepoch] at hrecord
      exact { hrecord with }
    · exact hoblfresh
    · rfl
  · left
    obtain ⟨rfl, rfl, rfl⟩ := h
    exact ⟨rfl, rfl, (eventFind_mem hx).1, (eventFind_mem hx).2, hfp⟩

/-! ### Extend -/

/-- Replace the stored obligation that has the id of `o`. -/
def DB.putObligation (db : DB) (o : Obligation) : DB :=
  { db with obligations := db.obligations.put o }

theorem updateLifecycle_eq_ok {receipt : Receipt} :
    updateAccountQuotaLifecycleReservation db head receipt = .ok db' ↔
      ∃ o pending realtime, findObligation db head.requestID = some o ∧
        (o.state = .open ∧ o.writerEpoch = head.writerEpoch ∧
          o.requestFingerprint = head.reserveFingerprint ∧ 0 < o.lockVersion) ∧
        textDispatchPending o.reviewMetadata = .ok pending ∧
        realtimeDispatchPending o.reviewMetadata = .ok realtime ∧
        (pending = false ∨ realtime = true) ∧
        db' = db.putObligation
          { o with reserveReceiptID := receipt.id, lockVersion := o.lockVersion + 1 } := by
  simp only [updateAccountQuotaLifecycleReservation, bind_eq_ok, need_eq_ok, check_eq_ok, exists_const,
    cas_eq_some, pure_eq_ok]
  constructor
  · rintro ⟨o, ho, hopen, pending, hp, realtime, hr, hd, obligations, ⟨x, hx, -, rfl⟩, rfl⟩
    rw [obligationFind_get? ho] at hx
    cases hx
    exact ⟨o, pending, realtime, ho, hopen, hp, hr, hd, rfl⟩
  · rintro ⟨o, pending, realtime, ho, hopen, hp, hr, hd, rfl⟩
    exact ⟨o, ho, hopen, pending, hp, realtime, hr, hd, _,
      ⟨o, obligationFind_get? ho, by simp [hopen.1], rfl⟩, rfl⟩

/-- The deltas an extension applies. -/
def extendDeltas (ctx : ExtendCtx) (head : Head) (current : Receipt) : AccountQuotaDeltas :=
  accountQuotaRequestedDeltas head.billingSource (ctx.targetQuota - head.appliedQuota)
    current.billingContext.playground

/-- The receipt row an extension stores. -/
def extendStored (db : DB) (env : TxEnv) (ctx : ExtendCtx) (head : Head) (current : Receipt)
    (user : User) (token : Token) (sub : Option UserSubscription) : Receipt :=
  (adjustReceipt ctx head current (extendDeltas ctx head current)
    (quotaMutationSnapshot user token sub)
    (chargedSnapshot user token sub (extendDeltas ctx head current) env.now)).storedAs
      db.receipts.nextId env.now

/-- The database an extension commits, before its projection obligation. -/
def extendResult (db : DB) (env : TxEnv) (ctx : ExtendCtx) (head : Head) (current : Receipt)
    (user : User) (token : Token) (sub : Option UserSubscription) (o : Obligation) : DB :=
  let receipt := extendStored db env ctx head current user token sub
  { db.charge user token sub (extendDeltas ctx head current) env.now with
    receipts := db.receipts.insert receipt
    heads := db.heads.put
      { head with currentReceiptID := receipt.id, appliedQuota := ctx.targetQuota
                  lockVersion := head.lockVersion + 1 }
    obligations := db.obligations.put
      { o with reserveReceiptID := receipt.id, lockVersion := o.lockVersion + 1 } }

/-- The guards that a raising extension passed. -/
structure ExtendGuards (db : DB) (env : TxEnv) (ctx : ExtendCtx) (head : Head) (current : Receipt)
    (user : User) (token : Token) (sub : Option UserSubscription) (o : Obligation) : Prop where
  writer : ∃ st, db.writer = some st ∧ st.mode = .authoritative ∧ st.epoch = ctx.writerEpoch
  headRow : db.heads.find? (fun h => h.requestID = ctx.requestID) = some head
  userRow : db.users.get? head.userID = some user
  tokenRow : db.tokens.get? head.tokenID = some token
  subRow : lockSubscription db head.subscriptionID = .ok sub
  unsettled : head.terminalReceiptID = 0
  inChain : accountQuotaReceiptInChain db head ctx.reserveReceiptID = .ok true
  currentRow : db.receipts.get? head.currentReceiptID = some current
  current_matches : HeadMatches head current
  fresh : findAccountQuotaReceiptByEvent db (accountQuotaAdjustKey ctx.requestID ctx.targetQuota) =
    none
  raise : head.appliedQuota < ctx.targetQuota
  funds : extendFunds head current user token sub (ctx.targetQuota - head.appliedQuota) = .ok ()
  chargeable : Chargeable user token sub (extendDeltas ctx head current)
  epoch : requireQuotaProjectionEpoch db head.writerEpoch = .ok ()
  recordable : Recordable db (extendStored db env ctx head current user token sub)
  obligationRow : findObligation db head.requestID = some o
  obligationOpen : o.state = .open ∧ o.writerEpoch = head.writerEpoch ∧
    o.requestFingerprint = head.reserveFingerprint ∧ 0 < o.lockVersion
  dispatch : ∃ pending realtime, textDispatchPending o.reviewMetadata = .ok pending ∧
    realtimeDispatchPending o.reviewMetadata = .ok realtime ∧ (pending = false ∨ realtime = true)

private theorem recordable_charge {u : User} {t : Token} {d : AccountQuotaDeltas} :
    Recordable (db.charge u t s d now) r ↔ Recordable db (r.storedAs i now) :=
  ⟨fun h => { h with }, fun h => { h with }⟩

variable {ctx : ExtendCtx}

/-- Under its guards the extension commits its result, if the projection obligation can be
created. -/
theorem extendTx_of_guards {current : Receipt} {sub : Option UserSubscription}
    (g : ExtendGuards db env ctx head current user token sub o)
    (h : ensureQuotaProjectionObligation (extendResult db env ctx head current user token sub o)
      (extendStored db env ctx head current user token sub) = .ok db') :
    extendTx db env ctx = .ok (db', extendStored db env ctx head current user token sub) := by
  obtain ⟨st, hst, hmode, hepoch⟩ := g.writer
  obtain ⟨pending, realtime, hp, hr, hd⟩ := g.dispatch
  simp only [extendTx, getQuotaWriterEpochState, bind_eq_ok, need_eq_ok, check_eq_ok, exists_const,
    findHead_eq_ok, validateAccountQuotaHeadReceipt]
  refine ⟨st, hst, ⟨hmode, hepoch⟩, head, g.headRow, user, g.userRow, token, g.tokenRow, sub, g.subRow,
    head, headFind_get? g.headRow, by simp [g.unsettled], true, g.inChain, rfl, current, g.currentRow,
    g.current_matches, none, replay_eq_ok.mpr (.inl ⟨rfl, g.fresh⟩), ?_⟩
  simp only [if_neg (not_le.mpr g.raise), bind_eq_ok, need_eq_ok, cas_eq_some]
  exact ⟨(), g.funds, _, accountQuotaAfter_eq_ok.mpr ⟨g.chargeable, rfl⟩, (), g.epoch, _,
    applyAccountQuotaBalances_eq env.now g.userRow g.tokenRow
      (fun x hx => (lockSubscription_stored g.subRow x hx).1) g.chargeable,
    (_, _), createReceipt_eq_ok.mpr ⟨recordable_charge.mpr g.recordable, rfl, rfl⟩,
    _, ⟨head, headFind_get? g.headRow, by simp [g.unsettled], rfl⟩,
    _, updateLifecycle_eq_ok.mpr ⟨o, pending, realtime, g.obligationRow, g.obligationOpen, hp, hr, hd, rfl⟩,
    _, h, rfl⟩

/-- A committed extension answered without a write, or passed its guards and wrote its result. -/
theorem extendTx_ok (h : extendTx db env ctx = .ok (db', r)) :
    (db' = db ∧ ∃ head, db.heads.find? (fun h => h.requestID = ctx.requestID) = some head ∧
        ¬ 0 < head.terminalReceiptID ∧ r ∈ db.receipts.rows ∧
        ((HeadMatches head r ∧ ctx.targetQuota ≤ head.appliedQuota) ∨
          r.requestFingerprint = ctx.fingerprint)) ∨
      ∃ head current user token sub o ps,
        ExtendGuards db env ctx head current user token sub o ∧
        r = extendStored db env ctx head current user token sub ∧
        db' = { extendResult db env ctx head current user token sub o with projections := ps } ∧
        ProjectsTo db ps r := by
  simp only [extendTx, getQuotaWriterEpochState, bind_eq_ok, need_eq_ok, check_eq_ok, exists_const,
    findHead_eq_ok] at h
  obtain ⟨st, hst, ⟨hmode, hepoch⟩, head, hhead, user, huser, token, htoken, sub, hsub, head', hhead',
    hterm, inChain, hchain, rfl, current, hcurrent, _, hmatch, replay, hreplay, h⟩ := h
  rw [headFind_get? hhead] at hhead'
  cases hhead'
  simp only [validateAccountQuotaHeadReceipt, check_eq_ok] at hmatch
  rcases replay_eq_ok.mp hreplay with ⟨rfl, hfresh⟩ | ⟨x, rfl, hx, hfp, -⟩
  · by_cases hraise : ctx.targetQuota ≤ head.appliedQuota
    · simp only [hraise, if_true, pure_eq_ok, Prod.mk.injEq] at h
      obtain ⟨rfl, rfl⟩ := h
      exact .inl ⟨rfl, head, hhead, hterm, get?_mem hcurrent, .inl ⟨hmatch, hraise⟩⟩
    · right
      simp only [hraise, if_false, bind_eq_ok, need_eq_ok, cas_eq_some] at h
      obtain ⟨_, hfunds, after, hafter, _, hproj, charged, hcharged, ⟨stored, receipt⟩, hrec, heads,
        ⟨row, hrow, hguard, rfl⟩, obliged, hobl, final, hfinal, h⟩ := h
      obtain ⟨hchg, rfl⟩ := accountQuotaAfter_eq_ok.mp hafter
      rw [applyAccountQuotaBalances_eq env.now huser htoken
        (fun x hx => (lockSubscription_stored hsub x hx).1) hchg] at hcharged
      cases hcharged
      obtain ⟨hrecord, hreceipt, rfl⟩ := createReceipt_eq_ok.mp hrec
      obtain ⟨o, pending, realtime, ho, hopen, hp, hr, hd, rfl⟩ := updateLifecycle_eq_ok.mp hobl
      cases (headFind_get? hhead).symm.trans hrow
      have hzero : head.terminalReceiptID = 0 := by
        simpa using (of_decide_eq_true hguard).2.2
      have g : ExtendGuards db env ctx head current user token sub o :=
        ⟨⟨st, hst, hmode, hepoch⟩, hhead, huser, htoken, hsub, hzero, hchain, hcurrent, hmatch,
          hfresh, by omega, hfunds, hchg, hproj,
          recordable_charge.mp hrecord, ho, hopen,
          ⟨pending, realtime, hp, hr, hd⟩⟩
      obtain ⟨ps, rfl, hps⟩ := ensureProjection_frame hfinal
      cases h
      exact ⟨head, current, user, token, sub, o, ps, g, hreceipt, by rw [hreceipt]; rfl, hps⟩
  · obtain ⟨rfl, rfl⟩ := h
    exact .inl ⟨rfl, head, hhead, hterm, (eventFind_mem hx).1, .inr hfp⟩

/-! ### Settle and refund -/

theorem closeLifecycle_eq_ok {phase : TerminalPhase} {terminal : Receipt} :
    closeAccountQuotaLifecycle db head input phase terminal = .ok db' ↔
      ∃ o, findObligation db head.requestID = some o ∧
        (o.writerEpoch = head.writerEpoch ∧ 0 < o.lockVersion) ∧
        closeAdmission o head input phase = .ok () ∧
        db' = db.putObligation (o.close input phase terminal) := by
  simp only [closeAccountQuotaLifecycle, bind_eq_ok, need_eq_ok, check_eq_ok, exists_const,
    cas_eq_some, pure_eq_ok]
  constructor
  · rintro ⟨o, ho, hv, _, hadm, obligations, ⟨x, hx, -, rfl⟩, rfl⟩
    rw [obligationFind_get? ho] at hx
    cases hx
    exact ⟨o, ho, hv, hadm, rfl⟩
  · rintro ⟨o, ho, hv, hadm, rfl⟩
    exact ⟨o, ho, hv, (), hadm, _, ⟨o, obligationFind_get? ho, by simp, rfl⟩, rfl⟩

/-- The rows that a terminal transaction locked, and the guards they passed. -/
structure LockGuards (db : DB) (ctx : TerminalCtx) (l : TerminalLocked) : Prop where
  writer : ∃ st, requireTerminalWriter db = .ok st ∧ l.head.writerEpoch = st.epoch
  headRow : db.heads.find? (fun h => h.requestID = ctx.input.requestID) = some l.head
  userRow : db.users.get? l.head.userID = some l.user
  tokenRow : db.tokens.get? l.head.tokenID = some l.token
  subRow : lockSubscription db l.head.subscriptionID = .ok l.subscription
  tokenOwner : l.token.userID = l.user.id
  lockVersion : 0 < l.head.lockVersion
  userVersion : quotaMutationVersionValid l.user.quotaVersion
  tokenVersion : quotaMutationVersionValid l.token.quotaVersion
  subValid : ∀ s ∈ l.subscription, s.userID = l.user.id ∧ quotaMutationVersionValid s.quotaVersion
  inChain : accountQuotaReceiptInChain db l.head ctx.input.reserveReceiptID = .ok true
  currentRow : db.receipts.get? l.head.currentReceiptID = some l.current
  current_matches : HeadMatches l.head l.current
  fingerprint : accountQuotaFingerprint (terminalPayload ctx.input ctx.phase l.head l.current) =
    .ok l.fingerprint

variable {l : TerminalLocked} {ctx : TerminalCtx}

theorem terminalLock_eq_ok :
    terminalLock db ctx = .ok l ↔ LockGuards db ctx l := by
  simp only [terminalLock, accountQuotaTerminalFingerprint, bind_eq_ok, need_eq_ok, check_eq_ok,
    exists_const, findHead_eq_ok, pure_eq_ok]
  constructor
  · rintro ⟨st, hst, head, hhead, user, huser, token, htoken, sub, hsub, head', hhead', hepoch,
      ⟨-, howner, -, hlock, huv, htv, hsv⟩, inChain, hchain, rfl, current, hcurrent, _, hmatch, fp,
      ⟨-, hfp⟩, rfl⟩
    rw [headFind_get? hhead] at hhead'
    cases hhead'
    exact ⟨⟨st, hst, hepoch⟩, hhead, huser, htoken, hsub, howner, hlock, huv, htv,
      fun s hs => ⟨(hsv s hs).1, (hsv s hs).2.2⟩, hchain, hcurrent,
      by simpa [validateAccountQuotaHeadReceipt] using hmatch, hfp⟩
  · rintro ⟨⟨st, hst, hepoch⟩, hhead, huser, htoken, hsub, howner, hlock, huv, htv, hsv, hchain,
      hcurrent, hmatch, hfp⟩
    have huid : l.user.id = l.head.userID := get?_id huser
    have htid : l.token.id = l.head.tokenID := get?_id htoken
    refine ⟨st, hst, l.head, hhead, l.user, huser, l.token, htoken, l.subscription, hsub, l.head,
      headFind_get? hhead, hepoch, ⟨huid.symm, howner, htid.symm, hlock, huv, htv, ?_⟩, true, hchain,
      rfl, l.current, hcurrent, (), by simpa [validateAccountQuotaHeadReceipt] using hmatch,
      l.fingerprint, ⟨⟨hmatch.id, hmatch.reserveFingerprint⟩, hfp⟩, rfl⟩
    intro s hs
    exact ⟨(hsv s hs).1, (lockSubscription_stored hsub s hs).2, (hsv s hs).2⟩

/-- The deltas a terminal transaction applies. -/
def terminalDeltas (ctx : TerminalCtx) (l : TerminalLocked) : AccountQuotaDeltas :=
  (terminalAccountQuotaDeltas l.current ctx.input.actualQuota ctx.phase).1

/-- The receipt row a terminal transaction stores. -/
def terminalStored (db : DB) (env : TxEnv) (ctx : TerminalCtx) (l : TerminalLocked) : Receipt :=
  (terminalReceipt ctx l (terminalDeltas ctx l)
    (terminalAccountQuotaDeltas l.current ctx.input.actualQuota ctx.phase).2
    (quotaMutationSnapshot l.user l.token l.subscription)
    (chargedSnapshot l.user l.token l.subscription (terminalDeltas ctx l) env.now)).storedAs
      db.receipts.nextId env.now

/-- The database a terminal transaction commits, before its projection obligation. -/
def terminalResult (db : DB) (env : TxEnv) (ctx : TerminalCtx) (l : TerminalLocked)
    (o : Obligation) : DB :=
  let receipt := terminalStored db env ctx l
  { db.charge l.user l.token l.subscription (terminalDeltas ctx l) env.now with
    receipts := db.receipts.insert receipt
    heads := db.heads.put
      { l.head with terminalReceiptID := receipt.id, lockVersion := l.head.lockVersion + 1 }
    obligations := db.obligations.put (o.close ctx.input ctx.phase receipt) }

/-- The guards that a writing terminal transaction passed. -/
structure TerminalGuards (db : DB) (env : TxEnv) (ctx : TerminalCtx) (l : TerminalLocked)
    (o : Obligation) : Prop where
  lock : LockGuards db ctx l
  fresh : findAccountQuotaReceiptByEvent db ctx.eventKey = none
  unsettled : l.head.terminalReceiptID = 0
  chargeable : Chargeable l.user l.token l.subscription (terminalDeltas ctx l)
  epoch : requireQuotaProjectionEpoch db l.current.writerEpoch = .ok ()
  recordable : Recordable db (terminalStored db env ctx l)
  obligationRow : findObligation db l.head.requestID = some o
  obligationValid : o.writerEpoch = l.head.writerEpoch ∧ 0 < o.lockVersion
  admission : closeAdmission o l.head ctx.input ctx.phase = .ok ()

/-- Under its guards the terminal transaction commits its result, if the projection obligation
can be created. -/
theorem terminalTx_of_guards
    (g : TerminalGuards db env ctx l o)
    (h : ensureQuotaProjectionObligation (terminalResult db env ctx l o) (terminalStored db env ctx l) =
      .ok db') : terminalTx db env ctx = .ok (db', terminalStored db env ctx l) := by
  simp only [terminalTx, terminalWrite, bind_eq_ok]
  refine ⟨l, terminalLock_eq_ok.mpr g.lock, none, replay_eq_ok.mpr (.inl ⟨rfl, g.fresh⟩), ?_⟩
  simp only [g.unsettled, lt_irrefl, if_false, bind_eq_ok, need_eq_ok, cas_eq_some]
  exact ⟨_, accountQuotaAfter_eq_ok.mpr ⟨g.chargeable, rfl⟩, (), g.epoch, _,
    applyAccountQuotaBalances_eq env.now g.lock.userRow g.lock.tokenRow
      (fun x hx => (lockSubscription_stored g.lock.subRow x hx).1) g.chargeable,
    (_, _), createReceipt_eq_ok.mpr ⟨recordable_charge.mpr g.recordable, rfl, rfl⟩,
    _, ⟨l.head, headFind_get? g.lock.headRow, by simp [g.unsettled], rfl⟩,
    _, closeLifecycle_eq_ok.mpr ⟨o, g.obligationRow, g.obligationValid, g.admission, rfl⟩, _, h, rfl⟩

/-- A committed terminal transaction answered with a stored receipt of its own identity, or passed
its guards and wrote its result. -/
theorem terminalTx_ok (h : terminalTx db env ctx = .ok (db', r)) :
    (db' = db ∧ ∃ l, LockGuards db ctx l ∧ r ∈ db.receipts.rows ∧ r.eventKey = ctx.eventKey ∧
        r.requestFingerprint = l.fingerprint) ∨
      ∃ l o ps, TerminalGuards db env ctx l o ∧ r = terminalStored db env ctx l ∧
        db' = { terminalResult db env ctx l o with projections := ps } ∧ ProjectsTo db ps r := by
  simp only [terminalTx, bind_eq_ok] at h
  obtain ⟨l, hl, h⟩ := h
  have hlock := terminalLock_eq_ok.mp hl
  simp only [terminalWrite, bind_eq_ok] at h
  obtain ⟨replay, hreplay, h⟩ := h
  rcases replay_eq_ok.mp hreplay with ⟨rfl, hfresh⟩ | ⟨x, rfl, hx, hfp, -⟩
  · by_cases hterm : 0 < l.head.terminalReceiptID
    · simp only [hterm, if_true, bind_eq_ok, need_eq_ok, check_eq_ok, exists_const, pure_eq_ok,
          Prod.mk.injEq] at h
      obtain ⟨t, ht, ⟨hek, hfp⟩, rfl, rfl⟩ := h
      exact .inl ⟨rfl, l, hlock, get?_mem ht, hek, hfp⟩
    · right
      simp only [hterm, if_false, bind_eq_ok, need_eq_ok, cas_eq_some] at h
      obtain ⟨after, hafter, _, hproj, charged, hcharged, ⟨stored, receipt⟩, hrec, heads,
        ⟨row, hrow, hguard, rfl⟩, closed, hclosed, final, hfinal, h⟩ := h
      obtain ⟨hchg, rfl⟩ := accountQuotaAfter_eq_ok.mp hafter
      rw [applyAccountQuotaBalances_eq env.now hlock.userRow hlock.tokenRow
        (fun x hx => (lockSubscription_stored hlock.subRow x hx).1) hchg] at hcharged
      cases hcharged
      obtain ⟨hrecord, hreceipt, rfl⟩ := createReceipt_eq_ok.mp hrec
      obtain ⟨o, ho, hv, hadm, rfl⟩ := closeLifecycle_eq_ok.mp hclosed
      have hrow' : l.head = row := some.inj ((headFind_get? hlock.headRow).symm.trans hrow)
      have hzero : l.head.terminalReceiptID = 0 := by
        rw [hrow']
        simpa using (of_decide_eq_true hguard).2.2
      have g : TerminalGuards db env ctx l o :=
        ⟨hlock, hfresh, hzero, hchg, hproj,
          recordable_charge.mp hrecord, ho, hv, hadm⟩
      obtain ⟨ps, rfl, hps⟩ := ensureProjection_frame hfinal
      cases h
      exact ⟨l, o, ps, g, hreceipt, by rw [hreceipt, ← hrow']; rfl, hps⟩
  · simp only [pure_eq_ok, Prod.mk.injEq] at h
    obtain ⟨rfl, rfl⟩ := h
    exact .inl ⟨rfl, l, hlock, (eventFind_mem hx).1, (eventFind_mem hx).2, hfp⟩

/-! ### Obligation moves -/

/-- The states in which the refund worker owns the next step of an obligation. -/
def ObligationState.Refunding (s : ObligationState) : Prop :=
  s = .refundPending ∨ s = .retryable ∨ s = .claimed

instance (s : ObligationState) : Decidable s.Refunding := inferInstanceAs (Decidable (_ ∨ _))

/-- What every lifecycle operation outside the balance transactions does to an obligation: it
keeps identity and terminal receipt, bumps the version, neither leaves nor enters `applied`,
keeps an open row's fingerprint, and never changes the recorded refund of a refunding row. -/
structure ObligationMove (o o' : Obligation) : Prop where
  id : o'.id = o.id
  requestID : o'.requestID = o.requestID
  writerEpoch : o'.writerEpoch = o.writerEpoch
  terminalReceiptID : o'.terminalReceiptID = o.terminalReceiptID
  lockVersion : o'.lockVersion = o.lockVersion + 1
  not_applied : o.state ≠ .applied
  not_applied' : o'.state ≠ .applied
  open_back : o'.state = .open → o.state = .open ∧ o'.requestFingerprint = o.requestFingerprint

/-- A change of the database by obligation moves: nothing, or one moved row. -/
def MovesObligation (db db' : DB) : Prop :=
  db' = db ∨ ∃ o o', db.obligations.get? o.id = some o ∧ ObligationMove o o' ∧
    db' = db.putObligation o'

theorem cas_moves {guard : Obligation → Bool} {f : Obligation → Obligation} {t : Table Obligation}
    (h : db.obligations.cas i guard f = some t)
    (hmove : ∀ o, guard o = true → ObligationMove o (f o)) :
    MovesObligation db { db with obligations := t } := by
  obtain ⟨o, ho, hg, rfl⟩ := cas_eq_some.mp h
  exact .inr ⟨o, f o, get?_own ho, hmove o hg, rfl⟩

theorem manualEvidence_moves (h : persistManualEvidence db input = .ok db') :
    MovesObligation db db' := by
  simp only [persistManualEvidence, manualEvidenceTx, bind_eq_ok, need_eq_ok, check_eq_ok,
    exists_const, findHead_eq_ok] at h
  obtain ⟨norm, -, observed, -, head, -, -, inChain, -, -, current, -, fp, -, stored, hs, h⟩ := h
  split at h
  · simp only [bind_eq_ok, check_eq_ok, exists_const, pure_eq_ok] at h
    exact .inl h.2.symm
  · simp only [bind_eq_ok, check_eq_ok, exists_const, need_eq_ok, pure_eq_ok] at h
    obtain ⟨hopen, t, ht, rfl⟩ := h
    refine cas_moves ht fun o hg => ?_
    obtain ⟨ho, hv⟩ := of_decide_eq_true hg
    exact ⟨rfl, rfl, rfl, rfl, by simp [hv], by simp [ho], by simp, by simp⟩

variable {hasCause : Bool}

private theorem refundIntentWrite_moves {stored : Obligation} {writerEpoch : Int}
    (h : refundIntentWrite db stored input writerEpoch hasCause = .ok db') :
    MovesObligation db db' := by
  have htouch : stored.state.Refunding → ∀ t,
      db.obligations.cas stored.id
        (fun x => x.state = stored.state ∧ x.lockVersion = stored.lockVersion)
        (fun x => { x with lockVersion := stored.lockVersion + 1 }) = some t →
      MovesObligation db { db with obligations := t } := by
    intro hs t ht
    refine cas_moves ht fun o hg => ?_
    obtain ⟨hst, hv⟩ := of_decide_eq_true hg
    refine ⟨rfl, rfl, rfl, rfl, by simp [hv], ?_, ?_, ?_⟩ <;>
      rcases hs with h1 | h1 | h1 <;> simp [hst, h1]
  have hkeep : stored.state.Refunding →
      (do
        check (RefundIntentMatches stored input writerEpoch) .recoveryConflict
        if hasCause = true ∧ stored.state ≠ .claimed then do
          let obligations ← need (db.obligations.cas stored.id
            (fun x => x.state = stored.state ∧ x.lockVersion = stored.lockVersion)
            (fun x => { x with lockVersion := stored.lockVersion + 1 })) .recoveryConflict
          return { db with obligations := obligations }
        else return db : Except LedgerError DB) = .ok db' → MovesObligation db db' := by
    intro hs h
    simp only [bind_eq_ok, check_eq_ok, exists_const] at h
    obtain ⟨-, h⟩ := h
    split at h
    · simp only [bind_eq_ok, need_eq_ok, pure_eq_ok] at h
      obtain ⟨t, ht, rfl⟩ := h
      exact htouch hs t ht
    · simp only [pure_eq_ok] at h
      exact .inl h.symm
  unfold refundIntentWrite at h
  split at h
  · simp only [bind_eq_ok, need_eq_ok, pure_eq_ok] at h
    obtain ⟨t, ht, rfl⟩ := h
    refine cas_moves ht fun o hg => ?_
    obtain ⟨hst, -⟩ := of_decide_eq_true hg
    exact ⟨rfl, rfl, rfl, rfl, rfl, by simp [hst], by simp [Obligation.recordRefund],
      by simp [Obligation.recordRefund]⟩
  · next hs => exact hkeep (.inl hs) h
  · next hs => exact hkeep (.inr (.inl hs)) h
  · next hs => exact hkeep (.inr (.inr hs)) h
  all_goals cases h

theorem refundIntent_moves (h : ensureRefundRecovery db input hasCause = .ok db') :
    MovesObligation db db' := by
  simp only [ensureRefundRecovery, refundIntentTx, bind_eq_ok, need_eq_ok, check_eq_ok,
    exists_const, findHead_eq_ok] at h
  obtain ⟨norm, -, observed, -, head, -, inChain, -, -, terminal, -, current, -, _, -, stored, hs, -,
    h⟩ := h
  split at h
  · simp only [bind_eq_ok, check_eq_ok, exists_const, pure_eq_ok] at h
    exact .inl h.2.symm
  · simp only [bind_eq_ok, check_eq_ok, exists_const] at h
    obtain ⟨pending, -, -, h⟩ := h
    exact refundIntentWrite_moves h

variable {candidate : Obligation}

theorem claim_moves {workerID : String}
    (h : claimAccountQuotaTerminalRecovery db candidate workerID now = some db') :
    MovesObligation db db' := by
  unfold claimAccountQuotaTerminalRecovery at h
  split at h
  · next hc =>
    obtain ⟨t, ht, rfl⟩ := map_eq_some_iff.mp h
    refine cas_moves ht fun o hg => ?_
    obtain ⟨hs, hv, -, -⟩ := of_decide_eq_true hg
    refine ⟨rfl, rfl, rfl, rfl, by simp [hv], ?_, by simp, by simp⟩
    rw [hs]
    rcases hc.2 with h1 | ⟨h1, -⟩ | ⟨h1, -⟩ <;> simp [h1]
  · cases h

theorem finish_moves {claimed : Obligation}
    (h : finishAccountQuotaTerminalRecovery db claimed now = some db') :
    MovesObligation db db' := by
  obtain ⟨t, ht, rfl⟩ := map_eq_some_iff.mp h
  refine cas_moves ht fun o hg => ?_
  obtain ⟨hs, -, hv⟩ := of_decide_eq_true hg
  exact ⟨rfl, rfl, rfl, rfl, by simp [hv], by simp [hs], by simp, by simp⟩

theorem markManual_moves (hc : candidate.state.Refunding)
    (h : markAccountQuotaTerminalRecoveryManual db candidate = some db') :
    MovesObligation db db' := by
  obtain ⟨t, ht, rfl⟩ := map_eq_some_iff.mp h
  refine cas_moves ht fun o hg => ?_
  obtain ⟨hs, hv⟩ := of_decide_eq_true hg
  refine ⟨rfl, rfl, rfl, rfl, by simp [hv], ?_, by simp, by simp⟩
  rw [hs]
  rcases hc with h1 | h1 | h1 <;> simp [h1]

theorem dispatchEvidence_moves {userID tokenID reserveID : Int} {evidence : ReviewMetadata}
    (h : setUsageDispatchEvidenceTx db requestID userID tokenID reserveID evidence = .ok db') :
    MovesObligation db db' := by
  simp only [setUsageDispatchEvidenceTx, bind_eq_ok, need_eq_ok, check_eq_ok, exists_const,
    pure_eq_ok] at h
  obtain ⟨head, -, -, receipt, -, _, -, o, ho, -, -, t, ht, rfl⟩ := h
  refine cas_moves ht fun o hg => ?_
  obtain ⟨hs, hv⟩ := of_decide_eq_true hg
  exact ⟨rfl, rfl, rfl, rfl, by simp [hv], by simp [hs], by simp [hs], fun _ => ⟨hs, rfl⟩⟩

/-! ### Committed changes -/

/-- What the reserve checks before its transaction establish about the captured values. -/
structure ReserveCtx.Ok (ctx : ReserveCtx) : Prop where
  requestID : ctx.requestID ≠ ""
  userID : 0 < ctx.userID
  tokenID : 0 < ctx.tokenID
  requestedQuota : validAccountQuotaValue ctx.requestedQuota
  playground : ctx.billingContext.playground = ctx.playground
  fingerprint : accountQuotaFingerprint (reservePayload ctx.requestID ctx.userID ctx.tokenID
    ctx.requestedQuota ctx.preference ctx.playground ctx.billingContext) = .ok ctx.fingerprint

/-- What the extend checks before its transaction establish about the captured values: the
fingerprint is the one of the target for the stored head and some receipt of its request. -/
structure ExtendCtx.Ok (db : DB) (ctx : ExtendCtx) : Prop where
  targetQuota : validAccountQuotaValue ctx.targetQuota
  fingerprint : ∃ h ∈ db.heads.rows, h.requestID = ctx.requestID ∧
    ∃ c ∈ db.receipts.rows, c.requestID = ctx.requestID ∧
      accountQuotaFingerprint (adjustPayload h c ctx.targetQuota) = .ok ctx.fingerprint

/-- What the normalisation of a terminal input establishes. -/
structure TerminalCtx.Ok (ctx : TerminalCtx) : Prop where
  requestID : ctx.input.requestID ≠ ""
  actualQuota : validAccountQuotaValue ctx.input.actualQuota
  refund : ctx.phase = .refund → ctx.input.actualQuota = 0 ∧ ctx.input.auditKey ≠ ""

/-- The database changes that the modelled operations commit, each with the resets it applied. -/
inductive Commit (db : DB) : DB → ResetLog → Prop
  | reserve {env : TxEnv} {ctx : ReserveCtx} {db' : DB} {r : Receipt} {log : ResetLog}
      (ok : ctx.Ok) (h : reserveTx db env ctx = .ok (db', r, log)) : Commit db db' log
  | extend {env : TxEnv} {ctx : ExtendCtx} {db' : DB} {r : Receipt}
      (ok : ctx.Ok db) (h : extendTx db env ctx = .ok (db', r)) : Commit db db' []
  | terminal {env : TxEnv} {ctx : TerminalCtx} {db' : DB} {r : Receipt}
      (ok : ctx.Ok) (h : terminalTx db env ctx = .ok (db', r)) : Commit db db' []
  | lifecycle {db' : DB} (h : MovesObligation db db') : Commit db db' []
  | reset {subs : Table UserSubscription} {log : ResetLog}
      (h : ResetEffect db.subscriptions subs log) :
      Commit db { db with subscriptions := subs } log

/-- What a commit does to the database: nothing, the result of a transaction under its guards, one
moved obligation, or resets. -/
inductive Written (db : DB) : DB → ResetLog → Prop
  | kept : Written db db []
  | reserved {env : TxEnv} {ctx : ReserveCtx} {user : User} {token : Token} {choice : SourceChoice}
      {applied : Int} {ps : Table ProjectionObligation} (ok : ctx.Ok)
      (g : ReserveGuards db env ctx user token choice applied)
      (hps : ProjectsTo db ps (reserveStored db env ctx user token choice applied)) :
      Written db (reserveResult db env ctx user token choice applied ps) choice.log
  | extended {env : TxEnv} {ctx : ExtendCtx} {head : Head} {current : Receipt} {user : User}
      {token : Token} {sub : Option UserSubscription} {o : Obligation}
      {ps : Table ProjectionObligation} (ok : ctx.Ok db)
      (g : ExtendGuards db env ctx head current user token sub o)
      (hps : ProjectsTo db ps (extendStored db env ctx head current user token sub)) :
      Written db { extendResult db env ctx head current user token sub o with projections := ps } []
  | finished {env : TxEnv} {ctx : TerminalCtx} {l : TerminalLocked} {o : Obligation}
      {ps : Table ProjectionObligation} (ok : ctx.Ok) (g : TerminalGuards db env ctx l o)
      (hps : ProjectsTo db ps (terminalStored db env ctx l)) :
      Written db { terminalResult db env ctx l o with projections := ps } []
  | moved {o o' : Obligation} (ho : db.obligations.get? o.id = some o) (hm : ObligationMove o o') :
      Written db (db.putObligation o') []
  | reset {subs : Table UserSubscription} {log : ResetLog}
      (h : ResetEffect db.subscriptions subs log) :
      Written db { db with subscriptions := subs } log

theorem Commit.written {log : ResetLog} (hc : Commit db db' log) : Written db db' log := by
  cases hc with
  | reserve ok h =>
    rcases reserveTx_ok h with ⟨rfl, rfl, -⟩ | ⟨_, _, _, _, _, g, rfl, rfl, rfl, hps⟩
    · exact .kept
    · exact .reserved ok g hps
  | extend ok h =>
    rcases extendTx_ok h with ⟨rfl, -⟩ | ⟨_, _, _, _, _, _, _, g, rfl, rfl, hps⟩
    · exact .kept
    · exact .extended ok g hps
  | terminal ok h =>
    rcases terminalTx_ok h with ⟨rfl, -⟩ | ⟨_, _, _, g, rfl, rfl, hps⟩
    · exact .kept
    · exact .finished ok g hps
  | lifecycle h =>
    rcases h with rfl | ⟨_, _, ho, hm, rfl⟩
    · exact .kept
    · exact .moved ho hm
  | reset h => exact .reset h

end MyApiSpec.Ledger
