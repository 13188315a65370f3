import MyApiSpec.Ledger.Conservation

/-!
# What a stored reservation can rely on

The writer gate stays open for every reservation, its user, token and subscription rows stay
in place with their owners and with balances in range, and therefore a settle or refund of it
locks its rows whenever the versions can still be raised and the receipt id is in the chain.
-/

namespace MyApiSpec.Ledger

open Base Table

/-! ### Heads and configuration across a commit -/

variable {db db' : DB} {log : ResetLog} {h : Head}

/-- No committed change touches the writer state and the maintenance flags. -/
theorem Commit.config (hc : Commit db db' log) :
    db'.writer = db.writer ∧ db'.accountCursorComplete = db.accountCursorComplete ∧
      db'.balanceBackfillDone = db.balanceBackfillDone := by
  cases hc.written <;> exact ⟨rfl, rfl, rfl⟩

/-- The head that a fresh reserve stores. -/
def newHead (db : DB) (env : TxEnv) (ctx : ReserveCtx) (user : User) (token : Token)
    (choice : SourceChoice) (applied : Int) : Head :=
  { reserveHead ctx (reserveStored db env ctx user token choice applied) with id := db.heads.nextId }

/-- A head behind a commit is a version of a head before it, or a fresh reserve stored it. -/
theorem Commit.heads_back (hc : Commit db db' log) {h' : Head} (hh : h' ∈ db'.heads.rows) :
    (∃ h ∈ db.heads.rows, SameReservation h h') ∨
      ∃ env ctx user token choice applied ps, ReserveGuards db env ctx user token choice applied ∧
        h' = newHead db env ctx user token choice applied ∧
        db' = reserveResult db env ctx user token choice applied ps := by
  have hself : h' ∈ db.heads.rows → ∃ h ∈ db.heads.rows, SameReservation h h' :=
    fun hm => ⟨h', hm, SameReservation.refl h'⟩
  cases hc.written with
  | kept | moved | reset => exact .inl (hself hh)
  | reserved _ g =>
    rcases mem_insert.mp hh with hh | rfl
    · exact .inl (hself hh)
    · exact .inr ⟨_, _, _, _, _, _, _, g, rfl, rfl⟩
  | extended _ g =>
    rcases mem_put hh with rfl | ⟨hh, -⟩
    · exact .inl ⟨_, (headFind_mem g.headRow).1, rfl, rfl, rfl, rfl, rfl, rfl, rfl, rfl, rfl⟩
    · exact .inl (hself hh)
  | finished _ g =>
    rcases mem_put hh with rfl | ⟨hh, -⟩
    · exact .inl ⟨_, (headFind_mem g.lock.headRow).1, rfl, rfl, rfl, rfl, rfl, rfl, rfl, rfl, rfl⟩
    · exact .inl (hself hh)

/-! ### Writer gate -/

/-- The gate is open for every reservation: the writer is authoritative in its epoch and the
maintenance work is done. -/
def GateOk (db : DB) : Prop :=
  ∀ h ∈ db.heads.rows, ∃ st, db.writer = some st ∧ st.mode = .authoritative ∧
    st.epoch = h.writerEpoch ∧ db.accountCursorComplete = true ∧ db.balanceBackfillDone = true

theorem GateOk.commit (h : GateOk db) (hc : Commit db db' log) : GateOk db' := by
  obtain ⟨hwriter, hcursor, hdone⟩ := hc.config
  intro x hx
  rw [hwriter, hcursor, hdone]
  rcases hc.heads_back hx with ⟨y, hy, hs⟩ | ⟨env, ctx, user, token, choice, applied, ps, g, rfl, -⟩
  · rw [hs.writerEpoch]
    exact h y hy
  · obtain ⟨st, hst, hepoch⟩ := g.writer
    obtain ⟨hw, hm, hcomplete⟩ := durable_eq_ok.mp hst
    simp only [quotaMaintenanceBackfillsComplete, Bool.and_eq_true] at hcomplete
    exact ⟨st, hw, hm, hepoch, hcomplete.1.1, hcomplete.2⟩

/-- A well-formed ledger has no receipt left to migrate. -/
theorem WF.not_pending (hw : WF db) : accountQuotaBackfillPending db = false := by
  unfold accountQuotaBackfillPending
  rw [Bool.or_eq_false_iff, List.any_eq_false, List.any_eq_false]
  constructor
  · intro r hr
    simp [(hw.receipt r hr).fingerprintVersion]
  · intro r hr
    obtain ⟨h, hh, hb⟩ := (hw.receipt r hr).owner
    have hany : db.heads.rows.any (fun x => x.requestID = r.requestID) = true :=
      List.any_eq_true.mpr ⟨h, hh, by simp [hb.requestID]⟩
    simp [hany]

/-- Every writer gate answers with the epoch of the reservation. -/
theorem GateOk.gates (hg : GateOk db) (hw : WF db) (hh : h ∈ db.heads.rows) :
    ∃ st, requireTerminalWriter db = .ok st ∧ requireDurableQuotaWriterEpoch db = .ok st ∧
      st.epoch = h.writerEpoch ∧ requireQuotaProjectionEpoch db h.writerEpoch = .ok () ∧
      db.writer = some st ∧ st.mode = .authoritative := by
  obtain ⟨st, hwriter, hmode, hepoch, hcursor, hdone⟩ := hg h hh
  have hcomplete : quotaMaintenanceBackfillsComplete db = true := by
    simp [quotaMaintenanceBackfillsComplete, hcursor, hdone, hw.not_pending]
  refine ⟨st, terminalWriter_eq_ok.mpr ⟨hwriter, .inr ⟨hmode, hcomplete⟩⟩,
    durable_eq_ok.mpr ⟨hwriter, hmode, hcomplete⟩, hepoch, ?_, hwriter, hmode⟩
  simp only [requireQuotaProjectionEpoch, getQuotaWriterEpochState, bind_eq_ok, need_eq_ok, check_eq_ok, exists_const]
  exact ⟨st, hwriter, .inr hmode, hepoch ▸ st.epoch_pos, hepoch⟩

/-! ### Account rows -/

/-- The account rows of a reservation are in place, with owners, and in range. -/
structure RowsOk (db : DB) (h : Head) : Prop where
  user : ∃ u, db.users.get? h.userID = some u ∧ u.InRange
  token : ∃ t, db.tokens.get? h.tokenID = some t ∧ t.userID = h.userID ∧ t.InRange
  subscription : h.billingSource = .subscription →
    ∃ s, db.subscriptions.get? h.subscriptionID = some s ∧ s.userID = h.userID ∧
      (0 ≤ s.amountTotal ∧ s.amountTotal ≤ maxQuotaBalance) ∧ s.InRange

theorem RowsOk.move {h' : Head} {f g k : Int → Int} (hr : RowsOk db h)
    (hm : AccountsMove db db' f g k) (hs : SameReservation h h') : RowsOk db' h' := by
  refine ⟨?_, ?_, ?_⟩
  · obtain ⟨u, hu, hin⟩ := hr.user
    obtain ⟨u', hu', hmove⟩ := hm.users _ u hu
    exact ⟨u', hs.userID ▸ hu', hmove.inRange hin⟩
  · obtain ⟨t, ht, howner, hin⟩ := hr.token
    obtain ⟨t', ht', hmove⟩ := hm.tokens _ t ht
    exact ⟨t', hs.tokenID ▸ ht', hs.userID ▸ hmove.userID.trans howner, hmove.inRange hin⟩
  · intro hsrc
    obtain ⟨s, hsub, howner, htotal, hin⟩ := hr.subscription (hs.billingSource ▸ hsrc)
    obtain ⟨s', hs', hmove⟩ := hm.subscriptions _ s hsub
    exact ⟨s', hs.subscriptionID ▸ hs', hs.userID ▸ hmove.userID.trans howner,
      hmove.amountTotal ▸ htotal, hmove.inRange hin⟩

/-- A fresh reserve leaves the rows of its reservation in place and in range. -/
theorem rowsOk_newHead {env : TxEnv} {ctx : ReserveCtx} {user : User} {token : Token}
    {choice : SourceChoice} {applied : Int} {ps : Table ProjectionObligation}
    (g : ReserveGuards db env ctx user token choice applied) :
    RowsOk (reserveResult db env ctx user token choice applied ps)
      (newHead db env ctx user token choice applied) := by
  have hu : db.users.get? user.id = some user := get?_own g.userRow
  have ht : db.tokens.get? token.id = some token := get?_own g.tokenRow
  have hc := g.chargeable
  obtain ⟨-, hsrc, -, -⟩ := reserveFunding_ok g.funding
  have hsub := reserveFunding_stored g.funding
  -- the rows as the reserve read them, behind the resets of its selection
  have hbefore : RowsOk { db with subscriptions := choice.subscriptions }
      (newHead db env ctx user token choice applied) := by
    refine ⟨⟨user, hu, hc.quota, hc.userUsed⟩,
      ⟨token, ht, g.tokenValid.1, hc.remain, hc.used⟩, ?_⟩
    intro hsource
    rcases hsrc with ⟨-, s, hs, hus⟩ | ⟨hne, -, -⟩
    · refine ⟨s, ?_, hus.owner, hus.total, hus.used⟩
      show choice.subscriptions.get? ((choice.subscription.map UserSubscription.id).getD 0) = some s
      rw [← (hsub s hs).2]
      exact hus.stored
    · exact absurd hsource hne
  have hmove := @charge_moves { db with subscriptions := choice.subscriptions } _ _ _ _ _ _ _
    env.now hu ht hsub hc
  have hafter := hbefore.move hmove (SameReservation.refl _)
  exact { hafter with }

theorem rowsOk_commit (hw : WF db) (h : ∀ x ∈ db.heads.rows, RowsOk db x)
    (hc : Commit db db' log) : ∀ x ∈ db'.heads.rows, RowsOk db' x := by
  intro x hx
  rcases hc.heads_back hx with ⟨y, hy, hs⟩ | ⟨env, ctx, user, token, choice, applied, ps, g, rfl, rfl⟩
  · exact (h y hy).move (hc.accounts hw) hs
  · exact rowsOk_newHead g

/-! ### Reachable worlds -/

theorem World.ReachableFrom.gate {w₀ w : World} (h : w₀.ReachableFrom w) : GateOk w.db := by
  refine h.invariant (fun db _ => GateOk db) ?_ (fun _ _ _ _ _ hg => hg.commit)
  intro x hx
  rw [h.1.ledger.heads] at hx
  cases hx

theorem World.ReachableFrom.rows {w₀ w : World} (h : w₀.ReachableFrom w) :
    ∀ x ∈ w.db.heads.rows, RowsOk w.db x := by
  refine h.invariant (fun db _ => ∀ x ∈ db.heads.rows, RowsOk db x) ?_
    (fun _ _ _ _ => rowsOk_commit)
  intro x hx
  rw [h.1.ledger.heads] at hx
  cases hx

/-! ### Locking a reservation -/

/-- The versions of the account rows of a reservation can still be raised. -/
structure Raisable (db : DB) (h : Head) : Prop where
  user : ∀ u, db.users.get? h.userID = some u → quotaMutationVersionValid u.quotaVersion
  token : ∀ t, db.tokens.get? h.tokenID = some t → quotaMutationVersionValid t.quotaVersion
  subscription : ∀ s, db.subscriptions.get? h.subscriptionID = some s →
    quotaMutationVersionValid s.quotaVersion

/-- The head a request id finds. -/
theorem WF.find_head (hw : WF db) (hh : h ∈ db.heads.rows) :
    db.heads.find? (fun x => x.requestID = h.requestID) = some h :=
  find?_of_unique hw.headUnique hh

/-- The subscription row that a settle or refund of the reservation locks. -/
theorem RowsOk.lockSubscription (hr : RowsOk db h) (hok : HeadOk db h) :
    ∃ s, Ledger.lockSubscription db h.subscriptionID = .ok s ∧
      (∀ x, s = some x → db.subscriptions.get? h.subscriptionID = some x ∧ x.userID = h.userID) ∧
      (h.billingSource = .subscription → ∃ x, s = some x ∧
        (0 ≤ x.amountTotal ∧ x.amountTotal ≤ maxQuotaBalance) ∧ x.InRange) := by
  by_cases hsrc : h.billingSource = .subscription
  · obtain ⟨x, hx, howner, htotal, hin⟩ := hr.subscription hsrc
    refine ⟨some x, lockSubscription_eq_ok.mpr (.inl ⟨(get?_bounds hx).1, x, hx, rfl⟩), ?_, ?_⟩
    · intro y hy
      cases hy
      exact ⟨hx, howner⟩
    · intro _
      exact ⟨x, rfl, htotal, hin⟩
  · refine ⟨none, lockSubscription_eq_ok.mpr (.inr ⟨?_, rfl⟩), ?_, ?_⟩
    · rw [hok.source.2.2 hsrc]
      decide
    · intro y hy
      cases hy
    · intro h'
      exact absurd h' hsrc

/-- A settle or refund locks the rows of its reservation when its receipt id is in the chain, the
versions can be raised and the fingerprint payload is not too large. -/
theorem lockGuards_of_reservation {ctx : TerminalCtx} {c : Receipt} {f : Fingerprint} (hw : WF db)
    (hg : GateOk db) (hr : RowsOk db h) (hh : h ∈ db.heads.rows)
    (hreq : ctx.input.requestID = h.requestID) (hv : Raisable db h)
    (hchain : accountQuotaReceiptInChain db h ctx.input.reserveReceiptID = .ok true)
    (hc : db.receipts.get? h.currentReceiptID = some c)
    (hf : accountQuotaFingerprint (terminalPayload ctx.input ctx.phase h c) = .ok f) :
    ∃ l, LockGuards db ctx l ∧ l.head = h ∧ l.current = c ∧ l.fingerprint = f ∧
      l.user.InRange ∧ l.token.InRange ∧
      (h.billingSource = .subscription → ∃ x, l.subscription = some x ∧
        (0 ≤ x.amountTotal ∧ x.amountTotal ≤ maxQuotaBalance) ∧ x.InRange) := by
  have hok := hw.head h hh
  obtain ⟨u, hu, huin⟩ := hr.user
  obtain ⟨t, ht, howner, htin⟩ := hr.token
  obtain ⟨s, hs, hsrow, hsin⟩ := hr.lockSubscription hok
  obtain ⟨st, hgate, -, hepoch, -⟩ := hg.gates hw hh
  obtain ⟨c', hc', hm, -⟩ := hok.current
  cases hc.symm.trans hc'
  have huid : u.id = h.userID := get?_id hu
  refine ⟨⟨u, t, s, h, c, f⟩, ⟨⟨st, hgate, hepoch.symm⟩, ?_, hu, ht, hs, howner.trans huid.symm,
    hok.lockVersion, hv.user u hu, hv.token t ht, ?_, hchain, hc, hm, hf⟩, rfl, rfl, rfl, huin, htin,
    hsin⟩
  · rw [hreq]
    exact hw.find_head hh
  · intro x hx
    obtain ⟨hrow, ho⟩ := hsrow x hx
    exact ⟨ho.trans huid.symm, hv.subscription x hrow⟩

end MyApiSpec.Ledger
