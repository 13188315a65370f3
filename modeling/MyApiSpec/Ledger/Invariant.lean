import MyApiSpec.Ledger.Step

/-!
# Well-formed ledgers

The invariant of receipts, heads and obligations, and its preservation by every committed
change. A receipt is sealed by its own fingerprint, has the keys of its phase, belongs to
the head of its request and hangs below a chain receipt of the same request. A head points
to a matching current receipt, and to a terminal receipt exactly when one exists for its
request. Every head has one obligation that agrees with it.
-/

namespace MyApiSpec.Ledger

open Base Table Option Receipt

/-! ### The invariant -/

variable {db db' : DB} {h h' : Head} {r rc : Receipt} {o : Obligation} {env : TxEnv}
  {ctx : ReserveCtx} {user : User} {token : Token} {choice : SourceChoice} {applied : Int}
  {ps : Table ProjectionObligation}

/-- Receipts that belong to the chain of a reservation. -/
def Phase.Chained (p : Phase) : Prop := p = .reserve ∨ p = .adjust

/-- Receipts that end a reservation. -/
def Phase.Terminal (p : Phase) : Prop := p = .settle ∨ p = .refund

/-- The event key and mutation slot that the phase of a receipt prescribes. -/
def Receipt.KeyShape (r : Receipt) : Prop :=
  (r.phase = .reserve ∧ r.eventKey = accountQuotaEventKey r.requestID .reserve ∧
      r.mutationSlot = accountQuotaEventKey r.requestID .reserve) ∨
    (r.phase = .adjust ∧ 0 ≤ r.requestedQuota ∧
      r.eventKey = accountQuotaAdjustKey r.requestID r.requestedQuota ∧
      r.mutationSlot = accountQuotaAdjustKey r.requestID r.requestedQuota) ∨
    (r.phase.Terminal ∧ r.eventKey = accountQuotaEventKey r.requestID r.phase ∧
      r.mutationSlot = requestKey r.requestID "terminal")

/-- The receipt carries the identity of the head. -/
structure Belongs (h : Head) (r : Receipt) : Prop where
  requestID : r.requestID = h.requestID
  writerEpoch : r.writerEpoch = h.writerEpoch
  userID : r.userID = h.userID
  tokenID : r.tokenID = h.tokenID
  subscriptionID : r.subscriptionID = h.subscriptionID
  billingSource : r.billingSource = h.billingSource
  reserveFingerprint : r.reserveFingerprint = h.reserveFingerprint

/-- `r` hangs below the chain receipt `p` of the same request. -/
structure HangsBelow (p r : Receipt) : Prop where
  id : p.id < r.id
  requestID : p.requestID = r.requestID
  chained : p.phase.Chained

/-- Two receipts with one billing context and preference. -/
structure SamePricing (a b : Receipt) : Prop where
  billingContext : a.billingContext = b.billingContext
  billingPreference : a.billingPreference = b.billingPreference

theorem SamePricing.refl (a : Receipt) : SamePricing a a := ⟨rfl, rfl⟩

theorem SamePricing.symm {a b : Receipt} (h : SamePricing a b) : SamePricing b a :=
  ⟨h.billingContext.symm, h.billingPreference.symm⟩

/-- A well-formed receipt row. -/
structure ReceiptOk (db : DB) (r : Receipt) : Prop where
  isSealed : r.Sealed
  fingerprintVersion : r.fingerprintVersion = accountQuotaFingerprintVersion
  writerEpoch : 0 < r.writerEpoch
  requestID : r.requestID ≠ ""
  reserveFingerprint : r.reserveFingerprint.length = 64
  userID : 0 < r.userID
  tokenID : 0 < r.tokenID
  key : r.KeyShape
  adjusted : r.phase = .adjust → r.appliedQuota = r.requestedQuota
  owner : ∃ h ∈ db.heads.rows, Belongs h r
  parent : (r.phase = .reserve ∧ r.parentReceiptID = 0) ∨
    (r.phase ≠ .reserve ∧ ∃ p, db.receipts.get? r.parentReceiptID = some p ∧ HangsBelow p r)

/-- The terminal receipt of a head: absent, or hanging below the current receipt. -/
def TerminalOk (db : DB) (h : Head) : Prop :=
  (h.terminalReceiptID = 0 ∧
      ∀ r ∈ db.receipts.rows, r.requestID = h.requestID → ¬ r.phase.Terminal) ∨
    ∃ t, db.receipts.get? h.terminalReceiptID = some t ∧ t.requestID = h.requestID ∧
      t.phase.Terminal ∧ t.parentReceiptID = h.currentReceiptID

/-- The obligation of a head. -/
structure ObligationOk (db : DB) (h : Head) (o : Obligation) : Prop where
  requestID : o.requestID = h.requestID
  writerEpoch : o.writerEpoch = h.writerEpoch
  lockVersion : 0 < o.lockVersion
  opened : o.state = .open → o.requestFingerprint = h.reserveFingerprint
  applied : o.state = .applied ↔ h.terminalReceiptID ≠ 0
  closed : ∀ t, db.receipts.get? h.terminalReceiptID = some t →
    o.phase.map TerminalPhase.toPhase = some t.phase ∧ o.auditKey = t.auditKey ∧
      o.terminalReceiptID = t.id ∧ o.actualQuota = t.requestedQuota

/-- A well-formed head row. -/
structure HeadOk (db : DB) (h : Head) : Prop where
  current : ∃ c, db.receipts.get? h.currentReceiptID = some c ∧ HeadMatches h c ∧ c.phase.Chained
  root : ∃ r, db.receipts.get? h.rootReceiptID = some r ∧ r.phase = .reserve ∧
    r.requestID = h.requestID
  applied : 0 ≤ h.appliedQuota ∧ h.appliedQuota ≤ maxQuota
  raised : ∀ r ∈ db.receipts.rows, r.requestID = h.requestID → r.phase.Chained →
    r.appliedQuota ≤ h.appliedQuota
  terminal : TerminalOk db h
  lockVersion : 0 < h.lockVersion
  source : h.billingSource ≠ .token ∧ (h.billingSource = .free → h.appliedQuota = 0) ∧
    (h.billingSource ≠ .subscription → h.subscriptionID = 0)
  obligation : ∃ o ∈ db.obligations.rows, ObligationOk db h o

/-- A well-formed ledger. -/
structure WF (db : DB) : Prop where
  eventUnique : db.receipts.UniqueOn Receipt.eventKey
  slotUnique : db.receipts.UniqueOn Receipt.mutationSlot
  headUnique : db.heads.UniqueOn Head.requestID
  obligationUnique : db.obligations.UniqueOn Obligation.requestID
  pricing : ∀ a ∈ db.receipts.rows, ∀ b ∈ db.receipts.rows, a.requestID = b.requestID →
    SamePricing a b
  receipt : ∀ r ∈ db.receipts.rows, ReceiptOk db r
  head : ∀ h ∈ db.heads.rows, HeadOk db h
  obligationHead : ∀ o ∈ db.obligations.rows, ∃ h ∈ db.heads.rows, h.requestID = o.requestID
  projection : ∀ p ∈ db.projections.rows, ∃ r, db.receipts.get? p.receiptID = some r ∧
    r.eventKey = p.eventKey

/-- A ledger without receipts, heads, obligations and projections. -/
structure EmptyLedger (db : DB) : Prop where
  receipts : db.receipts.rows = []
  heads : db.heads.rows = []
  obligations : db.obligations.rows = []
  projections : db.projections.rows = []

theorem wf_empty (h : EmptyLedger db) : WF db := by
  refine ⟨?_, ?_, ?_, ?_, ?_, ?_, ?_, ?_, ?_⟩ <;> intro x hx <;>
    simp [h.receipts, h.heads, h.obligations, h.projections] at hx

/-! ### Growth -/

/-- Receipts are only added. -/
def ReceiptsGrow (db db' : DB) : Prop :=
  ∀ i r, db.receipts.get? i = some r → db'.receipts.get? i = some r

/-- Two versions of one reservation head. -/
structure SameReservation (h h' : Head) : Prop where
  id : h'.id = h.id
  requestID : h'.requestID = h.requestID
  writerEpoch : h'.writerEpoch = h.writerEpoch
  rootReceiptID : h'.rootReceiptID = h.rootReceiptID
  reserveFingerprint : h'.reserveFingerprint = h.reserveFingerprint
  userID : h'.userID = h.userID
  tokenID : h'.tokenID = h.tokenID
  subscriptionID : h'.subscriptionID = h.subscriptionID
  billingSource : h'.billingSource = h.billingSource

theorem SameReservation.refl (h : Head) : SameReservation h h :=
  ⟨rfl, rfl, rfl, rfl, rfl, rfl, rfl, rfl, rfl⟩

/-- Heads are added or updated, never removed or given away. -/
def HeadsGrow (db db' : DB) : Prop :=
  ∀ h ∈ db.heads.rows, ∃ h' ∈ db'.heads.rows, SameReservation h h'

theorem Belongs.same (hb : Belongs h r) (hs : SameReservation h h') : Belongs h' r :=
  ⟨hb.requestID.trans hs.requestID.symm, hb.writerEpoch.trans hs.writerEpoch.symm,
    hb.userID.trans hs.userID.symm, hb.tokenID.trans hs.tokenID.symm,
    hb.subscriptionID.trans hs.subscriptionID.symm, hb.billingSource.trans hs.billingSource.symm,
    hb.reserveFingerprint.trans hs.reserveFingerprint.symm⟩

/-- A well-formed receipt stays well formed while the ledger grows. -/
theorem ReceiptOk.grow (h : ReceiptOk db r) (hr : ReceiptsGrow db db') (hh : HeadsGrow db db') :
    ReceiptOk db' r := by
  obtain ⟨x, hx, hb⟩ := h.owner
  obtain ⟨x', hx', hs⟩ := hh x hx
  refine { h with owner := ⟨x', hx', hb.same hs⟩, parent := ?_ }
  rcases h.parent with hp | ⟨hp, p, hget, hang⟩
  · exact .inl hp
  · exact .inr ⟨hp, p, hr _ p hget, hang⟩

theorem receiptsGrow_insert (h : db'.receipts = db.receipts.insert r) : ReceiptsGrow db db' := by
  intro i x hx
  rw [h]
  exact get?_insert_of_some hx

theorem headsGrow_insert (he : db'.heads = db.heads.insert h) : HeadsGrow db db' := by
  intro x hx
  exact ⟨x, by rw [he]; exact mem_insert.mpr (.inl hx), SameReservation.refl x⟩

theorem headsGrow_put (he : db'.heads = db.heads.put h') (hget : db.heads.get? h.id = some h)
    (hs : SameReservation h h') : HeadsGrow db db' := by
  have hget' : db.heads.get? (Row.id h') = some h := (congrArg db.heads.get? hs.id).trans hget
  rw [HeadsGrow, he]
  intro x hx
  rcases mem_put_or hget' hx with rfl | hx
  · exact ⟨h', mem_put_self hget', hs⟩
  · exact ⟨x, hx, SameReservation.refl x⟩

theorem ObligationOk.frame (ho : ObligationOk db h o) (ht : TerminalOk db h)
    (hr : ReceiptsGrow db db') : ObligationOk db' h o := by
  refine { ho with closed := ?_ }
  intro t hget
  rcases ht with ⟨hz, -⟩ | ⟨t', ht', -⟩
  · exact absurd hz (ne_zero_of_get? hget)
  · rw [hr _ _ ht'] at hget
    cases hget
    exact ho.closed _ ht'

/-- A head whose request gets no new receipt stays well formed if its obligation does. -/
theorem HeadOk.frame (hok : HeadOk db h) (hr : ReceiptsGrow db db')
    (hnew : ∀ r ∈ db'.receipts.rows, r ∈ db.receipts.rows ∨ r.requestID ≠ h.requestID)
    (hobl : ∀ o ∈ db.obligations.rows, ObligationOk db h o →
      ∃ o' ∈ db'.obligations.rows, ObligationOk db h o') : HeadOk db' h := by
  obtain ⟨c, hc, hm, hcp⟩ := hok.current
  obtain ⟨r, hroot, hrp, hrr⟩ := hok.root
  obtain ⟨o, ho, hoo⟩ := hok.obligation
  obtain ⟨o', ho', hoo'⟩ := hobl o ho hoo
  refine ⟨⟨c, hr _ c hc, hm, hcp⟩, ⟨r, hr _ r hroot, hrp, hrr⟩, hok.applied, ?_, ?_, hok.lockVersion,
    hok.source, ⟨o', ho', hoo'.frame hok.terminal hr⟩⟩
  · intro x hx hxr
    exact hok.raised x ((hnew x hx).resolve_right (fun hne => hne hxr)) hxr
  · rcases hok.terminal with ⟨hz, hno⟩ | ⟨t, ht, htr, htp, hpar⟩
    · refine .inl ⟨hz, ?_⟩
      intro x hx hxr
      exact hno x ((hnew x hx).resolve_right (fun hne => hne hxr)) hxr
    · exact .inr ⟨t, hr _ t ht, htr, htp, hpar⟩

/-- The head of a request is the only row with its request id. -/
theorem WF.head_unique (hw : WF db) (hm : h ∈ db.heads.rows) (hm' : h' ∈ db.heads.rows)
    (he : h.requestID = h'.requestID) : h = h' :=
  hw.headUnique h hm h' hm' he

/-! ### Lifecycle moves and resets -/

theorem wf_lifecycle (hw : WF db) (hm : MovesObligation db db') : WF db' := by
  rcases hm with rfl | ⟨o, o', hget, hmove, rfl⟩
  · exact hw
  have hmem : o ∈ db.obligations.rows := get?_mem hget
  have hget' : db.obligations.get? (Row.id o') = some o :=
    (congrArg db.obligations.get? hmove.id).trans hget
  refine { hw with
    obligationUnique := hw.obligationUnique.put hget' hmove.requestID
    receipt := ?_, head := ?_, obligationHead := ?_ }
  · intro r hr
    exact (hw.receipt r hr).grow (fun _ _ h => h) (fun h hh => ⟨h, hh, SameReservation.refl h⟩)
  · intro h hh
    refine (hw.head h hh).frame (fun _ _ hx => hx) (fun r => .inl) ?_
    intro x hx hxo
    rcases mem_put_or hget' hx with rfl | hx
    · refine ⟨o', mem_put_self hget', hmove.requestID.trans hxo.requestID,
        hmove.writerEpoch.trans hxo.writerEpoch, ?_, ?_, ?_, ?_⟩
      · rw [hmove.lockVersion]
        have := hxo.lockVersion
        omega
      · intro hop
        obtain ⟨h1, h2⟩ := hmove.open_back hop
        rw [h2]
        exact hxo.opened h1
      · have hz : ¬ h.terminalReceiptID ≠ 0 := fun hne => hmove.not_applied (hxo.applied.mpr hne)
        exact ⟨fun h1 => absurd h1 hmove.not_applied', fun h1 => absurd h1 hz⟩
      · intro t ht
        exact absurd (hxo.applied.mpr (ne_zero_of_get? ht)) hmove.not_applied
    · exact ⟨x, hx, hxo⟩
  · intro x hx
    rcases mem_put hx with rfl | ⟨hx, -⟩
    · obtain ⟨h, hh, he⟩ := hw.obligationHead o hmem
      exact ⟨h, hh, he.trans hmove.requestID.symm⟩
    · exact hw.obligationHead x hx

theorem wf_reset {subs : Table UserSubscription} (hw : WF db) :
    WF { db with subscriptions := subs } :=
  { hw with
    receipt := fun r hr =>
      (hw.receipt r hr).grow (fun _ _ h => h) (fun h hh => ⟨h, hh, SameReservation.refl h⟩)
    head := fun h hh =>
      (hw.head h hh).frame (fun _ _ hx => hx) (fun _ => .inl) (fun o ho hoo => ⟨o, ho, hoo⟩) }

/-! ### Recording a receipt -/

/-- What every writing transaction does to the receipts and projections. -/
structure Records (db db' : DB) (rc : Receipt) : Prop where
  receipts : db'.receipts = db.receipts.insert rc
  id : rc.id = db.receipts.nextId
  fresh : ∀ x ∈ db.receipts.rows, x.eventKey ≠ rc.eventKey ∧ x.mutationSlot ≠ rc.mutationSlot
  projections : ∀ p ∈ db'.projections.rows,
    p ∈ db.projections.rows ∨ (p.receiptID = rc.id ∧ p.eventKey = rc.eventKey)

theorem Records.withId (h : Records db db' rc) : Row.withId db.receipts.nextId rc = rc := by
  rw [← h.id]
  rfl

theorem Records.get? (h : Records db db' rc) : db'.receipts.get? rc.id = some rc := by
  rw [h.receipts, h.id, get?_insert_nextId, h.withId]

theorem Records.mem {x : Receipt} (h : Records db db' rc) :
    x ∈ db'.receipts.rows ↔ x ∈ db.receipts.rows ∨ x = rc := by
  rw [h.receipts, mem_insert, h.withId]

theorem Records.grow (h : Records db db' rc) : ReceiptsGrow db db' :=
  receiptsGrow_insert h.receipts

/-- Recording a well-formed receipt keeps a ledger well formed when the head and obligation tables
stay well formed. -/
theorem WF.record (hw : WF db) (hr : Records db db' rc) (hgrow : HeadsGrow db db')
    (hrc : ReceiptOk db' rc)
    (hprice : ∀ x ∈ db.receipts.rows, x.requestID = rc.requestID → SamePricing x rc)
    (hheadU : db'.heads.UniqueOn Head.requestID)
    (hoblU : db'.obligations.UniqueOn Obligation.requestID)
    (hheads : ∀ h ∈ db'.heads.rows, HeadOk db' h)
    (hobl : ∀ o ∈ db'.obligations.rows, ∃ h ∈ db'.heads.rows, h.requestID = o.requestID) :
    WF db' := by
  refine ⟨?_, ?_, hheadU, hoblU, ?_, ?_, hheads, hobl, ?_⟩
  · rw [hr.receipts]
    exact hw.eventUnique.insert (fun a ha => hr.withId ▸ (hr.fresh a ha).1)
  · rw [hr.receipts]
    exact hw.slotUnique.insert (fun a ha => hr.withId ▸ (hr.fresh a ha).2)
  · intro a ha b hb he
    rcases hr.mem.mp ha with ha | rfl <;> rcases hr.mem.mp hb with hb | rfl
    · exact hw.pricing a ha b hb he
    · exact hprice a ha he
    · exact (hprice b hb he.symm).symm
    · exact SamePricing.refl _
  · intro r hmem
    rcases hr.mem.mp hmem with hmem | rfl
    · exact (hw.receipt r hmem).grow hr.grow hgrow
    · exact hrc
  · intro p hp
    rcases hr.projections p hp with hp | ⟨h1, h2⟩
    · obtain ⟨r, hget, he⟩ := hw.projection p hp
      exact ⟨r, hr.grow _ r hget, he⟩
    · exact ⟨rc, h1 ▸ hr.get?, h2.symm⟩

/-- Recording a receipt of a stored reservation together with the update of its head and of its
obligation: only that head has to be checked again. -/
theorem WF.recordOn {o' : Obligation} (hw : WF db) (hr : Records db db' rc)
    (hheads : db'.heads = db.heads.put h') (hobl : db'.obligations = db.obligations.put o')
    (hh : h ∈ db.heads.rows) (hs : SameReservation h h') (ho : o ∈ db.obligations.rows)
    (hoh : o.requestID = h.requestID) (hid : o'.id = o.id) (hreq : o'.requestID = o.requestID)
    (hrch : rc.requestID = h.requestID) {c : Receipt} (hcur : c ∈ db.receipts.rows)
    (hcr : c.requestID = h.requestID) (hprice : SamePricing c rc) (hrc : ReceiptOk db' rc)
    (hok : HeadOk db' h') : WF db' := by
  have hget : db.heads.get? (Row.id h') = some h :=
    (congrArg db.heads.get? hs.id).trans (get?_of_mem hh)
  have hoget : db.obligations.get? (Row.id o') = some o :=
    (congrArg db.obligations.get? hid).trans (get?_of_mem ho)
  have hgrow : HeadsGrow db db' := headsGrow_put hheads (get?_of_mem hh) hs
  refine hw.record hr hgrow hrc ?_ ?_ ?_ ?_ ?_
  · intro x hx he
    have hxc := hw.pricing x hx c hcur (he.trans (hrch.trans hcr.symm))
    exact ⟨hxc.billingContext.trans hprice.billingContext,
      hxc.billingPreference.trans hprice.billingPreference⟩
  · rw [hheads]
    exact hw.headUnique.put hget hs.requestID
  · rw [hobl]
    exact hw.obligationUnique.put hoget hreq
  · intro x hx
    rw [hheads] at hx
    rcases mem_put hx with rfl | ⟨hx, hne⟩
    · exact hok
    -- any other head belongs to another request, so neither receipt nor obligation is its own
    have hxreq : h.requestID ≠ x.requestID := by
      intro he
      exact hne (by rw [← hw.head_unique hh hx he]; exact hs.id.symm)
    refine (hw.head x hx).frame hr.grow ?_ ?_
    · intro r hmem
      rcases hr.mem.mp hmem with hmem | rfl
      · exact .inl hmem
      · exact .inr (hrch ▸ hxreq)
    · intro y hy hyo
      rw [hobl]
      rcases mem_put_or hoget hy with rfl | hy
      · exact absurd (hoh.symm.trans hyo.requestID) hxreq
      · exact ⟨y, hy, hyo⟩
  · intro x hx
    rw [hobl] at hx
    have hhead : ∃ y ∈ db.heads.rows, y.requestID = x.requestID := by
      rcases mem_put hx with rfl | ⟨hx, -⟩
      · exact ⟨h, hh, (hreq.trans hoh).symm⟩
      · exact hw.obligationHead x hx
    obtain ⟨y, hy, he⟩ := hhead
    obtain ⟨y', hy', hsame⟩ := hgrow y hy
    exact ⟨y', hy', hsame.requestID.trans he⟩

/-! ### Reserve -/

theorem reserve_records (g : ReserveGuards db env ctx user token choice applied)
    (hps : ProjectsTo db ps (reserveStored db env ctx user token choice applied)) :
    Records db (reserveResult db env ctx user token choice applied ps)
      (reserveStored db env ctx user token choice applied) :=
  ⟨rfl, rfl, g.recordable.fresh, hps⟩

theorem reserveStored_sealed (hctx : ctx.Ok)
    (g : ReserveGuards db env ctx user token choice applied) :
    (reserveStored db env ctx user token choice applied).Sealed := by
  have huid : user.id = ctx.userID := get?_id g.userRow
  have htid : token.id = ctx.tokenID := get?_id g.tokenRow
  have hpayload : (reserveStored db env ctx user token choice applied).payload =
      reservePayload ctx.requestID ctx.userID ctx.tokenID ctx.requestedQuota ctx.preference
        ctx.playground ctx.billingContext := by
    simp [reserveStored, reserveReceipt, storedAs, payload, reservePayload, huid,
      htid, hctx.playground]
  unfold Receipt.Sealed accountQuotaReceiptFingerprint
  rw [hpayload]
  exact hctx.fingerprint

/-- No stored receipt belongs to a request without a head. -/
theorem WF.no_receipt (hw : WF db) {requestID : String}
    (hfresh : ∀ h ∈ db.heads.rows, h.requestID ≠ requestID) :
    ∀ r ∈ db.receipts.rows, r.requestID ≠ requestID := by
  intro r hr he
  obtain ⟨h, hh, hb⟩ := (hw.receipt r hr).owner
  exact hfresh h hh (hb.requestID.symm.trans he)

/-- The amount a reserve applies is a valid quota. -/
theorem reserve_applied_valid (hctx : ctx.Ok)
    (g : ReserveGuards db env ctx user token choice applied) :
    0 ≤ applied ∧ applied ≤ maxQuota := by
  obtain ⟨-, -, happ, -⟩ := reserveFunding_ok g.funding
  have hreq := hctx.requestedQuota
  rcases happ with rfl | rfl
  · exact ⟨le_refl _, by decide⟩
  · split
    · exact ⟨by decide, by decide⟩
    · exact hreq

theorem wf_reserve (hw : WF db) (hctx : ctx.Ok)
    (g : ReserveGuards db env ctx user token choice applied)
    (hps : ProjectsTo db ps (reserveStored db env ctx user token choice applied)) :
    WF (reserveResult db env ctx user token choice applied ps) := by
  have hr := reserve_records g hps
  have hseal := reserveStored_sealed hctx g
  have hgrow : HeadsGrow db (reserveResult db env ctx user token choice applied ps) :=
    headsGrow_insert rfl
  have hnone := hw.no_receipt g.headFresh
  obtain ⟨-, hsrc, -, hfree⟩ := reserveFunding_ok g.funding
  have hrec := g.recordable
  refine hw.record hr hgrow ?_ (fun x hx he => absurd he (hnone x hx)) ?_ ?_ ?_ ?_
  · refine { hrec with
      isSealed := hseal, fingerprintVersion := rfl, key := .inl ⟨rfl, rfl, ?_⟩, adjusted := nofun
      owner := ⟨_, mem_insert.mpr (.inr rfl), ⟨rfl, rfl, rfl, rfl, rfl, rfl, rfl⟩⟩
      parent := .inl ⟨rfl, rfl⟩ }
    simp [reserveStored, reserveReceipt, storedAs, accountQuotaMutationSlot]
  · exact hw.headUnique.insert g.headFresh
  · exact hw.obligationUnique.insert g.obligationFresh
  · intro h hh
    rcases mem_insert.mp hh with hh | rfl
    · refine (hw.head h hh).frame hr.grow ?_ ?_
      · intro r hmem
        rcases hr.mem.mp hmem with hmem | rfl
        · exact .inl hmem
        · exact .inr (fun he => g.headFresh h hh he.symm)
      · intro o ho hoo
        exact ⟨o, mem_insert.mpr (.inl ho), hoo⟩
    -- the new head: its only receipt is the one just recorded
    have hall : ∀ r ∈ (reserveResult db env ctx user token choice applied ps).receipts.rows,
        r.requestID = ctx.requestID → r = reserveStored db env ctx user token choice applied := by
      intro r hmem he
      rcases hr.mem.mp hmem with hmem | rfl
      · exact absurd he (hnone r hmem)
      · rfl
    refine ⟨⟨_, hr.get?, ⟨rfl, rfl, rfl, rfl, rfl, rfl, rfl, rfl, rfl, hseal⟩, .inl rfl⟩,
      ⟨_, hr.get?, rfl, rfl⟩, reserve_applied_valid hctx g, ?_, .inl ⟨rfl, ?_⟩, Int.one_pos,
      ⟨?_, ?_, ?_⟩, ⟨_, mem_insert.mpr (.inr rfl), ⟨rfl, rfl, Int.one_pos, fun _ => rfl, ?_, ?_⟩⟩⟩
    · intro r hmem he _
      rw [hall r hmem he]
      exact le_refl _
    · intro r hmem he hp
      rw [hall r hmem he] at hp
      rcases hp with hp | hp <;> cases hp
    · rcases hsrc with ⟨hs, -⟩ | ⟨-, hs, -⟩
      · exact fun he => by cases hs.symm.trans he
      · exact hs
    · exact hfree
    · intro hne
      rcases hsrc with ⟨hs, -⟩ | ⟨-, -, hn⟩
      · exact absurd hs hne
      · show (choice.subscription.map UserSubscription.id).getD 0 = 0
        rw [hn]
        rfl
    · constructor
      · intro hstate
        cases hstate
      · intro hne
        exact absurd rfl hne
    · intro t ht
      exact absurd rfl (ne_zero_of_get? ht)
  · intro o ho
    rcases mem_insert.mp ho with ho | rfl
    · obtain ⟨h, hh, he⟩ := hw.obligationHead o ho
      exact ⟨h, mem_insert.mpr (.inl hh), he⟩
    · exact ⟨_, mem_insert.mpr (.inr rfl), rfl⟩

/-! ### Extend -/

variable {sub : Option UserSubscription} {current : Receipt} {head : Head}

theorem extendStored_sealed {ctx : ExtendCtx}
    (hw : WF db) (hctx : ctx.Ok db)
    (g : ExtendGuards db env ctx head current user token sub o) :
    (extendStored db env ctx head current user token sub).Sealed := by
  obtain ⟨h, hh, hreq, c, hc, hcr, hfp⟩ := hctx.fingerprint
  obtain ⟨hmem, hreq'⟩ := headFind_mem g.headRow
  -- the reservation whose fingerprint was captured is still the stored one
  obtain rfl := hw.head_unique hh hmem (hreq.trans hreq'.symm)
  have hprice := hw.pricing c hc current (get?_mem g.currentRow)
    (hcr.trans (hreq'.symm.trans g.current_matches.requestID.symm))
  have hpayload : (extendStored db env ctx h current user token sub).payload =
      adjustPayload h c ctx.targetQuota := by
    simp [extendStored, adjustReceipt, storedAs, payload, adjustPayload,
      g.current_matches.userID, g.current_matches.tokenID, hprice.billingContext,
      hprice.billingPreference]
  unfold Receipt.Sealed accountQuotaReceiptFingerprint
  rw [hpayload]
  exact hfp

/-- A head without a terminal receipt has none among the receipts of its request. -/
theorem HeadOk.no_terminal (hok : HeadOk db h) (hz : h.terminalReceiptID = 0) :
    ∀ r ∈ db.receipts.rows, r.requestID = h.requestID → ¬ r.phase.Terminal := by
  rcases hok.terminal with ⟨-, hno⟩ | ⟨t, ht, -⟩
  · exact hno
  · exact absurd hz (ne_zero_of_get? ht)

/-- The obligation a lookup finds is the obligation of the head. -/
theorem WF.obligation_of (hw : WF db) (hh : h ∈ db.heads.rows)
    (ho : findObligation db h.requestID = some o) :
    o ∈ db.obligations.rows ∧ ObligationOk db h o := by
  obtain ⟨hmem, hreq⟩ := obligationFind_mem ho
  obtain ⟨x, hx, hxo⟩ := (hw.head h hh).obligation
  obtain rfl := hw.obligationUnique x hx o hmem (hxo.requestID.trans hreq.symm)
  exact ⟨hmem, hxo⟩

theorem wf_extend {ctx : ExtendCtx}
    (hw : WF db) (hctx : ctx.Ok db)
    (g : ExtendGuards db env ctx head current user token sub o)
    (hps : ProjectsTo db ps (extendStored db env ctx head current user token sub)) :
    WF { extendResult db env ctx head current user token sub o with projections := ps } := by
  have hr : Records db { extendResult db env ctx head current user token sub o with
      projections := ps } (extendStored db env ctx head current user token sub) :=
    ⟨rfl, rfl, g.recordable.fresh, hps⟩
  have hseal := extendStored_sealed hw hctx g
  obtain ⟨hmem, hreq⟩ := headFind_mem g.headRow
  obtain ⟨homem, hook⟩ := hw.obligation_of hmem g.obligationRow
  have hrow := headFind_get? g.headRow
  have horow := obligationFind_get? g.obligationRow
  have hok := hw.head head hmem
  have hm := g.current_matches
  have hrec := g.recordable
  have htarget := hctx.targetQuota
  obtain ⟨c, hc, -, hchained⟩ := hok.current
  rw [g.currentRow] at hc
  cases hc
  have hbelow : HangsBelow current (extendStored db env ctx head current user token sub) :=
    ⟨by rw [hr.id, hm.id]; exact (get?_bounds g.currentRow).2, hm.requestID, hchained⟩
  refine hw.recordOn hr rfl rfl hmem ⟨rfl, rfl, rfl, rfl, rfl, rfl, rfl, rfl, rfl⟩ homem
    hook.requestID rfl rfl rfl (get?_mem g.currentRow) hm.requestID ⟨rfl, rfl⟩ ?_ ?_
  · refine { hrec with
      isSealed := hseal, fingerprintVersion := rfl, adjusted := fun _ => rfl
      key := .inr (.inl ⟨rfl, htarget.1, ?_, ?_⟩)
      owner := ⟨_, mem_put_self hrow, ⟨rfl, rfl, hm.userID, hm.tokenID, hm.subscriptionID,
        hm.billingSource, rfl⟩⟩
      parent := .inr ⟨Phase.noConfusion, current, ?_, hbelow⟩ }
    · show accountQuotaAdjustKey ctx.requestID _ = accountQuotaAdjustKey head.requestID _
      rw [hreq]; rfl
    · show accountQuotaAdjustKey ctx.requestID _ = accountQuotaAdjustKey head.requestID _
      rw [hreq]; rfl
    · show get? _ current.id = _
      rw [hm.id]
      exact hr.grow _ _ g.currentRow
  · obtain ⟨r, hroot, hrp, hrr⟩ := hok.root
    refine ⟨⟨_, hr.get?, ⟨rfl, rfl, rfl, hm.userID, hm.tokenID, hm.subscriptionID, hm.billingSource, rfl,
      rfl, hseal⟩, .inr rfl⟩, ⟨r, hr.grow _ r hroot, hrp, hrr⟩, htarget, ?_,
      .inl ⟨g.unsettled, ?_⟩, Int.add_pos hok.lockVersion Int.one_pos,
      ⟨hok.source.1, ?_, hok.source.2.2⟩, ⟨_, mem_put_self horow,
        { hook with lockVersion := Int.add_pos hook.lockVersion Int.one_pos, closed := ?_ }⟩⟩
    · intro x hx he hp
      rcases hr.mem.mp hx with hx | rfl
      · exact le_trans (hok.raised x hx he hp) (le_of_lt g.raise)
      · exact le_refl _
    · intro x hx he hp
      rcases hr.mem.mp hx with hx | rfl
      · exact hok.no_terminal g.unsettled x hx he hp
      · rcases hp with hp | hp <;> cases hp
    · intro hfree
      have hf := g.funds
      have hsrc : head.billingSource = .free := hfree
      simp [extendFunds, hsrc, bind_eq_ok] at hf
    · intro t ht
      exact absurd g.unsettled (ne_zero_of_get? ht)

/-! ### Settle and refund -/

theorem TerminalPhase.terminal (p : TerminalPhase) : p.toPhase.Terminal := by
  cases p
  · exact .inl rfl
  · exact .inr rfl

variable {p : Phase}

theorem Phase.Terminal.not_chained (h : p.Terminal) : ¬ p.Chained := by
  rcases h with rfl | rfl <;> rintro (h | h) <;> cases h

variable {l : TerminalLocked} {ctx : TerminalCtx}

theorem terminalStored_sealed (env : TxEnv)
    (g : LockGuards db ctx l) : (terminalStored db env ctx l).Sealed := by
  have hpayload : (terminalStored db env ctx l).payload =
      terminalPayload ctx.input ctx.phase l.head l.current := by
    cases hp : ctx.phase <;>
      simp [terminalStored, terminalReceipt, storedAs, payload, terminalPayload, hp,
        TerminalPhase.toPhase, g.current_matches.userID, g.current_matches.tokenID]
  unfold Receipt.Sealed accountQuotaReceiptFingerprint
  rw [hpayload]
  exact g.fingerprint

theorem accountQuotaMutationSlot_terminal (requestID : String) (h : p.Terminal) :
    accountQuotaMutationSlot requestID p = requestKey requestID "terminal" := by
  rcases h with rfl | rfl <;> rfl

theorem wf_terminal (hw : WF db)
    (g : TerminalGuards db env ctx l o)
    (hps : ProjectsTo db ps (terminalStored db env ctx l)) :
    WF { terminalResult db env ctx l o with projections := ps } := by
  have hr : Records db { terminalResult db env ctx l o with projections := ps }
      (terminalStored db env ctx l) := ⟨rfl, rfl, g.recordable.fresh, hps⟩
  have hseal := terminalStored_sealed env g.lock
  obtain ⟨hmem, hreq⟩ := headFind_mem g.lock.headRow
  obtain ⟨homem, hook⟩ := hw.obligation_of hmem g.obligationRow
  have hrow := headFind_get? g.lock.headRow
  have horow := obligationFind_get? g.obligationRow
  have hok := hw.head l.head hmem
  have hm := g.lock.current_matches
  have hrec := g.recordable
  have hnext := db.receipts.pos
  obtain ⟨c, hc, -, hchained⟩ := hok.current
  rw [g.lock.currentRow] at hc
  cases hc
  have hbelow : HangsBelow l.current (terminalStored db env ctx l) :=
    ⟨by rw [hr.id, hm.id]; exact (get?_bounds g.lock.currentRow).2, hm.requestID.trans hreq,
      hchained⟩
  refine hw.recordOn hr rfl rfl hmem ⟨rfl, rfl, rfl, rfl, rfl, rfl, rfl, rfl, rfl⟩ homem
    hook.requestID rfl rfl hreq.symm (get?_mem g.lock.currentRow) hm.requestID ⟨rfl, rfl⟩ ?_ ?_
  · refine { hrec with
      isSealed := hseal, fingerprintVersion := rfl
      key := .inr (.inr ⟨ctx.phase.terminal, rfl, ?_⟩), adjusted := ?_
      owner := ⟨_, mem_put_self hrow, ⟨hreq.symm, hm.writerEpoch, hm.userID, hm.tokenID,
        hm.subscriptionID, hm.billingSource, rfl⟩⟩
      parent := .inr ⟨?_, l.current, ?_, hbelow⟩ }
    · exact accountQuotaMutationSlot_terminal _ ctx.phase.terminal
    · intro hp
      exact absurd hp (ctx.phase.terminal.not_chained ∘ .inr)
    · show ctx.phase.toPhase ≠ .reserve
      cases ctx.phase <;> exact Phase.noConfusion
    · show get? _ l.current.id = _
      rw [hm.id]
      exact hr.grow _ _ g.lock.currentRow
  · obtain ⟨r, hroot, hrp, hrr⟩ := hok.root
    refine ⟨⟨l.current, hr.grow _ _ g.lock.currentRow, { hm with }, hchained⟩,
      ⟨r, hr.grow _ r hroot, hrp, hrr⟩, hok.applied, ?_,
      .inr ⟨_, hr.get?, hreq.symm, ctx.phase.terminal, hm.id⟩,
      Int.add_pos hok.lockVersion Int.one_pos, hok.source,
      ⟨_, mem_put_self horow, ⟨hook.requestID, hook.writerEpoch,
        Int.add_pos hook.lockVersion Int.one_pos, ?_, ?_, ?_⟩⟩⟩
    · intro x hx he hp
      rcases hr.mem.mp hx with hx | rfl
      · exact hok.raised x hx he hp
      · exact absurd hp ctx.phase.terminal.not_chained
    · intro hstate
      cases hstate
    · constructor
      · intro _
        show db.receipts.nextId ≠ 0
        omega
      · intro _
        rfl
    · intro t ht
      cases hr.get?.symm.trans ht
      exact ⟨rfl, rfl, rfl, rfl⟩

/-! ### Every committed change -/

variable {log : ResetLog}

theorem Commit.wf (hc : Commit db db' log) (hw : WF db) : WF db' := by
  cases hc.written with
  | kept => exact hw
  | reserved ok g hps => exact wf_reserve hw ok g hps
  | extended ok g hps => exact wf_extend hw ok g hps
  | finished _ g hps => exact wf_terminal hw g hps
  | moved ho hm => exact wf_lifecycle hw (.inr ⟨_, _, ho, hm, rfl⟩)
  | reset => exact wf_reset hw

/-- Committed changes add receipts and keep every reservation. -/
theorem Commit.grow (hc : Commit db db' log) :
    ReceiptsGrow db db' ∧ HeadsGrow db db' := by
  have hrefl : ReceiptsGrow db db ∧ HeadsGrow db db :=
    ⟨fun _ _ h => h, fun h hh => ⟨h, hh, SameReservation.refl h⟩⟩
  cases hc.written with
  | kept | moved | reset => exact hrefl
  | reserved => exact ⟨receiptsGrow_insert rfl, headsGrow_insert rfl⟩
  | extended _ g =>
    exact ⟨receiptsGrow_insert rfl, headsGrow_put rfl (headFind_get? g.headRow)
      ⟨rfl, rfl, rfl, rfl, rfl, rfl, rfl, rfl, rfl⟩⟩
  | finished _ g =>
    exact ⟨receiptsGrow_insert rfl, headsGrow_put rfl (headFind_get? g.lock.headRow)
      ⟨rfl, rfl, rfl, rfl, rfl, rfl, rfl, rfl, rfl⟩⟩

/-- What an extend call captured stays valid while the ledger grows. -/
theorem ExtendCtx.Ok.grow {ctx : ExtendCtx} (h : ctx.Ok db) (hr : ReceiptsGrow db db')
    (hh : HeadsGrow db db') : ctx.Ok db' := by
  obtain ⟨x, hx, hreq, c, hc, hcr, hfp⟩ := h.fingerprint
  obtain ⟨x', hx', hs⟩ := hh x hx
  refine ⟨h.targetQuota, x', hx', hs.requestID.trans hreq, c,
    get?_mem (hr _ c (get?_of_mem hc)), hcr, ?_⟩
  rw [← hfp]
  simp [adjustPayload, hs.requestID, hs.reserveFingerprint, hs.userID, hs.tokenID]

end MyApiSpec.Ledger
