import MyApiSpec.Ledger.Raise

/-!
# The receipt chain of a reservation

The root and the adjustments of a reservation form one line of parent links that ends in the
current receipt. The membership test walks this line from the current receipt and gives up
after 1024 receipts, so it finds exactly the newest 1024 of them.
-/

namespace MyApiSpec.Ledger

open Base Table List World

/-! ### Walking a chain -/

variable {db db' : DB} {h : Head} {c r : Receipt} {l : List Receipt} {i : Int} {env : TxEnv}
  {ps : Table ProjectionObligation} {o : Obligation} {w : World} {n : Nat}

/-- The receipts from an id along the parent links to the root, newest first. -/
inductive ChainFrom (db : DB) : Int → List Receipt → Prop
  | root {r : Receipt} (hget : db.receipts.get? r.id = some r) (hphase : r.phase = .reserve)
      (hparent : r.parentReceiptID = 0) : ChainFrom db r.id [r]
  | link {r : Receipt} {l : List Receipt} (hget : db.receipts.get? r.id = some r)
      (hphase : r.phase = .adjust) (hbelow : ChainFrom db r.parentReceiptID l) :
      ChainFrom db r.id (r :: l)

/-- What the walk checks at each receipt. -/
def OnChain (h : Head) (r : Receipt) : Prop :=
  r.requestID = h.requestID ∧ r.reserveFingerprint = h.reserveFingerprint ∧ r.Sealed

theorem chainWalk_zero (db : DB) (h : Head) (receiptID : Int) (depth : Nat) :
    chainWalk db h receiptID depth 0 = .ok false := by
  cases depth <;> rfl

/-- One round of the walk. -/
theorem chainWalk_succ (receiptID : Int) (depth : Nat) (hget : db.receipts.get? r.id = some r)
    (hon : OnChain h r) :
    chainWalk db h receiptID (depth + 1) r.id =
      if r.id = receiptID then .ok true else chainWalk db h receiptID depth r.parentReceiptID := by
  have hpos : 0 < r.id := (get?_bounds hget).1
  unfold OnChain at hon
  rw [chainWalk, if_pos hpos, hget, need_some, ok_bind, check_pos hon]
  rfl

/-- The walk finds exactly the receipts within its depth. -/
theorem ChainFrom.walk {currentID : Int} (receiptID : Int) (hc : ChainFrom db currentID l)
    (hon : ∀ r ∈ l, OnChain h r) (depth : Nat) :
    chainWalk db h receiptID depth currentID =
      .ok (decide (receiptID ∈ (l.take depth).map Receipt.id)) := by
  -- along the chain, one receipt and one unit of depth at a time
  induction hc generalizing depth with
  | @root r hget hphase hparent =>
    cases depth with
    | zero => simp [chainWalk]
    | succ depth =>
      rw [chainWalk_succ receiptID depth hget (hon r (by simp)), hparent, chainWalk_zero]
      by_cases hid : r.id = receiptID
      · simp [hid]
      · have hne : ¬ receiptID = r.id := fun he => hid he.symm
        simp [hid, hne]
  | @link r l hget hphase hbelow ih =>
    cases depth with
    | zero => simp [chainWalk]
    | succ depth =>
      rw [chainWalk_succ receiptID depth hget (hon r (by simp))]
      by_cases hid : r.id = receiptID
      · simp [hid]
      · have hne : ¬ receiptID = r.id := fun he => hid he.symm
        rw [if_neg hid, ih (fun x hx => hon x (mem_cons_of_mem _ hx)) depth]
        simp [hne]

theorem ChainFrom.grow (hc : ChainFrom db i l) (hr : ReceiptsGrow db db') : ChainFrom db' i l := by
  induction hc with
  | root hget hphase hparent => exact .root (hr _ _ hget) hphase hparent
  | link hget hphase _ ih => exact .link (hr _ _ hget) hphase ih

theorem ChainFrom.stored (hc : ChainFrom db i l) :
    ∀ r ∈ l, r ∈ db.receipts.rows ∧ r.phase.Chained := by
  induction hc with
  | @root r hget hphase hparent =>
    intro x hx
    rw [mem_singleton.mp hx]
    exact ⟨get?_mem hget, .inl hphase⟩
  | @link r l hget hphase hbelow ih =>
    intro x hx
    rcases mem_cons.mp hx with rfl | hx
    · exact ⟨get?_mem hget, .inr hphase⟩
    · exact ih x hx

/-- Every receipt of a chain has an id up to the one the chain starts with. -/
theorem ChainFrom.le (hw : WF db) (hc : ChainFrom db i l) : ∀ r ∈ l, r.id ≤ i := by
  induction hc with
  | @root r hget hphase hparent =>
    intro x hx
    rw [mem_singleton.mp hx]
  | @link r l hget hphase hbelow ih =>
    intro x hx
    rcases mem_cons.mp hx with rfl | hx
    · exact le_refl _
    · rcases (hw.receipt r (get?_mem hget)).parent with ⟨hres, -⟩ | ⟨-, p, hp, hang⟩
      · rw [hphase] at hres
        cases hres
      · have hpid : p.id = r.parentReceiptID := get?_id hp
        have hlt := hang.id
        have hle := ih x hx
        omega

/-- The ids of a chain descend. -/
theorem ChainFrom.descends (hw : WF db) (hc : ChainFrom db i l) :
    l.Pairwise (fun a b => b.id < a.id) := by
  induction hc with
  | root hget hphase hparent => exact pairwise_singleton _ _
  | @link r l hget hphase hbelow ih =>
    refine pairwise_cons.mpr ⟨?_, ih⟩
    intro x hx
    have hle := hbelow.le hw x hx
    rcases (hw.receipt r (get?_mem hget)).parent with ⟨hres, -⟩ | ⟨-, p, hp, hang⟩
    · rw [hphase] at hres
      cases hres
    · have hpid : p.id = r.parentReceiptID := get?_id hp
      have hlt := hang.id
      omega

/-- A chain ends in its root. -/
theorem ChainFrom.ends (hc : ChainFrom db i l) :
    ∃ before r, l = before ++ [r] ∧ r.phase = .reserve := by
  induction hc with
  | @root r hget hphase hparent => exact ⟨[], r, rfl, hphase⟩
  | @link r l hget hphase hbelow ih =>
    obtain ⟨before, root, rfl, hroot⟩ := ih
    exact ⟨r :: before, root, rfl, hroot⟩

/-! ### Every reservation has one chain -/

/-- The chained receipts of the request of `h` are one chain from its current receipt. -/
def Linear (db : DB) (h : Head) : Prop :=
  ∃ l, ChainFrom db h.currentReceiptID l ∧
    ∀ r, r ∈ l ↔ r ∈ db.receipts.rows ∧ r.requestID = h.requestID ∧ r.phase.Chained

/-- A chain stays the chain of its request when no chained receipt is added to it. -/
theorem Linear.frame {h' : Head} (hl : Linear db h) (hr : ReceiptsGrow db db')
    (hcur : h'.currentReceiptID = h.currentReceiptID) (hreq : h'.requestID = h.requestID)
    (hnew : ∀ r ∈ db'.receipts.rows, r ∈ db.receipts.rows ∨ r.requestID ≠ h.requestID ∨
      ¬ r.phase.Chained) : Linear db' h' := by
  obtain ⟨l, hc, hmem⟩ := hl
  refine ⟨l, hcur ▸ hc.grow hr, ?_⟩
  intro r
  rw [hmem, hreq]
  constructor
  · rintro ⟨hm, hrest⟩
    exact ⟨hr.mem hm, hrest⟩
  · rintro ⟨hm, hid, hch⟩
    rcases hnew r hm with hm | hne | hne
    · exact ⟨hm, hid, hch⟩
    · exact absurd hid hne
    · exact absurd hch hne

variable {token : Token} {user : User}

theorem linear_reserve {ctx : ReserveCtx} {choice : SourceChoice}
    {applied : Int} (hw : WF db) (h : ∀ x ∈ db.heads.rows, Linear db x)
    (g : ReserveGuards db env ctx user token choice applied) :
    ∀ x ∈ (reserveResult db env ctx user token choice applied ps).heads.rows,
      Linear (reserveResult db env ctx user token choice applied ps) x := by
  intro x hx
  have hnone := hw.no_receipt g.headFresh
  rcases mem_insert.mp hx with hx | rfl
  · refine (h x hx).frame (receiptsGrow_insert rfl) rfl rfl ?_
    intro r hr
    rcases mem_insert.mp hr with hr | rfl
    · exact .inl hr
    · exact .inr (.inl fun he => g.headFresh x hx he.symm)
  · -- the new request has the new receipt only
    refine ⟨[reserveStored db env ctx user token choice applied], ?_, ?_⟩
    · exact .root (get?_insert_nextId ..) rfl rfl
    · intro r
      rw [mem_singleton]
      constructor
      · rintro rfl
        exact ⟨mem_insert.mpr (.inr rfl), rfl, .inl rfl⟩
      · rintro ⟨hm, hid, -⟩
        rcases mem_insert.mp hm with hm | rfl
        · exact absurd hid (hnone r hm)
        · rfl

theorem linear_extend {ctx : ExtendCtx} {head : Head} {current : Receipt}
    {sub : Option UserSubscription} (hw : WF db)
    (h : ∀ x ∈ db.heads.rows, Linear db x)
    (g : ExtendGuards db env ctx head current user token sub o) :
    ∀ x ∈ (extendResult db env ctx head current user token sub o).heads.rows,
      Linear { extendResult db env ctx head current user token sub o with projections := ps } x := by
  intro x hx
  have hhead := (headFind_mem g.headRow).1
  rcases mem_put hx with rfl | ⟨hx, hid⟩
  · -- the adjustment goes in front of the chain
    obtain ⟨l, hc, hmem⟩ := h head hhead
    have hcur : current.id = head.currentReceiptID := get?_id g.currentRow
    refine ⟨extendStored db env ctx head current user token sub :: l, ?_, ?_⟩
    · refine .link (get?_insert_nextId ..) rfl ?_
      show ChainFrom _ current.id l
      rw [hcur]
      exact hc.grow (receiptsGrow_insert rfl)
    · intro r
      rw [mem_cons, hmem]
      constructor
      · rintro (rfl | ⟨hm, hrest⟩)
        · exact ⟨mem_insert.mpr (.inr rfl), rfl, .inr rfl⟩
        · exact ⟨mem_insert.mpr (.inl hm), hrest⟩
      · rintro ⟨hm, hrest⟩
        rcases mem_insert.mp hm with hm | rfl
        · exact .inr ⟨hm, hrest⟩
        · exact .inl rfl
  · refine (h x hx).frame (receiptsGrow_insert rfl) rfl rfl ?_
    intro r hr
    rcases mem_insert.mp hr with hr | rfl
    · exact .inl hr
    · refine .inr (.inl fun he => hid ?_)
      rw [hw.head_unique hx hhead he.symm]
      rfl

variable {ctx : TerminalCtx}

theorem linear_terminal {l : TerminalLocked}
    (h : ∀ x ∈ db.heads.rows, Linear db x) (g : TerminalGuards db env ctx l o) :
    ∀ x ∈ (terminalResult db env ctx l o).heads.rows,
      Linear { terminalResult db env ctx l o with projections := ps } x := by
  intro x hx
  have hnew : ∀ r ∈ (db.receipts.insert (terminalStored db env ctx l)).rows, ∀ y : Head,
      r ∈ db.receipts.rows ∨ r.requestID ≠ y.requestID ∨ ¬ r.phase.Chained := by
    intro r hr y
    rcases mem_insert.mp hr with hr | rfl
    · exact .inl hr
    · exact .inr (.inr ctx.phase.terminal.not_chained)
  rcases mem_put hx with rfl | ⟨hx, -⟩
  · exact (h l.head (headFind_mem g.lock.headRow).1).frame (receiptsGrow_insert rfl) rfl rfl
      (fun r hr => hnew r hr l.head)
  · exact (h x hx).frame (receiptsGrow_insert rfl) rfl rfl (fun r hr => hnew r hr x)

variable {log : ResetLog}

theorem linear_commit (hw : WF db) (h : ∀ x ∈ db.heads.rows, Linear db x)
    (hc : Commit db db' log) : ∀ x ∈ db'.heads.rows, Linear db' x := by
  cases hc.written with
  | kept => exact h
  | reserved _ g => exact linear_reserve hw h g
  | extended _ g => exact linear_extend hw h g
  | finished _ g => exact linear_terminal h g
  | moved | reset => exact fun x hx => (h x hx).frame (fun _ _ hr => hr) rfl rfl (fun r => .inl)

variable {w₀ : World}

theorem World.ReachableFrom.linear (h : w₀.ReachableFrom w) :
    ∀ x ∈ w.db.heads.rows, Linear w.db x := by
  refine h.invariant (fun db _ => ∀ x ∈ db.heads.rows, Linear db x) ?_
    (fun _ _ _ _ => linear_commit)
  intro x hx
  rw [h.1.ledger.heads] at hx
  cases hx

/-- The chained receipts of a request pass the checks of the walk. -/
theorem WF.onChain (hw : WF db) (hh : h ∈ db.heads.rows) (hr : r ∈ db.receipts.rows)
    (hreq : r.requestID = h.requestID) : OnChain h r := by
  have hok := hw.receipt r hr
  obtain ⟨x, hx, hb⟩ := hok.owner
  obtain rfl := hw.head_unique hx hh (hb.requestID.symm.trans hreq)
  exact ⟨hreq, hb.reserveFingerprint, hok.isSealed⟩

/-! ### Where a stale receipt is refused -/

section NotStale

/-- The computation does not refuse a receipt as stale. -/
abbrev NotStale {α : Type} (x : Except LedgerError α) : Prop := Avoids .staleReceipt x

private theorem notStale_replay (db : DB) (key : String) (f : Fingerprint) :
    NotStale (accountQuotaReplay db key f) := by
  unfold accountQuotaReplay
  split <;> simp

private theorem notStale_textDispatchPending (m : ReviewMetadata) : NotStale (textDispatchPending m) := by
  unfold textDispatchPending
  repeat' split
  all_goals simp

private theorem notStale_closeAdmission (o : Obligation) (h : Head) (input : TerminalInput)
    (phase : TerminalPhase) : NotStale (closeAdmission o h input phase) := by
  cases phase with
  | settle => simp [closeAdmission]
  | refund =>
    simp only [closeAdmission]
    simp [notStale_textDispatchPending]

private theorem notStale_terminalWrite (db : DB) (env : TxEnv) (ctx : TerminalCtx)
    (l : TerminalLocked) : NotStale (terminalWrite db env ctx l) := by
  refine avoids_bind.mpr ⟨notStale_replay _ _ _, fun replay _ => ?_⟩
  split
  · simp
  · simp [accountQuotaAfter, subscriptionAfter, requireQuotaProjectionEpoch, applyAccountQuotaBalances,
      applyUserBalance, applyTokenBalance, applySubscriptionBalance, createReceipt, closeAccountQuotaLifecycle,
      notStale_closeAdmission, ensureQuotaProjectionObligation, getQuotaWriterEpochState]

/-- A settle or refund whose receipt id passes the membership test is not refused as stale. -/
theorem terminalTx_notStale (env : TxEnv)
    (hfind : db.heads.find? (fun x => x.requestID = ctx.input.requestID) = some h)
    (hchain : accountQuotaReceiptInChain db h ctx.input.reserveReceiptID = .ok true) :
    NotStale (terminalTx db env ctx) := by
  have hhead := findHead_eq_ok.mpr hfind
  have hget : db.heads.get? h.id = some h := headFind_get? hfind
  refine avoids_bind.mpr ⟨?_, fun l _ => notStale_terminalWrite db env ctx l⟩
  simp [terminalLock, requireTerminalWriter, getQuotaWriterEpochState, requireDurableQuotaWriterEpoch, hhead, hget,
    lockSubscription, hchain, validateAccountQuotaHeadReceipt, accountQuotaTerminalFingerprint,
    accountQuotaFingerprint]

end NotStale

/-- A settle or refund of an open reservation is refused as stale when the membership test does
not find its receipt id. -/
theorem OpenReservation.stale (hr : OpenReservation db h o) (hv : Raisable db h)
    (hreq : ctx.input.requestID = h.requestID)
    (hchain : accountQuotaReceiptInChain db h ctx.input.reserveReceiptID = .ok false) (env : TxEnv) :
    terminalTx db env ctx = .error .staleReceipt := by
  have hok := hr.wf.head h hr.head
  obtain ⟨u, hu, -⟩ := hr.rows.user
  obtain ⟨t, ht, howner, -⟩ := hr.rows.token
  obtain ⟨s, hs, hsrow, -⟩ := hr.rows.lockSubscription hok
  obtain ⟨st, hgate, -, hepoch, -⟩ := hr.gate.gates hr.wf hr.head
  have huid : u.id = h.userID := get?_id hu
  have htid : t.id = h.tokenID := get?_id ht
  have hfind : findAccountQuotaReservationHead db ctx.input.requestID = .ok h := by
    rw [hreq]
    exact findHead_eq_ok.mpr (hr.wf.find_head hr.head)
  have hrow : db.heads.get? h.id = some h := get?_of_mem hr.head
  have hsub : ∀ x ∈ s, x.userID = u.id ∧ x.id = h.subscriptionID ∧
      quotaMutationVersionValid x.quotaVersion := by
    intro x hx
    obtain ⟨hget, ho⟩ := hsrow x hx
    exact ⟨ho.trans huid.symm, get?_id hget, hv.subscription x hget⟩
  have hlock : terminalLock db ctx = .error .staleReceipt := by
    simp only [terminalLock, hgate, ok_bind, hfind, hu, ht, hs, hrow, need_some,
      check_pos hepoch.symm]
    rw [check_pos ⟨huid.symm, howner.trans huid.symm, htid.symm, hok.lockVersion, hv.user u hu,
      hv.token t ht, hsub⟩, ok_bind, hchain]
    rfl
  rw [terminalTx, hlock]
  rfl

/-! ### Membership in reachable worlds -/

/-- Membership. In every reachable world the root and the adjustments of a reservation are one
chain of descending ids, the membership test finds exactly the newest 1024 of them, and a settle
or refund with the id of one of these is not refused as stale. -/
theorem receipt_in_chain {w₀ w : World} (hr : w₀.ReachableFrom w) {h : Head}
    (hh : h ∈ w.db.heads.rows) :
    ∃ l, ChainFrom w.db h.currentReceiptID l ∧ l.Pairwise (fun a b => b.id < a.id) ∧
      (∀ r, r ∈ l ↔ r ∈ w.db.receipts.rows ∧ r.requestID = h.requestID ∧ r.phase.Chained) ∧
      (∀ receiptID, 0 < receiptID → accountQuotaReceiptInChain w.db h receiptID =
        .ok (decide (receiptID ∈ (l.take 1024).map Receipt.id))) ∧
      ∀ env ctx, ctx.input.requestID = h.requestID →
        ctx.input.reserveReceiptID ∈ (l.take 1024).map Receipt.id →
        terminalTx w.db env ctx ≠ .error .staleReceipt := by
  have hw := hr.ok.wf
  obtain ⟨l, hc, hmem⟩ := hr.linear h hh
  have hon : ∀ r ∈ l, OnChain h r := by
    intro r hm
    obtain ⟨hrow, hreq, -⟩ := (hmem r).mp hm
    exact hw.onChain hh hrow hreq
  have hin : ∀ receiptID, 0 < receiptID → accountQuotaReceiptInChain w.db h receiptID =
      .ok (decide (receiptID ∈ (l.take 1024).map Receipt.id)) := by
    intro receiptID hpos
    rw [accountQuotaReceiptInChain, check_pos hpos, ok_bind]
    exact hc.walk receiptID hon 1024
  refine ⟨l, hc, hc.descends hw, hmem, hin, ?_⟩
  intro env ctx hreq hid
  obtain ⟨r, hrl, hrid⟩ := mem_map.mp hid
  have hrow := (hc.stored r (mem_of_mem_take hrl)).1
  have hpos : 0 < ctx.input.reserveReceiptID := by
    rw [← hrid]
    exact (w.db.receipts.bounds r hrow).1
  have hfind : w.db.heads.find? (fun x => x.requestID = ctx.input.requestID) = some h := by
    rw [hreq]
    exact hw.find_head hh
  apply terminalTx_notStale env hfind
  rw [hin _ hpos, decide_eq_true hid]

theorem receipt_in_chain_finishedRun :
    plainWorld.ReachableFrom (plainRun finishedRun) ∧
      ∃ h ∈ (plainRun finishedRun).db.heads.rows,
        ∃ l, ChainFrom (plainRun finishedRun).db h.currentReceiptID l ∧
          accountQuotaReceiptInChain (plainRun finishedRun).db h 1 =
            .ok (decide (1 ∈ (l.take 1024).map Receipt.id)) := by
  have hreach := plainRun_reachable finishedRun_head.1
  obtain ⟨h, hh, -⟩ := finishedRun_head.2
  obtain ⟨l, hc, -, -, hin, -⟩ := receipt_in_chain hreach hh
  exact ⟨hreach, h, hh, l, hc, hin 1 (by decide)⟩

/-! ### A chain that is longer than the walk -/

/-- The current receipt passes the membership test. -/
theorem WF.current_inChain (hw : WF db) (hh : h ∈ db.heads.rows)
    (hc : db.receipts.get? h.currentReceiptID = some c) :
    accountQuotaReceiptInChain db h h.currentReceiptID = .ok true := by
  obtain ⟨x, hx, hm, -⟩ := (hw.head h hh).current
  cases hc.symm.trans hx
  have hid : c.id = h.currentReceiptID := get?_id hc
  have hpos : 0 < h.currentReceiptID := (get?_bounds hc).1
  have hon := hw.onChain hh (get?_mem hc) hm.requestID
  rw [accountQuotaReceiptInChain, check_pos hpos, ok_bind, ← hid]
  show chainWalk db h c.id (1023 + 1) c.id = .ok true
  rw [chainWalk_succ c.id 1023 (hid.symm ▸ hc) hon, if_pos rfl]

/-- A reservation that charges no balance: self-use from the playground. -/
structure Uncharged (h : Head) (c : Receipt) : Prop where
  source : h.billingSource = .selfUse
  playground : c.billingContext.playground = true

theorem Uncharged.deltas (hu : Uncharged h c) (ctx : ExtendCtx) : extendDeltas ctx h c = {} := by
  simp [extendDeltas, accountQuotaRequestedDeltas, hu.source, hu.playground]

/-- The stored rows pay for every extension that charges nothing. -/
theorem Uncharged.payable {ctx : ExtendCtx} {u : User} {t : Token} (hu : Uncharged h c)
    (huser : db.users.get? h.userID = some u) (htoken : db.tokens.get? h.tokenID = some t)
    (hsub : h.subscriptionID = 0) (hui : u.InRange) (hti : t.InRange)
    (hv : 0 ≤ u.quotaVersion ∧ 0 ≤ t.quotaVersion) : Payable db h c ctx u t none := by
  refine ⟨huser, htoken, ?_, ?_, ?_, hv⟩
  · rw [hsub]
    rfl
  · rw [extendFunds, check_pos (.inl hu.playground), hu.source]
    rfl
  · rw [hu.deltas]
    have h1 := hui.quota
    have h2 := hti.remainQuota
    have h3 := hti.usedQuota
    exact ⟨h1, by simpa using h1, hui.usedQuota, h2, by simpa using h2, h3, by simpa using h3,
      absurd rfl, absurd rfl, fun hne => absurd ⟨rfl, rfl⟩ hne⟩

/-- The encoded target is all that tells the payloads of two adjustments apart. -/
theorem adjustPayload_jsonSize (h : Head) (c : Receipt) (target : Int) :
    (adjustPayload h c target).jsonSize ≤ (adjustPayload h c 0).jsonSize + jsonIntSize target := by
  simp only [FingerprintPayload.jsonSize, adjustPayload, jsonObjectSize, isEmpty_cons,
    Bool.false_eq_true, if_false, map_cons, sum_cons, length_cons]
  omega

/-- A call that starts last and meets no failure of the database commits its transaction. -/
theorem World.ReachableFrom.callNext {input : CallInput} {ctx : CallCtx}
    (hr : w₀.ReachableFrom w) (hpre : callPrecheck w.db input = .ok (.go ctx))
    (htx : callTx w.db env ctx = .ok (db, r, log)) : ∃ w', w₀.ReachableFrom w' ∧ w'.db = db := by
  have hcall : (w.addCall input).calls[w.calls.length]? = some ⟨input, .ready⟩ := by
    simp [addCall]
  have hrun : Base.run step w (.start input ::
      [.precheck w.calls.length, .transact w.calls.length env .respond]) = _ :=
    run_call_twice env hcall hpre
  refine ⟨_, hr.run hrun, ?_⟩
  have htx' : callTx (((w.addCall input).setCall w.calls.length ⟨input, .attempt ctx 0⟩).db) env ctx =
      .ok (db, r, log) := htx
  simp only [transact, htx']
  rfl

/-- The user of `plainDB` with self-use, under the global switch for it. -/
def selfUseDB : DB :=
  { plainDB with
    funding := ⟨true, true⟩
    users := Table.empty.insert
      { id := 1, quota := 0, selfUseNoBalance := true, usagePolicyRevision := 1 } }

/-- The world of `selfUseDB` before any call. -/
def selfUseWorld : World := { db := selfUseDB }

/-- A self-use reservation with `n` adjustments of one unit each. -/
structure Stretched (w : World) (n : Nat) (h : Head) (o : Obligation) (c : Receipt)
    (l : List Receipt) : Prop where
  reachable : selfUseWorld.ReachableFrom w
  users : ∀ u ∈ w.db.users.rows, quotaMutationVersionValid u.quotaVersion
  tokens : ∀ t ∈ w.db.tokens.rows, quotaMutationVersionValid t.quotaVersion
  head : h ∈ w.db.heads.rows
  unsettled : h.terminalReceiptID = 0
  applied : h.appliedQuota = n + 1
  obligation : o ∈ w.db.obligations.rows
  requestID : o.requestID = h.requestID
  isOpen : o.state = .open
  dispatch : textDispatchPending o.reviewMetadata = .ok false
  current : w.db.receipts.get? h.currentReceiptID = some c
  uncharged : Uncharged h c
  size : (adjustPayload h c 0).jsonSize ≤ 1000
  chain : ChainFrom w.db h.currentReceiptID l
  request : ∀ r ∈ l, r.requestID = h.requestID
  length : l.length = n + 1

section

variable (hs : Stretched w n h o c l)
include hs

theorem Stretched.reservation : OpenReservation w.db h o :=
  { hs with
    wf := hs.reachable.ok.wf
    gate := hs.reachable.gate
    rows := hs.reachable.rows h hs.head
    capped := hs.reachable.capped h hs.head
    nonneg := hs.reachable.requestsNonneg }

theorem Stretched.subscriptionID : h.subscriptionID = 0 := by
  apply (hs.reservation.wf.head h hs.head).source.2.2
  rw [hs.uncharged.source]
  decide

/-- A call raises such a reservation by one unit. -/
theorem Stretched.extend (hn : n < 1024) :
    ∃ w' ctx u t ps, selfUseWorld.ReachableFrom w' ∧ ctx.targetQuota = ((n + 2 : Nat) : Int) ∧
      w.db.users.get? h.userID = some u ∧ w.db.tokens.get? h.tokenID = some t ∧
      w'.db = { extendResult w.db (plainEnv 1) ctx h c u t none o with projections := ps } := by
  have hres := hs.reservation
  have hw := hres.wf
  obtain ⟨u, hu, hui⟩ := hres.rows.user
  obtain ⟨t, ht, -, hti⟩ := hres.rows.token
  have huv := hs.users u (get?_mem hu)
  have htv := hs.tokens t (get?_mem ht)
  obtain ⟨c', hc', hm, hch⟩ := (hw.head h hs.head).current
  cases hs.current.symm.trans hc'
  have hraise : h.appliedQuota < (n + 2 : Nat) := by
    rw [hs.applied]
    omega
  have hsize : (adjustPayload h c (n + 2 : Nat)).jsonSize ≤ accountQuotaMutationMaxContextBytes := by
    have h1 := adjustPayload_jsonSize h c (n + 2 : Nat)
    have h2 := jsonIntSize_le (by decide) (show n + 2 < 10 ^ 4 by omega)
    have h3 := hs.size
    simp only [accountQuotaMutationMaxContextBytes]
    omega
  have hvalid : validAccountQuotaValue (n + 2 : Nat) := by
    simp only [validAccountQuotaValue, maxQuota]
    omega
  have hpre := hres.extendPrecheck hs.current hm.requestID hch hs.current hvalid hraise hsize
  let ctx : ExtendCtx := ⟨h.currentReceiptID, (n + 2 : Nat), h.requestID, h.writerEpoch,
    (adjustPayload h c (n + 2 : Nat)).digest⟩
  have hctx : ctx.Ok w.db := ⟨hvalid, h, hs.head, rfl, c, get?_mem hs.current, hm.requestID,
    accountQuotaFingerprint_eq_ok.mpr ⟨hsize, rfl⟩⟩
  have hpay : Payable w.db h c ctx u t none :=
    hs.uncharged.payable hu ht hs.subscriptionID hui hti ⟨huv.1, htv.1⟩
  have hguards := hres.extendGuards hctx rfl rfl (hw.current_inChain hs.head hs.current) hs.current
    hraise hpay (plainEnv 1)
  obtain ⟨ps, htx⟩ := hres.raises hguards hpay.versions
  have hcall : callPrecheck w.db (.extend h.currentReceiptID (n + 2 : Nat)) = .ok (.go (.extend ctx)) := by
    rw [callPrecheck, hpre]
    rfl
  obtain ⟨w', hr', hdb⟩ := hs.reachable.callNext hcall (by rw [callTx, htx]; rfl)
  exact ⟨w', ctx, u, t, ps, hr', rfl, hu, ht, hdb⟩

/-- After the call the reservation has one more adjustment. -/
theorem Stretched.next (hn : n < 1024) :
    ∃ w' h' o' c' l', Stretched w' (n + 1) h' o' c' l' := by
  obtain ⟨w', ctx, u, t, ps, hr, htarget, hu, ht, hdb⟩ := hs.extend hn
  let stored := extendStored w.db (plainEnv 1) ctx h c u t none
  have hhead : w.db.heads.get? h.id = some h := get?_of_mem hs.head
  have hobl : w.db.obligations.get? o.id = some o := get?_of_mem hs.obligation
  have hcid : c.id = h.currentReceiptID := get?_id hs.current
  refine ⟨w', { h with currentReceiptID := stored.id, appliedQuota := ctx.targetQuota
                       lockVersion := h.lockVersion + 1 },
    { o with reserveReceiptID := stored.id, lockVersion := o.lockVersion + 1 }, stored, stored :: l,
    hr, ?_, ?_, ?_, hs.unsettled, ?_, ?_, hs.requestID, hs.isOpen, hs.dispatch, ?_,
    ⟨hs.uncharged.source, hs.uncharged.playground⟩, hs.size, ?_, ?_, ?_⟩
  · have hrow : w.db.users.get? u.id = some u := get?_of_mem (get?_mem hu)
    have hstay : u.charge (extendDeltas ctx h c) = u := by
      rw [hs.uncharged.deltas]
      simp [User.charge]
    rw [hdb]
    show ∀ x ∈ (w.db.users.put (u.charge (extendDeltas ctx h c))).rows, _
    rw [hstay, put_self hrow]
    exact hs.users
  · have hrow : w.db.tokens.get? t.id = some t := get?_of_mem (get?_mem ht)
    have hstay : t.charge (extendDeltas ctx h c) (plainEnv 1).now = t := by
      rw [hs.uncharged.deltas]
      simp [Token.charge]
    rw [hdb]
    show ∀ x ∈ (w.db.tokens.put (t.charge (extendDeltas ctx h c) (plainEnv 1).now)).rows, _
    rw [hstay, put_self hrow]
    exact hs.tokens
  · rw [hdb]
    exact mem_put_self hhead
  · show ctx.targetQuota = _
    omega
  · rw [hdb]
    exact mem_put_self hobl
  · rw [hdb]
    exact get?_insert_nextId ..
  · refine .link ?_ rfl ?_
    · rw [hdb]
      exact get?_insert_nextId ..
    · show ChainFrom w'.db c.id l
      rw [hdb, hcid]
      exact hs.chain.grow (receiptsGrow_insert rfl)
  · intro r hr
    rcases mem_cons.mp hr with rfl | hr
    · rfl
    · exact hs.request r hr
  · rw [length_cons, hs.length]

end

/-- A reservation of one unit in `selfUseWorld`. -/
def stretchRun : List Action :=
  smoothCall 0 (.reserve { requestID := "r1", userID := 1, tokenID := 1, requestedQuota := 1
                           playground := true }) 1

theorem stretched_zero : ∃ w h o c l, Stretched w 0 h o c l := by
  let w := (run step selfUseWorld stretchRun).getD selfUseWorld
  have hrun : (run step selfUseWorld stretchRun).isSome = true ∧
      (∀ u ∈ w.db.users.rows, quotaMutationVersionValid u.quotaVersion) ∧
      (∀ t ∈ w.db.tokens.rows, quotaMutationVersionValid t.quotaVersion) ∧
      ∃ h ∈ w.db.heads.rows, ∃ o ∈ w.db.obligations.rows, ∃ c ∈ w.db.receipts.rows,
        h.terminalReceiptID = 0 ∧ h.appliedQuota = 1 ∧ o.requestID = h.requestID ∧
        o.state = .open ∧ textDispatchPending o.reviewMetadata = .ok false ∧
        c.id = h.currentReceiptID ∧ h.billingSource = .selfUse ∧
        c.billingContext.playground = true ∧ (adjustPayload h c 0).jsonSize ≤ 1000 ∧
        c.phase = .reserve ∧ c.parentReceiptID = 0 ∧ c.requestID = h.requestID := by decide +kernel
  obtain ⟨hsome, husers, htokens, h, hh, o, ho, c, hc, hopen, happ, hreq, hstate, hdisp, hcur, hsrc,
    hplay, hsize, hphase, hparent, hsame⟩ := hrun
  have hreach : selfUseWorld.ReachableFrom w :=
    ⟨⟨⟨rfl, rfl, rfl, rfl⟩, rfl, rfl, rfl⟩, stretchRun, run_getD hsome⟩
  have hget : w.db.receipts.get? c.id = some c := get?_of_mem hc
  refine ⟨w, h, o, c, [c], hreach, husers, htokens, hh, hopen, by simpa using happ, ho, hreq, hstate,
    hdisp, hcur ▸ hget, ⟨hsrc, hplay⟩, hsize, ?_, ?_, rfl⟩
  · rw [← hcur]
    exact .root hget hphase hparent
  · intro r hr
    rw [mem_singleton.mp hr]
    exact hsame

theorem stretched_exists (n : Nat) (hn : n ≤ 1024) : ∃ w h o c l, Stretched w n h o c l := by
  induction n with
  | zero => exact stretched_zero
  | succ n ih =>
    obtain ⟨w, h, o, c, l, hs⟩ := ih (by omega)
    exact hs.next hn

/-- A reservation of `selfUseWorld` that was extended 1024 times: the membership test does not
find its root, and every settle or refund with the id of the root is refused as stale. -/
theorem extended_root_refused :
    ∃ w, selfUseWorld.ReachableFrom w ∧ ∃ h ∈ w.db.heads.rows, ∃ l,
      ChainFrom w.db h.currentReceiptID l ∧ l.length = 1025 ∧ ∃ r ∈ l, r.phase = .reserve ∧
        accountQuotaReceiptInChain w.db h r.id = .ok false ∧
        ∀ env ctx, ctx.input.requestID = h.requestID → ctx.input.reserveReceiptID = r.id →
          terminalTx w.db env ctx = .error .staleReceipt := by
  obtain ⟨w, h, o, c, l, hs⟩ := stretched_exists 1024 (le_refl _)
  have hres := hs.reservation
  have hw := hres.wf
  obtain ⟨before, r, rfl, hphase⟩ := hs.chain.ends
  have hlen : before.length = 1024 := by
    have := hs.length
    simp only [length_append, length_singleton] at this
    omega
  have hlast : r ∈ before ++ [r] := by simp
  have hpos : 0 < r.id := (w.db.receipts.bounds r (hs.chain.stored r hlast).1).1
  have hmiss : r.id ∉ before.map Receipt.id := by
    intro hm
    obtain ⟨x, hx, hid⟩ := mem_map.mp hm
    have hlt := (pairwise_append.mp (hs.chain.descends hw)).2.2 x hx r (mem_singleton_self r)
    omega
  have hon : ∀ x ∈ before ++ [r], OnChain h x := by
    intro x hx
    exact hw.onChain hs.head (hs.chain.stored x hx).1 (hs.request x hx)
  have hchain : accountQuotaReceiptInChain w.db h r.id = .ok false := by
    rw [accountQuotaReceiptInChain, check_pos hpos, ok_bind]
    show chainWalk w.db h r.id 1024 h.currentReceiptID = _
    rw [hs.chain.walk r.id hon 1024, ← hlen, take_left, decide_eq_false hmiss]
  have hraise : Raisable w.db h := by
    refine ⟨fun u hu => hs.users u (get?_mem hu), fun t ht => hs.tokens t (get?_mem ht), ?_⟩
    intro s hsub
    exact absurd hs.subscriptionID (ne_zero_of_get? hsub)
  refine ⟨w, hs.reachable, h, hs.head, before ++ [r], hs.chain, hs.length, r, hlast, hphase, hchain, ?_⟩
  intro env ctx hreq hid
  exact hres.stale hraise hreq (hid ▸ hchain) env

end MyApiSpec.Ledger
