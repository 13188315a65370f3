import MyApiSpec.Ledger.Terminal

/-!
# Releasing a reservation

An open reservation can be refunded, and settled with no more than its applied quota, unless
one of three guards stands in the way: a version counter that is used up, a fingerprint payload
above its size bound, or a subscription whose used amount a reset brought below the amount to
give back. Wallet and token balances never stand in the way, because they rose by at most what
was taken from them.
-/

namespace MyApiSpec.Ledger

open Base List Table World Head

/-! ### Balances leave room for a release -/

variable {db db' : DB} {log : ResetLog} {i : Int} {u : User} {t : Token} {w : World} {h : Head}
  {ctx : TerminalCtx} {l : TerminalLocked} {c : Receipt} {o : Obligation} {input : CallInput}
  {phase : TerminalPhase} {norm : TerminalInput}

/-- Giving back everything that is reserved keeps wallet and token in range. -/
structure Capped (db : DB) (h : Head) : Prop where
  user : ∀ u, db.users.get? h.userID = some u →
    u.quota + walletCost db h.userID ≤ maxQuotaBalance
  token : ∀ t, db.tokens.get? h.tokenID = some t →
    t.remainQuota + tokenCost db h.tokenID ≤ maxQuotaBalance ∧
      0 ≤ t.usedQuota - tokenCost db h.tokenID

theorem capped_commit (hw : WF db) (hrows : ∀ x ∈ db.heads.rows, RowsOk db x)
    (h : ∀ x ∈ db.heads.rows, Capped db x) (hc : Commit db db' log) :
    ∀ x ∈ db'.heads.rows, Capped db' x := by
  -- a cap on the row before the commit is a cap on the row behind it
  have huser : ∀ i u, db.users.get? i = some u → u.quota + walletCost db i ≤ maxQuotaBalance →
      ∀ u', db'.users.get? i = some u' → u'.quota + walletCost db' i ≤ maxQuotaBalance := by
    intro i u hu hle u' hu'
    obtain ⟨x, hx, hm⟩ := (hc.accounts hw).users i u hu
    cases hx.symm.trans hu'
    rw [hm.quota]
    beta_reduce
    omega
  have htoken : ∀ i t, db.tokens.get? i = some t →
      t.remainQuota + tokenCost db i ≤ maxQuotaBalance ∧ 0 ≤ t.usedQuota - tokenCost db i →
      ∀ t', db'.tokens.get? i = some t' → t'.remainQuota + tokenCost db' i ≤ maxQuotaBalance ∧
        0 ≤ t'.usedQuota - tokenCost db' i := by
    intro i t ht hle t' ht'
    obtain ⟨x, hx, hm⟩ := (hc.accounts hw).tokens i t ht
    cases hx.symm.trans ht'
    rw [hm.remainQuota, hm.usedQuota]
    beta_reduce
    omega
  intro x hx
  rcases hc.heads_back hx with ⟨y, hy, hs⟩ | ⟨env, ctx, user, token, choice, applied, ps, g, rfl, -⟩
  · obtain ⟨u, hu, -⟩ := (hrows y hy).user
    obtain ⟨t, ht, -⟩ := (hrows y hy).token
    constructor
    · rw [hs.userID]
      exact huser _ u hu ((h y hy).user u hu)
    · rw [hs.tokenID]
      exact htoken _ t ht ((h y hy).token t ht)
  · have huid : user.id = ctx.userID := get?_id g.userRow
    have htid : token.id = ctx.tokenID := get?_id g.tokenRow
    have hg := g.chargeable
    constructor
    · show ∀ u', db'.users.get? user.id = some u' → u'.quota + walletCost db' user.id ≤ maxQuotaBalance
      rw [huid]
      refine huser _ user g.userRow ?_
      by_cases hex : ∃ y ∈ db.heads.rows, y.userID = ctx.userID
      · obtain ⟨y, hy, he⟩ := hex
        rw [← he]
        exact (h y hy).user user (he ▸ g.userRow)
      · have hzero : walletCost db ctx.userID = 0 :=
          Table.sum_eq_zero fun y hy => if_neg fun hp => hex ⟨y, hy, hp.1⟩
        rw [hzero, Int.add_zero]
        exact hg.quota.2
    · show ∀ t', db'.tokens.get? token.id = some t' →
        t'.remainQuota + tokenCost db' token.id ≤ maxQuotaBalance ∧
          0 ≤ t'.usedQuota - tokenCost db' token.id
      rw [htid]
      refine htoken _ token g.tokenRow ?_
      by_cases hex : ∃ y ∈ db.heads.rows, y.tokenID = ctx.tokenID
      · obtain ⟨y, hy, he⟩ := hex
        rw [← he]
        exact (h y hy).token token (he ▸ g.tokenRow)
      · have hzero : tokenCost db ctx.tokenID = 0 :=
          Table.sum_eq_zero fun y hy => if_neg fun hp => hex ⟨y, hy, hp.1⟩
        rw [hzero, Int.add_zero, Int.sub_zero]
        exact ⟨hg.remain.2, hg.used.1⟩

variable {w₀ : World}

theorem World.ReachableFrom.capped (h : w₀.ReachableFrom w) :
    ∀ x ∈ w.db.heads.rows, Capped w.db x := by
  have hinv := h.invariant
    (fun db _ => (∀ x ∈ db.heads.rows, RowsOk db x) ∧ ∀ x ∈ db.heads.rows, Capped db x)
    (by
      constructor <;>
      · intro x hx
        rw [h.1.ledger.heads] at hx
        cases hx)
    (fun _ _ _ _ hw hp hc => ⟨rowsOk_commit hw hp.1 hc, capped_commit hw hp.1 hp.2 hc⟩)
  exact hinv.2

/-! ### Costs are not negative -/

/-- No receipt was requested for a negative amount. -/
def RequestsNonneg (db : DB) : Prop := ∀ r ∈ db.receipts.rows, 0 ≤ r.requestedQuota

theorem RequestsNonneg.commit (h : RequestsNonneg db) (hc : Commit db db' log) :
    RequestsNonneg db' := by
  intro r hr
  cases hc.written with
  | kept | moved | reset => exact h r hr
  | reserved ok =>
    rcases mem_insert.mp hr with hr | rfl
    · exact h r hr
    · exact ok.requestedQuota.1
  | extended ok =>
    rcases mem_insert.mp hr with hr | rfl
    · exact h r hr
    · exact ok.targetQuota.1
  | finished ok =>
    rcases mem_insert.mp hr with hr | rfl
    · exact h r hr
    · exact ok.actualQuota.1

theorem World.ReachableFrom.requestsNonneg (h : w₀.ReachableFrom w) :
    RequestsNonneg w.db := by
  refine h.invariant (fun db _ => RequestsNonneg db) ?_ (fun _ _ _ _ _ hp => hp.commit)
  intro r hr
  rw [h.1.ledger.receipts] at hr
  cases hr

theorem RequestsNonneg.cost (hn : RequestsNonneg db) (hok : HeadOk db h) : 0 ≤ h.cost db := by
  unfold Head.cost
  split
  · exact hok.applied.1
  · split
    · next t ht =>
      split
      · exact hn t (get?_mem ht)
      · exact le_refl 0
    · exact le_refl 0

/-- An open reservation is part of the cost of its class. -/
theorem applied_le_sum (hw : WF db) (hn : RequestsNonneg db) (hh : h ∈ db.heads.rows)
    (hopen : h.terminalReceiptID = 0) {P : Head → Prop} [DecidablePred P] (hP : P h) :
    h.appliedQuota ≤ db.heads.sum (fun x => if P x then x.cost db else 0) := by
  have hle := le_sum_of_mem (t := db.heads) (r := h) (c := fun x => if P x then x.cost db else 0) (by
    intro x hx
    split
    · exact hn.cost (hw.head x hx)
    · exact le_refl 0) hh
  have hcost : h.cost db = h.appliedQuota := if_pos hopen
  rw [if_pos hP, hcost] at hle
  exact hle

/-! ### What a release charges -/

/-- A settle or refund moves the balances by the actual quota minus the applied one. -/
theorem LockGuards.deltas (g : LockGuards db ctx l) (hctx : ctx.Ok) :
    terminalDeltas ctx l = accountQuotaRequestedDeltas l.head.billingSource
      (ctx.input.actualQuota - l.head.appliedQuota) l.current.billingContext.playground := by
  have hactual : (if ctx.phase = .settle then ctx.input.actualQuota else 0) =
      ctx.input.actualQuota := by
    cases hp : ctx.phase with
    | settle => rfl
    | refund => exact (hctx.refund hp).1.symm
  unfold terminalDeltas
  rw [terminalDeltas_eq, hactual, g.current_matches.billingSource, g.current_matches.appliedQuota]

/-- The rows a release locked, all in range. -/
structure LockedInRange (l : TerminalLocked) : Prop where
  user : l.user.InRange
  token : l.token.InRange
  subscription : l.head.billingSource = .subscription → ∃ x, l.subscription = some x ∧
    (0 ≤ x.amountTotal ∧ x.amountTotal ≤ maxQuotaBalance) ∧ x.InRange

variable {actual : Int}

/-- The token takes back what an open reservation holds. -/
theorem release_token (hw : WF db) (hn : RequestsNonneg db) (hh : h ∈ db.heads.rows)
    (hopen : h.terminalReceiptID = 0) (hcap : Capped db h) (ht : db.tokens.get? h.tokenID = some t)
    (hin : t.InRange) (hc : db.receipts.get? h.currentReceiptID = some c)
    (hactual : 0 ≤ actual ∧ actual ≤ h.appliedQuota) :
    let d := accountQuotaRequestedDeltas h.billingSource (actual - h.appliedQuota)
      c.billingContext.playground
    (-maxQuotaBalance ≤ t.remainQuota + d.tokenRemainQuota ∧
      t.remainQuota + d.tokenRemainQuota ≤ maxQuotaBalance) ∧
      (0 ≤ t.usedQuota + d.tokenUsedQuota ∧ t.usedQuota + d.tokenUsedQuota ≤ maxQuotaBalance) := by
  intro d
  have hremain := hin.remainQuota
  have hused := hin.usedQuota
  have hroom := hcap.token t ht
  have hneg : d.tokenRemainQuota = -d.tokenUsedQuota := requestedDeltas_tokenRemain _ _ _
  have hd : d.tokenUsedQuota = if h.billingSource ≠ .free ∧ c.billingContext.playground = false
      then actual - h.appliedQuota else 0 := requestedDeltas_tokenUsed _ _ _
  by_cases hcharged : h.billingSource ≠ .free ∧ c.billingContext.playground = false
  · have hplay : h.playground db = false := (playground_eq hc).trans hcharged.2
    have hcost : h.appliedQuota ≤ tokenCost db h.tokenID :=
      applied_le_sum hw hn hh hopen ⟨rfl, hcharged.1, hplay⟩
    omega
  · rw [if_neg hcharged] at hd
    omega

/-- A release is chargeable exactly when the used amount of its subscription covers it. -/
theorem release_chargeable_iff (hw : WF db) (hn : RequestsNonneg db) (g : LockGuards db ctx l)
    (hctx : ctx.Ok) (hin : LockedInRange l) (hh : l.head ∈ db.heads.rows)
    (hopen : l.head.terminalReceiptID = 0) (hcap : Capped db l.head)
    (hle : ctx.input.actualQuota ≤ l.head.appliedQuota) :
    Chargeable l.user l.token l.subscription (terminalDeltas ctx l) ↔
      (l.head.billingSource = .subscription → ∀ x, l.subscription = some x →
        l.head.appliedQuota - ctx.input.actualQuota ≤ x.amountUsed) := by
  have hactual := And.intro hctx.actualQuota.1 hle
  rw [g.deltas hctx]
  constructor
  · intro hc hsrc x hx
    obtain ⟨y, hy, -, hused⟩ := hin.subscription hsrc
    cases hy.symm.trans hx
    by_cases hzero : ctx.input.actualQuota - l.head.appliedQuota = 0
    · have := hused.1
      omega
    · have hdelta := requestedDeltas_subscription l.head.billingSource
        (ctx.input.actualQuota - l.head.appliedQuota) l.current.billingContext.playground
      rw [if_pos hsrc] at hdelta
      obtain ⟨z, hz, hch⟩ := hc.subscription (by rw [hdelta]; exact hzero)
      cases hy.symm.trans hz
      have htarget := hch.target.1
      omega
  · intro hcover
    have htoken := release_token hw hn hh hopen hcap g.tokenRow hin.token g.currentRow hactual
    refine ⟨hin.user.quota, ?_, hin.user.usedQuota, hin.token.remainQuota, htoken.1, hin.token.usedQuota,
      htoken.2, fun hne => ?_, fun _ => g.userVersion, fun _ => g.tokenVersion⟩
    · have hquota := hin.user.quota
      have hroom := hcap.user _ g.userRow
      rw [requestedDeltas_userQuota]
      by_cases hsrc : l.head.billingSource = .wallet
      · have hcost : l.head.appliedQuota ≤ walletCost db l.head.userID :=
          applied_le_sum hw hn hh hopen ⟨rfl, hsrc⟩
        omega
      · rw [if_neg hsrc]
        omega
    · rw [requestedDeltas_subscription] at hne ⊢
      by_cases hsrc : l.head.billingSource = .subscription
      · obtain ⟨x, hx, htotal, hused⟩ := hin.subscription hsrc
        have hroom := hcover hsrc x hx
        have hrange := And.intro hused.1 hused.2
        exact ⟨x, hx, (g.subValid x hx).2, .inr htotal, hused, by omega, by omega⟩
      · rw [if_neg hsrc] at hne
        exact absurd rfl hne

/-! ### The terminal keys of an open reservation are free -/

theorem adjust_tail_ne {n : Int} {tail : String} (h : tail.toList.take 3 ≠ ['r', 'e', 's']) :
    "reserve-adjust-" ++ toString n ≠ tail := by
  intro he
  apply h
  rw [← he, String.toList_append]
  rfl

private theorem terminal_tail (phase : TerminalPhase) :
    ':' ∉ phase.toPhase.text.toList ∧ phase.toPhase.text ≠ "reserve" ∧
      phase.toPhase.text.toList.take 3 ≠ ['r', 'e', 's'] := by
  cases phase <;> decide

/-- No stored receipt has the event key or the slot of a terminal receipt of an open head. -/
theorem WF.terminal_fresh (hw : WF db) (hh : h ∈ db.heads.rows) (hopen : h.terminalReceiptID = 0)
    (phase : TerminalPhase) :
    ∀ x ∈ db.receipts.rows, x.eventKey ≠ accountQuotaEventKey h.requestID phase.toPhase ∧
      x.mutationSlot ≠ accountQuotaMutationSlot h.requestID phase.toPhase := by
  intro x hx
  obtain ⟨hcolon, hreserve, hadjust⟩ := terminal_tail phase
  rw [accountQuotaMutationSlot_terminal _ phase.terminal]
  rcases (hw.receipt x hx).key with ⟨-, hek, hslot⟩ | ⟨-, hpos, hek, hslot⟩ | ⟨hp, -, -⟩
  · rw [hek, hslot]
    constructor
    · intro he
      exact hreserve (requestKey_inj (by decide) hcolon he).2.symm
    · intro he
      exact absurd (requestKey_inj (by decide) (by decide) he).2 (by decide)
  · rw [hek, hslot]
    constructor
    · intro he
      exact adjust_tail_ne hadjust (requestKey_inj (colon_not_mem_adjust hpos) hcolon he).2
    · intro he
      exact adjust_tail_ne (by decide) (requestKey_inj (colon_not_mem_adjust hpos) (by decide) he).2
  · -- a terminal receipt belongs to another request
    have hne : x.requestID ≠ h.requestID := fun he => (hw.head h hh).no_terminal hopen x hx he hp
    obtain ⟨hek, hslot⟩ := (hw.receipt x hx).key.terminal hp
    rw [hek, hslot]
    constructor
    · intro he
      have htail : ':' ∉ x.phase.text.toList := by
        rcases hp with h1 | h1 <;> rw [h1] <;> decide
      exact hne (requestKey_inj htail hcolon he).1
    · intro he
      exact hne (requestKey_inj (by decide) (by decide) he).1

variable {r : Receipt}

/-- The projection obligation of a receipt with a new id and event key can be created. -/
theorem ensureProjection_fresh (hid : 0 < r.id) (hkey : r.eventKey ≠ "")
    (huser : 0 < r.userID) (hu : 0 ≤ r.after.user.quotaVersion)
    (ht : 0 ≤ r.after.token.quotaVersion)
    (hfresh : ∀ p ∈ db.projections.rows, p.receiptID ≠ r.id ∧ p.eventKey ≠ r.eventKey) :
    ∃ db', ensureQuotaProjectionObligation db r = .ok db' := by
  have hany : db.projections.rows.any
      (fun p => p.receiptID = r.id || p.eventKey = r.eventKey) = false := by
    rw [any_eq_false]
    intro p hp
    simp [(hfresh p hp).1, (hfresh p hp).2]
  have hnone : db.projections.rows.find? (fun p => p.receiptID = r.id) = none := by
    rw [find?_eq_none]
    intro p hp
    simp [(hfresh p hp).1]
  unfold ensureQuotaProjectionObligation
  rw [check_pos ⟨hid, hkey, huser, hu, ht⟩]
  simp only [ok_bind, hany, Bool.false_eq_true, if_false, Table.find?, Table.insert,
    find?_append, hnone, Option.none_or, find?_cons, Row.withId, decide_true, need_some,
    check, and_self, if_true]
  exact ⟨_, rfl⟩

/-! ### Releasing an open reservation -/

/-- The guards that can still refuse a release: the versions of the rows can be raised, the
fingerprint payload fits, and a subscription holds the amount to give back. -/
structure Releasable (db : DB) (h : Head) (phase : TerminalPhase) (input : TerminalInput) : Prop where
  versions : Raisable db h
  payload : ∀ c, db.receipts.get? h.currentReceiptID = some c →
    (terminalPayload input phase h c).jsonSize ≤ accountQuotaMutationMaxContextBytes
  covered : h.billingSource = .subscription →
    ∀ s, db.subscriptions.get? h.subscriptionID = some s →
      h.appliedQuota - input.actualQuota ≤ s.amountUsed

/-- A ledger as the reachable worlds have it, with an open reservation and its obligation. -/
structure OpenReservation (db : DB) (h : Head) (o : Obligation) : Prop where
  wf : WF db
  gate : GateOk db
  rows : RowsOk db h
  capped : Capped db h
  nonneg : RequestsNonneg db
  head : h ∈ db.heads.rows
  unsettled : h.terminalReceiptID = 0
  obligation : o ∈ db.obligations.rows
  requestID : o.requestID = h.requestID
  isOpen : o.state = .open
  dispatch : textDispatchPending o.reviewMetadata = .ok false

theorem requestKey_ne_empty (requestID tail : String) : requestKey requestID tail ≠ "" := by
  intro h
  have := congrArg String.toList h
  simp [requestKey] at this

/-- The versions behind a successful lock can be raised. -/
theorem LockGuards.raisable (g : LockGuards db ctx l) : Raisable db l.head := by
  refine ⟨?_, ?_, ?_⟩
  · intro u hu
    cases g.userRow.symm.trans hu
    exact g.userVersion
  · intro t ht
    cases g.tokenRow.symm.trans ht
    exact g.tokenVersion
  · intro s hs
    rcases lockSubscription_eq_ok.mp g.subRow with ⟨-, x, hx, hsub⟩ | ⟨hpos, -⟩
    · obtain rfl := Option.some.inj (hx.symm.trans hs)
      exact (g.subValid x hsub).2
    · exact absurd (get?_bounds hs).1 hpos

section

variable (hr : OpenReservation db h o)
include hr

/-- The receipt of a release passes its create hook and both unique indexes. -/
theorem OpenReservation.recordable (hctx : ctx.Ok)
    (g : LockGuards db ctx l) (hl : l.head = h) (env : TxEnv) :
    Recordable db (terminalStored db env ctx l) := by
  have hcurrent := hr.wf.receipt l.current (get?_mem g.currentRow)
  have hreq : ctx.input.requestID = h.requestID := by
    rw [← hl]
    exact (headFind_mem g.headRow).2.symm
  obtain ⟨-, hdigest⟩ := accountQuotaFingerprint_eq_ok.mp g.fingerprint
  refine ⟨rfl, rfl, hcurrent.writerEpoch, hctx.requestID, requestKey_ne_empty _ _, ?_, ?_, ?_,
    hcurrent.userID, hcurrent.tokenID, ?_⟩
  · show accountQuotaMutationSlot ctx.input.requestID ctx.phase.toPhase ≠ ""
    rw [accountQuotaMutationSlot_terminal _ ctx.phase.terminal]
    exact requestKey_ne_empty _ _
  · show l.head.reserveFingerprint.length = 64
    rw [← g.current_matches.reserveFingerprint]
    exact hcurrent.reserveFingerprint
  · show l.fingerprint.length = 64
    rw [hdigest]
    rfl
  · intro x hx
    show x.eventKey ≠ accountQuotaEventKey ctx.input.requestID ctx.phase.toPhase ∧
      x.mutationSlot ≠ accountQuotaMutationSlot ctx.input.requestID ctx.phase.toPhase
    rw [hreq]
    exact hr.wf.terminal_fresh hr.head hr.unsettled ctx.phase x hx

/-- The open obligation admits every settle and refund. -/
theorem OpenReservation.admission (hok : ObligationOk db h o)
    (input : TerminalInput) (phase : TerminalPhase) : closeAdmission o h input phase = .ok () := by
  have hfp := hok.opened hr.isOpen
  cases phase with
  | settle => exact check_pos ⟨hr.isOpen, hfp⟩ _
  | refund =>
    simp only [closeAdmission, hr.dispatch, ok_bind, check_pos trivial, if_pos hr.isOpen,
      check_pos hfp]

/-- The guards of a writing release hold. -/
theorem OpenReservation.guards (hctx : ctx.Ok)
    (g : LockGuards db ctx l) (hl : l.head = h)
    (hc : Chargeable l.user l.token l.subscription (terminalDeltas ctx l)) (env : TxEnv) :
    TerminalGuards db env ctx l o := by
  have hrec := hr.recordable hctx g hl env
  obtain ⟨x, hx, hxo⟩ := (hr.wf.head h hr.head).obligation
  obtain rfl := hr.wf.obligationUnique x hx o hr.obligation (hxo.requestID.trans hr.requestID.symm)
  obtain ⟨st, -, -, -, hproj, -⟩ := hr.gate.gates hr.wf hr.head
  subst hl
  refine ⟨g, ?_, hr.unsettled, hc, ?_, hrec, ?_, ⟨hxo.writerEpoch, hxo.lockVersion⟩,
    hr.admission hxo _ _⟩
  · exact eventFind_none.mpr (fun r hm => (hrec.fresh r hm).1)
  · rw [g.current_matches.writerEpoch]
    exact hproj
  · rw [← hr.requestID]
    exact find?_of_unique hr.wf.obligationUnique hr.obligation

end

/-- Versions stay nonnegative under a charge. -/
theorem chargedSnapshot_versions (s : Option UserSubscription) (d : AccountQuotaDeltas) (now : Int)
    (hu : 0 ≤ u.quotaVersion) (ht : 0 ≤ t.quotaVersion) :
    0 ≤ (chargedSnapshot u t s d now).user.quotaVersion ∧
      0 ≤ (chargedSnapshot u t s d now).token.quotaVersion := by
  constructor
  · show 0 ≤ (u.charge d).quotaVersion
    unfold User.charge
    dsimp only
    split <;> omega
  · show 0 ≤ (t.charge d now).quotaVersion
    unfold Token.charge
    split
    · exact ht
    · dsimp only
      omega

/-- Every projection row points to an older receipt with another event key. -/
theorem WF.projection_fresh (hw : WF db) (hrec : Recordable db r) :
    ∀ p ∈ db.projections.rows, p.receiptID ≠ db.receipts.nextId ∧ p.eventKey ≠ r.eventKey := by
  intro p hp
  obtain ⟨x, hget, hkey⟩ := hw.projection p hp
  have hlt := (get?_bounds hget).2
  constructor
  · omega
  · rw [← hkey]
    exact (hrec.fresh x (get?_mem hget)).1

/-- A release under its guards commits. -/
theorem OpenReservation.commits (hr : OpenReservation db h o) (hctx : ctx.Ok)
    (g : LockGuards db ctx l) (hl : l.head = h)
    (hc : Chargeable l.user l.token l.subscription (terminalDeltas ctx l)) (env : TxEnv) :
    ∃ db' r, terminalTx db env ctx = .ok (db', r) := by
  have hg := hr.guards hctx g hl hc env
  have hversion := chargedSnapshot_versions l.subscription (terminalDeltas ctx l) env.now
    g.userVersion.1 g.tokenVersion.1
  have hfresh := hr.wf.projection_fresh hg.recordable
  obtain ⟨db', hdb'⟩ := @ensureProjection_fresh (terminalResult db env ctx l o) _ db.receipts.pos
    hg.recordable.eventKey hg.recordable.userID hversion.1 hversion.2 hfresh
  exact ⟨db', terminalStored db env ctx l, terminalTx_of_guards hg hdb'⟩

/-- The transaction of a release commits exactly when the remaining guards pass. -/
theorem OpenReservation.release_iff (hr : OpenReservation db h o) (hctx : ctx.Ok)
    (hreq : ctx.input.requestID = h.requestID)
    (hchain : accountQuotaReceiptInChain db h ctx.input.reserveReceiptID = .ok true)
    (hle : ctx.input.actualQuota ≤ h.appliedQuota) (env : TxEnv) :
    (∃ db' r, terminalTx db env ctx = .ok (db', r)) ↔ Releasable db h ctx.phase ctx.input := by
  obtain ⟨c, hcur, -, -⟩ := (hr.wf.head h hr.head).current
  -- under raisable versions and a fitting payload the locked rows are those of the reservation
  have hlock : Raisable db h →
      (terminalPayload ctx.input ctx.phase h c).jsonSize ≤ accountQuotaMutationMaxContextBytes →
      ∃ l, LockGuards db ctx l ∧ l.head = h ∧ LockedInRange l := by
    intro hv hsize
    obtain ⟨l, g, hl, -, -, hu, ht, hs⟩ := lockGuards_of_reservation hr.wf hr.gate hr.rows hr.head hreq
      hv hchain hcur (accountQuotaFingerprint_eq_ok.mpr ⟨hsize, rfl⟩)
    exact ⟨l, g, hl, hu, ht, fun hsrc => hs (hl ▸ hsrc)⟩
  have hcharge : ∀ l, LockGuards db ctx l → l.head = h → LockedInRange l →
      (Chargeable l.user l.token l.subscription (terminalDeltas ctx l) ↔
        (h.billingSource = .subscription → ∀ x, l.subscription = some x →
          h.appliedQuota - ctx.input.actualQuota ≤ x.amountUsed)) := by
    intro l g hl hin
    subst hl
    exact release_chargeable_iff hr.wf hr.nonneg g hctx hin hr.head hr.unsettled hr.capped hle
  constructor
  · rintro ⟨db', r, htx⟩
    rcases terminalTx_ok htx with ⟨-, l, g, hm, hkey, -⟩ | ⟨l, o', ps, g, -⟩
    · -- an open reservation has nothing to replay
      rw [TerminalCtx.eventKey, hreq] at hkey
      exact absurd hkey (hr.wf.terminal_fresh hr.head hr.unsettled ctx.phase r hm).1
    · have hl : l.head = h := by
        obtain ⟨hm, hid⟩ := headFind_mem g.lock.headRow
        exact hr.wf.head_unique hm hr.head (hid.trans hreq)
      have hv : Raisable db h := hl ▸ g.lock.raisable
      have hcur' : l.current = c := by
        have := g.lock.currentRow
        rw [hl, hcur] at this
        exact (Option.some.inj this).symm
      have hsize := (accountQuotaFingerprint_eq_ok.mp g.lock.fingerprint).1
      rw [hl, hcur'] at hsize
      obtain ⟨l', g', hl', hin⟩ := hlock hv hsize
      obtain rfl : l = l' := Except.ok.inj
        ((terminalLock_eq_ok.mpr g.lock).symm.trans (terminalLock_eq_ok.mpr g'))
      refine ⟨hv, ?_, ?_⟩
      · intro c' hc'
        cases hcur.symm.trans hc'
        exact hsize
      · intro hsrc s hs
        apply (hcharge l g.lock hl hin).mp g.chargeable hsrc s
        rcases lockSubscription_eq_ok.mp g.lock.subRow with ⟨-, x, hx, hsub⟩ | ⟨hpos, -⟩
        · rw [hl] at hx
          cases hx.symm.trans hs
          exact hsub
        · rw [hl] at hpos
          exact absurd (get?_bounds hs).1 hpos
  · intro hrel
    obtain ⟨l, g, hl, hin⟩ := hlock hrel.versions (hrel.payload c hcur)
    apply hr.commits hctx g hl _ env
    apply (hcharge l g hl hin).mpr
    intro hsrc x hx
    have hrow := lockSubscription_stored g.subRow x hx
    rw [hl] at hrow
    exact hrel.covered hsrc x (hrow.2 ▸ hrow.1)

/-! ### Releasing calls -/

/-- The call is a settle or refund with the normalised input `norm`. -/
inductive Ends : CallInput → TerminalPhase → TerminalInput → Prop
  | settle {input norm : TerminalInput}
      (hn : normalizeAccountTerminalInput input .settle = .ok norm) : Ends (.settle input) .settle norm
  | refund {input norm : TerminalInput}
      (hn : normalizeAccountTerminalInput { input with actualQuota := 0 } .refund = .ok norm) :
      Ends (.refund input) .refund norm

theorem Ends.ctx_ok (h : Ends input phase norm) (f : Fingerprint) :
    TerminalCtx.Ok ⟨phase, norm, f⟩ := by
  cases h with
  | settle hn => exact settleCtx_ok hn
  | refund hn => exact refundCtx_ok hn

/-- The first reads of a release go on to the transaction when the payload fits. -/
theorem OpenReservation.precheck {input : TerminalInput} (hr : OpenReservation db h o)
    (hn : normalizeAccountTerminalInput input phase = .ok norm)
    (hreq : norm.requestID = h.requestID) (hc : db.receipts.get? h.currentReceiptID = some c)
    (hsize : (terminalPayload norm phase h c).jsonSize ≤ accountQuotaMutationMaxContextBytes) :
    terminalPrecheck db phase input =
      .ok (.go ⟨phase, norm, (terminalPayload norm phase h c).digest⟩) := by
  obtain ⟨c', hc', hm, -⟩ := (hr.wf.head h hr.head).current
  cases hc.symm.trans hc'
  obtain ⟨st, hgate, -⟩ := hr.gate.gates hr.wf hr.head
  have hfind : findAccountQuotaReservationHead db norm.requestID = .ok h := by
    rw [hreq]
    exact findHead_eq_ok.mpr (hr.wf.find_head hr.head)
  have hfp := accountQuotaFingerprint_eq_ok.mpr ⟨hsize, rfl⟩
  have hreplay : accountQuotaReplay db (accountQuotaEventKey norm.requestID phase.toPhase)
      (terminalPayload norm phase h c).digest = .ok none := by
    refine replay_eq_ok.mpr (.inl ⟨rfl, eventFind_none.mpr ?_⟩)
    intro r hm
    rw [hreq]
    exact (hr.wf.terminal_fresh hr.head hr.unsettled phase r hm).1
  simp only [terminalPrecheck, hn, ok_bind, hgate, hfind, hc, need_some,
    validateAccountQuotaHeadReceipt, check_pos hm, accountQuotaTerminalFingerprint,
    check_pos (And.intro hm.id hm.reserveFingerprint), hfp, hreplay]
  rfl

theorem OpenReservation.callPrecheck (hr : OpenReservation db h o) (he : Ends input phase norm)
    (hreq : norm.requestID = h.requestID) (hc : db.receipts.get? h.currentReceiptID = some c)
    (hsize : (terminalPayload norm phase h c).jsonSize ≤ accountQuotaMutationMaxContextBytes) :
    Ledger.callPrecheck db input =
      .ok (.go (.terminal ⟨phase, norm, (terminalPayload norm phase h c).digest⟩)) := by
  cases he with
  | settle hn | refund hn => rw [Ledger.callPrecheck, hr.precheck hn hreq hc hsize]; rfl

variable {ctx : CallCtx}

/-- What the first reads of a settle or refund captured. -/
theorem Ends.captured (he : Ends input phase norm) (hcap : Captured db input ctx) :
    ∃ f, ctx = .terminal ⟨phase, norm, f⟩ := by
  cases he with
  | settle hn =>
    cases hcap with
    | settle h c hn' =>
      cases hn.symm.trans hn'
      exact ⟨_, rfl⟩
  | refund hn =>
    cases hcap with
    | refund h c hn' =>
      cases hn.symm.trans hn'
      exact ⟨_, rfl⟩

variable {i : Nat}

/-- The two steps of a call that meets no failure of the database. -/
theorem run_call_twice (env : TxEnv)
    (hcall : w.calls[i]? = some ⟨input, .ready⟩) (hpre : callPrecheck w.db input = .ok (.go ctx)) :
    run World.step w [.precheck i, .transact i env .respond] =
      some ((w.setCall i ⟨input, .attempt ctx 0⟩).transact i input ctx 0 env .respond) := by
  have hset : (w.setCall i ⟨input, .attempt ctx 0⟩).calls[i]? = some ⟨input, .attempt ctx 0⟩ :=
    List.getElem?_set_self (List.getElem?_eq_some_iff.mp hcall).1
  have hfirst : w.step (.precheck i) = some (w.setCall i ⟨input, .attempt ctx 0⟩) := by
    simp only [step, hcall, hpre]
    rfl
  have hsecond : (w.setCall i ⟨input, .attempt ctx 0⟩).step (.transact i env .respond) =
      some ((w.setCall i ⟨input, .attempt ctx 0⟩).transact i input ctx 0 env .respond) := by
    simp only [step, hset]
  rw [run_cons, hfirst, Option.bind_some, run_cons, hsecond]
  rfl

/-- A call that its first reads answered or refused has no transaction. -/
theorem run_call_once (env : TxEnv) (hcall : w.calls[i]? = some ⟨input, .ready⟩)
    (hpre : ∀ ctx, callPrecheck w.db input ≠ .ok (.go ctx)) :
    run World.step w [.precheck i, .transact i env .respond] = none := by
  obtain ⟨r, hr⟩ : ∃ r, CallState.afterPrecheck (callPrecheck w.db input) = .returned r := by
    cases hp : callPrecheck w.db input with
    | error e => exact ⟨.error e, rfl⟩
    | ok p =>
      cases p with
      | done r => exact ⟨.ok r, rfl⟩
      | go ctx => exact absurd hp (hpre ctx)
  have hset : (w.setCall i ⟨input, .returned r⟩).calls[i]? = some ⟨input, .returned r⟩ :=
    List.getElem?_set_self (List.getElem?_eq_some_iff.mp hcall).1
  have hfirst : w.step (.precheck i) = some (w.setCall i ⟨input, .returned r⟩) := by
    simp only [step, hcall, hr]
  rw [run_cons, hfirst, Option.bind_some, run_cons]
  simp only [step, hset, Option.bind_none]

/-- Release. In every reachable world an open reservation whose obligation is open and waits for no
dispatch can be refunded with every in-chain receipt id, and settled with every actual quota up to
the applied one, exactly when the remaining guards pass. -/
theorem reservation_release {w₀ w : World} (hr : w₀.ReachableFrom w) {h : Head} {o : Obligation}
    (hh : h ∈ w.db.heads.rows) (hopen : h.terminalReceiptID = 0) (ho : o ∈ w.db.obligations.rows)
    (hor : o.requestID = h.requestID) (hstate : o.state = .open)
    (hdispatch : textDispatchPending o.reviewMetadata = .ok false) {i : Nat} {input : CallInput}
    {phase : TerminalPhase} {norm : TerminalInput} (hcall : w.calls[i]? = some ⟨input, .ready⟩)
    (he : Ends input phase norm) (hreq : norm.requestID = h.requestID)
    (hchain : accountQuotaReceiptInChain w.db h norm.reserveReceiptID = .ok true)
    (hle : norm.actualQuota ≤ h.appliedQuota) (env : TxEnv) :
    (∃ w' r, run World.step w [.precheck i, .transact i env .respond] = some w' ∧
        w'.calls[i]? = some ⟨input, .returned (.ok r)⟩) ↔ Releasable w.db h phase norm := by
  have hok := hr.ok
  have hres : OpenReservation w.db h o := ⟨hok.wf, hr.gate, hr.rows h hh, hr.capped h hh,
    hr.requestsNonneg, hh, hopen, ho, hor, hstate, hdispatch⟩
  have hiff : ∀ f, (∃ db' r, terminalTx w.db env ⟨phase, norm, f⟩ = .ok (db', r)) ↔
      Releasable w.db h phase norm :=
    fun f => hres.release_iff (he.ctx_ok f) hreq hchain hle env
  have hbound : i < w.calls.length := (List.getElem?_eq_some_iff.mp hcall).1
  constructor
  · rintro ⟨w', r, hrun, hret⟩
    by_cases hgo : ∃ ctx, callPrecheck w.db input = .ok (.go ctx)
    · obtain ⟨ctx, hpre⟩ := hgo
      have hcap := callPrecheck_ok hok.wf input
      rw [hpre] at hcap
      obtain ⟨f, rfl⟩ := he.captured hcap
      rw [run_call_twice env hcall hpre, Option.some.injEq] at hrun
      cases htx : terminalTx w.db env ⟨phase, norm, f⟩ with
      | ok p => exact (hiff f).mp ⟨p.1, p.2, htx⟩
      | error e =>
        -- the failed attempt left the call before its readback
        have hfail : callTx w.db env (.terminal ⟨phase, norm, f⟩) = .error e := by
          rw [callTx, htx]
          rfl
        rw [← hrun] at hret
        simp only [transact, setCall, hfail, set_set,
          getElem?_set_self hbound] at hret
        cases hret
    · rw [run_call_once env hcall (fun ctx hp => hgo ⟨ctx, hp⟩)] at hrun
      cases hrun
  · intro hrel
    obtain ⟨c, hc, -, -⟩ := (hok.wf.head h hh).current
    obtain ⟨db', r, htx⟩ := (hiff (terminalPayload norm phase h c).digest).mpr hrel
    have hcommit : callTx w.db env (.terminal ⟨phase, norm, (terminalPayload norm phase h c).digest⟩) =
        .ok (db', r, []) := by
      rw [callTx, htx]
      rfl
    refine ⟨_, r, run_call_twice env hcall (hres.callPrecheck he hreq hc (hrel.payload c hc)), ?_⟩
    simp only [transact, setCall, hcommit, commit, set_set,
      getElem?_set_self hbound]

/-- A reservation of 10 on the subscription, and a refund of it that has not begun. -/
def refundRun : List Action :=
  smoothCall 0 (.reserve { requestID := "r1", userID := 1, tokenID := 1, requestedQuota := 10
                           billingPreference := "subscription_only" }) 200000 ++
  [.start (.refund { requestID := "r1", reserveReceiptID := 1, auditKey := "timeout" })]

/-- The two steps of the refund in `refundRun`. -/
def refundSteps : List Action := [.precheck 1, .transact 1 (plainEnv 200001) .respond]

theorem reservation_release_refundRun :
    plainWorld.ReachableFrom (plainRun refundRun) ∧
      ∃ h ∈ (plainRun refundRun).db.heads.rows, Releasable (plainRun refundRun).db h .refund
        { requestID := "r1", reserveReceiptID := 1, auditKey := "timeout" } := by
  have hrun : (run step plainWorld refundRun).isSome = true ∧
      (∃ h ∈ (plainRun refundRun).db.heads.rows, ∃ o ∈ (plainRun refundRun).db.obligations.rows,
        h.terminalReceiptID = 0 ∧ o.requestID = h.requestID ∧ o.state = .open ∧
        textDispatchPending o.reviewMetadata = .ok false ∧ "r1" = h.requestID ∧
        accountQuotaReceiptInChain (plainRun refundRun).db h 1 = .ok true ∧ 0 ≤ h.appliedQuota) ∧
      (plainRun refundRun).calls[1]? =
        some ⟨.refund { requestID := "r1", reserveReceiptID := 1, auditKey := "timeout" }, .ready⟩ ∧
      (run step (plainRun refundRun) refundSteps).isSome = true ∧
      ∃ r ∈ (plainRun (refundRun ++ refundSteps)).db.receipts.rows,
        ((run step (plainRun refundRun) refundSteps).getD plainWorld).calls[1]? =
          some ⟨.refund { requestID := "r1", reserveReceiptID := 1, auditKey := "timeout" },
            .returned (.ok r)⟩ := by decide +kernel
  obtain ⟨hsome, ⟨h, hh, o, ho, hopen, hor, hstate, hdisp, hreq, hchain, hle⟩, hcall, hstep, r, -, hr⟩ :=
    hrun
  have hreach := plainRun_reachable hsome
  obtain ⟨w', hw'⟩ := Option.isSome_iff_exists.mp hstep
  rw [hw'] at hr
  exact ⟨hreach, h, hh, (reservation_release hreach hh hopen ho hor hstate hdisp hcall
    (.refund rfl) hreq hchain hle (plainEnv 200001)).mp ⟨w', r, hw', hr⟩⟩

/-- The refund in `refundRun` behind an admin reset of the subscription. -/
def resetRun : List Action := refundRun ++ [.adminReset (plainEnv 200001) 1 false]

/-- All steps of the refund when its transaction fails. -/
def failedRefund : List Action :=
  refundSteps ++ [.readback 1 .answered false, .fallback 1 true]

/-- The used amount is not allowed to become negative: after a reset of its subscription an open
reservation with an open obligation cannot be refunded. -/
theorem refund_after_reset_refused :
    ∃ w w', plainWorld.ReachableFrom w ∧
      (∃ h ∈ w.db.heads.rows, ∃ o ∈ w.db.obligations.rows, h.terminalReceiptID = 0 ∧
        o.requestID = h.requestID ∧ o.state = .open ∧
        textDispatchPending o.reviewMetadata = .ok false ∧ "r1" = h.requestID ∧
        accountQuotaReceiptInChain w.db h 1 = .ok true) ∧
      run World.step w failedRefund = some w' ∧
      w'.calls[1]? = some ⟨.refund { requestID := "r1", reserveReceiptID := 1
                                     auditKey := "timeout" }, .returned (.error .ineligible)⟩ := by
  have hrun : (run step plainWorld resetRun).isSome = true ∧
      (∃ h ∈ (plainRun resetRun).db.heads.rows, ∃ o ∈ (plainRun resetRun).db.obligations.rows,
        h.terminalReceiptID = 0 ∧ o.requestID = h.requestID ∧ o.state = .open ∧
        textDispatchPending o.reviewMetadata = .ok false ∧ "r1" = h.requestID ∧
        accountQuotaReceiptInChain (plainRun resetRun).db h 1 = .ok true) ∧
      (run step (plainRun resetRun) failedRefund).isSome = true ∧
      ((run step (plainRun resetRun) failedRefund).getD plainWorld).calls[1]? =
        some ⟨.refund { requestID := "r1", reserveReceiptID := 1, auditKey := "timeout" },
          .returned (.error .ineligible)⟩ := by decide +kernel
  obtain ⟨hsome, hhead, hstep, hcall⟩ := hrun
  obtain ⟨w', hw'⟩ := Option.isSome_iff_exists.mp hstep
  rw [hw'] at hcall
  exact ⟨plainRun resetRun, w', plainRun_reachable hsome, hhead, hw', hcall⟩

end MyApiSpec.Ledger
