import MyApiSpec.Ledger.Rows

/-!
# One terminal receipt per reservation

What holds once a head points to its terminal receipt, in every interleaving: the head never
changes again, no call of the request moves a balance, a repetition of the terminal call gets
the stored receipt, and every other settle, refund or raising extension ends with an error.
That a call ends at all rests on the bound of its transaction loop.
-/

namespace MyApiSpec.Ledger

open Base List Table World CallState

/-! ### The number of steps of a call -/

variable {w w' : World} {i : Nat} {input : CallInput} {a : Action} {c : Call} {db db' : DB}
  {h : Head} {r t : Receipt} {phase : TerminalPhase}

/-- The call whose progress an action is. -/
def Action.caller : Action → Option Nat
  | .precheck i => some i
  | .precheckFail i => some i
  | .transact i _ _ => some i
  | .readback i _ _ => some i
  | .cancel i => some i
  | .fallback i _ => some i
  | _ => none

/-- A bound on the steps a call still takes: an attempt and a readback in each round of the
transaction loop, the first reads before it and the last lookup behind it. -/
def CallState.stepsLeft : CallState → Nat
  | .ready => 2 * accountQuotaSQLiteTransactionAttempts + 4
  | .attempt _ n => 2 * (accountQuotaSQLiteTransactionAttempts - n) + 3
  | .readback _ n _ => 2 * (accountQuotaSQLiteTransactionAttempts - n) + 2
  | .failed _ _ => 1
  | .returned _ => 0

theorem afterPrecheck_stepsLeft (r : Except LedgerError (Precheck CallCtx)) :
    (CallState.afterPrecheck r).stepsLeft < CallState.ready.stepsLeft := by
  rcases r with e | r | ctx <;> simp [afterPrecheck, stepsLeft]

theorem giveUp_stepsLeft (ctx : CallCtx) (e : LedgerError) :
    (CallState.giveUp ctx e).stepsLeft ≤ 1 := by
  cases ctx <;> simp [giveUp, stepsLeft]

theorem retry_stepsLeft (ctx ctx' : CallCtx) (n : Nat) (e e' : LedgerError) (busy : Bool) :
    (CallState.retry ctx n e busy).stepsLeft < (CallState.readback ctx' n e').stepsLeft := by
  have hgive := giveUp_stepsLeft ctx e
  unfold retry
  split
  · next h =>
    simp only [stepsLeft]
    omega
  · simp only [stepsLeft] at hgive ⊢
    omega

theorem afterReadback_stepsLeft (db : DB) (ctx : CallCtx) (n : Nat) (e : LedgerError)
    (read : ReadOutcome) (busy : Bool) :
    (CallState.afterReadback db ctx n e read busy).stepsLeft <
      (CallState.readback ctx n e).stepsLeft := by
  have hretry := retry_stepsLeft ctx ctx n e e busy
  have hgive : ∀ e', (giveUp ctx e').stepsLeft < (readback ctx n e).stepsLeft := by
    intro e'
    have := giveUp_stepsLeft ctx e'
    simp only [stepsLeft] at this ⊢
    omega
  unfold afterReadback
  by_cases hblank : ctx.fingerprint = .blank
  · rw [if_pos hblank]
    exact hretry
  rw [if_neg hblank]
  cases read with
  | failed => exact hgive _
  | locked => exact hretry
  | answered =>
    cases accountQuotaReplay db ctx.eventKey ctx.fingerprint with
    | error e' => exact hgive e'
    | ok o =>
      cases o with
      | none => exact hretry
      | some r => simp [stepsLeft]

variable {ctx : CallCtx}

/-- After an attempt the call has returned or reads its event back. -/
theorem transact_call {n : Nat} (env : TxEnv) (outcome : TxOutcome) :
    ∃ s db log, (w.transact i input ctx n env outcome) = (w.commit db log).setCall i ⟨input, s⟩ ∧
      s.stepsLeft < (CallState.attempt ctx n).stepsLeft := by
  have hread : ∀ c e, (readback c n e).stepsLeft < (attempt ctx n).stepsLeft := by
    intro c e
    simp [stepsLeft]
  have hret : ∀ r, (returned r).stepsLeft < (attempt ctx n).stepsLeft := by
    intro r
    simp [stepsLeft]
  have hstay : w = w.commit w.db [] := by simp [commit]
  unfold transact
  cases outcome with
  | abort locked => exact ⟨_, w.db, [], by rw [← hstay], hread _ _⟩
  | respond =>
    cases callTx w.db env ctx with
    | error e => exact ⟨_, w.db, [], by rw [← hstay], hread _ _⟩
    | ok p => exact ⟨_, p.1, p.2.2, rfl, hret _⟩
  | loseResponse =>
    cases callTx w.db env ctx with
    | error e => exact ⟨_, w.db, [], by rw [← hstay], hread _ _⟩
    | ok p => exact ⟨_, p.1, p.2.2, rfl, hread _ _⟩

@[simp]
theorem World.attempt_calls (w : World) (r : Except LedgerError DB) : (w.attempt r).calls = w.calls := by
  cases r <;> rfl

@[simp]
theorem World.reset_calls (w : World) (r : Except LedgerError (Table UserSubscription × ResetLog)) :
    (w.reset r).calls = w.calls := by
  rcases r with e | ⟨subs, log⟩ <;> rfl

/-- A step is the progress of one call, or it leaves every call where it is. -/
theorem World.step_calls (h : w.step a = some w') :
    (∃ j input st s, a.caller = some j ∧ w.calls[j]? = some ⟨input, st⟩ ∧
        w'.calls = w.calls.set j ⟨input, s⟩ ∧ s.stepsLeft < st.stepsLeft) ∨
      (a.caller = none ∧ ∃ extra, w'.calls = w.calls ++ extra) := by
  cases a with
  | start input =>
    cases h
    exact .inr ⟨rfl, _, rfl⟩
  | precheck j =>
    simp only [step] at h
    split at h <;> cases h
    next input hj => exact .inl ⟨j, input, .ready, _, rfl, hj, rfl, afterPrecheck_stepsLeft _⟩
  | precheckFail j =>
    simp only [step] at h
    split at h <;> cases h
    next input hj => exact .inl ⟨j, input, .ready, _, rfl, hj, rfl, by simp [stepsLeft]⟩
  | transact j env outcome =>
    simp only [step] at h
    split at h <;> cases h
    next input ctx n hj =>
      obtain ⟨s, db, log, he, hlt⟩ := transact_call (w := w) (i := j) (n := n) env outcome
      rw [he]
      exact .inl ⟨j, input, .attempt ctx n, s, rfl, hj, rfl, hlt⟩
  | readback j read busy =>
    simp only [step] at h
    split at h <;> cases h
    next input ctx n e hj =>
      exact .inl ⟨j, input, .readback ctx n e, _, rfl, hj, rfl, afterReadback_stepsLeft ..⟩
  | cancel j =>
    simp only [step] at h
    split at h <;> cases h
    next input ctx n hj =>
      refine .inl ⟨j, input, .attempt ctx (n + 1), _, rfl, hj, rfl, ?_⟩
      have := giveUp_stepsLeft ctx .database
      simp only [stepsLeft] at this ⊢
      omega
  | fallback j found =>
    simp only [step] at h
    split at h <;> cases h
    next input ctx e hj =>
      exact .inl ⟨j, input, .failed ctx e, _, rfl, hj, rfl, by simp [stepsLeft]⟩
  | refundIntent | manualEvidence | dispatchEvidence | periodReset | adminReset =>
    cases h
    exact .inr ⟨rfl, [], by simp⟩
  | validate | markManual =>
    simp only [step] at h
    split at h <;> cases h
    exact .inr ⟨rfl, [], by simp [setWorker]⟩
  | scan | claim | finish =>
    simp only [step] at h
    split at h
    · split at h <;> cases h <;> exact .inr ⟨rfl, [], by simp [setWorker, commit]⟩
    · cases h
  | reread k =>
    simp only [step] at h
    split at h
    · split at h <;> cases h
      · exact .inr ⟨rfl, _, rfl⟩
      · exact .inr ⟨rfl, [], (append_nil _).symm⟩
    · cases h

variable {actions : List Action}

/-- Over a run, a call keeps its input and uses up one of its steps with each of its own actions. -/
theorem run_call (hrun : run World.step w actions = some w')
    (hc : w.calls[i]? = some c) :
    ∃ s, w'.calls[i]? = some ⟨c.input, s⟩ ∧
      actions.countP (fun a => a.caller = some i) + s.stepsLeft ≤ c.state.stepsLeft := by
  -- induction over the run; every step is one of the two cases of `step_calls`
  induction actions generalizing w c with
  | nil =>
    cases hrun
    exact ⟨c.state, hc, by simp⟩
  | cons a actions ih =>
    obtain ⟨v, hstep, hrest⟩ := run_cons_eq_some.mp hrun
    rcases step_calls hstep with ⟨j, input, st, s, hcaller, hj, hset, hlt⟩ | ⟨hcaller, extra, happ⟩
    · by_cases hij : j = i
      · subst hij
        cases hj.symm.trans hc
        have hbound : j < w.calls.length := (List.getElem?_eq_some_iff.mp hj).1
        have hv : v.calls[j]? = some ⟨input, s⟩ := by
          rw [hset, getElem?_set_self hbound]
        obtain ⟨s', hs', hcount⟩ := ih hrest hv
        refine ⟨s', hs', ?_⟩
        rw [countP_cons_of_pos (by simp [hcaller])]
        simp only at hcount ⊢
        omega
      · have hv : v.calls[i]? = some c := by
          rw [hset, getElem?_set_ne hij]
          exact hc
        obtain ⟨s', hs', hcount⟩ := ih hrest hv
        refine ⟨s', hs', ?_⟩
        rw [countP_cons_of_neg (by simp [hcaller, hij])]
        exact hcount
    · have hv : v.calls[i]? = some c := by
        rw [happ, List.getElem?_append_left (List.getElem?_eq_some_iff.mp hc).1]
        exact hc
      obtain ⟨s', hs', hcount⟩ := ih hrest hv
      refine ⟨s', hs', ?_⟩
      rw [countP_cons_of_neg (by simp [hcaller])]
      exact hcount

/-- A call that has not returned has a next step. -/
theorem call_enabled (hc : w.calls[i]? = some c) (hopen : ∀ r, c.state ≠ .returned r) (env : TxEnv) :
    ∃ a, a.caller = some i ∧ (w.step a).isSome = true := by
  obtain ⟨input, st⟩ := c
  cases st with
  | ready => exact ⟨.precheck i, rfl, by simp [step, hc]⟩
  | attempt ctx n => exact ⟨.transact i env .respond, rfl, by simp [step, hc]⟩
  | readback ctx n e => exact ⟨.readback i .answered false, rfl, by simp [step, hc]⟩
  | failed ctx e => exact ⟨.fallback i true, rfl, by simp [step, hc]⟩
  | returned r => exact absurd rfl (hopen r)

/-! ### What a step does to the database -/

/-- A step moves an obligation or nothing, commits the transaction of a call, or resets a
subscription. -/
theorem World.Ok.step_db (hok : w.Ok) (h : w.step a = some w') :
    MovesObligation w.db w'.db ∨
      (∃ i env outcome input ctx n r log, a = .transact i env outcome ∧
        w.calls[i]? = some ⟨input, .attempt ctx n⟩ ∧ callTx w.db env ctx = .ok (w'.db, r, log)) ∨
      (∃ env id, a = .periodReset env id) ∨ ∃ env id advance, a = .adminReset env id advance := by
  have hattempt : ∀ r : Except LedgerError DB, (∀ db, r = .ok db → MovesObligation w.db db) →
      MovesObligation w.db (w.attempt r).db := by
    intro r hr
    cases r with
    | error e => exact .inl rfl
    | ok db => exact hr db rfl
  cases a with
  | start input =>
    cases h
    exact .inl (.inl rfl)
  | precheck | precheckFail | readback | cancel | fallback | validate =>
    simp only [World.step] at h
    split at h <;> cases h
    exact .inl (.inl rfl)
  | transact i env outcome =>
    simp only [World.step] at h
    split at h <;> cases h
    next input ctx n hi =>
      cases htx : callTx w.db env ctx with
      | error e =>
        left
        left
        cases outcome <;> simp [World.transact, htx, World.setCall]
      | ok p =>
        cases outcome with
        | abort locked => exact .inl (.inl rfl)
        | respond | loseResponse =>
          refine .inr (.inl ⟨i, env, _, input, ctx, n, p.2.1, p.2.2, rfl, hi, ?_⟩)
          simp only [World.transact, htx]
          rfl
  | refundIntent input hasCause =>
    cases h
    exact .inl (hattempt _ (fun _ => refundIntent_moves))
  | manualEvidence input =>
    cases h
    exact .inl (hattempt _ (fun _ => manualEvidence_moves))
  | dispatchEvidence requestID userID tokenID reserveID evidence =>
    cases h
    exact .inl (hattempt _ (fun _ => dispatchEvidence_moves))
  | scan workerID now id =>
    simp only [World.step] at h
    split at h
    · split at h <;> cases h
      exact .inl (.inl rfl)
    · cases h
  | markManual k =>
    simp only [World.step] at h
    split at h <;> cases h
    next candidate hk =>
      have hc : WorkerOk (.invalid candidate) := hok.workers _ (mem_of_getElem? hk)
      exact .inl (hattempt _ (fun _ hdb => markManual_moves hc (need_eq_ok.mp hdb)))
  | claim k answered =>
    simp only [World.step] at h
    split at h
    · split at h <;> cases h
      · next db hdb => exact .inl (claim_moves hdb)
      · exact .inl (.inl rfl)
    · cases h
  | reread k =>
    simp only [World.step] at h
    split at h
    · split at h <;> cases h <;> exact .inl (.inl rfl)
    · cases h
  | finish k now =>
    simp only [World.step] at h
    split at h
    · split at h <;> cases h
      · exact .inl (.inl rfl)
      · exact .inl (hattempt _ (fun _ hdb => finish_moves (need_eq_ok.mp hdb)))
    · cases h
  | periodReset env id => exact .inr (.inr (.inl ⟨env, id, rfl⟩))
  | adminReset env id advance => exact .inr (.inr (.inr ⟨env, id, advance, rfl⟩))

/-! ### A finished reservation stays -/

variable {log : ResetLog}

/-- No commit touches the head of a finished reservation. -/
theorem Commit.keeps_finished (hc : Commit db db' log) (hh : h ∈ db.heads.rows)
    (hfin : h.terminalReceiptID ≠ 0) : h ∈ db'.heads.rows := by
  -- the head that a commit replaces has no terminal receipt, so it is another row
  have hother : ∀ x x' : Head, x ∈ db.heads.rows → x.terminalReceiptID = 0 → x'.id = x.id →
      h ∈ (db.heads.put x').rows := by
    intro x x' hx hz hid
    refine (mem_put_or (r := x') ((congrArg _ hid).trans (get?_of_mem hx)) hh).resolve_left ?_
    rintro rfl
    exact hfin hz
  cases hc.written with
  | kept | moved | reset => exact hh
  | reserved => exact mem_insert.mpr (.inl hh)
  | extended _ g => exact hother _ _ (headFind_mem g.headRow).1 g.unsettled rfl
  | finished _ g => exact hother _ _ (headFind_mem g.lock.headRow).1 g.unsettled rfl

variable {env : TxEnv}

/-- The transaction of a call for a finished reservation changes nothing. -/
theorem callTx_finished (hw : WF db)
    (hh : h ∈ db.heads.rows) (hfin : h.terminalReceiptID ≠ 0) (hreq : ctx.requestID = h.requestID)
    (htx : callTx db env ctx = .ok (db', r, log)) : db' = db := by
  have hfind : db.heads.find? (fun x => x.requestID = ctx.requestID) = some h := by
    rw [hreq]
    exact hw.find_head hh
  cases ctx with
  | reserve ctx =>
    rcases reserveTx_ok htx with ⟨rfl, -⟩ | ⟨user, token, choice, applied, ps, g, -⟩
    · rfl
    · exact absurd hreq.symm (g.headFresh h hh)
  | extend ctx =>
    rw [callTx, map_eq_ok] at htx
    obtain ⟨⟨d, x⟩, hx, he⟩ := htx
    cases he
    rcases extendTx_ok hx with ⟨rfl, -⟩ | ⟨head, current, user, token, sub, o, ps, g, -⟩
    · rfl
    · cases g.headRow.symm.trans hfind
      exact absurd g.unsettled hfin
  | terminal ctx =>
    rw [callTx, map_eq_ok] at htx
    obtain ⟨⟨d, x⟩, hx, he⟩ := htx
    cases he
    rcases terminalTx_ok hx with ⟨rfl, -⟩ | ⟨l, o, ps, g, -⟩
    · rfl
    · have hhead : l.head = h := Option.some.inj (g.lock.headRow.symm.trans hfind)
      rw [← hhead] at hfin
      exact absurd g.unsettled hfin

/-- The account tables and the heads agree. -/
structure SameBalances (db db' : DB) : Prop where
  users : db'.users = db.users
  tokens : db'.tokens = db.tokens
  subscriptions : db'.subscriptions = db.subscriptions
  heads : db'.heads = db.heads

theorem SameBalances.refl (db : DB) : SameBalances db db := ⟨rfl, rfl, rfl, rfl⟩

/-- The action is the transaction of another request or a subscription reset. -/
def Action.Foreign (w : World) (requestID : String) : Action → Prop
  | .transact i _ _ =>
    ∃ input ctx n, w.calls[i]? = some ⟨input, .attempt ctx n⟩ ∧ ctx.requestID ≠ requestID
  | .periodReset _ _ => True
  | .adminReset _ _ _ => True
  | _ => False

/-- After the terminal receipt, balances move only by foreign actions. -/
theorem World.Ok.finished_quiet (hok : w.Ok) (hh : h ∈ w.db.heads.rows)
    (hfin : h.terminalReceiptID ≠ 0) (hstep : w.step a = some w') (hown : ¬ a.Foreign w h.requestID) :
    SameBalances w.db w'.db := by
  rcases hok.step_db hstep with hm | ⟨i, env, outcome, input, ctx, n, r, log, rfl, hi, htx⟩ |
    ⟨env, id, rfl⟩ | ⟨env, id, advance, rfl⟩
  · rcases hm with he | ⟨o, o', -, -, he⟩
    · rw [he]
      exact SameBalances.refl _
    · rw [he]
      exact ⟨rfl, rfl, rfl, rfl⟩
  · have hreq : ctx.requestID = h.requestID := by
      by_contra hne
      exact hown ⟨input, ctx, n, hi, hne⟩
    rw [callTx_finished hok.wf hh hfin hreq htx]
    exact SameBalances.refl _
  · exact absurd trivial hown
  · exact absurd trivial hown

/-! ### The terminal receipt -/

/-- The stored terminal receipt of a head ends its request below the current receipt. -/
theorem HeadOk.terminal_receipt (hok : HeadOk db h)
    (ht : db.receipts.get? h.terminalReceiptID = some t) :
    t.requestID = h.requestID ∧ t.phase.Terminal ∧ t.parentReceiptID = h.currentReceiptID := by
  rcases hok.terminal with ⟨hz, -⟩ | ⟨t', ht', hreq, hphase, hparent⟩
  · exact absurd hz (ne_zero_of_get? ht)
  · cases ht.symm.trans ht'
    exact ⟨hreq, hphase, hparent⟩

/-- A finished head has a stored terminal receipt. -/
theorem HeadOk.terminal_exists (hok : HeadOk db h) (hfin : h.terminalReceiptID ≠ 0) :
    ∃ t, db.receipts.get? h.terminalReceiptID = some t := by
  rcases hok.terminal with ⟨hz, -⟩ | ⟨t, ht, -⟩
  · exact absurd hz hfin
  · exact ⟨t, ht⟩

/-- The keys of a terminal receipt. -/
theorem Receipt.KeyShape.terminal (hk : r.KeyShape) (hp : r.phase.Terminal) :
    r.eventKey = accountQuotaEventKey r.requestID r.phase ∧
      r.mutationSlot = requestKey r.requestID "terminal" := by
  rcases hk with ⟨h, -⟩ | ⟨h, -⟩ | ⟨-, he, hs⟩
  · exact absurd (.inl h) hp.not_chained
  · exact absurd (.inr h) hp.not_chained
  · exact ⟨he, hs⟩

/-- The stored terminal receipt carries the fingerprint that a repetition computes. -/
theorem WF.terminal_payload (hw : WF db) {c : Receipt} {input : TerminalInput}
    (hh : h ∈ db.heads.rows) (ht : db.receipts.get? h.terminalReceiptID = some t)
    (hc : db.receipts.get? h.currentReceiptID = some c) (ha : t.Answers phase input) :
    t.payload = terminalPayload input phase h c := by
  obtain ⟨hreq, -, hparent⟩ := (hw.head h hh).terminal_receipt ht
  obtain ⟨c', hc', hm, -⟩ := (hw.head h hh).current
  cases hc.symm.trans hc'
  have hok := hw.receipt t (get?_mem ht)
  obtain ⟨x, hx, hb⟩ := hok.owner
  obtain rfl := hw.head_unique hx hh (hb.requestID.symm.trans hreq)
  have hprice := hw.pricing t (get?_mem ht) c (get?_mem hc) (hreq.trans hm.requestID.symm)
  have hphase := ha.phase
  unfold Receipt.payload terminalPayload
  cases phase <;>
    simp [hphase, TerminalPhase.toPhase, hok.fingerprintVersion, ha.requestID, hparent, hm.id,
      hb.reserveFingerprint, hb.userID, hb.tokenID, ha.requestedQuota, hprice.billingContext,
      hprice.billingPreference, ha.auditKey]

/-- A repetition finds the stored terminal receipt under its event key and fingerprint. -/
theorem WF.terminal_replay (hw : WF db) {c : Receipt} {input : TerminalInput}
    (hh : h ∈ db.heads.rows) (ht : db.receipts.get? h.terminalReceiptID = some t)
    (hc : db.receipts.get? h.currentReceiptID = some c) (ha : t.Answers phase input) :
    accountQuotaFingerprint (terminalPayload input phase h c) = .ok t.requestFingerprint ∧
      accountQuotaReplay db (accountQuotaEventKey input.requestID phase.toPhase)
        t.requestFingerprint = .ok (some t) := by
  have hmem := get?_mem ht
  have hok := hw.receipt t hmem
  obtain ⟨-, hphase, -⟩ := (hw.head h hh).terminal_receipt ht
  constructor
  · rw [← hw.terminal_payload hh ht hc ha]
    exact hok.isSealed
  · have hkey : accountQuotaEventKey input.requestID phase.toPhase = t.eventKey := by
      rw [(hok.key.terminal hphase).1, ha.requestID, ha.phase]
    rw [hkey]
    exact replay_eq_ok.mpr (.inr ⟨t, rfl, find?_of_unique hw.eventUnique hmem, rfl, hok.isSealed⟩)

/-! ### Repetitions -/

/-- The first reads of a repeated terminal call answer with the stored receipt, whatever receipt id
the call carries. -/
theorem terminalPrecheck_repeated {input norm : TerminalInput} (hw : WF db) (hg : GateOk db)
    (hh : h ∈ db.heads.rows) (ht : db.receipts.get? h.terminalReceiptID = some t)
    (hn : normalizeAccountTerminalInput input phase = .ok norm) (ha : t.Answers phase norm) :
    terminalPrecheck db phase input = .ok (.done t) := by
  obtain ⟨hreq, -, -⟩ := (hw.head h hh).terminal_receipt ht
  obtain ⟨c, hc, hm, -⟩ := (hw.head h hh).current
  obtain ⟨hfp, hreplay⟩ := hw.terminal_replay hh ht hc ha
  obtain ⟨st, hgate, -, hepoch, -⟩ := hg.gates hw hh
  obtain ⟨x, hx, hb⟩ := (hw.receipt t (get?_mem ht)).owner
  obtain rfl := hw.head_unique hx hh (hb.requestID.symm.trans hreq)
  have hfind : findAccountQuotaReservationHead db norm.requestID = .ok x := by
    rw [← ha.requestID, hreq]
    exact findHead_eq_ok.mpr (hw.find_head hh)
  have hown : t.writerEpoch = st.epoch := hb.writerEpoch.trans hepoch.symm
  simp only [terminalPrecheck, hn, ok_bind, hgate, hfind, hc, need_some,
    validateAccountQuotaHeadReceipt, check_pos hm, accountQuotaTerminalFingerprint,
    check_pos (And.intro hm.id hm.reserveFingerprint), hfp, hreplay, check_pos hown]
  rfl

/-- The transaction of a repeated terminal call answers with the stored receipt when the receipt
id is in the chain and the versions could be raised. -/
theorem terminalTx_repeated {ctx : TerminalCtx} (hw : WF db) (hg : GateOk db)
    (hr : RowsOk db h) (hh : h ∈ db.heads.rows) (ht : db.receipts.get? h.terminalReceiptID = some t)
    (ha : t.Answers ctx.phase ctx.input) (hv : Raisable db h)
    (hchain : accountQuotaReceiptInChain db h ctx.input.reserveReceiptID = .ok true) :
    terminalTx db env ctx = .ok (db, t) := by
  obtain ⟨hreq, -, -⟩ := (hw.head h hh).terminal_receipt ht
  obtain ⟨c, hc, -, -⟩ := (hw.head h hh).current
  obtain ⟨hfp, hreplay⟩ := hw.terminal_replay hh ht hc ha
  obtain ⟨l, hl, -, -, hf, -⟩ := lockGuards_of_reservation hw hg hr hh
    (ha.requestID.symm.trans hreq) hv hchain hc hfp
  rw [terminalTx, terminalLock_eq_ok.mpr hl, ok_bind, terminalWrite, hf, TerminalCtx.eventKey, hreplay]
  rfl

/-- The call repeats the terminal call that stored `t`: same request, phase, actual quota and audit
key behind the normalisation. -/
inductive Repeats (t : Receipt) : CallInput → Prop
  | settle {input norm : TerminalInput}
      (hn : normalizeAccountTerminalInput input .settle = .ok norm) (ha : t.Answers .settle norm) :
      Repeats t (.settle input)
  | refund {input norm : TerminalInput}
      (hn : normalizeAccountTerminalInput { input with actualQuota := 0 } .refund = .ok norm)
      (ha : t.Answers .refund norm) : Repeats t (.refund input)

/-- A call that would end or raise the reservation of `h`. -/
inductive Reopens (db : DB) (h : Head) : CallInput → Prop
  | settle {input : TerminalInput} (hreq : trimSpace input.requestID = h.requestID) :
      Reopens db h (.settle input)
  | refund {input : TerminalInput} (hreq : trimSpace input.requestID = h.requestID) :
      Reopens db h (.refund input)
  | extend {id target : Int} {r : Receipt} (hr : db.receipts.get? id = some r)
      (hreq : r.requestID = h.requestID) (hraise : h.appliedQuota < target) :
      Reopens db h (.extend id target)

theorem Reopens.grow (hr : Reopens db h input) (hgrow : ReceiptsGrow db db') :
    Reopens db' h input := by
  cases hr with
  | settle hreq => exact .settle hreq
  | refund hreq => exact .refund hreq
  | extend hr hreq hraise => exact .extend (hgrow _ _ hr) hreq hraise

theorem normalizeAccountTerminalInput_requestID {input norm : TerminalInput}
    (h : normalizeAccountTerminalInput input phase = .ok norm) :
    norm.requestID = trimSpace input.requestID := by
  simp only [normalizeAccountTerminalInput, normalizeAccountRequestID, bind_eq_ok, check_eq_ok,
    exists_const, pure_eq_ok] at h
  obtain ⟨requestID, hid, -, -, rfl⟩ := h
  split at hid <;> cases hid
  rfl

/-- Only repetitions of the terminal call are answered on a finished reservation, with its receipt. -/
theorem Answered.repeats (hw : WF db) (hh : h ∈ db.heads.rows)
    (ht : db.receipts.get? h.terminalReceiptID = some t) (hr : Reopens db h input)
    (ha : Answered db input r) : r = t ∧ Repeats t input := by
  obtain ⟨htreq, htphase, -⟩ := (hw.head h hh).terminal_receipt ht
  have hsame : ∀ (norm : TerminalInput) (phase : TerminalPhase), r ∈ db.receipts.rows →
      r.Answers phase norm → norm.requestID = h.requestID → r = t := by
    intro norm phase hm ha hreq
    have hphase : r.phase.Terminal := by
      rw [ha.phase]
      exact phase.terminal
    apply hw.slotUnique r hm t (get?_mem ht)
    rw [((hw.receipt r hm).key.terminal hphase).2, ((hw.receipt t (get?_mem ht)).key.terminal htphase).2,
      ha.requestID, hreq, htreq]
  cases ha with
  | reserve hn hm hf => cases hr
  | extend hs hm hreq hp hle =>
    cases hr with
    | extend hr' hreq' hraise =>
      cases hs.symm.trans hr'
      have := (hw.head h hh).raised r hm (hreq.trans hreq') hp
      omega
  | settle hn hm hans =>
    cases hr with
    | settle hreq =>
      have hnorm := (normalizeAccountTerminalInput_requestID hn).trans hreq
      obtain rfl := hsame _ .settle hm hans hnorm
      exact ⟨rfl, .settle hn hans⟩
  | refund hn hm hans =>
    cases hr with
    | refund hreq =>
      have hnorm := (normalizeAccountTerminalInput_requestID hn).trans hreq
      obtain rfl := hsame _ .refund hm hans hnorm
      exact ⟨rfl, .refund hn hans⟩

/-! ### Exactly one terminal receipt -/

variable {w₀ : World}

theorem World.ReachableFrom.run (h : w₀.ReachableFrom w)
    (hrun : Base.run World.step w actions = some w') : w₀.ReachableFrom w' := by
  obtain ⟨hinit, before, hbefore⟩ := h
  refine ⟨hinit, before ++ actions, ?_⟩
  rw [run_append, hbefore]
  exact hrun

/-- A run keeps finished heads and all receipts. -/
theorem World.Ok.run_keeps (hok : w.Ok) (hh : h ∈ w.db.heads.rows)
    (hfin : h.terminalReceiptID ≠ 0) (hrun : run World.step w actions = some w') :
    h ∈ w'.db.heads.rows ∧ ReceiptsGrow w.db w'.db := by
  have hinv := run_invariant
    (fun v : World => v.Ok ∧ h ∈ v.db.heads.rows ∧ ReceiptsGrow w.db v.db) (by
      rintro v a v' ⟨hv, hm, hgrow⟩ hs
      obtain ⟨⟨log, hc, -⟩, hv'⟩ := hv.step hs
      exact ⟨hv', hc.keeps_finished hm hfin, fun i r hr => hc.grow.1 i r (hgrow i r hr)⟩)
    actions w w' ⟨hok, hh, fun _ _ hr => hr⟩ hrun
  exact hinv.2

/-- What can still happen to the reservation of `h` behind its terminal receipt `t`. -/
structure Finished (w : World) (h : Head) (t : Receipt) : Prop where
  stored : w.db.receipts.get? h.terminalReceiptID = some t
  -- the head row and the receipt stay in every continuation
  kept : ∀ actions w', run World.step w actions = some w' →
    h ∈ w'.db.heads.rows ∧ w'.db.receipts.get? h.terminalReceiptID = some t
  -- no step for the request moves a balance
  quiet : ∀ a w', w.step a = some w' → ¬ a.Foreign w h.requestID → SameBalances w.db w'.db
  -- a repeated call is answered by its first reads
  repeated : ∀ i input, w.calls[i]? = some ⟨input, .ready⟩ → Repeats t input →
    ∃ w', w.step (.precheck i) = some w' ∧ w'.calls[i]? = some ⟨input, .returned (.ok t)⟩ ∧
      w'.db = w.db
  -- a repeated call that was on its way is answered by its transaction
  resumed : ∀ i input ctx n env, w.calls[i]? = some ⟨input, .attempt (.terminal ctx) n⟩ →
    t.Answers ctx.phase ctx.input → Raisable w.db h →
    accountQuotaReceiptInChain w.db h ctx.input.reserveReceiptID = .ok true →
    ∃ w', w.step (.transact i env .respond) = some w' ∧
      w'.calls[i]? = some ⟨input, .returned (.ok t)⟩ ∧ w'.db = w.db
  -- an answer is the receipt, and the call was a repetition
  answered : ∀ c ∈ w.calls, Reopens w.db h c.input → ∀ r, c.state = .returned (.ok r) →
    r = t ∧ Repeats t c.input
  -- every other call goes on to an error, with a bounded number of steps
  refused : ∀ i c, w.calls[i]? = some c → Reopens w.db h c.input → ¬ Repeats t c.input →
    ∀ actions w', run World.step w actions = some w' →
      ∃ s, w'.calls[i]? = some ⟨c.input, s⟩ ∧
        actions.countP (fun a => a.caller = some i) + s.stepsLeft ≤ c.state.stepsLeft ∧
        ((∃ e, s = .returned (.error e)) ∨
          ((∀ r, s ≠ .returned r) ∧ ∃ a, a.caller = some i ∧ (w'.step a).isSome = true))

/-- An answered settle, refund or raising extension of a finished reservation is a repetition. -/
theorem World.Ok.answered_repeats (hok : w.Ok) (hh : h ∈ w.db.heads.rows)
    (ht : w.db.receipts.get? h.terminalReceiptID = some t) :
    ∀ c ∈ w.calls, Reopens w.db h c.input → ∀ r, c.state = .returned (.ok r) →
      r = t ∧ Repeats t c.input := by
  intro c hc hopen r hret
  have hcall := hok.calls c hc
  rw [CallOk, hret] at hcall
  exact hcall.repeats hok.wf hh ht hopen

/-- A call that is no repetition never gets an answer; it has a next step until it returned an
error. -/
theorem World.ReachableFrom.refused (hr : w₀.ReachableFrom w)
    (hh : h ∈ w.db.heads.rows) (hfin : h.terminalReceiptID ≠ 0)
    (ht : w.db.receipts.get? h.terminalReceiptID = some t) (hc : w.calls[i]? = some c)
    (hopen : Reopens w.db h c.input) (hno : ¬ Repeats t c.input)
    (hrun : Base.run World.step w actions = some w') :
    ∃ s, w'.calls[i]? = some ⟨c.input, s⟩ ∧
      actions.countP (fun a => a.caller = some i) + s.stepsLeft ≤ c.state.stepsLeft ∧
      ((∃ e, s = .returned (.error e)) ∨
        ((∀ r, s ≠ .returned r) ∧ ∃ a, a.caller = some i ∧ (w'.step a).isSome = true)) := by
  obtain ⟨s, hs, hcount⟩ := run_call hrun hc
  obtain ⟨hh', hgrow⟩ := hr.ok.run_keeps hh hfin hrun
  refine ⟨s, hs, hcount, ?_⟩
  by_cases hret : ∃ r, s = .returned r
  · obtain ⟨r, rfl⟩ := hret
    cases r with
    | error e => exact .inl ⟨e, rfl⟩
    | ok r =>
      have hans := (hr.run hrun).ok.answered_repeats hh' (hgrow _ _ ht) _ (mem_of_getElem? hs)
        (hopen.grow hgrow) r rfl
      exact absurd hans.2 hno
  · have hrun' : ∀ r, s ≠ .returned r := fun r he => hret ⟨r, he⟩
    exact .inr ⟨hrun', call_enabled hs hrun' (plainEnv 0)⟩

/-- Exactly one terminal. In every reachable world a request has at most one receipt in its
terminal slot, and a reservation with a terminal receipt is finished. -/
theorem terminal_exactly_once {w₀ w : World} (hr : w₀.ReachableFrom w) :
    (∀ requestID, ∀ a ∈ w.db.receipts.rows, ∀ b ∈ w.db.receipts.rows,
      a.mutationSlot = accountQuotaMutationSlot requestID .settle →
      b.mutationSlot = accountQuotaMutationSlot requestID .settle → a = b) ∧
    ∀ h ∈ w.db.heads.rows, h.terminalReceiptID ≠ 0 → ∃ t, Finished w h t := by
  have hok := hr.ok
  have hw := hok.wf
  constructor
  · intro requestID a ha b hb hsa hsb
    exact hw.slotUnique a ha b hb (hsa.trans hsb.symm)
  intro h hh hfin
  obtain ⟨t, ht⟩ := (hw.head h hh).terminal_exists hfin
  have hset : ∀ {i : Nat} {input : CallInput} {st s : CallState}, w.calls[i]? = some ⟨input, st⟩ →
      (w.calls.set i ⟨input, s⟩)[i]? = some ⟨input, s⟩ := by
    intro i input st s hi
    rw [List.getElem?_set_self (List.getElem?_eq_some_iff.mp hi).1]
  refine ⟨t, ht, ?_, ?_, ?_, ?_, hok.answered_repeats hh ht, ?_⟩
  · intro actions w' hrun
    obtain ⟨hh', hgrow⟩ := hok.run_keeps hh hfin hrun
    exact ⟨hh', hgrow _ _ ht⟩
  · intro a w' hstep hown
    exact hok.finished_quiet hh hfin hstep hown
  · intro i input hi hrep
    refine ⟨w.setCall i ⟨input, .returned (.ok t)⟩, ?_, hset hi, rfl⟩
    have hdone : callPrecheck w.db input = .ok (.done t) := by
      cases hrep with
      | settle hn ha | refund hn ha => rw [callPrecheck, terminalPrecheck_repeated hw hr.gate hh ht hn ha]; rfl
    simp only [step, hi, hdone]
    rfl
  · intro i input ctx n env hi ha hv hchain
    have htx : callTx w.db env (.terminal ctx) = .ok (w.db, t, []) := by
      rw [callTx, terminalTx_repeated hw hr.gate (hr.rows h hh) hh ht ha hv hchain]
      rfl
    refine ⟨(w.commit w.db []).setCall i ⟨input, .returned (.ok t)⟩, ?_, hset hi, rfl⟩
    simp only [step, hi, transact, htx]
  · intro i c hc hopen hno actions w' hrun
    exact hr.refused hh hfin ht hc hopen hno hrun

/-- A reservation of 10 on the wallet, raised to 20 and settled with 12, and a second settlement with
12 under another audit key. -/
def finishedRun : List Action :=
  smoothCall 0 (.reserve { requestID := "r1", userID := 1, tokenID := 1, requestedQuota := 10
                           billingPreference := "wallet_only" }) 200000 ++
  smoothCall 1 (.extend 1 20) 200001 ++
  smoothCall 2 (.settle { requestID := "r1", reserveReceiptID := 1, actualQuota := 12
                          auditKey := "first" }) 200002 ++
  [.start (.settle { requestID := "r1", reserveReceiptID := 1, actualQuota := 12
                     auditKey := "second" })]

theorem finishedRun_head : (run World.step plainWorld finishedRun).isSome = true ∧
    ∃ h ∈ (plainRun finishedRun).db.heads.rows, h.terminalReceiptID ≠ 0 := by
  decide +kernel

theorem terminal_exactly_once_finishedRun :
    plainWorld.ReachableFrom (plainRun finishedRun) ∧
      ∃ h ∈ (plainRun finishedRun).db.heads.rows, h.terminalReceiptID ≠ 0 ∧
        ∃ t, Finished (plainRun finishedRun) h t := by
  have hreach := plainRun_reachable finishedRun_head.1
  obtain ⟨h, hh, hfin⟩ := finishedRun_head.2
  exact ⟨hreach, h, hh, hfin, (terminal_exactly_once hreach).2 h hh hfin⟩

/-- The audit key is part of the identity: a second settlement with the same actual quota and an
in-chain receipt id gets an error when its audit key differs. -/
theorem settle_other_auditKey_conflict :
    ∃ w w', plainWorld.ReachableFrom w ∧ w.step (.precheck 3) = some w' ∧
      (∃ h ∈ w.db.heads.rows, h.requestID = "r1" ∧ h.terminalReceiptID ≠ 0 ∧
        accountQuotaReceiptInChain w.db h 1 = .ok true ∧
        (w.db.receipts.get? h.terminalReceiptID).map Receipt.requestedQuota = some 12) ∧
      w'.calls[3]? = some ⟨.settle { requestID := "r1", reserveReceiptID := 1, actualQuota := 12
                                     auditKey := "second" }, .returned (.error .conflict)⟩ := by
  have hrun : ((plainRun finishedRun).step (.precheck 3)).isSome = true ∧
      (∃ h ∈ (plainRun finishedRun).db.heads.rows, h.requestID = "r1" ∧ h.terminalReceiptID ≠ 0 ∧
        accountQuotaReceiptInChain (plainRun finishedRun).db h 1 = .ok true ∧
        ((plainRun finishedRun).db.receipts.get? h.terminalReceiptID).map Receipt.requestedQuota =
          some 12) ∧
      (((plainRun finishedRun).step (.precheck 3)).getD plainWorld).calls[3]? =
        some ⟨.settle { requestID := "r1", reserveReceiptID := 1, actualQuota := 12
                        auditKey := "second" }, .returned (.error .conflict)⟩ := by decide +kernel
  obtain ⟨hstep, hhead, hcall⟩ := hrun
  refine ⟨plainRun finishedRun, _, plainRun_reachable finishedRun_head.1, ?_, hhead, hcall⟩
  rfl

end MyApiSpec.Ledger
