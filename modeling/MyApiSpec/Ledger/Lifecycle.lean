import MyApiSpec.Ledger.Terminal

/-!
# Obligations and heads agree

Every head has one obligation row. The row is applied exactly when the head has its terminal
receipt, and then it names that receipt. While a refund or a manual review owns the row, the
only call of the request that commits a change is the recorded refund.
-/

namespace MyApiSpec.Ledger

open Base

variable {o : Obligation} {h : Head} {db db' : DB} {env : TxEnv} {r : Receipt}

/-- The states in which a refund or a manual review owns the obligation. -/
def ObligationState.Held (s : ObligationState) : Prop :=
  s = .refundPending ∨ s = .claimed ∨ s = .retryable ∨ s = .manual

instance (s : ObligationState) : Decidable s.Held := inferInstanceAs (Decidable (_ ∨ _))

/-- The transactions that may commit while the obligation is held: the recorded refund unless a
manual review owns the row, an extension that raises nothing, and the replay of a reserve. -/
def CallCtx.Admitted (o : Obligation) (h : Head) : CallCtx → Prop
  | .reserve _ => True
  | .extend ctx => ctx.targetQuota ≤ h.appliedQuota
  | .terminal ctx => ctx.phase = .refund ∧ o.state ≠ .manual ∧ ctx.input.auditKey = o.auditKey ∧
    ctx.input.reserveReceiptID = o.reserveReceiptID

/-- A held obligation is closed only by the refund it records. -/
theorem closeAdmission_held {input : TerminalInput} {phase : TerminalPhase} (hheld : o.state.Held)
    (hc : closeAdmission o h input phase = .ok ()) :
    phase = .refund ∧ o.state ≠ .manual ∧ input.auditKey = o.auditKey ∧
      input.reserveReceiptID = o.reserveReceiptID := by
  have hopen : o.state ≠ .open := by
    intro he
    rw [he] at hheld
    exact absurd hheld (by decide)
  cases phase with
  | settle =>
    simp only [closeAdmission, check_eq_ok] at hc
    exact absurd hc.1 hopen
  | refund =>
    simp only [closeAdmission, if_neg hopen, bind_eq_ok, check_eq_ok, exists_const] at hc
    obtain ⟨pending, -, -, hc⟩ := hc
    split at hc
    · next hs =>
      obtain ⟨-, haudit, hreserve, -⟩ := check_eq_ok.mp hc
      refine ⟨rfl, ?_, haudit.symm, hreserve.symm⟩
      intro he
      rw [he] at hs
      exact absurd hs (by decide)
    · cases hc

/-- An open head has no terminal transaction to replay: a committed one closed its obligation. -/
theorem terminalTx_closes {ctx : TerminalCtx} (hw : WF db) (hctx : ctx.Ok) (hh : h ∈ db.heads.rows)
    (hopen : h.terminalReceiptID = 0) (hreq : ctx.input.requestID = h.requestID)
    (ho : o ∈ db.obligations.rows) (hor : o.requestID = h.requestID)
    (htx : terminalTx db env ctx = .ok (db', r)) :
    closeAdmission o h ctx.input ctx.phase = .ok () := by
  rcases terminalTx_ok htx with ⟨rfl, -⟩ | ⟨l, o', ps, g, -⟩
  · obtain ⟨hr, ha⟩ := terminalTx_answers hw hctx htx
    have hphase : r.phase.Terminal := by
      rw [ha.phase]
      exact ctx.phase.terminal
    exact absurd hphase ((hw.head h hh).no_terminal hopen r hr (ha.requestID.trans hreq))
  · have hhead : l.head = h := by
      obtain ⟨hm, hid⟩ := headFind_mem g.lock.headRow
      exact hw.head_unique hm hh (hid.trans hreq)
    have hadm := g.admission
    have hrow := g.obligationRow
    rw [hhead] at hadm hrow
    obtain ⟨hm', hid'⟩ := obligationFind_mem hrow
    obtain rfl := hw.obligationUnique o ho o' hm' (hor.trans hid'.symm)
    exact hadm

/-- An extension of an open head behind a held obligation raises nothing. -/
theorem extendTx_held {ctx : ExtendCtx} {s : Receipt} (hw : WF db) (hctx : ctx.Ok db)
    (hh : h ∈ db.heads.rows) (hreq : ctx.requestID = h.requestID)
    (hs : db.receipts.get? ctx.reserveReceiptID = some s) (hsreq : s.requestID = ctx.requestID)
    (ho : o ∈ db.obligations.rows) (hor : o.requestID = h.requestID) (hheld : o.state.Held)
    (htx : extendTx db env ctx = .ok (db', r)) : ctx.targetQuota ≤ h.appliedQuota := by
  rcases extendTx_ok htx with ⟨rfl, -⟩ | ⟨head, current, user, token, sub, o', ps, g, -⟩
  · cases extendTx_answers hw hctx hs hsreq htx with
    | extend hs' hr hr' hp hle =>
      cases hs.symm.trans hs'
      have := (hw.head h hh).raised r hr (hr'.trans (hsreq.trans hreq)) hp
      omega
  · obtain ⟨hm, hid⟩ := headFind_mem g.headRow
    obtain rfl := hw.head_unique hm hh (hid.trans hreq)
    obtain ⟨hm', hid'⟩ := obligationFind_mem g.obligationRow
    obtain rfl := hw.obligationUnique o ho o' hm' (hor.trans hid'.symm)
    rw [g.obligationOpen.1] at hheld
    exact absurd hheld (by decide)

/-- A transaction that commits while the obligation of its request is held is an admitted one. -/
theorem callTx_held {input : CallInput} {ctx : CallCtx} {log : ResetLog} (hw : WF db)
    (hcap : Captured db input ctx) (hh : h ∈ db.heads.rows) (hok : ObligationOk db h o)
    (ho : o ∈ db.obligations.rows) (hheld : o.state.Held) (hreq : ctx.requestID = h.requestID)
    (htx : callTx db env ctx = .ok (db', r, log)) : ctx.Admitted o h := by
  have hopen : h.terminalReceiptID = 0 := by
    by_contra hne
    rw [hok.applied.mpr hne] at hheld
    exact absurd hheld (by decide)
  cases hcap with
  | reserve epoch hn => trivial
  | extend ok hs hsreq =>
    rw [callTx, map_eq_ok] at htx
    obtain ⟨⟨d, x⟩, hx, -⟩ := htx
    exact extendTx_held hw ok hh hreq hs hsreq ho hok.requestID hheld hx
  | settle h0 c hn =>
    rw [callTx, map_eq_ok] at htx
    obtain ⟨⟨d, x⟩, hx, -⟩ := htx
    exact closeAdmission_held hheld
      (terminalTx_closes hw (settleCtx_ok hn) hh hopen hreq ho hok.requestID hx)
  | refund h0 c hn =>
    rw [callTx, map_eq_ok] at htx
    obtain ⟨⟨d, x⟩, hx, -⟩ := htx
    exact closeAdmission_held hheld
      (terminalTx_closes hw (refundCtx_ok hn) hh hopen hreq ho hok.requestID hx)

/-- The obligation `o` agrees with the head `h`. -/
structure LifecycleAgrees (w : World) (h : Head) (o : Obligation) : Prop where
  row : o ∈ w.db.obligations.rows ∧ o.requestID = h.requestID
  only : ∀ x ∈ w.db.obligations.rows, x.requestID = h.requestID → x = o
  applied : o.state = .applied ↔ h.terminalReceiptID ≠ 0
  closed : h.terminalReceiptID ≠ 0 → ∃ t, w.db.receipts.get? h.terminalReceiptID = some t ∧
    o.phase.map TerminalPhase.toPhase = some t.phase ∧ o.auditKey = t.auditKey ∧
    o.terminalReceiptID = t.id
  -- a transaction of the request that would commit now is an admitted one
  held : o.state.Held → ∀ (i : Nat) (input : CallInput) (ctx : CallCtx) n env db' r log,
    w.calls[i]? = some ⟨input, .attempt ctx n⟩ → ctx.requestID = h.requestID →
    callTx w.db env ctx = .ok (db', r, log) → ctx.Admitted o h

/-- In every reachable world heads and obligations correspond one to one, and every obligation
agrees with its head. -/
theorem lifecycle_agrees {w₀ w : World} (hr : w₀.ReachableFrom w) :
    (∀ h ∈ w.db.heads.rows, ∃ o, LifecycleAgrees w h o) ∧
      ∀ o ∈ w.db.obligations.rows, ∃ h ∈ w.db.heads.rows, h.requestID = o.requestID ∧
        ∀ x ∈ w.db.heads.rows, x.requestID = o.requestID → x = h := by
  have hok := hr.ok
  have hw := hok.wf
  constructor
  · intro h hh
    obtain ⟨o, ho, hoo⟩ := (hw.head h hh).obligation
    refine ⟨o, ⟨ho, hoo.requestID⟩, ?_, hoo.applied, ?_, ?_⟩
    · intro x hx hreq
      exact hw.obligationUnique x hx o ho (hreq.trans hoo.requestID.symm)
    · intro hfin
      obtain ⟨t, ht⟩ := (hw.head h hh).terminal_exists hfin
      obtain ⟨hphase, haudit, hid, -⟩ := hoo.closed t ht
      exact ⟨t, ht, hphase, haudit, hid⟩
    · intro hheld i input ctx n env db' r log hi hreq htx
      have hcap : Captured w.db input ctx := hok.calls _ (List.mem_of_getElem? hi)
      exact callTx_held hw hcap hh hoo ho hheld hreq htx
  · intro o ho
    obtain ⟨h, hh, hreq⟩ := hw.obligationHead o ho
    refine ⟨h, hh, hreq, ?_⟩
    intro x hx hxreq
    exact hw.head_unique hx hh (hxreq.trans hreq.symm)

/-- A reservation whose settlement made its first reads before a refund intent was recorded. -/
def heldRun : List Action :=
  smoothCall 0 (.reserve { requestID := "r1", userID := 1, tokenID := 1, requestedQuota := 10
                           billingPreference := "wallet_only" }) 200000 ++
  [.start (.settle { requestID := "r1", reserveReceiptID := 1, actualQuota := 7 }), .precheck 1,
    .refundIntent { requestID := "r1", reserveReceiptID := 1, auditKey := "timeout" } false]

theorem lifecycle_agrees_heldRun :
    plainWorld.ReachableFrom (plainRun heldRun) ∧
      ∃ h ∈ (plainRun heldRun).db.heads.rows, h.terminalReceiptID = 0 ∧
        ∃ o, o.state = .refundPending ∧ LifecycleAgrees (plainRun heldRun) h o := by
  have hrun : (run World.step plainWorld heldRun).isSome = true ∧
      ∃ h ∈ (plainRun heldRun).db.heads.rows, h.terminalReceiptID = 0 ∧
        ∀ o ∈ (plainRun heldRun).db.obligations.rows, o.state = .refundPending := by decide +kernel
  have hreach := plainRun_reachable hrun.1
  obtain ⟨h, hh, hopen, hstate⟩ := hrun.2
  obtain ⟨o, ho⟩ := (lifecycle_agrees hreach).1 h hh
  exact ⟨hreach, h, hh, hopen, o, hstate o ho.row.1, ho⟩

end MyApiSpec.Ledger
