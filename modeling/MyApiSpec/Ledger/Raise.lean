import MyApiSpec.Ledger.Release

/-!
# Raising a reservation

An open reservation is raised by every extension that its rows can pay: the key of the new
target is free, because every earlier adjustment applied less.
-/

namespace MyApiSpec.Ledger

open Base

variable {db : DB} {h : Head} {o : Obligation}

private theorem adjust_tail_ne_reserve (n : Int) : "reserve-adjust-" ++ toString n ≠ "reserve" := by
  intro he
  have hlen := congrArg String.length he
  rw [String.length_append] at hlen
  have h15 : "reserve-adjust-".length = 15 := by decide
  have h7 : "reserve".length = 7 := by decide
  omega

/-- No stored receipt has the key of an adjustment above the applied quota. -/
theorem WF.adjust_fresh (hw : WF db) {target : Int} (hh : h ∈ db.heads.rows)
    (hraise : h.appliedQuota < target) :
    ∀ x ∈ db.receipts.rows, x.eventKey ≠ accountQuotaAdjustKey h.requestID target ∧
      x.mutationSlot ≠ accountQuotaAdjustKey h.requestID target := by
  have hpos : 0 ≤ target := by
    have := (hw.head h hh).applied.1
    omega
  have hcolon := colon_not_mem_adjust hpos
  -- a key of another kind has another tail
  have hother : ∀ requestID tail, ':' ∉ tail.toList → "reserve-adjust-" ++ toString target ≠ tail →
      requestKey requestID tail ≠ accountQuotaAdjustKey h.requestID target := by
    intro requestID tail htail hne he
    exact hne (requestKey_inj htail hcolon he).2.symm
  intro x hx
  have hok := hw.receipt x hx
  rcases hok.key with ⟨-, hek, hslot⟩ | ⟨hp, hq, hek, hslot⟩ | ⟨hp, hek, hslot⟩
  · rw [hek, hslot]
    have hne := hother x.requestID "reserve" (by decide) (adjust_tail_ne_reserve target)
    exact ⟨hne, hne⟩
  · rw [hek, hslot, and_self]
    intro he
    obtain ⟨hreq, htarget⟩ := accountQuotaAdjustKey_inj hq hpos he
    have hle := (hw.head h hh).raised x hx hreq (.inr hp)
    rw [hok.adjusted hp, htarget] at hle
    omega
  · rw [hek, hslot]
    constructor
    · apply hother
      · rcases hp with h1 | h1 <;> rw [h1] <;> decide
      · rcases hp with h1 | h1 <;> rw [h1] <;> exact adjust_tail_ne (by decide)
    · exact hother x.requestID "terminal" (by decide) (adjust_tail_ne (by decide))

/-- The rows that an extension of `h` locks, and that they pay for it. -/
structure Payable (db : DB) (h : Head) (current : Receipt) (ctx : ExtendCtx) (user : User)
    (token : Token) (sub : Option UserSubscription) : Prop where
  userRow : db.users.get? h.userID = some user
  tokenRow : db.tokens.get? h.tokenID = some token
  subRow : lockSubscription db h.subscriptionID = .ok sub
  funds : extendFunds h current user token sub (ctx.targetQuota - h.appliedQuota) = .ok ()
  chargeable : Chargeable user token sub (extendDeltas ctx h current)
  versions : 0 ≤ user.quotaVersion ∧ 0 ≤ token.quotaVersion

variable {sub : Option UserSubscription} {ctx : ExtendCtx} {current : Receipt} {token : Token}
  {user : User}

section

variable (hr : OpenReservation db h o)
include hr

/-- An extension that the rows pay for passes its guards. -/
theorem OpenReservation.extendGuards
    (hctx : ctx.Ok db)
    (hreq : ctx.requestID = h.requestID) (hepoch : ctx.writerEpoch = h.writerEpoch)
    (hchain : accountQuotaReceiptInChain db h ctx.reserveReceiptID = .ok true)
    (hcur : db.receipts.get? h.currentReceiptID = some current)
    (hraise : h.appliedQuota < ctx.targetQuota) (hp : Payable db h current ctx user token sub)
    (env : TxEnv) : ExtendGuards db env ctx h current user token sub o := by
  have hw := hr.wf
  obtain ⟨c, hc, hm, -⟩ := (hw.head h hr.head).current
  cases hcur.symm.trans hc
  obtain ⟨st, -, -, hst, hproj, hwriter, hmode⟩ := hr.gate.gates hw hr.head
  obtain ⟨x, hx, hxo⟩ := (hw.head h hr.head).obligation
  obtain rfl := hw.obligationUnique x hx o hr.obligation (hxo.requestID.trans hr.requestID.symm)
  have hcurrent := hw.receipt current (Table.get?_mem hcur)
  have hfresh := hw.adjust_fresh hr.head hraise
  rw [← hreq] at hfresh
  have hfp : ctx.fingerprint.length = 64 := by
    obtain ⟨y, -, -, z, -, -, hf⟩ := hctx.fingerprint
    rw [(accountQuotaFingerprint_eq_ok.mp hf).2]
    rfl
  have hrec : Recordable db (extendStored db env ctx h current user token sub) := by
    refine ⟨rfl, rfl, ?_, ?_, requestKey_ne_empty _ _, requestKey_ne_empty _ _, ?_, hfp,
      hcurrent.userID, hcurrent.tokenID, hfresh⟩
    · show 0 < h.writerEpoch
      rw [← hm.writerEpoch]
      exact hcurrent.writerEpoch
    · show h.requestID ≠ ""
      rw [← hm.requestID]
      exact hcurrent.requestID
    · show h.reserveFingerprint.length = 64
      rw [← hm.reserveFingerprint]
      exact hcurrent.reserveFingerprint
  have hrealtime : realtimeDispatchPending x.reviewMetadata = .ok false := by
    unfold realtimeDispatchPending
    rw [hr.dispatch]
    rfl
  refine ⟨⟨st, hwriter, hmode, hst.trans hepoch.symm⟩, ?_, hp.userRow, hp.tokenRow, hp.subRow,
    hr.unsettled, hchain, hcur, hm, eventFind_none.mpr (fun r hrow => (hfresh r hrow).1), hraise,
    hp.funds, hp.chargeable, hproj, hrec, ?_, ⟨hr.isOpen, hxo.writerEpoch, hxo.opened hr.isOpen,
    hxo.lockVersion⟩, ⟨false, false, hr.dispatch, hrealtime, .inl rfl⟩⟩
  · rw [hreq]
    exact hw.find_head hr.head
  · rw [← hr.requestID]
    exact Table.find?_of_unique hw.obligationUnique hr.obligation

/-- An extension that the rows pay for commits. -/
theorem OpenReservation.raises
    {env : TxEnv}
    (g : ExtendGuards db env ctx h current user token sub o)
    (hv : 0 ≤ user.quotaVersion ∧ 0 ≤ token.quotaVersion) :
    ∃ ps, extendTx db env ctx =
      .ok ({ extendResult db env ctx h current user token sub o with projections := ps },
        extendStored db env ctx h current user token sub) := by
  have hversion := chargedSnapshot_versions sub (extendDeltas ctx h current) env.now hv.1 hv.2
  have hfresh := hr.wf.projection_fresh g.recordable
  obtain ⟨db', hdb'⟩ := @ensureProjection_fresh
    (extendResult db env ctx h current user token sub o) _ db.receipts.pos g.recordable.eventKey
    g.recordable.userID hversion.1 hversion.2 hfresh
  obtain ⟨ps, rfl, -⟩ := ensureProjection_frame hdb'
  exact ⟨ps, extendTx_of_guards g hdb'⟩

/-- The first reads of a raising extension go on to the transaction when the payload fits. -/
theorem OpenReservation.extendPrecheck {s : Receipt} {reserveReceiptID target : Int}
    (hs : db.receipts.get? reserveReceiptID = some s)
    (hreq : s.requestID = h.requestID) (hphase : s.phase.Chained)
    (hcur : db.receipts.get? h.currentReceiptID = some current)
    (hvalid : validAccountQuotaValue target) (hraise : h.appliedQuota < target)
    (hsize : (adjustPayload h current target).jsonSize ≤ accountQuotaMutationMaxContextBytes) :
    Ledger.extendPrecheck db reserveReceiptID target =
      .ok (.go ⟨reserveReceiptID, target, h.requestID, h.writerEpoch,
        (adjustPayload h current target).digest⟩) := by
  obtain ⟨st, -, hgate, hepoch, -⟩ := hr.gate.gates hr.wf hr.head
  have hpos : 0 < reserveReceiptID := (Table.get?_bounds hs).1
  have hfind : findAccountQuotaReservationHead db s.requestID = .ok h := by
    rw [hreq]
    exact findHead_eq_ok.mpr (hr.wf.find_head hr.head)
  have hfp := accountQuotaFingerprint_eq_ok.mpr ⟨hsize, rfl⟩
  have hreplay : accountQuotaReplay db (accountQuotaAdjustKey h.requestID target)
      (adjustPayload h current target).digest = .ok none :=
    replay_eq_ok.mpr (.inl ⟨rfl, eventFind_none.mpr fun r hrow =>
      (hr.wf.adjust_fresh hr.head hraise r hrow).1⟩)
  unfold Phase.Chained at hphase
  simp only [Ledger.extendPrecheck, check_pos (And.intro hpos hvalid), ok_bind, hs, need_some,
    check_pos hphase, hfind, hgate, check_pos hepoch, hcur, if_neg (not_le.mpr hraise), hfp, hreplay]
  rfl

end

end MyApiSpec.Ledger
