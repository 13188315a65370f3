import MyApiSpec.Ledger.Conservation

/-!
# Admission never overdraws

A reserve or a raising extension checks the locked rows before it charges them: a wallet holds the
charged amount, a limited token holds it, and a subscription with a total has room for it. Other
admissions check the rows they charge in the same way, so what a committed call left behind stays
inside its limits. A transaction that fails leaves the database as it was.
-/

namespace MyApiSpec.Ledger

open Base List Table World UserSubscription Token

/-! ### Limits -/

variable {c : Call} {db : DB} {env : TxEnv} {user : User} {ctx : CallCtx} {token : Token}
  {w : World}

/-- The rows that a receipt was charged to are inside their limits. -/
structure WithinLimits (db : DB) (r : Receipt) : Prop where
  wallet : r.billingSource = .wallet → ∀ u, db.users.get? r.userID = some u → 0 ≤ u.quota
  token : r.billingSource ≠ .free → r.billingContext.playground = false → ∀ t,
    db.tokens.get? r.tokenID = some t → t.unlimitedQuota = false → 0 ≤ t.remainQuota
  subscription : r.billingSource = .subscription → ∀ s,
    db.subscriptions.get? r.subscriptionID = some s → 0 < s.amountTotal →
    s.amountUsed ≤ s.amountTotal

/-- Every row of `db'` is inside its limit or holds at least what its row in `db` holds. -/
structure Admits (db db' : DB) : Prop where
  users : ∀ i u', db'.users.get? i = some u' →
    0 ≤ u'.quota ∨ ∃ u, db.users.get? i = some u ∧ u'.quota = u.quota
  tokens : ∀ i t', db'.tokens.get? i = some t' →
    (t'.unlimitedQuota = false → 0 ≤ t'.remainQuota) ∨ ∃ t, db.tokens.get? i = some t ∧
      t'.unlimitedQuota = t.unlimitedQuota ∧ t'.remainQuota = t.remainQuota
  subscriptions : ∀ i s', db'.subscriptions.get? i = some s' →
    (0 < s'.amountTotal → s'.amountUsed ≤ s'.amountTotal) ∨ ∃ s,
      db.subscriptions.get? i = some s ∧ s'.amountTotal = s.amountTotal ∧
      s'.amountUsed = s.amountUsed

theorem Admits.refl (db : DB) : Admits db db :=
  ⟨fun _ u h => .inr ⟨u, h, rfl⟩, fun _ t h => .inr ⟨t, h, rfl, rfl⟩,
    fun _ s h => .inr ⟨s, h, rfl, rfl⟩⟩

theorem Admits.trans {a b c : DB} (h : Admits a b) (h' : Admits b c) : Admits a c := by
  refine ⟨?_, ?_, ?_⟩
  · intro i u'' hu''
    obtain hq | ⟨u', hu', he'⟩ := h'.users i u'' hu''
    · exact .inl hq
    · rw [he']
      exact h.users i u' hu'
  · intro i t'' ht''
    obtain hq | ⟨t', ht', hl', he'⟩ := h'.tokens i t'' ht''
    · exact .inl hq
    · rw [he', hl']
      exact h.tokens i t' ht'
  · intro i s'' hs''
    obtain hq | ⟨s', hs', ht', he'⟩ := h'.subscriptions i s'' hs''
    · exact .inl hq
    · rw [he', ht']
      exact h.subscriptions i s' hs'

variable {r : Receipt} {db' : DB}

/-- Limits survive what other admissions do. -/
theorem WithinLimits.admits (h : WithinLimits db r) (ha : Admits db db') :
    WithinLimits db' r := by
  refine ⟨?_, ?_, ?_⟩
  · intro hsource u' hu'
    obtain hq | ⟨u, hu, he⟩ := ha.users _ u' hu'
    · exact hq
    · rw [he]
      exact h.wallet hsource u hu
  · intro hsource hplay t' ht' hlimited
    obtain hq | ⟨t, ht, hl, he⟩ := ha.tokens _ t' ht'
    · exact hq hlimited
    · rw [he]
      exact h.token hsource hplay t ht (hl ▸ hlimited)
  · intro hsource s' hs' htotal
    obtain hq | ⟨s, hs, ht, he⟩ := ha.subscriptions _ s' hs'
    · exact hq htotal
    · rw [he, ht]
      exact h.subscription hsource s hs (ht ▸ htotal)

/-! ### Charges -/

/-- The rows pay for a charge of `q`: the checks that a reserve and an extension make. -/
structure Funded (source : BillingSource) (q : Int) (playground : Bool) (u : User) (t : Token)
    (s : Option UserSubscription) : Prop where
  wallet : source = .wallet → q ≤ u.quota
  token : playground = true ∨ t.unlimitedQuota = true ∨ q ≤ t.remainQuota
  subscription : source = .subscription → ∃ x, s = some x ∧
    (0 < x.amountTotal → x.amountUsed + q ≤ x.amountTotal)

theorem Token.charge_remainQuota (t : Token) (d : AccountQuotaDeltas) (now : Int) :
    (t.charge d now).remainQuota = t.remainQuota + d.tokenRemainQuota := by
  unfold charge
  split
  · next hz => omega
  · rfl

@[simp]
theorem Token.charge_unlimitedQuota (t : Token) (d : AccountQuotaDeltas) (now : Int) :
    (t.charge d now).unlimitedQuota = t.unlimitedQuota := by
  unfold charge
  split <;> rfl

section

variable (s : UserSubscription) (d : AccountQuotaDeltas) (now : Int)

theorem UserSubscription.charge_amountUsed :
    (s.charge d now).amountUsed = s.amountUsed + d.subscriptionAmountUsed := by
  unfold charge
  split
  · next hz => omega
  · rfl

@[simp]
theorem UserSubscription.charge_amountTotal : (s.charge d now).amountTotal = s.amountTotal := by
  unfold charge
  split <;> rfl

end

section Rewrite

variable {ρ : Type} [Row ρ] {tbl : Table ρ} {r x old : ρ} {i : Int}

/-- The row that is read behind a rewrite is the rewritten one or an old one. -/
private theorem get?_put_cases (h : (tbl.put r).get? i = some x) :
    (i = Row.id r ∧ x = r) ∨ tbl.get? i = some x := by
  rw [get?_put] at h
  split at h
  · next hi =>
    obtain ⟨_, -, rfl⟩ := Option.map_eq_some_iff.mp h
    exact .inl ⟨hi, rfl⟩
  · exact .inr h

private theorem get?_put_own (hold : tbl.get? i = some old) (hid : Row.id r = i)
    (h : (tbl.put r).get? i = some x) : x = r := by
  subst hid
  exact Option.some.inj (h.symm.trans (get?_put_self hold))

end Rewrite

section Charge

variable {source : BillingSource} {q : Int} {playground : Bool} {u : User} {t : Token}
  {s : Option UserSubscription}

section

variable (h : Funded source q playground u t s)
include h

theorem Funded.token_covers
    (hlimited : t.unlimitedQuota = false) :
    (accountQuotaRequestedDeltas source q playground).tokenRemainQuota = 0 ∨
      0 ≤ t.remainQuota + (accountQuotaRequestedDeltas source q playground).tokenRemainQuota := by
  rw [requestedDeltas_tokenRemain, requestedDeltas_tokenUsed]
  split
  · next hcharged =>
    rcases h.token with hp | hp | hp
    · simp [hp] at hcharged
    · simp [hp] at hlimited
    · exact .inr (by omega)
  · exact .inl rfl

/-- A funded charge leaves every row inside its limit or as it was. -/
theorem Funded.admits (db : DB) (now : Int)
    (hu : db.users.get? u.id = some u) (ht : db.tokens.get? t.id = some t)
    (hs : ∀ x, s = some x → db.subscriptions.get? x.id = some x) :
    Admits db (db.charge u t s (accountQuotaRequestedDeltas source q playground) now) := by
  refine ⟨?_, ?_, ?_⟩
  · intro i u' hu'
    obtain ⟨rfl, rfl⟩ | hold := get?_put_cases hu'
    · by_cases hw : source = .wallet
      · have hq := h.wallet hw
        exact .inl (by simp only [User.charge, requestedDeltas_userQuota, hw, if_true]; omega)
      · exact .inr ⟨u, hu, by simp [User.charge, requestedDeltas_userQuota, hw]⟩
    · exact .inr ⟨u', hold, rfl⟩
  · intro i t' ht'
    obtain ⟨hi, rfl⟩ | hold := get?_put_cases ht'
    · obtain rfl : i = t.id := hi.trans (charge_id ..)
      cases hlimited : t.unlimitedQuota with
      | true => exact .inl (by simp [hlimited])
      | false =>
        rw [charge_remainQuota]
        rcases h.token_covers hlimited with hz | hz
        · exact .inr ⟨t, ht, by simp, by rw [hz, Int.add_zero]⟩
        · exact .inl fun _ => hz
    · exact .inr ⟨t', hold, rfl, rfl⟩
  · intro i s' hs'
    cases s with
    | none => exact .inr ⟨s', hs', rfl, rfl⟩
    | some x =>
      obtain ⟨hi, rfl⟩ | hold := get?_put_cases hs'
      · obtain rfl : i = x.id := hi.trans (charge_id ..)
        rw [charge_amountUsed, charge_amountTotal,
          requestedDeltas_subscription]
        by_cases hsub : source = .subscription
        · obtain ⟨y, hy, hfits⟩ := h.subscription hsub
          cases hy
          rw [if_pos hsub]
          exact .inl hfits
        · rw [if_neg hsub]
          exact .inr ⟨x, hs x rfl, rfl, Int.add_zero _⟩
      · exact .inr ⟨s', hold, rfl, rfl⟩

/-- Behind a funded charge its rows are inside their limits. -/
theorem Funded.withinLimits (db : DB) (now : Int)
    (hu : db.users.get? u.id = some u) (ht : db.tokens.get? t.id = some t)
    (hs : ∀ x, s = some x → db.subscriptions.get? x.id = some x ∧ x.id = r.subscriptionID)
    (hsource : r.billingSource = source) (huser : r.userID = u.id) (htoken : r.tokenID = t.id)
    (hplay : r.billingContext.playground = playground) :
    WithinLimits (db.charge u t s (accountQuotaRequestedDeltas source q playground) now) r := by
  subst hsource hplay
  refine ⟨?_, ?_, ?_⟩
  · intro hw u' hu'
    rw [huser] at hu'
    obtain rfl := get?_put_own (r := u.charge _) hu rfl hu'
    have hq := h.wallet hw
    simp only [User.charge, requestedDeltas_userQuota, hw, if_true]
    omega
  · intro hfree hplay t' ht' hlimited
    rw [htoken] at ht'
    obtain rfl := get?_put_own ht (charge_id ..) ht'
    rw [charge_unlimitedQuota] at hlimited
    rw [charge_remainQuota, requestedDeltas_tokenRemain, requestedDeltas_tokenUsed,
      if_pos ⟨hfree, hplay⟩]
    rcases h.token with hp | hp | hp
    · rw [hplay] at hp
      cases hp
    · rw [hlimited] at hp
      cases hp
    · omega
  · intro hsub s' hs' htotal
    obtain ⟨x, rfl, hfits⟩ := h.subscription hsub
    obtain ⟨hx, hid⟩ := hs x rfl
    obtain rfl := get?_put_own (hid ▸ hx) ((x.charge_id ..).trans hid) hs'
    rw [charge_amountTotal] at htotal ⊢
    rw [charge_amountUsed, requestedDeltas_subscription, if_pos hsub]
    exact hfits htotal

end

end Charge

variable {log : ResetLog}

theorem resets_admit {subs : Table UserSubscription}
    (h : ResetEffect db.subscriptions subs log) : Admits db { db with subscriptions := subs } := by
  refine ⟨(Admits.refl db).users, (Admits.refl db).tokens, ?_⟩
  intro i s' hs'
  cases hs : db.subscriptions.get? i with
  | none =>
    rw [show subs.get? i = none from h.1 i hs] at hs'
    cases hs'
  | some s =>
    obtain ⟨x, hx, hr⟩ := h.2 i s hs
    cases hx.symm.trans hs'
    rcases hr.cleared with hc | hc
    · exact .inr ⟨s, rfl, hr.amountTotal, hc⟩
    · exact .inl fun htotal => by omega

/-! ### The checks of the two transactions -/

/-- The chosen source holds the quota it was chosen for. -/
theorem selectAccountBillingSource_funds {preference : BillingPreference}
    {walletQuota subscriptionQuota : Int} {c : SourceChoice}
    (h : selectAccountBillingSource db env user preference walletQuota subscriptionQuota = .ok c) :
    (c.source = .wallet → walletQuota ≤ user.quota) ∧
      (c.source = .subscription → ∃ s, c.subscription = some s ∧
        (s.amountTotal = 0 ∨ s.amountUsed ≤ s.amountTotal - subscriptionQuota)) := by
  simp only [selectAccountBillingSource, bind_eq_ok] at h
  obtain ⟨eligible, -, h⟩ := h
  split at h
  · cases h
    exact ⟨by simp, by simp⟩
  split at h
  · next hwallet =>
    cases h
    exact ⟨fun _ => hwallet.2, by simp⟩
  split at h
  · cases h
  obtain ⟨sel, hsel, h⟩ := bind_eq_ok.mp h
  split at h
  · next s hs =>
    split at h <;> cases h
    exact ⟨by simp, fun _ => ⟨s, rfl, selectActive_fits hsel hs⟩⟩
  · split at h <;> cases h
    next hwallet => exact ⟨fun _ => hwallet.2.1, by simp⟩

variable {choice : SourceChoice} {applied : Int}

theorem reserveFunding_funded {ctx : ReserveCtx}
    (h : reserveFunding db env ctx user token = .ok (choice, applied)) :
    Funded choice.source applied ctx.playground user token choice.subscription ∨
      choice.source = .free := by
  unfold reserveFunding at h
  split at h
  · cases h
    exact .inr rfl
  simp only [bind_eq_ok, check_eq_ok, exists_const, pure_eq_ok, Prod.mk.injEq] at h
  obtain ⟨c, hc, htoken, rfl, rfl⟩ := h
  obtain ⟨hwallet, hsub⟩ := selectAccountBillingSource_funds hc
  -- trust lowers the charge to nothing, while the source was chosen for the requested quota
  refine .inl ⟨?_, ?_, ?_⟩
  · intro hw
    have hquota := hwallet hw
    split <;> split at hquota <;> omega
  · rcases htoken with hp | hu | hq
    · exact .inl hp
    · exact .inr (.inl hu)
    · exact .inr (.inr (not_lt.mp hq))
  · intro hs
    obtain ⟨s, hsome, hfits⟩ := hsub hs
    refine ⟨s, hsome, fun htotal => ?_⟩
    rcases hfits with hz | hfits
    · omega
    · split <;> split at hfits <;> omega

variable {sub : Option UserSubscription} {current : Receipt} {head : Head}

theorem extendFunds_funded
    {delta : Int} (h : extendFunds head current user token sub delta = .ok ()) :
    Funded head.billingSource delta current.billingContext.playground user token sub := by
  simp only [extendFunds, bind_eq_ok, check_eq_ok, exists_const] at h
  obtain ⟨htoken, h⟩ := h
  refine ⟨?_, ?_, ?_⟩
  · intro hw
    rw [hw] at h
    exact not_lt.mp (check_eq_ok.mp h)
  · rcases htoken with hp | hu | hq
    · exact .inl hp
    · exact .inr (.inl hu)
    · exact .inr (.inr (not_lt.mp hq))
  · intro hs
    rw [hs] at h
    cases sub with
    | none => cases h
    | some x =>
      refine ⟨x, rfl, fun htotal => ?_⟩
      have hfits := check_eq_ok.mp h
      omega

theorem reserve_admits {ctx : ReserveCtx}
    (ps : Table ProjectionObligation) (hctx : ctx.Ok)
    (g : ReserveGuards db env ctx user token choice applied) :
    Admits db (reserveResult db env ctx user token choice applied ps) ∧
      WithinLimits (reserveResult db env ctx user token choice applied ps)
        (reserveStored db env ctx user token choice applied) := by
  obtain ⟨heff, hsrc, -, hfree⟩ := reserveFunding_ok g.funding
  have hu : db.users.get? user.id = some user := get?_own g.userRow
  have ht : db.tokens.get? token.id = some token := get?_own g.tokenRow
  have hs := reserveFunding_stored g.funding
  have hreset := resets_admit heff
  rcases reserveFunding_funded g.funding with hfunded | hsource
  · have hcharge := hfunded.admits { db with subscriptions := choice.subscriptions }
      env.now hu ht (fun x hx => (hs x hx).1)
    have hwithin := hfunded.withinLimits { db with subscriptions := choice.subscriptions }
      (r := reserveStored db env ctx user token choice applied) env.now hu ht hs rfl rfl rfl
      hctx.playground
    have hall := hreset.trans hcharge
    exact ⟨{ hall with }, { hwithin with }⟩
  · -- a free reserve charges nothing, and its receipt has no limit to keep
    have hzero : Funded .selfUse 0 true user token choice.subscription :=
      ⟨by simp, .inl rfl, by simp⟩
    have hcharge := hzero.admits { db with subscriptions := choice.subscriptions }
      env.now hu ht (fun x hx => (hs x hx).1)
    have hdeltas : reserveDeltas ctx choice applied = accountQuotaRequestedDeltas .selfUse 0 true := by
      simp [reserveDeltas, accountQuotaRequestedDeltas, hsource]
    have hall := hreset.trans hcharge
    refine ⟨?_, ?_⟩
    · unfold reserveResult
      rw [hdeltas]
      exact { hall with }
    · have hr : (reserveStored db env ctx user token choice applied).billingSource = .free := hsource
      exact ⟨by simp [hr], by simp [hr], by simp [hr]⟩

theorem extend_admits {ctx : ExtendCtx}
    {o : Obligation} (ps : Table ProjectionObligation)
    (g : ExtendGuards db env ctx head current user token sub o) :
    Admits db { extendResult db env ctx head current user token sub o with projections := ps } ∧
      WithinLimits { extendResult db env ctx head current user token sub o with projections := ps }
        (extendStored db env ctx head current user token sub) := by
  have hm := g.current_matches
  have huid : user.id = head.userID := get?_id g.userRow
  have htid : token.id = head.tokenID := get?_id g.tokenRow
  have hfunded := extendFunds_funded g.funds
  have hall := hfunded.admits db env.now (get?_own g.userRow) (get?_own g.tokenRow)
    (fun x hx => (lockSubscription_stored g.subRow x hx).1)
  have hwithin := hfunded.withinLimits db
    (r := extendStored db env ctx head current user token sub) env.now
    (get?_own g.userRow) (get?_own g.tokenRow)
    (fun x hx => ⟨(lockSubscription_stored g.subRow x hx).1,
      (lockSubscription_stored g.subRow x hx).2.trans hm.subscriptionID.symm⟩)
    hm.billingSource (hm.userID.trans huid.symm) (hm.tokenID.trans htid.symm) rfl
  exact ⟨{ hall with }, { hwithin with }⟩

/-! ### Runs of admissions -/

/-- The captured values of an admission. -/
def CallCtx.Admission : CallCtx → Prop
  | .reserve ctx => ctx.Ok
  | .extend _ => True
  | .terminal _ => False

/-- A committed admission changes nothing or stores one receipt within its limits. -/
theorem callTx_admits (hctx : ctx.Admission)
    (h : callTx db env ctx = .ok (db', r, log)) :
    db' = db ∨ (Admits db db' ∧ WithinLimits db' r ∧ r.id = db.receipts.nextId ∧
      ∀ x, x ∈ db'.receipts.rows ↔ x ∈ db.receipts.rows ∨ x = r) := by
  cases ctx with
  | terminal ctx => exact hctx.elim
  | reserve ctx =>
    rcases reserveTx_ok h with ⟨rfl, -⟩ | ⟨user, token, choice, applied, ps, g, rfl, -, rfl, -⟩
    · exact .inl rfl
    · obtain ⟨hadmits, hwithin⟩ := reserve_admits ps hctx g
      exact .inr ⟨hadmits, hwithin, rfl, fun _ => mem_insert⟩
  | extend ctx =>
    obtain ⟨⟨db'', r'⟩, htx, he⟩ := map_eq_ok.mp h
    obtain ⟨rfl, rfl, -⟩ : db'' = db' ∧ r' = r ∧ [] = log := by simpa using he
    rcases extendTx_ok htx with ⟨rfl, -⟩ | ⟨head, current, user, token, sub, o, ps, g, rfl, rfl, -⟩
    · exact .inl rfl
    · obtain ⟨hadmits, hwithin⟩ := extend_admits ps g
      exact .inr ⟨hadmits, hwithin, rfl, fun _ => mem_insert⟩

/-- The actions of reserve and extend calls. -/
def Action.admission : Action → Bool
  | .start (.reserve _) => true
  | .start (.extend _ _) => true
  | .precheck _ => true
  | .precheckFail _ => true
  | .transact .. => true
  | .readback .. => true
  | .cancel _ => true
  | _ => false

/-- A step of some admission. -/
def World.admit (w : World) (a : Action) : Option World := if a.admission then w.step a else none

/-- The worlds that reserve and extend calls reach from `db₀` in any interleaving. -/
def World.AdmittedFrom (db₀ : DB) (w : World) : Prop :=
  ∃ actions, run World.admit { db := db₀ } actions = some w

/-- The call is a reserve or an extension, and so are the values it captured. -/
def Call.Admission (c : Call) : Prop :=
  ((∃ input, c.input = .reserve input) ∨ ∃ id target, c.input = .extend id target) ∧
    match c.state with
    | .attempt ctx _ => ctx.Admission
    | .readback ctx _ _ => ctx.Admission
    | _ => True

section

variable (hc : c.Admission)
include hc

theorem afterPrecheck_admission :
    Call.Admission ⟨c.input, .afterPrecheck (callPrecheck db c.input)⟩ := by
  refine ⟨hc.1, ?_⟩
  obtain ⟨input, hi⟩ | ⟨id, target, hi⟩ := hc.1
  · simp only [hi, callPrecheck]
    cases hp : reservePrecheck db input with
    | error e => trivial
    | ok p =>
      obtain ⟨norm, hnorm, ⟨r, -, rfl, -⟩ | ⟨epoch, rfl⟩⟩ := reservePrecheck_ok hp
      · trivial
      · exact reserveInput_ok hnorm epoch
  · simp only [hi, callPrecheck]
    cases extendPrecheck db id target with
    | error e => trivial
    | ok p => cases p <;> trivial

theorem giveUp_admission (hctx : ctx.Admission) (e : LedgerError) :
    Call.Admission ⟨c.input, .giveUp ctx e⟩ := by
  refine ⟨hc.1, ?_⟩
  cases ctx with
  | terminal ctx => exact hctx.elim
  | reserve ctx => trivial
  | extend ctx => trivial

theorem retry_admission (hctx : ctx.Admission) (n : Nat) (e : LedgerError)
    (busy : Bool) : Call.Admission ⟨c.input, .retry ctx n e busy⟩ := by
  unfold CallState.retry
  split
  · exact ⟨hc.1, hctx⟩
  · exact giveUp_admission hc hctx e

theorem afterReadback_admission (hctx : ctx.Admission) (n : Nat)
    (e : LedgerError) (read : ReadOutcome) (busy : Bool) :
    Call.Admission ⟨c.input, .afterReadback db ctx n e read busy⟩ := by
  have hretry := retry_admission hc hctx n e busy
  unfold CallState.afterReadback
  split
  · exact hretry
  cases read with
  | failed => exact giveUp_admission hc hctx _
  | locked => exact hretry
  | answered =>
    cases accountQuotaReplay db ctx.eventKey ctx.fingerprint with
    | error e' => exact giveUp_admission hc hctx e'
    | ok o =>
      cases o with
      | none => exact hretry
      | some r => exact ⟨hc.1, trivial⟩

end

theorem CallCtx.Admission.afterAttempt (h : ctx.Admission) (db : DB) :
    (ctx.afterAttempt db).Admission := by
  cases ctx with
  | terminal ctx => exact h.elim
  | reserve ctx => exact h
  | extend ctx => exact h

/-- Every call is an admission. -/
def World.Admissions (w : World) : Prop := ∀ c ∈ w.calls, c.Admission

theorem World.Admissions.setCall (h : w.Admissions) {i : Nat} (hc : c.Admission) :
    (w.setCall i c).Admissions := by
  intro x hx
  rcases mem_or_eq_of_mem_set hx with hx | rfl
  · exact h x hx
  · exact hc

/-- What one step of an admission does: the database stays, or a transaction committed and its
call returns the receipt unless the response was lost. -/
inductive AdmitStep (w w' : World) : Action → Prop
  | stay {a : Action} (h : w'.db = w.db) : AdmitStep w w' a
  | commit (input : CallInput) {i : Nat} {env : TxEnv} {outcome : TxOutcome} {ctx : CallCtx}
    {r : Receipt} {log : ResetLog} (hctx : ctx.Admission)
    (htx : callTx w.db env ctx = .ok (w'.db, r, log))
    (hreturn : outcome = .respond → w'.calls[i]? = some ⟨input, .returned (.ok r)⟩) :
    AdmitStep w w' (.transact i env outcome)

theorem transact_admits {i n : Nat} {outcome : TxOutcome} (hw : w.Admissions)
    (hi : w.calls[i]? = some c) (hc : c.Admission) (hctx : ctx.Admission) :
    AdmitStep w (w.transact i c.input ctx n env outcome) (.transact i env outcome) ∧
      (w.transact i c.input ctx n env outcome).Admissions := by
  have hback : ∀ e, Call.Admission ⟨c.input, .readback (ctx.afterAttempt w.db) n e⟩ :=
    fun e => ⟨hc.1, hctx.afterAttempt w.db⟩
  cases outcome with
  | abort locked =>
    refine ⟨.stay rfl, hw.setCall ⟨hc.1, ?_⟩⟩
    cases locked
    · exact hctx
    · exact hctx.afterAttempt w.db
  | respond =>
    unfold transact
    cases htx : callTx w.db env ctx with
    | error e => exact ⟨.stay rfl, hw.setCall (hback e)⟩
    | ok p =>
      have hlt : i < w.calls.length := (List.getElem?_eq_some_iff.mp hi).1
      exact ⟨.commit c.input hctx htx fun _ => getElem?_set_self hlt,
        World.Admissions.setCall (w := w.commit p.1 p.2.2) hw ⟨hc.1, trivial⟩⟩
  | loseResponse =>
    unfold transact
    cases htx : callTx w.db env ctx with
    | error e => exact ⟨.stay rfl, hw.setCall (hback _)⟩
    | ok p =>
      exact ⟨.commit c.input hctx htx (by simp),
        World.Admissions.setCall (w := w.commit p.1 p.2.2) hw (hback _)⟩

variable {a : Action} {w' : World}

theorem World.admit_ok (hw : w.Admissions) (h : w.admit a = some w') :
    AdmitStep w w' a ∧ w'.Admissions := by
  unfold World.admit at h
  have hcall : ∀ {i : Nat} {c : Call}, w.calls[i]? = some c → c.Admission :=
    fun hi => hw _ (mem_of_getElem? hi)
  cases a with
  | start input =>
    split at h <;> cases h
    next hadm =>
      refine ⟨.stay rfl, fun c hc => ?_⟩
      rcases mem_append.mp hc with hc | hc
      · exact hw c hc
      · obtain rfl := mem_singleton.mp hc
        refine ⟨?_, trivial⟩
        cases input with
        | reserve input => exact .inl ⟨input, rfl⟩
        | extend id target => exact .inr ⟨id, target, rfl⟩
        | settle input => cases hadm
        | refund input => cases hadm
  | precheck i =>
    simp only [Action.admission, if_true, step] at h
    split at h <;> cases h
    next input hi => exact ⟨.stay rfl, hw.setCall (afterPrecheck_admission (hcall hi))⟩
  | precheckFail i =>
    simp only [Action.admission, if_true, step] at h
    split at h <;> cases h
    next input hi => exact ⟨.stay rfl, hw.setCall ⟨(hcall hi).1, trivial⟩⟩
  | transact i env outcome =>
    simp only [Action.admission, if_true, step] at h
    split at h <;> cases h
    next input ctx n hi => exact transact_admits hw hi (hcall hi) (hcall hi).2
  | readback i read busy =>
    simp only [Action.admission, if_true, step] at h
    split at h <;> cases h
    next input ctx n e hi =>
      exact ⟨.stay rfl,
        hw.setCall (afterReadback_admission (hcall hi) (hcall hi).2 n e read busy)⟩
  | cancel i =>
    simp only [Action.admission, if_true, step] at h
    split at h <;> cases h
    next input ctx n hi => exact ⟨.stay rfl, hw.setCall (giveUp_admission (hcall hi) (hcall hi).2 _)⟩
  | fallback | refundIntent | manualEvidence | dispatchEvidence | scan | validate | markManual
  | claim | reread | finish | periodReset | adminReset => simp [Action.admission] at h

/-- Every receipt stored since `db₀` is within its limits. -/
def Solvent (db₀ db : DB) : Prop :=
  ∀ r ∈ db.receipts.rows, r ∉ db₀.receipts.rows → WithinLimits db r

variable {db₀ : DB}

theorem Solvent.step (h : Solvent db₀ w.db)
    (hs : AdmitStep w w' a) : Solvent db₀ w'.db := by
  cases hs with
  | stay hdb =>
    rw [hdb]
    exact h
  | commit _ hctx htx =>
    rcases callTx_admits hctx htx with hdb | ⟨hadmits, hwithin, -, hrows⟩
    · rw [hdb]
      exact h
    · intro x hx hnew
      rcases (hrows x).mp hx with hx | rfl
      · exact (h x hx hnew).admits hadmits
      · exact hwithin

/-- No interleaving of reserves and extensions overdraws: behind every commit the rows that any of
these calls charged are inside their limits, and a step that changes the database is a commit that
stores the receipt its call returns. -/
theorem admission_never_overdraws {db₀ : DB} {w : World} (h : World.AdmittedFrom db₀ w) :
    (∀ r ∈ w.db.receipts.rows, r ∉ db₀.receipts.rows → WithinLimits w.db r) ∧
      ∀ a w', w.admit a = some w' → w'.db = w.db ∨
        ∃ i env outcome r, a = .transact i env outcome ∧ r ∈ w'.db.receipts.rows ∧
          r ∉ w.db.receipts.rows ∧
          (outcome = .respond → ∃ input, w'.calls[i]? = some ⟨input, .returned (.ok r)⟩) := by
  obtain ⟨actions, hrun⟩ := h
  have hinv := run_invariant (fun x => x.Admissions ∧ Solvent db₀ x.db)
    (fun x a x' hx hstep =>
      have hok := admit_ok hx.1 hstep
      ⟨hok.2, hx.2.step hok.1⟩)
    actions { db := db₀ } w ⟨by simp [World.Admissions], fun r => absurd⟩ hrun
  refine ⟨hinv.2, fun a w' hstep => ?_⟩
  cases (admit_ok hinv.1 hstep).1 with
  | stay hdb => exact .inl hdb
  | @commit input i env outcome ctx r log hctx htx hreturn =>
    rcases callTx_admits hctx htx with hdb | ⟨-, -, hid, hrows⟩
    · exact .inl hdb
    · refine .inr ⟨i, env, outcome, r, rfl, (hrows r).mpr (.inr rfl), ?_,
        fun ho => ⟨input, hreturn ho⟩⟩
      · intro hr
        have hbound := (get?_bounds (get?_of_mem hr)).2
        have hr' : Row.id r = w.db.receipts.nextId := hid
        omega

/-- A reservation of 10 on the subscription raised to 20, one of 30 on the wallet, and one of 5000
that is rejected. -/
def admissionRun : List Action :=
  smoothCall 0 (.reserve { requestID := "r1", userID := 1, tokenID := 1, requestedQuota := 10
                           billingPreference := "subscription_only" }) 200000 ++
  smoothCall 1 (.extend 1 20) 200001 ++
  smoothCall 2 (.reserve { requestID := "r2", userID := 1, tokenID := 1, requestedQuota := 30
                           billingPreference := "wallet_only" }) 200002 ++
  smoothCall 3 (.reserve { requestID := "r3", userID := 1, tokenID := 1, requestedQuota := 5000
                           billingPreference := "wallet_only" }) 200003

theorem admission_never_overdraws_admissionRun :
    ∃ w, World.AdmittedFrom plainDB w ∧ w.db.receipts.rows.length = 3 ∧
      ∃ r ∈ w.db.receipts.rows, r.billingSource = .subscription ∧ r.appliedQuota = 20 ∧
        WithinLimits w.db r := by
  let w := (run World.admit plainWorld admissionRun).getD plainWorld
  have hrun : (run World.admit plainWorld admissionRun).isSome = true ∧
      w.db.receipts.rows.length = 3 ∧ ∃ r ∈ w.db.receipts.rows, r ∉ plainDB.receipts.rows ∧
        r.billingSource = .subscription ∧ r.appliedQuota = 20 := by decide +kernel
  obtain ⟨hsome, hlen, r, hr, hnew, hsource, happlied⟩ := hrun
  have hreach : World.AdmittedFrom plainDB w := ⟨admissionRun, run_getD hsome⟩
  exact ⟨w, hreach, hlen, r, hr, hsource, happlied, (admission_never_overdraws hreach).1 r hr hnew⟩

end MyApiSpec.Ledger
