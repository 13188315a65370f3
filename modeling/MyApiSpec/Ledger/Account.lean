import MyApiSpec.Ledger.Fingerprint
import MyApiSpec.Ledger.Subscription

/-!
# Account balances of a ledger transaction

The writer gate (`model/quota_writer_epoch.go:131–165`, `model/quota_work_cursor.go:137–234`),
the deltas of a charge, their checked application to user, token and subscription
(`model/account_quota_mutation.go:386–501`), and the choice of the funding source
(`model/account_quota_mutation.go:503–543`).
-/

namespace MyApiSpec.Ledger

open Base Table UserSubscription

/-! ### Writer gate -/

variable {s : Option UserSubscription} {d : AccountQuotaDeltas}

/-- `accountQuotaBackfillPending` (`model/quota_work_cursor.go:137–156`). -/
def accountQuotaBackfillPending (db : DB) : Bool :=
  db.receipts.rows.any (fun r => r.fingerprintVersion ≠ accountQuotaFingerprintVersion) ||
    db.receipts.rows.any (fun r =>
      r.phase = .reserve && !db.heads.rows.any (fun h => h.requestID = r.requestID))

/-- `QuotaMaintenanceBackfillsComplete` (`model/quota_work_cursor.go:207–234`). -/
def quotaMaintenanceBackfillsComplete (db : DB) : Bool :=
  db.accountCursorComplete && !accountQuotaBackfillPending db && db.balanceBackfillDone

/-- `GetQuotaWriterEpochState` (`model/quota_writer_epoch.go:94–110`). -/
def getQuotaWriterEpochState (db : DB) : Except LedgerError QuotaWriterEpoch :=
  need db.writer .writerEpochUnavailable

/-- `requireDurableQuotaWriterEpoch` (`model/quota_writer_epoch.go:131–150`). -/
def requireDurableQuotaWriterEpoch (db : DB) : Except LedgerError QuotaWriterEpoch := do
  let state ← getQuotaWriterEpochState db
  check (state.mode = .authoritative) .durableWriterModeDisabled
  check (quotaMaintenanceBackfillsComplete db = true) .backfillIncomplete
  return state

/-- `requireQuotaProjectionEpoch` (`model/quota_writer_epoch.go:152–165`). -/
def requireQuotaProjectionEpoch (db : DB) (expected : Int) : Except LedgerError Unit := do
  let state ← getQuotaWriterEpochState db
  check (state.mode = .bridge ∨ state.mode = .authoritative) .projectionModeDisabled
  check (0 < expected ∧ state.epoch = expected) .writerEpochMismatch

/-! ### Deltas -/

/-- `accountQuotaRequestedDeltas` (`model/account_quota_mutation.go:386–401`). -/
def accountQuotaRequestedDeltas (source : BillingSource) (quota : Int) (playground : Bool) :
    AccountQuotaDeltas :=
  if source = .free then {}
  else
    { userQuota := if source = .wallet then -quota else 0
      subscriptionAmountUsed := if source = .subscription then quota else 0
      tokenRemainQuota := if playground then 0 else -quota
      tokenUsedQuota := if playground then 0 else quota }

/-- `quotaMutationSnapshot` (`model/quota_mutation.go:994–1019`). -/
def quotaMutationSnapshot (user : User) (token : Token) (subscription : Option UserSubscription) :
    AccountSnapshot where
  user := ⟨user.id, user.status, user.quota, user.usedQuota, user.quotaVersion⟩
  token := ⟨token.id, token.userID, token.status, token.accessedTime, token.expiredTime,
    token.remainQuota, token.quotaVersion, token.unlimitedQuota, token.usedQuota⟩
  subscription := subscription

/-- The subscription part of `accountQuotaAfter` (`model/account_quota_mutation.go:425–445`). -/
def subscriptionAfter (before : Option UserSubscription) (delta now : Int) :
    Except LedgerError (Option UserSubscription) :=
  if delta = 0 then .ok before
  else do
    let s ← need before .invalidInput
    check (quotaMutationVersionValid s.quotaVersion) .ineligible
    check (s.amountTotal = 0 ∨ (checkedQuotaUsed s.amountTotal 0).isSome) .ineligible
    let used ← need (checkedQuotaUsed s.amountUsed delta) .ineligible
    return some { s with amountUsed := used, quotaVersion := s.quotaVersion + 1, updatedAt := now }

/-- `accountQuotaAfter` (`model/account_quota_mutation.go:403–461`). -/
def accountQuotaAfter (before : AccountSnapshot) (deltas : AccountQuotaDeltas) (now : Int) :
    Except LedgerError AccountSnapshot := do
  let userQuota ← need (checkedQuotaBalance before.user.quota deltas.userQuota) .insufficient
  check ((checkedQuotaUsed before.user.usedQuota 0).isSome) .ineligible
  let remainQuota ←
    need (checkedQuotaBalance before.token.remainQuota deltas.tokenRemainQuota) .ineligible
  let usedQuota ← need (checkedQuotaUsed before.token.usedQuota deltas.tokenUsedQuota) .ineligible
  let subscription ← subscriptionAfter before.subscription deltas.subscriptionAmountUsed now
  check (deltas.userQuota = 0 ∨ quotaMutationVersionValid before.user.quotaVersion) .ineligible
  let user :=
    if deltas.userQuota = 0 then before.user
    else { before.user with quota := userQuota, quotaVersion := before.user.quotaVersion + 1 }
  check ((deltas.tokenRemainQuota = 0 ∧ deltas.tokenUsedQuota = 0) ∨
    quotaMutationVersionValid before.token.quotaVersion) .ineligible
  let token :=
    if deltas.tokenRemainQuota = 0 ∧ deltas.tokenUsedQuota = 0 then before.token
    else { before.token with remainQuota := remainQuota, usedQuota := usedQuota
                             accessedTime := now, quotaVersion := before.token.quotaVersion + 1 }
  return ⟨user, token, subscription⟩

/-- The `users` update of `applyAccountQuotaBalances`. -/
def applyUserBalance (users : Table User) (before after : UserSnapshot) (delta : Int) :
    Except LedgerError (Table User) :=
  if delta = 0 then .ok users
  else
    need (users.cas before.id
      (fun u => u.quota = before.quota ∧ u.quotaVersion = before.quotaVersion)
      (fun u => { u with quota := after.quota, quotaVersion := after.quotaVersion })) .casLost

/-- The `tokens` update of `applyAccountQuotaBalances`. -/
def applyTokenBalance (tokens : Table Token) (before after : TokenSnapshot)
    (remainDelta usedDelta : Int) : Except LedgerError (Table Token) :=
  if remainDelta = 0 ∧ usedDelta = 0 then .ok tokens
  else
    need (tokens.cas before.id
      (fun t => t.userID = before.userID ∧ t.remainQuota = before.remainQuota ∧
        t.usedQuota = before.usedQuota ∧ t.quotaVersion = before.quotaVersion)
      (fun t => { t with remainQuota := after.remainQuota, usedQuota := after.usedQuota
                         accessedTime := after.accessedTime
                         quotaVersion := after.quotaVersion })) .casLost

/-- The `user_subscriptions` update of `applyAccountQuotaBalances`. -/
def applySubscriptionBalance (subs : Table UserSubscription)
    (before after : Option UserSubscription) (delta : Int) :
    Except LedgerError (Table UserSubscription) :=
  if delta = 0 then .ok subs
  else do
    let b ← need before .invalidInput
    let a ← need after .invalidInput
    need (subs.cas b.id
      (fun s => s.userID = b.userID ∧ s.amountUsed = b.amountUsed ∧
        s.quotaVersion = b.quotaVersion)
      (fun s => { s with amountUsed := a.amountUsed, quotaVersion := a.quotaVersion
                         updatedAt := a.updatedAt })) .casLost

/-- `applyAccountQuotaBalances` (`model/account_quota_mutation.go:463–501`). -/
def applyAccountQuotaBalances (db : DB) (before after : AccountSnapshot)
    (deltas : AccountQuotaDeltas) : Except LedgerError DB := do
  let users ← applyUserBalance db.users before.user after.user deltas.userQuota
  let tokens ← applyTokenBalance db.tokens before.token after.token deltas.tokenRemainQuota
    deltas.tokenUsedQuota
  let subscriptions ← applySubscriptionBalance db.subscriptions before.subscription
    after.subscription deltas.subscriptionAmountUsed
  return { db with users := users, tokens := tokens, subscriptions := subscriptions }

/-! ### Funding source -/

/-- `AdmissionDecision` (`pkg/personalusage/policy.go:5–13`). -/
inductive AdmissionDecision where
  | configuredFunding
  | needFundingState
  | selfUseFunding
  | invalidPolicy
  | fundingUnavailable
  deriving DecidableEq, Repr

/-- `EvaluateAdmission` (`pkg/personalusage/policy.go:20–37`). -/
def evaluateAdmission (noBalance : Bool) (revision : Int) (state : Option FundingState) :
    AdmissionDecision :=
  if !noBalance then .configuredFunding
  else if revision ≤ 0 then .invalidPolicy
  else
    match state with
    | none => .needFundingState
    | some state =>
      if !state.valid then .fundingUnavailable
      else if state.disabled then .selfUseFunding
      else .configuredFunding

/-- `selfUseNoBalanceAdmissionTx` (`model/user_usage_policy.go:151–176`). -/
def selfUseNoBalanceAdmissionTx (funding : FundingState) (user : User) :
    Except LedgerError Bool :=
  let first := evaluateAdmission user.selfUseNoBalance user.usagePolicyRevision none
  let decision :=
    if first = .needFundingState then
      evaluateAdmission user.selfUseNoBalance user.usagePolicyRevision (some funding)
    else first
  match decision with
  | .configuredFunding => .ok false
  | .selfUseFunding => .ok true
  | .invalidPolicy => .error .usagePolicyInvalid
  | .fundingUnavailable | .needFundingState => .error .fundingUnavailable

/-- The chosen source, the chosen subscription, and the subscription table and log after the
resets that the choice applied. -/
structure SourceChoice where
  source : BillingSource
  subscription : Option UserSubscription
  subscriptions : Table UserSubscription
  log : ResetLog

/-- `selectAccountBillingSource` (`model/account_quota_mutation.go:503–543`). -/
def selectAccountBillingSource (db : DB) (env : TxEnv) (user : User)
    (preference : BillingPreference) (walletQuota subscriptionQuota : Int) :
    Except LedgerError SourceChoice := do
  let eligible ← selfUseNoBalanceAdmissionTx db.funding user
  if eligible then return ⟨.selfUse, none, db.subscriptions, []⟩
  else if (preference = .walletOnly ∨ preference = .walletFirst) ∧ user.quota ≥ walletQuota then
    return ⟨.wallet, none, db.subscriptions, []⟩
  else if preference = .walletOnly then .error .insufficient
  else do
    let sel ← selectActiveUserSubscriptionForPreConsumeTx env db.plans db.subscriptions user.id
      subscriptionQuota
    match sel.selected with
    | some s =>
      if preference = .direct then .error .insufficient
      else return ⟨.subscription, some s, sel.subscriptions, sel.log⟩
    | none =>
      if preference = .subscriptionFirst ∧ user.quota ≥ walletQuota ∧
          (sel.hasActive = false ∨ sel.allowWalletOverflow = true) then
        return ⟨.wallet, none, sel.subscriptions, sel.log⟩
      else .error .insufficient

/-! ### Effect of a charge -/

/-- A user row after a wallet delta. -/
def User.charge (u : User) (d : AccountQuotaDeltas) : User :=
  { u with quota := u.quota + d.userQuota
           quotaVersion := if d.userQuota = 0 then u.quotaVersion else u.quotaVersion + 1 }

/-- A token row after its deltas. -/
def Token.charge (t : Token) (d : AccountQuotaDeltas) (now : Int) : Token :=
  if d.tokenRemainQuota = 0 ∧ d.tokenUsedQuota = 0 then t
  else
    { t with remainQuota := t.remainQuota + d.tokenRemainQuota
             usedQuota := t.usedQuota + d.tokenUsedQuota
             accessedTime := now, quotaVersion := t.quotaVersion + 1 }

/-- A subscription row after its delta. -/
def UserSubscription.charge (s : UserSubscription) (d : AccountQuotaDeltas) (now : Int) :
    UserSubscription :=
  if d.subscriptionAmountUsed = 0 then s
  else
    { s with amountUsed := s.amountUsed + d.subscriptionAmountUsed
             quotaVersion := s.quotaVersion + 1, updatedAt := now }

/-- A subscription row whose amount can be moved by `delta`. -/
structure UserSubscription.Chargeable (s : UserSubscription) (delta : Int) : Prop where
  version : quotaMutationVersionValid s.quotaVersion
  total : s.amountTotal = 0 ∨ (0 ≤ s.amountTotal ∧ s.amountTotal ≤ maxQuotaBalance)
  used : 0 ≤ s.amountUsed ∧ s.amountUsed ≤ maxQuotaBalance
  target : 0 ≤ s.amountUsed + delta ∧ s.amountUsed + delta ≤ maxQuotaBalance

/-- The rows accept the deltas: every current and every new balance is in range and every
version that would be bumped can be. -/
structure Chargeable (u : User) (t : Token) (s : Option UserSubscription)
    (d : AccountQuotaDeltas) : Prop where
  quota : -maxQuotaBalance ≤ u.quota ∧ u.quota ≤ maxQuotaBalance
  quotaTarget : -maxQuotaBalance ≤ u.quota + d.userQuota ∧ u.quota + d.userQuota ≤ maxQuotaBalance
  userUsed : 0 ≤ u.usedQuota ∧ u.usedQuota ≤ maxQuotaBalance
  remain : -maxQuotaBalance ≤ t.remainQuota ∧ t.remainQuota ≤ maxQuotaBalance
  remainTarget : -maxQuotaBalance ≤ t.remainQuota + d.tokenRemainQuota ∧
    t.remainQuota + d.tokenRemainQuota ≤ maxQuotaBalance
  used : 0 ≤ t.usedQuota ∧ t.usedQuota ≤ maxQuotaBalance
  usedTarget : 0 ≤ t.usedQuota + d.tokenUsedQuota ∧
    t.usedQuota + d.tokenUsedQuota ≤ maxQuotaBalance
  subscription : d.subscriptionAmountUsed ≠ 0 →
    ∃ x, s = some x ∧ x.Chargeable d.subscriptionAmountUsed
  userVersion : d.userQuota ≠ 0 → quotaMutationVersionValid u.quotaVersion
  tokenVersion : ¬ (d.tokenRemainQuota = 0 ∧ d.tokenUsedQuota = 0) →
    quotaMutationVersionValid t.quotaVersion

private theorem checkedQuotaUsed_zero_isSome_iff {v : Int} :
    (checkedQuotaUsed v 0).isSome = true ↔ 0 ≤ v ∧ v ≤ maxQuotaBalance := by
  rw [Option.isSome_iff_exists]
  constructor
  · rintro ⟨w, hw⟩
    exact (checkedQuotaUsed_eq_some.mp hw).1
  · intro h
    exact ⟨v, checkedQuotaUsed_eq_some.mpr ⟨h, by simpa using h, by omega⟩⟩

private theorem subscriptionAfter_eq_ok {a : Option UserSubscription} {now : Int} :
    subscriptionAfter s d.subscriptionAmountUsed now = .ok a ↔
      (d.subscriptionAmountUsed ≠ 0 → ∃ x, s = some x ∧ x.Chargeable d.subscriptionAmountUsed) ∧
        a = s.map (fun x => x.charge d now) := by
  unfold subscriptionAfter
  by_cases hd : d.subscriptionAmountUsed = 0
  · have hmap : s.map (fun x => x.charge d now) = s := by
      cases s <;> simp [charge, hd]
    simp [hd, hmap, eq_comm]
  · simp only [hd, if_false, bind_eq_ok, need_eq_ok, check_eq_ok, exists_const,
        checkedQuotaUsed_zero_isSome_iff, checkedQuotaUsed_eq_some, pure_eq_ok, ne_eq, not_false_eq_true,
        true_implies]
    constructor
    · rintro ⟨x, rfl, hv, ht, w, ⟨hu, htgt, rfl⟩, rfl⟩
      exact ⟨⟨x, rfl, hv, ht, hu, htgt⟩, by simp [charge, hd]⟩
    · rintro ⟨⟨x, rfl, hx⟩, rfl⟩
      exact ⟨x, rfl, hx.version, hx.total, _, ⟨hx.used, hx.target, rfl⟩,
        by simp [charge, hd]⟩

/-- `accountQuotaAfter` on stored rows: it succeeds exactly on chargeable rows and returns the
snapshot of the charged rows. -/
theorem accountQuotaAfter_eq_ok {u : User} {t : Token} {now : Int} {a : AccountSnapshot} :
    accountQuotaAfter (quotaMutationSnapshot u t s) d now = .ok a ↔
      Chargeable u t s d ∧
        a = quotaMutationSnapshot (u.charge d) (t.charge d now)
          (s.map (fun x => x.charge d now)) := by
  simp only [accountQuotaAfter, bind_eq_ok, need_eq_ok, check_eq_ok, exists_const]
  simp only [quotaMutationSnapshot, checkedQuotaBalance_eq_some, checkedQuotaUsed_eq_some,
    checkedQuotaUsed_zero_isSome_iff, subscriptionAfter_eq_ok, pure_eq_ok]
  constructor
  · rintro ⟨q, ⟨hq, hqt, rfl⟩, huu, r, ⟨hr, hrt, rfl⟩, w, ⟨hw, hwt, rfl⟩, x, ⟨hs, rfl⟩, huv, htv, rfl⟩
    refine ⟨⟨hq, hqt, huu, hr, hrt, hw, hwt, hs, huv.resolve_left,
      htv.resolve_left⟩, ?_⟩
    unfold User.charge Token.charge
    by_cases hu : d.userQuota = 0 <;>
      by_cases ht : d.tokenRemainQuota = 0 ∧ d.tokenUsedQuota = 0 <;> simp [hu, ht]
  · rintro ⟨hc, rfl⟩
    refine ⟨_, ⟨hc.quota, hc.quotaTarget, rfl⟩, hc.userUsed, _, ⟨hc.remain, hc.remainTarget, rfl⟩, _,
      ⟨hc.used, hc.usedTarget, rfl⟩, _, ⟨hc.subscription, rfl⟩, ?_, ?_, ?_⟩
    · exact or_iff_not_imp_left.mpr hc.userVersion
    · exact or_iff_not_imp_left.mpr hc.tokenVersion
    · unfold User.charge Token.charge
      by_cases hu : d.userQuota = 0 <;>
        by_cases ht : d.tokenRemainQuota = 0 ∧ d.tokenUsedQuota = 0 <;> simp [hu, ht]

/-- The account tables after the charge of stored rows. -/
def DB.charge (db : DB) (u : User) (t : Token) (s : Option UserSubscription)
    (d : AccountQuotaDeltas) (now : Int) : DB :=
  { db with users := db.users.put (u.charge d), tokens := db.tokens.put (t.charge d now)
            subscriptions := match s with
              | none => db.subscriptions
              | some x => db.subscriptions.put (x.charge d now) }

/-- Applying the balances of stored rows never loses the compare-and-swap inside the
transaction that read them, and charges exactly those rows. -/
theorem applyAccountQuotaBalances_eq {db : DB} {u : User} {t : Token} {i j : Int} (now : Int)
    (hu : db.users.get? i = some u) (ht : db.tokens.get? j = some t)
    (hs : ∀ x, s = some x → db.subscriptions.get? x.id = some x) (hc : Chargeable u t s d) :
    applyAccountQuotaBalances db (quotaMutationSnapshot u t s)
        (quotaMutationSnapshot (u.charge d) (t.charge d now) (s.map (fun x => x.charge d now))) d =
      .ok (db.charge u t s d now) := by
  have husers : applyUserBalance db.users (quotaMutationSnapshot u t s).user
      (quotaMutationSnapshot (u.charge d) (t.charge d now)
        (s.map (fun x => x.charge d now))).user d.userQuota = .ok (db.users.put (u.charge d)) := by
    unfold applyUserBalance
    by_cases h : d.userQuota = 0
    · have : u.charge d = u := by simp [User.charge, h]
      rw [if_pos h, this, put_self (get?_own hu)]
    · rw [if_neg h, need_eq_ok, cas_eq_some]
      exact ⟨u, get?_own hu, by simp [quotaMutationSnapshot], rfl⟩
  have htokens : applyTokenBalance db.tokens (quotaMutationSnapshot u t s).token
      (quotaMutationSnapshot (u.charge d) (t.charge d now)
        (s.map (fun x => x.charge d now))).token d.tokenRemainQuota d.tokenUsedQuota =
      .ok (db.tokens.put (t.charge d now)) := by
    unfold applyTokenBalance
    by_cases h : d.tokenRemainQuota = 0 ∧ d.tokenUsedQuota = 0
    · have : t.charge d now = t := by simp [Token.charge, h]
      rw [if_pos h, this, put_self (get?_own ht)]
    · rw [if_neg h, need_eq_ok, cas_eq_some]
      exact ⟨t, get?_own ht, by simp [quotaMutationSnapshot],
        by simp [quotaMutationSnapshot, Token.charge, h]⟩
  have hsubs : applySubscriptionBalance db.subscriptions (quotaMutationSnapshot u t s).subscription
      (quotaMutationSnapshot (u.charge d) (t.charge d now)
        (s.map (fun x => x.charge d now))).subscription d.subscriptionAmountUsed =
      .ok (db.charge u t s d now).subscriptions := by
    unfold applySubscriptionBalance
    by_cases h : d.subscriptionAmountUsed = 0
    · rw [if_pos h]
      cases s with
      | none => rfl
      | some x =>
        have : x.charge d now = x := by simp [charge, h]
        simp only [DB.charge, this, put_self (hs x rfl)]
    · obtain ⟨x, rfl, -⟩ := hc.subscription h
      rw [if_neg h]
      simp only [quotaMutationSnapshot, Option.map_some, need_some, ok_bind]
      rw [need_eq_ok, cas_eq_some]
      exact ⟨x, hs x rfl, by simp, by simp [DB.charge, charge, h]⟩
  simp only [applyAccountQuotaBalances, husers, htokens, hsubs, ok_bind]
  rfl

/-- A successful choice of the source applied only logged resets; a subscription is chosen with
a usable row, and any other choice carries no row. -/
theorem selectAccountBillingSource_ok {db : DB} {env : TxEnv} {user : User}
    {preference : BillingPreference} {walletQuota subscriptionQuota : Int} {c : SourceChoice}
    (h : selectAccountBillingSource db env user preference walletQuota subscriptionQuota = .ok c) :
    ResetEffect db.subscriptions c.subscriptions c.log ∧
      ((c.source = .subscription ∧
          ∃ s, c.subscription = some s ∧ Usable c.subscriptions user.id s) ∨
        ((c.source = .wallet ∨ c.source = .selfUse) ∧ c.subscription = none)) := by
  simp only [selectAccountBillingSource, bind_eq_ok] at h
  obtain ⟨eligible, -, h⟩ := h
  split at h
  · cases h
    exact ⟨ResetEffect.refl _, .inr ⟨.inr rfl, rfl⟩⟩
  split at h
  · cases h
    exact ⟨ResetEffect.refl _, .inr ⟨.inl rfl, rfl⟩⟩
  split at h
  · cases h
  obtain ⟨sel, hsel, h⟩ := bind_eq_ok.mp h
  obtain ⟨heff, husable⟩ := selectActive_effect hsel
  split at h
  · next s hs =>
    split at h <;> cases h
    exact ⟨heff, .inl ⟨rfl, s, rfl, husable s hs⟩⟩
  · split at h <;> cases h
    exact ⟨heff, .inr ⟨.inl rfl, rfl⟩⟩

end MyApiSpec.Ledger
