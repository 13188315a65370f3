import Mathlib.Data.Int.Order.Basic
import MyApiSpec.Ledger.Account

/-!
# Checked balances as machine words

`common/quota_balance.go:18–40`, `model/quota_mutation.go:91–167, 974–976` and
`model/account_quota_mutation.go:403–461` once more, on the 64-bit integers of the source and with every field
of the snapshots. Sums and differences wrap here; the checks are made so that no sum that is kept does. The
model of the ledger computes with integers, and on the fields that it has both models agree.
-/

namespace MyApiSpec.Ledger.Word

open Base Option

/-! ### Checked sums -/

variable {delta v : Int64}

/-- `MaxQuotaBalance`. -/
def maxQuotaBalance : Int64 := 9007199254740991

/-- `checkedQuotaBalanceTarget`. -/
def checkedQuotaBalanceTarget (current delta minimum maximum : Int64) : Option Int64 :=
  if current < minimum ∨ current > maximum then none
  else if delta > 0 ∧ delta > maximum - current then none
  else if delta < 0 ∧ delta < minimum - current then none
  else some (current + delta)

/-- `CheckedQuotaBalance`. -/
def checkedQuotaBalance (current delta : Int64) : Option Int64 :=
  checkedQuotaBalanceTarget current delta (-maxQuotaBalance) maxQuotaBalance

/-- `CheckedQuotaUsed`. -/
def checkedQuotaUsed (current delta : Int64) : Option Int64 :=
  checkedQuotaBalanceTarget current delta 0 maxQuotaBalance

/-- `quotaMutationVersionValid`. -/
def quotaMutationVersionValid (version : Int64) : Prop := version ≥ 0 ∧ version < Int64.maxValue

instance (version : Int64) : Decidable (quotaMutationVersionValid version) := inferInstanceAs (Decidable (_ ∧ _))

@[simp]
theorem toInt_maxQuotaBalance : maxQuotaBalance.toInt = Ledger.maxQuotaBalance := by decide

@[simp]
theorem toInt_neg_maxQuotaBalance : (-maxQuotaBalance).toInt = -Ledger.maxQuotaBalance := by decide

theorem toInt_add_of_fits {a b : Int64} (h : -2 ^ 63 ≤ a.toInt + b.toInt) (h' : a.toInt + b.toInt < 2 ^ 63) :
    (a + b).toInt = a.toInt + b.toInt := by
  rw [Int64.toInt_add]
  exact Int.bmod_eq_of_le (by omega) (by omega)

theorem toInt_sub_of_fits {a b : Int64} (h : -2 ^ 63 ≤ a.toInt - b.toInt) (h' : a.toInt - b.toInt < 2 ^ 63) :
    (a - b).toInt = a.toInt - b.toInt := by
  rw [Int64.toInt_sub]
  exact Int.bmod_eq_of_le (by omega) (by omega)

/-- Between bounds of at most 62 bits the checked sum of words is that of the integers. -/
theorem checkedQuotaBalanceTarget_toInt (current delta : Int64) {minimum maximum : Int64}
    (hmin : -2 ^ 62 ≤ minimum.toInt) (hmax : maximum.toInt < 2 ^ 62) :
    (checkedQuotaBalanceTarget current delta minimum maximum).map Int64.toInt =
      Ledger.checkedQuotaBalanceTarget current.toInt delta.toInt minimum.toInt maximum.toInt := by
  have hzero : (0 : Int64).toInt = 0 := by decide
  unfold checkedQuotaBalanceTarget Ledger.checkedQuotaBalanceTarget
  simp only [gt_iff_lt, Int64.lt_iff_toInt_lt, hzero]
  by_cases hcurrent : current.toInt < minimum.toInt ∨ maximum.toInt < current.toInt
  · rw [if_pos hcurrent, if_pos hcurrent]
    rfl
  -- within the bounds neither difference wraps
  have habove : (maximum - current).toInt = maximum.toInt - current.toInt :=
    toInt_sub_of_fits (by omega) (by omega)
  have hbelow : (minimum - current).toInt = minimum.toInt - current.toInt :=
    toInt_sub_of_fits (by omega) (by omega)
  rw [if_neg hcurrent, if_neg hcurrent, habove, hbelow]
  split
  · rfl
  split
  · rfl
  rw [map_some, toInt_add_of_fits] <;> omega

theorem checkedQuotaBalance_toInt (current delta : Int64) :
    (checkedQuotaBalance current delta).map Int64.toInt =
      Ledger.checkedQuotaBalance current.toInt delta.toInt := by
  have h := checkedQuotaBalanceTarget_toInt current delta
    (show -2 ^ 62 ≤ (-maxQuotaBalance).toInt by decide) (show maxQuotaBalance.toInt < 2 ^ 62 by decide)
  rwa [toInt_maxQuotaBalance, toInt_neg_maxQuotaBalance] at h

theorem checkedQuotaUsed_toInt (current delta : Int64) :
    (checkedQuotaUsed current delta).map Int64.toInt = Ledger.checkedQuotaUsed current.toInt delta.toInt := by
  have h := checkedQuotaBalanceTarget_toInt current delta
    (show -2 ^ 62 ≤ (0 : Int64).toInt by decide) (show maxQuotaBalance.toInt < 2 ^ 62 by decide)
  rwa [toInt_maxQuotaBalance] at h

theorem quotaMutationVersionValid_toInt (version : Int64) :
    quotaMutationVersionValid version ↔ Ledger.quotaMutationVersionValid version.toInt := by
  unfold quotaMutationVersionValid Ledger.quotaMutationVersionValid
  rw [ge_iff_le, Int64.le_iff_toInt_le, Int64.lt_iff_toInt_lt]
  rfl

/-- A version that can be incremented does not wrap. -/
theorem toInt_succ {version : Int64} (h : quotaMutationVersionValid version) :
    (version + 1).toInt = version.toInt + 1 := by
  obtain ⟨hpos, hlt⟩ := (quotaMutationVersionValid_toInt version).mp h
  have hone : (1 : Int64).toInt = 1 := by decide
  unfold maxInt64 at hlt
  rw [toInt_add_of_fits] <;> omega

/-! ### Snapshots -/

/-- `QuotaMutationUserSnapshot`. -/
structure UserSnapshot where
  selfUseNoBalance : Bool
  usagePolicyRevision : Int64
  id : Int64
  status : Int64
  role : Int64
  quota : Int64
  usedQuota : Int64
  requestCount : Int64
  quotaVersion : Int64
  group : String
  accountTierID : String
  deriving DecidableEq, Repr

/-- `QuotaMutationTokenSnapshot`. -/
structure TokenSnapshot where
  id : Int64
  userID : Int64
  status : Int64
  createdTime : Int64
  accessedTime : Int64
  expiredTime : Int64
  remainQuota : Int64
  quotaVersion : Int64
  unlimitedQuota : Bool
  usedQuota : Int64
  group : String
  accessProfileID : String
  modelLimitsEnabled : Bool
  modelLimits : String
  crossGroupRetry : Bool
  deriving DecidableEq, Repr

/-- `QuotaMutationSubscriptionSnapshot`. -/
structure SubscriptionSnapshot where
  id : Int64
  userID : Int64
  planID : Int64
  amountTotal : Int64
  amountUsed : Int64
  quotaVersion : Int64
  startTime : Int64
  endTime : Int64
  status : String
  source : String
  lastResetTime : Int64
  nextResetTime : Int64
  upgradeGroup : String
  prevUserGroup : String
  downgradeGroup : String
  allowWalletOverflow : Bool
  createdAt : Int64
  updatedAt : Int64
  deriving DecidableEq, Repr

/-- `QuotaMutationAccountSnapshot`. -/
structure AccountSnapshot where
  user : UserSnapshot
  token : TokenSnapshot
  subscription : Option SubscriptionSnapshot
  deriving DecidableEq, Repr

/-- `AccountQuotaDeltas`. -/
structure AccountQuotaDeltas where
  userQuota : Int64
  tokenRemainQuota : Int64
  tokenUsedQuota : Int64
  subscriptionAmountUsed : Int64
  deriving DecidableEq, Repr

/-- The token part of the deltas is not zero. -/
def AccountQuotaDeltas.touchesToken (d : AccountQuotaDeltas) : Prop := d.tokenRemainQuota ≠ 0 ∨ d.tokenUsedQuota ≠ 0

instance (d : AccountQuotaDeltas) : Decidable d.touchesToken := inferInstanceAs (Decidable (_ ∨ _))

/-- The subscription part of `accountQuotaAfter`. -/
def subscriptionAfter (before : Option SubscriptionSnapshot) (delta now : Int64) :
    Except LedgerError (Option SubscriptionSnapshot) :=
  if delta = 0 then .ok before
  else do
    let s ← need before .invalidInput
    check (quotaMutationVersionValid s.quotaVersion) .ineligible
    check (s.amountTotal = 0 ∨ (checkedQuotaUsed s.amountTotal 0).isSome) .ineligible
    let newUsed ← need (checkedQuotaUsed s.amountUsed delta) .ineligible
    return some { s with amountUsed := newUsed, quotaVersion := s.quotaVersion + 1, updatedAt := now }

/-- The user part of `accountQuotaAfter`. -/
def userAfter (before : UserSnapshot) (delta userQuota : Int64) : Except LedgerError UserSnapshot :=
  if delta = 0 then .ok before
  else do
    check (quotaMutationVersionValid before.quotaVersion) .ineligible
    return { before with quota := userQuota, quotaVersion := before.quotaVersion + 1 }

/-- The token part of `accountQuotaAfter`. -/
def tokenAfter (before : TokenSnapshot) (deltas : AccountQuotaDeltas) (remainQuota usedQuota now : Int64) :
    Except LedgerError TokenSnapshot :=
  if deltas.touchesToken then do
    check (quotaMutationVersionValid before.quotaVersion) .ineligible
    return { before with
      remainQuota := remainQuota
      usedQuota := usedQuota
      accessedTime := now
      quotaVersion := before.quotaVersion + 1 }
  else .ok before

/-- `accountQuotaAfter`. -/
def accountQuotaAfter (before : AccountSnapshot) (deltas : AccountQuotaDeltas) (now : Int64) :
    Except LedgerError AccountSnapshot := do
  let userQuota ← need (checkedQuotaBalance before.user.quota deltas.userQuota) .insufficient
  check ((checkedQuotaUsed before.user.usedQuota 0).isSome) .ineligible
  let remainQuota ← need (checkedQuotaBalance before.token.remainQuota deltas.tokenRemainQuota) .ineligible
  let usedQuota ← need (checkedQuotaUsed before.token.usedQuota deltas.tokenUsedQuota) .ineligible
  let subscription ← subscriptionAfter before.subscription deltas.subscriptionAmountUsed now
  let user ← userAfter before.user deltas.userQuota userQuota
  let token ← tokenAfter before.token deltas remainQuota usedQuota now
  return ⟨user, token, subscription⟩

/-! ### Exactness -/

/-- `after` is the exact sum, and a signed balance. -/
def ExactBalance (before delta after : Int64) : Prop :=
  after.toInt = before.toInt + delta.toInt ∧ -(2 ^ 53 - 1) ≤ after.toInt ∧ after.toInt ≤ 2 ^ 53 - 1

/-- `after` is the exact sum, and a used amount. -/
def ExactUsed (before delta after : Int64) : Prop :=
  after.toInt = before.toInt + delta.toInt ∧ 0 ≤ after.toInt ∧ after.toInt ≤ 2 ^ 53 - 1

/-- The version rises by one if the subject is touched, and stays otherwise. -/
def NextVersion (touched : Prop) [Decidable touched] (before after : Int64) : Prop :=
  after.toInt = if touched then before.toInt + 1 else before.toInt

instance (before delta after : Int64) : Decidable (ExactBalance before delta after) :=
  inferInstanceAs (Decidable (_ ∧ _ ∧ _))

instance (before delta after : Int64) : Decidable (ExactUsed before delta after) :=
  inferInstanceAs (Decidable (_ ∧ _ ∧ _))

variable {current : Int64}

theorem checkedQuotaBalance_exact (h : checkedQuotaBalance current delta = some v) :
    ExactBalance current delta v := by
  have hint := checkedQuotaBalance_toInt current delta
  rw [h, map_some] at hint
  obtain ⟨-, hrange, hv⟩ := checkedQuotaBalance_eq_some.mp hint.symm
  unfold Ledger.maxQuotaBalance at hrange
  exact ⟨hv, by omega, by omega⟩

theorem checkedQuotaUsed_exact (h : checkedQuotaUsed current delta = some v) :
    ExactUsed current delta v := by
  have hint := checkedQuotaUsed_toInt current delta
  rw [h, map_some] at hint
  obtain ⟨-, hrange, hv⟩ := checkedQuotaUsed_eq_some.mp hint.symm
  unfold Ledger.maxQuotaBalance at hrange
  exact ⟨hv, by omega, by omega⟩

/-- What `accountQuotaAfter` does to the user. -/
structure UserExact (before : UserSnapshot) (delta : Int64) (after : UserSnapshot) : Prop where
  quota : ExactBalance before.quota delta after.quota
  version : NextVersion (delta ≠ 0) before.quotaVersion after.quotaVersion
  others : after = { before with quota := after.quota, quotaVersion := after.quotaVersion }

/-- What it does to the token. -/
structure TokenExact (before : TokenSnapshot) (deltas : AccountQuotaDeltas) (after : TokenSnapshot) : Prop where
  remain : ExactBalance before.remainQuota deltas.tokenRemainQuota after.remainQuota
  used : ExactUsed before.usedQuota deltas.tokenUsedQuota after.usedQuota
  version : NextVersion deltas.touchesToken before.quotaVersion after.quotaVersion
  accessed : ¬ deltas.touchesToken → after.accessedTime = before.accessedTime
  others : after = { before with
    remainQuota := after.remainQuota
    usedQuota := after.usedQuota
    quotaVersion := after.quotaVersion
    accessedTime := after.accessedTime }

/-- What it does to the subscription: without a delta nothing, and nothing is checked. -/
structure SubscriptionExact (before : SubscriptionSnapshot) (delta : Int64) (after : SubscriptionSnapshot) :
    Prop where
  untouched : delta = 0 → after = before
  used : delta ≠ 0 → ExactUsed before.amountUsed delta after.amountUsed
  version : NextVersion (delta ≠ 0) before.quotaVersion after.quotaVersion
  others : after = { before with
    amountUsed := after.amountUsed
    quotaVersion := after.quotaVersion
    updatedAt := after.updatedAt }

/-- The subscription of the snapshots. -/
def SubscriptionsExact (delta : Int64) : Option SubscriptionSnapshot → Option SubscriptionSnapshot → Prop
  | none, after => delta = 0 ∧ after = none
  | some before, some after => SubscriptionExact before delta after
  | some _, none => False

theorem userAfter_exact {before after : UserSnapshot}
    (hv : checkedQuotaBalance before.quota delta = some v)
    (h : userAfter before delta v = .ok after) : UserExact before delta after := by
  have hexact := checkedQuotaBalance_exact hv
  unfold userAfter at h
  split at h
  · next hzero =>
    cases h
    subst hzero
    have hv' : v.toInt = before.quota.toInt := by simpa using hexact.1
    refine ⟨⟨by simp, hv' ▸ hexact.2⟩, ?_, rfl⟩
    unfold NextVersion
    rw [if_neg (by simp)]
  · next hne =>
    obtain ⟨_, hvalid, h⟩ := bind_eq_ok.mp h
    cases h
    refine ⟨hexact, ?_, rfl⟩
    unfold NextVersion
    rw [if_pos hne]
    exact toInt_succ (check_eq_ok.mp hvalid)

theorem tokenAfter_exact {before after : TokenSnapshot} {deltas : AccountQuotaDeltas}
    {u now : Int64} (hv : checkedQuotaBalance before.remainQuota deltas.tokenRemainQuota = some v)
    (hu : checkedQuotaUsed before.usedQuota deltas.tokenUsedQuota = some u)
    (h : tokenAfter before deltas v u now = .ok after) : TokenExact before deltas after := by
  have hremain := checkedQuotaBalance_exact hv
  have hused := checkedQuotaUsed_exact hu
  unfold tokenAfter at h
  split at h
  · next htouched =>
    obtain ⟨_, hvalid, h⟩ := bind_eq_ok.mp h
    cases h
    refine ⟨hremain, hused, ?_, absurd htouched, rfl⟩
    unfold NextVersion
    rw [if_pos htouched]
    exact toInt_succ (check_eq_ok.mp hvalid)
  · next huntouched =>
    cases h
    have hzero : deltas.tokenRemainQuota = 0 ∧ deltas.tokenUsedQuota = 0 := by
      simpa [AccountQuotaDeltas.touchesToken] using huntouched
    rw [hzero.1] at hremain
    rw [hzero.2] at hused
    have hv' : v.toInt = before.remainQuota.toInt := by simpa using hremain.1
    have hu' : u.toInt = before.usedQuota.toInt := by simpa using hused.1
    refine ⟨⟨by simp [hzero.1], hv' ▸ hremain.2⟩, ⟨by simp [hzero.2], hu' ▸ hused.2⟩, ?_, fun _ => rfl, rfl⟩
    unfold NextVersion
    rw [if_neg huntouched]

theorem subscriptionAfter_exact {before after : Option SubscriptionSnapshot} {now : Int64}
    (h : subscriptionAfter before delta now = .ok after) :
    SubscriptionsExact delta before after := by
  unfold subscriptionAfter at h
  split at h
  · next hzero =>
    cases h
    cases before with
    | none => exact ⟨hzero, rfl⟩
    | some s =>
      refine ⟨fun _ => rfl, absurd hzero, ?_, rfl⟩
      unfold NextVersion
      rw [if_neg (not_not.mpr hzero)]
  · next hne =>
    obtain ⟨s, hs, h⟩ := bind_eq_ok.mp h
    obtain ⟨_, hvalid, h⟩ := bind_eq_ok.mp h
    obtain ⟨-, -, h⟩ := bind_eq_ok.mp h
    obtain ⟨v, hv, h⟩ := bind_eq_ok.mp h
    cases h
    obtain rfl := need_eq_ok.mp hs
    refine ⟨fun hzero => absurd hzero hne, fun _ => checkedQuotaUsed_exact (need_eq_ok.mp hv), ?_, rfl⟩
    unfold NextVersion
    rw [if_pos hne]
    exact toInt_succ (check_eq_ok.mp hvalid)

/-- Every success of `accountQuotaAfter` is exact. -/
theorem accountQuotaAfter_exact (before : AccountSnapshot) (deltas : AccountQuotaDeltas) (now : Int64) :
    ∀ after, accountQuotaAfter before deltas now = .ok after →
      UserExact before.user deltas.userQuota after.user ∧ TokenExact before.token deltas after.token ∧
        SubscriptionsExact deltas.subscriptionAmountUsed before.subscription after.subscription := by
  intro after h
  obtain ⟨userQuota, hquota, h⟩ := bind_eq_ok.mp h
  obtain ⟨-, -, h⟩ := bind_eq_ok.mp h
  obtain ⟨remainQuota, hremain, h⟩ := bind_eq_ok.mp h
  obtain ⟨usedQuota, hused, h⟩ := bind_eq_ok.mp h
  obtain ⟨subscription, hsubscription, h⟩ := bind_eq_ok.mp h
  obtain ⟨user, huser, h⟩ := bind_eq_ok.mp h
  obtain ⟨token, htoken, h⟩ := bind_eq_ok.mp h
  cases h
  exact ⟨userAfter_exact (need_eq_ok.mp hquota) huser,
    tokenAfter_exact (need_eq_ok.mp hremain) (need_eq_ok.mp hused) htoken,
    subscriptionAfter_exact hsubscription⟩

private def sample (amountUsed : Int64) : AccountSnapshot where
  user := ⟨false, 0, 1, 1, 1, 500, 0, 0, 3, "", ""⟩
  token := ⟨1, 1, 1, 0, 0, -1, 500, 8, false, 0, "", "", false, "", false⟩
  subscription := some ⟨1, 1, 1, 1000, amountUsed, 2, 0, 100, "active", "order", 0, 0, "", "", "", true, 0, 0⟩

private def charge : AccountQuotaDeltas := ⟨0, -20, 20, 20⟩

/-- A charge of twenty on the subscription. -/
theorem accountQuotaAfter_exact_charge :
    ∃ after, accountQuotaAfter (sample 30) charge 7 = .ok after ∧
      UserExact (sample 30).user 0 after.user ∧ TokenExact (sample 30).token charge after.token ∧
        SubscriptionsExact 20 (sample 30).subscription after.subscription :=
  ⟨_, rfl, accountQuotaAfter_exact (sample 30) charge 7 _ rfl⟩

/-- A subscription that is not charged keeps a used amount that is out of range. -/
theorem accountQuotaAfter_untouched_out_of_range :
    ∃ (before after : AccountSnapshot) (deltas : AccountQuotaDeltas) (now : Int64) (s : SubscriptionSnapshot),
      accountQuotaAfter before deltas now = .ok after ∧ after.subscription = some s ∧ s.amountUsed.toInt < 0 :=
  ⟨sample (-5), _, ⟨-10, -10, 10, 0⟩, 7, _, rfl, rfl, by decide⟩

/-! ### The ledger's model -/

section Ledger

variable (status : String → SubscriptionStatus)

/-- The fields that the ledger has, as integers. -/
def UserSnapshot.toLedger (u : UserSnapshot) : Ledger.UserSnapshot :=
  ⟨u.id.toInt, u.status.toInt, u.quota.toInt, u.usedQuota.toInt, u.quotaVersion.toInt⟩

@[inherit_doc UserSnapshot.toLedger]
def TokenSnapshot.toLedger (t : TokenSnapshot) : Ledger.TokenSnapshot :=
  ⟨t.id.toInt, t.userID.toInt, t.status.toInt, t.accessedTime.toInt, t.expiredTime.toInt, t.remainQuota.toInt,
    t.quotaVersion.toInt, t.unlimitedQuota, t.usedQuota.toInt⟩

@[inherit_doc UserSnapshot.toLedger]
def SubscriptionSnapshot.toLedger (s : SubscriptionSnapshot) : UserSubscription where
  id := s.id.toInt
  userID := s.userID.toInt
  planID := s.planID.toInt
  amountTotal := s.amountTotal.toInt
  amountUsed := s.amountUsed.toInt
  quotaVersion := s.quotaVersion.toInt
  startTime := s.startTime.toInt
  endTime := s.endTime.toInt
  status := status s.status
  lastResetTime := s.lastResetTime.toInt
  nextResetTime := s.nextResetTime.toInt
  allowWalletOverflow := s.allowWalletOverflow
  updatedAt := s.updatedAt.toInt

@[inherit_doc UserSnapshot.toLedger]
def AccountSnapshot.toLedger (a : AccountSnapshot) : Ledger.AccountSnapshot :=
  ⟨a.user.toLedger, a.token.toLedger, a.subscription.map (SubscriptionSnapshot.toLedger status)⟩

@[inherit_doc UserSnapshot.toLedger]
def AccountQuotaDeltas.toLedger (d : AccountQuotaDeltas) : Ledger.AccountQuotaDeltas :=
  ⟨d.userQuota.toInt, d.tokenRemainQuota.toInt, d.tokenUsedQuota.toInt, d.subscriptionAmountUsed.toInt⟩

theorem toInt_eq_zero {a : Int64} : a.toInt = 0 ↔ a = 0 := by
  rw [← Int64.toInt_inj]
  rfl

theorem isSome_checkedQuotaUsed (a b : Int64) :
    (Ledger.checkedQuotaUsed a.toInt b.toInt).isSome = (checkedQuotaUsed a b).isSome := by
  rw [← checkedQuotaUsed_toInt, isSome_map]

variable {status}

theorem subscriptionAfter_toLedger (before : Option SubscriptionSnapshot) (delta now : Int64) :
    (subscriptionAfter before delta now).map (Option.map (SubscriptionSnapshot.toLedger status)) =
      Ledger.subscriptionAfter (before.map (SubscriptionSnapshot.toLedger status)) delta.toInt now.toInt := by
  have hzero : (0 : Int64).toInt = 0 := by decide
  unfold subscriptionAfter Ledger.subscriptionAfter
  by_cases hd : delta = 0
  · rw [if_pos hd, if_pos (toInt_eq_zero.mpr hd)]
    rfl
  rw [if_neg hd, if_neg (mt toInt_eq_zero.mp hd)]
  cases before with
  | none => rfl
  | some s =>
    have htotal := isSome_checkedQuotaUsed s.amountTotal 0
    have hused := checkedQuotaUsed_toInt s.amountUsed delta
    rw [hzero] at htotal
    simp only [need_some, ok_bind, map_some, SubscriptionSnapshot.toLedger, htotal,
      ← quotaMutationVersionValid_toInt, ← hused, toInt_eq_zero]
    by_cases hvalid : quotaMutationVersionValid s.quotaVersion
    · simp only [check_pos hvalid, ok_bind]
      by_cases hrange : s.amountTotal = 0 ∨ (checkedQuotaUsed s.amountTotal 0).isSome = true
      · simp only [check_pos hrange, ok_bind]
        cases checkedQuotaUsed s.amountUsed delta with
        | none => rfl
        | some v =>
          simp only [need_some, ok_bind, map_some, ← toInt_succ hvalid]
          rfl
      · rw [check_neg hrange]
        rfl
    · rw [check_neg hvalid]
      rfl

variable {d : AccountQuotaDeltas}

theorem touchesToken_iff :
    d.touchesToken ↔ ¬ (d.tokenRemainQuota = 0 ∧ d.tokenUsedQuota = 0) := by
  unfold AccountQuotaDeltas.touchesToken
  tauto

theorem userAfter_eq {u : UserSnapshot} {quota : Int64}
    (h : delta = 0 ∨ quotaMutationVersionValid u.quotaVersion) :
    userAfter u delta quota =
      .ok (if delta = 0 then u else { u with quota := quota, quotaVersion := u.quotaVersion + 1 }) := by
  unfold userAfter
  split
  · rfl
  · next hne =>
    rw [check_pos (h.resolve_left hne)]
    rfl

theorem tokenAfter_eq {t : TokenSnapshot} {remain used now : Int64}
    (h : (d.tokenRemainQuota = 0 ∧ d.tokenUsedQuota = 0) ∨ quotaMutationVersionValid t.quotaVersion) :
    tokenAfter t d remain used now =
      .ok (if d.tokenRemainQuota = 0 ∧ d.tokenUsedQuota = 0 then t
        else { t with
          remainQuota := remain
          usedQuota := used
          accessedTime := now
          quotaVersion := t.quotaVersion + 1 }) := by
  unfold tokenAfter
  split
  · next htouched =>
    have hne := touchesToken_iff.mp htouched
    rw [check_pos (h.resolve_left hne), if_neg hne]
    rfl
  · next huntouched => rw [if_pos (not_not.mp (mt touchesToken_iff.mpr huntouched))]

/-- The model of the ledger computes what the words compute. -/
theorem accountQuotaAfter_toLedger (before : AccountSnapshot) (deltas : AccountQuotaDeltas) (now : Int64) :
    (accountQuotaAfter before deltas now).map (AccountSnapshot.toLedger status) =
      Ledger.accountQuotaAfter (before.toLedger status) deltas.toLedger now.toInt := by
  have hzero : (0 : Int64).toInt = 0 := by decide
  have huserUsed := isSome_checkedQuotaUsed before.user.usedQuota 0
  rw [hzero] at huserUsed
  unfold accountQuotaAfter Ledger.accountQuotaAfter
  simp only [AccountSnapshot.toLedger, UserSnapshot.toLedger, TokenSnapshot.toLedger,
    AccountQuotaDeltas.toLedger, ← checkedQuotaBalance_toInt, ← checkedQuotaUsed_toInt before.token.usedQuota,
    huserUsed, ← subscriptionAfter_toLedger, ← quotaMutationVersionValid_toInt, toInt_eq_zero]
  cases checkedQuotaBalance before.user.quota deltas.userQuota with
  | none => rfl
  | some userQuota =>
  by_cases hused : (checkedQuotaUsed before.user.usedQuota 0).isSome = true
  case neg =>
    rw [check_neg hused]
    rfl
  simp only [check_pos hused, ok_bind]
  cases checkedQuotaBalance before.token.remainQuota deltas.tokenRemainQuota with
  | none => rfl
  | some remainQuota =>
  cases checkedQuotaUsed before.token.usedQuota deltas.tokenUsedQuota with
  | none => rfl
  | some usedQuota =>
  simp only [map_some, need_some, ok_bind]
  cases subscriptionAfter before.subscription deltas.subscriptionAmountUsed now with
  | error e => rfl
  | ok subscription =>
  -- the checks of the two versions, each made only if its subject is touched
  by_cases huser : deltas.userQuota = 0 ∨ quotaMutationVersionValid before.user.quotaVersion
  case neg =>
    rw [not_or] at huser
    rw [userAfter, if_neg huser.1, check_neg huser.2, check_neg (not_or.mpr huser)]
    rfl
  rw [check_pos huser, userAfter_eq huser]
  by_cases htoken : (deltas.tokenRemainQuota = 0 ∧ deltas.tokenUsedQuota = 0) ∨
      quotaMutationVersionValid before.token.quotaVersion
  case neg =>
    rw [check_neg htoken]
    rw [not_or] at htoken
    rw [tokenAfter, if_pos (touchesToken_iff.mpr htoken.1), check_neg htoken.2]
    rfl
  rw [check_pos htoken, tokenAfter_eq htoken]
  refine congrArg Except.ok ?_
  unfold AccountSnapshot.toLedger
  congr 1
  · by_cases hd : deltas.userQuota = 0
    · simp only [if_pos hd, UserSnapshot.toLedger]
    · simp only [if_neg hd, UserSnapshot.toLedger, toInt_succ (huser.resolve_left hd)]
  · by_cases hd : deltas.tokenRemainQuota = 0 ∧ deltas.tokenUsedQuota = 0
    · simp only [if_pos hd, TokenSnapshot.toLedger]
    · simp only [if_neg hd, TokenSnapshot.toLedger, toInt_succ (htoken.resolve_left hd)]

end Ledger

end MyApiSpec.Ledger.Word
