import Mathlib.Data.List.Sort
import MyApiSpec.Ledger.Types

/-!
# Subscription resets and selection

`model/subscription.go:374–422`, `1149–1164` and `1398–1473`: the next reset time of a
plan, the admin reset, the period reset, and the selection of the subscription that covers
an amount. Selection applies every due period reset it passes on its way, so it can clear
`amount_used`; each function returns what it cleared as a log of subscription id and amount.
-/

namespace MyApiSpec.Ledger

open Base List Table

variable {s s' sub : UserSubscription} {subs subs' : Table UserSubscription}
  {plans : Table SubscriptionPlan} {amount userID : Int}

/-- Local calendar of the server, as `time.Date` and `AddDate` use it: the midnight some
days after the day of a time, the weekday (Sunday is zero) and the first midnight of the
next month. -/
structure Calendar where
  midnightAfter : Int → Int → Int
  weekday : Int → Int
  startOfNextMonth : Int → Int

/-- What a transaction takes from its surroundings: calendar, database time and the number
of rounds the reset loop may take before the context deadline. -/
structure TxEnv where
  calendar : Calendar
  now : Int
  fuel : Nat

/-- Normalised reset period (`model/subscription.go:374–381`). -/
inductive ResetPeriod where
  | never
  | daily
  | weekly
  | monthly
  | custom
  deriving DecidableEq, Repr

/-- `NormalizeResetPeriod`. -/
def normalizeResetPeriod (period : String) : ResetPeriod :=
  match trimSpace period with
  | "daily" => .daily
  | "weekly" => .weekly
  | "monthly" => .monthly
  | "custom" => .custom
  | _ => .never

/-- Two's complement wrap of a 64-bit product. -/
def wrapInt64 (n : Int) : Int := (n + 2 ^ 63) % 2 ^ 64 - 2 ^ 63

/-- `calcNextResetTime`, zero when there is no further reset
(`model/subscription.go:383–422`). -/
def calcNextResetTime (calendar : Calendar) (base : Int) (plan : SubscriptionPlan)
    (endUnix : Int) : Int :=
  let bound (next : Int) : Int := if endUnix > 0 ∧ next > endUnix then 0 else next
  match normalizeResetPeriod plan.quotaResetPeriod with
  | .never => 0
  | .daily => bound (calendar.midnightAfter base 1)
  | .weekly =>
    let weekday := if calendar.weekday base = 0 then 7 else calendar.weekday base
    bound (calendar.midnightAfter base (8 - weekday))
  | .monthly => bound (calendar.startOfNextMonth base)
  | .custom =>
    if plan.quotaResetCustomSeconds ≤ 0 then 0
    else bound (base + wrapInt64 (plan.quotaResetCustomSeconds * 10 ^ 9) / 10 ^ 9)

/-- Amounts cleared by resets, in order. -/
abbrev ResetLog := List (Int × Int)

/-- Total amount cleared on subscription `i`. -/
def wiped (log : ResetLog) (i : Int) : Int :=
  (log.map (fun e => if e.1 = i then e.2 else 0)).sum

/-- `tx.Save` of a subscription behind its update hook (`model/subscription.go:327–336`). -/
def saveSubscription (subs : Table UserSubscription) (sub : UserSubscription) (now : Int) :
    Except LedgerError (Table UserSubscription × UserSubscription) := do
  check ((checkedQuotaUsed sub.amountTotal 0).isSome ∧ (checkedQuotaUsed sub.amountUsed 0).isSome)
    .subscriptionOutOfRange
  let saved := { sub with updatedAt := now }
  return (subs.put saved, saved)

/-- `resetUserSubscriptionTx` (`model/subscription.go:1149–1164`). -/
def resetUserSubscriptionTx (env : TxEnv) (subs : Table UserSubscription)
    (sub : UserSubscription) (plan : SubscriptionPlan) (advanceResetTime : Bool) :
    Except LedgerError (Table UserSubscription × ResetLog) := do
  let cleared := { sub with amountUsed := 0 }
  let next := calcNextResetTime env.calendar env.now plan sub.endTime
  let target :=
    if advanceResetTime then
      { cleared with nextResetTime := next, lastResetTime := if next > 0 then env.now else 0 }
    else cleared
  let (subs, _) ← saveSubscription subs target env.now
  return (subs, [(sub.id, sub.amountUsed)])

/-- The loop of the period reset: move to the last due reset time
(`model/subscription.go:1415–1420`). -/
def advanceReset (calendar : Calendar) (plan : SubscriptionPlan) (endUnix now : Int) :
    Nat → Int → Int → Bool → Option (Int × Int × Bool)
  | 0, _, _, _ => none
  | fuel + 1, base, next, advanced =>
    if next > 0 ∧ next ≤ now then
      advanceReset calendar plan endUnix now fuel next
        (calcNextResetTime calendar next plan endUnix) true
    else some (base, next, advanced)

/-- `maybeResetUserSubscriptionWithPlanTx` (`model/subscription.go:1398–1432`); running out
of rounds is the deadline of the surrounding context. -/
def maybeResetUserSubscriptionWithPlanTx (env : TxEnv) (subs : Table UserSubscription)
    (sub : UserSubscription) (plan : SubscriptionPlan) :
    Except LedgerError (Table UserSubscription × UserSubscription × ResetLog) := do
  if sub.nextResetTime > 0 ∧ sub.nextResetTime > env.now then return (subs, sub, [])
  else if normalizeResetPeriod plan.quotaResetPeriod = .never then return (subs, sub, [])
  else do
    let base := if sub.lastResetTime ≤ 0 then sub.startTime else sub.lastResetTime
    let next := calcNextResetTime env.calendar base plan sub.endTime
    let (base, next, advanced) ←
      need (advanceReset env.calendar plan sub.endTime env.now env.fuel base next false) .database
    if advanced then do
      let (subs, saved) ← saveSubscription subs
        { sub with amountUsed := 0, lastResetTime := base, nextResetTime := next } env.now
      return (subs, saved, [(sub.id, sub.amountUsed)])
    else if sub.nextResetTime = 0 ∧ next > 0 then do
      let (subs, saved) ← saveSubscription subs
        { sub with lastResetTime := base, nextResetTime := next } env.now
      return (subs, saved, [])
    else return (subs, sub, [])

/-- `getSubscriptionPlanByIdTx` inside a transaction (`model/subscription.go:428–455`). -/
def getSubscriptionPlanByIdTx (plans : Table SubscriptionPlan) (id : Int) :
    Except LedgerError SubscriptionPlan := do
  check (0 < id) .invalidPlan
  need (plans.get? id) .recordNotFound

/-- The active subscriptions of a user by end time, then id
(`model/subscription.go:1443–1446`). -/
def activeSubscriptions (subs : Table UserSubscription) (userID now : Int) :
    List UserSubscription :=
  (subs.rows.filter
      (fun s => s.userID = userID ∧ s.status = .active ∧ s.endTime > now)).insertionSort
    (fun a b => a.endTime < b.endTime ∨ (a.endTime = b.endTime ∧ a.id ≤ b.id))

/-- Result of a selection: the table after the resets it applied, the chosen row, whether
any active subscription exists, whether the wallet may be used instead, and the reset log. -/
structure Selection where
  subscriptions : Table UserSubscription
  selected : Option UserSubscription
  hasActive : Bool
  allowWalletOverflow : Bool
  log : ResetLog

/-- The loop of the selection (`model/subscription.go:1448–1472`). -/
def selectLoop (env : TxEnv) (plans : Table SubscriptionPlan) (amount : Int) :
    List UserSubscription → Selection → Except LedgerError Selection
  | [], acc => .ok acc
  | s :: rest, acc => do
    check ((checkedQuotaUsed s.amountTotal 0).isSome) .subscriptionOutOfRange
    check ((checkedQuotaUsed s.amountUsed 0).isSome) .subscriptionOutOfRange
    let overflow := acc.allowWalletOverflow && s.allowWalletOverflow
    let plan ← getSubscriptionPlanByIdTx plans s.planID
    let (subs, s, log) ← maybeResetUserSubscriptionWithPlanTx env acc.subscriptions s plan
    let acc := { acc with subscriptions := subs, allowWalletOverflow := overflow
                          log := acc.log ++ log }
    if s.amountTotal = 0 ∨ s.amountUsed ≤ s.amountTotal - amount then
      return { acc with selected := some s }
    else selectLoop env plans amount rest acc

/-- `selectActiveUserSubscriptionForPreConsumeTx` (`model/subscription.go:1438–1473`). -/
def selectActiveUserSubscriptionForPreConsumeTx (env : TxEnv) (plans : Table SubscriptionPlan)
    (subs : Table UserSubscription) (userID amount : Int) : Except LedgerError Selection := do
  check (0 < userID ∧ 0 ≤ amount ∧ amount ≤ maxQuota) .invalidInput
  let active := activeSubscriptions subs userID env.now
  selectLoop env plans amount active ⟨subs, none, !active.isEmpty, true, []⟩

/-! ### Effect of resets on the table -/

variable {log : ResetLog} {env : TxEnv}

@[simp]
theorem wiped_nil (i : Int) : wiped [] i = 0 := rfl

theorem wiped_append (log log' : ResetLog) (i : Int) :
    wiped (log ++ log') i = wiped log i + wiped log' i := by
  simp [wiped]

theorem wiped_single (j a i : Int) : wiped [(j, a)] i = if j = i then a else 0 := by
  simp [wiped]

/-- The used amount is a valid balance. -/
def UserSubscription.InRange (s : UserSubscription) : Prop :=
  0 ≤ s.amountUsed ∧ s.amountUsed ≤ maxQuotaBalance

/-- Row `s'` is row `s` with `w` cleared from `amount_used`; owner, total and version are kept. -/
structure Resets (s s' : UserSubscription) (w : Int) : Prop where
  id : s'.id = s.id
  userID : s'.userID = s.userID
  amountTotal : s'.amountTotal = s.amountTotal
  quotaVersion : s'.quotaVersion = s.quotaVersion
  amountUsed : s'.amountUsed = s.amountUsed - w
  cleared : s'.amountUsed = s.amountUsed ∨ s'.amountUsed = 0

theorem Resets.refl (s : UserSubscription) : Resets s s 0 :=
  ⟨rfl, rfl, rfl, rfl, by omega, .inl rfl⟩

theorem Resets.inRange {w : Int} (h : Resets s s' w) (hs : s.InRange) : s'.InRange := by
  unfold UserSubscription.InRange
  rcases h.cleared with h | h <;> rw [h]
  · exact hs
  · exact ⟨le_refl _, by decide⟩

theorem Resets.trans {s'' : UserSubscription} {w w' : Int} (h : Resets s s' w)
    (h' : Resets s' s'' w') : Resets s s'' (w + w') := by
  refine ⟨h'.id.trans h.id, h'.userID.trans h.userID, h'.amountTotal.trans h.amountTotal,
    h'.quotaVersion.trans h.quotaVersion, ?_, ?_⟩
  · rw [h'.amountUsed, h.amountUsed]
    omega
  · rcases h'.cleared with h1 | h1
    · rcases h.cleared with h2 | h2
      · exact .inl (h1.trans h2)
      · exact .inr (h1.trans h2)
    · exact .inr h1

/-- Table `t'` is table `t` after the resets of `log`. -/
def ResetEffect (t t' : Table UserSubscription) (log : ResetLog) : Prop :=
  (∀ i, t.get? i = none → t'.get? i = none) ∧
    ∀ i s, t.get? i = some s → ∃ s', t'.get? i = some s' ∧ Resets s s' (wiped log i)

theorem ResetEffect.refl (t : Table UserSubscription) : ResetEffect t t [] :=
  ⟨fun _ h => h, fun _ s h => ⟨s, h, Resets.refl s⟩⟩

theorem ResetEffect.trans {t t' t'' : Table UserSubscription} {log' : ResetLog}
    (h : ResetEffect t t' log) (h' : ResetEffect t' t'' log') :
    ResetEffect t t'' (log ++ log') := by
  refine ⟨fun i hi => h'.1 i (h.1 i hi), ?_⟩
  intro i s hs
  obtain ⟨s', hs', hr⟩ := h.2 i s hs
  obtain ⟨s'', hs'', hr'⟩ := h'.2 i s' hs'
  exact ⟨s'', hs'', wiped_append log log' i ▸ hr.trans hr'⟩

/-- Saving a reset version of a stored row resets that row only. -/
private theorem put_effect {t : Table UserSubscription} (hs : t.get? s.id = some s)
    (hr : Resets s s' (wiped log s.id)) (hlog : ∀ i, i ≠ s.id → wiped log i = 0) :
    ResetEffect t (t.put s') log := by
  have hid : Row.id s' = s.id := hr.id
  constructor
  · intro i hi
    rw [get?_put, hi]
    simp
  · intro i x hx
    by_cases h : i = s.id
    · subst h
      rw [hs, Option.some.injEq] at hx
      subst hx
      exact ⟨s', by rw [← hid]; exact get?_put_self (by rw [hid]; exact hs), hr⟩
    · refine ⟨x, by rw [get?_put_of_ne (by rw [hid]; exact h), hx], ?_⟩
      rw [hlog i h]
      exact Resets.refl x

private theorem saveSubscription_ok {saved : UserSubscription} {now : Int}
    (h : saveSubscription subs sub now = .ok (subs', saved)) :
    saved = { sub with updatedAt := now } ∧ subs' = subs.put saved := by
  simp only [saveSubscription, bind_eq_ok, check_eq_ok, exists_const, pure_eq_ok, Prod.mk.injEq] at h
  obtain ⟨-, h1, h2⟩ := h
  exact ⟨h2.symm, by rw [← h1, ← h2]⟩

variable {plan : SubscriptionPlan}

/-- An admin reset of a stored row clears exactly its used amount. -/
theorem resetUserSubscriptionTx_effect {advance : Bool}
    (hsub : subs.get? sub.id = some sub)
    (h : resetUserSubscriptionTx env subs sub plan advance = .ok (subs', log)) :
    ResetEffect subs subs' log := by
  simp only [resetUserSubscriptionTx, bind_eq_ok, pure_eq_ok, Prod.mk.injEq] at h
  obtain ⟨⟨t, saved⟩, hsave, rfl, rfl⟩ := h
  obtain ⟨rfl, rfl⟩ := saveSubscription_ok hsave
  apply put_effect hsub
  · rw [wiped_single, if_pos rfl]
    cases advance <;>
      exact ⟨rfl, rfl, rfl, rfl, by simp, (.inr rfl)⟩
  · intro i hi
    rw [wiped_single, if_neg (Ne.symm hi)]

/-- A period reset of a stored row either keeps its used amount or clears it, and returns the
row as stored afterwards. -/
theorem maybeReset_effect {sub' : UserSubscription}
    (hsub : subs.get? sub.id = some sub)
    (h : maybeResetUserSubscriptionWithPlanTx env subs sub plan = .ok (subs', sub', log)) :
    ResetEffect subs subs' log ∧ subs'.get? sub.id = some sub' ∧
      Resets sub sub' (wiped log sub.id) ∧ ∀ i, i ≠ sub.id → subs'.get? i = subs.get? i := by
  have hkeep : ResetEffect subs subs [] ∧ subs.get? sub.id = some sub ∧
      Resets sub sub (wiped [] sub.id) ∧ ∀ i, i ≠ sub.id → subs.get? i = subs.get? i :=
    ⟨ResetEffect.refl subs, hsub, Resets.refl sub, fun _ _ => rfl⟩
  have hput : ∀ (s' : UserSubscription) (l : ResetLog), Resets sub s' (wiped l sub.id) →
      (∀ i, i ≠ sub.id → wiped l i = 0) →
      ResetEffect subs (subs.put s') l ∧ (subs.put s').get? sub.id = some s' ∧
        Resets sub s' (wiped l sub.id) ∧ ∀ i, i ≠ sub.id → (subs.put s').get? i = subs.get? i := by
    intro s' l hr hl
    have hid : Row.id s' = sub.id := hr.id
    refine ⟨put_effect hsub hr hl, ?_, hr, fun i hi => get?_put_of_ne (by rw [hid]; exact hi)⟩
    rw [← hid]
    exact get?_put_self (by rw [hid]; exact hsub)
  unfold maybeResetUserSubscriptionWithPlanTx at h
  split at h
  · cases h; exact hkeep
  split at h
  · cases h; exact hkeep
  simp only [bind_eq_ok, need_eq_ok] at h
  obtain ⟨⟨base, next, advanced⟩, -, h⟩ := h
  split at h
  · simp only [bind_eq_ok, pure_eq_ok, Prod.mk.injEq] at h
    obtain ⟨⟨t, saved⟩, hsave, rfl, rfl, rfl⟩ := h
    obtain ⟨rfl, rfl⟩ := saveSubscription_ok hsave
    apply hput
    · rw [wiped_single, if_pos rfl]
      exact ⟨rfl, rfl, rfl, rfl, by simp, (.inr rfl)⟩
    · intro i hi
      rw [wiped_single, if_neg (Ne.symm hi)]
  split at h
  · simp only [bind_eq_ok, pure_eq_ok, Prod.mk.injEq] at h
    obtain ⟨⟨t, saved⟩, hsave, rfl, rfl, rfl⟩ := h
    obtain ⟨rfl, rfl⟩ := saveSubscription_ok hsave
    apply hput
    · exact ⟨rfl, rfl, rfl, rfl, by simp, (.inl rfl)⟩
    · intro i _
      rfl
  · cases h; exact hkeep

/-- A usable selected row: it is stored, it belongs to the user, and its amounts are in range. -/
structure Usable (subs : Table UserSubscription) (userID : Int) (s : UserSubscription) : Prop where
  stored : subs.get? s.id = some s
  owner : s.userID = userID
  total : 0 ≤ s.amountTotal ∧ s.amountTotal ≤ maxQuotaBalance
  used : 0 ≤ s.amountUsed ∧ s.amountUsed ≤ maxQuotaBalance

private theorem checkedQuotaUsed_zero_isSome {v : Int} (h : (checkedQuotaUsed v 0).isSome = true) :
    0 ≤ v ∧ v ≤ maxQuotaBalance := by
  obtain ⟨w, hw⟩ := Option.isSome_iff_exists.mp h
  exact (checkedQuotaUsed_eq_some.mp hw).1

/-- The selection loop changes the table by the resets it logs and selects a usable row. -/
theorem selectLoop_effect :
    ∀ (list : List UserSubscription) (acc res : Selection), (list.map UserSubscription.id).Nodup →
      (∀ s ∈ list, acc.subscriptions.get? s.id = some s ∧ s.userID = userID) →
      acc.selected = none → selectLoop env plans amount list acc = .ok res →
      ∃ log, res.log = acc.log ++ log ∧ ResetEffect acc.subscriptions res.subscriptions log ∧
        ∀ s, res.selected = some s → Usable res.subscriptions userID s := by
  intro list
  induction list with
  | nil =>
    intro acc res _ _ hsel h
    cases h
    exact ⟨[], by simp, ResetEffect.refl _, fun s hs => by rw [hsel] at hs; cases hs⟩
  | cons s rest ih =>
    intro acc res hnd hmem hsel h
    obtain ⟨hs, howner⟩ := hmem s (by simp)
    obtain ⟨hne, hrest⟩ := nodup_cons.mp (map_cons ▸ hnd)
    simp only [selectLoop, bind_eq_ok, check_eq_ok, exists_const] at h
    obtain ⟨htotal, hused, plan, -, ⟨subs, s', log⟩, hreset, h⟩ := h
    obtain ⟨heff, hs', hr, hother⟩ := maybeReset_effect hs hreset
    split at h
    · cases h
      refine ⟨log, rfl, heff, ?_⟩
      intro x hx
      cases hx
      have ht := checkedQuotaUsed_zero_isSome htotal
      have hub := checkedQuotaUsed_zero_isSome hused
      exact ⟨hr.id ▸ hs', hr.userID.trans howner, hr.amountTotal ▸ ht, hr.inRange hub⟩
    · have hstill : ∀ x ∈ rest, subs.get? x.id = some x ∧ x.userID = userID := by
        intro x hx
        have hxne : x.id ≠ s.id := fun he => hne (mem_map.mpr ⟨x, hx, he⟩)
        rw [hother x.id hxne]
        exact hmem x (by simp [hx])
      obtain ⟨log', hlog', heff', hsel'⟩ := ih _ res hrest hstill (by exact hsel) h
      exact ⟨log ++ log', by rw [hlog', append_assoc], heff.trans heff', hsel'⟩

/-- The loop selects a row with room for the amount. -/
theorem selectLoop_fits :
    ∀ (list : List UserSubscription) (acc res : Selection), acc.selected = none →
      selectLoop env plans amount list acc = .ok res → ∀ s, res.selected = some s →
      s.amountTotal = 0 ∨ s.amountUsed ≤ s.amountTotal - amount := by
  intro list
  induction list with
  | nil =>
    intro acc res hsel h s hs
    cases h
    rw [hsel] at hs
    cases hs
  | cons x rest ih =>
    intro acc res hsel h s hs
    simp only [selectLoop, bind_eq_ok] at h
    obtain ⟨-, -, -, -, plan, -, ⟨subs, x', log⟩, -, h⟩ := h
    split at h
    · next hfits =>
      cases h
      cases hs
      exact hfits
    · exact ih _ res (by exact hsel) h s hs

variable {res : Selection}

section

variable (h : selectActiveUserSubscriptionForPreConsumeTx env plans subs userID amount = .ok res)
include h

theorem selectActive_fits
    (hs : res.selected = some s) : s.amountTotal = 0 ∨ s.amountUsed ≤ s.amountTotal - amount := by
  obtain ⟨-, -, h⟩ := bind_eq_ok.mp h
  exact selectLoop_fits _ _ res rfl h s hs

/-- Selection changes the table by the resets it logs and selects a usable row of the user. -/
theorem selectActive_effect
    :
    ResetEffect subs res.subscriptions res.log ∧
      ∀ s, res.selected = some s → Usable res.subscriptions userID s := by
  simp only [selectActiveUserSubscriptionForPreConsumeTx, bind_eq_ok, check_eq_ok, exists_const] at h
  obtain ⟨-, h⟩ := h
  have hperm := perm_insertionSort
    (fun a b : UserSubscription => a.endTime < b.endTime ∨ (a.endTime = b.endTime ∧ a.id ≤ b.id))
    (subs.rows.filter (fun s => s.userID = userID ∧ s.status = .active ∧ s.endTime > env.now))
  have hnd : ((activeSubscriptions subs userID env.now).map UserSubscription.id).Nodup :=
    (hperm.map _).nodup_iff.mpr ((filter_sublist.map _).nodup subs.nodup)
  have hmem : ∀ s ∈ activeSubscriptions subs userID env.now,
      subs.get? s.id = some s ∧ s.userID = userID := by
    intro s hs
    have hs := mem_filter.mp (hperm.mem_iff.mp hs)
    exact ⟨get?_of_mem hs.1, by simpa using (of_decide_eq_true hs.2).1⟩
  obtain ⟨log, hlog, heff, hsel⟩ := selectLoop_effect _ _ res hnd hmem rfl h
  rw [hlog, nil_append]
  exact ⟨heff, hsel⟩

end

end MyApiSpec.Ledger
