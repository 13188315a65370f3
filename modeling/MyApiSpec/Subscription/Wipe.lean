import MyApiSpec.Subscription.Reset

/-!
# When a period reset clears the usage

A subscription is tracked along usage updates, period resets and admin resets. The track remembers the time of the
last reset that advanced the period, the start or the stored reset time before there is one, and the anchor from which
boundaries given in seconds are counted. A period reset clears the usage only behind a boundary that is later than that
time, as long as admin resets that advance find another boundary before the end: otherwise they store zero as the
last reset time, and the next period reset counts from the start again.
-/

namespace MyApiSpec.Subscription

open Base Base.Calendar Ledger Option

variable {base now : Int} {saved sub : UserSubscription} {subs subs' : Table UserSubscription}
  {log : ResetLog}

/-- The boundaries of the reset period of a plan. -/
def IsBoundary (offset : Int) (plan : SubscriptionPlan) (anchor b : Int) : Prop :=
  match normalizeResetPeriod plan.quotaResetPeriod with
  | .never => False
  | .daily => ∃ day, b = midnight offset day
  | .weekly => ∃ day, b = midnight offset day ∧ (day + 4) % 7 = 1
  | .monthly => ∃ month, b = midnight offset (firstDay month)
  | .custom => ∃ k : Int, 0 < k ∧ b = anchor + k * plan.quotaResetCustomSeconds

/-- The seconds of the custom period do not wrap. -/
def Unwrapped (plan : SubscriptionPlan) : Prop :=
  normalizeResetPeriod plan.quotaResetPeriod = .custom → plan.quotaResetCustomSeconds * 10 ^ 9 < 2 ^ 63

instance (plan : SubscriptionPlan) : Decidable (Unwrapped plan) := inferInstanceAs (Decidable (_ → _))

/-- The anchor, or a boundary counted from it. -/
def OnGrid (offset : Int) (plan : SubscriptionPlan) (anchor t : Int) : Prop :=
  t = anchor ∨ IsBoundary offset plan anchor t

variable {offset : Int} {plan : SubscriptionPlan}

/-- From the grid the next boundary is on the grid. -/
theorem nextBoundary_isBoundary (h : Unwrapped plan) {anchor next : Int}
    (hbase : OnGrid offset plan anchor base) (hn : nextBoundary offset base plan = some next) :
    IsBoundary offset plan anchor next := by
  unfold nextBoundary at hn
  unfold OnGrid at hbase
  unfold IsBoundary at hbase ⊢
  cases hp : normalizeResetPeriod plan.quotaResetPeriod with
  | never =>
    rw [hp] at hn
    cases hn
  | daily | monthly =>
    rw [hp] at hn
    cases hn
    exact ⟨_, rfl⟩
  | weekly =>
    rw [hp] at hn
    cases hn
    refine ⟨_, rfl, ?_⟩
    split <;> omega
  | custom =>
    rw [hp] at hn hbase
    simp only at hn
    split at hn
    · cases hn
    · next hpos =>
      have hstep : customStep plan = plan.quotaResetCustomSeconds :=
        (wrapInt64_div_second (not_le.mp hpos).le).mpr (h hp)
      rw [hstep] at hn
      cases hn
      rcases hbase with rfl | ⟨k, hk, rfl⟩
      · exact ⟨1, by decide, by omega⟩
      · refine ⟨k + 1, by omega, ?_⟩
        rw [Int.add_mul]
        omega

/-- A positive next reset time is the next boundary. -/
theorem nextBoundary_of_calc {endUnix : Int}
    (h : 0 < calcNextResetTime (fixedOffset offset) base plan endUnix) :
    nextBoundary offset base plan = some (calcNextResetTime (fixedOffset offset) base plan endUnix) := by
  rw [calcNextResetTime_eq] at h ⊢
  cases hn : nextBoundary offset base plan with
  | none =>
    rw [hn] at h
    exact absurd h (lt_irrefl 0)
  | some next =>
    rw [hn] at h
    dsimp only at h ⊢
    split at h
    · exact absurd h (lt_irrefl 0)
    · next hbound => rw [if_neg hbound]

/-- What the loop of the period reset returns: it stops behind `now`, and the base it stops at is the given one or a
positive boundary. -/
theorem advanceReset_spec (hu : Unwrapped plan) {anchor endUnix now : Int} :
    ∀ {fuel : Nat} {base next b n : Int} {advanced a : Bool},
      next = calcNextResetTime (fixedOffset offset) base plan endUnix → OnGrid offset plan anchor base →
      advanceReset (fixedOffset offset) plan endUnix now fuel base next advanced = some (b, n, a) →
      n = calcNextResetTime (fixedOffset offset) b plan endUnix ∧ OnGrid offset plan anchor b ∧
        ¬ (0 < n ∧ n ≤ now) ∧ (a = advanced ∧ b = base ∨ a = true ∧ 0 < b ∧ 0 < next ∧ next ≤ now)
  | 0, base, next, b, n, advanced, a, hnext, hbase, h => by cases h
  | fuel + 1, base, next, b, n, advanced, a, hnext, hbase, h => by
    unfold advanceReset at h
    split at h
    · next hdue =>
      have hboundary : IsBoundary offset plan anchor next := by
        refine nextBoundary_isBoundary hu hbase ?_
        rw [hnext] at hdue ⊢
        exact nextBoundary_of_calc hdue.1
      obtain ⟨hn, hgrid, hstop, hcases⟩ := advanceReset_spec hu rfl (.inr hboundary) h
      refine ⟨hn, hgrid, hstop, .inr ?_⟩
      rcases hcases with ⟨ha, rfl⟩ | ⟨ha, hb, -⟩
      · exact ⟨ha, hdue.1, hdue⟩
      · exact ⟨ha, hb, hdue⟩
    · next hstop =>
      cases h
      exact ⟨hnext, hbase, hstop, .inl ⟨rfl, rfl⟩⟩

/-! ### Tracks -/

/-- The table with the subscription, the anchor of its boundaries and the time of its last advancing reset. -/
structure Track where
  subs : Table UserSubscription
  anchor : Int
  advanced : Int

/-- The time from which the period reset counts. -/
def resetBase (sub : UserSubscription) : Int := if sub.lastResetTime ≤ 0 then sub.startTime else sub.lastResetTime

/-- The track of a subscription at its beginning. -/
def Track.ofSubscription (subs : Table UserSubscription) (sub : UserSubscription) : Track :=
  ⟨subs, resetBase sub, resetBase sub⟩

/-- What happens to a subscription. -/
inductive Action where
  | use (amountUsed : Int)
  | maybeReset (now : Int) (fuel : Nat)
  | adminReset (now : Int) (advanceResetTime : Bool)
  deriving DecidableEq, Repr

/-- One action on the subscription with a given id; a transaction that fails changes nothing. -/
def stepTrack (offset : Int) (plan : SubscriptionPlan) (id : Int) (t : Track) (action : Action) : Option Track :=
  (t.subs.get? id).map fun sub =>
    match action with
    | .use amountUsed => { t with subs := t.subs.put { sub with amountUsed := amountUsed } }
    | .maybeReset now fuel =>
      match maybeResetUserSubscriptionWithPlanTx ⟨fixedOffset offset, now, fuel⟩ t.subs sub plan with
      | .error _ => t
      | .ok (subs, _, log) => { t with subs := subs, advanced := if log = [] then t.advanced else now }
    | .adminReset now advanceResetTime =>
      match resetUserSubscriptionTx ⟨fixedOffset offset, now, 0⟩ t.subs sub plan advanceResetTime with
      | .error _ => t
      | .ok (subs, _) => if advanceResetTime then ⟨subs, now, now⟩ else { t with subs := subs }

/-- The period reset of the subscription at `now` clears its usage. -/
def Clears (offset : Int) (plan : SubscriptionPlan) (id : Int) (t : Track) (now : Int) : Prop :=
  ∃ sub fuel subs saved log, t.subs.get? id = some sub ∧
    maybeResetUserSubscriptionWithPlanTx ⟨fixedOffset offset, now, fuel⟩ t.subs sub plan = .ok (subs, saved, log) ∧
    log ≠ []

/-- An admin reset that advances finds another boundary before the end. -/
def Renewable (offset : Int) (plan : SubscriptionPlan) (id : Int) (t : Track) : Action → Prop
  | .adminReset now true => 0 < now ∧ ∀ sub ∈ t.subs.get? id, ∀ next ∈ nextBoundary offset now plan,
      0 < next ∧ (sub.endTime ≤ 0 ∨ next ≤ sub.endTime)
  | _ => True

instance (offset : Int) (plan : SubscriptionPlan) (id : Int) (t : Track) :
    (action : Action) → Decidable (Renewable offset plan id t action)
  | .use _ => isTrue trivial
  | .maybeReset _ _ => isTrue trivial
  | .adminReset _ false => isTrue trivial
  | .adminReset _ true => inferInstanceAs (Decidable (_ ∧ _))

/-! ### What the resets do -/

/-- What a period reset that returns does to its subscription. -/
inductive MaybeReset (offset : Int) (plan : SubscriptionPlan) (now : Int) (sub : UserSubscription) :
    UserSubscription → ResetLog → Prop
  /-- The stored boundary is later, or there is no period. -/
  | early (h : (sub.nextResetTime > 0 ∧ sub.nextResetTime > now) ∨
      normalizeResetPeriod plan.quotaResetPeriod = .never) : MaybeReset offset plan now sub sub []
  /-- No boundary has passed; its time may be stored. -/
  | kept {saved : UserSubscription}
    (hnext : ¬ (0 < calcNextResetTime (fixedOffset offset) (resetBase sub) plan sub.endTime ∧
      calcNextResetTime (fixedOffset offset) (resetBase sub) plan sub.endTime ≤ now))
    (hbase : resetBase saved = resetBase sub) (hend : saved.endTime = sub.endTime) :
    MaybeReset offset plan now sub saved []
  | cleared {saved : UserSubscription} {b : Int} {log : ResetLog} (hlog : log ≠ [])
    (hdue : 0 < calcNextResetTime (fixedOffset offset) (resetBase sub) plan sub.endTime ∧
      calcNextResetTime (fixedOffset offset) (resetBase sub) plan sub.endTime ≤ now)
    (hgrid : ∀ anchor, OnGrid offset plan anchor (resetBase sub) → OnGrid offset plan anchor b)
    (hbase : resetBase saved = b) (hend : saved.endTime = sub.endTime)
    (hstop : ¬ (0 < calcNextResetTime (fixedOffset offset) b plan sub.endTime ∧
      calcNextResetTime (fixedOffset offset) b plan sub.endTime ≤ now)) : MaybeReset offset plan now sub saved log

theorem resetBase_store (hlast : saved.lastResetTime = resetBase sub)
    (hstart : saved.startTime = sub.startTime) : resetBase saved = resetBase sub := by
  unfold resetBase at hlast ⊢
  rw [hlast, hstart]
  split
  · exact ite_self _
  · rfl

theorem saveSubscription_eq (h : saveSubscription subs sub now = .ok (subs', saved)) :
    saved = { sub with updatedAt := now } ∧ subs' = subs.put saved := by
  obtain ⟨-, -, h⟩ := bind_eq_ok.mp h
  cases h
  exact ⟨rfl, rfl⟩

theorem maybeReset_spec (hu : Unwrapped plan) {fuel : Nat}
    (h : maybeResetUserSubscriptionWithPlanTx ⟨fixedOffset offset, now, fuel⟩ subs sub plan = .ok (subs', saved, log)) :
    MaybeReset offset plan now sub saved log := by
  unfold maybeResetUserSubscriptionWithPlanTx at h
  split at h
  · next hearly =>
    cases h
    exact .early (.inl hearly)
  split at h
  · next hnever =>
    cases h
    exact .early (.inr hnever)
  obtain ⟨⟨b, n, advanced⟩, hloop, h⟩ := bind_eq_ok.mp h
  have hloop := need_eq_ok.mp hloop
  have hspec : ∀ anchor, OnGrid offset plan anchor (resetBase sub) → _ := fun anchor hgrid =>
    advanceReset_spec hu rfl hgrid hloop
  obtain ⟨hn, -, hstop, hcases⟩ := hspec (resetBase sub) (.inl rfl)
  subst hn
  dsimp only at h
  rcases hcases with ⟨rfl, rfl⟩ | ⟨rfl, hpos, hdue⟩
  · rw [if_neg (by simp)] at h
    split at h
    · obtain ⟨⟨t, x⟩, hsave, h⟩ := bind_eq_ok.mp h
      cases h
      obtain ⟨rfl, -⟩ := saveSubscription_eq hsave
      exact .kept hstop (resetBase_store rfl rfl) rfl
    · cases h
      exact .kept hstop rfl rfl
  · obtain ⟨⟨t, x⟩, hsave, h⟩ := bind_eq_ok.mp h
    cases h
    obtain ⟨rfl, -⟩ := saveSubscription_eq hsave
    refine .cleared (by simp) hdue (fun anchor hgrid => (hspec anchor hgrid).2.1) ?_ rfl hstop
    exact if_neg (not_le.mpr hpos)

theorem Unwrapped.lt_nextBoundary (h : Unwrapped plan) {next : Int}
    (hn : nextBoundary offset base plan = some next) : base < next := by
  refine Steady.lt_nextBoundary (fun hp => ?_) hn
  unfold nextBoundary at hn
  rw [hp] at hn
  simp only at hn
  split at hn
  · cases hn
  · next hpos =>
    have := h hp
    rw [wrapInt64_of_fits] <;> omega

/-- There is a next boundary behind every time or behind none. -/
theorem nextBoundary_eq_none {other : Int} (h : nextBoundary offset base plan = none) :
    nextBoundary offset other plan = none := by
  unfold nextBoundary at h ⊢
  cases hp : normalizeResetPeriod plan.quotaResetPeriod with
  | never => rfl
  | custom =>
    rw [hp] at h
    simp only at h ⊢
    split at h
    · next hpos => rw [if_pos hpos]
    · cases h
  | _ =>
    rw [hp] at h
    cases h

/-! ### Runs -/

/-- The subscription counts from the grid, and its next boundary is behind its last advancing reset. -/
def Consistent (offset : Int) (plan : SubscriptionPlan) (id : Int) (t : Track) : Prop :=
  ∀ sub, t.subs.get? id = some sub → ∀ next, nextBoundary offset (resetBase sub) plan = some next →
    OnGrid offset plan t.anchor (resetBase sub) ∧
      (0 < calcNextResetTime (fixedOffset offset) (resetBase sub) plan sub.endTime → t.advanced < next)

variable {id : Int} {t t' : Track}

theorem consistent_ofSubscription (hu : Unwrapped plan) (hsub : subs.get? id = some sub) :
    Consistent offset plan id (.ofSubscription subs sub) := by
  intro x hx next hn
  cases hsub.symm.trans hx
  exact ⟨.inl rfl, fun _ => hu.lt_nextBoundary hn⟩

/-- A row with the same base and end stays consistent. -/
theorem Consistent.of_row (hc : Consistent offset plan id t) (hsub : t.subs.get? id = some sub)
    (hsaved : t'.subs.get? id = some saved) (hanchor : t'.anchor = t.anchor)
    (hadvanced : t'.advanced = t.advanced) (hbase : resetBase saved = resetBase sub)
    (hend : saved.endTime = sub.endTime) : Consistent offset plan id t' := by
  intro x hx next hn
  cases hsaved.symm.trans hx
  rw [hbase] at hn ⊢
  rw [hend, hanchor, hadvanced]
  exact hc sub hsub next hn

theorem get?_put_row (hsub : subs.get? id = some sub) (hid : saved.id = sub.id) :
    (subs.put saved).get? id = some saved := by
  have hrow : Row.id saved = id := hid.trans (Table.get?_id hsub)
  rw [← hrow]
  exact Table.get?_put_self (by rw [hrow]; exact hsub)

theorem Consistent.maybeReset (hc : Consistent offset plan id t) (hsub : t.subs.get? id = some sub)
    (hsaved : t'.subs.get? id = some saved) (hanchor : t'.anchor = t.anchor)
    (hadvanced : t'.advanced = if log = [] then t.advanced else now)
    (h : MaybeReset offset plan now sub saved log) : Consistent offset plan id t' := by
  cases h with
  | early => exact hc.of_row hsub hsaved hanchor hadvanced rfl rfl
  | kept _ hbase hend => exact hc.of_row hsub hsaved hanchor hadvanced hbase hend
  | cleared hlog hdue hgrid hbase hend hstop =>
    intro x hx next hn
    cases hsaved.symm.trans hx
    rw [hbase] at hn ⊢
    rw [hend, hanchor, hadvanced, if_neg hlog]
    refine ⟨hgrid _ (hc sub hsub _ (nextBoundary_of_calc hdue.1)).1, fun hpos => ?_⟩
    -- the loop has stopped, so a boundary that is left is behind `now`
    have := some.inj (hn.symm.trans (nextBoundary_of_calc hpos))
    omega

/-- What an admin reset stores. -/
theorem adminReset_spec {advance : Bool}
    (h : resetUserSubscriptionTx ⟨fixedOffset offset, now, 0⟩ subs sub plan advance = .ok (subs', log)) :
    ∃ saved : UserSubscription, subs' = subs.put saved ∧ saved.id = sub.id ∧ saved.startTime = sub.startTime ∧
      saved.endTime = sub.endTime ∧ saved.lastResetTime = if advance = true then
        (if calcNextResetTime (fixedOffset offset) now plan sub.endTime > 0 then now else 0) else sub.lastResetTime := by
  obtain ⟨⟨x, saved⟩, hsave, h⟩ := bind_eq_ok.mp h
  cases h
  obtain ⟨hsaved, rfl⟩ := saveSubscription_eq hsave
  refine ⟨saved, rfl, ?_⟩
  cases advance with
  | true =>
    subst hsaved
    exact ⟨rfl, rfl, rfl, rfl⟩
  | false =>
    subst hsaved
    exact ⟨rfl, rfl, rfl, rfl⟩

section

variable (hu : Unwrapped plan)
include hu

/-- The admin reset of a subscription that has another boundary before its end counts from its own time. -/
theorem Consistent.adminReset (hsub : t.subs.get? id = some sub)
    (ht : Renewable offset plan id t (.adminReset now true))
    (h : resetUserSubscriptionTx ⟨fixedOffset offset, now, 0⟩ t.subs sub plan true = .ok (subs, log)) :
    Consistent offset plan id ⟨subs, now, now⟩ := by
  obtain ⟨saved, rfl, hid, -, -, hlast⟩ := adminReset_spec h
  intro x hx next hn
  cases (get?_put_row hsub hid).symm.trans hx
  obtain ⟨hnow, hrenewable⟩ := ht
  cases hboundary : nextBoundary offset now plan with
  | none =>
    rw [nextBoundary_eq_none hboundary] at hn
    cases hn
  | some b =>
    obtain ⟨hpos, hend⟩ := hrenewable sub hsub b hboundary
    have hcalc : calcNextResetTime (fixedOffset offset) now plan sub.endTime = b := by
      rw [calcNextResetTime_eq, hboundary]
      exact if_neg (by omega)
    rw [if_pos rfl, hcalc, if_pos hpos] at hlast
    have hbase : resetBase saved = now := by
      unfold resetBase
      rw [hlast, if_neg (not_le.mpr hnow)]
    rw [hbase] at hn ⊢
    exact ⟨.inl rfl, fun _ => hu.lt_nextBoundary hn⟩

section

variable (hc : Consistent offset plan id t)
include hc

theorem Consistent.step {action : Action}
    (ht : Renewable offset plan id t action) (h : stepTrack offset plan id t action = some t') :
    Consistent offset plan id t' := by
  obtain ⟨sub, hsub, rfl⟩ := map_eq_some_iff.mp h
  cases action with
  | use amountUsed => exact hc.of_row hsub (get?_put_row hsub rfl) rfl rfl rfl rfl
  | maybeReset now fuel =>
    dsimp only
    split
    · exact hc
    · next subs saved log hr =>
      have hid : sub.id = id := Table.get?_id hsub
      have hget := (maybeReset_effect (hid.symm ▸ hsub) hr).2.1
      exact hc.maybeReset hsub (hid ▸ hget) rfl rfl (maybeReset_spec hu hr)
  | adminReset now advance =>
    dsimp only
    split
    · exact hc
    · next subs log hr =>
      cases advance with
      | true => exact Consistent.adminReset hu hsub ht hr
      | false =>
        obtain ⟨saved, rfl, hid, hstart, hend, hlast⟩ := adminReset_spec hr
        refine hc.of_row hsub (get?_put_row hsub hid) rfl rfl ?_ hend
        rw [if_neg Bool.false_ne_true] at hlast
        unfold resetBase
        rw [hlast, hstart]

/-- A period reset that clears the usage finds a boundary behind the last advancing reset. -/
theorem Consistent.clears
    (h : Clears offset plan id t now) :
    ∃ b, IsBoundary offset plan t.anchor b ∧ t.advanced < b ∧ b ≤ now := by
  obtain ⟨sub, fuel, subs, saved, log, hsub, hr, hlog⟩ := h
  cases maybeReset_spec hu hr with
  | early | kept => exact absurd rfl hlog
  | cleared _ hdue =>
    have hn := nextBoundary_of_calc hdue.1
    obtain ⟨hgrid, hlt⟩ := hc sub hsub _ hn
    exact ⟨_, nextBoundary_isBoundary hu hgrid hn, hlt hdue.1, hdue.2⟩

/-- Behind a period reset at `now` that returns, another one at `now` clears nothing. -/
theorem Consistent.not_clears_again
    {fuel : Nat} (hsub : t.subs.get? id = some sub)
    (hr : maybeResetUserSubscriptionWithPlanTx ⟨fixedOffset offset, now, fuel⟩ t.subs sub plan = .ok (subs, saved, log)) :
    ¬ Clears offset plan id { t with subs := subs, advanced := if log = [] then t.advanced else now } now := by
  intro hclears
  have hid : sub.id = id := Table.get?_id hsub
  have hget : subs.get? id = some saved := hid ▸ (maybeReset_effect (hid.symm ▸ hsub) hr).2.1
  have hspec := maybeReset_spec hu hr
  by_cases hlog : log = []
  · obtain ⟨x, fuel', subs', saved', log', hx, hr', hlog'⟩ := hclears
    cases hget.symm.trans hx
    have hspec' := maybeReset_spec hu hr'
    cases hspec with
    | early hearly =>
      -- the second call returns early as well
      unfold maybeResetUserSubscriptionWithPlanTx at hr'
      rcases hearly with hlater | hnever
      · rw [if_pos hlater] at hr'
        cases hr'
        exact hlog' rfl
      · split at hr' <;> cases hr' <;> exact hlog' rfl
    | kept hnext hbase hend =>
      cases hspec' with
      | cleared _ hdue =>
        rw [hbase, hend] at hdue
        exact hnext hdue
      | _ => exact hlog' rfl
    | cleared hne => exact hne hlog
  · have hc' : Consistent offset plan id ⟨subs, t.anchor, if log = [] then t.advanced else now⟩ :=
      hc.maybeReset hsub hget rfl rfl hspec
    obtain ⟨b, -, hlt, hle⟩ := hc'.clears hu hclears
    rw [if_neg hlog] at hlt
    exact absurd hle (not_le.mpr hlt)

end

end

/-- In every run whose advancing admin resets find another boundary before the end, a period reset clears the usage
only behind a boundary that has passed since the last advancing reset, and at the same time never again. -/
theorem usage_cleared_once_per_boundary (offset : Int) (plan : SubscriptionPlan) (hu : Unwrapped plan) (id : Int)
    (subs : Table UserSubscription) (sub : UserSubscription) (hsub : subs.get? id = some sub) (actions : List Action)
    (t : Track) (hrun : run (stepTrack offset plan id) (.ofSubscription subs sub) actions = some t)
    (hmeets : Meets (stepTrack offset plan id) (Renewable offset plan id) (.ofSubscription subs sub) actions)
    (now : Int) :
    (Clears offset plan id t now → ∃ b, IsBoundary offset plan t.anchor b ∧ t.advanced < b ∧ b ≤ now) ∧
      ∀ row fuel subs' saved log, t.subs.get? id = some row →
        maybeResetUserSubscriptionWithPlanTx ⟨fixedOffset offset, now, fuel⟩ t.subs row plan = .ok (subs', saved, log) →
        ¬ Clears offset plan id { t with subs := subs', advanced := if log = [] then t.advanced else now } now := by
  have hc : Consistent offset plan id t :=
    Meets.invariant (Consistent offset plan id) (fun _ _ _ hc => hc.step hu) actions _ _
      (consistent_ofSubscription hu hsub) hmeets hrun
  exact ⟨hc.clears hu, fun _ _ _ _ _ => hc.not_clears_again hu⟩

section Runs

private def daily : SubscriptionPlan := { id := 1, quotaResetPeriod := "daily" }

/-- A subscription from the first day until shortly behind the second midnight. -/
private def twoDays : UserSubscription :=
  { id := 1, userID := 1, planID := 1, amountTotal := 100, amountUsed := 40, startTime := 1000, endTime := 173300
    lastResetTime := 1000, nextResetTime := 86400 }

private def table : Table UserSubscription := Table.empty.insert twoDays

private def renewed : List Action := [.maybeReset 86500 9, .use 30, .adminReset 86600 true, .use 20]

/-- The usage is cleared behind the first midnight, and an admin reset on the second day finds the second one. -/
theorem usage_cleared_once_per_boundary_daily :
    ∃ t, run (stepTrack 0 daily 1) (.ofSubscription table twoDays) renewed = some t ∧ t.advanced = 86600 ∧
      (Clears 0 daily 1 t 172900 → ∃ b, IsBoundary 0 daily t.anchor b ∧ t.advanced < b ∧ b ≤ 172900) := by
  have hrun : run (stepTrack 0 daily 1) (.ofSubscription table twoDays) renewed = some _ :=
    run_getD (by decide +kernel)
  refine ⟨_, hrun, by decide +kernel, ?_⟩
  exact (usage_cleared_once_per_boundary 0 daily (by decide +kernel) 1 table twoDays (by decide +kernel) renewed _ hrun
    (by decide +kernel) 172900).1

private def exhausted : List Action := [.maybeReset 173000 9, .adminReset 173100 true, .use 50]

/-- Behind the last boundary an admin reset that advances stores no reset time: a period reset at the same time
counts from the start and clears the new usage. -/
theorem usage_cleared_without_boundary :
    ∃ (plan : SubscriptionPlan) (subs : Table UserSubscription) (sub : UserSubscription) (actions : List Action)
      (t : Track) (now : Int), Unwrapped plan ∧ subs.get? 1 = some sub ∧
      run (stepTrack 0 plan 1) (.ofSubscription subs sub) actions = some t ∧ Clears 0 plan 1 t now ∧
      ¬ ∃ b, IsBoundary 0 plan t.anchor b ∧ t.advanced < b ∧ b ≤ now := by
  obtain ⟨t, ht⟩ : ∃ t, (run (stepTrack 0 daily 1) (.ofSubscription table twoDays) exhausted).getD
      (.ofSubscription table twoDays) = t := ⟨_, rfl⟩
  have hrun : run (stepTrack 0 daily 1) (.ofSubscription table twoDays) exhausted = some _ :=
    run_getD (by decide +kernel)
  refine ⟨daily, table, twoDays, exhausted, _, 173100, by decide +kernel, by decide +kernel, hrun, ?_, ?_⟩
  · exact ⟨{ twoDays with amountUsed := 50, lastResetTime := 0, nextResetTime := 0, updatedAt := 173100 }, 9, _, _, _,
      by decide +kernel, rfl, by decide +kernel⟩
  · rintro ⟨b, -, hlt, hle⟩
    have hadvanced : t.advanced = 173100 := by
      rw [← ht]
      decide +kernel
    rw [ht] at hlt
    omega

end Runs

end MyApiSpec.Subscription
