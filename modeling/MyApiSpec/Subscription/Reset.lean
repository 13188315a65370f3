import Mathlib.Algebra.Order.Group.Int
import MyApiSpec.Base.Run
import MyApiSpec.Subscription.Plan

/-!
# Period resets

`model/subscription.go:383–422`, `1149–1164` and `1398–1432` in a location with a fixed offset. A reset period has
boundaries: the midnights, the midnights of Mondays, those of first days of a month, or the multiples of some
seconds behind an anchor. `calcNextResetTime` finds the next one, and the loop of the period reset walks over them
until it passes the current time.
-/

namespace MyApiSpec.Subscription

open Base Base.Calendar Ledger Option

variable {plan : SubscriptionPlan}

/-- The calendar of a location with a fixed offset. -/
def fixedOffset (offset : Int) : Ledger.Calendar where
  midnightAfter t days := midnight offset (localDay offset t + days)
  weekday t := (localDay offset t + 4) % 7
  startOfNextMonth t := midnight offset (firstDay (monthOf (localDay offset t) + 1))

/-- The seconds of the custom period behind the multiplication with `time.Second`. -/
def customStep (plan : SubscriptionPlan) : Int := wrapInt64 (plan.quotaResetCustomSeconds * 10 ^ 9) / 10 ^ 9

/-- The next boundary without the bound of the end time, `none` without a period. -/
def nextBoundary (offset base : Int) (plan : SubscriptionPlan) : Option Int :=
  match normalizeResetPeriod plan.quotaResetPeriod with
  | .never => none
  | .daily => some (midnight offset (localDay offset base + 1))
  | .weekly =>
    some (midnight offset (localDay offset base +
      (8 - if (localDay offset base + 4) % 7 = 0 then 7 else (localDay offset base + 4) % 7)))
  | .monthly => some (midnight offset (firstDay (monthOf (localDay offset base) + 1)))
  | .custom => if plan.quotaResetCustomSeconds ≤ 0 then none else some (base + customStep plan)

theorem calcNextResetTime_eq (offset base : Int) (plan : SubscriptionPlan) (endUnix : Int) :
    calcNextResetTime (fixedOffset offset) base plan endUnix =
      match nextBoundary offset base plan with
      | none => 0
      | some next => if endUnix > 0 ∧ next > endUnix then 0 else next := by
  simp only [calcNextResetTime, nextBoundary, fixedOffset, customStep]
  cases normalizeResetPeriod plan.quotaResetPeriod with
  | custom =>
    dsimp only
    split <;> rfl
  | _ => rfl

/-- The seconds of the custom period move time forward. -/
def Steady (plan : SubscriptionPlan) : Prop :=
  normalizeResetPeriod plan.quotaResetPeriod = .custom → 10 ^ 9 ≤ wrapInt64 (plan.quotaResetCustomSeconds * 10 ^ 9)

instance (plan : SubscriptionPlan) : Decidable (Steady plan) := inferInstanceAs (Decidable (_ → _))

theorem Steady.step_pos (h : Steady plan)
    (hp : normalizeResetPeriod plan.quotaResetPeriod = .custom) : 0 < customStep plan := by
  have := h hp
  unfold customStep
  omega

variable {offset : Int}

/-- The next boundary is later. -/
theorem Steady.lt_nextBoundary (h : Steady plan) {base next : Int}
    (hn : nextBoundary offset base plan = some next) : base < next := by
  have hday := lt_midnight_succ offset base
  have hmono : ∀ d, localDay offset base + 1 ≤ d → base < midnight offset d := fun d hd =>
    lt_of_lt_of_le hday ((midnight_strictMono offset).monotone hd)
  unfold nextBoundary at hn
  cases hp : normalizeResetPeriod plan.quotaResetPeriod with
  | never =>
    rw [hp] at hn
    cases hn
  | daily =>
    rw [hp] at hn
    cases hn
    exact hday
  | weekly =>
    rw [hp] at hn
    cases hn
    refine hmono _ ?_
    split <;> omega
  | monthly =>
    rw [hp] at hn
    cases hn
    exact hmono _ (monthOf_spec (localDay offset base)).2
  | custom =>
    rw [hp] at hn
    have hstep := h.step_pos hp
    simp only at hn
    split at hn
    · cases hn
    · cases hn
      omega

/-! ### Termination -/

/-- `calcNextResetTime` is zero or later than its base. -/
def MovesForward (offset : Int) (plan : SubscriptionPlan) : Prop :=
  ∀ base endUnix, calcNextResetTime (fixedOffset offset) base plan endUnix = 0 ∨
    base < calcNextResetTime (fixedOffset offset) base plan endUnix

/-- The period reset of every subscription ends within some number of rounds. -/
def LoopEnds (offset : Int) (plan : SubscriptionPlan) : Prop :=
  ∀ (subs : Table UserSubscription) (sub : UserSubscription) (now : Int), ∃ fuel, ∀ more,
    maybeResetUserSubscriptionWithPlanTx ⟨fixedOffset offset, now, fuel + more⟩ subs sub plan ≠ .error .database

theorem Steady.movesForward (h : Steady plan) (offset : Int) : MovesForward offset plan := by
  intro base endUnix
  rw [calcNextResetTime_eq]
  cases hn : nextBoundary offset base plan with
  | none => exact .inl rfl
  | some next =>
    dsimp only
    split
    · exact .inl rfl
    · exact .inr (h.lt_nextBoundary hn)

variable {plan : SubscriptionPlan}

/-- A loop that moves forward ends: every round brings the next time closer to `now`. -/
theorem MovesForward.advanceReset (h : MovesForward offset plan)
    (endUnix now : Int) : ∀ (fuel : Nat) (base next : Int) (advanced : Bool), now - next < fuel →
      (advanceReset (fixedOffset offset) plan endUnix now (fuel + 1) base next advanced).isSome = true
  | 0, base, next, advanced, hfuel => by
    unfold Ledger.advanceReset
    rw [if_neg (by push_cast at hfuel; omega)]
    rfl
  | fuel + 1, base, next, advanced, hfuel => by
    unfold Ledger.advanceReset
    split
    · rcases h next endUnix with hzero | hlt
      · rw [hzero]
        unfold Ledger.advanceReset
        rw [if_neg (by omega)]
        rfl
      · exact MovesForward.advanceReset h endUnix now fuel next _ true (by push_cast at hfuel; omega)
    · rfl

theorem MovesForward.loopEnds (h : MovesForward offset plan) :
    LoopEnds offset plan := by
  intro subs sub now
  obtain ⟨base, hbase⟩ : ∃ b, (if sub.lastResetTime ≤ 0 then sub.startTime else sub.lastResetTime) = b := ⟨_, rfl⟩
  obtain ⟨next, hnext⟩ : ∃ n, calcNextResetTime (fixedOffset offset) base plan sub.endTime = n := ⟨_, rfl⟩
  refine ⟨(now - next).toNat + 2, fun more => ?_⟩
  have hloop := h.advanceReset sub.endTime now ((now - next).toNat + 1 + more) base next false
    (by push_cast; omega)
  obtain ⟨⟨b, n, advanced⟩, hr⟩ := isSome_iff_exists.mp hloop
  have hsave : ∀ s, saveSubscription subs s now ≠ .error .database := by
    intro s hs
    rcases bind_eq_error.mp hs with hs | ⟨-, -, hs⟩
    · cases (check_eq_error.mp hs).2
    · cases hs
  unfold maybeResetUserSubscriptionWithPlanTx
  simp only [hbase, hnext, show (now - next).toNat + 2 + more = (now - next).toNat + 1 + more + 1 by omega, hr,
    need_some, ok_bind]
  intro herror
  split at herror
  · cases herror
  split at herror
  · cases herror
  split at herror
  · rcases bind_eq_error.mp herror with herror | ⟨_, _, herror⟩
    · exact hsave _ herror
    · cases herror
  split at herror
  · rcases bind_eq_error.mp herror with herror | ⟨_, _, herror⟩
    · exact hsave _ herror
    · cases herror
  · cases herror

theorem MovesForward.steady (h : MovesForward offset plan)
    (hpos : normalizeResetPeriod plan.quotaResetPeriod = .custom → 0 < plan.quotaResetCustomSeconds) :
    Steady plan := by
  intro hp
  by_contra hlt
  -- a step that is not positive leads from `1 - step` to one
  have hstep : customStep plan ≤ 0 := by
    unfold customStep
    omega
  have hnext : nextBoundary offset (1 - customStep plan) plan = some 1 := by
    unfold nextBoundary
    rw [hp]
    simp only [if_neg (not_le.mpr (hpos hp))]
    rw [show 1 - customStep plan + customStep plan = 1 by omega]
  have hcalc := h (1 - customStep plan) 0
  rw [calcNextResetTime_eq, hnext] at hcalc
  simp only [gt_iff_lt, lt_self_iff_false, false_and, if_false] at hcalc
  omega

theorem periodText_normalize (period : ResetPeriod) : normalizeResetPeriod (periodText period) = period := by
  cases period <;> decide +kernel

theorem Accepted.customSeconds_pos {p : Plan} (h : Accepted p)
    (hp : normalizeResetPeriod p.toLedger.quotaResetPeriod = .custom) :
    0 < p.toLedger.quotaResetCustomSeconds := by
  obtain ⟨period, htext, hpos⟩ := h.positive.2
  refine hpos ?_
  rwa [Plan.toLedger, htext, periodText_normalize] at hp

/-- The reset loop of an accepted plan moves forward and ends exactly when its seconds do not wrap to less than one
second. -/
theorem reset_loop_ends_iff_steady (offset : Int) (p : Plan) (haccepted : Accepted p) :
    (MovesForward offset p.toLedger ∧ LoopEnds offset p.toLedger) ↔ Steady p.toLedger :=
  ⟨fun h => h.1.steady haccepted.customSeconds_pos,
    fun h => ⟨h.movesForward offset, (h.movesForward offset).loopEnds⟩⟩

/-- A plan that resets after some seconds, as the create handler stores it. -/
private def everySeconds (n : Int) : Plan :=
  { title := "seconds", currency := "USD", durationUnit := "month", durationValue := 1
    allowBalancePay := some true, allowWalletOverflow := some true
    quotaResetPeriod := "custom", quotaResetCustomSeconds := n }

private theorem accepted_everySeconds {n : Int}
    (h : adminCreateSubscriptionPlan []
      { title := "seconds", quotaResetPeriod := " custom ", quotaResetCustomSeconds := n } = .ok (everySeconds n)) :
    Accepted (everySeconds n) :=
  ⟨[], _, .inl h⟩

theorem reset_loop_ends_iff_steady_hourly :
    (MovesForward 3600 (everySeconds 3600).toLedger ∧ LoopEnds 3600 (everySeconds 3600).toLedger) ∧
      Steady (everySeconds 3600).toLedger := by
  have hsteady : Steady (everySeconds 3600).toLedger := by decide +kernel
  have haccepted : Accepted (everySeconds 3600) := accepted_everySeconds (by decide +kernel)
  exact ⟨(reset_loop_ends_iff_steady 3600 (everySeconds 3600) haccepted).mpr hsteady, hsteady⟩

/-- A boundary that is its own next one is never passed. -/
theorem advanceReset_eq_none {calendar : Ledger.Calendar} {endUnix now next : Int}
    (hfix : calcNextResetTime calendar next plan endUnix = next) (hpos : 0 < next) (hle : next ≤ now) :
    ∀ (fuel : Nat) (base : Int) (advanced : Bool), advanceReset calendar plan endUnix now fuel base next advanced = none
  | 0, _, _ => rfl
  | fuel + 1, base, advanced => by
    unfold advanceReset
    rw [if_pos ⟨hpos, hle⟩, hfix]
    exact advanceReset_eq_none hfix hpos hle fuel next true

/-- With 2^55 seconds the nanoseconds wrap to zero, and the loop stays where it is for ever. -/
theorem reset_loop_never_ends :
    ∃ (p : Plan) (sub : UserSubscription) (now : Int), Accepted p ∧
      ∀ fuel, maybeResetUserSubscriptionWithPlanTx ⟨fixedOffset 0, now, fuel⟩ .empty sub p.toLedger =
        .error .database := by
  refine ⟨everySeconds (2 ^ 55), { id := 1, userID := 1, planID := 1, amountTotal := 10, startTime := 5, endTime := 100 },
    10, accepted_everySeconds (by decide +kernel), fun fuel => ?_⟩
  have hfix : calcNextResetTime (fixedOffset 0) 5 (everySeconds (2 ^ 55)).toLedger 100 = 5 := by decide +kernel
  have hperiod : normalizeResetPeriod (everySeconds (2 ^ 55)).toLedger.quotaResetPeriod ≠ .never := by decide +kernel
  unfold maybeResetUserSubscriptionWithPlanTx
  simp only [le_refl, if_true, hfix, advanceReset_eq_none hfix (by decide) (by decide : (5 : Int) ≤ 10)]
  rfl

end MyApiSpec.Subscription
