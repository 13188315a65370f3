import Mathlib.Algebra.Order.Ring.Rat
import MyApiSpec.Base.Calendar
import MyApiSpec.Ledger.Subscription

/-!
# Subscription plans and their duration

`controller/subscription.go:147–310`, the checks and defaults of the create and update handlers, and
`model/subscription.go:348–372`, the end of a subscription that starts at a given time. Hours, days and seconds
are multiplied into 64-bit nanoseconds, and the product wraps.
-/

namespace MyApiSpec.Subscription

open Base Base.Calendar Ledger

variable {n : Int}

/-- `SubscriptionPlan`, the fields that the handlers check or change and the functions below read. -/
structure Plan where
  id : Int := 0
  title : String
  priceAmount : ℚ := 0
  currency : String := ""
  durationUnit : String := ""
  durationValue : Int := 0
  customSeconds : Int := 0
  allowBalancePay : Option Bool := none
  allowWalletOverflow : Option Bool := none
  maxPurchasePerUser : Int := 0
  upgradeGroup : String := ""
  downgradeGroup : String := ""
  totalAmount : Int := 0
  quotaResetPeriod : String := ""
  quotaResetCustomSeconds : Int := 0
  deriving DecidableEq, Repr

/-- The columns that period resets read. -/
def Plan.toLedger (p : Plan) : SubscriptionPlan := ⟨p.id, p.quotaResetPeriod, p.quotaResetCustomSeconds⟩

/-- The text of a reset period. -/
def periodText : ResetPeriod → String
  | .never => "never"
  | .daily => "daily"
  | .weekly => "weekly"
  | .monthly => "monthly"
  | .custom => "custom"

/-! ### The handlers -/

variable {p : Plan}

/-- The checks that both handlers make, with the defaults between them. -/
def validatePlan (groups : List String) (p : Plan) : Except String Plan := do
  check (trimSpace p.title ≠ "") "套餐标题不能为空"
  check (¬ p.priceAmount < 0) "价格不能为负数"
  check (¬ 9999 < p.priceAmount) "价格不能超过9999"
  let durationUnit := if p.durationUnit = "" then "month" else p.durationUnit
  let durationValue := if p.durationValue ≤ 0 ∧ durationUnit ≠ "custom" then 1 else p.durationValue
  check (0 ≤ p.maxPurchasePerUser) "购买上限不能为负数"
  check (p.totalAmount ≤ maxQuotaBalance) "quota.exceed_max"
  check (0 ≤ p.totalAmount) "总额度不能为负数"
  let upgradeGroup := trimSpace p.upgradeGroup
  check (upgradeGroup = "" ∨ upgradeGroup ∈ groups) "升级分组不存在"
  let downgradeGroup := trimSpace p.downgradeGroup
  check (downgradeGroup = "" ∨ downgradeGroup ∈ groups) "降级分组不存在"
  let period := normalizeResetPeriod p.quotaResetPeriod
  check (period = .custom → 0 < p.quotaResetCustomSeconds) "自定义重置周期需大于0秒"
  return { p with
    currency := "USD"
    durationUnit := durationUnit
    durationValue := durationValue
    upgradeGroup := upgradeGroup
    downgradeGroup := downgradeGroup
    quotaResetPeriod := periodText period }

/-- `AdminCreateSubscriptionPlan`, up to the insert. -/
def adminCreateSubscriptionPlan (groups : List String) (p : Plan) : Except String Plan :=
  validatePlan groups { p with
    id := 0
    allowBalancePay := some (p.allowBalancePay.getD true)
    allowWalletOverflow := some (p.allowWalletOverflow.getD true) }

/-- `AdminUpdateSubscriptionPlan`, up to the update. -/
def adminUpdateSubscriptionPlan (groups : List String) (id : Int) (p : Plan) : Except String Plan := do
  check (0 < id) "无效的ID"
  validatePlan groups { p with id := id }

/-- One of the handlers stores the plan. -/
def Accepted (p : Plan) : Prop :=
  ∃ groups request, adminCreateSubscriptionPlan groups request = .ok p ∨
    ∃ id, adminUpdateSubscriptionPlan groups id request = .ok p

theorem validatePlan_ok {groups : List String} {request : Plan}
    (h : validatePlan groups request = .ok p) :
    (p.durationUnit ≠ "custom" → 0 < p.durationValue) ∧
      ∃ period, p.quotaResetPeriod = periodText period ∧ (period = .custom → 0 < p.quotaResetCustomSeconds) := by
  simp only [validatePlan, bind_eq_ok, check_eq_ok, exists_const] at h
  obtain ⟨-, -, -, -, -, -, -, -, hperiod, h⟩ := h
  cases h
  refine ⟨?_, _, rfl, hperiod⟩
  dsimp only
  generalize (if request.durationUnit = "" then "month" else request.durationUnit) = unit
  intro hunit
  split
  · decide
  · next hkeep =>
    by_contra hnot
    exact hkeep ⟨not_lt.mp hnot, hunit⟩

/-- A stored plan has a positive duration value, and positive seconds if its reset period needs them. -/
theorem Accepted.positive (h : Accepted p) :
    (p.durationUnit ≠ "custom" → 0 < p.durationValue) ∧
      ∃ period, p.quotaResetPeriod = periodText period ∧ (period = .custom → 0 < p.quotaResetCustomSeconds) := by
  obtain ⟨groups, request, h | ⟨id, h⟩⟩ := h
  · exact validatePlan_ok h
  · obtain ⟨-, -, h⟩ := bind_eq_ok.mp h
    exact validatePlan_ok h

/-! ### The end of a subscription -/

/-- The supported duration units. -/
inductive DurationUnit where
  | year
  | month
  | day
  | hour
  | custom
  deriving DecidableEq, Repr

/-- The unit of a text. -/
def durationUnit? : String → Option DurationUnit
  | "year" => some .year
  | "month" => some .month
  | "day" => some .day
  | "hour" => some .hour
  | "custom" => some .custom
  | _ => none

/-- `time.Second`. -/
def second : Int := 10 ^ 9

/-- `time.Hour`. -/
def hour : Int := 3600 * second

/-- The seconds behind `start` when a duration is added. -/
def addDuration (start duration : Int) : Int := start + duration / second

/-- `calcPlanEndTime`; the times are whole seconds. -/
def calcPlanEndTime (offset start : Int) (p : Plan) : Except String Int :=
  if p.durationValue ≤ 0 ∧ p.durationUnit ≠ "custom" then .error "duration_value must be > 0"
  else
    match durationUnit? p.durationUnit with
    | some .year => .ok (addDateMonths offset start (12 * p.durationValue))
    | some .month => .ok (addDateMonths offset start p.durationValue)
    | some .day => .ok (addDuration start (wrapInt64 (wrapInt64 (p.durationValue * 24) * hour)))
    | some .hour => .ok (addDuration start (wrapInt64 (p.durationValue * hour)))
    | some .custom =>
      if p.customSeconds ≤ 0 then .error "custom_seconds must be > 0"
      else .ok (addDuration start (wrapInt64 (p.customSeconds * second)))
    | none => .error ("invalid duration_unit: " ++ p.durationUnit)

theorem wrapInt64_eq_bmod (n : Int) : wrapInt64 n = n.bmod (2 ^ 64) := by
  unfold wrapInt64
  rw [Int.bmod_def]
  split <;> omega

theorem wrapInt64_mul (a b : Int) : wrapInt64 (wrapInt64 a * b) = wrapInt64 (a * b) := by
  simp only [wrapInt64_eq_bmod, Int.bmod_mul_bmod]

theorem wrapInt64_of_fits (h : 0 ≤ n) (h' : n < 2 ^ 63) : wrapInt64 n = n := by
  unfold wrapInt64
  omega

theorem wrapInt64_lt (n : Int) : wrapInt64 n < 2 ^ 63 := by
  unfold wrapInt64
  omega

/-- The number that the plan states in its unit. -/
def Plan.amount (p : Plan) : Int := if p.durationUnit = "custom" then p.customSeconds else p.durationValue

/-- The seconds of a unit, for the units that are a number of seconds. -/
def unitSeconds : DurationUnit → Option Int
  | .day => some 86400
  | .hour => some 3600
  | .custom => some 1
  | .year | .month => none

/-- The subscription ends behind its start, and by the stated duration if the unit is a number of seconds. -/
def Lasts (offset start : Int) (p : Plan) (unit : DurationUnit) : Prop :=
  ∃ e, calcPlanEndTime offset start p = .ok e ∧ start < e ∧
    ∀ seconds, unitSeconds unit = some seconds → e = start + p.amount * seconds

/-- The stated duration in nanoseconds is a 64-bit integer. -/
def FitsDuration (p : Plan) (unit : DurationUnit) : Prop :=
  ∀ seconds, unitSeconds unit = some seconds → p.amount * seconds * second < 2 ^ 63

/-- A plan with a unit and a positive number of it. -/
structure Stated (p : Plan) (unit : DurationUnit) : Prop where
  accepted : Accepted p
  named : durationUnit? p.durationUnit = some unit
  positive : unit = .custom → 0 < p.customSeconds

theorem durationUnit?_custom {text : String} : durationUnit? text = some .custom ↔ text = "custom" := by
  constructor
  · intro h
    unfold durationUnit? at h
    split at h <;> first | rfl | cases h
  · rintro rfl
    rfl

variable {unit : DurationUnit}

theorem Stated.amount_pos (h : Stated p unit) : 0 < p.amount := by
  unfold Plan.amount
  split
  · next hcustom =>
    refine h.positive (Option.some.inj ?_)
    rw [← h.named, hcustom]
    rfl
  · next hother => exact h.accepted.positive.1 hother

/-- The end of a subscription by units. -/
theorem calcPlanEndTime_eq (offset start : Int) (h : Stated p unit) :
    calcPlanEndTime offset start p = .ok
      (match unit with
        | .year => addDateMonths offset start (12 * p.amount)
        | .month => addDateMonths offset start p.amount
        | .day => addDuration start (wrapInt64 (p.amount * 86400 * second))
        | .hour => addDuration start (wrapInt64 (p.amount * 3600 * second))
        | .custom => addDuration start (wrapInt64 (p.amount * 1 * second))) := by
  have hpos := h.amount_pos
  have hunit := h.named
  unfold Plan.amount at hpos ⊢
  unfold calcPlanEndTime
  by_cases hcustom : p.durationUnit = "custom"
  · cases hunit.symm.trans (durationUnit?_custom.mpr hcustom)
    rw [if_pos hcustom] at hpos
    rw [if_neg (by simp [hcustom]), hunit]
    simp only [hcustom, if_true, Int.mul_one]
    rw [if_neg (by omega)]
  · rw [if_neg hcustom] at hpos
    rw [if_neg (by omega), hunit, if_neg hcustom]
    cases unit with
    | custom => exact absurd (durationUnit?_custom.mp hunit) hcustom
    | year => rfl
    | month => rfl
    | day =>
      rw [wrapInt64_mul]
      simp only [hour, Int.mul_assoc]
      rfl
    | hour => simp only [hour, Int.mul_assoc]

theorem unitSeconds_pos {seconds : Int} (h : unitSeconds unit = some seconds) : 0 < seconds := by
  cases unit <;> cases h <;> decide

/-- A sum of seconds is exact if and only if its nanoseconds do not wrap. -/
theorem wrapInt64_div_second (h : 0 ≤ n) :
    wrapInt64 (n * second) / second = n ↔ n * second < 2 ^ 63 := by
  unfold second
  constructor
  · have := wrapInt64_lt (n * 10 ^ 9)
    omega
  · intro hfits
    rw [wrapInt64_of_fits (by omega) hfits]
    omega

theorem Stated.lasts_iff (offset start : Int) (h : Stated p unit) :
    Lasts offset start p unit ↔ FitsDuration p unit := by
  have hpos := h.amount_pos
  cases hunit : unitSeconds unit with
  | some seconds =>
    have hseconds := unitSeconds_pos hunit
    have htotal : 0 < p.amount * seconds := Int.mul_pos hpos hseconds
    have hexact := wrapInt64_div_second htotal.le
    have hend : calcPlanEndTime offset start p =
        .ok (start + wrapInt64 (p.amount * seconds * second) / second) := by
      rw [calcPlanEndTime_eq offset start h]
      cases unit <;> cases hunit <;> rfl
    constructor
    · rintro ⟨e, he, -, hsum⟩ x hx
      rw [hend] at he
      cases hunit.symm.trans hx
      have := hsum seconds hunit
      cases he
      exact hexact.mp (by omega)
    · intro hfits
      have := hexact.mpr (hfits seconds hunit)
      refine ⟨_, hend, by omega, fun x hx => ?_⟩
      cases hunit.symm.trans hx
      omega
  | none =>
    have hlater : ∀ months, 0 < months → start < addDateMonths offset start months := by
      intro months hmonths
      have := addDateMonths_strictMono offset start hmonths
      rwa [addDateMonths_zero] at this
    have hnone : ∀ x, unitSeconds unit ≠ some x := by
      intro x hx
      cases hunit.symm.trans hx
    refine ⟨fun _ x hx => absurd hx (hnone x), fun _ => ?_⟩
    refine ⟨_, calcPlanEndTime_eq offset start h, ?_, fun x hx => absurd hx (hnone x)⟩
    cases unit with
    | year => exact hlater _ (by omega)
    | month => exact hlater _ hpos
    | _ => cases hunit

/-- A subscription lasts as its plan states exactly when the duration fits into 64-bit nanoseconds. -/
theorem subscription_lasts_iff_fits (offset start : Int) (p : Plan) (unit : DurationUnit) (hp : Stated p unit) :
    (Lasts offset start p unit ↔ FitsDuration p unit) ∧
      ∀ q, Stated q unit → FitsDuration p unit → FitsDuration q unit → p.amount ≤ q.amount →
        ∃ e e', calcPlanEndTime offset start p = .ok e ∧ calcPlanEndTime offset start q = .ok e' ∧ e ≤ e' := by
  refine ⟨hp.lasts_iff offset start, fun q hq hfits hfits' hle => ?_⟩
  refine ⟨_, _, calcPlanEndTime_eq offset start hp, calcPlanEndTime_eq offset start hq, ?_⟩
  cases hunit : unitSeconds unit with
  | some seconds =>
    obtain ⟨e, he, -, hsum⟩ := (hp.lasts_iff offset start).mpr hfits
    obtain ⟨e', he', -, hsum'⟩ := (hq.lasts_iff offset start).mpr hfits'
    rw [calcPlanEndTime_eq offset start hp] at he
    rw [calcPlanEndTime_eq offset start hq] at he'
    have heq := Except.ok.inj he
    have heq' := Except.ok.inj he'
    rw [heq, heq', hsum seconds hunit, hsum' seconds hunit]
    have := Int.mul_le_mul_of_nonneg_right hle (unitSeconds_pos hunit).le
    omega
  | none =>
    have hmono := (addDateMonths_strictMono offset start).monotone
    cases unit with
    | year => exact hmono (by omega)
    | month => exact hmono hle
    | _ => cases hunit

/-- A plan of some hours as the create handler stores it. -/
private def hours (n : Int) : Plan :=
  { title := "hours", currency := "USD", durationUnit := "hour", durationValue := n
    allowBalancePay := some true, allowWalletOverflow := some true, quotaResetPeriod := "never" }

private def hoursRequest (n : Int) : Plan := { title := "hours", durationUnit := "hour", durationValue := n }

private theorem stated_hours (h : adminCreateSubscriptionPlan [] (hoursRequest n) = .ok (hours n)) :
    Stated (hours n) .hour :=
  ⟨⟨[], hoursRequest n, .inl h⟩, rfl, nofun⟩

/-- A day in hours. -/
theorem subscription_lasts_iff_fits_day :
    Lasts 0 1000 (hours 24) .hour ∧ FitsDuration (hours 24) .hour := by
  have hfits : FitsDuration (hours 24) .hour := by
    rintro seconds ⟨⟩
    decide
  exact ⟨(subscription_lasts_iff_fits 0 1000 (hours 24) .hour (stated_hours (by decide +kernel))).1.mpr hfits, hfits⟩

/-- A plan of 2562048 hours ends before it starts. -/
theorem subscription_ends_before_start :
    ∃ (p : Plan) (e : Int), Stated p .hour ∧ calcPlanEndTime 0 1000 p = .ok e ∧ e < 1000 :=
  ⟨hours 2562048, _, stated_hours (by decide +kernel), rfl, by decide⟩

end MyApiSpec.Subscription
