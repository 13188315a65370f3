import MyApiSpec.Base.Decimal
import MyApiSpec.Base.Outcome

/-!
# Fee amounts

`model/fee_budget.go`. An amount in US dollars is a decimal text in normal form. Every function
checks that form again before it computes with the number.
-/

namespace MyApiSpec.Budget

open Base

/-- The errors of the token budget, of the fee budget, and those of other packages that they pass
on. -/
inductive BudgetError where
  | invalid
  | conflict
  | pending
  | exceeded
  | bound
  | duplicate
  | feeInvalid
  | feeExceeded
  | thresholdInvalid
  | thresholdCombination
  | shareConflict
  | ineligible
  | recordNotFound
  | duplicatedKey
  deriving DecidableEq, Repr

/-- `feeUSDPattern`: digits without a leading zero, then optionally a point and digits. -/
def feeUSDPattern (text : List Char) : Bool :=
  let whole := text.takeWhile (· ≠ '.')
  let rest := text.dropWhile (· ≠ '.')
  (whole = ['0'] || (whole.head?.any (fun c => c.isDigit && c ≠ '0') && whole.all Char.isDigit)) &&
    (rest = [] || (rest.tail ≠ [] && rest.tail.all Char.isDigit))

/-- `NormalizeFeeBudgetUSD`. A text that matches the pattern is ASCII, so its length in bytes is its
number of characters. -/
def normalizeFeeBudgetUSD (value : String) : Except BudgetError String := do
  check (value.toList ≠ [] ∧ value.toList.length ≤ 128 ∧ feeUSDPattern value.toList) .feeInvalid
  let normalized := (Decimal.ofText value.toList).toText
  check (normalized.length ≤ 128) .feeInvalid
  pure (String.ofList normalized)

/-- `feeBudgetDecimal`. -/
def feeBudgetDecimal (value : String) : Except BudgetError Decimal := do
  check (normalizeFeeBudgetUSD value = .ok value) .feeInvalid
  pure (Decimal.ofText value.toList)

/-- `feeBudgetFits`. -/
def feeBudgetFits (limit used reservation : String) : Except BudgetError Unit := do
  let max ← feeBudgetDecimal limit
  let consumed ← feeBudgetDecimal used
  let pending ← feeBudgetDecimal reservation
  check ((consumed.add pending).greaterThan max = false) .feeExceeded

/-- `feeBudgetAdd`. -/
def feeBudgetAdd (used actual : String) : Except BudgetError String := do
  let left ← feeBudgetDecimal used
  let right ← feeBudgetDecimal actual
  normalizeFeeBudgetUSD (String.ofList (left.add right).toText)

/-! ### Values -/

/-- The number of an amount. -/
def feeValue (text : String) : ℚ := (Decimal.ofText text.toList).toRat

theorem feeValue_nonneg (text : String) : 0 ≤ feeValue text :=
  div_nonneg (Nat.cast_nonneg _) (pow_nonneg (by norm_num) _)

@[simp]
theorem feeValue_zero : feeValue "0" = 0 := by
  have hzero : Decimal.ofText "0".toList = ⟨0, 0⟩ := by decide +kernel
  rw [feeValue, hzero]
  simp [Decimal.toRat]

theorem feeBudgetDecimal_ok {value : String} {d : Decimal} (h : feeBudgetDecimal value = .ok d) :
    d.toRat = feeValue value := by
  simp only [feeBudgetDecimal, bind_eq_ok, check_eq_ok] at h
  obtain ⟨_, -, hd⟩ := h
  cases hd
  rfl

/-- Normalisation keeps the number. -/
theorem normalizeFeeBudgetUSD_value {value normalized : String}
    (h : normalizeFeeBudgetUSD value = .ok normalized) : feeValue normalized = feeValue value := by
  simp only [normalizeFeeBudgetUSD, bind_eq_ok, check_eq_ok] at h
  obtain ⟨_, -, _, -, hn⟩ := h
  cases hn
  rw [feeValue, String.toList_ofList, Decimal.toRat_ofText_toText]
  rfl

theorem feeBudgetFits_ok {limit used reservation : String} {u : Unit}
    (h : feeBudgetFits limit used reservation = .ok u) :
    feeValue used + feeValue reservation ≤ feeValue limit := by
  simp only [feeBudgetFits, bind_eq_ok, check_eq_ok] at h
  obtain ⟨max, hmax, consumed, hconsumed, pending, hpending, hle⟩ := h
  rw [← feeBudgetDecimal_ok hmax, ← feeBudgetDecimal_ok hconsumed, ← feeBudgetDecimal_ok hpending,
    ← Decimal.toRat_add, ← not_lt, ← Decimal.greaterThan_iff, hle]
  decide

/-- The stored sum is exact. -/
theorem feeBudgetAdd_ok {used actual sum : String} (h : feeBudgetAdd used actual = .ok sum) :
    feeValue sum = feeValue used + feeValue actual := by
  simp only [feeBudgetAdd, bind_eq_ok] at h
  obtain ⟨left, hleft, right, hright, hsum⟩ := h
  rw [normalizeFeeBudgetUSD_value hsum, feeValue, String.toList_ofList, Decimal.toRat_ofText_toText,
    Decimal.toRat_add, feeBudgetDecimal_ok hleft, feeBudgetDecimal_ok hright]

example : normalizeFeeBudgetUSD "0.10" = .ok "0.1" := by decide +kernel

example : feeBudgetAdd "0.95" "1.05" = .ok "2" := by decide +kernel

example : normalizeFeeBudgetUSD "01.5" = .error .feeInvalid := by decide +kernel

end MyApiSpec.Budget
