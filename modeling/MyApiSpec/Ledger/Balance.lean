import Mathlib.Algebra.Ring.Int.Defs

/-!
# Checked quota arithmetic

`common/quota_balance.go` and `common/quota_math.go`: persisted balances stay inside the
range that Go, JSON and Lua represent exactly, and every change is checked against that
range before it is added.
-/

namespace MyApiSpec.Ledger

variable {delta v : Int}

/-- `MaxQuotaBalance` (`common/quota_balance.go:9`). -/
def maxQuotaBalance : Int := 2 ^ 53 - 1

/-- `MaxQuota`, the largest charge of one request (`common/quota_math.go`). -/
def maxQuota : Int := 2 ^ 31 - 1

/-- `MinQuota` (`common/quota_math.go`). -/
def minQuota : Int := -2 ^ 31

/-- `quotaMutationMaxInt64` (`model/quota_mutation.go`). -/
def maxInt64 : Int := 2 ^ 63 - 1

/-- `checkedQuotaBalanceTarget`; `none` is `ErrQuotaBalanceOutOfRange`
(`common/quota_balance.go:29–40`). -/
def checkedQuotaBalanceTarget (current delta minimum maximum : Int) : Option Int :=
  if current < minimum ∨ current > maximum then none
  else if delta > 0 ∧ delta > maximum - current then none
  else if delta < 0 ∧ delta < minimum - current then none
  else some (current + delta)

/-- `CheckedQuotaBalance` (`common/quota_balance.go:18–20`). -/
def checkedQuotaBalance (current delta : Int) : Option Int :=
  checkedQuotaBalanceTarget current delta (-maxQuotaBalance) maxQuotaBalance

/-- `CheckedQuotaUsed` (`common/quota_balance.go:25–27`). -/
def checkedQuotaUsed (current delta : Int) : Option Int :=
  checkedQuotaBalanceTarget current delta 0 maxQuotaBalance

/-- `quotaMutationVersionValid`: a version that can still be incremented
(`model/quota_mutation.go:979–981`). -/
def quotaMutationVersionValid (version : Int) : Prop := 0 ≤ version ∧ version < maxInt64

instance (version : Int) : Decidable (quotaMutationVersionValid version) :=
  inferInstanceAs (Decidable (_ ∧ _))

/-- `validateAccountQuotaValue` accepts the value (`model/account_quota_mutation.go:379–384`). -/
def validAccountQuotaValue (value : Int) : Prop := 0 ≤ value ∧ value ≤ maxQuota

instance (value : Int) : Decidable (validAccountQuotaValue value) :=
  inferInstanceAs (Decidable (_ ∧ _))

/-- The checked target is the plain sum, and it is produced exactly when both the current
value and the sum lie in the range. -/
theorem checkedQuotaBalanceTarget_eq_some {current minimum maximum : Int} :
    checkedQuotaBalanceTarget current delta minimum maximum = some v ↔
      (minimum ≤ current ∧ current ≤ maximum) ∧
        (minimum ≤ current + delta ∧ current + delta ≤ maximum) ∧ v = current + delta := by
  unfold checkedQuotaBalanceTarget
  split
  · simp; omega
  split
  · simp; omega
  split
  · simp; omega
  simp only [Option.some.injEq]
  omega

theorem checkedQuotaBalance_eq_some {current : Int} :
    checkedQuotaBalance current delta = some v ↔
      (-maxQuotaBalance ≤ current ∧ current ≤ maxQuotaBalance) ∧
        (-maxQuotaBalance ≤ current + delta ∧ current + delta ≤ maxQuotaBalance) ∧
          v = current + delta :=
  checkedQuotaBalanceTarget_eq_some

theorem checkedQuotaUsed_eq_some {current : Int} :
    checkedQuotaUsed current delta = some v ↔
      (0 ≤ current ∧ current ≤ maxQuotaBalance) ∧
        (0 ≤ current + delta ∧ current + delta ≤ maxQuotaBalance) ∧ v = current + delta :=
  checkedQuotaBalanceTarget_eq_some

end MyApiSpec.Ledger
