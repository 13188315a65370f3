import MyApiSpec.Base.DecimalText
import MyApiSpec.Base.Outcome
import MyApiSpec.Ledger.Balance

/-!
# The quota scripts

`model/quota_reserve.go:27–151` and `model/user_auth_cache.go:31–54`: the Redis scripts that reserve the quota of a
cached user or token and that change it. The fields of a hash are texts; a script reads every field that it needs and
checks every target before its first write. Numbers of the scripts are exact integers.
-/

namespace MyApiSpec.Reserve

open Base Ledger

/-! ### Integers in texts -/

def versionMaximum : List Char := "9223372036854775807".toList

/-- `canonicalNonnegativeInteger`. -/
def canonicalNonnegativeInteger (value : String) : Option String :=
  let digits := value.toList
  if canonicalDigits digits = false then none
  else if versionMaximum.length < digits.length ∨
      (digits.length = versionMaximum.length ∧ versionMaximum < digits) then none
  else some value

/-- `canonicalPositiveInteger`. -/
def canonicalPositiveInteger (value : String) : Option String :=
  (canonicalNonnegativeInteger value).filter (· ≠ "0")

/-- `compareCanonicalNonnegative`. -/
def compareCanonicalNonnegative (left right : String) : Int :=
  if left.length < right.length then -1
  else if right.length < left.length then 1
  else if left < right then -1
  else if right < left then 1
  else 0

def quotaMaximumText : List Char := "9007199254740991".toList

/-- `canonicalSignedInteger`. -/
def canonicalSignedInteger (value : String) : Bool := canonicalSigned value.toList

/-- `tonumber`, on the texts that `canonicalSignedInteger` accepts. -/
def tonumber (value : String) : Int := signedValue value.toList

/-- `quotaStateInteger`; a missing field is not a text. -/
def quotaStateInteger (field : Option String) (nonnegative : Bool) : Option Int :=
  match field with
  | none => none
  | some value =>
    if canonicalSignedInteger value = false then none
    else
      let negative : Bool := value.toList.head? = some '-'
      if nonnegative && negative then none
      else
        let digits := if negative then value.toList.tail else value.toList
        if quotaMaximumText.length < digits.length ∨
            (digits.length = quotaMaximumText.length ∧ quotaMaximumText < digits) then none
        else some (tonumber value)

/-- `quotaAmountInteger`. -/
def quotaAmountInteger (value : String) : Option Int :=
  if canonicalSignedInteger value = false then none
  else if tonumber value < minQuota ∨ maxQuota < tonumber value then none
  else some (tonumber value)

/-- `checkedQuotaTarget`. -/
def checkedQuotaTarget (current delta : Int) (nonnegative : Bool) : Option Int :=
  let minimum := if nonnegative then 0 else -maxQuotaBalance
  if 0 < delta ∧ maxQuotaBalance - delta < current then none
  else if delta < 0 ∧ current < minimum - delta then none
  else some (current + delta)

/-- `canonicalQuotaText`. -/
def canonicalQuotaText (value : Int) : String := toString value

/-! ### Keys and writes -/

/-- The fields of the hash `KEYS[1]`, and the writer epoch `KEYS[2]`. -/
structure Keys where
  hash : String → Option String
  epoch : Option String := none

/-- The four arguments; the third is the schema of a user and the time of a token's access. -/
structure Args where
  amount : String
  subjectID : String
  third : String
  epoch : String
  deriving DecidableEq, Repr

/-- The writing commands of the scripts. -/
inductive Write where
  | setEpoch (value : String)
  | hincrby (field increment : String)
  | hset (field value : String)
  deriving DecidableEq, Repr

/-- The hash with one field written. -/
def Keys.hset (keys : Keys) (field value : String) : Keys :=
  { keys with hash := Function.update keys.hash field (some value) }

/-- What Redis takes for an integer: the canonical text of a 64-bit integer. -/
def redisInteger (value : String) : Option Int :=
  if canonicalSigned value.toList = true ∧ -2 ^ 63 ≤ signedValue value.toList ∧ signedValue value.toList < 2 ^ 63 then
    some (signedValue value.toList)
  else none

/-- One command; `none` when it raises an error. A missing field counts from zero. -/
def Write.apply : Write → Keys → Option Keys
  | .setEpoch value, keys => some { keys with epoch := some value }
  | .hset field value, keys => some (keys.hset field value)
  | .hincrby field increment, keys => do
    let current ← redisInteger ((keys.hash field).getD "0")
    let delta ← redisInteger increment
    if -2 ^ 63 ≤ current + delta ∧ current + delta < 2 ^ 63 then
      some (keys.hset field (toString (current + delta)))
    else none

/-- What a script returns. -/
inductive Reply where
  | code (n : Int)
  | raised
  deriving DecidableEq, Repr

/-- The commands in their order; Redis does not roll back when one of them raises an error. -/
def runWrites : List Write → Keys → Keys × Reply
  | [], keys => (keys, .code 1)
  | w :: ws, keys =>
    match w.apply keys with
    | none => (keys, .raised)
    | some keys' => runWrites ws keys'

/-- A script: the checks return a code, or the writes of a success. -/
def runScript (checks : Except Int (List Write)) (keys : Keys) : Keys × Reply :=
  match checks with
  | .error code => (keys, .code code)
  | .ok writes => runWrites writes keys

/-! ### The scripts -/

/-- `quotaCacheScriptPrelude`: the amount. -/
def quotaCacheScriptPrelude (args : Args) (keys : Keys) : Except Int Int := do
  check (canonicalPositiveInteger args.subjectID ≠ none) (-2)
  let incomingEpoch ← need (canonicalPositiveInteger args.epoch) (-2)
  let amount ← need (quotaAmountInteger args.amount) (-2)
  let globalEpoch ← need (canonicalNonnegativeInteger (keys.epoch.getD "0")) (-2)
  check (keys.epoch ≠ none → compareCanonicalNonnegative globalEpoch incomingEpoch = 0) (-3)
  return amount

/-- The checks of the hash's subject, schema and writer epoch. -/
def subjectChecks (args : Args) (schema : String) (keys : Keys) : Except Int Unit := do
  check (keys.hash "Id" = some args.subjectID ∧ keys.hash "CacheSchema" = some schema) (-1)
  check (keys.hash "QuotaWriterEpoch" = some args.epoch) (-3)

/-- The write of a missing writer epoch. -/
def epochWrites (args : Args) (keys : Keys) : List Write :=
  if keys.epoch = none then [.setEpoch args.epoch] else []

def userReserveChecks (args : Args) (keys : Keys) : Except Int (List Write) := do
  let amount ← quotaCacheScriptPrelude args keys
  check (0 ≤ amount ∧ canonicalPositiveInteger args.third ≠ none) (-2)
  subjectChecks args args.third keys
  let quota ← need (quotaStateInteger (keys.hash "Quota") false) (-1)
  check (checkedQuotaTarget quota (-amount) false ≠ none) (-2)
  check (amount ≤ quota) 0
  return epochWrites args keys ++ [.hincrby "Quota" (canonicalQuotaText (-amount))]

/-- `userQuotaReserveScript`. -/
def userQuotaReserveScript (args : Args) (keys : Keys) : Keys × Reply :=
  runScript (userReserveChecks args keys) keys

def userDeltaChecks (args : Args) (keys : Keys) : Except Int (List Write) := do
  let amount ← quotaCacheScriptPrelude args keys
  check (canonicalPositiveInteger args.third ≠ none) (-2)
  subjectChecks args args.third keys
  let quota ← need (quotaStateInteger (keys.hash "Quota") false) (-1)
  check (checkedQuotaTarget quota amount false ≠ none) (-2)
  return epochWrites args keys ++ [.hincrby "Quota" args.amount]

/-- `userQuotaDeltaScript`. -/
def userQuotaDeltaScript (args : Args) (keys : Keys) : Keys × Reply :=
  runScript (userDeltaChecks args keys) keys

/-- `tokenCacheSchemaVersion`. -/
def tokenCacheSchemaVersion : String := "3"

/-- The fields `RemainQuota` and `UsedQuota` of a token. -/
def tokenFields (keys : Keys) : Except Int (Int × Int) := do
  let remain ← need (quotaStateInteger (keys.hash "RemainQuota") false) (-1)
  let used ← need (quotaStateInteger (keys.hash "UsedQuota") true) (-1)
  return (remain, used)

def tokenReserveChecks (args : Args) (keys : Keys) : Except Int (List Write) := do
  let amount ← quotaCacheScriptPrelude args keys
  check (0 ≤ amount ∧ canonicalNonnegativeInteger args.third ≠ none) (-2)
  subjectChecks args tokenCacheSchemaVersion keys
  let (remain, used) ← tokenFields keys
  check (checkedQuotaTarget remain (-amount) false ≠ none ∧ checkedQuotaTarget used amount true ≠ none) (-2)
  check (amount ≤ remain) 0
  return epochWrites args keys ++ [.hincrby "RemainQuota" (canonicalQuotaText (-amount)),
    .hincrby "UsedQuota" args.amount, .hset "AccessedTime" args.third]

/-- `tokenQuotaReserveScript`. -/
def tokenQuotaReserveScript (args : Args) (keys : Keys) : Keys × Reply :=
  runScript (tokenReserveChecks args keys) keys

def tokenDeltaChecks (args : Args) (keys : Keys) : Except Int (List Write) := do
  let amount ← quotaCacheScriptPrelude args keys
  check (-maxQuota ≤ amount ∧ canonicalNonnegativeInteger args.third ≠ none) (-2)
  subjectChecks args tokenCacheSchemaVersion keys
  let (remain, used) ← tokenFields keys
  check (checkedQuotaTarget remain amount false ≠ none ∧ checkedQuotaTarget used (-amount) true ≠ none) (-2)
  return epochWrites args keys ++ [.hincrby "RemainQuota" args.amount,
    .hincrby "UsedQuota" (canonicalQuotaText (-amount)), .hset "AccessedTime" args.third]

/-- `tokenQuotaDeltaScript`. -/
def tokenQuotaDeltaScript (args : Args) (keys : Keys) : Keys × Reply :=
  runScript (tokenDeltaChecks args keys) keys

/-! ### The parser -/

theorem canonicalSigned_toString {value : String} {n : Int} :
    (canonicalSigned value.toList = true ∧ signedValue value.toList = n) ↔ value = toString n := by
  rw [canonicalSigned_iff, String.toList_inj]

/-- The comparison with the text of the maximum. -/
theorem above_quotaMaximumText {digits : List Char} (h : canonicalDigits digits = true) :
    (quotaMaximumText.length < digits.length ∨
        (digits.length = quotaMaximumText.length ∧ quotaMaximumText < digits)) ↔
      maxQuotaBalance < decimalValue digits := by
  have hvalue : (decimalValue quotaMaximumText : Int) = maxQuotaBalance := by decide
  rw [canonicalDigits_above (by decide) h, ← hvalue, Nat.cast_lt]

/-- The texts that are accepted, and the numbers that they are read as. -/
theorem quotaStateInteger_eq_some {value : String} {nonnegative : Bool} {n : Int} :
    quotaStateInteger (some value) nonnegative = some n ↔
      value = toString n ∧ -maxQuotaBalance ≤ n ∧ n ≤ maxQuotaBalance ∧ (nonnegative = true → 0 ≤ n) := by
  rw [← canonicalSigned_toString]
  simp only [quotaStateInteger, tonumber]
  by_cases htext : canonicalSigned value.toList = true
  · rw [if_neg (show ¬ canonicalSignedInteger value = false by simp [canonicalSignedInteger, htext])]
    rcases canonicalSigned_cases htext with ⟨digits, hminus, hcanonical, hpos, hvalue⟩ | ⟨hhead, hcanonical, hvalue⟩
    · simp only [hminus] at htext hvalue ⊢
      simp only [List.head?_cons, List.tail_cons, decide_true, Bool.and_true, if_true,
        above_quotaMaximumText hcanonical, hvalue, htext, true_and]
      cases nonnegative <;> simp <;> omega
    · simp only [hhead, decide_false, Bool.and_false, Bool.false_eq_true, if_false,
        above_quotaMaximumText hcanonical, hvalue, htext, true_and]
      cases nonnegative <;> simp <;> omega
  · rw [if_pos (show canonicalSignedInteger value = false from Bool.eq_false_iff.mpr htext)]
    simp [htext]

end MyApiSpec.Reserve
