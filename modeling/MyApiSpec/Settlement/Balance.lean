import MyApiSpec.Settlement.Permit

/-!
# Balance movements of legacy settlements and refunds

The rows are locked inside the transaction, so the guarded updates of the source always hit the
row that was read; what remains are the range and version checks. Each movement comes with its
effect on the balances: the row it names moves by the given amount and no other balance moves.
-/

namespace MyApiSpec.Settlement

open Base Table
open Ledger (User Token UserSubscription quotaMutationVersionValid checkedQuotaBalance
  checkedQuotaUsed)

/-! ### Balances as measures -/

variable {db : DB}

/-- `quota` of a user, zero when there is no such row. -/
def userQuota (id : Int) (db : DB) : Int := db.ledger.users.column User.quota id

/-- `remain_quota` of a token. -/
def tokenRemain (id : Int) (db : DB) : Int := db.ledger.tokens.column Token.remainQuota id

/-- `used_quota` of a token. -/
def tokenUsed (id : Int) (db : DB) : Int := db.ledger.tokens.column Token.usedQuota id

/-- `amount_used` of a subscription. -/
def subscriptionUsed (id : Int) (db : DB) : Int :=
  db.ledger.subscriptions.column UserSubscription.amountUsed id

/-- The amounts by which a transaction moves each balance. -/
structure Movement where
  user : Int → Int := fun _ => 0
  remain : Int → Int := fun _ => 0
  used : Int → Int := fun _ => 0
  subscription : Int → Int := fun _ => 0

instance : Add Movement where
  add m m' := ⟨fun i => m.user i + m'.user i, fun i => m.remain i + m'.remain i,
    fun i => m.used i + m'.used i, fun i => m.subscription i + m'.subscription i⟩

/-- The balances of `db'` are those of `db` moved by `m`. -/
structure Moved (m : Movement) (db db' : DB) : Prop where
  user : ∀ i, userQuota i db' = userQuota i db + m.user i
  remain : ∀ i, tokenRemain i db' = tokenRemain i db + m.remain i
  used : ∀ i, tokenUsed i db' = tokenUsed i db + m.used i
  subscription : ∀ i, subscriptionUsed i db' = subscriptionUsed i db + m.subscription i

/-- A change that keeps the three balance tables moves no balance. -/
theorem Moved.of_eq {db' : DB} (hu : db'.ledger.users = db.ledger.users)
    (ht : db'.ledger.tokens = db.ledger.tokens)
    (hs : db'.ledger.subscriptions = db.ledger.subscriptions) : Moved {} db db' := by
  refine ⟨?_, ?_, ?_, ?_⟩ <;> intro i <;>
    simp [userQuota, tokenRemain, tokenUsed, subscriptionUsed, hu, ht, hs]

/-! ### The wallet -/

/-- Move the wallet of a user (`model/account_quota_settlement_fact.go:633–652`,
`model/legacy_usage_extension.go:109–132`, `model/account_quota_refund_fact.go:435–456`). -/
def moveUserQuota (db : DB) (userID amount : Int) : Fallible DB := do
  let user ← need (db.ledger.users.get? userID) [.recordNotFound]
  check (quotaMutationVersionValid user.quotaVersion) [.ineligible]
  let target ← need (checkedQuotaBalance user.quota amount) [.balanceOutOfRange]
  let row := { user with quota := target, quotaVersion := user.quotaVersion + 1 }
  return { db with ledger := { db.ledger with users := db.ledger.users.put row } }

/-- A token with its new balances, the next version and a new access time. -/
def chargedToken (token : Token) (remain used now : Int) : Token :=
  { token with remainQuota := remain, usedQuota := used, quotaVersion := token.quotaVersion + 1
               accessedTime := now }

/-- Write a token row back with its new balances. -/
def writeToken (db : DB) (token : Token) (remain used now : Int) : DB :=
  { db with ledger := { db.ledger with
    tokens := db.ledger.tokens.put (chargedToken token remain used now) } }

/-- Write a subscription row back with its new usage. -/
def writeSubscription (db : DB) (row : UserSubscription) : DB :=
  { db with ledger := { db.ledger with subscriptions := db.ledger.subscriptions.put row } }

/-- Replacing a user row moves that wallet and no other balance. -/
theorem moved_putUser {old row : User} (h : db.ledger.users.get? row.id = some old) :
    Moved { user := fun i => if i = row.id then row.quota - old.quota else 0 } db
      { db with ledger := { db.ledger with users := db.ledger.users.put row } } := by
  refine ⟨?_, ?_, ?_, ?_⟩ <;> intro i
  · exact column_put User.quota h i
  all_goals exact (Int.add_zero _).symm

theorem moveUserQuota_ok {db' : DB} {userID amount : Int}
    (h : moveUserQuota db userID amount = .ok db') :
    Moved { user := fun i => if i = userID then amount else 0 } db db' ∧
      ∃ users, db' = { db with ledger := { db.ledger with users := users } } := by
  simp only [moveUserQuota, bind_eq_ok, need_eq_ok, check_eq_ok, exists_const] at h
  obtain ⟨user, huser, -, target, htarget, hdb⟩ := h
  cases hdb
  obtain ⟨-, -, rfl⟩ := Ledger.checkedQuotaBalance_eq_some.mp htarget
  have hid : user.id = userID := get?_id huser
  subst hid
  have hmoved := @moved_putUser db user
    { user with quota := user.quota + amount, quotaVersion := user.quotaVersion + 1 } huser
  refine ⟨?_, _, rfl⟩
  have hamount : (user.quota + amount) - user.quota = amount := by omega
  simpa only [hamount] using hmoved

/-- Writing a token back moves its two balances and no other. -/
theorem writeToken_moved {token : Token} {remain used now : Int}
    (h : db.ledger.tokens.get? token.id = some token) :
    Moved { remain := fun i => if i = token.id then remain - token.remainQuota else 0
            used := fun i => if i = token.id then used - token.usedQuota else 0 }
      db (writeToken db token remain used now) := by
  refine ⟨?_, ?_, ?_, ?_⟩ <;> intro i
  · exact (Int.add_zero _).symm
  · exact column_put (r := chargedToken token remain used now) Token.remainQuota h i
  · exact column_put (r := chargedToken token remain used now) Token.usedQuota h i
  · exact (Int.add_zero _).symm

/-- Writing a subscription back moves its usage and no other balance. -/
theorem writeSubscription_moved {old row : UserSubscription}
    (h : db.ledger.subscriptions.get? row.id = some old) :
    Moved { subscription := fun i => if i = row.id then row.amountUsed - old.amountUsed else 0 }
      db (writeSubscription db row) := by
  refine ⟨?_, ?_, ?_, ?_⟩ <;> intro i
  · exact (Int.add_zero _).symm
  · exact (Int.add_zero _).symm
  · exact (Int.add_zero _).symm
  · exact column_put UserSubscription.amountUsed h i

end MyApiSpec.Settlement
