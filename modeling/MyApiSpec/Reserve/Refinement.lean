import MyApiSpec.Reserve.Scripts

/-!
# The scripts against the database

`model/quota_reserve.go:459–534`: the reservations on the rows of the database. On a hash that a script accepts both
sides give one verdict and the same balances, except where a script, which checks every target first, finds one
outside the range before it finds the balance insufficient, and where the cached used quota is negative, which is a
miss.
-/

namespace MyApiSpec.Reserve

open Base Ledger Option

/-! ### The database -/

/-- The errors of the reservations; the row is locked, so that the conditional update finds it as it was read. -/
inductive DatabaseError where
  | invalidOperation
  | notFound
  | outOfRange
  deriving DecidableEq, Repr

/-- `reserveUserQuotaDB` on the quota of the row: whether it reserved, and the quota behind it. -/
def reserveUserQuotaDB (row : Option Int) (quota : Int) : Except DatabaseError (Bool × Int) := do
  check (0 ≤ quota ∧ quota ≤ maxQuota) .invalidOperation
  let current ← need row .notFound
  check (checkedQuotaBalance current 0 ≠ none) .outOfRange
  if current < quota then return (false, current)
  else
    let target ← need (checkedQuotaBalance current (-quota)) .outOfRange
    return (true, target)

/-- The columns of a token that a reservation changes. -/
structure TokenRow where
  remainQuota : Int
  usedQuota : Int
  accessedTime : Int
  deriving DecidableEq, Repr

/-- `reserveTokenQuotaDB`. -/
def reserveTokenQuotaDB (row : Option TokenRow) (quota now : Int) : Except DatabaseError (Bool × TokenRow) := do
  check (0 ≤ quota ∧ quota ≤ maxQuota) .invalidOperation
  let token ← need row .notFound
  check (checkedQuotaBalance token.remainQuota 0 ≠ none) .outOfRange
  check (checkedQuotaUsed token.usedQuota 0 ≠ none) .outOfRange
  if token.remainQuota < quota then return (false, token)
  else
    let remainTarget ← need (checkedQuotaBalance token.remainQuota (-quota)) .outOfRange
    let usedTarget ← need (checkedQuotaUsed token.usedQuota quota) .outOfRange
    return (true, ⟨remainTarget, usedTarget, now⟩)

/-! ### Verdicts -/

/-- What a reservation or a change comes to. -/
inductive Verdict (β : Type) where
  | applied (balances : β)
  | insufficient
  | outOfRange
  | missed
  | other
  deriving DecidableEq, Repr

/-- The verdict of a script, with the balances read from the hash behind it. -/
def scriptVerdict {β : Type} (read : Keys → Option β) (result : Keys × Reply) : Verdict β :=
  match result.2 with
  | .code 1 => (read result.1).elim .other .applied
  | .code 0 => .insufficient
  | .code (-1) => .missed
  | .code (-2) => .outOfRange
  | _ => .other

/-- The balance of a user. -/
def readUser (keys : Keys) : Option Int := quotaStateInteger (keys.hash "Quota") false

/-- The balances of a token. -/
def readToken (keys : Keys) : Option (Int × Int) := (tokenFields keys).toOption

/-- The verdict of a reservation in the database. -/
def databaseVerdict {α β : Type} (balances : α → β) : Except DatabaseError (Bool × α) → Verdict β
  | .ok (true, row) => .applied (balances row)
  | .ok (false, _) => .insufficient
  | .error .outOfRange => .outOfRange
  | .error _ => .other

/-- The balances of a row. -/
def TokenRow.balances (row : TokenRow) : Int × Int := (row.remainQuota, row.usedQuota)

/-- The verdict of the checked arithmetic on all balances. -/
def checkedVerdict {β : Type} (balances : Option β) : Verdict β := balances.elim .outOfRange .applied

/-- The change of a token in the checked arithmetic: what is remaining and what is used move against each other. -/
def checkedToken (remain used delta : Int) : Option (Int × Int) := do
  let remainTarget ← checkedQuotaBalance remain delta
  let usedTarget ← checkedQuotaUsed used (-delta)
  return (remainTarget, usedTarget)

/-! ### Hits -/

/-- The arguments name the subject of the hash, its schema and the writer epoch. -/
structure Hit (args : Args) (schema : String) (keys : Keys) (amount : Int) : Prop where
  amountText : args.amount = toString amount
  minimum : minQuota ≤ amount
  maximum : amount ≤ maxQuota
  subject : canonicalPositiveInteger args.subjectID ≠ none
  epoch : canonicalPositiveInteger args.epoch = some args.epoch
  stored : keys.epoch = none ∨ keys.epoch = some args.epoch
  id : keys.hash "Id" = some args.subjectID
  schemaText : keys.hash "CacheSchema" = some schema
  writerEpoch : keys.hash "QuotaWriterEpoch" = some args.epoch

/-- A cached user with a canonical balance. -/
structure UserHit (args : Args) (keys : Keys) (quota amount : Int) : Prop extends
    Hit args args.third keys amount where
  third : canonicalPositiveInteger args.third ≠ none
  field : keys.hash "Quota" = some (toString quota)
  low : -maxQuotaBalance ≤ quota
  high : quota ≤ maxQuotaBalance

/-- A cached token with canonical balances. -/
structure TokenHit (args : Args) (keys : Keys) (remain used amount : Int) : Prop extends
    Hit args tokenCacheSchemaVersion keys amount where
  third : canonicalNonnegativeInteger args.third ≠ none
  remainField : keys.hash "RemainQuota" = some (toString remain)
  usedField : keys.hash "UsedQuota" = some (toString used)
  remainLow : -maxQuotaBalance ≤ remain
  remainHigh : remain ≤ maxQuotaBalance
  usedLow : -maxQuotaBalance ≤ used
  usedHigh : used ≤ maxQuotaBalance

section

variable {args : Args} {schema : String} {keys : Keys} {amount quota remain used : Int}

theorem quotaAmountInteger_toString (hmin : minQuota ≤ amount) (hmax : amount ≤ maxQuota) :
    quotaAmountInteger (toString amount) = some amount := by
  obtain ⟨hcanonical, hvalue⟩ := canonicalSigned_toString.mpr (rfl : toString amount = toString amount)
  have hsigned : ¬ canonicalSignedInteger (toString amount) = false := by
    rw [canonicalSignedInteger, hcanonical]
    decide
  rw [quotaAmountInteger, if_neg hsigned, tonumber, hvalue, if_neg (by omega)]

theorem Hit.prelude (h : Hit args schema keys amount) : quotaCacheScriptPrelude args keys = .ok amount := by
  have hglobal : ∃ e, canonicalNonnegativeInteger (keys.epoch.getD "0") = some e ∧
      (keys.epoch ≠ none → compareCanonicalNonnegative e args.epoch = 0) := by
    rcases h.stored with hnone | hsome
    · exact ⟨"0", by rw [hnone]; decide, absurd hnone⟩
    · obtain ⟨hepoch, -⟩ := filter_eq_some_iff.mp h.epoch
      exact ⟨args.epoch, by rw [hsome]; exact hepoch, fun _ => by simp [compareCanonicalNonnegative]⟩
  obtain ⟨e, he, hcompare⟩ := hglobal
  rw [quotaCacheScriptPrelude, check_pos h.subject, ok_bind, h.epoch, need_some, ok_bind, h.amountText,
    quotaAmountInteger_toString h.minimum h.maximum, need_some, ok_bind, he, need_some, ok_bind,
    check_pos hcompare]
  rfl

theorem Hit.subjectChecks (h : Hit args schema keys amount) : subjectChecks args schema keys = .ok () := by
  rw [Reserve.subjectChecks, check_pos ⟨h.id, h.schemaText⟩, ok_bind, check_pos h.writerEpoch]

/-! ### Targets -/

theorem checkedQuotaTarget_balance {current delta : Int} (hlow : -maxQuotaBalance ≤ current)
    (hhigh : current ≤ maxQuotaBalance) :
    checkedQuotaTarget current delta false = checkedQuotaBalance current delta := by
  simp only [checkedQuotaTarget, checkedQuotaBalance, checkedQuotaBalanceTarget, Bool.false_eq_true, if_false]
  split_ifs <;> first | rfl | omega

theorem checkedQuotaTarget_used {current delta : Int} (hlow : 0 ≤ current) (hhigh : current ≤ maxQuotaBalance) :
    checkedQuotaTarget current delta true = checkedQuotaUsed current delta := by
  simp only [checkedQuotaTarget, checkedQuotaUsed, checkedQuotaBalanceTarget, if_true]
  split_ifs <;> first | rfl | omega

/-! ### Writes -/

theorem redisInteger_toString {n : Int} (hlow : -2 ^ 63 ≤ n) (hhigh : n < 2 ^ 63) :
    redisInteger (toString n) = some n := by
  obtain ⟨hcanonical, hvalue⟩ := canonicalSigned_toString.mpr (rfl : toString n = toString n)
  rw [redisInteger, hvalue, if_pos ⟨hcanonical, hlow, hhigh⟩]

/-- Between balances of the range an increment does not fail. -/
theorem hincrby_apply {field : String} {current delta : Int} (hfield : keys.hash field = some (toString current))
    (hcurrent : -maxQuotaBalance ≤ current ∧ current ≤ maxQuotaBalance)
    (htarget : -maxQuotaBalance ≤ current + delta ∧ current + delta ≤ maxQuotaBalance) :
    (Write.hincrby field (toString delta)).apply keys = some (keys.hset field (toString (current + delta))) := by
  have hmax : maxQuotaBalance = 2 ^ 53 - 1 := rfl
  have hread := redisInteger_toString (n := current) (by omega) (by omega)
  have hincrement := redisInteger_toString (n := delta) (by omega) (by omega)
  have hsum : -2 ^ 63 ≤ current + delta ∧ current + delta < 2 ^ 63 := by omega
  simp only [Write.apply, hfield, getD_some, hread, hincrement, bind_eq_bind, bind_some,
    if_pos hsum]

/-- A missing writer epoch is written first. -/
theorem Hit.runWrites (h : Hit args schema keys amount) (ws : List Write) :
    runWrites (epochWrites args keys ++ ws) keys = Reserve.runWrites ws { keys with epoch := some args.epoch } := by
  rcases h.stored with hnone | hsome
  · rw [epochWrites, if_pos hnone]
    rfl
  · rw [epochWrites, if_neg (by simp [hsome]), ← hsome]
    rfl

theorem readUser_of_field {n : Int} (hfield : keys.hash "Quota" = some (toString n))
    (hrange : -maxQuotaBalance ≤ n ∧ n ≤ maxQuotaBalance) : readUser keys = some n := by
  rw [readUser, hfield]
  exact quotaStateInteger_eq_some.mpr ⟨rfl, hrange.1, hrange.2, nofun⟩

theorem tokenFields_of_fields (hremain : keys.hash "RemainQuota" = some (toString remain))
    (hused : keys.hash "UsedQuota" = some (toString used))
    (hremainRange : -maxQuotaBalance ≤ remain ∧ remain ≤ maxQuotaBalance)
    (husedRange : 0 ≤ used ∧ used ≤ maxQuotaBalance) : tokenFields keys = .ok (remain, used) := by
  have hreadRemain : quotaStateInteger (some (toString remain)) false = some remain :=
    quotaStateInteger_eq_some.mpr ⟨rfl, hremainRange.1, hremainRange.2, nofun⟩
  have hreadUsed : quotaStateInteger (some (toString used)) true = some used :=
    quotaStateInteger_eq_some.mpr ⟨rfl, by omega, husedRange.2, fun _ => husedRange.1⟩
  rw [tokenFields, hremain, hused, hreadRemain, hreadUsed]
  rfl

/-- A success of a user's script. -/
theorem UserHit.applied (h : UserHit args keys quota amount) {delta : Int}
    (htarget : -maxQuotaBalance ≤ quota + delta ∧ quota + delta ≤ maxQuotaBalance) :
    scriptVerdict readUser (runScript (.ok (epochWrites args keys ++ [.hincrby "Quota" (toString delta)])) keys) =
      .applied (quota + delta) := by
  let keys' : Keys := { keys with epoch := some args.epoch }
  have hwrite : (Write.hincrby "Quota" (toString delta)).apply keys' =
      some (keys'.hset "Quota" (toString (quota + delta))) := hincrby_apply h.field ⟨h.low, h.high⟩ htarget
  have hread : readUser (keys'.hset "Quota" (toString (quota + delta))) = some (quota + delta) :=
    readUser_of_field (by simp [Keys.hset]) htarget
  rw [runScript, h.runWrites]
  rw [runWrites, hwrite]
  simp only [runWrites, scriptVerdict, hread, elim_some]

/-- A success of a token's script. -/
theorem TokenHit.applied (h : TokenHit args keys remain used amount) {delta : Int}
    (hremainTarget : -maxQuotaBalance ≤ remain + delta ∧ remain + delta ≤ maxQuotaBalance)
    (husedTarget : 0 ≤ used + -delta ∧ used + -delta ≤ maxQuotaBalance) :
    scriptVerdict readToken (runScript (.ok (epochWrites args keys ++
      [.hincrby "RemainQuota" (toString delta), .hincrby "UsedQuota" (toString (-delta)),
        .hset "AccessedTime" args.third])) keys) = .applied (remain + delta, used + -delta) := by
  let keys' : Keys := { keys with epoch := some args.epoch }
  let keys₁ := keys'.hset "RemainQuota" (toString (remain + delta))
  let keys₂ := keys₁.hset "UsedQuota" (toString (used + -delta))
  have hremainWrite : (Write.hincrby "RemainQuota" (toString delta)).apply keys' = some keys₁ :=
    hincrby_apply h.remainField ⟨h.remainLow, h.remainHigh⟩ hremainTarget
  have husedField : keys₁.hash "UsedQuota" = some (toString used) := by
    simp [keys₁, keys', Keys.hset, h.usedField]
  have husedWrite : (Write.hincrby "UsedQuota" (toString (-delta))).apply keys₁ = some keys₂ :=
    hincrby_apply husedField ⟨h.usedLow, h.usedHigh⟩ (by omega)
  have hread : readToken (keys₂.hset "AccessedTime" args.third) = some (remain + delta, used + -delta) := by
    have hfields : tokenFields (keys₂.hset "AccessedTime" args.third) = .ok (remain + delta, used + -delta) := by
      refine tokenFields_of_fields ?_ ?_ hremainTarget husedTarget
      · simp [keys₂, keys₁, Keys.hset]
      · simp [keys₂, Keys.hset]
    rw [readToken, hfields]
    rfl
  rw [runScript, h.runWrites]
  rw [runWrites, hremainWrite]
  dsimp only
  rw [runWrites, husedWrite]
  simp only [runWrites, Write.apply, scriptVerdict, hread, elim_some]

/-! ### Verdicts of the scripts -/

/-- The change of a user's quota is the checked arithmetic. -/
theorem UserHit.delta (h : UserHit args keys quota amount) :
    scriptVerdict readUser (userQuotaDeltaScript args keys) = checkedVerdict (checkedQuotaBalance quota amount) := by
  have hchecks : userDeltaChecks args keys =
      check (checkedQuotaBalance quota amount ≠ none) (-2) >>= fun _ =>
        .ok (epochWrites args keys ++ [.hincrby "Quota" (toString amount)]) := by
    have hquota : quotaStateInteger (keys.hash "Quota") false = some quota :=
      readUser_of_field h.field ⟨h.low, h.high⟩
    rw [userDeltaChecks, h.prelude, ok_bind, check_pos h.third, ok_bind, h.subjectChecks, ok_bind, hquota,
      need_some, ok_bind, checkedQuotaTarget_balance h.low h.high, h.amountText]
    rfl
  rw [userQuotaDeltaScript, hchecks]
  cases hc : checkedQuotaBalance quota amount with
  | none => rfl
  | some v =>
    obtain ⟨-, htarget, rfl⟩ := checkedQuotaBalance_eq_some.mp hc
    rw [check_pos nofun, ok_bind, h.applied htarget]
    rfl

/-- The reservation of a user's quota. -/
theorem UserHit.reserve (h : UserHit args keys quota amount) (hamount : 0 ≤ amount) :
    scriptVerdict readUser (userQuotaReserveScript args keys) =
      if quota - amount < -maxQuotaBalance then .outOfRange
      else if quota < amount then .insufficient else .applied (quota - amount) := by
  have hchecks : userReserveChecks args keys =
      check (checkedQuotaBalance quota (-amount) ≠ none) (-2) >>= fun _ => check (amount ≤ quota) 0 >>= fun _ =>
        .ok (epochWrites args keys ++ [.hincrby "Quota" (toString (-amount))]) := by
    have hquota : quotaStateInteger (keys.hash "Quota") false = some quota :=
      readUser_of_field h.field ⟨h.low, h.high⟩
    rw [userReserveChecks, h.prelude, ok_bind, check_pos ⟨hamount, h.third⟩, ok_bind, h.subjectChecks, ok_bind,
      hquota, need_some, ok_bind, checkedQuotaTarget_balance h.low h.high]
    rfl
  have hhigh := h.high
  have hlow := h.low
  rw [userQuotaReserveScript, hchecks]
  by_cases hrange : quota - amount < -maxQuotaBalance
  · have hnone : checkedQuotaBalance quota (-amount) = none := by
      rw [eq_none_iff_forall_ne_some]
      intro v hv
      have := checkedQuotaBalance_eq_some.mp hv
      omega
    rw [if_pos hrange, check_neg (by simp [hnone])]
    rfl
  · have hsome : checkedQuotaBalance quota (-amount) = some (quota + -amount) :=
      checkedQuotaBalance_eq_some.mpr ⟨⟨hlow, hhigh⟩, by omega, rfl⟩
    rw [if_neg hrange, hsome, check_pos nofun, ok_bind]
    by_cases hless : quota < amount
    · rw [if_pos hless, check_neg (by omega)]
      rfl
    · rw [if_neg hless, check_pos (by omega), ok_bind, h.applied (by omega), Int.sub_eq_add_neg]

/-- A negative used quota is a miss of a token's script. -/
theorem TokenHit.tokenFields_negative (h : TokenHit args keys remain used amount) (hused : used < 0) :
    tokenFields keys = .error (-1) := by
  have hremain : quotaStateInteger (keys.hash "RemainQuota") false = some remain := by
    rw [h.remainField]
    exact quotaStateInteger_eq_some.mpr ⟨rfl, h.remainLow, h.remainHigh, nofun⟩
  have hnone : quotaStateInteger (keys.hash "UsedQuota") true = none := by
    rw [h.usedField, eq_none_iff_forall_ne_some]
    intro n hn
    obtain ⟨htext, -, -, hn⟩ := quotaStateInteger_eq_some.mp hn
    have hvalue := (canonicalSigned_toString.mpr htext).2
    rw [(canonicalSigned_toString.mpr (rfl : toString used = toString used)).2] at hvalue
    have := hn rfl
    omega
  rw [tokenFields, hremain, hnone]
  rfl

theorem TokenHit.tokenFields_ok (h : TokenHit args keys remain used amount) (hused : 0 ≤ used) :
    tokenFields keys = .ok (remain, used) :=
  tokenFields_of_fields h.remainField h.usedField ⟨h.remainLow, h.remainHigh⟩ ⟨hused, h.usedHigh⟩

theorem checkedToken_eq_some {delta : Int} {b : Int × Int} : checkedToken remain used delta = some b ↔
    checkedQuotaBalance remain delta = some b.1 ∧ checkedQuotaUsed used (-delta) = some b.2 := by
  obtain ⟨x, y⟩ := b
  simp only [checkedToken]
  cases checkedQuotaBalance remain delta <;> cases checkedQuotaUsed used (-delta) <;> simp

/-- The change of a token's quota is the checked arithmetic, on a used quota that is not negative. -/
theorem TokenHit.delta (h : TokenHit args keys remain used amount) (hamount : -maxQuota ≤ amount) :
    scriptVerdict readToken (tokenQuotaDeltaScript args keys) =
      if used < 0 then .missed else checkedVerdict (checkedToken remain used amount) := by
  have hchecks : tokenDeltaChecks args keys = tokenFields keys >>= fun b =>
      check (checkedQuotaTarget b.1 amount false ≠ none ∧ checkedQuotaTarget b.2 (-amount) true ≠ none) (-2) >>=
        fun _ => .ok (epochWrites args keys ++ [.hincrby "RemainQuota" (toString amount),
          .hincrby "UsedQuota" (toString (-amount)), .hset "AccessedTime" args.third]) := by
    rw [tokenDeltaChecks, h.prelude, ok_bind, check_pos ⟨hamount, h.third⟩, ok_bind, h.subjectChecks, ok_bind,
      h.amountText]
    rfl
  rw [tokenQuotaDeltaScript, hchecks]
  split
  · next hused =>
    rw [h.tokenFields_negative hused]
    rfl
  · next hused =>
    have hused : 0 ≤ used := by omega
    rw [h.tokenFields_ok hused, ok_bind]
    rw [checkedQuotaTarget_balance h.remainLow h.remainHigh, checkedQuotaTarget_used hused h.usedHigh]
    cases hc : checkedToken remain used amount with
    | none =>
      rw [check_neg]
      · rfl
      · rintro ⟨hremain, hused⟩
        obtain ⟨x, hx⟩ := ne_none_iff_exists'.mp hremain
        obtain ⟨y, hy⟩ := ne_none_iff_exists'.mp hused
        have hboth : checkedToken remain used amount = some (x, y) := checkedToken_eq_some.mpr ⟨hx, hy⟩
        rw [hc] at hboth
        cases hboth
    | some b =>
      obtain ⟨x, y⟩ := b
      obtain ⟨hx, hy⟩ := checkedToken_eq_some.mp hc
      rw [hx, hy, check_pos ⟨nofun, nofun⟩, ok_bind]
      obtain ⟨-, hremainTarget, rfl⟩ := checkedQuotaBalance_eq_some.mp hx
      obtain ⟨-, husedTarget, rfl⟩ := checkedQuotaUsed_eq_some.mp hy
      exact h.applied hremainTarget husedTarget

/-- The reservation of a token's quota. -/
theorem TokenHit.reserve (h : TokenHit args keys remain used amount) (hamount : 0 ≤ amount) :
    scriptVerdict readToken (tokenQuotaReserveScript args keys) =
      if used < 0 then .missed
      else if remain - amount < -maxQuotaBalance ∨ maxQuotaBalance < used + amount then .outOfRange
      else if remain < amount then .insufficient else .applied (remain - amount, used + amount) := by
  have hchecks : tokenReserveChecks args keys = tokenFields keys >>= fun b =>
      check (checkedQuotaTarget b.1 (-amount) false ≠ none ∧ checkedQuotaTarget b.2 amount true ≠ none) (-2) >>=
        fun _ => check (amount ≤ b.1) 0 >>= fun _ => .ok (epochWrites args keys ++
          [.hincrby "RemainQuota" (toString (-amount)), .hincrby "UsedQuota" (toString (- -amount)),
            .hset "AccessedTime" args.third]) := by
    rw [tokenReserveChecks, h.prelude, ok_bind, check_pos ⟨hamount, h.third⟩, ok_bind, h.subjectChecks, ok_bind,
      h.amountText, Int.neg_neg]
    rfl
  have hremainLow := h.remainLow
  have hremainHigh := h.remainHigh
  have husedHigh := h.usedHigh
  rw [tokenQuotaReserveScript, hchecks]
  by_cases hnegative : used < 0
  · rw [if_pos hnegative, h.tokenFields_negative hnegative]
    rfl
  · have hused : 0 ≤ used := by omega
    rw [if_neg hnegative, h.tokenFields_ok hused, ok_bind]
    rw [checkedQuotaTarget_balance h.remainLow h.remainHigh, checkedQuotaTarget_used hused h.usedHigh]
    by_cases hrange : remain - amount < -maxQuotaBalance ∨ maxQuotaBalance < used + amount
    · rw [if_pos hrange, check_neg]
      · rfl
      · rintro ⟨hx, hy⟩
        obtain ⟨x, hx⟩ := ne_none_iff_exists'.mp hx
        obtain ⟨y, hy⟩ := ne_none_iff_exists'.mp hy
        have := checkedQuotaBalance_eq_some.mp hx
        have := checkedQuotaUsed_eq_some.mp hy
        omega
    · have hx : checkedQuotaBalance remain (-amount) = some (remain + -amount) :=
        checkedQuotaBalance_eq_some.mpr ⟨⟨hremainLow, hremainHigh⟩, by omega, rfl⟩
      have hy : checkedQuotaUsed used amount = some (used + amount) :=
        checkedQuotaUsed_eq_some.mpr ⟨⟨hused, husedHigh⟩, by omega, rfl⟩
      rw [if_neg hrange, hx, hy, check_pos ⟨nofun, nofun⟩, ok_bind]
      by_cases hless : remain < amount
      · rw [if_pos hless, check_neg (by omega)]
        rfl
      · rw [if_neg hless, check_pos (by omega), ok_bind, h.applied (by omega) (by omega), Int.neg_neg,
          Int.sub_eq_add_neg]

end

/-! ### Verdicts of the database -/

/-- The reservation in a user's row. -/
theorem reserveUserQuotaDB_verdict {quota amount : Int} (hlow : -maxQuotaBalance ≤ quota)
    (hhigh : quota ≤ maxQuotaBalance) (hamount : 0 ≤ amount) (hmax : amount ≤ maxQuota) :
    databaseVerdict id (reserveUserQuotaDB (some quota) amount) =
      if quota < amount then .insufficient else .applied (quota - amount) := by
  have hzero : checkedQuotaBalance quota 0 ≠ none := by
    rw [checkedQuotaBalance_eq_some.mpr ⟨⟨hlow, hhigh⟩, by omega, rfl⟩]
    nofun
  rw [reserveUserQuotaDB, check_pos ⟨hamount, hmax⟩, ok_bind, need_some, ok_bind, check_pos hzero, ok_bind]
  by_cases hless : quota < amount
  · rw [if_pos hless, if_pos hless]
    rfl
  · have htarget : checkedQuotaBalance quota (-amount) = some (quota - amount) :=
      checkedQuotaBalance_eq_some.mpr ⟨⟨hlow, hhigh⟩, by omega, Int.sub_eq_add_neg⟩
    rw [if_neg hless, if_neg hless, htarget]
    rfl

/-- The reservation in a token's row. -/
theorem reserveTokenQuotaDB_verdict {remain used amount accessedTime now : Int} (hlow : -maxQuotaBalance ≤ remain)
    (hhigh : remain ≤ maxQuotaBalance) (husedHigh : used ≤ maxQuotaBalance) (hamount : 0 ≤ amount)
    (hmax : amount ≤ maxQuota) :
    databaseVerdict TokenRow.balances (reserveTokenQuotaDB (some ⟨remain, used, accessedTime⟩) amount now) =
      if used < 0 then .outOfRange
      else if remain < amount then .insufficient
      else if maxQuotaBalance < used + amount then .outOfRange
      else .applied (remain - amount, used + amount) := by
  have hmaximum : 0 ≤ maxQuotaBalance := by decide
  have hzero : checkedQuotaBalance remain 0 ≠ none := by
    rw [checkedQuotaBalance_eq_some.mpr ⟨⟨hlow, hhigh⟩, by omega, rfl⟩]
    nofun
  have hnone : ∀ {delta}, used < 0 ∨ maxQuotaBalance < used + delta → checkedQuotaUsed used delta = none := by
    intro delta hout
    rw [eq_none_iff_forall_ne_some]
    intro v hv
    have := checkedQuotaUsed_eq_some.mp hv
    omega
  rw [reserveTokenQuotaDB, check_pos ⟨hamount, hmax⟩, ok_bind, need_some, ok_bind, check_pos hzero, ok_bind]
  dsimp only
  by_cases hnegative : used < 0
  · rw [if_pos hnegative, hnone (.inl hnegative)]
    rfl
  · rw [if_neg hnegative, checkedQuotaUsed_eq_some.mpr ⟨by omega, by omega, rfl⟩, check_pos nofun, ok_bind]
    by_cases hless : remain < amount
    · rw [if_pos hless, if_pos hless]
      rfl
    · have htarget : checkedQuotaBalance remain (-amount) = some (remain - amount) :=
        checkedQuotaBalance_eq_some.mpr ⟨⟨hlow, hhigh⟩, by omega, Int.sub_eq_add_neg⟩
      rw [if_neg hless, if_neg hless, htarget, need_some, ok_bind]
      by_cases hout : maxQuotaBalance < used + amount
      · rw [if_pos hout, hnone (.inr hout)]
        rfl
      · rw [if_neg hout, checkedQuotaUsed_eq_some.mpr ⟨by omega, by omega, rfl⟩]
        rfl

/-- A target of the reservation of a token is outside the range while its balance is insufficient. -/
def TargetFirst (remain used amount : Int) : Prop :=
  remain < amount ∧ (remain - amount < -maxQuotaBalance ∨ maxQuotaBalance < used + amount)

/-- The scripts against the database: the parser accepts the canonical texts of the integers of the range; changes
are the checked arithmetic; and a reservation has the verdict and the balances of the database, unless the balance is
insufficient and a target is outside the range, which the script finds first. A negative used quota, which the
database refuses as out of range, is a miss of the token's scripts. -/
theorem reserve_scripts_refine_database :
    (∀ (value : String) (n : Int), quotaStateInteger (some value) false = some n ↔
      value = toString n ∧ -maxQuotaBalance ≤ n ∧ n ≤ maxQuotaBalance) ∧
    (∀ (args : Args) (keys : Keys) (quota amount : Int), UserHit args keys quota amount →
      scriptVerdict readUser (userQuotaDeltaScript args keys) =
        checkedVerdict (checkedQuotaBalance quota amount)) ∧
    (∀ (args : Args) (keys : Keys) (quota amount : Int), UserHit args keys quota amount → 0 ≤ amount →
      if quota - amount < -maxQuotaBalance then
        scriptVerdict readUser (userQuotaReserveScript args keys) = .outOfRange ∧
          databaseVerdict id (reserveUserQuotaDB (some quota) amount) = .insufficient
      else scriptVerdict readUser (userQuotaReserveScript args keys) =
        databaseVerdict id (reserveUserQuotaDB (some quota) amount)) ∧
    (∀ (args : Args) (keys : Keys) (remain used amount : Int), TokenHit args keys remain used amount →
      -maxQuota ≤ amount → scriptVerdict readToken (tokenQuotaDeltaScript args keys) =
        if used < 0 then .missed else checkedVerdict (checkedToken remain used amount)) ∧
    (∀ (args : Args) (keys : Keys) (remain used amount accessedTime now : Int),
      TokenHit args keys remain used amount → 0 ≤ amount →
      (used < 0 → scriptVerdict readToken (tokenQuotaReserveScript args keys) = .missed ∧
        databaseVerdict TokenRow.balances (reserveTokenQuotaDB (some ⟨remain, used, accessedTime⟩) amount now) =
          .outOfRange) ∧
      (0 ≤ used → TargetFirst remain used amount →
        scriptVerdict readToken (tokenQuotaReserveScript args keys) = .outOfRange ∧
        databaseVerdict TokenRow.balances (reserveTokenQuotaDB (some ⟨remain, used, accessedTime⟩) amount now) =
          .insufficient) ∧
      (0 ≤ used → ¬ TargetFirst remain used amount →
        scriptVerdict readToken (tokenQuotaReserveScript args keys) =
          databaseVerdict TokenRow.balances
            (reserveTokenQuotaDB (some ⟨remain, used, accessedTime⟩) amount now))) := by
  have hmaximum : maxQuota < maxQuotaBalance := by decide
  refine ⟨?_, fun _ _ _ _ h => h.delta, ?_, fun _ _ _ _ _ h => h.delta, ?_⟩
  · intro value n
    rw [quotaStateInteger_eq_some]
    simp
  · intro args keys quota amount h hamount
    have hmax := h.maximum
    rw [h.reserve hamount, reserveUserQuotaDB_verdict h.low h.high hamount hmax]
    split
    · exact ⟨rfl, if_pos (by omega)⟩
    · rfl
  · intro args keys remain used amount accessedTime now h hamount
    have hmax := h.maximum
    have hhigh := h.remainHigh
    rw [h.reserve hamount, reserveTokenQuotaDB_verdict h.remainLow h.remainHigh h.usedHigh hamount hmax]
    unfold TargetFirst
    refine ⟨?_, ?_, ?_⟩
    · intro hused
      exact ⟨if_pos hused, if_pos hused⟩
    · rintro hused ⟨hless, hrange⟩
      rw [if_neg (by omega), if_pos hrange, if_neg (by omega), if_pos hless]
      exact ⟨rfl, rfl⟩
    · intro hused hnot
      have hnegative : ¬ used < 0 := by omega
      rw [if_neg hnegative, if_neg hnegative]
      by_cases hless : remain < amount
      · have hrange : ¬ (remain - amount < -maxQuotaBalance ∨ maxQuotaBalance < used + amount) :=
          fun hrange => hnot ⟨hless, hrange⟩
        rw [if_neg hrange, if_pos hless, if_pos hless]
      · by_cases hover : maxQuotaBalance < used + amount
        · rw [if_pos (Or.inr hover), if_neg hless, if_pos hover]
        · have hrange : ¬ (remain - amount < -maxQuotaBalance ∨ maxQuotaBalance < used + amount) := by omega
          rw [if_neg hrange, if_neg hless, if_neg hless, if_neg hover]

/-- The hash of a cached user. -/
def userKeys (quota : Int) : Keys where
  hash field := List.lookup field
    [("Id", "42"), ("CacheSchema", "6"), ("QuotaWriterEpoch", "1"), ("Quota", toString quota)]
  epoch := some "1"

/-- The hash of a cached token. -/
def tokenKeys (remain used : Int) : Keys where
  hash field := List.lookup field [("Id", "42"), ("CacheSchema", "3"), ("QuotaWriterEpoch", "1"),
    ("RemainQuota", toString remain), ("UsedQuota", toString used), ("AccessedTime", "99")]
  epoch := some "1"

theorem userKeys_hit {quota : Int} (hlow : -maxQuotaBalance ≤ quota) (hhigh : quota ≤ maxQuotaBalance) :
    UserHit ⟨"10", "42", "6", "1"⟩ (userKeys quota) quota 10 where
  amountText := rfl
  minimum := by decide
  maximum := by decide
  subject := by decide
  epoch := by decide
  stored := .inr rfl
  id := rfl
  schemaText := rfl
  writerEpoch := rfl
  third := by decide
  field := rfl
  low := hlow
  high := hhigh

theorem tokenKeys_hit {remain used : Int} (hlow : -maxQuotaBalance ≤ remain) (hhigh : remain ≤ maxQuotaBalance)
    (husedLow : -maxQuotaBalance ≤ used) (husedHigh : used ≤ maxQuotaBalance) :
    TokenHit ⟨"10", "42", "123", "1"⟩ (tokenKeys remain used) remain used 10 where
  amountText := rfl
  minimum := by decide
  maximum := by decide
  subject := by decide
  epoch := by decide
  stored := .inr rfl
  id := rfl
  schemaText := rfl
  writerEpoch := rfl
  third := by decide
  remainField := rfl
  usedField := rfl
  remainLow := hlow
  remainHigh := hhigh
  usedLow := husedLow
  usedHigh := husedHigh

/-- A reservation of 10 from 100. -/
theorem reserve_scripts_refine_database_ten :
    scriptVerdict readUser (userQuotaReserveScript ⟨"10", "42", "6", "1"⟩ (userKeys 100)) =
        databaseVerdict id (reserveUserQuotaDB (some 100) 10) ∧
      scriptVerdict readToken (tokenQuotaReserveScript ⟨"10", "42", "123", "1"⟩ (tokenKeys 100 20)) =
        databaseVerdict TokenRow.balances (reserveTokenQuotaDB (some ⟨100, 20, 99⟩) 10 123) := by
  have huser : UserHit _ (userKeys 100) 100 10 := userKeys_hit (by decide) (by decide)
  have htoken : TokenHit _ (tokenKeys 100 20) 100 20 10 :=
    tokenKeys_hit (by decide) (by decide) (by decide) (by decide)
  obtain ⟨-, -, hu, -, ht⟩ := reserve_scripts_refine_database
  refine ⟨?_, (ht _ _ _ _ _ 99 123 htoken (by decide)).2.2 (by decide) ?_⟩
  · have := hu _ _ _ _ huser (by decide)
    rwa [if_neg (by decide)] at this
  · unfold TargetFirst
    decide

/-- The lowest balance is out of range for the script and insufficient for the database; so is a token with the
highest used quota; and a negative used quota is a miss for the script and out of range for the database. -/
theorem reserve_scripts_find_targets_first :
    (UserHit ⟨"10", "42", "6", "1"⟩ (userKeys (-maxQuotaBalance)) (-maxQuotaBalance) 10 ∧
      scriptVerdict readUser (userQuotaReserveScript ⟨"10", "42", "6", "1"⟩ (userKeys (-maxQuotaBalance))) =
        .outOfRange ∧
      databaseVerdict id (reserveUserQuotaDB (some (-maxQuotaBalance)) 10) = .insufficient) ∧
    (TokenHit ⟨"10", "42", "123", "1"⟩ (tokenKeys 0 maxQuotaBalance) 0 maxQuotaBalance 10 ∧
      scriptVerdict readToken (tokenQuotaReserveScript ⟨"10", "42", "123", "1"⟩ (tokenKeys 0 maxQuotaBalance)) =
        .outOfRange ∧
      databaseVerdict TokenRow.balances (reserveTokenQuotaDB (some ⟨0, maxQuotaBalance, 99⟩) 10 123) =
        .insufficient) ∧
    (TokenHit ⟨"10", "42", "123", "1"⟩ (tokenKeys 100 (-1)) 100 (-1) 10 ∧
      scriptVerdict readToken (tokenQuotaReserveScript ⟨"10", "42", "123", "1"⟩ (tokenKeys 100 (-1))) = .missed ∧
      databaseVerdict TokenRow.balances (reserveTokenQuotaDB (some ⟨100, -1, 99⟩) 10 123) = .outOfRange) := by
  refine ⟨⟨userKeys_hit (by decide) (by decide), ?_, by decide⟩,
    ⟨tokenKeys_hit (by decide) (by decide) (by decide) (by decide), ?_, by decide⟩,
    ⟨tokenKeys_hit (by decide) (by decide) (by decide) (by decide), ?_, by decide⟩⟩
  · exact (userKeys_hit (by decide) (by decide)).reserve (by decide)
  · exact (tokenKeys_hit (by decide) (by decide) (by decide) (by decide)).reserve (by decide)
  · exact (tokenKeys_hit (by decide) (by decide) (by decide) (by decide)).reserve (by decide)

end MyApiSpec.Reserve
