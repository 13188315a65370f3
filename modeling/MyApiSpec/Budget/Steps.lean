import MyApiSpec.Budget.Transactions

/-!
# What a budget transaction can do

A call either leaves the tables as they are or makes one of five changes: a new policy of an idle
budget, the admission of a request to an idle budget, and for the pending request of a budget a move
between open states, a cancellation or a count of its usage. `Change` says what each of them reads
and writes; the invariants are derived from it alone.
-/

namespace MyApiSpec.Budget

open Base Store
open Ledger (normalizeAccountRequestID)

/-! ### Calls -/

variable {db db' : DB} {rd : Reads} {b : TokenBudget} {m : TokenBudgetMutation}
  {row : TokenBudgetReservation}

/-- A mutation that wrote: its action and the row it left. -/
structure Applied where
  action : BudgetAction
  row : TokenBudgetReservation
  deriving DecidableEq, Repr

/-- The tables and the mutations that were applied to them, the oldest first. -/
structure World where
  db : DB := {}
  log : List Applied := []

/-- A call with what its transaction reads elsewhere. -/
inductive Call where
  | configure (rd : Reads) (actorID : Int) (input : TokenBudgetPolicyInput)
  | reserve (rd : Reads) (input : TokenBudgetReservation)
  | mutate (rd : Reads) (input : TokenBudgetMutation)

/-- A call that returns an error before its commit leaves no trace; the other calls commit. -/
def World.step (w : World) : Call → World
  | .configure rd actorID input =>
    match configureTokenBudget w.db rd actorID input with
    | .ok (db, _) => { w with db := db }
    | .error _ => w
  | .reserve rd input =>
    match reserveTokenBudget w.db rd input with
    | .ok db => { w with db := db }
    | .error _ => w
  | .mutate rd input =>
    match mutateTokenBudgetRequest w.db rd input with
    | .ok (.applied db row _) => { db := db, log := w.log ++ [⟨input.action, row⟩] }
    | .ok (.replayed _) => w
    | .error _ => w

/-- The calls lead from one world to the other. -/
def World.Reaches (w w' : World) : Prop := ∃ calls : List Call, calls.foldl World.step w = w'

/-! ### Changes -/

/-- The request is neither settled nor cancelled. -/
def TokenBudgetReservation.Unresolved (r : TokenBudgetReservation) : Prop :=
  r.state ≠ .settled ∧ r.state ≠ .notSent

instance (r : TokenBudgetReservation) : Decidable r.Unresolved := inferInstanceAs (Decidable (_ ∧ _))

/-- The actual input and output of a settled request. -/
def TokenBudgetReservation.actualTokens (r : TokenBudgetReservation) : Int :=
  if r.state = .settled then r.actualInput.getD 0 + r.actualOutput.getD 0 else 0

/-- The actual fee of a settled request. -/
def TokenBudgetReservation.actualFee (r : TokenBudgetReservation) : ℚ :=
  if r.state = .settled then feeValue (r.actualFeeUSD.getD "0") else 0

variable {r : TokenBudgetReservation}

theorem TokenBudgetReservation.Unresolved.actualTokens
    (h : r.Unresolved) : r.actualTokens = 0 := if_neg h.1

theorem TokenBudgetReservation.Unresolved.actualFee
    (h : r.Unresolved) : r.actualFee = 0 := if_neg h.1

/-- The locked budget of a token: its row, or the default if it has none. -/
inductive Locked (db : DB) (tokenID : Int) : TokenBudget → Prop
  | stored {b : TokenBudget} (row : db.budgets.get? tokenID = some b) (revision : 0 < b.revision) :
    Locked db tokenID b
  | missing (userID : Int) (row : db.budgets.get? tokenID = none) :
    Locked db tokenID (unconfigured tokenID userID)

/-- The request is the pending one of the budget. -/
structure Held (db : DB) (b : TokenBudget) (row : TokenBudgetReservation) : Prop where
  stored : db.reservations.get? row.requestID = some row
  token : row.tokenID = b.tokenID
  pending : b.pendingRequestID = row.requestID
  reserved : b.reserved = row.reserved
  feeEnabled : b.feeEnabled = row.feeEnabled
  feeReserved : b.feeReservedUSD = row.feeReservedUSD

/-- The columns of a request that no mutation changes. -/
structure SameRequest (row row' : TokenBudgetReservation) : Prop where
  requestID : row'.requestID = row.requestID
  tokenID : row'.tokenID = row.tokenID
  reserved : row'.reserved = row.reserved
  feeEnabled : row'.feeEnabled = row.feeEnabled
  feeReserved : row'.feeReservedUSD = row.feeReservedUSD
  boundSource : row'.boundSource = row.boundSource
  inputTokens : row'.inputTokens = row.inputTokens
  maxOutputTokens : row'.maxOutputTokens = row.maxOutputTokens

/-- The columns of a budget that only a new policy changes. -/
structure SamePolicy (b b' : TokenBudget) : Prop where
  tokenID : b'.tokenID = b.tokenID
  enabled : b'.enabled = b.enabled
  limit : b'.limit = b.limit
  feeEnabled : b'.feeEnabled = b.feeEnabled
  feeLimit : b'.feeLimitUSD = b.feeLimitUSD

/-- The columns of a budget that a new policy does not change. -/
structure SameUsage (b b' : TokenBudget) : Prop where
  used : b'.used = b.used
  feeUsed : b'.feeUsedUSD = b.feeUsedUSD
  reserved : b'.reserved = b.reserved
  feeReserved : b'.feeReservedUSD = b.feeReservedUSD
  pending : b'.pendingRequestID = b.pendingRequestID

/-- The budget holds no reservation. -/
structure Idle (b : TokenBudget) : Prop where
  pending : b.pendingRequestID = ""
  reserved : b.reserved = 0
  feeReserved : b.feeReservedUSD = "0"

/-- A row as it was admitted. -/
structure Fresh (row : TokenBudgetReservation) : Prop where
  requestID : row.requestID ≠ ""
  state : row.state = .prepared
  actualFee : row.actualFeeUSD = none
  nonneg : 0 ≤ row.reserved
  reserved : row.boundSource = .openAIResponses → row.reserved = row.inputTokens + row.maxOutputTokens

/-- The change of one committed call, with the mutations it adds to the log. -/
inductive Change (db : DB) : DB → List Applied → Prop
  | policy (b next : TokenBudget) (changes : Store String TokenBudgetPolicyChange)
    (locked : Locked db next.tokenID b) (idle : b.pendingRequestID = "") (same : SameUsage b next)
    (limit : next.enabled → next.used ≤ next.limit)
    (feeLimit : next.feeEnabled → feeValue next.feeUsedUSD ≤ feeValue next.feeLimitUSD ∨
      (b.feeEnabled ∧ next.feeLimitUSD = b.feeLimitUSD)) :
    Change db { db with budgets := db.budgets.set next, policyChanges := changes } []
  | reserve (b next : TokenBudget) (row : TokenBudgetReservation) (locked : Locked db next.tokenID b)
    (idle : b.pendingRequestID = "") (same : SamePolicy b next)
    (used : next.used = b.used ∧ next.feeUsedUSD = b.feeUsedUSD) (fresh : Fresh row)
    (stored : db.reservations.get? row.requestID = none) (held : Held
      { db with budgets := db.budgets.set next, reservations := db.reservations.set row } next row)
    (limit : next.enabled → next.used + next.reserved ≤ next.limit)
    (feeLimit : next.feeEnabled →
      feeValue next.feeUsedUSD + feeValue next.feeReservedUSD ≤ feeValue next.feeLimitUSD) :
    Change db { db with budgets := db.budgets.set next, reservations := db.reservations.set row } []
  | advance (action : BudgetAction) (b next : TokenBudget) (row row' : TokenBudgetReservation)
    (locked : Locked db b.tokenID b) (held : Held db b row) (before : row.Unresolved)
    (samePolicy : SamePolicy b next) (sameUsage : SameUsage b next) (same : SameRequest row row')
    (actualFee : row'.actualFeeUSD = row.actualFeeUSD)
    (after : row'.state = .sent ∨ row'.state = .usageUnknown) (action_ne : action ≠ .reconcile) :
    Change db { db with budgets := db.budgets.set next, reservations := db.reservations.set row' }
      [⟨action, row'⟩]
  | cancel (b next : TokenBudget) (row row' : TokenBudgetReservation) (locked : Locked db b.tokenID b)
    (held : Held db b row) (before : row.state = .prepared) (samePolicy : SamePolicy b next)
    (used : next.used = b.used ∧ next.feeUsedUSD = b.feeUsedUSD) (idle : Idle next)
    (same : SameRequest row row') (after : row'.state = .notSent) :
    Change db { db with budgets := db.budgets.set next, reservations := db.reservations.set row' }
      [⟨.cancel, row'⟩]
  | count (action : BudgetAction) (b next : TokenBudget) (row row' : TokenBudgetReservation)
    (locked : Locked db b.tokenID b) (held : Held db b row) (terminal : action.terminal)
    (before : row.state = .sent ∨ row.state = .usageUnknown) (samePolicy : SamePolicy b next)
    (idle : Idle next) (same : SameRequest row row') (after : row'.state = .settled)
    (actual : row'.actualInput.isSome ∧ row'.actualOutput.isSome)
    (used : next.used = b.used + row'.actualTokens)
    (feeUsed : row.actualFeeUSD = none →
      feeValue next.feeUsedUSD = feeValue b.feeUsedUSD + row'.actualFee)
    (bound : action = .settle →
      (row.boundSource = .openAIResponses → row.reserved = row.inputTokens + row.maxOutputTokens) →
      row'.actualTokens ≤ row.reserved)
    (feeBound : action = .settle → row.feeEnabled → row'.actualFee ≤ feeValue row.feeReservedUSD) :
    Change db { db with budgets := db.budgets.set next, reservations := db.reservations.set row' }
      [⟨action, row'⟩]

/-! ### Lock and save -/

theorem lockTokenBudget_ok {tokenID : Int} {allowDeleted : Bool}
    (h : lockTokenBudget db rd tokenID allowDeleted = .ok b) :
    Locked db tokenID b ∧ b.tokenID = tokenID := by
  simp only [lockTokenBudget, bind_eq_ok, check_eq_ok, need_eq_ok] at h
  obtain ⟨_, -, token, -, h⟩ := h
  split at h
  · next hrow =>
    cases h
    exact ⟨.missing _ hrow, rfl⟩
  · next stored hrow =>
    simp only [bind_eq_ok, check_eq_ok] at h
    obtain ⟨_, -, _, hrange, _, -, hb⟩ := h
    cases hb
    exact ⟨.stored hrow hrange.2.2.2.2.2.2.1, get?_key hrow⟩

variable {next : TokenBudget}

/-- A save under the revision of the locked budget writes the budget. -/
theorem saveTokenBudget_ok {db₁ : DB}
    (h : saveTokenBudget db₁ next b.revision = .ok db') (hl : Locked db next.tokenID b)
    (hu : next.userID = b.userID) (hb : db₁.budgets = db.budgets) :
    db' = { db₁ with budgets := db.budgets.set next } := by
  unfold saveTokenBudget at h
  rw [hb] at h
  cases hl with
  | stored hrow hrev =>
    rw [if_neg (by omega), hrow] at h
    simp only [bind_eq_ok, check_eq_ok] at h
    obtain ⟨_, -, hd⟩ := h
    cases hd
    rw [← hu]
  | missing userID hrow =>
    have hzero : (unconfigured next.tokenID userID).revision = 0 := rfl
    rw [if_pos hzero] at h
    simp only [bind_eq_ok, need_eq_ok, create_eq_some] at h
    obtain ⟨_, ⟨-, rfl⟩, hd⟩ := h
    cases hd
    rfl

theorem normalizeAccountRequestID_self_ne {q : String} (h : normalizeAccountRequestID q = .ok q) :
    q ≠ "" := by
  simp only [normalizeAccountRequestID] at h
  split at h
  · cases h
  · next hn =>
    rintro rfl
    exact hn (.inl (Except.ok.inj h))

/-! ### Policy and admission -/

variable {b' : TokenBudget}

theorem applyFeePolicy_ok {fee : Option FeePolicyInput}
    (h : applyFeePolicy b fee = .ok b') :
    b' = { b with feeEnabled := b'.feeEnabled, feeLimitUSD := b'.feeLimitUSD } ∧
      (b'.feeEnabled → feeValue b'.feeUsedUSD ≤ feeValue b'.feeLimitUSD ∨
        (b.feeEnabled ∧ b'.feeLimitUSD = b.feeLimitUSD)) := by
  cases fee with
  | none =>
    cases h
    exact ⟨rfl, fun he => .inr ⟨he, rfl⟩⟩
  | some fee =>
    simp only [applyFeePolicy] at h
    split at h
    · obtain ⟨_, hfits, hb⟩ := bind_eq_ok.mp h
      cases hb
      have hle := feeBudgetFits_ok hfits
      rw [feeValue_zero, add_zero] at hle
      exact ⟨rfl, fun _ => .inl hle⟩
    · next hoff =>
      cases h
      exact ⟨rfl, fun he => absurd he hoff⟩

theorem applyPolicy_ok {input : TokenBudgetPolicyInput}
    (h : applyPolicy rd b input = .ok next) :
    b.pendingRequestID = "" ∧ SameUsage b next ∧ next.tokenID = b.tokenID ∧ next.userID = b.userID ∧
      (next.enabled → next.used ≤ next.limit) ∧
      (next.feeEnabled → feeValue next.feeUsedUSD ≤ feeValue next.feeLimitUSD ∨
        (b.feeEnabled ∧ next.feeLimitUSD = b.feeLimitUSD)) := by
  simp only [applyPolicy, bind_eq_ok, check_eq_ok] at h
  obtain ⟨_, -, _, hpending, _, hlimit, b₁, hfee, _, -, _, -, hn⟩ := h
  cases hn
  obtain ⟨hsame, hfeeLimit⟩ := applyFeePolicy_ok hfee
  have husage : SameUsage b b₁ := by
    rw [hsame]
    exact ⟨rfl, rfl, rfl, rfl, rfl⟩
  have hkeys : b₁.tokenID = b.tokenID ∧ b₁.userID = b.userID := by
    rw [hsame]
    exact ⟨rfl, rfl⟩
  have hlimit' : input.enabled → b₁.used ≤ input.limit := by
    intro he
    rw [husage.used]
    by_contra hlt
    exact hlimit ⟨he, by omega⟩
  cases input.accountThreshold with
  | none | some =>
    exact ⟨hpending, { husage with }, hkeys.1, hkeys.2, hlimit', hfeeLimit⟩

/-- A policy call changes nothing or sets a policy. -/
theorem configureTokenBudget_ok {actorID : Int} {request : TokenBudgetPolicyInput}
    (h : configureTokenBudget db rd actorID request = .ok (db', b')) :
    db' = db ∨ Change db db' [] := by
  simp only [configureTokenBudget, bind_eq_ok] at h
  obtain ⟨input, -, _, -, b, hlock, h⟩ := h
  obtain ⟨hl, hid⟩ := lockTokenBudget_ok hlock
  split at h
  · obtain ⟨_, -, hd⟩ := bind_eq_ok.mp h
    cases hd
    exact .inl rfl
  · simp only [bind_eq_ok, need_eq_ok] at h
    obtain ⟨next, happly, saved, hsave, changes, -, hd⟩ := h
    cases hd
    obtain ⟨hidle, hsame, htoken, huser, hlimit, hfee⟩ := applyPolicy_ok happly
    rw [← hid, ← htoken] at hl
    rw [saveTokenBudget_ok hsave hl huser rfl]
    exact .inr (.policy b _ changes hl hidle hsame hlimit hfee)

variable {input : TokenBudgetReservation}

theorem reservationFee_ok {fee : String}
    (h : reservationFee rd b input = .ok fee) :
    b.feeEnabled → feeValue b.feeUsedUSD + feeValue fee ≤ feeValue b.feeLimitUSD := by
  intro he
  unfold reservationFee at h
  rw [if_pos he] at h
  simp only [bind_eq_ok] at h
  obtain ⟨_, -, _, -, _, -, _, hfits, hf⟩ := h
  cases hf
  exact feeBudgetFits_ok hfits

theorem reserveTokenBudget_ok
    (h : reserveTokenBudget db rd input = .ok db') : Change db db' [] := by
  simp only [reserveTokenBudget, bind_eq_ok, check_eq_ok, need_eq_ok, create_eq_some] at h
  obtain ⟨_, hvalid, b, hlock, _, -, _, -, _, -, _, hidle, _, hlimit, _, -, fee, hfee, reservations,
    ⟨hfresh, rfl⟩, hsave⟩ := h
  obtain ⟨hl, hid⟩ := lockTokenBudget_ok hlock
  rw [← hid] at hl
  simp only [validateReservationInput, bind_eq_ok, check_eq_ok] at hvalid
  obtain ⟨_, ⟨hrequest, -, -, -, -, -, -, -, -, hinput, -, houtput, -⟩, -⟩ := hvalid
  rw [saveTokenBudget_ok hsave hl rfl rfl]
  refine .reserve b _ (admittedRow rd b input fee) hl hidle.1 ⟨rfl, rfl, rfl, rfl, rfl⟩ ⟨rfl, rfl⟩
    ⟨normalizeAccountRequestID_self_ne hrequest, rfl, rfl, ?_, ?_⟩ hfresh ?_ ?_ (reservationFee_ok hfee)
  · show 0 ≤ reservationBound input
    unfold reservationBound
    split
    · decide
    · omega
  · intro hsource
    have hne : input.boundSource ≠ .openAIChat := by
      intro hchat
      have hs : input.boundSource = .openAIResponses := hsource
      rw [hchat] at hs
      cases hs
    exact if_neg hne
  · exact ⟨get?_set_self _ _, hid.symm, rfl, rfl, rfl, rfl⟩
  · intro he
    obtain ⟨-, hle⟩ := hlimit he
    show b.used + reservationBound input ≤ b.limit
    omega

/-! ### Mutations -/

variable {request : TokenBudgetMutation}

theorem normalizeMutation_ok (h : normalizeMutation request = .ok m) :
    m.action = request.action ∧ m.action ≠ .unknown := by
  simp only [normalizeMutation, bind_eq_ok, check_eq_ok] at h
  obtain ⟨_, -, _, haction, withFee, hfee, _, -, _, -, _, -, hm⟩ := h
  cases hm
  have hsame : withFee.action = request.action := by
    unfold normalizeMutationFee at hfee
    split at hfee
    · cases hfee
      rfl
    · simp only [bind_eq_ok] at hfee
      obtain ⟨_, -, _, -, hf⟩ := hfee
      cases hf
      rfl
  refine ⟨hsame, fun hu => ?_⟩
  rw [validateAction, ← hsame, hu] at haction
  cases haction

/-- Usage within the bound of a request is at most what it reserved. -/
theorem withinBound_le (h : withinBound row m = .ok true)
    (hr : row.boundSource = .openAIResponses → row.reserved = row.inputTokens + row.maxOutputTokens) :
    m.input + m.output ≤ row.reserved := by
  unfold withinBound at h
  split at h
  · next hs =>
    have hin : (m.input = row.inputTokens ∧ m.output ≤ row.maxOutputTokens) := by
      simpa using Except.ok.inj h
    rw [hr hs]
    omega
  · have hall := Except.ok.inj h
    simp only [Bool.and_eq_true, decide_eq_true_eq] at hall
    exact hall.2
  · cases h

variable {actualFee : Option String} {feeUsed : String}

theorem usageVerdict_charge
    (h : usageVerdict b row m = .ok (.charge feeUsed actualFee)) :
    (m.action = .settle → withinBound row m = .ok true) ∧
      (row.feeEnabled = false → feeUsed = b.feeUsedUSD) ∧
      (row.feeEnabled = true → ∃ fee, actualFee = some fee ∧
        feeValue feeUsed = feeValue b.feeUsedUSD + feeValue fee ∧
        (m.action = .settle → feeValue fee ≤ feeValue row.feeReservedUSD)) := by
  simp only [usageVerdict, bind_eq_ok] at h
  obtain ⟨within, hwithin, h⟩ := h
  split at h
  · cases h
  · next hbound =>
    have hsettle : m.action = .settle → withinBound row m = .ok true := by
      intro hs
      cases within with
      | true => exact hwithin
      | false => exact absurd ⟨hs, rfl⟩ hbound
    refine ⟨hsettle, ?_, ?_⟩
    · intro hoff
      rw [if_neg (by simp [hoff])] at h
      cases h
      rfl
    · intro hon
      rw [if_pos hon] at h
      simp only [bind_eq_ok, need_eq_ok] at h
      obtain ⟨fee, -, actual, hactual, reserved, hreserved, h⟩ := h
      split at h
      · cases h
      · next hgt =>
        obtain ⟨sum, hsum, hv⟩ := bind_eq_ok.mp h
        cases hv
        refine ⟨fee, rfl, feeBudgetAdd_ok hsum, fun hs => ?_⟩
        rw [← feeBudgetDecimal_ok hactual, ← feeBudgetDecimal_ok hreserved, ← not_lt,
          ← Decimal.greaterThan_iff]
        exact fun hc => hgt ⟨hs, hc⟩

theorem usageVerdict_mismatch {reason : String} {observed : Option String}
    (h : usageVerdict b row m = .ok (.mismatch reason observed)) : m.action = .settle := by
  simp only [usageVerdict, bind_eq_ok] at h
  obtain ⟨within, -, h⟩ := h
  split at h
  · next hs => exact hs.1
  · split at h
    · simp only [bind_eq_ok, need_eq_ok] at h
      obtain ⟨fee, -, actual, -, reserved, -, h⟩ := h
      split at h
      · next hs => exact hs.1
      · obtain ⟨_, -, hv⟩ := bind_eq_ok.mp h
        cases hv
    · cases h

section Mutation

variable {row' : TokenBudgetReservation} {reported : Option BudgetError}

/-- A mutation writes the budget and the row that its action yields. -/
theorem applyMutation_saved (hl : Locked db b.tokenID b)
    (h : applyMutation db rd b row m = .ok (.applied db' row' reported)) :
    ∃ charged moved, applyAction rd b row m = .ok (charged, moved, reported) ∧
      row' = { moved with updatedAt := rd.databaseTime } ∧
      (charged.tokenID = b.tokenID → charged.userID = b.userID → charged.revision = b.revision →
        db' = { db with
          budgets := db.budgets.set { releasedBudget charged row' with revision := b.revision + 1 }
          reservations := db.reservations.set row' }) := by
  simp only [applyMutation, bind_eq_ok, need_eq_ok, check_eq_ok] at h
  obtain ⟨⟨charged, moved, reported'⟩, haction, stored, -, _, -, saved, hsave, hd⟩ := h
  cases hd
  refine ⟨charged, moved, haction, rfl, fun ht hu hr => ?_⟩
  have hreleased : (releasedBudget charged { moved with updatedAt := rd.databaseTime }).revision =
      b.revision ∧ (releasedBudget charged { moved with updatedAt := rd.databaseTime }).tokenID =
      b.tokenID ∧ (releasedBudget charged { moved with updatedAt := rd.databaseTime }).userID =
      b.userID := by
    unfold releasedBudget
    split
    · exact ⟨hr, ht, hu⟩
    · exact ⟨hr, ht, hu⟩
  obtain ⟨hrev, htoken, huser⟩ := hreleased
  simp only [hrev] at hsave
  exact saveTokenBudget_ok hsave (by rw [show _ = b.tokenID from htoken]; exact hl) huser rfl

theorem cancelledRow_same (row : TokenBudgetReservation) (m : TokenBudgetMutation) (time : Int) :
    SameRequest row { cancelledRow row m with updatedAt := time } ∧
      (cancelledRow row m).state = .notSent := by
  unfold cancelledRow
  split
  · exact ⟨⟨rfl, rfl, rfl, rfl, rfl, rfl, rfl, rfl⟩, rfl⟩
  · exact ⟨⟨rfl, rfl, rfl, rfl, rfl, rfl, rfl, rfl⟩, rfl⟩

/-- The count of reported usage. -/
theorem charge_change (hl : Locked db b.tokenID b) (held : Held db b row) (time : Int)
    (hterminal : m.action.terminal) (hstate : row.state = .sent ∨ row.state = .usageUnknown)
    (hverdict : usageVerdict b row m = .ok (.charge feeUsed actualFee)) :
    Change db { db with
        budgets := db.budgets.set { b with
          feeUsedUSD := feeUsed
          used := b.used + (m.input + m.output)
          pendingRequestID := ""
          reserved := 0
          feeReservedUSD := "0"
          revision := b.revision + 1 }
        reservations := db.reservations.set { settledRow row m actualFee with updatedAt := time } }
      [⟨m.action, { settledRow row m actualFee with updatedAt := time }⟩] := by
  obtain ⟨hwithin, hoff, hon⟩ := usageVerdict_charge hverdict
  refine .count m.action b _ row _ hl held hterminal hstate ⟨rfl, rfl, rfl, rfl, rfl⟩ ⟨rfl, rfl, rfl⟩
    ⟨rfl, rfl, rfl, rfl, rfl, rfl, rfl, rfl⟩ rfl ⟨rfl, rfl⟩ rfl ?_ ?_ ?_
  · intro hnone
    cases hfee : row.feeEnabled with
    | false =>
      rw [hoff hfee]
      simp [TokenBudgetReservation.actualFee, settledRow, hfee, hnone]
    | true =>
      obtain ⟨fee, rfl, hsum, -⟩ := hon hfee
      rw [hsum]
      simp [TokenBudgetReservation.actualFee, settledRow, hfee]
  · exact fun hs hr => withinBound_le (hwithin hs) hr
  · intro hs hfee
    obtain ⟨fee, rfl, -, hle⟩ := hon hfee
    simpa [TokenBudgetReservation.actualFee, settledRow, hfee] using hle hs

/-- The mutation of a pending request makes one of the changes of its action. -/
theorem applyMutation_change (hl : Locked db b.tokenID b) (held : Held db b row)
    (hm : m.action ≠ .unknown)
    (h : applyMutation db rd b row m = .ok (.applied db' row' reported)) :
    Change db db' [⟨m.action, row'⟩] := by
  obtain ⟨charged, moved, haction, rfl, hd⟩ := applyMutation_saved hl h
  cases ha : m.action with
  | send =>
    simp only [applyAction, ha, bind_eq_ok, check_eq_ok] at haction
    obtain ⟨_, hstate, _, -, hr⟩ := haction
    cases hr
    rw [hd rfl rfl rfl]
    exact .advance _ b _ row _ hl held (by rw [TokenBudgetReservation.Unresolved, hstate]; decide)
      ⟨rfl, rfl, rfl, rfl, rfl⟩ ⟨rfl, rfl, rfl, rfl, rfl⟩ ⟨rfl, rfl, rfl, rfl, rfl, rfl, rfl, rfl⟩
      rfl (.inl rfl) (by decide)
  | cancel =>
    simp only [applyAction, ha, bind_eq_ok, check_eq_ok] at haction
    obtain ⟨_, hstate, hr⟩ := haction
    cases hr
    rw [hd rfl rfl rfl]
    obtain ⟨hsame, hafter⟩ := cancelledRow_same row m rd.databaseTime
    rw [releasedBudget, if_pos (.inr hafter)]
    exact .cancel b _ row _ hl held hstate ⟨rfl, rfl, rfl, rfl, rfl⟩ ⟨rfl, rfl⟩ ⟨rfl, rfl, rfl⟩
      hsame hafter
  | hold =>
    simp only [applyAction, ha, bind_eq_ok, check_eq_ok] at haction
    obtain ⟨_, hstate, hr⟩ := haction
    cases hr
    rw [hd rfl rfl rfl]
    have hopen : row.Unresolved := by
      rcases hstate with hs | hs <;> rw [TokenBudgetReservation.Unresolved, hs] <;> decide
    exact .advance _ b _ row _ hl held hopen ⟨rfl, rfl, rfl, rfl, rfl⟩ ⟨rfl, rfl, rfl, rfl, rfl⟩
      ⟨rfl, rfl, rfl, rfl, rfl, rfl, rfl, rfl⟩ rfl (.inr rfl) (by decide)
  | settle =>
    simp only [applyAction, ha, bind_eq_ok, check_eq_ok] at haction
    obtain ⟨_, hstate, _, -, verdict, hverdict, haction⟩ := haction
    have hsent := hstate trivial
    cases verdict with
    | mismatch reason observed =>
      cases haction
      rw [hd rfl rfl rfl]
      exact .advance _ b _ row _ hl held (by rw [TokenBudgetReservation.Unresolved, hsent]; decide)
        ⟨rfl, rfl, rfl, rfl, rfl⟩ ⟨rfl, rfl, rfl, rfl, rfl⟩ ⟨rfl, rfl, rfl, rfl, rfl, rfl, rfl, rfl⟩
        rfl (.inr rfl) (by decide)
    | charge feeUsed actualFee =>
      obtain ⟨_, -, hr⟩ := bind_eq_ok.mp haction
      cases hr
      rw [hd rfl rfl rfl, ← ha]
      exact charge_change hl held rd.databaseTime (by rw [ha]; rfl) (.inl hsent) hverdict
  | reconcile =>
    simp only [applyAction, ha, bind_eq_ok, check_eq_ok] at haction
    obtain ⟨_, -, _, hstate, verdict, hverdict, haction⟩ := haction
    cases verdict with
    | mismatch reason observed =>
      rw [usageVerdict_mismatch hverdict] at ha
      cases ha
    | charge feeUsed actualFee =>
      obtain ⟨_, -, hr⟩ := bind_eq_ok.mp haction
      cases hr
      rw [hd rfl rfl rfl, ← ha]
      exact charge_change hl held rd.databaseTime (by rw [ha]; rfl) (hstate trivial) hverdict
  | unknown => exact absurd ha hm

end Mutation

variable {row' : TokenBudgetReservation} {reported : Option BudgetError}

theorem mutateLocked_ok
    (hm : m.action ≠ .unknown) (h : mutateLocked db rd m = .ok (.applied db' row' reported)) :
    Change db db' [⟨m.action, row'⟩] := by
  simp only [mutateLocked, bind_eq_ok, need_eq_ok, check_eq_ok] at h
  obtain ⟨b, hlock, row, hrow, _, ⟨htoken, -⟩, _, -, h⟩ := h
  obtain ⟨hl, hid⟩ := lockTokenBudget_ok hlock
  have hkey : row.requestID = m.requestID := get?_key hrow
  split at h
  · obtain ⟨_, -, hr⟩ := bind_eq_ok.mp h
    cases hr
  · split at h
    · obtain ⟨_, -, hr⟩ := bind_eq_ok.mp h
      cases hr
    · simp only [bind_eq_ok, check_eq_ok] at h
      obtain ⟨_, ⟨hpending, hreserved, henabled, hfee⟩, h⟩ := h
      split at h
      · cases h
      · exact applyMutation_change (hid ▸ hl) ⟨hkey ▸ hrow, htoken.trans hid.symm,
          hpending.trans hkey.symm, hreserved, henabled, hfee⟩ hm h

theorem mutateTokenBudgetRequest_ok
    (h : mutateTokenBudgetRequest db rd request = .ok (.applied db' row' reported)) :
    Change db db' [⟨request.action, row'⟩] := by
  simp only [mutateTokenBudgetRequest, bind_eq_ok] at h
  obtain ⟨m, hm, h⟩ := h
  obtain ⟨haction, hknown⟩ := normalizeMutation_ok hm
  have hlocked : mutateLocked db rd m = .ok (.applied db' row' reported) := by
    split at h
    · obtain ⟨_, -, h⟩ := bind_eq_ok.mp h
      exact h
    · exact h
  rw [← haction]
  exact mutateLocked_ok hknown hlocked

/-- A call changes nothing or makes one change. -/
theorem World.step_change (w : World) (c : Call) :
    w.step c = w ∨ ∃ db log, Change w.db db log ∧ w.step c = ⟨db, w.log ++ log⟩ := by
  cases c with
  | configure rd actorID input =>
    simp only [World.step]
    split
    · next db b h =>
      rcases configureTokenBudget_ok h with rfl | hc
      · exact .inl rfl
      · exact .inr ⟨db, [], hc, by rw [List.append_nil]⟩
    · exact .inl rfl
  | reserve rd input =>
    simp only [World.step]
    split
    · next db h => exact .inr ⟨db, [], reserveTokenBudget_ok h, by rw [List.append_nil]⟩
    · exact .inl rfl
  | mutate rd input =>
    simp only [World.step]
    split
    · next db row reported h => exact .inr ⟨db, _, mutateTokenBudgetRequest_ok h, rfl⟩
    · exact .inl rfl
    · exact .inl rfl

end MyApiSpec.Budget
