import MyApiSpec.Budget.Steps

/-!
# Token budget accounting

The two rows of a budget are tied together by an invariant per token: the used amounts are the sums
over the settled requests, the reserved amounts are those of the one open request, and under an
enabled limit used and reserved amounts fit. The limits follow only from the combination: a
settlement charges at most what was reserved, and a policy changes only while nothing is reserved.
-/

namespace MyApiSpec.Budget

open Base List World Store

variable {w : World} {b : TokenBudget}

/-- The budget of a token; a token without a row has an empty budget. -/
def DB.budget (db : DB) (tokenID : Int) : TokenBudget :=
  (db.budgets.get? tokenID).getD (unconfigured tokenID 0)

/-- A quantity of the requests of one token. -/
def ofToken {M : Type} [Zero M] (tokenID : Int) (f : TokenBudgetReservation → M)
    (r : TokenBudgetReservation) : M :=
  if r.tokenID = tokenID then f r else 0

/-- A quantity summed over the applied mutations. -/
def World.logged {M : Type} [AddMonoid M] (w : World) (f : TokenBudgetReservation → M) : M :=
  (w.log.map (fun a => f a.row)).sum

/-- No manual reconciliation of the token was applied. -/
def World.NoReconcile (w : World) (tokenID : Int) : Prop :=
  ∀ a ∈ w.log, a.row.tokenID = tokenID → a.action ≠ .reconcile

/-- The mutations of a token that counted usage. -/
def World.counted (w : World) (tokenID : Int) : List Applied :=
  w.log.filter (fun a => a.row.tokenID = tokenID ∧ a.row.state = .settled)

/-- The accounting of one token. -/
structure World.Accounted (w : World) (tokenID : Int) : Prop where
  /-- `Used` is the actual input and output of the settled requests. -/
  used : (w.db.budget tokenID).used =
    w.db.reservations.sum (ofToken tokenID TokenBudgetReservation.actualTokens)
  /-- `FeeUsedUSD` is exactly the sum of their actual fees. -/
  feeUsed : feeValue (w.db.budget tokenID).feeUsedUSD =
    w.db.reservations.sum (ofToken tokenID TokenBudgetReservation.actualFee)
  /-- A settled request carries its actual usage. -/
  actual : ∀ r ∈ w.db.reservations.rows, r.tokenID = tokenID → r.state = .settled →
    r.actualInput.isSome ∧ r.actualOutput.isSome
  /-- At most one request is open. -/
  single : ∀ r ∈ w.db.reservations.rows, ∀ r' ∈ w.db.reservations.rows, r.tokenID = tokenID →
    r'.tokenID = tokenID → r.Unresolved → r'.Unresolved → r = r'
  /-- It is the pending one. -/
  pending : ∀ r ∈ w.db.reservations.rows, r.tokenID = tokenID → r.Unresolved →
    r.requestID = (w.db.budget tokenID).pendingRequestID ∧
    (w.db.budget tokenID).reserved = r.reserved ∧
    (w.db.budget tokenID).feeReservedUSD = r.feeReservedUSD
  /-- Without an open request nothing is pending or reserved. -/
  idle : (∀ r ∈ w.db.reservations.rows, r.tokenID = tokenID → ¬ r.Unresolved) →
    Idle (w.db.budget tokenID)
  /-- A request that was ever sent is not cancelled. -/
  sent : ∀ a ∈ w.log, a.row.state = .sent → ∀ r ∈ w.db.reservations.rows,
    r.requestID = a.row.requestID → r.state ≠ .notSent
  /-- No request is counted twice, and the counts make up the used amounts. -/
  once : ((w.counted tokenID).map (fun a => a.row.requestID)).Nodup
  counts : (w.db.budget tokenID).used = w.logged (ofToken tokenID TokenBudgetReservation.actualTokens)
  feeCounts : feeValue (w.db.budget tokenID).feeUsedUSD =
    w.logged (ofToken tokenID TokenBudgetReservation.actualFee)
  /-- The limits hold until a reviewer reconciles a request by hand. -/
  limit : w.NoReconcile tokenID → (w.db.budget tokenID).enabled →
    (w.db.budget tokenID).used + (w.db.budget tokenID).reserved ≤ (w.db.budget tokenID).limit
  feeLimit : w.NoReconcile tokenID → (w.db.budget tokenID).feeEnabled →
    feeValue (w.db.budget tokenID).feeUsedUSD + feeValue (w.db.budget tokenID).feeReservedUSD ≤
      feeValue (w.db.budget tokenID).feeLimitUSD

/-! ### The invariant of a token -/

/-- A row of the reservations. -/
structure RowOk (r : TokenBudgetReservation) : Prop where
  requestID : r.requestID ≠ ""
  nonneg : 0 ≤ r.reserved
  openFee : r.Unresolved → r.actualFeeUSD = none
  reserved : r.boundSource = .openAIResponses → r.reserved = r.inputTokens + r.maxOutputTokens
  actual : r.state = .settled → r.actualInput.isSome ∧ r.actualOutput.isSome

/-- What holds between the budget of a token, the requests and the log. -/
structure Account (w : World) (tokenID : Int) (b : TokenBudget) : Prop where
  used : b.used = w.db.reservations.sum (ofToken tokenID TokenBudgetReservation.actualTokens)
  feeUsed : feeValue b.feeUsedUSD =
    w.db.reservations.sum (ofToken tokenID TokenBudgetReservation.actualFee)
  counts : b.used = w.logged (ofToken tokenID TokenBudgetReservation.actualTokens)
  feeCounts : feeValue b.feeUsedUSD = w.logged (ofToken tokenID TokenBudgetReservation.actualFee)
  holds : Idle b ∨ ∃ r, Held w.db b r ∧ r.Unresolved
  only : ∀ r ∈ w.db.reservations.rows, r.tokenID = tokenID → r.Unresolved →
    r.requestID = b.pendingRequestID
  limit : w.NoReconcile tokenID → b.enabled → b.used + b.reserved ≤ b.limit
  feeLimit : w.NoReconcile tokenID → b.feeEnabled →
    feeValue b.feeUsedUSD + feeValue b.feeReservedUSD ≤ feeValue b.feeLimitUSD

theorem Locked.account {tokenID : Int} (hl : Locked w.db tokenID b)
    (h : Account w tokenID (w.db.budget tokenID)) : Account w tokenID b := by
  cases hl with
  | stored hrow _ =>
    rw [DB.budget, hrow] at h
    exact h
  | missing userID hrow =>
    rw [DB.budget, hrow] at h
    -- the two default budgets differ in the user only, which the account does not mention
    refine { h with holds := .inl ⟨rfl, rfl, rfl⟩ }

theorem budget_set (db : DB) (next : TokenBudget) (tokenID : Int) :
    ({ db with budgets := db.budgets.set next } : DB).budget tokenID =
      if tokenID = next.tokenID then next else db.budget tokenID := by
  by_cases h : tokenID = next.tokenID
  · subst h
    rw [if_pos rfl, DB.budget, show next.tokenID = Keyed.key next from rfl, get?_set_self]
    rfl
  · rw [if_neg h, DB.budget, get?_set_of_ne h]
    rfl

section Write

variable {tokenID : Int} {next : TokenBudget} {row' : TokenBudgetReservation} {log : List Applied}

/-- The world behind a write of a budget and a request. -/
def World.written (w : World) (next : TokenBudget) (row' : TokenBudgetReservation)
    (log : List Applied) : World :=
  ⟨{ w.db with budgets := w.db.budgets.set next, reservations := w.db.reservations.set row' },
    w.log ++ log⟩

theorem sum_written {M : Type} [AddCommGroup M] (f : TokenBudgetReservation → M)
    (hold : ∀ r, w.db.reservations.get? row'.requestID = some r → f r = 0) :
    (w.written next row' log).db.reservations.sum f = w.db.reservations.sum f + f row' := by
  have hzero : ((w.db.reservations.get? (Keyed.key row')).map f).getD 0 = 0 := by
    cases hg : w.db.reservations.get? (Keyed.key row') with
    | none => rfl
    | some r => exact hold r hg
  rw [written, Store.sum_set, hzero, sub_zero]

theorem logged_written {M : Type} [AddMonoid M] (f : TokenBudgetReservation → M) :
    (w.written next row' log).logged f = w.logged f + (log.map (fun a => f a.row)).sum := by
  simp [logged, written]

theorem NoReconcile_written (h : (w.written next row' log).NoReconcile tokenID) :
    w.NoReconcile tokenID :=
  fun a ha => h a (mem_append_left _ ha)

/-- A write for another token keeps the account. -/
theorem Account.other (h : Account w tokenID b) (hne : row'.tokenID ≠ tokenID)
    (hold : ∀ r, w.db.reservations.get? row'.requestID = some r → r.tokenID ≠ tokenID)
    (hb : b.tokenID = tokenID) (hlog : ∀ a ∈ log, a.row = row') :
    Account (w.written next row' log) tokenID b := by
  have hsum : ∀ {M : Type} [AddCommGroup M] (f : TokenBudgetReservation → M),
      (w.written next row' log).db.reservations.sum (ofToken tokenID f) =
        w.db.reservations.sum (ofToken tokenID f) := by
    intro M _ f
    rw [sum_written (ofToken tokenID f) (fun r hr => if_neg (hold r hr)), ofToken, if_neg hne, add_zero]
  have hlogged : ∀ {M : Type} [AddMonoid M] (f : TokenBudgetReservation → M),
      (w.written next row' log).logged (ofToken tokenID f) = w.logged (ofToken tokenID f) := by
    intro M _ f
    have hzero : (log.map (fun a => ofToken tokenID f a.row)).sum = 0 :=
      sum_eq_zero fun x hx => by
        obtain ⟨a, ha, rfl⟩ := mem_map.mp hx
        rw [hlog a ha, ofToken, if_neg hne]
    rw [logged_written, hzero, add_zero]
  refine ⟨by rw [hsum]; exact h.used, by rw [hsum]; exact h.feeUsed, by rw [hlogged]; exact h.counts,
    by rw [hlogged]; exact h.feeCounts, ?_, ?_, fun hn => h.limit (NoReconcile_written hn),
    fun hn => h.feeLimit (NoReconcile_written hn)⟩
  · rcases h.holds with hidle | ⟨r, hr, hopen⟩
    · exact .inl hidle
    · have hkey : r.requestID ≠ row'.requestID := fun he =>
        hold r (he ▸ hr.stored) (hr.token.trans hb)
      exact .inr ⟨r, { hr with stored := (get?_set_of_ne hkey).trans hr.stored }, hopen⟩
  · intro r hr ht
    rcases mem_set.mp hr with rfl | ⟨hr, -⟩
    · exact absurd ht hne
    · exact h.only r hr ht

/-- A write for the token keeps the account when no other request is open and the used amounts grow
by what the written row counts. -/
theorem Account.write (h : Account w tokenID b) (ht : row'.tokenID = tokenID)
    (hold : ∀ r, w.db.reservations.get? row'.requestID = some r → r.Unresolved)
    (hothers : ∀ r ∈ w.db.reservations.rows, r.tokenID = tokenID → r.Unresolved →
      r.requestID = row'.requestID)
    (hused : next.used = b.used + row'.actualTokens)
    (hfee : feeValue next.feeUsedUSD = feeValue b.feeUsedUSD + row'.actualFee)
    (hlog : log = [] ∧ row'.Unresolved ∨ ∃ action, log = [⟨action, row'⟩])
    (hafter : row'.Unresolved ∧ Held (w.written next row' log).db next row' ∨
      ¬ row'.Unresolved ∧ Idle next)
    (hlimit : (w.written next row' log).NoReconcile tokenID → next.enabled →
      next.used + next.reserved ≤ next.limit)
    (hfeeLimit : (w.written next row' log).NoReconcile tokenID → next.feeEnabled →
      feeValue next.feeUsedUSD + feeValue next.feeReservedUSD ≤ feeValue next.feeLimitUSD) :
    Account (w.written next row' log) tokenID next := by
  have hof : ∀ {M : Type} [Zero M] (f : TokenBudgetReservation → M), ofToken tokenID f row' = f row' :=
    fun f => if_pos ht
  have hsum : ∀ {M : Type} [AddCommGroup M] (f : TokenBudgetReservation → M),
      (∀ r : TokenBudgetReservation, r.Unresolved → f r = 0) →
      (w.written next row' log).db.reservations.sum (ofToken tokenID f) =
        w.db.reservations.sum (ofToken tokenID f) + f row' := by
    intro M _ f hf
    rw [sum_written (ofToken tokenID f) (fun r hr => by rw [ofToken, hf r (hold r hr), ite_self]), hof]
  have hlogged : ∀ {M : Type} [AddCommGroup M] (f : TokenBudgetReservation → M),
      (∀ r : TokenBudgetReservation, r.Unresolved → f r = 0) →
      (log.map (fun a => ofToken tokenID f a.row)).sum = f row' := by
    intro M _ f hf
    rcases hlog with ⟨rfl, hopen⟩ | ⟨action, rfl⟩
    · exact (hf row' hopen).symm
    · simp [hof]
  refine ⟨?_, ?_, ?_, ?_, ?_, ?_, hlimit, hfeeLimit⟩
  · rw [hsum _ fun _ hr => hr.actualTokens, ← h.used, hused]
  · rw [hsum _ fun _ hr => hr.actualFee, ← h.feeUsed, hfee]
  · rw [logged_written, hlogged _ fun _ hr => hr.actualTokens, ← h.counts, hused]
  · rw [logged_written, hlogged _ fun _ hr => hr.actualFee, ← h.feeCounts, hfee]
  · rcases hafter with ⟨hopen, hheld⟩ | ⟨-, hidle⟩
    · exact .inr ⟨row', hheld, hopen⟩
    · exact .inl hidle
  · intro r hr hrt hopen
    rcases mem_set.mp hr with rfl | ⟨hr, hkey⟩
    · rcases hafter with ⟨-, hheld⟩ | ⟨hclosed, -⟩
      · exact hheld.pending.symm
      · exact absurd hopen hclosed
    · exact absurd (hothers r hr hrt hopen) hkey

end Write

/-! ### The invariant of all tokens -/

/-- The rows, the log and the accounts of all tokens. -/
structure Inv (w : World) : Prop where
  rows : ∀ r ∈ w.db.reservations.rows, RowOk r
  log : ∀ a ∈ w.log, ∃ r, w.db.reservations.get? a.row.requestID = some r ∧
    (a.row.state = .settled → r = a.row) ∧
    (a.row.state = .sent → r.state ≠ .prepared ∧ r.state ≠ .notSent)
  once : ((w.log.filter (fun a => a.row.state = .settled)).map (fun a => a.row.requestID)).Nodup
  accounts : ∀ tokenID, Account w tokenID (w.db.budget tokenID)

theorem budget_tokenID (db : DB) (tokenID : Int) : (db.budget tokenID).tokenID = tokenID := by
  unfold DB.budget
  cases h : db.budgets.get? tokenID with
  | none => rfl
  | some b => exact get?_key h

section Written

variable {next : TokenBudget} {row' : TokenBudgetReservation} {log : List Applied}

/-- The request that a write replaces: it is open and of the same token, and it is unsent if the
write cancels it. -/
def Replaces (db : DB) (row' : TokenBudgetReservation) : Prop :=
  ∀ r, db.reservations.get? row'.requestID = some r → r.Unresolved ∧ r.tokenID = row'.tokenID ∧
    row'.state ≠ .prepared ∧ (row'.state = .notSent → r.state = .prepared)

theorem Inv.log_written (h : Inv w) (hold : Replaces w.db row')
    (hlog : ∀ a ∈ log, a.row = row') :
    ∀ a ∈ w.log ++ log, ∃ r, (w.db.reservations.set row').get? a.row.requestID = some r ∧
      (a.row.state = .settled → r = a.row) ∧
      (a.row.state = .sent → r.state ≠ .prepared ∧ r.state ≠ .notSent) := by
  intro a ha
  rcases mem_append.mp ha with ha | ha
  · obtain ⟨r, hr, hsettled, hsent⟩ := h.log a ha
    by_cases hkey : a.row.requestID = row'.requestID
    · rw [hkey] at hr ⊢
      obtain ⟨hopen, -, hprepared, hcancel⟩ := hold r hr
      refine ⟨row', get?_set_self _ _, fun hs => ?_, fun hs => ⟨hprepared, fun hn => ?_⟩⟩
      · exact absurd (by rw [hsettled hs]; exact hs) hopen.1
      · exact (hsent hs).1 (hcancel hn)
    · exact ⟨r, (get?_set_of_ne hkey).trans hr, hsettled, hsent⟩
  · rw [hlog a ha]
    exact ⟨row', get?_set_self _ _, fun _ => rfl, fun hs => by rw [hs]; decide⟩

theorem Inv.once_written (h : Inv w) (hold : Replaces w.db row')
    (hlog : log = [] ∨ ∃ action, log = [⟨action, row'⟩]) :
    (((w.log ++ log).filter (fun a => a.row.state = .settled)).map
      (fun a => a.row.requestID)).Nodup := by
  rcases hlog with rfl | ⟨action, rfl⟩
  · rw [append_nil]
    exact h.once
  · rw [filter_append, map_append]
    refine nodup_append'.mpr ⟨h.once, ?_, ?_⟩
    · exact (nodup_singleton row'.requestID).sublist
        ((filter_sublist).map (fun a : Applied => a.row.requestID))
    · intro q hq hq'
      obtain ⟨a, ha, rfl⟩ := mem_map.mp hq
      obtain ⟨a', ha', hkey⟩ := mem_map.mp hq'
      obtain rfl := mem_singleton.mp (mem_of_mem_filter ha')
      obtain ⟨ha, hstate⟩ := mem_filter.mp ha
      have hsettled : a.row.state = .settled := by simpa using hstate
      obtain ⟨r, hr, hlast, -⟩ := h.log a ha
      -- a counted request is stored as settled, so no write replaces it
      have hopen := (hold r (by rw [← hr]; exact congrArg _ hkey)).1
      exact hopen.1 (by rw [hlast hsettled]; exact hsettled)

theorem Inv.written (h : Inv w) (ht : next.tokenID = row'.tokenID) (hrow : RowOk row')
    (hold : Replaces w.db row') (hlog : log = [] ∨ ∃ action, log = [⟨action, row'⟩])
    (hacc : Account (w.written next row' log) row'.tokenID next) : Inv (w.written next row' log) := by
  have hsame : ∀ a ∈ log, a.row = row' := by
    rcases hlog with rfl | ⟨action, rfl⟩
    · intro a ha
      cases ha
    · intro a ha
      rw [mem_singleton.mp ha]
  refine ⟨?_, h.log_written hold hsame, h.once_written hold hlog, ?_⟩
  · intro r hr
    rcases mem_set.mp hr with rfl | ⟨hr, -⟩
    · exact hrow
    · exact h.rows r hr
  · intro tokenID
    have hbudget : (w.written next row' log).db.budget tokenID =
        if tokenID = next.tokenID then next else w.db.budget tokenID := budget_set w.db next tokenID
    rw [hbudget]
    by_cases he : tokenID = next.tokenID
    · rw [if_pos he, he, ht]
      exact hacc
    · rw [if_neg he]
      have hne : row'.tokenID ≠ tokenID := fun hc => he (hc.symm.trans ht.symm)
      exact (h.accounts tokenID).other hne (fun r hr => by rw [(hold r hr).2.1]; exact hne)
        (budget_tokenID w.db tokenID) hsame

/-- A policy keeps the invariant. -/
theorem Inv.policy (h : Inv w) {changes : Store String TokenBudgetPolicyChange}
    (hl : Locked w.db next.tokenID b) (hidle : b.pendingRequestID = "") (hsame : SameUsage b next)
    (hlimit : next.enabled → next.used ≤ next.limit)
    (hfee : next.feeEnabled → feeValue next.feeUsedUSD ≤ feeValue next.feeLimitUSD ∨
      (b.feeEnabled ∧ next.feeLimitUSD = b.feeLimitUSD)) :
    Inv ⟨{ w.db with budgets := w.db.budgets.set next, policyChanges := changes }, w.log⟩ := by
  refine { h with accounts := fun tokenID => ?_ }
  have hbudget : ({ w.db with budgets := w.db.budgets.set next, policyChanges := changes } : DB).budget
      tokenID = if tokenID = next.tokenID then next else w.db.budget tokenID :=
    budget_set w.db next tokenID
  rw [hbudget]
  by_cases he : tokenID = next.tokenID
  · rw [if_pos he, he]
    have ha := hl.account (h.accounts next.tokenID)
    have hempty : Idle b := by
      rcases ha.holds with hi | ⟨r, hr, hopen⟩
      · exact hi
      · exact absurd (hr.pending.symm.trans hidle) (h.rows r (get?_mem hr.stored)).requestID
    have hnext : Idle next := ⟨hsame.pending.trans hempty.pending, hsame.reserved.trans hempty.reserved,
      hsame.feeReserved.trans hempty.feeReserved⟩
    refine ⟨hsame.used.trans ha.used, by rw [hsame.feeUsed]; exact ha.feeUsed,
      hsame.used.trans ha.counts, by rw [hsame.feeUsed]; exact ha.feeCounts, .inl hnext,
      by rw [hsame.pending]; exact ha.only, fun _ hon => ?_,
      fun hn hon => ?_⟩
    · rw [hnext.reserved, add_zero]
      exact hlimit hon
    · rw [hnext.feeReserved, feeValue_zero, add_zero]
      rcases hfee hon with hle | ⟨hbon, hblimit⟩
      · exact hle
      · have hle := ha.feeLimit hn hbon
        rw [hempty.feeReserved, feeValue_zero, add_zero] at hle
        rw [hsame.feeUsed, hblimit]
        exact hle
  · rw [if_neg he]
    have ha := h.accounts tokenID
    exact { ha with holds := ha.holds.imp id fun ⟨r, hr, hopen⟩ => ⟨r, ⟨hr.stored, hr.token, hr.pending, hr.reserved, hr.feeEnabled, hr.feeReserved⟩, hopen⟩ }

end Written

/-- A mutation of the pending request keeps the invariant when, unless it is a reconciliation, the
used and reserved amounts together do not grow. -/
theorem Inv.mutated {next : TokenBudget} {row row' : TokenBudgetReservation} {action : BudgetAction}
    (h : Inv w) (hl : Locked w.db b.tokenID b) (held : Held w.db b row) (hopen : row.Unresolved)
    (hpolicy : SamePolicy b next) (hsame : SameRequest row row')
    (hopenFee : row'.Unresolved → row'.actualFeeUSD = none)
    (hactual : row'.state = .settled → row'.actualInput.isSome ∧ row'.actualOutput.isSome)
    (hprepared : row'.state ≠ .prepared) (hcancel : row'.state = .notSent → row.state = .prepared)
    (hused : next.used = b.used + row'.actualTokens)
    (hfee : feeValue next.feeUsedUSD = feeValue b.feeUsedUSD + row'.actualFee)
    (hafter : row'.Unresolved ∧ SameUsage b next ∨ ¬ row'.Unresolved ∧ Idle next)
    (hle : action ≠ .reconcile → next.used + next.reserved ≤ b.used + b.reserved)
    (hfeeLe : action ≠ .reconcile → b.feeEnabled → feeValue next.feeUsedUSD +
      feeValue next.feeReservedUSD ≤ feeValue b.feeUsedUSD + feeValue b.feeReservedUSD) :
    Inv (w.written next row' [⟨action, row'⟩]) := by
  have ha := hl.account (h.accounts b.tokenID)
  have htoken : row'.tokenID = b.tokenID := hsame.tokenID.trans held.token
  have hstored : ∀ r, w.db.reservations.get? row'.requestID = some r → r = row := by
    intro r hr
    rw [hsame.requestID, held.stored] at hr
    exact (Option.some.inj hr).symm
  have hno : (w.written next row' [⟨action, row'⟩]).NoReconcile b.tokenID →
      w.NoReconcile b.tokenID ∧ action ≠ .reconcile := fun hn =>
    ⟨NoReconcile_written hn, hn ⟨action, row'⟩ (mem_append_right _ mem_cons_self) htoken⟩
  have hok := h.rows row (get?_mem held.stored)
  refine h.written (hpolicy.tokenID.trans htoken.symm)
    ⟨hsame.requestID ▸ hok.requestID, hsame.reserved ▸ hok.nonneg, hopenFee, ?_, hactual⟩ ?_ (.inr ⟨action, rfl⟩) ?_
  · rw [hsame.boundSource, hsame.reserved, hsame.inputTokens, hsame.maxOutputTokens]
    exact hok.reserved
  · intro r hr
    rw [hstored r hr]
    exact ⟨hopen, hsame.tokenID.symm, hprepared, hcancel⟩
  · rw [htoken]
    refine ha.write htoken (fun r hr => hstored r hr ▸ hopen) ?_ hused hfee (.inr ⟨action, rfl⟩) ?_ ?_ ?_
    · rw [hsame.requestID, ← held.pending]
      exact ha.only
    · refine hafter.imp (fun ⟨hopen', husage⟩ => ⟨hopen', ?_⟩) id
      exact ⟨get?_set_self _ _, htoken.trans hpolicy.tokenID.symm,
        husage.pending.trans (held.pending.trans hsame.requestID.symm),
        husage.reserved.trans (held.reserved.trans hsame.reserved.symm),
        hpolicy.feeEnabled.trans (held.feeEnabled.trans hsame.feeEnabled.symm),
        husage.feeReserved.trans (held.feeReserved.trans hsame.feeReserved.symm)⟩
    · intro hn hon
      rw [hpolicy.limit]
      exact (hle (hno hn).2).trans (ha.limit (hno hn).1 (hpolicy.enabled ▸ hon))
    · intro hn hon
      have hb : b.feeEnabled := hpolicy.feeEnabled ▸ hon
      rw [hpolicy.feeLimit]
      exact (hfeeLe (hno hn).2 hb).trans (ha.feeLimit (hno hn).1 hb)

theorem Inv.change {db : DB} {log : List Applied} (h : Inv w) (hc : Change w.db db log) :
    Inv ⟨db, w.log ++ log⟩ := by
  cases hc with
  | policy b next changes hl hidle hsame hlimit hfee =>
    rw [append_nil]
    exact h.policy hl hidle hsame hlimit hfee
  | reserve b next row hl hidle hsame hused hfresh hnew hheld hlimit hfee =>
    have ha := hl.account (h.accounts next.tokenID)
    have hopen : row.Unresolved := by
      rw [TokenBudgetReservation.Unresolved, hfresh.state]
      decide
    have hnone : ∀ r, w.db.reservations.get? row.requestID ≠ some r := fun r hr => by
      rw [hnew] at hr
      cases hr
    refine h.written hheld.token.symm ?_ (fun r hr => absurd hr (hnone r)) (.inl rfl) ?_
    · exact { hfresh with openFee := fun _ => hfresh.actualFee, actual := fun hs => absurd hs hopen.1 }
    · rw [hheld.token]
      refine ha.write hheld.token (fun r hr => absurd hr (hnone r)) ?_ ?_ ?_ (.inl ⟨rfl, hopen⟩)
        (.inl ⟨hopen, hheld⟩) (fun _ => hlimit) (fun _ => hfee)
      · intro r hr ht hr'
        have hp := ha.only r hr ht hr'
        exact absurd (hp.trans hidle) (h.rows r hr).requestID
      · rw [hused.1, hopen.actualTokens, add_zero]
      · rw [hused.2, hopen.actualFee, add_zero]
  | advance action b next row row' hl held hbefore hpolicy husage hsame hfee hafter haction =>
    have hok := h.rows row (get?_mem held.stored)
    have hopen : row'.Unresolved := by
      rcases hafter with hs | hs <;> rw [TokenBudgetReservation.Unresolved, hs] <;> decide
    refine h.mutated hl held hbefore hpolicy hsame (fun _ => hfee.trans (hok.openFee hbefore))
      (fun hs => absurd hs hopen.1) ?_ (fun hn => absurd hn hopen.2) ?_ ?_ (.inl ⟨hopen, husage⟩) ?_ ?_
    · rcases hafter with hs | hs <;> rw [hs] <;> decide
    · rw [husage.used, hopen.actualTokens, add_zero]
    · rw [husage.feeUsed, hopen.actualFee, add_zero]
    · rw [husage.used, husage.reserved]
      exact fun _ => le_rfl
    · rw [husage.feeUsed, husage.feeReserved]
      exact fun _ _ => le_rfl
  | cancel b next row row' hl held hbefore hpolicy hused hidle hsame hafter =>
    have hok := h.rows row (get?_mem held.stored)
    have hopen : row.Unresolved := by
      rw [TokenBudgetReservation.Unresolved, hbefore]
      decide
    have hclosed : ¬ row'.Unresolved := fun hc => hc.2 hafter
    have hzero : row'.actualTokens = 0 ∧ row'.actualFee = 0 := by
      simp [TokenBudgetReservation.actualTokens, TokenBudgetReservation.actualFee, hafter]
    refine h.mutated hl held hopen hpolicy hsame (fun hc => absurd hc hclosed)
      (fun hs => by rw [hafter] at hs; cases hs) (by rw [hafter]; decide) (fun _ => hbefore) ?_ ?_
      (.inr ⟨hclosed, hidle⟩) ?_ ?_
    · rw [hused.1, hzero.1, add_zero]
    · rw [hused.2, hzero.2, add_zero]
    · rw [hused.1, hidle.reserved, held.reserved]
      exact fun _ => by have := hok.nonneg; omega
    · rw [hused.2, hidle.feeReserved, feeValue_zero]
      exact fun _ _ => by gcongr; exact feeValue_nonneg _
  | count action b next row row' hl held hterminal hbefore hpolicy hidle hsame hafter hactual hused
      hfeeUsed hbound hfeeBound =>
    have hok := h.rows row (get?_mem held.stored)
    have hopen : row.Unresolved := by
      rcases hbefore with hs | hs <;> rw [TokenBudgetReservation.Unresolved, hs] <;> decide
    have hclosed : ¬ row'.Unresolved := fun hc => hc.1 hafter
    have hfee := hfeeUsed (hok.openFee hopen)
    have hsettle : action ≠ .reconcile → action = .settle := by
      intro hn
      simpa [BudgetAction.terminal, hn] using hterminal
    refine h.mutated hl held hopen hpolicy hsame (fun hc => absurd hc hclosed) (fun _ => hactual)
      (by rw [hafter]; decide) (fun hn => by rw [hafter] at hn; cases hn) hused hfee (.inr ⟨hclosed, hidle⟩) ?_ ?_
    · intro hn
      have hle := hbound (hsettle hn) hok.reserved
      rw [hused, hidle.reserved, held.reserved]
      omega
    · intro hn hon
      have hle := hfeeBound (hsettle hn) (held.feeEnabled ▸ hon)
      rw [hfee, hidle.feeReserved, feeValue_zero, add_zero, held.feeReserved]
      gcongr

/-! ### Runs -/

/-- Nothing is configured, admitted or applied yet. -/
structure World.Initial (w : World) : Prop where
  budgets : w.db.budgets.rows = []
  reservations : w.db.reservations.rows = []
  log : w.log = []

theorem Inv.initial (h : w.Initial) : Inv w := by
  have hmem : ∀ r, r ∉ w.db.reservations.rows := fun r => by rw [h.reservations]; exact not_mem_nil
  have hsum : ∀ {M : Type} [AddMonoid M] (f : TokenBudgetReservation → M),
      w.db.reservations.sum f = 0 := by
    intro M _ f
    rw [Store.sum, h.reservations]
    rfl
  have hlogged : ∀ {M : Type} [AddMonoid M] (f : TokenBudgetReservation → M), w.logged f = 0 := by
    intro M _ f
    rw [logged, h.log]
    rfl
  refine ⟨fun r hr => absurd hr (hmem r), fun a ha => ?_, by rw [h.log]; exact nodup_nil,
    fun tokenID => ?_⟩
  · rw [h.log] at ha
    cases ha
  · have hbudget : w.db.budget tokenID = unconfigured tokenID 0 := by
      rw [DB.budget, get?, h.budgets]
      rfl
    rw [hbudget]
    exact ⟨(hsum _).symm, feeValue_zero.trans (hsum _).symm, (hlogged _).symm,
      feeValue_zero.trans (hlogged _).symm, .inl ⟨rfl, rfl, rfl⟩, fun r hr => absurd hr (hmem r),
      fun _ hon => absurd hon Bool.false_ne_true, fun _ hon => absurd hon Bool.false_ne_true⟩

theorem Inv.step (h : Inv w) (c : Call) : Inv (w.step c) := by
  rcases w.step_change c with he | ⟨db, log, hc, he⟩
  · rw [he]
    exact h
  · rw [he]
    exact h.change hc

theorem Inv.reaches {w' : World} (h : Inv w) (hr : w.Reaches w') : Inv w' := by
  obtain ⟨calls, rfl⟩ := hr
  exact calls.foldlRecOn World.step h fun _ hw c _ => hw.step c

theorem Inv.accounted (h : Inv w) (tokenID : Int) : w.Accounted tokenID := by
  have ha := h.accounts tokenID
  have hheld : ∀ r ∈ w.db.reservations.rows, r.tokenID = tokenID → r.Unresolved →
      Held w.db (w.db.budget tokenID) r := by
    intro r hr ht hopen
    have hp := ha.only r hr ht hopen
    rcases ha.holds with hidle | ⟨r', hr', -⟩
    · exact absurd (hp.trans hidle.pending) (h.rows r hr).requestID
    · have hkey : r'.requestID = r.requestID := hr'.pending.symm.trans hp.symm
      obtain rfl : r' = r := eq_of_key (get?_mem hr'.stored) hr hkey
      exact hr'
  refine
    { used := ha.used
      feeUsed := ha.feeUsed
      actual := fun r hr _ => (h.rows r hr).actual
      single := ?_
      pending := fun r hr ht hopen => ⟨ha.only r hr ht hopen, (hheld r hr ht hopen).reserved,
        (hheld r hr ht hopen).feeReserved⟩
      idle := ?_
      sent := ?_
      once := ?_
      counts := ha.counts
      feeCounts := ha.feeCounts
      limit := ha.limit
      feeLimit := ha.feeLimit }
  · intro r hr r' hr' ht ht' hopen hopen'
    exact eq_of_key hr hr' ((ha.only r hr ht hopen).trans (ha.only r' hr' ht' hopen').symm)
  · intro hnone
    rcases ha.holds with hidle | ⟨r, hr, hopen⟩
    · exact hidle
    · exact absurd hopen (hnone r (get?_mem hr.stored)
        (hr.token.trans (budget_tokenID w.db tokenID)))
  · intro a hmem hs r hr hkey
    obtain ⟨r', hr', -, hsent⟩ := h.log a hmem
    obtain rfl : r' = r :=
      eq_of_key (get?_mem hr') hr ((get?_key hr').trans hkey.symm)
    exact (hsent hs).2
  · refine h.once.sublist (List.Sublist.map _ ?_)
    exact w.log.monotone_filter_right fun a ha => by
      simpa using (of_decide_eq_true ha : _ ∧ _).2

/-- A root user and a token of that user. -/
def plainReads : Reads where
  token := some { userID := 7 }
  user := fun id => if id = 7 then some { root := true } else none

/-- A text of 64 hexadecimal digits. -/
def plainDigest : String := String.ofList (List.replicate 64 'a')

/-- A request of 30 input and at most 20 output tokens for at most half a dollar. -/
def plainRequest (requestID : String) : TokenBudgetReservation where
  requestServiceTier := "default"
  feeEnabled := true
  feeReservedUSD := "0.5"
  feePriceEvidence := "\x7b\x7d"
  boundSource := .openAIResponses
  requestID := requestID
  tokenID := 1
  userID := 7
  channelID := 3
  modelName := "m"
  payloadSHA256 := plainDigest
  inputTokens := 30
  maxOutputTokens := 20

/-- A policy of 100 tokens and two dollars. -/
def plainPolicy : TokenBudgetPolicyInput where
  fee := some ⟨true, "2.00"⟩
  id := plainDigest
  tokenID := 1
  expectedRevision := 0
  enabled := true
  limit := 100

/-- Reported usage of five output tokens. -/
def plainUsage (requestID feeUSD : String) (input : Int) : TokenBudgetMutation where
  feeUSD := some feeUSD
  tokenID := 1
  requestID := requestID
  action := .settle
  input := input
  output := 5

/-- Both budgets are enabled; one request is settled, a second one is sent and its reported usage does
not match, a late cancellation of it is refused. -/
def plainCalls : List Call :=
  [.configure plainReads 7 plainPolicy,
    .reserve plainReads (plainRequest "a"),
    .mutate plainReads { tokenID := 1, requestID := "a", action := .send },
    .mutate plainReads (plainUsage "a" "0.350" 30),
    .reserve plainReads (plainRequest "b"),
    .mutate plainReads { tokenID := 1, requestID := "b", action := .send },
    .mutate plainReads (plainUsage "b" "0.4" 31),
    .mutate plainReads { tokenID := 1, requestID := "b", action := .cancel }]

end MyApiSpec.Budget
