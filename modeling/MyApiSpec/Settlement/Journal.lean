import MyApiSpec.Settlement.Balance

/-!
# The usage journal as a guard

A settlement or refund of a legacy request is checked against the request's journal row, both
when the fact is created and inside the transaction that applies it
(`model/legacy_usage_reservation.go:298–351`, `444–466`).
-/

namespace MyApiSpec.Settlement

open Base

/-- The journal row of a request. -/
def findLegacyUsage (db : DB) (requestID : String) : Option LegacyUsageReservation :=
  db.journals.find? fun row => row.requestID = requestID

/-- The amount check of a settlement against a journal in one state. -/
def settlementAdmission (row : LegacyUsageReservation) (delta : Int) : Fallible Unit :=
  match row.state with
  | .prepared => .ok ()
  | .reviewPending | .settled =>
    check (row.actualQuota.map (fun actual => actual - row.reservedQuota) = some delta) [.conflict]
  | _ => .error [.usageUnresolved]

/-- `validateLegacyUsageSettlement` (`model/legacy_usage_reservation.go:298–331`). -/
def validateLegacyUsageSettlement (db : DB) (input : SettlementInput) : Fallible Unit :=
  if input.kind = .authoritative then .ok ()
  else
    match findLegacyUsage db input.requestID with
    -- a request from before the journal existed
    | none => check (input.kind ≠ .legacySelfUse) [.conflict]
    | some row => do
      check ((row.fundingSource = .selfUse ↔ input.kind = .legacySelfUse) ∧
        ¬ (row.fundingSource = .selfUse ∧ row.usagePolicyRevision ≤ 0)) [.conflict]
      check (row.userID = input.userID ∧ row.tokenID = input.tokenID ∧
        row.subscriptionID = input.subscriptionID) [.conflict]
      settlementAdmission row input.delta

/-- `validateLegacyUsageRefund` (`model/legacy_usage_reservation.go:333–351`). -/
def validateLegacyUsageRefund (db : DB) (requestID : String) : Fallible Unit :=
  match findLegacyUsage db requestID with
  | none => .ok ()
  | some row => do
    check (Ledger.textDispatchPending row.reviewMetadata = .ok false) [.usageUnresolved]
    check (row.state = .prepared ∨ row.state = .refunded ∨ row.state = .preparing ∨
      row.state = .admissionFailed) [.usageUnresolved]

/-- `validateLegacySelfUseRefund`: a request without a wallet charge never credits a wallet
(`model/legacy_usage_reservation.go:446–466`). -/
def validateLegacySelfUseRefund (db : DB) (requestID : String) (kind : RefundKind)
    (userID tokenID walletQuota : Int) : Fallible Unit :=
  match findLegacyUsage db requestID with
  | none => check (kind ≠ .legacySelfUse) [.conflict]
  | some row => do
    check (row.fundingSource = .selfUse ↔ kind = .legacySelfUse) [.conflict]
    check (kind = .legacySelfUse → walletQuota = 0 ∧ 0 < row.usagePolicyRevision ∧
      row.userID = userID ∧ row.tokenID = tokenID) [.conflict]

end MyApiSpec.Settlement
