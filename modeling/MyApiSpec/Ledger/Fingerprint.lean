import MyApiSpec.Ledger.Types

/-!
# Fingerprints, event keys and normalised identities

The request identity of a receipt is the digest of a JSON payload, bounded to 16 KiB
(`model/account_quota_mutation.go:245–313`). Event keys and mutation slots are texts built
from the request id; a key determines the request id and the event because the part behind
the request id holds no colon.
-/

namespace MyApiSpec.Ledger

open Base List

variable {n : Int}

/-- `AccountQuotaMutationReceiptVersion`. -/
def accountQuotaMutationReceiptVersion : Int := 1

/-- `AccountQuotaFingerprintVersion`. -/
def accountQuotaFingerprintVersion : Int := 2

/-- `accountQuotaMutationMaxContextBytes`. -/
def accountQuotaMutationMaxContextBytes : Nat := 16 * 1024

/-! ### Encoded size of a payload -/

/-- Encoded size of a stored fingerprint; a digest is 64 hexadecimal digits. -/
def Fingerprint.jsonSize : Fingerprint → Nat
  | .blank => 2
  | .account .. => 66
  | .recovery .. => 66
  | .earlier text => jsonStringSize text

/-- Encoded size of an optional preference, empty text when absent. -/
def preferenceJsonSize (p : Option BillingPreference) : Nat :=
  jsonStringSize ((p.map BillingPreference.text).getD "")

/-- Encoded size of a billing context; an empty metadata map is omitted. -/
def AccountBillingContext.jsonSize (c : AccountBillingContext) : Nat :=
  jsonObjectSize <|
    [(jsonKeySize "version", jsonIntSize c.version),
      (jsonKeySize "model_name", jsonStringSize c.modelName),
      (jsonKeySize "origin_model_name", jsonStringSize c.originModelName),
      (jsonKeySize "using_group", jsonStringSize c.usingGroup),
      (jsonKeySize "billing_preference", preferenceJsonSize c.billingPreference),
      (jsonKeySize "channel_id", jsonIntSize c.channelID),
      (jsonKeySize "force_pre_consume", jsonBoolSize c.forcePreConsume),
      (jsonKeySize "playground", jsonBoolSize c.playground),
      (jsonKeySize "free_model", jsonBoolSize c.freeModel)] ++
    if c.metadata.isEmpty then []
    else [(jsonKeySize "metadata",
      jsonObjectSize (c.metadata.map fun m => (jsonStringSize m.1, jsonStringSize m.2)))]

/-- Encoded size of a fingerprint payload. -/
def FingerprintPayload.jsonSize (p : FingerprintPayload) : Nat :=
  jsonObjectSize
    [(jsonKeySize "version", jsonIntSize p.version),
      (jsonKeySize "request_id", jsonStringSize p.requestID),
      (jsonKeySize "phase", jsonStringSize p.phase.text),
      (jsonKeySize "reserve_receipt_id", jsonIntSize p.reserveReceiptID),
      (jsonKeySize "reserve_fingerprint", p.reserveFingerprint.jsonSize),
      (jsonKeySize "user_id", jsonIntSize p.userID),
      (jsonKeySize "token_id", jsonIntSize p.tokenID),
      (jsonKeySize "requested_quota", jsonIntSize p.requestedQuota),
      (jsonKeySize "actual_quota", jsonIntSize p.actualQuota),
      (jsonKeySize "preference", preferenceJsonSize p.preference),
      (jsonKeySize "playground", jsonBoolSize p.playground),
      (jsonKeySize "audit_key", jsonStringSize p.auditKey),
      (jsonKeySize "billing_context", p.billingContext.jsonSize)]

/-! ### Digests -/

/-- The digest of a payload. -/
def FingerprintPayload.digest (p : FingerprintPayload) : Fingerprint :=
  .account p.version p.requestID p.phase p.reserveReceiptID p.reserveFingerprint p.userID
    p.tokenID p.requestedQuota p.actualQuota p.preference p.playground p.auditKey p.billingContext

/-- Equal digests come from equal payloads. -/
theorem FingerprintPayload.digest_injective : Function.Injective FingerprintPayload.digest := by
  rintro ⟨⟩ ⟨⟩ h
  simpa [FingerprintPayload.digest] using h

/-- `accountQuotaFingerprint` (`model/account_quota_mutation.go:302–312`). -/
def accountQuotaFingerprint (p : FingerprintPayload) : Except LedgerError Fingerprint :=
  if p.jsonSize > accountQuotaMutationMaxContextBytes then .error .invalidInput else .ok p.digest

/-- The payload that identifies a stored receipt (`model/account_quota_mutation.go:265–292`). -/
def Receipt.payload (r : Receipt) : FingerprintPayload :=
  let payload : FingerprintPayload :=
    { version := r.fingerprintVersion, requestID := r.requestID, phase := r.phase
      reserveReceiptID := r.parentReceiptID, reserveFingerprint := r.reserveFingerprint
      userID := r.userID, tokenID := r.tokenID, preference := some r.billingPreference
      playground := r.billingContext.playground, auditKey := r.auditKey
      billingContext := r.billingContext }
  match r.phase with
  | .reserve =>
    { payload with reserveReceiptID := 0, reserveFingerprint := .blank
                   requestedQuota := r.requestedQuota }
  | .adjust => { payload with reserveReceiptID := 0, requestedQuota := r.requestedQuota }
  | .settle | .refund => { payload with actualQuota := r.requestedQuota }
  | .directToken =>
    { payload with reserveReceiptID := 0, reserveFingerprint := .blank, preference := none
                   playground := false, billingContext := {}, actualQuota := r.requestedQuota }
  | .other _ => { payload with actualQuota := r.requestedQuota }

/-- `accountQuotaReceiptFingerprint` (`model/account_quota_mutation.go:261–294`). -/
def accountQuotaReceiptFingerprint (r : Receipt) : Except LedgerError Fingerprint :=
  accountQuotaFingerprint r.payload

theorem accountQuotaFingerprint_eq_ok {p : FingerprintPayload} {f : Fingerprint} :
    accountQuotaFingerprint p = .ok f ↔
      p.jsonSize ≤ accountQuotaMutationMaxContextBytes ∧ f = p.digest := by
  unfold accountQuotaFingerprint
  split
  · simp; omega
  · simp only [Except.ok.injEq]
    constructor
    · rintro rfl; exact ⟨by omega, rfl⟩
    · rintro ⟨-, rfl⟩; rfl

/-- The stored request fingerprint is the one its columns reproduce. -/
def Receipt.Sealed (r : Receipt) : Prop :=
  accountQuotaReceiptFingerprint r = .ok r.requestFingerprint

instance (r : Receipt) : Decidable r.Sealed :=
  inferInstanceAs (Decidable (_ = _))

/-- A sealed receipt that carries the digest of `p` has the payload `p`. -/
theorem Receipt.Sealed.payload_eq {r : Receipt} {p : FingerprintPayload} (h : r.Sealed)
    (hf : r.requestFingerprint = p.digest) : r.payload = p := by
  obtain ⟨-, hd⟩ := accountQuotaFingerprint_eq_ok.mp h
  exact FingerprintPayload.digest_injective (hd.symm.trans hf)

@[simp]
theorem Receipt.payload_phase (r : Receipt) : r.payload.phase = r.phase := by
  unfold Receipt.payload
  split <;> simp_all

@[simp]
theorem Receipt.payload_requestID (r : Receipt) : r.payload.requestID = r.requestID := by
  unfold Receipt.payload
  split <;> rfl

@[simp]
theorem Receipt.payload_auditKey (r : Receipt) : r.payload.auditKey = r.auditKey := by
  unfold Receipt.payload
  split <;> rfl

/-! ### Keys -/

/-- The text `request:<id>:<tail>:v1`. -/
def requestKey (requestID tail : String) : String :=
  "request:" ++ requestID ++ (":" ++ tail ++ ":v1")

/-- `accountQuotaEventKey` (`model/account_quota_mutation.go:332–334`). -/
def accountQuotaEventKey (requestID : String) (phase : Phase) : String :=
  requestKey requestID phase.text

/-- `accountQuotaMutationSlot` (`model/account_quota_mutation.go:336–341`). -/
def accountQuotaMutationSlot (requestID : String) (phase : Phase) : String :=
  if phase = .reserve then accountQuotaEventKey requestID phase
  else requestKey requestID "terminal"

/-- Event key of an adjustment to `target` (`model/account_quota_mutation.go:1159`). -/
def accountQuotaAdjustKey (requestID : String) (target : Int) : String :=
  requestKey requestID ("reserve-adjust-" ++ toString target)

private theorem split_last_colon {l₁ l₂ t₁ t₂ : List Char} (h₁ : ':' ∉ t₁) (h₂ : ':' ∉ t₂)
    (h : l₁ ++ ':' :: t₁ = l₂ ++ ':' :: t₂) : l₁ = l₂ ∧ t₁ = t₂ := by
  rcases append_eq_append_iff.mp h with ⟨a, rfl, ha⟩ | ⟨a, rfl, ha⟩
  · cases a with
    | nil => simpa using ha
    | cons c cs =>
      simp only [cons_append, cons.injEq] at ha
      exact absurd (by simp [ha.2]) h₁
  · cases a with
    | nil => simpa [eq_comm] using ha
    | cons c cs =>
      simp only [cons_append, cons.injEq] at ha
      exact absurd (by simp [ha.2]) h₂

/-- A key determines the request id and the tail, for tails without a colon. -/
theorem requestKey_inj {r r' t t' : String} (ht : ':' ∉ t.toList) (ht' : ':' ∉ t'.toList)
    (h : requestKey r t = requestKey r' t') : r = r' ∧ t = t' := by
  have hl : (r.toList ++ ':' :: t.toList) ++ [':', 'v', '1'] =
      (r'.toList ++ ':' :: t'.toList) ++ [':', 'v', '1'] := by
    simpa [requestKey, ← String.toList_inj] using h
  replace hl := append_cancel_right hl
  obtain ⟨hr, ht⟩ := split_last_colon ht ht' hl
  exact ⟨String.toList_injective hr, String.toList_injective ht⟩

private theorem toList_adjust (h : 0 ≤ n) :
    ("reserve-adjust-" ++ toString n).toList =
      "reserve-adjust-".toList ++ Nat.toDigits 10 n.toNat := by
  rw [String.toList_append, Int.toString_eq_repr, Int.repr_eq_if, if_pos h,
    Nat.repr_eq_ofList_toDigits]
  simp

/-- The tail of an adjustment key has no colon. -/
theorem colon_not_mem_adjust (h : 0 ≤ n) : ':' ∉ ("reserve-adjust-" ++ toString n).toList := by
  rw [toList_adjust h]
  intro hm
  rcases mem_append.mp hm with hm | hm
  · exact absurd hm (by decide)
  · exact absurd (Nat.isDigit_of_mem_toDigits (by decide) (by decide) hm) (by decide)

/-- Adjustment keys agree only for the same request and target. -/
theorem accountQuotaAdjustKey_inj {r r' : String} {n' : Int} (hn : 0 ≤ n) (hn' : 0 ≤ n')
    (h : accountQuotaAdjustKey r n = accountQuotaAdjustKey r' n') : r = r' ∧ n = n' := by
  obtain ⟨hr, ht⟩ := requestKey_inj (colon_not_mem_adjust hn) (colon_not_mem_adjust hn') h
  have hd : Nat.toDigits 10 n.toNat = Nat.toDigits 10 n'.toNat := by
    have := congrArg String.toList ht
    rw [toList_adjust hn, toList_adjust hn'] at this
    exact append_cancel_left this
  have hv := congrArg (fun l => Nat.ofDigitChars 10 l 0) hd
  simp only [Nat.ofDigitChars_ten_toDigits] at hv
  exact ⟨hr, by omega⟩

/-! ### Normalised inputs -/

/-- `normalizeAccountRequestID` (`model/account_quota_mutation.go:314–320`). -/
def normalizeAccountRequestID (requestID : String) : Except LedgerError String :=
  let trimmed := trimSpace requestID
  if trimmed = "" ∨ trimmed.utf8ByteSize > 64 then .error .invalidInput else .ok trimmed

end MyApiSpec.Ledger
