import MyApiSpec.Ledger.Terminal

/-!
# Answers of ledger calls

A call ends within a bounded number of its own steps, whatever other calls do in between, and the receipt that it
returned stays stored. A reservation that is requested again, at the same time or later, gets the first receipt.
-/

namespace MyApiSpec.Ledger

open Base Table List World

variable {db : DB} {w w' : World} {r : Receipt}

theorem World.Ok.receiptsGrow (hok : w.Ok) {actions : List Action} (hrun : run World.step w actions = some w') :
    ReceiptsGrow w.db w'.db := by
  have hinv := run_invariant (fun v : World => v.Ok ∧ ReceiptsGrow w.db v.db) (by
    rintro v a v' ⟨hv, hgrow⟩ hs
    obtain ⟨⟨log, hc, -⟩, hv'⟩ := hv.step hs
    exact ⟨hv', fun i r hr => hc.grow.1 i r (hgrow i r hr)⟩) actions w w' ⟨hok, fun _ _ hr => hr⟩ hrun
  exact hinv.2

theorem Answered.stored {input : CallInput} (h : Answered db input r) : db.receipts.get? r.id = some r := by
  apply get?_of_mem
  cases h <;> assumption

variable {input : ReserveInput} {x : ReserveCtx}

/-- The receipt of a reserve call occupies the event key of its request. -/
theorem Answered.reserves (hw : WF db) (h : Answered db (.reserve input) r)
    (hx : normalizeAccountReserveInput input 0 = .ok x) :
    r ∈ db.receipts.rows ∧ r.requestFingerprint = x.fingerprint ∧
      r.eventKey = accountQuotaEventKey x.requestID .reserve := by
  cases h with | reserve hn hm hf =>
  cases hx.symm.trans hn
  have hok := hw.receipt r hm
  obtain ⟨-, hd⟩ := accountQuotaFingerprint_eq_ok.mp (reserveInput_ok hx 0).fingerprint
  have hp := hok.isSealed.payload_eq (hf.trans hd)
  have hphase : r.phase = .reserve := by
    rw [← r.payload_phase, hp]
    rfl
  have hid : r.requestID = x.requestID := by
    rw [← r.payload_requestID, hp]
    rfl
  refine ⟨hm, hf, ?_⟩
  rcases hok.key with ⟨-, hkey, -⟩ | ⟨hadjust, -⟩ | ⟨hterminal, -⟩
  · rw [hkey, hid]
  · cases hphase.symm.trans hadjust
  · exact absurd (.inl hphase) hterminal.not_chained

/-- In every interleaving the reserve calls of one request that succeed return one receipt, and they asked for the
same reservation: their fingerprints agree. -/
theorem reserve_calls_share_receipt {w₀ w : World} (hr : w₀.ReachableFrom w) {input input' : ReserveInput}
    {r r' : Receipt} (hc : ⟨.reserve input, .returned (.ok r)⟩ ∈ w.calls)
    (hc' : ⟨.reserve input', .returned (.ok r')⟩ ∈ w.calls) {x x' : ReserveCtx}
    (hx : normalizeAccountReserveInput input 0 = .ok x) (hx' : normalizeAccountReserveInput input' 0 = .ok x')
    (hid : x.requestID = x'.requestID) : r = r' ∧ x.fingerprint = x'.fingerprint := by
  have hok := hr.ok
  obtain ⟨hm, hf, hkey⟩ := Answered.reserves hok.wf (hok.calls _ hc) hx
  obtain ⟨hm', hf', hkey'⟩ := Answered.reserves hok.wf (hok.calls _ hc') hx'
  obtain rfl := hok.wf.eventUnique r hm r' hm' (by rw [hkey, hkey', hid])
  exact ⟨rfl, hf.symm.trans hf'⟩

def repeatedInput : CallInput := .reserve { requestID := "r1", userID := 1, tokenID := 1, requestedQuota := 1 }

/-- A reservation, and the same request once more. -/
def repeatedRun : List Action := smoothCall 0 repeatedInput 200000 ++ [.start repeatedInput, .precheck 1]

theorem reserve_calls_share_receipt_repeatedRun : ∃ r r', (plainRun repeatedRun).calls =
    [⟨repeatedInput, .returned (.ok r)⟩, ⟨repeatedInput, .returned (.ok r')⟩] ∧ r = r' := by
  have hrun : (run World.step plainWorld repeatedRun).isSome = true ∧
      ∃ r ∈ (plainRun repeatedRun).db.receipts.rows, ∃ r' ∈ (plainRun repeatedRun).db.receipts.rows,
        (plainRun repeatedRun).calls =
          [⟨repeatedInput, .returned (.ok r)⟩, ⟨repeatedInput, .returned (.ok r')⟩] := by decide +kernel
  obtain ⟨hsome, r, -, r', -, hcalls⟩ := hrun
  have hin : ∀ s ∈ [r, r'], ⟨repeatedInput, .returned (.ok s)⟩ ∈ (plainRun repeatedRun).calls := by simp [hcalls]
  exact ⟨r, r', hcalls, (reserve_calls_share_receipt (plainRun_reachable hsome) (hin r (by simp)) (hin r' (by simp))
    rfl rfl rfl).1⟩

end MyApiSpec.Ledger
