import MyApiSpec.Credential.Calls

/-!
# Rotation excludes dispatches under way

The bodies of the four transactions change the rows in five ways: nothing, a new open admission, a link, a
mark, or a rotation. An admission id is a ticket of the call that drew it, and a committed rotation is a
ticket of the call that saw its own commit acknowledged; neither is ever held twice.
-/

namespace MyApiSpec.Credential

open Base List Table Store Phase Body

/-! ### What a transaction can do to the rows -/

/-- The changes of the rows. -/
inductive Effect (env : Environment) (db : DB) : DB → Prop
  | kept : Effect env db db
  | admitted (a : Admission) (hopen : a.state = .open)
      (hid : ∀ b ∈ db.admissions.rows, b.admissionID ≠ a.admissionID)
      (hkey : ∀ b ∈ db.admissions.rows, b.requestKey ≠ a.requestKey) :
      Effect env db { db with admissions := db.admissions.insert a }
  | linked (a : Admission) (recordID : Int) (identityHash : String) (now : Int)
      (ha : db.admissions.get? a.id = some a) (hstate : a.state ≠ .linked)
      (hfree : ∀ d ∈ db.admissions.rows, d.tokenID = a.tokenID → d.kind = a.kind →
        d.linkedRecordID = recordID → d.admissionID = a.admissionID) :
      Effect env db { db with admissions := db.admissions.put (a.link recordID identityHash now) }
  | marked (a : Admission) (reasonCode : String) (now : Int) (ha : db.admissions.get? a.id = some a)
      (hstate : a.state ≠ .linked) :
      Effect env db { db with admissions := db.admissions.put (a.markUnknown reasonCode now) }
  | rotated (token : Token) (key : String) (receipt : Receipt)
      (htoken : db.tokens.get? token.id = some token) (hreceipt : receipt.tokenID = token.id)
      (hnew : db.receipts.get? receipt.operationID = none)
      (hdigest : env.requestDigest receipt.actorID receipt.tokenID
        ⟨receipt.operationID, receipt.previewRevision, true⟩ = .ok receipt.requestDigest)
      (hsettled : ∀ a ∈ db.admissions.rows, a.tokenID = token.id → a.state ≠ .open ∧ a.state ≠ .unknown) :
      Effect env db { db with
        tokens := db.tokens.put { token with key := key, credentialVersion := token.credentialVersion + 1 }
        receipts := db.receipts.set receipt }

section Bodies

variable {env : Environment} {r : Reads} {db db' : DB} {admissionID : String} {call : RotateCall}
  {actorID tokenID : Int} {a : Admission} {blockers : List Blocker} {token : Token}
  {state : RotationState}

theorem createAdmission_effect {candidate : Admission} (hopen : candidate.state = .open)
    (h : createAdmission r db candidate = .ok db') : Effect env db db' := by
  unfold createAdmission at h
  simp only [bind_eq_ok] at h
  obtain ⟨_, -, now, -, _, -, h⟩ := h
  split at h <;> cases h
  · exact .kept
  · next hnew =>
    have hfree : ∀ b ∈ db.admissions.rows,
        b.admissionID ≠ candidate.admissionID ∧ b.requestKey ≠ candidate.requestKey := by
      simpa [any_eq_true, not_or] using hnew
    exact .admitted _ hopen (fun b hb => (hfree b hb).1) (fun b hb => (hfree b hb).2)

variable {result : Admission}

theorem authorizes_ok {u : Unit} (h : authorizes result admissionID = .ok u) :
    result.admissionID = admissionID := by
  unfold authorizes at h
  split at h
  · assumption
  · split at h <;> cases h

/-- A call that may send has found the row of its own id under its request. -/
theorem beginBody_ok {call : BeginCall} {requestHash : String} {v v' : Admission}
    (h : beginBody r call requestHash admissionID db v = (.ok db', v')) :
    Effect env db db' ∧ v'.admissionID = admissionID ∧ v' ∈ db'.admissions.rows ∧
      v'.requestKey = ⟨call.tokenID, call.expectedVersion, call.kind, requestHash⟩ := by
  unfold beginBody at h
  simp only [bind_ok, lift_ok, captured_ok, assign_ok, pure_ok, joining_eq_ok,
    need_eq_ok] at h
  obtain ⟨token, _, ⟨-, -⟩, _, _, ⟨-, -⟩, written, _, ⟨hwritten, -⟩, stale, _, ⟨-, -⟩, _, _, ⟨-, -⟩,
    result, _, ⟨hresult, -⟩, _, _, rfl, _, _, ⟨-, rfl⟩, _, _, ⟨-, rfl⟩, _, _, ⟨hauth, rfl⟩, rfl, rfl⟩ := h
  have hfound := find?_pred hresult
  simp only [Bool.and_eq_true, decide_eq_true_eq] at hfound
  exact ⟨createAdmission_effect rfl hwritten, authorizes_ok hauth, find?_mem hresult, hfound.1⟩

theorem loadDispatchAdmission_ok {userID : Int}
    (h : loadDispatchAdmission r db userID tokenID admissionID = .ok a) :
    a ∈ db.admissions.rows ∧ a.admissionID = admissionID ∧ a.tokenID = tokenID := by
  unfold loadDispatchAdmission at h
  simp only [bind_eq_ok, need_eq_ok, check_eq_ok] at h
  obtain ⟨_, -, _, -, x, hx, _, -, _, ⟨-, htoken⟩, _, -, h⟩ := h
  cases h
  exact ⟨find?_mem hx, by simpa using find?_pred hx, htoken⟩

theorem linkAdmission_effect {call : CompleteCall} {identityHash : String}
    (ha : a ∈ db.admissions.rows) (hid : a.admissionID = call.admissionID)
    (htoken : a.tokenID = call.tokenID) (h : linkAdmission r call db a identityHash = .ok db') :
    Effect env db db' := by
  unfold linkAdmission at h
  simp only [bind_eq_ok, need_eq_ok, check_eq_ok, cas_eq_some] at h
  obtain ⟨_, -, _, hfree, now, -, _, -, _, ⟨x, hx, hguard, rfl⟩, h⟩ := h
  cases h
  cases (get?_of_mem ha).symm.trans hx
  refine .linked a call.linkedRecordID identityHash now hx ?_ ?_
  · intro hlinked
    simp [hlinked] at hguard
  · intro d hd hdt hdk hdr
    have hnone := all_eq_true.mp hfree d hd
    rw [hid]
    by_contra hne
    exact absurd ⟨hdt.trans htoken, hdk, hdr, hne⟩ (of_decide_eq_true hnone)

theorem completeBody_effect {call : CompleteCall} (h : completeBody env r call db = .ok db') :
    Effect env db db' := by
  unfold completeBody at h
  simp only [bind_eq_ok] at h
  obtain ⟨a, ha, identityHash, -, h⟩ := h
  obtain ⟨hmem, hid, htoken⟩ := loadDispatchAdmission_ok ha
  split at h
  · obtain ⟨_, -, h⟩ := bind_eq_ok.mp h
    cases h
    exact .kept
  · cases h
  · exact linkAdmission_effect hmem hid htoken h

theorem markBody_effect {call : MarkCall} (h : markBody r call db = .ok db') : Effect env db db' := by
  unfold markBody at h
  obtain ⟨a, ha, h⟩ := bind_eq_ok.mp h
  obtain ⟨hmem, -, -⟩ := loadDispatchAdmission_ok ha
  split at h
  · cases h
    exact .kept
  · cases h
  · cases h
  · simp only [bind_eq_ok, need_eq_ok, cas_eq_some] at h
    obtain ⟨now, -, _, -, _, ⟨x, hx, hguard, rfl⟩, h⟩ := h
    cases h
    cases (get?_of_mem hmem).symm.trans hx
    refine .marked a call.reasonCode now hx ?_
    intro hlinked
    simp [hlinked] at hguard

/-! ### The conditions of a rotation -/

/-- Some blocker is unknown. -/
def Unknown (blockers : List Blocker) : Prop := ∃ b ∈ blockers, b.state = statusUnknown

theorem Unknown.add (h : Unknown blockers) (code state : String) :
    Unknown (addBlocker blockers code state) := by
  obtain ⟨b, hb, hu⟩ := h
  unfold addBlocker
  split
  · exact ⟨b, hb, hu⟩
  · exact ⟨b, mem_append_left _ hb, hu⟩

theorem unknown_added (blockers : List Blocker) (code : String) :
    Unknown (addBlocker blockers code statusUnknown) := by
  refine ⟨⟨code, statusUnknown⟩, ?_, rfl⟩
  unfold addBlocker
  split
  · assumption
  · simp

/-- No admission takes a blocker away. -/
theorem Unknown.admission (h : Unknown blockers) (token : Token) (a : Admission) :
    Unknown (admissionBlockers env r token blockers a) := by
  unfold admissionBlockers
  split
  · exact h.add _ _
  · split
    · exact h.add _ _
    · exact h.add _ _
    · split
      · exact h
      · split
        · exact h
        · exact h.add _ _
    · exact h.add _ _

theorem unknown_admission (ha : a.state = .open ∨ a.state = .unknown) :
    Unknown (admissionBlockers env r token blockers a) := by
  unfold admissionBlockers
  split
  · exact unknown_added _ _
  · rcases ha with ha | ha <;> rw [ha] <;> exact unknown_added _ _

theorem Unknown.admissions {token : Token} : ∀ {admissions : List Admission} {blockers : List Blocker},
    (Unknown blockers ∨ ∃ a ∈ admissions, a.state = .open ∨ a.state = .unknown) →
      Unknown (admissions.foldl (admissionBlockers env r token) blockers)
  | [], blockers, h => by
    rcases h with h | ⟨a, ha, -⟩
    · exact h
    · exact absurd ha List.not_mem_nil
  | x :: admissions, blockers, h => by
    rw [List.foldl_cons]
    apply Unknown.admissions
    rcases h with h | ⟨a, ha, hstate⟩
    · exact .inl (h.admission token x)
    · rcases List.mem_cons.mp ha with rfl | ha
      · exact .inl (unknown_admission hstate)
      · exact .inr ⟨a, ha, hstate⟩

theorem Unknown.extend (h : Unknown state.blockers) (q : Qualification) :
    Unknown (state.extend q).blockers := by
  exact q.blockers.foldlRecOn _ h fun bs hbs b _ => hbs.add b.code b.state

theorem Unknown.sealed {sealed : RotationState} (h : Unknown state.blockers)
    (hseal : state.seal env actorID = .ok sealed) : Unknown sealed.blockers := by
  have hsorted : Unknown (state.blockers.insertionSort fun a b => a.before b = true) := by
    obtain ⟨b, hb, hu⟩ := h
    exact ⟨b, (mem_insertionSort _).mpr hb, hu⟩
  simp only [RotationState.seal] at hseal
  split at hseal
  · obtain ⟨_, -, hseal⟩ := bind_eq_ok.mp hseal
    cases hseal
    exact hsorted
  · cases hseal
    exact hsorted

variable {now : Int}

/-- An open or unknown admission of the token leaves an unknown blocker in the state. -/
theorem unknown_built {final : Bool} (ha : a ∈ db.admissions.rows)
    (htoken : a.tokenID = token.id) (hstate : a.state = .open ∨ a.state = .unknown)
    (h : buildTokenCredentialRotationState env r final db actorID token now = .ok state) :
    Unknown state.blockers := by
  unfold buildTokenCredentialRotationState at h
  simp only [bind_eq_ok] at h
  obtain ⟨_, -, earlier, -, admitted, hadmitted, later, -, hseal⟩ := h
  refine Unknown.sealed (Unknown.extend ?_ later) hseal
  unfold readTokenCredentialRotationDispatchAdmissions at hadmitted
  split at hadmitted
  · cases hadmitted
    exact unknown_added _ _
  · simp only [bind_eq_ok] at hadmitted
    obtain ⟨_, -, _, -, hadmitted⟩ := hadmitted
    cases hadmitted
    refine Unknown.admissions (.inr ⟨a, mem_filter.mpr ⟨ha, ?_⟩, hstate⟩)
    rcases hstate with hs | hs <;> simp [htoken, hs]

theorem status_unknown (h : Unknown blockers) :
    tokenMaintenanceStatus blockers = statusUnknown := by
  obtain ⟨b, hb, hu⟩ := h
  exact if_pos (any_eq_true.mpr ⟨b, hb, decide_eq_true hu⟩)

theorem qualifyRotation_settled (h : qualifyRotation env r call db token = .ok now)
    (ha : a ∈ db.admissions.rows) (htoken : a.tokenID = token.id) :
    a.state ≠ .open ∧ a.state ≠ .unknown := by
  unfold qualifyRotation at h
  simp only [bind_eq_ok, check_eq_ok] at h
  obtain ⟨_, -, commitNow, -, state, hstate, _, hready, -⟩ := h
  refine ⟨fun hs => ?_, fun hs => ?_⟩
  · exact hready (status_unknown (unknown_built ha htoken (.inl hs) hstate))
  · exact hready (status_unknown (unknown_built ha htoken (.inr hs) hstate))

/-! ### The transaction of a rotation -/

theorem loadTokenMaintenanceOwner_ok
    (h : loadTokenMaintenanceOwner r db actorID tokenID = .ok token) :
    db.tokens.get? tokenID = some token := by
  unfold loadTokenMaintenanceOwner at h
  simp only [bind_eq_ok, need_eq_ok] at h
  obtain ⟨_, -, _, -, _, -, _, -, _, -, x, hx, _, -, h⟩ := h
  cases h
  exact hx

/-- The call has the receipt of its operation: same owner, token and digest. -/
def Receipted (db : DB) (call : RotateCall) (requestDigest : String) : Prop :=
  ∃ receipt, db.receipts.get? call.command.operationID = some receipt ∧ receipt.actorID = call.actorID ∧
    receipt.tokenID = call.tokenID ∧ receipt.requestDigest = requestDigest

variable {operationID : String}

theorem readReceipt_none
    (h : readTokenCredentialRotationReceipt r db actorID tokenID operationID = .ok none) :
    db.receipts.get? operationID = none := by
  unfold readTokenCredentialRotationReceipt at h
  obtain ⟨_, -, h⟩ := bind_eq_ok.mp h
  split at h
  · assumption
  · obtain ⟨_, -, h⟩ := bind_eq_ok.mp h
    cases h

theorem readReceipt_some {receipt : Receipt}
    (h : readTokenCredentialRotationReceipt r db actorID tokenID operationID = .ok (some receipt)) :
    db.receipts.get? operationID = some receipt ∧ receipt.actorID = actorID ∧ receipt.tokenID = tokenID := by
  unfold readTokenCredentialRotationReceipt at h
  obtain ⟨_, -, h⟩ := bind_eq_ok.mp h
  split at h
  · cases h
  · next hget =>
    simp only [bind_eq_ok, check_eq_ok] at h
    obtain ⟨_, howner, h⟩ := h
    cases h
    exact ⟨hget, howner⟩

/-- The rows behind a rotation of the call with the new key. -/
structure Rotates (env : Environment) (db db' : DB) (call : RotateCall) (requestDigest key : String) :
    Prop where
  effect : Effect env db db'
  unused : db.receipts.get? call.command.operationID = none
  receipted : Receipted db' call requestDigest
  stored : ∃ token, db'.tokens.get? call.tokenID = some token ∧ token.key = key

/-- The call was prepared: its digest is that of its confirmed command. -/
structure Prepared (env : Environment) (call : RotateCall) (requestDigest : String) : Prop where
  digest : env.requestDigest call.actorID call.tokenID call.command = .ok requestDigest
  confirmed : call.command.confirmed = true

variable {requestDigest : String}

theorem rotateToken_ok {v v' : RotationVars}
    (hcall : Prepared env call requestDigest) (htoken : db.tokens.get? call.tokenID = some token)
    (hunused : db.receipts.get? call.command.operationID = none)
    (h : rotateToken env r call requestDigest db token v = (.ok db', v')) :
    Rotates env db db' call requestDigest v'.candidateKey ∧ v'.replayed = v.replayed := by
  unfold rotateToken at h
  simp only [bind_ok, lift_ok, captured_ok, assign_ok, pure_ok] at h
  obtain ⟨now, _, ⟨hqualified, rfl⟩, vars, _, ⟨-, rfl⟩, key, _, ⟨-, rfl⟩, _, _, rfl, _, _, ⟨-, rfl⟩,
    updated, _, ⟨hupdated, rfl⟩, _, _, rfl, written, _, ⟨hwritten, rfl⟩, view, _, ⟨-, rfl⟩, _, _, rfl,
    rfl, rfl⟩ := h
  have hid : token.id = call.tokenID := get?_id htoken
  unfold updateTokenKey at hupdated
  simp only [bind_eq_ok, need_eq_ok, cas_eq_some] at hupdated
  obtain ⟨_, -, _, -, _, ⟨x, hx, -, rfl⟩, hupdated⟩ := hupdated
  cases hupdated
  cases htoken.symm.trans (hid ▸ hx)
  unfold createReceipt at hwritten
  simp only [bind_eq_ok, need_eq_ok, create_eq_some] at hwritten
  obtain ⟨_, -, _, ⟨-, rfl⟩, hwritten⟩ := hwritten
  cases hwritten
  have hcommand : (⟨call.command.operationID, call.command.previewRevision, true⟩ : Command) =
      call.command := by
    rw [← hcall.confirmed]
  refine ⟨⟨?_, hunused, ?_, ?_⟩, rfl⟩
  · refine .rotated token key _ hx hid.symm hunused ?_ fun a => qualifyRotation_settled hqualified
    exact hcommand ▸ hcall.digest
  · exact ⟨_, get?_set_self _ _, rfl, rfl, rfl⟩
  · refine ⟨{ token with key := key, credentialVersion := token.credentialVersion + 1 }, ?_, rfl⟩
    rw [← hid]
    exact get?_put_self hx

/-- A transaction that returns has found the receipt of the call, or has written the new key. -/
theorem rotateBody_ok {v v' : RotationVars}
    (hcall : Prepared env call requestDigest)
    (h : rotateBody env r call requestDigest db v = (.ok db', v')) :
    (db' = db ∧ v'.replayed = true ∧ Receipted db call requestDigest) ∨
      (v'.replayed = false ∧ Rotates env db db' call requestDigest v'.candidateKey) := by
  unfold rotateBody at h
  simp only [bind_ok, lift_ok, assign_ok] at h
  obtain ⟨_, _, rfl, token, _, ⟨htoken, rfl⟩, existing, _, ⟨hexisting, rfl⟩, h⟩ := h
  cases existing with
  | none =>
    obtain ⟨hrotates, hreplayed⟩ :=
      rotateToken_ok hcall (loadTokenMaintenanceOwner_ok htoken) (readReceipt_none hexisting) h
    exact .inr ⟨hreplayed, hrotates⟩
  | some receipt =>
    simp only [replayRotation, bind_ok, lift_ok, assign_ok, pure_ok, check_eq_ok] at h
    obtain ⟨_, _, ⟨hdigest, rfl⟩, view, _, ⟨-, rfl⟩, _, _, rfl, rfl, rfl⟩ := h
    obtain ⟨hget, hactor, htoken⟩ := readReceipt_some hexisting
    exact .inl ⟨rfl, rfl, receipt, hget, hactor, htoken, hdigest⟩

end Bodies

/-! ### What every change of the rows keeps -/

/-- The number of rotations of a token. -/
def rotations (db : DB) (tokenID : Int) : Int := db.receipts.sum fun r => if r.tokenID = tokenID then 1 else 0

/-- The invariant of the rows since `db₀`. -/
structure Rows (env : Environment) (db₀ db : DB) : Prop where
  ids : db.admissions.UniqueOn Admission.admissionID
  keys : db.admissions.UniqueOn Admission.requestKey
  links : ∀ a ∈ db.admissions.rows, ∀ b ∈ db.admissions.rows, a.state = .linked → b.state = .linked →
    a.tokenID = b.tokenID → a.kind = b.kind → a.linkedRecordID = b.linkedRecordID → a = b
  versions : ∀ i t₀, db₀.tokens.get? i = some t₀ → ∃ t, db.tokens.get? i = some t ∧
    t.credentialVersion = t₀.credentialVersion + rotations db i
  digests : ∀ r ∈ db.receipts.rows, env.requestDigest r.actorID r.tokenID
    ⟨r.operationID, r.previewRevision, true⟩ = .ok r.requestDigest

section Effects

variable {env : Environment} {db₀ db db' : DB} {receipt : Receipt} {a : Admission}

theorem rotations_set (hnew : db.receipts.get? receipt.operationID = none) (tokens : Table Token)
    (i : Int) :
    rotations { db with tokens := tokens, receipts := db.receipts.set receipt } i =
      rotations db i + if receipt.tokenID = i then 1 else 0 := by
  have hnone : db.receipts.get? (Keyed.key receipt) = none := hnew
  show (db.receipts.set receipt).sum _ = _
  rw [Store.sum_set, hnone]
  simp [rotations]

/-- A replaced admission keeps links apart when it is the only one with its link. -/
theorem links_put (hrows : Rows env db₀ db)
    (hfree : a.state = .linked → ∀ d ∈ db.admissions.rows, d.tokenID = a.tokenID → d.kind = a.kind →
      d.linkedRecordID = a.linkedRecordID → d.id = a.id) :
    ∀ x ∈ (db.admissions.put a).rows, ∀ y ∈ (db.admissions.put a).rows, x.state = .linked →
      y.state = .linked → x.tokenID = y.tokenID → x.kind = y.kind → x.linkedRecordID = y.linkedRecordID →
      x = y := by
  intro x hx y hy hxl hyl ht hk hr
  rcases mem_put hx with rfl | ⟨hx', hxne⟩ <;> rcases mem_put hy with rfl | ⟨hy', hyne⟩
  · rfl
  · exact absurd (hfree hxl y hy' ht.symm hk.symm hr.symm) hyne
  · exact absurd (hfree hyl x hx' ht hk hr) hxne
  · exact hrows.links x hx' y hy' hxl hyl ht hk hr

section

variable (h : Effect env db db')
include h

theorem Effect.rows (hrows : Rows env db₀ db) : Rows env db₀ db' := by
  cases h with
  | kept => exact hrows
  | admitted a hopen hid hkey =>
    refine ⟨hrows.ids.insert hid, hrows.keys.insert hkey, ?_, hrows.versions, hrows.digests⟩
    intro x hx y hy hxl hyl
    rcases mem_insert.mp hx with hx | rfl
    · rcases mem_insert.mp hy with hy | rfl
      · exact hrows.links x hx y hy hxl hyl
      · cases hopen.symm.trans hyl
    · cases hopen.symm.trans hxl
  | linked a recordID identityHash now ha hstate hfree =>
    refine ⟨hrows.ids.put ha rfl, hrows.keys.put ha rfl, ?_, hrows.versions, hrows.digests⟩
    refine links_put hrows fun _ d hd hdt hdk hdr => ?_
    rw [hrows.ids d hd a (get?_mem ha) (hfree d hd hdt hdk hdr)]
    rfl
  | marked a reasonCode now ha hstate =>
    refine ⟨hrows.ids.put ha rfl, hrows.keys.put ha rfl, ?_, hrows.versions, hrows.digests⟩
    exact links_put hrows nofun
  | rotated token key receipt htoken hreceipt hnew hdigest hsettled =>
    refine ⟨hrows.ids, hrows.keys, hrows.links, ?_, ?_⟩
    · intro i t₀ ht₀
      obtain ⟨t, ht, hversion⟩ := hrows.versions i t₀ ht₀
      rw [rotations_set hnew, hreceipt]
      by_cases hi : token.id = i
      · subst hi
        cases htoken.symm.trans ht
        refine ⟨_, get?_put_self (r := { token with
          key := key, credentialVersion := token.credentialVersion + 1 }) htoken, ?_⟩
        show token.credentialVersion + 1 = _
        omega
      · refine ⟨t, (get?_put_of_ne (Ne.symm hi)).trans ht, ?_⟩
        omega
    · intro r hr
      rcases mem_set.mp hr with rfl | ⟨hr, -⟩
      · exact hdigest
      · exact hrows.digests r hr

/-- An admission keeps its id and its request, and a linked one stays as it is. -/
theorem Effect.identified (ha : a ∈ db.admissions.rows) :
    ∃ a' ∈ db'.admissions.rows, a'.admissionID = a.admissionID ∧ a'.requestKey = a.requestKey ∧
      (a.state = .linked → a' = a) := by
  have replaced : ∀ {x x' : Admission}, db.admissions.get? x.id = some x → x.state ≠ .linked → x'.id = x.id →
      x'.admissionID = x.admissionID → x'.requestKey = x.requestKey →
      ∃ a' ∈ (db.admissions.put x').rows, a'.admissionID = a.admissionID ∧ a'.requestKey = a.requestKey ∧
        (a.state = .linked → a' = a) := by
    intro x x' hx hstate hid hadmission hkey
    have hstored : db.admissions.get? (Row.id x') = some x := (congrArg _ hid).trans hx
    rcases mem_put_or hstored ha with rfl | ha
    · exact ⟨x', mem_put_self hstored, hadmission, hkey, fun hlinked => absurd hlinked hstate⟩
    · exact ⟨a, ha, rfl, rfl, fun _ => rfl⟩
  cases h with
  | kept | rotated => exact ⟨a, ha, rfl, rfl, fun _ => rfl⟩
  | admitted x => exact ⟨a, mem_insert.mpr (.inl ha), rfl, rfl, fun _ => rfl⟩
  | linked _ _ _ _ hx hstate | marked _ _ _ hx hstate => exact replaced hx hstate rfl rfl rfl

theorem Effect.receipt_kept
    (hr : db.receipts.get? operationID = some receipt) :
    db'.receipts.get? operationID = some receipt := by
  cases h with
  | rotated token key new _ _ hnew =>
    refine (get?_set_of_ne ?_).trans hr
    rintro rfl
    cases hnew.symm.trans hr
  | _ => exact hr

/-- A new receipt finds no admission of its token open or unknown. -/
theorem Effect.settled (hr : receipt ∈ db'.receipts.rows)
    (hnew : receipt ∉ db.receipts.rows) :
    db'.admissions = db.admissions ∧
      ∀ a ∈ db.admissions.rows, a.tokenID = receipt.tokenID → a.state ≠ .open ∧ a.state ≠ .unknown := by
  cases h with
  | rotated token key new _ hreceipt _ _ hsettled =>
    rcases mem_set.mp hr with rfl | ⟨hold, -⟩
    · exact ⟨rfl, fun a ha htoken => hsettled a ha (htoken.trans hreceipt)⟩
    · exact absurd hold hnew
  | _ => exact absurd hr hnew

end

end Effects

/-! ### What a call knows, and its tickets -/

/-- The request of a call is stored under an admission id. -/
def Admitted (db : DB) (call : BeginCall) (requestHash admissionID : String) : Prop :=
  ∃ a ∈ db.admissions.rows, a.admissionID = admissionID ∧
    a.requestKey = ⟨call.tokenID, call.expectedVersion, call.kind, requestHash⟩

/-- What holds of the rows where a call stands. -/
def Known (env : Environment) (w : World) : Phase → Prop
  | .beginning call requestHash admissionID _ _ =>
    tokenCredentialDispatchRequestIdentityHash env call.requestIdentity = .ok requestHash ∧
      admissionID ∈ w.drawn
  | .begun call requestHash reply =>
    tokenCredentialDispatchRequestIdentityHash env call.requestIdentity = .ok requestHash ∧
      ∀ x, reply = .begun x none →
        ∃ a, x = some a ∧ a.admissionID ∈ w.drawn ∧ Admitted w.db call requestHash a.admissionID
  | .loading call d => Prepared env call d
  | .looking call d => Prepared env call d
  | .locking call d => Prepared env call d
  | .rotating call d _ _ => Prepared env call d
  | .reviewing call d _ => Prepared env call d
  | .publishing call d _ _ => Prepared env call d ∧ Receipted w.db call d
  | .rotated call d reply => Prepared env call d ∧ ∀ view secret replayed error,
      reply = .rotation view secret replayed error → error = none ∨ secret ≠ "" → Receipted w.db call d
  | _ => True

/-- The admission id of a call that may still send, or may have sent. -/
def Phase.admissionID? : Phase → Option String
  | .beginning _ _ admissionID _ _ => some admissionID
  | .begun _ _ (.begun (some a) none) => some a.admissionID
  | _ => none

/-- The secret that a call is about to return or has returned, with the call. -/
def Phase.secret? : Phase → Option (RotateCall × String)
  | .publishing call _ vars _ => some (call, vars.candidateKey)
  | .rotated call _ (.rotation _ secret _ _) => if secret = "" then none else some (call, secret)
  | _ => none

section Actions

variable {env : Environment} {w w' : World} {db : DB} {call : RotateCall} {d requestHash : String}
  {l l' : Phase} {c : Choice} {vars : RotationVars} {db' : DB}

theorem Receipted.kept (h : Receipted db call d) (heffect : Effect env db db') :
    Receipted db' call d := by
  obtain ⟨receipt, hr, hrest⟩ := h
  exact ⟨receipt, heffect.receipt_kept hr, hrest⟩

variable {admissionID : String}

theorem Admitted.kept {call : BeginCall}
    (h : Admitted db call requestHash admissionID) (heffect : Effect env db db') :
    Admitted db' call requestHash admissionID := by
  obtain ⟨a, ha, hid, hkey⟩ := h
  obtain ⟨a', ha', hid', hkey', -⟩ := heffect.identified ha
  exact ⟨a', ha', hid'.trans hid, hkey'.trans hkey⟩

/-- What a call knows survives the actions of the others. -/
theorem Known.kept (h : Known env w l) (heffect : Effect env w.db w'.db)
    (hdrawn : w.drawn ⊆ w'.drawn) : Known env w' l := by
  cases l with
  | beginning call requestHash admissionID left result => exact ⟨h.1, hdrawn h.2⟩
  | begun call requestHash reply =>
    refine ⟨h.1, fun x hx => ?_⟩
    obtain ⟨a, ha, hmem, hadmitted⟩ := h.2 x hx
    exact ⟨a, ha, hdrawn hmem, hadmitted.kept heffect⟩
  | publishing call d vars view => exact ⟨h.1, h.2.kept heffect⟩
  | rotated call d reply =>
    exact ⟨h.1, fun view secret replayed error hreply hok =>
      (h.2 view secret replayed error hreply hok).kept heffect⟩
  | _ => exact h

/-- What an action of a call does. -/
structure Acted (env : Environment) (w : World) (l : Phase) (w' : World) (l' : Phase) : Prop where
  drawn : w'.drawn = w.drawn
  effect : Effect env w.db w'.db
  known : Known env w' l'
  admission : ∀ a, l'.admissionID? = some a → l.admissionID? = some a
  secret : ∀ call key, l'.secret? = some (call, key) →
    l.secret? = some (call, key) ∨ ∃ d, Rotates env w.db w'.db call d key

/-- An action that reads. -/
theorem acted_read (hknown : Known env w l')
    (hadmission : ∀ a, l'.admissionID? = some a → l.admissionID? = some a)
    (hsecret : ∀ call key, l'.secret? = some (call, key) → l.secret? = some (call, key)) :
    Acted env w l w l' :=
  ⟨rfl, .kept, hknown, hadmission, fun call key h => .inl (hsecret call key h)⟩

/-- A rotation that ends without a secret. -/
theorem acted_rotated {view : Option OperationView} {replayed : Bool} {error : Option Error}
    (heffect : Effect env w.db db) (hcall : Prepared env call d)
    (hreceipted : error = none → Receipted db call d) :
    Acted env w l { w with db := db } (.rotated call d (.rotation view "" replayed error)) := by
  refine ⟨rfl, heffect, ⟨hcall, ?_⟩, nofun, ?_⟩
  · intro view' secret replayed' error' hreply hok
    cases hreply
    exact hreceipted (hok.resolve_right fun hne => hne rfl)
  · intro call' key hkey
    simp [secret?] at hkey

theorem acted_refusal (hcall : Prepared env call d) (e : Error) :
    Acted env w l w (.rotated call d (refusal e)) := acted_rotated .kept hcall nofun

variable {left : Nat}

/-- An attempt of a transaction without captured variables. -/
theorem stepPlain_acted {body : Except Error DB} {again : Phase}
    (h : stepPlain env w c body left again = (w', l'))
    (hbody : ∀ db', body = .ok db' → Effect env w.db db') (hknown : ∀ w', Known env w' again)
    (hadmission : again.admissionID? = none) (hsecret : again.secret? = none) :
    Acted env w l w' l' := by
  unfold stepPlain at h
  have heffect : ∀ {verdict : Verdict Error} {db : DB} {u : Unit},
      attempt env.retryable left c.circumstances (lift body) w.db () = (verdict, db, u) →
      Effect env w.db db := by
    intro verdict db u hatt
    cases attempt_attempted hatt with
    | acknowledged hb | unanswered hb => exact hbody _ (lift_ok.mp hb).1
    | undone => exact .kept
  split at h <;> cases h
  · next hatt =>
    refine ⟨rfl, heffect hatt, hknown _, ?_, ?_⟩
    · intro a ha
      rw [hadmission] at ha
      cases ha
    · intro call key hkey
      rw [hsecret] at hkey
      cases hkey
  · next hatt =>
    exact ⟨rfl, heffect hatt, trivial, nofun, nofun⟩
  · next hatt =>
    exact ⟨rfl, heffect hatt, trivial, nofun, nofun⟩

variable {e : Error}

/-- A call that must not send. -/
theorem acted_unbegun {call : BeginCall} {x : Option Admission}
    (heffect : Effect env w.db db)
    (hhash : tokenCredentialDispatchRequestIdentityHash env call.requestIdentity = .ok requestHash) :
    Acted env w l { w with db := db } (.begun call requestHash (.begun x (some e))) := by
  refine ⟨rfl, heffect, ⟨hhash, fun y hy => ?_⟩, fun a ha => ?_, fun call key hs => ?_⟩
  · cases hy
  · cases x <;> cases ha
  · cases hs

theorem stepBeginning_acted {call : BeginCall}
    (hknown : Known env w (.beginning call requestHash admissionID left result))
    (h : stepBeginning env w c call requestHash admissionID left result = (w', l')) :
    Acted env w (.beginning call requestHash admissionID left result) w' l' := by
  unfold stepBeginning at h
  split at h <;> cases h
  · next db result' hatt =>
    have heffect : Effect env w.db db := by
      cases attempt_attempted hatt with
      | unanswered hb => exact (beginBody_ok hb).1
      | undone => exact .kept
    exact ⟨rfl, heffect, hknown, fun a ha => ha, nofun⟩
  · next r db result' hatt =>
    cases attempt_attempted hatt with
    | acknowledged hb =>
      obtain ⟨heffect, hid, hmem, hkey⟩ := beginBody_ok hb
      refine ⟨rfl, heffect, ⟨hknown.1, ?_⟩, ?_, nofun⟩
      · intro x hx
        cases hx
        exact ⟨result', rfl, hid ▸ hknown.2, result', hmem, rfl, hkey⟩
      · intro a ha
        cases ha
        exact congrArg some hid.symm
    | unanswered hb hv =>
      cases r with
      | ok u => exact absurd rfl hv
      | error e => exact acted_unbegun (beginBody_ok hb).1 hknown.1
    | undone hv =>
      cases r with
      | ok u => exact absurd rfl hv
      | error e => exact acted_unbegun .kept hknown.1

section

variable (hcall : Prepared env call d)
include hcall

/-- Behind a new rotation the call holds the new key, or gives up. -/
theorem acted_afterRotation (hreplayed : vars.replayed = false)
    (h : Rotates env w.db db call d vars.candidateKey) :
    Acted env w l { w with db := db } (afterRotation call d vars) := by
  have refused : Acted env w l { w with db := db } (.rotated call d (refusal .outcomeUnknown)) :=
    acted_rotated h.effect hcall nofun
  rw [afterRotation, if_neg (by rw [hreplayed]; nofun)]
  split
  · exact refused
  · split
    · exact refused
    · refine ⟨rfl, h.effect, ⟨hcall, h.receipted⟩, nofun, ?_⟩
      intro call' key hkey
      cases hkey
      exact .inr ⟨d, h⟩

theorem acted_afterFailure (heffect : Effect env w.db db) :
    Acted env w l { w with db := db } (afterFailure call d vars e) := by
  unfold afterFailure
  split
  · exact ⟨rfl, heffect, hcall, nofun, nofun⟩
  · exact acted_rotated heffect hcall nofun

/-- An attempt of a rotation: what the call knows behind it, and the secret that it then holds. -/
theorem stepRotating_acted
    (h : stepRotating env w c call d left vars = (w', l')) :
    Acted env w (.rotating call d left vars) w' l' := by
  unfold stepRotating at h
  have heffect : ∀ {vars' : RotationVars} {db : DB},
      rotateBody env c.reads call d w.db vars = (.ok db, vars') → Effect env w.db db := by
    intro vars' db hb
    rcases rotateBody_ok hcall hb with ⟨rfl, -, -⟩ | ⟨-, hrotates⟩
    · exact .kept
    · exact hrotates.effect
  split at h <;> cases h
  · next db vars' hatt =>
    cases attempt_attempted hatt with
    | unanswered hb => exact ⟨rfl, heffect hb, hcall, nofun, nofun⟩
    | undone => exact ⟨rfl, .kept, hcall, nofun, nofun⟩
  · next db vars' hatt =>
    cases attempt_attempted hatt with
    | unanswered _ hv | undone hv => exact absurd rfl hv
    | acknowledged hb =>
      rcases rotateBody_ok hcall hb with ⟨rfl, hreplayed, hreceipted⟩ | ⟨hreplayed, hrotates⟩
      · rw [afterRotation, if_pos hreplayed]
        exact acted_rotated .kept hcall fun _ => hreceipted
      · exact acted_afterRotation hcall hreplayed hrotates
  · next e db vars' hatt =>
    cases attempt_attempted hatt with
    | unanswered hb => exact acted_afterFailure hcall (heffect hb)
    | undone => exact acted_afterFailure hcall .kept

/-- An operation that has its receipt is not rotated again. -/
theorem stepRotating_replayed
    (hreceipt : w.db.receipts.get? call.command.operationID ≠ none)
    (h : stepRotating env w c call d left vars = (w', l')) : w'.db = w.db := by
  have hkept : ∀ {verdict : Verdict Error} {db : DB} {vars' : RotationVars},
      attempt env.retryable left c.circumstances (rotateBody env c.reads call d w.db) w.db vars =
        (verdict, db, vars') → db = w.db := by
    intro verdict db vars' hatt
    have replay : ∀ {v : RotationVars}, rotateBody env c.reads call d w.db vars = (.ok db, v) → db = w.db := by
      intro v hb
      rcases rotateBody_ok hcall hb with ⟨hdb, -, -⟩ | ⟨-, hrotates⟩
      · exact hdb
      · exact absurd hrotates.unused hreceipt
    cases attempt_attempted hatt with
    | acknowledged hb | unanswered hb => exact replay hb
    | undone => rfl
  unfold stepRotating at h
  split at h <;> cases h <;> exact hkept ‹_›

theorem lookForReceipt_acted {r : Reads} :
    Acted env w l w (lookForReceipt r w call d) := by
  unfold lookForReceipt
  split
  · exact acted_refusal hcall _
  · exact acted_read hcall nofun nofun
  · next existing hread =>
    obtain ⟨hget, hactor, htoken⟩ := readReceipt_some hread
    split
    · exact acted_refusal hcall _
    · next hdigest =>
      split
      · exact acted_rotated .kept hcall fun _ => ⟨existing, hget, hactor, htoken, not_ne_iff.mp hdigest⟩
      · exact acted_rotated .kept hcall nofun

end

theorem stepCall_acted (hknown : Known env w l) (h : stepCall env w l c = some (w', l')) :
    Acted env w l w' l' := by
  cases l with
  | beginning call requestHash admissionID left result =>
    exact stepBeginning_acted hknown (Option.some.inj h)
  | completing call left =>
    exact stepPlain_acted (Option.some.inj h) (fun _ => completeBody_effect) (fun _ => trivial) rfl rfl
  | marking call left =>
    exact stepPlain_acted (Option.some.inj h) (fun _ => markBody_effect) (fun _ => trivial) rfl rfl
  | loading | locking =>
    simp only [stepCall] at h
    split at h <;> cases h
    · exact acted_refusal hknown _
    · exact acted_read hknown nofun nofun
  | looking call d =>
    cases h
    exact lookForReceipt_acted hknown
  | rotating call d left vars => exact stepRotating_acted hknown (Option.some.inj h)
  | reviewing call d e =>
    cases h
    exact acted_refusal hknown _
  | publishing call d vars view =>
    simp only [stepCall] at h
    split at h <;> cases h
    · exact acted_refusal hknown.1 _
    · refine acted_read ⟨hknown.1, fun _ _ _ _ _ _ => hknown.2⟩ nofun ?_
      intro call' key hkey
      simp only [secret?] at hkey ⊢
      split at hkey
      · cases hkey
      · exact hkey
  | begun call requestHash reply => cases h
  | finished reply => cases h
  | rotated call d reply => cases h

/-- What the first action of a call does. -/
structure Started (env : Environment) (w w' : World) (l : Phase) : Prop where
  db : w'.db = w.db
  drawn : w.drawn ⊆ w'.drawn
  known : Known env w' l
  admission : ∀ a, l.admissionID? = some a → a ∉ w.drawn
  secret : l.secret? = none

/-- A call that fails its checks. -/
theorem started_finished (reply : Reply) : Started env w w (.finished reply) :=
  ⟨rfl, fun _ h => h, trivial, nofun, rfl⟩

theorem startCall_started {call : Call} (h : startCall env w call = some (w', l)) :
    Started env w w' l := by
  cases call with
  | begin call random =>
    simp only [startCall] at h
    split at h
    · cases h
      exact started_finished _
    · cases h
      exact started_finished _
    · next requestHash admissionID hchecked =>
      split at h <;> cases h
      next hfresh =>
        obtain ⟨_, -, hhash⟩ := bind_eq_ok.mp hchecked
        refine ⟨rfl, subset_cons_self _ _, ⟨hhash, mem_cons_self⟩, ?_, rfl⟩
        intro a ha
        cases ha
        exact hfresh
  | complete | mark =>
    simp only [startCall] at h
    split at h <;> cases h
    · exact started_finished _
    · exact ⟨rfl, fun _ h => h, trivial, fun _ ha => (by cases ha), rfl⟩
  | rotate call =>
    simp only [startCall] at h
    split at h <;> cases h
    · exact started_finished _
    · next hchecked =>
      simp only [bind_eq_ok, check_eq_ok] at hchecked
      obtain ⟨_, ⟨-, -, -, hconfirmed⟩, hdigest⟩ := hchecked
      exact ⟨rfl, fun _ h => h, ⟨hdigest, hconfirmed⟩, fun _ ha => (by cases ha), rfl⟩

end Actions

/-! ### Runs -/

/-- The operation whose secret a call holds. -/
def Phase.operation? (l : Phase) : Option String := l.secret?.map fun s => s.1.command.operationID

/-- The invariant of all calls: the rows, what each call knows, and tickets that are held once. -/
structure Sound (env : Environment) (db₀ : DB) (c : Config World Phase) : Prop where
  rows : Rows env db₀ c.shared.db
  known : ∀ l ∈ c.locals, Known env c.shared l
  admissions : (c.locals.filterMap Phase.admissionID?).Nodup
  secrets : (c.locals.filterMap Phase.operation?).Nodup

section Runs

variable {env : Environment} {db₀ : DB} {c c' : Config World Phase} {mv : Move Choice Call}
  {w : World} {l : Phase}

theorem Known.drawn {a : String} (h : Known env w l) (ha : l.admissionID? = some a) :
    a ∈ w.drawn := by
  cases l with
  | beginning call requestHash admissionID left result =>
    cases ha
    exact h.2
  | begun call requestHash reply =>
    cases reply with
    | begun x e =>
      cases x with
      | none => cases ha
      | some x =>
        cases e with
        | some e => cases ha
        | none =>
          cases ha
          obtain ⟨y, hy, hmem, -⟩ := h.2 (some x) rfl
          cases hy
          exact hmem
    | finished e => cases ha
    | rotation view secret replayed e => cases ha
  | _ => cases ha

theorem Known.receipted {call : RotateCall} {key : String} (h : Known env w l)
    (hs : l.secret? = some (call, key)) : ∃ d, Receipted w.db call d := by
  cases l with
  | publishing call' d vars view =>
    cases hs
    exact ⟨d, h.2⟩
  | rotated call' d reply =>
    cases reply with
    | rotation view secret replayed e =>
      simp only [secret?] at hs
      split at hs <;> cases hs
      next hne => exact ⟨d, h.2 view key replayed e rfl (.inr hne)⟩
    | begun x e => cases hs
    | finished e => cases hs
  | _ => cases hs

/-- Whoever holds the secret of an operation knows its receipt. -/
theorem Sound.operation (hc : Sound env db₀ c)
    (h : operationID ∈ c.locals.filterMap Phase.operation?) :
    c.shared.db.receipts.get? operationID ≠ none := by
  obtain ⟨l, hl, hop⟩ := mem_filterMap.mp h
  obtain ⟨⟨call, key⟩, hs, rfl⟩ := Option.map_eq_some_iff.mp hop
  obtain ⟨d, receipt, hr, -⟩ := (hc.known l hl).receipted hs
  intro hnone
  cases hnone.symm.trans hr

theorem Sound.steps (hc : Sound env db₀ c) (h : (machine env).Steps c mv c') :
    Sound env db₀ c' := by
  cases h with
  | @start call w l hstart =>
    have hs : Started env c.shared w l := startCall_started hstart
    have heffect : Effect env c.shared.db w.db := hs.db ▸ .kept
    refine ⟨heffect.rows hc.rows, ?_, ?_, ?_⟩
    · intro x hx
      rcases mem_append.mp hx with hx | hx
      · exact (hc.known x hx).kept heffect hs.drawn
      · obtain rfl := mem_singleton.mp hx
        exact hs.known
    · refine Machine.nodup_tickets_append hc.admissions fun a ha hmem => ?_
      obtain ⟨x, hx, hxa⟩ := mem_filterMap.mp hmem
      exact hs.admission a ha ((hc.known x hx).drawn hxa)
    · refine Machine.nodup_tickets_append hc.secrets fun a ha => ?_
      rw [operation?, hs.secret] at ha
      cases ha
  | @act k e w l l' hk hact =>
    have hl := mem_of_getElem? hk
    have ha : Acted env c.shared l w l' := stepCall_acted (hc.known l hl) hact
    refine ⟨ha.effect.rows hc.rows, ?_, ?_, ?_⟩
    · intro x hx
      rcases mem_or_eq_of_mem_set hx with hx | rfl
      · exact (hc.known x hx).kept ha.effect (ha.drawn ▸ fun _ h => h)
      · exact ha.known
    · exact Machine.nodup_tickets_set hc.admissions hk fun a hmem => .inl (ha.admission a hmem)
    · refine Machine.nodup_tickets_set hc.secrets hk fun operationID hmem => ?_
      obtain ⟨⟨call, key⟩, hs, rfl⟩ := Option.map_eq_some_iff.mp hmem
      rcases ha.secret call key hs with hold | ⟨d, hrotates⟩
      · exact .inl (by rw [operation?, hold]; rfl)
      · exact .inr fun hheld => hc.operation hheld hrotates.unused

/-- A step of the run that wrote the receipt of the call's operation and stored the key. -/
structure Commits (env : Environment) (c c' : Config World Phase) (call : RotateCall) (key : String) :
    Prop where
  step : ∃ mv, (machine env).step c mv = some c'
  unused : c.shared.db.receipts.get? call.command.operationID = none
  written : ∃ r, c'.shared.db.receipts.get? call.command.operationID = some r ∧ r.tokenID = call.tokenID
  stored : ∃ token, c'.shared.db.tokens.get? call.tokenID = some token ∧ token.key = key

/-- The run from `c₀` to `c` went through such a step. -/
def Committed (env : Environment) (c₀ c : Config World Phase) (call : RotateCall) (key : String) : Prop :=
  ∃ c₁ c₂, (machine env).Reaches c₀ c₁ ∧ Commits env c₁ c₂ call key ∧ (machine env).Reaches c₂ c

theorem reaches_step {m : Machine World Phase Choice Call} (h : m.step c mv = some c') :
    m.Reaches c c' :=
  ⟨[mv], run_cons_eq_some.mpr ⟨c', h, rfl⟩⟩

variable {c₀ : Config World Phase}

/-- Every secret that is held was committed. -/
def Held (env : Environment) (c₀ c : Config World Phase) : Prop :=
  ∀ l ∈ c.locals, ∀ call key, l.secret? = some (call, key) → Committed env c₀ c call key

theorem Held.steps (hheld : Held env c₀ c) (hc : Sound env db₀ c) (hreach : (machine env).Reaches c₀ c)
    (h : (machine env).step c mv = some c') : Held env c₀ c' := by
  have hstep := reaches_step h
  have old : ∀ l ∈ c.locals, ∀ call key, l.secret? = some (call, key) → Committed env c₀ c' call key := by
    intro l hl call key hs
    obtain ⟨c₁, c₂, h₁, hcommits, h₂⟩ := hheld l hl call key hs
    exact ⟨c₁, c₂, h₁, hcommits, h₂.trans hstep⟩
  cases Machine.step_steps h with
  | @start job w l hstart =>
    intro x hx call key hs
    rcases mem_append.mp hx with hx | hx
    · exact old x hx call key hs
    · obtain rfl := mem_singleton.mp hx
      have hnone : x.secret? = none := (startCall_started hstart).secret
      rw [hnone] at hs
      cases hs
  | @act k e w l l' hk hact =>
    have hl := mem_of_getElem? hk
    have ha : Acted env c.shared l w l' := stepCall_acted (hc.known l hl) hact
    intro x hx call key hs
    rcases mem_or_eq_of_mem_set hx with hx | rfl
    · exact old x hx call key hs
    · rcases ha.secret call key hs with hheld | ⟨d, hrotates⟩
      · exact old l hl call key hheld
      · obtain ⟨receipt, hr, -, htoken, -⟩ := hrotates.receipted
        exact ⟨c, _, hreach, ⟨⟨_, h⟩, hrotates.unused, ⟨receipt, hr, htoken⟩, hrotates.stored⟩,
          Machine.Reaches.refl _⟩

/-- No call has been made on these tokens. -/
def initial (tokens : Table Token) : Config World Phase := ⟨{ db := { tokens := tokens } }, []⟩

theorem sound_initial (tokens : Table Token) : Sound env { tokens := tokens } (initial tokens) where
  rows :=
    { ids := uniqueOn_empty _
      keys := uniqueOn_empty _
      links := fun _ ha => absurd ha not_mem_nil
      versions := fun _ t₀ ht₀ => ⟨t₀, ht₀, (add_zero _).symm⟩
      digests := fun _ hr => absurd hr not_mem_nil }
  known := fun _ hl => absurd hl not_mem_nil
  admissions := nodup_nil
  secrets := nodup_nil

theorem reaches_sound {tokens : Table Token} (h : (machine env).Reaches (initial tokens) c) :
    Sound env { tokens := tokens } c ∧ Held env (initial tokens) c := by
  obtain ⟨moves, hrun⟩ := h
  have hinv := run_invariant
    (fun c => (machine env).Reaches (initial tokens) c ∧ Sound env { tokens := tokens } c ∧
      Held env (initial tokens) c)
    (fun c mv c' hc hstep => ⟨hc.1.trans (reaches_step hstep), hc.2.1.steps (Machine.step_steps hstep),
      hc.2.2.steps hc.2.1 hc.1 hstep⟩) moves (initial tokens) c
    ⟨Machine.Reaches.refl _, sound_initial tokens, fun _ hl => absurd hl not_mem_nil⟩ hrun
  exact hinv.2

/-- Process `i` is a `Begin` call that returned without an error. -/
def Sends (c : Config World Phase) (i : Nat) (call : BeginCall) : Prop :=
  ∃ requestHash admission, c.locals[i]? = some (Phase.begun call requestHash (.begun admission none))

/-- Process `i` is a rotation that returned these values. -/
def Returns (c : Config World Phase) (i : Nat) (call : RotateCall) (view : Option OperationView)
    (secret : String) (replayed : Bool) (error : Option Error) : Prop :=
  ∃ d, c.locals[i]? = some (Phase.rotated call d (.rotation view secret replayed error))

/-- Process `i` is a rotation that returned a secret. -/
def Reveals (c : Config World Phase) (i : Nat) (call : RotateCall) (secret : String) : Prop :=
  secret ≠ "" ∧ ∃ view replayed error, Returns c i call view secret replayed error

/-- What holds of the calls and rows that a run from `c₀` has reached. -/
structure Exclusive (env : Environment) (c₀ c : Config World Phase) : Prop where
  /-- One `Begin` call at most is let through per token, version, kind and request. -/
  begun_once : ∀ i j call call', Sends c i call → Sends c j call' → call.tokenID = call'.tokenID →
    call.expectedVersion = call'.expectedVersion → call.kind = call'.kind →
    call.requestIdentity = call'.requestIdentity → i = j
  /-- A record is linked to one admission of a token and kind at most. -/
  linked_once : ∀ a ∈ c.shared.db.admissions.rows, ∀ b ∈ c.shared.db.admissions.rows,
    a.state = .linked → b.state = .linked → a.tokenID = b.tokenID → a.kind = b.kind →
    a.linkedRecordID = b.linkedRecordID → a = b
  /-- An operation has one receipt at most. -/
  receipt_once : ∀ r ∈ c.shared.db.receipts.rows, ∀ r' ∈ c.shared.db.receipts.rows,
    r.operationID = r'.operationID → r = r'
  /-- The credential version counts the receipts of the token. -/
  version : ∀ i t₀, c₀.shared.db.tokens.get? i = some t₀ → ∃ t, c.shared.db.tokens.get? i = some t ∧
    t.credentialVersion = t₀.credentialVersion + rotations c.shared.db i
  /-- The secret of an operation is returned by one call at most, -/
  secret_once : ∀ i j call call' secret secret', Reveals c i call secret → Reveals c j call' secret' →
    call.command.operationID = call'.command.operationID → i = j
  /-- and it is the key that the operation's own transaction stored. -/
  secret_stored : ∀ i call secret, Reveals c i call secret → Committed env c₀ c call secret
  /-- A rotation that returns without an error has the content of the operation's receipt. -/
  content : ∀ i call view secret replayed, Returns c i call view secret replayed none →
    ∃ r ∈ c.shared.db.receipts.rows, r.operationID = call.command.operationID ∧ r.actorID = call.actorID ∧
      r.tokenID = call.tokenID ∧
      env.requestDigest call.actorID call.tokenID call.command = .ok r.requestDigest ∧
      env.requestDigest r.actorID r.tokenID ⟨r.operationID, r.previewRevision, true⟩ = .ok r.requestDigest

/-- What holds of one further step. -/
structure Orderly (c : Config World Phase) (mv : Move Choice Call) (c' : Config World Phase) : Prop where
  /-- A linked admission does not change. -/
  linked : ∀ a ∈ c.shared.db.admissions.rows, a.state = .linked → a ∈ c'.shared.db.admissions.rows
  /-- A rotation that commits finds no admission of its token open or unknown, and leaves none. -/
  settled : ∀ r ∈ c'.shared.db.receipts.rows, r ∉ c.shared.db.receipts.rows →
    c'.shared.db.admissions = c.shared.db.admissions ∧
      ∀ a ∈ c.shared.db.admissions.rows, a.tokenID = r.tokenID → a.state ≠ .open ∧ a.state ≠ .unknown
  /-- An operation that has its receipt is replayed without a change. -/
  replayed : ∀ k e call d left vars, mv = .act k e → c.locals[k]? = some (.rotating call d left vars) →
    c.shared.db.receipts.get? call.command.operationID ≠ none → c'.shared.db = c.shared.db

theorem Sound.exclusive (hc : Sound env c₀.shared.db c) (hheld : Held env c₀ c) : Exclusive env c₀ c where
  begun_once := by
    rintro i j call call' ⟨d, x, hi⟩ ⟨d', x', hj⟩ htoken hversion hkind hidentity
    obtain ⟨hd, hx⟩ := hc.known _ (mem_of_getElem? hi)
    obtain ⟨hd', hx'⟩ := hc.known _ (mem_of_getElem? hj)
    obtain ⟨a, rfl, -, row, hrow, hid, hkey⟩ := hx x rfl
    obtain ⟨a', rfl, -, row', hrow', hid', hkey'⟩ := hx' x' rfl
    rw [hidentity] at hd
    have hsame : d = d' := Except.ok.inj (hd.symm.trans hd')
    -- one request has one row, and so one admission id
    have hrows : row = row' := hc.rows.keys row hrow row' hrow' (by
      rw [hkey, hkey', htoken, hversion, hkind, hsame])
    have hticket : a'.admissionID = a.admissionID := by rw [← hid, ← hid', hrows]
    exact Machine.eq_of_ticket hc.admissions hi hj rfl (congrArg some hticket)
  linked_once := hc.rows.links
  receipt_once := fun r hr r' => eq_of_key hr
  version := hc.rows.versions
  secret_once := by
    rintro i j call call' secret secret' ⟨hs, _, _, _, d, hi⟩ ⟨hs', _, _, _, d', hj⟩ hop
    refine Machine.eq_of_ticket hc.secrets hi hj (a := call.command.operationID) ?_ ?_
    · simp [operation?, secret?, hs]
    · simp [operation?, secret?, hs', hop]
  secret_stored := by
    rintro i call secret ⟨hs, view, replayed, e, d, hi⟩
    exact hheld _ (mem_of_getElem? hi) call secret (by simp [secret?, hs])
  content := by
    rintro i call view secret replayed ⟨d, hi⟩
    obtain ⟨hprepared, hreply⟩ := hc.known _ (mem_of_getElem? hi)
    obtain ⟨r, hr, hactor, htoken, rfl⟩ := hreply view secret replayed none rfl (.inl rfl)
    have hmem := get?_mem hr
    exact ⟨r, hmem, get?_key hr, hactor, htoken, hprepared.digest, hc.rows.digests r hmem⟩

theorem Effect.orderly (h : Effect env c.shared.db c'.shared.db)
    (hreplayed : ∀ k e call d left vars, mv = .act k e → c.locals[k]? = some (.rotating call d left vars) →
      c.shared.db.receipts.get? call.command.operationID ≠ none → c'.shared.db = c.shared.db) :
    Orderly c mv c' := by
  refine ⟨fun a ha hlinked => ?_, fun r => h.settled, hreplayed⟩
  obtain ⟨a', ha', -, -, hsame⟩ := h.identified ha
  exact hsame hlinked ▸ ha'

theorem Sound.orderly (hc : Sound env db₀ c) (h : (machine env).step c mv = some c') :
    Orderly c mv c' := by
  cases Machine.step_steps h with
  | @start job w l hstart =>
    have hdb : w.db = c.shared.db := (startCall_started hstart).db
    have heffect : Effect env c.shared.db w.db := hdb ▸ .kept
    exact heffect.orderly fun _ _ _ _ _ _ _ _ _ => hdb
  | @act k e w l l' hk hact =>
    have ha : Acted env c.shared l w l' := stepCall_acted (hc.known l (mem_of_getElem? hk)) hact
    refine ha.effect.orderly ?_
    intro k' e' call d left vars hmv hk' hreceipt
    cases hmv
    cases hk.symm.trans hk'
    exact stepRotating_replayed (hc.known _ (mem_of_getElem? hk)) hreceipt (Option.some.inj hact)

end Runs

/-! ### A run -/

/-- A text of 64 equal digits. -/
def sampleHex (c : Char) : String := String.ofList (List.replicate 64 c)

def sampleEnvironment : Environment where
  generateHMAC _ := sampleHex 'a'
  midjourneyDigest _ := .ok (sampleHex 'a')
  requestDigest _ _ _ := .ok (sampleHex 'd')
  revisionDigest _ _ := .ok (sampleHex 'e')
  evidenceDigest _ := .ok (sampleHex 'a')
  retryable _ := false
  redisEnabled := false

def sampleChoice : Choice where
  reads := { clock := .ok 1000, generatedKeys := [.ok "new-key"] }

def sampleTokens : Table Token := Table.empty.insert { userID := 1, key := "old-key" }

def sampleRotation : RotateCall := ⟨1, 1, ⟨sampleHex 'c', sampleHex 'e', true⟩, 1000⟩

/-- The token is rotated. -/
def rotateOnce : List (Move Choice Call) :=
  .start (.rotate sampleRotation) :: List.replicate 5 (.act 0 sampleChoice)

end MyApiSpec.Credential
