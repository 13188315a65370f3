import MyApiSpec.Ledger.Backfill
import MyApiSpec.Ledger.Invariant

/-!
# What completed backfill runs establish

A run rewrites only receipts of an earlier version in the chain of a reserve root, and it
rewrites each of them once. A root that the cursor has passed has a migrated chain and a head
with its fingerprint, and no later statement undoes that. Behind a completed cursor everything
but the receipts without a reserve root is therefore migrated.
-/

namespace MyApiSpec.Ledger

open Base List Table Script Receipt

/-! ### Migrated receipts -/

variable {db : DB} {r root : Receipt} {s t : MigrationStore} {scan : ChainScan} {f g : Fingerprint}
  {q : String} {full : Prop} {h : Head} {terminal : Option Receipt} {P : MigrationStore → Prop}

/-- The columns of a receipt that the backfill does not write. -/
def Receipt.core (r : Receipt) : Receipt :=
  { r with fingerprintVersion := 0, reserveFingerprint := .blank, requestFingerprint := .blank }

/-- The receipt has the current version, the reserve fingerprint of its chain and its own seal. -/
structure Migrated (f : Fingerprint) (r : Receipt) : Prop where
  version : r.fingerprintVersion = accountQuotaFingerprintVersion
  reserveFingerprint : r.reserveFingerprint = f
  isSealed : r.Sealed

/-- A request with a reserve root. -/
def HasRoot (db : DB) (requestID : String) : Prop :=
  ∃ root ∈ db.receipts.rows, root.phase = .reserve ∧ root.requestID = requestID

/-- The receipts of `db` are those of `db₀`, some of them migrated. -/
structure Progress (db₀ db : DB) : Prop where
  forward : ∀ i r₀, db₀.receipts.get? i = some r₀ → ∃ r, db.receipts.get? i = some r ∧
    (r = r₀ ∨ r.core = r₀.core ∧ HasRoot db₀ r₀.requestID ∧
      r₀.fingerprintVersion ≠ accountQuotaFingerprintVersion)
  back : ∀ i r, db.receipts.get? i = some r → ∃ r₀, db₀.receipts.get? i = some r₀

theorem Progress.refl (db : DB) : Progress db db :=
  ⟨fun _ r h => ⟨r, h, .inl rfl⟩, fun _ r h => ⟨r, h⟩⟩

variable {db₀ : DB}

/-- Every stored receipt has the columns of the receipt it was at first. -/
theorem Progress.origin (hp : Progress db₀ db) {i : Int}
    (h : db.receipts.get? i = some r) : ∃ r₀, db₀.receipts.get? i = some r₀ ∧ r.core = r₀.core := by
  obtain ⟨r₀, h₀⟩ := hp.back i r h
  obtain ⟨x, hx, hcore⟩ := hp.forward i r₀ h₀
  cases h.symm.trans hx
  refine ⟨r₀, h₀, ?_⟩
  rcases hcore with rfl | ⟨hc, -⟩
  · rfl
  · exact hc

theorem Progress.row (hp : Progress db₀ db) {i : Int} {r₀ : Receipt}
    (h : db₀.receipts.get? i = some r₀) : ∃ r, db.receipts.get? i = some r ∧ r.core = r₀.core := by
  obtain ⟨r, hr, rfl | ⟨hc, -⟩⟩ := hp.forward i r₀ h
  · exact ⟨r, hr, rfl⟩
  · exact ⟨r, hr, hc⟩

/-- The columns that a head copies from its current receipt. -/
structure HeadFits (db : DB) (h : Head) (c : Receipt) : Prop where
  row : db.receipts.get? h.currentReceiptID = some c
  requestID : c.requestID = h.requestID
  writerEpoch : c.writerEpoch = h.writerEpoch
  userID : c.userID = h.userID
  tokenID : c.tokenID = h.tokenID
  subscriptionID : c.subscriptionID = h.subscriptionID
  billingSource : c.billingSource = h.billingSource
  appliedQuota : c.appliedQuota = h.appliedQuota

theorem core_eq {r' : Receipt} (h : r.core = r'.core) :
    r.id = r'.id ∧ r.requestID = r'.requestID ∧ r.phase = r'.phase ∧
      r.writerEpoch = r'.writerEpoch ∧ r.userID = r'.userID ∧ r.tokenID = r'.tokenID ∧
      r.subscriptionID = r'.subscriptionID ∧ r.billingSource = r'.billingSource ∧
      r.appliedQuota = r'.appliedQuota := by
  cases r
  cases r'
  simp only [core, mk.injEq] at h ⊢
  simp only [h, and_self]

/-- The chain of a request is migrated and a head carries its fingerprint. -/
def Done (db : DB) (requestID : String) : Prop :=
  ∃ f, (∀ r ∈ db.receipts.rows, r.requestID = requestID → Migrated f r) ∧
    ∃ h ∈ db.heads.rows, h.requestID = requestID ∧ h.reserveFingerprint = f

/-! ### The invariant of all runs -/

/-- The invariant behind every statement of every run; `D` are requests that were done before. -/
structure Backfilling (s₀ : MigrationStore) (D : String → Prop) (s : MigrationStore) : Prop where
  progress : Progress s₀.db s.db
  heads : ∀ h ∈ s.db.heads.rows, ∃ c, HeadFits s₀.db h c
  done : ∀ q, D q → Done s.db q
  frontier : ∀ r ∈ s₀.db.receipts.rows, r.phase = .reserve →
    (r.id ≤ s.lastID ∨ s.db.accountCursorComplete = true) → Done s.db r.requestID

variable {s₀ : MigrationStore} {D : String → Prop}

/-- A statement that keeps what is done keeps the invariant. -/
theorem Backfilling.advance (h : Backfilling s₀ D s) (hprogress : Progress s₀.db db)
    (hheads : ∀ x ∈ db.heads.rows, ∃ c, HeadFits s₀.db x c)
    (hcomplete : db.accountCursorComplete = s.db.accountCursorComplete)
    (hdone : ∀ q, Done s.db q → Done db q) : Backfilling s₀ D { s with db := db } := by
  refine ⟨hprogress, hheads, fun q hq => hdone q (h.done q hq), ?_⟩
  intro r hr hphase hle
  rw [hcomplete] at hle
  exact hdone _ (h.frontier r hr hphase hle)

/-! ### One receipt -/

/-- The two ways a receipt is migrated: as the root of its chain or behind it. -/
theorem migrateFingerprints_ok {m : Receipt} (h : migrateFingerprints scan r = .ok (m, f)) :
    ∃ g, m = r.stamped f g ∧ Migrated f m ∧
      ((r.phase = .reserve ∧ scan.root = none) ∨
        (r.phase ≠ .reserve ∧ scan.reserveFingerprint ≠ .blank ∧ f = scan.reserveFingerprint)) := by
  unfold migrateFingerprints at h
  split at h
  · next hphase =>
    simp only [bind_eq_ok, check_eq_ok, exists_const, pure_eq_ok, Prod.mk.injEq] at h
    obtain ⟨hroot, g, hg, rfl, rfl⟩ := h
    refine ⟨g, rfl, ⟨rfl, rfl, ?_⟩, .inl ⟨hphase, hroot⟩⟩
    -- the payload of a root leaves the reserve fingerprint out
    have hpayload : (r.stamped g g).payload = (r.stamped .blank r.requestFingerprint).payload := by
      simp only [payload, stamped, hphase]
    unfold Receipt.Sealed accountQuotaReceiptFingerprint
    rw [hpayload]
    exact hg
  · next hphase =>
    simp only [bind_eq_ok, check_eq_ok, exists_const, pure_eq_ok, Prod.mk.injEq] at h
    obtain ⟨hblank, g, hg, rfl, rfl⟩ := h
    refine ⟨g, rfl, ⟨rfl, rfl, ?_⟩, .inr ⟨hphase, hblank, rfl⟩⟩
    have hpayload : (r.stamped scan.reserveFingerprint g).payload =
        (r.stamped scan.reserveFingerprint r.requestFingerprint).payload := by
      simp only [payload, stamped]
    unfold Receipt.Sealed accountQuotaReceiptFingerprint
    exact hg

/-- The update of a receipt of an earlier version keeps the invariant: a request that is done has none. -/
theorem Backfilling.updateReceipt (h : Backfilling s₀ D s) (hr : s.db.receipts.get? r.id = some r)
    (hroot : HasRoot s₀.db r.requestID)
    (hold : r.fingerprintVersion ≠ accountQuotaFingerprintVersion) :
    Backfilling s₀ D
      { s with db := { s.db with receipts := s.db.receipts.put (r.stamped f g) } } := by
  refine h.advance ⟨?_, ?_⟩ h.heads rfl ?_
  · intro i r₀ h₀
    obtain ⟨x, hx, hcase⟩ := h.progress.forward i r₀ h₀
    by_cases hi : i = r.id
    · subst hi
      cases hr.symm.trans hx
      refine ⟨r.stamped f g, get?_put_self (r := r.stamped f g) hr, .inr ?_⟩
      rcases hcase with rfl | ⟨hcore, hroot', hold'⟩
      · exact ⟨rfl, hroot, hold⟩
      · exact ⟨hcore, hroot', hold'⟩
    · exact ⟨x, (get?_put_of_ne (r := r.stamped f g) hi).trans hx, hcase⟩
  · intro i x hx
    by_cases hi : i = r.id
    · exact h.progress.back i r (hi ▸ hr)
    · exact h.progress.back i x ((get?_put_of_ne (r := r.stamped f g) hi).symm.trans hx)
  · rintro q ⟨f', hrows, hhead⟩
    refine ⟨f', ?_, hhead⟩
    intro x hx hq
    rcases mem_put hx with rfl | ⟨hx, -⟩
    · exact absurd (hrows r (get?_mem hr) hq).version hold
    · exact hrows x hx hq

/-! ### The receipts of one request -/

/-- The state of the loop over the receipts of request `q`: `l` is what remains of a page. -/
structure Scanning (s₀ : MigrationStore) (q : String) (full : Prop) (l : List Receipt)
    (scan : ChainScan) (s : MigrationStore) : Prop where
  covers : Covers (fun i => ∃ r ∈ s₀.db.receipts.rows, r.requestID = q ∧ r.id = i) full scan.cursor l
  page : ∀ x ∈ l, s.db.receipts.get? x.id = some x ∧ x.requestID = q
  migrated : ∀ r ∈ s.db.receipts.rows, r.requestID = q → r.id ≤ scan.cursor →
    Migrated scan.reserveFingerprint r
  noRoot : scan.root = none → scan.reserveFingerprint = .blank ∧
    ∀ r ∈ s.db.receipts.rows, r.requestID = q → scan.cursor < r.id
  root : ∀ r, scan.root = some r → s.db.receipts.get? r.id = some r ∧ r.id ≤ scan.cursor ∧
    r.requestID = q ∧ r.phase = .reserve ∧ r.reserveFingerprint = scan.reserveFingerprint
  current : ∀ r, scan.current = some r → s.db.receipts.get? r.id = some r ∧ r.id ≤ scan.cursor ∧
    r.requestID = q ∧ r.phase.Chained

/-- The statement for one receipt leaves the migrated receipt in its place. -/
theorem ensures_storeMigrated (hr : t.db.receipts.get? r.id = some r)
    (hroot : HasRoot s₀.db r.requestID) :
    Ensures (Backfilling s₀ D) (fun s => s = t) (storeMigrated r (r.stamped f g))
      (fun _ s => s.db.receipts = t.db.receipts.put (r.stamped f g)) := by
  unfold storeMigrated
  split
  · next hversion =>
    refine ensures_lift ?_
    rintro ⟨⟩ hcheck s hI rfl
    obtain ⟨hf, hg⟩ := check_eq_ok.mp hcheck
    have hsame : r.stamped f g = r := by
      rw [← show r.reserveFingerprint = f from hf, ← show r.requestFingerprint = g from hg,
        stamped, ← hversion]
    rw [hsame, put_self hr]
  · next hversion =>
    refine ensures_exec _ ?_
    rintro s s' hI rfl hexec
    obtain ⟨db', hdb', rfl⟩ := map_eq_ok.mp hexec
    simp only [Ledger.updateReceipt, bind_eq_ok, need_eq_ok, pure_eq_ok] at hdb'
    obtain ⟨t, ht, rfl⟩ := hdb'
    obtain ⟨x, hx, -, rfl⟩ := cas_eq_some.mp ht
    cases hr.symm.trans hx
    exact ⟨hI.updateReceipt hr hroot hversion, rfl⟩

theorem Scanning.next {x : Receipt} {l : List Receipt} (h : Scanning s₀ q full (x :: l) scan t)
    (hp : Progress s₀.db t.db) (hm : Migrated f (x.stamped f g))
    (hcase : (x.phase = .reserve ∧ scan.root = none) ∨
      (x.phase ≠ .reserve ∧ scan.reserveFingerprint ≠ .blank ∧ f = scan.reserveFingerprint))
    (hs : s.db.receipts = t.db.receipts.put (x.stamped f g)) :
    Scanning s₀ q full l (scan.after x (x.stamped f g) f) s := by
  obtain ⟨hx, hxq⟩ := h.page x mem_cons_self
  have habove : scan.cursor < x.id := h.covers.above x mem_cons_self
  have hself : s.db.receipts.get? x.id = some (x.stamped f g) := by
    rw [hs]
    exact get?_put_self (r := x.stamped f g) hx
  have hother : ∀ i, i ≠ x.id → s.db.receipts.get? i = t.db.receipts.get? i := by
    intro i hi
    rw [hs]
    exact get?_put_of_ne (r := x.stamped f g) hi
  -- what the scan holds lies before the receipt
  have hkeep : ∀ r, t.db.receipts.get? r.id = some r → r.id ≤ scan.cursor →
      s.db.receipts.get? r.id = some r ∧ r.id ≤ x.id := by
    intro r hr hle
    have hne : r.id ≠ x.id := by omega
    exact ⟨(hother r.id hne).trans hr, by omega⟩
  refine ⟨h.covers.next, ?_, ?_, ?_, ?_, ?_⟩
  · intro y hy
    obtain ⟨hrow, hyq⟩ := h.page y (mem_cons_of_mem _ hy)
    have hlt : x.id < y.id := (pairwise_cons.mp h.covers.ascending).1 y hy
    exact ⟨(hother y.id (by omega)).trans hrow, hyq⟩
  · intro r hr hq hle
    rw [hs] at hr
    rcases mem_put hr with rfl | ⟨hr, hne⟩
    · exact hm
    obtain ⟨r₀, h₀, hcore⟩ := hp.origin (get?_of_mem hr)
    obtain ⟨hid, hreq, -⟩ := core_eq hcore
    rcases h.covers.first ⟨r₀, get?_mem h₀, hreq.symm.trans hq, hid.symm⟩ hle with hle | he
    · rcases hcase with ⟨-, hnone⟩ | ⟨-, -, hf⟩
      · have hlt := (h.noRoot hnone).2 r hr hq
        omega
      · rw [hf]
        exact h.migrated r hr hq hle
    · exact absurd he hne
  · intro hnone
    rcases hcase with ⟨hphase, -⟩ | ⟨hphase, hblank, -⟩
    · simp [ChainScan.after, hphase] at hnone
    · simp only [ChainScan.after, if_neg hphase] at hnone
      exact absurd (h.noRoot hnone).1 hblank
  · intro r hr
    rcases hcase with ⟨hphase, -⟩ | ⟨hphase, -, rfl⟩
    · simp only [ChainScan.after, if_pos hphase, Option.some.injEq] at hr
      subst hr
      exact ⟨hself, le_refl _, hxq, hphase, rfl⟩
    · simp only [ChainScan.after, if_neg hphase] at hr
      obtain ⟨hrow, hle, hrest⟩ := h.root r hr
      exact ⟨(hkeep r hrow hle).1, (hkeep r hrow hle).2, hrest⟩
  · intro r hr
    by_cases hphase : x.phase = .reserve ∨ x.phase = .adjust
    · simp only [ChainScan.after, if_pos hphase, Option.some.injEq] at hr
      subst hr
      exact ⟨hself, le_refl _, hxq, hphase⟩
    · simp only [ChainScan.after, if_neg hphase] at hr
      obtain ⟨hrow, hle, hrest⟩ := h.current r hr
      exact ⟨(hkeep r hrow hle).1, (hkeep r hrow hle).2, hrest⟩

/-- One receipt. -/
theorem ensures_migrateReceipt (hroot : HasRoot s₀.db q) (x : Receipt) (l : List Receipt)
    (scan : ChainScan) :
    Ensures (Backfilling s₀ D) (Scanning s₀ q full (x :: l) scan) (migrateReceipt scan x)
      (Scanning s₀ q full l) := by
  apply Ensures.named
  intro t ht
  obtain ⟨hx, hxq⟩ := ht.page x mem_cons_self
  refine Ensures.bind (R := fun p s => s = t ∧ Progress s₀.db t.db ∧
    migrateFingerprints scan x = .ok p) ?_ ?_
  · refine ensures_lift ?_
    rintro p hp s hI rfl
    exact ⟨rfl, hI.progress, hp⟩
  rintro ⟨m, f⟩
  apply Ensures.named
  rintro _ ⟨rfl, hprogress, hp⟩
  obtain ⟨g, rfl, hm, hcase⟩ := migrateFingerprints_ok hp
  refine (ensures_storeMigrated hx (hxq ▸ hroot)).bind ?_
  intro _
  refine Ensures.pure ?_
  intro s hI hs
  exact ht.next hprogress hm hcase hs

variable {limit : Nat}

/-- A fresh page of the request continues the scan. -/
theorem Scanning.page_next (h : Scanning s₀ q True [] scan s)
    (hp : Progress s₀.db s.db) :
    Scanning s₀ q
      ((s.db.receipts.keysetPage (fun r => r.requestID = q) scan.cursor limit).length = limit)
      (s.db.receipts.keysetPage (fun r => r.requestID = q) scan.cursor limit) scan s := by
  refine { h with covers := ?_, page := ?_ }
  · refine (keysetPage_covers _ _ _ _).mono ?_ id
    rintro i ⟨r₀, hr₀, hq, rfl⟩
    obtain ⟨r, hr, hcore⟩ := hp.row (get?_of_mem hr₀)
    obtain ⟨hid, hreq, -⟩ := core_eq hcore
    exact ⟨r, get?_mem hr, by simp [hreq, hq], hid⟩
  · intro x hx
    obtain ⟨hmem, hq, -⟩ := mem_keysetPage hx
    exact ⟨get?_of_mem hmem, by simpa using hq⟩

/-- The pages of one request. -/
theorem ensures_chainPages (hroot : HasRoot s₀.db q) (rounds : Nat) (scan : ChainScan) :
    Ensures (Backfilling s₀ D) (Scanning s₀ q True [] scan) (chainPages q rounds scan)
      (Scanning s₀ q False []) := by
  induction rounds generalizing scan with
  | zero => exact ensures_fail _
  | succ rounds ih =>
    refine Ensures.bind (R := fun page =>
      Scanning s₀ q (page.length = accountQuotaMigrationBatchSize) page scan) ?_ ?_
    · exact ensures_query _ fun s hI hs => hs.page_next hI.progress
    intro page
    refine (Ensures.foldlM
      (fun l scan => Scanning s₀ q (page.length = accountQuotaMigrationBatchSize) l scan)
      (ensures_migrateReceipt hroot) page scan).bind ?_
    intro scan'
    split
    · next hshort =>
      refine Ensures.pure ?_
      intro s hI hs
      exact { hs with covers := hs.covers.mono (fun _ h => h) (fun h => by omega) }
    · refine (ih scan').mono ?_ (fun _ _ _ h => h)
      intro s hI hs
      exact { hs with covers := covers_nil _ _ }

/-- A migrated chain with its root and its current receipt. -/
structure ChainDone (q : String) (root current : Receipt) (s : MigrationStore) : Prop where
  migrated : ∀ r ∈ s.db.receipts.rows, r.requestID = q → Migrated root.reserveFingerprint r
  rootRow : s.db.receipts.get? root.id = some root
  rootID : root.requestID = q
  rootPhase : root.phase = .reserve
  currentRow : s.db.receipts.get? current.id = some current
  currentID : current.requestID = q
  currentPhase : current.phase.Chained

theorem ensures_backfillChain (hroot : HasRoot s₀.db q) :
    Ensures (Backfilling s₀ D) (fun _ => True) (backfillAccountQuotaReceiptChain q)
      (fun p => ChainDone q p.1 p.2.1) := by
  refine ensures_budget.bind fun rounds => ?_
  refine Ensures.bind (R := Scanning s₀ q False []) ?_ ?_
  · refine (ensures_chainPages hroot (rounds + 1) {}).mono ?_ (fun _ _ _ h => h)
    intro s hI _
    refine ⟨covers_nil _ _, by simp, ?_, ?_, by simp, by simp⟩
    · intro r hr _ hle
      have hpos : 0 < r.id := (s.db.receipts.bounds r hr).1
      exact absurd hle (not_le.mpr hpos)
    · intro _
      exact ⟨rfl, fun r hr _ => (s.db.receipts.bounds r hr).1⟩
  · intro scan
    split
    · next root current hr hc =>
      refine Ensures.pure ?_
      intro s hI hs
      obtain ⟨hrow, -, hid, hphase, hf⟩ := hs.root root hr
      obtain ⟨hcrow, -, hcid, hcphase⟩ := hs.current current hc
      refine ⟨?_, hrow, hid, hphase, hcrow, hcid, hcphase⟩
      intro r hrmem hq
      obtain ⟨r₀, h₀, hcore⟩ := hI.progress.origin (get?_of_mem hrmem)
      obtain ⟨hrid, hreq, -⟩ := core_eq hcore
      rw [hf]
      exact hs.migrated r hrmem hq
        (hs.covers.last id ⟨r₀, get?_mem h₀, hreq.symm.trans hq, hrid.symm⟩)
    · exact ensures_fail _

/-! ### Head and obligation -/

/-- The chains and heads before the first run: the adjustments of a chain have the identity of
its root, and a head has the columns of its current receipt. -/
structure ChainsOk (db : DB) : Prop where
  identity : ∀ root ∈ db.receipts.rows, ∀ r ∈ db.receipts.rows, root.phase = .reserve →
    r.phase.Chained → r.requestID = root.requestID → r.writerEpoch = root.writerEpoch ∧
      r.userID = root.userID ∧ r.tokenID = root.tokenID ∧
      r.subscriptionID = root.subscriptionID ∧ r.billingSource = root.billingSource
  heads : ∀ h ∈ db.heads.rows, ∃ c, HeadFits db h c

variable {current : Receipt}

theorem ChainDone.frame (h : ChainDone q root current s)
    (hr : t.db.receipts = s.db.receipts) : ChainDone q root current t := by
  refine { h with migrated := ?_, rootRow := ?_, currentRow := ?_ }
  · rw [hr]
    exact h.migrated
  · rw [hr]
    exact h.rootRow
  · rw [hr]
    exact h.currentRow

/-- The head that a migrated chain gets fits its current receipt. -/
theorem ChainDone.headFits (h : ChainDone q root current s)
    (hp : Progress s₀.db s.db) (hok : ChainsOk s₀.db) (terminal : Option Receipt) (i : Int) :
    ∃ c, HeadFits s₀.db { backfilledHead root current terminal with id := i } c := by
  obtain ⟨r₀, hr₀, hrcore⟩ := hp.origin h.rootRow
  obtain ⟨c₀, hc₀, hccore⟩ := hp.origin h.currentRow
  obtain ⟨-, hrq, hrp, hre, hru, hrt, hrs, hrb, -⟩ := core_eq hrcore
  obtain ⟨-, hcq, hcp, -, -, -, -, -, hca⟩ := core_eq hccore
  obtain ⟨he, hu, ht, hs, hb⟩ := hok.identity r₀ (get?_mem hr₀) c₀ (get?_mem hc₀)
    (hrp ▸ h.rootPhase) (hcp ▸ h.currentPhase) (by rw [← hcq, ← hrq, h.currentID, h.rootID])
  refine ⟨c₀, hc₀, ?_, he.trans hre.symm, hu.trans hru.symm, ht.trans hrt.symm, hs.trans hrs.symm,
    hb.trans hrb.symm, hca.symm⟩
  show c₀.requestID = root.requestID
  rw [← hcq, h.currentID, h.rootID]

/-- A new head keeps the invariant. -/
theorem Backfilling.createHead (hI : Backfilling s₀ D s)
    (hfits : ∃ c, HeadFits s₀.db { h with id := s.db.heads.nextId } c) :
    Backfilling s₀ D
      { s with db := { s.db with heads := s.db.heads.insert { h with id := s.db.heads.nextId } } } := by
  refine hI.advance ⟨hI.progress.forward, hI.progress.back⟩ ?_ rfl ?_
  · intro x hx
    rcases mem_insert.mp hx with hx | rfl
    · exact hI.heads x hx
    · exact hfits
  · rintro q ⟨f, hrows, x, hx, hq⟩
    exact ⟨f, hrows, x, mem_insert.mpr (.inl hx), hq⟩

/-- The repair of a head with the fingerprint of its migrated chain keeps the invariant. -/
theorem Backfilling.repairHead (hI : Backfilling s₀ D s)
    (hc : ChainDone q root current s) (hh : s.db.heads.get? h.id = some h) (hq : h.requestID = q) :
    Backfilling s₀ D { s with db := { s.db with
      heads := s.db.heads.put (h.repaired h root.reserveFingerprint) } } := by
  refine hI.advance ⟨hI.progress.forward, hI.progress.back⟩ ?_ rfl ?_
  · intro x hx
    rcases mem_put hx with rfl | ⟨hx, -⟩
    · obtain ⟨c, hfit⟩ := hI.heads h (get?_mem hh)
      exact ⟨c, hfit.row, hfit.requestID, hfit.writerEpoch, hfit.userID, hfit.tokenID,
        hfit.subscriptionID, hfit.billingSource, hfit.appliedQuota⟩
    · exact hI.heads x hx
  · rintro p ⟨f, hrows, x, hx, hxp, hxf⟩
    refine ⟨f, hrows, ?_⟩
    rcases mem_put_or (r := h.repaired h root.reserveFingerprint) hh hx with rfl | hx
    · -- the head belongs to the chain, whose receipts carry one fingerprint
      have hroot := hrows root (get?_mem hc.rootRow) (hc.rootID.trans (hq.symm.trans hxp))
      refine ⟨x.repaired x root.reserveFingerprint,
        mem_put_self (r := x.repaired x root.reserveFingerprint) hh, hxp, ?_⟩
      simp only [Head.repaired]
      split
      · exact hroot.reserveFingerprint
      · exact hxf
    · exact ⟨x, hx, hxp, hxf⟩

/-- Every head of request `q` carries the fingerprint `f`. -/
def HeadsCarry (q : String) (f : Fingerprint) (s : MigrationStore) : Prop :=
  ∀ h ∈ s.db.heads.rows, h.requestID = q → h.reserveFingerprint = f

/-- A create that is lost, refused or answered leaves at most the new head. -/
theorem ensures_createHead (hok : ChainsOk s₀.db) :
    Ensures (fun s => Backfilling s₀ D s ∧ ChainDone q root current s ∧
        HeadsCarry q root.reserveFingerprint s) (fun _ => True)
      (Migration.exec (fun db =>
        (createHead db (backfilledHead root current terminal)).map Prod.fst))
      (fun _ s => ∃ h ∈ s.db.heads.rows, h.requestID = q) := by
  refine ensures_exec _ ?_
  rintro s t ⟨hI, hc, hcarry⟩ - hexec
  obtain ⟨db', hdb', rfl⟩ := map_eq_ok.mp hexec
  obtain ⟨⟨_, h⟩, hcreate, rfl⟩ := map_eq_ok.mp hdb'
  simp only [createHead, bind_eq_ok, check_eq_ok, exists_const, pure_eq_ok, Prod.mk.injEq] at hcreate
  obtain ⟨-, rfl, rfl⟩ := hcreate
  refine ⟨⟨hI.createHead (hc.headFits hI.progress hok terminal _), hc.frame rfl, ?_⟩, ?_⟩
  · intro x hx hq
    rcases mem_insert.mp hx with hx | rfl
    · exact hcarry x hx hq
    · rfl
  · exact ⟨_, mem_insert.mpr (.inr rfl), hc.rootID⟩

/-- The create of a row and the read behind its error. -/
theorem ensures_createUnlessStored {I Q : MigrationStore → Prop}
    {create : DB → Except LedgerError DB} {stored : DB → Bool}
    (hcreate : Ensures I P (Migration.exec create) (fun _ => Q))
    (hstored : ∀ s, stored s.db = true → Q s) :
    Ensures I P (createUnlessStored create stored) (fun _ => Q) := by
  refine hcreate.attempt.bind ?_
  intro result
  split
  · exact Ensures.pure fun s _ hs => hs () rfl
  · refine (Ensures.attempt (Q := fun b s => b = true → Q s)
      (ensures_query _ fun s _ _ => hstored s)).bind ?_
    intro r
    split
    · exact Ensures.pure fun s _ hs => hs true rfl rfl
    · exact ensures_fail _

theorem ChainDone.done (hc : ChainDone q root current s)
    (hh : h ∈ s.db.heads.rows) (hq : h.requestID = q)
    (hf : h.reserveFingerprint = root.reserveFingerprint) : Done s.db q :=
  ⟨root.reserveFingerprint, hc.migrated, h, hh, hq, hf⟩

theorem ensures_repairHead {existing : Head}
    (hc : ChainDone root.requestID root current t) (hmem : existing ∈ t.db.heads.rows)
    (hq : existing.requestID = root.requestID) :
    Ensures (Backfilling s₀ D) (fun s => s = t) (repairHead root existing)
      (fun _ s => Done s.db root.requestID) := by
  have hrow : t.db.heads.get? existing.id = some existing := get?_of_mem hmem
  unfold repairHead
  split
  · refine ensures_exec _ ?_
    rintro s s' hI rfl hexec
    cases hexec
    have hput : updateRow s.db.heads existing.id
        (fun h => h.repaired existing root.reserveFingerprint) =
        s.db.heads.put (existing.repaired existing root.reserveFingerprint) := by
      unfold updateRow
      rw [cas_eq_some.mpr ⟨existing, hrow, rfl, rfl⟩]
      rfl
    rw [hput]
    refine ⟨hI.repairHead hc hrow hq, root.reserveFingerprint, hc.migrated, _,
      mem_put_self (r := existing.repaired existing root.reserveFingerprint) hrow, hq, ?_⟩
    simp only [Head.repaired]
    split
    · rfl
    · next hsame => exact not_not.mp hsame
  · next hsame =>
    refine Ensures.pure ?_
    rintro s hI rfl
    exact hc.done hmem hq (not_not.mp fun hne => hsame (.inr hne))

/-- The head step completes a migrated chain. -/
theorem ensures_backfillHead (hok : ChainsOk s₀.db) :
    Ensures (Backfilling s₀ D) (ChainDone q root current) (backfillHead root current terminal)
      (fun _ s => Done s.db q) := by
  refine Ensures.bind (R := fun found s => ChainDone q root current s ∧
    found = s.db.heads.find? (fun h => h.requestID = root.requestID)) ?_ ?_
  · exact ensures_query _ fun s _ hc => ⟨hc, rfl⟩
  intro found
  apply Ensures.named
  rintro t ⟨hc, hfound⟩
  obtain rfl := hc.rootID
  cases found with
  | none =>
    have hnone := find?_none.mp hfound.symm
    refine (ensures_createUnlessStored (ensures_createHead (q := root.requestID) (D := D) hok) ?_).carry.mono ?_ ?_
    · intro s hsome
      obtain ⟨h, hfind⟩ := Option.isSome_iff_exists.mp hsome
      exact ⟨h, find?_mem hfind, by simpa using find?_pred hfind⟩
    · rintro s hI rfl
      refine ⟨trivial, hc, ?_⟩
      intro h hh hq
      exact absurd (by simpa using hq) (hnone h hh)
    · rintro _ s hI ⟨⟨h, hh, hq⟩, hc', hcarry⟩
      exact hc'.done hh hq (hcarry h hh hq)
  | some existing =>
    exact ensures_repairHead hc (find?_mem hfound.symm)
      (by simpa using find?_pred hfound.symm)

/-- A statement that writes obligations only keeps the invariant. -/
theorem ensures_obligations {f : DB → Except LedgerError DB}
    (hf : ∀ db db', f db = .ok db' → ∃ os, db' = { db with obligations := os }) :
    Ensures (Backfilling s₀ D) P (Migration.exec f) (fun _ _ => True) := by
  refine ensures_exec _ ?_
  rintro s t hI - hexec
  obtain ⟨db', hdb', rfl⟩ := map_eq_ok.mp hexec
  obtain ⟨os, rfl⟩ := hf s.db db' hdb'
  exact ⟨hI.advance ⟨hI.progress.forward, hI.progress.back⟩ hI.heads rfl (fun _ h => h), trivial⟩

theorem ensures_backfillObligation :
    Ensures (Backfilling s₀ D) (fun _ => True) (backfillObligation root current terminal)
      (fun _ _ => True) := by
  refine Ensures.bind (R := fun _ _ => True) (ensures_query _ fun _ _ _ => trivial) ?_
  intro found
  cases found with
  | none =>
    refine ensures_createUnlessStored (ensures_obligations ?_) fun _ _ => trivial
    intro db db' h
    simp only [createObligation, bind_eq_ok, check_eq_ok, exists_const, pure_eq_ok] at h
    exact ⟨_, h.2.symm⟩
  | some o =>
    show Ensures _ _ (repairObligation root terminal o) _
    unfold repairObligation
    split
    · refine ensures_obligations ?_
      intro db db' h
      cases h
      exact ⟨_, rfl⟩
    · exact Ensures.pure fun _ _ _ => trivial

/-! ### Roots and runs -/

/-- What is done stays done. -/
theorem ensures_keepsDone {α : Type} {x : Migration α} {Q : α → MigrationStore → Prop}
    (h : ∀ D, Ensures (Backfilling s₀ D) P x Q) (E : String → Prop) :
    Ensures (Backfilling s₀ D) (fun s => P s ∧ ∀ q, E q → Done s.db q) x
      (fun a s => Q a s ∧ ∀ q, E q → Done s.db q) := by
  rintro s hI ⟨hP, hE⟩
  have hboth : Backfilling s₀ (fun q => D q ∨ E q) s.store := by
    refine { hI with done := ?_ }
    rintro q (hq | hq)
    · exact hI.done q hq
    · exact hE q hq
  obtain ⟨hI', hQ⟩ := h _ s hboth hP
  refine ⟨{ hI' with done := fun q hq => hI'.done q (.inl hq) }, ?_⟩
  intro a ha
  exact ⟨hQ a ha, fun q hq => hI'.done q (.inr hq)⟩

/-- The work on one root completes its request. -/
theorem ensures_backfillRoot (hok : ChainsOk s₀.db) (hroot : HasRoot s₀.db q) :
    Ensures (Backfilling s₀ D) (fun _ => True) (backfillRoot q) (fun _ s => Done s.db q) := by
  refine (ensures_backfillChain hroot).bind ?_
  rintro ⟨root, current, terminal⟩
  refine Ensures.bind (R := fun _ => ChainDone q root current) ?_ ?_
  · unfold backfillTime
    split
    · exact ensures_query _ fun _ _ h => h
    · exact Ensures.pure fun _ _ h => h
  intro _
  refine (ensures_backfillHead hok).bind ?_
  intro _
  refine (ensures_keepsDone (fun _ => ensures_backfillObligation) (fun p => p = q)).mono ?_ ?_
  · rintro s - hs
    exact ⟨trivial, fun p hp => hp ▸ hs⟩
  · rintro _ s - ⟨-, hs⟩
    exact hs q rfl

/-- The state of the scan over the roots: `l` is what remains of a page. -/
structure RootScan (s₀ : MigrationStore) (full : Prop) (l : List Receipt) (cursor : Int)
    (s : MigrationStore) : Prop where
  covers : Covers (fun i => ∃ r ∈ s₀.db.receipts.rows, r.phase = .reserve ∧ r.id = i) full cursor l
  page : ∀ x ∈ l, ∃ r ∈ s₀.db.receipts.rows, r.phase = .reserve ∧ r.id = x.id ∧
    r.requestID = x.requestID
  done : ∀ r ∈ s₀.db.receipts.rows, r.phase = .reserve → r.id ≤ cursor → Done s.db r.requestID

/-- One root. -/
theorem ensures_root (hok : ChainsOk s₀.db) (x : Receipt) (l : List Receipt) (cursor : Int) :
    Ensures (Backfilling s₀ D) (RootScan s₀ full (x :: l) cursor)
      (do backfillRoot x.requestID; return x.id) (RootScan s₀ full l) := by
  apply Ensures.named
  intro t ht
  obtain ⟨r₀, hr₀, hphase, hid, hreq⟩ := ht.page x mem_cons_self
  have hroot : HasRoot s₀.db x.requestID := ⟨r₀, hr₀, hphase, hreq⟩
  refine ((ensures_keepsDone (fun _ => ensures_backfillRoot hok hroot)
    (fun q => ∃ r ∈ s₀.db.receipts.rows, r.phase = .reserve ∧ r.id ≤ cursor ∧
      r.requestID = q)).mono ?_ (fun _ _ _ h => h)).bind ?_
  · rintro s hI rfl
    refine ⟨trivial, ?_⟩
    rintro q ⟨r, hr, hp, hle, rfl⟩
    exact ht.done r hr hp hle
  intro _
  refine Ensures.pure ?_
  rintro s hI ⟨hx, hbefore⟩
  refine ⟨ht.covers.next, fun y hy => ht.page y (mem_cons_of_mem _ hy), ?_⟩
  intro r hr hp hle
  rcases ht.covers.first ⟨r, hr, hp, rfl⟩ hle with hle | he
  · exact hbefore _ ⟨r, hr, hp, hle, rfl⟩
  · have hrow : s₀.db.receipts.get? r.id = some r := get?_of_mem hr
    have hrow₀ : s₀.db.receipts.get? r₀.id = some r₀ := get?_of_mem hr₀
    have hsame : r.id = r₀.id := he.trans hid.symm
    rw [hsame, hrow₀] at hrow
    cases hrow
    rw [hreq]
    exact hx

/-- A cursor that is saved behind done roots. -/
theorem ensures_saveQuotaWorkCursor {cursor : QuotaWorkCursor}
    (h : ∀ s, Backfilling s₀ D s → P s → ∀ r ∈ s₀.db.receipts.rows, r.phase = .reserve →
      (r.id ≤ cursor.lastID ∨ cursor.complete = true) → Done s.db r.requestID) :
    Ensures (Backfilling s₀ D) P (saveQuotaWorkCursor cursor)
      (fun _ => RootScan s₀ True [] cursor.lastID) := by
  refine ensures_exec _ ?_
  rintro s t hI hP hexec
  cases hexec
  have hdone := h s hI hP
  exact ⟨⟨⟨hI.progress.forward, hI.progress.back⟩, hI.heads, hI.done, hdone⟩,
    covers_nil _ _, by simp, fun r hr hp hle => hdone r hr hp (.inl hle)⟩

/-- A fresh page of roots continues the scan. -/
theorem RootScan.page_next {cursor : Int} (h : RootScan s₀ True [] cursor s)
    (hp : Progress s₀.db s.db) :
    RootScan s₀
      ((s.db.receipts.keysetPage (fun r => r.phase = .reserve) cursor limit).length = limit)
      (s.db.receipts.keysetPage (fun r => r.phase = .reserve) cursor limit) cursor s := by
  refine ⟨?_, ?_, h.done⟩
  · refine (keysetPage_covers _ _ _ _).mono ?_ id
    rintro i ⟨r₀, hr₀, hphase, rfl⟩
    obtain ⟨r, hr, hcore⟩ := hp.row (get?_of_mem hr₀)
    obtain ⟨hid, -, hph, -⟩ := core_eq hcore
    exact ⟨r, get?_mem hr, by simp [hph, hphase], hid⟩
  · intro x hx
    obtain ⟨hmem, hphase, -⟩ := mem_keysetPage hx
    obtain ⟨r₀, hr₀, hcore⟩ := hp.origin (get?_of_mem hmem)
    obtain ⟨hid, hreq, hph, -⟩ := core_eq hcore
    exact ⟨r₀, get?_mem hr₀, hph ▸ by simpa using hphase, hid.symm, hreq.symm⟩

section

variable (hok : ChainsOk s₀.db)
include hok

/-- The scan over the roots keeps the invariant. -/
theorem ensures_scanRoots (rounds : Nat) (cursor : Int) (processed : Nat) :
    Ensures (Backfilling s₀ D) (RootScan s₀ True [] cursor)
      (scanRoots rounds cursor processed) (fun _ _ => True) := by
  induction rounds generalizing cursor processed with
  | zero => exact ensures_fail _
  | succ rounds ih =>
    unfold scanRoots
    split
    · next hbudget =>
      have hlimit : min accountQuotaMigrationBatchSize
          (accountQuotaMigrationRunBudget - processed) ≠ 0 := by
        simp only [accountQuotaMigrationBatchSize]
        omega
      refine Ensures.bind (R := fun page => RootScan s₀ (page.length =
        min accountQuotaMigrationBatchSize (accountQuotaMigrationRunBudget - processed)) page cursor)
        (ensures_query _ fun s hI hs => hs.page_next hI.progress) ?_
      intro page
      split
      · next hempty =>
        -- an empty page is not full, so no root is left
        subst hempty
        refine (ensures_saveQuotaWorkCursor ?_).mono (fun _ _ h => h) (fun _ _ _ _ => trivial)
        intro s hI hs r hr hp _
        exact hs.done r hr hp (hs.covers.last (fun h => hlimit h.symm) ⟨r, hr, hp, rfl⟩)
      · refine (Ensures.foldlM (fun l c => RootScan s₀ (page.length =
          min accountQuotaMigrationBatchSize (accountQuotaMigrationRunBudget - processed)) l c)
          (ensures_root hok) page cursor).bind ?_
        intro next
        refine (ensures_saveQuotaWorkCursor ?_).bind fun _ => ih next _
        rintro s hI hs r hr hp (hle | hfalse)
        · exact hs.done r hr hp hle
        · cases hfalse
    · refine Ensures.bind (R := fun more s => RootScan s₀ True [] cursor s ∧
        more = s.db.receipts.rows.any (fun r => r.phase = .reserve && decide (cursor < r.id)))
        (ensures_query _ fun _ _ h => ⟨h, rfl⟩) ?_
      intro more
      split
      · exact ensures_fail _
      · next hmore =>
        refine (ensures_saveQuotaWorkCursor ?_).mono (fun _ _ h => h) (fun _ _ _ _ => trivial)
        rintro s hI ⟨hs, hany⟩ r₀ hr₀ hp _
        apply hs.done r₀ hr₀ hp
        by_contra hgt
        -- the probe would have found the root
        obtain ⟨r, hr, hcore⟩ := hI.progress.row (get?_of_mem hr₀)
        obtain ⟨hid, -, hph, -⟩ := core_eq hcore
        apply hmore
        rw [hany, any_eq_true]
        exact ⟨r, get?_mem hr, by simp [hph, hp, hid]; omega⟩

/-- One run keeps the invariant. -/
theorem Backfilling.run (h : Backfilling s₀ D s)
    (outcomes : List StatementOutcome) : Backfilling s₀ D (backfillRun s outcomes) := by
  have hrun : Ensures (Backfilling s₀ D) (fun _ => True)
      initializeAccountQuotaReservationHeadsWithDB (fun _ _ => True) := by
    refine Ensures.bind (R := fun cursor s => cursor.lastID = s.lastID)
      (ensures_query _ fun _ _ _ => rfl) ?_
    intro cursor
    split
    · exact Ensures.pure fun _ _ _ => trivial
    · refine ensures_budget.bind fun rounds => ?_
      refine (ensures_scanRoots hok (rounds + 1) cursor.lastID 0).mono ?_ (fun _ _ _ h => h)
      intro s hI hs
      refine ⟨covers_nil _ _, by simp, ?_⟩
      intro r hr hp hle
      exact hI.frontier r hr hp (.inl (hs ▸ hle))
  exact (hrun ⟨s, outcomes⟩ h trivial).1

/-- So do all runs. -/
theorem Backfilling.runs (h : Backfilling s₀ D s)
    (runs : List (List StatementOutcome)) : Backfilling s₀ D (backfillRuns s runs) := by
  induction runs generalizing s with
  | nil => exact h
  | cons outcomes runs ih => exact ih (h.run hok outcomes)

end

/-! ### Behind a completed cursor -/

/-- A run on a completed cursor changes nothing. -/
theorem backfillRun_complete (h : s.db.accountCursorComplete = true)
    (outcomes : List StatementOutcome) : backfillRun s outcomes = s := by
  rcases outcomes with - | ⟨⟨⟩, rest⟩
  · rfl
  · simp [backfillRun, initializeAccountQuotaReservationHeadsWithDB, loadQuotaWorkCursor, query,
      bind, h, pure]
  · rfl
  · rfl

/-- The head of a request that is done passes `validateAccountQuotaHeadReceipt`. -/
theorem Backfilling.headMatches (hI : Backfilling s₀ D s) (hdone : Done s.db q) :
    ∃ h ∈ s.db.heads.rows, h.requestID = q ∧
      ∃ c, s.db.receipts.get? h.currentReceiptID = some c ∧
        validateAccountQuotaHeadReceipt h c = .ok () := by
  obtain ⟨f, hrows, h, hh, hq, hf⟩ := hdone
  obtain ⟨c₀, hfit⟩ := hI.heads h hh
  obtain ⟨c, hc, hcore⟩ := hI.progress.row hfit.row
  obtain ⟨-, hreq, -, hepoch, huser, htoken, hsub, hsource, happlied⟩ := core_eq hcore
  have hcq : c.requestID = h.requestID := hreq.trans hfit.requestID
  have hm := hrows c (get?_mem hc) (hcq.trans hq)
  refine ⟨h, hh, hq, c, hc, check_pos ?_ _⟩
  exact ⟨get?_id hc, hcq, hepoch.trans hfit.writerEpoch, huser.trans hfit.userID,
    htoken.trans hfit.tokenID, hsub.trans hfit.subscriptionID, hsource.trans hfit.billingSource,
    hm.reserveFingerprint.trans hf.symm, happlied.trans hfit.appliedQuota, hm.isSealed⟩

/-- Backfill. Let runs, each complete or interrupted at any statement, mark the cursor complete.
Then nothing is pending, every root has a head that validates against its current receipt, and
another run changes nothing, if and only if every receipt of an earlier version belonged to a
request with a reserve root. -/
theorem backfill_complete_iff {s : MigrationStore} (hok : ChainsOk s.db) (hcursor : s.lastID ≤ 0)
    (hopen : s.db.accountCursorComplete = false) (runs : List (List StatementOutcome))
    (hcomplete : (backfillRuns s runs).db.accountCursorComplete = true) :
    (accountQuotaBackfillPending (backfillRuns s runs).db = false ∧
      (∀ r ∈ (backfillRuns s runs).db.receipts.rows, r.phase = .reserve →
        ∃ h ∈ (backfillRuns s runs).db.heads.rows, h.requestID = r.requestID ∧
          ∃ c, (backfillRuns s runs).db.receipts.get? h.currentReceiptID = some c ∧
            validateAccountQuotaHeadReceipt h c = .ok ()) ∧
      ∀ outcomes, backfillRun (backfillRuns s runs) outcomes = backfillRuns s runs) ↔
    ∀ r ∈ s.db.receipts.rows, r.fingerprintVersion ≠ accountQuotaFingerprintVersion →
      HasRoot s.db r.requestID := by
  have hstart : Backfilling s (fun _ => False) s := by
    refine ⟨Progress.refl _, hok.heads, fun _ h => h.elim, ?_⟩
    rintro r hr - (hle | htrue)
    · have hpos : 0 < r.id := (s.db.receipts.bounds r hr).1
      omega
    · rw [hopen] at htrue
      cases htrue
  have hI := hstart.runs hok runs
  have hroots : ∀ q, HasRoot s.db q → Done (backfillRuns s runs).db q := by
    rintro q ⟨root, hroot, hphase, rfl⟩
    exact hI.frontier root hroot hphase (.inr hcomplete)
  have hheads : ∀ r ∈ (backfillRuns s runs).db.receipts.rows, r.phase = .reserve →
      ∃ h ∈ (backfillRuns s runs).db.heads.rows, h.requestID = r.requestID ∧
        ∃ c, (backfillRuns s runs).db.receipts.get? h.currentReceiptID = some c ∧
          validateAccountQuotaHeadReceipt h c = .ok () := by
    intro r hr hphase
    obtain ⟨r₀, h₀, hcore⟩ := hI.progress.origin (get?_of_mem hr)
    obtain ⟨-, hreq, hph, -⟩ := core_eq hcore
    exact hI.headMatches (hroots _ ⟨r₀, get?_mem h₀, hph ▸ hphase, hreq.symm⟩)
  simp only [accountQuotaBackfillPending, Bool.or_eq_false_iff, any_eq_false, decide_eq_true_eq, not_not,
    Bool.and_eq_true, Bool.not_eq_true', not_and, ne_eq]
  constructor
  · rintro ⟨⟨hversion, -⟩, -⟩ r₀ hr₀ hold
    -- a receipt that was not rewritten still has its version
    obtain ⟨r, hr, rfl | ⟨-, hroot, -⟩⟩ := hI.progress.forward r₀.id r₀ (get?_of_mem hr₀)
    · exact absurd (hversion r (get?_mem hr)) hold
    · exact hroot
  · intro hall
    refine ⟨⟨?_, ?_⟩, hheads, backfillRun_complete hcomplete⟩
    · intro r hr
      obtain ⟨r₀, h₀⟩ := hI.progress.back r.id r (get?_of_mem hr)
      obtain ⟨x, hx, hcase⟩ := hI.progress.forward r.id r₀ h₀
      have hself := get?_of_mem hr
      cases hself.symm.trans hx
      by_cases hroot : HasRoot s.db r₀.requestID
      · obtain ⟨f, hrows, -⟩ := hroots _ hroot
        rcases hcase with rfl | ⟨hcore, -⟩
        · exact (hrows r hr rfl).version
        · exact (hrows r hr (core_eq hcore).2.1).version
      · rcases hcase with rfl | ⟨-, hroot', -⟩
        · by_contra hold
          exact hroot (hall r (get?_mem h₀) hold)
        · exact absurd hroot' hroot
    · intro r hr hphase
      obtain ⟨h, hh, hq, -⟩ := hheads r hr hphase
      exact fun hnone => hnone h hh hq

/-- A receipt of the first fingerprint version. -/
def earlierReceipt (requestID : String) (phase : Phase) (quota : Int) : Receipt where
  receiptVersion := 1
  fingerprintVersion := 1
  writerEpoch := 1
  requestID := requestID
  phase := phase
  eventKey := requestID ++ phase.text
  mutationSlot := requestID ++ phase.text
  reserveFingerprint := .earlier "v1"
  requestFingerprint := .earlier "v1"
  billingSource := .wallet
  billingPreference := .walletOnly
  userID := 1
  tokenID := 1
  requestedQuota := quota
  appliedQuota := quota
  requestedDeltas := {}
  appliedDeltas := {}
  before := ⟨⟨1, 1, 1000, 0, 0⟩, ⟨1, 1, 1, 0, -1, 1000, 0, false, 0⟩, none⟩
  after := ⟨⟨1, 1, 1000 - quota, 0, 1⟩, ⟨1, 1, 1, 0, -1, 1000 - quota, 1, false, quota⟩, none⟩
  billingContext := {}

/-- A store with these receipts, no heads, and a cursor at its start. -/
def earlierStore (receipts : List Receipt) : MigrationStore where
  db :=
    { writer := some ⟨.authoritative, 1, Int.one_pos⟩, accountCursorComplete := false
      balanceBackfillDone := true, funding := ⟨true, false⟩, users := Table.empty
      tokens := Table.empty, subscriptions := Table.empty, plans := Table.empty
      receipts := receipts.foldl Table.insert Table.empty, heads := Table.empty
      obligations := Table.empty, projections := Table.empty }

/-- A reserve root with an adjustment. -/
def earlierChain : MigrationStore :=
  earlierStore [earlierReceipt "r1" .reserve 10, earlierReceipt "r1" .adjust 20]

/-- The first run ends behind the update of the root, the second completes. -/
def interruptedRuns : List (List StatementOutcome) :=
  [List.replicate 4 .answered, List.replicate 20 .answered]

theorem backfill_complete_iff_interruptedRuns :
    (backfillRuns earlierChain interruptedRuns).db.accountCursorComplete = true ∧
      accountQuotaBackfillPending (backfillRuns earlierChain interruptedRuns).db = false := by
  have hrun : (backfillRuns earlierChain interruptedRuns).db.accountCursorComplete = true ∧
      (∀ root ∈ earlierChain.db.receipts.rows, ∀ r ∈ earlierChain.db.receipts.rows,
        r.writerEpoch = root.writerEpoch ∧ r.userID = root.userID ∧ r.tokenID = root.tokenID ∧
          r.subscriptionID = root.subscriptionID ∧ r.billingSource = root.billingSource) ∧
      ∀ r ∈ earlierChain.db.receipts.rows, ∃ root ∈ earlierChain.db.receipts.rows,
        root.phase = .reserve ∧ root.requestID = r.requestID := by decide +kernel
  obtain ⟨hcomplete, hident, hroots⟩ := hrun
  have hok : ChainsOk earlierChain.db :=
    ⟨fun root hroot r hr _ _ _ => hident root hroot r hr, fun h hh => by cases hh⟩
  have hiff := backfill_complete_iff hok (by decide) rfl interruptedRuns hcomplete
  exact ⟨hcomplete, (hiff.mpr fun r hr _ => hroots r hr).1⟩

/-- A direct token receipt of the first version has no reserve root: the run completes the cursor
and the receipt stays pending. -/
theorem direct_token_stays_pending :
    (backfillRun (earlierStore [earlierReceipt "t1" .directToken 10])
      [.answered, .answered, .answered]).db.accountCursorComplete = true ∧
    accountQuotaBackfillPending (backfillRun (earlierStore [earlierReceipt "t1" .directToken 10])
      [.answered, .answered, .answered]).db = true := by
  decide +kernel

end MyApiSpec.Ledger
