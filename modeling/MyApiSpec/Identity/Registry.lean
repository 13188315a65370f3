import MyApiSpec.Base.Store
import MyApiSpec.Identity.Keyring

/-!
# The registry of key versions and the aliases of identities

`model/channel_quota_identity.go:86–417`. The registry binds a version to the fingerprint of one key and
names the active version. An alias maps a digest under one version to an opaque subject; a resolution
writes the aliases of all versions of its keyring. Both are transactions behind the lock of the gate.
-/

namespace MyApiSpec.Identity

open Base List Option Store

/-- `ChannelQuotaIdentityKeyRegistry`. -/
structure Gate where
  protocolVersion : Nat := 1
  activeVersion : String
  bootstrapNonce : String
  deriving DecidableEq, Repr

/-- `ChannelQuotaIdentityKeyVersion`. -/
structure KeyVersion where
  version : String
  fingerprint : String
  deriving DecidableEq, Repr

instance : Keyed String KeyVersion := ⟨KeyVersion.version⟩

/-- `ChannelQuotaIdentityAlias`. -/
structure Alias where
  keyVersion : String
  lookupHMAC : String
  subjectRef : String
  deriving DecidableEq, Repr

instance : Keyed (String × String) Alias := ⟨fun a => (a.keyVersion, a.lookupHMAC)⟩

/-- The tables. -/
structure DB where
  gate : Option Gate := none
  versions : Store String KeyVersion := Store.empty
  aliases : Store (String × String) Alias := Store.empty

/-! ### Registration -/

/-- The loop over the registered versions. -/
def checkRegistered (provided : List Lookup) : List String → List KeyVersion → Except IdentityError Unit
  | _, [] => .ok ()
  | seen, item :: rest => do
    check (canonicalVersion item.version = true ∧ canonicalLowerHex item.fingerprint 64 = true)
      .registryCorrupt
    check (item.fingerprint ∉ seen) .registryCorrupt
    check (∀ l ∈ provided.find? (fun x : Lookup => x.version = item.version), item.fingerprint = l.fingerprint)
      .registryConflict
    checkRegistered provided (item.fingerprint :: seen) rest

/-- The version is registered. -/
def Registered (versions : List KeyVersion) (version : String) : Prop := ∃ item ∈ versions, item.version = version

/-- The version is in the keyring. -/
def Provided (provided : List Lookup) (version : String) : Prop := ∃ l ∈ provided, l.version = version

instance (versions : List KeyVersion) (version : String) : Decidable (Registered versions version) :=
  inferInstanceAs (Decidable (∃ item ∈ versions, item.version = version))

instance (provided : List Lookup) (version : String) : Decidable (Provided provided version) :=
  inferInstanceAs (Decidable (∃ l ∈ provided, l.version = version))

/-- Which keyrings a registry accepts: the current and a new configuration hold every registered version,
one that lags behind holds registered versions only and not the active one. -/
def checkConfiguration (registered : List KeyVersion) (provided : List Lookup)
    (activeVersion gateVersion : String) : Except IdentityError Unit :=
  if registered = [] then .ok ()
  else if activeVersion = gateVersion then
    check (∀ item ∈ registered, Provided provided item.version) .registryConflict
  else if Registered registered activeVersion then do
    check (¬ Provided provided gateVersion) .registryConflict
    check (∀ l ∈ provided, Registered registered l.version) .registryConflict
  else do
    check (∀ item ∈ registered, Provided provided item.version) .registryConflict
    check (Provided provided gateVersion) .registryConflict

/-- Insert a version unless its version or its fingerprint is taken (`ON CONFLICT DO NOTHING`). -/
def insertVersion (versions : Store String KeyVersion) (row : KeyVersion) : Store String KeyVersion :=
  if (versions.get? row.version).isSome ∨ (∃ item ∈ versions.rows, item.fingerprint = row.fingerprint) then versions
  else versions.set row

/-- The loop that registers the new versions. -/
def registerVersions : Store String KeyVersion → List Lookup → Except IdentityError (Store String KeyVersion)
  | versions, [] => .ok versions
  | versions, l :: rest =>
    if (versions.get? l.version).isSome then registerVersions versions rest
    else do
      let versions := insertVersion versions ⟨l.version, l.fingerprint⟩
      let persisted ← need (versions.get? l.version) .registryConflict
      check (canonicalLowerHex persisted.fingerprint 64 = true ∧ persisted.fingerprint = l.fingerprint)
        .registryConflict
      registerVersions versions rest

/-- The active version behind a registration; a configuration that lags behind leaves it. -/
def nextActiveVersion (versions : Store String KeyVersion) (provided : List Lookup)
    (activeVersion gateVersion : String) : String :=
  if activeVersion = gateVersion then gateVersion
  else if (versions.get? activeVersion).isSome ∧ ¬ Provided provided gateVersion then gateVersion
  else activeVersion

/-- `registerChannelQuotaIdentityKeyring`. -/
def registerKeyring (db : DB) (provided : List Lookup) (activeVersion : String) (nonce : Draw) :
    Except IdentityError DB := do
  let gate := db.gate.getD { activeVersion := activeVersion, bootstrapNonce := nonce.1 }
  let gateCreated := gate.bootstrapNonce = nonce.1
  check (gate.protocolVersion = 1 ∧ canonicalVersion gate.activeVersion = true ∧
    canonicalSubject gate.bootstrapNonce = true) .registryCorrupt
  check (¬ (gateCreated ∧ db.versions.rows ≠ [] ∨ ¬ gateCreated ∧ db.versions.rows = [])) .registryCorrupt
  checkRegistered provided [] db.versions.rows
  check (gateCreated ∨ Registered db.versions.rows gate.activeVersion) .registryCorrupt
  checkConfiguration db.versions.rows provided activeVersion gate.activeVersion
  let versions ← registerVersions db.versions provided
  let next := nextActiveVersion versions provided activeVersion gate.activeVersion
  return { db with gate := some { gate with activeVersion := next }, versions := versions }

/-- `EnsureChannelQuotaIdentityKeyring`. -/
def ensureKeyring (d : Digests) (db : DB) (keyring : Keyring) (nonce : Draw) : Except IdentityError DB := do
  validateKeyring d keyring
  registerKeyring db (lookups d none keyring) keyring.active.version nonce

/-! ### Resolution -/

/-- `validateChannelQuotaIdentityAlias`. -/
def validateAlias (a : Alias) (l : Lookup) : Except IdentityError Unit :=
  check (a.keyVersion = l.version ∧ canonicalLowerHex a.lookupHMAC 64 = true ∧ a.lookupHMAC = l.digest ∧
    canonicalSubject a.subjectRef = true) .registryCorrupt

/-- The alias of a lookup. -/
def DB.alias (db : DB) (l : Lookup) : Option Alias := db.aliases.get? (l.version, l.digest)

/-- The first loop of `resolveChannelQuotaIdentityAliases`: the subject of the stored aliases. -/
def findSubject (db : DB) : String → List Lookup → Except IdentityError String
  | subject, [] => .ok subject
  | subject, l :: rest =>
    match db.alias l with
    | none => findSubject db subject rest
    | some a => do
      validateAlias a l
      check (subject = "" ∨ subject = a.subjectRef) .aliasConflict
      findSubject db a.subjectRef rest

/-- Insert an alias unless there is one (`ON CONFLICT DO NOTHING`). -/
def DB.insertAlias (db : DB) (a : Alias) : DB :=
  if (db.aliases.get? (a.keyVersion, a.lookupHMAC)).isSome then db
  else { db with aliases := db.aliases.set a }

/-- The second loop: every lookup gets an alias, and all of them have the subject of the first. -/
def writeAliases : DB → Bool → String → List Lookup → Except IdentityError (DB × String)
  | db, _, subject, [] => .ok (db, subject)
  | db, first, subject, l :: rest => do
    let db := db.insertAlias ⟨l.version, l.digest, subject⟩
    let persisted ← need (db.alias l) .registryCorrupt
    validateAlias persisted l
    check (first = true ∨ subject = persisted.subjectRef) .aliasConflict
    writeAliases db false persisted.subjectRef rest

/-- `resolveChannelQuotaIdentityAliases`. -/
def resolveAliases (db : DB) (provided : List Lookup) (draw : Draw) : Except IdentityError (DB × String) := do
  let subject ← findSubject db "" provided
  writeAliases db true (if subject = "" then draw.1 else subject) provided

/-- `ResolveChannelQuotaIdentity`; the quality depends on the kind only. -/
def resolveIdentity (d : Digests) (db : DB) (keyring : Keyring) (identity : AccountIdentity)
    (nonce draw : Draw) : Except IdentityError (DB × String) := do
  validateKeyring d keyring
  check (identity.valid = true) .inputInvalid
  let db ← registerKeyring db (lookups d (some identity) keyring) keyring.active.version nonce
  resolveAliases db (lookups d (some identity) keyring) draw

/-! ### What a registration does -/

section Registration

variable {provided : List Lookup} {versions versions' : Store String KeyVersion} {v : String}

theorem get?_insertVersion_of_some {row item : KeyVersion} (h : versions.get? v = some item) :
    (insertVersion versions row).get? v = some item := by
  unfold insertVersion
  split
  · exact h
  · next hfree =>
    rw [get?_set_of_ne, h]
    rintro rfl
    refine hfree (.inl ?_)
    show (versions.get? (Keyed.key row)).isSome = true
    rw [h]
    rfl

theorem get?_insertVersion {row item : KeyVersion}
    (h : (insertVersion versions row).get? v = some item) :
    versions.get? v = some item ∨ item = row := by
  unfold insertVersion at h
  split at h
  · exact .inl h
  · rw [get?_set] at h
    split at h
    · exact .inr (some.inj h).symm
    · exact .inl h

variable {registered : List KeyVersion}

/-- The loop over the registered versions compares every version of the keyring with its row. -/
theorem checkRegistered_ok {seen : List String}
    (hnodup : (provided.map Lookup.version).Nodup) (h : checkRegistered provided seen registered = .ok ()) :
    ∀ item ∈ registered, ∀ l ∈ provided, l.version = item.version → item.fingerprint = l.fingerprint := by
  induction registered generalizing seen with
  | nil => exact fun item hitem => by (cases hitem)
  | cons item rest ih =>
    simp only [checkRegistered, bind_eq_ok, check_eq_ok] at h
    obtain ⟨_, -, _, -, _, hitem, h⟩ := h
    refine forall_mem_cons.mpr ⟨fun l hl hversion => ?_, ih h⟩
    refine hitem l ?_
    cases hfind : provided.find? (fun x : Lookup => x.version = item.version) with
    | none => exact absurd hversion (by simpa using find?_eq_none.mp hfind l hl)
    | some l' =>
      have hversion' : l'.version = item.version := by simpa using find?_some hfind
      rw [inj_on_of_nodup_map hnodup hl (mem_of_find?_eq_some hfind)
        (hversion.trans hversion'.symm)]
      rfl

/-- The loop keeps the registered versions and binds the versions of the keyring to its keys. -/
theorem registerVersions_ok {l : List Lookup} (hnodup : (l.map Lookup.version).Nodup)
    (hmatch : ∀ x ∈ l, ∀ item, versions.get? x.version = some item → item.fingerprint = x.fingerprint)
    (h : registerVersions versions l = .ok versions') :
    (∀ v item, versions.get? v = some item → versions'.get? v = some item) ∧
      (∀ v, (versions'.get? v).isSome → (versions.get? v).isSome ∨ Provided l v) ∧
      ∀ x ∈ l, ∃ item, versions'.get? x.version = some item ∧ item.fingerprint = x.fingerprint := by
  induction l generalizing versions with
  | nil =>
    cases h
    exact ⟨fun _ _ hv => hv, fun _ => .inl, fun x hx => by (cases hx)⟩
  | cons x rest ih =>
    obtain ⟨hx, hrest⟩ := nodup_cons.mp hnodup
    rw [registerVersions] at h
    split at h
    · next hold =>
      obtain ⟨hkeep, hnew, hbind⟩ := ih hrest (fun y hy => hmatch y (mem_cons_of_mem x hy)) h
      obtain ⟨item, hitem⟩ := isSome_iff_exists.mp hold
      refine ⟨hkeep, fun v hv => (hnew v hv).imp id fun ⟨l, hl, hv⟩ => ⟨l, mem_cons_of_mem x hl, hv⟩,
        forall_mem_cons.mpr ⟨⟨item, hkeep _ _ hitem, ?_⟩, hbind⟩⟩
      exact hmatch x mem_cons_self item hitem
    · simp only [bind_eq_ok, need_eq_ok, check_eq_ok] at h
      obtain ⟨item, hitem, _, ⟨-, hfingerprint⟩, h⟩ := h
      have hmatch' : ∀ y ∈ rest, ∀ i,
          (insertVersion versions ⟨x.version, x.fingerprint⟩).get? y.version = some i →
            i.fingerprint = y.fingerprint := by
        intro y hy i hi
        rcases get?_insertVersion hi with hold | rfl
        · exact hmatch y (mem_cons_of_mem x hy) i hold
        · exact absurd (get?_key hi) fun he => hx (mem_map.mpr ⟨y, hy, he.symm⟩)
      obtain ⟨hkeep, hnew, hbind⟩ := ih hrest hmatch' h
      refine ⟨fun v i hv => hkeep v i (get?_insertVersion_of_some hv), fun v hv => ?_,
        forall_mem_cons.mpr ⟨⟨item, hkeep _ _ hitem, hfingerprint⟩, hbind⟩⟩
      rcases hnew v hv with hv | ⟨l, hl, hv⟩
      · obtain ⟨i, hi⟩ := isSome_iff_exists.mp hv
        rcases get?_insertVersion hi with hold | rfl
        · exact .inl (by rw [hold]; rfl)
        · exact .inr ⟨x, mem_cons_self, get?_key hi⟩
      · exact .inr ⟨l, mem_cons_of_mem x hl, hv⟩

theorem registered_iff : Registered versions.rows v ↔ (versions.get? v).isSome = true := by
  constructor
  · rintro ⟨item, hitem, rfl⟩
    rw [show versions.get? item.version = some item from get?_of_mem hitem]
    rfl
  · intro h
    obtain ⟨item, hitem⟩ := isSome_iff_exists.mp h
    exact ⟨item, get?_mem hitem, get?_key hitem⟩

/-- The keyring lags behind: its active version is registered but not the active one. -/
def Lagging (db : DB) (activeVersion : String) : Prop :=
  Registered db.versions.rows activeVersion ∧ ∀ gate ∈ db.gate, gate.activeVersion ≠ activeVersion

instance (db : DB) (activeVersion : String) : Decidable (Lagging db activeVersion) :=
  inferInstanceAs (Decidable (_ ∧ _))

variable {activeVersion : String}

/-- What the three configurations say. -/
theorem checkConfiguration_ok {gateVersion : String}
    (hgate : Registered registered gateVersion)
    (h : checkConfiguration registered provided activeVersion gateVersion = .ok ()) :
    (activeVersion = gateVersion ∧ ∀ item ∈ registered, Provided provided item.version) ∨
    (activeVersion ≠ gateVersion ∧ Registered registered activeVersion ∧ ¬ Provided provided gateVersion) ∨
    (activeVersion ≠ gateVersion ∧ ¬ Registered registered activeVersion ∧
      (∀ item ∈ registered, Provided provided item.version) ∧ Provided provided gateVersion) := by
  unfold checkConfiguration at h
  split at h
  · next hempty =>
    obtain ⟨item, hitem, -⟩ := hgate
    rw [hempty] at hitem
    cases hitem
  split at h
  · next hcurrent => exact .inl ⟨hcurrent, check_eq_ok.mp h⟩
  next hother =>
  split at h
  · next hold =>
    simp only [bind_eq_ok, check_eq_ok] at h
    obtain ⟨_, hlacks, -⟩ := h
    exact .inr (.inl ⟨hother, hold, hlacks⟩)
  · next hnew =>
    simp only [bind_eq_ok, check_eq_ok] at h
    obtain ⟨_, hall, hholds⟩ := h
    exact .inr (.inr ⟨hother, hnew, hall, hholds⟩)

/-- What an accepted registration does. -/
structure Registers (db : DB) (provided : List Lookup) (activeVersion : String) (nonce : Draw) (db' : DB) :
    Prop where
  aliases : db'.aliases = db.aliases
  keeps : ∀ v item, db.versions.get? v = some item → db'.versions.get? v = some item
  bound : ∀ l ∈ provided, ∃ item, db'.versions.get? l.version = some item ∧ item.fingerprint = l.fingerprint
  covers : Lagging db activeVersion ∨ ∀ item ∈ db.versions.rows, Provided provided item.version
  gate : ∃ gate, db'.gate = some gate ∧ Registered db'.versions.rows gate.activeVersion ∧
    (db.gate = none → gate.bootstrapNonce = nonce.1) ∧ ∀ old ∈ db.gate, gate.bootstrapNonce = old.bootstrapNonce ∧
      (gate.activeVersion = old.activeVersion ∨ ¬ Registered db.versions.rows gate.activeVersion)

/-- A new registry has no versions, and an old one has been started with another nonce. -/
structure DB.Started (db : DB) (nonce : Draw) : Prop where
  new : db.gate = none → db.versions.rows = []
  old : ∀ gate ∈ db.gate, gate.bootstrapNonce ≠ nonce.1

theorem registerKeyring_ok {db db' : DB} {nonce : Draw}
    (hstarted : db.Started nonce) (hnodup : (provided.map Lookup.version).Nodup)
    (hactive : Provided provided activeVersion)
    (h : registerKeyring db provided activeVersion nonce = .ok db') :
    Registers db provided activeVersion nonce db' := by
  simp only [registerKeyring, bind_eq_ok, check_eq_ok] at h
  obtain ⟨_, -, _, -, _, hregistered, _, hgate, _, hconfiguration, versions, hversions, hdb⟩ := h
  cases hdb
  have hmatch := checkRegistered_ok hnodup hregistered
  obtain ⟨hkeep, -, hbind⟩ := registerVersions_ok hnodup
    (fun x hx item hitem => hmatch item (get?_mem hitem) x hx (get?_key hitem).symm) hversions
  have hheld : ∀ v, Registered db.versions.rows v → Registered versions.rows v := by
    intro v hv
    obtain ⟨item, hitem⟩ := isSome_iff_exists.mp (registered_iff.mp hv)
    exact registered_iff.mpr (by rw [hkeep v item hitem]; rfl)
  have hactiveNow : (versions.get? activeVersion).isSome = true := by
    obtain ⟨l, hl, rfl⟩ := hactive
    obtain ⟨item, hitem, -⟩ := hbind l hl
    rw [hitem]
    rfl
  cases hg : db.gate with
  | none =>
    refine ⟨rfl, hkeep, hbind, .inr ?_, _, rfl, ?_, fun _ => rfl, fun old hold => ?_⟩
    · rw [hstarted.new hg]
      exact fun item hitem => by (cases hitem)
    · simp only [getD_none, nextActiveVersion, if_true]
      exact registered_iff.mpr hactiveNow
    · rw [hg] at hold
      cases hold
  | some gate =>
    rw [hg] at hgate hconfiguration
    simp only [getD_some] at hgate hconfiguration ⊢
    have hgate := hgate.resolve_left (hstarted.old gate hg)
    have hsame : ∀ old ∈ db.gate, old = gate := fun old hold => some.inj (hold.symm.trans hg)
    rcases checkConfiguration_ok hgate hconfiguration with ⟨hcurrent, hall⟩ | ⟨hother, hold, hlacks⟩ |
      ⟨hother, hnew, hall, hholds⟩
    · refine ⟨rfl, hkeep, hbind, .inr hall, _, rfl, ?_, fun hn => absurd (hg.symm.trans hn) (by simp), fun old hold => ?_⟩
      · simp only [nextActiveVersion, if_pos hcurrent]
        exact hheld _ hgate
      · rw [hsame old hold, nextActiveVersion, if_pos hcurrent]
        exact ⟨rfl, .inl rfl⟩
    · have hnext : nextActiveVersion versions provided activeVersion gate.activeVersion = gate.activeVersion := by
        rw [nextActiveVersion, if_neg hother, if_pos ⟨hactiveNow, hlacks⟩]
      refine ⟨rfl, hkeep, hbind, .inl ⟨hold, fun g hg' => ?_⟩, _, rfl, ?_, fun hn => absurd (hg.symm.trans hn) (by simp), fun old hold => ?_⟩
      · rw [hsame g hg']
        exact fun he => hother he.symm
      · rw [hnext]
        exact hheld _ hgate
      · rw [hsame old hold, hnext]
        exact ⟨rfl, .inl rfl⟩
    · have hnext : nextActiveVersion versions provided activeVersion gate.activeVersion = activeVersion := by
        rw [nextActiveVersion, if_neg hother, if_neg fun hc => hc.2 hholds]
      refine ⟨rfl, hkeep, hbind, .inr hall, _, rfl, ?_, fun hn => absurd (hg.symm.trans hn) (by simp), fun old hold => ?_⟩
      · rw [hnext]
        exact registered_iff.mpr hactiveNow
      · rw [hsame old hold, hnext]
        exact ⟨rfl, .inr hnew⟩

end Registration

/-! ### What a resolution does -/

section Resolution

variable {db db' : DB} {provided : List Lookup} {result subject : String}

/-- The first loop returns the one subject of the stored aliases, or the one it started with. -/
theorem findSubject_ok (h : findSubject db subject provided = .ok result) :
    (∀ l ∈ provided, ∀ a ∈ db.alias l, a.subjectRef = result ∧ result ≠ "") ∧
      (subject ≠ "" → result = subject) ∧ ((∀ l ∈ provided, db.alias l = none) → result = subject) := by
  induction provided generalizing subject with
  | nil =>
    cases h
    exact ⟨fun l hl => by (cases hl), fun _ => rfl, fun _ => rfl⟩
  | cons l rest ih =>
    rw [findSubject] at h
    split at h
    · next hnone =>
      obtain ⟨hall, hkeep, hempty⟩ := ih h
      refine ⟨forall_mem_cons.mpr ⟨?_, hall⟩, hkeep,
        fun hn => hempty fun x hx => hn x (mem_cons_of_mem l hx)⟩
      rw [hnone]
      exact fun a ha => by (cases ha)
    · next a ha =>
      simp only [bind_eq_ok, check_eq_ok, validateAlias] at h
      obtain ⟨_, hvalid, _, hsame, h⟩ := h
      obtain ⟨hall, hkeep, -⟩ := ih h
      have hne : a.subjectRef ≠ "" := canonicalSubject_ne_empty hvalid.2.2.2
      have hresult : result = a.subjectRef := hkeep hne
      refine ⟨forall_mem_cons.mpr ⟨?_, hall⟩, fun hsubject => ?_, fun hn => ?_⟩
      · intro a' ha'
        cases ha.symm.trans ha'
        exact ⟨hresult.symm, hresult ▸ hne⟩
      · rw [hresult]
        exact (hsame.resolve_left hsubject).symm
      · rw [hn l mem_cons_self] at ha
        cases ha

variable {t : String}

/-- The first loop finds no conflict among aliases with one subject. -/
theorem findSubject_no_conflict (hsubject : subject = "" ∨ subject = t)
    (hall : ∀ l ∈ provided, ∀ a ∈ db.alias l, a.subjectRef = t) :
    Avoids .aliasConflict (findSubject db subject provided) := by
  induction provided generalizing subject with
  | nil => simp [findSubject]
  | cons l rest ih =>
    obtain ⟨hl, hrest⟩ := forall_mem_cons.mp hall
    rw [findSubject]
    split
    · exact ih hsubject hrest
    · next a ha =>
      have hat : a.subjectRef = t := hl a ha
      simp [validateAlias, hat, hsubject, ih (.inr rfl) hrest]

/-- The alias of a lookup with a subject. -/
def Lookup.alias (l : Lookup) (subject : String) : Alias := ⟨l.version, l.digest, subject⟩

/-- An insertion keeps what is stored. -/
theorem get?_insertAlias_of_some {a x : Alias} {k : String × String} (h : db.aliases.get? k = some x) :
    (db.insertAlias a).aliases.get? k = some x := by
  unfold DB.insertAlias
  split
  · exact h
  · next hfree =>
    rw [get?_set_of_ne, h]
    rintro rfl
    refine hfree ?_
    rw [show db.aliases.get? (a.keyVersion, a.lookupHMAC) = some x from h]
    rfl

theorem mem_insertAlias {a x : Alias} (h : x ∈ (db.insertAlias a).aliases.rows) :
    x ∈ db.aliases.rows ∨ x = a := by
  unfold DB.insertAlias at h
  split at h
  · exact .inl h
  · rcases mem_set.mp h with rfl | ⟨hx, -⟩
    · exact .inr rfl
    · exact .inl hx

variable {l : Lookup}

/-- Behind an insertion the aliases of the lookups still have one subject. -/
theorem insertAlias_one_subject
    (hone : ∀ x ∈ provided, ∀ a ∈ db.alias x, a.subjectRef = subject) :
    ∀ x ∈ provided, ∀ a ∈ (db.insertAlias (l.alias subject)).alias x, a.subjectRef = subject := by
  intro x hx a ha
  rcases mem_insertAlias (get?_mem ha) with hold | rfl
  · have hkey : Keyed.key a = (x.version, x.digest) := get?_key ha
    exact hone x hx a (by rw [DB.alias, ← hkey]; exact get?_of_mem hold)
  · rfl

/-- What the second loop does when the stored aliases have the subject. -/
structure Writes (db : DB) (provided : List Lookup) (subject : String) (db' : DB) : Prop where
  gate : db'.gate = db.gate
  versions : db'.versions = db.versions
  keeps : ∀ k a, db.aliases.get? k = some a → db'.aliases.get? k = some a
  written : ∀ l ∈ provided, db'.alias l = some (l.alias subject)
  rows : ∀ a ∈ db'.aliases.rows, a ∈ db.aliases.rows ∨ ∃ l ∈ provided, a = l.alias subject

theorem insertAlias_alias (hone : ∀ a ∈ db.alias l, a.subjectRef = subject) :
    (db.insertAlias (l.alias subject)).alias l = some (l.alias subject) := by
  unfold DB.insertAlias
  split
  · next hsome =>
    obtain ⟨a, ha⟩ := isSome_iff_exists.mp hsome
    have hkey := get?_key ha
    have hsubject : a.subjectRef = subject := hone a ha
    rw [show db.alias l = some a from ha]
    cases a
    cases hkey
    cases hsubject
    rfl
  · exact db.aliases.get?_set_self (l.alias subject)

theorem insertAlias_gate (a : Alias) : (db.insertAlias a).gate = db.gate := by
  unfold DB.insertAlias
  split <;> rfl

theorem insertAlias_versions (a : Alias) : (db.insertAlias a).versions = db.versions := by
  unfold DB.insertAlias
  split <;> rfl

variable {first : Bool}

section

variable (hone : ∀ l ∈ provided, ∀ a ∈ db.alias l, a.subjectRef = subject)
include hone

theorem writeAliases_ok
    (h : writeAliases db first subject provided = .ok (db', result)) :
    result = subject ∧ Writes db provided subject db' := by
  induction provided generalizing db first with
  | nil =>
    cases h
    exact ⟨rfl, rfl, rfl, fun _ _ ha => ha, fun l hl => by (cases hl), fun a => .inl⟩
  | cons l rest ih =>
    simp only [writeAliases, bind_eq_ok, need_eq_ok, check_eq_ok] at h
    obtain ⟨a, ha, _, -, _, -, h⟩ := h
    have halias := insertAlias_alias (hone l mem_cons_self)
    cases halias.symm.trans ha
    obtain ⟨hresult, hwrites⟩ := ih (insertAlias_one_subject fun x hx => hone x (mem_cons_of_mem l hx)) h
    refine ⟨hresult, hwrites.gate.trans (insertAlias_gate _), hwrites.versions.trans (insertAlias_versions _),
      fun k x hx => hwrites.keeps k x (get?_insertAlias_of_some hx),
      forall_mem_cons.mpr ⟨hwrites.keeps _ _ halias, hwrites.written⟩, fun x hx => ?_⟩
    rcases hwrites.rows x hx with hold | ⟨y, hy, hxy⟩
    · exact (mem_insertAlias hold).imp id fun he => ⟨l, mem_cons_self, he⟩
    · exact .inr ⟨y, mem_cons_of_mem l hy, hxy⟩

theorem writeAliases_no_conflict
    :
    Avoids .aliasConflict (writeAliases db first subject provided) := by
  induction provided generalizing db first with
  | nil => simp [writeAliases]
  | cons l rest ih =>
    have halias := insertAlias_alias (hone l mem_cons_self)
    have hrest := @ih (db.insertAlias (l.alias subject)) false
      (insertAlias_one_subject fun x hx => hone x (mem_cons_of_mem l hx))
    simp only [Lookup.alias] at halias hrest
    simp [writeAliases, validateAlias, halias, hrest]

end

variable {draw : Draw}

/-- Aliases with one subject: the resolution returns it, or the new one when there are none. -/
theorem resolveAliases_ok (h : resolveAliases db provided draw = .ok (db', result)) :
    ((∀ l ∈ provided, db.alias l = none) ∧ result = draw.1 ∨
      ∃ l ∈ provided, ∃ a ∈ db.alias l, a.subjectRef = result) ∧ Writes db provided result db' := by
  simp only [resolveAliases, bind_eq_ok] at h
  obtain ⟨subject, hfind, h⟩ := h
  obtain ⟨hall, -, hnone⟩ := findSubject_ok hfind
  by_cases hempty : ∀ l ∈ provided, db.alias l = none
  · obtain rfl : subject = "" := hnone hempty
    have hone : ∀ l ∈ provided, ∀ a ∈ db.alias l, a.subjectRef = draw.1 := by
      intro l hl a ha
      rw [hempty l hl] at ha
      cases ha
    obtain ⟨rfl, hwrites⟩ := writeAliases_ok hone h
    exact ⟨.inl ⟨hempty, rfl⟩, hwrites⟩
  · obtain ⟨l, hl⟩ := not_forall.mp hempty
    obtain ⟨hl, hsome⟩ := Classical.not_imp.mp hl
    obtain ⟨a, ha⟩ := ne_none_iff_exists'.mp hsome
    obtain ⟨hsubject, hne⟩ := hall l hl a ha
    rw [if_neg hne] at h
    obtain ⟨rfl, hwrites⟩ := writeAliases_ok (fun x hx b hb => (hall x hx b hb).1) h
    exact ⟨.inr ⟨l, hl, a, ha, hsubject⟩, hwrites⟩

/-- Stored aliases with one subject are no conflict. -/
theorem resolveAliases_no_conflict
    (hall : ∀ l ∈ provided, ∀ a ∈ db.alias l, a.subjectRef = t) :
    Avoids .aliasConflict (resolveAliases db provided draw) := by
  rw [resolveAliases, avoids_bind]
  refine ⟨findSubject_no_conflict (.inl rfl) hall, fun subject hfind => ?_⟩
  obtain ⟨hone, -, hnone⟩ := findSubject_ok hfind
  refine writeAliases_no_conflict fun l hl a ha => ?_
  obtain ⟨hsubject, hne⟩ := hone l hl a ha
  rw [if_neg hne]
  exact hsubject

end Resolution

end MyApiSpec.Identity
