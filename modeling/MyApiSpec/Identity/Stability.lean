import MyApiSpec.Base.Run
import MyApiSpec.Identity.Registry

/-!
# Account identities across key rotation

Which aliases exist for an identity depends on the keyrings of all nodes that resolved it. A current or
a new configuration holds every registered version, so that it meets every earlier keyring in a common
alias. A keyring that lags behind is admitted with any registered versions: two of them may have no
version in common, and then they give one identity two subjects.
-/

namespace MyApiSpec.Identity

open Base List

/-! ### Runs -/

variable {provided : List Lookup}

/-- The calls of the nodes. -/
inductive Call where
  | ensure (keyring : Keyring)
  | resolve (keyring : Keyring) (identity : AccountIdentity)
  deriving DecidableEq, Repr

/-- A call with what it draws. -/
structure Action where
  call : Call
  nonce : Draw
  subject : Draw

/-- A successful resolution. -/
structure Resolution where
  keyring : Keyring
  identity : AccountIdentity
  subject : String
  deriving DecidableEq, Repr

/-- The tables, and the record of a run: what was drawn, the accepted keyrings, the successful
resolutions, and the active versions that the registry has left. -/
structure World where
  db : DB := {}
  drawn : List String := []
  accepted : List Keyring := []
  resolutions : List Resolution := []
  left : List String := []

/-- The active version of the registry. -/
def DB.activeVersion (db : DB) : Option String := db.gate.map Gate.activeVersion

/-- An accepted call with the tables behind it. -/
def World.accept (w : World) (keyring : Keyring) (db : DB) : World :=
  { w with
    db := db
    accepted := keyring :: w.accepted
    left := (w.db.activeVersion.filter (fun v => db.activeVersion ≠ some v)).toList ++ w.left }

/-- One serialised call; draws never repeat. A rejected call changes nothing. -/
def step (d : Digests) (w : World) (a : Action) : Option World :=
  if a.nonce.1 ∈ w.drawn ∨ a.subject.1 ∈ w.drawn ∨ a.nonce = a.subject then none
  else
    let w := { w with drawn := a.nonce.1 :: a.subject.1 :: w.drawn }
    match a.call with
    | .ensure keyring =>
      match ensureKeyring d w.db keyring a.nonce with
      | .ok db => some (w.accept keyring db)
      | .error _ => some w
    | .resolve keyring identity =>
      match resolveIdentity d w.db keyring identity a.nonce a.subject with
      | .ok (db, subject) =>
        some { w.accept keyring db with resolutions := ⟨keyring, identity, subject⟩ :: w.resolutions }
      | .error _ => some w

/-- A state that some interleaving of calls reaches. -/
def Reaches (d : Digests) (w : World) : Prop := ∃ actions, run (step d) {} actions = some w

/-- The keyrings have a version in common. -/
def Meeting (k k' : Keyring) : Prop := ∃ key ∈ k.keys, ∃ key' ∈ k'.keys, key.version = key'.version

instance (k k' : Keyring) : Decidable (Meeting k k') :=
  inferInstanceAs (Decidable (∃ key ∈ k.keys, ∃ key' ∈ k'.keys, key.version = key'.version))

/-- A keyring that lags behind resolves an identity that was resolved before only if it has a version in
common with a keyring that resolved it. -/
def Overlapping (w : World) (a : Action) : Prop :=
  match a.call with
  | .ensure _ => True
  | .resolve keyring identity => Lagging w.db keyring.active.version →
    (∃ r ∈ w.resolutions, r.identity = identity) →
      ∃ r ∈ w.resolutions, r.identity = identity ∧ Meeting keyring r.keyring

instance (w : World) (a : Action) : Decidable (Overlapping w a) := by
  unfold Overlapping
  split <;> infer_instance

/-! ### The invariant -/

/-- The invariant of all runs: what is registered, and where the aliases come from. -/
structure Inv (d : Digests) (w : World) : Prop where
  gate : ∀ g ∈ w.db.gate, g.bootstrapNonce ∈ w.drawn ∧ Registered w.db.versions.rows g.activeVersion
  empty : w.db.gate = none → w.db.versions.rows = []
  left : ∀ v ∈ w.left, Registered w.db.versions.rows v ∧ w.db.activeVersion ≠ some v
  bound : ∀ k ∈ w.accepted, ∀ key ∈ k.keys, ∃ item, w.db.versions.get? key.version = some item ∧
    item.fingerprint = d.fingerprint key.secret
  resolved : ∀ r ∈ w.resolutions, r.keyring ∈ w.accepted ∧ ∀ key ∈ r.keyring.keys,
    w.db.alias (lookupOf d (some r.identity) key) = some ((lookupOf d (some r.identity) key).alias r.subject)
  aliases : ∀ a ∈ w.db.aliases.rows, ∃ r ∈ w.resolutions, ∃ key ∈ r.keyring.keys,
    a = (lookupOf d (some r.identity) key).alias r.subject

/-- Subjects stand for identities. -/
structure Stable (w : World) : Prop where
  drawn : ∀ r ∈ w.resolutions, r.subject ∈ w.drawn
  subjects : ∀ r ∈ w.resolutions, ∀ r' ∈ w.resolutions, r.identity = r'.identity ↔ r.subject = r'.subject

section Steps

variable {d : Digests} {w w' : World} {identity : Option AccountIdentity} {k : Keyring} {a : Action}

theorem inv_init : Inv d {} :=
  ⟨fun _ h => by (cases h), fun _ => rfl, fun _ h => by (cases h), fun _ h => by (cases h),
    fun _ h => by (cases h), fun _ h => by (cases h)⟩

/-- More draws do not matter. -/
theorem Inv.draw (h : Inv d w) (draws : List String) : Inv d { w with drawn := draws ++ w.drawn } :=
  { h with gate := fun g hg => ⟨mem_append_right _ (h.gate g hg).1, (h.gate g hg).2⟩ }

theorem lookups_nodup (h : validateKeyring d k = .ok ()) :
    ((lookups d identity k).map Lookup.version).Nodup := by
  have hperm := (perm_insertionSort (fun a b : Lookup => a.version ≤ b.version)
    (k.keys.map (lookupOf d identity))).map Lookup.version
  refine hperm.nodup_iff.mpr ?_
  rw [map_map]
  exact (check_eq_ok.mp h).2.2.2.1

theorem provided_active : Provided (lookups d identity k) k.active.version :=
  ⟨lookupOf d identity k.active, mem_lookups.mpr ⟨k.active, mem_cons_self, rfl⟩, rfl⟩

variable {nonce : Draw}

/-- A nonce that was not drawn before does not start the registry again. -/
theorem Inv.started (h : Inv d w) (hnew : nonce.1 ∉ w.drawn) : w.db.Started nonce :=
  ⟨h.empty, fun g hg he => hnew (he ▸ (h.gate g hg).1)⟩

variable {db : DB}

/-- An accepted registration keeps the invariant. -/
theorem Inv.accept (h : Inv d w)
    (hr : Registers w.db (lookups d identity k) k.active.version nonce db)
    (hdrawn : nonce.1 ∈ w.drawn) : Inv d (w.accept k db) := by
  have hheld : ∀ v, Registered w.db.versions.rows v → Registered db.versions.rows v := by
    intro v hv
    obtain ⟨item, hitem⟩ := Option.isSome_iff_exists.mp (registered_iff.mp hv)
    exact registered_iff.mpr (by rw [hr.keeps v item hitem]; rfl)
  obtain ⟨g, hg, hactive, hstart, hnext⟩ := hr.gate
  have halias : ∀ l, db.alias l = w.db.alias l := fun l => by rw [DB.alias, DB.alias, hr.aliases]
  refine ⟨fun g' hg' => ?_, fun hnone => ?_, fun v hv => ?_, fun k' hk' key hkey => ?_,
    fun r hr' => ⟨mem_cons_of_mem k (h.resolved r hr').1, fun key hkey => ?_⟩, fun a ha => ?_⟩
  · cases Option.mem_def.mp hg' |>.symm.trans hg
    refine ⟨?_, hactive⟩
    cases hold : w.db.gate with
    | none =>
      rw [hstart hold]
      exact hdrawn
    | some old =>
      rw [(hnext old hold).1]
      exact (h.gate old hold).1
  · cases hg.symm.trans hnone
  · -- a version is left when another one becomes active, which was not registered before
    have hnow : ∀ v, (w.accept k db).db.activeVersion = some v ↔ v = g.activeVersion := by
      intro v
      show db.gate.map Gate.activeVersion = some v ↔ _
      rw [hg]
      exact ⟨fun he => (Option.some.inj he).symm, fun he => by rw [he]; rfl⟩
    rcases mem_append.mp hv with hv | hv
    · obtain ⟨hv, hchanged⟩ := Option.filter_eq_some_iff.mp (Option.mem_toList.mp hv)
      obtain ⟨old, hold, rfl⟩ := Option.map_eq_some_iff.mp hv
      exact ⟨hheld _ (h.gate old hold).2, of_decide_eq_true hchanged⟩
    · refine ⟨hheld v (h.left v hv).1, fun he => ?_⟩
      obtain rfl := (hnow v).mp he
      cases hold : w.db.gate with
      | none =>
        obtain ⟨item, hitem, -⟩ := (h.left _ hv).1
        rw [h.empty hold] at hitem
        cases hitem
      | some old =>
        rcases (hnext old hold).2 with hsame | hnew
        · exact (h.left _ hv).2 (by rw [DB.activeVersion, hold, Option.map_some, hsame])
        · exact hnew (h.left _ hv).1
  · rcases mem_cons.mp hk' with rfl | hk'
    · exact hr.bound _ (mem_lookups.mpr ⟨key, hkey, rfl⟩)
    · obtain ⟨item, hitem, hf⟩ := h.bound k' hk' key hkey
      exact ⟨item, hr.keeps _ _ hitem, hf⟩
  · exact (halias _).trans ((h.resolved r hr').2 key hkey)
  · exact h.aliases a (hr.aliases ▸ ha)

variable {identity : AccountIdentity} {key : Key}

/-- The aliases of a lookup come from resolutions of its identity. -/
theorem Inv.alias_identity (h : Inv d w) {a : Alias}
    (ha : a ∈ w.db.alias (lookupOf d (some identity) key)) :
    ∃ r ∈ w.resolutions, r.identity = identity ∧ a.subjectRef = r.subject := by
  obtain ⟨r, hr, key', hkey', rfl⟩ := h.aliases a (Store.get?_mem ha)
  have hkey := congrArg Prod.snd (Store.get?_key ha)
  obtain ⟨-, rfl⟩ := d.lookupHMAC_injective hkey
  exact ⟨r, hr, rfl, rfl⟩

variable {k' : Keyring}

/-- A version of two accepted keyrings has one key. -/
theorem Inv.one_key (h : Inv d w) (hk : k ∈ w.accepted) (hk' : k' ∈ w.accepted)
    {key' : Key} (hkey : key ∈ k.keys) (hkey' : key' ∈ k'.keys)
    (hversion : key.version = key'.version) : key.secret = key'.secret := by
  obtain ⟨item, hitem, hf⟩ := h.bound k hk key hkey
  obtain ⟨item', hitem', hf'⟩ := h.bound k' hk' key' hkey'
  rw [hversion] at hitem
  cases hitem.symm.trans hitem'
  exact d.fingerprint_injective (hf.symm.trans hf')

/-- A keyring that has a version in common with a keyring that resolved an identity finds its alias. -/
theorem Inv.alias_of_meeting (h : Inv d w) {r : Resolution} (hk : k ∈ w.accepted)
    (hr : r ∈ w.resolutions) (hmeet : Meeting k r.keyring) :
    ∃ l ∈ lookups d (some r.identity) k, w.db.alias l ≠ none := by
  obtain ⟨key, hkey, key', hkey', hversion⟩ := hmeet
  have hsecret := h.one_key hk (h.resolved r hr).1 hkey hkey' hversion
  obtain rfl : key = key' := by
    cases key
    cases key'
    cases hversion
    cases hsecret
    rfl
  refine ⟨_, mem_lookups.mpr ⟨key, hkey, rfl⟩, ?_⟩
  rw [(h.resolved r hr).2 key hkey']
  simp

/-- What a resolution behind its registration keeps. -/
theorem Inv.resolve {draw : Draw} {subject : String}
    (h : Inv d w) (hk : k ∈ w.accepted)
    (hres : resolveAliases w.db (lookups d (some identity) k) draw = .ok (db, subject)) :
    Inv d { w with db := db, resolutions := ⟨k, identity, subject⟩ :: w.resolutions } := by
  obtain ⟨-, hwrites⟩ := resolveAliases_ok hres
  refine ⟨?_, ?_, ?_, ?_, fun r hr => ?_, fun a ha => ?_⟩
  · rw [hwrites.gate, hwrites.versions]
    exact h.gate
  · rw [hwrites.gate, hwrites.versions]
    exact h.empty
  · rw [DB.activeVersion, hwrites.gate, hwrites.versions]
    exact h.left
  · rw [hwrites.versions]
    exact h.bound
  · rcases mem_cons.mp hr with rfl | hr
    · exact ⟨hk, fun key hkey => hwrites.written _ (mem_lookups.mpr ⟨key, hkey, rfl⟩)⟩
    · exact ⟨(h.resolved r hr).1, fun key hkey => hwrites.keeps _ _ ((h.resolved r hr).2 key hkey)⟩
  · rcases hwrites.rows a ha with hold | ⟨l, hl, rfl⟩
    · obtain ⟨r, hr, hkey⟩ := h.aliases a hold
      exact ⟨r, mem_cons_of_mem _ hr, hkey⟩
    · obtain ⟨key, hkey, rfl⟩ := mem_lookups.mp hl
      exact ⟨_, mem_cons_self, key, hkey, rfl⟩

/-- The world with the draws of an action. -/
def World.draw (w : World) (a : Action) : World :=
  { w with drawn := a.nonce.1 :: a.subject.1 :: w.drawn }

/-- What a step can do. -/
inductive Step (d : Digests) (w : World) (a : Action) : World → Prop
  | rejected : Step d w a (w.draw a)
  | ensured {k : Keyring} {db : DB} (call : a.call = .ensure k)
      (registers : Registers w.db (lookups d none k) k.active.version a.nonce db) :
      Step d w a ((w.draw a).accept k db)
  | resolved {k : Keyring} {identity : AccountIdentity} {db db' : DB} {subject : String}
      (call : a.call = .resolve k identity)
      (registers : Registers w.db (lookups d (some identity) k) k.active.version a.nonce db)
      (resolves : resolveAliases db (lookups d (some identity) k) a.subject = .ok (db', subject)) :
      Step d w a { (w.draw a).accept k db with
        db := db'
        resolutions := ⟨k, identity, subject⟩ :: w.resolutions }

theorem step_cases (h : Inv d w) (hstep : step d w a = some w') :
    a.nonce.1 ∉ w.drawn ∧ a.subject.1 ∉ w.drawn ∧ Step d w a w' := by
  unfold step at hstep
  split at hstep
  · cases hstep
  next hfresh =>
  obtain ⟨hnonce, hsubject, -⟩ := not_or.mp hfresh |>.imp id not_or.mp
  have hstarted := h.started hnonce
  refine ⟨hnonce, hsubject, ?_⟩
  simp only at hstep
  split at hstep
  · next k hcall =>
    split at hstep <;> cases hstep
    · next db hensure =>
      simp only [ensureKeyring, bind_eq_ok] at hensure
      obtain ⟨_, hvalid, hregister⟩ := hensure
      exact .ensured hcall (registerKeyring_ok hstarted (lookups_nodup hvalid) provided_active hregister)
    · exact .rejected
  · next k identity hcall =>
    split at hstep <;> cases hstep
    · next db' subject hresolve =>
      simp only [resolveIdentity, bind_eq_ok] at hresolve
      obtain ⟨_, hvalid, _, -, db, hregister, hresolve⟩ := hresolve
      have hgate : db'.gate = db.gate := (resolveAliases_ok hresolve).2.gate
      have hregisters := registerKeyring_ok hstarted (lookups_nodup hvalid) provided_active hregister
      have hworld : (w.draw a).accept k db' = { (w.draw a).accept k db with db := db' } := by
        have hactive : db'.activeVersion = db.activeVersion := by rw [DB.activeVersion, DB.activeVersion, hgate]
        rw [World.accept, World.accept, hactive]
      show Step d w a { (w.draw a).accept k db' with resolutions := _ }
      rw [hworld]
      exact .resolved hcall hregisters hresolve
    · exact .rejected

theorem Step.inv (h : Inv d w) (hs : Step d w a w') : Inv d w' := by
  have hdraw : Inv d (w.draw a) := h.draw [a.nonce.1, a.subject.1]
  cases hs with
  | rejected => exact hdraw
  | ensured call registers => exact hdraw.accept registers mem_cons_self
  | resolved call registers resolves =>
    exact (hdraw.accept registers mem_cons_self).resolve mem_cons_self resolves

/-- A keyring that holds every registered version has one in common with every accepted one. -/
theorem Inv.meeting_of_covers (h : Inv d w) (hk' : k' ∈ w.accepted)
    (hcovers : ∀ item ∈ w.db.versions.rows, Provided (lookups d identity k) item.version) :
    Meeting k k' := by
  obtain ⟨item, hitem, -⟩ := h.bound k' hk' k'.active mem_cons_self
  obtain ⟨l, hl, hversion⟩ := hcovers item (Store.get?_mem hitem)
  obtain ⟨key, hkey, rfl⟩ := mem_lookups.mp hl
  exact ⟨key, hkey, k'.active, mem_cons_self, hversion.trans (Store.get?_key hitem)⟩

theorem Step.stable (h : Inv d w) (hstable : Stable w) (hover : Overlapping w a)
    (hsubject : a.subject.1 ∉ w.drawn) (hs : Step d w a w') : Stable w' := by
  have hdrawn : ∀ r ∈ w.resolutions, r.subject ∈ a.nonce.1 :: a.subject.1 :: w.drawn := fun r hr =>
    mem_cons_of_mem _ (mem_cons_of_mem _ (hstable.drawn r hr))
  cases hs with
  | rejected | ensured => exact ⟨hdrawn, hstable.subjects⟩
  | @resolved k identity db db' subject call registers resolves =>
    have hdraw : Inv d (w.draw a) := h.draw [a.nonce.1, a.subject.1]
    have hinv := hdraw.accept registers mem_cons_self
    -- the new subject stands for the identity as the earlier ones do
    have hnew : subject ∈ a.nonce.1 :: a.subject.1 :: w.drawn ∧
        ∀ r ∈ w.resolutions, identity = r.identity ↔ subject = r.subject := by
      rcases (resolveAliases_ok resolves).1 with ⟨hnone, rfl⟩ | ⟨l, hl, a', ha', rfl⟩
      · refine ⟨mem_cons_of_mem _ mem_cons_self, fun r hr => ⟨?_, ?_⟩⟩
        · rintro rfl
          have hmeet : ∃ r' ∈ w.resolutions, r'.identity = r.identity ∧ Meeting k r'.keyring := by
            rcases registers.covers with hlagging | hcovers
            · simp only [Overlapping, call] at hover
              exact hover hlagging ⟨r, hr, rfl⟩
            · exact ⟨r, hr, rfl, h.meeting_of_covers (h.resolved r hr).1 hcovers⟩
          obtain ⟨r', hr', hidentity, hmeet⟩ := hmeet
          obtain ⟨l, hl, hsome⟩ := hinv.alias_of_meeting (r := r') mem_cons_self hr' hmeet
          rw [hidentity] at hl
          exact absurd (hnone l hl) hsome
        · intro he
          exact absurd (he ▸ hstable.drawn r hr) hsubject
      · obtain ⟨key, -, rfl⟩ := mem_lookups.mp hl
        obtain ⟨r₀, hr₀, rfl, hsame⟩ := hinv.alias_identity ha'
        rw [hsame]
        exact ⟨hdrawn r₀ hr₀, hstable.subjects r₀ hr₀⟩
    refine ⟨fun r hr => ?_, fun r hr r' hr' => ?_⟩
    · rcases mem_cons.mp hr with rfl | hr
      · exact hnew.1
      · exact hdrawn r hr
    · rcases mem_cons.mp hr with rfl | hr <;> rcases mem_cons.mp hr' with rfl | hr'
      · exact ⟨fun _ => rfl, fun _ => rfl⟩
      · exact hnew.2 r' hr'
      · exact ⟨fun he => ((hnew.2 r hr).mp he.symm).symm, fun he => ((hnew.2 r hr).mpr he.symm).symm⟩
      · exact hstable.subjects r hr r' hr'

end Steps

/-! ### Stability -/

/-- Identities are stable in a state: subjects stand for identities, a keyring that holds every
registered version meets no alias conflict, a version has one key, and the active version is none that the
registry has left. -/
structure StableAcrossRotation (d : Digests) (w : World) : Prop where
  subjects : ∀ r ∈ w.resolutions, ∀ r' ∈ w.resolutions, r.identity = r'.identity ↔ r.subject = r'.subject
  noConflict : ∀ (k : Keyring) (identity : AccountIdentity) (nonce subject : Draw), nonce.1 ∉ w.drawn →
    (∀ item ∈ w.db.versions.rows, ∃ key ∈ k.keys, key.version = item.version) →
      resolveIdentity d w.db k identity nonce subject ≠ .error .aliasConflict
  bound : ∀ k ∈ w.accepted, ∀ k' ∈ w.accepted, ∀ key ∈ k.keys, ∀ key' ∈ k'.keys,
    key.version = key'.version → key.secret = key'.secret
  active : ∀ v ∈ w.left, w.db.activeVersion ≠ some v

variable {registered : List KeyVersion}

theorem checkRegistered_no_conflict {seen : List String} :
    Avoids .aliasConflict (checkRegistered provided seen registered) := by
  induction registered generalizing seen with
  | nil => simp [checkRegistered]
  | cons item rest ih => simp [checkRegistered, ih]

theorem registerVersions_no_conflict {versions : Store String KeyVersion} :
    Avoids .aliasConflict (registerVersions versions provided) := by
  induction provided generalizing versions with
  | nil => simp [registerVersions]
  | cons l rest ih => simp [registerVersions, ih]

variable {activeVersion : String}

theorem checkConfiguration_no_conflict
    {gateVersion : String} :
    Avoids .aliasConflict (checkConfiguration registered provided activeVersion gateVersion) := by
  unfold checkConfiguration
  split
  · simp
  · split <;> simp

/-- A registration knows no alias conflict. -/
theorem registerKeyring_no_conflict :
    Avoids .aliasConflict (registerKeyring db provided activeVersion nonce) := by
  simp [registerKeyring, checkRegistered_no_conflict, checkConfiguration_no_conflict,
    registerVersions_no_conflict]

section States

variable {d : Digests} {w : World}

/-- In a state with stable subjects no resolution meets an alias conflict. -/
theorem Inv.no_conflict (h : Inv d w) (hstable : Stable w) {k : Keyring}
    {subject : Draw} (hnonce : nonce.1 ∉ w.drawn) :
    Avoids .aliasConflict (resolveIdentity d w.db k identity nonce subject) := by
  simp only [resolveIdentity, avoids_bind, avoids_check, registerKeyring_no_conflict, ne_eq, reduceCtorEq,
    not_false_eq_true, or_true, true_and]
  refine ⟨by simp [validateKeyring], fun _ hvalid _ _ db hregister => ?_⟩
  have hregisters := registerKeyring_ok (h.started hnonce) (lookups_nodup hvalid) provided_active hregister
  have halias : ∀ l, db.alias l = w.db.alias l := fun l => by rw [DB.alias, DB.alias, hregisters.aliases]
  have hidentity : ∀ l ∈ lookups d (some identity) k, ∀ a ∈ db.alias l,
      ∃ r ∈ w.resolutions, r.identity = identity ∧ a.subjectRef = r.subject := by
    intro l hl a ha
    obtain ⟨key, -, rfl⟩ := mem_lookups.mp hl
    exact h.alias_identity (halias _ ▸ ha)
  by_cases hold : ∃ r ∈ w.resolutions, r.identity = identity
  · obtain ⟨r, hr, hri⟩ := hold
    refine resolveAliases_no_conflict (t := r.subject) fun l hl a ha => ?_
    obtain ⟨r', hr', hri', hsubject⟩ := hidentity l hl a ha
    exact hsubject.trans ((hstable.subjects r' hr' r hr).mp (hri'.trans hri.symm))
  · refine resolveAliases_no_conflict (t := "") fun l hl a ha => ?_
    obtain ⟨r', hr', hri', -⟩ := hidentity l hl a ha
    exact absurd ⟨r', hr', hri'⟩ hold

end States

/-- In every run in which the keyrings that lag behind overlap, identities are stable. -/
theorem identities_stable (d : Digests) {actions : List Action} {w : World}
    (hrun : run (step d) {} actions = some w) (hover : Meets (step d) Overlapping {} actions) :
    StableAcrossRotation d w := by
  have hinv : Inv d w ∧ Stable w := by
    refine Meets.invariant (fun w => Inv d w ∧ Stable w) ?_ actions {} w ⟨inv_init, ?_⟩ hover hrun
    · intro w a w' h hover hstep
      obtain ⟨-, hsubject, hs⟩ := step_cases h.1 hstep
      exact ⟨hs.inv h.1, hs.stable h.1 h.2 hover hsubject⟩
    · exact ⟨fun r hr => by (cases hr), fun r hr => by (cases hr)⟩
  obtain ⟨h, hstable⟩ := hinv
  exact ⟨hstable.subjects, fun k identity nonce subject hnonce _ => h.no_conflict hstable hnonce,
    fun k hk k' hk' key hkey key' => h.one_key hk hk' hkey, fun v hv => (h.left v hv).2⟩

/-! ### Two runs -/

/-- A number in unary, with its end. -/
def unary (n : Nat) : List Char := List.replicate n '1' ++ ['0']

theorem unary_inj {n m : Nat} {x y : List Char} (h : unary n ++ x = unary m ++ y) : n = m ∧ x = y := by
  induction n generalizing m with
  | zero =>
    cases m with
    | zero => exact ⟨rfl, by simpa [unary] using h⟩
    | succ m => simp [unary, replicate_succ] at h
  | succ n ih =>
    cases m with
    | zero => simp [unary, replicate_succ] at h
    | succ m =>
      simp only [unary, replicate_succ, cons_append, cons.injEq, true_and] at h
      exact (ih h).imp (congrArg (· + 1)) id

/-- A text behind its length, as in the frames of the digests. -/
def frame (l : List Char) : List Char := unary l.length ++ l

theorem frame_inj {a b r r' : List Char} (h : frame a ++ r = frame b ++ r') : a = b ∧ r = r' := by
  simp only [frame, append_assoc] at h
  obtain ⟨hlength, htail⟩ := unary_inj h
  exact append_inj htail hlength

/-- Bytes as a text. -/
def byteText (bytes : List UInt8) : List Char := bytes.flatMap fun b => unary b.toNat

theorem byteText_injective : byteText.Injective := by
  intro a
  induction a with
  | nil =>
    intro b h
    cases b with
    | nil => rfl
    | cons y b => simp [byteText, unary] at h
  | cons x a ih =>
    intro b h
    cases b with
    | nil => simp [byteText, unary] at h
    | cons y b =>
      obtain ⟨hbyte, htail⟩ := unary_inj h
      rw [UInt8.toNat_inj.mp hbyte, ih htail]

/-- The secret of a version: one byte, repeated. -/
def secretOf (n : UInt8) : List UInt8 := List.replicate 32 n

/-- A hexadecimal text for three secrets, and another text for all others. -/
def codeOf (secret : List UInt8) : List Char :=
  if secret = secretOf 1 then List.replicate 64 'a'
  else if secret = secretOf 2 then List.replicate 64 'b'
  else if secret = secretOf 3 then List.replicate 64 'c'
  else 'x' :: byteText secret

theorem codeOf_injective : codeOf.Injective := by
  intro a b h
  have hhead := congrArg head? h
  unfold codeOf at h hhead
  split_ifs at h hhead with h1 h2 h3 h4 h5 h6 h7 h8 h9 h10 h11 h12 h13 h14 h15 <;> simp_all
  exact byteText_injective h

/-- The account that the runs resolve. -/
def sampleIdentity : AccountIdentity := ⟨"openai", "credential", [7]⟩

/-- The text of a digest. -/
def digestText (secret : List UInt8) (i : AccountIdentity) : List Char :=
  if i = sampleIdentity then codeOf secret
  else 'y' :: (frame (byteText secret) ++ (frame i.provider.toList ++ (frame i.kind.toList ++ byteText i.material)))

theorem codeOf_head (secret : List UInt8) : (codeOf secret).head? ≠ some 'y' := by
  unfold codeOf
  split_ifs <;> simp [replicate_succ]

theorem digestText_inj {k k' : List UInt8} {i i' : AccountIdentity} (h : digestText k i = digestText k' i') :
    k = k' ∧ i = i' := by
  have hhead := congrArg head? h
  unfold digestText at h hhead
  split_ifs at h hhead with hi hi' hi'
  · exact ⟨codeOf_injective h, hi.trans hi'.symm⟩
  · exact absurd hhead (codeOf_head k)
  · exact absurd hhead.symm (codeOf_head k')
  · obtain ⟨hk, h⟩ := frame_inj (cons.inj h).2
    obtain ⟨hprovider, h⟩ := frame_inj h
    obtain ⟨hkind, hmaterial⟩ := frame_inj h
    refine ⟨byteText_injective hk, ?_⟩
    cases i
    cases i'
    simp only [AccountIdentity.mk.injEq]
    exact ⟨String.ext hprovider, String.ext hkind, byteText_injective hmaterial⟩

/-- Digests without collisions. -/
def sampleDigests : Digests where
  fingerprint secret := String.ofList (codeOf secret)
  lookupHMAC secret i := String.ofList (digestText secret i)
  fingerprint_injective _ _ h := codeOf_injective (String.ofList_injective h)
  lookupHMAC_injective h := digestText_inj (String.ofList_injective h)

/-- The keys of three versions. -/
def key1 : Key := ⟨"v1", secretOf 1⟩
def key2 : Key := ⟨"v2", secretOf 2⟩
def key3 : Key := ⟨"v3", secretOf 3⟩

/-- Draws that differ in their first character. -/
def drawOf (i : Fin 26) : Draw :=
  ⟨String.ofList (Char.ofNat (65 + i) :: List.replicate 42 'A'), by
    rw [canonicalSubject, String.toList_ofList]
    revert i
    decide +kernel⟩

/-- The calls with draws that do not repeat. -/
def actionsOf (calls : List Call) : List Action :=
  calls.zipIdx.map fun (c, i) => ⟨c, drawOf (Fin.ofNat 26 (2 * i)), drawOf (Fin.ofNat 26 (2 * i + 1))⟩

/-- A rotation: the new node resolves, then the old one. -/
def rotationCalls : List Call :=
  [.ensure ⟨key1, []⟩, .resolve ⟨key2, [key1]⟩ sampleIdentity, .resolve ⟨key1, []⟩ sampleIdentity]

theorem identities_stable_rotationCalls :
    ∃ w, w.resolutions.length = 2 ∧ StableAcrossRotation sampleDigests w := by
  have hrun : ∃ w ∈ run (step sampleDigests) {} (actionsOf rotationCalls), w.resolutions.length = 2 := by
    decide +kernel
  obtain ⟨w, hw, hlength⟩ := hrun
  exact ⟨w, hlength, identities_stable sampleDigests hw (by decide +kernel)⟩

/-- A rotation; then one node that lags behind has the second key only, another one the first key
only. -/
def splitCalls : List Call :=
  [.ensure ⟨key2, [key1]⟩, .ensure ⟨key3, [key2, key1]⟩,
    .resolve ⟨key2, []⟩ sampleIdentity, .resolve ⟨key1, []⟩ sampleIdentity]

/-- The error of a resolution with all keys. -/
def lastError (w : World) : Option IdentityError :=
  match resolveIdentity sampleDigests w.db ⟨key3, [key2, key1]⟩ sampleIdentity (drawOf 20) (drawOf 21) with
  | .ok _ => none
  | .error e => some e

/-- One identity has two subjects, and the keyring with every version meets an alias conflict. -/
theorem identities_split :
    ∃ w, Reaches sampleDigests w ∧
      (∃ r ∈ w.resolutions, ∃ r' ∈ w.resolutions, r.identity = r'.identity ∧ r.subject ≠ r'.subject) ∧
      (∀ item ∈ w.db.versions.rows, ∃ key ∈ (⟨key3, [key2, key1]⟩ : Keyring).keys, key.version = item.version) ∧
      lastError w = some .aliasConflict := by
  have hrun : ∃ w ∈ run (step sampleDigests) {} (actionsOf splitCalls),
      (∃ r ∈ w.resolutions, ∃ r' ∈ w.resolutions, r.identity = r'.identity ∧ r.subject ≠ r'.subject) ∧
      (∀ item ∈ w.db.versions.rows, ∃ key ∈ (⟨key3, [key2, key1]⟩ : Keyring).keys, key.version = item.version) ∧
      lastError w = some .aliasConflict := by
    decide +kernel
  obtain ⟨w, hw, hsplit⟩ := hrun
  exact ⟨w, ⟨actionsOf splitCalls, hw⟩, hsplit⟩

end MyApiSpec.Identity
