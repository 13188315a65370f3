import MyApiSpec.Pricing.Publication

/-!
# What a run of price commands keeps

Every call is one transaction, so a run is a sequence of calls on the database. The history of a run holds
each call with the database before and behind it. A receipt stays for good, and a rollback takes effect
only while the generation is the one its target left. Since the revision is part of a generation and never
returns, the target is the newest receipt; a lock can therefore only be undone together with the
command that set it.
-/

namespace MyApiSpec.Pricing

open Base List Store Snapshot

/-! ### Calls and their history -/

variable {r : Receipt} {env : Environment} {reads : Reads} {c : Command} {next s s' : Snapshot}
  {db : DB}

/-- A call with what it reads elsewhere. -/
inductive Call where
  | publication (reads : Reads) (command : Command)
  | bulk (reads : Reads) (update : BulkUpdate)

/-- What a call returns. -/
inductive Reply where
  | created (receipt : Receipt)
  | replayed (receipt : Receipt)
  | updated
  | failed (error : String)

/-- A failed transaction leaves the database as it is. -/
def DB.perform (env : Environment) (db : DB) : Call → DB × Reply
  | .publication reads command =>
    match applyPricePublication env reads db command with
    | .ok (db', r, true) => (db', .created r)
    | .ok (db', r, false) => (db', .replayed r)
    | .error e => (db, .failed e)
  | .bulk reads update =>
    match updateOptionsBulk env reads db update with
    | .ok db' => (db', .updated)
    | .error e => (db, .failed e)

/-- One performed call. -/
structure Transition where
  call : Call
  before : DB
  after : DB
  reply : Reply

/-- The receipt that a call has created. -/
def Transition.receipt? (t : Transition) : Option Receipt :=
  match t.reply with
  | .created r => some r
  | _ => none

/-- The receipts created in a history. -/
def created (history : List Transition) : List Receipt := history.filterMap Transition.receipt?

/-- The database, and all calls so far with the newest first. -/
structure World where
  db : DB
  history : List Transition := []

def World.perform (env : Environment) (w : World) (call : Call) : World where
  db := (w.db.perform env call).1
  history := ⟨call, w.db, (w.db.perform env call).1, (w.db.perform env call).2⟩ :: w.history

theorem receipt?_eq_some {t : Transition} : t.receipt? = some r ↔ t.reply = .created r := by
  unfold Transition.receipt?
  split <;> simp_all

theorem mem_created {history : List Transition} :
    r ∈ created history ↔ ∃ t ∈ history, t.reply = .created r := by
  simp only [created, mem_filterMap, receipt?_eq_some]

/-! ### Generations -/

/-- Modes, expressions and bindings agree. -/
def Snapshot.SamePrices (a b : Snapshot) : Prop :=
  a.modes = b.modes ∧ a.expressions = b.expressions ∧ a.state.models = b.state.models

/-- The binding of the model is locked. -/
def Snapshot.Locked (s : Snapshot) (model : String) : Prop := (s.binding model).locked = true

theorem samePrices_withRevision (s : Snapshot) (n : Int) : (s.withRevision n).SamePrices s :=
  ⟨rfl, rfl, rfl⟩

theorem Snapshot.SamePrices.price {a b : Snapshot} (h : a.SamePrices b) (model : String) :
    a.price model = b.price model := by
  simp only [Snapshot.price, Snapshot.mode, Snapshot.expression, h.1, h.2.1]

theorem Snapshot.SamePrices.locked {a b : Snapshot} (h : a.SamePrices b) (model : String) :
    a.Locked model ↔ b.Locked model := by
  simp only [Snapshot.Locked, binding, h.2.2]

/-! ### What a command does -/

variable {change : Change}

/-- A published change leaves ratios and locked models alone. -/
theorem applyChange_publish (hc : c.action ≠ .lock)
    (h : applyChange env reads c s change = .ok s') :
    s'.otherPriceOptions = s.otherPriceOptions ∧
      ∀ model, s.Locked model → s'.Locked model ∧ s'.price model = s.price model := by
  unfold applyChange at h
  rw [if_neg hc] at h
  simp only [bind_eq_ok, check_eq_ok] at h
  obtain ⟨_, hfree, _, -, _, -, h⟩ := h
  cases h
  refine ⟨rfl, fun model hlocked => ?_⟩
  have hne : model ≠ change.model := by
    rintro rfl
    rw [Snapshot.Locked, hfree] at hlocked
    cases hlocked
  have hlocked' : ((s.state.models.lookup model).getD {}).locked = true := hlocked
  simp [Snapshot.Locked, price, mode, expression, binding,
    Finmap.lookup_insert_of_ne _ hne, hlocked']

/-- The changes of a command leave ratios and the prices of locked models alone. -/
theorem foldlM_applyChange (h : c.changes.foldlM (applyChange env reads c) s = .ok s') :
    s'.otherPriceOptions = s.otherPriceOptions ∧
      ∀ model, s.Locked model → s'.price model = s.price model := by
  by_cases hc : c.action = .lock
  · have hkept := foldlM_invariant
      (fun x : Snapshot => x.otherPriceOptions = s.otherPriceOptions ∧ ∀ model, x.price model = s.price model)
      (fun x change x' hx hstep => by
        unfold applyChange at hstep
        rw [if_pos hc] at hstep
        simp only [bind_eq_ok, check_eq_ok] at hstep
        obtain ⟨_, -, _, -, hstep⟩ := hstep
        cases hstep
        exact hx)
      ⟨rfl, fun _ => rfl⟩ h
    exact ⟨hkept.1, fun model _ => hkept.2 model⟩
  · -- a locked model stays locked from change to change, so that no change can name it
    have hkept := foldlM_invariant
      (fun x : Snapshot => x.otherPriceOptions = s.otherPriceOptions ∧
        ∀ model, s.Locked model → x.Locked model ∧ x.price model = s.price model)
      (fun x change x' hx hstep => by
        obtain ⟨hother, hkeep⟩ := applyChange_publish hc hstep
        refine ⟨hother.trans hx.1, fun model hlocked => ?_⟩
        obtain ⟨hl, hp⟩ := hx.2 model hlocked
        exact ⟨(hkeep model hl).1, (hkeep model hl).2.trans hp⟩)
      ⟨rfl, fun _ hlocked => ⟨hlocked, rfl⟩⟩ h
    exact ⟨hkept.1, fun model hlocked => (hkept.2 model hlocked).2⟩

/-- Where the generation behind a command comes from. -/
inductive Origin (db : DB) (c : Command) (next : Snapshot) : Prop where
  /-- The generation before the target, while the target's own generation is current. -/
  | restored (target : Receipt) (hc : c.action = .rollback)
      (htarget : db.receipts.get? c.rollbackOf = some target) (hcurrent : target.after = db.options)
      (hnext : next = target.before)
  /-- The current generation with its changes. -/
  | changed (hc : c.action ≠ .rollback) (hother : next.otherPriceOptions = db.options.otherPriceOptions)
      (hlocked : ∀ model, db.options.Locked model → next.price model = db.options.price model)

theorem nextGeneration_ok (h : nextGeneration env reads db c db.options = .ok next) :
    Origin db c next := by
  unfold nextGeneration at h
  by_cases hc : c.action = .rollback
  · rw [if_pos hc] at h
    simp only [bind_eq_ok, need_eq_ok, check_eq_ok] at h
    obtain ⟨target, htarget, _, hcurrent, h⟩ := h
    cases h
    exact .restored target hc htarget hcurrent rfl
  · rw [if_neg hc] at h
    obtain ⟨hother, hlocked⟩ := foldlM_applyChange h
    exact .changed hc hother hlocked

/-- The order of the changes does not matter to where a generation comes from. -/
theorem Origin.sorted (h : Origin db c.sorted next) : Origin db c next := by
  cases h with
  | restored target hc htarget hcurrent hnext => exact .restored target hc htarget hcurrent hnext
  | changed hc hother hlocked => exact .changed hc hother hlocked

/-- What the receipt of a new command says. -/
structure Issued (db : DB) (c : Command) (r : Receipt) (next : Snapshot) : Prop where
  id : r.id = c.id
  action : r.action = c.action
  rollbackOf : r.rollbackOf = c.rollbackOf
  before : r.before = db.options
  after : r.after = next.withRevision (db.options.state.revision + 1)
  origin : Origin db c next

theorem newReceipt_ok (h : newReceipt env reads db c db.options = .ok r) :
    ∃ next, Issued db c r next := by
  unfold newReceipt at h
  simp only [bind_eq_ok, check_eq_ok] at h
  obtain ⟨_, -, _, -, next, hnext, _, -, _, -, _, -, _, -, h⟩ := h
  cases h
  exact ⟨next, rfl, rfl, rfl, rfl, rfl, nextGeneration_ok hnext⟩

/-- What a call can do. -/
inductive Performed (db : DB) : Call → DB → Reply → Prop where
  | created (reads : Reads) (c : Command) (r : Receipt) (next : Snapshot)
      (hfree : db.receipts.get? c.id = none) (hr : Issued db c r next) :
      Performed db (.publication reads c) (db.commit r) (.created r)
  | replayed (reads : Reads) (c : Command) (r : Receipt) (hr : db.receipts.get? c.id = some r) :
      Performed db (.publication reads c) db (.replayed r)
  | updated (reads : Reads) (u : BulkUpdate) (options : Snapshot) (hstate : options.state = db.options.state)
      (hlocked : ∀ model, db.options.Locked model → options.price model = db.options.price model) :
      Performed db (.bulk reads u) { db with options := options } .updated
  | failed (call : Call) (error : String) : Performed db call db (.failed error)

theorem readPricePublicationSnapshot_ok (h : readPricePublicationSnapshot db = .ok s) :
    s = db.options := by
  unfold readPricePublicationSnapshot at h
  obtain ⟨_, -, h⟩ := bind_eq_ok.mp h
  cases h
  rfl

theorem validateLockedPriceChanges_ok {u : BulkUpdate} {maps : TextMap × TextMap}
    (h : validateLockedPriceChanges env db u = .ok maps) (model : String)
    (hlocked : db.options.Locked model) :
    (maps.1.lookup model).getD "" = db.options.mode model ∧
      (maps.2.lookup model).getD "" = db.options.expression model := by
  unfold validateLockedPriceChanges at h
  split at h
  · cases h
    exact ⟨rfl, rfl⟩
  · simp only [bind_eq_ok, check_eq_ok] at h
    obtain ⟨before, hbefore, modes, -, expressions, -, _, hkept, h⟩ := h
    cases h
    cases readPricePublicationSnapshot_ok hbefore
    -- a locked model has a stored binding: the default one is open
    cases hb : db.options.state.models.lookup model with
    | none => simp [Snapshot.Locked, binding, hb] at hlocked
    | some b =>
      refine hkept ⟨model, b⟩ (Finmap.mem_lookup_iff.mp hb) ?_
      simpa [Snapshot.Locked, binding, hb] using hlocked

theorem performed (env : Environment) (db : DB) (call : Call) :
    Performed db call (db.perform env call).1 (db.perform env call).2 := by
  cases call with
  | publication reads c =>
    simp only [DB.perform]
    cases h : applyPricePublication env reads db c with
    | error e => exact .failed _ e
    | ok result =>
      unfold applyPricePublication at h
      simp only [bind_eq_ok] at h
      obtain ⟨_, -, before, hbefore, h⟩ := h
      cases readPricePublicationSnapshot_ok hbefore
      split at h
      · next r hr =>
        obtain ⟨_, -, h⟩ := bind_eq_ok.mp h
        cases h
        exact .replayed reads c r hr
      · next hfree =>
        obtain ⟨r, hr, h⟩ := bind_eq_ok.mp h
        cases h
        obtain ⟨next, hissued⟩ := newReceipt_ok hr
        exact .created reads c r next hfree
          { hissued with origin := hissued.origin.sorted }
  | bulk reads u =>
    simp only [DB.perform]
    cases h : updateOptionsBulk env reads db u with
    | error e => exact .failed _ e
    | ok db' =>
      unfold updateOptionsBulk at h
      simp only [bind_eq_ok] at h
      obtain ⟨_, -, _, -, maps, hmaps, h⟩ := h
      cases h
      refine .updated reads u _ rfl fun model hlocked => ?_
      obtain ⟨hmode, hexpression⟩ := validateLockedPriceChanges_ok hmaps model hlocked
      exact Prod.ext hmode hexpression

/-! ### The law of one call -/

/-- A transition that undoes an earlier one: it finds the generation that the earlier one left. -/
structure Undoes (t t' : Transition) (r p : Receipt) : Prop where
  created : t.reply = .created r
  rollback : r.action = .rollback
  target : t'.reply = .created p
  named : p.id = r.rollbackOf
  current : t.before.options = t'.after.options
  restored : t.after.options.SamePrices t'.before.options

/-- What holds of a call behind the calls before it. -/
structure Lawful (earlier : List Transition) (t : Transition) : Prop where
  /-- The revision counts the new receipts. -/
  revision : t.after.options.state.revision =
    t.before.options.state.revision + (t.receipt?.toList.length : Int)
  /-- A new receipt belongs to the command, which had none. -/
  fresh : ∀ r, t.reply = .created r → (∀ r' ∈ created earlier, r'.id ≠ r.id) ∧
    ∃ reads c, t.call = .publication reads c ∧ r.id = c.id ∧ r.action = c.action ∧ r.rollbackOf = c.rollbackOf
  /-- A command that has its receipt changes nothing. -/
  replayed : ∀ reads c, t.call = .publication reads c → c.id ∈ (created earlier).map Receipt.id →
    t.after = t.before
  /-- A rollback undoes an earlier call. -/
  rollback : ∀ r, t.reply = .created r → r.action = .rollback → ∃ t' ∈ earlier, ∃ p, Undoes t t' r p
  /-- The price of a locked model changes only with the call that set the lock. -/
  locked : ∀ model, t.before.options.Locked model →
    t.after.options.price model ≠ t.before.options.price model →
    ∃ t' ∈ earlier, ∃ r p, Undoes t t' r p ∧ ¬ t'.before.options.Locked model ∧ t'.after.options.Locked model

/-- Ratios stay, and no command moves the price of a model that is locked before and behind it. -/
structure Receipt.Guarded (p : Receipt) : Prop where
  other : p.after.otherPriceOptions = p.before.otherPriceOptions
  locked : ∀ model, p.before.Locked model → p.after.Locked model → p.after.price model = p.before.price model

/-- The receipts of the database are those of the history, with the generations of their calls. -/
structure Recorded (w : World) : Prop where
  stored : ∀ r, r ∈ w.db.receipts.rows ↔ r ∈ created w.history
  traced : ∀ t ∈ w.history, ∀ p, t.reply = .created p →
    t.before.options = p.before ∧ t.after.options = p.after
  guarded : ∀ p ∈ w.db.receipts.rows, p.Guarded

variable {w : World}

theorem Recorded.get? (hw : Recorded w) {id : String} {p : Receipt}
    (h : w.db.receipts.get? id = some p) : p.id = id ∧ p.Guarded ∧ ∃ t ∈ w.history, t.reply = .created p := by
  have hmem := get?_mem h
  exact ⟨get?_key h, hw.guarded p hmem, mem_created.mp ((hw.stored p).mp hmem)⟩

/-- The receipt of a rollback keeps the guard of its target, read backwards. -/
theorem Issued.guarded (hw : Recorded w) (h : Issued w.db c r next) : r.Guarded := by
  have hsame : r.after.SamePrices next := h.after ▸ samePrices_withRevision next _
  have hother : r.after.otherPriceOptions = next.otherPriceOptions := by rw [h.after]; rfl
  cases h.origin with
  | restored target hc htarget hcurrent hnext =>
    obtain ⟨-, hg, -⟩ := hw.get? htarget
    have hbefore : r.before = target.after := h.before.trans hcurrent.symm
    subst hnext
    refine ⟨by rw [hother, hbefore, hg.other], fun model hb ha => ?_⟩
    rw [hbefore] at hb ⊢
    rw [hsame.locked] at ha
    rw [hsame.price, hg.locked model ha hb]
  | changed hc hkept hlocked =>
    refine ⟨by rw [hother, hkept, h.before], fun model hb _ => ?_⟩
    rw [h.before] at hb ⊢
    rw [hsame.price, hlocked model hb]

/-- A commit leaves exactly the generation of the receipt. -/
theorem Issued.commit_options (hw : Recorded w) (h : Issued w.db c r next) :
    (w.db.commit r).options = r.after := by
  have hother := (h.guarded hw).other
  rw [h.before] at hother
  simp only [DB.commit, ← hother]

/-! ### One step -/

variable {w : World}

/-- A receipt of a rollback undoes the call of its target. -/
theorem Issued.undoes (hw : Recorded w) (reads : Reads) (h : Issued w.db c r next)
    (hc : c.action = .rollback) :
    ∃ t' ∈ w.history, ∃ p, p.Guarded ∧ t'.before.options = p.before ∧ t'.after.options = p.after ∧
      Undoes ⟨.publication reads c, w.db, w.db.commit r, .created r⟩ t' r p := by
  cases h.origin with
  | changed hn => exact absurd hc hn
  | restored p _ htarget hcurrent hnext =>
    obtain ⟨hid, hg, t', ht', hreply⟩ := hw.get? htarget
    obtain ⟨hb, ha⟩ := hw.traced t' ht' p hreply
    refine ⟨t', ht', p, hg, hb, ha, rfl, h.action.trans hc, hreply, ?_, ?_, ?_⟩
    · rw [hid, h.rollbackOf]
    · exact hcurrent.symm.trans ha.symm
    · rw [h.commit_options hw, h.after, hb, hnext]
      exact samePrices_withRevision _ _

theorem Issued.lawful (hw : Recorded w) (hfree : w.db.receipts.get? c.id = none)
    (h : Issued w.db c r next) :
    Lawful w.history ⟨.publication reads c, w.db, w.db.commit r, .created r⟩ := by
  have hnew : ∀ r' ∈ created w.history, r'.id ≠ c.id := by
    intro r' hr' hid
    have := get?_of_mem ((hw.stored r').mpr hr')
    rw [show Keyed.key r' = c.id from hid, hfree] at this
    cases this
  refine ⟨?_, ?_, ?_, ?_, ?_⟩
  · rw [h.commit_options hw, h.after]
    rfl
  · intro r' hr'
    cases hr'
    exact ⟨h.id ▸ hnew, reads, c, rfl, h.id, h.action, h.rollbackOf⟩
  · intro _ c' hcall hmem
    cases hcall
    obtain ⟨r', hr', hid⟩ := mem_map.mp hmem
    exact absurd hid (hnew r' hr')
  · intro r' hr' haction
    cases hr'
    obtain ⟨t', ht', p, -, -, -, hundoes⟩ := h.undoes hw reads (h.action.symm.trans haction)
    exact ⟨t', ht', p, hundoes⟩
  · intro model hlocked hne
    by_cases hc : c.action = .rollback
    · obtain ⟨t', ht', p, hg, hb, ha, hundoes⟩ := h.undoes hw reads hc
      have hafter : t'.after.options.Locked model := hundoes.current ▸ hlocked
      refine ⟨t', ht', r, p, hundoes, fun hbefore => hne ?_, hafter⟩
      -- locked on both sides, the target would not have moved the price, and neither does its rollback
      rw [hundoes.restored.price, hundoes.current, hb, ha]
      exact (hg.locked model (hb ▸ hbefore) (ha ▸ hafter)).symm
    · refine absurd ?_ hne
      rw [h.commit_options hw, h.after, (samePrices_withRevision _ _).price]
      cases h.origin with
      | restored _ hc' => exact absurd hc' hc
      | changed _ _ hkept => exact hkept model hlocked

variable {reply : Reply} {call : Call}

/-- A call that creates no receipt and moves no locked price is lawful when it changes nothing, or is no
command. -/
theorem lawful_of_kept (hreply : ∀ r, reply ≠ .created r)
    (hstate : db.options.state = w.db.options.state)
    (hlocked : ∀ model, w.db.options.Locked model → db.options.price model = w.db.options.price model)
    (hcommand : ∀ reads c, call = .publication reads c → db = w.db) :
    Lawful w.history ⟨call, w.db, db, reply⟩ where
  revision := by
    have hnone : (⟨call, w.db, db, reply⟩ : Transition).receipt? = none := by
      rw [Option.eq_none_iff_forall_ne_some]
      intro r hr
      exact hreply r (receipt?_eq_some.mp hr)
    rw [hnone]
    show db.options.state.revision = w.db.options.state.revision + 0
    rw [hstate, add_zero]
  fresh := fun r hr => absurd hr (hreply r)
  replayed := fun reads c hcall _ => hcommand reads c hcall
  rollback := fun r hr => absurd hr (hreply r)
  locked := fun model hl hne => absurd (hlocked model hl) hne

theorem Recorded.lawful (env : Environment) (hw : Recorded w) (call : Call) :
    Lawful w.history ⟨call, w.db, (w.db.perform env call).1, (w.db.perform env call).2⟩ := by
  have h := performed env w.db call
  generalize (w.db.perform env call).1 = db, (w.db.perform env call).2 = reply at h ⊢
  cases h with
  | created reads c r next hfree hr => exact hr.lawful hw hfree
  | replayed | failed => exact lawful_of_kept nofun rfl (fun _ _ => rfl) (fun _ _ _ => rfl)
  | updated reads u options hstate hlocked => exact lawful_of_kept nofun hstate hlocked nofun

/-- A call that leaves the receipts alone keeps the record. -/
theorem Recorded.of_kept (hw : Recorded w)
    (hreply : ∀ r, reply ≠ .created r) (hreceipts : db.receipts = w.db.receipts) :
    Recorded ⟨db, ⟨call, w.db, db, reply⟩ :: w.history⟩ := by
  have hcreated : created (⟨call, w.db, db, reply⟩ :: w.history) = created w.history := by
    refine filterMap_cons_none ?_
    rw [Option.eq_none_iff_forall_ne_some]
    intro r hr
    exact hreply r (receipt?_eq_some.mp hr)
  refine ⟨?_, ?_, ?_⟩
  · intro r
    rw [hcreated, ← hw.stored r, hreceipts]
  · intro t ht p hp
    rcases mem_cons.mp ht with rfl | ht
    · exact absurd hp (hreply p)
    · exact hw.traced t ht p hp
  · intro p hp
    exact hw.guarded p (hreceipts ▸ hp)

theorem Recorded.perform (env : Environment) (hw : Recorded w) (call : Call) :
    Recorded (w.perform env call) := by
  have h := performed env w.db call
  show Recorded ⟨(w.db.perform env call).1, ⟨call, w.db, _, (w.db.perform env call).2⟩ :: w.history⟩
  generalize (w.db.perform env call).1 = db, (w.db.perform env call).2 = reply at h ⊢
  cases h with
  | replayed | updated | failed => exact hw.of_kept nofun rfl
  | created reads c r next hfree hr =>
    have hfree' : ∀ x ∈ w.db.receipts.rows, Keyed.key x ≠ Keyed.key r := by
      intro x hx hk
      have hget := get?_of_mem hx
      rw [hk, show Keyed.key r = c.id from hr.id, hfree] at hget
      cases hget
    have hmem : ∀ x, x ∈ (w.db.commit r).receipts.rows ↔ x = r ∨ x ∈ w.db.receipts.rows := by
      intro x
      rw [show (w.db.commit r).receipts = w.db.receipts.set r from rfl, Store.mem_set]
      exact or_congr_right ⟨And.left, fun hx => ⟨hx, hfree' x hx⟩⟩
    refine ⟨?_, ?_, ?_⟩
    · intro x
      rw [hmem x, hw.stored x]
      show _ ↔ x ∈ r :: created w.history
      rw [mem_cons]
    · intro t ht p hp
      rcases mem_cons.mp ht with rfl | ht
      · cases hp
        exact ⟨hr.before.symm, hr.commit_options hw⟩
      · exact hw.traced t ht p hp
    · intro p hp
      rcases (hmem p).mp hp with rfl | hp
      · exact hr.guarded hw
      · exact hw.guarded p hp

/-! ### Whole runs -/

/-- What holds behind every run. -/
structure Sound (start : Snapshot) (w : World) : Prop where
  /-- The revision has grown by the number of receipts. -/
  revision : w.db.options.state.revision = start.state.revision + ((created w.history).length : Int)
  /-- The receipts are those that commands have created, with pairwise different ids. -/
  stored : ∀ r, r ∈ w.db.receipts.rows ↔ r ∈ created w.history
  once : ((created w.history).map Receipt.id).Nodup
  /-- Every call of the run is lawful behind those before it. -/
  lawful : ∀ t earlier, t :: earlier <:+ w.history → Lawful earlier t

theorem created_cons (t : Transition) (history : List Transition) :
    created (t :: history) = t.receipt?.toList ++ created history := by
  cases h : t.receipt? <;> simp [created, h]

theorem Sound.perform {start : Snapshot} (env : Environment) (hw : Recorded w) (hs : Sound start w)
    (call : Call) : Sound start (w.perform env call) := by
  have hlaw := hw.lawful env call
  refine ⟨?_, (hw.perform env call).stored, ?_, ?_⟩
  · have hrevision := hlaw.revision
    have hold := hs.revision
    show (w.db.perform env call).1.options.state.revision = _ + ((created (_ :: w.history)).length : Int)
    rw [created_cons, length_append]
    simp only at hrevision
    omega
  · show (map Receipt.id (created (_ :: w.history))).Nodup
    rw [created_cons, map_append]
    refine nodup_append'.mpr ⟨?_, hs.once, ?_⟩
    · cases Transition.receipt? _ <;> simp
    · intro id hid hold
      obtain ⟨r, hr, rfl⟩ := mem_map.mp hid
      obtain ⟨r', hr', hsame⟩ := mem_map.mp hold
      exact (hlaw.fresh r (receipt?_eq_some.mp (Option.mem_toList.mp hr))).1 r' hr' hsame
  · intro t earlier hsuffix
    rcases suffix_cons_iff.mp hsuffix with heq | hsuffix
    · cases heq
      exact hlaw
    · exact hs.lawful t earlier hsuffix

theorem recorded_start (options : Snapshot) : Recorded { db := { options := options } } where
  stored := fun _ => Iff.rfl
  traced := fun _ ht => absurd ht not_mem_nil
  guarded := fun _ hp => absurd hp not_mem_nil

theorem sound_start (options : Snapshot) : Sound options { db := { options := options } } where
  revision := (add_zero _).symm
  stored := fun _ => Iff.rfl
  once := nodup_nil
  lawful := fun t earlier hsuffix => absurd (suffix_nil.mp hsuffix) (cons_ne_nil t earlier)

/-- Price commands are applied once, undone exactly and respect locks: from any options without
receipts, through any sequence of commands and bulk updates. -/
theorem price_publications_sound (env : Environment) (options : Snapshot) (calls : List Call) :
    Sound options (calls.foldl (World.perform env) { db := { options := options } }) := by
  have hrun := calls.foldlRecOn (World.perform env)
    (motive := fun w => Recorded w ∧ Sound options w) ⟨recorded_start options, sound_start options⟩
    (fun w hw call _ => ⟨hw.1.perform env call, hw.2.perform env hw.1 call⟩)
  exact hrun.2

/-- Texts and digests of fixed length for small runs. -/
def sampleDigest (c : Char) : String := String.ofList (List.replicate 64 c)

def sampleEnvironment : Environment where
  requestDigest c := c.id
  snapshotDigest _ := sampleDigest '0'
  expressionHash e := e
  encode _ := ""
  decode _ := .error "unexpected end of JSON input"

def sampleReads : Reads := ⟨fun _ => .ok (), fun _ => .ok ()⟩

/-- Publish a locked price, and take it back. -/
def lockAndUndo : List Call :=
  [.publication sampleReads
      { id := sampleDigest 'a', actorID := 1, expectedDigest := sampleDigest '0', action := .publish
        changes := [{ model := "m", expression := "p", locked := true }] },
    .publication sampleReads
      { id := sampleDigest 'b', actorID := 1, expectedDigest := sampleDigest '0', action := .rollback
        rollbackOf := sampleDigest 'a' }]

-- the rollback does move the price of a locked model, and the revision goes on
example : let w := lockAndUndo.foldl (World.perform sampleEnvironment) { db := {} }
    w.db.options.state.revision = 2 ∧ w.history.map (fun t => (t.before.options.binding "m").locked) = [true, false] ∧
      w.history.map (fun t => t.after.options.price "m") = [("", ""), ("tiered_expr", "p")] := by
  decide +kernel

end MyApiSpec.Pricing
