import MyApiSpec.Ledger.RecoveryCycle

/-!
# Every cycle attempts every eligible row

The cursor never passes a row that is still owed an attempt, a page covers the owed rows behind the cursor, and an
empty page therefore ends a cycle that owes nothing. Behind the cursor nothing is attempted again unless the save was
lost. Rows inserted later have keys above the watermark, so the statements of a cycle are bounded by the rows that
were there and by the interruptions.
-/

namespace MyApiSpec.Ledger.Cycle

open Base List Table Runner

/-! ### Tables that grow -/

variable {t t' : Table Obligation} {i x : Int}

/-- The keys of the table stay, and new keys are above all that there were. -/
def Grows (t t' : Table Obligation) : Prop :=
  ∃ extra, t'.rows.map Obligation.id = t.rows.map Obligation.id ++ extra ∧ (∀ x ∈ extra, t.nextId ≤ x) ∧
    t.nextId ≤ t'.nextId

section

variable (t : Table Obligation)

theorem Grows.refl : Grows t t := ⟨[], by simp, nofun, le_rfl⟩

theorem grows_insert (o : Obligation) : Grows t (t.insert o) := by
  refine ⟨[t.nextId], ?_, by simp, by rw [insert_nextId]; omega⟩
  show (t.rows ++ [Row.withId t.nextId o]).map Obligation.id = _
  rw [map_append]
  rfl

theorem grows_put (o : Obligation) : Grows t (t.put o) := by
  refine ⟨[], ?_, nofun, le_rfl⟩
  rw [append_nil]
  show (t.rows.map fun x => if Row.id x = Row.id o then o else x).map Row.id = t.rows.map Row.id
  rw [map_map]
  apply map_congr_left
  intro x _
  by_cases h : Row.id x = Row.id o <;> simp [h]

end

theorem grows_cas {guard : Obligation → Bool} {f : Obligation → Obligation}
    (h : t.cas i guard f = some t') : Grows t t' := by
  obtain ⟨x, -, -, -, rfl⟩ := cas_eq_some.mp h
  exact grows_put t _

section

variable (h : Grows t t')
include h

theorem Grows.mem (hi : i ∈ t.rows.map Obligation.id) :
    i ∈ t'.rows.map Obligation.id := by
  obtain ⟨extra, hrows, -⟩ := h
  rw [hrows]
  exact mem_append_left _ hi

theorem Grows.old (hi : i ∈ t'.rows.map Obligation.id) (hlow : i < t.nextId) :
    i ∈ t.rows.map Obligation.id := by
  obtain ⟨extra, hrows, hextra, -⟩ := h
  rw [hrows, mem_append] at hi
  rcases hi with hi | hi
  · exact hi
  · have := hextra i hi
    omega

theorem Grows.nextId : t.nextId ≤ t'.nextId := by
  obtain ⟨-, -, -, hnext⟩ := h
  exact hnext

/-- Below the next key nothing is inserted. -/
theorem Grows.seen (hx : x < t.nextId) : seen t' x = Cycle.seen t x := by
  obtain ⟨extra, hrows, hextra, -⟩ := h
  have hnone : extra.countP (· ≤ x) = 0 := by
    rw [countP_eq_zero]
    intro y hy
    have := hextra y hy
    simp only [decide_eq_true_eq]
    omega
  rw [Cycle.seen, hrows, countP_append, hnone]
  rfl

end

theorem seen_mono (t : Table Obligation) {y : Int} (h : x ≤ y) : seen t x ≤ seen t y := by
  refine countP_mono_left fun z _ hz => ?_
  simp only [decide_eq_true_eq] at hz ⊢
  omega

/-- A key of the table between the two bounds is counted by one of them only. -/
theorem seen_lt {y : Int} (hx : x < y) (hy : y ∈ t.rows.map Obligation.id) :
    seen t x < seen t y := by
  unfold seen
  generalize t.rows.map Obligation.id = ids at hy
  induction ids with
  | nil => cases hy
  | cons z ids ih =>
    have hle : ids.countP (· ≤ x) ≤ ids.countP (· ≤ y) := by
      refine countP_mono_left fun w _ hw => ?_
      simp only [decide_eq_true_eq] at hw ⊢
      omega
    rw [countP_cons, countP_cons]
    rcases mem_cons.mp hy with rfl | hy
    · simp only [decide_eq_true_eq, le_refl, if_true]
      rw [if_neg (by omega)]
      omega
    · have hlt := ih hy
      by_cases hzx : z ≤ x
      · simp only [decide_eq_true_eq, hzx, if_true, show z ≤ y by omega]
        omega
      · simp only [decide_eq_true_eq, hzx, if_false]
        omega

theorem le_foldl_max : ∀ (l : List Obligation) (m : Int), m ≤ l.foldl (fun m o => max m o.id) m
  | [], _ => le_rfl
  | o :: l, m => (le_max_left m o.id).trans (le_foldl_max l (max m o.id))

theorem newestID_nonneg (t : Table Obligation) : 0 ≤ newestID t := le_foldl_max t.rows 0

theorem newestID_lt (t : Table Obligation) : newestID t < t.nextId := by
  have key : ∀ (l : List Obligation) (m : Int), m < t.nextId → (∀ o ∈ l, o.id < t.nextId) →
      l.foldl (fun m o => max m o.id) m < t.nextId := by
    intro l
    induction l with
    | nil => intro m hm _; exact hm
    | cons o l ih =>
      intro m hm hl
      obtain ⟨ho, hl⟩ := forall_mem_cons.mp hl
      exact ih _ (max_lt hm ho) hl
  exact key t.rows 0 t.pos fun o ho => (t.bounds o ho).2

/-! ### The invariant -/

/-- The rows of the cycle that are still owed an attempt. -/
def Owed (s : State) (i : Int) : Prop :=
  i ∈ s.db.obligations.rows.map Obligation.id ∧ i ≤ s.cycle.watermark ∧ i ∉ s.cycle.ineligible ∧
    i ∉ s.cycle.attempted

namespace Stage

/-- The candidates of the page that are left. -/
def rest : Stage → List Obligation
  | .begin | .fix _ | .page | .closing => []
  | .rows rest | .manual _ rest | .claim _ rest | .claimed _ rest | .refund _ rest | .finish _ _ rest => rest

/-- The run is inside its loop. -/
def Loops : Stage → Prop
  | .begin | .fix _ => False
  | _ => True

/-- How many statements may follow before the next row is attempted or the page is saved. -/
def offset : Stage → Nat
  | .begin => 8
  | .fix _ => 7
  | .page => 5
  | .closing => 1
  | .rows [] => 6
  | .rows (_ :: _) => 4
  | .manual .. => 7
  | .claim .. => 10
  | .claimed .. => 9
  | .refund .. => 8
  | .finish .. => 7

theorem offset_rows_le (rest : List Obligation) : (Stage.rows rest).offset ≤ 6 := by
  cases rest <;> simp [offset]

end Stage

/-- A bound of the statements that a run still makes. -/
def Runner.weight (r : Runner) : Nat := 10 * (r.limit - r.scanned) + r.stage.offset

/-- The bound at the start of a run. -/
def runBound : Nat := 10 * 100 + 8

/-- What holds inside a cycle, whether a run is in progress or not. -/
structure InCycle (s : State) : Prop where
  watermark : s.cycle.watermark = s.cursor.highWatermark
  fresh : s.cursor.highWatermark < s.db.obligations.nextId
  last : s.cursor.lastID ≤ s.cursor.highWatermark
  rows : s.cycle.rows = seen s.db.obligations s.cursor.highWatermark
  owed : ∀ i, Owed s i → s.cursor.lastID < i
  low : ∀ i ∈ s.cycle.attempted, i ≤ s.cursor.highWatermark
  passed : ∀ i ∈ s.cycle.attempted, i ∉ s.cycle.lost → i ≤ s.cursor.lastID ∨ ∃ r ∈ s.runner, i ∈ r.unsaved
  completed : s.cycle.completed ≤ seen s.db.obligations s.cursor.lastID
  statements : s.runner = none → s.cycle.statements ≤ runBound * (s.cycle.completed + s.cycle.interruptions)

/-- What a run inside its loop knows. -/
structure Looping (s : State) (r : Runner) : Prop where
  pos : 0 < s.cursor.highWatermark
  mark : r.cursor.highWatermark = s.cursor.highWatermark
  ahead : s.cursor.lastID ≤ r.cursor.lastID
  last : r.cursor.lastID ≤ s.cursor.highWatermark
  unsaved : ∀ i ∈ r.unsaved, i ≤ r.cursor.lastID
  owed : ∀ i, Owed s i → r.cursor.lastID < i
  covers : Covers (Owed s) True r.cursor.lastID r.stage.rest
  restLow : ∀ o ∈ r.stage.rest, o.id ≤ s.cursor.highWatermark
  stored : ∀ o ∈ r.stage.rest, o.id ∈ s.db.obligations.rows.map Obligation.id
  room : r.scanned + r.stage.rest.length ≤ r.limit
  completed : s.cycle.completed + (if 0 < r.scanned then 1 else 0) ≤ seen s.db.obligations r.cursor.lastID
  closing : r.stage = .closing → ∀ i, ¬ Owed s i

/-- What holds at the stages of a run. -/
def AtStage (s : State) (r : Runner) : Prop :=
  match r.stage with
  | .begin => r.cursor = s.cursor ∧ r.scanned = 0 ∧ r.unsaved = []
  | .fix newest => s.cursor.highWatermark = 0 ∧ 0 ≤ newest ∧ newest < s.db.obligations.nextId ∧ r.scanned = 0 ∧
      r.unsaved = []
  | _ => Looping s r

structure Running (s : State) (r : Runner) : Prop where
  limitPos : 1 ≤ r.limit
  limitMax : r.limit ≤ 100
  stage : AtStage s r
  statements : 0 < s.cursor.highWatermark →
    s.cycle.statements + r.weight ≤ runBound * (s.cycle.completed + s.cycle.interruptions + 1)

/-- The invariant of all runs. -/
structure Fair (s : State) : Prop where
  lastID : 0 ≤ s.cursor.lastID
  mark : 0 ≤ s.cursor.highWatermark
  once : ∀ i ∈ s.cycle.attempted, s.cycle.attempted.count i = 1 ∨ i ∈ s.cycle.lost
  cycle : 0 < s.cursor.highWatermark → InCycle s
  running : ∀ r ∈ s.runner, Running s r

theorem atStage_loops {s : State} {r : Runner} (h : r.stage.Loops) : AtStage s r ↔ Looping s r := by
  unfold AtStage
  cases hs : r.stage <;> simp_all [Stage.Loops]

/-! ### What keeps the invariant -/

section

variable {s s' : State} {r r' : Runner} {db db' : DB} {candidate : Obligation}

/-- At the head of the loop no candidates are left. -/
theorem looping_page (hstage : r.stage = .page) (pos : 0 < s.cursor.highWatermark)
    (mark : r.cursor.highWatermark = s.cursor.highWatermark) (ahead : s.cursor.lastID ≤ r.cursor.lastID)
    (last : r.cursor.lastID ≤ s.cursor.highWatermark) (unsaved : ∀ i ∈ r.unsaved, i ≤ r.cursor.lastID)
    (owed : ∀ i, Owed s i → r.cursor.lastID < i) (room : r.scanned ≤ r.limit)
    (completed : s.cycle.completed + (if 0 < r.scanned then 1 else 0) ≤ seen s.db.obligations r.cursor.lastID) :
    Looping s r := by
  have hrest : r.stage.rest = [] := by rw [hstage]; rfl
  refine ⟨pos, mark, ahead, last, unsaved, owed, ?_, ?_, ?_, ?_, completed, ?_⟩
  · rw [hrest]
    exact covers_nil _ _
  · simp [hrest]
  · simp [hrest]
  · simpa [hrest] using room
  · simp [hstage]

theorem Looping.inCycle (h : Looping s r) (hs : Fair s) : InCycle s := hs.cycle h.pos

/-- What the run and the cursor have passed. -/
theorem InCycle.passed_run (h : InCycle s) (hr : s.runner = some r) (hi : i ∈ s.cycle.attempted)
    (hlost : i ∉ s.cycle.lost) : i ≤ s.cursor.lastID ∨ i ∈ r.unsaved := by
  refine (h.passed i hi hlost).imp_right ?_
  rintro ⟨r₀, hr₀, hu⟩
  cases hr.symm.trans hr₀
  exact hu

/-- What others do keeps the invariant. -/
theorem Fair.others (hs : Fair s) (hdb : Grows s.db.obligations db.obligations) :
    Fair { s with db := db } := by
  have hseen : ∀ {x : Int}, x ≤ s.cursor.highWatermark → 0 < s.cursor.highWatermark →
      seen db.obligations x = seen s.db.obligations x :=
    fun hx hpos => hdb.seen (hx.trans_lt (hs.cycle hpos).fresh)
  have howed : ∀ {i : Int}, 0 < s.cursor.highWatermark → Owed { s with db := db } i → Owed s i := by
    rintro i hpos ⟨hmem, hlow, hrest⟩
    have hc := hs.cycle hpos
    exact ⟨hdb.old hmem ((hlow.trans_eq hc.watermark).trans_lt hc.fresh), hlow, hrest⟩
  refine ⟨hs.lastID, hs.mark, hs.once, fun hpos => ?_, fun r hr => ?_⟩
  · have hc := hs.cycle hpos
    exact { hc with
      fresh := hc.fresh.trans_le hdb.nextId
      rows := hc.rows.trans (hseen le_rfl hpos).symm
      owed := fun i hi => hc.owed i (howed hpos hi)
      completed := hc.completed.trans_eq (hseen hc.last hpos).symm }
  · obtain ⟨hpos, hmax, hstage, hstatements⟩ := hs.running r hr
    refine ⟨hpos, hmax, ?_, hstatements⟩
    by_cases hl : r.stage.Loops
    · have h := (atStage_loops hl).mp hstage
      exact (atStage_loops hl).mpr { h with
        owed := fun i hi => h.owed i (howed h.pos hi)
        covers := h.covers.mono (fun _ => howed h.pos) id
        stored := fun o ho => hdb.mem (h.stored o ho)
        completed := h.completed.trans_eq (hseen h.last h.pos).symm
        closing := fun hst i hi => h.closing hst i (howed h.pos hi) }
    · unfold AtStage at hstage ⊢
      cases hst : r.stage <;> simp only [hst, Stage.Loops, not_true_eq_false, not_false_eq_true] at hstage hl ⊢
      · exact hstage
      · exact ⟨hstage.1, hstage.2.1, lt_of_lt_of_le hstage.2.2.1 hdb.nextId, hstage.2.2.2⟩

/-- A statement that only moves the run stays inside the cycle. -/
theorem InCycle.proceed (h : InCycle s) (hr : s.runner = some r) (stage : Stage) :
    InCycle (s.proceed s.db r stage) :=
  { h with
    passed := fun _ hi hlost => (h.passed_run hr hi hlost).imp_right fun hu => ⟨_, rfl, hu⟩
    statements := nofun }

/-- A run that is in progress goes on inside its loop. -/
theorem Fair.proceed (hs : Fair s) (hr : s.runner = some r) (hloops : r.stage.Loops) {stage : Stage}
    (hdb : Grows s.db.obligations db.obligations) (hstage : stage.Loops)
    (hrest : stage.rest = r.stage.rest) (hclosing : stage ≠ .closing)
    (hoffset : stage.offset < r.stage.offset) : Fair (s.proceed db r stage) := by
  have hs := hs.others hdb
  obtain ⟨hpos, hmax, hat, hstatements⟩ := hs.running r hr
  have h := (atStage_loops hloops).mp hat
  refine ⟨hs.lastID, hs.mark, hs.once, fun hp => (hs.cycle hp).proceed hr stage, ?_⟩
  rintro r' ⟨⟩
  refine ⟨hpos, hmax, (atStage_loops hstage).mpr ?_, fun hp => ?_⟩
  · exact { h with
      covers := hrest.symm ▸ h.covers
      restLow := hrest.symm ▸ h.restLow
      stored := hrest.symm ▸ h.stored
      room := hrest.symm ▸ h.room
      closing := fun hst => absurd hst hclosing }
  · have := hstatements hp
    simp only [weight, State.proceed] at this ⊢
    omega

theorem normalLimit_bounds (limit : Int) : 1 ≤ normalLimit limit ∧ normalLimit limit ≤ 100 := by
  unfold normalLimit
  split <;> omega

section

variable (hs : Fair s)
include hs

/-- A run starts with the saved cursor. -/
theorem Fair.start (hnone : s.runner = none) (workerID : String) (now limit : Int) :
    Fair { s with runner := some { workerID, now, limit := normalLimit limit, cursor := s.cursor } } := by
  obtain ⟨hlimit, hmax⟩ := normalLimit_bounds limit
  refine ⟨hs.lastID, hs.mark, hs.once, fun h => ?_, ?_⟩
  · have hc := hs.cycle h
    refine { hc with passed := fun i hi hlost => .inl ?_, statements := nofun }
    refine (hc.passed i hi hlost).resolve_right ?_
    rintro ⟨r, hr, -⟩
    rw [hnone] at hr
    cases hr
  · rintro r ⟨⟩
    refine ⟨hlimit, hmax, ⟨rfl, rfl, rfl⟩, fun h => ?_⟩
    have := (hs.cycle h).statements hnone
    simp only [weight, Stage.offset, runBound] at this ⊢
    omega

section

variable (hr : s.runner = some r)
include hr

/-- A cycle in progress is continued at the saved cursor. -/
theorem Fair.resume (hstage : r.stage = .begin)
    (hmark : 0 < r.cursor.highWatermark) : Fair (s.proceed s.db r .page) := by
  obtain ⟨hpos, hmax, hat, hstatements⟩ := hs.running r hr
  simp only [AtStage, hstage] at hat
  obtain ⟨hcursor, hscanned, hunsaved⟩ := hat
  have hpositive : 0 < s.cursor.highWatermark := by rw [← hcursor]; exact hmark
  have hc := hs.cycle hpositive
  refine ⟨hs.lastID, hs.mark, hs.once, fun _ => hc.proceed hr _, ?_⟩
  rintro r' ⟨⟩
  refine ⟨hpos, hmax, ?_, fun h => ?_⟩
  · have howed : ∀ i, Owed (s.proceed s.db r .page) i → r.cursor.lastID < i := by
      rw [hcursor]
      exact hc.owed
    have hscanned' : s.cycle.completed + (if 0 < r.scanned then 1 else 0) ≤
        seen s.db.obligations r.cursor.lastID := by
      rw [hscanned, hcursor]
      exact hc.completed
    exact looping_page rfl hpositive (congrArg Cursor.highWatermark hcursor)
      (congrArg Cursor.lastID hcursor).ge ((congrArg Cursor.lastID hcursor).trans_le hc.last)
      (by simp [hunsaved]) howed (by simp [hscanned]) hscanned'
  · have := hstatements h
    simp only [weight, State.proceed, hstage, Stage.offset] at this ⊢
    omega

/-- Without a cycle in progress the newest key is read. -/
theorem Fair.newest (hstage : r.stage = .begin)
    (hmark : ¬ 0 < r.cursor.highWatermark) :
    Fair (s.proceed s.db r (.fix (newestID s.db.obligations))) := by
  obtain ⟨hpos, hmax, hat, -⟩ := hs.running r hr
  simp only [AtStage, hstage] at hat
  obtain ⟨hcursor, hscanned, hunsaved⟩ := hat
  rw [hcursor] at hmark
  refine ⟨hs.lastID, hs.mark, hs.once, fun h => absurd h hmark, ?_⟩
  rintro r' ⟨⟩
  refine ⟨hpos, hmax, ?_, fun h => absurd h hmark⟩
  have hzero : s.cursor.highWatermark = 0 := le_antisymm (not_lt.mp hmark) hs.mark
  exact ⟨hzero, newestID_nonneg _, newestID_lt _, hscanned, hunsaved⟩

/-- The watermark is fixed, and a new cycle begins. -/
theorem Fair.fix {newest : Int} (hstage : r.stage = .fix newest) :
    Fair (s.fix r newest) := by
  obtain ⟨hpos, hmax, hat, -⟩ := hs.running r hr
  simp only [AtStage, hstage] at hat
  obtain ⟨-, hnonneg, hfresh, hscanned, hunsaved⟩ := hat
  have howed : ∀ i, Owed (s.fix r newest) i → 0 < i := by
    rintro i ⟨hi, -⟩
    obtain ⟨o, ho, rfl⟩ := mem_map.mp hi
    exact (s.db.obligations.bounds o ho).1
  refine ⟨le_rfl, hnonneg, nofun, fun h => ?_, ?_⟩
  · have hne : newest ≠ 0 := ne_of_gt h
    refine ⟨rfl, hfresh, hnonneg, rfl, howed, nofun, nofun, Nat.zero_le _, fun hnone => ?_⟩
    simp [State.fix, hne] at hnone
  · intro r' hr'
    by_cases hne : newest = 0
    · simp [State.fix, hne] at hr'
    · have hr' : some { r with cursor := ⟨0, newest⟩, stage := .page } = some r' := by
        simpa [State.fix, hne] using hr'
      cases hr'
      refine ⟨hpos, hmax, ?_, fun _ => ?_⟩
      · have hpositive : 0 < newest := by omega
        exact looping_page rfl hpositive rfl le_rfl hnonneg (by simp [hunsaved]) howed (by simp [hscanned])
          (by simp [hscanned, State.fix])
      · simp only [weight, State.fix, Stage.offset, runBound]
        omega

/-- A page query: a page covers the rows that are owed, and an empty page shows that none is. -/
theorem Fair.query (hstage : r.stage = .page) (hless : r.scanned < r.limit) :
    Fair (s.query r) := by
  obtain ⟨hpos, hmax, hat, hstatements⟩ := hs.running r hr
  have hloop : Looping s r := (atStage_loops (by rw [hstage]; trivial)).mp hat
  have hc := hloop.inCycle hs
  have howed : ∀ i, Owed (s.query r) i → Owed s i := by
    rintro i ⟨hmem, hlow, hnot, hnew⟩
    exact ⟨hmem, hlow, fun hi => hnot (mem_append_right _ hi), hnew⟩
  -- a row that is owed behind the query is selected by it
  have hselected : ∀ i, Owed (s.query r) i → ∃ o ∈ s.db.obligations.rows, r.selects o = true ∧ Row.id o = i := by
    rintro i ⟨hmem, hlow, hnot, hnew⟩
    obtain ⟨o, ho, rfl⟩ := mem_map.mp hmem
    refine ⟨o, ho, ?_, rfl⟩
    have hcandidate : RecoveryCandidate o r.now := by
      by_contra hno
      refine hnot (mem_append_left _ (mem_filter.mpr ⟨mem_map_of_mem ?_, decide_eq_true hnew⟩))
      exact mem_filter.mpr ⟨ho, by simpa using hno⟩
    have hmark : o.id ≤ r.cursor.highWatermark := by
      rw [hloop.mark, ← hc.watermark]
      exact hlow
    simp [selects, hmark, hcandidate]
  have hcovers := s.db.obligations.keysetPage_covers r.selects r.cursor.lastID (min 25 (r.limit - r.scanned))
  have hpage : ∀ o ∈ r.candidates s.db.obligations, o ∈ s.db.obligations.rows ∧ r.selects o = true := fun o ho =>
    ⟨(mem_keysetPage ho).1, (mem_keysetPage ho).2.1⟩
  refine ⟨hs.lastID, hs.mark, hs.once, fun _ => ?_, ?_⟩
  · exact { hc with
      owed := fun i hi => hc.owed i (howed i hi)
      passed := fun i hi hlost => (hc.passed_run hr hi hlost).imp_right fun hu => ⟨_, rfl, hu⟩
      statements := nofun }
  · rintro r' ⟨⟩
    set page := r.candidates s.db.obligations with hpageDef
    have hweight := hstatements hloop.pos
    have hlooping : ∀ stage : Stage, stage.rest = page → (stage = .closing → ∀ i, ¬ Owed (s.query r) i) →
        Looping (s.query r) { r with stage := stage } := by
      intro stage hrest hclosing
      refine { hloop with
        owed := fun i hi => hloop.owed i (howed i hi)
        covers := ?_, restLow := ?_, stored := ?_, room := ?_
        closing := hclosing }
      · rw [hrest]
        exact hcovers.mono hselected fun _ => trivial
      · rw [hrest]
        intro o ho
        have hsel := (hpage o ho).2
        simp only [selects, Bool.and_eq_true, decide_eq_true_eq] at hsel
        exact hsel.1.trans_eq hloop.mark
      · rw [hrest]
        exact fun o ho => mem_map_of_mem (hpage o ho).1
      · rw [hrest, hpageDef, candidates, keysetPage, length_take]
        show r.scanned + _ ≤ r.limit
        omega
    refine ⟨hpos, hmax, ?_, fun _ => ?_⟩
    · by_cases hempty : page = []
      · simp only [hempty, if_true]
        refine hlooping .closing hempty.symm fun _ i hi => ?_
        -- the page is empty though its limit is not zero, so it was not full
        have hfull : ¬ (page.length = min 25 (r.limit - r.scanned)) := by
          rw [hempty, length_nil]
          omega
        have hnil : Covers (Owed (s.query r)) (page.length = min 25 (r.limit - r.scanned)) r.cursor.lastID page :=
          hcovers.mono hselected id
        rw [hempty] at hnil
        have hle := hnil.last (by rwa [hempty] at hfull) hi
        have hlt := hloop.owed i (howed i hi)
        omega
      · simp only [hempty, if_false]
        exact hlooping (.rows page) rfl (by simp)
    · have hoffset : (if page = [] then Stage.closing else .rows page).offset < 5 := by
        cases hp : page with
        | nil | cons => simp [Stage.offset]
      simp only [weight, State.query, hstage, Stage.offset] at hweight hoffset ⊢
      omega

end

end

/-- Behind a save of the run's cursor. -/
theorem Looping.saved (h : Looping s r) (hs : Fair s) (hr : s.runner = some r) {runner : Option Runner}
    {completed statements : Nat} (hcompleted : completed ≤ seen s.db.obligations r.cursor.lastID)
    (hstatements : runner = none → statements ≤ runBound * (completed + s.cycle.interruptions)) :
    InCycle { s with cursor := r.cursor, runner, cycle := { s.cycle with completed, statements } } := by
  have hc := h.inCycle hs
  refine { hc with
    watermark := ?_, fresh := ?_, last := ?_, rows := ?_, owed := h.owed, low := ?_, passed := ?_
    completed := hcompleted, statements := hstatements }
  · exact hc.watermark.trans h.mark.symm
  · exact h.mark.trans_lt hc.fresh
  · exact h.last.trans_eq h.mark.symm
  · rw [h.mark]
    exact hc.rows
  · rw [h.mark]
    exact hc.low
  · intro i hi hlost
    refine .inl ((hc.passed_run hr hi hlost).elim (fun hle => ?_) (h.unsaved i))
    exact hle.trans h.ahead

/-- The save behind a page. -/
theorem Fair.savePage (hs : Fair s) (hr : s.runner = some r) (hstage : r.stage = .rows []) : Fair (s.savePage r) := by
  obtain ⟨hpos, hmax, hat, hstatements⟩ := hs.running r hr
  have hloop : Looping s r := (atStage_loops (by rw [hstage]; trivial)).mp hat
  have hlast := hs.lastID
  have hcompleted := hloop.completed
  refine ⟨hlast.trans hloop.ahead, ?_, hs.once, fun _ => ?_, ?_⟩
  · show 0 ≤ r.cursor.highWatermark
    rw [hloop.mark]
    exact hs.mark
  · exact hloop.saved hs hr ((Nat.le_add_right _ _).trans hcompleted) nofun
  · rintro r' ⟨⟩
    refine ⟨hpos, hmax, ?_, fun _ => ?_⟩
    · have hpositive : 0 < r.cursor.highWatermark := by
        rw [hloop.mark]
        exact hloop.pos
      refine looping_page rfl hpositive rfl le_rfl (hloop.last.trans_eq hloop.mark.symm) (by simp) ?_ ?_ hcompleted
      · exact hloop.owed
      · have := hloop.room
        show r.scanned ≤ r.limit
        omega
    · have := hstatements hloop.pos
      simp only [weight, State.savePage, hstage, Stage.offset] at this ⊢
      omega

/-- The save of a run that used up its limit: it has passed a row. -/
theorem Fair.saveLast (hs : Fair s) (hr : s.runner = some r) (hstage : r.stage = .page)
    (hfull : ¬ r.scanned < r.limit) : Fair (s.saveLast r) := by
  obtain ⟨hpos, -, hat, hstatements⟩ := hs.running r hr
  have hloop : Looping s r := (atStage_loops (by rw [hstage]; trivial)).mp hat
  have hlast := hs.lastID
  refine ⟨hlast.trans hloop.ahead, ?_, hs.once, fun _ => ?_, fun r hr => by cases hr⟩
  · show 0 ≤ r.cursor.highWatermark
    rw [hloop.mark]
    exact hs.mark
  · refine hloop.saved hs hr ?_ fun _ => ?_
    · have := hloop.completed
      rw [if_pos (by omega)] at this
      exact this
    · have := hstatements hloop.pos
      simp only [weight, hstage, Stage.offset, runBound] at this ⊢
      omega

/-- Behind the validation of a row the run is inside its loop, with the other rows left. -/
theorem State.attempt_runner (s : State) (r : Runner) (e : Env) (candidate : Obligation) (rest : List Obligation) :
    ∃ stage : Stage, (s.attempt r e candidate rest).runner = some { r with
        cursor := { r.cursor with lastID := candidate.id }, scanned := r.scanned + 1, stage := stage
        unsaved := candidate.id :: r.unsaved } ∧
      stage.Loops ∧ stage.rest = rest ∧ stage ≠ .closing ∧ stage.offset ≤ 10 := by
  have hrows := Stage.offset_rows_le rest
  refine ⟨_, rfl, ?_⟩
  split
  · exact ⟨trivial, rfl, by simp, by omega⟩
  · split
    · exact ⟨trivial, rfl, by simp, le_rfl⟩
    · split
      · exact ⟨trivial, rfl, by simp, by simp [Stage.offset]⟩
      · exact ⟨trivial, rfl, by simp, by omega⟩

/-- The attempt of a row: it is behind everything that the run and the cursor have passed. -/
theorem Fair.attempt (hs : Fair s) (hr : s.runner = some r) {rest : List Obligation}
    (hstage : r.stage = .rows (candidate :: rest)) (e : Env) :
    Fair (s.attempt r e candidate rest) := by
  obtain ⟨hpos, hmax, hat, hstatements⟩ := hs.running r hr
  have hloop : Looping s r := (atStage_loops (by rw [hstage]; trivial)).mp hat
  have hc := hloop.inCycle hs
  have hrest : r.stage.rest = candidate :: rest := by rw [hstage]; rfl
  have hcovers := hloop.covers
  have hroom := hloop.room
  have hlow := hloop.restLow
  have hstored := hloop.stored
  rw [hrest] at hcovers hroom hlow hstored
  have habove : r.cursor.lastID < candidate.id := hcovers.above candidate mem_cons_self
  have hahead := hloop.ahead
  have hmark := hlow candidate mem_cons_self
  have howed : ∀ i, Owed (s.attempt r e candidate rest) i → Owed s i ∧ i ≠ candidate.id := by
    rintro i ⟨hmem, hlow, hnot, hnew⟩
    obtain ⟨hne, hold⟩ := not_or.mp (mem_cons.not.mp hnew)
    exact ⟨⟨hmem, hlow, hnot, hold⟩, hne⟩
  refine ⟨hs.lastID, hs.mark, ?_, fun _ => ?_, ?_⟩
  · -- an earlier attempt of the row would be behind the cursor, unless it was lost
    intro i hi
    show (candidate.id :: s.cycle.attempted).count i = 1 ∨ i ∈ s.cycle.lost
    by_cases hi' : i = candidate.id
    · subst hi'
      by_cases hold : candidate.id ∈ s.cycle.attempted
      · refine .inr ?_
        by_contra hlost
        rcases hc.passed_run hr hold hlost with hle | hu
        · omega
        · have := hloop.unsaved _ hu
          omega
      · rw [count_cons_self, count_eq_zero_of_not_mem hold]
        exact .inl rfl
    · rw [count_cons_of_ne (Ne.symm hi')]
      exact hs.once i ((mem_cons.mp hi).resolve_left hi')
  · refine { hc with
      owed := fun i hi => hc.owed i (howed i hi).1
      low := forall_mem_cons.mpr ⟨hmark, hc.low⟩
      passed := ?_
      statements := nofun }
    intro i hi hlost
    rcases mem_cons.mp hi with rfl | hi
    · exact .inr ⟨_, rfl, mem_cons_self⟩
    · exact (hc.passed_run hr hi hlost).imp_right fun hu => ⟨_, rfl, mem_cons_of_mem _ hu⟩
  · intro r' hr'
    obtain ⟨stage, hrunner, hloops, hrest', hclosing, hoffset⟩ := s.attempt_runner r e candidate rest
    rw [hrunner] at hr'
    cases hr'
    have hscanned : r.scanned + (rest.length + 1) ≤ r.limit := by simpa using hroom
    refine ⟨hpos, hmax, (atStage_loops hloops).mpr ?_, fun _ => ?_⟩
    · refine ⟨hloop.pos, hloop.mark, ?_, hmark, ?_, ?_, ?_, ?_, ?_, ?_, ?_, fun h => absurd h hclosing⟩
      · show s.cursor.lastID ≤ candidate.id
        omega
      · refine forall_mem_cons.mpr ⟨le_rfl, fun i hi => ?_⟩
        exact (hloop.unsaved i hi).trans habove.le
      · intro i hi
        obtain ⟨hi, hne⟩ := howed i hi
        by_contra hle
        have hbehind := hloop.owed i hi
        rcases hcovers.first hi (not_lt.mp hle) with hle | heq
        · omega
        · exact hne heq
      · show Covers _ True candidate.id stage.rest
        rw [hrest']
        exact hcovers.next.mono (fun i hi => (howed i hi).1) id
      · show ∀ o ∈ stage.rest, _
        rw [hrest']
        exact fun o ho => hlow o (mem_cons_of_mem _ ho)
      · show ∀ o ∈ stage.rest, _
        rw [hrest']
        exact fun o ho => hstored o (mem_cons_of_mem _ ho)
      · show r.scanned + 1 + stage.rest.length ≤ r.limit
        rw [hrest']
        omega
      · have hlt := seen_lt habove (hstored candidate mem_cons_self)
        have := hloop.completed
        show s.cycle.completed + (if 0 < r.scanned + 1 then 1 else 0) ≤ seen s.db.obligations candidate.id
        rw [if_pos (by omega)]
        omega
    · have := hstatements hloop.pos
      simp only [weight, hstage, Stage.offset] at this
      simp only [weight, State.attempt]
      omega

/-- An interruption loses what was not saved. -/
theorem Fair.interrupt (hs : Fair s) (hr : s.runner = some r) : Fair (s.interrupt r) := by
  obtain ⟨-, -, -, hstatements⟩ := hs.running r hr
  refine ⟨hs.lastID, hs.mark, ?_, fun h => ?_, fun r hr => by cases hr⟩
  · intro i hi
    exact (hs.once i hi).imp_right (mem_append_right _)
  · have hc := hs.cycle h
    refine { hc with passed := ?_, statements := fun _ => ?_ }
    · intro i hi hlost
      obtain ⟨hunsaved, hlost⟩ := not_or.mp (mem_append.not.mp hlost)
      exact .inl ((hc.passed_run hr hi hlost).resolve_right hunsaved)
    · have := hstatements h
      simp only [State.interrupt, runBound] at this ⊢
      omega

/-! ### Runs -/

theorem grows_getD {o : Option DB} (h : ∀ db', o = some db' → Grows db.obligations db'.obligations) :
    Grows db.obligations (o.getD db).obligations := by
  cases o with
  | none => exact Grows.refl _
  | some db' => exact h db' rfl

theorem grows_write {guard : Obligation → Bool} {f : Obligation → Obligation}
    (h : (db.obligations.cas i guard f).map (fun t => { db with obligations := t }) = some db') :
    Grows db.obligations db'.obligations := by
  obtain ⟨t, ht, rfl⟩ := Option.map_eq_some_iff.mp h
  exact grows_cas ht

theorem grows_claim {workerID : String} {now : Int}
    (h : claimAccountQuotaTerminalRecovery db candidate workerID now = some db') :
    Grows db.obligations db'.obligations := by
  unfold claimAccountQuotaTerminalRecovery at h
  split at h
  · exact grows_write h
  · cases h

theorem Fair.advance (hs : Fair s) (hr : s.runner = some r) (e : Env) : Fair (s.advance r e) := by
  -- a statement of the loop's body goes on with the rest of the page
  have hbody : ∀ {db : DB} {stage : Stage}, r.stage.Loops → Grows s.db.obligations db.obligations → stage.Loops →
      stage.rest = r.stage.rest → stage ≠ .closing → stage.offset < r.stage.offset → Fair (s.proceed db r stage) :=
    fun hloops hdb hstage hrest hclosing hoffset => hs.proceed hr hloops hdb hstage hrest hclosing hoffset
  unfold State.advance
  cases hstage : r.stage with
  | begin =>
    dsimp only
    split
    · next hmark => exact hs.resume hr hstage hmark
    · next hmark => exact hs.newest hr hstage hmark
  | fix newest => exact hs.fix hr hstage
  | page =>
    dsimp only
    split
    · next hless => exact hs.query hr hstage hless
    · next hfull => exact hs.saveLast hr hstage hfull
  | closing => exact ⟨le_rfl, le_rfl, hs.once, nofun, fun r hr => by cases hr⟩
  | rows rest =>
    cases rest with
    | nil => exact hs.savePage hr hstage
    | cons candidate rest => exact hs.attempt hr hstage e
  | manual candidate rest =>
    rw [hstage] at hbody
    have hrows := Stage.offset_rows_le rest
    refine hbody trivial ?_ trivial rfl nofun (by simp only [Stage.offset] at hrows ⊢; omega)
    split
    · exact Grows.refl _
    · exact grows_getD fun _ => grows_write
  | claim candidate rest =>
    rw [hstage] at hbody
    have hrows := Stage.offset_rows_le rest
    have hskip : Fair (s.proceed s.db r (.rows rest)) :=
      hbody trivial (Grows.refl _) trivial rfl nofun (by simp only [Stage.offset] at hrows ⊢; omega)
    dsimp only
    split
    · exact hskip
    · split
      · exact hskip
      · next db hclaim => exact hbody trivial (grows_claim hclaim) trivial rfl nofun (by simp [Stage.offset])
  | claimed id rest =>
    rw [hstage] at hbody
    have hrows := Stage.offset_rows_le rest
    dsimp only
    split
    · exact hbody trivial (Grows.refl _) trivial rfl nofun (by simp only [Stage.offset] at hrows ⊢; omega)
    · exact hbody trivial (Grows.refl _) trivial rfl nofun (by simp [Stage.offset])
  | refund claimed rest =>
    rw [hstage] at hbody
    exact hbody trivial (Grows.refl _) trivial rfl nofun (by simp [Stage.offset])
  | finish claimed failed rest =>
    rw [hstage] at hbody
    have hrows := Stage.offset_rows_le rest
    refine hbody trivial ?_ trivial rfl nofun (by simp only [Stage.offset] at hrows ⊢; omega)
    split
    · exact grows_getD fun _ => grows_write
    · exact Grows.refl _

theorem Fair.step {a : Action} (hs : Fair s) (h : step s a = some s') : Fair s' := by
  cases a with
  | start workerID now limit =>
    simp only [Cycle.step] at h
    split at h <;> cases h
    next hstart => exact hs.start hstart.1 workerID now limit
  | advance e =>
    obtain ⟨r, hr, rfl⟩ := Option.map_eq_some_iff.mp h
    exact hs.advance hr e
  | interrupt =>
    obtain ⟨r, hr, rfl⟩ := Option.map_eq_some_iff.mp h
    exact hs.interrupt hr
  | insert o =>
    cases h
    exact hs.others (grows_insert _ o)
  | change o =>
    cases h
    exact hs.others (grows_put _ o)
  | others db =>
    cases h
    exact hs.others (Grows.refl _)

end

theorem fair_initial (db : DB) : Fair { db := db } := by
  refine ⟨le_rfl, le_rfl, ?_, ?_, ?_⟩
  · intro i hi
    cases hi
  · intro h
    exact absurd h (lt_irrefl _)
  · intro r hr
    cases hr

theorem fair_run {db : DB} {actions : List Action} {s : State} (h : run step { db := db } actions = some s) :
    Fair s :=
  run_invariant Fair (fun _ _ _ hs => hs.step) actions _ s (fair_initial db) h

/-- Cycles of the recovery neither skip nor starve, in every run: a run that is about to finish the cycle has attempted
every row up to the watermark that no page query of the cycle found ineligible before its attempt; a row is attempted
once, unless a run was interrupted before it saved the attempt; and inside a cycle only rows up to the watermark are attempted, later rows
get keys above it, and the statements of the cycle are bounded by the number of rows that there were when the watermark
was fixed and by the interruptions. -/
theorem recovery_cycles_neither_skip_nor_starve (db : DB) (actions : List Action) (s : State)
    (h : run step { db := db } actions = some s) :
    (∀ r ∈ s.runner, r.stage = .closing → ∀ o ∈ s.db.obligations.rows, o.id ≤ s.cycle.watermark →
      o.id ∉ s.cycle.ineligible → o.id ∈ s.cycle.attempted) ∧
    (∀ i ∈ s.cycle.attempted, s.cycle.attempted.count i = 1 ∨ i ∈ s.cycle.lost) ∧
    (0 < s.cursor.highWatermark →
      s.cycle.watermark = s.cursor.highWatermark ∧ (∀ i ∈ s.cycle.attempted, i ≤ s.cycle.watermark) ∧
      s.cycle.watermark < s.db.obligations.nextId ∧
      s.cycle.statements ≤ runBound * (s.cycle.rows + s.cycle.interruptions + 1)) := by
  have hs := fair_run h
  refine ⟨?_, hs.once, ?_⟩
  · intro r hr hstage o ho hlow hnot
    have hloop : Looping s r := (atStage_loops (by rw [hstage]; trivial)).mp (hs.running r hr).stage
    by_contra hnew
    exact hloop.closing hstage o.id ⟨mem_map_of_mem ho, hlow, hnot, hnew⟩
  · intro hpos
    have hc := hs.cycle hpos
    refine ⟨hc.watermark, ?_, ?_, ?_⟩
    · rw [hc.watermark]
      exact hc.low
    · rw [hc.watermark]
      exact hc.fresh
    · have hrows : s.cycle.completed ≤ s.cycle.rows := by
        rw [hc.rows]
        exact hc.completed.trans (seen_mono _ hc.last)
      have hbound : s.cycle.statements ≤ runBound * (s.cycle.completed + s.cycle.interruptions + 1) := by
        cases hr : s.runner with
        | none => exact (hc.statements hr).trans (Nat.mul_le_mul_left _ (Nat.le_succ _))
        | some r => exact (Nat.le_add_right _ _).trans ((hs.running r hr).statements hpos)
      exact hbound.trans (Nat.mul_le_mul_left _ (by omega))

/-- An obligation that waits for its refund. -/
def waiting (requestID : String) : Obligation :=
  { requestID, reserveReceiptID := 1, writerEpoch := 7, requestFingerprint := .blank, state := .refundPending
    lockVersion := 1 }

/-- A database with two waiting obligations and nothing else. -/
def waitingDB : DB where
  writer := none
  accountCursorComplete := true
  balanceBackfillDone := true
  funding := ⟨true, false⟩
  users := Table.empty
  tokens := Table.empty
  subscriptions := Table.empty
  plans := Table.empty
  receipts := Table.empty
  heads := Table.empty
  obligations := (Table.empty.insert (waiting "a")).insert (waiting "b")
  projections := Table.empty

/-- A run with limit 1, a row that is inserted behind it, a run that is interrupted before it saves, a run with limit
5, and the query that finds the cycle at its end. -/
def waitingActions : List Action :=
  .start "worker" 100 1 :: List.replicate 7 (.advance {}) ++
    .insert (waiting "c") :: .start "worker" 101 5 :: List.replicate 3 (.advance {}) ++
    .interrupt :: .start "worker" 102 5 :: List.replicate 6 (.advance {})

/-- The two rows are attempted before the cycle ends, though a third one is inserted. -/
theorem recovery_cycles_neither_skip_nor_starve_waiting :
    ∃ s, run step { db := waitingDB } waitingActions = some s ∧ s.runner.map Runner.stage = some .closing ∧
      s.cycle.watermark = 2 ∧ s.cycle.lost = [2] ∧
      (∀ o ∈ s.db.obligations.rows, o.id ≤ 2 → o.id ∉ s.cycle.ineligible → o.id ∈ s.cycle.attempted) := by
  obtain ⟨s, hrun, hstage, hmark, hlost⟩ : ∃ s, run step { db := waitingDB } waitingActions = some s ∧
      s.runner.map stage = some .closing ∧ s.cycle.watermark = 2 ∧ s.cycle.lost = [2] :=
    ⟨_, run_getD (by decide +kernel), by decide +kernel, by decide +kernel, by decide +kernel⟩
  obtain ⟨r, hr, hclosing⟩ := Option.map_eq_some_iff.mp hstage
  have hattempted := (recovery_cycles_neither_skip_nor_starve _ _ s hrun).1 r hr hclosing
  rw [hmark] at hattempted
  exact ⟨s, hrun, hstage, hmark, hlost, hattempted⟩

end MyApiSpec.Ledger.Cycle
