import Mathlib.Logic.Relation
import MyApiSpec.Share.Transactions

/-!
# Conservation of observed usage

In every generation with a baseline the last observed usage is the unattributed part and the
estimates of the allocations. It holds along every run in which no rebaseline meets a generation that
has counted usage before its first baseline: such usage is counted although the last observed usage
stays zero, and the rebaseline counts it once more.
-/

namespace MyApiSpec.Share

open Base

/-! ### Runs -/

variable {db : DB}

/-- A call with what its transaction reads elsewhere. -/
inductive Call where
  | configure (rd : Reads) (actorID tokenID : Int) (input : ConfigInput) (now : Int)
  | close (rd : Reads) (actorID : Int) (input : CloseInput) (now : Int)
  | attempt (rd : Reads) (input : AttemptInput) (now : Int)
  | notSent (attemptID : String) (now : Int)
  | project (snapshots : List Snapshot) (subjectRef : String) (now : Int)

/-- A transaction that fails leaves the tables as they are. -/
def DB.commit (db : DB) : Except ShareError DB → DB
  | .ok db' => db'
  | .error _ => db

/-- The tables behind a call. -/
def DB.step (db : DB) : Call → DB
  | .configure rd actorID tokenID input now =>
    db.commit (configureSubscriptionShare db rd actorID tokenID input now)
  | .close rd actorID input now => db.commit (closeSubscriptionSharePool db rd actorID input now)
  | .attempt rd input now => db.commit ((admitSubscriptionShareAttempt db rd input now).map Prod.fst)
  | .notSent attemptID now => db.commit (markSubscriptionShareAttemptNotSent db attemptID now)
  | .project snapshots subjectRef now =>
    db.commit ((refreshSubscriptionShareProjection db snapshots subjectRef now).map Prod.fst)

/-- The call does not rebaseline a generation that counted usage before its first baseline. -/
def Call.Sound (db : DB) : Call → Prop
  | .configure rd _ _ input _ =>
    ∀ s, rd.snapshots.find? (fun s => s.id = input.snapshotID) = some s → db.RebaselineSound input s
  | _ => True

/-- One call of a run. -/
def Steps (db db' : DB) : Prop := ∃ call : Call, call.Sound db ∧ db.step call = db'

/-- The tables that sound calls lead to. -/
def Reaches (db db' : DB) : Prop := Relation.ReflTransGen Steps db db'

/-- The last observed usage of every generation with a baseline is divided without rest, and no pool
is overbooked. -/
structure Conserved (db : DB) : Prop where
  usage : ∀ g ∈ db.generations.rows, g.baselineTime ≠ 0 →
    g.lastUsedMicro = g.unattributedMicro + estimated db.allocations db.usages g.poolID g.generation
  shares : ∀ poolID, allocatedBPS db.allocations poolID ≤ 10000

/-! ### The invariant along a run -/

theorem Inv.empty : Inv {} :=
  ⟨fun w hw => by (cases hw), fun u hu => by (cases hu), fun g hg => by (cases hg),
    Table.uniqueOn_empty _, Table.uniqueOn_empty _, fun p => by simp [allocatedBPS],
    fun a ha => by (cases ha)⟩

theorem Inv.conserved (h : Inv db) : Conserved db := by
  refine ⟨fun g hg hbase => ?_, h.shares⟩
  have hok := h.generations g hg
  exact hok.conserved (lt_of_le_of_ne hok.nonneg hbase.symm)

theorem commit_kept {r : Except ShareError DB} (h : Inv db) (hok : ∀ db', r = .ok db' → Kept db db') :
    Kept db (db.commit r) := by
  cases r with
  | error e => exact Kept.refl h
  | ok db' => exact hok db' rfl

theorem step_kept {call : Call} (h : Inv db) (hs : call.Sound db) : Kept db (db.step call) := by
  cases call with
  | configure rd actorID tokenID input now =>
    exact commit_kept h fun _ => configureSubscriptionShare_kept h hs
  | close rd actorID input now => exact commit_kept h fun _ => closeSubscriptionSharePool_kept h
  | attempt rd input now =>
    refine commit_kept h fun _ hc => ?_
    obtain ⟨r, hr, rfl⟩ := map_eq_ok.mp hc
    exact admitSubscriptionShareAttempt_kept h hr
  | notSent attemptID now => exact commit_kept h fun _ => markSubscriptionShareAttemptNotSent_kept h
  | project snapshots subjectRef now =>
    refine commit_kept h fun _ hc => ?_
    obtain ⟨r, hr, rfl⟩ := map_eq_ok.mp hc
    simp only [refreshSubscriptionShareProjection, bind_eq_ok] at hr
    obtain ⟨_, -, hr⟩ := hr
    exact refreshSubscriptionSharePools_kept h hr

theorem Reaches.kept {db' : DB} (h : Inv db) (hr : Reaches db db') : Kept db db' := by
  induction hr with
  | refl => exact Kept.refl h
  | tail _ hstep ih =>
    obtain ⟨call, hs, rfl⟩ := hstep
    exact ih.trans (step_kept ih.inv hs)

/-- Along every run of sound calls the observed usage is conserved, no pool is overbooked, and no
estimate decreases. -/
theorem subscription_share_conservation {db db' : DB} (h : Reaches {} db) (h' : Reaches db db') :
    Conserved db ∧ Grows db.usages db'.usages := by
  have hkept := h.kept Inv.empty
  exact ⟨hkept.inv.conserved, (h'.kept hkept.inv).grows⟩

/-! ### Two runs -/

/-- A root user and a token of that user, with the samples of the window. -/
def plainReads (snapshots : List Snapshot) : Reads where
  actor := some { root := true }
  token := some { userID := 7 }
  snapshots := snapshots

/-- The account of the window. -/
def plainSubject : String := String.ofList (List.replicate 43 'A')

/-- A text of 64 hexadecimal digits. -/
def plainDigest (c : Char) : String := String.ofList (List.replicate 64 c)

/-- A sample of the primary window. -/
def plainSample (id observedAt : Int) (used : ℚ) : Snapshot where
  id := id
  observedAt := observedAt
  used := some used
  windowType := "weekly"
  planType := "plus"
  windowSeconds := 604800
  resetAt := 600000
  source := primarySource
  subjectRef := plainSubject

/-- Half of the pool for the token. -/
def plainConfig (c : Char) (poolID snapshotID revision : Int) (replace : Bool) : ConfigInput where
  id := plainDigest c
  poolID := poolID
  snapshotID := snapshotID
  expectedRevision := revision
  shareBPS := 5000
  replaceWindow := replace

/-- A request of the token. -/
def plainAttempt : AttemptInput where
  tokenID := 1
  userID := 7
  subjectRef := plainSubject
  channelID := 3
  credentialRef := "credential"
  requestID := "request"
  attemptID := plainDigest 'c'

/-- A pool with a baseline of 10 percent; a request is sent and the usage grows to 13 percent. -/
def growthCalls : List Call :=
  [.configure (plainReads [plainSample 1 1000 5]) 7 1 (plainConfig 'a' 0 1 0 false) 1000,
    .project [plainSample 2 1100 10] plainSubject 1100,
    .attempt (plainReads []) plainAttempt 1150,
    .project [plainSample 3 1200 13] plainSubject 1200]

/-- The second sample comes 400 seconds after the first one and stops the generation before it has a
baseline; a third one follows, and the administrator takes it as the baseline. -/
def lateBaselineCalls : List Call :=
  [.configure (plainReads [plainSample 1 1000 5]) 7 1 (plainConfig 'a' 0 1 0 false) 1000,
    .project [plainSample 2 1400 10] plainSubject 1400,
    .project [plainSample 3 1500 10] plainSubject 1500,
    .configure (plainReads [plainSample 3 1500 10]) 7 1 (plainConfig 'b' 1 3 1 true) 1500]

theorem growthCalls_reaches : Reaches {} (growthCalls.foldl DB.step {}) := by
  have hconfigure : ∀ db : DB, ∀ s : List Snapshot, Call.Sound db
      (.configure (plainReads s) 7 1 (plainConfig 'a' 0 1 0 false) 1000) :=
    fun db s x _ hw => by (cases hw)
  exact (((Relation.ReflTransGen.single ⟨_, hconfigure _ _, rfl⟩).tail ⟨.project _ _ _, trivial, rfl⟩).tail
    ⟨.attempt _ _ _, trivial, rfl⟩).tail ⟨.project _ _ _, trivial, rfl⟩

theorem subscription_share_conservation_growthCalls :
    (Reaches {} (growthCalls.foldl DB.step {}) ∧
      (growthCalls.foldl DB.step {}).generations.rows.map
        (fun g => (g.baselineTime, g.lastUsedMicro, g.unattributedMicro)) =
        [(1100, 13000000, 10000000)] ∧
      estimated (growthCalls.foldl DB.step {}).allocations (growthCalls.foldl DB.step {}).usages 1 1 =
        3000000) ∧
    Conserved (growthCalls.foldl DB.step {}) ∧
      Grows (growthCalls.foldl DB.step {}).usages (growthCalls.foldl DB.step {}).usages :=
  ⟨⟨growthCalls_reaches, by decide +kernel, by decide +kernel⟩,
    subscription_share_conservation growthCalls_reaches .refl⟩

/-- After the rebaseline of `lateBaselineCalls` the observed usage is 10 percent, of which 30 percent
are unattributed. -/
theorem lateBaselineCalls_not_conserved :
    (lateBaselineCalls.foldl DB.step {}).generations.rows.map
        (fun g => (g.baselineTime, g.lastUsedMicro, g.unattributedMicro)) =
      [(1500, 10000000, 30000000)] ∧
    ¬ Conserved (lateBaselineCalls.foldl DB.step {}) := by
  have hrow : (lateBaselineCalls.foldl DB.step {}).generations.rows.any (fun g =>
      g.baselineTime ≠ 0 ∧ g.lastUsedMicro ≠ g.unattributedMicro +
        estimated (lateBaselineCalls.foldl DB.step {}).allocations
          (lateBaselineCalls.foldl DB.step {}).usages g.poolID g.generation) = true := by
    decide +kernel
  refine ⟨by decide +kernel, fun h => ?_⟩
  obtain ⟨g, hg, hne⟩ := List.any_eq_true.mp hrow
  simp only [decide_eq_true_eq] at hne
  exact hne.2 (h.usage g hg hne.1)

end MyApiSpec.Share
