import Mathlib.Data.List.Pairwise
import MyApiSpec.Base.Process

/-!
# Recovery of background tasks

`model/system_task.go`: a task row is pending, running or ended, and it blocks its type through the unique
active key until it has ended. A claim reads the row, takes the lock of the type, ends the run whose lock it
takes over and sets the row to running, each in a statement of its own. `ExpireStaleSystemTaskLocks` finds
dead runs through their locks only. A claim that pauses between lock and row until its lock is gone leaves a
running row that nothing ends.
-/

namespace MyApiSpec.SystemTask

open Base List

/-! ### Tables -/

inductive Status where
  | pending | running | succeeded | failed
  deriving DecidableEq

/-- `activeSystemTaskStatuses`. -/
def Status.active (s : Status) : Bool := s = .pending || s = .running

/-- A row of `system_tasks`. -/
structure Task where
  id : Nat
  taskID : String
  type : String
  status : Status := .pending
  activeKey : Option String := some type
  lockedBy : String := ""
  fenceToken : Int := 0
  keyed : activeKey = if status.active then some type else none := by rfl

/-- The updates that end a run. -/
def Task.finish (t : Task) (status : Status) (h : status.active = false) : Task :=
  { t with status, activeKey := none, keyed := by simp [h] }

/-- The update of a claim. -/
def Task.start (t : Task) (lockedBy : String) (fenceToken : Int) : Task :=
  if h : t.status = .pending then
    { t with
      status := .running, lockedBy, fenceToken
      keyed := by simpa [h, Status.active] using t.keyed }
  else t

theorem start_activeKey (lockedBy : String) (fenceToken : Int) (t : Task) :
    (t.start lockedBy fenceToken).activeKey = t.activeKey := by
  unfold Task.start
  split <;> rfl

/-- A row of `system_task_locks`; the type is the primary key. -/
structure Lock where
  type : String
  taskID : String
  lockedBy : String
  lockedUntil : Int
  fenceToken : Int
  deriving DecidableEq

/-- The tables; the active key is a unique index. -/
structure World where
  tasks : List Task := []
  locks : List Lock := []
  distinct : tasks.Pairwise fun t u => t.activeKey = u.activeKey → t.activeKey = none := by simp

/-- `UPDATE … SET f WHERE p`. -/
def updateWhere {α : Type} (p : α → Bool) (f : α → α) (rows : List α) : List α :=
  rows.map fun x => if p x then f x else x

/-- An update of task rows keeps or clears their active keys. -/
def World.updateTasks (w : World) (p : Task → Bool) (f : Task → Task)
    (hf : ∀ t, (f t).activeKey = t.activeKey ∨ (f t).activeKey = none) : World × Nat :=
  ({ w with
      tasks := updateWhere p f w.tasks
      distinct := pairwise_map.mpr (w.distinct.imp fun {t u} hdistinct => by grind) },
    w.tasks.countP p)

/-- An insert of a task row; the ids of tasks are a unique index, too. -/
def World.insertTask (w : World) (task : Task) : World × Bool :=
  if h : w.tasks.any fun t => t.taskID = task.taskID || t.activeKey = task.activeKey then (w, false)
  else ({ w with
      tasks := w.tasks ++ [task]
      distinct := pairwise_append.mpr ⟨w.distinct, by simp, by grind⟩ }, true)

def World.updateLocks (w : World) (p : Lock → Bool) (f : Lock → Lock) : World × Nat :=
  ({ w with locks := updateWhere p f w.locks }, w.locks.countP p)

def World.deleteLocks (w : World) (p : Lock → Bool) : World × Unit :=
  ({ w with locks := w.locks.filter fun l => !p l }, ())

/-! ### Calls -/

/-- A call is a sequence of statements; the environment is the clock. -/
abbrev Call (α : Type) : Type := Prog World Int α

def statement {α : Type} (f : World → World × α) : Call α := .update fun w _ => f w

/-- `common.GetTimestamp`. -/
def getTimestamp : Call Int := .read fun _ now => now

/-- `CreateSystemTask`, with the generated id of the task; the scheduler and `EnqueueSystemTaskContext`
create tasks by this insert. -/
def createSystemTask (type taskID : String) : Call Bool :=
  statement fun w => w.insertTask { id := w.tasks.length + 1, taskID, type }

/-- `acquireSystemTaskLockWithContext`: the task of the lock that was taken over and the fence. -/
def acquireSystemTaskLock (type taskID lockedBy : String) (now lockUntil : Int) :
    Call (Option (String × Int)) := do
  let created ← statement fun w =>
    if w.locks.any (·.type = type) then (w, false)
    else ({ w with locks := w.locks ++ [⟨type, taskID, lockedBy, lockUntil, 1⟩] }, true)
  if created then return some ("", 1)
  match ← statement fun w => (w, w.locks.find? (·.type = type)) with
  | none => return none
  | some existing =>
    if now ≤ existing.lockedUntil then return none
    let successor := (existing.fenceToken + 1).bmod (2 ^ 64)
    let fenceToken := if successor ≤ 0 then 1 else successor
    let taken ← statement fun w => w.updateLocks (fun l => l = existing && l.lockedUntil < now)
      fun l => { l with taskID, lockedBy, lockedUntil := lockUntil, fenceToken }
    return if taken = 0 then none else some (existing.taskID, fenceToken)

/-- `MarkSystemTaskLeaseExpired`. -/
def markSystemTaskLeaseExpired (taskID : String) : Call Nat :=
  statement fun w => w.updateTasks (fun t => t.taskID = taskID && t.status = .running)
    (·.finish .failed rfl) fun _ => .inr rfl

/-- `ReleaseSystemTaskLock`. -/
def releaseSystemTaskLock (taskID lockedBy : String) : Call Unit :=
  statement fun w => w.deleteLocks fun l => l.taskID = taskID && l.lockedBy = lockedBy

/-- The pending row that a claim is for. -/
def claimable (id : Nat) (type : String) (t : Task) : Bool := t.id = id && t.type = type && t.status = .pending

/-- `ClaimSystemTask`; `none` when the task is not claimed. -/
def claimSystemTask (id : Nat) (type runnerID : String) (lockUntil : Int) : Call (Option Task) := do
  let now ← getTimestamp
  let some task ← statement fun w => (w, w.tasks.find? (claimable id type)) | return none
  let some (expiredTaskID, fenceToken) ← acquireSystemTaskLock type task.taskID runnerID now lockUntil
    | return none
  if expiredTaskID ≠ "" ∧ expiredTaskID ≠ task.taskID then
    let _ ← markSystemTaskLeaseExpired expiredTaskID
  let started ← statement fun w => w.updateTasks (claimable id type) (·.start runnerID fenceToken)
    fun t => .inl (start_activeKey runnerID fenceToken t)
  if started = 0 then
    releaseSystemTaskLock task.taskID runnerID
    return none
  statement fun w => (w, w.tasks.find? (·.id = id))

/-- `renewSystemTaskLockWithFence`; `false` when the lock is lost. -/
def renewSystemTaskLockWithFence (taskID lockedBy : String) (fenceToken lockUntil : Int) : Call Bool := do
  let now ← getTimestamp
  let renewed ← statement fun w => w.updateLocks
    (fun l => l.taskID = taskID && l.lockedBy = lockedBy && now ≤ l.lockedUntil &&
      (fenceToken ≤ 0 || l.fenceToken = fenceToken))
    fun l => { l with lockedUntil := lockUntil }
  return renewed ≠ 0

/-- `FinishSystemTaskWithContext`; `false` when the lock is lost. -/
def finishSystemTask (taskID lockedBy : String) (status : Status) (h : status.active = false) : Call Bool := do
  let now ← getTimestamp
  let finished ← statement fun w => w.updateTasks
    (fun t => t.taskID = taskID && t.status = .running && t.lockedBy = lockedBy &&
      w.locks.any fun l => l.taskID = t.taskID && l.lockedBy = lockedBy && now ≤ l.lockedUntil)
    (·.finish status h) fun _ => .inr rfl
  if finished = 0 then return false
  releaseSystemTaskLock taskID lockedBy
  return true

/-- The loop over the expired locks. -/
def expireLocks (now : Int) : List Lock → Call Unit
  | [] => return ()
  | lock :: locks => do
    let _ ← markSystemTaskLeaseExpired lock.taskID
    statement fun w => w.deleteLocks fun l => l.type = lock.type && l.taskID = lock.taskID &&
      l.lockedBy = lock.lockedBy && l.lockedUntil < now
    expireLocks now locks

/-- `ExpireStaleSystemTaskLocks`. -/
def expireStaleSystemTaskLocks (now : Int) : Call Unit := do
  expireLocks now (← statement fun w => (w, w.locks.filter (·.lockedUntil < now)))

/-- A call; the handlers finish a task as succeeded or failed. -/
inductive Job where
  | create (type taskID : String)
  | claim (id : Nat) (type runnerID : String) (lockUntil : Int)
  | renew (taskID lockedBy : String) (fenceToken lockUntil : Int)
  | finish (taskID lockedBy : String) (succeeded : Bool)
  | expire (now : Int)

def Job.program : Job → Call Unit
  | .create type taskID => do let _ ← createSystemTask type taskID
  | .claim id type runnerID lockUntil => do let _ ← claimSystemTask id type runnerID lockUntil
  | .renew taskID lockedBy fenceToken lockUntil => do
    let _ ← renewSystemTaskLockWithFence taskID lockedBy fenceToken lockUntil
  | .finish taskID lockedBy succeeded => do
    let _ ← finishSystemTask taskID lockedBy (if succeeded then .succeeded else .failed)
      (by cases succeeded <;> rfl)
  | .expire now => expireStaleSystemTaskLocks now

/-- Calls run in any interleaving of their statements; one that is not advanced has paused or died. -/
def launch (j : Job) (w : World) : Option (World × Call Unit) := some (w, j.program)

/-! ### One run of the expiry -/

/-- The run of the task is ended by the expiry of these locks. -/
def Task.dead (locks : List Lock) (t : Task) : Bool := t.status = .running && locks.any (·.taskID = t.taskID)

theorem expireLocks_alone (now : Int) (locks : List Lock) (w : World) :
    ((expireLocks now locks).alone now w).1.tasks =
        updateWhere (Task.dead locks) (·.finish .failed rfl) w.tasks ∧
      ((expireLocks now locks).alone now w).1.locks = w.locks.filter fun l => !locks.any fun k =>
        l.type = k.type && l.taskID = k.taskID && l.lockedBy = k.lockedBy && l.lockedUntil < now := by
  induction locks generalizing w with
  | nil =>
    show w.tasks = _ ∧ w.locks = _
    simp [updateWhere, Task.dead]
  | cons lock locks ih =>
    obtain ⟨htasks, hlocks⟩ := ih ((expireLocks now [lock]).alone now w).1
    refine ⟨htasks.trans ?_, hlocks.trans ?_⟩
    · show updateWhere _ _ (updateWhere _ _ w.tasks) = _
      simp only [updateWhere, map_map]
      refine map_congr_left fun t _ => ?_
      simp only [Function.comp, Task.dead, any_cons]
      by_cases hrunning : t.status = .running
      · by_cases hname : t.taskID = lock.taskID
        · simp [hrunning, hname, Task.finish]
        · simp [hrunning, hname, Ne.symm hname]
      · simp [hrunning]
    · show filter _ (filter _ w.locks) = _
      simp only [filter_filter, any_cons]
      refine filter_congr fun l _ => ?_
      simp [Bool.not_or, Bool.and_comm]

theorem expire_alone {w : World} {now : Int} (hexpired : ∀ l ∈ w.locks, l.lockedUntil < now) :
    ((expireStaleSystemTaskLocks now).alone now w).1.tasks =
        updateWhere (Task.dead w.locks) (·.finish .failed rfl) w.tasks ∧
      ((expireStaleSystemTaskLocks now).alone now w).1.locks = [] := by
  have hread : w.locks.filter (·.lockedUntil < now) = w.locks :=
    filter_eq_self.mpr fun l hl => decide_eq_true (hexpired l hl)
  have hrun : (expireStaleSystemTaskLocks now).alone now w = (expireLocks now w.locks).alone now w :=
    congrArg (fun locks => (expireLocks now locks).alone now w) hread
  obtain ⟨htasks, hlocks⟩ := expireLocks_alone now w.locks w
  rw [hrun]
  refine ⟨htasks, hlocks.trans (filter_eq_nil_iff.mpr fun l hl => ?_)⟩
  simp only [Bool.not_eq_true', Bool.not_eq_false, any_eq_true]
  exact ⟨l, hl, by simp [hexpired l hl]⟩

theorem claim_alone {w : World} {t : Task} (hlocks : w.locks = []) (ht : t ∈ w.tasks)
    (hpending : t.status = .pending) (runnerID : String) (lockUntil now : Int) :
    ((claimSystemTask t.id t.type runnerID lockUntil).alone now w).2.isSome = true := by
  have hclaim : claimable t.id t.type t := by simp [claimable, hpending]
  obtain ⟨task, hfind⟩ := Option.isSome_iff_exists.mp (find?_isSome.mpr ⟨t, ht, hclaim⟩)
  have hcount := (countP_pos_iff.mpr ⟨t, ht, hclaim⟩).ne'
  obtain ⟨tasks, locks, distinct⟩ := w
  obtain rfl : locks = [] := hlocks
  simp only [claimSystemTask, statement, getTimestamp, Prog.update, Prog.read, Bind.bind, Prog.bind, Prog.alone, hfind]
  show ((if tasks.countP (claimable t.id t.type) = 0 then _ else _ : Call (Option Task)).alone now _).2.isSome = true
  rw [if_neg hcount]
  exact find?_isSome.mpr ⟨t.start runnerID 1, mem_map.mpr ⟨t, ht, if_pos hclaim⟩, by simp [Task.start, hpending]⟩

theorem create_alone {w : World} {type : String} (h : ∀ t ∈ w.tasks, t.type = type → t.status.active = false)
    {taskID : String} (hfresh : ∀ t ∈ w.tasks, t.taskID ≠ taskID) (now : Int) :
    ((createSystemTask type taskID).alone now w).2 = true := by
  have hfree : ¬ (w.tasks.any fun t => t.taskID = taskID || t.activeKey = some type) := by
    simp only [any_eq_true, Bool.or_eq_true, decide_eq_true_eq, not_exists, not_and]
    rintro t ht (hid | hkey)
    · exact hfresh t ht hid
    · have hkeyed := t.keyed
      grind
  exact congrArg Prod.snd (dif_neg hfree)

/-- The type has a pending task that every claim acquires, or no active task, so that one can be created. -/
def Available (w : World) (type : String) : Prop :=
  (∃ t ∈ w.tasks, t.type = type ∧ t.status = .pending ∧ ∀ runnerID lockUntil now,
    ((claimSystemTask t.id type runnerID lockUntil).alone now w).2.isSome = true) ∨
  (∀ t ∈ w.tasks, t.type = type → t.status.active = false) ∧ ∀ taskID now,
    (∀ t ∈ w.tasks, t.taskID ≠ taskID) → ((createSystemTask type taskID).alone now w).2 = true

/-- One undisturbed run of the expiry leaves the type available. -/
def Recovers (w : World) (now : Int) (type : String) : Prop :=
  Available ((expireStaleSystemTaskLocks now).alone now w).1 type

/-- Every running task of the type is named by a lock. -/
def Locked (w : World) (type : String) : Prop :=
  ∀ t ∈ w.tasks, t.type = type → t.status = .running → ∃ l ∈ w.locks, l.taskID = t.taskID

instance (w : World) (type : String) : Decidable (Locked w type) := inferInstanceAs (Decidable (∀ t ∈ w.tasks, _))

/-- A claim pauses behind its lock until the expiry has deleted it, sets the row to running and dies. -/
def pausedClaim : List (Event Int Job) :=
  [.launch (.create "log_cleanup" "systask_1"), .advance 0 100,
    .launch (.claim 1 "log_cleanup" "runner" 160), .advance 1 100, .advance 1 100, .advance 1 100,
    .launch (.expire 200), .advance 2 200, .advance 2 200, .advance 2 200, .advance 1 201]

end MyApiSpec.SystemTask
