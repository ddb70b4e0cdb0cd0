import Awe.Core.Store

namespace Awe
namespace Core

open Lib Lib.Path

/-!
# Growing a job

The operations of `task.go`, `workflowInstance.go` and `job.go` that create
tasks and workflow instances and keep the counter `RemainSteps` of an instance.
A task enters an instance through `AddTask` and a sub-workflow through
`AddSubworkflow`; both count up.  `TaskRaw.SetState` counts down when a task
completes.

A workflow instance is looked up by its job and its `LocalID`.  The second
section says what every one of these operations does to such lookups; later
proofs use only these facts.
-/

/-- `NewTask`. -/
def newTask (job : Job) (workflowInstanceUUID workflowInstanceID taskIDStr : String) :
    Except String Task :=
  if taskIDStr = "" then .error "(NewTask) task_id is empty"
  else if hasPrefix taskIDStr job.entrypoint then
    .error ("(NewTask) task_id_str prefix wrong: " ++ taskIDStr)
  else if job.isCWL ∧ taskIDStr ≠ job.entrypoint ∧ ¬hasPrefix workflowInstanceID job.entrypoint then
    .error ("(NewTask) workflowInstanceID " ++ workflowInstanceID ++ " has not this prefix " ++
      job.entrypoint)
  else if job.id = "" then .error "(NewTask) jobid is empty! "
  else if hasSuffix taskIDStr "/" then .error ("(NewTask) Suffix in task_id not ok " ++ taskIDStr)
  else
    let name := if job.isCWL then workflowInstanceID ++ "/" ++ taskIDStr else taskIDStr
    let ident : TaskUniqueIdentifier := ⟨trimSuffix name "/", job.id⟩
    .ok
      { Task.blank with
        ident
        globalId := ident.string.1
        info := some job.info
        cmd := some ""
        workflowInstanceID
        workflowInstanceUUID }

/-- `Task.Init` of a task that `NewTask` made. -/
def Task.init (task : Task) : Task :=
  let totalWork := if task.totalWork = 0 then 1 else task.totalWork
  if task.state ≠ .completed then { task with totalWork, remainWork := totalWork } else task

/-- The fields of a task that no operation writes once the task is part of a job. -/
def Task.fixed (task : Task) :
    TaskUniqueIdentifier × String × Option TaskUniqueIdentifier × List String :=
  (task.ident, task.workflowInstanceID, task.scatterParent, task.dependsOn)

/-- `NewWorkflowInstance`, with the UUID it draws. -/
def newWorkflowInstance (uuid localID jobid workflowDefinition : String) : WorkflowInstance :=
  { WorkflowInstance.blank with
    uuid
    localID
    jobID := jobid
    workflowDefinition }

namespace Store

/-- `wi.AddTask`: the task object and its place in the instance. -/
def addTask (store : Store) (jobid localID : String) (task : Task) : Except String (Store × Nat) :=
  match store.instanceOf jobid localID with
  | none => .error "(WorkflowInstance/AddTask) no such instance"
  | some wi =>
      if task.workflowInstanceID = "" then .error "(AddTask) task.WorkflowInstanceID empty"
      else if wi.tasks.any fun ptr => (store.task ptr).ident.taskName = task.ident.taskName then
        .error ("(WorkflowInstance/AddTask) task with same name already in WorkflowInstance (" ++
          task.ident.taskName ++ ")")
      else
        let created := store.allocTask task
        .ok (created.1.modifyInstance jobid localID fun wi =>
          { wi with remainSteps := wi.remainSteps + 1, tasks := wi.tasks ++ [created.2] },
              created.2)

/-- `wi.AddSubworkflow`. -/
def addSubworkflow (store : Store) (jobid localID subworkflow : String) : Store :=
  store.modifyInstance jobid localID fun wi =>
    { wi with subworkflows := wi.subworkflows ++ [subworkflow], remainSteps := wi.remainSteps + 1 }

/-- `job.AddWorkflowInstance`: an instance that is there already is kept. -/
def addWorkflowInstance (store : Store) (jobid : String) (wi : WorkflowInstance) : Store :=
  store.modifyJob jobid fun job =>
    match job.instances.lookup wi.localID with
    | some _ => job
    | none =>
        { job with instances := job.instances.insert wi.localID { wi with state := .pending } }

/-- `wi.SetState`. -/
def setInstanceState (store : Store) (jobid localID : String) (state : ProcessState) : Store :=
  store.modifyInstance jobid localID fun wi => { wi with state }

/-- `task.ResetTaskTrue`. -/
def resetTaskTrue (store : Store) (ptr : Nat) : Store × Err :=
  if (store.task ptr).resetTask then (store, none)
  else
    match store.taskSetState ptr .pending with
    | (store, some err) => (store, some ("(task/ResetTaskTrue) task.SetState returned: " ++ err))
    | (store, none) => (store.modifyTask ptr fun task => { task with resetTask := true }, none)

section

variable (store : Store) (jobid localID : String)

theorem instanceOf_modifyInstance (change : WorkflowInstance -> WorkflowInstance)
    (otherJob other : String) :
    (store.modifyInstance jobid localID change).instanceOf otherJob other =
      if otherJob = jobid ∧ other = localID then (store.instanceOf jobid localID).map change
      else store.instanceOf otherJob other := by
  unfold instanceOf modifyInstance
  rw [modifyJob_lookup]
  by_cases sameJob : otherJob = jobid
  · rw [if_pos sameJob, sameJob]
    cases store.jobs.lookup jobid with
    | none => simp
    | some job =>
        simp only [Option.map_some, Option.bind_some]
        cases found : job.instances.lookup localID with
        | none =>
            by_cases same : other = localID
            · rw [if_pos ⟨trivial, same⟩, same, found]
              rfl
            · rw [if_neg (fun both => same both.2)]
        | some wi =>
            rw [GoMap.lookup_insert_if]
            by_cases same : other = localID
            · rw [if_pos same, if_pos ⟨trivial, same⟩]
              rfl
            · rw [if_neg same, if_neg (fun both => same both.2)]
  · rw [if_neg sameJob, if_neg (fun both => sameJob both.1)]

/-- A write to an instance leaves the rest of the job alone. -/
theorem modifyInstance_job {store : Store} {jobid : String} {job : Job}
    (loaded : store.jobs.lookup jobid = some job) (localID : String)
    (change : WorkflowInstance -> WorkflowInstance) :
    Exists fun instances => (store.modifyInstance jobid localID change).jobs.lookup jobid =
      some { job with instances } := by
  unfold modifyInstance
  rw [modifyJob_lookup, if_pos rfl, loaded, Option.map_some]
  cases job.instances.lookup localID with
  | none => exact ⟨job.instances, rfl⟩
  | some wi => exact ⟨_, rfl⟩

/-- A write to a job that leaves its instances alone. -/
theorem instanceOf_modifyJob (change : Job -> Job)
    (kept : forall job, (change job).instances = job.instances) (otherJob other : String) :
    (store.modifyJob jobid change).instanceOf otherJob other = store.instanceOf otherJob other := by
  unfold instanceOf
  rw [modifyJob_lookup]
  by_cases sameJob : otherJob = jobid
  · rw [if_pos sameJob, sameJob]
    cases store.jobs.lookup jobid with
    | none => rfl
    | some job => simp only [Option.map_some, Option.bind_some, kept]
  · rw [if_neg sameJob]

@[simp] theorem modifyInstance_task (change : WorkflowInstance -> WorkflowInstance) :
    (store.modifyInstance jobid localID change).task = store.task :=
  modifyJob_task ..

@[simp] theorem modifyJob_nextTask (change : Job -> Job) :
    (store.modifyJob jobid change).nextTask = store.nextTask := by
  unfold modifyJob
  split <;> rfl

@[simp] theorem modifyInstance_nextTask (change : WorkflowInstance -> WorkflowInstance) :
    (store.modifyInstance jobid localID change).nextTask = store.nextTask :=
  modifyJob_nextTask ..

theorem instanceOf_addWorkflowInstance (wi : WorkflowInstance) (otherJob other : String) :
    (store.addWorkflowInstance jobid wi).instanceOf otherJob other =
      if otherJob = jobid ∧ other = wi.localID ∧ (store.jobs.lookup jobid).isSome ∧
          store.instanceOf jobid wi.localID = none then
        some { wi with state := .pending }
      else store.instanceOf otherJob other := by
  unfold instanceOf addWorkflowInstance
  rw [modifyJob_lookup]
  by_cases sameJob : otherJob = jobid
  · rw [if_pos sameJob, sameJob]
    cases store.jobs.lookup jobid with
    | none => simp
    | some job =>
        simp only [Option.map_some, Option.bind_some, Option.isSome_some, true_and]
        cases found : job.instances.lookup wi.localID with
        | some present => simp
        | none =>
            simp only [and_true]
            rw [GoMap.lookup_insert_if]
  · rw [if_neg sameJob, if_neg (fun all => sameJob all.1)]

/-! ## What a change of a task's state does -/

/-- The store after the state itself is written. -/
def withState (ptr : Nat) (newState : ProcessState) : Store :=
  store.modifyTask ptr fun task => { task with state := newState }

theorem getWorkflowInstance_cases (task : Task) :
    (Exists fun wi => store.instanceOf task.ident.jobId task.workflowInstanceID = some wi ∧
      store.getWorkflowInstance task = .ok wi) ∨
    (store.instanceOf task.ident.jobId task.workflowInstanceID = none ∧
      Exists fun err => store.getWorkflowInstance task = .error err) := by
  unfold instanceOf getWorkflowInstance getJob
  cases store.jobs.lookup task.ident.jobId with
  | none => exact Or.inr ⟨rfl, _, rfl⟩
  | some job =>
      simp only [Option.bind_some]
      cases job.instances.lookup task.workflowInstanceID with
      | none => exact Or.inr ⟨rfl, _, rfl⟩
      | some wi => exact Or.inl ⟨wi, rfl, rfl⟩

/-- `SetState` in four cases: nothing changes; a state other than completed is
written; the task completes without an instance, which is an error; or it
completes and its instance counts down. -/
theorem taskSetState_cases (ptr : Nat) (newState : ProcessState) :
    ((store.taskSetState ptr newState).1 = store ∧
        ((store.taskSetState ptr newState).2 = none -> (store.task ptr).state = newState)) ∨
    ((store.task ptr).state ≠ newState ∧ newState ≠ .completed ∧
        store.taskSetState ptr newState = (store.withState ptr newState, none)) ∨
    ((store.task ptr).state ≠ .completed ∧ newState = .completed ∧
        store.instanceOf (store.task ptr).ident.jobId (store.task ptr).workflowInstanceID = none ∧
        (store.taskSetState ptr newState).1 = store.withState ptr .completed ∧
        (store.taskSetState ptr newState).2 ≠ none) ∨
    ((store.task ptr).state ≠ .completed ∧ newState = .completed ∧
        (store.instanceOf (store.task ptr).ident.jobId
          (store.task ptr).workflowInstanceID).isSome ∧
        store.taskSetState ptr newState =
          ((store.withState ptr .completed).incrementRemainSteps (store.task ptr).ident.jobId
            (store.task ptr).workflowInstanceID (-1), none)) := by
  unfold taskSetState
  simp only
  by_cases noJob : (store.task ptr).ident.jobId = ""
  · rw [if_pos noJob]
    exact Or.inl ⟨rfl, fun quiet => by cases quiet⟩
  · rw [if_neg noJob]
    by_cases same : (store.task ptr).state = newState
    · rw [if_pos same]
      exact Or.inl ⟨rfl, fun _ => same⟩
    · rw [if_neg same]
      by_cases noUUID : (store.task ptr).workflowInstanceID ≠ "" ∧
          (store.task ptr).workflowInstanceUUID = ""
      · rw [if_pos noUUID]
        exact Or.inl ⟨rfl, fun quiet => by cases quiet⟩
      · rw [if_neg noUUID]
        by_cases completes : newState = .completed
        · rw [if_pos completes]
          subst completes
          refine Or.inr (Or.inr ?_)
          -- The lookup happens after the state is written, in the same jobs.
          have written : (store.withState ptr .completed).task ptr =
              { store.task ptr with state := .completed } := Function.update_self ..
          rcases (store.withState ptr .completed).getWorkflowInstance_cases
              ((store.withState ptr .completed).task ptr) with ⟨wi, found, looked⟩
                  | ⟨missing, err, looked⟩
          · right
            rw [written] at found
            change store.instanceOf _ _ = _ at found
            unfold withState at looked
            rw [looked, found]
            exact ⟨same, rfl, rfl, rfl⟩
          · left
            rw [written] at missing
            change store.instanceOf _ _ = _ at missing
            unfold withState at looked
            rw [looked]
            exact ⟨same, rfl, missing, rfl, by simp⟩
        · rw [if_neg completes]
          exact Or.inr (Or.inl ⟨same, completes, rfl⟩)

/-- `SetState` writes to one task. -/
theorem taskSetState_other (ptr : Nat) (newState : ProcessState) {other : Nat}
    (different : other ≠ ptr) :
    (store.taskSetState ptr newState).1.task other = store.task other := by
  have written (state : ProcessState) : (store.withState ptr state).task other = store.task other :=
    store.modifyTask_of_ne different fun task => { task with state }
  rcases store.taskSetState_cases ptr newState with ⟨same, _⟩ | ⟨_, _, wrote⟩
      | ⟨_, _, _, wrote, _⟩ |
    ⟨_, _, _, counted⟩
  · rw [same]
  · rw [wrote]
    exact written newState
  · rw [wrote]
    exact written .completed
  · rw [counted]
    unfold incrementRemainSteps
    rw [modifyInstance_task]
    exact written .completed

theorem taskSetState_nextTask (ptr : Nat) (newState : ProcessState) :
    (store.taskSetState ptr newState).1.nextTask = store.nextTask := by
  rcases store.taskSetState_cases ptr newState with ⟨same, _⟩ | ⟨_, _, wrote⟩
      | ⟨_, _, _, wrote, _⟩ |
    ⟨_, _, _, counted⟩
  · rw [same]
  · rw [wrote]
    rfl
  · rw [wrote]
    rfl
  · rw [counted]
    exact modifyInstance_nextTask ..

/-- A task whose state `SetState` can write. -/
def Writable (task : Task) : Prop :=
  task.ident.jobId ≠ "" ∧ task.workflowInstanceUUID ≠ ""

variable {store} {ptr : Nat}

theorem taskSetState_writes {newState : ProcessState} (writable : Writable (store.task ptr))
    (different : (store.task ptr).state ≠ newState) (opens : newState ≠ .completed) :
    store.taskSetState ptr newState = (store.withState ptr newState, none) := by
  unfold taskSetState
  dsimp only
  rw [if_neg writable.1, if_neg different, if_neg (fun both => writable.2 both.2), if_neg opens]
  rfl

theorem taskSetState_completes (writable : Writable (store.task ptr))
    (opened : (store.task ptr).state ≠ .completed)
    (found : (store.instanceOf (store.task ptr).ident.jobId
    (store.task ptr).workflowInstanceID).isSome) :
    store.taskSetState ptr .completed =
      ((store.withState ptr .completed).incrementRemainSteps (store.task ptr).ident.jobId
        (store.task ptr).workflowInstanceID (-1), none) := by
  rcases store.taskSetState_cases ptr .completed with ⟨_, same⟩ | ⟨_, never, _⟩ | ⟨_, _, missing, _⟩
      | ⟨_, _, _, done⟩
  · refine absurd (same ?_) opened
    unfold taskSetState
    dsimp only
    rw [if_neg writable.1, if_neg opened, if_neg (fun both => writable.2 both.2), if_pos rfl]
    split
    · next err looked =>
        rcases (store.withState ptr .completed).getWorkflowInstance_cases
            ((store.withState ptr .completed).task ptr) with ⟨wi, _, answered⟩ | ⟨missing, _⟩
        · unfold withState at answered
          rw [answered] at looked
          cases looked
        · have written : (store.withState ptr .completed).task ptr =
              { store.task ptr with state := .completed } := Function.update_self ..
          rw [written] at missing
          change store.instanceOf _ _ = _ at missing
          rw [missing] at found
          cases found
    · rfl
  · exact absurd rfl never
  · rw [missing] at found
    cases found
  · exact done

end

/-! ## Changes that complete nothing -/

/-- The later store has the same jobs and instances, and the same tasks are
completed in it. -/
structure Quiet (store after : Store) : Prop where
  jobs : after.jobs = store.jobs
  nextTask : after.nextTask = store.nextTask
  fixed : forall ptr, Task.fixed (after.task ptr) = Task.fixed (store.task ptr)
  completed : forall ptr, (after.task ptr).state = .completed ↔ (store.task ptr).state = .completed

namespace Quiet

variable {store middle after : Store}

theorem refl (store : Store) : Quiet store store :=
  ⟨rfl, rfl, fun _ => rfl, fun _ => Iff.rfl⟩

theorem trans (first : Quiet store middle) (second : Quiet middle after) : Quiet store after where
  jobs := second.jobs.trans first.jobs
  nextTask := second.nextTask.trans first.nextTask
  fixed := fun ptr => (second.fixed ptr).trans (first.fixed ptr)
  completed := fun ptr => (second.completed ptr).trans (first.completed ptr)

theorem instanceOf (quiet : Quiet store after) (jobid localID : String) :
    after.instanceOf jobid localID = store.instanceOf jobid localID := by
  unfold Store.instanceOf
  rw [quiet.jobs]

/-- A write to a task that keeps what the others read. -/
theorem modifyTask (store : Store) (ptr : Nat) {change : Task -> Task}
    (fixed : Task.fixed (change (store.task ptr)) = Task.fixed (store.task ptr))
    (completed : (change (store.task ptr)).state = .completed ↔
    (store.task ptr).state = .completed) :
    Quiet store (store.modifyTask ptr change) := by
  have pointwise (P : Task -> Task -> Prop) (other : Nat) (same : forall task, P task task)
      (here : P (change (store.task ptr)) (store.task ptr)) :
      P ((store.modifyTask ptr change).task other) (store.task other) := by
    unfold Store.modifyTask
    by_cases equal : other = ptr
    · subst equal
      simpa only [Function.update_self] using here
    · simpa only [Function.update_of_ne equal] using same (store.task other)
  exact ⟨rfl, rfl,
    fun other => pointwise (fun after before => Task.fixed after = Task.fixed before) other
      (fun _ => rfl) fixed,
    fun other => pointwise (fun after before => after.state = .completed ↔
        before.state = .completed)
      other (fun _ => Iff.rfl) completed⟩

/-- `SetState` between states other than completed. -/
theorem taskSetState {store : Store} {ptr : Nat} {newState : ProcessState}
    (opens : newState ≠ .completed) (opened : (store.task ptr).state ≠ .completed) :
    Quiet store (store.taskSetState ptr newState).1 := by
  rcases store.taskSetState_cases ptr newState with ⟨same, _⟩ | ⟨_, _, wrote⟩ | ⟨_, completes, _⟩ |
    ⟨_, completes, _⟩
  · rw [same]
    exact refl store
  · rw [wrote]
    exact @modifyTask store ptr (fun task => { task with state := newState }) rfl
      ⟨fun done => absurd done opens, fun done => absurd done opened⟩
  · exact absurd completes opens
  · exact absurd completes opens

/-- `ResetTaskTrue` of a task that is not completed, or that is flagged already. -/
theorem resetTaskTrue {store : Store} {ptr : Nat}
    (safe : (store.task ptr).state ≠ .completed ∨ (store.task ptr).resetTask = true) :
    Quiet store (store.resetTaskTrue ptr).1 := by
  unfold Store.resetTaskTrue
  by_cases flagged : (store.task ptr).resetTask = true
  · rw [if_pos flagged]
    exact refl store
  · rw [if_neg flagged]
    have quiet := @taskSetState store ptr .pending (by decide) (safe.resolve_right flagged)
    cases result : store.taskSetState ptr .pending with
    | mk after err =>
        rw [result] at quiet
        cases err with
        | some text => exact quiet
        | none =>
            exact quiet.trans
              (@modifyTask after ptr (fun task => { task with resetTask := true }) rfl Iff.rfl)

end Quiet

/-- A task that `ResetTaskTrue` can be called on without losing a completion. -/
def Resettable (store : Store) (ptr : Nat) : Prop :=
  (store.task ptr).state ≠ .completed ∨ (store.task ptr).resetTask = true

/-- A reset never takes the flag from a task and completes none. -/
theorem resetTaskTrue_resettable {store : Store} {ptr other : Nat} (safe : store.Resettable other) :
    (store.resetTaskTrue ptr).1.Resettable other := by
  unfold resetTaskTrue
  split
  · exact safe
  · have kept : (store.taskSetState ptr .pending).1.Resettable other := by
      rcases store.taskSetState_cases ptr .pending with ⟨same, _⟩ | ⟨_, _, wrote⟩
          | ⟨_, completes, _⟩ |
        ⟨_, completes, _⟩
      · rw [same]
        exact safe
      · rw [wrote]
        unfold Resettable withState modifyTask at *
        by_cases equal : other = ptr
        · subst equal
          simp
        · simpa only [Function.update_of_ne equal] using safe
      · cases completes
      · cases completes
    cases result : store.taskSetState ptr .pending with
    | mk after err =>
        rw [result] at kept
        cases err with
        | some text => exact kept
        | none =>
            unfold Resettable at kept ⊢
            simp only [modifyTask]
            by_cases equal : other = ptr
            · subst equal
              simp
            · simpa only [Function.update_of_ne equal] using kept

/-- The number of tasks that are not completed. -/
def uncompleted (store : Store) (tasks : List Nat) : Nat :=
  tasks.countP fun ptr => (store.task ptr).state ≠ .completed

theorem uncompleted_congr {store after : Store} {tasks : List Nat}
    (same : forall ptr, ptr ∈ tasks ->
      ((after.task ptr).state = .completed ↔ (store.task ptr).state = .completed)) :
    after.uncompleted tasks = store.uncompleted tasks := by
  apply List.countP_congr
  intro ptr member
  simp only [ne_eq, decide_not, Bool.not_eq_true', decide_eq_false_iff_not]
  exact not_congr (same ptr member)

/-- Completing one task of the list takes one off the count. -/
theorem uncompleted_complete {store after : Store} {tasks : List Nat} {ptr : Nat}
    (distinct : tasks.Nodup) (listed : ptr ∈ tasks) (opened : (store.task ptr).state ≠ .completed)
    (closed : (after.task ptr).state = .completed)
    (others : forall other, other ≠ ptr ->
      ((after.task other).state = .completed ↔ (store.task other).state = .completed)) :
    after.uncompleted tasks + 1 = store.uncompleted tasks := by
  have rest : after.uncompleted (tasks.erase ptr) = store.uncompleted (tasks.erase ptr) := by
    apply uncompleted_congr
    intro other member
    exact others other ((List.Nodup.mem_erase_iff distinct).1 member).1
  have order := List.perm_cons_erase listed
  unfold uncompleted at rest ⊢
  rw [order.countP_eq, order.countP_eq, List.countP_cons_of_neg (by simp [closed]),
    List.countP_cons_of_pos (by simp [opened]), rest]

end Store

end Core
end Awe
