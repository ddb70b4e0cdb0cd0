import Awe.Core.CWL
import Awe.Core.Workunit
import Awe.Lib.GoMap
import Mathlib.Logic.Function.Basic

namespace Awe
namespace Core

open Lib Lib.Path

/-!
# Jobs, workflow instances and tasks

The data behind `job.go`, `workflowInstance.go` and `task.go`, as far as the
server's bookkeeping reads and writes it.  A task is reached through the task
map, through its job and through its workflow instance at the same time, so
tasks live in a store of objects and the other structures hold pointers.  A
job is reached through the job map only, and a workflow instance through the
map of its job, so these two are kept by value under their keys.

Updates of existing database documents are taken to succeed.  The one call
that can never succeed is kept: `dbUpdateJobTaskFields` refuses every task
that belongs to a workflow instance.
-/

/-- The states of a task and of a workflow instance; `workflowInstance.go` and
`task.go` use the same texts. -/
inductive ProcessState where
  | init
  | pending
  | ready
  | queued
  | inProgress
  | suspend
  | failed
  | failedPermanent
  | completed
  | userSkipped
  | skipped
  | passed
  deriving DecidableEq, Repr

/-- The text of a state. -/
def ProcessState.text : ProcessState -> String
  | .init => "init"
  | .pending => "pending"
  | .ready => "ready"
  | .queued => "queued"
  | .inProgress => "in-progress"
  | .suspend => "suspend"
  | .failed => "failed"
  | .failedPermanent => "failed-permanent"
  | .completed => "completed"
  | .userSkipped => "user_skipped"
  | .skipped => "skipped"
  | .passed => "passed"

inductive JobState where
  | init
  | queuing
  | queued
  | inProgress
  | completed
  | suspend
  | failedPermanent
  | deleted
  deriving DecidableEq, Repr

/-- `JOB_STATS_ACTIVE`. -/
def jobStatsActive : List JobState :=
  [.queuing, .queued, .inProgress]

/-- `TASK_STATS_RESET`. -/
def taskStatsReset : List ProcessState :=
  [.queued, .inProgress, .suspend]

inductive ProcessType where
  | unknown
  | scatter
  | normal
  deriving DecidableEq, Repr

/-- A task.  `globalId` is the field `ID`, `inputs` has the sizes of the
old-style inputs, and of the partition only its presence is read. -/
structure Task where
  ident : TaskUniqueIdentifier
  globalId : String
  state : ProcessState
  processType : ProcessType
  info : Option Info
  cmd : Option String
  dependsOn : List String
  totalWork : Int
  maxWorkSize : Int
  partitioned : Bool
  inputs : List Int
  remainWork : Int
  computeTime : Int
  resetTask : Bool
  workflowStep : Option WorkflowStep
  workflowInstanceID : String
  workflowInstanceUUID : String
  scatterParent : Option TaskUniqueIdentifier
  scatterChildren : List String
  finalizing : Bool
  stepOutput : Option JobDocument
  comment : String

/-- The zero value of a task. -/
def Task.blank : Task where
  ident := ⟨"", ""⟩
  globalId := ""
  state := .init
  processType := .unknown
  info := none
  cmd := none
  dependsOn := []
  totalWork := 0
  maxWorkSize := 0
  partitioned := false
  inputs := []
  remainWork := 0
  computeTime := 0
  resetTask := false
  workflowStep := none
  workflowInstanceID := ""
  workflowInstanceUUID := ""
  scatterParent := none
  scatterChildren := []
  finalizing := false
  stepOutput := none
  comment := ""

structure WorkflowInstance where
  uuid : String
  localID : String
  jobID : String
  state : ProcessState
  processType : ProcessType
  workflowDefinition : String
  inputs : Option JobDocument
  outputs : JobDocument
  tasks : List Nat
  remainSteps : Int
  subworkflows : List String
  scatterParent : String
  scatterChildren : List String
  workflowStep : Option WorkflowStep

/-- The zero value of a workflow instance. -/
def WorkflowInstance.blank : WorkflowInstance where
  uuid := ""
  localID := ""
  jobID := ""
  state := .init
  processType := .unknown
  workflowDefinition := ""
  inputs := none
  outputs := []
  tasks := []
  remainSteps := 0
  subworkflows := []
  scatterParent := ""
  scatterChildren := []
  workflowStep := none

structure Job where
  id : String
  state : JobState
  isCWL : Bool
  entrypoint : String
  info : Info
  tasks : List Nat
  remainTasks : Int
  context : WorkflowContext
  instances : GoMap String WorkflowInstance

/-- The task objects and the loaded jobs. Tasks are objects behind pointers, which several lists
share: a change through one of them is seen through all. -/
structure Store where
  task : Nat -> Task
  nextTask : Nat
  jobs : GoMap String Job

/-- A slice of the bytes of a text. -/
def slice (text : String) (first last : Nat) : String :=
  String.Pos.Raw.extract text ⟨first⟩ ⟨last⟩

/-- `getPathByJobID`: the directory of a job under the configured `DATA_PATH`. Its upper parts are
cut out of the identifier, which has to be long enough. A slice that is out of range is a panic in
Go; the length is tested only here. -/
def getPathByJobID (dataPath id : String) : Except String String :=
  if id.utf8ByteSize < 6 then .error ("Job-Id format wrong: \"" ++ id ++ "\"")
  else .ok (dataPath ++ "/" ++ slice id 0 2 ++ "/" ++ slice id 2 4 ++ "/" ++
      slice id 4 6 ++ "/" ++ id)

namespace Store

def modifyTask (store : Store) (ptr : Nat) (change : Task -> Task) : Store :=
  { store with task := Function.update store.task ptr (change (store.task ptr)) }

/-- A new task object and the pointer to it. -/
def allocTask (store : Store) (task : Task) : Store × Nat :=
  ({ store with
      task := Function.update store.task store.nextTask task
      nextTask := store.nextTask + 1 }, store.nextTask)

/-- Write to a job; an unknown identifier changes nothing. -/
def modifyJob (store : Store) (jobid : String) (change : Job -> Job) : Store :=
  match store.jobs.lookup jobid with
  | none => store
  | some job => { store with jobs := store.jobs.insert jobid (change job) }

/-- `GetJob`, for a job that can be loaded. -/
def getJob (store : Store) (jobid : String) : Except String Job :=
  match store.jobs.lookup jobid with
  | some job => .ok job
  | none => .error "(GetJob) LoadJob failed: not found"

/-- `wi.GetTaskByName`: the first task with that base name. -/
def getTaskByName (store : Store) (wi : WorkflowInstance) (taskName : String) : Option Nat :=
  wi.tasks.find? fun ptr => base (store.task ptr).ident.taskName = taskName

/-- `wi.GetTask`: the last task with that identifier. -/
def getTask (store : Store) (wi : WorkflowInstance) (taskID : TaskUniqueIdentifier) : Option Nat :=
  wi.tasks.reverse.find? fun ptr => (store.task ptr).ident = taskID

/-- `job.GetWorkflowInstance`. -/
def instanceOf (store : Store) (jobid localID : String) : Option WorkflowInstance :=
  (store.jobs.lookup jobid).bind fun job => job.instances.lookup localID

/-- Write to a workflow instance of a job; an unknown one changes nothing. -/
def modifyInstance (store : Store) (jobid localID : String)
    (change : WorkflowInstance -> WorkflowInstance) : Store :=
  store.modifyJob jobid fun job =>
    match job.instances.lookup localID with
    | none => job
    | some wi => { job with instances := job.instances.insert localID (change wi) }

/-- `wi.IncrementRemainSteps`. -/
def incrementRemainSteps (store : Store) (jobid localID : String) (amount : Int) : Store :=
  store.modifyInstance jobid localID fun wi => { wi with remainSteps := wi.remainSteps + amount }

/-- `job.SetState` without a list of required old states. -/
def jobSetState (store : Store) (jobid : String) (newState : JobState) : Store :=
  store.modifyJob jobid fun job => { job with state := newState }

/-- `task.GetWorkflowInstance`. -/
def getWorkflowInstance (store : Store) (task : Task) : Except String WorkflowInstance :=
  match store.getJob task.ident.jobId with
  | .error err =>
      .error ("(GetWorkflowInstance) task.GetJob returned: " ++
        "(TaskRaw/GetJob) global GetJob returned: " ++ err)
  | .ok job =>
      match job.instances.lookup task.workflowInstanceID with
      | none =>
          .error ("(GetWorkflowInstance) job.GetWorkflowInstance did not find: " ++
            task.workflowInstanceID)
      | some wi => .ok wi

/-- `TaskRaw.SetState`.  The state is written before the workflow instance is
looked up, so an error may come after the change. -/
def taskSetState (store : Store) (ptr : Nat) (newState : ProcessState) : Store × Err :=
  let task := store.task ptr
  if task.ident.jobId = "" then (store, some ("task " ++ task.globalId ++ " has no job id"))
  else if task.state = newState then (store, none)
  else if task.workflowInstanceID ≠ "" ∧ task.workflowInstanceUUID = "" then
    (store, some "(TaskRaw/SetState) task.WorkflowInstanceUUID is empty")
  else
    let store := store.modifyTask ptr fun task => { task with state := newState }
    if newState = .completed then
      match store.getWorkflowInstance (store.task ptr) with
      | .error err =>
          (store, some ("(TaskRaw/SetState) GetWorkflowInstance returned: " ++ err))
      | .ok _ =>
          (store.incrementRemainSteps task.ident.jobId task.workflowInstanceID (-1), none)
    else (store, none)

section

variable (store : Store) (jobid localID : String)

theorem modifyJob_lookup (change : Job -> Job) (other : String) :
    (store.modifyJob jobid change).jobs.lookup other =
      if other = jobid then (store.jobs.lookup jobid).map change else store.jobs.lookup other := by
  unfold modifyJob
  cases found : store.jobs.lookup jobid with
  | none =>
      by_cases same : other = jobid
      · rw [if_pos same, same, found]
        rfl
      · rw [if_neg same]
  | some job => exact GoMap.lookup_insert_if ..

@[simp] theorem modifyJob_isSome (change : Job -> Job) (other : String) :
    ((store.modifyJob jobid change).jobs.lookup other).isSome =
      (store.jobs.lookup other).isSome := by
  rw [modifyJob_lookup]
  split
  · next same => rw [same, Option.isSome_map]
  · rfl

@[simp] theorem modifyJob_task (change : Job -> Job) :
    (store.modifyJob jobid change).task = store.task := by
  unfold modifyJob
  split <;> rfl

@[simp] theorem modifyTask_jobs (ptr : Nat) (change : Task -> Task) :
    (store.modifyTask ptr change).jobs = store.jobs :=
  rfl

theorem modifyTask_self (ptr : Nat) (change : Task -> Task) :
    (store.modifyTask ptr change).task ptr = change (store.task ptr) :=
  Function.update_self ..

theorem modifyTask_of_ne {ptr other : Nat} (different : other ≠ ptr) (change : Task -> Task) :
    (store.modifyTask ptr change).task other = store.task other :=
  Function.update_of_ne different ..

/-- A change of a task's state loads and drops no job. -/
theorem taskSetState_isSome (ptr : Nat) (newState : ProcessState) (other : String) :
    ((store.taskSetState ptr newState).1.jobs.lookup other).isSome =
      (store.jobs.lookup other).isSome := by
  simp only [taskSetState]
  split
  · rfl
  · split
    · rfl
    · split
      · rfl
      · split
        · split
          · rfl
          · simp only [incrementRemainSteps, modifyInstance, modifyJob_isSome, modifyTask_jobs]
        · rfl

end

end Store

end Core
end Awe
