import Awe.Core.Readiness
import Awe.Core.Scatter

namespace Awe
namespace Core

open Lib Lib.Path

/-!
# From a ready task to its workunits

A ready task is turned into workunits by `taskEnQueue`.  A task of a workflow
step is expanded first, if it is a scatter, or gets the inputs that its sources
name.  Then its inputs are located and its size is settled, and a workunit is made
and queued for each of its parts.

The functions are called with a task that `updateQueueTask` has found to be ready.
They write to the database as they go, and an error leaves what has been written.

The data store, the configuration and the capacity of slices answer through
`Scheduler`, so that what is said of these functions holds whatever the answers
are.
-/

/-- What the scheduling functions ask from outside. -/
structure Scheduler where
  env : Environment
  /-- `getCWLSource` in a workflow instance of a job. -/
  getCWLSource : Store -> String -> String -> SourceLookup
  spare : String -> Nat
  order : String -> Nat -> List String
  uuids : String -> Nat -> String
  /-- The sizes of the inputs after `SetResetTaskInputs`. -/
  resetInputs : Task -> List Int
  deleteLogs : Task -> Err
  /-- `ValidateInputs` and `ValidatePredata`, with the sizes they leave. -/
  locateInputs : Task -> List Int × Err
  /-- `checkPartIndex`: nothing for a single workunit, or the total units. -/
  checkPartIndex : Task -> Option Int
  createOutputNode : Task -> Err
  perfLogWorkunit : Bool

namespace Store

def notSupported : String := "dbUpdateJobTaskFields returned: not supported"

/-- A write of one field behind `dbUpdateJobTaskFields`. -/
def updateJobTask (store : Store) (ptr : Nat) (refusal : String) (change : Task -> Task) :
    Store × Err :=
  if (store.task ptr).workflowInstanceID ≠ "" then (store, some refusal)
  else (store.modifyTask ptr change, none)

/-- `task.SetRemainWork`. -/
def setRemainWork (store : Store) (ptr : Nat) (num : Int) : Store × Err :=
  store.updateJobTask ptr
    ("(task/SetRemainWork) dbUpdateJobTaskInt returned: (dbUpdateJobTaskInt) " ++ notSupported)
    fun task => { task with remainWork := num }

/-- `task.setTotalWork` resets the remaining work as well. -/
def setTotalWork (store : Store) (ptr : Nat) (num : Int) : Store × Err :=
  match store.updateJobTask ptr
      ("(task/setTotalWork) dbUpdateJobTaskInt returned: (dbUpdateJobTaskInt) " ++ notSupported)
      fun task => { task with totalWork := num } with
  | (store, some err) => (store, some err)
  | (store, none) => store.setRemainWork ptr num

/-- `task.setPartition`. -/
def setPartition (store : Store) (ptr : Nat) (partitioned : Bool) : Store × Err :=
  store.updateJobTask ptr
    ("(task/setPartition) dbUpdateJobTaskPartition returned: (dbUpdateJobTaskPartition) " ++
        notSupported)
    fun task => { task with partitioned }

/-- `task.setMaxWorkSize`. -/
def setMaxWorkSize (store : Store) (ptr : Nat) (num : Int) : Store × Err :=
  store.updateJobTask ptr
    ("(task/setMaxWorkSize) dbUpdateJobTaskInt returned: (dbUpdateJobTaskInt) " ++ notSupported)
    fun task => { task with maxWorkSize := num }

/-- `task.setSingleWorkunit`. -/
def setSingleWorkunit (store : Store) (ptr : Nat) : Store × Err :=
  let total := if (store.task ptr).totalWork ≠ 1 then store.setTotalWork ptr 1 else (store, none)
  match total with
  | (store, some err) => (store, some ("(task/setSingleWorkunit) setTotalWork returned: " ++ err))
  | (store, none) =>
      let partition := if (store.task ptr).partitioned then store.setPartition ptr false
          else (store, none)
      match partition with
      | (store, some err) =>
          (store, some ("(task/setSingleWorkunit) setPartition returned: " ++ err))
      | (store, none) =>
          let size := if (store.task ptr).maxWorkSize ≠ 0 then store.setMaxWorkSize ptr 0
              else (store, none)
          match size with
          | (store, some err) =>
              (store, some ("(task/setSingleWorkunit) setMaxWorkSize returned: " ++ err))
          | (store, none) => (store, none)

/-- The number of workunits that `InitPartIndex` wants for a bound on their
size; a chunk of the default size is one megabyte. -/
def wantedWork (totalunits maxPartSizeMB totalWork : Int) : Int :=
  let bySize :=
    if totalunits.tmod maxPartSizeMB = 0 then totalunits.tdiv maxPartSizeMB
    else totalunits.tdiv maxPartSizeMB + 1
  let atLeast := if bySize < totalWork then totalWork else bySize
  if atLeast = 0 then 1 else atLeast

/-- `task.InitPartIndex`. -/
def initPartIndex (outside : Scheduler) (store : Store) (ptr : Nat) : Store × Err :=
  let task := store.task ptr
  if task.totalWork = 1 ∧ task.maxWorkSize = 0 then (store, none)
  else
    match outside.checkPartIndex task with
    | none => store.setSingleWorkunit ptr
    | some units =>
        let wanted := wantedWork units task.maxWorkSize task.totalWork
        let sized :=
          if task.maxWorkSize > 0 ∧ wanted ≠ task.totalWork then store.setTotalWork ptr wanted
          else (store, none)
        match sized with
        | (store, some err) => (store, some err)
        | (store, none) =>
            let totalunits := if units = 0 then 1 else units
            let bounded :=
              if totalunits < (store.task ptr).totalWork then store.setTotalWork ptr totalunits
              else (store, none)
            match bounded with
            | (store, some err) => (store, some err)
            | (store, none) =>
                if (store.task ptr).totalWork = 1 then store.setSingleWorkunit ptr
                else store.setPartition ptr true

/-- `task.SetResetTask`, with the information of the job. -/
def setResetTask (outside : Scheduler) (store : Store) (ptr : Nat) (info : Info) : Store × Err :=
  if (store.task ptr).resetTask = false then (store, none)
  else
    let store := store.modifyTask ptr fun task => { task with info := some (task.info.getD info) }
    match store.setRemainWork ptr (store.task ptr).totalWork with
    | (store, some err) =>
        (store, some ("(task/SetResetTask) task.SetRemainWork returned: " ++ err))
    | (store, none) =>
        let store := store.modifyTask ptr fun task =>
          { task with computeTime := 0, inputs := outside.resetInputs task }
        match outside.deleteLogs (store.task ptr) with
        | some err => (store, some err)
        | none => (store.modifyTask ptr fun task => { task with resetTask := false }, none)

end Store

/-! ## From a ready task to its workunits -/

/-- `task.CreateWorkunits`. -/
def createWorkunits (env : Environment) (store : Store) (task : Task) :
    Except String (List Workunit) :=
  if task.totalWork = 0 then .error "(CreateWorkunits) task.TotalWork == 0"
  else if task.totalWork = 1 then
    match newWorkunit env store task 0 with
    | .error err => .error ("(CreateWorkunits) (single) NewWorkunit failed: " ++ err)
    | .ok workunit => .ok [workunit]
  else
    (List.range task.totalWork.toNat).mapM fun i =>
      match newWorkunit env store task (i + 1 : Nat) with
      | .error err => .error ("(CreateWorkunits) (multi) NewWorkunit failed: " ++ err)
      | .ok workunit => .ok workunit

namespace ServerMgr

/-- `workQueue.Add` of a new workunit. -/
def addWorkunit (qm : ServerMgr) (workunit : Workunit) : ServerMgr × Err :=
  let created := qm.cq.workQueue.alloc workunit
  let added := created.1.add created.2
  ({ qm with cq := { qm.cq with workQueue := added.1 } }, added.2)

/-- The loop of `CreateAndEnqueueWorkunits`. -/
def enqueueWorkunits (outside : Scheduler) : ServerMgr -> List Workunit -> ServerMgr × Err
  | qm, [] => (qm, none)
  | qm, workunit :: rest =>
      match qm.addWorkunit workunit with
      | (qm, some err) => (qm,
          some ("(CreateAndEnqueueWorkunits) qm.workQueue.Add returned: " ++ err))
      | (qm, none) =>
          if outside.perfLogWorkunit ∧ workunit.ident.jobId ∉ qm.actJobs then
            (qm, some ("(CreateAndEnqueueWorkunits) qm.CreateWorkPerf returned: (CreateWorkPerf) job perf " ++
              "not found: " ++ workunit.ident.jobId))
          else enqueueWorkunits outside qm rest

/-- `CreateAndEnqueueWorkunits`. -/
def createAndEnqueueWorkunits (outside : Scheduler) (qm : ServerMgr) (ptr : Nat) :
    ServerMgr × Err :=
  match createWorkunits outside.env qm.store (qm.store.task ptr) with
  | .error err => (qm, some ("(CreateAndEnqueueWorkunits) task.CreateWorkunits returned: " ++ err))
  | .ok workunits => enqueueWorkunits outside qm workunits

/-- `locateInputs`. -/
def locateInputs (outside : Scheduler) (qm : ServerMgr) (job : Job) (ptr : Nat) : ServerMgr × Err :=
  if (qm.store.task ptr).workflowStep.isSome ∧ job.isCWL then (qm, none)
  else
    let located := outside.locateInputs (qm.store.task ptr)
    ({ qm with store := qm.store.modifyTask ptr fun task => { task with inputs := located.1 } },
        located.2)

/-- The end of `taskEnQueue`: the workunits, unless the task is a scatter task,
and the new state. -/
def launch (outside : Scheduler) (qm : ServerMgr) (ptr : Nat) : ServerMgr × Err :=
  let about := "(taskEnQueue) " ++ (qm.store.task ptr).ident.string.1
  let created :=
    if (qm.store.task ptr).processType = .scatter then (qm, none)
    else qm.createAndEnqueueWorkunits outside ptr
  match created with
  | (qm, some err) => (qm, some (about ++ " CreateAndEnqueueWorkunits returned: " ++ err))
  | (qm, none) =>
      match qm.store.taskSetState ptr .queued with
      | (store, some err) => ({ qm with store }, some err)
      | (store, none) =>
          let qm := { qm with store }
          -- `CreateTaskPerf` needs the name of the task if the job is active.
          match (qm.store.task ptr).ident.string.2 with
          | some err =>
              if (qm.store.task ptr).ident.jobId ∈ qm.actJobs then
                (qm, some ("(taskEnQueue) CreateTaskPerf returned: () task.String returned: " ++
                    err))
              else (qm, none)
          | none => (qm, none)

/-- `taskEnQueue` between the expansion of a scatter task and its workunits. -/
def prepare (outside : Scheduler) (qm : ServerMgr) (job : Job) (ptr : Nat) : ServerMgr × Err :=
  match qm.store.setResetTask outside ptr job.info with
  | (store, some err) => ({ qm with store }, some ("(taskEnQueue) SetResetTask: " ++ err))
  | (store, none) =>
      match { qm with store }.locateInputs outside job ptr with
      | (qm, some err) => (qm, some ("(taskEnQueue) locateInputs: " ++ err))
      | (qm, none) =>
          let indexed :=
            if (qm.store.task ptr).inputs = [] then (qm.store, none)
            else qm.store.initPartIndex outside ptr
          match indexed with
          | (store, some err) =>
              ({ qm with store }, some ("(taskEnQueue) InitPartitionIndex: " ++ err))
          | (store, none) =>
              match outside.createOutputNode (store.task ptr) with
              | some err => ({ qm with store }, some ("(taskEnQueue) createOutputNode: " ++ err))
              | none => ({ qm with store }, none)

/-- The expansion of a scatter task in `taskEnQueue`. -/
def expandTask (outside : Scheduler) (qm : ServerMgr) (job : Job) (ptr : Nat) :
    Except Halt (ServerMgr × Option Notice × Err) :=
  let task := qm.store.task ptr
  if task.workflowInstanceID = "" then .ok (qm, none, none)
  else
    match job.instances.lookup task.workflowInstanceID with
    | none =>
        .ok (qm, none, some ("(taskEnQueue) WorkflowInstance not found: \"" ++
            task.workflowInstanceID ++ "\""))
    | some _ =>
        if task.workflowStep.isNone then
            .ok (qm, none, some "(taskEnQueue) task.WorkflowStep is empty")
        else if task.processType = .scatter then
          match qm.processInstanceEnQueueScatter outside.env
              (outside.getCWLSource qm.store task.ident.jobId task.workflowInstanceID)
              (outside.spare task.ident.taskName) (outside.order task.ident.taskName)
              (outside.uuids task.ident.taskName) task.ident.jobId task.workflowInstanceID
              (.task ptr) with
          | .ok (qm, _, some err) =>
              .ok (qm, none, some ("(taskEnQueue) taskEnQueueScatter returned: " ++ err))
          | result => result
        else .ok (qm, none, none)

/-- `taskEnQueue`.  The notice goes into the channel of the server. -/
def taskEnQueue (outside : Scheduler) (qm : ServerMgr) (job : Job) (ptr : Nat) :
    Except Halt (ServerMgr × Option Notice × Err) :=
  if (qm.store.task ptr).state ≠ .ready then
    .ok (qm, none, some ("(taskEnQueue) Task state should be TASK_STAT_READY, got state " ++
      (qm.store.task ptr).state.text))
  else
    match qm.expandTask outside job ptr with
    | .error halt => .error halt
    | .ok (qm, _, some err) => .ok (qm, none, some err)
    | .ok (qm, notice, none) =>
        match qm.prepare outside job ptr with
        | (qm, some err) => .ok (qm, none, some err)
        | (qm, none) =>
            match qm.launch outside ptr with
            | (qm, some err) => .ok (qm, none, some err)
            | (qm, none) => .ok (qm, notice, none)

end ServerMgr

end Core
end Awe
