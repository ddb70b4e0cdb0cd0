import Awe.Core.JobControl

namespace Awe
namespace Core

open Lib Lib.Path

/-!
# Notices about workunits

A client, or the server itself, reports the end of a workunit by a notice.
`handleNoticeWorkDelivered` moves the workunit, `handleWorkStatDone` counts it
off in its task and compares the count with the queue, and
`handleLastWorkunit` turns the results of the last workunit into the outputs
of the step and closes the task.

What these functions need from outside is collected in `Environment`: the
answers of the Shock data store, the part of `NewWorkunit` that prepares a CWL
tool, and the configuration.
-/

/-- A notice; the notes and the error output of the worker go into the record
of the job error only. -/
structure Notice where
  id : WorkunitUniqueIdentifier
  workerID : String
  results : Option JobDocument
  status : String
  computeTime : Int

structure Environment where
  collect : Collect
  /-- `task.ValidateOutputs`, which asks the data store for every output. -/
  validateOutputs : Task -> Err
  /-- The part of `NewWorkunit` for a task with a workflow step, of which only the error is
  seen here.  What it does is `Requirements.newWorkunit`, whose tools change from call to
  call; the results about notices hold for any such part, so they take it as it comes. -/
  prepareCWL : Store -> Task -> Err
  maxWorkFailure : Nat
  maxClientFailure : Nat

/-- `NewWorkunit`. -/
def newWorkunit (env : Environment) (store : Store) (task : Task) (rank : Int) :
    Except String Workunit :=
  let ident : WorkunitUniqueIdentifier := ⟨task.ident, rank⟩
  match ident.string with
  | (_, some err) => .error ("(NewWorkunit) workunit.String() returned: " ++ err)
  | (workStr, none) =>
      let workunit : Workunit :=
        { ident
          state := workStatInit
          failed := 0
          client := ""
          globalId := workStr
          info := task.info
          inputs := task.inputs
          cmd := task.cmd
          notes := [] }
      if task.workflowStep.isSome then
        match env.prepareCWL store task with
        | some err => .error err
        | none => .ok workunit
      else .ok workunit

/-- The outputs of the step: every process output with the base name of a
declared output, and null where there is none. -/
def stepOutputs (out : List String) (processOutput : JobDocument) : JobDocument :=
  out.flatMap fun outputID =>
    match processOutput.filter fun named => base named.1 = base outputID with
    | [] => [(base outputID, .null)]
    | found => found.map fun named => (base outputID, named.2)

namespace ServerMgr

/-- `handleLastWorkunit`. -/
def handleLastWorkunit (env : Environment) (qm : ServerMgr) (ptr : Nat) (notice : Notice) :
    Except Halt (ServerMgr × Err) :=
  let task := qm.store.task ptr
  match env.validateOutputs task with
  | some err =>
      let message := "(handleLastWorkunit) ValidateOutputs returned: " ++ err
      match qm.store.taskSetState ptr .suspend with
      | (store, some err) =>
          .ok ({ qm with store }, some ("(handleLastWorkunit) task.SetState returned: " ++ err))
      | (store, none) =>
          match { qm with store }.suspendJob task.ident.jobId .suspend with
          | (qm, some err) => .ok (qm, some ("(handleLastWorkunit) SuspendJob returned: " ++ err))
          | (qm, none) => .ok (qm, some message)
  | none =>
      match task.workflowStep with
      | none =>
          match taskCompleted env.collect (qm.store.nextTask + 1) qm none ptr with
          | .ok (qm, some err) =>
              .ok (qm, some ("(handleLastWorkunit) taskCompleted returned: " ++ err))
          | result => result
      | some step =>
          match notice.results with
          | none => .error .panic
          | some results =>
              let qm := { qm with
                store := qm.store.modifyTask ptr fun task =>
                  { task with stepOutput := some (stepOutputs step.out results) } }
              match qm.store.getWorkflowInstance task with
              | .error err =>
                  .ok (qm, some ("(handleLastWorkunit) task.GetWorkflowInstance returned: " ++ err))
              | .ok _ =>
                  match taskCompleted env.collect (qm.store.nextTask + 1) qm
                      (some task.workflowInstanceID) ptr with
                  | .ok (qm, some err) =>
                      .ok (qm, some ("(handleLastWorkunit) taskCompleted returned: " ++ err))
                  | result => result

/-- The workunits of the task of `workid` that are in the queue, without the
one of its own rank. -/
def countOthers (wq : WorkQueue) (workid : WorkunitUniqueIdentifier) : Nat :=
  wq.all.values.countP fun ptr =>
    (wq.work ptr).ident.toTaskUniqueIdentifier = workid.toTaskUniqueIdentifier ∧
      (wq.work ptr).ident.rank ≠ workid.rank

def deleteWork (qm : ServerMgr) (workid : WorkunitUniqueIdentifier) : ServerMgr :=
  { qm with cq := { qm.cq with workQueue := qm.cq.workQueue.delete workid } }

/-- `handleWorkStatDone` after the deferred deletion is set up. -/
def countOff (env : Environment) (qm : ServerMgr) (client : Option Nat) (ptr : Nat)
    (workid : WorkunitUniqueIdentifier) (notice : Notice) : Except Halt (ServerMgr × Err) :=
  let about := "(handleWorkStatDone) client=" ++ notice.workerID ++ " work=" ++ workid.string.1
  let qm := match client with
    | some client => { qm with cq := qm.cq.modifyClient client fun client => { client with
        lastFailed := 0 } }
    | none => qm
  let remainWork := (qm.store.task ptr).remainWork + -1
  if remainWork < 0 then
    .ok (qm, some (about ++
        " task.IncrementRemainWork returned: (task/IncrementRemainWork) remainwork < 0"))
  else
    let qm := { qm with store := qm.store.modifyTask ptr fun task => { task with remainWork } }
    let workunitCount := countOthers qm.cq.workQueue workid
    if (workunitCount : Int) ≠ remainWork then
      .ok (qm, some (about ++ " remainwork (" ++ toString remainWork ++
        ") does not match number of workunits in queue (" ++ toString workunitCount ++ ")"))
    else
      let qm := { qm with
        store := qm.store.modifyTask ptr fun task =>
          { task with computeTime := task.computeTime + notice.computeTime } }
      if remainWork = 0 then
        match qm.handleLastWorkunit env ptr notice with
        | .ok (qm, some err) =>
            .ok (qm, some ("(handleWorkStatDone) handleLastWorkunit returned: " ++ err))
        | result => result
      else .ok (qm, none)

/-- `handleWorkStatDone`; from the identifiers on, every way out deletes the workunit. -/
def handleWorkStatDone (env : Environment) (qm : ServerMgr) (client : Option Nat) (ptr : Nat)
    (workid : WorkunitUniqueIdentifier) (notice : Notice) : Except Halt (ServerMgr × Err) :=
  match workid.string.2, (qm.store.task ptr).ident.string.2 with
  | some err, _ => .ok (qm, some ("(handleWorkStatDone) workid.String() returned: " ++ err))
  | none, some err => .ok (qm, some err)
  | none, none =>
      match qm.countOff env client ptr workid notice with
      | .error halt => .error halt
      | .ok (qm, err) => .ok (qm.deleteWork workid, err)

/-- `SuspendClient`, called with the client. -/
def suspendClient (qm : ServerMgr) (client : Nat) (reason : String) : ServerMgr :=
  if (qm.cq.client client).suspended then qm
  else
    let cq := qm.cq.modifyClient client fun client =>
      { client with suspended := true, suspendReason := reason }
    { qm with
      cq := (cq.reQueueWorkunits qm.jobState (cq.client client).id
          (cq.client client).currentWork.keys).1 }

/-- The end of the branch for a failed workunit: the failure is noted at the client. -/
def blameClient (env : Environment) (qm : ServerMgr) (workID : WorkunitUniqueIdentifier)
    (clientid : String) : ServerMgr × Err :=
  match qm.cq.clientMap.lookup clientid with
  | none => (qm, some "Client not found")
  | some client =>
      match workID.string with
      | (_, some err) => (qm, some ("() workid.String() returned: " ++ err))
      | (workStr, none) =>
          let qm := { qm with
            cq := qm.cq.modifyClient client fun client =>
              { client with
                skipWork := client.skipWork ++ [workStr]
                lastFailed := client.lastFailed + 1 } }
          if (qm.cq.client client).lastFailed >= env.maxClientFailure then
            (qm.suspendClient client "MAX_CLIENT_FAILURE on client reached", none)
          else (qm, none)

def changeStatus (qm : ServerMgr) (work : Nat) (newStatus reason : String) : ServerMgr × Err :=
  let changed := qm.cq.workQueue.statusChange WorkunitUniqueIdentifier.zero
      (some work) newStatus reason
  ({ qm with cq := { qm.cq with workQueue := changed.1 } }, changed.2)

/-- `work.Failed++`. -/
def countFailure (qm : ServerMgr) (work : Nat) : ServerMgr :=
  { qm with
    cq := { qm.cq with
      workQueue := qm.cq.workQueue.modify work fun work => { work with failed := work.failed + 1 } }
          }

/-- The branch for a workunit that failed too often: the task, its workflow
instance and its job are suspended.  Only the change of the task can end it. -/
def suspendBehindWork (qm : ServerMgr) (ptr : Nat) (jobid : String) : ServerMgr × Err :=
  match qm.store.taskSetState ptr .suspend with
  | (store, some err) =>
      ({ qm with store }, some ("(handleNoticeWorkDelivered) task.SetState returned: " ++ err))
  | (store, none) =>
      match (store.task ptr).ident.string.2 with
      | some err =>
          ({ qm with store }, some ("(handleNoticeWorkDelivered) task.String returned: " ++ err))
      | none =>
          let store :=
            if (store.task ptr).workflowInstanceID ≠ "" then
              store.setInstanceState (store.task ptr).ident.jobId
                  (store.task ptr).workflowInstanceID .suspend
            else store
          (({ qm with store }.suspendJob jobid .suspend).1, none)

/-- The branches of `handleNoticeWorkDelivered` on the status of the notice. -/
def handleStatus (env : Environment) (qm : ServerMgr) (client : Option Nat) (ptr work : Nat)
    (notice : Notice) (maxFailure : Nat) : Except Halt (ServerMgr × Err) :=
  if notice.status = workStatDone then
    match qm.handleWorkStatDone env client ptr notice.id notice with
    | .ok (qm, some err) =>
        .ok (qm, some ("(handleNoticeWorkDelivered) handleWorkStatDone returned: " ++ err))
    | result => result
  else if notice.status = workStatFailedPermanent then
    match (qm.countFailure work).store.taskSetState ptr .failedPermanent with
    | (store, some err) => .ok ({ qm.countFailure work with store }, some err)
    | (store, none) =>
        match (store.task ptr).ident.string.2 with
        | some err =>
            .ok ({ qm.countFailure work with store },
              some ("(handleNoticeWorkDelivered) task.String returned: " ++ err))
        | none => .ok ({ qm.countFailure work with store }.suspendJob notice.id.jobId
            .failedPermanent)
  else if notice.status = workStatError then
    let qm := qm.countFailure work
    if (qm.cq.workQueue.work work).failed < maxFailure then
      .ok ((qm.changeStatus work workStatQueued "").1.blameClient env notice.id notice.workerID)
    else
      match qm.changeStatus work workStatSuspend "work.Failed >= MAX_FAILURE" with
      | (qm, some err) =>
          .ok (qm, some ("(handleNoticeWorkDelivered) qm.workQueue.StatusChange returned: " ++ err))
      | (qm, none) =>
          match qm.suspendBehindWork ptr notice.id.jobId with
          | (qm, some err) => .ok (qm, some err)
          | (qm, none) => .ok (qm.blameClient env notice.id notice.workerID)
  else
    .ok (qm, some ("No handler for workunit status '" ++ notice.status ++
        "' implemented (allowd: " ++
      workStatDone ++ ", " ++ workStatFailedPermanent ++ ", " ++ workStatError ++ ")"))

/-- `handleNoticeWorkDelivered` after the client is looked up. -/
def deliver (env : Environment) (qm : ServerMgr) (client : Option Nat) (notice : Notice) :
    Except Halt (ServerMgr × Err) :=
  let workStr := notice.id.string.1
  match qm.taskMap.lookup notice.id.toTaskUniqueIdentifier with
  | none =>
      .ok (qm.deleteWork notice.id,
          some ("(handleNoticeWorkDelivered) task for workunit " ++ workStr ++
        " not found"))
  | some ptr =>
      match qm.cq.workQueue.all.lookup notice.id with
      | none =>
          .ok (qm, some ("(handleNoticeWorkDelivered) workunit " ++ workStr ++
              " not found in workQueue"))
      | some work =>
          let workState := (qm.cq.workQueue.work work).state
          if workState ≠ workStatCheckout ∧ workState ≠ workStatReserved then
            .ok (qm, some ("(handleNoticeWorkDelivered) workunit " ++ workStr ++
                " did not have state " ++
              "WORK_STAT_CHECKOUT or WORK_STAT_RESERVED (state is " ++ workState ++ ")"))
          else
            let reason := if notice.status = workStatSuspend then
                "workunit suspended by worker" else ""
            match qm.changeStatus work notice.status reason with
            | (qm, some err) =>
                .ok (qm, some ("(handleNoticeWorkDelivered) qm.workQueue.StatusChange returned: " ++
                    err))
            | (qm, none) =>
                match (qm.store.task ptr).info with
                | none => .error .panic
                | some info =>
                    let maxFailure := if info.noRetry then 1 else env.maxWorkFailure
                    if (qm.store.task ptr).state = .skipped then
                      .ok (qm.deleteWork notice.id, some ("(handleNoticeWorkDelivered) workunit " ++
                        workStr ++ " failed due to skip"))
                    else qm.handleStatus env client ptr work notice maxFailure

/-- `handleNoticeWorkDelivered`.  A client's notice clears its assigned work on
every way out. -/
def handleNoticeWorkDelivered (env : Environment) (qm : ServerMgr) (notice : Notice) :
    Except Halt (ServerMgr × Err) :=
  match notice.id.string.2 with
  | some err => .ok (qm, some ("(handleNoticeWorkDelivered) workID.String() returned: " ++ err))
  | none =>
      if notice.status = workStatDiscarded then .ok (qm, none)
      else if notice.workerID = "_internal" then qm.deliver env none notice
      else
        match qm.cq.clientMap.lookup notice.workerID with
        | none => .ok (qm, some "(handleNoticeWorkDelivered) client not found")
        | some client =>
            match qm.deliver env (some client) notice with
            | .error halt => .error halt
            | .ok (qm, err) =>
                .ok ({ qm with
                  cq := qm.cq.modifyClient client fun client =>
                      { client with assignedWork := ⟨[], []⟩ } },
                  err)

end ServerMgr

end Core
end Awe
