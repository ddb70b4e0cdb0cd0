import Awe.Core.CQMgr

namespace Awe
namespace Core

open Lib

/-!
# The server

`ServerMgr` joins the queue manager, the jobs with their tasks, the task map
and the set of active jobs.  The map `JM` of loaded jobs is the `jobs` of the
store, and `globalInstances` are the keys of `GlobalWorkflowInstanceMap`.
-/

/-- The parts that have a goroutine of their own stand side by side, and an operation takes and
returns all of them. -/
structure ServerMgr where
  cq : CQMgr
  store : Store
  taskMap : GoMap TaskUniqueIdentifier Nat
  actJobs : List String
  globalInstances : List String

namespace ServerMgr

/-- `NewServerMgr`, with the jobs and tasks that are loaded. -/
def newServerMgr (store : Store) : ServerMgr where
  cq :=
    { workQueue := WorkQueue.newWorkQueue
      client := fun _ => ⟨"", "", [], [], ⟨[], []⟩, ⟨[], []⟩, false, false, "", 0⟩
      nextClient := 0
      clientMap := ∅
      suspendQueue := false }
  store := store
  taskMap := ∅
  actJobs := []
  globalInstances := []

/-- `GetJob` followed by `GetState`. -/
def jobState (qm : ServerMgr) (jobid : String) : Option JobState :=
  (qm.store.jobs.lookup jobid).map Job.state

/-- `UpdateJobTaskToInProgress`.  Only an unknown job ends the loop. -/
def updateJobTaskToInProgress (qm : ServerMgr) : List Nat -> ServerMgr × Err
  | [] => (qm, none)
  | work :: rest =>
      let ident := (qm.cq.workQueue.work work).ident
      match qm.store.getJob ident.jobId with
      | .error err => (qm, some err)
      | .ok job =>
          let store :=
            if job.state ≠ .inProgress then qm.store.jobSetState ident.jobId .inProgress
            else qm.store
          match qm.taskMap.lookup ident.toTaskUniqueIdentifier with
          | none => updateJobTaskToInProgress { qm with store := store } rest
          | some task =>
              let store := (store.taskSetState task .inProgress).1
              updateJobTaskToInProgress { qm with store := store } rest

/-- The loop touches the jobs and the tasks only, and it loads and drops no job. -/
theorem updateJobTaskToInProgress_frame (qm : ServerMgr) (works : List Nat) :
    (qm.updateJobTaskToInProgress works).1.cq = qm.cq ∧
      forall jobid, ((qm.updateJobTaskToInProgress works).1.store.jobs.lookup jobid).isSome =
        (qm.store.jobs.lookup jobid).isSome := by
  induction works generalizing qm with
  | nil => exact ⟨rfl, fun _ => rfl⟩
  | cons work rest inductionHypothesis =>
      have started (jobid : String) (job : Job) (other : String) :
          ((if job.state ≠ .inProgress then qm.store.jobSetState jobid .inProgress
            else qm.store).jobs.lookup other).isSome = (qm.store.jobs.lookup other).isSome := by
        split
        · exact Store.modifyJob_isSome ..
        · rfl
      simp only [updateJobTaskToInProgress]
      cases qm.store.getJob (qm.cq.workQueue.work work).ident.jobId with
      | error err => exact ⟨rfl, fun _ => rfl⟩
      | ok job =>
          simp only []
          cases qm.taskMap.lookup
              (qm.cq.workQueue.work work).ident.toTaskUniqueIdentifier with
          | none =>
              have later := inductionHypothesis
                { qm with
                  store :=
                    if job.state ≠ .inProgress then
                      qm.store.jobSetState (qm.cq.workQueue.work work).ident.jobId .inProgress
                    else qm.store }
              exact ⟨later.1, fun jobid => (later.2 jobid).trans (started _ job jobid)⟩
          | some task =>
              simp only []
              refine ⟨(inductionHypothesis _).1, fun jobid => ?_⟩
              rw [(inductionHypothesis _).2 jobid, Store.taskSetState_isSome]
              exact started _ job jobid

end ServerMgr

end Core
end Awe
