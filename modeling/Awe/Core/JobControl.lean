import Awe.Core.Completion

namespace Awe
namespace Core

open Lib Lib.Path

/-!
# Controlling a job

The operations on a whole job: `job.Init` counts its tasks, `SuspendJob` stops
it, `EnqueueTasksByJobId` hands its tasks to the task map, and
`ResumeSuspendedJobByUser`, `RecomputeJob` and `ResubmitJob` send tasks back
through `ResetTaskTrue` before they do the same.  The last three share their
loop and their end; what differs is which tasks they pick and which states of
the job they accept.
-/

/-- `task.Init` of a stored task.  An empty `ID` is replaced by a UUID in
`job.Init`, which has not the required prefix either. -/
def Task.initRaw (task : Task) (info : Info) (jobID : String) : Except String Task :=
  if jobID = "" then .error "(InitRaw) jobID empty"
  else if task.globalId = "" ∨ ¬hasPrefix task.globalId (jobID ++ "_") then
    .error ("(InitRaw) A) broken task? " ++ jobID)
  else if task.ident.taskName = "" then .error ("(InitRaw) B) broken task? " ++ jobID)
  else
    let ident : TaskUniqueIdentifier :=
      ⟨task.ident.taskName, if task.ident.jobId = "" then jobID else task.ident.jobId⟩
    match ident.string with
    | (_, some err) => .error ("(InitRaw) task.String returned: " ++ err)
    | (taskStr, none) => .ok { task.init with ident, globalId := taskStr, info := some info }

namespace Store

/-- The loop of `job.Init` over the tasks. -/
def initTasks (info : Info) (jobid : String) : Store -> List Nat -> Except String Store
  | store, [] => .ok store
  | store, ptr :: rest =>
      match (store.task ptr).initRaw info jobid with
      | .error err => .error ("(job.Init) task.Init returned: " ++ err)
      | .ok task => initTasks info jobid (store.modifyTask ptr fun _ => task) rest

/-- `job.Init`, as far as it concerns the tasks. -/
def jobInit (store : Store) (jobid : String) : Except String Store :=
  match store.jobs.lookup jobid with
  | none => .error "(job.Init) no job"
  | some job =>
      match store.initTasks job.info jobid job.tasks with
      | .error err => .error err
      | .ok store =>
          .ok (store.modifyJob jobid fun job =>
            if job.isCWL then job else { job with remainTasks := store.uncompleted job.tasks })

/-- `job.SetState` with required old states. -/
def jobSetStateFrom (store : Store) (jobid : String) (newState : JobState)
    (oldstates : List JobState) : Store × Err :=
  match store.jobs.lookup jobid with
  | none => (store, some "(SetState) no job")
  | some job =>
      if job.state = newState then (store, none)
      else if job.state ∈ oldstates then (store.jobSetState jobid newState, none)
      else (store, some "(SetState) old state does not match one of the required ones")

/-- A loop over the tasks that calls `ResetTaskTrue` on some of them.  `pick`
reads the store as the earlier rounds left it; the last component tells
whether a task was picked. -/
def resetWhere (caller : String) (pick : Store -> Nat -> Except Halt (Except String Bool)) :
    Store -> List Nat -> Except Halt (Store × Err × Bool)
  | store, [] => .ok (store, none, false)
  | store, ptr :: rest =>
      match pick store ptr with
      | .error halt => .error halt
      | .ok (.error err) => .ok (store, some err, false)
      | .ok (.ok false) => resetWhere caller pick store rest
      | .ok (.ok true) =>
          match store.resetTaskTrue ptr with
          | (store, some err) =>
              .ok (store, some ("(" ++ caller ++ ") failed to reset task " ++ err), true)
          | (store, none) =>
              match resetWhere caller pick store rest with
              | .error halt => .error halt
              | .ok (store, err, _) => .ok (store, err, true)

/-- The loop of `isAncestor` that looks for the task. -/
def findTask (store : Store) (taskId : String) : List Nat -> Except String (Option Nat)
  | [] => .ok none
  | ptr :: rest =>
      match (store.task ptr).ident.string with
      | (_, some err) => .error ("(isAncestor) task.String returned: " ++ err)
      | (taskStr, none) => if taskStr = taskId then .ok (some ptr) else findTask store taskId rest

/-- `isAncestor`.  The loop over the dependencies returns in its first round. -/
def isAncestor (store : Store) (tasks : List Nat) :
    Nat -> String -> String -> Except Halt (Except String Bool)
  | 0, _, _ => .error .diverges
  | depth + 1, taskId, testId =>
      if taskId = testId then .ok (.ok false)
      else
        match store.findTask taskId tasks with
        | .error err => .ok (.error err)
        | .ok none => .ok (.ok false)
        | .ok (some ptr) =>
            match (store.task ptr).dependsOn with
            | [] => .ok (.ok false)
            | first :: rest =>
                if testId ∈ first :: rest then .ok (.ok true)
                else isAncestor store tasks depth first testId

/-- The loop of `SuspendJob` over the tasks.  The named result keeps the error
of the last round. -/
def suspendTasks (newState : ProcessState) : Store -> List Nat -> Store × Err
  | store, [] => (store, none)
  | store, ptr :: rest =>
      let stopped :=
        if (store.task ptr).state ∈ [.queued, .ready, .inProgress] then
            store.taskSetState ptr newState
        else (store, none)
      if rest.isEmpty then stopped else suspendTasks newState stopped.1 rest

end Store

namespace ServerMgr

/-- The loop of `SuspendJob` over the workunits in `all`. -/
def suspendWorkunits (wq : WorkQueue) (jobid newState : String) (listing : List Nat) : WorkQueue :=
  listing.foldl (fun wq ptr =>
    if (wq.work ptr).ident.jobId = jobid then
      (wq.statusChange (wq.work ptr).ident none newState "see job error").1
    else wq) wq

/-- `SuspendJob` with the status of the job error. -/
def suspendJob (qm : ServerMgr) (jobid : String) (status : JobState) : ServerMgr × Err :=
  match qm.store.getJob jobid with
  | .error err => (qm, some err)
  | .ok job =>
      let permanent := status = .failedPermanent
      let newWorkState := if permanent then workStatFailedPermanent else workStatSuspend
      let newTaskState := if permanent then ProcessState.failedPermanent else .suspend
      let workQueue := suspendWorkunits qm.cq.workQueue jobid newWorkState
          qm.cq.workQueue.all.values
      let stopped := (qm.store.jobSetState jobid status).suspendTasks newTaskState job.tasks
      ({ qm with
          cq := { qm.cq with workQueue }
          store := stopped.1
          actJobs := qm.actJobs.filter (· ≠ jobid) }, stopped.2)

/-- `TaskMap.Add`. -/
def taskMapAdd (qm : ServerMgr) (ptr : Nat) (caller : String) : ServerMgr × Err :=
  let id := (qm.store.task ptr).ident
  let other := (qm.taskMap.lookup id).filter (· ≠ ptr)
  match other with
  | some taskInMap =>
      (qm, some ("(TaskMap/Add) task " ++ id.string.1 ++
          " is already in TaskMap with a different " ++
        "pointer (caller: " ++ caller ++ ", comment: " ++ (qm.store.task taskInMap).comment ++ ")"))
  | none =>
      let pending :=
        if (qm.store.task ptr).state = .init then qm.store.taskSetState ptr .pending
        else (qm.store, none)
      match pending with
      | (store, some err) =>
          ({ qm with store }, some ("(TaskMap/Add) task.SetState returned: " ++ err))
      | (store, none) =>
          ({ qm with
              store := store.modifyTask ptr fun task =>
                  { task with comment := "added by " ++ caller }
              taskMap := qm.taskMap.insert id ptr }, none)

/-- The loop of `EnqueueTasksByJobId`. -/
def enqueueTasks (caller : String) : ServerMgr -> List Nat -> ServerMgr × Err
  | qm, [] => (qm, none)
  | qm, ptr :: rest =>
      let woken :=
        match (qm.store.task ptr).state with
        | .inProgress | .queued => qm.store.taskSetState ptr .ready
        | .suspend => qm.store.taskSetState ptr .pending
        | _ => (qm.store, none)
      match woken with
      | (store, some err) => ({ qm with store }, some err)
      | (store, none) =>
          match { qm with store }.taskMapAdd ptr ("EnqueueTasksByJobId/" ++ caller) with
          | (qm, some err) => (qm, some ("(EnqueueTasksByJobId) qm.TaskMap.Add() returns: " ++ err))
          | (qm, none) => enqueueTasks caller qm rest

/-- `EnqueueTasksByJobId` of an old-style job, for which `GetTasks` is the list
`Tasks`. -/
def enqueueTasksByJobId (qm : ServerMgr) (jobid caller : String) : ServerMgr × Err :=
  match qm.store.getJob jobid with
  | .error err => (qm, some ("(EnqueueTasksByJobId) GetJob failed: " ++ err))
  | .ok job =>
      let qm := { qm with
        store := qm.store.jobSetState jobid .queuing
        actJobs := if jobid ∈ qm.actJobs then qm.actJobs else jobid :: qm.actJobs }
      match enqueueTasks caller qm job.tasks with
      | (qm, some err) => (qm, some err)
      | (qm, none) =>
          if qm.jobState jobid = some .inProgress then (qm, none)
          else
            let set := qm.store.jobSetStateFrom jobid .queued [.init, .suspend, .queuing]
            ({ qm with store := set.1 }, set.2)

/-- The end that the three operations share. -/
def requeue (qm : ServerMgr) (jobid caller : String) : ServerMgr × Err :=
  let qm := { qm with store := qm.store.jobSetState jobid .queuing }
  match qm.enqueueTasksByJobId jobid caller with
  | (qm, some err) => (qm, some ("(" ++ caller ++ ") failed to enqueue job " ++ err))
  | (qm, none) => (qm, none)

/-- `ResumeSuspendedJobByUser`; `authorised` is the answer of the check of the
user's rights. -/
def resumeSuspendedJobByUser (qm : ServerMgr) (id : String) (authorised : Bool) :
    Except Halt (ServerMgr × Err) :=
  match qm.store.getJob id with
  | .error err => .ok (qm, some ("(ResumeSuspendedJobByUser) failed to load job " ++ err))
  | .ok job =>
      if ¬authorised then .ok (qm, some "User Unauthorized")
      else if job.state ≠ .suspend then
        .ok (qm, some ("(ResumeSuspendedJobByUser) job " ++ id ++ " is not in 'suspend' status"))
      else
        match qm.store.resetWhere "ResumeSuspendedJobByUser"
            (fun store ptr => .ok (.ok ((store.task ptr).state ∈ taskStatsReset))) job.tasks with
        | .error halt => .error halt
        | .ok (store, some err, _) => .ok ({ qm with store }, some err)
        | .ok (store, none, _) => .ok ({ qm with store }.requeue id "ResumeSuspendedJobByUser")

/-- What `RecomputeJob` and `ResubmitJob` check before they touch a task. -/
def restartable (qm : ServerMgr) (jobid caller : String) : Except String Job :=
  if jobid ∈ qm.actJobs then .error ("(" ++ caller ++ ") job " ++ jobid ++ " is already active")
  else
    match qm.store.getJob jobid with
    | .error err => .error ("(" ++ caller ++ ") failed to load job " ++ err)
    | .ok job =>
        if job.state ≠ .completed ∧ job.state ≠ .suspend then
          .error ("(" ++ caller ++ ") job " ++ jobid ++
              " is not in 'completed' or 'suspend' status")
        else .ok job

/-- The tasks that the first loop of `RecomputeJob` resets. -/
def isFrom (fromTaskID : String) (store : Store) (ptr : Nat) : Except Halt (Except String Bool) :=
  match (store.task ptr).ident.string with
  | (_, some err) => .ok (.error ("(RecomputeJob) failed to get task ID string " ++ err))
  | (taskStr, none) => .ok (.ok (taskStr = fromTaskID))

/-- The tasks that the second loop of `RecomputeJob` resets. -/
def isBehind (tasks : List Nat) (fromTaskID : String) (store : Store) (ptr : Nat) :
    Except Halt (Except String Bool) :=
  match (store.task ptr).ident.string with
  | (_, some err) => .ok (.error ("(RecomputeJob) failed to get task ID string " ++ err))
  | (taskStr, none) =>
      match store.isAncestor tasks (tasks.length + 1) taskStr fromTaskID with
      | .error halt => .error halt
      | .ok (.error err) =>
          .ok (.error ("(RecomputeJob) failed to determine if task is ancestor " ++ err))
      | .ok (.ok isAncest) => .ok (.ok (isAncest || (store.task ptr).state ∈ taskStatsReset))

/-- `RecomputeJob`.  The count `remain_steps` that it keeps is not used. -/
def recomputeJob (qm : ServerMgr) (jobid taskStage : String) : Except Halt (ServerMgr × Err) :=
  match qm.restartable jobid "RecomputeJob" with
  | .error err => .ok (qm, some err)
  | .ok job =>
      let fromTaskID := jobid ++ "_" ++ taskStage
      match qm.store.resetWhere "RecomputeJob" (isFrom fromTaskID) job.tasks with
      | .error halt => .error halt
      | .ok (store, some err, _) => .ok ({ qm with store }, some err)
      | .ok (store, none, false) =>
          .ok ({ qm with store }, some ("(RecomputeJob) task not found: " ++ fromTaskID))
      | .ok (store, none, true) =>
          match store.resetWhere "RecomputeJob" (isBehind job.tasks fromTaskID) job.tasks with
          | .error halt => .error halt
          | .ok (store, some err, _) => .ok ({ qm with store }, some err)
          | .ok (store, none, _) => .ok ({ qm with store }.requeue jobid "RecomputeJob")

/-- `ResubmitJob`. -/
def resubmitJob (qm : ServerMgr) (jobid : String) : Except Halt (ServerMgr × Err) :=
  match qm.restartable jobid "ResubmitJob" with
  | .error err => .ok (qm, some err)
  | .ok job =>
      match qm.store.resetWhere "ResubmitJob" (fun _ _ => .ok (.ok true)) job.tasks with
      | .error halt => .error halt
      | .ok (store, some err, _) => .ok ({ qm with store }, some err)
      | .ok (store, none, _) => .ok ({ qm with store }.requeue jobid "ResubmitJob")

end ServerMgr

/-! ## What the loops leave alone -/

namespace ServerMgr

theorem suspendWorkunits_cons (wq : WorkQueue) (jobid newState : String) (ptr : Nat)
    (rest : List Nat) :
    suspendWorkunits wq jobid newState (ptr :: rest) =
      suspendWorkunits
        (if (wq.work ptr).ident.jobId = jobid then
          (wq.statusChange (wq.work ptr).ident none newState "see job error").1
        else wq) jobid newState rest :=
  rfl

/-- What every change of status of a stored workunit of the job keeps, the loop
over the workunits keeps. -/
theorem suspendWorkunits_induction {Inv : WorkQueue -> Prop} {jobid newState : String}
    (stays : forall wq, Inv wq -> wq.Stored)
    (moved : forall wq id ptr, Inv wq -> wq.all.lookup id = some ptr -> id.jobId = jobid ->
      Inv (wq.moveTo (wq.work ptr).ident ptr newState "see job error").1)
    (listing : List Nat) {wq : WorkQueue} (before : Inv wq) :
    Inv (suspendWorkunits wq jobid newState listing) := by
  induction listing generalizing wq with
  | nil => exact before
  | cons ptr rest inductionHypothesis =>
      rw [suspendWorkunits_cons]
      apply inductionHypothesis
      by_cases own : (wq.work ptr).ident.jobId = jobid
      · rw [if_pos own]
        rcases (stays wq before).statusChange_cases (wq.work ptr).ident newState "see job error"
            with
          ⟨_, same⟩ | ⟨held, found, changed⟩
        · rw [same]
          exact before
        · rw [changed]
          exact moved wq _ held before found own
      · rw [if_neg own]
        exact before

theorem suspendWorkunits_stored {wq : WorkQueue} (stored : wq.Stored) (jobid newState : String)
    (listing : List Nat) :
    (suspendWorkunits wq jobid newState listing).Stored ∧
      (suspendWorkunits wq jobid newState listing).all = wq.all := by
  refine @suspendWorkunits_induction (fun later => later.Stored ∧ later.all = wq.all) jobid newState
    (fun _ kept => kept.1) (fun later id ptr kept _ _ => ⟨kept.1.moveTo ptr newState _, ?_⟩) listing
        wq ⟨stored, rfl⟩
  rw [WorkQueue.moveTo_all, kept.2]

end ServerMgr

namespace Store

/-- What a round of resets may do: complete no task and send none back, and
leave a task that can be reset as one. -/
structure Resets (store after : Store) : Prop where
  quiet : Quiet store after
  resettable : forall ptr, store.Resettable ptr -> after.Resettable ptr

theorem Resets.refl (store : Store) : Resets store store :=
  ⟨Quiet.refl store, fun _ safe => safe⟩

theorem Resets.trans {store middle after : Store} (first : Resets store middle)
    (second : Resets middle after) : Resets store after :=
  ⟨first.quiet.trans second.quiet, fun ptr safe =>
      second.resettable ptr (first.resettable ptr safe)⟩

theorem Resets.resetTaskTrue {store : Store} {ptr : Nat} (safe : store.Resettable ptr) :
    Resets store (store.resetTaskTrue ptr).1 :=
  ⟨Quiet.resetTaskTrue safe, fun _ others => resetTaskTrue_resettable others⟩

/-- The loop is safe if every task it can pick may be reset at that point. -/
theorem resetWhere_resets {caller : String}
    {pick : Store -> Nat -> Except Halt (Except String Bool)} {store after : Store}
    {tasks : List Nat} {err : Err} {found : Bool}
    (safe : forall ptr, ptr ∈ tasks -> forall now, Resets store now ->
      pick now ptr = .ok (.ok true) -> now.Resettable ptr)
    (result : store.resetWhere caller pick tasks = .ok (after, err, found)) :
        Resets store after := by
  induction tasks generalizing store found with
  | nil =>
      cases result
      exact Resets.refl _
  | cons ptr rest inductionHypothesis =>
      have later (now : Store) (resets : Resets store now) (other : Nat) (member : other ∈ rest)
          (next : Store) (more : Resets now next) (picked : pick next other = .ok (.ok true)) :
          next.Resettable other :=
        safe other (List.mem_cons_of_mem ptr member) next (resets.trans more) picked
      unfold resetWhere at result
      cases picked : pick store ptr with
      | error halt =>
          rw [picked] at result
          cases result
      | ok answer =>
          rw [picked] at result
          match answer with
          | .error text =>
              cases result
              exact Resets.refl _
          | .ok false => exact inductionHypothesis (later store (Resets.refl store)) result
          | .ok true =>
              have reset := Resets.resetTaskTrue
                (safe ptr List.mem_cons_self store (Resets.refl store) picked)
              dsimp only at result
              cases done : store.resetTaskTrue ptr with
              | mk middle failed =>
                  rw [done] at result reset
                  cases failed with
                  | some text =>
                      cases result
                      exact reset
                  | none =>
                      dsimp only at result
                      cases remaining : middle.resetWhere caller pick rest with
                      | error halt =>
                          rw [remaining] at result
                          cases result
                      | ok outcome =>
                          rw [remaining] at result
                          cases result
                          exact reset.trans (inductionHypothesis (later middle reset) remaining)

theorem suspendTasks_quiet {newState : ProcessState} (opens : newState ≠ .completed) (store : Store)
    (tasks : List Nat) : Quiet store (store.suspendTasks newState tasks).1 := by
  induction tasks generalizing store with
  | nil => exact Quiet.refl store
  | cons ptr rest inductionHypothesis =>
      have stopped : Quiet store
          (if (store.task ptr).state ∈ [ProcessState.queued, .ready, .inProgress] then
            store.taskSetState ptr newState else (store, none)).1 := by
        by_cases running : (store.task ptr).state ∈ [ProcessState.queued, .ready, .inProgress]
        · rw [if_pos running]
          refine Quiet.taskSetState opens ?_
          intro done
          rw [done] at running
          exact absurd running (by decide)
        · rw [if_neg running]
          exact Quiet.refl store
      simp only [suspendTasks]
      split
      · exact stopped
      · exact stopped.trans (inductionHypothesis _)

end Store

namespace ServerMgr

theorem taskMapAdd_quiet (qm : ServerMgr) (ptr : Nat) (caller : String) :
    Store.Quiet qm.store (qm.taskMapAdd ptr caller).1.store := by
  unfold taskMapAdd
  dsimp only
  cases (qm.taskMap.lookup (qm.store.task ptr).ident).filter (· ≠ ptr) with
  | some other => exact Store.Quiet.refl _
  | none =>
      have pending : Store.Quiet qm.store
          (if (qm.store.task ptr).state = .init then qm.store.taskSetState ptr .pending
            else (qm.store, none)).1 := by
        by_cases fresh : (qm.store.task ptr).state = .init
        · rw [if_pos fresh]
          exact Store.Quiet.taskSetState (by decide) (by rw [fresh]; decide)
        · rw [if_neg fresh]
          exact Store.Quiet.refl _
      dsimp only
      generalize (if (qm.store.task ptr).state = .init then qm.store.taskSetState ptr .pending
            else (qm.store, none)) = outcome at pending ⊢
      rcases outcome with ⟨after, err⟩
      cases err with
      | some text => exact pending
      | none =>
          exact pending.trans (@Store.Quiet.modifyTask after ptr
            (fun task => { task with comment := "added by " ++ caller }) rfl Iff.rfl)

theorem enqueueTasks_quiet (caller : String) (qm : ServerMgr) (tasks : List Nat) :
    Store.Quiet qm.store (enqueueTasks caller qm tasks).1.store := by
  induction tasks generalizing qm with
  | nil => exact Store.Quiet.refl _
  | cons ptr rest inductionHypothesis =>
      have woken : Store.Quiet qm.store
          (match (qm.store.task ptr).state with
            | .inProgress | .queued => qm.store.taskSetState ptr .ready
            | .suspend => qm.store.taskSetState ptr .pending
            | _ => (qm.store, none)).1 := by
        split
        · next running => exact Store.Quiet.taskSetState (by decide) (by rw [running]; decide)
        · next running => exact Store.Quiet.taskSetState (by decide) (by rw [running]; decide)
        · next stopped => exact Store.Quiet.taskSetState (by decide) (by rw [stopped]; decide)
        · exact Store.Quiet.refl _
      unfold enqueueTasks
      dsimp only
      generalize (match (qm.store.task ptr).state with
            | .inProgress | .queued => qm.store.taskSetState ptr .ready
            | .suspend => qm.store.taskSetState ptr .pending
            | _ => (qm.store, none)) = outcome at woken ⊢
      rcases outcome with ⟨after, err⟩
      cases err with
      | some text => exact woken
      | none =>
          have added := taskMapAdd_quiet { qm with store := after } ptr
              ("EnqueueTasksByJobId/" ++ caller)
          dsimp only at added ⊢
          cases done : taskMapAdd { qm with store := after } ptr ("EnqueueTasksByJobId/" ++ caller)
              with
          | mk next failed =>
              rw [done] at added
              cases failed with
              | some text => exact woken.trans added
              | none => exact (woken.trans added).trans (inductionHypothesis next)

end ServerMgr

end Core
end Awe
