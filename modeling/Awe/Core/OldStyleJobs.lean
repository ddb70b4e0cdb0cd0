import Awe.Core.JobControl
import Awe.Lib.Runs

namespace Awe
namespace Core

open Lib Lib.Path

/-!
# Completion of old-style jobs

A job that is not a CWL workflow has a list of tasks and a counter
`RemainTasks`.  `job.Init` counts the tasks that are not completed,
`taskCompleted` counts down, and the job is completed when nothing remains.

The counter is right along every run in which the step to completed finds a
workflow instance to count in, and in which no completed task is sent back.
An old-style task has no workflow instance, so the first condition fails at
the first completion: `SetState` has written the new state when it reports
the missing instance, and `taskCompleted` returns before it counts.
-/

namespace OldStyleJobs

/-- What can happen to the job.  `progress` stands for the other parts of the
server that move a task which is not completed: enqueuing, check-out and
suspension. -/
inductive Event where
  | complete (ptr : Nat)
  | progress (ptr : Nat) (newState : ProcessState)
  | suspend (permanent : Bool)
  | resume (authorised : Bool)
  | recompute (taskStage : String)
  | resubmit
  deriving DecidableEq, Repr

/-- The task is one of the job's. -/
def belongs (store : Store) (jobid : String) (ptr : Nat) : Bool :=
  match store.jobs.lookup jobid with
  | some job => ptr ∈ job.tasks
  | none => false

section

variable (collect : Collect) (jobid : String)

def step (qm : ServerMgr) : Event -> Option ServerMgr
  | .complete ptr =>
      if belongs qm.store jobid ptr then
        survives (qm.taskCompleted collect (qm.store.nextTask + 1) none ptr)
      else none
  | .progress ptr newState =>
      if belongs qm.store jobid ptr ∧ (qm.store.task ptr).state ≠ .completed ∧
          newState ≠ .completed then
        some { qm with store := (qm.store.taskSetState ptr newState).1 }
      else none
  | .suspend permanent =>
      some (qm.suspendJob jobid (if permanent then .failedPermanent else .suspend)).1
  | .resume authorised => survives (qm.resumeSuspendedJobByUser jobid authorised)
  | .recompute taskStage => survives (qm.recomputeJob jobid taskStage)
  | .resubmit => survives (qm.resubmitJob jobid)

/-- The steps that keep the counter right.  A completion must find a workflow
instance, and a restart must not pick a completed task. -/
def Counting (qm : ServerMgr) : Event -> Prop
  | .complete ptr =>
      (qm.store.task ptr).state = .completed ∨
        (qm.store.instanceOf (qm.store.task ptr).ident.jobId
          (qm.store.task ptr).workflowInstanceID).isSome
  | .recompute taskStage =>
      forall job, qm.restartable jobid "RecomputeJob" = .ok job -> forall ptr, ptr ∈ job.tasks ->
        ServerMgr.isFrom (jobid ++ "_" ++ taskStage) qm.store ptr = .ok (.ok true) ∨
          ServerMgr.isBehind job.tasks (jobid ++ "_" ++ taskStage) qm.store ptr = .ok (.ok true) ->
        qm.store.Resettable ptr
  | .resubmit =>
      forall job, qm.restartable jobid "ResubmitJob" = .ok job -> forall ptr, ptr ∈ job.tasks ->
        qm.store.Resettable ptr
  | _ => True

end

/-- A job as it is submitted or loaded, before `job.Init`.  Its tasks are
different objects that name no other job, none is the child of a scatter, and
the job is not stored as completed with a task open. -/
structure Submitted (store : Store) (jobid : String) (job : Job) : Prop where
  loaded : store.jobs.lookup jobid = some job
  oldStyle : job.isCWL = false
  distinct : job.tasks.Nodup
  own : forall ptr, ptr ∈ job.tasks ->
    (store.task ptr).ident.jobId = "" ∨ (store.task ptr).ident.jobId = jobid
  plain : forall ptr, ptr ∈ job.tasks -> (store.task ptr).scatterParent = none
  closed : job.state = .completed -> store.uncompleted job.tasks = 0

/-- The invariant: the counter is right, and a completed job has no open task. -/
structure Accounted (store : Store) (jobid : String) (job : Job) : Prop where
  loaded : store.jobs.lookup jobid = some job
  remain : job.remainTasks = store.uncompleted job.tasks
  distinct : job.tasks.Nodup
  own : forall ptr, ptr ∈ job.tasks -> (store.task ptr).ident.jobId = jobid
  plain : forall ptr, ptr ∈ job.tasks -> (store.task ptr).scatterParent = none
  closed : job.state = .completed -> store.uncompleted job.tasks = 0

/-- The job goes on with the same tasks open, and it is not finished meanwhile. Most operations on
a task are of this kind: its state changes, and neither begins nor ceases to be completed. -/
structure Steady (store : Store) (jobid : String) (job : Job) (after : Store) (next : Job) :
    Prop where
  accounted : Accounted after jobid next
  tasks : next.tasks = job.tasks
  count : after.uncompleted job.tasks = store.uncompleted job.tasks
  unfinished : next.state = .completed -> job.state = .completed

/-! ## Steps that complete nothing -/

section

variable {store middle after : Store} {jobid : String} {job next final : Job}

theorem uncompleted_quiet (quiet : Store.Quiet store after) (tasks : List Nat) :
    after.uncompleted tasks = store.uncompleted tasks :=
  Store.uncompleted_congr fun ptr _ => quiet.completed ptr

theorem Accounted.steady (accounted : Accounted store jobid job) :
    Steady store jobid job store job :=
  ⟨accounted, rfl, rfl, id⟩

theorem Steady.quiet (steady : Steady store jobid job middle next)
    (quiet : Store.Quiet middle after) :
    Steady store jobid job after next where
  accounted :=
    { loaded := by rw [quiet.jobs]; exact steady.accounted.loaded
      remain := by rw [uncompleted_quiet quiet]; exact steady.accounted.remain
      distinct := steady.accounted.distinct
      own := fun ptr member => by
        have same : (after.task ptr).ident = (middle.task ptr).ident :=
            congrArg Prod.fst (quiet.fixed ptr)
        rw [same]
        exact steady.accounted.own ptr member
      plain := fun ptr member => by
        have same : (after.task ptr).scatterParent = (middle.task ptr).scatterParent :=
          congrArg (fun fields => fields.2.2.1) (quiet.fixed ptr)
        rw [same]
        exact steady.accounted.plain ptr member
      closed := fun done => by rw [uncompleted_quiet quiet]; exact steady.accounted.closed done }
  tasks := steady.tasks
  count := (uncompleted_quiet quiet _).trans steady.count
  unfinished := steady.unfinished

theorem Steady.jobSetState (steady : Steady store jobid job middle next) {newState : JobState}
    (unfinished : newState ≠ .completed) :
    Steady store jobid job (middle.jobSetState jobid newState) { next with state := newState } where
  accounted :=
    { loaded := by
        unfold Store.jobSetState
        rw [Store.modifyJob_lookup, if_pos rfl, steady.accounted.loaded]
        rfl
      remain := by
        rw [steady.accounted.remain]
        unfold Store.jobSetState Store.uncompleted
        rw [Store.modifyJob_task]
      distinct := steady.accounted.distinct
      own := fun ptr member => by
        unfold Store.jobSetState
        rw [Store.modifyJob_task]
        exact steady.accounted.own ptr member
      plain := fun ptr member => by
        unfold Store.jobSetState
        rw [Store.modifyJob_task]
        exact steady.accounted.plain ptr member
      closed := fun done => absurd done unfinished }
  tasks := steady.tasks
  count := by
    rw [← steady.count]
    unfold Store.jobSetState Store.uncompleted
    rw [Store.modifyJob_task]
  unfinished := fun done => absurd done unfinished

theorem Steady.enqueueTasksByJobId {qm : ServerMgr} (steady : Steady store jobid job qm.store next)
    (caller : String) :
    Exists fun final => Steady store jobid job (qm.enqueueTasksByJobId jobid caller).1.store
        final := by
  have getJob : qm.store.getJob jobid = .ok next := by
    unfold Store.getJob
    rw [steady.accounted.loaded]
  unfold ServerMgr.enqueueTasksByJobId
  rw [getJob]
  dsimp only
  have queuing := steady.jobSetState (show JobState.queuing ≠ .completed by decide)
  have enqueued := queuing.quiet (ServerMgr.enqueueTasks_quiet caller { qm with
    store := qm.store.jobSetState jobid .queuing
    actJobs := if jobid ∈ qm.actJobs then qm.actJobs else jobid :: qm.actJobs } next.tasks)
  cases done : ServerMgr.enqueueTasks caller { qm with
      store := qm.store.jobSetState jobid .queuing
      actJobs := if jobid ∈ qm.actJobs then qm.actJobs else jobid :: qm.actJobs } next.tasks with
  | mk later failed =>
      rw [done] at enqueued
      cases failed with
      | some text => exact ⟨_, enqueued⟩
      | none =>
          dsimp only
          split
          · exact ⟨_, enqueued⟩
          · unfold Store.jobSetStateFrom
            rw [enqueued.accounted.loaded]
            dsimp only
            rw [if_neg (by decide), if_pos (by decide)]
            exact ⟨_, enqueued.jobSetState (by decide)⟩

theorem Steady.requeue {qm : ServerMgr} (steady : Steady store jobid job qm.store next)
    (caller : String) :
    Exists fun final => Steady store jobid job (qm.requeue jobid caller).1.store final := by
  have queuing := steady.jobSetState (show JobState.queuing ≠ .completed by decide)
  have enqueued := @Steady.enqueueTasksByJobId store jobid job _
    { qm with store := qm.store.jobSetState jobid .queuing } queuing caller
  unfold ServerMgr.requeue
  dsimp only
  cases done : ServerMgr.enqueueTasksByJobId
      { qm with store := qm.store.jobSetState jobid .queuing } jobid caller with
  | mk later failed =>
      rw [done] at enqueued
      cases failed with
      | some text => exact enqueued
      | none => exact enqueued

/-- The loop over the tasks followed by the requeuing. -/
theorem Accounted.resetAndRequeue {qm : ServerMgr} (accounted : Accounted qm.store jobid job)
    {reset : Store} (resets : Store.Resets qm.store reset) (caller : String) :
    Exists fun final => Steady qm.store jobid job
      (ServerMgr.requeue { qm with store := reset } jobid caller).1.store final :=
  @Steady.requeue qm.store jobid job job { qm with store := reset }
    (accounted.steady.quiet resets.quiet) caller

theorem resume_steady {qm after : ServerMgr} (accounted : Accounted qm.store jobid job)
    {authorised : Bool}
    (stepped : survives (qm.resumeSuspendedJobByUser jobid authorised) = some after) :
    Exists fun next => Steady qm.store jobid job after.store next := by
  have getJob : qm.store.getJob jobid = .ok job := by
    unfold Store.getJob
    rw [accounted.loaded]
  unfold ServerMgr.resumeSuspendedJobByUser at stepped
  rw [getJob] at stepped
  dsimp only at stepped
  split at stepped
  · cases stepped
    exact ⟨job, accounted.steady⟩
  split at stepped
  · cases stepped
    exact ⟨job, accounted.steady⟩
  -- Only tasks in a state of `TASK_STATS_RESET` are picked, which completed is not.
  have resets {reset : Store} {err : Err} {found : Bool} := @Store.resetWhere_resets
    "ResumeSuspendedJobByUser"
        (fun store ptr => .ok (.ok ((store.task ptr).state ∈ taskStatsReset)))
    qm.store reset job.tasks err found (by
      intro ptr _ now _ picked
      have running : (now.task ptr).state ∈ taskStatsReset := by simpa using picked
      refine Or.inl (fun done => ?_)
      rw [done] at running
      exact absurd running (by decide))
  cases looped : qm.store.resetWhere "ResumeSuspendedJobByUser"
      (fun store ptr => .ok (.ok ((store.task ptr).state ∈ taskStatsReset))) job.tasks with
  | error halt =>
      rw [looped] at stepped
      cases stepped
  | ok outcome =>
      rcases outcome with ⟨reset, err, found⟩
      rw [looped] at stepped
      cases err with
      | some text =>
          cases stepped
          exact ⟨job, accounted.steady.quiet (resets looped).quiet⟩
      | none =>
          cases stepped
          exact accounted.resetAndRequeue (resets looped) _

theorem restartable_eq {qm : ServerMgr} (accounted : Accounted qm.store jobid job) {caller : String}
    {found : Job} (accepted : qm.restartable jobid caller = .ok found) : found = job := by
  have getJob : qm.store.getJob jobid = .ok job := by
    unfold Store.getJob
    rw [accounted.loaded]
  unfold ServerMgr.restartable at accepted
  rw [getJob] at accepted
  dsimp only at accepted
  split at accepted
  · cases accepted
  · split at accepted
    · cases accepted
    · exact (Except.ok.inj accepted).symm

theorem resubmit_steady {qm after : ServerMgr} (accounted : Accounted qm.store jobid job)
    (counting : Counting jobid qm .resubmit)
    (stepped : survives (qm.resubmitJob jobid) = some after) :
    Exists fun next => Steady qm.store jobid job after.store next := by
  unfold ServerMgr.resubmitJob at stepped
  cases accepted : qm.restartable jobid "ResubmitJob" with
  | error err =>
      rw [accepted] at stepped
      cases stepped
      exact ⟨job, accounted.steady⟩
  | ok found =>
      have safe := counting found accepted
      rw [accepted, restartable_eq accounted accepted] at stepped
      rw [restartable_eq accounted accepted] at safe
      dsimp only at stepped
      have resets {reset : Store} {err : Err} {picked : Bool} := @Store.resetWhere_resets
        "ResubmitJob" (fun _ _ => .ok (.ok true)) qm.store reset job.tasks err picked
        (fun ptr member now before _ => before.resettable ptr (safe ptr member))
      cases looped : qm.store.resetWhere "ResubmitJob" (fun _ _ => .ok (.ok true)) job.tasks with
      | error halt =>
          rw [looped] at stepped
          cases stepped
      | ok outcome =>
          rcases outcome with ⟨reset, err, picked⟩
          rw [looped] at stepped
          cases err with
          | some text =>
              cases stepped
              exact ⟨job, accounted.steady.quiet (resets looped).quiet⟩
          | none =>
              cases stepped
              exact accounted.resetAndRequeue (resets looped) _

/-! The tasks that `RecomputeJob` looks for depend on names and dependencies
only, which a reset does not touch. -/

theorem findTask_quiet (quiet : Store.Quiet store after) (taskId : String) (tasks : List Nat) :
    after.findTask taskId tasks = store.findTask taskId tasks := by
  induction tasks with
  | nil => rfl
  | cons ptr rest inductionHypothesis =>
      have same : (after.task ptr).ident = (store.task ptr).ident :=
          congrArg Prod.fst (quiet.fixed ptr)
      unfold Store.findTask
      rw [same, inductionHypothesis]

theorem isAncestor_quiet (quiet : Store.Quiet store after) (tasks : List Nat) (depth : Nat)
    (taskId testId : String) :
    after.isAncestor tasks depth taskId testId = store.isAncestor tasks depth taskId testId := by
  induction depth generalizing taskId with
  | zero => rfl
  | succ depth inductionHypothesis =>
      have same (ptr : Nat) : (after.task ptr).dependsOn = (store.task ptr).dependsOn :=
        congrArg (fun fields => fields.2.2.2) (quiet.fixed ptr)
      unfold Store.isAncestor
      simp only [findTask_quiet quiet, same, inductionHypothesis]

theorem isFrom_quiet (quiet : Store.Quiet store after) (fromTaskID : String) (ptr : Nat) :
    ServerMgr.isFrom fromTaskID after ptr = ServerMgr.isFrom fromTaskID store ptr := by
  have same : (after.task ptr).ident = (store.task ptr).ident := congrArg Prod.fst (quiet.fixed ptr)
  unfold ServerMgr.isFrom
  rw [same]

/-- A task that is picked later was picked already at the start, or is not completed. -/
theorem isBehind_quiet (quiet : Store.Quiet store after) (tasks : List Nat) (fromTaskID : String)
    (ptr : Nat) (picked : ServerMgr.isBehind tasks fromTaskID after ptr = .ok (.ok true)) :
    ServerMgr.isBehind tasks fromTaskID store ptr = .ok (.ok true) ∨
      (after.task ptr).state ≠ .completed := by
  have same : (after.task ptr).ident = (store.task ptr).ident := congrArg Prod.fst (quiet.fixed ptr)
  by_cases running : (after.task ptr).state ∈ taskStatsReset
  · refine Or.inr (fun done => ?_)
    rw [done] at running
    exact absurd running (by decide)
  · refine Or.inl ?_
    unfold ServerMgr.isBehind at picked ⊢
    rw [same] at picked
    cases named : (store.task ptr).ident.string with
    | mk taskStr err =>
        rw [named] at picked
        cases err with
        | some text => cases picked
        | none =>
            dsimp only at picked ⊢
            rw [isAncestor_quiet quiet] at picked
            cases found : store.isAncestor tasks (tasks.length + 1) taskStr fromTaskID with
            | error halt =>
                rw [found] at picked
                cases picked
            | ok answer =>
                rw [found] at picked
                match answer with
                | .error text => cases picked
                | .ok isAncest =>
                    dsimp only at picked ⊢
                    have ancestor : isAncest = true := by
                      simpa only [running, decide_false, Bool.or_false, Except.ok.injEq]
                          using picked
                    rw [ancestor, Bool.true_or]

theorem recompute_steady {qm after : ServerMgr} {taskStage : String}
    (accounted : Accounted qm.store jobid job) (counting : Counting jobid qm (.recompute taskStage))
    (stepped : survives (qm.recomputeJob jobid taskStage) = some after) :
    Exists fun next => Steady qm.store jobid job after.store next := by
  unfold ServerMgr.recomputeJob at stepped
  cases accepted : qm.restartable jobid "RecomputeJob" with
  | error err =>
      rw [accepted] at stepped
      cases stepped
      exact ⟨job, accounted.steady⟩
  | ok found =>
      have safe := counting found accepted
      rw [accepted, restartable_eq accounted accepted] at stepped
      rw [restartable_eq accounted accepted] at safe
      dsimp only at stepped
      generalize jobid ++ "_" ++ taskStage = fromTaskID at stepped safe
      have firstResets {reset : Store} {err : Err} {picked : Bool} := @Store.resetWhere_resets
        "RecomputeJob" (ServerMgr.isFrom fromTaskID) qm.store reset job.tasks err picked
        (fun ptr member now before chosen => before.resettable ptr
          (safe ptr member (Or.inl ((isFrom_quiet before.quiet fromTaskID ptr).symm.trans chosen))))
      cases looped : qm.store.resetWhere "RecomputeJob" (ServerMgr.isFrom fromTaskID) job.tasks with
      | error halt =>
          rw [looped] at stepped
          cases stepped
      | ok outcome =>
          rcases outcome with ⟨reset, err, picked⟩
          rw [looped] at stepped
          have first := firstResets looped
          match err, picked with
          | some text, _ =>
              cases stepped
              exact ⟨job, accounted.steady.quiet first.quiet⟩
          | none, false =>
              cases stepped
              exact ⟨job, accounted.steady.quiet first.quiet⟩
          | none, true =>
              dsimp only at stepped
              have secondResets {final : Store} {err : Err} {chosen : Bool} :=
                  @Store.resetWhere_resets
                "RecomputeJob" (ServerMgr.isBehind job.tasks fromTaskID) reset final
                    job.tasks err chosen
                (by
                  intro ptr member now before chosen
                  have all := first.trans before
                  rcases isBehind_quiet all.quiet job.tasks fromTaskID ptr chosen with
                      early | opened
                  · exact all.resettable ptr (safe ptr member (Or.inr early))
                  · exact Or.inl opened)
              cases second : reset.resetWhere "RecomputeJob"
                  (ServerMgr.isBehind job.tasks fromTaskID)
                  job.tasks with
              | error halt =>
                  rw [second] at stepped
                  cases stepped
              | ok outcome =>
                  rcases outcome with ⟨final, err, chosen⟩
                  rw [second] at stepped
                  cases err with
                  | some text =>
                      cases stepped
                      exact ⟨job, accounted.steady.quiet (first.trans (secondResets second)).quiet⟩
                  | none =>
                      cases stepped
                      exact accounted.resetAndRequeue (first.trans (secondResets second)) _

/-! ## A completion that counts -/

/-- One task of the job is completed; the job is, if that was the last one. -/
structure Completes (store : Store) (jobid : String) (job : Job) (after : Store) (next : Job) :
    Prop where
  accounted : Accounted after jobid next
  tasks : next.tasks = job.tasks
  count : after.uncompleted job.tasks + 1 = store.uncompleted job.tasks
  finished : next.state = .completed ↔ after.uncompleted job.tasks = 0

/-- The tail of `taskCompleted`, run in a store that differs from the one before
by one completed task and by workflow instances. -/
theorem closeBehindTask_completes {collect : Collect} {qm after : ServerMgr} {ptr : Nat} {err : Err}
    (accounted : Accounted store jobid job) (member : ptr ∈ job.tasks)
    (opened : (store.task ptr).state ≠ .completed)
    (tasks : qm.store.task = (store.withState ptr .completed).task)
    (loaded : Exists fun instances => qm.store.jobs.lookup jobid = some { job with instances })
    (closing : qm.closeBehindTask collect jobid none = .ok (after, err)) :
    Exists fun next => Completes store jobid job after.store next := by
  rcases loaded with ⟨instances, loaded⟩
  have written (other : Nat) : (qm.store.task other) =
      if other = ptr then { store.task ptr with state := .completed } else store.task other := by
    rw [tasks]
    unfold Store.withState Store.modifyTask
    by_cases equal : other = ptr
    · rw [if_pos equal, equal]
      exact Function.update_self ..
    · rw [if_neg equal]
      exact Function.update_of_ne equal ..
  have keeps (other : Nat) : Task.fixed (qm.store.task other) = Task.fixed (store.task other) := by
    rw [written]
    split
    · next equal => rw [equal]; rfl
    · rfl
  have count : qm.store.uncompleted job.tasks + 1 = store.uncompleted job.tasks := by
    refine Store.uncompleted_complete accounted.distinct member opened ?_ ?_
    · rw [written, if_pos rfl]
    · intro other different
      rw [written, if_neg different]
  have running : job.state ≠ .completed := by
    intro done
    have none := accounted.closed done
    omega
  -- Whatever happens to the state of the job, the rest of the invariant is settled here.
  have settled (final : Store) (state : JobState) (sameTasks : final.task = qm.store.task)
      (found : final.jobs.lookup jobid =
        some { job with instances, remainTasks := job.remainTasks + -1, state })
      (finished : state = .completed ↔ qm.store.uncompleted job.tasks = 0) :
      Exists fun next => Completes store jobid job final next := by
    have same : final.uncompleted job.tasks = qm.store.uncompleted job.tasks := by
      unfold Store.uncompleted
      rw [sameTasks]
    refine ⟨_, ⟨found, ?_, accounted.distinct, ?_, ?_, ?_⟩, rfl, ?_, ?_⟩
    · have remain := accounted.remain
      dsimp only
      rw [same]
      omega
    · intro other listed
      have ident := congrArg Prod.fst (keeps other)
      change (qm.store.task other).ident = (store.task other).ident at ident
      rw [sameTasks, ident]
      exact accounted.own other listed
    · intro other listed
      have parent := congrArg (fun fields => fields.2.2.1) (keeps other)
      change (qm.store.task other).scatterParent = (store.task other).scatterParent at parent
      rw [sameTasks, parent]
      exact accounted.plain other listed
    · intro done
      exact same.trans (finished.mp done)
    · rw [same]
      exact count
    · rw [same]
      exact finished
  unfold ServerMgr.closeBehindTask at closing
  dsimp only at closing
  have counted : (qm.store.modifyJob jobid fun job =>
      { job with remainTasks := job.remainTasks + -1 }).jobs.lookup jobid =
        some { job with instances, remainTasks := job.remainTasks + -1 } := by
    rw [Store.modifyJob_lookup, if_pos rfl, loaded]
    rfl
  rw [counted] at closing
  dsimp only at closing
  have remain := accounted.remain
  by_cases more : job.remainTasks + -1 > 0
  · rw [if_pos more] at closing
    cases closing
    refine settled _ job.state (Store.modifyJob_task ..) counted
        ⟨fun done => absurd done running, ?_⟩
    intro none
    omega
  · rw [if_neg more] at closing
    unfold ServerMgr.finalizeJob at closing
    rw [counted] at closing
    dsimp only at closing
    rw [if_neg running] at closing
    cases closing
    refine settled _ .completed ?_ ?_ ⟨fun _ => by omega, fun _ => rfl⟩
    · exact (Store.modifyJob_task ..).trans (Store.modifyJob_task ..)
    · unfold Store.jobSetState
      rw [Store.modifyJob_lookup, if_pos rfl, counted]
      rfl

theorem complete_cases {collect : Collect} {qm after : ServerMgr} {ptr depth : Nat}
    (accounted : Accounted qm.store jobid job) (member : ptr ∈ job.tasks)
    (counting : Counting jobid qm (.complete ptr))
    (stepped : survives (qm.taskCompleted collect (depth + 1) none ptr) = some after) :
    (Exists fun next => Steady qm.store jobid job after.store next) ∨
      Exists fun next => Completes qm.store jobid job after.store next := by
  have own := accounted.own ptr member
  have getJob : qm.store.getJob (qm.store.task ptr).ident.jobId = .ok job := by
    unfold Store.getJob
    rw [own, accounted.loaded]
  unfold ServerMgr.taskCompleted at stepped
  dsimp only at stepped
  split at stepped
  · cases stepped
    exact Or.inl ⟨job, accounted.steady⟩
  next opened =>
  rw [getJob] at stepped
  dsimp only at stepped
  cases named : (qm.store.task ptr).ident.string.2 with
  | some err =>
      rw [named] at stepped
      cases stepped
      exact Or.inl ⟨job, accounted.steady⟩
  | none =>
      rw [named] at stepped
      dsimp only at stepped
      rcases qm.store.taskSetState_cases ptr .completed with
        ⟨same, noError⟩ | ⟨_, other, _⟩ | ⟨_, _, missing, _⟩ | ⟨_, _, _, counted⟩
      · cases result : qm.store.taskSetState ptr .completed with
        | mk store err =>
            rw [result] at stepped same noError
            cases err with
            | none => exact absurd (noError rfl) opened
            | some text =>
                cases stepped
                dsimp only at same
                rw [same]
                exact Or.inl ⟨job, accounted.steady⟩
      · exact absurd rfl other
      · rcases counting with done | found
        · exact absurd done opened
        · rw [missing] at found
          cases found
      · rw [counted, accounted.plain ptr member, own] at stepped
        dsimp only [Option.isNone_none] at stepped
        rw [if_pos rfl] at stepped
        refine Or.inr ?_
        generalize closed : ServerMgr.closeBehindTask collect _ jobid none = result at stepped
        cases result with
        | error halt => cases stepped
        | ok outcome =>
            rcases outcome with ⟨final, err⟩
            cases stepped
            exact closeBehindTask_completes accounted member opened (Store.modifyInstance_task ..)
              (@Store.modifyInstance_job (qm.store.withState ptr .completed) jobid job
                  accounted.loaded _ _) closed

/-! ## Steps and runs -/

theorem step_cases {collect : Collect} {qm after : ServerMgr} {event : Event}
    (accounted : Accounted qm.store jobid job) (counting : Counting jobid qm event)
    (stepped : step collect jobid qm event = some after) :
    (Exists fun next => Steady qm.store jobid job after.store next) ∨
      Exists fun next => Completes qm.store jobid job after.store next := by
  have listed (ptr : Nat) (named : belongs qm.store jobid ptr = true) : ptr ∈ job.tasks := by
    unfold belongs at named
    rw [accounted.loaded] at named
    exact of_decide_eq_true named
  cases event with
  | complete ptr =>
      unfold step at stepped
      dsimp only at stepped
      split at stepped
      · next named => exact complete_cases accounted (listed ptr named) counting stepped
      · cases stepped
  | progress ptr newState =>
      unfold step at stepped
      dsimp only at stepped
      split at stepped
      · next allowed =>
          cases stepped
          exact Or.inl ⟨job, accounted.steady.quiet
              (Store.Quiet.taskSetState allowed.2.2 allowed.2.1)⟩
      · cases stepped
  | suspend permanent =>
      have getJob : qm.store.getJob jobid = .ok job := by
        unfold Store.getJob
        rw [accounted.loaded]
      cases stepped
      unfold ServerMgr.suspendJob
      rw [getJob]
      have unfinished : (if permanent then JobState.failedPermanent else .suspend) ≠
          .completed := by
        cases permanent <;> decide
      have opens : (if (if permanent then JobState.failedPermanent else .suspend) = .failedPermanent
          then
          ProcessState.failedPermanent else .suspend) ≠ .completed := by
        cases permanent <;> decide
      exact Or.inl ⟨_, (accounted.steady.jobSetState unfinished).quiet
          (Store.suspendTasks_quiet opens _ _)⟩
  | resume authorised => exact Or.inl (resume_steady accounted stepped)
  | recompute taskStage => exact Or.inl (recompute_steady accounted counting stepped)
  | resubmit => exact Or.inl (resubmit_steady accounted counting stepped)

theorem step_accounted {collect : Collect} {qm after : ServerMgr} {event : Event}
    (accounted : Accounted qm.store jobid job) (counting : Counting jobid qm event)
    (stepped : step collect jobid qm event = some after) :
    Exists fun next => Accounted after.store jobid next := by
  rcases step_cases accounted counting stepped with ⟨next, steady⟩ | ⟨next, completes⟩
  · exact ⟨next, steady.accounted⟩
  · exact ⟨next, completes.accounted⟩

end

/-! `job.Init` establishes the invariant. -/

section

variable {store after : Store} {jobid : String} {job : Job} {info : Info}

/-- What the loop of `job.Init` does to a task. -/
structure Initialised (jobid : String) (before after : Task) : Prop where
  state : after.state = before.state
  scatterParent : after.scatterParent = before.scatterParent
  own : before.ident.jobId = "" ∨ before.ident.jobId = jobid -> after.ident.jobId = jobid

theorem initRaw_initialised {task next : Task} (accepted : task.initRaw info jobid = .ok next) :
    Initialised jobid task next := by
  have keeps : (Task.init task).state = task.state ∧
      (Task.init task).scatterParent = task.scatterParent := by
    unfold Task.init
    dsimp only
    split
    · exact ⟨rfl, rfl⟩
    · exact ⟨rfl, rfl⟩
  unfold Task.initRaw at accepted
  split at accepted
  · cases accepted
  split at accepted
  · cases accepted
  split at accepted
  · cases accepted
  dsimp only at accepted
  split at accepted
  · cases accepted
  · cases accepted
    refine ⟨keeps.1, keeps.2, ?_⟩
    rintro (empty | named)
    · exact if_pos empty
    · dsimp only
      split
      · rfl
      · exact named

theorem initTasks_spec {tasks : List Nat} (distinct : tasks.Nodup)
    (accepted : store.initTasks info jobid tasks = .ok after) :
    after.jobs = store.jobs ∧
      (forall ptr, ptr ∈ tasks -> Initialised jobid (store.task ptr) (after.task ptr)) ∧
      forall ptr, ptr ∉ tasks -> after.task ptr = store.task ptr := by
  induction tasks generalizing store with
  | nil =>
      cases accepted
      exact ⟨rfl, fun ptr member => absurd member List.not_mem_nil, fun _ _ => rfl⟩
  | cons first rest inductionHypothesis =>
      unfold Store.initTasks at accepted
      cases initialised : (store.task first).initRaw info jobid with
      | error err =>
          rw [initialised] at accepted
          cases accepted
      | ok task =>
          rw [initialised] at accepted
          have fresh := (List.nodup_cons.mp distinct).1
          obtain ⟨jobs, inside, outside⟩ :=
              inductionHypothesis (List.nodup_cons.mp distinct).2 accepted
          have elsewhere (ptr : Nat) (different : ptr ≠ first) :
              (store.modifyTask first fun _ => task).task ptr = store.task ptr :=
            Function.update_of_ne different ..
          refine ⟨jobs, ?_, ?_⟩
          · intro ptr member
            rcases List.mem_cons.mp member with equal | later
            · subst equal
              rw [outside ptr fresh]
              have here : (store.modifyTask ptr fun _ => task).task ptr = task :=
                  Function.update_self ..
              rw [here]
              exact initRaw_initialised initialised
            · have different : ptr ≠ first := fun equal => fresh (equal ▸ later)
              rw [← elsewhere ptr different]
              exact inside ptr later
          · intro ptr missing
            have different : ptr ≠ first := fun equal => missing (equal ▸ List.mem_cons_self)
            rw [outside ptr (fun later => missing (List.mem_cons_of_mem first later))]
            exact elsewhere ptr different

theorem jobInit_accounted (submitted : Submitted store jobid job)
    (accepted : store.jobInit jobid = .ok after) :
    Exists fun next => Accounted after jobid next := by
  unfold Store.jobInit at accepted
  rw [submitted.loaded] at accepted
  dsimp only at accepted
  cases looped : store.initTasks job.info jobid job.tasks with
  | error err =>
      rw [looped] at accepted
      cases accepted
  | ok middle =>
      rw [looped] at accepted
      rcases initTasks_spec submitted.distinct looped with ⟨jobs, inside, _⟩
      have same : middle.uncompleted job.tasks = store.uncompleted job.tasks :=
        Store.uncompleted_congr fun ptr member => by rw [(inside ptr member).state]
      cases accepted
      refine ⟨{ job with remainTasks := middle.uncompleted job.tasks }, ?_, ?_,
          submitted.distinct, ?_, ?_, ?_⟩
      · rw [Store.modifyJob_lookup, if_pos rfl, jobs, submitted.loaded, Option.map_some,
          submitted.oldStyle]
        rfl
      · unfold Store.uncompleted
        rw [Store.modifyJob_task]
      · intro ptr member
        rw [Store.modifyJob_task]
        exact (inside ptr member).own (submitted.own ptr member)
      · intro ptr member
        rw [Store.modifyJob_task, (inside ptr member).scatterParent]
        exact submitted.plain ptr member
      · intro done
        have closed := submitted.closed done
        rw [← same] at closed
        unfold Store.uncompleted at closed ⊢
        rw [Store.modifyJob_task]
        exact closed

end

/-- The number of tasks of the job that are not completed. It is what `RemainTasks` is meant to
be, counted from the tasks themselves. -/
def openTasks (store : Store) (jobid : String) : Nat :=
  match store.jobs.lookup jobid with
  | some job => store.uncompleted job.tasks
  | none => 0

/-- In every state of a counting run `RemainTasks` is the number of open tasks, and a step makes
the job completed exactly if it closes the last of them.  `SetState` asks every completed task for
its workflow instance, which a task of this kind does not have, and the count stands behind the
error. -/
theorem remainTasks_counts {collect : Collect} {jobid : String} {submitted : Store} {job : Job}
    {start qm : ServerMgr} (given : Submitted submitted jobid job)
    (accepted : submitted.jobInit jobid = .ok start.store)
    (reached : Reaches (step collect jobid) (Counting jobid) start qm) :
    (qm.store.jobs.lookup jobid).map Job.remainTasks = some (openTasks qm.store jobid : Int) ∧
    forall event after, Counting jobid qm event -> step collect jobid qm event = some after ->
      ((qm.jobState jobid ≠ some .completed ∧ after.jobState jobid = some .completed) ↔
        (0 < openTasks qm.store jobid ∧ openTasks after.store jobid = 0)) := by
  have invariant : Exists fun job => Accounted qm.store jobid job := by
    refine @Reaches.invariant ServerMgr Event _ _ _
      (fun qm => Exists fun job => Accounted qm.store jobid job)
          (jobInit_accounted given accepted) ?_ _ reached
    rintro before event next ⟨job, accounted⟩ counting stepped
    exact step_accounted accounted counting stepped
  rcases invariant with ⟨job, accounted⟩
  have count {store : Store} {job : Job} (accounted : Accounted store jobid job) :
      openTasks store jobid = store.uncompleted job.tasks := by
    unfold openTasks
    rw [accounted.loaded]
  have stateOf {qm : ServerMgr} {job : Job} (accounted : Accounted qm.store jobid job) :
      qm.jobState jobid = some job.state := by
    unfold ServerMgr.jobState
    rw [accounted.loaded]
    rfl
  refine ⟨?_, fun event after counting stepped => ?_⟩
  · rw [accounted.loaded, count accounted, Option.map_some, accounted.remain]
  · rcases step_cases accounted counting stepped with ⟨next, steady⟩ | ⟨next, completes⟩
    · rw [stateOf accounted, stateOf steady.accounted, count accounted, count steady.accounted,
        steady.tasks, steady.count]
      constructor
      · rintro ⟨running, done⟩
        exact absurd (congrArg some (steady.unfinished (Option.some.inj done))) running
      · rintro ⟨some, none⟩
        omega
    · rw [stateOf accounted, stateOf completes.accounted, count accounted,
        count completes.accounted,
        completes.tasks]
      have counted := completes.count
      constructor
      · rintro ⟨_, done⟩
        exact ⟨by omega, completes.finished.mp (Option.some.inj done)⟩
      · rintro ⟨_, none⟩
        refine ⟨fun done => ?_, congrArg some (completes.finished.mpr none)⟩
        have closed := accounted.closed (Option.some.inj done)
        omega

private def simpleJob : Store where
  task := fun _ =>
    { Task.blank with
      ident := ⟨"t", ""⟩
      globalId := "j_t"
      state := .inProgress }
  nextTask := 1
  jobs := AList.insert "j" ⟨"j", .inProgress, false, "", ⟨1, 0, "", false⟩, [0], 0, ∅, ∅⟩ ∅

private def simpleServer : ServerMgr :=
  .newServerMgr ((simpleJob.jobInit "j").toOption.getD simpleJob)

private def noOutputs : Collect := fun _ _ _ => .error "no outputs"

private theorem simpleJob_submitted :
    Submitted simpleJob "j" ⟨"j", .inProgress, false, "", ⟨1, 0, "", false⟩, [0], 0, ∅, ∅⟩ :=
  ⟨AList.lookup_insert _, rfl, by decide, by decide, by decide, by decide⟩

private theorem simpleJob_accepted : simpleJob.jobInit "j" = .ok simpleServer.store := by
  rfl

/-- The job is suspended and resumed: its task stays open and counted. -/
theorem remainTasks_counts_resumed :
    Reaches (step noOutputs "j") (Counting "j") simpleServer
        (final (step noOutputs "j") simpleServer [.suspend false, .resume true]) ∧
      openTasks (final (step noOutputs "j") simpleServer [.suspend false, .resume true]).store "j" =
          1 ∧
      ((final (step noOutputs "j") simpleServer [.suspend false, .resume true]).store.jobs.lookup
          "j").map
        Job.remainTasks = some 1 := by
  have reached : Reaches (step noOutputs "j") (Counting "j") simpleServer
      (final (step noOutputs "j") simpleServer [.suspend false, .resume true]) := by
    refine Reaches.of_exec [.suspend false, .resume true] ?_ .refl (exec_eq_final (by decide))
    intro event member state
    rcases List.mem_cons.mp member with rfl | later
    · trivial
    · rw [List.mem_singleton.mp later]
      trivial
  have count : openTasks
      (final (step noOutputs "j") simpleServer [.suspend false, .resume true]).store "j" = 1 := by
    decide
  refine ⟨reached, count, ?_⟩
  rw [(remainTasks_counts simpleJob_submitted simpleJob_accepted reached).1, count]
  rfl

/-- The only task completes: no task is open, `RemainTasks` is still one, and
the job is not completed. -/
theorem remainTasks_misses_completion :
    simpleJob.jobInit "j" = .ok simpleServer.store ∧
      Reaches (step noOutputs "j") anyEvent simpleServer
        (final (step noOutputs "j") simpleServer [.complete 0]) ∧
      openTasks simpleServer.store "j" = 1 ∧
      openTasks (final (step noOutputs "j") simpleServer [.complete 0]).store "j" = 0 ∧
      ((final (step noOutputs "j") simpleServer [.complete 0]).store.jobs.lookup "j").map
          Job.remainTasks =
        some 1 ∧
      (final (step noOutputs "j") simpleServer [.complete 0]).jobState "j" ≠ some .completed := by
  refine ⟨simpleJob_accepted, Reaches.of_exec [.complete 0] (fun _ _ _ => trivial) .refl
      (exec_eq_final (by decide)),
    by decide, by decide, by decide, by decide⟩

end OldStyleJobs

end Core
end Awe
