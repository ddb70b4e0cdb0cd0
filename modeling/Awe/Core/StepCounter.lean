import Awe.Core.Scatter

namespace Awe
namespace Core

open Lib Lib.Path

/-!
# The step counter of a workflow instance

`RemainSteps` of a workflow instance is meant to be the number of its tasks
and sub-workflows that are not completed.  It is raised by `AddTask` and
`AddSubworkflow` and lowered by `SetState`, for a task, and by
`completeSubworkflow`, for a sub-workflow of the instance above.

This module states the invariant with what it needs to be preserved: a task is
in the list of the one instance that it names, and a sub-workflow is listed
only by the instance above it.  Each operation on the store has one lemma.
-/

namespace Store

/-- The number of sub-workflows whose instance is not completed. -/
def openSubworkflows (store : Store) (jobid : String) (subworkflows : List String) : Nat :=
  subworkflows.countP fun sub => ¬store.instanceCompleted jobid sub

/-- The steps of an instance that are not completed. -/
def stepsLeft (store : Store) (jobid : String) (wi : WorkflowInstance) : Nat :=
  store.uncompleted wi.tasks + store.openSubworkflows jobid wi.subworkflows

end Store

namespace StepCounter

/-- What is known of one workflow instance. The counter is the statement; the rest is what an
operation has to find to keep it. -/
structure Instance (store : Store) (jobid entrypoint localID : String) (wi : WorkflowInstance) :
    Prop where
  counted : wi.remainSteps = store.stepsLeft jobid wi
  placed : forall ptr, ptr ∈ wi.tasks ->
    ptr < store.nextTask ∧ (store.task ptr).ident.jobId = jobid ∧
        (store.task ptr).workflowInstanceID = localID
  distinct : wi.tasks.Nodup
  once : wi.subworkflows.Nodup
  below : forall sub, sub ∈ wi.subworkflows ->
    Store.parentID sub = localID ∧ localID ≠ "" ∧ sub ≠ entrypoint

/-- The invariant of the store, for one job. Every task is listed in its instance, so that a task
which is completed is one that was counted. -/
structure Counts (store : Store) (jobid entrypoint : String) : Prop where
  loaded : Exists fun job => store.jobs.lookup jobid = some job ∧ job.id = jobid ∧
      job.entrypoint = entrypoint
  instances : forall localID wi, store.instanceOf jobid localID = some wi ->
    Instance store jobid entrypoint localID wi
  listed : forall ptr, ptr < store.nextTask -> (store.task ptr).ident.jobId = jobid ->
    Exists fun wi => store.instanceOf jobid (store.task ptr).workflowInstanceID = some wi ∧
        ptr ∈ wi.tasks
  family : forall ptr, ptr < store.nextTask -> (store.task ptr).ident.jobId = jobid ->
    forall parent, (store.task ptr).scatterParent = some parent -> parent.jobId = jobid

section

variable {store after : Store} {jobid entrypoint localID : String}

theorem openSubworkflows_congr {subworkflows : List String}
    (same : forall sub, sub ∈ subworkflows ->
      after.instanceCompleted jobid sub = store.instanceCompleted jobid sub) :
    after.openSubworkflows jobid subworkflows = store.openSubworkflows jobid subworkflows := by
  apply List.countP_congr
  intro sub member
  rw [same sub member]

/-- Completing one listed sub-workflow takes one off the count. -/
theorem openSubworkflows_complete {subworkflows : List String} {closed : String}
    (once : subworkflows.Nodup) (listed : closed ∈ subworkflows)
    (opened : store.instanceCompleted jobid closed = false)
    (completed : after.instanceCompleted jobid closed = true)
    (others : forall sub, sub ≠ closed ->
      after.instanceCompleted jobid sub = store.instanceCompleted jobid sub) :
    after.openSubworkflows jobid subworkflows + 1 = store.openSubworkflows jobid subworkflows := by
  have rest : after.openSubworkflows jobid (subworkflows.erase closed) =
      store.openSubworkflows jobid (subworkflows.erase closed) := by
    apply openSubworkflows_congr
    intro sub member
    exact others sub ((List.Nodup.mem_erase_iff once).1 member).1
  have order := List.perm_cons_erase listed
  unfold Store.openSubworkflows at rest ⊢
  rw [order.countP_eq, order.countP_eq, List.countP_cons_of_neg (by simp [completed]),
    List.countP_cons_of_pos (by simp [opened]), rest]

theorem instanceCompleted_iff {localID : String} :
    store.instanceCompleted jobid localID = true ↔
      Exists fun wi => store.instanceOf jobid localID = some wi ∧ wi.state = .completed := by
  unfold Store.instanceCompleted
  cases store.instanceOf jobid localID with
  | none => simp
  | some wi => simp

/-! ## Changes that no counter sees -/

/-- The later store has the same instances, up to fields that do not matter
here, and the same tasks are completed in it. -/
structure Unseen (store after : Store) (jobid : String) : Prop where
  job : forall job, store.jobs.lookup jobid = some job ->
    Exists fun next => after.jobs.lookup jobid = some next ∧ next.id = job.id ∧
        next.entrypoint = job.entrypoint
  instances : forall localID, (after.instanceOf jobid localID).map
      (fun wi => (wi.tasks, wi.subworkflows, wi.remainSteps, wi.state = .completed)) =
    (store.instanceOf jobid localID).map
      (fun wi => (wi.tasks, wi.subworkflows, wi.remainSteps, wi.state = .completed))
  nextTask : after.nextTask = store.nextTask
  fixed : forall ptr, Task.fixed (after.task ptr) = Task.fixed (store.task ptr)
  completed : forall ptr, (after.task ptr).state = .completed ↔ (store.task ptr).state = .completed

theorem Unseen.instanceCompleted (unseen : Unseen store after jobid) (localID : String) :
    after.instanceCompleted jobid localID = store.instanceCompleted jobid localID := by
  have same := unseen.instances localID
  unfold Store.instanceCompleted
  cases found : after.instanceOf jobid localID with
  | none =>
      rw [found, Option.map_none] at same
      rw [Option.map_eq_none_iff.mp same.symm]
  | some wi =>
      rw [found, Option.map_some] at same
      rcases Option.map_eq_some_iff.mp same.symm with ⟨before, present, fields⟩
      have state : (before.state = .completed) = (wi.state = .completed) :=
        congrArg (fun fields => fields.2.2.2) fields
      rw [present]
      simp only [state]

theorem Counts.unseen (counts : Counts store jobid entrypoint) (unseen : Unseen store after jobid) :
    Counts after jobid entrypoint := by
  have ident (ptr : Nat) : (after.task ptr).ident = (store.task ptr).ident :=
      congrArg Prod.fst (unseen.fixed ptr)
  have owner (ptr : Nat) :
      (after.task ptr).workflowInstanceID = (store.task ptr).workflowInstanceID :=
    congrArg (fun fields => fields.2.1) (unseen.fixed ptr)
  have parent (ptr : Nat) : (after.task ptr).scatterParent = (store.task ptr).scatterParent :=
    congrArg (fun fields => fields.2.2.1) (unseen.fixed ptr)
  have was (localID : String) (wi : WorkflowInstance)
      (found : after.instanceOf jobid localID = some wi) :
      Exists fun before => store.instanceOf jobid localID = some before ∧
        before.tasks = wi.tasks ∧ before.subworkflows = wi.subworkflows ∧
        before.remainSteps = wi.remainSteps := by
    have same := unseen.instances localID
    rw [found, Option.map_some] at same
    rcases Option.map_eq_some_iff.mp same.symm with ⟨before, present, fields⟩
    exact ⟨before, present, congrArg Prod.fst fields, congrArg (fun fields => fields.2.1) fields,
      congrArg (fun fields => fields.2.2.1) fields⟩
  refine ⟨?_, ?_, ?_, ?_⟩
  · rcases counts.loaded with ⟨job, found, id, entry⟩
    rcases unseen.job job found with ⟨next, foundNext, sameID, sameEntry⟩
    exact ⟨next, foundNext, sameID.trans id, sameEntry.trans entry⟩
  · intro localID wi found
    rcases was localID wi found with ⟨before, present, tasks, subworkflows, remain⟩
    have known := counts.instances localID before present
    refine ⟨?_, ?_, tasks ▸ known.distinct, subworkflows ▸ known.once, subworkflows ▸ known.below⟩
    · rw [← remain, known.counted]
      unfold Store.stepsLeft
      rw [← tasks, ← subworkflows, Store.uncompleted_congr fun ptr _ => unseen.completed ptr,
        openSubworkflows_congr fun sub _ => unseen.instanceCompleted sub]
    · intro ptr member
      rw [← tasks] at member
      rw [ident, owner, unseen.nextTask]
      exact known.placed ptr member
  · intro ptr small own
    rw [ident] at own
    rw [unseen.nextTask] at small
    rcases counts.listed ptr small own with ⟨wi, found, member⟩
    have same := unseen.instances (store.task ptr).workflowInstanceID
    rw [found, Option.map_some] at same
    rcases Option.map_eq_some_iff.mp same with ⟨later, present, fields⟩
    have tasks : later.tasks = wi.tasks := congrArg Prod.fst fields
    exact ⟨later, by rw [owner]; exact present, tasks ▸ member⟩
  · intro ptr small own
    rw [ident] at own
    rw [unseen.nextTask] at small
    rw [parent]
    exact counts.family ptr small own

theorem Unseen.of_quiet (quiet : Store.Quiet store after) (jobid : String) :
    Unseen store after jobid where
  job := fun job found => ⟨job, by rw [quiet.jobs]; exact found, rfl, rfl⟩
  instances := fun localID => by rw [quiet.instanceOf]
  nextTask := quiet.nextTask
  fixed := quiet.fixed
  completed := quiet.completed

theorem modifyJob_loaded {job : Job} (found : store.jobs.lookup jobid = some job) (other : String)
    {change : Job -> Job}
    (keeps : forall job, (change job).id = job.id ∧ (change job).entrypoint = job.entrypoint) :
    Exists fun next => (store.modifyJob other change).jobs.lookup jobid = some next ∧
      next.id = job.id ∧ next.entrypoint = job.entrypoint := by
  rw [Store.modifyJob_lookup]
  by_cases same : jobid = other
  · rw [if_pos same, ← same, found]
    exact ⟨change job, rfl, keeps job⟩
  · rw [if_neg same]
    exact ⟨job, found, rfl, rfl⟩

theorem modifyInstance_loaded {job : Job} (found : store.jobs.lookup jobid = some job)
    (other localID : String) (change : WorkflowInstance -> WorkflowInstance) :
    Exists fun next => (store.modifyInstance other localID change).jobs.lookup jobid = some next ∧
      next.id = job.id ∧ next.entrypoint = job.entrypoint := by
  refine modifyJob_loaded found other fun job => ?_
  cases job.instances.lookup localID with
  | none => exact ⟨rfl, rfl⟩
  | some wi => exact ⟨rfl, rfl⟩

/-- A write to an instance that keeps its steps and whether it is completed. -/
theorem Unseen.modifyInstance (store : Store) (jobid other localID : String)
    {change : WorkflowInstance -> WorkflowInstance}
    (keeps : forall wi, store.instanceOf other localID = some wi ->
      ((change wi).tasks, (change wi).subworkflows, (change wi).remainSteps,
      (change wi).state = .completed) =
        (wi.tasks, wi.subworkflows, wi.remainSteps, wi.state = .completed)) :
    Unseen store (store.modifyInstance other localID change) jobid where
  job := fun _ found => modifyInstance_loaded found other localID change
  instances := fun name => by
    rw [Store.instanceOf_modifyInstance]
    by_cases here : jobid = other ∧ name = localID
    · rw [if_pos here, here.1, here.2, Option.map_map]
      cases found : store.instanceOf other localID with
      | none => rfl
      | some wi => exact congrArg some (keeps wi found)
    · rw [if_neg here]
  nextTask := Store.modifyInstance_nextTask ..
  fixed := fun ptr => by rw [Store.modifyInstance_task]
  completed := fun ptr => by rw [Store.modifyInstance_task]

/-! ## A task that completes -/

/-- Only one task changes, and it becomes completed. Only what counts for a counter is compared;
other fields may have been written too. -/
structure Finishes (store after : Store) (ptr : Nat) : Prop where
  opened : (store.task ptr).state ≠ .completed
  closed : (after.task ptr).state = .completed
  others : forall other, other ≠ ptr ->
    ((after.task other).state = .completed ↔ (store.task other).state = .completed)
  fixed : forall other, Task.fixed (after.task other) = Task.fixed (store.task other)
  nextTask : after.nextTask = store.nextTask

theorem finishes_withState {ptr : Nat} (opened : (store.task ptr).state ≠ .completed)
    (tasks : after.task = (store.withState ptr .completed).task)
    (next : after.nextTask = store.nextTask) :
    Finishes store after ptr := by
  have elsewhere (other : Nat) (different : other ≠ ptr) : after.task other = store.task other := by
    rw [tasks]
    exact Function.update_of_ne different ..
  have here : after.task ptr = { store.task ptr with state := .completed } := by
    rw [tasks]
    exact Function.update_self ..
  refine ⟨opened, by rw [here], fun other different => by rw [elsewhere other different], ?_, next⟩
  intro other
  by_cases same : other = ptr
  · rw [same, here]
    rfl
  · rw [elsewhere other same]

/-- The task completes, and the instance that lists it, if there is one in this
job, counts one step less. -/
theorem Counts.finish {ptr : Nat} (counts : Counts store jobid entrypoint)
    (allocated : ptr < store.nextTask) (finishes : Finishes store after ptr)
    (job : forall job, store.jobs.lookup jobid = some job ->
      Exists fun next => after.jobs.lookup jobid = some next ∧ next.id = job.id ∧
        next.entrypoint = job.entrypoint)
    (instances : forall localID, after.instanceOf jobid localID =
        (store.instanceOf jobid localID).map fun wi =>
      if (store.task ptr).ident.jobId = jobid ∧ (store.task ptr).workflowInstanceID = localID then
        { wi with remainSteps := wi.remainSteps + -1 }
      else wi) :
    Counts after jobid entrypoint := by
  have ident (other : Nat) : (after.task other).ident = (store.task other).ident :=
    congrArg Prod.fst (finishes.fixed other)
  have owner (other : Nat) : (after.task other).workflowInstanceID =
      (store.task other).workflowInstanceID :=
    congrArg (fun fields => fields.2.1) (finishes.fixed other)
  have parent (other : Nat) : (after.task other).scatterParent = (store.task other).scatterParent :=
    congrArg (fun fields => fields.2.2.1) (finishes.fixed other)
  have completed (localID : String) :
      after.instanceCompleted jobid localID = store.instanceCompleted jobid localID := by
    unfold Store.instanceCompleted
    rw [instances]
    cases store.instanceOf jobid localID with
    | none => rfl
    | some wi =>
        simp only [Option.map_some]
        split <;> rfl
  refine ⟨?_, ?_, ?_, ?_⟩
  · rcases counts.loaded with ⟨job', found, id, entry⟩
    rcases job job' found with ⟨next, foundNext, sameID, sameEntry⟩
    exact ⟨next, foundNext, sameID.trans id, sameEntry.trans entry⟩
  · intro localID wi found
    rw [instances] at found
    rcases Option.map_eq_some_iff.mp found with ⟨before, present, rfl⟩
    have known := counts.instances localID before present
    have left : after.openSubworkflows jobid before.subworkflows =
        store.openSubworkflows jobid before.subworkflows :=
            openSubworkflows_congr fun sub _ => completed sub
    have placed (other : Nat) (member : other ∈ before.tasks) : other < after.nextTask ∧
        (after.task other).ident.jobId = jobid ∧
            (after.task other).workflowInstanceID = localID := by
      rw [ident, owner, finishes.nextTask]
      exact known.placed other member
    by_cases here : (store.task ptr).ident.jobId = jobid ∧
        (store.task ptr).workflowInstanceID = localID
    · -- The task is in the list of this instance, so both sides lose one.
      rcases counts.listed ptr allocated here.1 with ⟨own, foundOwn, member⟩
      rw [here.2, present] at foundOwn
      cases foundOwn
      have tasks := Store.uncompleted_complete known.distinct member finishes.opened finishes.closed
        finishes.others
      simp only [if_pos here]
      refine ⟨?_, placed, known.distinct, known.once, known.below⟩
      have counted := known.counted
      unfold Store.stepsLeft at counted ⊢
      dsimp only at counted ⊢
      rw [left, counted, ← tasks]
      push_cast
      omega
    · -- The task is in no list of another instance.
      have missing : ptr ∉ before.tasks := fun member => here (known.placed ptr member).2
      have tasks : after.uncompleted before.tasks = store.uncompleted before.tasks :=
        Store.uncompleted_congr fun other member =>
          finishes.others other (fun same => missing (same ▸ member))
      simp only [if_neg here]
      refine ⟨?_, placed, known.distinct, known.once, known.below⟩
      have counted := known.counted
      unfold Store.stepsLeft at counted ⊢
      rw [left, tasks, counted]
  · intro other small own
    rw [ident] at own
    rw [finishes.nextTask] at small
    rcases counts.listed other small own with ⟨wi, found, member⟩
    rw [owner, instances, found]
    refine ⟨_, rfl, ?_⟩
    split <;> exact member
  · intro other small own
    rw [ident] at own
    rw [finishes.nextTask] at small
    rw [parent]
    exact counts.family other small own

/-- `SetState` keeps the invariant unless it takes a task back from completed. -/
theorem Counts.taskSetState {ptr : Nat} {newState : ProcessState}
    (counts : Counts store jobid entrypoint) (allocated : ptr < store.nextTask)
    (kept : (store.task ptr).state = .completed -> newState = .completed) :
    Counts (store.taskSetState ptr newState).1 jobid entrypoint := by
  by_cases opens : newState = .completed
  · subst opens
    rcases store.taskSetState_cases ptr .completed with ⟨same, _⟩ | ⟨_, other, _⟩ |
      ⟨opened, _, missing, wrote, _⟩ | ⟨opened, _, _, counted⟩
    · rw [same]
      exact counts
    · exact absurd rfl other
    · -- Without an instance nothing is counted, and no instance lists the task.
      rw [wrote]
      refine counts.finish allocated (finishes_withState opened rfl rfl)
        (fun job found => ⟨job, found, rfl, rfl⟩) fun localID => ?_
      change store.instanceOf jobid localID = _
      cases found : store.instanceOf jobid localID with
      | none => rfl
      | some wi =>
          rw [Option.map_some, if_neg]
          rintro ⟨own, named⟩
          rw [own, named, found] at missing
          cases missing
    · rw [counted]
      refine counts.finish allocated
        (finishes_withState opened (Store.modifyInstance_task ..)
            (Store.modifyInstance_nextTask ..))
        (fun job found => @modifyInstance_loaded (store.withState ptr .completed) jobid
            job found _ _ _)
        fun localID => ?_
      unfold Store.incrementRemainSteps
      rw [Store.instanceOf_modifyInstance]
      change (if _ then Option.map _ (store.instanceOf _ _) else store.instanceOf jobid localID) = _
      by_cases here : jobid = (store.task ptr).ident.jobId ∧
          localID = (store.task ptr).workflowInstanceID
      · rw [if_pos here, ← here.1, ← here.2]
        simp only [and_self, if_true]
      · rw [if_neg here]
        have away : ¬((store.task ptr).ident.jobId = jobid ∧
            (store.task ptr).workflowInstanceID = localID) :=
                fun both => here ⟨both.1.symm, both.2.symm⟩
        simp only [if_neg away, Option.map_id']
  · exact counts.unseen (Unseen.of_quiet
      (Store.Quiet.taskSetState opens fun done => opens (kept done)) jobid)

/-! ## New tasks and instances -/

/-- What `AddTask` does: a new task object at the end of the list of one instance. -/
structure TaskAdded (store after : Store) (jobid localID : String) (wi : WorkflowInstance)
    (task : Task) :
    Prop where
  found : store.instanceOf jobid localID = some wi
  lookup : forall other, after.instanceOf jobid other =
    if other = localID then
      some { wi with remainSteps := wi.remainSteps + 1, tasks := wi.tasks ++ [store.nextTask] }
    else store.instanceOf jobid other
  task : after.task = Function.update store.task store.nextTask task
  nextTask : after.nextTask = store.nextTask + 1
  job : forall job, store.jobs.lookup jobid = some job ->
    Exists fun next => after.jobs.lookup jobid = some next ∧ next.id = job.id ∧
        next.entrypoint = job.entrypoint

theorem addTask_adds {task : Task} {ptr : Nat}
    (added : store.addTask jobid localID task = .ok (after, ptr)) :
    ptr = store.nextTask ∧ Exists fun wi => TaskAdded store after jobid localID wi task := by
  unfold Store.addTask at added
  cases found : store.instanceOf jobid localID with
  | none =>
      rw [found] at added
      cases added
  | some wi =>
      rw [found] at added
      dsimp only at added
      split at added
      · cases added
      split at added
      · cases added
      rcases Prod.mk.inj (Except.ok.inj added) with ⟨rfl, rfl⟩
      refine ⟨rfl, wi, found, ?_, Store.modifyInstance_task .., Store.modifyInstance_nextTask ..,
        fun job present => @modifyInstance_loaded (store.allocTask task).1 jobid job present ..⟩
      intro other
      rw [Store.instanceOf_modifyInstance]
      change (if _ then Option.map _ (store.instanceOf jobid localID) else
          store.instanceOf jobid other) = _
      by_cases same : other = localID
      · rw [if_pos ⟨rfl, same⟩, if_pos same, found]
        rfl
      · rw [if_neg (fun both => same both.2), if_neg same]

namespace TaskAdded

variable {wi : WorkflowInstance} {task : Task}

theorem new (added : TaskAdded store after jobid localID wi task) :
    after.task store.nextTask = task := by
  rw [added.task]
  exact Function.update_self ..

theorem old (added : TaskAdded store after jobid localID wi task) {ptr : Nat}
    (small : ptr < store.nextTask) :
    after.task ptr = store.task ptr := by
  rw [added.task]
  exact Function.update_of_ne (Nat.ne_of_lt small) ..

theorem uncompleted_old (added : TaskAdded store after jobid localID wi task) {tasks : List Nat}
    (small : forall ptr, ptr ∈ tasks -> ptr < store.nextTask) :
    after.uncompleted tasks = store.uncompleted tasks :=
  Store.uncompleted_congr fun ptr member => by rw [added.old (small ptr member)]

theorem instanceCompleted (added : TaskAdded store after jobid localID wi task) (name : String) :
    after.instanceCompleted jobid name = store.instanceCompleted jobid name := by
  unfold Store.instanceCompleted
  rw [added.lookup]
  by_cases same : name = localID
  · rw [if_pos same, same, added.found]
  · rw [if_neg same]

theorem openSubworkflows (added : TaskAdded store after jobid localID wi task)
    (subworkflows : List String) :
    after.openSubworkflows jobid subworkflows = store.openSubworkflows jobid subworkflows :=
  openSubworkflows_congr fun name _ => added.instanceCompleted name

/-- The instance that got the task. -/
theorem instance_here (added : TaskAdded store after jobid localID wi task)
    (known : Instance store jobid entrypoint localID wi) (opened : task.state ≠ .completed)
    (own : task.ident.jobId = jobid) (named : task.workflowInstanceID = localID) :
    Instance after jobid entrypoint localID
      { wi with remainSteps := wi.remainSteps + 1, tasks := wi.tasks ++ [store.nextTask] } := by
  refine ⟨?_, ?_, ?_, known.once, known.below⟩
  · have counted := known.counted
    have old := added.uncompleted_old fun ptr member => (known.placed ptr member).1
    unfold Store.stepsLeft at counted ⊢
    dsimp only
    rw [added.openSubworkflows, counted]
    unfold Store.uncompleted at old ⊢
    rw [List.countP_append, List.countP_singleton, old,
        if_pos (by rw [added.new]; simpa using opened)]
    push_cast
    omega
  · intro ptr member
    rw [added.nextTask]
    rcases List.mem_append.mp member with earlier | fresh
    · have placed := known.placed ptr earlier
      rw [added.old placed.1]
      exact ⟨by omega, placed.2⟩
    · rw [List.mem_singleton.mp fresh, added.new]
      exact ⟨by omega, own, named⟩
  · refine List.nodup_append.mpr ⟨known.distinct, List.nodup_singleton _, ?_⟩
    intro ptr earlier fresh member equal
    have small := (known.placed ptr earlier).1
    rw [List.mem_singleton] at member
    omega

theorem instance_elsewhere (added : TaskAdded store after jobid localID wi task) {name : String}
    {other : WorkflowInstance} (known : Instance store jobid entrypoint name other) :
    Instance after jobid entrypoint name other := by
  refine ⟨?_, ?_, known.distinct, known.once, known.below⟩
  · rw [known.counted]
    unfold Store.stepsLeft
    rw [added.openSubworkflows, added.uncompleted_old fun ptr member => (known.placed ptr member).1]
  · intro ptr member
    have placed := known.placed ptr member
    rw [added.nextTask, added.old placed.1]
    exact ⟨by omega, placed.2⟩

end TaskAdded

/-- A new task that names the instance it is added to. -/
theorem Counts.addTask {task : Task} {ptr : Nat} (counts : Counts store jobid entrypoint)
    (opened : task.state ≠ .completed) (own : task.ident.jobId = jobid)
    (named : task.workflowInstanceID = localID)
    (family : forall parent, task.scatterParent = some parent -> parent.jobId = jobid)
    (done : store.addTask jobid localID task = .ok (after, ptr)) :
    Counts after jobid entrypoint ∧ ptr < after.nextTask ∧ after.task ptr = task := by
  rcases addTask_adds done with ⟨rfl, wi, added⟩
  have next := added.nextTask
  refine ⟨⟨?_, ?_, ?_, ?_⟩, by omega, added.new⟩
  · rcases counts.loaded with ⟨job, present, id, entry⟩
    rcases added.job job present with ⟨last, foundLast, sameID, sameEntry⟩
    exact ⟨last, foundLast, sameID.trans id, sameEntry.trans entry⟩
  · intro name other foundOther
    rw [added.lookup] at foundOther
    by_cases same : name = localID
    · rw [if_pos same] at foundOther
      cases foundOther
      exact same ▸ added.instance_here (counts.instances localID wi added.found) opened own named
    · rw [if_neg same] at foundOther
      exact added.instance_elsewhere (counts.instances name other foundOther)
  · intro other small ownOther
    by_cases fresh : other = store.nextTask
    · subst fresh
      rw [added.new, named, added.lookup, if_pos rfl]
      exact ⟨_, rfl, List.mem_append_right _ List.mem_cons_self⟩
    · have old : other < store.nextTask := by omega
      rw [added.old old] at ownOther ⊢
      rcases counts.listed other old ownOther with ⟨listing, foundListing, member⟩
      rw [added.lookup]
      by_cases same : (store.task other).workflowInstanceID = localID
      · rw [if_pos same]
        rw [same, added.found] at foundListing
        cases foundListing
        exact ⟨_, rfl, List.mem_append_left _ member⟩
      · rw [if_neg same]
        exact ⟨listing, foundListing, member⟩
  · intro other small ownOther
    by_cases fresh : other = store.nextTask
    · subst fresh
      rw [added.new]
      exact family
    · have old : other < store.nextTask := by omega
      rw [added.old old] at ownOther ⊢
      exact counts.family other old ownOther

theorem addSubworkflow_lookup (localID sub name : String) :
    (store.addSubworkflow jobid localID sub).instanceOf jobid name =
        (store.instanceOf jobid name).map fun wi =>
      if name = localID then
        { wi with subworkflows := wi.subworkflows ++ [sub], remainSteps := wi.remainSteps + 1 }
      else wi := by
  unfold Store.addSubworkflow
  rw [Store.instanceOf_modifyInstance]
  by_cases same : name = localID
  · rw [if_pos ⟨rfl, same⟩, same]
    simp only [if_true]
  · rw [if_neg (fun both => same both.2)]
    simp only [if_neg same, Option.map_id']

theorem addSubworkflow_instanceCompleted (localID sub name : String) :
    (store.addSubworkflow jobid localID sub).instanceCompleted jobid name =
      store.instanceCompleted jobid name := by
  unfold Store.instanceCompleted
  rw [addSubworkflow_lookup]
  cases store.instanceOf jobid name with
  | none => rfl
  | some wi =>
      simp only [Option.map_some]
      split <;> rfl

/-- A sub-workflow that belongs below the instance, is not listed yet and is not completed. -/
theorem Counts.addSubworkflow {sub : String} (counts : Counts store jobid entrypoint)
    (below : Store.parentID sub = localID) (named : localID ≠ "") (notMain : sub ≠ entrypoint)
    (fresh : forall wi, store.instanceOf jobid localID = some wi -> sub ∉ wi.subworkflows)
    (opened : store.instanceCompleted jobid sub = false) :
    Counts (store.addSubworkflow jobid localID sub) jobid entrypoint := by
  have lookup := @addSubworkflow_lookup store jobid localID sub
  have tasks : (store.addSubworkflow jobid localID sub).task = store.task :=
      Store.modifyInstance_task ..
  have next : (store.addSubworkflow jobid localID sub).nextTask = store.nextTask :=
    Store.modifyInstance_nextTask ..
  have loaded (job : Job) (present : store.jobs.lookup jobid = some job) :
      Exists fun later => (store.addSubworkflow jobid localID sub).jobs.lookup jobid = some later ∧
        later.id = job.id ∧ later.entrypoint = job.entrypoint :=
    modifyInstance_loaded present ..
  have completed := @addSubworkflow_instanceCompleted store jobid localID sub
  generalize store.addSubworkflow jobid localID sub = later at *
  refine ⟨?_, ?_, ?_, ?_⟩
  · rcases counts.loaded with ⟨job, present, id, entry⟩
    rcases loaded job present with ⟨last, foundLast, sameID, sameEntry⟩
    exact ⟨last, foundLast, sameID.trans id, sameEntry.trans entry⟩
  · intro name other foundOther
    rw [lookup] at foundOther
    rcases Option.map_eq_some_iff.mp foundOther with ⟨wi, present, rfl⟩
    have known := counts.instances name wi present
    have counted := known.counted
    have placed := known.placed
    rw [← tasks, ← next] at placed
    have left : later.uncompleted wi.tasks = store.uncompleted wi.tasks := by
      unfold Store.uncompleted
      rw [tasks]
    have subs : later.openSubworkflows jobid wi.subworkflows = store.openSubworkflows jobid
        wi.subworkflows :=
      openSubworkflows_congr fun sub _ => completed sub
    by_cases same : name = localID
    · simp only [if_pos same]
      refine ⟨?_, placed, known.distinct, ?_, ?_⟩
      · unfold Store.stepsLeft at counted ⊢
        dsimp only
        unfold Store.openSubworkflows at subs counted ⊢
        rw [left, List.countP_append, List.countP_singleton, subs, counted,
          if_pos (by rw [completed, opened]; rfl)]
        push_cast
        omega
      · refine List.nodup_append.mpr ⟨known.once, List.nodup_singleton _, ?_⟩
        intro listed earlier new member equal
        rw [List.mem_singleton] at member
        exact fresh wi (same ▸ present) (member ▸ equal ▸ earlier)
      · intro listed member
        rcases List.mem_append.mp member with earlier | new
        · exact known.below listed earlier
        · rw [List.mem_singleton.mp new]
          exact ⟨below.trans same.symm, same ▸ named, notMain⟩
    · simp only [if_neg same]
      refine ⟨?_, placed, known.distinct, known.once, known.below⟩
      unfold Store.stepsLeft at counted ⊢
      rw [left, subs, counted]
  · intro ptr small own
    rw [next] at small
    rw [tasks] at own ⊢
    rcases counts.listed ptr small own with ⟨wi, found, member⟩
    rw [lookup, found]
    refine ⟨_, rfl, ?_⟩
    split <;> exact member
  · intro ptr small own
    rw [next] at small
    rw [tasks] at own ⊢
    exact counts.family ptr small own

theorem addWorkflowInstance_instanceCompleted (wi : WorkflowInstance) (name : String) :
    (store.addWorkflowInstance jobid wi).instanceCompleted jobid name = store.instanceCompleted
        jobid name := by
  unfold Store.instanceCompleted
  rw [store.instanceOf_addWorkflowInstance jobid wi jobid]
  by_cases new : jobid = jobid ∧ name = wi.localID ∧ (store.jobs.lookup jobid).isSome ∧
      store.instanceOf jobid wi.localID = none
  · rw [if_pos new, new.2.1, new.2.2.2]
    rfl
  · rw [if_neg new]

/-- A new instance without steps. -/
theorem Counts.addWorkflowInstance {wi : WorkflowInstance} (counts : Counts store jobid entrypoint)
    (tasks : wi.tasks = []) (subworkflows : wi.subworkflows = []) (remain : wi.remainSteps = 0) :
    Counts (store.addWorkflowInstance jobid wi) jobid entrypoint := by
  have lookup := store.instanceOf_addWorkflowInstance jobid wi jobid
  have tasksAfter : (store.addWorkflowInstance jobid wi).task = store.task :=
      Store.modifyJob_task ..
  have next : (store.addWorkflowInstance jobid wi).nextTask = store.nextTask :=
      Store.modifyJob_nextTask ..
  have loaded (job : Job) (present : store.jobs.lookup jobid = some job) :
      Exists fun later => (store.addWorkflowInstance jobid wi).jobs.lookup jobid = some later ∧
        later.id = job.id ∧ later.entrypoint = job.entrypoint := by
    refine modifyJob_loaded present jobid fun job => ?_
    cases job.instances.lookup wi.localID with
    | none => exact ⟨rfl, rfl⟩
    | some _ => exact ⟨rfl, rfl⟩
  have completed := @addWorkflowInstance_instanceCompleted store jobid wi
  generalize store.addWorkflowInstance jobid wi = later at *
  have left (tasks : List Nat) : later.uncompleted tasks = store.uncompleted tasks := by
    unfold Store.uncompleted
    rw [tasksAfter]
  have subs (names : List String) : later.openSubworkflows jobid names = store.openSubworkflows
      jobid names :=
    openSubworkflows_congr fun sub _ => completed sub
  refine ⟨?_, ?_, ?_, ?_⟩
  · rcases counts.loaded with ⟨job, present, id, entry⟩
    rcases loaded job present with ⟨last, foundLast, sameID, sameEntry⟩
    exact ⟨last, foundLast, sameID.trans id, sameEntry.trans entry⟩
  · intro name other foundOther
    rw [lookup] at foundOther
    split at foundOther
    · cases foundOther
      refine ⟨?_, ?_, ?_, ?_, ?_⟩
      · unfold Store.stepsLeft Store.uncompleted Store.openSubworkflows
        simp [tasks, subworkflows, remain]
      · intro ptr member
        simp [tasks] at member
      · simp [tasks]
      · simp [subworkflows]
      · intro sub member
        simp [subworkflows] at member
    · have known := counts.instances name other foundOther
      refine ⟨?_, ?_, known.distinct, known.once, known.below⟩
      · rw [known.counted]
        unfold Store.stepsLeft
        rw [left, subs]
      · rw [tasksAfter, next]
        exact known.placed
  · intro ptr small own
    rw [next] at small
    rw [tasksAfter] at own ⊢
    rcases counts.listed ptr small own with ⟨listing, found, member⟩
    refine ⟨listing, ?_, member⟩
    rw [lookup, if_neg]
    · exact found
    · rintro ⟨_, same, _, missing⟩
      rw [same, missing] at found
      cases found
  · intro ptr small own
    rw [next] at small
    rw [tasksAfter] at own ⊢
    exact counts.family ptr small own

/-- The instance `localID` becomes completed, and `drop` is added to the
counters of the others. -/
structure Closes (store after : Store) (jobid localID : String) (drop : String -> Int) : Prop where
  lookup : forall name, after.instanceOf jobid name = (store.instanceOf jobid name).map fun wi =>
    { wi with
      state := if name = localID then .completed else wi.state
      remainSteps := wi.remainSteps + drop name }
  task : after.task = store.task
  nextTask : after.nextTask = store.nextTask
  job : forall job, store.jobs.lookup jobid = some job ->
    Exists fun next => after.jobs.lookup jobid = some next ∧ next.id = job.id ∧
        next.entrypoint = job.entrypoint

theorem Closes.instanceCompleted {drop : String -> Int}
    (closes : Closes store after jobid localID drop) {wi : WorkflowInstance}
    (found : store.instanceOf jobid localID = some wi) (name : String) :
    after.instanceCompleted jobid name = if name = localID then true else
        store.instanceCompleted jobid name := by
  unfold Store.instanceCompleted
  rw [closes.lookup]
  by_cases same : name = localID
  · rw [if_pos same, same, found]
    simp
  · simp only [if_neg same]
    cases store.instanceOf jobid name with
    | none => rfl
    | some other => rfl

/-- The counters stay right if exactly the instances that list the closed one count down. -/
theorem Counts.close {drop : String -> Int} {wi : WorkflowInstance}
    (counts : Counts store jobid entrypoint) (found : store.instanceOf jobid localID = some wi)
    (opened : wi.state ≠ .completed) (closes : Closes store after jobid localID drop)
    (listing : forall name other, store.instanceOf jobid name = some other ->
      drop name = if localID ∈ other.subworkflows then -1 else 0) :
    Counts after jobid entrypoint := by
  have completed := closes.instanceCompleted found
  have notYet : store.instanceCompleted jobid localID = false := by
    unfold Store.instanceCompleted
    rw [found]
    simpa using opened
  refine ⟨?_, ?_, ?_, ?_⟩
  · rcases counts.loaded with ⟨job, present, id, entry⟩
    rcases closes.job job present with ⟨last, foundLast, sameID, sameEntry⟩
    exact ⟨last, foundLast, sameID.trans id, sameEntry.trans entry⟩
  · intro name other foundOther
    rw [closes.lookup] at foundOther
    rcases Option.map_eq_some_iff.mp foundOther with ⟨before, present, rfl⟩
    have known := counts.instances name before present
    have counted := known.counted
    refine ⟨?_, ?_, known.distinct, known.once, known.below⟩
    · have left : after.uncompleted before.tasks = store.uncompleted before.tasks := by
        unfold Store.uncompleted
        rw [closes.task]
      unfold Store.stepsLeft at counted ⊢
      dsimp only
      rw [left, listing name before present, counted]
      by_cases listed : localID ∈ before.subworkflows
      · have subs := openSubworkflows_complete known.once listed notYet
          (by rw [completed, if_pos rfl])
          (fun sub different => by rw [completed, if_neg different])
        rw [if_pos listed, ← subs]
        push_cast
        omega
      · have subs : after.openSubworkflows jobid before.subworkflows =
            store.openSubworkflows jobid before.subworkflows :=
          openSubworkflows_congr fun sub member => by
            have different : sub ≠ localID := fun same => listed (same ▸ member)
            rw [completed, if_neg different]
        rw [if_neg listed, subs]
        omega
    · rw [closes.task, closes.nextTask]
      exact known.placed
  · intro ptr small own
    rw [closes.nextTask] at small
    rw [closes.task] at own ⊢
    rcases counts.listed ptr small own with ⟨listed, foundListed, member⟩
    rw [closes.lookup, foundListed]
    exact ⟨_, rfl, member⟩
  · intro ptr small own
    rw [closes.nextTask] at small
    rw [closes.task] at own ⊢
    exact counts.family ptr small own

end

end StepCounter

end Core
end Awe
