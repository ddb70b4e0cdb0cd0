import Awe.Core.StepCounter
import Awe.Lib.Fallible
import Awe.Lib.Runs

namespace Awe
namespace Core

open Lib Lib.Path

/-!
# Runs of a CWL job

The operations that create, move and complete the steps of a CWL job, in any
order.  Along a run whose steps meet `Counting`, every workflow instance has as
many `RemainSteps` as steps that are not completed.  Three kinds of steps are
left out: a completed task that is sent back, for which nobody counts up; an
entry in `Subworkflows` that no completion will take off; and the completion
of an instance that the one above does not list, which is what the children of
a scattered sub-workflow are.

Whatever the counters say, an instance becomes completed only when all its
steps are: `completeSubworkflow` looks at the steps themselves.
-/

namespace StepCounter

/-- A task of a workflow step, as `updateWorkflowInstancesMapTask` makes it. -/
def createTask (qm : ServerMgr) (jobid localID stepnameBase : String) (step : WorkflowStep) :
    ServerMgr × Err :=
  match qm.store.jobs.lookup jobid, qm.store.instanceOf jobid localID with
  | some job, some wi =>
      match newTask job wi.uuid localID stepnameBase with
      | .error err => (qm, some ("(updateWorkflowInstancesMapTask) NewTask returned: " ++ err))
      | .ok aweTask =>
          let aweTask := Task.init { aweTask with
            processType := if step.scatter = [] then .normal else .scatter
            workflowStep := some step }
          match qm.store.addTask jobid localID aweTask with
          | .error err =>
              (qm, some ("(updateWorkflowInstancesMapTask) workflowInstance.AddTask returned: " ++
                  err))
          | .ok (store, ptr) =>
              match { qm with store }.taskMapAdd ptr "updateWorkflowInstancesMapTask" with
              | (qm, some err) =>
                  (qm, some ("(updateWorkflowInstancesMapTask) qm.TaskMap.Add returned: " ++ err))
              | (qm, none) => (qm, none)
  | _, _ => (qm, some "(updateWorkflowInstancesMapTask) GetJob failed: not found")

/-- The children of a scatter step, for any list of index tuples. -/
def expand (qm : ServerMgr) (jobid parentID : String) (spare : Nat) (order : Nat -> List String)
    (uuids : Nat -> String) (counters : List (List Nat)) (process : ProcessInstance) : ServerMgr :=
  match qm.store.jobs.lookup jobid, qm.store.instanceOf jobid parentID,
      qm.store.processStep jobid process with
  | some job, some parent, some step =>
      (qm.scatterChildren spare order uuids jobid parentID job parent step counters process).1
  | _, _, _ => qm

inductive Event where
  | addWorkflowInstance (uuid localID workflowDefinition : String)
  | setInstanceState (localID : String) (newState : ProcessState)
  | createTask (localID stepnameBase : String) (step : WorkflowStep)
  | addSubworkflow (localID subworkflow : String)
  | scatter (parentID : String) (spare : Nat) (order : Nat -> List String) (uuids : Nat -> String)
      (counters : List (List Nat)) (process : ProcessInstance)
  | setState (ptr : Nat) (newState : ProcessState)
  | resetTask (ptr : Nat)
  | taskCompleted (ptr : Nat)
  | completeSubworkflow (localID : String)

section

variable (collect : Collect) (jobid : String)

/-- The task exists and belongs to the job. -/
def ofJob (qm : ServerMgr) (ptr : Nat) : Bool :=
  ptr < qm.store.nextTask ∧ (qm.store.task ptr).ident.jobId = jobid

def step (qm : ServerMgr) : Event -> Option ServerMgr
  | .addWorkflowInstance uuid localID workflowDefinition =>
      some { qm with
        store := qm.store.addWorkflowInstance jobid
          (newWorkflowInstance uuid localID jobid workflowDefinition) }
  | .setInstanceState localID newState =>
      if newState ≠ .completed ∧ qm.store.instanceCompleted jobid localID = false then
        some { qm with store := qm.store.setInstanceState jobid localID newState }
      else none
  | .createTask localID stepnameBase workflowStep =>
      some (createTask qm jobid localID stepnameBase workflowStep).1
  | .addSubworkflow localID subworkflow =>
      some { qm with store := qm.store.addSubworkflow jobid localID subworkflow }
  | .scatter parentID spare order uuids counters process =>
      some (expand qm jobid parentID spare order uuids counters process)
  | .setState ptr newState =>
      if ofJob jobid qm ptr then some { qm with store := (qm.store.taskSetState ptr newState).1 }
          else none
  | .resetTask ptr =>
      if ofJob jobid qm ptr then some { qm with store := (qm.store.resetTaskTrue ptr).1 } else none
  | .taskCompleted ptr =>
      if ofJob jobid qm ptr then
        survives (qm.taskCompleted collect (qm.store.nextTask + 1)
          (some (qm.store.task ptr).workflowInstanceID) ptr)
      else none
  | .completeSubworkflow localID =>
      survives (ServerMgr.completeSubworkflow collect (qm.depthOf jobid) qm jobid localID)

/-- The instance above `localID`, if there is one, lists it, unless `localID` is
the main instance. -/
def Anchored (store : Store) (entrypoint localID : String) : Prop :=
  localID = entrypoint ∨ forall above, store.instanceOf jobid
      (Store.parentID localID) = some above ->
    localID ∈ above.subworkflows

/-- The steps that keep the counters right. The condition is on the event and the state in which
it happens; none of it mentions the counters. -/
def Counting (entrypoint : String) (qm : ServerMgr) : Event -> Prop
  | .addSubworkflow localID subworkflow =>
      Store.parentID subworkflow = localID ∧ localID ≠ "" ∧ subworkflow ≠ entrypoint ∧
        (forall wi, qm.store.instanceOf jobid localID = some wi -> subworkflow ∉ wi.subworkflows) ∧
        qm.store.instanceCompleted jobid subworkflow = false
  | .scatter parentID _ _ _ _ process =>
      match process with
      | .task ptr => ofJob jobid qm ptr ∧
          trimSuffix (qm.store.processIDStr process) ("/" ++ base (qm.store.processIDStr process)) =
              parentID
      | .workflowInstance _ => True
  | .setState ptr newState => (qm.store.task ptr).state = .completed -> newState = .completed
  | .resetTask ptr => qm.store.Resettable ptr
  | .taskCompleted ptr =>
      forall n, Anchored jobid qm.store entrypoint
        (Nat.iterate Store.parentID n (qm.store.task ptr).workflowInstanceID)
  | .completeSubworkflow localID => forall n, Anchored jobid qm.store entrypoint
      (Nat.iterate Store.parentID n localID)
  | _ => True

end

/-- The invariant of the server: the counters are right, and the task map knows
tasks under their own names. -/
structure Counted (qm : ServerMgr) (jobid entrypoint : String) : Prop where
  counts : Counts qm.store jobid entrypoint
  mapped : forall id ptr, qm.taskMap.lookup id = some ptr ->
    ptr < qm.store.nextTask ∧ (qm.store.task ptr).ident = id

/-! ## Steps that only complete things -/

/-- Tasks and instances may become completed, the lists stay, and an instance
that becomes completed has no step left. -/
structure Progress (store after : Store) (jobid : String) : Prop where
  fixed : forall ptr, Task.fixed (after.task ptr) = Task.fixed (store.task ptr)
  nextTask : after.nextTask = store.nextTask
  tasks : forall ptr, (store.task ptr).state = .completed -> (after.task ptr).state = .completed
  lists : forall name, (after.instanceOf jobid name).map (fun wi => (wi.tasks, wi.subworkflows)) =
    (store.instanceOf jobid name).map fun wi => (wi.tasks, wi.subworkflows)
  completed : forall name, store.instanceCompleted jobid name = true ->
      after.instanceCompleted jobid name = true
  earned : forall name wi, after.instanceOf jobid name = some wi -> wi.state = .completed ->
    store.instanceCompleted jobid name = true ∨ after.stepsLeft jobid wi = 0

section

variable {store middle after : Store} {jobid entrypoint : String}

/-- Completing things can only lower the number of steps that are left. -/
theorem stepsLeft_le {first second : WorkflowInstance}
    (tasks : forall ptr, (store.task ptr).state = .completed -> (after.task ptr).state = .completed)
    (completed : forall name, store.instanceCompleted jobid name = true ->
      after.instanceCompleted jobid name = true)
    (same : (second.tasks, second.subworkflows) = (first.tasks, first.subworkflows)) :
    after.stepsLeft jobid second ≤ store.stepsLeft jobid first := by
  have sameTasks : second.tasks = first.tasks := congrArg Prod.fst same
  have sameSubworkflows : second.subworkflows = first.subworkflows := congrArg Prod.snd same
  unfold Store.stepsLeft
  rw [sameTasks, sameSubworkflows]
  refine Nat.add_le_add ?_ ?_
  · apply List.countP_mono_left
    intro ptr _ opened
    simp only [ne_eq, decide_not, Bool.not_eq_true', decide_eq_false_iff_not] at opened ⊢
    exact fun done => opened (tasks ptr done)
  · apply List.countP_mono_left
    intro name _ opened
    simp only [Bool.not_eq_true, Bool.decide_eq_false, Bool.not_eq_true'] at opened ⊢
    cases earlier : store.instanceCompleted jobid name with
    | false => rfl
    | true =>
        rw [completed name earlier] at opened
        cases opened

theorem Progress.refl (store : Store) (jobid : String) : Progress store store jobid :=
  ⟨fun _ => rfl, rfl, fun _ done => done, fun _ => rfl, fun _ done => done, fun _ wi found done =>
    Or.inl (instanceCompleted_iff.mpr ⟨wi, found, done⟩)⟩

theorem Progress.trans (first : Progress store middle jobid)
    (second : Progress middle after jobid) :
    Progress store after jobid where
  fixed := fun ptr => (second.fixed ptr).trans (first.fixed ptr)
  nextTask := second.nextTask.trans first.nextTask
  tasks := fun ptr done => second.tasks ptr (first.tasks ptr done)
  lists := fun name => (second.lists name).trans (first.lists name)
  completed := fun name done => second.completed name (first.completed name done)
  earned := fun name wi found done => by
    rcases second.earned name wi found done with earlier | nothing
    · rcases instanceCompleted_iff.mp earlier with ⟨before, present, closed⟩
      rcases first.earned name before present closed with already | none
      · exact Or.inl already
      · right
        have same := second.lists name
        rw [found, present] at same
        have fewer := stepsLeft_le second.tasks second.completed (Option.some.inj same)
        omega
    · exact Or.inr nothing

theorem Progress.of_unseen (unseen : Unseen store after jobid) : Progress store after jobid where
  fixed := unseen.fixed
  nextTask := unseen.nextTask
  tasks := fun ptr done => (unseen.completed ptr).mpr done
  lists := fun name => by
    have same := congrArg (Option.map fun fields : List Nat × List String × Int × Prop =>
      (fields.1, fields.2.1)) (unseen.instances name)
    rw [Option.map_map, Option.map_map] at same
    exact same
  completed := fun name done => by rw [unseen.instanceCompleted]; exact done
  earned := fun name wi found done => by
    left
    rw [← unseen.instanceCompleted]
    exact instanceCompleted_iff.mpr ⟨wi, found, done⟩

theorem Anchored.progress {localID : String} (anchored : Anchored jobid store entrypoint localID)
    (progress : Progress store after jobid) : Anchored jobid after entrypoint localID := by
  rcases anchored with main | listed
  · exact Or.inl main
  · right
    intro above found
    have same := progress.lists (Store.parentID localID)
    rw [found, Option.map_some] at same
    rcases Option.map_eq_some_iff.mp same.symm with ⟨before, present, fields⟩
    have subworkflows : before.subworkflows = above.subworkflows := congrArg Prod.snd fields
    exact subworkflows ▸ listed before present

/-- A change of a task's state changes no instance but its counter. -/
theorem taskSetState_frame (ptr : Nat) (newState : ProcessState) :
    (store.taskSetState ptr newState).1.nextTask = store.nextTask ∧
      (forall other, Task.fixed ((store.taskSetState ptr newState).1.task other) =
        Task.fixed (store.task other)) ∧
      forall jobid name, ((store.taskSetState ptr newState).1.instanceOf jobid name).map
          (fun wi => (wi.tasks, wi.subworkflows, wi.state)) =
        (store.instanceOf jobid name).map fun wi => (wi.tasks, wi.subworkflows, wi.state) := by
  have written (state : ProcessState) (other : Nat) :
      Task.fixed ((store.withState ptr state).task other) = Task.fixed (store.task other) := by
    unfold Store.withState
    by_cases same : other = ptr
    · rw [same, Store.modifyTask_self]
      rfl
    · rw [Store.modifyTask_of_ne store same]
  rcases store.taskSetState_cases ptr newState with ⟨same, _⟩ | ⟨_, _, wrote⟩
      | ⟨_, _, _, wrote, _⟩ |
    ⟨_, _, _, counted⟩
  · rw [same]
    exact ⟨rfl, fun _ => rfl, fun _ _ => rfl⟩
  · rw [wrote]
    exact ⟨rfl, written newState, fun _ _ => rfl⟩
  · rw [wrote]
    exact ⟨rfl, written .completed, fun _ _ => rfl⟩
  · rw [counted]
    unfold Store.incrementRemainSteps
    refine ⟨Store.modifyInstance_nextTask .., fun other => ?_, fun jobid name => ?_⟩
    · rw [Store.modifyInstance_task]
      exact written .completed other
    · rw [Store.instanceOf_modifyInstance]
      by_cases here : jobid = (store.task ptr).ident.jobId ∧
          name = (store.task ptr).workflowInstanceID
      · rw [if_pos here, here.1, here.2, Option.map_map]
        rfl
      · rw [if_neg here]
        rfl

theorem taskSetState_instanceCompleted (ptr : Nat) (newState : ProcessState) (name : String) :
    (store.taskSetState ptr newState).1.instanceCompleted jobid name = store.instanceCompleted
        jobid name := by
  have same := (@taskSetState_frame store ptr newState).2.2 jobid name
  unfold Store.instanceCompleted
  cases found : (store.taskSetState ptr newState).1.instanceOf jobid name with
  | none =>
      rw [found, Option.map_none] at same
      rw [Option.map_eq_none_iff.mp same.symm]
  | some wi =>
      rw [found, Option.map_some] at same
      rcases Option.map_eq_some_iff.mp same.symm with ⟨before, present, fields⟩
      have state : before.state = wi.state := congrArg (fun fields => fields.2.2) fields
      rw [present]
      simp only [state]

theorem Progress.complete (store : Store) (jobid : String) (ptr : Nat) :
    Progress store (store.taskSetState ptr .completed).1 jobid where
  fixed := (taskSetState_frame ptr .completed).2.1
  nextTask := (taskSetState_frame ptr .completed).1
  tasks := fun other done => by
    have closed (after : Store) (tasks : after.task = (store.withState ptr .completed).task) :
        (after.task other).state = .completed := by
      rw [tasks]
      unfold Store.withState
      by_cases same : other = ptr
      · rw [same, Store.modifyTask_self]
      · rw [Store.modifyTask_of_ne store same]
        exact done
    rcases store.taskSetState_cases ptr .completed with ⟨same, _⟩ | ⟨_, never, _⟩
        | ⟨_, _, _, wrote, _⟩ |
      ⟨_, _, _, counted⟩
    · rw [same]
      exact done
    · exact absurd rfl never
    · rw [wrote]
      exact closed _ rfl
    · rw [counted]
      exact closed _ (Store.modifyInstance_task ..)
  lists := fun name => by
    have same := congrArg (Option.map fun fields : List Nat × List String × ProcessState =>
      (fields.1, fields.2.1)) ((@taskSetState_frame store ptr .completed).2.2 jobid name)
    rw [Option.map_map, Option.map_map] at same
    exact same
  completed := fun name done => by rw [taskSetState_instanceCompleted]; exact done
  earned := fun name wi found done => by
    left
    rw [← @taskSetState_instanceCompleted store jobid ptr .completed name]
    exact instanceCompleted_iff.mpr ⟨wi, found, done⟩

/-! ## Closing an instance -/

theorem closes_setInstanceState (store : Store) (jobid localID : String) :
    Closes store (store.setInstanceState jobid localID .completed) jobid localID fun _ => 0 where
  lookup := fun name => by
    unfold Store.setInstanceState
    rw [Store.instanceOf_modifyInstance]
    by_cases same : name = localID
    · rw [if_pos ⟨rfl, same⟩, same]
      cases store.instanceOf jobid localID with
      | none => rfl
      | some wi => simp only [Option.map_some, if_true, Int.add_zero]
    · rw [if_neg (fun both => same both.2)]
      cases store.instanceOf jobid name with
      | none => rfl
      | some wi => simp only [Option.map_some, if_neg same, Int.add_zero]
  task := Store.modifyInstance_task ..
  nextTask := Store.modifyInstance_nextTask ..
  job := fun _ found => modifyInstance_loaded found ..

theorem Closes.jobSetState {localID : String} {drop : String -> Int}
    (closes : Closes store after jobid localID drop) (newState : JobState) :
    Closes store (after.jobSetState jobid newState) jobid localID drop where
  lookup := fun name => by
    unfold Store.jobSetState
    rw [Store.instanceOf_modifyJob after jobid (fun job => { job with state := newState }) fun _ =>
        rfl]
    exact closes.lookup name
  task := (Store.modifyJob_task ..).trans closes.task
  nextTask := (Store.modifyJob_nextTask ..).trans closes.nextTask
  job := fun job found => by
    rcases closes.job job found with ⟨next, foundNext, id, entry⟩
    obtain ⟨last, foundLast, lastID, lastEntry⟩ :=
      @modifyJob_loaded after jobid next foundNext jobid (fun job => { job with state := newState })
        fun _ => ⟨rfl, rfl⟩
    exact ⟨last, foundLast, lastID.trans id, lastEntry.trans entry⟩

theorem Closes.countDown {localID : String} (closes : Closes store after jobid localID fun _ => 0)
    (parent : String) :
    Closes store (after.incrementRemainSteps jobid parent (-1)) jobid localID
      fun name => if name = parent then -1 else 0 where
  lookup := fun name => by
    unfold Store.incrementRemainSteps
    rw [Store.instanceOf_modifyInstance]
    by_cases same : name = parent
    · rw [if_pos ⟨rfl, same⟩, ← same, closes.lookup]
      cases store.instanceOf jobid name with
      | none => rfl
      | some wi => simp only [Option.map_some, if_true, Int.add_zero]
    · rw [if_neg (fun both => same both.2), closes.lookup]
      simp only [if_neg same]
  task := (Store.modifyInstance_task ..).trans closes.task
  nextTask := (Store.modifyInstance_nextTask ..).trans closes.nextTask
  job := fun job found => by
    rcases closes.job job found with ⟨next, foundNext, id, entry⟩
    obtain ⟨last, foundLast, lastID, lastEntry⟩ :=
      @modifyInstance_loaded after jobid next foundNext jobid parent
        fun wi => { wi with remainSteps := wi.remainSteps + -1 }
    exact ⟨last, foundLast, lastID.trans id, lastEntry.trans entry⟩

/-- Closing an instance whose steps are all completed. -/
theorem Progress.close {localID : String} {drop : String -> Int} {wi : WorkflowInstance}
    (closes : Closes store after jobid localID drop)
    (found : store.instanceOf jobid localID = some wi) (nothing : store.stepsLeft jobid wi = 0) :
    Progress store after jobid := by
  have completed := closes.instanceCompleted found
  have grows (name : String) (done : store.instanceCompleted jobid name = true) :
      after.instanceCompleted jobid name = true := by
    rw [completed]
    split
    · rfl
    · exact done
  refine ⟨fun ptr => by rw [closes.task], closes.nextTask, fun ptr done =>
      by rw [closes.task]; exact done,
    ?_, grows, ?_⟩
  · intro name
    rw [closes.lookup, Option.map_map]
    rfl
  · intro name other foundOther done
    by_cases same : name = localID
    · right
      rw [closes.lookup, same, found] at foundOther
      have fewer := @stepsLeft_le store after jobid wi other
          (fun ptr done => by rw [closes.task]; exact done)
        grows (by rw [← Option.some.inj foundOther])
      omega
    · left
      have here := completed name
      rw [if_neg same] at here
      rw [← here]
      exact instanceCompleted_iff.mpr ⟨other, foundOther, done⟩

/-- Nothing blocks the completion of an instance only if no step is left. -/
theorem stepsLeft_of_blocked {wi : WorkflowInstance} (free : store.blocked jobid wi = none) :
    store.stepsLeft jobid wi = 0 := by
  unfold Store.blocked at free
  split at free
  · cases free
  · next running =>
      have tasks : store.uncompleted wi.tasks = 0 := by
        unfold Store.uncompleted
        rw [List.countP_eq_zero]
        intro ptr member opened
        exact running (List.any_eq_true.mpr ⟨ptr, member, opened⟩)
      have subworkflows : store.openSubworkflows jobid wi.subworkflows = 0 := by
        unfold Store.openSubworkflows
        rw [List.countP_eq_zero]
        intro name member opened
        have answer := List.findSome?_eq_none_iff.mp free name member
        unfold Store.instanceCompleted at opened
        cases found : store.instanceOf jobid name with
        | none =>
            rw [found] at answer
            cases answer
        | some sub =>
            rw [found] at answer opened
            dsimp only at answer opened
            split at answer
            · cases answer
            · next done => simp [not_not.mp done] at opened
      unfold Store.stepsLeft
      rw [tasks, subworkflows]

/-- `finalizeJob` writes the state of the job and drops tasks from the task map. -/
theorem finalizeJob_frame (qm : ServerMgr) (jobid : String) :
    ((qm.finalizeJob jobid).1.store = qm.store ∨
      (qm.finalizeJob jobid).1.store = qm.store.jobSetState jobid .completed) ∧
    forall id ptr, (qm.finalizeJob jobid).1.taskMap.lookup id = some ptr ->
        qm.taskMap.lookup id = some ptr := by
  have erased (tasks : List Nat) (map : GoMap TaskUniqueIdentifier Nat) (id : TaskUniqueIdentifier)
      (ptr : Nat)
      (found : (tasks.foldl (fun map ptr => map.erase (qm.store.task ptr).ident) map).lookup
      id = some ptr) :
      map.lookup id = some ptr := by
    induction tasks generalizing map with
    | nil => exact found
    | cons first rest inductionHypothesis =>
        exact (GoMap.lookup_erase_eq_some.mp (inductionHypothesis _ found)).2
  unfold ServerMgr.finalizeJob
  cases qm.store.jobs.lookup jobid with
  | none => exact ⟨Or.inl rfl, fun _ _ found => found⟩
  | some job =>
      dsimp only
      split
      · exact ⟨Or.inl rfl, fun _ _ found => found⟩
      · exact ⟨Or.inr rfl, erased job.tasks qm.taskMap⟩

/-- The step after an instance was closed: it counts down in the instance above,
or it is the main one, or there is none above. -/
theorem notifyParent_closes {qm : ServerMgr} {localID : String}
    (closes : Closes store qm.store jobid localID fun _ => 0) (looked : Looked) :
    Exists fun drop => Closes store (qm.notifyParent jobid localID looked).1.store jobid
        localID drop ∧
      (forall id ptr, (qm.notifyParent jobid localID looked).1.taskMap.lookup id = some ptr ->
        qm.taskMap.lookup id = some ptr) ∧
      (forall parent, (qm.notifyParent jobid localID looked).2.2 = some parent ->
          parent = Store.parentID localID) ∧
      forall job, qm.store.jobs.lookup jobid = some job ->
        (drop = (fun _ => 0) ∧ (localID = job.entrypoint ∨ Store.parentID localID = "" ∨
          qm.store.instanceOf jobid (Store.parentID localID) = none)) ∨
        (drop = (fun name => if name = Store.parentID localID then -1 else 0) ∧
            localID ≠ job.entrypoint) := by
  unfold ServerMgr.notifyParent
  cases found : qm.store.jobs.lookup jobid with
  | none =>
      refine ⟨_, closes, fun _ _ known => known, fun _ next => ?_, fun _ other => (nomatch other)⟩
      cases next
  | some job =>
      dsimp only
      by_cases main : localID = job.entrypoint
      · rw [if_pos main]
        rcases finalizeJob_frame qm jobid with ⟨written, mapped⟩
        have closed : Closes store (qm.finalizeJob jobid).1.store jobid localID fun _ => 0 := by
          rcases written with same | wrote
          · rw [same]
            exact closes
          · rw [wrote]
            exact closes.jobSetState .completed
        rcases finalized : qm.finalizeJob jobid with ⟨later, _ | err⟩
        all_goals
          rw [finalized] at closed mapped
          refine ⟨_, closed, mapped, fun _ next => (nomatch next), fun other same => ?_⟩
          cases same
          exact Or.inl ⟨rfl, Or.inl main⟩
      · rw [if_neg main]
        by_cases top : Store.parentID localID = ""
        · rw [if_pos top]
          refine ⟨_, closes, fun _ _ known => known, fun _ next => (nomatch next), fun other same =>
              ?_⟩
          exact Or.inl ⟨rfl, Or.inr (Or.inl top)⟩
        · rw [if_neg top]
          cases above : qm.store.instanceOf jobid (Store.parentID localID) with
          | none =>
              refine ⟨_, closes, fun _ _ known => known, fun _ next => (nomatch next),
                  fun other same => ?_⟩
              exact Or.inl ⟨rfl, Or.inr (Or.inr rfl)⟩
          | some wi =>
              refine ⟨_, closes.countDown (Store.parentID localID), fun _ _ known => known, ?_, ?_⟩
              · intro parent next
                dsimp only at next
                split at next
                · cases next
                · exact (Option.some.inj next).symm
              · intro other same
                cases same
                exact Or.inr ⟨rfl, main⟩

/-- The counters after an instance was closed, when the instance above lists it. -/
theorem Counts.notifyParent {qm : ServerMgr} {localID : String} {wi : WorkflowInstance}
    {drop : String -> Int} (counts : Counts store jobid entrypoint)
    (found : store.instanceOf jobid localID = some wi) (opened : wi.state ≠ .completed)
    (anchored : Anchored jobid store entrypoint localID)
    (before : Closes store qm.store jobid localID fun _ => 0)
    (closes : Closes store after jobid localID drop)
    (kind : forall job, qm.store.jobs.lookup jobid = some job ->
      (drop = (fun _ => 0) ∧ (localID = job.entrypoint ∨ Store.parentID localID = "" ∨
        qm.store.instanceOf jobid (Store.parentID localID) = none)) ∨
      (drop = (fun name => if name = Store.parentID localID then -1 else 0) ∧
          localID ≠ job.entrypoint)) :
    Counts after jobid entrypoint := by
  rcases counts.loaded with ⟨job, present, _, entry⟩
  rcases before.job job present with ⟨next, foundNext, _, sameEntry⟩
  refine counts.close found opened closes fun name other foundOther => ?_
  have below := (counts.instances name other foundOther).below localID
  rcases kind next foundNext with ⟨rfl, none⟩ | ⟨rfl, notMain⟩
  · have unlisted : localID ∉ other.subworkflows := by
      intro listed
      rcases below listed with ⟨parent, named, notMain⟩
      rcases none with main | top | missing
      · exact notMain (main.trans (sameEntry.trans entry))
      · exact named (parent.symm.trans top)
      · rw [parent, before.lookup, foundOther] at missing
        cases missing
    rw [if_neg unlisted]
  · rw [sameEntry, entry] at notMain
    by_cases parent : name = Store.parentID localID
    · have listed : localID ∈ other.subworkflows := by
        rcases anchored with main | above
        · exact absurd main notMain
        · exact above other (parent ▸ foundOther)
      simp only [if_pos parent, if_pos listed]
    · have unlisted : localID ∉ other.subworkflows := fun listed => parent (below listed).1.symm
      simp only [if_neg parent, if_neg unlisted]

/-! ## Completing steps -/

/-- A call that completes steps, seen from the server. Steps are completed and tasks drop out of
the task map, and a run may be cut into such pieces. -/
structure Advance (qm after : ServerMgr) (jobid : String) : Prop where
  progress : Progress qm.store after.store jobid
  mapped : forall id ptr, after.taskMap.lookup id = some ptr -> qm.taskMap.lookup id = some ptr

theorem Advance.refl (qm : ServerMgr) (jobid : String) : Advance qm qm jobid :=
  ⟨Progress.refl .., fun _ _ known => known⟩

theorem Advance.trans {qm between last : ServerMgr} (first : Advance qm between jobid)
    (second : Advance between last jobid) : Advance qm last jobid :=
  ⟨first.progress.trans second.progress, fun id ptr known =>
      first.mapped id ptr (second.mapped id ptr known)⟩

theorem Advance.counted {qm last : ServerMgr} (advance : Advance qm last jobid)
    (counted : Counted qm jobid entrypoint) (counts : Counts last.store jobid entrypoint) :
    Counted last jobid entrypoint := by
  refine ⟨counts, fun id ptr known => ?_⟩
  have earlier := counted.mapped id ptr (advance.mapped id ptr known)
  have ident : (last.store.task ptr).ident = (qm.store.task ptr).ident :=
    congrArg Prod.fst (advance.progress.fixed ptr)
  rw [advance.progress.nextTask, ident]
  exact earlier

/-- Writing the outputs and the state of an instance without open steps, and
telling the instance above. -/
theorem closeInstance_advance {qm written last : ServerMgr} {localID : String}
    {wi : WorkflowInstance} {outputs : JobDocument} {looked : Looked} {closing : Closing}
    {next : Option String} (round : ServerMgr.Closing.Round qm jobid localID wi outputs written)
    (done : written.notifyParent jobid localID looked = (last, closing, next)) :
    Advance qm last jobid ∧ last.store.task = qm.store.task ∧
      (forall name, last.store.instanceCompleted jobid name =
        if name = localID then true else qm.store.instanceCompleted jobid name) ∧
      (forall parent, next = some parent -> parent = Store.parentID localID) ∧
      (Counts qm.store jobid entrypoint -> Anchored jobid qm.store entrypoint localID ->
        Counts last.store jobid entrypoint) := by
  rcases round with ⟨found, opened, free, rfl⟩
  have unseen : Unseen qm.store (qm.store.modifyInstance jobid localID fun wi =>
      { wi with outputs }) jobid :=
    Unseen.modifyInstance qm.store jobid jobid localID fun _ _ => rfl
  have tasks : (qm.store.modifyInstance jobid localID fun wi => { wi with outputs }).task =
      qm.store.task :=
    Store.modifyInstance_task ..
  have foundWritten : (qm.store.modifyInstance jobid localID fun wi =>
      { wi with outputs }).instanceOf
      jobid localID = some { wi with outputs } := by
    rw [Store.instanceOf_modifyInstance, if_pos ⟨rfl, rfl⟩, found]
    rfl
  have nothing : (qm.store.modifyInstance jobid localID fun wi => { wi with outputs }).stepsLeft
      jobid
      { wi with outputs } = 0 := by
    have fewer := @stepsLeft_le qm.store _ jobid wi { wi with outputs }
      (fun ptr closed => (unseen.completed ptr).mpr closed)
      (fun name closed => (unseen.instanceCompleted name).trans closed) rfl
    have none := stepsLeft_of_blocked free
    omega
  generalize qm.store.modifyInstance jobid localID (fun wi => { wi with outputs }) = written at *
  have before := closes_setInstanceState written jobid localID
  obtain ⟨drop, closes, mapped, above, kind⟩ := @notifyParent_closes written jobid
    { qm with store := written.setInstanceState jobid localID .completed } localID before looked
  rw [done] at closes mapped above
  refine ⟨⟨(Progress.of_unseen unseen).trans (Progress.close closes foundWritten nothing), mapped⟩,
    closes.task.trans tasks, fun name => ?_, above, fun counts anchored => ?_⟩
  · rw [closes.instanceCompleted foundWritten, unseen.instanceCompleted]
  · exact (counts.unseen unseen).notifyParent foundWritten opened
      (anchored.progress (Progress.of_unseen unseen)) before closes kind

/-- `completeSubworkflow` completes instances without open steps only, it writes
to no task, and the counters stay right if every instance above is anchored. -/
theorem completeSubworkflow_advance (collect : Collect) (depth : Nat) :
    forall (qm : ServerMgr) (localID : String) (last : ServerMgr) (closing : Closing),
      ServerMgr.completeSubworkflow collect depth qm jobid localID = .ok (last, closing) ->
      Advance qm last jobid ∧ last.store.task = qm.store.task ∧
        (Counts qm.store jobid entrypoint ->
          (forall n, Anchored jobid qm.store entrypoint (Nat.iterate Store.parentID n localID)) ->
          Counts last.store jobid entrypoint) := by
  induction depth with
  | zero =>
      intro qm localID last closing done
      cases done
  | succ depth inductionHypothesis =>
      intro qm localID last closing done
      rcases ServerMgr.completeSubworkflow_cases collect depth qm jobid localID with
        ⟨answer, same⟩ | ⟨outputs, answer, same⟩ | ⟨wi, outputs, written, looked, between, answer,
            round, goesOn⟩
      · rw [same] at done
        cases done
        exact ⟨Advance.refl qm jobid, rfl, fun counts _ => counts⟩
      · have unseen : Unseen qm.store (qm.store.modifyInstance jobid localID fun wi =>
          { wi with outputs }) jobid :=
          Unseen.modifyInstance qm.store jobid jobid localID fun _ _ => rfl
        rw [same] at done
        cases done
        exact ⟨⟨Progress.of_unseen unseen, fun _ _ known => known⟩, Store.modifyInstance_task ..,
          fun counts _ => counts.unseen unseen⟩
      · rcases goesOn with ⟨notified, same⟩ | ⟨parent, notified, stops, goes⟩
        · rw [same] at done
          cases done
          obtain ⟨advance, tasks, _, _, kept⟩ :=
              @closeInstance_advance _ entrypoint _ _ _ _ _ _ _ _ _ round notified
          exact ⟨advance, tasks, fun counts anchored => kept counts (anchored 0)⟩
        · obtain ⟨advance, tasks, _, above, kept⟩ :=
            @closeInstance_advance _ entrypoint _ _ _ _ _ _ _ _ _ round notified
          cases called : ServerMgr.completeSubworkflow collect depth between jobid parent with
          | error halt =>
              rw [stops halt called] at done
              cases done
          | ok result =>
              rcases goes result.1 result.2 called with ⟨closed, same⟩
              rw [same] at done
              cases done
              obtain ⟨later, tasksLater, keptLater⟩ := inductionHypothesis between parent _ _ called
              refine ⟨advance.trans later, tasksLater.trans tasks, fun counts anchored => ?_⟩
              refine keptLater (kept counts (anchored 0)) fun n => ?_
              rw [above parent rfl]
              exact (anchored (n + 1)).progress advance.progress

/-- The recursion ends: each level completes an instance that was not completed. -/
theorem completeSubworkflow_returns (collect : Collect) {names : List String} (once : names.Nodup)
    (depth : Nat) :
    forall (qm : ServerMgr) (localID : String),
      (forall name, (qm.store.instanceOf jobid name).isSome -> name ∈ names) ->
      qm.store.openSubworkflows jobid names < depth ->
      Exists fun result => ServerMgr.completeSubworkflow collect depth qm jobid localID =
          .ok result := by
  induction depth with
  | zero =>
      intro qm localID _ small
      exact absurd small (Nat.not_lt_zero _)
  | succ depth inductionHypothesis =>
      intro qm localID all small
      rcases ServerMgr.completeSubworkflow_cases collect depth qm jobid localID with
        ⟨answer, same⟩ | ⟨outputs, answer, same⟩ | ⟨wi, outputs, written, looked, between, answer,
            round, goesOn⟩
      · exact ⟨_, same⟩
      · exact ⟨_, same⟩
      · rcases goesOn with ⟨_, same⟩ | ⟨parent, notified, _, goes⟩
        · exact ⟨_, same⟩
        · obtain ⟨advance, _, completed, _, _⟩ :=
            @closeInstance_advance _ "" _ _ _ _ _ _ _ _ _ round notified
          have listed : localID ∈ names := all localID (by rw [round.found]; rfl)
          have running : qm.store.instanceCompleted jobid localID = false := by
            unfold Store.instanceCompleted
            rw [round.found]
            simpa using round.opened
          have fewer := openSubworkflows_complete once listed running
              (by rw [completed, if_pos rfl])
            fun sub different => by rw [completed, if_neg different]
          have present (name : String) (found : (between.store.instanceOf jobid name).isSome) :
              name ∈ names := by
            have same := congrArg Option.isSome (advance.progress.lists name)
            rw [Option.isSome_map, Option.isSome_map] at same
            exact all name (same ▸ found)
          obtain ⟨result, called⟩ := inductionHypothesis between parent present (by omega)
          rcases goes result.1 result.2 called with ⟨closing, same⟩
          exact ⟨_, same⟩

theorem completeSubworkflow_depthOf (collect : Collect) (qm : ServerMgr) (localID : String) :
    Exists fun result => ServerMgr.completeSubworkflow collect (qm.depthOf jobid) qm jobid localID =
        .ok result := by
  unfold ServerMgr.depthOf
  cases loaded : qm.store.jobs.lookup jobid with
  | none =>
      refine completeSubworkflow_returns collect List.nodup_nil 1 qm localID
          (fun name found => ?_) Nat.one_pos
      unfold Store.instanceOf at found
      rw [loaded] at found
      cases found
  | some job =>
      refine completeSubworkflow_returns collect (AList.keys_nodup job.instances) _ qm localID
        (fun name found => ?_) ?_
      · unfold Store.instanceOf at found
        rw [loaded] at found
        exact AList.mem_keys.mp (AList.lookup_isSome.mp found)
      · unfold Store.openSubworkflows
        have short := List.countP_le_length (p :=
            fun sub => decide ¬qm.store.instanceCompleted jobid sub = true)
          (l := job.instances.keys)
        have same : job.instances.keys.length = job.instances.entries.length := List.length_map ..
        dsimp only
        omega

/-- The scatter part writes only the outputs of the scatter task. -/
theorem taskCompletedScatter_quiet {qm last : ServerMgr} {wi : WorkflowInstance} {ptr : Nat}
    {gathered : ServerMgr.Gathered} (done : qm.taskCompletedScatter wi ptr = .ok (last, gathered)) :
    Store.Quiet qm.store last.store ∧ last.taskMap = qm.taskMap ∧
      forall parent, gathered = .completeParent parent ->
        Exists fun id => (qm.store.task ptr).scatterParent = some id ∧
            qm.taskMap.lookup id = some parent := by
  have unchanged (err : Err) : Store.Quiet qm.store qm.store ∧ qm.taskMap = qm.taskMap ∧
      forall parent, ServerMgr.Gathered.finished err = .completeParent parent ->
        Exists fun id => (qm.store.task ptr).scatterParent = some id ∧
            qm.taskMap.lookup id = some parent :=
    ⟨Store.Quiet.refl _, rfl, fun _ different => (nomatch different)⟩
  unfold ServerMgr.taskCompletedScatter at done
  split at done
  · cases done
  · next id named =>
      split at done
      · cases done
        exact unchanged _
      · next parent known =>
          split at done
          · cases done
            exact unchanged _
          · split at done
            · cases done
              exact unchanged _
            · split at done
              · cases done
                exact unchanged _
              · split at done
                · cases done
                · split at done
                  · cases done
                  · next document err gatheredOutputs =>
                      have quiet : Store.Quiet qm.store (qm.store.modifyTask parent fun task =>
                          { task with finalizing := true, stepOutput := some document }) :=
                        Store.Quiet.modifyTask qm.store parent rfl Iff.rfl
                      dsimp only at done
                      split at done
                      · cases done
                        exact ⟨quiet, rfl, fun _ different => (nomatch different)⟩
                      · cases done
                        refine ⟨quiet, rfl, fun other same => ?_⟩
                        cases same
                        exact ⟨id, named, known⟩

theorem closeBehindTask_advance (collect : Collect) {qm last : ServerMgr} {localID : String}
    {err : Err}
    (done : ServerMgr.closeBehindTask collect qm jobid (some localID) = .ok (last, err)) :
    Advance qm last jobid ∧ (Counts qm.store jobid entrypoint ->
      (forall n, Anchored jobid qm.store entrypoint (Nat.iterate Store.parentID n localID)) ->
      Counts last.store jobid entrypoint) := by
  unfold ServerMgr.closeBehindTask at done
  dsimp only at done
  split at done
  · cases done
  · split at done
    · cases done
      exact ⟨Advance.refl .., fun counts _ => counts⟩
    · split at done
      · cases done
      all_goals
        next called =>
          cases done
          rcases completeSubworkflow_advance collect _ _ _ _ _ called with ⟨advance, _, kept⟩
          exact ⟨advance, kept⟩

/-- `taskCompleted` on a task of the job. -/
theorem taskCompleted_advance (collect : Collect) (localID : String) (depth : Nat) :
    forall (qm : ServerMgr) (ptr : Nat) (last : ServerMgr) (err : Err),
      Counted qm jobid entrypoint -> ptr < qm.store.nextTask ->
          (qm.store.task ptr).ident.jobId = jobid ->
      (forall n, Anchored jobid qm.store entrypoint (Nat.iterate Store.parentID n localID)) ->
      qm.taskCompleted collect depth (some localID) ptr = .ok (last, err) ->
      Counted last jobid entrypoint ∧ Advance qm last jobid := by
  induction depth with
  | zero =>
      intro qm ptr last err _ _ _ _ done
      cases done
  | succ depth inductionHypothesis =>
      intro qm ptr last err counted small own anchored done
      unfold ServerMgr.taskCompleted at done
      dsimp only at done
      split at done
      · cases done
        exact ⟨counted, Advance.refl ..⟩
      · split at done
        · cases done
          exact ⟨counted, Advance.refl ..⟩
        · split at done
          · cases done
            exact ⟨counted, Advance.refl ..⟩
          · have set : Advance qm { qm with store := (qm.store.taskSetState ptr .completed).1 }
              jobid :=
              ⟨Progress.complete qm.store jobid ptr, fun _ _ known => known⟩
            have countedSet := set.counted counted (counted.counts.taskSetState small fun _ => rfl)
            have scatterParent : ((qm.store.taskSetState ptr .completed).1.task ptr).scatterParent =
                (qm.store.task ptr).scatterParent :=
              congrArg (fun fields => fields.2.2.1) (set.progress.fixed ptr)
            split at done
            · next store message written =>
                rw [written] at set countedSet
                cases done
                exact ⟨countedSet, set⟩
            · next store written =>
                rw [written] at set countedSet scatterParent
                rw [own] at done
                -- What remains is to close the instance, possibly after the scatter task.
                have close (between : ServerMgr) (countedBetween : Counted between jobid entrypoint)
                    (advance : Advance qm between jobid)
                    (closed : ServerMgr.closeBehindTask collect between jobid (some localID) =
                      .ok (last, err)) :
                    Counted last jobid entrypoint ∧ Advance qm last jobid := by
                  obtain ⟨later, kept⟩ := @closeBehindTask_advance jobid entrypoint _ _ _ _ _ closed
                  refine ⟨later.counted countedBetween (kept countedBetween.counts fun n => ?_),
                    advance.trans later⟩
                  exact (anchored n).progress advance.progress
                split at done
                · exact close _ countedSet set done
                · split at done
                  · cases done
                  · next wi found =>
                      -- The scatter task is another task of the job, found under its own name.
                      have gather (between : ServerMgr) (gathered : ServerMgr.Gathered)
                          (scattered : ({ qm with store } : ServerMgr).taskCompletedScatter wi ptr =
                            .ok (between, gathered)) :
                          Counted between jobid entrypoint ∧ Advance qm between jobid ∧
                            forall parent, gathered = .completeParent parent ->
                              parent < between.store.nextTask ∧
                                  (between.store.task parent).ident.jobId = jobid := by
                        rcases taskCompletedScatter_quiet scattered with ⟨quiet, sameMap, found⟩
                        have unseen := Unseen.of_quiet quiet jobid
                        have advance : Advance { qm with store } between jobid :=
                          ⟨Progress.of_unseen unseen, fun id other known =>
                              by rw [← sameMap]; exact known⟩
                        have countedBetween :=
                            advance.counted countedSet (countedSet.counts.unseen unseen)
                        refine ⟨countedBetween, set.trans advance, fun parent isParent => ?_⟩
                        rcases found parent isParent with ⟨id, named, known⟩
                        obtain ⟨smallParent, identParent⟩ :=
                            countedBetween.mapped id parent (sameMap ▸ known)
                        refine ⟨smallParent, ?_⟩
                        rw [identParent]
                        exact counted.counts.family ptr small own id
                            (scatterParent.symm.trans named)
                      split at done
                      · cases done
                      · next scattered =>
                          cases done
                          rcases gather _ _ scattered with ⟨countedBetween, advance, _⟩
                          exact ⟨countedBetween, advance⟩
                      · next scattered =>
                          rcases gather _ _ scattered with ⟨countedBetween, advance, _⟩
                          exact close _ countedBetween advance done
                      · next between parent scattered =>
                          rcases gather _ _ scattered with ⟨countedBetween, advance, isTask⟩
                          rcases isTask parent rfl with ⟨smallParent, ownParent⟩
                          have parentDone (finished : ServerMgr) (answer : Err)
                              (called : between.taskCompleted collect depth (some localID) parent =
                                .ok (finished, answer)) :
                              Counted finished jobid entrypoint ∧ Advance qm finished jobid := by
                            obtain ⟨countedLater, later⟩ :=
                                inductionHypothesis between parent finished answer
                              countedBetween smallParent ownParent
                              (fun n => (anchored n).progress advance.progress) called
                            exact ⟨countedLater, advance.trans later⟩
                          split at done
                          · cases done
                          · next called =>
                              cases done
                              exact parentDone _ _ called
                          · next called =>
                              rcases parentDone _ _ called with ⟨countedLater, later⟩
                              exact close _ countedLater later done

/-! ## New steps -/

/-- The same instances are completed. -/
def SameClosed (store after : Store) (jobid : String) : Prop :=
  forall name, after.instanceCompleted jobid name = store.instanceCompleted jobid name

/-- A task that can be added to the instance `localID`. -/
structure Fits (task : Task) (jobid localID : String) : Prop where
  opened : task.state ≠ .completed
  own : task.ident.jobId = jobid
  named : task.workflowInstanceID = localID
  family : forall parent, task.scatterParent = some parent -> parent.jobId = jobid

theorem taskMapAdd_lookup {qm : ServerMgr} {ptr : Nat} {caller : String} {id : TaskUniqueIdentifier}
    {other : Nat} (known : (qm.taskMapAdd ptr caller).1.taskMap.lookup id = some other) :
    qm.taskMap.lookup id = some other ∨ (other = ptr ∧ id = (qm.store.task ptr).ident) := by
  unfold ServerMgr.taskMapAdd at known
  dsimp only at known
  split at known
  · exact Or.inl known
  · split at known
    · exact Or.inl known
    · rcases GoMap.lookup_insert_eq_some.mp known with ⟨same, this⟩ | ⟨_, earlier⟩
      · exact Or.inr ⟨this, same⟩
      · exact Or.inl earlier

/-- `AddTask` followed by `TaskMap.Add`. -/
theorem Counted.addTask {qm : ServerMgr} {localID caller : String} {task : Task} {ptr : Nat}
    (counted : Counted qm jobid entrypoint) (fits : Fits task jobid localID)
    (done : qm.store.addTask jobid localID task = .ok (after, ptr)) :
    Counted (({ qm with store := after } : ServerMgr).taskMapAdd ptr caller).1 jobid entrypoint ∧
      SameClosed qm.store (({ qm with store := after } : ServerMgr).taskMapAdd ptr caller).1.store
          jobid ∧
      ptr < (({ qm with store := after } : ServerMgr).taskMapAdd ptr caller).1.store.nextTask ∧
      ((({ qm with store := after } : ServerMgr).taskMapAdd ptr caller).1.store.task ptr).state ≠
          .completed := by
  obtain ⟨counts, small, made⟩ :=
      counted.counts.addTask fits.opened fits.own fits.named fits.family done
  rcases addTask_adds done with ⟨fresh, wi, added⟩
  have quiet := ServerMgr.taskMapAdd_quiet { qm with store := after } ptr caller
  have mapped (id : TaskUniqueIdentifier) (other : Nat) :=
    @taskMapAdd_lookup { qm with store := after } ptr caller id other
  generalize (({ qm with store := after } : ServerMgr).taskMapAdd ptr caller).1 = last
      at quiet mapped ⊢
  have unseen := Unseen.of_quiet quiet jobid
  refine ⟨⟨counts.unseen unseen, fun id other known => ?_⟩, fun name => ?_, ?_, ?_⟩
  · have ident : (last.store.task other).ident = (after.task other).ident :=
      congrArg Prod.fst (quiet.fixed other)
    rw [quiet.nextTask, ident]
    rcases mapped id other known with earlier | ⟨rfl, rfl⟩
    · rcases counted.mapped id other earlier with ⟨smallOther, named⟩
      refine ⟨?_, by rw [added.old smallOther]; exact named⟩
      rw [added.nextTask]
      omega
    · exact ⟨small, rfl⟩
  · rw [unseen.instanceCompleted, added.instanceCompleted]
  · rw [quiet.nextTask]
    exact small
  · intro closed
    have closedBefore := (quiet.completed ptr).mp closed
    rw [made] at closedBefore
    exact fits.opened closedBefore

/-- What `NewTask` and `Task.Init` make for an instance of the job. -/
theorem newTask_fits {job : Job} {uuid localID stepnameBase : String} {task : Task}
    (id : job.id = jobid) (made : newTask job uuid localID stepnameBase = .ok task) :
    Fits task jobid localID := by
  unfold newTask at made
  repeat (split at made; · cases made)
  cases made
  exact ⟨fun different => (nomatch different), id, rfl, fun _ none => (nomatch none)⟩

theorem Fits.init {task : Task} {localID : String} (fits : Fits task jobid localID) :
    Fits task.init jobid localID := by
  unfold Task.init
  dsimp only
  split
  · exact ⟨fits.opened, fits.own, fits.named, fits.family⟩
  · exact fits

theorem createTask_counted {qm : ServerMgr} (counted : Counted qm jobid entrypoint)
    (localID stepnameBase : String) (workflowStep : WorkflowStep) :
    Counted (createTask qm jobid localID stepnameBase workflowStep).1 jobid entrypoint ∧
      SameClosed qm.store (createTask qm jobid localID stepnameBase workflowStep).1.store
          jobid := by
  unfold createTask
  split
  · next job wi foundJob found =>
      rcases counted.counts.loaded with ⟨known, foundKnown, id, _⟩
      rw [foundJob] at foundKnown
      cases foundKnown
      split
      · exact ⟨counted, fun _ => rfl⟩
      · next task made =>
          have fits := newTask_fits id made
          have fitsStep : Fits { task with
              processType := if workflowStep.scatter = [] then .normal else .scatter
              workflowStep := some workflowStep } jobid localID :=
            ⟨fits.opened, fits.own, fits.named, fits.family⟩
          dsimp only
          split
          · exact ⟨counted, fun _ => rfl⟩
          · next added =>
              obtain ⟨countedLater, same, _⟩ :=
                @Counted.addTask _ _ _ _ _ "updateWorkflowInstancesMapTask" _ _ counted
                    fitsStep.init added
              split
              all_goals
                next mapped =>
                  rw [mapped] at countedLater same
                  exact ⟨countedLater, same⟩
  · exact ⟨counted, fun _ => rfl⟩

theorem Counted.of_quiet {qm : ServerMgr} (counted : Counted qm jobid entrypoint)
    (quiet : Store.Quiet qm.store after) : Counted { qm with store := after } jobid entrypoint := by
  refine ⟨counted.counts.unseen (Unseen.of_quiet quiet jobid), fun id ptr known => ?_⟩
  have ident : (after.task ptr).ident = (qm.store.task ptr).ident :=
      congrArg Prod.fst (quiet.fixed ptr)
  dsimp only
  rw [quiet.nextTask, ident]
  exact counted.mapped id ptr known

/-- `SetState`, unless it takes a task back from completed. -/
theorem Counted.taskSetState {qm : ServerMgr} {ptr : Nat} {newState : ProcessState}
    (counted : Counted qm jobid entrypoint) (small : ptr < qm.store.nextTask)
    (kept : (qm.store.task ptr).state = .completed -> newState = .completed) :
    Counted { qm with store := (qm.store.taskSetState ptr newState).1 } jobid entrypoint := by
  rcases @taskSetState_frame qm.store ptr newState with ⟨next, fixed, _⟩
  refine ⟨counted.counts.taskSetState small kept, fun id other known => ?_⟩
  have ident : ((qm.store.taskSetState ptr newState).1.task other).ident =
      (qm.store.task other).ident :=
    congrArg Prod.fst (fixed other)
  dsimp only
  rw [next, ident]
  exact counted.mapped id other known

theorem addScatterTasks_counted {localID : String} (tasks : List Task)
    (fit : forall task, task ∈ tasks -> Fits task jobid localID) (qm : ServerMgr)
    (counted : Counted qm jobid entrypoint) :
    Counted (ServerMgr.addScatterTasks jobid localID qm tasks).1 jobid entrypoint ∧
      SameClosed qm.store (ServerMgr.addScatterTasks jobid localID qm tasks).1.store jobid := by
  induction tasks generalizing qm with
  | nil => exact ⟨counted, fun _ => rfl⟩
  | cons task rest inductionHypothesis =>
      unfold ServerMgr.addScatterTasks
      dsimp only
      split
      · exact ⟨counted, fun _ => rfl⟩
      · next added =>
          obtain ⟨countedAdded, same, small, opened⟩ :=
            @Counted.addTask _ _ _ _ _ "processInstanceEnQueueScatter" _ _ counted
              (fit task List.mem_cons_self) added
          split
          · next mapped =>
              rw [mapped] at countedAdded same
              exact ⟨countedAdded, same⟩
          · next ptr _ between mapped =>
              rw [mapped] at countedAdded same small opened
              dsimp only at countedAdded same small opened
              have countedReady := @Counted.taskSetState _ _ between _ .ready countedAdded small
                fun closed => absurd closed opened
              have ready (name : String) :=
                  @taskSetState_instanceCompleted between.store jobid ptr .ready name
              split
              · next written =>
                  rw [written] at countedReady ready
                  exact ⟨countedReady, fun name => (ready name).trans (same name)⟩
              · next written =>
                  rw [written] at countedReady ready
                  obtain ⟨countedLater, sameLater⟩ := inductionHypothesis
                    (fun other member => fit other (List.mem_cons_of_mem _ member)) _ countedReady
                  exact ⟨countedLater, fun name =>
                      (sameLater name).trans ((ready name).trans (same name))⟩

/-- An instance without steps. -/
structure Bare (wi : WorkflowInstance) : Prop where
  tasks : wi.tasks = []
  subworkflows : wi.subworkflows = []
  remain : wi.remainSteps = 0

theorem Counted.addWorkflowInstance {qm : ServerMgr} {wi : WorkflowInstance}
    (counted : Counted qm jobid entrypoint) (bare : Bare wi) :
    Counted { qm with store := qm.store.addWorkflowInstance jobid wi } jobid entrypoint := by
  refine ⟨counted.counts.addWorkflowInstance bare.tasks bare.subworkflows bare.remain,
      fun id ptr known => ?_⟩
  have tasks : (qm.store.addWorkflowInstance jobid wi).task = qm.store.task :=
      Store.modifyJob_task ..
  have next : (qm.store.addWorkflowInstance jobid wi).nextTask = qm.store.nextTask :=
      Store.modifyJob_nextTask ..
  dsimp only
  rw [tasks, next]
  exact counted.mapped id ptr known

theorem addScatterInstances_counted (instances : List WorkflowInstance)
    (bare : forall wi, wi ∈ instances -> Bare wi) (qm : ServerMgr)
    (counted : Counted qm jobid entrypoint) :
    Counted (ServerMgr.addScatterInstances jobid qm instances).1 jobid entrypoint ∧
      SameClosed qm.store (ServerMgr.addScatterInstances jobid qm instances).1.store jobid := by
  induction instances generalizing qm with
  | nil => exact ⟨counted, fun _ => rfl⟩
  | cons wi rest inductionHypothesis =>
      have added := counted.addWorkflowInstance (bare wi List.mem_cons_self)
      have same (name : String) := @addWorkflowInstance_instanceCompleted qm.store jobid wi name
      unfold ServerMgr.addScatterInstances
      dsimp only
      split
      · exact ⟨added, same⟩
      · obtain ⟨countedLater, sameLater⟩ := inductionHypothesis
          (fun other member => bare other (List.mem_cons_of_mem _ member))
          { qm with
            store := qm.store.addWorkflowInstance jobid wi
            globalInstances := (jobid ++ "_" ++ wi.localID) :: qm.globalInstances }
          ⟨added.counts, added.mapped⟩
        exact ⟨countedLater, fun name => (sameLater name).trans (same name)⟩

/-- The children that the last loop gets are those of the rounds, each with a step. -/
theorem exists_of_mem_children {Child : Type} {made : List (Child × List WorkflowStepInput)}
    {inputs : List (List WorkflowStepInput)} {names : List String}
    {finish : (Child × List WorkflowStepInput) × List WorkflowStepInput -> String -> Child}
    {child : Child} (member : child ∈ (made.zip inputs).zipWith finish names) :
    Exists fun entry => entry ∈ made ∧ Exists fun filled => Exists fun name =>
      child = finish (entry, filled) name := by
  rw [← List.map_uncurry_zip_eq_zipWith] at member
  rcases List.mem_map.mp member with ⟨⟨⟨entry, filled⟩, name⟩, paired, rfl⟩
  exact ⟨entry, (List.of_mem_zip (List.of_mem_zip paired).1).1, filled, name, rfl⟩

/-- The tasks of a scatter step fit the instance around it. -/
theorem scatterTask_fits {job : Job} {uuid parentIDStr basename : String}
    {workflowStep : WorkflowStep} {scatterParent : TaskUniqueIdentifier} {order : List String}
    {counter : List Nat} {made : Task × List WorkflowStepInput} (id : job.id = jobid)
    (family : scatterParent.jobId = jobid)
    (done : scatterTask job uuid parentIDStr basename workflowStep scatterParent order
    counter = .ok made) :
    Fits made.1 jobid parentIDStr := by
  unfold scatterTask at done
  split at done
  · cases done
  · next task new =>
      split at done
      · cases done
      · cases done
        have fits := (newTask_fits id new).init
        refine ⟨fits.opened, fits.own, fits.named, fun parent same => ?_⟩
        cases same
        exact family

theorem scatterInstance_bare {job : Job} {parent : WorkflowInstance} {parentIDStr basename : String}
    {workflowStep : WorkflowStep} {scatterParent uuid : String} {order : List String}
    {counter : List Nat} {made : WorkflowInstance × List WorkflowStepInput}
    (done : scatterInstance job parent parentIDStr basename workflowStep scatterParent uuid
    order counter =
      .ok made) : Bare made.1 := by
  unfold scatterInstance at done
  split at done
  · cases done
  · cases done
    exact ⟨rfl, rfl, rfl⟩

theorem expand_counted {qm : ServerMgr} {parentID : String} {spare : Nat}
    {order : Nat -> List String} {uuids : Nat -> String} {counters : List (List Nat)}
    {process : ProcessInstance} (counted : Counted qm jobid entrypoint)
    (allowed : Counting jobid entrypoint qm
    (.scatter parentID spare order uuids counters process)) :
    Counted (expand qm jobid parentID spare order uuids counters process) jobid entrypoint ∧
      SameClosed qm.store (expand qm jobid parentID spare order uuids counters process).store
          jobid := by
  unfold expand
  split
  · next job parent workflowStep foundJob found stepFound =>
      rcases counted.counts.loaded with ⟨known, foundKnown, id, _⟩
      rw [foundJob] at foundKnown
      cases foundKnown
      unfold ServerMgr.scatterChildren
      dsimp only
      split
      · exact ⟨counted, fun _ => rfl⟩
      · cases process with
        | task ptr =>
            rcases allowed with ⟨ofThis, parentName⟩
            rcases of_decide_eq_true ofThis with ⟨small, own⟩
            dsimp only
            split
            · exact ⟨counted, fun _ => rfl⟩
            · next made rounds =>
                generalize counters.map
                    (scatterProcessName (base (qm.store.processIDStr (.task ptr)))) = children
                have quiet : Store.Quiet qm.store (qm.store.modifyTask ptr fun task =>
                    { task with scatterChildren := children }) :=
                  Store.Quiet.modifyTask qm.store ptr rfl Iff.rfl
                have unseen := Unseen.of_quiet quiet jobid
                have countedNamed := counted.of_quiet quiet
                rw [parentName] at rounds ⊢
                refine And.imp_right
                    (fun same name => (same name).trans (unseen.instanceCompleted name))
                  (addScatterTasks_counted _ (fun task member => ?_) _ countedNamed)
                rcases exists_of_mem_children member with ⟨entry, listed, filled, name, rfl⟩
                rcases Fallible.mem_of_mapM_ok rounds listed with ⟨round, _, done⟩
                have fits := scatterTask_fits id own done
                exact ⟨fits.opened, fits.own, fits.named, fits.family⟩
        | workflowInstance localID =>
            dsimp only
            split
            · exact ⟨counted, fun _ => rfl⟩
            · split
              · exact ⟨counted, fun _ => rfl⟩
              · next made rounds =>
                  refine addScatterInstances_counted _ (fun wi member => ?_) qm counted
                  rcases exists_of_mem_children member with ⟨entry, listed, filled, name, rfl⟩
                  rcases Fallible.mem_of_mapM_ok rounds listed with ⟨round, _, done⟩
                  have bare := scatterInstance_bare done
                  exact ⟨bare.tasks, bare.subworkflows, bare.remain⟩
  · exact ⟨counted, fun _ => rfl⟩

/-! ## Runs -/

theorem survives_eq_some {State Result : Type} {result : Except Halt (State × Result)}
    {state : State} (returned : survives result = some state) :
    Exists fun answer => result = .ok (state, answer) := by
  unfold survives at returned
  split at returned
  · next answer => exact ⟨answer, congrArg (fun kept => Except.ok (kept, answer))
      (Option.some.inj returned)⟩
  · cases returned

/-- What a counting step preserves, and what it completes. -/
theorem step_counted {collect : Collect} {qm last : ServerMgr} {event : Event}
    (counted : Counted qm jobid entrypoint) (allowed : Counting jobid entrypoint qm event)
    (stepped : step collect jobid qm event = some last) :
    Counted last jobid entrypoint ∧
      forall name wi, last.store.instanceOf jobid name = some wi -> wi.state = .completed ->
        qm.store.instanceCompleted jobid name = true ∨ last.store.stepsLeft jobid wi = 0 := by
  have earlier (same : SameClosed qm.store last.store jobid) (name : String) (wi : WorkflowInstance)
      (found : last.store.instanceOf jobid name = some wi) (closed : wi.state = .completed) :
      qm.store.instanceCompleted jobid name = true ∨ last.store.stepsLeft jobid wi = 0 := by
    left
    rw [← same name]
    exact instanceCompleted_iff.mpr ⟨wi, found, closed⟩
  cases event with
  | addWorkflowInstance uuid localID workflowDefinition =>
      cases stepped
      exact ⟨counted.addWorkflowInstance ⟨rfl, rfl, rfl⟩,
        earlier fun name => addWorkflowInstance_instanceCompleted _ name⟩
  | setInstanceState localID newState =>
      simp only [step] at stepped
      split at stepped
      · next opens =>
          cases stepped
          have unseen : Unseen qm.store (qm.store.setInstanceState jobid localID newState)
              jobid := by
            refine Unseen.modifyInstance qm.store jobid jobid localID fun wi found => ?_
            have running : wi.state ≠ .completed := by
              intro closed
              rw [instanceCompleted_iff.mpr ⟨wi, found, closed⟩] at opens
              cases opens.2
            rw [Prod.mk.injEq, Prod.mk.injEq, Prod.mk.injEq]
            exact ⟨rfl, rfl, rfl, propext ⟨fun closed => absurd closed opens.1, fun closed =>
                absurd closed running⟩⟩
          refine ⟨⟨counted.counts.unseen unseen, fun id ptr known => ?_⟩,
              earlier unseen.instanceCompleted⟩
          have tasks : (qm.store.setInstanceState jobid localID newState).task = qm.store.task :=
            Store.modifyInstance_task ..
          have next : (qm.store.setInstanceState jobid localID newState).nextTask =
              qm.store.nextTask :=
            Store.modifyInstance_nextTask ..
          dsimp only
          rw [tasks, next]
          exact counted.mapped id ptr known
      · cases stepped
  | createTask localID stepnameBase workflowStep =>
      cases stepped
      rcases createTask_counted counted localID stepnameBase workflowStep with ⟨later, same⟩
      exact ⟨later, earlier same⟩
  | addSubworkflow localID subworkflow =>
      cases stepped
      rcases allowed with ⟨below, named, notMain, fresh, opened⟩
      refine ⟨⟨counted.counts.addSubworkflow below named notMain fresh opened, fun id ptr known =>
          ?_⟩, earlier ?_⟩
      · have tasks : (qm.store.addSubworkflow jobid localID subworkflow).task = qm.store.task :=
          Store.modifyInstance_task ..
        have next : (qm.store.addSubworkflow jobid localID subworkflow).nextTask =
            qm.store.nextTask :=
          Store.modifyInstance_nextTask ..
        dsimp only
        rw [tasks, next]
        exact counted.mapped id ptr known
      · exact addSubworkflow_instanceCompleted localID subworkflow
  | scatter parentID spare order uuids counters process =>
      cases stepped
      rcases expand_counted counted allowed with ⟨later, same⟩
      exact ⟨later, earlier same⟩
  | setState ptr newState =>
      simp only [step] at stepped
      split at stepped
      · next ofThis =>
          cases stepped
          exact ⟨counted.taskSetState (of_decide_eq_true ofThis).1 allowed,
            earlier (taskSetState_instanceCompleted ptr newState)⟩
      · cases stepped
  | resetTask ptr =>
      simp only [step] at stepped
      split at stepped
      · cases stepped
        have quiet := Store.Quiet.resetTaskTrue allowed
        exact ⟨counted.of_quiet quiet, earlier (Unseen.of_quiet quiet jobid).instanceCompleted⟩
      · cases stepped
  | taskCompleted ptr =>
      simp only [step] at stepped
      split at stepped
      · next ofThis =>
          rcases survives_eq_some stepped with ⟨err, done⟩
          rcases of_decide_eq_true ofThis with ⟨small, own⟩
          obtain ⟨later, advance⟩ :=
            taskCompleted_advance collect _ _ qm ptr last err counted small own allowed done
          exact ⟨later, advance.progress.earned⟩
      · cases stepped
  | completeSubworkflow localID =>
      rcases survives_eq_some stepped with ⟨closing, done⟩
      obtain ⟨advance, _, kept⟩ :=
        @completeSubworkflow_advance jobid entrypoint collect _ qm localID last closing done
      exact ⟨advance.counted counted (kept counted.counts allowed), advance.progress.earned⟩

/-- A CWL job without instances and tasks, as it is submitted. From here on every counter is made
by the operations of the run. -/
structure Fresh (qm : ServerMgr) (jobid entrypoint : String) : Prop where
  loaded : Exists fun job => qm.store.jobs.lookup jobid = some job ∧ job.id = jobid ∧
      job.entrypoint = entrypoint
  instances : forall localID, qm.store.instanceOf jobid localID = none
  tasks : forall ptr, ptr < qm.store.nextTask -> (qm.store.task ptr).ident.jobId ≠ jobid
  mapped : forall id ptr, qm.taskMap.lookup id = some ptr ->
    ptr < qm.store.nextTask ∧ (qm.store.task ptr).ident = id

theorem Fresh.counted {qm : ServerMgr} (fresh : Fresh qm jobid entrypoint) :
    Counted qm jobid entrypoint where
  counts := {
    loaded := fresh.loaded
    instances := fun localID wi found => by
      rw [fresh.instances] at found
      cases found
    listed := fun ptr small own => absurd own (fresh.tasks ptr small)
    family := fun ptr small own => absurd own (fresh.tasks ptr small) }
  mapped := fresh.mapped

/-- Along a counting run every workflow instance has as many `RemainSteps` as steps that are not
completed, and a step completes an instance only when none is left.  The counter moves with the
state of a task in one direction only, and the instances of a scattered sub-workflow are counted
down without having been counted up; a counting run keeps away from both. -/
theorem remainSteps_counts {collect : Collect} {start qm : ServerMgr}
    (fresh : Fresh start jobid entrypoint)
    (reached : Reaches (step collect jobid) (Counting jobid entrypoint) start qm) :
    (forall localID wi, qm.store.instanceOf jobid localID = some wi ->
      wi.remainSteps = qm.store.stepsLeft jobid wi ∧ 0 ≤ wi.remainSteps) ∧
    forall event last, Counting jobid entrypoint qm event ->
        step collect jobid qm event = some last ->
      forall localID wi, last.store.instanceOf jobid localID = some wi -> wi.state = .completed ->
        qm.store.instanceCompleted jobid localID = false -> last.store.stepsLeft jobid wi = 0 := by
  have counted : Counted qm jobid entrypoint := by
    refine @Reaches.invariant ServerMgr Event _ _ _ (fun qm => Counted qm jobid entrypoint)
        fresh.counted ?_ _ reached
    intro before event after counted allowed stepped
    exact (step_counted counted allowed stepped).1
  refine ⟨fun localID wi found => ?_, fun event last allowed stepped localID wi found
      closed opened => ?_⟩
  · have exact := (counted.counts.instances localID wi found).counted
    exact ⟨exact, by omega⟩
  · rcases (step_counted counted allowed stepped).2 localID wi found closed with already | nothing
    · rw [opened] at already
      cases already
    · exact nothing

end

/-! ## A workflow with a sub-workflow -/

private def plainStep : WorkflowStep :=
  ⟨"#wf/a", [], [], .commandLineTool, [], ""⟩

private def nestedJob : ServerMgr :=
  .newServerMgr
    { task := fun _ => Task.blank
      nextTask := 0
      jobs := AList.insert "j" ⟨"j", .inProgress, true, "#main", ⟨1, 0, "", false⟩, [], 0,
        AList.insert "#wf" (.workflow ⟨"#wf", [plainStep], [], []⟩) ∅, ∅⟩ ∅ }

private def emptyOutputs : Collect := fun _ _ wi => .ok ([], wi.looked)

private theorem nestedJob_fresh : Fresh nestedJob "j" "#main" where
  loaded := ⟨_, AList.lookup_insert _, rfl, rfl⟩
  instances := fun localID => by
    unfold Store.instanceOf
    change (AList.lookup "j" (AList.insert "j" _ ∅)).bind _ = none
    rw [AList.lookup_insert]
    rfl
  tasks := fun _ small => absurd small (Nat.not_lt_zero _)
  mapped := fun _ _ known => nomatch known

/-- The main instance and one below it. -/
private def twoInstances : ServerMgr :=
  final (step emptyOutputs "j") nestedJob
    [.addWorkflowInstance "u" "#main" "#wf", .addWorkflowInstance "v" "#main/s" "#wf"]

private def withSubworkflow : ServerMgr :=
  final (step emptyOutputs "j") twoInstances [.addSubworkflow "#main" "#main/s"]

/-- A task in each of the instances. -/
private def withTasks : ServerMgr :=
  final (step emptyOutputs "j") withSubworkflow
      [.createTask "#main" "a" plainStep, .createTask "#main/s" "b" plainStep]

private def subworkflowDone : ServerMgr :=
  final (step emptyOutputs "j") withTasks [.taskCompleted 1]

private theorem withTasks_reached :
    Reaches (step emptyOutputs "j") (Counting "j" "#main") nestedJob withTasks := by
  have instances : Reaches (step emptyOutputs "j") (Counting "j" "#main") nestedJob
      twoInstances := by
    refine Reaches.of_exec _ ?_ .refl (exec_eq_final (by decide))
    intro event member state
    rcases List.mem_cons.mp member with rfl | later
    · trivial
    · rw [List.mem_singleton.mp later]
      trivial
  have listed : Reaches (step emptyOutputs "j") (Counting "j" "#main") nestedJob
      withSubworkflow := by
    refine instances.snoc (.addSubworkflow "#main" "#main/s")
        ⟨by decide, by decide, by decide, ?_, by decide⟩ rfl
    intro wi found
    have none : (twoInstances.store.instanceOf "j" "#main").map WorkflowInstance.subworkflows = some
        [] := by decide
    rw [found, Option.map_some] at none
    rw [Option.some.inj none]
    exact List.not_mem_nil
  refine Reaches.of_exec _ ?_ listed (exec_eq_final (by decide))
  intro event member state
  rcases List.mem_cons.mp member with rfl | later
  · trivial
  · rw [List.mem_singleton.mp later]
    trivial

/-- Above the sub-workflow there are the main instance, which lists it, and nothing. -/
private theorem withTasks_anchored (n : Nat) :
    Anchored "j" withTasks.store "#main" (Nat.iterate Store.parentID n "#main/s") := by
  match n with
  | 0 =>
      right
      intro above found
      have listed : (withTasks.store.instanceOf "j" "#main").map WorkflowInstance.subworkflows =
          some ["#main/s"] := by decide
      have parent : Store.parentID (Nat.iterate Store.parentID 0 "#main/s") = "#main" := by decide
      rw [← parent, found, Option.map_some] at listed
      rw [Option.some.inj listed]
      exact List.mem_cons_self
  | 1 => exact Or.inl (by decide)
  | n + 2 =>
      have top : Nat.iterate Store.parentID (n + 2) "#main/s" = "" := by
        rw [Function.iterate_add_apply]
        exact Function.iterate_fixed (by decide) n
      rw [top]
      right
      intro above found
      have missing : withTasks.store.instanceOf "j" (Store.parentID "") = none :=
        Option.isNone_iff_eq_none.mp (by decide)
      rw [missing] at found
      cases found

/-- The only task of the sub-workflow completes, and the sub-workflow with it:
one of the two steps of the main instance is left. -/
theorem remainSteps_counts_nested :
    Fresh nestedJob "j" "#main" ∧
      Reaches (step emptyOutputs "j") (Counting "j" "#main") nestedJob subworkflowDone ∧
      subworkflowDone.store.instanceCompleted "j" "#main/s" = true ∧
      (subworkflowDone.store.instanceOf "j" "#main").map WorkflowInstance.remainSteps = some 1 := by
  have reached : Reaches (step emptyOutputs "j") (Counting "j" "#main") nestedJob
      subworkflowDone := by
    have owner : (withTasks.store.task 1).workflowInstanceID = "#main/s" := by decide
    refine withTasks_reached.snoc (.taskCompleted 1) ?_ rfl
    intro n
    rw [owner]
    exact withTasks_anchored n
  refine ⟨nestedJob_fresh, reached, by decide, ?_⟩
  have counted := (remainSteps_counts nestedJob_fresh reached).1 "#main"
  have left : (subworkflowDone.store.instanceOf "j" "#main").map
      (fun wi => subworkflowDone.store.stepsLeft "j" wi) = some 1 := by decide
  cases found : subworkflowDone.store.instanceOf "j" "#main" with
  | none =>
      rw [found] at left
      cases left
  | some wi =>
      rw [found, Option.map_some] at left
      rw [Option.map_some, (counted wi found).1, Option.some.inj left]
      rfl

private def sentBack : ServerMgr :=
  final (step emptyOutputs "j") nestedJob
    [.addWorkflowInstance "u" "#main" "#wf", .createTask "#main" "a" plainStep,
        .createTask "#main" "b" plainStep,
      .setState 0 .completed, .resetTask 0]

/-- A completed task is sent back to pending: two steps are open and
`RemainSteps` is one. -/
theorem remainSteps_misses_reset :
    Fresh nestedJob "j" "#main" ∧ Reaches (step emptyOutputs "j") anyEvent nestedJob sentBack ∧
      Exists fun wi => sentBack.store.instanceOf "j" "#main" = some wi ∧
        sentBack.store.stepsLeft "j" wi = 2 ∧ wi.remainSteps = 1 := by
  refine ⟨nestedJob_fresh, Reaches.of_exec _ (fun _ _ _ => trivial) .refl
      (exec_eq_final (by decide)), ?_⟩
  have fields : (sentBack.store.instanceOf "j" "#main").map
      (fun wi => (sentBack.store.stepsLeft "j" wi, wi.remainSteps)) = some (2, 1) := by decide
  rcases Option.map_eq_some_iff.mp fields with ⟨wi, found, same⟩
  exact ⟨wi, found, congrArg Prod.fst same, congrArg Prod.snd same⟩

end StepCounter

end Core
end Awe
