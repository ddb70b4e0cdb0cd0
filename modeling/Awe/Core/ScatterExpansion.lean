import Awe.Core.ScatterChildren
import Awe.Core.StepCounter

namespace Awe
namespace Core

open Lib Lib.Path StepCounter

/-!
# Expanding a scatter task

What a call of `processInstanceEnQueueScatter` for a task leaves behind: one
new task object for each index tuple, named after it, in the workflow instance
of the scatter task and in the task map, in state ready.
-/

namespace Scatter

/-! ## Adding the children -/

/-- A task as the loop before has made it. -/
structure Addable (jobid localID : String) (task : Task) : Prop where
  state : task.state = .init
  job : task.ident.jobId = jobid
  owner : task.workflowInstanceID = localID
  uuid : task.workflowInstanceUUID ≠ ""

/-- No task of the instance has this name, and the task map has no such entry. `AddTask` looks in
the instance and `TaskMap.Add` in the map, and either refuses a name it has. -/
def NameFree (qm : ServerMgr) (wi : WorkflowInstance) (id : TaskUniqueIdentifier) : Prop :=
  (forall ptr, ptr ∈ wi.tasks -> (qm.store.task ptr).ident.taskName ≠ id.taskName) ∧
      qm.taskMap.lookup id = none

/-- The state in which the loop leaves a child. -/
def readied (task : Task) : Task :=
  { task with state := .ready, comment := "added by processInstanceEnQueueScatter" }

/-- The server with these children behind its tasks. -/
structure Added (qm last : ServerMgr) (jobid localID : String) (wi : WorkflowInstance)
    (tasks : List Task) : Prop where
  nextTask : last.store.nextTask = qm.store.nextTask + tasks.length
  child : forall k task, tasks[k]? = some task ->
      last.store.task (qm.store.nextTask + k) = readied task
  old : forall ptr, ptr < qm.store.nextTask -> last.store.task ptr = qm.store.task ptr
  found : last.store.instanceOf jobid localID = some { wi with
    remainSteps := wi.remainSteps + tasks.length
    tasks := wi.tasks ++ List.range' qm.store.nextTask tasks.length }
  mapped : forall id, id ∉ tasks.map Task.ident -> last.taskMap.lookup id = qm.taskMap.lookup id
  allocated : (forall id ptr, qm.taskMap.lookup id = some ptr -> ptr < qm.store.nextTask) ->
    forall id ptr, last.taskMap.lookup id = some ptr -> ptr < last.store.nextTask

section

variable {qm : ServerMgr} {jobid localID : String} {wi : WorkflowInstance}

/-- `TaskMap.Add` of a new task under a name that is not taken. -/
theorem taskMapAdd_fresh {ptr : Nat} {caller : String}
    (missing : qm.taskMap.lookup (qm.store.task ptr).ident = none)
    (fresh : (qm.store.task ptr).state = .init) (writable : Store.Writable (qm.store.task ptr)) :
    qm.taskMapAdd ptr caller =
      ({ qm with
          store := (qm.store.withState ptr .pending).modifyTask ptr fun task =>
            { task with comment := "added by " ++ caller }
          taskMap := qm.taskMap.insert (qm.store.task ptr).ident ptr }, none) := by
  unfold ServerMgr.taskMapAdd
  dsimp only
  rw [missing, if_pos fresh, Store.taskSetState_writes writable (by rw [fresh]; decide) (by decide)]
  rfl

/-- One round of the last loop, for a name that is free. -/
theorem addScatterTasks_cons (found : qm.store.instanceOf jobid localID = some wi)
    (jobNamed : jobid ≠ "") (named : localID ≠ "") {task : Task}
    (addable : Addable jobid localID task) (free : NameFree qm wi task.ident) (rest : List Task) :
    Exists fun next => ServerMgr.addScatterTasks jobid localID qm (task :: rest) =
        ServerMgr.addScatterTasks jobid localID next rest ∧
            Added qm next jobid localID wi [task] := by
  have accepted : Exists fun after => qm.store.addTask jobid localID task = .ok
      (after, qm.store.nextTask) := by
    unfold Store.addTask
    rw [found]
    dsimp only
    have unnamed : ¬(wi.tasks.any fun ptr => (qm.store.task ptr).ident.taskName =
        task.ident.taskName) = true := by
      intro taken
      rcases List.any_eq_true.mp taken with ⟨ptr, member, same⟩
      exact free.1 ptr member (of_decide_eq_true same)
    rw [addable.owner, if_neg named, if_neg unnamed]
    exact ⟨_, rfl⟩
  rcases accepted with ⟨after, added⟩
  rcases addTask_adds added with ⟨_, known, adds⟩
  have same : known = wi := Option.some.inj (adds.found.symm.trans found)
  subst same
  have new := adds.new
  have writable : Store.Writable task := ⟨addable.job ▸ jobNamed, addable.uuid⟩
  have mapped := @taskMapAdd_fresh { qm with store := after } qm.store.nextTask
      "processInstanceEnQueueScatter"
    (by rw [new]; exact free.2) (by rw [new]; exact addable.state) (by rw [new]; exact writable)
  have text : "added by " ++ "processInstanceEnQueueScatter" =
      "added by processInstanceEnQueueScatter" := by decide
  obtain ⟨marked, isMarked⟩ : Exists fun marked : Store => marked =
      (after.withState qm.store.nextTask .pending).modifyTask qm.store.nextTask fun task =>
        { task with comment := "added by processInstanceEnQueueScatter" } := ⟨_, rfl⟩
  rw [new, text, ← isMarked] at mapped
  have markedTask : marked.task qm.store.nextTask = { readied task with state := .pending } := by
    simp only [isMarked, Store.withState, Store.modifyTask_self, new, readied]
  have ready : marked.taskSetState qm.store.nextTask .ready =
      (marked.withState qm.store.nextTask .ready, none) :=
    Store.taskSetState_writes (by rw [markedTask]; exact writable)
      (by rw [markedTask]; exact fun same => (nomatch same)) (by decide)
  refine ⟨{ qm with
    store := marked.withState qm.store.nextTask .ready
    taskMap := qm.taskMap.insert task.ident qm.store.nextTask }, ?_, ?_⟩
  · rw [ServerMgr.addScatterTasks, added]
    dsimp only
    rw [mapped]
    dsimp only
    rw [ready]
  · have next : (marked.withState qm.store.nextTask .ready).nextTask = qm.store.nextTask + 1 := by
      rw [isMarked]
      exact adds.nextTask
    refine ⟨next, ?_, ?_, ?_, ?_, ?_⟩
    · intro k child listed
      have zero : k = 0 := by
        have small := (List.getElem?_eq_some_iff.mp listed).1
        rw [List.length_singleton] at small
        omega
      subst zero
      cases listed
      rw [Nat.add_zero]
      simp only [Store.withState, Store.modifyTask_self, markedTask, readied]
    · intro ptr small
      have different : ptr ≠ qm.store.nextTask := by omega
      simp only [Store.withState, isMarked, Store.modifyTask_of_ne _ different]
      exact adds.old small
    · have there := adds.lookup localID
      rw [if_pos rfl] at there
      rw [isMarked]
      exact there
    · intro id away
      rw [List.map_singleton, List.mem_singleton] at away
      rw [GoMap.lookup_insert_if, if_neg away]
    · intro small id ptr known
      dsimp only
      rw [next]
      rcases GoMap.lookup_insert_eq_some.mp known with ⟨_, rfl⟩ | ⟨_, earlier⟩
      · omega
      · have := small id ptr earlier
        omega

/-- The loop goes past its first task only if the name is free. -/
theorem nameFree_of_addScatterTasks (found : qm.store.instanceOf jobid localID = some wi)
    (named : localID ≠ "") {task : Task} {rest : List Task}
    (owner : task.workflowInstanceID = localID)
    (allocated : forall id ptr, qm.taskMap.lookup id = some ptr -> ptr < qm.store.nextTask)
    (passed : (ServerMgr.addScatterTasks jobid localID qm (task :: rest)).2 = none) :
    NameFree qm wi task.ident := by
  rw [ServerMgr.addScatterTasks] at passed
  split at passed
  · cases passed
  · next after ptr added =>
      have unnamed : ¬(wi.tasks.any fun ptr => (qm.store.task ptr).ident.taskName =
          task.ident.taskName) = true := by
        intro taken
        unfold Store.addTask at added
        rw [found] at added
        dsimp only at added
        rw [owner, if_neg named, if_pos taken] at added
        cases added
      rcases addTask_adds added with ⟨rfl, known, adds⟩
      refine ⟨fun ptr member same =>
          unnamed (List.any_eq_true.mpr ⟨ptr, member, decide_eq_true same⟩), ?_⟩
      cases entry : qm.taskMap.lookup task.ident with
      | none => rfl
      | some other =>
          have different : other ≠ qm.store.nextTask := Nat.ne_of_lt (allocated _ _ entry)
          have refused : (({ qm with store := after } : ServerMgr).taskMapAdd qm.store.nextTask
              "processInstanceEnQueueScatter").2 ≠ none := by
            unfold ServerMgr.taskMapAdd
            dsimp only
            rw [adds.new, entry, Option.filter_some_pos (by simpa using different)]
            exact fun absent => (nomatch absent)
          split at passed
          · cases passed
          · next mapped =>
              rw [mapped] at refused
              exact absurd rfl refused

theorem Added.cons {next last : ServerMgr} {task : Task} {rest : List Task}
    (first : Added qm next jobid localID wi [task])
    (others : Added next last jobid localID
      { wi with remainSteps := wi.remainSteps + 1, tasks := wi.tasks ++ [qm.store.nextTask] }
      rest) :
    Added qm last jobid localID wi (task :: rest) := by
  have more : next.store.nextTask = qm.store.nextTask + 1 := first.nextTask
  refine ⟨?_, ?_, ?_, ?_, ?_, fun small => others.allocated (first.allocated small)⟩
  · rw [others.nextTask, more, List.length_cons]
    omega
  · intro k child listed
    cases k with
    | zero =>
        cases listed
        rw [others.old _ (by omega)]
        exact first.child 0 task rfl
    | succ k =>
        rw [show qm.store.nextTask + (k + 1) = next.store.nextTask + k by omega]
        exact others.child k child listed
  · intro ptr small
    rw [others.old ptr (by omega), first.old ptr small]
  · rw [others.found, more, List.length_cons, List.range'_succ, List.append_assoc,
      List.singleton_append]
    congr 2
    push_cast
    omega
  · intro id away
    rw [List.map_cons, List.mem_cons, not_or] at away
    rw [others.mapped id away.2, first.mapped id]
    rw [List.map_singleton, List.mem_singleton]
    exact away.1

/-- A name that is free stays so while children with other names are added. -/
theorem NameFree.added {next : ServerMgr} {task : Task} {id : TaskUniqueIdentifier}
    (first : Added qm next jobid localID wi [task])
    (placed : forall ptr, ptr ∈ wi.tasks -> ptr < qm.store.nextTask)
    (different : task.ident.taskName ≠ id.taskName) :
    NameFree next { wi with
        remainSteps := wi.remainSteps + 1, tasks := wi.tasks ++ [qm.store.nextTask] } id ↔
      NameFree qm wi id := by
  have child : next.store.task qm.store.nextTask = readied task := first.child 0 task rfl
  have new : (next.store.task qm.store.nextTask).ident = task.ident := by
    rw [child]
    rfl
  have other : id ∉ [task].map Task.ident := by
    rw [List.map_singleton, List.mem_singleton]
    rintro rfl
    exact different rfl
  unfold NameFree
  rw [first.mapped id other]
  refine and_congr_left fun _ => ⟨fun free ptr member => ?_, fun free ptr member => ?_⟩
  · rw [← first.old ptr (placed ptr member)]
    exact free ptr (List.mem_append_left _ member)
  · rcases List.mem_append.mp member with earlier | last
    · rw [first.old ptr (placed ptr earlier)]
      exact free ptr earlier
    · rw [List.mem_singleton.mp last, new]
      exact different

end

section

variable {jobid localID : String}

/-- The last loop adds all children if their names are free, and stops with an
error otherwise. -/
theorem addScatterTasks_added (jobNamed : jobid ≠ "") (named : localID ≠ "") (tasks : List Task)
    (addable : forall task, task ∈ tasks -> Addable jobid localID task)
    (distinct : (tasks.map fun task => task.ident.taskName).Nodup) :
    forall (qm : ServerMgr) (wi : WorkflowInstance), qm.store.instanceOf jobid localID = some wi ->
      (forall ptr, ptr ∈ wi.tasks -> ptr < qm.store.nextTask) ->
      (forall id ptr, qm.taskMap.lookup id = some ptr -> ptr < qm.store.nextTask) ->
      ((forall task, task ∈ tasks -> NameFree qm wi task.ident) ->
        Exists fun last => ServerMgr.addScatterTasks jobid localID qm tasks = (last, none) ∧
          Added qm last jobid localID wi tasks) ∧
      ((ServerMgr.addScatterTasks jobid localID qm tasks).2 = none ->
        forall task, task ∈ tasks -> NameFree qm wi task.ident) := by
  induction tasks with
  | nil =>
      intro qm wi found _ _
      refine ⟨fun _ => ⟨qm, rfl, rfl, ?_, fun _ _ => rfl, ?_, fun _ _ => rfl, fun small => small⟩,
        fun _ task member => ?_⟩
      · intro k task listed
        cases listed
      · rw [found]
        simp
      · cases member
  | cons task rest inductionHypothesis =>
      intro qm wi found placed allocated
      rw [List.map_cons, List.nodup_cons] at distinct
      have addableRest : forall other, other ∈ rest -> Addable jobid localID other :=
          fun other member =>
        addable other (List.mem_cons_of_mem _ member)
      have apart (other : Task) (member : other ∈ rest) :
          task.ident.taskName ≠ other.ident.taskName := fun same =>
        distinct.1 (List.mem_map.mpr ⟨other, member, same.symm⟩)
      -- Once the first name is known to be free, the rest is the loop over the other tasks.
      have step (free : NameFree qm wi task.ident) : Exists fun next =>
          ServerMgr.addScatterTasks jobid localID qm (task :: rest) =
            ServerMgr.addScatterTasks jobid localID next rest ∧
          Added qm next jobid localID wi [task] ∧
          ((forall other, other ∈ rest -> NameFree qm wi other.ident) ->
            Exists fun last => ServerMgr.addScatterTasks jobid localID next rest = (last, none) ∧
              Added qm last jobid localID wi (task :: rest)) ∧
          ((ServerMgr.addScatterTasks jobid localID next rest).2 = none ->
            forall other, other ∈ rest -> NameFree qm wi other.ident) := by
        obtain ⟨next, same, first⟩ :=
          addScatterTasks_cons found jobNamed named (addable task List.mem_cons_self) free rest
        have more : next.store.nextTask = qm.store.nextTask + 1 := first.nextTask
        obtain ⟨adds, frees⟩ := inductionHypothesis addableRest distinct.2 next _ first.found
          (by
            intro ptr member
            rcases List.mem_append.mp member with earlier | last
            · have := placed ptr earlier
              omega
            · simp only [List.length_singleton, List.range'_one, List.mem_singleton] at last
              omega)
          (first.allocated allocated)
        refine ⟨next, same, first, fun freeRest => ?_, fun none other member => ?_⟩
        · obtain ⟨last, done, added⟩ := adds fun other member =>
            (NameFree.added first placed (apart other member)).mpr (freeRest other member)
          exact ⟨last, done, first.cons added⟩
        · exact (NameFree.added first placed (apart other member)).mp (frees none other member)
      constructor
      · intro free
        rcases step (free task List.mem_cons_self) with ⟨next, same, _, adds, _⟩
        obtain ⟨last, done, added⟩ :=
            adds fun other member => free other (List.mem_cons_of_mem _ member)
        exact ⟨last, same.trans done, added⟩
      · intro none
        have free : NameFree qm wi task.ident :=
          nameFree_of_addScatterTasks found named (addable task List.mem_cons_self).owner
              allocated none
        rcases step free with ⟨next, same, _, _, frees⟩
        rw [same] at none
        intro other member
        rcases List.mem_cons.mp member with rfl | later
        · exact free
        · exact frees none other later

end

theorem taskMapAdd_other (qm : ServerMgr) (ptr : Nat) (caller : String) {other : Nat}
    (different : other ≠ ptr) :
    (qm.taskMapAdd ptr caller).1.store.task other = qm.store.task other := by
  unfold ServerMgr.taskMapAdd
  dsimp only
  split
  · rfl
  · have pending : (if (qm.store.task ptr).state = .init then qm.store.taskSetState ptr .pending
        else (qm.store, none)).1.task other = qm.store.task other := by
      split
      · exact Store.taskSetState_other qm.store ptr .pending different
      · rfl
    split
    · next written =>
        rw [written] at pending
        exact pending
    · next written =>
        rw [written] at pending
        dsimp only
        rw [Store.modifyTask_of_ne _ different]
        exact pending

/-- Whatever happens, the last loop does not write to the tasks that were there. -/
theorem addScatterTasks_old {jobid localID : String} (tasks : List Task) (qm : ServerMgr)
    {ptr : Nat} (small : ptr < qm.store.nextTask) :
    (ServerMgr.addScatterTasks jobid localID qm tasks).1.store.task ptr = qm.store.task ptr := by
  induction tasks generalizing qm with
  | nil => rfl
  | cons task rest inductionHypothesis =>
      rw [ServerMgr.addScatterTasks]
      split
      · rfl
      · next after new added =>
          rcases addTask_adds added with ⟨rfl, wi, adds⟩
          have different : ptr ≠ qm.store.nextTask := Nat.ne_of_lt small
          have mapped := taskMapAdd_other { qm with store := after } qm.store.nextTask
            "processInstanceEnQueueScatter" different
          have larger := (ServerMgr.taskMapAdd_quiet { qm with store := after } qm.store.nextTask
            "processInstanceEnQueueScatter").nextTask
          split
          · next answered =>
              rw [answered] at mapped
              exact mapped.trans (adds.old small)
          · next between answered =>
              rw [answered] at mapped larger
              have ready := Store.taskSetState_other between.store qm.store.nextTask
                  .ready different
              have next := Store.taskSetState_nextTask between.store qm.store.nextTask .ready
              split
              · next written =>
                  rw [written] at ready
                  exact ready.trans (mapped.trans (adds.old small))
              · next written =>
                  rw [written] at ready next
                  have more := adds.nextTask
                  rw [inductionHypothesis _ (by dsimp only at next larger ⊢; omega)]
                  exact ready.trans (mapped.trans (adds.old small))

/-! ## The call -/

/-- A call of the function for a task, with what it finds. The step, the arrays and the method are
what the function reads; bundling them keeps the statements readable. -/
structure Call where
  env : Environment
  lookup : SourceLookup
  spare : Nat
  order : Nat -> List String
  uuids : Nat -> String
  qm : ServerMgr
  jobid : String
  parentID : String
  basename : String
  ptr : Nat
  job : Job
  parent : WorkflowInstance
  step : WorkflowStep
  arrays : List (List CWLValue)
  method : ScatterMethod

namespace Call

def result (call : Call) : Except Halt (ServerMgr × Option Notice × Err) :=
  call.qm.processInstanceEnQueueScatter call.env call.lookup call.spare call.order
      call.uuids call.jobid
    call.parentID (.task call.ptr)

def lengths (call : Call) : List Nat :=
  call.arrays.map List.length

def tuples (call : Call) : List (List Nat) :=
  indexTuples call.method call.lengths

def childName (call : Call) (tuple : List Nat) : String :=
  scatterProcessName call.basename tuple

def childIdent (call : Call) (tuple : List Nat) : TaskUniqueIdentifier :=
  ⟨call.parentID ++ "/" ++ call.childName tuple, call.jobid⟩

/-- The scatter step is a task of a CWL job that is expanded for the first
time, its arrays are there and not empty, and names are what the rest of the
server makes them. -/
structure Sound (call : Call) : Prop where
  loaded : call.qm.store.jobs.lookup call.jobid = some call.job
  found : call.qm.store.instanceOf call.jobid call.parentID = some call.parent
  started : call.parent.inputs.isSome
  stepFound : (call.qm.store.task call.ptr).workflowStep = some call.step
  scatters : call.step.scatter ≠ []
  read : scatterArrays call.lookup call.step = .ok call.arrays
  filled : forall items, items ∈ call.arrays -> items ≠ []
  method : readMethod call.step.scatterMethod = some call.method
  flat : call.method ≠ .nestedCrossproduct
  names : NamesInputs call.step
  listing : forall n, (call.order n).Perm (templateScatterStepIns call.step).keys
  jobID : call.job.id = call.jobid
  jobNamed : call.jobid ≠ ""
  cwl : call.job.isCWL = true
  entrypoint : hasPrefix call.job.entrypoint "#" = true
  below : hasPrefix call.parentID call.job.entrypoint = true
  uuid : call.parent.uuid ≠ ""
  named : call.basename ≠ ""
  whole : Whole call.basename
  relative : hasPrefix call.basename "#" = false
  ident : (call.qm.store.task call.ptr).ident = ⟨call.parentID ++ "/" ++ call.basename, call.jobid⟩
  owner : (call.qm.store.task call.ptr).workflowInstanceID = call.parentID
  ownerUUID : (call.qm.store.task call.ptr).workflowInstanceUUID ≠ ""
  opened : (call.qm.store.task call.ptr).state ≠ .completed
  outermost : (call.qm.store.task call.ptr).scatterParent = none
  unexpanded : (call.qm.store.task call.ptr).scatterChildren = []
  collecting : (call.qm.store.task call.ptr).finalizing = false
  small : call.ptr < call.qm.store.nextTask
  placed : forall ptr, ptr ∈ call.parent.tasks -> ptr < call.qm.store.nextTask ∧
    Exists fun last => last ≠ "" ∧ Whole last ∧
      (call.qm.store.task ptr).ident.taskName = call.parentID ++ "/" ++ last
  mapped : call.qm.taskMap.lookup ⟨call.parentID ++ "/" ++ call.basename, call.jobid⟩ =
      some call.ptr
  allocated : forall id ptr, call.qm.taskMap.lookup id = some ptr -> ptr < call.qm.store.nextTask
  valid : forall task, task.scatterParent.isSome -> call.env.validateOutputs task = none

end Call

/-- The arrays stand in the order of `Scatter`, and every scattered name belongs
to an input. -/
theorem scatterArrays_ok {lookup : SourceLookup} {step : WorkflowStep}
    {arrays : List (List CWLValue)} (read : scatterArrays lookup step = .ok arrays) :
    arrays.length = step.scatter.length ∧ forall name, name ∈ step.scatter.map base ->
      Exists fun input => input ∈ step.inputs ∧ base input.id = name := by
  unfold scatterArrays at read
  cases sourced : step.scatter.mapM (scatterSource lookup step) with
  | error err =>
      rw [sourced] at read
      cases read
  | ok sources =>
      rw [sourced] at read
      have each := Fallible.mapM_ok_iff.mp sourced
      have both := (Fallible.mapM_ok_iff.mp read).length_eq
      rw [List.length_zip, ← each.length_eq, Nat.min_self] at both
      refine ⟨both.symm, fun name member => ?_⟩
      rcases List.mem_map.mp member with ⟨scatterName, listed, rfl⟩
      rcases List.getElem_of_mem listed with ⟨position, small, there⟩
      have answered := each.get small (each.length_eq ▸ small)
      unfold scatterSource at answered
      cases searched : step.inputs.find? fun input => base input.id = base scatterName with
      | some input =>
          exact ⟨input, List.mem_of_find?_eq_some searched, by simpa using List.find?_some searched⟩
      | none =>
          rw [List.get_eq_getElem, there, searched] at answered
          cases answered

/-- What `NewTask` makes of a plain step name. -/
theorem newTask_plain {job : Job} {uuid parentID name : String} (cwl : job.isCWL = true)
    (loaded : job.id ≠ "") (entrypoint : hasPrefix job.entrypoint "#" = true)
    (below : hasPrefix parentID job.entrypoint = true) (named : name ≠ "") (whole : Whole name)
    (relative : hasPrefix name "#" = false) :
    Exists fun task => newTask job uuid parentID name = .ok task ∧
      task.ident = ⟨parentID ++ "/" ++ name, job.id⟩ ∧ task.state = .init ∧
      task.workflowInstanceID = parentID ∧ task.workflowInstanceUUID = uuid := by
  have apart : hasPrefix name job.entrypoint = false := by
    by_contra starts
    rw [Bool.not_eq_false] at starts
    have hash := (List.isPrefixOf_iff_prefix.1 entrypoint).trans
        (List.isPrefixOf_iff_prefix.1 starts)
    unfold hasPrefix at relative
    rw [List.isPrefixOf_iff_prefix.2 hash] at relative
    cases relative
  have noSlash : hasSuffix name "/" = false := by
    have ends := hasSuffix_append_whole "" named whole
    rwa [String.empty_append] at ends
  have noSlashLong : hasSuffix (parentID ++ "/" ++ name) "/" = false :=
      hasSuffix_append_whole _ named whole
  unfold newTask
  rw [if_neg named, apart, if_neg Bool.false_ne_true, if_neg (fun all => all.2.2 below),
      if_neg loaded, noSlash,
    if_neg Bool.false_ne_true]
  refine ⟨_, rfl, ?_, rfl, rfl, rfl⟩
  dsimp only
  rw [if_pos cwl]
  unfold trimSuffix
  rw [noSlashLong, if_neg Bool.false_ne_true]

namespace Call

variable {call : Call}

/-- A task made for a tuple, before it is added. -/
structure Child (call : Call) (tuple : List Nat) (task : Task) : Prop where
  ident : task.ident = call.childIdent tuple
  state : task.state = .init
  family : task.scatterParent = some ⟨call.parentID ++ "/" ++ call.basename, call.jobid⟩
  owner : task.workflowInstanceID = call.parentID
  uuid : task.workflowInstanceUUID ≠ ""

/-- The tuple whose inputs a child ends up with. -/
def shown (call : Call) (tuple : List Nat) : List Nat :=
  if call.step.scatter.length <= call.spare then call.tuples.getLastD [] else tuple

namespace Sound

theorem childName_named (sound : call.Sound) (tuple : List Nat) : call.childName tuple ≠ "" := by
  intro empty
  unfold childName scatterProcessName at empty
  have letters := congrArg String.toList empty
  simp only [String.toList_append, String.toList_empty, List.append_eq_nil_iff] at letters
  exact sound.named (String.toList_injective (letters.1.1.trans String.toList_empty.symm))

theorem childName_whole (sound : call.Sound) (tuple : List Nat) : Whole (call.childName tuple) :=
  (sound.whole.append (by decide)).append (permutationInstance_whole tuple)

theorem childName_relative (sound : call.Sound) (tuple : List Nat) :
    hasPrefix (call.childName tuple) "#" = false := by
  unfold childName scatterProcessName
  rw [String.append_assoc, hasPrefix_hash_append sound.named]
  exact sound.relative

theorem parentID_named (sound : call.Sound) : call.parentID ≠ "" := by
  intro empty
  have hash := (List.isPrefixOf_iff_prefix.1 sound.entrypoint).trans
      (List.isPrefixOf_iff_prefix.1 sound.below)
  rw [empty, String.toList_empty, List.prefix_nil] at hash
  cases hash

theorem covered (sound : call.Sound) (name : String) (member : name ∈ call.step.scatter.map base) :
    Exists fun input => input ∈ call.step.inputs ∧ base input.id = name :=
  (scatterArrays_ok sound.read).2 name member

theorem arrays_length (sound : call.Sound) : call.arrays.length = call.step.scatter.length :=
  (scatterArrays_ok sound.read).1

/-- As many inputs are scattered as `Scatter` has names. -/
theorem count (sound : call.Sound) :
    (templateScatterStepIns call.step).entries.length = call.step.scatter.length := by
  have visits := order_perm sound.names (sound.listing 0)
  have names : ((scattered call.step).map fun input => base input.id).Perm
      (call.step.scatter.map base) := by
    refine (List.perm_ext_iff_of_nodup (scattered_once sound.names) sound.names.scatter).mpr
        fun name => ?_
    constructor
    · intro member
      rcases List.mem_map.mp member with ⟨input, listed, rfl⟩
      exact of_decide_eq_true (List.mem_filter.mp listed).2
    · intro member
      rcases sound.covered name member with ⟨input, listed, rfl⟩
      exact List.mem_map.mpr ⟨input, List.mem_filter.mpr ⟨listed, decide_eq_true member⟩, rfl⟩
  have keys : (templateScatterStepIns call.step).keys.length =
      (templateScatterStepIns call.step).entries.length :=
    List.length_map ..
  rw [← keys, ← (sound.listing 0).length_eq, (visits.trans names).length_eq, List.length_map]

theorem scatterTask_child (sound : call.Sound) (tuple : List Nat) (n : Nat) :
    Exists fun made => scatterTask call.job call.parent.uuid call.parentID call.basename call.step
        ⟨call.parentID ++ "/" ++ call.basename, call.jobid⟩ (call.order n) tuple = .ok made ∧
      call.Child tuple made.1 ∧
          made.2.Perm (call.step.inputs.map (placeIndex call.step tuple)) := by
  obtain ⟨task, made, ident, state, owner, uuid⟩ :=
      @newTask_plain call.job call.parent.uuid call.parentID
    (call.childName tuple) sound.cwl (sound.jobID ▸ sound.jobNamed) sound.entrypoint sound.below
    (sound.childName_named tuple) (sound.childName_whole tuple) (sound.childName_relative tuple)
  rcases childInputs_perm sound.names (sound.listing n) tuple with ⟨inputs, copied, perm⟩
  unfold childName at made
  refine ⟨({ task.init with
    scatterParent := some ⟨call.parentID ++ "/" ++ call.basename, call.jobid⟩
    processType := .normal }, templateStepIn call.step ++ inputs), ?_, ?_, perm⟩
  · unfold scatterTask
    rw [made]
    dsimp only
    rw [copied]
  · have kept : task.init.ident = task.ident ∧ task.init.state = task.state ∧
        task.init.workflowInstanceID = task.workflowInstanceID ∧
        task.init.workflowInstanceUUID = task.workflowInstanceUUID := by
      unfold Task.init
      dsimp only
      split
      · exact ⟨rfl, rfl, rfl, rfl⟩
      · exact ⟨rfl, rfl, rfl, rfl⟩
    rcases kept with ⟨sameIdent, sameState, sameOwner, sameUUID⟩
    refine ⟨?_, sameState.trans state, rfl, sameOwner.trans owner, ?_⟩
    · rw [show _ = task.ident from sameIdent, ident, sound.jobID]
      rfl
    · rw [show _ = task.workflowInstanceUUID from sameUUID, uuid]
      exact sound.uuid

theorem processIDStr (sound : call.Sound) :
    call.qm.store.processIDStr (.task call.ptr) = call.parentID ++ "/" ++ call.basename := by
  unfold Store.processIDStr
  dsimp only
  rw [sound.ident]

theorem rounds (sound : call.Sound) :
    (SetCounter.new call.step.scatter.length call.arrays call.method.scatterType).rounds
      ((call.arrays.map List.length).prod + 1) = some call.tuples := by
  have some_array : call.arrays ≠ [] := by
    intro empty
    have long := sound.arrays_length
    rw [empty] at long
    exact sound.scatters (List.length_eq_zero_iff.mp long.symm)
  rw [← sound.arrays_length]
  exact rounds_eq some_array sound.filled call.method

/-- The call ends with the loops that make and add the children. -/
theorem result_scatterChildren (sound : call.Sound) :
    call.result = .ok
      ((call.qm.scatterChildren call.spare call.order call.uuids call.jobid call.parentID
          call.job call.parent
          call.step call.tuples (.task call.ptr)).1, none,
        (call.qm.scatterChildren call.spare call.order call.uuids call.jobid call.parentID
            call.job call.parent
          call.step call.tuples (.task call.ptr)).2) := by
  have started : ¬call.parent.inputs.isNone = true := by
    rw [Option.isNone_iff_eq_none]
    intro absent
    have given := sound.started
    rw [absent] at given
    cases given
  have some_input : ¬(templateScatterStepIns call.step).entries.isEmpty = true := by
    rw [List.isEmpty_iff, ← List.length_eq_zero_iff, sound.count, List.length_eq_zero_iff]
    exact sound.scatters
  have no_empty : ¬call.arrays.any List.isEmpty = true := by
    intro some_empty
    rcases List.any_eq_true.mp some_empty with ⟨items, member, empty⟩
    exact sound.filled items member (List.isEmpty_iff.mp empty)
  have step : call.qm.store.processStep call.jobid (.task call.ptr) = some call.step :=
      sound.stepFound
  unfold result ServerMgr.processInstanceEnQueueScatter
  rw [sound.loaded, sound.found]
  dsimp only
  rw [if_neg started, step]
  dsimp only
  rw [if_neg sound.scatters, sound.read]
  dsimp only
  rw [sound.method]
  dsimp only
  rw [if_neg sound.flat]
  dsimp only
  rw [if_neg some_input, if_neg no_empty, sound.rounds]

theorem tuple_length (sound : call.Sound) {tuple : List Nat} (member : tuple ∈ call.tuples) :
    tuple.length = call.step.scatter.length := by
  have long : call.lengths.length = call.step.scatter.length := by
    rw [lengths, List.length_map, sound.arrays_length]
  unfold tuples indexTuples at member
  split at member
  · rcases List.mem_map.mp member with ⟨index, _, rfl⟩
    rw [List.length_replicate, long]
  · rw [(Odometer.mem_tuples.mp member).length_eq, long]
  · rw [(Odometer.mem_tuples.mp member).length_eq, long]

theorem tuple_nonempty (sound : call.Sound) {tuple : List Nat} (member : tuple ∈ call.tuples) :
    tuple ≠ [] := by
  intro empty
  have long := sound.tuple_length member
  rw [empty] at long
  exact sound.scatters (List.length_eq_zero_iff.mp long.symm)

theorem lengths_ne_nil (sound : call.Sound) : call.lengths ≠ [] := by
  intro empty
  have long := sound.arrays_length
  rw [List.map_eq_nil_iff.mp empty] at long
  exact sound.scatters (List.length_eq_zero_iff.mp long.symm)

theorem lengths_pos (sound : call.Sound) {length : Nat} (member : length ∈ call.lengths) :
    0 < length := by
  rcases List.mem_map.mp member with ⟨items, listed, rfl⟩
  exact List.length_pos_iff.mpr (sound.filled items listed)

theorem tuples_nodup (sound : call.Sound) : call.tuples.Nodup := by
  unfold tuples indexTuples
  split
  · refine List.nodup_range.map fun first second same => ?_
    rcases List.exists_cons_of_ne_nil sound.lengths_ne_nil with ⟨length, rest, listed⟩
    rw [listed, List.length_cons, List.replicate_succ, List.replicate_succ] at same
    exact (List.cons.inj same).1
  · exact Odometer.tuples_nodup _
  · exact Odometer.tuples_nodup _

theorem tuples_ne_nil (sound : call.Sound) : call.tuples ≠ [] := by
  unfold tuples indexTuples
  rcases List.exists_cons_of_ne_nil sound.lengths_ne_nil with ⟨length, rest, listed⟩
  have product : Odometer.tuples call.lengths ≠ [] := by
    rw [← List.length_pos_iff, Odometer.length_tuples]
    exact Odometer.prod_pos fun length member => sound.lengths_pos member
  split
  · have positive := @lengths_pos call sound length (by rw [listed]; exact List.mem_cons_self)
    rw [listed, List.headD_cons]
    intro empty
    have none := congrArg List.length empty
    rw [List.length_map, List.length_range, List.length_nil] at none
    omega
  · exact product
  · exact product

theorem childName_injective (sound : call.Sound) {first second : List Nat}
    (firstMember : first ∈ call.tuples) (secondMember : second ∈ call.tuples)
    (same : call.childName first = call.childName second) : first = second :=
  scatterProcessName_injective (sound.tuple_nonempty firstMember)
      (sound.tuple_nonempty secondMember) same

/-- Different tuples give different names. -/
theorem childNames_nodup (sound : call.Sound) : (call.tuples.map call.childName).Nodup :=
  sound.tuples_nodup.map_on fun _ first _ second same => sound.childName_injective first second same

/-- The tasks that go into the last loop, one for each tuple in its order. The inputs of a child
are those of the step in some order, for they come out of a map. -/
structure Prepared (call : Call) (tasks : List Task) : Prop where
  length : tasks.length = call.tuples.length
  child : forall (k : Nat) (tuple : List Nat), call.tuples[k]? = some tuple -> Exists fun task =>
      Exists fun inputs =>
    tasks[k]? = some task ∧ call.Child tuple task ∧
      task.workflowStep = some (childStep call.step call.parentID (call.childName tuple) inputs) ∧
      inputs.Perm (call.step.inputs.map (placeIndex call.step (call.shown tuple)))

/-- The rounds of the loop that makes the children. -/
theorem made (sound : call.Sound) :
    Exists fun made => call.tuples.zipIdx.mapM
        (fun round => scatterTask call.job call.parent.uuid call.parentID
        call.basename call.step ⟨call.parentID ++ "/" ++ call.basename, call.jobid⟩
            (call.order round.2) round.1) =
          .ok made ∧
      made.length = call.tuples.length ∧
      forall (k : Nat) (tuple : List Nat), call.tuples[k]? = some tuple ->
        Exists fun entry : Task × List WorkflowStepInput => made[k]? = some entry ∧
            call.Child tuple entry.1 ∧
          entry.2.Perm (call.step.inputs.map (placeIndex call.step tuple)) := by
  have every (round : List Nat × Nat) (_ : round ∈ call.tuples.zipIdx) :
      Exists fun entry => scatterTask call.job call.parent.uuid call.parentID
          call.basename call.step
        ⟨call.parentID ++ "/" ++ call.basename, call.jobid⟩ (call.order round.2) round.1 =
            .ok entry := by
    rcases sound.scatterTask_child round.1 round.2 with ⟨entry, answered, _⟩
    exact ⟨entry, answered⟩
  rcases Fallible.exists_mapM_ok every with ⟨made, done⟩
  refine ⟨made, done, (Fallible.length_mapM_ok done).trans (List.length_zipIdx ..),
      fun k tuple listed => ?_⟩
  have position : call.tuples.zipIdx[k]? = some (tuple, k) := by
    rw [List.getElem?_zipIdx, listed, Option.map_some, Nat.zero_add]
  rcases Fallible.getElem?_mapM_ok done position with ⟨entry, there, answered⟩
  rcases sound.scatterTask_child tuple k with ⟨other, again, child, inputs⟩
  rw [answered] at again
  cases again
  exact ⟨entry, there, child, inputs⟩

/-- The inputs that the children end up with. -/
theorem shared (sound : call.Sound) {made : List (Task × List WorkflowStepInput)}
    (long : made.length = call.tuples.length)
    (each : forall (k : Nat) (tuple : List Nat), call.tuples[k]? = some tuple ->
      Exists fun entry : Task × List WorkflowStepInput => made[k]? = some entry ∧
      call.Child tuple entry.1 ∧
        entry.2.Perm (call.step.inputs.map (placeIndex call.step tuple)))
    {k : Nat} {tuple : List Nat} (listed : call.tuples[k]? = some tuple) :
    Exists fun inputs => (shareCapacity call.spare (templateScatterStepIns call.step).entries.length
        (made.map Prod.snd))[k]? = some inputs ∧
      inputs.Perm (call.step.inputs.map (placeIndex call.step (call.shown tuple))) := by
  rcases each k tuple listed with ⟨entry, there, _, own⟩
  unfold shareCapacity shown
  rw [sound.count]
  by_cases enough : call.step.scatter.length ≤ call.spare
  · rw [if_pos enough, if_pos enough, List.getElem?_map, List.getElem?_map, there]
    refine ⟨_, rfl, ?_⟩
    -- The last tuple is there, because this one is.
    obtain ⟨front, last, tuples⟩ : Exists fun front => Exists fun last =>
        call.tuples = front ++ [last] := by
      rcases List.eq_nil_or_concat' call.tuples with none | some
      · rw [none] at listed
        cases listed
      · exact some
    have final : call.tuples[front.length]? = some last := by
      rw [tuples]
      simp
    rcases each front.length last final with ⟨lastEntry, lastThere, _, lastOwn⟩
    have ends : (made.map Prod.snd).getLastD [] = lastEntry.2 := by
      rw [tuples, List.length_append, List.length_singleton] at long
      rw [List.getLastD_eq_getLast?, List.getLast?_map, List.getLast?_eq_getElem?, long,
          Nat.add_sub_cancel, lastThere]
      rfl
    rw [ends, tuples]
    simpa using lastOwn
  · rw [if_neg enough, if_neg enough, List.getElem?_map, there]
    exact ⟨_, rfl, own⟩

/-- The parent with the list of its children. -/
def expanded (call : Call) : ServerMgr :=
  { call.qm with
    store := call.qm.store.modifyTask call.ptr fun task =>
      { task with scatterChildren := call.tuples.map call.childName } }

theorem result_addScatterTasks (sound : call.Sound) :
    Exists fun tasks => Prepared call tasks ∧
      call.result = .ok ((ServerMgr.addScatterTasks call.jobid call.parentID
          (expanded call) tasks).1, none,
        (ServerMgr.addScatterTasks call.jobid call.parentID (expanded call) tasks).2) := by
  rcases sound.made with ⟨made, done, long, each⟩
  have split : base (call.parentID ++ "/" ++ call.basename) = call.basename :=
    base_append _ sound.named sound.whole
  have parent : trimSuffix (call.parentID ++ "/" ++ call.basename) ("/" ++ call.basename) =
      call.parentID := by
    rw [String.append_assoc]
    exact trimSuffix_append ..
  have longer : call.parentID ≠ call.parentID ++ "/" ++ call.basename := by
    intro same
    have letters := congrArg String.length same
    rw [String.length_append, String.length_append] at letters
    have one : "/".length = 1 := by decide
    omega
  have shares : (shareCapacity call.spare (templateScatterStepIns call.step).entries.length
      (made.map Prod.snd)).length = call.tuples.length := by
    unfold shareCapacity
    split
    · rw [List.length_map, List.length_map, long]
    · rw [List.length_map, long]
  refine ⟨(made.zip (shareCapacity call.spare (templateScatterStepIns call.step).entries.length
    (made.map Prod.snd))).zipWith (fun child name =>
      { child.1.1 with workflowStep := some (childStep call.step call.parentID name child.2) })
    (call.tuples.map call.childName), ⟨?_, fun k tuple listed => ?_⟩, ?_⟩
  · rw [List.length_zipWith, List.length_zip, List.length_map, long, shares,
      Nat.min_self, Nat.min_self]
  · rcases each k tuple listed with ⟨entry, there, child, _⟩
    rcases sound.shared long each listed with ⟨inputs, filled, perm⟩
    have paired : (made.zip
        (shareCapacity call.spare (templateScatterStepIns call.step).entries.length
        (made.map Prod.snd)))[k]? = some (entry, inputs) := by
      rw [List.getElem?_zip_eq_some]
      exact ⟨there, filled⟩
    refine ⟨{ entry.1 with
      workflowStep := some (childStep call.step call.parentID (call.childName tuple) inputs) },
          inputs, ?_,
      ⟨child.ident, child.state, child.family, child.owner, child.uuid⟩, rfl, perm⟩
    rw [List.getElem?_zipWith, paired, List.getElem?_map, listed]
    rfl
  · rw [sound.result_scatterChildren]
    unfold ServerMgr.scatterChildren
    dsimp only
    rw [sound.processIDStr, split, parent, if_neg longer, sound.ident, done]
    rfl

theorem Prepared.exists_tuple {tasks : List Task} (prepared : Prepared call tasks) {task : Task}
    (member : task ∈ tasks) : Exists fun tuple => tuple ∈ call.tuples ∧ call.Child tuple task := by
  rcases List.getElem_of_mem member with ⟨k, small, rfl⟩
  have smallTuple : k < call.tuples.length := prepared.length ▸ small
  rcases prepared.child k _ (List.getElem?_eq_getElem smallTuple) with ⟨task, _, there, child, _⟩
  rw [List.getElem?_eq_getElem small] at there
  cases there
  exact ⟨_, List.getElem_mem smallTuple, child⟩

theorem Prepared.exists_task {tasks : List Task} (prepared : Prepared call tasks) {tuple : List Nat}
    (member : tuple ∈ call.tuples) : Exists fun task => task ∈ tasks ∧ call.Child tuple task := by
  rcases List.getElem_of_mem member with ⟨k, small, rfl⟩
  rcases prepared.child k _ (List.getElem?_eq_getElem small) with ⟨task, _, there, child, _⟩
  exact ⟨task, List.mem_of_getElem? there, child⟩

theorem Prepared.names {tasks : List Task} (prepared : Prepared call tasks) :
    tasks.map (fun task => task.ident.taskName) = call.tuples.map fun tuple =>
        call.parentID ++ "/" ++ call.childName tuple := by
  apply List.ext_getElem?
  intro k
  rw [List.getElem?_map, List.getElem?_map]
  cases listed : call.tuples[k]? with
  | none =>
      have large := List.getElem?_eq_none_iff.mp listed
      rw [List.getElem?_eq_none_iff.mpr (prepared.length ▸ large)]
      rfl
  | some tuple =>
      rcases prepared.child k tuple listed with ⟨task, _, there, child, _⟩
      rw [there, Option.map_some, Option.map_some, child.ident]
      rfl

theorem expanded_ident (ptr : Nat) :
    ((expanded call).store.task ptr).ident = (call.qm.store.task ptr).ident := by
  unfold expanded
  dsimp only
  by_cases same : ptr = call.ptr
  · rw [same, Store.modifyTask_self]
  · rw [Store.modifyTask_of_ne _ same]

end Sound

/-- The names of the children are not in use. -/
def NamesFree (call : Call) : Prop :=
  forall tuple, tuple ∈ call.tuples -> NameFree call.qm call.parent (call.childIdent tuple)

/-- How a call ends: the children are there, or a name was taken. -/
theorem Sound.outcome (sound : call.Sound) :
    Exists fun tasks => Exists fun last => Exists fun err => Sound.Prepared call tasks ∧
      call.result = .ok (last, none, err) ∧ (err = none ↔ call.NamesFree) ∧
      (call.NamesFree -> Added (Sound.expanded call) last call.jobid call.parentID
          call.parent tasks) ∧
      last.store.task call.ptr = (Sound.expanded call).store.task call.ptr := by
  rcases sound.result_addScatterTasks with ⟨tasks, prepared, result⟩
  have addable (task : Task) (member : task ∈ tasks) : Addable call.jobid call.parentID task := by
    rcases prepared.exists_tuple member with ⟨tuple, _, child⟩
    exact ⟨child.state, by rw [child.ident]; rfl, child.owner, child.uuid⟩
  have distinct : (tasks.map fun task => task.ident.taskName).Nodup := by
    rw [prepared.names]
    refine sound.tuples_nodup.map_on fun first firstMember second secondMember same => ?_
    have letters := congrArg String.toList same
    simp only [String.toList_append, List.append_cancel_left_eq] at letters
    exact sound.childName_injective firstMember secondMember (String.toList_injective letters)
  have nameFree (id : TaskUniqueIdentifier) :
      NameFree (Sound.expanded call) call.parent id ↔ NameFree call.qm call.parent id := by
    unfold NameFree
    simp only [Sound.expanded_ident]
    rfl
  have free : (forall task, task ∈ tasks -> NameFree (Sound.expanded call) call.parent task.ident) ↔
      call.NamesFree := by
    constructor
    · intro each tuple member
      rcases prepared.exists_task member with ⟨task, listed, child⟩
      have here := (nameFree _).mp (each task listed)
      rwa [child.ident] at here
    · intro each task member
      rcases prepared.exists_tuple member with ⟨tuple, listed, child⟩
      rw [child.ident]
      exact (nameFree _).mpr (each tuple listed)
  obtain ⟨adds, frees⟩ :=
      addScatterTasks_added sound.jobNamed sound.parentID_named tasks addable distinct
    (Sound.expanded call) call.parent sound.found (fun ptr member => (sound.placed ptr member).1)
        sound.allocated
  refine ⟨tasks, _, _, prepared, result, ⟨fun none => free.mp (frees none), fun each => ?_⟩,
      fun each => ?_, ?_⟩
  · rcases adds (free.mpr each) with ⟨last, done, _⟩
    rw [done]
  · rcases adds (free.mpr each) with ⟨last, done, added⟩
    rw [done]
    exact added
  · exact addScatterTasks_old tasks (Sound.expanded call) sound.small

end Call

end Scatter

end Core
end Awe
