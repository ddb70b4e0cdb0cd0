import Awe.Core.ScatterMerge

namespace Awe
namespace Core

open Lib Lib.Path Sources StepInputs WorkflowOutputs Scatter

/-!
# The children of a scatter over a list of sources

The loops of `processInstanceEnQueueScatter` for one scattered input, for tasks
and for workflow instances.  Either kind ends with a child for each source,
unless a name is taken, and the sources still have their values.  From there on
it only matters what the children read.
-/

namespace ScatterMerge

/-! ## The loops -/

/-- A job with the same context, and the same workflow instances except for one. -/
structure SameOthers (job : Job) (localID : String) (later : Job) : Prop where
  context : later.context = job.context
  others : forall name, name ≠ localID -> later.instances.lookup name = job.instances.lookup name

theorem addTask_sameOthers {store after : Store} {jobid localID : String} {task : Task} {ptr : Nat}
    {job : Job} (loaded : store.jobs.lookup jobid = some job)
    (added : store.addTask jobid localID task = .ok (after, ptr)) :
    Exists fun later => after.jobs.lookup jobid = some later ∧ SameOthers job localID later := by
  unfold Store.addTask at added
  cases found : store.instanceOf jobid localID with
  | none =>
      rw [found] at added
      cases added
  | some wi =>
      rw [found] at added
      dsimp only at added
      split_ifs at added
      rcases Prod.mk.inj (Except.ok.inj added) with ⟨rfl, _⟩
      unfold Store.modifyInstance
      rw [Store.modifyJob_lookup, if_pos rfl]
      change Exists fun later => (store.jobs.lookup jobid).map _ = some later ∧
          SameOthers job localID later
      rw [loaded, Option.map_some]
      refine ⟨_, rfl, ?_⟩
      cases job.instances.lookup localID with
      | none => exact ⟨rfl, fun _ _ => rfl⟩
      | some known =>
          refine ⟨rfl, fun name away => ?_⟩
          dsimp only
          rw [GoMap.lookup_insert_if, if_neg away]

theorem taskSetState_jobs (store : Store) (ptr : Nat) {state : ProcessState}
    (opens : state ≠ .completed) :
    (store.taskSetState ptr state).1.jobs = store.jobs := by
  rcases store.taskSetState_cases ptr state with ⟨same, _⟩ | ⟨_, _, wrote⟩ | ⟨_, completes, _⟩
      | ⟨_, completes, _⟩
  · rw [same]
  · rw [wrote]
    rfl
  · exact absurd completes opens
  · exact absurd completes opens

/-- The loop that adds tasks touches one workflow instance only. -/
theorem addScatterTasks_sameOthers {jobid localID : String} (tasks : List Task) (qm : ServerMgr)
    {job : Job} (loaded : qm.store.jobs.lookup jobid = some job) :
    Exists fun later => (ServerMgr.addScatterTasks jobid localID qm tasks).1.store.jobs.lookup
        jobid = some later ∧
      SameOthers job localID later := by
  induction tasks generalizing qm job with
  | nil => exact ⟨job, loaded, rfl, fun _ _ => rfl⟩
  | cons task rest inductionHypothesis =>
      rw [ServerMgr.addScatterTasks]
      split
      · exact ⟨job, loaded, rfl, fun _ _ => rfl⟩
      · next after new added =>
          rcases addTask_sameOthers loaded added with ⟨next, there, same⟩
          have mapped := (ServerMgr.taskMapAdd_quiet { qm with store := after } new
            "processInstanceEnQueueScatter").jobs
          split
          · next answered =>
              rw [answered] at mapped
              exact ⟨next, by rw [mapped]; exact there, same⟩
          · next between answered =>
              rw [answered] at mapped
              have ready := taskSetState_jobs between.store new
                  (show ProcessState.ready ≠ .completed by decide)
              split
              · next written =>
                  rw [written] at ready
                  exact ⟨next, by rw [ready, mapped]; exact there, same⟩
              · next store written =>
                  rw [written] at ready
                  obtain ⟨later, found, more⟩ := @inductionHypothesis { between with store } next
                    (by rw [ready, mapped]; exact there)
                  exact ⟨later, found, more.context.trans same.context, fun name away =>
                    (more.others name away).trans (same.others name away)⟩

namespace MergeCall

section

variable {call : MergeCall}

theorem childName_named (sound : call.Sound) (i : Nat) :
    scatterProcessName call.basename [i] ≠ "" := by
  intro empty
  unfold scatterProcessName at empty
  have letters := congrArg String.toList empty
  simp only [String.toList_append, String.toList_empty, List.append_eq_nil_iff] at letters
  exact sound.named (String.toList_injective (letters.1.1.trans String.toList_empty.symm))

theorem childName_whole (sound : call.Sound) (i : Nat) :
    Whole (scatterProcessName call.basename [i]) :=
  (sound.whole.append (by decide)).append (permutationInstance_whole [i])

theorem childName_relative (sound : call.Sound) (i : Nat) :
    hasPrefix (scatterProcessName call.basename [i]) "#" = false := by
  unfold scatterProcessName
  rw [String.append_assoc, hasPrefix_hash_append sound.named]
  exact sound.relative

theorem childID_injective {i j : Nat} (same : call.childID i = call.childID j) : i = j := by
  unfold childID at same
  have letters := congrArg String.toList same
  simp only [String.toList_append, List.append_cancel_left_eq] at letters
  have lists := scatterProcessName_injective (List.cons_ne_nil i []) (List.cons_ne_nil j [])
    (String.toList_injective letters)
  exact (List.cons.inj lists).1

/-- The inputs of a child, as an index tuple places them. -/
def placed (call : MergeCall) (i : Nat) : List WorkflowStepInput :=
  call.step.inputs.map (placeIndex call.step [i])

/-- The first loop and what becomes of the inputs that it makes: item `i` is
made for the index `i` and ends up with the inputs of the index shown to it. -/
theorem Sound.loop (sound : call.Sound) {A B : Type}
    (make : List Nat × Nat -> Except String (A × List WorkflowStepInput)) (Made : Nat -> A -> Prop)
    (build : (A × List WorkflowStepInput) × List WorkflowStepInput -> String -> B)
    (every : forall i n, Exists fun entry => make ([i], n) = .ok entry ∧ Made i entry.1 ∧
    entry.2.Perm (call.placed i)) :
    Exists fun made => call.tuples.zipIdx.mapM make = .ok made ∧ Exists fun built =>
      (made.zip (shareCapacity call.spare (templateScatterStepIns call.step).entries.length
        (made.map Prod.snd))).zipWith build (call.tuples.map (scatterProcessName call.basename)) =
        built ∧
      built.length = call.sources.length ∧
      forall i, i < call.sources.length -> Exists fun item => Exists fun own => Exists fun inputs =>
        built[i]? = some (build ((item, own), inputs) (scatterProcessName call.basename [i])) ∧
            Made i item ∧
          inputs.Perm (call.placed (call.shown i)) := by
  have tuple (i : Nat) (small : i < call.sources.length) : call.tuples[i]? = some [i] := by
    unfold tuples
    rw [List.getElem?_map, List.getElem?_range small, Option.map_some]
  have count : call.tuples.length = call.sources.length := by
    unfold tuples
    rw [List.length_map, List.length_range]
  obtain ⟨made, done⟩ : Exists fun made => call.tuples.zipIdx.mapM make = .ok made := by
    refine Fallible.exists_mapM_ok fun round member => ?_
    have listed := List.fst_mem_of_mem_zipIdx member
    unfold tuples at listed
    rcases List.mem_map.mp listed with ⟨i, _, isTuple⟩
    rcases every i round.2 with ⟨entry, answered, _⟩
    rw [isTuple] at answered
    exact ⟨entry, answered⟩
  have long : made.length = call.sources.length :=
    (Fallible.length_mapM_ok done).trans ((List.length_zipIdx ..).trans count)
  have each (i : Nat) (small : i < call.sources.length) : Exists fun entry :
      A × List WorkflowStepInput =>
      made[i]? = some entry ∧ Made i entry.1 ∧ entry.2.Perm (call.placed i) := by
    have position : call.tuples.zipIdx[i]? = some ([i], i) := by
      rw [List.getElem?_zipIdx, tuple i small, Option.map_some, Nat.zero_add]
    rcases Fallible.getElem?_mapM_ok done position with ⟨entry, there, answered⟩
    rcases every i i with ⟨other, again, item, inputs⟩
    rw [answered] at again
    cases again
    exact ⟨entry, there, item, inputs⟩
  have shared (i : Nat) (small : i < call.sources.length) : Exists fun inputs =>
      (shareCapacity call.spare (templateScatterStepIns call.step).entries.length
          (made.map Prod.snd))[i]? =
        some inputs ∧ inputs.Perm (call.placed (call.shown i)) := by
    rcases each i small with ⟨entry, there, _, own⟩
    unfold shareCapacity shown
    rw [sound.template]
    by_cases apart : call.spare = 0
    · rw [if_neg (by omega), if_pos apart, List.getElem?_map, there]
      exact ⟨_, rfl, own⟩
    · obtain ⟨last, lastThere, _, lastOwn⟩ := each (call.sources.length - 1) (by omega)
      have ends : (made.map Prod.snd).getLastD [] = last.2 := by
        rw [List.getLastD_eq_getLast?, List.getLast?_map, List.getLast?_eq_getElem?,
            long, lastThere]
        rfl
      rw [if_pos (by omega), if_neg apart, List.getElem?_map, List.getElem?_map, there, ends]
      exact ⟨_, rfl, lastOwn⟩
  have sharedLong : (shareCapacity call.spare (templateScatterStepIns call.step).entries.length
      (made.map Prod.snd)).length = call.sources.length := by
    unfold shareCapacity
    split
    · rw [List.length_map, List.length_map, long]
    · rw [List.length_map, long]
  refine ⟨made, done, _, rfl, ?_, fun i small => ?_⟩
  · rw [List.length_zipWith, List.length_zip, List.length_map, long, sharedLong, count,
      Nat.min_self, Nat.min_self]
  · rcases each i small with ⟨entry, there, item, _⟩
    rcases shared i small with ⟨inputs, filled, perm⟩
    have paired : (made.zip
        (shareCapacity call.spare (templateScatterStepIns call.step).entries.length
        (made.map Prod.snd)))[i]? = some (entry, inputs) := by
      rw [List.getElem?_zip_eq_some]
      exact ⟨there, filled⟩
    refine ⟨entry.1, entry.2, inputs, ?_, item, perm⟩
    rw [List.getElem?_zipWith, paired, List.getElem?_map, tuple i small]
    rfl

/-- What a successful call leaves behind. -/
structure Expanded (call : MergeCall) (last : ServerMgr) (children : List ProcessInstance) :
    Prop where
  length : children.length = call.sources.length
  distinct : children.Nodup
  new : forall process, process ∈ children ↔ call.New last process
  stable : forall job wi, last.store.jobs.lookup call.jobid = some job ->
    job.instances.lookup call.parentID = some wi -> call.Stable last.store job wi
  child : forall i process, children[i]? = some process ->
    last.store.processIDStr process = call.childID i ∧ call.Belongs last process ∧
      Exists fun step => last.store.processStep call.jobid process = some step ∧
        step.inputs.Perm (call.placed (call.shown i))

end

end MergeCall

/-! ## The tasks -/

namespace MergeCall

section

variable {call : MergeCall}

theorem Sound.parentID_named (sound : call.Sound) : call.parentID ≠ "" := by
  intro empty
  have hash := (List.isPrefixOf_iff_prefix.1 sound.entrypoint).trans
      (List.isPrefixOf_iff_prefix.1 sound.below)
  rw [empty, String.toList_empty, List.prefix_nil] at hash
  cases hash

theorem longer_ne (text ending : String) : text ≠ text ++ "/" ++ ending := by
  intro same
  have letters := congrArg String.length same
  rw [String.length_append, String.length_append] at letters
  have one : "/".length = 1 := by decide
  omega

theorem Stopped.ident {after : ServerMgr} (stopped : call.Stopped after) (ptr : Nat) :
    (after.store.task ptr).ident = (call.qm.store.task ptr).ident := by
  rcases stopped.task ptr with same | ⟨_, same⟩
  · rw [same]
  · rw [same]

/-- A task as the first loop makes it for the index `i`. -/
structure ChildTask (call : MergeCall) (i : Nat) (task : Task) : Prop where
  ident : task.ident = ⟨call.childID i, call.jobid⟩
  state : task.state = .init
  family : task.scatterParent = some ⟨call.parentID ++ "/" ++ call.basename, call.jobid⟩
  owner : task.workflowInstanceID = call.parentID
  uuid : task.workflowInstanceUUID ≠ ""

theorem Sound.scatterTask (sound : call.Sound) (i n : Nat) :
    Exists fun made => scatterTask call.job call.parent.uuid call.parentID call.basename call.step
        ⟨call.parentID ++ "/" ++ call.basename, call.jobid⟩ (call.order n) [i] = .ok made ∧
      call.ChildTask i made.1 ∧ made.2.Perm (call.placed i) := by
  obtain ⟨task, made, ident, state, owner, uuid⟩ :=
      @newTask_plain call.job call.parent.uuid call.parentID
    (scatterProcessName call.basename [i]) sound.cwl (sound.jobID ▸ sound.jobNamed)
        sound.entrypoint sound.below
    (childName_named sound i) (childName_whole sound i) (childName_relative sound i)
  rcases childInputs_perm sound.names (sound.listing n) [i] with ⟨inputs, copied, perm⟩
  refine ⟨({ task.init with
    scatterParent := some ⟨call.parentID ++ "/" ++ call.basename, call.jobid⟩
    processType := .normal }, templateStepIn call.step ++ inputs), ?_, ?_, perm⟩
  · unfold Core.scatterTask
    rw [made]
    dsimp only
    rw [copied]
  · have kept : task.init.ident = task.ident ∧ task.init.state = task.state ∧
        task.init.workflowInstanceID = task.workflowInstanceID ∧
        task.init.workflowInstanceUUID = task.workflowInstanceUUID := by
      unfold Task.init
      dsimp only
      split
      · exact ⟨rfl, rfl, rfl, rfl⟩
      · exact ⟨rfl, rfl, rfl, rfl⟩
    rcases kept with ⟨sameIdent, sameState, sameOwner, sameUUID⟩
    refine ⟨?_, sameState.trans state, rfl, sameOwner.trans owner, ?_⟩
    · rw [show _ = task.ident from sameIdent, ident, sound.jobID]
      rfl
    · rw [show _ = task.workflowInstanceUUID from sameUUID, uuid]
      exact sound.uuid

/-- The server in front of the last loop, and the tasks that go into it. -/
structure Prepared (call : MergeCall) (expanded : ServerMgr) (tasks : List Task) : Prop where
  length : tasks.length = call.sources.length
  child : forall i, i < call.sources.length -> Exists fun task => Exists fun inputs =>
      tasks[i]? = some task ∧
    call.ChildTask i task ∧ task.workflowStep =
      some (childStep call.step call.parentID (scatterProcessName call.basename [i]) inputs) ∧
    inputs.Perm (call.placed (call.shown i))
  nextTask : expanded.store.nextTask = call.qm.store.nextTask
  taskMap : expanded.taskMap = call.qm.taskMap
  ident : forall ptr, (expanded.store.task ptr).ident = (call.qm.store.task ptr).ident
  kept : forall ptr, (call.qm.store.task ptr).state = .completed ->
      (expanded.store.task ptr).state = .completed ∧
    (expanded.store.task ptr).stepOutput = (call.qm.store.task ptr).stepOutput
  job : Exists fun job => expanded.store.jobs.lookup call.jobid = some job ∧
      job.context = call.job.context ∧
    forall name, job.instances.lookup name = call.job.instances.lookup name

/-- A scatter step that runs a tool, up to the last loop. -/
theorem Sound.prepares (sound : call.Sound) {ptr : Nat} (isTask : call.process = .task ptr)
    {after : ServerMgr} (stopped : call.Stopped after) :
    Exists fun expanded => Exists fun tasks => call.Prepared expanded tasks ∧
      after.scatterChildren call.spare call.order call.uuids call.jobid call.parentID call.job
          call.parent call.step
        call.tuples call.process = ServerMgr.addScatterTasks call.jobid call.parentID
            expanded tasks := by
  have opened := sound.opened
  unfold Open at opened
  rw [isTask] at opened
  rcases opened with ⟨small, unfinished, ident⟩
  have named : (after.store.task ptr).ident = ⟨call.parentID ++ "/" ++ call.basename, call.jobid⟩ :=
    (stopped.ident ptr).trans ident
  have split : base (call.parentID ++ "/" ++ call.basename) = call.basename :=
      base_append _ sound.named sound.whole
  have parent : trimSuffix (call.parentID ++ "/" ++ call.basename) ("/" ++ call.basename) =
      call.parentID := by
    rw [String.append_assoc]
    exact trimSuffix_append ..
  obtain ⟨made, done, tasks, built, long, each⟩ := sound.loop
    (fun round => Core.scatterTask call.job call.parent.uuid call.parentID call.basename call.step
      ⟨call.parentID ++ "/" ++ call.basename, call.jobid⟩ (call.order round.2) round.1)
    call.ChildTask
    (fun child name => { child.1.1 with
        workflowStep := some (childStep call.step call.parentID name child.2) })
    sound.scatterTask
  refine ⟨{ after with
    store := after.store.modifyTask ptr fun task =>
      { task with scatterChildren := call.tuples.map (scatterProcessName call.basename) } }, tasks,
    ⟨long, fun i small => ?_, stopped.nextTask, stopped.taskMap, fun other =>
        ?_, fun other completed => ?_, ?_⟩, ?_⟩
  · rcases each i small with ⟨item, own, inputs, there, child, perm⟩
    exact ⟨_, inputs, there, ⟨child.ident, child.state, child.family, child.owner, child.uuid⟩, rfl,
        perm⟩
  · dsimp only
    by_cases here : other = ptr
    · rw [here, Store.modifyTask_self]
      exact stopped.ident ptr
    · rw [Store.modifyTask_of_ne _ here]
      exact stopped.ident other
  · have away : other ≠ ptr := by
      rintro rfl
      exact unfinished completed
    dsimp only
    rw [Store.modifyTask_of_ne _ away]
    rcases stopped.task other with same | ⟨isProcess, _⟩
    · rw [same]
      exact ⟨completed, rfl⟩
    · rw [isTask] at isProcess
      exact absurd (ProcessInstance.task.inj isProcess).symm away
  · rcases stopped.job with ⟨job, loaded, context, instances⟩
    refine ⟨job, loaded, context, fun name => ?_⟩
    rcases instances name with same | ⟨isProcess, _⟩
    · exact same
    · rw [isTask] at isProcess
      cases isProcess
  · rw [isTask, ← built]
    unfold ServerMgr.scatterChildren Store.processIDStr
    dsimp only
    rw [named]
    dsimp only
    rw [split, parent, if_neg (longer_ne _ _), done]

namespace Prepared

variable {expanded : ServerMgr} {tasks : List Task}

theorem exists_index (prepared : call.Prepared expanded tasks) {task : Task}
    (member : task ∈ tasks) :
    Exists fun i => i < call.sources.length ∧ call.ChildTask i task := by
  rcases List.mem_iff_getElem?.mp member with ⟨i, there⟩
  have small : i < call.sources.length := by
    rw [← prepared.length]
    exact (List.getElem?_eq_some_iff.mp there).1
  rcases prepared.child i small with ⟨other, _, listed, child, _⟩
  rw [there] at listed
  cases listed
  exact ⟨i, small, child⟩

theorem names (prepared : call.Prepared expanded tasks) :
    tasks.map (fun task => task.ident.taskName) = (List.range call.sources.length).map
        call.childID := by
  apply List.ext_getElem?
  intro i
  rw [List.getElem?_map, List.getElem?_map]
  by_cases small : i < call.sources.length
  · rcases prepared.child i small with ⟨task, _, there, child, _⟩
    rw [there, List.getElem?_range small, Option.map_some, Option.map_some, child.ident]
  · rw [List.getElem?_eq_none_iff.mpr (by rw [prepared.length]; omega),
      List.getElem?_eq_none_iff.mpr (by rw [List.length_range]; omega)]
    rfl

theorem instanceOf (prepared : call.Prepared expanded tasks) (name : String) :
    expanded.store.instanceOf call.jobid name = call.job.instances.lookup name := by
  rcases prepared.job with ⟨job, loaded, _, instances⟩
  unfold Store.instanceOf
  rw [loaded, Option.bind_some, instances]

theorem nameFree_iff (prepared : call.Prepared expanded tasks) (id : TaskUniqueIdentifier) :
    NameFree expanded call.parent id ↔ NameFree call.qm call.parent id := by
  unfold NameFree
  simp only [prepared.ident, prepared.taskMap]

/-- The last loop fails exactly if a name is taken. -/
theorem outcome (prepared : call.Prepared expanded tasks) (sound : call.Sound) {ptr : Nat}
    (isTask : call.process = .task ptr) :
    ((ServerMgr.addScatterTasks call.jobid call.parentID expanded tasks).2 = none ↔
        call.NamesFree) ∧
      (call.NamesFree -> Added expanded
          (ServerMgr.addScatterTasks call.jobid call.parentID expanded tasks).1
        call.jobid call.parentID call.parent tasks) := by
  have addable (task : Task) (member : task ∈ tasks) : Addable call.jobid call.parentID task := by
    rcases prepared.exists_index member with ⟨i, _, child⟩
    exact ⟨child.state, by rw [child.ident], child.owner, child.uuid⟩
  have distinct : (tasks.map fun task => task.ident.taskName).Nodup := by
    rw [prepared.names]
    exact List.nodup_range.map fun _ _ => childID_injective
  have free : (forall task, task ∈ tasks -> NameFree expanded call.parent task.ident) ↔
      call.NamesFree := by
    unfold NamesFree
    rw [isTask]
    constructor
    · intro each i small
      rcases prepared.child i small with ⟨task, _, there, child, _⟩
      have here := each task (List.mem_of_getElem? there)
      rw [child.ident] at here
      exact (prepared.nameFree_iff _).mp here
    · intro each task member
      rcases prepared.exists_index member with ⟨i, small, child⟩
      rw [child.ident]
      exact (prepared.nameFree_iff _).mpr (each i small)
  obtain ⟨adds, frees⟩ :=
      addScatterTasks_added sound.jobNamed sound.parentID_named tasks addable distinct
    expanded call.parent ((prepared.instanceOf _).trans sound.found)
    (fun ptr member => by rw [prepared.nextTask]; exact sound.placed ptr member)
    (fun id ptr mapped => by
      rw [prepared.taskMap] at mapped
      rw [prepared.nextTask]
      exact sound.allocated id ptr mapped)
  refine ⟨⟨fun passed => free.mp (frees passed), fun every => ?_⟩, fun every => ?_⟩
  · rcases adds (free.mpr every) with ⟨last, done, _⟩
    rw [done]
  · rcases adds (free.mpr every) with ⟨last, done, added⟩
    rw [done]
    exact added

/-- With the tasks added the sources still have their values. -/
theorem keeps (prepared : call.Prepared expanded tasks) (sound : call.Sound) {ptr : Nat}
    (isTask : call.process = .task ptr) (free : call.NamesFree) {last : ServerMgr} {job : Job}
    {wi : WorkflowInstance}
    (isLast : (ServerMgr.addScatterTasks call.jobid call.parentID expanded tasks).1 = last)
    (loaded : last.store.jobs.lookup call.jobid = some job)
    (found : job.instances.lookup call.parentID = some wi) :
    Keeps call.qm.store call.job call.parent last.store job wi := by
  have added := (prepared.outcome sound isTask).2 free
  rcases prepared.job with ⟨before, there, context, instances⟩
  obtain ⟨later, laterLoaded, same⟩ :=
      @addScatterTasks_sameOthers call.jobid call.parentID tasks expanded _ there
  rw [isLast] at added laterLoaded
  rw [loaded] at laterLoaded
  cases laterLoaded
  have isParent : wi = { call.parent with
      remainSteps := call.parent.remainSteps + tasks.length
      tasks := call.parent.tasks ++ List.range' expanded.store.nextTask tasks.length } := by
    have located := added.found
    unfold Store.instanceOf at located
    rw [loaded, Option.bind_some, found] at located
    exact Option.some.inj located
  have old (ptr : Nat) (member : ptr ∈ call.parent.tasks) :
      last.store.task ptr = expanded.store.task ptr := by
    apply added.old
    rw [prepared.nextTask]
    exact sound.placed ptr member
  refine ⟨?_, ?_, ?_, ?_, same.context.trans context,
      ⟨List.range' expanded.store.nextTask tasks.length, ?_, ?_⟩,
    fun ptr member => ?_, fun ptr member completed => ?_, fun stepName sub listed _ => ?_⟩
  · rw [isParent]
  · rw [isParent]
  · rw [isParent]
  · rw [isParent]
  · rw [isParent]
  · intro new earlier member listed
    rcases List.mem_range'.mp member with ⟨i, small, isNew⟩
    rw [Nat.one_mul] at isNew
    rcases prepared.child i (prepared.length ▸ small) with ⟨task, _, known, child, _⟩
    rw [isNew, added.child i task known]
    have names := free i (prepared.length ▸ small)
    rw [isTask] at names
    intro equal
    refine names.1 earlier listed ?_
    rw [← equal, show (readied task).ident = task.ident from rfl, child.ident]
  · rw [old ptr member]
    exact prepared.ident ptr
  · rw [old ptr member]
    exact prepared.kept ptr completed
  · rw [same.others _ ?_, instances]
    · exact listed
    · rw [sound.localID]
      exact (longer_ne _ _).symm

/-- With free names there is a task for each source. -/
theorem expands (prepared : call.Prepared expanded tasks) (sound : call.Sound) {ptr : Nat}
    (isTask : call.process = .task ptr) (free : call.NamesFree) :
    call.Expanded (ServerMgr.addScatterTasks call.jobid call.parentID expanded tasks).1
      ((List.range' call.qm.store.nextTask call.sources.length).map .task) := by
  have added := (prepared.outcome sound isTask).2 free
  obtain ⟨last, isLast⟩ : Exists fun last =>
    (ServerMgr.addScatterTasks call.jobid call.parentID expanded tasks).1 = last := ⟨_, rfl⟩
  have next : last.store.nextTask = call.qm.store.nextTask + call.sources.length := by
    rw [← isLast, added.nextTask, prepared.nextTask, prepared.length]
  rcases prepared.job with ⟨before, there, _, instances⟩
  obtain ⟨later, laterLoaded, same⟩ :=
      @addScatterTasks_sameOthers call.jobid call.parentID tasks expanded _ there
  rw [isLast] at added laterLoaded ⊢
  refine ⟨?_, ?_, fun process => ?_, fun job wi loaded found src obj _ read =>
      ?_, fun i process listed => ?_⟩
  · rw [List.length_map, List.length_range']
  · exact (List.nodup_range' _).map fun _ _ => ProcessInstance.task.inj
  · cases process with
    | task new =>
        rw [List.mem_map]
        unfold New
        rw [next]
        constructor
        · rintro ⟨_, member, isNew⟩
          cases isNew
          exact List.mem_range'_1.mp member
        · intro between
          exact ⟨new, List.mem_range'_1.mpr between, rfl⟩
    | workflowInstance localID =>
        constructor
        · intro member
          rcases List.mem_map.mp member with ⟨_, _, never⟩
          cases never
        · rintro ⟨absent, present⟩
          unfold Store.instanceOf at absent present
          rw [sound.loaded, Option.bind_some] at absent
          rw [laterLoaded, Option.bind_some] at present
          by_cases here : localID = call.parentID
          · rw [here, sound.found] at absent
            cases absent
          · rw [same.others _ here, instances, absent] at present
            cases present
  · exact (prepared.keeps sound isTask free isLast loaded found).source read
  · rw [List.getElem?_map, Option.map_eq_some_iff] at listed
    rcases listed with ⟨new, position, rfl⟩
    rcases List.getElem?_eq_some_iff.mp position with ⟨small, isNew⟩
    rw [List.length_range'] at small
    rw [List.getElem_range', Nat.one_mul] at isNew
    rcases prepared.child i small with ⟨task, inputs, known, child, step, perm⟩
    have here : last.store.task new = readied task := by
      rw [← isNew, ← prepared.nextTask]
      exact added.child i task known
    refine ⟨?_, ?_, childStep call.step call.parentID (scatterProcessName call.basename [i]) inputs,
        ?_, perm⟩
    · unfold Store.processIDStr
      dsimp only
      rw [here, show (readied task).ident = task.ident from rfl, child.ident]
    · unfold Belongs
      dsimp only
      rw [here]
      exact child.family
    · unfold Store.processStep
      dsimp only
      rw [here]
      exact step

end Prepared

end

end MergeCall

/-! ## The workflow instances -/

/-- The loop passes only if no identifier is in the global map. -/
theorem addScatterInstances_passes {jobid : String} (added : List WorkflowInstance) (qm : ServerMgr)
    (passed : (ServerMgr.addScatterInstances jobid qm added).2 = none) :
    forall sub, sub ∈ added -> jobid ++ "_" ++ sub.localID ∉ qm.globalInstances := by
  induction added generalizing qm with
  | nil => exact fun _ never => (nomatch never)
  | cons first rest inductionHypothesis =>
      unfold ServerMgr.addScatterInstances at passed
      dsimp only at passed
      split_ifs at passed with known
      intro sub member
      rcases List.mem_cons.mp member with rfl | later
      · exact known
      · exact fun listed => inductionHypothesis _ passed sub later (List.mem_cons_of_mem _ listed)

/-- The server with these workflow instances in the job. -/
structure InstancesAdded (jobid : String) (qm last : ServerMgr) (job : Job)
    (added : List WorkflowInstance) : Prop where
  task : last.store.task = qm.store.task
  nextTask : last.store.nextTask = qm.store.nextTask
  job : Exists fun later => last.store.jobs.lookup jobid = some later ∧
      later.context = job.context ∧
    (forall sub, sub ∈ added ->
        later.instances.lookup sub.localID = some { sub with state := .pending }) ∧
    forall name, name ∉ added.map WorkflowInstance.localID ->
        later.instances.lookup name = job.instances.lookup name

/-- With new identifiers the loop adds all workflow instances. -/
theorem addScatterInstances_added {jobid : String} (added : List WorkflowInstance)
    (distinct : (added.map WorkflowInstance.localID).Nodup) :
    forall (qm : ServerMgr) (job : Job), qm.store.jobs.lookup jobid = some job ->
      (forall sub, sub ∈ added -> job.instances.lookup sub.localID = none) ->
      (forall sub, sub ∈ added -> jobid ++ "_" ++ sub.localID ∉ qm.globalInstances) ->
      Exists fun last => ServerMgr.addScatterInstances jobid qm added = (last, none) ∧
        InstancesAdded jobid qm last job added := by
  induction added with
  | nil =>
      intro qm job loaded _ _
      exact ⟨qm, rfl, rfl, rfl, job, loaded, rfl, fun _ never => (nomatch never), fun _ _ => rfl⟩
  | cons first rest inductionHypothesis =>
      intro qm job loaded absent unknown
      rw [List.map_cons, List.nodup_cons] at distinct
      have apart (sub : WorkflowInstance) (member : sub ∈ rest) : sub.localID ≠ first.localID :=
          fun same =>
        distinct.1 (List.mem_map.mpr ⟨sub, member, same⟩)
      have new := absent first List.mem_cons_self
      obtain ⟨middle, isMiddle⟩ : Exists fun middle : Job => middle =
        { job with instances := job.instances.insert first.localID { first with
            state := .pending } } := ⟨_, rfl⟩
      have written : (qm.store.addWorkflowInstance jobid first).jobs.lookup jobid =
          some middle := by
        unfold Store.addWorkflowInstance
        rw [Store.modifyJob_lookup, if_pos rfl, loaded, Option.map_some, new, isMiddle]
      have lookups (name : String) : middle.instances.lookup name =
          if name = first.localID then some { first with state := .pending } else
              job.instances.lookup name := by
        rw [isMiddle]
        exact GoMap.lookup_insert_if ..
      obtain ⟨last, done, others⟩ := inductionHypothesis distinct.2
        { qm with
          store := qm.store.addWorkflowInstance jobid first
          globalInstances := (jobid ++ "_" ++ first.localID) :: qm.globalInstances } middle written
        (fun sub member => by
          rw [lookups, if_neg (apart sub member)]
          exact absent sub (List.mem_cons_of_mem _ member))
        (fun sub member known => by
          rcases List.mem_cons.mp known with same | earlier
          · have letters := congrArg String.toList same
            simp only [String.toList_append, List.append_cancel_left_eq] at letters
            exact apart sub member (String.toList_injective letters)
          · exact unknown sub (List.mem_cons_of_mem _ member) earlier)
      rcases others.job with ⟨later, laterLoaded, context, added, kept⟩
      refine ⟨last, ?_, ?_, ?_, later, laterLoaded, ?_, fun sub member => ?_, fun name away => ?_⟩
      · rw [ServerMgr.addScatterInstances]
        dsimp only
        rw [if_neg (unknown first List.mem_cons_self)]
        exact done
      · rw [others.task]
        unfold Store.addWorkflowInstance
        exact Store.modifyJob_task ..
      · rw [others.nextTask]
        unfold Store.addWorkflowInstance
        exact Store.modifyJob_nextTask ..
      · rw [context, isMiddle]
      · rcases List.mem_cons.mp member with rfl | listed
        · rw [kept _ distinct.1, lookups, if_pos rfl]
        · exact added sub listed
      · rw [List.map_cons, List.mem_cons, not_or] at away
        rw [kept name away.2, lookups, if_neg away.1]

namespace MergeCall

section

variable {call : MergeCall}

/-- The path of a child is the name that tasks would have. -/
theorem Sound.joinPath_child (sound : call.Sound)
    (plain : forall element, element ∈ split call.parentID -> Plain element) (i : Nat) :
    joinPath call.parentID (scatterProcessName call.basename [i]) = call.childID i := by
  have whole := childName_whole sound i
  have long : "_scatter".length <= (scatterProcessName call.basename [i]).length := by
    unfold scatterProcessName
    rw [String.length_append, String.length_append]
    omega
  have last : Plain (scatterProcessName call.basename [i]) := by
    refine ⟨childName_named sound i, ?_, ?_, whole⟩
    · intro dot
      rw [dot] at long
      exact absurd long (by decide)
    · intro dots
      rw [dots] at long
      exact absurd long (by decide)
  have all : forall element, element ∈ split call.parentID ++
      [scatterProcessName call.basename [i]] ->
      Plain element := by
    intro element member
    rcases List.mem_append.mp member with earlier | final
    · exact plain element earlier
    · rw [List.mem_singleton.mp final]
      exact last
  have some_element : split call.parentID ≠ [] := by
    intro empty
    have whole := join_split call.parentID
    rw [empty] at whole
    exact sound.parentID_named whole.symm
  have pieces : split (call.parentID ++ "/" ++ scatterProcessName call.basename [i]) =
      split call.parentID ++ [scatterProcessName call.basename [i]] := by
    rw [split_append, split_whole whole]
  have text : join [call.parentID, scatterProcessName call.basename [i]] = call.childID i := by
    rw [← List.singleton_append, join_append (by simp) (by simp), join_singleton, join_singleton]
    rfl
  unfold joinPath
  rw [if_pos sound.parentID_named, text]
  unfold childID
  rw [clean_eq_join all (by simp) pieces, join_append some_element (by simp), join_split,
      join_singleton]

/-- A workflow instance as the first loop makes it for the index `i`. -/
structure ChildInstance (call : MergeCall) (uuid : String) (i : Nat) (sub : WorkflowInstance) :
    Prop where
  localID : sub.localID = call.childID i
  family : sub.scatterParent = uuid

theorem Sound.scatterInstance (sound : call.Sound)
    (plain : forall element, element ∈ split call.parentID -> Plain element) (uuid : String)
    (i n : Nat) :
    Exists fun made => scatterInstance call.job call.parent call.parentID call.basename call.step
        uuid (call.uuids n)
        (call.order n) [i] = .ok made ∧
      call.ChildInstance uuid i made.1 ∧ made.2.Perm (call.placed i) := by
  rcases childInputs_perm sound.names (sound.listing n) [i] with ⟨inputs, copied, perm⟩
  unfold Core.scatterInstance
  rw [copied]
  exact ⟨_, rfl, ⟨sound.joinPath_child plain i, rfl⟩, perm⟩

/-- No child has the name of the step itself. -/
theorem childID_ne (call : MergeCall) (i : Nat) :
    call.childID i ≠ call.parentID ++ "/" ++ call.basename := by
  intro same
  have letters := congrArg String.length same
  unfold childID scatterProcessName at letters
  simp only [String.length_append] at letters
  have eight : "_scatter".length = 8 := by decide
  omega

/-- The workflow instances that go into the last loop. -/
structure PreparedInstances (call : MergeCall) (uuid : String) (added : List WorkflowInstance) :
    Prop where
  length : added.length = call.sources.length
  child : forall i, i < call.sources.length -> Exists fun sub => Exists fun inputs =>
      added[i]? = some sub ∧
    call.ChildInstance uuid i sub ∧ sub.workflowStep =
      some (childStep call.step call.parentID (scatterProcessName call.basename [i]) inputs) ∧
    inputs.Perm (call.placed (call.shown i))

/-- A scatter step that runs a workflow, up to the last loop. -/
theorem Sound.preparesInstances (sound : call.Sound) {localID : String}
    (isInstance : call.process = .workflowInstance localID) {after : ServerMgr}
    (stopped : call.Stopped after) :
    Exists fun uuid => Exists fun added => call.PreparedInstances uuid added ∧
      (call.job.instances.lookup (call.parentID ++ "/" ++ call.basename)).map
          WorkflowInstance.uuid = some uuid ∧
      after.scatterChildren call.spare call.order call.uuids call.jobid call.parentID call.job
          call.parent call.step
        call.tuples call.process = ServerMgr.addScatterInstances call.jobid after added := by
  have opened := sound.opened
  unfold Open at opened
  rw [isInstance] at opened
  rcases opened with ⟨isName, plain, ⟨wi, found, _, _⟩, _⟩
  rcases stopped.instance found with ⟨other, there, _, uuid⟩
  have splits : base (call.parentID ++ "/" ++ call.basename) = call.basename :=
      base_append _ sound.named sound.whole
  have parent : trimSuffix (call.parentID ++ "/" ++ call.basename) ("/" ++ call.basename) =
      call.parentID := by
    rw [String.append_assoc]
    exact trimSuffix_append ..
  obtain ⟨made, done, added, built, long, each⟩ := sound.loop
    (fun round => Core.scatterInstance call.job call.parent call.parentID call.basename
        call.step other.uuid
      (call.uuids round.2) (call.order round.2) round.1)
    (call.ChildInstance other.uuid)
    (fun child name => { child.1.1 with
    workflowStep := some (childStep call.step call.parentID name child.2) })
    (sound.scatterInstance plain other.uuid)
  refine ⟨other.uuid, added, ⟨long, fun i small => ?_⟩, ?_, ?_⟩
  · rcases each i small with ⟨item, own, inputs, listed, child, perm⟩
    exact ⟨_, inputs, listed, ⟨child.localID, child.family⟩, rfl, perm⟩
  · rw [← isName, found, Option.map_some, uuid]
  · rw [isInstance, ← built]
    unfold ServerMgr.scatterChildren Store.processIDStr
    dsimp only
    rw [there, isName, splits, parent, if_neg (longer_ne _ _)]
    dsimp only
    rw [done]

namespace PreparedInstances

variable {uuid : String} {added : List WorkflowInstance}

theorem exists_index (prepared : call.PreparedInstances uuid added) {sub : WorkflowInstance}
    (member : sub ∈ added) :
    Exists fun i => i < call.sources.length ∧ call.ChildInstance uuid i sub := by
  rcases List.mem_iff_getElem?.mp member with ⟨i, there⟩
  have small : i < call.sources.length := by
    rw [← prepared.length]
    exact (List.getElem?_eq_some_iff.mp there).1
  rcases prepared.child i small with ⟨other, _, listed, child, _⟩
  rw [there] at listed
  cases listed
  exact ⟨i, small, child⟩

theorem localIDs (prepared : call.PreparedInstances uuid added) :
    added.map WorkflowInstance.localID = (List.range call.sources.length).map call.childID := by
  apply List.ext_getElem?
  intro i
  rw [List.getElem?_map, List.getElem?_map]
  by_cases small : i < call.sources.length
  · rcases prepared.child i small with ⟨sub, _, there, child, _⟩
    rw [there, List.getElem?_range small, Option.map_some, Option.map_some, child.localID]
  · rw [List.getElem?_eq_none_iff.mpr (by rw [prepared.length]; omega),
      List.getElem?_eq_none_iff.mpr (by rw [List.length_range]; omega)]
    rfl

/-- The last loop fails exactly if an identifier is taken: an instance of the
job is in the global map as well. -/
theorem outcome (prepared : call.PreparedInstances uuid added) (sound : call.Sound)
    {localID : String} (isInstance : call.process = .workflowInstance localID) {after : ServerMgr}
    (stopped : call.Stopped after) :
    ((ServerMgr.addScatterInstances call.jobid after added).2 = none ↔ call.NamesFree) ∧
      (call.NamesFree -> Exists fun before => after.store.jobs.lookup call.jobid = some before ∧
        InstancesAdded call.jobid after (ServerMgr.addScatterInstances call.jobid after added).1
        before added) := by
  have opened := sound.opened
  unfold Open at opened
  rw [isInstance] at opened
  rcases opened with ⟨isName, _, _, registered⟩
  rcases stopped.job with ⟨before, loaded, _, instances⟩
  have distinct : (added.map WorkflowInstance.localID).Nodup := by
    rw [prepared.localIDs]
    exact List.nodup_range.map fun _ _ => childID_injective
  have adds (free : call.NamesFree) : Exists fun last =>
      ServerMgr.addScatterInstances call.jobid after added = (last, none) ∧
        InstancesAdded call.jobid after last before added := by
    unfold NamesFree at free
    rw [isInstance] at free
    refine addScatterInstances_added added distinct after before loaded (fun sub member => ?_)
        fun sub member => ?_
    · rcases prepared.exists_index member with ⟨i, small, child⟩
      rw [child.localID]
      rcases instances (call.childID i) with same | ⟨_, same⟩
      · rw [same, (free i small).1]
      · rw [same, (free i small).1]
        rfl
    · rcases prepared.exists_index member with ⟨i, small, child⟩
      rw [child.localID, stopped.globals]
      exact (free i small).2
  refine ⟨⟨fun passed => ?_, fun free => ?_⟩, fun free => ?_⟩
  · have unknown := addScatterInstances_passes added after passed
    unfold NamesFree
    rw [isInstance]
    intro i small
    rcases prepared.child i small with ⟨sub, _, there, child, _⟩
    have away := unknown sub (List.mem_of_getElem? there)
    rw [child.localID, stopped.globals] at away
    refine ⟨?_, away⟩
    by_contra present
    refine away (registered (call.childID i) (Option.isSome_iff_ne_none.mpr present) ?_)
    rw [isName]
    exact call.childID_ne i
  · rcases adds free with ⟨last, done, _⟩
    rw [done]
  · rcases adds free with ⟨last, done, all⟩
    rw [done]
    exact ⟨before, loaded, all⟩

/-- With the instances added the sources still have their values. -/
theorem keeps (sound : call.Sound) {localID : String} (prepared : call.PreparedInstances uuid added)
    (isInstance : call.process = .workflowInstance localID) {after : ServerMgr}
    (stopped : call.Stopped after) (free : call.NamesFree) {last : ServerMgr} {job : Job}
    {wi : WorkflowInstance}
    (isLast : (ServerMgr.addScatterInstances call.jobid after added).1 = last)
    (loaded : last.store.jobs.lookup call.jobid = some job)
    (found : job.instances.lookup call.parentID = some wi) :
    Keeps call.qm.store call.job call.parent last.store job wi := by
  have opened := sound.opened
  unfold Open at opened
  rw [isInstance] at opened
  rcases opened with ⟨isName, _, ⟨own, ownFound, unfinished, _⟩, _⟩
  rcases (prepared.outcome sound isInstance stopped).2 free with ⟨before, beforeLoaded, all⟩
  rcases stopped.job with ⟨stoppedJob, stoppedLoaded, stoppedContext, instances⟩
  rw [beforeLoaded] at stoppedLoaded
  cases stoppedLoaded
  rcases all.job with ⟨later, laterLoaded, context, _, kept⟩
  rw [isLast] at laterLoaded
  rw [loaded] at laterLoaded
  cases laterLoaded
  have absent (i : Nat) (small : i < call.sources.length) :
      call.job.instances.lookup (call.childID i) = none := by
    have names := free i small
    rw [isInstance] at names
    exact names.1
  -- An instance that was there before is none of the children.
  have away (name : String) (present : (call.job.instances.lookup name).isSome) :
      name ∉ added.map WorkflowInstance.localID := by
    rw [prepared.localIDs]
    intro member
    rcases List.mem_map.mp member with ⟨i, small, isChild⟩
    rw [← isChild, absent i (List.mem_range.mp small)] at present
    cases present
  have other (name : String) (different : name ≠ localID) :
      before.instances.lookup name = call.job.instances.lookup name := by
    rcases instances name with same | ⟨isProcess, _⟩
    · exact same
    · rw [isInstance] at isProcess
      exact absurd (ProcessInstance.workflowInstance.inj isProcess).symm different
  have isParent : wi = call.parent := by
    rw [kept _ (away _ (by rw [sound.found]; rfl)), other _ (by rw [isName]; exact longer_ne _ _),
      sound.found] at found
    exact (Option.some.inj found).symm
  have tasks (ptr : Nat) : last.store.task ptr = call.qm.store.task ptr := by
    rw [← isLast, all.task]
    rcases stopped.task ptr with same | ⟨isProcess, _⟩
    · exact same
    · rw [isInstance] at isProcess
      cases isProcess
  refine ⟨by rw [isParent], by rw [isParent], by rw [isParent], by rw [isParent],
      context.trans stoppedContext,
    ⟨[], by rw [isParent, List.append_nil], fun _ _ never => (nomatch never)⟩, fun ptr _ =>
        by rw [tasks],
    fun ptr _ completed => ?_, fun stepName sub listed completed => ?_⟩
  · rw [tasks]
    exact ⟨completed, rfl⟩
  · have different : call.parent.localID ++ "/" ++ stepName ≠ localID := by
      intro same
      rw [same, ownFound] at listed
      cases listed
      exact unfinished completed
    rw [kept _ (away _ (by rw [listed]; rfl)), other _ different]
    exact listed

/-- With free names there is a workflow instance for each source. -/
theorem expands (prepared : call.PreparedInstances uuid added) (sound : call.Sound)
    {localID : String} (isInstance : call.process = .workflowInstance localID) {after : ServerMgr}
    (stopped : call.Stopped after)
    (parent : (call.job.instances.lookup (call.parentID ++ "/" ++ call.basename)).map
    WorkflowInstance.uuid = some uuid)
    (free : call.NamesFree) :
    call.Expanded (ServerMgr.addScatterInstances call.jobid after added).1
      ((List.range call.sources.length).map fun i => .workflowInstance (call.childID i)) := by
  obtain ⟨last, isLast⟩ : Exists fun last =>
      (ServerMgr.addScatterInstances call.jobid after added).1 = last := ⟨_, rfl⟩
  rcases (prepared.outcome sound isInstance stopped).2 free with ⟨before, beforeLoaded, all⟩
  rcases stopped.job with ⟨stoppedJob, stoppedLoaded, _, instances⟩
  rw [beforeLoaded] at stoppedLoaded
  cases stoppedLoaded
  rcases all.job with ⟨later, laterLoaded, _, there, kept⟩
  rw [isLast] at laterLoaded all ⊢
  have looked (name : String) : last.store.instanceOf call.jobid name =
      later.instances.lookup name := by
    unfold Store.instanceOf
    rw [laterLoaded, Option.bind_some]
  have child (i : Nat) (small : i < call.sources.length) : Exists fun sub => Exists fun inputs =>
      last.store.instanceOf call.jobid (call.childID i) = some { sub with state := .pending } ∧
      call.ChildInstance uuid i sub ∧ sub.workflowStep =
        some (childStep call.step call.parentID (scatterProcessName call.basename [i]) inputs) ∧
      inputs.Perm (call.placed (call.shown i)) := by
    rcases prepared.child i small with ⟨sub, inputs, listed, made, step, perm⟩
    refine ⟨sub, inputs, ?_, made, step, perm⟩
    rw [looked, ← made.localID]
    exact there sub (List.mem_of_getElem? listed)
  refine ⟨?_, ?_, fun process => ?_, fun job wi loaded found src obj _ read =>
      ?_, fun i process listed => ?_⟩
  · rw [List.length_map, List.length_range]
  · exact List.nodup_range.map fun _ _ same =>
      childID_injective (ProcessInstance.workflowInstance.inj same)
  · cases process with
    | task ptr =>
        constructor
        · intro member
          rcases List.mem_map.mp member with ⟨_, _, never⟩
          cases never
        · rintro ⟨old, small⟩
          rw [all.nextTask, stopped.nextTask] at small
          omega
    | workflowInstance name =>
        have present : call.qm.store.instanceOf call.jobid name =
            call.job.instances.lookup name := by
          unfold Store.instanceOf
          rw [sound.loaded, Option.bind_some]
        unfold New
        dsimp only
        rw [present]
        constructor
        · intro member
          rcases List.mem_map.mp member with ⟨i, small, isChild⟩
          cases isChild
          have names := free i (List.mem_range.mp small)
          rw [isInstance] at names
          rcases child i (List.mem_range.mp small) with ⟨sub, _, found, _⟩
          exact ⟨names.1, by rw [found]; rfl⟩
        · rintro ⟨absent, found⟩
          by_contra away
          have outside : name ∉ added.map WorkflowInstance.localID := by
            rw [prepared.localIDs]
            intro member
            rcases List.mem_map.mp member with ⟨i, small, isChild⟩
            exact away (List.mem_map.mpr ⟨i, small, by rw [isChild]⟩)
          rw [looked, kept name outside] at found
          rcases instances name with same | ⟨_, same⟩
          · rw [same, absent] at found
            cases found
          · rw [same, absent] at found
            cases found
  · exact (keeps sound prepared isInstance stopped free isLast loaded found).source read
  · rw [List.getElem?_map, Option.map_eq_some_iff] at listed
    rcases listed with ⟨index, position, rfl⟩
    rcases List.getElem?_eq_some_iff.mp position with ⟨small, isIndex⟩
    rw [List.length_range] at small
    rw [List.getElem_range] at isIndex
    subst isIndex
    rcases child i small with ⟨sub, inputs, found, made, step, perm⟩
    refine ⟨rfl, ?_, childStep call.step call.parentID (scatterProcessName call.basename [i])
        inputs, ?_, perm⟩
    · unfold Belongs
      dsimp only
      rw [found, parent, Option.map_some, made.family]
    · unfold Store.processStep
      dsimp only
      rw [found]
      exact step

end PreparedInstances

end

end MergeCall

/-! ## The children and the merged array -/

namespace MergeCall

section

variable {call : MergeCall}

/-- The input that a child scatters over, among its inputs. -/
theorem Sound.filter_placed (sound : call.Sound) {inputs : List WorkflowStepInput} {k : Nat}
    (perm : inputs.Perm (call.placed k)) :
    inputs.filter (fun other => base other.id = base call.input.id) =
        [{ call.input with sourceIndex := k + 1 }] := by
  have keeps (input : WorkflowStepInput) : (placeIndex call.step [k] input).id = input.id := by
    unfold placeIndex
    split <;> rfl
  have here : placeIndex call.step [k] call.input = { call.input with sourceIndex := k + 1 } := by
    unfold placeIndex
    rw [sound.chosen, if_pos (List.mem_singleton.mpr rfl), List.idxOf_cons_self]
    rfl
  have distinct : (inputs.map fun input => base input.id).Nodup := by
    refine ((perm.map _).nodup_iff).mpr ?_
    unfold MergeCall.placed
    rw [List.map_map]
    have same : ((fun input : WorkflowStepInput => base input.id) ∘ placeIndex call.step [k]) =
        fun input => base input.id := by
      funext input
      exact congrArg base (keeps input)
    rw [same]
    exact sound.names.inputs
  have member : { call.input with sourceIndex := k + 1 } ∈ inputs := by
    rw [← here]
    exact perm.mem_iff.mpr (List.mem_map.mpr ⟨call.input, sound.listed, rfl⟩)
  exact filter_eq_singleton distinct member

theorem stable_self (call : MergeCall) : call.Stable call.qm.store call.job call.parent :=
  fun _ _ _ read => read

/-- How a call with sources ends: the children are there, or a name was taken. -/
theorem Sound.outcome (sound : call.Sound) (nonempty : call.sources ≠ []) :
    Exists fun last => Exists fun err => call.result = .ok (last, none, err) ∧
    (err = none ↔ call.NamesFree) ∧
      (call.NamesFree -> Exists fun children => call.Expanded last children) := by
  rcases sound.stops with ⟨after, stops, stopped⟩
  rw [sound.result_children nonempty stops]
  cases isProcess : call.process with
  | task ptr =>
      rcases sound.prepares isProcess stopped with ⟨expanded, tasks, prepared, calls⟩
      rw [isProcess] at calls
      rw [calls]
      exact ⟨_, _, rfl, (prepared.outcome sound isProcess).1, fun free =>
          ⟨_, prepared.expands sound isProcess free⟩⟩
  | workflowInstance localID =>
      rcases sound.preparesInstances isProcess stopped with ⟨uuid, added, prepared, parent, calls⟩
      rw [isProcess] at calls
      rw [calls]
      exact ⟨_, _, rfl, (prepared.outcome sound isProcess stopped).1, fun free =>
        ⟨_, prepared.expands sound isProcess stopped parent free⟩⟩

/-- The children have the values that the sources shown to them give. -/
theorem Expanded.reads_iff {last : ServerMgr} {children : List ProcessInstance}
    (expanded : call.Expanded last children) (sound : call.Sound) {i : Nat}
    {child : ProcessInstance} (there : children[i]? = some child) {value : CWLValue} :
    call.Reads last i child value ↔
      Exists fun read => call.values[call.shown i]? = some read ∧
          call.handed read = .ok (some value) := by
  rcases expanded.child i child there with ⟨named, belongs, step, isStep, perm⟩
  have only := sound.filter_placed perm
  have small : call.shown i < call.values.length := by
    have index := (List.getElem?_eq_some_iff.mp there).1
    rw [expanded.length] at index
    rw [sound.length_values]
    unfold shown
    split
    · exact index
    · omega
  constructor
  · rintro ⟨_, _, other, input, isOther, single, reads⟩
    rw [isStep] at isOther
    cases isOther
    rw [only] at single
    cases single
    refine ⟨_, List.getElem?_eq_getElem small, ?_⟩
    rw [← sound.child_value call.stable_self (List.getElem?_eq_getElem small)]
    exact reads _ _ _ call.stable_self
  · rintro ⟨read, listed, handed⟩
    refine ⟨named, belongs, step, _, isStep, only, fun store job wi stable => ?_⟩
    rw [sound.child_value stable listed]
    exact handed

/-- A scatter over a list of sources respects `linkMerge` exactly if there is no source, or the
names of the children are free and the sources fit to the merged array.  Nothing in the scattered
branch reads `linkMerge`: there is a child for every source, whatever the source holds. -/
theorem respects_linkMerge_iff (sound : call.Sound) :
    call.Respects ↔ call.sources = [] ∨ (call.NamesFree ∧ call.Fits) := by
  by_cases empty : call.sources = []
  · refine iff_of_true ?_ (Or.inl empty)
    rcases sound.result_empty empty with ⟨last, notice, err, result, nothing⟩
    have noValue : call.values = [] := by
      rw [← List.length_eq_zero_iff, sound.length_values, empty]
      rfl
    have merged : call.merged = [] := by
      by_cases flat : call.linkMerge = some "merge_flattened"
      · rw [(sound.flattened flat).1, noValue]
        rfl
      · rw [sound.nested flat, noValue]
    refine ⟨last, notice, err, [], result, fun some => absurd empty some, List.nodup_nil,
        fun process => ?_, ?_, ?_, ?_⟩
    · exact iff_of_false (fun never => (nomatch never)) (nothing process)
    · rw [merged]
      rfl
    · intro job wi _ _ src obj member
      rw [empty] at member
      cases member
    · intro i child value listed
      cases listed
  · rcases sound.outcome empty with ⟨last, err, result, isFree, expands⟩
    rw [or_iff_right empty]
    constructor
    · rintro ⟨other, notice, otherErr, children, same, quiet, distinct, new, length, _, reads⟩
      rw [result] at same
      obtain ⟨rfl, _, rfl⟩ : last = other ∧ none = notice ∧ err = otherErr := by
        have pairs := Prod.mk.inj (Except.ok.inj same)
        exact ⟨pairs.1, Prod.mk.inj pairs.2⟩
      have free := isFree.mp (quiet empty)
      rcases expands free with ⟨made, expanded⟩
      have perm : children.Perm made :=
          (List.perm_ext_iff_of_nodup distinct expanded.distinct).mpr fun process =>
        (new process).trans (expanded.new process).symm
      refine ⟨free, (sound.served_iff empty).mp ⟨?_, fun i value there => ?_⟩⟩
      · rw [← length, perm.length_eq, expanded.length]
      · have small : i < children.length := by
          rw [length]
          exact (List.getElem?_eq_some_iff.mp there).1
        obtain ⟨child, isChild⟩ : Exists fun child => children[i]? = some child :=
          ⟨_, List.getElem?_eq_getElem small⟩
        have read := reads i child value isChild there
        obtain ⟨j, listed⟩ :=
            List.mem_iff_getElem?.mp (perm.mem_iff.mp (List.mem_of_getElem? isChild))
        have same : i = j := by
          apply @childID_injective call
          rw [← read.1, (expanded.child j _ listed).1]
        rw [same] at read ⊢
        exact (expanded.reads_iff sound listed).mp read
    · rintro ⟨free, fits⟩
      rcases (sound.served_iff empty).mpr fits with ⟨long, served⟩
      rcases expands free with ⟨made, expanded⟩
      refine ⟨last, none, err, made, result, fun _ => isFree.mpr free, expanded.distinct,
          expanded.new, ?_,
        expanded.stable, fun i child value listed there => ?_⟩
      · rw [expanded.length, long]
      · exact (expanded.reads_iff sound listed).mpr (served i value there)

end

/-! ## Two lists of numbers -/

private def linkedInput : WorkflowStepInput :=
  ⟨"#main/s/in", some (.array [some "#main/x", some "#main/y"]), 0, false⟩

private def linkedStep : WorkflowStep where
  id := "#main/s"
  inputs := [linkedInput]
  out := ["out"]
  run := .commandLineTool
  scatter := ["#main/s/in"]
  scatterMethod := ""

private def linkedTask : Task :=
  { Task.blank with
    ident := ⟨"#main/s", "j"⟩
    state := .ready
    workflowStep := some linkedStep
    workflowInstanceID := "#main"
    workflowInstanceUUID := "u" }

private def number (json : String) : CWLValue :=
  .other "int" json

private def linkedInstance : WorkflowInstance :=
  { WorkflowInstance.blank with
    uuid := "u"
    localID := "#main"
    jobID := "j"
    inputs := some [("x", .array [number "1", number "2"]), ("y", .array [number "3"])]
    tasks := [0] }

private def linkedJob : Job :=
  ⟨"j", .inProgress, true, "#main", ⟨1, 0, "", false⟩, [], 0, ∅,
      AList.insert "#main" linkedInstance ∅⟩

/-- A step that scatters over the sources x = [1, 2] and y = [3]. -/
private def linkedCall (flat : Bool) : MergeCall where
  js := Javascript.plain (fun _ => .ok .null) (fun _ => "") (fun _ => "") fun _ => .error ""
  report _ := ""
  env :=
    { collect := fun _ _ wi => .ok ([], wi.looked)
      validateOutputs := fun _ => none
      prepareCWL := fun _ _ => none
      maxWorkFailure := 3
      maxClientFailure := 5 }
  spare := 0
  order _ := ["in"]
  uuids _ := "v"
  qm :=
    { ServerMgr.newServerMgr
        { task := fun ptr => if ptr = 0 then linkedTask else Task.blank
          nextTask := 1
          jobs := AList.insert "j" linkedJob ∅ } with
      taskMap := AList.insert ⟨"#main/s", "j"⟩ 0 ∅ }
  jobid := "j"
  parentID := "#main"
  basename := "s"
  process := .task 0
  job := linkedJob
  parent := linkedInstance
  step := linkedStep
  method := .dotproduct
  input := linkedInput
  sources := ["#main/x", "#main/y"]
  linkMerge := if flat then some "merge_flattened" else none
  default := none
  valueFrom := ""
  merged := if flat then [number "1", number "2", number "3"] else
      [.array [number "1", number "2"], .array [number "3"]]

private theorem linkedCall_sound (flat : Bool) : (linkedCall flat).Sound where
  loaded := rfl
  found := rfl
  localID := rfl
  started := rfl
  stepFound := rfl
  scatters := ⟨"#main/s/in", rfl, rfl⟩
  listed := List.mem_singleton.mpr rfl
  source := rfl
  unscattered := rfl
  merges := by cases flat <;> rfl
  method := rfl
  names := ⟨by cases flat <;> decide, by cases flat <;> decide⟩
  listing _ := by
    have same : ["in"].Perm (templateScatterStepIns linkedStep).keys := by decide
    exact same
  jobID := rfl
  jobNamed := by cases flat <;> decide
  plainJob := by cases flat <;> decide
  cwl := rfl
  tasks := rfl
  entrypoint := by cases flat <;> decide
  below := by cases flat <;> decide
  uuid := by cases flat <;> decide
  named := by cases flat <;> decide
  whole := by cases flat <;> decide
  relative := by cases flat <;> decide
  opened := ⟨Nat.one_pos, by cases flat <;> decide, rfl⟩
  placed := by
    intro ptr member
    rw [List.mem_singleton.mp member]
    exact Nat.one_pos
  allocated := by
    intro id ptr found
    rcases GoMap.lookup_insert_eq_some.mp found with ⟨_, rfl⟩ | ⟨_, missing⟩
    · exact Nat.one_pos
    · cases missing

/-- Without `linkMerge` the two children get [1, 2] and [3]. -/
theorem respects_linkMerge_nested : (linkedCall false).Sound ∧ (linkedCall false).Respects := by
  refine ⟨linkedCall_sound false, (respects_linkMerge_iff (linkedCall_sound false)).mpr
      (Or.inr ⟨?_, ?_⟩)⟩
  · intro i small
    have different : (linkedCall false).childID i ≠ "#main/s" := (linkedCall false).childID_ne i
    refine ⟨fun ptr listed => ?_, ?_⟩
    · rw [List.mem_singleton.mp listed]
      exact different.symm
    · exact AList.lookup_insert_ne fun same =>
        different (congrArg TaskUniqueIdentifier.taskName same)
  · unfold Fits
    rw [if_neg (by decide)]
    exact ⟨Or.inl rfl, fun _ _ never => (nomatch never)⟩

/-- With `merge_flattened` there should be a child for each of 1, 2 and 3, but
there is one for each source. -/
theorem scatter_ignores_linkMerge : (linkedCall true).Sound ∧ ¬(linkedCall true).Respects := by
  refine ⟨linkedCall_sound true, ?_⟩
  rintro ⟨last, notice, err, children, result, _, _, new, length, _, reads⟩
  have three : 2 < children.length := by
    rw [length]
    decide
  obtain ⟨child, there⟩ : Exists fun child => children[2]? = some child :=
      ⟨_, List.getElem?_eq_getElem three⟩
  have named := (reads 2 child (number "3") there rfl).1
  have added := (new child).mp (List.mem_of_getElem? there)
  have outcome : ((linkedCall true).result.toOption.map fun outcome =>
      (outcome.1.store.nextTask, (outcome.1.store.task 1).ident.taskName,
          (outcome.1.store.task 2).ident.taskName,
        (outcome.1.store.instanceOf "j" "#main/s_scatter2").isSome)) =
      some (3, "#main/s_scatter0", "#main/s_scatter1", false) := by
    decide
  rw [result] at outcome
  obtain ⟨next, first, second, absent⟩ : last.store.nextTask = 3 ∧
      (last.store.task 1).ident.taskName = "#main/s_scatter0" ∧
      (last.store.task 2).ident.taskName = "#main/s_scatter1" ∧
      (last.store.instanceOf "j" "#main/s_scatter2").isSome = false := by
    have parts := Option.some.inj outcome
    simpa using parts
  have third : (linkedCall true).childID 2 = "#main/s_scatter2" := by decide
  rw [third] at named
  cases child with
  | task ptr =>
      rcases added with ⟨old, small⟩
      rw [next] at small
      have either : ptr = 1 ∨ ptr = 2 := by
        have positive : 1 ≤ ptr := old
        omega
      rcases either with rfl | rfl
      · exact absurd (first.symm.trans named) (by decide)
      · exact absurd (second.symm.trans named) (by decide)
  | workflowInstance localID =>
      have isName : localID = "#main/s_scatter2" := named
      have present : (last.store.instanceOf "j" localID).isSome = true := added.2
      rw [isName, absent] at present
      cases present

end MergeCall

end ScatterMerge

end Core
end Awe
