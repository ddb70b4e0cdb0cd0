import Awe.Core.ScatterExpansion
import Awe.Core.StepCounterRuns

namespace Awe
namespace Core

open Lib Lib.Path StepCounter

/-!
# Collecting the outputs of a scatter task

When the last workunit of a child reports, `taskCompleted` looks at the other
children.  Only the one that finds all of them completed collects: it looks the
children up by their names, in the order of the index tuples, and makes an
array of their values for every declared output.  The last theorem joins this
with the expansion.
-/

namespace Scatter

section

variable {qm : ServerMgr} {jobid localID : String} {wi : WorkflowInstance} (collect : Collect)

/-- While a task of the instance is open, nothing happens behind another one. -/
theorem closeBehindTask_blocked (found : qm.store.instanceOf jobid localID = some wi) {ptr : Nat}
    (member : ptr ∈ wi.tasks) (opened : (qm.store.task ptr).state ≠ .completed) :
    Exists fun err => ServerMgr.closeBehindTask collect qm jobid (some localID) = .ok
        (qm, err) := by
  have waits : wi.tasks.any (fun ptr => (qm.store.task ptr).state ≠ .completed) = true :=
    List.any_eq_true.mpr ⟨ptr, member, decide_eq_true opened⟩
  have blocked : qm.store.blocked jobid wi =
      some "(completeSubworkflow) a task is not completed yet" := by
    unfold Store.blocked
    rw [if_pos waits]
  obtain ⟨job, loaded⟩ : Exists fun job => qm.store.jobs.lookup jobid = some job := by
    unfold Store.instanceOf at found
    rcases Option.bind_eq_some_iff.mp found with ⟨job, loaded, _⟩
    exact ⟨job, loaded⟩
  have stays : Exists fun ok => Exists fun reason =>
      ServerMgr.completeSubworkflow collect (qm.depthOf jobid) qm jobid localID = .ok
          (qm, ⟨⟨ok, reason⟩, none⟩) := by
    unfold ServerMgr.depthOf
    rw [loaded]
    dsimp only
    rw [ServerMgr.completeSubworkflow, loaded, found]
    dsimp only
    by_cases closed : wi.state = .completed
    · rw [if_pos closed]
      exact ⟨true, "", rfl⟩
    · rw [if_neg closed, blocked]
      exact ⟨false, _, rfl⟩
  rcases stays with ⟨ok, reason, stays⟩
  unfold ServerMgr.closeBehindTask
  dsimp only
  rw [found]
  dsimp only
  split
  · exact ⟨none, rfl⟩
  · rw [stays]
    cases ok with
    | true => exact ⟨none, rfl⟩
    | false => exact ⟨_, rfl⟩

/-- Behind the last task the call returns as well, and it writes to no task. -/
theorem closeBehindTask_returns (found : qm.store.instanceOf jobid localID = some wi) :
    Exists fun last => Exists fun err => ServerMgr.closeBehindTask collect qm jobid (some localID) =
        .ok (last, err) ∧
      last.store.task = qm.store.task ∧ Exists fun later => last.store.instanceOf jobid localID =
          some later := by
  unfold ServerMgr.closeBehindTask
  dsimp only
  rw [found]
  dsimp only
  split
  · exact ⟨qm, none, rfl, rfl, wi, found⟩
  · rcases @completeSubworkflow_depthOf jobid collect qm localID with ⟨⟨last, closing⟩, done⟩
    rcases @completeSubworkflow_advance jobid "" collect _ _ _ _ _ done with ⟨advance, tasks, _⟩
    have kept : Exists fun later => last.store.instanceOf jobid localID = some later := by
      have same := advance.progress.lists localID
      rw [found, Option.map_some] at same
      rcases Option.map_eq_some_iff.mp same with ⟨later, present, _⟩
      exact ⟨later, present⟩
    rw [done]
    rcases closing with ⟨⟨ok, reason⟩, err⟩
    cases err with
    | some err => exact ⟨last, _, rfl, tasks, kept⟩
    | none =>
        cases ok with
        | true => exact ⟨last, _, rfl, tasks, kept⟩
        | false => exact ⟨last, _, rfl, tasks, kept⟩

end

/-! ## Completing one task -/

/-- A task that `taskCompleted` can complete, with the instance around it. -/
structure Completing (qm : ServerMgr) (jobid localID : String) (ptr : Nat) (wi : WorkflowInstance) :
    Prop where
  opened : (qm.store.task ptr).state ≠ .completed
  job : (qm.store.task ptr).ident.jobId = jobid
  printable : (qm.store.task ptr).ident.string.2 = none
  owner : (qm.store.task ptr).workflowInstanceID = localID
  writable : Store.Writable (qm.store.task ptr)
  found : qm.store.instanceOf jobid localID = some wi

/-- The server after the state is written and the step is counted off. -/
def closed (qm : ServerMgr) (jobid localID : String) (ptr : Nat) : ServerMgr :=
  { qm with store := (qm.store.withState ptr .completed).incrementRemainSteps jobid localID (-1) }

section

variable {qm : ServerMgr} {jobid localID : String} {ptr : Nat} {wi : WorkflowInstance}
    {collect : Collect} {depth : Nat}

theorem closed_task : (closed qm jobid localID ptr).store.task =
    Function.update qm.store.task ptr { qm.store.task ptr with state := .completed } :=
  Store.modifyInstance_task ..

theorem closed_nextTask : (closed qm jobid localID ptr).store.nextTask = qm.store.nextTask :=
  Store.modifyInstance_nextTask ..

theorem Completing.instanceOf (completing : Completing qm jobid localID ptr wi) :
    (closed qm jobid localID ptr).store.instanceOf jobid localID =
      some { wi with remainSteps := wi.remainSteps + -1 } := by
  unfold closed Store.incrementRemainSteps
  rw [Store.instanceOf_modifyInstance, if_pos ⟨rfl, rfl⟩]
  change Option.map _ (qm.store.instanceOf jobid localID) = _
  rw [completing.found]
  rfl

theorem Completing.setState (completing : Completing qm jobid localID ptr wi) :
    qm.store.taskSetState ptr .completed = ((closed qm jobid localID ptr).store, none) := by
  rw [Store.taskSetState_completes completing.writable completing.opened
    (by rw [completing.job, completing.owner, completing.found]; rfl), completing.job,
        completing.owner]
  rfl

theorem Completing.getJob (completing : Completing qm jobid localID ptr wi) :
    Exists fun job => qm.store.getJob (qm.store.task ptr).ident.jobId = .ok job := by
  have found := completing.found
  unfold Store.instanceOf at found
  rcases Option.bind_eq_some_iff.mp found with ⟨job, loaded, _⟩
  unfold Store.getJob
  rw [completing.job, loaded]
  exact ⟨job, rfl⟩

/-- A task that is no scatter child. -/
theorem taskCompleted_single (completing : Completing qm jobid localID ptr wi)
    (alone : (qm.store.task ptr).scatterParent = none) :
    qm.taskCompleted collect (depth + 1) (some localID) ptr =
      ServerMgr.closeBehindTask collect (closed qm jobid localID ptr) jobid (some localID) := by
  rcases completing.getJob with ⟨job, loaded⟩
  rw [ServerMgr.taskCompleted]
  dsimp only
  rw [if_neg completing.opened, loaded]
  dsimp only
  rw [completing.printable]
  dsimp only
  rw [completing.setState]
  dsimp only
  rw [alone, completing.job]
  rfl

variable {between : ServerMgr}

/-- A scatter child that finds another one open. -/
theorem taskCompleted_waits (completing : Completing qm jobid localID ptr wi)
    (child : (qm.store.task ptr).scatterParent.isSome)
    (scattered : (closed qm jobid localID ptr).taskCompletedScatter
    { wi with remainSteps := wi.remainSteps + -1 } ptr =
      .ok (between, .finished none)) :
    qm.taskCompleted collect (depth + 1) (some localID) ptr =
      ServerMgr.closeBehindTask collect between jobid (some localID) := by
  rcases completing.getJob with ⟨job, loaded⟩
  have isChild : ¬(qm.store.task ptr).scatterParent.isNone = true := by
    rw [Option.isNone_iff_eq_none]
    intro absent
    rw [absent] at child
    cases child
  rw [ServerMgr.taskCompleted]
  dsimp only
  rw [if_neg completing.opened, loaded]
  dsimp only
  rw [completing.printable]
  dsimp only
  rw [completing.setState]
  dsimp only
  rw [if_neg isChild, completing.job, Option.bind_some,
    show ((closed qm jobid localID ptr).store.instanceOf jobid localID) =
        _ from completing.instanceOf]
  dsimp only
  rw [show ({ qm with store := (closed qm jobid localID ptr).store } : ServerMgr) = closed qm jobid
      localID ptr from rfl,
    scattered]

/-- The scatter child that completes the scatter task. -/
theorem taskCompleted_last (completing : Completing qm jobid localID ptr wi)
    (child : (qm.store.task ptr).scatterParent.isSome) {parent : Nat} {after : ServerMgr}
    {err : Err}
    (scattered : (closed qm jobid localID ptr).taskCompletedScatter
    { wi with remainSteps := wi.remainSteps + -1 } ptr =
      .ok (between, .completeParent parent))
    (called : between.taskCompleted collect depth (some localID) parent = .ok (after, err)) :
    (Exists fun text => qm.taskCompleted collect (depth + 1) (some localID) ptr = .ok
        (after, some text)) ∨
      qm.taskCompleted collect (depth + 1) (some localID) ptr =
        ServerMgr.closeBehindTask collect after jobid (some localID) := by
  rcases completing.getJob with ⟨job, loaded⟩
  have isChild : ¬(qm.store.task ptr).scatterParent.isNone = true := by
    rw [Option.isNone_iff_eq_none]
    intro absent
    rw [absent] at child
    cases child
  rw [ServerMgr.taskCompleted]
  dsimp only
  rw [if_neg completing.opened, loaded]
  dsimp only
  rw [completing.printable]
  dsimp only
  rw [completing.setState]
  dsimp only
  rw [if_neg isChild, completing.job, Option.bind_some,
    show ((closed qm jobid localID ptr).store.instanceOf jobid localID) =
        _ from completing.instanceOf]
  dsimp only
  rw [show ({ qm with store := (closed qm jobid localID ptr).store } : ServerMgr) = closed qm jobid
      localID ptr from rfl,
    scattered]
  dsimp only
  rw [called]
  cases err with
  | some text => exact Or.inl ⟨_, rfl⟩
  | none => exact Or.inr rfl

end

/-- The value that a completed child has for a declared output. -/
def outputValue (store : Store) (child : Nat) (outputID : String) : Option CWLValue :=
  (store.task child).stepOutput.bind fun document => Store.documentGet document (base outputID)

/-- The outputs of a step have a value for every declared output. -/
theorem documentGet_stepOutputs {out : List String} {outputID : String} (declared : outputID ∈ out)
    (results : JobDocument) :
    Exists fun value => Store.documentGet (stepOutputs out results) (base outputID) =
        some value := by
  have entry : Exists fun value => (base outputID, value) ∈ stepOutputs out results := by
    unfold stepOutputs
    cases found : results.filter fun named => base named.1 = base outputID with
    | nil =>
        refine ⟨.null, List.mem_flatMap.mpr ⟨outputID, declared, ?_⟩⟩
        rw [found]
        exact List.mem_singleton.mpr rfl
    | cons named rest =>
        refine ⟨named.2, List.mem_flatMap.mpr ⟨outputID, declared, ?_⟩⟩
        rw [found]
        exact List.mem_map.mpr ⟨named, List.mem_cons_self, rfl⟩
  rcases entry with ⟨value, member⟩
  unfold Store.documentGet
  cases searched : (stepOutputs out results).find? fun entry => entry.1 = base outputID with
  | some entry => exact ⟨entry.2, rfl⟩
  | none => exact absurd (decide_eq_true rfl) (List.find?_eq_none.mp searched _ member)

/-- The inner loop of the collection, when every child has its value. -/
theorem gatherOutput_values {store : Store} {outputID : String} (children : List Nat)
    (valued : forall child, child ∈ children -> Exists fun value =>
    outputValue store child outputID = some value) :
    Exists fun items => ServerMgr.gatherOutput store children (base outputID) = .ok (.ok items) ∧
      items.map some = children.map fun child => outputValue store child outputID := by
  induction children with
  | nil => exact ⟨[], rfl, rfl⟩
  | cons child rest inductionHypothesis =>
      rcases valued child List.mem_cons_self with ⟨value, here⟩
      obtain ⟨items, gathered, same⟩ := inductionHypothesis fun other member =>
        valued other (List.mem_cons_of_mem _ member)
      rcases Option.bind_eq_some_iff.mp here with ⟨document, output, got⟩
      refine ⟨value :: items, ?_, ?_⟩
      · rw [ServerMgr.gatherOutput, output]
        dsimp only
        rw [got]
        dsimp only
        rw [gathered]
      · rw [List.map_cons, List.map_cons, same, here]

/-- What the collection has to make: an array for every declared output. A child without a value
would leave a gap in the array, so every one of them has to have one. -/
structure Collected (store : Store) (children : List Nat) (out : List String)
    (document : JobDocument) : Prop where
  outputs : document.map Prod.fst = out
  arrays : forall outputID value, (outputID, value) ∈ document -> Exists fun items =>
      value = .array items ∧
    items.map some = children.map fun child => outputValue store child outputID

/-- The outer loop, from any outputs on. -/
theorem gatherOutputs_collected {store : Store} {children : List Nat} (out : List String)
    (valued : forall outputID, outputID ∈ out -> forall child, child ∈ children ->
      Exists fun value => outputValue store child outputID = some value) :
    forall (earlier : List String) (document : JobDocument),
        Collected store children earlier document ->
      Exists fun whole => ServerMgr.gatherOutputs store children out document = .ok (whole, none) ∧
        Collected store children (earlier ++ out) whole := by
  induction out with
  | nil =>
      intro earlier document collected
      refine ⟨document, rfl, ?_⟩
      rw [List.append_nil]
      exact collected
  | cons outputID rest inductionHypothesis =>
      intro earlier document collected
      obtain ⟨items, gathered, same⟩ :=
          gatherOutput_values children (valued outputID List.mem_cons_self)
      have longer : Collected store children (earlier ++ [outputID])
          (document ++ [(outputID, .array items)]) := by
        refine ⟨?_, fun name value member => ?_⟩
        · rw [List.map_append, collected.outputs]
          rfl
        · rcases List.mem_append.mp member with before | last
          · exact collected.arrays name value before
          · cases List.mem_singleton.mp last
            exact ⟨items, rfl, same⟩
      obtain ⟨whole, done, all⟩ := inductionHypothesis
        (fun other member => valued other (List.mem_cons_of_mem _ member)) _ _ longer
      refine ⟨whole, ?_, ?_⟩
      · rw [ServerMgr.gatherOutputs, gathered]
        exact done
      · rw [List.append_assoc] at all
        exact all

/-! ## The family of a scatter task -/

namespace Call

/-- The identifier of the scatter task. -/
def parentIdent (call : Call) : TaskUniqueIdentifier :=
  ⟨call.parentID ++ "/" ++ call.basename, call.jobid⟩

/-- The pointer to the child of the `k`-th tuple. -/
def childPtr (call : Call) (k : Nat) : Nat :=
  call.qm.store.nextTask + k

/-- The scatter task and its children, after the expansion. It is all that the gathering needs to
know of the expansion, which lies any number of events back. -/
structure Family (call : Call) (last : ServerMgr) : Prop where
  parent : last.store.task call.ptr =
    { call.qm.store.task call.ptr with scatterChildren := call.tuples.map call.childName }
  children : forall (k : Nat) (tuple : List Nat), call.tuples[k]? = some tuple ->
    (last.store.task (call.childPtr k)).ident = call.childIdent tuple ∧
      (last.store.task (call.childPtr k)).state = .ready ∧
      (last.store.task (call.childPtr k)).scatterParent = some call.parentIdent ∧
      (last.store.task (call.childPtr k)).workflowInstanceID = call.parentID ∧
      (last.store.task (call.childPtr k)).workflowInstanceUUID ≠ "" ∧
      Exists fun inputs => (last.store.task (call.childPtr k)).workflowStep =
        some (childStep call.step call.parentID (call.childName tuple) inputs)
  others : forall ptr, ptr ∈ call.parent.tasks -> forall tuple, tuple ∈ call.tuples ->
    base (last.store.task ptr).ident.taskName ≠ call.childName tuple
  found : Exists fun wi => last.store.instanceOf call.jobid call.parentID = some wi ∧
    wi.tasks = call.parent.tasks ++ List.range' call.qm.store.nextTask call.tuples.length
  mapped : last.taskMap.lookup call.parentIdent = some call.ptr
  nextTask : last.store.nextTask = call.qm.store.nextTask + call.tuples.length

variable {call : Call}

theorem childName_ne (tuple : List Nat) : call.childName tuple ≠ call.basename := by
  intro same
  have letters := congrArg String.length same
  unfold childName scatterProcessName at letters
  rw [String.length_append, String.length_append] at letters
  have eight : "_scatter".length = 8 := by decide
  omega

theorem Sound.family (sound : call.Sound) (free : call.NamesFree) {tasks : List Task}
    {last : ServerMgr} (prepared : Sound.Prepared call tasks)
    (added : Added (Sound.expanded call) last call.jobid call.parentID call.parent tasks) :
    Family call last where
  parent := by
    rw [added.old call.ptr sound.small]
    unfold Sound.expanded
    dsimp only
    rw [Store.modifyTask_self]
  children := fun k tuple listed => by
    rcases prepared.child k tuple listed with ⟨task, inputs, there, child, step, _⟩
    have made : last.store.task (call.childPtr k) = readied task := added.child k task there
    rw [made]
    exact ⟨child.ident, rfl, child.family, child.owner, child.uuid, inputs, step⟩
  others := fun ptr member tuple listed => by
    rcases sound.placed ptr member with ⟨small, name, named, whole, text⟩
    rw [added.old ptr small, Sound.expanded_ident, text, base_append _ named whole]
    intro same
    exact (free tuple listed).1 ptr member (by rw [text, same]; rfl)
  found := ⟨_, added.found, by rw [prepared.length]; rfl⟩
  mapped := by
    rw [added.mapped]
    · exact sound.mapped
    · intro member
      rcases List.mem_map.mp member with ⟨task, listed, same⟩
      rcases prepared.exists_tuple listed with ⟨tuple, _, child⟩
      rw [child.ident] at same
      have text := congrArg TaskUniqueIdentifier.taskName same
      have letters := congrArg String.toList text
      simp only [childIdent, parentIdent, String.toList_append, List.append_cancel_left_eq]
          at letters
      exact childName_ne tuple (String.toList_injective letters)
  nextTask := by
    rw [added.nextTask, prepared.length]
    rfl

/-- The family while its children report: `done` lists those that have. It is the invariant of the
run: only children that have reported differ from what the expansion left. -/
structure Gathering (call : Call) (last : ServerMgr) (report : Nat -> JobDocument) (done : List Nat)
    (qm : ServerMgr) : Prop where
  reported : forall k, k ∈ done -> qm.store.task (call.childPtr k) =
    { last.store.task (call.childPtr k) with stepOutput := some (report k), state := .completed }
  untouched : forall ptr, (forall k, k ∈ done -> ptr ≠ call.childPtr k) ->
      qm.store.task ptr = last.store.task ptr
  nextTask : qm.store.nextTask = last.store.nextTask
  found : Exists fun wi => qm.store.instanceOf call.jobid call.parentID = some wi ∧
    wi.tasks = call.parent.tasks ++ List.range' call.qm.store.nextTask call.tuples.length
  mapped : qm.taskMap.lookup call.parentIdent = some call.ptr

namespace Gathering

variable {last qm : ServerMgr} {report : Nat -> JobDocument} {done : List Nat}

theorem start (family : Family call last) (report : Nat -> JobDocument) :
    Gathering call last report [] last where
  reported := fun _ member => absurd member List.not_mem_nil
  untouched := fun _ _ => rfl
  nextTask := rfl
  found := family.found
  mapped := family.mapped

theorem ident (gathering : Gathering call last report done qm) (ptr : Nat) :
    (qm.store.task ptr).ident = (last.store.task ptr).ident := by
  by_cases closed : Exists fun k => k ∈ done ∧ ptr = call.childPtr k
  · rcases closed with ⟨k, member, rfl⟩
    rw [gathering.reported k member]
  · rw [gathering.untouched ptr fun k member same => closed ⟨k, member, same⟩]

/-- The scatter task is not one of its children. -/
theorem parent (gathering : Gathering call last report done qm) (sound : call.Sound) :
    qm.store.task call.ptr = last.store.task call.ptr := by
  refine gathering.untouched call.ptr fun k _ same => ?_
  have small := sound.small
  unfold childPtr at same
  omega

end Gathering

/-- The children are found by their names, in the order of the tuples. -/
theorem Family.getScatterChildren {last : ServerMgr} (family : Family call last)
    (sound : call.Sound) {store : Store}
    (idents : forall ptr, (store.task ptr).ident = (last.store.task ptr).ident)
    {wi : WorkflowInstance}
    (tasks : wi.tasks = call.parent.tasks ++ List.range' call.qm.store.nextTask call.tuples.length)
    {task : Task} (named : task.scatterChildren = call.tuples.map call.childName) :
    store.getScatterChildren wi task = .ok ((List.range call.tuples.length).map call.childPtr) := by
  have each (k : Nat) (tuple : List Nat) (listed : call.tuples[k]? = some tuple) :
      store.getTaskByName wi (call.childName tuple) = some (call.childPtr k) := by
    have tupleMember : tuple ∈ call.tuples := List.mem_of_getElem? listed
    have baseName (j : Nat) (other : List Nat) (there : call.tuples[j]? = some other) :
        base (store.task (call.childPtr j)).ident.taskName = call.childName other := by
      rw [idents, (family.children j other there).1]
      exact base_append _ (sound.childName_named other) (sound.childName_whole other)
    have small : k < call.tuples.length := (List.getElem?_eq_some_iff.mp listed).1
    have earlier : call.parent.tasks.find?
        (fun ptr => base (store.task ptr).ident.taskName = call.childName tuple) =
        none := by
      refine List.find?_eq_none.mpr fun ptr member same => ?_
      have text := of_decide_eq_true same
      rw [idents] at text
      exact family.others ptr member tuple tupleMember text
    unfold Store.getTaskByName
    rw [tasks, List.find?_append, earlier, Option.none_or]
    cases searched : (List.range' call.qm.store.nextTask call.tuples.length).find? fun ptr =>
        base (store.task ptr).ident.taskName = call.childName tuple with
    | none =>
        refine absurd (decide_eq_true (baseName k tuple listed))
            (List.find?_eq_none.mp searched _ ?_)
        exact List.mem_range'_1.mpr ⟨Nat.le_add_right .., Nat.add_lt_add_left small _⟩
    | some ptr =>
        have text : base (store.task ptr).ident.taskName = call.childName tuple := by
          simpa using List.find?_some searched
        have range := List.mem_range'_1.mp (List.mem_of_find?_eq_some searched)
        rcases Nat.exists_eq_add_of_le range.1 with ⟨j, rfl⟩
        have smaller : j < call.tuples.length := by omega
        have there := List.getElem?_eq_getElem smaller
        rw [show call.qm.store.nextTask + j = call.childPtr j from rfl, baseName j _ there] at text
        have same := sound.childName_injective (List.getElem_mem smaller) tupleMember text
        have position : j = k := by
          rw [List.getElem?_eq_getElem small] at listed
          exact (sound.tuples_nodup.getElem_inj_iff).mp (same.trans (Option.some.inj listed).symm)
        rw [position]
        rfl
  unfold Store.getScatterChildren
  rw [named, Fallible.mapM_ok_iff, List.forall₂_iff_get]
  refine ⟨by simp, fun k small other => ?_⟩
  have smaller : k < call.tuples.length := by simpa using small
  simp only [List.get_eq_getElem, List.getElem_map, List.getElem_range]
  rw [each k _ (List.getElem?_eq_getElem smaller)]

/-! ## A child reports -/

/-- Rewording the error of a call does not matter to the state it leaves. -/
theorem survives_relabel (result : Except Halt (ServerMgr × Err)) (about : String -> String) :
    survives (match result with
      | .ok (qm, some err) => .ok (qm, some (about err))
      | result => result) = survives result := by
  cases result with
  | error halt => rfl
  | ok answer =>
      rcases answer with ⟨after, err⟩
      cases err with
      | none => rfl
      | some text => rfl

section

variable {last qm : ServerMgr} {report : Nat -> JobDocument} {done : List Nat} {k : Nat}
    {tuple : List Nat}

/-- The child with its outputs written, and its task ready to be completed. -/
theorem Gathering.completing (gathering : Gathering call last report done qm) (sound : call.Sound)
    (family : Family call last) (listed : call.tuples[k]? = some tuple) (waiting : k ∉ done)
    (document : JobDocument) :
    Exists fun wi => wi.tasks = call.parent.tasks ++ List.range' call.qm.store.nextTask
        call.tuples.length ∧
      Completing { qm with store := qm.store.modifyTask (call.childPtr k) fun task =>
        { task with stepOutput := some document } } call.jobid call.parentID
            (call.childPtr k) wi := by
  rcases gathering.found with ⟨wi, found, tasks⟩
  rcases family.children k tuple listed with ⟨ident, state, _, owner, uuid, _⟩
  have untouched : qm.store.task (call.childPtr k) = last.store.task (call.childPtr k) := by
    refine gathering.untouched _ fun j member same => ?_
    have position : k = j := Nat.add_left_cancel same
    exact waiting (position ▸ member)
  have named : call.parentID ++ "/" ++ call.childName tuple ≠ "" := by
    intro empty
    have letters := congrArg String.toList empty
    simp only [String.toList_append, String.toList_empty, List.append_eq_nil_iff] at letters
    exact sound.childName_named tuple
        (String.toList_injective (letters.2.trans String.toList_empty.symm))
  refine ⟨wi, tasks, ?_, ?_, ?_, ?_, ?_, found⟩
  · rw [Store.modifyTask_self, untouched]
    dsimp only
    rw [state]
    decide
  · rw [Store.modifyTask_self, untouched]
    dsimp only
    rw [ident]
    rfl
  · rw [Store.modifyTask_self, untouched]
    dsimp only
    rw [ident]
    unfold TaskUniqueIdentifier.string childIdent
    rw [if_neg named, if_neg sound.jobNamed]
  · rw [Store.modifyTask_self, untouched]
    exact owner
  · rw [Store.modifyTask_self, untouched]
    refine ⟨?_, uuid⟩
    dsimp only
    rw [ident]
    exact sound.jobNamed

/-- `handleLastWorkunit` of a child writes its outputs and completes it. -/
theorem Gathering.handleLastWorkunit (gathering : Gathering call last report done qm)
    (sound : call.Sound) (family : Family call last) (listed : call.tuples[k]? = some tuple)
    (waiting : k ∉ done) {notice : Notice} {results : JobDocument}
    (sent : notice.results = some results) :
    survives (qm.handleLastWorkunit call.env (call.childPtr k) notice) =
      survives (ServerMgr.taskCompleted call.env.collect (qm.store.nextTask + 1)
        { qm with store := qm.store.modifyTask (call.childPtr k) fun task =>
          { task with stepOutput := some (stepOutputs call.step.out results) } }
        (some call.parentID) (call.childPtr k)) := by
  rcases family.children k tuple listed with ⟨_, _, parent, owner, _, inputs, workflowStep⟩
  have untouched : qm.store.task (call.childPtr k) = last.store.task (call.childPtr k) := by
    refine gathering.untouched _ fun j member same => ?_
    have position : k = j := Nat.add_left_cancel same
    exact waiting (position ▸ member)
  obtain ⟨wi, _, completing⟩ :=
      gathering.completing sound family listed waiting (stepOutputs call.step.out results)
  have valid : call.env.validateOutputs (qm.store.task (call.childPtr k)) = none :=
    sound.valid _ (by rw [untouched, parent]; rfl)
  have job : (qm.store.task (call.childPtr k)).ident.jobId = call.jobid := by
    rw [untouched, (family.children k tuple listed).1]
    rfl
  unfold ServerMgr.handleLastWorkunit
  dsimp only
  rw [valid, untouched, workflowStep]
  dsimp only
  rw [sent]
  dsimp only
  rw [show (childStep call.step call.parentID (call.childName tuple) inputs).out =
      call.step.out from rfl]
  rcases Store.getWorkflowInstance_cases (qm.store.modifyTask (call.childPtr k) fun task =>
      { task with stepOutput := some (stepOutputs call.step.out results) })
      (last.store.task (call.childPtr k)) with ⟨known, _, looked⟩ | ⟨missing, _⟩
  · rw [looked]
    dsimp only
    rw [owner]
    exact survives_relabel _ _
  · rw [← untouched, job, untouched, owner] at missing
    have found := completing.found
    dsimp only at found
    rw [missing] at found
    cases found

/-- The server between the completion of a child and the look at the others. -/
def reportedBy (call : Call) (qm : ServerMgr) (k : Nat) (document : JobDocument) : ServerMgr :=
  closed { qm with store := qm.store.modifyTask (call.childPtr k) fun task =>
    { task with stepOutput := some document } } call.jobid call.parentID (call.childPtr k)

theorem Gathering.afterReport (gathering : Gathering call last report done qm) (sound : call.Sound)
    (family : Family call last) (listed : call.tuples[k]? = some tuple) (waiting : k ∉ done) :
    Gathering call last report (k :: done) (call.reportedBy qm k (report k)) := by
  rcases gathering.completing sound family listed waiting (report k) with ⟨wi, tasks, completing⟩
  have untouched : qm.store.task (call.childPtr k) = last.store.task (call.childPtr k) := by
    refine gathering.untouched _ fun j member same => ?_
    have position : k = j := Nat.add_left_cancel same
    exact waiting (position ▸ member)
  have here : (call.reportedBy qm k (report k)).store.task (call.childPtr k) =
      { last.store.task (call.childPtr k) with
          stepOutput := some (report k), state := .completed } := by
    unfold reportedBy
    rw [closed_task, Function.update_self, Store.modifyTask_self, untouched]
  have elsewhere (ptr : Nat) (different : ptr ≠ call.childPtr k) :
      (call.reportedBy qm k (report k)).store.task ptr = qm.store.task ptr := by
    unfold reportedBy
    rw [closed_task, Function.update_of_ne different, Store.modifyTask_of_ne _ different]
  refine ⟨fun j member => ?_, fun ptr away => ?_, ?_, ⟨_, completing.instanceOf, tasks⟩,
      gathering.mapped⟩
  · rcases List.mem_cons.mp member with rfl | earlier
    · exact here
    · have different : call.childPtr j ≠ call.childPtr k := by
        intro same
        have position : j = k := Nat.add_left_cancel same
        exact waiting (position ▸ earlier)
      rw [elsewhere _ different]
      exact gathering.reported j earlier
  · rw [elsewhere ptr (away k List.mem_cons_self)]
    exact gathering.untouched ptr fun j member => away j (List.mem_cons_of_mem _ member)
  · unfold reportedBy
    rw [closed_nextTask]
    exact gathering.nextTask

/-- The children as the collection finds them. -/
theorem Gathering.getScatterChildren (gathering : Gathering call last report done qm)
    (sound : call.Sound) (family : Family call last) {wi : WorkflowInstance}
    (tasks : wi.tasks = call.parent.tasks ++ List.range' call.qm.store.nextTask
    call.tuples.length) :
    qm.store.getScatterChildren wi (qm.store.task call.ptr) =
      .ok ((List.range call.tuples.length).map call.childPtr) := by
  refine family.getScatterChildren sound gathering.ident tasks ?_
  rw [gathering.parent sound, family.parent]

theorem Gathering.scatterParent (gathering : Gathering call last report done qm)
    (family : Family call last) (listed : call.tuples[k]? = some tuple) :
    (qm.store.task (call.childPtr k)).scatterParent = some call.parentIdent := by
  have child := (family.children k tuple listed).2.2.1
  by_cases member : k ∈ done
  · rw [gathering.reported k member]
    exact child
  · rw [gathering.untouched]
    · exact child
    · intro j other same
      have position : k = j := Nat.add_left_cancel same
      exact member (position ▸ other)

theorem Gathering.scatter_waits (gathering : Gathering call last report done qm)
    (sound : call.Sound) (family : Family call last) (listed : call.tuples[k]? = some tuple)
    {wi : WorkflowInstance}
    (tasks : wi.tasks = call.parent.tasks ++ List.range' call.qm.store.nextTask call.tuples.length)
    {j : Nat} (small : j < call.tuples.length)
    (ready : (qm.store.task (call.childPtr j)).state ≠ .completed) :
    qm.taskCompletedScatter wi (call.childPtr k) = .ok (qm, .finished none) := by
  unfold ServerMgr.taskCompletedScatter
  rw [gathering.scatterParent family listed]
  dsimp only
  rw [gathering.mapped]
  dsimp only
  rw [gathering.getScatterChildren sound family tasks]
  dsimp only
  rw [if_pos]
  refine List.any_eq_true.mpr ⟨call.childPtr j, ?_, decide_eq_true ready⟩
  exact List.mem_map.mpr ⟨j, List.mem_range.mpr small, rfl⟩

/-- While another child is open, a report changes nothing but the child itself. -/
theorem Gathering.waits (gathering : Gathering call last report done qm) (sound : call.Sound)
    (family : Family call last) (listed : call.tuples[k]? = some tuple) (waiting : k ∉ done)
    {j : Nat} (small : j < call.tuples.length) (opened : j ∉ k :: done) {notice : Notice}
    {results : JobDocument} (sent : notice.results = some results)
    (isReport : report k = stepOutputs call.step.out results) :
    Exists fun next => survives (qm.handleLastWorkunit call.env (call.childPtr k) notice) =
        some next ∧
      Gathering call last report (k :: done) next := by
  have reported := gathering.afterReport sound family listed waiting
  rcases gathering.completing sound family listed waiting (report k) with ⟨wi, tasks, completing⟩
  have ready : ((call.reportedBy qm k (report k)).store.task (call.childPtr j)).state ≠
      .completed := by
    have other := List.getElem?_eq_getElem small
    rw [reported.untouched, (family.children j _ other).2.1]
    · decide
    · intro i member same
      have position : j = i := Nat.add_left_cancel same
      exact opened (position ▸ member)
  have isChild : (qm.store.task (call.childPtr k)).scatterParent.isSome := by
    rw [gathering.scatterParent family listed]
    rfl
  have scattered := @Gathering.scatter_waits _ _ _ _ _ _ _ reported sound family listed
    { wi with remainSteps := wi.remainSteps + -1 } tasks _ small ready
  have member : call.childPtr j ∈ wi.tasks := by
    rw [tasks]
    exact List.mem_append_right _
        (List.mem_range'_1.mpr ⟨Nat.le_add_right .., Nat.add_lt_add_left small _⟩)
  obtain ⟨err, stays⟩ := closeBehindTask_blocked call.env.collect completing.instanceOf member ready
  refine ⟨_, ?_, reported⟩
  rw [gathering.handleLastWorkunit sound family listed waiting sent, ← isReport,
    taskCompleted_waits completing (by rw [Store.modifyTask_self]; exact isChild) scattered]
  exact congrArg survives stays

/-- The collection, when every child has reported. -/
theorem Gathering.scatter_collects (gathering : Gathering call last report done qm)
    (sound : call.Sound) (family : Family call last) (listed : call.tuples[k]? = some tuple)
    {wi : WorkflowInstance}
    (tasks : wi.tasks = call.parent.tasks ++ List.range' call.qm.store.nextTask call.tuples.length)
    (all : forall j, j < call.tuples.length -> j ∈ done)
    (reports : forall j, Exists fun results => report j = stepOutputs call.step.out results) :
    Exists fun document => Collected qm.store ((List.range call.tuples.length).map call.childPtr)
        call.step.out document ∧
      qm.taskCompletedScatter wi (call.childPtr k) =
        .ok ({ qm with store := qm.store.modifyTask call.ptr fun task =>
          { task with finalizing := true, stepOutput := some document } },
              .completeParent call.ptr) := by
  have valued (outputID : String) (declared : outputID ∈ call.step.out) (child : Nat)
      (member : child ∈ (List.range call.tuples.length).map call.childPtr) :
      Exists fun value => outputValue qm.store child outputID = some value := by
    rcases List.mem_map.mp member with ⟨j, small, rfl⟩
    rcases reports j with ⟨results, isReport⟩
    unfold outputValue
    rw [gathering.reported j (all j (List.mem_range.mp small)), isReport, Option.bind_some]
    exact documentGet_stepOutputs declared results
  obtain ⟨document, gathered, collected⟩ := gatherOutputs_collected call.step.out valued [] []
    ⟨rfl, fun _ _ member => absurd member List.not_mem_nil⟩
  have closedAll : ¬((List.range call.tuples.length).map call.childPtr).any
      (fun child => (qm.store.task child).state ≠ .completed) = true := by
    intro some_open
    rcases List.any_eq_true.mp some_open with ⟨child, member, opened⟩
    rcases List.mem_map.mp member with ⟨j, small, rfl⟩
    rw [gathering.reported j (all j (List.mem_range.mp small))] at opened
    exact absurd rfl (of_decide_eq_true opened)
  have parent := gathering.parent sound
  have collecting : ¬(qm.store.task call.ptr).finalizing = true := by
    rw [parent, family.parent]
    dsimp only
    rw [sound.collecting]
    exact Bool.false_ne_true
  have workflowStep : (qm.store.task call.ptr).workflowStep = some call.step := by
    rw [parent, family.parent]
    exact sound.stepFound
  refine ⟨document, collected, ?_⟩
  unfold ServerMgr.taskCompletedScatter
  rw [gathering.scatterParent family listed]
  dsimp only
  rw [gathering.mapped]
  dsimp only
  rw [gathering.getScatterChildren sound family tasks]
  dsimp only
  rw [if_neg closedAll, if_neg collecting, workflowStep]
  dsimp only
  rw [gathered]

/-- The scatter task, with its outputs written, can be completed. -/
theorem Gathering.parentCompleting (gathering : Gathering call last report done qm)
    (sound : call.Sound) (family : Family call last) {wi : WorkflowInstance}
    (found : qm.store.instanceOf call.jobid call.parentID = some wi) (document : JobDocument) :
    Completing { qm with store := qm.store.modifyTask call.ptr fun task =>
      { task with finalizing := true, stepOutput := some document } } call.jobid call.parentID
          call.ptr wi := by
  have parent := gathering.parent sound
  have named : call.parentID ++ "/" ++ call.basename ≠ "" := by
    intro empty
    have letters := congrArg String.toList empty
    simp only [String.toList_append, String.toList_empty, List.append_eq_nil_iff] at letters
    exact sound.named (String.toList_injective (letters.2.trans String.toList_empty.symm))
  refine ⟨?_, ?_, ?_, ?_, ?_, found⟩
  · rw [Store.modifyTask_self, parent, family.parent]
    exact sound.opened
  · rw [Store.modifyTask_self, parent, family.parent]
    dsimp only
    rw [sound.ident]
  · rw [Store.modifyTask_self, parent, family.parent]
    dsimp only
    rw [sound.ident]
    unfold TaskUniqueIdentifier.string
    rw [if_neg named, if_neg sound.jobNamed]
  · rw [Store.modifyTask_self, parent, family.parent]
    exact sound.owner
  · rw [Store.modifyTask_self, parent, family.parent]
    refine ⟨?_, sound.ownerUUID⟩
    dsimp only
    rw [sound.ident]
    exact sound.jobNamed

/-- What the last report leaves behind. The last report is not marked as such; it is the one after
which no child is left open. -/
structure Finished (call : Call) (last final : ServerMgr) (report : Nat -> JobDocument) : Prop where
  parent : Exists fun document => final.store.task call.ptr =
      { last.store.task call.ptr with
          finalizing := true, stepOutput := some document, state := .completed } ∧
    Collected final.store ((List.range call.tuples.length).map call.childPtr) call.step.out document
  children : forall k, k < call.tuples.length -> (final.store.task (call.childPtr k)).stepOutput =
      some (report k)

/-- The last child to report collects. -/
theorem Gathering.finishes (gathering : Gathering call last report done qm) (sound : call.Sound)
    (family : Family call last) (listed : call.tuples[k]? = some tuple) (waiting : k ∉ done)
    (all : forall j, j < call.tuples.length -> j ∈ k :: done)
    (reports : forall j, Exists fun results => report j = stepOutputs call.step.out results)
    {notice : Notice} {results : JobDocument} (sent : notice.results = some results)
    (isReport : report k = stepOutputs call.step.out results) :
    Exists fun final => survives (qm.handleLastWorkunit call.env (call.childPtr k) notice) =
        some final ∧
      Finished call last final report := by
  have reported := gathering.afterReport sound family listed waiting
  rcases gathering.completing sound family listed waiting (report k) with ⟨wi, tasks, completing⟩
  have isChild : (qm.store.task (call.childPtr k)).scatterParent.isSome := by
    rw [gathering.scatterParent family listed]
    rfl
  obtain ⟨document, collected, scattered⟩ :=
      @Gathering.scatter_collects _ _ _ _ _ _ _ reported sound family listed
    { wi with remainSteps := wi.remainSteps + -1 } tasks all reports
  have parentCompleting := reported.parentCompleting sound family completing.instanceOf document
  have alone : ((call.reportedBy qm k (report k)).store.task call.ptr).scatterParent = none := by
    rw [reported.parent sound, family.parent]
    exact sound.outermost
  -- The scatter task completes first, and the instance is closed behind it if it can be.
  obtain ⟨between, err, closing, sameTasks, later, stillFound⟩ :=
    closeBehindTask_returns call.env.collect parentCompleting.instanceOf
  have deeper : Exists fun depth => qm.store.nextTask = depth + 1 := by
    have small := sound.small
    have length := family.nextTask
    rw [← gathering.nextTask] at length
    exact ⟨qm.store.nextTask - 1, by omega⟩
  rcases deeper with ⟨depth, enough⟩
  have called := (@taskCompleted_single _ _ _ _ _ call.env.collect depth parentCompleting
    (by rw [Store.modifyTask_self]; exact alone)).trans closing
  have childCalled := taskCompleted_last completing (by rw [Store.modifyTask_self]; exact isChild)
      scattered called
  have finished (final : ServerMgr) (same : final.store.task = between.store.task) :
      Finished call last final report := by
    rw [sameTasks, closed_task] at same
    dsimp only at same
    have others (ptr : Nat) (different : ptr ≠ call.ptr) :
        final.store.task ptr = (call.reportedBy qm k (report k)).store.task ptr := by
      rw [same, Function.update_of_ne different, Store.modifyTask_of_ne _ different]
    have apart (j : Nat) : call.childPtr j ≠ call.ptr := by
      have small := sound.small
      unfold childPtr
      omega
    refine ⟨⟨document, ?_, ?_⟩, fun j small => ?_⟩
    · rw [same, Function.update_self, Store.modifyTask_self, reported.parent sound]
    · refine ⟨collected.outputs, fun outputID value member => ?_⟩
      rcases collected.arrays outputID value member with ⟨items, isArray, values⟩
      refine ⟨items, isArray, values.trans (List.map_congr_left fun child listedChild => ?_)⟩
      rcases List.mem_map.mp listedChild with ⟨j, _, rfl⟩
      unfold outputValue
      rw [others _ (apart j)]
    · rw [others _ (apart j), reported.reported j (all j small)]
  rw [gathering.handleLastWorkunit sound family listed waiting sent, ← isReport, enough]
  rcases childCalled with ⟨text, stops⟩ | goesOn
  · rw [stops]
    exact ⟨between, rfl, finished between rfl⟩
  · obtain ⟨final, lastErr, closed, lastTasks, _⟩ :=
      closeBehindTask_returns call.env.collect stillFound
    rw [goesOn, closed]
    exact ⟨final, rfl, finished final lastTasks⟩

end

/-! ## All children report -/

/-- The last workunits of the children report, one after the other. -/
def completeChildren (call : Call) (notices : Nat -> Notice) :
    ServerMgr -> List Nat -> Option ServerMgr
  | qm, [] => some qm
  | qm, k :: rest =>
      (survives (qm.handleLastWorkunit call.env (call.childPtr k) (notices k))).bind fun next =>
        completeChildren call notices next rest

theorem completeChildren_append (notices : Nat -> Notice) (qm : ServerMgr) (front back : List Nat) :
    completeChildren call notices qm (front ++ back) =
      (completeChildren call notices qm front).bind fun next =>
          completeChildren call notices next back := by
  induction front generalizing qm with
  | nil => rfl
  | cons k rest inductionHypothesis =>
      rw [List.cons_append, completeChildren, completeChildren, Option.bind_assoc]
      congr 1
      funext next
      exact inductionHypothesis next

/-- The reports that the notices carry. -/
def reportOf (call : Call) (notices : Nat -> Notice) (k : Nat) : JobDocument :=
  stepOutputs call.step.out ((notices k).results.getD [])

section

variable {last qm : ServerMgr} {notices : Nat -> Notice} {done : List Nat}

/-- Reports that leave a child open. -/
theorem Gathering.run (sound : call.Sound) (family : Family call last)
    (sent : forall k, (notices k).results.isSome) (front : List Nat) :
    forall (done : List Nat) (qm : ServerMgr),
        Gathering call last (call.reportOf notices) done qm ->
      (forall k, k ∈ front -> k < call.tuples.length) -> (front ++ done).Nodup ->
      (Exists fun j => j < call.tuples.length ∧ j ∉ front ++ done) ->
      Exists fun during => completeChildren call notices qm front = some during ∧
        Gathering call last (call.reportOf notices) (front.reverse ++ done) during := by
  induction front with
  | nil =>
      intro done qm gathering _ _ _
      exact ⟨qm, rfl, gathering⟩
  | cons k rest inductionHypothesis =>
      intro done qm gathering small once opened
      rcases opened with ⟨j, smallOpen, away⟩
      rcases Option.isSome_iff_exists.mp (sent k) with ⟨results, isSent⟩
      rw [List.cons_append, List.nodup_cons] at once
      have waiting : k ∉ done := fun member => once.1 (List.mem_append_right _ member)
      have different : j ∉ k :: done := by
        intro member
        rcases List.mem_cons.mp member with rfl | earlier
        · exact away List.mem_cons_self
        · exact away (List.mem_append_right _ earlier)
      have listed := List.getElem?_eq_getElem (small k List.mem_cons_self)
      obtain ⟨next, reported, later⟩ :=
          gathering.waits sound family listed waiting smallOpen different isSent
        (by unfold reportOf; rw [isSent]; rfl)
      have order : (rest ++ k :: done).Perm (k :: (rest ++ done)) := List.perm_middle
      obtain ⟨during, ran, afterwards⟩ := inductionHypothesis (k :: done) next later
        (fun other member => small other (List.mem_cons_of_mem _ member))
        (order.nodup_iff.mpr (List.nodup_cons.mpr once))
        ⟨j, smallOpen, fun member => away (order.mem_iff.mp member)⟩
      refine ⟨during, ?_, ?_⟩
      · rw [completeChildren, reported]
        exact ran
      · rw [List.reverse_cons, List.append_assoc]
        exact afterwards

end

/-- The outputs are collected once, by the child that reports last, whatever the
order is. -/
def Gathers (call : Call) (last : ServerMgr) : Prop :=
  forall (notices : Nat -> Notice) (finish : List Nat), (forall k, (notices k).results.isSome) ->
    finish.Perm (List.range call.tuples.length) ->
    (forall earlier k rest, finish = earlier ++ k :: rest ->
      Exists fun during => completeChildren call notices last earlier = some during ∧
        during.store.task call.ptr = last.store.task call.ptr) ∧
    Exists fun final => completeChildren call notices last finish = some final ∧
      Finished call last final (call.reportOf notices)

theorem Family.gathers {last : ServerMgr} (family : Family call last) (sound : call.Sound) :
    Gathers call last := by
  intro notices finish sent order
  have once : finish.Nodup := order.nodup_iff.mpr List.nodup_range
  have small (k : Nat) (member : k ∈ finish) : k < call.tuples.length :=
    List.mem_range.mp (order.mem_iff.mp member)
  have early (earlier : List Nat) (k : Nat) (rest : List Nat)
      (split : finish = earlier ++ k :: rest) :
      Exists fun during => completeChildren call notices last earlier = some during ∧
        Gathering call last (call.reportOf notices) (earlier.reverse ++ []) during := by
    rw [split] at once small
    refine Gathering.run sound family sent earlier [] last (Gathering.start family _)
      (fun other member => small other (List.mem_append_left _ member)) ?_ ⟨k, ?_, ?_⟩
    · rw [List.append_nil]
      exact (List.nodup_append.mp once).1
    · exact small k (List.mem_append_right _ List.mem_cons_self)
    · rw [List.append_nil]
      intro member
      exact (List.nodup_append.mp once).2.2 k member k List.mem_cons_self rfl
  refine ⟨fun earlier k rest split => ?_, ?_⟩
  · rcases early earlier k rest split with ⟨during, ran, gathering⟩
    exact ⟨during, ran, gathering.parent sound⟩
  · -- There is a last child, because there is a tuple.
    have nonempty : finish ≠ [] := by
      intro empty
      have length := order.length_eq
      rw [empty, List.length_range] at length
      exact sound.tuples_ne_nil (List.length_eq_zero_iff.mp length.symm)
    rcases (List.eq_nil_or_concat' finish).resolve_left nonempty with ⟨front, k, split⟩
    rcases early front k [] split with ⟨during, ran, gathering⟩
    rcases Option.isSome_iff_exists.mp (sent k) with ⟨results, isSent⟩
    have waiting : k ∉ front.reverse ++ [] := by
      rw [List.append_nil, List.mem_reverse]
      intro member
      rw [split] at once
      exact (List.nodup_append.mp once).2.2 k member k List.mem_cons_self rfl
    have all (j : Nat) (smallJ : j < call.tuples.length) : j ∈ k :: (front.reverse ++ []) := by
      have member := order.mem_iff.mpr (List.mem_range.mpr smallJ)
      rw [split] at member
      rcases List.mem_append.mp member with earlier | last
      · exact List.mem_cons_of_mem _ (by rw [List.append_nil]; exact List.mem_reverse.mpr earlier)
      · rw [List.mem_singleton.mp last]
        exact List.mem_cons_self
    have smallK : k < call.tuples.length :=
        small k (by rw [split]; exact List.mem_append_right _ List.mem_cons_self)
    obtain ⟨final, reported, finished⟩ :=
        gathering.finishes sound family (List.getElem?_eq_getElem smallK) waiting all
      (fun j => ⟨_, rfl⟩) isSent (by unfold reportOf; rw [isSent]; rfl)
    refine ⟨final, ?_, finished⟩
    rw [split, completeChildren_append, ran, Option.bind_some, completeChildren, reported]
    rfl

/-! ## Scatter and gather -/

/-- A dot product of arrays that differ in length. -/
def UnequalLengths (call : Call) : Prop :=
  call.method = .dotproduct ∧ Exists fun length => length ∈ call.lengths ∧
      length ≠ call.lengths.headD 0

/-- The children that the expansion has to leave behind. -/
structure Expanded (call : Call) (last : ServerMgr) : Prop where
  created : last.store.nextTask = call.qm.store.nextTask + call.tuples.length
  listed : (last.store.instanceOf call.jobid call.parentID).map WorkflowInstance.tasks =
    some (call.parent.tasks ++ List.range' call.qm.store.nextTask call.tuples.length)
  children : forall (k : Nat) (tuple : List Nat), call.tuples[k]? = some tuple ->
    (last.store.task (call.childPtr k)).ident = call.childIdent tuple ∧
      (last.store.task (call.childPtr k)).state = .ready ∧
      (last.store.task (call.childPtr k)).scatterParent = some call.parentIdent ∧
      Exists fun step => (last.store.task (call.childPtr k)).workflowStep = some step ∧
        step.inputs.Perm (call.step.inputs.map (placeIndex call.step tuple)) ∧
            step.out = call.step.out
  distinct : (call.tuples.map call.childName).Nodup
  within : forall tuple, tuple ∈ call.tuples -> List.Forall₂ (· < ·) tuple call.lengths

/-- A scatter step as it should be: unequal arrays of a dot product are refused, and in every
other case there is a child for each tuple, and the outputs of the children are gathered in the
order of the tuples. For unequal arrays an error alone is not enough: no child may have been made
by then. -/
def Correct (call : Call) : Prop :=
  (call.UnequalLengths -> Exists fun last => Exists fun err =>
      call.result = .ok (last, none, some err) ∧
    last.store.nextTask = call.qm.store.nextTask ∧
        (last.store.task call.ptr).scatterChildren = []) ∧
  (¬call.UnequalLengths -> Exists fun last => call.result = .ok (last, none, none) ∧
      Expanded call last ∧
    Gathers call last)

/-- The tuples stay within the arrays, unless a dot product runs past a short one. -/
theorem tuples_within (equal : ¬call.UnequalLengths) {tuple : List Nat}
    (member : tuple ∈ call.tuples) :
    List.Forall₂ (· < ·) tuple call.lengths := by
  unfold tuples indexTuples at member
  split at member
  · next isDot =>
      rcases List.mem_map.mp member with ⟨index, small, rfl⟩
      rw [List.forall₂_iff_get]
      refine ⟨List.length_replicate, fun position _ shorter => ?_⟩
      have same : call.lengths[position] = call.lengths.headD 0 := by
        by_contra different
        exact equal ⟨isDot, _, List.getElem_mem shorter, different⟩
      simp only [List.get_eq_getElem, List.getElem_replicate]
      rw [same]
      exact List.mem_range.mp small
  · exact Odometer.mem_tuples.mp member
  · exact Odometer.mem_tuples.mp member

/-- There is one tuple only if every array has one element. -/
theorem Sound.single_iff (sound : call.Sound) (equal : ¬call.UnequalLengths) :
    call.tuples.length = 1 ↔ forall length, length ∈ call.lengths -> length = 1 := by
  have product : (Odometer.tuples call.lengths).length = 1 ↔ forall length, length ∈ call.lengths ->
      length = 1 := by
    rw [Odometer.length_tuples]
    exact Odometer.prod_eq_one_iff
  rcases List.exists_cons_of_ne_nil sound.lengths_ne_nil with ⟨length, rest, listed⟩
  unfold tuples indexTuples
  split
  · next isDot =>
      rw [List.length_map, List.length_range]
      constructor
      · intro one other member
        by_contra different
        exact equal ⟨isDot, other, member, fun same => different (same.trans one)⟩
      · intro every
        rw [listed, List.headD_cons]
        exact every length (by rw [listed]; exact List.mem_cons_self)
  · exact product
  · exact product

theorem Sound.expanded_iff (sound : call.Sound) (equal : ¬call.UnequalLengths) {last : ServerMgr}
    {tasks : List Task} (free : call.NamesFree) (prepared : Sound.Prepared call tasks)
    (added : Added (Sound.expanded call) last call.jobid call.parentID call.parent tasks) :
    Expanded call last ↔
      (call.spare < call.step.scatter.length ∨ forall length, length ∈ call.lengths ->
          length = 1) := by
  have family := sound.family free prepared added
  rw [← sound.single_iff equal]
  constructor
  · intro expanded
    by_cases enough : call.spare < call.step.scatter.length
    · exact Or.inl enough
    · right
      -- All children show the last tuple, and the inputs tell tuples apart.
      have same (k : Nat) (tuple : List Nat) (listed : call.tuples[k]? = some tuple) :
          tuple = call.tuples.getLastD [] := by
        rcases prepared.child k tuple listed with ⟨task, inputs, there, child, step, perm⟩
        rcases expanded.children k tuple listed with ⟨_, _, _, found, isStep, own, _⟩
        have made : last.store.task (call.childPtr k) = readied task := added.child k task there
        rw [made, show (readied task).workflowStep = task.workflowStep from rfl, step] at isStep
        cases isStep
        have shown : call.shown tuple = call.tuples.getLastD [] := by
          unfold shown
          rw [if_pos (Nat.not_lt.mp enough)]
        rw [shown] at perm
        have member := List.mem_of_getElem? listed
        have lastMember : call.tuples.getLastD [] ∈ call.tuples := by
          rw [List.getLastD_eq_getLast?, List.getLast?_eq_some_getLast sound.tuples_ne_nil]
          exact List.getLast_mem _
        exact placeIndex_injective sound.names sound.covered (sound.tuple_length member)
          (sound.tuple_length lastMember) (own.symm.trans perm)
      rcases List.exists_cons_of_ne_nil sound.tuples_ne_nil with ⟨first, rest, listed⟩
      cases rest with
      | nil =>
          rw [listed]
          rfl
      | cons second others =>
          have firstSame := same 0 first (by rw [listed]; rfl)
          have secondSame := same 1 second (by rw [listed]; rfl)
          have once := sound.tuples_nodup
          rw [listed, List.nodup_cons] at once
          exact absurd (by rw [firstSame, ← secondSame]; exact List.mem_cons_self) once.1
  · intro kept
    rcases family.found with ⟨wi, found, instanceTasks⟩
    refine ⟨family.nextTask, ?_, fun k tuple listed => ?_, sound.childNames_nodup, fun tuple =>
        tuples_within equal⟩
    · rw [found, Option.map_some, instanceTasks]
    · rcases family.children k tuple listed with ⟨ident, state, parent, _⟩
      refine ⟨ident, state, parent, ?_⟩
      rcases prepared.child k tuple listed with ⟨task, inputs, there, child, step, perm⟩
      have made : last.store.task (call.childPtr k) = readied task := added.child k task there
      have shown : call.shown tuple = tuple := by
        unfold shown
        rcases kept with large | single
        · rw [if_neg (Nat.not_le.mpr large)]
        · split
          · rcases List.length_eq_one_iff.mp single with ⟨only, alone⟩
            have member := List.mem_of_getElem? listed
            rw [alone] at member ⊢
            rw [List.mem_singleton.mp member]
            rfl
          · rfl
      rw [shown] at perm
      refine ⟨childStep call.step call.parentID (call.childName tuple) inputs, ?_, perm, rfl⟩
      rw [made]
      exact step

/-- A scatter step is expanded and gathered correctly exactly if the arrays of a dot product have
one length, the children do not share the capacity of the other inputs, and their names are free.

The counter of a dot product runs along the first array alone, all children append to one slice of
step inputs, and the names of the children are not asked for beforehand: each part of the
condition answers to one of these. -/
theorem scatter_correct_iff (sound : call.Sound) :
    call.Correct ↔ ¬call.UnequalLengths ∧
      (call.spare < call.step.scatter.length ∨ forall length, length ∈ call.lengths -> length = 1) ∧
      call.NamesFree := by
  rcases sound.outcome with ⟨tasks, last, err, prepared, result, isFree, adds, parent⟩
  constructor
  · rintro ⟨refuses, expands⟩
    have equal : ¬call.UnequalLengths := by
      intro unequal
      rcases refuses unequal with ⟨other, text, otherResult, _, none⟩
      rw [result] at otherResult
      cases otherResult
      rw [parent] at none
      unfold Sound.expanded at none
      dsimp only at none
      rw [Store.modifyTask_self] at none
      exact sound.tuples_ne_nil (List.map_eq_nil_iff.mp none)
    rcases expands equal with ⟨other, otherResult, expanded, _⟩
    rw [result] at otherResult
    cases otherResult
    have free := isFree.mp rfl
    exact ⟨equal, (sound.expanded_iff equal free prepared (adds free)).mp expanded, free⟩
  · rintro ⟨equal, kept, free⟩
    refine ⟨fun unequal => absurd unequal equal, fun _ => ⟨last, ?_, ?_, ?_⟩⟩
    · rw [result, isFree.mpr free]
    · exact (sound.expanded_iff equal free prepared (adds free)).mpr kept
    · exact (sound.family free prepared (adds free)).gathers sound

private def pairStep (dot : Bool) : WorkflowStep where
  id := "#main/s"
  inputs := [⟨"#main/s/x", some (.string "xs"), 0, false⟩,
      ⟨"#main/s/y", some (.string "ys"), 0, false⟩]
  out := ["out"]
  run := .commandLineTool
  scatter := ["x", "y"]
  scatterMethod := if dot then "" else "flat_crossproduct"

private def pairTask (dot : Bool) : Task :=
  { Task.blank with
    ident := ⟨"#main/s", "j"⟩
    state := .ready
    workflowStep := some (pairStep dot)
    workflowInstanceID := "#main"
    workflowInstanceUUID := "u" }

private def pairInstance : WorkflowInstance :=
  { WorkflowInstance.blank with
      uuid := "u", localID := "#main", jobID := "j", inputs := some [], tasks := [0] }

private def pairJob : Job :=
  ⟨"j", .inProgress, true, "#main", ⟨1, 0, "", false⟩, [], 0, ∅,
      AList.insert "#main" pairInstance ∅⟩

/-- A job with a scatter task over two elements and one. -/
private def pairCall (dot : Bool) : Call where
  env :=
    { collect := fun _ _ wi => .ok ([], wi.looked)
      validateOutputs := fun _ => none
      prepareCWL := fun _ _ => none
      maxWorkFailure := 3
      maxClientFailure := 5 }
  lookup source := .ok
      (some (.array (if source = "xs" then [.string "a", .string "b"] else [.string "c"])))
  spare := 0
  order _ := ["x", "y"]
  uuids _ := "v"
  qm :=
    { ServerMgr.newServerMgr
        { task := fun ptr => if ptr = 0 then pairTask dot else Task.blank
          nextTask := 1
          jobs := AList.insert "j" pairJob ∅ } with
      taskMap := AList.insert ⟨"#main/s", "j"⟩ 0 ∅ }
  jobid := "j"
  parentID := "#main"
  basename := "s"
  ptr := 0
  job := pairJob
  parent := pairInstance
  step := pairStep dot
  arrays := [[.string "a", .string "b"], [.string "c"]]
  method := if dot then .dotproduct else .flatCrossproduct

private theorem readMethod_flatCrossproduct :
    readMethod "flat_crossproduct" = some .flatCrossproduct := by
  have lower : "flat_crossproduct".toLower = "flat_crossproduct" := by
    apply String.toList_injective
    change ("flat_crossproduct".map Char.toLower).toList = _
    rw [String.toList_map]
    decide
  unfold readMethod
  rw [lower]
  decide

private theorem pairCall_sound (dot : Bool) : (pairCall dot).Sound where
  loaded := rfl
  found := rfl
  started := rfl
  stepFound := rfl
  scatters := fun h => nomatch h
  read := rfl
  filled := by
    intro items member
    rcases List.mem_cons.mp member with rfl | later
    · exact fun h => nomatch h
    · rw [List.mem_singleton.mp later]
      exact fun h => nomatch h
  method := by
    cases dot with
    | true => rfl
    | false => exact readMethod_flatCrossproduct
  flat := by cases dot <;> decide
  names := ⟨by cases dot <;> decide, by cases dot <;> decide⟩
  listing _ := by
    have same : ["x", "y"].Perm (templateScatterStepIns (pairStep dot)).keys := by
      cases dot <;> decide
    exact same
  jobID := rfl
  jobNamed := by cases dot <;> decide
  cwl := rfl
  entrypoint := by cases dot <;> decide
  below := by cases dot <;> decide
  uuid := by cases dot <;> decide
  named := by cases dot <;> decide
  whole := by cases dot <;> decide
  relative := by cases dot <;> decide
  ident := rfl
  owner := rfl
  ownerUUID := by cases dot <;> decide
  opened := by cases dot <;> decide
  outermost := rfl
  unexpanded := rfl
  collecting := rfl
  small := by cases dot <;> decide
  placed := by
    intro ptr member
    rw [List.mem_singleton.mp member]
    exact ⟨by cases dot <;> decide, "s", by decide, by decide, rfl⟩
  mapped := rfl
  allocated := by
    intro id ptr found
    rcases GoMap.lookup_insert_eq_some.mp found with ⟨_, rfl⟩ | ⟨_, missing⟩
    · exact Nat.one_pos
    · exact nomatch missing
  valid := fun _ _ => rfl

theorem scatter_correct_crossproduct : (pairCall false).Sound ∧ (pairCall false).Correct := by
  refine ⟨pairCall_sound false, (scatter_correct_iff (pairCall_sound false)).mpr
      ⟨?_, Or.inl (by decide), ?_⟩⟩
  · rintro ⟨isDot, _⟩
    exact nomatch isDot
  · have free : forall tuple, tuple ∈ (pairCall false).tuples ->
        (pairCall false).childIdent tuple ≠ ⟨"#main/s", "j"⟩ := by
      decide
    intro tuple member
    refine ⟨fun ptr listed => ?_, ?_⟩
    · rw [List.mem_singleton.mp listed]
      intro same
      exact free tuple member (congrArg (TaskUniqueIdentifier.mk · "j") same.symm)
    · exact AList.lookup_insert_ne (free tuple member)

/-- A dot product of two elements with one is not refused: a child is made that
reads past the end of the second array. -/
theorem scatter_incorrect_unequal : (pairCall true).Sound ∧ ¬(pairCall true).Correct := by
  refine ⟨pairCall_sound true, fun correct => ?_⟩
  obtain ⟨last, err, result, _, _⟩ := correct.1 ⟨rfl, 1, by decide, by decide⟩
  have created : ((pairCall true).result.toOption.map fun outcome => outcome.2.2.isNone) =
      some true := by
    decide
  rw [result] at created
  exact nomatch created

end Call

end Scatter

end Core
end Awe
