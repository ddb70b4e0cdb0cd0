import Awe.Core.Identifiers
import Awe.Core.ScatterGather
import Awe.Cwl.Faults
import Awe.Cwl.NoticeWire

namespace Awe
namespace Core

open Lib Lib.Path

/-!
# Reports of workers

A worker reports the end of a workunit with a PUT request.  `Update` reads the
identifier of the workunit from the URL and the rest from the query or, for a
CWL workunit, from a JSON object in the form field `cwl`, and puts a notice
into the channel that `NoticeHandle` reads.  Whatever a worker sends ends up
here, so the module follows every kind of report through to the end of
`handleNoticeWorkDelivered`.

The identifier is cut at fixed bytes, and the results are decoded without a
context, so both may end in a panic.  Performance data and log files are left
out.
-/

/-- What the server makes of texts and values that come from outside.  A string of the
source is a sequence of bytes, which need not be the encoding of a text, and a value
that outputs are not assembled from is kept as its JSON text. -/
structure Decoders where
  library : Cwl.Natives.Library
  text : Bytes -> String
  json : Cwl.Value -> String

/-- The class of a value. -/
def className : Cwl.Value -> String
  | .null => "null"
  | .boolean _ => "boolean"
  | .int _ => "int"
  | .long _ => "long"
  | .float _ => "float"
  | .double _ => "double"
  | .string _ => "string"
  | .file _ _ => "File"
  | .directory _ _ => "Directory"
  | .array _ => "array"
  | .record _ => "record"

mutual

/-- A value as the server stores it. -/
def storedValue (json : Cwl.Value -> String) : Cwl.Value -> CWLValue
  | .null => .null
  | .string text => .string text
  | .array items => .array (storedValues json items)
  | value => .other (className value) (json value)

def storedValues (json : Cwl.Value -> String) : List Cwl.Value -> List CWLValue
  | [] => []
  | value :: rest => storedValue json value :: storedValues json rest

end

/-- The decoded notice. -/
def received (decoders : Decoders) (notice : Cwl.NoticeWire.Notice) : Notice where
  id := ⟨notice.task, notice.rank.toInt⟩
  workerID := notice.workerID
  results := notice.results.map fun document =>
    document.map fun entry => (entry.1, storedValue decoders.json entry.2)
  status := notice.status
  computeTime := notice.computeTime.toInt

/-- `NewNotice`, called without a context. -/
def newNotice (decoders : Decoders) (native : List (String × Cwl.Tree)) :
    Except Cwl.Failure Notice :=
  (Cwl.NoticeWire.newNotice decoders.library .nil native).map (received decoders)

/-- The identifier in the URL. -/
def workunitFromString (decoders : Decoders) (oldStyleID : Bytes) :
    Except Halt (Except Identifiers.Refusal WorkunitUniqueIdentifier) :=
  (Identifiers.newWorkunitUniqueIdentifierFromString oldStyleID).map fun answer =>
    answer.map fun id => ⟨⟨decoders.text id.taskName, decoders.text id.jobId⟩, id.rank.toInt⟩

/-- The text of the error. -/
def refusalText (decoders : Decoders) : Identifiers.Refusal -> String
  | .atoi number outOfRange =>
      "strconv.Atoi: parsing \"" ++ decoders.text number ++
        (if outOfRange then "\": value out of range" else "\": invalid syntax")
  | .text message => decoders.text message

/-- The form field `cwl`: a text that is no JSON object, or the object. -/
inductive CwlField where
  | unreadable
  | object (native : List (String × Cwl.Tree))

/-- A PUT request to `/work/{id}`.  `refused` is what the checks of the client
group and of the multipart form answer. -/
structure Report where
  id : Bytes
  client : Option String
  refused : Err
  status : Option String
  serverUUID : Option String
  computeTime : Option Int
  cwl : Option CwlField

/-- The answer to a request: refused, or accepted with a notice. -/
abbrev Answer := Except String Notice

/-- The notice of an old-style report, from the query. -/
def oldStyleNotice (workID : WorkunitUniqueIdentifier) (client : String) (report : Report) :
    Option Notice :=
  report.status.map fun status =>
    { id := workID
      workerID := client
      results := none
      status
      computeTime := report.computeTime.getD 0 }

/-- The notice of a report that has passed the checks.  The message about an empty
status is built from the error of `NewNotice`, which is nil there. -/
def noticeIn (decoders : Decoders) (workID : WorkunitUniqueIdentifier) (client : String)
    (report : Report) :
    Except Halt Answer :=
  match report.cwl with
  | some .unreadable => .ok (.error "Could not parse cwl form parameter: ")
  | some (.object native) =>
      match newNotice decoders native with
      | .error (.panic _) => .error .panic
      | .error (.error err) => .ok (.error ("NewNotice returned: " ++ err))
      | .ok notice => if notice.status = "" then .error .panic else .ok (.ok notice)
  | none =>
      match oldStyleNotice workID client report with
      | none => .ok (.error "Could not create a notice")
      | some notice => .ok (.ok notice)

/-- `WorkController.Update`, up to the notice. -/
def ServerMgr.update (decoders : Decoders) (serverUUID : String) (qm : ServerMgr)
    (report : Report) :
    Except Halt Answer :=
  match workunitFromString decoders report.id with
  | .error halt => .error halt
  | .ok (.error refusal) =>
      .ok (.error ("error parsing workunit identifier: " ++ decoders.text report.id ++ " (" ++
        refusalText decoders refusal ++ ")"))
  | .ok (.ok workID) =>
      match report.client with
      | none => .ok (.error "This request type requires the client=clientid parameter.")
      | some client =>
          match report.refused with
          | some err => .ok (.error err)
          | none =>
              if (qm.cq.clientMap.lookup client).isNone then .ok (.error "Client not found")
              else if report.status.isSome ∧ report.serverUUID.getD "" ≠ "" ∧
                  report.serverUUID.getD "" ≠ serverUUID then .ok (.error "wrong Server UUID")
              else noticeIn decoders workID client report

/-- `Update` followed by the turn of `NoticeHandle` for its notice. -/
def ServerMgr.receive (env : Environment) (decoders : Decoders) (serverUUID : String)
    (qm : ServerMgr) (report : Report) : Except Halt (ServerMgr × Err) :=
  match qm.update decoders serverUUID report with
  | .error halt => .error halt
  | .ok (.error err) => .ok (qm, some err)
  | .ok (.ok notice) => qm.handleNoticeWorkDelivered env notice

namespace Reports

/-! ## What the server relies on -/

/-- The registered tasks as the server makes them: they carry their information,
an old-style task belongs to no scatter, and the children of a scatter task
have its outputs. -/
structure Sane (store : Store) (taskMap : GoMap TaskUniqueIdentifier Nat) : Prop where
  named : forall id ptr, taskMap.lookup id = some ptr -> (store.task ptr).ident = id ∧
      ptr < store.nextTask
  info : forall id ptr, taskMap.lookup id = some ptr -> (store.task ptr).info.isSome
  plain : forall id ptr, taskMap.lookup id = some ptr -> (store.task ptr).workflowStep = none ->
    (store.task ptr).scatterParent = none
  parents : forall id ptr parentID parent, taskMap.lookup id = some ptr ->
    (store.task ptr).scatterParent = some parentID -> taskMap.lookup parentID = some parent ->
    (store.task parent).scatterParent = none ∧ parentID.jobId = id.jobId ∧
    (store.task parent).workflowStep.isSome
  children : forall parentID parent step localID wi children child, taskMap.lookup parentID =
      some parent ->
    (store.task parent).workflowStep = some step ->
        store.instanceOf parentID.jobId localID = some wi ->
    store.getScatterChildren wi (store.task parent) = .ok children -> child ∈ children ->
    (forall own, (store.task child).workflowStep = some own -> own.out = step.out) ∧
    forall document, (store.task child).stepOutput = some document ->
      forall outputID, outputID ∈ step.out -> (Store.documentGet document (base outputID)).isSome

/-- The children are found through the tasks of the instance and their names. -/
theorem getScatterChildren_congr {store after : Store} {wi later : WorkflowInstance}
    {task other : Task} (idents : forall ptr, (after.task ptr).ident = (store.task ptr).ident)
    (tasks : later.tasks = wi.tasks) (children : other.scatterChildren = task.scatterChildren) :
    after.getScatterChildren later other = store.getScatterChildren wi task := by
  unfold Store.getScatterChildren Store.getTaskByName
  rw [children, tasks]
  simp only [idents]

/-- Writes that the facts survive: other fields of tasks, a new step output with
all outputs of the step, and counters of instances. -/
structure Keeps (store after : Store) : Prop where
  nextTask : after.nextTask = store.nextTask
  instances : forall jobid localID wi, after.instanceOf jobid localID = some wi ->
    Exists fun old => store.instanceOf jobid localID = some old ∧ wi.tasks = old.tasks
  ident : forall ptr, (after.task ptr).ident = (store.task ptr).ident
  info : forall ptr, (after.task ptr).info = (store.task ptr).info
  workflowStep : forall ptr, (after.task ptr).workflowStep = (store.task ptr).workflowStep
  scatterParent : forall ptr, (after.task ptr).scatterParent = (store.task ptr).scatterParent
  scatterChildren : forall ptr, (after.task ptr).scatterChildren = (store.task ptr).scatterChildren
  stepOutput : forall ptr, (after.task ptr).stepOutput = (store.task ptr).stepOutput ∨
    Exists fun own => Exists fun results => (store.task ptr).workflowStep = some own ∧
      (after.task ptr).stepOutput = some (stepOutputs own.out results)

theorem Sane.keep {store after : Store} {taskMap : GoMap TaskUniqueIdentifier Nat}
    (sane : Sane store taskMap) (keeps : Keeps store after) : Sane after taskMap where
  named id ptr found := by
    rw [keeps.ident, keeps.nextTask]
    exact sane.named id ptr found
  info id ptr found := by
    rw [keeps.info]
    exact sane.info id ptr found
  plain id ptr found := by
    rw [keeps.workflowStep, keeps.scatterParent]
    exact sane.plain id ptr found
  parents id ptr parentID parent := by
    rw [keeps.scatterParent, keeps.scatterParent, keeps.workflowStep]
    exact sane.parents id ptr parentID parent
  children parentID parent step localID wi children child found isStep inside listed member := by
    rcases keeps.instances _ _ _ inside with ⟨old, present, tasks⟩
    rw [keeps.workflowStep] at isStep
    rw [getScatterChildren_congr keeps.ident tasks (keeps.scatterChildren parent)] at listed
    obtain ⟨outs, outputs⟩ :=
        sane.children parentID parent step localID old children child found isStep present listed
      member
    refine ⟨fun own => by rw [keeps.workflowStep]; exact outs own,
        fun document written outputID declared => ?_⟩
    rcases keeps.stepOutput child with same | ⟨own, results, ownStep, rewritten⟩
    · rw [same] at written
      exact outputs document written outputID declared
    · rw [rewritten] at written
      cases written
      rcases Scatter.documentGet_stepOutputs (outs own ownStep ▸ declared) results with ⟨value, got⟩
      rw [got]
      rfl

theorem Keeps.trans {store middle after : Store} (first : Keeps store middle)
    (second : Keeps middle after) :
    Keeps store after where
  nextTask := second.nextTask.trans first.nextTask
  instances jobid localID wi found := by
    rcases second.instances _ _ _ found with ⟨between, present, tasks⟩
    rcases first.instances _ _ _ present with ⟨old, there, same⟩
    exact ⟨old, there, tasks.trans same⟩
  ident ptr := (second.ident ptr).trans (first.ident ptr)
  info ptr := (second.info ptr).trans (first.info ptr)
  workflowStep ptr := (second.workflowStep ptr).trans (first.workflowStep ptr)
  scatterParent ptr := (second.scatterParent ptr).trans (first.scatterParent ptr)
  scatterChildren ptr := (second.scatterChildren ptr).trans (first.scatterChildren ptr)
  stepOutput ptr := by
    rcases second.stepOutput ptr with same | ⟨own, results, ownStep, rewritten⟩
    · rw [same]
      exact first.stepOutput ptr
    · rw [first.workflowStep] at ownStep
      exact Or.inr ⟨own, results, ownStep, rewritten⟩

/-- A write to one task that keeps the fields the others read. -/
theorem Keeps.modifyTask {store : Store} {ptr : Nat} {change : Task -> Task}
    (ident : (change (store.task ptr)).ident = (store.task ptr).ident)
    (info : (change (store.task ptr)).info = (store.task ptr).info)
    (workflowStep : (change (store.task ptr)).workflowStep = (store.task ptr).workflowStep)
    (scatterParent : (change (store.task ptr)).scatterParent = (store.task ptr).scatterParent)
    (scatterChildren : (change (store.task ptr)).scatterChildren = (store.task ptr).scatterChildren)
    (stepOutput : (change (store.task ptr)).stepOutput = (store.task ptr).stepOutput ∨
      Exists fun own => Exists fun results => (store.task ptr).workflowStep = some own ∧
        (change (store.task ptr)).stepOutput = some (stepOutputs own.out results)) :
    Keeps store (store.modifyTask ptr change) := by
  have pointwise (P : Task -> Task -> Prop) (same : forall task, P task task)
      (here : P (change (store.task ptr)) (store.task ptr)) (other : Nat) :
      P ((store.modifyTask ptr change).task other) (store.task other) := by
    by_cases equal : other = ptr
    · rw [equal, Store.modifyTask_self]
      exact here
    · rw [Store.modifyTask_of_ne _ equal]
      exact same _
  exact ⟨rfl, fun _ _ wi found => ⟨wi, found, rfl⟩,
    pointwise (fun after before => after.ident = before.ident) (fun _ => rfl) ident,
    pointwise (fun after before => after.info = before.info) (fun _ => rfl) info,
    pointwise (fun after before => after.workflowStep = before.workflowStep)
        (fun _ => rfl) workflowStep,
    pointwise (fun after before => after.scatterParent = before.scatterParent)
        (fun _ => rfl) scatterParent,
    pointwise (fun after before => after.scatterChildren = before.scatterChildren)
        (fun _ => rfl) scatterChildren,
    pointwise (fun after before => after.stepOutput = before.stepOutput ∨
      Exists fun own => Exists fun results => before.workflowStep = some own ∧
        after.stepOutput = some (stepOutputs own.out results)) (fun _ => Or.inl rfl) stepOutput⟩

/-- A write to an instance that keeps its tasks. -/
theorem Keeps.modifyInstance (store : Store) (jobid localID : String)
    {change : WorkflowInstance -> WorkflowInstance}
    (tasks : forall wi, (change wi).tasks = wi.tasks) :
    Keeps store (store.modifyInstance jobid localID change) := by
  have task : (store.modifyInstance jobid localID change).task = store.task :=
      Store.modifyInstance_task ..
  refine ⟨Store.modifyInstance_nextTask .., fun otherJob other wi found => ?_, ?_, ?_,
      ?_, ?_, ?_, ?_⟩
  · rw [Store.instanceOf_modifyInstance] at found
    split at found
    · next same =>
        rcases Option.map_eq_some_iff.mp found with ⟨old, present, rfl⟩
        rw [same.1, same.2]
        exact ⟨old, present, tasks old⟩
    · exact ⟨wi, found, rfl⟩
  all_goals intro ptr
  all_goals rw [task]
  exact Or.inl rfl

theorem Keeps.refl (store : Store) : Keeps store store :=
  ⟨rfl, fun _ _ wi found => ⟨wi, found, rfl⟩, fun _ => rfl, fun _ => rfl, fun _ => rfl, fun _ =>
      rfl, fun _ => rfl,
    fun _ => Or.inl rfl⟩

/-- `SetState` is such a write, and no instance disappears. -/
theorem taskSetState_keeps (store : Store) (ptr : Nat) (newState : ProcessState) :
    Keeps store (store.taskSetState ptr newState).1 ∧ forall jobid localID,
      (store.instanceOf jobid localID).isSome ->
        ((store.taskSetState ptr newState).1.instanceOf jobid localID).isSome := by
  have written (state : ProcessState) : Keeps store (store.withState ptr state) :=
    @Keeps.modifyTask store ptr (fun task => { task with state }) rfl rfl rfl rfl rfl (Or.inl rfl)
  rcases store.taskSetState_cases ptr newState with ⟨same, _⟩ | ⟨_, _, wrote⟩
      | ⟨_, _, _, wrote, _⟩ |
    ⟨_, _, _, counted⟩
  · rw [same]
    exact ⟨Keeps.refl store, fun _ _ present => present⟩
  · rw [wrote]
    exact ⟨written newState, fun _ _ present => present⟩
  · rw [wrote]
    exact ⟨written .completed, fun _ _ present => present⟩
  · rw [counted]
    refine ⟨(written .completed).trans (Keeps.modifyInstance _ _ _ fun _ => rfl),
        fun jobid localID present => ?_⟩
    unfold Store.incrementRemainSteps
    rw [Store.instanceOf_modifyInstance]
    split
    · next same =>
        rw [Option.isSome_map, ← same.1, ← same.2]
        exact present
    · exact present

/-! ## Completion returns -/

section

variable {collect : Collect} {qm : ServerMgr} {ptr depth : Nat} {localID : Option String}

/-- A call that returns leaves the instance in place. -/
def Returns (result : Except Halt (ServerMgr × Err)) (jobid : String) (localID : Option String) :
    Prop :=
  Exists fun final => Exists fun err => result = .ok (final, err) ∧
    forall name, localID = some name -> (final.store.instanceOf jobid name).isSome

theorem closeBehindTask_returns {jobid : String} (loaded : (qm.store.jobs.lookup jobid).isSome)
    (inside : forall name, localID = some name -> (qm.store.instanceOf jobid name).isSome) :
    Returns (ServerMgr.closeBehindTask collect qm jobid localID) jobid localID := by
  cases localID with
  | some name =>
      rcases Option.isSome_iff_exists.mp (inside name rfl) with ⟨wi, found⟩
      obtain ⟨last, err, returned, _, later, stays⟩ := Scatter.closeBehindTask_returns collect found
      refine ⟨last, err, returned, fun other same => ?_⟩
      cases same
      rw [stays]
      rfl
  | none =>
      unfold ServerMgr.closeBehindTask
      dsimp only
      rcases Option.isSome_iff_exists.mp loaded with ⟨job, present⟩
      rw [Store.modifyJob_lookup, if_pos rfl, present]
      dsimp only [Option.map_some]
      split
      · exact ⟨_, _, rfl, fun _ absent => nomatch absent⟩
      · split
        · exact ⟨_, _, rfl, fun _ absent => nomatch absent⟩
        · exact ⟨_, _, rfl, fun _ absent => nomatch absent⟩

private theorem loaded_of_inside {store : Store} {jobid name : String}
    (inside : (store.instanceOf jobid name).isSome) : (store.jobs.lookup jobid).isSome := by
  unfold Store.instanceOf at inside
  cases found : store.jobs.lookup jobid with
  | none =>
      rw [found] at inside
      cases inside
  | some job => rfl

/-- `SetState` loads and drops no job, so completion goes on in the same one. -/
private theorem jobLoaded {job : Job} {jobid : String} (loaded : qm.store.getJob jobid = .ok job)
    (newState : ProcessState) :
    ((qm.store.taskSetState ptr newState).1.jobs.lookup jobid).isSome := by
  rw [Store.taskSetState_isSome]
  unfold Store.getJob at loaded
  cases found : qm.store.jobs.lookup jobid with
  | none =>
      rw [found] at loaded
      cases loaded
  | some other => rfl

/-- A task that is no scatter child. -/
theorem taskCompleted_outermost (outermost : (qm.store.task ptr).scatterParent = none)
    (inside : forall name, localID = some name ->
      (qm.store.instanceOf (qm.store.task ptr).ident.jobId name).isSome) :
    Returns (qm.taskCompleted collect (depth + 1) localID ptr)
        (qm.store.task ptr).ident.jobId localID := by
  rw [ServerMgr.taskCompleted]
  dsimp only
  split
  · exact ⟨_, _, rfl, inside⟩
  · cases loaded : qm.store.getJob (qm.store.task ptr).ident.jobId with
    | error err => exact ⟨_, _, rfl, inside⟩
    | ok job =>
        dsimp only
        split
        · exact ⟨_, _, rfl, inside⟩
        · have keeps := (taskSetState_keeps qm.store ptr .completed).2
          have stays := @jobLoaded qm ptr job _ loaded .completed
          cases written : qm.store.taskSetState ptr .completed with
          | mk store err =>
              rw [written] at keeps stays
              cases err with
              | some text => exact ⟨_, _, rfl, fun name same => keeps _ _ (inside name same)⟩
              | none =>
                  dsimp only
                  rw [outermost]
                  exact closeBehindTask_returns stays fun name same => keeps _ _ (inside name same)

/-- Collecting the outputs of the children does not panic. -/
theorem gatherOutput_returns {store : Store} {outputIDBase : String} (children : List Nat)
    (valued : forall child, child ∈ children -> forall document, (store.task child).stepOutput =
    some document ->
      (Store.documentGet document outputIDBase).isSome) :
    Exists fun answer => ServerMgr.gatherOutput store children outputIDBase = .ok answer := by
  induction children with
  | nil => exact ⟨_, rfl⟩
  | cons child rest inductionHypothesis =>
      obtain ⟨answer, gathered⟩ :=
          inductionHypothesis fun other member => valued other (List.mem_cons_of_mem _ member)
      unfold ServerMgr.gatherOutput
      cases output : (store.task child).stepOutput with
      | none => exact ⟨_, rfl⟩
      | some document =>
          dsimp only
          obtain ⟨value, got⟩ :=
              Option.isSome_iff_exists.mp (valued child List.mem_cons_self document output)
          rw [got]
          dsimp only
          rw [gathered]
          cases answer with
          | error err => exact ⟨_, rfl⟩
          | ok others => exact ⟨_, rfl⟩

theorem gatherOutputs_returns {store : Store} {children : List Nat} (out : List String)
    (valued : forall outputID, outputID ∈ out -> forall child, child ∈ children -> forall document,
      (store.task child).stepOutput = some document ->
      (Store.documentGet document (base outputID)).isSome) :
    forall document, Exists fun answer => ServerMgr.gatherOutputs store children out document =
        .ok answer := by
  induction out with
  | nil => exact fun document => ⟨_, rfl⟩
  | cons outputID rest inductionHypothesis =>
      intro document
      obtain ⟨answer, gathered⟩ :=
          gatherOutput_returns children (valued outputID List.mem_cons_self)
      unfold ServerMgr.gatherOutputs
      rw [gathered]
      cases answer with
      | error err => exact ⟨_, rfl⟩
      | ok items =>
          exact inductionHypothesis
              (fun other member => valued other (List.mem_cons_of_mem _ member)) _

variable {id : TaskUniqueIdentifier}

/-- `taskCompletedScatter` returns, and the scatter task it may go on with is
itself no child of another one. -/
theorem taskCompletedScatter_returns (sane : Sane qm.store qm.taskMap)
    (mapped : qm.taskMap.lookup id = some ptr) (child : (qm.store.task ptr).scatterParent.isSome)
    {name : String} {wi : WorkflowInstance} (inside : qm.store.instanceOf id.jobId name = some wi) :
    Exists fun after => Exists fun outcome => qm.taskCompletedScatter wi ptr = .ok
        (after, outcome) ∧
      after.store.jobs = qm.store.jobs ∧
      forall parent, outcome = .completeParent parent ->
        (after.store.task parent).scatterParent = none ∧ (after.store.task parent).ident.jobId =
            id.jobId := by
  rcases Option.isSome_iff_exists.mp child with ⟨parentID, isChild⟩
  unfold ServerMgr.taskCompletedScatter
  rw [isChild]
  dsimp only
  cases found : qm.taskMap.lookup parentID with
  | none => exact ⟨_, _, rfl, rfl, fun _ other => nomatch other⟩
  | some parent =>
      dsimp only
      obtain ⟨outermost, sameJob, hasStep⟩ :=
          sane.parents id ptr parentID parent mapped isChild found
      rcases Option.isSome_iff_exists.mp hasStep with ⟨step, isStep⟩
      cases listed : qm.store.getScatterChildren wi (qm.store.task parent) with
      | error err => exact ⟨_, _, rfl, rfl, fun _ other => nomatch other⟩
      | ok children =>
          dsimp only
          split
          · exact ⟨_, _, rfl, rfl, fun _ other => nomatch other⟩
          · split
            · exact ⟨_, _, rfl, rfl, fun _ other => nomatch other⟩
            · rw [isStep]
              dsimp only
              obtain ⟨answer, gathered⟩ :=
                  gatherOutputs_returns step.out (fun outputID declared other member document =>
                fun written => (sane.children parentID parent step name wi children
                    other found isStep
                  (sameJob ▸ inside) listed member).2 document written outputID declared) []
              rw [gathered]
              rcases answer with ⟨document, err⟩
              cases err with
              | some text => exact ⟨_, _, rfl, rfl, fun _ other => nomatch other⟩
              | none =>
                  refine ⟨_, _, rfl, rfl, fun other same => ?_⟩
                  cases same
                  dsimp only
                  rw [Store.modifyTask_self]
                  exact ⟨outermost, by rw [(sane.named parentID parent found).1]; exact sameJob⟩

/-- A registered task, whether it is a scatter child or not. -/
theorem taskCompleted_returns (sane : Sane qm.store qm.taskMap)
    (mapped : qm.taskMap.lookup id = some ptr)
    (inside : forall name, localID = some name -> (qm.store.instanceOf id.jobId name).isSome)
    (alone : localID = none -> (qm.store.task ptr).scatterParent = none) :
    Exists fun final => Exists fun err =>
      qm.taskCompleted collect (depth + 2) localID ptr = .ok (final, err) := by
  have sameJob : (qm.store.task ptr).ident.jobId = id.jobId := by rw [(sane.named id ptr mapped).1]
  by_cases outermost : (qm.store.task ptr).scatterParent = none
  · obtain ⟨final, err, returned, _⟩ :=
      @taskCompleted_outermost collect qm ptr (depth + 1) localID outermost
      (by rw [sameJob]; exact inside)
    exact ⟨final, err, returned⟩
  · have isChild : ¬(qm.store.task ptr).scatterParent.isNone = true := by
      rw [Option.isNone_iff_eq_none]
      exact outermost
    cases localID with
    | none => exact absurd (alone rfl) outermost
    | some name =>
        rw [ServerMgr.taskCompleted]
        dsimp only
        split
        · exact ⟨_, _, rfl⟩
        · cases loaded : qm.store.getJob (qm.store.task ptr).ident.jobId with
          | error err => exact ⟨_, _, rfl⟩
          | ok job =>
              dsimp only
              split
              · exact ⟨_, _, rfl⟩
              · rcases taskSetState_keeps qm.store ptr .completed with ⟨keeps, present⟩
                cases written : qm.store.taskSetState ptr .completed with
                | mk store err =>
                    rw [written] at keeps present
                    cases err with
                    | some text => exact ⟨_, _, rfl⟩
                    | none =>
                        dsimp only at keeps present ⊢
                        obtain ⟨wi, found⟩ :=
                            Option.isSome_iff_exists.mp (present _ _ (inside name rfl))
                        have child : (store.task ptr).scatterParent.isSome := by
                          rw [keeps.scatterParent]
                          exact Option.ne_none_iff_isSome.mp outermost
                        obtain ⟨after, outcome, scattered, jobs, parents⟩ :=
                          @taskCompletedScatter_returns { qm with store } ptr id (sane.keep keeps)
                              mapped child name wi
                            found
                        have insideAfter (other : String) (same : some name = some other) :
                            (after.store.instanceOf id.jobId other).isSome := by
                          cases same
                          unfold Store.instanceOf at found ⊢
                          rw [jobs, found]
                          rfl
                        rw [Option.bind_some, sameJob, found]
                        dsimp only
                        rw [scattered]
                        cases outcome with
                        | finished err =>
                            cases err with
                            | some text => exact ⟨_, _, rfl⟩
                            | none =>
                                obtain ⟨final, err, returned, _⟩ :=
                                    @closeBehindTask_returns collect after (some name)
                                  id.jobId (loaded_of_inside (insideAfter name rfl)) insideAfter
                                exact ⟨final, err, returned⟩
                        | completeParent parent =>
                            rcases parents parent rfl with ⟨top, parentJob⟩
                            obtain ⟨between, err, completed, insideBetween⟩ :=
                              @taskCompleted_outermost collect after parent depth (some name) top
                                (by rw [parentJob]; exact insideAfter)
                            rw [parentJob] at insideBetween
                            dsimp only
                            rw [completed]
                            cases err with
                            | some text => exact ⟨_, _, rfl⟩
                            | none =>
                                obtain ⟨final, err, returned, _⟩ :=
                                    @closeBehindTask_returns collect between (some name)
                                  id.jobId (loaded_of_inside (insideBetween name rfl)) insideBetween
                                exact ⟨final, err, returned⟩

end

section

variable {env : Environment} {qm : ServerMgr} {ptr : Nat} {id : TaskUniqueIdentifier}
    {notice : Notice}

/-- A result whose error is given another text is still a result. -/
private theorem renamed_returns {result : Except Halt (ServerMgr × Err)} (about : String -> String)
    (returned : Exists fun final => Exists fun err => result = .ok (final, err)) :
    Exists fun final => Exists fun err => (match result with
      | .ok (qm, some err) => Except.ok (qm, some (about err))
      | result => result) = .ok (final, err) := by
  rcases returned with ⟨final, err, rfl⟩
  cases err with
  | none => exact ⟨_, _, rfl⟩
  | some text => exact ⟨_, _, rfl⟩

/-- The end of a CWL step cannot do without results, and nothing else goes wrong. -/
theorem handleLastWorkunit_returns (sane : Sane qm.store qm.taskMap)
    (mapped : qm.taskMap.lookup id = some ptr)
    (given : env.validateOutputs (qm.store.task ptr) = none ->
    (qm.store.task ptr).workflowStep.isSome ->
      notice.results.isSome) :
    Exists fun final => Exists fun err => qm.handleLastWorkunit env ptr notice = .ok
        (final, err) := by
  have depth : Exists fun depth => qm.store.nextTask = depth + 1 := by
    have small := (sane.named id ptr mapped).2
    exact ⟨qm.store.nextTask - 1, by omega⟩
  rcases depth with ⟨depth, enough⟩
  unfold ServerMgr.handleLastWorkunit
  dsimp only
  cases validates : env.validateOutputs (qm.store.task ptr) with
  | some err =>
      dsimp only
      cases qm.store.taskSetState ptr .suspend with
      | mk store err =>
          cases err with
          | some text => exact ⟨_, _, rfl⟩
          | none =>
              dsimp only
              split
              · exact ⟨_, _, rfl⟩
              · exact ⟨_, _, rfl⟩
  | none =>
      dsimp only
      cases isStep : (qm.store.task ptr).workflowStep with
      | none =>
          dsimp only
          refine renamed_returns ("(handleLastWorkunit) taskCompleted returned: " ++ ·) ?_
          rw [enough]
          refine taskCompleted_returns sane mapped (fun _ absent => by cases absent) fun _ => ?_
          exact sane.plain id ptr mapped isStep
      | some step =>
          dsimp only
          obtain ⟨results, isSent⟩ :=
              Option.isSome_iff_exists.mp (given validates (by rw [isStep]; rfl))
          rw [isSent]
          dsimp only
          have keeps : Keeps qm.store (qm.store.modifyTask ptr fun task =>
              { task with stepOutput := some (stepOutputs step.out results) }) :=
            @Keeps.modifyTask qm.store ptr
              (fun task => { task with stepOutput := some (stepOutputs step.out results) }) rfl
                  rfl rfl rfl rfl
              (Or.inr ⟨step, results, isStep, rfl⟩)
          generalize (qm.store.modifyTask ptr fun task =>
            { task with stepOutput := some (stepOutputs step.out results) }) = store at keeps
          rcases store.getWorkflowInstance_cases (qm.store.task ptr) with ⟨wi, found, looked⟩
              | ⟨_, err, looked⟩
          · rw [looked]
            dsimp only
            refine renamed_returns ("(handleLastWorkunit) taskCompleted returned: " ++ ·) ?_
            rw [keeps.nextTask, enough]
            refine @taskCompleted_returns env.collect { qm with store } ptr depth _ id
                (sane.keep keeps) mapped
              (fun name same => ?_) (fun absent => by cases absent)
            cases same
            rw [(sane.named id ptr mapped).1] at found
            dsimp only
            rw [found]
            rfl
          · rw [looked]
            exact ⟨_, _, rfl⟩

theorem handleLastWorkunit_panics (validates : env.validateOutputs (qm.store.task ptr) = none)
    (isStep : (qm.store.task ptr).workflowStep.isSome) (silent : notice.results = none) :
    qm.handleLastWorkunit env ptr notice = .error .panic := by
  rcases Option.isSome_iff_exists.mp isStep with ⟨step, isStep⟩
  unfold ServerMgr.handleLastWorkunit
  dsimp only
  rw [validates, isStep]
  dsimp only
  rw [silent]

/-- The task as the last workunit finds it. -/
def countedOff (task : Task) (notice : Notice) : Task :=
  { task with remainWork := 0, computeTime := task.computeTime + notice.computeTime }

/-- What makes counting a workunit off panic. -/
def MissesResults (env : Environment) (qm : ServerMgr) (ptr : Nat)
    (workid : WorkunitUniqueIdentifier) (notice : Notice) : Prop :=
  notice.results = none ∧ (qm.store.task ptr).remainWork = 1 ∧
    ServerMgr.countOthers qm.cq.workQueue workid = 0 ∧ (qm.store.task ptr).workflowStep.isSome ∧
    env.validateOutputs (countedOff (qm.store.task ptr) notice) = none

theorem countOff_internal (sane : Sane qm.store qm.taskMap)
    (mapped : qm.taskMap.lookup id = some ptr) (workid : WorkunitUniqueIdentifier) :
    ((Exists fun final => Exists fun err => qm.countOff env none ptr workid notice = .ok
        (final, err)) ∧
      ¬MissesResults env qm ptr workid notice) ∨
    (qm.countOff env none ptr workid notice = .error .panic ∧
        MissesResults env qm ptr workid notice) := by
  unfold MissesResults ServerMgr.countOff
  dsimp only
  split
  · next negative =>
      refine Or.inl ⟨⟨_, _, rfl⟩, ?_⟩
      rintro ⟨_, last, _⟩
      rw [last] at negative
      exact absurd negative (by decide)
  · split
    · next differs =>
        refine Or.inl ⟨⟨_, _, rfl⟩, ?_⟩
        rintro ⟨_, last, alone, _⟩
        rw [last, alone] at differs
        exact absurd rfl differs
    · next equal =>
        split
        · next zero =>
            have last : (qm.store.task ptr).remainWork = 1 := by omega
            have alone : ServerMgr.countOthers qm.cq.workQueue workid = 0 := by
              rw [zero] at equal
              omega
            rw [zero]
            obtain ⟨store, isStore⟩ : Exists fun store : Store => store =
                (qm.store.modifyTask ptr fun task => { task with remainWork := 0 }).modifyTask
                    ptr fun task =>
                  { task with computeTime := task.computeTime + notice.computeTime } := ⟨_, rfl⟩
            have task : store.task ptr = countedOff (qm.store.task ptr) notice := by
              rw [isStore, Store.modifyTask_self, Store.modifyTask_self]
              rfl
            have keeps : Keeps qm.store store := by
              rw [isStore]
              exact (@Keeps.modifyTask qm.store ptr (fun task => { task with remainWork := 0 }) rfl
                  rfl rfl rfl rfl
                (Or.inl rfl)).trans (@Keeps.modifyTask _ ptr
                  (fun task => { task with computeTime := task.computeTime + notice.computeTime })
                  rfl rfl rfl rfl rfl (Or.inl rfl))
            rw [← isStore]
            by_cases missing : notice.results = none ∧ (qm.store.task ptr).workflowStep.isSome ∧
                env.validateOutputs (countedOff (qm.store.task ptr) notice) = none
            · rcases missing with ⟨silent, isStep, validates⟩
              refine Or.inr ⟨?_, silent, last, alone, isStep, validates⟩
              rw [@handleLastWorkunit_panics env { qm with store } ptr notice
                  (by dsimp only; rw [task]; exact validates)
                (by dsimp only; rw [task]; exact isStep) silent]
            · refine Or.inl ⟨?_, fun all => missing ⟨all.1, all.2.2.2⟩⟩
              obtain ⟨final, err, handled⟩ :=
                  @handleLastWorkunit_returns env { qm with store } ptr id notice
                (sane.keep keeps) mapped (by
                  dsimp only
                  rw [task]
                  intro validates isStep
                  by_contra silent
                  exact missing ⟨Option.not_isSome_iff_eq_none.mp silent, isStep, validates⟩)
              rw [handled]
              cases err with
              | none => exact ⟨_, _, rfl⟩
              | some text => exact ⟨_, _, rfl⟩
        · next more =>
            refine Or.inl ⟨⟨_, _, rfl⟩, ?_⟩
            rintro ⟨_, last, _⟩
            rw [last] at more
            exact absurd rfl more

/-- A client that delivers is noted before, which changes nothing here. -/
theorem countOff_cases (sane : Sane qm.store qm.taskMap) (mapped : qm.taskMap.lookup id = some ptr)
    (client : Option Nat) (workid : WorkunitUniqueIdentifier) :
    ((Exists fun final => Exists fun err => qm.countOff env client ptr workid notice = .ok
        (final, err)) ∧
      ¬MissesResults env qm ptr workid notice) ∨
    (qm.countOff env client ptr workid notice = .error .panic ∧
        MissesResults env qm ptr workid notice) := by
  cases client with
  | none => exact countOff_internal sane mapped workid
  | some client =>
      exact @countOff_internal env
        { qm with cq := qm.cq.modifyClient client fun client => { client with lastFailed := 0 } }
            ptr id notice
        sane mapped workid

end

/-! ## The way of a notice -/

/-- The notice finds a workunit that is checked out or reserved. A notice that fails one of these
tests never gets to the dispatch. -/
structure Arrives (qm : ServerMgr) (notice : Notice) (ptr work : Nat) : Prop where
  printable : notice.id.Printable
  counts : notice.status ≠ workStatDiscarded
  sender : notice.workerID = "_internal" ∨ (qm.cq.clientMap.lookup notice.workerID).isSome
  task : qm.taskMap.lookup notice.id.toTaskUniqueIdentifier = some ptr
  workunit : qm.cq.workQueue.all.lookup notice.id = some work
  out : (qm.cq.workQueue.work work).state = workStatCheckout ∨
    (qm.cq.workQueue.work work).state = workStatReserved

/-- The statuses with a handler. -/
def Handled (status : String) : Prop :=
  status = workStatDone ∨ status = workStatError ∨ status = workStatFailedPermanent

/-- The work queue with the states in it, all tasks and all jobs are the same. Lists of clients
and times of completion may change; the claim is about what can still be scheduled. -/
structure Untouched (qm final : ServerMgr) : Prop where
  all : final.cq.workQueue.all = qm.cq.workQueue.all
  sub : forall kind, final.cq.workQueue.sub kind = qm.cq.workQueue.sub kind
  state : forall work, (final.cq.workQueue.work work).state = (qm.cq.workQueue.work work).state
  store : final.store = qm.store

theorem Untouched.refl (qm : ServerMgr) : Untouched qm qm :=
  ⟨rfl, fun _ => rfl, fun _ => rfl, rfl⟩

/-- What a notice may ask for without harm, if it finds its workunit. The condition on unknown
statuses is the state itself: writing the same state again is the only harmless write. -/
def Fair (env : Environment) (qm : ServerMgr) (notice : Notice) (ptr work : Nat) : Prop :=
  (notice.status = workStatDone -> (qm.store.task ptr).state ≠ .skipped ->
    ¬MissesResults env qm ptr notice.id notice) ∧
  (¬Handled notice.status ->
    (qm.cq.workQueue.work work).state = notice.status ∧ (qm.store.task ptr).state ≠ .skipped)

section

variable {env : Environment} {qm : ServerMgr} {ptr work : Nat} {notice : Notice}

/-- The change of status in front of the handlers is never refused. -/
theorem changeStatus_eq (status : String) :
    qm.changeStatus work status (if status = workStatSuspend then
        "workunit suspended by worker" else "") =
      ({ qm with cq := { qm.cq with
          workQueue := (qm.cq.workQueue.moveTo (qm.cq.workQueue.work work).ident work status
        (if status = workStatSuspend then "workunit suspended by worker" else "")).1 } },
            none) := by
  unfold ServerMgr.changeStatus WorkQueue.statusChange
  dsimp only
  have accepted : ¬WorkQueue.Refused status
      (if status = workStatSuspend then "workunit suspended by worker" else "") := by
    rintro ⟨suspend, silent⟩
    rw [if_pos suspend] at silent
    exact absurd silent (by decide)
  rw [WorkQueue.moveTo_eq, if_neg accepted]
  split
  · rfl
  · rfl

/-- The other workunits of a task are counted by their identifiers only. -/
theorem countOthers_congr {wq after : WorkQueue} (all : after.all = wq.all)
    (ident : forall ptr, (after.work ptr).ident = (wq.work ptr).ident)
    (workid : WorkunitUniqueIdentifier) :
    ServerMgr.countOthers after workid = ServerMgr.countOthers wq workid := by
  unfold ServerMgr.countOthers
  rw [all]
  simp only [ident]

theorem missesResults_congr {after : ServerMgr} (store : after.store = qm.store)
    (all : after.cq.workQueue.all = qm.cq.workQueue.all)
    (ident : forall ptr, (after.cq.workQueue.work ptr).ident = (qm.cq.workQueue.work ptr).ident)
    (workid : WorkunitUniqueIdentifier) :
    MissesResults env after ptr workid notice ↔ MissesResults env qm ptr workid notice := by
  unfold MissesResults
  rw [store, countOthers_congr all ident]

/-- Only the handler for a finished workunit can panic. -/
theorem handleStatus_cases (sane : Sane qm.store qm.taskMap)
    (mapped : qm.taskMap.lookup notice.id.toTaskUniqueIdentifier = some ptr)
    (printable : notice.id.Printable) (client : Option Nat) (maxFailure : Nat) :
    ((Exists fun final => Exists fun err =>
        qm.handleStatus env client ptr work notice maxFailure = .ok (final, err)) ∧
      (notice.status = workStatDone -> ¬MissesResults env qm ptr notice.id notice)) ∨
    (qm.handleStatus env client ptr work notice maxFailure = .error .panic ∧
        notice.status = workStatDone ∧
      MissesResults env qm ptr notice.id notice) := by
  unfold ServerMgr.handleStatus
  split
  · next done =>
      unfold ServerMgr.handleWorkStatDone
      rw [(sane.named _ ptr mapped).1, show notice.id.string.2 = none from printable,
        show notice.id.toTaskUniqueIdentifier.string.2 = none from printable]
      dsimp only
      rcases @countOff_cases env qm ptr _ notice sane mapped client notice.id with
        ⟨⟨final, err, counted⟩, given⟩ | ⟨counted, missing⟩
      · rw [counted]
        refine Or.inl ⟨?_, fun _ => given⟩
        cases err with
        | none => exact ⟨_, _, rfl⟩
        | some text => exact ⟨_, _, rfl⟩
      · rw [counted]
        exact Or.inr ⟨rfl, done, missing⟩
  · next notDone =>
      refine Or.inl ⟨?_, fun done => absurd done notDone⟩
      split
      · cases (qm.countFailure work).store.taskSetState ptr .failedPermanent with
        | mk store err =>
            cases err with
            | some text => exact ⟨_, _, rfl⟩
            | none =>
                dsimp only
                cases (store.task ptr).ident.string.2 with
                | some text => exact ⟨_, _, rfl⟩
                | none => exact ⟨_, _, rfl⟩
      · split
        · dsimp only
          split
          · exact ⟨_, _, rfl⟩
          · cases (qm.countFailure work).changeStatus work workStatSuspend
              "work.Failed >= MAX_FAILURE" with
            | mk later err =>
                cases err with
                | some text => exact ⟨_, _, rfl⟩
                | none =>
                    dsimp only
                    cases later.suspendBehindWork ptr notice.id.jobId with
                    | mk last err =>
                        cases err with
                        | some text => exact ⟨_, _, rfl⟩
                        | none => exact ⟨_, _, rfl⟩
        · exact ⟨_, _, rfl⟩

/-- A status without a handler ends here. -/
theorem handleStatus_unhandled (unhandled : ¬Handled notice.status) (client : Option Nat)
    (maxFailure : Nat) :
    Exists fun text => qm.handleStatus env client ptr work notice maxFailure = .ok
        (qm, some text) := by
  unfold Handled at unhandled
  push Not at unhandled
  rcases unhandled with ⟨notDone, notError, notFailed⟩
  unfold ServerMgr.handleStatus
  rw [if_neg notDone, if_neg notFailed, if_neg notError]
  exact ⟨_, rfl⟩

/-- A notice that finds no workunit to report on changes nothing. -/
theorem deliver_missed (client : Option Nat)
    (missed : forall ptr work, qm.taskMap.lookup notice.id.toTaskUniqueIdentifier = some ptr ->
      qm.cq.workQueue.all.lookup notice.id = some work ->
      (qm.cq.workQueue.work work).state ≠ workStatCheckout ∧
          (qm.cq.workQueue.work work).state ≠ workStatReserved) :
    Exists fun final => Exists fun err => qm.deliver env client notice = .ok (final, err) ∧
      ((qm.taskMap.lookup notice.id.toTaskUniqueIdentifier).isSome -> final = qm) := by
  unfold ServerMgr.deliver
  dsimp only
  cases mapped : qm.taskMap.lookup notice.id.toTaskUniqueIdentifier with
  | none => exact ⟨_, _, rfl, fun present => nomatch present⟩
  | some ptr =>
      dsimp only
      cases stored : qm.cq.workQueue.all.lookup notice.id with
      | none => exact ⟨_, _, rfl, fun _ => rfl⟩
      | some work =>
          dsimp only
          rw [if_pos (missed ptr work mapped stored)]
          exact ⟨_, _, rfl, fun _ => rfl⟩

/-- A notice that finds its workunit. -/
theorem Arrives.deliver (arrives : Arrives qm notice ptr work) (sane : Sane qm.store qm.taskMap)
    (client : Option Nat) :
    ((Exists fun final => Exists fun err => qm.deliver env client notice = .ok (final, err) ∧
        (¬Handled notice.status -> (Untouched qm final ↔
          (qm.cq.workQueue.work work).state = notice.status ∧
          (qm.store.task ptr).state ≠ .skipped))) ∧
      (notice.status = workStatDone -> (qm.store.task ptr).state ≠ .skipped ->
        ¬MissesResults env qm ptr notice.id notice)) ∨
    (qm.deliver env client notice = .error .panic ∧ notice.status = workStatDone ∧
      (qm.store.task ptr).state ≠ .skipped ∧ MissesResults env qm ptr notice.id notice) := by
  rcases Option.isSome_iff_exists.mp (sane.info _ ptr arrives.task) with ⟨info, hasInfo⟩
  have out : ¬((qm.cq.workQueue.work work).state ≠ workStatCheckout ∧
      (qm.cq.workQueue.work work).state ≠ workStatReserved) := by
    rintro ⟨notCheckout, notReserved⟩
    exact arrives.out.elim notCheckout notReserved
  unfold ServerMgr.deliver
  dsimp only
  rw [arrives.task]
  dsimp only
  rw [arrives.workunit]
  dsimp only
  rw [if_neg out, changeStatus_eq]
  dsimp only
  rw [hasInfo]
  dsimp only
  obtain ⟨moved, isMoved⟩ : Exists fun moved => moved =
      qm.cq.workQueue.moveTo (qm.cq.workQueue.work work).ident work notice.status
        (if notice.status = workStatSuspend then "workunit suspended by worker" else "") := ⟨_, rfl⟩
  rw [← isMoved]
  have all : moved.1.all = qm.cq.workQueue.all := by rw [isMoved, WorkQueue.moveTo_all]
  have ident (other : Nat) : (moved.1.work other).ident = (qm.cq.workQueue.work other).ident := by
    rw [isMoved, WorkQueue.moveTo_ident]
  have state : (moved.1.work work).state = notice.status := by
    rw [isMoved]
    refine WorkQueue.moveTo_state _ _ ?_
    rintro ⟨suspend, silent⟩
    rw [if_pos suspend] at silent
    exact absurd silent (by decide)
  have unmoved (same : (qm.cq.workQueue.work work).state = notice.status) :
      moved.1 = qm.cq.workQueue := by
    rw [isMoved, WorkQueue.moveTo, if_pos same]
  split
  · next skipped =>
      refine Or.inl ⟨⟨_, _, rfl, fun _ => ⟨fun untouched => ?_, fun both => absurd skipped both.2⟩⟩,
        fun _ notSkipped => absurd skipped notSkipped⟩
      have gone : (moved.1.delete notice.id).all.lookup notice.id = none := by
        rw [WorkQueue.delete_all_lookup, if_pos rfl]
      have same : (moved.1.delete notice.id).all = qm.cq.workQueue.all := untouched.all
      rw [same, arrives.workunit] at gone
      cases gone
  · next notSkipped =>
      obtain ⟨later, isLater⟩ : Exists fun later : ServerMgr =>
        later = { qm with cq := { qm.cq with workQueue := moved.1 } } := ⟨_, rfl⟩
      have store : later.store = qm.store := by rw [isLater]
      have taskMap : later.taskMap = qm.taskMap := by rw [isLater]
      have queue : later.cq.workQueue = moved.1 := by rw [isLater]
      rw [← isLater]
      have same := @missesResults_congr env qm ptr notice later store (by rw [queue, all])
        (by rw [queue]; exact ident) notice.id
      rcases @handleStatus_cases env later ptr work notice (by rw [store, taskMap]; exact sane)
        (by rw [taskMap]; exact arrives.task) arrives.printable client
        (if info.noRetry then 1 else env.maxWorkFailure) with ⟨⟨final, err, handled⟩, given⟩
        | ⟨handled, done, missing⟩
      · refine Or.inl ⟨⟨final, err, handled, fun unhandled => ?_⟩, fun done _ missing =>
          given done (same.mpr missing)⟩
        obtain ⟨text, ended⟩ := @handleStatus_unhandled env later ptr work notice unhandled client
          (if info.noRetry then 1 else env.maxWorkFailure)
        rw [ended] at handled
        cases handled
        constructor
        · intro untouched
          have kept := untouched.state work
          rw [queue, state] at kept
          exact ⟨kept.symm, notSkipped⟩
        · rintro ⟨equal, _⟩
          rw [unmoved equal] at queue
          exact ⟨by rw [queue], fun _ => by rw [queue], fun _ => by rw [queue], store⟩
      · exact Or.inr ⟨handled, done, notSkipped, same.mp missing⟩

/-- A result without a panic that touches nothing if the status has no handler. An error that is
returned is tame. -/
def Tame (qm : ServerMgr) (notice : Notice) (result : Except Halt (ServerMgr × Err)) : Prop :=
  Exists fun final => Exists fun err => result = .ok (final, err) ∧
    ((qm.taskMap.lookup notice.id.toTaskUniqueIdentifier).isSome -> ¬Handled notice.status ->
        Untouched qm final)

/-- What decides about a notice with a known sender. -/
theorem deliver_tame_iff (sane : Sane qm.store qm.taskMap) (printable : notice.id.Printable)
    (counts : notice.status ≠ workStatDiscarded)
    (sender : notice.workerID = "_internal" ∨ (qm.cq.clientMap.lookup notice.workerID).isSome)
    (client : Option Nat) :
    Tame qm notice (qm.deliver env client notice) ↔
      forall ptr work, Arrives qm notice ptr work -> Fair env qm notice ptr work := by
  by_cases arrival : Exists fun ptr => Exists fun work => Arrives qm notice ptr work
  · rcases arrival with ⟨ptr, work, arrives⟩
    have only (other another : Nat) (also : Arrives qm notice other another) : other = ptr ∧
        another = work :=
      ⟨Option.some_injective _ (also.task.symm.trans arrives.task),
        Option.some_injective _ (also.workunit.symm.trans arrives.workunit)⟩
    rcases @Arrives.deliver env qm ptr work notice arrives sane client with
        ⟨⟨final, err, delivered, touches⟩, given⟩ |
      ⟨delivered, done, notSkipped, missing⟩
    · constructor
      · rintro ⟨last, _, returned, tame⟩ other another also
        rcases only other another also with ⟨rfl, rfl⟩
        rw [delivered] at returned
        cases returned
        exact ⟨given, fun unhandled =>
            (touches unhandled).mp (tame (by rw [arrives.task]; rfl) unhandled)⟩
      · intro fair
        exact ⟨final, err, delivered, fun _ unhandled =>
            (touches unhandled).mpr ((fair ptr work arrives).2 unhandled)⟩
    · constructor
      · rintro ⟨last, _, returned, _⟩
        rw [delivered] at returned
        cases returned
      · intro fair
        exact absurd missing ((fair ptr work arrives).1 done notSkipped)
  · have missed (ptr work : Nat)
      (mapped : qm.taskMap.lookup notice.id.toTaskUniqueIdentifier = some ptr)
        (stored : qm.cq.workQueue.all.lookup notice.id = some work) :
        (qm.cq.workQueue.work work).state ≠ workStatCheckout ∧
          (qm.cq.workQueue.work work).state ≠ workStatReserved := by
      constructor
      · intro out
        exact arrival ⟨ptr, work, printable, counts, sender, mapped, stored, Or.inl out⟩
      · intro out
        exact arrival ⟨ptr, work, printable, counts, sender, mapped, stored, Or.inr out⟩
    rcases @deliver_missed env qm notice client missed with ⟨final, err, delivered, same⟩
    constructor
    · exact fun _ ptr work arrives => absurd ⟨ptr, work, arrives⟩ arrival
    · refine fun _ => ⟨final, err, delivered, fun present _ => ?_⟩
      rw [same present]
      exact Untouched.refl qm

/-- `handleNoticeWorkDelivered` on any notice. -/
theorem handleNoticeWorkDelivered_tame_iff (sane : Sane qm.store qm.taskMap) :
    Tame qm notice (qm.handleNoticeWorkDelivered env notice) ↔
      forall ptr work, Arrives qm notice ptr work -> Fair env qm notice ptr work := by
  have turnedAway (err : Err) (never : forall ptr work, ¬Arrives qm notice ptr work) :
      Tame qm notice (.ok (qm, err)) ↔
        forall ptr work, Arrives qm notice ptr work -> Fair env qm notice ptr work :=
    ⟨fun _ ptr work arrives => absurd arrives (never ptr work),
      fun _ => ⟨qm, err, rfl, fun _ _ => Untouched.refl qm⟩⟩
  unfold ServerMgr.handleNoticeWorkDelivered
  cases printed : notice.id.string.2 with
  | some text =>
      refine turnedAway _ fun ptr work arrives => ?_
      have printable : notice.id.string.2 = none := arrives.printable
      rw [printed] at printable
      cases printable
  | none =>
      dsimp only
      split
      · next discarded => exact turnedAway _ fun ptr work arrives => arrives.counts discarded
      · next counts =>
          split
          · next internal => exact deliver_tame_iff sane printed counts (Or.inl internal) none
          · next external =>
              cases known : qm.cq.clientMap.lookup notice.workerID with
              | none =>
                  refine turnedAway _ fun ptr work arrives => ?_
                  rcases arrives.sender with internal | registered
                  · exact external internal
                  · rw [known] at registered
                    cases registered
              | some client =>
                  dsimp only
                  rw [← deliver_tame_iff sane printed counts (Or.inr (by rw [known]; rfl))
                      (some client)]
                  cases qm.deliver env (some client) notice with
                  | error halt =>
                      constructor
                      · rintro ⟨_, _, returned, _⟩
                        cases returned
                      · rintro ⟨_, _, returned, _⟩
                        cases returned
                  | ok result =>
                      constructor
                      · rintro ⟨_, _, returned, tame⟩
                        cases returned
                        refine ⟨_, _, rfl, fun present unhandled => ?_⟩
                        rcases tame present unhandled with ⟨all, sub, state, store⟩
                        exact ⟨all, sub, state, store⟩
                      · rintro ⟨_, _, returned, tame⟩
                        cases returned
                        refine ⟨_, _, rfl, fun present unhandled => ?_⟩
                        rcases tame present unhandled with ⟨all, sub, state, store⟩
                        exact ⟨all, sub, state, store⟩

end

/-! ## The way of a report -/

section

variable {env : Environment} {decoders : Decoders} {serverUUID : String} {qm : ServerMgr}
    {report : Report}

/-- An identifier whose text is long enough for the bytes it is cut at, unless its rank
is unreadable, which is noticed first. -/
def ReadableID (text : Bytes) : Prop :=
  forall rank, Identifiers.atoi (Identifiers.rankString text) = .ok rank ->
      37 ≤ (Identifiers.rankPrefix text).length

/-- What the checks in front of the notice let pass. Whoever fails here has sent a report that
nobody reads. -/
structure Admitted (serverUUID : String) (qm : ServerMgr) (report : Report) (client : String) :
    Prop where
  sender : report.client = some client
  accepted : report.refused = none
  known : (qm.cq.clientMap.lookup client).isSome
  server : ¬(report.status.isSome ∧ report.serverUUID.getD "" ≠ "" ∧
      report.serverUUID.getD "" ≠ serverUUID)

/-- The notice in the report, if there is one. -/
def carried (decoders : Decoders) (workID : WorkunitUniqueIdentifier) (client : String)
    (report : Report) :
    Option Notice :=
  match report.cwl with
  | some .unreadable => none
  | some (.object native) => (newNotice decoders native).toOption
  | none => oldStyleNotice workID client report

/-- The report gets as far as the notice. -/
def Enters (decoders : Decoders) (serverUUID : String) (qm : ServerMgr) (report : Report)
    (workID : WorkunitUniqueIdentifier) (client : String) : Prop :=
  workunitFromString decoders report.id = .ok (.ok workID) ∧ Admitted serverUUID qm report client

/-- The report brings a notice as far as the test of its status. -/
def Brings (decoders : Decoders) (serverUUID : String) (qm : ServerMgr) (report : Report)
    (notice : Notice) : Prop :=
  Exists fun workID => Exists fun client => Enters decoders serverUUID qm report workID client ∧
    carried decoders workID client report = some notice

/-- The parsers of a notice read no job input. -/
def noInput : Cwl.Calls.Yaml where
  list := fun _ => none
  map := fun _ => none

/-- The results in a notice ask for no import: there is no context to read it from. -/
def Importless (decoders : Decoders) (native : List (String × Cwl.Tree)) : Prop :=
  forall results, native.lookup "results" = some results ->
    Cwl.Faults.Sound decoders.library noInput (.results .nil results)

/-- The condition for a report to do no harm, in terms of the report and of the
state of the server. -/
structure Careful (env : Environment) (decoders : Decoders) (serverUUID : String) (qm : ServerMgr)
    (report : Report) : Prop where
  id : ReadableID report.id
  results : forall workID client, Enters decoders serverUUID qm report workID client ->
    forall native, report.cwl = some (.object native) -> Importless decoders native
  status : forall notice, Brings decoders serverUUID qm report notice -> report.cwl.isSome ->
      notice.status ≠ ""
  fair : forall notice, Brings decoders serverUUID qm report notice -> forall ptr work,
    Arrives qm notice ptr work -> Fair env qm notice ptr work

/-- The report is answered without a panic, and a status without a handler leaves everything as it
was. A panic is the end of the request, or of the server if it happens behind the request, so it
counts as harm. -/
def Harmless (env : Environment) (decoders : Decoders) (serverUUID : String) (qm : ServerMgr)
    (report : Report) : Prop :=
  Exists fun final => Exists fun err => qm.receive env decoders serverUUID report = .ok
      (final, err) ∧
    forall notice, qm.update decoders serverUUID report = .ok (.ok notice) ->
      (qm.taskMap.lookup notice.id.toTaskUniqueIdentifier).isSome -> ¬Handled notice.status ->
          Untouched qm final

/-- The results of a report that gets as far as the notice can be decoded without a
context. -/
def Decodable (decoders : Decoders) (serverUUID : String) (qm : ServerMgr) (report : Report) :
    Prop :=
  forall workID client, Enters decoders serverUUID qm report workID client ->
    forall native, report.cwl = some (.object native) -> Importless decoders native

theorem workunitFromString_returns_iff {text : Bytes} :
    (Exists fun answer => workunitFromString decoders text = .ok answer) ↔ ReadableID text := by
  have mapped : (Exists fun answer => workunitFromString decoders text = .ok answer) ↔
      Exists fun answer => Identifiers.newWorkunitUniqueIdentifierFromString text = .ok answer := by
    unfold workunitFromString
    cases Identifiers.newWorkunitUniqueIdentifierFromString text with
    | error halt => exact iff_of_false (by rintro ⟨_, ⟨⟩⟩) (by rintro ⟨_, ⟨⟩⟩)
    | ok answer => exact iff_of_true ⟨_, rfl⟩ ⟨_, rfl⟩
  rw [mapped, Identifiers.newWorkunit_returns_iff]
  unfold ReadableID
  cases Identifiers.atoi (Identifiers.rankString text) with
  | error err => exact iff_of_true (Or.inl ⟨err, rfl⟩) (by rintro _ ⟨⟩)
  | ok rank =>
      constructor
      · rintro (⟨_, ⟨⟩⟩ | long) _ _
        exact long
      · intro readable
        exact Or.inr (readable rank rfl)

/-- A text that is too short panics. -/
theorem workunitFromString_halts {text : Bytes} {halt : Halt}
    (halted : workunitFromString decoders text = .error halt) : halt = .panic := by
  unfold workunitFromString Identifiers.newWorkunitUniqueIdentifierFromString at halted
  cases read : Identifiers.atoi (Identifiers.rankString text) with
  | error err =>
      rw [read] at halted
      cases halted
  | ok rank =>
      rw [read] at halted
      dsimp only at halted
      by_cases long : 37 ≤ (Identifiers.rankPrefix text).length
      · rcases Identifiers.newTask_returns long with ⟨answer, cut⟩
        rw [cut] at halted
        cases answer <;> cases halted
      · rw [(Identifiers.newTask_panics_iff _).mpr (by omega)] at halted
        cases halted
        rfl

theorem fromInterface_calm {visits : Cwl.Natives.Visits} {id : Cwl.Tree} {text : String} :
    Cwl.NoticeWire.fromInterface visits id ≠ .error (.panic text) := by
  unfold Cwl.NoticeWire.fromInterface
  cases id with
  | strMap fields =>
      dsimp only
      split_ifs
      · rintro ⟨⟩
      · rintro ⟨⟩
  | _ => rintro ⟨⟩

/-- After the results nothing in a notice panics. -/
theorem wireNotice_panic_iff {library : Cwl.Natives.Library} {context : Cwl.Context}
    {native : List (String × Cwl.Tree)} {text : String} :
    Cwl.NoticeWire.newNotice library context native = .error (.panic text) ↔
      Cwl.NoticeWire.resultsOf library context (native.lookup "results") = .error
          (.panic text) := by
  unfold Cwl.NoticeWire.newNotice
  cases Cwl.NoticeWire.resultsOf library context (native.lookup "results") with
  | error failure =>
      constructor
      · rintro ⟨⟩
        rfl
      · rintro ⟨⟩
        rfl
  | ok results =>
      refine iff_of_false ?_ (by rintro ⟨⟩)
      dsimp only
      cases native.lookup "id" with
      | none => rintro ⟨⟩
      | some id =>
          dsimp only
          cases identified : Cwl.NoticeWire.fromInterface library.toVisits id with
          | error failure =>
              cases failure with
              | panic text => exact absurd identified fromInterface_calm
              | error text => rintro ⟨⟩
          | ok pair => cases native.lookup "status" <;> rintro ⟨⟩

theorem resultsOf_panics_iff {library : Cwl.Natives.Library} {context : Cwl.Context}
    {found : Option Cwl.Tree} :
    (Exists fun text => Cwl.NoticeWire.resultsOf library context found = .error (.panic text)) ↔
      Exists fun results => found = some results ∧
        ¬ Cwl.Faults.Calm (Cwl.Natives.newJobDocumentFromNamedTypes library context results) := by
  cases found with
  | none => exact iff_of_false (by rintro ⟨_, ⟨⟩⟩) (by rintro ⟨_, ⟨⟩, _⟩)
  | some results =>
      simp only [Option.some.injEq, exists_eq_left', Cwl.Faults.Calm, not_forall, not_not]
      cases results with
      | null => exact iff_of_false (by rintro ⟨_, ⟨⟩⟩) (by rintro ⟨_, ⟨⟩⟩)
      | _ =>
          unfold Cwl.NoticeWire.resultsOf
          dsimp only
          generalize Cwl.Natives.newJobDocumentFromNamedTypes library context _ = document
          cases document with
          | ok document => exact iff_of_false (by rintro ⟨_, ⟨⟩⟩) (by rintro ⟨_, ⟨⟩⟩)
          | error failure =>
              cases failure with
              | panic text => exact iff_of_true ⟨text, rfl⟩ ⟨text, rfl⟩
              | error text => exact iff_of_false (by rintro ⟨_, ⟨⟩⟩) (by rintro ⟨_, ⟨⟩⟩)

/-- The decoder of a notice panics exactly if the results ask for an import. -/
theorem newNotice_panics_iff {native : List (String × Cwl.Tree)} :
    (Exists fun text => newNotice decoders native = .error (.panic text)) ↔
    ¬ Importless decoders native := by
  have mapped (text : String) : newNotice decoders native = .error (.panic text) ↔
      Cwl.NoticeWire.newNotice decoders.library .nil native = .error (.panic text) := by
    unfold newNotice
    cases Cwl.NoticeWire.newNotice decoders.library .nil native with
    | ok notice => exact iff_of_false (by rintro ⟨⟩) (by rintro ⟨⟩)
    | error failure =>
        constructor
        · rintro ⟨⟩
          rfl
        · rintro ⟨⟩
          rfl
  simp only [mapped, wireNotice_panic_iff]
  rw [resultsOf_panics_iff, Importless]
  simp only [<- Cwl.Faults.results_calm_iff_sound]
  push Not
  rfl

section

variable {workID : WorkunitUniqueIdentifier} {client : String}

/-- A report that is turned away before the notice. -/
theorem barred (readable : ReadableID report.id)
    (never : forall workID client, ¬Enters decoders serverUUID qm report workID client)
    (message : String) :
    ReadableID report.id ∧ Decodable decoders serverUUID qm report ∧
      (forall notice, ¬Brings decoders serverUUID qm report notice) ∧
      Exists fun err => (Except.ok (Except.error message) : Except Halt Answer) = .ok
          (.error err) := by
  refine ⟨readable, fun workID client enters => absurd enters (never workID client),
      ?_, message, rfl⟩
  rintro notice ⟨workID, client, enters, _⟩
  exact never workID client enters

theorem Enters.unique {other : WorkunitUniqueIdentifier} {sender : String}
    (enters : Enters decoders serverUUID qm report workID client)
    (also : Enters decoders serverUUID qm report other sender) :
    other = workID ∧ sender = client := by
  refine ⟨?_, Option.some_injective _ (also.2.sender.symm.trans enters.2.sender)⟩
  have same := also.1.symm.trans enters.1
  exact Except.ok.inj (Except.ok.inj same)

theorem brings_iff (enters : Enters decoders serverUUID qm report workID client) {notice : Notice} :
    Brings decoders serverUUID qm report notice ↔
    carried decoders workID client report = some notice := by
  constructor
  · rintro ⟨other, sender, also, carries⟩
    rcases enters.unique also with ⟨rfl, rfl⟩
    exact carries
  · exact fun carries => ⟨workID, client, enters, carries⟩

theorem decodable_iff (enters : Enters decoders serverUUID qm report workID client) :
    Decodable decoders serverUUID qm report ↔
      forall native, report.cwl = some (.object native) -> Importless decoders native :=
  ⟨fun decodable => decodable workID client enters, fun decodable _ _ _ => decodable⟩

/-- What becomes of a report that has passed the checks. -/
theorem noticeIn_cases (readable : ReadableID report.id)
    (enters : Enters decoders serverUUID qm report workID client) :
    (¬Decodable decoders serverUUID qm report ∧ noticeIn decoders workID client report =
        .error .panic) ∨
    (ReadableID report.id ∧ Decodable decoders serverUUID qm report ∧
      (forall notice, ¬Brings decoders serverUUID qm report notice) ∧
      Exists fun err => noticeIn decoders workID client report = .ok (.error err)) ∨
    (Exists fun notice => ReadableID report.id ∧ Decodable decoders serverUUID qm report ∧
      Brings decoders serverUUID qm report notice ∧
      (forall other, Brings decoders serverUUID qm report other -> other = notice) ∧
      ((report.cwl.isSome ∧ notice.status = "" ∧ noticeIn decoders workID client report =
      .error .panic) ∨
        (¬(report.cwl.isSome ∧ notice.status = "") ∧ noticeIn decoders workID client report = .ok
            (.ok notice)))) := by
  rw [decodable_iff enters]
  simp only [brings_iff enters]
  unfold noticeIn carried
  cases field : report.cwl with
  | none =>
      have calm : forall native, (none : Option CwlField) = some (.object native) ->
          Importless decoders native := by
        rintro native ⟨⟩
      dsimp only
      cases oldStyleNotice workID client report with
      | none => exact Or.inr (Or.inl ⟨readable, calm, by rintro _ ⟨⟩, _, rfl⟩)
      | some notice =>
          refine Or.inr (Or.inr ⟨notice, readable, calm, rfl, ?_, Or.inr ⟨by rintro ⟨⟨⟩, _⟩, rfl⟩⟩)
          exact fun other same => (Option.some_injective _ same).symm
  | some content =>
      cases content with
      | unreadable => exact Or.inr (Or.inl ⟨readable, by rintro _ ⟨⟩, by rintro _ ⟨⟩, _, rfl⟩)
      | object native =>
          have only : (forall other, some (CwlField.object native) = some (.object other) ->
              Importless decoders other) ↔
              Importless decoders native := by
            constructor
            · exact fun every => every native rfl
            · rintro calm other ⟨⟩
              exact calm
          rw [only]
          dsimp only
          have panics := @newNotice_panics_iff decoders native
          cases decoded : newNotice decoders native with
          | error failure =>
              cases failure with
              | panic text => exact Or.inl ⟨panics.mp ⟨text, decoded⟩, rfl⟩
              | error err =>
                  refine Or.inr (Or.inl ⟨readable, ?_, by rintro _ ⟨⟩, _, rfl⟩)
                  by_contra importing
                  rcases panics.mpr importing with ⟨text, panicked⟩
                  cases decoded.symm.trans panicked
          | ok notice =>
              have calm : Importless decoders native := by
                by_contra importing
                rcases panics.mpr importing with ⟨text, panicked⟩
                cases decoded.symm.trans panicked
              refine Or.inr (Or.inr ⟨notice, readable, calm, rfl, fun other same =>
                  (Option.some_injective _ same).symm, ?_⟩)
              dsimp only
              by_cases silent : notice.status = ""
              · rw [if_pos silent]
                exact Or.inl ⟨rfl, silent, rfl⟩
              · rw [if_neg silent]
                exact Or.inr ⟨fun both => silent both.2, rfl⟩

end

/-- The ways `Update` can go. -/
theorem update_cases :
    (¬ReadableID report.id ∧ qm.update decoders serverUUID report = .error .panic) ∨
    (¬Decodable decoders serverUUID qm report ∧ qm.update decoders serverUUID report =
    .error .panic) ∨
    (ReadableID report.id ∧ Decodable decoders serverUUID qm report ∧
      (forall notice, ¬Brings decoders serverUUID qm report notice) ∧
      Exists fun err => qm.update decoders serverUUID report = .ok (.error err)) ∨
    (Exists fun notice => ReadableID report.id ∧ Decodable decoders serverUUID qm report ∧
      Brings decoders serverUUID qm report notice ∧
      (forall other, Brings decoders serverUUID qm report other -> other = notice) ∧
      ((report.cwl.isSome ∧ notice.status = "" ∧ qm.update decoders serverUUID report =
      .error .panic) ∨
        (¬(report.cwl.isSome ∧ notice.status = "") ∧
          qm.update decoders serverUUID report = .ok (.ok notice)))) := by
  unfold ServerMgr.update
  cases parsed : workunitFromString decoders report.id with
  | error halt =>
      cases workunitFromString_halts parsed
      refine Or.inl ⟨fun readable => ?_, rfl⟩
      rcases (@workunitFromString_returns_iff decoders _).mpr readable with ⟨answer, returned⟩
      rw [parsed] at returned
      cases returned
  | ok answer =>
      have readable : ReadableID report.id := workunitFromString_returns_iff.mp ⟨answer, parsed⟩
      refine Or.inr ?_
      cases answer with
      | error refusal =>
          refine Or.inr (Or.inl (barred readable (fun workID client enters => ?_) _))
          have same := parsed.symm.trans enters.1
          cases same
      | ok workID =>
          dsimp only
          cases sender : report.client with
          | none =>
              refine Or.inr (Or.inl (barred readable (fun _ client enters => ?_) _))
              have sent := enters.2.sender
              rw [sender] at sent
              cases sent
          | some client =>
              dsimp only
              cases checks : report.refused with
              | some err =>
                  refine Or.inr (Or.inl (barred readable (fun _ client enters => ?_) _))
                  have accepted := enters.2.accepted
                  rw [checks] at accepted
                  cases accepted
              | none =>
                  dsimp only
                  split_ifs with unknown wrong
                  · refine Or.inr (Or.inl (barred readable (fun _ other enters => ?_) _))
                    have sent := enters.2.sender
                    rw [sender] at sent
                    cases sent
                    have known := enters.2.known
                    rw [Option.isNone_iff_eq_none.mp unknown] at known
                    cases known
                  · exact Or.inr (Or.inl
                      (barred readable (fun _ _ enters => enters.2.server wrong) _))
                  · have registered : (qm.cq.clientMap.lookup client).isSome :=
                      Option.isSome_iff_ne_none.mpr fun absent => unknown (by rw [absent]; rfl)
                    have enters : Enters decoders serverUUID qm report workID client :=
                      ⟨parsed, sender, checks, registered, wrong⟩
                    exact noticeIn_cases readable enters

/-- Exactly the careful reports are harmless.  What a report may do is decided before it is
handled: the slices of the identifier, the decoding of its results without a context, an empty
status of its CWL part, and a status that the queue files under a state which has no map.
`Careful` has one clause for each of them. -/
theorem harmless_iff_careful (sane : Sane qm.store qm.taskMap) :
    Harmless env decoders serverUUID qm report ↔ Careful env decoders serverUUID qm report := by
  unfold Harmless ServerMgr.receive
  have halted {halt : Halt} (updated : qm.update decoders serverUUID report = .error halt)
      (careless : ¬Careful env decoders serverUUID qm report) :
      Harmless env decoders serverUUID qm report ↔ Careful env decoders serverUUID qm report := by
    refine iff_of_false ?_ careless
    unfold Harmless ServerMgr.receive
    rw [updated]
    rintro ⟨_, _, ⟨⟩, _⟩
  rcases @update_cases decoders serverUUID qm report with ⟨unreadable, updated⟩
      | ⟨importing, updated⟩ |
    ⟨readable, decodable, nothing, err, updated⟩ |
    ⟨notice, readable, decodable, brings, unique, ⟨isCwl, silent, updated⟩ | ⟨accepted, updated⟩⟩
  · exact halted updated fun careful => unreadable careful.id
  · exact halted updated fun careful => importing careful.results
  · rw [updated]
    constructor
    · exact fun _ => ⟨readable, decodable, fun notice brings => absurd brings (nothing notice),
        fun notice brings => absurd brings (nothing notice)⟩
    · exact fun _ => ⟨qm, some err, rfl, by rintro _ ⟨⟩⟩
  · exact halted updated fun careful => careful.status notice brings isCwl silent
  · rw [updated]
    dsimp only
    have tame := @handleNoticeWorkDelivered_tame_iff env qm notice sane
    constructor
    · rintro ⟨final, err, returned, untouched⟩
      refine ⟨readable, decodable, fun other also isCwl silent => ?_, fun other also => ?_⟩
      · rw [unique other also] at silent
        exact accepted ⟨isCwl, silent⟩
      · rw [unique other also]
        exact tame.mp ⟨final, err, returned, untouched notice rfl⟩
    · intro careful
      rcases tame.mpr (careful.fair notice brings) with ⟨final, err, returned, untouched⟩
      refine ⟨final, err, returned, fun other same => ?_⟩
      cases same
      exact untouched

end

private def reportedJob : String := "6ba7b810-9dad-41d1-80b4-00c04fd430c8"

private def reportedID : WorkunitUniqueIdentifier := ⟨⟨"t", reportedJob⟩, 0⟩

/-- An old-style job with one task, whose only workunit is with the client `c`. -/
private def reportedServer : ServerMgr where
  cq :=
    { workQueue :=
        { WorkQueue.newWorkQueue with
          work := fun _ =>
            { WorkQueue.blank with
                ident := reportedID, state := workStatCheckout, client := "c", globalId := "t" }
          next := 1
          all := AList.insert reportedID 0 ∅
          checkout := AList.insert reportedID 0 ∅ }
      client := fun _ => ⟨"c", "", [], [], ⟨[], []⟩, ⟨[], []⟩, false, false, "", 0⟩
      nextClient := 1
      clientMap := AList.insert "c" 0 ∅
      suspendQueue := false }
  store :=
    { task := fun _ =>
        { Task.blank with
          ident := ⟨"t", reportedJob⟩
          state := .inProgress
          info := some ⟨1, 0, "", false⟩
          totalWork := 1
          remainWork := 1 }
      nextTask := 1
      jobs := AList.insert reportedJob ⟨reportedJob, .inProgress, false, "", ⟨1, 0, "", false⟩,
          [0], 1, ∅, ∅⟩ ∅ }
  taskMap := AList.insert ⟨"t", reportedJob⟩ 0 ∅
  actJobs := [reportedJob]
  globalInstances := []

private theorem reportedServer_sane : Sane reportedServer.store reportedServer.taskMap where
  named id ptr found := by
    rcases GoMap.lookup_insert_eq_some.mp found with ⟨rfl, rfl⟩ | ⟨_, missing⟩
    · exact ⟨rfl, Nat.one_pos⟩
    · cases missing
  info _ _ _ := rfl
  plain _ _ _ _ := rfl
  parents _ _ _ _ _ child _ := nomatch child
  children _ _ _ _ _ _ _ _ isStep _ _ _ := nomatch isStep

private def reportedEnv : Environment :=
  ⟨fun _ _ _ => .error "no outputs", fun _ => none, fun _ _ => none, 3, 3⟩

private def reportedDecoders : Decoders where
  library := { sha1 := fun _ => "", parseURL := fun _ => none }
  text := fun bytes => (String.fromUTF8? ⟨bytes.toArray⟩).getD ""
  json := fun _ => ""

/-- What the worker `c` reports for its workunit. -/
private def statusReport (status : String) : Report :=
  ⟨ascii "6ba7b810-9dad-41d1-80b4-00c04fd430c8_t_0", some "c", none, some status, none, none, none⟩

private theorem reportedID_parsed :
    workunitFromString reportedDecoders (ascii "6ba7b810-9dad-41d1-80b4-00c04fd430c8_t_0") = .ok
        (.ok reportedID) := by
  rfl

private theorem statusReport_brings {status : String} {notice : Notice}
    (brings : Brings reportedDecoders "" reportedServer (statusReport status) notice) :
    notice = ⟨reportedID, "c", none, status, 0⟩ := by
  rcases brings with ⟨workID, client, enters, carries⟩
  have same : workID = reportedID := by
    have known : workunitFromString reportedDecoders (statusReport status).id = .ok
        (.ok reportedID) := reportedID_parsed
    have parsed := known.symm.trans enters.1
    cases parsed
    rfl
  have sender : client = "c" := (Option.some_injective _ enters.2.sender).symm
  rw [same, sender] at carries
  exact (Option.some_injective _ carries).symm

theorem harmless_iff_careful_done :
    Sane reportedServer.store reportedServer.taskMap ∧
      Harmless reportedEnv reportedDecoders "" reportedServer (statusReport workStatDone) := by
  refine ⟨reportedServer_sane, (harmless_iff_careful reportedServer_sane).mpr
    ⟨?_, by rintro _ _ _ _ ⟨⟩, by rintro _ _ ⟨⟩, ?_⟩⟩
  · exact workunitFromString_returns_iff.mp ⟨.ok reportedID, reportedID_parsed⟩
  · intro notice brings ptr work arrives
    rw [statusReport_brings brings]
    exact ⟨fun _ _ missing => (nomatch missing.2.2.2.1), fun unhandled =>
        absurd (Or.inl rfl) unhandled⟩

/-- A status nobody knows is written to the workunit, which leaves the map of
the workunits that are checked out: no later notice and no requeue finds it. -/
theorem unknown_status_harms :
    Sane reportedServer.store reportedServer.taskMap ∧
      ¬Harmless reportedEnv reportedDecoders "" reportedServer (statusReport "bogus") := by
  refine ⟨reportedServer_sane, ?_⟩
  rintro ⟨final, err, returned, untouched⟩
  have updated : reportedServer.update reportedDecoders "" (statusReport "bogus") =
      .ok (.ok ⟨reportedID, "c", none, "bogus", 0⟩) := rfl
  have state : (final.cq.workQueue.work 0).state = "bogus" := by
    have answer : ((reportedServer.receive reportedEnv reportedDecoders ""
        (statusReport "bogus")).toOption.map
        fun result => (result.1.cq.workQueue.work 0).state) = some "bogus" := by
      decide
    rw [returned] at answer
    exact Option.some_injective _ answer
  have kept := (untouched _ updated rfl (by unfold Handled; decide)).state 0
  rw [state] at kept
  exact absurd kept (by decide)

end Reports

end Core
end Awe
