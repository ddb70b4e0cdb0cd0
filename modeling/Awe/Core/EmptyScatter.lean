import Awe.Core.ScatterGather

namespace Awe
namespace Core

open Lib Lib.Path

/-!
# Scattering over an empty array

A scatter step with an empty array has nothing to run.  The server then makes
up a workunit that nobody computes, and returns the notice that a worker would
have sent for it, with an empty array for every output.  This module follows
the notice through the queue, the task map and the completion of the task.  For
a sub-workflow the branch never gets that far.
-/

namespace EmptyScatter

/-- A call of `processInstanceEnQueueScatter` and what it finds. What the maps yield first and
which UUIDs are drawn belongs to the call. -/
structure EmptyCall where
  env : Environment
  lookup : SourceLookup
  spare : Nat
  order : Nat -> List String
  uuids : Nat -> String
  qm : ServerMgr
  jobid : String
  parentID : String
  process : ProcessInstance
  job : Job
  parent : WorkflowInstance
  step : WorkflowStep
  arrays : List (List CWLValue)
  method : ScatterMethod

/-- A task as the queue hands it over: it has one workunit to go, and none of
its workunits is in the queue. -/
structure Enqueued (qm : ServerMgr) (jobid parentID : String) (ptr : Nat) (step : WorkflowStep) :
    Prop where
  jobNamed : jobid ≠ ""
  job : (qm.store.task ptr).ident.jobId = jobid
  named : (qm.store.task ptr).ident.taskName ≠ ""
  owner : (qm.store.task ptr).workflowInstanceID = parentID
  ownerUUID : (qm.store.task ptr).workflowInstanceUUID ≠ ""
  opened : (qm.store.task ptr).state ≠ .completed
  unskipped : (qm.store.task ptr).state ≠ .skipped
  outermost : (qm.store.task ptr).scatterParent = none
  workflowStep : (qm.store.task ptr).workflowStep = some step
  info : (qm.store.task ptr).info.isSome
  remainWork : (qm.store.task ptr).remainWork = 1
  mapped : qm.taskMap.lookup (qm.store.task ptr).ident = some ptr
  found : (qm.store.instanceOf jobid parentID).isSome
  stored : qm.cq.workQueue.Stored
  unqueued : forall id work, qm.cq.workQueue.all.lookup id = some work ->
    id.toTaskUniqueIdentifier ≠ (qm.store.task ptr).ident

namespace EmptyCall

def result (call : EmptyCall) : Except Halt (ServerMgr × Option Notice × Err) :=
  call.qm.processInstanceEnQueueScatter call.env call.lookup call.spare call.order
      call.uuids call.jobid
    call.parentID call.process

/-- The server in front of the branch for an empty array: a nested product has
suspended the step and the job by then. -/
def stopped (call : EmptyCall) : ServerMgr × Err :=
  if call.method = .nestedCrossproduct then call.qm.suspendNested call.jobid call.process else
      (call.qm, none)

/-- A scatter step of a CWL job whose arrays can be read, and one of them is
empty. -/
structure Sound (call : EmptyCall) : Prop where
  loaded : call.qm.store.jobs.lookup call.jobid = some call.job
  found : call.qm.store.instanceOf call.jobid call.parentID = some call.parent
  started : call.parent.inputs.isSome
  stepFound : call.qm.store.processStep call.jobid call.process = some call.step
  scatters : call.step.scatter ≠ []
  read : scatterArrays call.lookup call.step = .ok call.arrays
  empty : call.arrays.any List.isEmpty = true
  method : readMethod call.step.scatterMethod = some call.method
  tasks : call.job.tasks = []
  task : forall ptr, call.process = .task ptr ->
    Enqueued call.qm call.jobid call.parentID ptr call.step
  valid : forall ptr task, call.process = .task ptr ->
      task.ident = (call.qm.store.task ptr).ident ->
    call.env.validateOutputs task = none

/-- The process instance is completed. -/
def Completed (call : EmptyCall) (final : ServerMgr) : Prop :=
  match call.process with
  | .task ptr => (final.store.task ptr).state = .completed
  | .workflowInstance localID =>
      (final.store.instanceOf call.jobid localID).map WorkflowInstance.state = some .completed

/-- The call returns the notice of a checked-out workunit with an empty array for every output,
and handling the notice completes the process instance. The notice alone would say little: it has
to name a workunit that is checked out, or its handling would be refused. -/
def Completes (call : EmptyCall) : Prop :=
  Exists fun after => Exists fun notice => call.result = .ok (after, some notice, none) ∧
    (Exists fun work => after.cq.workQueue.all.lookup notice.id = some work ∧
      (after.cq.workQueue.work work).state = workStatCheckout) ∧
    notice.results = some (call.step.out.map fun outputID => (outputID, .array [])) ∧
    Exists fun final => Exists fun err =>
      after.handleNoticeWorkDelivered call.env notice = .ok (final, err) ∧ call.Completed final

/-- The step runs a tool, and a workunit for its task can be prepared. It is a condition on the
store as it is before the notice for the empty task is sent. -/
def Preparable (call : EmptyCall) : Prop :=
  Exists fun ptr => call.process = .task ptr ∧
    call.env.prepareCWL call.stopped.1.store (call.stopped.1.store.task ptr) = none

end EmptyCall

/-! ## The workunit that nobody computes -/

section

variable {qm : ServerMgr} {jobid parentID : String} {ptr : Nat} {step : WorkflowStep}

/-- The workunit of a task that can be prepared. -/
def standIn (task : Task) : Workunit where
  ident := ⟨task.ident, 0⟩
  state := workStatInit
  failed := 0
  client := ""
  globalId := (WorkunitUniqueIdentifier.mk task.ident 0).string.1
  info := task.info
  inputs := task.inputs
  cmd := task.cmd
  notes := []

theorem Enqueued.printable (enqueued : Enqueued qm jobid parentID ptr step) (rank : Int) :
    (WorkunitUniqueIdentifier.mk (qm.store.task ptr).ident rank).Printable := by
  rw [WorkunitUniqueIdentifier.printable_iff]
  refine ⟨enqueued.named, ?_⟩
  rw [enqueued.job]
  exact enqueued.jobNamed

theorem Enqueued.newWorkunit (enqueued : Enqueued qm jobid parentID ptr step) (env : Environment) :
    newWorkunit env qm.store (qm.store.task ptr) 0 =
      match env.prepareCWL qm.store (qm.store.task ptr) with
      | some err => .error err
      | none => .ok (standIn (qm.store.task ptr)) := by
  have printable := enqueued.printable 0
  unfold WorkunitUniqueIdentifier.Printable at printable
  unfold Core.newWorkunit
  dsimp only
  cases text : (WorkunitUniqueIdentifier.mk (qm.store.task ptr).ident 0).string with
  | mk workStr err =>
      rw [text] at printable
      dsimp only at printable
      subst printable
      rw [enqueued.workflowStep]
      dsimp only [Option.isSome_some]
      rw [if_pos rfl]
      unfold standIn
      cases env.prepareCWL qm.store (qm.store.task ptr) with
      | none => rw [text]
      | some err => rfl

/-- What the queue holds after the stand-in is added and marked: its workunit is
there, checked out, and it is the only one of the task. -/
structure Marked (wq : WorkQueue) (ident : TaskUniqueIdentifier) (work : Nat) : Prop where
  stored : wq.Stored
  found : wq.all.lookup ⟨ident, 0⟩ = some work
  state : (wq.work work).state = workStatCheckout
  alone : forall id other, wq.all.lookup id = some other -> id.toTaskUniqueIdentifier = ident ->
      id.rank = 0

/-- The server with another work queue. -/
def withQueue (qm : ServerMgr) (wq : WorkQueue) : ServerMgr :=
  { qm with cq := { qm.cq with workQueue := wq } }

theorem Enqueued.addInternalWorkunit (enqueued : Enqueued qm jobid parentID ptr step) :
    Exists fun wq => Exists fun work =>
      qm.addInternalWorkunit (standIn (qm.store.task ptr)) = (withQueue qm wq, none) ∧
        Marked wq (qm.store.task ptr).ident work := by
  obtain ⟨workunit, isStandIn⟩ : Exists fun workunit => workunit = standIn (qm.store.task ptr) :=
      ⟨_, rfl⟩
  have ident : workunit.ident = ⟨(qm.store.task ptr).ident, 0⟩ := by rw [isStandIn]; rfl
  have self : (qm.cq.workQueue.alloc workunit).1.work (qm.cq.workQueue.alloc workunit).2 =
      workunit :=
    Function.update_self ..
  have named : workunit.globalId ≠ "" := by
    rw [isStandIn]
    unfold standIn WorkunitUniqueIdentifier.string
    dsimp only
    intro blank
    have letters := congrArg String.toList blank
    simp [String.toList_append] at letters
  have printable : workunit.ident.Printable := by
    rw [ident]
    exact enqueued.printable 0
  have stored := enqueued.stored.alloc workunit
  have allocated : (qm.cq.workQueue.alloc workunit).2 < (qm.cq.workQueue.alloc workunit).1.next :=
    Nat.lt_succ_self _
  have added := stored.add allocated
  have queued := @WorkQueue.add_eq (qm.cq.workQueue.alloc workunit).1
      (qm.cq.workQueue.alloc workunit).2
    (by rw [self]; exact named) (by rw [self]; exact printable)
  have present : ((qm.cq.workQueue.alloc workunit).1.add
      (qm.cq.workQueue.alloc workunit).2).1.all.lookup
      ⟨(qm.store.task ptr).ident, 0⟩ = some (qm.cq.workQueue.alloc workunit).2 := by
    rw [queued, WorkQueue.moveTo_all, WorkQueue.replace_all_lookup, self, if_pos ident.symm]
  have entries (id : WorkunitUniqueIdentifier) (other : Nat)
      (entry : ((qm.cq.workQueue.alloc workunit).1.add
          (qm.cq.workQueue.alloc workunit).2).1.all.lookup id =
        some other) (same : id.toTaskUniqueIdentifier = (qm.store.task ptr).ident) :
            id.rank = 0 := by
    rcases enqueued.stored.add_entries workunit entry with ⟨_, own, _⟩ | ⟨old, _⟩
    · rw [own, ident]
    · exact absurd same (enqueued.unqueued id other old)
  rw [← isStandIn]
  unfold ServerMgr.addInternalWorkunit
  dsimp only
  generalize ((qm.cq.workQueue.alloc workunit).1.add (qm.cq.workQueue.alloc workunit).2).1 = wq
      at added present entries
  generalize (qm.cq.workQueue.alloc workunit).2 = work at present
  have accepted := @Workunit.setState_accepted (wq.work work) workStatCheckout "internal processing"
      (by decide)
  refine ⟨(wq.setState work workStatCheckout "internal processing").1, work, ?_, ?_⟩
  · refine Prod.ext rfl ?_
    exact accepted.2
  · have kept := @WorkQueue.Stored.modify wq work
      (fun workunit => (workunit.setState workStatCheckout "internal processing").1) added
      (Workunit.setState_ident ..)
    refine ⟨kept, present, ?_, entries⟩
    unfold WorkQueue.setState
    rw [WorkQueue.modify_work_self]
    exact accepted.1

/-- The notice that stands for the result of the step. -/
def standInNotice (ident : TaskUniqueIdentifier) (step : WorkflowStep) : Notice where
  id := ⟨ident, 0⟩
  workerID := "_internal"
  results := some (step.out.map fun outputID => (outputID, .array []))
  status := workStatDone
  computeTime := 0

theorem Enqueued.scatterEmpty (enqueued : Enqueued qm jobid parentID ptr step) (env : Environment)
    (job : Job) :
    (env.prepareCWL qm.store (qm.store.task ptr) = none ∧ Exists fun wq => Exists fun work =>
      qm.scatterEmpty env jobid job step (.task ptr) =
          .ok (withQueue qm wq, some (standInNotice (qm.store.task ptr).ident step), none) ∧
        Marked wq (qm.store.task ptr).ident work) ∨
    (env.prepareCWL qm.store (qm.store.task ptr) ≠ none ∧ Exists fun err =>
      qm.scatterEmpty env jobid job step (.task ptr) = .ok (qm, none, some err)) := by
  unfold ServerMgr.scatterEmpty
  dsimp only
  rw [enqueued.newWorkunit]
  cases env.prepareCWL qm.store (qm.store.task ptr) with
  | some err => exact Or.inr ⟨(fun absent => nomatch absent), _, rfl⟩
  | none =>
      rcases enqueued.addInternalWorkunit with ⟨wq, work, added, marked⟩
      refine Or.inl ⟨rfl, wq, work, ?_, marked⟩
      dsimp only
      rw [added]
      rfl

end

/-! ## Handling the notice -/

section

variable {qm : ServerMgr} {jobid parentID : String} {ptr : Nat} {step : WorkflowStep}

/-- The task can be completed, whatever was written to its other fields. -/
theorem Enqueued.completing (enqueued : Enqueued qm jobid parentID ptr step) {store : Store}
    (jobs : store.jobs = qm.store.jobs) {cq : CQMgr}
    (task : Exists fun remainWork => Exists fun computeTime => Exists fun stepOutput =>
    store.task ptr =
      { qm.store.task ptr with remainWork, computeTime, stepOutput }) :
    Exists fun wi => Scatter.Completing { qm with cq, store } jobid parentID ptr wi := by
  rcases Option.isSome_iff_exists.mp enqueued.found with ⟨wi, found⟩
  rcases task with ⟨remainWork, computeTime, stepOutput, same⟩
  refine ⟨wi, ?_, ?_, ?_, ?_, ?_, ?_⟩
  · dsimp only
    rw [same]
    exact enqueued.opened
  · dsimp only
    rw [same]
    exact enqueued.job
  · dsimp only
    rw [same]
    dsimp only
    unfold TaskUniqueIdentifier.string
    rw [if_neg enqueued.named, if_neg (by rw [enqueued.job]; exact enqueued.jobNamed)]
  · dsimp only
    rw [same]
    exact enqueued.owner
  · dsimp only
    rw [same]
    refine ⟨?_, enqueued.ownerUUID⟩
    dsimp only
    rw [enqueued.job]
    exact enqueued.jobNamed
  · unfold Store.instanceOf at found ⊢
    dsimp only
    rw [jobs]
    exact found

/-- The last workunit of the task is reported: the task is completed, whatever
becomes of the instance around it. -/
theorem Enqueued.handleLastWorkunit (enqueued : Enqueued qm jobid parentID ptr step)
    {env : Environment}
    (valid : forall task, task.ident = (qm.store.task ptr).ident -> env.validateOutputs task = none)
    {store : Store} (jobs : store.jobs = qm.store.jobs) {cq : CQMgr}
    (task : Exists fun remainWork => Exists fun computeTime => store.task ptr =
      { qm.store.task ptr with remainWork, computeTime })
    {notice : Notice} (sent : notice.results.isSome) :
    Exists fun final => Exists fun err =>
      ServerMgr.handleLastWorkunit env { qm with cq, store } ptr notice = .ok (final, err) ∧
        (final.store.task ptr).state = .completed := by
  rcases task with ⟨remainWork, computeTime, same⟩
  rcases Option.isSome_iff_exists.mp sent with ⟨results, isSent⟩
  have passes : env.validateOutputs (store.task ptr) = none := valid _ (by rw [same])
  have workflowStep : (store.task ptr).workflowStep = some step := by
    rw [same]
    exact enqueued.workflowStep
  have owner : (store.task ptr).workflowInstanceID = parentID := by
    rw [same]
    exact enqueued.owner
  obtain ⟨written, isWritten⟩ : Exists fun written => written = store.modifyTask ptr fun task =>
      { task with stepOutput := some (stepOutputs step.out results) } := ⟨_, rfl⟩
  have writtenTask : written.task ptr = { qm.store.task ptr with
      remainWork, computeTime, stepOutput := some (stepOutputs step.out results) } := by
    rw [isWritten, Store.modifyTask_self, same]
  have writtenJobs : written.jobs = qm.store.jobs := by
    rw [isWritten]
    exact jobs
  obtain ⟨wi, completing⟩ :=
      @Enqueued.completing qm jobid parentID ptr step enqueued written writtenJobs cq
    ⟨_, _, _, writtenTask⟩
  have alone : (written.task ptr).scatterParent = none := by
    rw [writtenTask]
    exact enqueued.outermost
  obtain ⟨final, err, closes, tasks, _⟩ :=
      Scatter.closeBehindTask_returns env.collect completing.instanceOf
  have completes := @Scatter.taskCompleted_single { qm with cq, store := written } jobid parentID
      ptr wi env.collect
    written.nextTask completing alone
  have done : (final.store.task ptr).state = .completed := by
    rw [tasks, Scatter.closed_task, Function.update_self]
  have looked : Exists fun known => written.getWorkflowInstance (store.task ptr) = .ok known := by
    rcases written.getWorkflowInstance_cases (store.task ptr) with ⟨known, _, answer⟩ | ⟨missing, _⟩
    · exact ⟨known, answer⟩
    · have here := completing.found
      rw [show (store.task ptr).ident.jobId = jobid by rw [same]; exact enqueued.job, owner]
          at missing
      rw [missing] at here
      cases here
  rcases looked with ⟨known, looked⟩
  unfold ServerMgr.handleLastWorkunit
  dsimp only
  rw [passes, workflowStep]
  dsimp only
  rw [isSent]
  dsimp only
  rw [← isWritten, looked]
  dsimp only
  rw [owner, completes, closes]
  cases err with
  | none => exact ⟨final, _, rfl, done⟩
  | some text => exact ⟨final, _, rfl, done⟩

/-- No other workunit of the task is in the queue. -/
theorem countOthers_alone {wq : WorkQueue} {ident : TaskUniqueIdentifier} (stored : wq.Stored)
    (alone : forall id other, wq.all.lookup id = some other -> id.toTaskUniqueIdentifier = ident ->
    id.rank = 0) :
    ServerMgr.countOthers wq ⟨ident, 0⟩ = 0 := by
  unfold ServerMgr.countOthers
  rw [List.countP_eq_zero]
  intro other member counted
  rcases GoMap.mem_values.mp member with ⟨id, found⟩
  rcases of_decide_eq_true counted with ⟨same, different⟩
  rw [stored.named found] at same different
  exact different (alone id other found same)

/-- The workunit is counted off, and it was the last one. -/
theorem Enqueued.handleWorkStatDone (enqueued : Enqueued qm jobid parentID ptr step)
    {env : Environment}
    (valid : forall task, task.ident = (qm.store.task ptr).ident -> env.validateOutputs task = none)
    {wq : WorkQueue} (others : ServerMgr.countOthers wq ⟨(qm.store.task ptr).ident, 0⟩ = 0) :
    Exists fun final => Exists fun err =>
      ServerMgr.handleWorkStatDone env (withQueue qm wq) none ptr ⟨(qm.store.task ptr).ident, 0⟩
          (standInNotice (qm.store.task ptr).ident step) = .ok (final, err) ∧
        (final.store.task ptr).state = .completed := by
  have printable := enqueued.printable 0
  unfold WorkunitUniqueIdentifier.Printable at printable
  have taskPrintable : (qm.store.task ptr).ident.string.2 = none := printable
  have left : (qm.store.task ptr).remainWork + -1 = 0 := by
    rw [enqueued.remainWork]
    rfl
  obtain ⟨store, isStore⟩ : Exists fun store : Store => store =
      (qm.store.modifyTask ptr fun task => { task with remainWork := 0 }).modifyTask ptr fun task =>
        { task with computeTime := task.computeTime + 0 } := ⟨_, rfl⟩
  have task : store.task ptr = { qm.store.task ptr with
      remainWork := 0, computeTime := (qm.store.task ptr).computeTime + 0 } := by
    rw [isStore, Store.modifyTask_self, Store.modifyTask_self]
  obtain ⟨final, err, handled, done⟩ :=
      @Enqueued.handleLastWorkunit qm jobid parentID ptr step enqueued env valid
    store (by rw [isStore]; rfl) { qm.cq with workQueue := wq } ⟨_, _, task⟩
        (standInNotice (qm.store.task ptr).ident step) rfl
  have counted : Exists fun err => ServerMgr.countOff env (withQueue qm wq) none ptr
      ⟨(qm.store.task ptr).ident, 0⟩
      (standInNotice (qm.store.task ptr).ident step) = .ok (final, err) := by
    unfold ServerMgr.countOff withQueue
    dsimp only
    rw [left, if_neg (Int.lt_irrefl 0), others, if_neg (fun different => different rfl), if_pos rfl]
    rw [show (standInNotice (qm.store.task ptr).ident step).computeTime = 0 from rfl,
        ← isStore, handled]
    cases err with
    | none => exact ⟨_, rfl⟩
    | some text => exact ⟨_, rfl⟩
  rcases counted with ⟨counterr, counted⟩
  refine ⟨final.deleteWork ⟨(qm.store.task ptr).ident, 0⟩, counterr, ?_, done⟩
  unfold ServerMgr.handleWorkStatDone
  rw [printable, show ((withQueue qm wq).store.task ptr).ident.string.2 = none from taskPrintable]
  dsimp only
  rw [counted]

/-- The notice passes every check on its way. -/
theorem Enqueued.handled (enqueued : Enqueued qm jobid parentID ptr step) {env : Environment}
    (valid : forall task, task.ident = (qm.store.task ptr).ident -> env.validateOutputs task = none)
    {wq : WorkQueue} {work : Nat} (marked : Marked wq (qm.store.task ptr).ident work) :
    Exists fun final => Exists fun err =>
      (withQueue qm wq).handleNoticeWorkDelivered env
          (standInNotice (qm.store.task ptr).ident step) =
          .ok (final, err) ∧
        (final.store.task ptr).state = .completed := by
  have printable := enqueued.printable 0
  unfold WorkunitUniqueIdentifier.Printable at printable
  obtain ⟨notice, isNotice⟩ : Exists fun notice => notice = standInNotice (qm.store.task ptr).ident
      step := ⟨_, rfl⟩
  have id : notice.id = ⟨(qm.store.task ptr).ident, 0⟩ := by rw [isNotice]; rfl
  have status : notice.status = workStatDone := by rw [isNotice]; rfl
  have moved : wq.moveTo (wq.work work).ident work workStatDone "" =
      ((wq.moveTo (wq.work work).ident work workStatDone "").1, none) := by
    rw [WorkQueue.moveTo_eq, if_neg (by rw [marked.state]; decide), if_neg (by decide)]
  have alone : ServerMgr.countOthers (wq.moveTo (wq.work work).ident work workStatDone "").1
      ⟨(qm.store.task ptr).ident, 0⟩ = 0 := by
    refine countOthers_alone (marked.stored.moveTo ..) fun id other found => ?_
    rw [WorkQueue.moveTo_all] at found
    exact marked.alone id other found
  rcases enqueued.handleWorkStatDone valid alone with ⟨final, err, handled, done⟩
  have changed : (withQueue qm wq).changeStatus work workStatDone "" =
      (withQueue qm (wq.moveTo (wq.work work).ident work workStatDone "").1, none) := by
    unfold ServerMgr.changeStatus WorkQueue.statusChange withQueue
    dsimp only
    rw [moved]
  have delivered : Exists fun err => (withQueue qm wq).deliver env none notice = .ok
      (final, err) := by
    rcases Option.isSome_iff_exists.mp enqueued.info with ⟨info, hasInfo⟩
    unfold ServerMgr.deliver
    dsimp only
    rw [id, status, show (withQueue qm wq).taskMap.lookup (qm.store.task ptr).ident =
        some ptr from enqueued.mapped]
    dsimp only
    rw [show (withQueue qm wq).cq.workQueue.all.lookup ⟨(qm.store.task ptr).ident, 0⟩ =
        some work from marked.found]
    dsimp only
    rw [show ((withQueue qm wq).cq.workQueue.work work).state = workStatCheckout from marked.state,
      if_neg (by decide), if_neg (show workStatDone ≠ workStatSuspend by decide), changed]
    dsimp only
    rw [show ((withQueue qm (wq.moveTo (wq.work work).ident work workStatDone "").1).store.task
        ptr).info = some info
      from hasInfo]
    dsimp only
    rw [if_neg (show ((withQueue qm
        (wq.moveTo (wq.work work).ident work workStatDone "").1).store.task ptr).state ≠
      .skipped from enqueued.unskipped)]
    unfold ServerMgr.handleStatus
    rw [if_pos status, id, isNotice, handled]
    cases err with
    | none => exact ⟨_, rfl⟩
    | some text => exact ⟨_, rfl⟩
  rcases delivered with ⟨text, delivered⟩
  refine ⟨final, text, ?_, done⟩
  rw [← isNotice]
  unfold ServerMgr.handleNoticeWorkDelivered
  rw [id, printable, status, if_neg (by decide), if_pos (by rw [isNotice]; rfl)]
  exact delivered

end

/-! ## The whole call -/

namespace EmptyCall

variable {call : EmptyCall}

/-- The scattered names belong to inputs, so there are scattered inputs. -/
theorem Sound.scattersInputs (sound : call.Sound) :
    ¬(templateScatterStepIns call.step).entries.isEmpty = true := by
  rcases List.exists_cons_of_ne_nil sound.scatters with ⟨name, rest, listed⟩
  have member : base name ∈ call.step.scatter.map base := by
    rw [listed]
    exact List.mem_cons_self
  rcases (Scatter.scatterArrays_ok sound.read).2 _ member with ⟨input, inputListed, named⟩
  have scattered : input ∈ Scatter.scattered call.step := by
    unfold Scatter.scattered
    refine List.mem_filter.mpr ⟨inputListed, decide_eq_true ?_⟩
    rw [named]
    exact member
  have written : ((templateScatterStepIns call.step).lookup (base input.id)).isSome := by
    rw [Scatter.templateScatterStepIns_eq]
    refine GoMap.isSome_lookup_insertAll ∅ (Or.inl ?_)
    rw [List.map_map]
    exact List.mem_map.mpr ⟨input, scattered, rfl⟩
  intro none
  rw [GoMap.lookup_of_entries_nil (List.isEmpty_iff.mp none)] at written
  cases written

/-- The call gets to the branch for an empty array, unless the suspension fails. -/
theorem Sound.result_eq (sound : call.Sound) :
    call.result =
      match call.stopped with
      | (qm, some err) => .ok (qm, none, some err)
      | (qm, none) => qm.scatterEmpty call.env call.jobid call.job call.step call.process := by
  unfold result ServerMgr.processInstanceEnQueueScatter
  rw [sound.loaded, sound.found]
  dsimp only
  have started : ¬call.parent.inputs.isNone = true := by
    rw [← Option.not_isSome, sound.started]
    exact Bool.false_ne_true
  rw [if_neg started, sound.stepFound]
  dsimp only
  rw [if_neg sound.scatters, sound.read]
  dsimp only
  rw [sound.method]
  dsimp only
  change (match call.stopped with
    | (qm, some err) => _
    | (qm, none) => _) = _
  cases call.stopped with
  | mk after err =>
      cases err with
      | some text => rfl
      | none =>
          dsimp only
          rw [if_neg sound.scattersInputs, if_pos sound.empty]

/-- A suspension leaves the task as the notice needs it. -/
theorem Enqueued.suspended {qm after : ServerMgr} {jobid parentID : String} {ptr : Nat}
    {step : WorkflowStep} (enqueued : Enqueued qm jobid parentID ptr step)
    (task : after.store.task ptr = { qm.store.task ptr with state := .suspend })
    (taskMap : after.taskMap = qm.taskMap)
    (instances : after.store.instanceOf jobid parentID = qm.store.instanceOf jobid parentID)
    (stored : after.cq.workQueue.Stored) (all : after.cq.workQueue.all = qm.cq.workQueue.all) :
    Enqueued after jobid parentID ptr step := by
  refine ⟨enqueued.jobNamed, ?_, ?_, ?_, ?_, ?_, ?_, ?_, ?_, ?_, ?_, ?_, ?_, stored, ?_⟩
  · rw [task]
    exact enqueued.job
  · rw [task]
    exact enqueued.named
  · rw [task]
    exact enqueued.owner
  · rw [task]
    exact enqueued.ownerUUID
  · rw [task]
    exact fun done => nomatch done
  · rw [task]
    exact fun skipped => nomatch skipped
  · rw [task]
    exact enqueued.outermost
  · rw [task]
    exact enqueued.workflowStep
  · rw [task]
    exact enqueued.info
  · rw [task]
    exact enqueued.remainWork
  · rw [taskMap, task]
    exact enqueued.mapped
  · rw [instances]
    exact enqueued.found
  · rw [all, task]
    exact enqueued.unqueued

/-- The suspension for a nested product reports no error, because a CWL job has
no tasks of its own. -/
theorem Sound.stops (sound : call.Sound) {ptr : Nat} (isTask : call.process = .task ptr) :
    Exists fun after => call.stopped = (after, none) ∧
    Enqueued after call.jobid call.parentID ptr call.step ∧
      (after.store.task ptr).ident = (call.qm.store.task ptr).ident := by
  have enqueued := sound.task ptr isTask
  unfold stopped
  by_cases nested : call.method = .nestedCrossproduct
  · rw [if_pos nested, isTask]
    obtain ⟨store, isStore⟩ : Exists fun store =>
        store = (call.qm.store.taskSetState ptr .suspend).1 := ⟨_, rfl⟩
    have written : store.jobs = call.qm.store.jobs ∧
        store.task ptr = { call.qm.store.task ptr with state := .suspend } := by
      have writable : Store.Writable (call.qm.store.task ptr) :=
        ⟨by rw [enqueued.job]; exact enqueued.jobNamed, enqueued.ownerUUID⟩
      rw [isStore]
      by_cases already : (call.qm.store.task ptr).state = .suspend
      · rcases call.qm.store.taskSetState_cases ptr .suspend with ⟨same, _⟩ | ⟨different, _⟩
          | ⟨_, never, _⟩ | ⟨_, never, _⟩
        · rw [same, ← already]
          exact ⟨rfl, rfl⟩
        · exact absurd already different
        · cases never
        · cases never
      · rw [Store.taskSetState_writes writable already (by decide)]
        exact ⟨rfl, call.qm.store.modifyTask_self ptr fun task => { task with state := .suspend }⟩
    have loaded : store.getJob call.jobid = .ok call.job := by
      unfold Store.getJob
      rw [written.1, sound.loaded]
    have queue := ServerMgr.suspendWorkunits_stored enqueued.stored call.jobid workStatSuspend
      call.qm.cq.workQueue.all.values
    have task : (store.jobSetState call.jobid .suspend).task ptr =
        { call.qm.store.task ptr with state := .suspend } := by
      unfold Store.jobSetState
      rw [Store.modifyJob_task, written.2]
    have instances : (store.jobSetState call.jobid .suspend).instanceOf call.jobid call.parentID =
        call.qm.store.instanceOf call.jobid call.parentID := by
      refine (store.instanceOf_modifyJob call.jobid (fun job => { job with state := .suspend })
          (fun _ => rfl)
        _ _).trans ?_
      unfold Store.instanceOf
      rw [written.1]
    unfold ServerMgr.suspendNested ServerMgr.suspendJob
    dsimp only
    rw [← isStore, loaded]
    dsimp only
    rw [sound.tasks]
    have ident : ((store.jobSetState call.jobid .suspend).task ptr).ident =
        (call.qm.store.task ptr).ident := by
      rw [task]
    refine ⟨_, rfl, Enqueued.suspended enqueued task rfl instances ?_ ?_, ident⟩
    · exact queue.1
    · exact queue.2
  · rw [if_neg nested]
    exact ⟨call.qm, rfl, enqueued, rfl⟩

/-- A workflow instance is never completed by this branch. -/
theorem scatterEmpty_instance (env : Environment) (qm : ServerMgr) (jobid : String) (job : Job)
    (step : WorkflowStep) (localID : String) {after : ServerMgr} {notice : Notice} :
    qm.scatterEmpty env jobid job step (.workflowInstance localID) ≠ .ok
        (after, some notice, none) := by
  unfold ServerMgr.scatterEmpty
  dsimp only
  split
  · exact fun returned => nomatch returned
  · split
    · exact fun returned => nomatch returned
    · split
      · exact fun returned => nomatch returned
      · split
        · exact fun returned => nomatch returned
        · split
          · exact fun returned => nomatch returned
          · split
            · exact fun returned => nomatch returned
            · split
              · exact fun returned => nomatch returned
              · exact fun returned => nomatch returned

/-- An empty array completes the step exactly if the step runs a tool and a workunit can be
prepared for its task.  A scattered sub-workflow has no task, and the dummy that is made for it
bears a name that `NewTask` refuses. -/
theorem empty_scatter_completes_iff (sound : call.Sound) : call.Completes ↔ call.Preparable := by
  have result := sound.result_eq
  cases isProcess : call.process with
  | task ptr =>
      rcases sound.stops isProcess with ⟨after, stopped, enqueued, ident⟩
      rw [isProcess, stopped] at result
      have valid (task : Task) (same : task.ident = (after.store.task ptr).ident) :
          call.env.validateOutputs task = none :=
        sound.valid ptr task isProcess (same.trans ident)
      have preparable : call.Preparable ↔
          call.env.prepareCWL after.store (after.store.task ptr) = none := by
        unfold Preparable
        rw [isProcess, stopped]
        constructor
        · rintro ⟨other, same, prepared⟩
          cases same
          exact prepared
        · exact fun prepared => ⟨ptr, rfl, prepared⟩
      rw [preparable]
      rcases enqueued.scatterEmpty call.env call.job with ⟨prepared, wq, work, returned, marked⟩
          | ⟨fails, err, returned⟩
      · refine ⟨fun _ => prepared, fun _ => ?_⟩
        rcases enqueued.handled valid marked with ⟨final, err, handled, done⟩
        refine ⟨_, _, result.trans returned, ⟨work, marked.found, marked.state⟩, rfl, final,
            err, handled, ?_⟩
        unfold Completed
        rw [isProcess]
        exact done
      · refine ⟨?_, fun prepared => absurd prepared fails⟩
        rintro ⟨last, notice, other, _⟩
        rw [result] at other
        cases returned.symm.trans other
  | workflowInstance localID =>
      constructor
      · rintro ⟨last, notice, returned, _⟩
        exfalso
        rw [result, isProcess] at returned
        cases stopped : call.stopped with
        | mk after err =>
            rw [stopped] at returned
            cases err with
            | none => exact scatterEmpty_instance _ _ _ _ _ _ returned
            | some text => cases returned
      · rintro ⟨ptr, same, _⟩
        rw [isProcess] at same
        cases same

private def emptyStep : WorkflowStep where
  id := "#main/s"
  inputs := [⟨"#main/s/x", some (.string "xs"), 0, false⟩]
  out := ["out"]
  run := .commandLineTool
  scatter := ["x"]
  scatterMethod := ""

private def emptyTask : Task :=
  { Task.blank with
    ident := ⟨"#main/s", "j"⟩
    state := .ready
    info := some ⟨1, 0, "", false⟩
    remainWork := 1
    workflowStep := some emptyStep
    workflowInstanceID := "#main"
    workflowInstanceUUID := "u" }

private def emptyParent : WorkflowInstance :=
  { WorkflowInstance.blank with
      uuid := "u", localID := "#main", jobID := "j", inputs := some [], tasks := [0] }

private def emptySub : WorkflowInstance :=
  { WorkflowInstance.blank with
      uuid := "v", localID := "#main/s", jobID := "j", workflowStep := some emptyStep }

private def emptyJob : Job :=
  ⟨"j", .inProgress, true, "#main", ⟨1, 0, "", false⟩, [], 0, ∅,
    AList.insert "#main" emptyParent (AList.insert "#main/s" emptySub ∅)⟩

/-- A job with a scatter step over an empty array, as a task or as an instance. -/
private def emptyCall (process : ProcessInstance) : EmptyCall where
  env :=
    { collect := fun _ _ wi => .ok ([], wi.looked)
      validateOutputs := fun _ => none
      prepareCWL := fun _ _ => none
      maxWorkFailure := 3
      maxClientFailure := 5 }
  lookup _ := .ok (some (.array []))
  spare := 0
  order _ := ["x"]
  uuids _ := "w"
  qm :=
    { ServerMgr.newServerMgr
        { task := fun _ => emptyTask
          nextTask := 1
          jobs := AList.insert "j" emptyJob ∅ } with
      taskMap := AList.insert ⟨"#main/s", "j"⟩ 0 ∅ }
  jobid := "j"
  parentID := "#main"
  process
  job := emptyJob
  parent := emptyParent
  step := emptyStep
  arrays := [[]]
  method := .dotproduct

private theorem emptyCall_sound {process : ProcessInstance}
    (known : process = .task 0 ∨ process = .workflowInstance "#main/s") :
    (emptyCall process).Sound where
  loaded := rfl
  found := rfl
  started := rfl
  stepFound := by
    rcases known with rfl | rfl
    · rfl
    · rfl
  scatters := fun none => nomatch none
  read := rfl
  empty := rfl
  method := rfl
  tasks := rfl
  task ptr isTask := by
    rcases known with rfl | rfl
    · cases isTask
      exact ⟨by decide, rfl, by decide, rfl, by decide, by decide, by
          decide, rfl, rfl, rfl, rfl, rfl, rfl,
        ⟨nofun, nofun, nofun⟩, nofun⟩
    · cases isTask
  valid _ _ _ _ := rfl

theorem empty_scatter_completes_tool :
    (emptyCall (.task 0)).Sound ∧ (emptyCall (.task 0)).Completes :=
  ⟨emptyCall_sound (Or.inl rfl), (empty_scatter_completes_iff (emptyCall_sound (Or.inl rfl))).mpr
      ⟨0, rfl, rfl⟩⟩

/-- For a sub-workflow the made-up task cannot be created: its identifier does
not start with the entrypoint. -/
theorem empty_scatter_fails_workflow :
    (emptyCall (.workflowInstance "#main/s")).Sound ∧
    ¬(emptyCall (.workflowInstance "#main/s")).Completes := by
  refine ⟨emptyCall_sound (Or.inr rfl), ?_⟩
  rintro ⟨after, notice, returned, _⟩
  have silent : ((emptyCall (.workflowInstance "#main/s")).result.toOption.map fun outcome =>
      outcome.2.1.isSome) = some false := by
    decide
  rw [returned] at silent
  cases silent

end EmptyCall

end EmptyScatter

end Core
end Awe
