import Awe.Core.Instances

namespace Awe
namespace Core

open Lib

/-!
# Setting the state of a task

`TaskRaw.SetState` writes to the database, to the task in memory, and, when the
task is completed, to the workflow instance it belongs to.  The writes come one
after the other and each can fail.  The first one is made before anything in
memory changes; what comes after it finds the state changed already, and no
failure takes it back.

The store of the other modules has the state and the counter of the instance
only.  Here the database and the time of completion are there as well, with the
pointer to the job that a task keeps once it has looked it up.  A time is a
number, and the zero time is 0.  Locks are taken without a failure.
-/

namespace TaskState

/-- The fields of a task that `SetState` reads or writes. -/
structure TaskRaw where
  id : String
  jobId : String
  workflowInstanceID : String
  workflowInstanceUUID : String
  state : ProcessState
  completedDate : Nat
  /-- The pointer to the job, if the task has been asked for it. -/
  job : Option Nat
  deriving DecidableEq, Repr

/-- The fields of a workflow instance that `IncrementRemainSteps` uses. -/
structure InstanceCounter where
  id : String
  remainSteps : Int
  deriving DecidableEq, Repr

/-- A task inside a document of the database. -/
structure StoredTask where
  state : ProcessState
  completedDate : Nat
  deriving DecidableEq, Repr

/-- The two collections: tasks are found by the document they are in and their
own identifier, counters by the document. -/
structure Database where
  jobs : GoMap (String × String) StoredTask
  subworkflows : GoMap (String × String) StoredTask
  remainSteps : GoMap String Int

/-- The task, the jobs in memory with their workflow instances, and the database. The job is kept
as a pointer, as in Go: a task that has looked for its job once keeps the pointer, whatever
happens to the map of jobs. -/
structure World where
  task : TaskRaw
  jobMap : GoMap String Nat
  workflowInstancesMap : Nat -> GoMap String InstanceCounter
  nextJob : Nat
  db : Database

/-- The calls to the database that write. Each of them may be refused on its own, and in between
memory is ahead of the database. -/
inductive Call where
  | state
  | remainSteps
  | completedDate
  deriving DecidableEq, Repr

/-- What the database does with the calls of one run of `SetState`. -/
structure Answers where
  refuses : Call -> Err
  /-- `LoadJob`: the workflow instances of the job. -/
  loadJob : String -> Except String (GoMap String InstanceCounter)
  now : Nat

/-- An update of the document that a selector finds. -/
def updateDocument {Key Document : Type} [DecidableEq Key] (refusal : Err)
    (documents : GoMap Key Document) (key : Key) (change : Document -> Document) :
    Except String (GoMap Key Document) :=
  match refusal with
  | some err => .error err
  | none =>
      match documents.lookup key with
      | none => .error "not found"
      | some document => .ok (documents.insert key (change document))

/-- `dbUpdateJobTaskFields`. -/
def dbUpdateJobTaskFields (refusal : Err) (db : Database) (jobID workflowInstanceID taskID : String)
    (change : StoredTask -> StoredTask) : Except String Database :=
  if workflowInstanceID ≠ "" then .error "not supported"
  else
    match updateDocument refusal db.jobs (jobID, taskID) change with
    | .error err =>
        .error ("(dbUpdateJobTaskFields) (db: Jobs, workflowInstanceID: " ++ workflowInstanceID ++
          ") Error updating task " ++ taskID ++ ": " ++ err)
    | .ok jobs => .ok { db with jobs }

/-- `dbUpdateTaskFields`. -/
def dbUpdateTaskFields (refusal : Err) (db : Database) (workflowInstanceUUID taskID : String)
    (change : StoredTask -> StoredTask) : Except String Database :=
  if workflowInstanceUUID = "" then .error "(dbUpdateWITaskFields) workflowInstanceUUID empty ! "
  else if workflowInstanceUUID.utf8ByteSize ≠ 36 then
    .error ("(dbUpdateWITaskFields) workflowInstanceUUID is not length 36: " ++
        workflowInstanceUUID)
  else
    match updateDocument refusal db.subworkflows (workflowInstanceUUID, taskID) change with
    | .error err =>
        .error ("(dbUpdateWITaskFields) (db: SubWorkflows) Error updating task " ++ taskID ++
          " (workflowInstanceUUID: " ++ workflowInstanceUUID ++ "): " ++ err)
    | .ok subworkflows => .ok { db with subworkflows }

/-- `dbUpdateJobTaskString` for the field `state`. -/
def dbUpdateJobTaskString (refusal : Err) (db : Database) (jobID workflowInstanceID taskID : String)
    (value : ProcessState) : Except String Database :=
  (dbUpdateJobTaskFields refusal db jobID workflowInstanceID taskID
      fun stored => { stored with state := value }).mapError fun err =>
    "(dbUpdateJobTaskString) jobID=" ++ jobID ++ ", taskID=" ++ taskID ++
        ", fieldname=state, value=" ++
      value.text ++ " dbUpdateJobTaskFields returned: " ++ err

/-- `dbUpdateTaskString` for the field `state`. -/
def dbUpdateTaskString (refusal : Err) (db : Database) (workflowInstanceID taskID : String)
    (value : ProcessState) : Except String Database :=
  (dbUpdateTaskFields refusal db workflowInstanceID taskID
      fun stored => { stored with state := value }).mapError fun err =>
    "(dbUpdateTaskString) workflowInstanceID=" ++ workflowInstanceID ++ ", taskID=" ++ taskID ++
      ", fieldname=state, value=" ++ value.text ++ " dbUpdateTaskFields returned: " ++ err

/-- `dbUpdateJobTaskTime` for the field `completedDate`. -/
def dbUpdateJobTaskTime (refusal : Err) (db : Database) (jobID workflowInstanceID taskID : String)
    (value : Nat) : Except String Database :=
  (dbUpdateJobTaskFields refusal db jobID workflowInstanceID taskID
      fun stored => { stored with completedDate := value }).mapError fun err =>
    "(dbUpdateJobTaskTime) (fieldname completedDate) dbUpdateJobTaskFields returned: " ++ err

/-- `dbUpdateTaskTime` for the field `completedDate`. -/
def dbUpdateTaskTime (refusal : Err) (db : Database) (workflowInstanceID taskID : String)
    (value : Nat) : Except String Database :=
  (dbUpdateTaskFields refusal db workflowInstanceID taskID
      fun stored => { stored with completedDate := value }).mapError fun err =>
    "(dbUpdateTaskTime) dbUpdateTaskFields returned: " ++ err

/-- `dbIncrementWorkflowInstancesField` for the field `remainsteps`. -/
def dbIncrementWorkflowInstancesField (refusal : Err) (db : Database)
    (subworkflowIdentifier : String) (value : Int) : Except String Database :=
  match updateDocument refusal db.remainSteps subworkflowIdentifier (· + value) with
  | .error err =>
      .error ("(dbIncrementWorkflow_instancesField) Error updating workflow_instance " ++
          subworkflowIdentifier ++
        "  (field remainsteps, value: " ++ toString value ++ "): " ++ err)
  | .ok remainSteps => .ok { db with remainSteps }

namespace World

/-- `SetCompletedDate`. -/
def setCompletedDate (answers : Answers) (world : World) (t : Nat) : Except String World :=
  let task := world.task
  if task.workflowInstanceID = "" then
    match dbUpdateJobTaskTime (answers.refuses .completedDate) world.db task.jobId
        task.workflowInstanceID
        task.id t with
    | .error err => .error ("(task/SetCompletedDate) dbUpdateJobTaskTime returned: " ++ err)
    | .ok db => .ok { world with db, task := { task with completedDate := t } }
  else
    match dbUpdateTaskTime (answers.refuses .completedDate) world.db task.workflowInstanceUUID
        task.id t with
    | .error err => .error ("(task/SetCompletedDate) dbUpdateTaskTime returned: " ++ err)
    | .ok db => .ok { world with db, task := { task with completedDate := t } }

/-- `TaskRaw.GetJob`: the job the task knows, the one in the job map, or the
one that is loaded for it. -/
def getJob (answers : Answers) (world : World) : Except String (World × Nat) :=
  match world.task.job with
  | some job => .ok (world, job)
  | none =>
      match world.jobMap.lookup world.task.jobId with
      | some job => .ok ({ world with task := { world.task with job := some job } }, job)
      | none =>
          match answers.loadJob world.task.jobId with
          | .error err =>
              .error ("(TaskRaw/GetJob) global GetJob returned: (GetJob) LoadJob failed: " ++ err)
          | .ok instances =>
              .ok ({ world with
                task := { world.task with job := some world.nextJob }
                jobMap := world.jobMap.insert world.task.jobId world.nextJob
                workflowInstancesMap :=
                    Function.update world.workflowInstancesMap world.nextJob instances
                nextJob := world.nextJob + 1 }, world.nextJob)

/-- `TaskRaw.GetWorkflowInstance`.  The job stays known if it has no such instance. -/
def getWorkflowInstance (answers : Answers) (world : World) :
    World × Except String (Nat × InstanceCounter) :=
  match world.getJob answers with
  | .error err => (world, .error ("(GetWorkflowInstance) task.GetJob returned: " ++ err))
  | .ok (world, job) =>
      match (world.workflowInstancesMap job).lookup world.task.workflowInstanceID with
      | none =>
          (world, .error ("(GetWorkflowInstance) job.GetWorkflowInstance did not find: " ++
            world.task.workflowInstanceID))
      | some wi => (world, .ok (job, wi))

/-- `IncrementRemainSteps` of an instance of a job. -/
def incrementRemainSteps (answers : Answers) (world : World) (job : Nat) (localID : String)
    (wi : InstanceCounter) (amount : Int) : Except String World :=
  match dbIncrementWorkflowInstancesField (answers.refuses .remainSteps) world.db wi.id amount with
  | .error err =>
      .error ("(WorkflowInstance/IncrementRemainSteps)  dbIncrementWorkflowInstancesField() returned: " ++ err)
  | .ok db =>
      .ok { world with
        db
        workflowInstancesMap := Function.update world.workflowInstancesMap job
          (AList.insert localID { wi with remainSteps := wi.remainSteps + amount }
              (world.workflowInstancesMap job)) }

/-- The write of the new state to the database. -/
def storeState (answers : Answers) (world : World) (newState : ProcessState) :
    Except String Database :=
  let task := world.task
  if task.workflowInstanceID = "" then
    (dbUpdateJobTaskString (answers.refuses .state) world.db task.jobId
        task.workflowInstanceID task.id
        newState).mapError fun err =>
      "(TaskRaw/SetState) dbUpdateJobTaskString returned: " ++ err
  else if task.workflowInstanceUUID = "" then
    .error "(TaskRaw/SetState) task.WorkflowInstanceUUID is empty"
  else
    (dbUpdateTaskString (answers.refuses .state) world.db task.workflowInstanceUUID task.id
        newState).mapError fun err =>
      "(TaskRaw/SetState) dbUpdateTaskString returned: " ++ err

/-- What follows a change to completed.  A task without a workflow instance is
asked for it as well. -/
def complete (answers : Answers) (world : World) : World × Err :=
  match world.getWorkflowInstance answers with
  | (world, .error err) =>
      (world, some ("(TaskRaw/SetState) GetWorkflowInstance returned: " ++ err))
  | (world, .ok (job, wi)) =>
      match world.incrementRemainSteps answers job world.task.workflowInstanceID wi (-1) with
      | .error err => (world, some ("(TaskRaw/SetState) wi.DecreaseRemainSteps returned: " ++ err))
      | .ok world =>
          match world.setCompletedDate answers answers.now with
          | .error err => (world,
              some ("(TaskRaw/SetState) task.SetCompletedDate returned: " ++ err))
          | .ok world => (world, none)

/-- What follows a change away from completed. -/
def reopen (answers : Answers) (world : World) : World × Err :=
  match world.setCompletedDate answers 0 with
  | .error err => (world, some ("(TaskRaw/SetState) SetCompletedDate returned: " ++ err))
  | .ok world => (world, none)

/-- `TaskRaw.SetState`. -/
def setState (answers : Answers) (world : World) (newState : ProcessState) : World × Err :=
  let oldState := world.task.state
  if world.task.jobId = "" then (world, some ("task " ++ world.task.id ++ " has no job id"))
  else if oldState = newState then (world, none)
  else
    match world.storeState answers newState with
    | .error err => (world, some err)
    | .ok db =>
        let world := { world with db, task := { world.task with state := newState } }
        if newState = .completed then world.complete answers
        else if oldState = .completed then world.reopen answers
        else (world, none)

end World

/-! ## Each call succeeds or fails as a whole -/

/-- The document of a task in the database. -/
def storedIn (task : TaskRaw) (db : Database) : Option StoredTask :=
  if task.workflowInstanceID = "" then db.jobs.lookup (task.jobId, task.id)
  else db.subworkflows.lookup (task.workflowInstanceUUID, task.id)

/-- The database accepts a write to the task: the call is not refused, there is
a document for it, and it can be addressed. -/
def Accepts (refusal : Err) (task : TaskRaw) (db : Database) : Prop :=
  refusal = none ∧ (storedIn task db).isSome ∧
    (task.workflowInstanceID ≠ "" -> task.workflowInstanceUUID.utf8ByteSize = 36)

/-- The database after an accepted write to the task. -/
structure Wrote (task : TaskRaw) (before : Database) (change : StoredTask -> StoredTask)
    (after : Database) :
    Prop where
  stored : Exists fun old => storedIn task before = some old ∧
      storedIn task after = some (change old)
  remainSteps : after.remainSteps = before.remainSteps

/-- A call that writes to the task succeeds exactly if the database accepts it. -/
def Follows (refusal : Err) (task : TaskRaw) (before : Database)
    (change : StoredTask -> StoredTask) :
    Except String Database -> Prop
  | .ok after => Accepts refusal task before ∧ Wrote task before change after
  | .error _ => ¬Accepts refusal task before

section

variable {refusal : Err} {task : TaskRaw} {db : Database} {change : StoredTask -> StoredTask}

theorem updateDocument_cases {Key Document : Type} [DecidableEq Key] (refusal : Err)
    (documents : GoMap Key Document) (key : Key) (change : Document -> Document) :
    (Exists fun old => refusal = none ∧ documents.lookup key = some old ∧
      updateDocument refusal documents key change = .ok (AList.insert key (change old) documents)) ∨
    (Exists fun err => (refusal = none -> documents.lookup key = none) ∧
      updateDocument refusal documents key change = .error err) := by
  unfold updateDocument
  cases refusal with
  | some err => exact Or.inr ⟨err, fun impossible => (nomatch impossible), rfl⟩
  | none =>
      cases found : documents.lookup key with
      | none => exact Or.inr ⟨_, fun _ => rfl, rfl⟩
      | some old => exact Or.inl ⟨old, rfl, rfl, rfl⟩

theorem follows_dbUpdateJobTaskFields (oldStyle : task.workflowInstanceID = "") :
    Follows refusal task db change
      (dbUpdateJobTaskFields refusal db task.jobId task.workflowInstanceID task.id change) := by
  unfold dbUpdateJobTaskFields
  rw [if_neg (fun cwl => cwl oldStyle)]
  have stored (db : Database) : storedIn task db = db.jobs.lookup (task.jobId, task.id) :=
      if_pos oldStyle
  rcases updateDocument_cases refusal db.jobs (task.jobId, task.id) change with
    ⟨old, allowed, found, written⟩ | ⟨err, missing, failed⟩
  · rw [written]
    refine ⟨⟨allowed, ?_, fun cwl => absurd oldStyle cwl⟩, ⟨old, ?_, ?_⟩, rfl⟩
    · rw [stored, found]
      rfl
    · rw [stored, found]
    · rw [stored]
      exact AList.lookup_insert _
  · rw [failed]
    rintro ⟨allowed, present, _⟩
    rw [stored, missing allowed] at present
    cases present

theorem follows_dbUpdateTaskFields (cwl : task.workflowInstanceID ≠ "") :
    Follows refusal task db change
      (dbUpdateTaskFields refusal db task.workflowInstanceUUID task.id change) := by
  unfold dbUpdateTaskFields
  have stored (db : Database) :
      storedIn task db = db.subworkflows.lookup (task.workflowInstanceUUID, task.id) := if_neg cwl
  split
  · next empty =>
      rintro ⟨_, _, length⟩
      have size := length cwl
      rw [empty] at size
      cases size
  · split
    · next wrong => exact fun accepts => wrong (accepts.2.2 cwl)
    · next right =>
        rcases updateDocument_cases refusal db.subworkflows
            (task.workflowInstanceUUID, task.id) change with
          ⟨old, allowed, found, written⟩ | ⟨err, missing, failed⟩
        · rw [written]
          refine ⟨⟨allowed, ?_, fun _ => Decidable.not_not.mp right⟩, ⟨old, ?_, ?_⟩, rfl⟩
          · rw [stored, found]
            rfl
          · rw [stored, found]
          · rw [stored]
            exact AList.lookup_insert _
        · rw [failed]
          rintro ⟨allowed, present, _⟩
          rw [stored, missing allowed] at present
          cases present

/-- The texts that the callers put before an error do not matter. -/
theorem Follows.wrap {result : Except String Database}
    (follows : Follows refusal task db change result) (text : String -> String) :
    Follows refusal task db change (result.mapError text) := by
  cases result with
  | error err => exact follows
  | ok after => exact follows

theorem follows_storeState (answers : Answers) (world : World) (newState : ProcessState) :
    Follows (answers.refuses .state) world.task world.db
        (fun stored => { stored with state := newState })
      (world.storeState answers newState) := by
  unfold World.storeState
  dsimp only
  split
  · next oldStyle => exact ((follows_dbUpdateJobTaskFields oldStyle).wrap _).wrap _
  · next cwl =>
      split
      · next empty =>
          rintro ⟨_, _, length⟩
          have size := length cwl
          rw [empty] at size
          cases size
      · exact ((follows_dbUpdateTaskFields cwl).wrap _).wrap _

end

/-! ## What the calls leave -/

namespace World

variable (answers : Answers) (world : World)

theorem setCompletedDate_cases (t : Nat) :
    (Accepts (answers.refuses .completedDate) world.task world.db ∧ Exists fun db =>
      Wrote world.task world.db (fun stored => { stored with completedDate := t }) db ∧
      world.setCompletedDate answers t =
        .ok { world with db, task := { world.task with completedDate := t } }) ∨
    (¬Accepts (answers.refuses .completedDate) world.task world.db ∧ Exists fun err =>
      world.setCompletedDate answers t = .error err) := by
  unfold setCompletedDate
  dsimp only
  split
  · next oldStyle =>
      have follows : Follows (answers.refuses .completedDate) world.task world.db
          (fun stored => { stored with completedDate := t })
              (dbUpdateJobTaskTime (answers.refuses .completedDate)
            world.db world.task.jobId world.task.workflowInstanceID world.task.id t) :=
        (follows_dbUpdateJobTaskFields oldStyle).wrap _
      split
      · next failed =>
          rw [failed] at follows
          exact Or.inr ⟨follows, _, rfl⟩
      · next db written =>
          rw [written] at follows
          exact Or.inl ⟨follows.1, db, follows.2, rfl⟩
  · next cwl =>
      have follows : Follows (answers.refuses .completedDate) world.task world.db
          (fun stored => { stored with completedDate := t })
              (dbUpdateTaskTime (answers.refuses .completedDate)
            world.db world.task.workflowInstanceUUID world.task.id t) :=
        (follows_dbUpdateTaskFields cwl).wrap _
      split
      · next failed =>
          rw [failed] at follows
          exact Or.inr ⟨follows, _, rfl⟩
      · next db written =>
          rw [written] at follows
          exact Or.inl ⟨follows.1, db, follows.2, rfl⟩

/-- The workflow instances of the job of the task: of the job that the task
knows, of the one in the job map, or of the one that can be loaded. -/
def knownInstances : Option (GoMap String InstanceCounter) :=
  match world.task.job with
  | some job => some (world.workflowInstancesMap job)
  | none =>
      match world.jobMap.lookup world.task.jobId with
      | some job => some (world.workflowInstancesMap job)
      | none => (answers.loadJob world.task.jobId).toOption

/-- The workflow instance of the task, as `GetWorkflowInstance` finds it. -/
def instanceOf : Option InstanceCounter :=
  (world.knownInstances answers).bind fun instances =>
      instances.lookup world.task.workflowInstanceID

/-- Looking for the job changes nothing but the pointers to it. -/
structure SameBut (before after : World) : Prop where
  task : { after.task with job := before.task.job } = before.task
  db : after.db = before.db

theorem getWorkflowInstance_cases :
    (Exists fun after => Exists fun job => Exists fun wi => SameBut world after ∧
      world.instanceOf answers = some wi ∧ after.task.job = some job ∧
      (after.workflowInstancesMap job).lookup world.task.workflowInstanceID = some wi ∧
      world.getWorkflowInstance answers = (after, .ok (job, wi))) ∨
    (Exists fun after => Exists fun err => SameBut world after ∧ world.instanceOf answers = none ∧
      after.instanceOf answers = none ∧
      world.getWorkflowInstance answers = (after, .error err)) := by
  unfold getWorkflowInstance instanceOf
  -- The job is found with its instances, or there is none.
  have found : (Exists fun after => Exists fun job => SameBut world after ∧
      after.task.job = some job ∧
        after.task.workflowInstanceID = world.task.workflowInstanceID ∧
        world.knownInstances answers = some (after.workflowInstancesMap job) ∧
        world.getJob answers = .ok (after, job)) ∨
      (world.knownInstances answers = none ∧ Exists fun err =>
          world.getJob answers = .error err) := by
    unfold getJob knownInstances
    cases known : world.task.job with
    | some job => exact Or.inl ⟨world, job, ⟨rfl, rfl⟩, known, rfl, rfl, rfl⟩
    | none =>
        dsimp only
        cases mapped : world.jobMap.lookup world.task.jobId with
        | some job =>
            refine Or.inl ⟨{ world with task := { world.task with job := some job } }, job,
                ⟨?_, rfl⟩, rfl, rfl,
              rfl, rfl⟩
            rw [known, ← known]
        | none =>
            dsimp only
            cases loaded : answers.loadJob world.task.jobId with
            | error err => exact Or.inr ⟨rfl, _, rfl⟩
            | ok instances =>
                refine Or.inl ⟨{ world with
                  task := { world.task with job := some world.nextJob }
                  jobMap := world.jobMap.insert world.task.jobId world.nextJob
                  workflowInstancesMap :=
                      Function.update world.workflowInstancesMap world.nextJob instances
                  nextJob := world.nextJob + 1 }, world.nextJob, ⟨?_, rfl⟩, rfl, rfl, ?_, rfl⟩
                · rw [known, ← known]
                · dsimp only
                  rw [Function.update_self]
                  rfl
  rcases found with ⟨after, job, same, isJob, sameID, known, got⟩ | ⟨unknown, err, got⟩
  · rw [got, known]
    dsimp only [Option.bind_some]
    rw [sameID]
    cases inside : (after.workflowInstancesMap job).lookup world.task.workflowInstanceID with
    | none =>
        refine Or.inr ⟨after, _, same, rfl, ?_, rfl⟩
        unfold knownInstances
        rw [isJob, sameID]
        exact inside
    | some wi => exact Or.inl ⟨after, job, wi, same, rfl, isJob, inside, rfl⟩
  · rw [got, unknown]
    exact Or.inr ⟨world, _, ⟨rfl, rfl⟩, rfl, by rw [unknown]; rfl, rfl⟩

end World

namespace World

variable (answers : Answers) (before : World) (newState : ProcessState)

/-- Everything that goes with a change of state has been written. It has a part for each thing
that `SetState` promises in its comment. -/
structure Updated (after : World) : Prop where
  state : after.task.state = newState
  stored : (storedIn before.task after.db).map StoredTask.state = some newState
  completedDate : after.task.completedDate =
    if newState = .completed then answers.now
    else if before.task.state = .completed then 0
    else before.task.completedDate
  storedDate : newState = .completed ∨ before.task.state = .completed ->
    (storedIn before.task after.db).map StoredTask.completedDate = some after.task.completedDate
  /-- The instance of a CWL task has one step less, in memory and in the database. -/
  remainSteps : newState = .completed -> before.task.workflowInstanceID ≠ "" -> Exists fun wi =>
    before.instanceOf answers = some wi ∧
    (Exists fun job => after.task.job = some job ∧
      (after.workflowInstancesMap job).lookup before.task.workflowInstanceID =
        some { wi with remainSteps := wi.remainSteps - 1 }) ∧
    (Exists fun count => before.db.remainSteps.lookup wi.id = some count ∧
      after.db.remainSteps.lookup wi.id = some (count - 1))

/-- Nothing in memory has changed. A failed change may be tried again. -/
structure Undone (after : World) : Prop where
  state : after.task.state = before.task.state
  completedDate : after.task.completedDate = before.task.completedDate
  remainSteps : forall job, job < before.nextJob ->
    after.workflowInstancesMap job = before.workflowInstancesMap job

/-- An old-style task of a job in memory, for which the database accepts every write. These are
the circumstances in which nothing outside the function can make it fail. -/
structure Undisturbed : Prop where
  oldStyle : before.task.workflowInstanceID = ""
  named : before.task.jobId ≠ ""
  loaded : before.task.job.isSome ∨ (before.jobMap.lookup before.task.jobId).isSome
  allowed : forall call, answers.refuses call = none
  stored : (storedIn before.task before.db).isSome

/-- `SetState` writes everything or nothing, and it does not fail by itself for an old-style task.
Callers test the error and go on as if nothing had been written if there is one. -/
structure Atomic : Prop where
  updated : (before.setState answers newState).2 = none -> before.task.state ≠ newState ->
    before.Updated answers newState (before.setState answers newState).1
  unchanged : (before.setState answers newState).2 = none -> before.task.state = newState ->
    (before.setState answers newState).1 = before
  undone : (before.setState answers newState).2 ≠ none ->
      before.Undone (before.setState answers newState).1
  oldStyle : before.Undisturbed answers -> (before.setState answers newState).2 = none

/-- What a change to completed needs once the state is written: the workflow
instance is there, also for an old-style task, and both further writes are
accepted. -/
def Completes : Prop :=
  Accepts (answers.refuses .completedDate) before.task before.db ∧
      answers.refuses .remainSteps = none ∧
    Exists fun wi => before.instanceOf answers = some wi ∧
        (before.db.remainSteps.lookup wi.id).isSome

/-- The change is refused before anything is written, or none of the later calls fails. It names
the calls that come behind the first write, and asks of each that the database takes it; of the
writes before that nothing is asked. -/
def Settled : Prop :=
  before.task.jobId = "" ∨ before.task.state = newState ∨
    ¬Accepts (answers.refuses .state) before.task before.db ∨
    ((newState = .completed -> before.Completes answers) ∧
      (newState ≠ .completed -> before.task.state = .completed ->
      answers.refuses .completedDate = none))

end World

/-! ## The outcomes of one call -/

section

variable {refusal : Err} {task : TaskRaw} {db : Database}

theorem accepts_after {change : StoredTask -> StoredTask} {after : Database} {earlier : Err}
    (accepts : Accepts earlier task db) (wrote : Wrote task db change after) :
    Accepts refusal task after ↔ refusal = none := by
  rcases wrote.stored with ⟨old, _, written⟩
  constructor
  · exact fun again => again.1
  · intro allowed
    refine ⟨allowed, ?_, accepts.2.2⟩
    rw [written]
    rfl

end

namespace World

variable (answers : Answers) (world : World)

theorem incrementRemainSteps_cases (job : Nat) (localID : String) (wi : InstanceCounter)
    (amount : Int) :
    (answers.refuses .remainSteps = none ∧ Exists fun count =>
      world.db.remainSteps.lookup wi.id = some count ∧
      world.incrementRemainSteps answers job localID wi amount =
        .ok { world with
          db := { world.db with
              remainSteps := AList.insert wi.id (count + amount) world.db.remainSteps }
          workflowInstancesMap := Function.update world.workflowInstancesMap job
            (AList.insert localID { wi with remainSteps := wi.remainSteps + amount }
              (world.workflowInstancesMap job)) }) ∨
    (¬(answers.refuses .remainSteps = none ∧ (world.db.remainSteps.lookup wi.id).isSome) ∧
      Exists fun err => world.incrementRemainSteps answers job localID wi amount = .error err) := by
  unfold incrementRemainSteps dbIncrementWorkflowInstancesField
  rcases updateDocument_cases (answers.refuses .remainSteps) world.db.remainSteps wi.id
      (· + amount) with
    ⟨count, allowed, found, written⟩ | ⟨err, missing, failed⟩
  · rw [written]
    exact Or.inl ⟨allowed, count, found, rfl⟩
  · rw [failed]
    refine Or.inr ⟨?_, _, rfl⟩
    rintro ⟨allowed, present⟩
    rw [missing allowed] at present
    cases present

/-- What `SetState` leaves behind when a change to completed succeeds. -/
structure Completed (after : World) : Prop where
  task : after.task = { world.task with completedDate := answers.now, job := after.task.job }
  stored : Exists fun old => storedIn world.task world.db = some old ∧
    storedIn world.task after.db = some { old with completedDate := answers.now }
  remainSteps : Exists fun wi => world.instanceOf answers = some wi ∧
    (Exists fun job => after.task.job = some job ∧
      (after.workflowInstancesMap job).lookup world.task.workflowInstanceID =
        some { wi with remainSteps := wi.remainSteps - 1 }) ∧
    (Exists fun count => world.db.remainSteps.lookup wi.id = some count ∧
      after.db.remainSteps.lookup wi.id = some (count - 1))

theorem complete_cases :
    (world.Completes answers ∧ Exists fun after => world.complete answers = (after, none) ∧
      world.Completed answers after) ∨
    (¬world.Completes answers ∧ Exists fun after => Exists fun err =>
      world.complete answers = (after, some err) ∧ after.task.state = world.task.state) := by
  unfold complete
  rcases world.getWorkflowInstance_cases answers with
    ⟨found, job, wi, same, isInstance, isJob, inside, got⟩ | ⟨after, err, same, missing, _, got⟩
  · rw [got]
    have isTask : found.task = { world.task with job := some job } := by
      rw [← same.task, ← isJob]
    have sameID : found.task.workflowInstanceID = world.task.workflowInstanceID := by rw [isTask]
    rcases found.incrementRemainSteps_cases answers job found.task.workflowInstanceID wi (-1) with
      ⟨allowed, count, counted, written⟩ | ⟨refused, err, failed⟩
    · dsimp only
      rw [written]
      dsimp only
      rw [same.db] at counted
      rcases setCompletedDate_cases answers { found with
          db := { found.db with
              remainSteps := AList.insert wi.id (count + -1) found.db.remainSteps }
          workflowInstancesMap := Function.update found.workflowInstancesMap job
            (AList.insert found.task.workflowInstanceID
                { wi with remainSteps := wi.remainSteps + -1 }
              (found.workflowInstancesMap job)) } answers.now with
        ⟨accepts, db, wrote, done⟩ | ⟨refused, err, failed⟩
      · rw [done]
        dsimp only at accepts wrote ⊢
        rw [isTask, same.db] at accepts wrote
        refine Or.inl ⟨⟨accepts, allowed, wi, isInstance, by rw [counted]; rfl⟩, _, rfl, ?_, ?_,
            wi, isInstance,
          ⟨job, isJob, ?_⟩, count, counted, ?_⟩
        · rw [isTask]
        · exact wrote.stored
        · dsimp only
          rw [← sameID, Function.update_self]
          exact AList.lookup_insert _
        · dsimp only
          rw [wrote.remainSteps]
          exact AList.lookup_insert _
      · rw [failed]
        refine Or.inr ⟨fun completes => refused ?_, _, _, rfl, by rw [isTask]⟩
        dsimp only
        rw [isTask, same.db]
        exact completes.1
    · dsimp only
      rw [failed]
      refine Or.inr ⟨?_, found, _, rfl, by rw [isTask]⟩
      rintro ⟨_, allowed, again, isAgain, present⟩
      rw [isInstance] at isAgain
      cases isAgain
      rw [same.db] at refused
      exact refused ⟨allowed, present⟩
  · rw [got]
    refine Or.inr ⟨?_, after, _, rfl, ?_⟩
    · rintro ⟨_, _, wi, found, _⟩
      rw [missing] at found
      cases found
    · have state := congrArg TaskRaw.state same.task
      exact state

/-- The server after the state has been written. -/
def restated (newState : ProcessState) (db : Database) : World :=
  { world with db, task := { world.task with state := newState } }

theorem setState_cases (newState : ProcessState) :
    (world.task.jobId ≠ "" ∧ world.task.state = newState ∧
        world.setState answers newState = (world, none)) ∨
    ((world.task.jobId = "" ∨ ¬Accepts (answers.refuses .state) world.task world.db) ∧
        Exists fun err =>
      world.setState answers newState = (world, some err)) ∨
    (world.task.jobId ≠ "" ∧ world.task.state ≠ newState ∧
      Accepts (answers.refuses .state) world.task world.db ∧ Exists fun db =>
      Wrote world.task world.db (fun stored => { stored with state := newState }) db ∧
      world.setState answers newState =
        if newState = .completed then (world.restated newState db).complete answers
        else if world.task.state = .completed then (world.restated newState db).reopen answers
        else (world.restated newState db, none)) := by
  unfold setState
  dsimp only
  split
  · next unnamed => exact Or.inr (Or.inl ⟨Or.inl unnamed, _, rfl⟩)
  · next named =>
      split
      · next same => exact Or.inl ⟨named, same, rfl⟩
      · next changes =>
          have follows := follows_storeState answers world newState
          split
          · next err failed =>
              rw [failed] at follows
              exact Or.inr (Or.inl ⟨Or.inr follows, err, rfl⟩)
          · next db written =>
              rw [written] at follows
              exact Or.inr (Or.inr ⟨named, changes, follows.1, db, follows.2, rfl⟩)

end World

namespace World

variable {answers : Answers} {before : World} {newState : ProcessState} {db : Database}

/-- The write of the state decides nothing about the later calls. -/
theorem completes_restated (accepts : Accepts (answers.refuses .state) before.task before.db)
    (wrote : Wrote before.task before.db (fun stored => { stored with state := newState }) db) :
    (before.restated newState db).Completes answers ↔ before.Completes answers := by
  have dates : Accepts (answers.refuses .completedDate) before.task db ↔
      Accepts (answers.refuses .completedDate) before.task before.db :=
    (accepts_after accepts wrote).trans ⟨fun allowed => ⟨allowed, accepts.2⟩, fun again => again.1⟩
  unfold Completes
  change Accepts _ before.task db ∧ _ ∧ (Exists fun wi => before.instanceOf answers = some wi ∧
    (db.remainSteps.lookup wi.id).isSome) ↔ _
  rw [dates, wrote.remainSteps]

/-- An error after the first write is one that leaves the new state behind. -/
theorem not_undone {after : World} (changes : before.task.state ≠ newState)
    (state : after.task.state = newState) : ¬before.Undone after :=
  fun undone => changes (undone.state.symm.trans state)

theorem updated_of_completed {after : World}
    (wrote : Wrote before.task before.db (fun stored => { stored with state := .completed }) db)
    (completed : (before.restated .completed db).Completed answers after) :
    before.Updated answers .completed after := by
  rcases wrote.stored with ⟨old, _, written⟩
  rcases completed.stored with ⟨between, was, stored⟩
  change storedIn before.task db = some between at was
  change storedIn before.task after.db = _ at stored
  rw [written] at was
  cases was
  refine ⟨by rw [completed.task]; rfl, by rw [stored]; rfl, by rw [if_pos rfl, completed.task],
    fun _ => by rw [stored, completed.task]; rfl, fun _ _ => ?_⟩
  rcases completed.remainSteps with ⟨wi, found, memory, count, counted, later⟩
  change db.remainSteps.lookup wi.id = some count at counted
  rw [wrote.remainSteps] at counted
  exact ⟨wi, found, memory, count, counted, later⟩

/-- A change that does not enter completed, once the state is written. -/
theorem updated_of_reopened {after : Database} (left : newState ≠ .completed)
    (was : before.task.state = .completed)
    (wrote : Wrote before.task before.db (fun stored => { stored with state := newState }) db)
    (again : Wrote before.task db (fun stored => { stored with completedDate := 0 }) after) :
    before.Updated answers newState
      { before with db := after, task := { before.task with
          state := newState, completedDate := 0 } } := by
  rcases wrote.stored with ⟨old, _, written⟩
  rcases again.stored with ⟨between, found, stored⟩
  rw [written] at found
  cases found
  refine ⟨rfl, by rw [stored]; rfl, ?_, fun _ => by rw [stored]; rfl, fun completed =>
      absurd completed left⟩
  rw [if_neg left, if_pos was]

theorem updated_of_restated (left : newState ≠ .completed) (was : before.task.state ≠ .completed)
    (wrote : Wrote before.task before.db (fun stored => { stored with state := newState }) db) :
    before.Updated answers newState (before.restated newState db) := by
  rcases wrote.stored with ⟨old, _, written⟩
  have stored : storedIn before.task (before.restated newState db).db = some
      { old with state := newState } := written
  refine ⟨rfl, by rw [stored]; rfl, ?_, fun involved => ?_, fun completed => absurd completed left⟩
  · rw [if_neg left, if_neg was]
    rfl
  · rcases involved with enters | leaves
    · exact absurd enters left
    · exact absurd leaves was

/-- The three parts of atomicity once the state is written: the call returns
without an error and everything is there, or it returns an error. -/
theorem written_cases (accepts : Accepts (answers.refuses .state) before.task before.db)
    (wrote : Wrote before.task before.db (fun stored => { stored with state := newState }) db)
    (result : before.setState answers newState =
      if newState = .completed then (before.restated newState db).complete answers
      else if before.task.state = .completed then (before.restated newState db).reopen answers
      else (before.restated newState db, none)) :
    (((newState = .completed -> before.Completes answers) ∧
        (newState ≠ .completed -> before.task.state = .completed ->
        answers.refuses .completedDate = none)) ∧
      (before.setState answers newState).2 = none ∧
      before.Updated answers newState (before.setState answers newState).1) ∨
    (¬((newState = .completed -> before.Completes answers) ∧
        (newState ≠ .completed -> before.task.state = .completed ->
        answers.refuses .completedDate = none)) ∧
      (before.setState answers newState).2 ≠ none ∧
      (before.setState answers newState).1.task.state = newState) := by
  rw [result]
  by_cases enters : newState = .completed
  · subst enters
    rw [if_pos rfl]
    rcases (before.restated .completed db).complete_cases answers with
      ⟨completes, after, done, completed⟩ | ⟨stuck, after, err, failed, state⟩
    · rw [done]
      exact Or.inl ⟨⟨fun _ => (completes_restated accepts wrote).mp completes, fun other =>
          absurd rfl other⟩, rfl,
        updated_of_completed wrote completed⟩
    · rw [failed]
      refine Or.inr ⟨fun both => stuck ((completes_restated accepts wrote).mpr (both.1 rfl)), ?_,
          state⟩
      exact fun impossible => (nomatch impossible)
  · rw [if_neg enters]
    by_cases leaves : before.task.state = .completed
    · rw [if_pos leaves]
      unfold reopen
      rcases (before.restated newState db).setCompletedDate_cases answers 0 with
        ⟨allowed, after, again, done⟩ | ⟨refused, err, failed⟩
      · rw [done]
        exact Or.inl ⟨⟨fun other => absurd other enters, fun _ _ => allowed.1⟩, rfl,
          updated_of_reopened enters leaves wrote ⟨again.stored, again.remainSteps⟩⟩
      · rw [failed]
        refine Or.inr ⟨fun both => refused ?_, fun impossible => (nomatch impossible), rfl⟩
        exact (accepts_after accepts wrote).mpr (both.2 enters leaves)
    · rw [if_neg leaves]
      exact Or.inl ⟨⟨fun other => absurd other enters, fun _ other => absurd other leaves⟩, rfl,
        updated_of_restated enters leaves wrote⟩

/-- A change of state is atomic exactly if it is refused before anything is
written, or if none of the calls after the first write fails.  A change of an
old-style task to completed therefore needs a workflow instance with the empty
name in its job. -/
theorem atomic_iff_settled (answers : Answers) (before : World) (newState : ProcessState) :
    before.Atomic answers newState ↔ before.Settled answers newState := by
  rcases before.setState_cases answers newState with
    ⟨named, same, result⟩ | ⟨early, err, result⟩ | ⟨named, changes, accepts, db, wrote, result⟩
  · refine ⟨fun _ => Or.inr (Or.inl same), fun _ => ?_⟩
    constructor
    · exact fun _ other => absurd same other
    · exact fun _ _ => by rw [result]
    · exact fun failed => absurd (by rw [result]) failed
    · exact fun _ => by rw [result]
  · refine ⟨fun _ => early.imp id fun refused => Or.inr (Or.inl refused), fun _ => ?_⟩
    constructor
    · intro done
      rw [result] at done
      cases done
    · intro done
      rw [result] at done
      cases done
    · intro _
      rw [result]
      exact ⟨rfl, rfl, fun _ _ => rfl⟩
    · intro undisturbed
      rcases early with unnamed | refused
      · exact absurd unnamed undisturbed.named
      · exact absurd ⟨undisturbed.allowed _, undisturbed.stored, fun cwl =>
          absurd undisturbed.oldStyle cwl⟩ refused
  · rcases written_cases accepts wrote result with ⟨later, done, updated⟩ | ⟨stuck, failed, state⟩
    · refine ⟨fun _ => Or.inr (Or.inr (Or.inr later)), fun _ => ?_⟩
      exact ⟨fun _ _ => updated, fun _ same => absurd same changes, fun failed =>
          absurd done failed, fun _ => done⟩
    · constructor
      · exact fun atomic => absurd (atomic.undone failed) (not_undone changes state)
      · rintro (unnamed | same | refused | later)
        · exact absurd unnamed named
        · exact absurd same changes
        · exact absurd accepts refused
        · exact absurd later stuck

end World

/-! ## The store of the other modules -/

/-- The counter of an instance in the store. -/
def counterOf (wi : WorkflowInstance) : InstanceCounter :=
  ⟨wi.uuid, wi.remainSteps⟩

namespace World

/-- The task and its workflow instance are those of the store. The store keeps no dates and no
copy in a database, so these are what it does not see. -/
structure Shows (answers : Answers) (world : World) (store : Store) (ptr : Nat) : Prop where
  jobId : world.task.jobId = (store.task ptr).ident.jobId
  workflowInstanceID : world.task.workflowInstanceID = (store.task ptr).workflowInstanceID
  workflowInstanceUUID : world.task.workflowInstanceUUID = (store.task ptr).workflowInstanceUUID
  state : world.task.state = (store.task ptr).state
  counter : world.instanceOf answers =
    (store.instanceOf world.task.jobId world.task.workflowInstanceID).map counterOf

/-- The database accepts every write. Besides answering every call, it has the documents that the
calls look for, which is how the server leaves it. -/
structure Working (answers : Answers) (world : World) : Prop where
  allowed : forall call, answers.refuses call = none
  stored : (storedIn world.task world.db).isSome
  addressed : world.task.workflowInstanceID ≠ "" ->
      world.task.workflowInstanceUUID.utf8ByteSize = 36
  counted : forall wi, world.instanceOf answers = some wi ->
      (world.db.remainSteps.lookup wi.id).isSome

variable {answers : Answers} {world : World} {store : Store} {ptr : Nat}

/-- Without an instance a change to completed ends with an error, and there is
still none. -/
theorem complete_missing (missing : world.instanceOf answers = none) :
    Exists fun after => Exists fun err => world.complete answers = (after, some err) ∧
    SameBut world after ∧
      after.instanceOf answers = none := by
  rcases world.getWorkflowInstance_cases answers with
    ⟨found, job, wi, _, isInstance, _⟩ | ⟨after, err, same, _, still, got⟩
  · rw [missing] at isInstance
    cases isInstance
  · unfold complete
    rw [got]
    exact ⟨after, _, rfl, same, still⟩

/-- A change of the store that gets as far as writing the state. -/
theorem taskSetState_written {newState : ProcessState} (named : (store.task ptr).ident.jobId ≠ "")
    (changes : (store.task ptr).state ≠ newState)
    (addressed : ¬((store.task ptr).workflowInstanceID ≠ "" ∧
    (store.task ptr).workflowInstanceUUID = "")) :
    (newState ≠ .completed ∧
        store.taskSetState ptr newState = (store.withState ptr newState, none)) ∨
    (newState = .completed ∧
      store.instanceOf (store.task ptr).ident.jobId (store.task ptr).workflowInstanceID = none ∧
      (store.taskSetState ptr newState).1 = store.withState ptr .completed ∧
      (store.taskSetState ptr newState).2 ≠ none) ∨
    (newState = .completed ∧ Exists fun wi =>
      store.instanceOf (store.task ptr).ident.jobId (store.task ptr).workflowInstanceID = some wi ∧
      store.taskSetState ptr newState =
        ((store.withState ptr .completed).incrementRemainSteps (store.task ptr).ident.jobId
          (store.task ptr).workflowInstanceID (-1), none)) := by
  rcases store.taskSetState_cases ptr newState with ⟨same, quiet⟩ | ⟨_, left, wrote⟩
      | ⟨_, enters, missing, wrote, failed⟩ |
    ⟨_, enters, found, counted⟩
  · -- The store cannot be unchanged, because the state of the task is not.
    have state : ((store.taskSetState ptr newState).1.task ptr).state = newState := by
      unfold Store.taskSetState
      dsimp only
      rw [if_neg named, if_neg changes, if_neg addressed]
      split
      · split
        · rw [Store.modifyTask_self]
        · rw [Store.incrementRemainSteps, Store.modifyInstance_task, Store.modifyTask_self]
      · rw [Store.modifyTask_self]
    rw [same] at state
    exact absurd state changes
  · exact Or.inl ⟨left, wrote⟩
  · exact Or.inr (Or.inl ⟨enters, missing, wrote, failed⟩)
  · rcases Option.isSome_iff_exists.mp found with ⟨wi, isInstance⟩
    exact Or.inr (Or.inr ⟨enters, wi, isInstance, counted⟩)

/-- With a working database `SetState` does in memory what the store says. -/
theorem setState_refines (shown : Shows answers world store ptr) (working : Working answers world)
    (newState : ProcessState) :
    Shows answers (world.setState answers newState).1 (store.taskSetState ptr newState).1 ptr ∧
      ((world.setState answers newState).2 = none ↔
          (store.taskSetState ptr newState).2 = none) := by
  have accepts (call : Call) : Accepts (answers.refuses call) world.task world.db :=
    ⟨working.allowed call, working.stored, working.addressed⟩
  have wrongUUID : ¬((store.task ptr).workflowInstanceID ≠ "" ∧
      (store.task ptr).workflowInstanceUUID = "") := by
    rintro ⟨cwl, empty⟩
    rw [← shown.workflowInstanceID] at cwl
    have size := working.addressed cwl
    rw [shown.workflowInstanceUUID, empty] at size
    cases size
  have counter := shown.counter
  rcases world.setState_cases answers newState with
    ⟨named, same, result⟩ | ⟨early, err, result⟩ | ⟨named, changes, _, db, wrote, result⟩
  · have unchanged : store.taskSetState ptr newState = (store, none) := by
      unfold Store.taskSetState
      dsimp only
      rw [if_neg (shown.jobId ▸ named), if_pos (shown.state ▸ same)]
    rw [result, unchanged]
    exact ⟨shown, Iff.rfl⟩
  · have unnamed : world.task.jobId = "" :=
      early.resolve_right fun refused => refused (accepts .state)
    have refused : (store.taskSetState ptr newState).1 = store ∧
        (store.taskSetState ptr newState).2 ≠ none := by
      unfold Store.taskSetState
      dsimp only
      rw [if_pos (shown.jobId ▸ unnamed)]
      exact ⟨rfl, fun impossible => (nomatch impossible)⟩
    rw [result, refused.1]
    exact ⟨shown, fun impossible => (nomatch impossible), fun quiet => absurd quiet refused.2⟩
  · have restated : Shows answers (world.restated newState db)
      (store.withState ptr newState) ptr := by
      have task : (store.withState ptr newState).task ptr =
          { store.task ptr with state := newState } :=
        Store.modifyTask_self ..
      constructor
      · rw [task]
        exact shown.jobId
      · rw [task]
        exact shown.workflowInstanceID
      · rw [task]
        exact shown.workflowInstanceUUID
      · rw [task]
        rfl
      · exact shown.counter
    rcases taskSetState_written (shown.jobId ▸ named) (shown.state ▸ changes) wrongUUID with
      ⟨left, stored⟩ | ⟨rfl, missing, stored, failed⟩ | ⟨rfl, wi, found, stored⟩
    · rw [result, stored, if_neg left]
      split
      · unfold reopen
        rcases (world.restated newState db).setCompletedDate_cases answers 0 with
          ⟨_, after, _, done⟩ | ⟨refused, _⟩
        · rw [done]
          exact ⟨⟨restated.jobId, restated.workflowInstanceID, restated.workflowInstanceUUID,
              restated.state,
            restated.counter⟩, Iff.rfl⟩
        · exact absurd ((accepts_after (accepts .state) wrote).mpr (working.allowed _)) refused
      · exact ⟨restated, Iff.rfl⟩
    · have nowhere : (world.restated .completed db).instanceOf answers = none := by
        change world.instanceOf answers = none
        rw [counter, shown.jobId, shown.workflowInstanceID, missing]
        rfl
      rcases complete_missing nowhere with ⟨after, err, done, same, still⟩
      rw [result, if_pos rfl, done, stored]
      refine ⟨?_, fun impossible => (nomatch impossible), fun quiet => absurd quiet failed⟩
      have task : after.task = { (world.restated .completed db).task with
          job := after.task.job } := by
        rw [← same.task]
      constructor
      · rw [task]
        exact restated.jobId
      · rw [task]
        exact restated.workflowInstanceID
      · rw [task]
        exact restated.workflowInstanceUUID
      · rw [task]
        exact restated.state
      · rw [still, task, ← nowhere]
        exact restated.counter
    · have isInstance : world.instanceOf answers = some (counterOf wi) := by
        rw [counter, shown.jobId, shown.workflowInstanceID, found]
        rfl
      have completes : (world.restated .completed db).Completes answers :=
        (completes_restated (accepts .state) wrote).mpr
          ⟨accepts .completedDate, working.allowed _, _, isInstance, working.counted _ isInstance⟩
      rcases (world.restated .completed db).complete_cases answers with
        ⟨_, after, done, completed⟩ | ⟨stuck, _⟩
      · rw [result, if_pos rfl, done, stored]
        refine ⟨?_, Iff.rfl⟩
        rcases completed.remainSteps with ⟨again, isAgain, ⟨job, isJob, written⟩, _⟩
        have sameInstance : again = counterOf wi := by
          change world.instanceOf answers = some again at isAgain
          rw [isInstance] at isAgain
          exact (Option.some.inj isAgain).symm
        have task : ((store.withState ptr .completed).incrementRemainSteps
            (store.task ptr).ident.jobId
            (store.task ptr).workflowInstanceID (-1)).task ptr =
            (store.withState ptr .completed).task ptr := by
          rw [Store.incrementRemainSteps, Store.modifyInstance_task]
        constructor
        · rw [completed.task, task]
          exact restated.jobId
        · rw [completed.task, task]
          exact restated.workflowInstanceID
        · rw [completed.task, task]
          exact restated.workflowInstanceUUID
        · rw [completed.task, task]
          exact restated.state
        · have ids : after.task.workflowInstanceID = world.task.workflowInstanceID ∧
              after.task.jobId = world.task.jobId := by
            rw [completed.task]
            exact ⟨rfl, rfl⟩
          have memory : after.instanceOf answers = some
              { again with remainSteps := again.remainSteps - 1 } := by
            unfold instanceOf knownInstances
            rw [isJob, ids.1]
            exact written
          rw [memory, ids.1, ids.2, Store.incrementRemainSteps, Store.instanceOf_modifyInstance,
              shown.jobId,
            shown.workflowInstanceID, if_pos ⟨rfl, rfl⟩]
          change _ = Option.map counterOf (Option.map _ (store.instanceOf _ _))
          rw [found, sameInstance]
          rfl
      · exact absurd completes stuck

/-- What a change leaves of the task and its documents is enough for the next one. -/
theorem Working.of_kept {after : World} (working : Working answers world)
    (uuid : after.task.workflowInstanceUUID = world.task.workflowInstanceUUID)
    (localID : after.task.workflowInstanceID = world.task.workflowInstanceID)
    (stored : (storedIn after.task after.db).isSome)
    (counted : forall wi, after.instanceOf answers = some wi ->
    (after.db.remainSteps.lookup wi.id).isSome) :
    Working answers after where
  allowed := working.allowed
  stored := stored
  addressed := by
    rw [uuid, localID]
    exact working.addressed
  counted := counted

theorem working_restated {newState : ProcessState} {db : Database} (working : Working answers world)
    (wrote : Wrote world.task world.db (fun stored => { stored with state := newState }) db) :
    Working answers (world.restated newState db) := by
  refine working.of_kept rfl rfl ?_ ?_
  · rcases wrote.stored with ⟨_, _, written⟩
    exact Option.isSome_iff_exists.mpr ⟨_, written⟩
  · intro wi isInstance
    change (db.remainSteps.lookup wi.id).isSome
    rw [wrote.remainSteps]
    exact working.counted wi isInstance

theorem working_complete (working : Working answers world) :
    Working answers (world.complete answers).1 := by
  cases found : world.instanceOf answers with
  | none =>
      rcases complete_missing found with ⟨after, err, done, same, still⟩
      rw [done]
      have task : after.task = { world.task with job := after.task.job } := by rw [<- same.task]
      refine working.of_kept (by rw [task]) (by rw [task]) ?_ ?_
      · rw [task, same.db]
        exact working.stored
      · intro wi isInstance
        rw [still] at isInstance
        cases isInstance
  | some wi =>
      have completes : world.Completes answers :=
        ⟨⟨working.allowed _, working.stored, working.addressed⟩, working.allowed _, wi, found,
            working.counted wi found⟩
      rcases world.complete_cases answers with ⟨_, after, done, completed⟩ | ⟨stuck, _⟩
      · rw [done]
        have task := completed.task
        rcases completed.remainSteps with ⟨again, isAgain, ⟨job, isJob, written⟩, _, _, kept⟩
        refine working.of_kept (by rw [task]) (by rw [task]) ?_ ?_
        · rcases completed.stored with ⟨_, _, stored⟩
          rw [task]
          exact Option.isSome_iff_exists.mpr ⟨_, stored⟩
        · intro later isLater
          have counted : after.instanceOf answers = some
              { again with remainSteps := again.remainSteps - 1 } := by
            unfold instanceOf knownInstances
            rw [isJob, show after.task.workflowInstanceID = world.task.workflowInstanceID by
                rw [task]]
            exact written
          rw [counted] at isLater
          cases isLater
          exact Option.isSome_iff_exists.mpr ⟨_, kept⟩
      · exact absurd completes stuck

theorem working_reopen (working : Working answers world) :
    Working answers (world.reopen answers).1 := by
  unfold reopen
  rcases world.setCompletedDate_cases answers 0 with ⟨_, db, wrote, done⟩ | ⟨_, err, failed⟩
  · rw [done]
    refine working.of_kept rfl rfl ?_ ?_
    · rcases wrote.stored with ⟨_, _, stored⟩
      exact Option.isSome_iff_exists.mpr ⟨_, stored⟩
    · intro wi isInstance
      dsimp only
      rw [wrote.remainSteps]
      exact working.counted wi isInstance
  · rw [failed]
    exact working

/-- A database that works goes on working, whatever the state is set to. -/
theorem working_setState (working : Working answers world) (newState : ProcessState) :
    Working answers (world.setState answers newState).1 := by
  rcases world.setState_cases answers newState with
    ⟨_, _, result⟩ | ⟨_, err, result⟩ | ⟨_, _, _, db, wrote, result⟩
  · rw [result]
    exact working
  · rw [result]
    exact working
  · rw [result]
    have restated := working_restated working wrote
    split
    · exact working_complete restated
    · split
      · exact working_reopen restated
      · exact restated

/-- The task is set to one state after the other; which of the calls succeed. -/
def setStates (answers : Answers) : World -> List ProcessState -> World × List Bool
  | world, [] => (world, [])
  | world, newState :: later =>
      let (after, err) := world.setState answers newState
      let (last, others) := setStates answers after later
      (last, err.isNone :: others)

end World

/-- The same calls in the store. -/
def taskSetStates (ptr : Nat) : Store -> List ProcessState -> Store × List Bool
  | store, [] => (store, [])
  | store, newState :: later =>
      let (after, err) := store.taskSetState ptr newState
      let (last, others) := taskSetStates ptr after later
      (last, err.isNone :: others)

namespace World

/-- Run after run the writes to the database, to the task and to the counter of the instance come
to what the other modules say of a task in the store: one change of a state and one count.  They
may say so because a database that accepts every write once does so for good. -/
theorem setStates_refine {answers : Answers} {world : World} {store : Store} {ptr : Nat}
    (shown : Shows answers world store ptr) (working : Working answers world)
    (states : List ProcessState) :
    Shows answers (world.setStates answers states).1 (taskSetStates ptr store states).1 ptr ∧
      (world.setStates answers states).2 = (taskSetStates ptr store states).2 := by
  induction states generalizing world store with
  | nil => exact ⟨shown, rfl⟩
  | cons newState later inductionHypothesis =>
      rcases setState_refines shown working newState with ⟨shownNext, agree⟩
      rcases inductionHypothesis shownNext (working_setState working newState) with
          ⟨shownLast, others⟩
      refine ⟨shownLast, ?_⟩
      have first : (world.setState answers newState).2.isNone =
          (store.taskSetState ptr newState).2.isNone := by
        rw [Bool.eq_iff_iff, Option.isNone_iff_eq_none, Option.isNone_iff_eq_none]
        exact agree
      exact congrArg₂ List.cons first others

end World

/-- A task of the main instance of a job, which waits for nothing else. -/
private def lastTaskWorld : World where
  task :=
    { id := "job_#main/last", jobId := "job", workflowInstanceID := "#main",
      workflowInstanceUUID := "00000000-0000-0000-0000-000000000000", state :=
      .inProgress, completedDate := 0,
      job := none }
  jobMap := AList.insert "job" 0 ∅
  workflowInstancesMap :=
      fun _ => AList.insert "#main" ⟨"00000000-0000-0000-0000-000000000000", 1⟩ ∅
  nextJob := 1
  db :=
    ⟨∅, AList.insert ("00000000-0000-0000-0000-000000000000", "job_#main/last") ⟨.inProgress, 0⟩ ∅,
      AList.insert "00000000-0000-0000-0000-000000000000" 1 ∅⟩

private def lastTaskStore : Store where
  task := fun _ =>
    { Task.blank with
      ident := ⟨"#main/last", "job"⟩, state := .inProgress, workflowInstanceID := "#main",
      workflowInstanceUUID := "00000000-0000-0000-0000-000000000000" }
  nextTask := 1
  jobs := AList.insert "job" ⟨"job", .inProgress, true, "#main", ⟨1, 0, "", false⟩, [], 0, ∅,
    AList.insert "#main" { WorkflowInstance.blank with
      uuid := "00000000-0000-0000-0000-000000000000", remainSteps := 1 } ∅⟩ ∅

private def acceptingAnswers : Answers where
  refuses := fun _ => none
  loadJob := fun _ => .error "not found"
  now := 1

theorem setStates_refine_last :
    World.Shows acceptingAnswers
        (lastTaskWorld.setStates acceptingAnswers [.completed, .completed]).1
        (taskSetStates 0 lastTaskStore [.completed, .completed]).1 0 ∧
      (lastTaskWorld.setStates acceptingAnswers [.completed, .completed]).2 =
        (taskSetStates 0 lastTaskStore [.completed, .completed]).2 := by
  refine World.setStates_refine ⟨rfl, rfl, rfl, rfl, rfl⟩ ⟨fun _ => rfl, rfl, fun _ =>
      by decide, ?_⟩ _
  intro wi isInstance
  have counter : lastTaskWorld.instanceOf acceptingAnswers = some
      ⟨"00000000-0000-0000-0000-000000000000", 1⟩ := rfl
  rw [counter] at isInstance
  cases isInstance
  rfl

/-- An old-style task in progress, in a job that is in memory, with its document. -/
private def oldStyleWorld : World where
  task :=
    { id := "job_task", jobId := "job", workflowInstanceID := "", workflowInstanceUUID := "",
      state := .inProgress, completedDate := 0, job := none }
  jobMap := AList.insert "job" 0 ∅
  workflowInstancesMap := fun _ => ∅
  nextJob := 1
  db := ⟨AList.insert ("job", "job_task") ⟨.inProgress, 0⟩ ∅, ∅, ∅⟩

private def answering : Answers where
  refuses := fun _ => none
  loadJob := fun _ => .error "not found"
  now := 1

theorem completion_not_atomic : ¬oldStyleWorld.Atomic answering .completed := by
  intro atomic
  have failed : (oldStyleWorld.setState answering .completed).2 ≠ none := by decide
  have undone := (atomic.undone failed).state
  revert undone
  decide

end TaskState

end Core
end Awe
