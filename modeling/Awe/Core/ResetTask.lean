import Awe.Core.Completion
import Awe.Lib.Path

namespace Awe
namespace Core
namespace ResetTask

open Lib

/-!
# Resetting a task

A task that ran before is reset when it is enqueued again.  Every field is
written to the database and to the task in memory by a setter of its own, and
each setter chooses the collection itself: the tasks of a job document are in
one, those of a workflow instance in another.

All of the setters but the first send the tasks of a workflow instance to the
second collection.  The first one always asks for the first collection, which
refuses such a task, and nothing that comes after it is reached.
-/

/-- `IO`, the fields that a reset reads or writes. -/
structure InOut where
  fileName : String
  host : String
  node : String
  url : String
  size : Int
  origin : String
  type : String
  dataToken : String
  deriving DecidableEq, Repr

/-- The fields of a task that are part of its document.  The zero time is `none`. -/
structure Fields where
  totalWork : Int
  remainWork : Int
  computeTime : Int
  completedDate : Option Int
  inputs : List InOut
  outputs : List InOut
  resetTask : Bool
  deriving DecidableEq, Repr

/-- A task in memory. -/
structure Task extends Fields where
  jobId : String
  id : String
  workflowInstanceID : String
  workflowInstanceUUID : String
  info : Option Info
  deriving DecidableEq

/-- The collections for the jobs and for the workflow instances: the first task of a document with
the given identifier. -/
structure Database where
  jobs : String × String -> Option Fields
  subworkflows : String × String -> Option Fields

/-- A task, the database and the nodes that were deleted from Shock. The three are compared in the
results, because a reset has to do the same to all of them. -/
structure World where
  task : Task
  db : Database
  deleted : List (String × String × String)

/-- A parsed URL. -/
structure Url where
  scheme : String
  host : String
  path : String

/-- What comes from outside: `url.Parse`, which gives nil for a malformed text, `uuid.Parse`, the
suffix of the URLs of Shock, the directory for the data and `filepath.Glob`. -/
structure Outside where
  parse : String -> Option Url
  isUUID : String -> Bool
  dataSuffix : String
  dataPath : String
  glob : String -> Except String (List String)

abbrev Step := World -> Except Halt (World × Err)

/-- The next step, unless there is an error. -/
def Step.andThen (refusal : String) (first next : Step) : Step := fun w =>
  match first w with
  | .error halt => .error halt
  | .ok (w, some err) => .ok (w, some (refusal ++ err))
  | .ok (w, none) => next w

def notFound : String := "not found"

/-- `dbUpdateJobTaskFields`. -/
def dbUpdateJobTaskFields (db : Database) (task : Task) (change : Fields -> Fields) :
    Database × Err :=
  if task.workflowInstanceID ≠ "" then (db, some "not supported")
  else
    match db.jobs (task.jobId, task.id) with
    | none =>
        (db, some ("(dbUpdateJobTaskFields) (db: Jobs, workflowInstanceID: " ++
            task.workflowInstanceID ++
          ") Error updating task " ++ task.id ++ ": " ++ notFound))
    | some fields =>
        ({ db with jobs := Function.update db.jobs (task.jobId, task.id) (some (change fields)) },
            none)

/-- `dbUpdateTaskFields`. -/
def dbUpdateTaskFields (db : Database) (task : Task) (change : Fields -> Fields) : Database × Err :=
  if task.workflowInstanceUUID = "" then
      (db, some "(dbUpdateWITaskFields) workflowInstanceUUID empty ! ")
  else if task.workflowInstanceUUID.utf8ByteSize ≠ 36 then
    (db, some ("(dbUpdateWITaskFields) workflowInstanceUUID is not length 36: " ++
        task.workflowInstanceUUID))
  else
    match db.subworkflows (task.workflowInstanceUUID, task.id) with
    | none =>
        (db, some ("(dbUpdateWITaskFields) (db: SubWorkflows) Error updating task " ++ task.id ++
          " (workflowInstanceUUID: " ++ task.workflowInstanceUUID ++ "): " ++ notFound))
    | some fields =>
        ({ db with subworkflows :=
            Function.update db.subworkflows (task.workflowInstanceUUID, task.id) (some (change fields)) }, none)

/-- An update in the collection of the jobs, and then in memory. -/
def writeJob (refusal : String) (change : Fields -> Fields) : Step := fun w =>
  match dbUpdateJobTaskFields w.db w.task change with
  | (db, some err) => .ok
      ({ w with db }, some (refusal ++ "dbUpdateJobTaskFields returned: " ++ err))
  | (db, none) => .ok ({ w with db, task := { w.task with toFields := change w.task.toFields } },
      none)

/-- An update in the collection of the workflow instances, and then in memory. -/
def writeInstance (refusal : String) (change : Fields -> Fields) : Step := fun w =>
  match dbUpdateTaskFields w.db w.task change with
  | (db, some err) => .ok ({ w with db }, some (refusal ++ "dbUpdateTaskFields returned: " ++ err))
  | (db, none) => .ok ({ w with db, task := { w.task with toFields := change w.task.toFields } },
      none)

/-- The choice that the setters make. -/
def write (jobRefusal instanceRefusal : String) (change : Fields -> Fields) : Step := fun w =>
  if w.task.workflowInstanceID = "" then writeJob jobRefusal change w else
      writeInstance instanceRefusal change w

/-! ## The setters -/

/-- `task.SetRemainWork`. -/
def setRemainWork (num : Int) : Step :=
  writeJob "(task/SetRemainWork) dbUpdateJobTaskInt returned: (dbUpdateJobTaskInt) "
    fun fields => { fields with remainWork := num }

/-- The compute time has no setter of its own. -/
def resetComputeTime : Step :=
  write "dbUpdateJobTaskInt returned: (dbUpdateJobTaskInt) "
      "dbUpdateTaskInt returned: (dbUpdateTaskInt) "
    fun fields => { fields with computeTime := 0 }

/-- `task.SetCompletedDate`. -/
def setCompletedDate (time : Option Int) : Step :=
  write "(task/SetCompletedDate) dbUpdateJobTaskTime returned: (dbUpdateJobTaskTime) (fieldname completedDate) "
    "(task/SetCompletedDate) dbUpdateTaskTime returned: (dbUpdateTaskTime) "
    fun fields => { fields with completedDate := time }

/-- What a reset does to an input or an output. -/
def InOut.reset (io : InOut) : InOut :=
  { io with node := "-", size := 0, url := "" }

/-- The entries are changed in memory before the list is written to the database. -/
def writeEntries (jobRefusal instanceRefusal : String) (change : Fields -> Fields) :
    Step := fun w =>
  write jobRefusal instanceRefusal change
      { w with task := { w.task with toFields := change w.task.toFields } }

/-- `SetResetTaskInputs`. -/
def setResetTaskInputs : Step := fun w =>
  let inputs := w.task.inputs.map fun io => if io.origin = "" then io else io.reset
  writeEntries "(task/SetResetTask) dbUpdateJobTaskIO returned: (dbUpdateJobTaskIO) "
    "(task/SetResetTask) dbUpdateTaskIO returned: (dbUpdateJobTaskIO) "
    (fun fields => { fields with inputs }) w

/-- `strings.Trim` with a slash. -/
def trimSlashes (text : String) : String :=
  String.ofList ((text.toList.dropWhile (· = '/')).reverse.dropWhile (· = '/')).reverse

/-- `URL2Shock`.  The error of `url.Parse` is dropped and its result read all the same. -/
def url2Shock (outside : Outside) (io : InOut) : Except Halt (InOut × Err) :=
  if io.url = "" then .ok (io, some "(URL2Shock) url empty")
  else
    match outside.parse io.url with
    | none => .error .panic
    | some u =>
        if u.scheme = "" ∨ u.host = "" ∨ u.path = "" then
            .ok (io, some ("(URL2Shock) Not a valid url: " ++ io.url))
        else if io.host = "" ∨ io.node = "" ∨ io.node = "-" then
          let trimPath := trimSlashes u.path
          let cleanUuid := trimSlashes (Path.trimPrefix trimPath "node")
          if cleanUuid ≠ trimPath ∧ outside.isUUID cleanUuid then
            .ok ({ io with host := u.scheme ++ "://" ++ u.host, node := cleanUuid }, none)
          else .ok (io, none)
        else .ok (io, none)

/-- `DataUrl`, with the error dropped as the caller does. -/
def dataUrl (outside : Outside) (io : InOut) : Except Halt (InOut × String) :=
  if io.url ≠ "" then
    match url2Shock outside io with
    | .error halt => .error halt
    | .ok (io, some _) => .ok (io, "")
    | .ok (io, none) => .ok (io, io.url)
  else if io.host ≠ "" ∧ io.node ≠ "" ∧ io.node ≠ "-" then
    let url := io.host ++ "/node/" ++ io.node ++ outside.dataSuffix
    .ok ({ io with url }, url)
  else .ok (io, "")

/-- One round of the loop over the outputs, and the node that is deleted.  Whether Shock deletes it
or not makes no difference. -/
def resetOutput (outside : Outside) (io : InOut) :
    Except Halt (InOut × List (String × String × String)) :=
  if io.type = "update" then .ok (io, [])
  else
    match dataUrl outside io with
    | .error halt => .error halt
    | .ok (io, url) =>
        .ok (io.reset, if url ≠ "" ∧ Path.hasSuffix url outside.dataSuffix then
            [(io.host, io.node, io.dataToken)] else [])

/-- The loop over the outputs. -/
def resetOutputs (outside : Outside) :
    List InOut -> Except Halt (List InOut × List (String × String × String))
  | [] => .ok ([], [])
  | io :: rest =>
      match resetOutput outside io with
      | .error halt => .error halt
      | .ok (io, deleted) =>
          match resetOutputs outside rest with
          | .error halt => .error halt
          | .ok (rest, others) => .ok (io :: rest, deleted ++ others)

/-- `SetResetTaskOutputs`. -/
def setResetTaskOutputs (outside : Outside) : Step := fun w =>
  match resetOutputs outside w.task.outputs with
  | .error halt => .error halt
  | .ok (outputs, deleted) =>
      writeEntries "(task/SetResetTask) dbUpdateJobTaskIO returned: (dbUpdateJobTaskIO) "
        "(task/SetResetTask) dbUpdateTaskIO returned: (dbUpdateJobTaskIO) "
        (fun fields => { fields with outputs }) { w with deleted := w.deleted ++ deleted }

/-- `task.DeleteLogs`; whether a file can be removed makes no difference. -/
def deleteLogs (outside : Outside) (logname : String) : Step := fun w =>
  match getPathByJobID outside.dataPath w.task.jobId with
  | .error err => .ok (w, some ("(task/GetTaDeleteLogsskLogs) getPathByJobId returned: " ++ err))
  | .ok logdir =>
      match outside.glob (logdir ++ "/" ++ w.task.id ++ "_*." ++ logname) with
      | .error err => .ok (w, some ("(task/GetTaDeleteLogsskLogs) filepath.Glob returned: " ++ err))
      | .ok _ => .ok (w, none)

/-- The end of the reset. -/
def clearResetTask : Step :=
  write "dbUpdateJobTaskBoolean returned: (dbUpdateJobTaskBoolean) "
    "dbUpdateTaskBoolean returned: (dbUpdateTaskBoolean) "
    fun fields => { fields with resetTask := false }

/-- The steps of `SetResetTask` in their order. -/
def resetSteps (outside : Outside) (totalWork : Int) : Step :=
  .andThen "(task/SetResetTask) task.SetRemainWork returned: " (setRemainWork totalWork) <|
  .andThen "(task/SetResetTask) " resetComputeTime <|
  .andThen "(task/SetResetTask) SetCompletedDate returned: " (setCompletedDate none) <|
  .andThen "(task/SetResetTask) SetResetTaskInputs returned: " setResetTaskInputs <|
  .andThen "(task/SetResetTask) SetResetTaskOutputs returned: " (setResetTaskOutputs outside) <|
  .andThen "" (deleteLogs outside "stdout") <|
  .andThen "" (deleteLogs outside "stderr") <|
  .andThen "" (deleteLogs outside "worknotes") <|
  .andThen "(task/SetResetTask) " clearResetTask fun w => .ok (w, none)

/-- `task.SetResetTask`. -/
def setResetTask (outside : Outside) (info : Info) : Step := fun w =>
  if w.task.resetTask = false then .ok (w, none)
  else resetSteps outside w.task.totalWork
      { w with task := { w.task with info := some (w.task.info.getD info) } }

/-- The fields that a reset writes are the same in the document and in memory. The server reads
the document when it starts again, and what differs from memory comes back then. -/
structure Fields.Agrees (stored task : Fields) : Prop where
  resetTask : stored.resetTask = task.resetTask
  remainWork : stored.remainWork = task.remainWork
  computeTime : stored.computeTime = task.computeTime
  completedDate : stored.completedDate = task.completedDate
  inputs : stored.inputs = task.inputs
  outputs : stored.outputs = task.outputs

/-- The document of the task, in the collection where tasks of its kind are kept. -/
def World.document (w : World) : Option Fields :=
  if w.task.workflowInstanceID = "" then w.db.jobs (w.task.jobId, w.task.id)
  else w.db.subworkflows (w.task.workflowInstanceUUID, w.task.id)

/-- What a reset makes of an entry that it is meant for; the others are left alone. The dash is
what stands for a node that is not there. -/
def Emptied (meant : InOut -> Prop) (before after : InOut) : Prop :=
  (meant before -> after.node = "-" ∧ after.size = 0 ∧ after.url = "") ∧
      (¬meant before -> after = before)

/-- The task is reset, and its document agrees with it. Inputs that came with the job and outputs
that only update a node are kept. -/
structure Reset (before after : World) : Prop where
  resetTask : after.task.resetTask = false
  remainWork : after.task.remainWork = after.task.totalWork
  totalWork : after.task.totalWork = before.task.totalWork
  computeTime : after.task.computeTime = 0
  completedDate : after.task.completedDate = none
  inputs : List.Forall₂ (Emptied fun io => io.origin ≠ "") before.task.inputs after.task.inputs
  outputs : List.Forall₂ (Emptied fun io => io.type ≠ "update") before.task.outputs
      after.task.outputs
  stored : Exists fun fields => after.document = some fields ∧ fields.Agrees after.task.toFields

def workunitLogs : List String := ["stdout", "stderr", "worknotes"]

/-- The logs of a task can be looked for. -/
def Logged (outside : Outside) (jobId id : String) : Prop :=
  Exists fun logdir => getPathByJobID outside.dataPath jobId = .ok logdir ∧
    forall logname, logname ∈ workunitLogs ->
      Exists fun files => outside.glob (logdir ++ "/" ++ id ++ "_*." ++ logname) = .ok files

/-- What a reset depends on: the kind of the task, and that nothing that is asked outside of the
database goes wrong. Everything in it lies outside of the database: the address of an output and
the place of the logs. -/
structure Resettable (outside : Outside) (task : Task) : Prop where
  oldStyle : task.workflowInstanceID = ""
  urls : forall io, io ∈ task.outputs -> io.type ≠ "update" -> io.url ≠ "" ->
      outside.parse io.url ≠ none
  logs : Logged outside task.jobId task.id

/-! ## One step -/

section

variable {outside : Outside} {w after : World} {fields : Fields}

theorem andThen_ok_iff {refusal : String} {first next : Step} :
    Step.andThen refusal first next w = .ok (after, none) ↔
      Exists fun middle => first w = .ok (middle, none) ∧ next middle = .ok (after, none) := by
  unfold Step.andThen
  cases done : first w with
  | error halt => exact iff_of_false nofun fun ⟨_, returned, _⟩ => (nomatch returned)
  | ok result =>
      rcases result with ⟨middle, err⟩
      cases err with
      | some err => exact iff_of_false nofun fun ⟨_, returned, _⟩ => (nomatch returned)
      | none =>
          constructor
          · exact fun later => ⟨middle, rfl, later⟩
          · rintro ⟨_, same, later⟩
            cases same
            exact later

/-- A task of the old style whose document is there. -/
structure Stored (w : World) (fields : Fields) : Prop where
  oldStyle : w.task.workflowInstanceID = ""
  found : w.db.jobs (w.task.jobId, w.task.id) = some fields

/-- A change on both sides. -/
def World.written (w : World) (fields : Fields) (change : Fields -> Fields) : World :=
  { w with
    task := { w.task with toFields := change w.task.toFields }
    db := { w.db with jobs := Function.update w.db.jobs (w.task.jobId, w.task.id) (some (change fields)) } }

theorem Stored.written (stored : Stored w fields) (change : Fields -> Fields) :
    Stored (w.written fields change) (change fields) :=
  ⟨stored.oldStyle, Function.update_self ..⟩

theorem writeJob_of_stored (stored : Stored w fields) (refusal : String)
    (change : Fields -> Fields) :
    writeJob refusal change w = .ok (w.written fields change, none) := by
  unfold writeJob dbUpdateJobTaskFields
  rw [if_neg (not_not_intro stored.oldStyle), stored.found]
  rfl

theorem write_of_stored (stored : Stored w fields) (jobRefusal instanceRefusal : String)
    (change : Fields -> Fields) :
    write jobRefusal instanceRefusal change w = .ok (w.written fields change, none) := by
  unfold write
  rw [if_pos stored.oldStyle]
  exact writeJob_of_stored stored jobRefusal change

/-- The collection of the jobs refuses the task of a workflow instance. -/
theorem oldStyle_of_writeJob {refusal : String} {change : Fields -> Fields}
    (done : writeJob refusal change w = .ok (after, none)) : w.task.workflowInstanceID = "" := by
  by_contra instance_
  unfold writeJob dbUpdateJobTaskFields at done
  rw [if_pos instance_] at done
  cases done

/-- Entries are written twice in memory, which makes no difference. -/
theorem writeEntries_of_stored (stored : Stored w fields) (jobRefusal instanceRefusal : String)
    {change : Fields -> Fields} (twice : forall fields, change (change fields) = change fields) :
    writeEntries jobRefusal instanceRefusal change w = .ok (w.written fields change, none) := by
  unfold writeEntries
  have same : Stored { w with task := { w.task with toFields := change w.task.toFields } } fields :=
    ⟨stored.oldStyle, stored.found⟩
  rw [write_of_stored same]
  unfold World.written
  dsimp only
  rw [twice]

theorem emptied_reset (meant : InOut -> Prop) {before io : InOut} (means : meant before) :
    Emptied meant before io.reset :=
  ⟨fun _ => ⟨rfl, rfl, rfl⟩, fun spared => absurd means spared⟩

theorem emptied_self (meant : InOut -> Prop) {io : InOut} (spared : ¬meant io) :
    Emptied meant io io :=
  ⟨fun means => absurd means spared, fun _ => rfl⟩

theorem inputs_emptied (inputs : List InOut) :
    List.Forall₂ (Emptied fun io => io.origin ≠ "") inputs
        (inputs.map fun io => if io.origin = "" then io else io.reset) := by
  induction inputs with
  | nil => exact .nil
  | cons io rest inductionHypothesis =>
      rw [List.map_cons]
      refine .cons ?_ inductionHypothesis
      by_cases noOrigin : io.origin = ""
      · rw [if_pos noOrigin]
        exact emptied_self _ (not_not_intro noOrigin)
      · rw [if_neg noOrigin]
        exact emptied_reset _ noOrigin

/-- An output is reset unless its URL cannot be parsed, and then there is a panic. -/
theorem resetOutput_spec (outside : Outside) (io : InOut) :
    ((io.type ≠ "update" ∧ io.url ≠ "" ∧ outside.parse io.url = none) ∧
        resetOutput outside io = .error .panic) ∨
    ((io.type ≠ "update" -> io.url ≠ "" -> outside.parse io.url ≠ none) ∧
      Exists fun after => Exists fun deleted => resetOutput outside io = .ok (after, deleted) ∧
        Emptied (fun io => io.type ≠ "update") io after) := by
  unfold resetOutput
  by_cases update : io.type = "update"
  · rw [if_pos update]
    exact Or.inr ⟨fun other => absurd update other, _, _, rfl,
        emptied_self _ (not_not_intro update)⟩
  rw [if_neg update]
  have emptied (found : InOut) : Emptied (fun io => io.type ≠ "update") io found.reset :=
      emptied_reset _ update
  unfold dataUrl
  by_cases noUrl : io.url = ""
  · rw [if_neg (not_not_intro noUrl)]
    refine Or.inr ⟨fun _ some => absurd noUrl some, ?_⟩
    by_cases located : io.host ≠ "" ∧ io.node ≠ "" ∧ io.node ≠ "-"
    · rw [if_pos located]
      exact ⟨_, _, rfl, emptied _⟩
    · rw [if_neg located]
      exact ⟨_, _, rfl, emptied _⟩
  rw [if_pos noUrl]
  unfold url2Shock
  rw [if_neg noUrl]
  cases parsed : outside.parse io.url with
  | none => exact Or.inl ⟨⟨update, noUrl, rfl⟩, rfl⟩
  | some u =>
      refine Or.inr ⟨fun _ _ => nofun, ?_⟩
      dsimp only
      split_ifs
      · exact ⟨_, _, rfl, emptied _⟩
      · exact ⟨_, _, rfl, emptied _⟩
      · exact ⟨_, _, rfl, emptied _⟩
      · exact ⟨_, _, rfl, emptied _⟩

theorem resetOutputs_spec (outside : Outside) (outputs : List InOut) :
    ((Exists fun io => io ∈ outputs ∧ io.type ≠ "update" ∧ io.url ≠ "" ∧
        outside.parse io.url = none) ∧
      resetOutputs outside outputs = .error .panic) ∨
    ((forall io, io ∈ outputs -> io.type ≠ "update" -> io.url ≠ "" -> outside.parse io.url ≠ none) ∧
      Exists fun after => Exists fun deleted => resetOutputs outside outputs = .ok
      (after, deleted) ∧
        List.Forall₂ (Emptied fun io => io.type ≠ "update") outputs after) := by
  induction outputs with
  | nil => exact Or.inr ⟨fun _ member => (nomatch member), [], [], rfl, .nil⟩
  | cons io rest inductionHypothesis =>
      unfold resetOutputs
      rcases resetOutput_spec outside io with ⟨bad, halted⟩ | ⟨good, after, deleted, done, emptied⟩
      · rw [halted]
        exact Or.inl ⟨⟨io, List.mem_cons_self, bad⟩, rfl⟩
      · rw [done]
        dsimp only
        rcases inductionHypothesis with ⟨⟨other, member, bad⟩, halted⟩
            | ⟨rest_good, others, more, rested, each⟩
        · rw [halted]
          exact Or.inl ⟨⟨other, List.mem_cons_of_mem _ member, bad⟩, rfl⟩
        · rw [rested]
          refine Or.inr ⟨fun other member => ?_, _, _, rfl, .cons emptied each⟩
          rcases List.mem_cons.mp member with same | later
          · rw [same]
            exact good
          · exact rest_good other later

theorem deleteLogs_ok_iff {logname : String} :
    deleteLogs outside logname w = .ok (after, none) ↔ after = w ∧
    Exists fun logdir => getPathByJobID outside.dataPath w.task.jobId = .ok logdir ∧
      Exists fun files => outside.glob (logdir ++ "/" ++ w.task.id ++ "_*." ++ logname) =
          .ok files := by
  unfold deleteLogs
  cases path : getPathByJobID outside.dataPath w.task.jobId with
  | error err => exact iff_of_false nofun fun ⟨_, _, missing, _⟩ => (nomatch missing)
  | ok logdir =>
      dsimp only
      cases globbed : outside.glob (logdir ++ "/" ++ w.task.id ++ "_*." ++ logname) with
      | error err =>
          refine iff_of_false nofun ?_
          rintro ⟨_, other, same, files, found⟩
          cases same
          rw [globbed] at found
          cases found
      | ok files =>
          constructor
          · intro done
            cases done
            exact ⟨rfl, logdir, rfl, files, globbed⟩
          · rintro ⟨rfl, _⟩
            rfl

end

/-! ## All of them -/

section

variable {outside : Outside} {w after : World} {fields : Fields}

/-- What the setters in front of the outputs make of a task. -/
def Fields.begun (totalWork : Int) (inputs : List InOut) (fields : Fields) : Fields :=
  { fields with
    remainWork := totalWork
    computeTime := 0
    completedDate := none
    inputs }

/-- The setters in front of the outputs do their work on the document and in memory. -/
theorem begun_of_stored (stored : Stored w fields) (totalWork : Int) :
    Exists fun first => Exists fun second =>
    Exists fun third => Exists fun last => setRemainWork totalWork w = .ok (first, none) ∧
      resetComputeTime first = .ok (second, none) ∧ setCompletedDate none second = .ok
          (third, none) ∧
      setResetTaskInputs third = .ok (last, none) ∧
      last = w.written fields
          (.begun totalWork (w.task.inputs.map fun io => if io.origin = "" then io else
          io.reset)) := by
  have one := stored.written fun fields => { fields with remainWork := totalWork }
  have two := one.written fun fields => { fields with computeTime := 0 }
  have three := two.written fun fields => { fields with completedDate := none }
  refine ⟨_, _, _, _, writeJob_of_stored stored _ _, write_of_stored one _ _ _,
      write_of_stored two _ _ _,
    writeEntries_of_stored three _ _ fun _ => rfl, ?_⟩
  unfold World.written
  simp only [Function.update_idem]
  rfl

theorem setResetTaskOutputs_of_stored (stored : Stored w fields) {outputs : List InOut}
    {deleted : List (String × String × String)}
    (done : resetOutputs outside w.task.outputs = .ok (outputs, deleted)) :
    setResetTaskOutputs outside w =
      .ok ({ w with deleted := w.deleted ++ deleted }.written fields fun fields =>
          { fields with outputs }, none) := by
  unfold setResetTaskOutputs
  rw [done]
  dsimp only
  have same : Stored { w with deleted := w.deleted ++ deleted } fields :=
      ⟨stored.oldStyle, stored.found⟩
  refine writeEntries_of_stored same _ _ ?_
  intro _
  rfl

theorem deleteLogs_of_logged (logged : Logged outside w.task.jobId w.task.id) {logname : String}
    (member : logname ∈ workunitLogs) : deleteLogs outside logname w = .ok (w, none) := by
  rcases logged with ⟨logdir, path, globs⟩
  exact deleteLogs_ok_iff.mpr ⟨rfl, logdir, path, globs logname member⟩

/-- Nothing stops the reset of a task of the old style. -/
theorem reset_of_resettable (stored : Stored w fields) (resettable : Resettable outside w.task) :
    Exists fun after => resetSteps outside w.task.totalWork w = .ok (after, none) ∧
    Reset w after := by
  obtain ⟨first, second, third, begun, one, two, three, four, shape⟩ :=
      begun_of_stored stored w.task.totalWork
  have kept : Stored begun (fields.begun w.task.totalWork
      (w.task.inputs.map fun io => if io.origin = "" then io else io.reset)) := by
    rw [shape]
    exact stored.written _
  rcases resetOutputs_spec outside w.task.outputs with ⟨⟨io, member, notUpdate, some, malformed⟩, _⟩
      |
    ⟨_, outputs, deleted, done, emptied⟩
  · exact absurd malformed (resettable.urls io member notUpdate some)
  have listed : begun.task.outputs = w.task.outputs := by
    rw [shape]
    rfl
  have five := setResetTaskOutputs_of_stored kept (listed.symm ▸ done)
  have later : Stored { begun with deleted := begun.deleted ++ deleted } _ :=
      ⟨kept.oldStyle, kept.found⟩
  have six := later.written fun fields => { fields with outputs }
  have logged : Logged outside begun.task.jobId begun.task.id := by
    rw [shape]
    exact resettable.logs
  generalize marked : World.written { begun with deleted := begun.deleted ++ deleted } _
    (fun fields => { fields with outputs }) = middle at five six
  have same : Logged outside middle.task.jobId middle.task.id := by
    rw [<- marked]
    exact logged
  have nine : clearResetTask middle = .ok (middle.written _ fun fields =>
      { fields with resetTask := false }, none) :=
    write_of_stored six _ _ _
  refine ⟨_, andThen_ok_iff.mpr ⟨_, one, andThen_ok_iff.mpr ⟨_, two, andThen_ok_iff.mpr ⟨_, three,
    andThen_ok_iff.mpr ⟨_, four, andThen_ok_iff.mpr ⟨_, five,
    andThen_ok_iff.mpr ⟨_, @deleteLogs_of_logged _ _ same "stdout" (by decide),
    andThen_ok_iff.mpr ⟨_, @deleteLogs_of_logged _ _ same "stderr" (by decide),
    andThen_ok_iff.mpr ⟨_, @deleteLogs_of_logged _ _ same "worknotes" (by decide),
    andThen_ok_iff.mpr ⟨_, nine, rfl⟩⟩⟩⟩⟩⟩⟩⟩⟩, ?_⟩
  rw [<- marked, shape]
  refine ⟨rfl, rfl, rfl, rfl, rfl, inputs_emptied _, emptied, _, (if_pos stored.oldStyle).trans
      (Function.update_self ..), ?_⟩
  exact ⟨rfl, rfl, rfl, rfl, rfl, rfl⟩

/-- A reset that is done found nothing in its way. -/
theorem resettable_of_done (found : Exists fun fields => w.document = some fields) {totalWork : Int}
    (done : resetSteps outside totalWork w = .ok (after, none)) : Resettable outside w.task := by
  rcases andThen_ok_iff.mp done with ⟨first, one, done⟩
  have oldStyle : w.task.workflowInstanceID = "" := oldStyle_of_writeJob one
  rcases found with ⟨fields, document⟩
  unfold World.document at document
  rw [if_pos oldStyle] at document
  have stored : Stored w fields := ⟨oldStyle, document⟩
  obtain ⟨first', second', third', begun, known, next, further, last, shape⟩ :=
      begun_of_stored stored totalWork
  rw [known] at one
  cases one
  rcases andThen_ok_iff.mp done with ⟨second, two, done⟩
  rw [next] at two
  cases two
  rcases andThen_ok_iff.mp done with ⟨third, three, done⟩
  rw [further] at three
  cases three
  rcases andThen_ok_iff.mp done with ⟨fourth, four, done⟩
  rw [last] at four
  cases four
  rcases andThen_ok_iff.mp done with ⟨middle, five, done⟩
  rcases andThen_ok_iff.mp done with ⟨_, out, done⟩
  rcases andThen_ok_iff.mp done with ⟨_, err, done⟩
  rcases andThen_ok_iff.mp done with ⟨_, notes, _⟩
  rcases deleteLogs_ok_iff.mp out with ⟨rfl, logdir, path, outFiles⟩
  rcases deleteLogs_ok_iff.mp err with ⟨rfl, errDir, errPath, errFiles⟩
  rcases deleteLogs_ok_iff.mp notes with ⟨rfl, notesDir, notesPath, notesFiles⟩
  have kept : Stored begun
      (fields.begun totalWork (w.task.inputs.map fun io => if io.origin = "" then io else
      io.reset)) := by
    rw [shape]
    exact stored.written _
  have listed : begun.task.outputs = w.task.outputs := by
    rw [shape]
    rfl
  rcases resetOutputs_spec outside begun.task.outputs with
      ⟨_, halted⟩ | ⟨urls, outputs, deleted, reset, _⟩
  · unfold setResetTaskOutputs at five
    rw [halted] at five
    cases five
  · rw [setResetTaskOutputs_of_stored kept reset] at five
    cases five
    rw [listed] at urls
    refine ⟨oldStyle, urls, logdir, ?_, ?_⟩
    · rw [shape] at path
      exact path
    · rw [path] at errPath notesPath
      cases errPath
      cases notesPath
      rw [shape] at outFiles errFiles notesFiles
      intro logname member
      rcases List.mem_cons.mp member with rfl | member
      · exact outFiles
      rcases List.mem_cons.mp member with rfl | member
      · exact errFiles
      rw [List.mem_singleton.mp member]
      exact notesFiles

end

/-- A marked task whose document is there is reset on both sides, without an error, exactly if it
is not a task of a workflow instance and nothing goes wrong outside of the database.  The first
setter writes to the document of the job for every task, where the others choose the collection,
and ends the function for a task of an instance before anything is reset. -/
theorem setResetTask_resets_iff {outside : Outside} {info : Info} {w : World}
    (marked : w.task.resetTask = true) (found : Exists fun fields => w.document = some fields) :
    (Exists fun after => setResetTask outside info w = .ok (after, none) ∧ Reset w after) ↔
      Resettable outside w.task := by
  unfold setResetTask
  rw [if_neg (by rw [marked]; exact Bool.noConfusion)]
  constructor
  · rintro ⟨after, done, _⟩
    have resettable := resettable_of_done (w :=
        { w with task := { w.task with info := some (w.task.info.getD info) } })
      found done
    exact ⟨resettable.oldStyle, resettable.urls, resettable.logs⟩
  · intro resettable
    rcases found with ⟨fields, document⟩
    unfold World.document at document
    rw [if_pos resettable.oldStyle] at document
    obtain ⟨after, done, reset⟩ := reset_of_resettable
      (w := { w with task := { w.task with info := some (w.task.info.getD info) } })
          ⟨resettable.oldStyle, document⟩
      ⟨resettable.oldStyle, resettable.urls, resettable.logs⟩
    exact ⟨after, done, reset.resetTask, reset.remainWork, reset.totalWork, reset.computeTime,
        reset.completedDate,
      reset.inputs, reset.outputs, reset.stored⟩

private def ran (workflowInstanceID : String) : World where
  task :=
    { totalWork := 2
      remainWork := 0
      computeTime := 60
      completedDate := some 100
      inputs := [⟨"in", "http://shock", "n1", "", 10, "0", "", ""⟩]
      outputs := [⟨"out", "http://shock", "n2", "", 20, "", "", ""⟩]
      resetTask := true
      jobId := "6ba7b810-9dad-41d1-80b4-00c04fd430c8"
      id := "6ba7b810-9dad-41d1-80b4-00c04fd430c8_1"
      workflowInstanceID
      workflowInstanceUUID := "7ba7b810-9dad-41d1-80b4-00c04fd430c8"
      info := none }
  db := ⟨fun _ => some ⟨2, 0, 60, some 100, [], [], true⟩, fun _ =>
      some ⟨2, 0, 60, some 100, [], [], true⟩⟩
  deleted := []

private def noFiles : Outside where
  parse := fun _ => none
  isUUID := fun _ => false
  dataSuffix := "?download"
  dataPath := "/data"
  glob := fun _ => .ok []

/-- A task of the old style is reset. -/
theorem setResetTask_resets_iff_oldStyle :
    Exists fun after => setResetTask noFiles ⟨1, 0, "", false⟩ (ran "") = .ok (after, none) ∧
    Reset (ran "") after := by
  refine (setResetTask_resets_iff rfl ⟨_, rfl⟩).mpr ⟨rfl, ?_, ?_⟩
  · intro io member _ some
    rw [List.mem_singleton.mp member] at some
    exact absurd rfl some
  · refine ⟨_, rfl, ?_⟩
    intro _ _
    exact ⟨[], rfl⟩

/-- The task of a workflow instance keeps its old numbers, and its mark. -/
theorem workflow_task_not_reset : (ran "#main").document ≠ none ∧
    Exists fun after => Exists fun err =>
      setResetTask noFiles ⟨1, 0, "", false⟩ (ran "#main") = .ok (after, some err) ∧
        after.task.remainWork = 0 ∧ after.task.resetTask = true := by
  refine ⟨?_, _, _, rfl, rfl, rfl⟩
  intro missing
  cases missing

end ResetTask
end Core
end Awe
