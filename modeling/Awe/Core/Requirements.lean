import Awe.Core.StepInputs
import Awe.Lib.InPlace
import Mathlib.Data.List.DropRight

namespace Awe
namespace Core

open Lib Lib.Path InputLookup Sources StepInputs KeyedWrites InPlace

/-!
# The requirements of a tool

`NewWorkunit` of a CWL task takes the tool of the step from the context, gathers
the inputs of the step and evaluates the expressions in the requirements and
hints of the tool with them.  `GetProcess` gives a pointer to the tool in the
context, and `Evaluate` writes the values into the requirements of that tool,
so the next task that runs the tool finds them evaluated.

Tools are objects behind pointers here.  A value of a field is modelled with its
Go type as far as the type switches look at it; the names of the Go types in the
errors are left out.  `NewCWLType` never makes a `Dirent`, so that case of the
switches on evaluated values is left out too.

This is the half of a requirement that evaluation reads and writes.  How a
requirement is made of a document is in `Cwl.Requirements`, which keeps the
document and looks into none of these fields: the two records are two views of
one Go value, and no function needs both.
-/

/-- A field of a `ResourceRequirement`.  What `Evaluate` writes is a CWL value,
which is neither a `string` nor an `int` for a type switch. -/
inductive ResourceValue where
  | string (text : String)
  | int (value : Int)
  | int64 (value : Int)
  | float64 (json : String)
  | evaluated (value : CWLValue)

/-- An element of a list in `Listing`, by its Go type, all of them pointers. -/
inductive ListingEntry where
  | dirent (json : String)
  | file (json : String)
  | directory (json : String)
  | string (text : String)
  | other (cwlClass : String)

/-- The field `Listing`.  `stringPtr` is a pointer to a string, and `pointer` a
pointer to anything else. -/
inductive Listing where
  | array (entries : List ListingEntry)
  | dirent (json : String)
  | file (json : String)
  | directory (json : String)
  | string (text : String)
  | stringPtr (text : String)
  | pointer (value : CWLValue)

/-- The field `EnvValue`, which is an `Expression` or something else. -/
inductive EnvValue where
  | expression (text : String)
  | other (json : String)
  deriving DecidableEq, Repr

structure EnvironmentDef where
  envName : String
  envValue : EnvValue
  deriving DecidableEq, Repr

/-- A requirement.  The fields of a `ResourceRequirement` come in the order of its
`Evaluate`: the minimum and the maximum of cores, ram, tmpdir and outdir.  The
other classes have no `Evaluate` of their own. -/
inductive Requirement where
  | resource (fields : List (Option ResourceValue))
  | initialWorkDir (listing : Option Listing)
  | envVar (envDef : List EnvironmentDef)
  | other (cwlClass : String)

inductive ToolKind where
  | commandLineTool
  | expressionTool
  deriving DecidableEq, Repr

def ToolKind.text : ToolKind -> String
  | .commandLineTool => "CommandLineTool"
  | .expressionTool => "ExpressionTool"

structure ToolInput where
  id : String
  default : Option CWLValue

/-- A `CommandLineTool` or an `ExpressionTool`. Of the fields of a tool only those are kept that
`Evaluate` and the defaults look at. -/
structure Tool where
  kind : ToolKind
  cwlVersion : String
  namespaces : Option (List (String × String))
  inputs : List ToolInput
  requirements : List Requirement
  hints : List Requirement

/-- A process: a pointer to a tool, or a workflow. -/
inductive Process where
  | tool (ptr : Nat)
  | workflow
  deriving DecidableEq, Repr

/-- The field `Run` of a step, with the process itself. -/
inductive StepRun where
  | process (process : Process)
  | reference (processName : String)
  | other
  deriving DecidableEq, Repr

/-- The step of a task, as `NewWorkunit` reads it. -/
structure ToolStep where
  run : Option StepRun
  inputs : List StepInput
  out : List String
  deriving DecidableEq, Repr

/-- A call of `NewWorkunit`: the task and the job with its store at that time.
`shockApiUrl` is the URL of the Shock requirement of the job, if there is one. -/
structure WorkunitCall where
  store : Store
  job : Job
  shockApiUrl : Option String
  taskStr : String
  workflowInstanceID : String
  step : ToolStep

/-- The context of the workflow.  An object that is no process is `none`. -/
structure ToolContext where
  objects : GoMap String (Option Process)
  cwlVersion : String
  namespaces : Option (List (String × String))

/-- `CWLWorkunit`, with the pointer to the tool. -/
structure CWLWorkunit where
  tool : Nat
  shockHost : String
  jobInput : JobDocument
  outputsExpected : List String

namespace Requirements

section

variable (js : Javascript) (inputs : String -> Option CWLValue)

/-- The type switch of `EvaluateExpression` on what an expression returned.  The
case for `uint64` asserts that the value is an `int`. -/
def exportedValue : Native -> Except Stop CWLValue
  | .string text => .ok (.string text)
  | .boolean value => .ok (.other "boolean" (toString value))
  | .int json => .ok (.other "int" json)
  | .int64 json => .ok (.other "long" json)
  | .float32 json => .ok (.other "float" json)
  | .double json => .ok (.other "double" json)
  | .nan => .error (.err "(EvaluateExpression) float64 IsNaN ")
  | .uint64 _ => .error .panic
  | .array _ => .error (.err "(EvaluateExpression) array not supported yet")
  | .null => .ok .null
  | native =>
      match js.newCWLType native with
      | .error err => .error (.err ("(EvaluateExpression) NewCWLType returned: " ++ err))
      | .ok value => .ok value

/-- Several expressions in a text. -/
def replaceMatches (selfJson inputsJson : String) : String -> List String -> Except Stop String
  | parsed, [] => .ok parsed
  | parsed, found :: rest =>
      let program := expressionProgram selfJson inputsJson (inside found)
      match js.run program with
      | .error err =>
          .error (.err ("(EvaluateExpression) Javascript complained: A) " ++ err ++
            " (javascript_function: " ++ program ++ ")"))
      | .ok (.error err, _) =>
          .error (.err ("(EvaluateExpression) Cannot convert value to string: " ++ err))
      | .ok (.ok text, _) =>
          replaceMatches selfJson inputsJson
              (String.ofList (replaceFirst found.toList text.toList parsed.toList)) rest

/-- The JSON text of `self`, which is nil for a requirement. -/
def selfJson : Option CWLValue -> Except String String
  | none => .ok "null"
  | some value => js.marshal value

/-- The value of a text, with the JSON texts of `self` and of the inputs. -/
def evaluateOriginal (selfJson inputsJson text : String) : Except Stop CWLValue :=
  match expressionMatches text with
  | [] =>
      match bodyMatch text with
      | none => .ok (.string text)
      | some body =>
          match js.run (bodyProgram selfJson inputsJson (inside body)) with
          | .error err => .error (.err ("Javascript complained: B) " ++ err))
          | .ok (_, exported) =>
              match js.newCWLType exported with
              | .error err =>
                  .error (.err ("(NewWorkunit) Error parsing javascript VM result value, cwl.NewCWLType returns: " ++
                    err))
              | .ok value => .ok value
  | [expression] =>
      let program := expressionProgram selfJson inputsJson (inside expression)
      match js.run program with
      | .error err =>
          .error (.err ("(EvaluateExpression) Javascript complained: A) " ++ err ++
            " (javascript_function: " ++ program ++ ")"))
      | .ok (_, exported) => exportedValue js exported
  | several =>
      match replaceMatches js selfJson inputsJson text several with
      | .error stop => .error stop
      | .ok parsed => .ok (.string parsed)

/-- `EvaluateExpression`. -/
def evaluateExpression (self : Option CWLValue) (text : String) : Except Stop CWLValue :=
  match selfJson js self with
  | .error err => .error (.err ("(LongStringExpression) json.Marshal returns: " ++ err))
  | .ok selfJson =>
      match js.marshalMap inputs with
      | .error err => .error (.err ("(LongStringExpression) json.Marshal returns: " ++ err))
      | .ok inputsJson => evaluateOriginal js selfJson inputsJson text

/-! ## Evaluate -/

/-- One round of `ResourceRequirement.Evaluate`. -/
def evaluateField : Option ResourceValue -> Except Stop (Option ResourceValue)
  | none => .ok none
  | some (.string original) =>
      match evaluateExpression js inputs none original with
      | .error stop => .error
          (stop.wrap "(ResourceRequirement/Evaluate) original_expr.EvaluateExpression returned: ")
      | .ok value => .ok (some (.evaluated value))
  | some (.int value) => .ok (some (.int value))
  | some (.int64 value) => .ok (some (.int64 value))
  | some _ => .error (.err "(ResourceRequirement/Evaluate) type invalid for field")

/-- The element of a listing for an evaluated text. -/
def listingEntry : CWLValue -> Option ListingEntry
  | .string text => some (.string text)
  | .other "File" json => some (.file json)
  | .other "Directory" json => some (.directory json)
  | _ => none

/-- An element of a list in `InitialWorkDirRequirement.Evaluate`, other than a
`Dirent`. -/
def evaluateEntry : ListingEntry -> Except Stop ListingEntry
  | .file json => .ok (.file json)
  | .directory json => .ok (.directory json)
  | .string text =>
      match evaluateExpression js inputs none text with
      | .error stop =>
          .error (stop.wrap "(InitialWorkDirRequirement/Evaluate) *String in listing_array EvaluateExpression returned: ")
      | .ok value =>
          match listingEntry value with
          | some entry => .ok entry
          | none =>
              .error (.err "(InitialWorkDirRequirement/Evaluate) (list mode) EvaluateExpression returned type not expected")
  | _ => .error (.err "(InitialWorkDirRequirement/Evaluate) type not supported")

/-- The loop over a list: it ends at the first `Dirent`. -/
def evaluateEntries : List ListingEntry -> List ListingEntry × Option Stop
  | [] => ([], none)
  | .dirent json :: rest => (.dirent json :: rest, none)
  | entry :: rest =>
      match evaluateEntry js inputs entry with
      | .error stop => (entry :: rest, some stop)
      | .ok value => (value :: (evaluateEntries rest).1, (evaluateEntries rest).2)

/-- The value of `Listing` for an evaluated text, if it is one of the accepted
types.  Arrays are accepted for a pointer to a string only. -/
def listingValue (arrays : Bool) : CWLValue -> Option Listing
  | .string text => some (.stringPtr text)
  | .array items => if arrays then some (.pointer (.array items)) else none
  | .other "File" json => some (.pointer (.other "File" json))
  | .other "Directory" json => some (.pointer (.other "Directory" json))
  | _ => none

/-- A listing that is no list. -/
def evaluateSingle : Listing -> Except Stop Listing
  | .dirent json => .ok (.dirent json)
  | .file json => .ok (.file json)
  | .directory json => .ok (.directory json)
  | .string text =>
      match evaluateExpression js inputs none text with
      | .error stop => .error
          (stop.wrap "(InitialWorkDirRequirement/Evaluate) String EvaluateExpression returned: ")
      | .ok value =>
          match listingValue false value with
          | some listing => .ok listing
          | none =>
              .error (.err ("(InitialWorkDirRequirement/Evaluate) (expression mode, String) EvaluateExpression returned " ++
                "type not expected"))
  | .stringPtr text =>
      match evaluateExpression js inputs none text with
      | .error stop => .error
          (stop.wrap "(InitialWorkDirRequirement/Evaluate) *String EvaluateExpression returned: ")
      | .ok value =>
          match listingValue true value with
          | some listing => .ok listing
          | none =>
              .error (.err ("(InitialWorkDirRequirement/Evaluate) (expression mode, *String) EvaluateExpression returned " ++
                "type not expected"))
  | _ => .error (.err "(InitialWorkDirRequirement/Evaluate) type not supported")

/-- `EnvironmentDef.Evaluate`.  It accepts `String` and `string`, but the values
that `EvaluateExpression` returns are pointers. -/
def evaluateEnvValue : EnvValue -> Except Stop EnvValue
  | .expression text =>
      match evaluateExpression js inputs none text with
      | .error stop => .error (stop.wrap "(EnvironmentDef/Evaluate) EvaluateExpression returned: ")
      | .ok _ => .error (.err
          "(EnvironmentDef/Evaluate) EvaluateExpression returned type not expected")
  | .other json => .ok (.other json)

def evaluateEnvDef (definition : EnvironmentDef) : Except Stop EnvironmentDef :=
  match evaluateEnvValue js inputs definition.envValue with
  | .error stop => .error (stop.wrap "(EnvVarRequirement/Evaluate) Evaluate returned: ")
  | .ok envValue => .ok { definition with envValue }

/-- `Evaluate` of a requirement: the requirement as it is afterwards, and the
error. -/
def evaluateRequirement : Requirement -> Requirement × Option Stop
  | .resource fields =>
      (.resource (sweep (evaluateField js inputs) fields).1,
          (sweep (evaluateField js inputs) fields).2)
  | .initialWorkDir none => (.initialWorkDir none, none)
  | .initialWorkDir (some (.array entries)) =>
      (.initialWorkDir (some (.array (evaluateEntries js inputs entries).1)),
          (evaluateEntries js inputs entries).2)
  | .initialWorkDir (some listing) =>
      match evaluateSingle js inputs listing with
      | .error stop => (.initialWorkDir (some listing), some stop)
      | .ok value => (.initialWorkDir (some value), none)
  | .envVar envDef =>
      (.envVar (sweep (evaluateEnvDef js inputs) envDef).1,
          (sweep (evaluateEnvDef js inputs) envDef).2)
  | .other cwlClass => (.other cwlClass, none)

/-- `Evaluate` of a requirement, with the error as the tool reports it. -/
def evaluateNamed (kind : ToolKind) (part : String) (requirement : Requirement) :
    Requirement × Option Stop :=
  let last := evaluateRequirement js inputs requirement
  (last.1, last.2.map (Stop.wrap
      ("(" ++ kind.text ++ "/Evaluate) " ++ part ++ " r.Evaluate returned: ")))

/-- `Evaluate` of a tool: its requirements, then its hints. -/
def evaluateTool (tool : Tool) : Tool × Option Stop :=
  let requirements := each (evaluateNamed js inputs tool.kind "Requirements") tool.requirements
  match requirements.2 with
  | some stop => ({ tool with requirements := requirements.1 }, some stop)
  | none =>
      let hints := each (evaluateNamed js inputs tool.kind "Hints") tool.hints
      ({ tool with requirements := requirements.1, hints := hints.1 }, hints.2)

end

section

variable (js : Javascript) (context : ToolContext)

/-- `GetProcess`. -/
def getProcess : StepRun -> Except String Process
  | .process process => .ok process
  | .reference processName =>
      match context.objects.lookup processName with
      | some (some process) => .ok process
      | _ => .error ("(GetProcess) Process " ++ processName ++ " not found ")
  | .other => .error "(GetProcess) Process type unknown"

/-- The pointer to the tool of a step. -/
def toolPtr (call : WorkunitCall) : Except String Nat :=
  match call.step.run with
  | none => .error "(NewWorkunit) process is nil !!?"
  | some run =>
      match getProcess context run with
      | .error err => .error ("(NewWorkunit) GetProcess returned: " ++ err)
      | .ok .workflow => .error "(NewWorkunit) Tool *cwl.Workflow not supported"
      | .ok (.tool ptr) => .ok ptr

/-- A tool takes the version and the namespaces of the context if it has none of
its own. -/
def adopt (tool : Tool) : Tool :=
  { tool with
    cwlVersion := if tool.cwlVersion = "" then context.cwlVersion else tool.cwlVersion
    namespaces := tool.namespaces <|> context.namespaces }

/-- The tool of a step; it has to have a version. -/
def selectTool (tools : Nat -> Tool) (call : WorkunitCall) : Except String (Nat × Tool) :=
  match toolPtr context call with
  | .error err => .error err
  | .ok ptr =>
      let tool := adopt context (tools ptr)
      if tool.cwlVersion = "" then
          .error ("(NewWorkunit) " ++ tool.kind.text ++ " misses CwlVersion")
      else .ok (ptr, tool)

/-- Whether an input needs no default.  A `CommandLineTool` uses its default for
null too. -/
def isGiven : ToolKind -> Option CWLValue -> Bool
  | _, none => false
  | .commandLineTool, some .null => false
  | _, some _ => true

def addDefault (kind : ToolKind) (map : GoMap String CWLValue) (input : ToolInput) :
    GoMap String CWLValue :=
  if isGiven kind (map.lookup (base input.id)) then map
  else
    match input.default with
    | none => map
    | some value => map.insert (base input.id) value

/-- The inputs of the step with the defaults of the tool, and the Shock host. -/
def gatherInputs (call : WorkunitCall) (kind : ToolKind) (inputs : List ToolInput) :
    Except Stop (String × GoMap String CWLValue) :=
  match call.shockApiUrl with
  | none => .error (.err "(NewWorkunit) shockRequirement == nil")
  | some shockApiUrl =>
      if shockApiUrl = "" then
          .error (.err "(NewWorkunit) Shock_api_url in ShockRequirement is empty")
      else
        match call.job.instances.lookup call.workflowInstanceID with
        | none => .error (.err
            ("(NewWorkunit) WorkflowInstance not found: \"" ++ call.workflowInstanceID ++ "\""))
        | some wi =>
            match getStepInputObjects js call.store call.job wi call.step.inputs with
            | .error stop =>
                .error (stop.wrap ("(NewWorkunit) task=" ++ call.taskStr ++
                    ", GetStepInputObjects returned: "))
            | .ok map => .ok (shockApiUrl, inputs.foldl (addDefault kind) map)

/-- The inputs that the tool asks for. -/
def jobInput (inputs : List ToolInput) (map : GoMap String CWLValue) : JobDocument :=
  (map.entries.map fun entry => (entry.1, entry.2)).filter fun entry =>
    base entry.1 ∈ inputs.map fun input => base input.id

/-- What `NewWorkunit` does with the tool of the step. -/
def buildWorkunit (tools : Nat -> Tool) (call : WorkunitCall) (ptr : Nat) (tool : Tool) :
    Except Stop CWLWorkunit × (Nat -> Tool) :=
  match gatherInputs js call tool.kind tool.inputs with
  | .error stop => (.error stop, Function.update tools ptr tool)
  | .ok (shockHost, map) =>
      let last := evaluateTool js map.lookup tool
      match last.2 with
      | some stop =>
          (.error (stop.wrap ("(NewWorkunit) workunit.Evaluate returned: (Workunit/Evaluate) " ++
              tool.kind.text ++
            ".Evaluate returned: ")), Function.update tools ptr last.1)
      | none => (.ok ⟨ptr, shockHost, jobInput tool.inputs map, call.step.out⟩,
          Function.update tools ptr last.1)

/-- `NewWorkunit` of a CWL task, with the tools as it leaves them. -/
def newWorkunit (tools : Nat -> Tool) (call : WorkunitCall) :
    Except Stop CWLWorkunit × (Nat -> Tool) :=
  match selectTool context tools call with
  | .error err => (.error (.err err), tools)
  | .ok (ptr, tool) => buildWorkunit js tools call ptr tool

end

/-! ## Cells -/

/-- A place in a requirement that `Evaluate` may replace. All four are pointers or fields that are
shared between the runs of a tool, so a replacement stays. -/
inductive Cell where
  | field (value : Option ResourceValue)
  | listing (listing : Listing)
  | entry (entry : ListingEntry)
  | envValue (envValue : EnvValue)

def isNoDirent : ListingEntry -> Bool
  | .dirent _ => false
  | _ => true

/-- The cells of a requirement, in the order in which they are evaluated.  What
comes after a `Dirent` in a list is never evaluated. -/
def cellsOf : Requirement -> List Cell
  | .resource fields => fields.map .field
  | .initialWorkDir none => []
  | .initialWorkDir (some (.array entries)) => (entries.takeWhile isNoDirent).map .entry
  | .initialWorkDir (some listing) => [.listing listing]
  | .envVar envDef => envDef.map fun definition => .envValue definition.envValue
  | .other _ => []

def cellsOfTool (tool : Tool) : List Cell :=
  tool.requirements.flatMap cellsOf ++ tool.hints.flatMap cellsOf

section

variable (js : Javascript) (inputs : String -> Option CWLValue)

def evaluateCell : Cell -> Except Stop Cell
  | .field value => (evaluateField js inputs value).map .field
  | .listing listing => (evaluateSingle js inputs listing).map .listing
  | .entry entry => (evaluateEntry js inputs entry).map .entry
  | .envValue envValue => (evaluateEnvValue js inputs envValue).map .envValue

end

/-- What an evaluation keeps of a requirement: everything but its cells. What evaluation can do
next depends on the shape and the cells, and the shape never changes. -/
inductive Shape where
  | resource (size : Nat)
  | noListing
  | array (size : Nat) (rest : List ListingEntry)
  | single
  | envVar (names : List String)
  | other (cwlClass : String)

def shapeOf : Requirement -> Shape
  | .resource fields => .resource fields.length
  | .initialWorkDir none => .noListing
  | .initialWorkDir (some (.array entries)) =>
      .array (entries.takeWhile isNoDirent).length (entries.dropWhile isNoDirent)
  | .initialWorkDir (some _) => .single
  | .envVar envDef => .envVar (envDef.map EnvironmentDef.envName)
  | .other cwlClass => .other cwlClass

section

variable {js : Javascript} {inputs : String -> Option CWLValue}

/-- Evaluation of a cell that is the image of something else. -/
private theorem alike_of_map {D : Type} {other : D -> Except Stop D} {image : D -> Cell}
    (mapped : forall cell, evaluateCell js inputs (image cell) = (other cell).map image)
    (cell : D) :
    (Exists fun found => other cell = .ok found ∧ evaluateCell js inputs (image cell) = .ok
        (image found)) ∨
      (Exists fun err => Exists fun reported =>
        other cell = .error err ∧ evaluateCell js inputs (image cell) = .error reported) := by
  rw [mapped]
  cases other cell with
  | error err => exact Or.inr ⟨err, err, rfl, rfl⟩
  | ok found => exact Or.inl ⟨found, rfl, rfl⟩

/-- The value of an element of a list is no `Dirent`. -/
theorem isNoDirent_value {entry value : ListingEntry}
    (evaluated : evaluateEntry js inputs entry = .ok value) :
    isNoDirent value = true := by
  cases entry with
  | dirent json => cases evaluated
  | other cwlClass => cases evaluated
  | file json =>
      cases evaluated
      rfl
  | directory json =>
      cases evaluated
      rfl
  | string text =>
      unfold evaluateEntry at evaluated
      dsimp only at evaluated
      cases result : evaluateExpression js inputs none text with
      | error err =>
          rw [result] at evaluated
          cases evaluated
      | ok found =>
          rw [result] at evaluated
          dsimp only at evaluated
          cases accepted : listingEntry found with
          | none =>
              rw [accepted] at evaluated
              cases evaluated
          | some entry =>
              rw [accepted] at evaluated
              cases evaluated
              unfold listingEntry at accepted
              split at accepted
              · cases accepted
                rfl
              · cases accepted
                rfl
              · cases accepted
                rfl
              · cases accepted

/-- The loop over a list is a sweep over what comes before the first `Dirent`. -/
theorem evaluateEntries_eq (entries : List ListingEntry) :
    evaluateEntries js inputs entries =
      ((sweep (evaluateEntry js inputs) (entries.takeWhile isNoDirent)).1 ++
          entries.dropWhile isNoDirent,
        (sweep (evaluateEntry js inputs) (entries.takeWhile isNoDirent)).2) := by
  induction entries with
  | nil => rfl
  | cons entry rest inductionHypothesis =>
      cases other : isNoDirent entry with
      | false =>
          cases entry with
          | dirent json => rfl
          | file json => cases other
          | directory json => cases other
          | string text => cases other
          | other cwlClass => cases other
      | true =>
          rw [List.takeWhile_cons, List.dropWhile_cons, other, if_pos rfl, if_pos rfl]
          have unfolded : evaluateEntries js inputs (entry :: rest) =
              match evaluateEntry js inputs entry with
              | .error err => (entry :: rest, some err)
              | .ok value => (value :: (evaluateEntries js inputs rest).1,
                  (evaluateEntries js inputs rest).2) := by
            cases entry with
            | dirent json => cases other
            | file json => rfl
            | directory json => rfl
            | string text => rfl
            | other cwlClass => rfl
          rw [unfolded, sweep]
          cases evaluateEntry js inputs entry with
          | error err =>
              dsimp only
              rw [List.cons_append, List.takeWhile_append_dropWhile]
          | ok value =>
              dsimp only
              rw [inductionHypothesis]
              rfl

theorem sweep_isNoDirent {entries : List ListingEntry}
    (plain : forall entry, entry ∈ entries -> isNoDirent entry = true) :
    forall entry, entry ∈ (sweep (evaluateEntry js inputs) entries).1 ->
    isNoDirent entry = true := by
  intro entry member
  rw [sweep_fst, List.mem_append, List.mem_map] at member
  rcases member with ⟨original, reached, rfl⟩ | later
  · exact isNoDirent_value (evaluate_of_passes (List.mem_takeWhile_imp reached))
  · exact plain entry ((List.dropWhile_sublist _).subset later)

/-- What an evaluation leaves of a list, before the first `Dirent` and from there. -/
theorem evaluateEntries_parts (entries : List ListingEntry) :
    (evaluateEntries js inputs entries).1.takeWhile isNoDirent =
        (sweep (evaluateEntry js inputs) (entries.takeWhile isNoDirent)).1 ∧
      (evaluateEntries js inputs entries).1.dropWhile isNoDirent = entries.dropWhile
          isNoDirent := by
  have plain := @sweep_isNoDirent js inputs (entries.takeWhile isNoDirent) fun _ member =>
      List.mem_takeWhile_imp member
  rw [evaluateEntries_eq]
  dsimp only
  rw [List.takeWhile_append_of_pos plain, List.dropWhile_append_of_pos plain]
  constructor
  · have none : (entries.dropWhile isNoDirent).takeWhile isNoDirent = [] := by
      rw [List.takeWhile_eq_nil_iff]
      exact fun nonempty => List.dropWhile_get_zero_not _ entries nonempty
    rw [none, List.append_nil]
  · rw [List.dropWhile_idempotent]

/-- A listing that is no list is a cell of its own, and so is its value. -/
structure IsSingle (listing : Listing) : Prop where
  cells : cellsOf (.initialWorkDir (some listing)) = [.listing listing]
  shape : shapeOf (.initialWorkDir (some listing)) = .single

theorem isSingle_of_ne {listing : Listing} (noList : forall entries, listing ≠ .array entries) :
    IsSingle listing := by
  cases listing with
  | array entries => exact absurd rfl (noList entries)
  | dirent json => exact ⟨rfl, rfl⟩
  | file json => exact ⟨rfl, rfl⟩
  | directory json => exact ⟨rfl, rfl⟩
  | string text => exact ⟨rfl, rfl⟩
  | stringPtr text => exact ⟨rfl, rfl⟩
  | pointer value => exact ⟨rfl, rfl⟩

theorem listingValue_single {arrays : Bool} {value : CWLValue} {listing : Listing}
    (accepted : listingValue arrays value = some listing) : IsSingle listing := by
  unfold listingValue at accepted
  split at accepted
  · cases accepted
    exact ⟨rfl, rfl⟩
  · split at accepted
    · cases accepted
      exact ⟨rfl, rfl⟩
    · cases accepted
  · cases accepted
    exact ⟨rfl, rfl⟩
  · cases accepted
    exact ⟨rfl, rfl⟩
  · cases accepted

/-- A text in `Listing`, behind a pointer or not. -/
theorem evaluateText_cases {arrays : Bool} {text wrap : String} {refuse : Stop} {value : Listing}
    (evaluated : (match evaluateExpression js inputs none text with
      | .error stop => Except.error (stop.wrap wrap)
      | .ok value =>
          match listingValue arrays value with
          | some listing => .ok listing
          | none => .error refuse) = .ok value) :
    Exists fun found => evaluateExpression js inputs none text = .ok found ∧
    listingValue arrays found = some value := by
  cases result : evaluateExpression js inputs none text with
  | error err =>
      rw [result] at evaluated
      cases evaluated
  | ok found =>
      rw [result] at evaluated
      dsimp only at evaluated
      cases accepted : listingValue arrays found with
      | none =>
          rw [accepted] at evaluated
          cases evaluated
      | some listing =>
          rw [accepted] at evaluated
          cases evaluated
          exact ⟨found, rfl, accepted⟩

theorem evaluateSingle_single {listing value : Listing}
    (evaluated : evaluateSingle js inputs listing = .ok value) :
    IsSingle value := by
  cases listing with
  | array entries => cases evaluated
  | pointer value => cases evaluated
  | dirent json =>
      cases evaluated
      exact ⟨rfl, rfl⟩
  | file json =>
      cases evaluated
      exact ⟨rfl, rfl⟩
  | directory json =>
      cases evaluated
      exact ⟨rfl, rfl⟩
  | string text =>
      rcases evaluateText_cases evaluated with ⟨_, _, accepted⟩
      exact listingValue_single accepted
  | stringPtr text =>
      rcases evaluateText_cases evaluated with ⟨_, _, accepted⟩
      exact listingValue_single accepted

/-- The requirement with such a listing. -/
theorem evaluateRequirement_single {listing : Listing}
    (noList : forall entries, listing ≠ .array entries) :
    evaluateRequirement js inputs (.initialWorkDir (some listing)) =
      match evaluateSingle js inputs listing with
      | .error err => (.initialWorkDir (some listing), some err)
      | .ok value => (.initialWorkDir (some value), none) := by
  cases listing with
  | array entries => exact absurd rfl (noList entries)
  | dirent json => rfl
  | file json => rfl
  | directory json => rfl
  | string text => rfl
  | stringPtr text => rfl
  | pointer value => rfl

/-- Evaluating a requirement is a sweep over its cells. -/
theorem evaluateRequirement_cells (requirement : Requirement) :
    cellsOf (evaluateRequirement js inputs requirement).1 =
        (sweep (evaluateCell js inputs) (cellsOf requirement)).1 ∧
      ((evaluateRequirement js inputs requirement).2 = none ↔
        (sweep (evaluateCell js inputs) (cellsOf requirement)).2 = none) := by
  cases requirement with
  | other cwlClass => exact ⟨rfl, ⟨fun _ => rfl, fun _ => rfl⟩⟩
  | resource fields =>
      have swept := sweep_map
          (@alike_of_map js inputs _ (evaluateField js inputs) Cell.field fun value => rfl) fields
      exact ⟨swept.1.symm, swept.2.symm⟩
  | envVar envDef =>
      have swept := @sweep_map Cell Stop (evaluateCell js inputs) EnvironmentDef Stop
          (evaluateEnvDef js inputs)
        (fun definition => .envValue definition.envValue) ?_ envDef
      · exact ⟨swept.1.symm, swept.2.symm⟩
      · intro definition
        have mapped : evaluateCell js inputs (.envValue definition.envValue) =
            (evaluateEnvValue js inputs definition.envValue).map .envValue := rfl
        rw [mapped]
        unfold evaluateEnvDef
        cases evaluateEnvValue js inputs definition.envValue with
        | error err => exact Or.inr ⟨_, _, rfl, rfl⟩
        | ok envValue => exact Or.inl ⟨_, rfl, rfl⟩
  | initialWorkDir listing =>
      cases listing with
      | none => exact ⟨rfl, ⟨fun _ => rfl, fun _ => rfl⟩⟩
      | some listing =>
          by_cases list : Exists fun entries => listing = .array entries
          · rcases list with ⟨entries, rfl⟩
            have swept := sweep_map
                (@alike_of_map js inputs _ (evaluateEntry js inputs) Cell.entry fun entry => rfl)
              (entries.takeWhile isNoDirent)
            refine ⟨?_, ?_⟩
            · change ((evaluateEntries js inputs entries).1.takeWhile isNoDirent).map Cell.entry = _
              rw [(evaluateEntries_parts entries).1]
              exact swept.1.symm
            · change (evaluateEntries js inputs entries).2 = none ↔ _
              rw [evaluateEntries_eq]
              exact swept.2.symm
          · rw [not_exists] at list
            have single := isSingle_of_ne list
            have mapped : evaluateCell js inputs (.listing listing) =
                (evaluateSingle js inputs listing).map .listing := rfl
            rw [evaluateRequirement_single list, single.cells, sweep, mapped]
            cases result : evaluateSingle js inputs listing with
            | error err => exact ⟨single.cells, iff_of_false (fun none => by cases none) fun none =>
                by cases none⟩
            | ok value => exact ⟨(evaluateSingle_single result).cells, ⟨fun _ => rfl, fun _ => rfl⟩⟩

theorem evaluateRequirement_shape (requirement : Requirement) :
    shapeOf (evaluateRequirement js inputs requirement).1 = shapeOf requirement := by
  cases requirement with
  | other cwlClass => rfl
  | resource fields => exact congrArg Shape.resource (sweep_length fields)
  | envVar envDef =>
      refine congrArg Shape.envVar ?_
      induction envDef with
      | nil => rfl
      | cons definition rest inductionHypothesis =>
          rw [sweep]
          unfold evaluateEnvDef
          cases evaluateEnvValue js inputs definition.envValue with
          | error err => rfl
          | ok envValue => exact congrArg (definition.envName :: ·) inductionHypothesis
  | initialWorkDir listing =>
      cases listing with
      | none => rfl
      | some listing =>
          by_cases list : Exists fun entries => listing = .array entries
          · rcases list with ⟨entries, rfl⟩
            have parts := @evaluateEntries_parts js inputs entries
            change Shape.array ((evaluateEntries js inputs entries).1.takeWhile isNoDirent).length
              ((evaluateEntries js inputs entries).1.dropWhile isNoDirent) = _
            rw [parts.1, parts.2, sweep_length]
            rfl
          · rw [not_exists] at list
            rw [evaluateRequirement_single list]
            cases result : evaluateSingle js inputs listing with
            | error err => rfl
            | ok value => exact (evaluateSingle_single result).shape.trans (isSingle_of_ne list).shape.symm

theorem cellsOf_length {first second : Requirement} (same : shapeOf first = shapeOf second) :
    (cellsOf first).length = (cellsOf second).length := by
  have size (requirement : Requirement) : (cellsOf requirement).length =
      match shapeOf requirement with
      | .resource size => size
      | .noListing => 0
      | .array size _ => size
      | .single => 1
      | .envVar names => names.length
      | .other _ => 0 := by
    cases requirement with
    | other cwlClass => rfl
    | resource fields => exact List.length_map _
    | envVar envDef => exact (List.length_map _).trans (List.length_map _).symm
    | initialWorkDir listing =>
        cases listing with
        | none => rfl
        | some listing =>
            by_cases list : Exists fun entries => listing = .array entries
            · rcases list with ⟨entries, rfl⟩
              exact List.length_map _
            · rw [not_exists] at list
              rw [(isSingle_of_ne list).cells, (isSingle_of_ne list).shape]
              rfl
  rw [size first, size second, same]

theorem environment_eq {first second : List EnvironmentDef}
    (names : first.map EnvironmentDef.envName = second.map EnvironmentDef.envName)
    (values : first.map EnvironmentDef.envValue = second.map EnvironmentDef.envValue) :
    first = second := by
  induction first generalizing second with
  | nil =>
      cases second with
      | nil => rfl
      | cons other rest => cases names
  | cons definition rest inductionHypothesis =>
      cases second with
      | nil => cases names
      | cons other others =>
          rw [List.map_cons, List.map_cons, List.cons.injEq] at names values
          rw [inductionHypothesis names.2 values.2]
          congr 1
          cases definition
          cases other
          congr 1
          · exact names.1
          · exact values.1

/-- Two requirements of the same shape with the same cells are the same. -/
theorem requirement_eq_of_cells {first second : Requirement}
    (shapes : shapeOf first = shapeOf second) (same : cellsOf first = cellsOf second) :
    first = second := by
  have fieldInjective : Function.Injective Cell.field := fun _ _ equal => Cell.field.inj equal
  have entryInjective : Function.Injective Cell.entry := fun _ _ equal => Cell.entry.inj equal
  cases first with
  | other cwlClass =>
      cases second with
      | other otherClass =>
          injection shapes with equal
          rw [equal]
      | resource others => cases shapes
      | envVar others => cases shapes
      | initialWorkDir listing =>
          cases listing with
          | none => cases shapes
          | some listing => cases listing <;> cases shapes
  | resource fields =>
      cases second with
      | other otherClass => cases shapes
      | resource others => rw [List.map_injective_iff.mpr fieldInjective same]
      | envVar others => cases shapes
      | initialWorkDir listing =>
          cases listing with
          | none => cases shapes
          | some listing => cases listing <;> cases shapes
  | envVar envDef =>
      cases second with
      | other otherClass => cases shapes
      | resource others => cases shapes
      | envVar others =>
          injection shapes with names
          have values : envDef.map EnvironmentDef.envValue =
              others.map EnvironmentDef.envValue := by
            have valueInjective : Function.Injective Cell.envValue :=
                fun _ _ equal => Cell.envValue.inj equal
            apply List.map_injective_iff.mpr valueInjective
            rw [List.map_map, List.map_map]
            exact same
          rw [environment_eq names values]
      | initialWorkDir listing =>
          cases listing with
          | none => cases shapes
          | some listing => cases listing <;> cases shapes
  | initialWorkDir listing =>
      cases second with
      | other otherClass =>
          cases listing with
          | none => cases shapes
          | some listing => cases listing <;> cases shapes
      | resource others =>
          cases listing with
          | none => cases shapes
          | some listing => cases listing <;> cases shapes
      | envVar others =>
          cases listing with
          | none => cases shapes
          | some listing => cases listing <;> cases shapes
      | initialWorkDir other =>
          cases listing with
          | none =>
              cases other with
              | none => rfl
              | some other => cases other <;> cases shapes
          | some listing =>
              cases other with
              | none => cases listing <;> cases shapes
              | some other =>
                  by_cases list : Exists fun entries => listing = .array entries
                  · rcases list with ⟨entries, rfl⟩
                    by_cases otherList : Exists fun entries => other = .array entries
                    · rcases otherList with ⟨others, rfl⟩
                      injection shapes with _ rest
                      have front := List.map_injective_iff.mpr entryInjective same
                      rw [<- @List.takeWhile_append_dropWhile _ isNoDirent entries, front, rest,
                        List.takeWhile_append_dropWhile]
                    · rw [not_exists] at otherList
                      rw [(isSingle_of_ne otherList).shape] at shapes
                      cases shapes
                  · rw [not_exists] at list
                    rw [(isSingle_of_ne list).shape] at shapes
                    by_cases otherList : Exists fun entries => other = .array entries
                    · rcases otherList with ⟨others, rfl⟩
                      cases shapes
                    · rw [not_exists] at otherList
                      rw [(isSingle_of_ne list).cells, (isSingle_of_ne otherList).cells] at same
                      injection same with equal
                      injection equal with equal
                      rw [equal]

/-- What an evaluation keeps of a tool. The expressions may have been replaced by their values;
all else is what the document says. -/
structure SameFrame (first second : Tool) : Prop where
  kind : first.kind = second.kind
  cwlVersion : first.cwlVersion = second.cwlVersion
  namespaces : first.namespaces = second.namespaces
  inputs : first.inputs = second.inputs
  requirements : first.requirements.map shapeOf = second.requirements.map shapeOf
  hints : first.hints.map shapeOf = second.hints.map shapeOf

theorem SameFrame.trans {first second third : Tool} (same : SameFrame first second)
    (also : SameFrame second third) :
    SameFrame first third :=
  ⟨same.kind.trans also.kind, same.cwlVersion.trans also.cwlVersion,
      same.namespaces.trans also.namespaces,
    same.inputs.trans also.inputs, same.requirements.trans also.requirements,
        same.hints.trans also.hints⟩

theorem SameFrame.symm {first second : Tool} (same : SameFrame first second) :
    SameFrame second first :=
  ⟨same.kind.symm, same.cwlVersion.symm, same.namespaces.symm, same.inputs.symm,
      same.requirements.symm,
    same.hints.symm⟩

theorem evaluateNamed_cells (kind : ToolKind) (part : String) (requirement : Requirement) :
    cellsOf (evaluateNamed js inputs kind part requirement).1 =
        (sweep (evaluateCell js inputs) (cellsOf requirement)).1 ∧
      ((evaluateNamed js inputs kind part requirement).2 = none ↔
        (sweep (evaluateCell js inputs) (cellsOf requirement)).2 = none) := by
  have evaluated := @evaluateRequirement_cells js inputs requirement
  refine ⟨evaluated.1, ?_⟩
  rw [<- evaluated.2]
  exact Option.map_eq_none_iff

/-- The loop over the requirements, or over the hints. -/
theorem eachNamed_cells (kind : ToolKind) (part : String) (requirements : List Requirement) :
    (each (evaluateNamed js inputs kind part) requirements).1.flatMap cellsOf =
        (sweep (evaluateCell js inputs) (requirements.flatMap cellsOf)).1 ∧
      ((each (evaluateNamed js inputs kind part) requirements).2 = none ↔
        (sweep (evaluateCell js inputs) (requirements.flatMap cellsOf)).2 = none) :=
  each_cells (fun requirement => (evaluateNamed_cells kind part requirement).1)
    (fun requirement => (evaluateNamed_cells kind part requirement).2) requirements

theorem eachNamed_shape (kind : ToolKind) (part : String) (requirements : List Requirement) :
    (each (evaluateNamed js inputs kind part) requirements).1.map shapeOf =
        requirements.map shapeOf :=
  @each_shape _ _ _ (evaluateNamed js inputs kind part) shapeOf
      (fun requirement => evaluateRequirement_shape requirement)
    requirements

/-- Evaluating a tool is a sweep over its cells, which keeps everything else. -/
theorem evaluateTool_cells (tool : Tool) :
    SameFrame (evaluateTool js inputs tool).1 tool ∧
      cellsOfTool (evaluateTool js inputs tool).1 =
          (sweep (evaluateCell js inputs) (cellsOfTool tool)).1 ∧
      ((evaluateTool js inputs tool).2 = none ↔
          (sweep (evaluateCell js inputs) (cellsOfTool tool)).2 = none) := by
  have requirements := @eachNamed_cells js inputs tool.kind "Requirements" tool.requirements
  have hints := @eachNamed_cells js inputs tool.kind "Hints" tool.hints
  have parts := @sweep_append Cell Stop (evaluateCell js inputs) (tool.requirements.flatMap cellsOf)
    (tool.hints.flatMap cellsOf)
  have shapes := @eachNamed_shape js inputs tool.kind "Requirements" tool.requirements
  unfold evaluateTool
  dsimp only
  cases stopped : (each (evaluateNamed js inputs tool.kind "Requirements") tool.requirements).2 with
  | some err =>
      have failed : (sweep (evaluateCell js inputs) (tool.requirements.flatMap cellsOf)).2 ≠
          none := by
        intro passed
        rw [requirements.2.mpr passed] at stopped
        cases stopped
      refine ⟨⟨rfl, rfl, rfl, rfl, shapes, rfl⟩, ?_, ?_⟩
      · refine Eq.trans ?_ parts.1.symm
        rw [if_neg failed, <- requirements.1]
        rfl
      · exact ⟨fun none => (nomatch none), fun passed => absurd (parts.2.mp passed).1 failed⟩
  | none =>
      have passed := requirements.2.mp stopped
      refine ⟨⟨rfl, rfl, rfl, rfl, shapes, eachNamed_shape tool.kind "Hints" tool.hints⟩, ?_, ?_⟩
      · refine Eq.trans ?_ parts.1.symm
        rw [if_pos passed, <- requirements.1, <- hints.1]
        rfl
      · exact hints.2.trans ⟨fun later => parts.2.mpr ⟨passed, later⟩, fun both =>
          (parts.2.mp both).2⟩

/-- Tools with the same frame are told apart by their cells. -/
theorem SameFrame.requirements_iff {first second : Tool} (same : SameFrame first second) :
    (first.requirements = second.requirements ∧ first.hints = second.hints) ↔
      cellsOfTool first = cellsOfTool second := by
  constructor
  · rintro ⟨requirements, hints⟩
    unfold cellsOfTool
    rw [requirements, hints]
  · intro cells
    have both := List.append_inj cells (flatMap_length_of_shape cellsOf_length same.requirements)
    exact ⟨objects_eq_of_cells cellsOf_length requirement_eq_of_cells same.requirements both.1,
      objects_eq_of_cells cellsOf_length requirement_eq_of_cells same.hints both.2⟩

end

/-! ## Two workunits of one tool -/

section

variable (js : Javascript) (first second : String -> Option CWLValue)

/-- A cell that the first evaluation has replaced gives the second one what the
original gives it. -/
def Reusable : Cell -> Prop
  | .field (some (.string _)) => False
  | .listing (.string text) | .listing (.stringPtr text) =>
      Exists fun found => evaluateExpression js first none text = .ok (.string found) ∧
        evaluateExpression js second none found = evaluateExpression js second none text
  | .entry (.string text) =>
      match evaluateExpression js first none text with
      | .ok (.string found) => evaluateExpression js second none found = evaluateExpression js
          second none text
      | result => evaluateExpression js second none text = result
  | _ => True

/-- The second evaluation fails on a cell as the first one leaves it. -/
def Spoiled : Cell -> Prop
  | .field (some (.string _)) => True
  | .listing (.string text) | .listing (.stringPtr text) =>
      forall found, evaluateExpression js first none text = .ok (.string found) ->
        passes (evaluateCell js second) (.listing (.stringPtr found)) = false
  | .entry (.string text) =>
      Exists fun found => evaluateExpression js first none text = .ok (.string found) ∧
        passes (evaluateCell js second) (.entry (.string found)) = false
  | cell => passes (evaluateCell js second) cell = false

/-- What two evaluations of the same cells need for the second one to be as if
it were alone. -/
def Compatible (cells : List Cell) : Prop :=
  ((forall cell, cell ∈ cells -> passes (evaluateCell js second) cell = true) ->
    forall cell, cell ∈ cells.takeWhile (passes (evaluateCell js first)) ->
    Reusable js first second cell) ∧
  ((Exists fun cell => cell ∈ cells ∧ passes (evaluateCell js second) cell = false) ->
    (Exists fun cell => cell ∈ cells.takeWhile (passes (evaluateCell js first)) ∧
    Spoiled js first second cell) ∨
    Exists fun cell => cell ∈ cells.dropWhile (passes (evaluateCell js first)) ∧
      passes (evaluateCell js second) cell = false)

end

section

variable {js : Javascript} {first second : String -> Option CWLValue}

theorem listingEntry_inj {value other : CWLValue} {entry : ListingEntry}
    (accepted : listingEntry value = some entry) (also : listingEntry other = some entry) :
    value = other := by
  unfold listingEntry at accepted also
  split at accepted
  · cases accepted
    split at also
    · cases also
      rfl
    all_goals cases also
  · cases accepted
    split at also
    · cases also
    · cases also
      rfl
    all_goals cases also
  · cases accepted
    split at also
    · cases also
    · cases also
    · cases also
      rfl
    · cases also
  · cases accepted

/-- What `Listing` holds for an evaluated text, in either mode. -/
def listingOf : CWLValue -> Listing
  | .string text => .stringPtr text
  | value => .pointer value

theorem listingValue_some {arrays : Bool} {value : CWLValue} {listing : Listing}
    (accepted : listingValue arrays value = some listing) :
    listing = listingOf value ∧ listingValue true value = some listing := by
  unfold listingValue at accepted
  split at accepted
  · cases accepted
    exact ⟨rfl, rfl⟩
  · split at accepted
    · cases accepted
      exact ⟨rfl, rfl⟩
    · cases accepted
  · cases accepted
    exact ⟨rfl, rfl⟩
  · cases accepted
    exact ⟨rfl, rfl⟩
  · cases accepted

theorem listingOf_inj {value other : CWLValue} (same : listingOf value = listingOf other) :
    value = other := by
  cases value <;> cases other <;> injection same
  next equal => rw [equal]

section

variable {inputs : String -> Option CWLValue}

theorem evaluateEntry_text_iff {text : String} {entry : ListingEntry} :
    evaluateEntry js inputs (.string text) = .ok entry ↔
      Exists fun found => evaluateExpression js inputs none text = .ok found ∧
          listingEntry found = some entry := by
  unfold evaluateEntry
  dsimp only
  constructor
  · intro evaluated
    cases result : evaluateExpression js inputs none text with
    | error err =>
        rw [result] at evaluated
        cases evaluated
    | ok found =>
        rw [result] at evaluated
        dsimp only at evaluated
        cases accepted : listingEntry found with
        | none =>
            rw [accepted] at evaluated
            cases evaluated
        | some entry =>
            rw [accepted] at evaluated
            cases evaluated
            exact ⟨found, rfl, accepted⟩
  · rintro ⟨found, result, accepted⟩
    rw [result]
    dsimp only
    rw [accepted]

/-- Both forms of a text in `Listing`. -/
inductive IsText (text : String) : Bool -> Listing -> Prop where
  | string : IsText text false (.string text)
  | stringPtr : IsText text true (.stringPtr text)

theorem evaluateSingle_text_iff {text : String} {arrays : Bool} {listing value : Listing}
    (isText : IsText text arrays listing) :
    evaluateSingle js inputs listing = .ok value ↔
      Exists fun found => evaluateExpression js inputs none text = .ok found ∧
          listingValue arrays found = some value := by
  cases isText with
  | string =>
      refine ⟨evaluateText_cases, ?_⟩
      rintro ⟨found, result, accepted⟩
      unfold evaluateSingle
      dsimp only
      rw [result]
      dsimp only
      rw [accepted]
  | stringPtr =>
      refine ⟨evaluateText_cases, ?_⟩
      rintro ⟨found, result, accepted⟩
      unfold evaluateSingle
      dsimp only
      rw [result]
      dsimp only
      rw [accepted]

theorem evaluateCell_entry_iff {text : String} {cell : Cell} :
    evaluateCell js inputs (.entry (.string text)) = .ok cell ↔
      Exists fun found => Exists fun entry => evaluateExpression js inputs none text = .ok found ∧
        listingEntry found = some entry ∧ cell = .entry entry := by
  have mapped : evaluateCell js inputs (.entry (.string text)) =
      (evaluateEntry js inputs (.string text)).map Cell.entry := rfl
  rw [mapped]
  constructor
  · intro evaluated
    cases result : evaluateEntry js inputs (.string text) with
    | error err =>
        rw [result] at evaluated
        cases evaluated
    | ok entry =>
        rw [result] at evaluated
        cases evaluated
        rcases evaluateEntry_text_iff.mp result with ⟨found, isFound, accepted⟩
        exact ⟨found, entry, isFound, accepted, rfl⟩
  · rintro ⟨found, entry, isFound, accepted, rfl⟩
    rw [evaluateEntry_text_iff.mpr ⟨found, isFound, accepted⟩]
    rfl

theorem evaluateCell_listing_iff {text : String} {arrays : Bool} {listing : Listing} {cell : Cell}
    (isText : IsText text arrays listing) :
    evaluateCell js inputs (.listing listing) = .ok cell ↔
      Exists fun found => evaluateExpression js inputs none text = .ok found ∧
        listingValue arrays found = some (listingOf found) ∧ cell = .listing (listingOf found) := by
  have mapped : evaluateCell js inputs (.listing listing) = (evaluateSingle js inputs listing).map
      Cell.listing := rfl
  rw [mapped]
  constructor
  · intro evaluated
    cases result : evaluateSingle js inputs listing with
    | error err =>
        rw [result] at evaluated
        cases evaluated
    | ok value =>
        rw [result] at evaluated
        cases evaluated
        rcases (evaluateSingle_text_iff isText).mp result with ⟨found, isFound, accepted⟩
        have shown := (listingValue_some accepted).1
        rw [shown] at accepted
        exact ⟨found, isFound, accepted, congrArg Cell.listing shown⟩
  · rintro ⟨found, isFound, accepted, rfl⟩
    rw [(evaluateSingle_text_iff isText).mpr ⟨found, isFound, accepted⟩]
    rfl

end

/-- The string of a field is replaced by something that the next evaluation
refuses. -/
theorem field_text_value {text : String}
    (firstPasses : passes (evaluateCell js first) (.field (some (.string text))) = true) :
    evaluateCell js second (value (evaluateCell js first) (.field (some (.string text)))) =
      .error (.err "(ResourceRequirement/Evaluate) type invalid for field") := by
  have mapped (inputs : String -> Option CWLValue) (fieldValue : Option ResourceValue) :
      evaluateCell js inputs (.field fieldValue) = (evaluateField js inputs fieldValue).map
          Cell.field := rfl
  unfold passes at firstPasses
  unfold value
  rw [mapped] at firstPasses ⊢
  unfold evaluateField at firstPasses ⊢
  dsimp only at firstPasses ⊢
  cases result : evaluateExpression js first none text with
  | error err =>
      rw [result] at firstPasses
      cases firstPasses
  | ok found => rfl

theorem envValue_expression_fails (text : String) :
    passes (evaluateCell js first) (.envValue (.expression text)) = false := by
  have mapped : evaluateCell js first (.envValue (.expression text)) =
      (evaluateEnvValue js first (.expression text)).map Cell.envValue := rfl
  unfold passes
  rw [mapped]
  unfold evaluateEnvValue
  dsimp only
  cases evaluateExpression js first none text with
  | error err => rfl
  | ok found => rfl

/-- A text in `Listing` that both evaluations accept. -/
theorem reusable_text {text : String} {arrays : Bool} {listing : Listing}
    (isText : IsText text arrays listing)
    (firstPasses : passes (evaluateCell js first) (.listing listing) = true)
    (secondPasses : passes (evaluateCell js second) (.listing listing) = true) :
    evaluateCell js second (value (evaluateCell js first) (.listing listing)) =
        evaluateCell js second (.listing listing) ↔
      Exists fun found => evaluateExpression js first none text = .ok (.string found) ∧
        evaluateExpression js second none found = evaluateExpression js second none text := by
  obtain ⟨found, isFound, accepted, isValue⟩ :=
      (evaluateCell_listing_iff isText).mp (evaluate_of_passes firstPasses)
  obtain ⟨own, isOwn, ownAccepted, isOwnValue⟩ :=
    (evaluateCell_listing_iff isText).mp (evaluate_of_passes secondPasses)
  have alone : evaluateCell js second (.listing listing) = .ok (.listing (listingOf own)) := by
    rw [evaluate_of_passes secondPasses, isOwnValue]
  rw [isValue, alone]
  cases found with
  | string foundText =>
      have again : IsText foundText true (listingOf (.string foundText)) := IsText.stringPtr
      rw [evaluateCell_listing_iff again]
      constructor
      · rintro ⟨other, isOther, _, shown⟩
        refine ⟨foundText, isFound, ?_⟩
        rw [isOther, isOwn, listingOf_inj (Cell.listing.inj shown)]
      · rintro ⟨other, isOther, same⟩
        rw [isFound] at isOther
        cases isOther
        exact ⟨own, same.trans isOwn, (listingValue_some ownAccepted).2, rfl⟩
  | null =>
      refine ⟨fun fails => (nomatch fails), fun given => ?_⟩
      rcases given with ⟨_, isString, _⟩
      rw [isFound] at isString
      cases isString
  | array items =>
      refine ⟨fun fails => (nomatch fails), fun given => ?_⟩
      rcases given with ⟨_, isString, _⟩
      rw [isFound] at isString
      cases isString
  | other cwlClass json =>
      refine ⟨fun fails => (nomatch fails), fun given => ?_⟩
      rcases given with ⟨_, isString, _⟩
      rw [isFound] at isString
      cases isString

/-- What the first evaluation leaves of a text in a list. -/
theorem reusable_entry {text : String}
    (firstPasses : passes (evaluateCell js first) (.entry (.string text)) = true)
    (secondPasses : passes (evaluateCell js second) (.entry (.string text)) = true) :
    evaluateCell js second (value (evaluateCell js first) (.entry (.string text))) =
        evaluateCell js second (.entry (.string text)) ↔
      Reusable js first second (.entry (.string text)) := by
  obtain ⟨found, entry, isFound, accepted, isValue⟩ :=
      evaluateCell_entry_iff.mp (evaluate_of_passes firstPasses)
  obtain ⟨own, ownEntry, isOwn, ownAccepted, isOwnValue⟩ :=
    evaluateCell_entry_iff.mp (evaluate_of_passes secondPasses)
  have alone : evaluateCell js second (.entry (.string text)) = .ok (.entry ownEntry) := by
    rw [evaluate_of_passes secondPasses, isOwnValue]
  unfold Reusable
  dsimp only
  rw [isValue, alone, isFound]
  -- A file or a directory stays as it is.
  have stays (unchanged : evaluateCell js second (.entry entry) = .ok (.entry entry)) :
      evaluateCell js second (.entry entry) = .ok (.entry ownEntry) ↔
        evaluateExpression js second none text = .ok found := by
    rw [unchanged, isOwn]
    constructor
    · intro same
      rw [<- Cell.entry.inj (Except.ok.inj same)] at ownAccepted
      rw [listingEntry_inj ownAccepted accepted]
    · intro same
      rw [Except.ok.inj same, accepted] at ownAccepted
      rw [Option.some.inj ownAccepted]
  cases found with
  | null => cases accepted
  | array items => cases accepted
  | string foundText =>
      cases accepted
      dsimp only
      rw [evaluateCell_entry_iff]
      constructor
      · rintro ⟨other, otherEntry, isOther, otherAccepted, shown⟩
        rw [<- Cell.entry.inj shown] at otherAccepted
        rw [isOther, isOwn, listingEntry_inj otherAccepted ownAccepted]
      · intro same
        exact ⟨own, ownEntry, same.trans isOwn, ownAccepted, rfl⟩
  | other cwlClass json =>
      dsimp only
      apply stays
      unfold listingEntry at accepted
      split at accepted
      · next isText => cases isText
      · cases accepted
        rfl
      · cases accepted
        rfl
      · cases accepted

/-- For a cell that both evaluations accept. -/
theorem reusable_iff {cell : Cell} (firstPasses : passes (evaluateCell js first) cell = true)
    (secondPasses : passes (evaluateCell js second) cell = true) :
    evaluateCell js second (value (evaluateCell js first) cell) = evaluateCell js second cell ↔
      Reusable js first second cell := by
  cases cell with
  | field fieldValue =>
      cases fieldValue with
      | none => exact ⟨fun _ => trivial, fun _ => rfl⟩
      | some present =>
          cases present with
          | int number => exact ⟨fun _ => trivial, fun _ => rfl⟩
          | int64 number => exact ⟨fun _ => trivial, fun _ => rfl⟩
          | float64 json => cases firstPasses
          | evaluated found => cases firstPasses
          | string text =>
              refine ⟨fun same => ?_, fun impossible => absurd impossible id⟩
              rw [field_text_value firstPasses, evaluate_of_passes secondPasses] at same
              cases same
  | envValue envValue =>
      cases envValue with
      | other json => exact ⟨fun _ => trivial, fun _ => rfl⟩
      | expression text =>
          rw [envValue_expression_fails] at firstPasses
          cases firstPasses
  | entry entry =>
      cases entry with
      | dirent json => cases firstPasses
      | other cwlClass => cases firstPasses
      | file json => exact ⟨fun _ => trivial, fun _ => rfl⟩
      | directory json => exact ⟨fun _ => trivial, fun _ => rfl⟩
      | string text => exact reusable_entry firstPasses secondPasses
  | listing listing =>
      cases listing with
      | array entries => cases firstPasses
      | pointer pointed => cases firstPasses
      | dirent json => exact ⟨fun _ => trivial, fun _ => rfl⟩
      | file json => exact ⟨fun _ => trivial, fun _ => rfl⟩
      | directory json => exact ⟨fun _ => trivial, fun _ => rfl⟩
      | string text => exact reusable_text IsText.string firstPasses secondPasses
      | stringPtr text => exact reusable_text IsText.stringPtr firstPasses secondPasses

/-- The second evaluation of a text in `Listing` fails unless the first one has
left a text. -/
theorem spoiled_text {text : String} {arrays : Bool} {listing : Listing}
    (isText : IsText text arrays listing)
    (firstPasses : passes (evaluateCell js first) (.listing listing) = true) :
    passes (evaluateCell js second) (value (evaluateCell js first) (.listing listing)) = false ↔
      forall found, evaluateExpression js first none text = .ok (.string found) ->
        passes (evaluateCell js second) (.listing (.stringPtr found)) = false := by
  obtain ⟨found, isFound, accepted, isValue⟩ :=
      (evaluateCell_listing_iff isText).mp (evaluate_of_passes firstPasses)
  rw [isValue, isFound]
  cases found with
  | string foundText =>
      constructor
      · intro fails other isOther
        cases isOther
        exact fails
      · intro fails
        exact fails foundText rfl
  | null => exact ⟨fun _ _ isString => (nomatch isString), fun _ => rfl⟩
  | array items => exact ⟨fun _ _ isString => (nomatch isString), fun _ => rfl⟩
  | other cwlClass json => exact ⟨fun _ _ isString => (nomatch isString), fun _ => rfl⟩

/-- For a cell that the first evaluation accepts. -/
theorem spoiled_iff {cell : Cell} (firstPasses : passes (evaluateCell js first) cell = true) :
    passes (evaluateCell js second) (value (evaluateCell js first) cell) = false ↔
      Spoiled js first second cell := by
  cases cell with
  | field fieldValue =>
      cases fieldValue with
      | none => exact Iff.rfl
      | some present =>
          cases present with
          | int number => exact Iff.rfl
          | int64 number => exact Iff.rfl
          | float64 json => cases firstPasses
          | evaluated found => cases firstPasses
          | string text =>
              refine ⟨fun _ => trivial, fun _ => ?_⟩
              unfold passes
              rw [field_text_value firstPasses]
  | envValue envValue =>
      cases envValue with
      | other json => exact Iff.rfl
      | expression text =>
          rw [envValue_expression_fails] at firstPasses
          cases firstPasses
  | entry entry =>
      cases entry with
      | dirent json => cases firstPasses
      | other cwlClass => cases firstPasses
      | file json => exact Iff.rfl
      | directory json => exact Iff.rfl
      | string text =>
          obtain ⟨found, entry, isFound, accepted, isValue⟩ :=
            evaluateCell_entry_iff.mp (evaluate_of_passes firstPasses)
          unfold Spoiled
          dsimp only
          rw [isValue, isFound]
          unfold listingEntry at accepted
          split at accepted
          · cases accepted
            constructor
            · exact fun fails => ⟨_, rfl, fails⟩
            · rintro ⟨other, isOther, fails⟩
              cases isOther
              exact fails
          · cases accepted
            refine ⟨fun fails => (nomatch fails), fun given => ?_⟩
            rcases given with ⟨_, isString, _⟩
            cases isString
          · cases accepted
            refine ⟨fun fails => (nomatch fails), fun given => ?_⟩
            rcases given with ⟨_, isString, _⟩
            cases isString
          · cases accepted
  | listing listing =>
      cases listing with
      | array entries => cases firstPasses
      | pointer pointed => cases firstPasses
      | dirent json => exact Iff.rfl
      | file json => exact Iff.rfl
      | directory json => exact Iff.rfl
      | string text => exact spoiled_text IsText.string firstPasses
      | stringPtr text => exact spoiled_text IsText.stringPtr firstPasses

/-- Two evaluations of the same cells. -/
theorem compatible_iff (cells : List Cell) :
    Undisturbed (evaluateCell js first) (evaluateCell js second) cells ↔
    Compatible js first second cells := by
  have reached {cell : Cell} (member : cell ∈ cells.takeWhile (passes (evaluateCell js first))) :
      cell ∈ cells ∧ passes (evaluateCell js first) cell = true :=
    ⟨(List.takeWhile_sublist _).subset member, List.mem_takeWhile_imp member⟩
  rw [undisturbed_iff]
  unfold Compatible
  constructor
  · rintro ⟨same, fails⟩
    refine ⟨fun all cell member => ?_, fun failing => (fails failing).imp ?_ id⟩
    · rcases reached member with ⟨inside, firstPasses⟩
      exact (reusable_iff firstPasses (all cell inside)).mp (same all cell member)
    · rintro ⟨cell, member, failed⟩
      exact ⟨cell, member, (spoiled_iff (reached member).2).mp failed⟩
  · rintro ⟨reusable, spoiled⟩
    refine ⟨fun all cell member => ?_, fun failing => (spoiled failing).imp ?_ id⟩
    · rcases reached member with ⟨inside, firstPasses⟩
      exact (reusable_iff firstPasses (all cell inside)).mpr (reusable all cell member)
    · rintro ⟨cell, member, failed⟩
      exact ⟨cell, member, (spoiled_iff (reached member).2).mpr failed⟩

end

/-! ## NewWorkunit twice -/

/-- Two results of `NewWorkunit`: both are errors, or both are workunits whose
tools have the same requirements and hints. -/
def SameRequirements :
    Except Stop CWLWorkunit × (Nat -> Tool) -> Except Stop CWLWorkunit × (Nat -> Tool) -> Prop
  | (.ok workunit, tools), (.ok other, others) =>
      (tools workunit.tool).requirements = (others other.tool).requirements ∧
        (tools workunit.tool).hints = (others other.tool).hints
  | (.error _, _), (.error _, _) => True
  | _, _ => False

/-- The second call of `NewWorkunit` gives what it gives without the first one. The tools are
behind pointers, so the first call leaves the second one with other tools; everything else of the
second call is its own. -/
def Unaffected (js : Javascript) (context : ToolContext) (tools : Nat -> Tool)
    (first second : WorkunitCall) : Prop :=
  SameRequirements (newWorkunit js context tools second)
    (newWorkunit js context (newWorkunit js context tools first).2 second)

/-- If both calls come to evaluate the same tool, its cells allow it. It looks at the cells of the
tool in the order in which they are evaluated, since an error in one of them keeps those behind it
as they are. -/
def CompatibleCalls (js : Javascript) (context : ToolContext) (tools : Nat -> Tool)
    (first second : WorkunitCall) :
    Prop :=
  forall ptr tool host otherHost map otherMap, selectTool context tools first = .ok (ptr, tool) ->
    selectTool context tools second = .ok (ptr, tool) ->
    gatherInputs js first tool.kind tool.inputs = .ok (host, map) ->
    gatherInputs js second tool.kind tool.inputs = .ok (otherHost, otherMap) ->
    Compatible js map.lookup otherMap.lookup (cellsOfTool tool)

section

variable {js : Javascript} {context : ToolContext} {tools : Nat -> Tool}

theorem SameRequirements.refl (result : Except Stop CWLWorkunit × (Nat -> Tool)) :
    SameRequirements result result := by
  rcases result with ⟨outcome, after⟩
  cases outcome with
  | error err => trivial
  | ok workunit => exact ⟨rfl, rfl⟩

/-- A selected tool, also after its requirements were evaluated, needs nothing
from the context. -/
theorem adopt_of_sameFrame {tool left : Tool} (same : SameFrame left (adopt context tool))
    (version : (adopt context tool).cwlVersion ≠ "") : adopt context left = left := by
  have versionLeft : left.cwlVersion ≠ "" := by
    rw [same.cwlVersion]
    exact version
  have namespaces : (left.namespaces <|> context.namespaces) = left.namespaces := by
    rw [same.namespaces]
    unfold adopt
    dsimp only
    cases tool.namespaces with
    | none => cases context.namespaces <;> rfl
    | some namespaces => rfl
  unfold adopt
  rw [if_neg versionLeft, namespaces]

theorem newWorkunit_selected {call : WorkunitCall} {ptr : Nat} {tool : Tool}
    (selected : selectTool context tools call = .ok (ptr, tool)) :
    newWorkunit js context tools call = buildWorkunit js tools call ptr tool := by
  unfold newWorkunit
  rw [selected]

theorem newWorkunit_unselected {call : WorkunitCall} {err : String}
    (fails : selectTool context tools call = .error err) :
    newWorkunit js context tools call = (.error (.err err), tools) := by
  unfold newWorkunit
  rw [fails]

theorem selectTool_eq {call : WorkunitCall} {ptr : Nat} (points : toolPtr context call = .ok ptr) :
    selectTool context tools call =
      if (adopt context (tools ptr)).cwlVersion = "" then
        .error ("(NewWorkunit) " ++ (adopt context (tools ptr)).kind.text ++ " misses CwlVersion")
      else .ok (ptr, adopt context (tools ptr)) := by
  unfold selectTool
  rw [points]

theorem selectTool_ok {call : WorkunitCall} {ptr : Nat} {tool : Tool}
    (selected : selectTool context tools call = .ok (ptr, tool)) :
    tool = adopt context (tools ptr) ∧ tool.cwlVersion ≠ "" := by
  cases points : toolPtr context call with
  | error err =>
      unfold selectTool at selected
      rw [points] at selected
      cases selected
  | ok found =>
      rw [selectTool_eq points] at selected
      split at selected
      · cases selected
      · next version =>
          rcases Prod.mk.inj (Except.ok.inj selected) with ⟨isPtr, isTool⟩
          rw [<- isPtr, <- isTool]
          exact ⟨rfl, version⟩

/-- The workunit depends on the other tools in no way. -/
theorem buildWorkunit_elsewhere (js : Javascript) (tools others : Nat -> Tool) (call : WorkunitCall)
    (ptr : Nat) (tool : Tool) :
    SameRequirements (buildWorkunit js tools call ptr tool)
        (buildWorkunit js others call ptr tool) := by
  unfold buildWorkunit
  cases gatherInputs js call tool.kind tool.inputs with
  | error err => trivial
  | ok gathered =>
      dsimp only
      cases (evaluateTool js gathered.2.lookup tool).2 with
      | some err => trivial
      | none =>
          unfold SameRequirements
          dsimp only
          rw [Function.update_self, Function.update_self]
          exact ⟨rfl, rfl⟩

/-- A call that changes nothing but one tool leaves that tool with its frame. -/
theorem newWorkunit_leaves {call : WorkunitCall} {ptr : Nat} {tool : Tool}
    (selected : selectTool context tools call = .ok (ptr, tool)) :
    Exists fun left => (newWorkunit js context tools call).2 = Function.update tools ptr left ∧
      SameFrame left tool ∧
      ((forall host map, gatherInputs js call tool.kind tool.inputs = .ok (host, map) ->
        left = (evaluateTool js map.lookup tool).1) ∧
      ((Exists fun err => gatherInputs js call tool.kind tool.inputs = .error err) ->
          left = tool)) := by
  rw [newWorkunit_selected selected]
  unfold buildWorkunit
  cases gathered : gatherInputs js call tool.kind tool.inputs with
  | error err =>
      refine ⟨tool, rfl, ⟨rfl, rfl, rfl, rfl, rfl, rfl⟩, fun _ _ given => (nomatch given), fun _ =>
          rfl⟩
  | ok found =>
      rcases found with ⟨host, map⟩
      refine ⟨(evaluateTool js map.lookup tool).1, ?_, (evaluateTool_cells tool).1, ?_, ?_⟩
      · dsimp only
        cases (evaluateTool js map.lookup tool).2 with
        | some err => rfl
        | none => rfl
      · intro _ _ given
        cases given
        rfl
      · rintro ⟨err, given⟩
        cases given

/-- The second call on the tool itself and on what the first call left of it. -/
theorem buildWorkunit_iff {second : WorkunitCall} {ptr : Nat} {tool : Tool} {host : String}
    {map otherMap : GoMap String CWLValue}
    (gathered : gatherInputs js second tool.kind tool.inputs = .ok (host, otherMap))
    (others : Nat -> Tool) :
    SameRequirements (buildWorkunit js tools second ptr tool)
        (buildWorkunit js others second ptr (evaluateTool js map.lookup tool).1) ↔
      Compatible js map.lookup otherMap.lookup (cellsOfTool tool) := by
  obtain ⟨left, isLeft⟩ : Exists fun left => left = (evaluateTool js map.lookup tool).1 := ⟨_, rfl⟩
  have evaluated := @evaluateTool_cells js map.lookup tool
  rw [<- isLeft] at evaluated ⊢
  have alone := @evaluateTool_cells js otherMap.lookup tool
  have after := @evaluateTool_cells js otherMap.lookup left
  rw [evaluated.2.1] at after
  have frame : SameFrame (evaluateTool js otherMap.lookup left).1
      (evaluateTool js otherMap.lookup tool).1 :=
    (after.1.trans evaluated.1).trans alone.1.symm
  have gatheredLeft : gatherInputs js second left.kind left.inputs = .ok (host, otherMap) := by
    rw [evaluated.1.kind, evaluated.1.inputs]
    exact gathered
  rw [<- compatible_iff]
  unfold Undisturbed
  rw [<- alone.2.2, <- after.2.2, <- after.2.1, <- alone.2.1, <- frame.requirements_iff]
  unfold buildWorkunit
  rw [gathered, gatheredLeft]
  dsimp only
  cases (evaluateTool js otherMap.lookup tool).2 with
  | some err =>
      cases (evaluateTool js otherMap.lookup left).2 with
      | some other =>
          refine ⟨fun _ => ⟨⟨fun passed => (nomatch passed), fun passed => (nomatch passed)⟩,
            fun passed => (nomatch passed)⟩, fun _ => trivial⟩
      | none =>
          refine ⟨fun impossible => absurd impossible id, fun same => ?_⟩
          cases same.1.mp rfl
  | none =>
      cases (evaluateTool js otherMap.lookup left).2 with
      | some other =>
          refine ⟨fun impossible => absurd impossible id, fun same => ?_⟩
          cases same.1.mpr rfl
      | none =>
          unfold SameRequirements
          dsimp only
          rw [Function.update_self, Function.update_self]
          constructor
          · rintro ⟨requirements, hints⟩
            exact ⟨Iff.rfl, fun _ => ⟨requirements.symm, hints.symm⟩⟩
          · rintro ⟨_, same⟩
            exact ⟨(same rfl).1.symm, (same rfl).2.symm⟩

/-- The workunit of the second task is as if `NewWorkunit` had never been called for the first one
exactly if the two calls are compatible.  The tool is shared through the context and `Evaluate`
writes into it. What the second task finds in a cell is what the first one has put there: a value
needs no evaluation, and in some places it is of a type that the switch refuses. -/
theorem unaffected_iff_compatible (js : Javascript) (context : ToolContext) (tools : Nat -> Tool)
    (first second : WorkunitCall) :
    Unaffected js context tools first second ↔ CompatibleCalls js context tools first second := by
  unfold Unaffected CompatibleCalls
  cases selected : selectTool context tools first with
  | error err =>
      rw [newWorkunit_unselected selected]
      exact ⟨fun _ _ _ _ _ _ _ given => (nomatch given), fun _ => SameRequirements.refl _⟩
  | ok chosen =>
      rcases chosen with ⟨ptr, tool⟩
      obtain ⟨left, isLeft, frame, evaluated, unchanged⟩ :=
          @newWorkunit_leaves js context tools first ptr tool selected
      rw [isLeft]
      rcases selectTool_ok selected with ⟨isTool, version⟩
      cases points : toolPtr context second with
      | error err =>
          have fails (objects : Nat -> Tool) : selectTool context objects second = .error err := by
            unfold selectTool
            rw [points]
          rw [newWorkunit_unselected (fails _), newWorkunit_unselected (fails _)]
          refine ⟨fun _ _ _ _ _ _ _ _ given => ?_, fun _ => trivial⟩
          rw [fails] at given
          cases given
      | ok otherPtr =>
          by_cases same : otherPtr = ptr
          · -- Both calls select the same tool.
            rw [same] at points
            have alone : selectTool context tools second = .ok (ptr, tool) := by
              rw [selectTool_eq points, <- isTool, if_neg version]
            have kept : adopt context left = left := by
              rw [isTool] at frame version
              exact adopt_of_sameFrame frame version
            have after : selectTool context (Function.update tools ptr left) second = .ok
                (ptr, left) := by
              rw [selectTool_eq points, Function.update_self, kept, if_neg]
              rw [frame.cwlVersion]
              exact version
            rw [newWorkunit_selected alone, newWorkunit_selected after]
            cases gathered : gatherInputs js first tool.kind tool.inputs with
            | error err =>
                rw [unchanged ⟨err, gathered⟩]
                refine ⟨fun _ _ _ _ _ _ _ isFirst _ given => ?_, fun _ =>
                    buildWorkunit_elsewhere _ _ _ _ _ _⟩
                cases isFirst
                rw [gathered] at given
                cases given
            | ok found =>
                rcases found with ⟨host, map⟩
                rw [evaluated host map gathered] at frame ⊢
                cases gatheredSecond : gatherInputs js second tool.kind tool.inputs with
                | error err =>
                    refine ⟨fun _ _ _ _ _ _ _ isFirst _ _ given => ?_, fun _ => ?_⟩
                    · cases isFirst
                      rw [gatheredSecond] at given
                      cases given
                    · unfold buildWorkunit
                      rw [frame.kind, frame.inputs, gatheredSecond]
                      trivial
                | ok foundSecond =>
                    rcases foundSecond with ⟨otherHost, otherMap⟩
                    rw [buildWorkunit_iff gatheredSecond]
                    constructor
                    · intro compatible _ _ _ _ _ _ isFirst _ isMap isOther
                      cases isFirst
                      rw [gathered] at isMap
                      rw [gatheredSecond] at isOther
                      cases isMap
                      cases isOther
                      exact compatible
                    · intro compatible
                      exact compatible ptr tool host otherHost map otherMap rfl alone gathered
                          gatheredSecond
          · -- The second call selects another tool.
            have after : selectTool context (Function.update tools ptr left) second =
                selectTool context tools second := by
              rw [selectTool_eq points, selectTool_eq points, Function.update_of_ne same]
            refine ⟨fun _ _ _ _ _ _ _ isFirst isSecond => ?_, fun _ => ?_⟩
            · cases isFirst
              rw [selectTool_eq points] at isSecond
              split at isSecond
              · cases isSecond
              · exact absurd (Prod.mk.inj (Except.ok.inj isSecond)).1 same
            · cases selectedSecond : selectTool context tools second with
              | error err =>
                  rw [newWorkunit_unselected selectedSecond, newWorkunit_unselected
                      (after.trans selectedSecond)]
                  trivial
              | ok chosen =>
                  rw [newWorkunit_selected selectedSecond, newWorkunit_selected
                      (after.trans selectedSecond)]
                  exact buildWorkunit_elsewhere _ _ _ _ _ _

/-- The JSON text of a file. -/
private def fileJson (location : String) : String :=
  "\x7b\"class\":\"File\",\"location\":\"" ++ location ++ "\"\x7d"

/-- The VM for a step with the file `f` as its only input: the program
`return inputs.f` returns the file. -/
private def fileVM : Javascript :=
  Javascript.plain
    (fun native =>
      match native with
      | .object json => .ok (.other "File" json)
      | _ => .error "not an object")
    fileText
    (fun inputs => "\x7b\"f\":" ++ fileText ((inputs "f").getD .null) ++ "\x7d")
    fun program =>
      if program = expressionProgram "null" ("\x7b\"f\":" ++ fileJson "a" ++ "\x7d") "inputs.f" then
        .ok (.ok "[object Object]", .object (fileJson "a"))
      else if program = expressionProgram "null" ("\x7b\"f\":" ++ fileJson "b" ++ "\x7d") "inputs.f"
          then
        .ok (.ok "[object Object]", .object (fileJson "b"))
      else .error "SyntaxError"
where
  fileText : CWLValue -> String
    | .other _ json => json
    | _ => "null"

/-- A tool that wants its input `f` in the working directory. -/
private def stagingTool : Tool :=
  ⟨.commandLineTool, "v1.0", none, [⟨"#tool/f", none⟩],
      [.initialWorkDir (some (.array [.string "$(inputs.f)"]))], []⟩

/-- A step that runs the tool on a file. -/
private def stagingCall (location : String) : WorkunitCall where
  store := ⟨fun _ => Task.blank, 0, ∅⟩
  job := ⟨"j", .inProgress, true, "#main", ⟨1, 0, "", false⟩, [], 0, ∅,
      AList.insert "#main" WorkflowInstance.blank ∅⟩
  shockApiUrl := some "http://shock"
  taskStr := "task"
  workflowInstanceID := "#main"
  step := ⟨some (.process (.tool 0)),
      [⟨"#main/step/f", none, 0, none, some (.object (fileJson location)), ""⟩], []⟩

/-- The second task gets the file of the first one. -/
theorem second_workunit_has_first_file :
    ¬ forall (js : Javascript) (context : ToolContext) (tools : Nat -> Tool)
        (first second : WorkunitCall),
      Unaffected js context tools first second := by
  intro all
  have same := all fileVM ⟨∅, "v1.0", none⟩ (fun _ => stagingTool) (stagingCall "a")
      (stagingCall "b")
  have listings : [Requirement.initialWorkDir (some (.array [.file (fileJson "b")]))] =
      [Requirement.initialWorkDir (some (.array [.file (fileJson "a")]))] := same.1
  injection listings with requirements
  injection requirements with listing
  injection listing with array
  injection array with entries
  injection entries with entry
  injection entry with json
  exact absurd json (by decide)

end

end Requirements

end Core
end Awe
