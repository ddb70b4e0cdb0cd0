import Awe.Cwl.Requirements
import Awe.Cwl.WorkflowStepInputs
import Awe.Lib.Computation

namespace Awe
namespace Cwl
namespace Processes

open Lib.Path Natives Cwl.Types Requirements WorkflowStepInputs

/-!
# Processes from trees

`NewCommandLineTool`, `NewExpressionTool` and `NewWorkflow` make a process of a
map.  A workflow makes its steps, and every step the process that it runs: the
process is embedded in the step, or it is named, and then `NewProcess` looks for
it among the objects that are finished, the objects of the graph and the files,
in this order.  The context is the state of all this.

The parts of a document that neither hold a requirement nor name a process are
read by parsers that are left open.  Some of these are modelled elsewhere, the
step inputs in `Cwl.WorkflowStepInputs` among them; which requirements are kept
does not depend on them, so they may be any parsers here.  `NewProcess` calls
itself through the other functions, and finds a named process in the context, in
the graph or in a file; the functions take it as an argument, and what is proved
of them holds whatever it does with the context.  A computation that does not
end, because a workflow runs itself, is `none`.
-/

inductive ProcessKind where
  | commandLineTool
  | expressionTool
  | workflow
  deriving DecidableEq, Repr

/-- The field `Run` of a step. -/
inductive Run (P : Type) where
  | reference (name : String)
  | embedded (process : P)

/-- `WorkflowStep`. -/
structure StepOf (P : Type) where
  id : String
  requirements : List Requirement
  run : Run P

/-- A `*CommandLineTool`, `*ExpressionTool` or `*Workflow`, of which only the last
has steps.  An entry of the requirements is `none` if it is nil. -/
inductive Process where
  | mk (kind : ProcessKind) (id version : String) (requirements : List (Option Requirement))
      (steps : List (StepOf Process))

abbrev Step := StepOf Process

def Process.id : Process -> String
  | .mk _ id _ _ _ => id

def Process.requirements : Process -> List (Option Requirement)
  | .mk _ _ _ requirements _ => requirements

/-- A `CWLObject`: a process, or a requirement or value. -/
inductive Object where
  | process (process : Process)
  | other

abbrev Fields := List (String × Tree)

/-- The `*WorkflowContext`: `CwlVersion`, the names of `Schemata`, `IfObjects`,
`Objects`, `FilesLoaded`, `Initialized`, and how many UUIDs have been drawn. -/
structure State where
  version : String
  schemata : List String := []
  ifObjects : Fields := []
  objects : List (String × Object) := []
  filesLoaded : List String := []
  initialized : Bool := false
  drawn : Nat := 0

/-- What the functions below are given: the UUIDs, and the parsers of the other
parts. -/
structure Environment where
  library : Library
  uuid : Nat -> String
  inputs : ProcessKind -> Context -> Tree -> Except Failure Unit
  outputs : ProcessKind -> Context -> Tree -> Except Failure Unit
  baseCommand : Tree -> Except Failure Unit
  arguments : Context -> Tree -> Except Failure Unit
  stepOut : Context -> Tree -> Except Failure Unit
  /-- The decoder, on all fields but the embedded `ProcessImpl`. -/
  decode : ProcessKind -> Context -> Fields -> Except Failure Unit
  decodeStep : Context -> Fields -> Except Failure Unit

/-- A computation on the context.  It ends with a value or a failure, and changes
the context in both cases, or it does not end. -/
abbrev Parse := Lib.Computation Failure State

def State.context (state : State) : Context :=
  .of state.schemata

def Context.names : Context -> List String
  | .nil => []
  | .of schemata => schemata
  | .inDirectory _ schemata => schemata

/-- A result that does not change the context. -/
def give {A : Type} (result : Except Failure A) : Parse A :=
  fun state => some (result, state)

/-- A parser that reads the names of the schemas. -/
def reading {A : Type} (parser : Context -> Except Failure A) : Parse A :=
  fun state => some (parser state.context, state)

/-- A parser that may enter names of schemas. -/
def entering {A : Type} (parser : Context -> Except Failure A × Context) : Parse A :=
  fun state => some ((parser state.context).1,
      { state with schemata := Context.names (parser state.context).2 })

def refuse {A : Type} (text : String) : Parse A :=
  give (.error (.error text))

/-- A part of a document that is read if it is there. -/
def readPart (fields : Fields) (key : String) (parser : Context -> Tree -> Except Failure Unit) :
    Parse Unit :=
  match fields.lookup key with
  | none => give (.ok ())
  | some tree => reading fun context => parser context tree

section

variable (env : Environment)

/-- The next UUID. -/
def newUUID : Parse String :=
  fun state => some (.ok (env.uuid state.drawn), { state with drawn := state.drawn + 1 })

/-- The identifier that `ProcessImplInit` gives a process. -/
def identify (fields : Fields) (parentID objectID : String) : Parse String :=
  if objectID ≠ "" then give (.ok objectID)
  else
    match fields.lookup "id" with
    | some (.text own) =>
        if hasPrefix own "#" then give (.ok own)
        else if parentID = "" then
            refuse "(ProcessImplInit) A) parentIdentifier is needed but empty"
        else if hasPrefix (joinPath parentID own) "#" then give (.ok (joinPath parentID own))
        else refuse "(ProcessImplInit) not absolute"
    | some _ => give (.error (.panic "interface conversion: interface {} is not string"))
    | none =>
        if parentID = "" then refuse "(ProcessImplInit) B) parentIdentifier is needed but empty"
        else (newUUID env).map (joinPath parentID)

/-- The types of a schema definition are entered before anything else is read. -/
def enterSchemata (fields : Fields) : Parse Unit :=
  match fields.lookup "requirements" with
  | none => give (.ok ())
  | some tree =>
      entering fun context =>
        (wrap "(ProcessImplInit) GetSchemaDefRequirement returned: "
            (getSchemaDefRequirement tree context).1,
          (getSchemaDefRequirement tree context).2)

/-- `ProcessImplInit`. -/
def processImplInit (fields : Fields) (parentID objectID : String) : Parse String := do
  let id <- identify env fields parentID objectID
  enterSchemata fields
  pure id

/-- The hints of `CreateRequirementAndHints`, which are read after its requirements. -/
def readHints (fields : Fields) (injected : List Requirement) (context : Context) :
    Except Failure Unit × Context :=
  match fields.lookup "hints" with
  | none => (.ok (), context)
  | some .null => (.ok (), context)
  | some hints =>
      (wrap "(NewCommandLineTool) error in CreateRequirementArray (hints): "
          ((createHintsArray env.library hints injected context).1.map fun _ => ()),
        (createHintsArray env.library hints injected context).2)

/-- `CreateRequirementAndHints`: the error, the field `Requirements` of the process
and the context. -/
def createRequirementAndHints (fields : Fields) (injected : List Requirement) (context : Context) :
    Except Failure Unit × List Requirement × Context :=
  match createRequirementArrayAndInject env.library (fields.lookup "requirements") injected context
      with
  | (.error failure, next) =>
      (wrap "(NewCommandLineTool) error in CreateRequirementArray (requirements): "
          (.error failure), [], next)
  | (.ok requirements, next) =>
      ((readHints env fields injected next).1, requirements, (readHints env fields injected next).2)

/-- The call of `CreateRequirementAndHints` in the three constructors.  Each of them
words an error anew and goes on, and the next assignment of `err` overwrites it. -/
def passOver :
    Except Failure Unit × List Requirement × Context -> Except Failure (List Requirement) × Context
  | (.error (.panic text), _, next) => (.error (.panic text), next)
  | (_, requirements, next) => (.ok requirements, next)

def requirementsPassedOver (fields : Fields) (injected : List Requirement) :
    Parse (List Requirement) :=
  entering fun context => passOver (createRequirementAndHints env fields injected context)

/-- The decoded `ProcessImpl`. -/
structure Impl where
  id : String
  requirements : List (Option Requirement)

/-- What the decoder makes of the embedded `ProcessImpl`, which has the tag `-` and
is therefore looked up under this name.  No tree is a requirement, so a list of
requirements can hold nothing but nil. -/
def decodeProcessImpl (fields : Fields) (impl : Impl) : Except Failure Impl :=
  match findField "-" fields with
  | none => .ok impl
  | some tree =>
      if decodesMap [("class", .string), ("id", .string), ("requirements", .list .typed),
          ("hints", .list .typed)] tree then
        .ok { id := match findField "id" (foundFields tree) with
                | some (.text id) => id
                | _ => impl.id
              requirements := match findField "requirements" (foundFields tree) with
                | some (.list elements) => elements.map fun _ => none
                | _ => impl.requirements }
      else .error (.error "1 error(s) decoding")

/-- `mapstructure.Decode` of a process. -/
def decodeProcess (kind : ProcessKind) (fields : Fields) (impl : Impl) : Parse Impl := do
  reading fun context => env.decode kind context fields
  give (decodeProcessImpl fields impl)

/-- The version that a document gives. -/
def versionOf (fields : Fields) : String :=
  textOf (findField "cwlVersion" fields)

def currentVersion : Parse String :=
  fun state => some (.ok state.version, state)

/-- The checks of `NewCommandLineTool` on the decoded identifier. -/
def checkToolID (id : String) : Parse Unit :=
  if id = "" then refuse "(NewCommandLineTool) id is empty!?"
  else if hasPrefix id "#" then give (.ok ())
  else refuse "(NewCommandLineTool) id is not absolute!?"

/-- The check of `NewCommandLineTool` on the identifier that it is given. -/
def checkObjectID (objectID : String) : Parse Unit :=
  if objectID ≠ "" ∧ hasPrefix objectID "#" = false then
    refuse "(NewCWLObject) objectIdentifier has not # as prefix"
  else give (.ok ())

/-- The outputs of a tool, which it must have. -/
def toolOutputs (fields : Fields) : Parse Unit :=
  match fields.lookup "outputs" with
  | none => refuse "(NewCommandLineTool) no outputs !?"
  | some tree => reading fun context => env.outputs .commandLineTool context tree

/-- `NewCommandLineTool` before its requirements are read. -/
def toolParts (fields : Fields) (parentID objectID : String) : Parse String := do
  checkObjectID objectID
  let id <- processImplInit env fields parentID objectID
  readPart fields "inputs" (env.inputs .commandLineTool)
  toolOutputs env fields
  readPart fields "baseCommand" fun _ tree => env.baseCommand tree
  readPart fields "arguments" env.arguments
  pure id

/-- `NewCommandLineTool` after its requirements are read. -/
def finishTool (fields : Fields) (id : String) (requirements : List Requirement) :
    Parse Process := do
  let impl <- decodeProcess env .commandLineTool fields
      { id, requirements := requirements.map some }
  checkToolID impl.id
  let version <- currentVersion
  let own := versionOf fields
  pure (.mk .commandLineTool impl.id (if own = "" then version else own) impl.requirements [])

/-- `NewCommandLineTool`. -/
def newCommandLineTool (fields : Fields) (parentID objectID : String)
    (injected : List Requirement) : Parse Process := do
  let id <- toolParts env fields parentID objectID
  let requirements <- requirementsPassedOver env fields injected
  finishTool env fields id requirements

/-- `NewExpressionTool` before its requirements are read. -/
def expressionParts (fields : Fields) (parentID objectID : String) : Parse String := do
  let id <- processImplInit env fields parentID objectID
  readPart fields "inputs" (env.inputs .expressionTool)
  readPart fields "outputs" (env.outputs .expressionTool)
  pure id

/-- `NewInlineJavascriptRequirement`. -/
def inlineJavascriptRequirement : Requirement :=
  { cls := .inlineJavascript, content := .null }

/-- `NewExpressionTool` after its requirements are read. -/
def finishExpression (fields : Fields) (id : String) (requirements : List Requirement) :
    Parse Process := do
  let impl <- decodeProcess env .expressionTool fields { id, requirements := requirements.map some }
  let version <- currentVersion
  let own := versionOf fields
  if own = "" ∧ version = "" then refuse "(NewExpressionTool) CwlVersion is empty !!! "
  else
    let requirements <- give (addRequirement inlineJavascriptRequirement impl.requirements)
    pure (.mk .expressionTool impl.id (if own = "" then version else own) requirements [])

/-- `NewExpressionTool`. -/
def newExpressionTool (fields : Fields) (parentID objectID : String) (injected : List Requirement) :
    Parse Process := do
  let id <- expressionParts env fields parentID objectID
  let requirements <- requirementsPassedOver env fields injected
  finishExpression env fields id requirements

/-- The version a workflow is checked for. -/
def checkVersion (fields : Fields) : Parse Unit := do
  let version <- currentVersion
  match fields.lookup "cwlVersion" with
  | some (.text own) => if own = "" then refuse "(NewWorkflow) CwlVersion empty" else give (.ok ())
  | some _ => refuse "(NewWorkflow) Could not read CWLVersion"
  | none => if version = "" then refuse "(NewWorkflow) CwlVersion empty" else give (.ok ())

/-- `NewWorkflow` before its requirements are read. -/
def workflowParts (fields : Fields) (parentID objectID : String) : Parse String := do
  reading fun context => checkImport context (fields.lookup "$import")
  let id <- processImplInit env fields parentID objectID
  checkVersion fields
  readPart fields "inputs" (env.inputs .workflow)
  readPart fields "outputs" (env.outputs .workflow)
  pure id

/-! ## Steps -/

/-- A call of `NewProcess`: the tree, the identifier of the step and the requirements
that the step hands down. -/
structure ProcessCall where
  tree : Tree
  parentID : String
  injected : List Requirement

/-- The identifier of a step, which is given by the map of steps or by the step. -/
def stepIdentity (fields : Fields) (stepID workflowID : String) : Except Failure String :=
  match fields.lookup "id" with
  | none =>
      if stepID = "" then .error
          (.error "(NewWorkflowStep) object has no id and argument stepID is empty")
      else if hasPrefix stepID "#" then .ok stepID
      else if workflowID = "" then .error (.error "(NewWorkflowStep) workflowID is empty")
      else .ok (joinPath workflowID stepID)
  | some (.text own) =>
      if hasPrefix own "#" then .ok own
      else if stepID = "" then
        if workflowID = "" then .error (.error "(NewWorkflowStep) workflowID is empty")
        else if hasPrefix (joinPath workflowID own) "#" then .ok (joinPath workflowID own)
        else .error (.error "(NewWorkflowStep) stepID is not absoule")
      else if hasPrefix stepID "#" then .ok stepID
      else .error (.error "(NewWorkflowStep) stepID is not absoule")
  | some _ => .error (.error "(NewWorkflowStep) id is not string")

/-- The field `scatter` of a step. -/
def checkScatter : Option Tree -> Except Failure Unit
  | none => .ok ()
  | some (.text _) => .ok ()
  | some (.list elements) =>
      if elements.all fun element => match element with
        | .text _ => true
        | _ => false then .ok ()
      else .error (.error "(NewWorkflowStep) Element of scatter array is not string")
  | some _ => .error (.error "(NewWorkflowStep) scatter has unsupported type")

/-- A name with the mark of an absolute one. -/
def absolute (name : String) : String :=
  if hasPrefix name "#" then name else "#" ++ name

/-- `AddObject`. -/
def addObject (id : String) (object : Object) : Parse Unit :=
  fun state =>
    if id = "" then some (.ok (), state)
    else if hasPrefix id "#" = false then
      some (.error (.error ("(WorkflowContext/Add) id " ++ id ++ " is not absolute")), state)
    else if (state.objects.lookup id).isSome then
      some (.error (.error ("(WorkflowContext/Add) Object " ++ id ++ " already in collection")),
          state)
    else some (.ok (), { state with objects := (id, object) :: state.objects })

/-- The process of a step.  A process that is embedded becomes an object of the
context; one that is named is left to `NewProcess`. -/
def newRun (newProcess : ProcessCall -> Parse Process) (run : Tree) (stepID : String)
    (requirements : List Requirement) :
    Parse (Run Process) :=
  match run with
  | .text name => do
      let _ <- newProcess { tree := .text (absolute name), parentID := stepID, injected := requirements }
      pure (.reference (absolute name))
  | tree => do
      let process <- newProcess { tree, parentID := stepID, injected := requirements }
      addObject process.id (.process process)
      pure (.embedded process)

/-- The hints of a step. -/
def stepHints (fields : Fields) (injected : List Requirement) : Parse Unit :=
  entering fun context =>
    match fields.lookup "hints" with
    | none => (.ok (), context)
    | some .null => (.ok (), context)
    | some hints =>
        (wrap "(NewWorkflowStep) error in CreateRequirementArray (hints): "
            ((createHintsArray env.library hints injected context).1.map fun _ => ()),
          (createHintsArray env.library hints injected context).2)

/-- The requirements of a step. -/
def stepRequirements (fields : Fields) (injected : List Requirement) : Parse (List Requirement) :=
  entering fun context =>
    (wrap "(NewWorkflowStep) error in CreateRequirementArray (requirements): "
        (createRequirementArrayAndInject env.library (fields.lookup "requirements")
        injected context).1,
      (createRequirementArrayAndInject env.library (fields.lookup "requirements")
          injected context).2)

/-- `NewWorkflowStepFromInterface`, of a map. -/
def stepOfFields (newProcess : ProcessCall -> Parse Process) (fields : Fields)
    (stepID workflowID : String) (injected : List Requirement) : Parse Step := do
  let id <- give (stepIdentity fields stepID workflowID)
  let requirements <- stepRequirements env fields injected
  readPart fields "in" fun context tree =>
      (createWorkflowStepInputArray env.library context tree).map fun _ => ()
  readPart fields "out" env.stepOut
  match fields.lookup "run" with
  | none => refuse "(NewWorkflowStep) field run is missing?!?"
  | some run =>
      if id = "" then refuse "(NewWorkflowStep) stepID is empty ?!?"
      else
        let run <- newRun newProcess run id requirements
        give (checkScatter (fields.lookup "scatter"))
        stepHints env fields injected
        reading fun context => env.decodeStep context fields
        pure { id, requirements, run }

/-- `NewWorkflowStepFromInterface`. -/
def newWorkflowStepFromInterface (newProcess : ProcessCall -> Parse Process) (original : Tree)
    (stepID workflowID : String) (injected : List Requirement) : Parse Step := do
  let tree <- reading fun context => makeStringMap context original
  match tree with
  | .strMap fields => stepOfFields env newProcess fields stepID workflowID injected
  | _ => refuse "(NewWorkflowStep) type unknown"

/-- The loop of `CreateWorkflowStepsArray`. -/
def newSteps (newProcess : ProcessCall -> Parse Process) (workflowID : String)
    (injected : List Requirement) :
    List (String × Tree) -> Parse (List Step)
  | [] => pure []
  | (stepID, tree) :: rest => do
      let step <- newWorkflowStepFromInterface env newProcess tree stepID workflowID injected
      let steps <- newSteps newProcess workflowID injected rest
      pure (step :: steps)

/-- `CreateWorkflowStepsArray`. -/
def createWorkflowStepsArray (newProcess : ProcessCall -> Parse Process) (original : Tree)
    (workflowID : String) (injected : List Requirement) : Parse (List Step) := do
  let tree <- reading fun context => makeStringMap context original
  let version <- currentVersion
  if version = "" then refuse "(CreateWorkflowStepsArray) CwlVersion empty"
  else
    match tree with
    | .strMap fields => newSteps env newProcess workflowID injected fields
    | .list elements => newSteps env newProcess workflowID injected (elements.map fun element =>
        ("", element))
    | _ => refuse "(CreateWorkflowStepsArray) Type unknown"

/-- The steps of a workflow, which are given the requirements that have just been
read. -/
def workflowSteps (newProcess : ProcessCall -> Parse Process) (fields : Fields) (id : String)
    (requirements : List Requirement) : Parse (List Step) :=
  match fields.lookup "steps" with
  | none => pure []
  | some tree => createWorkflowStepsArray env newProcess tree id requirements

/-- `NewWorkflow` after its requirements are read. -/
def finishWorkflow (newProcess : ProcessCall -> Parse Process) (fields : Fields) (id : String)
    (requirements : List Requirement) : Parse Process := do
  let steps <- workflowSteps env newProcess fields id requirements
  let impl <- decodeProcess env .workflow fields { id, requirements := requirements.map some }
  pure (.mk .workflow impl.id (versionOf fields) impl.requirements steps)

/-- `NewWorkflow`. -/
def newWorkflow (newProcess : ProcessCall -> Parse Process) (fields : Fields)
    (parentID objectID : String) (injected : List Requirement) : Parse Process := do
  let id <- workflowParts env fields parentID objectID
  let requirements <- requirementsPassedOver env fields injected
  finishWorkflow env newProcess fields id requirements

end

end Processes
end Cwl
end Awe
