import Awe.Lib.GoMap
import Awe.Lib.Path
import Mathlib.Data.String.Basic

namespace Awe
namespace Core

open Lib Lib.Path

/-!
# Workflow definitions

The part of the package `cwl` that the server reads to run a workflow: the
steps of a workflow with their inputs and outputs, the inputs and outputs of
the workflow, the kind of process a step runs, and the context in which
processes are looked up by name.

A CWL process is only ever asked for its kind here, so the content of a tool
is left out.  A nil list of steps is not told apart from an empty one.
-/

/-- A CWL value, as far as outputs are assembled from other outputs.  `other` is
a value of any other class, with its JSON text. -/
inductive CWLValue where
  | null
  | string (text : String)
  | array (items : List CWLValue)
  | other (cwlClass json : String)
  deriving Repr

/-- `cwl.Job_document`: a list of named values. -/
abbrev JobDocument := List (String × CWLValue)

/-- The field `Source` of a step input, by its Go type.  `array` is a slice of
interfaces, where an element that is not a string is `none`; `strings` is a slice
of strings, which the shorthands for an input leave there; and `other` is none of
these. -/
inductive Source where
  | string (source : String)
  | array (sources : List (Option String))
  | strings (sources : List String)
  | other
  deriving DecidableEq, Repr

structure WorkflowStepInput where
  id : String
  source : Option Source
  sourceIndex : Nat
  hasDefault : Bool
  deriving DecidableEq, Repr

/-- The field `Run` of a step: a process, the name of one, or neither. -/
inductive Run where
  | commandLineTool
  | expressionTool
  | workflow
  | reference (processName : String)
  | other
  deriving DecidableEq, Repr

/-- A workflow step.  `inputs` is the field `In`, and `out` holds the
identifiers of the declared outputs. -/
structure WorkflowStep where
  id : String
  inputs : List WorkflowStepInput
  out : List String
  run : Run
  scatter : List String
  scatterMethod : String
  deriving DecidableEq, Repr

/-- A type in a declaration; the server itself only looks for null. -/
inductive CWLType where
  | null
  | named (text : String)
  deriving DecidableEq, Repr

/-- An input of a workflow.  `types` is `none` if the field holds something that
is no type. -/
structure InputParameter where
  id : String
  types : Option (List CWLType)
  deriving DecidableEq, Repr

/-- The field `OutputSource` of a workflow output. -/
inductive OutputSource where
  | string (source : String)
  | array (sources : List String)
  | other
  deriving DecidableEq, Repr

/-- An output of a workflow, with its types as they are written. -/
structure WorkflowOutputParameter where
  id : String
  hasOutputBinding : Bool
  types : List String
  outputSource : OutputSource
  linkMerge : String
  deriving DecidableEq, Repr

structure Workflow where
  id : String
  steps : List WorkflowStep
  inputs : List InputParameter
  outputs : List WorkflowOutputParameter
  deriving DecidableEq, Repr

/-- What the context holds under a name. -/
inductive CWLObject where
  | commandLineTool
  | expressionTool
  | workflow (definition : Workflow)
  | other
  deriving DecidableEq, Repr

/-- The map `Objects` of `cwl.WorkflowContext`. -/
abbrev WorkflowContext := GoMap String CWLObject

/-- The answers of `GetProcessType`. -/
inductive ProcessKind where
  | commandLineTool
  | expressionTool
  | workflow
  deriving DecidableEq, Repr

namespace WorkflowContext

variable (context : WorkflowContext)

/-- `GetWorkflow`.  The names in the error come in any order. -/
def getWorkflow (id : String) : Except String Workflow :=
  match context.lookup id with
  | some (.workflow definition) => .ok definition
  | some _ => .error ("(GetWorkflow) Item " ++ id ++ " has wrong type")
  | none =>
      .error ("(GetWorkflow) item " ++ id ++ " not found in collection (found: " ++
        context.keys.foldl (fun found key => found ++ "," ++ key) "" ++ ")")

end WorkflowContext

/-- `Workflow.GetStep`: the first step with that base name. -/
def Workflow.getStep (workflow : Workflow) (name : String) : Except String WorkflowStep :=
  match workflow.steps.find? fun step => base step.id = name with
  | some step => .ok step
  | none =>
      .error ("(Workflow/GetStep) step " ++ name ++ " not found (found_steps: " ++
        workflow.steps.foldl (fun found step => found ++ "," ++ base step.id) "" ++ ")")

/-- `WorkflowStep.GetProcessType`. -/
def WorkflowStep.getProcessType (step : WorkflowStep) (context : WorkflowContext) :
    Except String ProcessKind :=
  match step.run with
  | .commandLineTool => .ok .commandLineTool
  | .expressionTool => .ok .expressionTool
  | .workflow => .ok .workflow
  | .reference processName =>
      match context.lookup processName with
      | some .commandLineTool => .ok .commandLineTool
      | some .expressionTool => .ok .expressionTool
      | some (.workflow _) => .ok .workflow
      | _ => .error ("(GetProcessType) Process " ++ processName ++ " not found ")
  | .other => .error "(GetProcessType) Process type unknown"

/-- The form `xxxxxxxx-xxxx-xxxx-xxxx-xxxxxxxxxxxx` with hexadecimal digits. -/
def uuidShape (letters : List Char) : Bool :=
  letters.length = 36 &&
    letters.zipIdx.all fun entry =>
      if entry.2 = 8 ∨ entry.2 = 13 ∨ entry.2 = 18 ∨ entry.2 = 23 then entry.1 = '-'
      else entry.1.isDigit || ('a' ≤ entry.1 && entry.1 ≤ 'f') || ('A' ≤ entry.1 && entry.1 ≤ 'F')

/-- Whether `uuid.Parse` answers something other than nil: the plain form, or
the plain form after `urn:uuid:` in any case. -/
def uuidParses (text : String) : Bool :=
  uuidShape text.toList ||
    ((text.toList.take 9).map Char.toLower = "urn:uuid:".toList && uuidShape (text.toList.drop 9))

private theorem hex_size {letter : Char}
    (hex : (letter.isDigit || ('a' ≤ letter && letter ≤ 'f') || ('A' ≤ letter && letter ≤ 'F')) =
    true) :
    letter.utf8Size = 1 := by
  have small : letter.val ≤ 0x7F := by
    simp only [Char.isDigit, Char.le_def, Bool.or_eq_true, Bool.and_eq_true, decide_eq_true_eq]
        at hex
    rcases hex with (digit | lower) | upper
    · exact UInt32.le_trans digit.2 (by decide)
    · exact UInt32.le_trans lower.2 (by decide)
    · exact UInt32.le_trans upper.2 (by decide)
  exact Char.utf8Size_eq_one_iff.2 small

/-- The letters of a UUID are single bytes. -/
private theorem uuidShape_single {letters : List Char} (shape : uuidShape letters = true) :
    forall letter, letter ∈ letters -> letter.utf8Size = 1 := by
  intro letter member
  rcases List.mem_iff_getElem.1 member with ⟨index, bound, rfl⟩
  simp only [uuidShape, Bool.and_eq_true, List.all_eq_true] at shape
  have entry := shape.2 (letters[index], index)
      (List.mk_mem_zipIdx_iff_getElem?.2 (by simp [bound]))
  split at entry
  · have dash : letters[index] = '-' := of_decide_eq_true entry
    rw [dash]
    decide
  · exact hex_size entry

private theorem utf8ByteSize_single {letters : List Char}
    (single : forall letter, letter ∈ letters -> letter.utf8Size = 1) :
    (String.ofList letters).utf8ByteSize = letters.length := by
  induction letters with
  | nil => decide
  | cons letter rest inductionHypothesis =>
      have later := inductionHypothesis fun other member =>
          single other (List.mem_cons_of_mem _ member)
      have parts : String.ofList (letter :: rest) = String.singleton letter ++
          String.ofList rest := by
        apply String.toList_injective
        simp
      rw [parts, String.utf8ByteSize_append, later, String.utf8ByteSize_singleton,
        single letter List.mem_cons_self, List.length_cons, Nat.add_comm]

/-- The plain form has 36 bytes. -/
theorem uuidShape_size {text : String} (shape : uuidShape text.toList = true) :
    text.utf8ByteSize = 36 := by
  have counted := utf8ByteSize_single (uuidShape_single shape)
  rw [String.ofList_toList] at counted
  rw [counted]
  simp only [uuidShape, Bool.and_eq_true, decide_eq_true_eq] at shape
  exact shape.1

example : uuidParses "cff5b4fa-86b6-4d6e-ac95-3548f6a839cf" = true := by decide

end Core
end Awe
