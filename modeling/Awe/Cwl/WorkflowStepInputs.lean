import Awe.Cwl.Types

namespace Awe
namespace Cwl
namespace WorkflowStepInputs

open Lib.Path Natives Cwl.Types

/-!
# The inputs of a step

`CreateWorkflowStepInputArray` reads what a workflow gives to one of its steps.
An input is written in three ways, and each of them has a branch of its own in
`NewWorkflowStepInput`: as a map with its fields, as its source alone, or as a
list of sources.  The branches leave values of different Go types in the field
`Source`, and the server later tells them apart by these types, so that
`SourceValue` keeps them apart as well.

A map is decoded field by field.  What its default becomes is left to
`NewCWLType`, which may itself decode maps whose keys differ in case alone, and
then no two runs need to agree.  Such a key among the fields of the input would
have the same effect; they are therefore read in the order in which a run comes
upon them.
-/

/-- The field `Source` by its Go type: a `string`, a `[]string`, a
`[]interface{}` or any other. -/
inductive SourceValue where
  | nil
  | string (source : String)
  | strings (sources : List String)
  | interfaces (elements : List Tree)
  | other (tree : Tree)

/-- The field `Default`: a CWL value, or what the decoder took from a differently
cased key, which nobody has parsed. -/
inductive DefaultValue where
  | value (value : Value)
  | raw (tree : Tree)

structure WorkflowStepInput where
  id : String := ""
  source : SourceValue := .nil
  sourceIndex : Int64 := 0
  linkMerge : Option String := none
  default : Option DefaultValue := none
  valueFrom : String := ""

/-- An `interface{}` that becomes a source. -/
def sourceOf : Tree -> SourceValue
  | .null => .nil
  | .text source => .string source
  | .list elements => .interfaces elements
  | tree => .other tree

/-- The decoder's conversion of a number to `int`. -/
def intOf : Option Tree -> Int64
  | some (.int value) => value
  | some (.int64 value) => value
  | some (.uint64 value) => value.toInt64
  | some (.float32 (some (.finite value _))) => Int64.ofInt (Int.tdiv value.num value.den)
  | some (.float64 (some (.finite value _))) => Int64.ofInt (Int.tdiv value.num value.den)
  | _ => 0

/-- A pointer to a text, which stays nil for null. -/
def textPointer : Option Tree -> Option String
  | some (.text text) => some text
  | _ => none

/-- A list with one source, without a way to merge, is that source. -/
def unwrapSource (linkMerge : Option String) : SourceValue -> SourceValue
  | .interfaces [element] => if linkMerge = none then sourceOf element else .interfaces [element]
  | source => source

def stepInputStruct : List (String × FieldKind) :=
  [("id", .string), ("source", .interface), ("source_index", .int), ("linkMerge", .string),
    ("default", .interface), ("valueFrom", .string), ("-", .bool)]

/-- The field `Default` after the decoder has run. -/
def defaultOf (order : List String) (parsed : Option Value) (fields : List (String × Tree)) :
    Option DefaultValue :=
  match parsed with
  | some value => some (.value value)
  | none =>
      match findFieldIn order "default" fields with
      | none | some .null => none
      | some tree => some (.raw tree)

/-- What the decoder fills in, and the special case for a list with one source. -/
def decodeStepInput (order : List String) (default : Option Value) (fields : List (String × Tree)) :
    WorkflowStepInput :=
  let linkMerge := textPointer (findFieldIn order "linkMerge" fields)
  { id := textOf (findFieldIn order "id" fields)
    source := unwrapSource linkMerge (sourceOf ((findFieldIn order "source" fields).getD .null))
    sourceIndex := intOf (findFieldIn order "source_index" fields)
    linkMerge
    default := defaultOf order default fields
    valueFrom := textOf (findFieldIn order "valueFrom" fields) }

/-- The text of each element, if all of them are texts. -/
def textElements : List Tree -> Option (List String)
  | [] => some []
  | .text text :: rest => (textElements rest).map (text :: ·)
  | _ :: _ => none

section

variable (library : Library) (context : Context)

/-- `NewWorkflowStepInput`, of a map. -/
def stepInputOfFields (fields : List (String × Tree)) : Except Failure WorkflowStepInput := do
  let (default, fields) <- parsedEntry "default"
    (fun tree => wrap "(NewWorkflowStepInput) NewCWLType returned: "
        (newCWLType library context tree "")) fields
  let order := library.visit "WorkflowStepInput" (keys fields)
  if decodesStructIn order stepInputStruct fields then
    if ((fields.lookup "valueFrom").map isText).getD true then
        pure (decodeStepInput order default fields)
    else .error (.error "(NewWorkflowStepInput) cannot convert valueFrom")
  else .error (.error "(NewWorkflowStepInput) ")

/-- `NewWorkflowStepInput`. -/
def newWorkflowStepInput (original : Tree) : Except Failure WorkflowStepInput := do
  match <- makeStringMap context original with
  | .text source => pure { source := .strings [source] }
  | .list elements =>
      match textElements elements with
      | some sources => pure { source := .strings sources }
      | none => .error (.error "(NewWorkflowStepInput) array elemenet not a string")
  | .int value => pure { default := some (.value (.int value)) }
  | .strMap fields => stepInputOfFields library context fields
  | _ => .error (.error "(NewWorkflowStepInput) Input type can not be parsed")

/-- The name in the map is the identifier of an input that has none. -/
def withName (name : String) (input : WorkflowStepInput) : WorkflowStepInput :=
  if input.id = "" then { input with id := name } else input

/-- `CreateWorkflowStepInputArray`. -/
def createWorkflowStepInputArray (original : Tree) : Except Failure (List WorkflowStepInput) := do
  match <- makeStringMap context original with
  | .strMap fields =>
      fields.mapM fun field =>
        wrap "(CreateWorkflowStepInputArray) (map) NewWorkflowStepInput returns: "
          ((newWorkflowStepInput library context field.2).map (withName field.1))
  | .list elements =>
      elements.mapM fun element =>
        wrap "(CreateWorkflowStepInputArray) (array) NewWorkflowStepInput returns: "
          (newWorkflowStepInput library context element)
  | _ => .error (.error "(CreateWorkflowStepInputArray) type unknown: ")

end

/-! ## Inputs whose fields are spelt as in the struct -/

/-- No key differs from a field of the struct in case alone. `mapstructure` would take such a key
for the field, in the one visit order or the other. -/
def Spelt (fields : List (String × Tree)) : Prop :=
  forall field, field ∈ stepInputStruct -> forall key, key ∈ keys fields ->
      equalFold key field.1 = true -> key = field.1

/-- The fields other than the default have values that they can hold.  A value
for `valueFrom` must even be a text, since it is converted a second time. -/
def WellTyped (fields : List (String × Tree)) : Prop :=
  (forall field, field ∈ stepInputStruct -> forall tree, fields.lookup field.1 = some tree ->
    decodes field.2 tree = true) ∧
  forall tree, fields.lookup "valueFrom" = some tree -> isText tree = true

/-- The default, if it is read. -/
def readDefault (library : Library) (context : Context) (fields : List (String × Tree)) :
    Option (Option Value) :=
  match fields.lookup "default" with
  | none => some none
  | some tree => (newCWLType library context tree "").toOption.map some

/-- An input with this default and the other fields as they stand in the map. -/
def plainStepInput (default : Option Value) (fields : List (String × Tree)) :
    WorkflowStepInput where
  id := textOf (fields.lookup "id")
  source := unwrapSource (textPointer (fields.lookup "linkMerge"))
      (sourceOf ((fields.lookup "source").getD .null))
  sourceIndex := intOf (fields.lookup "source_index")
  linkMerge := textPointer (fields.lookup "linkMerge")
  default := default.map .value
  valueFrom := textOf (fields.lookup "valueFrom")

theorem lookup_settle {name key : String} (other : name ≠ key) (fields : List (String × Tree)) :
    (settle key fields).lookup name = fields.lookup name := by
  induction fields with
  | nil => rw [settle, List.lookup_cons, beq_eq_false_iff_ne.mpr other]
  | cons field rest inductionHypothesis =>
      rcases field with ⟨own, tree⟩
      rw [settle]
      by_cases same : own = key
      · rw [if_pos same, List.lookup_cons, List.lookup_cons, same, beq_eq_false_iff_ne.mpr other]
      · rw [if_neg same, List.lookup_cons, List.lookup_cons, inductionHypothesis]

theorem keys_settle {key : String} {fields : List (String × Tree)} {tree : Tree}
    (there : fields.lookup key = some tree) : keys (settle key fields) = keys fields := by
  induction fields with
  | nil => cases there
  | cons field rest inductionHypothesis =>
      rcases field with ⟨own, value⟩
      rw [settle]
      by_cases same : own = key
      · rw [if_pos same]
        rfl
      · have differs : (key == own) = false := beq_eq_false_iff_ne.mpr fun equal => same equal.symm
        rw [List.lookup_cons, differs] at there
        rw [if_neg same]
        exact congrArg (own :: ·) (inductionHypothesis there)

section

variable {library : Library} {context : Context} {fields : List (String × Tree)}

/-- What the decoder does with a map that it is given in place of a well-spelt
one: the map may have lost its default to the parser. -/
private theorem decodes_iff {order : List String} {rest : List (String × Tree)}
    (spelt : Spelt fields) (order_keys : order.Perm (keys fields))
    (others : forall name, name ≠ "default" -> rest.lookup name = fields.lookup name) :
    decodesStructIn order stepInputStruct rest = true ↔
      forall field, field ∈ stepInputStruct -> forall tree, fields.lookup field.1 = some tree ->
        decodes field.2 tree = true := by
  unfold decodesStructIn
  rw [List.all_eq_true]
  refine forall_congr' fun field => imp_congr_right fun member => ?_
  rw [findFieldIn_of_spelt fun key inside => spelt field member key (order_keys.mem_iff.mp inside)]
  by_cases default : field.1 = "default"
  · -- Any value can be decoded into an `interface{}`.
    have kind : field.2 = .interface := by
      unfold stepInputStruct at member
      simp only [List.mem_cons, List.not_mem_nil, or_false] at member
      rcases member with rfl | rfl | rfl | rfl | rfl | rfl | rfl <;>
          first | rfl | exact absurd default (by decide)
    have all (tree : Tree) : decodes .interface tree = true := by cases tree <;> rfl
    rw [kind]
    refine iff_of_true ?_ fun tree _ => all tree
    cases rest.lookup field.1 with
    | none => rfl
    | some tree => exact all tree
  · rw [others field.1 default]
    cases fields.lookup field.1 with
    | none => exact iff_of_true rfl fun tree impossible => nomatch impossible
    | some tree =>
        refine ⟨fun holds other same => ?_, fun holds => holds tree rfl⟩
        cases same
        exact holds

private theorem decodeStepInput_eq {order : List String} {rest : List (String × Tree)}
    {default : Option Value} (spelt : Spelt fields) (order_keys : order.Perm (keys fields))
    (others : forall name, name ≠ "default" -> rest.lookup name = fields.lookup name)
    (absent : default = none -> rest.lookup "default" = none) :
    decodeStepInput order default rest = plainStepInput default fields := by
  have found (name : String) (kind : FieldKind) (member : (name, kind) ∈ stepInputStruct) :
      findFieldIn order name rest = rest.lookup name :=
    findFieldIn_of_spelt fun key inside => spelt (name, kind) member key
        (order_keys.mem_iff.mp inside)
  have default' : defaultOf order default rest = default.map .value := by
    cases default with
    | some value => rfl
    | none =>
        unfold defaultOf
        dsimp only
        rw [found "default" .interface (by simp [stepInputStruct]), absent rfl]
        rfl
  unfold decodeStepInput plainStepInput
  rw [default', found "id" .string (by simp [stepInputStruct]), found "source" .interface
      (by simp [stepInputStruct]),
    found "source_index" .int (by simp [stepInputStruct]), found "linkMerge" .string
        (by simp [stepInputStruct]),
    found "valueFrom" .string (by simp [stepInputStruct]), others "id" (by decide),
        others "source" (by decide),
    others "source_index" (by decide), others "linkMerge" (by decide),
        others "valueFrom" (by decide)]

/-- A well-spelt map is read without regard to the order in which its keys come:
it becomes an input if its default is read and the rest is well typed. -/
theorem stepInputOfFields_spelt (spelt : Spelt fields) :
    (WellTyped fields -> (stepInputOfFields library context fields).toOption =
      (readDefault library context fields).map fun default => plainStepInput default fields) ∧
    (¬ WellTyped fields -> (stepInputOfFields library context fields).toOption = none) := by
  -- The map that reaches the decoder has lost no key and no other value.
  have reaches {default : Option Value} {rest : List (String × Tree)}
      (order_keys : keys rest = keys fields)
      (others : forall name, name ≠ "default" -> rest.lookup name = fields.lookup name)
      (absent : default = none -> rest.lookup "default" = none) :
      let decoded := (if decodesStructIn (library.visit "WorkflowStepInput" (keys rest))
          stepInputStruct rest then
          if ((rest.lookup "valueFrom").map isText).getD true then
            pure (decodeStepInput (library.visit "WorkflowStepInput" (keys rest)) default rest)
          else .error (.error "(NewWorkflowStepInput) cannot convert valueFrom")
        else .error (.error "(NewWorkflowStepInput) ") : Except Failure WorkflowStepInput)
      (WellTyped fields -> decoded = .ok (plainStepInput default fields)) ∧
        (¬ WellTyped fields -> decoded.toOption = none) := by
    have order : (library.visit "WorkflowStepInput" (keys rest)).Perm (keys fields) :=
      order_keys ▸ library.visited "WorkflowStepInput" (keys rest)
    have fits := decodes_iff spelt order others
    have valueFrom : ((rest.lookup "valueFrom").map isText).getD true = true ↔
        forall tree, fields.lookup "valueFrom" = some tree -> isText tree = true := by
      rw [others "valueFrom" (by decide)]
      cases fields.lookup "valueFrom" <;> simp
    intro decoded
    constructor
    · intro typed
      dsimp only [decoded]
      rw [if_pos (fits.mpr typed.1), if_pos (valueFrom.mpr typed.2),
          decodeStepInput_eq spelt order others absent]
      rfl
    · intro ill
      dsimp only [decoded]
      by_cases fit : decodesStructIn (library.visit "WorkflowStepInput" (keys rest))
          stepInputStruct rest = true
      · rw [if_pos fit, if_neg fun text => ill ⟨fits.mp fit, valueFrom.mp text⟩]
        rfl
      · rw [if_neg fit]
        rfl
  unfold stepInputOfFields readDefault parsedEntry
  cases there : fields.lookup "default" with
  | none =>
      have decoded := @reaches none fields rfl (fun _ _ => rfl) fun _ => there
      refine ⟨fun typed => ?_, fun ill => decoded.2 ill⟩
      exact congrArg Except.toOption (decoded.1 typed)
  | some tree =>
      dsimp only
      cases newCWLType library context tree "" with
      | error failure =>
          constructor <;> intro _ <;> cases failure <;> rfl
      | ok value =>
          have decoded := @reaches (some value) (settle "default" fields) (keys_settle there)
            (fun name other => lookup_settle other fields) (by rintro ⟨⟩)
          refine ⟨fun typed => ?_, fun ill => decoded.2 ill⟩
          exact congrArg Except.toOption (decoded.1 typed)

end

end WorkflowStepInputs
end Cwl
end Awe
