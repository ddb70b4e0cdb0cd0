import Awe.Cwl.TypeCheck
import Mathlib.Data.List.Lookmap

namespace Awe
namespace Cwl
namespace InputCheck

open Lib.Path TypeCheck

/-!
# The check of a job document

`CWLInputCheck` goes through the inputs a workflow declares, looks each one up
in the submitted document, adds the default of an input that is missing, and
checks the value with `TypeIsCorrect`.

An accepted document is meant to hold a fitting value for every declared input.
It does, except for the values `TypeIsCorrect` takes wrongly, and except for
missing inputs that share their base name: the document is read once, before
the loop, so both defaults are added and the later one counts.
-/

/-- The field `Type` of an input parameter.  An element of a list of
interfaces that is no type is `none`, and `other` is a field that is neither a
type nor a list. -/
inductive TypeField where
  | interfaces (elements : List (Option Schema))
  | types (elements : List Schema)
  | single (schema : Schema)
  | other

/-- `InputParameter`, as far as it is checked. -/
structure InputParameter where
  id : String
  type : TypeField
  default : Option Value := none

/-- `GetTypes`. -/
def getTypes : TypeField -> Except String (List Schema)
  | .interfaces elements =>
      match elements.mapM id with
      | some types => .ok types
      | none => .error "(GetTypes) cannot convert type"
  | .types elements => .ok elements
  | .single schema => .ok [schema]
  | .other => .error "(GetTypes) cannot convert type"

/-- `GetMap`, read at a key: a later entry of the same name replaces an earlier
one. -/
def valueIn (document : Document) (key : String) : Option Value :=
  document.reverse.lookup key

/-- The value an input is checked with. -/
def inputObjRef (given : Document) (input : InputParameter) : Value :=
  match valueIn given (base input.id) with
  | some value => value
  | none => input.default.getD .null

/-- The entries one round of the loop adds to the document. -/
def added (given : Document) (input : InputParameter) : Document :=
  match valueIn given (base input.id), input.default with
  | none, some value => [(base input.id, value)]
  | _, _ => []

section

variable (schemata : List (String × Schema)) (given : Document)

/-- One round of the loop of `CWLInputCheck`; `given` is the document the map
was made from. -/
def checkInput (jobInput : Document) (input : InputParameter) : Except Failure Document :=
  match getTypes input.type with
  | .error text => .error (.error ("(CWLInputCheck) input.GetTypes returned: " ++ text))
  | .ok [] => .error (.error "(CWLInputCheck) (len(expected_types) == 0 ")
  | .ok expectedTypes =>
      match typeIsCorrect schemata (inputObjRef given input) expectedTypes with
      | .error (.error text) =>
          .error (.error ("(CWLInputCheck) (B) HasInputParameterType returns: " ++ text))
      | .error (.panic text) => .error (.panic text)
      | .ok true => .ok (jobInput ++ added given input)
      | .ok false =>
          if (inputObjRef given input).typeText = "null" ∧ input.default.isSome then
            .ok (jobInput ++ added given input)
          else
            .error (.error ("(CWLInputCheck) Input " ++ input.id ++ " has type " ++
              (inputObjRef given input).typeText ++
                  ", but this does not match the expected types(" ++
              (expectedTypes.foldl (fun text schema => text ++ "," ++ schema.type2String) "") ++
                  ")"))

/-- `CWLInputCheck`. -/
def cwlInputCheck (inputs : List InputParameter) : Except Failure Document :=
  inputs.foldlM (checkInput schemata given) given

end

section

variable (schemata : List (String × Schema)) (given : Document) (inputs : List InputParameter)

/-- A value fits an input: it conforms to the types, or it is null and the input
has a default. -/
def Fits (types : List Schema) (input : InputParameter) (value : Value) : Prop :=
  Conforms schemata types value ∨ (value = .null ∧ input.default.isSome = true)

/-- The returned document holds a fitting value for the input, or none, where null would fit. Null
fits where the type has null among its alternatives; an input that is not there is taken for null.
-/
def Satisfied (document : Document) (input : InputParameter) : Prop :=
  Exists fun types => getTypes input.type = .ok types ∧
    Fits schemata types input ((valueIn document (base input.id)).getD .null)

/-- The defaults of the inputs, under their base names. -/
def defaults : Document :=
  inputs.filterMap fun input => input.default.map fun value => (base input.id, value)

/-- The value an input ends up with: that of the submitted document, or else the
last default among the inputs of its base name. -/
def settled (input : InputParameter) : Option Value :=
  (valueIn given (base input.id)).or (valueIn (defaults inputs) (base input.id))

/-- The value is one that the check takes and no type accepts. Conformance is that of the
language: an array conforms if its items do, a record if its fields do, and a number if it is one
of that kind. -/
def Misread (input : InputParameter) : Prop :=
  Exists fun types => getTypes input.type = .ok types ∧
    (Exists fun schema => schema ∈ types ∧
        Oversteps schemata schema ((settled given inputs input).getD .null)) ∧
    ¬Fits schemata types input ((settled given inputs input).getD .null)

/-- The input is missing from the document, and another input of its base name
leaves it with a default that does not fit. -/
def Shadowed (input : InputParameter) : Prop :=
  Exists fun types => getTypes input.type = .ok types ∧ valueIn given (base input.id) = none ∧
    Exists fun value => valueIn (defaults inputs) (base input.id) = some value ∧
        input.default ≠ some value ∧
      ¬Fits schemata types input value

end

section

variable {schemata : List (String × Schema)} {given jobInput result : Document}
    {input : InputParameter}
  {inputs : List InputParameter}

/-- A round that lets an input pass. -/
def Passed (schemata : List (String × Schema)) (given : Document) (input : InputParameter) : Prop :=
  Exists fun types => getTypes input.type = .ok types ∧
    (typeIsCorrect schemata (inputObjRef given input) types = .ok true ∨
      (inputObjRef given input = .null ∧ input.default.isSome = true))

theorem checkInput_ok (checked : checkInput schemata given jobInput input = .ok result) :
    Passed schemata given input ∧ result = jobInput ++ added given input := by
  unfold checkInput at checked
  cases known : getTypes input.type with
  | error text => simp [known] at checked
  | ok types =>
      cases types with
      | nil => simp [known] at checked
      | cons schema rest =>
          simp only [known] at checked
          cases answer : typeIsCorrect schemata (inputObjRef given input) (schema :: rest) with
          | error failure => cases failure <;> simp [answer] at checked
          | ok correct =>
              cases correct with
              | true =>
                  simp only [answer, Except.ok.injEq] at checked
                  exact ⟨⟨_, known, Or.inl answer⟩, checked.symm⟩
              | false =>
                  simp only [answer] at checked
                  split at checked
                  · rename_i excused
                    have isNull : inputObjRef given input = .null := by
                      cases object : inputObjRef given input <;> simp [object] at excused
                      rfl
                    exact ⟨⟨_, known, Or.inr ⟨isNull, excused.2⟩⟩, (Except.ok.inj checked).symm⟩
                  · cases checked

/-- The document only grows, and every input has passed. -/
theorem foldlM_checkInput_ok
    (checked : inputs.foldlM (checkInput schemata given) jobInput = .ok result) :
    (forall input, input ∈ inputs -> Passed schemata given input) ∧
      result = jobInput ++ inputs.flatMap (added given) := by
  induction inputs generalizing jobInput with
  | nil =>
      cases checked
      exact ⟨fun input impossible => absurd impossible List.not_mem_nil, by simp⟩
  | cons input rest inductionHypothesis =>
      rw [List.foldlM_cons] at checked
      cases first : checkInput schemata given jobInput input with
      | error failure => rw [first] at checked; cases checked
      | ok next =>
          rw [first] at checked
          rcases checkInput_ok first with ⟨passed, grown⟩
          rcases inductionHypothesis checked with ⟨others, done⟩
          refine ⟨?_, by rw [done, grown, List.flatMap_cons, List.append_assoc]⟩
          intro later member
          rcases List.mem_cons.mp member with rfl | member
          · exact passed
          · exact others later member

theorem valueIn_append (first second : Document) (key : String) :
    valueIn (first ++ second) key = (valueIn second key).or (valueIn first key) := by
  unfold valueIn
  rw [List.reverse_append, List.lookup_append]

@[simp] theorem valueIn_nil (key : String) : valueIn [] key = none :=
  rfl

@[simp] theorem valueIn_singleton (name : String) (value : Value) (key : String) :
    valueIn [(name, value)] key = if key = name then some value else none := by
  simp only [valueIn, List.reverse_singleton, List.lookup_cons, List.lookup_nil]
  by_cases same : key = name
  · rw [if_pos same, beq_iff_eq.mpr same]
  · rw [if_neg same, beq_eq_false_iff_ne.mpr same]

/-- The entry of one input among the defaults. -/
def ownDefault (input : InputParameter) : Document :=
  (input.default.map fun value => (base input.id, value)).toList

theorem defaults_cons (input : InputParameter) (rest : List InputParameter) :
    defaults (input :: rest) = ownDefault input ++ defaults rest := by
  unfold defaults ownDefault
  cases own : input.default <;> simp [own]

/-- An entry that is added bears its own base name. -/
theorem valueIn_added (key : String) : valueIn (added given input) key =
    if valueIn given key = none then valueIn (ownDefault input) key else none := by
  unfold added ownDefault
  by_cases same : key = base input.id
  · subst same
    cases value : valueIn given (base input.id) <;> cases own : input.default <;> simp
  · cases value : valueIn given (base input.id) <;> cases own : input.default <;> simp [same]

theorem valueIn_flatMap_added (key : String) : valueIn (inputs.flatMap (added given)) key =
    if valueIn given key = none then valueIn (defaults inputs) key else none := by
  induction inputs with
  | nil => simp [defaults]
  | cons input rest inductionHypothesis =>
      rw [List.flatMap_cons, valueIn_append, inductionHypothesis, valueIn_added, defaults_cons,
          valueIn_append]
      split <;> rfl

theorem valueIn_result (input : InputParameter) :
    valueIn (given ++ inputs.flatMap (added given)) (base input.id) = settled given
        inputs input := by
  rw [valueIn_append, valueIn_flatMap_added, settled]
  cases valueIn given (base input.id) <;> simp

theorem exists_default (member : input ∈ inputs) (own : input.default.isSome = true) :
    valueIn (defaults inputs) (base input.id) ≠ none := by
  rcases Option.isSome_iff_exists.mp own with ⟨value, known⟩
  induction inputs with
  | nil => cases member
  | cons first rest inductionHypothesis =>
      rw [defaults_cons, valueIn_append]
      rcases List.mem_cons.mp member with rfl | member
      · simp [ownDefault, known]
      · simp [inductionHypothesis member]

/-! ## The result -/

/-- Without a default of another input, an input ends up with the value it was
checked with. -/
theorem settled_eq_inputObjRef (member : input ∈ inputs)
    (alone : forall value, valueIn given (base input.id) = none ->
      valueIn (defaults inputs) (base input.id) = some value -> input.default = some value) :
    (settled given inputs input).getD .null = inputObjRef given input := by
  unfold settled inputObjRef
  cases absent : valueIn given (base input.id) with
  | some value => rfl
  | none =>
      cases last : valueIn (defaults inputs) (base input.id) with
      | some value => simp [alone value absent last]
      | none =>
          cases own : input.default with
          | none => rfl
          | some value => exact absurd last (exists_default member (by simp [own]))

/-- A type that the function says yes to takes the value. -/
theorem takes_of_typeIsCorrect {types : List Schema} {value : Value}
    (correct : typeIsCorrect schemata value types = .ok true) :
    Exists fun schema => schema ∈ types ∧ Takes schemata schema value := by
  induction types with
  | nil => cases correct
  | cons schema rest inductionHypothesis =>
      simp only [typeIsCorrect] at correct
      by_cases trips : Trips schema value
      · simp [typeIsCorrectSingle_of_trips trips] at correct
      · rcases answers_of_not_trips schemata trips with ⟨answer, single, taken⟩
        cases answer with
        | true => exact ⟨schema, List.mem_cons_self, taken.mp rfl⟩
        | false =>
            rw [single] at correct
            rcases inductionHypothesis correct with ⟨later, listed, takes⟩
            exact ⟨later, List.mem_cons_of_mem _ listed, takes⟩

/-- An input that passed is satisfied, unless its value was misread or the
default of another input took its place. -/
theorem satisfied_iff (member : input ∈ inputs) (passed : Passed schemata given input) :
    Satisfied schemata (given ++ inputs.flatMap (added given)) input ↔
      ¬Misread schemata given inputs input ∧ ¬Shadowed schemata given inputs input := by
  rcases passed with ⟨types, known, correct⟩
  unfold Satisfied
  rw [valueIn_result]
  have sameTypes {other : List Schema} (found : getTypes input.type = .ok other) :
      other = types := by
    rw [known] at found
    exact (Except.ok.inj found).symm
  constructor
  · rintro ⟨found, given', fits⟩
    rcases sameTypes given' with rfl
    refine ⟨?_, ?_⟩
    · rintro ⟨other, found, _, broken⟩
      rcases sameTypes found with rfl
      exact broken fits
    · rintro ⟨other, found, absent, value, last, _, broken⟩
      rcases sameTypes found with rfl
      rw [settled, absent, last] at fits
      exact broken fits
  · rintro ⟨wellRead, unshadowed⟩
    refine ⟨types, known, ?_⟩
    by_contra broken
    -- the value is the one that was checked, so the check took it wrongly
    have alone : forall value, valueIn given (base input.id) = none ->
        valueIn (defaults inputs) (base input.id) = some value -> input.default = some value := by
      intro value absent last
      by_contra different
      refine unshadowed ⟨types, known, absent, value, last, different, ?_⟩
      rw [settled, absent, last] at broken
      exact broken
    have checked := settled_eq_inputObjRef member alone
    rw [checked] at broken
    rcases correct with correct | excused
    · rcases takes_of_typeIsCorrect correct with ⟨schema, listed, ⟨accepted, _⟩ | overlooked⟩
      · exact broken (Or.inl ⟨schema, listed, accepted⟩)
      · refine wellRead ⟨types, known, ⟨schema, listed, ?_⟩, ?_⟩
        · rw [checked]
          exact overlooked
        · rw [checked]
          exact broken
    · exact broken (Or.inr excused)

end

/-- `TypeIsCorrect` decides conformance exactly where its departures do not show. A document that
`CWLInputCheck` accepts keeps the given entries, and it satisfies the declared inputs exactly if
none was misread and none is left with the default of another one.

The departures are those of the switches on types and values: items of arrays that nobody looks
at, numbers that are taken for the wrong kind, and the panic behind the symbols of an enum. -/
theorem input_check_conforms (schemata : List (String × Schema)) :
    (forall allowedTypes value, Decides schemata allowedTypes value ↔
        Clear schemata allowedTypes value) ∧
      forall given inputs result, cwlInputCheck schemata given inputs = .ok result ->
        given <+: result ∧
          ((forall input, input ∈ inputs -> Satisfied schemata result input) ↔
            forall input, input ∈ inputs ->
              ¬Misread schemata given inputs input ∧ ¬Shadowed schemata given inputs input) := by
  refine ⟨fun allowedTypes value => decides_iff_clear, fun given inputs result checked => ?_⟩
  rcases foldlM_checkInput_ok checked with ⟨passed, rfl⟩
  refine ⟨List.prefix_append _ _, ?_⟩
  constructor
  · intro satisfied input member
    exact (satisfied_iff member (passed input member)).mp (satisfied input member)
  · intro unspoiled input member
    exact (satisfied_iff member (passed input member)).mpr (unspoiled input member)

private def textInput : InputParameter :=
  { id := "#main/x", type := .single (.basic .string) }

private def textDocument : Document :=
  [("x", .string "a")]

/-- An input of type string that is given a string. -/
theorem input_check_conforms_string :
    cwlInputCheck [] textDocument [textInput] = .ok textDocument ∧
      ¬Misread [] textDocument [textInput] textInput ∧
          ¬Shadowed [] textDocument [textInput] textInput := by
  have accepted : cwlInputCheck [] textDocument [textInput] = .ok textDocument := rfl
  have satisfied : Satisfied [] textDocument textInput :=
    ⟨[.basic .string], rfl, Or.inl ⟨.basic .string, List.mem_singleton_self _, .string "a"⟩⟩
  rcases (input_check_conforms []).2 textDocument [textInput] textDocument accepted with ⟨_, judged⟩
  refine ⟨accepted, judged.mp ?_ textInput (List.mem_singleton_self _)⟩
  intro input member
  rw [List.mem_singleton.mp member]
  exact satisfied

private def numbersInput : InputParameter :=
  { id := "#main/x", type := .single (.array .input [.basic .int]) }

private def textsDocument : Document :=
  [("x", .array [.string "a"])]

/-- A text that is no symbol of the enum makes the check panic, and a list of
texts is accepted for a list of numbers. -/
theorem input_check_departs :
    ¬Decides [] [.enum .input "letters" ["#letters/a"]] (.string "b") ∧
      cwlInputCheck [] textsDocument [numbersInput] = .ok textsDocument ∧
      ¬Satisfied [] textsDocument numbersInput := by
  refine ⟨fun decides => ?_, rfl, ?_⟩
  · exact steady_of_decides decides _ (List.mem_singleton_self _)
      ⟨["#letters/a"], rfl, "b", rfl, by decide⟩
  · rintro ⟨types, known, ⟨schema, listed, accepted⟩ | ⟨isNull, _⟩⟩
    · cases known
      rw [List.mem_singleton.mp listed, accepts_array_iff] at accepted
      rcases accepted with ⟨items, same, every⟩
      cases same
      rcases every (.string "a") (List.mem_singleton_self _) with ⟨itemType, inside, taken⟩
      rw [List.mem_singleton.mp inside, accepts_basic_iff] at taken
      simp at taken
    · cases isNull

end InputCheck
end Cwl
end Awe
