import Awe.Core.Sources
import Awe.Lib.KeyedWrites

namespace Awe
namespace Core

open Lib Lib.Path InputLookup Sources KeyedWrites

/-!
# The inputs of a step

`GetStepInputObjects` makes the map of inputs for a step in two rounds.  The
first one looks up the source of each input, or takes its default.  The second
one evaluates the expressions in `valueFrom`, one input after the other, and
writes each result into the same map, from which it takes `inputs` for the next
expression.

The inputs are written as JSON for every expression, and also for a `valueFrom`
that is a plain text and does not need them.  A number that JSON cannot express
therefore stops the evaluation of everything that comes after it.

What the code leaves to others is an argument: the JavaScript VM, a function of
the program text, `NewCWLType`, `json.Marshal`, and the order in which Go visits
a map.  The texts inside the errors of a lookup are left out.
-/

/-- A Go value that is not a CWL value yet: a default, or what a JavaScript
program returned.  Numbers come with their Go type, as the type switches tell
them apart, and with their text; `array` is a slice of interfaces, and `object`
is a map or a slice of any other type. -/
inductive Native where
  | null
  | string (text : String)
  | boolean (value : Bool)
  | int (json : String)
  | int64 (json : String)
  | float32 (json : String)
  | double (json : String)
  | nan
  | uint64 (json : String)
  | number (goType json : String)
  | array (json : String)
  | object (json : String)
  deriving DecidableEq, Repr

/-- How an evaluation ends without a value: with an error, or in a panic. -/
inductive Stop where
  | err (text : String)
  | panic
  deriving DecidableEq, Repr

/-- The error that a caller makes of an error; a panic passes through it. -/
def Stop.wrap (context : String) : Stop -> Stop
  | .err text => .err (context ++ text)
  | .panic => .panic

/-- A step input with all the fields that `GetStepInputObjects` reads. -/
structure StepInput where
  id : String
  source : Option Source
  sourceIndex : Nat
  linkMerge : Option String
  default : Option Native
  valueFrom : String
  deriving DecidableEq, Repr

/-- The name of the input in the map. -/
def StepInput.cmdID (input : StepInput) : String :=
  base input.id

/-- What the evaluation of expressions rests on.  `json.Marshal` writes every
text, null, and exactly the maps of which it can write all values. -/
structure Javascript where
  newCWLType : Native -> Except String CWLValue
  marshal : CWLValue -> Except String String
  marshalMap : (String -> Option CWLValue) -> Except String String
  /-- `vm.Run`: the returned value as a string, and exported. -/
  run : String -> Except String (Except String String × Native)
  /-- The order in which the lookup for the input of this name visits a map. -/
  visited : String -> GoMap String CWLValue -> List String
  marshal_text : forall text, Exists fun json => marshal (.string text) = .ok json
  marshal_null : Exists fun json => marshal .null = .ok json
  marshalMap_iff : forall inputs, (Exists fun json => marshalMap inputs = .ok json) ↔
    forall key value, inputs key = some value -> Exists fun json => marshal value = .ok json
  visited_perm : forall name map, (visited name map).Perm map.keys

/-- The simplest of them: every value has a JSON text, and a map is visited in
the order in which it is stored. -/
def Javascript.plain (newCWLType : Native -> Except String CWLValue) (marshal : CWLValue -> String)
    (marshalMap : (String -> Option CWLValue) -> String)
    (run : String -> Except String (Except String String × Native)) : Javascript where
  newCWLType := newCWLType
  marshal value := .ok (marshal value)
  marshalMap inputs := .ok (marshalMap inputs)
  run := run
  visited _ map := map.keys
  marshal_text _ := ⟨_, rfl⟩
  marshal_null := ⟨_, rfl⟩
  marshalMap_iff _ := iff_of_true ⟨_, rfl⟩ fun _ _ _ => ⟨_, rfl⟩
  visited_perm _ _ := List.Perm.refl _

/-- The leftmost, longest match of an opening, at least one letter and a
closing letter. -/
def greedy (opening : List Char) (closing : Char) : List Char -> Option (List Char)
  | [] => none
  | letter :: rest =>
      let upTo := ((letter :: rest).reverse.dropWhile (· ≠ closing)).reverse
      if opening.isPrefixOf (letter :: rest) ∧ opening.length + 2 ≤ upTo.length then some upTo
      else greedy opening closing rest

/-- The matches of `\$\(.+\)`, at most one in a line. -/
def expressionMatches (text : String) : List String :=
  (text.toList.splitOn '\n').filterMap fun line => (greedy ['$', '('] ')' line).map String.ofList

/-- The match of the pattern for a function body.  There is never a second one. -/
def bodyMatch (text : String) : Option String :=
  (greedy ['$', '{'] '}' text.toList).map String.ofList

/-- The match without its opening and its closing letter. -/
def inside (found : String) : String :=
  String.ofList (found.toList.drop 2).dropLast

/-- `strings.Replace` of the first occurrence. -/
def replaceFirst (old new : List Char) : List Char -> List Char
  | [] => if old = [] then new else []
  | letter :: rest =>
      if old.isPrefixOf (letter :: rest) then new ++ (letter :: rest).drop old.length
      else letter :: replaceFirst old new rest

example : expressionMatches "a $(inputs.x) b" = ["$(inputs.x)"] := by decide
example : (bodyMatch "${return 1;}").map inside = some "return 1;" := by decide

namespace StepInputs

section

variable (js : Javascript)

/-- The type switch on what an expression returned.  The case for `uint64`
asserts that the value is an `int`. -/
def returned : Native -> Except Stop CWLValue
  | .string text => .ok (.string text)
  | .boolean value => .ok (.other "boolean" (toString value))
  | .int json => .ok (.other "int" json)
  | .float32 json => .ok (.other "float" json)
  | .double json => .ok (.other "double" json)
  | .nan => .error (.err "(EvaluateExpression) float64 IsNaN ")
  | .uint64 _ => .error .panic
  | .array _ => .error (.err "(GetStepInputObjects) array not supported yet")
  | .null => .ok .null
  | native =>
      match js.newCWLType native with
      | .error err => .error
          (.err ("(GetStepInputObjects) interface{}, NewCWLType returned: " ++ err))
      | .ok value => .ok value

/-- The program for an expression. -/
def expressionProgram (selfJson inputsJson expression : String) : String :=
  "(function()\x7b\n self=" ++ selfJson ++ " ; inputs=" ++ inputsJson ++ "; return " ++
      expression ++ ";\n\x7d)()"

/-- The program for a function body. -/
def bodyProgram (selfJson inputsJson body : String) : String :=
  "(function()\x7b\n self=" ++ selfJson ++ " ; inputs=" ++ inputsJson ++ "; " ++
      body ++ " \n\x7d)()"

/-- Several expressions: each match is replaced by the text of its value. -/
def concatenate (selfJson inputsJson : String) : String -> List String -> Except Stop String
  | parsed, [] => .ok parsed
  | parsed, found :: rest =>
      match js.run (expressionProgram selfJson inputsJson (inside found)) with
      | .error err => .error (.err ("(GetStepInputObjects) Javascript complained: A) " ++ err))
      | .ok (.error err, _) =>
          .error (.err ("(GetStepInputObjects) Cannot convert value to string: " ++ err))
      | .ok (.ok text, _) =>
          concatenate selfJson inputsJson
              (String.ofList (replaceFirst found.toList text.toList parsed.toList)) rest

/-- The value of a text, with the JSON texts of `self` and of the inputs. -/
def evaluateText (selfJson inputsJson text : String) : Except Stop CWLValue :=
  match expressionMatches text with
  | [] =>
      match bodyMatch text with
      | none => .ok (.string text)
      | some body =>
          match js.run (bodyProgram selfJson inputsJson (inside body)) with
          | .error err => .error (.err ("Javascript complained: B) " ++ err))
          | .ok (_, exported) =>
              match js.newCWLType exported with
              | .error err =>
                  .error (.err ("(NewWorkunit) Error parsing javascript VM result value, cwl.NewCWLType returns: " ++
                    err))
              | .ok value => .ok value
  | [expression] =>
      match js.run (expressionProgram selfJson inputsJson (inside expression)) with
      | .error err => .error (.err ("(GetStepInputObjects) Javascript complained: A) " ++ err))
      | .ok (_, exported) => returned js exported
  | several =>
      match concatenate js selfJson inputsJson text several with
      | .error stop => .error stop
      | .ok parsed => .ok (.string parsed)

/-- The value of a `valueFrom`, with the inputs as they are. -/
def evaluate (inputs : String -> Option CWLValue) (input : StepInput) : Except Stop CWLValue :=
  match js.marshalMap inputs with
  | .error err => .error (.err ("(GetStepInputObjects) json.Marshal returns: " ++ err))
  | .ok inputsJson =>
      match js.marshal ((inputs input.cmdID).getD .null) with
      | .error err => .error (.err ("(GetStepInputObjects) json.Marshal returned: " ++ err))
      | .ok selfJson => evaluateText js selfJson inputsJson input.valueFrom

/-! ## The two rounds -/

/-- The second round. -/
def valueFromLoop : GoMap String CWLValue -> List StepInput -> Except Stop (GoMap String CWLValue)
  | map, [] => .ok map
  | map, input :: rest =>
      if input.valueFrom = "" then valueFromLoop map rest
      else
        match evaluate js map.lookup input with
        | .error stop => .error stop
        | .ok value => valueFromLoop (map.insert input.cmdID value) rest

variable (store : Store) (job : Job) (wi : WorkflowInstance)

/-- One element of a list of sources. -/
def listedSource (source : Option String) : Except String CWLValue :=
  match source with
  | none => .error "src is not a string"
  | some src =>
      match getCWLSource store job wi src with
      | .error _ => .error "(GetStepInputObject) (array) getCWLSource returns: "
      | .ok (.value obj) => .ok obj
      | .ok _ => .error ("(GetStepInputObject) (array) getCWLSource did not find output \"" ++
          src ++ "\"")

/-- The loop over a list of sources, with the way to merge them. -/
def mergeSources (linkMerge : String) : List (Option String) -> Except String (List CWLValue)
  | [] => .ok []
  | source :: rest =>
      match listedSource store job wi source with
      | .error err => .error err
      | .ok obj =>
          if linkMerge = "merge_flattened" then
            match obj with
            | .array items => (mergeSources linkMerge rest).map (items ++ ·)
            | _ => .error "(GetStepInputObject) merge_flattened, expected array as input"
          else if linkMerge = "merge_nested" then (mergeSources linkMerge rest).map (obj :: ·)
          else .error ("(GetStepInputObject) link_merge_method " ++ linkMerge ++ " not supported")

/-- The branch for a list of sources. -/
def arraySource (input : StepInput) (sources : List (Option String)) : Except String CWLValue :=
  if input.sourceIndex = 0 then
    (mergeSources store job wi (input.linkMerge.getD "merge_nested") sources).map CWLValue.array
  else
    match sources[input.sourceIndex - 1]? with
    | none => .error "(GetStepInputObject) input.SourceIndex >= len(sourceAsArray)"
    | some source => listedSource store job wi source

/-- The end of the text that tells why a workflow input was not found: the names
of the inputs that are there, as Go visits them. -/
def endsInOptional (keys : List String) : Bool :=
  hasSuffix (keys.foldl (fun text key => text ++ "," ++ key) "") "optional"

/-- The branch for a single source: `none` if the call returns without an
object.  A workflow input that is not found passes as optional if the list of
the inputs that are there ends in that word. -/
def singleSource (input : StepInput) (source : String) : Except String (Option CWLValue) :=
  let workflowInputMap := getMap (wi.inputs.getD [])
  match classify wi.localID source, fetchSource store job wi workflowInputMap source with
  | _, .error _ => .error "(GetStepInputObject) cannot look up the source"
  | kind, .ok fetched =>
      let isInput : Bool := match kind with
        | .ok (.workflowInput _) => true
        | _ => false
      let chosen : Except String (Option CWLValue) :=
        match fetched with
        | .value obj => .ok (some obj)
        | _ =>
            match input.default with
            | none =>
                if isInput && endsInOptional (js.visited input.cmdID workflowInputMap) then
                    .ok (some .null)
                else .ok none
            | some native =>
                match js.newCWLType native with
                | .error err => .error ("(GetStepInputObject) could not use default: " ++ err)
                | .ok value => .ok (some value)
      match chosen with
      | .error err => .error err
      | .ok none => .ok none
      | .ok (some obj) =>
          if input.sourceIndex = 0 then .ok (some obj)
          else
            match obj with
            | .array items =>
                match items[input.sourceIndex - 1]? with
                | some element => .ok (some element)
                | none => .error "(GetStepInputObject) SourceIndex out of bounds"
            | _ => .error "(GetStepInputObject) Array expected"

/-- Null does not count as an input. -/
def hasInput : Option CWLValue -> Bool
  | none | some .null => false
  | _ => true

/-- The end of `GetStepInputObject`: the default, or null, for an input without
a value. -/
def useDefault (map : GoMap String CWLValue) (input : StepInput) :
    Except String (GoMap String CWLValue) :=
  if input.source = none ∨ hasInput (map.lookup input.cmdID) = false then
    match input.default with
    | none => if input.valueFrom = "" then .ok (map.insert input.cmdID .null) else .ok map
    | some native =>
        match js.newCWLType native with
        | .error err => .error
            ("(GetStepInputObject) NewCWLTypeFromInterface(input.Default) returns: " ++ err)
        | .ok value => .ok (map.insert input.cmdID value)
  else .ok map

/-- `GetStepInputObject`. -/
def getStepInputObject (map : GoMap String CWLValue) (input : StepInput) :
    Except String (GoMap String CWLValue) :=
  match input.source with
  | none => useDefault js map input
  | some (.strings _) | some .other =>
      .error "(GetStepInputObject) (string) Cannot parse WorkflowStep source"
  | some (.array sources) =>
      match arraySource store job wi input sources with
      | .error err => .error err
      | .ok obj => useDefault js (map.insert input.cmdID obj) input
  | some (.string source) =>
      match singleSource js store job wi input source with
      | .error err => .error err
      | .ok none => .ok map
      | .ok (some obj) => useDefault js (map.insert input.cmdID obj) input

/-- The first round. -/
def sourceLoop : GoMap String CWLValue -> List StepInput -> Except String (GoMap String CWLValue)
  | map, [] => .ok map
  | map, input :: rest =>
      match getStepInputObject js store job wi map input with
      | .error err => .error ("(GetStepInputObjects) GetStepInputObject returned: " ++ err)
      | .ok next => sourceLoop next rest

/-- `GetStepInputObjects`. -/
def getStepInputObjects (inputs : List StepInput) : Except Stop (GoMap String CWLValue) :=
  match sourceLoop js store job wi ∅ inputs with
  | .error err => .error (.err err)
  | .ok map => valueFromLoop js map inputs

end

/-! ## The first round -/

section

variable {js : Javascript} {store : Store} {job : Job} {wi : WorkflowInstance}

variable (js) in
/-- What the end of `GetStepInputObject` writes for an input with this value. -/
def defaultWrite (present : Option CWLValue) (input : StepInput) :
    Except String (Option CWLValue) :=
  if input.source = none ∨ hasInput present = false then
    match input.default with
    | none => if input.valueFrom = "" then .ok (some .null) else .ok none
    | some native =>
        match js.newCWLType native with
        | .error err => .error
            ("(GetStepInputObject) NewCWLTypeFromInterface(input.Default) returns: " ++ err)
        | .ok value => .ok (some value)
  else .ok none

/-- A value that was computed for an input goes into the map. -/
def writeOwn (map : GoMap String CWLValue) (input : StepInput) :
    Except String (Option CWLValue) -> Except String (GoMap String CWLValue)
  | .error err => .error err
  | .ok none => .ok map
  | .ok (some value) => .ok (map.insert input.cmdID value)

theorem useDefault_eq (map : GoMap String CWLValue) (input : StepInput) :
    useDefault js map input = writeOwn map input
        (defaultWrite js (map.lookup input.cmdID) input) := by
  unfold useDefault defaultWrite
  by_cases needed : input.source = none ∨ hasInput (map.lookup input.cmdID) = false
  · rw [if_pos needed, if_pos needed]
    cases input.default with
    | none =>
        dsimp only
        by_cases silent : input.valueFrom = ""
        · rw [if_pos silent, if_pos silent]
          rfl
        · rw [if_neg silent, if_neg silent]
          rfl
    | some native =>
        dsimp only
        cases js.newCWLType native with
        | error err => rfl
        | ok value => rfl
  · rw [if_neg needed, if_neg needed]
    rfl

variable (js store job wi) in
/-- What the first round writes for an input, whatever the others are. -/
def ownValue (input : StepInput) : Except String (Option CWLValue) :=
  (getStepInputObject js store job wi ∅ input).map fun map => map.lookup input.cmdID

/-- The default is chosen alike in every map that has the same value, or none,
for the input. -/
theorem useDefault_own {map : GoMap String CWLValue} {input : StepInput}
    (new : map.lookup input.cmdID = none) (present : Option CWLValue) :
    useDefault js (present.elim map fun obj => map.insert input.cmdID obj) input =
      writeOwn map input ((useDefault js
          (present.elim ∅ fun obj => (∅ : GoMap String CWLValue).insert input.cmdID obj)
        input).map fun map => map.lookup input.cmdID) := by
  have value (start : GoMap String CWLValue) (absent : start.lookup input.cmdID = none) :
      (present.elim start fun obj => start.insert input.cmdID obj).lookup input.cmdID =
          present := by
    cases present with
    | none => exact absent
    | some obj => exact AList.lookup_insert _
  rw [useDefault_eq, useDefault_eq, value map new, value ∅ (AList.lookup_empty _)]
  cases defaultWrite js present input with
  | error err => rfl
  | ok written =>
      cases written with
      | none =>
          cases present with
          | none => rfl
          | some obj =>
              change _ = writeOwn map input
                  (.ok (((∅ : GoMap String CWLValue).insert input.cmdID obj).lookup
                input.cmdID))
              rw [AList.lookup_insert]
              rfl
      | some value =>
          obtain ⟨start, isStart⟩ : Exists fun start : GoMap String CWLValue =>
            start = present.elim ∅ fun obj => (∅ : GoMap String CWLValue).insert input.cmdID obj :=
                ⟨_, rfl⟩
          rw [<- isStart]
          change _ = writeOwn map input (.ok ((start.insert input.cmdID value).lookup input.cmdID))
          rw [GoMap.lookup_insert_if, if_pos rfl]
          cases present with
          | none => rfl
          | some obj => exact congrArg Except.ok (AList.insert_insert _)

/-- An input reads and writes the map at its own name only. -/
theorem getStepInputObject_own {map : GoMap String CWLValue} {input : StepInput}
    (new : map.lookup input.cmdID = none) :
    getStepInputObject js store job wi map input = writeOwn map input
        (ownValue js store job wi input) := by
  unfold ownValue getStepInputObject
  cases input.source with
  | none => exact useDefault_own new none
  | some source =>
      cases source with
      | strings sources => rfl
      | other => rfl
      | array sources =>
          dsimp only
          cases arraySource store job wi input sources with
          | error err => rfl
          | ok obj => exact useDefault_own new (some obj)
      | string source =>
          dsimp only
          cases singleSource js store job wi input source with
          | error err => rfl
          | ok found =>
              cases found with
              | none => rfl
              | some obj => exact useDefault_own new (some obj)

variable (js store job wi) in
/-- The same with the error as the loop reports it. -/
def ownRound (input : StepInput) : Except String (Option CWLValue) :=
  (ownValue js store job wi input).mapError
      ("(GetStepInputObjects) GetStepInputObject returned: " ++ ·)

/-- The first round is a loop that writes under different names. -/
theorem sourceLoop_eq {inputs : List StepInput} (distinct : (inputs.map StepInput.cmdID).Nodup)
    {map : GoMap String CWLValue} (new : forall input, input ∈ inputs -> map.lookup input.cmdID = none) :
    sourceLoop js store job wi map inputs = writeAll StepInput.cmdID (ownRound js store job wi) map inputs := by
  induction inputs generalizing map with
  | nil => rfl
  | cons input rest inductionHypothesis =>
      rw [List.map_cons, List.nodup_cons] at distinct
      have different (other : StepInput) (member : other ∈ rest) : other.cmdID ≠ input.cmdID :=
        fun same => distinct.1 (List.mem_map.mpr ⟨other, member, same⟩)
      unfold sourceLoop writeAll ownRound
      rw [getStepInputObject_own (new input List.mem_cons_self)]
      cases ownValue js store job wi input with
      | error err => rfl
      | ok written =>
          cases written with
          | none => exact inductionHypothesis distinct.2 fun other member => new other (List.mem_cons_of_mem _ member)
          | some value =>
              refine inductionHypothesis distinct.2 fun other member => ?_
              rw [GoMap.lookup_insert_if, if_neg (different other member)]
              exact new other (List.mem_cons_of_mem _ member)

/-- The order of the inputs has no influence on the first round. -/
theorem sourceLoop_perm {inputs others : List StepInput} (perm : inputs.Perm others)
    (distinct : (inputs.map StepInput.cmdID).Nodup) :
    SameResult (sourceLoop js store job wi ∅ inputs) (sourceLoop js store job wi ∅ others) := by
  have distinctOthers : (others.map StepInput.cmdID).Nodup := (perm.map _).nodup_iff.mp distinct
  rw [sourceLoop_eq distinct fun _ _ => AList.lookup_empty _,
    sourceLoop_eq distinctOthers fun _ _ => AList.lookup_empty _]
  exact writeAll_perm perm distinct fun _ => rfl

/-! ## The second round -/

/-- A `valueFrom` with something to evaluate. -/
def Expression (input : StepInput) : Prop :=
  expressionMatches input.valueFrom ≠ [] ∨ bodyMatch input.valueFrom ≠ none

instance : DecidablePred Expression :=
  fun _ => inferInstanceAs (Decidable (_ ∨ _))

variable (js) in
/-- The inputs can be written as JSON. Infinities and NaN have no JSON, and the program that is
given to JavaScript holds all inputs. -/
def Encodes (inputs : String -> Option CWLValue) : Prop :=
  Exists fun json => js.marshalMap inputs = .ok json

/-- With the inputs `self` can be written too, since it is one of them or null. -/
theorem Encodes.self {inputs : String -> Option CWLValue} (encodes : Encodes js inputs)
    (name : String) :
    Exists fun json => js.marshal ((inputs name).getD .null) = .ok json := by
  cases found : inputs name with
  | none => exact js.marshal_null
  | some value => exact (js.marshalMap_iff inputs).mp encodes name value found

theorem encodes_of_evaluate {inputs : String -> Option CWLValue} {input : StepInput}
    {value : CWLValue} (evaluated : evaluate js inputs input = .ok value) : Encodes js inputs := by
  unfold evaluate at evaluated
  cases encoded : js.marshalMap inputs with
  | error err =>
      rw [encoded] at evaluated
      cases evaluated
  | ok json => exact ⟨json, encoded⟩

theorem evaluate_stops {inputs : String -> Option CWLValue} (encodes : ¬Encodes js inputs)
    (input : StepInput) :
    Exists fun stop => evaluate js inputs input = .error stop := by
  cases evaluated : evaluate js inputs input with
  | error stop => exact ⟨stop, rfl⟩
  | ok value => exact absurd (encodes_of_evaluate evaluated) encodes

/-- A plain text is taken as it is, if only the inputs can be written. -/
theorem evaluate_text {input : StepInput} (plain : ¬ Expression input)
    {inputs : String -> Option CWLValue} (encodes : Encodes js inputs) :
    evaluate js inputs input = .ok (.string input.valueFrom) := by
  unfold Expression at plain
  rw [not_or, not_not, not_not] at plain
  rcases encodes.self input.cmdID with ⟨selfJson, self⟩
  rcases encodes with ⟨inputsJson, encoded⟩
  rw [evaluate, encoded]
  dsimp only
  rw [self]
  dsimp only
  rw [evaluateText, plain.1, plain.2]

variable (js) in
/-- What the second round writes for an input if `inputs` are as given. -/
def ownExpression (inputs : String -> Option CWLValue) (input : StepInput) :
    Except Stop (Option CWLValue) :=
  if input.valueFrom = "" then .ok none
  else (evaluate js inputs input).map some

variable (js) in
/-- The `valueFrom` of this input gives the value that it has already. -/
def Settled (inputs : String -> Option CWLValue) (input : StepInput) : Prop :=
  input.valueFrom ≠ "" -> forall value, evaluate js inputs input = .ok value ->
      inputs input.cmdID = some value

variable (js) in
/-- The `valueFrom` of this input gives no value that JSON cannot express. A value that cannot be
written stops every later evaluation, even one that does not read it. -/
def Writable (inputs : String -> Option CWLValue) (input : StepInput) : Prop :=
  forall value, evaluate js inputs input = .ok value -> Exists fun json =>
      js.marshal value = .ok json

variable (js) in
/-- What the evaluation of one input may do to that of another: an expression has
to find the inputs as they were, a plain text only has to find inputs that can
be written. -/
def Spares (inputs : String -> Option CWLValue) (input other : StepInput) : Prop :=
  (other.valueFrom ≠ "" -> Writable js inputs input) ∧ (Expression other -> Settled js inputs input)

theorem Encodes.insert {map : GoMap String CWLValue} (encodes : Encodes js map.lookup)
    {value : CWLValue} (written : Exists fun json => js.marshal value = .ok json) (name : String) :
    Encodes js (map.insert name value).lookup := by
  apply (js.marshalMap_iff _).mpr
  intro key other found
  rw [GoMap.lookup_insert_if] at found
  by_cases same : key = name
  · rw [if_pos same] at found
    cases found
    exact written
  · rw [if_neg same] at found
    exact (js.marshalMap_iff _).mp encodes key other found

/-- Settled inputs leave the map as it is. -/
theorem valueFromLoop_settled {inputs : List StepInput} {map last : GoMap String CWLValue}
    (settled : forall input, input ∈ inputs -> Settled js map.lookup input)
    (passed : valueFromLoop js map inputs = .ok last) : Same last map := by
  induction inputs generalizing map with
  | nil =>
      cases passed
      exact fun _ => rfl
  | cons input rest inductionHypothesis =>
      have later (other : StepInput) (member : other ∈ rest) : Settled js map.lookup other :=
        settled other (List.mem_cons_of_mem _ member)
      unfold valueFromLoop at passed
      by_cases silent : input.valueFrom = ""
      · rw [if_pos silent] at passed
        exact inductionHypothesis later passed
      · rw [if_neg silent] at passed
        cases evaluated : evaluate js map.lookup input with
        | error stop =>
            rw [evaluated] at passed
            cases passed
        | ok value =>
            rw [evaluated] at passed
            have unchanged : Same (map.insert input.cmdID value) map :=
              Same.of_insert (settled input List.mem_cons_self silent value evaluated)
            refine Same.trans (inductionHypothesis (fun other member => ?_) passed) unchanged
            rw [funext unchanged]
            exact later other member

/-- Plain texts never fail where the inputs can be written. -/
theorem valueFromLoop_texts {inputs : List StepInput} {map : GoMap String CWLValue}
    (plain : forall input, input ∈ inputs -> input.valueFrom ≠ "" -> ¬Expression input)
    (encodes : Encodes js map.lookup) :
    Exists fun last => valueFromLoop js map inputs = .ok last := by
  induction inputs generalizing map with
  | nil => exact ⟨map, rfl⟩
  | cons input rest inductionHypothesis =>
      have later (other : StepInput) (member : other ∈ rest) :=
          plain other (List.mem_cons_of_mem _ member)
      unfold valueFromLoop
      by_cases silent : input.valueFrom = ""
      · rw [if_pos silent]
        exact inductionHypothesis later encodes
      · rw [if_neg silent, evaluate_text (plain input List.mem_cons_self silent) encodes]
        exact inductionHypothesis later (encodes.insert (js.marshal_text _) input.cmdID)

/-- Where the inputs cannot be written, the first `valueFrom` ends the loop. -/
theorem valueFromLoop_stops {inputs : List StepInput} {map : GoMap String CWLValue}
    (encodes : ¬Encodes js map.lookup) {input : StepInput} (member : input ∈ inputs)
    (speaks : input.valueFrom ≠ "") :
    Exists fun stop => valueFromLoop js map inputs = .error stop := by
  induction inputs with
  | nil => exact absurd member List.not_mem_nil
  | cons first rest inductionHypothesis =>
      unfold valueFromLoop
      by_cases silent : first.valueFrom = ""
      · rw [if_pos silent]
        rcases List.mem_cons.mp member with rfl | behind
        · exact absurd silent speaks
        · exact inductionHypothesis behind
      · rw [if_neg silent]
        rcases evaluate_stops encodes first with ⟨stop, stops⟩
        rw [stops]
        exact ⟨stop, rfl⟩

/-- As long as every input spares those that are still to come, the second round
evaluates all of them as with the map of the first round.  The map is that one
until something is written, and can be written as well as that one afterwards. -/
theorem valueFromLoop_eq {reader : String -> Option CWLValue} {inputs : List StepInput}
    (spares : inputs.Pairwise (Spares js reader)) {map : GoMap String CWLValue}
    (seen : forall input, input ∈ inputs -> Expression input -> map.lookup = reader)
    (written : forall input, input ∈ inputs -> input.valueFrom ≠ "" ->
      map.lookup = reader ∨ (Encodes js reader ∧ Encodes js map.lookup)) :
    valueFromLoop js map inputs = writeAll StepInput.cmdID (ownExpression js reader)
        map inputs := by
  induction inputs generalizing map with
  | nil => rfl
  | cons input rest inductionHypothesis =>
      rw [List.pairwise_cons] at spares
      unfold valueFromLoop writeAll ownExpression
      by_cases silent : input.valueFrom = ""
      · rw [if_pos silent, if_pos silent]
        exact inductionHypothesis spares.2
            (fun other member => seen other (List.mem_cons_of_mem _ member))
          fun other member => written other (List.mem_cons_of_mem _ member)
      · rw [if_neg silent, if_neg silent]
        have same : evaluate js map.lookup input = evaluate js reader input := by
          by_cases expression : Expression input
          · rw [seen input List.mem_cons_self expression]
          · rcases written input List.mem_cons_self silent with same | ⟨encodes, now⟩
            · rw [same]
            · rw [evaluate_text expression encodes, evaluate_text expression now]
        rw [same]
        cases evaluated : evaluate js reader input with
        | error stop => rfl
        | ok value =>
            have encodes := encodes_of_evaluate evaluated
            have now : Encodes js map.lookup := by
              rcases written input List.mem_cons_self silent with same | ⟨_, now⟩
              · rw [same]
                exact encodes
              · exact now
            refine inductionHypothesis spares.2 (fun other member expression => ?_) fun other
                member speaks => ?_
            · have unchanged : map.lookup = reader :=
                seen other (List.mem_cons_of_mem _ member) expression
              have there : map.lookup input.cmdID = some value :=
                (congrFun unchanged input.cmdID).trans
                  ((spares.1 other member).2 expression silent value evaluated)
              rw [funext (Same.of_insert there), unchanged]
            · exact Or.inr ⟨encodes, now.insert ((spares.1 other member).1 speaks value evaluated)
                input.cmdID⟩

/-! ## The order of the inputs -/

/-- The same lookups and the same VM, with maps visited in another order. Go visits a map in
another order each time. Two runs may therefore differ in nothing else and still find their keys
in another order. -/
def Revisits (js other : Javascript) : Prop :=
  Exists fun visited => Exists fun perm =>
      other = { js with visited := visited, visited_perm := perm }

theorem Revisits.refl (js : Javascript) : Revisits js js :=
  ⟨js.visited, js.visited_perm, rfl⟩

theorem Revisits.trans {first second third : Javascript} (before : Revisits first second)
    (after : Revisits second third) : Revisits first third := by
  rcases before with ⟨_, _, rfl⟩
  exact after

/-- The second round visits no map. -/
theorem Revisits.evaluate {other : Javascript} (revisits : Revisits js other) :
    evaluate other = evaluate js := by
  rcases revisits with ⟨visited, perm, rfl⟩
  have several (selfJson inputsJson parsed : String) (found : List String) :
      concatenate { js with visited := visited, visited_perm := perm } selfJson inputsJson
          parsed found =
        concatenate js selfJson inputsJson parsed found := by
    induction found generalizing parsed with
    | nil => rfl
    | cons expression rest inductionHypothesis =>
        rw [concatenate, concatenate]
        cases js.run (expressionProgram selfJson inputsJson (inside expression)) with
        | error err => rfl
        | ok answer =>
            rcases answer with ⟨_ | text, exported⟩
            · rfl
            · exact inductionHypothesis _
  funext inputs input
  unfold StepInputs.evaluate
  cases js.marshalMap inputs with
  | error err => rfl
  | ok inputsJson =>
      dsimp only
      cases js.marshal ((inputs input.cmdID).getD .null) with
      | error err => rfl
      | ok selfJson =>
          dsimp only
          unfold evaluateText
          cases expressionMatches input.valueFrom with
          | nil => rfl
          | cons expression rest =>
              cases rest with
              | nil => rfl
              | cons second others =>
                  dsimp only
                  rw [several]

variable (js store job wi) in
/-- Every order of the inputs, and of the visits to the inputs of the instance, gives the same
map, or an error too, and every expression finds the map as the first round left it. CWL gives the
inputs of a step no order; the parser has them in the order of the document, or of a Go map, so
that no result may depend on it. -/
def OrderFree (inputs : List StepInput) : Prop :=
  forall here there : Javascript, Revisits js here -> Revisits js there ->
  forall others : List StepInput, inputs.Perm others ->
    SameResult (getStepInputObjects here store job wi inputs)
        (getStepInputObjects there store job wi others) ∧
    forall before input after, others = before ++ input :: after -> Expression input ->
      forall first map, sourceLoop there store job wi ∅ others = .ok first ->
        valueFromLoop there first before = .ok map -> Same map first

variable (js store job wi) in
/-- Beside an expression, the `valueFrom` of another input gives no more than what its source or
default has given already; and beside any `valueFrom`, no value that JSON cannot express. The
values are those of the first round, which all inputs share, so that the condition can be checked
without running the second one. -/
def Independent (inputs : List StepInput) : Prop :=
  forall first, sourceLoop js store job wi ∅ inputs = .ok first ->
    forall input, input ∈ inputs -> forall other, other ∈ inputs -> input.cmdID ≠ other.cmdID ->
      Spares js first.lookup input other

variable (js store job wi) in
/-- A source or default cannot be used, or a `valueFrom` cannot be evaluated with
what the sources and defaults give. -/
def Fails (inputs : List StepInput) : Prop :=
  match sourceLoop js store job wi ∅ inputs with
  | .error _ => True
  | .ok first => Exists fun input => input ∈ inputs ∧ input.valueFrom ≠ "" ∧
      Exists fun stop => evaluate js first.lookup input = .error stop

/-- Two maps of the first round give the same for an input in the end. Errors count as equal,
whatever their text. -/
def Agree (js : Javascript) (first last : GoMap String CWLValue) (input : StepInput) : Prop :=
  if input.valueFrom = "" then first.lookup input.cmdID = last.lookup input.cmdID
  else (evaluate js first.lookup input).toOption = (evaluate js last.lookup input).toOption

variable (js store job wi) in
/-- Two orders of the visits agree: something fails in both or in neither, and
each input, taken alone, comes out the same. -/
def Steady (inputs : List StepInput) : Prop :=
  forall here there : Javascript, Revisits js here -> Revisits js there ->
    (Fails here store job wi inputs ↔ Fails there store job wi inputs) ∧
    (¬Fails here store job wi inputs ->
    forall first last, sourceLoop here store job wi ∅ inputs = .ok first ->
      sourceLoop there store job wi ∅ inputs = .ok last -> forall input, input ∈ inputs ->
          Agree js first last input)

theorem Independent.perm {inputs others : List StepInput} (perm : inputs.Perm others)
    (distinct : (inputs.map StepInput.cmdID).Nodup)
    (independent : Independent js store job wi inputs) :
    Independent js store job wi others := by
  intro last passed input member other memberOther
  have same : SameResult (sourceLoop js store job wi ∅ inputs)
      (sourceLoop js store job wi ∅ others) :=
    sourceLoop_perm perm distinct
  rw [passed] at same
  cases started : sourceLoop js store job wi ∅ inputs with
  | error err =>
      rw [started] at same
      exact absurd same id
  | ok first =>
      rw [started] at same
      rw [<- funext same]
      exact independent first started input (perm.mem_iff.mpr member) other
          (perm.mem_iff.mpr memberOther)

/-- For inputs with different names. -/
theorem Independent.pairwise {inputs : List StepInput}
    (distinct : (inputs.map StepInput.cmdID).Nodup)
    (independent : Independent js store job wi inputs) {first : GoMap String CWLValue}
    (passed : sourceLoop js store job wi ∅ inputs = .ok first) :
    inputs.Pairwise (Spares js first.lookup) :=
  (List.pairwise_map.mp distinct).imp_of_mem fun member memberOther different =>
    independent first passed _ member _ memberOther different

/-- The second round of independent inputs. -/
theorem getStepInputObjects_eq {inputs : List StepInput}
    (distinct : (inputs.map StepInput.cmdID).Nodup)
    (independent : Independent js store job wi inputs) {first : GoMap String CWLValue}
    (passed : sourceLoop js store job wi ∅ inputs = .ok first) :
    getStepInputObjects js store job wi inputs =
      writeAll StepInput.cmdID (ownExpression js first.lookup) first inputs := by
  unfold getStepInputObjects
  rw [passed]
  exact valueFromLoop_eq (independent.pairwise distinct passed) (fun _ _ _ => rfl) fun _ _ _ =>
      Or.inl rfl

theorem Independent.sameResult {inputs others : List StepInput} (perm : inputs.Perm others)
    (distinct : (inputs.map StepInput.cmdID).Nodup)
    (independent : Independent js store job wi inputs) :
    SameResult (getStepInputObjects js store job wi inputs)
        (getStepInputObjects js store job wi others) := by
  have distinctOthers : (others.map StepInput.cmdID).Nodup := (perm.map _).nodup_iff.mp distinct
  have same : SameResult (sourceLoop js store job wi ∅ inputs)
      (sourceLoop js store job wi ∅ others) :=
    sourceLoop_perm perm distinct
  cases started : sourceLoop js store job wi ∅ inputs with
  | error err =>
      rw [started] at same
      cases startedOthers : sourceLoop js store job wi ∅ others with
      | error other =>
          unfold getStepInputObjects
          rw [started, startedOthers]
          trivial
      | ok last =>
          rw [startedOthers] at same
          exact absurd same id
  | ok first =>
      rw [started] at same
      cases startedOthers : sourceLoop js store job wi ∅ others with
      | error other =>
          rw [startedOthers] at same
          exact absurd same id
      | ok last =>
          rw [startedOthers] at same
          rw [getStepInputObjects_eq distinct independent started,
            getStepInputObjects_eq distinctOthers (independent.perm perm distinct) startedOthers,
                <- funext same]
          exact writeAll_perm perm distinct same

theorem ownExpression_error_iff {reader : String -> Option CWLValue} {input : StepInput} :
    (Exists fun stop => ownExpression js reader input = .error stop) ↔
      input.valueFrom ≠ "" ∧ Exists fun stop => evaluate js reader input = .error stop := by
  unfold ownExpression
  by_cases silent : input.valueFrom = ""
  · rw [if_pos silent]
    exact iff_of_false (by rintro ⟨_, ⟨⟩⟩) fun both => both.1 silent
  · rw [if_neg silent]
    cases evaluate js reader input with
    | error stop => exact iff_of_true ⟨stop, rfl⟩ ⟨silent, stop, rfl⟩
    | ok value => exact iff_of_false (by rintro ⟨_, ⟨⟩⟩) (by rintro ⟨_, _, ⟨⟩⟩)

/-- The whole call for independent inputs: it fails where one of its parts does,
and otherwise each input has what its own parts give. -/
theorem Independent.cases {inputs : List StepInput} (distinct : (inputs.map StepInput.cmdID).Nodup)
    (independent : Independent js store job wi inputs) :
    (Fails js store job wi inputs ∧ Exists fun stop => getStepInputObjects js store job wi inputs =
        .error stop) ∨
    (¬Fails js store job wi inputs ∧ Exists fun first => Exists fun last =>
      sourceLoop js store job wi ∅ inputs = .ok first ∧
          getStepInputObjects js store job wi inputs = .ok last ∧
      (forall input, input ∈ inputs -> last.lookup input.cmdID =
        if input.valueFrom = "" then first.lookup input.cmdID else
        (evaluate js first.lookup input).toOption) ∧
      forall name, name ∉ inputs.map StepInput.cmdID -> last.lookup name = none) := by
  unfold Fails
  cases started : sourceLoop js store job wi ∅ inputs with
  | error err =>
      refine Or.inl ⟨trivial, .err err, ?_⟩
      rw [getStepInputObjects, started]
  | ok first =>
      dsimp only
      rw [getStepInputObjects_eq distinct independent started]
      rcases @writeAll_cases StepInput String CWLValue Stop _ StepInput.cmdID
          (ownExpression js first.lookup) inputs
        distinct first with ⟨fails, input, member, isError⟩ | ⟨last, passed, values, untouched⟩
      · exact Or.inl ⟨⟨input, member, ownExpression_error_iff.mp isError⟩, fails⟩
      · have firstOthers (name : String) (missing : name ∉ inputs.map StepInput.cmdID) :
          first.lookup name = none := by
          rw [sourceLoop_eq distinct fun _ _ => AList.lookup_empty _] at started
          rcases @writeAll_cases StepInput String CWLValue String _ StepInput.cmdID
              (ownRound js store job wi) inputs
            distinct ∅ with ⟨⟨err, fails⟩, _⟩ | ⟨same, passedSame, _, others⟩
          · rw [started] at fails
            cases fails
          · rw [started] at passedSame
            cases passedSame
            rw [others name missing, AList.lookup_empty]
        refine Or.inr ⟨?_, first, last, rfl, passed, fun input member => ?_, fun name missing => ?_⟩
        · rintro ⟨input, member, fails⟩
          rcases ownExpression_error_iff.mpr fails with ⟨stop, stops⟩
          rcases values input member with ⟨value, isValue, _⟩
          rw [isValue] at stops
          cases stops
        · rcases values input member with ⟨value, isValue, written⟩
          rw [written]
          unfold ownExpression at isValue
          by_cases silent : input.valueFrom = ""
          · rw [if_pos silent] at isValue ⊢
            cases isValue
            rfl
          · rw [if_neg silent] at isValue ⊢
            cases evaluated : evaluate js first.lookup input with
            | error stop =>
                rw [evaluated] at isValue
                cases isValue
            | ok own =>
                rw [evaluated] at isValue
                cases isValue
                rfl
        · rw [untouched name missing, firstOthers name missing]

/-- With the same inputs in the same order only the visits can make a difference. -/
theorem Independent.sameVisits {here there : Javascript} (revisits : Revisits js here)
    (also : Revisits js there) {inputs : List StepInput}
    (distinct : (inputs.map StepInput.cmdID).Nodup)
    (independent : Independent here store job wi inputs)
    (independentToo : Independent there store job wi inputs) :
    SameResult (getStepInputObjects here store job wi inputs)
        (getStepInputObjects there store job wi inputs) ↔
      (Fails here store job wi inputs ↔ Fails there store job wi inputs) ∧
      (¬Fails here store job wi inputs ->
      forall first last, sourceLoop here store job wi ∅ inputs = .ok first ->
        sourceLoop there store job wi ∅ inputs = .ok last ->
        forall input, input ∈ inputs -> Agree js first last input) := by
  rcases independent.cases distinct with ⟨fails, stop, stops⟩
      | ⟨passes, first, map, started, passed, values, others⟩
  · rw [stops]
    rcases independentToo.cases distinct with ⟨failsToo, other, stopsToo⟩
        | ⟨passesToo, _, last, _, passedToo, _, _⟩
    · rw [stopsToo]
      exact iff_of_true trivial ⟨iff_of_true fails failsToo, fun passes => absurd fails passes⟩
    · rw [passedToo]
      exact iff_of_false id fun both => passesToo (both.1.mp fails)
  · rw [passed]
    rcases independentToo.cases distinct with ⟨failsToo, other, stopsToo⟩ |
      ⟨passesToo, firstToo, last, startedToo, passedToo, valuesToo, othersToo⟩
    · rw [stopsToo]
      exact iff_of_false id fun both => passes (both.1.mpr failsToo)
    · rw [passedToo]
      rw [revisits.evaluate] at values
      rw [also.evaluate] at valuesToo
      have agree_iff (input : StepInput) (member : input ∈ inputs) :
          Agree js first firstToo input ↔ map.lookup input.cmdID = last.lookup input.cmdID := by
        rw [values input member, valuesToo input member, Agree]
        by_cases silent : input.valueFrom = ""
        · rw [if_pos silent, if_pos silent, if_pos silent]
        · rw [if_neg silent, if_neg silent, if_neg silent]
      constructor
      · intro same
        refine ⟨iff_of_false passes passesToo, fun _ one two isFirst isSecond input member => ?_⟩
        rw [started] at isFirst
        rw [startedToo] at isSecond
        cases isFirst
        cases isSecond
        exact (agree_iff input member).mpr (same input.cmdID)
      · rintro ⟨_, agree⟩ name
        by_cases written : name ∈ inputs.map StepInput.cmdID
        · rcases List.mem_map.mp written with ⟨input, member, rfl⟩
          exact (agree_iff input member).mp
              (agree passes first firstToo started startedToo input member)
        · rw [others name written, othersToo name written]

/-- An order in which one input comes right before another. -/
theorem exists_adjacent {inputs : List StepInput} {input other : StepInput}
    (member : input ∈ inputs) (memberOther : other ∈ inputs)
    (different : input.cmdID ≠ other.cmdID) :
    Exists fun rest => inputs.Perm (input :: other :: rest) := by
  refine ⟨(inputs.erase input).erase other, (List.perm_cons_erase member).trans
      (List.Perm.cons _ ?_)⟩
  apply List.perm_cons_erase
  exact (List.mem_erase_of_ne fun same => different (congrArg StepInput.cmdID same.symm)).mpr
      memberOther

/-- Where the order has no influence, every input is settled beside an expression. -/
theorem OrderFree.settled {inputs : List StepInput} (distinct : (inputs.map StepInput.cmdID).Nodup)
    (free : OrderFree js store job wi inputs) {first : GoMap String CWLValue}
    (started : sourceLoop js store job wi ∅ inputs = .ok first) {input other : StepInput}
    (member : input ∈ inputs) (memberOther : other ∈ inputs) (different : input.cmdID ≠ other.cmdID)
    (expression : Expression other) :
    Settled js first.lookup input := by
  intro speaks value evaluated
  rcases exists_adjacent member memberOther different with ⟨rest, perm⟩
  have same : SameResult (sourceLoop js store job wi ∅ inputs)
      (sourceLoop js store job wi ∅ (input :: other :: rest)) := sourceLoop_perm perm distinct
  rw [started] at same
  cases startedOthers : sourceLoop js store job wi ∅ (input :: other :: rest) with
  | error err =>
      rw [startedOthers] at same
      exact absurd same id
  | ok last =>
      rw [startedOthers] at same
      have written : valueFromLoop js last [input] = .ok (last.insert input.cmdID value) := by
        unfold valueFromLoop
        rw [if_neg speaks, <- funext same, evaluated]
        rfl
      have unchanged := (free js js (Revisits.refl js) (Revisits.refl js) _ perm).2
          [input] other rest rfl expression
        last _ startedOthers written
      exact ((same input.cmdID).trans (unchanged input.cmdID).symm).trans (AList.lookup_insert _)

/-- And no value stops another evaluation: else it makes a difference whether the
input comes last, behind nothing but plain texts, or first. -/
theorem OrderFree.writable {inputs : List StepInput} (distinct : (inputs.map StepInput.cmdID).Nodup)
    (free : OrderFree js store job wi inputs) {first : GoMap String CWLValue}
    (started : sourceLoop js store job wi ∅ inputs = .ok first) {input other : StepInput}
    (member : input ∈ inputs) (memberOther : other ∈ inputs) (different : input.cmdID ≠ other.cmdID)
    (speaks : other.valueFrom ≠ "") :
    Writable js first.lookup input := by
  intro value evaluated
  by_contra unwritable
  have encodes := encodes_of_evaluate evaluated
  have expression : Expression input := by
    by_contra plain
    rw [evaluate_text plain encodes] at evaluated
    cases evaluated
    exact unwritable (js.marshal_text _)
  have inputSpeaks : input.valueFrom ≠ "" := by
    intro silent
    unfold Expression at expression
    rw [silent] at expression
    exact absurd expression (by decide)
  have apart (another : StepInput) (inRest : another ∈ inputs.erase input) :
      input.cmdID ≠ another.cmdID := by
    have once := (List.perm_cons_erase member).map StepInput.cmdID
    have nodup := once.nodup_iff.mp distinct
    rw [List.map_cons, List.nodup_cons] at nodup
    exact fun same => nodup.1 (List.mem_map.mpr ⟨another, inRest, same.symm⟩)
  have texts (another : StepInput) (inRest : another ∈ inputs.erase input)
      (_ : another.valueFrom ≠ "") :
      ¬Expression another := by
    intro also
    have there := free.settled distinct started member (List.mem_of_mem_erase inRest)
        (apart another inRest) also
      inputSpeaks value evaluated
    exact unwritable ((js.marshalMap_iff _).mp encodes _ value there)
  have settled (another : StepInput) (inRest : another ∈ inputs.erase input) :
      Settled js first.lookup another :=
    free.settled distinct started (List.mem_of_mem_erase inRest) member
        (apart another inRest).symm expression
  -- the input comes first: it leaves inputs that cannot be written, and another one speaks
  have front : SameResult (getStepInputObjects js store job wi inputs)
      (getStepInputObjects js store job wi (input :: inputs.erase input)) :=
    (free js js (Revisits.refl js) (Revisits.refl js) _ (List.perm_cons_erase member)).1
  have fails : Exists fun stop => getStepInputObjects js store job wi
      (input :: inputs.erase input) = .error stop := by
    have same : SameResult (sourceLoop js store job wi ∅ inputs) (sourceLoop js store job wi ∅
      (input :: inputs.erase input)) := sourceLoop_perm (List.perm_cons_erase member) distinct
    rw [started] at same
    unfold getStepInputObjects
    cases startedOthers : sourceLoop js store job wi ∅ (input :: inputs.erase input) with
    | error err => exact ⟨_, rfl⟩
    | ok last =>
        rw [startedOthers] at same
        dsimp only
        rw [valueFromLoop, if_neg inputSpeaks, <- funext same, evaluated]
        have inRest : other ∈ inputs.erase input :=
          (List.mem_erase_of_ne fun same => different (congrArg StepInput.cmdID same.symm)).mpr
              memberOther
        refine valueFromLoop_stops (fun encodesLater => unwritable ?_) inRest speaks
        exact (js.marshalMap_iff _).mp encodesLater input.cmdID value (AList.lookup_insert _)
  -- the input comes last: the texts in front of it change nothing
  have perm : inputs.Perm (inputs.erase input ++ [input]) :=
    (List.perm_cons_erase member).trans (List.perm_append_singleton input _).symm
  have back : SameResult (getStepInputObjects js store job wi inputs)
      (getStepInputObjects js store job wi (inputs.erase input ++ [input])) :=
    (free js js (Revisits.refl js) (Revisits.refl js) _ perm).1
  have passes : Exists fun map => getStepInputObjects js store job wi
      (inputs.erase input ++ [input]) = .ok map := by
    have same : SameResult (sourceLoop js store job wi ∅ inputs) (sourceLoop js store job wi ∅
      (inputs.erase input ++ [input])) := sourceLoop_perm perm distinct
    rw [started] at same
    unfold getStepInputObjects
    cases startedOthers : sourceLoop js store job wi ∅ (inputs.erase input ++ [input]) with
    | error err =>
        rw [startedOthers] at same
        exact absurd same id
    | ok last =>
        rw [startedOthers] at same
        have lookups : last.lookup = first.lookup := (funext same).symm
        dsimp only
        rcases @valueFromLoop_texts js (inputs.erase input) last texts
            (by rw [lookups]; exact encodes) with
          ⟨map, passed⟩
        have unchanged := valueFromLoop_settled (fun another inRest => by
          rw [lookups]
          exact settled another inRest) passed
        have appended (map : GoMap String CWLValue) (front : List StepInput)
            {middle : GoMap String CWLValue}
            (done : valueFromLoop js map front = .ok middle) :
            valueFromLoop js map (front ++ [input]) = valueFromLoop js middle [input] := by
          induction front generalizing map with
          | nil =>
              cases done
              rfl
          | cons another rest inductionHypothesis =>
              rw [valueFromLoop] at done
              rw [List.cons_append, valueFromLoop]
              by_cases silent : another.valueFrom = ""
              · rw [if_pos silent] at done ⊢
                exact inductionHypothesis map done
              · rw [if_neg silent] at done ⊢
                cases evaluatedToo : evaluate js map.lookup another with
                | error stop =>
                    rw [evaluatedToo] at done
                    cases done
                | ok found =>
                    rw [evaluatedToo] at done
                    exact inductionHypothesis _ done
        refine ⟨map.insert input.cmdID value, ?_⟩
        rw [appended last _ passed, valueFromLoop, if_neg inputSpeaks, funext unchanged,
            lookups, evaluated]
        rfl
  rcases fails with ⟨stop, stops⟩
  rcases passes with ⟨map, passed⟩
  have clash := front.symm.trans back
  rw [stops, passed] at clash
  exact clash

theorem OrderFree.of_revisits {other : Javascript} (revisits : Revisits js other)
    {inputs : List StepInput} (free : OrderFree js store job wi inputs) :
    OrderFree other store job wi inputs :=
  fun here there visitsHere visitsThere => free here there (revisits.trans visitsHere)
      (revisits.trans visitsThere)

/-! ## Where the order of the visits does not matter -/

/-- The text ends in the word exactly if the key that is visited last does. -/
theorem endsInOptional_eq (keys : List String) :
    endsInOptional keys = (keys.getLast?.map fun key => hasSuffix key "optional").getD false := by
  unfold endsInOptional
  rcases List.eq_nil_or_concat keys with rfl | ⟨front, last, rfl⟩
  · decide
  rw [List.concat_eq_append, List.foldl_append, List.getLast?_concat, Option.map_some,
      Option.getD_some, List.foldl_cons,
    List.foldl_nil]
  generalize front.foldl (fun text key => text ++ "," ++ key) "" = text
  rw [Bool.eq_iff_iff, hasSuffix_iff, hasSuffix_iff, String.toList_append, String.toList_append]
  constructor
  · intro ends
    rw [List.append_assoc] at ends
    rcases Nat.lt_or_ge last.toList.length "optional".toList.length with short | long
    · -- the comma in front of the key would be a letter of the word
      have comma : ",".toList ++ last.toList <:+ "optional".toList :=
        List.suffix_of_suffix_length_le (List.suffix_append _ _) ends (by
          rw [List.length_append]
          exact Nat.add_comm _ _ ▸ short)
      exact absurd (comma.subset (List.mem_append_left _ (List.mem_singleton.mpr rfl))) (by decide)
    · exact List.suffix_of_suffix_length_le ends
        ((List.suffix_append _ _).trans (List.suffix_append _ _)) long
  · exact fun ends => ends.trans (List.suffix_append _ _)

/-- The order of the visits decides about an input: its single source is an input
of the workflow that the instance does not have, there is no default, and some
but not all of the names that the instance has end in the word `optional`. -/
def Undetermined (wi : WorkflowInstance) (input : StepInput) : Prop :=
  input.default = none ∧
  (Exists fun source => input.source = some (.string source) ∧
    Exists fun inputName => classify wi.localID source = .ok (.workflowInput inputName) ∧
      (getMap (wi.inputs.getD [])).lookup inputName = none) ∧
  (Exists fun key => key ∈ (getMap (wi.inputs.getD [])).keys ∧ hasSuffix key "optional" = true) ∧
  Exists fun key => key ∈ (getMap (wi.inputs.getD [])).keys ∧ hasSuffix key "optional" = false

/-- Where the names do not differ, every order ends alike. -/
theorem endsInOptional_perm {first second : List String} (perm : first.Perm second)
    (alike : ¬((Exists fun key => key ∈ first ∧ hasSuffix key "optional" = true) ∧
      Exists fun key => key ∈ first ∧ hasSuffix key "optional" = false)) :
    endsInOptional first = endsInOptional second := by
  rw [endsInOptional_eq, endsInOptional_eq]
  cases last : first.getLast? with
  | none =>
      rw [List.getLast?_eq_none_iff.mp last] at perm
      rw [List.nil_perm.mp perm]
      rfl
  | some one =>
      have here := List.mem_of_getLast? last
      cases lastToo : second.getLast? with
      | none =>
          rw [List.getLast?_eq_none_iff.mp lastToo] at perm
          rw [List.perm_nil.mp perm] at here
          exact absurd here List.not_mem_nil
      | some other =>
          have there := perm.mem_iff.mpr (List.mem_of_getLast? lastToo)
          rw [Option.map_some, Option.map_some, Option.getD_some, Option.getD_some]
          cases endsHere : hasSuffix one "optional" with
          | true =>
              cases endsThere : hasSuffix other "optional" with
              | true => rfl
              | false => exact absurd ⟨⟨one, here, endsHere⟩, other, there, endsThere⟩ alike
          | false =>
              cases endsThere : hasSuffix other "optional" with
              | true => exact absurd ⟨⟨other, there, endsThere⟩, one, here, endsHere⟩ alike
              | false => rfl

theorem ownValue_revisits {other : Javascript} (revisits : Revisits js other) {input : StepInput}
    (determined : ¬Undetermined wi input) :
    ownValue other store job wi input = ownValue js store job wi input := by
  rcases revisits with ⟨visited, perm, rfl⟩
  unfold ownValue getStepInputObject
  cases sourced : input.source with
  | none => rfl
  | some source =>
      cases source with
      | strings sources => rfl
      | other => rfl
      | array sources => rfl
      | string text =>
          dsimp only
          have same : singleSource { js with visited := visited, visited_perm := perm } store job
              wi input text =
              singleSource js store job wi input text := by
            unfold singleSource fetchSource
            cases kind : classify wi.localID text with
            | error err => rfl
            | ok taken =>
                cases taken with
                | stepOutput stepName outputName =>
                    dsimp only
                    cases getCWLSourceFromStepOutput store job wi stepName outputName with
                    | error err => rfl
                    | ok fetched => rfl
                | workflowInput inputName =>
                    dsimp only
                    unfold getCWLSourceFromWorkflowInput
                    cases missing : (getMap (wi.inputs.getD [])).lookup inputName with
                    | some obj => rfl
                    | none =>
                        dsimp only
                        cases silent : input.default with
                        | some native => rfl
                        | none =>
                            dsimp only
                            rw [Bool.true_and, Bool.true_and, endsInOptional_perm
                              ((perm input.cmdID _).trans (js.visited_perm input.cmdID _).symm)
                                  fun mixed => ?_]
                            refine determined ⟨silent, ⟨text, sourced, inputName, kind, missing⟩,
                                ?_⟩
                            simpa only [(perm input.cmdID _).mem_iff] using mixed
          rw [same]
          rfl

/-- It makes no difference for inputs that are all determined. -/
theorem steady_of_determined {inputs : List StepInput}
    (distinct : (inputs.map StepInput.cmdID).Nodup)
    (determined : forall input, input ∈ inputs -> ¬Undetermined wi input) :
    Steady js store job wi inputs := by
  have same {here : Javascript} (revisits : Revisits js here) :
      sourceLoop here store job wi ∅ inputs = sourceLoop js store job wi ∅ inputs := by
    rw [sourceLoop_eq distinct fun _ _ => AList.lookup_empty _, sourceLoop_eq distinct fun _ _ =>
        AList.lookup_empty _]
    apply writeAll_congr
    intro input member
    unfold ownRound
    rw [ownValue_revisits revisits (determined input member)]
  intro here there visitsHere visitsThere
  unfold Fails
  rw [same visitsHere, same visitsThere, visitsHere.evaluate, visitsThere.evaluate]
  refine ⟨Iff.rfl, fun _ first last isFirst isLast input _ => ?_⟩
  rw [isFirst] at isLast
  cases isLast
  unfold Agree
  by_cases silent : input.valueFrom = ""
  · rw [if_pos silent]
  · rw [if_neg silent]

/-- An undetermined input has null in one order of the visits, where it may not
ask for an element of it, and is left out in the other. -/
theorem ownRound_undetermined {input : StepInput} (undetermined : Undetermined wi input) :
    ownRound js store job wi input =
      if endsInOptional (js.visited input.cmdID (getMap (wi.inputs.getD []))) = true then
        if input.sourceIndex = 0 then .ok (some .null)
        else .error ("(GetStepInputObjects) GetStepInputObject returned: " ++
            "(GetStepInputObject) Array expected")
      else .ok none := by
  rcases undetermined with ⟨silent, ⟨text, sourced, inputName, taken, missing⟩, _⟩
  have single : singleSource js store job wi input text =
      if endsInOptional (js.visited input.cmdID (getMap (wi.inputs.getD []))) = true then
        if input.sourceIndex = 0 then .ok (some .null) else
            .error "(GetStepInputObject) Array expected"
      else .ok none := by
    unfold singleSource fetchSource
    rw [taken]
    dsimp only
    unfold getCWLSourceFromWorkflowInput
    rw [missing]
    dsimp only
    rw [silent]
    dsimp only
    rw [Bool.true_and]
    by_cases ends : endsInOptional (js.visited input.cmdID (getMap (wi.inputs.getD []))) = true
    · rw [if_pos ends, if_pos ends]
    · rw [if_neg ends, if_neg ends]
  unfold ownRound ownValue getStepInputObject
  rw [sourced]
  dsimp only
  rw [single]
  by_cases ends : endsInOptional (js.visited input.cmdID (getMap (wi.inputs.getD []))) = true
  · rw [if_pos ends, if_pos ends]
    by_cases whole : input.sourceIndex = 0
    · rw [if_pos whole, if_pos whole]
      dsimp only
      rw [useDefault_eq]
      have written : defaultWrite js (some .null) input =
          if input.valueFrom = "" then .ok (some .null) else .ok none := by
        unfold defaultWrite
        rw [if_pos (Or.inr (by rfl)), silent]
      rw [AList.lookup_insert, written]
      let present : GoMap String CWLValue := (∅ : GoMap String CWLValue).insert input.cmdID .null
      by_cases noText : input.valueFrom = ""
      · rw [if_pos noText]
        change Except.ok (((present.insert input.cmdID .null).lookup input.cmdID)) = _
        rw [AList.lookup_insert]
      · rw [if_neg noText]
        change Except.ok (present.lookup input.cmdID) = _
        rw [AList.lookup_insert]
    · rw [if_neg whole, if_neg whole]
      rfl
  · rw [if_neg ends, if_neg ends]
    rfl

/-- Any name of the inputs may be the last one that is visited. -/
theorem exists_visits (js : Javascript) {map : GoMap String CWLValue} {key : String}
    (member : key ∈ map.keys) :
    Exists fun other => Revisits js other ∧
      forall name, endsInOptional (other.visited name map) = hasSuffix key "optional" := by
  have perm (_ : String) (map : GoMap String CWLValue) :
      (if key ∈ map.keys then map.keys.erase key ++ [key] else map.keys).Perm map.keys := by
    by_cases there : key ∈ map.keys
    · rw [if_pos there]
      exact (List.perm_append_singleton key _).trans (List.perm_cons_erase there).symm
    · rw [if_neg there]
  refine ⟨_, ⟨fun _ map => if key ∈ map.keys then map.keys.erase key ++ [key] else map.keys, perm,
      rfl⟩, fun _ => ?_⟩
  dsimp only
  rw [if_pos member, endsInOptional_eq, List.getLast?_concat]
  rfl

variable (js store job wi) in
/-- The order in which Go visits the inputs of the instance decides nothing.  It
is asked for an undetermined input only; and for such an input it goes unnoticed
if something fails in any case, or if nothing does: then the input is to have a
`valueFrom` in place of the null that it may or may not have, and no `valueFrom`
of the step tells that null from nothing. -/
def VisitsSettled (inputs : List StepInput) : Prop :=
  (forall input, input ∈ inputs -> ¬Undetermined wi input) ∨
  (forall other, Revisits js other -> Fails other store job wi inputs) ∨
  (forall input, input ∈ inputs -> Undetermined wi input -> input.sourceIndex = 0 ∧
      input.valueFrom ≠ "") ∧
    forall here there, Revisits js here -> Revisits js there ->
    forall first last, sourceLoop here store job wi ∅ inputs = .ok first ->
      sourceLoop there store job wi ∅ inputs = .ok last ->
      forall input, input ∈ inputs -> input.valueFrom ≠ "" -> Exists fun value =>
        evaluate js first.lookup input = .ok value ∧ evaluate js last.lookup input = .ok value

/-- With undetermined inputs that only an expression reads, the first round passes
in each order of the visits or in none, and finds the same for the others. -/
theorem sourceLoop_revisits {here there : Javascript} (visitsHere : Revisits js here)
    (visitsThere : Revisits js there) {inputs : List StepInput}
    (distinct : (inputs.map StepInput.cmdID).Nodup)
    (replaced : forall input, input ∈ inputs -> Undetermined wi input -> input.sourceIndex = 0 ∧
    input.valueFrom ≠ "") :
    ((Exists fun err => sourceLoop here store job wi ∅ inputs = .error err) ∧
      Exists fun err => sourceLoop there store job wi ∅ inputs = .error err) ∨
    Exists fun first => Exists fun last => sourceLoop here store job wi ∅ inputs = .ok first ∧
      sourceLoop there store job wi ∅ inputs = .ok last ∧
      forall input, input ∈ inputs -> input.valueFrom = "" ->
          first.lookup input.cmdID = last.lookup input.cmdID := by
  have determined (input : StepInput) (_ : input ∈ inputs) (certain : ¬Undetermined wi input) :
      ownRound there store job wi input = ownRound here store job wi input := by
    unfold ownRound
    rw [ownValue_revisits visitsHere certain, ownValue_revisits visitsThere certain]
  have passes (other : Javascript) (input : StepInput) (member : input ∈ inputs)
      (undecided : Undetermined wi input) :
      ¬Exists fun err => ownRound other store job wi input = .error err := by
    rintro ⟨err, fails⟩
    rw [ownRound_undetermined undecided, if_pos (replaced input member undecided).1] at fails
    by_cases ends : endsInOptional (other.visited input.cmdID (getMap (wi.inputs.getD []))) = true
    · rw [if_pos ends] at fails
      cases fails
    · rw [if_neg ends] at fails
      cases fails
  rw [sourceLoop_eq distinct fun _ _ => AList.lookup_empty _, sourceLoop_eq distinct fun _ _ =>
      AList.lookup_empty _]
  rcases @writeAll_cases StepInput String CWLValue String _ StepInput.cmdID
      (ownRound here store job wi) inputs
    distinct ∅ with ⟨stops, input, member, isError⟩ | ⟨first, passed, values, _⟩
  · rcases @writeAll_cases StepInput String CWLValue String _ StepInput.cmdID
      (ownRound there store job wi) inputs
      distinct ∅ with ⟨stopsToo, _⟩ | ⟨last, _, values, _⟩
    · exact Or.inl ⟨stops, stopsToo⟩
    · have certain : ¬Undetermined wi input :=
        fun undecided => passes here input member undecided isError
      rcases isError with ⟨err, isError⟩
      rcases values input member with ⟨value, isValue, _⟩
      rw [determined input member certain, isError] at isValue
      cases isValue
  · rcases @writeAll_cases StepInput String CWLValue String _ StepInput.cmdID
      (ownRound there store job wi) inputs
      distinct ∅ with ⟨_, input, member, isError⟩ | ⟨last, passedToo, valuesToo, _⟩
    · have certain : ¬Undetermined wi input :=
        fun undecided => passes there input member undecided isError
      rcases isError with ⟨err, isError⟩
      rcases values input member with ⟨value, isValue, _⟩
      rw [determined input member certain, isValue] at isError
      cases isError
    · refine Or.inr ⟨first, last, passed, passedToo, fun input member silent => ?_⟩
      have certain : ¬Undetermined wi input :=
          fun undecided => (replaced input member undecided).2 silent
      rcases values input member with ⟨value, isValue, written⟩
      rcases valuesToo input member with ⟨other, isOther, writtenToo⟩
      rw [determined input member certain, isValue] at isOther
      cases isOther
      rw [written, writtenToo, AList.lookup_empty]

/-- The first round writes null for an undetermined input, or nothing. -/
theorem sourceLoop_undetermined {inputs : List StepInput}
    (distinct : (inputs.map StepInput.cmdID).Nodup) {input : StepInput} (member : input ∈ inputs)
    (undetermined : Undetermined wi input) {first : GoMap String CWLValue}
    (started : sourceLoop js store job wi ∅ inputs = .ok first) :
    if endsInOptional (js.visited input.cmdID (getMap (wi.inputs.getD []))) = true then
      input.sourceIndex = 0 ∧ first.lookup input.cmdID = some .null
    else first.lookup input.cmdID = none := by
  rw [sourceLoop_eq distinct fun _ _ => AList.lookup_empty _] at started
  rcases @writeAll_cases StepInput String CWLValue String _ StepInput.cmdID
      (ownRound js store job wi) inputs
    distinct ∅ with ⟨⟨err, stops⟩, _⟩ | ⟨same, passed, values, _⟩
  · rw [started] at stops
    cases stops
  · rw [started] at passed
    cases passed
    rcases values input member with ⟨value, isValue, written⟩
    rw [ownRound_undetermined undetermined] at isValue
    by_cases ends : endsInOptional (js.visited input.cmdID (getMap (wi.inputs.getD []))) = true
    · rw [if_pos ends] at isValue ⊢
      by_cases whole : input.sourceIndex = 0
      · rw [if_pos whole] at isValue
        cases isValue
        exact ⟨whole, written⟩
      · rw [if_neg whole] at isValue
        cases isValue
    · rw [if_neg ends] at isValue ⊢
      cases isValue
      rw [written, AList.lookup_empty]
      rfl

theorem not_fails_iff {inputs : List StepInput} : ¬Fails js store job wi inputs ↔
    Exists fun first : GoMap String CWLValue => sourceLoop js store job wi ∅ inputs = .ok first ∧
      forall input : StepInput, input ∈ inputs -> input.valueFrom ≠ "" ->
        Exists fun value => evaluate js first.lookup input = .ok value := by
  unfold Fails
  cases started : sourceLoop js store job wi ∅ inputs with
  | error err => exact iff_of_false (fun passes => passes trivial) (by rintro ⟨_, ⟨⟩, _⟩)
  | ok first =>
      dsimp only
      constructor
      · intro passes
        refine ⟨first, rfl, fun input member speaks => ?_⟩
        cases evaluated : evaluate js first.lookup input with
        | error stop => exact absurd ⟨input, member, speaks, stop, evaluated⟩ passes
        | ok value => exact ⟨value, rfl⟩
      · rintro ⟨same, started, values⟩ ⟨input, member, speaks, stop, stops⟩
        cases started
        rcases values input member speaks with ⟨value, isValue⟩
        rw [isValue] at stops
        cases stops

theorem steady_iff_visitsSettled {inputs : List StepInput}
    (distinct : (inputs.map StepInput.cmdID).Nodup) :
    Steady js store job wi inputs ↔ VisitsSettled js store job wi inputs := by
  constructor
  · intro steady
    by_cases certain : forall input, input ∈ inputs -> ¬Undetermined wi input
    · exact Or.inl certain
    by_cases anyhow : forall other, Revisits js other -> Fails other store job wi inputs
    · exact Or.inr (Or.inl anyhow)
    have passes (other : Javascript) (revisits : Revisits js other) :
        ¬Fails other store job wi inputs := by
      intro fails
      refine anyhow fun third visitsThird => ?_
      exact (steady other third revisits visitsThird).1.mp fails
    refine Or.inr (Or.inr ⟨fun input member undetermined =>
        ?_, fun here there visitsHere visitsThere first last isFirst
      isLast input member speaks => ?_⟩)
    · -- one order gives the input null, another one leaves it out
      rcases undetermined.2.2 with ⟨⟨one, isOne, endsSo⟩, other, isOther, endsElse⟩
      rcases exists_visits js isOne with ⟨here, visitsHere, lastHere⟩
      rcases exists_visits js isOther with ⟨there, visitsThere, lastThere⟩
      rcases not_fails_iff.mp (passes here visitsHere) with ⟨first, started, _⟩
      rcases not_fails_iff.mp (passes there visitsThere) with ⟨last, startedToo, _⟩
      have isNull := sourceLoop_undetermined distinct member undetermined started
      have isOut := sourceLoop_undetermined distinct member undetermined startedToo
      rw [lastHere, if_pos endsSo] at isNull
      rw [lastThere, if_neg (by rw [endsElse]; decide)] at isOut
      refine ⟨isNull.1, fun silent => ?_⟩
      have agree := (steady here there visitsHere visitsThere).2 (passes here visitsHere) first last
          started startedToo
        input member
      rw [Agree, if_pos silent, isNull.2, isOut] at agree
      cases agree
    · have agree := (steady here there visitsHere visitsThere).2 (passes here visitsHere) first last
        isFirst isLast
        input member
      rw [Agree, if_neg speaks] at agree
      rcases not_fails_iff.mp (passes here visitsHere) with ⟨same, started, values⟩
      rw [isFirst] at started
      cases started
      rcases values input member speaks with ⟨value, isValue⟩
      rw [visitsHere.evaluate] at isValue
      rw [isValue] at agree
      refine ⟨value, isValue, ?_⟩
      cases evaluated : evaluate js last.lookup input with
      | error stop =>
          rw [evaluated] at agree
          cases agree
      | ok other =>
          rw [evaluated] at agree
          exact congrArg Except.ok (Option.some.inj agree).symm
  · rintro (certain | anyhow | ⟨replaced, values⟩)
    · exact steady_of_determined distinct certain
    · intro here there visitsHere visitsThere
      exact ⟨iff_of_true (anyhow here visitsHere) (anyhow there visitsThere),
        fun passes => absurd (anyhow here visitsHere) passes⟩
    · intro here there visitsHere visitsThere
      rcases sourceLoop_revisits visitsHere visitsThere distinct replaced with
        ⟨⟨err, stops⟩, other, stopsToo⟩ | ⟨first, last, started, startedToo, others⟩
      · unfold Fails
        rw [stops, stopsToo]
        exact ⟨Iff.rfl, fun passes => absurd trivial passes⟩
      · have same := values here there visitsHere visitsThere first last started startedToo
        have passes : ¬Fails here store job wi inputs := by
          refine not_fails_iff.mpr ⟨first, started, fun input member speaks => ?_⟩
          rcases same input member speaks with ⟨value, isValue, _⟩
          rw [visitsHere.evaluate]
          exact ⟨value, isValue⟩
        have passesToo : ¬Fails there store job wi inputs := by
          refine not_fails_iff.mpr ⟨last, startedToo, fun input member speaks => ?_⟩
          rcases same input member speaks with ⟨value, _, isValue⟩
          rw [visitsThere.evaluate]
          exact ⟨value, isValue⟩
        refine ⟨iff_of_false passes passesToo, fun _ one two isFirst isLast input member => ?_⟩
        rw [started] at isFirst
        rw [startedToo] at isLast
        cases isFirst
        cases isLast
        unfold Agree
        by_cases silent : input.valueFrom = ""
        · rw [if_pos silent]
          exact others input member silent
        · rw [if_neg silent]
          rcases same input member silent with ⟨value, isValue, isValueToo⟩
          rw [isValue, isValueToo]

/-- The order of the step inputs has no influence exactly if no evaluation can see the result of
another one, and the order in which Go visits the inputs of the instance decides nothing.  Every
round serialises the map that the rounds before it have written into, so that an expression sees
the results of earlier ones, and a result that JSON cannot express makes all later rounds fail. -/
theorem orderFree_iff_independent (js : Javascript) (store : Store) (job : Job)
    (wi : WorkflowInstance) (inputs : List StepInput)
    (distinct : (inputs.map StepInput.cmdID).Nodup) :
    OrderFree js store job wi inputs ↔
      (forall other, Revisits js other -> Independent other store job wi inputs) ∧
      VisitsSettled js store job wi inputs := by
  rw [<- steady_iff_visitsSettled distinct]
  constructor
  · intro free
    have independent (other : Javascript) (revisits : Revisits js other) :
        Independent other store job wi inputs := by
      have freeToo := free.of_revisits revisits
      intro first started input member another memberAnother different
      exact ⟨fun speaks => freeToo.writable distinct started member memberAnother different speaks,
        fun expression => freeToo.settled distinct started member memberAnother
            different expression⟩
    refine ⟨independent, fun here there visitsHere visitsThere => ?_⟩
    exact (Independent.sameVisits visitsHere visitsThere distinct (independent here visitsHere)
      (independent there visitsThere)).mp
          (free here there visitsHere visitsThere inputs (List.Perm.refl _)).1
  · rintro ⟨independent, steady⟩ here there visitsHere visitsThere others perm
    refine ⟨?_, ?_⟩
    · exact ((Independent.sameVisits visitsHere visitsThere distinct (independent here visitsHere)
        (independent there visitsThere)).mpr (steady here there visitsHere visitsThere)).trans
        ((independent there visitsThere).sameResult perm distinct)
    · rintro before input after rfl expression first map started passed
      have distinctOthers := (perm.map StepInput.cmdID).nodup_iff.mp distinct
      have pairs := ((independent there visitsThere).perm perm distinct).pairwise
          distinctOthers started
      rw [List.pairwise_append] at pairs
      exact valueFromLoop_settled
        (fun other member => (pairs.2.2 other member input List.mem_cons_self).2 expression) passed

/-- So the order has no influence if an expression is the only `valueFrom` of the step. -/
theorem independent_of_alone {inputs : List StepInput}
    (alone : forall input, input ∈ inputs -> forall other, other ∈ inputs ->
    input.cmdID ≠ other.cmdID ->
      other.valueFrom ≠ "" -> input.valueFrom = "") : Independent js store job wi inputs := by
  intro first _ input member other memberOther different
  have silent (speaks : other.valueFrom ≠ "") : ¬Expression input := by
    unfold Expression
    rw [alone input member other memberOther different speaks]
    decide
  refine ⟨fun speaks value evaluated => ?_, fun expression speaks => ?_⟩
  · rw [evaluate_text (silent speaks) (encodes_of_evaluate evaluated)] at evaluated
    cases evaluated
    exact js.marshal_text _
  · refine absurd (alone input member other memberOther different fun same => ?_) speaks
    unfold Expression at expression
    rw [same] at expression
    exact absurd expression (by decide)

end

/-- The VM and the JSON texts for a step with the inputs `x` and `y`, both of
them strings. -/
private def twoInputsVM : Javascript :=
  Javascript.plain
    (fun native =>
      match native with
      | .string text => .ok (.string text)
      | _ => .error "not a string")
    quoted
    (fun inputs =>
      "\x7b\"x\":" ++ quoted ((inputs "x").getD .null) ++ ",\"y\":" ++ quoted
          ((inputs "y").getD .null) ++ "\x7d")
    fun program =>
      -- The programs `return inputs.y` and `return inputs.x` for the maps of the example.
      if program ∈ [expressionProgram "\"1\"" "\x7b\"x\":\"1\",\"y\":\"2\"\x7d" "inputs.y",
          expressionProgram "\"2\"" "\x7b\"x\":\"2\",\"y\":\"2\"\x7d" "inputs.x"] then
              .ok (.ok "2", .string "2")
      else if program ∈ [expressionProgram "\"2\"" "\x7b\"x\":\"1\",\"y\":\"2\"\x7d" "inputs.x",
          expressionProgram "\"1\"" "\x7b\"x\":\"1\",\"y\":\"1\"\x7d" "inputs.y"] then
              .ok (.ok "1", .string "1")
      else .error "SyntaxError"
where
  quoted : CWLValue -> String
    | .string text => "\"" ++ text ++ "\""
    | _ => "null"

private def stepInputX (valueFrom : String) : StepInput :=
  ⟨"#main/step/x", none, 0, none, some (.string "1"), valueFrom⟩

private def stepInputY (valueFrom : String) : StepInput :=
  ⟨"#main/step/y", none, 0, none, some (.string "2"), valueFrom⟩

private def stepJob : Job :=
  ⟨"j", .inProgress, true, "#main", ⟨1, 0, "", false⟩, [], 0, ∅, ∅⟩

private def stepStore : Store := ⟨fun _ => Task.blank, 0, ∅⟩

/-- A single expression sees the inputs of the first round. -/
theorem orderFree_single :
    OrderFree twoInputsVM stepStore stepJob WorkflowInstance.blank
      [stepInputX "$(inputs.y)", stepInputY ""] := by
  refine (orderFree_iff_independent _ _ _ _ _ (by decide)).mpr ⟨fun _ _ => independent_of_alone ?_,
    Or.inl ?_⟩
  · intro input member other memberOther different speaks
    rcases List.mem_cons.mp member with rfl | last
    · rcases List.mem_cons.mp memberOther with rfl | lastToo
      · exact absurd rfl different
      · rw [List.mem_singleton.mp lastToo] at speaks
        exact absurd rfl speaks
    · rw [List.mem_singleton.mp last]
      rfl
  · rintro input member ⟨_, ⟨source, sourced, _⟩, _⟩
    rcases List.mem_cons.mp member with rfl | last
    · cases sourced
    · rw [List.mem_singleton.mp last] at sourced
      cases sourced

private def exchanged : List StepInput := [stepInputX "$(inputs.y)", stepInputY "$(inputs.x)"]

/-- Two inputs that are to change places: the second one reads what the first
one has written. -/
theorem exchanged_depends_on_order :
    ¬ forall (js : Javascript) (store : Store) (job : Job) (wi : WorkflowInstance)
        (inputs : List StepInput),
      (inputs.map StepInput.cmdID).Nodup -> OrderFree js store job wi inputs := by
  intro all
  have same := (all twoInputsVM stepStore stepJob WorkflowInstance.blank exchanged (by decide) _ _
    (Revisits.refl _) (Revisits.refl _) exchanged.reverse (List.reverse_perm _).symm).1
  have forward : (getStepInputObjects twoInputsVM stepStore stepJob WorkflowInstance.blank
      exchanged).map
      (fun map => map.lookup "x") = .ok (some (.string "2")) := by rfl
  have backward : (getStepInputObjects twoInputsVM stepStore stepJob WorkflowInstance.blank
      exchanged.reverse).map
      (fun map => map.lookup "x") = .ok (some (.string "1")) := by rfl
  cases first : getStepInputObjects twoInputsVM stepStore stepJob WorkflowInstance.blank exchanged
      with
  | error err =>
      rw [first] at forward
      cases forward
  | ok map =>
      cases second : getStepInputObjects twoInputsVM stepStore stepJob WorkflowInstance.blank
          exchanged.reverse with
      | error err =>
          rw [second] at backward
          cases backward
      | ok other =>
          rw [first] at forward same
          rw [second] at backward same
          have values : Except.ok (map.lookup "x") =
              (Except.ok (other.lookup "x") : Except Stop _) :=
            congrArg Except.ok (same "x")
          have clash := (forward.symm.trans values).trans backward
          injection clash with objects
          injection objects with strings
          injection strings with texts
          exact absurd texts (by decide)

end StepInputs

end Core
end Awe
