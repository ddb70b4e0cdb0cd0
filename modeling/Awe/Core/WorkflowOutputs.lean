import Awe.Core.Sources
import Awe.Core.StepCounterRuns

namespace Awe
namespace Core

open Lib Lib.Path InputLookup Sources

/-!
# The outputs of a workflow

When the last step of a workflow instance is done, `completeSubworkflow` looks
up the sources of the declared outputs, checks their types, and stores the
outputs before it closes the instance.  `Completion` has the function with the
assembly of the outputs as an argument; here that argument is embedded.

A single source is handled as one would expect.  In a list of sources the type
of the output is held against each part instead of the whole, and `linkMerge`
is never read.  The outputs are stored before `RemainSteps` is looked at.

The conversion of written types and the comparison of a value with a type are
arguments, and the texts inside the errors of a lookup are left out.
-/

/-- The type system of the package `cwl`: `GetSchemata`, `NewCWLType_Type` and
`TypeIsCorrect`. -/
structure Types where
  schemata : WorkflowContext -> Err
  convert : WorkflowContext -> String -> Except String (List CWLType)
  isCorrect : WorkflowContext -> List CWLType -> CWLValue -> Except String Bool

namespace Types

variable (types : Types) (context : WorkflowContext)

/-- The loop that converts the types of an output. -/
def expectedTypes : List String -> Except String (List CWLType)
  | [] => .ok []
  | rawType :: rest =>
      match types.convert context rawType with
      | .error err =>
          .error ("(completeSubworkflow) could not convert element of output.Type into cwl.CWLType_Type: " ++ err)
      | .ok correct =>
          match expectedTypes rest with
          | .error err => .error err
          | .ok others => .ok (correct ++ others)

/-- The types that can be converted, in their order. -/
def converted (rawTypes : List String) : List CWLType :=
  rawTypes.flatMap fun rawType =>
    match types.convert context rawType with
    | .ok correct => correct
    | .error _ => []

/-- The check of a value, with the message for a value of another type. -/
def mismatch (expected : List CWLType) (obj : CWLValue) (message : String) : Err :=
  match types.isCorrect context expected obj with
  | .error err => some ("(completeSubworkflow) TypeIsCorrect: " ++ err)
  | .ok false => some message
  | .ok true => none

end Types

/-- The value that a lookup brought. -/
def InputLookup.Fetched.obj : Fetched -> Option CWLValue
  | .value obj => some obj
  | _ => none

namespace WorkflowOutputs

section

variable (types : Types) (store : Store) (job : Job) (wi : WorkflowInstance)

/-- The named results after a lookup that came back without an error. -/
def lookedUp (source : String) (obj : Option CWLValue) : Looked :=
  match obj with
  | some _ => ⟨true, ""⟩
  | none => ⟨false, missingReason store wi source⟩

/-- The branch for one source. -/
def collectSingle (output : WorkflowOutputParameter) (expected : List CWLType) (source : String) :
    Except String (Option CWLValue × Looked) :=
  match getCWLSource store job wi source with
  | .error _ => .error "(completeSubworkflow) A) getCWLSource returns: "
  | .ok fetched =>
      match fetched.obj with
      | none =>
          if .null ∈ expected then .ok (none, lookedUp store wi source none)
          else
            .error ("(completeSubworkflow) A) source " ++ source ++
              " not found by getCWLSource (getCWLSource reason: " ++ missingReason store wi
                  source ++ ")")
      | some obj =>
          match types.mismatch job.context expected obj
              ("(completeSubworkflow) A) workflow_ouput " ++ output.id ++
              ", does not match expected types") with
          | some err => .error err
          | none => .ok (some obj, lookedUp store wi source (some obj))

/-- The loop over a list of sources.  Every part is checked by itself, and the
reasons of the lookups are dropped. -/
def collectParts (output : WorkflowOutputParameter) (expected : List CWLType) :
    Bool -> List String -> Except String (List CWLValue × Bool)
  | ok, [] => .ok ([], ok)
  | _, source :: rest =>
      match getCWLSource store job wi source with
      | .error _ => .error ("(completeSubworkflow) B) (" ++ wi.jobID ++ "_" ++ wi.localID ++
          ") getCWLSource returns: ")
      | .ok fetched =>
          match fetched.obj with
          | none =>
              if .null ∈ expected then collectParts output expected false rest
              else
                .error ("(completeSubworkflow) B) (" ++ wi.jobID ++ "_" ++ wi.localID ++
                    ") source " ++ source ++
                  " not found")
          | some obj =>
              match types.mismatch job.context expected obj
                  ("(completeSubworkflow) B) workflow_ouput " ++ output.id ++
                  ", does not match expected types") with
              | some err => .error err
              | none =>
                  match collectParts output expected true rest with
                  | .error err => .error err
                  | .ok (others, ok) => .ok (obj :: others, ok)

/-- One round of the loop over the outputs: the value of the output, `none` if
it is left out, and what the round leaves in the named results. -/
def collectOutput (looked : Looked) (output : WorkflowOutputParameter) :
    Except String (Option CWLValue × Looked) :=
  if output.hasOutputBinding then
      .error "(completeSubworkflow) Workflow output outputbinding not supported yet"
  else
    match types.schemata job.context with
    | some err => .error ("(completeSubworkflow) job.CWL_collection.GetSchemata returned: " ++ err)
    | none =>
        match types.expectedTypes job.context output.types with
        | .error err => .error err
        | .ok expected =>
            match output.outputSource with
            | .string source => collectSingle types store job wi output expected source
            | .array sources =>
                if sources = [] ∧ .null ∉ expected then
                  .error ("(completeSubworkflow) output_source array (" ++ output.id ++
                    ") is empty, but a required output")
                else
                  match collectParts types store job wi output expected looked.ok sources with
                  | .error err => .error err
                  | .ok ([], ok) =>
                      if .null ∈ expected then .ok (none, { looked with ok })
                      else
                        .error ("(completeSubworkflow) array with output_id " ++ output.id ++
                          " is empty, but a required output")
                  | .ok (values, ok) => .ok (some (.array values), { looked with ok })
            | .other =>
                .error "(completeSubworkflow) output.OutputSource has to be string or []string, but I got type "

/-- The loop over the outputs, with the map of the outputs so far. -/
def collectOutputs : GoMap String CWLValue -> Looked -> List WorkflowOutputParameter ->
    Except String (GoMap String CWLValue × Looked)
  | map, looked, [] => .ok (map, looked)
  | map, looked, output :: rest =>
      match collectOutput types store job wi looked output with
      | .error err => .error err
      | .ok (none, looked) => collectOutputs map looked rest
      | .ok (some value, looked) => collectOutputs (map.insert output.id value) looked rest

/-- `JobDocMap.GetArray`.  Go does not determine the order of the entries, so
that what is proved about a document does not depend on it. -/
def getArray (map : GoMap String CWLValue) : JobDocument :=
  map.entries.map fun entry => (entry.1, entry.2)

end

/-- The assembly of the outputs in `completeSubworkflow`. -/
def collect (types : Types) : Collect := fun store job wi =>
  match WorkflowContext.getWorkflow job.context wi.workflowDefinition with
  | .error err => .error err
  | .ok workflow =>
      match collectOutputs types store job wi ∅ wi.looked workflow.outputs with
      | .error err => .error err
      | .ok (map, looked) => .ok (getArray map, looked)

section

variable (types : Types) (store : Store) (job : Job) (wi : WorkflowInstance)

/-- The types that are written at an output, converted. -/
def declared (output : WorkflowOutputParameter) : List CWLType :=
  types.converted job.context output.types

/-- The value of a source, if it has one. -/
def valueOf (source : String) : Option CWLValue :=
  match getCWLSource store job wi source with
  | .ok fetched => fetched.obj
  | .error _ => none

/-- The values that the sources of a list have, in their order. -/
def valuesOf (sources : List String) : List CWLValue :=
  sources.filterMap (valueOf store job wi)

/-- The two ways to merge the values of a list of sources. -/
def Merged (linkMerge : String) (values : List CWLValue) (merged : CWLValue) : Prop :=
  if linkMerge = "merge_flattened" then
    Exists fun lists : List (List CWLValue) => values = lists.map CWLValue.array ∧
        merged = .array lists.flatten
  else merged = .array values

/-- The value an output should have: that of its source, or the merged values
of its sources, if it has the declared type as a whole. -/
def Assembles (output : WorkflowOutputParameter) (result : Option CWLValue) : Prop :=
  match output.outputSource with
  | .string source => result = valueOf store job wi source ∧
      match result with
      | none => .null ∈ declared types job output
      | some value => types.isCorrect job.context (declared types job output) value = .ok true
  | .array sources =>
      (.null ∈ declared types job output ∨ forall source, source ∈ sources ->
          valueOf store job wi source ≠ none) ∧
      match result with
      | none => valuesOf store job wi sources = [] ∧ .null ∈ declared types job output
      | some merged => valuesOf store job wi sources ≠ [] ∧
          Merged output.linkMerge (valuesOf store job wi sources) merged ∧
          types.isCorrect job.context (declared types job output) merged = .ok true
  | .other => False

/-- The document has exactly the outputs of the workflow. Nothing is said of the order of the
document, since outputs are looked up by name. -/
def Assembled (workflow : Workflow) (document : JobDocument) : Prop :=
  (forall output, output ∈ workflow.outputs ->
    Assembles types store job wi output (Store.documentGet document output.id)) ∧
  forall id, (Store.documentGet document id).isSome -> Exists fun output =>
      output ∈ workflow.outputs ∧ output.id = id

/-- The lookup of the source fails, or comes back with nothing for an output
that is required, or with a value of another type. -/
def Unusable (expected : List CWLType) (source : String) : Prop :=
  match getCWLSource store job wi source with
  | .error _ => True
  | .ok fetched =>
      match fetched.obj with
      | none => .null ∉ expected
      | some value => types.isCorrect job.context expected value ≠ .ok true

/-- The output cannot be collected: it has an output binding, its types cannot
be read, or one of its sources is unusable.  A required output needs a value. -/
def Refused (output : WorkflowOutputParameter) : Prop :=
  output.hasOutputBinding = true ∨ types.schemata job.context ≠ none ∨
  (Exists fun rawType => rawType ∈ output.types ∧ Exists fun err =>
      types.convert job.context rawType = .error err) ∨
  match output.outputSource with
  | .string source => Unusable types store job wi (declared types job output) source
  | .array sources =>
      (Exists fun source => source ∈ sources ∧
          Unusable types store job wi (declared types job output) source) ∨
        (valuesOf store job wi sources = [] ∧ .null ∉ declared types job output)
  | .other => True

/-- What the loop stores for an output: the values of a list are nested. -/
def nestedValue (output : WorkflowOutputParameter) : Option CWLValue :=
  match output.outputSource with
  | .string source => valueOf store job wi source
  | .array sources =>
      match valuesOf store job wi sources with
      | [] => none
      | values => some (.array values)
  | .other => none

/-- The outputs that have a value, nested, in the order of the workflow. -/
def nestedOutputs (outputs : List WorkflowOutputParameter) : JobDocument :=
  outputs.filterMap fun output => (nestedValue store job wi output).map fun value =>
      (output.id, value)

/-- A list of sources with a value is to be nested, and the array has the
declared type. -/
def Nests (output : WorkflowOutputParameter) : Prop :=
  forall sources, output.outputSource = .array sources -> valuesOf store job wi sources ≠ [] ->
    output.linkMerge ≠ "merge_flattened" ∧
      types.isCorrect job.context (declared types job output)
          (.array (valuesOf store job wi sources)) = .ok true

end

/-! ## One output -/

section

variable {types : Types} {store : Store} {job : Job} {wi : WorkflowInstance}
    {output : WorkflowOutputParameter}

/-- Nested and flattened arrays are never the same. -/
theorem flatten_ne {lists : List (List CWLValue)} (some_list : lists ≠ []) :
    lists.flatten ≠ lists.map CWLValue.array := by
  have sizes (front back : List CWLValue) :
      sizeOf (front ++ back) + 1 = sizeOf front + sizeOf back := by
    induction front with
    | nil => simp [Nat.add_comm]
    | cons value rest inductionHypothesis =>
        simp only [List.cons_append, List.cons.sizeOf_spec]
        omega
  have smaller (lists : List (List CWLValue)) (some_list : lists ≠ []) :
      sizeOf lists.flatten < sizeOf (lists.map CWLValue.array) := by
    induction lists with
    | nil => exact absurd rfl some_list
    | cons first rest inductionHypothesis =>
        have whole := sizes first rest.flatten
        have bound : sizeOf rest.flatten ≤ sizeOf (rest.map CWLValue.array) := by
          by_cases none : rest = []
          · rw [none]
            exact Nat.le_refl _
          · exact Nat.le_of_lt (inductionHypothesis none)
        simp only [List.flatten_cons, List.map_cons, List.cons.sizeOf_spec,
            CWLValue.array.sizeOf_spec]
        omega
  intro same
  have strict := smaller lists some_list
  rw [same] at strict
  exact Nat.lt_irrefl _ strict

theorem mismatch_eq_none_iff {context : WorkflowContext} {expected : List CWLType} {obj : CWLValue}
    {message : String} :
    types.mismatch context expected obj message = none ↔
    types.isCorrect context expected obj = .ok true := by
  unfold Types.mismatch
  cases types.isCorrect context expected obj with
  | error err => exact ⟨fun absent => (nomatch absent), fun absent => (nomatch absent)⟩
  | ok correct =>
      cases correct with
      | true => exact ⟨fun _ => rfl, fun _ => rfl⟩
      | false => exact ⟨fun absent => (nomatch absent), fun absent => (nomatch absent)⟩

/-- The loop over the written types fails exactly if one of them cannot be read. -/
theorem expectedTypes_cases {context : WorkflowContext} (rawTypes : List String) :
    ((Exists fun rawType => rawType ∈ rawTypes ∧ Exists fun err =>
        types.convert context rawType = .error err) ∧
      Exists fun err => types.expectedTypes context rawTypes = .error err) ∨
    ((¬Exists fun rawType => rawType ∈ rawTypes ∧ Exists fun err =>
        types.convert context rawType = .error err) ∧
      types.expectedTypes context rawTypes = .ok (types.converted context rawTypes)) := by
  induction rawTypes with
  | nil => exact Or.inr ⟨by simp, rfl⟩
  | cons rawType rest inductionHypothesis =>
      rw [Types.expectedTypes, Types.converted, List.flatMap_cons]
      cases here : types.convert context rawType with
      | error err => exact Or.inl ⟨⟨rawType, List.mem_cons_self, err, here⟩, _, rfl⟩
      | ok correct =>
          rcases inductionHypothesis with ⟨⟨other, member, unreadable⟩, err, fails⟩
              | ⟨readable, passes⟩
          · rw [fails]
            exact Or.inl ⟨⟨other, List.mem_cons_of_mem _ member, unreadable⟩, err, rfl⟩
          · rw [passes]
            refine Or.inr ⟨?_, rfl⟩
            rintro ⟨other, member, err, unreadable⟩
            rcases List.mem_cons.mp member with rfl | behind
            · rw [here] at unreadable
              cases unreadable
            · exact readable ⟨other, behind, err, unreadable⟩

theorem valueOf_eq {source : String} {fetched : Fetched}
    (fetches : getCWLSource store job wi source = .ok fetched) :
    valueOf store job wi source = fetched.obj := by
  rw [valueOf, fetches]

/-- What a usable source is: it has a value of one of the types, or none and
need not have one. -/
theorem usable_value {expected : List CWLType} {source : String}
    (usable : ¬Unusable types store job wi expected source) :
    match valueOf store job wi source with
    | none => .null ∈ expected
    | some value => types.isCorrect job.context expected value = .ok true := by
  unfold Unusable at usable
  cases fetches : getCWLSource store job wi source with
  | error err =>
      rw [fetches] at usable
      exact absurd trivial usable
  | ok fetched =>
      rw [fetches] at usable
      rw [valueOf_eq fetches]
      dsimp only at usable ⊢
      cases obj : fetched.obj with
      | none =>
          rw [obj] at usable
          exact not_not.mp usable
      | some value =>
          rw [obj] at usable
          exact not_not.mp usable

theorem collectSingle_cases {expected : List CWLType} {source : String} :
    (Unusable types store job wi expected source ∧
      Exists fun err => collectSingle types store job wi output expected source = .error err) ∨
    (¬Unusable types store job wi expected source ∧
      collectSingle types store job wi output expected source =
        .ok (valueOf store job wi source, lookedUp store wi source
            (valueOf store job wi source))) := by
  unfold Unusable collectSingle
  cases fetches : getCWLSource store job wi source with
  | error err => exact Or.inl ⟨trivial, _, rfl⟩
  | ok fetched =>
      rw [valueOf_eq fetches]
      dsimp only
      cases fetched.obj with
      | none =>
          dsimp only
          by_cases optional : .null ∈ expected
          · rw [if_pos optional]
            exact Or.inr ⟨not_not.mpr optional, rfl⟩
          · rw [if_neg optional]
            exact Or.inl ⟨optional, _, rfl⟩
      | some value =>
          dsimp only
          cases checked : types.mismatch job.context expected value
              ("(completeSubworkflow) A) workflow_ouput " ++
            output.id ++ ", does not match expected types") with
          | none => exact Or.inr ⟨not_not.mpr (mismatch_eq_none_iff.mp checked), rfl⟩
          | some err =>
              refine Or.inl ⟨fun correct => ?_, _, rfl⟩
              rw [mismatch_eq_none_iff.mpr correct] at checked
              cases checked

/-- What the last lookup of a list of sources leaves in `ok`. -/
def lastFound (store : Store) (job : Job) (wi : WorkflowInstance) (ok : Bool)
    (sources : List String) : Bool :=
  (sources.getLast?.map fun source => (valueOf store job wi source).isSome).getD ok

theorem lastFound_cons {ok : Bool} {source : String} {sources : List String} :
    lastFound store job wi ok (source :: sources) =
      lastFound store job wi (valueOf store job wi source).isSome sources := by
  unfold lastFound
  rw [List.getLast?_cons]
  cases sources.getLast? with
  | none => rfl
  | some last => rfl

theorem collectParts_cases {expected : List CWLType} (ok : Bool) (sources : List String) :
    ((Exists fun source => source ∈ sources ∧ Unusable types store job wi expected source) ∧
      Exists fun err => collectParts types store job wi output expected ok sources = .error err) ∨
    ((¬Exists fun source => source ∈ sources ∧ Unusable types store job wi expected source) ∧
      collectParts types store job wi output expected ok sources =
        .ok (valuesOf store job wi sources, lastFound store job wi ok sources)) := by
  induction sources generalizing ok with
  | nil => exact Or.inr ⟨by simp, rfl⟩
  | cons source rest inductionHypothesis =>
      have here {usable : Prop} (same : Unusable types store job wi expected source ↔ usable) :
          (Exists fun other => other ∈ source :: rest ∧
              Unusable types store job wi expected other) ↔
            usable ∨ Exists fun other => other ∈ rest ∧
                Unusable types store job wi expected other := by
        simp [same]
      rw [collectParts, lastFound_cons, valuesOf, List.filterMap_cons]
      cases fetches : getCWLSource store job wi source with
      | error err =>
          have refused : Unusable types store job wi expected source := by
            rw [Unusable, fetches]
            exact trivial
          exact Or.inl ⟨⟨source, List.mem_cons_self, refused⟩, _, rfl⟩
      | ok fetched =>
          have unusable : Unusable types store job wi expected source ↔
              match fetched.obj with
              | none => .null ∉ expected
              | some value => types.isCorrect job.context expected value ≠ .ok true := by
            rw [Unusable, fetches]
          rw [here unusable, valueOf_eq fetches]
          dsimp only
          cases fetched.obj with
          | none =>
              dsimp only
              by_cases optional : .null ∈ expected
              · rw [if_pos optional]
                rcases inductionHypothesis false with ⟨refused, fails⟩ | ⟨usable, passes⟩
                · exact Or.inl ⟨Or.inr refused, fails⟩
                · refine Or.inr ⟨?_, passes⟩
                  rintro (required | refused)
                  · exact required optional
                  · exact usable refused
              · rw [if_neg optional]
                exact Or.inl ⟨Or.inl optional, _, rfl⟩
          | some value =>
              dsimp only
              cases checked : types.mismatch job.context expected value
                  ("(completeSubworkflow) B) workflow_ouput " ++
                output.id ++ ", does not match expected types") with
              | some err =>
                  refine Or.inl ⟨Or.inl fun correct => ?_, _, rfl⟩
                  rw [mismatch_eq_none_iff.mpr correct] at checked
                  cases checked
              | none =>
                  rcases inductionHypothesis true with ⟨refused, err, fails⟩ | ⟨usable, passes⟩
                  · rw [fails]
                    exact Or.inl ⟨Or.inr refused, err, rfl⟩
                  · rw [passes]
                    refine Or.inr ⟨?_, rfl⟩
                    rintro (wrong | refused)
                    · exact wrong (mismatch_eq_none_iff.mp checked)
                    · exact usable refused

/-- What a round leaves in the named results. -/
def lookedAfter (store : Store) (job : Job) (wi : WorkflowInstance) (looked : Looked)
    (output : WorkflowOutputParameter) : Looked :=
  match output.outputSource with
  | .string source => lookedUp store wi source (valueOf store job wi source)
  | .array sources => { looked with ok := lastFound store job wi looked.ok sources }
  | .other => looked

/-- A round fails exactly if the output is refused. -/
theorem collectOutput_cases (looked : Looked) :
    (Refused types store job wi output ∧
      Exists fun err => collectOutput types store job wi looked output = .error err) ∨
    (¬Refused types store job wi output ∧
      collectOutput types store job wi looked output =
        .ok (nestedValue store job wi output, lookedAfter store job wi looked output)) := by
  unfold Refused collectOutput nestedValue lookedAfter
  by_cases bound : output.hasOutputBinding = true
  · rw [if_pos bound]
    exact Or.inl ⟨Or.inl bound, _, rfl⟩
  rw [if_neg bound]
  cases schemata : types.schemata job.context with
  | some err => exact Or.inl ⟨Or.inr (Or.inl (Option.some_ne_none err)), _, rfl⟩
  | none =>
      dsimp only
      rcases @expectedTypes_cases types job.context output.types with ⟨unreadable, err, fails⟩
          | ⟨readable, passes⟩
      · rw [fails]
        exact Or.inl ⟨Or.inr (Or.inr (Or.inl unreadable)), err, rfl⟩
      rw [show types.expectedTypes job.context output.types = .ok
          (declared types job output) from passes]
      -- only the sources are left to refuse the output
      have refused {last : Prop} : (output.hasOutputBinding = true ∨ (none : Err) ≠ none ∨
          (Exists fun rawType => rawType ∈ output.types ∧
            Exists fun err => types.convert job.context rawType = .error err) ∨ last) ↔ last := by
        rw [or_iff_right bound, or_iff_right (not_not.mpr rfl), or_iff_right readable]
      rw [refused]
      dsimp only
      cases output.outputSource with
      | other => exact Or.inl ⟨trivial, _, rfl⟩
      | string source => exact collectSingle_cases
      | array sources =>
          dsimp only
          by_cases empty : sources = [] ∧ .null ∉ declared types job output
          · rw [if_pos empty]
            refine Or.inl ⟨Or.inr ⟨?_, empty.2⟩, _, rfl⟩
            rw [empty.1]
            rfl
          rw [if_neg empty]
          rcases @collectParts_cases types store job wi output (declared types job output)
              looked.ok sources with
            ⟨unusable, err, fails⟩ | ⟨usable, passes⟩
          · rw [fails]
            exact Or.inl ⟨Or.inl unusable, err, rfl⟩
          rw [passes]
          cases values : valuesOf store job wi sources with
          | nil =>
              dsimp only
              by_cases optional : .null ∈ declared types job output
              · rw [if_pos optional]
                refine Or.inr ⟨?_, rfl⟩
                rintro (unusable | ⟨_, required⟩)
                · exact usable unusable
                · exact required optional
              · rw [if_neg optional]
                exact Or.inl ⟨Or.inr ⟨rfl, optional⟩, _, rfl⟩
          | cons first others =>
              refine Or.inr ⟨?_, rfl⟩
              rintro (unusable | ⟨absent, _⟩)
              · exact usable unusable
              · cases absent

/-- An output that is collected is the one that should be, exactly if it need
not be flattened and the array passes the check. -/
theorem nestedValue_assembles (accepted : ¬Refused types store job wi output) :
    Assembles types store job wi output (nestedValue store job wi output) ↔
    Nests types store job wi output := by
  unfold Refused at accepted
  unfold Assembles nestedValue Nests
  cases source : output.outputSource with
  | other =>
      rw [source] at accepted
      exact absurd (Or.inr (Or.inr (Or.inr trivial))) accepted
  | string single =>
      rw [source] at accepted
      have usable := usable_value fun unusable => accepted (Or.inr (Or.inr (Or.inr unusable)))
      refine iff_of_true ⟨rfl, usable⟩ ?_
      rintro sources ⟨⟩
  | array sources =>
      rw [source] at accepted
      have usable (single : String) (member : single ∈ sources) :=
        usable_value fun unusable =>
            accepted (Or.inr (Or.inr (Or.inr (Or.inl ⟨single, member, unusable⟩))))
      have known : .null ∈ declared types job output ∨
          forall single, single ∈ sources -> valueOf store job wi single ≠ none := by
        by_cases optional : .null ∈ declared types job output
        · exact Or.inl optional
        · refine Or.inr fun single member missing => optional ?_
          have this := usable single member
          rw [missing] at this
          exact this
      dsimp only
      cases values : valuesOf store job wi sources with
      | nil =>
          have optional : .null ∈ declared types job output := by
            by_contra required
            exact accepted (Or.inr (Or.inr (Or.inr (Or.inr ⟨values, required⟩))))
          refine iff_of_true ⟨known, rfl, optional⟩ ?_
          rintro other ⟨⟩ some_value
          exact absurd values some_value
      | cons first rest =>
          dsimp only
          constructor
          · rintro ⟨_, _, merged, correct⟩ other ⟨⟩ _
            rw [values]
            refine ⟨fun flattened => ?_, correct⟩
            unfold Merged at merged
            rw [if_pos flattened] at merged
            rcases merged with ⟨lists, areLists, flat⟩
            have nested : lists.flatten = lists.map CWLValue.array :=
              (CWLValue.array.inj flat).symm.trans areLists
            refine flatten_ne (fun none => ?_) nested
            rw [none] at areLists
            cases areLists
          · intro nests
            rcases nests sources rfl (by rw [values]; exact List.cons_ne_nil _ _) with
                ⟨notFlattened, correct⟩
            rw [values] at correct
            refine ⟨known, List.cons_ne_nil _ _, ?_, correct⟩
            rw [Merged, if_neg notFlattened]

/-! ## All outputs -/

/-- The document has the entries of the map. -/
theorem getArray_insert {map : GoMap String CWLValue} {id : String} (new : id ∉ map)
    (value : CWLValue) :
    getArray (map.insert id value) = (id, value) :: getArray map := by
  rw [getArray, AList.entries_insert_of_notMem new]
  rfl

/-- The loop fails exactly if an output is refused; otherwise the document has
the outputs with a value, in some order. -/
theorem collectOutputs_cases (outputs : List WorkflowOutputParameter) (map : GoMap String CWLValue)
    (looked : Looked) :
    ((Exists fun output => output ∈ outputs ∧ Refused types store job wi output) ∧
      Exists fun err => collectOutputs types store job wi map looked outputs = .error err) ∨
    ((forall output, output ∈ outputs -> ¬Refused types store job wi output) ∧
      Exists fun last => collectOutputs types store job wi map looked outputs =
          .ok (last, outputs.foldl (lookedAfter store job wi) looked) ∧
        ((outputs.map WorkflowOutputParameter.id).Nodup ->
            (forall output, output ∈ outputs -> output.id ∉ map) ->
          (getArray last).Perm (nestedOutputs store job wi outputs ++ getArray map))) := by
  induction outputs generalizing map looked with
  | nil =>
      refine Or.inr ⟨fun _ absent => absurd absent List.not_mem_nil, map, rfl, fun _ _ => ?_⟩
      exact List.Perm.refl _
  | cons output rest inductionHypothesis =>
      rw [collectOutputs]
      rcases @collectOutput_cases types store job wi output looked with ⟨refused, err, fails⟩
          | ⟨accepted, passes⟩
      · rw [fails]
        exact Or.inl ⟨⟨output, List.mem_cons_self, refused⟩, err, rfl⟩
      rw [passes]
      have both (later : forall other, other ∈ rest -> ¬Refused types store job wi other)
          (other : WorkflowOutputParameter) (member : other ∈ output :: rest) :
              ¬Refused types store job wi other := by
        rcases List.mem_cons.mp member with rfl | behind
        · exact accepted
        · exact later other behind
      have listed : nestedOutputs store job wi (output :: rest) =
          ((nestedValue store job wi output).map fun value => (output.id, value)).toList ++
            nestedOutputs store job wi rest := by
        rw [nestedOutputs, List.filterMap_cons]
        cases nestedValue store job wi output with
        | none => rfl
        | some value => rfl
      rw [listed]
      cases nestedValue store job wi output with
      | none =>
          rcases inductionHypothesis map (lookedAfter store job wi looked output) with
            ⟨⟨other, member, refused⟩, fails⟩ | ⟨later, last, ends, sorted⟩
          · exact Or.inl ⟨⟨other, List.mem_cons_of_mem _ member, refused⟩, fails⟩
          · refine Or.inr ⟨both later, last, ends, fun distinct new => ?_⟩
            exact sorted (List.nodup_cons.mp distinct).2 fun other member =>
                new other (List.mem_cons_of_mem _ member)
      | some value =>
          rcases inductionHypothesis (map.insert output.id value)
              (lookedAfter store job wi looked output) with
            ⟨⟨other, member, refused⟩, fails⟩ | ⟨later, last, ends, sorted⟩
          · exact Or.inl ⟨⟨other, List.mem_cons_of_mem _ member, refused⟩, fails⟩
          · refine Or.inr ⟨both later, last, ends, fun distinct new => ?_⟩
            have apart := List.nodup_cons.mp distinct
            have perm := sorted apart.2 fun other member inserted => by
              rcases (AList.mem_insert map).mp inserted with same | before
              · exact apart.1 (List.mem_map.mpr ⟨other, member, same⟩)
              · exact new other (List.mem_cons_of_mem _ member) before
            rw [getArray_insert (new output List.mem_cons_self)] at perm
            exact perm.trans List.perm_middle

/-- The document as a whole, and what is left in the named results. -/
theorem collect_cases {workflow : Workflow}
    (defined : WorkflowContext.getWorkflow job.context wi.workflowDefinition = .ok workflow) :
    ((Exists fun output => output ∈ workflow.outputs ∧ Refused types store job wi output) ∧
      Exists fun err => collect types store job wi = .error err) ∨
    ((forall output, output ∈ workflow.outputs -> ¬Refused types store job wi output) ∧
      Exists fun document => collect types store job wi =
          .ok (document, workflow.outputs.foldl (lookedAfter store job wi) wi.looked) ∧
        ((workflow.outputs.map WorkflowOutputParameter.id).Nodup ->
          document.Perm (nestedOutputs store job wi workflow.outputs))) := by
  rw [collect, defined]
  dsimp only
  rcases @collectOutputs_cases types store job wi workflow.outputs ∅ wi.looked with
    ⟨refused, err, fails⟩ | ⟨accepted, last, ends, sorted⟩
  · rw [fails]
    exact Or.inl ⟨refused, err, rfl⟩
  · rw [ends]
    refine Or.inr ⟨accepted, getArray last, rfl, fun distinct => ?_⟩
    have perm := sorted distinct fun output _ => AList.notMem_empty output.id
    rwa [show getArray ∅ = [] from rfl, List.append_nil] at perm

/-- In a document without repetitions `Get` finds exactly the entries. -/
theorem documentGet_eq_some_iff {document : JobDocument} (once : (document.map Prod.fst).Nodup)
    {id : String} {value : CWLValue} :
    Store.documentGet document id = some value ↔ (id, value) ∈ document := by
  unfold Store.documentGet
  induction document with
  | nil => simp
  | cons entry rest inductionHypothesis =>
      rcases entry with ⟨key, first⟩
      rw [List.map_cons, List.nodup_cons] at once
      rw [List.find?_cons, List.mem_cons, Prod.mk.injEq]
      by_cases same : key = id
      · subst same
        have absent : (key, value) ∉ rest :=
            fun member => once.1 (List.mem_map.mpr ⟨_, member, rfl⟩)
        simp only [decide_true, Option.map_some, Option.some.injEq, true_and, absent, or_false]
        exact eq_comm
      · simp only [same, decide_false, inductionHypothesis once.2, Ne.symm same,
          false_and, false_or]

theorem nestedOutputs_once {outputs : List WorkflowOutputParameter}
    (distinct : (outputs.map WorkflowOutputParameter.id).Nodup) :
    ((nestedOutputs store job wi outputs).map Prod.fst).Nodup := by
  refine List.Nodup.sublist ?_ distinct
  unfold nestedOutputs
  induction outputs with
  | nil => exact List.Sublist.slnil
  | cons output rest inductionHypothesis =>
      have later := inductionHypothesis (List.nodup_cons.mp distinct).2
      rw [List.filterMap_cons]
      cases nestedValue store job wi output with
      | none => exact later.cons _
      | some value => exact later.cons_cons _

/-- Each output is found in the document under its name. -/
theorem documentGet_nested {outputs : List WorkflowOutputParameter} {document : JobDocument}
    (distinct : (outputs.map WorkflowOutputParameter.id).Nodup)
    (same : document.Perm (nestedOutputs store job wi outputs)) :
    (forall output, output ∈ outputs ->
        Store.documentGet document output.id = nestedValue store job wi output) ∧
      forall id, (Store.documentGet document id).isSome -> Exists fun output => output ∈ outputs ∧
          output.id = id := by
  have once : (document.map Prod.fst).Nodup :=
      (same.map Prod.fst).nodup_iff.mpr (nestedOutputs_once distinct)
  have member_iff (id : String) (value : CWLValue) : Store.documentGet document id = some value ↔
      Exists fun output => output ∈ outputs ∧ nestedValue store job wi output = some value ∧
          output.id = id := by
    rw [documentGet_eq_some_iff once, same.mem_iff, nestedOutputs, List.mem_filterMap]
    simp only [Option.map_eq_some_iff, Prod.mk.injEq]
    constructor
    · rintro ⟨output, member, other, isValue, named, rfl⟩
      exact ⟨output, member, isValue, named⟩
    · rintro ⟨output, member, isValue, named⟩
      exact ⟨output, member, value, isValue, named, rfl⟩
  refine ⟨fun output member => Option.ext fun value => ?_, fun id present => ?_⟩
  · rw [member_iff]
    constructor
    · rintro ⟨other, isMember, isValue, named⟩
      rwa [<- List.inj_on_of_nodup_map distinct isMember member named]
    · exact fun isValue => ⟨output, member, isValue, rfl⟩
  · rcases Option.isSome_iff_exists.mp present with ⟨value, found⟩
    rcases (member_iff id value).mp found with ⟨output, member, _, named⟩
    exact ⟨output, member, named⟩

/-- The document that is stored is the one that should be exactly if every list of sources may be
nested. -/
theorem assembled_iff {workflow : Workflow} {document : JobDocument}
    (accepted : forall output, output ∈ workflow.outputs -> ¬Refused types store job wi output)
    (distinct : (workflow.outputs.map WorkflowOutputParameter.id).Nodup)
    (same : document.Perm (nestedOutputs store job wi workflow.outputs)) :
    Assembled types store job wi workflow document ↔
      forall output, output ∈ workflow.outputs -> Nests types store job wi output := by
  rcases documentGet_nested distinct same with ⟨values, others⟩
  unfold Assembled
  constructor
  · rintro ⟨assembles, _⟩ output member
    apply (nestedValue_assembles (accepted output member)).mp
    rw [<- values output member]
    exact assembles output member
  · intro nests
    refine ⟨fun output member => ?_, others⟩
    rw [values output member]
    exact (nestedValue_assembles (accepted output member)).mpr (nests output member)

end

/-! ## The call -/

section

variable {types : Types} {qm : ServerMgr} {jobid localID : String} {job : Job}
    {wi : WorkflowInstance}

/-- An instance that is loaded, not completed yet, and has no open step. The function has
something to do only for these; for others it returns at once. -/
structure Ready (qm : ServerMgr) (jobid localID : String) (job : Job) (wi : WorkflowInstance) :
    Prop where
  loaded : qm.store.jobs.lookup jobid = some job
  found : qm.store.instanceOf jobid localID = some wi
  opened : wi.state ≠ .completed
  free : qm.store.blocked jobid wi = none

/-- The server when the instance has its outputs and is completed. -/
def closed (qm : ServerMgr) (jobid localID : String) (outputs : JobDocument) : ServerMgr :=
  { qm with
    store := (qm.store.modifyInstance jobid localID fun wi => { wi with outputs }).setInstanceState
        jobid localID
      .completed }

/-- Outputs and state of the instance are what they were; the order of the
outputs is not determined in Go. -/
def SameInstance (qm final : ServerMgr) (jobid localID : String) : Prop :=
  Exists fun before => Exists fun after => qm.store.instanceOf jobid localID = some before ∧
    final.store.instanceOf jobid localID = some after ∧ after.outputs.Perm before.outputs ∧
        after.state = before.state

/-- The call reports an error and leaves the instance alone. A caller takes an error for a call
that has done nothing. -/
def LeftAlone (types : Types) (qm : ServerMgr) (jobid localID : String) : Prop :=
  Exists fun final => Exists fun closing =>
    ServerMgr.completeSubworkflow (collect types) (qm.depthOf jobid) qm jobid localID = .ok
        (final, closing) ∧
      closing.err ≠ none ∧ SameInstance qm final jobid localID

/-- The call gives the instance exactly the outputs of its workflow. What they should be is said
by the workflow and the values of its sources: those of each output in their order, merged as it
asks for. -/
def SetExactly (types : Types) (qm : ServerMgr) (jobid localID : String) (job : Job)
    (wi : WorkflowInstance) : Prop :=
  Exists fun final => Exists fun closing => Exists fun workflow => Exists fun after =>
    ServerMgr.completeSubworkflow (collect types) (qm.depthOf jobid) qm jobid localID = .ok
        (final, closing) ∧
      WorkflowContext.getWorkflow job.context wi.workflowDefinition = .ok workflow ∧
      final.store.instanceOf jobid localID = some after ∧
          Assembled types qm.store job wi workflow after.outputs

/-- Something stands in the way before anything is stored: the workflow is not found, or one of
its outputs is refused. Or the counter has steps left, which is noticed only when the outputs are
stored, and the outputs were there before. The reasons are those of the document and of the
lookups in the state before the call; none of them is an answer of the function itself. -/
def FailsEarly (types : Types) (store : Store) (job : Job) (wi : WorkflowInstance) : Prop :=
  match WorkflowContext.getWorkflow job.context wi.workflowDefinition with
  | .error _ => True
  | .ok workflow =>
      (Exists fun output => output ∈ workflow.outputs ∧ Refused types store job wi output) ∨
        (wi.remainSteps > 0 ∧ (nestedOutputs store job wi workflow.outputs).Perm wi.outputs)

/-- No list of sources is to be flattened, and every array has its declared type. -/
def AllNest (types : Types) (store : Store) (job : Job) (wi : WorkflowInstance) : Prop :=
  Exists fun workflow => WorkflowContext.getWorkflow job.context wi.workflowDefinition =
      .ok workflow ∧
    forall output, output ∈ workflow.outputs -> Nests types store job wi output

/-- Telling the parent, or the job, that an instance is done touches only the
counter of the parent. -/
theorem notifyParent_keeps {name : String} {looked : Looked} {done : WorkflowInstance}
    (found : qm.store.instanceOf jobid localID = some done) :
    Exists fun after => (qm.notifyParent jobid name looked).1.store.instanceOf jobid
        localID = some after ∧
      after.outputs = done.outputs ∧ after.state = done.state := by
  unfold ServerMgr.notifyParent
  cases loaded : qm.store.jobs.lookup jobid with
  | none => exact ⟨done, found, rfl, rfl⟩
  | some job =>
      dsimp only
      split
      · have finalized : Exists fun after =>
            (qm.finalizeJob jobid).1.store.instanceOf jobid localID = some after ∧
                after.outputs = done.outputs ∧
              after.state = done.state := by
          unfold ServerMgr.finalizeJob
          rw [loaded]
          dsimp only
          split
          · exact ⟨done, found, rfl, rfl⟩
          · refine ⟨done, ?_, rfl, rfl⟩
            exact (Store.instanceOf_modifyJob qm.store jobid
                (fun job => { job with state := .completed })
              (fun _ => rfl) jobid localID).trans found
        cases finalizes : qm.finalizeJob jobid with
        | mk last err =>
            rw [finalizes] at finalized
            cases err with
            | none => exact finalized
            | some err => exact finalized
      · split
        · exact ⟨done, found, rfl, rfl⟩
        · cases qm.store.instanceOf jobid (Store.parentID name) with
          | none => exact ⟨done, found, rfl, rfl⟩
          | some above =>
              dsimp only
              unfold Store.incrementRemainSteps
              rw [Store.instanceOf_modifyInstance]
              split
              · next same =>
                  rw [← same.2, found]
                  exact ⟨_, rfl, rfl, rfl⟩
              · exact ⟨done, found, rfl, rfl⟩

/-- A completed instance keeps its outputs, whatever is completed after it. -/
theorem completeSubworkflow_keeps (collect : Collect) (depth : Nat) :
    forall (qm : ServerMgr) (name : String) (last : ServerMgr) (closing : Closing)
        (done : WorkflowInstance),
      ServerMgr.completeSubworkflow collect depth qm jobid name = .ok (last, closing) ->
      qm.store.instanceOf jobid localID = some done -> done.state = .completed ->
      Exists fun after => last.store.instanceOf jobid localID = some after ∧
          after.outputs = done.outputs ∧
        after.state = .completed := by
  induction depth with
  | zero =>
      intro qm name last closing done returned
      cases returned
  | succ depth inductionHypothesis =>
      intro qm name last closing done returned found completed
      by_cases itself : name = localID
      · -- a completed instance is not touched by a call for itself
        have loaded : Exists fun job => qm.store.jobs.lookup jobid = some job := by
          unfold Store.instanceOf at found
          cases lookup : qm.store.jobs.lookup jobid with
          | none =>
              rw [lookup] at found
              cases found
          | some job => exact ⟨job, rfl⟩
        rcases loaded with ⟨job, loaded⟩
        rw [itself, ServerMgr.completeSubworkflow, loaded, found] at returned
        dsimp only at returned
        rw [if_pos completed] at returned
        cases returned
        exact ⟨done, found, rfl, completed⟩
      · have written (outputs : JobDocument) :
            (qm.store.modifyInstance jobid name fun wi => { wi with outputs }).instanceOf jobid
                localID = some done := by
          rw [Store.instanceOf_modifyInstance, if_neg fun both => itself both.2.symm]
          exact found
        rcases ServerMgr.completeSubworkflow_cases collect depth qm jobid name with
          ⟨answer, same⟩ | ⟨outputs, answer, same⟩
              | ⟨wi, outputs, closedState, looked, between, answer, round, goesOn⟩
        · rw [same] at returned
          cases returned
          exact ⟨done, found, rfl, completed⟩
        · rw [same] at returned
          cases returned
          exact ⟨done, written outputs, rfl, completed⟩
        · have kept : closedState.store.instanceOf jobid localID = some done := by
            rw [round.wrote]
            dsimp only
            unfold Store.setInstanceState
            rw [Store.instanceOf_modifyInstance, if_neg fun both => itself both.2.symm]
            exact written outputs
          obtain ⟨after, present, sameOutputs, sameState⟩ :=
              @notifyParent_keeps closedState jobid localID name looked done kept
          rcases goesOn with ⟨notified, same⟩ | ⟨parent, notified, stops, goes⟩
          · rw [same] at returned
            cases returned
            rw [notified] at present
            exact ⟨after, present, sameOutputs, sameState.trans completed⟩
          · rw [notified] at present
            cases called : ServerMgr.completeSubworkflow collect depth between jobid parent with
            | error halt =>
                rw [stops halt called] at returned
                cases returned
            | ok result =>
                rcases goes result.1 result.2 called with ⟨closing, same⟩
                rw [same] at returned
                cases returned
                obtain ⟨final, presentLater, outputsLater, stateLater⟩ :=
                  inductionHypothesis between parent _ _ after called present
                      (sameState.trans completed)
                exact ⟨final, presentLater, outputsLater.trans sameOutputs, stateLater⟩

/-- What the call does to an instance without open steps: it fails before it
stores anything, it stores the outputs and finds steps left in the counter, or
it stores the outputs and closes the instance. -/
theorem ready_cases (ready : Ready qm jobid localID job wi) :
    Exists fun final => Exists fun closing =>
      ServerMgr.completeSubworkflow (collect types) (qm.depthOf jobid) qm jobid localID = .ok
          (final, closing) ∧
        match WorkflowContext.getWorkflow job.context wi.workflowDefinition,
            collect types qm.store job wi with
        | .ok _, .ok (outputs, _) => Exists fun after =>
            final.store.instanceOf jobid localID = some after ∧
            after.outputs = outputs ∧
            if wi.remainSteps > 0 then closing.err ≠ none ∧ after.state = wi.state else
                after.state = .completed
        | _, _ => closing.err ≠ none ∧ final = qm := by
  rcases @StepCounter.completeSubworkflow_depthOf jobid (collect types) qm localID with
      ⟨⟨final, closing⟩, returned⟩
  refine ⟨final, closing, returned, ?_⟩
  have depth : qm.depthOf jobid = job.instances.entries.length + 1 := by
    rw [ServerMgr.depthOf, ready.loaded]
  rw [depth, ServerMgr.completeSubworkflow, ready.loaded, ready.found] at returned
  dsimp only at returned
  rw [if_neg ready.opened, ready.free] at returned
  dsimp only at returned
  cases defined : WorkflowContext.getWorkflow job.context wi.workflowDefinition with
  | error err =>
      rw [defined] at returned
      cases returned
      exact ⟨Option.some_ne_none _, rfl⟩
  | ok workflow =>
      rw [defined] at returned
      dsimp only at returned
      cases collected : collect types qm.store job wi with
      | error err =>
          rw [collected] at returned
          cases returned
          exact ⟨Option.some_ne_none _, rfl⟩
      | ok result =>
          rcases result with ⟨outputs, looked⟩
          rw [collected] at returned
          dsimp only at returned ⊢
          have stored : (qm.store.modifyInstance jobid localID fun wi =>
              { wi with outputs }).instanceOf jobid localID =
              some { wi with outputs } := by
            rw [Store.instanceOf_modifyInstance, if_pos ⟨rfl, rfl⟩, ready.found]
            rfl
          by_cases counted : wi.remainSteps > 0
          · rw [if_pos counted] at returned
            simp only [if_pos counted]
            cases returned
            exact ⟨_, stored, rfl, Option.some_ne_none _, rfl⟩
          · rw [if_neg counted] at returned
            simp only [if_neg counted]
            have own : (closed qm jobid localID outputs).store.instanceOf jobid localID =
                some { wi with outputs, state := .completed } := by
              unfold closed Store.setInstanceState
              rw [Store.instanceOf_modifyInstance, if_pos ⟨rfl, rfl⟩, stored]
              rfl
            rcases @notifyParent_keeps (closed qm jobid localID outputs) jobid localID localID
                looked _ own with
              ⟨after, present, sameOutputs, sameState⟩
            rcases notified : (closed qm jobid localID outputs).notifyParent jobid localID looked
                with
              ⟨between, answer, next⟩
            rw [notified] at present
            unfold closed at notified
            rw [notified] at returned
            cases next with
            | none =>
                cases returned
                exact ⟨after, present, sameOutputs, sameState⟩
            | some parent =>
                dsimp only at returned present
                cases called : ServerMgr.completeSubworkflow
                    (collect types) job.instances.entries.length between jobid
                    parent with
                | error halt =>
                    rw [called] at returned
                    cases returned
                | ok result =>
                    rcases result with ⟨last, ⟨parentOk, reason⟩, err⟩
                    rcases completeSubworkflow_keeps (collect types) _ between parent _ _ after
                        called present
                      sameState with ⟨done, presentLater, outputsLater, stateLater⟩
                    have same : final = last := by
                      rw [called] at returned
                      cases err with
                      | some err => cases returned; rfl
                      | none => cases parentOk <;> (cases returned; rfl)
                    rw [same]
                    exact ⟨done, presentLater, outputsLater.trans sameOutputs, stateLater⟩

/-- The call keeps its promise, to fail without a trace or to set the outputs
as they should be, exactly if something stands in the way early or no list has
to be flattened and all arrays pass.  The first half of the promise is kept
exactly in the first case, so that every other error, be it about the counter,
the job or the parent, comes when outputs or state have been written. -/
theorem completeSubworkflow_faithful_iff (ready : Ready qm jobid localID job wi)
    (distinct : forall workflow, WorkflowContext.getWorkflow job.context wi.workflowDefinition =
    .ok workflow ->
      (workflow.outputs.map WorkflowOutputParameter.id).Nodup) :
    (LeftAlone types qm jobid localID ∨ SetExactly types qm jobid localID job wi ↔
      FailsEarly types qm.store job wi ∨ AllNest types qm.store job wi) ∧
    (LeftAlone types qm jobid localID ↔ FailsEarly types qm.store job wi) := by
  rcases @ready_cases types qm jobid localID job wi ready with ⟨final, closing, returned, answer⟩
  have alone_iff : LeftAlone types qm jobid localID ↔ closing.err ≠ none ∧
      SameInstance qm final jobid localID := by
    constructor
    · rintro ⟨last, other, same, failed, stays⟩
      rw [returned] at same
      cases same
      exact ⟨failed, stays⟩
    · exact fun both => ⟨final, closing, returned, both⟩
  unfold FailsEarly AllNest
  cases defined : WorkflowContext.getWorkflow job.context wi.workflowDefinition with
  | error err =>
      rw [defined] at answer
      have alone : LeftAlone types qm jobid localID := by
        rw [alone_iff, answer.2]
        exact ⟨answer.1, wi, wi, ready.found, ready.found, List.Perm.refl _, rfl⟩
      exact ⟨iff_of_true (Or.inl alone) (Or.inl trivial), iff_of_true alone trivial⟩
  | ok workflow =>
      rw [defined] at answer
      dsimp only
      rcases @collect_cases types qm.store job wi workflow defined with
        ⟨refused, err, fails⟩ | ⟨accepted, document, collected, sorted⟩
      · rw [fails] at answer
        have alone : LeftAlone types qm jobid localID := by
          rw [alone_iff, answer.2]
          exact ⟨answer.1, wi, wi, ready.found, ready.found, List.Perm.refl _, rfl⟩
        exact ⟨iff_of_true (Or.inl alone) (Or.inl (Or.inl refused)),
            iff_of_true alone (Or.inl refused)⟩
      · rw [collected] at answer
        rcases answer with ⟨after, present, outputs, counter⟩
        have same := sorted (distinct workflow defined)
        have notRefused : ¬Exists fun output => output ∈ workflow.outputs ∧
            Refused types qm.store job wi output := by
          rintro ⟨output, member, refused⟩
          exact accepted output member refused
        have set_iff : SetExactly types qm jobid localID job wi ↔
            forall output, output ∈ workflow.outputs -> Nests types qm.store job wi output := by
          rw [<- assembled_iff accepted (distinct workflow defined) same, <- outputs]
          constructor
          · rintro ⟨last, other, isWorkflow, isAfter, sameCall, isDefined, isPresent, assembled⟩
            rw [returned] at sameCall
            cases sameCall
            rw [defined] at isDefined
            cases isDefined
            rw [present] at isPresent
            cases isPresent
            exact assembled
          · exact fun assembled =>
              ⟨final, closing, workflow, after, returned, defined, present, assembled⟩
        have nests_iff : (Exists fun other =>
            (Except.ok workflow : Except String Workflow) = .ok other ∧
              forall output, output ∈ other.outputs -> Nests types qm.store job wi output) ↔
            forall output, output ∈ workflow.outputs -> Nests types qm.store job wi output := by
          constructor
          · rintro ⟨other, ⟨⟩, nests⟩
            exact nests
          · exact fun nests => ⟨workflow, rfl, nests⟩
        have early_iff : LeftAlone types qm jobid localID ↔
            (Exists fun output => output ∈ workflow.outputs ∧
                Refused types qm.store job wi output) ∨
              (wi.remainSteps > 0 ∧ (nestedOutputs qm.store job wi workflow.outputs).Perm
                  wi.outputs) := by
          rw [alone_iff, or_iff_right notRefused]
          by_cases counted : wi.remainSteps > 0
          · rw [if_pos counted] at counter
            constructor
            · rintro ⟨_, before, later, isBefore, isLater, stays, _⟩
              rw [ready.found] at isBefore
              rw [present] at isLater
              cases isBefore
              cases isLater
              rw [outputs] at stays
              exact ⟨counted, same.symm.trans stays⟩
            · rintro ⟨_, stays⟩
              refine ⟨counter.1, wi, after, ready.found, present, ?_, counter.2⟩
              rw [outputs]
              exact same.trans stays
          · rw [if_neg counted] at counter
            constructor
            · rintro ⟨_, before, later, isBefore, isLater, _, sameState⟩
              rw [ready.found] at isBefore
              rw [present] at isLater
              cases isBefore
              cases isLater
              exact absurd (sameState.symm.trans counter) ready.opened
            · exact fun both => absurd both.1 counted
        exact ⟨by rw [nests_iff, set_iff, early_iff], early_iff⟩

end

/-! ## An output with two sources -/

/-- The type `Any`, which every value but null has. -/
private def anyType : Types where
  schemata _ := none
  convert _ rawType := .ok [.named rawType]
  isCorrect _ _
    | .null => .ok false
    | _ => .ok true

private def twoSources (linkMerge : String) : WorkflowOutputParameter :=
  ⟨"#main/out", false, ["Any"], .array ["x", "y"], linkMerge⟩

private def mergingWorkflow (linkMerge : String) : Workflow :=
  ⟨"#main", [], [], [twoSources linkMerge]⟩

/-- The main instance with two lists as inputs, and no steps. -/
private def mergingInstance : WorkflowInstance :=
  { WorkflowInstance.blank with
    localID := "#main"
    jobID := "j"
    state := .queued
    workflowDefinition := "#main"
    inputs := some [("x", .array [.string "a"]), ("y", .array [.string "b"])] }

private def mergingJob (linkMerge : String) : Job :=
  ⟨"j", .inProgress, true, "#main", ⟨1, 0, "", false⟩, [], 0,
    AList.insert "#main" (.workflow (mergingWorkflow linkMerge)) ∅,
        AList.insert "#main" mergingInstance ∅⟩

private def mergingServer (linkMerge : String) : ServerMgr :=
  ServerMgr.newServerMgr ⟨fun _ => Task.blank, 0, AList.insert "j" (mergingJob linkMerge) ∅⟩

private theorem mergingServer_ready (linkMerge : String) :
    Ready (mergingServer linkMerge) "j" "#main" (mergingJob linkMerge) mergingInstance :=
  ⟨rfl, rfl, by decide, rfl⟩

private theorem mergingServer_distinct (linkMerge : String) (workflow : Workflow)
    (defined : WorkflowContext.getWorkflow (mergingJob linkMerge).context
    mergingInstance.workflowDefinition =
      .ok workflow) : (workflow.outputs.map WorkflowOutputParameter.id).Nodup := by
  have known : WorkflowContext.getWorkflow (mergingJob linkMerge).context
      mergingInstance.workflowDefinition =
      .ok (mergingWorkflow linkMerge) := rfl
  rw [known] at defined
  cases defined
  exact List.nodup_singleton _

theorem completeSubworkflow_nests :
    (LeftAlone anyType (mergingServer "") "j" "#main" ∨
        SetExactly anyType (mergingServer "") "j" "#main" (mergingJob "") mergingInstance) ∧
      ¬LeftAlone anyType (mergingServer "") "j" "#main" := by
  rcases @completeSubworkflow_faithful_iff anyType _ _ _ _ _ (mergingServer_ready "")
      (mergingServer_distinct "") with
    ⟨promise, alone⟩
  have known : WorkflowContext.getWorkflow (mergingJob "").context
      mergingInstance.workflowDefinition =
      .ok (mergingWorkflow "") := rfl
  refine ⟨promise.mpr (Or.inr ⟨mergingWorkflow "", known, fun output member sources listed _ =>
      ?_⟩), fun left => ?_⟩
  · rw [List.mem_singleton.mp member] at listed ⊢
    cases listed
    exact ⟨(show "" ≠ "merge_flattened" by decide), rfl⟩
  · have early := alone.mp left
    unfold FailsEarly at early
    rw [known] at early
    rcases early with ⟨output, member, refused⟩ | ⟨counted, _⟩
    · rw [List.mem_singleton.mp member] at refused
      rcases refused with bound | schemata | ⟨rawType, _, err, unreadable⟩
          | ⟨source, listed, unusable⟩ | ⟨absent, _⟩
      · cases bound
      · exact schemata rfl
      · cases unreadable
      · rcases List.mem_cons.mp listed with rfl | behind
        · exact unusable rfl
        · rw [List.mem_singleton.mp behind] at unusable
          exact unusable rfl
      · cases absent
    · exact absurd counted (by decide)

/-- The same output with `merge_flattened`: the lists are nested all the same. -/
theorem completeSubworkflow_ignores_linkMerge :
    Ready (mergingServer "merge_flattened") "j" "#main" (mergingJob "merge_flattened")
        mergingInstance ∧
      ¬LeftAlone anyType (mergingServer "merge_flattened") "j" "#main" ∧
      ¬SetExactly anyType (mergingServer "merge_flattened") "j" "#main"
          (mergingJob "merge_flattened")
        mergingInstance := by
  refine ⟨mergingServer_ready _, ?_, ?_⟩
  · rintro ⟨final, closing, returned, fails, _⟩
    have silent : ((ServerMgr.completeSubworkflow (collect anyType)
        ((mergingServer "merge_flattened").depthOf "j")
        (mergingServer "merge_flattened") "j" "#main").toOption.map fun result => result.2.err) =
        some none := by
      decide
    rw [returned] at silent
    exact fails (Option.some_injective _ silent)
  · rintro ⟨final, closing, workflow, after, returned, defined, present, assembled, _⟩
    have nested : ((ServerMgr.completeSubworkflow (collect anyType)
        ((mergingServer "merge_flattened").depthOf "j")
        (mergingServer "merge_flattened") "j" "#main").toOption.bind fun result =>
          (result.1.store.instanceOf "j" "#main").map WorkflowInstance.outputs) =
        some [("#main/out", .array [.array [.string "a"], .array [.string "b"]])] := by
      rfl
    rw [returned] at nested
    change (final.store.instanceOf "j" "#main").map WorkflowInstance.outputs = _ at nested
    rw [present] at nested
    have known : WorkflowContext.getWorkflow (mergingJob "merge_flattened").context
        mergingInstance.workflowDefinition = .ok (mergingWorkflow "merge_flattened") := rfl
    rw [known] at defined
    cases defined
    have own := assembled (twoSources "merge_flattened") (List.mem_singleton.mpr rfl)
    rw [Option.some_injective _ nested] at own
    rcases own with ⟨_, someValue, merged, _⟩
    unfold Merged at merged
    rw [if_pos (show (twoSources "merge_flattened").linkMerge = "merge_flattened" from rfl)]
        at merged
    rcases merged with ⟨lists, areLists, flat⟩
    have whole : valuesOf (mergingServer "merge_flattened").store (mergingJob "merge_flattened")
        mergingInstance
        ["x", "y"] = [.array [.string "a"], .array [.string "b"]] := by
      rfl
    refine flatten_ne (fun none => someValue ?_)
        ((CWLValue.array.inj flat).symm.trans (whole.symm.trans areLists))
    rw [areLists, none]
    rfl

end WorkflowOutputs

end Core
end Awe
