import Awe.Cwl.TypePositions
import Awe.Cwl.Processes

namespace Awe
namespace Cwl
namespace MapForms

open Lib Lib.Path Natives Cwl.Types Requirements WorkflowStepInputs Processes TypePositions

/-!
# Maps and lists of steps and of their inputs

The steps of a workflow and the inputs of a step are written as a list, in which
each has its name as `id`, or as a map from the names.  In the map an input may
also be its source alone.  All forms should give the same steps and inputs, in
some order, and sources of the kinds that the server can read.

A step that repeats its relative name as `id` is refused in a map, and an input
that is its source alone gets a source of a Go type that no reader has a case
for.  Everything else in a step is read in the same way, so only the identifiers
and the order in which the context is changed can tell the forms apart.

The two forms are read in two runs of the program, and a run leaves some things
to chance: the order in which the entries of a map come, and the UUIDs that are
drawn.  A type `Run` stands for all of this, so that nothing is taken for equal
in both forms that is not.
-/

/-- A source that the consumers can read. -/
def Readable : SourceValue -> Prop
  | .nil => True
  | .string _ => True
  | .interfaces elements => forall element, element ∈ elements -> isText element = true
  | _ => False

/-- A map with keys that are texts, from JSON or from YAML. -/
def asMap (stringKeys : Bool) (fields : Fields) : Tree :=
  if stringKeys then .strMap fields else .anyMap (fields.map fun field => (.text field.1, field.2))

/-- What `MakeStringMap` looks at in a map. -/
def mapCheck (context : Context) (stringKeys : Bool) (fields : Fields) : Except Failure Unit :=
  if stringKeys then checkImport context (fields.lookup "$import") else .ok ()

theorem stringKeys_texts (fields : Fields) :
    stringKeys (fields.map fun field => (Tree.text field.1, field.2)) = .ok fields := by
  induction fields with
  | nil => rfl
  | cons field rest inductionHypothesis =>
      rw [List.map_cons, stringKeys, inductionHypothesis]
      rfl

theorem makeStringMap_asMap (context : Context) (stringKeys : Bool) (fields : Fields) :
    makeStringMap context (asMap stringKeys fields) = (mapCheck context stringKeys fields).map
        fun _ => .strMap fields := by
  cases stringKeys with
  | true => rfl
  | false =>
      change (stringKeys (fields.map fun field => (Tree.text field.1, field.2))).map Tree.strMap = _
      rw [stringKeys_texts]
      rfl

/-- Names of steps and inputs are not the directive for an import. -/
theorem makeStringMap_names (context : Context) (stringKeys : Bool) {fields : Fields}
    (names : fields.lookup "$import" = none) :
    makeStringMap context (asMap stringKeys fields) = .ok (.strMap fields) := by
  rw [makeStringMap_asMap, mapCheck, names]
  cases stringKeys <;> rfl

theorem lookup_none_of_not_mem {fields : Fields} {key : String}
    (missing : key ∉ fields.map Prod.fst) :
    fields.lookup key = none := by
  rw [List.lookup_eq_none_iff]
  intro field member
  exact bne_iff_ne.mpr fun same => missing (List.mem_map.mpr ⟨field, member, same.symm⟩)

/-- Two attempts agree: both fail, or both give the same up to order. -/
def Agree {A : Type} : Option (List A) -> Option (List A) -> Prop
  | some first, some second => first.Perm second
  | none, none => True
  | _, _ => False

theorem agree_symm {A : Type} {first second : Option (List A)} (agree : Agree first second) :
    Agree second first := by
  cases first with
  | none => cases second with
    | none => trivial
    | some list => exact agree
  | some list => cases second with
    | none => exact agree
    | some other => exact List.Perm.symm agree

/-- What agrees with a failure fails. -/
theorem agree_none {A : Type} {second : Option (List A)} (agree : Agree none second) :
    second = none := by
  cases second with
  | none => rfl
  | some list => exact agree.elim

/-- The body of an input that is a map.  Its keys are spelt as the fields of an
input, it has no `id`, and its source is a text or a list of texts, if there is
one. -/
structure InputBody where
  fields : Fields
  spelt : Spelt fields
  noID : fields.lookup "id" = none
  sources : match fields.lookup "source" with
    | none => True
    | some .null => True
    | some (.text _) => True
    | some (.list elements) => forall element, element ∈ elements -> isText element = true
    | _ => False

/-- The map can be opened, and the fields other than the default can be decoded. -/
def InputBody.Passes (body : InputBody) (stringKeys : Bool) : Prop :=
  (stringKeys = true -> body.fields.lookup "$import" = none) ∧ WellTyped body.fields

/-- An input in a map. A list knows only the last of these, with the name as its `id`. -/
inductive InputForm where
  | text (source : String)
  | texts (sources : List String)
  | map (body : InputBody)

/-- The map that the input is in a list, without its name. -/
def InputForm.fields : InputForm -> Fields
  | .text source => [("source", .text source)]
  | .texts sources => [("source", .list (sources.map .text))]
  | .map body => body.fields

/-- An input with its name, which is not the directive for an import, and the kind of its map.
YAML gives the inner maps keys of any kind, while JSON gives them strings. -/
structure NamedInput where
  name : String
  named : name ≠ "$import"
  form : InputForm
  stringKeys : Bool

/-- What stands under the name in a map. -/
def NamedInput.mapTree (input : NamedInput) : Tree :=
  match input.form with
  | .text source => .text source
  | .texts sources => .list (sources.map .text)
  | .map body => asMap input.stringKeys body.fields

/-- The element of a list. -/
def NamedInput.listTree (input : NamedInput) : Tree :=
  asMap input.stringKeys (("id", .text input.name) :: input.form.fields)

def mapOfInputs (stringKeys : Bool) (inputs : List NamedInput) : Tree :=
  asMap stringKeys (inputs.map fun input => (input.name, input.mapTree))

def listOfInputs (inputs : List NamedInput) : Tree :=
  .list (inputs.map NamedInput.listTree)

section

variable {Run : Type} (library : Run -> Library) (context : Context) (stringKeys : Bool)
    (inputs : List NamedInput)

/-- The inputs that a run makes of a tree. -/
def madeInputs (run : Run) (tree : Tree) : Option (List WorkflowStepInput) :=
  (createWorkflowStepInputArray (library run) context tree).toOption

/-- The map in one run, in whatever order its entries come, and the list in another
give the same inputs. -/
def SameInputs : Prop :=
  forall (first second : Run) (order : List NamedInput), order.Perm inputs ->
    Agree (madeInputs library context first (mapOfInputs stringKeys order))
      (madeInputs library context second (listOfInputs inputs))

/-- The sources that both forms produce can be read. -/
def ReadableSources : Prop :=
  (forall (run : Run) (order : List NamedInput), order.Perm inputs ->
    forall made, madeInputs library context run (mapOfInputs stringKeys order) = some made ->
      forall input, input ∈ made -> Readable input.source) ∧
  (forall run made, madeInputs library context run (listOfInputs inputs) = some made ->
    forall input, input ∈ made -> Readable input.source)

def NamedInput.IsBody (input : NamedInput) : Prop :=
  Exists fun body => input.form = .map body

/-- The input is a map that cannot be opened or decoded, or whose default is
refused. -/
def NamedInput.Refused (library : Library) (input : NamedInput) : Prop :=
  Exists fun body => input.form = .map body ∧
    (¬ body.Passes input.stringKeys ∨ Exists fun tree => body.fields.lookup "default" = some tree ∧
      Exists fun failure => newCWLType library context tree "" = .error failure)

/-- Every run takes the default for the same value, or refuses it. Two runs of a program may read
one default differently, because a map is visited in another order. -/
def NamedInput.Settled (input : NamedInput) : Prop :=
  forall body, input.form = .map body -> forall tree, body.fields.lookup "default" = some tree ->
    forall first second : Run,
      (newCWLType (library first) context tree "").toOption =
          (newCWLType (library second) context tree "").toOption

/-- Every input is a map in the map, with a default that does not depend on the
run, or some input is refused in every run. -/
def InputsMeet : Prop :=
  (forall input, input ∈ inputs -> input.IsBody ∧ input.Settled library context) ∨
    forall run, Exists fun input => input ∈ inputs ∧ input.Refused context (library run)

end

/-! ### One input -/

section

variable {library : Library} {context : Context}

/-- The name in front of a well-spelt body does no harm. -/
theorem spelt_cons_id {fields : Fields} (spelt : Spelt fields) (tree : Tree) :
    Spelt (("id", tree) :: fields) := by
  intro field member key inside fits
  rcases List.mem_cons.mp inside with rfl | later
  · unfold stepInputStruct at member
    simp only [List.mem_cons, List.not_mem_nil, or_false] at member
    rcases member with rfl | rfl | rfl | rfl | rfl | rfl | rfl
    · rfl
    all_goals
      dsimp only at fits
      exact absurd fits (by decide)
  · exact spelt field member key later fits

theorem lookup_cons_id {name : String} (other : name ≠ "id") (tree : Tree) (fields : Fields) :
    (("id", tree) :: fields).lookup name = fields.lookup name := by
  rw [List.lookup_cons, beq_eq_false_iff_ne.mpr other]

theorem wellTyped_cons_id {fields : Fields} (noID : fields.lookup "id" = none) (name : String) :
    WellTyped (("id", .text name) :: fields) ↔ WellTyped fields := by
  unfold WellTyped
  rw [lookup_cons_id (by decide)]
  refine and_congr_left fun _ => forall_congr' fun field => imp_congr_right fun member => ?_
  by_cases own : field.1 = "id"
  · have kind : field.2 = .string := by
      unfold stepInputStruct at member
      simp only [List.mem_cons, List.not_mem_nil, or_false] at member
      rcases member with rfl | rfl | rfl | rfl | rfl | rfl | rfl <;>
          first | rfl | exact absurd own (by decide)
    rw [own, kind, noID]
    refine iff_of_true ?_ fun _ impossible => nomatch impossible
    intro tree found
    cases found
    rfl
  · rw [lookup_cons_id own]

theorem readDefault_cons_id (tree : Tree) (fields : Fields) :
    readDefault library context (("id", tree) :: fields) = readDefault library context fields := by
  unfold readDefault
  rw [lookup_cons_id (by decide)]

theorem plainStepInput_cons_id (default : Option Value) (name : String) (fields : Fields) :
    plainStepInput default (("id", .text name) :: fields) = { plainStepInput default fields with
        id := name } := by
  unfold plainStepInput
  simp only [lookup_cons_id (show "linkMerge" ≠ "id" by decide),
      lookup_cons_id (show "source" ≠ "id" by decide),
    lookup_cons_id (show "source_index" ≠ "id" by decide),
        lookup_cons_id (show "valueFrom" ≠ "id" by decide)]
  rfl

theorem newWorkflowStepInput_asMap (stringKeys : Bool) (fields : Fields) :
    newWorkflowStepInput library context (asMap stringKeys fields) =
      (mapCheck context stringKeys fields >>= fun _ =>
          stepInputOfFields library context fields) := by
  unfold newWorkflowStepInput
  rw [makeStringMap_asMap]
  cases mapCheck context stringKeys fields <;> rfl

theorem mapCheck_cons_id (stringKeys : Bool) (tree : Tree) (fields : Fields) :
    mapCheck context stringKeys (("id", tree) :: fields) = mapCheck context stringKeys fields := by
  unfold mapCheck
  rw [lookup_cons_id (by decide)]

theorem mapCheck_eq_ok {stringKeys : Bool} {fields : Fields} :
    mapCheck context stringKeys fields = .ok () ↔
    (stringKeys = true -> fields.lookup "$import" = none) := by
  unfold mapCheck
  cases stringKeys with
  | true => exact checkImport_eq_ok.trans ⟨fun none _ => none, fun none => none rfl⟩
  | false => exact iff_of_true rfl fun impossible => nomatch impossible

/-- An input of a map with its name. -/
def inMap (library : Library) (context : Context) (input : NamedInput) : Option WorkflowStepInput :=
  ((newWorkflowStepInput library context input.mapTree).map (withName input.name)).toOption

/-- An element of a list. -/
def inList (library : Library) (context : Context) (input : NamedInput) :
    Option WorkflowStepInput :=
  (newWorkflowStepInput library context input.listTree).toOption

/-- The input that a body becomes under its name, in a map as well as in a list. -/
theorem made_of_body {input : NamedInput} {body : InputBody} (form : input.form = .map body) :
    (body.Passes input.stringKeys ->
      inMap library context input = ((readDefault library context body.fields).map fun default =>
        { plainStepInput default body.fields with id := input.name }) ∧
      inList library context input = (readDefault library context body.fields).map fun default =>
        { plainStepInput default body.fields with id := input.name }) ∧
    (¬ body.Passes input.stringKeys ->
      inMap library context input = none ∧ inList library context input = none) := by
  rcases input with ⟨name, named, _, stringKeys⟩
  cases form
  have mapped : newWorkflowStepInput library context
      (NamedInput.mapTree ⟨name, named, .map body, stringKeys⟩) =
      (mapCheck context stringKeys body.fields >>= fun _ =>
      stepInputOfFields library context body.fields) :=
    newWorkflowStepInput_asMap stringKeys body.fields
  have listed : newWorkflowStepInput library context
      (NamedInput.listTree ⟨name, named, .map body, stringKeys⟩) =
      (mapCheck context stringKeys body.fields >>= fun _ =>
        stepInputOfFields library context (("id", .text name) :: body.fields)) := by
    rw [NamedInput.listTree, newWorkflowStepInput_asMap, mapCheck_cons_id]
    rfl
  have plain := @stepInputOfFields_spelt library context body.fields body.spelt
  have behind := @stepInputOfFields_spelt library context _ (spelt_cons_id body.spelt (.text name))
  rw [wellTyped_cons_id body.noID, readDefault_cons_id] at behind
  simp only [plainStepInput_cons_id] at behind
  have noName (default : Option Value) : (plainStepInput default body.fields).id = "" := by
    unfold plainStepInput
    rw [body.noID]
    rfl
  unfold inMap inList InputBody.Passes
  rw [mapped, listed]
  cases opened : mapCheck context stringKeys body.fields with
  | error failure =>
      refine ⟨fun passes => ?_, fun _ => ⟨rfl, rfl⟩⟩
      rw [mapCheck_eq_ok.mpr passes.1] at opened
      cases opened
  | ok checked =>
      have imports := mapCheck_eq_ok.mp
          (opened.trans (congrArg Except.ok (Subsingleton.elim checked ())))
      constructor
      · rintro ⟨_, typed⟩
        refine ⟨?_, behind.1 typed⟩
        have read := plain.1 typed
        change ((stepInputOfFields library context body.fields).map (withName name)).toOption = _
        rw [Fallible.toOption_map, read, Option.map_map]
        congr 1
        funext default
        rw [Function.comp_apply, withName, if_pos (noName default)]
      · intro failing
        have ill : ¬ WellTyped body.fields := fun typed => failing ⟨imports, typed⟩
        refine ⟨?_, behind.2 ill⟩
        change ((stepInputOfFields library context body.fields).map (withName name)).toOption = _
        rw [Fallible.toOption_map, plain.2 ill]
        rfl

theorem readDefault_eq_none {fields : Fields} :
    readDefault library context fields = none ↔ Exists fun tree =>
        fields.lookup "default" = some tree ∧
      Exists fun failure => newCWLType library context tree "" = .error failure := by
  unfold readDefault
  cases fields.lookup "default" with
  | none => exact iff_of_false (by rintro ⟨⟩) (by rintro ⟨_, ⟨⟩, _⟩)
  | some tree =>
      dsimp only
      cases made : newCWLType library context tree "" with
      | error failure => exact iff_of_true rfl ⟨tree, rfl, failure, made⟩
      | ok value =>
          refine iff_of_false (by rintro ⟨⟩) ?_
          rintro ⟨_, same, failure, refused⟩
          cases same
          rw [made] at refused
          cases refused

theorem textElements_texts (sources : List String) :
    textElements (sources.map .text) = some sources := by
  induction sources with
  | nil => rfl
  | cons source rest inductionHypothesis =>
      rw [List.map_cons, textElements, inductionHypothesis]
      rfl

/-- An input that is its source alone has a `[]string`. -/
theorem inMap_of_not_body {input : NamedInput} (alone : ¬input.IsBody) :
    Exists fun sources => inMap library context input = some
        { id := input.name, source := .strings sources } := by
  rcases input with ⟨name, named, form, stringKeys⟩
  cases form with
  | text source => exact ⟨[source], rfl⟩
  | map body => exact absurd ⟨body, rfl⟩ alone
  | texts sources =>
      refine ⟨sources, ?_⟩
      have made : newWorkflowStepInput library context (.list (sources.map .text)) =
          .ok { source := .strings sources } := by
        unfold newWorkflowStepInput
        dsimp only [makeStringMap, bind, Except.bind]
        rw [textElements_texts]
        rfl
      rw [inMap, NamedInput.mapTree, made]
      rfl

/-- An input comes to nothing in a map exactly if it is refused, and then it comes to
nothing in a list. -/
theorem inMap_eq_none {input : NamedInput} :
    inMap library context input = none ↔ input.Refused context library := by
  by_cases isBody : input.IsBody
  · rcases isBody with ⟨body, form⟩
    have made := @made_of_body library context input body form
    by_cases passes : body.Passes input.stringKeys
    · rw [(made.1 passes).1, Option.map_eq_none_iff, readDefault_eq_none]
      refine ⟨fun refused => ⟨body, form, Or.inr refused⟩, ?_⟩
      rintro ⟨other, otherForm, refused⟩
      cases form.symm.trans otherForm
      exact refused.resolve_left fun failing => failing passes
    · exact iff_of_true (made.2 passes).1 ⟨body, form, Or.inl passes⟩
  · rcases @inMap_of_not_body library context _ isBody with ⟨sources, made⟩
    rw [made]
    exact iff_of_false (by rintro ⟨⟩) fun refused => isBody ⟨refused.choose, refused.choose_spec.1⟩

theorem inList_of_refused {input : NamedInput} (refused : input.Refused context library) :
    inList library context input = none := by
  rcases refused with ⟨body, form, refused⟩
  have made := @made_of_body library context input body form
  by_cases passes : body.Passes input.stringKeys
  · rw [(made.1 passes).2, readDefault_eq_none.mpr (refused.resolve_left fun failing =>
      failing passes)]
    rfl
  · exact (made.2 passes).2

theorem unwrapSource_not_strings (linkMerge : Option String) {source : SourceValue}
    (other : forall sources, source ≠ .strings sources) (sources : List String) :
    unwrapSource linkMerge source ≠ .strings sources := by
  unfold unwrapSource
  split
  · next element =>
      split_ifs
      · cases element <;> rintro ⟨⟩
      · rintro ⟨⟩
  · exact other sources

theorem sourceOf_not_strings (tree : Tree) (sources : List String) :
    sourceOf tree ≠ .strings sources := by
  cases tree <;> rintro ⟨⟩

/-- The decoder never makes a `[]string` of a source. -/
theorem stepInputOfFields_not_strings {fields : Fields} {made : WorkflowStepInput}
    (decoded : stepInputOfFields library context fields = .ok made) (sources : List String) :
    made.source ≠ .strings sources := by
  rcases Fallible.bind_ok_iff.mp decoded with ⟨⟨default, rest⟩, _, decoded⟩
  dsimp only at decoded
  split_ifs at decoded
  cases decoded
  exact unwrapSource_not_strings _ (sourceOf_not_strings _) sources

theorem inList_not_strings {input : NamedInput} {made : WorkflowStepInput}
    (done : inList library context input = some made) (sources : List String) :
    made.source ≠ .strings sources := by
  unfold inList NamedInput.listTree at done
  rw [newWorkflowStepInput_asMap] at done
  cases parsed : mapCheck context input.stringKeys (("id", .text input.name) :: input.form.fields)
      >>= fun _ =>
      stepInputOfFields library context (("id", .text input.name) :: input.form.fields) with
  | error failure =>
      rw [parsed] at done
      cases done
  | ok found =>
      rw [parsed] at done
      cases done
      rcases Fallible.bind_ok_iff.mp parsed with ⟨_, _, decoded⟩
      exact stepInputOfFields_not_strings decoded sources

/-- The source of an input with a map as its body can be read. -/
theorem readable_of_body (body : InputBody) (default : Option Value) :
    Readable (plainStepInput default body.fields).source := by
  have sources := body.sources
  unfold plainStepInput
  dsimp only
  cases written : body.fields.lookup "source" with
  | none => trivial
  | some tree =>
      rw [written] at sources
      cases tree with
      | null => trivial
      | text source => trivial
      | list elements =>
          change Readable (unwrapSource _ (.interfaces elements))
          unfold unwrapSource
          split
          · next element same =>
              cases same
              have text := sources element List.mem_cons_self
              split_ifs
              · cases element with
                | text source => trivial
                | _ => cases text
              · exact sources
          · exact sources
      | _ => exact sources.elim

/-- What a body has become, in either form, has its name, a source that can be read
and the default that was read. -/
theorem made_of_body_some {input : NamedInput} {body : InputBody} (form : input.form = .map body)
    {made : WorkflowStepInput}
    (done : inMap library context input = some made ∨ inList library context input = some made) :
    made.id = input.name ∧ Readable made.source ∧ Exists fun default =>
      readDefault library context body.fields = some default ∧
          made.default = default.map .value := by
  have both := @made_of_body library context input body form
  by_cases passes : body.Passes input.stringKeys
  · rw [(both.1 passes).1, (both.1 passes).2, or_self, Option.map_eq_some_iff] at done
    rcases done with ⟨default, read, rfl⟩
    exact ⟨rfl, readable_of_body body default, default, read, rfl⟩
  · rw [(both.2 passes).1, (both.2 passes).2, or_self] at done
    cases done

end

/-- A default that does not depend on the run makes the same input in a map and in a
list, whatever the runs. -/
theorem inMap_eq_inList {Run : Type} {library : Run -> Library} {context : Context}
    {input : NamedInput} (isBody : input.IsBody) (settled : input.Settled library context)
    (first second : Run) :
    inMap (library first) context input = inList (library second) context input := by
  rcases isBody with ⟨body, form⟩
  have mapped := @made_of_body (library first) context input body form
  have listed := @made_of_body (library second) context input body form
  by_cases passes : body.Passes input.stringKeys
  · have same : readDefault (library first) context body.fields = readDefault (library second)
      context body.fields := by
      unfold readDefault
      cases there : body.fields.lookup "default" with
      | none => rfl
      | some tree => exact congrArg (Option.map some) (settled body form tree there first second)
    rw [(mapped.1 passes).1, (listed.1 passes).2, same]
  · rw [(mapped.2 passes).1, (listed.2 passes).2]

/-! ### All inputs of a step -/

section

variable {A B : Type}

/-- A loop over a permuted list gives a permuted result. -/
theorem mapM_perm {f : A -> Option B} {first second : List A} (same : first.Perm second) :
    Agree (first.mapM f) (second.mapM f) := by
  induction same with
  | nil => exact List.Perm.refl _
  | @cons head first second _ inductionHypothesis =>
      rw [List.mapM_cons, List.mapM_cons]
      cases f head with
      | none => trivial
      | some result =>
          cases one : first.mapM f with
          | none =>
              cases two : second.mapM f with
              | none => trivial
              | some results =>
                  rw [one, two] at inductionHypothesis
                  exact inductionHypothesis.elim
          | some results =>
              cases two : second.mapM f with
              | none =>
                  rw [one, two] at inductionHypothesis
                  exact inductionHypothesis.elim
              | some others =>
                  rw [one, two] at inductionHypothesis
                  exact inductionHypothesis.cons result
  | swap one two rest =>
      rw [List.mapM_cons, List.mapM_cons, List.mapM_cons, List.mapM_cons]
      cases f one <;> cases f two <;> cases rest.mapM f
      all_goals first
      | trivial
      | exact List.Perm.swap _ _ _
  | @trans first middle last _ _ before after =>
      cases one : first.mapM f <;> cases two : middle.mapM f <;> cases three : last.mapM f
      all_goals rw [one, two] at before
      all_goals rw [two, three] at after
      all_goals first
      | trivial
      | exact before.elim
      | exact after.elim
      | exact List.Perm.trans before after

end

section

variable {Run : Type} {library : Run -> Library} {context : Context} {inputs : List NamedInput}

theorem madeInputs_list (run : Run) :
    madeInputs library context run (listOfInputs inputs) = inputs.mapM
        (inList (library run) context) := by
  have unfolded : createWorkflowStepInputArray (library run) context (listOfInputs inputs) =
      (inputs.map NamedInput.listTree).mapM fun element =>
        wrap "(CreateWorkflowStepInputArray) (array) NewWorkflowStepInput returns: "
          (newWorkflowStepInput (library run) context element) := rfl
  rw [madeInputs, unfolded, Fallible.toOption_mapM, List.mapM_map]
  exact Fallible.mapM_congr fun input _ => wrap_toOption _ _

theorem madeInputs_map (run : Run) {stringKeys : Bool} :
    madeInputs library context run (mapOfInputs stringKeys inputs) = inputs.mapM
        (inMap (library run) context) := by
  have names : (inputs.map fun input => (input.name, input.mapTree)).lookup "$import" = none := by
    refine lookup_none_of_not_mem fun member => ?_
    rw [List.map_map] at member
    rcases List.mem_map.mp member with ⟨input, inside, same⟩
    exact input.named same
  have unfolded : createWorkflowStepInputArray (library run) context
      (mapOfInputs stringKeys inputs) =
      (inputs.map fun input => (input.name, input.mapTree)).mapM fun field =>
        wrap "(CreateWorkflowStepInputArray) (map) NewWorkflowStepInput returns: "
          ((newWorkflowStepInput (library run) context field.2).map (withName field.1)) := by
    rw [createWorkflowStepInputArray, mapOfInputs, makeStringMap_names context stringKeys names]
    rfl
  rw [madeInputs, unfolded, Fallible.toOption_mapM, List.mapM_map]
  exact Fallible.mapM_congr fun input _ => wrap_toOption _ _

/-- A run in which no input is refused makes all inputs of the map. -/
theorem made_of_accepted {run : Run}
    (accepted : forall input, input ∈ inputs -> ¬ input.Refused context (library run)) :
    Exists fun made => inputs.mapM (inMap (library run) context) = some made := by
  cases done : inputs.mapM (inMap (library run) context) with
  | none =>
      rcases Fallible.exists_none_of_mapM done with ⟨other, inside, refused⟩
      exact absurd (inMap_eq_none.mp refused) (accepted other inside)
  | some made => exact ⟨made, rfl⟩

/-- In a run in which no input is refused, an input that is its source alone shows in
the map as one with a `[]string`. -/
theorem strings_of_not_body {run : Run} {made : List WorkflowStepInput}
    (done : inputs.mapM (inMap (library run) context) = some made) {input : NamedInput}
    (member : input ∈ inputs) (alone : ¬ input.IsBody) :
    Exists fun sources =>
        (⟨input.name, .strings sources, 0, none, none, ""⟩ : WorkflowStepInput) ∈ made := by
  rcases @inMap_of_not_body (library run) context _ alone with ⟨sources, given⟩
  exact ⟨sources, Fallible.mem_mapM_some done member given⟩

/-- If the forms agree in a run that refuses no input, all inputs are maps. -/
theorem bodies_of_sameInputs {stringKeys : Bool}
    (law : SameInputs library context stringKeys inputs) {run : Run} {made : List WorkflowStepInput}
    (done : inputs.mapM (inMap (library run) context) = some made) {input : NamedInput}
    (member : input ∈ inputs) : input.IsBody := by
  by_contra alone
  rcases strings_of_not_body done member alone with ⟨sources, inside⟩
  have agree := law run run inputs (List.Perm.refl _)
  rw [madeInputs_map, madeInputs_list, done] at agree
  cases listed : inputs.mapM (inList (library run) context) with
  | none =>
      rw [listed] at agree
      exact agree
  | some results =>
      rw [listed] at agree
      have same : made.Perm results := agree
      rcases Fallible.mem_of_mapM_some listed (same.mem_iff.mp inside) with ⟨other, _, given⟩
      exact inList_not_strings given sources rfl

/-- If the forms agree, every run reads a default as a run does that refuses no
input: the inputs have different names, so that the one with the same name in the
list is the same input. -/
theorem default_of_sameInputs {stringKeys : Bool}
    (law : SameInputs library context stringKeys inputs)
    (distinct : (inputs.map NamedInput.name).Nodup) {run : Run} {made : List WorkflowStepInput}
    (done : inputs.mapM (inMap (library run) context) = some made) {input : NamedInput}
    (member : input ∈ inputs) {body : InputBody} (form : input.form = .map body) {tree : Tree}
    (there : body.fields.lookup "default" = some tree) (other : Run) :
    (newCWLType (library other) context tree "").toOption =
        (newCWLType (library run) context tree "").toOption := by
  have agree := law run other inputs (List.Perm.refl _)
  rw [madeInputs_map, madeInputs_list, done] at agree
  have present : Exists fun mapped => inMap (library run) context input = some mapped := by
    cases given : inMap (library run) context input with
    | none =>
        rw [Fallible.mapM_none_of_mem member given] at done
        cases done
    | some mapped => exact ⟨mapped, rfl⟩
  rcases present with ⟨mapped, given⟩
  have inside := Fallible.mem_mapM_some done member given
  cases listed : inputs.mapM (inList (library other) context) with
  | none =>
      rw [listed] at agree
      exact agree.elim
  | some results =>
      rw [listed] at agree
      have same : made.Perm results := agree
      rcases Fallible.mem_of_mapM_some listed (same.mem_iff.mp inside) with
          ⟨twin, twinMember, twinGiven⟩
      rcases bodies_of_sameInputs law done twinMember with ⟨twinBody, twinForm⟩
      have ofMap := made_of_body_some form (Or.inl given)
      have ofList := made_of_body_some twinForm (Or.inr twinGiven)
      have names : input.name = twin.name := ofMap.1.symm.trans ofList.1
      cases List.inj_on_of_nodup_map distinct member twinMember names
      cases form.symm.trans twinForm
      rcases ofMap.2.2 with ⟨first, firstRead, firstDefault⟩
      rcases ofList.2.2 with ⟨second, secondRead, secondDefault⟩
      unfold readDefault at firstRead secondRead
      rw [there] at firstRead secondRead
      rcases Option.map_eq_some_iff.mp firstRead with ⟨firstValue, firstMade, rfl⟩
      rcases Option.map_eq_some_iff.mp secondRead with ⟨secondValue, secondMade, rfl⟩
      rw [firstDefault] at secondDefault
      cases secondDefault
      rw [firstMade, secondMade]

theorem sameInputs_iff {stringKeys : Bool} (distinct : (inputs.map NamedInput.name).Nodup) :
    SameInputs library context stringKeys inputs ↔ InputsMeet library context inputs := by
  constructor
  · intro law
    by_cases accepted : Exists fun run => forall input, input ∈ inputs ->
        ¬ input.Refused context (library run)
    · rcases accepted with ⟨run, accepted⟩
      rcases made_of_accepted accepted with ⟨made, done⟩
      refine Or.inl fun input member => ⟨bodies_of_sameInputs law done member, ?_⟩
      intro body form tree there first second
      exact (default_of_sameInputs law distinct done member form there first).trans
        (default_of_sameInputs law distinct done member form there second).symm
    · refine Or.inr fun run => ?_
      by_contra none
      exact accepted ⟨run, fun input member refused => none ⟨input, member, refused⟩⟩
  · intro condition first second order same
    rw [madeInputs_map, madeInputs_list]
    rcases condition with bodies | refused
    · have congr : order.mapM (inMap (library first) context) = order.mapM
        (inList (library second) context) :=
        Fallible.mapM_congr fun input member =>
          inMap_eq_inList (bodies input (same.mem_iff.mp member)).1
              (bodies input (same.mem_iff.mp member)).2 first second
      rw [congr]
      exact mapM_perm same
    · rcases refused first with ⟨input, member, here⟩
      rcases refused second with ⟨other, otherMember, there⟩
      rw [Fallible.mapM_none_of_mem (same.mem_iff.mpr member) (inMap_eq_none.mpr here),
        Fallible.mapM_none_of_mem otherMember (inList_of_refused there)]
      trivial

/-- Under the condition the sources can be read. -/
theorem readableSources_of_meet {stringKeys : Bool}
    (condition : InputsMeet library context inputs) :
    ReadableSources library context stringKeys inputs := by
  constructor
  · intro run order same made given input inside
    rw [madeInputs_map] at given
    rcases Fallible.mem_of_mapM_some given inside with ⟨own, member, done⟩
    rcases condition with bodies | refused
    · rcases (bodies own (same.mem_iff.mp member)).1 with ⟨body, form⟩
      exact (made_of_body_some form (Or.inl done)).2.1
    · rcases refused run with ⟨other, otherMember, here⟩
      rw [Fallible.mapM_none_of_mem (same.mem_iff.mpr otherMember) (inMap_eq_none.mpr here)]
          at given
      cases given
  · intro run made given input inside
    rw [madeInputs_list] at given
    rcases Fallible.mem_of_mapM_some given inside with ⟨own, member, done⟩
    rcases condition with bodies | refused
    · rcases (bodies own member).1 with ⟨body, form⟩
      exact (made_of_body_some form (Or.inr done)).2.1
    · rcases refused run with ⟨other, otherMember, here⟩
      rw [Fallible.mapM_none_of_mem otherMember (inList_of_refused here)] at given
      cases given

end

/-! ## Steps in maps and in lists -/

/-- A step with its name, which is not the directive for an import.  In a map its body may repeat
the name as its own `id`. -/
structure NamedStep where
  name : String
  named : name ≠ "$import"
  body : Fields
  noID : body.lookup "id" = none
  own : Bool
  stringKeys : Bool

/-- The body with the name as its `id`. -/
def NamedStep.withID (step : NamedStep) : Fields :=
  ("id", .text step.name) :: step.body

def NamedStep.mapFields (step : NamedStep) : Fields :=
  if step.own then step.withID else step.body

def mapOfSteps (stringKeys : Bool) (steps : List NamedStep) : Tree :=
  asMap stringKeys (steps.map fun step => (step.name, asMap step.stringKeys step.mapFields))

def listOfSteps (steps : List NamedStep) : Tree :=
  .list (steps.map fun step => asMap step.stringKeys step.withID)

/-- The identifier that a step gets in a map. -/
def mapIdentity (workflowID : String) (step : NamedStep) : Except Failure String :=
  stepIdentity step.mapFields step.name workflowID

/-- The identifier that it gets in a list. -/
def listIdentity (workflowID : String) (step : NamedStep) : Except Failure String :=
  stepIdentity step.withID "" workflowID

/-- Both forms give the step the same identifier, or refuse it: its name is absolute, or there is no
name of a workflow; or the name is absolute behind that of the workflow and the body does not repeat
it; or it is not, and the body does.  The empty name is the exception to both. -/
def Fits (workflowID : String) (step : NamedStep) : Prop :=
  hasPrefix step.name "#" = true ∨ workflowID = "" ∨
    if hasPrefix (joinPath workflowID step.name) "#" = true then (step.own = true ↔ step.name = "")
    else step.own = true ∨ step.name = ""

/-- The decoder does not mind how the identifier is given: it runs when `id` has been set to the
identifier of the step. -/
def IgnoresID (env : Environment) : Prop :=
  forall context name fields, env.decodeStep context (("id", .text name) :: fields) = env.decodeStep
      context fields

section

/-- In a list the name stands in the body. -/
theorem listIdentity_eq (workflowID : String) (step : NamedStep) :
    listIdentity workflowID step =
      if hasPrefix step.name "#" then .ok step.name
      else if workflowID = "" then .error (.error "(NewWorkflowStep) workflowID is empty")
      else if hasPrefix (joinPath workflowID step.name) "#" then .ok (joinPath workflowID step.name)
      else .error (.error "(NewWorkflowStep) stepID is not absoule") :=
  rfl

/-- In a map a body without the name is given that of its entry, and a relative name in the body
only stands for itself if the entry is absolute. -/
theorem mapIdentity_eq (workflowID : String) (step : NamedStep) :
    mapIdentity workflowID step =
      if step.own = true then
        if step.name = "" then listIdentity workflowID step
        else if hasPrefix step.name "#" then .ok step.name
        else .error (.error "(NewWorkflowStep) stepID is not absoule")
      else if step.name = "" then
          .error (.error "(NewWorkflowStep) object has no id and argument stepID is empty")
      else if hasPrefix step.name "#" then .ok step.name
      else if workflowID = "" then .error (.error "(NewWorkflowStep) workflowID is empty")
      else .ok (joinPath workflowID step.name) := by
  unfold mapIdentity NamedStep.mapFields
  cases step.own with
  | true =>
      by_cases noName : step.name = ""
      · rw [if_pos rfl, if_pos rfl, if_pos noName, listIdentity, noName]
      · rw [if_pos rfl, if_pos rfl, if_neg noName]
        change (if hasPrefix step.name "#" then _ else if step.name = "" then _ else
          if hasPrefix step.name "#" then _ else _) = _
        rw [if_neg noName]
        split_ifs <;> rfl
  | false =>
      rw [if_neg Bool.false_ne_true, if_neg Bool.false_ne_true, stepIdentity, step.noID]

theorem not_absolute_empty : hasPrefix "" "#" = false := by decide

theorem fits_iff {workflowID : String} {step : NamedStep} :
    (mapIdentity workflowID step).toOption = (listIdentity workflowID step).toOption ↔
    Fits workflowID step := by
  rw [mapIdentity_eq workflowID step, listIdentity_eq, Fits]
  by_cases noName : step.name = ""
  · rw [noName, not_absolute_empty]
    split_ifs <;> simp_all [Except.toOption]
  · split_ifs <;> simp_all [Except.toOption]

/-- Where the forms do not give the step the same identifier, one of them refuses it. -/
theorem refused_of_not_fits {workflowID : String} {step : NamedStep}
    (unfit : ¬Fits workflowID step) :
    (mapIdentity workflowID step).toOption = none ∨
    (listIdentity workflowID step).toOption = none := by
  rw [Fits] at unfit
  rw [mapIdentity_eq workflowID step, listIdentity_eq]
  split_ifs <;> simp_all [Except.toOption]

end

section

variable (env : Environment) (newProcess : ProcessCall -> Parse Process) (workflowID : String)
    (injected : List Requirement)

/-- The rest of `NewWorkflowStepFromInterface`, with the identifier of the step. -/
def stepBody (fields : Fields) (id : String) : Parse Step := do
  let requirements <- stepRequirements env fields injected
  readPart fields "in" fun context tree =>
      (createWorkflowStepInputArray env.library context tree).map fun _ => ()
  readPart fields "out" env.stepOut
  match fields.lookup "run" with
  | none => refuse "(NewWorkflowStep) field run is missing?!?"
  | some run =>
      if id = "" then refuse "(NewWorkflowStep) stepID is empty ?!?"
      else
        let run <- newRun newProcess run id requirements
        give (checkScatter (fields.lookup "scatter"))
        stepHints env fields injected
        reading fun context => env.decodeStep context fields
        pure { id, requirements, run }

theorem stepOfFields_eq (fields : Fields) (stepID : String) :
    stepOfFields env newProcess fields stepID workflowID injected =
      (give (stepIdentity fields stepID workflowID) >>= stepBody env newProcess injected fields) :=
  rfl

theorem stepBody_withID {env : Environment} (ignores : IgnoresID env) (name : String)
    (fields : Fields) :
    stepBody env newProcess injected (("id", .text name) :: fields) = stepBody env newProcess
        injected fields := by
  funext id
  have other : forall key : String, key ≠ "id" -> (("id", Tree.text name) :: fields).lookup key =
      fields.lookup key := by
    intro key differs
    rw [List.lookup_cons, beq_eq_false_iff_ne.mpr differs]
  have decoder : forall context, env.decodeStep context (("id", Tree.text name) :: fields) =
      env.decodeStep context fields :=
    fun context => ignores context name fields
  unfold stepBody stepRequirements readPart stepHints
  rw [other "requirements" (by decide), other "in" (by decide), other "out" (by decide),
      other "run" (by decide),
    other "scatter" (by decide), other "hints" (by decide)]
  simp only [decoder]

/-- A step with a name, in either form. -/
def namedStep (identity : NamedStep -> Except Failure String) (step : NamedStep) : Parse Step := do
  let _ <- reading fun context => mapCheck context step.stringKeys step.body
  let id <- give (identity step)
  stepBody env newProcess injected step.body id

/-- The steps one after the other. -/
def namedSteps (identity : NamedStep -> Except Failure String) : List NamedStep -> Parse (List Step)
  | [] => pure []
  | step :: rest => do
      let first <- namedStep env newProcess injected identity step
      let others <- namedSteps identity rest
      pure (first :: others)

end

section

variable {env : Environment} {newProcess : ProcessCall -> Parse Process} {workflowID : String}
    {injected : List Requirement}

theorem newWorkflowStep_asMap (stringKeys : Bool) (fields : Fields) (stepID : String) :
    newWorkflowStepFromInterface env newProcess (asMap stringKeys fields) stepID
        workflowID injected =
      (reading (fun context => mapCheck context stringKeys fields) >>= fun _ =>
        stepOfFields env newProcess fields stepID workflowID injected) := by
  funext state
  unfold newWorkflowStepFromInterface
  rw [Computation.bind_apply, Computation.bind_apply]
  unfold reading
  dsimp only
  rw [makeStringMap_asMap]
  cases mapCheck state.context stringKeys fields <;> rfl

theorem newWorkflowStep_inMap (ignores : IgnoresID env) (step : NamedStep) :
    newWorkflowStepFromInterface env newProcess (asMap step.stringKeys step.mapFields) step.name
        workflowID injected =
      namedStep env newProcess injected (mapIdentity workflowID) step := by
  have check : forall context, mapCheck context step.stringKeys step.mapFields = mapCheck context
      step.stringKeys step.body := by
    intro context
    unfold NamedStep.mapFields
    cases step.own with
    | true => exact mapCheck_cons_id _ _ _
    | false => rfl
  have body : stepBody env newProcess injected step.mapFields = stepBody env newProcess injected
      step.body := by
    unfold NamedStep.mapFields
    cases step.own with
    | true => exact stepBody_withID newProcess injected ignores step.name step.body
    | false => rfl
  rw [newWorkflowStep_asMap, stepOfFields_eq, body]
  simp only [check]
  rfl

theorem newWorkflowStep_inList (ignores : IgnoresID env) (step : NamedStep) :
    newWorkflowStepFromInterface env newProcess (asMap step.stringKeys step.withID) ""
        workflowID injected =
      namedStep env newProcess injected (listIdentity workflowID) step := by
  have check : forall context, mapCheck context step.stringKeys step.withID = mapCheck context
      step.stringKeys step.body :=
    fun context => mapCheck_cons_id _ _ _
  have body : stepBody env newProcess injected step.withID = stepBody env newProcess
      injected step.body :=
    stepBody_withID newProcess injected ignores step.name step.body
  rw [newWorkflowStep_asMap, stepOfFields_eq, body]
  simp only [check]
  rfl

theorem newSteps_map (ignores : IgnoresID env) (steps : List NamedStep) :
    newSteps env newProcess workflowID injected
        (steps.map fun step => (step.name, asMap step.stringKeys step.mapFields)) =
      namedSteps env newProcess injected (mapIdentity workflowID) steps := by
  induction steps with
  | nil => rfl
  | cons step rest inductionHypothesis =>
      rw [List.map_cons, newSteps, newWorkflowStep_inMap ignores, inductionHypothesis]
      rfl

theorem newSteps_list (ignores : IgnoresID env) (steps : List NamedStep) :
    newSteps env newProcess workflowID injected
        ((steps.map fun step => asMap step.stringKeys step.withID).map fun element =>
            ("", element)) =
      namedSteps env newProcess injected (listIdentity workflowID) steps := by
  induction steps with
  | nil => rfl
  | cons step rest inductionHypothesis =>
      rw [List.map_cons, List.map_cons, newSteps, newWorkflowStep_inList ignores,
          inductionHypothesis]
      rfl

end

/-! ## When both forms give the same steps -/

/-- What a computation gives and the context behind it, if it ends with a value. -/
def gives {A : Type} (computation : Parse A) (state : State) : Option (A × State) :=
  match computation state with
  | some (.ok value, after) => some (value, after)
  | _ => none

section

variable {Run : Type} (env : Run -> Environment) (newProcess : Run -> ProcessCall -> Parse Process)
    (workflowID : String)
  (injected : List Requirement) (state : State) (stringKeys : Bool) (steps : List NamedStep)

/-- The steps that a run makes of a tree. -/
def madeSteps (run : Run) (tree : Tree) : Option (List Step) :=
  (gives (createWorkflowStepsArray (env run) (newProcess run) tree workflowID injected) state).map
      Prod.fst

/-- The map in one run, in whatever order its entries come, and the list in another give the same
steps. A Go map is visited in any order, which is why the order of its entries is a variable here.
-/
def SameSteps : Prop :=
  forall (first second : Run) (order : List NamedStep), order.Perm steps ->
    Agree (madeSteps env newProcess workflowID injected state first (mapOfSteps stringKeys order))
      (madeSteps env newProcess workflowID injected state second (listOfSteps steps))

/-- What a run makes of one step in a given context. -/
def alone (run : Run) (identity : NamedStep -> Except Failure String) (context : State)
    (step : NamedStep) : Option Step :=
  (gives (namedStep (env run) (newProcess run) injected identity step) context).map Prod.fst

/-- No step minds what the others have left in the context, nor which run it is read in: under an
identifier it becomes what it becomes at first, or it is refused in both places. So no body embeds
the tool that another one names, defines the schema that another one uses, or embeds a tool
without an identifier, which is given a UUID.

The context is the only way in which one step can change what becomes of another. -/
def Apart (identity : NamedStep -> Except Failure String) : Prop :=
  forall (run : Run) (before : List NamedStep) (step : NamedStep) (after : List NamedStep),
    (before ++ step :: after).Perm steps -> forall made left,
      gives (namedSteps (env run) (newProcess run) injected identity before) state = some
      (made, left) ->
      forall other, alone env newProcess injected run identity left step =
        alone env newProcess injected other identity state step

/-- The step is refused for its identifier, or for its body. One such step makes each form fail,
in whatever place it stands. -/
def Hopeless (identity : NamedStep -> Except Failure String) (step : NamedStep) : Prop :=
  forall run, alone env newProcess injected run identity state step = none

/-- Both forms give every step its identifier or refuse it, or each form holds a step that it
refuses. What is compared are the identifiers that the two forms give, which can be said of the
document without reading the steps. -/
def StepsMeet : Prop :=
  state.version = "" ∨ (forall step, step ∈ steps -> Fits workflowID step) ∨
    (Exists fun step => step ∈ steps ∧ Hopeless env newProcess injected state
        (mapIdentity workflowID) step) ∧
      Exists fun step => step ∈ steps ∧ Hopeless env newProcess injected state
          (listIdentity workflowID) step

end

section

variable {env : Environment} {newProcess : ProcessCall -> Parse Process}
    {injected : List Requirement} {steps : List NamedStep}

theorem gives_bind {A B : Type} (first : Parse A) (next : A -> Parse B) (state : State) :
    gives (first >>= next) state = (gives first state).bind fun result =>
        gives (next result.1) result.2 := by
  unfold gives
  rw [Computation.bind_apply]
  rcases first state with _ | ⟨_ | value, after⟩ <;> rfl

theorem gives_give {A : Type} (result : Except Failure A) (state : State) :
    gives (give result) state = result.toOption.map fun value => (value, state) := by
  cases result <;> rfl

theorem gives_namedStep (identity : NamedStep -> Except Failure String) (step : NamedStep)
    (state : State) :
    gives (namedStep env newProcess injected identity step) state =
      (gives (reading fun context => mapCheck context step.stringKeys step.body) state).bind
          fun checked =>
        ((identity step).toOption.map fun id => (id, checked.2)).bind fun identified =>
          gives (stepBody env newProcess injected step.body identified.1) identified.2 := by
  unfold namedStep
  simp only [gives_bind, gives_give]

theorem gives_namedSteps_cons (identity : NamedStep -> Except Failure String) (step : NamedStep)
    (state : State) :
    gives (namedSteps env newProcess injected identity (step :: steps)) state =
      (gives (namedStep env newProcess injected identity step) state).bind fun first =>
        (gives (namedSteps env newProcess injected identity steps) first.2).map fun others =>
          (first.1 :: others.1, others.2) := by
  rw [namedSteps, gives_bind]
  congr 1
  funext first
  rw [gives_bind]
  cases gives (namedSteps env newProcess injected identity steps) first.2 <;> rfl

/-- The step that comes last is read in the context that the others leave. -/
theorem gives_namedSteps_concat (identity : NamedStep -> Except Failure String) (step : NamedStep)
    (state : State) {made : List Step} {left : State}
    (before : gives (namedSteps env newProcess injected identity steps) state = some (made, left)) :
    gives (namedSteps env newProcess injected identity (steps ++ [step])) state =
      (gives (namedStep env newProcess injected identity step) left).map fun last =>
          (made ++ [last.1], last.2) := by
  induction steps generalizing state made with
  | nil =>
      have start : left = state ∧ made = [] := by
        cases before
        exact ⟨rfl, rfl⟩
      rw [List.nil_append, gives_namedSteps_cons, start.1, start.2]
      cases gives (namedStep env newProcess injected identity step) state <;> rfl
  | cons head rest inductionHypothesis =>
      rw [gives_namedSteps_cons] at before
      rcases Option.bind_eq_some_iff.mp before with ⟨first, given, later⟩
      rcases Option.map_eq_some_iff.mp later with ⟨others, rested, same⟩
      cases same
      rw [List.cons_append, gives_namedSteps_cons, given]
      dsimp only [Option.bind_some]
      rw [inductionHypothesis first.2 rested]
      cases gives (namedStep env newProcess injected identity step) others.2 <;> rfl

/-- The identifiers decide only by their values. -/
theorem gives_namedStep_congr {first second : NamedStep -> Except Failure String} {step : NamedStep}
    (same : (first step).toOption = (second step).toOption) (state : State) :
    gives (namedStep env newProcess injected first step) state =
      gives (namedStep env newProcess injected second step) state := by
  rw [gives_namedStep, gives_namedStep, same]

/-- A step whose identifier is refused comes to nothing. -/
theorem gives_namedStep_none {identity : NamedStep -> Except Failure String} {step : NamedStep}
    (refused : (identity step).toOption = none) (state : State) :
    gives (namedStep env newProcess injected identity step) state = none := by
  rw [gives_namedStep, refused]
  cases gives (reading fun context => mapCheck context step.stringKeys step.body) state <;> rfl

end

section

variable {Run : Type} {env : Run -> Environment} {newProcess : Run -> ProcessCall -> Parse Process}
    {workflowID : String}
  {injected : List Requirement} {state : State} {steps : List NamedStep}

/-- Steps that are apart are read as if each of them stood alone: by induction on
those that are left, with the context that the others have changed. -/
theorem namedSteps_of_apart {identity : NamedStep -> Except Failure String}
    (apart : Apart env newProcess injected state steps identity) (run : Run)
    (order : List NamedStep) (same : order.Perm steps) :
    (gives (namedSteps (env run) (newProcess run) injected identity order) state).map Prod.fst =
      order.mapM (alone env newProcess injected run identity state) := by
  have rest (before after : List NamedStep) (whole : (before ++ after).Perm steps)
      {made : List Step} {left : State}
      (read : gives (namedSteps (env run) (newProcess run) injected identity before) state = some
      (made, left)) :
      (gives (namedSteps (env run) (newProcess run) injected identity after) left).map Prod.fst =
        after.mapM (alone env newProcess injected run identity state) := by
    induction after generalizing before made left with
    | nil => rfl
    | cons step after inductionHypothesis =>
        have here := apart run before step after whole made left read run
        rw [gives_namedSteps_cons, List.mapM_cons, <- here, alone]
        cases given : gives (namedStep (env run) (newProcess run) injected identity step) left with
        | none => rfl
        | some first =>
            have further := gives_namedSteps_concat identity step state read
            rw [given, Option.map_some] at further
            have later := inductionHypothesis (before ++ [step])
              (by rw [List.append_assoc]; exact whole) further
            dsimp only [Option.bind_some, Option.map_some]
            rw [Option.map_map, <- later]
            cases gives (namedSteps (env run) (newProcess run) injected identity after) first.2 <;>
                rfl
  exact rest [] order same rfl

/-- A step that is apart becomes the same in every run. -/
theorem alone_of_apart {identity : NamedStep -> Except Failure String}
    (apart : Apart env newProcess injected state steps identity) {step : NamedStep}
    (member : step ∈ steps) (first second : Run) :
    alone env newProcess injected first identity state step = alone env newProcess injected second
        identity state step := by
  rcases List.append_of_mem member with ⟨before, after, rfl⟩
  have moved : ([] ++ step :: (before ++ after)).Perm (before ++ step :: after) :=
      List.perm_middle.symm
  exact apart first [] step (before ++ after) moved [] state rfl second

/-- In a context with a version only the loop over the entries is left of the map. -/
theorem madeSteps_map (ignores : forall run, IgnoresID (env run)) (stringKeys : Bool)
    (version : state.version ≠ "") (run : Run) :
    madeSteps env newProcess workflowID injected state run (mapOfSteps stringKeys steps) =
      (gives (namedSteps (env run) (newProcess run) injected (mapIdentity workflowID) steps)
          state).map Prod.fst := by
  have names : (steps.map fun step => (step.name, asMap step.stringKeys step.mapFields)).lookup
      "$import" = none := by
    refine lookup_none_of_not_mem fun member => ?_
    rw [List.map_map] at member
    rcases List.mem_map.mp member with ⟨step, inside, same⟩
    exact step.named same
  unfold madeSteps createWorkflowStepsArray
  rw [<- newSteps_map (ignores run)]
  simp only [gives_bind]
  unfold gives reading currentVersion mapOfSteps
  dsimp only
  rw [makeStringMap_names state.context stringKeys names]
  dsimp only [Option.bind_some]
  rw [if_neg version]

theorem madeSteps_list (ignores : forall run, IgnoresID (env run)) (version : state.version ≠ "")
    (run : Run) :
    madeSteps env newProcess workflowID injected state run (listOfSteps steps) =
      (gives (namedSteps (env run) (newProcess run) injected (listIdentity workflowID) steps)
          state).map Prod.fst := by
  unfold madeSteps createWorkflowStepsArray
  rw [<- newSteps_list (ignores run)]
  simp only [gives_bind]
  unfold gives reading currentVersion listOfSteps
  dsimp only [makeStringMap, Option.bind_some]
  rw [if_neg version]

/-- Without a version both forms are refused. -/
theorem madeSteps_unversioned (version : state.version = "") (run : Run) (tree : Tree) :
    madeSteps env newProcess workflowID injected state run tree = none := by
  unfold madeSteps createWorkflowStepsArray
  simp only [gives_bind]
  unfold gives reading currentVersion
  dsimp only
  cases makeStringMap state.context tree with
  | error failure => rfl
  | ok normalised =>
      dsimp only [Option.bind_some]
      rw [if_pos version]
      rfl

end

section

variable {Run : Type} {env : Run -> Environment} (newProcess : Run -> ProcessCall -> Parse Process)
    (workflowID : String)
  (injected : List Requirement) (state : State) (stringKeys : Bool) (steps : List NamedStep)

/-- Both forms of steps that are apart give the same steps if there is no version, if
all steps fit, or if each form refuses a step. -/
theorem sameSteps_iff (ignores : forall run, IgnoresID (env run))
    (mapApart : Apart env newProcess injected state steps (mapIdentity workflowID))
    (listApart : Apart env newProcess injected state steps (listIdentity workflowID)) :
    SameSteps env newProcess workflowID injected state stringKeys steps ↔
      StepsMeet env newProcess workflowID injected state steps := by
  unfold StepsMeet
  by_cases version : state.version = ""
  · refine iff_of_true (fun first second order _ => ?_) (Or.inl version)
    rw [madeSteps_unversioned version, madeSteps_unversioned version]
    trivial
  · have mapped (run : Run) (order : List NamedStep) (same : order.Perm steps) :
        madeSteps env newProcess workflowID injected state run (mapOfSteps stringKeys order) =
          order.mapM (alone env newProcess injected run (mapIdentity workflowID) state) :=
      (madeSteps_map ignores stringKeys version run).trans
          (namedSteps_of_apart mapApart run order same)
    have listed (run : Run) : madeSteps env newProcess workflowID injected state run
        (listOfSteps steps) =
        steps.mapM (alone env newProcess injected run (listIdentity workflowID) state) :=
      (madeSteps_list ignores version run).trans
          (namedSteps_of_apart listApart run steps (List.Perm.refl _))
    have fitting {step : NamedStep} (fit : Fits workflowID step) (run : Run) :
        alone env newProcess injected run (mapIdentity workflowID) state step =
          alone env newProcess injected run (listIdentity workflowID) state step :=
      congrArg (Option.map Prod.fst) (gives_namedStep_congr (fits_iff.mpr fit) state)
    constructor
    · intro law
      refine Or.inr ?_
      by_cases fit : forall step, step ∈ steps -> Fits workflowID step
      · exact Or.inl fit
      · -- One of the identifiers is refused, so its form fails, and then so does the other form.
        push Not at fit
        rcases fit with ⟨step, member, unfit⟩
        have hopeless {identity : NamedStep -> Except Failure String}
            (apart : Apart env newProcess injected state steps identity) {run : Run}
            (failed : steps.mapM (alone env newProcess injected run identity state) = none) :
            Exists fun step => step ∈ steps ∧
            Hopeless env newProcess injected state identity step := by
          rcases Fallible.exists_none_of_mapM failed with ⟨culprit, inside, refused⟩
          exact ⟨culprit, inside, fun other =>
              (alone_of_apart apart inside other run).trans refused⟩
        have none {identity : NamedStep -> Except Failure String}
            (refused : (identity step).toOption = Option.none)
            (run : Run) : alone env newProcess injected run identity state step = Option.none :=
          congrArg (Option.map Prod.fst) (gives_namedStep_none refused state)
        rcases refused_of_not_fits unfit with refused | refused
        · refine Or.inr ⟨⟨step, member, none refused⟩, ?_⟩
          by_cases anyRun : Nonempty Run
          · rcases anyRun with ⟨run⟩
            have agree := law run run steps (List.Perm.refl _)
            rw [mapped run steps (List.Perm.refl _), listed, Fallible.mapM_none_of_mem member
                (none refused run)] at agree
            exact hopeless listApart (agree_none agree)
          · exact ⟨step, member, fun run => absurd ⟨run⟩ anyRun⟩
        · refine Or.inr ⟨?_, ⟨step, member, none refused⟩⟩
          by_cases anyRun : Nonempty Run
          · rcases anyRun with ⟨run⟩
            have agree := law run run steps (List.Perm.refl _)
            rw [mapped run steps (List.Perm.refl _), listed, Fallible.mapM_none_of_mem member
                (none refused run)] at agree
            exact hopeless mapApart (agree_none (agree_symm agree))
          · exact ⟨step, member, fun run => absurd ⟨run⟩ anyRun⟩
    · intro condition first second order same
      rw [mapped first order same, listed]
      rcases condition with impossible | fit | ⟨⟨step, member, hopeless⟩, other, otherMember,
          otherHopeless⟩
      · exact absurd impossible version
      · have congr : order.mapM
          (alone env newProcess injected first (mapIdentity workflowID) state) =
            order.mapM (alone env newProcess injected second (listIdentity workflowID) state) :=
          Fallible.mapM_congr fun step member =>
            (fitting (fit step (same.mem_iff.mp member)) first).trans
              (alone_of_apart listApart (same.mem_iff.mp member) first second)
        rw [congr]
        exact mapM_perm same
      · rw [Fallible.mapM_none_of_mem (same.mem_iff.mpr member) (hopeless first),
          Fallible.mapM_none_of_mem otherMember (otherHopeless second)]
        trivial

end

private def openEnvironment : Environment where
  library := { sha1 := fun _ => "", parseURL := fun _ => none }
  uuid := fun _ => "77b0"
  inputs := fun _ _ _ => .ok ()
  outputs := fun _ _ _ => .ok ()
  baseCommand := fun _ => .ok ()
  arguments := fun _ _ => .ok ()
  stepOut := fun _ _ => .ok ()
  decode := fun _ _ _ => .ok ()
  decodeStep := fun _ _ => .ok ()

private theorem openEnvironment_ignores : IgnoresID openEnvironment :=
  fun _ _ _ => rfl

/-- `NewProcess` on the name of an object and on an embedded tool. -/
private def searchTool (call : ProcessCall) : Parse Process :=
  match call.tree with
  | .text name => fun state =>
      match state.objects.lookup name with
      | some (.process process) => some (.ok process, state)
      | _ => refuse "(NewProcess) not found" state
  | .strMap fields => newCommandLineTool openEnvironment fields call.parentID "" call.injected
  | _ => refuse "(NewProcess) type unknown"

private def knownTool : Process :=
  .mk .commandLineTool "#tool" "v1.0" [] []

/-- A context that knows a tool. -/
private def toolContext : State where
  version := "v1.0"
  objects := [("#tool", .process knownTool)]

private def toolStep (own : Bool) : NamedStep where
  name := "sort"
  named := by decide
  body := [("run", .text "#tool")]
  noID := rfl
  own := own
  stringKeys := true

/-- A step that brings a tool along. -/
private def embeddingStep : NamedStep where
  name := "first"
  named := by decide
  body := [("run", .strMap [("id", .text "#other"), ("outputs", .list [])])]
  noID := rfl
  own := false
  stringKeys := true

/-- A step that runs the tool of the other one. -/
private def borrowingStep : NamedStep where
  name := "second"
  named := by decide
  body := [("run", .text "#other")]
  noID := rfl
  own := false
  stringKeys := true

private def sourceBody : InputBody where
  fields := [("source", .text "#main/file")]
  spelt := by
    intro field member key inside fits
    cases List.mem_singleton.mp inside
    unfold stepInputStruct at member
    simp only [List.mem_cons, List.not_mem_nil, or_false] at member
    rcases member with rfl | rfl | rfl | rfl | rfl | rfl | rfl <;>
        first | rfl | exact absurd fits (by decide)
  noID := rfl
  sources := trivial

private def fileInput (form : InputForm) : NamedInput where
  name := "file"
  named := by decide
  form := form
  stringKeys := true

/-- A step on its own is apart from the others. -/
private theorem single_apart (identity : NamedStep -> Except Failure String) (step : NamedStep) :
    Apart (fun _ : Unit => openEnvironment) (fun _ => searchTool) [] toolContext
        [step] identity := by
  intro run before other after same made left read again
  have single := same.length_eq
  rw [List.length_append, List.length_cons, List.length_singleton] at single
  have none : before = [] := List.length_eq_zero_iff.mp (by omega)
  subst none
  cases read
  rfl

end MapForms
end Cwl
end Awe
