import Awe.Cwl.Returns

namespace Awe
namespace Cwl
namespace Faults

open Lib Lib.Path Lib.Calls Natives Cwl.Types Requirements Calls Panics Returns

/-!
# What makes a document panic

Whether parsing panics is a property of the document.  `Accepted` says of a call
that what it reads fits, and what the calls that it makes read fits too; by the
lemmas about the single parsers these are the calls that return.  A call is then
`Reaches`ed by another one if the calls that are made before it are accepted, and
the document is `Sound` if no faulty call is reached.  None of this asks what a
parser computes.

Two things need care.  A hint that is refused is passed over, so what is made
before a call may also be a hint that is refused, as long as no fault is reached
from it.  And the types of a `SchemaDefRequirement` are known by name to the
requirements after it, so the context goes from one requirement to the next.
-/

/-- The name of a schema, if it is a record or an enum. -/
def declaredName (context : Context) (tree : Tree) : String :=
  match opened context tree with
  | none => ""
  | some fields =>
      if objectType fields = "record" then textOf (fields.lookup "name")
      else if objectType fields = "enum" then textOf (findField "name" fields)
      else ""

/-- The names of a list of types, or of a single one. -/
def declaredNames (context : Context) : Tree -> List String
  | .list elements => elements.map (declaredName context)
  | tree => [declaredName context tree]

/-- The names that are known after some more have been entered: those before the first
one that is empty or known already. -/
def enterNames : List String -> List String -> List String
  | [], known => known
  | name :: rest, known =>
      if name = "" then known
      else if afterHash name ∈ known then known
      else enterNames rest (known ++ [afterHash name])

def enter (names : List String) : Context -> Context
  | .nil => .nil
  | .of known => .of (enterNames names known)
  | .inDirectory emptyFiles known => .inDirectory emptyFiles (enterNames names known)

/-- Nothing is entered.  The calls below a requirement do not hand a context on, so for
them it does not matter what is entered. -/
def still : Leaving := fun context _ _ => context

section

variable (library : Library) (yaml : Yaml)

/-- What a call reads fits, down to the calls that make no others. It is read off from the
document alone, without running a parser. -/
inductive Accepted : Call -> Prop
  | of_parts {call : Call} (fits : Fits library yaml call)
      (parts : forall sub, sub ∈ plan library yaml still call -> Accepted sub) : Accepted call

/-- A call does not keep those after it from being made.  For a hint it is enough that no
faulty call is reached from it. -/
def Passed : Call -> Prop
  | .hint call => forall fault,
      Relation.ReflTransGen (Makes (plan library yaml still) (Accepted library yaml)) call fault ->
          ¬ Faulty fault
  | call => Accepted library yaml call

open Classical in
/-- What a requirement leaves behind: a `SchemaDefRequirement` whose types are accepted
enters their names, even if it is refused afterwards. -/
noncomputable def declaring : Leaving := fun context className tree =>
  match (opened context tree).bind fun fields => fields.lookup "types" with
  | none => context
  | some types =>
      if className = "SchemaDefRequirement" ∧ Accepted library yaml (.types context types .input)
          then
        enter (declaredNames context types) context
      else context

/-- A call is reached: it is made by a call that is reached, those before it having been
passed. -/
def Reaches : Call -> Call -> Prop :=
  Relation.ReflTransGen (Makes (plan library yaml (declaring library yaml)) (Passed library yaml))

/-- No faulty call is reached. Nothing in it runs a parser: whether a call goes on is a question
about the shape of the parts that are read before. -/
def Sound (call : Call) : Prop :=
  forall fault, Reaches library yaml call fault -> ¬ Faulty fault

end

/-! ## Calls below a requirement -/

/-- Requirements are only made by the caller of the parsers, and hints by requirements. -/
def isPlain : Call -> Bool
  | .hint _ => false
  | .requirements _ _ _ => false
  | _ => true

section
variable {library : Library} {yaml : Yaml} {left : Leaving} {context : Context}

theorem all_plain_map {A : Type} {list : List A} {calls : A -> Call}
    (plain : forall value, isPlain (calls value) = true) :
    (list.map calls).all isPlain = true := by
  rw [List.all_map, List.all_eq_true]
  exact fun value _ => plain value

theorem all_plain_getD {A : Type} {found : Option A} {calls : A -> List Call}
    (plain : forall value, (calls value).all isPlain = true) :
    ((found.map calls).getD []).all isPlain = true := by
  cases found with
  | none => rfl
  | some value => exact plain value

theorem all_plain_binding {key : String} {fields : List (String × Tree)} :
    (planOfBinding context key fields).all isPlain = true :=
  all_plain_getD fun _ => rfl

theorem all_plain_value {fields : List (String × Tree)} :
    (planOfValue library context fields).all isPlain = true := by
  have files {found : Option Tree} : (filesOf context found).all isPlain = true :=
      all_plain_map fun _ => rfl
  have single {found : Option Tree} : (singleListing context found).all isPlain = true := by
    cases found with
    | none => rfl
    | some tree => cases tree <;> rfl
  unfold planOfValue
  split_ifs
  · rfl
  · cases getClassIn (library.visit "Empty" (keys fields)) fields with
    | error text => rfl
    | ok className =>
        dsimp only
        split_ifs
        · exact files
        · rfl
        · rfl
        · rw [List.all_append, files, single]
          rfl
        · exact all_plain_map fun _ => rfl

theorem all_plain_recordFields {fields : List (String × Tree)} {role : RecordRole} :
    (planOfRecordFields context fields role).all isPlain = true := by
  unfold planOfRecordFields
  split_ifs
  · exact all_plain_getD fun _ => rfl
  · rfl

theorem all_plain_listedFields {fields : List (String × Tree)} {role : RecordRole} :
    (planOfListedFields context fields role).all isPlain = true := by
  unfold planOfListedFields
  split
  · exact all_plain_recordFields
  · rfl

theorem all_plain_schema {fields : List (String × Tree)} {role : Role} :
    (planOfSchema context fields role).all isPlain = true := by
  have enum : (Call.map context (.strMap fields) ::
      if decodesStruct enumStruct fields then planOfBinding context "inputBinding" fields else
          []).all isPlain = true := by
    split_ifs
    · exact all_plain_binding
    · rfl
  unfold planOfSchema
  split_ifs
  · cases role <;> first | exact all_plain_binding | exact all_plain_getD fun _ => rfl | rfl
  · cases role <;> first | exact all_plain_recordFields | exact all_plain_listedFields | rfl
  · cases role <;> first | exact enum | rfl
  · rfl
  · rfl

theorem all_plain_requirement {className : String} {tree : Tree} :
    (planOfRequirement context className tree).all isPlain = true := by
  have listing (tree : Tree) : (planOfListing context tree).all isPlain = true := by
    cases tree with
    | null => rfl
    | list elements => exact all_plain_map fun _ => rfl
    | _ => rfl
  unfold planOfRequirement
  split_ifs
  · rfl
  · exact all_plain_getD fun _ => rfl
  · exact all_plain_getD listing
  · exact all_plain_getD fun _ => rfl
  · rfl

theorem all_plain_named {fields : List (String × Tree)} :
    (planOfNamed context fields).all isPlain = true := by
  unfold planOfNamed
  cases fields.lookup "value" with
  | none => rfl
  | some tree =>
      dsimp only
      cases makeStringMap context tree with
      | error failure => rfl
      | ok value =>
          dsimp only
          split_ifs <;> rfl

theorem all_plain_plan {call : Call} (plain : isPlain call = true) :
    (plan library yaml left call).all isPlain = true := by
  cases call with
  | map context tree => rfl
  | value context tree name =>
      cases tree with
      | list elements => exact all_plain_map fun _ => rfl
      | _ => exact all_plain_getD fun _ => all_plain_value
  | fileOrDirectory context tree => rfl
  | typeName context native role => rfl
  | types context tree role =>
      cases tree with
      | list elements => exact all_plain_map fun _ => rfl
      | text native => rfl
      | _ => exact all_plain_getD fun _ => rfl
  | type context tree role =>
      cases tree with
      | text native => rfl
      | _ => exact all_plain_getD fun _ => rfl
  | schema context fields role => exact all_plain_schema
  | items context fields role => exact all_plain_getD fun _ => rfl
  | fieldTypes context fields role =>
      change (planOfFieldTypes context fields role).all isPlain = true
      unfold planOfFieldTypes
      split_ifs
      · exact all_plain_getD fun _ => rfl
      · rfl
  | field context tree role =>
      cases tree with
      | list elements => exact all_plain_map fun _ => rfl
      | _ => exact all_plain_getD fun _ => all_plain_binding
  | fields context tree role =>
      cases tree with
      | list elements => exact all_plain_map fun _ => rfl
      | _ => exact all_plain_getD fun _ => all_plain_map fun _ => rfl
  | listing context tree =>
      rw [plan, List.all_cons]
      cases makeStringMap context tree with
      | error failure => rfl
      | ok made =>
          cases made with
          | strMap fields =>
              dsimp only
              split_ifs <;> rfl
          | _ => rfl
  | requirement context className tree => exact all_plain_requirement
  | requirementObject context tree =>
      refine all_plain_getD fun fields => ?_
      cases getClass fields <;> rfl
  | hint call => cases plain
  | requirements context tree optional => cases plain
  | document context tree =>
      cases tree with
      | list elements => exact all_plain_map fun _ => rfl
      | _ => exact all_plain_getD fun _ => all_plain_map fun _ => rfl
  | job input => exact all_plain_getD fun _ => rfl
  | named context tree => exact all_plain_getD fun _ => all_plain_named
  | results context tree =>
      cases tree with
      | list elements => exact all_plain_map fun _ => rfl
      | _ => rfl


theorem isPlain_of_mem {call sub : Call} (plain : isPlain call = true)
    (made : sub ∈ plan library yaml left call) :
    isPlain sub = true :=
  List.all_eq_true.mp (all_plain_plan plain) sub made

theorem plan_of_plain {other : Leaving} {call : Call} (plain : isPlain call = true) :
    plan library yaml left call = plan library yaml other call := by
  cases call with
  | hint call => cases plain
  | requirements context tree optional => cases plain
  | _ => rfl

/-- The calls that return are the accepted ones. -/
theorem run_iff_accepted {call : Call} (plain : isPlain call = true) :
    run library yaml call = .ok () ↔ Accepted library yaml call := by
  induction size : size yaml call using Nat.strongRecOn generalizing call with
  | ind bound inductionHypothesis =>
      subst size
      have below (sub : Call) (made : sub ∈ plan library yaml still call) :
          run library yaml sub = .ok () ↔ Accepted library yaml sub :=
        inductionHypothesis _ (size_lt_of_mem_plan call sub made) (isPlain_of_mem plain made) rfl
      have counts : ¬ IsHint call := by
        cases call with
        | hint call => cases plain
        | _ => exact id
      rw [returns_step counts, @plan_of_plain library yaml (leaving library) still call plain]
      constructor
      · rintro ⟨fits, parts⟩
        exact .of_parts fits fun sub made => (below sub made).mp (parts sub made)
      · rintro ⟨fits, parts⟩
        exact ⟨fits, fun sub made => (below sub made).mpr (parts sub made)⟩

/-- What is reached from a plain call can be said without running the parsers. -/
theorem panics_iff_of_plain {call : Call} (plain : isPlain call = true) :
    FailsWith IsPanic (run library yaml call) ↔
    Exists fun fault =>
      Relation.ReflTransGen (Makes (plan library yaml still) (Accepted library yaml)) call fault ∧
          Faulty fault := by
  rw [panics_iff_reaches]
  refine exists_congr fun fault => and_congr_left fun _ => ?_
  exact reaches_congr (fun call => isPlain call = true)
      (fun _ _ plain made => isPlain_of_mem plain made)
    (fun _ plain => plan_of_plain plain)
    (fun _ _ plain made => run_iff_accepted (isPlain_of_mem plain made)) plain

/-- A plain call, or a hint of one. -/
def isPart : Call -> Bool
  | .hint call => isPlain call
  | call => isPlain call

theorem isPart_of_isPlain {call : Call} (plain : isPlain call = true) : isPart call = true := by
  cases call with
  | hint call => cases plain
  | _ => exact plain

theorem all_part_requirements {tree : Tree} {optional : Bool} :
    (plan library yaml left (.requirements context tree optional)).all isPart = true := by
  have attempt {call : Call} (plain : isPlain call = true) :
      isPart (attempted optional call) = true := by
    cases optional with
    | true => exact plain
    | false => exact isPart_of_isPlain plain
  have objects (elements : List Tree) (context : Context) :
      (planOfObjects left optional elements context).all isPart = true := by
    induction elements generalizing context with
    | nil => rfl
    | cons element rest inductionHypothesis =>
        rw [planOfObjects, List.all_cons, attempt rfl, inductionHypothesis]
        rfl
  have entries (fields : List (String × Tree)) (context : Context) :
      (planOfEntries left optional fields context).all isPart = true := by
    induction fields generalizing context with
    | nil => rfl
    | cons field rest inductionHypothesis =>
        rw [planOfEntries, List.all_cons, attempt rfl, inductionHypothesis]
        rfl
  have opens : (((opened context tree).map fun fields =>
      planOfEntries left optional fields context).getD []).all isPart = true := by
    cases opened context tree with
    | none => rfl
    | some fields => exact entries fields context
  cases tree with
  | list elements => exact objects elements context
  | _ => exact opens

/-- The calls that the four parsers start with, and what they make. -/
def isProper : Call -> Bool
  | .requirements _ _ _ => true
  | call => isPart call

theorem isPart_of_mem {call sub : Call} (proper : isProper call = true)
    (made : sub ∈ plan library yaml left call) :
    isPart sub = true := by
  cases call with
  | hint call =>
      rcases List.mem_singleton.mp made with rfl
      exact isPart_of_isPlain proper
  | requirements context tree optional => exact List.all_eq_true.mp all_part_requirements sub made
  | _ => exact isPart_of_isPlain (@isPlain_of_mem _ _ _ _ _ rfl made)

theorem isProper_of_isPart {call : Call} (part : isPart call = true) : isProper call = true := by
  cases call with
  | requirements context tree optional => rfl
  | _ => exact part

/-- The calls that do not keep those after them from being made are the ones that return. -/
theorem run_iff_passed {call : Call} (part : isPart call = true) :
    run library yaml call = .ok () ↔ Passed library yaml call := by
  cases call with
  | hint call =>
      rw [run_hint.1, panics_iff_of_plain part, Passed]
      simp only [not_exists, not_and]
  | requirements context tree optional => cases part
  | _ => exact run_iff_accepted part

/-! ## What a requirement leaves -/

theorem addNames_eq (schemata : List Schema) (known : List String) :
    addNames schemata known = enterNames (schemata.map getID) known := by
  induction schemata generalizing known with
  | nil => rfl
  | cons schema rest inductionHypothesis =>
      rw [addNames, List.map_cons, enterNames, inductionHypothesis]

theorem addSchemata_eq (schemata : List Schema) :
    addSchemata schemata context = enter (schemata.map getID) context := by
  cases context with
  | nil => rfl
  | of known => exact congrArg Context.of (addNames_eq schemata known)
  | inDirectory emptyFiles known => exact congrArg (Context.inDirectory emptyFiles) (addNames_eq schemata known)

/-- The types that are made of one element go by one name: either there is just one, or
the first has none, and then those after it are not entered. -/
def GoBy (name : String) (types : List Schema) : Prop :=
  (Exists fun schema => types = [schema] ∧ getID schema = name) ∨
    (Exists fun first => Exists fun rest => types = first :: rest ∧ getID first = "") ∧ name = ""

theorem enterNames_goBy {name : String} {types : List Schema} (goes : GoBy name types)
    {names others : List String}
    (same : forall known, enterNames others known = enterNames names known) (known : List String) :
    enterNames (types.map getID ++ others) known = enterNames (name :: names) known := by
  rcases goes with ⟨schema, rfl, rfl⟩ | ⟨⟨first, rest, rfl, nameless⟩, rfl⟩
  · rw [List.map_singleton, List.singleton_append, enterNames, enterNames, same]
  · rw [List.map_cons, List.cons_append, enterNames, enterNames, if_pos nameless, if_pos rfl]

theorem enterNames_flatten {elements : List Tree} {results : List (List Schema)}
    (every : List.Forall₂ (fun element types => GoBy (declaredName context element) types)
    elements results)
    (known : List String) :
    enterNames (results.flatten.map getID) known = enterNames
        (elements.map (declaredName context)) known := by
  induction every generalizing known with
  | nil => rfl
  | cons here _ inductionHypothesis =>
      rw [List.flatten_cons, List.map_append, List.map_cons]
      exact enterNames_goBy here inductionHypothesis known

theorem array_nameless {fields : List (String × Tree)} {schema : Schema}
    (read : arrayByRole context (typeChildrenOfFields context fields) .input = .ok schema) :
    getID schema = "" := by
  rw [arrayByRole, wrap_eq_ok, newInputArraySchema] at read
  rcases Fallible.bind_ok_iff.mp read with ⟨_, _, afterImport⟩
  rcases Fallible.bind_ok_iff.mp afterImport with ⟨items, _, afterItems⟩
  rcases Fallible.bind_ok_iff.mp afterItems with ⟨_, _, made⟩
  cases made
  rfl

theorem record_name {fields : List (String × Tree)} {schema : Schema}
    (read : recordByRole context (typeChildrenOfFields context fields) .input = .ok schema) :
    getID schema = textOf (fields.lookup "name") := by
  rw [recordByRole, wrap_eq_ok, newInputRecordSchema] at read
  rcases Fallible.bind_ok_iff.mp read with ⟨_, _, afterImport⟩
  rcases Fallible.bind_ok_iff.mp afterImport with ⟨name, named, afterName⟩
  rw [wrap_eq_ok, newRecordSchema, typeTrees_typeChildrenOfFields] at named
  rcases Fallible.bind_ok_iff.mp named with ⟨_, _, asName⟩
  have given : name = textOf (fields.lookup "name") := by
    cases found : fields.lookup "name" with
    | none =>
        rw [found] at asName
        cases asName
        rfl
    | some tree =>
        rw [found] at asName
        cases tree with
        | text native =>
            cases asName
            rfl
        | _ => cases asName
  cases fieldsOf : (typeChildrenOfFields context fields).lookup "fields" with
  | none =>
      rw [fieldsOf] at afterName
      cases afterName
  | some child =>
      rw [fieldsOf] at afterName
      rcases Fallible.bind_ok_iff.mp afterName with ⟨_, _, made⟩
      cases made
      exact given

theorem enum_name {fields : List (String × Tree)} {schema : Schema}
    (read : enumByRole context (typeChildrenOfFields context fields) .input = .ok schema) :
    getID schema = textOf (findField "name" fields) := by
  rw [enumByRole, wrap_eq_ok, newInputEnumSchema, newBoundEnumSchema] at read
  rcases Fallible.bind_ok_iff.mp read with ⟨_, _, afterImport⟩
  split_ifs at afterImport with fit
  rcases Fallible.bind_ok_iff.mp afterImport with ⟨_, _, made⟩
  cases made
  change textOf (findField "name" (typeTrees (typeChildrenOfFields context fields))) = _
  rw [typeTrees_typeChildrenOfFields]

/-- A schema of an input has the name that is declared in the map. -/
theorem schemaOfMap_goBy {fields : List (String × Tree)} {types : List Schema}
    (read : schemaOfMap context (typeChildrenOfFields context fields) .input = .ok types) :
    GoBy (if objectType fields = "record" then textOf (fields.lookup "name")
      else if objectType fields = "enum" then textOf (findField "name" fields) else "") types := by
  have single {result : Except Failure Schema} {name : String}
      (made : (result.map fun schema => [schema]) = .ok types)
      (named : forall schema, result = .ok schema -> getID schema = name) : GoBy name types := by
    rcases map_ok_iff.mp made with ⟨schema, given, rfl⟩
    exact Or.inl ⟨schema, rfl, named schema given⟩
  unfold schemaOfMap at read
  rw [objectTypeOf_eq] at read
  rcases Fallible.bind_ok_iff.mp read with ⟨found, typed, rest⟩
  rcases Fallible.bind_ok_iff.mp rest with ⟨_, _, chosen⟩
  have same : found = objectType fields := by
    split_ifs at typed
    exact (Except.ok.inj typed).symm
  subst same
  by_cases array : objectType fields = "array"
  · rw [array, if_neg (by decide), if_pos rfl] at chosen
    rw [array, if_neg (by decide), if_neg (by decide)]
    exact single chosen fun schema => array_nameless
  · by_cases record : objectType fields = "record"
    · rw [record, if_neg (by decide), if_neg (by decide), if_pos rfl] at chosen
      rw [record, if_pos rfl]
      exact single chosen fun schema => record_name
    · by_cases enum : objectType fields = "enum"
      · rw [enum, if_neg (by decide), if_neg (by decide), if_neg (by decide), if_pos rfl] at chosen
        rw [enum, if_neg (by decide), if_pos rfl]
        exact single chosen fun schema => enum_name
      · rw [if_neg array, if_neg record, if_neg enum] at chosen
        split_ifs at chosen

theorem type_goBy {element : Tree} {types : List Schema}
    (read : newCWLTypeType context element .input = .ok types) :
    GoBy (declaredName context element) types := by
  unfold declaredName
  by_cases isMap : IsMap element
  · have both := parser_of_isMap (fun tree => newCWLTypeType context tree .input)
      (fun children => schemaOfMap context children .input) (fun entries => by rw [newCWLTypeType])
      (fun fields => by rw [newCWLTypeType]) isMap
    cases opens : makeStringMap context element with
    | error failure =>
        rw [both.1 failure opens] at read
        cases read
    | ok found =>
        rcases strMap_of_isMap isMap opens with ⟨fields, rfl⟩
        rw [both.2 fields opens] at read
        rw [opened_eq_some.mpr opens]
        exact schemaOfMap_goBy read
  · rw [opened_of_not_isMap isMap]
    cases element with
    | anyMap entries => exact absurd trivial isMap
    | strMap fields => exact absurd trivial isMap
    | text native =>
        rw [newCWLTypeType, wrap_eq_ok] at read
        exact Or.inr ⟨typeFromString_nameless read, rfl⟩
    | _ => simp [newCWLTypeType] at read

theorem types_enter {tree : Tree} {types : List Schema}
    (read : newCWLTypeTypeArray context tree .input = .ok types) :
    addSchemata types context = enter (declaredNames context tree) context := by
  have one {name : String} (goes : GoBy name types) :
      addSchemata types context = enter [name] context := by
    rw [addSchemata_eq]
    have same : forall known, enterNames (types.map getID) known = enterNames [name] known := by
      intro known
      rw [<- List.append_nil (types.map getID)]
      exact enterNames_goBy goes (fun _ => rfl) known
    cases context with
    | nil => rfl
    | of known => exact congrArg Context.of (same known)
    | inDirectory emptyFiles known => exact congrArg (Context.inDirectory emptyFiles) (same known)
  by_cases isMap : IsMap tree
  · have both := parser_of_isMap (fun tree => newCWLTypeTypeArray context tree .input)
      (fun children => typesOfMap context children .input) (fun entries => by rw [newCWLTypeTypeArray])
      (fun fields => by rw [newCWLTypeTypeArray]) isMap
    have names : declaredNames context tree = [declaredName context tree] := by
      cases tree with
      | list elements => exact isMap.elim
      | _ => rfl
    cases opens : makeStringMap context tree with
    | error failure =>
        rw [both.1 failure opens] at read
        cases read
    | ok found =>
        rcases strMap_of_isMap isMap opens with ⟨fields, rfl⟩
        rw [both.2 fields opens, typesOfMap] at read
        rcases Fallible.bind_ok_iff.mp read with ⟨_, _, made⟩
        rw [names, declaredName, opened_eq_some.mpr opens]
        exact one (schemaOfMap_goBy (wrap_eq_ok.mp made))
  · cases tree with
    | anyMap entries => exact absurd trivial isMap
    | strMap fields => exact absurd trivial isMap
    | text native =>
        rw [newCWLTypeTypeArray] at read
        exact one (Or.inr ⟨typeFromString_nameless read, rfl⟩)
    | list elements =>
        rw [newCWLTypeTypeArray, alternatives, elementTypes_eq, List.mapM_map] at read
        rcases map_ok_iff.mp read with ⟨results, made, rfl⟩
        have every : List.Forall₂ (fun element found => GoBy (declaredName context element) found)
            elements results :=
          (Fallible.mapM_ok_iff.mp made).imp fun _ _ => type_goBy
        rw [addSchemata_eq]
        cases context with
        | nil => rfl
        | of known => exact congrArg Context.of (enterNames_flatten every known)
        | inDirectory emptyFiles known => exact congrArg (Context.inDirectory emptyFiles) (enterNames_flatten every known)
    | _ => simp [newCWLTypeTypeArray] at read

/-- What is declared is what `NewRequirement` leaves. -/
theorem declaring_eq_leaving : declaring library yaml = leaving library := by
  funext context className tree
  have accepted (types : Tree) : Accepted library yaml (.types context types .input) ↔
      Succeeds (newCWLTypeTypeArray context types .input) := by
    rw [<- run_iff_accepted rfl, run, forget_succeeds]
  unfold declaring leaving
  by_cases schemaDef : className = "SchemaDefRequirement"
  · subst schemaDef
    change _ = (newSchemaDefRequirement tree context).2
    unfold newSchemaDefRequirement opened
    cases makeStringMap context tree with
    | error failure => rfl
    | ok found =>
        cases found with
        | strMap fields =>
            dsimp only [Option.bind_some]
            cases fields.lookup "types" with
            | none => rfl
            | some types =>
                dsimp only
                cases read : newCWLTypeTypeArray context types .input with
                | error failure =>
                    refine if_neg fun both => ?_
                    rw [accepted, read] at both
                    exact succeeds_error.mp both.2
                | ok schemata =>
                    rw [if_pos ⟨rfl, (accepted types).mpr ⟨schemata, read⟩⟩, <- types_enter read]
                    dsimp only
                    split_ifs <;> rfl
        | _ => rfl
  · have same : (newRequirement library className tree context).2 = context := by
      unfold newRequirement
      split
      all_goals first | rfl | exact absurd rfl schemaDef
    rw [same]
    simp only [schemaDef, false_and, if_false]
    split <;> rfl

/-- A call that the parsers are started with panics exactly if a faulty call is reached
from it. -/
theorem panics_iff_reached {call : Call} (proper : isProper call = true) :
    FailsWith IsPanic (run library yaml call) ↔
    Exists fun fault => Reaches library yaml call fault ∧ Faulty fault := by
  rw [panics_iff_reaches]
  unfold Reaches
  rw [declaring_eq_leaving]
  refine exists_congr fun fault => and_congr_left fun _ => ?_
  exact reaches_congr (fun call => isProper call = true)
    (fun _ _ proper made => isProper_of_isPart (isPart_of_mem proper made)) (fun _ _ => rfl)
    (fun _ _ proper made => run_iff_passed (isPart_of_mem proper made)) proper

/-- A result that is a value or an error. Only a panic is not; it would end the goroutine that has
called the parser. -/
def Calm {A : Type} (result : Except Failure A) : Prop :=
  forall text, result ≠ .error (.panic text)

theorem calm_iff {A : Type} {result : Except Failure A} :
    Calm result ↔ ¬ FailsWith IsPanic result := by
  cases result with
  | ok value => simp [Calm]
  | error failure => cases failure <;> simp [Calm]

theorem calm_iff_sound {A : Type} {result : Except Failure A} {call : Call}
    (proper : isProper call = true)
    (same : FailsWith IsPanic result ↔ FailsWith IsPanic (run library yaml call)) :
    Calm result ↔ Sound library yaml call := by
  rw [calm_iff, same, panics_iff_reached proper, Sound]
  constructor
  · intro none fault reached faulty
    exact none ⟨fault, reached, faulty⟩
  · rintro sound ⟨fault, reached, faulty⟩
    exact sound fault reached faulty

end

/-- `NewJob_documentFromNamedTypes` on the results of a workunit. -/
theorem results_calm_iff_sound (library : Library) (yaml : Yaml) (context : Context) (tree : Tree) :
    Calm (newJobDocumentFromNamedTypes library context tree) ↔
    Sound library yaml (.results context tree) :=
  calm_iff_sound rfl panics_forget.symm

private def emptyYaml : Yaml where
  list := fun _ => some []
  map := fun _ => some []

private def plainLibrary : Library where
  sha1 := fun _ => "da39a3ee5e6b4b0d3255bfef95601890afd80709"
  parseURL := fun text => some ⟨"", text⟩

end Faults
end Cwl
end Awe
