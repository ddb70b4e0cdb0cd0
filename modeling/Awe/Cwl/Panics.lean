import Awe.Cwl.CallSizes

namespace Awe
namespace Cwl
namespace Panics

open Lib Lib.Path Lib.Calls Natives Cwl.Types Requirements Calls

/-!
# Where parsing panics

A call of a parser panics exactly if it reaches a faulty call.  That follows from
one fact about each parser: it panics if it is faulty itself, or if one of the
calls that it makes does.  The calls get smaller, so the search for the culprit
ends.
-/

def IsPanic : Failure -> Prop
  | .panic _ => True
  | .error _ => False

@[simp] theorem isPanic_panic {text : String} : IsPanic (.panic text) ↔ True :=
  Iff.rfl

@[simp] theorem isPanic_error {text : String} : IsPanic (.error text) ↔ False :=
  Iff.rfl

@[simp] theorem panics_wrap {A : Type} {caller : String} {result : Except Failure A} :
    FailsWith IsPanic (wrap caller result) ↔ FailsWith IsPanic result := by
  cases result with
  | ok value => exact Iff.rfl
  | error failure => cases failure <;> simp [wrap]

@[simp] theorem panics_forget {A : Type} {result : Except Failure A} :
    FailsWith IsPanic (forget result) ↔ FailsWith IsPanic result :=
  failsWith_map

@[simp] theorem forget_ok {A : Type} {value : A} : forget (.ok value) = .ok () :=
  rfl

@[simp] theorem forget_error {A : Type} {failure : Failure} :
    forget (.error failure : Except Failure A) = .error failure :=
  rfl

@[simp] theorem forget_eq_ok {A : Type} {result : Except Failure A} :
    forget result = .ok () ↔ Exists fun value => result = .ok value := by
  cases result <;> simp [forget, Except.map]

section

variable {library : Library} {yaml : Yaml} {left : Leaving} {context : Context}

variable (library yaml) in
/-- One of the calls panics, those before it having returned. A panic needs the calls before it to
have returned, or it would never be reached. -/
def Fires (calls : List Call) : Prop :=
  FailsWith IsPanic (calls.forM (run library yaml))

@[simp] theorem fires_nil : Fires library yaml [] ↔ False :=
  failsWith_ok

@[simp] theorem fires_cons {call : Call} {rest : List Call} : Fires library yaml (call :: rest) ↔
    FailsWith IsPanic (run library yaml call) ∨
    (run library yaml call = .ok () ∧ Fires library yaml rest) :=
  failsWith_forM_cons

theorem fires_map {A : Type} {list : List A} {calls : A -> Call} :
    Fires library yaml (list.map calls) ↔
    FailsWith IsPanic (list.forM fun value => run library yaml (calls value)) := by
  induction list with
  | nil => simp
  | cons head tail inductionHypothesis =>
      rw [List.map_cons, fires_cons, failsWith_forM_cons, inductionHypothesis]

/-- A loop that makes one call in each round. -/
theorem panics_mapM {A B : Type} {list : List A} {calls : A -> Call} {round : A -> Except Failure B}
    (returns : forall value, (Exists fun result => round value = .ok result) ↔
    run library yaml (calls value) = .ok ())
    (panics : forall value, FailsWith IsPanic (round value) ↔
    FailsWith IsPanic (run library yaml (calls value))) :
    FailsWith IsPanic (list.mapM round) ↔ Fires library yaml (list.map calls) := by
  rw [fires_map]
  exact failsWith_mapM_congr (fun value _ => returns value) fun value _ => panics value

theorem panics_forM {A : Type} {list : List A} {calls : A -> Call}
    {round : A -> Except Failure Unit}
    (returns : forall value, round value = .ok () ↔ run library yaml (calls value) = .ok ())
    (panics : forall value, FailsWith IsPanic (round value) ↔
    FailsWith IsPanic (run library yaml (calls value))) :
    FailsWith IsPanic (list.forM round) ↔ Fires library yaml (list.map calls) := by
  rw [fires_map]
  exact failsWith_forM_congr (fun value _ => returns value) fun value _ => panics value

theorem panics_stringKeys {A : Type} {entries : List (Tree × A)} :
    FailsWith IsPanic (stringKeys entries) ↔
    Exists fun entry => entry ∈ entries ∧ isText entry.1 = false := by
  induction entries with
  | nil => simp [stringKeys]
  | cons entry rest inductionHypothesis =>
      rcases entry with ⟨key, value⟩
      cases key with
      | text key => simp [stringKeys, inductionHypothesis, isText]
      | _ => simp [stringKeys, isText]

theorem panics_checkImport {fields : List (String × Tree)} :
    FailsWith IsPanic (checkImport context (fields.lookup "$import")) ↔
    LostImport context fields := by
  unfold LostImport
  cases found : fields.lookup "$import" with
  | none => simp [checkImport]
  | some tree =>
      cases tree with
      | text path =>
          simp only [checkImport, Option.some.injEq, Tree.text.injEq]
          by_cases local' : hasPrefix path "#" = true
          · cases context with
            | inDirectory emptyFiles schemata =>
                by_cases empty : trimPrefix path "#" ∈ emptyFiles <;>
                    simp [local', Unreadable, empty]
            | _ => simp [local', Unreadable]
          · simp [local']
      | _ => simp [checkImport]

theorem panics_makeStringMap {tree : Tree} :
    FailsWith IsPanic (makeStringMap context tree) ↔ Faulty (.map context tree) := by
  cases tree with
  | anyMap entries => simp [makeStringMap, Faulty, OddKey, panics_stringKeys]
  | strMap fields => simp [makeStringMap, Faulty, panics_checkImport]
  | _ => simp [makeStringMap, Faulty]

@[simp] theorem panics_run_map {tree : Tree} :
    FailsWith IsPanic (run library yaml (.map context tree)) ↔ Faulty (.map context tree) := by
  rw [run, panics_forget, panics_makeStringMap]

/-- What a parser does after it has opened a tree. -/
theorem fires_map_cons {tree : Tree} {rest : List Call} :
    Fires library yaml (.map context tree :: rest) ↔
    FailsWith IsPanic (makeStringMap context tree) ∨
      ((Exists fun result => makeStringMap context tree = .ok result) ∧
          Fires library yaml rest) := by
  rw [fires_cons, run, panics_forget, forget_eq_ok]

def IsMap : Tree -> Prop
  | .anyMap _ => True
  | .strMap _ => True
  | _ => False

/-- A tree that is no map is left as it is. -/
theorem makeStringMap_of_not_isMap {tree : Tree} (other : ¬ IsMap tree) :
    makeStringMap context tree = .ok tree := by
  cases tree with
  | anyMap entries => exact absurd trivial other
  | strMap fields => exact absurd trivial other
  | _ => rfl

theorem opened_of_not_isMap {tree : Tree} (other : ¬ IsMap tree) : opened context tree = none := by
  cases tree with
  | anyMap entries => exact absurd trivial other
  | strMap fields => exact absurd trivial other
  | _ => rfl

/-- A map is opened as a map. -/
theorem strMap_of_isMap {tree found : Tree} (isMap : IsMap tree)
    (read : makeStringMap context tree = .ok found) :
    Exists fun fields => found = .strMap fields := by
  rcases makeStringMap_cases read with ⟨_, fields, _, _, same⟩ | rfl
  · exact ⟨fields, same⟩
  · cases found with
    | strMap fields => exact ⟨fields, rfl⟩
    | anyMap entries =>
        rw [makeStringMap] at read
        cases keys : stringKeys entries <;> rw [keys] at read <;> cases read
    | _ => exact isMap.elim

theorem fires_of_not_isMap {tree : Tree} {rest : List Call} (other : ¬ IsMap tree) :
    Fires library yaml (.map context tree :: rest) ↔ Fires library yaml rest := by
  rw [fires_map_cons, makeStringMap_of_not_isMap other]
  simp

/-- A parser that opens a map and goes on with its fields. -/
theorem panics_of_isMap {A : Type} {tree : Tree} {result : Except Failure A}
    {rest : List (String × Tree) -> List Call} (isMap : IsMap tree)
    (refused : forall failure, makeStringMap context tree = .error failure ->
    result = .error failure)
    (goesOn : forall fields, makeStringMap context tree = .ok (.strMap fields) ->
      (FailsWith IsPanic result ↔ Fires library yaml (rest fields))) :
    FailsWith IsPanic result ↔
    Fires library yaml (.map context tree :: ((opened context tree).map rest).getD []) := by
  rw [fires_map_cons]
  cases read : makeStringMap context tree with
  | error failure =>
      rw [refused failure read]
      simp
  | ok found =>
      rcases strMap_of_isMap isMap read with ⟨fields, rfl⟩
      rw [goesOn fields read, opened_eq_some.mpr read]
      simp

/-! ## Values -/

theorem newCWLType_of_refused {tree : Tree} {name : String} {failure : Failure}
    (refused : makeStringMap context tree = .error failure) :
    newCWLType library context tree name = .error failure := by
  cases tree with
  | anyMap entries =>
      rw [makeStringMap] at refused
      rw [newCWLType, stringKeys_childrenOfEntries]
      cases read : stringKeys entries with
      | error other =>
          rw [read] at refused
          cases refused
          rfl
      | ok fields =>
          rw [read] at refused
          cases refused
  | strMap fields =>
      rw [makeStringMap] at refused
      rw [newCWLType]
      cases imported : checkImport context (fields.lookup "$import") with
      | error other =>
          rw [imported] at refused
          cases refused
          rfl
      | ok passed =>
          rw [imported] at refused
          cases refused
  | _ => cases refused

theorem newCWLType_of_opened {tree : Tree} {name : String} {fields : List (String × Tree)}
    (read : makeStringMap context tree = .ok (.strMap fields)) :
    newCWLType library context tree name = ofMap library context name
        (childrenOfFields library context fields) := by
  cases tree with
  | anyMap entries =>
      rw [makeStringMap] at read
      rw [newCWLType, stringKeys_childrenOfEntries]
      cases found : stringKeys entries with
      | error other =>
          rw [found] at read
          cases read
      | ok others =>
          rw [found] at read
          cases read
          rfl
  | strMap others =>
      rw [makeStringMap] at read
      rw [newCWLType]
      cases imported : checkImport context (others.lookup "$import") with
      | error other =>
          rw [imported] at read
          cases read
      | ok passed =>
          rw [imported] at read
          cases read
          rfl
  | _ => cases read

@[simp] theorem panics_fileOrDirectory {caller refused : String} {element : Except Failure Value} :
    FailsWith IsPanic (fileOrDirectory caller refused element) ↔ FailsWith IsPanic element := by
  unfold fileOrDirectory
  rw [<- @panics_wrap Value caller element]
  cases wrap caller element with
  | error failure => exact Iff.rfl
  | ok value =>
      simp only []
      split <;> simp

/-- The loops over secondary files and over a listing. -/
theorem panics_fileOrDirectories {caller refused : String} {elements : List Tree} :
    FailsWith IsPanic ((elementsOf library context (.list elements)).mapM
        (fileOrDirectory caller refused)) ↔
      Fires library yaml (elements.map fun element => .fileOrDirectory context element) := by
  rw [elementsOf, newElements_eq, List.mapM_map]
  apply panics_mapM
  · intro element
    rw [run, forget_eq_ok]
    exact exists_congr fun value =>
        (by rw [Function.comp_apply, fileOrDirectory_eq_ok, fileOrDirectory_eq_ok])
  · intro element
    rw [run, panics_forget, Function.comp_apply, panics_fileOrDirectory, panics_fileOrDirectory]

theorem completeFile_calm {file : FileFields} :
    ¬ FailsWith IsPanic (completeFile library file) := by
  rw [completeFile, failsWith_map, parseLocation]
  split
  · split
    · simp
    · split
      · simp
      · split <;> simp
  · simp

variable {fields : List (String × Tree)}

theorem panics_makeFile :
    FailsWith IsPanic (makeFile library (childrenOfFields library context fields)) ↔
    Fires library yaml (filesOf context (fields.lookup "secondaryFiles")) := by
  have files : FailsWith IsPanic (secondaryFilesOf (childrenOfFields library context fields)) ↔
      Fires library yaml (filesOf context (fields.lookup "secondaryFiles")) := by
    unfold secondaryFilesOf
    rw [lookup_childrenOfFields]
    cases fields.lookup "secondaryFiles" with
    | none => simp [filesOf]
    | some tree =>
        simp only [Option.map_some, panics_wrap, getSecondaryFilesArray, childOf]
        cases tree with
        | list elements => exact panics_fileOrDirectories
        | _ => simp [filesOf, listed]
  rw [<- files, makeFile]
  cases secondaryFilesOf (childrenOfFields library context fields) with
  | error failure => simp
  | ok secondaryFiles =>
      simp only []
      generalize decodesStructIn _ _ (trees (childrenOfFields library context fields)) = fit
      cases fit with
      | true => simp [completeFile_calm]
      | false => simp

theorem panics_newDirectory :
    FailsWith IsPanic (newDirectory library (childrenOfFields library context fields)) ↔
    Fires library yaml (filesOf context (fields.lookup "listing") ++ singleListing context
        (fields.lookup "listing")) := by
  have files : FailsWith IsPanic (listingOf (childrenOfFields library context fields)) ↔
      Fires library yaml
        (filesOf context (fields.lookup "listing") ++ singleListing context
            (fields.lookup "listing")) := by
    unfold listingOf
    rw [lookup_childrenOfFields]
    cases fields.lookup "listing" with
    | none => simp [filesOf, singleListing]
    | some tree =>
        simp only [Option.map_some, panics_wrap, newFDArray, childOf]
        cases tree with
        | list elements =>
            rw [singleListing, List.append_nil]
            exact panics_fileOrDirectories
        | _ => simp [filesOf, listed, singleListing, run]
  rw [<- files, newDirectory]
  cases listingOf (childrenOfFields library context fields) with
  | error failure => simp
  | ok listing =>
      simp only []
      generalize decodesStructIn _ _ (trees (childrenOfFields library context fields)) = fit
      cases fit <;> simp

theorem panics_newRecord {name : String} :
    FailsWith IsPanic (newRecord context name (childrenOfFields library context fields)) ↔
      Fires library yaml (.map context (.strMap fields) :: fields.map fun field =>
          .value context field.2 field.1) := by
  have loop : FailsWith IsPanic
      ((childrenOfFields library context fields).mapM Natives.recordField) ↔
      Fires library yaml (fields.map fun field => .value context field.2 field.1) := by
    rw [childrenOfFields_eq, List.mapM_map]
    apply panics_mapM
    · intro field
      rw [run, forget_eq_ok]
      simp only [Function.comp_apply, Natives.recordField, childOf]
      cases newCWLType library context field.2 field.1 with
      | error failure => cases failure <;> simp [wrap, Except.map]
      | ok value => simp [wrap, Except.map]
    · intro field
      simp [run, Natives.recordField, childOf]
  rw [fires_map_cons, <- loop, makeStringMap, newRecord, trees_childrenOfFields]
  cases checkImport context (fields.lookup "$import") with
  | error failure => simp [Except.map]
  | ok passed =>
      rw [failsWith_map, failsWith_map]
      simp [Except.map]

theorem panics_ofMap {name : String} :
    FailsWith IsPanic (ofMap library context name (childrenOfFields library context fields)) ↔
      Fires library yaml (planOfValue library context fields) := by
  unfold ofMap planOfValue
  rw [trees_childrenOfFields]
  by_cases items : (fields.lookup "items").isSome = true
  · simp [items]
  · simp only [items, Bool.false_eq_true, if_false]
    cases getClassIn (library.visit "Empty" (keys fields)) fields with
    | error text => simp
    | ok className =>
        simp only [panics_wrap, newCWLTypeByClass]
        split
        · rw [panics_wrap]
          exact panics_makeFile
        · split
          · simp
          · split
            · simp
            · split
              · rw [panics_wrap]
                exact panics_newDirectory
              · rw [panics_wrap]
                exact panics_newRecord

theorem panics_value {tree : Tree} {name : String} :
    FailsWith IsPanic (run library yaml (.value context tree name)) ↔
      Fires library yaml (plan library yaml left (.value context tree name)) := by
  rw [run, panics_forget]
  by_cases isMap : IsMap tree
  · have listed : plan library yaml left (.value context tree name) =
        .map context tree :: ((opened context tree).map (planOfValue library context)).getD [] := by
      cases tree with
      | list elements => exact isMap.elim
      | _ => rfl
    rw [listed]
    refine panics_of_isMap isMap (fun failure => newCWLType_of_refused) fun fields read => ?_
    rw [newCWLType_of_opened read]
    exact panics_ofMap
  · cases tree with
    | list elements =>
        rw [plan, fires_of_not_isMap isMap, newCWLType, failsWith_map, panics_wrap, newArray,
            newElements_eq,
          List.mapM_map]
        exact panics_mapM (fun element => by simp [run]) fun element => by simp [run]
    | float64 number => cases number <;>
        simp [newCWLType, plan, fires_of_not_isMap isMap, opened_of_not_isMap isMap]
    | anyMap entries => exact absurd trivial isMap
    | strMap fields => exact absurd trivial isMap
    | _ => simp [newCWLType, plan, fires_of_not_isMap isMap, opened_of_not_isMap isMap]

/-! ## Types -/

theorem panics_typeName {native : String} {role : Role} :
    FailsWith IsPanic (newCWLTypeTypeFromString context native role) ↔
    Faulty (.typeName context native role) := by
  have calm {items : List Schema} : ¬ FailsWith IsPanic (arrayFromString role items) := by
    cases role <;> simp [arrayFromString]
  simp only [newCWLTypeTypeFromString, Faulty, NamesSchema]
  by_cases empty : native = ""
  · simp [empty]
  · by_cases hash : '#' ∈ native.toList
    · simp [empty, hash]
    · by_cases array : hasSuffix (trimSuffix native "?") "[]" = true
      · simp only [empty, hash, array, if_false, if_true]
        cases isValidType (trimSuffix (trimSuffix native "?") "[]") <;> simp [calm]
      · simp only [empty, hash, array, if_false]
        cases isValidType (trimSuffix native "?") with
        | some basic => simp
        | none => cases context <;> simp [empty]

/-- A constructor that checks the map for an import and goes on. -/
theorem panics_after_import {A : Type} {next : Unit -> Except Failure A} {rest : List Call}
    (same : FailsWith IsPanic (next ()) ↔ Fires library yaml rest) :
    FailsWith IsPanic (checkImport context (fields.lookup "$import") >>= next) ↔
      Fires library yaml (.map context (.strMap fields) :: rest) := by
  rw [fires_map_cons, makeStringMap, <- same]
  cases checkImport context (fields.lookup "$import") with
  | error failure => simp [Except.map]
  | ok passed =>
      cases passed
      simp [Except.map, bind, Except.bind]

theorem panics_newCommandLineBinding {tree : Tree} :
    FailsWith IsPanic (newCommandLineBinding context tree) ↔ Faulty (.map context tree) := by
  rw [newCommandLineBinding, failsWith_bind, panics_makeStringMap, or_iff_left]
  rintro ⟨found, _, failed⟩
  cases found with
  | strMap fields =>
      simp only [failsWith_bind, panics_wrap] at failed
      rcases failed with failed | ⟨_, _, failed⟩
      · cases valueFrom : fields.lookup "valueFrom" with
        | none => simp [valueFrom, optionally] at failed
        | some tree => cases tree <;> simp [valueFrom, optionally, newExpression] at failed
      · simp at failed
  | _ => simp at failed

theorem panics_newCommandOutputBinding {tree : Tree} :
    FailsWith IsPanic (newCommandOutputBinding context tree) ↔ Faulty (.map context tree) := by
  have globs {found : Option Tree} : ¬ FailsWith IsPanic (optionally newExpressionArray found) := by
    cases found with
    | none => simp [optionally]
    | some tree =>
        cases tree with
        | list elements =>
            simp only [optionally, newExpressionArray]
            split <;> simp
        | _ => simp [optionally, newExpressionArray]
  have expression {found : Option Tree} : ¬ FailsWith IsPanic (optionally newExpression found) := by
    cases found with
    | none => simp [optionally]
    | some tree => cases tree <;> simp [optionally, newExpression]
  rw [newCommandOutputBinding, failsWith_bind, panics_makeStringMap, or_iff_left]
  rintro ⟨found, _, failed⟩
  cases found with
  | strMap fields =>
      simp only [failsWith_bind, panics_wrap, globs, expression, false_or] at failed
      rcases failed with ⟨_, _, _, _, failed⟩
      simp at failed
  | _ => simp at failed

theorem panics_bindingOf {key caller : String} {parse : Tree -> Except Failure Unit}
    (panics : forall tree, FailsWith IsPanic (parse tree) ↔ Faulty (.map context tree)) :
    FailsWith IsPanic (bindingOf key caller parse (typeChildrenOfFields context fields)) ↔
      Fires library yaml (planOfBinding context key fields) := by
  rw [bindingOf, panics_wrap, typeTrees_typeChildrenOfFields, planOfBinding]
  cases fields.lookup key with
  | none => simp [optionally]
  | some tree => simp [optionally, panics]

theorem panics_items {role : Role} :
    FailsWith IsPanic (run library yaml (.items context fields role)) ↔
      Fires library yaml (plan library yaml left (.items context fields role)) := by
  rw [run, plan, panics_forget, newArraySchemaFromMap, lookup_typeChildrenOfFields]
  cases fields.lookup "items" with
  | none => simp
  | some tree =>
      simp only [Option.map_some, Option.getD_some, failsWith_bind, panics_wrap, typeChildOf,
          fires_cons, fires_nil, run,
        panics_forget, and_false, or_false, or_iff_left_iff_imp]
      rintro ⟨items, _, failed⟩
      simp at failed

/-- An array schema whose items may not be missing. -/
theorem panics_boundArray {role : Role} {caller bound key : String}
    {parse : Tree -> Except Failure Unit} {schema : List Schema -> Schema}
    (panics : forall tree, FailsWith IsPanic (parse tree) ↔ Faulty (.map context tree)) :
    FailsWith IsPanic (do
      checkImport context ((typeTrees (typeChildrenOfFields context fields)).lookup "$import")
      let items <- wrap caller (newArraySchemaFromMap role (typeChildrenOfFields context fields))
      bindingOf key bound parse (typeChildrenOfFields context fields)
      pure (schema items) : Except Failure Schema) ↔
    Fires library yaml (.map context (.strMap fields) :: .items context fields role ::
      planOfBinding context key fields) := by
  rw [typeTrees_typeChildrenOfFields]
  apply panics_after_import
  rw [fires_cons, run, panics_forget, forget_eq_ok, failsWith_bind, panics_wrap,
      <- @panics_bindingOf _ _ _ _ key bound _ panics]
  simp only [wrap_eq_ok, failsWith_bind, failsWith_pure, and_false, exists_false, or_false,
      exists_and_right]

theorem panics_arrayByRole {role : Role} :
    FailsWith IsPanic (arrayByRole context (typeChildrenOfFields context fields) role) ↔
      Fires library yaml (planOfArray context fields role) := by
  cases role with
  | workflowOutput => simp [arrayByRole, planOfArray]
  | commandOutput =>
      rw [arrayByRole, panics_wrap, newCommandOutputArraySchema, planOfArray,
          typeTrees_typeChildrenOfFields]
      apply panics_after_import
      rw [lookup_typeChildrenOfFields]
      cases fields.lookup "items" with
      | none =>
          simp only [Option.map_none, failsWith_bind, failsWith_pure, false_or, Option.getD_none,
              fires_nil, iff_false]
          rintro ⟨items, _, failed⟩
          simp at failed
      | some tree =>
          simp only [Option.map_some, failsWith_bind, panics_wrap, typeChildOf, Option.getD_some,
              fires_cons, fires_nil, run,
            panics_forget, and_false, or_false, or_iff_left_iff_imp]
          rintro ⟨items, _, failed⟩
          simp at failed
  | input =>
      rw [arrayByRole, panics_wrap]
      exact panics_boundArray fun tree => panics_newCommandLineBinding
  | commandInput =>
      rw [arrayByRole, panics_wrap]
      exact panics_boundArray fun tree => panics_newCommandLineBinding
  | output =>
      rw [arrayByRole, panics_wrap]
      exact panics_boundArray fun tree => panics_newCommandOutputBinding
  | expressionToolOutput =>
      rw [arrayByRole, panics_wrap]
      exact panics_boundArray fun tree => panics_newCommandOutputBinding

@[simp] theorem panics_asText {refused : String} {found : Option Tree} :
    FailsWith IsPanic (asText refused found) ↔ False := by
  cases found with
  | none => simp [asText]
  | some tree => cases tree <;> simp [asText]

theorem asText_returns {refused : String} {found : Option Tree} :
    (Exists fun text => asText refused found = .ok text) ↔ isTextual found = true := by
  cases found with
  | none => simp [asText, isTextual]
  | some tree => cases tree <;> simp [asText, isTextual, isText]

/-- What comes after a check that a field is a text. -/
theorem panics_after_text {A : Type} {refused : String} {found : Option Tree}
    {next : Except Failure A} :
    FailsWith IsPanic (asText refused found >>= fun _ => next) ↔ isTextual found = true ∧
    FailsWith IsPanic next := by
  rw [failsWith_bind, panics_asText, false_or, exists_and_right, asText_returns]

theorem panics_newRecordSchema :
    FailsWith IsPanic (newRecordSchema (typeChildrenOfFields context fields)) ↔ False := by
  rw [newRecordSchema, panics_after_text, panics_asText, and_false]

theorem newRecordSchema_returns :
    (Exists fun name => newRecordSchema (typeChildrenOfFields context fields) = .ok name) ↔
    (isTextual (fields.lookup "label") && isTextual (fields.lookup "name")) = true := by
  rw [Bool.and_eq_true,
      <- @asText_returns "(NewInputRecordSchemaFromInterface) type error for label",
    <- @asText_returns "(NewInputRecordSchemaFromInterface) type error for name", newRecordSchema,
    typeTrees_typeChildrenOfFields]
  cases asText "(NewInputRecordSchemaFromInterface) type error for label" (fields.lookup "label")
      with
  | error failure => simp [bind, Except.bind]
  | ok label => simp [bind, Except.bind]

/-- A record schema whose fields are parsed in some way. -/
theorem panics_record {missing bound : String} {kind : NamedKind} {named : Except Failure String}
    {parse : TypeChild -> Except Failure Unit} {calls : Tree -> List Call}
    (same : forall name, named = .ok name ↔
    newRecordSchema (typeChildrenOfFields context fields) = .ok name)
    (calm : ¬ FailsWith IsPanic named)
    (panics : forall tree, FailsWith IsPanic (parse (typeChildOf context tree)) ↔
    Fires library yaml (calls tree)) :
    FailsWith IsPanic (do
      checkImport context ((typeTrees (typeChildrenOfFields context fields)).lookup "$import")
      let name <- named
      match (typeChildrenOfFields context fields).lookup "fields" with
      | none => .error (.error missing)
      | some child =>
          wrap bound (parse child)
          pure (.record kind name) : Except Failure Schema) ↔
    Fires library yaml (.map context (.strMap fields) ::
      if isTextual (fields.lookup "label") && isTextual (fields.lookup "name") then
        ((fields.lookup "fields").map calls).getD [] else []) := by
  rw [typeTrees_typeChildrenOfFields]
  apply panics_after_import
  rw [failsWith_bind, lookup_typeChildrenOfFields]
  simp only [calm, false_or, same]
  by_cases textual : (isTextual (fields.lookup "label") && isTextual (fields.lookup "name")) = true
  · rcases newRecordSchema_returns.mpr textual with ⟨name, returned⟩
    rw [if_pos textual, returned]
    cases fields.lookup "fields" with
    | none => simp
    | some tree => simp [panics]
  · have refused : forall name, newRecordSchema (typeChildrenOfFields context fields) ≠ .ok name :=
      fun name returned => textual (newRecordSchema_returns.mp ⟨name, returned⟩)
    rw [if_neg textual]
    simp [refused]

/-- The fields of a record that takes them from a list only. -/
def listPlan (context : Context) (role : RecordRole) : Tree -> List Call
  | .list elements => [.fields context (.list elements) role]
  | _ => []

theorem panics_recordByRole {role : Role} :
    FailsWith IsPanic (recordByRole context (typeChildrenOfFields context fields) role) ↔
      Fires library yaml (planOfRecord context fields role) := by
  have inputs {role : RecordRole} (tree : Tree) :
      FailsWith IsPanic ((typeChildOf context tree).fields role) ↔
      Fires library yaml [.fields context tree role] := by
    simp [typeChildOf, run]
  have outputs {caller : String} {role : RecordRole} (tree : Tree) :
      FailsWith IsPanic (listedFields caller role (typeChildOf context tree)) ↔
        Fires library yaml (listPlan context role tree) := by
    cases tree with
    | list elements => exact inputs _
    | _ => simp [listedFields, typeChildOf, listPlan]
  have listed {role : RecordRole} : planOfListedFields context fields role =
      if isTextual (fields.lookup "label") && isTextual (fields.lookup "name") then
        ((fields.lookup "fields").map (listPlan context role)).getD [] else [] := by
    unfold planOfListedFields planOfRecordFields
    cases fields.lookup "fields" with
    | none => simp
    | some tree => cases tree <;> simp [listPlan]
  have calm {caller : String} :
      ¬ FailsWith IsPanic (wrap caller
          (newRecordSchema (typeChildrenOfFields context fields))) := by
    rw [panics_wrap, panics_newRecordSchema]
    exact id
  cases role with
  | workflowOutput => simp [recordByRole, planOfRecord]
  | input =>
      rw [recordByRole, panics_wrap]
      exact panics_record (fun _ => wrap_eq_ok) calm inputs
  | commandInput =>
      rw [recordByRole, panics_wrap]
      exact panics_record (fun _ => wrap_eq_ok) calm inputs
  | output =>
      rw [recordByRole, panics_wrap, planOfRecord, listed]
      exact panics_record (fun _ => wrap_eq_ok) calm outputs
  | expressionToolOutput =>
      rw [recordByRole, panics_wrap, planOfRecord, listed]
      exact panics_record (fun _ => wrap_eq_ok) calm outputs
  | commandOutput =>
      rw [recordByRole, panics_wrap, planOfRecord, listed]
      exact panics_record (fun _ => Iff.rfl) (fun failed => panics_newRecordSchema.mp failed)
          outputs

theorem panics_enumByRole {role : Role} :
    FailsWith IsPanic (enumByRole context (typeChildrenOfFields context fields) role) ↔
      Fires library yaml (planOfEnum context fields role) := by
  have bound {caller : String} {kind : NamedKind} :
      FailsWith IsPanic (newBoundEnumSchema context (typeChildrenOfFields context fields)
          caller kind) ↔
        Fires library yaml (.map context (.strMap fields) ::
          if decodesStruct enumStruct fields then planOfBinding context "inputBinding" fields
              else []) := by
    rw [newBoundEnumSchema, typeTrees_typeChildrenOfFields]
    apply panics_after_import
    by_cases fit : decodesStruct enumStruct fields = true
    · rw [if_pos fit, if_pos fit, failsWith_bind]
      simp only [failsWith_pure, and_false, exists_false, or_false]
      exact panics_bindingOf fun tree => panics_newCommandLineBinding
    · rw [if_neg fit, if_neg fit]
      simp
  have output : FailsWith IsPanic
      (newOutputEnumSchema context (typeChildrenOfFields context fields)) ↔
      Fires library yaml [.map context (.strMap fields)] := by
    rw [newOutputEnumSchema, typeTrees_typeChildrenOfFields]
    apply panics_after_import
    simp
  cases role with
  | input =>
      rw [enumByRole, panics_wrap]
      exact bound
  | commandInput =>
      rw [enumByRole, panics_wrap]
      exact bound
  | output =>
      rw [enumByRole, panics_wrap]
      exact output
  | expressionToolOutput =>
      rw [enumByRole, panics_wrap]
      exact output
  | commandOutput => simp [enumByRole, planOfEnum]
  | workflowOutput => simp [enumByRole, planOfEnum]

theorem objectTypeOf_eq : objectTypeOf (typeChildrenOfFields context fields) =
    if isTextual (fields.lookup "type") then .ok (objectType fields)
    else .error (.panic "invalid memory address or nil pointer dereference") := by
  rw [objectTypeOf, typeTrees_typeChildrenOfFields, objectType]
  cases fields.lookup "type" with
  | none => simp [isTextual]
  | some tree => cases tree <;> simp [isTextual, isText, textOf]

theorem assertID_eq : assertID (typeChildrenOfFields context fields) =
    if isTextual (fields.lookup "id") then .ok ()
    else .error (.panic "interface conversion: interface {} is not string") := by
  rw [assertID, typeTrees_typeChildrenOfFields]
  cases fields.lookup "id" with
  | none => simp [isTextual]
  | some tree => cases tree <;> simp [isTextual, isText]

theorem panics_schema {role : Role} :
    FailsWith IsPanic (schemaOfMap context (typeChildrenOfFields context fields) role) ↔
      Faulty (.schema context fields role) ∨
          Fires library yaml (planOfSchema context fields role) := by
  unfold schemaOfMap planOfSchema Faulty
  rw [objectTypeOf_eq, assertID_eq]
  by_cases text : isTextual (fields.lookup "type") = true
  · by_cases id : isTextual (fields.lookup "id") = true
    · simp only [text, id, if_true, Bool.and_self, Bool.true_eq_false, or_self, false_or,
        bind, Except.bind]
      by_cases empty : objectType fields = ""
      · simp [empty]
      · simp only [empty, if_false]
        split
        · rw [failsWith_map, panics_arrayByRole]
        · split
          · rw [failsWith_map, panics_recordByRole]
          · split
            · rw [failsWith_map, panics_enumByRole]
            · simp
    · simp [text, id, bind, Except.bind]
  · simp [text, bind, Except.bind]

/-! ### The recursion -/

/-- A parser of types or fields goes on with the fields of a map in the same way,
whichever form the map has. -/
theorem parser_of_isMap {A : Type} (parser : Tree -> Except Failure A)
    (next : List (String × TypeChild) -> Except Failure A)
    (anyKeys : forall entries, parser (.anyMap entries) =
    (stringKeys (typeChildrenOfEntries context entries) >>= next))
    (strKeys : forall fields, parser (.strMap fields) =
      (checkImport context (fields.lookup "$import") >>= fun _ =>
      next (typeChildrenOfFields context fields)))
    {tree : Tree} (isMap : IsMap tree) :
    (forall failure, makeStringMap context tree = .error failure -> parser tree = .error failure) ∧
      forall fields, makeStringMap context tree = .ok (.strMap fields) ->
        parser tree = next (typeChildrenOfFields context fields) := by
  cases tree with
  | anyMap entries =>
      rw [makeStringMap, anyKeys, stringKeys_typeChildrenOfEntries]
      cases stringKeys entries with
      | error failure => simp [Except.map, bind, Except.bind]
      | ok fields => simp [Except.map, bind, Except.bind]
  | strMap fields =>
      rw [makeStringMap, strKeys]
      cases checkImport context (fields.lookup "$import") with
      | error failure => simp [Except.map, bind, Except.bind]
      | ok passed => simp [Except.map, bind, Except.bind]
  | _ => exact isMap.elim

/-- A parser that opens a map in this way panics while opening it, or afterwards. -/
theorem panics_of_next {A : Type} (parser : Tree -> Except Failure A)
    (next : List (String × TypeChild) -> Except Failure A)
    {rest : List (String × Tree) -> List Call}
    (anyKeys : forall entries, parser (.anyMap entries) =
    (stringKeys (typeChildrenOfEntries context entries) >>= next))
    (strKeys : forall fields, parser (.strMap fields) =
      (checkImport context (fields.lookup "$import") >>= fun _ =>
      next (typeChildrenOfFields context fields)))
    (goesOn : forall fields, FailsWith IsPanic (next (typeChildrenOfFields context fields)) ↔
      Fires library yaml (rest fields)) {tree : Tree} (isMap : IsMap tree) :
    FailsWith IsPanic (parser tree) ↔
      Fires library yaml (.map context tree :: ((opened context tree).map rest).getD []) := by
  have both := parser_of_isMap parser next anyKeys strKeys isMap
  refine panics_of_isMap isMap both.1 fun fields read => ?_
  rw [both.2 fields read]
  exact goesOn fields

theorem panics_alternatives {elements : List Tree} {role : Role} :
    FailsWith IsPanic (alternatives (elementTypes context elements) role) ↔
      Fires library yaml (elements.map fun element => .type context element role) := by
  rw [alternatives, failsWith_fmap, elementTypes_eq, List.mapM_map]
  exact panics_mapM (fun element => by simp [run]) fun element => by simp [run]

theorem panics_types {tree : Tree} {role : Role} :
    FailsWith IsPanic (run library yaml (.types context tree role)) ↔
      Fires library yaml (plan library yaml left (.types context tree role)) := by
  rw [run, panics_forget]
  by_cases isMap : IsMap tree
  · have listed : plan library yaml left (.types context tree role) = .map context tree ::
        ((opened context tree).map fun fields =>
            [Call.map context (.strMap fields), .schema context fields role]).getD [] := by
      cases tree with
      | list elements => exact isMap.elim
      | text native => exact isMap.elim
      | _ => rfl
    rw [listed]
    refine panics_of_next (fun tree => newCWLTypeTypeArray context tree role)
        (fun fields => typesOfMap context fields role)
      (fun entries => by rw [newCWLTypeTypeArray]) (fun fields => by rw [newCWLTypeTypeArray])
          (fun fields => ?_) isMap
    rw [typesOfMap, typeTrees_typeChildrenOfFields]
    apply panics_after_import
    simp [run]
  · cases tree with
    | list elements =>
        rw [plan, fires_of_not_isMap isMap, newCWLTypeTypeArray]
        exact panics_alternatives
    | text native =>
        rw [plan, fires_of_not_isMap isMap, newCWLTypeTypeArray]
        simp [run]
    | anyMap entries => exact absurd trivial isMap
    | strMap fields => exact absurd trivial isMap
    | _ => simp [newCWLTypeTypeArray, plan, fires_of_not_isMap isMap, opened_of_not_isMap isMap]

theorem panics_type {tree : Tree} {role : Role} :
    FailsWith IsPanic (run library yaml (.type context tree role)) ↔
      Fires library yaml (plan library yaml left (.type context tree role)) := by
  rw [run, panics_forget]
  by_cases isMap : IsMap tree
  · have listed : plan library yaml left (.type context tree role) = .map context tree ::
        ((opened context tree).map fun fields => [Call.schema context fields role]).getD [] := by
      cases tree with
      | text native => exact isMap.elim
      | _ => rfl
    rw [listed]
    refine panics_of_next (fun tree => newCWLTypeType context tree role)
        (fun fields => schemaOfMap context fields role)
      (fun entries => by rw [newCWLTypeType]) (fun fields => by rw [newCWLTypeType])
          (fun fields => ?_) isMap
    simp [run]
  · cases tree with
    | text native =>
        rw [plan, fires_of_not_isMap isMap, newCWLTypeType]
        simp [run]
    | anyMap entries => exact absurd trivial isMap
    | strMap fields => exact absurd trivial isMap
    | _ => simp [newCWLTypeType, plan, fires_of_not_isMap isMap, opened_of_not_isMap isMap]

theorem panics_fieldTypes {role : RecordRole} :
    FailsWith IsPanic (run library yaml (.fieldTypes context fields role)) ↔
      Fires library yaml (plan library yaml left (.fieldTypes context fields role)) := by
  rw [run, plan, newRecordField, typeTrees_typeChildrenOfFields, planOfFieldTypes]
  apply panics_after_import
  rw [panics_after_text, panics_after_text, panics_after_text, lookup_typeChildrenOfFields]
  by_cases texts : (isTextual (fields.lookup "name") && isTextual (fields.lookup "label") &&
      isTextual (fields.lookup "doc")) = true
  · rw [if_pos texts]
    simp only [Bool.and_eq_true] at texts
    simp only [texts, true_and]
    cases fields.lookup "type" with
    | none => simp
    | some tree => simp [typeChildOf, run]
  · rw [if_neg texts]
    simp only [Bool.and_eq_true] at texts
    simp only [fires_nil, iff_false]
    rintro ⟨name, label, doc, _⟩
    exact texts ⟨⟨name, label⟩, doc⟩

theorem panics_fieldOfMap {role : RecordRole} :
    FailsWith IsPanic (fieldOfMap context (typeChildrenOfFields context fields) role) ↔
      Fires library yaml (.fieldTypes context fields role :: planOfBinding context
          (bindingKey role) fields) := by
  have bound {caller binder : String} {role : RecordRole} {key : String} {parse : Tree ->
      Except Failure Unit}
      (panics : forall tree, FailsWith IsPanic (parse tree) ↔ Faulty (.map context tree)) :
      FailsWith IsPanic (do
        wrap caller (newRecordField context (typeChildrenOfFields context fields) role)
        bindingOf key binder parse (typeChildrenOfFields context fields) : Except Failure Unit) ↔
      Fires library yaml (.fieldTypes context fields role :: planOfBinding context key fields) := by
    rw [fires_cons, failsWith_bind, panics_wrap, run,
        <- @panics_bindingOf _ _ _ _ key binder _ panics]
    simp only [wrap_eq_ok]
    constructor
    · rintro (failed | ⟨⟨⟩, returned, failed⟩)
      · exact Or.inl failed
      · exact Or.inr ⟨returned, failed⟩
    · rintro (failed | ⟨returned, failed⟩)
      · exact Or.inl failed
      · exact Or.inr ⟨(), returned, failed⟩
  cases role with
  | input => exact bound fun tree => panics_newCommandLineBinding
  | commandInput => exact bound fun tree => panics_newCommandLineBinding
  | output => exact bound fun tree => panics_newCommandOutputBinding
  | commandOutput => exact bound fun tree => panics_newCommandOutputBinding

theorem panics_field {tree : Tree} {role : RecordRole} :
    FailsWith IsPanic (run library yaml (.field context tree role)) ↔
      Fires library yaml (plan library yaml left (.field context tree role)) := by
  rw [run]
  by_cases isMap : IsMap tree
  · have listed : plan library yaml left (.field context tree role) = .map context tree ::
        ((opened context tree).map fun fields =>
          .fieldTypes context fields role :: planOfBinding context (bindingKey role) fields).getD
              [] := by
      cases tree with
      | list elements => exact isMap.elim
      | _ => rfl
    rw [listed]
    exact panics_of_next (fun tree => Types.recordField context tree role)
        (fun fields => fieldOfMap context fields role)
      (fun entries => by rw [Types.recordField]) (fun fields => by rw [Types.recordField])
      (fun fields => panics_fieldOfMap) isMap
  · cases tree with
    | list elements =>
        rw [plan, fires_of_not_isMap isMap, Types.recordField, fieldOfList,
            failsWith_bind, panics_wrap,
          @panics_alternatives library yaml]
        simp
    | anyMap entries => exact absurd trivial isMap
    | strMap fields => exact absurd trivial isMap
    | _ => simp [Types.recordField, plan, fires_of_not_isMap isMap, opened_of_not_isMap isMap]

theorem panics_fields {tree : Tree} {role : RecordRole} :
    FailsWith IsPanic (run library yaml (.fields context tree role)) ↔
      Fires library yaml (plan library yaml left (.fields context tree role)) := by
  rw [run]
  by_cases isMap : IsMap tree
  · have listed : plan library yaml left (.fields context tree role) = .map context tree ::
        ((opened context tree).map fun fields => fields.map fun field =>
            .field context field.2 role).getD [] := by
      cases tree with
      | list elements => exact isMap.elim
      | _ => rfl
    rw [listed]
    refine panics_of_next (fun tree => recordFieldArray context tree role)
      (fun fields => everyField (fields.map fun field => field.2.field) role)
      (fun entries => by rw [recordFieldArray]) (fun fields => by rw [recordFieldArray])
      (fun fields => ?_) isMap
    rw [typeChildrenOfFields_eq, List.map_map, everyField_map]
    exact panics_forM (fun field => Iff.rfl) fun field => Iff.rfl
  · cases tree with
    | list elements =>
        rw [plan, fires_of_not_isMap isMap, recordFieldArray, elementFields_eq, everyField_map]
        exact panics_forM (fun element => Iff.rfl) fun element => Iff.rfl
    | anyMap entries => exact absurd trivial isMap
    | strMap fields => exact absurd trivial isMap
    | _ => simp [recordFieldArray, plan, fires_of_not_isMap isMap, opened_of_not_isMap isMap]

/-! ## Requirements -/

theorem panics_listingFromValue {tree : Tree} :
    FailsWith IsPanic (listingFromValue library context tree) ↔
    Fires library yaml [.value context tree ""] := by
  rw [listingFromValue, failsWith_bind, panics_wrap]
  simp [run]

theorem panics_listing {tree : Tree} :
    FailsWith IsPanic (run library yaml (.listing context tree)) ↔
      Fires library yaml (plan library yaml left (.listing context tree)) := by
  rw [run, plan, fires_map_cons, newListingFromInterface]
  cases makeStringMap context tree with
  | error failure => simp
  | ok found =>
      simp only [failsWith_bind, failsWith_ok, Except.ok.injEq, exists_eq_left', false_or,
          exists_eq', true_and]
      cases found with
      | strMap fields =>
          simp only []
          split
          · simp
          · exact panics_listingFromValue
      | _ => exact panics_listingFromValue

theorem panics_createListing {tree : Tree} :
    FailsWith IsPanic (createListing library context tree) ↔
    Fires library yaml (planOfListing context tree) := by
  cases tree with
  | null => simp [createListing, planOfListing]
  | list elements =>
      rw [createListing, planOfListing]
      exact panics_forM (fun element => by simp [run]) fun element => by simp [run]
  | _ => simp [createListing, planOfListing, run]

theorem panics_decodeRequirement {cls : RequirementClass} {struct : List (String × FieldKind)}
    {tree : Tree} :
    FailsWith IsPanic (decodeRequirement cls struct tree) ↔ False := by
  simp [decodeRequirement]

theorem panics_getEnfDefArray {tree : Tree} :
    FailsWith IsPanic (getEnfDefArray context tree) ↔ Faulty (.map context tree) := by
  rw [getEnfDefArray, failsWith_bind, panics_makeStringMap, or_iff_left]
  rintro ⟨found, _, failed⟩
  cases found <;> simp at failed

/-- A constructor that opens a map and asks for an entry of it. -/
theorem panics_entry {A : Type} {tree : Tree} {key : String} {result : Except Failure A}
    {calls : Tree -> List Call}
    (refused : forall failure, makeStringMap context tree = .error failure ->
      (FailsWith IsPanic result ↔ IsPanic failure))
    (entry : forall fields entry, makeStringMap context tree = .ok (.strMap fields) ->
        fields.lookup key = some entry ->
      (FailsWith IsPanic result ↔ Fires library yaml (calls entry)))
    (other : forall found, makeStringMap context tree = .ok found ->
      (forall fields entry, found = .strMap fields -> fields.lookup key ≠ some entry) ->
      ¬ FailsWith IsPanic result) :
    FailsWith IsPanic result ↔ Fires library yaml (.map context tree ::
      (((opened context tree).bind fun fields => fields.lookup key).map calls).getD []) := by
  rw [fires_map_cons]
  cases read : makeStringMap context tree with
  | error failure =>
      rw [refused failure read]
      simp
  | ok found =>
      simp only [failsWith_ok, false_or, Except.ok.injEq, exists_eq', true_and]
      cases asked : (opened context tree).bind fun fields => fields.lookup key with
      | some tree =>
          rcases Option.bind_eq_some_iff.mp asked with ⟨fields, opens, present⟩
          exact entry fields tree (opened_eq_some.mp opens) present
      | none =>
          refine iff_of_false (other found read ?_) (fun failed => fires_nil.mp failed)
          rintro fields entry rfl present
          rw [opened_eq_some.mpr read, Option.bind_some, present] at asked
          cases asked

theorem panics_newResourceRequirement {tree : Tree} :
    FailsWith IsPanic (newResourceRequirement context tree) ↔
    Fires library yaml [.map context tree] := by
  rw [newResourceRequirement, failsWith_bind, fires_map_cons]
  simp

theorem panics_newEnvVarRequirement {tree : Tree} :
    FailsWith IsPanic (newEnvVarRequirement context tree) ↔ Fires library yaml (.map context tree ::
      (((opened context tree).bind fun fields => fields.lookup "envDef").map fun envDef =>
        [Call.map context envDef]).getD []) := by
  apply panics_entry
  · intro failure refused
    rw [newEnvVarRequirement, refused, failsWith_bind, panics_wrap]
    simp
  · intro fields envDef read present
    rw [newEnvVarRequirement, read, failsWith_bind, panics_wrap]
    simp [present, panics_getEnfDefArray, panics_decodeRequirement]
  · intro found read absent
    rw [newEnvVarRequirement, read, failsWith_bind, panics_wrap]
    cases found with
    | strMap fields =>
        cases present : fields.lookup "envDef" with
        | none => simp [present]
        | some envDef => exact absurd present (absent fields envDef rfl)
    | _ => simp

theorem panics_newInitialWorkDirRequirement {tree : Tree} :
    FailsWith IsPanic (newInitialWorkDirRequirement library context tree) ↔
    Fires library yaml (.map context tree ::
      (((opened context tree).bind fun fields => fields.lookup "listing").map fun listing =>
        planOfListing context listing).getD []) := by
  apply panics_entry
  · intro failure refused
    rw [newInitialWorkDirRequirement, refused, failsWith_bind]
    simp
  · intro fields listing read present
    rw [newInitialWorkDirRequirement, read, failsWith_bind]
    simp only [failsWith_ok, Except.ok.injEq, exists_eq_left', false_or, present,
        failsWith_bind, panics_wrap,
      panics_decodeRequirement, and_false, exists_false, or_false]
    exact panics_createListing
  · intro found read absent
    rw [newInitialWorkDirRequirement, read, failsWith_bind]
    cases found with
    | strMap fields =>
        cases present : fields.lookup "listing" with
        | none => simp [present]
        | some listing => exact absurd present (absent fields listing rfl)
    | _ => simp

theorem panics_newSchemaDefRequirement {tree : Tree} :
    FailsWith IsPanic (newSchemaDefRequirement tree context).1 ↔
      (Exists fun fields => opened context tree = some fields ∧ fields.lookup "types" = none) ∨
      Fires library yaml (.map context tree ::
        (((opened context tree).bind fun fields => fields.lookup "types").map fun types =>
          [Call.types context types .input]).getD []) := by
  by_cases sad : Exists fun fields => opened context tree = some fields ∧
      fields.lookup "types" = none
  · rcases sad with ⟨fields, opens, absent⟩
    refine iff_of_true ?_ (Or.inl ⟨fields, opens, absent⟩)
    simp [newSchemaDefRequirement, opened_eq_some.mp opens, absent]
  · rw [or_iff_right sad]
    apply panics_entry
    · intro failure refused
      simp [newSchemaDefRequirement, refused]
    · intro fields types read present
      simp only [newSchemaDefRequirement, read, present, fires_cons, fires_nil, run, panics_forget,
          and_false, or_false]
      cases newCWLTypeTypeArray context types .input with
      | error failure => simp
      | ok schemata =>
          simp only [failsWith_ok, iff_false]
          split <;> simp
    · intro found read absent
      cases found with
      | strMap fields =>
          cases present : fields.lookup "types" with
          | none => exact absurd ⟨fields, opened_eq_some.mpr read, present⟩ sad
          | some types => exact absurd present (absent fields types rfl)
      | _ => simp [newSchemaDefRequirement, read]

theorem panics_requirement {className : String} {tree : Tree} :
    FailsWith IsPanic (run library yaml (.requirement context className tree)) ↔
      Faulty (.requirement context className tree) ∨
        Fires library yaml (plan library yaml left (.requirement context className tree)) := by
  rw [run, plan, panics_forget, Faulty]
  unfold newRequirement planOfRequirement
  split
  · simp
  · simp [newDockerRequirement, panics_decodeRequirement]
  · simp [newShellCommandRequirement, panics_decodeRequirement]
  · simp only [panics_wrap, String.reduceEq, false_and, false_or, if_true]
    exact panics_newResourceRequirement
  · simp [newInlineJavascriptRequirement, panics_decodeRequirement]
  · simp only [panics_wrap, String.reduceEq, false_and, false_or, if_true, if_false]
    exact panics_newEnvVarRequirement
  · simp [newStepInputExpressionRequirement, panics_decodeRequirement]
  · simp [newShockRequirement]
  · simp only [panics_wrap, String.reduceEq, false_and, false_or, if_true, if_false]
    exact panics_newInitialWorkDirRequirement
  · simp [newScatterFeatureRequirement, panics_decodeRequirement]
  · simp [newMultipleInputFeatureRequirement, panics_decodeRequirement]
  · simp only [panics_wrap, String.reduceEq, true_and, if_true, if_false]
    exact panics_newSchemaDefRequirement
  · simp
  · rename_i notResource _ notEnvVar _ _ notInitialWorkDir _ _ notSchemaDef _
    rw [if_neg notResource, if_neg notEnvVar, if_neg notInitialWorkDir, if_neg notSchemaDef]
    simpa using fun same => absurd same notSchemaDef

theorem panics_requirementObject {tree : Tree} :
    FailsWith IsPanic (run library yaml (.requirementObject context tree)) ↔
      Fires library yaml (plan library yaml left (.requirementObject context tree)) := by
  rw [run, plan, panics_forget, fires_map_cons, newRequirementFromInterface]
  cases read : makeStringMap context tree with
  | error failure => simp
  | ok found =>
      simp only [failsWith_ok, false_or, Except.ok.injEq, exists_eq', true_and]
      cases found with
      | strMap fields =>
          rw [opened_eq_some.mpr read]
          cases classified : getClass fields with
          | error text => simp [classified]
          | ok className => simp [classified, run]
      | _ =>
          have closed : opened context tree = none := by
            unfold opened
            rw [read]
          simp [closed]

theorem run_hint {call : Call} :
    (run library yaml (.hint call) = .ok () ↔ ¬ FailsWith IsPanic (run library yaml call)) ∧
    (FailsWith IsPanic (run library yaml (.hint call)) ↔
        FailsWith IsPanic (run library yaml call)) := by
  rw [run]
  cases run library yaml call with
  | ok returned => simp [passOver]
  | error failure => cases failure <;> simp [passOver]

/-- The loop of `CreateRequirementArray` over calls that are made in the contexts
left by those before them. -/
theorem panics_createAll {A : Type} {optional : Bool} {caller : String}
    {attempt : A -> Context -> Except Failure Requirement × Context} {calls : Context -> A -> Call}
    {planned : List A -> Context -> List Call}
    (runs : forall context value, run library yaml (calls context value) = forget
    (attempt value context).1)
    (plansNil : forall context, planned [] context = [])
    (plansCons : forall value rest context, planned (value :: rest) context =
      attempted optional (calls context value) :: planned rest (attempt value context).2)
    (list : List A) : FailsWith IsPanic (createAll optional caller (list.map attempt) context).1 ↔
      Fires library yaml (planned list context) := by
  induction list generalizing context with
  | nil => simp [createAll, plansNil]
  | cons head tail inductionHypothesis =>
      rw [plansCons, fires_cons, <- @inductionHypothesis (attempt head context).2,
          List.map_cons, createAll]
      have ran := runs context head
      cases tried : attempt head context with
      | mk result next =>
          rw [tried] at ran
          cases result with
          | ok requirement =>
              have hinted := @run_hint library yaml (calls context head)
              cases optional with
              | true => simp [attempted, hinted, ran]
              | false => simp [attempted, ran]
          | error failure =>
              have hinted := @run_hint library yaml (calls context head)
              cases failure with
              | error text => cases optional <;> simp [attempted, hinted, ran]
              | panic text => cases optional <;> simp [attempted, hinted, ran]

/-- What `NewRequirement` leaves. -/
def leaving (library : Library) :
    Leaving := fun context className tree => (newRequirement library className tree context).2

theorem leftByObject_leaving {tree : Tree} : leftByObject (leaving library) context tree =
    (newRequirementFromInterface library tree context).2 := by
  unfold leftByObject opened newRequirementFromInterface
  cases makeStringMap context tree with
  | error failure => rfl
  | ok found =>
      cases found with
      | strMap fields =>
          dsimp only
          cases getClass fields <;> rfl
      | _ => rfl

theorem panics_requirements {tree : Tree} {optional : Bool} :
    FailsWith IsPanic (run library yaml (.requirements context tree optional)) ↔
      Fires library yaml (plan library yaml (leaving library)
          (.requirements context tree optional)) := by
  have entries {fields : List (String × Tree)} {caller : String} :
      FailsWith IsPanic (createAll optional caller
        (fields.map fun field => newRequirement library field.1 field.2) context).1 ↔
      Fires library yaml (planOfEntries (leaving library) optional fields context) :=
    panics_createAll (fun context (field : String × Tree) => rfl) (fun _ => rfl)
        (fun _ _ _ => rfl) fields
  have objects {elements : List Tree} {caller : String} :
      FailsWith IsPanic (createAll optional caller
        (elements.map fun element => newRequirementFromInterface library element) context).1 ↔
      Fires library yaml (planOfObjects (leaving library) optional elements context) :=
    panics_createAll (fun context (element : Tree) => rfl) (fun _ => rfl)
      (fun _ _ _ => by rw [planOfObjects, leftByObject_leaving]) elements
  rw [run, panics_forget]
  by_cases isMap : IsMap tree
  · have listed : plan library yaml (leaving library) (.requirements context tree optional) =
      .map context tree ::
        ((opened context tree).map fun fields => planOfEntries (leaving library) optional fields
            context).getD [] := by
      cases tree with
      | list elements => exact isMap.elim
      | _ => rfl
    rw [listed]
    refine panics_of_isMap isMap (fun failure refused => ?_) fun fields read => ?_
    · rw [createRequirementArray, refused]
    · rw [createRequirementArray, read]
      exact entries
  · cases tree with
    | list elements =>
        rw [plan, fires_of_not_isMap isMap]
        exact objects
    | anyMap entries => exact absurd trivial isMap
    | strMap fields => exact absurd trivial isMap
    | _ => simp [createRequirementArray, makeStringMap, plan, fires_of_not_isMap isMap,
        opened_of_not_isMap isMap]

theorem panics_document {tree : Tree} :
    FailsWith IsPanic (run library yaml (.document context tree)) ↔
      Fires library yaml (plan library yaml left (.document context tree)) := by
  have round {caller name key : String} {tree : Tree} :
      (Exists fun entry : String × Value =>
        ((wrap caller (newCWLType library context tree name)).map fun value => (key, value)) =
            .ok entry) ↔
      run library yaml (.value context tree name) = .ok () := by
    rw [run, forget_eq_ok]
    cases newCWLType library context tree name with
    | error failure => cases failure <;> simp [wrap, Except.map]
    | ok value => simp [wrap, Except.map]
  rw [run, panics_forget]
  by_cases isMap : IsMap tree
  · have listed : plan library yaml left (.document context tree) = .map context tree ::
        ((opened context tree).map fun fields => fields.map fun field =>
            .value context field.2 field.1).getD [] := by
      cases tree with
      | list elements => exact isMap.elim
      | _ => rfl
    rw [listed]
    refine panics_of_isMap isMap (fun failure refused => ?_) fun fields read => ?_
    · rw [newJobDocument, refused]
    · rw [newJobDocument, read]
      exact panics_mapM (fun field => round) fun field => by simp [run]
  · cases tree with
    | list elements =>
        rw [plan, fires_of_not_isMap isMap, newJobDocument]
        exact panics_mapM (fun element => round) fun element => by simp [run]
    | anyMap entries => exact absurd trivial isMap
    | strMap fields => exact absurd trivial isMap
    | _ => simp [newJobDocument, makeStringMap, plan, fires_of_not_isMap isMap,
        opened_of_not_isMap isMap]

theorem panics_job {input : List UInt8} :
    FailsWith IsPanic (run library yaml (.job input)) ↔
      Faulty (.job input) ∨ Fires library yaml (plan library yaml left (.job input)) := by
  rw [run, plan, panics_forget, parseJob, Faulty]
  cases input with
  | nil => simp
  | cons first rest =>
      simp only [List.isEmpty_cons, Bool.false_eq_true, if_false, List.cons_ne_nil, false_or]
      cases jobTree yaml (first :: rest) with
      | none => simp
      | some tree => simp [run]

theorem panics_newNamedCWLType : FailsWith IsPanic (newNamedCWLType library context fields) ↔
    Fires library yaml (planOfNamed context fields) := by
  unfold newNamedCWLType planOfNamed
  cases fields.lookup "value" with
  | none => simp
  | some tree =>
      dsimp only
      rw [fires_map_cons]
      cases makeStringMap context tree with
      | error failure => simp
      | ok value =>
          cases fields.lookup "id" with
          | none => simp [isTextual, textOf, run]
          | some id => cases id <;> simp [isTextual, isText, textOf, run]

theorem panics_named {tree : Tree} : FailsWith IsPanic (run library yaml (.named context tree)) ↔
    Fires library yaml (plan library yaml left (.named context tree)) := by
  rw [run, panics_forget, plan, newNamed]
  by_cases isMap : IsMap tree
  · refine panics_of_isMap isMap (fun failure refused => by rw [refused]) fun fields read => ?_
    rw [read]
    exact panics_newNamedCWLType
  · rw [fires_of_not_isMap isMap, makeStringMap_of_not_isMap isMap, opened_of_not_isMap isMap]
    cases tree with
    | strMap fields => exact absurd trivial isMap
    | _ => simp

theorem panics_results {tree : Tree} :
    FailsWith IsPanic (run library yaml (.results context tree)) ↔
    Fires library yaml (plan library yaml left (.results context tree)) := by
  rw [run, panics_forget, newJobDocumentFromNamedTypes]
  by_cases isMap : IsMap tree
  · have listed : plan library yaml left (.results context tree) = [.map context tree] := by
      cases tree with
      | list elements => exact isMap.elim
      | _ => rfl
    rw [listed, fires_map_cons]
    cases read : makeStringMap context tree with
    | error failure => simp
    | ok found =>
        rcases strMap_of_isMap isMap read with ⟨fields, rfl⟩
        simp
  · rw [makeStringMap_of_not_isMap isMap]
    cases tree with
    | list elements =>
        rw [plan, fires_of_not_isMap isMap]
        exact panics_mapM (fun element => by simp [run]) fun element => by simp [run]
    | anyMap entries => exact absurd trivial isMap
    | strMap fields => exact absurd trivial isMap
    | _ => simp [plan, fires_of_not_isMap isMap]

/-- A call panics by itself, or because one that it makes does. -/
theorem panics_step (call : Call) : FailsWith IsPanic (run library yaml call) ↔
    Faulty call ∨ Fires library yaml (plan library yaml (leaving library) call) := by
  cases call with
  | map context tree => simp [plan]
  | value context tree name => simpa [Faulty] using panics_value
  | fileOrDirectory context tree => simp [Faulty, plan, run]
  | typeName context native role => simp [plan, run, panics_typeName]
  | types context tree role => simpa [Faulty] using panics_types
  | type context tree role => simpa [Faulty] using panics_type
  | schema context fields role =>
      rw [run, panics_forget]
      exact panics_schema
  | items context fields role => simpa [Faulty] using panics_items
  | fieldTypes context fields role => simpa [Faulty] using panics_fieldTypes
  | field context tree role => simpa [Faulty] using panics_field
  | fields context tree role => simpa [Faulty] using panics_fields
  | listing context tree => simpa [Faulty] using panics_listing
  | requirement context className tree => exact panics_requirement
  | requirementObject context tree => simpa [Faulty] using panics_requirementObject
  | hint call => simp [Faulty, plan, run_hint]
  | requirements context tree optional => simpa [Faulty] using panics_requirements
  | document context tree => simpa [Faulty] using panics_document
  | job input => exact panics_job
  | named context tree => simpa [Faulty] using panics_named
  | results context tree => simpa [Faulty] using panics_results

/-- A call panics exactly if it reaches a faulty one through calls that are made after
others have returned. -/
theorem panics_iff_reaches (call : Call) :
    FailsWith IsPanic (run library yaml call) ↔ Exists fun fault =>
    Relation.ReflTransGen (Makes (plan library yaml (leaving library)) fun call =>
        run library yaml call = .ok ())
      call fault ∧ Faulty fault := by
  refine @fails_iff_reaches _ _ _ _ (fun call => FailsWith IsPanic (run library yaml call))
      (size yaml) size_lt_of_mem_plan
    (fun call => ?_) call
  rw [panics_step]
  refine or_congr Iff.rfl ?_
  unfold Fires
  rw [failsWith_forM_iff]
  constructor
  · rintro ⟨before, sub, after, listed, earlier, panicked⟩
    exact ⟨sub, ⟨before, after, listed, earlier⟩, panicked⟩
  · rintro ⟨sub, ⟨before, after, listed, earlier⟩, panicked⟩
    exact ⟨before, sub, after, listed, earlier, panicked⟩

end

end Panics
end Cwl
end Awe
