import Awe.Cwl.Panics

namespace Awe
namespace Cwl
namespace Returns

open Lib Lib.Path Lib.Calls Natives Cwl.Types Requirements Calls Panics

/-!
# Where parsing returns

A call of a parser returns a value exactly if the calls that it makes do and the
rest of what it reads has the shape that `Fits` describes.  This is the other
half of what has to be known of each parser: whether one of its calls is made at
all depends on those before it having returned, and by these lemmas that is a
matter of the tree.
-/

section

variable {library : Library} {yaml : Yaml} {left : Leaving} {context : Context}

variable (library yaml) in
/-- All of the calls return. -/
def Return (calls : List Call) : Prop :=
  forall call, call ∈ calls -> run library yaml call = .ok ()

@[simp] theorem return_nil : Return library yaml [] ↔ True :=
  iff_of_true (by rintro _ ⟨⟩) trivial

@[simp] theorem return_cons {call : Call} {rest : List Call} :
    Return library yaml (call :: rest) ↔ run library yaml call = .ok () ∧
    Return library yaml rest :=
  List.forall_mem_cons

theorem return_map {A : Type} {list : List A} {calls : A -> Call} :
    Return library yaml (list.map calls) ↔ forall value, value ∈ list ->
    run library yaml (calls value) = .ok () :=
  List.forall_mem_map

@[simp] theorem forget_succeeds {A : Type} {result : Except Failure A} :
    forget result = .ok () ↔ Succeeds result :=
  forget_eq_ok

@[simp] theorem succeeds_wrap {A : Type} {caller : String} {result : Except Failure A} :
    Succeeds (wrap caller result) ↔ Succeeds result := by
  unfold Succeeds
  simp only [wrap_eq_ok]

/-- A loop that makes one call in each round. -/
theorem loop_returns {A B : Type} {list : List A} {calls : A -> Call}
    {round : A -> Except Failure B}
    (returns : forall value, Succeeds (round value) ↔ run library yaml (calls value) = .ok ()) :
    Succeeds (list.mapM round) ↔ Return library yaml (list.map calls) := by
  rw [succeeds_mapM, return_map]
  exact forall_congr' fun value => imp_congr_right fun _ => returns value

/-- The same for a loop without results. -/
theorem forM_returns {A : Type} {list : List A} {calls : A -> Call}
    {round : A -> Except Failure Unit}
    (returns : forall value, round value = .ok () ↔ run library yaml (calls value) = .ok ()) :
    list.forM round = .ok () ↔ Return library yaml (list.map calls) := by
  rw [Fallible.forM_ok_iff, return_map]
  exact forall_congr' fun value => imp_congr_right fun _ => returns value

theorem stringKeys_succeeds {A : Type} {entries : List (Tree × A)} :
    Succeeds (stringKeys entries) ↔ forall entry, entry ∈ entries -> isText entry.1 = true := by
  induction entries with
  | nil => simp [stringKeys]
  | cons entry rest inductionHypothesis =>
      rcases entry with ⟨key, value⟩
      rw [List.forall_mem_cons, <- inductionHypothesis]
      cases key with
      | text key => simp [stringKeys, isText]
      | _ => simp [stringKeys, isText]

theorem makeStringMap_succeeds {tree : Tree} :
    Succeeds (makeStringMap context tree) ↔ Fits library yaml (.map context tree) := by
  cases tree with
  | anyMap entries =>
      rw [makeStringMap, succeeds_map, stringKeys_succeeds]
      rfl
  | strMap fields =>
      rw [makeStringMap, succeeds_map, succeeds_unit, checkImport_eq_ok]
      rfl
  | _ => exact succeeds_ok

theorem run_map {tree : Tree} :
    run library yaml (.map context tree) = .ok () ↔ Succeeds (makeStringMap context tree) := by
  rw [run, forget_succeeds]

/-- A parser that opens a map and goes on with its fields. -/
theorem opening_returns {A : Type} {tree : Tree} {result : Except Failure A}
    {rest : List (String × Tree) -> List Call} {fits : List (String × Tree) -> Prop}
    (isMap : IsMap tree)
    (refused : forall failure, makeStringMap context tree = .error failure ->
    result = .error failure)
    (goesOn : forall fields, makeStringMap context tree = .ok (.strMap fields) ->
      (Succeeds result ↔ fits fields ∧ Return library yaml (rest fields))) :
    Succeeds result ↔ (forall fields, opened context tree = some fields -> fits fields) ∧
      Return library yaml (.map context tree :: ((opened context tree).map rest).getD []) := by
  rw [return_cons, run_map]
  cases read : makeStringMap context tree with
  | error failure =>
      rw [refused failure read]
      simp
  | ok found =>
      rcases strMap_of_isMap isMap read with ⟨fields, rfl⟩
      rw [goesOn fields read, opened_eq_some.mpr read]
      simp

theorem makeStringMap_ne_anyMap {tree : Tree} {entries : List (Tree × Tree)} :
    makeStringMap context tree ≠ .ok (.anyMap entries) := by
  intro read
  rcases makeStringMap_cases read with ⟨_, _, _, _, ⟨⟩⟩ | rfl
  rcases @strMap_of_isMap context (.anyMap entries) _ trivial read with ⟨_, ⟨⟩⟩

theorem opened_of_returned {fields : List (String × Tree)}
    (returned : Succeeds (makeStringMap context (.strMap fields))) :
    opened context (.strMap fields) = some fields := by
  rcases returned with ⟨found, read⟩
  rcases makeStringMap_cases read with ⟨_, _, ⟨⟩, _⟩ | rfl
  exact opened_eq_some.mpr read

theorem return_of_not_isMap {tree : Tree} {rest : List Call} (other : ¬ IsMap tree) :
    Return library yaml (.map context tree :: rest) ↔ Return library yaml rest := by
  rw [return_cons, run_map, makeStringMap_of_not_isMap other]
  simp

/-! ## Values -/

variable {fields : List (String × Tree)}

theorem completeFile_succeeds {file : FileFields} :
    Succeeds (completeFile library file) ↔ Located library file := by
  rw [completeFile, succeeds_map]
  unfold parseLocation Located describeContents
  by_cases contents : file.contents = ""
  · simp [contents]
  · by_cases basename : file.basename = ""
    · simp [contents, basename]
    · simp only [contents, basename, ne_eq, not_false_iff, if_true, and_self, forall_const]
      cases parsed : library.parseURL file.basename with
      | none => simp
      | some url =>
          simp only [Option.some.injEq, exists_eq_left', List.mem_cons, List.not_mem_nil, or_false]
          split_ifs with web local'
          · exact iff_of_true (succeeds_ok.mpr trivial)
              (by rcases web with web | web | web <;> simp [web])
          · exact iff_of_true (succeeds_ok.mpr trivial) (by simp [local'])
          · refine iff_of_false succeeds_error.mp ?_
            rintro (scheme | scheme | scheme | scheme)
            · exact web (Or.inl scheme)
            · exact web (Or.inr (Or.inl scheme))
            · exact web (Or.inr (Or.inr scheme))
            · exact local' scheme

theorem files_succeed {caller refused : String} {elements : List Tree} :
    Succeeds ((elementsOf library context (.list elements)).mapM (fileOrDirectory caller refused)) ↔
      Return library yaml (elements.map fun element => .fileOrDirectory context element) := by
  rw [elementsOf, newElements_eq, List.mapM_map]
  apply loop_returns
  intro element
  rw [run, forget_succeeds]
  exact exists_congr fun value =>
      (by rw [Function.comp_apply, fileOrDirectory_eq_ok, fileOrDirectory_eq_ok])

theorem makeFile_succeeds : Succeeds (makeFile library (childrenOfFields library context fields)) ↔
    FitsFile library fields ∧
    Return library yaml (filesOf context (fields.lookup "secondaryFiles")) := by
  have files : Succeeds (secondaryFilesOf (childrenOfFields library context fields)) ↔
      (forall tree, fields.lookup "secondaryFiles" = some tree -> Exists fun elements =>
          tree = .list elements) ∧
        Return library yaml (filesOf context (fields.lookup "secondaryFiles")) := by
    unfold secondaryFilesOf
    rw [lookup_childrenOfFields]
    cases fields.lookup "secondaryFiles" with
    | none => simp [filesOf]
    | some tree =>
        simp only [Option.map_some, succeeds_wrap, getSecondaryFilesArray, childOf]
        cases tree with
        | list elements =>
            rw [@files_succeed library yaml]
            simp [filesOf, listed]
        | _ => simp
  have present : ((childrenOfFields library context fields).lookup "secondaryFiles").isSome =
      (fields.lookup "secondaryFiles").isSome := by
    rw [lookup_childrenOfFields, Option.isSome_map]
  unfold FitsFile
  rw [and_assoc, and_comm (a := decodesStructIn _ _ _ = true ∧ _), <- and_assoc, <- files, makeFile]
  cases secondaryFilesOf (childrenOfFields library context fields) with
  | error failure => simp
  | ok secondaryFiles =>
      simp only [succeeds_ok, true_and, present, trees_childrenOfFields]
      split_ifs with secondary fit fit
      · rw [succeeds_map, completeFile_succeeds]
        simp [fit]
      · simp [fit]
      · rw [succeeds_map, completeFile_succeeds]
        simp [fit]
      · simp [fit]

theorem newDirectory_succeeds :
    Succeeds (newDirectory library (childrenOfFields library context fields)) ↔
    FitsDirectory library fields ∧ Return library yaml
      (filesOf context (fields.lookup "listing") ++ singleListing context
          (fields.lookup "listing")) := by
  have files : Succeeds (listingOf (childrenOfFields library context fields)) ↔ Return library yaml
      (filesOf context (fields.lookup "listing") ++ singleListing context
          (fields.lookup "listing")) := by
    unfold listingOf
    rw [lookup_childrenOfFields]
    cases fields.lookup "listing" with
    | none => simp [filesOf, singleListing]
    | some tree =>
        simp only [Option.map_some, succeeds_wrap, newFDArray, childOf]
        cases tree with
        | list elements =>
            rw [singleListing, List.append_nil]
            exact files_succeed
        | _ =>
            simp only [filesOf, listed, singleListing, Option.map_some, Option.getD_some,
                List.map_nil, List.nil_append,
              return_cons, return_nil, and_true, succeeds_map, run, forget_succeeds]
            exact exists_congr fun value => (by rw [fileOrDirectory_eq_ok, fileOrDirectory_eq_ok])
  have present : ((childrenOfFields library context fields).lookup "listing").isSome =
      (fields.lookup "listing").isSome := by
    rw [lookup_childrenOfFields, Option.isSome_map]
  unfold FitsDirectory
  rw [and_comm, <- files, newDirectory]
  cases listingOf (childrenOfFields library context fields) with
  | error failure => simp
  | ok listing =>
      simp only [succeeds_ok, true_and, present, trees_childrenOfFields]
      split_ifs with secondary fit fit <;> simp [fit]

theorem newRecord_succeeds {name : String} :
    Succeeds (newRecord context name (childrenOfFields library context fields)) ↔
      Return library yaml (.map context (.strMap fields) :: fields.map fun field =>
          .value context field.2 field.1) := by
  have loop : Succeeds ((childrenOfFields library context fields).mapM Natives.recordField) ↔
      Return library yaml (fields.map fun field => .value context field.2 field.1) := by
    rw [childrenOfFields_eq, List.mapM_map]
    apply loop_returns
    intro field
    rw [run, forget_succeeds, Function.comp_apply, Natives.recordField, succeeds_map, succeeds_wrap]
    rfl
  rw [return_cons, run_map, <- loop, makeStringMap, newRecord, trees_childrenOfFields, succeeds_map]
  cases checkImport context (fields.lookup "$import") with
  | error failure => simp
  | ok passed => simp

theorem ofMap_succeeds {name : String} :
    Succeeds (ofMap library context name (childrenOfFields library context fields)) ↔
      FitsValue library fields ∧ Return library yaml (planOfValue library context fields) := by
  unfold ofMap planOfValue FitsValue
  rw [trees_childrenOfFields]
  cases items : fields.lookup "items" with
  | some tree => simp
  | none =>
      simp only [Option.isSome_none, Bool.false_eq_true, if_false, true_and]
      cases getClassIn (library.visit "Empty" (keys fields)) fields with
      | error text => simp
      | ok className =>
          simp only [succeeds_wrap, newCWLTypeByClass, Except.ok.injEq, exists_eq_left',
              List.mem_cons, List.not_mem_nil,
            or_false, not_or]
          by_cases file : className = "File"
          · subst file
            rw [if_pos rfl, if_pos rfl, succeeds_wrap, @makeFile_succeeds library yaml]
            simp
          · rw [if_neg file, if_neg file]
            by_cases string : className = "string"
            · simp [string]
            · rw [if_neg string, if_neg string]
              by_cases boolean : className = "boolean"
              · simp [boolean]
              · rw [if_neg boolean, if_neg boolean]
                by_cases directory : className = "Directory"
                · subst directory
                  rw [if_pos rfl, if_pos rfl, succeeds_wrap, @newDirectory_succeeds library yaml]
                  simp
                · rw [if_neg directory, if_neg directory, succeeds_wrap,
                    @newRecord_succeeds library yaml]
                  simp [file, string, boolean, directory]

theorem value_returns {tree : Tree} {name : String} :
    run library yaml (.value context tree name) = .ok () ↔
      Fits library yaml (.value context tree name) ∧
          Return library yaml (plan library yaml left (.value context tree name)) := by
  rw [run, forget_succeeds]
  by_cases isMap : IsMap tree
  · have listed : plan library yaml left (.value context tree name) =
        .map context tree :: ((opened context tree).map (planOfValue library context)).getD [] := by
      cases tree with
      | list elements => exact isMap.elim
      | _ => rfl
    have fits : Fits library yaml (.value context tree name) ↔
        forall fields, opened context tree = some fields -> FitsValue library fields := by
      cases tree with
      | uint64 value => exact isMap.elim
      | float64 value => exact isMap.elim
      | _ => exact Iff.rfl
    rw [listed, fits]
    refine opening_returns isMap (fun failure => newCWLType_of_refused) fun fields read => ?_
    rw [newCWLType_of_opened read]
    exact ofMap_succeeds
  · cases tree with
    | list elements =>
        rw [plan, return_of_not_isMap isMap, newCWLType, succeeds_map, succeeds_wrap, newArray,
            newElements_eq,
          List.mapM_map]
        simp only [Fits, opened_of_not_isMap isMap, reduceCtorEq, false_imp_iff,
            implies_true, true_and]
        apply loop_returns
        intro element
        rw [run, forget_succeeds, Function.comp_apply, succeeds_wrap]
    | float64 number =>
        cases number <;> simp [newCWLType, plan, return_of_not_isMap isMap,
            opened_of_not_isMap isMap, Fits]
    | anyMap entries => exact absurd trivial isMap
    | strMap fields => exact absurd trivial isMap
    | _ => simp [newCWLType, plan, return_of_not_isMap isMap, opened_of_not_isMap isMap, Fits]

/-- A map gives a file or a directory if it has the class of one, and a record
otherwise. -/
theorem ofMap_cases {name : String} {value : Value}
    (made : ofMap library context name (childrenOfFields library context fields) = .ok value) :
    (isFileOrDirectory value = true ∧ IsFileMap library fields) ∨
      ((Exists fun entries => value = .record entries) ∧ ¬ IsFileMap library fields) := by
  unfold ofMap at made
  unfold IsFileMap
  rw [trees_childrenOfFields] at made
  by_cases items : (fields.lookup "items").isSome = true
  · rw [if_pos items] at made
    cases made
  · rw [if_neg items] at made
    cases classified : getClassIn (library.visit "Empty" (keys fields)) fields with
    | error text =>
        rw [classified] at made
        cases made
    | ok className =>
        rw [classified] at made
        dsimp only at made
        rw [wrap_eq_ok, newCWLTypeByClass] at made
        simp only [Except.ok.injEq, exists_eq_left', List.mem_cons, List.not_mem_nil, or_false]
        by_cases file : className = "File"
        · rw [if_pos file, wrap_eq_ok, makeFile] at made
          refine Or.inl ⟨?_, Or.inl file⟩
          cases secondary : secondaryFilesOf (childrenOfFields library context fields) with
          | error failure =>
              rw [secondary] at made
              cases made
          | ok secondaryFiles =>
              rw [secondary] at made
              dsimp only at made
              split_ifs at made
              all_goals
                rcases map_ok_iff.mp made with ⟨completed, _, rfl⟩
                rfl
        · rw [if_neg file] at made
          by_cases string : className = "string"
          · rw [if_pos string] at made
            cases made
          · rw [if_neg string] at made
            by_cases boolean : className = "boolean"
            · rw [if_pos boolean] at made
              cases made
            · rw [if_neg boolean] at made
              by_cases directory : className = "Directory"
              · rw [if_pos directory, wrap_eq_ok, newDirectory] at made
                refine Or.inl ⟨?_, Or.inr directory⟩
                cases listed : listingOf (childrenOfFields library context fields) with
                | error failure =>
                    rw [listed] at made
                    cases made
                | ok listing =>
                    rw [listed] at made
                    dsimp only at made
                    split_ifs at made
                    all_goals
                      cases made
                      rfl
              · rw [if_neg directory, wrap_eq_ok, newRecord] at made
                refine Or.inr ⟨?_, fun either => either.elim file directory⟩
                cases imported : checkImport context
                    ((trees (childrenOfFields library context fields)).lookup "$import") with
                | error failure =>
                    rw [imported] at made
                    cases made
                | ok passed =>
                    rw [imported] at made
                    rcases map_ok_iff.mp made with ⟨values, _, rfl⟩
                    exact ⟨_, rfl⟩

theorem class_of_ofMap {name : String} {value : Value}
    (made : ofMap library context name (childrenOfFields library context fields) = .ok value) :
    isFileOrDirectory value = true ↔ IsFileMap library fields := by
  rcases ofMap_cases made with ⟨isFile, isFileMap⟩ | ⟨⟨entries, rfl⟩, other⟩
  · exact iff_of_true isFile isFileMap
  · exact iff_of_false Bool.false_ne_true other

theorem class_of_value {tree : Tree} {name : String} {value : Value}
    (made : newCWLType library context tree name = .ok value) :
    isFileOrDirectory value = true ↔ Exists fun fields => opened context tree = some fields ∧
    IsFileMap library fields := by
  by_cases isMap : IsMap tree
  · cases read : makeStringMap context tree with
    | error failure =>
        rw [newCWLType_of_refused read] at made
        cases made
    | ok found =>
        rcases strMap_of_isMap isMap read with ⟨fields, rfl⟩
        rw [newCWLType_of_opened read] at made
        rw [class_of_ofMap made, opened_eq_some.mpr read]
        simp
  · rw [opened_of_not_isMap isMap]
    refine iff_of_false ?_ (by rintro ⟨_, ⟨⟩, _⟩)
    cases tree with
    | anyMap entries => exact absurd trivial isMap
    | strMap fields => exact absurd trivial isMap
    | list elements =>
        rw [newCWLType] at made
        rcases map_ok_iff.mp made with ⟨values, _, rfl⟩
        exact Bool.false_ne_true
    | uint64 value => cases made
    | float64 number =>
        cases number with
        | none => cases made
        | some number =>
            cases made
            exact Bool.false_ne_true
    | _ =>
        cases made
        exact Bool.false_ne_true

theorem fileOrDirectory_returns {tree : Tree} :
    run library yaml (.fileOrDirectory context tree) = .ok () ↔
    Fits library yaml (.fileOrDirectory context tree) ∧
      Return library yaml (plan library yaml left (.fileOrDirectory context tree)) := by
  rw [plan, return_cons, run, run, forget_succeeds, forget_succeeds]
  simp only [return_nil, and_true, Fits]
  constructor
  · rintro ⟨value, returned⟩
    rw [fileOrDirectory_eq_ok] at returned
    exact ⟨(class_of_value returned.1).mp returned.2, value, returned.1⟩
  · rintro ⟨isFile, value, made⟩
    exact ⟨value, fileOrDirectory_eq_ok.mpr ⟨made, (class_of_value made).mpr isFile⟩⟩

/-! ## Types -/

/-- A name is known if it gives types, of which there is then one at least. -/
theorem typeFromString_succeeds {native : String} {role : Role} :
    Succeeds (newCWLTypeTypeFromString context native role) ↔ KnownType context native role := by
  unfold newCWLTypeTypeFromString KnownType
  by_cases empty : native = ""
  · simp [empty]
  · by_cases hash : '#' ∈ native.toList
    · simp [empty, hash]
    · simp only [empty, hash, if_false, ne_eq, not_false_iff, true_and, false_or]
      by_cases array : hasSuffix (trimSuffix native "?") "[]" = true
      · rw [if_pos array, if_pos array]
        cases isValidType (trimSuffix (trimSuffix native "?") "[]") with
        | none => simp
        | some basic => cases role <;> simp [arrayFromString]
      · rw [if_neg array, if_neg array]
        cases isValidType (trimSuffix native "?") with
        | some basic => simp
        | none =>
            cases context with
            | nil => simp
            | of schemata => simp [succeeds_ite, List.any_eq_true]
            | inDirectory emptyFiles schemata => simp [succeeds_ite, List.any_eq_true]

/-- The types that a text names, the first of which has no name of its own. -/
theorem typeFromString_nameless {native : String} {role : Role} {types : List Schema}
    (read : newCWLTypeTypeFromString context native role = .ok types) :
    Exists fun first => Exists fun rest => types = first :: rest ∧ getID first = "" := by
  have optional {condition : Prop} [Decidable condition] {schema : Schema}
      (nameless : getID schema = "") :
      Exists fun first => Exists fun rest =>
        (if condition then [Schema.basic .null] else []) ++ [schema] = first :: rest ∧
            getID first = "" := by
    split_ifs
    · exact ⟨.basic .null, [schema], rfl, rfl⟩
    · exact ⟨schema, [], rfl, nameless⟩
  unfold newCWLTypeTypeFromString at read
  by_cases empty : native = ""
  · rw [if_pos empty] at read
    cases read
  · rw [if_neg empty] at read
    by_cases hash : '#' ∈ native.toList
    · rw [if_pos hash] at read
      cases read
      exact ⟨_, [], rfl, rfl⟩
    · rw [if_neg hash] at read
      dsimp only at read
      by_cases array : hasSuffix (trimSuffix native "?") "[]" = true
      · rw [if_pos array] at read
        cases base : isValidType (trimSuffix (trimSuffix native "?") "[]") with
        | none =>
            rw [base] at read
            cases read
        | some basic =>
            rw [base] at read
            cases role <;> cases read <;> exact ⟨_, [], rfl, rfl⟩
      · rw [if_neg array] at read
        cases valid : isValidType (trimSuffix native "?") with
        | some basic =>
            rw [valid] at read
            cases read
            exact optional rfl
        | none =>
            rw [valid] at read
            cases context with
            | nil => cases read
            | _ =>
                dsimp only at read
                split at read
                · cases read
                  exact optional rfl
                · cases read

theorem typeFromString_ne_nil {native : String} {role : Role} {types : List Schema}
    (read : newCWLTypeTypeFromString context native role = .ok types) : types ≠ [] := by
  rcases typeFromString_nameless read with ⟨first, rest, rfl, _⟩
  exact List.cons_ne_nil first rest

theorem schemaOfMap_ne_nil {children : List (String × TypeChild)} {role : Role}
    {types : List Schema} (read : schemaOfMap context children role = .ok types) : types ≠ [] := by
  unfold schemaOfMap at read
  rcases Fallible.bind_ok_iff.mp read with ⟨objectType, _, rest⟩
  rcases Fallible.bind_ok_iff.mp rest with ⟨_, _, chosen⟩
  split_ifs at chosen
  all_goals
    rcases map_ok_iff.mp chosen with ⟨schema, _, rfl⟩
    exact List.cons_ne_nil _ _

theorem type_ne_nil {tree : Tree} {role : Role} {types : List Schema}
    (read : newCWLTypeType context tree role = .ok types) : types ≠ [] := by
  cases tree with
  | text native =>
      rw [newCWLTypeType, wrap_eq_ok] at read
      exact typeFromString_ne_nil read
  | anyMap entries =>
      rw [newCWLTypeType] at read
      rcases Fallible.bind_ok_iff.mp read with ⟨children, _, made⟩
      exact schemaOfMap_ne_nil made
  | strMap fields =>
      rw [newCWLTypeType] at read
      rcases Fallible.bind_ok_iff.mp read with ⟨_, _, made⟩
      exact schemaOfMap_ne_nil made
  | _ => simp [newCWLTypeType] at read

/-- Only an empty list gives no types. -/
theorem types_eq_nil {tree : Tree} {role : Role} {types : List Schema}
    (read : newCWLTypeTypeArray context tree role = .ok types) : types = [] ↔ tree = .list [] := by
  have one {found : List Schema} (some' : found ≠ []) (other : tree ≠ .list []) : found = [] ↔
      tree = .list [] :=
    iff_of_false some' other
  cases tree with
  | text native =>
      rw [newCWLTypeTypeArray] at read
      exact one (typeFromString_ne_nil read) (by rintro ⟨⟩)
  | anyMap entries =>
      rw [newCWLTypeTypeArray] at read
      rcases Fallible.bind_ok_iff.mp read with ⟨children, _, made⟩
      rcases Fallible.bind_ok_iff.mp made with ⟨_, _, made⟩
      exact one (schemaOfMap_ne_nil (wrap_eq_ok.mp made)) (by rintro ⟨⟩)
  | strMap fields =>
      rw [newCWLTypeTypeArray] at read
      rcases Fallible.bind_ok_iff.mp read with ⟨_, _, made⟩
      rcases Fallible.bind_ok_iff.mp made with ⟨_, _, made⟩
      exact one (schemaOfMap_ne_nil (wrap_eq_ok.mp made)) (by rintro ⟨⟩)
  | list elements =>
      rw [newCWLTypeTypeArray, alternatives, elementTypes_eq, List.mapM_map] at read
      rcases map_ok_iff.mp read with ⟨results, made, rfl⟩
      have every := Fallible.mapM_ok_iff.mp made
      cases every with
      | nil => simp
      | cons here _ =>
          refine one (fun none => ?_) (by rintro ⟨⟩)
          rw [List.flatten_cons, List.append_eq_nil_iff] at none
          exact type_ne_nil here none.1
  | _ => simp [newCWLTypeTypeArray] at read

theorem newExpression_succeeds {found : Option Tree} :
    Succeeds (optionally newExpression found) ↔ isTextual found = true := by
  cases found with
  | none => simp [optionally, isTextual]
  | some tree => cases tree <;> simp [optionally, newExpression, isTextual, isText]

theorem inputBinding_succeeds {tree : Tree} :
    Succeeds (newCommandLineBinding context tree) ↔ FitsInputBinding context tree := by
  unfold newCommandLineBinding FitsInputBinding
  rw [succeeds_bind]
  cases makeStringMap context tree with
  | error failure => simp
  | ok found =>
      simp only [Except.ok.injEq, exists_eq_left']
      cases found with
      | strMap fields =>
          rw [succeeds_bind_const, succeeds_wrap, newExpression_succeeds]
          exact and_congr_right fun _ => succeeds_ite
      | _ => simp

theorem outputBinding_succeeds {tree : Tree} :
    Succeeds (newCommandOutputBinding context tree) ↔ FitsOutputBinding context tree := by
  have globs {found : Option Tree} : Succeeds (optionally newExpressionArray found) ↔
      (found.map isGlob).getD true = true := by
    cases found with
    | none => simp [optionally]
    | some tree =>
        cases tree with
        | list elements => exact succeeds_ite
        | _ => simp [optionally, newExpressionArray, isGlob]
  unfold newCommandOutputBinding FitsOutputBinding
  rw [succeeds_bind]
  cases makeStringMap context tree with
  | error failure => simp
  | ok found =>
      simp only [Except.ok.injEq, exists_eq_left']
      cases found with
      | strMap fields =>
          rw [succeeds_bind_const, succeeds_wrap, globs]
          refine and_congr_right fun _ => ?_
          rw [succeeds_bind_const, newExpression_succeeds]
          exact and_congr_right fun _ => succeeds_ite
      | _ => simp

/-- A binding that fits can also be opened, so that the call for it says nothing more. -/
theorem bindingOf_succeeds {key caller : String} {parse : Tree -> Except Failure Unit}
    {fits : Tree -> Prop} (succeeds : forall tree, Succeeds (parse tree) ↔ fits tree)
    (opens : forall tree, fits tree -> Succeeds (makeStringMap context tree)) :
    Succeeds (bindingOf key caller parse (typeChildrenOfFields context fields)) ↔
      FitsBinding fits key fields ∧ Return library yaml (planOfBinding context key fields) := by
  rw [bindingOf, succeeds_wrap, typeTrees_typeChildrenOfFields, planOfBinding, FitsBinding]
  cases fields.lookup key with
  | none => simp [optionally]
  | some tree =>
      simp only [optionally, succeeds, Option.some.injEq, forall_eq', Option.map_some,
          Option.getD_some, return_cons,
        return_nil, and_true]
      rw [run_map]
      exact ⟨fun fit => ⟨fit, opens tree fit⟩, And.left⟩

theorem inputBinding_opens {tree : Tree} (fits : FitsInputBinding context tree) :
    Succeeds (makeStringMap context tree) := by
  unfold FitsInputBinding at fits
  cases read : makeStringMap context tree with
  | ok found => exact ⟨found, rfl⟩
  | error failure =>
      rw [read] at fits
      exact fits.elim

theorem outputBinding_opens {tree : Tree} (fits : FitsOutputBinding context tree) :
    Succeeds (makeStringMap context tree) := by
  unfold FitsOutputBinding at fits
  cases read : makeStringMap context tree with
  | ok found => exact ⟨found, rfl⟩
  | error failure =>
      rw [read] at fits
      exact fits.elim

/-! ### Schemas -/

theorem items_return {role : Role} :
    run library yaml (.items context fields role) = .ok () ↔
      Fits library yaml (.items context fields role) ∧
        Return library yaml (plan library yaml left (.items context fields role)) := by
  rw [run, plan, forget_succeeds, newArraySchemaFromMap, lookup_typeChildrenOfFields]
  simp only [Fits]
  cases fields.lookup "items" with
  | none => simp
  | some tree =>
      simp only [Option.map_some, Option.getD_some, return_cons, return_nil, and_true, run,
          forget_succeeds, typeChildOf,
        Option.some.injEq, exists_eq_left']
      rw [succeeds_bind]
      constructor
      · rintro ⟨items, given, some'⟩
        rw [wrap_eq_ok] at given
        refine ⟨fun none => ?_, items, given⟩
        rw [(types_eq_nil given).mpr none] at some'
        exact succeeds_error.mp some'
      · rintro ⟨some', items, given⟩
        refine ⟨items, wrap_eq_ok.mpr given, ?_⟩
        have filled : items.isEmpty = false := by
          rw [List.isEmpty_eq_false_iff]
          exact fun none => some' ((types_eq_nil given).mp none)
        rw [filled]
        exact ⟨items, rfl⟩

/-- What a constructor does after it has checked the map for an import. -/
theorem after_import {A : Type} {next : Unit -> Except Failure A} {fits : Prop} {rest : List Call}
    (returns : Succeeds (next ()) ↔ fits ∧ Return library yaml rest) :
    Succeeds (checkImport context (fields.lookup "$import") >>= next) ↔
      fits ∧ Return library yaml (.map context (.strMap fields) :: rest) := by
  rw [return_cons, run_map, makeStringMap, succeeds_map]
  cases checkImport context (fields.lookup "$import") with
  | error failure => simp [bind, Except.bind]
  | ok passed =>
      rw [succeeds_ok, true_and]
      exact returns

/-- An array schema whose items may not be missing. -/
theorem boundArray_succeeds {role : Role} {caller bound key : String}
    {parse : Tree -> Except Failure Unit} {schema : List Schema -> Schema} {fits : Tree -> Prop}
    (binds : Succeeds (bindingOf key bound parse (typeChildrenOfFields context fields)) ↔
      FitsBinding fits key fields ∧ Return library yaml (planOfBinding context key fields)) :
    Succeeds (do
      checkImport context ((typeTrees (typeChildrenOfFields context fields)).lookup "$import")
      let items <- wrap caller (newArraySchemaFromMap role (typeChildrenOfFields context fields))
      bindingOf key bound parse (typeChildrenOfFields context fields)
      pure (schema items) : Except Failure Schema) ↔
    FitsBinding fits key fields ∧
        Return library yaml (.map context (.strMap fields) :: .items context fields role ::
      planOfBinding context key fields) := by
  rw [typeTrees_typeChildrenOfFields]
  apply after_import
  rw [return_cons, run, forget_succeeds, succeeds_bind]
  simp only [wrap_eq_ok, succeeds_bind_const, succeeds_pure, and_true, exists_and_right]
  rw [binds]
  exact and_left_comm

theorem arrayByRole_succeeds {role : Role} :
    Succeeds (arrayByRole context (typeChildrenOfFields context fields) role) ↔
      FitsArray context fields role ∧ Return library yaml (planOfArray context fields role) := by
  cases role with
  | workflowOutput => simp [arrayByRole, FitsArray]
  | commandOutput =>
      rw [arrayByRole, succeeds_wrap, newCommandOutputArraySchema, planOfArray,
          typeTrees_typeChildrenOfFields]
      apply after_import
      rw [lookup_typeChildrenOfFields, FitsArray, <- Bool.and_eq_true, and_comm]
      cases given : fields.lookup "items" with
      | none =>
          simp only [given, settledArray, Option.map_none, Option.getD_none, return_nil, true_and,
              bind, Except.bind,
            pure, Except.pure]
          exact succeeds_ite
      | some tree =>
          simp only [Option.map_some, typeChildOf, Option.getD_some, return_cons, return_nil,
              and_true, run,
            forget_succeeds]
          rw [succeeds_bind]
          simp only [wrap_eq_ok, pure, Except.pure, given, settledArray, succeeds_ite]
          exact exists_and_right
  | input =>
      rw [arrayByRole, succeeds_wrap]
      exact boundArray_succeeds
        (bindingOf_succeeds (fun tree => inputBinding_succeeds) fun tree => inputBinding_opens)
  | commandInput =>
      rw [arrayByRole, succeeds_wrap]
      exact boundArray_succeeds
        (bindingOf_succeeds (fun tree => inputBinding_succeeds) fun tree => inputBinding_opens)
  | output =>
      rw [arrayByRole, succeeds_wrap]
      exact boundArray_succeeds
        (bindingOf_succeeds (fun tree => outputBinding_succeeds) fun tree => outputBinding_opens)
  | expressionToolOutput =>
      rw [arrayByRole, succeeds_wrap]
      exact boundArray_succeeds
        (bindingOf_succeeds (fun tree => outputBinding_succeeds) fun tree => outputBinding_opens)

/-- A record schema whose fields are parsed in some way. -/
theorem record_succeeds {missing bound : String} {kind : NamedKind} {named : Except Failure String}
    {parse : TypeChild -> Except Failure Unit} {calls : Tree -> List Call} {fits : Tree -> Prop}
    (same : Succeeds named ↔ Succeeds (newRecordSchema (typeChildrenOfFields context fields)))
    (parses : forall tree, Succeeds (parse (typeChildOf context tree)) ↔
    fits tree ∧ Return library yaml (calls tree)) :
    Succeeds (do
      checkImport context ((typeTrees (typeChildrenOfFields context fields)).lookup "$import")
      let name <- named
      match (typeChildrenOfFields context fields).lookup "fields" with
      | none => .error (.error missing)
      | some child =>
          wrap bound (parse child)
          pure (.record kind name) : Except Failure Schema) ↔
    (isTextual (fields.lookup "label") = true ∧ isTextual (fields.lookup "name") = true ∧
      Exists fun tree => fields.lookup "fields" = some tree ∧ fits tree) ∧
    Return library yaml (.map context (.strMap fields) ::
      if isTextual (fields.lookup "label") && isTextual (fields.lookup "name") then
        ((fields.lookup "fields").map calls).getD [] else []) := by
  rw [typeTrees_typeChildrenOfFields]
  apply after_import
  have textual : Succeeds named ↔
      (isTextual (fields.lookup "label") && isTextual (fields.lookup "name")) = true :=
    same.trans newRecordSchema_returns
  rw [lookup_typeChildrenOfFields, succeeds_bind, <- and_assoc, <- Bool.and_eq_true]
  by_cases texts : (isTextual (fields.lookup "label") && isTextual (fields.lookup "name")) = true
  · rcases textual.mpr texts with ⟨name, given⟩
    rw [if_pos texts, given]
    simp only [Except.ok.injEq, exists_eq_left', texts, true_and]
    cases fields.lookup "fields" with
    | none => simp
    | some tree =>
        simp only [Option.map_some, succeeds_bind_const, succeeds_wrap, succeeds_pure, and_true,
            Option.some.injEq,
          exists_eq_left', Option.getD_some]
        exact parses tree
  · refine iff_of_false ?_ fun both => texts both.1.1
    rintro ⟨name, given, _⟩
    exact texts (textual.mp ⟨name, given⟩)

theorem recordByRole_succeeds {role : Role} :
    Succeeds (recordByRole context (typeChildrenOfFields context fields) role) ↔
      FitsRecord fields role ∧ Return library yaml (planOfRecord context fields role) := by
  have inputs {role : RecordRole} (tree : Tree) :
      Succeeds ((typeChildOf context tree).fields role) ↔
      True ∧ Return library yaml [.fields context tree role] := by
    rw [true_and, return_cons, succeeds_unit]
    simp [typeChildOf, run]
  have outputs {caller : String} {role : RecordRole} (tree : Tree) :
      Succeeds (listedFields caller role (typeChildOf context tree)) ↔
        (Exists fun elements => tree = .list elements) ∧
            Return library yaml (listPlan context role tree) := by
    cases tree with
    | list elements =>
        refine (inputs (.list elements)).trans ?_
        exact and_congr_left fun _ => iff_of_true trivial ⟨elements, rfl⟩
    | _ => simp [listedFields, typeChildOf]
  have listed {role : RecordRole} : planOfListedFields context fields role =
      if isTextual (fields.lookup "label") && isTextual (fields.lookup "name") then
        ((fields.lookup "fields").map (listPlan context role)).getD [] else [] := by
    unfold planOfListedFields planOfRecordFields
    cases fields.lookup "fields" with
    | none => simp
    | some tree => cases tree <;> simp [listPlan]
  cases role with
  | workflowOutput => simp [recordByRole, FitsRecord]
  | input =>
      rw [recordByRole, succeeds_wrap]
      exact record_succeeds succeeds_wrap inputs
  | commandInput =>
      rw [recordByRole, succeeds_wrap]
      exact record_succeeds succeeds_wrap inputs
  | output =>
      rw [recordByRole, succeeds_wrap, planOfRecord, listed]
      exact record_succeeds succeeds_wrap outputs
  | expressionToolOutput =>
      rw [recordByRole, succeeds_wrap, planOfRecord, listed]
      exact record_succeeds succeeds_wrap outputs
  | commandOutput =>
      rw [recordByRole, succeeds_wrap, planOfRecord, listed]
      exact record_succeeds Iff.rfl outputs

theorem enumByRole_succeeds {role : Role} :
    Succeeds (enumByRole context (typeChildrenOfFields context fields) role) ↔
      FitsEnum context fields role ∧ Return library yaml (planOfEnum context fields role) := by
  have bound {caller : String} {kind : NamedKind} :
      Succeeds (newBoundEnumSchema context (typeChildrenOfFields context fields) caller kind) ↔
        (decodesStruct enumStruct fields = true ∧
            FitsBinding (FitsInputBinding context) "inputBinding" fields) ∧
        Return library yaml (.map context (.strMap fields) ::
          if decodesStruct enumStruct fields then planOfBinding context "inputBinding" fields
              else []) := by
    rw [newBoundEnumSchema, typeTrees_typeChildrenOfFields]
    apply after_import
    by_cases fit : decodesStruct enumStruct fields = true
    · rw [if_pos fit, if_pos fit, succeeds_bind_const, succeeds_pure, and_true,
        @bindingOf_succeeds library yaml _ _ _ _ _ _ (fun tree => inputBinding_succeeds) fun tree =>
            inputBinding_opens]
      simp [fit]
    · rw [if_neg fit, if_neg fit]
      simp [fit]
  have output : Succeeds (newOutputEnumSchema context (typeChildrenOfFields context fields)) ↔
      (decodesStruct enumStruct fields = true ∧
        ((findField "outputbinding" fields).map (decodesMap commandOutputBindingStruct)).getD
        true = true) ∧
      Return library yaml [.map context (.strMap fields)] := by
    rw [newOutputEnumSchema, typeTrees_typeChildrenOfFields]
    apply after_import
    rw [return_nil, and_true, <- Bool.and_eq_true]
    exact succeeds_ite
  cases role with
  | input =>
      rw [enumByRole, succeeds_wrap]
      exact bound
  | commandInput =>
      rw [enumByRole, succeeds_wrap]
      exact bound
  | output =>
      rw [enumByRole, succeeds_wrap]
      exact output
  | expressionToolOutput =>
      rw [enumByRole, succeeds_wrap]
      exact output
  | commandOutput => simp [enumByRole, FitsEnum]
  | workflowOutput => simp [enumByRole, FitsEnum]

theorem schema_returns {role : Role} :
    run library yaml (.schema context fields role) = .ok () ↔
      Fits library yaml (.schema context fields role) ∧
        Return library yaml (plan library yaml left (.schema context fields role)) := by
  rw [run, plan, forget_succeeds]
  simp only [Fits, FitsSchema]
  rw [schemaOfMap, objectTypeOf_eq, assertID_eq, planOfSchema]
  by_cases text : isTextual (fields.lookup "type") = true
  · by_cases id : isTextual (fields.lookup "id") = true
    · simp only [text, id, if_true, Bool.and_self, true_and, bind, Except.bind]
      by_cases array : objectType fields = "array"
      · rw [array, if_neg (by decide), if_pos rfl, if_pos rfl, succeeds_map,
          @arrayByRole_succeeds library yaml]
        simp
      · by_cases record : objectType fields = "record"
        · rw [record, if_neg (by decide), if_neg (by decide), if_pos rfl, if_neg (by decide),
            if_pos rfl, succeeds_map,
            @recordByRole_succeeds library yaml]
          simp
        · by_cases enum : objectType fields = "enum"
          · rw [enum, if_neg (by decide), if_neg (by decide), if_neg (by decide), if_pos rfl,
              if_neg (by decide),
              if_neg (by decide), if_pos rfl, succeeds_map, @enumByRole_succeeds library yaml]
            simp
          · rw [if_neg array, if_neg record, if_neg enum]
            simp only [array, record, enum, false_and, or_self, iff_false]
            split_ifs <;> exact succeeds_error.mp
    · simp [text, id, bind, Except.bind]
  · simp [text, bind, Except.bind]

/-! ### The recursion -/

theorem typeName_returns {native : String} {role : Role} :
    run library yaml (.typeName context native role) = .ok () ↔
    Fits library yaml (.typeName context native role) ∧
      Return library yaml (plan library yaml left (.typeName context native role)) := by
  rw [run, plan, forget_succeeds, typeFromString_succeeds]
  simp [Fits]

/-- A parser of types or fields that opens a map, in both forms of a map. -/
theorem opening_next {A : Type} (parser : Tree -> Except Failure A)
    (next : List (String × TypeChild) -> Except Failure A)
    {rest : List (String × Tree) -> List Call} {fits : List (String × Tree) -> Prop}
    (anyKeys : forall entries, parser (.anyMap entries) =
    (stringKeys (typeChildrenOfEntries context entries) >>= next))
    (strKeys : forall fields, parser (.strMap fields) =
      (checkImport context (fields.lookup "$import") >>= fun _ =>
      next (typeChildrenOfFields context fields)))
    (goesOn : forall fields, Succeeds (next (typeChildrenOfFields context fields)) ↔
      fits fields ∧ Return library yaml (rest fields)) {tree : Tree} (isMap : IsMap tree) :
    Succeeds (parser tree) ↔ (forall fields, opened context tree = some fields -> fits fields) ∧
      Return library yaml (.map context tree :: ((opened context tree).map rest).getD []) := by
  have both := parser_of_isMap parser next anyKeys strKeys isMap
  refine opening_returns isMap both.1 fun fields read => ?_
  rw [both.2 fields read]
  exact goesOn fields

theorem alternatives_succeed {elements : List Tree} {role : Role} :
    Succeeds (alternatives (elementTypes context elements) role) ↔
      Return library yaml (elements.map fun element => .type context element role) := by
  rw [alternatives, succeeds_fmap, elementTypes_eq, List.mapM_map]
  exact loop_returns fun element => by
    rw [run, forget_succeeds]
    rfl

theorem types_return {tree : Tree} {role : Role} :
    run library yaml (.types context tree role) = .ok () ↔
    Fits library yaml (.types context tree role) ∧
      Return library yaml (plan library yaml left (.types context tree role)) := by
  rw [run, forget_succeeds]
  by_cases isMap : IsMap tree
  · have listed : plan library yaml left (.types context tree role) = .map context tree ::
        ((opened context tree).map fun fields =>
            [Call.map context (.strMap fields), .schema context fields role]).getD [] := by
      cases tree with
      | list elements => exact isMap.elim
      | text native => exact isMap.elim
      | _ => rfl
    have fits : Fits library yaml (.types context tree role) ↔
        forall fields, opened context tree = some fields -> True := by
      cases tree with
      | anyMap entries => exact iff_of_true trivial fun _ _ => trivial
      | strMap fields => exact iff_of_true trivial fun _ _ => trivial
      | _ => exact isMap.elim
    rw [listed, fits]
    refine opening_next (fun tree => newCWLTypeTypeArray context tree role)
      (fun fields => typesOfMap context fields role) (fun entries => by rw [newCWLTypeTypeArray])
      (fun fields => by rw [newCWLTypeTypeArray]) (fun fields => ?_) isMap
    rw [typesOfMap, typeTrees_typeChildrenOfFields]
    apply after_import
    simp [run, - forget_eq_ok]
  · cases tree with
    | list elements =>
        rw [plan, return_of_not_isMap isMap, newCWLTypeTypeArray,
            @alternatives_succeed library yaml]
        simp [Fits]
    | text native =>
        rw [plan, return_of_not_isMap isMap, newCWLTypeTypeArray]
        simp [run, Fits, - forget_eq_ok]
    | anyMap entries => exact absurd trivial isMap
    | strMap fields => exact absurd trivial isMap
    | _ => simp [newCWLTypeTypeArray, Fits]

theorem type_returns {tree : Tree} {role : Role} :
    run library yaml (.type context tree role) = .ok () ↔
    Fits library yaml (.type context tree role) ∧
      Return library yaml (plan library yaml left (.type context tree role)) := by
  rw [run, forget_succeeds]
  by_cases isMap : IsMap tree
  · have listed : plan library yaml left (.type context tree role) = .map context tree ::
        ((opened context tree).map fun fields => [Call.schema context fields role]).getD [] := by
      cases tree with
      | text native => exact isMap.elim
      | _ => rfl
    have fits : Fits library yaml (.type context tree role) ↔
        forall fields, opened context tree = some fields -> True := by
      cases tree with
      | anyMap entries => exact iff_of_true trivial fun _ _ => trivial
      | strMap fields => exact iff_of_true trivial fun _ _ => trivial
      | _ => exact isMap.elim
    rw [listed, fits]
    refine opening_next (fun tree => newCWLTypeType context tree role)
        (fun fields => schemaOfMap context fields role)
      (fun entries => by rw [newCWLTypeType]) (fun fields => by rw [newCWLTypeType])
          (fun fields => ?_) isMap
    simp [run, - forget_eq_ok]
  · cases tree with
    | text native =>
        rw [plan, return_of_not_isMap isMap, newCWLTypeType]
        simp [run, Fits, - forget_eq_ok]
    | anyMap entries => exact absurd trivial isMap
    | strMap fields => exact absurd trivial isMap
    | _ => simp [newCWLTypeType, Fits]

/-- What comes after a check that a field is a text. -/
theorem succeeds_after_text {A : Type} {refused : String} {found : Option Tree}
    {next : Except Failure A} :
    Succeeds (asText refused found >>= fun _ => next) ↔ isTextual found = true ∧ Succeeds next := by
  rw [succeeds_bind_const]
  exact and_congr_left fun _ => asText_returns

theorem fieldTypes_return {role : RecordRole} :
    run library yaml (.fieldTypes context fields role) = .ok () ↔
    Fits library yaml (.fieldTypes context fields role) ∧
      Return library yaml (plan library yaml left (.fieldTypes context fields role)) := by
  rw [run, plan, newRecordField, typeTrees_typeChildrenOfFields, planOfFieldTypes, <- succeeds_unit]
  simp only [Fits]
  apply after_import
  rw [succeeds_after_text, succeeds_after_text, succeeds_after_text, lookup_typeChildrenOfFields]
  by_cases texts : (isTextual (fields.lookup "name") && isTextual (fields.lookup "label") &&
      isTextual (fields.lookup "doc")) = true
  · rw [if_pos texts]
    simp only [Bool.and_eq_true] at texts
    simp only [texts, true_and]
    cases fields.lookup "type" with
    | none => simp
    | some tree => simp [typeChildOf, run, - forget_eq_ok]
  · rw [if_neg texts]
    simp only [Bool.and_eq_true] at texts
    refine iff_of_false ?_ ?_
    · rintro ⟨name, label, doc, _⟩
      exact texts ⟨⟨name, label⟩, doc⟩
    · rintro ⟨⟨name, label, doc⟩, _⟩
      exact texts ⟨⟨name, label⟩, doc⟩

theorem fieldOfMap_succeeds {role : RecordRole} :
    Succeeds (fieldOfMap context (typeChildrenOfFields context fields) role) ↔
    FitsField context fields role ∧
      Return library yaml (.fieldTypes context fields role :: planOfBinding context
          (bindingKey role) fields) := by
  have bound {caller binder key : String} {role : RecordRole} {parse : Tree -> Except Failure Unit}
      {fits : Tree -> Prop}
      (binds : Succeeds (bindingOf key binder parse (typeChildrenOfFields context fields)) ↔
        FitsBinding fits key fields ∧ Return library yaml (planOfBinding context key fields)) :
      Succeeds (do
        wrap caller (newRecordField context (typeChildrenOfFields context fields) role)
        bindingOf key binder parse (typeChildrenOfFields context fields) : Except Failure Unit) ↔
      FitsBinding fits key fields ∧
        Return library yaml (.fieldTypes context fields role :: planOfBinding context
            key fields) := by
    rw [return_cons, run, <- succeeds_unit, succeeds_bind_const, succeeds_wrap, binds]
    exact and_left_comm
  cases role with
  | input => exact bound (bindingOf_succeeds (fun tree => inputBinding_succeeds) fun tree => inputBinding_opens)
  | commandInput => exact bound (bindingOf_succeeds (fun tree => inputBinding_succeeds) fun tree => inputBinding_opens)
  | output => exact bound (bindingOf_succeeds (fun tree => outputBinding_succeeds) fun tree => outputBinding_opens)
  | commandOutput => exact bound (bindingOf_succeeds (fun tree => outputBinding_succeeds) fun tree => outputBinding_opens)

theorem field_returns {tree : Tree} {role : RecordRole} :
    run library yaml (.field context tree role) = .ok () ↔
    Fits library yaml (.field context tree role) ∧
      Return library yaml (plan library yaml left (.field context tree role)) := by
  rw [run, <- succeeds_unit]
  by_cases isMap : IsMap tree
  · have listed : plan library yaml left (.field context tree role) = .map context tree ::
        ((opened context tree).map fun fields =>
          .fieldTypes context fields role :: planOfBinding context (bindingKey role) fields).getD
              [] := by
      cases tree with
      | list elements => exact isMap.elim
      | _ => rfl
    have fits : Fits library yaml (.field context tree role) ↔
        forall fields, opened context tree = some fields -> FitsField context fields role := by
      cases tree with
      | anyMap entries => exact Iff.rfl
      | strMap fields => exact Iff.rfl
      | _ => exact isMap.elim
    rw [listed, fits]
    exact opening_next (fun tree => Types.recordField context tree role)
        (fun fields => fieldOfMap context fields role)
      (fun entries => by rw [Types.recordField]) (fun fields => by rw [Types.recordField])
      (fun fields => fieldOfMap_succeeds) isMap
  · cases tree with
    | list elements =>
        rw [plan, return_of_not_isMap isMap, Types.recordField, fieldOfList, succeeds_bind_const,
            succeeds_wrap,
          @alternatives_succeed library yaml, and_comm]
        refine and_congr_left fun _ => ?_
        cases role <;> simp [Fits]
    | anyMap entries => exact absurd trivial isMap
    | strMap fields => exact absurd trivial isMap
    | _ => simp [Types.recordField, Fits]

theorem fields_return {tree : Tree} {role : RecordRole} :
    run library yaml (.fields context tree role) = .ok () ↔
    Fits library yaml (.fields context tree role) ∧
      Return library yaml (plan library yaml left (.fields context tree role)) := by
  rw [run, <- succeeds_unit]
  by_cases isMap : IsMap tree
  · have listed : plan library yaml left (.fields context tree role) = .map context tree ::
        ((opened context tree).map fun fields => fields.map fun field =>
            .field context field.2 role).getD [] := by
      cases tree with
      | list elements => exact isMap.elim
      | _ => rfl
    have fits : Fits library yaml (.fields context tree role) ↔
        forall fields, opened context tree = some fields -> True := by
      cases tree with
      | anyMap entries => exact iff_of_true trivial fun _ _ => trivial
      | strMap fields => exact iff_of_true trivial fun _ _ => trivial
      | _ => exact isMap.elim
    rw [listed, fits]
    refine opening_next (fun tree => recordFieldArray context tree role)
      (fun fields => everyField (fields.map fun field => field.2.field) role)
      (fun entries => by rw [recordFieldArray]) (fun fields => by rw [recordFieldArray])
      (fun fields => ?_) isMap
    rw [typeChildrenOfFields_eq, List.map_map, everyField_map, succeeds_unit, true_and]
    exact forM_returns fun field => Iff.rfl
  · cases tree with
    | list elements =>
        rw [plan, return_of_not_isMap isMap, recordFieldArray, elementFields_eq, everyField_map,
            succeeds_unit]
        simp only [Fits, true_and]
        exact forM_returns fun element => Iff.rfl
    | anyMap entries => exact absurd trivial isMap
    | strMap fields => exact absurd trivial isMap
    | _ => simp [recordFieldArray, Fits]

/-! ## Requirements -/

/-- A listing takes a text, and of the maps those that give a file or a directory. -/
theorem isListing_of_value {tree : Tree} {name : String} {value : Value}
    (made : newCWLType library context tree name = .ok value) : isListing value = true ↔
      isText tree = true ∨ Exists fun fields => opened context tree = some fields ∧
      IsFileMap library fields := by
  rw [<- class_of_value made]
  by_cases isMap : IsMap tree
  · have other : isText tree = false := by
      cases tree with
      | text native => exact isMap.elim
      | _ => rfl
    rw [other]
    cases read : makeStringMap context tree with
    | error failure =>
        rw [newCWLType_of_refused read] at made
        cases made
    | ok found =>
        rcases strMap_of_isMap isMap read with ⟨fields, rfl⟩
        rw [newCWLType_of_opened read] at made
        rcases ofMap_cases made with ⟨isFile, _⟩ | ⟨⟨entries, rfl⟩, _⟩
        · cases value <;> simp_all [isListing, isFileOrDirectory]
        · simp [isListing, isFileOrDirectory]
  · cases tree with
    | anyMap entries => exact absurd trivial isMap
    | strMap fields => exact absurd trivial isMap
    | list elements =>
        rw [newCWLType] at made
        rcases map_ok_iff.mp made with ⟨values, _, rfl⟩
        simp [isListing, isFileOrDirectory, isText]
    | uint64 value => cases made
    | float64 number =>
        cases number with
        | none => cases made
        | some number =>
            cases made
            simp [isListing, isFileOrDirectory, isText]
    | _ =>
        cases made
        simp [isListing, isFileOrDirectory, isText]

theorem listingFromValue_succeeds {tree : Tree} :
    Succeeds (listingFromValue library context tree) ↔
      (isText tree = true ∨ Exists fun fields => opened context tree = some fields ∧
          IsFileMap library fields) ∧
        Return library yaml [.value context tree ""] := by
  rw [listingFromValue, succeeds_bind, return_cons, run, forget_succeeds]
  simp only [wrap_eq_ok, return_nil, and_true]
  constructor
  · rintro ⟨value, made, listing⟩
    exact ⟨(isListing_of_value made).mp (succeeds_ite.mp listing), value, made⟩
  · rintro ⟨listing, value, made⟩
    exact ⟨value, made, succeeds_ite.mpr ((isListing_of_value made).mpr listing)⟩

theorem listing_returns {tree : Tree} :
    run library yaml (.listing context tree) = .ok () ↔ Fits library yaml (.listing context tree) ∧
      Return library yaml (plan library yaml left (.listing context tree)) := by
  rw [run, <- succeeds_unit, plan, return_cons, run_map, newListingFromInterface, succeeds_bind]
  simp only [Fits]
  cases read : makeStringMap context tree with
  | error failure => simp
  | ok found =>
      simp only [Except.ok.injEq, exists_eq_left', forall_eq', succeeds_ok, true_and]
      have other (noMap : ¬ IsMap found) (fits : FitsListing library found ↔ isText found = true) :
          Succeeds (listingFromValue library context found) ↔
            FitsListing library found ∧ Return library yaml [.value context found ""] := by
        rw [@listingFromValue_succeeds library yaml, opened_of_not_isMap noMap, fits]
        simp
      cases found with
      | anyMap entries => exact absurd read makeStringMap_ne_anyMap
      | strMap fields =>
          simp only [FitsListing]
          by_cases entry : (fields.lookup "entry").isSome = true
          · rw [if_pos entry, if_pos entry, if_pos entry, return_nil, and_true]
            exact succeeds_ite
          · rw [if_neg entry, if_neg entry, if_neg entry, @listingFromValue_succeeds library yaml]
            refine and_congr_left fun returned => ?_
            have parts := ((@value_returns library yaml left _ _ _).mp
                (return_cons.mp returned).1).2
            simp only [plan, return_cons, run_map] at parts
            rw [opened_of_returned parts.1]
            simp [isText]
      | text native => exact other id (iff_of_true trivial rfl)
      | _ => exact other id (iff_of_false id Bool.false_ne_true)

theorem createListing_succeeds {tree : Tree} : Succeeds (createListing library context tree) ↔
    tree ≠ .null ∧ Return library yaml (planOfListing context tree) := by
  cases tree with
  | null => simp [createListing]
  | list elements =>
      rw [createListing, planOfListing, succeeds_unit]
      simp only [ne_eq, reduceCtorEq, not_false_iff, true_and]
      exact forM_returns fun element => wrap_eq_ok
  | _ => simp [createListing, planOfListing, run, <- succeeds_unit]

theorem decodeRequirement_succeeds {cls : RequirementClass} {struct : List (String × FieldKind)}
    {tree : Tree} :
    Succeeds (decodeRequirement cls struct tree) ↔
    decodesMap (("class", .string) :: struct) tree = true :=
  succeeds_ite

theorem getEnfDefArray_succeeds {tree : Tree} : Succeeds (getEnfDefArray context tree) ↔
    (forall found, makeStringMap context tree = .ok found -> FitsEnvironment found) ∧
      Return library yaml [.map context tree] := by
  rw [getEnfDefArray, succeeds_bind, return_cons, run_map]
  cases makeStringMap context tree with
  | error failure => simp
  | ok found =>
      simp only [Except.ok.injEq, exists_eq_left', forall_eq', succeeds_ok, return_nil, and_true]
      cases found with
      | list elements => exact succeeds_ite
      | _ => simp [FitsEnvironment]

/-- A constructor that opens a map and asks for an entry of it. -/
theorem entry_returns {A : Type} {tree : Tree} {key : String} {result : Except Failure A}
    {calls : Tree -> List Call} {fits : List (String × Tree) -> Tree -> Prop}
    (refused : forall failure, makeStringMap context tree = .error failure -> ¬ Succeeds result)
    (entry : forall fields entry, makeStringMap context tree = .ok (.strMap fields) ->
    fields.lookup key = some entry ->
      (Succeeds result ↔ fits fields entry ∧ Return library yaml (calls entry)))
    (other : forall found, makeStringMap context tree = .ok found ->
      (forall fields entry, found = .strMap fields -> fields.lookup key ≠ some entry) ->
      ¬ Succeeds result) :
    Succeeds result ↔
      (Exists fun fields => opened context tree = some fields ∧ Exists fun entry =>
          fields.lookup key = some entry ∧
        fits fields entry) ∧
      Return library yaml (.map context tree ::
        (((opened context tree).bind fun fields => fields.lookup key).map calls).getD []) := by
  rw [return_cons, run_map]
  cases read : makeStringMap context tree with
  | error failure => simp [refused failure read]
  | ok found =>
      rw [succeeds_ok, true_and]
      cases asked : (opened context tree).bind fun fields => fields.lookup key with
      | some tree =>
          rcases Option.bind_eq_some_iff.mp asked with ⟨fields, opens, present⟩
          rw [entry fields tree (opened_eq_some.mp opens) present, opens]
          simp [present]
      | none =>
          refine iff_of_false (other found read ?_) ?_
          · rintro fields entry rfl present
            rw [opened_eq_some.mpr read, Option.bind_some, present] at asked
            cases asked
          · rintro ⟨⟨fields, opens, entry, present, _⟩, _⟩
            rw [opens, Option.bind_some, present] at asked
            cases asked

theorem envVar_succeeds {tree : Tree} : Succeeds (newEnvVarRequirement context tree) ↔
    FitsRequirement context "EnvVarRequirement" tree ∧
      Return library yaml (planOfRequirement context "EnvVarRequirement" tree) := by
  apply entry_returns
  · intro failure refused
    simp [newEnvVarRequirement, refused, succeeds_bind]
  · intro fields envDef read present
    rw [newEnvVarRequirement, read, succeeds_bind]
    simp only [wrap_eq_ok, Except.ok.injEq, exists_eq_left', present, succeeds_bind_const,
        succeeds_wrap,
      decodeRequirement_succeeds, @getEnfDefArray_succeeds library yaml]
    exact and_right_comm
  · intro found read absent
    rw [newEnvVarRequirement, read, succeeds_bind]
    simp only [wrap_eq_ok, Except.ok.injEq, exists_eq_left']
    cases found with
    | strMap fields =>
        cases present : fields.lookup "envDef" with
        | none => simp [present]
        | some envDef => exact absurd present (absent fields envDef rfl)
    | _ => simp

theorem initialWorkDir_succeeds {tree : Tree} :
    Succeeds (newInitialWorkDirRequirement library context tree) ↔
    FitsRequirement context "InitialWorkDirRequirement" tree ∧
      Return library yaml (planOfRequirement context "InitialWorkDirRequirement" tree) := by
  apply entry_returns
  · intro failure refused
    simp [newInitialWorkDirRequirement, refused, succeeds_bind]
  · intro fields listing read present
    rw [newInitialWorkDirRequirement, read, succeeds_bind]
    simp only [Except.ok.injEq, exists_eq_left', present, succeeds_bind_const, succeeds_wrap,
      decodeRequirement_succeeds, @createListing_succeeds library yaml]
    exact and_right_comm
  · intro found read absent
    rw [newInitialWorkDirRequirement, read, succeeds_bind]
    simp only [Except.ok.injEq, exists_eq_left']
    cases found with
    | strMap fields =>
        cases present : fields.lookup "listing" with
        | none => simp [present]
        | some listing => exact absurd present (absent fields listing rfl)
    | _ => simp

theorem schemaDef_succeeds {tree : Tree} : Succeeds (newSchemaDefRequirement tree context).1 ↔
    FitsRequirement context "SchemaDefRequirement" tree ∧
      Return library yaml (planOfRequirement context "SchemaDefRequirement" tree) := by
  apply entry_returns
  · intro failure refused
    simp [newSchemaDefRequirement, refused]
  · intro fields types read present
    simp only [newSchemaDefRequirement, read, present, return_cons, return_nil, and_true, run,
        forget_succeeds]
    cases newCWLTypeTypeArray context types .input with
    | error failure => simp
    | ok schemata =>
        rw [succeeds_ok, and_true]
        split_ifs with fit
        · exact iff_of_true (succeeds_ok.mpr trivial) fit
        · exact iff_of_false succeeds_error.mp fit
  · intro found read absent
    cases found with
    | strMap fields =>
        cases present : fields.lookup "types" with
        | none => simp [newSchemaDefRequirement, read, present]
        | some types => exact absurd present (absent fields types rfl)
    | _ => simp [newSchemaDefRequirement, read]

theorem resource_succeeds {tree : Tree} : Succeeds (newResourceRequirement context tree) ↔
    FitsRequirement context "ResourceRequirement" tree ∧
      Return library yaml (planOfRequirement context "ResourceRequirement" tree) := by
  rw [newResourceRequirement, succeeds_bind]
  simp only [FitsRequirement, planOfRequirement, if_true, return_cons, run_map,
      return_nil, and_true]
  cases makeStringMap context tree with
  | error failure => simp
  | ok found =>
      simp only [Except.ok.injEq, exists_eq_left', forall_eq', succeeds_ok, and_true]
      by_cases fit : decodesMap [("class", .string)] found = true
      · rw [if_pos fit]
        refine succeeds_ite.trans ?_
        rw [List.all_eq_true]
        simp [fit]
      · rw [if_neg fit]
        simp [fit]

theorem requirement_returns {className : String} {tree : Tree} :
    run library yaml (.requirement context className tree) = .ok () ↔
      Fits library yaml (.requirement context className tree) ∧
        Return library yaml (plan library yaml left (.requirement context className tree)) := by
  rw [run, plan, forget_succeeds, Fits]
  unfold newRequirement
  split
  · simp [FitsRequirement]
  · simp [newDockerRequirement, decodeRequirement_succeeds, FitsRequirement, planOfRequirement]
  · simp [newShellCommandRequirement, decodeRequirement_succeeds, FitsRequirement,
      planOfRequirement]
  · rw [succeeds_wrap]
    exact resource_succeeds
  · simp [newInlineJavascriptRequirement, decodeRequirement_succeeds, FitsRequirement,
      planOfRequirement]
  · rw [succeeds_wrap]
    exact envVar_succeeds
  · simp [newStepInputExpressionRequirement, decodeRequirement_succeeds, FitsRequirement,
      planOfRequirement]
  · rw [succeeds_wrap, newShockRequirement, succeeds_ite]
    simp [FitsRequirement, planOfRequirement]
  · rw [succeeds_wrap]
    exact initialWorkDir_succeeds
  · simp [newScatterFeatureRequirement, decodeRequirement_succeeds, FitsRequirement,
      planOfRequirement]
  · simp [newMultipleInputFeatureRequirement, decodeRequirement_succeeds, FitsRequirement,
      planOfRequirement]
  · rw [succeeds_wrap]
    exact schemaDef_succeeds
  · simp [FitsRequirement, planOfRequirement]
  · simp_all [FitsRequirement]

theorem requirementObject_returns {tree : Tree} :
    run library yaml (.requirementObject context tree) = .ok () ↔
      Fits library yaml (.requirementObject context tree) ∧
        Return library yaml (plan library yaml left (.requirementObject context tree)) := by
  rw [run, plan, forget_succeeds, return_cons, run_map, newRequirementFromInterface]
  simp only [Fits]
  cases read : makeStringMap context tree with
  | error failure => simp
  | ok found =>
      have closed (other : forall fields, found ≠ .strMap fields) : opened context tree = none := by
        rw [Option.eq_none_iff_forall_ne_some]
        intro fields opens
        rw [opened_eq_some, read] at opens
        exact other fields (Except.ok.inj opens)
      cases found with
      | strMap fields =>
          rw [opened_eq_some.mpr read]
          cases classified : getClass fields with
          | error text => simp [classified]
          | ok className => simp [classified, run, - forget_eq_ok]
      | _ => simp [closed]

/-- The loop of `CreateRequirementArray` over requirements that may not be refused. -/
theorem createAll_succeeds {A : Type} {optional : Bool} {caller : String}
    {attempt : A -> Context -> Except Failure Requirement × Context} {calls : Context -> A -> Call}
    {planned : List A -> Context -> List Call}
    (runs : forall context value, run library yaml (calls context value) = forget
    (attempt value context).1)
    (plansNil : forall context, planned [] context = [])
    (plansCons : forall value rest context, planned (value :: rest) context =
      attempted optional (calls context value) :: planned rest (attempt value context).2)
    (list : List A) : Succeeds (createAll optional caller (list.map attempt) context).1 ↔
      Return library yaml (planned list context) := by
  induction list generalizing context with
  | nil => simp [createAll, plansNil]
  | cons head tail inductionHypothesis =>
      rw [plansCons, return_cons, <- @inductionHypothesis (attempt head context).2,
          List.map_cons, createAll]
      have ran := runs context head
      cases tried : attempt head context with
      | mk result next =>
          rw [tried] at ran
          have hinted := @run_hint library yaml (calls context head)
          cases result with
          | ok requirement => cases optional <;> simp [attempted, hinted, ran]
          | error failure =>
              cases failure <;> cases optional <;> simp [attempted, hinted, ran]

theorem requirements_return {tree : Tree} {optional : Bool} :
    run library yaml (.requirements context tree optional) = .ok () ↔
      Fits library yaml (.requirements context tree optional) ∧
        Return library yaml (plan library yaml (leaving library)
            (.requirements context tree optional)) := by
  have entries {fields : List (String × Tree)} {caller : String} :
      Succeeds (createAll optional caller
          (fields.map fun field => newRequirement library field.1 field.2) context).1 ↔
      Return library yaml (planOfEntries (leaving library) optional fields context) :=
    createAll_succeeds (fun context (field : String × Tree) => rfl) (fun _ => rfl)
        (fun _ _ _ => rfl) fields
  have objects {elements : List Tree} {caller : String} :
      Succeeds (createAll optional caller
        (elements.map fun element => newRequirementFromInterface library element) context).1 ↔
      Return library yaml (planOfObjects (leaving library) optional elements context) :=
    createAll_succeeds (fun context (element : Tree) => rfl) (fun _ => rfl)
      (fun _ _ _ => by rw [planOfObjects, leftByObject_leaving]) elements
  rw [run, forget_succeeds]
  by_cases isMap : IsMap tree
  · have listed : plan library yaml (leaving library) (.requirements context tree optional) =
      .map context tree ::
        ((opened context tree).map fun fields => planOfEntries (leaving library) optional fields
            context).getD [] := by
      cases tree with
      | list elements => exact isMap.elim
      | _ => rfl
    have fits : Fits library yaml (.requirements context tree optional) ↔
        forall fields, opened context tree = some fields -> True := by
      cases tree with
      | anyMap entries => exact iff_of_true trivial fun _ _ => trivial
      | strMap fields => exact iff_of_true trivial fun _ _ => trivial
      | _ => exact isMap.elim
    rw [listed, fits]
    refine opening_returns isMap (fun failure refused => ?_) fun fields read => ?_
    · rw [createRequirementArray, refused]
    · rw [createRequirementArray, read, true_and]
      exact entries
  · cases tree with
    | list elements =>
        rw [plan, return_of_not_isMap isMap]
        simp only [Fits, true_and]
        exact objects
    | anyMap entries => exact absurd trivial isMap
    | strMap fields => exact absurd trivial isMap
    | _ => simp [createRequirementArray, makeStringMap, Fits]

theorem document_returns {tree : Tree} :
    run library yaml (.document context tree) = .ok () ↔
    Fits library yaml (.document context tree) ∧
      Return library yaml (plan library yaml left (.document context tree)) := by
  have round {caller name key : String} {tree : Tree} :
      Succeeds ((wrap caller (newCWLType library context tree name)).map fun value =>
          (key, value)) ↔
        run library yaml (.value context tree name) = .ok () := by
    rw [succeeds_map, succeeds_wrap, run, forget_succeeds]
  rw [run, forget_succeeds]
  by_cases isMap : IsMap tree
  · have listed : plan library yaml left (.document context tree) = .map context tree ::
        ((opened context tree).map fun fields => fields.map fun field =>
            .value context field.2 field.1).getD [] := by
      cases tree with
      | list elements => exact isMap.elim
      | _ => rfl
    have fits : Fits library yaml (.document context tree) ↔
        forall fields, opened context tree = some fields -> True := by
      cases tree with
      | anyMap entries => exact iff_of_true trivial fun _ _ => trivial
      | strMap fields => exact iff_of_true trivial fun _ _ => trivial
      | _ => exact isMap.elim
    rw [listed, fits]
    refine opening_returns isMap (fun failure refused => ?_) fun fields read => ?_
    · rw [newJobDocument, refused]
    · rw [newJobDocument, read, true_and]
      exact loop_returns fun field => round
  · cases tree with
    | list elements =>
        rw [plan, return_of_not_isMap isMap, newJobDocument]
        simp only [Fits, true_and]
        exact loop_returns fun element => round
    | anyMap entries => exact absurd trivial isMap
    | strMap fields => exact absurd trivial isMap
    | _ => simp [newJobDocument, makeStringMap, Fits]

theorem job_returns {input : List UInt8} :
    run library yaml (.job input) = .ok () ↔ Fits library yaml (.job input) ∧
      Return library yaml (plan library yaml left (.job input)) := by
  rw [run, plan, forget_succeeds, parseJob]
  simp only [Fits]
  cases input with
  | nil => simp
  | cons first rest =>
      simp only [List.isEmpty_cons, Bool.false_eq_true, if_false, ne_eq, reduceCtorEq,
          not_false_iff, true_and]
      cases jobTree yaml (first :: rest) with
      | none => simp
      | some tree => simp [run, - forget_eq_ok]

theorem newNamedCWLType_succeeds : Succeeds (newNamedCWLType library context fields) ↔
    ((fields.lookup "value").isSome = true ∧ isTextual (fields.lookup "id") = true) ∧
      Return library yaml (planOfNamed context fields) := by
  unfold newNamedCWLType planOfNamed
  cases fields.lookup "value" with
  | none => simp
  | some tree =>
      dsimp only
      rw [return_cons, run_map]
      cases makeStringMap context tree with
      | error failure => simp
      | ok value =>
          cases fields.lookup "id" with
          | none => simp [isTextual, textOf, run, - forget_eq_ok]
          | some id => cases id <;> simp [isTextual, isText, textOf, run, - forget_eq_ok]

theorem named_returns {tree : Tree} : run library yaml (.named context tree) = .ok () ↔
    Fits library yaml (.named context tree) ∧
    Return library yaml (plan library yaml left (.named context tree)) := by
  rw [run, forget_succeeds, plan, return_cons, run_map, newNamed]
  simp only [Fits]
  cases read : makeStringMap context tree with
  | error failure => simp
  | ok found =>
      have closed (other : forall fields, found ≠ .strMap fields) : opened context tree = none := by
        rw [Option.eq_none_iff_forall_ne_some]
        intro fields opens
        rw [opened_eq_some, read] at opens
        exact other fields (Except.ok.inj opens)
      cases found with
      | strMap fields =>
          rw [opened_eq_some.mpr read]
          dsimp only
          rw [@newNamedCWLType_succeeds library yaml]
          simp
      | _ => simp [closed]

theorem results_return {tree : Tree} : run library yaml (.results context tree) = .ok () ↔
    Fits library yaml (.results context tree) ∧
    Return library yaml (plan library yaml left (.results context tree)) := by
  rw [run, forget_succeeds, newJobDocumentFromNamedTypes]
  by_cases isMap : IsMap tree
  · refine iff_of_false ?_ fun both => ?_
    · cases read : makeStringMap context tree with
      | error failure => simp
      | ok found =>
          rcases strMap_of_isMap isMap read with ⟨fields, rfl⟩
          exact succeeds_error.mp
    · cases tree with
      | list elements => exact isMap
      | _ => exact both.1
  · rw [makeStringMap_of_not_isMap isMap]
    cases tree with
    | list elements =>
        rw [plan, return_of_not_isMap isMap]
        simp only [Fits, true_and]
        exact loop_returns fun element => by rw [succeeds_wrap, run, forget_succeeds]
    | anyMap entries => exact absurd trivial isMap
    | strMap fields => exact absurd trivial isMap
    | _ => simp [Fits]

/-- A call whose errors are passed over. -/
def IsHint : Call -> Prop
  | .hint _ => True
  | _ => False

theorem returns_step {call : Call} (counts : ¬ IsHint call) : run library yaml call = .ok () ↔
    Fits library yaml call ∧ Return library yaml (plan library yaml (leaving library) call) := by
  cases call with
  | map context tree =>
      rw [run_map, @makeStringMap_succeeds library yaml, plan]
      simp
  | value context tree name => exact value_returns
  | fileOrDirectory context tree => exact fileOrDirectory_returns
  | typeName context native role => exact typeName_returns
  | types context tree role => exact types_return
  | type context tree role => exact type_returns
  | schema context fields role => exact schema_returns
  | items context fields role => exact items_return
  | fieldTypes context fields role => exact fieldTypes_return
  | field context tree role => exact field_returns
  | fields context tree role => exact fields_return
  | listing context tree => exact listing_returns
  | requirement context className tree => exact requirement_returns
  | requirementObject context tree => exact requirementObject_returns
  | hint call => exact absurd trivial counts
  | requirements context tree optional => exact requirements_return
  | document context tree => exact document_returns
  | job input => exact job_returns
  | named context tree => exact named_returns
  | results context tree => exact results_return

end

end Returns
end Cwl
end Awe
