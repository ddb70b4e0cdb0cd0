import Awe.Cwl.Types
import Awe.Cwl.InputCheck
import Awe.Core.Sources

namespace Awe
namespace Cwl
namespace TypePositions

open Lib Lib.Path Natives Cwl.Types InputCheck

/-!
# What a type means in each position

A type is written as a text or as a list of texts, and a parameter may hold it
directly, under the key `type`, or in a list under that key.  Whatever the
position, it should give the same alternatives: `T?` those of `T` and null,
`T[]` the arrays of `T`, a name itself.

The constructors store the alternatives as one type, as a list of types or as
the value that they found, and each reader of the field knows its own part of
that.  `IsOptional` knows none of what the constructor of its parameter makes.
-/

/-- `OutputParameter`, as far as its type is concerned. -/
structure OutputParameter where
  id : String
  type : TypeField

/-- The field `Type` after the decoder has run over a map whose entry was not parsed: what stands
under a differently cased key. -/
def rawTypeField (name : String) (fields : List (String × Tree)) : TypeField :=
  match findField name fields with
  | some (.list elements) => .interfaces (elements.map fun _ => none)
  | _ => .other

section

variable (library : Library) (context : Context)

/-- The entry `type` of an input: a list gives its types, anything else the first one. -/
def inputType : Tree -> Except Failure TypeField
  | .list elements => do
      let types <- wrap "(NewInputParameter) NewCWLType_TypeArray returns: "
        (newCWLTypeTypeArray context (.list elements) .input)
      if types.isEmpty then .error (.error "(NewInputParameter) len(inputParameterTypeArray) == 0")
          else pure (.types types)
  | tree => do
      match <- wrap "(NewInputParameter) NewCWLType_Type returns: "
          (newCWLTypeType context tree .input) with
      | [] => .error (.panic "index out of range")
      | first :: _ => pure (.single first)

def inputParameterStruct : List (String × FieldKind) :=
  [("ID", .string), ("label", .string), ("secondaryFiles", .interface), ("format", .list .string),
      ("streamable", .bool),
    ("doc", .string), ("default", .typed), ("type", .interface)]

/-- `NewInputParameter`, of a map. -/
def inputParameterOfFields (fields : List (String × Tree)) : Except Failure InputParameter := do
  let (default, fields) <- parsedEntry "default"
    (fun tree => wrap "(NewInputParameter) NewCWLType returned: "
        (newCWLType library context tree "")) fields
  let (type, fields) <- parsedEntry "type" (inputType context) fields
  if decodesStruct inputParameterStruct fields &&
      ((findField "inputBinding" fields).map (decodesMap commandLineBindingStruct)).getD true then
    pure ⟨textOf (findField "ID" fields), type.getD (rawTypeField "type" fields), default⟩
  else .error (.error "(NewInputParameter) mapstructure.Decode returned: ")

/-- `NewInputParameter`. -/
def newInputParameter (original : Tree) : Except Failure InputParameter := do
  match <- wrap "(NewInputParameter) MakeStringMap returned: " (makeStringMap context original) with
  | .text native => do
      let types <- wrap "(NewInputParameter) NewCWLType_TypeFromString returned: "
        (newCWLTypeTypeFromString context native .input)
      pure ⟨"", .types types, none⟩
  | .list elements => do
      let types <- wrap "(NewInputParameter) NewCWLType_Type returned: "
        (newCWLTypeTypeArray context (.list elements) .input)
      pure ⟨"", .types types, none⟩
  | .strMap fields => inputParameterOfFields library context fields
  | _ => .error (.error "(NewInputParameter) cannot parse input type ")

/-- A list with one type is stored as that type. -/
def collapse : List Schema -> TypeField
  | [type] => .single type
  | types => .types types

/-- The entry `type` of an output. -/
def outputType (role : Role) : Tree -> Except Failure TypeField
  | .list elements => do
      let types <- wrap "(NewOutputParameterFromInterface) NewCWLType_TypeArray returned: "
        (newCWLTypeTypeArray context (.list elements) role)
      if types.isEmpty then
          .error (.error "(NewOutputParameterFromInterface) len(outputParameterTypeArray) == 0")
      else pure (collapse types)
  | tree => do
      let types <- wrap "(NewOutputParameterFromInterface) NewCWLType_Type returned: "
          (newCWLTypeType context tree role)
      pure (collapse types)

def outputParameterStruct : List (String × FieldKind) :=
  [("Id", .string), ("Label", .string), ("SecondaryFiles", .list .string), ("Format", .string),
      ("Streamable", .bool),
    ("Type", .interface)]

/-- `NewOutputParameterFromInterface`, of a map.  The decoder takes the entry `Type` before `type`.
-/
def outputParameterOfFields (fields : List (String × Tree)) (thisID : String) (role : Role) :
    Except Failure OutputParameter := do
  let (_, fields) <- parsedEntry "default"
    (fun tree => wrap "(NewOutputParameterFromInterface) NewCWLType returned: "
        (newCWLType library context tree "")) fields
  let (type, fields) <- parsedEntry "type" (outputType context role) fields
  let (_, fields) <- parsedEntry "outputBinding"
    (fun tree => wrap "(NewOutputParameterFromInterface) NewCommandOutputBinding returns: "
      (newCommandOutputBinding context tree)) fields
  if decodesStruct outputParameterStruct fields &&
      ((findField "OutputBinding" fields).map (decodesMap commandOutputBindingStruct)).getD true
          then
    let id := if textOf (findField "Id" fields) = "" then thisID else textOf (findField "Id" fields)
    if id = "" then .error (.error "(NewOutputParameterFromInterface) id empty")
    else if (fields.lookup "Type").isSome then pure ⟨id, rawTypeField "Type" fields⟩
    else pure ⟨id, type.getD (rawTypeField "Type" fields)⟩
  else .error (.error "(NewOutputParameterFromInterface) mapstructure.Decode returned: ")

/-- `NewOutputParameterFromInterface`. -/
def newOutputParameterFromInterface (original : Tree) (thisID : String) (role : Role) :
    Except Failure OutputParameter := do
  match <- wrap "(NewOutputParameterFromInterface) MakeStringMap returned: "
      (makeStringMap context original) with
  | .text native => do
      let types <- wrap "(NewOutputParameterFromInterface) NewCWLType_TypeFromString returned: "
        (newCWLTypeTypeFromString context native .output)
      pure ⟨thisID, collapse types⟩
  | .strMap fields => outputParameterOfFields library context fields thisID role
  | _ => .error (.error "(NewOutputParameterFromInterface) cannot parse output type ")

end

def isNull : Schema -> Bool
  | .basic .null => true
  | _ => false

/-- `IsOptional`. -/
def isOptional : TypeField -> Bool
  | .interfaces elements => elements.any fun element => (element.map isNull).getD false
  | _ => false

/-- The name of a type, as the server keeps it. -/
def serverType (type : Schema) : Core.CWLType :=
  if isNull type then .null else .named type.type2String

/-- The type switch of `GetSourceFromWorkflowInstanceInput`, which has no case for a list of types.
-/
def sourceTypes : TypeField -> Option (List Core.CWLType)
  | .interfaces elements => (elements.mapM id).map fun types => types.map serverType
  | .single type => some [serverType type]
  | _ => none

/-- An input as the server looks at it. -/
def serverInput (parameter : InputParameter) (id : String) : Core.InputParameter where
  id := id
  types := sourceTypes parameter.type

/-- A type as it is written. The marks may be repeated in an expression, while the parser takes
off each of them once. -/
inductive TypeExpr where
  | name (text : String)
  | optional (inner : TypeExpr)
  | list (inner : TypeExpr)

/-- The text of a type. -/
def TypeExpr.text : TypeExpr -> String
  | .name text => text
  | .optional inner => inner.text ++ "?"
  | .list inner => inner.text ++ "[]"

/-- The name ends in one of the two marks. -/
def Marked (text : String) : Prop :=
  ['?'] <:+ text.toList ∨ ['[', ']'] <:+ text.toList

/-- The innermost name is a basic type, or the name of a schema, and is told apart from the marks.
-/
def TypeExpr.Valid (schemata : List String) : TypeExpr -> Prop
  | .name text => text ≠ "" ∧ ¬Marked text ∧
      ((isValidType text).isSome = true ∨ Exists fun schema => schema ∈ schemata ∧
          base text = base schema)
  | .optional inner => inner.Valid schemata
  | .list inner => inner.Valid schemata

/-- What a name stands for. -/
def named (text : String) : Schema :=
  match isValidType text with
  | some basic => .basic basic
  | none => newPointerFromstring text

/-- The Go type of the arrays in a position. -/
def arrayKind : Role -> ArrayKind
  | .input => .input
  | .commandInput => .commandInput
  | .commandOutput => .commandOutput
  | _ => .output

/-- The alternatives of a type. -/
def TypeExpr.alternatives (role : Role) : TypeExpr -> List Schema
  | .name text => [named text]
  | .optional inner => .basic .null :: inner.alternatives role
  | .list inner => [.array (arrayKind role) (inner.alternatives role)]

/-- Two lists hold the same types. -/
def Same (first second : List Schema) : Prop :=
  forall type, type ∈ first ↔ type ∈ second

section

/-- The letters of a basic type, in lower case. -/
theorem valid_letters {text : String} {basic : Basic} (valid : isValidType text = some basic)
    {letter : Char} (same : lowerLetter letter = letter)
    (foreign : forall basic, basic ∈ basics -> letter ∉ basic.text.toList.map Char.toLower) :
    letter ∉ text.toList := by
  intro member
  have found := List.find?_some valid
  have letters : basic.text.toList.map Char.toLower = text.toList.map lowerLetter :=
      of_decide_eq_true found
  refine foreign basic (List.mem_of_find?_eq_some valid) ?_
  rw [letters, <- same]
  exact List.mem_map_of_mem member

theorem not_valid_of_marked {text : String} (marked : Marked text) : isValidType text = none := by
  cases valid : isValidType text with
  | none => rfl
  | some basic =>
      rcases marked with optional | list
      · exact absurd (optional.subset List.mem_cons_self) (valid_letters valid rfl (by decide))
      · exact absurd (list.subset List.mem_cons_self) (valid_letters valid rfl (by decide))

theorem not_valid_of_hash {text : String} (hash : '#' ∈ text.toList) : isValidType text = none := by
  cases valid : isValidType text with
  | none => rfl
  | some basic => exact absurd hash (valid_letters valid rfl (by decide))

theorem marked_optional (text : String) : Marked (text ++ "?") := by
  refine Or.inl ?_
  rw [String.toList_append]
  exact List.suffix_append _ _

theorem marked_list (text : String) : Marked (text ++ "[]") := by
  refine Or.inr ?_
  rw [String.toList_append]
  exact List.suffix_append _ _

/-- A valid text is a name. -/
theorem TypeExpr.name_of_known {type : TypeExpr} {basic : Basic}
    (known : isValidType type.text = some basic) :
    type = .name type.text := by
  cases type with
  | name text => rfl
  | optional inner =>
      rw [text, not_valid_of_marked (marked_optional _)] at known
      cases known
  | list inner =>
      rw [text, not_valid_of_marked (marked_list _)] at known
      cases known

/-- What stands behind the last `#` has the ends of the whole text. -/
theorem suffix_afterHash {ending : List Char} (plain : '#' ∉ ending) (text : String) :
    ending <:+ ("#" ++ afterHash text).toList ↔ ending <:+ text.toList := by
  have behind : ("#" ++ afterHash text).toList = '#' :: (text.toList.splitOn '#').getLastD [] := by
    rw [afterHash, String.toList_append, String.toList_ofList, String.toList_ofList]
    rfl
  rw [behind]
  by_cases hash : '#' ∈ text.toList
  · rcases last_occurrence hash with ⟨front, back, same, missing⟩
    rw [same, splitOn_getLastD front missing]
    constructor
    · exact fun ends => ends.trans (List.suffix_append _ _)
    · intro ends
      rcases List.suffix_or_suffix_of_suffix ends (List.suffix_append front ('#' :: back)) with
          inside | outside
      · exact inside
      · exact absurd (outside.subset List.mem_cons_self) plain
  · rw [List.splitOn_eq_singleton hash, List.getLastD_cons, List.getLastD_nil, List.suffix_cons_iff]
    constructor
    · rintro (whole | ends)
      · rw [whole] at plain
        exact absurd List.mem_cons_self plain
      · exact ends
    · exact Or.inr

theorem marked_afterHash (text : String) : Marked ("#" ++ afterHash text) ↔ Marked text := by
  unfold Marked
  rw [suffix_afterHash (by decide), suffix_afterHash (by decide)]

end

/-! ## How a text is read -/

/-- The texts that are read as they are meant: a name, an optional name, or a list of a basic type.
-/
inductive Simple (role : Role) : TypeExpr -> Prop
  | name (text : String) : Simple role (.name text)
  | optional {text : String} (inner : '#' ∉ text.toList) : Simple role (.optional (.name text))
  | list {text : String} {basic : Basic} (known : isValidType text = some basic)
      (placed : role ≠ .workflowOutput) :
      Simple role (.list (.name text))

/-- An optional list of a basic type, whose null is lost. Both marks are taken off, and only the
inner one leaves a trace in the result. -/
inductive LosesNull (role : Role) : TypeExpr -> Prop
  | optionalList {text : String} {basic : Basic} (known : isValidType text = some basic)
      (placed : role ≠ .workflowOutput) :
      LosesNull role (.optional (.list (.name text)))

section

variable {schemata : List String} {role : Role}

theorem not_suffix_of_not_marked {text : String} (plain : ¬Marked text) :
    hasSuffix text "?" = false ∧ hasSuffix text "[]" = false := by
  constructor
  · exact Bool.eq_false_iff.mpr fun ends => plain (Or.inl (hasSuffix_iff.mp ends))
  · exact Bool.eq_false_iff.mpr fun ends => plain (Or.inr (hasSuffix_iff.mp ends))

theorem optional_suffix (text : String) : hasSuffix (text ++ "?") "?" = true := by
  rw [hasSuffix_iff, String.toList_append]
  exact List.suffix_append _ _

theorem list_suffix (text : String) : hasSuffix (text ++ "[]") "[]" = true := by
  rw [hasSuffix_iff, String.toList_append]
  exact List.suffix_append _ _

/-- Two endings of one text that differ in their last letter. -/
theorem list_not_optional (text : String) : hasSuffix (text ++ "[]") "?" = false := by
  refine Bool.eq_false_iff.mpr fun ends => ?_
  rw [hasSuffix_iff, String.toList_append] at ends
  have short := List.suffix_of_suffix_length_le ends (List.suffix_append text.toList "[]".toList)
      (by decide)
  exact absurd short (by decide)

theorem optional_not_list (text : String) : hasSuffix (text ++ "?") "[]" = false := by
  refine Bool.eq_false_iff.mpr fun ends => ?_
  rw [hasSuffix_iff, String.toList_append] at ends
  have short := List.suffix_of_suffix_length_le (List.suffix_append text.toList "?".toList)
      ends (by decide)
  exact absurd short (by decide)

theorem trimSuffix_none {text ending : String} (missing : hasSuffix text ending = false) :
    trimSuffix text ending = text := by
  unfold trimSuffix
  rw [if_neg (Bool.eq_false_iff.mp missing)]

/-- A text with a `#` is a pointer, marks and all. -/
theorem fromString_hash (schemata : List String) {text : String} (hash : '#' ∈ text.toList)
    (role : Role) :
    newCWLTypeTypeFromString (.of schemata) text role = .ok [newPointerFromstring text] := by
  have some : text ≠ "" := by
    rintro rfl
    cases hash
  rw [newCWLTypeTypeFromString, if_neg some, if_pos hash]

/-- A name, after the mark of an optional type has been taken off. -/
def nameTypes (schemata : List String) (optional : List Schema) (nativeStr : String) :
    Except Failure (List Schema) :=
  match isValidType nativeStr with
  | some basic => .ok (optional ++ [.basic basic])
  | none =>
      if schemata.any fun name => base nativeStr = base name then
          .ok (optional ++ [newPointerFromstring nativeStr])
      else .error (.error ("(NewCWLType_TypeFromString) type " ++ nativeStr ++ " unkown"))

theorem fromString_name {text : String} (some : text ≠ "") (inner : '#' ∉ text.toList)
    (plain : ¬Marked text) (role : Role) :
    newCWLTypeTypeFromString (.of schemata) text role = nameTypes schemata [] text := by
  have ends := not_suffix_of_not_marked plain
  rw [newCWLTypeTypeFromString, if_neg some, if_neg inner]
  dsimp only
  rw [ends.1, trimSuffix_none ends.1, ends.2]
  rfl

theorem fromString_optional {text : String} (inner : '#' ∉ (text ++ "?").toList)
    (notList : hasSuffix text "[]" = false) (role : Role) :
    newCWLTypeTypeFromString (.of schemata) (text ++ "?") role = nameTypes schemata
        [.basic .null] text := by
  have some : text ++ "?" ≠ "" := by
    intro empty
    rw [empty] at inner
    have ends := optional_suffix text
    rw [empty] at ends
    exact absurd ends (by decide)
  rw [newCWLTypeTypeFromString, if_neg some, if_neg inner]
  dsimp only
  rw [optional_suffix, trimSuffix_append, notList]
  rfl

/-- A list, whether it is optional or not. -/
def listTypes (role : Role) (items : String) : Except Failure (List Schema) :=
  match isValidType items with
  | none => .error (.error ("(NewCWLType_TypeFromString) base_type " ++ items ++ " unkown"))
  | some basic => arrayFromString role [.basic basic]

theorem fromString_list {text : String} (inner : '#' ∉ (text ++ "[]").toList) (role : Role) :
    newCWLTypeTypeFromString (.of schemata) (text ++ "[]") role = listTypes role text := by
  have some : text ++ "[]" ≠ "" := by
    intro empty
    have ends := list_suffix text
    rw [empty] at ends
    exact absurd ends (by decide)
  rw [newCWLTypeTypeFromString, if_neg some, if_neg inner]
  dsimp only
  rw [trimSuffix_none (list_not_optional text), list_suffix, trimSuffix_append]
  rfl

theorem fromString_optionalList {text : String} (inner : '#' ∉ (text ++ "[]" ++ "?").toList)
    (role : Role) :
    newCWLTypeTypeFromString (.of schemata) (text ++ "[]" ++ "?") role = listTypes role text := by
  have some : text ++ "[]" ++ "?" ≠ "" := by
    intro empty
    have ends := optional_suffix (text ++ "[]")
    rw [empty] at ends
    exact absurd ends (by decide)
  rw [newCWLTypeTypeFromString, if_neg some, if_neg inner]
  dsimp only
  rw [trimSuffix_append, list_suffix, trimSuffix_append]
  rfl

theorem arrayFromString_ok (placed : role ≠ .workflowOutput) (items : List Schema) :
    arrayFromString role items = .ok [.array (arrayKind role) items] := by
  cases role with
  | workflowOutput => exact absurd rfl placed
  | _ => rfl

theorem listTypes_ok {items : String} {types : List Schema}
    (read : listTypes role items = .ok types) :
    Exists fun basic => isValidType items = some basic ∧ role ≠ .workflowOutput ∧
      types = [.array (arrayKind role) [.basic basic]] := by
  unfold listTypes at read
  cases known : isValidType items with
  | none =>
      rw [known] at read
      cases read
  | some basic =>
      rw [known] at read
      have placed : role ≠ .workflowOutput := by
        rintro rfl
        cases read
      dsimp only at read
      rw [arrayFromString_ok placed] at read
      exact ⟨basic, rfl, placed, (Except.ok.inj read).symm⟩

theorem nameTypes_ok {optional types : List Schema} {text : String}
    (read : nameTypes schemata optional text = .ok types) :
    types = optional ++ [named text] := by
  unfold nameTypes at read
  unfold named
  cases known : isValidType text with
  | none =>
      rw [known] at read
      dsimp only at read
      split_ifs at read
      exact (Except.ok.inj read).symm
  | some basic =>
      rw [known] at read
      exact (Except.ok.inj read).symm

theorem nameTypes_valid {text : String} (valid : (TypeExpr.name text).Valid schemata)
    (optional : List Schema) :
    nameTypes schemata optional text = .ok (optional ++ [named text]) := by
  unfold nameTypes named
  cases known : isValidType text with
  | some basic => rfl
  | none =>
      rcases valid.2.2 with basic | ⟨schema, member, same⟩
      · rw [known] at basic
        cases basic
      · dsimp only
        rw [if_pos (List.any_eq_true.mpr ⟨schema, member, decide_eq_true same⟩)]

end

/-- What a text is read as, if it is read at all. -/
inductive Reading (role : Role) : TypeExpr -> List Schema -> Prop
  | simple {type : TypeExpr} (simple : Simple role type) :
      Reading role type (type.alternatives role)
  | losesNull {text : String} {basic : Basic} (known : isValidType text = some basic)
      (placed : role ≠ .workflowOutput) :
      Reading role (.optional (.list (.name text))) [.array (arrayKind role) [.basic basic]]
  /-- The mark becomes a part of the name of a pointer. -/
  | swallowed {type : TypeExpr} (hash : '#' ∈ type.text.toList) (marked : Marked type.text) :
      Reading role type [newPointerFromstring type.text]
  | doubled {inner : TypeExpr} (noHash : '#' ∉ (inner.text ++ "?").toList)
      (marked : Marked inner.text)
      (notList : hasSuffix inner.text "[]" = false) :
      Reading role (.optional inner) [.basic .null, newPointerFromstring inner.text]

section

variable {schemata : List String} {role : Role} {type : TypeExpr} {types : List Schema}

theorem named_of_known {text : String} {basic : Basic} (known : isValidType text = some basic) :
    named text = .basic basic := by
  unfold named
  rw [known]

theorem named_of_unknown {text : String} (unknown : isValidType text = none) :
    named text = newPointerFromstring text := by
  unfold named
  rw [unknown]

theorem list_of_suffix (ends : hasSuffix type.text "[]" = true)
    (plain : forall text, type = .name text -> ¬Marked text) :
    Exists fun inner => type = .list inner := by
  cases type with
  | name text => exact absurd (Or.inr (hasSuffix_iff.mp ends)) (plain text rfl)
  | optional inner =>
      rw [TypeExpr.text, optional_not_list] at ends
      cases ends
  | list inner => exact ⟨inner, rfl⟩

/-- The innermost name is not marked. -/
theorem TypeExpr.Valid.plain (valid : type.Valid schemata) (text : String)
    (same : type = .name text) : ¬Marked text := by
  rw [same] at valid
  exact valid.2.1

theorem reading_of_ok (valid : type.Valid schemata)
    (read : newCWLTypeTypeFromString (.of schemata) type.text role = .ok types) :
    Reading role type types := by
  by_cases hash : '#' ∈ type.text.toList
  · rw [fromString_hash schemata hash] at read
    cases read
    by_cases marked : Marked type.text
    · exact Reading.swallowed hash marked
    · cases type with
      | name text =>
          have pointer : named text = newPointerFromstring text :=
              named_of_unknown (not_valid_of_hash hash)
          rw [TypeExpr.text, <- pointer]
          exact Reading.simple (Simple.name text)
      | optional inner => exact absurd (marked_optional _) marked
      | list inner => exact absurd (marked_list _) marked
  · cases type with
    | name text =>
        rw [TypeExpr.text, fromString_name valid.1 hash valid.2.1, nameTypes_valid valid] at read
        cases read
        exact Reading.simple (Simple.name text)
    | list inner =>
        rw [TypeExpr.text, fromString_list hash] at read
        rcases listTypes_ok read with ⟨basic, known, placed, rfl⟩
        rw [TypeExpr.name_of_known known, <- named_of_known known]
        exact Reading.simple (Simple.list known placed)
    | optional inner =>
        rw [TypeExpr.text] at read hash
        cases ends : hasSuffix inner.text "[]" with
        | true =>
            have innerValid : inner.Valid schemata := valid
            rcases list_of_suffix ends innerValid.plain with ⟨items, rfl⟩
            rw [TypeExpr.text, fromString_optionalList hash] at read
            rcases listTypes_ok read with ⟨basic, known, placed, rfl⟩
            rw [TypeExpr.name_of_known known]
            exact Reading.losesNull known placed
        | false =>
            rw [fromString_optional hash ends] at read
            rw [nameTypes_ok read]
            by_cases marked : Marked inner.text
            · rw [named_of_unknown (not_valid_of_marked marked)]
              exact Reading.doubled hash marked ends
            · cases inner with
              | name text =>
                  rw [TypeExpr.text, String.toList_append, List.mem_append, not_or] at hash
                  exact Reading.simple (Simple.optional hash.1)
              | optional others => exact absurd (marked_optional _) marked
              | list others => exact absurd (marked_list _) marked

theorem read_simple (valid : type.Valid schemata) (simple : Simple role type) :
    newCWLTypeTypeFromString (.of schemata) type.text role = .ok (type.alternatives role) := by
  cases simple with
  | name text =>
      by_cases hash : '#' ∈ text.toList
      · rw [TypeExpr.text, fromString_hash schemata hash, <- named_of_unknown
          (not_valid_of_hash hash)]
        rfl
      · rw [TypeExpr.text, fromString_name valid.1 hash valid.2.1, nameTypes_valid valid]
        rfl
  | @optional text inner =>
      have hash : '#' ∉ (text ++ "?").toList := by
        rw [String.toList_append, List.mem_append, not_or]
        exact ⟨inner, by decide⟩
      have noList := (not_suffix_of_not_marked valid.2.1).2
      rw [TypeExpr.text, TypeExpr.text, fromString_optional hash noList, nameTypes_valid valid]
      rfl
  | @list text basic known placed =>
      have hash : '#' ∉ (text ++ "[]").toList := by
        rw [String.toList_append, List.mem_append, not_or]
        refine ⟨fun inside => ?_, by decide⟩
        rw [not_valid_of_hash inside] at known
        cases known
      rw [TypeExpr.text, TypeExpr.text, fromString_list hash, listTypes, known]
      dsimp only
      rw [arrayFromString_ok placed, <- named_of_known known]
      rfl

theorem read_losesNull (valid : type.Valid schemata) (loses : LosesNull role type) :
    Exists fun basic => type.alternatives role =
        [.basic .null, .array (arrayKind role) [.basic basic]] ∧
      newCWLTypeTypeFromString (.of schemata) type.text role = .ok
          [.array (arrayKind role) [.basic basic]] := by
  cases loses with
  | @optionalList text basic known placed =>
      have hash : '#' ∉ (text ++ "[]" ++ "?").toList := by
        rw [String.toList_append, String.toList_append, List.mem_append, List.mem_append,
            not_or, not_or]
        refine ⟨⟨fun inside => ?_, by decide⟩, by decide⟩
        rw [not_valid_of_hash inside] at known
        cases known
      refine ⟨basic, ?_, ?_⟩
      · rw [<- named_of_known known]
        rfl
      · rw [TypeExpr.text, TypeExpr.text, TypeExpr.text, fromString_optionalList hash,
          listTypes, known]
        dsimp only
        rw [arrayFromString_ok placed]

/-- No alternative has a name with a mark. -/
theorem alternatives_plain (valid : type.Valid schemata) {name : String}
    (member : .pointer name ∈ type.alternatives role) :
    ¬Marked name := by
  induction type with
  | name text =>
      have same := List.mem_singleton.mp member
      unfold named at same
      cases known : isValidType text with
      | some basic =>
          rw [known] at same
          cases same
      | none =>
          rw [known] at same
          cases same
          exact fun marked => valid.2.1 ((marked_afterHash text).mp marked)
  | optional inner inductionHypothesis =>
      rcases List.mem_cons.mp member with same | inside
      · cases same
      · exact inductionHypothesis valid inside
  | list inner _ => cases List.mem_singleton.mp member

/-- A reading that is no alternative of the text is lost null, or has a name with a mark. -/
theorem Reading.cases_marked (reading : Reading role type types) :
    (Simple role type ∧ types = type.alternatives role) ∨
      (LosesNull role type ∧ Exists fun basic => types = [.array (arrayKind role) [.basic basic]]) ∨
      Exists fun name => Marked name ∧ .pointer name ∈ types := by
  cases reading with
  | simple simple => exact Or.inl ⟨simple, rfl⟩
  | losesNull known placed => exact Or.inr (Or.inl ⟨LosesNull.optionalList known placed, _, rfl⟩)
  | swallowed hash marked =>
      exact Or.inr (Or.inr ⟨_, (marked_afterHash _).mpr marked, List.mem_cons_self⟩)
  | doubled noHash marked notList =>
      exact Or.inr (Or.inr ⟨_, (marked_afterHash _).mpr marked,
          List.mem_cons_of_mem _ List.mem_cons_self⟩)

end

/-- A type is written as a text or as a list of texts. -/
inductive TypeForm where
  | one (type : TypeExpr)
  | several (types : List TypeExpr)

namespace TypeForm

def Valid (schemata : List String) : TypeForm -> Prop
  | .one type => type.Valid schemata
  | .several types => forall type, type ∈ types -> type.Valid schemata

def tree : TypeForm -> Tree
  | .one type => .text type.text
  | .several types => .list (types.map fun type => .text type.text)

def alternatives (role : Role) : TypeForm -> List Schema
  | .one type => type.alternatives role
  | .several types => types.flatMap fun type => type.alternatives role

end TypeForm

/-- A parameter is a type, a map with a type, or a map with a list of one type. CWL gives all
three the same meaning. -/
inductive Position where
  | direct
  | typed
  | listed

/-- The map with the key `type`, from JSON or from YAML. -/
def typeMap (stringKeys : Bool) (tree : Tree) : Tree :=
  if stringKeys then .strMap [("type", tree)] else .anyMap [(.text "type", tree)]

def Position.tree (stringKeys : Bool) (tree : Tree) : Position -> Tree
  | .direct => tree
  | .typed => typeMap stringKeys tree
  | .listed => typeMap stringKeys (.list [tree])

section

variable (library : Library) (schemata : List String)

/-- `GetTypes` of the input that is made of a tree. -/
def inputTypes (tree : Tree) : Option (List Schema) :=
  match newInputParameter library (.of schemata) tree with
  | .ok parameter => (getTypes parameter.type).toOption
  | .error _ => none

/-- The parser returns the alternatives of the type. The alternatives are compared as sets, since
the order of the list says nothing about the type. -/
def Means (role : Role) (form : TypeForm) : Prop :=
  Exists fun types => newCWLTypeTypeArray (.of schemata) form.tree role = .ok types ∧
      Same types (form.alternatives role)

/-- The inputs in the three positions have the same types. The same type may be written in three
places, and the results of all three go through `GetTypes`. -/
def SameInputs (stringKeys : Bool) (form : TypeForm) : Prop :=
  Exists fun first => Exists fun second => Exists fun third =>
    inputTypes library schemata (Position.direct.tree stringKeys form.tree) = some first ∧
      inputTypes library schemata (Position.typed.tree stringKeys form.tree) = some second ∧
      inputTypes library schemata (Position.listed.tree stringKeys form.tree) = some third ∧
      Same first second ∧ Same first third

end

/-- Each member is read as it is meant, or loses a null that another member has. -/
def Kept (role : Role) : TypeForm -> Prop
  | .one type => Simple role type
  | .several types =>
      (forall type, type ∈ types -> Simple role type ∨ LosesNull role type) ∧
        ((Exists fun type => type ∈ types ∧ LosesNull role type) ->
          Exists fun type => type ∈ types ∧ Simple role type ∧
          .basic .null ∈ type.alternatives role)

/-- The text is read as one type. -/
def OneType : TypeExpr -> Prop
  | .name _ => True
  | .optional (.name text) => isValidType text = some .null
  | .list (.name text) => (isValidType text).isSome = true
  | .optional (.list (.name text)) => (isValidType text).isSome = true
  | _ => False

def Single : TypeForm -> Prop
  | .one type => '#' ∈ type.text.toList ∨ OneType type
  | .several _ => False

/-- The instance does not have the input, and the workflow declares it. Whether it may be missing
is for its types to say. -/
structure Missing (job : Core.Job) (wi : Core.WorkflowInstance) (src : String)
    (parameter : InputParameter) : Prop where
  inputs : Exists fun inputs => wi.inputs = some inputs ∧
      Core.Store.documentGet inputs (base src) = none
  declared : Exists fun workflow => job.context.getWorkflow wi.workflowDefinition = .ok workflow ∧
    Exists fun id => workflow.inputs.find? (fun inp => base inp.id = base src) = some
        (serverInput parameter id)

/-- Whether a missing input is optional is seen only where its type was stored as one type; there,
null must not have been lost. -/
def Reported : Position -> TypeForm -> Prop
  | .typed, .one type => forall inner, type = .optional inner ->
      '#' ∉ type.text.toList ∧ forall items, inner ≠ .list items
  | _, form => .basic .null ∉ form.alternatives .input

/-! ### The parser -/

section

variable {schemata : List String} {role : Role}

theorem null_of_losesNull {type : TypeExpr} (loses : LosesNull role type) :
    .basic .null ∈ type.alternatives role := by
  cases loses
  exact List.mem_cons_self

theorem means_one {type : TypeExpr} (valid : type.Valid schemata) :
    Means schemata role (.one type) ↔ Simple role type := by
  constructor
  · rintro ⟨types, read, same⟩
    have text : newCWLTypeTypeFromString (.of schemata) type.text role = .ok types := by
      rw [TypeForm.tree, newCWLTypeTypeArray] at read
      exact read
    rcases (reading_of_ok valid text).cases_marked with ⟨simple, _⟩ | ⟨loses, basic, rfl⟩
        | ⟨name, marked, member⟩
    · exact simple
    · have lost := (same (.basic .null)).mpr (null_of_losesNull loses)
      cases List.mem_singleton.mp lost
    · exact absurd marked (alternatives_plain valid ((same _).mp member))
  · intro simple
    refine ⟨type.alternatives role, ?_, fun _ => Iff.rfl⟩
    rw [TypeForm.tree, newCWLTypeTypeArray]
    exact read_simple valid simple

/-- The members of a list are read one by one. -/
theorem several_ok_iff {members : List TypeExpr} {types : List Schema} :
    newCWLTypeTypeArray (.of schemata) (TypeForm.several members).tree role = .ok types ↔
      Exists fun results => List.Forall₂ (fun (type : TypeExpr) result =>
        newCWLTypeTypeFromString (.of schemata) type.text role = .ok result) members results ∧
            types = results.flatten := by
  rw [TypeForm.tree, newCWLTypeTypeArray, alternatives, elementTypes_eq, List.map_map]
  have each : forall results : List (List Schema),
      (members.map (newCWLTypeType (.of schemata) ∘ fun type => Tree.text type.text)).mapM
          (fun types => types role) =
        .ok results ↔
      List.Forall₂ (fun (type : TypeExpr) result =>
        newCWLTypeTypeFromString (.of schemata) type.text role = .ok result) members results := by
    intro results
    rw [Fallible.mapM_ok_iff, List.forall₂_map_left_iff]
    have member : forall (type : TypeExpr) (result : List Schema),
        (newCWLTypeType (.of schemata) ∘ fun type : TypeExpr => Tree.text type.text) type
            role = .ok result ↔
          newCWLTypeTypeFromString (.of schemata) type.text role = .ok result := by
      intro type result
      rw [Function.comp_apply, newCWLTypeType, wrap_eq_ok]
    simp only [member]
  constructor
  · intro read
    cases done : (members.map (newCWLTypeType (.of schemata) ∘ fun type =>
        Tree.text type.text)).mapM
        (fun types => types role) with
    | error failure =>
        rw [done] at read
        cases read
    | ok results =>
        rw [done] at read
        exact ⟨results, (each results).mp done, (Except.ok.inj read).symm⟩
  · rintro ⟨results, read, rfl⟩
    rw [(each results).mpr read]
    rfl

theorem mem_results {members : List TypeExpr} {results : List (List Schema)}
    (read : List.Forall₂ (fun (type : TypeExpr) result =>
      newCWLTypeTypeFromString (.of schemata) type.text role = .ok result) members results) :
    (forall type, type ∈ members -> Exists fun result => result ∈ results ∧
      newCWLTypeTypeFromString (.of schemata) type.text role = .ok result) ∧
    (forall result, result ∈ results -> Exists fun type => type ∈ members ∧
      newCWLTypeTypeFromString (.of schemata) type.text role = .ok result) := by
  induction read with
  | nil => exact ⟨fun _ member => (nomatch member), fun _ member => (nomatch member)⟩
  | cons here later inductionHypothesis =>
      constructor
      · intro type member
        rcases List.mem_cons.mp member with rfl | rest
        · exact ⟨_, List.mem_cons_self, here⟩
        · rcases inductionHypothesis.1 type rest with ⟨result, inside, same⟩
          exact ⟨result, List.mem_cons_of_mem _ inside, same⟩
      · intro result member
        rcases List.mem_cons.mp member with rfl | rest
        · exact ⟨_, List.mem_cons_self, here⟩
        · rcases inductionHypothesis.2 result rest with ⟨type, inside, same⟩
          exact ⟨type, List.mem_cons_of_mem _ inside, same⟩

end

section

variable {schemata : List String} {role : Role}

theorem means_several {members : List TypeExpr}
    (valid : forall type, type ∈ members -> type.Valid schemata) :
    Means schemata role (.several members) ↔ Kept role (.several members) := by
  constructor
  · rintro ⟨types, read, same⟩
    rcases several_ok_iff.mp read with ⟨results, each, rfl⟩
    rcases mem_results each with ⟨ofType, ofResult⟩
    have members_read : forall type, type ∈ members -> Simple role type ∨ LosesNull role type := by
      intro type member
      rcases ofType type member with ⟨result, inside, read⟩
      rcases (reading_of_ok (valid type member) read).cases_marked with ⟨simple, _⟩ | ⟨loses, _⟩
          | ⟨name, marked, here⟩
      · exact Or.inl simple
      · exact Or.inr loses
      · have alternative := (same (.pointer name)).mp (List.mem_flatten.mpr ⟨result, inside, here⟩)
        rcases List.mem_flatMap.mp alternative with ⟨other, otherMember, own⟩
        exact absurd marked (alternatives_plain (valid other otherMember) own)
    refine ⟨members_read, ?_⟩
    rintro ⟨type, member, loses⟩
    -- null is still there, so some member has kept it
    have there := (same (.basic .null)).mpr
        (List.mem_flatMap.mpr ⟨type, member, null_of_losesNull loses⟩)
    rcases List.mem_flatten.mp there with ⟨result, inside, null⟩
    rcases ofResult result inside with ⟨other, otherMember, read⟩
    rcases members_read other otherMember with simple | lost
    · rw [read_simple (valid other otherMember) simple] at read
      cases read
      exact ⟨other, otherMember, simple, null⟩
    · rcases read_losesNull (valid other otherMember) lost with ⟨basic, _, array⟩
      rw [array] at read
      cases read
      cases List.mem_singleton.mp null
  · rintro ⟨each, kept⟩
    have readable : forall type, type ∈ members -> Exists fun result =>
        newCWLTypeTypeFromString (.of schemata) type.text role = .ok result := by
      intro type member
      rcases each type member with simple | loses
      · exact ⟨_, read_simple (valid type member) simple⟩
      · rcases read_losesNull (valid type member) loses with ⟨basic, _, array⟩
        exact ⟨_, array⟩
    rcases Fallible.exists_mapM_ok readable with ⟨results, done⟩
    have forall₂ := Fallible.mapM_ok_iff.mp done
    rcases mem_results forall₂ with ⟨ofType, ofResult⟩
    refine ⟨results.flatten, several_ok_iff.mpr ⟨results, forall₂, rfl⟩, fun schema => ?_⟩
    rw [List.mem_flatten, TypeForm.alternatives, List.mem_flatMap]
    constructor
    · rintro ⟨result, inside, here⟩
      rcases ofResult result inside with ⟨type, member, read⟩
      refine ⟨type, member, ?_⟩
      rcases each type member with simple | loses
      · rw [read_simple (valid type member) simple] at read
        cases read
        exact here
      · rcases read_losesNull (valid type member) loses with ⟨basic, alternatives, array⟩
        rw [array] at read
        cases read
        rw [alternatives]
        exact List.mem_cons_of_mem _ here
    · rintro ⟨type, member, own⟩
      rcases each type member with simple | loses
      · rcases ofType type member with ⟨result, inside, read⟩
        rw [read_simple (valid type member) simple] at read
        cases read
        exact ⟨_, inside, own⟩
      · rcases read_losesNull (valid type member) loses with ⟨basic, alternatives, array⟩
        rw [alternatives] at own
        rcases List.mem_cons.mp own with rfl | here
        · rcases kept ⟨type, member, loses⟩ with ⟨other, otherMember, simple, null⟩
          rcases ofType other otherMember with ⟨result, inside, read⟩
          rw [read_simple (valid other otherMember) simple] at read
          cases read
          exact ⟨_, inside, null⟩
        · rcases ofType type member with ⟨result, inside, read⟩
          rw [array] at read
          cases read
          exact ⟨_, inside, here⟩

theorem means_iff {form : TypeForm} (valid : form.Valid schemata) :
    Means schemata role form ↔ Kept role form := by
  cases form with
  | one type => exact means_one valid
  | several members => exact means_several valid

end

/-! ### Inputs -/

section

variable {library : Library} {schemata : List String}

theorem makeStringMap_typeMap (context : Context) (stringKeys : Bool) (tree : Tree) :
    makeStringMap context (typeMap stringKeys tree) = .ok (.strMap [("type", tree)]) := by
  cases stringKeys <;> rfl

/-- An input that is a map with a type and nothing else. -/
theorem newInputParameter_typeMap (context : Context) (stringKeys : Bool) (tree : Tree) :
    newInputParameter library context (typeMap stringKeys tree) =
      (inputType context tree).map fun type => ⟨"", type, none⟩ := by
  have fields : newInputParameter library context (typeMap stringKeys tree) =
      inputParameterOfFields library context [("type", tree)] := by
    rw [newInputParameter, makeStringMap_typeMap]
    rfl
  have parsed : parsedEntry "type" (inputType context) [("type", tree)] =
      (inputType context tree).map fun type => (some type, [("type", .null)]) := rfl
  have none : parsedEntry "default"
      (fun tree => wrap "(NewInputParameter) NewCWLType returned: "
          (newCWLType library context tree "")) [("type", tree)] =
      .ok (Option.none, [("type", tree)]) := rfl
  rw [fields, inputParameterOfFields, none]
  change (parsedEntry "type" (inputType context) [("type", tree)] >>= _) = _
  rw [parsed]
  cases inputType context tree <;> rfl

theorem inputTypes_typeMap (stringKeys : Bool) (tree : Tree) :
    inputTypes library schemata (typeMap stringKeys tree) =
      (inputType (.of schemata) tree).toOption.bind fun type => (getTypes type).toOption := by
  rw [inputTypes, newInputParameter_typeMap]
  cases inputType (.of schemata) tree <;> rfl

theorem wrap_toOption {A : Type} (caller : String) (result : Except Failure A) :
    (wrap caller result).toOption = result.toOption := by
  rcases result with (text | text) | value <;> rfl

/-- Types that are read are those that the input has. -/
theorem getTypes_toOption (caller : String) (read : Except Failure (List Schema)) :
    (match (wrap caller read >>= fun types => pure (⟨"", .types types, none⟩ : InputParameter) :
        Except Failure _) with
      | .ok parameter => (getTypes parameter.type).toOption
      | .error _ => none) = read.toOption := by
  rcases read with (text | text) | types <;> rfl

/-- An input that is a text or a list has the types that are read. -/
theorem inputTypes_direct (form : TypeForm) :
    inputTypes library schemata form.tree =
        (newCWLTypeTypeArray (.of schemata) form.tree .input).toOption := by
  cases form with
  | one type =>
      rw [TypeForm.tree, newCWLTypeTypeArray]
      exact getTypes_toOption "(NewInputParameter) NewCWLType_TypeFromString returned: " _
  | several members => exact getTypes_toOption "(NewInputParameter) NewCWLType_Type returned: " _

/-- A list of types that is not empty. -/
def nonempty (types : List Schema) : Option (List Schema) :=
  if types.isEmpty then none else some types

theorem inputType_list (elements : List Tree) :
    ((inputType (.of schemata) (.list elements)).toOption.bind fun type =>
        (getTypes type).toOption) =
      (newCWLTypeTypeArray (.of schemata) (.list elements) .input).toOption.bind nonempty := by
  have unfolded : inputType (.of schemata) (.list elements) =
      (wrap "(NewInputParameter) NewCWLType_TypeArray returns: "
        (newCWLTypeTypeArray (.of schemata) (.list elements) .input) >>= fun types =>
          if types.isEmpty then
              .error (.error "(NewInputParameter) len(inputParameterTypeArray) == 0")
          else pure (.types types)) := rfl
  rw [unfolded]
  rcases newCWLTypeTypeArray (.of schemata) (.list elements) .input with
      (text | text) | (_ | ⟨first, others⟩) <;> rfl

/-- Under the key `type` a text gives its first alternative. -/
theorem inputType_text (native : String) :
    ((inputType (.of schemata) (.text native)).toOption.bind fun type => (getTypes type).toOption) =
      (newCWLTypeTypeFromString (.of schemata) native .input).toOption.bind fun types =>
        types.head?.map fun first => [first] := by
  have unfolded : inputType (.of schemata) (.text native) =
      (wrap "(NewInputParameter) NewCWLType_Type returns: "
          (newCWLTypeType (.of schemata) (.text native) .input) >>=
        fun types => match types with
          | [] => .error (.panic "index out of range")
          | first :: _ => pure (.single first)) := rfl
  rw [unfolded, newCWLTypeType]
  rcases newCWLTypeTypeFromString (.of schemata) native .input with
      (text | text) | (_ | ⟨first, others⟩) <;> rfl

/-- A list with one text gives all its alternatives. -/
theorem listed_text (native : String) :
    newCWLTypeTypeArray (.of schemata) (.list [.text native]) .input =
      wrap "(NewCWLType_Type) A NewCWLType_TypeFromString returned: "
        (newCWLTypeTypeFromString (.of schemata) native .input) := by
  rw [newCWLTypeTypeArray, alternatives, elementTypes, elementTypes, List.mapM_cons, List.mapM_nil,
      newCWLTypeType]
  rcases newCWLTypeTypeFromString (.of schemata) native .input with (text | text) | types
  · rfl
  · rfl
  · exact congrArg Except.ok (List.append_nil types)

/-- A list within a list is refused. -/
theorem listed_list (elements : List Tree) :
    (newCWLTypeTypeArray (.of schemata) (.list [.list elements]) .input).toOption = none := by
  rw [newCWLTypeTypeArray, alternatives, elementTypes, elementTypes, List.mapM_cons, List.mapM_nil,
      newCWLTypeType]
  · rfl
  all_goals
    intro _ impossible
    cases impossible

theorem reading_ne_nil {role : Role} {type : TypeExpr} {types : List Schema}
    (reading : Reading role type types) :
    types ≠ [] := by
  cases reading with
  | simple simple => cases simple <;> exact List.cons_ne_nil _ _
  | _ => exact List.cons_ne_nil _ _

/-- The types of an input that is written as a text, in the three positions. -/
theorem inputTypes_one {type : TypeExpr} (valid : type.Valid schemata) (stringKeys : Bool)
    (position : Position) :
    inputTypes library schemata (position.tree stringKeys (TypeForm.one type).tree) =
      (newCWLTypeTypeFromString (.of schemata) type.text .input).toOption.bind fun types =>
        match position with
        | .typed => types.head?.map fun first => [first]
        | _ => some types := by
  cases position with
  | direct =>
      rw [Position.tree, inputTypes_direct, TypeForm.tree, newCWLTypeTypeArray]
      cases newCWLTypeTypeFromString (.of schemata) type.text .input <;> rfl
  | typed =>
      rw [Position.tree, inputTypes_typeMap]
      exact inputType_text type.text
  | listed =>
      rw [Position.tree, inputTypes_typeMap, inputType_list, TypeForm.tree, listed_text,
          wrap_toOption]
      cases read : newCWLTypeTypeFromString (.of schemata) type.text .input with
      | error failure => rfl
      | ok types =>
          have some := reading_ne_nil (reading_of_ok valid read)
          cases types with
          | nil => exact absurd rfl some
          | cons first others => rfl

theorem same_refl (types : List Schema) : Same types types :=
  fun _ => Iff.rfl

/-- The three positions agree on a text that is read as one type, up to repetition. -/
theorem sameInputs_one_iff {type : TypeExpr} (valid : type.Valid schemata) (stringKeys : Bool) :
    SameInputs library schemata stringKeys (.one type) ↔
      Exists fun first => Exists fun others =>
        newCWLTypeTypeFromString (.of schemata) type.text .input = .ok (first :: others) ∧
            Same (first :: others) [first] := by
  unfold SameInputs
  simp only [inputTypes_one valid]
  constructor
  · rintro ⟨direct, typed, listed, one, two, _, same, _⟩
    cases read : newCWLTypeTypeFromString (.of schemata) type.text .input with
    | error failure =>
        rw [read] at one
        cases one
    | ok types =>
        rw [read] at one two
        cases one
        cases direct with
        | nil => cases two
        | cons first others =>
            cases two
            exact ⟨first, others, rfl, same⟩
  · rintro ⟨first, others, read, same⟩
    rw [read]
    exact ⟨_, _, _, rfl, rfl, rfl, same, same_refl _⟩

theorem named_eq_null {text : String} (same : named text = .basic .null) :
    isValidType text = some .null := by
  unfold named at same
  cases known : isValidType text with
  | none =>
      rw [known] at same
      cases same
  | some basic =>
      rw [known] at same
      cases same
      rfl

theorem single_one_iff {type : TypeExpr} (valid : type.Valid schemata) (stringKeys : Bool) :
    SameInputs library schemata stringKeys (.one type) ↔ Single (.one type) := by
  rw [sameInputs_one_iff valid]
  constructor
  · rintro ⟨first, others, read, same⟩
    generalize listed : first :: others = types at read
    have reading := reading_of_ok valid read
    cases reading with
    | simple simple =>
        cases simple with
        | name text => exact Or.inr trivial
        | optional inner =>
            cases listed
            have null := (same _).mp (List.mem_cons_of_mem _ List.mem_cons_self)
            exact Or.inr (named_eq_null (List.mem_singleton.mp null))
        | list known placed => exact Or.inr (Option.isSome_of_eq_some known)
    | losesNull known placed => exact Or.inr (Option.isSome_of_eq_some known)
    | swallowed hash marked => exact Or.inl hash
    | doubled noHash marked notList =>
        cases listed
        have null := (same _).mp (List.mem_cons_of_mem _ List.mem_cons_self)
        cases List.mem_singleton.mp null
  · rintro (hash | one)
    · exact ⟨_, _, fromString_hash schemata hash _, same_refl _⟩
    · cases type with
      | name text => exact ⟨_, _, read_simple valid (Simple.name text), same_refl _⟩
      | list inner =>
          cases inner with
          | name text =>
              rcases Option.isSome_iff_exists.mp one with ⟨basic, known⟩
              exact ⟨_, _, read_simple valid (Simple.list known (by decide)), same_refl _⟩
          | _ => cases one
      | optional inner =>
          cases inner with
          | name text =>
              have noHash : '#' ∉ text.toList := by
                intro hash
                have known : isValidType text = some .null := one
                rw [not_valid_of_hash hash] at known
                cases known
              refine ⟨_, _, read_simple valid (Simple.optional noHash), fun schema => ?_⟩
              rw [TypeExpr.alternatives, named_of_known one, List.mem_cons,
                  List.mem_singleton, or_self]
          | list items =>
              cases items with
              | name text =>
                  rcases Option.isSome_iff_exists.mp one with ⟨basic, known⟩
                  rcases @read_losesNull _ .input _ valid (LosesNull.optionalList known (by decide))
                      with ⟨_, _, read⟩
                  exact ⟨_, _, read, same_refl _⟩
              | _ => cases one
          | optional items => cases one

/-- A list of types is refused where it stands in a list. -/
theorem not_sameInputs_several (stringKeys : Bool) (members : List TypeExpr) :
    ¬SameInputs library schemata stringKeys (.several members) := by
  rintro ⟨_, _, listed, _, _, three, _⟩
  rw [Position.tree, inputTypes_typeMap, inputType_list, TypeForm.tree, listed_list] at three
  cases three

theorem sameInputs_iff {form : TypeForm} (valid : form.Valid schemata) (stringKeys : Bool) :
    SameInputs library schemata stringKeys form ↔ Single form := by
  cases form with
  | one type => exact single_one_iff valid stringKeys
  | several members => exact ⟨fun same => absurd same (not_sameInputs_several stringKeys members),
      fun none => none.elim⟩

end

section

variable {library : Library} {context : Context}

theorem isOptional_collapse (types : List Schema) : isOptional (collapse types) = false := by
  rcases types with _ | ⟨first, _ | _⟩ <;> rfl

theorem isOptional_raw (name : String) (fields : List (String × Tree)) :
    isOptional (rawTypeField name fields) = false := by
  unfold rawTypeField
  cases findField name fields with
  | none => rfl
  | some tree =>
      cases tree with
      | list elements =>
          dsimp only
          rw [isOptional, List.any_map, List.any_eq_false]
          exact fun _ _ => Bool.false_ne_true
      | _ => rfl

theorem isOptional_outputType {role : Role} {tree : Tree} {type : TypeField}
    (parsed : outputType context role tree = .ok type) : isOptional type = false := by
  cases tree with
  | list elements =>
      rcases Fallible.bind_ok_iff.mp parsed with ⟨types, _, stored⟩
      split_ifs at stored
      cases stored
      exact isOptional_collapse types
  | _ =>
      rcases Fallible.bind_ok_iff.mp parsed with ⟨types, _, stored⟩
      cases stored
      exact isOptional_collapse types

/-- What an entry that is parsed gives. -/
theorem parsedEntry_ok {A : Type} {key : String} {parse : Tree -> Except Failure A}
    {fields rest : List (String × Tree)} {found : Option A}
    (parsed : parsedEntry key parse fields = .ok (found, rest)) :
    forall value, found = some value -> Exists fun tree => parse tree = .ok value := by
  intro value same
  unfold parsedEntry at parsed
  cases lookup : fields.lookup key with
  | none =>
      rw [lookup] at parsed
      cases parsed
      cases same
  | some tree =>
      rw [lookup] at parsed
      refine ⟨tree, ?_⟩
      dsimp only at parsed
      cases made : parse tree with
      | error failure =>
          rw [made] at parsed
          cases parsed
      | ok other =>
          rw [made] at parsed
          cases parsed
          cases same
          rfl

/-- No output parameter that is made of a tree is optional. -/
theorem output_not_optional {original : Tree} {thisID : String} {role : Role}
    {parameter : OutputParameter}
    (made : newOutputParameterFromInterface library context original thisID role = .ok parameter) :
    isOptional parameter.type = false := by
  rcases Fallible.bind_ok_iff.mp made with ⟨tree, _, parsed⟩
  cases tree with
  | text native =>
      rcases Fallible.bind_ok_iff.mp parsed with ⟨types, _, stored⟩
      cases stored
      exact isOptional_collapse types
  | strMap fields =>
      rcases Fallible.bind_ok_iff.mp parsed with ⟨⟨default, afterDefault⟩, _, parsed⟩
      rcases Fallible.bind_ok_iff.mp parsed with ⟨⟨type, afterType⟩, typed, parsed⟩
      rcases Fallible.bind_ok_iff.mp parsed with ⟨⟨binding, afterBinding⟩, _, decoded⟩
      have stored : parameter.type = rawTypeField "Type" afterBinding ∨
          parameter.type = type.getD (rawTypeField "Type" afterBinding) := by
        dsimp only at decoded
        split_ifs at decoded
        all_goals
          cases decoded
          first
          | exact Or.inl rfl
          | exact Or.inr rfl
      rcases stored with raw | either
      · rw [raw]
        exact isOptional_raw _ _
      · rw [either]
        cases type with
        | none => exact isOptional_raw _ _
        | some type =>
            rcases parsedEntry_ok typed type rfl with ⟨tree, parsed⟩
            exact isOptional_outputType parsed
  | _ => cases parsed

end

/-! ### Missing inputs -/

section

variable {library : Library} {schemata : List String} {job : Core.Job} {wi : Core.WorkflowInstance}
    {src : String}
  {parameter : InputParameter}

theorem null_mem_serverTypes (type : Schema) :
    Core.CWLType.null ∈ [serverType type] ↔ type = .basic .null := by
  rw [List.mem_singleton]
  unfold serverType
  cases null : isNull type with
  | true =>
      unfold isNull at null
      split at null
      · exact ⟨fun _ => rfl, fun _ => rfl⟩
      · cases null
  | false =>
      constructor
      · intro same
        cases same
      · rintro rfl
        cases null

/-- A missing input is reported as optional if its type is stored as one type that is null, or as a
list of interfaces with null. -/
theorem absent_iff (missing : Missing job wi src parameter) :
    Core.Sources.getSourceFromWorkflowInstanceInput job wi src = .ok .absent ↔
      Exists fun types => sourceTypes parameter.type = some types ∧ .null ∈ types := by
  rcases missing.inputs with ⟨inputs, given, absent⟩
  rcases missing.declared with ⟨workflow, defined, id, found⟩
  rw [Core.Sources.getSourceFromWorkflowInstanceInput, given]
  dsimp only
  rw [absent, defined]
  dsimp only
  rw [found]
  dsimp only [serverInput]
  cases sourceTypes parameter.type with
  | none =>
      constructor
      · intro impossible
        cases impossible
      · rintro ⟨_, impossible, _⟩
        cases impossible
  | some types =>
      dsimp only
      by_cases null : .null ∈ types
      · rw [if_pos null]
        exact ⟨fun _ => ⟨types, rfl, null⟩, fun _ => rfl⟩
      · rw [if_neg null]
        constructor
        · intro impossible
          cases impossible
        · rintro ⟨_, same, inside⟩
          cases same
          exact absurd inside null

theorem not_absent_of_types {types : List Schema} (stored : parameter.type = .types types)
    (missing : Missing job wi src parameter) :
    Core.Sources.getSourceFromWorkflowInstanceInput job wi src ≠ .ok .absent := by
  intro absent
  rcases (absent_iff missing).mp absent with ⟨_, found, _⟩
  rw [stored] at found
  cases found

theorem absent_iff_of_single {type : Schema} (stored : parameter.type = .single type)
    (missing : Missing job wi src parameter) :
    Core.Sources.getSourceFromWorkflowInstanceInput job wi src = .ok .absent ↔
    type = .basic .null := by
  rw [absent_iff missing, stored, <- null_mem_serverTypes]
  constructor
  · rintro ⟨_, same, null⟩
    cases same
    exact null
  · exact fun null => ⟨_, rfl, null⟩

/-- The ways in which the type of an input is stored. -/
theorem stored_of_made {form : TypeForm} {stringKeys : Bool} {position : Position}
    (made : newInputParameter library (.of schemata) (position.tree stringKeys form.tree) =
    .ok parameter) :
    ((Exists fun types => parameter.type = .types types) ∧ forall type, position = .typed ->
        form ≠ .one type) ∨
      Exists fun type => Exists fun first => Exists fun others => position = .typed ∧
          form = .one type ∧
        newCWLTypeTypeFromString (.of schemata) type.text .input = .ok (first :: others) ∧
            parameter.type = .single first := by
  have ofList : forall elements, (inputType (.of schemata) (.list elements)).map (fun type =>
      (⟨"", type, none⟩ : InputParameter)) = .ok parameter -> Exists fun types =>
          parameter.type = .types types := by
    intro elements stored
    cases typed : inputType (.of schemata) (.list elements) with
    | error failure =>
        rw [typed] at stored
        cases stored
    | ok type =>
        rw [typed] at stored
        cases stored
        rcases Fallible.bind_ok_iff.mp typed with ⟨types, _, kept⟩
        split_ifs at kept
        cases kept
        exact ⟨types, rfl⟩
  cases position with
  | direct =>
      refine Or.inl ⟨?_, fun _ same => nomatch same⟩
      cases form with
      | one type =>
          rcases Fallible.bind_ok_iff.mp made with ⟨_, same, parsed⟩
          cases same
          rcases Fallible.bind_ok_iff.mp parsed with ⟨types, _, kept⟩
          cases kept
          exact ⟨types, rfl⟩
      | several members =>
          rcases Fallible.bind_ok_iff.mp made with ⟨_, same, parsed⟩
          cases same
          rcases Fallible.bind_ok_iff.mp parsed with ⟨types, _, kept⟩
          cases kept
          exact ⟨types, rfl⟩
  | listed =>
      rw [Position.tree, newInputParameter_typeMap] at made
      exact Or.inl ⟨ofList _ made, fun _ same => nomatch same⟩
  | typed =>
      rw [Position.tree, newInputParameter_typeMap] at made
      cases form with
      | several members => exact Or.inl ⟨ofList _ made, fun _ _ same => nomatch same⟩
      | one type =>
          refine Or.inr ?_
          cases typed : inputType (.of schemata) (TypeForm.one type).tree with
          | error failure =>
              rw [typed] at made
              cases made
          | ok field =>
              rw [typed] at made
              cases made
              rcases Fallible.bind_ok_iff.mp typed with ⟨types, read, kept⟩
              change wrap _ (newCWLTypeType (.of schemata) (.text type.text) .input) = _ at read
              rw [wrap_eq_ok, newCWLTypeType, wrap_eq_ok] at read
              cases types with
              | nil => cases kept
              | cons first others =>
                  cases kept
                  exact ⟨type, first, others, rfl, rfl, read, rfl⟩

/-- The first alternative of a text is null exactly if null is one of them, unless an optional list
or a `#` loses it. -/
theorem first_null_iff {type : TypeExpr} {first : Schema} {others : List Schema}
    (reading : Reading .input type (first :: others))
    (plain : forall text, type = .name text -> ¬Marked text) :
    ((first = .basic .null ↔ .basic .null ∈ type.alternatives .input) ↔
      forall inner, type = .optional inner -> '#' ∉ type.text.toList ∧ forall items,
      inner ≠ .list items) := by
  generalize listed : first :: others = types at reading
  cases reading with
  | simple simple =>
      cases simple with
      | name text =>
          cases listed
          refine ⟨fun _ inner same => (nomatch same), fun _ => ?_⟩
          rw [TypeExpr.alternatives, List.mem_singleton]
          exact eq_comm
      | @optional text noHash =>
          cases listed
          refine ⟨fun _ inner same => ?_, fun _ => ⟨fun _ => List.mem_cons_self, fun _ => rfl⟩⟩
          cases same
          refine ⟨?_, fun items same => nomatch same⟩
          rw [TypeExpr.text, TypeExpr.text, String.toList_append, List.mem_append, not_or]
          exact ⟨noHash, by decide⟩
      | list known placed =>
          cases listed
          refine ⟨fun _ inner same => (nomatch same), fun _ =>
              ⟨fun same => (nomatch same), fun member => ?_⟩⟩
          cases List.mem_singleton.mp member
  | losesNull known placed =>
      cases listed
      constructor
      · intro same
        cases same.mpr List.mem_cons_self
      · exact fun never => absurd rfl ((never _ rfl).2 _)
  | swallowed hash marked =>
      cases listed
      cases type with
      | name text => exact absurd marked (plain text rfl)
      | optional inner =>
          constructor
          · intro same
            cases same.mpr List.mem_cons_self
          · exact fun never => absurd hash (never _ rfl).1
      | list inner =>
          refine ⟨fun _ inner same => (nomatch same), fun _ =>
              ⟨fun same => (nomatch same), fun member => ?_⟩⟩
          cases List.mem_singleton.mp member
  | @doubled inner noHash marked notList =>
      cases listed
      refine ⟨fun _ other same => ?_, fun _ => ⟨fun _ => List.mem_cons_self, fun _ => rfl⟩⟩
      cases same
      refine ⟨noHash, ?_⟩
      rintro items rfl
      rw [TypeExpr.text, list_suffix] at notList
      cases notList

theorem reported_iff {form : TypeForm} (valid : form.Valid schemata) {stringKeys : Bool}
    {position : Position}
    (made : newInputParameter library (.of schemata) (position.tree stringKeys form.tree) =
    .ok parameter)
    (missing : Missing job wi src parameter) :
    (Core.Sources.getSourceFromWorkflowInstanceInput job wi src = .ok .absent ↔
      .basic .null ∈ form.alternatives .input) ↔ Reported position form := by
  rcases stored_of_made made with ⟨⟨types, stored⟩, elsewhere⟩
      | ⟨type, first, others, rfl, rfl, read, stored⟩
  · have notAbsent := not_absent_of_types stored missing
    have silent : (Core.Sources.getSourceFromWorkflowInstanceInput job wi src = .ok .absent ↔
        .basic .null ∈ form.alternatives .input) ↔ .basic .null ∉ form.alternatives .input :=
      ⟨fun same null => notAbsent (same.mpr null), fun none =>
          ⟨fun absent => absurd absent notAbsent, fun null => absurd null none⟩⟩
    cases position with
    | typed =>
        cases form with
        | several members => exact silent
        | one type => exact absurd rfl (elsewhere type rfl)
    | direct => exact silent
    | listed => exact silent
  · rw [absent_iff_of_single stored missing]
    have plain : type.Valid schemata := valid
    exact first_null_iff (reading_of_ok plain read) plain.plain

end

section

variable {library : Library} {schemata : List String} {form : TypeForm}

/-- A type means its alternatives to the parser exactly if each of its texts is a name, an optional
name without `#` or a list of a basic type, or an optional list of one whose null another member of
the list has.  The inputs in the three positions have the same types exactly if it is a text that is
read as one type.  No output parameter is optional, so `IsOptional` is right exactly where null is
no alternative.  A missing input is reported rightly exactly where null is no alternative, or where
the type is a text under the key `type` and null is its first alternative. -/
theorem types_mean_the_same_iff (valid : form.Valid schemata) :
    (forall role, Means schemata role form ↔ Kept role form) ∧
    (forall stringKeys, SameInputs library schemata stringKeys form ↔ Single form) ∧
    (forall position stringKeys thisID role parameter,
      newOutputParameterFromInterface library (.of schemata)
      (Position.tree stringKeys form.tree position) thisID role =
        .ok parameter ->
      ((isOptional parameter.type = true ↔ .basic .null ∈ form.alternatives role) ↔
        .basic .null ∉ form.alternatives role)) ∧
    (forall position stringKeys parameter,
      newInputParameter library (.of schemata) (Position.tree stringKeys form.tree position) =
      .ok parameter ->
      forall job wi src, Missing job wi src parameter ->
        ((Core.Sources.getSourceFromWorkflowInstanceInput job wi src = .ok .absent ↔
          .basic .null ∈ form.alternatives .input) ↔ Reported position form)) := by
  refine ⟨fun role => means_iff valid, fun stringKeys => sameInputs_iff valid stringKeys, ?_, ?_⟩
  · intro position stringKeys thisID role parameter made
    rw [output_not_optional made]
    exact ⟨fun same null => Bool.false_ne_true (same.mpr null),
      fun none => ⟨fun impossible => absurd impossible Bool.false_ne_true, fun null =>
          absurd null none⟩⟩
  · intro position stringKeys parameter made job wi src missing
    exact reported_iff valid made missing

end

private def bareLibrary : Library where
  sha1 := fun _ => ""
  parseURL := fun _ => none

private def optionalInt : TypeExpr :=
  .optional (.name "int")

private theorem optionalInt_valid : optionalInt.Valid ["#Record"] := by
  refine ⟨by decide, ?_, Or.inl (by decide)⟩
  unfold Marked
  decide

theorem optional_int_means : Means ["#Record"] .input (.one optionalInt) :=
  ((@types_mean_the_same_iff bareLibrary _ (.one optionalInt) optionalInt_valid).1 .input).mpr
    (Simple.optional (by decide))

/-- Written under the key `type`, an optional integer is null and nothing else. -/
theorem optional_int_loses_int :
    inputTypes bareLibrary ["#Record"] (typeMap true (TypeForm.one optionalInt).tree) = some
        [.basic .null] ∧
      ¬SameInputs bareLibrary ["#Record"] true (.one optionalInt) := by
  have direct : inputTypes bareLibrary ["#Record"] (TypeForm.one optionalInt).tree = some
      [.basic .null, .basic .int] := by
    rw [inputTypes_direct, TypeForm.tree, newCWLTypeTypeArray]
    rfl
  have typed : inputTypes bareLibrary ["#Record"] (typeMap true (TypeForm.one optionalInt).tree) =
      some [.basic .null] := by
    rw [inputTypes_typeMap, TypeForm.tree, inputType_text]
    rfl
  refine ⟨typed, ?_⟩
  rintro ⟨first, second, third, one, two, _, same, _⟩
  rw [Position.tree, direct] at one
  rw [Position.tree, typed] at two
  cases one
  cases two
  have lost := (same (.basic .int)).mp (List.mem_cons_of_mem _ List.mem_cons_self)
  cases List.mem_singleton.mp lost

end TypePositions
end Cwl
end Awe
