import Awe.Cwl.Natives

namespace Awe
namespace Cwl
namespace Types

open Lib.Path Natives

/-!
# Types from trees

`NewCWLType_TypeArray` turns the tree under a field `type` or `items` into a list
of types.  A text names a basic type, a list of one, or a schema of the
context; a list gives the alternatives; a map is the schema of an array, a
record or an enum.  Where the type stands (`context_p`) decides which Go type
the schemas have and which bindings are looked at.

As with values, the recursion hands every entry of a map on together with what
the parsers make of it (`TypeChild`).  Schemas keep the names and the items;
bindings and record fields are parsed, since that may fail, and then left out.
The list of schemas that is passed along is used by none of the functions.

An entry that is replaced by its parsed form before the map is decoded into a
struct is taken as it is by the decoder.  `null`, which the decoder passes over,
stands for it (`settle`).
-/

/-- The places a type stands at. One parser serves inputs and outputs, of tools, workflows and
records; the role says which of the Go types it makes. -/
inductive Role where
  | input
  | output
  | expressionToolOutput
  | commandInput
  | commandOutput
  | workflowOutput
  deriving DecidableEq, Repr

def Role.text : Role -> String
  | .input => "Input"
  | .output => "Output"
  | .expressionToolOutput => "ExpressionToolOutput"
  | .commandInput => "CommandInput"
  | .commandOutput => "CommandOutput"
  | .workflowOutput => "WorkflowOutput"

/-- The four kinds of records. -/
inductive RecordRole where
  | input
  | output
  | commandInput
  | commandOutput
  deriving DecidableEq, Repr

def RecordRole.role : RecordRole -> Role
  | .input => .input
  | .output => .output
  | .commandInput => .commandInput
  | .commandOutput => .commandOutput

/-- `unicode.ToLower`, as far as it gives a letter of a type name. -/
def lowerLetter (letter : Char) : Char :=
  if letter = '\u0130' then 'i' else if letter = '\u212A' then 'k' else letter.toLower

def basics : List Basic :=
  [.null, .boolean, .int, .long, .float, .double, .string, .file, .directory, .any, .stdin,
      .stdout, .stderr]

/-- `IsValidType`. -/
def isValidType (native : String) : Option Basic :=
  basics.find? fun basic => basic.text.toList.map Char.toLower = native.toList.map lowerLetter

/-- The part of a text after its last `#`. -/
def afterHash (text : String) : String :=
  String.ofList ((text.toList.splitOn '#').getLastD [])

/-- `NewPointerFromstring`. -/
def newPointerFromstring (value : String) : Schema :=
  .pointer ("#" ++ afterHash value)

/-- The array schema of a type that was written with `[]`. -/
def arrayFromString (role : Role) (items : List Schema) : Except Failure (List Schema) :=
  match role with
  | .output => .ok [.array .output items]
  | .expressionToolOutput => .ok [.array .output items]
  | .commandInput => .ok [.array .commandInput items]
  | .commandOutput => .ok [.array .commandOutput items]
  | .input => .ok [.array .input items]
  | .workflowOutput =>
      .error (.error ("(NewCWLType_TypeFromString) context " ++ role.text ++ " not supported yet"))

/-- `NewCWLType_TypeFromString`.  The base type of a list is a valid type, for which
the recursive call returns that type alone.  The list replaces what was found
before, so the null of an optional list is lost. -/
def newCWLTypeTypeFromString (context : Context) (nativeType : String) (role : Role) :
    Except Failure (List Schema) :=
  if nativeType = "" then .error (.error "(NewCWLType_TypeFromString) string is empty")
  else if '#' ∈ nativeType.toList then .ok [newPointerFromstring nativeType]
  else
    let optional := if hasSuffix nativeType "?" then [Schema.basic .null] else []
    let nativeType := trimSuffix nativeType "?"
    if hasSuffix nativeType "[]" then
      match isValidType (trimSuffix nativeType "[]") with
      | none => .error (.error
          ("(NewCWLType_TypeFromString) base_type " ++ trimSuffix nativeType "[]" ++ " unkown"))
      | some basic => arrayFromString role [.basic basic]
    else
      match isValidType nativeType with
      | some basic => .ok (optional ++ [.basic basic])
      | none =>
          match context with
          | .nil => .error (.panic "invalid memory address or nil pointer dereference")
          | .of schemata | .inDirectory _ schemata =>
              if schemata.any fun name => base nativeType = base name then
                  .ok (optional ++ [newPointerFromstring nativeType])
              else .error (.error ("(NewCWLType_TypeFromString) type " ++ nativeType ++ " unkown"))

/-- The entries of a map whose keys are texts, which are all that the struct
decoder finds. -/
def textKeys {A : Type} (entries : List (Tree × A)) : List (String × A) :=
  entries.filterMap fun entry =>
    match entry.1 with
    | .text key => some (key, entry.2)
    | _ => none

/-- A tree can be decoded into a struct. -/
def decodesMap (struct : List (String × FieldKind)) : Tree -> Bool
  | .null => true
  | .strMap fields => decodesStruct struct fields
  | .anyMap entries => decodesStruct struct (textKeys entries)
  | _ => false

/-- The assignment of a parsed value to a key of the map. -/
def settle (key : String) : List (String × Tree) -> List (String × Tree)
  | [] => [(key, .null)]
  | (other, tree) :: rest => if other = key then (other, .null) :: rest else
      (other, tree) :: settle key rest

/-- An entry that is parsed if it is there, and the map that the decoder is given. -/
def parsedEntry {A : Type} (key : String) (parse : Tree -> Except Failure A)
    (fields : List (String × Tree)) :
    Except Failure (Option A × List (String × Tree)) :=
  match fields.lookup key with
  | none => .ok (none, fields)
  | some tree => (parse tree).map fun value => (some value, settle key fields)

/-- `NewExpression`. -/
def newExpression : Tree -> Except Failure Unit
  | .text _ => .ok ()
  | _ => .error (.error "cannot parse Expression, unkown type")

def isText : Tree -> Bool
  | .text _ => true
  | _ => false

/-- `NewExpressionArray`. -/
def newExpressionArray : Tree -> Except Failure Unit
  | .text _ => .ok ()
  | .list elements =>
      if elements.all isText then .ok () else
          .error (.error "(NewExpressionArray) value was not string")
  | _ => .error (.error "(NewExpressionArray) cannot parse Expression array, unknown type")

def commandLineBindingStruct : List (String × FieldKind) :=
  [("loadContents", .bool), ("position", .int), ("prefix", .string), ("separate", .bool),
      ("itemSeparator", .string),
    ("valueFrom", .string), ("shellQuote", .bool)]

/-- An entry that is parsed if it is there. -/
def optionally (parse : Tree -> Except Failure Unit) : Option Tree -> Except Failure Unit
  | none => .ok ()
  | some tree => parse tree

/-- `NewCommandLineBinding`. -/
def newCommandLineBinding (context : Context) (original : Tree) : Except Failure Unit := do
  match <- makeStringMap context original with
  | .strMap fields =>
      wrap "(NewCommandLineBinding) NewExpression failed: "
          (optionally newExpression (fields.lookup "valueFrom"))
      if decodesStruct commandLineBindingStruct fields then pure ()
      else .error (.error "(NewCommandLineBinding) mapstructure: ")
  | .text _ => pure ()
  | _ => .error (.error "(NewCommandLineBinding) type unknown")

def commandOutputBindingStruct : List (String × FieldKind) :=
  [("Glob", .list .string), ("loadContents", .bool), ("outputEval", .string)]

/-- `NewCommandOutputBinding`. -/
def newCommandOutputBinding (context : Context) (original : Tree) : Except Failure Unit := do
  match <- makeStringMap context original with
  | .strMap fields =>
      wrap "(NewCommandOutputBinding/glob) NewExpressionArray returned: "
        (optionally newExpressionArray (fields.lookup "glob"))
      optionally newExpression (fields.lookup "outputEval")
      let parsed := if (fields.lookup "glob").isSome then settle "glob" fields else fields
      if decodesStruct commandOutputBindingStruct
          (parsed.filter fun field => field.1 ≠ "outputEval") then pure ()
      else .error (.error "(NewCommandOutputBinding) mapstructure:  ")
  | _ => .error (.error "(NewCommandOutputBinding) type unknown")

/-! ## Schemas -/

/-- An entry of a map, with what the parsers of types and of record fields make
of it. -/
structure TypeChild where
  tree : Tree
  /-- `NewCWLType_TypeArray`. -/
  types : Role -> Except Failure (List Schema)
  /-- The parser of one field of a record. -/
  field : RecordRole -> Except Failure Unit
  /-- The parser of the fields of a record. -/
  fields : RecordRole -> Except Failure Unit

def typeTrees (fields : List (String × TypeChild)) : List (String × Tree) :=
  fields.map fun field => (field.1, field.2.tree)

/-- A binding that is parsed if it is there. -/
def bindingOf (key caller : String) (parse : Tree -> Except Failure Unit)
    (fields : List (String × TypeChild)) :
    Except Failure Unit :=
  wrap caller (optionally parse ((typeTrees fields).lookup key))

/-- `NewArraySchemaFromMap`. -/
def newArraySchemaFromMap (role : Role) (fields : List (String × TypeChild)) :
    Except Failure (List Schema) :=
  match fields.lookup "items" with
  | none => .error (.error "(NewArraySchemaFromMap) items are missing")
  | some child => do
      let items <- wrap "(NewOutputArraySchemaFromInterface) NewCWLType_TypeArray returns: "
          (child.types role)
      if items.isEmpty then
          .error (.error "(NewOutputArraySchemaFromInterface) len(items_type) == 0") else pure items

/-- A field that must be a text if it is there. -/
def asText (refused : String) : Option Tree -> Except Failure String
  | none => .ok ""
  | some (.text text) => .ok text
  | some _ => .error (.error refused)

section

variable (context : Context) (fields : List (String × TypeChild))

/-- `NewInputArraySchemaFromInterface`. -/
def newInputArraySchema : Except Failure Schema := do
  checkImport context ((typeTrees fields).lookup "$import")
  let items <- wrap "(NewInputArraySchemaFromInterface) NewArraySchemaFromMap returned: "
    (newArraySchemaFromMap .input fields)
  bindingOf "inputBinding" "(NewInputArraySchemaFromInterface) NewCommandOutputBinding returned: "
    (newCommandLineBinding context) fields
  pure (.array .input items)

/-- `NewCommandInputArraySchemaFromInterface`. -/
def newCommandInputArraySchema : Except Failure Schema := do
  checkImport context ((typeTrees fields).lookup "$import")
  let items <- wrap "(NewCommandInputArraySchemaFromInterface) NewArraySchemaFromMap returned: "
    (newArraySchemaFromMap .commandInput fields)
  bindingOf "inputBinding" "(NewOutputArraySchemaFromInterface) NewCommandOutputBinding returned: "
    (newCommandLineBinding context) fields
  pure (.array .commandInput items)

/-- `NewOutputArraySchemaFromInterface`. -/
def newOutputArraySchema : Except Failure Schema := do
  checkImport context ((typeTrees fields).lookup "$import")
  let items <- wrap "(NewOutputArraySchemaFromInterface) NewArraySchemaFromInterface returned: "
    (newArraySchemaFromMap .output fields)
  bindingOf "outputBinding" "(NewOutputArraySchemaFromInterface) NewCommandOutputBinding returned: "
    (newCommandOutputBinding context) fields
  pure (.array .output items)

def commandOutputArrayStruct : List (String × FieldKind) :=
  [("Type", .typed), ("Label", .string), ("items", .list .typed)]

/-- `NewCommandOutputArraySchemaFromInterface`.  The items may be missing, and the
binding is decoded as it stands.  `Type` is set before the map is decoded, so it
is never nil afterwards. -/
def newCommandOutputArraySchema : Except Failure Schema := do
  checkImport context ((typeTrees fields).lookup "$import")
  let items <- match fields.lookup "items" with
    | none => pure []
    | some child =>
        wrap "(NewCommandOutputArraySchemaFromInterface) NewCWLType_TypeArray returns: "
            (child.types .commandOutput)
  let trees := typeTrees fields
  let parsed := settle "type" (if (trees.lookup "items").isSome then settle "items" trees else
      trees)
  if decodesStruct commandOutputArrayStruct parsed &&
      ((findField "outputBinding" parsed).map (decodesMap commandOutputBindingStruct)).getD true
          then
    pure (.array .commandOutput items)
  else .error (.error "(NewCommandOutputArraySchemaFromInterface) ")

/-- `NewRecordSchema`, giving the name. -/
def newRecordSchema : Except Failure String := do
  let _ <- asText "(NewInputRecordSchemaFromInterface) type error for label"
      ((typeTrees fields).lookup "label")
  asText "(NewInputRecordSchemaFromInterface) type error for name"
      ((typeTrees fields).lookup "name")

/-- `NewInputRecordSchemaFromInterface`. -/
def newInputRecordSchema : Except Failure Schema := do
  checkImport context ((typeTrees fields).lookup "$import")
  let name <- wrap "(NewInputRecordSchemaFromInterface) NewInputRecordSchema returns: "
      (newRecordSchema fields)
  match fields.lookup "fields" with
  | none => .error (.error "(NewInputRecordSchemaFromInterface) no fields")
  | some child =>
      wrap "(NewInputRecordSchemaFromInterface) CreateInputRecordFieldArray returns: "
          (child.fields .input)
      pure (.record .input name)

/-- `NewCommandInputRecordSchemaFromInterface`. -/
def newCommandInputRecordSchema : Except Failure Schema := do
  checkImport context ((typeTrees fields).lookup "$import")
  let name <- wrap "(NewCommandInputRecordSchemaFromInterface) NewCommandInputRecordSchema returned: "
    (newRecordSchema fields)
  match fields.lookup "fields" with
  | none => .error (.error "(NewCommandInputRecordSchemaFromInterface) no fields")
  | some child =>
      wrap "(NewCommandInputRecordSchemaFromInterface) CreateCommandInputRecordFieldArray returned: "
        (child.fields .commandInput)
      pure (.record .commandInput name)

/-- The fields of an output record, which must be a list. -/
def listedFields (caller : String) (role : RecordRole) (child : TypeChild) : Except Failure Unit :=
  match child.tree with
  | .list _ => child.fields role
  | _ => .error (.error (caller ++ " fields is not array"))

/-- `NewOutputRecordSchemaFromInterface`. -/
def newOutputRecordSchema : Except Failure Schema := do
  checkImport context ((typeTrees fields).lookup "$import")
  let name <- wrap "(NewOutputRecordSchemaFromInterface) NewOutputRecordSchema returns: "
      (newRecordSchema fields)
  match fields.lookup "fields" with
  | none => .error (.error "(NewOutputRecordSchemaFromInterface) no fields")
  | some child =>
      wrap "(NewOutputRecordSchemaFromInterface) CreateOutputRecordFieldArray returns: "
        (listedFields "(NewOutputRecordSchemaFromInterface)" .output child)
      pure (.record .output name)

/-- `NewCommandOutputRecordSchemaFromInterface`. -/
def newCommandOutputRecordSchema : Except Failure Schema := do
  checkImport context ((typeTrees fields).lookup "$import")
  let name <- newRecordSchema fields
  match fields.lookup "fields" with
  | none => .error (.error "(NewCommandoutputRecordSchemaFromInterface) no fields")
  | some child =>
      wrap "(NewCommandoutputRecordSchemaFromInterface) CreateInputRecordFieldArray returns: "
        (listedFields "(NewCommandoutputRecordSchemaFromInterface)" .commandOutput child)
      pure (.record .commandOutput name)

def enumStruct : List (String × FieldKind) :=
  [("symbols", .list .string), ("type", .string), ("label", .string), ("name", .string)]

def textsOf : Option Tree -> List String
  | some (.list elements) => elements.map fun element => textOf (some element)
  | _ => []

/-- The enum schema that is decoded from a map. -/
def decodeEnum (kind : NamedKind) : Schema :=
  .enum kind (textOf (findField "name" (typeTrees fields)))
      (textsOf (findField "symbols" (typeTrees fields)))

/-- `NewEnumSchemaFromInterface` and the binding, for the two kinds of inputs. -/
def newBoundEnumSchema (caller : String) (kind : NamedKind) : Except Failure Schema := do
  checkImport context ((typeTrees fields).lookup "$import")
  if decodesStruct enumStruct (typeTrees fields) then
    bindingOf "inputBinding" (caller ++ " NewCommandLineBinding returned: ")
        (newCommandLineBinding context) fields
    pure (decodeEnum fields kind)
  else .error (.error (caller ++ " NewEnumSchemaFromInterface returns: "))

/-- `NewInputEnumSchemaFromInterface`. -/
def newInputEnumSchema : Except Failure Schema :=
  newBoundEnumSchema context fields "(NewInputEnumSchemaFromInterface)" .input

/-- `NewCommandInputEnumSchemaFromInterface`. -/
def newCommandInputEnumSchema : Except Failure Schema :=
  newBoundEnumSchema context fields "(NewCommandInputEnumSchemaFromInterface)" .commandInput

/-- `NewOutputEnumSchemaFromInterface`. -/
def newOutputEnumSchema : Except Failure Schema := do
  checkImport context ((typeTrees fields).lookup "$import")
  if decodesStruct enumStruct (typeTrees fields) &&
      ((findField "outputbinding" (typeTrees fields)).map
          (decodesMap commandOutputBindingStruct)).getD true then
    pure (decodeEnum fields .output)
  else .error (.error "(NewOutputEnumSchemaFromInterface) decode error: ")

/-- The field `type` of a schema.  The error for a type that is no text asks a nil
error for its text. -/
def objectTypeOf : Except Failure String :=
  match (typeTrees fields).lookup "type" with
  | some (.text objectType) => .ok objectType
  | some _ => .error (.panic "invalid memory address or nil pointer dereference")
  | none => .ok (if ((typeTrees fields).lookup "items").isSome then "array" else "")

/-- The field `id` of a schema is asserted to be a text. -/
def assertID : Except Failure Unit :=
  match (typeTrees fields).lookup "id" with
  | none => .ok ()
  | some (.text _) => .ok ()
  | some _ => .error (.panic "interface conversion: interface {} is not string")

/-- The constructor of an array schema. -/
def arrayByRole : Role -> Except Failure Schema
  | .input => wrap "(NewCWLType_Type) NewInputArraySchemaFromInterface returned: "
      (newInputArraySchema context fields)
  | .output => wrap "(NewCWLType_Type) NewOutputArraySchemaFromInterface returned: "
      (newOutputArraySchema context fields)
  | .expressionToolOutput =>
      wrap "(NewCWLType_Type) NewOutputArraySchemaFromInterface returned: "
          (newOutputArraySchema context fields)
  | .commandOutput =>
      wrap "(NewCWLType_Type) NewCommandOutputArraySchemaFromInterface returned: "
        (newCommandOutputArraySchema context fields)
  | .commandInput =>
      wrap "(NewCWLType_Type) NewCommandInputArraySchemaFromInterface returned: "
        (newCommandInputArraySchema context fields)
  | .workflowOutput => .error (.error "(NewCWLType_Type) array, context_p WorkflowOutput unknown")

/-- The constructor of a record schema. -/
def recordByRole : Role -> Except Failure Schema
  | .input => wrap "(NewCWLType_Type) NewInputRecordSchemaFromInterface returned: "
      (newInputRecordSchema context fields)
  | .commandInput =>
      wrap "(NewCWLType_Type) NewCommandInputRecordSchemaFromInterface returned: "
        (newCommandInputRecordSchema context fields)
  | .commandOutput =>
      wrap "(NewCWLType_Type) NewCommandOutputRecordSchemaFromInterface returned: "
        (newCommandOutputRecordSchema context fields)
  | .output => wrap "(NewCWLType_Type) NewOutputRecordSchemaFromInterface returned: "
      (newOutputRecordSchema context fields)
  | .expressionToolOutput =>
      wrap "(NewCWLType_Type) NewOutputRecordSchemaFromInterface returned: "
          (newOutputRecordSchema context fields)
  | .workflowOutput => .error (.error "(NewCWLType_Type) record, context WorkflowOutput unknown")

/-- The constructor of an enum schema. -/
def enumByRole : Role -> Except Failure Schema
  | .input => wrap "(NewCWLType_Type) NewInputEnumSchemaFromInterface returned: "
      (newInputEnumSchema context fields)
  | .output => wrap "(NewCWLType_Type) NewInputEnumSchemaFromInterface returned: "
      (newOutputEnumSchema context fields)
  | .expressionToolOutput =>
      wrap "(NewCWLType_Type) NewInputEnumSchemaFromInterface returned: "
          (newOutputEnumSchema context fields)
  | .commandInput =>
      wrap "(NewCWLType_Type) NewCommandInputEnumSchemaFromInterface returned: "
          (newCommandInputEnumSchema context fields)
  | role => .error (.error ("(NewCWLType_Type) enum, context_p " ++ role.text ++ " unknown"))

/-- The case of `NewCWLType_Type` for a map. -/
def schemaOfMap (role : Role) : Except Failure (List Schema) := do
  let objectType <- objectTypeOf fields
  assertID fields
  if objectType = "" then
    .error (.error ("(NewCWLType_Type) object_type could not be detected (context: " ++
        role.text ++ ")"))
  else if objectType = "array" then (arrayByRole context fields role).map fun schema => [schema]
  else if objectType = "record" then (recordByRole context fields role).map fun schema => [schema]
  else if objectType = "enum" then (enumByRole context fields role).map fun schema => [schema]
  else .error (.error ("(NewCWLType_Type) object_type " ++ objectType ++ " not supported yet"))

/-- The case of `NewCWLType_TypeArray` for a map, which is handed to
`NewCWLType_Type` and checked for an import there. -/
def typesOfMap (role : Role) : Except Failure (List Schema) := do
  checkImport context ((typeTrees fields).lookup "$import")
  wrap "(NewCWLType_TypeArray) NewCWLType_Type returns: " (schemaOfMap context fields role)

/-- `NewRecordFieldFromInterface`, of a map. -/
def newRecordField (role : RecordRole) : Except Failure Unit := do
  checkImport context ((typeTrees fields).lookup "$import")
  let _ <- asText "(NewRecordFieldFromInterface) type error for name"
      ((typeTrees fields).lookup "name")
  let _ <- asText "(NewRecordFieldFromInterface) type error for label"
      ((typeTrees fields).lookup "label")
  let _ <- asText "(NewRecordFieldFromInterface) type error for doc"
      ((typeTrees fields).lookup "doc")
  match fields.lookup "type" with
  | none => pure ()
  | some child =>
      (wrap "(NewRecordFieldFromInterface) NewCWLTypeArray returned: " (child.types role.role)).map
          fun _ => ()

/-- `NewInputRecordField`, of a map. -/
def newInputRecordField : Except Failure Unit := do
  wrap "(NewInputRecordField) NewRecordFieldFromInterface returned: "
      (newRecordField context fields .input)
  bindingOf "inputBinding" "(NewInputRecordField) NewCommandLineBinding returns: "
      (newCommandLineBinding context) fields

/-- `NewCommandInputRecordField`, of a map. -/
def newCommandInputRecordField : Except Failure Unit := do
  wrap "(NewCommandInputRecordField) NewRecordFieldFromInterface returned: "
      (newRecordField context fields .commandInput)
  bindingOf "inputBinding" "(NewCommandInputRecordField) NewCWLTypeArray returned: "
      (newCommandLineBinding context) fields

/-- `NewOutputRecordField`, of a map. -/
def newOutputRecordField : Except Failure Unit := do
  wrap "(NewOutputRecordField) NewRecordFieldFromInterface returned: "
      (newRecordField context fields .output)
  bindingOf "outputBinding" "(NewOutputRecordField) NewCWLTypeArray returned: "
      (newCommandOutputBinding context) fields

/-- `NewCommandOutputRecordField`, of a map. -/
def newCommandOutputRecordField : Except Failure Unit := do
  wrap "(NewCommandOutputRecordField) NewRecordFieldFromInterface returned: "
    (newRecordField context fields .commandOutput)
  bindingOf "outputBinding" "(NewCommandOutputRecordField) NewCWLTypeArray returned: "
    (newCommandOutputBinding context) fields

/-- The parser of a field that is a map. -/
def fieldOfMap : RecordRole -> Except Failure Unit
  | .input => newInputRecordField context fields
  | .output => newOutputRecordField context fields
  | .commandInput => newCommandInputRecordField context fields
  | .commandOutput => newCommandOutputRecordField context fields

end

/-- The loop of `NewCWLType_TypeArray` over a list. -/
def alternatives (elements : List (Role -> Except Failure (List Schema))) (role : Role) :
    Except Failure (List Schema) :=
  List.flatten <$> elements.mapM fun types => types role

def fieldCaller : RecordRole -> String
  | .input => "(NewInputRecordField)"
  | .output => "(NewOutputRecordField)"
  | .commandInput => "(NewCommandInputRecordField)"
  | .commandOutput => "(NewCommandOutputRecordField)"

/-- The parser of a field that is a list of types, which the output records refuse
after the types have been parsed. -/
def fieldOfList (types : Role -> Except Failure (List Schema)) (role : RecordRole) :
    Except Failure Unit := do
  let _ <- wrap (fieldCaller role ++
    " NewRecordFieldFromInterface returned: (NewRecordFieldFromInterface) NewCWLTypeArray returned: ") (types role.role)
  if role = .output ∨ role = .commandOutput then
      .error (.error (fieldCaller role ++ " type assertion error")) else pure ()

/-- The loop over a list of fields. -/
def everyField (fields : List (RecordRole -> Except Failure Unit)) (role : RecordRole) :
    Except Failure Unit :=
  fields.forM fun field => field role

theorem everyField_map {A : Type} (list : List A) (parse : A -> RecordRole -> Except Failure Unit)
    (role : RecordRole) :
    everyField (list.map parse) role = list.forM fun value => parse value role := by
  induction list with
  | nil => rfl
  | cons head tail inductionHypothesis =>
      change (parse head role >>= fun _ => everyField (tail.map parse) role) = _
      rw [inductionHypothesis]
      rfl

/-! ## The recursion -/

section

variable (context : Context)

mutual

/-- `NewCWLType_TypeArray`. -/
def newCWLTypeTypeArray : Tree -> Role -> Except Failure (List Schema)
  | .anyMap entries, role => do
      let fields <- stringKeys (typeChildrenOfEntries entries)
      typesOfMap context fields role
  | .strMap fields, role => do
      checkImport context (fields.lookup "$import")
      typesOfMap context (typeChildrenOfFields fields) role
  | .text native, role => newCWLTypeTypeFromString context native role
  | .list elements, role => alternatives (elementTypes elements) role
  | _, _ => .error (.error "(NewCWLType_TypeArray) type unknown")

/-- `NewCWLType_Type`. -/
def newCWLTypeType : Tree -> Role -> Except Failure (List Schema)
  | .anyMap entries, role => do
      let fields <- stringKeys (typeChildrenOfEntries entries)
      schemaOfMap context fields role
  | .strMap fields, role => do
      checkImport context (fields.lookup "$import")
      schemaOfMap context (typeChildrenOfFields fields) role
  | .text native, role =>
      wrap "(NewCWLType_Type) A NewCWLType_TypeFromString returned: "
          (newCWLTypeTypeFromString context native role)
  | _, _ => .error (.error "(NewCWLType_Type) type unkown")

/-- The parsers of one field of a record. -/
def recordField : Tree -> RecordRole -> Except Failure Unit
  | .anyMap entries, role => do
      let fields <- stringKeys (typeChildrenOfEntries entries)
      fieldOfMap context fields role
  | .strMap fields, role => do
      checkImport context (fields.lookup "$import")
      fieldOfMap context (typeChildrenOfFields fields) role
  | .list elements, role => fieldOfList (alternatives (elementTypes elements)) role
  | _, _ => .error (.error "(NewRecordFieldFromInterface) unknown type")

/-- The parsers of the fields of a record.  Only the two kinds of inputs come here
with a map. -/
def recordFieldArray : Tree -> RecordRole -> Except Failure Unit
  | .anyMap entries, role => do
      let fields <- stringKeys (typeChildrenOfEntries entries)
      everyField (fields.map fun field => field.2.field) role
  | .strMap fields, role => do
      checkImport context (fields.lookup "$import")
      everyField ((typeChildrenOfFields fields).map fun field => field.2.field) role
  | .list elements, role => everyField (elementFields elements) role
  | _, _ => .error (.error "(CreateInputRecordFieldArray) type not supported")

def elementTypes : List Tree -> List (Role -> Except Failure (List Schema))
  | [] => []
  | tree :: rest => newCWLTypeType tree :: elementTypes rest

def elementFields : List Tree -> List (RecordRole -> Except Failure Unit)
  | [] => []
  | tree :: rest => recordField tree :: elementFields rest

def typeChildrenOfEntries : List (Tree × Tree) -> List (Tree × TypeChild)
  | [] => []
  | (key, tree) :: rest =>
      (key, ⟨tree, newCWLTypeTypeArray tree, recordField tree, recordFieldArray tree⟩) ::
          typeChildrenOfEntries rest

def typeChildrenOfFields : List (String × Tree) -> List (String × TypeChild)
  | [] => []
  | (key, tree) :: rest =>
      (key, ⟨tree, newCWLTypeTypeArray tree, recordField tree, recordFieldArray tree⟩) ::
          typeChildrenOfFields rest

end

/-- The child that an entry becomes. -/
def typeChildOf (tree : Tree) : TypeChild :=
  ⟨tree, newCWLTypeTypeArray context tree, recordField context tree, recordFieldArray context tree⟩

theorem elementTypes_eq (elements : List Tree) :
    elementTypes context elements = elements.map (newCWLTypeType context) := by
  induction elements with
  | nil => rw [elementTypes, List.map_nil]
  | cons tree rest inductionHypothesis => rw [elementTypes, inductionHypothesis, List.map_cons]

theorem elementFields_eq (elements : List Tree) :
    elementFields context elements = elements.map (recordField context) := by
  induction elements with
  | nil => rw [elementFields, List.map_nil]
  | cons tree rest inductionHypothesis => rw [elementFields, inductionHypothesis, List.map_cons]

theorem typeChildrenOfFields_eq (fields : List (String × Tree)) :
    typeChildrenOfFields context fields = fields.map fun field =>
        (field.1, typeChildOf context field.2) := by
  induction fields with
  | nil => rw [typeChildrenOfFields, List.map_nil]
  | cons field rest inductionHypothesis =>
      rw [typeChildrenOfFields, inductionHypothesis, List.map_cons]
      rfl

theorem typeChildrenOfEntries_eq (entries : List (Tree × Tree)) :
    typeChildrenOfEntries context entries =
      entries.map fun entry => (entry.1, typeChildOf context entry.2) := by
  induction entries with
  | nil => rw [typeChildrenOfEntries, List.map_nil]
  | cons entry rest inductionHypothesis =>
      rw [typeChildrenOfEntries, inductionHypothesis, List.map_cons]
      rfl

theorem stringKeys_typeChildrenOfEntries (entries : List (Tree × Tree)) :
    stringKeys (typeChildrenOfEntries context entries) = (stringKeys entries).map
        (typeChildrenOfFields context) := by
  rw [typeChildrenOfEntries_eq, stringKeys_map]
  cases stringKeys entries with
  | error failure => rfl
  | ok fields => exact congrArg Except.ok (typeChildrenOfFields_eq context fields).symm

theorem typeTrees_typeChildrenOfFields (fields : List (String × Tree)) :
    typeTrees (typeChildrenOfFields context fields) = fields := by
  unfold typeTrees
  rw [typeChildrenOfFields_eq, List.map_map]
  exact List.map_id fields

theorem lookup_typeChildrenOfFields (fields : List (String × Tree)) (key : String) :
    (typeChildrenOfFields context fields).lookup key = (fields.lookup key).map
        (typeChildOf context) := by
  rw [typeChildrenOfFields_eq]
  induction fields with
  | nil => rfl
  | cons field rest inductionHypothesis =>
      rw [List.map_cons, List.lookup_cons, List.lookup_cons, inductionHypothesis]
      cases key == field.1 <;> rfl

end

end Types
end Cwl
end Awe
