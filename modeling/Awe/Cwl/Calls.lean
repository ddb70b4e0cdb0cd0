import Awe.Cwl.Requirements
import Awe.Lib.Calls

namespace Awe
namespace Cwl
namespace Calls

open Lib Lib.Path Lib.Calls Natives Cwl.Types Requirements

/-!
# The calls of the parsers

The parsers of job input, types and requirements call each other on the parts
of a tree.  Which calls one of them makes, and in which order, can be read off
its arguments: `plan` lists them.  A call is only made if those before it have
returned without an error.

`Faulty` are the calls that panic by themselves.  They are the only places where
the parsers assert the type of a value, use an index, go through a nil pointer
or panic on purpose.
-/

/-- `yaml.Unmarshal` into a list and into a map. -/
structure Yaml where
  list : List UInt8 -> Option (List Tree)
  map : List UInt8 -> Option (List (String × Tree))

/-- `NewJobDocument`. -/
def newJobDocument (library : Library) (context : Context) (original : Tree) :
    Except Failure Document :=
  match makeStringMap context original with
  | .error failure => .error failure
  | .ok (.strMap fields) =>
      fields.mapM fun field =>
        (wrap "(NewJobDocument) NewCWLType returned: "
            (newCWLType library context field.2 field.1)).map fun value =>
          (field.1, value)
  | .ok (.list elements) =>
      elements.mapM fun element =>
        (wrap "(NewJobDocument) NewCWLType returned: " (newCWLType library context element "")).map
            fun value =>
          ("not supported", value)
  | .ok _ => .error (.error "(NewJobDocument) (A) type unknown")

/-- What `ParseJob` takes the input for: a list if it starts with a dash, and a map
otherwise. -/
def jobTree (yaml : Yaml) (input : List UInt8) : Option Tree :=
  if input.head? = some 45 then (yaml.list input).map .list else (yaml.map input).map .strMap

/-- `ParseJob`.  The first byte is asked for before it is known to exist. -/
def parseJob (library : Library) (yaml : Yaml) (input : List UInt8) : Except Failure Document :=
  if input.isEmpty then .error (.panic "runtime error: index out of range")
  else
    match jobTree yaml input with
    | none => .error (.error "(ParseJob) Could, not parse job input as yaml")
    | some tree => wrap "(ParseJob) NewJob_document returns: " (newJobDocument library .nil tree)

/-- A call of one of the parsers, with what it reads. -/
inductive Call where
  /-- `MakeStringMap`. -/
  | map (context : Context) (tree : Tree)
  /-- `NewCWLType`. -/
  | value (context : Context) (tree : Tree) (name : String)
  /-- A round of the loop over secondary files or a listing. -/
  | fileOrDirectory (context : Context) (tree : Tree)
  /-- `NewCWLType_TypeFromString`. -/
  | typeName (context : Context) (native : String) (role : Role)
  /-- `NewCWLType_TypeArray`. -/
  | types (context : Context) (tree : Tree) (role : Role)
  /-- `NewCWLType_Type`. -/
  | type (context : Context) (tree : Tree) (role : Role)
  /-- `NewCWLType_Type`, once it has found a map. -/
  | schema (context : Context) (fields : List (String × Tree)) (role : Role)
  /-- `NewArraySchemaFromMap`. -/
  | items (context : Context) (fields : List (String × Tree)) (role : Role)
  /-- `NewRecordFieldFromInterface`, once it has found a map. -/
  | fieldTypes (context : Context) (fields : List (String × Tree)) (role : RecordRole)
  /-- The parsers of one field of a record. -/
  | field (context : Context) (tree : Tree) (role : RecordRole)
  /-- The parsers of the fields of a record. -/
  | fields (context : Context) (tree : Tree) (role : RecordRole)
  /-- `NewListingFromInterface`. -/
  | listing (context : Context) (tree : Tree)
  /-- `NewRequirement`. -/
  | requirement (context : Context) (className : String) (tree : Tree)
  /-- `NewRequirementFromInterface`. -/
  | requirementObject (context : Context) (tree : Tree)
  /-- A call whose error is passed over. -/
  | hint (call : Call)
  /-- `CreateRequirementArray`. -/
  | requirements (context : Context) (tree : Tree) (optional : Bool)
  /-- `NewJobDocument`. -/
  | document (context : Context) (tree : Tree)
  /-- `ParseJob`. -/
  | job (input : List UInt8)
  /-- `NewNamedCWLTypeFromInterface`. -/
  | named (context : Context) (tree : Tree)
  /-- `NewJob_documentFromNamedTypes`. -/
  | results (context : Context) (tree : Tree)

/-- A result without its value. -/
def forget {A : Type} (result : Except Failure A) : Except Failure Unit :=
  result.map fun _ => ()

/-- An error is passed over, a panic is not. -/
def passOver : Except Failure Unit -> Except Failure Unit
  | .error (.error _) => .ok ()
  | result => result

section

variable (library : Library) (yaml : Yaml)

/-- How a call ends. -/
def run : Call -> Except Failure Unit
  | .map context tree => forget (makeStringMap context tree)
  | .value context tree name => forget (newCWLType library context tree name)
  | .fileOrDirectory context tree =>
      forget (fileOrDirectory "" "" (newCWLType library context tree ""))
  | .typeName context native role => forget (newCWLTypeTypeFromString context native role)
  | .types context tree role => forget (newCWLTypeTypeArray context tree role)
  | .type context tree role => forget (newCWLTypeType context tree role)
  | .schema context fields role =>
      forget (schemaOfMap context (typeChildrenOfFields context fields) role)
  | .items context fields role =>
      forget (newArraySchemaFromMap role (typeChildrenOfFields context fields))
  | .fieldTypes context fields role =>
      newRecordField context (typeChildrenOfFields context fields) role
  | .field context tree role => Types.recordField context tree role
  | .fields context tree role => recordFieldArray context tree role
  | .listing context tree => newListingFromInterface library context tree
  | .requirement context className tree => forget (newRequirement library className tree context).1
  | .requirementObject context tree => forget (newRequirementFromInterface library tree context).1
  | .hint call => passOver (run call)
  | .requirements context tree optional =>
      forget (createRequirementArray library tree optional context).1
  | .document context tree => forget (newJobDocument library context tree)
  | .job input => forget (parseJob library yaml input)
  | .named context tree => forget (newNamed library context tree)
  | .results context tree => forget (newJobDocumentFromNamedTypes library context tree)

/-! ### The calls that are made -/

/-- The fields of a tree that `MakeStringMap` turns into a map. -/
def opened (context : Context) (tree : Tree) : Option (List (String × Tree)) :=
  match makeStringMap context tree with
  | .ok (.strMap fields) => some fields
  | _ => none

/-- The elements of a tree that is a list. -/
def listed : Tree -> List Tree
  | .list elements => elements
  | _ => []

/-- The files of a `File` or a `Directory`, if they are given as a list. -/
def filesOf (context : Context) (found : Option Tree) : List Call :=
  (found.map listed).getD [] |>.map fun tree => .fileOrDirectory context tree

/-- A listing that is not given as a list. -/
def singleListing (context : Context) : Option Tree -> List Call
  | none => []
  | some (.list _) => []
  | some tree => [.fileOrDirectory context tree]

/-- The calls for the fields of a map that is turned into a value. -/
def planOfValue (context : Context) (fields : List (String × Tree)) : List Call :=
  if (fields.lookup "items").isSome then []
  else
    match getClassIn (library.visit "Empty" (keys fields)) fields with
    | .error _ => []
    | .ok className =>
        if className = "File" then filesOf context (fields.lookup "secondaryFiles")
        else if className = "string" then []
        else if className = "boolean" then []
        else if className = "Directory" then
          filesOf context (fields.lookup "listing") ++ singleListing context
              (fields.lookup "listing")
        else .map context (.strMap fields) :: fields.map fun field => .value context field.2 field.1

/-- A binding is opened if it is there. -/
def planOfBinding (context : Context) (key : String) (fields : List (String × Tree)) : List Call :=
  ((fields.lookup key).map fun tree => [Call.map context tree]).getD []

/-- The calls for an array schema, in the roles that have one. -/
def planOfArray (context : Context) (fields : List (String × Tree)) : Role -> List Call
  | .input =>
      .map context (.strMap fields) :: .items context fields .input :: planOfBinding context
          "inputBinding" fields
  | .commandInput =>
      .map context (.strMap fields) :: .items context fields .commandInput ::
        planOfBinding context "inputBinding" fields
  | .output =>
      .map context (.strMap fields) :: .items context fields .output :: planOfBinding context
          "outputBinding" fields
  | .expressionToolOutput =>
      .map context (.strMap fields) :: .items context fields .output :: planOfBinding context
          "outputBinding" fields
  | .commandOutput =>
      .map context (.strMap fields) ::
        ((fields.lookup "items").map fun tree => [Call.types context tree .commandOutput]).getD []
  | .workflowOutput => []

/-- A field that is absent or a text. -/
def isTextual (found : Option Tree) : Bool :=
  (found.map isText).getD true

/-- The calls for the fields of a record. -/
def planOfRecordFields (context : Context) (fields : List (String × Tree)) (role : RecordRole) :
    List Call :=
  if isTextual (fields.lookup "label") && isTextual (fields.lookup "name") then
    ((fields.lookup "fields").map fun tree => [Call.fields context tree role]).getD []
  else []

/-- The fields of an output record are only looked at if they are a list. -/
def planOfListedFields (context : Context) (fields : List (String × Tree)) (role : RecordRole) :
    List Call :=
  match fields.lookup "fields" with
  | some (.list _) => planOfRecordFields context fields role
  | _ => []

/-- The calls for a record schema. -/
def planOfRecord (context : Context) (fields : List (String × Tree)) : Role -> List Call
  | .input => .map context (.strMap fields) :: planOfRecordFields context fields .input
  | .commandInput => .map context (.strMap fields) :: planOfRecordFields context
      fields .commandInput
  | .output => .map context (.strMap fields) :: planOfListedFields context fields .output
  | .expressionToolOutput => .map context (.strMap fields) :: planOfListedFields context
      fields .output
  | .commandOutput => .map context (.strMap fields) :: planOfListedFields context fields
      .commandOutput
  | .workflowOutput => []

/-- The calls for an enum schema. -/
def planOfEnum (context : Context) (fields : List (String × Tree)) : Role -> List Call
  | .output => [.map context (.strMap fields)]
  | .expressionToolOutput => [.map context (.strMap fields)]
  | .input =>
      .map context (.strMap fields) ::
        if decodesStruct enumStruct fields then planOfBinding context "inputBinding" fields else []
  | .commandInput =>
      .map context (.strMap fields) ::
        if decodesStruct enumStruct fields then planOfBinding context "inputBinding" fields else []
  | _ => []

/-- The type that `NewCWLType_Type` finds in a map, if it is a text. -/
def objectType (fields : List (String × Tree)) : String :=
  match fields.lookup "type" with
  | some tree => textOf (some tree)
  | none => if (fields.lookup "items").isSome then "array" else ""

/-- The calls for a schema. -/
def planOfSchema (context : Context) (fields : List (String × Tree)) (role : Role) : List Call :=
  if isTextual (fields.lookup "type") && isTextual (fields.lookup "id") then
    if objectType fields = "array" then planOfArray context fields role
    else if objectType fields = "record" then planOfRecord context fields role
    else if objectType fields = "enum" then planOfEnum context fields role
    else []
  else []

/-- The binding of a field of a record. -/
def bindingKey : RecordRole -> String
  | .input => "inputBinding"
  | .commandInput => "inputBinding"
  | .output => "outputBinding"
  | .commandOutput => "outputBinding"

/-- The calls for the types of a field. -/
def planOfFieldTypes (context : Context) (fields : List (String × Tree)) (role : RecordRole) :
    List Call :=
  .map context (.strMap fields) ::
    if isTextual (fields.lookup "name") && isTextual (fields.lookup "label") && isTextual
        (fields.lookup "doc") then
      ((fields.lookup "type").map fun tree => [Call.types context tree role.role]).getD []
    else []

/-- The calls for a listing of an `InitialWorkDirRequirement`. -/
def planOfListing (context : Context) : Tree -> List Call
  | .null => []
  | .list elements => elements.map fun element => .listing context element
  | tree => [.listing context tree]

/-- The calls of the constructor of a requirement. -/
def planOfRequirement (context : Context) (className : String) (tree : Tree) : List Call :=
  if className = "ResourceRequirement" then [.map context tree]
  else if className = "EnvVarRequirement" then
    .map context tree ::
        (((opened context tree).bind fun fields => fields.lookup "envDef").map fun envDef =>
      [Call.map context envDef]).getD []
  else if className = "InitialWorkDirRequirement" then
    .map context tree ::
        (((opened context tree).bind fun fields => fields.lookup "listing").map fun listing =>
      planOfListing context listing).getD []
  else if className = "SchemaDefRequirement" then
    .map context tree ::
        (((opened context tree).bind fun fields => fields.lookup "types").map fun types =>
      [Call.types context types .input]).getD []
  else []

/-- Hints may be refused. -/
def attempted (optional : Bool) (call : Call) : Call :=
  if optional then .hint call else call

/-- The context that `NewRequirement` leaves behind, for a class and an object.  It is
left open here: the parsers leave the one that they compute, and what that is can
also be said without running them. -/
abbrev Leaving := Context -> String -> Tree -> Context

variable (left : Leaving)

/-- The calls for the entries of a map of requirements, each in the context that
the ones before it have left. -/
def planOfEntries (optional : Bool) : List (String × Tree) -> Context -> List Call
  | [], _ => []
  | (className, tree) :: rest, context =>
      attempted optional (.requirement context className tree) ::
        planOfEntries optional rest (left context className tree)

/-- An object without a class is refused before anything is entered. -/
def leftByObject (context : Context) (tree : Tree) : Context :=
  match opened context tree with
  | none => context
  | some fields =>
      match getClass fields with
      | .error _ => context
      | .ok className => left context className (.strMap fields)

/-- The same for a list of requirements. -/
def planOfObjects (optional : Bool) : List Tree -> Context -> List Call
  | [], _ => []
  | tree :: rest, context =>
      attempted optional (.requirementObject context tree) ::
        planOfObjects optional rest (leftByObject left context tree)

/-- The calls for the fields of a named value. -/
def planOfNamed (context : Context) (fields : List (String × Tree)) : List Call :=
  match fields.lookup "value" with
  | none => []
  | some tree =>
      .map context tree :: match makeStringMap context tree with
        | .error _ => []
        | .ok value =>
            if isTextual (fields.lookup "id") then
                [.value context value (textOf (fields.lookup "id"))] else []

/-- The calls that a call makes, in their order. -/
def plan : Call -> List Call
  | .map _ _ => []
  | .value context tree _ =>
      .map context tree :: match tree with
        | .list elements => elements.map fun element => .value context element ""
        | tree => ((opened context tree).map (planOfValue library context)).getD []
  | .fileOrDirectory context tree => [.value context tree ""]
  | .typeName _ _ _ => []
  | .types context tree role =>
      .map context tree :: match tree with
        | .text native => [.typeName context native role]
        | .list elements => elements.map fun element => .type context element role
        | tree =>
            ((opened context tree).map fun fields =>
              [.map context (.strMap fields), .schema context fields role]).getD []
  | .type context tree role =>
      .map context tree :: match tree with
        | .text native => [.typeName context native role]
        | tree => ((opened context tree).map fun fields => [.schema context fields role]).getD []
  | .schema context fields role => planOfSchema context fields role
  | .items context fields role =>
      ((fields.lookup "items").map fun tree => [.types context tree role]).getD []
  | .fieldTypes context fields role => planOfFieldTypes context fields role
  | .field context tree role =>
      .map context tree :: match tree with
        | .list elements => elements.map fun element => .type context element role.role
        | tree =>
            ((opened context tree).map fun fields =>
              .fieldTypes context fields role :: planOfBinding context (bindingKey role)
                  fields).getD []
  | .fields context tree role =>
      .map context tree :: match tree with
        | .list elements => elements.map fun element => .field context element role
        | tree => ((opened context tree).map fun fields => fields.map fun field =>
            .field context field.2 role).getD []
  | .listing context tree =>
      .map context tree :: match makeStringMap context tree with
        | .error _ => []
        | .ok (.strMap fields) =>
            if (fields.lookup "entry").isSome then [] else [.value context (.strMap fields) ""]
        | .ok tree => [.value context tree ""]
  | .requirement context className tree => planOfRequirement context className tree
  | .requirementObject context tree =>
      .map context tree :: ((opened context tree).map fun fields =>
        match getClass fields with
        | .error _ => []
        | .ok className => [.requirement context className (.strMap fields)]).getD []
  | .hint call => [call]
  | .requirements context tree optional =>
      .map context tree :: match tree with
        | .list elements => planOfObjects left optional elements context
        | tree => ((opened context tree).map fun fields =>
            planOfEntries left optional fields context).getD []
  | .document context tree =>
      .map context tree :: match tree with
        | .list elements => elements.map fun element => .value context element ""
        | tree => ((opened context tree).map fun fields => fields.map fun field =>
            .value context field.2 field.1).getD []
  | .job input => ((jobTree yaml input).map fun tree => [Call.document .nil tree]).getD []
  | .named context tree =>
      .map context tree :: ((opened context tree).map (planOfNamed context)).getD []
  | .results context tree =>
      .map context tree :: match tree with
        | .list elements => elements.map fun element => .named context element
        | _ => []

/-! ### What is asked of the parts

A call returns if the calls that it makes return and the rest of what it reads
has the shape that it asks for.  `Fits` describes this rest: which kinds of trees
are taken, which entries have to be there, and what the structs can hold.
-/

/-- A file that is given by its contents has a base name that is taken for a URL of
a known scheme. -/
def Located (file : FileFields) : Prop :=
  file.contents ≠ "" -> file.basename ≠ "" -> Exists fun url =>
      library.parseURL file.basename = some url ∧
    url.scheme ∈ ["http", "https", "", "file"]

/-- The secondary files are a list, and the other fields are those of a `File`. -/
def FitsFile (fields : List (String × Tree)) : Prop :=
  (forall tree, fields.lookup "secondaryFiles" = some tree -> Exists fun elements =>
      tree = .list elements) ∧
    decodesStructIn (library.visit "File" (keys fields))
      (if (fields.lookup "secondaryFiles").isSome then fileStruct
        else ("secondaryFiles", .list .interface) :: fileStruct) fields = true ∧
    Located library (decodeFile (library.visit "File" (keys fields)) fields)

def FitsDirectory (fields : List (String × Tree)) : Prop :=
  decodesStructIn (library.visit "Directory" (keys fields))
    (if (fields.lookup "listing").isSome then directoryStruct
      else ("listing", .list .typed) :: directoryStruct) fields = true

/-- The map has a class of a value that can be made of a map. -/
def FitsValue (fields : List (String × Tree)) : Prop :=
  fields.lookup "items" = none ∧
    Exists fun className => getClassIn (library.visit "Empty" (keys fields)) fields =
        .ok className ∧
      className ∉ ["string", "boolean"] ∧
      (className = "File" -> FitsFile library fields) ∧
          (className = "Directory" -> FitsDirectory library fields)

/-- The class is that of a file or a directory. -/
def IsFileMap (fields : List (String × Tree)) : Prop :=
  Exists fun className => getClassIn (library.visit "Empty" (keys fields)) fields = .ok className ∧
    className ∈ ["File", "Directory"]

/-- The name of a basic type, of a list of them, or of a schema. -/
def KnownType (context : Context) (native : String) (role : Role) : Prop :=
  native ≠ "" ∧
    ('#' ∈ native.toList ∨
      if hasSuffix (trimSuffix native "?") "[]" = true then
        isValidType (trimSuffix (trimSuffix native "?") "[]") ≠ none ∧ role ≠ .workflowOutput
      else
        isValidType (trimSuffix native "?") ≠ none ∨
          match context with
          | .nil => False
          | .of schemata | .inDirectory _ schemata =>
              Exists fun name => name ∈ schemata ∧ base (trimSuffix native "?") = base name)

/-- The binding of an input is a text, or a map whose fields can be decoded. -/
def FitsInputBinding (context : Context) (tree : Tree) : Prop :=
  match makeStringMap context tree with
  | .ok (.text _) => True
  | .ok (.strMap fields) => isTextual (fields.lookup "valueFrom") = true ∧
      decodesStruct commandLineBindingStruct fields = true
  | _ => False

/-- A glob is a text or a list of texts. -/
def isGlob : Tree -> Bool
  | .text _ => true
  | .list elements => elements.all isText
  | _ => false

/-- The binding of an output is a map whose fields can be decoded. -/
def FitsOutputBinding (context : Context) (tree : Tree) : Prop :=
  match makeStringMap context tree with
  | .ok (.strMap fields) =>
      ((fields.lookup "glob").map isGlob).getD true = true ∧
          isTextual (fields.lookup "outputEval") = true ∧
        decodesStruct commandOutputBindingStruct
          ((if (fields.lookup "glob").isSome then settle "glob" fields else fields).filter
              fun field =>
            field.1 ≠ "outputEval") = true
  | _ => False

/-- A binding fits if it is there. -/
def FitsBinding (fits : Tree -> Prop) (key : String) (fields : List (String × Tree)) : Prop :=
  forall tree, fields.lookup key = some tree -> fits tree

/-- The fields of the array schema of a command output, with the type and the items
that have been parsed. -/
def settledArray (fields : List (String × Tree)) : List (String × Tree) :=
  settle "type" (if (fields.lookup "items").isSome then settle "items" fields else fields)

def FitsArray (context : Context) (fields : List (String × Tree)) : Role -> Prop
  | .input | .commandInput => FitsBinding (FitsInputBinding context) "inputBinding" fields
  | .output | .expressionToolOutput =>
      FitsBinding (FitsOutputBinding context) "outputBinding" fields
  | .commandOutput =>
      decodesStruct commandOutputArrayStruct (settledArray fields) = true ∧
        ((findField "outputBinding" (settledArray fields)).map
            (decodesMap commandOutputBindingStruct)).getD true = true
  | .workflowOutput => False

/-- A record has fields, which the records of outputs take from a list. -/
def FitsRecord (fields : List (String × Tree)) (role : Role) : Prop :=
  isTextual (fields.lookup "label") = true ∧ isTextual (fields.lookup "name") = true ∧
    Exists fun tree => fields.lookup "fields" = some tree ∧
      match role with
      | .input | .commandInput => True
      | .output | .expressionToolOutput | .commandOutput => Exists fun elements =>
          tree = .list elements
      | .workflowOutput => False

def FitsEnum (context : Context) (fields : List (String × Tree)) : Role -> Prop
  | .input | .commandInput =>
      decodesStruct enumStruct fields = true ∧
          FitsBinding (FitsInputBinding context) "inputBinding" fields
  | .output | .expressionToolOutput =>
      decodesStruct enumStruct fields = true ∧
        ((findField "outputbinding" fields).map (decodesMap commandOutputBindingStruct)).getD true =
            true
  | .commandOutput | .workflowOutput => False

/-- A schema is an array, a record or an enum, and says so in a text. -/
def FitsSchema (context : Context) (fields : List (String × Tree)) (role : Role) : Prop :=
  isTextual (fields.lookup "type") = true ∧ isTextual (fields.lookup "id") = true ∧
    (objectType fields = "array" ∧ FitsArray context fields role ∨
      objectType fields = "record" ∧ FitsRecord fields role ∨
      objectType fields = "enum" ∧ FitsEnum context fields role)

/-- A field of a record that is a map has a binding of its role. -/
def FitsField (context : Context) (fields : List (String × Tree)) : RecordRole -> Prop
  | .input | .commandInput => FitsBinding (FitsInputBinding context) "inputBinding" fields
  | .output | .commandOutput => FitsBinding (FitsOutputBinding context) "outputBinding" fields

/-- An entry of a listing is a `Dirent`, a file, a directory or a text. -/
def FitsListing : Tree -> Prop
  | .strMap fields =>
      if (fields.lookup "entry").isSome then decodesStruct direntStruct fields = true else
          IsFileMap library fields
  | .text _ => True
  | _ => False

/-- The definitions of an environment are a list of maps, or a map. -/
def FitsEnvironment : Tree -> Prop
  | .list elements => elements.all isEnvironmentDef = true
  | .strMap _ => True
  | _ => False

/-- The fields of a requirement that have to be there, and those that are decoded. -/
def FitsRequirement (context : Context) (className : String) (tree : Tree) : Prop :=
  match className with
  | "DockerRequirement" =>
      decodesMap [("class", .string), ("dockerPull", .string), ("dockerLoad", .string),
          ("dockerFile", .string),
        ("dockerImport", .string), ("dockerImageId", .string), ("dockerOutputDirectory", .string)]
            tree = true
  | "InlineJavascriptRequirement" =>
      decodesMap [("class", .string), ("ExpressionLib", .list .string)] tree = true
  | "ShellCommandRequirement" | "StepInputExpressionRequirement" | "ScatterFeatureRequirement"
  | "MultipleInputFeatureRequirement" => decodesMap [("class", .string)] tree = true
  | "ShockRequirement" =>
      decodesMap [("shock_api_url", .string)] tree = true ∧
        ((findField "BaseRequirement" (foundFields tree)).map
            (decodesMap [("class", .string)])).getD true = true
  | "ResourceRequirement" =>
      forall found, makeStringMap context tree = .ok found ->
          decodesMap [("class", .string)] found = true ∧
        forall field, field ∈ resourceFields ->
            ((findField field (foundFields found)).map isResource).getD true = true
  | "EnvVarRequirement" =>
      Exists fun fields => opened context tree = some fields ∧ Exists fun envDef =>
          fields.lookup "envDef" = some envDef ∧
        (forall found, makeStringMap context envDef = .ok found -> FitsEnvironment found) ∧
          decodesStruct [("class", .string)] fields = true
  | "InitialWorkDirRequirement" =>
      Exists fun fields => opened context tree = some fields ∧ Exists fun listing =>
        fields.lookup "listing" = some listing ∧ listing ≠ .null ∧
            decodesStruct [("class", .string)] fields = true
  | "SchemaDefRequirement" =>
      Exists fun fields => opened context tree = some fields ∧ Exists fun types =>
          fields.lookup "types" = some types ∧
        decodesStruct [("class", .string), ("Types", .list .interface)]
            (settle "types" fields) = true
  | "SubworkflowFeatureRequirement" => True
  | _ => False

/-- What a call asks of its arguments, apart from what the calls ask that it makes. -/
def Fits : Call -> Prop
  | .map _ (.anyMap entries) => forall entry, entry ∈ entries -> isText entry.1 = true
  | .map _ (.strMap fields) => fields.lookup "$import" = none
  | .map _ _ => True
  | .value _ (.uint64 _) _ => False
  | .value _ (.float64 none) _ => False
  | .value context tree _ => forall fields, opened context tree = some fields ->
      FitsValue library fields
  | .fileOrDirectory context tree => Exists fun fields => opened context tree = some fields ∧
      IsFileMap library fields
  | .typeName context native role => KnownType context native role
  | .types _ tree _ => match tree with
      | .text _ | .list _ | .anyMap _ | .strMap _ => True
      | _ => False
  | .type _ tree _ => match tree with
      | .text _ | .anyMap _ | .strMap _ => True
      | _ => False
  | .schema context fields role => FitsSchema context fields role
  | .items _ fields _ => Exists fun tree => fields.lookup "items" = some tree ∧ tree ≠ .list []
  | .fieldTypes _ fields _ =>
      isTextual (fields.lookup "name") = true ∧ isTextual (fields.lookup "label") = true ∧
        isTextual (fields.lookup "doc") = true
  | .field context tree role => match tree with
      | .list _ => role = .input ∨ role = .commandInput
      | .anyMap _ | .strMap _ => forall fields, opened context tree = some fields ->
          FitsField context fields role
      | _ => False
  | .fields _ tree _ => match tree with
      | .list _ | .anyMap _ | .strMap _ => True
      | _ => False
  | .listing context tree => forall found, makeStringMap context tree = .ok found ->
      FitsListing library found
  | .requirement context className tree => FitsRequirement context className tree
  | .requirementObject context tree =>
      Exists fun fields => opened context tree = some fields ∧ Exists fun className =>
          getClass fields = .ok className
  | .hint _ => True
  | .requirements _ tree _ => match tree with
      | .list _ | .anyMap _ | .strMap _ => True
      | _ => False
  | .document _ tree => match tree with
      | .list _ | .anyMap _ | .strMap _ => True
      | _ => False
  | .job input => input ≠ [] ∧ (jobTree yaml input).isSome
  | .named context tree =>
      Exists fun fields => opened context tree = some fields ∧
          (fields.lookup "value").isSome = true ∧
        isTextual (fields.lookup "id") = true
  | .results _ tree => match tree with
      | .list _ => True
      | _ => False

/-- A key of a map with keys of any kind is not a text. -/
def OddKey (entries : List (Tree × Tree)) : Prop :=
  Exists fun entry => entry ∈ entries ∧ isText entry.1 = false

/-- An import cannot be read without a context, and one from an empty file has no
first byte. -/
def Unreadable (path : String) : Context -> Prop
  | .nil => True
  | .of _ => False
  | .inDirectory emptyFiles _ => trimPrefix path "#" ∈ emptyFiles

/-- An import is asked for that cannot be read. -/
def LostImport (context : Context) (fields : List (String × Tree)) : Prop :=
  Exists fun path => fields.lookup "$import" = some (.text path) ∧ hasPrefix path "#" = true ∧
      Unreadable path context

/-- The name of a type that is looked up among the schemas of the context. -/
def NamesSchema (native : String) : Prop :=
  native ≠ "" ∧ '#' ∉ native.toList ∧ hasSuffix (trimSuffix native "?") "[]" = false ∧
    isValidType (trimSuffix native "?") = none

/-- The calls that panic by themselves. -/
def Faulty : Call -> Prop
  | .map _ (.anyMap entries) => OddKey entries
  | .map context (.strMap fields) => LostImport context fields
  | .typeName context native _ => context = .nil ∧ NamesSchema native
  | .schema _ fields _ => isTextual (fields.lookup "type") = false ∨
      isTextual (fields.lookup "id") = false
  | .requirement context className tree =>
      className = "SchemaDefRequirement" ∧
        Exists fun fields => opened context tree = some fields ∧ fields.lookup "types" = none
  | .job input => input = []
  | _ => False

end

end Calls
end Cwl
end Awe
