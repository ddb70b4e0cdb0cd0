import Awe.Cwl.Types

namespace Awe
namespace Cwl
namespace Requirements

open Lib.Path Natives Cwl.Types

/-!
# Requirements from trees

`CreateRequirementArray` reads the requirements or hints of a process, a list of
objects with a class or a map from classes to objects.  Each object is decoded
by the constructor of its class.  A `SchemaDefRequirement` also enters the names
of its types into the context, where the types parsed later find them, and it
does so even if it is refused afterwards; the context is therefore passed from
one requirement to the next whatever the outcome.

The keys of a map are distinct, so the check for a double entry never fails and
is left out.  A requirement keeps the object it was made of, which stands for
the fields that no function below looks at; those that evaluation looks at
are in `Core.Requirements`, where the documents are gone.
-/

inductive RequirementClass where
  | docker
  | shellCommand
  | resource
  | inlineJavascript
  | envVar
  | stepInputExpression
  | shock
  | initialWorkDir
  | scatterFeature
  | multipleInputFeature
  | schemaDef
  | subworkflowFeature
  deriving DecidableEq, Repr

def RequirementClass.text : RequirementClass -> String
  | .docker => "DockerRequirement"
  | .shellCommand => "ShellCommandRequirement"
  | .resource => "ResourceRequirement"
  | .inlineJavascript => "InlineJavascriptRequirement"
  | .envVar => "EnvVarRequirement"
  | .stepInputExpression => "StepInputExpressionRequirement"
  | .shock => "ShockRequirement"
  | .initialWorkDir => "InitialWorkDirRequirement"
  | .scatterFeature => "ScatterFeatureRequirement"
  | .multipleInputFeature => "MultipleInputFeatureRequirement"
  | .schemaDef => "SchemaDefRequirement"
  | .subworkflowFeature => "SubworkflowFeatureRequirement"

/-- A requirement, with the types of a `SchemaDefRequirement`. -/
structure Requirement where
  cls : RequirementClass
  content : Tree
  types : List Schema := []

/-! ## The constructors -/

/-- A constructor that does no more than decode the object into its struct. -/
def decodeRequirement (cls : RequirementClass) (struct : List (String × FieldKind))
    (original : Tree) :
    Except Failure Requirement :=
  if decodesMap (("class", .string) :: struct) original then .ok { cls, content := original }
  else .error (.error "1 error(s) decoding")

/-- `NewDockerRequirement`. -/
def newDockerRequirement (original : Tree) : Except Failure Requirement :=
  wrap "(NewDockerRequirement) mapstructure.Decode returned: "
    (decodeRequirement .docker [("dockerPull", .string), ("dockerLoad", .string),
        ("dockerFile", .string),
      ("dockerImport", .string), ("dockerImageId", .string), ("dockerOutputDirectory", .string)]
          original)

/-- `NewShellCommandRequirement`. -/
def newShellCommandRequirement (original : Tree) : Except Failure Requirement :=
  decodeRequirement .shellCommand [] original

/-- `NewInlineJavascriptRequirementFromInterface`. -/
def newInlineJavascriptRequirement (original : Tree) : Except Failure Requirement :=
  decodeRequirement .inlineJavascript [("ExpressionLib", .list .string)] original

/-- `NewStepInputExpressionRequirement`. -/
def newStepInputExpressionRequirement (original : Tree) : Except Failure Requirement :=
  decodeRequirement .stepInputExpression [] original

/-- `NewScatterFeatureRequirement`. -/
def newScatterFeatureRequirement (original : Tree) : Except Failure Requirement :=
  decodeRequirement .scatterFeature [] original

/-- `NewMultipleInputFeatureRequirement`. -/
def newMultipleInputFeatureRequirement (original : Tree) : Except Failure Requirement :=
  decodeRequirement .multipleInputFeature [] original

/-- The fields of a map that are found by the decoder. -/
def foundFields : Tree -> List (String × Tree)
  | .strMap fields => fields
  | .anyMap entries => textKeys entries
  | _ => []

/-- `NewShockRequirementFromInterface`.  The base requirement is not squashed, so it
is a struct of its own, and the class is not looked at. -/
def newShockRequirement (original : Tree) : Except Failure Requirement :=
  if decodesMap [("shock_api_url", .string)] original &&
      ((findField "BaseRequirement" (foundFields original)).map
          (decodesMap [("class", .string)])).getD true then
    .ok { cls := .shock, content := original }
  else .error (.error "1 error(s) decoding")

/-- A value that `NewResourceRequirement` takes for a field. -/
def isResource : Tree -> Bool
  | .null => true
  | .text _ => true
  | .int _ => true
  | .int64 _ => true
  | .float64 _ => true
  | _ => false

def resourceFields : List String :=
  ["CoresMin", "CoresMax", "RamMin", "RamMax", "TmpdirMin", "TmpdirMax", "OutdirMin", "OutdirMax"]

/-- `NewResourceRequirement`. -/
def newResourceRequirement (context : Context) (original : Tree) : Except Failure Requirement := do
  let original <- makeStringMap context original
  if decodesMap [("class", .string)] original then
    if resourceFields.all fun field =>
        ((findField field (foundFields original)).map isResource).getD true then
      pure { cls := .resource, content := original }
    else .error (.error "(NewResourceRequirement) type invalid for field")
  else .error (.error "1 error(s) decoding")

/-- `NewEnvironmentDefFromInterface`, as far as it may fail. -/
def isEnvironmentDef (original : Tree) : Bool :=
  decodesMap [("envName", .string), ("envValue", .interface)] original

/-- `GetEnfDefArray`. -/
def getEnfDefArray (context : Context) (original : Tree) : Except Failure Unit := do
  match <- makeStringMap context original with
  | .list elements =>
      if elements.all isEnvironmentDef then pure ()
      else .error (.error "(GetEnfDefArray) NewEnvironmentDefFromInterface returned: ")
  | .strMap _ => pure ()
  | _ => .error (.error "(GetEnfDefArray) type not supported")

/-- `NewEnvVarRequirement`. -/
def newEnvVarRequirement (context : Context) (original : Tree) : Except Failure Requirement := do
  match <- wrap "(NewEnvVarRequirement) MakeStringMap returned: " (makeStringMap context original)
      with
  | .strMap fields =>
      match fields.lookup "envDef" with
      | none => .error (.error "(NewEnvVarRequirement) envDef field empty")
      | some envDef =>
          wrap "(NewEnvVarRequirement) GetEnfDefArray returned: " (getEnfDefArray context envDef)
          decodeRequirement .envVar [] (.strMap fields)
  | _ => .error (.error "(NewEnvVarRequirement) type is not a map[string]interface{}")

/-- The struct `Dirent`. -/
def direntStruct : List (String × FieldKind) :=
  [("Class", .string), ("-", .typed), ("entry", .interface), ("entryname", .interface),
      ("writable", .bool)]

/-- The class of a value is one that a listing may have. -/
def isListing : Value -> Bool
  | .file _ _ => true
  | .directory _ _ => true
  | .string _ => true
  | _ => false

/-- `NewListingFromInterface`, of a tree that is not a `Dirent`. -/
def listingFromValue (library : Library) (context : Context) (original : Tree) :
    Except Failure Unit := do
  let value <- wrap "(NewListingFromInterface) NewCWLType returns: "
      (newCWLType library context original "")
  if isListing value then pure () else
      .error (.error "(NewListingFromInterface) type is not a valid Listing")

/-- `NewListingFromInterface`. -/
def newListingFromInterface (library : Library) (context : Context) (original : Tree) :
    Except Failure Unit := do
  match <- makeStringMap context original with
  | .strMap fields =>
      if (fields.lookup "entry").isSome then
        if decodesStruct direntStruct fields then pure ()
        else .error (.error "(NewCWLType) NewDirent returned: (NewDirentFromInterface) Could not convert Dirent object: ")
      else listingFromValue library context (.strMap fields)
  | tree => listingFromValue library context tree

/-- `CreateListing`. -/
def createListing (library : Library) (context : Context) : Tree -> Except Failure Unit
  | .null => .error (.error "(CreateListingArray)")
  | .list elements =>
      elements.forM fun element =>
        wrap "(CreateListingArray) NewListingFromInterface returns: "
            (newListingFromInterface library context element)
  | original =>
      wrap "(CreateListingArray) NewListingFromInterface returns: "
          (newListingFromInterface library context original)

/-- `NewInitialWorkDirRequirement`. -/
def newInitialWorkDirRequirement (library : Library) (context : Context) (original : Tree) :
    Except Failure Requirement := do
  match <- makeStringMap context original with
  | .strMap fields =>
      match fields.lookup "listing" with
      | none => .error (.error "(NewInitialWorkDirRequirement) Listing is missing")
      | some listing =>
          wrap "(NewInitialWorkDirRequirement) NewCWLType returned: "
              (createListing library context listing)
          decodeRequirement .initialWorkDir [] (.strMap fields)
  | _ => .error (.error "(NewInitialWorkDirRequirement) unknown type")

/-- `GetID` of a type. -/
def getID : Schema -> String
  | .record .commandOutput _ => ""
  | .record _ name => name
  | .enum .output _ _ => ""
  | .enum .commandOutput _ _ => ""
  | .enum _ name _ => name
  | _ => ""

/-- The loop of `AddSchemata`, which stops at a type without a name and at a name
that is known. -/
def addNames : List Schema -> List String -> List String
  | [], names => names
  | schema :: rest, names =>
      if getID schema = "" then names
      else if afterHash (getID schema) ∈ names then names
      else addNames rest (names ++ [afterHash (getID schema)])

/-- `AddSchemata`, which is only called with a context.  Its error is overwritten or
ignored by the caller. -/
def addSchemata (schemata : List Schema) : Context -> Context
  | .nil => .nil
  | .of names => .of (addNames schemata names)
  | .inDirectory emptyFiles names => .inDirectory emptyFiles (addNames schemata names)

/-- `NewSchemaDefRequirement`.  The second call of `AddSchemata` stops at its first
type, which the first call has entered or refused. -/
def newSchemaDefRequirement (original : Tree) (context : Context) :
    Except Failure Requirement × Context :=
  match makeStringMap context original with
  | .error failure => (.error failure, context)
  | .ok (.strMap fields) =>
      match fields.lookup "types" with
      | none => (.error (.panic "I am sad"), context)
      | some tree =>
          match newCWLTypeTypeArray context tree .input with
          | .error failure => (.error failure, context)
          | .ok schemata =>
              if decodesStruct [("class", .string), ("Types", .list .interface)]
                  (settle "types" fields) then
                (.ok { cls := .schemaDef, content := .strMap fields, types := schemata },
                    addSchemata schemata context)
              else (.error (.error "1 error(s) decoding"), addSchemata schemata context)
  | .ok _ => (.error (.error "(NewSchemaDefRequirement) type error"), context)

/-! ## Lists of requirements -/

/-- `NewRequirement`. -/
def newRequirement (library : Library) (className : String) (obj : Tree) (context : Context) :
    Except Failure Requirement × Context :=
  match className with
  | "" => (.error (.error "class name empty"), context)
  | "DockerRequirement" =>
      (wrap "(NewRequirement) NewDockerRequirement returns: " (newDockerRequirement obj), context)
  | "ShellCommandRequirement" =>
      (wrap "(NewRequirement) NewShellCommandRequirement returns: "
          (newShellCommandRequirement obj), context)
  | "ResourceRequirement" =>
      (wrap "(NewRequirement) NewResourceRequirement returns: "
          (newResourceRequirement context obj), context)
  | "InlineJavascriptRequirement" =>
      (wrap "(NewRequirement) NewInlineJavascriptRequirement returns: "
          (newInlineJavascriptRequirement obj), context)
  | "EnvVarRequirement" =>
      (wrap "(NewRequirement) NewEnvVarRequirement returns: " (newEnvVarRequirement context obj),
          context)
  | "StepInputExpressionRequirement" =>
      (wrap "(NewRequirement) NewStepInputExpressionRequirement returns: "
          (newStepInputExpressionRequirement obj),
        context)
  | "ShockRequirement" =>
      (wrap "(NewRequirement) NewShockRequirementFromInterface returns: " (newShockRequirement obj),
          context)
  | "InitialWorkDirRequirement" =>
      (wrap "(NewRequirement) NewInitialWorkDirRequirement returns: "
          (newInitialWorkDirRequirement library context obj),
        context)
  | "ScatterFeatureRequirement" =>
      (wrap "(NewRequirement) NewScatterFeatureRequirement returns: "
          (newScatterFeatureRequirement obj), context)
  | "MultipleInputFeatureRequirement" =>
      (wrap "(NewRequirement) NewMultipleInputFeatureRequirement returns: "
          (newMultipleInputFeatureRequirement obj),
        context)
  | "SchemaDefRequirement" =>
      (wrap "(NewRequirement) NewSchemaDefRequirement returns: "
          (newSchemaDefRequirement obj context).1,
        (newSchemaDefRequirement obj context).2)
  | "SubworkflowFeatureRequirement" => (.ok { cls := .subworkflowFeature, content := obj }, context)
  | className => (.error (.error ("Requirement class not supported " ++ className)), context)

/-- `NewRequirementFromInterface`. -/
def newRequirementFromInterface (library : Library) (obj : Tree) (context : Context) :
    Except Failure Requirement × Context :=
  match makeStringMap context obj with
  | .error failure => (.error failure, context)
  | .ok (.strMap fields) =>
      match getClass fields with
      | .error text => (.error
          (.error ("(NewRequirementFromInterface) GetClass returned: " ++ text)), context)
      | .ok className =>
          (wrap "(NewRequirementFromInterface) NewRequirement retured: "
            (newRequirement library className (.strMap fields) context).1,
            (newRequirement library className (.strMap fields) context).2)
  | .ok _ => (.error (.error "(NewRequirementFromInterface) type not recognized"), context)

/-- The loop of `CreateRequirementArray`.  Hints that are refused are passed over. -/
def createAll (optional : Bool) (caller : String) :
    List (Context -> Except Failure Requirement × Context) -> Context ->
    Except Failure (List Requirement) × Context
  | [], context => (.ok [], context)
  | attempt :: rest, context =>
      match attempt context with
      | (.ok requirement, next) =>
          let (others, last) := createAll optional caller rest next
          (others.map fun requirements => requirement :: requirements, last)
      | (.error (.error text), next) =>
          if optional then createAll optional caller rest next else
              (.error (.error (caller ++ text)), next)
      | (.error (.panic text), next) => (.error (.panic text), next)

/-- `CreateRequirementArray`. -/
def createRequirementArray (library : Library) (original : Tree) (optional : Bool)
    (context : Context) :
    Except Failure (List Requirement) × Context :=
  match makeStringMap context original with
  | .error failure => (.error failure, context)
  | .ok (.strMap fields) =>
      createAll optional "(CreateRequirementArray) A NewRequirement returns: "
        (fields.map fun field => newRequirement library field.1 field.2) context
  | .ok (.list elements) =>
      createAll optional "(CreateRequirementArray) B NewRequirement returns: "
        (elements.map fun element => newRequirementFromInterface library element) context
  | .ok _ => (.error (.error "(CreateRequirementArray) type unknown"), context)

/-! ## Requirements that are passed down

A workflow hands its requirements to its steps, and a step hands its own to the
process that it runs.  What is handed down does not replace a requirement of the
same class, except that the types of schema definitions are put together.
-/

/-- The name under which the merge knows a type.  An array schema has none. -/
def mergeName : Schema -> Except Failure (Option String)
  | .record .input name => .ok (some name)
  | .enum .input name _ => .ok (some name)
  | .array .input _ => .ok none
  | _ => .error (.error "(CreateRequirementArrayAndInject) type not expected")

/-- The loop over the injected types, with the names of the existing ones. -/
def newTypes (known : List String) : List Schema -> Except Failure (List Schema)
  | [] => .ok []
  | schema :: rest => do
      match <- mergeName schema with
      | none => newTypes known rest
      | some name =>
          if name ∈ known then newTypes known rest
          else (newTypes known rest).map fun others => schema :: others

/-- The types of a schema definition after another one is merged into it. -/
def mergeTypes (existing injected : List Schema) : Except Failure (List Schema) := do
  let names <- existing.mapM mergeName
  let others <- newTypes (names.filterMap id) injected
  pure (existing ++ others)

/-- One injected requirement: the first requirement of its class stands for it. -/
def injectOne (injected : Requirement) : List Requirement -> Except Failure (List Requirement)
  | [] => .ok [injected]
  | current :: rest =>
      if current.cls = injected.cls then
        if injected.cls = .schemaDef then
          (mergeTypes current.types injected.types).map fun types => { current with types } :: rest
        else .ok (current :: rest)
      else (injectOne injected rest).map fun others => current :: others

/-- The loop over the injected requirements. -/
def inject : List Requirement -> List Requirement -> Except Failure (List Requirement)
  | [], own => .ok own
  | injected :: rest, own => do
      let own <- injectOne injected own
      inject rest own

/-- The requirements that a document lists itself; nil lists none. -/
def ownRequirements (library : Library) (original : Option Tree) (context : Context) :
    Except Failure (List Requirement) × Context :=
  match original with
  | none => (.ok [], context)
  | some .null => (.ok [], context)
  | some tree =>
      (wrap "(CreateRequirementArrayAndInject) CreateRequirementArray returned: "
        (createRequirementArray library tree false context).1,
        (createRequirementArray library tree false context).2)

/-- `CreateRequirementArrayAndInject`. -/
def createRequirementArrayAndInject (library : Library) (original : Option Tree)
    (injected : List Requirement) (context : Context) :
    Except Failure (List Requirement) × Context :=
  ((ownRequirements library original context).1.bind (inject injected),
      (ownRequirements library original context).2)

/-- `CreateHintsArray`.  A hint that is also injected has become a requirement. -/
def createHintsArray (library : Library) (original : Tree) (injected : List Requirement)
    (context : Context) :
    Except Failure (List Requirement) × Context :=
  ((wrap "(CreateRequirementArrayAndInject) CreateRequirementArray returned: "
      (createRequirementArray library original true context).1).map fun hints =>
        hints.filter fun hint => !injected.any fun requirement => requirement.cls = hint.cls,
    (createRequirementArray library original true context).2)

/-- `AddRequirement`.  `GetClass` of a nil entry panics. -/
def addRequirement (requirement : Requirement) :
    List (Option Requirement) -> Except Failure (List (Option Requirement))
  | [] => .ok [some requirement]
  | none :: _ => .error (.panic "invalid memory address or nil pointer dereference")
  | some current :: rest =>
      if current.cls = requirement.cls then .ok (some current :: rest)
      else (addRequirement requirement rest).map fun others => some current :: others

/-- The loop of `GetSchemaDefRequirement` over a list: the first schema definition
is parsed, which enters its types into the context. -/
def firstSchemaDef (context : Context) : List Tree -> Except Failure Unit × Context
  | [] => (.ok (), context)
  | element :: rest =>
      match makeStringMap context element with
      | .error failure => (.error failure, context)
      | .ok (.strMap fields) =>
          match getClass fields with
          | .error text => (.error
              (.error ("(GetSchemaDefRequirement) []interface GetClass returned: " ++ text)),
              context)
          | .ok className =>
              if className = "SchemaDefRequirement" then
                (wrap "(GetSchemaDefRequirement) NewSchemaDefRequirement returned: "
                    ((newSchemaDefRequirement (.strMap fields) context).1.map fun _ => ()),
                  (newSchemaDefRequirement (.strMap fields) context).2)
              else firstSchemaDef context rest
      | .ok _ => (.error (.error "(GetSchemaDefRequirement) type unkown"), context)

/-- `GetSchemaDefRequirement`, whose result the only caller does not use. -/
def getSchemaDefRequirement (original : Tree) (context : Context) : Except Failure Unit × Context :=
  match makeStringMap context original with
  | .error failure => (.error failure, context)
  | .ok (.list elements) => firstSchemaDef context elements
  | .ok (.strMap fields) =>
      match fields.lookup "SchemaDefRequirement" with
      | none => (.ok (), context)
      | some tree =>
          (wrap "(GetSchemaDefRequirement) NewSchemaDefRequirement returned: "
              ((newSchemaDefRequirement tree context).1.map fun _ => ()),
              (newSchemaDefRequirement tree context).2)
  | .ok _ => (.error (.error "(GetSchemaDefRequirement) type unknown"), context)

end Requirements
end Cwl
end Awe
