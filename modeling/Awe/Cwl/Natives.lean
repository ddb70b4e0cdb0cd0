import Awe.Cwl.Tree
import Awe.Lib.Fallible

namespace Awe
namespace Cwl
namespace Natives

open Lib.Path

/-!
# Values from trees

`NewCWLType` turns a tree into a CWL value.  The tree carries no types: a list
becomes an array, a map becomes a `File`, a `Directory` or a record, and which
of them is read off its keys.  The name under which a value stands is passed
down, and a record is given it as its field `id`.

The functions that treat a map look at several of its entries in turn, so the
recursion hands them every entry together with what `NewCWLType` makes of it
(`Child`).  Nothing is computed before it is asked for in the source, since an
entry that is not looked at does not show.

The context is not initialising, so files are not added to it, and the parent
identifier is empty, as in all calls that are modelled.
-/

/-- `url.Parse`, as far as it is used: the scheme in lower case, and the path. -/
structure Url where
  scheme : String
  path : String

/-- What the decoder of a struct meets when it ranges over the keys of a map.  Go
starts anywhere in a map, so nothing is known of the order but that it has every
key.  A map is decoded into `Empty` when its class is asked for and into another
struct afterwards, in an order of its own. -/
structure Visits where
  visit : String -> List String -> List String := fun _ listed => listed
  visited : forall struct listed, (visit struct listed).Perm listed := by
    exact fun _ listed => List.Perm.refl listed

instance : Inhabited Visits where
  default := {}

/-- The functions of Go's standard library that are used on the contents and the location of a
file, and the orders of a run. What the standard library computes and the model does not look
into. -/
structure Library extends Visits where
  /-- The hexadecimal SHA-1 digest of a text. -/
  sha1 : String -> String
  parseURL : String -> Option Url

/-- The same functions in another run. -/
def Library.visiting (library : Library) (visits : Visits) : Library :=
  { library with toVisits := visits }

/-- An entry of a map, with what `NewCWLType` makes of it under a given name, and
of its elements if it is a list. -/
structure Child where
  tree : Tree
  value : String -> Except Failure Value
  elements : List (Except Failure Value)

/-- An error is passed on with the name of the caller; a panic passes by itself. -/
def wrap {A : Type} (caller : String) : Except Failure A -> Except Failure A
  | .error (.error text) => .error (.error (caller ++ text))
  | result => result

/-- `UpdateComponents`. -/
def updateComponents (file : FileFields) (filename : String) : FileFields :=
  { file with
    basename := base filename
    nameext := ext filename
    nameroot := trimSuffix (base filename) (ext filename) }

/-- The conversion of a number to `int32` by way of `int64`. -/
def int32Of : Option Tree -> Option Int32
  | some (.int value) => some value.toInt32
  | some (.int64 value) => some value.toInt32
  | some (.uint64 value) => some value.toUInt32.toInt32
  | some (.float32 (some (.finite value _))) => some (Int32.ofInt (Int.tdiv value.num value.den))
  | some (.float64 (some (.finite value _))) => some (Int32.ofInt (Int.tdiv value.num value.den))
  | some (.float32 _) => some 0
  | some (.float64 _) => some 0
  | _ => none

/-- The struct `File` without its secondary files. -/
def fileStruct : List (String × FieldKind) :=
  [("Class", .string), ("ID", .string), ("-", .typed), ("location", .string), ("path", .string),
    ("basename", .string), ("dirname", .string), ("nameroot", .string), ("nameext", .string),
    ("checksum", .string), ("size", .int), ("format", .string), ("contents", .string)]

/-- `mapstructure.Decode` into a `File`. -/
def decodeFile (order : List String) (fields : List (String × Tree)) : FileFields where
  id := textOf (findFieldIn order "ID" fields)
  location := textOf (findFieldIn order "location" fields)
  path := textOf (findFieldIn order "path" fields)
  basename := textOf (findFieldIn order "basename" fields)
  dirname := textOf (findFieldIn order "dirname" fields)
  nameroot := textOf (findFieldIn order "nameroot" fields)
  nameext := textOf (findFieldIn order "nameext" fields)
  checksum := textOf (findFieldIn order "checksum" fields)
  size := int32Of (findFieldIn order "size" fields)
  format := textOf (findFieldIn order "format" fields)
  contents := textOf (findFieldIn order "contents" fields)

/-- The part of `MakeFile` for a file that is given by its contents. -/
def describeContents (library : Library) (file : FileFields) : FileFields :=
  if file.contents ≠ "" then
    { file with
      location := file.basename
      checksum := "sha1$" ++ library.sha1 file.contents
      size := some (Int32.ofNat file.contents.utf8ByteSize) }
  else file

/-- The part of `MakeFile` that looks at the location. -/
def parseLocation (library : Library) (file : FileFields) : Except Failure FileFields :=
  if file.location ≠ "" ∧ file.contents ≠ "" then
    match library.parseURL file.location with
    | none => .error (.error ("(MakeFile) Error parsing url file.Location=" ++ file.location))
    | some url =>
        if url.scheme = "http" ∨ url.scheme = "https" ∨ url.scheme = "" then .ok file
        else if url.scheme = "file" then .ok (updateComponents file url.path)
        else .error (.error ("(MakeFile) scheme " ++ url.scheme ++ " not supported yet"))
  else .ok file

/-- `MakeFile` after the struct has been decoded. -/
def completeFile (library : Library) (file : FileFields) : Except Failure FileFields :=
  (parseLocation library (describeContents library file)).map fun file =>
    if file.path ≠ "" then updateComponents file file.path else file

/-- The class of a value is that of a file or a directory. -/
def isFileOrDirectory : Value -> Bool
  | .file _ _ => true
  | .directory _ _ => true
  | _ => false

/-- A round of the loops in `GetSecondaryFilesArray` and in `NewFDArray`, which
report an error in two ways of their own. -/
def fileOrDirectory (caller refused : String) (element : Except Failure Value) :
    Except Failure Value :=
  match wrap caller element with
  | .error failure => .error failure
  | .ok value => if isFileOrDirectory value then .ok value else .error (.error refused)

/-- `GetSecondaryFilesArray`. -/
def getSecondaryFilesArray (child : Child) : Except Failure (List Value) :=
  match child.tree with
  | .list _ =>
      child.elements.mapM (fileOrDirectory "(GetSecondaryFilesArray) NewCWLType returned: "
        "(GetSecondaryFilesArray) Object class not supported")
  | _ => .error (.error "(GetSecondaryFilesArray) type not supported")

def trees (fields : List (String × Child)) : List (String × Tree) :=
  fields.map fun field => (field.1, field.2.tree)

/-- The secondary files in `MakeFile`. -/
def secondaryFilesOf (fields : List (String × Child)) : Except Failure (List Value) :=
  match fields.lookup "secondaryFiles" with
  | none => .ok []
  | some child => wrap "(MakeFile) GetSecondaryFilesArray returned: " (getSecondaryFilesArray child)

/-- `MakeFile`.  A list of secondary files whose key has another case is not
parsed, and left out here. -/
def makeFile (library : Library) (fields : List (String × Child)) : Except Failure Value :=
  match secondaryFilesOf fields with
  | .error failure => .error failure
  | .ok secondaryFiles =>
      let struct := if (fields.lookup "secondaryFiles").isSome then fileStruct
        else ("secondaryFiles", .list .interface) :: fileStruct
      let order := library.visit "File" (keys (trees fields))
      if decodesStructIn order struct (trees fields) then
        (completeFile library (decodeFile order (trees fields))).map fun file =>
            .file file secondaryFiles
      else .error (.error "(MakeFile) Could not convert File object")

/-- `NewFDArray`. -/
def newFDArray (child : Child) : Except Failure (List Value) :=
  match child.tree with
  | .list _ =>
      child.elements.mapM (fileOrDirectory "(NewFDArray) in loop, NewCWLType returned: "
        "(NewFDArray) (A) expected *File or *Directory")
  | _ =>
      (fileOrDirectory "" "(NewFDArray) (B) expected *File or *Directory" (child.value "")).map
          fun value => [value]

/-- The struct `Directory` without its listing. -/
def directoryStruct : List (String × FieldKind) :=
  [("Class", .string), ("-", .typed), ("location", .string), ("path", .string),
      ("basename", .string)]

def decodeDirectory (order : List String) (fields : List (String × Tree)) : DirectoryFields where
  location := textOf (findFieldIn order "location" fields)
  path := textOf (findFieldIn order "path" fields)
  basename := textOf (findFieldIn order "basename" fields)

/-- The listing in `NewDirectoryFromInterface`. -/
def listingOf (fields : List (String × Child)) : Except Failure (List Value) :=
  match fields.lookup "listing" with
  | none => .ok []
  | some child => wrap "(MakeFile) NewFDArray returns: " (newFDArray child)

/-- `NewDirectoryFromInterface`. -/
def newDirectory (library : Library) (fields : List (String × Child)) : Except Failure Value :=
  match listingOf fields with
  | .error failure => .error failure
  | .ok listing =>
      let struct := if (fields.lookup "listing").isSome then directoryStruct
        else ("listing", .list .typed) :: directoryStruct
      let order := library.visit "Directory" (keys (trees fields))
      if decodesStructIn order struct (trees fields) then
          .ok (.directory (decodeDirectory order (trees fields)) listing)
      else .error (.error "(MakeFile) Could not convert Directory object")

/-- `SetID`: an assignment to the key `id` of the map. -/
def setID (id : String) : List (String × Value) -> List (String × Value)
  | [] => [("id", .string id)]
  | (key, value) :: rest => if key = "id" then (key, .string id) :: rest else
      (key, value) :: setID id rest

/-- A round of the loop of `NewRecord`. -/
def recordField (field : String × Child) : Except Failure (String × Value) :=
  (wrap ("(NewRecord) " ++ field.1 ++ " NewCWLType returned: ") (field.2.value field.1)).map
      fun value =>
    (field.1, value)

/-- `NewRecord`, of a map with string keys. -/
def newRecord (context : Context) (id : String) (fields : List (String × Child)) :
    Except Failure Value :=
  match checkImport context ((trees fields).lookup "$import") with
  | .error failure => .error failure
  | .ok _ => (fields.mapM recordField).map fun values =>
      .record (if id ≠ "" then setID id values else values)

/-- `NewCWLTypeByClass`. -/
def newCWLTypeByClass (library : Library) (context : Context) (className id : String)
    (fields : List (String × Child)) :
    Except Failure Value :=
  if className = "File" then wrap "(NewCWLTypeByClass) NewFile returned: " (makeFile library fields)
  else if className = "string" then
    .error (.error "(NewCWLTypeByClass) NewStringFromInterface returned: (NewStringFromInterface) Cannot create string")
  else if className = "boolean" then
    .error (.error "(NewCWLTypeByClass) NewStringFromInterface returned: (NewBooleanFromInterface) Cannot create bool")
  else if className = "Directory" then
    wrap "(NewCWLTypeByClass) NewDirectoryFromInterface returned: " (newDirectory library fields)
  else wrap "(NewCWLTypeByClass) NewRecord returned: " (newRecord context id fields)

/-- The case of `NewCWLType` for a map with string keys. -/
def ofMap (library : Library) (context : Context) (id : String) (fields : List (String × Child)) :
    Except Failure Value :=
  if ((trees fields).lookup "items").isSome then
    .error (.error "(NewCWLType) NewArray returned: (NewArray) type not supported")
  else
    match getClassIn (library.visit "Empty" (keys (trees fields))) (trees fields) with
    | .error text => .error (.error ("(NewCWLType) GetClass returned: " ++ text))
    | .ok className => wrap "(NewCWLType) NewCWLTypeByClass returned: "
        (newCWLTypeByClass library context className id fields)

/-- `NewArray`, of a list. -/
def newArray (elements : List (Except Failure Value)) : Except Failure (List Value) :=
  elements.mapM (wrap "(NewArray) NewCWLType returned: ")

section

variable (library : Library) (context : Context)

mutual

/-- `NewCWLType`. -/
def newCWLType : Tree -> String -> Except Failure Value
  | .null, _ => .ok .null
  | .bool value, _ => .ok (.boolean value)
  | .int value, _ => .ok (.int value)
  | .int64 value, _ => .ok (.long value)
  | .uint64 _, _ => .error (.error "(NewCWLType) Type unknown")
  | .float32 value, _ => .ok (.float value)
  | .float64 none, _ => .error (.error "(NewCWLType) float64 IsNaN ")
  | .float64 (some value), _ => .ok (.double value)
  | .text value, _ => .ok (.string value)
  | .list elements, _ =>
      (wrap "(NewCWLType) NewArray returned: " (newArray (newElements elements))).map .array
  | .anyMap entries, id =>
      match stringKeys (childrenOfEntries entries) with
      | .error failure => .error failure
      | .ok fields => ofMap library context id fields
  | .strMap fields, id =>
      match checkImport context (fields.lookup "$import") with
      | .error failure => .error failure
      | .ok _ => ofMap library context id (childrenOfFields fields)

/-- `NewCWLType` on the elements of a list. -/
def newElements : List Tree -> List (Except Failure Value)
  | [] => []
  | tree :: rest => newCWLType tree "" :: newElements rest

/-- The elements of a tree that is a list. -/
def elementsOf : Tree -> List (Except Failure Value)
  | .list elements => newElements elements
  | _ => []

def childrenOfEntries : List (Tree × Tree) -> List (Tree × Child)
  | [] => []
  | (key, tree) :: rest => (key, ⟨tree, newCWLType tree, elementsOf tree⟩) :: childrenOfEntries rest

def childrenOfFields : List (String × Tree) -> List (String × Child)
  | [] => []
  | (key, tree) :: rest => (key, ⟨tree, newCWLType tree, elementsOf tree⟩) :: childrenOfFields rest

end

/-- The child that an entry becomes. -/
def childOf (tree : Tree) : Child :=
  ⟨tree, newCWLType library context tree, elementsOf library context tree⟩

theorem newElements_eq (elements : List Tree) :
    newElements library context elements = elements.map fun tree =>
        newCWLType library context tree "" := by
  induction elements with
  | nil => rw [newElements, List.map_nil]
  | cons tree rest inductionHypothesis => rw [newElements, inductionHypothesis, List.map_cons]

theorem childrenOfFields_eq (fields : List (String × Tree)) :
    childrenOfFields library context fields = fields.map fun field =>
        (field.1, childOf library context field.2) := by
  induction fields with
  | nil => rw [childrenOfFields, List.map_nil]
  | cons field rest inductionHypothesis =>
      rw [childrenOfFields, inductionHypothesis, List.map_cons]
      rfl

theorem childrenOfEntries_eq (entries : List (Tree × Tree)) :
    childrenOfEntries library context entries =
      entries.map fun entry => (entry.1, childOf library context entry.2) := by
  induction entries with
  | nil => rw [childrenOfEntries, List.map_nil]
  | cons entry rest inductionHypothesis =>
      rw [childrenOfEntries, inductionHypothesis, List.map_cons]
      rfl

theorem stringKeys_childrenOfEntries (entries : List (Tree × Tree)) :
    stringKeys (childrenOfEntries library context entries) =
      (stringKeys entries).map (childrenOfFields library context) := by
  rw [childrenOfEntries_eq, stringKeys_map]
  cases stringKeys entries with
  | error failure => rfl
  | ok fields => exact congrArg Except.ok (childrenOfFields_eq library context fields).symm

theorem trees_childrenOfFields (fields : List (String × Tree)) :
    trees (childrenOfFields library context fields) = fields := by
  unfold trees
  rw [childrenOfFields_eq, List.map_map]
  exact List.map_id fields

theorem lookup_childrenOfFields (fields : List (String × Tree)) (key : String) :
    (childrenOfFields library context fields).lookup key = (fields.lookup key).map
        (childOf library context) := by
  rw [childrenOfFields_eq]
  induction fields with
  | nil => rfl
  | cons field rest inductionHypothesis =>
      rw [List.map_cons, List.lookup_cons, List.lookup_cons, inductionHypothesis]
      cases key == field.1 <;> rfl

end

section

variable (library : Library) (context : Context)

/-- `NewNamedCWLTypeFromInterface`, of a map with string keys. -/
def newNamedCWLType (fields : List (String × Tree)) : Except Failure (String × Value) :=
  match fields.lookup "value" with
  | none => .error (.error
      "(NewNamedCWLTypeFromInterface) Expected NamedCWLType field \"value\" , but not found")
  | some value =>
      match makeStringMap context value with
      | .error failure => .error failure
      | .ok value =>
          match fields.lookup "id" with
          | some (.text id) =>
              (wrap "(NewNamedCWLTypeFromInterface) B NewCWLType returns: "
                (newCWLType library context value id)).map fun value => (id, value)
          | none =>
              (wrap "(NewNamedCWLTypeFromInterface) B NewCWLType returns: "
                (newCWLType library context value "")).map fun value => ("", value)
          | some _ => .error (.error "(NewNamedCWLTypeFromInterface) id has wrong type")

/-- `NewNamedCWLTypeFromInterface`. -/
def newNamed (named : Tree) : Except Failure (String × Value) :=
  match makeStringMap context named with
  | .error failure => .error failure
  | .ok (.strMap fields) => newNamedCWLType library context fields
  | .ok _ => .error (.error
      "(NewNamedCWLTypeFromInterface) Expected a NamedCWLType, but did not find a map")

/-- `NewJob_documentFromNamedTypes`. -/
def newJobDocumentFromNamedTypes (original : Tree) : Except Failure Document :=
  match makeStringMap context original with
  | .error failure => wrap "(NewJob_documentFromNamedTypes) MakeStringMap returned: "
      (.error failure)
  | .ok .null => .error (.error "(NewJob_documentFromNamedTypes) original == nil")
  | .ok (.list elements) =>
      elements.mapM fun element =>
        wrap "(NewJob_documentFromNamedTypes) A) NewNamedCWLTypeFromInterface returns: "
            (newNamed library context element)
  | .ok _ => .error (.error "(NewJob_document) (B) type unknown")

end

@[simp] theorem wrap_eq_ok {A : Type} {caller : String} {result : Except Failure A} {value : A} :
    wrap caller result = .ok value ↔ result = .ok value := by
  cases result with
  | ok found => exact Iff.rfl
  | error failure => cases failure <;> simp [wrap]

theorem fileOrDirectory_eq_ok {caller refused : String} {element : Except Failure Value}
    {value : Value} :
    fileOrDirectory caller refused element = .ok value ↔ element = .ok value ∧
    isFileOrDirectory value = true := by
  unfold fileOrDirectory
  cases found : wrap caller element with
  | error failure =>
      constructor
      · intro impossible
        cases impossible
      · rintro ⟨same, _⟩
        rw [wrap_eq_ok.mpr same] at found
        cases found
  | ok other =>
      rw [wrap_eq_ok] at found
      rw [found]
      by_cases suits : isFileOrDirectory other = true
      · simp only [suits, if_true, Except.ok.injEq]
        exact ⟨fun same => ⟨same, same ▸ suits⟩, fun both => both.1⟩
      · simp only [suits, Except.ok.injEq]
        exact ⟨fun impossible => (nomatch impossible), fun both => absurd (both.1 ▸ both.2) suits⟩

end Natives
end Cwl
end Awe
