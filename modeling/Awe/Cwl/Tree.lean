import Awe.Cwl.Values
import Awe.Lib.Path

namespace Awe
namespace Cwl

open Lib.Path

/-!
# Value trees

What the YAML and JSON libraries make of a document: a tree of the Go types
that they decode into an `interface{}`.  JSON objects and the top of a YAML
document are maps with string keys; every inner YAML map has keys of any kind,
and `MakeStringMap` turns one into the other at the place where it is looked
at.  A map is the list of its entries, in the order the loops over it happen to
take.

The struct decoder `mapstructure` is modelled as far as it decides whether a
map fits a struct: it looks a field up by its exact name and then without regard
to case, leaves a field alone if the value is nil, and asks the value for the
kind of the field.  The search without regard to case ranges over the keys of a
Go map, so that it may find another key at every decode.  What a decode finds is
therefore a matter of the order in which it comes upon the keys.
-/

/-- A value of the type `interface{}`. NaN is `none`. The two kinds of maps differ in the Go types
of their keys, and type switches tell them apart. -/
inductive Tree where
  | null
  | bool (value : Bool)
  | int (value : Int64)
  | int64 (value : Int64)
  | uint64 (value : UInt64)
  | float32 (value : Option (Decimal maxFloat32))
  | float64 (value : Option (Decimal maxFloat64))
  | text (value : String)
  | list (elements : List Tree)
  | anyMap (entries : List (Tree × Tree))
  | strMap (fields : List (String × Tree))

/-- The `*WorkflowContext` a function is given, nil or with the names of its
schemas.  The server gives it the path `-`, under which nothing is imported.  In
a directory a file may be found for an `$import`; of these files only those are
told apart that have no content, since the object that is read from any other
takes the place of the map that asked for it, and a tree is what it is after that. -/
inductive Context where
  | nil
  | of (schemata : List String)
  | inDirectory (emptyFiles : List String) (schemata : List String)

theorem mem_of_lookup {A : Type} {fields : List (String × A)} {key : String} {value : A}
    (found : fields.lookup key = some value) : (key, value) ∈ fields := by
  rw [List.lookup_eq_some_iff] at found
  rcases found with ⟨before, after, rfl, _⟩
  exact List.mem_append_right _ List.mem_cons_self

/-- `key.(string)`, for every key of a map. -/
def stringKeys {A : Type} : List (Tree × A) -> Except Failure (List (String × A))
  | [] => .ok []
  | (.text key, value) :: rest => (stringKeys rest).map fun others => (key, value) :: others
  | _ :: _ => .error (.panic "interface conversion: interface {} is not string")

/-- The keys are read before anything is made of the values. -/
theorem stringKeys_map {A B : Type} (f : A -> B) (entries : List (Tree × A)) :
    stringKeys (entries.map fun entry => (entry.1, f entry.2)) =
      (stringKeys entries).map fun fields => fields.map fun field => (field.1, f field.2) := by
  induction entries with
  | nil => rfl
  | cons entry rest inductionHypothesis =>
      rcases entry with ⟨key, value⟩
      cases key with
      | text key =>
          simp only [List.map_cons, stringKeys, inductionHypothesis]
          cases stringKeys rest <;> rfl
      | _ => rfl

/-- The check of a map for `$import`. -/
def checkImport (context : Context) (found : Option Tree) : Except Failure Unit :=
  match found with
  | none => .ok ()
  | some (.text path) =>
      if hasPrefix path "#" then
        match context with
        | .nil => .error (.panic "invalid memory address or nil pointer dereference")
        | .of _ => .error (.error "(MakeStringMap) context.Path empty\n")
        | .inDirectory emptyFiles _ =>
            if trimPrefix path "#" ∈ emptyFiles then
                .error (.panic "runtime error: index out of range")
            else .error (.error ("(MakeStringMap) error in reading import file \"" ++
                trimPrefix path "#" ++ "\""))
      else .error (.error "(MakeStringMap) $import does not start with #")
  | some _ => .error (.error
      "(MakeStringMap) map[string]interface{} found $import, expected string")

/-- A map with an import is never left as it is. -/
theorem checkImport_eq_ok {context : Context} {found : Option Tree} :
    checkImport context found = .ok () ↔ found = none := by
  constructor
  · intro passed
    cases found with
    | none => rfl
    | some tree =>
        cases tree with
        | text path =>
            simp only [checkImport] at passed
            by_cases local' : hasPrefix path "#" = true
            · rw [if_pos local'] at passed
              cases context with
              | inDirectory emptyFiles schemata =>
                  dsimp only at passed
                  split at passed <;> cases passed
              | _ => cases passed
            · rw [if_neg local'] at passed
              cases passed
        | _ => cases passed
  · rintro rfl
    rfl

/-- `MakeStringMap`. -/
def makeStringMap (context : Context) : Tree -> Except Failure Tree
  | .anyMap entries => (stringKeys entries).map .strMap
  | .strMap fields => (checkImport context (fields.lookup "$import")).map fun _ => .strMap fields
  | tree => .ok tree

/-- The simple case folding of the letters of a field name, which takes the
Kelvin sign to `k` and the long s to `s`. -/
def foldLetter (letter : Char) : Char :=
  if letter = '\u212A' then 'k' else if letter = '\u017F' then 's' else letter.toLower

/-- `strings.EqualFold` with a field name. -/
def equalFold (key name : String) : Bool :=
  key.toList.map foldLetter = name.toList.map foldLetter

/-- The keys of a map as they are listed. -/
def keys {A : Type} (fields : List (String × A)) : List String :=
  fields.map Prod.fst

/-- The value `mapstructure` finds for a field when it comes upon the keys in
this order.  Every field is searched for anew, but no key fits two fields of a
struct, so that one order stands for all searches of a decode. -/
def findFieldIn {A : Type} (order : List String) (name : String) (fields : List (String × A)) :
    Option A :=
  (fields.lookup name).or ((order.find? fun key => equalFold key name).bind fun key =>
      fields.lookup key)

/-- A field is found under its name in every order, if no key differs from the
name in case alone. -/
theorem findFieldIn_of_spelt {A : Type} {order : List String} {name : String}
    {fields : List (String × A)}
    (spelt : forall key, key ∈ order -> equalFold key name = true -> key = name) :
    findFieldIn order name fields = fields.lookup name := by
  unfold findFieldIn
  cases found : fields.lookup name with
  | some value => rfl
  | none =>
      cases search : order.find? fun key => equalFold key name with
      | none => rfl
      | some key =>
          have fits : equalFold key name = true :=
              @List.find?_some _ (fun key => equalFold key name) _ _ search
          rw [spelt key (List.mem_of_find?_eq_some search) fits]
          exact found

/-- The value that is found in a map whose keys come as they are listed. -/
def findField {A : Type} (name : String) (fields : List (String × A)) : Option A :=
  findFieldIn (keys fields) name fields

/-- The kinds of struct fields.  `typed` is an interface that no value of a tree
implements. -/
inductive FieldKind where
  | string
  | bool
  | int
  | interface
  | typed
  | list (element : FieldKind)

/-- A value can be decoded into a field of a kind. -/
def decodes : FieldKind -> Tree -> Bool
  | _, .null => true
  | .string, .text _ => true
  | .bool, .bool _ => true
  | .int, .int _ => true
  | .int, .int64 _ => true
  | .int, .uint64 _ => true
  | .int, .float32 _ => true
  | .int, .float64 _ => true
  | .interface, _ => true
  | .list element, .list elements => elements.all (decodes element)
  | _, _ => false

/-- Every field that has a value in the map can be decoded. -/
def decodesStructIn (order : List String) (struct : List (String × FieldKind))
    (fields : List (String × Tree)) : Bool :=
  struct.all fun field => ((findFieldIn order field.1 fields).map (decodes field.2)).getD true

def decodesStruct (struct : List (String × FieldKind)) (fields : List (String × Tree)) : Bool :=
  decodesStructIn (keys fields) struct fields

/-- The text that a field of kind string is given. -/
def textOf : Option Tree -> String
  | some (.text value) => value
  | _ => ""

/-- The struct `Empty`.  Its embedded field `Type` has the tag `-`, which the
decoder takes for a name. -/
def emptyStruct : List (String × FieldKind) :=
  [("ID", .string), ("Class", .string), ("-", .typed)]

/-- `GetClass`: the struct `Empty` is decoded. -/
def getClassIn (order : List String) (fields : List (String × Tree)) : Except String String :=
  if decodesStructIn order emptyStruct fields then .ok (textOf (findFieldIn order "Class" fields))
  else .error "(GetClass) NewEmpty returned: (NewEmpty) Could not convert into CWL object"

def getClass (fields : List (String × Tree)) : Except String String :=
  getClassIn (keys fields) fields

end Cwl
end Awe
