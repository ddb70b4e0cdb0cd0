import Mathlib.Data.Rat.Floor
import Mathlib.Data.String.Basic

namespace Awe
namespace Cwl

/-!
# CWL values and CWL types

The two families of Go types that stand behind the interfaces `CWLType` and
`CWLType_Type` of the package `cwl`.  A value is what `NewCWLType` can build.
A type is what the `type` field of a parameter is parsed into: a basic type,
the name of a schema, or one of the schemas for arrays, records and enums.
Every schema comes in several Go types, one for each place it may be declared
at, and the code tells them apart, so the kinds are kept.

What the fields of a record schema are, and the bindings and labels of all
schemas, no modelled function reads.
-/

/-- A floating-point number that is not NaN, of a format whose largest finite
number is `bound`. -/
inductive Decimal (bound : Rat) where
  | finite (value : Rat) (within : |value| <= bound)
  | infinite (positive : Bool)
  deriving DecidableEq

/-- The largest finite `float32`. -/
def maxFloat32 : Rat :=
  (2 ^ 24 - 1) * 2 ^ 104

/-- The largest finite `float64`. -/
def maxFloat64 : Rat :=
  (2 ^ 53 - 1) * 2 ^ 971

/-- The fields of a `File` other than its secondary files.  Its class is always
`File`, and the fields for a Shock node are set by no code that is reached. -/
structure FileFields where
  id : String := ""
  location : String := ""
  path : String := ""
  basename : String := ""
  dirname : String := ""
  nameroot : String := ""
  nameext : String := ""
  checksum : String := ""
  size : Option Int32 := none
  format : String := ""
  contents : String := ""
  deriving DecidableEq

/-- The fields of a `Directory` other than its listing. -/
structure DirectoryFields where
  location : String := ""
  path : String := ""
  basename : String := ""
  deriving DecidableEq

/-- A value of the interface `CWLType`.  The type `int` of Go has 64 bits.
`NewCWLType` refuses NaN as a `float64` but not as a `float32`, where it is
`none`.  A record is a Go map, listed in some order. -/
inductive Value where
  | null
  | boolean (value : Bool)
  | int (value : Int64)
  | long (value : Int64)
  | float (value : Option (Decimal maxFloat32))
  | double (value : Decimal maxFloat64)
  | string (text : String)
  | file (fields : FileFields) (secondaryFiles : List Value)
  | directory (fields : DirectoryFields) (listing : List Value)
  | array (items : List Value)
  | record (fields : List (String × Value))

/-- `Job_document`: a list of named values. -/
abbrev Document := List (String × Value)

/-- `ValidTypes`: the constants of `CWLType_Type_Basic` that a document can
name. -/
inductive Basic where
  | null
  | boolean
  | int
  | long
  | float
  | double
  | string
  | file
  | directory
  | any
  | stdin
  | stdout
  | stderr
  deriving DecidableEq, Repr

/-- The Go types of array schemas: `plain` is `*ArraySchema`, and
`outputValue` is the type `OutputArraySchema` that is not a pointer. -/
inductive ArrayKind where
  | plain
  | input
  | output
  | outputValue
  | commandInput
  | commandOutput
  deriving DecidableEq, Repr

/-- The Go types of record and enum schemas. -/
inductive NamedKind where
  | plain
  | input
  | output
  | commandInput
  | commandOutput
  deriving DecidableEq, Repr

/-- A value of the interface `CWLType_Type`. -/
inductive Schema where
  | basic (name : Basic)
  | pointer (name : String)
  | array (kind : ArrayKind) (items : List Schema)
  | record (kind : NamedKind) (name : String)
  | enum (kind : NamedKind) (name : String) (symbols : List String)

/-- The text of a basic type. -/
@[simp] def Basic.text : Basic -> String
  | .null => "null"
  | .boolean => "boolean"
  | .int => "int"
  | .long => "long"
  | .float => "float"
  | .double => "double"
  | .string => "string"
  | .file => "File"
  | .directory => "Directory"
  | .any => "Any"
  | .stdin => "stdin"
  | .stdout => "stdout"
  | .stderr => "stderr"

/-- `Type2String` of a type.  Input array schemas give the text of the
`CommandOutput` ones, and an enum schema that does not define the method
inherits it from `EnumSchema`. -/
@[simp] def Schema.type2String : Schema -> String
  | .basic name => name.text
  | .pointer _ => "pointer"
  | .array .plain _ => "array"
  | .array .input _ => "CommandOutputArraySchema"
  | .array .output _ => "OutputArraySchema"
  | .array .outputValue _ => "OutputArraySchema"
  | .array .commandInput _ => "CommandInputArraySchema"
  | .array .commandOutput _ => "CommandOutputArraySchema"
  | .record .commandOutput _ => "CommandOutputRecordSchema"
  | .record _ _ => "record"
  | .enum .output _ _ => "OutputEnumSchema"
  | .enum .commandOutput _ _ => "CommandOutputEnumSchema"
  | .enum _ _ _ => "EnumSchema"

/-- `GetType().Type2String()` of a value. -/
@[simp] def Value.typeText : Value -> String
  | .null => "null"
  | .boolean _ => "boolean"
  | .int _ => "int"
  | .long _ => "long"
  | .float _ => "float"
  | .double _ => "double"
  | .string _ => "string"
  | .file _ _ => "File"
  | .directory _ _ => "Directory"
  | .array _ => "array"
  | .record _ => "record"

/-- How a function of the package ends when it does not return a value: with an
error, or with a panic. -/
inductive Failure where
  | error (text : String)
  | panic (text : String)
  deriving DecidableEq, Repr

end Cwl
end Awe
