import Awe.Cwl.Values
import Awe.Lib.Path
import Mathlib.Data.Int.Order.Basic
import Mathlib.Data.List.Permutation

namespace Awe
namespace Cwl
namespace TypeCheck

open Lib.Path

/-!
# The check of a value against its allowed types

`TypeIsCorrect` decides whether a value may be given to a parameter.  It tries
the allowed types one after the other with `TypeIsCorrectSingle`, which looks
at the Go types and at their texts.

The meaning it should decide is the relation `Accepts`: the conformance rules
of CWL, in which a number is accepted for its value and not for the format it
arrived in, and an array for its elements.  The function departs from it in
three ways, each a predicate on the pair of a type and a value: it panics on an
enum that lacks the text (`Trips`), it takes a value the type does not accept
(`Oversteps`), and it misses a value the type accepts (`Overlooks`).  The main
result says for which types and values the answer is nevertheless right.
-/

/-- The last of the parts that `strings.Split` makes at `#`. -/
def afterHash (text : String) : String :=
  String.ofList ((text.toList.splitOn '#').getLastD [])

section

-- `context.Schemata`: the named schemas of the workflow.
variable (schemata : List (String × Schema))

/-- The schemas a pointer may mean: those with its base name. -/
def named (name : String) : List Schema :=
  (schemata.filter fun entry => base entry.1 = base (afterHash name)).map Prod.snd

/-- `f == math.Trunc(f)`. -/
def truncated {bound : Rat} : Decimal bound -> Bool
  | .finite value _ => value.isInt
  | .infinite _ => true

/-- The three Go types of enum schemas that `TypeIsCorrectSingle` knows. -/
def enumSymbols : Schema -> Option (List String)
  | .enum .plain _ symbols => some symbols
  | .enum .input _ symbols => some symbols
  | .enum .commandInput _ symbols => some symbols
  | _ => none

/-- The branch for a string and a type whose text is `EnumSchema`. -/
def isSymbol (schema : Schema) (object : Value) : Except Failure Bool :=
  match object, enumSymbols schema with
  | .string text, some symbols =>
      if text ∈ symbols.map base then .ok true else .error (.panic "we are here")
  | .string _, none => .error (.error "(TypeIsCorrectSingle) schema type unknown")
  | _, _ => .error (.error "(TypeIsCorrectSingle) Could not convert to string")

/-- The check whether a double can be taken as an int. -/
def isTruncated (object : Value) : Except Failure Bool :=
  match object with
  | .double number => .ok (truncated number)
  | _ => .error (.error "(TypeIsCorrectSingle) Could not cast *Double")

/-- The comparison of the texts of the types. -/
def ofTexts (schema : Schema) (object : Value) : Except Failure Bool :=
  if schema.type2String = object.typeText then .ok true
  else if object.typeText = "int" ∧ schema.type2String = "float" then .ok true
  else if object.typeText = "string" ∧ schema.type2String = "EnumSchema" then isSymbol schema object
  else if schema.type2String = "int" ∧ object.typeText = "double" then isTruncated object
  else .ok false

/-- The switch of `TypeIsCorrectSingle` on the Go type of the value. -/
def ofObject (schema : Schema) (object : Value) : Except Failure Bool :=
  match object with
  | .array _ =>
      match schema with
      | .array _ _ => .ok true
      | _ => .ok false
  | .file _ _ =>
      match schema with
      | .basic .stdout => .ok true
      | .basic .stderr => .ok true
      | .basic .file => .ok true
      | _ => .ok false
  | object => ofTexts schema object

/-- `TypeIsCorrectSingle`. -/
def typeIsCorrectSingle (schema : Schema) (object : Value) : Except Failure Bool :=
  match schema with
  | .basic .any => .ok (object.typeText != "null")
  | .pointer name => if named schemata name ≠ [] then .ok true else ofObject schema object
  | schema => ofObject schema object

/-- `TypeIsCorrect`. -/
def typeIsCorrect (object : Value) : List Schema -> Except Failure Bool
  | [] => .ok false
  | schema :: allowedTypes =>
      match typeIsCorrectSingle schemata schema object with
      | .error failure => .error failure
      | .ok true => .ok true
      | .ok false => typeIsCorrect object allowedTypes

/-- The number that a value is, if it is one. -/
inductive Number where
  | integer (value : Int)
  | other
  deriving DecidableEq

/-- An infinite number is a number, and not an integer. -/
def numberOfDecimal {bound : Rat} : Decimal bound -> Number
  | .finite value _ => if value.isInt then .integer value.num else .other
  | .infinite _ => .other

@[simp] def numberOf : Value -> Option Number
  | .int value => some (.integer value.toInt)
  | .long value => some (.integer value.toInt)
  | .float value => value.map numberOfDecimal
  | .double value => some (numberOfDecimal value)
  | _ => none

/-- The range of the integers of a numeric type. -/
def InRange : Basic -> Int -> Prop
  | .int, value => -2 ^ 31 <= value ∧ value < 2 ^ 31
  | .long, value => -2 ^ 63 <= value ∧ value < 2 ^ 63
  | .float, value => |(value : Rat)| <= maxFloat32
  | .double, value => |(value : Rat)| <= maxFloat64
  | _, _ => False

/-- A numeric type accepts the integers in its range, and the types of
floating-point numbers every other number. -/
def AcceptsNumber (basic : Basic) : Number -> Prop
  | .integer value => InRange basic value
  | .other => basic = .float ∨ basic = .double

/-- The values a type accepts. A pointer stands for the schemas it names. This is the meaning of
types in CWL and knows nothing of the function that checks them. -/
inductive Accepts : Schema -> Value -> Prop where
  | null : Accepts (.basic .null) .null
  | boolean (value : Bool) : Accepts (.basic .boolean) (.boolean value)
  | string (text : String) : Accepts (.basic .string) (.string text)
  | directory (fields : DirectoryFields) (listing : List Value) :
      Accepts (.basic .directory) (.directory fields listing)
  | number {basic : Basic} {value : Value} {number : Number} :
      numberOf value = some number -> AcceptsNumber basic number -> Accepts (.basic basic) value
  | file {basic : Basic} (fields : FileFields) (secondaryFiles : List Value) :
      basic = .file ∨ basic = .stdout ∨ basic = .stderr ->
      Accepts (.basic basic) (.file fields secondaryFiles)
  | any {value : Value} : value ≠ .null -> Accepts (.basic .any) value
  | record (kind : NamedKind) (name : String) (fields : List (String × Value)) :
      Accepts (.record kind name) (.record fields)
  | enum (kind : NamedKind) (name : String) {symbols : List String} {text : String} :
      text ∈ symbols.map base -> Accepts (.enum kind name symbols) (.string text)
  | array (kind : ArrayKind) {types : List Schema} {items : List Value} (choice : Value -> Schema) :
      (forall item, item ∈ items -> choice item ∈ types) ->
      (forall item, item ∈ items -> Accepts (choice item) item) ->
      Accepts (.array kind types) (.array items)
  | pointer {name : String} {schema : Schema} {value : Value} :
      schema ∈ named schemata name -> Accepts schema value -> Accepts (.pointer name) value

/-- An enum of a kind the function knows, and a text that is none of its
symbols: the function panics. -/
def Trips (schema : Schema) (value : Value) : Prop :=
  Exists fun symbols => enumSymbols schema = some symbols ∧
    Exists fun text => value = .string text ∧ text ∉ symbols.map base

/-- The function takes the value and the type does not accept it: an `int` that
does not fit into 32 bits, a `double` without a fraction that does not, NaN, an
array with an element that no item type accepts, and any value of a type that
is known by name only. -/
def Oversteps : Schema -> Value -> Prop
  | .basic .int, .int value => ¬InRange .int value.toInt
  | .basic .int, .double value => truncated value = true ∧
      ¬AcceptsNumber .int (numberOfDecimal value)
  | .basic .float, .float value => value = none
  | .array _ types, .array items =>
      Exists fun item => item ∈ items ∧ forall schema, schema ∈ types ->
          ¬Accepts schemata schema item
  | .pointer name, value =>
      named schemata name ≠ [] ∧ forall schema, schema ∈ named schemata name ->
          ¬Accepts schemata schema value
  | _, _ => False

/-- The function misses a value that the type accepts: a number that arrived in
another format than the type names, except an `int` for `float` and a `double`
for `int`, and a symbol or a record for a schema of an output. -/
def Overlooks : Schema -> Value -> Prop
  | .basic basic, value =>
      (Exists fun number => numberOf value = some number ∧ AcceptsNumber basic number) ∧
        basic.text ≠ value.typeText ∧ ¬(value.typeText = "int" ∧ basic = .float) ∧
        ¬(value.typeText = "double" ∧ basic = .int)
  | .enum kind _ symbols, .string text =>
      (kind = .output ∨ kind = .commandOutput) ∧ text ∈ symbols.map base
  | .record kind _, .record _ => kind = .commandOutput
  | _, _ => False

end

section

variable {schemata : List (String × Schema)} {schema : Schema} {value : Value}

/-- The answer for one type, where the function does not panic. The function takes a value if the
type accepts it and nothing is overlooked, or if it oversteps what it checks. -/
def Takes (schemata : List (String × Schema)) (schema : Schema) (value : Value) : Prop :=
  (Accepts schemata schema value ∧ ¬Overlooks schema value) ∨ Oversteps schemata schema value

/-- The function answers for a type and a value as `Takes` says. -/
def Answers (schemata : List (String × Schema)) (schema : Schema) (value : Value) : Prop :=
  Exists fun answer =>
    typeIsCorrectSingle schemata schema value = .ok answer ∧
        (answer = true ↔ Takes schemata schema value)

theorem inRange_long (number : Int64) : InRange .long number.toInt :=
  ⟨number.le_toInt, number.toInt_lt⟩

theorem inRange_float (number : Int64) : InRange .float number.toInt := by
  have bounded : |number.toInt| <= 2 ^ 63 := abs_le.mpr ⟨number.le_toInt, number.toInt_lt.le⟩
  calc |(number.toInt : Rat)| = ((|number.toInt| : Int) : Rat) := (Int.cast_abs).symm
    _ <= ((2 ^ 63 : Int) : Rat) := Int.cast_le.mpr bounded
    _ <= maxFloat32 := by decide +kernel

theorem num_of_isInt {number : Rat} (whole : number.isInt = true) :
    ((number.num : Int) : Rat) = number := by
  have one : number.den = 1 := by simpa [Rat.isInt] using whole
  exact Rat.coe_int_num_of_den_eq_one one

/-- A number of a format with fractions is accepted by the type of its format. -/
theorem acceptsNumber_decimal {basic : Basic} {bound : Rat}
    (fractions : basic = .float ∨ basic = .double)
    (range : forall integer : Int, |(integer : Rat)| <= bound -> InRange basic integer)
    (number : Decimal bound) :
    AcceptsNumber basic (numberOfDecimal number) := by
  cases number with
  | infinite positive => exact fractions
  | finite value within =>
      by_cases whole : value.isInt = true
      · simp only [numberOfDecimal, if_pos whole]
        refine range value.num ?_
        rw [num_of_isInt whole]
        exact within
      · simp only [numberOfDecimal, if_neg whole]
        exact fractions

/-- Only a number that is its own truncation can be accepted as an `int`. -/
theorem truncated_of_acceptsNumber {bound : Rat} {number : Decimal bound}
    (accepted : AcceptsNumber .int (numberOfDecimal number)) : truncated number = true := by
  cases number with
  | infinite positive => rfl
  | finite value within =>
      by_contra broken
      simp only [truncated] at broken
      simp [numberOfDecimal, broken, AcceptsNumber] at accepted

/-! ### The kinds of types -/

theorem accepts_basic_iff {basic : Basic} : Accepts schemata (.basic basic) value ↔
    (Exists fun number => numberOf value = some number ∧ AcceptsNumber basic number) ∨
      (basic = .any ∧ value ≠ .null) ∨
      (numberOf value = none ∧ value ≠ .float none ∧ basic.text = value.typeText) ∨
      (value.typeText = "File" ∧ (basic = .stdout ∨ basic = .stderr)) := by
  constructor
  · intro accepted
    cases accepted with
    | number known taken => exact Or.inl ⟨_, known, taken⟩
    | any something => exact Or.inr (Or.inl ⟨rfl, something⟩)
    | file fields secondaryFiles stream => rcases stream with rfl | rfl | rfl <;> simp
    | _ => simp
  · rintro (⟨number, known, taken⟩ | ⟨rfl, something⟩ | ⟨plain, number, same⟩ | ⟨isFile, stream⟩)
    · exact .number known taken
    · exact .any something
    · -- a value that is no number has the text of the one type it belongs to
      cases value <;> cases basic <;> simp at plain number same
      · exact .null
      · exact .boolean _
      · exact absurd plain number
      · exact .string _
      · exact .file _ _ (Or.inl rfl)
      · exact .directory _ _
    · cases value <;> simp at isFile
      exact .file _ _ (Or.inr stream)

theorem answers_basic {basic : Basic} (special : basic ≠ .any) : Answers schemata (.basic basic) value := by
  have isObject : typeIsCorrectSingle schemata (.basic basic) value = ofObject (.basic basic) value := by
    cases basic <;> first | rfl | exact absurd rfl special
  unfold Answers Takes
  rw [isObject, accepts_basic_iff]
  cases value with
  | int number =>
      cases basic <;> simp [ofObject, ofTexts, Overlooks, Oversteps, AcceptsNumber] at special ⊢
      · exact Classical.em _
      · exact inRange_float number
  | long number =>
      cases basic <;> simp [ofObject, ofTexts, Overlooks, Oversteps, AcceptsNumber] at special ⊢
      exact inRange_long number
  | float number =>
      cases basic <;> simp [ofObject, ofTexts, Overlooks, Oversteps] at special ⊢
      cases number with
      | none => exact Or.inr rfl
      | some number => exact Or.inl ⟨number, rfl, acceptsNumber_decimal (Or.inl rfl) (fun _ within => within) number⟩
  | double number =>
      cases basic <;> simp [ofObject, ofTexts, Overlooks, Oversteps, isTruncated] at special ⊢
      · constructor
        · intro whole
          exact (Classical.em _).imp_right fun refused => ⟨whole, refused⟩
        · rintro (accepted | ⟨whole, _⟩)
          · exact truncated_of_acceptsNumber accepted
          · exact whole
      · exact acceptsNumber_decimal (Or.inr rfl) (fun _ within => within) number
  | _ => cases basic <;> simp [ofObject, ofTexts, Overlooks, Oversteps] at special ⊢

theorem not_acceptsNumber_any {number : Number} : ¬AcceptsNumber .any number := by
  cases number <;> simp [AcceptsNumber, InRange]

theorem answers_any : Answers schemata (.basic .any) value := by
  refine ⟨_, rfl, ?_⟩
  unfold Takes
  rw [accepts_basic_iff]
  cases value <;> simp [Overlooks, Oversteps, not_acceptsNumber_any]

theorem accepts_pointer_iff {name : String} : Accepts schemata (.pointer name) value ↔
    Exists fun schema => schema ∈ named schemata name ∧ Accepts schemata schema value := by
  constructor
  · intro accepted
    cases accepted with
    | pointer listed taken => exact ⟨_, listed, taken⟩
  · rintro ⟨schema, listed, taken⟩
    exact .pointer listed taken

/-- The text of a pointer is that of no value. -/
theorem ofObject_pointer (name : String) : ofObject (.pointer name) value = .ok false := by
  cases value <;> simp [ofObject, ofTexts]

theorem answers_pointer (name : String) : Answers schemata (.pointer name) value := by
  unfold Answers Takes
  rw [accepts_pointer_iff]
  simp only [typeIsCorrectSingle, Overlooks, Oversteps]
  by_cases known : named schemata name = []
  · rw [known, if_neg (not_not_intro rfl), ofObject_pointer]
    exact ⟨false, rfl, by simp⟩
  · rw [if_pos known]
    refine ⟨true, rfl, fun _ => ?_, fun _ => rfl⟩
    by_cases taken : Exists fun schema => schema ∈ named schemata name ∧
        Accepts schemata schema value
    · exact Or.inl ⟨taken, fun impossible => impossible⟩
    · exact Or.inr ⟨known, fun schema listed accepted => taken ⟨schema, listed, accepted⟩⟩

theorem accepts_array_iff {kind : ArrayKind} {types : List Schema} :
    Accepts schemata (.array kind types) value ↔
    Exists fun items => value = .array items ∧
      forall item, item ∈ items -> Exists fun schema => schema ∈ types ∧
          Accepts schemata schema item := by
  constructor
  · intro accepted
    cases accepted with
    | array kind choice listed taken =>
        exact ⟨_, rfl, fun item member => ⟨choice item, listed item member, taken item member⟩⟩
  · rintro ⟨items, rfl, every⟩
    have chosen (item : Value) : Exists fun schema => item ∈ items -> schema ∈ types ∧
        Accepts schemata schema item := by
      by_cases member : item ∈ items
      · rcases every item member with ⟨schema, found⟩
        exact ⟨schema, fun _ => found⟩
      · exact ⟨.basic .null, fun impossible => absurd impossible member⟩
    choose choice found using chosen
    exact .array kind choice (fun item member => (found item member).1) fun item member =>
        (found item member).2

theorem answers_array (kind : ArrayKind) (types : List Schema) :
    Answers schemata (.array kind types) value := by
  unfold Answers Takes
  rw [accepts_array_iff]
  simp only [typeIsCorrectSingle]
  cases value with
  | array items =>
      refine ⟨true, rfl, fun _ => ?_, fun _ => rfl⟩
      by_cases broken : Oversteps schemata (.array kind types) (.array items)
      · exact Or.inr broken
      · simp only [Oversteps, not_exists, not_and, not_forall, not_not] at broken
        refine Or.inl ⟨⟨items, rfl, fun item member => ?_⟩, fun impossible => impossible⟩
        rcases broken item member with ⟨schema, listed, taken⟩
        exact ⟨schema, listed, taken⟩
  | _ => cases kind <;> simp [ofObject, ofTexts, Oversteps]

theorem answers_record (kind : NamedKind) (name : String) :
    Answers schemata (.record kind name) value := by
  have accepts_iff : Accepts schemata (.record kind name) value ↔ Exists fun fields =>
      value = .record fields := by
    constructor
    · intro accepted
      cases accepted with
      | record kind name fields => exact ⟨fields, rfl⟩
    · rintro ⟨fields, rfl⟩
      exact .record kind name fields
  unfold Answers Takes
  rw [accepts_iff]
  simp only [typeIsCorrectSingle]
  cases value <;> cases kind <;> simp [ofObject, ofTexts, Overlooks, Oversteps]

theorem accepts_enum_iff {kind : NamedKind} {name : String} {symbols : List String} :
    Accepts schemata (.enum kind name symbols) value ↔
      Exists fun text => value = .string text ∧ text ∈ symbols.map base := by
  constructor
  · intro accepted
    cases accepted with
    | enum kind name listed => exact ⟨_, rfl, listed⟩
  · rintro ⟨text, rfl, listed⟩
    exact .enum kind name listed

theorem answers_enum {kind : NamedKind} {name : String} {symbols : List String}
    (steady : ¬Trips (.enum kind name symbols) value) :
    Answers schemata (.enum kind name symbols) value := by
  unfold Answers Takes
  rw [accepts_enum_iff]
  simp only [typeIsCorrectSingle]
  cases value with
  | string text =>
      -- a known kind of enum that lacks the text would have panicked
      have listed (known : enumSymbols (.enum kind name symbols) = some symbols) :
          text ∈ symbols.map base := by
        by_contra missing
        exact steady ⟨symbols, known, text, rfl, missing⟩
      cases kind with
      | output => simp [ofObject, ofTexts, Overlooks, Oversteps]
      | commandOutput => simp [ofObject, ofTexts, Overlooks, Oversteps]
      | _ => exact ⟨true, by simp [ofObject, ofTexts, isSymbol, enumSymbols, listed rfl],
          by simpa [Overlooks, Oversteps] using listed rfl⟩
  | _ => cases kind <;> simp [ofObject, ofTexts, Oversteps]

/-- What `TypeIsCorrectSingle` answers, where it does not panic. -/
theorem answers_of_not_trips (schemata : List (String × Schema)) (steady : ¬Trips schema value) :
    Answers schemata schema value := by
  cases schema with
  | basic name =>
      by_cases special : name = .any
      · rw [special]
        exact answers_any
      · exact answers_basic special
  | pointer name => exact answers_pointer name
  | array kind types => exact answers_array kind types
  | record kind name => exact answers_record kind name
  | enum kind name symbols => exact answers_enum steady

theorem typeIsCorrectSingle_of_trips (trips : Trips schema value) :
    typeIsCorrectSingle schemata schema value = .error (.panic "we are here") := by
  rcases trips with ⟨symbols, known, text, rfl, missing⟩
  cases schema with
  | enum kind name listed =>
      cases kind <;> simp only [enumSymbols, Option.some.injEq, reduceCtorEq] at known <;>
          subst known <;>
        simp only [typeIsCorrectSingle, ofObject, ofTexts, isSymbol, enumSymbols, if_neg missing]
            <;> simp
  | _ => simp [enumSymbols] at known

theorem accepts_of_overlooks (missed : Overlooks schema value) : Accepts schemata schema value := by
  cases schema with
  | basic name =>
      rcases missed with ⟨⟨number, known, taken⟩, _⟩
      exact .number known taken
  | pointer name => cases missed
  | array kind types => cases missed
  | record kind name =>
      cases value with
      | record fields => exact .record kind name fields
      | _ => cases missed
  | enum kind name symbols =>
      cases value with
      | string text => exact .enum kind name missed.2
      | _ => cases missed

/-! ## All the allowed types -/

variable {allowedTypes : List Schema}

/-- Some allowed type accepts the value. -/
def Conforms (schemata : List (String × Schema)) (allowedTypes : List Schema) (value : Value) :
    Prop :=
  Exists fun schema => schema ∈ allowedTypes ∧ Accepts schemata schema value

/-- `TypeIsCorrect` returns, for every order of the allowed types, and it says
whether the value conforms to one of them. -/
def Decides (schemata : List (String × Schema)) (allowedTypes : List Schema) (value : Value) :
    Prop :=
  Exists fun answer =>
    (forall order, order.Perm allowedTypes -> typeIsCorrect schemata value order = .ok answer) ∧
      (answer = true ↔ Conforms schemata allowedTypes value)

/-- No allowed type makes the function panic; and some type takes the value
rightly, or the types that overstep and those that are overlooked make up for
each other. -/
def Clear (schemata : List (String × Schema)) (allowedTypes : List Schema) (value : Value) : Prop :=
  (forall schema, schema ∈ allowedTypes -> ¬Trips schema value) ∧
    ((Exists fun schema => schema ∈ allowedTypes ∧ Accepts schemata schema value ∧
    ¬Overlooks schema value) ∨
      ((Exists fun schema => schema ∈ allowedTypes ∧ Oversteps schemata schema value) ↔
        Exists fun schema => schema ∈ allowedTypes ∧ Overlooks schema value))

/-- The loop over the allowed types. -/
theorem typeIsCorrect_of_not_trips (schemata : List (String × Schema))
    (steady : forall schema, schema ∈ allowedTypes -> ¬Trips schema value) :
    Exists fun answer => typeIsCorrect schemata value allowedTypes = .ok answer ∧
      (answer = true ↔ Exists fun schema => schema ∈ allowedTypes ∧
          Takes schemata schema value) := by
  induction allowedTypes with
  | nil => exact ⟨false, rfl, by simp⟩
  | cons schema rest inductionHypothesis =>
      obtain ⟨first, single, taken⟩ :=
          answers_of_not_trips schemata (steady schema List.mem_cons_self)
      simp only [typeIsCorrect, single]
      cases first with
      | true => exact ⟨true, rfl, fun _ => ⟨schema, List.mem_cons_self, taken.mp rfl⟩, fun _ => rfl⟩
      | false =>
          obtain ⟨answer, done, meaning⟩ :=
            inductionHypothesis fun later member => steady later (List.mem_cons_of_mem _ member)
          refine ⟨answer, done, meaning.trans ?_⟩
          have refused : ¬Takes schemata schema value :=
              fun takes => Bool.false_ne_true (taken.mpr takes)
          simp only [List.mem_cons, exists_eq_or_imp, refused, false_or]

theorem steady_of_decides (decides : Decides schemata allowedTypes value) :
    forall schema, schema ∈ allowedTypes -> ¬Trips schema value := by
  rcases decides with ⟨answer, every, _⟩
  intro schema member trips
  -- an order in which the function meets this type first
  rcases List.append_of_mem member with ⟨front, back, rfl⟩
  have met := every (schema :: (front ++ back)) List.perm_middle.symm
  simp only [typeIsCorrect, typeIsCorrectSingle_of_trips trips] at met
  cases met

/-- `TypeIsCorrect` decides conformance exactly for the types and values at
which its departures do not show. -/
theorem decides_iff_clear :
    Decides schemata allowedTypes value ↔ Clear schemata allowedTypes value := by
  have meaning (steady : forall schema, schema ∈ allowedTypes -> ¬Trips schema value) :
      Decides schemata allowedTypes value ↔
        ((Exists fun schema => schema ∈ allowedTypes ∧ Takes schemata schema value) ↔
          Conforms schemata allowedTypes value) := by
    rcases typeIsCorrect_of_not_trips schemata steady with ⟨answer, given, taken⟩
    constructor
    · rintro ⟨claimed, every, right⟩
      have same : claimed = answer := by
        have atSelf := every allowedTypes (List.Perm.refl _)
        rw [given] at atSelf
        exact (Except.ok.inj atSelf).symm
      rw [<- taken, <- same]
      exact right
    · intro right
      refine ⟨answer, fun order permuted => ?_, taken.trans right⟩
      obtain ⟨other, found, takenThere⟩ := typeIsCorrect_of_not_trips schemata
        fun schema (member : schema ∈ order) => steady schema (permuted.mem_iff.mp member)
      rw [found, Bool.eq_iff_iff.mpr
          ((takenThere.trans (by simp only [permuted.mem_iff])).trans taken.symm)]
  constructor
  · intro decides
    have steady := steady_of_decides decides
    have right := (meaning steady).mp decides
    refine ⟨steady, ?_⟩
    by_cases rightly :
        Exists fun schema => schema ∈ allowedTypes ∧ Accepts schemata schema value ∧
        ¬Overlooks schema value
    · exact Or.inl rightly
    · refine Or.inr ⟨?_, ?_⟩
      · rintro ⟨schema, member, overlooked⟩
        rcases right.mp ⟨schema, member, Or.inr overlooked⟩ with ⟨other, listed, accepted⟩
        refine ⟨other, listed, ?_⟩
        by_contra seen
        exact rightly ⟨other, listed, accepted, seen⟩
      · rintro ⟨schema, member, missed⟩
        obtain ⟨other, listed, taken | overlooked⟩ :=
            right.mpr ⟨schema, member, accepts_of_overlooks missed⟩
        · exact absurd ⟨other, listed, taken⟩ rightly
        · exact ⟨other, listed, overlooked⟩
  · rintro ⟨steady, rightly | balanced⟩
    · rcases rightly with ⟨schema, member, accepted, seen⟩
      exact (meaning steady).mpr ⟨fun _ => ⟨schema, member, accepted⟩, fun _ =>
          ⟨schema, member, Or.inl ⟨accepted, seen⟩⟩⟩
    · refine (meaning steady).mpr ⟨?_, ?_⟩
      · rintro ⟨schema, member, ⟨accepted, _⟩ | overlooked⟩
        · exact ⟨schema, member, accepted⟩
        · rcases balanced.mp ⟨schema, member, overlooked⟩ with ⟨other, listed, missed⟩
          exact ⟨other, listed, accepts_of_overlooks missed⟩
      · rintro ⟨schema, member, accepted⟩
        by_cases missed : Overlooks schema value
        · rcases balanced.mpr ⟨schema, member, missed⟩ with ⟨other, listed, overlooked⟩
          exact ⟨other, listed, Or.inr overlooked⟩
        · exact ⟨schema, member, Or.inl ⟨accepted, missed⟩⟩

end

end TypeCheck
end Cwl
end Awe
