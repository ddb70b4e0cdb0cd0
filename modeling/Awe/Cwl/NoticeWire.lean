import Awe.Core.Workunit
import Awe.Cwl.Wire

namespace Awe
namespace Cwl
namespace NoticeWire

open Lib Natives Wire

/-!
# Notices between worker and server

A worker reports the end of a CWL workunit as a JSON object.  The encoder works
from the tags of the struct; the decoder picks the entries by hand, with type
assertions whose failure gives a zero.  A JSON number is read as a `float64`, so
the assertion of the compute time to an `int` never holds.

The results are a job document, and the values that come back are those that
`Survives` describes.  Values that are written as numbers of another kind are
not among them, since nothing but doubles is read back.
-/

/-! ## What is read from JSON -/

mutual

/-- The trees that `json.Unmarshal` makes. -/
def IsJson : Tree -> Prop
  | .null => True
  | .bool _ => True
  | .float64 (some (.finite _ _)) => True
  | .text _ => True
  | .list elements => AllJson elements
  | .strMap fields => FieldsJson fields
  | _ => False

def AllJson : List Tree -> Prop
  | [] => True
  | tree :: rest => IsJson tree ∧ AllJson rest

def FieldsJson : List (String × Tree) -> Prop
  | [] => True
  | (_, tree) :: rest => IsJson tree ∧ FieldsJson rest

end

theorem allPlain_iff {values : List Value} :
    AllPlain values ↔ forall value, value ∈ values -> Plain value := by
  induction values with
  | nil => exact iff_of_true trivial fun _ member => absurd member List.not_mem_nil
  | cons value rest inductionHypothesis => rw [AllPlain, inductionHypothesis, List.forall_mem_cons]

theorem fieldsPlain_iff {fields : List (String × Value)} :
    FieldsPlain fields ↔ forall field, field ∈ fields -> Plain field.2 := by
  induction fields with
  | nil => exact iff_of_true trivial fun _ member => absurd member List.not_mem_nil
  | cons field rest inductionHypothesis =>
      rcases field with ⟨key, value⟩
      rw [FieldsPlain, inductionHypothesis, List.forall_mem_cons]

/-- What is made of an entry is plain, and so is what is made of its elements. -/
structure ChildPlain (child : Child) : Prop where
  value : forall name value, child.value name = .ok value -> Plain value
  elements : forall element, element ∈ child.elements -> forall value, element = .ok value ->
      Plain value

section

variable {fields : List (String × Child)}

theorem plain_of_fileOrDirectory {child : Child} (plain : ChildPlain child)
    {caller refused : String} {values : List Value}
    (read : child.elements.mapM (fileOrDirectory caller refused) = .ok values) :
    AllPlain values := by
  rw [allPlain_iff]
  intro value member
  rcases Fallible.mem_of_mapM_ok read member with ⟨element, listed, made⟩
  exact plain.elements element listed value (fileOrDirectory_eq_ok.mp made).1

theorem plain_of_makeFile (children : forall field, field ∈ fields -> ChildPlain field.2)
    {library : Library} {value : Value} (read : makeFile library fields = .ok value) :
    Plain value := by
  unfold makeFile at read
  split at read
  · cases read
  next secondaryFiles found =>
  have plain : AllPlain secondaryFiles := by
    unfold secondaryFilesOf at found
    cases listed : fields.lookup "secondaryFiles" with
    | none =>
        rw [listed] at found
        cases found
        exact trivial
    | some child =>
        rw [listed] at found
        have made := wrap_eq_ok.mp found
        unfold getSecondaryFilesArray at made
        split at made
        · exact plain_of_fileOrDirectory (children _ (mem_of_lookup listed)) made
        · cases made
  dsimp only at read
  generalize (if (fields.lookup "secondaryFiles").isSome = true then fileStruct
    else ("secondaryFiles", FieldKind.list .interface) :: fileStruct) = struct at read
  split at read
  · cases completed : completeFile library
        (decodeFile (library.visit "File" (keys (trees fields))) (trees fields)) with
    | error failure =>
        rw [completed] at read
        cases read
    | ok file =>
        rw [completed] at read
        cases read
        exact plain
  · cases read

theorem plain_of_newDirectory (children : forall field, field ∈ fields -> ChildPlain field.2)
    {library : Library} {value : Value} (read : newDirectory library fields = .ok value) :
    Plain value := by
  unfold newDirectory at read
  split at read
  · cases read
  next listing found =>
  have plain : AllPlain listing := by
    unfold listingOf at found
    cases listed : fields.lookup "listing" with
    | none =>
        rw [listed] at found
        cases found
        exact trivial
    | some child =>
        rw [listed] at found
        have made := wrap_eq_ok.mp found
        have each := children _ (mem_of_lookup listed)
        unfold newFDArray at made
        split at made
        · exact plain_of_fileOrDirectory each made
        · cases single : fileOrDirectory "" "(NewFDArray) (B) expected *File or *Directory"
            (child.value "") with
          | error failure =>
              rw [single] at made
              cases made
          | ok value =>
              rw [single] at made
              cases made
              exact ⟨each.value "" value (fileOrDirectory_eq_ok.mp single).1, trivial⟩
  dsimp only at read
  generalize (if (fields.lookup "listing").isSome = true then directoryStruct
    else ("listing", FieldKind.list .typed) :: directoryStruct) = struct at read
  split at read
  · cases read
    exact plain
  · cases read

theorem fieldsPlain_setID {id : String} {values : List (String × Value)}
    (plain : FieldsPlain values) :
    FieldsPlain (setID id values) := by
  induction values with
  | nil => exact ⟨trivial, trivial⟩
  | cons field rest inductionHypothesis =>
      rcases field with ⟨key, value⟩
      unfold setID
      by_cases same : key = "id"
      · rw [if_pos same]
        exact ⟨trivial, plain.2⟩
      · rw [if_neg same]
        exact ⟨plain.1, inductionHypothesis plain.2⟩

theorem plain_of_newRecord (children : forall field, field ∈ fields -> ChildPlain field.2)
    {context : Context} {id : String} {value : Value}
    (read : newRecord context id fields = .ok value) : Plain value := by
  unfold newRecord at read
  split at read
  · cases read
  cases made : fields.mapM recordField with
  | error failure =>
      rw [made] at read
      cases read
  | ok values =>
      rw [made] at read
      cases read
      have plain : FieldsPlain values := by
        rw [fieldsPlain_iff]
        intro field member
        rcases Fallible.mem_of_mapM_ok made member with ⟨⟨key, child⟩, listed, round⟩
        unfold recordField at round
        cases found : child.value key with
        | error failure =>
            rw [found] at round
            cases failure <;> cases round
        | ok value =>
            rw [found] at round
            cases round
            exact (children _ listed).value key value found
      unfold Plain
      split
      · exact fieldsPlain_setID plain
      · exact plain

theorem plain_of_ofMap (children : forall field, field ∈ fields -> ChildPlain field.2)
    {library : Library} {context : Context} {id : String} {value : Value}
    (read : ofMap library context id fields = .ok value) :
    Plain value := by
  unfold ofMap at read
  split at read
  · cases read
  split at read
  · cases read
  next className _ =>
  have byClass := wrap_eq_ok.mp read
  unfold newCWLTypeByClass at byClass
  split_ifs at byClass
  · exact plain_of_makeFile children (wrap_eq_ok.mp byClass)
  · exact plain_of_newDirectory children (wrap_eq_ok.mp byClass)
  · exact plain_of_newRecord children (wrap_eq_ok.mp byClass)

end

mutual

variable {library : Library} {context : Context}

/-- Whatever comes out of JSON is plain: the only numbers in it are finite doubles. -/
theorem newCWLType_plain (tree : Tree) (json : IsJson tree) (name : String) (value : Value)
    (read : newCWLType library context tree name = .ok value) : Plain value := by
  cases tree with
  | null =>
      cases read
      trivial
  | bool _ =>
      cases read
      trivial
  | text _ =>
      cases read
      trivial
  | int _ => exact json.elim
  | int64 _ => exact json.elim
  | uint64 _ => exact json.elim
  | float32 _ => exact json.elim
  | anyMap _ => exact json.elim
  | float64 number =>
      cases number with
      | none => exact json.elim
      | some number =>
          cases number with
          | infinite _ => exact json.elim
          | finite _ _ =>
              cases read
              trivial
  | list elements =>
      rw [newCWLType] at read
      cases made : newArray (newElements library context elements) with
      | error failure =>
          rw [made] at read
          cases failure <;> cases read
      | ok items =>
          rw [made] at read
          cases read
          change AllPlain items
          rw [allPlain_iff]
          intro item member
          rcases Fallible.mem_of_mapM_ok made member with ⟨element, listed, found⟩
          exact newElements_plain elements json element listed item (wrap_eq_ok.mp found)
  | strMap fields =>
      rw [newCWLType] at read
      split at read
      · cases read
      · exact plain_of_ofMap (childrenOfFields_plain fields json) read

theorem newElements_plain (elements : List Tree) (json : AllJson elements)
    (element : Except Failure Value) (member : element ∈ newElements library context elements)
    (value : Value) (read : element = .ok value) :
    Plain value := by
  cases elements with
  | nil => cases member
  | cons tree rest =>
      rcases List.mem_cons.mp member with first | later
      · exact newCWLType_plain tree json.1 "" value (first.symm.trans read)
      · exact newElements_plain rest json.2 element later value read

theorem childrenOfFields_plain (fields : List (String × Tree)) (json : FieldsJson fields)
    (field : String × Child) (member : field ∈ childrenOfFields library context fields) :
    ChildPlain field.2 := by
  cases fields with
  | nil => cases member
  | cons entry rest =>
      rcases entry with ⟨key, tree⟩
      rcases List.mem_cons.mp member with first | later
      · rw [first]
        refine ⟨newCWLType_plain tree json.1, fun element listed => ?_⟩
        cases tree with
        | list elements => exact newElements_plain elements json.1 element listed
        | _ => cases listed
      · exact childrenOfFields_plain rest json.2 field later

end

/-! ## Writing any value -/

/-- The double nearest to an integer; of two that are equally near, the one with an even last digit.
-/
def doubleOf (number : Int) : Int :=
  let size := number.natAbs
  let unit := 2 ^ (Nat.log2 size - 52)
  let quotient := size / unit
  let rest := size % unit
  let rounded := if unit < 2 * rest ∨ (2 * rest = unit ∧ quotient % 2 = 1) then
      quotient + 1 else quotient
  if number < 0 then -((rounded * unit : Nat) : Int) else ((rounded * unit : Nat) : Int)

theorem natAbs_doubleOf_le (number : Int) : (doubleOf number).natAbs ≤ 2 * number.natAbs := by
  by_cases zero : number = 0
  · rw [zero]
    decide
  have unit : 2 ^ (Nat.log2 number.natAbs - 52) ≤ number.natAbs := by
    calc 2 ^ (Nat.log2 number.natAbs - 52) ≤ 2 ^ Nat.log2 number.natAbs :=
        Nat.pow_le_pow_right (by omega) (by omega)
      _ ≤ number.natAbs := Nat.log2_self_le (by omega)
  unfold doubleOf
  dsimp only
  generalize 2 ^ (Nat.log2 number.natAbs - 52) = unit' at unit
  have whole := Nat.div_mul_le_self number.natAbs unit'
  have next : (number.natAbs / unit' + 1) * unit' = number.natAbs / unit' * unit' + unit' :=
      Nat.succ_mul ..
  split_ifs <;> omega

/-- The tree of a number that is written in decimal. -/
def number (value : Int64) : Tree :=
  .float64 (some (.finite (doubleOf value.toInt) (by
    have small : (doubleOf value.toInt).natAbs ≤ 2 ^ 64 := by
      have bound := natAbs_doubleOf_le value.toInt
      have low := value.le_toInt
      have high := value.toInt_lt
      omega
    have bounded : |doubleOf value.toInt| ≤ 2 ^ 64 := by
      rw [Int.abs_eq_natAbs]
      exact_mod_cast small
    calc |(doubleOf value.toInt : Rat)| = ((|doubleOf value.toInt| : Int) : Rat) :=
        (Int.cast_abs).symm
      _ <= ((2 ^ 64 : Int) : Rat) := Int.cast_le.mpr bounded
      _ <= maxFloat64 := by decide +kernel)))

/-- The double that is read where a `float32` was written with the fewest digits. Which double it
is does not matter, as long as it stays in range. -/
structure Digits where
  value : Rat -> Rat
  within : forall value', |value'| <= maxFloat32 -> |value value'| <= maxFloat64

section

variable (shortest : Digits)

mutual

/-- `json.Marshal` of any value, as the tree that is read; numbers that are not finite are refused.
-/
def marshal : Value -> Option Tree
  | .null => some .null
  | .boolean value => some (.bool value)
  | .int value => some (number value)
  | .long value => some (number value)
  | .float none => none
  | .float (some (.infinite _)) => none
  | .float (some (.finite value within)) =>
      some (.float64 (some (.finite (shortest.value value) (shortest.within value within))))
  | .double (.infinite _) => none
  | .double (.finite value within) => some (.float64 (some (.finite value within)))
  | .string text => some (.text text)
  | .file fields secondaryFiles =>
      (marshalList secondaryFiles).map fun elements => .strMap (present (fileTable fields elements))
  | .directory fields listing =>
      (marshalList listing).map fun elements => .strMap (present (directoryTable fields elements))
  | .array items => (marshalList items).map .list
  | .record fields => (marshalFields fields).map .strMap

def marshalList : List Value -> Option (List Tree)
  | [] => some []
  | value :: rest =>
      match marshal value, marshalList rest with
      | some tree, some others => some (tree :: others)
      | _, _ => none

def marshalFields : List (String × Value) -> Option (List (String × Tree))
  | [] => some []
  | (key, value) :: rest =>
      match marshal value, marshalFields rest with
      | some tree, some others => some ((key, tree) :: others)
      | _, _ => none

end

/-- A `NamedCWLType`. -/
def marshalNamed (entry : String × Value) : Option Tree :=
  (marshal shortest entry.2).map fun tree =>
      .strMap (present [("id", textEntry entry.1), ("value", some tree)])

def marshalDocument (document : Document) : Option Tree :=
  (document.mapM (marshalNamed shortest)).map .list

end

mutual

variable {shortest : Digits}

/-- A plain value is written as before. -/
theorem marshal_of_plain (value : Value) (plain : Plain value) :
    marshal shortest value = toJson value := by
  cases value with
  | null => rfl
  | boolean _ => rfl
  | int _ => exact plain.elim
  | long _ => exact plain.elim
  | float _ => exact plain.elim
  | double number => cases number <;> rfl
  | string _ => rfl
  | file fields secondaryFiles => rw [marshal, toJson, marshalList_of_plain secondaryFiles plain]
  | directory fields listing => rw [marshal, toJson, marshalList_of_plain listing plain]
  | array items => rw [marshal, toJson, marshalList_of_plain items plain]
  | record fields => rw [marshal, toJson, marshalFields_of_plain fields plain]

theorem marshalList_of_plain (values : List Value) (plain : AllPlain values) :
    marshalList shortest values = listToJson values := by
  cases values with
  | nil => rfl
  | cons value rest =>
      have first := marshal_of_plain value plain.1
      have others := marshalList_of_plain rest plain.2
      cases head : toJson value <;> cases tail : listToJson rest <;>
        simp only [marshalList, listToJson, first, others, head, tail]

theorem marshalFields_of_plain (fields : List (String × Value)) (plain : FieldsPlain fields) :
    marshalFields shortest fields = fieldsToJson fields := by
  cases fields with
  | nil => rfl
  | cons field rest =>
      rcases field with ⟨key, value⟩
      have first := marshal_of_plain value plain.1
      have others := marshalFields_of_plain rest plain.2
      cases head : toJson value <;> cases tail : fieldsToJson rest <;>
        simp only [marshalFields, fieldsToJson, first, others, head, tail]

end

theorem fieldsJson_iff {fields : List (String × Tree)} :
    FieldsJson fields ↔ forall field, field ∈ fields -> IsJson field.2 := by
  induction fields with
  | nil => exact iff_of_true trivial fun _ member => absurd member List.not_mem_nil
  | cons field rest inductionHypothesis =>
      rcases field with ⟨key, tree⟩
      rw [FieldsJson, inductionHypothesis, List.forall_mem_cons]

theorem fieldsJson_present {table : List (String × Option Tree)}
    (json : forall entry, entry ∈ table -> forall tree, entry.2 = some tree -> IsJson tree) :
    FieldsJson (present table) := by
  rw [fieldsJson_iff]
  rintro ⟨key, tree⟩ member
  exact json _ (mem_present.mp member) tree rfl

theorem json_textEntry {text : String} (tree : Tree) (written : textEntry text = some tree) :
    IsJson tree := by
  unfold textEntry at written
  split at written
  · cases written
  · cases written
    trivial

theorem json_listEntry {elements : List Tree} (json : AllJson elements) (tree : Tree)
    (written : listEntry elements = some tree) : IsJson tree := by
  unfold listEntry at written
  split at written
  · cases written
  · cases written
    exact json

theorem json_fileTable {file : FileFields} {elements : List Tree} (json : AllJson elements) :
    FieldsJson (present (fileTable file elements)) := by
  refine fieldsJson_present fun entry member tree written => ?_
  unfold fileTable at member
  simp only [List.mem_cons, List.not_mem_nil, or_false] at member
  rcases member with rfl | rfl | rfl | rfl | rfl | rfl | rfl | rfl | rfl | rfl | rfl | rfl | rfl
  · cases written
    trivial
  · exact json_textEntry tree written
  · exact json_textEntry tree written
  · exact json_textEntry tree written
  · exact json_textEntry tree written
  · exact json_textEntry tree written
  · exact json_textEntry tree written
  · exact json_textEntry tree written
  · exact json_textEntry tree written
  · rcases Option.map_eq_some_iff.mp written with ⟨size, _, same⟩
    rw [<- same]
    trivial
  · exact json_listEntry json tree written
  · exact json_textEntry tree written
  · exact json_textEntry tree written

theorem json_directoryTable {directory : DirectoryFields} {elements : List Tree}
    (json : AllJson elements) :
    FieldsJson (present (directoryTable directory elements)) := by
  refine fieldsJson_present fun entry member tree written => ?_
  unfold directoryTable at member
  simp only [List.mem_cons, List.not_mem_nil, or_false] at member
  rcases member with rfl | rfl | rfl | rfl | rfl
  · cases written
    trivial
  · exact json_textEntry tree written
  · exact json_textEntry tree written
  · exact json_textEntry tree written
  · exact json_listEntry json tree written

mutual

variable {shortest : Digits}

/-- What is written is JSON. -/
theorem json_marshal (value : Value) (tree : Tree) (written : marshal shortest value = some tree) :
    IsJson tree := by
  cases value with
  | null =>
      cases written
      trivial
  | boolean _ =>
      cases written
      trivial
  | int _ =>
      cases written
      trivial
  | long _ =>
      cases written
      trivial
  | float number =>
      cases number with
      | none => cases written
      | some number =>
          cases number with
          | infinite _ => cases written
          | finite _ _ =>
              cases written
              trivial
  | double number =>
      cases number with
      | infinite _ => cases written
      | finite _ _ =>
          cases written
          trivial
  | string _ =>
      cases written
      trivial
  | file fields secondaryFiles =>
      rw [marshal] at written
      rcases Option.map_eq_some_iff.mp written with ⟨elements, listed, rfl⟩
      exact json_fileTable (json_marshalList secondaryFiles elements listed)
  | directory fields listing =>
      rw [marshal] at written
      rcases Option.map_eq_some_iff.mp written with ⟨elements, listed, rfl⟩
      exact json_directoryTable (json_marshalList listing elements listed)
  | array items =>
      rw [marshal] at written
      rcases Option.map_eq_some_iff.mp written with ⟨elements, listed, rfl⟩
      exact json_marshalList items elements listed
  | record fields =>
      rw [marshal] at written
      rcases Option.map_eq_some_iff.mp written with ⟨objects, listed, rfl⟩
      exact json_marshalFields fields objects listed

theorem json_marshalList (values : List Value) (elements : List Tree)
    (written : marshalList shortest values = some elements) : AllJson elements := by
  cases values with
  | nil =>
      cases written
      trivial
  | cons value rest =>
      rw [marshalList] at written
      cases first : marshal shortest value with
      | none =>
          rw [first] at written
          cases written
      | some tree =>
          cases later : marshalList shortest rest with
          | none =>
              rw [first, later] at written
              cases written
          | some others =>
              rw [first, later] at written
              cases written
              exact ⟨json_marshal value tree first, json_marshalList rest others later⟩

theorem json_marshalFields (fields : List (String × Value)) (objects : List (String × Tree))
    (written : marshalFields shortest fields = some objects) : FieldsJson objects := by
  cases fields with
  | nil =>
      cases written
      trivial
  | cons field rest =>
      rcases field with ⟨key, value⟩
      rw [marshalFields] at written
      cases first : marshal shortest value with
      | none =>
          rw [first] at written
          cases written
      | some tree =>
          cases later : marshalFields shortest rest with
          | none =>
              rw [first, later] at written
              cases written
          | some others =>
              rw [first, later] at written
              cases written
              exact ⟨json_marshal value tree first, json_marshalFields rest others later⟩

end

/-! ## Documents -/

/-- Every value of the document is plain and comes back as it was. -/
def DocumentSurvives (library : Library) (document : Document) : Prop :=
  forall entry, entry ∈ document -> Plain entry.2 ∧ Survives library entry.2 entry.1

section

variable {shortest : Digits} {library : Library} {context : Context}

theorem mapM_marshalNamed_of_plain {document : Document}
    (plain : forall entry, entry ∈ document -> Plain entry.2) :
    document.mapM (marshalNamed shortest) = document.mapM namedToJson := by
  induction document with
  | nil => rfl
  | cons entry rest inductionHypothesis =>
      rw [List.forall_mem_cons] at plain
      rw [List.mapM_cons, List.mapM_cons, inductionHypothesis plain.2, marshalNamed, namedToJson,
        marshal_of_plain entry.2 plain.1]

theorem json_marshalNamed {entry : String × Value} {tree : Tree}
    (written : marshalNamed shortest entry = some tree) :
    IsJson tree := by
  rw [marshalNamed, Option.map_eq_some_iff] at written
  rcases written with ⟨value, marshalled, rfl⟩
  refine fieldsJson_present fun named member tree written => ?_
  simp only [List.mem_cons, List.not_mem_nil, or_false] at member
  rcases member with rfl | rfl
  · exact json_textEntry tree written
  · cases written
    exact json_marshal entry.2 _ marshalled

/-- A tree from JSON has string keys already. -/
theorem makeStringMap_json {tree made : Tree} (json : IsJson tree)
    (done : makeStringMap context tree = .ok made) :
    made = tree := by
  cases tree with
  | anyMap _ => exact json.elim
  | strMap fields =>
      rw [makeStringMap] at done
      cases imported : checkImport context (fields.lookup "$import") with
      | error failure =>
          rw [imported] at done
          cases done
      | ok _ =>
          rw [imported] at done
          cases done
          rfl
  | _ =>
      cases done
      rfl

theorem newNamed_plain {named : Tree} (json : IsJson named) {entry : String × Value}
    (read : newNamed library context named = .ok entry) : Plain entry.2 := by
  unfold newNamed at read
  split at read
  · cases read
  · next fields mapped =>
    have same := makeStringMap_json json mapped
    rw [<- same] at json
    unfold newNamedCWLType at read
    split at read
    · cases read
    next value listed =>
    split at read
    · cases read
    next value' valueMapped =>
    have inner : IsJson value := fieldsJson_iff.mp json _ (mem_of_lookup listed)
    rw [makeStringMap_json inner valueMapped] at read
    have plain {id : String} {caller : String}
        (made : (wrap caller (newCWLType library context value id)).map (fun value => (id, value)) =
            .ok entry) :
        Plain entry.2 := by
      cases found : newCWLType library context value id with
      | error failure =>
          rw [found] at made
          cases failure <;> cases made
      | ok result =>
          rw [found] at made
          cases made
          exact newCWLType_plain value inner id result found
    split at read
    · exact plain read
    · exact plain read
    · cases read
  · cases read

/-- A document is written and read back as it was in every run exactly if it survives. -/
theorem document_survives_iff {document : Document} :
    (Exists fun wire => marshalDocument shortest document = some wire ∧
      forall visits, newJobDocumentFromNamedTypes (library.visiting visits) context wire =
      .ok document) ↔
        DocumentSurvives library document := by
  constructor
  · rintro ⟨wire, written, read⟩
    rcases Option.map_eq_some_iff.mp written with ⟨elements, listed, rfl⟩
    have plain : forall entry, entry ∈ document -> Plain entry.2 := by
      intro entry member
      rcases Fallible.mem_of_mapM_ok (read {}) member with ⟨element, inside, round⟩
      rcases Fallible.mem_of_mapM_some listed inside with ⟨from_, _, marshalled⟩
      exact newNamed_plain (json_marshalNamed marshalled) (wrap_eq_ok.mp round)
    rcases document_round_trip library context document plain with ⟨wire, rewritten, back⟩
    rw [mapM_marshalNamed_of_plain plain] at listed
    rw [documentToJson, listed] at rewritten
    cases rewritten
    exact fun entry member => ⟨plain entry member, back.mp read entry member⟩
  · intro survives
    have plain : forall entry, entry ∈ document -> Plain entry.2 :=
        fun entry member => (survives entry member).1
    rcases document_round_trip library context document plain with ⟨wire, written, back⟩
    refine ⟨wire, ?_, back.mpr fun entry member => (survives entry member).2⟩
    rw [marshalDocument, mapM_marshalNamed_of_plain plain]
    exact written

end

/-! ## The notice -/

/-- `Notice`, with the identifier as the task and the rank. -/
structure Notice where
  task : Core.TaskUniqueIdentifier
  rank : Int64
  workerID : String
  results : Option Document
  status : String
  computeTime : Int64
  notes : String
  stderr : String

/-- `json.Marshal` of the identifier, whose embedded struct gives its fields to the same object. -/
def marshalID (notice : Notice) : Tree :=
  .strMap [("task_name", .text notice.task.taskName), ("jobid", .text notice.task.jobId),
      ("rank", number notice.rank)]

/-- The entries of the object behind the results. -/
def noticeTable (notice : Notice) (results : Tree) : List (String × Option Tree) :=
  [("id", some (marshalID notice)), ("worker_id", some (.text notice.workerID)),
      ("results", some results),
    ("status", textEntry notice.status),
    ("computetime", if notice.computeTime = 0 then none else some (number notice.computeTime)),
    ("Notes", some (.text notice.notes)), ("Stderr", some (.text notice.stderr))]

/-- `json.Marshal` of a notice, decoded into a map. -/
def marshalNotice (shortest : Digits) (notice : Notice) : Option (List (String × Tree)) :=
  match notice.results with
  | none => some (present (noticeTable notice .null))
  | some document => (marshalDocument shortest document).map fun results =>
      present (noticeTable notice results)

/-- The conversion of a number to `int`. -/
def intOf : Option Tree -> Int64
  | some (.int value) => value
  | some (.int64 value) => value
  | some (.uint64 value) => value.toInt64
  | some (.float32 (some (.finite value _))) => Int64.ofInt (Int.tdiv value.num value.den)
  | some (.float64 (some (.finite value _))) => Int64.ofInt (Int.tdiv value.num value.den)
  | _ => 0

def identifierStruct : List (String × FieldKind) :=
  [("task_name", .string), ("jobid", .string), ("rank", .int)]

/-- `New_Workunit_Unique_Identifier_from_interface`. -/
def fromInterface (visits : Visits) : Tree -> Except Failure (Core.TaskUniqueIdentifier × Int64)
  | .null => .ok (⟨"", ""⟩, 0)
  | .strMap fields =>
      let order := visits.visit "Workunit_Unique_Identifier" (keys fields)
      if decodesStructIn order identifierStruct fields then
        .ok (⟨textOf (findFieldIn order "task_name" fields),
            textOf (findFieldIn order "jobid" fields)⟩,
          intOf (findFieldIn order "rank" fields))
      else .error (.error "(New_Workunit_Unique_Identifier_from_interface) mapstructure returs: ")
  | _ => .error (.error "(New_Workunit_Unique_Identifier_from_interface) mapstructure returs: ")

/-- A type assertion to a string, whose failure gives the empty string. -/
def assertString : Option Tree -> String
  | some (.text text) => text
  | _ => ""

/-- A type assertion to an `int`, whose failure gives zero. -/
def assertInt : Option Tree -> Int64
  | some (.int value) => value
  | _ => 0

/-- The results in `NewNotice`. -/
def resultsOf (library : Library) (context : Context) (found : Option Tree) :
    Except Failure (Option Document) :=
  match found with
  | none => .ok none
  | some .null => .ok none
  | some results =>
      (wrap "(NewNotice) NewJob_documentFromNamedTypes returns "
        (newJobDocumentFromNamedTypes library context results)).map some

/-- `NewNotice`, of a map. -/
def newNotice (library : Library) (context : Context) (nativeMap : List (String × Tree)) :
    Except Failure Notice :=
  match resultsOf library context (nativeMap.lookup "results") with
  | .error failure => .error failure
  | .ok results =>
      match nativeMap.lookup "id" with
      | none => .error (.error "(NewNotice) id is missing")
      | some id =>
          match wrap "(NewNotice) New_Workunit_Unique_Identifier_from_interface returned: "
              (fromInterface library.toVisits id) with
          | .error failure => .error failure
          | .ok (task, rank) =>
              match nativeMap.lookup "status" with
              | none => .error (.error "(NewNotice) status is missing")
              | some status =>
                  .ok
                    { task
                      rank
                      workerID := assertString (nativeMap.lookup "worker_id")
                      results
                      status := assertString (some status)
                      computeTime := assertInt (nativeMap.lookup "computetime")
                      notes := ""
                      stderr := "" }

/-- What has to be the same on the other side. The results have to be equal as documents, name by
name and value by value. -/
structure Same (sent received : Notice) : Prop where
  task : received.task = sent.task
  rank : received.rank = sent.rank
  workerID : received.workerID = sent.workerID
  status : received.status = sent.status
  computeTime : received.computeTime = sent.computeTime
  results : received.results = sent.results

/-- A number that is written and read again as a rank. -/
def reread (value : Int64) : Int64 :=
  Int64.ofInt (doubleOf value.toInt)

section

variable {shortest : Digits} {library : Library} {context : Context} {notice : Notice}

theorem fromInterface_marshalID (visits : Visits) :
    fromInterface visits (marshalID notice) = .ok (notice.task, reread notice.rank) := by
  have converted : intOf (some (number notice.rank)) = reread notice.rank := by
    unfold number intOf reread
    dsimp only
    rw [Rat.num_intCast, Rat.den_intCast, Int.ofNat_one, Int.tdiv_one]
  have fits (order : List String) : decodesStructIn order identifierStruct
      [("task_name", .text notice.task.taskName),
      ("jobid", .text notice.task.jobId), ("rank", number notice.rank)] = true := rfl
  have rank (order : List String) :
      findFieldIn order "rank" [("task_name", .text notice.task.taskName),
      ("jobid", .text notice.task.jobId), ("rank", number notice.rank)] = some
          (number notice.rank) := rfl
  unfold marshalID fromInterface
  dsimp only
  rw [rank, converted, fits]
  rfl

/-- What is read from the object behind the results. -/
theorem newNotice_present {results : Tree} :
    newNotice library context (present (noticeTable notice results)) =
    match resultsOf library context (some results) with
    | .error failure => .error failure
    | .ok document =>
        if notice.status = "" then .error (.error "(NewNotice) status is missing")
        else .ok ⟨notice.task, reread notice.rank, notice.workerID, document, notice.status,
            0, "", ""⟩ := by
  have distinct : ((noticeTable notice results).map fun entry => folded entry.1).Nodup :=
    (by decide : (["id", "worker_id", "results", "status", "computetime", "Notes", "Stderr"].map folded).Nodup)
  have found {key : String} {entry : Option Tree}
      (member : (key, entry) ∈ noticeTable notice results) :
      (present (noticeTable notice results)).lookup key = entry := lookup_present distinct member
  have id : (present (noticeTable notice results)).lookup "id" = some (marshalID notice) :=
      found (by simp [noticeTable])
  have worker : (present (noticeTable notice results)).lookup "worker_id" = some
      (.text notice.workerID) :=
    found (by simp [noticeTable])
  have result : (present (noticeTable notice results)).lookup "results" = some results :=
      found (by simp [noticeTable])
  have status : (present (noticeTable notice results)).lookup "status" = textEntry notice.status :=
    found (by simp [noticeTable])
  have time : assertInt ((present (noticeTable notice results)).lookup "computetime") = 0 := by
    rw [@found "computetime" (if notice.computeTime = 0 then none else
        some (number notice.computeTime))
      (by simp [noticeTable])]
    split <;> rfl
  unfold newNotice
  rw [id, worker, result, status, time]
  cases resultsOf library context (some results) with
  | error failure => rfl
  | ok document =>
      dsimp only
      rw [fromInterface_marshalID]
      dsimp only [wrap]
      unfold textEntry
      by_cases missing : notice.status = ""
      · rw [if_pos missing, if_pos missing]
      · rw [if_neg missing, if_neg missing]
        rfl

end

/-- A notice comes out of the request as it was put in, in every run, exactly if it has a status
and no compute time, the rank is a double, and the results are missing or survive.  A JSON number
is a double to the reader: the compute time is asserted to be an `int` and lost, and a rank goes
through a double and back. -/
theorem notice_round_trip_iff (shortest : Digits) (library : Library) (context : Context)
    (notice : Notice) :
    (Exists fun wire => marshalNotice shortest notice = some wire ∧ forall visits,
        Exists fun received =>
      newNotice (library.visiting visits) context wire = .ok received ∧ Same notice received) ↔
    notice.status ≠ "" ∧ notice.computeTime = 0 ∧ reread notice.rank = notice.rank ∧
      forall document, notice.results = some document -> DocumentSurvives library document := by
  have sent {library : Library} {results : Tree} {document : Option Document}
      (given : notice.results = document)
      (read : resultsOf library context (some results) = .ok document) :
      (Exists fun received => newNotice library context (present (noticeTable notice results)) =
          .ok received ∧
        Same notice received) ↔ notice.status ≠ "" ∧ notice.computeTime = 0 ∧
            reread notice.rank = notice.rank := by
    rw [newNotice_present, read]
    dsimp only
    constructor
    · rintro ⟨received, done, same⟩
      by_cases missing : notice.status = ""
      · rw [if_pos missing] at done
        cases done
      · rw [if_neg missing] at done
        cases done
        exact ⟨missing, same.computeTime.symm, same.rank⟩
    · rintro ⟨status, time, rank⟩
      refine ⟨_, if_neg status, ⟨rfl, rank, rfl, rfl, time.symm, given.symm⟩⟩
  cases given : notice.results with
  | none =>
      unfold marshalNotice
      rw [given]
      constructor
      · rintro ⟨wire, written, round⟩
        cases written
        rcases (@sent (library.visiting {}) .null none given rfl).mp (round {}) with
            ⟨status, time, rank⟩
        exact ⟨status, time, rank, fun _ impossible => (by cases impossible)⟩
      · rintro ⟨status, time, rank, _⟩
        refine ⟨_, rfl, fun visits => ?_⟩
        exact (@sent (library.visiting visits) .null none given rfl).mpr ⟨status, time, rank⟩
  | some document =>
      have listed {library : Library} {results : Tree}
          (written : marshalDocument shortest document = some results) :
          resultsOf library context (some results) =
            (wrap "(NewNotice) NewJob_documentFromNamedTypes returns "
              (newJobDocumentFromNamedTypes library context results)).map some := by
        rcases Option.map_eq_some_iff.mp written with ⟨elements, _, rfl⟩
        rfl
      -- what is received has the results of the document
      have read {library : Library} {results : Tree} {received : Notice}
          (written : marshalDocument shortest document = some results)
          (done : newNotice library context (present (noticeTable notice results)) = .ok received)
          (same : Same notice received) : newJobDocumentFromNamedTypes library context results =
          .ok document := by
        have back := @listed library results written
        cases parsed : newJobDocumentFromNamedTypes library context results with
        | error failure =>
            rw [newNotice_present, back, parsed] at done
            cases failure <;> cases done
        | ok found =>
            rw [newNotice_present, back, parsed] at done
            dsimp only [wrap, Except.map] at done
            split at done
            · cases done
            · cases done
              exact congrArg Except.ok (Option.some.inj (same.results.trans given))
      unfold marshalNotice
      rw [given]
      constructor
      · rintro ⟨wire, written, round⟩
        rcases Option.map_eq_some_iff.mp written with ⟨results, marshalled, rfl⟩
        have parsed (visits : Visits) : newJobDocumentFromNamedTypes (library.visiting visits)
            context results =
            .ok document := by
          rcases round visits with ⟨received, done, same⟩
          exact read marshalled done same
        have back := @listed (library.visiting {}) results marshalled
        rw [parsed {}] at back
        rcases (sent given back).mp (round {}) with ⟨status, time, rank⟩
        refine ⟨status, time, rank, fun other again => ?_⟩
        cases again
        exact document_survives_iff.mp ⟨results, marshalled, parsed⟩
      · rintro ⟨status, time, rank, survives⟩
        rcases (@document_survives_iff shortest library context document).mpr
            (survives document rfl) with
          ⟨results, marshalled, parsed⟩
        refine ⟨_, by dsimp only; rw [marshalled]; rfl, fun visits => ?_⟩
        have back := @listed (library.visiting visits) results marshalled
        rw [parsed visits] at back
        exact (sent given back).mpr ⟨status, time, rank⟩

private def timedNotice : Notice :=
  ⟨⟨"#main/a", "6ba7b810-9dad-41d1-80b4-00c04fd430c8"⟩, 0, "worker", none, "done", 60, "", ""⟩

private def noLibrary : Library where
  sha1 := fun _ => ""
  parseURL := fun _ => none

private def asTheyAre : Digits where
  value := id
  within := fun value within => within.trans (by decide +kernel)

/-- A notice of a minute of work comes out with no compute time. -/
theorem compute_time_lost : Exists fun wire => Exists fun received =>
    marshalNotice asTheyAre timedNotice = some wire ∧ newNotice noLibrary .nil wire = .ok received ∧
      received.computeTime = 0 ∧ timedNotice.computeTime = 60 ∧ ¬Same timedNotice received := by
  refine ⟨_, ⟨timedNotice.task, reread 0, "worker", none, "done", 0, "", ""⟩, rfl,
      newNotice_present, rfl, rfl, ?_⟩
  intro same
  exact absurd same.computeTime (by decide)

end NoticeWire
end Cwl
end Awe
