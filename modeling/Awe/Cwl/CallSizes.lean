import Awe.Cwl.Calls

namespace Awe
namespace Cwl
namespace Panics

open Lib Lib.Path Natives Cwl.Types Requirements Calls

/-!
# The sizes of calls

A call is made on a tree, and the calls that it makes are made on parts of the
tree or are simpler calls on the same tree.  `size` is a measure in which every
call exceeds those that it makes, so a chain of calls ends.
-/

mutual

/-- The number of trees in a tree, keys not counted. -/
def weight : Tree -> Nat
  | .list elements => weightOfList elements + 1
  | .anyMap entries => weightOfEntries entries + 1
  | .strMap fields => weightOfFields fields + 1
  | _ => 1

def weightOfList : List Tree -> Nat
  | [] => 0
  | tree :: rest => weight tree + weightOfList rest

def weightOfEntries : List (Tree × Tree) -> Nat
  | [] => 0
  | (_, tree) :: rest => weight tree + weightOfEntries rest

def weightOfFields : List (String × Tree) -> Nat
  | [] => 0
  | (_, tree) :: rest => weight tree + weightOfFields rest

end

/-- The size of a call, in which every call exceeds those that it makes on the
same tree. -/
@[simp]
def size (yaml : Yaml) : Call -> Nat
  | .map _ _ => 0
  | .typeName _ _ _ => 0
  | .value _ tree _ => 10 * weight tree + 1
  | .fileOrDirectory _ tree => 10 * weight tree + 2
  | .listing _ tree => 10 * weight tree + 3
  | .items _ fields _ => 10 * weightOfFields fields + 11
  | .fieldTypes _ fields _ => 10 * weightOfFields fields + 11
  | .schema _ fields _ => 10 * weightOfFields fields + 12
  | .types _ tree _ => 10 * weight tree + 4
  | .type _ tree _ => 10 * weight tree + 4
  | .field _ tree _ => 10 * weight tree + 4
  | .fields _ tree _ => 10 * weight tree + 4
  | .requirement _ _ tree => 10 * weight tree + 5
  | .requirementObject _ tree => 10 * weight tree + 6
  | .hint call => size yaml call + 1
  | .requirements _ tree _ => 10 * weight tree + 7
  | .document _ tree => 10 * weight tree + 7
  | .job input => ((jobTree yaml input).map fun tree => 10 * weight tree + 8).getD 0
  | .named _ tree => 10 * weight tree + 2
  | .results _ tree => 10 * weight tree + 7

section

theorem weight_le_of_mem {elements : List Tree} {tree : Tree} (member : tree ∈ elements) :
    weight tree <= weightOfList elements := by
  induction elements with
  | nil => cases member
  | cons head tail inductionHypothesis =>
      rw [weightOfList]
      rcases List.mem_cons.mp member with rfl | later
      · omega
      · have := inductionHypothesis later
        omega

theorem weight_le_of_mem_fields {fields : List (String × Tree)} {field : String × Tree}
    (member : field ∈ fields) :
    weight field.2 <= weightOfFields fields := by
  induction fields with
  | nil => cases member
  | cons head tail inductionHypothesis =>
      rw [weightOfFields]
      rcases List.mem_cons.mp member with rfl | later
      · omega
      · have := inductionHypothesis later
        omega

theorem weight_le_of_lookup {fields : List (String × Tree)} {key : String} {tree : Tree}
    (found : fields.lookup key = some tree) : weight tree <= weightOfFields fields :=
  weight_le_of_mem_fields (mem_of_lookup found)

theorem weight_stringKeys {entries : List (Tree × Tree)} {fields : List (String × Tree)}
    (read : stringKeys entries = .ok fields) : weightOfFields fields = weightOfEntries entries := by
  induction entries generalizing fields with
  | nil =>
      cases read
      rw [weightOfFields, weightOfEntries]
  | cons entry rest inductionHypothesis =>
      rcases entry with ⟨key, tree⟩
      cases key with
      | text key =>
          rw [stringKeys] at read
          cases others : stringKeys rest with
          | error failure =>
              rw [others] at read
              cases read
          | ok found =>
              rw [others] at read
              cases read
              rw [weightOfFields, weightOfEntries, inductionHypothesis others]
      | _ => cases read

theorem makeStringMap_cases {context : Context} {tree result : Tree}
    (read : makeStringMap context tree = .ok result) :
    (Exists fun entries => Exists fun fields =>
      tree = .anyMap entries ∧ stringKeys entries = .ok fields ∧ result = .strMap fields) ∨
          result = tree := by
  cases tree with
  | anyMap entries =>
      rw [makeStringMap] at read
      cases found : stringKeys entries with
      | error failure =>
          rw [found] at read
          cases read
      | ok fields =>
          rw [found] at read
          cases read
          exact Or.inl ⟨entries, fields, rfl, found, rfl⟩
  | strMap fields =>
      rw [makeStringMap] at read
      cases imported : checkImport context (fields.lookup "$import") with
      | error failure =>
          rw [imported] at read
          cases read
      | ok passed =>
          rw [imported] at read
          cases read
          exact Or.inr rfl
  | _ =>
      cases read
      exact Or.inr rfl

theorem weight_makeStringMap {context : Context} {tree result : Tree}
    (read : makeStringMap context tree = .ok result) :
    weight result = weight tree := by
  rcases makeStringMap_cases read with ⟨entries, fields, rfl, found, rfl⟩ | rfl
  · rw [weight, weight, weight_stringKeys found]
  · rfl

theorem opened_eq_some {context : Context} {tree : Tree} {fields : List (String × Tree)} :
    opened context tree = some fields ↔ makeStringMap context tree = .ok (.strMap fields) := by
  unfold opened
  cases makeStringMap context tree with
  | error failure => simp
  | ok result => cases result <;> simp

theorem weight_opened {context : Context} {tree : Tree} {fields : List (String × Tree)}
    (read : opened context tree = some fields) : weightOfFields fields + 1 = weight tree := by
  rw [<- weight_makeStringMap (opened_eq_some.mp read), weight]

/-- The calls that are made if something is there. -/
theorem mem_getD_map {A C : Type} {found : Option A} {calls : A -> List C} {call : C} :
    call ∈ (found.map calls).getD [] ↔ Exists fun value => found = some value ∧
    call ∈ calls value := by
  cases found <;> simp

end

/-! ### What a plan lists -/

section

variable {yaml : Yaml} {library : Library} {left : Leaving} {context : Context}
    {fields : List (String × Tree)} {call : Call}

theorem size_planOfBinding {key : String} (made : call ∈ planOfBinding context key fields) :
    size yaml call = 0 := by
  rcases mem_getD_map.mp made with ⟨tree, _, only⟩
  rw [List.mem_singleton.mp only, size]

theorem size_planOfValue (made : call ∈ planOfValue library context fields) :
    size yaml call < 10 * weightOfFields fields + 11 := by
  have files {key : String} (made : call ∈ filesOf context (fields.lookup key)) :
      size yaml call < 10 * weightOfFields fields + 11 := by
    unfold filesOf at made
    rcases List.mem_map.mp made with ⟨element, member, rfl⟩
    rcases mem_getD_map.mp member with ⟨tree, found, member⟩
    have small := weight_le_of_lookup found
    cases tree with
    | list elements =>
        have := weight_le_of_mem (show element ∈ elements from member)
        rw [weight] at small
        rw [size]
        omega
    | _ => cases member
  have single {key : String} (made : call ∈ singleListing context (fields.lookup key)) :
      size yaml call < 10 * weightOfFields fields + 11 := by
    cases found : fields.lookup key with
    | none =>
        rw [found] at made
        cases made
    | some tree =>
        have small := weight_le_of_lookup found
        rw [found] at made
        cases tree with
        | list elements => cases made
        | _ =>
            rw [List.mem_singleton.mp made, size]
            omega
  unfold planOfValue at made
  split at made
  · cases made
  · split at made
    · cases made
    · split at made
      · exact files made
      · split at made
        · cases made
        · split at made
          · cases made
          · split at made
            · rcases List.mem_append.mp made with listed | alone
              · exact files listed
              · exact single alone
            · rcases List.mem_cons.mp made with rfl | later
              · rw [size]
                omega
              · rcases List.mem_map.mp later with ⟨field, member, rfl⟩
                have := weight_le_of_mem_fields member
                rw [size]
                omega

theorem size_entry {key : String} {calls : Tree -> List Call}
    (made : call ∈ ((fields.lookup key).map calls).getD [])
    (small : forall tree, call ∈ calls tree -> size yaml call <= 10 * weight tree + 4) :
    size yaml call < 10 * weightOfFields fields + 11 := by
  rcases mem_getD_map.mp made with ⟨tree, found, listed⟩
  have := weight_le_of_lookup found
  have := small tree listed
  omega

theorem size_planOfArray {role : Role} (made : call ∈ planOfArray context fields role) :
    size yaml call < 10 * weightOfFields fields + 12 := by
  have bound {key : String} {role : Role} (made : call ∈ Call.map context (.strMap fields) ::
      .items context fields role :: planOfBinding context key fields) : size yaml call <
          10 * weightOfFields fields + 12 := by
    rcases List.mem_cons.mp made with rfl | later
    · rw [size]
      omega
    · rcases List.mem_cons.mp later with rfl | binding
      · rw [size]
        omega
      · rw [size_planOfBinding binding]
        omega
  cases role with
  | workflowOutput => cases made
  | commandOutput =>
      rcases List.mem_cons.mp made with rfl | later
      · rw [size]
        omega
      · refine Nat.lt_succ_of_lt (size_entry later fun tree only => ?_)
        rw [List.mem_singleton.mp only, size]
  | input => exact bound made
  | output => exact bound made
  | expressionToolOutput => exact bound made
  | commandInput => exact bound made

theorem size_planOfRecordFields {role : RecordRole}
    (made : call ∈ planOfRecordFields context fields role) :
    size yaml call < 10 * weightOfFields fields + 11 := by
  unfold planOfRecordFields at made
  split at made
  · refine size_entry made fun tree only => ?_
    rw [List.mem_singleton.mp only, size]
  · cases made

theorem size_planOfListedFields {role : RecordRole}
    (made : call ∈ planOfListedFields context fields role) :
    size yaml call < 10 * weightOfFields fields + 11 := by
  unfold planOfListedFields at made
  split at made
  · exact size_planOfRecordFields made
  · cases made

theorem size_planOfRecord {role : Role} (made : call ∈ planOfRecord context fields role) :
    size yaml call < 10 * weightOfFields fields + 12 := by
  have bound {rest : List Call} (made : call ∈ Call.map context (.strMap fields) :: rest)
      (small : call ∈ rest -> size yaml call < 10 * weightOfFields fields + 11) :
      size yaml call < 10 * weightOfFields fields + 12 := by
    rcases List.mem_cons.mp made with rfl | later
    · rw [size]
      omega
    · have := small later
      omega
  cases role with
  | workflowOutput => cases made
  | input => exact bound made size_planOfRecordFields
  | commandInput => exact bound made size_planOfRecordFields
  | output => exact bound made size_planOfListedFields
  | expressionToolOutput => exact bound made size_planOfListedFields
  | commandOutput => exact bound made size_planOfListedFields

theorem size_planOfEnum {role : Role} (made : call ∈ planOfEnum context fields role) :
    size yaml call = 0 := by
  have bound (made : call ∈ Call.map context (.strMap fields) ::
      if decodesStruct enumStruct fields then planOfBinding context "inputBinding" fields else []) :
      size yaml call = 0 := by
    rcases List.mem_cons.mp made with rfl | later
    · rw [size]
    · split at later
      · exact size_planOfBinding later
      · cases later
  cases role with
  | input => exact bound made
  | commandInput => exact bound made
  | output => rw [List.mem_singleton.mp made, size]
  | expressionToolOutput => rw [List.mem_singleton.mp made, size]
  | _ => cases made

theorem size_planOfSchema {role : Role} (made : call ∈ planOfSchema context fields role) :
    size yaml call < 10 * weightOfFields fields + 12 := by
  unfold planOfSchema at made
  split at made
  · split at made
    · exact size_planOfArray made
    · split at made
      · exact size_planOfRecord made
      · split at made
        · rw [size_planOfEnum made]
          omega
        · cases made
  · cases made

theorem size_planOfFieldTypes {role : RecordRole}
    (made : call ∈ planOfFieldTypes context fields role) :
    size yaml call < 10 * weightOfFields fields + 11 := by
  rcases List.mem_cons.mp made with rfl | later
  · rw [size]
    omega
  · split at later
    · refine size_entry later fun tree only => ?_
      rw [List.mem_singleton.mp only, size]
    · cases later

theorem size_planOfListing {tree : Tree} (made : call ∈ planOfListing context tree) :
    size yaml call <= 10 * weight tree + 4 := by
  cases tree with
  | null => cases made
  | list elements =>
      rcases List.mem_map.mp made with ⟨element, member, rfl⟩
      have := weight_le_of_mem member
      rw [size, weight]
      omega
  | _ =>
      rw [List.mem_singleton.mp made, size]
      omega

theorem size_planOfRequirement {className : String} {tree : Tree}
    (made : call ∈ planOfRequirement context className tree) :
    size yaml call < 10 * weight tree + 5 := by
  have bound {key : String} {calls : Tree -> List Call} (made : call ∈ Call.map context tree ::
      (((opened context tree).bind fun fields => fields.lookup key).map calls).getD [])
      (small : forall tree, call ∈ calls tree -> size yaml call <= 10 * weight tree + 4) :
      size yaml call < 10 * weight tree + 5 := by
    rcases List.mem_cons.mp made with rfl | later
    · rw [size]
      omega
    · rcases mem_getD_map.mp later with ⟨entry, found, listed⟩
      rcases Option.bind_eq_some_iff.mp found with ⟨fields, read, found⟩
      have := weight_opened read
      have := weight_le_of_lookup found
      have := small entry listed
      omega
  unfold planOfRequirement at made
  split at made
  · rw [List.mem_singleton.mp made, size]
    omega
  · split at made
    · refine bound made fun entry only => ?_
      rw [List.mem_singleton.mp only, size]
      omega
    · split at made
      · exact bound made fun entry => size_planOfListing
      · split at made
        · refine bound made fun entry only => ?_
          rw [List.mem_singleton.mp only, size]
        · cases made

theorem size_attempted {optional : Bool} :
    size yaml (attempted optional call) <= size yaml call + 1 := by
  cases optional with
  | true => exact Nat.le_refl _
  | false => exact Nat.le_succ _

theorem size_planOfNamed (made : call ∈ planOfNamed context fields) :
    size yaml call <= 10 * weightOfFields fields + 1 := by
  unfold planOfNamed at made
  cases found : fields.lookup "value" with
  | none =>
      rw [found] at made
      cases made
  | some tree =>
      have small := weight_le_of_lookup found
      rw [found] at made
      rcases List.mem_cons.mp made with rfl | later
      · rw [size]
        omega
      · cases read : makeStringMap context tree with
        | error failure =>
            rw [read] at later
            cases later
        | ok value =>
            rw [read] at later
            dsimp only at later
            split at later
            · rw [List.mem_singleton.mp later, size, weight_makeStringMap read]
              omega
            · cases later

theorem size_planOfEntries {optional : Bool}
    (made : call ∈ planOfEntries left optional fields context) :
    size yaml call <= 10 * weightOfFields fields + 6 := by
  induction fields generalizing context with
  | nil => cases made
  | cons field rest inductionHypothesis =>
      rcases field with ⟨className, tree⟩
      rw [weightOfFields]
      rcases List.mem_cons.mp made with rfl | later
      · have := @size_attempted yaml (.requirement context className tree) optional
        rw [size] at this
        omega
      · have := inductionHypothesis later
        omega

theorem size_planOfObjects {optional : Bool} {elements : List Tree}
    (made : call ∈ planOfObjects left optional elements context) :
    size yaml call <= 10 * weightOfList elements + 7 := by
  induction elements generalizing context with
  | nil => cases made
  | cons tree rest inductionHypothesis =>
      rw [weightOfList]
      rcases List.mem_cons.mp made with rfl | later
      · have := @size_attempted yaml (.requirementObject context tree) optional
        rw [size] at this
        omega
      · have := inductionHypothesis later
        omega

end

section

variable {yaml : Yaml} {library : Library} {left : Leaving} {context : Context} {sub : Call}

theorem size_of_elements {elements : List Tree} {calls : Tree -> Call}
    (made : sub ∈ elements.map calls)
    (small : forall element, size yaml (calls element) <= 10 * weight element + 6) :
    size yaml sub < 10 * weight (.list elements) + 1 := by
  rcases List.mem_map.mp made with ⟨element, member, rfl⟩
  have := weight_le_of_mem member
  have := small element
  rw [weight]
  omega

theorem size_of_opened {tree : Tree} {calls : List (String × Tree) -> List Call}
    (made : sub ∈ ((opened context tree).map calls).getD [])
    (small : forall fields, sub ∈ calls fields -> size yaml sub < 10 * weightOfFields fields + 14) :
    size yaml sub < 10 * weight tree + 4 := by
  rcases mem_getD_map.mp made with ⟨fields, read, listed⟩
  have := weight_opened read
  have := small fields listed
  omega

theorem size_of_fields {fields : List (String × Tree)} {calls : String × Tree -> Call}
    (made : sub ∈ fields.map calls)
    (small : forall field, size yaml (calls field) <= 10 * weight field.2 + 6) :
    size yaml sub < 10 * weightOfFields fields + 11 := by
  rcases List.mem_map.mp made with ⟨field, member, rfl⟩
  have := weight_le_of_mem_fields member
  have := small field
  omega

/-- Every call is larger than the ones it makes. -/
theorem size_lt_of_mem_plan (call sub : Call) (made : sub ∈ plan library yaml left call) :
    size yaml sub < size yaml call := by
  have map {context : Context} {tree : Tree} {bound : Nat} (same : sub = .map context tree) :
      size yaml sub < bound + 1 := by
    rw [same, size]
    omega
  cases call with
  | map context tree => cases made
  | typeName context native role => cases made
  | value context tree name =>
      rcases List.mem_cons.mp made with same | later
      · exact map same
      · cases tree with
        | list elements => exact size_of_elements later fun element => by rw [size]; omega
        | _ =>
            rcases mem_getD_map.mp later with ⟨fields, read, listed⟩
            have := weight_opened read
            have := @size_planOfValue yaml _ _ _ _ listed
            change size yaml sub < 10 * weight _ + 1
            omega
  | fileOrDirectory context tree =>
      rw [List.mem_singleton.mp made, size, size]
      omega
  | types context tree role =>
      rcases List.mem_cons.mp made with same | later
      · exact map same
      · cases tree with
        | text native => exact (by rw [List.mem_singleton.mp later, size, size]; omega)
        | list elements =>
            have := size_of_elements later fun element =>
                (by rw [size]; omega : size yaml (.type context element role) <= _)
            change size yaml sub < 10 * weight _ + 4
            omega
        | _ =>
            refine size_of_opened later fun fields listed => ?_
            rcases List.mem_cons.mp listed with same | last
            · exact map same
            · rw [List.mem_singleton.mp last, size]
              omega
  | type context tree role =>
      rcases List.mem_cons.mp made with same | later
      · exact map same
      · cases tree with
        | text native => exact (by rw [List.mem_singleton.mp later, size, size]; omega)
        | _ =>
            refine size_of_opened later fun fields only => ?_
            rw [List.mem_singleton.mp only, size]
            omega
  | schema context fields role => exact size_planOfSchema made
  | items context fields role =>
      refine size_entry made fun tree only => ?_
      rw [List.mem_singleton.mp only, size]
  | fieldTypes context fields role => exact size_planOfFieldTypes made
  | field context tree role =>
      rcases List.mem_cons.mp made with same | later
      · exact map same
      · cases tree with
        | list elements =>
            have := size_of_elements later fun element =>
              (by rw [size]; omega : size yaml (.type context element role.role) <= _)
            change size yaml sub < 10 * weight _ + 4
            omega
        | _ =>
            refine size_of_opened later fun fields listed => ?_
            rcases List.mem_cons.mp listed with rfl | binding
            · rw [size]
              omega
            · rw [size_planOfBinding binding]
              omega
  | fields context tree role =>
      rcases List.mem_cons.mp made with same | later
      · exact map same
      · cases tree with
        | list elements =>
            have := size_of_elements later fun element =>
                (by rw [size]; omega : size yaml (.field context element role) <= _)
            change size yaml sub < 10 * weight _ + 4
            omega
        | _ =>
            refine size_of_opened later fun fields listed => ?_
            have := size_of_fields listed fun field =>
                (by rw [size]; omega : size yaml (.field context field.2 role) <= _)
            omega
  | listing context tree =>
      rcases List.mem_cons.mp made with same | later
      · exact map same
      · change size yaml sub < 10 * weight tree + 3
        cases read : makeStringMap context tree with
        | error failure =>
            rw [read] at later
            cases later
        | ok result =>
            have same := weight_makeStringMap read
            rw [read] at later
            cases result with
            | strMap fields =>
                simp only at later
                split at later
                · cases later
                · rw [List.mem_singleton.mp later, size, same]
                  omega
            | _ =>
                rw [List.mem_singleton.mp later, size, same]
                omega
  | requirement context className tree => exact size_planOfRequirement made
  | requirementObject context tree =>
      rcases List.mem_cons.mp made with same | later
      · exact map same
      · rcases mem_getD_map.mp later with ⟨fields, read, listed⟩
        have := weight_opened read
        split at listed
        · cases listed
        · rw [List.mem_singleton.mp listed, size, size, weight]
          omega
  | hint call =>
      rw [List.mem_singleton.mp made]
      exact Nat.lt_succ_self _
  | requirements context tree optional =>
      rcases List.mem_cons.mp made with same | later
      · exact map same
      · cases tree with
        | list elements =>
            have := @size_planOfObjects yaml _ _ _ _ _ later
            change size yaml sub < 10 * weight (.list elements) + 7
            rw [weight]
            omega
        | _ =>
            have := size_of_opened later fun fields listed => (by
              have := @size_planOfEntries yaml _ _ _ _ _ listed
              omega : size yaml sub < _)
            change size yaml sub < 10 * weight _ + 7
            omega
  | document context tree =>
      rcases List.mem_cons.mp made with same | later
      · exact map same
      · cases tree with
        | list elements =>
            have := size_of_elements later fun element =>
                (by rw [size]; omega : size yaml (.value context element "") <= _)
            change size yaml sub < 10 * weight _ + 7
            omega
        | _ =>
            have := size_of_opened later fun fields listed => (by
              have := size_of_fields listed fun field =>
                (by rw [size]; omega : size yaml (.value context field.2 field.1) <= _)
              omega : size yaml sub < _)
            change size yaml sub < 10 * weight _ + 7
            omega
  | job input =>
      rcases mem_getD_map.mp made with ⟨tree, read, only⟩
      rw [List.mem_singleton.mp only, size, size, read]
      exact Nat.lt_succ_self _
  | named context tree =>
      rcases List.mem_cons.mp made with same | later
      · exact map same
      · rcases mem_getD_map.mp later with ⟨fields, read, listed⟩
        have := weight_opened read
        have := @size_planOfNamed yaml _ _ _ listed
        rw [size]
        omega
  | results context tree =>
      rcases List.mem_cons.mp made with same | later
      · exact map same
      · cases tree with
        | list elements =>
            have := size_of_elements later fun element =>
                (by rw [size]; omega : size yaml (.named context element) <= _)
            change size yaml sub < 10 * weight _ + 7
            omega
        | _ => cases later

end

end Panics
end Cwl
end Awe
