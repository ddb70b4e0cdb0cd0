import Awe.Lib.GoMap
import Mathlib.Data.List.Perm.Basic

namespace Awe
namespace Lib
namespace KeyedWrites

/-!
# Loops that write under keys of their own

A loop computes a value for each element of a list, or nothing, and writes it
into a map under the key of the element; it stops at its first error.  If the
keys are different and the computations do not look at the map, the order of
the list has no influence on the result.
-/

variable {A K V E : Type} [DecidableEq K]

/-- Two maps with the same content. -/
def Same (first second : GoMap K V) : Prop :=
  forall key, first.lookup key = second.lookup key

theorem Same.symm {first second : GoMap K V} (same : Same first second) : Same second first :=
  fun key => (same key).symm

theorem Same.trans {first second third : GoMap K V} (same : Same first second)
    (also : Same second third) :
    Same first third :=
  fun key => (same key).trans (also key)

/-- Writing what is there changes nothing. -/
theorem Same.of_insert {first : GoMap K V} {key : K} {value : V}
    (there : first.lookup key = some value) :
    Same (first.insert key value) first := by
  intro other
  rw [GoMap.lookup_insert_if]
  split
  · next same => rw [same, there]
  · rfl

/-- Two results with the same status and, if they are maps, the same content. -/
def SameResult : Except E (GoMap K V) -> Except E (GoMap K V) -> Prop
  | .ok first, .ok second => Same first second
  | .error _, .error _ => True
  | _, _ => False

theorem SameResult.symm {first second : Except E (GoMap K V)} (same : SameResult first second) :
    SameResult second first := by
  cases first with
  | error err =>
      cases second with
      | error other => trivial
      | ok map => exact absurd same id
  | ok map =>
      cases second with
      | error other => exact absurd same id
      | ok other => exact Same.symm same

theorem SameResult.trans {first second third : Except E (GoMap K V)}
    (same : SameResult first second) (also : SameResult second third) : SameResult first third := by
  cases first with
  | error err =>
      cases second with
      | error other =>
          cases third with
          | error last => trivial
          | ok map => exact absurd also id
      | ok map => exact absurd same id
  | ok map =>
      cases second with
      | error other => exact absurd same id
      | ok other =>
          cases third with
          | error err => exact absurd also id
          | ok last => exact Same.trans same also

variable (key : A -> K) (compute : A -> Except E (Option V))

/-- The loop. Each element is written under its own key, with a value that does not depend on the
map. -/
def writeAll : GoMap K V -> List A -> Except E (GoMap K V)
  | map, [] => .ok map
  | map, element :: rest =>
      match compute element with
      | .error err => .error err
      | .ok none => writeAll map rest
      | .ok (some value) => writeAll (map.insert (key element) value) rest

variable {key compute}

/-- The loop fails exactly if one of its rounds does; otherwise every element
has its value. -/
theorem writeAll_cases {elements : List A} (distinct : (elements.map key).Nodup) (map : GoMap K V) :
    ((Exists fun err => writeAll key compute map elements = .error err) ∧
      Exists fun element => element ∈ elements ∧ Exists fun err => compute element = .error err) ∨
    Exists fun last => writeAll key compute map elements = .ok last ∧
      (forall element, element ∈ elements -> Exists fun value => compute element = .ok value ∧
        last.lookup (key element) = (value <|> map.lookup (key element))) ∧
      forall other, other ∉ elements.map key -> last.lookup other = map.lookup other := by
  induction elements generalizing map with
  | nil => exact Or.inr ⟨map, rfl, fun _ absent => (nomatch absent), fun _ _ => rfl⟩
  | cons element rest inductionHypothesis =>
      rw [List.map_cons, List.nodup_cons] at distinct
      unfold writeAll
      cases computed : compute element with
      | error err => exact Or.inl ⟨⟨err, rfl⟩, element, List.mem_cons_self, err, computed⟩
      | ok value =>
          obtain ⟨next, goesOn, own, others⟩ : Exists fun next : GoMap K V =>
              (match (Except.ok value : Except E (Option V)) with
                | .error err => .error err
                | .ok none => writeAll key compute map rest
                | .ok (some value) => writeAll key compute (map.insert (key element) value) rest) =
                writeAll key compute next rest ∧
              next.lookup (key element) = (value <|> map.lookup (key element)) ∧
              forall other, other ≠ key element -> next.lookup other = map.lookup other := by
            cases value with
            | none => exact ⟨map, rfl, rfl, fun _ _ => rfl⟩
            | some value =>
                refine ⟨map.insert (key element) value, rfl, AList.lookup_insert _,
                    fun other different => ?_⟩
                rw [GoMap.lookup_insert_if, if_neg different]
          rw [goesOn]
          rcases inductionHypothesis distinct.2 next with ⟨fails, later, member, isError⟩ |
            ⟨last, passed, values, untouched⟩
          · exact Or.inl ⟨fails, later, List.mem_cons_of_mem _ member, isError⟩
          · refine Or.inr ⟨last, passed, fun other member => ?_, fun other missing => ?_⟩
            · rcases List.mem_cons.mp member with rfl | behind
              · exact ⟨value, computed, by rw [untouched _ distinct.1, own]⟩
              · rcases values other behind with ⟨found, isFound, written⟩
                have different : key other ≠ key element := by
                  intro same
                  exact distinct.1 (List.mem_map.mpr ⟨other, behind, same⟩)
                rw [others _ different] at written
                exact ⟨found, isFound, written⟩
            · rw [List.map_cons, List.mem_cons, not_or] at missing
              rw [untouched other missing.2, others other missing.1]

/-- Only the computations for the elements matter. -/
theorem writeAll_congr {elements : List A} {other : A -> Except E (Option V)}
    (same : forall element, element ∈ elements -> compute element = other element)
    (map : GoMap K V) :
    writeAll key compute map elements = writeAll key other map elements := by
  induction elements generalizing map with
  | nil => rfl
  | cons element rest inductionHypothesis =>
      have later (map : GoMap K V) :=
        inductionHypothesis (fun other member => same other (List.mem_cons_of_mem _ member)) map
      unfold writeAll
      rw [same element List.mem_cons_self]
      cases other element with
      | error err => rfl
      | ok value =>
          cases value with
          | none => exact later map
          | some value => exact later _

/-- The order of the elements has no influence. The maps may differ as representations, which is
why they are compared by their content. -/
theorem writeAll_perm {elements others : List A} (perm : elements.Perm others)
    (distinct : (elements.map key).Nodup) {map start : GoMap K V} (same : Same map start) :
    SameResult (writeAll key compute map elements) (writeAll key compute start others) := by
  have distinctOthers : (others.map key).Nodup := (perm.map key).nodup_iff.mp distinct
  rcases @writeAll_cases A K V E _ key compute elements distinct map with
    ⟨⟨err, fails⟩, element, member, isError⟩ | ⟨last, passed, values, untouched⟩
  · rcases @writeAll_cases A K V E _ key compute others distinctOthers start with
      ⟨⟨other, failsToo⟩, _⟩ | ⟨other, _, found, _⟩
    · rw [fails, failsToo]
      trivial
    · rcases found element (perm.mem_iff.mp member) with ⟨value, isValue, _⟩
      rcases isError with ⟨text, isText⟩
      rw [isValue] at isText
      cases isText
  · rcases @writeAll_cases A K V E _ key compute others distinctOthers start with
      ⟨_, element, member, text, isText⟩ | ⟨other, passedToo, found, keeps⟩
    · rcases values element (perm.mem_iff.mpr member) with ⟨value, isValue, _⟩
      rw [isValue] at isText
      cases isText
    · rw [passed, passedToo]
      intro name
      by_cases written : name ∈ elements.map key
      · rcases List.mem_map.mp written with ⟨element, member, rfl⟩
        rcases values element member with ⟨first, isFirst, firstWritten⟩
        rcases found element (perm.mem_iff.mp member) with ⟨second, isSecond, secondWritten⟩
        rw [isFirst] at isSecond
        cases isSecond
        rw [firstWritten, secondWritten, same]
      · rw [untouched name written, keeps name fun inside =>
          written ((perm.map key).mem_iff.mpr inside), same]

end KeyedWrites
end Lib
end Awe
