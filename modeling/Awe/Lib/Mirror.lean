import Mathlib.Data.Finset.Card
import Mathlib.Data.Finset.Image

namespace Awe
namespace Lib

/-!
# A set and the list of its names

A component keeps a set of things for itself and shows the list of their names
to others.  The list mirrors the set if it has the name of each member, no
other entry and no entry twice, and as many entries as the set has members.
The last condition is what makes names distinct: it fails if two members
share a name.  A list that is rebuilt from the set, in any order, mirrors it
exactly if no two members share a name.
-/

variable {A B : Type}

/-- A list that is kept beside a set and holds the name of each member exactly once. -/
structure Mirrors (name : A -> B) (members : Finset A) (data : List B) : Prop where
  exact : forall entry, entry ∈ data ↔ Exists fun member => member ∈ members ∧ name member = entry
  once : data.Nodup
  length : data.length = members.card

namespace Mirrors

variable {name : A -> B} {members : Finset A} {data : List B}

theorem empty (name : A -> B) : Mirrors name ∅ [] where
  exact := by simp
  once := List.nodup_nil
  length := rfl

/-- Only the empty set has an empty list. -/
theorem eq_nil_iff (mirrors : Mirrors name members data) : data = [] ↔ members = ∅ := by
  rw [<- List.length_eq_zero_iff, mirrors.length, Finset.card_eq_zero]

/-- Members of a mirrored set have different names. -/
theorem injOn (mirrors : Mirrors name members data) : Set.InjOn name (members : Set A) := by
  classical
  have image : data.toFinset = members.image name := by
    ext entry
    rw [List.mem_toFinset, mirrors.exact, Finset.mem_image]
  apply Finset.card_image_iff.mp
  rw [<- image, List.toFinset_card_of_nodup mirrors.once, mirrors.length]

end Mirrors

section

variable [DecidableEq A]

/-- The orders in which the members of a set can be visited. -/
def Visits (order : List A) (members : Finset A) : Prop :=
  order.Nodup ∧ order.toFinset = members

instance (order : List A) (members : Finset A) : Decidable (Visits order members) :=
  inferInstanceAs (Decidable (_ ∧ _))

/-- The names of all members, in any order. -/
theorem Mirrors.of_visits (name : A -> B) {members : Finset A} {order : List A}
    (visits : Visits order members) (distinct : Set.InjOn name (members : Set A)) :
    Mirrors name members (order.map name) := by
  rcases visits with ⟨once, rfl⟩
  have inOrder : forall {member}, member ∈ order -> member ∈ (order.toFinset : Set A) :=
      fun inside =>
    Finset.mem_coe.mpr (List.mem_toFinset.mpr inside)
  constructor
  · intro entry
    simp only [List.mem_map, List.mem_toFinset]
  · exact List.Nodup.map_on (fun first inside second other same =>
      distinct (inOrder inside) (inOrder other) same) once
  · rw [List.length_map, List.toFinset_card_of_nodup once]

end

end Lib
end Awe
