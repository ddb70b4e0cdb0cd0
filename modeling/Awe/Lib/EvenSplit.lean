import Mathlib.Data.Int.Order.Basic
import Mathlib.Tactic.Linarith
import Mathlib.Tactic.Ring

namespace Awe
namespace Lib
namespace EvenSplit

/-!
# Splitting a range evenly

The numbers from one to `total` are split into `count` consecutive pieces whose
sizes differ by at most one; the larger pieces come first.  `bound` is the end
of a piece.  Everything else follows from how it grows.

`Exact` says of any list of ranges that they are such a split.
-/

/-- The last number of a piece, the pieces being counted from one. -/
def bound (total count piece : Int) : Int :=
  total / count * piece + min piece (total % count)

/-- Ranges, given by their first and their last number, split the numbers up to `total`. A total
and a number of pieces that is not too large determine such ranges up to which of them take one
more. -/
structure Exact (total count : Int) (range : Int -> Int × Int) : Prop where
  nonempty : forall piece, 1 ≤ piece -> piece ≤ count -> (range piece).1 ≤ (range piece).2
  first : (range 1).1 = 1
  last : (range count).2 = total
  consecutive : forall piece, 1 ≤ piece -> piece < count ->
      (range (piece + 1)).1 = (range piece).2 + 1
  disjoint : forall earlier later, 1 ≤ earlier -> earlier < later -> later ≤ count ->
    (range earlier).2 < (range later).1
  covers : forall number, (1 ≤ number ∧ number ≤ total) ↔
    Exists fun piece => (1 ≤ piece ∧ piece ≤ count) ∧ (range piece).1 ≤ number ∧
        number ≤ (range piece).2
  balanced : forall piece other, 1 ≤ piece -> piece ≤ count -> 1 ≤ other -> other ≤ count ->
    (range piece).2 - (range piece).1 ≤ (range other).2 - (range other).1 + 1

section

variable {total count : Int}

theorem bound_zero (positive : 0 < count) : bound total count 0 = 0 := by
  have rest := Int.emod_nonneg total (ne_of_gt positive)
  rw [bound, mul_zero, zero_add, min_eq_left rest]

theorem bound_count (positive : 0 < count) : bound total count count = total := by
  have rest := Int.emod_lt_of_pos total positive
  rw [bound, min_eq_right (le_of_lt rest), Int.mul_comm]
  exact Int.mul_ediv_add_emod total count

/-- One piece more adds a share, and one number of the rest as long as there is one. -/
theorem bound_succ (piece : Int) : bound total count (piece + 1) =
    bound total count piece + total / count + if piece < total % count then 1 else 0 := by
  unfold bound
  have share : total / count * (piece + 1) = total / count * piece + total / count := by ring
  rw [share]
  split <;> omega

/-- The share is not empty if there are enough numbers. -/
theorem share_pos (positive : 0 < count) (enough : count ≤ total) : 1 ≤ total / count :=
  Int.le_ediv_of_mul_le positive (by rwa [one_mul])

theorem bound_lt_succ (positive : 0 < count) (enough : count ≤ total) (piece : Int) :
    bound total count piece < bound total count (piece + 1) := by
  have share := share_pos positive enough
  rw [bound_succ]
  split <;> omega

theorem bound_mono (positive : 0 < count) (enough : count ≤ total) {earlier later : Int}
    (le : earlier ≤ later) :
    bound total count earlier ≤ bound total count later := by
  rcases Int.le.dest le with ⟨steps, rfl⟩
  induction steps with
  | zero => simp
  | succ steps inductionHypothesis =>
      have step := bound_lt_succ positive enough (earlier + steps)
      have before := inductionHypothesis (by omega)
      push_cast
      rw [<- add_assoc]
      omega

/-- A number up to the end of some piece lies in one of the pieces. -/
theorem exists_piece (positive : 0 < count) {number : Int} (some : 1 ≤ number) (pieces : Nat)
    (within : number ≤ bound total count pieces) :
    Exists fun piece => (1 ≤ piece ∧ piece ≤ (pieces : Int)) ∧
      bound total count (piece - 1) < number ∧ number ≤ bound total count piece := by
  induction pieces with
  | zero =>
      have none := @bound_zero total count positive
      rw [Nat.cast_zero, none] at within
      omega
  | succ pieces inductionHypothesis =>
      by_cases before : number ≤ bound total count pieces
      · rcases inductionHypothesis before with ⟨piece, inside, found⟩
        exact ⟨piece, ⟨inside.1, by push_cast; omega⟩, found⟩
      · refine ⟨(pieces : Int) + 1, ⟨by omega, by push_cast; omega⟩, ?_, ?_⟩
        · rw [add_sub_cancel_right]
          omega
        · push_cast at within
          exact within

/-- The ranges between the bounds are an even split. This is the usual arithmetic of a share for
all and one more for the first ones. -/
theorem exact_bound (positive : 0 < count) (enough : count ≤ total) :
    Exact total count fun piece =>
        (bound total count (piece - 1) + 1, bound total count piece) where
  nonempty piece _ _ := by
    have grows := bound_lt_succ positive enough (piece - 1)
    rw [sub_add_cancel] at grows
    exact grows
  first := by
    rw [sub_self, bound_zero positive, zero_add]
  last := bound_count positive
  consecutive piece _ _ := by
    dsimp only
    rw [add_sub_cancel_right]
  disjoint earlier later _ lt _ := by
    have le := bound_mono positive enough (show earlier ≤ later - 1 by omega)
    dsimp only
    omega
  covers number := by
    constructor
    · rintro ⟨some, within⟩
      rcases Int.eq_ofNat_of_zero_le (le_of_lt positive) with ⟨pieces, rfl⟩
      rw [<- @bound_count total _ positive] at within
      rcases exists_piece positive some pieces within with ⟨piece, inside, after, upTo⟩
      exact ⟨piece, inside, after, upTo⟩
    · rintro ⟨piece, ⟨low, high⟩, after, upTo⟩
      have begins := bound_mono positive enough (show (0 : Int) ≤ piece - 1 by omega)
      have ends := bound_mono positive enough high
      rw [bound_zero positive] at begins
      rw [bound_count positive] at ends
      dsimp only at after upTo
      omega
  balanced piece other _ _ _ _ := by
    have one := @bound_succ total count (piece - 1)
    have two := @bound_succ total count (other - 1)
    rw [sub_add_cancel] at one two
    dsimp only
    split at one <;> split at two <;> omega

/-- A piece is not larger than a size of which `count` pieces are enough. -/
theorem size_le (positive : 0 < count) {size : Int} (enough : total ≤ count * size) {piece : Int}
    (some : 1 ≤ piece) :
    bound total count piece - bound total count (piece - 1) ≤ size := by
  have grows := @bound_succ total count (piece - 1)
  rw [sub_add_cancel] at grows
  have division := Int.mul_ediv_add_emod total count
  have rest := Int.emod_nonneg total (ne_of_gt positive)
  have few : total / count ≤ size := by
    by_contra more
    have much : count * (size + 1) ≤ count * (total / count) :=
      Int.mul_le_mul_of_nonneg_left (by omega) (le_of_lt positive)
    rw [mul_add, mul_one] at much
    omega
  split at grows
  · next larger =>
      -- a piece with one number more is only there if the division leaves a rest
      have less : total / count ≠ size := by
        intro same
        rw [same] at division
        omega
      omega
  · omega

end

end EvenSplit
end Lib
end Awe
