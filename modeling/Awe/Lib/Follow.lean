import Mathlib.Data.Finset.Card
import Mathlib.Logic.Relation

namespace Awe
namespace Lib

/-!
# Following a partial function

A program that walks from one element to the next, as long as there is a next
one, ends or it does not.  If only finitely many elements have a successor, a
walk that makes more steps than there are such elements visits one of them
twice, and from there it never ends.  So the number of those elements bounds
the steps of every walk that ends.
-/

variable {A : Type} (next : A -> Option A)

/-- The element after the given number of steps. The walk is a loop that follows a pointer from
element to element; `none` is its end. -/
def follow : Nat -> A -> Option A
  | 0, start => some start
  | steps + 1, start => (next start).bind (follow steps)

theorem follow_succ (steps : Nat) (start : A) :
    follow next (steps + 1) start = (follow next steps start).bind next := by
  induction steps generalizing start with
  | zero =>
      change (next start).bind some = next start
      cases next start <;> rfl
  | succ steps inductionHypothesis =>
      rw [follow]
      cases moved : next start with
      | none => rw [follow, moved]; rfl
      | some later =>
          rw [Option.bind_some, inductionHypothesis later, follow, moved, Option.bind_some]

/-- A walk can be cut short. -/
theorem follow_isSome_of_le {few many : Nat} {start : A} (le : few ≤ many)
    (goes : (follow next many start).isSome) : (follow next few start).isSome := by
  induction many, le using Nat.le_induction with
  | base => exact goes
  | succ many _ inductionHypothesis =>
      rw [follow_succ] at goes
      exact inductionHypothesis (Option.isSome_of_isSome_bind goes)

variable {next}

/-- A walk that meets an element twice goes on for ever. -/
theorem follow_isSome_of_repeat {visit : Nat -> A} {first second : Nat} (before : first < second)
    (moves : forall index, index < second -> next (visit index) = some (visit (index + 1)))
    (again : visit first = visit second) (steps : Nat) {index : Nat} (reached : index ≤ second) :
    (follow next steps (visit index)).isSome := by
  induction steps generalizing index with
  | zero => rfl
  | succ steps inductionHypothesis =>
      rcases Nat.lt_or_eq_of_le reached with inside | rfl
      · rw [follow, moves index inside, Option.bind_some]
        exact inductionHypothesis inside
      · rw [follow, <- again, moves first before, Option.bind_some]
        exact inductionHypothesis before

/-- A walk with more steps than there are elements to leave never ends. Among more steps than
elements one element is met twice, so a bound on the steps decides whether there is an end. -/
theorem follow_isSome_of_long [DecidableEq A] (inside : List A)
    (within : forall element, (next element).isSome -> element ∈ inside) {start : A}
    (long : (follow next (inside.length + 1) start).isSome) (steps : Nat) :
    (follow next steps start).isSome := by
  have going (index : Nat) (le : index ≤ inside.length + 1) :
      follow next index start = some ((follow next index start).getD start) := by
    rcases Option.isSome_iff_exists.mp (follow_isSome_of_le next le long) with ⟨element, found⟩
    rw [found, Option.getD_some]
  have moves (index : Nat) (lt : index < inside.length + 1) :
      next ((follow next index start).getD start) = some
          ((follow next (index + 1) start).getD start) := by
    have step := going (index + 1) lt
    rw [follow_succ, going index (Nat.le_of_lt lt), Option.bind_some] at step
    rw [step, follow_succ, going index (Nat.le_of_lt lt), Option.bind_some, Option.getD_some, step,
        Option.getD_some]
  have few : inside.toFinset.card < (Finset.range (inside.length + 1)).card := by
    rw [Finset.card_range]
    exact Nat.lt_succ_of_le (List.toFinset_card_le inside)
  obtain ⟨first, inFirst, second, inSecond, different, again⟩ :=
    Finset.exists_ne_map_eq_of_card_lt_of_maps_to (f :=
        fun index => (follow next index start).getD start) few
      fun index member => by
        have lt : index < inside.length + 1 := Finset.mem_range.mp member
        apply List.mem_toFinset.mpr
        apply within
        rw [moves index lt]
        rfl
  rw [Finset.mem_range] at inFirst inSecond
  have begins : (follow next 0 start).getD start = start := rfl
  rcases Nat.lt_or_gt_of_ne different with before | before
  · have endless := follow_isSome_of_repeat before (fun index lt => moves index (by omega)) again
      steps (Nat.zero_le _)
    rwa [begins] at endless
  · have endless := follow_isSome_of_repeat before (fun index lt => moves index (by omega))
      again.symm steps
      (Nat.zero_le _)
    rwa [begins] at endless

end Lib
end Awe
