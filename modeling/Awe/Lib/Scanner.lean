import Mathlib.Data.List.Basic

namespace Awe
namespace Lib

/-!
# Scanners

A scanner reads a sequence from the left and writes pieces.  What it has read
and not yet written is in its state, and is written at the end.  The leftmost
longest matches of simple regular expressions are found in this way.

What is written for the front of a sequence does not depend on what follows,
apart from what is still held.  So a sequence can be read in two goes, and what
holds of the pieces of every step holds of all of them.
-/

/-- A loop over a sequence that writes pieces as it goes and holds back what is not finished yet.
-/
structure Scanner (A B State : Type) where
  step : State -> A -> List B × State
  finish : State -> List B

namespace Scanner

variable {A B State : Type} (scanner : Scanner A B State)

/-- The pieces of a sequence. -/
def run : State -> List A -> List B
  | state, [] => scanner.finish state
  | state, letter :: rest => (scanner.step state letter).1 ++ run (scanner.step state letter).2 rest

/-- What has been written when a sequence has been read. -/
def written : State -> List A -> List B
  | _, [] => []
  | state, letter :: rest => (scanner.step state letter).1 ++ written
      (scanner.step state letter).2 rest

/-- The state after a sequence has been read. It is all that the rest of the sequence sees of what
has been read. -/
def after : State -> List A -> State
  | state, [] => state
  | state, letter :: rest => after (scanner.step state letter).2 rest

theorem run_append (state : State) (front back : List A) :
    scanner.run state (front ++ back) = scanner.written state front ++ scanner.run
        (scanner.after state front) back := by
  induction front generalizing state with
  | nil => rfl
  | cons letter rest inductionHypothesis =>
      rw [List.cons_append, run, inductionHypothesis, written, after, List.append_assoc]

theorem run_eq (state : State) (letters : List A) :
    scanner.run state letters = scanner.written state letters ++ scanner.finish
        (scanner.after state letters) := by
  have split := scanner.run_append state letters []
  rwa [List.append_nil] at split

theorem after_append (state : State) (front back : List A) :
    scanner.after state (front ++ back) = scanner.after (scanner.after state front) back := by
  induction front generalizing state with
  | nil => rfl
  | cons letter rest inductionHypothesis => exact inductionHypothesis _

theorem written_append (state : State) (front back : List A) :
    scanner.written state (front ++ back) =
      scanner.written state front ++ scanner.written (scanner.after state front) back := by
  induction front generalizing state with
  | nil => rfl
  | cons letter rest inductionHypothesis =>
      rw [List.cons_append, written, inductionHypothesis, written, after, List.append_assoc]

/-- What holds of the pieces of each step, in states in which an invariant holds, holds of
all that has been written. -/
theorem forall_mem_written {scanner : Scanner A B State} {Invariant : State -> Prop}
    {Good : B -> Prop} (step : forall state letter, Invariant state ->
      (forall piece, piece ∈ (scanner.step state letter).1 -> Good piece) ∧
      Invariant (scanner.step state letter).2)
    {state : State} (holds : Invariant state) (letters : List A) :
    (forall piece, piece ∈ scanner.written state letters -> Good piece) ∧
    Invariant (scanner.after state letters) := by
  induction letters generalizing state with
  | nil => exact ⟨List.forall_mem_nil _, holds⟩
  | cons letter rest inductionHypothesis =>
      rcases inductionHypothesis (step state letter holds).2 with ⟨later, kept⟩
      refine ⟨fun piece member => ?_, kept⟩
      exact (List.mem_append.mp member).elim ((step state letter holds).1 piece) (later piece)

/-- If it also holds of what is held at the end, it holds of all pieces. -/
theorem forall_mem_run {scanner : Scanner A B State} {Invariant : State -> Prop} {Good : B -> Prop}
    (step : forall state letter, Invariant state ->
      (forall piece, piece ∈ (scanner.step state letter).1 -> Good piece) ∧
      Invariant (scanner.step state letter).2)
    (finish : forall state, Invariant state -> forall piece, piece ∈ scanner.finish state ->
        Good piece)
    {state : State} (holds : Invariant state) (letters : List A) :
    forall piece, piece ∈ scanner.run state letters -> Good piece := by
  rcases forall_mem_written step holds letters with ⟨written, kept⟩
  rw [run_eq]
  intro piece member
  exact (List.mem_append.mp member).elim (written piece) (finish _ kept piece)

end Scanner
end Lib
end Awe
