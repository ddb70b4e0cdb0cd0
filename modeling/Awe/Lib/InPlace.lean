import Mathlib.Data.List.Basic
import Mathlib.Data.List.TakeWhile
import Mathlib.Data.List.Forall2

namespace Awe
namespace Lib
namespace InPlace

/-!
# Evaluation in place

A loop replaces each cell of an object by its value and stops at its first
error; what it has replaced by then stays replaced.  A second evaluation of the
same object therefore starts from what the first one has left.  The main result
says when this makes no difference to the second one.

An object may itself be made of objects with cells of their own; evaluating
these one by one is the same as one loop over all the cells.
-/

section Cells

variable {C E : Type} (evaluate : C -> Except E C)

/-- The loop over the cells. It stops at the first cell that cannot be evaluated and leaves the
cells before it written. -/
def sweep : List C -> List C × Option E
  | [] => ([], none)
  | cell :: rest =>
      match evaluate cell with
      | .error err => (cell :: rest, some err)
      | .ok value => (value :: (sweep rest).1, (sweep rest).2)

/-- The cell can be evaluated. -/
def passes (cell : C) : Bool :=
  match evaluate cell with
  | .error _ => false
  | .ok _ => true

/-- The value of a cell; a cell that cannot be evaluated stays as it is. -/
def value (cell : C) : C :=
  match evaluate cell with
  | .error _ => cell
  | .ok value => value

variable {evaluate}

theorem evaluate_of_passes {cell : C} (passed : passes evaluate cell = true) :
    evaluate cell = .ok (value evaluate cell) := by
  unfold passes at passed
  unfold value
  cases evaluated : evaluate cell with
  | error err =>
      rw [evaluated] at passed
      cases passed
  | ok found => rfl

theorem passes_of_ok {cell found : C} (evaluated : evaluate cell = .ok found) :
    passes evaluate cell = true := by
  unfold passes
  rw [evaluated]

theorem sweep_of_passes {cell : C} (passed : passes evaluate cell = true) (rest : List C) :
    sweep evaluate (cell :: rest) =
      (value evaluate cell :: (sweep evaluate rest).1, (sweep evaluate rest).2) := by
  rw [sweep, evaluate_of_passes passed]

theorem sweep_of_fails {cell : C} (failed : passes evaluate cell = false) (rest : List C) :
    (sweep evaluate (cell :: rest)).1 = cell :: rest ∧
    (sweep evaluate (cell :: rest)).2 ≠ none := by
  unfold passes at failed
  unfold sweep
  cases evaluated : evaluate cell with
  | error err => exact ⟨rfl, fun none => (nomatch none)⟩
  | ok found =>
      rw [evaluated] at failed
      cases failed

/-- The loop gets through exactly if it can evaluate each cell. -/
theorem sweep_passes_iff (cells : List C) :
    (sweep evaluate cells).2 = none ↔ forall cell, cell ∈ cells -> passes evaluate cell = true := by
  induction cells with
  | nil => exact ⟨fun _ _ absent => (nomatch absent), fun _ => rfl⟩
  | cons cell rest inductionHypothesis =>
      cases passed : passes evaluate cell with
      | false =>
          refine ⟨fun none => absurd none (sweep_of_fails passed rest).2, fun all => ?_⟩
          rw [all cell List.mem_cons_self] at passed
          cases passed
      | true =>
          rw [sweep_of_passes passed, inductionHypothesis, List.forall_mem_cons]
          exact ⟨fun all => ⟨passed, all⟩, fun both => both.2⟩

/-- What the loop leaves: the values of the cells before its first error. -/
theorem sweep_fst (cells : List C) :
    (sweep evaluate cells).1 =
      (cells.takeWhile (passes evaluate)).map (value evaluate) ++ cells.dropWhile
      (passes evaluate) := by
  induction cells with
  | nil => rfl
  | cons cell rest inductionHypothesis =>
      cases passed : passes evaluate cell with
      | false =>
          rw [(sweep_of_fails passed rest).1, List.takeWhile_cons, List.dropWhile_cons, passed]
          rfl
      | true =>
          rw [sweep_of_passes passed, inductionHypothesis, List.takeWhile_cons,
              List.dropWhile_cons, passed]
          rfl

theorem sweep_fst_of_passes {cells : List C}
    (all : forall cell, cell ∈ cells -> passes evaluate cell = true) :
    (sweep evaluate cells).1 = cells.map (value evaluate) := by
  rw [sweep_fst, List.takeWhile_eq_self_iff.mpr all, List.dropWhile_eq_nil_iff.mpr all,
      List.append_nil]

/-- A loop that gets through leaves the value of each cell in its place. -/
theorem sweep_forall2 {cells : List C} (through : (sweep evaluate cells).2 = none) :
    List.Forall₂ (fun cell found => evaluate cell = .ok found) cells (sweep evaluate cells).1 := by
  have all := (sweep_passes_iff cells).mp through
  rw [sweep_fst_of_passes all, List.forall₂_map_right_iff, List.forall₂_same]
  exact fun cell member => evaluate_of_passes (all cell member)

theorem sweep_length (cells : List C) : (sweep evaluate cells).1.length = cells.length := by
  rw [sweep_fst, List.length_append, List.length_map, <- List.length_append,
      List.takeWhile_append_dropWhile]

/-- Two parts of an object: the second one is evaluated if the first one passes. -/
theorem sweep_append (cells others : List C) :
    (sweep evaluate (cells ++ others)).1 = (sweep evaluate cells).1 ++
        (if (sweep evaluate cells).2 = none then (sweep evaluate others).1 else others) ∧
      ((sweep evaluate (cells ++ others)).2 = none ↔
        (sweep evaluate cells).2 = none ∧ (sweep evaluate others).2 = none) := by
  constructor
  · induction cells with
    | nil => rfl
    | cons cell rest inductionHypothesis =>
        cases passed : passes evaluate cell with
        | false =>
            have stops := sweep_of_fails passed rest
            have stopsEarly := sweep_of_fails passed (rest ++ others)
            rw [if_neg stops.2, stops.1, List.cons_append, stopsEarly.1]
        | true =>
            rw [List.cons_append, sweep_of_passes passed, sweep_of_passes passed,
                inductionHypothesis]
            rfl
  · rw [sweep_passes_iff, sweep_passes_iff, sweep_passes_iff, List.forall_mem_append]

/-- A loop over the images of cells, if their evaluation goes the same way. -/
theorem sweep_map {D F : Type} {other : D -> Except F D} {image : D -> C}
    (alike : forall cell, (Exists fun found => other cell = .ok found ∧
    evaluate (image cell) = .ok (image found)) ∨
      (Exists fun err => Exists fun reported => other cell = .error err ∧
          evaluate (image cell) = .error reported))
    (cells : List D) :
    (sweep evaluate (cells.map image)).1 = (sweep other cells).1.map image ∧
      ((sweep evaluate (cells.map image)).2 = none ↔ (sweep other cells).2 = none) := by
  induction cells with
  | nil => exact ⟨rfl, ⟨fun _ => rfl, fun _ => rfl⟩⟩
  | cons cell rest inductionHypothesis =>
      rw [List.map_cons, sweep, sweep]
      rcases alike cell with ⟨found, isFound, isImage⟩ | ⟨err, reported, isError, isReported⟩
      · rw [isFound, isImage]
        exact ⟨congrArg (image found :: ·) inductionHypothesis.1, inductionHypothesis.2⟩
      · rw [isError, isReported]
        exact ⟨rfl, ⟨fun none => (nomatch none), fun none => (nomatch none)⟩⟩

/-- The second evaluation has the same result, whether or not the first one was
made. -/
def Undisturbed (first second : C -> Except E C) (cells : List C) : Prop :=
  ((sweep second (sweep first cells).1).2 = none ↔ (sweep second cells).2 = none) ∧
    ((sweep second cells).2 = none ->
    (sweep second (sweep first cells).1).1 = (sweep second cells).1)

/-- If the second evaluation passes on its own, it must make the same of every cell that the first
one has replaced; if it does not, it must fail on one of the cells as they are then. The condition
can be checked cell by cell without making the first evaluation. -/
theorem undisturbed_iff (first second : C -> Except E C) (cells : List C) :
    Undisturbed first second cells ↔
      ((forall cell, cell ∈ cells -> passes second cell = true) ->
        forall cell, cell ∈ cells.takeWhile (passes first) ->
        second (value first cell) = second cell) ∧
      ((Exists fun cell => cell ∈ cells ∧ passes second cell = false) ->
        (Exists fun cell => cell ∈ cells.takeWhile (passes first) ∧
        passes second (value first cell) = false) ∨
        Exists fun cell => cell ∈ cells.dropWhile (passes first) ∧ passes second cell = false) := by
  obtain ⟨reached, isReached⟩ : Exists fun reached => reached = cells.takeWhile (passes first) :=
      ⟨_, rfl⟩
  obtain ⟨later, isLater⟩ : Exists fun later => later = cells.dropWhile (passes first) := ⟨_, rfl⟩
  have parts : cells = reached ++ later := by
    rw [isReached, isLater, List.takeWhile_append_dropWhile]
  have left : (sweep first cells).1 = reached.map (value first) ++ later := by
    rw [sweep_fst, isReached, isLater]
  have alone : (sweep second cells).2 = none ↔ forall cell, cell ∈ cells ->
      passes second cell = true :=
    sweep_passes_iff cells
  have afterwards : (sweep second (sweep first cells).1).2 = none ↔
      (forall cell, cell ∈ reached -> passes second (value first cell) = true) ∧
        forall cell, cell ∈ later -> passes second cell = true := by
    rw [left, sweep_passes_iff, List.forall_mem_append, List.forall_mem_map]
  rw [<- isReached, <- isLater]
  constructor
  · rintro ⟨status, values⟩
    refine ⟨fun all cell member => ?_, fun fails => ?_⟩
    · have passesLeft := status.mpr (alone.mpr all)
      have same := values (alone.mpr all)
      have allLeft : forall cell, cell ∈ reached.map (value first) ++ later ->
          passes second cell = true := by
        rw [<- left]
        exact (sweep_passes_iff _).mp passesLeft
      rw [left, sweep_fst_of_passes allLeft, sweep_fst_of_passes all, parts, List.map_append,
          List.map_append] at same
      have front := (List.append_inj same
          (by rw [List.length_map, List.length_map, List.length_map])).1
      rw [List.map_map] at front
      have equal : value second (value first cell) = value second cell :=
          List.map_inj_left.mp front cell member
      have inCells : cell ∈ cells := by
        rw [parts]
        exact List.mem_append_left _ member
      rw [evaluate_of_passes ((afterwards.mp passesLeft).1 cell member),
          evaluate_of_passes (all cell inCells), equal]
    · by_contra sound
      rw [not_or, not_exists, not_exists] at sound
      have passesLeft : (sweep second (sweep first cells).1).2 = none := by
        refine afterwards.mpr ⟨fun cell member => ?_, fun cell member => ?_⟩
        · rw [<- Bool.not_eq_false]
          exact fun failed => sound.1 cell ⟨member, failed⟩
        · rw [<- Bool.not_eq_false]
          exact fun failed => sound.2 cell ⟨member, failed⟩
      rcases fails with ⟨cell, member, failed⟩
      rw [alone.mp (status.mp passesLeft) cell member] at failed
      cases failed
  · rintro ⟨reusable, spoiled⟩
    by_cases all : forall cell, cell ∈ cells -> passes second cell = true
    · have same := reusable all
      have inCells (cell : C) (member : cell ∈ reached) : cell ∈ cells := by
        rw [parts]
        exact List.mem_append_left _ member
      have passesReached (cell : C) (member : cell ∈ reached) :
          passes second (value first cell) = true :=
        passes_of_ok ((same cell member).trans
            (evaluate_of_passes (all cell (inCells cell member))))
      have passesLater (cell : C) (member : cell ∈ later) : passes second cell = true := by
        apply all
        rw [parts]
        exact List.mem_append_right _ member
      have passesLeft := afterwards.mpr ⟨passesReached, passesLater⟩
      refine ⟨⟨fun _ => alone.mpr all, fun _ => passesLeft⟩, fun _ => ?_⟩
      rw [sweep_fst_of_passes ((sweep_passes_iff _).mp passesLeft), sweep_fst_of_passes all, left,
          parts,
        List.map_append, List.map_append, List.map_map]
      congr 1
      apply List.map_inj_left.mpr
      intro cell member
      have equal := same cell member
      rw [evaluate_of_passes (passesReached cell member),
          evaluate_of_passes (all cell (inCells cell member))] at equal
      exact Except.ok.inj equal
    · have fails : Exists fun cell => cell ∈ cells ∧ passes second cell = false := by
        rw [not_forall] at all
        rcases all with ⟨cell, notAll⟩
        rw [not_forall, exists_prop, Bool.not_eq_true] at notAll
        exact ⟨cell, notAll⟩
      refine ⟨⟨fun passesLeft => ?_, fun passed => absurd (alone.mp passed) all⟩,
        fun passed => absurd (alone.mp passed) all⟩
      rcases spoiled fails with ⟨cell, member, failed⟩ | ⟨cell, member, failed⟩
      · rw [(afterwards.mp passesLeft).1 cell member] at failed
        cases failed
      · rw [(afterwards.mp passesLeft).2 cell member] at failed
        cases failed

end Cells

section Objects

variable {A C E S : Type} (step : A -> A × Option E)

/-- The loop over the objects. -/
def each : List A -> List A × Option E
  | [] => ([], none)
  | object :: rest =>
      match (step object).2 with
      | some err => ((step object).1 :: rest, some err)
      | none => ((step object).1 :: (each rest).1, (each rest).2)

variable {step} {evaluate : C -> Except E C} {cells : A -> List C} {shape : A -> S}

/-- Evaluating the objects is one loop over all their cells. -/
theorem each_cells
    (values : forall object, cells (step object).1 = (sweep evaluate (cells object)).1)
    (status : forall object, (step object).2 = none ↔ (sweep evaluate (cells object)).2 = none)
    (objects : List A) :
    (each step objects).1.flatMap cells = (sweep evaluate (objects.flatMap cells)).1 ∧
      ((each step objects).2 = none ↔ (sweep evaluate (objects.flatMap cells)).2 = none) := by
  induction objects with
  | nil => exact ⟨rfl, Iff.rfl⟩
  | cons object rest inductionHypothesis =>
      have parts := @sweep_append C E evaluate (cells object) (rest.flatMap cells)
      rw [List.flatMap_cons, parts.1, parts.2, <- values]
      unfold each
      cases stopped : (step object).2 with
      | none =>
          have passed : (sweep evaluate (cells object)).2 = none := (status object).mp stopped
          rw [if_pos passed, <- inductionHypothesis.1, <- inductionHypothesis.2]
          exact ⟨rfl, ⟨fun later => ⟨passed, later⟩, fun both => both.2⟩⟩
      | some err =>
          have failed : (sweep evaluate (cells object)).2 ≠ none := by
            intro passed
            rw [(status object).mpr passed] at stopped
            cases stopped
          rw [if_neg failed]
          exact ⟨rfl, ⟨fun none => (nomatch none), fun both => absurd both.1 failed⟩⟩

theorem each_shape (keeps : forall object, shape (step object).1 = shape object)
    (objects : List A) :
    (each step objects).1.map shape = objects.map shape := by
  induction objects with
  | nil => rfl
  | cons object rest inductionHypothesis =>
      unfold each
      cases (step object).2 with
      | none => rw [List.map_cons, List.map_cons, keeps, inductionHypothesis]
      | some err => rw [List.map_cons, List.map_cons, keeps]

theorem flatMap_length_of_shape (size : forall {first second}, shape first = shape second ->
      (cells first).length = (cells second).length)
    {first second : List A} (shapes : first.map shape = second.map shape) :
    (first.flatMap cells).length = (second.flatMap cells).length := by
  induction first generalizing second with
  | nil =>
      cases second with
      | nil => rfl
      | cons other rest => cases shapes
  | cons object rest inductionHypothesis =>
      cases second with
      | nil => cases shapes
      | cons other others =>
          rw [List.map_cons, List.map_cons, List.cons.injEq] at shapes
          rw [List.flatMap_cons, List.flatMap_cons, List.length_append, List.length_append,
              size shapes.1,
            inductionHypothesis shapes.2]

/-- Objects of the same shape are determined by their cells. -/
theorem objects_eq_of_cells (size : forall {first second}, shape first = shape second ->
      (cells first).length = (cells second).length)
    (determined : forall {first second}, shape first = shape second -> cells first = cells second ->
        first = second)
    {first second : List A} (shapes : first.map shape = second.map shape)
    (same : first.flatMap cells = second.flatMap cells) : first = second := by
  induction first generalizing second with
  | nil =>
      cases second with
      | nil => rfl
      | cons other rest => cases shapes
  | cons object rest inductionHypothesis =>
      cases second with
      | nil => cases shapes
      | cons other others =>
          rw [List.map_cons, List.map_cons, List.cons.injEq] at shapes
          rw [List.flatMap_cons, List.flatMap_cons] at same
          have both := List.append_inj same (size shapes.1)
          rw [determined shapes.1 both.1, inductionHypothesis shapes.2 both.2]

end Objects

end InPlace
end Lib
end Awe
