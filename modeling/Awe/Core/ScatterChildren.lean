import Awe.Core.Scatter
import Awe.Lib.Fallible
import Mathlib.Data.List.Perm.Basic

namespace Awe
namespace Core

open Lib Lib.Path

/-!
# The children of a scatter step

The loops of `processInstanceEnQueueScatter`, one by one: which index tuples
the counter goes through, that the names of the children tell the tuples apart,
and which inputs a child gets.
-/

namespace Scatter

/-- The index tuples of a method.  A dot product counts along the first array. -/
def indexTuples (method : ScatterMethod) (lengths : List Nat) : List (List Nat) :=
  match method with
  | .dotproduct => (List.range (lengths.headD 0)).map (List.replicate lengths.length)
  | .nestedCrossproduct | .flatCrossproduct => Odometer.tuples lengths

example : indexTuples .dotproduct [2, 2] = [[0, 0], [1, 1]] := by decide
example : indexTuples .flatCrossproduct [2, 2] = [[0, 0], [0, 1], [1, 0], [1, 1]] := by decide

/-! ## The counter -/

/-- The loop of `Increment` is the successor of the tuple; behind the position
where it starts nothing changes. -/
theorem carry_next (front : List Nat) :
    forall (tuple back : List Nat) (others : List Int), tuple.length = front.length ->
      SetCounter.carry (front.map (fun (bound : Nat) => (bound : Int) - 1) ++ others) front.length
          (tuple ++ back) =
        match Odometer.next front tuple with
        | some later => (later ++ back, true)
        | none => (Odometer.zeros front ++ back, false) := by
  induction front using List.reverseRecOn with
  | nil =>
      intro tuple back others same
      rw [List.length_eq_zero_iff.mp same]
      rfl
  | append_singleton front bound inductionHypothesis =>
      intro tuple back others same
      rcases List.eq_nil_or_concat' tuple with rfl | ⟨first, last, rfl⟩
      · simp at same
      · have shorter : first.length = front.length := by simpa using same
        have here : (first ++ [last] ++ back).getD front.length 0 = last := by
          rw [← shorter]
          simp
        have limit : (List.map (fun (bound : Nat) => (bound : Int) - 1)
            (front ++ [bound]) ++ others).getD
            front.length 0 = (bound : Int) - 1 := by
          simp
        have written (value : Nat) : (first ++ [last] ++ back).set front.length value =
            first ++ [value] ++ back := by
          rw [← shorter]
          simp
        rw [List.length_append, List.length_singleton]
        unfold SetCounter.carry
        rw [here, limit, Odometer.next_concat shorter, written, written]
        by_cases grows : last + 1 < bound
        · rw [if_pos grows, if_pos (by omega)]
        · rw [if_neg grows, if_neg (by omega)]
          have rest := inductionHypothesis first ([0] ++ back)
              ([(bound : Int) - 1] ++ others) shorter
          rw [List.map_append, List.append_assoc, List.append_assoc]
          simp only [List.map_cons, List.map_nil]
          rw [rest]
          cases Odometer.next front first with
          | some later => simp
          | none => simp [Odometer.zeros]

/-- A counter for a product of arrays of these lengths.  Along the loop only
the tuple changes, and it keeps its length. -/
structure Turns (lengths : List Nat) (sc : SetCounter) : Prop where
  kind : sc.scatterType = .cross
  sets : sc.numberOfSets = lengths.length
  long : sc.counter.length = lengths.length
  max : sc.max = lengths.map fun (length : Nat) => (length : Int) - 1

theorem Turns.increment {lengths : List Nat} {sc : SetCounter} (turns : Turns lengths sc) :
    sc.increment =
      match Odometer.next lengths sc.counter with
      | some later => ({ sc with counter := later }, true)
      | none => ({ sc with counter := Odometer.zeros lengths }, false) := by
  have loop := carry_next lengths sc.counter [] [] turns.long
  rw [List.append_nil, List.append_nil] at loop
  unfold SetCounter.increment
  rw [turns.kind, turns.sets, turns.max]
  dsimp only
  rw [loop]
  cases Odometer.next lengths sc.counter with
  | some later => simp
  | none => simp

/-- The loop of the counter, for a product of arrays. -/
theorem rounds_cross {arrays : List (List CWLValue)}
    (filled : forall items, items ∈ arrays -> items ≠ []) {bound : Nat}
    (enough : (arrays.map List.length).prod ≤ bound) :
    (SetCounter.new arrays.length arrays .cross).rounds bound =
      some (Odometer.tuples (arrays.map List.length)) := by
  have positive (length : Nat) (member : length ∈ arrays.map List.length) : 0 < length := by
    rcases List.mem_map.mp member with ⟨items, listed, rfl⟩
    exact List.length_pos_iff.mpr (filled items listed)
  have start : Turns (arrays.map List.length) (SetCounter.new arrays.length arrays .cross) := by
    refine ⟨rfl, (List.length_map ..).symm, ?_, ?_⟩
    · exact List.length_replicate.trans (List.length_map ..).symm
    · rw [List.map_map]
      rfl
  have zeros : (SetCounter.new arrays.length arrays .cross).counter = Odometer.zeros
      (arrays.map List.length) := by
    unfold SetCounter.new Odometer.zeros
    rw [List.map_map, Function.comp_def, List.map_const']
  unfold SetCounter.rounds
  rw [@Odometer.visited_map SetCounter (List Nat) _ (Odometer.next (arrays.map List.length))
      SetCounter.counter
    (Turns (arrays.map List.length)) ?_ ?_ bound _ start, zeros]
  · exact Odometer.visited_tuples positive enough
  · intro sc later turns stepped
    rw [turns.increment] at stepped
    cases grown : Odometer.next (arrays.map List.length) sc.counter with
    | none =>
        rw [grown] at stepped
        cases stepped
    | some tuple =>
        rw [grown] at stepped
        cases stepped
        exact ⟨turns.kind, turns.sets, Odometer.length_next turns.long grown, turns.max⟩
  · intro sc turns
    rw [turns.increment]
    cases Odometer.next (arrays.map List.length) sc.counter with
    | some later => rfl
    | none => rfl

/-- A turn of the loop over the counter. -/
def countOn (sc : SetCounter) : Option SetCounter :=
  match sc.increment with
  | (later, true) => some later
  | (_, false) => none

/-- The loop of the counter, for a dot product: an odometer with one position,
shown at every position. -/
theorem rounds_dot {first : List CWLValue} (filled : first ≠ []) (rest : List (List CWLValue))
    {bound : Nat} (enough : first.length ≤ bound) :
    (SetCounter.new (rest.length + 1) (first :: rest) .dot).rounds bound =
      some ((List.range first.length).map (List.replicate (rest.length + 1))) := by
  have positive (length : Nat) (member : length ∈ [first.length]) : 0 < length := by
    rw [List.mem_singleton.mp member]
    exact List.length_pos_iff.mpr filled
  let shown (tuple : List Nat) : SetCounter :=
    { SetCounter.new (rest.length + 1) (first :: rest) .dot with
      counter := List.replicate (rest.length + 1) (tuple.headD 0) }
  have agree (tuple : List Nat) (single : tuple.length = 1) :
      (Odometer.next [first.length] tuple).map shown = countOn (shown tuple) := by
    rcases List.length_eq_one_iff.mp single with ⟨index, rfl⟩
    have limit : (shown [index]).max.getD 0 0 = (first.length : Int) - 1 := rfl
    have here : (shown [index]).counter.getD 0 0 = index := by simp [shown]
    have kind : (shown [index]).scatterType = .dot := rfl
    simp only [Odometer.next]
    unfold countOn SetCounter.increment
    rw [kind]
    dsimp only
    rw [limit, here]
    by_cases grows : index + 1 < first.length
    · rw [if_pos grows, if_neg (by omega)]
      simp only [shown, Option.map_some, List.headD_cons, List.map_replicate]
      rfl
    · rw [if_neg grows, if_pos (by omega)]
      rfl
  have loop := @Odometer.visited_map (List Nat) SetCounter (Odometer.next [first.length]) countOn
    shown (fun tuple => tuple.length = 1)
        (fun _ _ single grown => Odometer.length_next single grown) agree
    bound [0] rfl
  have visited : Odometer.visited (Odometer.next [first.length]) bound [0] =
      some (Odometer.tuples [first.length]) :=
    Odometer.visited_tuples positive (by simpa using enough)
  rw [visited] at loop
  refine (congrArg (Option.map (List.map SetCounter.counter)) loop.symm).trans ?_
  simp only [Option.map_some, Odometer.tuples, List.map_cons, List.map_nil, List.map_map,
      Option.some.injEq]
  rw [← List.map_eq_flatMap, List.map_map]
  rfl

/-- The counter goes through the index tuples of the method and stops. -/
theorem rounds_eq {arrays : List (List CWLValue)} (some_array : arrays ≠ [])
    (filled : forall items, items ∈ arrays -> items ≠ []) (method : ScatterMethod) :
    (SetCounter.new arrays.length arrays method.scatterType).rounds
        ((arrays.map List.length).prod + 1) =
      some (indexTuples method (arrays.map List.length)) := by
  cases method with
  | nestedCrossproduct => exact rounds_cross filled (Nat.le_succ _)
  | flatCrossproduct => exact rounds_cross filled (Nat.le_succ _)
  | dotproduct =>
      rcases List.exists_cons_of_ne_nil some_array with ⟨first, rest, rfl⟩
      have others : 0 < (rest.map List.length).prod := by
        apply Odometer.prod_pos
        intro length member
        rcases List.mem_map.mp member with ⟨items, listed, rfl⟩
        exact List.length_pos_iff.mpr (filled items (List.mem_cons_of_mem _ listed))
      have enough : first.length ≤ ((first :: rest).map List.length).prod + 1 := by
        rw [List.map_cons, List.prod_cons]
        exact Nat.le_succ_of_le (Nat.le_mul_of_pos_right _ others)
      have loop := rounds_dot (filled first List.mem_cons_self) rest enough
      unfold indexTuples
      dsimp only
      rw [List.length_map, List.map_cons, List.headD_cons]
      exact loop

theorem permutationInstance_eq (counter : List Nat) :
    permutationInstance counter = "_".intercalate (counter.map Nat.repr) := by
  induction counter with
  | nil => rfl
  | cons index rest inductionHypothesis =>
      cases rest with
      | nil => rfl
      | cons second others =>
          rw [permutationInstance, inductionHypothesis]
          · simp only [List.map_cons, String.intercalate_cons_cons]
            rfl
          · exact fun empty => List.cons_ne_nil _ _ empty

/-- The digits between the underscores give the indices back. -/
theorem permutationInstance_injective {first second : List Nat} (nonempty : first ≠ [])
    (other : second ≠ []) (same : permutationInstance first = permutationInstance second) :
    first = second := by
  have letters (counter : List Nat) (counted : counter ≠ []) :
      (permutationInstance counter).toList.splitOn '_' = counter.map (Nat.toDigits 10) := by
    have digits : List.map String.toList (counter.map Nat.repr) = counter.map
        (Nat.toDigits 10) := by
      rw [List.map_map]
      apply List.map_congr_left
      intro index _
      exact Nat.toList_repr
    have underscore : "_".toList = ['_'] := by decide
    rw [permutationInstance_eq, String.toList_intercalate, digits, underscore,
        List.splitOn_intercalate]
    · intro index member
      rcases List.mem_map.mp member with ⟨value, _, rfl⟩
      exact Nat.underscore_not_in_toDigits
    · simpa using counted
  have lists : first.map (Nat.toDigits 10) = second.map (Nat.toDigits 10) := by
    rw [← letters first nonempty, ← letters second other, same]
  refine List.map_injective_iff.mpr ?_ lists
  intro left right equal
  have values := congrArg (fun digits => Nat.ofDigitChars 10 digits 0) equal
  simpa using values

theorem permutationInstance_whole (counter : List Nat) : Whole (permutationInstance counter) := by
  have digits (index : Nat) : Whole (Nat.repr index) := by
    unfold Whole
    rw [Nat.toList_repr]
    intro member
    exact absurd (Nat.isDigit_of_mem_toDigits (by decide) (by decide) member) (by decide)
  induction counter with
  | nil => decide
  | cons index rest inductionHypothesis =>
      cases rest with
      | nil => exact digits index
      | cons second others =>
          rw [permutationInstance]
          · exact ((digits index).append (by decide)).append inductionHypothesis
          · exact fun empty => List.cons_ne_nil _ _ empty

theorem scatterProcessName_injective {basename : String} {first second : List Nat}
    (nonempty : first ≠ []) (other : second ≠ [])
    (same : scatterProcessName basename first = scatterProcessName basename second) :
    first = second := by
  apply permutationInstance_injective nonempty other
  have letters := congrArg String.toList same
  unfold scatterProcessName at letters
  simp only [String.toList_append, List.append_assoc, List.append_cancel_left_eq] at letters
  exact String.toList_injective letters

/-! ## The inputs -/

/-- An input of the step as the child of a tuple reads it. -/
def placeIndex (step : WorkflowStep) (tuple : List Nat) (input : WorkflowStepInput) :
    WorkflowStepInput :=
  if base input.id ∈ step.scatter.map base then
    { input with sourceIndex := tuple.getD ((step.scatter.map base).idxOf (base input.id)) 0 + 1 }
  else input

/-- The names that the loops use as keys tell the inputs apart. -/
structure NamesInputs (step : WorkflowStep) : Prop where
  inputs : (step.inputs.map fun input => base input.id).Nodup
  scatter : (step.scatter.map base).Nodup

/-- The inputs that the step scatters over, in their order. -/
def scattered (step : WorkflowStep) : List WorkflowStepInput :=
  step.inputs.filter fun input => base input.id ∈ step.scatter.map base

theorem templateScatterStepIns_eq (step : WorkflowStep) :
    templateScatterStepIns step =
      GoMap.insertAll ∅ ((scattered step).map fun input => (base input.id, input)) := by
  unfold templateScatterStepIns GoMap.insertAll scattered
  rw [List.foldl_map, List.foldl_filter]
  simp only [decide_eq_true_eq]

theorem nameToPosition_eq (step : WorkflowStep) :
    nameToPosition step = GoMap.insertAll ∅ (step.scatter.zipIdx.map fun entry =>
        (base entry.1, entry.2)) := by
  unfold nameToPosition GoMap.insertAll
  rw [List.foldl_map]

section

variable {step : WorkflowStep} (names : NamesInputs step)

include names

theorem scattered_once : ((scattered step).map fun input => base input.id).Nodup :=
  names.inputs.sublist (List.filter_sublist.map _)

theorem templateScatterStepIns_lookup {input : WorkflowStepInput}
    (member : input ∈ scattered step) :
    (templateScatterStepIns step).lookup (base input.id) = some input := by
  rw [templateScatterStepIns_eq]
  refine GoMap.lookup_insertAll_of_mem ∅ ?_ (List.mem_map.mpr ⟨input, member, rfl⟩)
  rw [List.map_map]
  exact scattered_once names

theorem nameToPosition_lookup {name : String} (member : name ∈ step.scatter.map base) :
    (nameToPosition step).lookup name = some ((step.scatter.map base).idxOf name) := by
  have small := List.idxOf_lt_length_iff.mpr member
  have there : (step.scatter.map base)[(step.scatter.map base).idxOf name]? = some name :=
    List.getElem?_idxOf member
  rw [List.getElem?_map] at there
  rcases Option.map_eq_some_iff.mp there with ⟨listed, position, named⟩
  rw [nameToPosition_eq]
  refine GoMap.lookup_insertAll_of_mem ∅ ?_
      (List.mem_map.mpr ⟨(listed, _), List.mem_zipIdx_iff_getElem?.mpr position, ?_⟩)
  · rw [List.map_map]
    change ((step.scatter.zipIdx.map (base ∘ Prod.fst))).Nodup
    rw [← List.map_map, List.zipIdx_map_fst]
    exact names.scatter
  · rw [named]
    rfl

/-- The visited keys are the names of the scattered inputs. -/
theorem order_perm {order : List String} (listing : order.Perm (templateScatterStepIns step).keys) :
    order.Perm ((scattered step).map fun input => base input.id) := by
  refine listing.trans ((List.perm_ext_iff_of_nodup (AList.keys_nodup _) (scattered_once names)).mpr
      fun name => ?_)
  rw [← AList.mem_keys, ← AList.lookup_isSome]
  constructor
  · intro found
    by_contra missing
    rw [templateScatterStepIns_eq, GoMap.lookup_insertAll_of_notMem] at found
    · cases found
    · rw [List.map_map]
      exact missing
  · intro member
    rcases List.mem_map.mp member with ⟨input, listed, rfl⟩
    rw [templateScatterStepIns_lookup names listed]
    rfl

/-- The loop over the scattered inputs gives each of them its index. -/
theorem scatterStepIns_perm {order : List String}
    (listing : order.Perm (templateScatterStepIns step).keys) (tuple : List Nat) :
    Exists fun inputs => scatterStepIns step tuple order = .ok inputs ∧
      inputs.Perm ((scattered step).map (placeIndex step tuple)) := by
  have visits := order_perm names listing
  let pick (name : String) : WorkflowStepInput :=
    (((scattered step).find? fun input => base input.id = name).map (placeIndex step tuple)).getD
        ⟨"", none, 0, false⟩
  have picked (input : WorkflowStepInput) (member : input ∈ scattered step) :
      pick (base input.id) = placeIndex step tuple input := by
    have first : (scattered step).find? (fun other => base other.id = base input.id) =
        some input := by
      cases found : (scattered step).find? (fun other => base other.id = base input.id) with
      | none => exact absurd (decide_eq_true rfl) (List.find?_eq_none.mp found input member)
      | some other =>
          have listed := List.mem_of_find?_eq_some found
          have same : base other.id = base input.id := by simpa using List.find?_some found
          rw [List.inj_on_of_nodup_map (scattered_once names) listed member same]
    simp only [pick, first, Option.map_some, Option.getD_some]
  refine ⟨order.map pick, Fallible.mapM_eq_ok_map fun name member => ?_, ?_⟩
  · rcases List.mem_map.mp (visits.mem_iff.mp member) with ⟨input, listed, rfl⟩
    have chosen : base input.id ∈ step.scatter.map base :=
        of_decide_eq_true (List.mem_filter.mp listed).2
    rw [picked input listed, base_base, templateScatterStepIns_lookup names listed,
        nameToPosition_lookup names chosen]
    dsimp only
    unfold placeIndex
    rw [if_pos chosen]
  · refine (visits.map pick).trans (List.Perm.of_eq ?_)
    rw [List.map_map]
    exact List.map_congr_left picked

/-- A child keeps the other inputs and reads the scattered ones at its indices. -/
theorem childInputs_perm {order : List String}
    (listing : order.Perm (templateScatterStepIns step).keys) (tuple : List Nat) :
    Exists fun inputs => scatterStepIns step tuple order = .ok inputs ∧
      (templateStepIn step ++ inputs).Perm (step.inputs.map (placeIndex step tuple)) := by
  rcases scatterStepIns_perm names listing tuple with ⟨inputs, made, scatteredOnes⟩
  have others : templateStepIn step = (((step.inputs.filter fun input =>
      !decide (base input.id ∈ step.scatter.map base)).map (placeIndex step tuple))).reverse := by
    unfold templateStepIn
    congr 1
    have untouched (input : WorkflowStepInput) (member : input ∈ step.inputs.filter fun input =>
        !decide (base input.id ∈ step.scatter.map base)) : placeIndex step tuple input = input := by
      have away : base input.id ∉ step.scatter.map base := by
        simpa using (List.mem_filter.mp member).2
      unfold placeIndex
      rw [if_neg away]
    rw [List.map_congr_left untouched, List.map_id']
    apply List.filter_congr
    intro input _
    exact decide_not
  refine ⟨inputs, made, ?_⟩
  rw [others]
  refine ((List.reverse_perm _).append scatteredOnes).trans ?_
  unfold scattered
  rw [← List.map_append]
  exact (List.perm_append_comm.trans (List.filter_append_perm _ step.inputs)).map _

/-- The inputs of a child show the indices that they were made for. -/
theorem placeIndex_injective (covered : forall name, name ∈ step.scatter.map base ->
      Exists fun input => input ∈ step.inputs ∧ base input.id = name)
    {first second : List Nat} (firstLong : first.length = step.scatter.length)
    (secondLong : second.length = step.scatter.length)
    (same : (step.inputs.map (placeIndex step first)).Perm
    (step.inputs.map (placeIndex step second))) :
    first = second := by
  have keeps (tuple : List Nat) (input : WorkflowStepInput) :
      (placeIndex step tuple input).id = input.id := by
    unfold placeIndex
    split <;> rfl
  apply List.ext_getElem (firstLong.trans secondLong.symm)
  intro position firstSmall secondSmall
  have small : position < (step.scatter.map base).length := by
    rw [List.length_map, ← firstLong]
    exact firstSmall
  obtain ⟨input, listed, named⟩ :=
      covered (step.scatter.map base)[position] (List.getElem_mem small)
  have chosen : base input.id ∈ step.scatter.map base := named ▸ List.getElem_mem small
  obtain ⟨other, otherListed, equal⟩ := List.mem_map.mp
    (same.mem_iff.mp (List.mem_map.mpr ⟨input, listed, rfl⟩))
  have sameName : base other.id = base input.id := by
    rw [← keeps second other, equal, keeps]
  rw [List.inj_on_of_nodup_map names.inputs otherListed listed sameName] at equal
  have index := congrArg WorkflowStepInput.sourceIndex equal
  unfold placeIndex at index
  rw [if_pos chosen, if_pos chosen, named, names.scatter.idxOf_getElem] at index
  simpa [List.getD_eq_getElem?_getD, firstSmall, secondSmall] using index.symm

end

end Scatter

end Core
end Awe
