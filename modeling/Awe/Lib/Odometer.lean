import Mathlib.Data.List.Chain
import Mathlib.Data.List.Lex
import Mathlib.Data.List.Range
import Mathlib.Algebra.Order.Ring.Int

namespace Awe
namespace Lib
namespace Odometer

/-!
# Counting through tuples

A tuple of numbers below given bounds has a successor: the last number that
can grow does so, and the ones behind it start again at zero.  `tuples` lists
all tuples in lexicographic order, and the theorems say that the repeated
successor visits exactly this list, from the zero tuple to the last one.

`visited` is the loop itself, for any successor function.  It takes a bound on
the number of rounds, and `visited_of_chain` says how many are enough.
-/

/-- All tuples below the bounds. -/
def tuples : List Nat -> List (List Nat)
  | [] => [[]]
  | bound :: rest => (List.range bound).flatMap fun first => (tuples rest).map (first :: ·)

/-- The tuple of zeros. -/
def zeros (bounds : List Nat) : List Nat :=
  bounds.map fun _ => 0

/-- The successor of a tuple below the bounds. The last position counts fastest, and a position
that is full starts again and carries. -/
def next : List Nat -> List Nat -> Option (List Nat)
  | bound :: bounds, first :: rest =>
      match next bounds rest with
      | some later => some (first :: later)
      | none => if first + 1 < bound then some ((first + 1) :: zeros bounds) else none
  | _, _ => none

/-- The values that a loop visits until its step reports the end. The number of rounds bounds a
loop that the code leaves unbounded; with enough rounds it makes no difference. -/
def visited {A : Type} (step : A -> Option A) : Nat -> A -> Option (List A)
  | 0, _ => none
  | rounds + 1, value =>
      match step value with
      | none => some [value]
      | some later => (visited step rounds later).map (value :: ·)

example : tuples [2, 2] = [[0, 0], [0, 1], [1, 0], [1, 1]] := by decide
example : visited (next [2, 2]) 4 [0, 0] = some (tuples [2, 2]) := by decide

theorem mem_tuples {tuple bounds : List Nat} :
    tuple ∈ tuples bounds ↔ List.Forall₂ (· < ·) tuple bounds := by
  induction bounds generalizing tuple with
  | nil => simp [tuples]
  | cons bound rest inductionHypothesis =>
      simp only [tuples, List.mem_flatMap, List.mem_range, List.mem_map]
      constructor
      · rintro ⟨first, small, later, member, rfl⟩
        exact List.Forall₂.cons small (inductionHypothesis.mp member)
      · intro below
        cases below with
        | cons small others => exact ⟨_, small, _, inductionHypothesis.mpr others, rfl⟩

/-- The list is in lexicographic order, so no tuple occurs twice. -/
theorem tuples_sorted (bounds : List Nat) : (tuples bounds).Pairwise (List.Lex (· < ·)) := by
  induction bounds with
  | nil => exact List.pairwise_singleton ..
  | cons bound rest inductionHypothesis =>
      unfold tuples
      apply List.pairwise_flatMap.mpr
      constructor
      · intro first _
        exact List.pairwise_map.mpr (inductionHypothesis.imp List.Lex.cons)
      · refine List.pairwise_lt_range.imp ?_
        intro first second smaller tuple member other memberToo
        rcases List.mem_map.mp member with ⟨_, _, rfl⟩
        rcases List.mem_map.mp memberToo with ⟨_, _, rfl⟩
        exact List.Lex.rel smaller

theorem tuples_nodup (bounds : List Nat) : (tuples bounds).Nodup := by
  refine (tuples_sorted bounds).imp ?_
  intro tuple other smaller
  exact (List.Lex.imp (fun _ _ => ne_of_lt) _ _ smaller).to_ne

theorem length_tuples (bounds : List Nat) : (tuples bounds).length = bounds.prod := by
  induction bounds with
  | nil => rfl
  | cons bound rest inductionHypothesis =>
      simp only [tuples, List.length_flatMap, List.length_map, List.map_const', List.length_range,
        List.sum_replicate_nat, List.prod_cons, inductionHypothesis]

/-! ## The successor -/

/-- The successor, seen from the last position: this is how a counter carries. -/
theorem next_concat {bounds tuple : List Nat} (same : tuple.length = bounds.length)
    (bound last : Nat) :
    next (bounds ++ [bound]) (tuple ++ [last]) =
      if last + 1 < bound then some (tuple ++ [last + 1])
      else (next bounds tuple).map (· ++ [0]) := by
  induction bounds generalizing tuple with
  | nil =>
      rw [List.length_eq_zero_iff.mp same]
      rfl
  | cons first rest inductionHypothesis =>
      cases tuple with
      | nil => cases same
      | cons head tail =>
          have shorter : tail.length = rest.length := Nat.succ.inj same
          simp only [List.cons_append, next, inductionHypothesis shorter]
          by_cases grows : last + 1 < bound
          · simp only [if_pos grows]
          · simp only [if_neg grows]
            cases next rest tail with
            | some later => rfl
            | none =>
                simp only [Option.map_none]
                split
                · simp [zeros]
                · rfl

theorem length_next {bounds tuple later : List Nat} (same : tuple.length = bounds.length)
    (follows : next bounds tuple = some later) : later.length = bounds.length := by
  induction bounds generalizing tuple later with
  | nil =>
      rw [List.length_eq_zero_iff.mp same] at follows
      cases follows
  | cons bound rest inductionHypothesis =>
      cases tuple with
      | nil => cases follows
      | cons head tail =>
          have shorter : tail.length = rest.length := Nat.succ.inj same
          simp only [next] at follows
          split at follows
          · next tuple grown =>
              cases follows
              rw [List.length_cons, List.length_cons, inductionHypothesis shorter grown]
          · split at follows
            · cases follows
              simp [zeros]
            · cases follows

/-- What the enumeration of a list of tuples by `next` means. -/
structure Enumerates (bounds : List Nat) (list : List (List Nat)) : Prop where
  starts : list.head? = some (zeros bounds)
  follows : list.IsChain fun tuple later => next bounds tuple = some later
  ends : forall last, last ∈ list.getLast? -> next bounds last = none

/-- The tuples that begin with a number below `count`. Over it the enumeration can be proved by
induction on the first bound. -/
private def upTo (rest : List Nat) (count : Nat) : List (List Nat) :=
  (List.range count).flatMap fun first => (tuples rest).map (first :: ·)

private theorem upTo_succ (rest : List Nat) (count : Nat) :
    upTo rest (count + 1) = upTo rest count ++ (tuples rest).map (count :: ·) := by
  unfold upTo
  rw [List.range_succ, List.flatMap_append, List.flatMap_singleton]

/-- The blocks follow each other: the last tuple of one carries into the first
number, which makes the first tuple of the next one. -/
private theorem upTo_chain {bound : Nat} {rest : List Nat}
    (enumerates : Enumerates rest (tuples rest)) (count : Nat) (small : count ≤ bound) :
    (upTo rest count).IsChain (fun tuple later => next (bound :: rest) tuple = some later) ∧
      forall last, last ∈ (upTo rest count).getLast? ->
        Exists fun tail => last = (count - 1) :: tail ∧ next rest tail = none := by
  induction count with
  | zero => exact ⟨List.isChain_nil, fun last member => by cases member⟩
  | succ count inductionHypothesis =>
      obtain ⟨chain, closes⟩ := inductionHypothesis (by omega)
      have block : ((tuples rest).map (count :: ·)).IsChain
          fun tuple later => next (bound :: rest) tuple = some later := by
        rw [List.isChain_map]
        refine enumerates.follows.imp ?_
        intro tuple later follows
        simp only [next, follows]
      rw [upTo_succ]
      constructor
      · refine chain.append block ?_
        intro last lastMember first firstMember
        rcases closes last lastMember with ⟨tail, rfl, ended⟩
        rw [List.head?_map, enumerates.starts] at firstMember
        cases firstMember
        -- There is a block before this one, so the number in front was not zero rounds ago.
        have several : 0 < count := by
          cases count with
          | zero => cases lastMember
          | succ count => exact Nat.succ_pos count
        have grows : count - 1 + 1 < bound := by omega
        simp only [next, ended, if_pos grows]
        rw [show count - 1 + 1 = count by omega]
      · intro last member
        have nonempty : (tuples rest).map (count :: ·) ≠ [] := by
          intro empty
          have missing := enumerates.starts
          rw [List.map_eq_nil_iff.mp empty] at missing
          cases missing
        rw [List.getLast?_append_of_ne_nil _ nonempty, List.getLast?_map] at member
        rcases Option.map_eq_some_iff.mp member with ⟨tail, tailMember, rfl⟩
        exact ⟨tail, rfl, enumerates.ends tail tailMember⟩

/-- The successor visits all tuples, from the zero tuple to the last. So a loop that counts in
this way meets every tuple once, and ends. -/
theorem tuples_enumerates {bounds : List Nat}
    (positive : forall bound, bound ∈ bounds -> 0 < bound) :
    Enumerates bounds (tuples bounds) := by
  induction bounds with
  | nil => exact ⟨rfl, List.isChain_singleton _, fun last member => by cases member; rfl⟩
  | cons bound rest inductionHypothesis =>
      have enumerates := inductionHypothesis fun other member =>
        positive other (List.mem_cons_of_mem bound member)
      have here := positive bound List.mem_cons_self
      rcases upTo_chain enumerates bound le_rfl with ⟨chain, closes⟩
      refine ⟨?_, chain, ?_⟩
      · rcases Nat.exists_eq_succ_of_ne_zero (Nat.pos_iff_ne_zero.mp here) with ⟨fewer, rfl⟩
        simp only [tuples, List.range_succ_eq_map, List.flatMap_cons, List.head?_append,
            List.head?_map,
          enumerates.starts, zeros, List.map_cons]
        rfl
      · intro last member
        rcases closes last member with ⟨tail, rfl, ended⟩
        simp only [next, ended]
        rw [if_neg (by omega)]

theorem prod_pos {bounds : List Nat} (positive : forall bound, bound ∈ bounds -> 0 < bound) :
    0 < bounds.prod := by
  rw [← length_tuples]
  exact List.length_pos_of_mem (List.mem_of_head? (tuples_enumerates positive).starts)

theorem prod_eq_one_iff {bounds : List Nat} :
    bounds.prod = 1 ↔ forall bound, bound ∈ bounds -> bound = 1 := by
  induction bounds with
  | nil => simp
  | cons bound rest inductionHypothesis =>
      rw [List.prod_cons, List.forall_mem_cons, ← inductionHypothesis]
      constructor
      · intro one
        exact ⟨Nat.eq_one_of_mul_eq_one_right one, Nat.eq_one_of_mul_eq_one_left one⟩
      · rintro ⟨boundOne, restOne⟩
        rw [boundOne, restOne]

/-- A loop along a chain returns it, given as many rounds as it has values. -/
theorem visited_of_chain {A : Type} {step : A -> Option A} {first : A} {rest : List A}
    {rounds : Nat} (follows : (first :: rest).IsChain fun value later => step value = some later)
    (ends : forall last, last ∈ (first :: rest).getLast? -> step last = none)
    (enough : (first :: rest).length ≤ rounds) :
    visited step rounds first = some (first :: rest) := by
  induction rest generalizing first rounds with
  | nil =>
      rcases Nat.exists_eq_add_of_lt enough with ⟨more, rfl⟩
      simp [visited, ends first rfl]
  | cons second others inductionHypothesis =>
      obtain ⟨fewer, rfl⟩ := Nat.exists_eq_succ_of_ne_zero (show rounds ≠ 0 by
        rintro rfl
        exact absurd enough (by simp))
      rw [List.isChain_cons_cons] at follows
      have later := @inductionHypothesis second fewer follows.2
        (fun last member => ends last (by rw [List.getLast?_cons_cons]; exact member))
        (Nat.succ_le_succ_iff.mp enough)
      simp only [visited, follows.1, later, Option.map_some]

/-- A loop whose steps are followed by another loop visits what that one visits. -/
theorem visited_map {A B : Type} {step : A -> Option A} {follow : B -> Option B} {view : A -> B}
    {Inv : A -> Prop} (kept : forall value later, Inv value -> step value = some later -> Inv later)
    (agree : forall value, Inv value -> (step value).map view = follow (view value))
    (rounds : Nat) (value : A) (holds : Inv value) :
    (visited step rounds value).map (List.map view) = visited follow rounds (view value) := by
  induction rounds generalizing value with
  | zero => rfl
  | succ rounds inductionHypothesis =>
      have here := agree value holds
      cases stepped : step value with
      | none =>
          rw [stepped, Option.map_none] at here
          simp only [visited, stepped, ← here, Option.map_some, List.map_cons, List.map_nil]
      | some later =>
          rw [stepped, Option.map_some] at here
          have rest := inductionHypothesis later (kept value later holds stepped)
          simp only [visited, stepped, ← here, ← rest, Option.map_map]
          rfl

theorem visited_tuples {bounds : List Nat} (positive : forall bound, bound ∈ bounds -> 0 < bound)
    {rounds : Nat} (enough : bounds.prod ≤ rounds) :
    visited (next bounds) rounds (zeros bounds) = some (tuples bounds) := by
  have enumerates := tuples_enumerates positive
  cases listed : tuples bounds with
  | nil =>
      rw [listed] at enumerates
      cases enumerates.starts
  | cons first rest =>
      have length := length_tuples bounds
      rw [listed] at enumerates length
      rw [← Option.some.inj enumerates.starts]
      exact visited_of_chain enumerates.follows enumerates.ends (by omega)

end Odometer
end Lib
end Awe
