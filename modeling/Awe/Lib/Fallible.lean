import Mathlib.Data.List.Forall2
import Mathlib.Algebra.Order.Ring.Int

namespace Awe
namespace Lib
namespace Fallible

/-!
# Loops that may fail

A loop that builds a list and stops at its first error is `List.mapM` in
`Except`.  It succeeds exactly if every round does, and then the results stand
in the order of the rounds.
-/

variable {A B E : Type}

theorem bind_ok_iff {first : Except E A} {next : A -> Except E B} {result : B} :
    (first >>= next) = .ok result ↔ Exists fun value => first = .ok value ∧
    next value = .ok result := by
  cases first with
  | error err =>
      constructor
      · intro impossible
        cases impossible
      · rintro ⟨_, impossible, _⟩
        cases impossible
  | ok value =>
      constructor
      · exact fun done => ⟨value, rfl, done⟩
      · rintro ⟨_, same, done⟩
        cases same
        exact done

theorem mapM_ok_iff {f : A -> Except E B} {list : List A} {results : List B} :
    list.mapM f = .ok results ↔
    List.Forall₂ (fun value result => f value = .ok result) list results := by
  induction list generalizing results with
  | nil =>
      rw [List.mapM_nil, List.forall₂_nil_left_iff]
      exact ⟨fun same => (Except.ok.inj same).symm, fun same => congrArg Except.ok same.symm⟩
  | cons head tail inductionHypothesis =>
      rw [List.mapM_cons]
      cases first : f head with
      | error err =>
          constructor
          · intro impossible
            cases impossible
          · intro every
            cases every with
            | cons here _ => rw [first] at here; cases here
      | ok value =>
          cases others : tail.mapM f with
          | error err =>
              constructor
              · intro impossible
                cases impossible
              · intro every
                cases every with
                | cons _ rest => rw [inductionHypothesis.mpr rest] at others; cases others
          | ok rest =>
              constructor
              · intro done
                cases done
                exact List.Forall₂.cons first (inductionHypothesis.mp others)
              · intro every
                cases every with
                | cons here later =>
                    rw [first] at here
                    rw [inductionHypothesis.mpr later] at others
                    cases here
                    cases others
                    rfl

theorem mapM_eq_ok_map {f : A -> Except E B} {g : A -> B} {list : List A}
    (every : forall value, value ∈ list -> f value = .ok (g value)) :
    list.mapM f = .ok (list.map g) := by
  rw [mapM_ok_iff, List.forall₂_map_right_iff, List.forall₂_same]
  exact every

theorem exists_mapM_ok {f : A -> Except E B} {list : List A}
    (every : forall value, value ∈ list -> Exists fun result => f value = .ok result) :
    Exists fun results => list.mapM f = .ok results := by
  induction list with
  | nil => exact ⟨[], rfl⟩
  | cons head tail inductionHypothesis =>
      rcases every head List.mem_cons_self with ⟨first, answered⟩
      obtain ⟨rest, done⟩ :=
          inductionHypothesis fun value member => every value (List.mem_cons_of_mem _ member)
      exact ⟨first :: rest, mapM_ok_iff.mpr (List.Forall₂.cons answered (mapM_ok_iff.mp done))⟩

/-- The results stand at the places of their rounds. -/
theorem getElem?_mapM_ok {f : A -> Except E B} {list : List A} {results : List B}
    (done : list.mapM f = .ok results) {k : Nat} {value : A} (listed : list[k]? = some value) :
    Exists fun result => results[k]? = some result ∧ f value = .ok result := by
  have every := mapM_ok_iff.mp done
  rcases List.getElem?_eq_some_iff.mp listed with ⟨small, rfl⟩
  have short : k < results.length := every.length_eq ▸ small
  exact ⟨results[k], List.getElem?_eq_getElem short, every.get small short⟩

theorem length_mapM_ok {f : A -> Except E B} {list : List A} {results : List B}
    (done : list.mapM f = .ok results) :
    results.length = list.length :=
  (mapM_ok_iff.mp done).length_eq.symm

/-- Every result comes from a round. -/
theorem mem_of_mapM_ok {f : A -> Except E B} {list : List A} {results : List B}
    (done : list.mapM f = .ok results) {result : B} (member : result ∈ results) :
    Exists fun value => value ∈ list ∧ f value = .ok result := by
  have every := mapM_ok_iff.mp done
  clear done
  induction every with
  | nil => cases member
  | cons here _ inductionHypothesis =>
      rcases List.mem_cons.mp member with rfl | later
      · exact ⟨_, List.mem_cons_self, here⟩
      · rcases inductionHypothesis later with ⟨value, listed, answered⟩
        exact ⟨value, List.mem_cons_of_mem _ listed, answered⟩

theorem mem_of_mapM_some {f : A -> Option B} {list : List A} {results : List B}
    (done : list.mapM f = some results) {result : B} (member : result ∈ results) :
    Exists fun value => value ∈ list ∧ f value = some result := by
  induction list generalizing results with
  | nil =>
      cases done
      cases member
  | cons value rest inductionHypothesis =>
      rw [List.mapM_cons, Option.bind_eq_bind, Option.bind_eq_some_iff] at done
      rcases done with ⟨first, answered, done⟩
      rw [Option.bind_eq_bind, Option.bind_eq_some_iff] at done
      rcases done with ⟨others, later, done⟩
      cases done
      rcases List.mem_cons.mp member with rfl | inside
      · exact ⟨value, List.mem_cons_self, answered⟩
      · rcases inductionHypothesis later inside with ⟨other, listed, found⟩
        exact ⟨other, List.mem_cons_of_mem _ listed, found⟩

theorem mapM_some_iff {f : A -> Option B} {list : List A} {results : List B} :
    list.mapM f = some results ↔
    List.Forall₂ (fun value result => f value = some result) list results := by
  induction list generalizing results with
  | nil =>
      rw [List.mapM_nil, List.forall₂_nil_left_iff]
      exact ⟨fun same => (Option.some.inj same).symm, fun same => congrArg some same.symm⟩
  | cons head tail inductionHypothesis =>
      rw [List.mapM_cons, Option.bind_eq_bind, Option.bind_eq_some_iff]
      constructor
      · rintro ⟨first, here, done⟩
        rw [Option.bind_eq_bind, Option.bind_eq_some_iff] at done
        rcases done with ⟨others, later, done⟩
        cases done
        exact List.Forall₂.cons here (inductionHypothesis.mp later)
      · intro every
        cases every with
        | cons here later =>
            refine ⟨_, here, ?_⟩
            rw [inductionHypothesis.mpr later]
            rfl

theorem mapM_none_of_mem {f : A -> Option B} {list : List A} {value : A} (member : value ∈ list)
    (refused : f value = none) :
    list.mapM f = none := by
  induction list with
  | nil => cases member
  | cons head rest inductionHypothesis =>
      rw [List.mapM_cons]
      rcases List.mem_cons.mp member with rfl | later
      · rw [refused]
        rfl
      · rw [inductionHypothesis later]
        cases f head <;> rfl

theorem exists_none_of_mapM {f : A -> Option B} {list : List A} (refused : list.mapM f = none) :
    Exists fun value => value ∈ list ∧ f value = none := by
  induction list with
  | nil => cases refused
  | cons head rest inductionHypothesis =>
      cases here : f head with
      | none => exact ⟨head, List.mem_cons_self, here⟩
      | some result =>
          rw [List.mapM_cons, here] at refused
          cases later : rest.mapM f with
          | none =>
              rcases inductionHypothesis later with ⟨value, member, none⟩
              exact ⟨value, List.mem_cons_of_mem _ member, none⟩
          | some results =>
              rw [later] at refused
              cases refused

theorem mem_mapM_some {f : A -> Option B} {list : List A} {results : List B}
    (done : list.mapM f = some results) {value : A} (member : value ∈ list) {result : B}
    (given : f value = some result) : result ∈ results := by
  induction list generalizing results with
  | nil => cases member
  | cons head rest inductionHypothesis =>
      rw [List.mapM_cons] at done
      cases here : f head with
      | none =>
          rw [here] at done
          cases done
      | some first =>
          cases later : rest.mapM f with
          | none =>
              rw [here, later] at done
              cases done
          | some others =>
              rw [here, later] at done
              cases done
              rcases List.mem_cons.mp member with rfl | inside
              · rw [here] at given
                cases given
                exact List.mem_cons_self
              · exact List.mem_cons_of_mem _ (inductionHypothesis later inside)

theorem toOption_map (f : A -> B) (result : Except E A) :
    (result.map f).toOption = result.toOption.map f := by
  cases result <;> rfl

theorem toOption_mapM {E : Type} {f : A -> Except E B} (list : List A) :
    (list.mapM f).toOption = list.mapM fun value => (f value).toOption := by
  induction list with
  | nil => rfl
  | cons head rest inductionHypothesis =>
      rw [List.mapM_cons, List.mapM_cons, <- inductionHypothesis]
      cases f head with
      | error err => rfl
      | ok result => cases rest.mapM f <;> rfl

theorem mapM_congr {f g : A -> Option B} {list : List A}
    (same : forall value, value ∈ list -> f value = g value) :
    list.mapM f = list.mapM g := by
  induction list with
  | nil => rfl
  | cons head rest inductionHypothesis =>
      rw [List.mapM_cons, List.mapM_cons, same head List.mem_cons_self,
        inductionHypothesis fun value member => same value (List.mem_cons_of_mem _ member)]

/-- A loop without results comes to its end exactly if every round does. -/
theorem forM_ok_iff {f : A -> Except E Unit} {list : List A} :
    list.forM f = .ok () ↔ forall value, value ∈ list -> f value = .ok () := by
  induction list with
  | nil => exact iff_of_true rfl fun value member => absurd member List.not_mem_nil
  | cons head tail inductionHypothesis =>
      rw [List.forall_mem_cons, <- inductionHypothesis]
      change (f head >>= fun _ => tail.forM f) = .ok () ↔ _
      cases first : f head with
      | error err => exact iff_of_false nofun fun both => (nomatch both.1)
      | ok done => exact ⟨fun later => ⟨rfl, later⟩, And.right⟩

/-- What holds of the rounds done so far holds when the loop has ended. -/
theorem foldlM_ok_induction {S : Type} {step : S -> A -> Except E S} {Holds : List A -> S -> Prop}
    {start : S} (begins : Holds [] start)
    (round : forall done value before after, Holds done before -> step before value = .ok after ->
      Holds (done ++ [value]) after)
    {list : List A} {last : S} (ended : list.foldlM step start = .ok last) : Holds list last := by
  have general : forall (rest done : List A) (before : S), Holds done before ->
      rest.foldlM step before = .ok last ->
      Holds (done ++ rest) last := by
    intro rest
    induction rest with
    | nil =>
        intro done before holds ended
        cases ended
        rw [List.append_nil]
        exact holds
    | cons value rest inductionHypothesis =>
        intro done before holds ended
        rw [List.foldlM_cons] at ended
        cases here : step before value with
        | error err =>
            rw [here] at ended
            cases ended
        | ok after =>
            rw [here] at ended
            have later := inductionHypothesis (done ++ [value]) after
                (round done value before after holds here) ended
            rw [List.append_assoc] at later
            exact later
  exact general list [] start begins ended

end Fallible
end Lib
end Awe
