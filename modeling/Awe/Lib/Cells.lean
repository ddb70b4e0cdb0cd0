import Awe.Lib.Fallible
import Mathlib.Algebra.BigOperators.Group.Finset.Basic

namespace Awe
namespace Lib
namespace Cells

/-!
# Updates of separate cells

A loop goes over a list of updates.  Each of them reads and writes one cell of a
store, or a state that is apart from the store, and counts what it has done; the
loop adds up the counts and stops at the first error.  The same cell may be
updated several times.

No update sees another cell than its own, or both a cell and the state apart.  So
the loop succeeds exactly if it does for every cell by itself and for the state
apart, and what it leaves, the store and the count, is put together from these.
-/

/-- An update of a cell, or a piece of work that concerns no cell. Both kinds stand in one list,
because the work may stop the updates and the other way round. -/
inductive Update (K U W : Type) where
  | cell (key : K) (use : U)
  | apart (work : W)

section

variable {A S E : Type}

/-- A loop that hands on a state, adds up counts and stops at the first error. Nothing is undone
at an error: what was done before it stays. -/
def inTurn (visit : A -> S -> Except E (S × Nat)) : List A -> S -> Except E (S × Nat)
  | [], state => .ok (state, 0)
  | part :: rest, state => do
      let first <- visit part state
      let later <- inTurn visit rest first.1
      .ok (later.1, first.2 + later.2)

theorem inTurn_cons_ok {visit : A -> S -> Except E (S × Nat)} {part : A} {rest : List A}
    {state last : S} {total : Nat} :
    inTurn visit (part :: rest) state = .ok (last, total) ↔
      Exists fun first : S × Nat => Exists fun count => visit part state = .ok first ∧
        inTurn visit rest first.1 = .ok (last, count) ∧ total = first.2 + count := by
  rw [inTurn, Fallible.bind_ok_iff]
  constructor
  · rintro ⟨first, here, more⟩
    rcases Fallible.bind_ok_iff.mp more with ⟨later, there, same⟩
    cases same
    exact ⟨first, later.2, here, there, rfl⟩
  · rintro ⟨first, count, here, there, rfl⟩
    exact ⟨first, here, Fallible.bind_ok_iff.mpr ⟨(last, count), there, rfl⟩⟩

end

section

variable {K C D U W E : Type}

section

variable (step : K -> U -> C -> Except E (C × Nat))

/-- The updates of one cell. -/
def runCell (key : K) : List U -> C -> Except E (C × Nat)
  | [], content => .ok (content, 0)
  | use :: rest, content => do
      let first <- step key use content
      let later <- runCell key rest first.1
      .ok (later.1, first.2 + later.2)

variable {step}

theorem runCell_cons_ok {key : K} {use : U} {rest : List U} {content after : C} {total : Nat} :
    runCell step key (use :: rest) content = .ok (after, total) ↔
      Exists fun first : C × Nat => Exists fun count => step key use content = .ok first ∧
        runCell step key rest first.1 = .ok (after, count) ∧ total = first.2 + count := by
  rw [runCell, Fallible.bind_ok_iff]
  constructor
  · rintro ⟨first, here, more⟩
    rcases Fallible.bind_ok_iff.mp more with ⟨later, there, same⟩
    cases same
    exact ⟨first, later.2, here, there, rfl⟩
  · rintro ⟨first, count, here, there, rfl⟩
    exact ⟨first, here, Fallible.bind_ok_iff.mpr ⟨(after, count), there, rfl⟩⟩

/-- Uses that do nothing leave a cell alone. -/
theorem runCell_idle {key : K} {uses : List U} {content : C}
    (idle : forall use, use ∈ uses -> step key use content = .ok (content, 0)) :
    runCell step key uses content = .ok (content, 0) := by
  induction uses with
  | nil => rfl
  | cons use rest inductionHypothesis =>
      exact runCell_cons_ok.mpr ⟨(content, 0), 0, idle use List.mem_cons_self,
        inductionHypothesis fun other member => idle other (List.mem_cons_of_mem _ member), rfl⟩

end

section

variable [DecidableEq K] (step : K -> U -> C -> Except E (C × Nat)) (done : W -> D ->
    Except E (D × Nat))

/-- One update, of the store or of the state apart. -/
def apply : Update K U W -> (K -> C) × D -> Except E (((K -> C) × D) × Nat)
  | .cell key use, (store, state) =>
      (step key use (store key)).map fun first =>
          ((Function.update store key first.1, state), first.2)
  | .apart work, (store, state) => (done work state).map fun first => ((store, first.1), first.2)

/-- The loop over all updates. -/
def run (updates : List (Update K U W)) (both : (K -> C) × D) : Except E (((K -> C) × D) × Nat) :=
  inTurn (apply step done) updates both

/-- The uses of one cell, in their order. -/
def usesAt (key : K) : List (Update K U W) -> List U
  | [] => []
  | .cell other use :: rest => if other = key then use :: usesAt key rest else usesAt key rest
  | .apart _ :: rest => usesAt key rest

/-- The pieces of work that concern no cell, in their order. -/
def works : List (Update K U W) -> List W
  | [] => []
  | .cell _ _ :: rest => works rest
  | .apart work :: rest => work :: works rest

/-- The cells that are updated. -/
def keys : List (Update K U W) -> Finset K
  | [] => ∅
  | .cell key _ :: rest => insert key (keys rest)
  | .apart _ :: rest => keys rest

theorem usesAt_of_not_mem {key : K} {updates : List (Update K U W)} (absent : key ∉ keys updates) :
    usesAt key updates = [] := by
  induction updates with
  | nil => rfl
  | cons update rest inductionHypothesis =>
      cases update with
      | apart work => exact inductionHypothesis absent
      | cell other use =>
          have both : key ≠ other ∧ key ∉ keys rest := by
            simpa only [keys, Finset.mem_insert, not_or] using absent
          change (if other = key then use :: usesAt key rest else usesAt key rest) = []
          rw [if_neg (Ne.symm both.1), inductionHypothesis both.2]

theorem usesAt_ne_nil {key : K} {updates : List (Update K U W)} (updated : key ∈ keys updates) :
    usesAt key updates ≠ [] := by
  induction updates with
  | nil => cases updated
  | cons update rest inductionHypothesis =>
      cases update with
      | apart work => exact inductionHypothesis updated
      | cell other use =>
          change (if other = key then use :: usesAt key rest else usesAt key rest) ≠ []
          by_cases same : other = key
          · rw [if_pos same]
            exact List.cons_ne_nil _ _
          · rw [if_neg same]
            exact inductionHypothesis (Finset.mem_of_mem_insert_of_ne updated (Ne.symm same))

/-- One more use of a cell adds to the count of this cell alone. -/
theorem sum_insert_count {cells : Finset K} {counts others : K -> Nat} {key : K} {first : Nat}
    (here : counts key = first + others key)
    (elsewhere : forall other, other ≠ key -> counts other = others other)
    (unused : key ∉ cells -> others key = 0) :
    ∑ cell ∈ insert key cells, counts cell = first + ∑ cell ∈ cells, others cell := by
  have rest : ∑ cell ∈ cells.erase key, counts cell = ∑ cell ∈ cells.erase key, others cell :=
    Finset.sum_congr rfl fun other member => elsewhere other (Finset.ne_of_mem_erase member)
  by_cases member : key ∈ cells
  · rw [Finset.insert_eq_of_mem member, <- Finset.add_sum_erase cells counts member,
      <- Finset.add_sum_erase cells others member, rest, here, Nat.add_assoc]
  · rw [Finset.erase_eq_of_notMem member] at rest
    rw [Finset.sum_insert member, rest, here, unused member, Nat.add_zero]

variable {step done}

theorem run_cell_ok {key : K} {use : U} {rest : List (Update K U W)} {store : K -> C} {state : D}
    {last : (K -> C) × D} {total : Nat} :
    run step done (.cell key use :: rest) (store, state) = .ok (last, total) ↔
      Exists fun first : C × Nat => Exists fun count => step key use (store key) = .ok first ∧
        run step done rest (Function.update store key first.1, state) = .ok (last, count) ∧
            total = first.2 + count := by
  rw [run, inTurn_cons_ok, apply]
  constructor
  · rintro ⟨after, count, here, there, rfl⟩
    cases stepped : step key use (store key) with
    | error err =>
        rw [stepped] at here
        cases here
    | ok first =>
        rw [stepped] at here
        cases here
        exact ⟨first, count, rfl, there, rfl⟩
  · rintro ⟨first, count, here, there, rfl⟩
    rw [here]
    exact ⟨_, count, rfl, there, rfl⟩

theorem run_apart_ok {work : W} {rest : List (Update K U W)} {store : K -> C} {state : D}
    {last : (K -> C) × D} {total : Nat} :
    run step done (.apart work :: rest) (store, state) = .ok (last, total) ↔
      Exists fun first : D × Nat => Exists fun count => done work state = .ok first ∧
        run step done rest (store, first.1) = .ok (last, count) ∧ total = first.2 + count := by
  rw [run, inTurn_cons_ok, apply]
  constructor
  · rintro ⟨after, count, here, there, rfl⟩
    cases worked : done work state with
    | error err =>
        rw [worked] at here
        cases here
    | ok first =>
        rw [worked] at here
        cases here
        exact ⟨first, count, rfl, there, rfl⟩
  · rintro ⟨first, count, here, there, rfl⟩
    rw [here]
    exact ⟨_, count, rfl, there, rfl⟩

theorem run_append_ok {front back : List (Update K U W)} {both last : (K -> C) × D} {total : Nat} :
    run step done (front ++ back) both = .ok (last, total) ↔
      Exists fun first : ((K -> C) × D) × Nat => Exists fun count =>
          run step done front both = .ok first ∧
        run step done back first.1 = .ok (last, count) ∧ total = first.2 + count := by
  induction front generalizing both total with
  | nil =>
      constructor
      · intro ran
        exact ⟨(both, 0), total, rfl, ran, (Nat.zero_add total).symm⟩
      · rintro ⟨first, count, here, there, rfl⟩
        cases here
        rw [Nat.zero_add]
        exact there
  | cons update rest inductionHypothesis =>
      rw [List.cons_append]
      change inTurn (apply step done) (update :: (rest ++ back)) both = _ ↔ _
      rw [inTurn_cons_ok]
      constructor
      · rintro ⟨first, count, here, there, rfl⟩
        rcases inductionHypothesis.mp there with ⟨middle, more, front, back, rfl⟩
        exact ⟨(middle.1, first.2 + middle.2), more,
            inTurn_cons_ok.mpr ⟨first, middle.2, here, front, rfl⟩, back,
          (Nat.add_assoc ..).symm⟩
      · rintro ⟨⟨middle, count⟩, more, whole, back, rfl⟩
        rcases inTurn_cons_ok.mp whole with ⟨first, added, here, front, rfl⟩
        exact ⟨first, added + more, here, inductionHypothesis.mpr
            ⟨(middle, added), more, front, back, rfl⟩,
          Nat.add_assoc ..⟩

/-- A cell that is not updated has nothing to count. -/
theorem runCell_unused {key : K} {rest : List (Update K U W)} {content after : C} {count : Nat}
    (ran : runCell step key (usesAt key rest) content = .ok (after, count))
    (unused : key ∉ keys rest) : count = 0 := by
  rw [usesAt_of_not_mem unused] at ran
  exact (congrArg Prod.snd (Except.ok.inj ran)).symm

/-- The main result: the loop goes on in every cell, and apart from the cells, as if there were
nothing else. So a loop over many cells may be studied one cell at a time, which is what makes it
tractable when several parts of a program share them. -/
theorem run_ok_iff {updates : List (Update K U W)} {store after : K -> C} {state last : D}
    {total : Nat} :
    run step done updates (store, state) = .ok ((after, last), total) ↔
      Exists fun counts : K -> Nat => Exists fun extra : Nat =>
        (forall key, runCell step key (usesAt key updates) (store key) = .ok
            (after key, counts key)) ∧
          inTurn done (works updates) state = .ok (last, extra) ∧ total = ∑ key ∈ keys updates,
              counts key + extra := by
  induction updates generalizing store state total with
  | nil =>
      constructor
      · intro ended
        cases ended
        exact ⟨fun _ => 0, 0, fun key => rfl, rfl, rfl⟩
      · rintro ⟨counts, extra, every, none, rfl⟩
        have same : store = after := by
          funext key
          exact congrArg Prod.fst (Except.ok.inj (every key))
        cases none
        rw [same]
        rfl
  | cons update rest inductionHypothesis =>
      cases update with
      | apart work =>
          change _ ↔ Exists fun counts : K -> Nat => Exists fun extra : Nat =>
            (forall key, runCell step key (usesAt key rest) (store key) = .ok
                (after key, counts key)) ∧
              inTurn done (work :: works rest) state = .ok (last, extra) ∧
                total = ∑ key ∈ keys rest, counts key + extra
          rw [run_apart_ok]
          constructor
          · rintro ⟨first, count, here, there, rfl⟩
            rcases inductionHypothesis.mp there with ⟨counts, extra, every, worked, rfl⟩
            exact ⟨counts, first.2 + extra, every,
                inTurn_cons_ok.mpr ⟨first, extra, here, worked, rfl⟩,
              Nat.add_left_comm ..⟩
          · rintro ⟨counts, extra, every, worked, rfl⟩
            rcases inTurn_cons_ok.mp worked with ⟨first, more, here, there, rfl⟩
            exact ⟨first, _, here, inductionHypothesis.mpr ⟨counts, more, every, there, rfl⟩,
                Nat.add_left_comm ..⟩
      | cell key use =>
          have atKey : usesAt key (.cell key use :: rest) = use :: usesAt key rest := if_pos rfl
          have atOther : forall other, other ≠ key ->
              usesAt other (.cell key use :: rest) = usesAt other rest :=
            fun other different => if_neg (Ne.symm different)
          change _ ↔ Exists fun counts : K -> Nat => Exists fun extra : Nat =>
            (forall other, runCell step other (usesAt other (.cell key use :: rest)) (store other) =
              .ok (after other, counts other)) ∧
              inTurn done (works rest) state = .ok (last, extra) ∧
                total = ∑ cell ∈ insert key (keys rest), counts cell + extra
          rw [run_cell_ok]
          constructor
          · rintro ⟨first, count, here, there, rfl⟩
            rcases inductionHypothesis.mp there with ⟨counts, extra, every, worked, rfl⟩
            have inKey := every key
            rw [Function.update_self] at inKey
            refine ⟨Function.update counts key (first.2 + counts key), extra, ?_, worked, ?_⟩
            · intro other
              by_cases same : other = key
              · rw [same, atKey, Function.update_self]
                exact runCell_cons_ok.mpr ⟨first, counts key, here, inKey, rfl⟩
              · have elsewhere := every other
                rw [Function.update_of_ne same] at elsewhere
                rw [atOther other same, Function.update_of_ne same]
                exact elsewhere
            · rw [sum_insert_count (Function.update_self ..)
                (fun other different => Function.update_of_ne different ..)
                (runCell_unused inKey), Nat.add_assoc]
          · rintro ⟨counts, extra, every, worked, rfl⟩
            have inKey := every key
            rw [atKey] at inKey
            rcases runCell_cons_ok.mp inKey with ⟨first, count, here, there, sum⟩
            have parts : forall other, runCell step other (usesAt other rest)
                (Function.update store key first.1 other) =
                .ok (after other, Function.update counts key count other) := by
              intro other
              by_cases same : other = key
              · rw [same, Function.update_self, Function.update_self]
                exact there
              · have elsewhere := every other
                rw [atOther other same] at elsewhere
                rw [Function.update_of_ne same, Function.update_of_ne same]
                exact elsewhere
            refine ⟨first, _, here, inductionHypothesis.mpr ⟨_, extra, parts, worked, rfl⟩, ?_⟩
            have unused : key ∉ keys rest -> Function.update counts key count key = 0 := by
              rw [Function.update_self]
              exact runCell_unused there
            rw [sum_insert_count (by rw [Function.update_self, sum])
              (fun other different => (Function.update_of_ne different ..).symm) unused,
                  Nat.add_assoc]

end

end

end Cells
end Lib
end Awe
