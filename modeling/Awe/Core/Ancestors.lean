import Awe.Core.JobControl
import Awe.Lib.Follow

namespace Awe
namespace Core

open Lib

/-!
# Which tasks depend on a task

`isAncestor` is meant to decide whether one task depends on another, through any
number of steps.  Its loop over the dependencies of a task returns in the first
round, so it follows only the first dependency of each task it visits, and it
keeps no list of these tasks.  It finds a dependency that one of the visited
tasks names itself, misses every other one, and does not end on a cycle.

`RecomputeJob` asks it about every task of the job.  What it resets is right as
long as the missed tasks are reset for another reason.
-/

namespace Store

section

variable (store : Store) (tasks : List Nat)

/-- A task of the list with the first name names the second among its dependencies. -/
def DependsOn (task dependency : String) : Prop :=
  Exists fun ptr => ptr ∈ tasks ∧ (store.task ptr).ident.string = (task, none) ∧
      dependency ∈ (store.task ptr).dependsOn

/-- The second name is reached from the first one through dependencies. -/
def Depends (task dependency : String) : Prop :=
  Relation.TransGen (DependsOn store tasks) task dependency

/-- The first dependency of a task, which is the only one that is followed. `isAncestor` returns
in the first round of its loop, and so it never sees the others. -/
def FirstDependency (task dependency : String) : Prop :=
  Exists fun ptr => Exists fun rest =>
    store.findTask task tasks = .ok (some ptr) ∧ (store.task ptr).dependsOn = dependency :: rest

/-- A task on the chain of first dependencies names the tested one. -/
def Named (task testId : String) : Prop :=
  Exists fun visited => Relation.ReflTransGen (FirstDependency store tasks) task visited ∧
    Exists fun ptr => store.findTask visited tasks = .ok (some ptr) ∧
        testId ∈ (store.task ptr).dependsOn

/-- The chain of first dependencies ends. The chain follows the first dependency of each task, and
goes on for ever if it comes back to a task that it has passed. -/
def ChainEnds (task : String) : Prop :=
  Exists fun last => Relation.ReflTransGen (FirstDependency store tasks) task last ∧
    forall dependency, ¬FirstDependency store tasks last dependency

/-- `isAncestor` ends without an error, and it is right. Right means that it answers `true`
exactly for a task that is reached through dependencies; without an end there is no answer at all.
-/
def DecidesAncestor (taskId testId : String) : Prop :=
  Exists fun result =>
      (Exists fun depth => store.isAncestor tasks depth taskId testId = .ok (.ok result)) ∧
    (result = true ↔ Depends store tasks taskId testId)

/-- The tasks have identifiers, as `job.Init` sees to. A task that has no text for its identifier
would be an error in the loop over the tasks. -/
def Identified : Prop :=
  forall ptr, ptr ∈ tasks -> (store.task ptr).ident.string.2 = none

end

section

variable {store : Store} {tasks : List Nat} {taskId testId : String}

/-! ## One call of `isAncestor` -/

theorem findTask_spec {ptr : Nat} (found : store.findTask taskId tasks = .ok (some ptr)) :
    ptr ∈ tasks ∧ (store.task ptr).ident.string = (taskId, none) := by
  induction tasks with
  | nil => cases found
  | cons first rest inductionHypothesis =>
      unfold findTask at found
      split at found
      · cases found
      · next text named =>
          split_ifs at found with same
          · cases found
            exact ⟨List.mem_cons_self, by rw [named, same]⟩
          · rcases inductionHypothesis found with ⟨member, named⟩
            exact ⟨List.mem_cons_of_mem _ member, named⟩

theorem findTask_ok (identified : Identified store tasks) (taskId : String) :
    Exists fun found => store.findTask taskId tasks = .ok found := by
  induction tasks with
  | nil => exact ⟨_, rfl⟩
  | cons first rest inductionHypothesis =>
      have named := identified first List.mem_cons_self
      unfold findTask
      split
      · next text err failed =>
          rw [failed] at named
          cases named
      · split_ifs
        · exact ⟨_, rfl⟩
        · exact inductionHypothesis fun ptr member => identified ptr (List.mem_cons_of_mem _ member)

/-- The task that the next call is about, if there is a next call. -/
def nextAncestor (store : Store) (tasks : List Nat) (testId taskId : String) : Option String :=
  if taskId = testId then none
  else
    match store.findTask taskId tasks with
    | .ok (some ptr) =>
        match (store.task ptr).dependsOn with
        | [] => none
        | first :: rest => if testId ∈ first :: rest then none else some first
    | _ => none

theorem nextAncestor_spec {first : String}
    (follows : nextAncestor store tasks testId taskId = some first) :
    taskId ≠ testId ∧ Exists fun ptr => Exists fun rest =>
        store.findTask taskId tasks = .ok (some ptr) ∧
      (store.task ptr).dependsOn = first :: rest ∧ testId ∉ first :: rest := by
  unfold nextAncestor at follows
  split_ifs at follows with same
  split at follows
  · next ptr found =>
      split at follows
      · cases follows
      · next first rest listed =>
          split_ifs at follows with named
          cases follows
          exact ⟨same, ptr, rest, found, listed, named⟩
  · cases follows

/-- A call ends, or it asks about the next task. -/
theorem isAncestor_succ (depth : Nat) : store.isAncestor tasks (depth + 1) taskId testId =
    match nextAncestor store tasks testId taskId with
    | some first => store.isAncestor tasks depth first testId
    | none => store.isAncestor tasks 1 taskId testId := by
  cases follows : nextAncestor store tasks testId taskId with
  | some first =>
      rcases nextAncestor_spec follows with ⟨different, ptr, rest, found, listed, unnamed⟩
      simp only [isAncestor, if_neg different, found, listed, if_neg unnamed]
  | none =>
      unfold nextAncestor at follows
      split_ifs at follows with same
      · simp only [isAncestor, if_pos same]
      · split at follows
        · next ptr found =>
            split at follows
            · next empty => simp only [isAncestor, if_neg same, found, empty]
            · next first rest listed =>
                split_ifs at follows with named
                simp only [isAncestor, if_neg same, found, listed, if_pos named]
        · next found =>
            simp only [isAncestor, if_neg same]
            split
            · rfl
            · rfl
            · next ptr present => exact (found ptr present).elim

/-- A call that asks about no further task ends. -/
theorem isAncestor_one (stops : nextAncestor store tasks testId taskId = none) :
    Exists fun result => store.isAncestor tasks 1 taskId testId = .ok result := by
  unfold nextAncestor at stops
  split_ifs at stops with same
  · exact ⟨.ok false, by simp only [isAncestor, if_pos same]⟩
  · simp only [isAncestor, if_neg same]
    split
    · exact ⟨_, rfl⟩
    · exact ⟨_, rfl⟩
    · next ptr found =>
        rw [found] at stops
        dsimp only at stops
        split
        · exact ⟨_, rfl⟩
        · next first rest listed =>
            rw [listed] at stops
            dsimp only at stops
            split_ifs at stops with named
            rw [if_pos named]
            exact ⟨_, rfl⟩

theorem isAncestor_cases (depth : Nat) (taskId testId : String) :
    store.isAncestor tasks depth taskId testId = .error .diverges ∨
      Exists fun result => store.isAncestor tasks depth taskId testId = .ok result := by
  induction depth generalizing taskId with
  | zero => exact Or.inl rfl
  | succ depth inductionHypothesis =>
      rw [isAncestor_succ]
      cases follows : nextAncestor store tasks testId taskId with
      | some first => exact inductionHypothesis first
      | none => exact Or.inr (isAncestor_one follows)

/-- The calls are open for as long as there is a next task. -/
theorem isAncestor_diverges_iff (depth : Nat) :
    store.isAncestor tasks depth taskId testId = .error .diverges ↔
    (follow (nextAncestor store tasks testId) depth taskId).isSome := by
  induction depth generalizing taskId with
  | zero => exact iff_of_true rfl rfl
  | succ depth inductionHypothesis =>
      rw [isAncestor_succ, follow]
      cases follows : nextAncestor store tasks testId taskId with
      | some first => exact inductionHypothesis
      | none =>
          rcases isAncestor_one follows with ⟨result, ended⟩
          dsimp only
          rw [ended]
          exact iff_of_false (fun same => by cases same) (fun some => by cases some)

/-- Only the tasks of the list can be followed, so their number bounds the calls. -/
theorem isAncestor_diverges
    (long : store.isAncestor tasks (tasks.length + 1) taskId testId = .error .diverges)
    (depth : Nat) : store.isAncestor tasks depth taskId testId = .error .diverges := by
  rw [isAncestor_diverges_iff] at long ⊢
  refine follow_isSome_of_long (tasks.map fun ptr => (store.task ptr).ident.string.1) ?_ ?_ depth
  · intro task follows
    rcases Option.isSome_iff_exists.mp follows with ⟨first, follows⟩
    rcases nextAncestor_spec follows with ⟨_, ptr, _, found, _⟩
    rcases findTask_spec found with ⟨member, named⟩
    exact List.mem_map.mpr ⟨ptr, member, by rw [named]⟩
  · rwa [List.length_map]

/-! ## What the calls answer -/

theorem dependsOn_of_firstDependency {first : String}
    (follows : FirstDependency store tasks taskId first) :
    DependsOn store tasks taskId first := by
  rcases follows with ⟨ptr, rest, found, listed⟩
  rcases findTask_spec found with ⟨member, named⟩
  exact ⟨ptr, member, named, by rw [listed]; exact List.mem_cons_self⟩

/-- A named task is a dependency. -/
theorem depends_of_named (named : Named store tasks taskId testId) :
    Depends store tasks taskId testId := by
  rcases named with ⟨visited, chain, ptr, found, listed⟩
  rcases findTask_spec found with ⟨member, name⟩
  have weaker : FirstDependency store tasks ≤ DependsOn store tasks :=
      fun _ _ => dependsOn_of_firstDependency
  exact Relation.TransGen.tail' (Relation.ReflTransGen.mono weaker _ _ chain)
      ⟨ptr, member, name, listed⟩

/-- If there is no next call, this one finds the tested task exactly if its own task names it. -/
theorem isAncestor_of_stop (identified : Identified store tasks) (different : taskId ≠ testId)
    (stops : nextAncestor store tasks testId taskId = none) :
    (store.isAncestor tasks 1 taskId testId = .ok (.ok true) ∧
      Exists fun ptr => store.findTask taskId tasks = .ok (some ptr) ∧
      testId ∈ (store.task ptr).dependsOn) ∨
    (store.isAncestor tasks 1 taskId testId = .ok (.ok false) ∧
      forall dependency, ¬FirstDependency store tasks taskId dependency) := by
  rcases findTask_ok identified taskId with ⟨found, looked⟩
  simp only [isAncestor, nextAncestor, if_neg different, looked] at stops ⊢
  cases found with
  | none =>
      refine Or.inr ⟨rfl, fun dependency follows => ?_⟩
      rcases follows with ⟨ptr, rest, found, _⟩
      rw [looked] at found
      cases found
  | some ptr =>
      dsimp only at stops ⊢
      cases listed : (store.task ptr).dependsOn with
      | nil =>
          refine Or.inr ⟨rfl, fun dependency follows => ?_⟩
          rcases follows with ⟨other, rest, found, more⟩
          rw [looked] at found
          cases found
          rw [listed] at more
          cases more
      | cons first rest =>
          rw [listed] at stops
          dsimp only at stops ⊢
          split_ifs at stops with named
          rw [if_pos named]
          exact Or.inl ⟨rfl, ptr, rfl, by rw [listed]; exact named⟩

/-- A call that asks about the next task: its own task does not name the tested one. -/
theorem named_of_next {first : String}
    (follows : nextAncestor store tasks testId taskId = some first) :
    first ≠ testId ∧ FirstDependency store tasks taskId first ∧
      (Named store tasks taskId testId -> Named store tasks first testId) ∧
      (ChainEnds store tasks taskId -> ChainEnds store tasks first) := by
  rcases nextAncestor_spec follows with ⟨_, ptr, rest, found, listed, unnamed⟩
  have only {other : String} (step : FirstDependency store tasks taskId other) : other = first := by
    rcases step with ⟨again, more, foundAgain, listedAgain⟩
    rw [found] at foundAgain
    cases foundAgain
    rw [listed] at listedAgain
    cases listedAgain
    rfl
  refine ⟨?_, ⟨ptr, rest, found, listed⟩, ?_, ?_⟩
  · rintro rfl
    exact unnamed List.mem_cons_self
  · rintro ⟨visited, chain, other, foundOther, named⟩
    rcases Relation.ReflTransGen.cases_head chain with rfl | ⟨middle, step, chain⟩
    · rw [found] at foundOther
      cases foundOther
      rw [listed] at named
      exact (unnamed named).elim
    · rw [only step] at chain
      exact ⟨visited, chain, other, foundOther, named⟩
  · rintro ⟨last, chain, ends⟩
    rcases Relation.ReflTransGen.cases_head chain with rfl | ⟨middle, step, chain⟩
    · exact (ends first ⟨ptr, rest, found, listed⟩).elim
    · rw [only step] at chain
      exact ⟨last, chain, ends⟩

/-- An answer tells whether the tested task is named, and a refusal comes from the end of the chain.
-/
theorem isAncestor_sound (identified : Identified store tasks) (different : taskId ≠ testId)
    {depth : Nat} {answer : Except String Bool}
    (asked : store.isAncestor tasks depth taskId testId = .ok answer) :
    (answer = .ok true ∧ Named store tasks taskId testId) ∨
      (answer = .ok false ∧ ¬Named store tasks taskId testId ∧ ChainEnds store tasks taskId) := by
  induction depth generalizing taskId with
  | zero => cases asked
  | succ depth inductionHypothesis =>
      rw [isAncestor_succ] at asked
      cases follows : nextAncestor store tasks testId taskId with
      | some first =>
          rw [follows] at asked
          rcases named_of_next follows with ⟨apart, step, named, _⟩
          rcases inductionHypothesis apart asked with ⟨yes, visited, chain, found⟩
              | ⟨no, unnamed, last, chain, ends⟩
          · exact Or.inl ⟨yes, visited, chain.head step, found⟩
          · exact Or.inr ⟨no, fun found => unnamed (named found), last, chain.head step, ends⟩
      | none =>
          rw [follows] at asked
          dsimp only at asked
          rcases isAncestor_of_stop identified different follows with ⟨yes, found⟩ | ⟨no, ends⟩
          · rw [yes] at asked
            cases asked
            exact Or.inl ⟨rfl, taskId, .refl, found⟩
          · rw [no] at asked
            cases asked
            refine Or.inr ⟨rfl, ?_, taskId, .refl, ends⟩
            rintro ⟨visited, chain, ptr, found, named⟩
            rcases Relation.ReflTransGen.cases_head chain with rfl | ⟨middle, step, _⟩
            · cases listed : (store.task ptr).dependsOn with
              | nil => rw [listed] at named; cases named
              | cons first rest => exact ends first ⟨ptr, rest, found, listed⟩
            · exact ends middle step

/-- The calls end if some task of the chain asks about no further one. -/
theorem isAncestor_ends_along {last : String}
    (chain : Relation.ReflTransGen (FirstDependency store tasks) taskId last)
    (stops : nextAncestor store tasks testId last = none) :
    Exists fun depth => Exists fun answer => store.isAncestor tasks depth taskId testId =
        .ok answer := by
  -- by induction along the chain, from its last task back to the first
  induction chain using Relation.ReflTransGen.head_induction_on with
  | refl => exact ⟨1, isAncestor_one stops⟩
  | @head task middle step _ inductionHypothesis =>
      cases follows : nextAncestor store tasks testId task with
      | none => exact ⟨1, isAncestor_one follows⟩
      | some first =>
          rcases inductionHypothesis with ⟨depth, answer, ended⟩
          rcases nextAncestor_spec follows with ⟨_, ptr, rest, found, listed, _⟩
          rcases step with ⟨again, more, foundAgain, listedAgain⟩
          rw [found] at foundAgain
          cases foundAgain
          rw [listed] at listedAgain
          cases listedAgain
          refine ⟨depth + 1, answer, ?_⟩
          rw [isAncestor_succ, follows]
          exact ended

/-- If a visited task names the tested one, or if the chain ends, the calls end. -/
theorem isAncestor_ends (ends : Named store tasks taskId testId ∨ ChainEnds store tasks taskId) :
    Exists fun depth => Exists fun answer => store.isAncestor tasks depth taskId testId =
        .ok answer := by
  rcases ends with ⟨visited, chain, ptr, found, named⟩ | ⟨last, chain, ends⟩
  · apply isAncestor_ends_along chain
    cases follows : nextAncestor store tasks testId visited with
    | none => rfl
    | some first =>
        rcases nextAncestor_spec follows with ⟨_, other, rest, foundOther, listed, unnamed⟩
        rw [found] at foundOther
        cases foundOther
        rw [listed] at named
        exact (unnamed named).elim
  · apply isAncestor_ends_along chain
    cases follows : nextAncestor store tasks testId last with
    | none => rfl
    | some first => exact (ends first (named_of_next follows).2.1).elim

/-- `isAncestor` is right exactly if a task on the chain of first dependencies names the
tested one, or the chain ends and no dependency leads to it. -/
theorem decidesAncestor_iff (identified : Identified store tasks) (different : taskId ≠ testId) :
    DecidesAncestor store tasks taskId testId ↔
      Named store tasks taskId testId ∨
        (ChainEnds store tasks taskId ∧ ¬Depends store tasks taskId testId) := by
  constructor
  · rintro ⟨result, ⟨depth, asked⟩, right⟩
    rcases isAncestor_sound identified different asked with ⟨yes, named⟩ | ⟨no, _, ends⟩
    · exact Or.inl named
    · cases no
      exact Or.inr ⟨ends, fun depends => (nomatch right.mpr depends)⟩
  · intro admitted
    have ends : Named store tasks taskId testId ∨ ChainEnds store tasks taskId :=
        admitted.imp_right And.left
    rcases isAncestor_ends ends with ⟨depth, answer, asked⟩
    rcases isAncestor_sound identified different asked with ⟨rfl, named⟩ | ⟨rfl, unnamed, _⟩
    · exact ⟨true, ⟨depth, asked⟩, iff_of_true rfl (depends_of_named named)⟩
    · rcases admitted with named | ⟨_, free⟩
      · exact (unnamed named).elim
      · exact ⟨false, ⟨depth, asked⟩, iff_of_false Bool.false_ne_true free⟩

end

/-! ## The loops that reset tasks -/

/-- What `ResetTaskTrue` may change: it marks tasks, and it changes the state of
a task that it marks. -/
structure Resetting (store after : Store) : Prop where
  ident : forall ptr, (after.task ptr).ident = (store.task ptr).ident
  dependsOn : forall ptr, (after.task ptr).dependsOn = (store.task ptr).dependsOn
  workflowInstanceID : forall ptr, (after.task ptr).workflowInstanceID =
      (store.task ptr).workflowInstanceID
  marked : forall ptr, (store.task ptr).resetTask = true -> (after.task ptr).resetTask = true
  state : forall ptr, (after.task ptr).state = (store.task ptr).state ∨
      (after.task ptr).resetTask = true

theorem Resetting.refl (store : Store) : Resetting store store :=
  ⟨fun _ => rfl, fun _ => rfl, fun _ => rfl, fun _ => id, fun _ => Or.inl rfl⟩

theorem Resetting.trans {store middle after : Store} (first : Resetting store middle)
    (second : Resetting middle after) : Resetting store after where
  ident ptr := (second.ident ptr).trans (first.ident ptr)
  dependsOn ptr := (second.dependsOn ptr).trans (first.dependsOn ptr)
  workflowInstanceID ptr := (second.workflowInstanceID ptr).trans (first.workflowInstanceID ptr)
  marked ptr flag := second.marked ptr (first.marked ptr flag)
  state ptr := by
    rcases second.state ptr with same | flag
    · rcases first.state ptr with before | flag
      · exact Or.inl (same.trans before)
      · exact Or.inr (second.marked ptr flag)
    · exact Or.inr flag

section

variable {store after : Store} {tasks : List Nat}

/-- The task of an old-style job is marked, and no other. -/
theorem resetTaskTrue_marks {ptr : Nat} (identified : (store.task ptr).ident.string.2 = none)
    (oldStyle : (store.task ptr).workflowInstanceID = "") :
    Exists fun after => store.resetTaskTrue ptr = (after, none) ∧ Resetting store after ∧
      forall other, (after.task other).resetTask = true ↔ (store.task other).resetTask = true ∨
          other = ptr := by
  unfold resetTaskTrue
  split_ifs with already
  · refine ⟨store, rfl, Resetting.refl store, fun other => ?_⟩
    constructor
    · exact Or.inl
    · rintro (flag | rfl)
      · exact flag
      · exact already
  · have jobId : (store.task ptr).ident.jobId ≠ "" := by
      intro empty
      unfold TaskUniqueIdentifier.string at identified
      rw [if_pos empty] at identified
      split_ifs at identified
    have accepted : ¬((store.task ptr).workflowInstanceID ≠ "" ∧
        (store.task ptr).workflowInstanceUUID = "") :=
      fun both => both.1 oldStyle
    have pending : Exists fun middle => store.taskSetState ptr .pending = (middle, none) ∧
        middle = store.modifyTask ptr fun task => { task with state := .pending } := by
      unfold taskSetState
      simp only [if_neg jobId, if_neg accepted]
      split_ifs with same completes
      · refine ⟨store, rfl, ?_⟩
        have unchanged : { store.task ptr with state := ProcessState.pending } = store.task ptr :=
            by rw [<- same]
        dsimp only [modifyTask]
        rw [unchanged, Function.update_eq_self]
      · exact absurd completes (by decide)
      · exact ⟨_, rfl, rfl⟩
    rcases pending with ⟨middle, wrote, rfl⟩
    rw [wrote]
    have written : forall other,
        (((store.modifyTask ptr fun task => { task with state := .pending }).modifyTask ptr
        fun task => { task with resetTask := true }).task other) =
          if other = ptr then { store.task other with state := .pending, resetTask := true } else
              store.task other := by
      intro other
      by_cases same : other = ptr
      · rw [if_pos same, same, modifyTask_self, modifyTask_self]
      · rw [if_neg same, modifyTask_of_ne _ same, modifyTask_of_ne _ same]
    refine ⟨_, rfl, ⟨?_, ?_, ?_, ?_, ?_⟩, ?_⟩
    all_goals
      intro other
      rw [written]
      by_cases same : other = ptr
    all_goals simp [same]

/-- A loop that picks some tasks once and for all, and others by their state: it ends
if each verdict does, and marks what it picks. -/
theorem resetWhere_marks {caller : String} {pick : Store -> Nat -> Except Halt (Except String Bool)}
    {verdict : Nat -> Option Bool} {stated : ProcessState -> Bool}
    (picks : forall now, Resetting store now -> forall ptr, ptr ∈ tasks -> pick now ptr =
      match verdict ptr with
      | none => .error .diverges
      | some answer => .ok (.ok (answer || stated (now.task ptr).state)))
    (identified : Identified store tasks) (oldStyle : forall ptr, ptr ∈ tasks ->
        (store.task ptr).workflowInstanceID = "") :
    (store.resetWhere caller pick tasks = .error .diverges ∧ Exists fun ptr => ptr ∈ tasks ∧
        verdict ptr = none) ∨
      (Exists fun after => Exists fun found => store.resetWhere caller pick tasks = .ok
          (after, none, found) ∧
        (forall ptr, ptr ∈ tasks -> verdict ptr ≠ none) ∧ Resetting store after ∧
        (forall ptr, (after.task ptr).resetTask = true ↔ (store.task ptr).resetTask = true ∨
          (ptr ∈ tasks ∧ (verdict ptr = some true ∨ stated (store.task ptr).state = true))) ∧
        ((Exists fun ptr => ptr ∈ tasks ∧ verdict ptr = some true) -> found = true)) := by
  induction tasks generalizing store with
  | nil =>
      refine Or.inr ⟨store, false, rfl, nofun, Resetting.refl store, fun ptr => ?_, nofun⟩
      exact ⟨Or.inl, fun either => either.resolve_right fun picked => (nomatch picked.1)⟩
  | cons ptr rest inductionHypothesis =>
      have now := picks store (Resetting.refl store) ptr List.mem_cons_self
      have later {middle : Store} (resetting : Resetting store middle) :=
        @inductionHypothesis middle
          (fun now more other member => picks now (resetting.trans more) other (List.mem_cons_of_mem _ member))
          (fun other member => by rw [resetting.ident]; exact identified other (List.mem_cons_of_mem _ member))
          (fun other member => by
            rw [resetting.workflowInstanceID]
            exact oldStyle other (List.mem_cons_of_mem _ member))
      unfold resetWhere
      cases decided : verdict ptr with
      | none =>
          rw [decided] at now
          rw [now]
          exact Or.inl ⟨rfl, ptr, List.mem_cons_self, decided⟩
      | some answer =>
          rw [decided] at now
          dsimp only at now
          have certain : verdict ptr ≠ none := by
            rw [decided]
            exact Option.some_ne_none answer
          cases chosen : (answer || stated (store.task ptr).state) with
          | false =>
              rw [now, chosen]
              dsimp only
              rw [Bool.or_eq_false_iff] at chosen
              rcases later (Resetting.refl store) with ⟨ended, other, member, open_⟩ |
                ⟨after, found, ended, all, resetting, marks, picked⟩
              · exact Or.inl ⟨ended, other, List.mem_cons_of_mem _ member, open_⟩
              · refine Or.inr ⟨after, found, ended, List.forall_mem_cons.mpr ⟨certain, all⟩,
                  resetting, ?_, ?_⟩
                · intro other
                  rw [marks other, List.mem_cons]
                  constructor
                  · rintro (flag | ⟨member, reason⟩)
                    · exact Or.inl flag
                    · exact Or.inr ⟨Or.inr member, reason⟩
                  · rintro (flag | ⟨rfl | member, reason⟩)
                    · exact Or.inl flag
                    · rw [decided, chosen.1, chosen.2] at reason
                      rcases reason with yes | yes <;> cases yes
                    · exact Or.inr ⟨member, reason⟩
                · rintro ⟨other, member, yes⟩
                  rcases List.mem_cons.mp member with rfl | member
                  · rw [decided, chosen.1] at yes
                    cases yes
                  · exact picked ⟨other, member, yes⟩
          | true =>
              rw [now, chosen]
              dsimp only
              obtain ⟨middle, reset, resets, marked⟩ :=
                  resetTaskTrue_marks (identified ptr List.mem_cons_self)
                (oldStyle ptr List.mem_cons_self)
              rw [reset]
              dsimp only
              have reason : verdict ptr = some true ∨ stated (store.task ptr).state = true := by
                rw [decided, Option.some.injEq]
                exact Bool.or_eq_true_iff.mp chosen
              rcases later resets with ⟨ended, other, member, open_⟩ |
                ⟨after, found, ended, all, resetting, marks, picked⟩
              · rw [ended]
                exact Or.inl ⟨rfl, other, List.mem_cons_of_mem _ member, open_⟩
              · rw [ended]
                refine Or.inr ⟨after, true, rfl, List.forall_mem_cons.mpr ⟨certain, all⟩,
                    resets.trans resetting, ?_,
                  fun _ => rfl⟩
                intro other
                rw [marks other, marked other, List.mem_cons]
                by_cases same : other = ptr
                · exact iff_of_true (Or.inl (Or.inr same))
                    (Or.inr ⟨Or.inl same, by rw [same]; exact reason⟩)
                · -- a task that is not marked yet keeps its state
                  rcases resets.state other with kept | flag
                  · rw [kept]
                    simp only [same, false_or, or_false]
                  · have before := ((marked other).mp flag).resolve_right same
                    exact iff_of_true (Or.inl (Or.inl before)) (Or.inl before)

/-- The verdict of `isAncestor` with enough calls. -/
def verdict (store : Store) (tasks : List Nat) (testId : String) (ptr : Nat) : Option Bool :=
  match store.isAncestor tasks (tasks.length + 1) (store.task ptr).ident.string.1 testId with
  | .ok (.ok result) => some result
  | _ => none

theorem verdict_spec (identified : Identified store tasks) {ptr : Nat} {name testId : String}
    (named : (store.task ptr).ident.string = (name, none)) (different : name ≠ testId) :
    (verdict store tasks testId ptr = some true ↔ Named store tasks name testId) ∧
      (verdict store tasks testId ptr ≠ none ↔ Named store tasks name testId ∨
      ChainEnds store tasks name) ∧
      store.isAncestor tasks (tasks.length + 1) name testId =
        match verdict store tasks testId ptr with
        | none => .error .diverges
        | some answer => .ok (.ok answer) := by
  unfold verdict
  rw [named]
  rcases isAncestor_cases (tasks.length + 1) name testId with asked | ⟨answer, asked⟩
  · have open_ : ¬(Named store tasks name testId ∨ ChainEnds store tasks name) := by
      intro ends
      rcases isAncestor_ends ends with ⟨depth, answer, ended⟩
      rw [isAncestor_diverges asked depth] at ended
      cases ended
    simp only [asked]
    exact ⟨iff_of_false (fun same => (nomatch same)) fun found => open_ (Or.inl found),
      iff_of_false (fun some => some rfl) open_, trivial⟩
  · rcases isAncestor_sound identified different asked with ⟨rfl, found⟩ | ⟨rfl, missed, ends⟩
    · simp only [asked]
      exact ⟨iff_of_true trivial found, iff_of_true (Option.some_ne_none _) (Or.inl found), trivial⟩
    · simp only [asked]
      exact ⟨iff_of_false (fun same => (nomatch same)) missed,
        iff_of_true (Option.some_ne_none _) (Or.inr ends), trivial⟩

/-- A task is not looked for behind itself. -/
theorem verdict_self {ptr : Nat} {name : String}
    (named : (store.task ptr).ident.string = (name, none)) :
    verdict store tasks name ptr = some false ∧
      store.isAncestor tasks (tasks.length + 1) name name = .ok (.ok false) := by
  have asked : store.isAncestor tasks (tasks.length + 1) name name = .ok (.ok false) := by
    simp only [isAncestor, if_true]
  unfold verdict
  rw [named]
  simp only [asked]
  exact ⟨trivial, trivial⟩

theorem isAncestor_resetting (resetting : Resetting store after) (depth : Nat)
    (taskId testId : String) :
    after.isAncestor tasks depth taskId testId = store.isAncestor tasks depth taskId testId := by
  have looked (list : List Nat) (taskId : String) :
      after.findTask taskId list = store.findTask taskId list := by
    induction list with
    | nil => rfl
    | cons ptr rest inductionHypothesis =>
        unfold findTask
        rw [resetting.ident, inductionHypothesis]
  induction depth generalizing taskId with
  | zero => rfl
  | succ depth inductionHypothesis =>
      unfold isAncestor
      simp only [looked, resetting.dependsOn, inductionHypothesis]

/-! ## What the tasks keep when the job is queued again -/

/-- No task is marked and none loses its mark. The search only reads, and what it says may be used
for the store as it was before. -/
def SameMarks (store after : Store) : Prop :=
  forall ptr, (after.task ptr).resetTask = (store.task ptr).resetTask

theorem sameMarks_taskSetState {newState : ProcessState} (opens : newState ≠ .completed)
    (ptr : Nat) :
    SameMarks store (store.taskSetState ptr newState).1 := by
  intro other
  rcases store.taskSetState_cases ptr newState with ⟨same, _⟩ | ⟨_, _, wrote⟩ | ⟨_, completes, _⟩
      | ⟨_, completes, _⟩
  · rw [same]
  · rw [wrote]
    unfold withState
    by_cases same : other = ptr
    · rw [same, modifyTask_self]
    · rw [modifyTask_of_ne _ same]
  · exact (opens completes).elim
  · exact (opens completes).elim

end

end Store

namespace ServerMgr

open Store

theorem sameMarks_taskMapAdd (qm : ServerMgr) (ptr : Nat) (caller : String) :
    SameMarks qm.store (qm.taskMapAdd ptr caller).1.store := by
  unfold taskMapAdd
  dsimp only
  cases (qm.taskMap.lookup (qm.store.task ptr).ident).filter (· ≠ ptr) with
  | some other => exact fun _ => rfl
  | none =>
      have pending : SameMarks qm.store
          (if (qm.store.task ptr).state = .init then qm.store.taskSetState ptr .pending else
              (qm.store, none)).1 := by
        split
        · exact sameMarks_taskSetState (by decide) ptr
        · exact fun _ => rfl
      dsimp only
      generalize (if (qm.store.task ptr).state = .init then qm.store.taskSetState ptr .pending
        else (qm.store, none)) = outcome at pending ⊢
      rcases outcome with ⟨after, err⟩
      cases err with
      | some text => exact pending
      | none =>
          intro other
          refine Eq.trans ?_ (pending other)
          dsimp only
          by_cases same : other = ptr
          · rw [same, modifyTask_self]
          · rw [modifyTask_of_ne _ same]

/-- What the loop of `EnqueueTasksByJobId` does to the state of a task. -/
private def stirred (store : Store) (ptr : Nat) : Store × Err :=
  match (store.task ptr).state with
  | .inProgress | .queued => store.taskSetState ptr .ready
  | .suspend => store.taskSetState ptr .pending
  | _ => (store, none)

private theorem enqueueTasks_stirred (caller : String) (qm : ServerMgr) (ptr : Nat)
    (rest : List Nat) :
    enqueueTasks caller qm (ptr :: rest) =
      match stirred qm.store ptr with
      | (store, some err) => ({ qm with store }, some err)
      | (store, none) =>
          match { qm with store }.taskMapAdd ptr ("EnqueueTasksByJobId/" ++ caller) with
          | (qm, some err) => (qm, some ("(EnqueueTasksByJobId) qm.TaskMap.Add() returns: " ++ err))
          | (qm, none) => enqueueTasks caller qm rest :=
  rfl

theorem sameMarks_enqueueTasks (caller : String) (qm : ServerMgr) (tasks : List Nat) :
    SameMarks qm.store (enqueueTasks caller qm tasks).1.store := by
  induction tasks generalizing qm with
  | nil => exact fun _ => rfl
  | cons ptr rest inductionHypothesis =>
      have woke : SameMarks qm.store (stirred qm.store ptr).1 := by
        unfold stirred
        split
        · exact sameMarks_taskSetState (by decide) ptr
        · exact sameMarks_taskSetState (by decide) ptr
        · exact sameMarks_taskSetState (by decide) ptr
        · exact fun _ => rfl
      rw [enqueueTasks_stirred]
      generalize stirred qm.store ptr = outcome at woke
      rcases outcome with ⟨after, err⟩
      cases err with
      | some text => exact woke
      | none =>
          have added := sameMarks_taskMapAdd { qm with store := after } ptr
              ("EnqueueTasksByJobId/" ++ caller)
          dsimp only at added ⊢
          cases done : taskMapAdd { qm with store := after } ptr ("EnqueueTasksByJobId/" ++ caller)
              with
          | mk next failed =>
              rw [done] at added
              have through : SameMarks qm.store next.store :=
                  fun other => (added other).trans (woke other)
              cases failed with
              | some text => exact through
              | none => exact fun other => (inductionHypothesis next other).trans (through other)

theorem sameMarks_requeue (qm : ServerMgr) (jobid caller : String) :
    SameMarks qm.store (qm.requeue jobid caller).1.store := by
  have stated (store : Store) (state : JobState) :
      SameMarks store (store.jobSetState jobid state) := by
    intro ptr
    unfold jobSetState modifyJob
    split <;> rfl
  have enqueued (qm : ServerMgr) :
      SameMarks qm.store (qm.enqueueTasksByJobId jobid caller).1.store := by
    unfold enqueueTasksByJobId
    split
    · exact fun _ => rfl
    · next job found =>
        dsimp only
        generalize list : (if jobid ∈ qm.actJobs then qm.actJobs else jobid :: qm.actJobs) = actJobs
        have all := sameMarks_enqueueTasks caller { qm with
          store := qm.store.jobSetState jobid .queuing, actJobs := actJobs } job.tasks
        have first (ptr : Nat) := (all ptr).trans (stated qm.store .queuing ptr)
        cases done : enqueueTasks caller { qm with
          store := qm.store.jobSetState jobid .queuing, actJobs := actJobs } job.tasks with
        | mk next failed =>
            rw [done] at first
            cases failed with
            | some text => exact first
            | none =>
                dsimp only
                split
                · exact first
                · unfold jobSetStateFrom
                  dsimp only
                  split
                  · exact first
                  · split_ifs
                    · exact first
                    · exact fun ptr => (stated next.store .queued ptr).trans (first ptr)
                    · exact first
  intro ptr
  unfold requeue
  dsimp only
  have all := (enqueued { qm with store := qm.store.jobSetState jobid .queuing } ptr).trans
    (stated qm.store .queuing ptr)
  cases done : enqueueTasksByJobId { qm with store := qm.store.jobSetState jobid .queuing }
      jobid caller with
  | mk next failed =>
      rw [done] at all
      cases failed with
      | some text => exact all
      | none => exact all

/-! ## `RecomputeJob` -/

/-- The tasks that a recomputation from the given task has to do again. These are the tasks that
depend on it at any distance, and the ones whose state says that they have not been done. -/
def MustRecompute (store : Store) (tasks : List Nat) (fromTaskID : String) (ptr : Nat) : Prop :=
  ptr ∈ tasks ∧ Exists fun name => (store.task ptr).ident.string = (name, none) ∧
    (name = fromTaskID ∨ Depends store tasks name fromTaskID ∨
        (store.task ptr).state ∈ taskStatsReset)

/-- `RecomputeJob` ends, and marks the tasks that have to be done again and no others. They are
the given task, those that depend on it, and those whose state says that they have to be run
anyway; a task that bears the mark already keeps it. -/
def RecomputesDependents (qm : ServerMgr) (jobid taskStage : String) (job : Job) : Prop :=
  Exists fun after => Exists fun err => qm.recomputeJob jobid taskStage = .ok (after, err) ∧
    forall ptr, (after.store.task ptr).resetTask = true ↔ (qm.store.task ptr).resetTask = true ∨
      MustRecompute qm.store job.tasks (jobid ++ "_" ++ taskStage) ptr

variable {qm : ServerMgr} {jobid taskStage : String} {job : Job}

/-- What `RecomputeJob` does with the tasks of an old-style job. -/
theorem recomputeJob_marks (accepted : qm.restartable jobid "RecomputeJob" = .ok job)
    (identified : Identified qm.store job.tasks)
    (oldStyle : forall ptr, ptr ∈ job.tasks -> (qm.store.task ptr).workflowInstanceID = "")
    (present : Exists fun ptr => ptr ∈ job.tasks ∧
      (qm.store.task ptr).ident.string = (jobid ++ "_" ++ taskStage, none)) :
    (qm.recomputeJob jobid taskStage = .error .diverges ∧
      Exists fun ptr => ptr ∈ job.tasks ∧
      verdict qm.store job.tasks (jobid ++ "_" ++ taskStage) ptr = none) ∨
    (Exists fun after => Exists fun err => qm.recomputeJob jobid taskStage = .ok (after, err) ∧
      (forall ptr, ptr ∈ job.tasks ->
      verdict qm.store job.tasks (jobid ++ "_" ++ taskStage) ptr ≠ none) ∧
      forall ptr, (after.store.task ptr).resetTask = true ↔ (qm.store.task ptr).resetTask = true ∨
        (ptr ∈ job.tasks ∧ ((qm.store.task ptr).ident.string.1 = jobid ++ "_" ++ taskStage ∨
          verdict qm.store job.tasks (jobid ++ "_" ++ taskStage) ptr = some true ∨
            (qm.store.task ptr).state ∈ taskStatsReset))) := by
  have ownName {store : Store} (resetting : Resetting qm.store store) {ptr : Nat}
      (member : ptr ∈ job.tasks) :
      (store.task ptr).ident.string = ((qm.store.task ptr).ident.string.1, none) := by
    rw [resetting.ident, <- identified ptr member]
  -- the first loop picks the task itself
  have picksFrom (store : Store) (resetting : Resetting qm.store store) (ptr : Nat)
      (member : ptr ∈ job.tasks) :
      isFrom (jobid ++ "_" ++ taskStage) store ptr =
        match some (decide ((qm.store.task ptr).ident.string.1 = jobid ++ "_" ++ taskStage)) with
        | none => .error .diverges
        | some answer => .ok (.ok (answer || (fun _ => false) (store.task ptr).state)) := by
    unfold isFrom
    rw [ownName resetting member]
    simp only [Bool.or_false]
  unfold recomputeJob
  rw [accepted]
  dsimp only
  rcases @resetWhere_marks qm.store job.tasks "RecomputeJob" (isFrom (jobid ++ "_" ++ taskStage))
      (fun ptr => some (decide ((qm.store.task ptr).ident.string.1 = jobid ++ "_" ++ taskStage)))
          (fun _ => false)
      picksFrom identified oldStyle with
    ⟨_, ptr, _, undecided⟩ | ⟨first, found, ended, _, resetting, marks, picked⟩
  · cases undecided
  have chosen : found = true := by
    rcases present with ⟨ptr, member, named⟩
    exact picked ⟨ptr, member, by rw [named]; simp only [decide_true]⟩
  rw [ended, chosen]
  dsimp only
  -- the second loop picks what is behind it, and what was on its way
  have picksBehind (store : Store) (more : Resetting first store) (ptr : Nat)
      (member : ptr ∈ job.tasks) :
      isBehind job.tasks (jobid ++ "_" ++ taskStage) store ptr =
        match verdict qm.store job.tasks (jobid ++ "_" ++ taskStage) ptr with
        | none => .error .diverges
        | some answer => .ok
            (.ok (answer || (fun state => decide (state ∈ taskStatsReset))
            (store.task ptr).state)) := by
    have total := resetting.trans more
    unfold isBehind
    rw [ownName total member]
    dsimp only
    rw [isAncestor_resetting total]
    by_cases self : (qm.store.task ptr).ident.string.1 = jobid ++ "_" ++ taskStage
    · have named : (qm.store.task ptr).ident.string = (jobid ++ "_" ++ taskStage, none) := by
        rw [<- self]
        exact ownName (Resetting.refl _) member
      rcases @verdict_self qm.store job.tasks ptr _ named with ⟨no, asked⟩
      rw [self, asked, no]
    · rw [(verdict_spec identified (ownName (Resetting.refl _) member) self).2.2]
      cases verdict qm.store job.tasks (jobid ++ "_" ++ taskStage) ptr <;> rfl
  rcases @resetWhere_marks first job.tasks "RecomputeJob"
      (isBehind job.tasks (jobid ++ "_" ++ taskStage))
      (verdict qm.store job.tasks (jobid ++ "_" ++ taskStage))
      (fun state => decide (state ∈ taskStatsReset)) picksBehind
      (fun ptr member => by rw [resetting.ident]; exact identified ptr member)
      (fun ptr member => by rw [resetting.workflowInstanceID]; exact oldStyle ptr member) with
    ⟨ended, ptr, member, undecided⟩ | ⟨second, found, ended, decided, _, marksBehind, _⟩
  · rw [ended]
    exact Or.inl ⟨rfl, ptr, member, undecided⟩
  · rw [ended]
    have kept := sameMarks_requeue { qm with store := second } jobid "RecomputeJob"
    refine Or.inr ⟨(requeue { qm with store := second } jobid "RecomputeJob").1,
      (requeue { qm with store := second } jobid "RecomputeJob").2, rfl, decided, fun ptr => ?_⟩
    rw [kept ptr, marksBehind, marks]
    simp only [Option.some.injEq, decide_eq_true_eq, Bool.false_eq_true, or_false]
    rcases resetting.state ptr with same | flag
    · rw [same]
      grind
    · have reason := (marks ptr).mp flag
      simp only [Option.some.injEq, decide_eq_true_eq, Bool.false_eq_true, or_false] at reason
      grind

/-- `RecomputeJob` marks the right tasks exactly if its search comes to an end for each of
them, and whichever dependent it misses is marked for another reason. -/
theorem recomputesDependents_iff (accepted : qm.restartable jobid "RecomputeJob" = .ok job)
    (identified : Identified qm.store job.tasks)
    (oldStyle : forall ptr, ptr ∈ job.tasks -> (qm.store.task ptr).workflowInstanceID = "")
    (present : Exists fun ptr => ptr ∈ job.tasks ∧
      (qm.store.task ptr).ident.string = (jobid ++ "_" ++ taskStage, none)) :
    RecomputesDependents qm jobid taskStage job ↔
      forall ptr, ptr ∈ job.tasks -> forall name, (qm.store.task ptr).ident.string = (name, none) ->
        name ≠ jobid ++ "_" ++ taskStage ->
            Named qm.store job.tasks name (jobid ++ "_" ++ taskStage) ∨
          (ChainEnds qm.store job.tasks name ∧
            ((qm.store.task ptr).state ∈ taskStatsReset ∨ (qm.store.task ptr).resetTask = true ∨
              ¬Depends qm.store job.tasks name (jobid ++ "_" ++ taskStage))) := by
  have marks := recomputeJob_marks accepted identified oldStyle present
  constructor
  · rintro ⟨after, err, returned, exactly⟩ ptr member name named different
    rcases verdict_spec identified named different with ⟨answers, ends, _⟩
    rcases marks with ⟨stuck, _⟩ | ⟨other, text, same, decided, marks⟩
    · rw [returned] at stuck
      cases stuck
    · rw [returned] at same
      cases same
      rcases ends.mp (decided ptr member) with found | chain
      · exact Or.inl found
      · by_cases missed : Named qm.store job.tasks name (jobid ++ "_" ++ taskStage)
        · exact Or.inl missed
        · refine Or.inr ⟨chain, ?_⟩
          by_contra none
          push Not at none
          rcases none with ⟨settled, unmarked, depends⟩
          have must := (exactly ptr).mpr (Or.inr ⟨member, name, named, Or.inr (Or.inl depends)⟩)
          rcases (marks ptr).mp must with flag | ⟨_, self | yes | running⟩
          · exact unmarked flag
          · rw [named] at self
            exact different self
          · exact missed (answers.mp yes)
          · exact settled running
  · intro admitted
    rcases marks with ⟨_, ptr, member, undecided⟩ | ⟨after, err, returned, decided, marks⟩
    · by_cases self : (qm.store.task ptr).ident.string.1 = jobid ++ "_" ++ taskStage
      · have named : (qm.store.task ptr).ident.string = (jobid ++ "_" ++ taskStage, none) := by
          rw [<- self, <- identified ptr member]
        rw [(verdict_self named).1] at undecided
        cases undecided
      · have named : (qm.store.task ptr).ident.string =
          ((qm.store.task ptr).ident.string.1, none) := by
          rw [<- identified ptr member]
        have ends := (verdict_spec identified named self).2.1
        exact (ends.mpr ((admitted ptr member _ named self).imp_right And.left) undecided).elim
    · refine ⟨after, err, returned, fun ptr => ?_⟩
      rw [marks ptr]
      constructor
      · rintro (flag | ⟨member, reason⟩)
        · exact Or.inl flag
        · have named : (qm.store.task ptr).ident.string =
            ((qm.store.task ptr).ident.string.1, none) := by
            rw [<- identified ptr member]
          refine Or.inr ⟨member, _, named, ?_⟩
          by_cases self : (qm.store.task ptr).ident.string.1 = jobid ++ "_" ++ taskStage
          · exact Or.inl self
          · rcases reason with same | yes | running
            · exact Or.inl same
            · exact Or.inr (Or.inl
                (depends_of_named ((verdict_spec identified named self).1.mp yes)))
            · exact Or.inr (Or.inr running)
      · rintro (flag | ⟨member, name, named, reason⟩)
        · exact Or.inl flag
        · by_cases self : name = jobid ++ "_" ++ taskStage
          · exact Or.inr ⟨member, Or.inl (by rw [named]; exact self)⟩
          · rcases admitted ptr member name named self with found | ⟨_, running | marked | free⟩
            · exact Or.inr ⟨member,
                Or.inr (Or.inl ((verdict_spec identified named self).1.mpr found))⟩
            · exact Or.inr ⟨member, Or.inr (Or.inr running)⟩
            · exact Or.inl marked
            · rcases reason with same | depends | running
              · exact (self same).elim
              · exact (free depends).elim
              · exact Or.inr ⟨member, Or.inr (Or.inr running)⟩

/-- Where `isAncestor` is right, and where `RecomputeJob` is.  The loop over the dependencies of a
task returns in its first round, so that it follows one chain, the first dependency of each task,
and for ever if the chain comes back to itself. -/
theorem ancestors_decided_iff (store : Store) (tasks : List Nat) (taskId testId : String)
    (qm : ServerMgr) (jobid taskStage : String) (job : Job) :
    (Identified store tasks -> taskId ≠ testId ->
      (DecidesAncestor store tasks taskId testId ↔
        Named store tasks taskId testId ∨
          (ChainEnds store tasks taskId ∧ ¬Depends store tasks taskId testId))) ∧
    (qm.restartable jobid "RecomputeJob" = .ok job ->
      Identified qm.store job.tasks ->
      (forall ptr, ptr ∈ job.tasks -> (qm.store.task ptr).workflowInstanceID = "") ->
      (Exists fun ptr => ptr ∈ job.tasks ∧
      (qm.store.task ptr).ident.string = (jobid ++ "_" ++ taskStage, none)) ->
      (RecomputesDependents qm jobid taskStage job ↔
        forall ptr, ptr ∈ job.tasks -> forall name, (qm.store.task ptr).ident.string =
        (name, none) ->
          name ≠ jobid ++ "_" ++ taskStage ->
          Named qm.store job.tasks name (jobid ++ "_" ++ taskStage) ∨
            (ChainEnds qm.store job.tasks name ∧
              ((qm.store.task ptr).state ∈ taskStatsReset ∨ (qm.store.task ptr).resetTask = true ∨
                ¬Depends qm.store job.tasks name (jobid ++ "_" ++ taskStage))))) :=
  ⟨fun identified different => decidesAncestor_iff identified different,
    fun accepted identified oldStyle present => recomputesDependents_iff accepted identified
        oldStyle present⟩

/-- A job whose tasks have the given names and dependencies, and have all been completed. -/
private def completedJob (tasks : List (String × List String)) : Job :=
  ⟨"j", .completed, false, "", ⟨1, 0, "", false⟩, List.range tasks.length, 0, ∅, ∅⟩

private def completedTasks (tasks : List (String × List String)) : Store where
  task := fun ptr =>
    { Task.blank with
      ident := ⟨(tasks.getD ptr ("", [])).1, "j"⟩
      state := .completed
      dependsOn := (tasks.getD ptr ("", [])).2 }
  nextTask := tasks.length
  jobs := AList.insert "j" (completedJob tasks) ∅

/-- The second task names the first one. -/
private def twoInARow : List (String × List String) :=
  [("s", []), ("y", ["j_s"])]

/-- The last task depends on the first one through its second dependency. -/
private def secondDependency : List (String × List String) :=
  [("s", []), ("x", []), ("y", ["j_s"]), ("t", ["j_x", "j_y"])]

/-- Two tasks that depend on each other. -/
private def cycle : List (String × List String) :=
  [("a", ["j_b"]), ("b", ["j_a"])]

private theorem twoInARow_named : Named (completedTasks twoInARow) [0, 1] "j_y" "j_s" :=
  ⟨"j_y", .refl, 1, rfl, by decide⟩

/-- A dependency that is named is found, and the job is recomputed rightly. -/
theorem ancestors_decided_iff_row : DecidesAncestor (completedTasks twoInARow) [0, 1] "j_y" "j_s" ∧
    RecomputesDependents (newServerMgr (completedTasks twoInARow)) "j" "s"
    (completedJob twoInARow) := by
  have identified : Identified (completedTasks twoInARow) [0, 1] := by
    intro ptr member
    rcases List.mem_pair.mp member with rfl | rfl <;> rfl
  have decided := ancestors_decided_iff (completedTasks twoInARow) [0, 1] "j_y" "j_s"
    (newServerMgr (completedTasks twoInARow)) "j" "s" (completedJob twoInARow)
  constructor
  · exact (decided.1 identified (by decide)).mpr (Or.inl twoInARow_named)
  · refine (decided.2 ?_ identified (fun _ _ => rfl) ⟨0, by decide, rfl⟩).mpr ?_
    · rfl
    · intro ptr member name named different
      have either : ptr ∈ [0, 1] := member
      rcases List.mem_pair.mp either with rfl | rfl
      · cases named
        exact (different rfl).elim
      · cases named
        exact Or.inl twoInARow_named

/-- A dependency that is not the first one is missed, and its task is not done again; and on a
cycle the search does not end. -/
theorem recompute_misses_dependent :
    Depends (completedTasks secondDependency) [0, 1, 2, 3] "j_t" "j_s" ∧
    ¬DecidesAncestor (completedTasks secondDependency) [0, 1, 2, 3] "j_t" "j_s" ∧
    ¬RecomputesDependents (newServerMgr (completedTasks secondDependency)) "j" "s"
        (completedJob secondDependency) ∧
    (forall depth, (completedTasks cycle).isAncestor [0, 1] depth "j_a" "j_s" =
        .error .diverges) := by
  have depends : Depends (completedTasks secondDependency) [0, 1, 2, 3] "j_t" "j_s" := by
    have last : DependsOn (completedTasks secondDependency) [0, 1, 2, 3] "j_t" "j_y" :=
      ⟨3, by decide, rfl, by decide⟩
    have first : DependsOn (completedTasks secondDependency) [0, 1, 2, 3] "j_y" "j_s" :=
      ⟨2, by decide, rfl, by decide⟩
    exact (Relation.TransGen.single last).tail first
  refine ⟨depends, ?_, ?_, fun depth => isAncestor_diverges rfl depth⟩
  · rintro ⟨result, ⟨depth, asked⟩, right⟩
    have yes := right.mpr depends
    rw [yes] at asked
    match depth with
    | 0 => cases asked
    | 1 => cases asked
    | depth + 2 =>
        have no : (completedTasks secondDependency).isAncestor [0, 1, 2, 3] (depth + 2) "j_t"
            "j_s" = .ok (.ok false) := rfl
        rw [no] at asked
        cases asked
  · rintro ⟨after, err, returned, exactly⟩
    have marked := (exactly 3).mpr (Or.inr ⟨by decide, "j_t", rfl, Or.inr (Or.inl depends)⟩)
    have kept : ((newServerMgr (completedTasks secondDependency)).recomputeJob "j" "s").toOption.map
        (fun outcome => (outcome.1.store.task 3).resetTask) = some false := by decide
    rw [returned] at kept
    cases kept.symm.trans (congrArg some marked)

end ServerMgr

end Core
end Awe
