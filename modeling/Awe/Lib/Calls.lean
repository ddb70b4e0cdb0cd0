import Awe.Lib.Fallible
import Mathlib.Logic.Relation

namespace Awe
namespace Lib
namespace Calls

/-!
# Blaming a call

A function that fails in a particular way, say with a panic, either does so by
itself or because a function that it calls does.  If every call is described by
the list of calls that it makes one after the other, each of them only if those
before it have returned, then a call fails exactly if one that fails by itself
is reached from it.

`FailsWith p` says that a result is an error with the property `p`; the lemmas
about it take apart the ways in which a function is put together from others.
-/

section

variable {A B E : Type} {p : E -> Prop}

/-- The result is an error with the property. The property tells kinds of failures apart, for
instance a panic from an error that is returned. -/
def FailsWith (p : E -> Prop) (result : Except E A) : Prop :=
  Exists fun err => result = .error err ∧ p err

@[simp] theorem failsWith_ok {value : A} : FailsWith p (.ok value : Except E A) ↔ False := by
  constructor
  · rintro ⟨err, impossible, _⟩
    cases impossible
  · exact False.elim

@[simp] theorem failsWith_pure {value : A} : FailsWith p (pure value : Except E A) ↔ False :=
  failsWith_ok

@[simp] theorem failsWith_error {err : E} : FailsWith p (.error err : Except E A) ↔ p err := by
  constructor
  · rintro ⟨other, same, holds⟩
    cases same
    exact holds
  · intro holds
    exact ⟨err, rfl, holds⟩

@[simp] theorem failsWith_map {f : A -> B} {result : Except E A} :
    FailsWith p (result.map f) ↔ FailsWith p result := by
  cases result <;> simp [Except.map]

@[simp] theorem failsWith_fmap {f : A -> B} {result : Except E A} :
    FailsWith p (f <$> result) ↔ FailsWith p result :=
  failsWith_map

/-- A computation in two parts fails in the first, or in the second after the
first has returned. -/
@[simp] theorem failsWith_bind {result : Except E A} {f : A -> Except E B} :
    FailsWith p (result >>= f) ↔ FailsWith p result ∨ Exists fun value => result = .ok value ∧
    FailsWith p (f value) := by
  cases result with
  | error err =>
      constructor
      · intro failed
        exact Or.inl (failsWith_error.mpr (failsWith_error.mp failed))
      · rintro (failed | ⟨value, impossible, _⟩)
        · exact failsWith_error.mpr (failsWith_error.mp failed)
        · cases impossible
  | ok value =>
      constructor
      · intro failed
        exact Or.inr ⟨value, rfl, failed⟩
      · rintro (impossible | ⟨other, same, failed⟩)
        · exact (failsWith_ok.mp impossible).elim
        · cases same
          exact failed

@[simp] theorem failsWith_ite {condition : Prop} [Decidable condition] {yes no : Except E A} :
    FailsWith p (if condition then yes else no) ↔
      (condition ∧ FailsWith p yes) ∨ (¬ condition ∧ FailsWith p no) := by
  by_cases holds : condition <;> simp [holds]

/-- A loop fails in the first round that does not return. -/
theorem failsWith_forM_cons {f : A -> Except E Unit} {head : A} {tail : List A} :
    FailsWith p ((head :: tail).forM f) ↔ FailsWith p (f head) ∨
    (f head = .ok () ∧ FailsWith p (tail.forM f)) := by
  change FailsWith p (f head >>= fun _ => tail.forM f) ↔ _
  rw [failsWith_bind]
  constructor
  · rintro (failed | ⟨⟨⟩, returned, failed⟩)
    · exact Or.inl failed
    · exact Or.inr ⟨returned, failed⟩
  · rintro (failed | ⟨returned, failed⟩)
    · exact Or.inl failed
    · exact Or.inr ⟨(), returned, failed⟩

theorem failsWith_forM_iff {f : A -> Except E Unit} {list : List A} : FailsWith p (list.forM f) ↔
    Exists fun before => Exists fun value => Exists fun after => list = before ++ value :: after ∧
      (forall earlier, earlier ∈ before -> f earlier = .ok ()) ∧ FailsWith p (f value) := by
  induction list with
  | nil => simp
  | cons head tail inductionHypothesis =>
      rw [failsWith_forM_cons, inductionHypothesis]
      constructor
      · rintro (failed | ⟨returned, before, value, after, rfl, earlier, failed⟩)
        · exact ⟨[], head, tail, rfl, by simp, failed⟩
        · refine ⟨head :: before, value, after, rfl, ?_, failed⟩
          exact List.forall_mem_cons.mpr ⟨returned, earlier⟩
      · rintro ⟨before, value, after, same, earlier, failed⟩
        cases before with
        | nil =>
            cases same
            exact Or.inl failed
        | cons first rest =>
            cases same
            rw [List.forall_mem_cons] at earlier
            exact Or.inr ⟨earlier.1, rest, value, after, rfl, earlier.2, failed⟩

/-- Two loops whose rounds return and fail together fail together. -/
theorem failsWith_mapM_congr {f : A -> Except E B} {g : A -> Except E Unit} {list : List A}
    (returns : forall value, value ∈ list ->
    ((Exists fun result => f value = .ok result) ↔ g value = .ok ()))
    (fails : forall value, value ∈ list -> (FailsWith p (f value) ↔ FailsWith p (g value))) :
    FailsWith p (list.mapM f) ↔ FailsWith p (list.forM g) := by
  induction list with
  | nil => simp
  | cons head tail inductionHypothesis =>
      rw [List.forall_mem_cons] at returns fails
      rw [List.mapM_cons, failsWith_forM_cons, failsWith_bind, fails.1, <- returns.1,
        <- inductionHypothesis returns.2 fails.2]
      simp

theorem failsWith_forM_congr {f g : A -> Except E Unit} {list : List A}
    (returns : forall value, value ∈ list -> (f value = .ok () ↔ g value = .ok ()))
    (fails : forall value, value ∈ list -> (FailsWith p (f value) ↔ FailsWith p (g value))) :
    FailsWith p (list.forM f) ↔ FailsWith p (list.forM g) := by
  induction list with
  | nil => simp
  | cons head tail inductionHypothesis =>
      rw [List.forall_mem_cons] at returns fails
      rw [failsWith_forM_cons, failsWith_forM_cons, fails.1, returns.1,
          inductionHypothesis returns.2 fails.2]

end

section

variable {A B E : Type}

/-- The result is a value. -/
def Succeeds (result : Except E A) : Prop :=
  Exists fun value => result = .ok value

@[simp] theorem succeeds_ok {value : A} : Succeeds (.ok value : Except E A) ↔ True :=
  iff_of_true ⟨value, rfl⟩ trivial

@[simp] theorem succeeds_pure {value : A} : Succeeds (pure value : Except E A) ↔ True :=
  succeeds_ok

@[simp] theorem succeeds_error {err : E} : Succeeds (.error err : Except E A) ↔ False := by
  constructor
  · rintro ⟨value, impossible⟩
    cases impossible
  · exact False.elim

@[simp] theorem succeeds_map {f : A -> B} {result : Except E A} :
    Succeeds (result.map f) ↔ Succeeds result := by
  cases result <;> simp [Except.map]

theorem map_ok_iff {f : A -> B} {result : Except E A} {value : B} :
    result.map f = .ok value ↔ Exists fun own => result = .ok own ∧ f own = value := by
  cases result <;> simp [Except.map]

@[simp] theorem succeeds_fmap {f : A -> B} {result : Except E A} :
    Succeeds (f <$> result) ↔ Succeeds result :=
  succeeds_map

/-- Two parts return if the first does and then the second. -/
theorem succeeds_bind {result : Except E A} {f : A -> Except E B} :
    Succeeds (result >>= f) ↔ Exists fun value => result = .ok value ∧ Succeeds (f value) := by
  cases result with
  | error err =>
      constructor
      · intro impossible
        exact (succeeds_error.mp impossible).elim
      · rintro ⟨value, impossible, _⟩
        cases impossible
  | ok value =>
      constructor
      · intro returned
        exact ⟨value, rfl, returned⟩
      · rintro ⟨other, same, returned⟩
        cases same
        exact returned

/-- The second part does not need what the first gives. -/
theorem succeeds_bind_const {result : Except E A} {next : Except E B} :
    Succeeds (result >>= fun _ => next) ↔ Succeeds result ∧ Succeeds next := by
  rw [succeeds_bind]
  constructor
  · rintro ⟨value, given, returned⟩
    exact ⟨⟨value, given⟩, returned⟩
  · rintro ⟨⟨value, given⟩, returned⟩
    exact ⟨value, given, returned⟩

theorem succeeds_ite {condition : Prop} [Decidable condition] {value : A} {err : E} :
    Succeeds (if condition then .ok value else .error err : Except E A) ↔ condition := by
  by_cases holds : condition <;> simp [holds]

theorem succeeds_mapM {f : A -> Except E B} {list : List A} :
    Succeeds (list.mapM f) ↔ forall value, value ∈ list -> Succeeds (f value) := by
  induction list with
  | nil => simp
  | cons head tail inductionHypothesis =>
      rw [List.mapM_cons, List.forall_mem_cons, <- inductionHypothesis, succeeds_bind]
      simp only [succeeds_bind, succeeds_pure, and_true]
      exact exists_and_right

theorem succeeds_unit {result : Except E Unit} : Succeeds result ↔ result = .ok () := by
  constructor
  · rintro ⟨⟨⟩, returned⟩
    exact returned
  · exact fun returned => ⟨(), returned⟩

end

section

variable {C : Type} (plan : C -> List C) (accepted : C -> Prop)

/-- A call makes another one, those before it having returned. The plan of a call lists what it
would call next, and nothing behind a failure is called any more. -/
def Makes (call sub : C) : Prop :=
  Exists fun before => Exists fun after => plan call = before ++ sub :: after ∧
    forall earlier, earlier ∈ before -> accepted earlier

variable {plan accepted} {faulty fails : C -> Prop} {otherPlan : C -> List C}
    {otherAccepted : C -> Prop}

theorem Makes.mem {call sub : C} (made : Makes plan accepted call sub) : sub ∈ plan call := by
  rcases made with ⟨before, after, listed, _⟩
  rw [listed]
  exact List.mem_append_right _ List.mem_cons_self

/-- Two descriptions of the same calls reach the same ones. -/
theorem reaches_congr (holds : C -> Prop)
    (closed : forall call sub, holds call -> sub ∈ plan call -> holds sub)
    (samePlan : forall call, holds call -> plan call = otherPlan call)
    (sameAccepted : forall call sub, holds call -> sub ∈ plan call ->
    (accepted sub ↔ otherAccepted sub))
    {call sub : C} (start : holds call) : Relation.ReflTransGen (Makes plan accepted) call sub ↔
      Relation.ReflTransGen (Makes otherPlan otherAccepted) call sub := by
  have step {call sub : C} (start : holds call) :
      Makes plan accepted call sub ↔ Makes otherPlan otherAccepted call sub := by
    unfold Makes
    rw [<- samePlan call start]
    refine exists_congr fun before => exists_congr fun after => and_congr_right fun listed => ?_
    refine forall_congr' fun earlier => imp_congr_right fun member =>
        sameAccepted call earlier start ?_
    rw [listed]
    exact List.mem_append_left _ member
  constructor
  · intro reached
    induction reached using Relation.ReflTransGen.head_induction_on with
    | refl => exact .refl
    | head made _ inductionHypothesis =>
        exact .head ((step start).mp made) (inductionHypothesis (closed _ _ start made.mem))
  · intro reached
    induction reached using Relation.ReflTransGen.head_induction_on with
    | refl => exact .refl
    | head made _ inductionHypothesis =>
        have back := (step start).mpr made
        exact .head back (inductionHypothesis (closed _ _ start back.mem))

/-- A call fails exactly if it reaches one that is faulty by itself. With it a question about the
results of a recursive program becomes one about which calls there are, and that can be answered
without running it. -/
theorem fails_iff_reaches (measure : C -> Nat)
    (lower : forall call sub, sub ∈ plan call -> measure sub < measure call)
    (step : forall call, fails call ↔ faulty call ∨ Exists fun sub => Makes plan accepted call sub ∧
    fails sub)
    (call : C) :
    fails call ↔ Exists fun sub => Relation.ReflTransGen (Makes plan accepted) call sub ∧
    faulty sub := by
  constructor
  · intro failed
    -- the descent ends, because the calls get smaller
    induction size : measure call using Nat.strongRecOn generalizing call with
    | ind size inductionHypothesis =>
        subst size
        rcases (step call).mp failed with here | ⟨sub, made, below⟩
        · exact ⟨call, Relation.ReflTransGen.refl, here⟩
        · have smaller : measure sub < measure call := by
            exact lower call sub made.mem
          rcases inductionHypothesis _ smaller sub below rfl with ⟨fault, reached, blamed⟩
          exact ⟨fault, Relation.ReflTransGen.head made reached, blamed⟩
  · rintro ⟨fault, reached, blamed⟩
    induction reached using Relation.ReflTransGen.head_induction_on with
    | refl => exact (step fault).mpr (Or.inl blamed)
    | head made _ inductionHypothesis => exact (step _).mpr (Or.inr ⟨_, made, inductionHypothesis⟩)

end

end Calls
end Lib
end Awe
