import Mathlib.Logic.Basic

namespace Awe
namespace Lib

/-!
# Computations that may fail or not end

A program with a state that ends with a value or an error, or does not end at
all, is a function from states to `Option`.  A loop or a recursion whose end is
not known beforehand is defined by the depth to which it may call itself, and
`none` says that this depth was not enough.  Each of the three outcomes of two
parts in sequence is told by those of the parts.
-/

/-- A program with states of type `S`, errors of type `E` and values of type `A`. The state
survives a failure, as assignments in Go do, and a computation that does not end has no outcome at
all. -/
abbrev Computation (E S A : Type) := ExceptT E (StateT S Option) A

namespace Computation

variable {E S A B : Type}

theorem bind_apply (first : Computation E S A) (next : A -> Computation E S B) (state : S) :
    (first >>= next) state =
      match first state with
      | none => none
      | some (.error err, after) => some (.error err, after)
      | some (.ok value, after) => next value after := by
  change ((first state).bind fun outcome => (ExceptT.bindCont next outcome.1) outcome.2) = _
  rcases first state with _ | ⟨_ | value, after⟩
  all_goals rfl

/-- Two parts give a value if the first gives one and the second then does. -/
theorem bind_eq_ok {first : Computation E S A} {next : A -> Computation E S B} {state final : S}
    {result : B} :
    (first >>= next) state = some (.ok result, final) ↔
      Exists fun value => Exists fun after => first state = some (.ok value, after) ∧
        next value after = some (.ok result, final) := by
  rw [bind_apply]
  rcases first state with _ | ⟨_ | value, after⟩
  · simp
  · simp
  · constructor
    · intro given
      exact ⟨value, after, rfl, given⟩
    · rintro ⟨_, _, same, given⟩
      cases same
      exact given

/-- Two parts fail if the first fails, or the second after the first has given a
value. -/
theorem bind_eq_error {first : Computation E S A} {next : A -> Computation E S B} {state final : S}
    {err : E} :
    (first >>= next) state = some (.error err, final) ↔
      first state = some (.error err, final) ∨
        Exists fun value => Exists fun after => first state = some (.ok value, after) ∧
          next value after = some (.error err, final) := by
  rw [bind_apply]
  rcases first state with _ | ⟨_ | value, after⟩
  · simp
  · simp
  · constructor
    · intro failed
      exact Or.inr ⟨value, after, rfl, failed⟩
    · rintro (impossible | ⟨_, _, same, failed⟩)
      · cases impossible
      · cases same
        exact failed

end Computation

end Lib
end Awe
