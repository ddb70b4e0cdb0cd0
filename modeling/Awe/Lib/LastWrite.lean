import Mathlib.Data.List.Induction

namespace Awe
namespace Lib

/-!
# Registers and their last write

An observation of a state is a register if every event either writes it, to
a value that depends on the event alone, or leaves it as it was.  What a run
shows in a register is then what the last event that wrote it has written,
and no other event of the run matters.

The rule is used through an invariant: an observation may be a register only
in the states that a component really reaches.
-/

variable {State Event Value : Type}

/-- `write event` is what the event writes, and `none` if it leaves the observation alone. An
observation of a state is a register of a program if every event either fixes it, whatever it was,
or has no influence on it. -/
def IsRegister (Inv : State -> Prop) (step : State -> Event -> State) (read : State -> Value)
    (write : Event -> Option Value) : Prop :=
  forall state, Inv state -> forall event, read (step state event) = (write event).getD (read state)

/-- `value` is the last value that `events` write. -/
def LastWritten (write : Event -> Option Value) (events : List Event) (value : Value) : Prop :=
  Exists fun earlier => Exists fun last => Exists fun later =>
    events = earlier ++ last :: later ∧ write last = some value ∧ forall event, event ∈ later ->
        write event = none

/-- An invariant of one step holds after a list of events. -/
theorem foldl_invariant {Inv : State -> Prop} {step : State -> Event -> State}
    (preserved : forall state event, Inv state -> Inv (step state event)) (events : List Event)
    {start : State} (initial : Inv start) : Inv (events.foldl step start) := by
  induction events generalizing start with
  | nil => exact initial
  | cons event rest inductionHypothesis => exact inductionHypothesis (preserved start event initial)

theorem not_lastWritten_nil {write : Event -> Option Value} {value : Value} :
    ¬ LastWritten write [] value := by
  rintro ⟨earlier, last, later, split, -⟩
  exact List.append_ne_nil_of_right_ne_nil earlier (List.cons_ne_nil last later) split.symm

/-- The last event decides, if it writes at all. -/
theorem lastWritten_concat {write : Event -> Option Value} {events : List Event} {event : Event}
    {value : Value} :
    LastWritten write (events ++ [event]) value ↔
      write event = some value ∨ (write event = none ∧ LastWritten write events value) := by
  constructor
  · rintro ⟨earlier, last, later, split, written, untouched⟩
    induction later using List.reverseRecOn with
    | nil =>
        have parts := List.append_inj' split rfl
        cases parts.2
        exact Or.inl written
    | append_singleton later final _ =>
        rw [← List.cons_append, ← List.append_assoc] at split
        have parts := List.append_inj' split rfl
        cases parts.2
        refine Or.inr ⟨untouched event (List.mem_append_right later List.mem_cons_self), ?_⟩
        exact ⟨earlier, last, later, parts.1, written, fun other member =>
          untouched other (List.mem_append_left _ member)⟩
  · rintro (written | ⟨silent, earlier, last, later, rfl, written, untouched⟩)
    · exact ⟨events, event, [], rfl, written, fun _ member => nomatch member⟩
    · refine ⟨earlier, last, later ++ [event], ?_, written, ?_⟩
      · rw [List.append_assoc, List.cons_append]
      · intro other member
        rcases List.mem_append.mp member with inside | final
        · exact untouched other inside
        · rw [List.mem_singleton.mp final]
          exact silent

/-- What a run shows in a register that did not show it before is what was last written there. It
is the specification of a store of such observations: a whole run is summed up by its last write.
-/
theorem IsRegister.read_foldl_iff {Inv : State -> Prop} {step : State -> Event -> State}
    {read : State -> Value} {write : Event -> Option Value}
    (register : IsRegister Inv step read write)
    (preserved : forall state event, Inv state -> Inv (step state event)) {start : State}
    (initial : Inv start) {value : Value} (fresh : read start ≠ value) (events : List Event) :
    read (events.foldl step start) = value ↔ LastWritten write events value := by
  induction events using List.reverseRecOn with
  | nil => exact iff_of_false fresh not_lastWritten_nil
  | append_singleton earlier event inductionHypothesis =>
      have reached := foldl_invariant preserved earlier initial
      rw [List.foldl_append, List.foldl_cons, List.foldl_nil, register _ reached,
          lastWritten_concat]
      cases written : write event with
      | none => simpa using inductionHypothesis
      | some stored => simp

end Lib
end Awe
