import Mathlib.Logic.Relation

namespace Awe
namespace Lib

/-!
# Runs of a deterministic, labelled system

A component is given by a partial step function: an event that is not
enabled in a state has no successor.  Whatever the environment decides (an
order of iteration, a message, a lost timeout) is part of the event, so the
function stays executable while a run still ranges over every interleaving.

`Reaches` is guarded.  The guard is a condition on the state before a step
and on the event, and it is the place where a result about runs says which
runs it covers; with the trivial guard it is plain reachability.
-/

variable {State Event : Type}

/-- One guarded step, with its event forgotten. -/
def Moves (step : State -> Event -> Option State) (guard : State -> Event -> Prop)
    (before after : State) : Prop :=
  Exists fun event => guard before event ∧ step before event = some after

/-- States reached from `start` by steps that all meet the guard. The guard is a condition on the
event and the state in which it happens, so that results about runs can say what must not happen
on the way. -/
def Reaches (step : State -> Event -> Option State) (guard : State -> Event -> Prop)
    (start : State) : State -> Prop :=
  Relation.ReflTransGen (Moves step guard) start

/-- The trivial guard: every enabled event is allowed. -/
def anyEvent : State -> Event -> Prop :=
  fun _ _ => True

/-- Execute a list of events; the run stops as soon as one is not enabled. A concrete run is given
by its events, and then the kernel can compute it. -/
def exec (step : State -> Event -> Option State) : State -> List Event -> Option State
  | state, [] => some state
  | state, event :: rest => (step state event).bind fun next => exec step next rest

/-- The state after a list of events that can be executed. -/
def final (step : State -> Event -> Option State) (start : State) (events : List Event) : State :=
  (exec step start events).getD start

theorem exec_eq_final {step : State -> Event -> Option State} {start : State}
    {events : List Event} (runs : (exec step start events).isSome) :
    exec step start events = some (final step start events) := by
  rcases Option.isSome_iff_exists.mp runs with ⟨state, executed⟩
  rw [final, executed, Option.getD_some]

namespace Reaches

variable {step : State -> Event -> Option State} {guard : State -> Event -> Prop}
variable {start : State}

/-- The invariant rule. Preservation may use the guard of the step. Most results about runs are
this rule with a step lemma. -/
theorem invariant {Inv : State -> Prop} (initial : Inv start)
    (preserved : forall before event after, Inv before -> guard before event ->
      step before event = some after -> Inv after)
    {state : State} (reached : Reaches step guard start state) : Inv state := by
  induction reached with
  | refl => exact initial
  | tail _ move inductionHypothesis =>
      rcases move with ⟨event, allowed, stepped⟩
      exact preserved _ event _ inductionHypothesis allowed stepped

/-- Prolong a run by one step. -/
theorem snoc {before after : State} (event : Event)
    (reached : Reaches step guard start before) (allowed : guard before event)
    (stepped : step before event = some after) : Reaches step guard start after :=
  Relation.ReflTransGen.tail reached ⟨event, allowed, stepped⟩

/-- An executed list of events is a run, if the guard allows these events in every state. -/
theorem of_exec (events : List Event) {before after : State}
    (always : forall event, event ∈ events -> forall state, guard state event)
    (reached : Reaches step guard start before)
    (executed : exec step before events = some after) : Reaches step guard start after := by
  induction events generalizing before with
  | nil =>
      cases executed
      exact reached
  | cons event rest inductionHypothesis =>
      rcases Option.bind_eq_some_iff.mp executed with ⟨next, stepped, remaining⟩
      have allowed := always event List.mem_cons_self before
      exact inductionHypothesis
          (fun later member => always later (List.mem_cons_of_mem event member))
        (snoc event reached allowed stepped) remaining

end Reaches

end Lib
end Awe
