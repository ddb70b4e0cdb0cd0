import Awe.Core.WorkQueue

namespace Awe
namespace Core

open Lib

/-!
# The representation of the work queue

The operations of the queue are called by many goroutines, in any order.  This
module takes every finite sequence of calls that the callers can make and shows
what the four maps and the state fields say about each other after it.
-/

/-- A call of one of the queue's own operations. -/
inductive QueueCall where
  | add (workunit : Workunit)
  | delete (id : WorkunitUniqueIdentifier)
  | clean
  | statusChange (id : WorkunitUniqueIdentifier) (workunit : Option Nat)
      (newStatus reason : String)

/-- Make a call.  `Add` receives a new object as `NewWorkunit` builds it, and a
pointer passed to `StatusChange` is one that `all` holds. -/
def QueueCall.run (wq : WorkQueue) : QueueCall -> Option (WorkQueue × Err)
  | add workunit =>
      if workunit.state = workStatInit ∧ workunit.globalId ≠ "" then
        let (wq, ptr) := wq.alloc workunit
        some (wq.add ptr)
      else none
  | delete id => some (wq.delete id, none)
  | clean => some (wq.clean, none)
  | statusChange id none newStatus reason => some (wq.statusChange id none newStatus reason)
  | statusChange id (some ptr) newStatus reason =>
      if ptr ∈ wq.all.values then some (wq.statusChange id (some ptr) newStatus reason) else none

def queueStep (wq : WorkQueue) (call : QueueCall) : Option WorkQueue :=
  (call.run wq).map Prod.fst

/-- The representation invariant. -/
structure WorkQueue.Represented (wq : WorkQueue) : Prop where
  stored : wq.Stored
  within : forall kind, wq.Within kind fun state => state = kind.home
  covers : forall kind, wq.Covers kind fun state => state = kind.home

namespace WorkQueue.Represented

variable {wq : WorkQueue}

theorem newWorkQueue : WorkQueue.newWorkQueue.Represented where
  stored := ⟨nofun, nofun, nofun⟩
  within kind := by
    intro id ptr entry
    cases kind <;> cases entry
  covers kind := nofun

theorem delete (represented : wq.Represented) (id : WorkunitUniqueIdentifier) :
    (wq.delete id).Represented :=
  ⟨represented.stored.delete id, fun kind => (represented.within kind).delete id,
    fun kind => (represented.covers kind).delete id⟩

theorem moveTo (represented : wq.Represented) {ptr : Nat} (newStatus reason : String)
    (found : wq.all.lookup (wq.work ptr).ident = some ptr) :
    (wq.moveTo (wq.work ptr).ident ptr newStatus reason).1.Represented :=
  ⟨represented.stored.moveTo ptr newStatus reason,
    fun kind => (represented.within kind).moveTo represented.stored rfl found,
    fun kind => (represented.covers kind).moveTo represented.stored (fun target => target) found⟩

/-- `Add` of a new object in state init. -/
theorem add (represented : wq.Represented) {workunit : Workunit}
    (initial : workunit.state = workStatInit) :
    ((wq.alloc workunit).1.add (wq.alloc workunit).2).1.Represented := by
  have stored := represented.stored.alloc workunit
  have allocated : (wq.alloc workunit).2 < (wq.alloc workunit).1.next := Nat.lt_succ_self wq.next
  have within (kind : SubMap) := (represented.within kind).alloc represented.stored workunit
  refine ⟨stored.add allocated, fun kind => (within kind).add stored allocated rfl, fun kind => ?_⟩
  refine ((represented.covers kind).alloc represented.stored workunit).add (within kind) stored
    allocated ?_ fun target => target
  simp only [WorkQueue.alloc, Function.update_self, initial]
  cases kind <;> decide

/-- A pointer held by `all` is held under the identifier of its object. -/
theorem lookup_of_mem (represented : wq.Represented) {ptr : Nat} (member : ptr ∈ wq.all.values) :
    wq.all.lookup (wq.work ptr).ident = some ptr := by
  rcases GoMap.mem_values.mp member with ⟨id, found⟩
  rw [represented.stored.named found]
  exact found

end WorkQueue.Represented

/-- `StatusChange` either fails without touching the queue or works on an object that
`all` holds under its own identifier. -/
theorem WorkQueue.Represented.statusChange_cases {wq : WorkQueue} (represented : wq.Represented)
    (id : WorkunitUniqueIdentifier) (newStatus reason : String) {workunit : Option Nat}
    (held : forall ptr, workunit = some ptr -> ptr ∈ wq.all.values) :
    (wq.statusChange id workunit newStatus reason).1 = wq ∨
      Exists fun ptr => wq.all.lookup (wq.work ptr).ident = some ptr ∧
        wq.statusChange id workunit newStatus reason =
          wq.moveTo (wq.work ptr).ident ptr newStatus reason := by
  cases workunit with
  | some ptr => exact Or.inr ⟨ptr, represented.lookup_of_mem (held ptr rfl), rfl⟩
  | none =>
      cases found : wq.all.lookup id with
      | some ptr =>
          have named := represented.stored.named found
          refine Or.inr ⟨ptr, named ▸ found, ?_⟩
          simp only [statusChange, found, named]
      | none =>
          refine Or.inl ?_
          simp only [statusChange, found]
          split <;> rfl

/-! ## Every sequence of calls -/

theorem run_represented {wq : WorkQueue} {call : QueueCall} {result : WorkQueue × Err}
    (represented : wq.Represented) (called : call.run wq = some result) :
    result.1.Represented := by
  have changed {id : WorkunitUniqueIdentifier} {workunit : Option Nat} {newStatus reason : String}
      (held : forall ptr, workunit = some ptr -> ptr ∈ wq.all.values) :
      (wq.statusChange id workunit newStatus reason).1.Represented := by
    rcases represented.statusChange_cases id newStatus reason held with kept | ⟨ptr, found, moved⟩
    · rw [kept]
      exact represented
    · rw [moved]
      exact represented.moveTo newStatus reason found
  cases call with
  | add workunit =>
      simp only [QueueCall.run] at called
      split at called
      · next fresh =>
          cases called
          exact represented.add fresh.1
      · cases called
  | delete id =>
      cases called
      exact represented.delete id
  | clean =>
      cases called
      exact WorkQueue.clean_induction (fun _ id kept => kept.delete id) represented
  | statusChange id workunit newStatus reason =>
      cases workunit with
      | none =>
          cases called
          exact changed fun _ same => nomatch same
      | some ptr =>
          simp only [QueueCall.run] at called
          split at called
          · next member =>
              cases called
              exact changed fun other same => Option.some.inj same ▸ member
          · cases called

theorem reached_represented {wq : WorkQueue}
    (reached : Reaches queueStep anyEvent WorkQueue.newWorkQueue wq) : wq.Represented := by
  refine Reaches.invariant WorkQueue.Represented.newWorkQueue ?_ reached
  intro before call after represented _ stepped
  rcases Option.map_eq_some_iff.mp stepped with ⟨result, called, rfl⟩
  exact run_represented represented called

/-- What a call that reports an error leaves alone: the membership in every map and the state of
every object that existed before the call. The queue has no transactions: an operation that finds
out late that it cannot go on has to have changed nothing by then, and this is what the results on
errors ask for. -/
structure SameMembership (before after : WorkQueue) : Prop where
  all : after.all = before.all
  sub : forall kind, after.sub kind = before.sub kind
  state : forall ptr, ptr < before.next -> (after.work ptr).state = (before.work ptr).state

/-- An accepted move reports no error, so only a refused one is left, which forgets a client. -/
theorem moveTo_error {wq after : WorkQueue} {ptr : Nat} {newStatus reason err : String}
    (failed : wq.moveTo (wq.work ptr).ident ptr newStatus reason = (after, some err)) :
    SameMembership wq after := by
  rw [WorkQueue.moveTo_eq] at failed
  split at failed
  · cases congrArg Prod.snd failed
  · split at failed
    · cases failed
      exact ⟨WorkQueue.unclaimed_all wq ptr, WorkQueue.unclaimed_sub wq ptr,
        fun other _ => WorkQueue.unclaimed_state wq ptr other⟩
    · cases congrArg Prod.snd failed

/-- The only error left to `Add` is a broken identifier, found before a map is touched. -/
theorem add_error {wq after : WorkQueue} {workunit : Workunit} {err : String}
    (failed : (wq.alloc workunit).1.add (wq.alloc workunit).2 = (after, some err)) :
    SameMembership wq after := by
  have kept : SameMembership wq (wq.alloc workunit).1 := by
    refine ⟨rfl, fun kind => by cases kind <;> rfl, fun ptr old => ?_⟩
    simp only [WorkQueue.alloc, Function.update_of_ne (Nat.ne_of_lt old)]
  by_cases unnamed : ((wq.alloc workunit).1.work (wq.alloc workunit).2).globalId = ""
  · simp only [WorkQueue.add, if_pos unnamed, Prod.mk.injEq] at failed
    exact failed.1 ▸ kept
  by_cases printable : ((wq.alloc workunit).1.work (wq.alloc workunit).2).ident.Printable
  · rw [WorkQueue.add_eq _ unnamed printable, WorkQueue.moveTo_eq] at failed
    have accepted : ¬WorkQueue.Refused workStatQueued "" := by decide
    rw [if_neg accepted] at failed
    split at failed <;> cases congrArg Prod.snd failed
  · simp only [WorkQueue.add, if_neg unnamed, if_pos printable, Prod.mk.injEq] at failed
    exact failed.1 ▸ kept

theorem run_error {wq after : WorkQueue} {call : QueueCall} {err : String}
    (represented : wq.Represented) (failed : call.run wq = some (after, some err)) :
    SameMembership wq after := by
  have changed {id : WorkunitUniqueIdentifier} {workunit : Option Nat} {newStatus reason : String}
      (held : forall ptr, workunit = some ptr -> ptr ∈ wq.all.values)
      (refused : wq.statusChange id workunit newStatus reason = (after, some err)) :
      SameMembership wq after := by
    rcases represented.statusChange_cases id newStatus reason held with kept | ⟨ptr, _, moved⟩
    · rw [refused] at kept
      cases kept
      exact ⟨rfl, fun _ => rfl, fun _ _ => rfl⟩
    · exact moveTo_error (moved.symm.trans refused)
  cases call with
  | add workunit =>
      simp only [QueueCall.run] at failed
      split at failed
      · exact add_error (Option.some.inj failed)
      · cases failed
  | delete id => cases failed
  | clean => cases failed
  | statusChange id workunit newStatus reason =>
      cases workunit with
      | none =>
          refine changed ?_ (Option.some.inj failed)
          exact fun _ same => nomatch same
      | some ptr =>
          simp only [QueueCall.run] at failed
          split at failed
          · next member =>
              exact changed (fun other same => Option.some.inj same ▸ member)
                (Option.some.inj failed)
          · cases failed

/-- After any sequence of calls: each sub-map stores what `all` stores, under the identifier of
the object and with the same pointer; the sub-maps are pairwise disjoint; a stored workunit is in
a sub-map exactly when its state is the status of that map, and in none for any other state; and
a further call that reports an error changes neither a membership nor a state. -/
theorem workQueue_represented {wq : WorkQueue}
    (reached : Reaches queueStep anyEvent WorkQueue.newWorkQueue wq) :
    (forall kind id ptr, (wq.sub kind).lookup id = some ptr ->
      wq.all.lookup id = some ptr ∧ (wq.work ptr).ident = id) ∧
    (forall first second id, first ≠ second -> id ∈ wq.sub first -> id ∉ wq.sub second) ∧
    (forall kind id ptr, wq.all.lookup id = some ptr ->
      ((wq.sub kind).lookup id = some ptr ↔ (wq.work ptr).state = kind.home)) ∧
    (forall id ptr, wq.all.lookup id = some ptr ->
      (forall kind : SubMap, (wq.work ptr).state ≠ kind.home) -> forall kind, id ∉ wq.sub kind) ∧
    (forall call after err, QueueCall.run wq call = some (after, some err) ->
      SameMembership wq after) := by
  have represented := reached_represented reached
  have homes {kind : SubMap} {id : WorkunitUniqueIdentifier} (member : id ∈ wq.sub kind) :
      Exists fun ptr => wq.all.lookup id = some ptr ∧ (wq.work ptr).state = kind.home := by
    rcases Option.isSome_iff_exists.mp (AList.lookup_isSome.mpr member) with ⟨ptr, entry⟩
    exact ⟨ptr, represented.within kind id ptr entry⟩
  refine ⟨?_, ?_, ?_, ?_, fun call after err failed => run_error represented failed⟩
  · intro kind id ptr entry
    have found := (represented.within kind id ptr entry).1
    exact ⟨found, represented.stored.named found⟩
  · intro first second id different inFirst inSecond
    rcases homes inFirst with ⟨ptr, found, state⟩
    rcases homes inSecond with ⟨other, foundOther, stateOther⟩
    cases found.symm.trans foundOther
    exact different (SubMap.home_injective (state.symm.trans stateOther))
  · intro kind id ptr found
    exact ⟨fun entry => (represented.within kind id ptr entry).2,
      represented.covers kind id ptr found⟩
  · intro id ptr found elsewhere kind member
    rcases homes member with ⟨other, foundOther, state⟩
    cases found.symm.trans foundOther
    exact elsewhere kind state

private def firstWorkunit : Workunit :=
  { WorkQueue.blank with ident := ⟨⟨"t", "j"⟩, 0⟩, state := workStatInit, globalId := "j_t_0" }

/-- A run with a refused call at its end: the workunit is queued, and asking to suspend it
without a reason leaves it where it is. -/
theorem workQueue_represented_refused :
    Exists fun wq => Reaches queueStep anyEvent WorkQueue.newWorkQueue wq ∧
      wq.queue.lookup firstWorkunit.ident = some 0 ∧
      (QueueCall.run wq (.statusChange firstWorkunit.ident none workStatSuspend "")).map Prod.snd =
        some (some "suspend workunit only with reason!") ∧
      (forall kind id ptr, (wq.sub kind).lookup id = some ptr ->
        wq.all.lookup id = some ptr ∧ (wq.work ptr).ident = id) := by
  have reached : Reaches queueStep anyEvent WorkQueue.newWorkQueue
      ((WorkQueue.newWorkQueue.alloc firstWorkunit).1.add 0).1 :=
    Reaches.snoc (.add firstWorkunit) .refl trivial rfl
  exact ⟨_, reached, by decide, by decide, (workQueue_represented reached).1⟩

end Core
end Awe
