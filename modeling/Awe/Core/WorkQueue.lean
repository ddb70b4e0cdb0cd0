import Awe.Core.Workunit
import Awe.Lib.GoMap
import Awe.Lib.Runs
import Mathlib.Logic.Function.Basic

namespace Awe
namespace Core

open Lib

/-!
# The work queue

The model of `workqueue.go`.  The four maps of the source hold pointers, and
two of its properties are about pointers: a sub-map stores the same object as
`all`, and a change of the object's state is seen through every map.  So the
objects live in a store `work`, indexed by pointer, and the maps hold indices.

`moveTo` is the part of `StatusChange` after the object has been found.  Its
branches differ only in the map that receives the workunit, and `moveTo_eq`
says so once; no later proof looks at the branches again.
-/

abbrev WorkunitMap := GoMap WorkunitUniqueIdentifier Nat

/-- The workunit objects and the four maps. Objects at `next` and above have not been allocated.
`all` has every workunit and the sub-maps say where each one is; nothing but the operations keeps
them in step. -/
structure WorkQueue where
  work : Nat -> Workunit
  next : Nat
  all : WorkunitMap
  queue : WorkunitMap
  checkout : WorkunitMap
  suspend : WorkunitMap

/-- The three maps that sort workunits by their status. -/
inductive SubMap where
  | queue
  | checkout
  | suspend
  deriving DecidableEq, Repr

/-- The status whose workunits a sub-map holds. -/
def SubMap.home : SubMap -> String
  | queue => workStatQueued
  | checkout => workStatCheckout
  | suspend => workStatSuspend

theorem SubMap.home_injective : Function.Injective SubMap.home := by
  intro first second same
  revert same
  cases first <;> cases second <;> decide

namespace WorkQueue

def sub (wq : WorkQueue) : SubMap -> WorkunitMap
  | .queue => wq.queue
  | .checkout => wq.checkout
  | .suspend => wq.suspend

/-- The zero object, found in cells that were never allocated. -/
def blank : Workunit :=
  ⟨WorkunitUniqueIdentifier.zero, "", 0, "", "", none, [], none, []⟩

def newWorkQueue : WorkQueue :=
  ⟨fun _ => blank, 0, ∅, ∅, ∅, ∅⟩

/-- Write to the object behind a pointer. -/
def modify (wq : WorkQueue) (ptr : Nat) (change : Workunit -> Workunit) : WorkQueue :=
  { wq with work := Function.update wq.work ptr (change (wq.work ptr)) }

/-- A new object, as `NewWorkunit` returns it, and the pointer to it. -/
def alloc (wq : WorkQueue) (workunit : Workunit) : WorkQueue × Nat :=
  ({ wq with work := Function.update wq.work wq.next workunit, next := wq.next + 1 }, wq.next)

/-- `workunit.SetState` through a pointer. -/
def setState (wq : WorkQueue) (ptr : Nat) (newState reason : String) : WorkQueue × Err :=
  (wq.modify ptr fun workunit => (workunit.setState newState reason).1,
    ((wq.work ptr).setState newState reason).2)

/-- `Delete`: the identifier leaves all four maps. -/
def delete (wq : WorkQueue) (id : WorkunitUniqueIdentifier) : WorkQueue :=
  { wq with
    queue := wq.queue.erase id
    checkout := wq.checkout.erase id
    suspend := wq.suspend.erase id
    all := wq.all.erase id }

/-- `Clean`: delete the workunits without an `Info`. -/
def clean (wq : WorkQueue) : WorkQueue :=
  wq.all.values.foldl (fun current ptr =>
    if (current.work ptr).info = none then current.delete (current.work ptr).ident else current) wq

/-- Forget the client of a workunit that is neither checked out nor reserved. -/
def unclaimed (wq : WorkQueue) (ptr : Nat) : WorkQueue :=
  if (wq.work ptr).state ≠ workStatCheckout ∧ (wq.work ptr).state ≠ workStatReserved then
    wq.modify ptr fun workunit => { workunit with client := "" }
  else wq

/-- `StatusChange` once the object is known.  The deletions use the identifier
of the call, `Set` that of the object. -/
def moveTo (wq : WorkQueue) (id : WorkunitUniqueIdentifier) (ptr : Nat)
    (newStatus reason : String) : WorkQueue × Err :=
  if (wq.work ptr).state = newStatus then (wq, none)
  else
    let wq := wq.unclaimed ptr
    if newStatus = workStatCheckout then
      let wq := { wq with queue := wq.queue.erase id, suspend := wq.suspend.erase id }
      match wq.setState ptr newStatus reason with
      | (wq, some err) => (wq, some err)
      | (wq, none) => ({ wq with checkout := wq.checkout.insert (wq.work ptr).ident ptr }, none)
    else if newStatus = workStatQueued then
      let wq := { wq with checkout := wq.checkout.erase id, suspend := wq.suspend.erase id }
      match wq.setState ptr newStatus reason with
      | (wq, some err) => (wq, some err)
      | (wq, none) => ({ wq with queue := wq.queue.insert (wq.work ptr).ident ptr }, none)
    else if newStatus = workStatSuspend then
      if reason = "" then (wq, some "suspend workunit only with reason!")
      else
        let wq := { wq with checkout := wq.checkout.erase id, queue := wq.queue.erase id }
        match wq.setState ptr newStatus reason with
        | (wq, some err) => (wq, some err)
        | (wq, none) => ({ wq with suspend := wq.suspend.insert (wq.work ptr).ident ptr }, none)
    else
      let wq :=
        { wq with
          checkout := wq.checkout.erase id
          queue := wq.queue.erase id
          suspend := wq.suspend.erase id }
      wq.setState ptr newStatus reason

/-- `StatusChange`, called with an identifier and a nil pointer or with a
pointer, in which case the identifier of the call is ignored. -/
def statusChange (wq : WorkQueue) (id : WorkunitUniqueIdentifier) (workunit : Option Nat)
    (newStatus reason : String) : WorkQueue × Err :=
  match workunit with
  | some ptr => wq.moveTo (wq.work ptr).ident ptr newStatus reason
  | none =>
      match wq.all.lookup id with
      | some ptr => wq.moveTo id ptr newStatus reason
      | none =>
          match id.string with
          | (_, some err) => (wq, some ("() workid.String() returned: " ++ err))
          | (text, none) => (wq, some ("WQueue.statusChange: invalid workunit id:" ++ text))

/-- The middle part of `Add`: a workunit stored under the same identifier is
dropped, and the new pointer takes its place in `all`. -/
def replace (wq : WorkQueue) (ptr : Nat) : WorkQueue :=
  let id := (wq.work ptr).ident
  let wq := if (wq.all.lookup id).isSome then wq.delete id else wq
  { wq with all := wq.all.insert id ptr }

def add (wq : WorkQueue) (ptr : Nat) : WorkQueue × Err :=
  if (wq.work ptr).globalId = "" then (wq, some "try to push a workunit with an empty id")
  else if ¬(wq.work ptr).ident.Printable then
    (wq, some "(WorkQueue/Add) will not add workunit, it has broken id")
  else (wq.replace ptr).statusChange WorkunitUniqueIdentifier.zero (some ptr) workStatQueued ""

/-! ## What a change of status does -/

/-- The object after an accepted change of status. -/
def relabelled (workunit : Workunit) (newStatus reason : String) : Workunit :=
  let unclaimed :=
    if workunit.state ≠ workStatCheckout ∧ workunit.state ≠ workStatReserved then
      { workunit with client := "" }
    else workunit
  (unclaimed.setState newStatus reason).1

/-- Put a pointer into the map if it belongs there and take it out otherwise. -/
def settle (map : WorkunitMap) (belongs : Bool) (id : WorkunitUniqueIdentifier) (ptr : Nat) :
    WorkunitMap :=
  if belongs then map.insert id ptr else map.erase id

/-- The queue after an accepted change: the object is relabelled, and its
identifier is in the sub-map of the new status and in no other. -/
def placed (wq : WorkQueue) (id : WorkunitUniqueIdentifier) (ptr : Nat)
    (newStatus reason : String) : WorkQueue :=
  { wq with
    work := Function.update wq.work ptr (relabelled (wq.work ptr) newStatus reason)
    queue := settle wq.queue (newStatus = workStatQueued) id ptr
    checkout := settle wq.checkout (newStatus = workStatCheckout) id ptr
    suspend := settle wq.suspend (newStatus = workStatSuspend) id ptr }

/-- A suspension without a reason is the only refused change. -/
def Refused (newStatus reason : String) : Prop :=
  newStatus = workStatSuspend ∧ reason = ""

instance (newStatus reason : String) : Decidable (Refused newStatus reason) :=
  inferInstanceAs (Decidable (_ ∧ _))

section

variable (wq : WorkQueue) (ptr : Nat) (newStatus reason : String)

@[simp] theorem unclaimed_next : (wq.unclaimed ptr).next = wq.next := by
  unfold unclaimed
  split <;> rfl

@[simp] theorem unclaimed_all : (wq.unclaimed ptr).all = wq.all := by
  unfold unclaimed
  split <;> rfl

@[simp] theorem unclaimed_sub (kind : SubMap) : (wq.unclaimed ptr).sub kind = wq.sub kind := by
  unfold unclaimed
  split <;> cases kind <;> rfl

/-- Only the client field of an object may differ. -/
theorem unclaimed_work (other : Nat) :
    (wq.unclaimed ptr).work other = wq.work other ∨
      (wq.unclaimed ptr).work other = { wq.work other with client := "" } := by
  unfold unclaimed
  split
  · by_cases same : other = ptr
    · subst other
      exact Or.inr (Function.update_self ..)
    · exact Or.inl (Function.update_of_ne same ..)
  · exact Or.inl rfl

theorem unclaimed_state (other : Nat) :
    ((wq.unclaimed ptr).work other).state = (wq.work other).state := by
  rcases unclaimed_work wq ptr other with kept | cleared
  · rw [kept]
  · rw [cleared]

theorem unclaimed_ident (other : Nat) :
    ((wq.unclaimed ptr).work other).ident = (wq.work other).ident := by
  rcases unclaimed_work wq ptr other with kept | cleared
  · rw [kept]
  · rw [cleared]

theorem relabelled_ident (workunit : Workunit) :
    (relabelled workunit newStatus reason).ident = workunit.ident := by
  unfold relabelled
  split <;> simp only [Workunit.setState_ident]

theorem relabelled_state (workunit : Workunit) {newStatus reason : String}
    (accepted : ¬Refused newStatus reason) :
    (relabelled workunit newStatus reason).state = newStatus :=
  (Workunit.setState_accepted _ accepted).1

private theorem relabelled_update :
    Function.update (wq.unclaimed ptr).work ptr
        (((wq.unclaimed ptr).work ptr).setState newStatus reason).1 =
      Function.update wq.work ptr (relabelled (wq.work ptr) newStatus reason) := by
  unfold unclaimed relabelled
  split <;> simp [modify]

/-- The three outcomes of a change of status, for a workunit that is called by
its own identifier. -/
theorem moveTo_eq :
    wq.moveTo (wq.work ptr).ident ptr newStatus reason =
      if (wq.work ptr).state = newStatus then (wq, none)
      else if Refused newStatus reason then
        (wq.unclaimed ptr, some "suspend workunit only with reason!")
      else (wq.placed (wq.work ptr).ident ptr newStatus reason, none) := by
  by_cases same : (wq.work ptr).state = newStatus
  · simp only [moveTo, if_pos same]
  by_cases refused : Refused newStatus reason
  · rcases refused with ⟨rfl, rfl⟩
    have notCheckout : workStatSuspend ≠ workStatCheckout := by decide
    have notQueued : workStatSuspend ≠ workStatQueued := by decide
    simp only [moveTo, if_neg same, if_neg notCheckout, if_neg notQueued, if_true, Refused,
      and_self]
  have accepted := (Workunit.setState_accepted ((wq.unclaimed ptr).work ptr) refused).2
  have queueKept : (wq.unclaimed ptr).queue = wq.queue := unclaimed_sub wq ptr .queue
  have checkoutKept : (wq.unclaimed ptr).checkout = wq.checkout := unclaimed_sub wq ptr .checkout
  have suspendKept : (wq.unclaimed ptr).suspend = wq.suspend := unclaimed_sub wq ptr .suspend
  have different : workStatCheckout ≠ workStatQueued ∧ workStatCheckout ≠ workStatSuspend ∧
      workStatQueued ≠ workStatSuspend := by decide
  rw [if_neg same, if_neg refused]
  simp only [moveTo, if_neg same, placed, settle, setState, modify, accepted, queueKept,
    checkoutKept, suspendKept, relabelled_update, unclaimed_next, unclaimed_all,
    Function.update_self, relabelled_ident]
  by_cases checkout : newStatus = workStatCheckout
  · subst checkout
    simp [different.1, different.2.1]
  by_cases queued : newStatus = workStatQueued
  · subst queued
    simp [different.1.symm, different.2.2]
  by_cases suspend : newStatus = workStatSuspend
  · subst suspend
    have reasoned : reason ≠ "" := fun empty => refused ⟨rfl, empty⟩
    simp [different.2.1.symm, different.2.2.symm, reasoned]
  · simp [checkout, queued, suspend]

theorem placed_sub_lookup (kind : SubMap) (id other : WorkunitUniqueIdentifier) :
    ((wq.placed id ptr newStatus reason).sub kind).lookup other =
      if other = id then (if newStatus = kind.home then some ptr else none)
      else (wq.sub kind).lookup other := by
  have settled : (wq.placed id ptr newStatus reason).sub kind =
      settle (wq.sub kind) (newStatus = kind.home) id ptr := by
    cases kind <;> rfl
  rw [settled, settle]
  by_cases belongs : newStatus = kind.home
  · rw [if_pos (decide_eq_true belongs), if_pos belongs, GoMap.lookup_insert_if]
  · rw [if_neg (by simpa using belongs), if_neg belongs, GoMap.lookup_erase_if]

theorem delete_sub_lookup (kind : SubMap) (id other : WorkunitUniqueIdentifier) :
    ((wq.delete id).sub kind).lookup other =
      if other = id then none else (wq.sub kind).lookup other := by
  cases kind <;> exact GoMap.lookup_erase_if ..

theorem delete_all_lookup (id other : WorkunitUniqueIdentifier) :
    (wq.delete id).all.lookup other = if other = id then none else wq.all.lookup other :=
  GoMap.lookup_erase_if ..

@[simp] theorem moveTo_all :
    (wq.moveTo (wq.work ptr).ident ptr newStatus reason).1.all = wq.all := by
  rw [moveTo_eq]
  split
  · rfl
  · split <;> simp [placed]

@[simp] theorem moveTo_next :
    (wq.moveTo (wq.work ptr).ident ptr newStatus reason).1.next = wq.next := by
  rw [moveTo_eq]
  split
  · rfl
  · split <;> simp [placed]

/-- Other objects are not written to. -/
theorem moveTo_work_of_ne {other : Nat} (different : other ≠ ptr) :
    (wq.moveTo (wq.work ptr).ident ptr newStatus reason).1.work other = wq.work other := by
  rw [moveTo_eq]
  split
  · rfl
  · split
    · simp only [unclaimed, modify]
      split
      · exact Function.update_of_ne different ..
      · rfl
    · exact Function.update_of_ne different ..

theorem moveTo_ident (other : Nat) :
    ((wq.moveTo (wq.work ptr).ident ptr newStatus reason).1.work other).ident =
      (wq.work other).ident := by
  by_cases same : other = ptr
  · subst other
    rw [moveTo_eq]
    split
    · rfl
    · split
      · exact unclaimed_ident ..
      · simp only [placed, Function.update_self, relabelled_ident]
  · rw [moveTo_work_of_ne wq ptr newStatus reason same]

/-- Unless the call is refused, the workunit ends in the requested state. -/
theorem moveTo_state {newStatus reason : String} (accepted : ¬Refused newStatus reason) :
    ((wq.moveTo (wq.work ptr).ident ptr newStatus reason).1.work ptr).state = newStatus := by
  rw [moveTo_eq]
  split
  · assumption
  · simp only [placed, Function.update_self, relabelled_state _ accepted]

end

/-! ## Stored and filed workunits -/

/-- Every entry of `all` points to an allocated object that carries the key of
the entry, and no key is broken. -/
structure Stored (wq : WorkQueue) : Prop where
  named : forall {id ptr}, wq.all.lookup id = some ptr -> (wq.work ptr).ident = id
  allocated : forall {id ptr}, wq.all.lookup id = some ptr -> ptr < wq.next
  printable : forall {id ptr}, wq.all.lookup id = some ptr -> id.Printable

/-- Every entry of a sub-map is an entry of `all`, with the same pointer, and
the state of the workunit satisfies `holds`. -/
def Within (wq : WorkQueue) (kind : SubMap) (holds : String -> Prop) : Prop :=
  forall id ptr, (wq.sub kind).lookup id = some ptr ->
    wq.all.lookup id = some ptr ∧ holds (wq.work ptr).state

/-- A sub-map has an entry for every stored workunit whose state satisfies `holds`. -/
def Covers (wq : WorkQueue) (kind : SubMap) (holds : String -> Prop) : Prop :=
  forall id ptr, wq.all.lookup id = some ptr -> holds (wq.work ptr).state ->
    (wq.sub kind).lookup id = some ptr

namespace Stored

variable {wq : WorkQueue}

/-- A pointer is stored under one identifier only. -/
theorem injective (stored : wq.Stored) {first second : WorkunitUniqueIdentifier} {ptr : Nat}
    (foundFirst : wq.all.lookup first = some ptr)
    (foundSecond : wq.all.lookup second = some ptr) : first = second :=
  (stored.named foundFirst).symm.trans (stored.named foundSecond)

theorem moveTo (stored : wq.Stored) (ptr : Nat) (newStatus reason : String) :
    (wq.moveTo (wq.work ptr).ident ptr newStatus reason).1.Stored where
  named found := by
    rw [moveTo_all] at found
    rw [moveTo_ident]
    exact stored.named found
  allocated found := by
    rw [moveTo_all] at found
    rw [moveTo_next]
    exact stored.allocated found
  printable found := by
    rw [moveTo_all] at found
    exact stored.printable found

theorem delete (stored : wq.Stored) (id : WorkunitUniqueIdentifier) : (wq.delete id).Stored := by
  have kept {other : WorkunitUniqueIdentifier} {ptr : Nat}
      (found : (wq.delete id).all.lookup other = some ptr) : wq.all.lookup other = some ptr := by
    rw [delete_all_lookup] at found
    split at found
    · cases found
    · exact found
  exact ⟨fun found => stored.named (kept found), fun found => stored.allocated (kept found),
    fun found => stored.printable (kept found)⟩

end Stored

/-- `StatusChange` by an identifier fails without touching the queue, or it works
on the object that `all` holds under it. -/
theorem Stored.statusChange_cases {wq : WorkQueue} (stored : wq.Stored)
    (id : WorkunitUniqueIdentifier) (newStatus reason : String) :
    (wq.all.lookup id = none ∧ (wq.statusChange id none newStatus reason).1 = wq) ∨
      Exists fun ptr => wq.all.lookup id = some ptr ∧
        wq.statusChange id none newStatus reason = wq.moveTo (wq.work ptr).ident ptr
            newStatus reason := by
  cases found : wq.all.lookup id with
  | some ptr =>
      refine Or.inr ⟨ptr, rfl, ?_⟩
      simp only [statusChange, found, stored.named found]
  | none =>
      refine Or.inl ⟨rfl, ?_⟩
      simp only [statusChange, found]
      split <;> rfl

/-- What a change of status leaves of an entry under another identifier. -/
private theorem placed_work_of_stored {wq : WorkQueue} (stored : wq.Stored) {ptr other : Nat}
    {newStatus reason : String} {id : WorkunitUniqueIdentifier} (own : id ≠ (wq.work ptr).ident)
    (found : wq.all.lookup id = some other) :
    (wq.placed (wq.work ptr).ident ptr newStatus reason).work other = wq.work other := by
  have different : other ≠ ptr := by
    rintro rfl
    exact own (stored.named found).symm
  exact Function.update_of_ne different ..

section

variable {wq : WorkQueue} {kind : SubMap} {holds : String -> Prop}

/-- A sub-map receives a workunit only together with its own status. -/
theorem Within.moveTo (within : wq.Within kind holds) (stored : wq.Stored) {ptr : Nat}
    {newStatus reason : String} (home : holds kind.home)
    (found : wq.all.lookup (wq.work ptr).ident = some ptr) :
    (wq.moveTo (wq.work ptr).ident ptr newStatus reason).1.Within kind holds := by
  rw [moveTo_eq]
  by_cases same : (wq.work ptr).state = newStatus
  · rw [if_pos same]
    exact within
  rw [if_neg same]
  by_cases refused : Refused newStatus reason
  · rw [if_pos refused]
    intro id other entry
    rw [unclaimed_sub] at entry
    rw [unclaimed_all, unclaimed_state]
    exact within id other entry
  rw [if_neg refused]
  intro id other entry
  rw [placed_sub_lookup] at entry
  change wq.all.lookup id = some other ∧ _
  by_cases own : id = (wq.work ptr).ident
  · rw [if_pos own] at entry
    by_cases target : newStatus = kind.home
    · rw [if_pos target] at entry
      cases entry
      refine ⟨own ▸ found, ?_⟩
      simp only [placed, Function.update_self, relabelled_state _ refused]
      exact target ▸ home
    · rw [if_neg target] at entry
      cases entry
  · rw [if_neg own] at entry
    have kept := within id other entry
    rw [placed_work_of_stored stored own kept.1]
    exact kept

/-- The workunit leaves a sub-map only together with the status of that map. -/
theorem Covers.moveTo (covers : wq.Covers kind holds) (stored : wq.Stored) {ptr : Nat}
    {newStatus reason : String} (target : holds newStatus -> newStatus = kind.home)
    (found : wq.all.lookup (wq.work ptr).ident = some ptr) :
    (wq.moveTo (wq.work ptr).ident ptr newStatus reason).1.Covers kind holds := by
  rw [moveTo_eq]
  by_cases same : (wq.work ptr).state = newStatus
  · rw [if_pos same]
    exact covers
  rw [if_neg same]
  by_cases refused : Refused newStatus reason
  · rw [if_pos refused]
    intro id other foundOther state
    rw [unclaimed_all] at foundOther
    rw [unclaimed_state] at state
    rw [unclaimed_sub]
    exact covers id other foundOther state
  rw [if_neg refused]
  intro id other foundOther state
  change wq.all.lookup id = some other at foundOther
  rw [placed_sub_lookup]
  by_cases own : id = (wq.work ptr).ident
  · rw [own, found] at foundOther
    cases foundOther
    simp only [placed, Function.update_self, relabelled_state _ refused] at state
    rw [if_pos own, if_pos (target state)]
  · rw [placed_work_of_stored stored own foundOther] at state
    rw [if_neg own]
    exact covers id other foundOther state

theorem Within.delete (within : wq.Within kind holds) (id : WorkunitUniqueIdentifier) :
    (wq.delete id).Within kind holds := by
  intro other ptr entry
  rw [delete_sub_lookup] at entry
  rw [delete_all_lookup]
  by_cases same : other = id
  · rw [if_pos same] at entry
    cases entry
  · rw [if_neg same] at entry ⊢
    exact within other ptr entry

theorem Covers.delete (covers : wq.Covers kind holds) (id : WorkunitUniqueIdentifier) :
    (wq.delete id).Covers kind holds := by
  intro other ptr found state
  rw [delete_all_lookup] at found
  rw [delete_sub_lookup]
  by_cases same : other = id
  · rw [if_pos same] at found
    cases found
  · rw [if_neg same] at found ⊢
    exact covers other ptr found state

end

/-! ## Adding a workunit -/

section

variable {wq : WorkQueue} {kind : SubMap} {holds : String -> Prop}

@[simp] theorem replace_work (ptr : Nat) : (wq.replace ptr).work = wq.work := by
  simp only [replace]
  split <;> rfl

@[simp] theorem replace_next (ptr : Nat) : (wq.replace ptr).next = wq.next := by
  simp only [replace]
  split <;> rfl

theorem replace_all_lookup (ptr : Nat) (id : WorkunitUniqueIdentifier) :
    (wq.replace ptr).all.lookup id =
      if id = (wq.work ptr).ident then some ptr else wq.all.lookup id := by
  simp only [replace, GoMap.lookup_insert_if]
  by_cases own : id = (wq.work ptr).ident
  · rw [if_pos own, if_pos own]
  · rw [if_neg own, if_neg own]
    split
    · rw [delete_all_lookup, if_neg own]
    · rfl

/-- No entry is left for the replaced identifier. -/
theorem replace_sub_lookup (within : wq.Within kind holds) (ptr : Nat)
    (id : WorkunitUniqueIdentifier) :
    ((wq.replace ptr).sub kind).lookup id =
      if id = (wq.work ptr).ident then none else (wq.sub kind).lookup id := by
  have same : (wq.replace ptr).sub kind =
      (if (wq.all.lookup (wq.work ptr).ident).isSome then wq.delete (wq.work ptr).ident
        else wq).sub kind := by
    cases kind <;> rfl
  rw [same]
  cases known : wq.all.lookup (wq.work ptr).ident with
  | some old =>
      rw [Option.isSome_some, if_pos rfl, delete_sub_lookup]
  | none =>
      rw [Option.isSome_none, if_neg Bool.false_ne_true]
      by_cases own : id = (wq.work ptr).ident
      · rw [if_pos own, own, Option.eq_none_iff_forall_ne_some]
        intro stray entry
        have found := (within _ _ entry).1
        rw [known] at found
        cases found
      · rw [if_neg own]

theorem Stored.replace (stored : wq.Stored) {ptr : Nat} (allocated : ptr < wq.next)
    (printable : (wq.work ptr).ident.Printable) : (wq.replace ptr).Stored := by
  have entries {id : WorkunitUniqueIdentifier} {other : Nat}
      (found : (wq.replace ptr).all.lookup id = some other) :
      (id = (wq.work ptr).ident ∧ other = ptr) ∨ wq.all.lookup id = some other := by
    rw [replace_all_lookup] at found
    split at found
    · next own => exact Or.inl ⟨own, (Option.some.inj found).symm⟩
    · exact Or.inr found
  refine ⟨fun found => ?_, fun found => ?_, fun found => ?_⟩
  · rw [replace_work]
    rcases entries found with ⟨rfl, rfl⟩ | old
    · rfl
    · exact stored.named old
  · rw [replace_next]
    rcases entries found with ⟨rfl, rfl⟩ | old
    · exact allocated
    · exact stored.allocated old
  · rcases entries found with ⟨rfl, rfl⟩ | old
    · exact printable
    · exact stored.printable old

theorem Within.replace (within : wq.Within kind holds) (ptr : Nat) :
    (wq.replace ptr).Within kind holds := by
  intro id other entry
  rw [replace_sub_lookup within] at entry
  rw [replace_all_lookup, replace_work]
  by_cases own : id = (wq.work ptr).ident
  · rw [if_pos own] at entry
    cases entry
  · rw [if_neg own] at entry ⊢
    exact within id other entry

/-- The new pointer must not belong into the map before it is filed. -/
theorem Covers.replace (covers : wq.Covers kind holds) (within : wq.Within kind holds) {ptr : Nat}
    (outside : ¬holds (wq.work ptr).state) : (wq.replace ptr).Covers kind holds := by
  intro id other found state
  rw [replace_all_lookup] at found
  rw [replace_work] at state
  rw [replace_sub_lookup within]
  by_cases own : id = (wq.work ptr).ident
  · rw [if_pos own] at found
    cases found
    exact absurd state outside
  · rw [if_neg own] at found ⊢
    exact covers id other found state

/-- A successful `Add` is a replacement followed by a change to queued. -/
theorem add_eq (ptr : Nat) (named : (wq.work ptr).globalId ≠ "")
    (printable : (wq.work ptr).ident.Printable) :
    wq.add ptr = (wq.replace ptr).moveTo ((wq.replace ptr).work ptr).ident ptr
        workStatQueued "" := by
  simp only [add, if_neg named, if_neg (not_not.mpr printable), statusChange]

theorem Stored.alloc (stored : wq.Stored) (workunit : Workunit) :
    (wq.alloc workunit).1.Stored where
  named found := by
    have old := stored.allocated found
    simp only [WorkQueue.alloc, Function.update_of_ne (Nat.ne_of_lt old)]
    exact stored.named found
  allocated found := Nat.lt_succ_of_lt (stored.allocated found)
  printable found := stored.printable found

@[simp] theorem alloc_sub (workunit : Workunit) : (wq.alloc workunit).1.sub kind = wq.sub kind := by
  cases kind <;> rfl

/-- Stored objects are not overwritten by an allocation. -/
theorem Stored.alloc_work (stored : wq.Stored) (workunit : Workunit)
    {id : WorkunitUniqueIdentifier} {ptr : Nat} (found : wq.all.lookup id = some ptr) :
    (wq.alloc workunit).1.work ptr = wq.work ptr :=
  Function.update_of_ne (Nat.ne_of_lt (stored.allocated found)) ..

theorem Within.alloc (within : wq.Within kind holds) (stored : wq.Stored) (workunit : Workunit) :
    (wq.alloc workunit).1.Within kind holds := by
  intro id ptr entry
  rw [alloc_sub] at entry
  have kept := within id ptr entry
  rw [stored.alloc_work workunit kept.1]
  exact kept

theorem Covers.alloc (covers : wq.Covers kind holds) (stored : wq.Stored) (workunit : Workunit) :
    (wq.alloc workunit).1.Covers kind holds := by
  intro id ptr found state
  rw [stored.alloc_work workunit found] at state
  rw [alloc_sub]
  exact covers id ptr found state

/-- What replacing an entry and queueing its new pointer keeps, `Add` keeps. -/
theorem add_induction (Inv : WorkQueue -> Prop) {ptr : Nat} (before : Inv wq)
    (queued : (wq.work ptr).ident.Printable ->
      (wq.replace ptr).all.lookup ((wq.replace ptr).work ptr).ident = some ptr ->
      Inv ((wq.replace ptr).moveTo ((wq.replace ptr).work ptr).ident ptr workStatQueued "").1) :
    Inv (wq.add ptr).1 := by
  by_cases unnamed : (wq.work ptr).globalId = ""
  · simpa only [add, if_pos unnamed] using before
  by_cases printable : (wq.work ptr).ident.Printable
  · rw [add_eq ptr unnamed printable]
    refine queued printable ?_
    rw [replace_all_lookup, replace_work, if_pos rfl]
  · simpa only [add, if_neg unnamed, if_pos printable] using before

theorem add_frame (ptr : Nat) :
    (wq.add ptr).1.next = wq.next ∧
      forall other, ((wq.add ptr).1.work other).ident = (wq.work other).ident := by
  refine add_induction (fun after => after.next = wq.next ∧
    forall other, (after.work other).ident = (wq.work other).ident) ⟨rfl, fun _ => rfl⟩ ?_
  intro _ _
  exact ⟨(moveTo_next ..).trans (replace_next ptr),
    fun other => (moveTo_ident ..).trans (by rw [replace_work])⟩

theorem Stored.add (stored : wq.Stored) {ptr : Nat} (allocated : ptr < wq.next) :
    (wq.add ptr).1.Stored :=
  add_induction Stored stored fun printable _ =>
    (stored.replace allocated printable).moveTo ptr workStatQueued ""

theorem Within.add (within : wq.Within kind holds) (stored : wq.Stored) {ptr : Nat}
    (allocated : ptr < wq.next) (home : holds kind.home) : (wq.add ptr).1.Within kind holds :=
  add_induction (fun wq => wq.Within kind holds) within fun printable found =>
    (within.replace ptr).moveTo (stored.replace allocated printable) home found

theorem Covers.add (covers : wq.Covers kind holds) (within : wq.Within kind holds)
    (stored : wq.Stored) {ptr : Nat} (allocated : ptr < wq.next)
    (outside : ¬holds (wq.work ptr).state)
    (target : holds workStatQueued -> workStatQueued = kind.home) :
    (wq.add ptr).1.Covers kind holds :=
  add_induction (fun wq => wq.Covers kind holds) covers fun printable found =>
    (covers.replace within outside).moveTo (stored.replace allocated printable) target found

/-- The entries after an `Add` of a new object: the object itself, queued under its identifier, and
entries from before, whose objects are untouched. -/
theorem Stored.add_entries (stored : wq.Stored) (workunit : Workunit)
    {id : WorkunitUniqueIdentifier} {ptr : Nat}
    (found : ((wq.alloc workunit).1.add (wq.alloc workunit).2).1.all.lookup id = some ptr) :
    (ptr = wq.next ∧ id = workunit.ident ∧
      (((wq.alloc workunit).1.add (wq.alloc workunit).2).1.work ptr).state = workStatQueued) ∨
    (wq.all.lookup id = some ptr ∧
      ((wq.alloc workunit).1.add (wq.alloc workunit).2).1.work ptr = wq.work ptr) := by
  revert id ptr
  refine add_induction (fun after => forall {id ptr}, after.all.lookup id = some ptr ->
    (ptr = wq.next ∧ id = workunit.ident ∧ (after.work ptr).state = workStatQueued) ∨
      (wq.all.lookup id = some ptr ∧ after.work ptr = wq.work ptr)) ?_ ?_
  · exact fun found => Or.inr ⟨found, stored.alloc_work workunit found⟩
  intro _ _ id ptr found
  have self : (wq.alloc workunit).1.work (wq.alloc workunit).2 = workunit := Function.update_self ..
  rw [moveTo_all, replace_all_lookup, self] at found
  by_cases own : id = workunit.ident
  · rw [if_pos own] at found
    cases found
    exact Or.inl ⟨rfl, own, moveTo_state _ _ (by decide)⟩
  · rw [if_neg own] at found
    have different : ptr ≠ (wq.alloc workunit).2 := Nat.ne_of_lt (stored.allocated found)
    rw [moveTo_work_of_ne _ _ _ _ different, replace_work, stored.alloc_work workunit found]
    exact Or.inr ⟨found, rfl⟩

/-- What every deletion keeps, `Clean` keeps. -/
theorem clean_induction {Inv : WorkQueue -> Prop}
    (deleted : forall wq id, Inv wq -> Inv (wq.delete id)) (before : Inv wq) : Inv wq.clean := by
  have along (pointers : List Nat) : forall current, Inv current ->
      Inv (pointers.foldl (fun current ptr =>
        if (current.work ptr).info = none then current.delete (current.work ptr).ident
        else current) current) := by
    induction pointers with
    | nil => exact fun current kept => kept
    | cons ptr rest inductionHypothesis =>
        intro current kept
        refine inductionHypothesis _ ?_
        beta_reduce
        split
        · exact deleted current _ kept
        · exact kept
  exact along wq.all.values wq before

end

section

variable {wq : WorkQueue} {kind : SubMap} {holds : String -> Prop} {ptr : Nat}
  {change : Workunit -> Workunit}

@[simp] theorem modify_sub : (wq.modify ptr change).sub kind = wq.sub kind := by
  cases kind <;> rfl

theorem modify_work_self : (wq.modify ptr change).work ptr = change (wq.work ptr) :=
  Function.update_self ..

theorem modify_work_of_ne {other : Nat} (different : other ≠ ptr) :
    (wq.modify ptr change).work other = wq.work other :=
  Function.update_of_ne different ..

theorem modify_ident (kept : (change (wq.work ptr)).ident = (wq.work ptr).ident) (other : Nat) :
    ((wq.modify ptr change).work other).ident = (wq.work other).ident := by
  by_cases same : other = ptr
  · rw [same, modify_work_self, kept]
  · rw [modify_work_of_ne same]

theorem Stored.modify (stored : wq.Stored)
    (kept : (change (wq.work ptr)).ident = (wq.work ptr).ident) :
    (wq.modify ptr change).Stored where
  named found := (modify_ident kept _).trans (stored.named found)
  allocated found := stored.allocated found
  printable found := stored.printable found

/-- The written object must keep satisfying what a map says about it. -/
theorem Within.modify (within : wq.Within kind holds)
    (kept : holds (wq.work ptr).state -> holds (change (wq.work ptr)).state) :
    (wq.modify ptr change).Within kind holds := by
  intro id other entry
  rw [modify_sub] at entry
  have old := within id other entry
  refine ⟨old.1, ?_⟩
  by_cases same : other = ptr
  · rw [same] at old ⊢
    rw [modify_work_self]
    exact kept old.2
  · rw [modify_work_of_ne same]
    exact old.2

end

end WorkQueue

end Core
end Awe
