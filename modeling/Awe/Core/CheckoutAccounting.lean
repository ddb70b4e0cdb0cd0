import Awe.Core.Checkout

namespace Awe
namespace Core

open Lib

/-!
# Who answers for a workunit that was checked out

A workunit in state checkout or reserved is computed by nobody else, so
somebody has to answer for it: an answer on its way to the handler of the
request, or a registered client that has the workunit on its list.

The code loses workunits at three places.  An answer that `ClientHandle`
cannot deliver in time is dropped together with its workunits; a handler may
write the name of a client that is no longer registered; and `RemoveClient`
requeues what the worker reported, not what the server handed out.  `accountable` says
that a step does none of this, and the main theorem is about the runs whose steps are all
accountable.
-/

/-- The states of a workunit that somebody answers for. In both a client is expected to report,
and no other client is given the workunit. -/
def Held (state : String) : Prop :=
  state = workStatCheckout ∨ state = workStatReserved

instance (state : String) : Decidable (Held state) :=
  inferInstanceAs (Decidable (_ ∨ _))

namespace WorkQueue

/-- A change after which no workunit is newly held and no held one has changed hands. Every
transition of the queue that is no hand-out is of this kind, so these are treated by one lemma. -/
structure Eases (before after : WorkQueue) : Prop where
  next : after.next = before.next
  all : after.all = before.all
  ident : forall ptr, (after.work ptr).ident = (before.work ptr).ident
  held : forall ptr, Held (after.work ptr).state ->
    Held (before.work ptr).state ∧ (after.work ptr).client = (before.work ptr).client

theorem Eases.refl (wq : WorkQueue) : wq.Eases wq :=
  ⟨rfl, rfl, fun _ => rfl, fun _ held => ⟨held, rfl⟩⟩

theorem Eases.trans {first second third : WorkQueue} (left : first.Eases second)
    (right : second.Eases third) : first.Eases third where
  next := right.next.trans left.next
  all := right.all.trans left.all
  ident ptr := (right.ident ptr).trans (left.ident ptr)
  held ptr held :=
    have middle := right.held ptr held
    have start := left.held ptr middle.1
    ⟨start.1, middle.2.trans start.2⟩

/-- A change of status eases the queue when it puts the workunit down, and also when it confirms a
reservation: `StatusChange` keeps the client of a held workunit that becomes checked out. -/
theorem moveTo_eases (wq : WorkQueue) (ptr : Nat) {newStatus reason : String}
    (releases : ¬Held newStatus ∨
      ((wq.work ptr).state = workStatReserved ∧ newStatus = workStatCheckout)) :
    wq.Eases (wq.moveTo (wq.work ptr).ident ptr newStatus reason).1 where
  next := moveTo_next ..
  all := moveTo_all ..
  ident := moveTo_ident wq ptr newStatus reason
  held other held := by
    by_cases own : other = ptr
    · subst other
      rw [moveTo_eq] at held ⊢
      by_cases same : (wq.work ptr).state = newStatus
      · rw [if_pos same] at held ⊢
        exact ⟨held, rfl⟩
      rw [if_neg same] at held ⊢
      by_cases refused : Refused newStatus reason
      · rw [if_pos refused, unclaimed_state] at held
        rw [if_pos refused]
        have claimed : ¬((wq.work ptr).state ≠ workStatCheckout ∧
            (wq.work ptr).state ≠ workStatReserved) := by
          rintro ⟨notCheckout, notReserved⟩
          exact held.elim notCheckout notReserved
        simp only [unclaimed, if_neg claimed]
        exact ⟨held, trivial⟩
      rw [if_neg refused] at held ⊢
      simp only [placed, Function.update_self, relabelled_state _ refused] at held ⊢
      rcases releases with puts | ⟨reserved, rfl⟩
      · exact absurd held puts
      · refine ⟨Or.inr reserved, ?_⟩
        have claimed : ¬((wq.work ptr).state ≠ workStatCheckout ∧
            (wq.work ptr).state ≠ workStatReserved) := fun unclaimed => unclaimed.2 reserved
        have accepted : ¬(workStatCheckout = workStatSuspend ∧ reason = "") := refused
        simp only [relabelled, if_neg claimed, Workunit.setState, if_neg accepted, ne_eq,
          not_true_eq_false, if_false]
    · rw [moveTo_work_of_ne wq ptr newStatus reason own] at held ⊢
      exact ⟨held, rfl⟩

end WorkQueue

namespace Checkout

/-- The workunits that `ClientHandle` or a handler has in its hands. -/
def inFlight (state : Checkout) : List Nat :=
  (match state.sending with
    | some (_, ack) => ack.workunits
    | none => []) ++ state.handlers.values.flatMap fun handler => handler.phase.works

/-- The client named by the workunit is registered and has the workunit on one of its lists. -/
def onClientList (state : Checkout) (id : WorkunitUniqueIdentifier) (ptr : Nat) : Prop :=
  Exists fun client =>
    state.server.cq.clientMap.lookup (state.server.cq.workQueue.work ptr).client = some client ∧
      (id ∈ (state.server.cq.client client).assignedWork.keys ∨
        id ∈ (state.server.cq.client client).currentWork.keys)

/-- Somebody answers for the workunit. A workunit that is on its way between two goroutines counts
as well. -/
def Accounted (state : Checkout) (id : WorkunitUniqueIdentifier) (ptr : Nat) : Prop :=
  ptr ∈ state.inFlight ∨ state.onClientList id ptr

/-- The workunit was given to the client, or is on its way to it. The name in the workunit is
written late, so that for a while only the answer says whose it is. -/
def HandedTo (state : Checkout) (clientID : String) (ptr : Nat) : Prop :=
  (state.server.cq.workQueue.work ptr).client = clientID ∨
    (Exists fun pair : CheckoutRequest × CoAck => state.sending = some pair ∧
      pair.1.fromclient = clientID ∧ ptr ∈ pair.2.workunits) ∨
    Exists fun handler => handler ∈ state.handlers.values ∧ handler.clientID = clientID ∧
      ptr ∈ handler.phase.works

/-- The step does not lose a workunit. -/
def accountable (state : Checkout) : Event -> Prop
  | .sendTimeout => forall req ack, state.sending = some (req, ack) -> ack.workunits = []
  | .respond index => forall handler, state.handlers.lookup index = some handler ->
      handler.phase.works ≠ [] ->
      state.server.cq.clientMap.lookup handler.clientID = some handler.client
  | .removeClient clientID _ =>
      (forall id ptr, state.server.cq.workQueue.all.lookup id = some ptr ->
        Held (state.server.cq.workQueue.work ptr).state ->
        (state.server.cq.workQueue.work ptr).client = clientID ->
        forall client, state.server.cq.clientMap.lookup clientID = some client ->
          id ∈ (state.server.cq.client client).currentWork.keys) ∧
      (forall req ack, state.sending = some (req, ack) -> req.fromclient = clientID ->
        ack.workunits = []) ∧
      (forall handler, handler ∈ state.handlers.values -> handler.clientID = clientID ->
        handler.phase.works = [])
  | _ => True

/-- Both maps agree with `all`, and what is in `Checkout` is held. The map of the suspended
workunits plays no part in this. -/
structure QueueOk (wq : WorkQueue) : Prop where
  stored : wq.Stored
  queue : wq.Within .queue fun _ => True
  checkout : wq.Within .checkout Held

namespace QueueOk

variable {wq : WorkQueue}

theorem newWorkQueue : QueueOk WorkQueue.newWorkQueue :=
  ⟨⟨nofun, nofun, nofun⟩, nofun, nofun⟩

theorem moveTo (ok : QueueOk wq) {ptr : Nat} (newStatus reason : String)
    (found : wq.all.lookup (wq.work ptr).ident = some ptr) :
    QueueOk (wq.moveTo (wq.work ptr).ident ptr newStatus reason).1 :=
  ⟨ok.stored.moveTo ptr newStatus reason, ok.queue.moveTo ok.stored trivial found,
    ok.checkout.moveTo ok.stored (Or.inl rfl) found⟩

theorem modify (ok : QueueOk wq) {ptr : Nat} {change : Workunit -> Workunit}
    (ident : (change (wq.work ptr)).ident = (wq.work ptr).ident)
    (held : Held (wq.work ptr).state -> Held (change (wq.work ptr)).state) :
    QueueOk (wq.modify ptr change) :=
  ⟨ok.stored.modify ident, ok.queue.modify fun _ => trivial, ok.checkout.modify held⟩

theorem add (ok : QueueOk wq) (workunit : Workunit) :
    QueueOk ((wq.alloc workunit).1.add (wq.alloc workunit).2).1 := by
  have stored := ok.stored.alloc workunit
  have allocated : (wq.alloc workunit).2 < (wq.alloc workunit).1.next := Nat.lt_succ_self wq.next
  exact ⟨stored.add allocated, (ok.queue.alloc ok.stored workunit).add stored allocated trivial,
    (ok.checkout.alloc ok.stored workunit).add stored allocated (Or.inl rfl)⟩

/-- A pointer found in `all` is stored under the identifier of its object. -/
theorem found_own (ok : QueueOk wq) {id : WorkunitUniqueIdentifier} {ptr : Nat}
    (found : wq.all.lookup id = some ptr) : wq.all.lookup (wq.work ptr).ident = some ptr := by
  rw [ok.stored.named found]
  exact found

end QueueOk

/-! ## Releasing and confirming -/

section

variable {qm : CQMgr}

/-- What the loops over the reported work keep: the clients, the queue's invariant, and every
account of a held workunit. -/
structure Settles (before after : CQMgr) : Prop where
  client : after.client = before.client
  nextClient : after.nextClient = before.nextClient
  clientMap : after.clientMap = before.clientMap
  ok : QueueOk after.workQueue
  eases : before.workQueue.Eases after.workQueue

theorem Settles.statusChange {before : CQMgr} (settled : Settles before qm)
    {id : WorkunitUniqueIdentifier} {ptr : Nat} {newStatus reason : String}
    (found : qm.workQueue.all.lookup id = some ptr)
    (releases : ¬Held newStatus ∨
      ((qm.workQueue.work ptr).state = workStatReserved ∧ newStatus = workStatCheckout)) :
    Settles before (qm.statusChange ptr newStatus reason) where
  client := settled.client
  nextClient := settled.nextClient
  clientMap := settled.clientMap
  ok := settled.ok.moveTo newStatus reason (settled.ok.found_own found)
  eases := settled.eases.trans (qm.workQueue.moveTo_eases ptr releases)

private theorem not_held_of_released {newStatus reason : String}
    (released : newStatus = workStatQueued ∨ (newStatus = workStatSuspend ∧ reason ≠ "")) :
    ¬Held newStatus := by
  rcases released with rfl | ⟨rfl, _⟩ <;> decide

theorem settles_reQueueWorkunits (ok : QueueOk qm.workQueue)
    (jobState : String -> Option JobState) (clientID : String)
    (worklist : List WorkunitUniqueIdentifier) :
    Settles qm (qm.reQueueWorkunits jobState clientID worklist).1 := by
  refine CQMgr.reQueueWorkunits_induction (Settles qm) ?_ worklist
    ⟨rfl, rfl, rfl, ok, .refl _⟩
  intro current id ptr newStatus reason settled found released
  exact settled.statusChange found (Or.inl (not_held_of_released released))

theorem settles_confirmReserved (ok : QueueOk qm.workQueue)
    (worklist : List WorkunitUniqueIdentifier) : Settles qm (qm.confirmReserved worklist).1 := by
  refine CQMgr.confirmReserved_induction (Settles qm) ?_ worklist ⟨rfl, rfl, rfl, ok, .refl _⟩
  intro current id ptr settled found reserved
  exact settled.statusChange found (Or.inr ⟨reserved, rfl⟩)

theorem settles_reQueueWorkunit (ok : QueueOk qm.workQueue)
    (jobState : String -> Option JobState) (clientID : String) (workid : WorkunitUniqueIdentifier) :
    Settles qm (qm.reQueueWorkunit jobState clientID workid).1 := by
  have same : Settles qm qm := ⟨rfl, rfl, rfl, ok, .refl _⟩
  rcases CQMgr.reQueueWorkunit_cases jobState clientID workid with
    kept | ⟨ptr, found, newStatus, reason, released, changed⟩
  · rw [kept]
    exact same
  · rw [changed]
    exact same.statusChange found (Or.inl (not_held_of_released released))

/-- The turn of a stored workunit whose job is known reports no error, and it puts the workunit
down if it belongs to the client. -/
theorem reQueueWorkunit_releases (ok : QueueOk qm.workQueue) {jobState : String -> Option JobState}
    {clientID : String} {id : WorkunitUniqueIdentifier} {ptr : Nat}
    (found : qm.workQueue.all.lookup id = some ptr) (known : (jobState id.jobId).isSome) :
    (qm.reQueueWorkunit jobState clientID id).2 = none ∧
      ((qm.workQueue.work ptr).client = clientID ->
        ¬Held ((qm.reQueueWorkunit jobState clientID id).1.workQueue.work ptr).state) := by
  have printable : id.string.2 = none := ok.stored.printable found
  rcases Option.isSome_iff_exists.mp known with ⟨state, loaded⟩
  have putDown {newStatus reason : String}
      (released : newStatus = workStatQueued ∨ (newStatus = workStatSuspend ∧ reason ≠ "")) :
      ¬Held ((qm.statusChange ptr newStatus reason).workQueue.work ptr).state := by
    have accepted : ¬WorkQueue.Refused newStatus reason := by
      rintro ⟨suspended, empty⟩
      rcases released with rfl | ⟨_, reasoned⟩
      · exact absurd suspended (by decide)
      · exact reasoned empty
    have moved := qm.workQueue.moveTo_state ptr accepted
    simp only [CQMgr.statusChange, WorkQueue.statusChange, moved]
    exact not_held_of_released released
  simp only [CQMgr.reQueueWorkunit, found, ok.stored.named found, loaded]
  split
  · split
    · exact ⟨by rw [printable]; rfl, fun _ => putDown (Or.inl rfl)⟩
    · next other => 
        refine ⟨?_, fun own => absurd own other⟩
        split
        · rfl
        · split <;> rfl
  · exact ⟨rfl, fun _ => putDown (Or.inr ⟨rfl, by decide⟩)⟩

/-- Every listed workunit of the removed client is put down.  Jobs of stored workunits are known,
so the loop visits the whole list. -/
theorem reQueueWorkunits_releases {jobState : String -> Option JobState} {clientID : String}
    (worklist : List WorkunitUniqueIdentifier) (ok : QueueOk qm.workQueue)
    (known : forall id ptr, qm.workQueue.all.lookup id = some ptr -> (jobState id.jobId).isSome)
    {id : WorkunitUniqueIdentifier} {ptr : Nat} (member : id ∈ worklist)
    (found : qm.workQueue.all.lookup id = some ptr)
    (held : Held ((qm.reQueueWorkunits jobState clientID worklist).1.workQueue.work ptr).state) :
    (qm.workQueue.work ptr).client ≠ clientID := by
  induction worklist generalizing qm with
  | nil => cases member
  | cons workid rest inductionHypothesis =>
      have turn := settles_reQueueWorkunit ok jobState clientID workid
      -- A turn over an unknown identifier does nothing; all others report no error.
      have continued : (qm.reQueueWorkunit jobState clientID workid).2 = none := by
        cases stored : qm.workQueue.all.lookup workid with
        | none => simp only [CQMgr.reQueueWorkunit, stored]
        | some other => exact (reQueueWorkunit_releases ok stored (known _ _ stored)).1
      have unfolded : qm.reQueueWorkunits jobState clientID (workid :: rest) =
          (qm.reQueueWorkunit jobState clientID workid).1.reQueueWorkunits jobState clientID
            rest := by
        simp only [CQMgr.reQueueWorkunits]
        generalize qm.reQueueWorkunit jobState clientID workid = turned at continued
        rcases turned with ⟨after, err⟩
        cases continued
        rfl
      rw [unfolded] at held
      have heldBetween :=
        ((settles_reQueueWorkunits turn.ok jobState clientID rest).eases.held ptr held).1
      rcases List.mem_cons.mp member with rfl | later
      · intro own
        exact (reQueueWorkunit_releases ok found (known _ _ found)).2 own heldBetween
      · have sameAll := turn.eases.all
        have different := inductionHypothesis turn.ok
          (fun other ptr stored => known other ptr (sameAll ▸ stored)) later (sameAll ▸ found) held
        rw [(turn.eases.held ptr heldBetween).2] at different
        exact different

/-- What handing out `works` keeps. -/
structure HandsOut (works : List Nat) (before after : CQMgr) : Prop where
  client : after.client = before.client
  nextClient : after.nextClient = before.nextClient
  clientMap : after.clientMap = before.clientMap
  ok : QueueOk after.workQueue
  next : after.workQueue.next = before.workQueue.next
  all : after.workQueue.all = before.workQueue.all
  ident : forall ptr, (after.workQueue.work ptr).ident = (before.workQueue.work ptr).ident
  others : forall ptr, ptr ∉ works -> after.workQueue.work ptr = before.workQueue.work ptr

theorem handsOut_handOut (ok : QueueOk qm.workQueue) (clientID : String) {ptr : Nat}
    (found : qm.workQueue.all.lookup (qm.workQueue.work ptr).ident = some ptr) :
    HandsOut [ptr] qm (qm.handOut clientID ptr) := by
  have claimed : QueueOk (qm.workQueue.modify ptr fun work => work.withClient clientID) :=
    ok.modify rfl fun held => held
  have sameIdent (other : Nat) :
      ((qm.workQueue.modify ptr fun work => work.withClient clientID).work other).ident =
        (qm.workQueue.work other).ident :=
    WorkQueue.modify_ident rfl other
  refine ⟨rfl, rfl, rfl, ?_, ?_, ?_, fun other => ?_, fun other outside => ?_⟩
  · exact claimed.moveTo workStatCheckout "" (by rw [sameIdent]; exact found)
  · exact WorkQueue.moveTo_next ..
  · exact WorkQueue.moveTo_all ..
  · exact (WorkQueue.moveTo_ident ..).trans (sameIdent other)
  · have different : other ≠ ptr := by simpa using outside
    have unwritten : (qm.workQueue.modify ptr fun work => work.withClient clientID).work other =
        qm.workQueue.work other := WorkQueue.modify_work_of_ne different
    exact (WorkQueue.moveTo_work_of_ne _ _ _ _ different).trans unwritten

theorem handsOut_foldl (clientID : String) (works : List Nat) (ok : QueueOk qm.workQueue)
    (found : forall ptr, ptr ∈ works ->
      qm.workQueue.all.lookup (qm.workQueue.work ptr).ident = some ptr) :
    HandsOut works qm (works.foldl (CQMgr.handOut clientID) qm) := by
  induction works generalizing qm with
  | nil => exact ⟨rfl, rfl, rfl, ok, rfl, rfl, fun _ => rfl, fun _ _ => rfl⟩
  | cons first rest inductionHypothesis =>
      have head := handsOut_handOut ok clientID (found first List.mem_cons_self)
      have tail := inductionHypothesis head.ok fun ptr member => by
        rw [head.all, head.ident]
        exact found ptr (List.mem_cons_of_mem first member)
      refine ⟨tail.client.trans head.client, tail.nextClient.trans head.nextClient,
        tail.clientMap.trans head.clientMap, tail.ok, tail.next.trans head.next,
            tail.all.trans head.all,
        fun ptr => (tail.ident ptr).trans (head.ident ptr), fun ptr outside => ?_⟩
      have notFirst : ptr ∉ [first] := fun member =>
        outside (List.mem_cons.mpr (Or.inl (List.mem_singleton.mp member)))
      have notLater : ptr ∉ rest := fun member => outside (List.mem_cons_of_mem first member)
      exact (tail.others ptr notLater).trans (head.others ptr notFirst)

end

/-! ## The invariant of the protocol -/

/-- An answer carries at most one workunit, and none together with an error. `ReadMany` asks for
one workunit at a time. -/
def AckOk (ack : CoAck) : Prop :=
  ack.workunits.length ≤ 1 ∧ (ack.err ≠ none -> ack.workunits = [])

/-- What a handler knows in its phase. In the last phase the client's list has been written
already, which is what makes the workunit accounted for. -/
def HandlerOk (cq : CQMgr) (handler : Handler) : Prop :=
  handler.client < cq.nextClient ∧
    match handler.phase with
    | .waiting => True
    | .received ack => AckOk ack
    | .assigned works => works.length ≤ 1 ∧ forall ptr, ptr ∈ works ->
        (cq.workQueue.work ptr).ident ∈ (cq.client handler.client).assignedWork.keys

/-- The parts of the server. -/
structure ServerOk (server : ServerMgr) : Prop where
  queue : QueueOk server.cq.workQueue
  known : forall id ptr, server.cq.workQueue.all.lookup id = some ptr ->
    (server.store.jobs.lookup id.jobId).isSome
  named : forall clientID ptr, server.cq.clientMap.lookup clientID = some ptr ->
    (server.cq.client ptr).id = clientID ∧ ptr < server.cq.nextClient

/-- The parts in flight. Numbers of workunits and handlers are given out in order, so a new one is
none of those in flight. -/
structure FlightOk (state : Checkout) : Prop where
  requests : forall req, req ∈ state.coReq -> req.count = 1
  sending : forall req ack, state.sending = some (req, ack) -> AckOk ack
  handlers : forall index handler, state.handlers.lookup index = some handler ->
    index < state.nextHandler ∧ HandlerOk state.server.cq handler
  allocated : forall ptr, ptr ∈ state.inFlight -> ptr < state.server.cq.workQueue.next

/-- The account the invariant keeps: the server's own list of the client has the workunit. -/
def Answered (state : Checkout) (id : WorkunitUniqueIdentifier) (ptr : Nat) : Prop :=
  ptr ∈ state.inFlight ∨
    Exists fun client =>
      state.server.cq.clientMap.lookup (state.server.cq.workQueue.work ptr).client = some client ∧
        id ∈ (state.server.cq.client client).assignedWork.keys

structure Safe (state : Checkout) : Prop where
  server : ServerOk state.server
  flight : FlightOk state
  answered : forall id ptr, state.server.cq.workQueue.all.lookup id = some ptr ->
    Held (state.server.cq.workQueue.work ptr).state -> state.Answered id ptr

theorem begin_safe (store : Store) (taskMap : GoMap TaskUniqueIdentifier Nat)
    (suspendQueue : Bool) : (begin store taskMap suspendQueue).Safe where
  server := ⟨.newWorkQueue, nofun, nofun⟩
  flight := ⟨nofun, nofun, nofun, nofun⟩
  answered := nofun

theorem mem_inFlight {state : Checkout} {ptr : Nat} :
    ptr ∈ state.inFlight ↔
      (Exists fun pair => state.sending = some pair ∧ ptr ∈ pair.2.workunits) ∨
        Exists fun index => Exists fun handler =>
          state.handlers.lookup index = some handler ∧ ptr ∈ handler.phase.works := by
  unfold inFlight
  rw [List.mem_append, List.mem_flatMap]
  refine or_congr ?_ ?_
  · cases state.sending with
    | none => simp
    | some pair => simp
  · simp only [GoMap.mem_values]
    constructor
    · rintro ⟨handler, ⟨index, found⟩, member⟩
      exact ⟨index, handler, found, member⟩
    · rintro ⟨index, handler, found, member⟩
      exact ⟨handler, ⟨index, found⟩, member⟩

/-- A change of the queue manager that forgets no object and no assignment. Handlers keep pointers
over steps of others, and what they know has to outlast these. -/
structure Grows (before after : CQMgr) : Prop where
  nextClient : before.nextClient ≤ after.nextClient
  next : before.workQueue.next ≤ after.workQueue.next
  ident : forall ptr, ptr < before.workQueue.next ->
    (after.workQueue.work ptr).ident = (before.workQueue.work ptr).ident
  assigned : forall client, client < before.nextClient ->
    (before.client client).assignedWork.keys ⊆ (after.client client).assignedWork.keys

theorem Settles.grows {before after : CQMgr} (settled : Settles before after) :
    Grows before after where
  nextClient := settled.nextClient.ge
  next := settled.eases.next.ge
  ident ptr _ := settled.eases.ident ptr
  assigned client _ := by rw [settled.client]; exact List.Subset.refl _

theorem HandsOut.grows {works : List Nat} {before after : CQMgr}
    (handed : HandsOut works before after) : Grows before after where
  nextClient := handed.nextClient.ge
  next := handed.next.ge
  ident ptr _ := handed.ident ptr
  assigned client _ := by rw [handed.client]; exact List.Subset.refl _

theorem grows_modifyClient (qm : CQMgr) (ptr : Nat) {change : Client -> Client}
    (kept : (qm.client ptr).assignedWork.keys ⊆ (change (qm.client ptr)).assignedWork.keys) :
    Grows qm (qm.modifyClient ptr change) where
  nextClient := Nat.le_refl _
  next := Nat.le_refl _
  ident _ _ := rfl
  assigned client _ := by
    by_cases same : client = ptr
    · subst client
      simp only [CQMgr.modifyClient, Function.update_self]
      exact kept
    · simp only [CQMgr.modifyClient, Function.update_of_ne same]
      exact List.Subset.refl _

/-- What is in flight stays well formed while the manager grows. -/
theorem FlightOk.withServer {state : Checkout} (flight : FlightOk state) {server : ServerMgr}
    (grows : Grows state.server.cq server.cq) : FlightOk { state with server := server } where
  requests := flight.requests
  sending := flight.sending
  handlers index handler found := by
    rcases flight.handlers index handler found with ⟨old, allocated, phase⟩
    refine ⟨old, Nat.lt_of_lt_of_le allocated grows.nextClient, ?_⟩
    have inside {ptr : Nat} (member : ptr ∈ handler.phase.works) :
        ptr < state.server.cq.workQueue.next :=
      flight.allocated ptr (mem_inFlight.mpr (Or.inr ⟨index, handler, found, member⟩))
    cases current : handler.phase with
    | waiting => trivial
    | received ack =>
        rw [current] at phase
        exact phase
    | assigned works =>
        rw [current] at phase inside
        refine ⟨phase.1, fun ptr member => ?_⟩
        rw [grows.ident ptr (inside member)]
        exact grows.assigned _ allocated (phase.2 ptr member)
  allocated ptr member := Nat.lt_of_lt_of_le (flight.allocated ptr member) grows.next

end Checkout

end Core
end Awe
