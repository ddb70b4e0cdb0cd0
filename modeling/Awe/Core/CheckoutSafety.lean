import Awe.Core.CheckoutAccounting
import Mathlib.Tactic.FinCases

namespace Awe
namespace Core

open Lib

/-!
# No accountable run loses a workunit

One lemma for every event shows that it keeps the invariant `Safe`.  Only three of
them use the guard: giving up an answer, answering the client, and removing a client.
-/

namespace Checkout

variable {state after : Checkout}

/-! ## Steps that change the server alone -/

/-- The common shape: nothing in flight changes, and every workunit that is held afterwards was
held before, by a client that is still registered with the same or a longer list. -/
private theorem Safe.withCQ (safe : state.Safe) {cq : CQMgr}
    (ok : ServerOk { state.server with cq := cq }) (grows : Grows state.server.cq cq)
    (kept : forall id ptr, cq.workQueue.all.lookup id = some ptr ->
      Held (cq.workQueue.work ptr).state ->
      state.server.cq.workQueue.all.lookup id = some ptr ∧
        Held (state.server.cq.workQueue.work ptr).state ∧
        (cq.workQueue.work ptr).client = (state.server.cq.workQueue.work ptr).client)
    (registered : forall id ptr client, cq.workQueue.all.lookup id = some ptr ->
      Held (cq.workQueue.work ptr).state ->
      state.server.cq.clientMap.lookup (cq.workQueue.work ptr).client = some client ->
      cq.clientMap.lookup (cq.workQueue.work ptr).client = some client) :
    (state.withCQ cq).Safe where
  server := ok
  flight := safe.flight.withServer grows
  answered id ptr found held := by
    rcases kept id ptr found held with ⟨foundBefore, heldBefore, sameClient⟩
    rcases safe.answered id ptr foundBefore heldBefore with flying | ⟨client, known, listed⟩
    · exact Or.inl flying
    · rw [← sameClient] at known
      refine Or.inr ⟨client, registered id ptr client found held known, ?_⟩
      exact grows.assigned client (safe.server.named _ _ known).2 listed

/-- A write to a client object that keeps its name and forgets no assignment. -/
private theorem Safe.modifyClient (safe : state.Safe) (ptr : Nat) {change : Client -> Client}
    (sameId : (change (state.server.cq.client ptr)).id = (state.server.cq.client ptr).id)
    (kept : (state.server.cq.client ptr).assignedWork.keys ⊆
      (change (state.server.cq.client ptr)).assignedWork.keys) :
    (state.withCQ (state.server.cq.modifyClient ptr change)).Safe := by
  refine safe.withCQ ⟨safe.server.queue, safe.server.known, fun clientID other known => ?_⟩
    (grows_modifyClient _ _ kept) (fun _ _ found held => ⟨found, held, rfl⟩)
    (fun _ _ _ _ _ known => known)
  have named := safe.server.named clientID other known
  refine ⟨?_, named.2⟩
  by_cases same : other = ptr
  · subst other
    simpa only [CQMgr.modifyClient, Function.update_self, sameId] using named.1
  · simpa only [CQMgr.modifyClient, Function.update_of_ne same] using named.1

private theorem safe_register (safe : state.Safe) (profile : Client) :
    (state.withCQ (state.server.cq.registerNewClient profile)).Safe := by
  unfold CQMgr.registerNewClient
  cases old : state.server.cq.clientMap.lookup profile.id with
  | some ptr =>
      exact safe.modifyClient ptr rfl (List.Subset.refl _)
  | none =>
      have keeps {clientID : String} {client : Nat}
          (known : state.server.cq.clientMap.lookup clientID = some client) :
          clientID ≠ profile.id ∧ client ≠ state.server.cq.nextClient := by
        refine ⟨?_, Nat.ne_of_lt (safe.server.named clientID client known).2⟩
        rintro rfl
        rw [old] at known
        cases known
      dsimp only
      refine safe.withCQ ⟨safe.server.queue, safe.server.known, fun clientID client known => ?_⟩
        ⟨Nat.le_succ _, Nat.le_refl _, fun _ _ => rfl, fun client allocated => ?_⟩
        (fun _ _ found held => ⟨found, held, rfl⟩) (fun _ _ client _ _ known => ?_)
      · simp only [GoMap.lookup_insert_if] at known
        split at known
        · next same =>
            cases known
            simp only [Function.update_self, same]
            exact ⟨trivial, Nat.lt_succ_self _⟩
        · have named := safe.server.named clientID client known
          simp only [Function.update_of_ne (keeps known).2]
          exact ⟨named.1, Nat.lt_succ_of_lt named.2⟩
      · simp only [Function.update_of_ne (Nat.ne_of_lt allocated)]
        exact List.Subset.refl _
      · simp only [GoMap.lookup_insert_if]
        rw [if_neg (keeps known).1]
        exact known

private theorem safe_enqueue (safe : state.Safe) {workunit : Workunit}
    (stepped : state.enqueue workunit = some after) : after.Safe := by
  simp only [enqueue] at stepped
  split at stepped
  · next fresh =>
      cases stepped
      have stored := safe.server.queue.stored
      refine safe.withCQ ⟨safe.server.queue.add workunit, fun id ptr found => ?_, safe.server.named⟩
        ⟨Nat.le_refl _, ?_, fun ptr old => ?_, fun _ _ => List.Subset.refl _⟩
        (fun id ptr found held => ?_) (fun _ _ _ _ _ known => known)
      · rcases stored.add_entries workunit found with ⟨_, rfl, _⟩ | ⟨old, _⟩
        · exact fresh.2.2
        · exact safe.server.known id ptr old
      · rw [(WorkQueue.add_frame _).1]
        exact Nat.le_succ _
      · rw [(WorkQueue.add_frame _).2 ptr]
        exact congrArg Workunit.ident (Function.update_of_ne (Nat.ne_of_lt old) ..)
      · rcases stored.add_entries workunit found with ⟨_, _, queued⟩ | ⟨old, same⟩
        · rw [queued] at held
          exact absurd held (by decide)
        · rw [same] at held
          exact ⟨old, held, congrArg Workunit.client same⟩
  · cases stepped

private theorem safe_heartbeat (safe : state.Safe) {clientID : String} {reported : WorkunitList}
    (stepped : state.heartbeat clientID reported = some after) : after.Safe := by
  simp only [heartbeat, CQMgr.clientHeartBeat] at stepped
  cases known : state.server.cq.clientMap.lookup clientID with
  | none =>
      simp only [known, Option.some.injEq] at stepped
      exact stepped ▸ safe
  | some ptr =>
      simp only [known] at stepped
      cases stepped
      exact safe.modifyClient ptr rfl (List.Subset.refl _)

/-- The loops over the reported work keep every account. -/
private theorem Safe.settles (safe : state.Safe) {cq : CQMgr}
    (settled : Settles state.server.cq cq) :
    (state.withCQ cq).Safe := by
  refine safe.withCQ ⟨settled.ok, fun id ptr found => ?_, fun clientID ptr known =>
      ?_⟩ settled.grows
    (fun id ptr found held => ?_) (fun _ _ _ _ _ known => ?_)
  · rw [settled.eases.all] at found
    exact safe.server.known id ptr found
  · rw [settled.clientMap] at known
    rw [settled.client, settled.nextClient]
    exact safe.server.named clientID ptr known
  · rw [settled.eases.all] at found
    exact ⟨found, settled.eases.held ptr held⟩
  · rw [settled.clientMap]
    exact known

/-- The list of `ClientChecker` plays no part in the accounts. -/
private theorem Safe.withDeleteClients (safe : state.Safe) (deleteClients : List String) :
    Safe { state with deleteClients := deleteClients } :=
  ⟨safe.server, ⟨safe.flight.requests, safe.flight.sending, safe.flight.handlers,
    safe.flight.allocated⟩, safe.answered⟩

private theorem safe_checkClient (safe : state.Safe) {clientID : String}
    (stepped : state.checkClient clientID = some after) : after.Safe := by
  have checked (ptr : Nat) : (state.withCQ (state.server.cq.checkClient ptr).1).Safe := by
    unfold CQMgr.checkClient
    split
    · have tagged : (state.withCQ (state.server.cq.modifyClient ptr fun client =>
          { client with tag := false })).Safe := safe.modifyClient ptr rfl (List.Subset.refl _)
      exact tagged.settles (settles_confirmReserved tagged.server.queue _)
    · exact safe
  simp only [checkClient] at stepped
  split at stepped
  · cases stepped
  · next ptr _ =>
      split at stepped
      · next cq err result =>
          cases stepped
          simpa only [result] using checked ptr
      · next cq err result =>
          cases stepped
          have safeAfter := checked ptr
          rw [result] at safeAfter
          exact safeAfter.withDeleteClients _

/-- Removing the client is safe when its held workunits are all on the list that the loop visits:
none of them is held afterwards. -/
private theorem safe_removeClient (safe : state.Safe) {clientID : String}
    {worklist : List WorkunitUniqueIdentifier}
    (allowed : state.accountable (.removeClient clientID worklist))
    (stepped : state.removeClient clientID worklist = some after) :
    after.Safe ∧ after.sending = state.sending ∧ after.handlers = state.handlers ∧
      forall id ptr, after.server.cq.workQueue.all.lookup id = some ptr ->
        Held (after.server.cq.workQueue.work ptr).state ->
        (after.server.cq.workQueue.work ptr).client ≠ clientID := by
  simp only [removeClient, CQMgr.removeClient] at stepped
  cases known : state.server.cq.clientMap.lookup clientID with
  | none =>
      rw [known] at stepped
      cases stepped
  | some ptr =>
      simp only [known] at stepped
      split at stepped
      · next visited =>
          cases stepped
          have settled := settles_reQueueWorkunits safe.server.queue state.server.jobState
            (state.server.cq.client ptr).id worklist
          have releases (id : WorkunitUniqueIdentifier) (work : Nat) :=
            @reQueueWorkunits_releases _ state.server.jobState (state.server.cq.client ptr).id
              worklist safe.server.queue
              (fun other stored found => by
                simpa only [ServerMgr.jobState, Option.isSome_map] using
                  safe.server.known other stored found) id work
          rw [(safe.server.named clientID ptr known).1] at settled releases ⊢
          generalize (state.server.cq.reQueueWorkunits state.server.jobState clientID
            worklist).1 = requeued at settled releases ⊢
          have released (id : WorkunitUniqueIdentifier) (work : Nat)
              (found : requeued.workQueue.all.lookup id = some work)
              (held : Held (requeued.workQueue.work work).state) :
              (requeued.workQueue.work work).client ≠ clientID := by
            rw [settled.eases.all] at found
            have before := settled.eases.held work held
            intro own
            rw [before.2] at own
            have reported := allowed.1 id work found before.1 own ptr known
            exact releases id work (visited.2.mem_iff.mpr reported) found held own
          have removed : (state.withCQ
              { requeued with clientMap := requeued.clientMap.erase clientID }).Safe := by
            refine safe.withCQ ⟨settled.ok, fun id work found => ?_, fun other client found => ?_⟩
              ⟨settled.grows.nextClient, settled.grows.next, settled.grows.ident,
                settled.grows.assigned⟩
              (fun id work found held => ?_) (fun id work client found held registered => ?_)
            · rw [settled.eases.all] at found
              exact safe.server.known id work found
            · rw [GoMap.lookup_erase_if, settled.clientMap] at found
              split at found
              · cases found
              · rw [settled.client, settled.nextClient]
                exact safe.server.named other client found
            · rw [settled.eases.all] at found
              exact ⟨found, settled.eases.held work held⟩
            · rw [GoMap.lookup_erase_if, if_neg (released id work found held), settled.clientMap]
              exact registered
          exact ⟨removed.withDeleteClients _, rfl, rfl, released⟩
      · cases stepped

/-! ## Steps that move requests and answers -/

/-- Nothing changes on the server, and nothing in flight is dropped. -/
private theorem Safe.withFlight (safe : state.Safe) (sameServer : after.server = state.server)
    (flight : FlightOk after) (covered : state.inFlight ⊆ after.inFlight) : after.Safe := by
  refine ⟨sameServer ▸ safe.server, flight, fun id ptr found held => ?_⟩
  rw [sameServer] at found held
  rcases safe.answered id ptr found held with flying | listed
  · exact Or.inl (covered flying)
  · refine Or.inr ?_
    rw [sameServer]
    exact listed

private theorem safe_request (safe : state.Safe) (coReqLength : Nat) (clientID : String)
    (available : Int) : (state.request coReqLength clientID available).Safe := by
  simp only [request]
  cases known : state.server.cq.clientMap.lookup clientID with
  | none => exact safe
  | some ptr =>
      dsimp only
      split
      · exact safe
      refine safe.withFlight rfl ⟨fun req member => ?_, safe.flight.sending,
        fun index handler found => ?_, fun work member => ?_⟩ fun work member => ?_
      · rcases List.mem_append.mp member with old | new
        · exact safe.flight.requests req old
        · rw [List.mem_singleton.mp new]
      · rcases GoMap.lookup_insert_eq_some.mp found with ⟨rfl, rfl⟩ | ⟨_, old⟩
        · exact ⟨Nat.lt_succ_self _, (safe.server.named clientID ptr known).2, trivial⟩
        · have kept := safe.flight.handlers index handler old
          exact ⟨Nat.lt_succ_of_lt kept.1, kept.2⟩
      · refine safe.flight.allocated work (mem_inFlight.mpr ?_)
        refine (mem_inFlight.mp member).imp id ?_
        rintro ⟨index, handler, found, held⟩
        rcases GoMap.lookup_insert_eq_some.mp found with ⟨rfl, rfl⟩ | ⟨_, old⟩
        · cases held
        · exact ⟨index, handler, old, held⟩
      · refine mem_inFlight.mpr ((mem_inFlight.mp member).imp id ?_)
        rintro ⟨index, handler, found, held⟩
        have older := Nat.ne_of_lt (safe.flight.handlers index handler found).1
        exact ⟨index, handler, GoMap.lookup_insert_eq_some.mpr (Or.inr ⟨older, found⟩), held⟩

private theorem safe_deliver (safe : state.Safe) {index : Nat}
    (stepped : state.deliver index = some after) : after.Safe := by
  simp only [deliver] at stepped
  split at stepped
  · next req ack handler sent waits =>
      split at stepped
      · next ready =>
          cases stepped
          have old := safe.flight.handlers index handler waits
          have empty : handler.phase.works = [] := by rw [ready.1]; rfl
          refine safe.withFlight rfl ⟨safe.flight.requests, nofun, fun other current found => ?_,
            fun work member => ?_⟩ fun work member => ?_
          · rcases GoMap.lookup_insert_eq_some.mp found with ⟨rfl, rfl⟩ | ⟨_, kept⟩
            · exact ⟨old.1, old.2.1, safe.flight.sending req ack sent⟩
            · exact safe.flight.handlers other current kept
          · refine safe.flight.allocated work (mem_inFlight.mpr ?_)
            rcases mem_inFlight.mp member with ⟨_, none, _⟩ | ⟨other, current, found, held⟩
            · cases none
            rcases GoMap.lookup_insert_eq_some.mp found with ⟨rfl, rfl⟩ | ⟨_, kept⟩
            · exact Or.inl ⟨(req, ack), sent, held⟩
            · exact Or.inr ⟨other, current, kept, held⟩
          · refine mem_inFlight.mpr (Or.inr ?_)
            rcases mem_inFlight.mp member with ⟨pair, same, held⟩ | ⟨other, current, found, held⟩
            · rw [sent] at same
              cases same
              exact ⟨index, _, GoMap.lookup_insert_eq_some.mpr (Or.inl ⟨rfl, rfl⟩), held⟩
            · -- The handler that receives the answer had nothing before.
              refine ⟨other, current, GoMap.lookup_insert_eq_some.mpr (Or.inr ⟨?_, found⟩), held⟩
              rintro rfl
              rw [waits] at found
              cases found
              rw [empty] at held
              cases held
      · cases stepped
  · cases stepped

private theorem safe_sendTimeout (safe : state.Safe) (allowed : state.accountable .sendTimeout)
    (stepped : state.sendTimeout = some after) : after.Safe := by
  simp only [sendTimeout] at stepped
  split at stepped
  · cases stepped
    refine safe.withFlight rfl ⟨safe.flight.requests, nofun, safe.flight.handlers,
      fun work member => ?_⟩ fun work member => ?_
    · refine safe.flight.allocated work (mem_inFlight.mpr (Or.inr ?_))
      rcases mem_inFlight.mp member with ⟨_, none, _⟩ | flying
      · cases none
      · exact flying
    · refine mem_inFlight.mpr (Or.inr ?_)
      rcases mem_inFlight.mp member with ⟨⟨req, ack⟩, sent, held⟩ | flying
      · rw [allowed req ack sent] at held
        cases held
      · exact flying
  · cases stepped

/-- A handler that holds no workunit may leave. -/
private theorem Safe.eraseHandler (safe : state.Safe) {index : Nat} {handler : Handler}
    (present : state.handlers.lookup index = some handler) (empty : handler.phase.works = []) :
    Safe { state with handlers := state.handlers.erase index } := by
  refine safe.withFlight rfl ⟨safe.flight.requests, safe.flight.sending,
    fun other current found => ?_, fun work member => ?_⟩ fun work member => ?_
  · exact safe.flight.handlers other current (GoMap.lookup_erase_eq_some.mp found).2
  · refine safe.flight.allocated work (mem_inFlight.mpr ((mem_inFlight.mp member).imp id ?_))
    rintro ⟨other, current, found, held⟩
    exact ⟨other, current, (GoMap.lookup_erase_eq_some.mp found).2, held⟩
  · refine mem_inFlight.mpr ((mem_inFlight.mp member).imp id ?_)
    rintro ⟨other, current, found, held⟩
    refine ⟨other, current, GoMap.lookup_erase_eq_some.mpr ⟨?_, found⟩, held⟩
    rintro rfl
    rw [present] at found
    cases found
    rw [empty] at held
    cases held

private theorem safe_ackTimeout (safe : state.Safe) {index : Nat}
    (stepped : state.ackTimeout index = some after) : after.Safe := by
  simp only [ackTimeout] at stepped
  split at stepped
  · next handler present =>
      split at stepped
      · next waiting =>
          cases stepped
          exact safe.eraseHandler present (by rw [waiting]; rfl)
      · cases stepped
  · cases stepped

private theorem safe_assign (safe : state.Safe) {index : Nat}
    (stepped : state.assign index = some after) : after.Safe := by
  simp only [assign] at stepped
  split at stepped
  · next ptr clientID ack present =>
      have old := safe.flight.handlers index _ present
      have ackOk : AckOk ack := old.2.2
      split at stepped
      · next err failed =>
          cases stepped
          exact safe.eraseHandler present (ackOk.2 (by rw [failed]; exact nofun))
      · cases stepped
        have recorded : (state.withCQ (state.server.cq.modifyClient ptr
            (recordWork state.server.cq.workQueue ack.workunits))).Safe :=
          safe.modifyClient ptr rfl fun other member =>
            (WorkunitList.mem_foldl_add_keys _ _ _).mpr (Or.inl member)
        refine recorded.withFlight rfl ⟨recorded.flight.requests, recorded.flight.sending,
          fun other current found => ?_, fun work member => ?_⟩ fun work member => ?_
        · rcases GoMap.lookup_insert_eq_some.mp found with ⟨rfl, rfl⟩ | ⟨_, kept⟩
          · refine ⟨old.1, old.2.1, ackOk.1, fun work member => ?_⟩
            simp only [withCQ, CQMgr.modifyClient, Function.update_self]
            exact (WorkunitList.mem_foldl_add_keys _ _ _).mpr (Or.inr ⟨work, member, rfl⟩)
          · exact recorded.flight.handlers other current kept
        · refine recorded.flight.allocated work
            (mem_inFlight.mpr ((mem_inFlight.mp member).imp id ?_))
          rintro ⟨other, current, found, held⟩
          rcases GoMap.lookup_insert_eq_some.mp found with ⟨rfl, rfl⟩ | ⟨_, kept⟩
          · exact ⟨other, _, present, held⟩
          · exact ⟨other, current, kept, held⟩
        · refine mem_inFlight.mpr ((mem_inFlight.mp member).imp id ?_)
          rintro ⟨other, current, found, held⟩
          by_cases same : other = index
          · subst other
            cases present.symm.trans found
            exact ⟨index, _, GoMap.lookup_insert_eq_some.mpr (Or.inl ⟨rfl, rfl⟩), held⟩
          · exact ⟨other, current, GoMap.lookup_insert_eq_some.mpr (Or.inr ⟨same, found⟩), held⟩
  · cases stepped

/-- Answering a registered client: its list has had the workunit since the step before. -/
private theorem safe_respond (safe : state.Safe) {index : Nat}
    (allowed : state.accountable (.respond index)) (stepped : state.respond index = some after) :
    after.Safe := by
  simp only [respond] at stepped
  split at stepped
  · next ptr clientID works present =>
      have old := safe.flight.handlers index _ present
      have single : works.length ≤ 1 := old.2.2.1
      match works, stepped, present, single with
      | [], stepped, present, _ =>
          cases stepped
          exact safe.eraseHandler present rfl
      | [first], stepped, present, _ =>
          cases stepped
          have registered : state.server.cq.clientMap.lookup clientID = some ptr :=
            allowed _ present (List.cons_ne_nil _ _)
          have listed : (state.server.cq.workQueue.work first).ident ∈
              (state.server.cq.client ptr).assignedWork.keys :=
            old.2.2.2 first List.mem_cons_self
          have erased : FlightOk { state with handlers := state.handlers.erase index } := by
            refine ⟨safe.flight.requests, safe.flight.sending, fun other current found => ?_,
              fun work member => ?_⟩
            · exact safe.flight.handlers other current (GoMap.lookup_erase_eq_some.mp found).2
            · refine safe.flight.allocated work
                (mem_inFlight.mpr ((mem_inFlight.mp member).imp id ?_))
              rintro ⟨other, current, found, held⟩
              exact ⟨other, current, (GoMap.lookup_erase_eq_some.mp found).2, held⟩
          refine ⟨⟨safe.server.queue.modify rfl fun _ => Or.inr rfl, safe.server.known,
            safe.server.named⟩, erased.withServer ⟨Nat.le_refl _, Nat.le_refl _, fun work _ =>
              WorkQueue.modify_ident rfl work, fun _ _ => List.Subset.refl _⟩,
            fun id work found held => ?_⟩
          by_cases same : work = first
          · subst work
            refine Or.inr ⟨ptr, ?_, ?_⟩
            · dsimp only [withCQ]
              rw [WorkQueue.modify_work_self]
              exact registered
            · rw [← safe.server.queue.stored.named found]
              exact listed
          · simp only [withCQ, WorkQueue.modify_work_of_ne same] at held
            rcases safe.answered id work found held with flying | byClient
            · refine Or.inl (mem_inFlight.mpr ((mem_inFlight.mp flying).imp (fun sent => sent) ?_))
              rintro ⟨other, current, known, member⟩
              refine ⟨other, current, GoMap.lookup_erase_eq_some.mpr ⟨?_, known⟩, member⟩
              rintro rfl
              cases present.symm.trans known
              exact same (List.mem_singleton.mp member)
            · refine Or.inr ?_
              dsimp only [withCQ]
              rw [WorkQueue.modify_work_of_ne same]
              exact byClient
  · cases stepped

/-- A request leaves the channel, and an answer without workunits may take its place. -/
private theorem Safe.answerEmpty (safe : state.Safe) {req : CheckoutRequest}
    {rest : List CheckoutRequest} (idle : state.sending = none)
    (pending : state.coReq = req :: rest) {sending : Option (CheckoutRequest × CoAck)}
    (empty : forall pair, sending = some pair -> pair.2.workunits = []) :
    Safe { state with coReq := rest, sending := sending } := by
  refine safe.withFlight rfl ⟨fun other member => ?_, fun other ack sent => ?_,
    safe.flight.handlers, fun work member => ?_⟩ fun work member => ?_
  · exact safe.flight.requests other (by rw [pending]; exact List.mem_cons_of_mem req member)
  · have nothing : ack.workunits = [] := empty _ sent
    exact ⟨by rw [nothing]; exact Nat.zero_le 1, fun _ => nothing⟩
  · refine safe.flight.allocated work (mem_inFlight.mpr (Or.inr ?_))
    rcases mem_inFlight.mp member with ⟨pair, sent, held⟩ | flying
    · rw [empty pair sent] at held
      cases held
    · exact flying
  · refine mem_inFlight.mpr (Or.inr ?_)
    rcases mem_inFlight.mp member with ⟨pair, sent, _⟩ | flying
    · rw [idle] at sent
      cases sent
    · exact flying

/-- Popped workunits are in flight from then on; all others are as before. -/
private theorem Safe.answerWorks (safe : state.Safe) {req : CheckoutRequest}
    {rest : List CheckoutRequest} (idle : state.sending = none)
    (pending : state.coReq = req :: rest) {listing works : List Nat} {cq : CQMgr}
    (visited : listing.Perm state.server.cq.workQueue.queue.values)
    (popped : state.server.cq.popWorks req listing = some (cq, .ok works)) :
    Safe
      { state with
        coReq := rest
        server := (ServerMgr.updateJobTaskToInProgress { state.server with cq := cq } works).1
        sending := some (req, ⟨works, none⟩) } := by
  rcases CQMgr.popWorks_cases popped with ⟨_, _, wrong⟩ | ⟨_, same, inside, short, rfl⟩
  · cases wrong
  cases same
  have queue := safe.server.queue
  have found (ptr : Nat) (member : ptr ∈ works) : state.server.cq.workQueue.all.lookup
      (state.server.cq.workQueue.work ptr).ident = some ptr := by
    rcases GoMap.mem_values.mp (visited.mem_iff.mp (inside member)) with ⟨id, entry⟩
    exact queue.found_own (queue.queue id ptr entry).1
  have handed := handsOut_foldl req.fromclient works queue found
  have frame := ServerMgr.updateJobTaskToInProgress_frame
    { state.server with cq := works.foldl (CQMgr.handOut req.fromclient) state.server.cq } works
  generalize updated : ServerMgr.updateJobTaskToInProgress
    { state.server with cq := works.foldl (CQMgr.handOut req.fromclient) state.server.cq }
      works = result at frame ⊢
  have grows : Grows state.server.cq result.1.cq := by
    rw [frame.1]
    exact handed.grows
  have base := safe.flight.withServer grows
  refine ⟨⟨?_, fun id ptr stored => ?_, fun clientID ptr known => ?_⟩,
    ⟨fun other member => ?_, fun other ack sent => ?_, base.handlers, fun ptr member => ?_⟩,
    fun id ptr stored held => ?_⟩
  · rw [frame.1]
    exact handed.ok
  · rw [frame.1] at stored
    rw [frame.2]
    exact safe.server.known id ptr (handed.all ▸ stored)
  · rw [frame.1] at known ⊢
    rw [handed.client, handed.nextClient]
    exact safe.server.named clientID ptr (handed.clientMap ▸ known)
  · exact safe.flight.requests other (by rw [pending]; exact List.mem_cons_of_mem req member)
  · cases sent
    have one := safe.flight.requests req (by rw [pending]; exact List.mem_cons_self)
    exact ⟨one ▸ short, nofun⟩
  · rcases mem_inFlight.mp member with ⟨pair, sent, popped⟩ | flying
    · cases sent
      exact Nat.lt_of_lt_of_le (queue.stored.allocated (found ptr popped)) grows.next
    · exact base.allocated ptr (mem_inFlight.mpr (Or.inr flying))
  · by_cases popped : ptr ∈ works
    · exact Or.inl (mem_inFlight.mpr (Or.inl ⟨(req, ⟨works, none⟩), rfl, popped⟩))
    dsimp only at stored held
    rw [frame.1] at stored held
    rw [handed.others ptr popped] at held
    rcases safe.answered id ptr (handed.all ▸ stored) held with flying | ⟨client, known, listed⟩
    · rcases mem_inFlight.mp flying with ⟨_, sent, _⟩ | byHandler
      · rw [idle] at sent
        cases sent
      · exact Or.inl (mem_inFlight.mpr (Or.inr byHandler))
    · refine Or.inr ⟨client, ?_, ?_⟩
      · dsimp only
        rw [frame.1, handed.others ptr popped, handed.clientMap]
        exact known
      · dsimp only
        rw [frame.1, handed.client]
        exact listed

private theorem safe_take (safe : state.Safe) {listing : List Nat}
    (stepped : state.take listing = some after) : after.Safe := by
  simp only [take] at stepped
  split at stepped
  · next req rest idle pending =>
      split at stepped
      · cases stepped
        have same : state.sending = none := idle
        exact safe.answerEmpty idle pending (by rw [same]; exact nofun)
      · split at stepped
        · cases stepped
          refine safe.answerEmpty idle pending fun pair sent => ?_
          cases sent
          rfl
        · split at stepped
          · next visited =>
              split at stepped
              · cases stepped
              · next cq err popped =>
                  cases stepped
                  rcases CQMgr.popWorks_cases popped with ⟨rfl, _⟩ | ⟨_, wrong, _⟩
                  · refine safe.answerEmpty idle pending fun pair sent => ?_
                    cases sent
                    rfl
                  · cases wrong
              · next cq works popped =>
                  cases stepped
                  exact safe.answerWorks idle pending visited popped
          · cases stepped
  · cases stepped

theorem step_safe {coReqLength : Nat} (safe : state.Safe) {event : Event}
    (allowed : state.accountable event) (stepped : state.step coReqLength event = some after) :
    after.Safe := by
  cases event with
  | register profile =>
      simp only [step] at stepped
      split at stepped
      · cases stepped
        exact safe_register safe profile
      · cases stepped
  | enqueue workunit => exact safe_enqueue safe stepped
  | request clientID available =>
      cases stepped
      exact safe_request safe coReqLength clientID available
  | take listing => exact safe_take safe stepped
  | deliver handler => exact safe_deliver safe stepped
  | sendTimeout => exact safe_sendTimeout safe allowed stepped
  | ackTimeout handler => exact safe_ackTimeout safe stepped
  | assign handler => exact safe_assign safe stepped
  | respond handler => exact safe_respond safe allowed stepped
  | heartbeat clientID reported => exact safe_heartbeat safe stepped
  | checkClient clientID => exact safe_checkClient safe stepped
  | removeClient clientID worklist => exact (safe_removeClient safe allowed stepped).1

theorem reached_safe {coReqLength : Nat} {store : Store}
    {taskMap : GoMap TaskUniqueIdentifier Nat} {suspendQueue : Bool}
    (reached : Reaches (step coReqLength) accountable (begin store taskMap suspendQueue) state) :
    state.Safe :=
  Reaches.invariant (begin_safe store taskMap suspendQueue)
    (fun _ _ _ safe allowed stepped => step_safe safe allowed stepped) reached

/-- In every state of an accountable run somebody answers for each held workunit, whatever the
state of its job; and once a client is removed, nothing that was handed to it is left in
`Checkout`.

The steps left out are the three in which the code lets go of the last one who knows about a
workunit: an answer that nobody takes in time, a handler whose client object has been replaced,
and the removal of a client, which gives back what the client reported and not what it was given.
-/
theorem checkout_accounted {coReqLength : Nat} {store : Store}
    {taskMap : GoMap TaskUniqueIdentifier Nat} {suspendQueue : Bool}
    (reached : Reaches (step coReqLength) accountable (begin store taskMap suspendQueue) state) :
    (forall id ptr, state.server.cq.workQueue.all.lookup id = some ptr ->
      Held (state.server.cq.workQueue.work ptr).state -> state.Accounted id ptr) ∧
    (forall clientID worklist after, state.accountable (.removeClient clientID worklist) ->
      state.step coReqLength (.removeClient clientID worklist) = some after ->
      forall id ptr, after.server.cq.workQueue.checkout.lookup id = some ptr ->
        ¬after.HandedTo clientID ptr) := by
  have safe := reached_safe reached
  refine ⟨fun id ptr found held => ?_, fun clientID worklist after allowed stepped id ptr entry =>
      ?_⟩
  · rcases safe.answered id ptr found held with flying | ⟨client, known, listed⟩
    · exact Or.inl flying
    · exact Or.inr ⟨client, known, Or.inl listed⟩
  · rcases safe_removeClient safe allowed stepped with ⟨safeAfter, sending, handlers, released⟩
    have stored := safeAfter.server.queue.checkout id ptr entry
    rintro (named | ⟨⟨req, ack⟩, sent, from_, member⟩ | ⟨handler, present, own, member⟩)
    · exact released id ptr stored.1 stored.2 named
    · rw [sending] at sent
      rw [allowed.2.1 req ack sent from_] at member
      cases member
    · rw [handlers] at present
      rw [allowed.2.2 handler present own] at member
      cases member

private def jobInfo : Info := ⟨1, 0, "", false⟩

private def oneJob : Store where
  task := fun _ =>
    { Task.blank with
      ident := ⟨"t", "j"⟩
      globalId := "j_t"
      state := .queued
      info := some jobInfo
      cmd := some "app"
      totalWork := 1
      remainWork := 1 }
  nextTask := 1
  jobs := AList.insert "j" ⟨"j", .queued, false, "", jobInfo, [0], 1, ∅, ∅⟩ ∅

private def oneTask : GoMap TaskUniqueIdentifier Nat :=
  AList.insert ⟨"t", "j"⟩ 0 ∅

private def oneWorkunit : Workunit :=
  { WorkQueue.blank with
    ident := ⟨⟨"t", "j"⟩, 0⟩
    state := workStatInit
    globalId := "j_t_0"
    info := some jobInfo
    cmd := some "app" }

private def oneClient : Client :=
  ⟨"c", "", ["*"], [], ⟨[], []⟩, ⟨[], []⟩, true, false, "", 0⟩

/-- The client checks the workunit out; the handler has yet to answer. -/
private def checksOut : List Event :=
  [.register oneClient, .enqueue oneWorkunit, .request "c" (-1), .take [0], .deliver 0, .assign 0]

/-- It receives the workunit and is never heard of again. -/
private def disappears : List Event :=
  [.respond 0, .checkClient "c", .checkClient "c", .removeClient "c" []]

private def assigned : Checkout :=
  final (step 10) (begin oneJob oneTask false) checksOut

private def abandoned : Checkout :=
  final (step 10) (begin oneJob oneTask false) (checksOut ++ disappears)

/-- The accountable part of such a run, up to the answer: the client is still registered. -/
theorem checkout_accounted_assigned :
    Reaches (step 10) accountable (begin oneJob oneTask false) assigned ∧
      assigned.server.cq.workQueue.all.lookup oneWorkunit.ident = some 0 ∧
      Held (assigned.server.cq.workQueue.work 0).state ∧
      assigned.Accounted oneWorkunit.ident 0 := by
  have reached : Reaches (step 10) accountable (begin oneJob oneTask false) assigned := by
    refine Reaches.of_exec checksOut ?_ .refl (exec_eq_final (by decide))
    intro event member state
    fin_cases member <;> trivial
  have found : assigned.server.cq.workQueue.all.lookup oneWorkunit.ident = some 0 := by decide
  have held : Held (assigned.server.cq.workQueue.work 0).state := by decide
  exact ⟨reached, found, held, (checkout_accounted reached).1 _ _ found held⟩

/-- After the removal the workunit of an active job is still in `Checkout`, in state reserved, and
belongs to a client that no longer exists. -/
theorem checkout_loses_workunit :
    Reaches (step 10) anyEvent (begin oneJob oneTask false) abandoned ∧
      abandoned.server.cq.workQueue.all.lookup oneWorkunit.ident = some 0 ∧
      Held (abandoned.server.cq.workQueue.work 0).state ∧
      (Exists fun jobState => abandoned.server.jobState oneWorkunit.ident.jobId = some jobState ∧
        jobState ∈ jobStatsActive) ∧
      ¬abandoned.Accounted oneWorkunit.ident 0 ∧
      abandoned.server.cq.workQueue.checkout.lookup oneWorkunit.ident = some 0 ∧
      abandoned.HandedTo "c" 0 := by
  have executed : exec (step 10) (begin oneJob oneTask false) (checksOut ++ disappears) =
      some abandoned := exec_eq_final (by decide)
  refine ⟨Reaches.of_exec _ (fun _ _ _ => trivial) .refl executed, by decide, by decide,
    ⟨.inProgress, by decide, by decide⟩, ?_, by decide, Or.inl (by decide)⟩
  rintro (flying | ⟨client, known, _⟩)
  · exact absurd flying (by decide)
  · have unknown : abandoned.server.cq.clientMap.lookup
        (abandoned.server.cq.workQueue.work 0).client = none := by decide
    rw [unknown] at known
    cases known

end Checkout

end Core
end Awe
