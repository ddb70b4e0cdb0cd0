import Awe.Core.Notices
import Mathlib.Data.Finset.Card

namespace Awe
namespace Core
namespace ClientControl

open Lib

/-!
# Suspending and resuming the clients of a user

A user sees the clients of the groups that the user owns, of those that are
public, and of all groups as an administrator.  Each function for users makes
this test anew, and then a second one: whether the client is there, or whether
it is suspended already.

The two functions that suspend have their second test the wrong way round.
One refuses the clients that are there, and the other goes on with those that
are suspended already, which `SuspendClient` refuses in turn.  So neither of
them suspends anything, and what they return is right only where there is
nothing to suspend.  The function that resumes has both tests right.
-/

/-- `ClientGroup`: the name and the owner in the ACL. -/
structure ClientGroup where
  name : String
  owner : String
  deriving DecidableEq, Repr

structure User where
  uuid : String
  admin : Bool
  deriving DecidableEq, Repr

/-- What the functions consult besides the clients: `conf.CLIENT_AUTH_REQ` and the groups in the
database. -/
structure Directory where
  clientAuthReq : Bool
  clientgroups : List ClientGroup

def clientNotFound : String := "Client not found"
def clientNotActive : String := "Client not active"
def unAuth : String := "User Unauthorized"

/-- The test for one group. -/
def grants (directory : Directory) (u : User) (cg : ClientGroup) : Bool :=
  (u.uuid ≠ "public" && (cg.owner = u.uuid || u.admin || cg.owner = "public")) ||
    (u.uuid = "public" && !directory.clientAuthReq && cg.owner = "public")

/-- The keys of `filteredClientGroups`, whose values are all true. -/
def filteredClientGroups (directory : Directory) (u : User) : List String :=
  (directory.clientgroups.filter (grants directory u)).map ClientGroup.name

def visible (directory : Directory) (u : User) (client : Client) : Bool :=
  client.group ∈ filteredClientGroups directory u

/-- `SetSuspended`. -/
def setSuspended (client : Client) (s : Bool) (reason : String) : Except Halt Client :=
  if client.suspended ≠ s then
    if s ∧ reason = "" then .error .panic
    else .ok { client with suspended := s, suspendReason := reason }
  else .ok client

/-- `SuspendClient` from where the client is known. -/
def suspendKnown (qm : ServerMgr) (client : Nat) (reason : String) :
    Except Halt (ServerMgr × Err) :=
  if (qm.cq.client client).suspended then .ok (qm, some clientNotActive)
  else
    match setSuspended (qm.cq.client client) true reason with
    | .error halt => .error halt
    | .ok changed =>
        let cq := qm.cq.modifyClient client fun _ => changed
        let requeued := cq.reQueueWorkunits qm.jobState changed.id changed.currentWork.keys
        .ok ({ qm with cq := requeued.1 }, requeued.2)

/-- `SuspendClient`, by the identifier or by the client. -/
def suspendClient (qm : ServerMgr) (id : String) (client : Option Nat) (reason : String) :
    Except Halt (ServerMgr × Err) :=
  match client with
  | some client => suspendKnown qm client reason
  | none =>
      match qm.cq.clientMap.lookup id with
      | none => .ok (qm, some clientNotFound)
      | some client => suspendKnown qm client reason

/-- `client.Resume`. -/
def resume (qm : ServerMgr) (client : Nat) : Except Halt ServerMgr :=
  match setSuspended (qm.cq.client client) false "" with
  | .error halt => .error halt
  | .ok changed => .ok { qm with cq := qm.cq.modifyClient client fun _ => changed }

section

variable (directory : Directory) (u : User)

/-- `SuspendClientByUser`.  Behind the test for a client that is found, the group of a nil client is
read. -/
def suspendClientByUser (qm : ServerMgr) (id reason : String) : Except Halt (ServerMgr × Err) :=
  let client := qm.cq.clientMap.lookup id
  if client.isSome then .ok (qm, some clientNotFound)
  else
    match client with
    | none => .error .panic
    | some client =>
        if visible directory u (qm.cq.client client) then
          match suspendClient qm "" (some client) reason with
          | .error halt => .error halt
          | .ok (qm, some err) => .ok (qm, some err)
          | .ok (qm, none) => .ok (qm, some unAuth)
        else .ok (qm, some unAuth)

/-- The loop of `SuspendAllClientsByUser`. -/
def suspendEach (reason : String) (qm : ServerMgr) (count : Nat) :
    List Nat -> Except Halt (ServerMgr × Nat × Err)
  | [] => .ok (qm, count, none)
  | client :: rest =>
      if visible directory u (qm.cq.client client) && (qm.cq.client client).suspended then
        match suspendClient qm "" (some client) reason with
        | .error halt => .error halt
        | .ok (qm, some err) => .ok (qm, count, some err)
        | .ok (qm, none) => suspendEach reason qm (count + 1) rest
      else suspendEach reason qm count rest

/-- `SuspendAllClientsByUser`: the count and the error.  `clients` is the list of `GetClients`. -/
def suspendAllClientsByUser (qm : ServerMgr) (reason : String) (clients : List Nat) :
    Except Halt (ServerMgr × Nat × Err) :=
  suspendEach directory u reason qm 0 clients

/-- `ResumeClientByUser`. -/
def resumeClientByUser (qm : ServerMgr) (id : String) : Except Halt (ServerMgr × Err) :=
  match qm.cq.clientMap.lookup id with
  | none => .ok (qm, some clientNotFound)
  | some client =>
      if visible directory u (qm.cq.client client) then
        match resume qm client with
        | .error halt => .error halt
        | .ok qm => .ok (qm, none)
      else .ok (qm, some unAuth)

/-- The loop of `ResumeSuspendedClientsByUser`. -/
def resumeEach (qm : ServerMgr) (count : Nat) : List Nat -> Except Halt (ServerMgr × Nat)
  | [] => .ok (qm, count)
  | client :: rest =>
      if !(qm.cq.client client).suspended then resumeEach qm count rest
      else if visible directory u (qm.cq.client client) then
        match resume qm client with
        | .error halt => .error halt
        | .ok qm => resumeEach qm (count + 1) rest
      else resumeEach qm count rest

/-- `ResumeSuspendedClientsByUser`. -/
def resumeSuspendedClientsByUser (qm : ServerMgr) (clients : List Nat) :
    Except Halt (ServerMgr × Nat) :=
  resumeEach directory u qm 0 clients

end

section

variable {directory : Directory} {u : User} {qm : ServerMgr}

/-- A client that is suspended is refused. -/
theorem suspendKnown_suspended {client : Nat} (reason : String)
    (suspended : (qm.cq.client client).suspended = true) :
    suspendKnown qm client reason = .ok (qm, some clientNotActive) := by
  unfold suspendKnown
  rw [if_pos suspended]

/-- The client when it has been resumed. -/
def resumed (client : Client) : Client :=
  if client.suspended then { client with suspended := false, suspendReason := "" } else client

theorem setSuspended_false (client : Client) :
    setSuspended client false "" = .ok (resumed client) := by
  unfold setSuspended resumed
  cases client.suspended with
  | true => simp only [ne_eq, Bool.true_eq_false, not_false_eq_true, if_true, Bool.false_eq_true,
      false_and, if_false]
  | false => simp only [ne_eq, not_true_eq_false, Bool.false_eq_true, if_false]

theorem resume_ok (client : Nat) :
    resume qm client = .ok { qm with cq := qm.cq.modifyClient client resumed } := by
  unfold resume
  rw [setSuspended_false]
  rfl

/-- What the loop makes of the clients: it suspends none, and stops at the first one that is
visible and suspended. -/
theorem suspendEach_eq (reason : String) (count : Nat) (clients : List Nat) :
    suspendEach directory u reason qm count clients =
      .ok (qm, count, if clients.any fun client =>
        visible directory u (qm.cq.client client) && (qm.cq.client client).suspended then
            some clientNotActive
        else none) := by
  induction clients with
  | nil => rfl
  | cons client rest inductionHypothesis =>
      rw [suspendEach, List.any_cons]
      cases stops : visible directory u (qm.cq.client client) && (qm.cq.client client).suspended
          with
      | true =>
          rw [if_pos rfl, Bool.true_or, if_pos rfl]
          have refused : suspendClient qm "" (some client) reason = .ok
              (qm, some clientNotActive) :=
            suspendKnown_suspended reason (Bool.and_eq_true_iff.mp stops).2
          rw [refused]
      | false => rw [if_neg Bool.false_ne_true, Bool.false_or, inductionHypothesis]

theorem suspendClientByUser_eq (id reason : String) :
    suspendClientByUser directory u qm id reason =
      if (qm.cq.clientMap.lookup id).isSome then .ok (qm, some clientNotFound) else
          .error .panic := by
  unfold suspendClientByUser
  cases qm.cq.clientMap.lookup id with
  | none => rfl
  | some client => rfl

end

/-! ## Suspending and resuming exactly the visible clients -/

section

variable (directory : Directory) (u : User) (qm : ServerMgr)

/-- `SuspendAllClientsByUser` suspends the visible clients that were not suspended, counts them,
and leaves the others as they were. The count is what the user is told, so it is part of the
promise. -/
def SuspendsAll (reason : String) (clients : List Nat) : Prop :=
  Exists fun after => suspendAllClientsByUser directory u qm reason clients =
      .ok (after, (clients.toFinset.filter fun client =>
        visible directory u (qm.cq.client client) = true ∧
            (qm.cq.client client).suspended = false).card, none) ∧
    forall client, after.cq.client client =
      if client ∈ clients ∧ visible directory u (qm.cq.client client) = true ∧
          (qm.cq.client client).suspended = false then
        { qm.cq.client client with suspended := true, suspendReason := reason }
      else qm.cq.client client

/-- `SuspendClientByUser` suspends a client that is there, visible and not suspended, and answers
any other request with an error and no change. -/
def SuspendsOne (id reason : String) : Prop :=
  (forall client, qm.cq.clientMap.lookup id = some client ->
      visible directory u (qm.cq.client client) = true ->
    (qm.cq.client client).suspended = false ->
    Exists fun after => suspendClientByUser directory u qm id reason = .ok (after, none) ∧
      forall other, after.cq.client other =
        if other = client then
            { qm.cq.client client with suspended := true, suspendReason := reason }
        else qm.cq.client other) ∧
  ((forall client, qm.cq.clientMap.lookup id = some client ->
      visible directory u (qm.cq.client client) = false ∨
      (qm.cq.client client).suspended = true) ->
    Exists fun err => suspendClientByUser directory u qm id reason = .ok (qm, some err))

/-- `ResumeSuspendedClientsByUser` resumes the visible clients that are suspended, counts them, and
leaves the others as they were. -/
def ResumesAll (clients : List Nat) : Prop :=
  Exists fun after => resumeSuspendedClientsByUser directory u qm clients =
      .ok (after, (clients.toFinset.filter fun client =>
        visible directory u (qm.cq.client client) = true ∧
            (qm.cq.client client).suspended = true).card) ∧
    forall client, after.cq.client client =
      if client ∈ clients ∧ visible directory u (qm.cq.client client) = true ∧
          (qm.cq.client client).suspended = true then
        { qm.cq.client client with suspended := false, suspendReason := "" }
      else qm.cq.client client

end

section

variable {directory : Directory} {u : User} {qm : ServerMgr}

theorem suspendsAll_iff (reason : String) (clients : List Nat) :
    SuspendsAll directory u qm reason clients ↔
      forall client, client ∈ clients -> visible directory u (qm.cq.client client) = false := by
  unfold SuspendsAll suspendAllClientsByUser
  rw [suspendEach_eq]
  constructor
  · rintro ⟨after, returned, exactly⟩ client member
    have outcome := Except.ok.inj returned
    have same : qm = after := congrArg Prod.fst outcome
    have quiet := congrArg (fun outcome => outcome.2.2) outcome
    dsimp only at quiet
    -- the error says that no visible client was suspended, and none has been suspended since
    cases sees : visible directory u (qm.cq.client client) with
    | false => rfl
    | true =>
        cases suspended : (qm.cq.client client).suspended with
        | true =>
            have found : (clients.any fun client =>
                visible directory u (qm.cq.client client) && (qm.cq.client client).suspended) =
                    true :=
              List.any_eq_true.mpr ⟨client, member, by rw [sees, suspended]; rfl⟩
            rw [found, if_pos rfl] at quiet
            cases quiet
        | false =>
            have changed := exactly client
            rw [if_pos ⟨member, sees, suspended⟩, <- same] at changed
            have flag := congrArg Client.suspended changed
            rw [suspended] at flag
            cases flag
  · intro unseen
    have none : (clients.any fun client =>
        visible directory u (qm.cq.client client) && (qm.cq.client client).suspended) = false := by
      rw [List.any_eq_false]
      intro client member
      rw [unseen client member]
      exact Bool.false_ne_true
    have empty : (clients.toFinset.filter fun client =>
        visible directory u (qm.cq.client client) = true ∧
            (qm.cq.client client).suspended = false) = ∅ := by
      rw [Finset.filter_eq_empty_iff]
      intro client member both
      rw [unseen client (List.mem_toFinset.mp member)] at both
      cases both.1
    refine ⟨qm, ?_, fun client => ?_⟩
    · rw [none, if_neg Bool.false_ne_true, empty, Finset.card_empty]
    · rw [if_neg]
      rintro ⟨member, sees, _⟩
      rw [unseen client member] at sees
      cases sees

theorem suspendsOne_iff (id reason : String) :
    SuspendsOne directory u qm id reason ↔
      Exists fun client => qm.cq.clientMap.lookup id = some client ∧
        (visible directory u (qm.cq.client client) = false ∨
            (qm.cq.client client).suspended = true) := by
  unfold SuspendsOne
  rw [suspendClientByUser_eq]
  cases found : qm.cq.clientMap.lookup id with
  | none =>
      refine iff_of_false (fun both => ?_) (fun ⟨client, registered, _⟩ => (nomatch registered))
      rcases both.2 nofun with ⟨err, answered⟩
      cases answered
  | some client =>
      rw [Option.isSome_some, if_pos rfl]
      constructor
      · rintro ⟨suspends, _⟩
        refine ⟨client, rfl, ?_⟩
        cases sees : visible directory u (qm.cq.client client) with
        | false => exact Or.inl rfl
        | true =>
            cases suspended : (qm.cq.client client).suspended with
            | true => exact Or.inr rfl
            | false =>
                rcases suspends client rfl sees suspended with ⟨after, answered, _⟩
                cases answered
      · rintro ⟨_, same, refused⟩
        cases same
        refine ⟨fun other same sees active => ?_, fun _ => ⟨clientNotFound, rfl⟩⟩
        cases same
        rcases refused with unseen | suspended
        · rw [unseen] at sees
          cases sees
        · rw [suspended] at active
          cases active

/-- What the loop that resumes has done when it has come past some clients. It speaks of a set of
clients and not of their order, which is that of a map. -/
structure Resumed (directory : Directory) (u : User) (qm after : ServerMgr) (passed : List Nat)
    (count : Nat) : Prop where
  count_eq : count = (passed.toFinset.filter fun client =>
    visible directory u (qm.cq.client client) = true ∧ (qm.cq.client client).suspended = true).card
  client_eq : forall client, after.cq.client client =
    if client ∈ passed ∧ visible directory u (qm.cq.client client) = true ∧
        (qm.cq.client client).suspended = true then
      { qm.cq.client client with suspended := false, suspendReason := "" }
    else qm.cq.client client

theorem Resumed.skip {after : ServerMgr} {passed : List Nat} {count client : Nat}
    (before : Resumed directory u qm after passed count)
    (idle : client ∈ passed ∨
    ¬(visible directory u (qm.cq.client client) = true ∧ (qm.cq.client client).suspended = true)) :
    Resumed directory u qm after (passed ++ [client]) count := by
  have same (other : Nat) :
      (other ∈ passed ++ [client] ∧ visible directory u (qm.cq.client other) = true ∧
      (qm.cq.client other).suspended = true) ↔
      (other ∈ passed ∧ visible directory u (qm.cq.client other) = true ∧
        (qm.cq.client other).suspended = true) := by
    rw [List.mem_append, List.mem_singleton]
    constructor
    · rintro ⟨earlier | rfl, both⟩
      · exact ⟨earlier, both⟩
      · exact ⟨idle.resolve_right fun none => none both, both⟩
    · rintro ⟨earlier, both⟩
      exact ⟨Or.inl earlier, both⟩
  refine ⟨?_, fun other => ?_⟩
  · rw [before.count_eq]
    apply congrArg Finset.card
    ext other
    rw [Finset.mem_filter, Finset.mem_filter, List.mem_toFinset, List.mem_toFinset]
    exact (same other).symm
  · rw [before.client_eq other]
    exact if_congr (same other).symm rfl rfl

theorem Resumed.take {after : ServerMgr} {passed : List Nat} {count client : Nat}
    (before : Resumed directory u qm after passed count) (fresh : client ∉ passed)
    (sees : visible directory u (qm.cq.client client) = true)
    (suspended : (qm.cq.client client).suspended = true) :
    Resumed directory u qm { after with cq := after.cq.modifyClient client resumed }
        (passed ++ [client]) (count + 1) := by
  refine ⟨?_, fun other => ?_⟩
  · have grown : ((passed ++ [client]).toFinset.filter fun client =>
        visible directory u (qm.cq.client client) = true ∧ (qm.cq.client client).suspended = true) =
        insert client (passed.toFinset.filter fun client =>
          visible directory u (qm.cq.client client) = true ∧
              (qm.cq.client client).suspended = true) := by
      ext other
      rw [Finset.mem_insert, Finset.mem_filter, Finset.mem_filter, List.mem_toFinset,
          List.mem_toFinset,
        List.mem_append, List.mem_singleton]
      constructor
      · rintro ⟨earlier | rfl, both⟩
        · exact Or.inr ⟨earlier, both⟩
        · exact Or.inl rfl
      · rintro (rfl | ⟨earlier, both⟩)
        · exact ⟨Or.inr rfl, sees, suspended⟩
        · exact ⟨Or.inl earlier, both⟩
    rw [grown, Finset.card_insert_of_notMem, before.count_eq]
    intro member
    exact fresh (List.mem_toFinset.mp (Finset.mem_filter.mp member).1)
  · have untouched : after.cq.client client = qm.cq.client client := by
      rw [before.client_eq client, if_neg fun all => fresh all.1]
    unfold CQMgr.modifyClient
    dsimp only
    by_cases same : other = client
    · rw [same, Function.update_self, untouched,
        if_pos ⟨List.mem_append_right _ List.mem_cons_self, sees, suspended⟩]
      unfold resumed
      rw [if_pos suspended]
    · rw [Function.update_of_ne same, before.client_eq other]
      refine if_congr ?_ rfl rfl
      rw [List.mem_append, List.mem_singleton, or_iff_left same]

/-- The loop comes to its end, whatever it has passed. -/
theorem resumeEach_resumed {after : ServerMgr} {passed : List Nat} {count : Nat}
    (before : Resumed directory u qm after passed count) (clients : List Nat) :
    Exists fun last => Exists fun total => resumeEach directory u after count clients = .ok
        (last, total) ∧
      Resumed directory u qm last (passed ++ clients) total := by
  induction clients generalizing after passed count with
  | nil => exact ⟨after, count, rfl, by rw [List.append_nil]; exact before⟩
  | cons client rest inductionHypothesis =>
      rw [resumeEach]
      have step {next : ServerMgr} {total : Nat}
          (here : Resumed directory u qm next (passed ++ [client]) total) :
          Exists fun last => Exists fun sum => resumeEach directory u next total rest =
              .ok (last, sum) ∧
            Resumed directory u qm last (passed ++ client :: rest) sum := by
        rcases inductionHypothesis here with ⟨last, sum, ended, holds⟩
        rw [List.append_assoc] at holds
        exact ⟨last, sum, ended, holds⟩
      have now := before.client_eq client
      by_cases done : client ∈ passed ∧ visible directory u (qm.cq.client client) = true ∧
          (qm.cq.client client).suspended = true
      · rw [if_pos done] at now
        rw [now]
        exact step (before.skip (Or.inl done.1))
      rw [if_neg done] at now
      rw [now]
      cases suspended : (qm.cq.client client).suspended with
      | false =>
          rw [Bool.not_false, if_pos rfl]
          exact step (before.skip (Or.inr fun both => by rw [suspended] at both; cases both.2))
      | true =>
          rw [Bool.not_true, if_neg Bool.false_ne_true]
          cases sees : visible directory u (qm.cq.client client) with
          | false =>
              rw [if_neg Bool.false_ne_true]
              exact step (before.skip (Or.inr fun both => by rw [sees] at both; cases both.1))
          | true =>
              rw [if_pos rfl, resume_ok]
              exact step (before.take (fun member => done ⟨member, sees, suspended⟩) sees suspended)

theorem resumesAll (clients : List Nat) : ResumesAll directory u qm clients := by
  have begins : Resumed directory u qm qm [] 0 := by
    refine ⟨rfl, fun client => ?_⟩
    rw [if_neg fun all => List.not_mem_nil all.1]
  rcases resumeEach_resumed begins clients with ⟨after, count, ended, holds⟩
  refine ⟨after, ?_, holds.client_eq⟩
  unfold resumeSuspendedClientsByUser
  rw [ended, holds.count_eq]
  rfl

/-- The function that resumes a single client has the tests that its counterpart lacks. -/
theorem resumeClientByUser_eq (id : String) :
    resumeClientByUser directory u qm id =
      match qm.cq.clientMap.lookup id with
      | none => .ok (qm, some clientNotFound)
      | some client =>
          if visible directory u (qm.cq.client client) then
            .ok ({ qm with cq := qm.cq.modifyClient client resumed }, none)
          else .ok (qm, some unAuth) := by
  unfold resumeClientByUser
  cases qm.cq.clientMap.lookup id with
  | none => rfl
  | some client =>
      dsimp only
      rw [resume_ok]

/-- Suspending all clients of a user is right exactly if the user sees none, and suspending a
single one exactly if the client is there but is not to be suspended. Resuming is right always.
The loop asks whether a client is suspended where it should ask whether it is not, and the single
operation takes the answer of the lookup the wrong way round. -/
theorem bulkSuspension_iff (directory : Directory) (u : User) (qm : ServerMgr) (id reason : String)
    (clients : List Nat) :
    (SuspendsAll directory u qm reason clients ↔
      forall client, client ∈ clients -> visible directory u (qm.cq.client client) = false) ∧
    (SuspendsOne directory u qm id reason ↔
      Exists fun client => qm.cq.clientMap.lookup id = some client ∧
        (visible directory u (qm.cq.client client) = false ∨
            (qm.cq.client client).suspended = true)) ∧
    ResumesAll directory u qm clients :=
  ⟨suspendsAll_iff reason clients, suspendsOne_iff id reason, resumesAll clients⟩

end

private def publicGroup : Directory := ⟨true, [⟨"g", "public"⟩]⟩

private def alice : User := ⟨"alice", false⟩

/-- A server with a client of the public group. -/
private def sharedServer : ServerMgr :=
  let qm := ServerMgr.newServerMgr ⟨fun _ => Task.blank, 0, ∅⟩
  { qm with
    cq := { qm.cq with
      client := fun _ => ⟨"c", "g", [], [], ⟨[], []⟩, ⟨[], []⟩, true, false, "", 0⟩
      nextClient := 1
      clientMap := AList.insert "c" 0 ∅ } }

/-- The client that is seen stays as it is, alone and with all others, and a client that is not
there stops the server. -/
theorem suspending_suspends_none :
    (¬SuspendsAll publicGroup alice sharedServer "request by api call" [0] ∧
      suspendAllClientsByUser publicGroup alice sharedServer "request by api call" [0] = .ok
      (sharedServer, 0, none)) ∧
    (¬SuspendsOne publicGroup alice sharedServer "c" "request by api call" ∧
      suspendClientByUser publicGroup alice sharedServer "c" "request by api call" =
        .ok (sharedServer, some clientNotFound)) ∧
    suspendClientByUser publicGroup alice sharedServer "d" "request by api call" =
        .error .panic := by
  have sees : visible publicGroup alice (sharedServer.cq.client 0) = true := by decide
  refine ⟨⟨fun suspends => ?_, rfl⟩, ⟨fun suspends => ?_, rfl⟩, rfl⟩
  · rcases suspends with ⟨after, returned, exactly⟩
    have same : sharedServer = after := congrArg Prod.fst (Except.ok.inj returned)
    have changed := exactly 0
    rw [if_pos ⟨List.mem_cons_self, sees, rfl⟩, <- same] at changed
    cases congrArg Client.suspended changed
  · rcases suspends.1 0 rfl sees rfl with ⟨after, answered, _⟩
    cases answered

end ClientControl
end Core
end Awe
