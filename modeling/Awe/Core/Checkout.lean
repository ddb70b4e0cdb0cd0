import Awe.Core.ServerMgr
import Awe.Lib.Runs

namespace Awe
namespace Core

open Lib

/-!
# The checkout protocol

A client asks for work over HTTP.  Its handler (`ReadMany`, which calls
`CheckoutWorkunits`) puts a request into the channel `coReq` and waits for an
answer on the channel of the client object.  `ClientHandle` takes one request
at a time, pops workunits from the queue and offers them on that channel for
twenty seconds.  `ClientChecker` removes clients that stopped reporting.  The
goroutines interleave freely; each event below is a part of one of them that
the others see as one step.

`GetAck` holds a read lock on its client while it waits, which keeps heart beats
and `CheckClient` of that client out.  The request is in `coReq` before the lock
is taken, and both may still come in between.  The model lets them come at any
time: it has every run of the server, and what holds in all of its runs does not
rest on the lock.
-/

/-- `CoAck`. -/
structure CoAck where
  workunits : List Nat
  err : Err
  deriving DecidableEq, Repr

/-- How far a handler has come: it waits in `GetAck`, it has received an
answer, or it has recorded the work with the client. -/
inductive Phase where
  | waiting
  | received (ack : CoAck)
  | assigned (works : List Nat)
  deriving DecidableEq, Repr

/-- The workunits a handler has received and not yet passed on. -/
def Phase.works : Phase -> List Nat
  | waiting => []
  | received ack => ack.workunits
  | assigned works => works

structure Handler where
  client : Nat
  clientID : String
  phase : Phase
  deriving DecidableEq, Repr

/-- The server with the requests and answers on their way. Requests, answers and the phases of the
handlers are part of the state, because work is lost between them and nowhere else. -/
structure Checkout where
  server : ServerMgr
  coReq : List CheckoutRequest
  sending : Option (CheckoutRequest × CoAck)
  handlers : GoMap Nat Handler
  nextHandler : Nat
  deleteClients : List String

namespace Checkout

inductive Event where
  | register (profile : Client)
  | enqueue (workunit : Workunit)
  | request (clientID : String) (available : Int)
  | take (listing : List Nat)
  | deliver (handler : Nat)
  | sendTimeout
  | ackTimeout (handler : Nat)
  | assign (handler : Nat)
  | respond (handler : Nat)
  | heartbeat (clientID : String) (reported : WorkunitList)
  | checkClient (clientID : String)
  | removeClient (clientID : String) (worklist : List WorkunitUniqueIdentifier)

/-- A new server: any loaded jobs and tasks, no work and no clients yet. -/
def begin (store : Store) (taskMap : GoMap TaskUniqueIdentifier Nat) (suspendQueue : Bool) :
    Checkout where
  server :=
    { cq :=
        { workQueue := WorkQueue.newWorkQueue
          client := fun _ => ⟨"", "", [], [], ⟨[], []⟩, ⟨[], []⟩, false, false, "", 0⟩
          nextClient := 0
          clientMap := ∅
          suspendQueue := suspendQueue }
      store := store
      taskMap := taskMap
      actJobs := []
      globalInstances := [] }
  coReq := []
  sending := none
  handlers := ∅
  nextHandler := 0
  deleteClients := []

def withCQ (state : Checkout) (cq : CQMgr) : Checkout :=
  { state with server := { state.server with cq := cq } }

/-- `EnqueueWorkunit` for a workunit that `NewWorkunit` made for a known job. -/
def enqueue (state : Checkout) (workunit : Workunit) : Option Checkout :=
  if workunit.state = workStatInit ∧ workunit.globalId ≠ "" ∧
      (state.server.store.jobs.lookup workunit.ident.jobId).isSome then
    let (queue, ptr) := state.server.cq.workQueue.alloc workunit
    some (state.withCQ { state.server.cq with workQueue := (queue.add ptr).1 })
  else none

/-- The start of `CheckoutWorkunits`; a rejected request leaves no trace. -/
def request (coReqLength : Nat) (state : Checkout) (clientID : String) (available : Int) :
    Checkout :=
  match state.server.cq.clientMap.lookup clientID with
  | none => state
  | some ptr =>
      let client := state.server.cq.client ptr
      if client.currentWork.data ≠ [] ∨ client.suspended ∨ coReqLength ≤ state.coReq.length then
        state
      else
        { state with
          coReq := state.coReq ++ [⟨"FCFS", clientID, available, 1, ptr⟩]
          handlers := state.handlers.insert state.nextHandler ⟨ptr, clientID, .waiting⟩
          nextHandler := state.nextHandler + 1 }

/-- One turn of `ClientHandle` up to the offer of its answer. The answer is offered and not yet
taken; what is popped from the queue is with the goroutine alone by then. -/
def take (state : Checkout) (listing : List Nat) : Option Checkout :=
  match state.sending, state.coReq with
  | none, req :: rest =>
      let state := { state with coReq := rest }
      if (state.server.cq.clientMap.lookup req.fromclient).isNone then some state
      else if state.server.cq.suspendQueue then
        some { state with sending := some (req, ⟨[], some CQMgr.errQueueSuspend⟩) }
      else if listing.Perm state.server.cq.workQueue.queue.values then
        match state.server.cq.popWorks req listing with
        | none => none
        | some (cq, .error err) =>
            some { state.withCQ cq with sending := some (req, ⟨[], some err⟩) }
        | some (cq, .ok works) =>
            let server :=
              (ServerMgr.updateJobTaskToInProgress { state.server with cq := cq } works).1
            some { state with server := server, sending := some (req, ⟨works, none⟩) }
      else none
  | _, _ => none

/-- The answer meets a handler that waits on the same channel. -/
def deliver (state : Checkout) (index : Nat) : Option Checkout :=
  match state.sending, state.handlers.lookup index with
  | some (req, ack), some handler =>
      if handler.phase = .waiting ∧ handler.client = req.response then
        some
          { state with
            sending := none
            handlers := state.handlers.insert index { handler with phase := .received ack } }
      else none
  | _, _ => none

/-- `ClientHandle` gives up, and its answer is gone. -/
def sendTimeout (state : Checkout) : Option Checkout :=
  if state.sending.isSome then some { state with sending := none } else none

/-- `GetAck` gives up. -/
def ackTimeout (state : Checkout) (index : Nat) : Option Checkout :=
  match state.handlers.lookup index with
  | some handler =>
      if handler.phase = .waiting then
        some { state with handlers := state.handlers.erase index }
      else none
  | none => none

/-- `client.AssignedWork.Add` for every workunit of an answer. -/
def recordWork (wq : WorkQueue) (works : List Nat) (client : Client) : Client :=
  { client with
    assignedWork := works.foldl (fun list work => list.add (wq.work work).ident)
      client.assignedWork }

/-- The end of `CheckoutWorkunits`: record the work with the client object. -/
def assign (state : Checkout) (index : Nat) : Option Checkout :=
  match state.handlers.lookup index with
  | some ⟨ptr, clientID, .received ack⟩ =>
      match ack.err with
      | some _ => some { state with handlers := state.handlers.erase index }
      | none =>
          let cq := state.server.cq
          some
            { state.withCQ (cq.modifyClient ptr (recordWork cq.workQueue ack.workunits)) with
              handlers := state.handlers.insert index ⟨ptr, clientID, .assigned ack.workunits⟩ }
  | _ => none

/-- The direct writes of `ReadMany` to the workunit it sends off. -/
def reserve (clientID : String) (work : Workunit) : Workunit :=
  { work with state := workStatReserved, client := clientID }

/-- The end of `ReadMany`: it writes to the first workunit and sends it off. It writes to the
object that it has a pointer to, wherever the workunit is by then. -/
def respond (state : Checkout) (index : Nat) : Option Checkout :=
  match state.handlers.lookup index with
  | some ⟨_, clientID, .assigned works⟩ =>
      let state := { state with handlers := state.handlers.erase index }
      match works with
      | [] => some state
      | first :: _ =>
          let cq := state.server.cq
          some (state.withCQ { cq with workQueue := cq.workQueue.modify first (reserve clientID) })
  | _ => none

def heartbeat (state : Checkout) (clientID : String) (reported : WorkunitList) : Option Checkout :=
  match state.server.cq.clientMap.lookup clientID with
  | none => some state
  | some _ => some (state.withCQ (state.server.cq.clientHeartBeat clientID reported).1)

/-- `CheckClient` for one client of the list of `ClientChecker`. -/
def checkClient (state : Checkout) (clientID : String) : Option Checkout :=
  match state.server.cq.clientMap.lookup clientID with
  | none => none
  | some ptr =>
      match state.server.cq.checkClient ptr with
      | (cq, true, _) => some (state.withCQ cq)
      | (cq, false, _) =>
          some { state.withCQ cq with deleteClients := clientID :: state.deleteClients }

/-- `RemoveClient` for a client found inactive. -/
def removeClient (state : Checkout) (clientID : String)
    (worklist : List WorkunitUniqueIdentifier) : Option Checkout :=
  match state.server.cq.clientMap.lookup clientID with
  | none => none
  | some ptr =>
      if clientID ∈ state.deleteClients ∧
          worklist.Perm (state.server.cq.client ptr).currentWork.keys then
        some
          { state.withCQ (state.server.cq.removeClient state.server.jobState clientID worklist).1
              with
            deleteClients := state.deleteClients.erase clientID }
      else none

def step (coReqLength : Nat) (state : Checkout) : Event -> Option Checkout
  | .register profile =>
      if profile.id ≠ "" then some (state.withCQ (state.server.cq.registerNewClient profile))
      else none
  | .enqueue workunit => state.enqueue workunit
  | .request clientID available => some (state.request coReqLength clientID available)
  | .take listing => state.take listing
  | .deliver handler => state.deliver handler
  | .sendTimeout => state.sendTimeout
  | .ackTimeout handler => state.ackTimeout handler
  | .assign handler => state.assign handler
  | .respond handler => state.respond handler
  | .heartbeat clientID reported => state.heartbeat clientID reported
  | .checkClient clientID => state.checkClient clientID
  | .removeClient clientID worklist => state.removeClient clientID worklist

end Checkout

end Core
end Awe
