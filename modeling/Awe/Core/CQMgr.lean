import Awe.Core.Store
import Awe.Core.WorkQueue
import Mathlib.Data.List.Sort
import Mathlib.Algebra.Order.Ring.Int

namespace Awe
namespace Core

open Lib

/-!
# Clients and the checkout of workunits

The model of the parts of `client.go`, `workunitlist.go` and `cqmgr.go` that
hand workunits to clients and take them back.  A client object is reached
through the client map and through the requests that wait for its channel, so
client objects live in a store as well.

`range` over a map visits its entries in any order, and `sort.Sort` is not
stable.  Both choices are made by the argument `listing`: sorting every order
of the entries with a stable sort gives every order that an unstable sort can
give.  A nil pointer that would stop the server makes a function undefined.
-/

/-- `WorkunitList`: the keys of its map and the exported strings. -/
structure WorkunitList where
  keys : List WorkunitUniqueIdentifier
  data : List String
  deriving DecidableEq, Repr

namespace WorkunitList

/-- `sync` writes the strings of all keys. -/
def sync (list : WorkunitList) : WorkunitList :=
  { list with data := list.keys.map fun id => id.string.1 }

def add (list : WorkunitList) (workid : WorkunitUniqueIdentifier) : WorkunitList :=
  sync { list with keys := if workid ∈ list.keys then list.keys else workid :: list.keys }

theorem mem_add_keys {list : WorkunitList} {workid other : WorkunitUniqueIdentifier} :
    other ∈ (list.add workid).keys ↔ other = workid ∨ other ∈ list.keys := by
  simp only [add, sync]
  split
  · next present =>
      constructor
      · exact Or.inr
      · rintro (rfl | member)
        · exact present
        · exact member
  · exact List.mem_cons

/-- Recording several workunits adds exactly their identifiers. -/
theorem mem_foldl_add_keys (name : Nat -> WorkunitUniqueIdentifier) (works : List Nat)
    (list : WorkunitList) {other : WorkunitUniqueIdentifier} :
    other ∈ (works.foldl (fun list work => list.add (name work)) list).keys ↔
      other ∈ list.keys ∨ Exists fun work => work ∈ works ∧ name work = other := by
  induction works generalizing list with
  | nil => simp
  | cons work rest inductionHypothesis =>
      rw [List.foldl_cons, inductionHypothesis, mem_add_keys]
      constructor
      · rintro ((rfl | old) | ⟨later, member, named⟩)
        · exact Or.inr ⟨work, List.mem_cons_self, rfl⟩
        · exact Or.inl old
        · exact Or.inr ⟨later, List.mem_cons_of_mem work member, named⟩
      · rintro (old | ⟨any, member, named⟩)
        · exact Or.inl (Or.inr old)
        · rcases List.mem_cons.mp member with rfl | later
          · exact Or.inl (Or.inl named.symm)
          · exact Or.inr ⟨any, later, named⟩

end WorkunitList

/-- The fields of a client that the server's own logic reads. -/
structure Client where
  id : String
  group : String
  apps : List String
  skipWork : List String
  currentWork : WorkunitList
  assignedWork : WorkunitList
  tag : Bool
  suspended : Bool
  suspendReason : String
  lastFailed : Nat
  deriving DecidableEq, Repr

/-- `CheckoutRequest`; the response channel is the one of a client object. -/
structure CheckoutRequest where
  policy : String
  fromclient : String
  available : Int
  count : Nat
  response : Nat
  deriving DecidableEq, Repr

/-- Clients are objects behind pointers, since a handler keeps the object of its client while the
map may be given another one. -/
structure CQMgr where
  workQueue : WorkQueue
  client : Nat -> Client
  nextClient : Nat
  clientMap : GoMap String Nat
  suspendQueue : Bool

namespace CQMgr

def modifyClient (qm : CQMgr) (ptr : Nat) (change : Client -> Client) : CQMgr :=
  { qm with client := Function.update qm.client ptr (change (qm.client ptr)) }

/-- `workQueue.StatusChange` with a pointer; the callers here ignore the error. -/
def statusChange (qm : CQMgr) (ptr : Nat) (newStatus reason : String) : CQMgr :=
  { qm with
    workQueue := (qm.workQueue.statusChange WorkunitUniqueIdentifier.zero (some ptr)
      newStatus reason).1 }

def allApp : String := "*"

def noEligibleWorkunitFound : String := "No eligible workunit found"
def queueEmpty : String := "Server queue is empty"
def errQueueSuspend : String := "Server queue is suspended"
/-- `strings.Split(text, ",")`. -/
def splitGroups (text : String) : List String :=
  (text.toList.splitOn ',').map String.ofList

/-- The test `filterWorkByClient` makes for one workunit. -/
def eligible (client : Client) (workunit : Workunit) : Option Bool :=
  if workunit.globalId ∈ client.skipWork then some false
  else
    match workunit.info with
    | none => none
    | some info =>
        if info.clientGroups ≠ "" ∧ client.group ∉ splitGroups info.clientGroups then some false
        else
          match workunit.cmd with
          | none => none
          | some name => some (name ∈ client.apps ∨ allApp ∈ client.apps : Bool)

/-- The loop of `filterWorkByClient` over the queued workunits. -/
def filterWorkunits (qm : CQMgr) (client : Client) : List Nat -> Option (List Nat)
  | [] => some []
  | ptr :: rest => do
      let fits <- eligible client (qm.workQueue.work ptr)
      let others <- filterWorkunits qm client rest
      return if fits then ptr :: others else others

def filterWorkByClient (qm : CQMgr) (client : Client) (listing : List Nat) :
    Option (Except String (List Nat)) :=
  if client.id = "" then some (.error "(filterWorkByClient) clientid empty")
  else if listing = [] then some (.error queueEmpty)
  else (filterWorkunits qm client listing).map .ok

/-- `byFCFS`: higher priority first, then earlier submission. -/
def precedes (first second : Workunit) : Bool :=
  match first.info, second.info with
  | some left, some right =>
      left.priority > right.priority ∨
        (left.priority = right.priority ∧ left.submitTime < right.submitTime)
  | _, _ => false

/-- The loop of `selectWorkunits`. The sizes are added as Go adds them, so that a sum may come out
too small. -/
def takeFitting (qm : CQMgr) (available : Int) : Nat -> List Nat -> List Nat
  | 0, _ => []
  | _, [] => []
  | count + 1, ptr :: rest =>
      if available < 0 ∨ available > (qm.workQueue.work ptr).inputSize then
        ptr :: takeFitting qm available count rest
      else takeFitting qm available (count + 1) rest

def selectWorkunits (qm : CQMgr) (workunits : List Nat) (policy : String) (available : Int)
    (count : Nat) : Except String (List Nat) :=
  let ordered :=
    if policy = "FCFS" then
      workunits.insertionSort fun first second =>
        ¬precedes (qm.workQueue.work second) (qm.workQueue.work first)
    else workunits
  let selected := takeFitting qm available count ordered
  if selected = [] then .error noEligibleWorkunitFound else .ok selected

/-- One turn of the last loop of `popWorks`. -/
def handOut (clientID : String) (qm : CQMgr) (ptr : Nat) : CQMgr :=
  let qm :=
    { qm with workQueue := qm.workQueue.modify ptr fun work => work.withClient clientID }
  qm.statusChange ptr workStatCheckout ""

/-- `popWorks`.  `listing` is the order in which the queue is visited. -/
def popWorks (qm : CQMgr) (req : CheckoutRequest) (listing : List Nat) :
    Option (CQMgr × Except String (List Nat)) :=
  match qm.clientMap.lookup req.fromclient with
  | none => some (qm, .error ("(popWorks) Client " ++ req.fromclient ++ " not found"))
  | some client =>
      match filterWorkByClient qm (qm.client client) listing with
      | none => none
      | some (.error err) => some (qm, .error ("(popWorks) filterWorkByClient returned: " ++ err))
      | some (.ok []) => some (qm, .error noEligibleWorkunitFound)
      | some (.ok (first :: others)) =>
          match selectWorkunits qm (first :: others) req.policy req.available req.count with
          | .error err => some (qm, .error ("(popWorks) selectWorkunits returned: " ++ err))
          | .ok selected => some (selected.foldl (handOut req.fromclient) qm, .ok selected)

/-! ## Clients that come, report and go -/

/-- `RegisterNewClient` for an accepted profile.  A profile is decoded from JSON, which fills the
strings of the work lists but not their maps; a known client keeps its object. -/
def registerNewClient (qm : CQMgr) (profile : Client) : CQMgr :=
  let currentWork := { profile.currentWork with keys := [] }
  match qm.clientMap.lookup profile.id with
  | some old => qm.modifyClient old fun client =>
      { client with currentWork := currentWork, tag := true }
  | none =>
      let fresh :=
        { profile with
          currentWork := currentWork
          assignedWork := { profile.assignedWork with keys := [] }
          tag := true }
      { qm with
        client := Function.update qm.client qm.nextClient fresh
        nextClient := qm.nextClient + 1
        clientMap := qm.clientMap.insert profile.id qm.nextClient }

/-- `ClientHeartBeat`: the reported work replaces `CurrentWork`. -/
def clientHeartBeat (qm : CQMgr) (id : String) (reported : WorkunitList) : CQMgr × Err :=
  match qm.clientMap.lookup id with
  | none => (qm, some "Client not found")
  | some ptr =>
      (qm.modifyClient ptr fun client => { client with tag := true, currentWork := reported }, none)

/-- The loop of `CheckClient` over the reported work; a broken identifier ends it. -/
def confirmReserved (qm : CQMgr) : List WorkunitUniqueIdentifier -> CQMgr × Err
  | [] => (qm, none)
  | workID :: rest =>
      match workID.string.2 with
      | some err => (qm, some err)
      | none =>
          match qm.workQueue.all.lookup workID with
          | none => confirmReserved qm rest
          | some work =>
              if (qm.workQueue.work work).state = workStatReserved then
                confirmReserved (qm.statusChange work workStatCheckout "") rest
              else confirmReserved qm rest

/-- `CheckClient`: false for a client that did not report since the last check. -/
def checkClient (qm : CQMgr) (ptr : Nat) : CQMgr × Bool × Err :=
  if (qm.client ptr).tag then
    let qm := qm.modifyClient ptr fun client => { client with tag := false }
    let (qm, err) := qm.confirmReserved (qm.client ptr).currentWork.keys
    (qm, true, err)
  else (qm, false, none)

/-- One turn of `ReQueueWorkunitByClient`; an error ends the loop.  `jobState` is `GetJob` followed
by `GetState`. -/
def reQueueWorkunit (qm : CQMgr) (jobState : String -> Option JobState) (clientID : String)
    (workid : WorkunitUniqueIdentifier) : CQMgr × Err :=
  match qm.workQueue.all.lookup workid with
  | none => (qm, none)
  | some ptr =>
      let work := qm.workQueue.work ptr
      match jobState work.ident.jobId with
      | none => (qm, some "(GetJob) LoadJob failed: not found")
      | some state =>
          if state ∈ jobStatsActive then
            if work.client = clientID then
              (qm.statusChange ptr workStatQueued "",
                workid.string.2.map ("(ReQueueWorkunitByClient) workid.String() returned: " ++ ·))
            else
              match qm.clientMap.lookup work.client with
              | none => (qm, none)
              | some other =>
                  if workid ∈ (qm.client other).currentWork.keys then (qm, none)
                  else (qm.statusChange ptr workStatSuspend "workunit has wrong client info", none)
          else
            (qm.statusChange ptr workStatSuspend "workunit does not belong to an actove job", none)

def reQueueWorkunits (jobState : String -> Option JobState) (clientID : String) (qm : CQMgr) :
    List WorkunitUniqueIdentifier -> CQMgr × Err
  | [] => (qm, none)
  | workid :: rest =>
      match qm.reQueueWorkunit jobState clientID workid with
      | (qm, some err) => (qm, some err)
      | (qm, none) => reQueueWorkunits jobState clientID qm rest

/-- `RemoveClient`.  `worklist` is the order in which the reported work is visited. -/
def removeClient (qm : CQMgr) (jobState : String -> Option JobState) (id : String)
    (worklist : List WorkunitUniqueIdentifier) : CQMgr × Err :=
  match qm.clientMap.lookup id with
  | none => (qm, some ("Client " ++ id ++ " not found"))
  | some ptr =>
      let (qm, _) := qm.reQueueWorkunits jobState (qm.client ptr).id worklist
      ({ qm with clientMap := qm.clientMap.erase id }, none)

/-! ## Rules for the loops

Each loop changes the queue only by changes of status of stored workunits, so an invariant is
carried through it once it is carried through such a change. -/

section

variable {qm : CQMgr} (Inv : CQMgr -> Prop)

theorem confirmReserved_induction
    (moved : forall qm id ptr, Inv qm -> qm.workQueue.all.lookup id = some ptr ->
      (qm.workQueue.work ptr).state = workStatReserved ->
      Inv (qm.statusChange ptr workStatCheckout ""))
    (worklist : List WorkunitUniqueIdentifier) (before : Inv qm) :
    Inv (qm.confirmReserved worklist).1 := by
  induction worklist generalizing qm with
  | nil => exact before
  | cons workID rest inductionHypothesis =>
      simp only [confirmReserved]
      cases workID.string.2 with
      | some err => exact before
      | none =>
          cases found : qm.workQueue.all.lookup workID with
          | none => exact inductionHypothesis before
          | some work =>
              by_cases reserved : (qm.workQueue.work work).state = workStatReserved
              · simp only [if_pos reserved]
                exact inductionHypothesis (moved qm workID work before found reserved)
              · simp only [if_neg reserved]
                exact inductionHypothesis before

/-- A turn leaves the manager alone or requeues or suspends the stored workunit. -/
theorem reQueueWorkunit_cases (jobState : String -> Option JobState) (clientID : String)
    (workid : WorkunitUniqueIdentifier) :
    (qm.reQueueWorkunit jobState clientID workid).1 = qm ∨
      Exists fun ptr => qm.workQueue.all.lookup workid = some ptr ∧
        Exists fun newStatus => Exists fun reason =>
          (newStatus = workStatQueued ∨ (newStatus = workStatSuspend ∧ reason ≠ "")) ∧
            (qm.reQueueWorkunit jobState clientID workid).1 = qm.statusChange ptr
            newStatus reason := by
  unfold reQueueWorkunit
  cases found : qm.workQueue.all.lookup workid with
  | none => exact Or.inl rfl
  | some ptr =>
      simp only []
      cases jobState (qm.workQueue.work ptr).ident.jobId with
      | none => exact Or.inl rfl
      | some state =>
          simp only []
          split
          · split
            · exact Or.inr ⟨ptr, rfl, workStatQueued, "", Or.inl rfl, rfl⟩
            · split
              · exact Or.inl rfl
              · split
                · exact Or.inl rfl
                · exact Or.inr ⟨ptr, rfl, workStatSuspend, _, Or.inr ⟨rfl, by decide⟩, rfl⟩
          · exact Or.inr ⟨ptr, rfl, workStatSuspend, _, Or.inr ⟨rfl, by decide⟩, rfl⟩

theorem reQueueWorkunits_induction {jobState : String -> Option JobState} {clientID : String}
    (moved : forall qm id ptr newStatus reason, Inv qm ->
      qm.workQueue.all.lookup id = some ptr ->
      newStatus = workStatQueued ∨ (newStatus = workStatSuspend ∧ reason ≠ "") ->
      Inv (qm.statusChange ptr newStatus reason))
    (worklist : List WorkunitUniqueIdentifier) (before : Inv qm) :
    Inv (qm.reQueueWorkunits jobState clientID worklist).1 := by
  induction worklist generalizing qm with
  | nil => exact before
  | cons workid rest inductionHypothesis =>
      have turned : Inv (qm.reQueueWorkunit jobState clientID workid).1 := by
        rcases reQueueWorkunit_cases jobState clientID workid with
          kept | ⟨ptr, found, newStatus, reason, released, changed⟩
        · rw [kept]
          exact before
        · rw [changed]
          exact moved qm workid ptr newStatus reason before found released
      simp only [reQueueWorkunits]
      split
      · next after err stopped =>
          rw [stopped] at turned
          exact turned
      · next after continued =>
          rw [continued] at turned
          exact inductionHypothesis turned

end

/-! ## What `popWorks` returns -/

section

variable {qm : CQMgr}

theorem filterWorkunits_subset {client : Client} {listing fitting : List Nat}
    (filtered : filterWorkunits qm client listing = some fitting) : fitting ⊆ listing := by
  induction listing generalizing fitting with
  | nil =>
      cases filtered
      exact List.Subset.refl _
  | cons ptr rest inductionHypothesis =>
      simp only [filterWorkunits, Option.pure_def, Option.bind_eq_bind, Option.bind_eq_some_iff,
        Option.some.injEq] at filtered
      rcases filtered with ⟨fits, _, others, filteredRest, rfl⟩
      have inside := List.subset_cons_of_subset ptr (inductionHypothesis filteredRest)
      cases fits with
      | false => exact inside
      | true => exact List.cons_subset.mpr ⟨List.mem_cons_self, inside⟩

theorem takeFitting_subset (available : Int) (count : Nat) (ordered : List Nat) :
    takeFitting qm available count ordered ⊆ ordered := by
  induction ordered generalizing count with
  | nil => cases count <;> exact List.Subset.refl _
  | cons ptr rest inductionHypothesis =>
      cases count with
      | zero => exact List.nil_subset _
      | succ count =>
          simp only [takeFitting]
          split
          · exact List.cons_subset_cons ptr (inductionHypothesis count)
          · exact List.subset_cons_of_subset ptr (inductionHypothesis (count + 1))

theorem takeFitting_length (available : Int) (count : Nat) (ordered : List Nat) :
    (takeFitting qm available count ordered).length ≤ count := by
  induction ordered generalizing count with
  | nil => cases count <;> exact Nat.zero_le _
  | cons ptr rest inductionHypothesis =>
      cases count with
      | zero => exact Nat.le_refl 0
      | succ count =>
          simp only [takeFitting]
          split
          · exact Nat.succ_le_succ (inductionHypothesis count)
          · exact inductionHypothesis (count + 1)

theorem selectWorkunits_ok {workunits selected : List Nat} {policy : String} {available : Int}
    {count : Nat} (picked : selectWorkunits qm workunits policy available count = .ok selected) :
    selected ⊆ workunits ∧ selected.length ≤ count := by
  simp only [selectWorkunits] at picked
  generalize sorted : (if policy = "FCFS" then _ else workunits) = ordered at picked
  have inside : ordered ⊆ workunits := by
    rw [← sorted]
    split
    · exact (List.perm_insertionSort _ workunits).subset
    · exact List.Subset.refl _
  split at picked
  · cases picked
  · cases picked
    exact ⟨List.Subset.trans (takeFitting_subset available count _) inside,
      takeFitting_length available count _⟩

/-- The outcomes of `popWorks`: an error leaves the manager as it was; otherwise at most `count`
of the listed workunits are handed out, one after the other. -/
theorem popWorks_cases {after : CQMgr} {req : CheckoutRequest} {listing : List Nat}
    {outcome : Except String (List Nat)}
    (popped : qm.popWorks req listing = some (after, outcome)) :
    (after = qm ∧ Exists fun err => outcome = .error err) ∨
      Exists fun works => outcome = .ok works ∧ works ⊆ listing ∧ works.length ≤ req.count ∧
        after = works.foldl (handOut req.fromclient) qm := by
  unfold popWorks at popped
  split at popped
  · cases popped
    exact Or.inl ⟨rfl, _, rfl⟩
  · next ptr _ =>
      cases filtered : filterWorkByClient qm (qm.client ptr) listing with
      | none =>
          rw [filtered] at popped
          cases popped
      | some result =>
          rw [filtered] at popped
          match result, popped with
          | .error err, popped =>
              cases popped
              exact Or.inl ⟨rfl, _, rfl⟩
          | .ok [], popped =>
              cases popped
              exact Or.inl ⟨rfl, _, rfl⟩
          | .ok (first :: others), popped =>
              have inside : (first :: others) ⊆ listing := by
                simp only [filterWorkByClient] at filtered
                split at filtered
                · cases filtered
                · split at filtered
                  · cases filtered
                  · rcases Option.map_eq_some_iff.mp filtered with ⟨fitting, fits, same⟩
                    cases same
                    exact filterWorkunits_subset fits
              cases picked : selectWorkunits qm (first :: others) req.policy req.available
                  req.count with
              | error err =>
                  simp only [picked, Option.some.injEq, Prod.mk.injEq] at popped
                  exact Or.inl ⟨popped.1.symm, _, popped.2.symm⟩
              | ok selected =>
                  simp only [picked, Option.some.injEq, Prod.mk.injEq] at popped
                  have spec := selectWorkunits_ok picked
                  exact Or.inr ⟨selected, popped.2.symm, List.Subset.trans spec.1 inside, spec.2,
                    popped.1.symm⟩

end

end CQMgr

end Core
end Awe
