import Awe.Lib.GoMap
import Awe.Lib.Mirror
import Awe.Lib.Runs
import Awe.Core.Identifiers

namespace Awe
namespace Core
namespace WorkLists

open Lib Identifiers

/-!
# The work lists of a client

A client has a list of the workunits it works on, as it reported them, and
one of the workunits it was given.  Each list exists twice: a private map with
identifiers, and `Data` with their texts, which is what other programs see and
what is sent by a worker.  `sync` rebuilds the texts from the map and `FillMap`
the map from the texts; both stop at the first entry they cannot convert, and
their callers do not look at the error.

`FillMap` leaves the texts as they were reported, so the two copies agree
after a heartbeat only if the report is canonical: every text is the one that
the server would write, and none is repeated.  A report that is cut short by
an entry that cannot be read loses the workunits behind it.  A registration
does not fill the map at all.
-/

/-- `Workunit_Unique_Identifier`, whose texts are read and written byte by byte. -/
abbrev Workid := Identifiers.WorkunitUniqueIdentifier

/-- The text of an identifier; its error is dropped where it is not looked at. -/
def text (id : Workid) : Bytes :=
  id.string.1

/-- An identifier that `String` writes without an error. -/
def Writable (id : Workid) : Prop :=
  id.string.2 = none

instance (id : Workid) : Decidable (Writable id) :=
  inferInstanceAs (Decidable (_ = none))

/-- `WorkunitList`. -/
structure WorkunitList where
  map : Finset Workid
  data : List Bytes
  deriving DecidableEq

namespace WorkunitList

/-- The loop of `sync` over the map, in the order in which it is visited. -/
def syncData : List Workid -> List Bytes
  | [] => []
  | id :: rest => if Writable id then text id :: syncData rest else []

def sync (list : WorkunitList) (order : List Workid) : WorkunitList :=
  { list with data := syncData order }

def add (list : WorkunitList) (workid : Workid) (order : List Workid) :
    WorkunitList :=
  sync { list with map := insert workid list.map } order

def delete (list : WorkunitList) (workid : Workid) (order : List Workid) :
    WorkunitList :=
  sync { list with map := list.map.erase workid } order

/-- `Delete_all`, which makes a new map. -/
def deleteAll (list : WorkunitList) : WorkunitList :=
  sync { list with map := ∅ } []

def length (list : WorkunitList) : Nat :=
  list.data.length

def isEmpty (list : WorkunitList) : Bool :=
  list.data.length == 0

def has (list : WorkunitList) (workid : Workid) : Bool :=
  workid ∈ list.map

/-- The loop of `FillMap`: the error it stops at and the map it leaves. -/
def fillEntries : List Bytes -> Finset Workid ->
    Except Halt (Option Refusal × Finset Workid)
  | [], map => .ok (none, map)
  | entry :: rest, map =>
      match newWorkunitUniqueIdentifierFromString entry with
      | .error halt => .error halt
      | .ok (.error err) => .ok (some err, map)
      | .ok (.ok id) => fillEntries rest (insert id map)

def fillMap (list : WorkunitList) : Except Halt (Option Refusal × WorkunitList) :=
  match fillEntries list.data list.map with
  | .error halt => .error halt
  | .ok (err, map) => .ok (err, { list with map })

/-- A list as it is read from JSON, after `Init`: the map is private and therefore empty. -/
def unmarshal (data : List Bytes) : WorkunitList :=
  ⟨∅, data⟩

end WorkunitList

/-- The two lists of a client. -/
structure Client where
  currentWork : WorkunitList
  assignedWork : WorkunitList
  deriving DecidableEq

/-- Which of the two lists. -/
inductive Which where
  | current
  | assigned
  deriving DecidableEq, Repr

namespace Client

def list (client : Client) : Which -> WorkunitList
  | .current => client.currentWork
  | .assigned => client.assignedWork

def setList (client : Client) (which : Which) (list : WorkunitList) : Client :=
  match which with
  | .current => { client with currentWork := list }
  | .assigned => { client with assignedWork := list }

end Client

/-- The parts of a profile that matter here.  A profile without one of the lists stops in
`Init`, and an empty identifier has been replaced there. -/
structure Profile where
  id : String
  currentWork : List Bytes
  assignedWork : List Bytes

def newProfileClient (profile : Profile) : Client :=
  ⟨.unmarshal profile.currentWork, .unmarshal profile.assignedWork⟩

/-- The end of `RegisterNewClient`, once the profile is admitted. -/
def registerNewClient (clients : GoMap String Client) (profile : Profile) : GoMap String Client :=
  let client := newProfileClient profile
  match clients.lookup profile.id with
  | some oldClient => AList.insert profile.id { oldClient with currentWork := client.currentWork }
      clients
  | none => AList.insert profile.id client clients

/-- What `ClientHeartBeat` does to the lists.  A panic of `FillMap` ends the request before
the state of the worker is stored. -/
def clientHeartBeat (client : Client) (data : List Bytes) : Client :=
  match (WorkunitList.unmarshal data).fillMap with
  | .error _ => client
  | .ok (_, currentWork) => { client with currentWork }

inductive Event where
  | register (profile : Profile)
  | heartbeat (id : String) (data : List Bytes)
  | add (id : String) (which : Which) (workid : Workid) (order : List Workid)
  | delete (id : String) (which : Which) (workid : Workid) (order : List Workid)
  | deleteAll (id : String) (which : Which)
  | removeClient (id : String)

/-- A call on a client that is known. -/
def onClient (clients : GoMap String Client) (id : String) (call : Client -> Option Client) :
    Option (GoMap String Client) :=
  match clients.lookup id with
  | none => none
  | some client => (call client).map fun changed => AList.insert id changed clients

/-- The order of an event must be one in which the map can be visited. -/
def step (clients : GoMap String Client) : Event -> Option (GoMap String Client)
  | .register profile => some (registerNewClient clients profile)
  | .heartbeat id data => onClient clients id fun client => some (clientHeartBeat client data)
  | .add id which workid order => onClient clients id fun client =>
      if Visits order (insert workid (client.list which).map) then
        some (client.setList which ((client.list which).add workid order))
      else none
  | .delete id which workid order => onClient clients id fun client =>
      if Visits order ((client.list which).map.erase workid) then
        some (client.setList which ((client.list which).delete workid order))
      else none
  | .deleteAll id which => onClient clients id fun client =>
      some (client.setList which (client.list which).deleteAll)
  | .removeClient id => some (AList.erase id clients)

/-- The texts are those of the identifiers in the map, each of them once, and each identifier can
be written. The texts are what is stored and sent, the identifiers what is looked up, and nothing
else keeps the two together. -/
structure Consistent (list : WorkunitList) : Prop where
  writable : forall id, id ∈ list.map -> Writable id
  mirrors : Mirrors text list.map list.data

/-- The text of an identifier as the server writes it. Two texts of one identifier would be two
entries of the list and one key of the map. -/
def Canonical (entry : Bytes) : Prop :=
  Exists fun id => newWorkunitUniqueIdentifierFromString entry = .ok (.ok id) ∧ Writable id ∧
      text id = entry

/-- The condition on an event: a client that registers reports no work, a report is canonical
and without repetition (or stops the request), and an identifier that is added can be
written and has a text of its own. -/
def Allowed (clients : GoMap String Client) : Event -> Prop
  | .register profile =>
      profile.currentWork = [] ∧ (clients.lookup profile.id = none -> profile.assignedWork = [])
  | .heartbeat _ data =>
      (data.Nodup ∧ forall entry, entry ∈ data -> Canonical entry) ∨
        Exists fun halt => WorkunitList.fillEntries data ∅ = .error halt
  | .add id which workid _ => Writable workid ∧ forall client, clients.lookup id = some client ->
      forall other, other ∈ (client.list which).map -> text other = text workid -> other = workid
  | _ => True

theorem consistent_empty : Consistent (.unmarshal []) where
  writable := fun _ member => absurd member (Finset.notMem_empty _)
  mirrors := Mirrors.empty text

/-- Both ways to ask for the size of a consistent list give the same answer. -/
theorem Consistent.isEmpty_iff {list : WorkunitList} (consistent : Consistent list) :
    list.isEmpty = true ↔ list.map = ∅ := by
  rw [WorkunitList.isEmpty, beq_iff_eq, List.length_eq_zero_iff, consistent.mirrors.eq_nil_iff]

theorem syncData_of_writable {order : List Workid}
    (writable : forall id, id ∈ order -> Writable id) :
    WorkunitList.syncData order = order.map text := by
  induction order with
  | nil => rfl
  | cons id rest inductionHypothesis =>
      rw [WorkunitList.syncData, if_pos (writable id List.mem_cons_self), List.map_cons]
      rw [inductionHypothesis fun other member => writable other (List.mem_cons_of_mem id member)]

/-- A list that `sync` rebuilds is consistent if its identifiers can be written and have
different texts. -/
theorem consistent_sync (list : WorkunitList) {order : List Workid} (visits : Visits order list.map)
    (writable : forall id, id ∈ list.map -> Writable id)
    (distinct : Set.InjOn text (list.map : Set Workid)) :
    Consistent (list.sync order) := by
  have inOrder : forall id, id ∈ order -> Writable id := by
    intro id member
    exact writable id (visits.2 ▸ List.mem_toFinset.mpr member)
  constructor
  · exact writable
  · change Mirrors text list.map (WorkunitList.syncData order)
    rw [syncData_of_writable inOrder]
    exact Mirrors.of_visits text visits distinct

theorem Consistent.add {list : WorkunitList} (consistent : Consistent list) {workid : Workid}
    (writable : Writable workid)
    (own : forall other, other ∈ list.map -> text other = text workid -> other = workid)
    {order : List Workid} (visits : Visits order (insert workid list.map)) :
    Consistent (list.add workid order) := by
  refine consistent_sync { list with map := insert workid list.map } visits ?_ ?_
  · intro id member
    rcases Finset.mem_insert.mp member with rfl | old
    · exact writable
    · exact consistent.writable id old
  · intro first inside second other same
    rcases Finset.mem_insert.mp (Finset.mem_coe.mp inside) with rfl | old
    · rcases Finset.mem_insert.mp (Finset.mem_coe.mp other) with rfl | oldOther
      · rfl
      · exact (own second oldOther same.symm).symm
    · rcases Finset.mem_insert.mp (Finset.mem_coe.mp other) with rfl | oldOther
      · exact own first old same
      · exact consistent.mirrors.injOn old oldOther same

theorem Consistent.delete {list : WorkunitList} (consistent : Consistent list) {workid : Workid}
    {order : List Workid} (visits : Visits order (list.map.erase workid)) :
    Consistent (list.delete workid order) := by
  refine consistent_sync { list with map := list.map.erase workid } visits ?_ ?_
  · exact fun id member => consistent.writable id (Finset.mem_of_mem_erase member)
  · exact consistent.mirrors.injOn.mono
      (Finset.coe_subset.mpr (Finset.erase_subset workid list.map))

theorem consistent_deleteAll (list : WorkunitList) : Consistent list.deleteAll :=
  consistent_empty

/-! ## What a report leaves in the map -/

/-- The identifiers of the well-formed entries of a report. -/
def identifiers (data : List Bytes) : List Workid :=
  data.filterMap fun entry =>
    match newWorkunitUniqueIdentifierFromString entry with
    | .ok (.ok id) => some id
    | _ => none

/-- An entry that is not taken: refused, or too short to be cut. -/
def Malformed (entry : Bytes) : Prop :=
  forall id, newWorkunitUniqueIdentifierFromString entry ≠ .ok (.ok id)

theorem identifiers_cons {entry : Bytes} {id : Workid}
    (accepted : newWorkunitUniqueIdentifierFromString entry = .ok (.ok id)) (rest : List Bytes) :
    identifiers (entry :: rest) = id :: identifiers rest := by
  unfold identifiers
  rw [List.filterMap_cons, accepted]

theorem identifiers_cons_malformed {entry : Bytes} (malformed : Malformed entry)
    (rest : List Bytes) :
    identifiers (entry :: rest) = identifiers rest := by
  unfold identifiers
  rw [List.filterMap_cons]
  split
  · rfl
  · next id found =>
      split at found
      · next accepted => exact absurd accepted (malformed _)
      · cases found

theorem identifiers_append (front rest : List Bytes) :
    identifiers (front ++ rest) = identifiers front ++ identifiers rest :=
  List.filterMap_append

/-- Entries that are taken go into the map, and the loop goes on. -/
theorem fillEntries_append {front : List Bytes}
    (taken : forall entry, entry ∈ front -> ¬ Malformed entry) (rest : List Bytes)
    (map : Finset Workid) :
    WorkunitList.fillEntries (front ++ rest) map =
      WorkunitList.fillEntries rest (map ∪ (identifiers front).toFinset) := by
  induction front generalizing map with
  | nil => rw [List.nil_append, identifiers, List.filterMap_nil, List.toFinset_nil,
      Finset.union_empty]
  | cons entry others inductionHypothesis =>
      have first := taken entry List.mem_cons_self
      rw [Malformed] at first
      push Not at first
      rcases first with ⟨id, accepted⟩
      rw [List.cons_append, WorkunitList.fillEntries, accepted]
      dsimp only
      rw [inductionHypothesis fun other member => taken other (List.mem_cons_of_mem entry member),
        identifiers_cons accepted, List.toFinset_cons, Finset.union_insert, Finset.insert_union]

/-- A report is taken whole, or it has a first entry that is malformed. -/
theorem taken_or_first_malformed (data : List Bytes) :
    (forall entry, entry ∈ data -> ¬ Malformed entry) ∨
      Exists fun front => Exists fun bad => Exists fun rest =>
        data = front ++ bad :: rest ∧ (forall entry, entry ∈ front -> ¬ Malformed entry) ∧
            Malformed bad := by
  induction data with
  | nil => exact Or.inl (List.forall_mem_nil _)
  | cons entry others inductionHypothesis =>
      by_cases malformed : Malformed entry
      · exact Or.inr ⟨[], entry, others, rfl, List.forall_mem_nil _, malformed⟩
      · rcases inductionHypothesis with taken | ⟨front, bad, rest, rfl, taken, bad_malformed⟩
        · exact Or.inl (List.forall_mem_cons.mpr ⟨malformed, taken⟩)
        · exact Or.inr ⟨entry :: front, bad, rest, rfl, List.forall_mem_cons.mpr ⟨malformed, taken⟩,
            bad_malformed⟩

theorem fillEntries_taken {data : List Bytes}
    (taken : forall entry, entry ∈ data -> ¬ Malformed entry) (map : Finset Workid) :
    WorkunitList.fillEntries data map = .ok (none, map ∪ (identifiers data).toFinset) := by
  have whole := fillEntries_append taken [] map
  rwa [List.append_nil] at whole

/-- Where the first malformed entry is refused, the map has what stands in front of it. -/
theorem clientHeartBeat_refused {front : List Bytes}
    (taken : forall entry, entry ∈ front -> ¬ Malformed entry) {bad : Bytes} {err : Refusal}
    (refused : newWorkunitUniqueIdentifierFromString bad = .ok (.error err)) (rest : List Bytes)
    (client : Client) :
    (clientHeartBeat client (front ++ bad :: rest)).currentWork.map =
        (identifiers front).toFinset := by
  unfold clientHeartBeat WorkunitList.fillMap WorkunitList.unmarshal
  dsimp only
  rw [fillEntries_append taken, WorkunitList.fillEntries, refused, Finset.empty_union]

theorem clientHeartBeat_halted {front : List Bytes}
    (taken : forall entry, entry ∈ front -> ¬ Malformed entry) {bad : Bytes} {halt : Halt}
    (halted : newWorkunitUniqueIdentifierFromString bad = .error halt) (rest : List Bytes)
    (client : Client) : clientHeartBeat client (front ++ bad :: rest) = client := by
  unfold clientHeartBeat WorkunitList.fillMap WorkunitList.unmarshal
  dsimp only
  rw [fillEntries_append taken, WorkunitList.fillEntries, halted]

theorem clientHeartBeat_taken {data : List Bytes}
    (taken : forall entry, entry ∈ data -> ¬ Malformed entry) (client : Client) :
    clientHeartBeat client data =
        { client with currentWork := ⟨(identifiers data).toFinset, data⟩ } := by
  unfold clientHeartBeat WorkunitList.fillMap WorkunitList.unmarshal
  dsimp only
  rw [fillEntries_taken taken, Finset.empty_union]

/-- The condition on a report, for the list that the client has: at its first malformed entry,
nothing new stands behind an entry that is refused, and an entry that stops the request comes with
no identifier that the client does not have already. It asks for less than that every entry can be
read: what cannot be read may stand behind everything that is new. -/
def LosesNothing (client : Client) (data : List Bytes) : Prop :=
  forall front bad rest, data = front ++ bad :: rest ->
      (forall entry, entry ∈ front -> ¬ Malformed entry) ->
    (forall err, newWorkunitUniqueIdentifierFromString bad = .ok (.error err) ->
      forall id, id ∈ identifiers rest -> id ∈ identifiers front) ∧
    (forall halt, newWorkunitUniqueIdentifierFromString bad = .error halt ->
      forall id, id ∈ identifiers data -> id ∈ client.currentWork.map)

/-- Every well-formed entry of a report is in the map after the heartbeat if and only if the
report loses nothing. -/
theorem wellFormed_present_iff (client : Client) (data : List Bytes) :
    (forall id, id ∈ identifiers data -> id ∈ (clientHeartBeat client data).currentWork.map) ↔
      LosesNothing client data := by
  constructor
  · rintro present front bad rest rfl taken
    constructor
    · intro err refused id member
      have inMap := present id (by
        rw [identifiers_append, identifiers_cons_malformed fun other accepted =>
            by rw [refused] at accepted; cases accepted]
        exact List.mem_append_right _ member)
      rwa [clientHeartBeat_refused taken refused, List.mem_toFinset] at inMap
    · intro halt halted id member
      have inMap := present id member
      rwa [clientHeartBeat_halted taken halted] at inMap
  · intro losesNothing id member
    rcases taken_or_first_malformed data with taken | ⟨front, bad, rest, split, taken, malformed⟩
    · rw [clientHeartBeat_taken taken, List.mem_toFinset]
      exact member
    · rcases losesNothing front bad rest split taken with ⟨behind, stopped⟩
      cases answer : newWorkunitUniqueIdentifierFromString bad with
      | error halt =>
          have known := stopped halt answer id member
          rwa [split, clientHeartBeat_halted taken answer]
      | ok outcome =>
          cases outcome with
          | ok other => exact absurd answer (malformed other)
          | error err =>
              rw [split, identifiers_append, identifiers_cons_malformed malformed] at member
              rw [split, clientHeartBeat_refused taken answer, List.mem_toFinset]
              exact (List.mem_append.mp member).elim (fun there => there) (behind err answer id)

/-! ## Runs -/

/-- A canonical report is the list of the texts of its identifiers. -/
theorem map_text_identifiers {data : List Bytes}
    (canonical : forall entry, entry ∈ data -> Canonical entry) :
    (identifiers data).map text = data ∧ forall id, id ∈ identifiers data -> Writable id := by
  induction data with
  | nil => exact ⟨rfl, List.forall_mem_nil _⟩
  | cons entry rest inductionHypothesis =>
      rcases canonical entry List.mem_cons_self with ⟨id, accepted, writable, same⟩
      rcases inductionHypothesis fun other member =>
          canonical other (List.mem_cons_of_mem entry member) with
        ⟨texts, allWritable⟩
      rw [identifiers_cons accepted, List.map_cons, same, texts]
      exact ⟨rfl, List.forall_mem_cons.mpr ⟨writable, allWritable⟩⟩

/-- A canonical report without repetition gives a consistent list. -/
theorem consistent_report {data : List Bytes} (once : data.Nodup)
    (canonical : forall entry, entry ∈ data -> Canonical entry) :
    Consistent ⟨(identifiers data).toFinset, data⟩ := by
  rcases map_text_identifiers canonical with ⟨texts, writable⟩
  have distinct : ((identifiers data).map text).Nodup := by rwa [texts]
  have visits : Visits (identifiers data) (identifiers data).toFinset := ⟨distinct.of_map text, rfl⟩
  constructor
  · exact fun id member => writable id (List.mem_toFinset.mp member)
  · have mirrors := Mirrors.of_visits text visits fun first inside second other same =>
      List.inj_on_of_nodup_map distinct (List.mem_toFinset.mp inside)
          (List.mem_toFinset.mp other) same
    rwa [texts] at mirrors

/-- Both lists of a client are consistent. -/
def ClientConsistent (client : Client) : Prop :=
  forall which, Consistent (client.list which)

theorem ClientConsistent.setList {client : Client} (consistent : ClientConsistent client)
    (which : Which) {list : WorkunitList} (listConsistent : Consistent list) :
    ClientConsistent (client.setList which list) := by
  intro other
  cases which with
  | current =>
      cases other with
      | current => exact listConsistent
      | assigned => exact consistent .assigned
  | assigned =>
      cases other with
      | current => exact consistent .current
      | assigned => exact listConsistent

theorem ClientConsistent.heartbeat {client : Client} (consistent : ClientConsistent client)
    {data : List Bytes} (allowed : (data.Nodup ∧ forall entry, entry ∈ data -> Canonical entry) ∨
      Exists fun halt => WorkunitList.fillEntries data ∅ = .error halt) :
    ClientConsistent (clientHeartBeat client data) := by
  rcases allowed with ⟨once, canonical⟩ | ⟨halt, halted⟩
  · have taken : forall entry, entry ∈ data -> ¬ Malformed entry := by
      intro entry member malformed
      rcases canonical entry member with ⟨id, accepted, -⟩
      exact malformed id accepted
    rw [clientHeartBeat_taken taken]
    exact consistent.setList .current (consistent_report once canonical)
  · unfold clientHeartBeat WorkunitList.fillMap WorkunitList.unmarshal
    dsimp only
    rw [halted]
    exact consistent

/-- The lists of every client are consistent. -/
def AllConsistent (clients : GoMap String Client) : Prop :=
  forall id client, clients.lookup id = some client -> ClientConsistent client

theorem AllConsistent.insert {clients : GoMap String Client} (all : AllConsistent clients)
    {id : String} {client : Client} (consistent : ClientConsistent client) :
    AllConsistent (AList.insert id client clients) := by
  intro other found lookup
  rcases GoMap.lookup_insert_eq_some.mp lookup with ⟨-, rfl⟩ | ⟨-, old⟩
  · exact consistent
  · exact all other found old

theorem AllConsistent.onClient {clients changed : GoMap String Client} (all : AllConsistent clients)
    {id : String} {call : Client -> Option Client}
    (called : onClient clients id call = some changed)
    (kept : forall client after, clients.lookup id = some client -> ClientConsistent client ->
      call client = some after -> ClientConsistent after) : AllConsistent changed := by
  unfold WorkLists.onClient at called
  cases found : clients.lookup id with
  | none =>
      rw [found] at called
      cases called
  | some client =>
      rw [found] at called
      rcases Option.map_eq_some_iff.mp called with ⟨after, answered, rfl⟩
      exact all.insert (kept client after found (all id client found) answered)

/-- The step: an allowed event keeps the lists of every client consistent. -/
theorem AllConsistent.step {before after : GoMap String Client} {event : Event}
    (all : AllConsistent before) (allowed : Allowed before event)
    (stepped : step before event = some after) : AllConsistent after := by
  cases event with
  | register profile =>
      cases stepped
      unfold registerNewClient newProfileClient
      rcases allowed with ⟨noWork, noneAssigned⟩
      rw [noWork]
      cases found : before.lookup profile.id with
      | some oldClient => exact all.insert ((all _ _ found).setList .current consistent_empty)
      | none =>
          rw [noneAssigned found]
          refine all.insert fun which => ?_
          cases which <;> exact consistent_empty
  | heartbeat id data =>
      refine all.onClient stepped fun client changed _ consistent answered => ?_
      cases answered
      exact consistent.heartbeat allowed
  | add id which workid order =>
      refine all.onClient stepped fun client changed found consistent answered => ?_
      split at answered
      · next visits =>
          cases answered
          exact consistent.setList which
              ((consistent which).add allowed.1 (allowed.2 client found) visits)
      · cases answered
  | delete id which workid order =>
      refine all.onClient stepped fun client changed found consistent answered => ?_
      split at answered
      · next visits =>
          cases answered
          exact consistent.setList which ((consistent which).delete visits)
      · cases answered
  | deleteAll id which =>
      refine all.onClient stepped fun client changed _ consistent answered => ?_
      cases answered
      exact consistent.setList which (consistent_deleteAll _)
  | removeClient id =>
      cases stepped
      intro other client lookup
      exact all other client (GoMap.lookup_erase_eq_some.mp lookup).2

/-- In every run of allowed events both lists of every client are consistent, so that their length
and emptiness are those of the map; and a heartbeat keeps every well-formed entry if and only if
the report loses nothing.

The list has two forms, one for the database and one for the server, and the second is filled from
the first by a function that stops at the first entry it cannot read and is not called for a new
client. -/
theorem work_lists_consistent (clients : GoMap String Client)
    (reached : Reaches step Allowed ∅ clients) (id : String) (client : Client)
    (found : clients.lookup id = some client) :
    (forall which, Consistent (client.list which) ∧
      (client.list which).length = (client.list which).map.card ∧
      ((client.list which).isEmpty = true ↔
      forall workid, (client.list which).has workid = false)) ∧
    forall data,
      (forall workid, workid ∈ identifiers data ->
          (clientHeartBeat client data).currentWork.has workid = true) ↔
        LosesNothing client data := by
  have all : AllConsistent clients := by
    refine reached.invariant (fun other client lookup => ?_) fun before event after inv
        allowed stepped =>
      AllConsistent.step inv allowed stepped
    rw [AList.lookup_empty] at lookup
    cases lookup
  constructor
  · intro which
    have consistent := all id client found which
    refine ⟨consistent, consistent.mirrors.length, ?_⟩
    rw [consistent.isEmpty_iff, Finset.eq_empty_iff_forall_notMem]
    simp only [WorkunitList.has, decide_eq_false_iff_not]
  · intro data
    rw [<- wellFormed_present_iff]
    simp only [WorkunitList.has, decide_eq_true_eq]

/-- A worker that registers without work, and texts of two workunits of one job. -/
private def idleWorker : Profile :=
  ⟨"worker", [], []⟩

private def firstWork : Bytes :=
  ascii "6ba7b810-9dad-41d1-80b4-00c04fd430c8_a_0"

private def secondWork : Bytes :=
  ascii "6ba7b810-9dad-41d1-80b4-00c04fd430c8_b_0"

private def registered : GoMap String Client :=
  registerNewClient ∅ idleWorker

private def unworked : Client :=
  newProfileClient idleWorker

private theorem registered_found : registered.lookup idleWorker.id = some unworked :=
  AList.lookup_insert ∅

private theorem report_canonical :
    forall entry, entry ∈ [firstWork, secondWork] -> Canonical entry := by
  intro entry member
  rcases List.mem_cons.mp member with rfl | last
  · exact ⟨⟨⟨ascii "a", ascii "6ba7b810-9dad-41d1-80b4-00c04fd430c8"⟩, 0⟩,
      by decide, by decide, by decide⟩
  · rw [List.mem_singleton.mp last]
    exact ⟨⟨⟨ascii "b", ascii "6ba7b810-9dad-41d1-80b4-00c04fd430c8"⟩, 0⟩,
        by decide, by decide, by decide⟩

/-- A worker that registers and then reports two workunits. -/
theorem reported_work_consistent :
    Consistent (clientHeartBeat unworked [firstWork, secondWork]).currentWork := by
  have start : Reaches step Allowed ∅ registered :=
    Reaches.snoc (.register idleWorker) Relation.ReflTransGen.refl ⟨rfl, fun _ => rfl⟩ rfl
  have reported : step registered (.heartbeat idleWorker.id [firstWork, secondWork]) =
      some (AList.insert idleWorker.id (clientHeartBeat unworked [firstWork, secondWork])
          registered) := by
    rw [step, onClient, registered_found]
    rfl
  have allowed : Allowed registered (.heartbeat idleWorker.id [firstWork, secondWork]) :=
    Or.inl ⟨by decide, report_canonical⟩
  have reached := start.snoc _ allowed reported
  exact ((work_lists_consistent _ reached idleWorker.id _ (AList.lookup_insert _)).1 .current).1

/-- A worker that registers with work has an empty map, and a report that is cut short by
an entry that cannot be read loses the workunit behind it. -/
theorem work_lists_disagree :
    Not (forall clients id client, Reaches step anyEvent ∅ clients ->
        clients.lookup id = some client ->
      forall which, (client.list which).length = (client.list which).map.card) ∧
    Not (forall clients id client, Reaches step anyEvent ∅ clients ->
        clients.lookup id = some client ->
      forall data workid, workid ∈ identifiers data ->
        (clientHeartBeat client data).currentWork.has workid = true) := by
  constructor
  · intro agree
    have reached : Reaches step anyEvent ∅ (registerNewClient ∅ ⟨"worker", [firstWork], []⟩) :=
      Reaches.snoc (.register ⟨"worker", [firstWork], []⟩) Relation.ReflTransGen.refl trivial rfl
    exact absurd (agree _ "worker" _ reached (AList.lookup_insert ∅) .current) (by decide)
  · intro present
    have reached : Reaches step anyEvent ∅ registered :=
      Reaches.snoc (.register idleWorker) Relation.ReflTransGen.refl trivial rfl
    have lost := present _ _ _ reached registered_found [firstWork, ascii "x", secondWork]
      ⟨⟨ascii "b", ascii "6ba7b810-9dad-41d1-80b4-00c04fd430c8"⟩, 0⟩ (by decide)
    exact absurd lost (by decide)

end WorkLists
end Core
end Awe
