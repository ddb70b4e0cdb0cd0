import Awe.Worker.Pipeline

namespace Awe
namespace Worker

open Lib Awe.Core

/-!
# No workunit is lost on the way

With worker overlap off the stealer waits for the deliverer after every
workunit, so at most one is on its way.  `Place` says where it is.  The stages
move it from place to place, and what the shared tables say about it depends on
the place only.

Four things break the chain.  An environment that cannot be set makes the
processor return without passing the workunit on.  A notification that fails
without a response ends the process, and so does a job identifier of less than
six bytes.  With worker overlap on, the deliverer waits for a permit that
nobody gives, and the next workunit waits for the deliverer for good.
-/

/-- What identifies a workunit object. Two objects may have one identifier, if a workunit is
checked out a second time. -/
structure Token where
  serial : Nat
  id : WorkunitUniqueIdentifier
  deriving DecidableEq, Repr

def Work.token (work : Work) : Token :=
  ⟨work.serial, work.id⟩

/-- A workunit that the stealer has entered and not yet passed on. -/
def Stealer.held : Stealer -> Option Token
  | .entered work | .offering work => some work.token
  | _ => none

def Downloader.held : Downloader -> Option Token
  | .waiting => none
  | .received work | .marked work | .preWork work | .downloading work | .offering work =>
      some work.token

def Processor.held : Processor -> Option Token
  | .waiting => none
  | .received work | .looked work | .marked work | .starting work | .executing work
      | .offering work =>
      some work.token

def Deliverer.held : Deliverer -> Option Token
  | .waiting | .releasing => none
  | .received work | .looked work | .uploading work | .notifying work | .retrying work
      | .closing work
  | .forgetting work => some work.token

/-- The deliverer is before the end of its report. -/
def Deliverer.delivers : Deliverer -> Option Token
  | .received work | .looked work | .uploading work | .notifying work | .retrying work =>
      some work.token
  | _ => none

/-- The workunits in the hands of the four stages. -/
def State.inHand (s : State) : List Token :=
  s.stealer.held.toList ++ s.downloader.held.toList ++ s.processor.held.toList ++
      s.deliverer.held.toList

/-- The shared tables, with the record of what has happened. The record is not part of the
program; it is what a statement about lost work is made of. -/
structure Tables where
  currentWork : List WorkunitUniqueIdentifier
  workmap : GoMap WorkunitUniqueIdentifier Stage
  entered : List Work
  reported : List Nat
  discarded : List Nat

def State.tables (s : State) : Tables :=
  ⟨s.currentWork, s.workmap, s.entered, s.reported, s.discarded⟩

/-- Reported to the server, or discarded at its wish. -/
def Tables.Settled (tables : Tables) (serial : Nat) : Prop :=
  serial ∈ tables.reported ∨ serial ∈ tables.discarded

inductive Place where
  | free
  | stolen (token : Token)
  | offered (token : Token)
  | downloading (token : Token)
  | processing (token : Token)
  | delivering (token : Token)
  | closing (token : Token)
  | forgetting (token : Token)
  | released

/-- The identifier can be printed and has a directory. -/
def Addressed (id : WorkunitUniqueIdentifier) : Prop :=
  id.Printable ∧ workPath id = .ok

/-- The stages are where the place says. -/
def At (s : State) : Place -> Prop
  | .free =>
      (s.stealer = .idle ∨ Exists fun work => s.stealer = .checkedOut work ∧
        (work.id.Printable -> workPath work.id = .ok)) ∧
        s.downloader = .waiting ∧ s.processor = .waiting ∧ s.deliverer = .waiting
  | .stolen token =>
      (Exists fun work => s.stealer = .entered work ∧ work.token = token) ∧
        s.downloader = .waiting ∧ s.processor = .waiting ∧ s.deliverer = .waiting
  | .offered token =>
      (Exists fun work => s.stealer = .offering work ∧ work.token = token) ∧
        s.downloader = .waiting ∧ s.processor = .waiting ∧ s.deliverer = .waiting
  | .downloading token =>
      s.stealer = .permit ∧ s.downloader.held = some token ∧ s.processor = .waiting ∧
          s.deliverer = .waiting
  | .processing token =>
      s.stealer = .permit ∧ s.downloader = .waiting ∧ s.processor.held = some token ∧
          s.deliverer = .waiting
  | .delivering token =>
      s.stealer = .permit ∧ s.downloader = .waiting ∧ s.processor = .waiting ∧
        s.deliverer.delivers = some token
  | .closing token =>
      s.stealer = .permit ∧ s.downloader = .waiting ∧ s.processor = .waiting ∧
        Exists fun work => s.deliverer = .closing work ∧ work.token = token
  | .forgetting token =>
      s.stealer = .permit ∧ s.downloader = .waiting ∧ s.processor = .waiting ∧
        Exists fun work => s.deliverer = .forgetting work ∧ work.token = token
  | .released =>
      s.stealer = .permit ∧ s.downloader = .waiting ∧ s.processor = .waiting ∧
          s.deliverer = .releasing

/-- Every other workunit is settled, and only this one is in `CurrentWork`. Without worker overlap
the stealer waits for the deliverer, and so there is one workunit at a time. -/
structure Alone (tables : Tables) (token : Token) : Prop where
  addressed : Addressed token.id
  known : Exists fun work => work ∈ tables.entered ∧ work.token = token
  current : forall id, id ∈ tables.currentWork -> id = token.id
  others : forall work, work ∈ tables.entered -> work.serial = token.serial ∨
      tables.Settled work.serial

/-- It has an entry in `workmap`, and if the entry says so it is discarded. An entry that says
discarded has to be justified, for a stage drops the workunit because of it. -/
structure Carried (tables : Tables) (token : Token) : Prop extends Alone tables token where
  present : Exists fun stage => tables.workmap.lookup token.id = some stage ∧
    (stage = .discarded -> token.serial ∈ tables.discarded)

/-- Nothing is on its way. -/
structure Empty (tables : Tables) : Prop where
  current : tables.currentWork = []
  others : forall work, work ∈ tables.entered -> tables.Settled work.serial

/-- What the tables say about the workunit at its place. -/
def Facts (tables : Tables) : Place -> Prop
  | .free | .released => Empty tables
  | .stolen token => Alone tables token
  | .offered token | .downloading token | .processing token | .delivering token =>
      Carried tables token
  | .closing token => Alone tables token ∧ tables.Settled token.serial
  | .forgetting token => Empty tables ∧ Addressed token.id ∧ tables.Settled token.serial

/-- The invariant of a run with worker overlap off. There is always one place where the workunit
is, and the facts about the tables belong to that place. -/
structure Flows (s : State) : Prop where
  alive : s.crashed = false
  placed : Exists fun place => At s place ∧ Facts s.tables place

/-- The workunits that are in the hands of a stage at a place. -/
def Place.tokens : Place -> List Token
  | .free | .released => []
  | .stolen token | .offered token | .downloading token | .processing token | .delivering token
  | .closing token | .forgetting token => [token]

/-- A step leaves the workunit in some hands, takes a new one, or is the last
one for it. -/
def Handed (after : State) (place next : Place) : Prop :=
  next.tokens = place.tokens ∨ place.tokens = [] ∨
    (Exists fun token => place = .forgetting token ∧ next = .released ∧
        after.tables.Settled token.serial ∧
      after.workmap.lookup token.id = none)

/-- What a step from a place leads to. From each place a step leads to a place again, which is the
whole induction. -/
structure Onward (place : Place) (after : State) : Prop where
  alive : after.crashed = false
  placed : Exists fun next => Handed after place next ∧ At after next ∧ Facts after.tables next

theorem Onward.flows {place : Place} {after : State} (onward : Onward place after) :
    Flows after := by
  rcases onward with ⟨alive, next, _, standing, facts⟩
  exact ⟨alive, next, standing, facts⟩

/-! ## Finding the place from one stage -/

namespace At

variable {s : State} {place : Place} {token : Token}

theorem of_downloader (standing : At s place) (held : s.downloader.held = some token) :
    place = .downloading token := by
  cases place with
  | downloading other =>
      rw [standing.2.1] at held
      cases held
      rfl
  | free | stolen _ | offered _ | processing _ | delivering _ | closing _
      | forgetting _ | released =>
      rw [standing.2.1] at held
      cases held

theorem of_processor (standing : At s place) (held : s.processor.held = some token) :
    place = .processing token := by
  cases place with
  | processing other =>
      rw [standing.2.2.1] at held
      cases held
      rfl
  | free | stolen _ | offered _ | downloading _ | delivering _ | closing _
      | forgetting _ | released =>
      rw [standing.2.2.1] at held
      cases held

theorem of_delivers (standing : At s place) (delivers : s.deliverer.delivers = some token) :
    place = .delivering token := by
  cases place with
  | delivering other =>
      rw [standing.2.2.2] at delivers
      cases delivers
      rfl
  | closing _ | forgetting _ =>
      rcases standing.2.2.2 with ⟨work, closing, _⟩
      rw [closing] at delivers
      cases delivers
  | free | stolen _ | offered _ | downloading _ | processing _ | released =>
      rw [standing.2.2.2] at delivers
      cases delivers

theorem of_closing {work : Work} (standing : At s place) (closing : s.deliverer = .closing work) :
    place = .closing work.token := by
  cases place with
  | closing other =>
      rcases standing.2.2.2 with ⟨again, same, rfl⟩
      rw [closing] at same
      cases same
      rfl
  | forgetting _ =>
      rcases standing.2.2.2 with ⟨again, other, _⟩
      rw [closing] at other
      cases other
  | free | stolen _ | offered _ | downloading _ | processing _ | delivering _ | released =>
      have here := standing.2.2.2
      rw [closing] at here
      cases here

theorem of_forgetting {work : Work} (standing : At s place)
    (forgetting : s.deliverer = .forgetting work) :
    place = .forgetting work.token := by
  cases place with
  | forgetting other =>
      rcases standing.2.2.2 with ⟨again, same, rfl⟩
      rw [forgetting] at same
      cases same
      rfl
  | closing _ =>
      rcases standing.2.2.2 with ⟨again, other, _⟩
      rw [forgetting] at other
      cases other
  | free | stolen _ | offered _ | downloading _ | processing _ | delivering _ | released =>
      have here := standing.2.2.2
      rw [forgetting] at here
      cases here

theorem of_releasing (standing : At s place) (releasing : s.deliverer = .releasing) :
    place = .released := by
  cases place with
  | released => rfl
  | closing _ | forgetting _ =>
      rcases standing.2.2.2 with ⟨again, other, _⟩
      rw [releasing] at other
      cases other
  | free | stolen _ | offered _ | downloading _ | processing _ | delivering _ =>
      have here := standing.2.2.2
      rw [releasing] at here
      cases here

/-- The stealer waits for the permit at every place behind it. -/
theorem of_stealer (standing : At s place) (here : s.stealer ≠ .permit) :
    (place = .free ∧ (s.stealer = .idle ∨ Exists fun work => s.stealer = .checkedOut work ∧
      (work.id.Printable -> workPath work.id = .ok))) ∨
    (Exists fun work => s.stealer = .entered work ∧ place = .stolen work.token) ∨
    (Exists fun work => s.stealer = .offering work ∧ place = .offered work.token) := by
  cases place with
  | free => exact Or.inl ⟨rfl, standing.1⟩
  | stolen token =>
      rcases standing with ⟨⟨work, isWork, rfl⟩, _⟩
      exact Or.inr (Or.inl ⟨work, isWork, rfl⟩)
  | offered token =>
      rcases standing with ⟨⟨work, isWork, rfl⟩, _⟩
      exact Or.inr (Or.inr ⟨work, isWork, rfl⟩)
  | downloading _ | processing _ | delivering _ | closing _ | forgetting _ | released =>
      exact absurd standing.1 here

end At

section

variable {tables after : Tables} {token : Token}

theorem Alone.of_sub (alone : Alone tables token) (entered : after.entered = tables.entered)
    (current : forall id, id ∈ after.currentWork -> id ∈ tables.currentWork)
    (settled : forall serial, tables.Settled serial -> after.Settled serial) :
    Alone after token where
  addressed := alone.addressed
  known := by rw [entered]; exact alone.known
  current id member := alone.current id (current id member)
  others work member := by
    rw [entered] at member
    exact (alone.others work member).imp id (settled work.serial)

theorem Empty.of_sub (empty : Empty tables) (entered : after.entered = tables.entered)
    (current : forall id, id ∈ after.currentWork -> id ∈ tables.currentWork)
    (settled : forall serial, tables.Settled serial -> after.Settled serial) : Empty after where
  current := by
    refine List.eq_nil_iff_forall_not_mem.mpr fun id member => ?_
    have old := current id member
    rw [empty.current] at old
    cases old
  others work member := by
    rw [entered] at member
    exact settled work.serial (empty.others work member)

/-- The facts survive when work leaves `CurrentWork` or is settled. -/
theorem Facts.of_sub {place : Place} (facts : Facts tables place)
    (entered : after.entered = tables.entered)
    (current : forall id, id ∈ after.currentWork -> id ∈ tables.currentWork)
    (settled : forall serial, tables.Settled serial -> after.Settled serial)
    (present : forall token, Carried tables token -> Exists fun stage =>
    after.workmap.lookup token.id = some stage ∧
      (stage = .discarded -> token.serial ∈ after.discarded)) : Facts after place := by
  have carried (token : Token) (facts : Carried tables token) : Carried after token :=
    ⟨facts.toAlone.of_sub entered current settled, present token facts⟩
  cases place with
  | free => exact Empty.of_sub facts entered current settled
  | released => exact Empty.of_sub facts entered current settled
  | stolen token => exact Alone.of_sub facts entered current settled
  | offered token => exact carried token facts
  | downloading token => exact carried token facts
  | processing token => exact carried token facts
  | delivering token => exact carried token facts
  | closing token => exact ⟨facts.1.of_sub entered current settled, settled _ facts.2⟩
  | forgetting token =>
      exact ⟨facts.1.of_sub entered current settled, facts.2.1, settled _ facts.2.2⟩

/-- A stage writes its own number into the entry of the workunit in its hands. -/
theorem Alone.carried (alone : Alone tables token) {stage : Stage} (stays : stage ≠ .discarded) :
    Carried { tables with workmap := tables.workmap.insert token.id stage } token where
  addressed := alone.addressed
  known := alone.known
  current := alone.current
  others := alone.others
  present := ⟨stage, AList.lookup_insert _, fun same => absurd same stays⟩

theorem mem_deleteWork {currentWork : List WorkunitUniqueIdentifier}
    {id other : WorkunitUniqueIdentifier} :
    other ∈ deleteWork currentWork id ↔ other ∈ currentWork ∧ other ≠ id := by
  unfold deleteWork
  rw [List.mem_filter, decide_eq_true_eq]

end

/-! ## The steps of the stages -/

section

variable {s after : State}

theorem downloaderStep_onward {place : Place} (alive : s.crashed = false) (standing : At s place)
    (facts : Facts s.tables place) {event : Event} (stepped : s.downloaderStep event = some after) :
    Onward place after := by
  -- Whatever the downloader does, it keeps the workunit in its hands.
  have stays {token : Token} (held : s.downloader.held = some token) (downloader : Downloader)
      (holds : downloader.held = some token) (healthy : Bool) :
      Onward place { s with downloader := downloader, healthy := healthy } := by
    have here := standing.of_downloader held
    subst here
    exact ⟨alive, .downloading token, Or.inl rfl, ⟨standing.1, holds, standing.2.2⟩, facts⟩
  unfold State.downloaderStep at stepped
  cases event with
  | setDownloader =>
      dsimp only at stepped
      split at stepped
      · next work received =>
          have held : s.downloader.held = some work.token := by rw [received]; rfl
          have here := standing.of_downloader held
          subst here
          have carried : Carried s.tables work.token := facts
          have path : workPath work.id = .ok := carried.addressed.2
          rw [path] at stepped
          cases stepped
          exact ⟨alive, .downloading work.token, Or.inl rfl, ⟨standing.1, rfl, standing.2.2⟩,
              carried.toAlone.carried (by decide : Stage.dataDownloader ≠ .discarded)⟩
      · cases stepped
  | prepare outcome =>
      dsimp only at stepped
      split at stepped
      · next work marked =>
          have held : s.downloader.held = some work.token := by rw [marked]; rfl
          cases outcome with
          | mkdirFailed =>
              cases stepped
              exact stays held (.offering { work with state := .error }) rfl false
          | noScript =>
              cases stepped
              exact stays held (.downloading work) rfl s.healthy
          | script =>
              cases stepped
              exact stays held (.preWork work) rfl s.healthy
      · cases stepped
  | scriptEnded ok =>
      dsimp only at stepped
      split at stepped
      · next work running =>
          have held : s.downloader.held = some work.token := by rw [running]; rfl
          split at stepped
          · cases stepped
            exact stays held (.downloading work) rfl s.healthy
          · cases stepped
            exact stays held (.offering { work with state := .error }) rfl s.healthy
      · cases stepped
  | downloaded ok =>
      dsimp only at stepped
      split at stepped
      · next work running =>
          have held : s.downloader.held = some work.token := by rw [running]; rfl
          cases stepped
          refine stays held (.offering (if ok then work else { work with state := .error })) ?_
              s.healthy
          cases ok <;> rfl
      · cases stepped
  | fromMover =>
      dsimp only at stepped
      split at stepped
      · next work offering waiting =>
          have held : s.downloader.held = some work.token := by rw [offering]; rfl
          have here := standing.of_downloader held
          subst here
          cases stepped
          exact ⟨alive, .processing work.token, Or.inl rfl, ⟨standing.1, rfl, rfl, standing.2.2.2⟩,
              facts⟩
      · cases stepped
  | _ => cases stepped

/-- The events that break the chain do not happen. It is a condition on what comes from outside,
the environment, the network and the identifiers that the server hands out, and not on what the
worker makes of it. -/
def Careful (s : State) : Event -> Prop
  | .checkout id _ _ _ => id.jobId = "" ∨ 6 ≤ id.jobId.utf8ByteSize
  | .runWorkunit envFailed => forall work, s.processor = .marked work ->
      ¬(¬work.wantsDocker ∧ work.hasPrivateEnv ∧ envFailed)
  | .notified answer => answer ≠ .noResponse
  | _ => True

theorem processorStep_onward {place : Place} (alive : s.crashed = false) (standing : At s place)
    (facts : Facts s.tables place) {event : Event} (careful : Careful s event)
    (stepped : s.processorStep event = some after) : Onward place after := by
  have stays {token : Token} (held : s.processor.held = some token) (processor : Processor)
      (holds : processor.held = some token) : Onward place { s with processor := processor } := by
    have here := standing.of_processor held
    subst here
    exact ⟨alive, .processing token, Or.inl rfl, ⟨standing.1, standing.2.1, holds, standing.2.2.2⟩,
        facts⟩
  unfold State.processorStep at stepped
  cases event with
  | lookUp =>
      dsimp only at stepped
      split at stepped
      · next work received =>
          have held : s.processor.held = some work.token := by rw [received]; rfl
          have here := standing.of_processor held
          subst here
          have carried : Carried s.tables work.token := facts
          split at stepped
          · cases stepped
            exact stays held (.offering work) rfl
          · rw [if_neg (fun broken => broken carried.addressed.1)] at stepped
            -- The entry is there, because only the deliverer removes it.
            rcases carried.present with ⟨stage, present, _⟩
            have isStage : s.workmap.lookup work.id = some stage := present
            rw [isStage] at stepped
            cases stage with
            | discarded =>
                cases stepped
                exact stays held (.offering { work with state := .discarded }) rfl
            | workStealer | dataDownloader | worker | deliverer =>
                cases stepped
                exact stays held (.looked work) rfl
      · cases stepped
  | setWorker =>
      dsimp only at stepped
      split at stepped
      · next work looked =>
          have held : s.processor.held = some work.token := by rw [looked]; rfl
          have here := standing.of_processor held
          subst here
          have carried : Carried s.tables work.token := facts
          cases stepped
          exact ⟨alive, .processing work.token, Or.inl rfl,
              ⟨standing.1, standing.2.1, rfl, standing.2.2.2⟩,
            carried.toAlone.carried (by decide : Stage.worker ≠ .discarded)⟩
      · cases stepped
  | runWorkunit envFailed =>
      dsimp only at stepped
      split at stepped
      · next work marked =>
          have held : s.processor.held = some work.token := by rw [marked]; rfl
          rw [if_neg (careful work marked)] at stepped
          cases stepped
          exact stays held (.starting work) rfl
      · cases stepped
  | execute started =>
      dsimp only at stepped
      split at stepped
      · next work starting =>
          have held : s.processor.held = some work.token := by rw [starting]; rfl
          cases stepped
          refine stays held (if started then .executing work else
              .offering { work with state := .error }) ?_
          cases started <;> rfl
      · cases stepped
  | ended result =>
      dsimp only at stepped
      split at stepped
      · next work executing =>
          have held : s.processor.held = some work.token := by rw [executing]; rfl
          cases stepped
          exact stays held _ rfl
      · cases stepped
  | fromProcessor =>
      dsimp only at stepped
      split at stepped
      · next work offering waiting =>
          have held : s.processor.held = some work.token := by rw [offering]; rfl
          have here := standing.of_processor held
          subst here
          cases stepped
          exact ⟨alive, .delivering work.token, Or.inl rfl, ⟨standing.1, standing.2.1, rfl, rfl⟩,
              facts⟩
      · cases stepped
  | _ => cases stepped

theorem delivererStep_onward {place : Place} (alive : s.crashed = false) (standing : At s place)
    (facts : Facts s.tables place) {event : Event} (careful : Careful s event)
    (stepped : s.delivererStep event = some after) : Onward place after := by
  have stays {token : Token} (delivers : s.deliverer.delivers = some token) (deliverer : Deliverer)
      (again : deliverer.delivers = some token) :
          Onward place { s with deliverer := deliverer } := by
    have here := standing.of_delivers delivers
    subst here
    exact ⟨alive, .delivering token, Or.inl rfl, ⟨standing.1, standing.2.1, standing.2.2.1, again⟩,
        facts⟩
  unfold State.delivererStep at stepped
  cases event with
  | lookUpResult =>
      dsimp only at stepped
      split at stepped
      · next work received =>
          have delivers : s.deliverer.delivers = some work.token := by rw [received]; rfl
          have here := standing.of_delivers delivers
          subst here
          have carried : Carried s.tables work.token := facts
          rw [if_neg (fun broken => broken carried.addressed.1)] at stepped
          rcases carried.present with ⟨stage, present, discarded⟩
          have isStage : s.workmap.lookup work.id = some stage := present
          rw [isStage] at stepped
          cases stage with
          | discarded =>
              cases stepped
              exact ⟨alive, .closing work.token, Or.inl rfl,
                  ⟨standing.1, standing.2.1, standing.2.2.1, _, rfl, rfl⟩,
                carried.toAlone, Or.inr (discarded rfl)⟩
          | workStealer | dataDownloader | worker | deliverer =>
              cases stepped
              exact stays delivers (.looked work) rfl
      · cases stepped
  | setDeliverer =>
      dsimp only at stepped
      split at stepped
      · next work looked =>
          have delivers : s.deliverer.delivers = some work.token := by rw [looked]; rfl
          have here := standing.of_delivers delivers
          subst here
          have carried : Carried s.tables work.token := facts
          cases stepped
          exact ⟨alive, .delivering work.token, Or.inl rfl,
              ⟨standing.1, standing.2.1, standing.2.2.1, rfl⟩,
            carried.toAlone.carried (by decide : Stage.deliverer ≠ .discarded)⟩
      · cases stepped
  | upload ok =>
      dsimp only at stepped
      split at stepped
      · next work uploading =>
          have delivers : s.deliverer.delivers = some work.token := by rw [uploading]; rfl
          cases stepped
          refine stays delivers _ ?_
          split <;> rfl
      · cases stepped
  | notified answer =>
      dsimp only at stepped
      split at stepped
      · next work notifying =>
          have delivers : s.deliverer.delivers = some work.token := by rw [notifying]; rfl
          have here := standing.of_delivers delivers
          subst here
          have carried : Carried s.tables work.token := facts
          have reported : Onward (.delivering work.token)
              { s with deliverer := .closing work, reported := work.serial :: s.reported } := by
            refine ⟨alive, .closing work.token, Or.inl rfl,
                ⟨standing.1, standing.2.1, standing.2.2.1, work, rfl, rfl⟩, ?_,
              Or.inl List.mem_cons_self⟩
            exact carried.toAlone.of_sub rfl (fun _ member => member)
              fun _ settled => settled.imp (List.mem_cons_of_mem _) id
          cases answer with
          | delivered =>
              cases stepped
              exact reported
          | clientNotFound =>
              cases stepped
              exact reported
          | refused =>
              cases stepped
              exact stays delivers (.retrying work) rfl
          | noResponse => exact absurd rfl careful
      · cases stepped
  | retry =>
      dsimp only at stepped
      split at stepped
      · next work retrying =>
          have delivers : s.deliverer.delivers = some work.token := by rw [retrying]; rfl
          cases stepped
          exact stays delivers (.notifying work) rfl
      · cases stepped
  | removeWork =>
      dsimp only at stepped
      split at stepped
      · next work closing =>
          have here := standing.of_closing closing
          subst here
          obtain ⟨alone, settled⟩ : Alone s.tables work.token ∧ s.tables.Settled work.serial :=
              facts
          have path : workPath work.id = .ok := alone.addressed.2
          rw [path] at stepped
          cases stepped
          refine ⟨alive, .forgetting work.token, Or.inl rfl,
              ⟨standing.1, standing.2.1, standing.2.2.1, work, rfl, rfl⟩,
            ⟨?_, fun other member => ?_⟩, alone.addressed, settled⟩
          · refine List.eq_nil_iff_forall_not_mem.mpr fun id member => ?_
            have kept := mem_deleteWork.mp member
            exact kept.2 (alone.current id kept.1)
          · rcases alone.others other member with same | done
            · rw [same]
              exact settled
            · exact done
      · cases stepped
  | forget =>
      dsimp only at stepped
      split at stepped
      · next work forgetting =>
          have here := standing.of_forgetting forgetting
          subst here
          cases stepped
          rw [State.rest_eq]
          exact ⟨alive, .released,
              Or.inr (Or.inr ⟨work.token, rfl, rfl, facts.2.2, AList.lookup_erase _ _⟩),
            ⟨standing.1, standing.2.1, standing.2.2.1, rfl⟩, facts.1.current, facts.1.others⟩
      · cases stepped
  | _ => cases stepped

/-- With the guard a printable identifier has a directory. -/
theorem workPath_ok {id : WorkunitUniqueIdentifier} (printable : id.Printable)
    (careful : id.jobId = "" ∨ 6 ≤ id.jobId.utf8ByteSize) : workPath id = .ok := by
  have named : id.jobId ≠ "" := (id.printable_iff.mp printable).2
  unfold workPath
  rw [if_neg named, if_neg (Nat.not_lt.mpr (careful.resolve_left named))]

theorem stealerStep_onward {place : Place} (alive : s.crashed = false) (standing : At s place)
    (facts : Facts s.tables place) {event : Event} (careful : Careful s event)
    (stepped : s.stealerStep false event = some after) : Onward place after := by
  -- The place of a stealer that does not wait for the permit.
  have free (idle : s.stealer = .idle ∨ Exists fun work => s.stealer = .checkedOut work) :
      place = .free := by
    rcases standing.of_stealer (by rcases idle with here | ⟨work, here⟩ <;> rw [here] <;>
        exact nofun) with
      ⟨isFree, _⟩ | ⟨work, entered, _⟩ | ⟨work, offering, _⟩
    · exact isFree
    · rcases idle with here | ⟨_, here⟩ <;> rw [here] at entered <;> cases entered
    · rcases idle with here | ⟨_, here⟩ <;> rw [here] at offering <;> cases offering
  unfold State.stealerStep at stepped
  cases event with
  | checkoutFailed =>
      dsimp only at stepped
      split at stepped
      · split at stepped
        · cases stepped
          exact ⟨alive, place, Or.inl rfl, standing, facts⟩
        · cases stepped
      · cases stepped
  | checkout id wantsDocker hasPrivateEnv broken =>
      dsimp only at stepped
      split at stepped
      · next idle =>
          have here := free (Or.inl idle)
          subst here
          split at stepped
          · cases stepped
            exact ⟨alive, .free, Or.inl rfl,
                ⟨Or.inr ⟨_, rfl, fun printable => workPath_ok printable careful⟩, standing.2⟩,
              facts⟩
          · cases stepped
      · cases stepped
  | enter =>
      dsimp only at stepped
      split at stepped
      · next work checkedOut =>
          have here := free (Or.inr ⟨work, checkedOut⟩)
          subst here
          have empty : Empty s.tables := facts
          split at stepped
          · next printable =>
              cases stepped
              have path : workPath work.id = .ok := by
                rcases standing.1 with idle | ⟨again, isAgain, path⟩
                · rw [checkedOut] at idle
                  cases idle
                · rw [checkedOut] at isAgain
                  cases isAgain
                  exact path printable
              refine ⟨alive, .stolen work.token, Or.inr (Or.inl rfl),
                  ⟨⟨work, rfl, rfl⟩, standing.2⟩, ⟨printable, path⟩,
                ⟨work, List.mem_cons_self, rfl⟩, fun id member => ?_, fun other member => ?_⟩
              · have current : s.currentWork = [] := empty.current
                change id ∈ addWork s.currentWork work.id at member
                unfold addWork at member
                rw [current, if_neg List.not_mem_nil] at member
                exact List.mem_singleton.mp member
              · rcases List.mem_cons.mp member with rfl | old
                · exact Or.inl rfl
                · exact Or.inr (empty.others other old)
          · cases stepped
            exact ⟨alive, .free, Or.inl rfl, ⟨Or.inl rfl, standing.2⟩, facts⟩
      · cases stepped
  | setStealer =>
      dsimp only at stepped
      split at stepped
      · next work entered =>
          rcases standing.of_stealer (by rw [entered]; exact nofun) with
            ⟨_, idle⟩ | ⟨again, same, rfl⟩ | ⟨again, offering, _⟩
          · rcases idle with here | ⟨_, here, _⟩ <;> rw [entered] at here <;> cases here
          · rw [entered] at same
            cases same
            cases stepped
            have alone : Alone s.tables work.token := facts
            exact ⟨alive, .offered work.token, Or.inl rfl, ⟨⟨work, rfl, rfl⟩, standing.2⟩,
              alone.carried (by decide : Stage.workStealer ≠ .discarded)⟩
          · rw [entered] at offering
            cases offering
      · cases stepped
  | fromStealer =>
      dsimp only at stepped
      split at stepped
      · next work offering waiting =>
          rcases standing.of_stealer (by rw [offering]; exact nofun) with
            ⟨_, idle⟩ | ⟨again, entered, _⟩ | ⟨again, same, rfl⟩
          · rcases idle with here | ⟨_, here, _⟩ <;> rw [offering] at here <;> cases here
          · rw [offering] at entered
            cases entered
          · rw [offering] at same
            cases same
            cases stepped
            exact ⟨alive, .downloading work.token, Or.inl rfl, ⟨rfl, rfl, standing.2.2⟩, facts⟩
      · cases stepped
  | permit =>
      dsimp only at stepped
      split at stepped
      · next waits releasing =>
          have here := standing.of_releasing releasing
          subst here
          cases stepped
          exact ⟨alive, .free, Or.inl rfl, ⟨Or.inl rfl, standing.2.1, standing.2.2.1, rfl⟩, facts⟩
      · cases stepped
  | _ => cases stepped

theorem heartbeaterStep_onward {place : Place} (alive : s.crashed = false) (standing : At s place)
    (facts : Facts s.tables place) {event : Event}
    (stepped : s.heartbeaterStep event = some after) :
    Onward place after := by
  unfold State.heartbeaterStep at stepped
  cases event with
  | discard id =>
      dsimp only at stepped
      split at stepped
      · split at stepped <;> cases stepped <;> exact ⟨alive, place, Or.inl rfl, standing, facts⟩
      · cases stepped
  | kill =>
      dsimp only at stepped
      split at stepped
      · next id work killing executing =>
          have held : s.processor.held = some work.token := by rw [executing]; rfl
          have here := standing.of_processor held
          subst here
          cases stepped
          exact ⟨alive, .processing work.token, Or.inl rfl,
              ⟨standing.1, standing.2.1, rfl, standing.2.2.2⟩, facts⟩
      · cases stepped
  | killScript =>
      dsimp only at stepped
      split at stepped
      · next id work killing running =>
          have held : s.downloader.held = some work.token := by rw [running]; rfl
          have here := standing.of_downloader held
          subst here
          cases stepped
          exact ⟨alive, .downloading work.token, Or.inl rfl, ⟨standing.1, rfl, standing.2.2⟩, facts⟩
      · cases stepped
  | setDiscarded =>
      dsimp only at stepped
      split at stepped
      · next id marking =>
          cases stepped
          refine ⟨alive, place, Or.inl rfl, standing, facts.of_sub rfl (fun _ member => member)
            (fun serial settled => settled.imp_right (List.mem_append_right _)) fun token carried =>
                ?_⟩
          change Exists fun stage =>
              AList.lookup token.id (AList.insert id Stage.discarded s.workmap) = some stage ∧ _
          rw [GoMap.lookup_insert_if]
          split
          · next same =>
              refine ⟨.discarded, rfl, fun _ => List.mem_append_left _ ?_⟩
              rcases carried.known with ⟨work, entered, isToken⟩
              refine List.mem_map.mpr ⟨work, List.mem_filter.mpr ⟨entered, ?_⟩,
                  congrArg Token.serial isToken⟩
              rw [decide_eq_true_eq, ← same]
              exact congrArg Token.id isToken
          · rcases carried.present with ⟨stage, present, discarded⟩
            exact ⟨stage, present, fun same => List.mem_append_right _ (discarded same)⟩
      · cases stepped
  | removeDiscarded =>
      dsimp only at stepped
      split at stepped
      · next id removing =>
          cases stepped
          rw [State.rest_eq]
          exact ⟨alive, place, Or.inl rfl, standing,
              facts.of_sub rfl (fun _ member => (mem_deleteWork.mp member).1)
            (fun _ settled => settled) fun _ carried => carried.present⟩
      · cases stepped
  | _ => cases stepped

/-- One step with worker overlap off. -/
theorem step_onward {place : Place} (alive : s.crashed = false) (standing : At s place)
    (facts : Facts s.tables place) {event : Event} (careful : Careful s event)
    (stepped : step false s event = some after) : Onward place after := by
  unfold step at stepped
  rw [if_neg (by rw [alive]; decide)] at stepped
  split at stepped
  · exact stealerStep_onward alive standing facts careful stepped
  · exact downloaderStep_onward alive standing facts stepped
  · exact processorStep_onward alive standing facts careful stepped
  · exact delivererStep_onward alive standing facts careful stepped
  · exact heartbeaterStep_onward alive standing facts stepped

theorem step_flows (flows : Flows s) {event : Event} (careful : Careful s event)
    (stepped : step false s event = some after) : Flows after := by
  rcases flows with ⟨alive, place, standing, facts⟩
  exact (step_onward alive standing facts careful stepped).flows

theorem init_flows : Flows State.init :=
  ⟨rfl, .free, ⟨Or.inl rfl, rfl, rfl, rfl⟩, rfl, fun _ member => (nomatch member)⟩

/-! ## The pipeline runs dry -/

/-- The number of steps that are left before a workunit is through. -/
@[simp]
def Stealer.ahead : Stealer -> Nat
  | .entered _ => 20
  | .offering _ => 19
  | .idle | .checkedOut _ | .permit => 0

@[simp]
def Downloader.ahead : Downloader -> Nat
  | .received _ => 18
  | .marked _ => 17
  | .preWork _ => 16
  | .downloading _ => 15
  | .offering _ => 14
  | .waiting => 0

@[simp]
def Processor.ahead : Processor -> Nat
  | .received _ => 13
  | .looked _ => 12
  | .marked _ => 11
  | .starting _ => 10
  | .executing _ => 9
  | .offering _ => 8
  | .waiting => 0

@[simp]
def Deliverer.ahead : Deliverer -> Nat
  | .received _ => 7
  | .looked _ => 6
  | .uploading _ => 5
  | .retrying _ => 5
  | .notifying _ => 4
  | .closing _ => 3
  | .forgetting _ => 2
  | .releasing => 1
  | .waiting => 0

@[simp]
def State.ahead (s : State) : Nat :=
  s.stealer.ahead + s.downloader.ahead + s.processor.ahead + s.deliverer.ahead

/-- The steps of the four stages that concern a workunit they have. -/
def Event.Inner : Event -> Prop
  | .checkoutFailed | .checkout .. | .enter => False
  | event => match event.goroutine with
    | .heartbeater => False
    | _ => True

/-- Some stage can take a step forward. -/
def Advances (s : State) : Prop :=
  Exists fun event => Exists fun after => event.Inner ∧ Careful s event ∧
      step false s event = some after ∧
    after.ahead < s.ahead

theorem stealer_advances {token : Token} (alive : s.crashed = false)
    (standing : At s (.stolen token) ∨ At s (.offered token)) : Advances s := by
  rcases standing with ⟨⟨work, entered, _⟩, downloader, processor, deliverer⟩ |
    ⟨⟨work, offering, _⟩, downloader, processor, deliverer⟩
  · refine ⟨.setStealer, { s.setStage work.id .workStealer with stealer := .offering work },
      trivial, trivial, ?_, ?_⟩
    · simp [step, Event.goroutine, State.stealerStep, alive, entered]
    · simp [State.setStage, entered]
  · refine ⟨.fromStealer, { s with stealer := .permit, downloader := .received work }, trivial,
      trivial, ?_, ?_⟩
    · simp [step, Event.goroutine, State.stealerStep, alive, offering, downloader]
    · simp [offering, downloader]

theorem downloader_advances {token : Token} (alive : s.crashed = false)
    (standing : At s (.downloading token)) (carried : Carried s.tables token) : Advances s := by
  rcases standing with ⟨_, held, processor, _⟩
  cases here : s.downloader with
  | waiting =>
      rw [here] at held
      cases held
  | received work =>
      rw [here] at held
      cases held
      have path : workPath work.id = .ok := carried.addressed.2
      refine ⟨.setDownloader,
          { s.setStage work.id .dataDownloader with downloader := .marked work }, trivial,
        trivial, ?_, ?_⟩
      · simp [step, Event.goroutine, State.downloaderStep, alive, here, path]
      · simp [State.setStage, here]
  | marked work =>
      refine ⟨.prepare .noScript, { s with downloader := .downloading work }, trivial,
          trivial, ?_, ?_⟩
      · simp [step, Event.goroutine, State.downloaderStep, alive, here]
      · simp [here]
  | preWork work =>
      refine ⟨.scriptEnded true, { s with downloader := .downloading work }, trivial,
          trivial, ?_, ?_⟩
      · simp [step, Event.goroutine, State.downloaderStep, alive, here]
      · simp [here]
  | downloading work =>
      refine ⟨.downloaded true, { s with downloader := .offering work }, trivial, trivial, ?_, ?_⟩
      · simp [step, Event.goroutine, State.downloaderStep, alive, here]
      · simp [here]
  | offering work =>
      refine ⟨.fromMover, { s with downloader := .waiting, processor := .received work }, trivial,
          trivial, ?_, ?_⟩
      · simp [step, Event.goroutine, State.downloaderStep, alive, here, processor]
      · simp [here, processor]

theorem processor_advances {token : Token} (alive : s.crashed = false)
    (standing : At s (.processing token)) (carried : Carried s.tables token) : Advances s := by
  rcases standing with ⟨_, _, held, deliverer⟩
  cases here : s.processor with
  | waiting =>
      rw [here] at held
      cases held
  | received work =>
      rw [here] at held
      cases held
      have printable : work.id.Printable := carried.addressed.1
      rcases carried.present with ⟨stage, present, _⟩
      have isStage : s.workmap.lookup work.id = some stage := present
      by_cases passed : work.state = .error ∨ work.state = .discarded
      · refine ⟨.lookUp, { s with processor := .offering work }, trivial, trivial, ?_, ?_⟩
        · simp [step, Event.goroutine, State.processorStep, alive, here, passed]
        · simp [here]
      · by_cases dropped : stage = .discarded
        · refine ⟨.lookUp, { s with processor := .offering { work with state := .discarded } },
            trivial, trivial,
            ?_, ?_⟩
          · simp [step, Event.goroutine, State.processorStep, alive, here, passed, printable,
              isStage, dropped]
          · simp [here]
        · refine ⟨.lookUp, { s with processor := .looked work }, trivial, trivial, ?_, ?_⟩
          · cases stage with
            | discarded => exact absurd rfl dropped
            | workStealer | dataDownloader | worker | deliverer =>
                simp [step, Event.goroutine, State.processorStep, alive, here, passed,
                    printable, isStage]
          · simp [here]
  | looked work =>
      refine ⟨.setWorker, { s.setStage work.id .worker with processor := .marked work }, trivial,
          trivial, ?_, ?_⟩
      · simp [step, Event.goroutine, State.processorStep, alive, here]
      · simp [State.setStage, here]
  | marked work =>
      refine ⟨.runWorkunit false, { s with processor := .starting work }, trivial, ?_, ?_, ?_⟩
      · exact fun _ _ failed => absurd failed.2.2 (by decide)
      · simp [step, Event.goroutine, State.processorStep, alive, here]
      · simp [here]
  | starting work =>
      refine ⟨.execute true, { s with processor := .executing work }, trivial, trivial, ?_, ?_⟩
      · simp [step, Event.goroutine, State.processorStep, alive, here]
      · simp [here]
  | executing work =>
      refine ⟨.ended .computed, { s with processor := .offering { work with state := .computed } },
          trivial, trivial,
        ?_, ?_⟩
      · simp [step, Event.goroutine, State.processorStep, alive, here]
      · simp [here]
  | offering work =>
      refine ⟨.fromProcessor, { s with processor := .waiting, deliverer := .received work },
          trivial, trivial, ?_, ?_⟩
      · simp [step, Event.goroutine, State.processorStep, alive, here, deliverer]
      · simp [here, deliverer]

theorem deliverer_advances {token : Token} (alive : s.crashed = false)
    (standing : At s (.delivering token)) (carried : Carried s.tables token) : Advances s := by
  rcases standing with ⟨_, _, _, delivers⟩
  cases here : s.deliverer with
  | waiting | closing _ | forgetting _ | releasing =>
      rw [here] at delivers
      cases delivers
  | received work =>
      rw [here] at delivers
      cases delivers
      have printable : work.id.Printable := carried.addressed.1
      rcases carried.present with ⟨stage, present, _⟩
      have isStage : s.workmap.lookup work.id = some stage := present
      by_cases dropped : stage = .discarded
      · refine ⟨.lookUpResult, { s with deliverer := .closing { work with state := .discarded } },
          trivial, trivial,
          ?_, ?_⟩
        · simp [step, Event.goroutine, State.delivererStep, alive, here, printable,
            isStage, dropped]
        · simp [here]
      · refine ⟨.lookUpResult, { s with deliverer := .looked work }, trivial, trivial, ?_, ?_⟩
        · cases stage with
          | discarded => exact absurd rfl dropped
          | workStealer | dataDownloader | worker | deliverer =>
              simp [step, Event.goroutine, State.delivererStep, alive, here, printable, isStage]
        · simp [here]
  | looked work =>
      refine ⟨.setDeliverer, { s.setStage work.id .deliverer with deliverer := .uploading work },
          trivial, trivial,
        ?_, ?_⟩
      · simp [step, Event.goroutine, State.delivererStep, alive, here]
      · simp [State.setStage, here]
  | uploading work =>
      refine ⟨.upload true, { s with
        deliverer := .notifying (if work.state = .computed then { work with state := .done } else
            work) }, trivial,
        trivial, ?_, ?_⟩
      · simp [step, Event.goroutine, State.delivererStep, alive, here]
      · simp [here]
  | notifying work =>
      refine ⟨.notified .delivered,
          { s with deliverer := .closing work, reported := work.serial :: s.reported },
        trivial, (by decide : Answer.delivered ≠ .noResponse), ?_, ?_⟩
      · simp [step, Event.goroutine, State.delivererStep, alive, here]
      · simp [here]
  | retrying work =>
      refine ⟨.retry, { s with deliverer := .notifying work }, trivial, trivial, ?_, ?_⟩
      · simp [step, Event.goroutine, State.delivererStep, alive, here]
      · simp [here]

/-- A workunit on its way, or a permit that is waited for, always has a next step. -/
theorem advances_of_working {place : Place} (alive : s.crashed = false) (standing : At s place)
    (facts : Facts s.tables place) (working : place ≠ .free) : Advances s := by
  cases place with
  | free => exact absurd rfl working
  | stolen token => exact stealer_advances alive (Or.inl standing)
  | offered token => exact stealer_advances alive (Or.inr standing)
  | downloading token => exact downloader_advances alive standing facts
  | processing token => exact processor_advances alive standing facts
  | delivering token => exact deliverer_advances alive standing facts
  | closing token =>
      rcases standing with ⟨_, _, _, work, closing, rfl⟩
      have path : workPath work.id = .ok := facts.1.addressed.2
      refine ⟨.removeWork,
          { s with deliverer := .forgetting work, currentWork := deleteWork s.currentWork work.id },
        trivial, trivial, ?_, ?_⟩
      · simp [step, Event.goroutine, State.delivererStep, alive, closing, path]
      · simp [closing]
  | forgetting token =>
      rcases standing with ⟨_, _, _, work, forgetting, _⟩
      refine ⟨.forget, State.rest
          { s with deliverer := .releasing, workmap := s.workmap.erase work.id }, trivial,
        trivial, ?_, ?_⟩
      · simp [step, Event.goroutine, State.delivererStep, alive, forgetting]
      · rw [State.rest_eq]
        simp [forgetting]
  | released =>
      rcases standing with ⟨permit, _, _, releasing⟩
      refine ⟨.permit, { s with stealer := .idle, deliverer := .waiting }, trivial, trivial, ?_, ?_⟩
      · simp [step, Event.goroutine, State.stealerStep, alive, permit, releasing]
      · simp [permit, releasing]

end

/-! ## No workunit is lost -/

/-- What holds in a state of a worker that loses nothing. Each field is about a single state; that
it holds in every state of a run is the result below. -/
structure Conserves (s : State) : Prop where
  /-- A workunit that is neither reported nor discarded is in the hands of one stage. -/
  held : forall work, work ∈ s.entered -> ¬s.tables.Settled work.serial ->
    (s.inHand.filter (·.serial = work.serial)).length = 1
  /-- A stage is done with a workunit when another one has it, or when it is settled
  and out of both tables. -/
  handed : forall event after, Careful s event -> step false s event = some after ->
      forall token, token ∈ s.inHand ->
    token ∈ after.inHand ∨ (after.tables.Settled token.serial ∧ token.id ∉ after.currentWork ∧
      after.workmap.lookup token.id = none)
  /-- The pipeline is not idle while there is work or while the stealer waits for the permit. -/
  busy : s.currentWork ≠ [] ∨ s.stealer = .permit -> Advances s
  /-- By their own steps the stages come to the end of the work, and the permit is released. -/
  drains : Exists fun after => Reaches (step false) (fun s event => event.Inner ∧ Careful s event) s
      after ∧
    after.currentWork = [] ∧ after.stealer ≠ .permit ∧ after.inHand = []

section

variable {s after : State} {place : Place}

theorem At.inHand_eq (standing : At s place) : s.inHand = place.tokens := by
  unfold State.inHand
  cases place with
  | free =>
      rcases standing with ⟨idle, downloader, processor, deliverer⟩
      rw [downloader, processor, deliverer]
      rcases idle with here | ⟨work, here, _⟩ <;> rw [here] <;> rfl
  | stolen token =>
      rcases standing with ⟨⟨work, here, rfl⟩, downloader, processor, deliverer⟩
      rw [downloader, processor, deliverer, here]
      rfl
  | offered token =>
      rcases standing with ⟨⟨work, here, rfl⟩, downloader, processor, deliverer⟩
      rw [downloader, processor, deliverer, here]
      rfl
  | downloading token =>
      rcases standing with ⟨permit, held, processor, deliverer⟩
      rw [permit, held, processor, deliverer]
      rfl
  | processing token =>
      rcases standing with ⟨permit, downloader, held, deliverer⟩
      rw [permit, downloader, held, deliverer]
      rfl
  | delivering token =>
      rcases standing with ⟨permit, downloader, processor, delivers⟩
      rw [permit, downloader, processor]
      cases here : s.deliverer with
      | waiting | closing _ | forgetting _ | releasing =>
          rw [here] at delivers
          cases delivers
      | received _ | looked _ | uploading _ | notifying _ | retrying _ =>
          rw [here] at delivers
          cases delivers
          rfl
  | closing token =>
      rcases standing with ⟨permit, downloader, processor, work, here, rfl⟩
      rw [permit, downloader, processor, here]
      rfl
  | forgetting token =>
      rcases standing with ⟨permit, downloader, processor, work, here, rfl⟩
      rw [permit, downloader, processor, here]
      rfl
  | released =>
      rcases standing with ⟨permit, downloader, processor, deliverer⟩
      rw [permit, downloader, processor, deliverer]
      rfl

/-- An unsettled workunit is the one at the place. -/
theorem Facts.token_of_unsettled {tables : Tables} (facts : Facts tables place) {work : Work}
    (entered : work ∈ tables.entered) (open_ : ¬tables.Settled work.serial) :
    Exists fun token => place.tokens = [token] ∧ token.serial = work.serial := by
  have alone (token : Token) (others : forall work, work ∈ tables.entered ->
      work.serial = token.serial ∨ tables.Settled work.serial) : token.serial = work.serial :=
    ((others work entered).resolve_right open_).symm
  cases place with
  | free => exact absurd (Empty.others facts work entered) open_
  | released => exact absurd (Empty.others facts work entered) open_
  | forgetting token => exact absurd (facts.1.others work entered) open_
  | stolen token => exact ⟨token, rfl, alone token (Alone.others facts)⟩
  | offered token => exact ⟨token, rfl, alone token (Carried.toAlone facts).others⟩
  | downloading token => exact ⟨token, rfl, alone token (Carried.toAlone facts).others⟩
  | processing token => exact ⟨token, rfl, alone token (Carried.toAlone facts).others⟩
  | delivering token => exact ⟨token, rfl, alone token (Carried.toAlone facts).others⟩
  | closing token => exact ⟨token, rfl, alone token facts.1.others⟩

/-- Going on step by step ends at a free place. -/
theorem Flows.drains (flows : Flows s) :
    Exists fun after => Reaches (step false) (fun s event => event.Inner ∧ Careful s event) s
        after ∧
      At after .free ∧ Facts after.tables .free := by
  induction left : s.ahead using Nat.strong_induction_on generalizing s with
  | _ count inductionHypothesis =>
      rcases flows with ⟨alive, place, standing, facts⟩
      by_cases free : place = .free
      · subst free
        exact ⟨s, .refl, standing, facts⟩
      · obtain ⟨event, next, inner, careful, stepped, less⟩ :=
          advances_of_working alive standing facts free
        rw [left] at less
        obtain ⟨last, rest, ends⟩ := inductionHypothesis next.ahead less
          (step_onward alive standing facts careful stepped).flows rfl
        exact ⟨last, Relation.ReflTransGen.head ⟨event, ⟨inner, careful⟩, stepped⟩ rest, ends⟩

theorem Flows.conserves (flows : Flows s) : Conserves s := by
  rcases flows with ⟨alive, place, standing, facts⟩
  have hands := standing.inHand_eq
  constructor
  · intro work entered unsettled
    rcases facts.token_of_unsettled entered unsettled with ⟨token, tokens, same⟩
    rw [hands, tokens, List.filter_cons_of_pos (by rw [decide_eq_true_eq]; exact same)]
    rfl
  · intro event after careful stepped token member
    obtain ⟨_, next, handed, nextStanding, nextFacts⟩ :=
        step_onward alive standing facts careful stepped
    rw [nextStanding.inHand_eq]
    rw [hands] at member
    rcases handed with same | free | ⟨last, rfl, rfl, settled, forgotten⟩
    · rw [same]
      exact Or.inl member
    · rw [free] at member
      cases member
    · have isLast : token = last := List.mem_singleton.mp member
      subst isLast
      have current : after.currentWork = [] := Empty.current nextFacts
      refine Or.inr ⟨settled, ?_, forgotten⟩
      rw [current]
      exact List.not_mem_nil
  · intro working
    refine advances_of_working alive standing facts fun free => ?_
    subst free
    rcases working with work | permit
    · exact work (Empty.current facts)
    · rcases standing.1 with here | ⟨_, here, _⟩ <;> rw [permit] at here <;> cases here
  · rcases Flows.drains ⟨alive, place, standing, facts⟩ with ⟨after, reached, free, empty⟩
    refine ⟨after, reached, Empty.current empty, ?_, free.inHand_eq⟩
    rcases free.1 with here | ⟨_, here, _⟩ <;> rw [here] <;> exact nofun

/-- With worker overlap off, and while no environment fails to be set, no notification stays
without a response and no job identifier is too short for a directory, the worker loses no
workunit.

Each of the three is a way out of a stage without handing on what it holds: a `return` in front of
the hand-over, a response that is read though there is none, and a slice of a short identifier. -/
theorem pipeline_conserves (reached : Reaches (step false) Careful State.init s) : Conserves s :=
  (reached.invariant init_flows fun _ _ _ flows careful stepped =>
      step_flows flows careful stepped).conserves

end

/-- A workunit in the hands of the stealer. -/
private def stolenWork : List Event :=
  [.checkout ⟨⟨"task", "job-id"⟩, 0⟩ false true false, .enter, .setStealer]

theorem pipeline_conserves_stolen : (exec (step false) State.init stolenWork).isSome ∧
    Conserves (final (step false) State.init stolenWork) := by
  have runs : (exec (step false) State.init stolenWork).isSome := by decide
  refine ⟨runs, pipeline_conserves (Reaches.of_exec stolenWork ?_ .refl (exec_eq_final runs))⟩
  intro event member state
  have listed : event = .checkout ⟨⟨"task", "job-id"⟩, 0⟩ false true false ∨ event = .enter ∨
      event = .setStealer := by simpa [stolenWork] using member
  rcases listed with rfl | rfl | rfl
  · exact Or.inr (by decide)
  · trivial
  · trivial

/-- The private variables of the workunit cannot be fetched. -/
private def environmentFails : List Event :=
  stolenWork ++ [.fromStealer, .setDownloader, .prepare .noScript, .downloaded true,
      .fromMover, .lookUp,
    .setWorker, .runWorkunit true]

theorem failed_environment_loses_work :
    ¬forall s, Reaches (step false) anyEvent State.init s -> forall work, work ∈ s.entered ->
      ¬s.tables.Settled work.serial -> (s.inHand.filter (·.serial = work.serial)).length = 1 := by
  intro conserves
  have runs : (exec (step false) State.init environmentFails).isSome := by decide
  have held := conserves _
    (Reaches.of_exec environmentFails (fun _ _ _ => trivial) .refl (exec_eq_final runs))
    (⟨0, ⟨⟨"task", "job-id"⟩, 0⟩, false, true, .checkout⟩ : Work) (by decide)
    (by unfold Tables.Settled; decide)
  revert held
  decide

/-! ## With worker overlap on -/

section

variable {s after : State} {event : Event}

theorem downloaderStep_frame (stepped : s.downloaderStep event = some after) :
    after.stealer = s.stealer ∧ after.deliverer = s.deliverer := by
  unfold State.downloaderStep at stepped
  cases event <;> dsimp only at stepped <;> repeat' split at stepped
  all_goals cases stepped
  all_goals exact ⟨rfl, rfl⟩

theorem heartbeaterStep_frame (stepped : s.heartbeaterStep event = some after) :
    after.stealer = s.stealer ∧ after.deliverer = s.deliverer := by
  unfold State.heartbeaterStep at stepped
  cases event <;> dsimp only at stepped <;> repeat' split at stepped
  all_goals cases stepped
  all_goals first | exact ⟨rfl, rfl⟩ | (rw [State.rest_eq]; exact ⟨rfl, rfl⟩)

/-- With overlap the stealer goes on to the next request instead of offering a permit. -/
theorem stealerStep_overlap (stepped : s.stealerStep true event = some after)
    (noPermit : s.stealer ≠ .permit) :
    after.stealer ≠ .permit ∧ after.deliverer = s.deliverer := by
  unfold State.stealerStep at stepped
  cases event <;> dsimp only at stepped <;> repeat' split at stepped
  all_goals cases stepped
  all_goals first
    | exact ⟨noPermit, rfl⟩
    | exact absurd rfl ‹¬true = true›
    | exact absurd ‹_› noPermit
    | exact ⟨nofun, rfl⟩

/-- The processor hands its work to a deliverer that is ready for it. -/
theorem processorStep_releasing (stepped : s.processorStep event = some after)
    (released : s.deliverer = .releasing) :
    after.stealer = s.stealer ∧ after.deliverer = .releasing := by
  unfold State.processorStep at stepped
  cases event <;> dsimp only at stepped <;> repeat' split at stepped
  all_goals cases stepped
  all_goals first
    | exact ⟨rfl, released⟩
    | (rename_i waiting; rw [released] at waiting; cases waiting)

theorem processorStep_stealer (stepped : s.processorStep event = some after) :
    after.stealer = s.stealer := by
  unfold State.processorStep at stepped
  cases event <;> dsimp only at stepped <;> repeat' split at stepped
  all_goals cases stepped
  all_goals rfl

theorem delivererStep_stealer (stepped : s.delivererStep event = some after) :
    after.stealer = s.stealer := by
  unfold State.delivererStep at stepped
  cases event <;> dsimp only at stepped <;> repeat' split at stepped
  all_goals cases stepped
  all_goals first | rfl | rw [State.rest_eq]

/-- A deliverer that waits for a permit does nothing else. -/
theorem delivererStep_releasing (released : s.deliverer = .releasing) :
    s.delivererStep event = none := by
  unfold State.delivererStep
  rw [released]
  cases event <;> rfl

/-- With overlap there is never a permit. -/
theorem step_noPermit (stepped : step true s event = some after) (noPermit : s.stealer ≠ .permit) :
    after.stealer ≠ .permit := by
  unfold step at stepped
  split at stepped
  · cases stepped
  · split at stepped
    · exact (stealerStep_overlap stepped noPermit).1
    · rwa [(downloaderStep_frame stepped).1]
    · rwa [processorStep_stealer stepped]
    · rwa [delivererStep_stealer stepped]
    · rwa [(heartbeaterStep_frame stepped).1]

/-- Without a permit the deliverer keeps waiting for it. -/
theorem step_releasing (stepped : step true s event = some after) (noPermit : s.stealer ≠ .permit)
    (released : s.deliverer = .releasing) : after.deliverer = .releasing := by
  unfold step at stepped
  split at stepped
  · cases stepped
  · split at stepped
    · rw [(stealerStep_overlap stepped noPermit).2, released]
    · rw [(downloaderStep_frame stepped).2, released]
    · exact (processorStep_releasing stepped released).2
    · rw [delivererStep_releasing released] at stepped
      cases stepped
    · rw [(heartbeaterStep_frame stepped).2, released]

theorem run_noPermit (reached : Reaches (step true) anyEvent s after)
    (noPermit : s.stealer ≠ .permit) :
    after.stealer ≠ .permit :=
  @Reaches.invariant _ _ _ _ _ (fun s => s.stealer ≠ .permit) noPermit
    (fun _ _ _ free _ stepped => step_noPermit stepped free) _ reached

/-- One workunit is computed and its result delivered. -/
private def deliveredOne : List Event :=
  [.checkout ⟨⟨"task", "job-id"⟩, 0⟩ false false false, .enter, .setStealer, .fromStealer,
      .setDownloader,
    .prepare .noScript, .downloaded true, .fromMover, .lookUp, .setWorker, .runWorkunit false,
        .execute true,
    .ended .computed, .fromProcessor, .lookUpResult, .setDeliverer, .upload true,
        .notified .delivered, .removeWork,
    .forget]

/-- The next one is computed as well. -/
private def computedNext : List Event :=
  [.checkout ⟨⟨"task", "job-id"⟩, 1⟩ false false false, .enter, .setStealer, .fromStealer,
      .setDownloader,
    .prepare .noScript, .downloaded true, .fromMover, .lookUp, .setWorker, .runWorkunit false,
        .execute true,
    .ended .computed]

end

end Worker
end Awe
