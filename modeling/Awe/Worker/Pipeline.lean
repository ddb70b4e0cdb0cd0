import Awe.Core.Workunit
import Awe.Lib.GoMap
import Awe.Lib.Runs

namespace Awe
namespace Worker

open Lib Awe.Core

/-!
# The stages of a worker

A client runs four goroutines, `workStealer`, `dataDownloader`, `processor` and
`deliverer`, which pass one workunit after the other over unbuffered channels,
and a heartbeater, which discards workunits when the server says so.  They share
the list `CurrentWork`, the table `workmap` with the stage of every workunit,
the channel `chanPermit`, with which the stealer waits for the deliverer, and
the channel `chankill`, with which the heartbeater ends a command.

Every stage is a small automaton; its state says how far it is with the workunit
in its hands.  A step is one operation on the shared data or one hand-over,
which takes place when both sides are ready.  What a call outside the worker
returns is part of the event.

The client is in online mode and no proxy.  Locks are taken without a failure.
The fields `entered`, `reported` and `discarded` are no part of the program:
they record what has happened.
-/

/-- The entries of `workmap`. -/
inductive Stage where
  | workStealer
  | dataDownloader
  | worker
  | deliverer
  | discarded
  deriving DecidableEq, Repr

/-- The states that the stages give a workunit. -/
inductive WorkState where
  | checkout
  | error
  | discarded
  | computed
  | failedPermanent
  | done
  deriving DecidableEq, Repr

/-- A workunit object on its way.  The serial number tells two objects apart
that have one identifier. -/
structure Work where
  serial : Nat
  id : WorkunitUniqueIdentifier
  wantsDocker : Bool
  hasPrivateEnv : Bool
  state : WorkState
  deriving DecidableEq, Repr

inductive Stealer where
  /-- About to ask the server. -/
  | idle
  /-- The server has sent a workunit. -/
  | checkedOut (work : Work)
  /-- It is in `CurrentWork` and not yet in `workmap`. -/
  | entered (work : Work)
  /-- Sending on `FromStealer`. -/
  | offering (work : Work)
  /-- Sending on `chanPermit`. -/
  | permit
  deriving DecidableEq, Repr

inductive Downloader where
  /-- Receiving from `FromStealer`. -/
  | waiting
  | received (work : Work)
  /-- The stage is in `workmap`. -/
  | marked (work : Work)
  /-- The pre-work script runs, or `chankill` ends it. -/
  | preWork (work : Work)
  | downloading (work : Work)
  /-- Sending on `fromMover`. -/
  | offering (work : Work)
  deriving DecidableEq, Repr

inductive Processor where
  /-- Receiving from `fromMover`. -/
  | waiting
  | received (work : Work)
  /-- The entry of `workmap` has been read. -/
  | looked (work : Work)
  /-- The stage is in `workmap`. -/
  | marked (work : Work)
  /-- Inside `RunWorkunit`, before the command runs. -/
  | starting (work : Work)
  /-- The command or container runs, or `chankill` ends it. -/
  | executing (work : Work)
  /-- Sending on `fromProcessor`. -/
  | offering (work : Work)
  deriving DecidableEq, Repr

inductive Deliverer where
  /-- Receiving from `fromProcessor`. -/
  | waiting
  | received (work : Work)
  /-- The entry of `workmap` has been read. -/
  | looked (work : Work)
  /-- The stage is in `workmap`; outputs are uploaded. -/
  | uploading (work : Work)
  /-- Inside `NotifyWorkunitProcessedWithLogs`. -/
  | notifying (work : Work)
  /-- Between two attempts to notify. -/
  | retrying (work : Work)
  /-- The report is over. -/
  | closing (work : Work)
  /-- It is out of `CurrentWork` and still in `workmap`. -/
  | forgetting (work : Work)
  /-- Receiving from `chanPermit`. -/
  | releasing
  deriving DecidableEq, Repr

/-- `DiscardWorkunit`, which the heartbeater calls for one workunit at a time. The three writes
are steps of their own, since the other goroutines may run in between. -/
inductive Heartbeater where
  | idle
  /-- Sending on `chankill`. -/
  | killing (id : WorkunitUniqueIdentifier)
  /-- About to write the entry of `workmap`. -/
  | marking (id : WorkunitUniqueIdentifier)
  /-- About to take it out of `CurrentWork`. -/
  | removing (id : WorkunitUniqueIdentifier)
  deriving DecidableEq, Repr

/-- Each goroutine is given by the place where it is, with the workunit in its hands; the channels
are not buffered, so a hand-over is one step of two goroutines. -/
structure State where
  currentWork : List WorkunitUniqueIdentifier
  workmap : GoMap WorkunitUniqueIdentifier Stage
  busy : Bool
  healthy : Bool
  stealer : Stealer
  downloader : Downloader
  processor : Processor
  deliverer : Deliverer
  heartbeater : Heartbeater
  /-- A panic has ended the process. -/
  crashed : Bool
  nextSerial : Nat
  entered : List Work
  reported : List Nat
  discarded : List Nat

def State.init : State where
  currentWork := []
  workmap := ∅
  busy := false
  healthy := true
  stealer := .idle
  downloader := .waiting
  processor := .waiting
  deliverer := .waiting
  heartbeater := .idle
  crashed := false
  nextSerial := 0
  entered := []
  reported := []
  discarded := []

/-- How `RunWorkunit` ends. -/
inductive RunResult where
  | computed
  | failed
  /-- Exit status 42. -/
  | failedPermanent
  deriving DecidableEq, Repr

/-- What becomes of the working directory and the pre-work script. -/
inductive Preparation where
  | mkdirFailed
  | noScript
  | script
  deriving DecidableEq, Repr

/-- The outcomes of one attempt to notify the server. -/
inductive Answer where
  | delivered
  | clientNotFound
  | refused
  /-- An error without a response, such as a failed connection. -/
  | noResponse
  deriving DecidableEq, Repr

inductive Event where
  -- workStealer
  | checkoutFailed
  | checkout (id : WorkunitUniqueIdentifier) (wantsDocker hasPrivateEnv broken : Bool)
  | enter
  | setStealer
  | fromStealer
  | permit
  -- dataDownloader
  | setDownloader
  | prepare (outcome : Preparation)
  | scriptEnded (ok : Bool)
  | downloaded (ok : Bool)
  | fromMover
  -- processor
  | lookUp
  | setWorker
  | runWorkunit (envFailed : Bool)
  | execute (started : Bool)
  | ended (result : RunResult)
  | fromProcessor
  -- deliverer
  | lookUpResult
  | setDeliverer
  | upload (ok : Bool)
  | notified (answer : Answer)
  | retry
  | removeWork
  | forget
  -- DiscardWorkunit
  | discard (id : WorkunitUniqueIdentifier)
  | kill
  | killScript
  | setDiscarded
  | removeDiscarded
  deriving DecidableEq, Repr

/-! ## The steps -/

/-- `work.Path()`: an error without a job identifier, and a panic when the
identifier is too short to be cut into directories. -/
inductive PathResult where
  | ok
  | missing
  | panic
  deriving DecidableEq, Repr

def workPath (id : WorkunitUniqueIdentifier) : PathResult :=
  if id.jobId = "" then .missing
  else if id.jobId.utf8ByteSize < 6 then .panic
  else .ok

/-- `CurrentWork.Add`. -/
def addWork (currentWork : List WorkunitUniqueIdentifier) (id : WorkunitUniqueIdentifier) :
    List WorkunitUniqueIdentifier :=
  if id ∈ currentWork then currentWork else id :: currentWork

/-- `CurrentWork.Delete`. -/
def deleteWork (currentWork : List WorkunitUniqueIdentifier) (id : WorkunitUniqueIdentifier) :
    List WorkunitUniqueIdentifier :=
  currentWork.filter (· ≠ id)

namespace State

/-- `workmap.Set`. -/
def setStage (s : State) (id : WorkunitUniqueIdentifier) (stage : Stage) : State :=
  { s with workmap := s.workmap.insert id stage }

/-- Not busy any more, if there is no work left. -/
def rest (s : State) : State :=
  if s.currentWork = [] then { s with busy := false } else s

theorem rest_eq (s : State) : s.rest = { s with busy := s.rest.busy } := by
  unfold rest
  split <;> rfl

/-- The steps of `workStealerRun`. -/
def stealerStep (overlap : Bool) (s : State) : Event -> Option State
  | .checkoutFailed =>
      match s.stealer with
      | .idle => if s.healthy then some { s with busy := false } else none
      | _ => none
  | .checkout id wantsDocker hasPrivateEnv broken =>
      match s.stealer with
      | .idle =>
          if s.healthy then
            -- A workunit whose CWL part cannot be read is passed on with its error.
            some { s with
              stealer := .checkedOut
                { serial := s.nextSerial, id, wantsDocker, hasPrivateEnv,
                  state := if broken then .error else .checkout }
              busy := if broken then s.busy else true
              nextSerial := s.nextSerial + 1 }
          else none
      | _ => none
  | .enter =>
      match s.stealer with
      | .checkedOut work =>
          if work.id.Printable then
            some { s with
              stealer := .entered work
              currentWork := addWork s.currentWork work.id
              entered := work :: s.entered }
          else some { s with stealer := .idle }
      | _ => none
  | .setStealer =>
      match s.stealer with
      | .entered work => some { s.setStage work.id .workStealer with stealer := .offering work }
      | _ => none
  | .fromStealer =>
      match s.stealer, s.downloader with
      | .offering work, .waiting =>
          some { s with
            stealer := if overlap then .idle else .permit
            downloader := .received work }
      | _, _ => none
  | .permit =>
      match s.stealer, s.deliverer with
      | .permit, .releasing => some { s with stealer := .idle, deliverer := .waiting }
      | _, _ => none
  | _ => none

/-- The steps of `dataDownloader`.  It hands on whatever it has received. -/
def downloaderStep (s : State) : Event -> Option State
  | .setDownloader =>
      match s.downloader with
      | .received work =>
          match workPath work.id with
          | .ok => some { s.setStage work.id .dataDownloader with downloader := .marked work }
          | .missing => some { s with downloader := .offering { work with state := .error } }
          | .panic => some { s with crashed := true }
      | _ => none
  | .prepare outcome =>
      match s.downloader with
      | .marked work =>
          match outcome with
          | .mkdirFailed =>
              some { s with downloader := .offering { work with
                  state := .error }, healthy := false }
          | .noScript => some { s with downloader := .downloading work }
          | .script => some { s with downloader := .preWork work }
      | _ => none
  | .scriptEnded ok =>
      match s.downloader with
      | .preWork work =>
          if ok then some { s with downloader := .downloading work }
          else some { s with downloader := .offering { work with state := .error } }
      | _ => none
  | .downloaded ok =>
      match s.downloader with
      | .downloading work =>
          some { s with downloader := .offering (if ok then work else { work with
              state := .error }) }
      | _ => none
  | .fromMover =>
      match s.downloader, s.processor with
      | .offering work, .waiting =>
          some { s with downloader := .waiting, processor := .received work }
      | _, _ => none
  | _ => none

/-- The steps of `processor_run`.  Three of its returns do not pass the workunit
on: an identifier that cannot be printed, an entry that is missing, and an
environment that cannot be set. -/
def processorStep (s : State) : Event -> Option State
  | .lookUp =>
      match s.processor with
      | .received work =>
          if work.state = .error ∨ work.state = .discarded then
              some { s with processor := .offering work }
          else if ¬work.id.Printable then some { s with processor := .waiting }
          else
            match s.workmap.lookup work.id with
            | none => some { s with processor := .waiting }
            | some .discarded =>
                some { s with processor := .offering { work with state := .discarded } }
            | some _ => some { s with processor := .looked work }
      | _ => none
  | .setWorker =>
      match s.processor with
      | .looked work => some { s.setStage work.id .worker with processor := .marked work }
      | _ => none
  | .runWorkunit envFailed =>
      match s.processor with
      | .marked work =>
          if ¬work.wantsDocker ∧ work.hasPrivateEnv ∧ envFailed then
              some { s with processor := .waiting }
          else some { s with processor := .starting work }
      | _ => none
  | .execute started =>
      match s.processor with
      | .starting work =>
          some { s with
            processor := if started then .executing work else
                .offering { work with state := .error } }
      | _ => none
  | .ended result =>
      match s.processor with
      | .executing work =>
          some { s with
            processor := .offering { work with
              state := match result with
                | .computed => .computed
                | .failed => .error
                | .failedPermanent => .failedPermanent } }
      | _ => none
  | .fromProcessor =>
      match s.processor, s.deliverer with
      | .offering work, .waiting =>
          some { s with processor := .waiting, deliverer := .received work }
      | _, _ => none
  | _ => none

/-- The steps of `deliverer_run`, which waits for the permit at its end whatever
happens.  The texts of a failed notification are read from the response, also
when there is none. -/
def delivererStep (s : State) : Event -> Option State
  | .lookUpResult =>
      match s.deliverer with
      | .received work =>
          if ¬work.id.Printable then some { s with deliverer := .releasing }
          else
            match s.workmap.lookup work.id with
            | none => some { s with deliverer := .releasing }
            | some .discarded =>
                some { s with deliverer := .closing { work with state := .discarded } }
            | some _ => some { s with deliverer := .looked work }
      | _ => none
  | .setDeliverer =>
      match s.deliverer with
      | .looked work => some { s.setStage work.id .deliverer with deliverer := .uploading work }
      | _ => none
  | .upload ok =>
      match s.deliverer with
      | .uploading work =>
          some { s with
            deliverer := .notifying
              (if work.state = .computed then { work with state := if ok then .done else .error }
                  else work) }
      | _ => none
  | .notified answer =>
      match s.deliverer with
      | .notifying work =>
          match answer with
          | .delivered | .clientNotFound =>
              some { s with deliverer := .closing work, reported := work.serial :: s.reported }
          | .refused => some { s with deliverer := .retrying work }
          | .noResponse => some { s with crashed := true }
      | _ => none
  | .retry =>
      match s.deliverer with
      | .retrying work => some { s with deliverer := .notifying work }
      | _ => none
  | .removeWork =>
      match s.deliverer with
      | .closing work =>
          match workPath work.id with
          | .ok =>
              some { s with deliverer := .forgetting work, currentWork := deleteWork s.currentWork work.id }
          | .missing => some { s with deliverer := .releasing }
          | .panic => some { s with crashed := true }
      | _ => none
  | .forget =>
      match s.deliverer with
      | .forgetting work =>
          some (State.rest { s with deliverer := .releasing, workmap := s.workmap.erase work.id })
      | _ => none
  | _ => none

/-- The steps of `DiscardWorkunit`.  Whoever listens on `chankill` gets the value. -/
def heartbeaterStep (s : State) : Event -> Option State
  | .discard id =>
      match s.heartbeater with
      | .idle =>
          match s.workmap.lookup id with
          | none => some s
          | some .worker => some { s with heartbeater := .killing id }
          | some _ => some { s with heartbeater := .marking id }
      | _ => none
  | .kill =>
      match s.heartbeater, s.processor with
      | .killing id, .executing work =>
          some { s with heartbeater := .marking id, processor := .offering { work with
              state := .error } }
      | _, _ => none
  | .killScript =>
      match s.heartbeater, s.downloader with
      | .killing id, .preWork work =>
          some { s with heartbeater := .marking id, downloader := .offering { work with
              state := .error } }
      | _, _ => none
  | .setDiscarded =>
      match s.heartbeater with
      | .marking id =>
          some { s.setStage id .discarded with
            heartbeater := .removing id
            discarded := ((s.entered.filter (·.id = id)).map Work.serial) ++ s.discarded }
      | _ => none
  | .removeDiscarded =>
      match s.heartbeater with
      | .removing id =>
          some (State.rest { s with
              heartbeater := .idle, currentWork := deleteWork s.currentWork id })
      | _ => none
  | _ => none

/-- The goroutine that makes a step. -/
inductive Goroutine where
  | stealer
  | downloader
  | processor
  | deliverer
  | heartbeater

end State

/-- The goroutine to which an event belongs; a hand-over belongs to the sender. -/
def Event.goroutine : Event -> State.Goroutine
  | .checkoutFailed | .checkout .. | .enter | .setStealer | .fromStealer | .permit => .stealer
  | .setDownloader | .prepare _ | .scriptEnded _ | .downloaded _ | .fromMover => .downloader
  | .lookUp | .setWorker | .runWorkunit _ | .execute _ | .ended _ | .fromProcessor => .processor
  | .lookUpResult | .setDeliverer | .upload _ | .notified _ | .retry | .removeWork | .forget =>
      .deliverer
  | .discard _ | .kill | .killScript | .setDiscarded | .removeDiscarded => .heartbeater

/-- One step of the worker; after a panic there is none. A panic in any goroutine ends the worker,
which is why nothing follows it. -/
def step (overlap : Bool) (s : State) (event : Event) : Option State :=
  if s.crashed then none
  else
    match event.goroutine with
    | .stealer => s.stealerStep overlap event
    | .downloader => s.downloaderStep event
    | .processor => s.processorStep event
    | .deliverer => s.delivererStep event
    | .heartbeater => s.heartbeaterStep event

end Worker
end Awe
