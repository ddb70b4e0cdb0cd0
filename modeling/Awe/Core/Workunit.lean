import Mathlib.Data.String.Basic

namespace Awe
namespace Core

/-!
# Workunits and their identifiers

The model of `taskUniqueIdentifier.go`, `workunitUniqueIdentifier.go` and the
part of `workunit.go` that the server's queue works on.  A status is a plain
string in the source, and callers may pass any string to `StatusChange`, so a
workunit's `state` is a string here as well.

A function of the source that returns an error returns `some text` here, with
the text of the source; `none` is the nil error.  Locks are taken to succeed.
-/

/-- The nil error is `none`. -/
abbrev Err := Option String

def workStatInit : String := "init"
def workStatQueued : String := "queued"
def workStatReserved : String := "reserved"
def workStatCheckout : String := "checkout"
def workStatSuspend : String := "suspend"
def workStatFailedPermanent : String := "failed-permanent"
def workStatDone : String := "done"
def workStatError : String := "fail"
def workStatDiscarded : String := "discarded"

structure TaskUniqueIdentifier where
  taskName : String
  jobId : String
  deriving DecidableEq, Repr

/-- `String` of a task identifier: the text and the error. -/
def TaskUniqueIdentifier.string (taskid : TaskUniqueIdentifier) : String × Err :=
  if taskid.taskName = "" then ("", some "(Task_Unique_Identifier/String) TaskName is empty! ")
  else if taskid.jobId = "" then ("", some "(Task_Unique_Identifier/String) JobId is empty! ")
  else (taskid.jobId ++ "_" ++ taskid.taskName, none)

structure WorkunitUniqueIdentifier extends TaskUniqueIdentifier where
  rank : Int
  deriving DecidableEq, Repr

namespace WorkunitUniqueIdentifier

/-- The rank is appended even when the task identifier reports an error. -/
def string (w : WorkunitUniqueIdentifier) : String × Err :=
  let task := w.toTaskUniqueIdentifier.string
  (task.1 ++ "_" ++ toString w.rank, task.2)

/-- The zero value, which callers pass together with a workunit pointer. -/
def zero : WorkunitUniqueIdentifier :=
  ⟨⟨"", ""⟩, 0⟩

/-- An identifier whose `String` reports no error. -/
def Printable (w : WorkunitUniqueIdentifier) : Prop :=
  w.string.2 = none

instance : DecidablePred Printable :=
  fun w => inferInstanceAs (Decidable (w.string.2 = none))

theorem printable_iff (w : WorkunitUniqueIdentifier) :
    w.Printable ↔ w.taskName ≠ "" ∧ w.jobId ≠ "" := by
  unfold Printable string TaskUniqueIdentifier.string
  by_cases emptyName : w.taskName = ""
  · simp [emptyName]
  · by_cases emptyJob : w.jobId = "" <;> simp [emptyName, emptyJob]

end WorkunitUniqueIdentifier

/-- The fields of the job information that the selection of work and the
handling of failures read. -/
structure Info where
  priority : Int
  submitTime : Int
  clientGroups : String
  noRetry : Bool
  deriving DecidableEq, Repr

/-- A workunit object.  `globalId` is the field `ID`, `cmd` the name of the
command (`none` for a nil command) and `inputs` the sizes of the inputs. -/
structure Workunit where
  ident : WorkunitUniqueIdentifier
  state : String
  failed : Nat
  client : String
  globalId : String
  info : Option Info
  inputs : List Int
  cmd : Option String
  notes : List String
  deriving DecidableEq, Repr

namespace Workunit

/-- A direct write to the field `Client`. -/
def withClient (work : Workunit) (clientID : String) : Workunit :=
  { work with client := clientID }

/-- `SetState`.  A refused change leaves the workunit untouched. -/
def setState (work : Workunit) (newState reason : String) : Workunit × Err :=
  if newState = workStatSuspend ∧ reason = "" then
    (work, some "To suspend you need to provide a reason")
  else
    ({ work with
        state := newState
        client := if newState ≠ workStatCheckout then "" else work.client
        notes := if reason ≠ "" then work.notes ++ [reason] else work.notes }, none)

/-- The loop of `selectWorkunits` over the inputs.  The sum is an `int64`, which
wraps around. -/
def inputSize (work : Workunit) : Int :=
  (work.inputs.foldl (fun (size : Int64) input => size + Int64.ofInt input) 0).toInt

@[simp] theorem setState_ident (work : Workunit) (newState reason : String) :
    (work.setState newState reason).1.ident = work.ident := by
  unfold setState
  split <;> rfl

@[simp] theorem setState_info (work : Workunit) (newState reason : String) :
    (work.setState newState reason).1.info = work.info := by
  unfold setState
  split <;> rfl

/-- Outside the refused call the new state is the requested one. -/
theorem setState_accepted (work : Workunit) {newState reason : String}
    (accepted : ¬(newState = workStatSuspend ∧ reason = "")) :
    (work.setState newState reason).1.state = newState ∧
      (work.setState newState reason).2 = none := by
  unfold setState
  rw [if_neg accepted]
  exact ⟨rfl, rfl⟩

end Workunit

end Core
end Awe
