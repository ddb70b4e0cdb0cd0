import Awe.Core.Instances
import Awe.Core.ServerMgr

namespace Awe
namespace Core

open Lib Lib.Path

/-!
# Completing tasks, workflow instances and jobs

`taskCompleted` closes a task.  The last child of a scatter task gathers the
outputs of all children and closes the scatter task in the same way, the last
step of a workflow instance closes the instance and, through
`completeSubworkflow`, the instance above it, and the last task or the main
instance closes the job.

Two functions of the source recurse.  They take a bound on the depth here, and
`Halt.diverges` is the answer when it is used up; a nil dereference is
`Halt.panic`.  What `completeSubworkflow` reads from the outputs of a workflow
is an argument: `collect` answers with an error, or with the outputs and with
what the lookups of the sources left in the named results `ok` and `reason`.
-/

inductive Halt where
  | panic
  | diverges
  deriving DecidableEq, Repr

/-- A call that returns leaves its state behind, with an error or without. -/
def survives {State Result : Type} (result : Except Halt (State × Result)) : Option State :=
  match result with
  | .ok (state, _) => some state
  | .error _ => none

/-- The two named results of `completeSubworkflow` that every lookup of a source
writes, whatever they were before. -/
structure Looked where
  ok : Bool
  reason : String
  deriving DecidableEq, Repr

/-- The outputs of a workflow instance, as `completeSubworkflow` assembles them. -/
abbrev Collect := Store -> Job -> WorkflowInstance -> Except String (JobDocument × Looked)

/-- The results of `completeSubworkflow`.  Its callers look at `ok` and `reason`
only where there is no error. -/
structure Closing extends Looked where
  err : Err
  deriving DecidableEq, Repr

/-- What is left in `ok` by the loop over the sub-workflows, when all of them
were found: it is written in every round, and there may be none. -/
def WorkflowInstance.looked (wi : WorkflowInstance) : Looked where
  ok := !wi.subworkflows.isEmpty
  reason := ""

namespace Store

/-- The instance has a state of its own only if it exists. -/
def instanceCompleted (store : Store) (jobid localID : String) : Bool :=
  match store.instanceOf jobid localID with
  | some wi => wi.state = .completed
  | none => false

/-- What keeps `completeSubworkflow` from closing an instance: the first task
or sub-workflow that is not completed. -/
def blocked (store : Store) (jobid : String) (wi : WorkflowInstance) : Option String :=
  if wi.tasks.any fun ptr => (store.task ptr).state ≠ .completed then
    some "(completeSubworkflow) a task is not completed yet"
  else
    wi.subworkflows.findSome? fun subworkflow =>
      match store.instanceOf jobid subworkflow with
      | none => some ("(completeSubworkflow) subworkflow " ++ subworkflow ++ " not found")
      | some subWI =>
          if subWI.state ≠ .completed then
            some ("(completeSubworkflow) subworkflow " ++ subworkflow ++ " is not completed")
          else none

/-- `wi.GetParentID`. -/
def parentID (localID : String) : String :=
  if dir localID = "." then "" else dir localID

/-- `task.GetScatterChildren`.  The source keeps the pointers after the first
call; tasks are only ever appended to an instance, so it finds the same ones. -/
def getScatterChildren (store : Store) (wi : WorkflowInstance) (task : Task) :
    Except String (List Nat) :=
  task.scatterChildren.mapM fun name =>
    match store.getTaskByName wi name with
    | some child => .ok child
    | none => .error ("(GetScatterChildren) child task " ++ name ++ " not found in TaskMap")

/-- `Job_document.Get`. -/
def documentGet (document : JobDocument) (id : String) : Option CWLValue :=
  (document.find? fun entry => entry.1 = id).map Prod.snd

end Store

namespace ServerMgr

def finalizeJob (qm : ServerMgr) (jobid : String) : ServerMgr × Err :=
  match qm.store.jobs.lookup jobid with
  | none => (qm, some "(updateJobTask) job.GetState returned: not found")
  | some job =>
      if job.state = .completed then
        (qm, some "(updateJobTask) job state is already JOB_STAT_COMPLETED")
      else
        ({ qm with
            store := qm.store.jobSetState jobid .completed
            actJobs := qm.actJobs.filter (· ≠ jobid)
            taskMap := job.tasks.foldl (fun map ptr => map.erase (qm.store.task ptr).ident)
                qm.taskMap },
          none)

/-- What follows the change of state in `completeSubworkflow`, up to the
recursive call: the main instance closes the job, any other one counts down in
its parent.  `some` is the parent that has no steps left. -/
def notifyParent (qm : ServerMgr) (jobid localID : String) (looked : Looked) :
    ServerMgr × Closing × Option String :=
  match qm.store.jobs.lookup jobid with
  | none => (qm, ⟨looked, some "(completeSubworkflow) no job"⟩, none)
  | some job =>
      if localID = job.entrypoint then
        match qm.finalizeJob jobid with
        | (qm, none) => (qm, ⟨looked, none⟩, none)
        | (qm, some err) =>
            (qm, ⟨looked, some ("(completeSubworkflow) qm.finalizeJob returned: " ++ err)⟩, none)
      else
        let parent := Store.parentID localID
        if parent = "" then
          (qm, ⟨looked, some ("(completeSubworkflow) workflowInstance.GetParent returned: " ++
            "(WorkflowInstance/GetParent) no parent")⟩, none)
        else
          match qm.store.instanceOf jobid parent with
          | none =>
              (qm, ⟨looked, some ("(completeSubworkflow) workflowInstance.GetParent returned: " ++
                "(WorkflowInstance/GetParent) job.GetWorkflowInstance did not find workflow_instance " ++
                parent)⟩, none)
          | some above =>
              ({ qm with store := qm.store.incrementRemainSteps jobid parent (-1) }, ⟨looked, none⟩,
                if above.remainSteps + -1 > 0 then none else some parent)

/-- `completeSubworkflow`.  Where the instance is closed, `ok` and `reason` are
what the last lookup left in them, and the recursive call overwrites `ok` only. -/
def completeSubworkflow (collect : Collect) :
    Nat -> ServerMgr -> String -> String -> Except Halt (ServerMgr × Closing)
  | 0, _, _, _ => .error .diverges
  | depth + 1, qm, jobid, localID =>
      match qm.store.jobs.lookup jobid, qm.store.instanceOf jobid localID with
      | some job, some wi =>
          if wi.state = .completed then .ok (qm, ⟨⟨true, ""⟩, none⟩)
          else
            match qm.store.blocked jobid wi with
            | some reason => .ok (qm, ⟨⟨false, reason⟩, none⟩)
            | none =>
                match WorkflowContext.getWorkflow job.context wi.workflowDefinition with
                | .error err =>
                    .ok (qm, ⟨wi.looked,
                        some ("(completeSubworkflow) workflowInstance.GetWorkflow " ++
                      "returned: (WorkflowInstance/GetWorkflow) context.GetWorkflow returned: " ++
                          err)⟩)
                | .ok _ =>
                    match collect qm.store job wi with
                    | .error err => .ok (qm, ⟨wi.looked, some err⟩)
                    | .ok (outputs, looked) =>
                        let qm := { qm with
                          store := qm.store.modifyInstance jobid localID fun wi =>
                              { wi with outputs } }
                        if wi.remainSteps > 0 then
                          .ok (qm, ⟨looked, some
                              "(completeSubworkflow) RemainSteps > 0 cannot complete"⟩)
                        else
                          let qm := { qm with
                            store := qm.store.setInstanceState jobid localID .completed }
                          match qm.notifyParent jobid localID looked with
                          | (qm, closing, none) => .ok (qm, closing)
                          | (qm, _, some parent) =>
                              match completeSubworkflow collect depth qm jobid parent with
                              | .error halt => .error halt
                              | .ok (qm, ⟨⟨parentOk, parentResult⟩, none⟩) =>
                                  if parentOk then .ok (qm, ⟨{ looked with ok := true }, none⟩)
                                  else
                                    .ok (qm, ⟨{ looked with ok := false },
                                        some ("(completeSubworkflow) " ++
                                      "qm.completeSubworkflow could not complete, reason: " ++
                                      parentResult)⟩)
                              | .ok (qm, ⟨⟨parentOk, _⟩, some err⟩) =>
                                  .ok (qm, ⟨{ looked with ok := parentOk },
                                      some ("(completeSubworkflow) " ++
                                    "recursive call of qm.completeSubworkflow returned: " ++ err)⟩)
      | _, _ => .ok (qm, ⟨⟨false, ""⟩, some "(completeSubworkflow) no workflow instance"⟩)

/-- A depth that is enough for every job: each level of the recursion completes
an instance that was not. -/
def depthOf (qm : ServerMgr) (jobid : String) : Nat :=
  match qm.store.jobs.lookup jobid with
  | some job => job.instances.entries.length + 1
  | none => 1

/-- The array of the children's values for one declared output. -/
def gatherOutput (store : Store) (children : List Nat) (outputIDBase : String) :
    Except Halt (Except String (List CWLValue)) :=
  match children with
  | [] => .ok (.ok [])
  | child :: rest =>
      match (store.task child).stepOutput with
      | none => .ok (.error "(taskCompletedScatter) childTask.StepOutput == nil")
      | some jobDoc =>
          match Store.documentGet jobDoc outputIDBase with
          -- The error text is built from a nil error.
          | none => .error .panic
          | some childOutput =>
              match gatherOutput store rest outputIDBase with
              | .error halt => .error halt
              | .ok (.error err) => .ok (.error err)
              | .ok (.ok others) => .ok (.ok (childOutput :: others))

/-- The loop of `taskCompletedScatter` over the outputs of the step. -/
def gatherOutputs (store : Store) (children : List Nat) (out : List String)
    (document : JobDocument) :
    Except Halt (JobDocument × Err) :=
  match out with
  | [] => .ok (document, none)
  | outputID :: rest =>
      match gatherOutput store children (base outputID) with
      | .error halt => .error halt
      | .ok (.error err) => .ok (document, some err)
      | .ok (.ok items) => gatherOutputs store children rest
          (document ++ [(outputID, .array items)])

/-- How `taskCompletedScatter` ends before it completes the scatter task itself. -/
inductive Gathered where
  | finished (err : Err)
  | completeParent (parent : Nat)
  deriving DecidableEq, Repr

/-- `taskCompletedScatter` up to the completion of the scatter task.  Only the
caller that flips `Finalizing` gets there. -/
def taskCompletedScatter (qm : ServerMgr) (wi : WorkflowInstance) (ptr : Nat) :
    Except Halt (ServerMgr × Gathered) :=
  match (qm.store.task ptr).scatterParent with
  | none => .error .panic
  | some scatterParentID =>
      match qm.taskMap.lookup scatterParentID with
      | none =>
          .ok (qm, .finished (some ("(taskCompletedScatter) Scatter_Parent task " ++
            scatterParentID.string.1 ++ " not found")))
      | some parent =>
          match qm.store.getScatterChildren wi (qm.store.task parent) with
          | .error err =>
              .ok (qm, .finished (some
                  ("(taskCompletedScatter) (scatter) GetScatterChildren returned: " ++
                err)))
          | .ok children =>
              if children.any fun child => (qm.store.task child).state ≠ .completed then
                .ok (qm, .finished none)
              else if (qm.store.task parent).finalizing then .ok (qm, .finished none)
              else
                match (qm.store.task parent).workflowStep with
                | none => .error .panic
                | some step =>
                    match gatherOutputs qm.store children step.out [] with
                    | .error halt => .error halt
                    | .ok (document, err) =>
                        let qm := { qm with
                          store := qm.store.modifyTask parent fun task =>
                            { task with finalizing := true, stepOutput := some document } }
                        match err with
                        | some err => .ok (qm, .finished (some err))
                        | none => .ok (qm, .completeParent parent)

/-- `taskCompleted` after the scatter part: close the workflow instance, or
count down in an old-style job. -/
def closeBehindTask (collect : Collect) (qm : ServerMgr) (jobid : String)
    (localID : Option String) :
    Except Halt (ServerMgr × Err) :=
  match localID with
  | some localID =>
      match qm.store.instanceOf jobid localID with
      | none => .error .panic
      | some wi =>
          if wi.remainSteps > 0 then .ok (qm, none)
          else
            match completeSubworkflow collect (qm.depthOf jobid) qm jobid localID with
            | .error halt => .error halt
            | .ok (qm, ⟨_, some err⟩) =>
                .ok (qm, some ("(taskCompleted) completeSubworkflow returned: " ++ err))
            | .ok (qm, ⟨⟨true, _⟩, none⟩) => .ok (qm, none)
            | .ok (qm, ⟨⟨false, reason⟩, none⟩) =>
                .ok (qm, some ("(taskCompleted) completeSubworkflow not ok, reason: " ++ reason))
  | none =>
      let qm := { qm with
        store := qm.store.modifyJob jobid fun job =>
            { job with remainTasks := job.remainTasks + -1 } }
      match qm.store.jobs.lookup jobid with
      | none => .error .panic
      | some job =>
          if job.remainTasks > 0 then .ok (qm, none)
          else
            match qm.finalizeJob jobid with
            | (qm, none) => .ok (qm, none)
            | (qm, some err) => .ok (qm, some ("(taskCompleted) qm.finalizeJob returned: " ++ err))

/-- `taskCompleted`.  The workflow instance is nil for an old-style task. -/
def taskCompleted (collect : Collect) :
    Nat -> ServerMgr -> Option String -> Nat -> Except Halt (ServerMgr × Err)
  | 0, _, _, _ => .error .diverges
  | depth + 1, qm, localID, ptr =>
      let task := qm.store.task ptr
      let jobid := task.ident.jobId
      if task.state = .completed then
        .ok (qm, some "(taskCompleted) task state is alreay TASK_STAT_COMPLETED")
      else
        match qm.store.getJob jobid with
        | .error err =>
            .ok (qm, some ("(taskCompleted) task.GetJob returned: (TaskRaw/GetJob) global GetJob " ++
              "returned: " ++ err))
        | .ok _ =>
            match task.ident.string.2 with
            | some err => .ok (qm, some ("(taskCompleted) task.String returned: " ++ err))
            | none =>
                match qm.store.taskSetState ptr .completed with
                | (store, some err) =>
                    .ok ({ qm with store },
                        some ("(taskCompleted) task.SetState returned: " ++ err))
                | (store, none) =>
                    let qm := { qm with store }
                    if task.scatterParent.isNone then closeBehindTask collect qm jobid localID
                    else
                      -- The children are looked up in the instance, which must not be nil here.
                      match localID.bind (qm.store.instanceOf jobid) with
                      | none => .error .panic
                      | some wi =>
                          match qm.taskCompletedScatter wi ptr with
                          | .error halt => .error halt
                          | .ok (qm, .finished (some err)) =>
                              .ok (qm, some ("(taskCompleted) taskCompletedScatter returned: " ++
                                  err))
                          | .ok (qm, .finished none) => closeBehindTask collect qm jobid localID
                          | .ok (qm, .completeParent parent) =>
                              match taskCompleted collect depth qm localID parent with
                              | .error halt => .error halt
                              | .ok (qm, some err) =>
                                  .ok (qm, some ("(taskCompleted) taskCompletedScatter returned: " ++
                                    "(taskCompletedScatter) updateJobTask returned: " ++ err))
                              | .ok (qm, none) => closeBehindTask collect qm jobid localID

/-- A round that comes to the state of the instance: no step is open and the
outputs are known. -/
structure Closing.Round (qm : ServerMgr) (jobid localID : String) (wi : WorkflowInstance)
    (outputs : JobDocument) (written : ServerMgr) : Prop where
  found : qm.store.instanceOf jobid localID = some wi
  opened : wi.state ≠ .completed
  free : qm.store.blocked jobid wi = none
  wrote : written = { qm with
    store := (qm.store.modifyInstance jobid localID fun wi => { wi with outputs }).setInstanceState
        jobid localID
      .completed }

/-- The call changes nothing, writes only the outputs, closes the instance, or
closes it and goes on with the one above. -/
theorem completeSubworkflow_cases (collect : Collect) (depth : Nat) (qm : ServerMgr)
    (jobid localID : String) :
    (Exists fun closing => completeSubworkflow collect (depth + 1) qm jobid localID = .ok
        (qm, closing)) ∨
    (Exists fun outputs => Exists fun closing =>
        completeSubworkflow collect (depth + 1) qm jobid localID =
      .ok ({ qm with store := qm.store.modifyInstance jobid localID fun wi => { wi with outputs } },
          closing)) ∨
    Exists fun wi => Exists fun outputs => Exists fun written => Exists fun looked =>
        Exists fun between =>
      Exists fun closing => Closing.Round qm jobid localID wi outputs written ∧
        ((written.notifyParent jobid localID looked = (between, closing, none) ∧
          completeSubworkflow collect (depth + 1) qm jobid localID = .ok (between, closing)) ∨
        Exists fun parent => written.notifyParent jobid localID looked =
            (between, closing, some parent) ∧
          (forall halt, completeSubworkflow collect depth between jobid parent = .error halt ->
            completeSubworkflow collect (depth + 1) qm jobid localID = .error halt) ∧
          forall last answer, completeSubworkflow collect depth between jobid parent = .ok
              (last, answer) ->
            Exists fun closing => completeSubworkflow collect (depth + 1) qm jobid localID = .ok
                (last, closing)) := by
  rw [completeSubworkflow]
  split
  · next job wi foundJob found =>
      split
      · exact Or.inl ⟨_, rfl⟩
      · next opened =>
          split
          · exact Or.inl ⟨_, rfl⟩
          · next free =>
              dsimp only
              split
              · exact Or.inl ⟨_, rfl⟩
              · split
                · exact Or.inl ⟨_, rfl⟩
                · next outputs looked collected =>
                    split
                    · exact Or.inr (Or.inl ⟨outputs, _, rfl⟩)
                    · right
                      right
                      generalize wrote : ({ qm with
                        store := (qm.store.modifyInstance jobid localID fun wi =>
                          { wi with outputs }).setInstanceState jobid localID .completed } :
                              ServerMgr) = written
                      rcases notified : written.notifyParent jobid localID looked with
                          ⟨between, closing, next⟩
                      refine ⟨wi, outputs, written, looked, between, closing,
                          ⟨found, opened, free, wrote.symm⟩, ?_⟩
                      cases next with
                      | none => exact Or.inl ⟨notified, rfl⟩
                      | some parent =>
                          dsimp only
                          refine Or.inr ⟨parent, notified, fun halt stops =>
                              ?_, fun last answer called => ?_⟩
                          · rw [stops]
                          · rw [called]
                            rcases answer with ⟨⟨parentOk, reason⟩, err⟩
                            cases err with
                            | some err => exact ⟨_, rfl⟩
                            | none =>
                                dsimp only
                                split
                                · exact ⟨_, rfl⟩
                                · exact ⟨_, rfl⟩
  · exact Or.inl ⟨_, rfl⟩

end ServerMgr

end Core
end Awe
