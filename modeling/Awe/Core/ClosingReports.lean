import Awe.Core.WorkflowOutputs

namespace Awe
namespace Core
namespace WorkflowOutputs

open Lib Lib.Path InputLookup Sources

/-!
# What the closing of an instance reports

`completeSubworkflow` has one named result `ok`.  It is written by every lookup
of a sub-workflow and of a source, and by the recursive call for the parent.
When the function comes to its end it returns whatever was written last, so an
instance whose last source is a missing optional one, or that looks nothing up
at all, is closed with `ok` being false.  The caller takes that for a failure,
be it `taskCompleted` or the call for a sub-workflow.

The answer matters only where the chain of instances that are closed one after
the other ends: below, the recursive call overwrites it.
-/

/-! ## The last lookup -/

/-- The sources of an output, in the order in which they are looked up. -/
def lookups (output : WorkflowOutputParameter) : List String :=
  match output.outputSource with
  | .string source => [source]
  | .array sources => sources
  | .other => []

/-- The lookup of a source comes back without an error and without a value.
This is so for an optional input that was not given, and for the output of a
task that does not exist or does not have it. -/
def Missing (store : Store) (job : Job) (wi : WorkflowInstance) (source : String) : Prop :=
  match getCWLSource store job wi source with
  | .ok fetched => fetched.obj = none
  | .error _ => False

/-- The last source of the outputs is not missing, or no source is looked up but a sub-workflow is.
-/
def LastFound (store : Store) (job : Job) (wi : WorkflowInstance) (workflow : Workflow) : Prop :=
  match (workflow.outputs.flatMap lookups).getLast? with
  | some source => ¬Missing store job wi source
  | none => wi.subworkflows ≠ []

section

variable {types : Types} {store : Store} {job : Job} {wi : WorkflowInstance}

theorem lastFound_append {ok : Bool} (front back : List String) :
    lastFound store job wi ok (front ++ back) = lastFound store job wi
        (lastFound store job wi ok front) back := by
  unfold lastFound
  rw [List.getLast?_append]
  cases back.getLast? with
  | none => rfl
  | some last => rfl

/-- The loop leaves in `ok` what the last lookup of all did. -/
theorem lookedAfter_ok (outputs : List WorkflowOutputParameter) (looked : Looked) :
    (outputs.foldl (lookedAfter store job wi) looked).ok =
      lastFound store job wi looked.ok (outputs.flatMap lookups) := by
  induction outputs generalizing looked with
  | nil => rfl
  | cons output rest inductionHypothesis =>
      rw [List.foldl_cons, inductionHypothesis, List.flatMap_cons, lastFound_append]
      apply congrArg fun ok => lastFound store job wi ok (rest.flatMap lookups)
      unfold lookedAfter lookups
      cases output.outputSource with
      | string source =>
          change (lookedUp store wi source (valueOf store job wi source)).ok =
              (valueOf store job wi source).isSome
          cases valueOf store job wi source with
          | none => rfl
          | some value => rfl
      | array sources => rfl
      | other => rfl

theorem valueOf_isSome_iff {expected : List CWLType} {source : String}
    (usable : ¬Unusable types store job wi expected source) :
    (valueOf store job wi source).isSome = true ↔ ¬Missing store job wi source := by
  unfold Unusable at usable
  unfold valueOf Missing
  cases fetches : getCWLSource store job wi source with
  | error err =>
      rw [fetches] at usable
      exact absurd trivial usable
  | ok fetched =>
      dsimp only
      cases fetched.obj with
      | none => exact iff_of_false Bool.false_ne_true (not_not.mpr rfl)
      | some value => exact iff_of_true rfl (Option.some_ne_none value)

theorem usable_of_lookup {output : WorkflowOutputParameter} {source : String}
    (member : source ∈ lookups output) (accepted : ¬Refused types store job wi output) :
    ¬Unusable types store job wi (declared types job output) source := by
  unfold Refused at accepted
  unfold lookups at member
  cases isSource : output.outputSource with
  | other =>
      rw [isSource] at member
      exact absurd member List.not_mem_nil
  | string single =>
      rw [isSource] at member accepted
      rw [List.mem_singleton.mp member]
      exact fun unusable => accepted (Or.inr (Or.inr (Or.inr unusable)))
  | array sources =>
      rw [isSource] at member accepted
      exact fun unusable => accepted (Or.inr (Or.inr (Or.inr (Or.inl ⟨source, member, unusable⟩))))

/-- What is left in `ok` when the outputs have been collected. -/
theorem looked_iff_lastFound {workflow : Workflow} {outputs : JobDocument} {looked : Looked}
    (defined : WorkflowContext.getWorkflow job.context wi.workflowDefinition = .ok workflow)
    (collected : collect types store job wi = .ok (outputs, looked)) :
    looked.ok = true ↔ LastFound store job wi workflow := by
  rcases @collect_cases types store job wi workflow defined with
      ⟨_, err, fails⟩ | ⟨accepted, document, ends, _⟩
  · rw [fails] at collected
    cases collected
  rw [ends] at collected
  cases collected
  rw [lookedAfter_ok, lastFound, LastFound]
  cases last : (workflow.outputs.flatMap lookups).getLast? with
  | some source =>
      rcases List.mem_flatMap.mp (List.mem_of_getLast? last) with ⟨output, isOutput, member⟩
      exact valueOf_isSome_iff (usable_of_lookup member (accepted output isOutput))
  | none =>
      unfold WorkflowInstance.looked
      cases wi.subworkflows with
      | nil => exact iff_of_false Bool.false_ne_true (not_not.mpr rfl)
      | cons first others => exact iff_of_true rfl (List.cons_ne_nil first others)

/-- What is fetched from a sub-workflow is there: without it the lookup is an error. -/
theorem fetchedOfWorkflow_found {stepName outputName : String} {fetched : Fetched}
    (done : getCWLSourceFromStepOutputWorkflow job wi stepName outputName = .ok fetched) :
    fetched.obj ≠ none := by
  unfold getCWLSourceFromStepOutputWorkflow at done
  dsimp only at done
  cases found : job.instances.lookup (wi.localID ++ "/" ++ stepName) with
  | none =>
      rw [found] at done
      cases done
  | some subwi =>
      rw [found] at done
      dsimp only at done
      by_cases opened : subwi.state ≠ .completed
      · rw [if_pos opened] at done
        cases done
      · rw [if_neg opened] at done
        cases entered : subwi.outputs.find? fun entry => base entry.1 = outputName with
        | none =>
            rw [entered] at done
            cases done
        | some entry =>
            rw [entered] at done
            cases done
            exact Option.some_ne_none _

/-- Closing another instance and counting steps makes no source missing, and
none found: the output of a sub-workflow is found or an error. -/
theorem missing_iff_later {later : Store} {instances : GoMap String WorkflowInstance}
    {remainSteps : Int} (sameTasks : later.task = store.task) {source : String} :
    Missing later { job with instances } { wi with remainSteps } source ↔
    Missing store job wi source := by
  unfold Missing getCWLSource
  cases readSource source with
  | error err => exact Iff.rfl
  | ok kind =>
      cases kind with
      | workflowInput inputName => exact Iff.rfl
      | stepOutput stepName outputName =>
          dsimp only
          unfold getCWLSourceFromStepOutput
          dsimp only
          by_cases based : base outputName ≠ outputName
          · rw [if_pos based, if_pos based]
          rw [if_neg based, if_neg based]
          cases WorkflowContext.getWorkflow job.context wi.workflowDefinition with
          | error err => exact Iff.rfl
          | ok workflow =>
              dsimp only
              cases workflow.getStep stepName with
              | error err => exact Iff.rfl
              | ok step =>
                  dsimp only
                  have tool : getCWLSourceFromStepOutputTool later { wi with remainSteps }
                      stepName outputName =
                      getCWLSourceFromStepOutputTool store wi stepName outputName := by
                    unfold getCWLSourceFromStepOutputTool Store.getTask
                    rw [sameTasks]
                  cases step.getProcessType job.context with
                  | error err => exact Iff.rfl
                  | ok processType =>
                      cases processType with
                      | commandLineTool => exact iff_of_eq (by rw [tool])
                      | expressionTool => exact iff_of_eq (by rw [tool])
                      | workflow =>
                          refine iff_of_false ?_ ?_
                          · cases fetched : getCWLSourceFromStepOutputWorkflow
                              { job with instances }
                                { wi with remainSteps } stepName outputName with
                            | error err => exact id
                            | ok entry => exact fetchedOfWorkflow_found fetched
                          · cases fetched : getCWLSourceFromStepOutputWorkflow job wi stepName
                              outputName with
                            | error err => exact id
                            | ok entry => exact fetchedOfWorkflow_found fetched

theorem lastFound_iff_later {later : Store} {instances : GoMap String WorkflowInstance}
    {remainSteps : Int} {workflow : Workflow} (sameTasks : later.task = store.task) :
    LastFound later { job with instances } { wi with remainSteps } workflow ↔
    LastFound store job wi workflow := by
  unfold LastFound
  cases (workflow.outputs.flatMap lookups).getLast? with
  | none => exact Iff.rfl
  | some source => exact not_congr (missing_iff_later sameTasks)

end

/-! ## Telling the parent -/

/-- Telling what is above comes to an end without an error: the main instance of a job that is not
completed, or an instance whose parent has other steps left. -/
def EndsHere (qm : ServerMgr) (jobid localID : String) (job : Job) : Prop :=
  if localID = job.entrypoint then job.state ≠ .completed
  else Store.parentID localID ≠ "" ∧ Exists fun above =>
    qm.store.instanceOf jobid (Store.parentID localID) = some above ∧ above.remainSteps + -1 > 0

/-- The parent has no step left, and is called. -/
def CallsParent (qm : ServerMgr) (jobid localID : String) (job : Job) : Prop :=
  localID ≠ job.entrypoint ∧ Store.parentID localID ≠ "" ∧ Exists fun above =>
    qm.store.instanceOf jobid (Store.parentID localID) = some above ∧ ¬above.remainSteps + -1 > 0

/-- The server with the counter of the parent counted down. -/
def countedDown (qm : ServerMgr) (jobid localID : String) : ServerMgr :=
  { qm with store := qm.store.incrementRemainSteps jobid (Store.parentID localID) (-1) }

section

variable {qm : ServerMgr} {jobid localID : String} {job : Job} {looked : Looked}

theorem finalizeJob_silent_iff (loaded : qm.store.jobs.lookup jobid = some job) :
    (qm.finalizeJob jobid).2 = none ↔ job.state ≠ .completed := by
  unfold ServerMgr.finalizeJob
  rw [loaded]
  dsimp only
  by_cases completed : job.state = .completed
  · rw [if_pos completed]
    exact iff_of_false nofun fun opened => opened completed
  · rw [if_neg completed]
    exact iff_of_true rfl completed

/-- The answer when nothing more is called. -/
theorem notifyParent_none (loaded : qm.store.jobs.lookup jobid = some job) {last : ServerMgr}
    {closing : Closing} (notified : qm.notifyParent jobid localID looked = (last, closing, none)) :
    closing.ok = looked.ok ∧ (closing.err = none -> EndsHere qm jobid localID job) := by
  unfold ServerMgr.notifyParent at notified
  rw [loaded] at notified
  unfold EndsHere
  dsimp only at notified
  by_cases main : localID = job.entrypoint
  · rw [if_pos main] at notified
    rw [if_pos main]
    have silent := @finalizeJob_silent_iff qm jobid job loaded
    cases finalized : qm.finalizeJob jobid with
    | mk after err =>
        rw [finalized] at notified silent
        cases err with
        | none =>
            cases notified
            exact ⟨rfl, fun _ => silent.mp rfl⟩
        | some err =>
            cases notified
            exact ⟨rfl, nofun⟩
  · rw [if_neg main] at notified
    rw [if_neg main]
    by_cases parentless : Store.parentID localID = ""
    · rw [if_pos parentless] at notified
      cases notified
      exact ⟨rfl, nofun⟩
    · rw [if_neg parentless] at notified
      cases found : qm.store.instanceOf jobid (Store.parentID localID) with
      | none =>
          rw [found] at notified
          cases notified
          exact ⟨rfl, nofun⟩
      | some above =>
          rw [found] at notified
          dsimp only at notified
          by_cases steps : above.remainSteps + -1 > 0
          · rw [if_pos steps] at notified
            cases notified
            exact ⟨rfl, fun _ => ⟨parentless, above, rfl, steps⟩⟩
          · rw [if_neg steps] at notified
            cases notified

/-- The answer when the parent is called. -/
theorem notifyParent_some (loaded : qm.store.jobs.lookup jobid = some job) {between : ServerMgr}
    {closing : Closing} {parent : String}
    (notified : qm.notifyParent jobid localID looked = (between, closing, some parent)) :
    parent = Store.parentID localID ∧ between = countedDown qm jobid localID ∧
    CallsParent qm jobid localID job := by
  unfold ServerMgr.notifyParent at notified
  rw [loaded] at notified
  dsimp only at notified
  by_cases main : localID = job.entrypoint
  · rw [if_pos main] at notified
    cases finalized : qm.finalizeJob jobid with
    | mk after err =>
        rw [finalized] at notified
        cases err <;> cases notified
  · rw [if_neg main] at notified
    by_cases parentless : Store.parentID localID = ""
    · rw [if_pos parentless] at notified
      cases notified
    · rw [if_neg parentless] at notified
      cases found : qm.store.instanceOf jobid (Store.parentID localID) with
      | none =>
          rw [found] at notified
          cases notified
      | some above =>
          rw [found] at notified
          dsimp only at notified
          by_cases steps : above.remainSteps + -1 > 0
          · rw [if_pos steps] at notified
            cases notified
          · rw [if_neg steps] at notified
            cases notified
            exact ⟨rfl, rfl, main, parentless, above, found, steps⟩

theorem notifyParent_calls (loaded : qm.store.jobs.lookup jobid = some job)
    (calls : CallsParent qm jobid localID job) :
    qm.notifyParent jobid localID looked =
      (countedDown qm jobid localID, ⟨looked, none⟩, some (Store.parentID localID)) := by
  rcases calls with ⟨inner, hasParent, above, found, steps⟩
  unfold ServerMgr.notifyParent
  rw [loaded]
  dsimp only
  rw [if_neg inner, if_neg hasParent, found]
  dsimp only
  rw [if_neg steps]
  rfl

/-- Closing the instance leaves the job and all counters as they are. -/
theorem closed_job {outputs : JobDocument} (loaded : qm.store.jobs.lookup jobid = some job) :
    Exists fun instances => (closed qm jobid localID outputs).store.jobs.lookup jobid = some
        { job with instances } := by
  rcases Store.modifyInstance_job loaded localID (fun wi => { wi with outputs }) with
      ⟨between, written⟩
  rcases Store.modifyInstance_job written localID (fun wi => { wi with state := .completed }) with
      ⟨instances, done⟩
  exact ⟨instances, done⟩

theorem closed_counter_iff {outputs : JobDocument} {name : String} {test : Int -> Prop} :
    (Exists fun above => (closed qm jobid localID outputs).store.instanceOf jobid
        name = some above ∧
      test above.remainSteps) ↔
    Exists fun above => qm.store.instanceOf jobid name = some above ∧ test above.remainSteps := by
  unfold closed Store.setInstanceState
  dsimp only
  rw [Store.instanceOf_modifyInstance, Store.instanceOf_modifyInstance,
      Store.instanceOf_modifyInstance]
  by_cases itself : name = localID
  · rw [if_pos ⟨rfl, itself⟩, if_pos ⟨rfl, rfl⟩, itself]
    cases qm.store.instanceOf jobid localID with
    | none => exact iff_of_false (fun ⟨_, found, _⟩ => (nomatch found)) fun ⟨_, found, _⟩ =>
        (nomatch found)
    | some wi =>
        constructor
        · rintro ⟨above, found, holds⟩
          cases found
          exact ⟨wi, rfl, holds⟩
        · rintro ⟨above, found, holds⟩
          cases found
          exact ⟨_, rfl, holds⟩
  · rw [if_neg fun both => itself both.2, if_neg fun both => itself both.2]

theorem endsHere_closed_iff {outputs : JobDocument} {instances : GoMap String WorkflowInstance} :
    EndsHere (closed qm jobid localID outputs) jobid localID { job with instances } ↔
      EndsHere qm jobid localID job := by
  unfold EndsHere
  rw [@closed_counter_iff qm jobid localID outputs (Store.parentID localID) fun steps =>
      steps + -1 > 0]

theorem callsParent_closed_iff {outputs : JobDocument} {instances : GoMap String WorkflowInstance} :
    CallsParent (closed qm jobid localID outputs) jobid localID { job with instances } ↔
      CallsParent qm jobid localID job := by
  unfold CallsParent
  rw [@closed_counter_iff qm jobid localID outputs (Store.parentID localID) fun steps =>
      ¬steps + -1 > 0]

end

/-! ## The call -/

section

variable {types : Types} {qm : ServerMgr} {jobid localID : String} {job : Job}
    {wi : WorkflowInstance}
  {workflow : Workflow} {outputs : JobDocument} {looked : Looked}

/-- The call closes the instance: nothing is open in it, its outputs can be collected, and its
counter agrees. -/
structure Closes (types : Types) (qm : ServerMgr) (jobid localID : String) (job : Job)
    (wi : WorkflowInstance) (workflow : Workflow) (outputs : JobDocument) (looked : Looked) :
    Prop extends Ready qm jobid localID job wi where
  defined : WorkflowContext.getWorkflow job.context wi.workflowDefinition = .ok workflow
  collected : collect types qm.store job wi = .ok (outputs, looked)
  counted : ¬wi.remainSteps > 0

/-- How the call goes on when it has closed the instance. -/
theorem Closes.call (closes : Closes types qm jobid localID job wi workflow outputs looked)
    (depth : Nat) :
    ServerMgr.completeSubworkflow (collect types) (depth + 1) qm jobid localID =
      match (closed qm jobid localID outputs).notifyParent jobid localID looked with
      | (qm, closing, none) => .ok (qm, closing)
      | (qm, _, some parent) =>
          match ServerMgr.completeSubworkflow (collect types) depth qm jobid parent with
          | .error halt => .error halt
          | .ok (qm, ⟨⟨parentOk, parentResult⟩, none⟩) =>
              if parentOk then .ok (qm, ⟨{ looked with ok := true }, none⟩)
              else
                .ok (qm, ⟨{ looked with ok := false }, some ("(completeSubworkflow) " ++
                  "qm.completeSubworkflow could not complete, reason: " ++ parentResult)⟩)
          | .ok (qm, ⟨⟨parentOk, _⟩, some err⟩) =>
              .ok (qm, ⟨{ looked with ok := parentOk }, some ("(completeSubworkflow) " ++
                "recursive call of qm.completeSubworkflow returned: " ++ err)⟩) := by
  rw [ServerMgr.completeSubworkflow, closes.loaded, closes.found]
  dsimp only
  rw [if_neg closes.opened, closes.free]
  dsimp only
  rw [closes.defined]
  dsimp only
  rw [closes.collected]
  dsimp only
  rw [if_neg closes.counted]
  rfl

theorem Closes.own (closes : Closes types qm jobid localID job wi workflow outputs looked) :
    (closed qm jobid localID outputs).store.instanceOf jobid localID =
      some { wi with outputs, state := .completed } := by
  unfold closed Store.setInstanceState
  rw [Store.instanceOf_modifyInstance, if_pos ⟨rfl, rfl⟩, Store.instanceOf_modifyInstance,
      if_pos ⟨rfl, rfl⟩,
    closes.found]
  rfl

/-- The ways in which the call returns without an error. -/
theorem returns_cases {depth : Nat} {last : ServerMgr} {closing : Closing}
    (returned : ServerMgr.completeSubworkflow (collect types) (depth + 1) qm jobid localID = .ok
    (last, closing))
    (silent : closing.err = none) :
    Exists fun job => Exists fun wi => qm.store.jobs.lookup jobid = some job ∧
      qm.store.instanceOf jobid localID = some wi ∧
      ((wi.state = .completed ∧ closing.ok = true ∧
          last.store.instanceCompleted jobid localID = true) ∨
      (qm.store.blocked jobid wi ≠ none ∧ closing.ok = false ∧
        last.store.instanceCompleted jobid localID = false) ∨
      Exists fun workflow => Exists fun outputs => Exists fun looked =>
        Closes types qm jobid localID job wi workflow outputs looked) := by
  rw [ServerMgr.completeSubworkflow] at returned
  split at returned
  · next job wi loaded present =>
      refine ⟨job, wi, loaded, present, ?_⟩
      have state : qm.store.instanceCompleted jobid localID = decide (wi.state = .completed) := by
        unfold Store.instanceCompleted
        rw [present]
      by_cases completed : wi.state = .completed
      · rw [if_pos completed] at returned
        cases returned
        exact Or.inl ⟨completed, rfl, state.trans (decide_eq_true completed)⟩
      rw [if_neg completed] at returned
      cases free : qm.store.blocked jobid wi with
      | some reason =>
          rw [free] at returned
          cases returned
          exact Or.inr (Or.inl
              ⟨Option.some_ne_none _, rfl, state.trans (decide_eq_false completed)⟩)
      | none =>
          rw [free] at returned
          dsimp only at returned
          cases defined : WorkflowContext.getWorkflow job.context wi.workflowDefinition with
          | error err =>
              rw [defined] at returned
              cases returned
              cases silent
          | ok workflow =>
              rw [defined] at returned
              dsimp only at returned
              cases collected : collect types qm.store job wi with
              | error err =>
                  rw [collected] at returned
                  cases returned
                  cases silent
              | ok result =>
                  rcases result with ⟨outputs, looked⟩
                  rw [collected] at returned
                  dsimp only at returned
                  by_cases counted : wi.remainSteps > 0
                  · rw [if_pos counted] at returned
                    cases returned
                    cases silent
                  · exact Or.inr (Or.inr
                      ⟨workflow, outputs, looked, ⟨loaded, present, completed, free⟩,
                      defined, collected, counted⟩)
  · cases returned
    cases silent

/-- A call that closes the instance leaves it completed. -/
theorem Closes.completes (closes : Closes types qm jobid localID job wi workflow outputs looked)
    {depth : Nat} {last : ServerMgr} {closing : Closing}
    (returned : ServerMgr.completeSubworkflow (collect types) (depth + 1) qm jobid localID = .ok
    (last, closing)) :
    last.store.instanceCompleted jobid localID = true := by
  have completed {server : ServerMgr} {after : WorkflowInstance}
      (present : server.store.instanceOf jobid localID = some after)
          (state : after.state = .completed) :
      server.store.instanceCompleted jobid localID = true := by
    unfold Store.instanceCompleted
    rw [present]
    exact decide_eq_true state
  rw [closes.call] at returned
  rcases @notifyParent_keeps (closed qm jobid localID outputs) jobid localID localID looked
      _ closes.own with
    ⟨after, present, _, state⟩
  rcases notified : (closed qm jobid localID outputs).notifyParent jobid localID looked with
      ⟨between, answer, next⟩
  rw [notified] at returned present
  cases next with
  | none =>
      cases returned
      exact completed present state
  | some parent =>
      dsimp only at returned present
      cases called : ServerMgr.completeSubworkflow (collect types) depth between jobid parent with
      | error halt =>
          rw [called] at returned
          cases returned
      | ok result =>
          rcases result with ⟨final, ⟨parentOk, reason⟩, err⟩
          rcases completeSubworkflow_keeps (collect types) depth between parent final _ after called
              present state with
            ⟨done, presentLater, _, stateLater⟩
          have same : last = final := by
            rw [called] at returned
            cases err with
            | some err => cases returned; rfl
            | none => cases parentOk <;> (cases returned; rfl)
          rw [same]
          exact completed presentLater stateLater

end

/-! ## What is reported -/

/-- The call returns without an error. -/
def Quiet (types : Types) (depth : Nat) (qm : ServerMgr) (jobid localID : String) : Prop :=
  Exists fun last => Exists fun closing =>
    ServerMgr.completeSubworkflow (collect types) depth qm jobid localID = .ok (last, closing) ∧
        closing.err = none

/-- A call that returns without an error answers `ok` exactly if the instance is completed then.
The call for the instance below goes by this answer. -/
def ReportsTruly (types : Types) (depth : Nat) (qm : ServerMgr) (jobid localID : String) : Prop :=
  forall last closing, ServerMgr.completeSubworkflow (collect types) depth qm jobid localID = .ok
      (last, closing) ->
    closing.err = none -> (closing.ok = true ↔ last.store.instanceCompleted jobid localID = true)

/-- The call closes the instance and goes on to the parent, and the recursive call returns without
an error and leaves the parent completed. It is the case in which the answer of one call becomes
the answer of another. -/
def CompletesParent (types : Types) (depth : Nat) (qm : ServerMgr) (jobid localID : String) :
    Prop :=
  Exists fun job => Exists fun wi => Exists fun workflow => Exists fun outputs =>
      Exists fun looked =>
  Exists fun last => Exists fun answer =>
    Closes types qm jobid localID job wi workflow outputs looked ∧
        CallsParent qm jobid localID job ∧
    ServerMgr.completeSubworkflow (collect types) depth
        (countedDown (closed qm jobid localID outputs) jobid localID)
      jobid (Store.parentID localID) = .ok (last, answer) ∧ answer.err = none ∧
    last.store.instanceCompleted jobid (Store.parentID localID) = true

/-- An instance that is open and has no open step, and with which the chain of closed instances
ends, has found the last of its sources. -/
def LastFoundAtEnd (qm : ServerMgr) (jobid localID : String) : Prop :=
  forall job wi workflow, qm.store.jobs.lookup jobid = some job ->
      qm.store.instanceOf jobid localID = some wi ->
    WorkflowContext.getWorkflow job.context wi.workflowDefinition = .ok workflow ->
        wi.state ≠ .completed ->
    qm.store.blocked jobid wi = none -> EndsHere qm jobid localID job ->
        LastFound qm.store job wi workflow

/-- As `EndsHere`, for the parent of an instance that is about to be closed and counted.  Only an
instance with the name `/` is its own parent, and would be counted twice. -/
def EndsAbove (qm : ServerMgr) (jobid localID : String) (job : Job) : Prop :=
  let parent := Store.parentID localID
  if parent = job.entrypoint then job.state ≠ .completed
  else Store.parentID parent ≠ "" ∧ Exists fun above =>
      qm.store.instanceOf jobid (Store.parentID parent) = some above ∧
    above.remainSteps + (if Store.parentID parent = parent then -2 else -1) > 0

/-- A parent that is open, and with which the chain of closed instances ends, has found the last of
its sources. -/
def LastFoundAbove (qm : ServerMgr) (jobid localID : String) : Prop :=
  forall job parent workflow, qm.store.jobs.lookup jobid = some job ->
      Store.parentID localID ≠ localID ->
    qm.store.instanceOf jobid (Store.parentID localID) = some parent ->
    WorkflowContext.getWorkflow job.context parent.workflowDefinition = .ok workflow ->
        parent.state ≠ .completed ->
    EndsAbove qm jobid localID job -> LastFound qm.store job parent workflow

section

variable {types : Types} {qm : ServerMgr} {jobid localID : String}

/-- A call that returns without an error reports truly exactly if the last lookup at the end of the
chain has succeeded. -/
theorem reports_iff {depth : Nat} {last : ServerMgr} {closing : Closing}
    (returned : ServerMgr.completeSubworkflow (collect types) (depth + 1) qm jobid localID = .ok
    (last, closing))
    (silent : closing.err = none) :
    (closing.ok = true ↔ last.store.instanceCompleted jobid localID = true) ↔
    LastFoundAtEnd qm jobid localID := by
  rcases returns_cases returned silent with ⟨job, wi, loaded, present, ways⟩
  have own (other : Job) (another : WorkflowInstance)
      (isJob : qm.store.jobs.lookup jobid = some other)
      (isInstance : qm.store.instanceOf jobid localID = some another) : other = job ∧
      another = wi :=
    ⟨Option.some_injective _ (isJob.symm.trans loaded), Option.some_injective _
        (isInstance.symm.trans present)⟩
  rcases ways with ⟨completed, ok, done⟩ | ⟨waits, ok, opened⟩ | ⟨workflow, outputs, looked, closes⟩
  · refine iff_of_true (iff_of_true ok done) fun other another _ isJob isInstance _ stillOpen _ _ =>
      ?_
    rw [(own other another isJob isInstance).2] at stillOpen
    exact absurd completed stillOpen
  · refine iff_of_true (by rw [ok, opened]) fun other another _ isJob isInstance _ _ free _ => ?_
    rw [(own other another isJob isInstance).2] at free
    exact absurd free waits
  · have completed := closes.completes returned
    rcases @closed_job qm jobid localID job outputs closes.loaded with ⟨instances, loadedLater⟩
    rw [closes.call] at returned
    rcases notified : (closed qm jobid localID outputs).notifyParent jobid localID looked with
        ⟨between, answer, next⟩
    rw [notified] at returned
    cases next with
    | none =>
        cases returned
        rcases notifyParent_none loadedLater notified with ⟨same, ends⟩
        have endsHere := endsHere_closed_iff.mp (ends silent)
        rw [same, looked_iff_lastFound closes.defined closes.collected]
        refine ⟨fun truly other another _ isJob isInstance isDefined _ _ _ =>
            ?_, fun lastFound => ?_⟩
        · rcases own other another isJob isInstance with ⟨rfl, rfl⟩
          rw [closes.defined] at isDefined
          cases isDefined
          exact truly.mpr completed
        · exact iff_of_true (lastFound job wi workflow loaded present closes.defined closes.opened
            closes.free endsHere)
            completed
    | some parent =>
        have calls := callsParent_closed_iff.mp (notifyParent_some loadedLater notified).2.2
        have goesOn : LastFoundAtEnd qm jobid localID := by
          intro other another _ isJob isInstance _ _ _ ends
          rw [(own other another isJob isInstance).1] at ends
          rcases calls with ⟨inner, _, above, found, steps⟩
          rw [EndsHere, if_neg inner] at ends
          rcases ends with ⟨_, same, foundSame, others⟩
          rw [found] at foundSame
          cases foundSame
          exact absurd others steps
        refine iff_of_true (iff_of_true ?_ completed) goesOn
        dsimp only at returned
        cases called : ServerMgr.completeSubworkflow (collect types) depth between jobid parent with
        | error halt =>
            rw [called] at returned
            cases returned
        | ok result =>
            rcases result with ⟨final, ⟨parentOk, reason⟩, err⟩
            rw [called] at returned
            cases err with
            | some err =>
                cases returned
                cases silent
            | none =>
                cases parentOk with
                | true =>
                    cases returned
                    rfl
                | false =>
                    cases returned
                    cases silent

/-- The call that goes on to the parent, in terms of the call for the parent. -/
theorem Closes.call_parent {job : Job} {wi : WorkflowInstance} {workflow : Workflow}
    {outputs : JobDocument} {looked : Looked}
    (closes : Closes types qm jobid localID job wi workflow outputs looked)
    (calls : CallsParent qm jobid localID job) {depth : Nat} {last : ServerMgr} {answer : Closing}
    (called : ServerMgr.completeSubworkflow (collect types) depth
      (countedDown (closed qm jobid localID outputs) jobid localID) jobid (Store.parentID localID) =
      .ok (last, answer))
    (silent : answer.err = none) :
    Exists fun closing => ServerMgr.completeSubworkflow (collect types)
        (depth + 1) qm jobid localID =
      .ok (last, closing) ∧ (closing.err = none ↔ answer.ok = true) := by
  rcases @closed_job qm jobid localID job outputs closes.loaded with ⟨instances, loaded⟩
  rw [closes.call, notifyParent_calls loaded (callsParent_closed_iff.mpr calls)]
  dsimp only
  rw [called]
  rcases answer with ⟨⟨parentOk, reason⟩, err⟩
  cases silent
  cases parentOk with
  | true => exact ⟨_, rfl, iff_of_true rfl rfl⟩
  | false => exact ⟨_, rfl, iff_of_false (Option.some_ne_none _) Bool.false_ne_true⟩

/-- The record of an instance other than the closed one, when the parent has been counted down. -/
theorem instanceOf_countedDown {outputs : JobDocument} {name : String} (other : name ≠ localID) :
    (countedDown (closed qm jobid localID outputs) jobid localID).store.instanceOf jobid name =
      (qm.store.instanceOf jobid name).map fun wi =>
        { wi with remainSteps := wi.remainSteps + if name = Store.parentID localID then -1 else 0 } := by
  have before : (closed qm jobid localID outputs).store.instanceOf jobid name = qm.store.instanceOf
      jobid name := by
    unfold closed Store.setInstanceState
    rw [Store.instanceOf_modifyInstance, if_neg fun both => other both.2,
        Store.instanceOf_modifyInstance,
      if_neg fun both => other both.2]
  unfold countedDown Store.incrementRemainSteps
  rw [Store.instanceOf_modifyInstance, before]
  by_cases parent : name = Store.parentID localID
  · rw [if_pos ⟨rfl, parent⟩, if_pos parent, <- parent, before]
  · rw [if_neg fun both => parent both.2, if_neg parent]
    cases qm.store.instanceOf jobid name with
    | none => rfl
    | some wi =>
        rw [Option.map_some, Int.add_zero]

/-- Whether the chain ends with the parent can be read off the counters before the call. -/
theorem endsHere_above_iff {outputs : JobDocument} {job : Job}
    {instances : GoMap String WorkflowInstance} :
    EndsHere (countedDown (closed qm jobid localID outputs) jobid localID) jobid
        (Store.parentID localID)
      { job with instances } ↔ EndsAbove qm jobid localID job := by
  unfold EndsHere EndsAbove
  dsimp only
  by_cases main : Store.parentID localID = job.entrypoint
  · rw [if_pos main, if_pos main]
  rw [if_neg main, if_neg main]
  apply and_congr_right
  intro _
  have counters : ((countedDown (closed qm jobid localID outputs) jobid localID).store.instanceOf
      jobid
        (Store.parentID (Store.parentID localID))).map WorkflowInstance.remainSteps =
      (qm.store.instanceOf jobid (Store.parentID (Store.parentID localID))).map fun wi =>
        wi.remainSteps + if Store.parentID (Store.parentID localID) = Store.parentID localID then
            -1 else 0 := by
    unfold countedDown Store.incrementRemainSteps closed Store.setInstanceState
    simp only [Store.instanceOf_modifyInstance]
    generalize Store.parentID (Store.parentID localID) = name
    generalize Store.parentID localID = parent
    by_cases itself : name = localID
    · subst itself
      by_cases same : name = parent
      · subst same
        simp [Option.map_map, Function.comp_def]
      · simp [same, Option.map_map, Function.comp_def]
    · by_cases same : name = parent
      · subst same
        simp [itself, Option.map_map, Function.comp_def]
      · simp [itself, same]
  constructor
  · rintro ⟨above, found, steps⟩
    rw [found] at counters
    rcases Option.map_eq_some_iff.mp counters.symm with ⟨before, present, same⟩
    refine ⟨before, present, ?_⟩
    by_cases twice : Store.parentID (Store.parentID localID) = Store.parentID localID
    · simp only [if_pos twice] at same ⊢
      omega
    · simp only [if_neg twice] at same ⊢
      omega
  · rintro ⟨before, present, steps⟩
    rw [present] at counters
    rcases Option.map_eq_some_iff.mp counters with ⟨above, found, same⟩
    refine ⟨above, found, ?_⟩
    by_cases twice : Store.parentID (Store.parentID localID) = Store.parentID localID
    · simp only [if_pos twice] at same steps
      omega
    · simp only [if_neg twice] at same steps
      omega

/-- The condition for the recursive call, where the parent can be completed, in terms of the state
before the call. -/
theorem lastFoundAtEnd_above_iff {depth : Nat} {job : Job} {wi : WorkflowInstance}
    {workflow : Workflow} {outputs : JobDocument} {looked : Looked} {last : ServerMgr}
    {answer : Closing} (closes : Closes types qm jobid localID job wi workflow outputs looked)
    (called : ServerMgr.completeSubworkflow (collect types) (depth + 1)
      (countedDown (closed qm jobid localID outputs) jobid localID) jobid (Store.parentID localID) =
      .ok (last, answer))
    (silent : answer.err = none)
    (completed : last.store.instanceCompleted jobid (Store.parentID localID) = true) :
    LastFoundAtEnd (countedDown (closed qm jobid localID outputs) jobid localID) jobid
        (Store.parentID localID) ↔
      LastFoundAbove qm jobid localID := by
  rcases @closed_job qm jobid localID job outputs closes.loaded with ⟨between, loaded⟩
  rcases Store.modifyInstance_job loaded (Store.parentID localID)
      (fun wi => { wi with remainSteps := wi.remainSteps + -1 })
    with ⟨instances, loadedLater⟩
  change (countedDown (closed qm jobid localID outputs) jobid localID).store.jobs.lookup jobid =
    some { job with instances } at loadedLater
  have sameTasks : (countedDown (closed qm jobid localID outputs) jobid localID).store.task =
      qm.store.task := by
    unfold countedDown closed Store.incrementRemainSteps Store.setInstanceState
    simp only [Store.modifyInstance_task]
  have transported (parent : WorkflowInstance) (definition : Workflow) :=
    @lastFound_iff_later qm.store job parent
        (countedDown (closed qm jobid localID outputs) jobid localID).store instances
      (parent.remainSteps + -1) definition sameTasks
  by_cases itself : Store.parentID localID = localID
  · -- the instance is its own parent, and is completed by the time of the recursive call
    refine iff_of_true (fun other parent _ _ isParent _ opened _ _ => ?_) fun _ _ _ _ apart =>
        absurd itself apart
    have own : (countedDown (closed qm jobid localID outputs) jobid localID).store.instanceOf jobid
        (Store.parentID localID) = some
            { wi with outputs, state := .completed, remainSteps := wi.remainSteps + -1 } := by
      unfold countedDown Store.incrementRemainSteps
      rw [Store.instanceOf_modifyInstance, if_pos ⟨rfl, rfl⟩, itself, closes.own]
      rfl
    rw [own] at isParent
    cases isParent
    exact absurd rfl opened
  have parents := @instanceOf_countedDown qm jobid localID outputs (Store.parentID localID) itself
  rw [if_pos rfl] at parents
  constructor
  · intro lastFound other parent definition isJob _ isParent isDefined opened ends
    rw [closes.loaded] at isJob
    cases isJob
    rw [isParent, Option.map_some] at parents
    have later := lastFound _ _ definition loadedLater parents isDefined opened ?_
        (endsHere_above_iff.mpr ends)
    · exact (transported parent definition).mp later
    · -- the parent was completed by the recursive call, so that nothing was open in it
      rcases returns_cases called silent with ⟨_, _, _, isLater, ways⟩
      rw [parents] at isLater
      cases isLater
      rcases ways with ⟨done, _⟩ | ⟨_, _, stays⟩ | ⟨_, _, _, above⟩
      · exact absurd done opened
      · rw [completed] at stays
        cases stays
      · exact above.free
  · intro lastFound other parent definition isJob isParent isDefined opened _ ends
    rw [loadedLater] at isJob
    cases isJob
    rw [parents] at isParent
    rcases Option.map_eq_some_iff.mp isParent with ⟨before, present, rfl⟩
    exact (transported before definition).mpr
      (lastFound job before definition closes.loaded itself present isDefined opened
          (endsHere_above_iff.mp ends))

/-- A call of `completeSubworkflow` that returns without an error reports what it did exactly if the
last lookup at the end of the chain of closed instances has succeeded; and a call whose parent is
completed behind it returns without an error exactly if this holds for the parent. -/
theorem completeSubworkflow_reports_iff (types : Types) (depth : Nat) (qm : ServerMgr)
    (jobid localID : String) :
    (Quiet types (depth + 1) qm jobid localID ->
      (ReportsTruly types (depth + 1) qm jobid localID ↔ LastFoundAtEnd qm jobid localID)) ∧
    (CompletesParent types (depth + 1) qm jobid localID ->
      (Quiet types (depth + 2) qm jobid localID ↔ LastFoundAbove qm jobid localID)) := by
  constructor
  · rintro ⟨last, closing, returned, silent⟩
    rw [<- reports_iff returned silent]
    constructor
    · exact fun truly => truly last closing returned silent
    · intro truly other answer same _
      rw [returned] at same
      cases same
      exact truly
  · rintro ⟨job, wi, workflow, outputs, looked, last, answer, closes, calls, called,
      silent, completed⟩
    rw [<- lastFoundAtEnd_above_iff closes called silent completed, <- reports_iff called silent]
    rcases closes.call_parent calls called silent with ⟨closing, returned, answers⟩
    constructor
    · rintro ⟨other, another, same, quiet⟩
      rw [returned] at same
      cases same
      exact iff_of_true (answers.mp quiet) completed
    · exact fun truly => ⟨last, closing, returned, answers.mpr (truly.mpr completed)⟩

end

/-! ## An optional output without a source -/

/-- A type system in which an output may be null. -/
private def nullableType : Types where
  schemata _ := none
  convert _ rawType := .ok [if rawType = "null" then .null else .named rawType]
  isCorrect _ _ _ := .ok true

private def optionalOutput : WorkflowOutputParameter :=
  ⟨"#main/out", false, ["null", "File"], .string "#main/missing", ""⟩

/-- The main instance waits for one sub-workflow, and has one output. -/
private def waitingParent (inputs : JobDocument) : WorkflowInstance :=
  { WorkflowInstance.blank with
    localID := "#main"
    jobID := "j"
    state := .queued
    workflowDefinition := "#main"
    inputs := some inputs
    remainSteps := 1
    subworkflows := ["#main/s"] }

private def lastStep : WorkflowInstance :=
  { WorkflowInstance.blank with
    localID := "#main/s"
    jobID := "j"
    state := .queued
    workflowDefinition := "#sub"
    inputs := some [] }

private def optionalWorkflow : Workflow :=
  ⟨"#main", [], [⟨"#main/missing", some [.null, .named "File"]⟩], [optionalOutput]⟩

private def optionalJob (inputs : JobDocument) : Job :=
  ⟨"j", .inProgress, true, "#main", ⟨1, 0, "", false⟩, [], 0,
    AList.insert "#main" (.workflow optionalWorkflow)
        (AList.insert "#sub" (.workflow ⟨"#sub", [], [], []⟩) ∅),
    AList.insert "#main" (waitingParent inputs) (AList.insert "#main/s" lastStep ∅)⟩

private def optionalServer (inputs : JobDocument) : ServerMgr :=
  ServerMgr.newServerMgr ⟨fun _ => Task.blank, 0, AList.insert "j" (optionalJob inputs) ∅⟩

private theorem lastStep_closes (inputs : JobDocument) :
    Closes nullableType (optionalServer inputs) "j" "#main/s" (optionalJob inputs) lastStep
        ⟨"#sub", [], [], []⟩ []
      ⟨false, ""⟩ :=
  ⟨⟨rfl, rfl, by decide, rfl⟩, rfl, rfl, by decide⟩

private theorem lastStep_calls (inputs : JobDocument) :
    CallsParent (optionalServer inputs) "j" "#main/s" (optionalJob inputs) :=
  ⟨(by decide : "#main/s" ≠ "#main"),
      by decide, waitingParent inputs, rfl, (by decide : ¬(1 : Int) + -1 > 0)⟩

/-- With the optional input given, the last lookup succeeds, and both calls report truly. -/
theorem completeSubworkflow_finds_last :
    Quiet nullableType 2 (optionalServer [("missing", .string "a")]) "j" "#main/s" ∧
      ReportsTruly nullableType 2 (optionalServer [("missing", .string "a")]) "j" "#main/s" := by
  have called : Exists fun last => ServerMgr.completeSubworkflow (collect nullableType) 1
      (countedDown (closed (optionalServer [("missing", .string "a")]) "j" "#main/s" []) "j"
          "#main/s") "j" "#main" =
        .ok (last, ⟨⟨true, ""⟩, none⟩) ∧ last.store.instanceCompleted "j" "#main" = true :=
            ⟨_, rfl, rfl⟩
  rcases called with ⟨last, called, completed⟩
  have quiet : Quiet nullableType 2 (optionalServer [("missing", .string "a")]) "j" "#main/s" := by
    apply ((completeSubworkflow_reports_iff nullableType 0
        (optionalServer [("missing", .string "a")]) "j" "#main/s").2
      ⟨_, _, _, _, _, last, _, lastStep_closes _, lastStep_calls _, called, rfl, completed⟩).mpr
    intro job parent workflow isJob _ isParent isDefined _ _
    have sameJob : some (optionalJob [("missing", .string "a")]) = some job := isJob
    have sameParent : some (waitingParent [("missing", .string "a")]) = some parent := isParent
    cases sameJob
    cases sameParent
    have sameWorkflow : (Except.ok optionalWorkflow : Except String Workflow) = .ok workflow :=
        isDefined
    cases sameWorkflow
    exact Option.some_ne_none _
  refine ⟨quiet, ?_⟩
  apply ((completeSubworkflow_reports_iff nullableType 1 (optionalServer [("missing", .string "a")])
      "j" "#main/s").1
    quiet).mpr
  intro job wi workflow isJob isInstance _ _ _ ends
  have sameJob : some (optionalJob [("missing", .string "a")]) = some job := isJob
  cases sameJob
  rcases lastStep_calls [("missing", .string "a")] with ⟨inner, _, above, found, steps⟩
  rw [EndsHere, if_neg inner] at ends
  rcases ends with ⟨_, same, foundSame, others⟩
  rw [found] at foundSame
  cases foundSame
  exact absurd others steps

/-- The last step of the main instance is done, and closes it with its optional output left out: the
main instance and the job are completed, yet the call for the main instance answers that it is not
`ok`, and the call for the step reports an error. -/
theorem completeSubworkflow_forgets_ok :
    (Exists fun last => ServerMgr.completeSubworkflow (collect nullableType) 2 (optionalServer [])
        "j" "#main/s" =
        .ok (last, ⟨⟨false, ""⟩,
            some ("(completeSubworkflow) qm.completeSubworkflow could not complete, reason: " ++
          "GetSourceFromWorkflowInstanceInput returned: optional")⟩) ∧
      last.store.instanceCompleted "j" "#main" = true ∧ last.jobState "j" = some .completed) ∧
    (CompletesParent nullableType 1 (optionalServer []) "j" "#main/s" ∧
      ¬Quiet nullableType 2 (optionalServer []) "j" "#main/s") ∧
    ¬ReportsTruly nullableType 1
        (countedDown (closed (optionalServer []) "j" "#main/s" []) "j" "#main/s") "j"
      "#main" := by
  have called : Exists fun last => ServerMgr.completeSubworkflow (collect nullableType) 1
      (countedDown (closed (optionalServer []) "j" "#main/s" []) "j" "#main/s") "j" "#main" =
        .ok (last, ⟨⟨false, "GetSourceFromWorkflowInstanceInput returned: optional"⟩, none⟩) ∧
      last.store.instanceCompleted "j" "#main" = true := ⟨_, rfl, rfl⟩
  rcases called with ⟨last, called, completed⟩
  refine ⟨⟨_, rfl, rfl, rfl⟩, ⟨?_, ?_⟩, fun truly => ?_⟩
  · exact ⟨_, _, _, _, _, last, _, lastStep_closes [], lastStep_calls [], called, rfl, completed⟩
  · rintro ⟨_, _, returned, silent⟩
    cases returned
    cases silent
  · cases (truly last _ called rfl).mpr completed

end WorkflowOutputs
end Core
end Awe
