import Awe.Core.Notices
import Awe.Lib.Odometer

namespace Awe
namespace Core

open Lib Lib.Path

/-!
# Expanding a scatter step

`processInstanceEnQueueScatter` looks up the arrays behind the scattered
inputs, counts through their index tuples with a `SetCounter` and makes a task
or a workflow instance for each of them.  The child of a tuple is named after
it and reads, for every scattered input, the element at its index.  If one of
the arrays is empty there is nothing to run, and the function returns a notice
that stands for the result of the step.

Three things are decided outside.  `lookup` is `getCWLSource`, so a theorem
holds for whatever the sources are bound to.  `order` is the order in which
the `n`-th child visits the map of the scattered inputs.  `spare` is the
capacity that the Go runtime left unused behind the slice of the other inputs:
all children append to copies of that slice header, so as long as the capacity
is enough they write into one array.
-/

inductive ScatterType where
  | dot
  | cross
  deriving DecidableEq, Repr

structure SetCounter where
  counter : List Nat
  max : List Int
  numberOfSets : Nat
  scatterType : ScatterType
  deriving DecidableEq, Repr

namespace SetCounter

/-- `NewSetCounter`. -/
def new (numberOfSets : Nat) (arrays : List (List CWLValue)) (scatterType : ScatterType) :
    SetCounter where
  counter := List.replicate numberOfSets 0
  max := arrays.map fun items => (items.length : Int) - 1
  numberOfSets := numberOfSets
  scatterType := scatterType

/-- The loop of `Increment` over the positions, from the last one down. -/
def carry (max : List Int) : Nat -> List Nat -> List Nat × Bool
  | 0, counter => (counter, false)
  | position + 1, counter =>
      if (counter.getD position 0 : Int) < max.getD position 0 then
        (counter.set position (counter.getD position 0 + 1), true)
      else carry max position (counter.set position 0)

def increment (sc : SetCounter) : SetCounter × Bool :=
  match sc.scatterType with
  | .cross =>
      let carried := carry sc.max sc.numberOfSets sc.counter
      ({ sc with counter := carried.1 }, carried.2)
  | .dot =>
      if (sc.counter.getD 0 0 : Int) >= sc.max.getD 0 0 then (sc, false)
      else ({ sc with counter := sc.counter.map (· + 1) }, true)

/-- The counters that the loop `for counterRunning` sees. -/
def rounds (sc : SetCounter) (bound : Nat) : Option (List (List Nat)) :=
  (Odometer.visited (fun sc =>
    match increment sc with
    | (later, true) => some later
    | (_, false) => none) bound sc).map fun states => states.map counter

end SetCounter

/-- `getCWLSource`, for the workflow instance around the step. -/
abbrev SourceLookup := String -> Except String (Option CWLValue)

/-- `getCWLSourceArray` with `errorOnMissingTask`. -/
def getCWLSourceArray (lookup : SourceLookup) (sources : List String) :
    Except String (List CWLValue) :=
  sources.mapM fun src =>
    match lookup src with
    | .error err => .error ("(getCWLSourceArray) getCWLSource returned: " ++ err)
    | .ok none => .error ("(getCWLSourceArray) Source " ++ src ++ " not found")
    | .ok (some element) => .ok element

/-- The first loop over the scattered inputs: the text of the source, and the
array where the source is a list. -/
def scatterSource (lookup : SourceLookup) (step : WorkflowStep) (name : String) :
    Except String (String × List CWLValue) :=
  match step.inputs.find? fun input => base input.id = base name with
  | none =>
      .error ("(processInstanceEnQueueScatter) Input " ++ base name ++ " not found in list of " ++
        "step.Inputs (list: " ++ String.join (step.inputs.map fun input => "," ++ base input.id) ++
            ")")
  | some input =>
      match input.source with
      | some (.string source) => .ok (source, [])
      | some (.array elements) =>
          match elements.mapM id with
          | none =>
              .error "(processInstanceEnQueueScatter) element in source array is not a string"
          | some sources =>
              match getCWLSourceArray lookup sources with
              | .error err =>
                  .error ("(processInstanceEnQueueScatter) getCWLSourceArray returned: " ++ err)
              | .ok items => .ok ("_array_", items)
      | _ => .error "(processInstanceEnQueueScatter) scatterInput_source is not string"

/-- The second loop: the array behind a source, unless the first loop has it. -/
def scatterArray (lookup : SourceLookup) (name : String) (source : String × List CWLValue) :
    Except String (List CWLValue) :=
  if source.1 = "_array_" then .ok source.2
  else
    match lookup source.1 with
    | .error err => .error ("(processInstanceEnQueueScatter) getCWLSource returned: " ++ err)
    | .ok none => .error ("(processInstanceEnQueueScatter) scatterInput " ++ name ++ " not found")
    | .ok (some (.array items)) => .ok items
    | .ok (some _) =>
        .error "(processInstanceEnQueueScatter) scatterInputObject type is not *cwl.Array"

def scatterArrays (lookup : SourceLookup) (step : WorkflowStep) :
    Except String (List (List CWLValue)) :=
  match step.scatter.mapM (scatterSource lookup step) with
  | .error err => .error err
  | .ok sources => (step.scatter.zip sources).mapM fun pair => scatterArray lookup pair.1 pair.2

inductive ScatterMethod where
  | dotproduct
  | nestedCrossproduct
  | flatCrossproduct
  deriving DecidableEq, Repr

/-- The methods that the function knows; the comparison ignores case. -/
def readMethod (text : String) : Option ScatterMethod :=
  if text = "" ∨ text.toLower = "dotproduct" then some .dotproduct
  else if text.toLower = "nested_crossproduct" then some .nestedCrossproduct
  else if text.toLower = "flat_crossproduct" then some .flatCrossproduct
  else none

def ScatterMethod.scatterType : ScatterMethod -> ScatterType
  | .dotproduct => .dot
  | .nestedCrossproduct | .flatCrossproduct => .cross

/-! ## The children -/

/-- The inputs that are not scattered; each is put in front of the earlier ones. -/
def templateStepIn (step : WorkflowStep) : List WorkflowStepInput :=
  (step.inputs.filter fun input => base input.id ∉ step.scatter.map base).reverse

/-- The scattered inputs under their base names. -/
def templateScatterStepIns (step : WorkflowStep) : GoMap String WorkflowStepInput :=
  step.inputs.foldl (fun map input =>
    if base input.id ∈ step.scatter.map base then map.insert (base input.id) input else map) ∅

/-- The position of a scattered input in `Scatter`, by its base name. -/
def nameToPosition (step : WorkflowStep) : GoMap String Nat :=
  step.scatter.zipIdx.foldl (fun map entry => map.insert (base entry.1) entry.2) ∅

/-- The loop that copies the scattered inputs into the step of a child. -/
def scatterStepIns (step : WorkflowStep) (counter : List Nat) (order : List String) :
    Except String (List WorkflowStepInput) :=
  order.mapM fun inputName =>
    match (templateScatterStepIns step).lookup (base inputName) with
    | none => .error ("(processInstanceEnQueueScatter) " ++ base inputName ++
        " not in templateScatterStepIns")
    | some scatterInput =>
        match (nameToPosition step).lookup (base inputName) with
        | none => .error ("(processInstanceEnQueueScatter) " ++ base inputName ++
            " not in name_to_postiton map")
        | some inputPosition =>
            .ok { scatterInput with sourceIndex := counter.getD inputPosition 0 + 1 }

/-- The text of the indices in the name of a child. -/
def permutationInstance : List Nat -> String
  | [] => ""
  | [index] => toString index
  | index :: rest => toString index ++ "_" ++ permutationInstance rest

def scatterProcessName (basename : String) (counter : List Nat) : String :=
  basename ++ "_scatter" ++ permutationInstance counter

/-- The inputs that the children end up with.  With enough spare capacity each
child writes its scattered inputs over those of the one before. -/
def shareCapacity (spare count : Nat) (inputs : List (List WorkflowStepInput)) :
    List (List WorkflowStepInput) :=
  if count <= spare then inputs.map fun _ => inputs.getLastD [] else inputs

/-- `newProcessStep`. -/
def childStep (step : WorkflowStep) (parentIDStr name : String) (inputs : List WorkflowStepInput) :
    WorkflowStep :=
  { step with
    id := parentIDStr ++ "/" ++ name
    inputs
    scatter := [] }

/-- A process instance, as far as the function tells them apart. -/
inductive ProcessInstance where
  | task (ptr : Nat)
  | workflowInstance (localID : String)
  deriving DecidableEq, Repr

namespace Store

/-- `GetWorkflowStep`; the step of a workflow instance is set when it is made. -/
def processStep (store : Store) (jobid : String) : ProcessInstance -> Option WorkflowStep
  | .task ptr => (store.task ptr).workflowStep
  | .workflowInstance localID => (store.instanceOf jobid localID).bind WorkflowInstance.workflowStep

/-- `GetIDStr`. -/
def processIDStr (store : Store) : ProcessInstance -> String
  | .task ptr => (store.task ptr).ident.taskName
  | .workflowInstance localID => localID

end Store

/-- A round of the loop for a task. -/
def scatterTask (job : Job) (parentWiUUID parentIDStr basename : String) (step : WorkflowStep)
    (scatterParent : TaskUniqueIdentifier) (order : List String) (counter : List Nat) :
    Except String (Task × List WorkflowStepInput) :=
  match newTask job parentWiUUID parentIDStr (scatterProcessName basename counter) with
  | .error err =>
      .error ("(processInstanceEnQueueScatter) (parentIDStr=" ++ parentIDStr ++
          ") NewTask returned: " ++ err)
  | .ok subTask =>
      match scatterStepIns step counter order with
      | .error err => .error err
      | .ok inputs =>
          .ok ({ subTask.init with scatterParent := some scatterParent, processType := .normal },
            templateStepIn step ++ inputs)

/-- A round of the loop for a workflow instance; `uuid` is the one it draws. -/
def scatterInstance (job : Job) (parent : WorkflowInstance) (parentIDStr basename : String)
    (step : WorkflowStep) (scatterParent uuid : String) (order : List String) (counter : List Nat) :
    Except String (WorkflowInstance × List WorkflowStepInput) :=
  match scatterStepIns step counter order with
  | .error err => .error err
  | .ok inputs =>
      .ok ({ newWorkflowInstance uuid (joinPath parentIDStr (scatterProcessName basename counter))
          job.id
              parent.workflowDefinition with
              scatterParent
              processType := .normal },
        templateStepIn step ++ inputs)

namespace ServerMgr

/-- The last loop, for tasks. -/
def addScatterTasks (jobid localID : String) : ServerMgr -> List Task -> ServerMgr × Err
  | qm, [] => (qm, none)
  | qm, subTask :: rest =>
      let about := "(processInstanceEnQueueScatter) subProcessIDStr=" ++ subTask.ident.taskName
      match qm.store.addTask jobid localID subTask with
      | .error err => (qm, some ("(processInstanceEnQueueScatter) job.AddTask returns: " ++ err))
      | .ok (store, ptr) =>
          match { qm with store }.taskMapAdd ptr "processInstanceEnQueueScatter" with
          | (qm, some err) => (qm, some (about ++ " qm.TaskMap.Add() returns: " ++ err))
          | (qm, none) =>
              match qm.store.taskSetState ptr .ready with
              | (store, some err) =>
                  ({ qm with store }, some (about ++ " subTask.SetState returns: " ++ err))
              | (store, none) => addScatterTasks jobid localID { qm with store } rest

/-- The last loop, for workflow instances.  None of them enters `Subworkflows`. -/
def addScatterInstances (jobid : String) : ServerMgr -> List WorkflowInstance -> ServerMgr × Err
  | qm, [] => (qm, none)
  | qm, subWorkflowInstance :: rest =>
      let id := jobid ++ "_" ++ subWorkflowInstance.localID
      let qm := { qm with store := qm.store.addWorkflowInstance jobid subWorkflowInstance }
      if id ∈ qm.globalInstances then
        (qm, some ("(processInstanceEnQueueScatter) GlobalWorkflowInstanceMap.Add returned: " ++
          "(WorkflowInstanceMap/Add) workflow_instance " ++ id ++ " already in map"))
      else
        addScatterInstances jobid { qm with globalInstances := id :: qm.globalInstances } rest

/-- The workunit that stands for a step with nothing to run.  It is queued and
then marked as checked out behind the queue's back. -/
def addInternalWorkunit (qm : ServerMgr) (workunit : Workunit) : ServerMgr × Err :=
  let created := qm.cq.workQueue.alloc workunit
  let queued := (created.1.add created.2).1
  let marked := queued.setState created.2 workStatCheckout "internal processing"
  ({ qm with cq := { qm.cq with workQueue := marked.1 } }, marked.2)

/-- The branch for an empty array.  For a workflow instance a dummy task is
made first, and at the end a nil task is asked for its identifier. -/
def scatterEmpty (env : Environment) (qm : ServerMgr) (jobid : String) (job : Job)
    (step : WorkflowStep) :
    ProcessInstance -> Except Halt (ServerMgr × Option Notice × Err)
  | .task ptr =>
      match newWorkunit env qm.store (qm.store.task ptr) 0 with
      | .error err =>
          .ok (qm, none, some ("(processInstanceEnQueueScatter) Creation of fake workunit failed: " ++ err))
      | .ok workunit =>
          match qm.addInternalWorkunit workunit with
          | (qm, some err) =>
              .ok (qm, none, some ("(processInstanceEnQueueScatter) workunit.SetState returned: " ++
                  err))
          | (qm, none) =>
              .ok (qm, some
                { id := ⟨(qm.store.task ptr).ident, 0⟩
                  workerID := "_internal"
                  results := some (step.out.map fun outputID => (outputID, .array []))
                  status := workStatDone
                  computeTime := 0 }, none)
  | .workflowInstance localID =>
      match qm.store.instanceOf jobid localID with
      | none => .error .panic
      | some wi =>
          match newTask job wi.uuid (wi.jobID ++ "_" ++ wi.localID) "dummyTask" with
          | .error err =>
              .ok (qm, none, some ("(processInstanceEnQueueScatter) NewTask returned: " ++ err))
          | .ok dummyTask =>
              match qm.store.addTask jobid localID dummyTask with
              | .error err =>
                  .ok (qm, none, some ("(processInstanceEnQueueScatter) workflowInstance.AddTask returned: " ++
                    err))
              | .ok (store, ptr) =>
                  match { qm with store }.taskMapAdd ptr "processInstanceEnQueueScatter" with
                  | (qm, some err) =>
                      .ok (qm, none, some ("(processInstanceEnQueueScatter) workflowInstance.AddTask " ++
                        "returned: " ++ err))
                  | (qm, none) =>
                      match newWorkunit env qm.store (qm.store.task ptr) 0 with
                      | .error err =>
                          .ok (qm, none, some ("(processInstanceEnQueueScatter) Creation of fake workunit " ++
                            "failed: " ++ err))
                      | .ok workunit =>
                          match qm.addInternalWorkunit workunit with
                          | (qm, some err) =>
                              .ok (qm, none, some ("(processInstanceEnQueueScatter) workunit.SetState " ++
                                "returned: " ++ err))
                          | (qm, none) =>
                              match qm.store.taskSetState ptr .inProgress with
                              | (store, some err) =>
                                  .ok ({ qm with store }, none,
                                      some ("(processInstanceEnQueueScatter) " ++
                                    "dummyTask.SetState returned: " ++ err))
                              | (_, none) => .error .panic

/-- The loops that make the children and add them to the job. -/
def scatterChildren (spare : Nat) (order : Nat -> List String) (uuids : Nat -> String)
    (qm : ServerMgr) (jobid parentID : String) (job : Job) (parent : WorkflowInstance)
    (step : WorkflowStep) (counters : List (List Nat)) (process : ProcessInstance) :
    ServerMgr × Err :=
  let processStr := qm.store.processIDStr process
  let basename := base processStr
  let parentIDStr := trimSuffix processStr ("/" ++ basename)
  let children := counters.map (scatterProcessName basename)
  let count := (templateScatterStepIns step).entries.length
  if parentIDStr = processStr then
    (qm, some "(processInstanceEnQueueScatter) parentIDStr == taskID.TaskName")
  else
    match process with
    | .task ptr =>
        let ident := (qm.store.task ptr).ident
        match counters.zipIdx.mapM fun round =>
            scatterTask job parent.uuid parentIDStr basename step ident (order round.2) round.1 with
        | .error err => (qm, some err)
        | .ok made =>
            let inputs := shareCapacity spare count (made.map Prod.snd)
            let newScatterTasks := (made.zip inputs).zipWith (fun child name =>
              { child.1.1 with workflowStep := some (childStep step parentIDStr name child.2) })
                  children
            let store := qm.store.modifyTask ptr fun task =>
                { task with scatterChildren := children }
            addScatterTasks jobid parentID { qm with store } newScatterTasks
    | .workflowInstance localID =>
        match qm.store.instanceOf jobid localID with
        | none => (qm, some "(processInstanceEnQueueScatter) no workflow instance")
        | some wi =>
            match counters.zipIdx.mapM fun round =>
                scatterInstance job parent parentIDStr basename step wi.uuid (uuids round.2)
                  (order round.2) round.1 with
            | .error err => (qm, some err)
            | .ok made =>
                let inputs := shareCapacity spare count (made.map Prod.snd)
                let newScatterInstances := (made.zip inputs).zipWith (fun child name =>
                  { child.1.1 with workflowStep := some (childStep step parentIDStr name child.2) })
                      children
                addScatterInstances jobid qm newScatterInstances

/-- What a nested product does before it goes on like a flat one. -/
def suspendNested (qm : ServerMgr) (jobid : String) (process : ProcessInstance) : ServerMgr × Err :=
  let store := match process with
    | .task ptr => (qm.store.taskSetState ptr .suspend).1
    | .workflowInstance localID => qm.store.setInstanceState jobid localID .suspend
  match { qm with store }.suspendJob jobid .suspend with
  | (qm, some err) => (qm, some ("(processInstanceEnQueueScatter) qm.SuspendJob returned: " ++ err))
  | (qm, none) => (qm, none)

/-- `processInstanceEnQueueScatter`. -/
def processInstanceEnQueueScatter (env : Environment) (lookup : SourceLookup) (spare : Nat)
    (order : Nat -> List String) (uuids : Nat -> String) (qm : ServerMgr) (jobid parentID : String)
    (process : ProcessInstance) : Except Halt (ServerMgr × Option Notice × Err) :=
  match qm.store.jobs.lookup jobid, qm.store.instanceOf jobid parentID with
  | some job, some parent =>
      if parent.inputs.isNone then
        .ok (qm, none, some "(processInstanceEnQueueScatter) parentWorkflowInstance.Inputs == nil")
      else
        match qm.store.processStep jobid process with
        | none => .ok (qm, none, some "(processInstanceEnQueueScatter) cwlStep == nil")
        | some step =>
            if step.scatter = [] then
              .ok (qm, none, some "(processInstanceEnQueueScatter) cwlStep.Scatter == nil")
            else
              match scatterArrays lookup step with
              | .error err => .ok (qm, none, some err)
              | .ok arrays =>
                  match readMethod step.scatterMethod with
                  | none =>
                      .ok (qm, none, some ("(processInstanceEnQueueScatter) Scatter type " ++
                        step.scatterMethod ++ " unknown"))
                  | some method =>
                      let suspended :=
                        if method = .nestedCrossproduct then qm.suspendNested jobid process
                            else (qm, none)
                      match suspended with
                      | (qm, some err) => .ok (qm, none, some err)
                      | (qm, none) =>
                          if (templateScatterStepIns step).entries.isEmpty then
                            .ok (qm, none, some "(processInstanceEnQueueScatter) no scatter tasks found")
                          else if arrays.any List.isEmpty then
                              scatterEmpty env qm jobid job step process
                          else
                            let sets := SetCounter.new step.scatter.length arrays method.scatterType
                            match sets.rounds ((arrays.map List.length).prod + 1) with
                            | none => .error .diverges
                            | some counters =>
                                let added :=
                                  qm.scatterChildren spare order uuids jobid parentID
                                      job parent step
                                    counters process
                                .ok (added.1, none, added.2)
  | _, _ => .error .panic

end ServerMgr

end Core
end Awe
