import Awe.Core.EmptyScatter
import Awe.Core.StepInputs
import Awe.Core.WorkflowOutputs
import Mathlib.Data.List.Find

namespace Awe
namespace Core

open Lib Lib.Path Sources StepInputs WorkflowOutputs

/-!
# Lists of sources

What `GetStepInputObject` makes of an input with a list of sources, in terms of
the values of the sources, and which changes of the server leave these values
as they are.
-/

namespace ScatterMerge

/-! ## The value of an input with a list of sources -/

section

variable {js : Javascript} {store : Store} {job : Job} {wi : WorkflowInstance}

/-- The value of the list, unless it is null and there is a default. -/
theorem ownValue_array {input : StepInput} {entries : List (Option String)}
    (source : input.source = some (.array entries)) :
    ownValue js store job wi input =
      match arraySource store job wi input entries with
      | .error err => .error err
      | .ok obj => (defaultWrite js (some obj) input).map fun written =>
          some (written.getD obj) := by
  unfold ownValue getStepInputObject
  rw [source]
  dsimp only
  cases arraySource store job wi input entries with
  | error err => rfl
  | ok obj =>
      dsimp only
      rw [useDefault_eq, AList.lookup_insert]
      cases defaultWrite js (some obj) input with
      | error err => rfl
      | ok written =>
          cases written with
          | none => exact congrArg Except.ok (AList.lookup_insert _)
          | some value => exact congrArg Except.ok (AList.lookup_insert _)

/-- A default is not used for a value other than null. -/
theorem defaultWrite_present {input : StepInput} (given : input.source ≠ none) {obj : CWLValue}
    (present : obj ≠ .null) :
    defaultWrite js (some obj) input = .ok none := by
  have has : hasInput (some obj) = true := by
    cases obj with
    | null => exact absurd rfl present
    | string text => rfl
    | array items => rfl
    | other cwlClass json => rfl
  unfold defaultWrite
  rw [has, if_neg]
  rintro (missing | absent)
  · exact given missing
  · cases absent

/-- The value of a source that has one. -/
theorem listedSource_ok_iff {src : String} {obj : CWLValue} :
    listedSource store job wi (some src) = .ok obj ↔
    getCWLSource store job wi src = .ok (.value obj) := by
  unfold listedSource
  dsimp only
  cases getCWLSource store job wi src with
  | error err => exact ⟨(fun never => nomatch never), (fun never => nomatch never)⟩
  | ok fetched =>
      cases fetched with
      | value found => exact ⟨fun same => by rw [Except.ok.inj same], fun same =>
          by cases same; rfl⟩
      | noTask => exact ⟨(fun never => nomatch never), (fun never => nomatch never)⟩
      | absent => exact ⟨(fun never => nomatch never), (fun never => nomatch never)⟩

/-- The elements of an array. -/
def elements : CWLValue -> List CWLValue
  | .array items => items
  | _ => []

/-- The sources of a list that was merged have values, and these are what the
array is made of. -/
structure MergesTo (store : Store) (job : Job) (wi : WorkflowInstance) (linkMerge : String)
    (sources : List String) (items : List CWLValue) : Prop where
  valued : forall src, src ∈ sources -> Exists fun obj => getCWLSource store job wi src =
      .ok (.value obj)
  flattened : linkMerge = "merge_flattened" ->
    items = (valuesOf store job wi sources).flatMap elements ∧
      forall value, value ∈ valuesOf store job wi sources -> value = .array (elements value)
  nested : linkMerge ≠ "merge_flattened" -> items = valuesOf store job wi sources

theorem valuesOf_cons {src : String} {obj : CWLValue}
    (value : getCWLSource store job wi src = .ok (.value obj)) (rest : List String) :
    valuesOf store job wi (src :: rest) = obj :: valuesOf store job wi rest := by
  unfold valuesOf
  rw [List.filterMap_cons, valueOf_eq value]
  rfl

theorem mergesTo_of_mergeSources {linkMerge : String} (sources : List String) :
    forall {items : List CWLValue}, mergeSources store job wi linkMerge
        (sources.map some) = .ok items ->
      MergesTo store job wi linkMerge sources items := by
  induction sources with
  | nil =>
      intro items merged
      cases merged
      exact ⟨(fun _ absent => nomatch absent), fun _ => ⟨rfl, (fun _ absent => nomatch absent)⟩,
          fun _ => rfl⟩
  | cons src rest inductionHypothesis =>
      intro items merged
      rw [List.map_cons] at merged
      unfold mergeSources at merged
      cases listed : listedSource store job wi (some src) with
      | error err =>
          rw [listed] at merged
          cases merged
      | ok obj =>
          rw [listed] at merged
          dsimp only at merged
          have value := listedSource_ok_iff.mp listed
          have valued (others : forall src, src ∈ rest -> Exists fun obj =>
              getCWLSource store job wi src = .ok (.value obj)) (other : String)
                  (member : other ∈ src :: rest) :
              Exists fun obj => getCWLSource store job wi other = .ok (.value obj) := by
            rcases List.mem_cons.mp member with rfl | later
            · exact ⟨obj, value⟩
            · exact others other later
          by_cases flat : linkMerge = "merge_flattened"
          · rw [if_pos flat] at merged
            cases obj with
            | array front =>
                cases others : mergeSources store job wi linkMerge (rest.map some) with
                | error err =>
                    rw [others] at merged
                    cases merged
                | ok back =>
                    rw [others] at merged
                    cases merged
                    have earlier := inductionHypothesis others
                    refine ⟨valued earlier.valued, fun _ => ?_, fun away => absurd flat away⟩
                    rw [valuesOf_cons value]
                    refine ⟨?_, fun other member => ?_⟩
                    · rw [List.flatMap_cons, ← (earlier.flattened flat).1]
                      rfl
                    · rcases List.mem_cons.mp member with rfl | later
                      · rfl
                      · exact (earlier.flattened flat).2 other later
            | null => cases merged
            | string text => cases merged
            | other cwlClass json => cases merged
          · rw [if_neg flat] at merged
            by_cases nests : linkMerge = "merge_nested"
            · rw [if_pos nests] at merged
              cases others : mergeSources store job wi linkMerge (rest.map some) with
              | error err =>
                  rw [others] at merged
                  cases merged
              | ok back =>
                  rw [others] at merged
                  cases merged
                  have earlier := inductionHypothesis others
                  refine ⟨valued earlier.valued, fun away => absurd away flat, fun _ => ?_⟩
                  rw [valuesOf_cons value, ← earlier.nested flat]
            · rw [if_neg nests] at merged
              cases merged

/-- With a value for every source, the values stand where the sources stand. -/
theorem valuesOf_getElem? {sources : List String}
    (valued : forall src, src ∈ sources -> Exists fun obj => getCWLSource store job wi src =
    .ok (.value obj))
    (k : Nat) (value : CWLValue) :
    (valuesOf store job wi sources)[k]? = some value ↔
      Exists fun src => sources[k]? = some src ∧ getCWLSource store job wi src = .ok
      (.value value) := by
  induction sources generalizing k with
  | nil => exact ⟨fun never => (nomatch never), fun ⟨_, never, _⟩ => (nomatch never)⟩
  | cons src rest inductionHypothesis =>
      rcases valued src List.mem_cons_self with ⟨obj, found⟩
      rw [valuesOf_cons found]
      cases k with
      | zero =>
          rw [List.getElem?_cons_zero, List.getElem?_cons_zero]
          constructor
          · intro same
            exact ⟨src, rfl, by rw [found, Option.some.inj same]⟩
          · rintro ⟨_, same, read⟩
            rw [← Option.some.inj same, found] at read
            cases read
            rfl
      | succ k =>
          rw [List.getElem?_cons_succ, List.getElem?_cons_succ]
          exact inductionHypothesis
              (fun other member => valued other (List.mem_cons_of_mem _ member)) k

theorem length_valuesOf {sources : List String}
    (valued : forall src, src ∈ sources -> Exists fun obj => getCWLSource store job wi src = .ok
    (.value obj)) :
    (valuesOf store job wi sources).length = sources.length := by
  induction sources with
  | nil => rfl
  | cons src rest inductionHypothesis =>
      rcases valued src List.mem_cons_self with ⟨obj, found⟩
      rw [valuesOf_cons found, List.length_cons, List.length_cons,
        inductionHypothesis fun other member => valued other (List.mem_cons_of_mem _ member)]

end

/-! ## Later states -/

/-- From one state to the next the completed steps of an instance keep what
they have, and new tasks have names of their own. -/
structure Keeps (store : Store) (job : Job) (wi : WorkflowInstance) (later : Store) (laterJob : Job)
    (laterWi : WorkflowInstance) : Prop where
  jobID : laterWi.jobID = wi.jobID
  localID : laterWi.localID = wi.localID
  inputs : laterWi.inputs = wi.inputs
  definition : laterWi.workflowDefinition = wi.workflowDefinition
  context : laterJob.context = job.context
  tasks : Exists fun more => laterWi.tasks = wi.tasks ++ more ∧
    forall new old, new ∈ more -> old ∈ wi.tasks -> (later.task new).ident ≠ (store.task old).ident
  ident : forall ptr, ptr ∈ wi.tasks -> (later.task ptr).ident = (store.task ptr).ident
  task : forall ptr, ptr ∈ wi.tasks -> (store.task ptr).state = .completed ->
    (later.task ptr).state = .completed ∧ (later.task ptr).stepOutput = (store.task ptr).stepOutput
  instances : forall stepName sub, job.instances.lookup (wi.localID ++ "/" ++ stepName) =
      some sub ->
    sub.state = .completed -> laterJob.instances.lookup (wi.localID ++ "/" ++ stepName) = some sub

section

variable {store later : Store} {job laterJob : Job} {wi laterWi : WorkflowInstance}

/-- A task that is there is still found under its identifier. -/
theorem Keeps.getTask (keeps : Keeps store job wi later laterJob laterWi)
    {id : TaskUniqueIdentifier} {ptr : Nat} (found : store.getTask wi id = some ptr) :
    later.getTask laterWi id = some ptr := by
  unfold Store.getTask at found ⊢
  rcases keeps.tasks with ⟨more, tasks, apart⟩
  have named : (store.task ptr).ident = id := by simpa using List.find?_some found
  have member : ptr ∈ wi.tasks := List.mem_reverse.mp (List.mem_of_find?_eq_some found)
  have missed : more.reverse.find? (fun ptr => decide ((later.task ptr).ident = id)) = none := by
    rw [List.find?_eq_none]
    intro new listed same
    refine apart new ptr (List.mem_reverse.mp listed) member ?_
    rw [of_decide_eq_true same, named]
  have same : wi.tasks.reverse.find? (fun ptr => decide ((later.task ptr).ident = id)) =
      wi.tasks.reverse.find? (fun ptr => decide ((store.task ptr).ident = id)) := by
    refine List.find?_congr fun old listed => ?_
    rw [keeps.ident old (List.mem_reverse.mp listed)]
  rw [tasks, List.reverse_append, List.find?_append, missed, Option.none_or, same, found]

/-- An output of a completed step is still there. -/
theorem Keeps.stepOutput (keeps : Keeps store job wi later laterJob laterWi)
    {stepName outputName : String} {obj : CWLValue}
    (read : InputLookup.getCWLSourceFromStepOutput store job wi stepName outputName = .ok
    (.value obj)) :
    InputLookup.getCWLSourceFromStepOutput later laterJob laterWi stepName outputName = .ok
        (.value obj) := by
  have tool (tool : InputLookup.getCWLSourceFromStepOutputTool store wi stepName outputName = .ok
      (.value obj)) :
      InputLookup.getCWLSourceFromStepOutputTool later laterWi stepName outputName = .ok
          (.value obj) := by
    unfold InputLookup.getCWLSourceFromStepOutputTool at tool ⊢
    rw [keeps.jobID, keeps.localID]
    split_ifs at tool with noJob absolute long
    rw [if_neg noJob, if_neg absolute, if_neg long]
    cases found : store.getTask wi ⟨wi.localID ++ "/" ++ stepName, wi.jobID⟩ with
    | none =>
        rw [found] at tool
        cases tool
    | some ptr =>
        rw [found] at tool
        rw [keeps.getTask found]
        dsimp only at tool ⊢
        split_ifs at tool with opened
        have member : ptr ∈ wi.tasks := List.mem_reverse.mp (List.mem_of_find?_eq_some found)
        rcases keeps.task ptr member (not_not.mp opened) with ⟨done, outputs⟩
        rw [if_neg (not_not.mpr done)]
        unfold InputLookup.getStepOutput at tool ⊢
        rw [outputs]
        exact tool
  have workflow (workflow : InputLookup.getCWLSourceFromStepOutputWorkflow job wi
      stepName outputName =
      .ok (.value obj)) :
      InputLookup.getCWLSourceFromStepOutputWorkflow laterJob laterWi stepName outputName = .ok
          (.value obj) := by
    unfold InputLookup.getCWLSourceFromStepOutputWorkflow at workflow ⊢
    rw [keeps.localID]
    dsimp only at workflow ⊢
    cases found : job.instances.lookup (wi.localID ++ "/" ++ stepName) with
    | none =>
        rw [found] at workflow
        cases workflow
    | some sub =>
        rw [found] at workflow
        dsimp only at workflow
        by_cases done : sub.state = .completed
        · rw [keeps.instances _ sub found done]
          exact workflow
        · rw [if_pos done] at workflow
          cases workflow
  unfold InputLookup.getCWLSourceFromStepOutput at read ⊢
  rw [keeps.context, keeps.definition]
  split_ifs at read with long
  rw [if_neg long]
  cases defined : WorkflowContext.getWorkflow job.context wi.workflowDefinition with
  | error err =>
      rw [defined] at read
      cases read
  | ok definition =>
      rw [defined] at read
      dsimp only at read ⊢
      cases listed : definition.getStep stepName with
      | error err =>
          rw [listed] at read
          cases read
      | ok step =>
          rw [listed] at read
          dsimp only at read ⊢
          cases kind : step.getProcessType job.context with
          | error err =>
              rw [kind] at read
              cases read
          | ok processType =>
              rw [kind] at read
              cases processType with
              | commandLineTool => exact tool read
              | expressionTool => exact tool read
              | workflow => exact workflow read

/-- A source that has a value keeps it. -/
theorem Keeps.source (keeps : Keeps store job wi later laterJob laterWi) {src : String}
    {obj : CWLValue} (read : getCWLSource store job wi src = .ok (.value obj)) :
    getCWLSource later laterJob laterWi src = .ok (.value obj) := by
  unfold getCWLSource at read ⊢
  cases reading : readSource src with
  | error err =>
      rw [reading] at read
      cases read
  | ok kind =>
      rw [reading] at read
      cases kind with
      | workflowInput inputName =>
          dsimp only at read ⊢
          unfold getSourceFromWorkflowInstanceInput at read ⊢
          rw [keeps.inputs, keeps.context, keeps.definition]
          exact read
      | stepOutput stepName outputName =>
          dsimp only at read ⊢
          cases found : InputLookup.getCWLSourceFromStepOutput store job wi stepName outputName with
          | error err =>
              rw [found] at read
              cases read
          | ok fetched =>
              rw [found] at read
              cases read
              rw [keeps.stepOutput found]

end

end ScatterMerge

end Core
end Awe
