import Awe.Core.Store

namespace Awe
namespace Core
namespace Readiness

open Lib Lib.Path

/-!
# When the inputs of a workflow step are ready

`areSourceGeneratorsReady` walks over the inputs of a step and asks for every
source whether the step that produces it has completed.  The loop keeps the
named results of the Go function in its state: a `return` in the middle
answers with whatever these hold at that moment.  The branch for a single
source writes the named result `ready`; the branch for an array of sources
writes a variable of its own.

What the function is for is stated separately in `SourceReady`, in terms of the
workflow and of what its instance has: a source names an input of the workflow,
or an output of one of its steps, by the identifier in the workflow or by the
name in the instance, and UUIDs that embedded workflows leave in a name do not
count.  The code looks at the path of the source alone.  What it goes by is
stated in `Passes`, and the two are not the same.
-/

/-- The results of `isSourceGeneratorReady`. -/
structure Answer where
  ok : Bool
  reason : String
  err : Err

/-- The results of `areSourceGeneratorsReady`. -/
structure Results where
  ready : Bool
  reason : String
  generators : List String
  err : Err

/-- The named results while the loop runs. They outlive a round, which is how an answer for one
input gets into the result for another. -/
structure Loop where
  ready : Bool
  reason : String
  generators : List String

/-- A source that is not absolute is taken relative to the workflow instance. -/
def absoluteSource (localID src : String) : String :=
  if hasPrefix src "#" then src else joinPath localID src

/-- The elements of a generator path that are kept: those of 36 bytes are
taken for UUIDs. -/
def withoutUUIDs (srcGenerator : String) : String :=
  join ((split srcGenerator).filter fun element => element.utf8ByteSize ≠ 36)

section

variable (store : Store) (job : Job) (wi : WorkflowInstance)

/-- The last part of `isSourceGeneratorReady`, for the output of a step. -/
def isStepReady (srcGenerator srcGeneratorAbs : String) (errorOnMissingTask : Bool) : Answer :=
  match WorkflowContext.getWorkflow job.context wi.workflowDefinition with
  | .error err =>
      ⟨false, "", some ("(isSourceGeneratorReady) workflowInstance.GetWorkflow returned: " ++
        "(WorkflowInstance/GetWorkflow) context.GetWorkflow returned: " ++ err)⟩
  | .ok workflow =>
      let srcGeneratorBase := base srcGenerator
      match workflow.getStep srcGeneratorBase with
      | .error err =>
          ⟨false, "", some ("(isSourceGeneratorReady) workflow.GetStep(" ++ srcGeneratorBase ++
            ") (with srcGenerator: " ++ srcGenerator ++ ") returned: " ++ err)⟩
      | .ok workflowStep =>
          match workflowStep.getProcessType job.context with
          | .ok .commandLineTool | .ok .expressionTool =>
              match store.getTaskByName wi srcGeneratorBase with
              | none =>
                  let missing := "(isSourceGeneratorReady) task " ++ srcGeneratorAbs ++ " not found"
                  if errorOnMissingTask then ⟨false, "", some missing⟩ else ⟨false, missing, none⟩
              | some ptr =>
                  let task := store.task ptr
                  if task.state ≠ .completed then
                    ⟨false, "(isSourceGeneratorReady) dependent task " ++ task.ident.string.1 ++
                      " has state " ++ task.state.text ++ " (srcGenerator=" ++ srcGenerator ++ ")",
                          none⟩
                  else ⟨true, "", none⟩
          | .ok .workflow =>
              match job.instances.lookup srcGeneratorAbs with
              | none =>
                  ⟨false, "(isSourceGeneratorReady) job did not contain workflowInstance " ++
                    srcGeneratorAbs, none⟩
              | some other =>
                  if other.state = .completed then ⟨true, "", none⟩
                  else ⟨false, "(isSourceGeneratorReady) workfow instance is not completed", none⟩
          | .error _ => ⟨false, "", some "(isSourceGeneratorReady) processType  unkown"⟩

def isSourceGeneratorReady (srcGenerator : String) (errorOnMissingTask : Bool) : Answer :=
  if srcGenerator = "" then
    ⟨false, "", some "(isSourceGeneratorReady) srcGenerator string empty"⟩
  else if srcGenerator = "." then ⟨true, "", none⟩
  else
    let srcGenerator := withoutUUIDs srcGenerator
    if srcGenerator = wi.localID then ⟨true, "", none⟩
    else
      let srcGeneratorAbs := absoluteSource wi.localID srcGenerator
      if (split srcGeneratorAbs).length = 1 then ⟨true, "", none⟩
      else isStepReady store job wi srcGenerator srcGeneratorAbs errorOnMissingTask

/-- The loop over an array of sources.  An `error` is a `return`. -/
def checkArray : List (Option String) -> Loop -> Except Results Loop
  | [], loop => .ok loop
  | none :: _, loop => .error ⟨false, loop.reason, loop.generators, some "src is not a string"⟩
  | some src :: rest, loop =>
      let srcStr := absoluteSource wi.localID src
      if (job.context.lookup srcStr).isSome then checkArray rest loop
      else
        let generator := dir srcStr
        match isSourceGeneratorReady store job wi generator false with
        | ⟨_, reason, some err⟩ =>
            .error ⟨loop.ready, reason, loop.generators,
              some ("(areSourceGeneratorsReady) (type array, src_str: " ++ srcStr ++
                ") isSourceGeneratorReady returns: " ++ err)⟩
        | ⟨false, reason, none⟩ =>
            -- The named result `ready` is not written in this branch.
            .error ⟨loop.ready, " (sourceIsArray) Generator not ready (" ++ reason ++ ")",
              loop.generators, none⟩
        | ⟨true, reason, none⟩ =>
            checkArray rest { loop with reason, generators := loop.generators ++ [generator] }

/-- The branch for a single source. -/
def checkString (src : String) (loop : Loop) : Except Results Loop :=
  let srcStr := absoluteSource wi.localID src
  let generator := dir srcStr
  if (split generator).length = 1 then
    .ok { loop with generators := loop.generators ++ ["self"] }
  else
    match isSourceGeneratorReady store job wi generator false with
    | ⟨ready, reason, some err⟩ =>
        .error ⟨ready, reason, loop.generators,
          some ("(areSourceGeneratorsReady) B (type non-array, src_str: " ++ srcStr ++
            ") isSourceGeneratorReady returns: " ++ err)⟩
    | ⟨false, reason, none⟩ =>
        .error ⟨false, " (NOT sourceIsArray) Generator not ready (" ++ reason ++ ")",
          loop.generators, none⟩
    | ⟨true, reason, none⟩ => .ok ⟨true, reason, loop.generators ++ [generator]⟩

/-- One input of the step. -/
def checkSource (source : Option Source) (loop : Loop) : Except Results Loop :=
  match source with
  | none => .ok loop
  | some (.array sources) => checkArray store job wi sources loop
  | some (.string src) => checkString store job wi src loop
  | some (.strings _) | some .other =>
      .error ⟨loop.ready, loop.reason, loop.generators,
        some "(areSourceGeneratorsReady) Cannot parse WorkflowStep source"⟩

def checkInputs : List WorkflowStepInput -> Loop -> Results
  | [], loop => ⟨true, loop.reason, loop.generators, none⟩
  | wsi :: rest, loop =>
      match checkSource store job wi wsi.source loop with
      | .ok loop => checkInputs rest loop
      | .error results => results

/-- `areSourceGeneratorsReady`. Go's named results are a value of their own, since a `return` in
the loop hands back whatever they hold by then. -/
def areSourceGeneratorsReady (step : WorkflowStep) : Results :=
  checkInputs store job wi step.inputs ⟨false, "", []⟩

/-- The elements of a path that are names. -/
def names (path : String) : List String :=
  (split path).filter fun element => !uuidShape element.toList

/-- The names of a source, below those of the workflow instance if it is not
absolute. -/
def namesOf (localID src : String) : List String :=
  if hasPrefix src "#" then names src else names localID ++ names src

/-- The names are those of the thing with this identifier in the workflow, or
those that it has in the instance. -/
def Denotes (localID : String) (found : List String) (id : String) : Prop :=
  found = names id ∨ found = names localID ++ [base id]

/-- The source is an input that the workflow of the instance declares. The names are compared in
full, from the instance on, and not by the last element alone. -/
def IsInput (src : String) : Prop :=
  Exists fun workflow => WorkflowContext.getWorkflow job.context wi.workflowDefinition =
      .ok workflow ∧
    Exists fun input => input ∈ workflow.inputs ∧
        Denotes wi.localID (namesOf wi.localID src) input.id

/-- What runs the step in this instance exists and is completed: a task, or the
sub-workflow instance that is named after the step. -/
def GeneratorCompleted (step : WorkflowStep) : ProcessKind -> Prop
  | .workflow => Exists fun other =>
      job.instances.lookup (wi.localID ++ "/" ++ base step.id) = some other ∧
          other.state = .completed
  | .commandLineTool | .expressionTool =>
      Exists fun ptr => store.getTaskByName wi (base step.id) = some ptr ∧
          (store.task ptr).state = .completed

/-- The source is an output of a step whose generator is completed. The step is found by its
identifier in the workflow and its task by the instance, without the paths that the code goes by.
-/
def IsOutput (src : String) : Prop :=
  Exists fun workflow => WorkflowContext.getWorkflow job.context wi.workflowDefinition =
      .ok workflow ∧
    Exists fun step : WorkflowStep => step ∈ workflow.steps ∧
      Denotes wi.localID (namesOf wi.localID src).dropLast step.id ∧
      Exists fun kind => step.getProcessType job.context = .ok kind ∧
          GeneratorCompleted store job wi step kind

def SourceReady (src : String) : Prop :=
  IsInput job wi src ∨ IsOutput store job wi src

/-- An element of an array of sources may also be an object of the context. -/
def ElementReady (src : String) : Prop :=
  (job.context.lookup (absoluteSource wi.localID src)).isSome ∨ SourceReady store job wi src

/-- An input is ready if each of its sources is. It does not matter here in which form the parser
stores the sources, which is a matter of the code and not of what the step needs. -/
def InputReady : Option Source -> Prop
  | none => True
  | some (.string src) => SourceReady store job wi src
  | some (.array sources) =>
      forall element, element ∈ sources -> Exists fun src => element = some src ∧
          ElementReady store job wi src
  | some (.strings sources) => forall src, src ∈ sources -> ElementReady store job wi src
  | some .other => False

/-- The path by which the code knows the generator of a source, and the same path
as an absolute one. -/
def generatorPath (localID src : String) : String :=
  withoutUUIDs (dir (absoluteSource localID src))

def generatorAbs (localID src : String) : String :=
  absoluteSource localID (generatorPath localID src)

/-- The workflow of the instance has a step of this name, and its process has a
known kind. -/
def StepKnown (name : String) (kind : ProcessKind) : Prop :=
  Exists fun workflow => Exists fun workflowStep : WorkflowStep =>
    WorkflowContext.getWorkflow job.context wi.workflowDefinition = .ok workflow ∧
      workflow.getStep name = .ok workflowStep ∧ workflowStep.getProcessType job.context = .ok kind

/-- What is found for a step of that name, or under that path for a sub-workflow,
is completed. -/
def FoundCompleted (name path : String) : ProcessKind -> Prop
  | .workflow => Exists fun other => job.instances.lookup path = some other ∧
      other.state = .completed
  | .commandLineTool | .expressionTool =>
      Exists fun ptr => store.getTaskByName wi name = some ptr ∧ (store.task ptr).state = .completed

def StepCompleted (name path : String) : Prop :=
  Exists fun kind => StepKnown job wi name kind ∧ FoundCompleted store job wi name path kind

/-- The path of the generator has the shape of a workflow, so the source counts as
one of its inputs. -/
def InputShape (localID src : String) : Prop :=
  dir (absoluteSource localID src) = "." ∨ generatorPath localID src = localID ∨
    (split (generatorAbs localID src)).length = 1

/-- A source passes if its path has the shape of an input, or if something that is
completed is found for it. -/
def Passes (src : String) : Prop :=
  InputShape wi.localID src ∨
    StepCompleted store job wi (base (generatorPath wi.localID src)) (generatorAbs wi.localID src)

/-- The step by which a source goes is known, though not completed. The loop ends here, and
returns what its named result happens to hold. -/
def Stalled (src : String) : Prop :=
  ¬Passes store job wi src ∧ Exists fun kind =>
      StepKnown job wi (base (generatorPath wi.localID src)) kind

def ElementPasses (src : String) : Prop :=
  (job.context.lookup (absoluteSource wi.localID src)).isSome ∨ Passes store job wi src

def ArrayPasses (sources : List (Option String)) : Prop :=
  forall element, element ∈ sources -> Exists fun src => element = some src ∧
      ElementPasses store job wi src

/-- A single source is not looked at if the path has one element only. -/
def examined (localID : String) : Option Source -> Bool
  | some (.string src) => (split (dir (absoluteSource localID src))).length ≠ 1
  | _ => false

def InputPasses : Option Source -> Prop
  | none => True
  | some (.string src) => examined wi.localID (some (.string src)) = false ∨ Passes store job wi src
  | some (.array sources) => ArrayPasses store job wi sources
  | some (.strings _) | some .other => False

/-- The first element of an array that does not pass is stalled. -/
inductive Stalls : List (Option String) -> Prop where
  | here {src : String} {rest : List (Option String)} (absent : ¬ElementPasses store job wi src)
      (stalled : Stalled store job wi src) : Stalls (some src :: rest)
  | later {src : String} {rest : List (Option String)} (passes : ElementPasses store job wi src)
      (stalls : Stalls rest) : Stalls (some src :: rest)

/-- The first input that does not pass is an array that stalls, and an earlier
input with a single source was examined (`found`). -/
inductive Premature : Bool -> List WorkflowStepInput -> Prop where
  | here {wsi : WorkflowStepInput} {rest : List WorkflowStepInput} {sources : List (Option String)}
      (isArray : wsi.source = some (.array sources)) (stalls : Stalls store job wi sources) :
      Premature true (wsi :: rest)
  | later {found : Bool} {wsi : WorkflowStepInput} {rest : List WorkflowStepInput}
      (passes : InputPasses store job wi wsi.source)
      (premature : Premature (found || examined wi.localID wsi.source) rest) :
      Premature found (wsi :: rest)

/-- An input with a source that passes without being ready. The code goes by path shapes and base
names, which more than one thing can have. -/
def Mistaken (wsi : WorkflowStepInput) : Prop :=
  InputPasses store job wi wsi.source ∧ ¬InputReady store job wi wsi.source

/-- An input that is ready though one of its sources does not pass, or though its
sources are of a type that the code does not know. -/
def Missed (wsi : WorkflowStepInput) : Prop :=
  InputReady store job wi wsi.source ∧ ¬InputPasses store job wi wsi.source

/-- The answer is wrong in three cases: an input that is not ready hides behind an
array at which the loop stops too early; all inputs pass, one of them by mistake;
or all of them are ready, and one that is missed brings the loop to a proper end. -/
def Misleads (inputs : List WorkflowStepInput) : Prop :=
  (Premature store job wi false inputs ∧ Exists fun wsi => wsi ∈ inputs ∧
      ¬InputReady store job wi wsi.source) ∨
  ((forall wsi, wsi ∈ inputs -> InputPasses store job wi wsi.source) ∧
    Exists fun wsi => wsi ∈ inputs ∧ Mistaken store job wi wsi) ∨
  ((forall wsi, wsi ∈ inputs -> InputReady store job wi wsi.source) ∧
    (Exists fun wsi => wsi ∈ inputs ∧ Missed store job wi wsi) ∧
    ¬Premature store job wi false inputs)

section

variable {store job wi}

private theorem stepKnown_iff {workflow : Workflow} {workflowStep : WorkflowStep} {name : String}
    (defined : WorkflowContext.getWorkflow job.context wi.workflowDefinition = .ok workflow)
    (found : workflow.getStep name = .ok workflowStep) (kind : ProcessKind) :
    StepKnown job wi name kind ↔ workflowStep.getProcessType job.context = .ok kind := by
  constructor
  · rintro ⟨otherWorkflow, otherStep, otherDefined, otherFound, runs⟩
    rw [defined] at otherDefined
    cases otherDefined
    rw [found] at otherFound
    cases otherFound
    exact runs
  · intro runs
    exact ⟨workflow, workflowStep, defined, found, runs⟩

/-- The last part of the check in two facts: it says `ok` exactly for a
completed generator, and an error means that the step or its process is not
known. -/
theorem isStepReady_spec (path abs : String) :
    ((isStepReady store job wi path abs false).ok = true ↔
        StepCompleted store job wi (base path) abs) ∧
      ((isStepReady store job wi path abs false).err = none ↔
        Exists fun kind => StepKnown job wi (base path) kind) := by
  unfold isStepReady StepCompleted
  cases defined : WorkflowContext.getWorkflow job.context wi.workflowDefinition with
  | error err => simp [StepKnown, defined]
  | ok workflow =>
      cases found : workflow.getStep (base path) with
      | error err => simp [StepKnown, defined, found]
      | ok workflowStep =>
          simp only [stepKnown_iff defined found]
          cases runs : workflowStep.getProcessType job.context with
          | error err => simp [found, runs]
          | ok kind =>
              cases kind with
              | workflow =>
                  cases listed : job.instances.lookup abs with
                  | none => simp [FoundCompleted, found, runs, listed]
                  | some other =>
                      by_cases done : other.state = .completed <;>
                        simp [FoundCompleted, found, runs, listed, done]
              | commandLineTool | expressionTool =>
                  cases named : store.getTaskByName wi (base path) with
                  | none => simp [FoundCompleted, found, runs, named]
                  | some ptr =>
                      by_cases done : (store.task ptr).state = .completed <;>
                        simp [FoundCompleted, found, runs, named, done]

/-- The check of one generator: it says `ok` exactly for a source that passes, and
an error means that the step or its process is not known. -/
theorem isSourceGeneratorReady_spec (src : String) :
    ((isSourceGeneratorReady store job wi (dir (absoluteSource wi.localID src)) false).ok = true ↔
        Passes store job wi src) ∧
      ((isSourceGeneratorReady store job wi (dir (absoluteSource wi.localID src)) false).err =
          none ↔
        Passes store job wi src ∨
          Exists fun kind => StepKnown job wi (base (generatorPath wi.localID src)) kind) := by
  have named : dir (absoluteSource wi.localID src) ≠ "" := dir_ne_empty _
  have unfolded : isSourceGeneratorReady store job wi (dir (absoluteSource wi.localID src)) false =
      if dir (absoluteSource wi.localID src) = "." then ⟨true, "", none⟩
      else if generatorPath wi.localID src = wi.localID then ⟨true, "", none⟩
      else if (split (generatorAbs wi.localID src)).length = 1 then ⟨true, "", none⟩
      else isStepReady store job wi (generatorPath wi.localID src)
          (generatorAbs wi.localID src) false := by
    unfold isSourceGeneratorReady
    rw [if_neg named]
    rfl
  rw [unfolded]
  by_cases shape : InputShape wi.localID src
  · have passes : Passes store job wi src := Or.inl shape
    have good : (if dir (absoluteSource wi.localID src) = "." then ⟨true, "", none⟩
        else if generatorPath wi.localID src = wi.localID then ⟨true, "", none⟩
        else if (split (generatorAbs wi.localID src)).length = 1 then ⟨true, "", none⟩
        else isStepReady store job wi (generatorPath wi.localID src)
            (generatorAbs wi.localID src) false) =
        (⟨true, "", none⟩ : Answer) := by
      by_cases dot : dir (absoluteSource wi.localID src) = "."
      · rw [if_pos dot]
      rw [if_neg dot]
      by_cases self : generatorPath wi.localID src = wi.localID
      · rw [if_pos self]
      rw [if_neg self, if_pos ((shape.resolve_left dot).resolve_left self)]
    rw [good]
    exact ⟨iff_of_true rfl passes, iff_of_true rfl (Or.inl passes)⟩
  · -- Not the shape of an input: the source passes exactly if what is found is completed.
    have parts := not_or.mp shape
    rw [if_neg parts.1, if_neg (not_or.mp parts.2).1, if_neg (not_or.mp parts.2).2]
    have stepOutput : Passes store job wi src ↔
        StepCompleted store job wi (base (generatorPath wi.localID src))
            (generatorAbs wi.localID src) :=
      or_iff_right shape
    have spec := @isStepReady_spec store job wi (generatorPath wi.localID src)
        (generatorAbs wi.localID src)
    refine ⟨spec.1.trans stepOutput.symm, spec.2.trans ⟨Or.inr, ?_⟩⟩
    rintro (passes | known)
    · rcases stepOutput.1 passes with ⟨kind, known, _⟩
      exact ⟨kind, known⟩
    · exact known

/-! ## The loops -/

section

variable {src : String} {rest : List (Option String)}

private theorem arrayPasses_cons :
    ArrayPasses store job wi (some src :: rest) ↔
      ElementPasses store job wi src ∧ ArrayPasses store job wi rest := by
  unfold ArrayPasses
  rw [List.forall_mem_cons]
  simp

/-- Behind a ready element the array stalls exactly when the rest does. -/
private theorem stalls_cons_of_passes (ready : ElementPasses store job wi src) :
    Stalls store job wi (some src :: rest) ↔ Stalls store job wi rest := by
  constructor
  · intro stalls
    cases stalls with
    | here absent => exact absurd ready absent
    | later _ stalls => exact stalls
  · exact Stalls.later ready

private theorem stalls_cons_of_absent (absent : ¬ElementPasses store job wi src) :
    Stalls store job wi (some src :: rest) ↔ Stalled store job wi src := by
  constructor
  · intro stalls
    cases stalls with
    | here _ stalled => exact stalled
    | later ready => exact absurd ready absent
  · exact Stalls.here absent

private theorem not_arrayPasses_of_stalls {sources : List (Option String)}
    (stalls : Stalls store job wi sources) : ¬ArrayPasses store job wi sources := by
  induction stalls with
  | here absent => exact fun ready => absent (arrayPasses_cons.1 ready).1
  | later _ _ inductionHypothesis => exact fun ready => inductionHypothesis (arrayPasses_cons.1 ready).2

end

/-- One pass over an array.  Without a `return` all elements pass; a `return`
answers `ready` only when the named result was set before. -/
theorem checkArray_spec {sources : List (Option String)} (loop : Loop) :
    (forall next, checkArray store job wi sources loop = .ok next ->
      ArrayPasses store job wi sources ∧ next.ready = loop.ready) ∧
    (forall results, checkArray store job wi sources loop = .error results ->
      ¬ArrayPasses store job wi sources ∧
        (results.ready = true ∧ results.err = none ↔
          loop.ready = true ∧ Stalls store job wi sources)) := by
  induction sources generalizing loop with
  | nil =>
      refine ⟨?_, fun results returned => (by cases returned)⟩
      intro next finished
      cases finished
      exact ⟨fun _ member => absurd member List.not_mem_nil, rfl⟩
  | cons element rest inductionHypothesis =>
      cases element with
      | none =>
          refine ⟨fun next finished => (by cases finished), ?_⟩
          intro results returned
          cases returned
          refine ⟨?_, fun answer => Bool.noConfusion answer.1, ?_⟩
          · intro passes
            rcases passes none List.mem_cons_self with ⟨src, impossible, _⟩
            cases impossible
          · rintro ⟨_, stalls⟩
            cases stalls
      | some src =>
          simp only [checkArray]
          by_cases object : (job.context.lookup (absoluteSource wi.localID src)).isSome
          · have passes : ElementPasses store job wi src := Or.inl object
            rw [if_pos object, arrayPasses_cons, stalls_cons_of_passes passes]
            simpa only [passes, true_and] using inductionHypothesis loop
          · rw [if_neg object]
            have spec := @isSourceGeneratorReady_spec store job wi src
            have element : ElementPasses store job wi src ↔ Passes store job wi src :=
                or_iff_right object
            cases answer : isSourceGeneratorReady store job wi
                (dir (absoluteSource wi.localID src)) false with
            | mk ok reason err =>
                rw [answer] at spec
                by_cases passes : Passes store job wi src
                · -- The source passes, so the loop goes on with the rest.
                  have good : ok = true ∧ err = none := ⟨spec.1.2 passes, spec.2.2 (Or.inl passes)⟩
                  rw [good.1, good.2]
                  simp only [arrayPasses_cons, stalls_cons_of_passes (element.2 passes), element,
                      passes, true_and]
                  exact inductionHypothesis
                    { loop with reason, generators := loop.generators ++ [dir (absoluteSource wi.localID src)] }
                · have absent : ¬ElementPasses store job wi src :=
                    fun found => passes (element.1 found)
                  have refused : ok = false := by
                    rw [← Bool.not_eq_true]
                    exact fun good => passes (spec.1.1 good)
                  have known : err = none ↔ Stalled store job wi src := by
                    unfold Stalled
                    simpa [passes] using spec.2
                  rw [refused, arrayPasses_cons, stalls_cons_of_absent absent, ← known]
                  cases err with
                  | none => simp [absent]
                  | some text => simp [absent]

/-- One single source. -/
theorem checkString_spec {src : String} (loop : Loop) :
    (forall next, checkString store job wi src loop = .ok next ->
      InputPasses store job wi (some (.string src)) ∧
        next.ready = (loop.ready || examined wi.localID (some (.string src)))) ∧
    (forall results, checkString store job wi src loop = .error results ->
      ¬InputPasses store job wi (some (.string src)) ∧
      ¬(results.ready = true ∧ results.err = none)) := by
  simp only [checkString, InputPasses]
  by_cases single : (split (dir (absoluteSource wi.localID src))).length = 1
  · have unseen : examined wi.localID (some (.string src)) = false := by simp [examined, single]
    rw [if_pos single, unseen]
    refine ⟨?_, fun results returned => (by cases returned)⟩
    intro next finished
    cases finished
    exact ⟨Or.inl rfl, (Bool.or_false _).symm⟩
  · have seen : examined wi.localID (some (.string src)) = true := by simp [examined, single]
    rw [if_neg single, seen]
    have spec := @isSourceGeneratorReady_spec store job wi src
    cases answer : isSourceGeneratorReady store job wi (dir (absoluteSource wi.localID src)) false
        with
    | mk ok reason err =>
        rw [answer] at spec
        cases ok with
        | true =>
            have passes := spec.1.1 rfl
            rw [show err = none from spec.2.2 (Or.inl passes)]
            simp [passes]
        | false =>
            have absent : ¬Passes store job wi src :=
                fun passes => Bool.noConfusion (spec.1.2 passes)
            cases err with
            | none => simp [absent]
            | some text => simp [absent]

/-- One input.  A `return` is premature only from an array. -/
theorem checkSource_spec {source : Option Source} (loop : Loop) :
    (forall next, checkSource store job wi source loop = .ok next ->
      InputPasses store job wi source ∧ next.ready = (loop.ready || examined wi.localID source)) ∧
    (forall results, checkSource store job wi source loop = .error results ->
      ¬InputPasses store job wi source ∧
        (results.ready = true ∧ results.err = none ↔
          loop.ready = true ∧ Exists fun sources => source = some (.array sources) ∧
            Stalls store job wi sources)) := by
  cases source with
  | none => simp [checkSource, InputPasses, examined]
  | some source =>
      cases source with
      | other => simp [checkSource, InputPasses]
      | strings sources => simp [checkSource, InputPasses]
      | string src =>
          have spec := @checkString_spec store job wi src loop
          refine ⟨spec.1, ?_⟩
          intro results returned
          have stopped := spec.2 results returned
          exact ⟨stopped.1, by simpa using stopped.2⟩
      | array sources =>
          have spec := @checkArray_spec store job wi sources loop
          constructor
          · intro next finished
            have passes := spec.1 next finished
            exact ⟨passes.1, passes.2.trans (Bool.or_false _).symm⟩
          · intro results returned
            have stopped := spec.2 results returned
            exact ⟨stopped.1, by simpa using stopped.2⟩

private theorem premature_cons_of_passes {found : Bool} {wsi : WorkflowStepInput}
    {rest : List WorkflowStepInput} (passes : InputPasses store job wi wsi.source) :
    Premature store job wi found (wsi :: rest) ↔
      Premature store job wi (found || examined wi.localID wsi.source) rest := by
  constructor
  · intro premature
    cases premature with
    | here isArray stalls =>
        rw [isArray] at passes
        exact absurd passes (not_arrayPasses_of_stalls stalls)
    | later _ premature => exact premature
  · exact Premature.later passes

private theorem premature_cons_of_stopped {found : Bool} {wsi : WorkflowStepInput}
    {rest : List WorkflowStepInput} (stopped : ¬InputPasses store job wi wsi.source) :
    Premature store job wi found (wsi :: rest) ↔
      found = true ∧ Exists fun sources => wsi.source = some (.array sources) ∧
        Stalls store job wi sources := by
  constructor
  · intro premature
    cases premature with
    | here isArray stalls => exact ⟨rfl, _, isArray, stalls⟩
    | later passes => exact absurd passes stopped
  · rintro ⟨rfl, sources, isArray, stalls⟩
    exact .here isArray stalls

/-- The loop over all inputs: it answers ready without an error exactly when
all inputs pass, or when it stops prematurely. -/
theorem checkInputs_ready_iff {inputs : List WorkflowStepInput} (loop : Loop) :
    ((checkInputs store job wi inputs loop).ready = true ∧
        (checkInputs store job wi inputs loop).err = none) ↔
      (forall wsi, wsi ∈ inputs -> InputPasses store job wi wsi.source) ∨
        Premature store job wi loop.ready inputs := by
  induction inputs generalizing loop with
  | nil => simp [checkInputs]
  | cons wsi rest inductionHypothesis =>
      have spec := @checkSource_spec store job wi wsi.source loop
      rw [List.forall_mem_cons]
      simp only [checkInputs]
      cases result : checkSource store job wi wsi.source loop with
      | ok next =>
          have passed := spec.1 next result
          simp only [premature_cons_of_passes passed.1, passed.1, true_and]
          rw [← passed.2]
          exact inductionHypothesis next
      | error results =>
          have stopped := spec.2 results result
          simp only [premature_cons_of_stopped stopped.1, stopped.1, false_and, false_or]
          exact stopped.2

end

end

/-- Two steps that run tools, and a third with inputs from both. -/
private def twoSteps : Workflow :=
  ⟨"#wf", [⟨"#wf/a", [], ["#wf/a/out"], .commandLineTool, [], ""⟩,
    ⟨"#wf/b", [], ["#wf/b/out"], .commandLineTool, [], ""⟩], [], []⟩

private def twoStepJob : Job :=
  ⟨"j", .inProgress, true, "#main", ⟨1, 0, "", false⟩, [], 0,
      AList.insert "#wf" (.workflow twoSteps) ∅, ∅⟩

private def twoStepInstance : WorkflowInstance :=
  { WorkflowInstance.blank with
    localID := "#main"
    jobID := "j"
    workflowDefinition := "#wf"
    tasks := [0, 1] }

/-- Task `a` is completed, task `b` is still pending. -/
private def halfDone : Store where
  task := fun ptr =>
    if ptr = 0 then { Task.blank with ident := ⟨"#main/a", "j"⟩, state := .completed }
    else { Task.blank with ident := ⟨"#main/b", "j"⟩, state := .pending }
  nextTask := 2
  jobs := ∅

private def fromA : WorkflowStepInput := ⟨"#wf/c/x", some (.string "a/out"), 0, false⟩

private def fromB : WorkflowStepInput := ⟨"#wf/c/y", some (.array [some "b/out"]), 0, false⟩

private def thirdStep (inputs : List WorkflowStepInput) : WorkflowStep :=
  ⟨"#wf/c", inputs, [], .commandLineTool, [], ""⟩

private theorem fromB_not_ready : ¬SourceReady halfDone twoStepJob twoStepInstance "b/out" := by
  have context : WorkflowContext.getWorkflow twoStepJob.context twoStepInstance.workflowDefinition =
      .ok twoSteps := by
    rfl
  rintro (⟨workflow, isWorkflow, input, member, _⟩
      | ⟨workflow, isWorkflow, step, member, denotes, kind, runs, done⟩)
  · rw [context] at isWorkflow
    cases isWorkflow
    exact absurd member List.not_mem_nil
  · rw [context] at isWorkflow
    cases isWorkflow
    rcases List.mem_cons.mp member with rfl | last
    · unfold Denotes at denotes
      exact absurd denotes (by decide)
    · rw [List.mem_singleton.mp last] at runs done
      cases runs
      rcases done with ⟨ptr, isTask, completed⟩
      have pending : halfDone.getTaskByName twoStepInstance "b" = some 1 := by decide
      cases pending.symm.trans isTask
      cases completed

end Readiness
end Core
end Awe
