import Awe.Core.Readiness

namespace Awe
namespace Core
namespace InputLookup

open Lib Lib.Path Readiness

/-!
# Looking up the inputs of a workflow step

`GetStepInputObject` fetches the value of an input once its step is ready.  It
reads the text of a single source with rules of its own: it splits it, strips
the name of the workflow instance and drops one UUID.  The readiness check
works on the directory of the same text and drops every element of 36 bytes.
This module embeds the lookup of a single source and settles when the two agree
on what a source means.

An error is modelled by its kind instead of its text, because the comparison
asks which kind of failure a lookup ends in.  The branch for an array of
sources, which the comparison does not reach, is an argument.
-/

/-- What a source is taken for. -/
inductive SourceKind where
  | workflowInput (inputName : String)
  | stepOutput (stepName outputName : String)
  deriving DecidableEq, Repr

/-- The step behind a source; `none` for a workflow input. -/
def SourceKind.step : SourceKind -> Option String
  | .workflowInput _ => none
  | .stepOutput stepName _ => some stepName

/-- The errors on the way to the value of a single source. -/
inductive SourceError where
  | cannotParse (source localID : String)
  | notUnderInstance (source localID : String)
  | outputNotBase (outputName : String)
  | noWorkflow (err : String)
  | stepNotFound (stepName : String)
  | noProcessType (err : String)
  | noJobId
  | outputAbsolute
  | taskNotCompleted (state : ProcessState)
  | instanceNotFound (name : String)
  | instanceNotCompleted (name : String) (state : ProcessState)
  | outputNotFound (outputName name : String)
  | noArray
  | indexOutOfBounds (index length : Nat)
  | sourceType

/-- The source step is missing or not completed. -/
def SourceError.MissingStep : SourceError -> Prop
  | .stepNotFound .. | .taskNotCompleted .. | .instanceNotFound .. | .instanceNotCompleted .. =>
      True
  | _ => False

/-- What was fetched: a value, nothing because the task of the step does not
exist, or nothing for another reason. -/
inductive Fetched where
  | value (obj : CWLValue)
  | noTask
  | absent

/-- How `GetStepInputObject` reads the text of a single source. -/
def classify (localID source : String) : Except SourceError SourceKind :=
  if hasPrefix source "#" then
    if hasPrefix source (localID ++ "/") then
      let withoutPrefix := split (trimPrefix source (localID ++ "/"))
      let names := if uuidParses (withoutPrefix.headD "") then withoutPrefix.tail else withoutPrefix
      match names with
      | [inputName] => .ok (.workflowInput inputName)
      | [stepName, outputName] => .ok (.stepOutput stepName outputName)
      | _ => .error (.cannotParse source localID)
    else .error (.notUnderInstance source localID)
  else
    match split source with
    | [inputName] => .ok (.workflowInput inputName)
    | [stepName, outputName] => .ok (.stepOutput stepName outputName)
    | _ => .error (.cannotParse source localID)

/-- `task.GetStepOutput`: the first output with that base name. -/
def getStepOutput (task : Task) (name : String) : Option CWLValue :=
  task.stepOutput.bind fun outputs =>
    (outputs.find? fun entry => base entry.1 = name).map Prod.snd

section

variable (store : Store) (job : Job) (wi : WorkflowInstance)

/-- `getCWLSourceFromStepOutputTool`. -/
def getCWLSourceFromStepOutputTool (stepName outputName : String) : Except SourceError Fetched :=
  if wi.jobID = "" then .error .noJobId
  else if hasPrefix outputName "#" then .error .outputAbsolute
  else if base outputName ≠ outputName then .error (.outputNotBase outputName)
  else
    match store.getTask wi ⟨wi.localID ++ "/" ++ stepName, wi.jobID⟩ with
    | none => .ok .noTask
    | some ptr =>
        if (store.task ptr).state ≠ .completed then
          .error (.taskNotCompleted (store.task ptr).state)
        else
          match getStepOutput (store.task ptr) outputName with
          | some obj => .ok (.value obj)
          | none => .ok .absent

/-- `getCWLSourceFromStepOutput_Workflow`, called with `errorOnMissingTask`. -/
def getCWLSourceFromStepOutputWorkflow (stepName outputName : String) :
    Except SourceError Fetched :=
  let subworkflowName := wi.localID ++ "/" ++ stepName
  match job.instances.lookup subworkflowName with
  | none => .error (.instanceNotFound subworkflowName)
  | some subwi =>
      if subwi.state ≠ .completed then
        .error (.instanceNotCompleted subworkflowName subwi.state)
      else
        match subwi.outputs.find? fun entry => base entry.1 = outputName with
        | some entry => .ok (.value entry.2)
        | none => .error (.outputNotFound outputName subworkflowName)

/-- `getCWLSourceFromStepOutput`. -/
def getCWLSourceFromStepOutput (stepName outputName : String) : Except SourceError Fetched :=
  if base outputName ≠ outputName then .error (.outputNotBase outputName)
  else
    match WorkflowContext.getWorkflow job.context wi.workflowDefinition with
    | .error err => .error (.noWorkflow err)
    | .ok workflow =>
        match workflow.getStep stepName with
        | .error _ => .error (.stepNotFound stepName)
        | .ok step =>
            match step.getProcessType job.context with
            | .error err => .error (.noProcessType err)
            | .ok .commandLineTool | .ok .expressionTool =>
                getCWLSourceFromStepOutputTool store wi stepName outputName
            | .ok .workflow => getCWLSourceFromStepOutputWorkflow job wi stepName outputName

/-- `getCWLSourceFromWorkflowInput`. -/
def getCWLSourceFromWorkflowInput (workflowInputMap : GoMap String CWLValue) (srcBase : String) :
    Fetched :=
  match workflowInputMap.lookup srcBase with
  | some obj => .value obj
  | none => .absent

/-- The value of a single source, before a default is considered. -/
def fetchSource (workflowInputMap : GoMap String CWLValue) (source : String) :
    Except SourceError Fetched :=
  match classify wi.localID source with
  | .error err => .error err
  | .ok (.stepOutput stepName outputName) =>
      getCWLSourceFromStepOutput store job wi stepName outputName
  | .ok (.workflowInput inputName) => .ok (getCWLSourceFromWorkflowInput workflowInputMap inputName)

/-- A child of a scatter step reads one element of the array behind its source. -/
def selectElement (sourceIndex : Nat) (obj : CWLValue) : Except SourceError CWLValue :=
  if sourceIndex = 0 then .ok obj
  else
    match obj with
    | .array items =>
        match items[sourceIndex - 1]? with
        | some element => .ok element
        | none => .error (.indexOutOfBounds (sourceIndex - 1) items.length)
    | _ => .error .noArray

/-- The results of the branch for an array of sources. -/
abbrev ArrayLookup := WorkflowStepInput -> List (Option String) ->
    Except SourceError (Option CWLValue)

/-- `GetStepInputObject`: the value for the input, or `none` where nothing was
found and the default, if there is one, takes its place. -/
def getStepInputObject (getArray : ArrayLookup) (workflowInputMap : GoMap String CWLValue)
    (input : WorkflowStepInput) : Except SourceError (Option CWLValue) :=
  match input.source with
  | none => .ok none
  | some (.strings _) | some .other => .error .sourceType
  | some (.array sources) => getArray input sources
  | some (.string source) =>
      match fetchSource store job wi workflowInputMap source with
      | .error err => .error err
      | .ok (.value obj) => (selectElement input.sourceIndex obj).map some
      | .ok _ => .ok none

/-- The first loop of `GetStepInputObjects`: an input that was not found is
passed over, an error ends the loop. -/
def getStepInputObjects (getArray : ArrayLookup) (workflowInputMap : GoMap String CWLValue) :
    List WorkflowStepInput -> Except SourceError JobDocument
  | [] => .ok []
  | input :: rest =>
      match getStepInputObject store job wi getArray workflowInputMap input with
      | .error err => .error err
      | .ok found =>
          (getStepInputObjects getArray workflowInputMap rest).map fun others =>
            (found.map fun obj => (base input.id, obj)).toList ++ others

end

/-- The step whose completion the readiness check of a single source asks for;
`none` when the source passes as a workflow input. -/
def generatorStep (localID src : String) : Option String :=
  let generator := dir (absoluteSource localID src)
  if (split generator).length = 1 then none
  else
    let srcGenerator := withoutUUIDs generator
    if srcGenerator = localID then none
    else if (split (absoluteSource localID srcGenerator)).length = 1 then none
    else some (base srcGenerator)

section

variable {store : Store} {job : Job} {wi : WorkflowInstance}

/-- The check of a single source succeeds only for a workflow input or a
completed step. -/
theorem checkString_passes {src name : String} {loop next : Loop}
    (passes : checkString store job wi src loop = .ok next)
    (named : generatorStep wi.localID src = some name) :
    StepCompleted store job wi name (generatorAbs wi.localID src) := by
  simp only [checkString] at passes
  simp only [generatorStep] at named
  by_cases single : (split (dir (absoluteSource wi.localID src))).length = 1
  · rw [if_pos single] at named
    cases named
  · rw [if_neg single] at passes named
    split at named
    · cases named
    · next other =>
        split at named
        · cases named
        · next several =>
            have name_eq := Option.some.inj named
            have dot : dir (absoluteSource wi.localID src) ≠ "." := by
              intro same
              rw [same] at single
              exact single (by decide)
            have nonempty : dir (absoluteSource wi.localID src) ≠ "" := by
              intro same
              rw [same] at single
              exact single (by decide)
            have asked : isSourceGeneratorReady store job wi
                (dir (absoluteSource wi.localID src)) false =
                isStepReady store job wi (withoutUUIDs (dir (absoluteSource wi.localID src)))
                  (generatorAbs wi.localID src) false := by
              unfold isSourceGeneratorReady
              simp only [if_neg nonempty, if_neg dot, if_neg other]
              rw [if_neg several]
              rfl
            rw [asked] at passes
            have spec := @isStepReady_spec store job wi
                (withoutUUIDs (dir (absoluteSource wi.localID src)))
              (generatorAbs wi.localID src)
            cases answer : isStepReady store job wi
                (withoutUUIDs (dir (absoluteSource wi.localID src)))
                (generatorAbs wi.localID src) false with
            | mk ok reason err =>
                rw [answer] at spec passes
                cases ok with
                | true =>
                    rw [← name_eq]
                    exact spec.1.1 rfl
                | false => cases err <;> cases passes

/-- A single source that is not ready is never reported as ready. -/
private theorem checkString_stops {src : String} {loop : Loop} {results : Results}
    (stops : checkString store job wi src loop = .error results) :
    ¬(results.ready = true ∧ results.err = none) := by
  simp only [checkString] at stops
  split at stops
  · cases stops
  · split at stops
    · cases stops
      simp
    · cases stops
      simp
    · cases stops

/-- With single sources only, ready inputs all pass their check. -/
theorem checkInputs_passes {inputs : List WorkflowStepInput} {loop : Loop}
    (single : forall wsi, wsi ∈ inputs -> Exists fun src => wsi.source = some (.string src))
    (ready : (checkInputs store job wi inputs loop).ready = true ∧
      (checkInputs store job wi inputs loop).err = none) :
    forall wsi, wsi ∈ inputs -> forall src, wsi.source = some (.string src) ->
      Exists fun before => Exists fun after => checkString store job wi src before = .ok after := by
  induction inputs generalizing loop with
  | nil => exact fun _ member => absurd member List.not_mem_nil
  | cons first rest inductionHypothesis =>
      rcases single first List.mem_cons_self with ⟨source, isString⟩
      simp only [checkInputs, isString, checkSource] at ready
      cases result : checkString store job wi source loop with
      | error results =>
          rw [result] at ready
          exact absurd ready (checkString_stops result)
      | ok next =>
          rw [result] at ready
          have later := inductionHypothesis
            (fun other member => single other (List.mem_cons_of_mem _ member)) ready
          intro wsi member src written
          rcases List.mem_cons.1 member with rfl | behind
          · rw [isString] at written
            cases written
            exact ⟨loop, next, result⟩
          · exact later wsi behind src written

end

/-! ## The sources that both sides are meant to read -/

/-- A single source by its parts: relative or under the instance's name, with the UUID of an
embedded workflow or without. Statements about sources are made about their parts, so that names
are told from marks once and for all; `text` puts the parts together again. -/
structure SourceForm where
  absolute : Bool
  uuid : Option String
  kind : SourceKind

namespace SourceForm

variable (form : SourceForm)

/-- The elements after the name of the instance. -/
def names : List String :=
  form.uuid.toList ++
    match form.kind with
    | .workflowInput inputName => [inputName]
    | .stepOutput stepName outputName => [stepName, outputName]

def text (localID : String) : String :=
  if form.absolute then join (localID :: form.names) else join form.names

/-- The parts are names, only an absolute source has a UUID, and a relative
source does not look like an absolute one. -/
structure WellFormed : Prop where
  plain : forall name, name ∈ form.names -> Plain name
  uuid : forall uuid, form.uuid = some uuid -> uuidShape uuid.toList = true ∧ form.absolute = true
  relative : form.absolute = false -> hasPrefix (join form.names) "#" = false

/-- The names on which the two readings agree.  In an absolute source without a
UUID the first name must be no UUID for an input, and a UUID exactly when it has
36 bytes for a step; elsewhere the name of a step must not have 36 bytes. -/
def Safe : Prop :=
  match form.kind with
  | .workflowInput inputName =>
      form.absolute = true -> form.uuid = none -> uuidParses inputName = false
  | .stepOutput stepName _ =>
      if form.absolute = true ∧ form.uuid = none then
        (uuidParses stepName = true ↔ stepName.utf8ByteSize = 36)
      else stepName.utf8ByteSize ≠ 36

end SourceForm

/-- The name of an instance: an absolute path of names, none of 36 bytes. -/
structure InstanceName (localID : String) : Prop where
  absolute : hasPrefix localID "#" = true
  plain : forall element, element ∈ split localID -> Plain element
  short : forall element, element ∈ split localID -> element.utf8ByteSize ≠ 36

/-- Both sides read the source, and as the same thing. Both have to classify the source, since a
source that one of them cannot read at all is no agreement. -/
def SameKind (localID src : String) : Prop :=
  Exists fun kind => classify localID src = .ok kind ∧ kind.step = generatorStep localID src

section

variable {localID : String} {form : SourceForm}

theorem names_ne_nil (form : SourceForm) : form.names ≠ [] := by
  unfold SourceForm.names
  cases form.kind <;> simp

private theorem split_ne_nil (name : InstanceName localID) : split localID ≠ [] := by
  rcases split_hash name.absolute with ⟨first, rest, splits, _⟩
  rw [splits]
  simp

/-- The names below the instance, as elements of one path. -/
private theorem plain_below (name : InstanceName localID) {below : List String}
    (plain : forall element, element ∈ below -> Plain element) :
    forall element, element ∈ split localID ++ below -> Plain element := by
  intro element member
  rcases List.mem_append.1 member with above | under
  · exact name.plain element above
  · exact plain element under

private theorem join_below (name : InstanceName localID) {below : List String}
    (nonempty : below ≠ []) :
    join (split localID ++ below) = localID ++ "/" ++ join below := by
  rw [join_append (split_ne_nil name) nonempty, join_split]

/-- Relative or absolute, the source names a path below the instance. -/
theorem absoluteSource_text (name : InstanceName localID) (wellFormed : form.WellFormed) :
    absoluteSource localID (form.text localID) = join (split localID ++ form.names) := by
  have below := join_below name (names_ne_nil form)
  unfold absoluteSource SourceForm.text
  cases absolute : form.absolute with
  | true =>
      have text : join (localID :: form.names) = localID ++ "/" ++ join form.names := by
        rw [← List.singleton_append, join_append (by simp) (names_ne_nil form), join_singleton]
      rw [if_pos rfl, text, if_pos, below]
      rw [String.append_assoc]
      exact hasPrefix_append name.absolute _
  | false =>
      have relative : hasPrefix (join form.names) "#" = false := wellFormed.relative absolute
      have nonempty : localID ≠ "" := by
        intro empty
        have starts := name.absolute
        rw [empty] at starts
        exact absurd starts (by decide)
      have text : join [localID, join form.names] = localID ++ "/" ++ join form.names := by
        rw [← List.singleton_append, join_append (by simp) (by simp), join_singleton,
            join_singleton]
      simp only [relative, Bool.false_eq_true, if_false]
      unfold joinPath
      rw [if_pos nonempty]
      apply clean_eq_join (plain_below name wellFormed.plain) (by simp [names_ne_nil])
      rw [text, split_append, split_plain wellFormed.plain (names_ne_nil form)]

/-- The generator path has all names but the last. -/
theorem dir_text (name : InstanceName localID) (wellFormed : form.WellFormed) :
    dir (absoluteSource localID (form.text localID)) = join
        (split localID ++ form.names.dropLast) := by
  have last := List.getLast_mem (names_ne_nil form)
  have front : forall element, element ∈ form.names.dropLast -> Plain element :=
    fun element member => wellFormed.plain element ((List.dropLast_sublist _).subset member)
  rw [absoluteSource_text name wellFormed]
  conv => lhs; rw [← List.dropLast_append_getLast (names_ne_nil form), ← List.append_assoc]
  exact dir_join (plain_below name front) (wellFormed.plain _ last) (by simp [split_ne_nil name])

/-- The names of a generator path that are left when those of 36 bytes are
dropped; none of the instance's own is. -/
private def kept (form : SourceForm) : List String :=
  form.names.dropLast.filter fun element => element.utf8ByteSize ≠ 36

private theorem plain_kept (wellFormed : form.WellFormed) :
    forall element, element ∈ kept form -> Plain element :=
  fun element member =>
    wellFormed.plain element ((List.dropLast_sublist _).subset (List.mem_of_mem_filter member))

theorem withoutUUIDs_text (name : InstanceName localID) (wellFormed : form.WellFormed) :
    withoutUUIDs (dir (absoluteSource localID (form.text localID))) =
      join (split localID ++ kept form) := by
  have front : forall element, element ∈ form.names.dropLast -> Plain element :=
    fun element member => wellFormed.plain element ((List.dropLast_sublist _).subset member)
  have own : (split localID).filter (fun element => element.utf8ByteSize ≠ 36) = split localID :=
    List.filter_eq_self.2 fun element member => by simpa using name.short element member
  unfold withoutUUIDs
  rw [dir_text name wellFormed, split_plain (plain_below name front) (by simp [split_ne_nil name]),
    List.filter_append, own]
  rfl

private theorem split_below (name : InstanceName localID) (wellFormed : form.WellFormed) :
    split (join (split localID ++ kept form)) = split localID ++ kept form :=
  split_plain (plain_below name (plain_kept wellFormed)) (by simp [split_ne_nil name])

private theorem absolute_below (name : InstanceName localID) (below : List String) :
    hasPrefix (join (split localID ++ below)) "#" = true := by
  rcases split_hash name.absolute with ⟨first, rest, splits, starts⟩
  rw [splits, List.cons_append]
  exact hasPrefix_join starts _

theorem generatorAbs_text (name : InstanceName localID) (wellFormed : form.WellFormed) :
    generatorAbs localID (form.text localID) = join (split localID ++ kept form) := by
  unfold generatorAbs
  rw [generatorPath, withoutUUIDs_text name wellFormed, absoluteSource,
      if_pos (absolute_below name _)]

/-- The readiness check asks for the last name of the generator path that does
not have 36 bytes. -/
theorem generatorStep_text (name : InstanceName localID) (wellFormed : form.WellFormed) :
    generatorStep localID (form.text localID) = (kept form).getLast? := by
  have splits := split_below name wellFormed
  unfold generatorStep
  simp only [withoutUUIDs_text name wellFormed]
  have absolute : absoluteSource localID (join (split localID ++ kept form)) =
      join (split localID ++ kept form) := by
    rw [absoluteSource, if_pos (absolute_below name _)]
  rw [absolute, splits]
  by_cases nothing : kept form = []
  · rw [nothing, List.append_nil, join_split]
    simp
  · have longer : join (split localID ++ kept form) ≠ localID := by
      intro same
      rw [same] at splits
      exact nothing (List.append_right_eq_self.1 splits.symm)
    have several : (split localID ++ kept form).length ≠ 1 := by
      have first := List.length_pos_of_ne_nil (split_ne_nil name)
      have second := List.length_pos_of_ne_nil nothing
      rw [List.length_append]
      omega
    have generator : (split (dir (absoluteSource localID (form.text localID)))).length ≠ 1 := by
      have front : forall element, element ∈ form.names.dropLast -> Plain element :=
        fun element member => wellFormed.plain element ((List.dropLast_sublist _).subset member)
      have fewer : (kept form).length ≤ form.names.dropLast.length := List.length_filter_le ..
      rw [dir_text name wellFormed, split_plain (plain_below name front)
          (by simp [split_ne_nil name])]
      rw [List.length_append] at several ⊢
      have first := List.length_pos_of_ne_nil (split_ne_nil name)
      have second := List.length_pos_of_ne_nil nothing
      omega
    rw [if_neg generator, if_neg longer, if_neg several,
      base_join (plain_below name (plain_kept wellFormed)) (by simp [nothing]),
      List.getLast?_eq_some_getLast nothing, List.getLast_append_of_ne_nil _ nothing]

/-- How the lookup reads the names below the instance. -/
def readNames (names : List String) : Option SourceKind :=
  match names with
  | [inputName] => some (.workflowInput inputName)
  | [stepName, outputName] => some (.stepOutput stepName outputName)
  | _ => none

/-- The lookup reads the names after the one UUID that it drops. -/
theorem classify_text (absoluteName : hasPrefix localID "#" = true) (wellFormed : form.WellFormed)
    (kind : SourceKind) :
    classify localID (form.text localID) = .ok kind ↔
      readNames (if form.absolute && uuidParses (form.names.headD "") then form.names.tail
        else form.names) = some kind := by
  have splits := split_plain wellFormed.plain (names_ne_nil form)
  have reads : forall (source : String) (names : List String),
      (match names with
        | [inputName] => (.ok (.workflowInput inputName) : Except SourceError SourceKind)
        | [stepName, outputName] => .ok (.stepOutput stepName outputName)
        | _ => .error (.cannotParse source localID)) = .ok kind ↔ readNames names = some kind := by
    intro source names
    match names with
    | [] => simp [readNames]
    | [inputName] => simp [readNames]
    | [stepName, outputName] => simp [readNames]
    | _ :: _ :: _ :: _ => simp [readNames]
  unfold SourceForm.text classify
  cases absolute : form.absolute with
  | true =>
      have text : join (localID :: form.names) = localID ++ "/" ++ join form.names := by
        rw [← List.singleton_append, join_append (by simp) (names_ne_nil form), join_singleton]
      have starts : hasPrefix (localID ++ "/" ++ join form.names) "#" = true := by
        rw [String.append_assoc]
        exact hasPrefix_append absoluteName _
      simp only [if_true, Bool.true_and, text, starts, hasPrefix_self, trimPrefix_append, splits]
      exact reads _ _
  | false =>
      simp only [Bool.false_eq_true, if_false, Bool.false_and, wellFormed.relative absolute, splits]
      exact reads _ _

/-- Both sides read a source alike exactly when its names are safe. -/
theorem sameKind_iff (name : InstanceName localID) (wellFormed : form.WellFormed) :
    SameKind localID (form.text localID) ↔ form.Safe := by
  unfold SameKind
  simp only [classify_text name.absolute wellFormed, generatorStep_text name wellFormed]
  rcases form with ⟨absolute, uuid, kind⟩
  cases uuid with
  | none =>
      cases kind with
      | workflowInput inputName =>
          cases absolute <;> cases parses : uuidParses inputName <;>
            simp [SourceForm.names, SourceForm.Safe, kept, readNames, SourceKind.step, parses]
      | stepOutput stepName outputName =>
          by_cases long : stepName.utf8ByteSize = 36 <;> cases absolute <;>
            cases parses : uuidParses stepName <;>
            simp [SourceForm.names, SourceForm.Safe, kept, readNames, SourceKind.step, parses, long]
  | some uuid =>
      rcases wellFormed.uuid uuid rfl with ⟨shape, isAbsolute⟩
      have parses : uuidParses uuid = true := by
        unfold uuidParses
        rw [shape, Bool.true_or]
      simp only at isAbsolute
      have size := uuidShape_size shape
      cases kind with
      | workflowInput inputName =>
          simp [SourceForm.names, SourceForm.Safe, kept, readNames, SourceKind.step, parses,
              size, isAbsolute]
      | stepOutput stepName outputName =>
          by_cases long : stepName.utf8ByteSize = 36 <;>
            simp [SourceForm.names, SourceForm.Safe, kept, readNames, SourceKind.step, parses, size,
              isAbsolute, long]

end

/-! ## Where the check and the lookup agree -/

section

variable {store : Store} {job : Job} {wi : WorkflowInstance}

/-- The tasks of an instance are named after their steps, as `NewTask` builds
the names, and `AddTask` keeps the names distinct. -/
structure TasksNamed (store : Store) (wi : WorkflowInstance) : Prop where
  named : forall ptr, ptr ∈ wi.tasks -> Exists fun name => Plain name ∧
    (store.task ptr).ident = ⟨wi.localID ++ "/" ++ name, wi.jobID⟩
  distinct : wi.tasks.Pairwise fun ptr other =>
    (store.task ptr).ident.taskName ≠ (store.task other).ident.taskName

/-- A task found by its base name is the one found by its identifier. -/
theorem getTask_of_getTaskByName {name : String} {ptr : Nat}
    (instanceName : InstanceName wi.localID) (tasks : TasksNamed store wi)
    (found : store.getTaskByName wi name = some ptr) :
    store.getTask wi ⟨wi.localID ++ "/" ++ name, wi.jobID⟩ = some ptr := by
  have member : ptr ∈ wi.tasks := List.mem_of_find?_eq_some found
  have basename := List.find?_some found
  rcases tasks.named ptr member with ⟨taskName, plain, ident⟩
  have nonempty : split wi.localID ++ [taskName] ≠ [] := by simp
  have path : wi.localID ++ "/" ++ taskName = join (split wi.localID ++ [taskName]) := by
    rw [join_below instanceName (by simp), join_singleton]
  have same : taskName = name := by
    have last := base_join (plain_below instanceName (by simpa using plain)) nonempty
    rw [← path, List.getLast_append_singleton] at last
    rw [ident] at basename
    simp only [decide_eq_true_eq] at basename
    rw [← basename, last]
  rw [same] at ident
  unfold Store.getTask
  cases search : wi.tasks.reverse.find? fun other =>
      (store.task other).ident = ⟨wi.localID ++ "/" ++ name, wi.jobID⟩ with
  | none =>
      have absent := List.find?_eq_none.1 search ptr (List.mem_reverse.2 member)
      exact absurd ident (by simpa using absent)
  | some other =>
      have otherIdent := List.find?_some search
      have otherMember := List.mem_reverse.1 (List.mem_of_find?_eq_some search)
      simp only [decide_eq_true_eq] at otherIdent
      by_contra different
      have apart : ptr ≠ other := fun equal => different (by rw [equal])
      have symmetric : Std.Symm fun ptr other : Nat =>
          (store.task ptr).ident.taskName ≠ (store.task other).ident.taskName :=
        ⟨fun _ _ unequal => unequal.symm⟩
      apply tasks.distinct.forall member otherMember apart
      rw [ident, otherIdent]

/-- A completed step is not reported missing. -/
theorem fetch_of_completed {stepName outputName : String} (instanceName : InstanceName wi.localID)
    (tasks : TasksNamed store wi)
    (completed : StepCompleted store job wi stepName (wi.localID ++ "/" ++ stepName)) :
    (forall err, getCWLSourceFromStepOutput store job wi stepName outputName = .error err ->
        ¬err.MissingStep) ∧
      getCWLSourceFromStepOutput store job wi stepName outputName ≠ .ok .noTask := by
  rcases completed with ⟨kind, ⟨workflow, step, defined, found, runs⟩, done⟩
  have tool : (Exists fun ptr => store.getTaskByName wi stepName = some ptr ∧
        (store.task ptr).state = .completed) ->
      (forall err, getCWLSourceFromStepOutputTool store wi stepName outputName = .error err ->
          ¬err.MissingStep) ∧
        getCWLSourceFromStepOutputTool store wi stepName outputName ≠ .ok .noTask := by
    rintro ⟨ptr, byName, isCompleted⟩
    unfold getCWLSourceFromStepOutputTool
    rw [getTask_of_getTaskByName instanceName tasks byName]
    constructor
    · intro err fails
      split at fails
      · cases fails
        exact id
      · split at fails
        · cases fails
          exact id
        · split at fails
          · cases fails
            exact id
          · simp only [isCompleted, ne_eq, not_true_eq_false, if_false] at fails
            split at fails <;> cases fails
    · simp only [isCompleted, ne_eq, not_true_eq_false, if_false]
      split
      · simp
      · split
        · simp
        · split
          · simp
          · split <;> simp
  unfold getCWLSourceFromStepOutput
  rw [defined]
  simp only [found, runs]
  by_cases baseName : base outputName = outputName
  · rw [if_neg (not_not.2 baseName)]
    cases kind with
    | commandLineTool => exact tool done
    | expressionTool => exact tool done
    | workflow =>
        rcases done with ⟨other, listed, isCompleted⟩
        simp only [getCWLSourceFromStepOutputWorkflow, listed, isCompleted, ne_eq,
            not_true_eq_false,
          if_false]
        cases subwiOutput : other.outputs.find? fun entry => base entry.1 = outputName with
        | some entry => simp
        | none => simp [SourceError.MissingStep]
  · rw [if_pos baseName]
    simp [SourceError.MissingStep]

/-- The lookup of the inputs of a step does not fail because a source step is
missing or not completed. -/
def NoMissingStep (store : Store) (job : Job) (wi : WorkflowInstance) (getArray : ArrayLookup)
    (workflowInputMap : GoMap String CWLValue) (step : WorkflowStep) : Prop :=
  (forall err, getStepInputObjects store job wi getArray workflowInputMap step.inputs =
      .error err ->
      ¬err.MissingStep) ∧
    forall wsi, wsi ∈ step.inputs -> forall src, wsi.source = some (.string src) ->
      fetchSource store job wi workflowInputMap src ≠ .ok .noTask

private theorem getStepInputObjects_error {getArray : ArrayLookup}
    {workflowInputMap : GoMap String CWLValue} {inputs : List WorkflowStepInput} {err : SourceError}
    (fails : getStepInputObjects store job wi getArray workflowInputMap inputs = .error err) :
    Exists fun wsi => wsi ∈ inputs ∧
      getStepInputObject store job wi getArray workflowInputMap wsi = .error err := by
  induction inputs with
  | nil => cases fails
  | cons first rest inductionHypothesis =>
      simp only [getStepInputObjects] at fails
      cases result : getStepInputObject store job wi getArray workflowInputMap first with
      | error other =>
          rw [result] at fails
          cases fails
          exact ⟨first, List.mem_cons_self, result⟩
      | ok found =>
          rw [result] at fails
          cases later : getStepInputObjects store job wi getArray workflowInputMap rest with
          | ok others =>
              rw [later] at fails
              cases fails
          | error other =>
              rw [later] at fails
              cases fails
              rcases inductionHypothesis later with ⟨wsi, member, fails⟩
              exact ⟨wsi, List.mem_cons_of_mem _ member, fails⟩

/-- The errors of a single source, apart from the choice of an element, come
from the fetch. -/
private theorem getStepInputObject_error {getArray : ArrayLookup}
    {workflowInputMap : GoMap String CWLValue} {wsi : WorkflowStepInput} {src : String}
    {err : SourceError} (written : wsi.source = some (.string src)) (missing : err.MissingStep)
    (fails : getStepInputObject store job wi getArray workflowInputMap wsi = .error err) :
    fetchSource store job wi workflowInputMap src = .error err := by
  simp only [getStepInputObject, written] at fails
  cases fetched : fetchSource store job wi workflowInputMap src with
  | error other =>
      rw [fetched] at fails
      cases fails
      rfl
  | ok found =>
      rw [fetched] at fails
      exfalso
      cases found with
      | noTask => cases fails
      | absent => cases fails
      | value obj =>
          simp only [selectElement] at fails
          split at fails
          · cases fails
          · split at fails
            · split at fails
              · cases fails
              · cases fails
                exact missing
            · cases fails
              exact missing

/-- At most the name of the step is left of a generator path below the instance. -/
private theorem kept_eq_singleton {form : SourceForm} {stepName : String}
    (wellFormed : form.WellFormed) (last : (kept form).getLast? = some stepName) :
    kept form = [stepName] := by
  rcases form with ⟨absolute, uuid, kind⟩
  have dropped : uuid.toList.filter (fun element => decide (element.utf8ByteSize ≠ 36)) = [] := by
    cases uuid with
    | none => rfl
    | some uuid => simp [uuidShape_size (wellFormed.uuid uuid rfl).1]
  cases kind with
  | workflowInput inputName =>
      have nothing : kept ⟨absolute, uuid, .workflowInput inputName⟩ = [] := by
        unfold kept SourceForm.names
        rw [List.dropLast_concat, dropped]
      rw [nothing] at last
      cases last
  | stepOutput name outputName =>
      have one : kept ⟨absolute, uuid, .stepOutput name outputName⟩ =
          [name].filter fun element => decide (element.utf8ByteSize ≠ 36) := by
        unfold kept SourceForm.names
        simp only
        rw [show uuid.toList ++ [name, outputName] = (uuid.toList ++ [name]) ++
            [outputName] by simp,
          List.dropLast_concat, List.filter_append, dropped, List.nil_append]
      rw [one] at last ⊢
      by_cases long : name.utf8ByteSize = 36
      · simp [long] at last
      · simp only [ne_eq, long, not_false_eq_true, decide_true, List.filter_cons_of_pos,
          List.filter_nil, List.getLast?_singleton, Option.some.injEq] at last ⊢
        rw [last]

/-- A safe source that passed the readiness check is not reported missing. -/
theorem fetch_of_passed {form : SourceForm} {workflowInputMap : GoMap String CWLValue}
    {before after : Loop} (instanceName : InstanceName wi.localID) (tasks : TasksNamed store wi)
    (wellFormed : form.WellFormed) (safe : form.Safe)
    (passes : checkString store job wi (form.text wi.localID) before = .ok after) :
    (forall err, fetchSource store job wi workflowInputMap (form.text wi.localID) = .error err ->
        ¬err.MissingStep) ∧
      fetchSource store job wi workflowInputMap (form.text wi.localID) ≠ .ok .noTask := by
  rcases (sameKind_iff instanceName wellFormed).2 safe with ⟨kind, classified, sameStep⟩
  unfold fetchSource
  rw [classified]
  cases kind with
  | workflowInput inputName =>
      simp only [getCWLSourceFromWorkflowInput]
      cases workflowInputMap.lookup inputName <;> simp
  | stepOutput stepName outputName =>
      have completed := checkString_passes passes sameStep.symm
      have last := (generatorStep_text instanceName wellFormed).symm.trans sameStep.symm
      rw [generatorAbs_text instanceName wellFormed, kept_eq_singleton wellFormed last,
        join_below instanceName (by simp), join_singleton] at completed
      exact fetch_of_completed instanceName tasks completed

/-- Readiness and lookup agree on a step with single sources exactly when the names in its sources
are safe: then both read every source as the same thing, and a step reported ready is not found to
lack a source step.

The readiness check takes every name of 36 bytes for a UUID, by its length only, and the lookup
makes the test properly; the names on which the two tests differ are what is not safe. -/
theorem readiness_agrees_iff (getArray : ArrayLookup) (workflowInputMap : GoMap String CWLValue)
    (step : WorkflowStep) (form : WorkflowStepInput -> SourceForm)
    (instanceName : InstanceName wi.localID) (tasks : TasksNamed store wi)
    (written : forall wsi, wsi ∈ step.inputs ->
      (form wsi).WellFormed ∧ wsi.source = some (.string ((form wsi).text wi.localID))) :
    ((forall wsi, wsi ∈ step.inputs -> SameKind wi.localID ((form wsi).text wi.localID)) ∧
      ((areSourceGeneratorsReady store job wi step).ready = true ∧
          (areSourceGeneratorsReady store job wi step).err = none ->
        NoMissingStep store job wi getArray workflowInputMap step)) ↔
    forall wsi, wsi ∈ step.inputs -> (form wsi).Safe := by
  have same : forall wsi, wsi ∈ step.inputs ->
      (SameKind wi.localID ((form wsi).text wi.localID) ↔ (form wsi).Safe) :=
    fun wsi member => sameKind_iff instanceName (written wsi member).1
  constructor
  · intro agrees wsi member
    exact (same wsi member).1 (agrees.1 wsi member)
  · intro safe
    refine ⟨fun wsi member => (same wsi member).2 (safe wsi member), ?_⟩
    intro ready
    have single : forall wsi, wsi ∈ step.inputs -> Exists fun src =>
        wsi.source = some (.string src) :=
      fun wsi member => ⟨_, (written wsi member).2⟩
    have available : forall wsi, wsi ∈ step.inputs -> forall src, wsi.source = some (.string src) ->
        (forall err, fetchSource store job wi workflowInputMap src = .error err ->
            ¬err.MissingStep) ∧
          fetchSource store job wi workflowInputMap src ≠ .ok .noTask := by
      intro wsi member src isString
      rcases checkInputs_passes single ready wsi member src isString with ⟨before, after, passes⟩
      have text := (written wsi member).2
      rw [isString] at text
      cases text
      exact fetch_of_passed instanceName tasks (written wsi member).1 (safe wsi member) passes
    constructor
    · intro err fails missing
      rcases getStepInputObjects_error fails with ⟨wsi, member, failed⟩
      rcases single wsi member with ⟨src, isString⟩
      exact (available wsi member src isString).1 err
        (getStepInputObject_error isString missing failed) missing
    · exact fun wsi member src isString => (available wsi member src isString).2

end

private def longName : String := "preprocess_and_quality_filter_reads1"

private def toolSteps : Workflow :=
  ⟨"#wf", [⟨"#wf/short", [], ["#wf/short/out"], .commandLineTool, [], ""⟩,
    ⟨"#wf/" ++ longName, [], ["#wf/" ++ longName ++ "/out"], .commandLineTool, [], ""⟩], [], []⟩

private def toolJob : Job :=
  ⟨"j", .inProgress, true, "#main", ⟨1, 0, "", false⟩, [], 0,
      AList.insert "#wf" (.workflow toolSteps) ∅, ∅⟩

private def toolInstance : WorkflowInstance :=
  { WorkflowInstance.blank with
    localID := "#main"
    jobID := "j"
    workflowDefinition := "#wf"
    tasks := [0, 1] }

/-- The short-named task is completed, the long-named one is pending. -/
private def toolStore : Store where
  task := fun ptr =>
    if ptr = 0 then { Task.blank with ident := ⟨"#main/short", "j"⟩, state := .completed }
    else { Task.blank with ident := ⟨"#main/" ++ longName, "j"⟩, state := .pending }
  nextTask := 2
  jobs := ∅

private def outputOf (stepName : String) : SourceForm :=
  ⟨false, none, .stepOutput stepName "out"⟩

private def readsFrom (stepName : String) : WorkflowStep :=
  ⟨"#wf/last", [⟨"#wf/last/in", some (.string ((outputOf stepName).text "#main")), 0, false⟩], [],
    .commandLineTool, [], ""⟩

private def noArrays : ArrayLookup := fun _ _ => .ok none

/-- The output of the short-named step is read alike by both sides. -/
theorem readiness_agrees_short :
    (areSourceGeneratorsReady toolStore toolJob toolInstance (readsFrom "short")).ready = true ∧
      (outputOf "short").Safe ∧
      SameKind "#main" ((outputOf "short").text "#main") ∧
      NoMissingStep toolStore toolJob toolInstance noArrays ∅ (readsFrom "short") := by
  have instanceName : InstanceName toolInstance.localID := ⟨by decide, by decide, by decide⟩
  have tasks : TasksNamed toolStore toolInstance := by
    refine ⟨?_, by decide⟩
    intro ptr member
    rcases List.mem_cons.1 member with rfl | later
    · exact ⟨"short", by decide, by decide⟩
    · rw [List.mem_singleton.1 later]
      exact ⟨longName, by decide, by decide⟩
  have wellFormed : (outputOf "short").WellFormed :=
    ⟨by decide, fun uuid given => (by cases given), by decide⟩
  have safe : (outputOf "short").Safe := by
    change "short".utf8ByteSize ≠ 36
    decide
  have agrees := (@readiness_agrees_iff toolStore toolJob toolInstance noArrays ∅
      (readsFrom "short")
    (fun _ => outputOf "short") instanceName tasks
    (fun wsi member => ⟨wellFormed, by rw [List.mem_singleton.1 member]; rfl⟩)).2 (fun _ _ => safe)
  have ready : (areSourceGeneratorsReady toolStore toolJob toolInstance (readsFrom "short")).ready =
      true ∧
      (areSourceGeneratorsReady toolStore toolJob toolInstance (readsFrom "short")).err = none := by
    decide
  exact ⟨ready.1, safe, agrees.1 _ List.mem_cons_self, agrees.2 ready⟩

/-- The output of the long-named step passes as a workflow input, although its
task is pending; the lookup then finds the task not completed. -/
theorem readiness_differs_long :
    (areSourceGeneratorsReady toolStore toolJob toolInstance (readsFrom longName)).ready = true ∧
      (areSourceGeneratorsReady toolStore toolJob toolInstance (readsFrom longName)).err = none ∧
      ¬SameKind "#main" ((outputOf longName).text "#main") ∧
      ¬NoMissingStep toolStore toolJob toolInstance noArrays ∅ (readsFrom longName) := by
  refine ⟨by decide, by decide, ?_, ?_⟩
  · rintro ⟨kind, classified, same⟩
    have asStep : classify "#main" ((outputOf longName).text "#main") =
        .ok (.stepOutput longName "out") := by rfl
    rw [asStep] at classified
    cases classified
    exact absurd same (by decide)
  · intro available
    exact available.1 (.taskNotCompleted .pending) (by rfl) trivial

end InputLookup
end Core
end Awe
