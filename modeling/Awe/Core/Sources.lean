import Awe.Core.Completion
import Awe.Core.InputLookup

namespace Awe
namespace Core

open Lib Lib.Path InputLookup

/-!
# Sources in lists

A source that stands alone is read by `GetStepInputObject` itself.  The sources
in a list, the sources of a scatter and those of the outputs of a workflow all
go through `getCWLSource`, which has other rules for the same text: it drops
the first element of a path if it starts with `#` or has 36 bytes, shortens
what is longer than three elements if it finds 36 bytes in the right place,
and takes one element for an input and two for an output of a step.

The module embeds `getCWLSource` and settles for which sources the two agree.
Every caller passes `errorOnMissingTask`.
-/

/-- The errors of `getCWLSource`. -/
inductive LookupError where
  | length (count : Nat)
  | nope
  | noInputs (src : String)
  | noWorkflow (err : String)
  | noInputParameter (name : String)
  | noType
  | inputNotFound (name : String)
  | step (err : SourceError)

namespace Sources

/-- The part of `getCWLSource` for more than three elements: the name of an
embedded workflow is looked for at two places from the end. -/
def shorten (srcArray : List String) : List String :=
  match srcArray.reverse with
  | last :: second :: third :: _ :: _ =>
      if third.utf8ByteSize = 36 then [second, last]
      else if second.utf8ByteSize = 36 then [last]
      else srcArray
  | _ => srcArray

/-- What `getCWLSource` takes the elements that are left for. -/
def readElements : List String -> Except LookupError SourceKind
  | [inputName] => .ok (.workflowInput inputName)
  | [stepName, outputName] =>
      if stepName.utf8ByteSize = 36 then .error .nope else .ok (.stepOutput stepName outputName)
  | srcArray => .error (.length srcArray.length)

/-- How `getCWLSource` reads the text of a source. -/
def readSource (src : String) : Except LookupError SourceKind :=
  let srcArray := split src
  if hasPrefix src "#" ∨ (srcArray.headD "").utf8ByteSize = 36 then
      readElements (shorten srcArray.tail)
  else readElements (shorten srcArray)

/-- `GetSourceFromWorkflowInstanceInput`. -/
def getSourceFromWorkflowInstanceInput (job : Job) (wi : WorkflowInstance) (src : String) :
    Except LookupError Fetched :=
  match wi.inputs with
  | none => .error (.noInputs src)
  | some inputs =>
      match Store.documentGet inputs (base src) with
      | some obj => .ok (.value obj)
      | none =>
          match WorkflowContext.getWorkflow job.context wi.workflowDefinition with
          | .error err => .error (.noWorkflow err)
          | .ok workflow =>
              match workflow.inputs.find? fun inp => base inp.id = base src with
              | none => .error (.noInputParameter (base src))
              | some parameter =>
                  match parameter.types with
                  | none => .error .noType
                  | some types =>
                      if .null ∈ types then .ok .absent else .error (.inputNotFound (base src))

/-- `getCWLSource`. -/
def getCWLSource (store : Store) (job : Job) (wi : WorkflowInstance) (src : String) :
    Except LookupError Fetched :=
  match readSource src with
  | .error err => .error err
  | .ok (.workflowInput inputName) => getSourceFromWorkflowInstanceInput job wi inputName
  | .ok (.stepOutput stepName outputName) =>
      match getCWLSourceFromStepOutput store job wi stepName outputName with
      | .error err => .error (.step err)
      | .ok fetched => .ok fetched

/-- The reason of `task.GetStepOutput` for an output that is not there. -/
def stepOutputReason (task : Task) : String :=
  match task.stepOutput with
  | none => "task.StepOutput == nil"
  | some outputs =>
      let outputList := outputs.foldl (fun list entry => list ++ "," ++ base entry.1) ""
      "(GetStepOutput) task=" ++ task.globalId ++ "  only found: " ++
        (if outputList = "" then "nothing" else outputList)

/-- The reason of `getCWLSourceFromStepOutputTool` when it finds no task, or no
output of the task. -/
def stepOutputToolReason (store : Store) (wi : WorkflowInstance) (stepName outputName : String) :
    String :=
  let ancestor : TaskUniqueIdentifier := ⟨wi.localID ++ "/" ++ stepName, wi.jobID⟩
  match store.getTask wi ancestor with
  | none =>
      "(getCWLSourceFromStepOutputTool) ancestor_task " ++ ancestor.string.1 ++
          " not found in workflowInstance " ++
        wi.localID ++ " (tasks found: " ++
        (if wi.tasks = [] then "no tasks found"
          else wi.tasks.foldl (fun list ptr => list ++ "," ++ (store.task ptr).ident.string.1)
          "") ++ ")"
  | some ptr =>
      "(getCWLSourceFromStepOutputTool) Output " ++ ancestor.taskName ++
          " (outputName: " ++ outputName ++
        ") not found in output of ancestor_task=" ++ ancestor.string.1 ++ ", reason: " ++
        stepOutputReason (store.task ptr)

/-- The reason that `getCWLSource` gives when it answers neither with a value
nor with an error.  Only the closing of an instance reads it, so that it stands
beside the lookup and not in its result.  An input without a value has to be
optional, and the output of a sub-workflow is never just missing. -/
def missingReason (store : Store) (wi : WorkflowInstance) (src : String) : String :=
  match readSource src with
  | .error _ => ""
  | .ok (.workflowInput _) => "GetSourceFromWorkflowInstanceInput returned: optional"
  | .ok (.stepOutput stepName outputName) =>
      "(getCWLSource) getCWLSourceFromStepOutput returned: " ++ stepOutputToolReason store wi
          stepName outputName

/-- `Job_document.GetMap`. -/
def getMap (document : JobDocument) : GoMap String CWLValue :=
  document.foldl (fun map entry => map.insert entry.1 entry.2) ∅

/-- The single source, with the map of the inputs of the instance. -/
def getSingleSource (store : Store) (job : Job) (wi : WorkflowInstance) (src : String) :
    Except SourceError Fetched :=
  fetchSource store job wi (getMap (wi.inputs.getD [])) src

/-! ## Agreement -/

/-- The two readings take a source for the same thing, or both refuse it. An error counts as a
reading, since a source that both refuse is treated alike. -/
def SameReading (localID src : String) : Prop :=
  (Exists fun kind => readSource src = .ok kind ∧ classify localID src = .ok kind) ∨
    ((Exists fun err => readSource src = .error err) ∧ Exists fun err =>
    classify localID src = .error err)

/-- A source resolves the same way alone and in a list. A workflow author may write a single
source as a list of one, so the two have to mean the same. -/
structure SameSource (store : Store) (job : Job) (wi : WorkflowInstance) (src : String) : Prop where
  reading : SameReading wi.localID src
  value : forall listed single, getCWLSource store job wi src = .ok (.value listed) ->
    getSingleSource store job wi src = .ok (.value single) -> listed = single
  listed : forall value, getSingleSource store job wi src = .ok (.value value) ->
    forall err, getCWLSource store job wi src ≠ .error err
  single : forall value, getCWLSource store job wi src = .ok (.value value) ->
    forall err, getSingleSource store job wi src ≠ .error err

/-- The sources on which the two readings agree.  The list has the elements of
the name of the instance behind the first, from the last one on.

A relative source must not start with an element of 36 bytes.  An absolute one
with a UUID needs an instance that is deep enough for the elements in front of
its names to be dropped.  Without a UUID an instance at the top is safe; below
it nothing is dropped, unless a name of the instance has 36 bytes.

It is asked of the names in the source and in the name of the instance, which is all that either
rule looks at. -/
def Alike (localID : String) (form : SourceForm) : Prop :=
  match form.absolute, form.uuid, form.kind, (split localID).tail.reverse with
  | false, _, .workflowInput inputName, _ => inputName.utf8ByteSize ≠ 36
  | false, _, .stepOutput stepName _, _ => stepName.utf8ByteSize ≠ 36
  | true, some _, .workflowInput _, last :: _ :: _ => last.utf8ByteSize ≠ 36
  | true, some _, .workflowInput _, _ => False
  | true, some _, .stepOutput stepName _, _ :: _ => stepName.utf8ByteSize ≠ 36
  | true, some _, .stepOutput _ _, [] => False
  | true, none, .workflowInput inputName, [] => uuidParses inputName = false
  | true, none, .workflowInput inputName, [last] => uuidParses inputName = true ∧
      last.utf8ByteSize = 36
  | true, none, .workflowInput inputName, [_, _] => uuidParses inputName = true
  | true, none, .workflowInput inputName, last :: second :: _ :: _ =>
      if uuidParses inputName then (second.utf8ByteSize = 36 ↔ last.utf8ByteSize = 36)
      else second.utf8ByteSize ≠ 36 ∧ last.utf8ByteSize = 36
  | true, none, .stepOutput stepName _, [] => uuidParses stepName = false ∧
      stepName.utf8ByteSize ≠ 36
  | true, none, .stepOutput _ _, [_] => False
  | true, none, .stepOutput stepName _, last :: _ :: _ =>
      if uuidParses stepName then last.utf8ByteSize ≠ 36 ∧ stepName.utf8ByteSize = 36
      else stepName.utf8ByteSize ≠ 36 ∧ last.utf8ByteSize = 36

/-- The first and the last input of that name have the same value. One of the two functions takes
the first entry of a name, the other one the last. -/
def SingleValued (wi : WorkflowInstance) (inputName : String) : Prop :=
  Store.documentGet (wi.inputs.getD []) inputName = (getMap (wi.inputs.getD [])).lookup inputName

section

variable {localID : String} {form : SourceForm}

/-- The elements of an absolute source are those of the instance and its own. -/
theorem split_text (wellFormed : form.WellFormed) :
    split (form.text localID) = if form.absolute then split localID ++ form.names else
        form.names := by
  have splits := split_plain wellFormed.plain (names_ne_nil form)
  unfold SourceForm.text
  cases form.absolute with
  | true =>
      have text : join (localID :: form.names) = localID ++ "/" ++ join form.names := by
        rw [← List.singleton_append, join_append (by simp) (names_ne_nil form), join_singleton]
      rw [if_pos rfl, if_pos rfl, text, split_append, splits]
  | false => rw [if_neg (by decide), if_neg (by decide), splits]

theorem readSource_text (absoluteName : hasPrefix localID "#" = true)
    (wellFormed : form.WellFormed) :
    readSource (form.text localID) = readElements (shorten
      (if form.absolute then (split localID).tail ++ form.names
        else if (form.names.headD "").utf8ByteSize = 36 then form.names.tail else form.names)) := by
  unfold readSource
  rw [split_text wellFormed]
  cases absolute : form.absolute with
  | true =>
      have starts : hasPrefix (form.text localID) "#" = true := by
        have text : join (localID :: form.names) = localID ++ ("/" ++ join form.names) := by
          rw [← List.singleton_append, join_append (by simp) (names_ne_nil form), join_singleton,
              String.append_assoc]
        rw [SourceForm.text, absolute, if_pos rfl, text]
        exact hasPrefix_append absoluteName _
      rcases split_hash absoluteName with ⟨first, rest, splits, _⟩
      simp only [starts, true_or, if_true, splits, List.cons_append, List.tail_cons]
  | false =>
      have relative : hasPrefix (form.text localID) "#" = false := by
        rw [SourceForm.text, absolute, if_neg (by decide)]
        exact wellFormed.relative absolute
      simp only [relative, Bool.false_eq_true, false_or, if_false]
      split
      · rfl
      · rfl

/-- Both readings in terms of the elements. -/
theorem sameReading_elements (absoluteName : hasPrefix localID "#" = true)
    (wellFormed : form.WellFormed) :
    SameReading localID (form.text localID) ↔
      match readSource (form.text localID) with
      | .ok kind =>
          readNames (if form.absolute && uuidParses (form.names.headD "") then
              form.names.tail else form.names) =
            some kind
      | .error _ =>
          readNames (if form.absolute && uuidParses (form.names.headD "") then
              form.names.tail else form.names) =
            none := by
  have reads := classify_text absoluteName wellFormed
  unfold SameReading
  cases listed : readSource (form.text localID) with
  | ok kind =>
      dsimp only
      rw [← reads kind]
      constructor
      · rintro (⟨other, same, single⟩ | ⟨⟨err, fails⟩, _⟩)
        · cases same
          exact single
        · cases fails
      · exact fun single => Or.inl ⟨kind, rfl, single⟩
  | error err =>
      dsimp only
      constructor
      · rintro (⟨other, fails, _⟩ | ⟨_, other, refused⟩)
        · cases fails
        · rw [Option.eq_none_iff_forall_ne_some]
          intro kind isRead
          rw [(reads kind).mpr isRead] at refused
          cases refused
      · intro none
        refine Or.inr ⟨⟨err, rfl⟩, ?_⟩
        cases single : classify localID (form.text localID) with
        | error other => exact ⟨other, rfl⟩
        | ok kind =>
            rw [(reads kind).mp single] at none
            cases none

theorem readElements_long {srcArray : List String} (long : 2 < srcArray.length) :
    readElements srcArray = .error (.length srcArray.length) := by
  match srcArray with
  | [] => exact absurd long (by decide)
  | [_] => exact absurd long (by simp)
  | [_, _] => exact absurd long (by simp)
  | _ :: _ :: _ :: _ => rfl

/-- Both ends of a long path are plain: it stays long. -/
private theorem readElements_kept {above names : List String} (above_long : 1 < above.length)
    (named : names ≠ []) :
    readElements (above.reverse ++ names) = .error (.length (above.reverse ++ names).length) := by
  apply readElements_long
  have some := List.length_pos_of_ne_nil named
  rw [List.length_append, List.length_reverse]
  omega

/-- The two readings agree on exactly these sources. -/
theorem sameReading_iff (absoluteName : hasPrefix localID "#" = true)
    (wellFormed : form.WellFormed) :
    SameReading localID (form.text localID) ↔ Alike localID form := by
  rw [sameReading_elements absoluteName wellFormed, readSource_text absoluteName wellFormed]
  unfold Alike
  rw [← List.reverse_reverse (split localID).tail]
  generalize (split localID).tail.reverse = above
  rw [List.reverse_reverse]
  rcases form with ⟨absolute, uuid, kind⟩
  cases absolute with
  | false =>
      have noUUID : uuid = none := by
        cases uuid with
        | none => rfl
        | some uuid => exact absurd (wellFormed.uuid uuid rfl).2 (by simp)
      subst noUUID
      cases kind with
      | workflowInput inputName =>
          by_cases long : inputName.utf8ByteSize = 36 <;>
            simp [SourceForm.names, shorten, readElements, readNames, long]
      | stepOutput stepName outputName =>
          by_cases long : stepName.utf8ByteSize = 36 <;>
            simp [SourceForm.names, shorten, readElements, readNames, long]
  | true =>
      cases uuid with
      | some uuid =>
          have shape := (wellFormed.uuid uuid rfl).1
          have parses : uuidParses uuid = true := by
            unfold uuidParses
            rw [shape, Bool.true_or]
          have size := uuidShape_size shape
          cases kind with
          | workflowInput inputName =>
              cases above with
              | nil => simp [SourceForm.names, shorten, readElements, readNames, parses, size]
              | cons last more =>
                  cases more with
                  | nil => simp [SourceForm.names, shorten, readElements, readNames, parses]
                  | cons second more =>
                      by_cases long : last.utf8ByteSize = 36 <;>
                        simp [SourceForm.names, shorten, readElements, readNames,
                            parses, size, long]
          | stepOutput stepName outputName =>
              cases above with
              | nil => simp [SourceForm.names, shorten, readElements, readNames, parses]
              | cons last more =>
                  by_cases long : stepName.utf8ByteSize = 36 <;>
                    simp [SourceForm.names, shorten, readElements, readNames, parses, size, long]
      | none =>
          cases kind with
          | workflowInput inputName =>
              cases above with
              | nil =>
                  cases parses : uuidParses inputName <;>
                    simp [SourceForm.names, shorten, readElements, readNames, parses]
              | cons last more =>
                  cases more with
                  | nil =>
                      by_cases long : last.utf8ByteSize = 36 <;> cases parses :
                          uuidParses inputName <;>
                        simp [SourceForm.names, shorten, readElements, readNames, parses, long]
                  | cons second more =>
                      cases more with
                      | nil =>
                          cases parses : uuidParses inputName <;>
                            simp [SourceForm.names, shorten, readElements, readNames, parses]
                      | cons third more =>
                          have kept := @readElements_kept (last :: second :: third :: more)
                              [inputName] (by simp)
                            (by simp)
                          simp only [List.reverse_cons, List.append_assoc, List.cons_append,
                              List.nil_append] at kept
                          by_cases long : last.utf8ByteSize = 36 <;> by_cases before :
                              second.utf8ByteSize = 36 <;>
                            cases parses : uuidParses inputName <;>
                            simp [SourceForm.names, shorten, kept, readNames, parses, long, before]
                                <;>
                            simp [readElements, long]
          | stepOutput stepName outputName =>
              cases above with
              | nil =>
                  by_cases short : stepName.utf8ByteSize = 36 <;> cases parses :
                      uuidParses stepName <;>
                    simp [SourceForm.names, shorten, readElements, readNames, parses, short]
              | cons last more =>
                  cases more with
                  | nil =>
                      cases parses : uuidParses stepName <;>
                        simp [SourceForm.names, shorten, readElements, readNames, parses]
                  | cons second more =>
                      have kept := @readElements_kept (last :: second :: more)
                          [stepName, outputName] (by simp)
                        (by simp)
                      simp only [List.reverse_cons, List.append_assoc, List.cons_append,
                          List.nil_append] at kept
                      by_cases long : last.utf8ByteSize = 36 <;> by_cases short :
                          stepName.utf8ByteSize = 36 <;>
                        cases parses : uuidParses stepName <;>
                        simp [SourceForm.names, shorten, kept, readNames, parses, long, short] <;>
                        simp [readElements, short]

/-- A workflow input that a well-formed source is read as has a plain name. -/
theorem classify_plain {inputName : String} (absoluteName : hasPrefix localID "#" = true)
    (wellFormed : form.WellFormed)
    (reads : classify localID (form.text localID) = .ok (.workflowInput inputName)) :
    base inputName = inputName := by
  have named := (classify_text absoluteName wellFormed _).mp reads
  have member : inputName ∈ form.names := by
    have fromNames (names : List String)
        (isRead : readNames names = some (.workflowInput inputName)) :
        inputName ∈ names := by
      unfold readNames at isRead
      split at isRead
      · cases isRead
        exact List.mem_singleton.mpr rfl
      · cases isRead
      · cases isRead
    have inside := fromNames _ named
    split at inside
    · exact List.mem_of_mem_tail inside
    · exact inside
  have plain : forall element, element ∈ [inputName] -> Plain element := by
    intro element single
    rw [List.mem_singleton.mp single]
    exact wellFormed.plain inputName member
  have last := base_join plain (List.cons_ne_nil inputName [])
  rw [join_singleton] at last
  exact last

end

/-! ## The value of a source -/

section

variable {store : Store} {job : Job} {wi : WorkflowInstance}

/-- The map has the names of the document. -/
theorem getMap_isSome (document : JobDocument) (name : String) :
    ((getMap document).lookup name).isSome = (Store.documentGet document name).isSome := by
  have generalised (map : GoMap String CWLValue) :
      ((document.foldl (fun map entry => map.insert entry.1 entry.2) map).lookup name).isSome =
        ((map.lookup name).isSome || (Store.documentGet document name).isSome) := by
    induction document generalizing map with
    | nil => exact (Bool.or_false _).symm
    | cons entry rest inductionHypothesis =>
        rw [List.foldl_cons, inductionHypothesis, GoMap.lookup_insert_if]
        unfold Store.documentGet
        rw [List.find?_cons]
        by_cases same : name = entry.1
        · simp [same]
        · have different : ¬entry.1 = name := fun equal => same equal.symm
          simp [same, different]
  have whole := generalised ∅
  rw [AList.lookup_empty, Option.isSome_none, Bool.false_or] at whole
  exact whole

/-- A workflow input, alone and in a list. -/
theorem input_agrees_iff {inputName : String} (plain : base inputName = inputName) :
    ((forall listed single, getSourceFromWorkflowInstanceInput job wi inputName = .ok
        (.value listed) ->
        getCWLSourceFromWorkflowInput (getMap (wi.inputs.getD [])) inputName = .value single ->
            listed = single) ↔
      SingleValued wi inputName) ∧
    (forall value, getCWLSourceFromWorkflowInput (getMap (wi.inputs.getD [])) inputName =
        .value value ->
      forall err, getSourceFromWorkflowInstanceInput job wi inputName ≠ .error err) := by
  have names := getMap_isSome (wi.inputs.getD []) inputName
  unfold getSourceFromWorkflowInstanceInput getCWLSourceFromWorkflowInput SingleValued
  rw [plain]
  cases inputs : wi.inputs with
  | none =>
      refine ⟨⟨fun _ => rfl, fun _ listed _ fails => (nomatch fails)⟩, ?_⟩
      rintro value ⟨⟩
  | some document =>
      rw [inputs] at names
      rw [Option.getD_some] at names ⊢
      dsimp only
      cases first : Store.documentGet document inputName with
      | none =>
          rw [first] at names
          have missing : (getMap document).lookup inputName = none := by
            rw [← Option.not_isSome_iff_eq_none, names]
            decide
          rw [missing]
          refine ⟨⟨fun _ => rfl, fun _ _ _ _ absent => (nomatch absent)⟩, ?_⟩
          rintro value ⟨⟩
      | some value =>
          rw [first] at names
          rcases Option.isSome_iff_exists.mp names with ⟨last, found⟩
          rw [found]
          dsimp only
          refine ⟨⟨fun agree => ?_, fun same listed single isListed isSingle => ?_⟩,
              fun _ _ err fails => nomatch fails⟩
          · rw [agree value last rfl rfl]
          · cases same
            cases isListed
            cases isSingle
            rfl

/-- One source and a list of sources resolve the same way for exactly these sources and inputs.
One function takes the identifier of the instance away from the front of the source, the other
cuts the source by the number of its names and by their length; they meet where both happen to cut
at the same place. -/
theorem sameSource_iff {form : SourceForm} (absoluteName : hasPrefix wi.localID "#" = true)
    (wellFormed : form.WellFormed) :
    SameSource store job wi (form.text wi.localID) ↔
      Alike wi.localID form ∧ forall inputName,
        classify wi.localID (form.text wi.localID) = .ok (.workflowInput inputName) ->
            SingleValued wi inputName := by
  rw [← sameReading_iff absoluteName wellFormed]
  have plain (inputName : String)
      (reads : classify wi.localID (form.text wi.localID) = .ok (.workflowInput inputName)) :=
    classify_plain absoluteName wellFormed reads
  generalize form.text wi.localID = src at plain
  constructor
  · intro same
    refine ⟨same.reading, fun inputName isInput => ?_⟩
    rcases same.reading with ⟨kind, listed, single⟩ | ⟨_, err, refused⟩
    · rw [isInput] at single
      cases single
      refine (@input_agrees_iff job wi inputName (plain inputName isInput)).1.mp fun first last
          isFirst isLast => ?_
      refine same.value first last ?_ ?_
      · rw [getCWLSource, listed]
        exact isFirst
      · rw [getSingleSource, fetchSource, isInput]
        exact congrArg Except.ok isLast
    · rw [isInput] at refused
      cases refused
  · rintro ⟨reading, singleValued⟩
    rcases reading with ⟨kind, listed, single⟩ | ⟨⟨err, listed⟩, other, single⟩
    · cases kind with
      | workflowInput inputName =>
          have listedIs : getCWLSource store job wi src = getSourceFromWorkflowInstanceInput job wi
              inputName := by
            rw [getCWLSource, listed]
          have singleIs : getSingleSource store job wi src =
              .ok (getCWLSourceFromWorkflowInput (getMap (wi.inputs.getD [])) inputName) := by
            rw [getSingleSource, fetchSource, single]
          rcases @input_agrees_iff job wi inputName (plain inputName single) with ⟨values, found⟩
          refine ⟨Or.inl ⟨_, listed, single⟩, ?_, ?_, ?_⟩
          · intro first last isFirst isLast
            rw [listedIs] at isFirst
            rw [singleIs] at isLast
            exact values.mpr (singleValued inputName single) first last isFirst
                (Except.ok.inj isLast)
          · intro value isValue err
            rw [singleIs] at isValue
            rw [listedIs]
            exact found value (Except.ok.inj isValue) err
          · intro value _ err fails
            rw [singleIs] at fails
            cases fails
      | stepOutput stepName outputName =>
          have singleIs : getSingleSource store job wi src =
              getCWLSourceFromStepOutput store job wi stepName outputName := by
            rw [getSingleSource, fetchSource, single]
          have listedIs : getCWLSource store job wi src =
              match getSingleSource store job wi src with
              | .error err => .error (.step err)
              | .ok fetched => .ok fetched := by
            rw [getCWLSource, listed, singleIs]
          refine ⟨Or.inl ⟨_, listed, single⟩, ?_, ?_, ?_⟩
          · intro first last isFirst isLast
            rw [listedIs, isLast] at isFirst
            cases isFirst
            rfl
          · intro value isValue err fails
            rw [listedIs, isValue] at fails
            cases fails
          · intro value isValue err fails
            rw [listedIs, fails] at isValue
            cases isValue
    · have fails : getCWLSource store job wi src = .error err := by rw [getCWLSource, listed]
      have refused : getSingleSource store job wi src = .error other := by
        rw [getSingleSource, fetchSource, single]
      refine ⟨Or.inr ⟨⟨err, listed⟩, other, single⟩, ?_, ?_, ?_⟩
      · intro first last isFirst
        rw [fails] at isFirst
        cases isFirst
      · intro value isValue
        rw [refused] at isValue
        cases isValue
      · intro value isValue
        rw [fails] at isValue
        cases isValue

end

private def subInstance : WorkflowInstance :=
  { WorkflowInstance.blank with
    localID := "#main/sub"
    jobID := "j"
    workflowDefinition := "#wf"
    inputs := some [("x", .string "value")] }

private def subJob : Job :=
  ⟨"j", .inProgress, true, "#main", ⟨1, 0, "", false⟩, [], 0,
    AList.insert "#wf" (.workflow ⟨"#wf", [], [⟨"#wf/x", some [.named "string"]⟩], []⟩) ∅, ∅⟩

private def noTasks : Store := ⟨fun _ => Task.blank, 0, ∅⟩

/-- The input `x` of the instance, by its relative name or by its full name. -/
private def inputX (absolute : Bool) : SourceForm := ⟨absolute, none, .workflowInput "x"⟩

private theorem inputX_wellFormed (absolute : Bool) : (inputX absolute).WellFormed where
  plain := by
    intro name member
    rw [List.mem_singleton.mp member]
    decide
  uuid uuid given := nomatch given
  relative _ := (show hasPrefix (join ["x"]) "#" = false by decide)

theorem sameSource_relative :
    SameSource noTasks subJob subInstance ((inputX false).text subInstance.localID) := by
  refine (sameSource_iff (by decide) (inputX_wellFormed false)).mpr ⟨?_, fun inputName reads => ?_⟩
  · change "x".utf8ByteSize ≠ 36
    decide
  · have asInput : classify subInstance.localID ((inputX false).text subInstance.localID) =
        .ok (.workflowInput "x") := by
      rfl
    rw [asInput] at reads
    cases reads
    rfl

/-- The full name of an input of a nested workflow is found alone; in a list it
is taken for an output of a step. -/
theorem sameSource_fails_below :
    getSingleSource noTasks subJob subInstance "#main/sub/x" = .ok (.value (.string "value")) ∧
      getCWLSource noTasks subJob subInstance "#main/sub/x" = .error (.step (.stepNotFound "sub")) ∧
      ¬SameSource noTasks subJob subInstance ((inputX true).text subInstance.localID) := by
  have single : getSingleSource noTasks subJob subInstance "#main/sub/x" = .ok
      (.value (.string "value")) := by
    rfl
  have listed : getCWLSource noTasks subJob subInstance "#main/sub/x" = .error
      (.step (.stepNotFound "sub")) := by
    rfl
  exact ⟨single, listed, fun same => same.listed _ single _ listed⟩

end Sources

end Core
end Awe
