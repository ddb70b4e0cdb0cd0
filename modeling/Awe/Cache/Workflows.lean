import Awe.Cache.Listings
import Awe.Lib.Cells

namespace Awe
namespace Cache
namespace Workflows

open Lib Lib.Path Lib.Cells Cwl Natives Upload Listings

/-!
# The upload of a workflow

Values also stand in a workflow: as defaults of its step inputs, of its own inputs
and of the inputs of the tools that it runs.  `ProcessIOData` goes from a workflow
to its steps, and from a step to the process that it runs.

A process that is run by several steps is one object in Go, and so are its
defaults.  Here a parameter therefore holds the place of its default, and the
defaults are kept apart.  The references to processes are followed beforehand, so
that a process that is run twice is written twice, with the same places.

Each default is a cell that is updated as often as it is met, which is how the
upload is reasoned about.  Apart from them are the values in the listings of the
tools: `ProcessIOData` goes through these with the type `download`, also while it
uploads, and that changes them, as often as a tool is met.
-/

/-- Where a default is kept. -/
inductive Place where
  | stepInput (number : Nat)
  | parameter (number : Nat)
  deriving DecidableEq

abbrev Defaults := Place -> Option Value

/-- A `CommandInputParameter`: the place of its default, and whether it has
secondary files. -/
structure CommandInputParameter where
  default : Nat
  secondaryFiles : Bool := false

/-- An element of the listing of an `InitialWorkDirRequirement`.  The entry of a
`Dirent` is a text; any other value is given by its number, and kept apart like a
default. -/
inductive ListingElement where
  | string
  | dirent
  | value (number : Nat)

/-- A requirement, as far as `ProcessIOData` looks at it: the listing of an
`InitialWorkDirRequirement`. -/
inductive Requirement where
  | noListing
  | string
  | objects (elements : List ListingElement)
  | unknown (goType : String)

mutual

/-- A process with all that it runs.  The inputs of an `ExpressionTool` and of a
`Workflow` are given by the places of their defaults. -/
inductive Process where
  | commandLineTool (inputs : List CommandInputParameter) (requirements : List Requirement)
  | expressionTool (inputs : List Nat)
  | workflow (inputs : List Nat) (steps : List Step)

/-- A step with the places of the defaults of its inputs.  The process of a lost
step is not found. -/
inductive Step where
  | running (inputs : List Nat) (process : Process)
  | lost (inputs : List Nat) (text : String)

end

section

variable (outside : Outside)

/-- `Exists`, of a file. -/
def fileExists (inputfilePath : String) (file : FileFields) : Except Failure Bool :=
  if file.contents ≠ "" then .ok true
  else if file.path ≠ "" then
    .ok (outside.stat (absolute inputfilePath (trimPrefix file.path "file://"))).isOk
  else if file.location ≠ "" then
    if hasPrefix file.location "http:" then
      .error (.error ("(File/Exists) schema http not yet supported (" ++ file.location ++ ")"))
    else if hasPrefix file.location "https:" then
        .error (.error "(File/Exists) schema https not yet supported")
    else if hasPrefix file.location "ftp:" then
        .error (.error "(File/Exists) schema https not yet supported")
    else .ok (outside.stat (absolute inputfilePath (trimPrefix file.location "file://"))).isOk
  else .ok false

variable (lazyUpload : Bool) (currentPath : String)

/-- The case `*cwl.WorkflowStepInput`. -/
def workflowStepInput : Option Value -> Except Failure (Option Value × Nat)
  | some (.file fields secondaryFiles) =>
      (processIOData outside lazyUpload currentPath (.file fields secondaryFiles)).map fun staged =>
        (some staged.1, staged.2)
  | default => .ok (default, 0)

/-- A default that is a `File` may be missing. -/
def missing (name : String) : Value -> Except Failure Bool
  | .file fields _ =>
      wrap ("(processIOData) cwl." ++ name ++ " file.Exists returned: ")
        ((fileExists outside currentPath fields).map not)
  | _ => .ok false

/-- The end of the case `*cwl.CommandInputParameter`. -/
def checkSecondaryFiles (secondaryFiles : Bool) (staged : Option Value × Nat) :
    Except Failure (Option Value × Nat) :=
  if secondaryFiles then
    .error (.error ("(processIOData) CommandInputParameter.SecondaryFiles SecondaryFiles are not supported by AWE " ++
      "at this point"))
  else .ok staged

/-- What the cases for the two types of parameters have in common.  A default that
is missing is left, and then the secondary files are not looked at either. -/
def processParameter (name : String) (secondaryFiles : Bool) :
    Option Value -> Except Failure (Option Value × Nat)
  | none => checkSecondaryFiles secondaryFiles (none, 0)
  | some value => do
      if <- missing outside currentPath name value then .ok (some value, 0)
      else
        let staged <- wrap ("(processIOData) " ++ name ++ " ProcessIOData(for download) returned: ")
          (processIOData outside lazyUpload currentPath value)
        checkSecondaryFiles secondaryFiles (some staged.1, staged.2)

/-- The case `*cwl.CommandInputParameter`. -/
def commandInputParameter (secondaryFiles : Bool) :
    Option Value -> Except Failure (Option Value × Nat) :=
  processParameter outside lazyUpload currentPath "CommandInputParameter" secondaryFiles

/-- The case `*cwl.InputParameter`. -/
def inputParameter : Option Value -> Except Failure (Option Value × Nat) :=
  processParameter outside lazyUpload currentPath "InputParameter" false

/-- What the downloads work on: the values in the listings, and the disk. Values in a listing are
behind pointers that several steps may share, so that what one visit writes is found by the next.
-/
structure Staging where
  listings : Nat -> Value
  disk : Download.State

/-- A case for a pointer to something with a default. -/
def atPlace (place : Place) (visit : Option Value -> Except Failure (Option Value × Nat))
    (both : Defaults × Staging) : Except Failure ((Defaults × Staging) × Nat) :=
  (visit (both.1 place)).map fun staged =>
      ((Function.update both.1 place staged.1, both.2), staged.2)

/-- What a download needs besides the current path. -/
structure Downloads where
  outside : Download.Outside
  shockClient : Option Download.ShockClient
  basePath : String

variable (downloads : Downloads)

/-- `ProcessIOData` with the type `download`, of a value in a listing. -/
def downloadValue (number : Nat) (staging : Staging) : Except Failure (Staging × Nat) :=
  (Download.processIOData downloads.outside downloads.shockClient downloads.basePath currentPath
    (staging.listings number) staging.disk).map fun result =>
      ({ listings := Function.update staging.listings number result.1, disk := result.2.1 },
          result.2.2)

def processElement : ListingElement -> Staging -> Except Failure (Staging × Nat)
  | .value number, staging =>
      wrap "(processIOData) []cwl.CWLObject cwl.Requirement/Listing returned: "
        (downloadValue currentPath downloads number staging)
  | _, staging => .ok (staging, 0)

/-- The case `*cwl.Requirement`, which has the type `download` for all that is in a
listing. -/
def processRequirement : Requirement -> Staging -> Except Failure (Staging × Nat)
  | .noListing, staging => .ok (staging, 0)
  | .string, staging => .ok (staging, 0)
  | .objects elements, staging => inTurn (processElement currentPath downloads) elements staging
  | .unknown goType, _ =>
      .error (.error ("(processIOData) cwl.Requirement/Listing , unkown type: (" ++ goType ++ ")"))

/-- An input of a `Workflow` or of an `ExpressionTool`, if it has a default. -/
def processInput (caller : String) (input : Nat) (both : Defaults × Staging) :
    Except Failure ((Defaults × Staging) × Nat) :=
  if (both.1 (.parameter input)).isSome then
    wrap caller (atPlace (.parameter input) (inputParameter outside lazyUpload currentPath) both)
  else .ok (both, 0)

def processCommandInput (input : CommandInputParameter) (both : Defaults × Staging) :
    Except Failure ((Defaults × Staging) × Nat) :=
  wrap "(processIOData) CommandLineTool.Default ProcessIOData(for download) returned: "
    (atPlace (.parameter input.default)
        (commandInputParameter outside lazyUpload currentPath input.secondaryFiles)
      both)

def processToolRequirement (requirement : Requirement) (both : Defaults × Staging) :
    Except Failure ((Defaults × Staging) × Nat) :=
  (wrap "(processIOData) CommandLineTool.Default ProcessIOData(for download) returned: "
    (processRequirement currentPath downloads requirement both.2)).map fun staged =>
    ((both.1, staged.1), staged.2)

def processStepInput (input : Nat) (both : Defaults × Staging) :
    Except Failure ((Defaults × Staging) × Nat) :=
  atPlace (.stepInput input) (workflowStepInput outside lazyUpload currentPath) both

mutual

/-- The cases for the three classes of processes. -/
def processProcess : Process -> Defaults × Staging -> Except Failure ((Defaults × Staging) × Nat)
  | .commandLineTool inputs requirements, both => do
      let first <- inTurn (processCommandInput outside lazyUpload currentPath) inputs both
      let later <- inTurn (processToolRequirement currentPath downloads) requirements first.1
      .ok (later.1, first.2 + later.2)
  | .expressionTool inputs, both =>
      inTurn (processInput outside lazyUpload currentPath
        "(processIOData) ExpressionTool,InputParameter ProcessIOData(for download) returned: ")
            inputs both
  | .workflow inputs steps, both => do
      let first <- inTurn (processInput outside lazyUpload currentPath "") inputs both
      let later <- processSteps steps first.1
      .ok (later.1, first.2 + later.2)

def processSteps : List Step -> Defaults × Staging -> Except Failure ((Defaults × Staging) × Nat)
  | [], both => .ok (both, 0)
  | step :: rest, both => do
      let first <- processStep step both
      let later <- processSteps rest first.1
      .ok (later.1, first.2 + later.2)

/-- The case `*cwl.WorkflowStep`. -/
def processStep : Step -> Defaults × Staging -> Except Failure ((Defaults × Staging) × Nat)
  | .running inputs process, both => do
      let first <- inTurn (processStepInput outside lazyUpload currentPath) inputs both
      let later <- processProcess process first.1
      .ok (later.1, first.2 + later.2)
  | .lost inputs text, both => do
      let _ <- inTurn (processStepInput outside lazyUpload currentPath) inputs both
      .error (.error text)

end

end

/-! ## The defaults one after the other -/

/-- How a default is met: as that of a parameter with this type and these secondary
files.  For a step input there is nothing to say. -/
structure Use where
  name : String := ""
  secondaryFiles : Bool := false

/-- Work that concerns no default: a value of a listing is met, or the call ends
with an error. -/
inductive Work where
  | listing (number : Nat)
  | refused (text : String)
  deriving DecidableEq

section

variable (outside : Outside) (lazyUpload : Bool) (currentPath : String) (downloads : Downloads)

/-- What is done to a default. -/
def stageDefault : Place -> Use -> Option Value -> Except Failure (Option Value × Nat)
  | .stepInput _, _, default => workflowStepInput outside lazyUpload currentPath default
  | .parameter _, use, default => processParameter outside lazyUpload currentPath use.name
      use.secondaryFiles default

def doWork : Work -> Staging -> Except Failure (Staging × Nat)
  | .listing number, staging => downloadValue currentPath downloads number staging
  | .refused text, _ => .error (.error text)

end

def inputUpdate (input : Nat) : Update Place Use Work :=
  .cell (.parameter input) { name := "InputParameter" }

def commandInputUpdate (input : CommandInputParameter) : Update Place Use Work :=
  .cell (.parameter input.default)
      { name := "CommandInputParameter", secondaryFiles := input.secondaryFiles }

def stepInputUpdate (input : Nat) : Update Place Use Work :=
  .cell (.stepInput input) {}

def elementUpdates : ListingElement -> List (Update Place Use Work)
  | .value number => [.apart (.listing number)]
  | _ => []

def requirementUpdates : Requirement -> List (Update Place Use Work)
  | .noListing | .string => []
  | .objects elements => elements.flatMap elementUpdates
  | .unknown goType => [.apart (.refused ("unkown type: (" ++ goType ++ ")"))]

mutual

/-- All that `ProcessIOData` comes across in a process. -/
def updates : Process -> List (Update Place Use Work)
  | .commandLineTool inputs requirements =>
      (inputs.flatMap fun input => [commandInputUpdate input]) ++ requirements.flatMap
          requirementUpdates
  | .expressionTool inputs => inputs.flatMap fun input => [inputUpdate input]
  | .workflow inputs steps => (inputs.flatMap fun input => [inputUpdate input]) ++
      updatesOfSteps steps

def updatesOfSteps : List Step -> List (Update Place Use Work)
  | [] => []
  | step :: rest => updatesOfStep step ++ updatesOfSteps rest

def updatesOfStep : Step -> List (Update Place Use Work)
  | .running inputs process => (inputs.flatMap fun input => [stepInputUpdate input]) ++
      updates process
  | .lost inputs text => (inputs.flatMap fun input => [stepInputUpdate input]) ++
      [.apart (.refused text)]

end

section

variable {outside : Outside} {lazyUpload : Bool} {currentPath : String} {downloads : Downloads}

/-- A call that succeeds exactly as these updates do. -/
def Follows (outside : Outside) (lazyUpload : Bool) (currentPath : String) (downloads : Downloads)
    (call : Defaults × Staging -> Except Failure ((Defaults × Staging) × Nat))
    (updates : List (Update Place Use Work)) :
    Prop :=
  forall both result, call both = .ok result ↔
    run (stageDefault outside lazyUpload currentPath) (doWork currentPath downloads) updates
        both = .ok result

/-- Two loops after each other, as the cases for processes have them. -/
theorem Follows.append
    {first second : Defaults × Staging -> Except Failure ((Defaults × Staging) × Nat)}
    {front back : List (Update Place Use Work)}
    (here : Follows outside lazyUpload currentPath downloads first front)
    (there : Follows outside lazyUpload currentPath downloads second back) :
    Follows outside lazyUpload currentPath downloads
      (fun both => first both >>= fun begun => second begun.1 >>= fun later =>
          .ok (later.1, begun.2 + later.2))
      (front ++ back) := by
  rintro both ⟨after, total⟩
  dsimp only
  rw [Fallible.bind_ok_iff, run_append_ok]
  constructor
  · rintro ⟨begun, started, more⟩
    rcases Fallible.bind_ok_iff.mp more with ⟨later, ended, same⟩
    cases same
    exact ⟨begun, later.2, (here _ _).mp started, (there _ _).mp ended, rfl⟩
  · rintro ⟨begun, count, started, ended, rfl⟩
    exact ⟨begun, (here _ _).mpr started, Fallible.bind_ok_iff.mpr
        ⟨(after, count), (there _ _).mpr ended, rfl⟩⟩

theorem Follows.nothing :
    Follows outside lazyUpload currentPath downloads (fun both => .ok (both, 0)) [] :=
  fun _ _ => Iff.rfl

/-- A loop over parts that come across something each. -/
theorem Follows.loop {A : Type}
    {visit : A -> Defaults × Staging -> Except Failure ((Defaults × Staging) × Nat)}
    {met : A -> List (Update Place Use Work)}
    (each : forall part, Follows outside lazyUpload currentPath downloads (visit part) (met part))
    (parts : List A) :
    Follows outside lazyUpload currentPath downloads (inTurn visit parts) (parts.flatMap met) := by
  induction parts with
  | nil => exact Follows.nothing
  | cons part rest inductionHypothesis => exact (each part).append inductionHypothesis

theorem follows_atPlace (place : Place) (use : Use) :
    Follows outside lazyUpload currentPath downloads
      (atPlace place (stageDefault outside lazyUpload currentPath place use))
          [.cell place use] := by
  rintro ⟨defaults, staging⟩ ⟨last, total⟩
  rw [run_cell_ok, atPlace]
  dsimp only
  cases stageDefault outside lazyUpload currentPath place use (defaults place) with
  | error failure => exact iff_of_false (by rintro ⟨⟩) (by rintro ⟨_, _, ⟨⟩, _⟩)
  | ok staged =>
      constructor
      · intro done
        cases done
        exact ⟨staged, 0, rfl, rfl, rfl⟩
      · rintro ⟨first, count, same, ended, rfl⟩
        cases same
        cases ended
        rfl

theorem follows_work (work : Work) :
    Follows outside lazyUpload currentPath downloads
      (fun both => (doWork currentPath downloads work both.2).map fun staged =>
          ((both.1, staged.1), staged.2))
      [.apart work] := by
  rintro ⟨defaults, staging⟩ ⟨last, total⟩
  rw [run_apart_ok]
  dsimp only
  cases doWork currentPath downloads work staging with
  | error failure => exact iff_of_false (by rintro ⟨⟩) (by rintro ⟨_, _, ⟨⟩, _⟩)
  | ok staged =>
      constructor
      · intro done
        cases done
        exact ⟨staged, 0, rfl, rfl, rfl⟩
      · rintro ⟨first, count, same, ended, rfl⟩
        cases same
        cases ended
        rfl

theorem follows_stepInput (input : Nat) :
    Follows outside lazyUpload currentPath downloads
        (processStepInput outside lazyUpload currentPath input)
      [stepInputUpdate input] :=
  follows_atPlace _ _

theorem follows_commandInput (input : CommandInputParameter) :
    Follows outside lazyUpload currentPath downloads
        (processCommandInput outside lazyUpload currentPath input)
      [commandInputUpdate input] := by
  intro both result
  rw [processCommandInput, wrap_eq_ok]
  exact follows_atPlace (.parameter input.default)
    { name := "CommandInputParameter", secondaryFiles := input.secondaryFiles } both result

/-- An input without a default is passed over, which is no different from looking
at it. -/
theorem follows_input (caller : String) (input : Nat) :
    Follows outside lazyUpload currentPath downloads
        (processInput outside lazyUpload currentPath caller input)
      [inputUpdate input] := by
  rintro both result
  have looked := @follows_atPlace outside lazyUpload currentPath downloads (.parameter input)
    { name := "InputParameter" } both result
  rw [processInput]
  by_cases given : (both.1 (.parameter input)).isSome = true
  · rw [if_pos given, wrap_eq_ok]
    exact looked
  · rw [if_neg given]
    have absent : both.1 (.parameter input) = none := Option.not_isSome_iff_eq_none.mp given
    have unchanged : Function.update both.1 (.parameter input) none = both.1 := by
      rw [<- absent, Function.update_eq_self]
    rw [atPlace, absent] at looked
    change Except.ok ((Function.update both.1 (.parameter input) none, both.2), 0) = .ok result ↔
        _ at looked
    rw [unchanged] at looked
    exact looked

/-- The loop over a listing, whatever the defaults are. -/
theorem follows_elements (elements : List ListingElement) :
    Follows outside lazyUpload currentPath downloads
      (fun both => (inTurn (processElement currentPath downloads) elements both.2).map fun staged =>
        ((both.1, staged.1), staged.2)) (elements.flatMap elementUpdates) := by
  induction elements with
  | nil => exact fun _ _ => Iff.rfl
  | cons element rest inductionHypothesis =>
      have here : Follows outside lazyUpload currentPath downloads
          (fun both => (processElement currentPath downloads element both.2).map fun staged =>
            ((both.1, staged.1), staged.2)) (elementUpdates element) := by
        cases element with
        | string => exact fun _ _ => Iff.rfl
        | dirent => exact fun _ _ => Iff.rfl
        | value number =>
            intro both result
            apply Iff.trans _ (follows_work (.listing number) both result)
            dsimp only
            rw [processElement, doWork]
            cases downloadValue currentPath downloads number both.2 with
            | error failure => cases failure <;> exact iff_of_false (by rintro ⟨⟩) (by rintro ⟨⟩)
            | ok staged => exact Iff.rfl
      intro both result
      rw [List.flatMap_cons]
      apply Iff.trans _ (here.append inductionHypothesis both result)
      dsimp only
      rw [inTurn]
      cases processElement currentPath downloads element both.2 with
      | error failure => exact iff_of_false (by rintro ⟨⟩) (by rintro ⟨⟩)
      | ok staged =>
          change Except.map _ (inTurn (processElement currentPath downloads) rest staged.1
              >>= fun later =>
            Except.ok (later.1, staged.2 + later.2)) = .ok result ↔
              (Except.map (fun last => ((both.1, last.1), last.2))
                (inTurn (processElement currentPath downloads) rest staged.1) >>= fun later =>
              Except.ok (later.1, staged.2 + later.2)) = .ok result
          cases inTurn (processElement currentPath downloads) rest staged.1 with
          | error failure => exact iff_of_false (by rintro ⟨⟩) (by rintro ⟨⟩)
          | ok later => exact Iff.rfl

theorem follows_requirement (requirement : Requirement) :
    Follows outside lazyUpload currentPath downloads
        (processToolRequirement currentPath downloads requirement)
      (requirementUpdates requirement) := by
  have inside (both : Defaults × Staging) (result : (Defaults × Staging) × Nat) :
      processToolRequirement currentPath downloads requirement both = .ok result ↔
        ((processRequirement currentPath downloads requirement both.2).map fun staged =>
          ((both.1, staged.1), staged.2)) = .ok result := by
    rw [processToolRequirement]
    cases processRequirement currentPath downloads requirement both.2 with
    | error failure => cases failure <;> exact iff_of_false (by rintro ⟨⟩) (by rintro ⟨⟩)
    | ok staged => exact Iff.rfl
  intro both result
  rw [inside]
  cases requirement with
  | noListing => exact Iff.rfl
  | string => exact Iff.rfl
  | objects elements => exact follows_elements elements both result
  | unknown goType =>
      apply Iff.trans _ (follows_work (.refused _) both result)
      exact iff_of_false (by rintro ⟨⟩) (by rintro ⟨⟩)

mutual

/-- A process is gone through exactly as its defaults and its listings are. -/
theorem follows_process : forall process : Process,
    Follows outside lazyUpload currentPath downloads
    (processProcess outside lazyUpload currentPath downloads process)
      (updates process)
  | .commandLineTool inputs requirements => by
      intro both result
      rw [processProcess, updates]
      exact (Follows.loop follows_commandInput inputs).append
          (Follows.loop follows_requirement requirements) both result
  | .expressionTool inputs => by
      intro both result
      rw [processProcess, updates]
      exact Follows.loop (follows_input _) inputs both result
  | .workflow inputs steps => by
      intro both result
      rw [processProcess, updates]
      exact (Follows.loop (follows_input _) inputs).append (follows_steps steps) both result

theorem follows_steps : forall steps : List Step,
    Follows outside lazyUpload currentPath downloads
    (processSteps outside lazyUpload currentPath downloads steps)
      (updatesOfSteps steps)
  | [] => by
      intro both result
      rw [processSteps, updatesOfSteps]
      exact Iff.rfl
  | step :: rest => by
      intro both result
      rw [processSteps, updatesOfSteps]
      exact (follows_step step).append (follows_steps rest) both result

theorem follows_step : forall step : Step,
    Follows outside lazyUpload currentPath downloads
    (processStep outside lazyUpload currentPath downloads step)
      (updatesOfStep step)
  | .running inputs process => by
      intro both result
      rw [processStep, updatesOfStep]
      exact (Follows.loop follows_stepInput inputs).append (follows_process process) both result
  | .lost inputs text => by
      rintro both ⟨after, total⟩
      rw [processStep, updatesOfStep, Fallible.bind_ok_iff, run_append_ok]
      constructor
      · rintro ⟨_, _, impossible⟩
        cases impossible
      · rintro ⟨⟨⟨defaults, staging⟩, _⟩, _, _, impossible, _⟩
        rcases run_apart_ok.mp impossible with ⟨_, _, stops, _⟩
        cases stops

end

end

/-- How many files of a default have to be uploaded. -/
def neededIn : Option Value -> Nat
  | none => 0
  | some value => needed value

/-- A default before and after the upload. -/
def StagedDefault (outside : Outside) : Option Value -> Option Value -> Prop
  | none, after => after = none
  | some value, after => Exists fun staged => after = some staged ∧ Staged outside value staged

/-- The defaults that a process has, with those of all that it runs. -/
def reached (process : Process) : Finset Place :=
  keys (updates process)

section

variable (outside : Outside) (currentPath : String)

def NoSecondaryFiles (uses : List Use) : Prop :=
  forall use, use ∈ uses -> use.secondaryFiles = false

/-- Of the defaults of step inputs only those that are a `File` are looked into. -/
def SuitsStepInput : Option Value -> Prop
  | none => True
  | some (.file fields secondaryFiles) =>
      forall node, node ∈ nodes (.file fields secondaryFiles) -> Handled currentPath node
  | some value => needed value = 0

/-- A default that is a `File` is first asked whether it exists.  It refuses to
tell after an upload, so then the parameter must not be met a second time. -/
def SuitsParameter (uses : List Use) : Option Value -> Prop
  | none => NoSecondaryFiles uses
  | some (.file fields secondaryFiles) =>
      match fileExists outside currentPath fields with
      | .error _ => False
      | .ok false => needed (.file fields secondaryFiles) = 0
      | .ok true =>
          NoSecondaryFiles uses ∧
            (forall node, node ∈ nodes (.file fields secondaryFiles) -> Handled currentPath node) ∧
            (NeedsUpload fields -> uses.length = 1)
  | some value => NoSecondaryFiles uses ∧ forall node, node ∈ nodes value ->
      Handled currentPath node

/-- The condition on a default that is met in these ways. -/
def Suits : Place -> List Use -> Option Value -> Prop
  | .stepInput _, _, default => SuitsStepInput currentPath default
  | .parameter _, uses, default => SuitsParameter outside currentPath uses default

/-- The condition on a process, the defaults and the values in the listings. It asks of each
default that is reached what is asked of a document, as far as the switch looks into it. -/
structure Suitable (process : Process) (defaults : Defaults) (listings : Nat -> Value) : Prop where
  defaults : forall place, place ∈ reached process ->
    Suits outside currentPath place (usesAt place (updates process)) (defaults place)
  /-- Every step finds its process, and every listing has a type that is known. -/
  accepted : forall text, Work.refused text ∉ works (updates process)
  /-- Nothing is downloaded, however often the tools are met. -/
  listings : forall number, LastsFor ((works (updates process)).count (.listing number))
      (listings number)

end

/-! ## One default, as often as it is met -/

section

variable {outside : Outside} {lazyUpload : Bool} {currentPath : String}

theorem staged_head {value after : Value} (staged : Staged outside value after) :
    StagedNode outside (head value) (head after) := by
  rw [Staged, nodes_eq value, nodes_eq after] at staged
  cases staged with
  | cons top _ => exact top

theorem staged_file {fields : FileFields} {secondaryFiles : List Value} {after : Value}
    (staged : Staged outside (.file fields secondaryFiles) after) :
    Exists fun other => Exists fun others => after = .file other others ∧
    StagedFile outside fields other := by
  rcases staged_head staged with ⟨other, same, stagedFile⟩
  cases after with
  | file others more => exact ⟨others, more, rfl, (Node.file.inj same).1 ▸ stagedFile⟩
  | _ => cases same

theorem missing_file {name : String} {fields : FileFields} {secondaryFiles : List Value}
    {found : Bool} :
    missing outside currentPath name (.file fields secondaryFiles) = .ok found ↔
      fileExists outside currentPath fields = .ok !found := by
  rw [missing, wrap_eq_ok]
  cases fileExists outside currentPath fields with
  | error failure => exact ⟨(fun impossible => nomatch impossible),
      (fun impossible => nomatch impossible)⟩
  | ok exist =>
      change Except.ok (!exist) = .ok found ↔ _
      rw [Except.ok.injEq, Except.ok.injEq, Bool.not_eq_eq_eq_not]

/-- Only a `File` is asked for, and the upload makes none. -/
theorem missing_of_staged {value : Value}
    (other : forall fields count, head value ≠ .file fields count) (after : Value)
    (staged : Staged outside value after) (name : String) :
    missing outside currentPath name after = .ok false := by
  have top := staged_head staged
  cases after with
  | file fields secondaryFiles =>
      cases value with
      | file fields secondaryFiles => exact absurd rfl (other fields secondaryFiles.length)
      | _ => cases top
  | _ => rfl

/-- `Exists` refuses a file that has been uploaded. -/
theorem fileExists_inShock (shock : ShockAnswers outside) {file : FileFields}
    (staged : InShock outside file) :
    Exists fun failure => fileExists outside currentPath file = .error failure := by
  have literal : ¬ file.contents ≠ "" := not_not.mpr staged.contents
  have noPath : ¬ file.path ≠ "" := not_not.mpr staged.path
  rcases staged.location with ⟨nodeid, located⟩
  have web : file.location ≠ "" ∧
      (hasPrefix file.location "http:" = true ∨ hasPrefix file.location "https:" = true) := by
    rcases shock.locates nodeid with ⟨rest, web | web⟩
    all_goals rw [located] at web
    all_goals rw [Except.ok.inj web]
    · refine ⟨?_, Or.inl (hasPrefix_append (by decide) rest)⟩
      intro empty
      have letters := congrArg String.toList empty
      rw [String.toList_append] at letters
      cases letters
    · refine ⟨?_, Or.inr (hasPrefix_append (by decide) rest)⟩
      intro empty
      have letters := congrArg String.toList empty
      rw [String.toList_append] at letters
      cases letters
  unfold fileExists
  rw [if_neg literal, if_neg noPath, if_pos web.1]
  by_cases plain : hasPrefix file.location "http:" = true
  · rw [if_pos plain]
    exact ⟨_, rfl⟩
  · rw [if_neg plain, if_pos (web.2.resolve_left plain)]
    exact ⟨_, rfl⟩

theorem runCell_parameter_cons {number : Nat} {use : Use} {rest : List Use} {value : Value}
    {after : Option Value} {total : Nat}
    (found : missing outside currentPath use.name value = .ok false) :
    runCell (stageDefault outside lazyUpload currentPath) (.parameter number) (use :: rest)
        (some value) =
        .ok (after, total) ↔
      use.secondaryFiles = false ∧ Exists fun staged : Value × Nat => Exists fun count =>
        processIOData outside lazyUpload currentPath value = .ok staged ∧
          runCell (stageDefault outside lazyUpload currentPath) (.parameter number) rest
              (some staged.1) =
            .ok (after, count) ∧ total = staged.2 + count := by
  rw [runCell_cons_ok, stageDefault, processParameter, found]
  have continued : ((Except.ok false : Except Failure Bool) >>= fun skipped =>
      if skipped then Except.ok (some value, 0)
      else wrap ("(processIOData) " ++ use.name ++ " ProcessIOData(for download) returned: ")
          (processIOData outside lazyUpload currentPath value) >>= fun staged =>
        checkSecondaryFiles use.secondaryFiles (some staged.1, staged.2)) =
      (wrap ("(processIOData) " ++ use.name ++ " ProcessIOData(for download) returned: ")
          (processIOData outside lazyUpload currentPath value) >>= fun staged =>
        checkSecondaryFiles use.secondaryFiles (some staged.1, staged.2)) := rfl
  rw [continued]
  constructor
  · rintro ⟨first, count, here, there, rfl⟩
    rcases Fallible.bind_ok_iff.mp here with ⟨staged, processed, checked⟩
    rw [wrap_eq_ok] at processed
    unfold checkSecondaryFiles at checked
    split_ifs at checked with refused
    cases checked
    exact ⟨Bool.eq_false_iff.mpr refused, staged, count, processed, there, rfl⟩
  · rintro ⟨allowed, staged, count, processed, there, rfl⟩
    refine ⟨(some staged.1, staged.2), count, Fallible.bind_ok_iff.mpr
        ⟨staged, wrap_eq_ok.mpr processed, ?_⟩, there, rfl⟩
    rw [allowed]
    rfl

/-- Where nothing is left to do, only secondary files stop the upload. -/
theorem runCell_settled {number : Nat} {value : Value}
    (again : processIOData outside lazyUpload currentPath value = .ok (value, 0))
    (found : forall name, missing outside currentPath name value = .ok false) (uses : List Use) :
    forall {after : Option Value} {total : Nat},
      runCell (stageDefault outside lazyUpload currentPath) (.parameter number) uses (some value) =
          .ok (after, total) ↔
        NoSecondaryFiles uses ∧ after = some value ∧ total = 0 := by
  induction uses with
  | nil =>
      intro after total
      constructor
      · intro ran
        cases ran
        exact ⟨(fun _ absent => nomatch absent), rfl, rfl⟩
      · rintro ⟨_, rfl, rfl⟩
        rfl
  | cons use rest inductionHypothesis =>
      intro after total
      rw [runCell_parameter_cons (found use.name)]
      constructor
      · rintro ⟨allowed, staged, count, processed, there, rfl⟩
        rw [again] at processed
        cases processed
        rcases inductionHypothesis.mp there with ⟨others, rfl, rfl⟩
        exact ⟨List.forall_mem_cons.mpr ⟨allowed, others⟩, rfl, rfl⟩
      · rintro ⟨every, rfl, rfl⟩
        have both := List.forall_mem_cons.mp every
        exact ⟨both.1, (value, 0), 0, again, inductionHypothesis.mpr ⟨both.2, rfl, rfl⟩, rfl⟩

end

section

variable {outside : Outside} {lazyUpload : Bool} {currentPath : String}

/-- The first time a value is met it is uploaded; if it can be asked for again, all
later times change nothing. -/
theorem runCell_value (shock : ShockAnswers outside) {value : Value}
    (present : forall file, file ∈ files value -> Present outside currentPath file)
    (found : forall name, missing outside currentPath name value = .ok false)
    (keeps : forall after, Staged outside value after ->
    forall name, missing outside currentPath name after = .ok false)
    {number : Nat} {use : Use} {rest : List Use} {after : Option Value} {total : Nat} :
    runCell (stageDefault outside lazyUpload currentPath) (.parameter number) (use :: rest)
        (some value) =
        .ok (after, total) ↔
      NoSecondaryFiles (use :: rest) ∧
          (forall node, node ∈ nodes value -> Handled currentPath node) ∧
        (Exists fun staged => processIOData outside lazyUpload currentPath value = .ok
            (staged, needed value) ∧
          Staged outside value staged ∧ after = some staged) ∧ total = needed value := by
  rw [runCell_parameter_cons (found use.name)]
  constructor
  · rintro ⟨allowed, staged, count, processed, there, rfl⟩
    have handled : forall node, node ∈ nodes value -> Handled currentPath node :=
      fun _ member => handled_of_processIOData processed member
    rcases processIOData_staged shock present handled lazyUpload with ⟨other, uploaded, isStaged⟩
    have same : staged = (other, needed value) := Except.ok.inj (processed.symm.trans uploaded)
    rw [same] at there
    rcases (runCell_settled (processIOData_again shock handled isStaged) (keeps other isStaged)
        rest).mp there with
      ⟨others, rfl, rfl⟩
    exact ⟨List.forall_mem_cons.mpr ⟨allowed, others⟩, handled, ⟨other, uploaded, isStaged, rfl⟩,
        by rw [same]; rfl⟩
  · rintro ⟨allowed, handled, ⟨staged, uploaded, isStaged, rfl⟩, rfl⟩
    have both := List.forall_mem_cons.mp allowed
    exact ⟨both.1, (staged, needed value), 0, uploaded,
      (runCell_settled (processIOData_again shock handled isStaged) (keeps staged isStaged)
          rest).mpr ⟨both.2, rfl, rfl⟩,
      rfl⟩

/-- A value that cannot be asked for again must not be met a second time. -/
theorem runCell_once (shock : ShockAnswers outside) {value : Value}
    (present : forall file, file ∈ files value -> Present outside currentPath file)
    (found : forall name, missing outside currentPath name value = .ok false)
    (stops : forall after, Staged outside value after -> forall name,
      Exists fun failure => missing outside currentPath name after = .error failure)
    {number : Nat} {use : Use} {rest : List Use} {after : Option Value} {total : Nat} :
    runCell (stageDefault outside lazyUpload currentPath) (.parameter number) (use :: rest)
        (some value) =
        .ok (after, total) ↔
      (NoSecondaryFiles (use :: rest) ∧
          (forall node, node ∈ nodes value -> Handled currentPath node) ∧
        (Exists fun staged => processIOData outside lazyUpload currentPath value = .ok
            (staged, needed value) ∧
          Staged outside value staged ∧ after = some staged) ∧ total = needed value) ∧
              rest = [] := by
  rw [runCell_parameter_cons (found use.name)]
  constructor
  · rintro ⟨allowed, staged, count, processed, there, rfl⟩
    have handled : forall node, node ∈ nodes value -> Handled currentPath node :=
      fun _ member => handled_of_processIOData processed member
    rcases processIOData_staged shock present handled lazyUpload with ⟨other, uploaded, isStaged⟩
    have same : staged = (other, needed value) := Except.ok.inj (processed.symm.trans uploaded)
    rw [same] at there ⊢
    cases rest with
    | nil =>
        cases there
        exact ⟨⟨List.forall_mem_cons.mpr ⟨allowed, fun _ absent => nomatch absent⟩, handled,
          ⟨other, uploaded, isStaged, rfl⟩, rfl⟩, rfl⟩
    | cons second more =>
        rcases stops other isStaged second.name with ⟨failure, stopped⟩
        rcases runCell_cons_ok.mp there with ⟨first, _, here, _, _⟩
        rw [stageDefault, processParameter, stopped] at here
        cases here
  · rintro ⟨⟨allowed, handled, ⟨staged, uploaded, isStaged, rfl⟩, rfl⟩, rfl⟩
    exact ⟨allowed use List.mem_cons_self, (staged, needed value), 0, uploaded, rfl, rfl⟩

theorem parameter_value_iff (shock : ShockAnswers outside) {value : Value}
    (present : forall file, file ∈ files value -> Present outside currentPath file)
    (found : forall name, missing outside currentPath name value = .ok false)
    (keeps : forall after, Staged outside value after ->
    forall name, missing outside currentPath name after = .ok false)
    {number : Nat} {use : Use} {rest : List Use} {total : Nat} :
    (Exists fun after => runCell (stageDefault outside lazyUpload currentPath)
        (.parameter number) (use :: rest)
        (some value) = .ok (after, total) ∧ StagedDefault outside (some value) after) ↔
      (NoSecondaryFiles (use :: rest) ∧ forall node, node ∈ nodes value ->
          Handled currentPath node) ∧
        total = needed value := by
  constructor
  · rintro ⟨after, ran, _⟩
    rcases (runCell_value shock present found keeps).mp ran with ⟨allowed, handled, _, counted⟩
    exact ⟨⟨allowed, handled⟩, counted⟩
  · rintro ⟨⟨allowed, handled⟩, counted⟩
    rcases processIOData_staged shock present handled lazyUpload with ⟨staged, uploaded, isStaged⟩
    exact ⟨some staged, (runCell_value shock present found keeps).mpr
      ⟨allowed, handled, ⟨staged, uploaded, isStaged, rfl⟩, counted⟩, staged, rfl, isStaged⟩

theorem parameter_once_iff (shock : ShockAnswers outside) {value : Value}
    (present : forall file, file ∈ files value -> Present outside currentPath file)
    (found : forall name, missing outside currentPath name value = .ok false)
    (stops : forall after, Staged outside value after -> forall name,
      Exists fun failure => missing outside currentPath name after = .error failure)
    {number : Nat} {use : Use} {rest : List Use} {total : Nat} :
    (Exists fun after => runCell (stageDefault outside lazyUpload currentPath)
        (.parameter number) (use :: rest)
        (some value) = .ok (after, total) ∧ StagedDefault outside (some value) after) ↔
      (NoSecondaryFiles (use :: rest) ∧
          (forall node, node ∈ nodes value -> Handled currentPath node) ∧ rest = []) ∧
        total = needed value := by
  constructor
  · rintro ⟨after, ran, _⟩
    rcases (runCell_once shock present found stops).mp ran with
        ⟨⟨allowed, handled, _, counted⟩, once⟩
    exact ⟨⟨allowed, handled, once⟩, counted⟩
  · rintro ⟨⟨allowed, handled, once⟩, counted⟩
    rcases processIOData_staged shock present handled lazyUpload with ⟨staged, uploaded, isStaged⟩
    exact ⟨some staged, (runCell_once shock present found stops).mpr
      ⟨⟨allowed, handled, ⟨staged, uploaded, isStaged, rfl⟩, counted⟩, once⟩, staged, rfl, isStaged⟩

/-- A default that no use touches must have nothing to upload. -/
theorem idle_iff (shock : ShockAnswers outside) {value : Value} {place : Place} {uses : List Use}
    {total : Nat} (idle : forall use, use ∈ uses ->
      stageDefault outside lazyUpload currentPath place use (some value) = .ok (some value, 0)) :
    (Exists fun after => runCell (stageDefault outside lazyUpload currentPath) place uses
        (some value) =
        .ok (after, total) ∧ StagedDefault outside (some value) after) ↔
      needed value = 0 ∧ total = needed value := by
  rw [runCell_idle idle]
  constructor
  · rintro ⟨after, ran, staged, same, isStaged⟩
    cases ran
    cases same
    have nothing := (staged_self_iff shock).mp isStaged
    exact ⟨nothing, nothing.symm⟩
  · rintro ⟨nothing, rfl⟩
    rw [nothing]
    exact ⟨some value, rfl, value, rfl, (staged_self_iff shock).mpr nothing⟩

theorem parameter_none_iff {number : Nat} (uses : List Use) :
    forall {after : Option Value} {total : Nat},
    runCell (stageDefault outside lazyUpload currentPath) (.parameter number) uses none = .ok
        (after, total) ↔
      NoSecondaryFiles uses ∧ after = none ∧ total = 0 := by
  induction uses with
  | nil =>
      intro after total
      constructor
      · intro ran
        cases ran
        exact ⟨(fun _ absent => nomatch absent), rfl, rfl⟩
      · rintro ⟨_, rfl, rfl⟩
        rfl
  | cons use rest inductionHypothesis =>
      intro after total
      rw [runCell_cons_ok, stageDefault, processParameter, checkSecondaryFiles]
      constructor
      · rintro ⟨first, count, here, there, rfl⟩
        split_ifs at here with refused
        cases here
        rcases inductionHypothesis.mp there with ⟨others, rfl, rfl⟩
        exact ⟨List.forall_mem_cons.mpr ⟨Bool.eq_false_iff.mpr refused, others⟩, rfl, rfl⟩
      · rintro ⟨every, rfl, rfl⟩
        have both := List.forall_mem_cons.mp every
        rw [both.1]
        exact ⟨(none, 0), 0, rfl, inductionHypothesis.mpr ⟨both.2, rfl, rfl⟩, rfl⟩

theorem parameter_file_iff (shock : ShockAnswers outside) {fields : FileFields}
    {secondaryFiles : List Value}
    (present : forall file, file ∈ files (.file fields secondaryFiles) ->
    Present outside currentPath file)
    {number : Nat} {use : Use} {rest : List Use} {total : Nat} :
    (Exists fun after => runCell (stageDefault outside lazyUpload currentPath)
        (.parameter number) (use :: rest)
        (some (.file fields secondaryFiles)) = .ok (after, total) ∧
          StagedDefault outside (some (.file fields secondaryFiles)) after) ↔
      SuitsParameter outside currentPath (use :: rest) (some (.file fields secondaryFiles)) ∧
        total = needed (.file fields secondaryFiles) := by
  rw [SuitsParameter]
  cases exist : fileExists outside currentPath fields with
  | error failure =>
      refine iff_of_false ?_ fun both => both.1
      rintro ⟨after, ran, _⟩
      rcases runCell_cons_ok.mp ran with ⟨first, _, here, _, _⟩
      rw [stageDefault, processParameter, missing, exist] at here
      cases failure <;> cases here
  | ok found =>
      cases found with
      | false =>
          have skipped := fun name =>
              (@missing_file outside currentPath name fields secondaryFiles true).mpr exist
          refine idle_iff shock fun other _ => ?_
          rw [stageDefault, processParameter, skipped]
          rfl
      | true =>
          have found := fun name =>
              (@missing_file outside currentPath name fields secondaryFiles false).mpr exist
          by_cases needs : NeedsUpload fields
          · rw [parameter_once_iff shock present found]
            · have alone : (NeedsUpload fields -> (use :: rest).length = 1) ↔ rest = [] := by
                rw [List.length_cons, Nat.succ_inj, List.length_eq_zero_iff]
                exact ⟨fun once => once needs, fun once _ => once⟩
              dsimp only
              rw [alone]
            · intro after staged name
              rcases staged_file staged with ⟨other, others, rfl, stagedFile⟩
              rw [StagedFile, if_pos needs] at stagedFile
              rcases fileExists_inShock shock stagedFile with ⟨failure, refused⟩
              rw [missing, refused]
              cases failure with
              | error text => exact ⟨_, rfl⟩
              | panic text => exact ⟨_, rfl⟩
          · rw [parameter_value_iff shock present found]
            · have always : NeedsUpload fields -> (use :: rest).length = 1 :=
                fun other => absurd other needs
              dsimp only
              exact and_congr_left fun _ =>
                ⟨fun both => ⟨both.1, both.2, always⟩, fun both => ⟨both.1, both.2.1⟩⟩
            · intro after staged name
              rcases staged_file staged with ⟨other, others, rfl, stagedFile⟩
              rw [StagedFile, if_neg needs] at stagedFile
              rw [stagedFile]
              exact missing_file.mpr exist

/-- The condition on a parameter, and what the upload counts then. -/
theorem parameter_iff (shock : ShockAnswers outside) {default : Option Value}
    (present : forall value, default = some value -> forall file, file ∈ files value ->
    Present outside currentPath file)
    {number : Nat} {uses : List Use} (met : uses ≠ []) {total : Nat} :
    (Exists fun after => runCell (stageDefault outside lazyUpload currentPath) (.parameter number)
        uses default =
        .ok (after, total) ∧ StagedDefault outside default after) ↔
      SuitsParameter outside currentPath uses default ∧ total = neededIn default := by
  rcases List.exists_cons_of_ne_nil met with ⟨use, rest, rfl⟩
  cases default with
  | none =>
      constructor
      · rintro ⟨after, ran, _⟩
        have known := (parameter_none_iff _).mp ran
        exact ⟨known.1, known.2.2⟩
      · rintro ⟨every, rfl⟩
        exact ⟨none, (parameter_none_iff _).mpr ⟨every, rfl, rfl⟩, rfl⟩
  | some value =>
      cases value with
      | file fields secondaryFiles => exact parameter_file_iff shock (present _ rfl)
      | _ =>
          exact parameter_value_iff shock (present _ rfl) (fun _ => rfl)
            (missing_of_staged fun _ _ impossible => nomatch impossible)

/-- The condition on a step input, and what the upload counts then. -/
theorem stepInput_iff (shock : ShockAnswers outside) {default : Option Value}
    (present : forall value, default = some value -> forall file, file ∈ files value ->
    Present outside currentPath file)
    {number : Nat} {uses : List Use} (met : uses ≠ []) {total : Nat} :
    (Exists fun after => runCell (stageDefault outside lazyUpload currentPath) (.stepInput number)
        uses default =
        .ok (after, total) ∧ StagedDefault outside default after) ↔
      SuitsStepInput currentPath default ∧ total = neededIn default := by
  rcases List.exists_cons_of_ne_nil met with ⟨use, rest, rfl⟩
  cases default with
  | none =>
      have idle : runCell (stageDefault outside lazyUpload currentPath) (.stepInput number)
          (use :: rest) none =
          .ok (none, 0) := runCell_idle fun _ _ => rfl
      rw [idle]
      constructor
      · rintro ⟨after, ran, _⟩
        cases ran
        exact ⟨trivial, rfl⟩
      · rintro ⟨_, rfl⟩
        exact ⟨none, rfl, rfl⟩
  | some value =>
      have known := present value rfl
      cases value with
      | file fields secondaryFiles =>
          have again : forall {after : Value},
              processIOData outside lazyUpload currentPath after = .ok (after, 0) ->
                runCell (stageDefault outside lazyUpload currentPath) (.stepInput number) rest
                    (some after) =
                  .ok (some after, 0) := by
            intro after again
            refine runCell_idle fun other _ => ?_
            cases after with
            | file others more =>
                rw [stageDefault, workflowStepInput, again]
                rfl
            | _ => rfl
          constructor
          · rintro ⟨after, ran, _⟩
            rcases runCell_cons_ok.mp ran with ⟨first, count, here, there, rfl⟩
            rw [stageDefault, workflowStepInput] at here
            cases processed : processIOData outside lazyUpload currentPath
                (.file fields secondaryFiles) with
            | error failure =>
                rw [processed] at here
                cases here
            | ok result =>
                have handled : forall node, node ∈ nodes (.file fields secondaryFiles) ->
                    Handled currentPath node :=
                  fun _ member => handled_of_processIOData processed member
                rcases processIOData_staged shock known handled lazyUpload with
                    ⟨staged, uploaded, isStaged⟩
                rw [uploaded] at here
                cases here
                rw [again (processIOData_again shock handled isStaged)] at there
                cases there
                exact ⟨handled, rfl⟩
          · rintro ⟨handled, rfl⟩
            rcases processIOData_staged shock known handled lazyUpload with
                ⟨staged, uploaded, isStaged⟩
            refine ⟨some staged, runCell_cons_ok.mpr
                ⟨(some staged, needed (.file fields secondaryFiles)), 0, ?_,
              again (processIOData_again shock handled isStaged), rfl⟩, staged, rfl, isStaged⟩
            rw [stageDefault, workflowStepInput, uploaded]
            rfl
      | _ => exact idle_iff shock fun _ _ => rfl

theorem default_iff (shock : ShockAnswers outside) {place : Place} {default : Option Value}
    (present : forall value, default = some value -> forall file, file ∈ files value ->
    Present outside currentPath file)
    {uses : List Use} (met : uses ≠ []) {total : Nat} :
    (Exists fun after => runCell (stageDefault outside lazyUpload currentPath) place uses default =
        .ok (after, total) ∧
        StagedDefault outside default after) ↔
      Suits outside currentPath place uses default ∧ total = neededIn default := by
  cases place with
  | stepInput number => exact stepInput_iff shock present met
  | parameter number => exact parameter_iff shock present met

end

/-! ## What the upload achieves -/

section

variable {outside : Outside} {lazyUpload : Bool} {currentPath : String} {downloads : Downloads}

/-- One visit of a value in a listing.  The values under other numbers stay as they
are, and the disk plays no part. -/
theorem downloadValue_iff (made : forall state path, downloads.outside.mkdirAll state path = .ok ())
    (number : Nat) (staging : Staging) (listings : Nat -> Value) :
    (Exists fun disk => downloadValue currentPath downloads number staging = .ok
        (⟨listings, disk⟩, 0)) ↔
      (forall node, node ∈ nodes (staging.listings number) -> Quiet node) ∧
        listings = Function.update staging.listings number (leave (staging.listings number)) := by
  rw [downloadValue]
  constructor
  · rintro ⟨disk, done⟩
    cases downloaded : Download.processIOData downloads.outside downloads.shockClient
        downloads.basePath currentPath
        (staging.listings number) staging.disk with
    | error failure =>
        rw [downloaded] at done
        cases done
    | ok result =>
        rcases result with ⟨after, last, count⟩
        rw [downloaded] at done
        cases done
        rcases (processIOData_iff made _ currentPath staging.disk after).mp ⟨last, downloaded⟩
            with ⟨quiet, rfl⟩
        exact ⟨quiet, rfl⟩
  · rintro ⟨quiet, rfl⟩
    rcases (processIOData_iff made (staging.listings number) currentPath staging.disk _).mpr
        ⟨quiet, rfl⟩ with
      ⟨disk, downloaded⟩
    refine ⟨disk, ?_⟩
    rw [downloaded]
    rfl

/-- The downloads count nothing exactly if each value lasts for as long as it is
met.  The induction is on what is still to come: a visit is quiet, and leaves a value
that lasts for the others. -/
theorem works_iff (made : forall state path, downloads.outside.mkdirAll state path = .ok ())
    (works : List Work) (staging : Staging) :
    (Exists fun last => inTurn (doWork currentPath downloads) works staging = .ok (last, 0)) ↔
      (forall text, Work.refused text ∉ works) ∧
        forall number, LastsFor (works.count (.listing number)) (staging.listings number) := by
  induction works generalizing staging with
  | nil => exact iff_of_true ⟨staging, rfl⟩ ⟨fun _ => List.not_mem_nil, fun _ => trivial⟩
  | cons work rest inductionHypothesis =>
      cases work with
      | refused text =>
          refine iff_of_false ?_ fun both => both.1 text List.mem_cons_self
          rintro ⟨last, done⟩
          rcases inTurn_cons_ok.mp done with ⟨_, _, impossible, _⟩
          cases impossible
      | listing number =>
          have visits (other : Nat) : (Work.listing number :: rest).count (.listing other) =
              if other = number then rest.count (.listing other) + 1 else
                  rest.count (.listing other) := by
            by_cases same : other = number
            · rw [if_pos same, same, List.count_cons_self]
            · have different : Work.listing number ≠ .listing other :=
                fun equal => same (Work.listing.inj equal).symm
              rw [if_neg same, List.count_cons_of_ne different]
          have lasting : (forall other,
              LastsFor ((Work.listing number :: rest).count (.listing other))
              (staging.listings other)) ↔
                (forall node, node ∈ nodes (staging.listings number) -> Quiet node) ∧
                  forall other, LastsFor (rest.count (.listing other))
                    (Function.update staging.listings number
                        (leave (staging.listings number)) other) := by
            simp only [visits]
            constructor
            · intro every
              have here := every number
              rw [if_pos rfl, lastsFor_succ] at here
              refine ⟨here.1, fun other => ?_⟩
              by_cases same : other = number
              · rw [same, Function.update_self]
                exact here.2
              · rw [Function.update_of_ne same]
                have elsewhere := every other
                rw [if_neg same] at elsewhere
                exact elsewhere
            · rintro ⟨quiet, every⟩ other
              have there := every other
              by_cases same : other = number
              · rw [same, Function.update_self] at there
                rw [if_pos same, same, lastsFor_succ]
                exact ⟨quiet, there⟩
              · rw [Function.update_of_ne same] at there
                rw [if_neg same]
                exact there
          have noneRefused : (forall text, Work.refused text ∉ Work.listing number :: rest) ↔
              forall text, Work.refused text ∉ rest :=
            forall_congr' fun text => not_congr
              ⟨fun member => (List.mem_cons.mp member).resolve_left (by rintro ⟨⟩),
                  List.mem_cons_of_mem _⟩
          rw [lasting, noneRefused]
          constructor
          · rintro ⟨last, done⟩
            rcases inTurn_cons_ok.mp done with ⟨⟨⟨listings, disk⟩, one⟩, count, here, there, total⟩
            rcases Nat.add_eq_zero_iff.mp total.symm with ⟨noneHere, rfl⟩
            change one = 0 at noneHere
            rw [noneHere] at here
            rcases (downloadValue_iff made number staging listings).mp ⟨disk, here⟩
                with ⟨quiet, rfl⟩
            rcases (inductionHypothesis _).mp ⟨last, there⟩ with ⟨accepted, every⟩
            exact ⟨accepted, quiet, every⟩
          · rintro ⟨accepted, quiet, every⟩
            rcases (downloadValue_iff made number staging _).mpr ⟨quiet, rfl⟩ with ⟨disk, here⟩
            rcases (inductionHypothesis ⟨_, disk⟩).mpr ⟨accepted, every⟩ with ⟨last, there⟩
            exact ⟨last, inTurn_cons_ok.mpr ⟨_, 0, here, there, rfl⟩⟩

/-- A process is uploaded as it should be exactly if it is suitable. -/
theorem process_iff (shock : ShockAnswers outside)
    (made : forall state path, downloads.outside.mkdirAll state path = .ok ()) {process : Process}
    {defaults : Defaults} {staging : Staging}
    (present : forall place, place ∈ reached process -> forall value, defaults place = some value ->
      forall file, file ∈ files value -> Present outside currentPath file) :
    (Exists fun after : Defaults × Staging =>
      processProcess outside lazyUpload currentPath downloads process (defaults, staging) =
          .ok (after, ∑ place ∈ reached process, neededIn (defaults place)) ∧
        (forall place, place ∈ reached process ->
            StagedDefault outside (defaults place) (after.1 place)) ∧
        forall place, place ∉ reached process -> after.1 place = defaults place) ↔
      Suitable outside currentPath process defaults staging.listings := by
  constructor
  · rintro ⟨⟨after, last⟩, processed, staged, _⟩
    rcases run_ok_iff.mp ((follows_process process _ _).mp processed) with
        ⟨counts, extra, every, worked, total⟩
    have each : forall place, place ∈ reached process ->
        Suits outside currentPath place (usesAt place (updates process)) (defaults place) ∧
          counts place = neededIn (defaults place) :=
      fun place member => (default_iff shock (present place member) (usesAt_ne_nil member)).mp
        ⟨after place, every place, staged place member⟩
    have same : ∑ place ∈ reached process, counts place = ∑ place ∈ reached process,
        neededIn (defaults place) :=
      Finset.sum_congr rfl fun place member => (each place member).2
    have nothing : extra = 0 := by
      change ∑ place ∈ reached process, neededIn (defaults place) = ∑ place ∈ reached process,
          counts place + extra
        at total
      omega
    rw [nothing] at worked
    rcases (works_iff made _ staging).mp ⟨last, worked⟩ with ⟨accepted, listings⟩
    exact ⟨fun place member => (each place member).1, accepted, listings⟩
  · intro suitable
    have every : forall place, Exists fun result : Option Value × Nat =>
        runCell (stageDefault outside lazyUpload currentPath) place (usesAt place (updates process))
            (defaults place) =
            .ok (result.1, result.2) ∧
          (place ∈ reached process -> StagedDefault outside (defaults place) result.1 ∧
            result.2 = neededIn (defaults place)) ∧
          (place ∉ reached process -> result.1 = defaults place) := by
      intro place
      by_cases member : place ∈ reached process
      · rcases (default_iff shock (present place member) (usesAt_ne_nil member)).mpr
          ⟨suitable.defaults place member, rfl⟩ with ⟨after, ran, staged⟩
        exact ⟨(after, neededIn (defaults place)), ran, fun _ => ⟨staged, rfl⟩, fun absent =>
            absurd member absent⟩
      · refine ⟨(defaults place, 0), ?_, fun other => absurd other member, fun _ => rfl⟩
        rw [usesAt_of_not_mem member]
        rfl
    choose results ran inside outsideOf using every
    rcases (works_iff made _ staging).mpr ⟨suitable.accepted, suitable.listings⟩ with ⟨last, worked⟩
    refine ⟨(fun place => (results place).1, last), (follows_process process _ _).mpr
        (run_ok_iff.mpr
      ⟨fun place => (results place).2, 0, ran, worked, ?_⟩), fun place member =>
          (inside place member).1, outsideOf⟩
    rw [Nat.add_zero]
    exact Finset.sum_congr rfl fun place member => (inside place member).2.symm

end

/-- A disk on which every path is a file, and a server that accepts all of them. -/
private def generousOutside : Outside where
  stat := fun _ => .ok { isDir := false, size := 5 }
  openFile := fun _ => .ok (.ok "digest")
  getwd := "/home"
  postFile := fun _ _ filename => .ok filename
  postFileLazy := fun _ filename _ => .ok filename
  nodeURL := fun nodeid => .ok ("http://" ++ nodeid)

private theorem generousOutside_answers : ShockAnswers generousOutside where
  posts := fun _ _ filename => ⟨filename, rfl⟩
  postsLazily := fun _ filename _ => ⟨filename, rfl⟩
  locates := fun nodeid => ⟨nodeid, Or.inl rfl⟩

private theorem generousOutside_present (currentPath : String) (file : FileFields) :
    Present generousOutside currentPath file :=
  fun _ _ _ => ⟨_, _, rfl, rfl, rfl⟩

/-- A machine that can make every directory and fetch every file. -/
private def readyDownloads : Downloads where
  outside := {
    statError := fun _ _ => none
    tempDir := fun _ _ => .ok "input_1"
    mkdirAll := fun _ _ => .ok ()
    fetchFile := fun _ _ _ _ => .ok () }
  shockClient := none
  basePath := "/data"

private def listing (value : Value) : Staging where
  listings := fun _ => value
  disk := { present := fun _ => false, fetched := [] }

/-- A file on the disk. -/
private def plainFile : Value :=
  .file { path := "a.txt" } []

private theorem plainFile_handled (node : Node) (member : node ∈ nodes plainFile) :
    Handled "/data" node := by
  rcases List.mem_singleton.mp member with rfl
  exact ⟨by decide, Or.inl (by decide)⟩

/-- A workflow with one step, which has one input. -/
private def oneStepInput : List Step :=
  [.running [0] (.expressionTool [])]

private def noDigest : Library where
  sha1 := fun _ => ""
  parseURL := fun _ => none

/-- A tool with a default and with a value in a listing, run by two steps. -/
private def runTwice (default : List CommandInputParameter) (requirements : List Requirement) :
    List Step :=
  [.running [] (.commandLineTool default requirements),
      .running [] (.commandLineTool default requirements)]

end Workflows
end Cache
end Awe
