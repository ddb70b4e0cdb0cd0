import Awe.Core.MergedSources

namespace Awe
namespace Core

open Lib Lib.Path Sources StepInputs WorkflowOutputs Scatter

/-!
# Scattering over a list of sources

An input with a list of sources is read in three places.  A step that is not
scattered merges the values of the sources, nested or flattened, as `linkMerge`
says.  A scatter over the input counts the sources themselves, and its child
with the index `i` reads the source number `i`.  Neither of these two looks at
`linkMerge`, so they only fit to an array that is merged nested.

The module compares the children with the merged array.  The scatter is made
for a task or for a workflow instance, by any of the methods; with one
scattered input these all count through the same tuples.
-/

namespace ScatterMerge

/-! ## The call -/

/-- A call of `processInstanceEnQueueScatter` for a step that scatters over one
input with a list of sources, and the array `merged` that the input has when
it is not scattered.  `report` is the text of a lookup error. -/
structure MergeCall where
  js : Javascript
  report : LookupError -> String
  env : Environment
  spare : Nat
  order : Nat -> List String
  uuids : Nat -> String
  qm : ServerMgr
  jobid : String
  parentID : String
  basename : String
  process : ProcessInstance
  job : Job
  parent : WorkflowInstance
  step : WorkflowStep
  method : ScatterMethod
  input : WorkflowStepInput
  sources : List String
  linkMerge : Option String
  default : Option Native
  valueFrom : String
  merged : List CWLValue

namespace MergeCall

/-- `getCWLSource` for the instance around the step. -/
def lookup (call : MergeCall) : SourceLookup := fun src =>
  match getCWLSource call.qm.store call.job call.parent src with
  | .error err => .error (call.report err)
  | .ok fetched => .ok fetched.obj

def result (call : MergeCall) : Except Halt (ServerMgr × Option Notice × Err) :=
  call.qm.processInstanceEnQueueScatter call.env call.lookup call.spare call.order
      call.uuids call.jobid
    call.parentID call.process

/-- The input with all its fields; a child has a copy with another index. -/
def full (call : MergeCall) (input : WorkflowStepInput) : StepInput where
  id := input.id
  source := input.source
  sourceIndex := input.sourceIndex
  linkMerge := call.linkMerge
  default := call.default
  valueFrom := call.valueFrom

/-- The values of the sources. -/
def values (call : MergeCall) : List CWLValue :=
  valuesOf call.qm.store call.job call.parent call.sources

/-- The name of the child with the index `i`. -/
def childID (call : MergeCall) (i : Nat) : String :=
  call.parentID ++ "/" ++ scatterProcessName call.basename [i]

/-- The process instance is there and not completed.  A workflow instance is
the one of the step, with a clean path, and the others of the job are in the
global map already. -/
def Open (call : MergeCall) : Prop :=
  match call.process with
  | .task ptr =>
      ptr < call.qm.store.nextTask ∧ (call.qm.store.task ptr).state ≠ .completed ∧
        (call.qm.store.task ptr).ident = ⟨call.parentID ++ "/" ++ call.basename, call.jobid⟩
  | .workflowInstance localID =>
      localID = call.parentID ++ "/" ++ call.basename ∧
        (forall element, element ∈ split call.parentID -> Plain element) ∧
        (Exists fun wi => call.job.instances.lookup localID = some wi ∧ wi.state ≠ .completed ∧
          wi.jobID = call.jobid) ∧
        forall name, (call.job.instances.lookup name).isSome -> name ≠ localID ->
          call.jobid ++ "_" ++ name ∈ call.qm.globalInstances

/-- The step is one of a CWL job and scatters over the input alone.  Without
the scatter the input has the array `merged`, so all sources have values. -/
structure Sound (call : MergeCall) : Prop where
  loaded : call.qm.store.jobs.lookup call.jobid = some call.job
  found : call.job.instances.lookup call.parentID = some call.parent
  localID : call.parent.localID = call.parentID
  started : call.parent.inputs.isSome
  stepFound : call.qm.store.processStep call.jobid call.process = some call.step
  scatters : Exists fun name => call.step.scatter = [name] ∧ base name = base call.input.id
  listed : call.input ∈ call.step.inputs
  source : call.input.source = some (.array (call.sources.map some))
  unscattered : call.input.sourceIndex = 0
  merges : ownValue call.js call.qm.store call.job call.parent (call.full call.input) = .ok
      (some (.array call.merged))
  method : readMethod call.step.scatterMethod = some call.method
  names : NamesInputs call.step
  listing : forall n, (call.order n).Perm (templateScatterStepIns call.step).keys
  jobID : call.job.id = call.jobid
  jobNamed : call.jobid ≠ ""
  plainJob : hasPrefix call.jobid "#" = false
  cwl : call.job.isCWL = true
  tasks : call.job.tasks = []
  entrypoint : hasPrefix call.job.entrypoint "#" = true
  below : hasPrefix call.parentID call.job.entrypoint = true
  uuid : call.parent.uuid ≠ ""
  named : call.basename ≠ ""
  whole : Whole call.basename
  relative : hasPrefix call.basename "#" = false
  opened : call.Open
  placed : forall ptr, ptr ∈ call.parent.tasks -> ptr < call.qm.store.nextTask
  allocated : forall id ptr, call.qm.taskMap.lookup id = some ptr -> ptr < call.qm.store.nextTask

/-- The process instances that are in `last` and were not there before. -/
def New (call : MergeCall) (last : ServerMgr) : ProcessInstance -> Prop
  | .task ptr => call.qm.store.nextTask <= ptr ∧ ptr < last.store.nextTask
  | .workflowInstance localID =>
      call.qm.store.instanceOf call.jobid localID = none ∧
          (last.store.instanceOf call.jobid localID).isSome

/-- The process instance was made for the step of the call. -/
def Belongs (call : MergeCall) (last : ServerMgr) : ProcessInstance -> Prop
  | .task ptr => (last.store.task ptr).scatterParent = some
      ⟨call.parentID ++ "/" ++ call.basename, call.jobid⟩
  | .workflowInstance localID =>
      (last.store.instanceOf call.jobid localID).map WorkflowInstance.scatterParent =
        (call.job.instances.lookup (call.parentID ++ "/" ++ call.basename)).map
        WorkflowInstance.uuid

/-- The sources of the input still have the values that they have in the call. The merged array is
read again when the children run, and by then it has to be the same. -/
def Stable (call : MergeCall) (store : Store) (job : Job) (wi : WorkflowInstance) : Prop :=
  forall src obj, src ∈ call.sources -> getCWLSource call.qm.store call.job call.parent src = .ok
      (.value obj) ->
    getCWLSource store job wi src = .ok (.value obj)

/-- The child with the index `i`: it has one input of the name of the scattered
one, and with the sources as they are it reads `value` for it. -/
def Reads (call : MergeCall) (last : ServerMgr) (i : Nat) (child : ProcessInstance)
    (value : CWLValue) : Prop :=
  last.store.processIDStr child = call.childID i ∧ call.Belongs last child ∧
    Exists fun step => Exists fun input => last.store.processStep call.jobid child = some step ∧
      step.inputs.filter (fun other => base other.id = base call.input.id) = [input] ∧
      forall store job wi, call.Stable store job wi ->
        ownValue call.js store job wi (call.full input) = .ok (some value)

/-- The scatter respects `linkMerge`: it adds one child for each element of the
merged array, without an error if there are sources, and the child reads that
element.  The sources keep their values meanwhile. -/
def Respects (call : MergeCall) : Prop :=
  Exists fun last => Exists fun notice => Exists fun err => Exists fun children :
      List ProcessInstance =>
    call.result = .ok (last, notice, err) ∧ (call.sources ≠ [] -> err = none) ∧
      children.Nodup ∧ (forall process, process ∈ children ↔ call.New last process) ∧
      children.length = call.merged.length ∧
      (forall job wi, last.store.jobs.lookup call.jobid = some job ->
        job.instances.lookup call.parentID = some wi -> call.Stable last.store job wi) ∧
      forall i child value, children[i]? = some child -> call.merged[i]? = some value ->
        call.Reads last i child value

/-- The names of the children are not in use. -/
def NamesFree (call : MergeCall) : Prop :=
  forall i, i < call.sources.length ->
    match call.process with
    | .task _ => Scatter.NameFree call.qm call.parent ⟨call.childID i, call.jobid⟩
    | .workflowInstance _ =>
        call.job.instances.lookup (call.childID i) = none ∧
          call.jobid ++ "_" ++ call.childID i ∉ call.qm.globalInstances

/-- There is no default, or it is null. -/
def DefaultsToNull (call : MergeCall) : Prop :=
  forall native, call.default = some native -> call.js.newCWLType native = .ok .null

/-- The sources fit to the merged array.  Nested, a value that is null must not
be replaced by a default, and children that share their inputs all read the
last source.  Flattened, only empty arrays in that last case can fit. -/
def Fits (call : MergeCall) : Prop :=
  if call.linkMerge = some "merge_flattened" then
    call.spare ≠ 0 ∧ call.values.getLast? = some (.array []) ∧
      call.values.flatMap elements = List.replicate call.values.length (.array [])
  else
    (call.spare = 0 ∨ forall value, value ∈ call.values -> call.values.getLast? = some value) ∧
      (.null ∈ call.values -> call.DefaultsToNull)

end MergeCall

/-! ## What a child reads -/

namespace MergeCall

section

variable {call : MergeCall}

/-- The value of a child whose source has the value `value`. -/
def handed (call : MergeCall) (value : CWLValue) : Except String (Option CWLValue) :=
  (defaultWrite call.js (some value) (call.full call.input)).map fun written =>
      some (written.getD value)

theorem Sound.given (sound : call.Sound) : call.input.source ≠ none := by
  rw [sound.source]
  exact fun never => (nomatch never)

theorem handed_present (sound : call.Sound) {value : CWLValue} (present : value ≠ .null) :
    call.handed value = .ok (some value) := by
  unfold handed
  rw [@defaultWrite_present call.js (call.full call.input) sound.given value present]
  rfl

/-- Only null may be replaced. -/
theorem handed_same_iff (sound : call.Sound) (value : CWLValue) :
    call.handed value = .ok (some value) ↔ (value = .null -> call.DefaultsToNull) := by
  by_cases present : value = .null
  · subst present
    rw [imp_iff_right rfl]
    unfold handed defaultWrite DefaultsToNull
    rw [if_pos (Or.inr (show hasInput (some CWLValue.null) = false from rfl))]
    have same : (call.full call.input).default = call.default := rfl
    rw [same]
    cases call.default with
    | none =>
        dsimp only
        refine ⟨fun _ _ never => (nomatch never), fun _ => ?_⟩
        split_ifs
        · rfl
        · rfl
    | some native =>
        dsimp only
        constructor
        · intro kept other same
          cases same
          cases written : call.js.newCWLType native with
          | error err =>
              rw [written] at kept
              cases kept
          | ok value =>
              rw [written] at kept
              have null : value = .null := Option.some.inj (Except.ok.inj kept)
              rw [null]
        · intro harmless
          rw [harmless native rfl]
          rfl
  · exact ⟨fun _ null => absurd null present, fun _ => handed_present sound present⟩

theorem Sound.mergesTo (sound : call.Sound) :
    MergesTo call.qm.store call.job call.parent (call.linkMerge.getD "merge_nested") call.sources
        call.merged := by
  have merges := sound.merges
  rw [@ownValue_array call.js call.qm.store call.job call.parent (call.full call.input)
      _ sound.source] at merges
  unfold arraySource at merges
  rw [if_pos (show (call.full call.input).sourceIndex = 0 from sound.unscattered)] at merges
  cases made : mergeSources call.qm.store call.job call.parent (call.linkMerge.getD "merge_nested")
      (call.sources.map some) with
  | error err =>
      rw [show (call.full call.input).linkMerge = call.linkMerge from rfl, made] at merges
      cases merges
  | ok items =>
      rw [show (call.full call.input).linkMerge = call.linkMerge from rfl, made] at merges
      have written : (call.handed (.array items)) = .ok (some (.array call.merged)) := merges
      have present : CWLValue.array items ≠ .null := fun never => (nomatch never)
      rw [handed_present sound present] at written
      have same : items = call.merged :=
          CWLValue.array.inj (Option.some.inj (Except.ok.inj written))
      exact same ▸ mergesTo_of_mergeSources call.sources made

theorem Sound.length_values (sound : call.Sound) : call.values.length = call.sources.length :=
  length_valuesOf sound.mergesTo.valued

/-- A child reads the source with its index, with whatever replaces null. -/
theorem Sound.child_value (sound : call.Sound) {store : Store} {job : Job} {wi : WorkflowInstance}
    (stable : call.Stable store job wi) {k : Nat} {value : CWLValue}
    (there : call.values[k]? = some value) :
    ownValue call.js store job wi (call.full { call.input with sourceIndex := k + 1 }) =
        call.handed value := by
  rcases (valuesOf_getElem? sound.mergesTo.valued k value).mp there with ⟨src, listed, found⟩
  have later := stable src value (List.mem_of_getElem? listed) found
  rw [@ownValue_array call.js store job wi (call.full { call.input with sourceIndex := k + 1 })
      _ sound.source]
  unfold arraySource
  rw [if_neg (show (call.full { call.input with sourceIndex := k + 1 }).sourceIndex ≠
      0 from Nat.succ_ne_zero k)]
  have entry : (call.sources.map
      some)[(call.full { call.input with sourceIndex := k + 1 }).sourceIndex - 1]? =
      some (some src) := by
    rw [show (call.full { call.input with sourceIndex := k + 1 }).sourceIndex - 1 =
        k from Nat.add_sub_cancel k 1,
      List.getElem?_map, listed]
    rfl
  rw [entry]
  dsimp only
  rw [listedSource_ok_iff.mpr later]
  rfl

/-- The index whose source the child `i` ends up with. -/
def shown (call : MergeCall) (i : Nat) : Nat :=
  if call.spare = 0 then i else call.sources.length - 1

theorem Sound.flattened (sound : call.Sound) (flat : call.linkMerge = some "merge_flattened") :
    call.merged = call.values.flatMap elements ∧
      forall value, value ∈ call.values -> value = .array (elements value) :=
  sound.mergesTo.flattened (by rw [flat]; rfl)

theorem Sound.nested (sound : call.Sound) (nests : call.linkMerge ≠ some "merge_flattened") :
    call.merged = call.values := by
  refine sound.mergesTo.nested ?_
  cases linked : call.linkMerge with
  | none => decide
  | some method =>
      intro same
      exact nests (by rw [linked, show method = "merge_flattened" from same])

/-- The children read the merged array. Each child takes its own element by index, as the step
input says, and gets nothing else. -/
def Served (call : MergeCall) : Prop :=
  call.merged.length = call.sources.length ∧ forall i value, call.merged[i]? = some value ->
    Exists fun read => call.values[call.shown i]? = some read ∧ call.handed read = .ok (some value)

/-- An array whose elements are all the array itself is empty. -/
theorem empty_of_repeats {items : List CWLValue}
    (repeats : forall item, item ∈ items -> item = .array items) :
    items = [] := by
  cases items with
  | nil => rfl
  | cons first rest =>
      have size := congrArg sizeOf (repeats first List.mem_cons_self)
      simp only [CWLValue.array.sizeOf_spec, List.cons.sizeOf_spec] at size
      omega

theorem Sound.served_iff (sound : call.Sound) (nonempty : call.sources ≠ []) :
    call.Served ↔ call.Fits := by
  have long := sound.length_values
  have positive : 0 < call.sources.length := List.length_pos_iff.mpr nonempty
  obtain ⟨last, isLast⟩ : Exists fun last => call.values[call.sources.length - 1]? = some last :=
    ⟨_, List.getElem?_eq_getElem (by omega)⟩
  have ends : call.values.getLast? = some last := by
    rw [List.getLast?_eq_getElem?, long, isLast]
  unfold Served Fits
  by_cases flat : call.linkMerge = some "merge_flattened"
  · rcases sound.flattened flat with ⟨merged, arrays⟩
    have kept (value : CWLValue) (member : value ∈ call.values) :
        call.handed value = .ok (some value) := by
      refine handed_present sound ?_
      rw [arrays value member]
      exact fun never => (nomatch never)
    rw [if_pos flat, ← merged]
    constructor
    · rintro ⟨length, reads⟩
      by_cases apart : call.spare = 0
      · -- The concatenation would be the list of the arrays itself.
        have same : call.merged = call.values := by
          apply List.ext_getElem?
          intro i
          cases there : call.merged[i]? with
          | none =>
              rw [List.getElem?_eq_none_iff] at there
              exact (List.getElem?_eq_none_iff.mpr (by omega)).symm
          | some value =>
              rcases reads i value there with ⟨read, listed, handed⟩
              unfold shown at listed
              rw [if_pos apart] at listed
              rw [kept read (List.mem_of_getElem? listed)] at handed
              rw [listed, Option.some.inj (Except.ok.inj handed)]
        have mapped : call.values = (call.values.map elements).map CWLValue.array := by
          rw [List.map_map]
          refine (List.map_id _).symm.trans (List.map_congr_left fun value member => ?_)
          exact arrays value member
        refine absurd ?_ (@flatten_ne (call.values.map elements) fun none => ?_)
        · rw [← List.flatMap_def, ← merged, ← mapped, same]
        · rw [List.map_eq_nil_iff.mp none] at long
          exact absurd long.symm (Nat.ne_of_gt positive)
      · have repeated (i : Nat) (value : CWLValue) (there : call.merged[i]? = some value) :
          value = last := by
          rcases reads i value there with ⟨read, listed, handed⟩
          unfold shown at listed
          rw [if_neg apart, isLast] at listed
          cases listed
          rw [kept last (List.mem_of_getElem? isLast)] at handed
          exact (Option.some.inj (Except.ok.inj handed)).symm
        have member : last ∈ call.values := List.mem_of_getElem? isLast
        have empty : elements last = [] := by
          apply empty_of_repeats
          intro item listed
          have inside : item ∈ call.merged := by
            rw [merged]
            exact List.mem_flatMap.mpr ⟨last, member, listed⟩
          rcases List.mem_iff_getElem?.mp inside with ⟨i, there⟩
          rw [repeated i item there]
          exact arrays last member
        have isEmpty : last = .array [] := by
          rw [arrays last member, empty]
        refine ⟨apart, by rw [ends, isEmpty], ?_⟩
        rw [List.eq_replicate_iff, long]
        refine ⟨length, fun item listed => ?_⟩
        rcases List.mem_iff_getElem?.mp listed with ⟨i, there⟩
        rw [repeated i item there, isEmpty]
    · rintro ⟨shared, isEmpty, repeated⟩
      rw [ends] at isEmpty
      rw [repeated, List.length_replicate]
      refine ⟨long, fun i value there => ⟨last, ?_, ?_⟩⟩
      · unfold shown
        rw [if_neg shared, isLast]
      · rw [kept last (List.mem_of_getElem? isLast), Option.some.inj isEmpty]
        rw [List.eq_of_mem_replicate (List.mem_of_getElem? there)]
  · rw [if_neg flat, sound.nested flat]
    constructor
    · rintro ⟨_, reads⟩
      by_cases apart : call.spare = 0
      · refine ⟨Or.inl apart, fun null => ?_⟩
        rcases List.mem_iff_getElem?.mp null with ⟨i, there⟩
        rcases reads i .null there with ⟨read, listed, handed⟩
        unfold shown at listed
        rw [if_pos apart, there] at listed
        cases listed
        exact (handed_same_iff sound .null).mp handed rfl
      · have handed (i : Nat) (value : CWLValue) (there : call.values[i]? = some value) :
            call.handed last = .ok (some value) := by
          rcases reads i value there with ⟨read, listed, handed⟩
          unfold shown at listed
          rw [if_neg apart, isLast] at listed
          cases listed
          exact handed
        have alike (value : CWLValue) (member : value ∈ call.values) : last = value := by
          rcases List.mem_iff_getElem?.mp member with ⟨i, there⟩
          have own := handed _ last isLast
          rw [handed i value there] at own
          exact (Option.some.inj (Except.ok.inj own)).symm
        refine ⟨Or.inr fun value member => by rw [ends, alike value member], fun null => ?_⟩
        have isNull := alike .null null
        exact (handed_same_iff sound last).mp (handed _ last isLast) isNull
    · rintro ⟨sharing, harmless⟩
      refine ⟨long, fun i value there => ⟨value, ?_, ?_⟩⟩
      · unfold shown
        split_ifs with apart
        · exact there
        · have alike := (sharing.resolve_left apart) value (List.mem_of_getElem? there)
          rw [ends] at alike
          rw [isLast, alike]
      · refine (handed_same_iff sound value).mpr fun null => harmless ?_
        rw [← null]
        exact List.mem_of_getElem? there

end

end MergeCall

/-! ## Up to the loops -/

/-- With different keys a filter by one key leaves one element. -/
theorem filter_eq_singleton {A Key : Type} [DecidableEq Key] {key : A -> Key} {list : List A}
    (distinct : (list.map key).Nodup) {item : A} (member : item ∈ list) :
    list.filter (fun other => key other = key item) = [item] := by
  induction list with
  | nil => cases member
  | cons first rest inductionHypothesis =>
      rw [List.map_cons, List.nodup_cons] at distinct
      rcases List.mem_cons.mp member with rfl | later
      · rw [List.filter_cons_of_pos (by simp), List.filter_eq_nil_iff.mpr]
        intro other listed same
        exact distinct.1 (List.mem_map.mpr ⟨other, listed, by simpa using same⟩)
      · have different : key first ≠ key item := fun same =>
          distinct.1 (List.mem_map.mpr ⟨item, later, same.symm⟩)
        rw [List.filter_cons_of_neg (by simpa using different)]
        exact inductionHypothesis distinct.2 later

namespace MergeCall

/-- The server that the children are added to: a nested product has suspended
the step and the job by then. -/
def stopped (call : MergeCall) : ServerMgr × Err :=
  if call.method = .nestedCrossproduct then call.qm.suspendNested call.jobid call.process else
      (call.qm, none)

/-- All that a suspension changes. A process that cannot be expanded is suspended, and nothing
else is touched. -/
structure Stopped (call : MergeCall) (after : ServerMgr) : Prop where
  nextTask : after.store.nextTask = call.qm.store.nextTask
  taskMap : after.taskMap = call.qm.taskMap
  globals : after.globalInstances = call.qm.globalInstances
  task : forall ptr, after.store.task ptr = call.qm.store.task ptr ∨
    (call.process = .task ptr ∧
        after.store.task ptr = { call.qm.store.task ptr with state := .suspend })
  job : Exists fun job => after.store.jobs.lookup call.jobid = some job ∧
      job.context = call.job.context ∧
    forall name, job.instances.lookup name = call.job.instances.lookup name ∨
      (call.process = .workflowInstance name ∧
        job.instances.lookup name = (call.job.instances.lookup name).map fun wi =>
        { wi with state := .suspend })

section

variable {call : MergeCall}

theorem Sound.stops (sound : call.Sound) :
    Exists fun after => call.stopped = (after, none) ∧ call.Stopped after := by
  unfold stopped
  by_cases nested : call.method = .nestedCrossproduct
  · rw [if_pos nested]
    obtain ⟨store, isStore⟩ : Exists fun store => store = match call.process with
      | .task ptr => (call.qm.store.taskSetState ptr .suspend).1
      | .workflowInstance localID => call.qm.store.setInstanceState call.jobid localID .suspend :=
          ⟨_, rfl⟩
    have written : store.nextTask = call.qm.store.nextTask ∧
        (forall ptr, store.task ptr = call.qm.store.task ptr ∨
          (call.process = .task ptr ∧
          store.task ptr = { call.qm.store.task ptr with state := .suspend })) ∧
        Exists fun job => store.jobs.lookup call.jobid = some job ∧ job.context = call.job.context ∧
          job.tasks = call.job.tasks ∧
          forall name, job.instances.lookup name = call.job.instances.lookup name ∨
            (call.process = .workflowInstance name ∧ job.instances.lookup name =
              (call.job.instances.lookup name).map fun wi => { wi with state := .suspend }) := by
      cases isProcess : call.process with
      | task ptr =>
          rw [isProcess] at isStore
          dsimp only at isStore
          rcases call.qm.store.taskSetState_cases ptr .suspend with ⟨same, _⟩ | ⟨_, _, wrote⟩
              | ⟨_, never, _⟩ |
            ⟨_, never, _⟩
          · rw [isStore, same]
            exact ⟨rfl, fun _ => Or.inl rfl, call.job, sound.loaded, rfl, rfl, fun _ => Or.inl rfl⟩
          · rw [isStore, wrote]
            refine ⟨rfl, fun other => ?_, call.job, sound.loaded, rfl, rfl, fun _ => Or.inl rfl⟩
            by_cases here : other = ptr
            · subst here
              exact Or.inr ⟨rfl, call.qm.store.modifyTask_self other fun task =>
                  { task with state := .suspend }⟩
            · exact Or.inl (call.qm.store.modifyTask_of_ne here fun task =>
                { task with state := .suspend })
          · cases never
          · cases never
      | workflowInstance localID =>
          rw [isProcess] at isStore
          dsimp only at isStore
          rw [isStore]
          unfold Store.setInstanceState Store.modifyInstance
          rw [Store.modifyJob_lookup, if_pos rfl, sound.loaded, Option.map_some]
          refine ⟨Store.modifyJob_nextTask .., fun ptr => Or.inl (by rw [Store.modifyJob_task]), _,
              rfl, ?_⟩
          cases found : call.job.instances.lookup localID with
          | none => exact ⟨rfl, rfl, fun _ => Or.inl rfl⟩
          | some wi =>
              refine ⟨rfl, rfl, fun name => ?_⟩
              dsimp only
              rw [GoMap.lookup_insert_if]
              by_cases here : name = localID
              · rw [if_pos here, here, found]
                exact Or.inr ⟨rfl, rfl⟩
              · rw [if_neg here]
                exact Or.inl rfl
    rcases written with ⟨nextTask, tasks, job, loaded, context, empty, instances⟩
    have suspends : Exists fun after : ServerMgr =>
        ({ call.qm with store } : ServerMgr).suspendJob call.jobid .suspend = (after, none) ∧
          after.store = store.jobSetState call.jobid .suspend ∧ after.taskMap = call.qm.taskMap ∧
          after.globalInstances = call.qm.globalInstances := by
      unfold ServerMgr.suspendJob Store.getJob
      dsimp only
      rw [loaded]
      dsimp only
      rw [empty, sound.tasks]
      exact ⟨_, rfl, rfl, rfl, rfl⟩
    rcases suspends with ⟨after, suspended, afterStore, taskMap, globals⟩
    have same : call.qm.suspendNested call.jobid call.process = (after, none) := by
      unfold ServerMgr.suspendNested
      dsimp only
      cases isProcess : call.process with
      | task ptr =>
          rw [isProcess] at isStore
          dsimp only at isStore ⊢
          rw [← isStore, suspended]
      | workflowInstance localID =>
          rw [isProcess] at isStore
          dsimp only at isStore ⊢
          rw [← isStore, suspended]
    unfold Store.jobSetState at afterStore
    refine ⟨after, same, ?_, taskMap, globals, fun ptr => ?_, { job with state := .suspend }, ?_,
        context, instances⟩
    · rw [afterStore]
      exact (Store.modifyJob_nextTask ..).trans nextTask
    · rw [afterStore, Store.modifyJob_task]
      exact tasks ptr
    · rw [afterStore, Store.modifyJob_lookup, if_pos rfl, loaded]
      rfl
  · rw [if_neg nested]
    exact ⟨call.qm, rfl, rfl, rfl, rfl, fun _ => Or.inl rfl, call.job, sound.loaded, rfl,
        fun _ => Or.inl rfl⟩

theorem Sound.chosen (sound : call.Sound) : call.step.scatter.map base = [base call.input.id] := by
  rcases sound.scatters with ⟨name, scatter, same⟩
  rw [scatter, List.map_singleton, same]

theorem Sound.scattered (sound : call.Sound) : scattered call.step = [call.input] := by
  unfold Scatter.scattered
  rw [sound.chosen]
  simp only [List.mem_singleton]
  exact filter_eq_singleton sound.names.inputs sound.listed

/-- One input is scattered. -/
theorem Sound.template (sound : call.Sound) :
    (templateScatterStepIns call.step).entries.length = 1 := by
  rw [templateScatterStepIns_eq, sound.scattered]
  rfl

/-- The array of the scatter is the list of the values. -/
theorem Sound.scatterArrays (sound : call.Sound) :
    scatterArrays call.lookup call.step = .ok [call.values] := by
  rcases sound.scatters with ⟨name, scatter, same⟩
  have valued := sound.mergesTo.valued
  have read : getCWLSourceArray call.lookup call.sources = .ok call.values := by
    unfold getCWLSourceArray
    refine Fallible.mapM_ok_iff.mpr
        (List.forall₂_iff_get.mpr ⟨sound.length_values.symm, fun i small other => ?_⟩)
    obtain ⟨src, listed, found⟩ :=
        (valuesOf_getElem? valued i _).mp (List.getElem?_eq_getElem other)
    rw [List.getElem?_eq_getElem small] at listed
    cases listed
    have looked : call.lookup call.sources[i] = .ok (some (call.values[i])) := by
      unfold lookup
      rw [found]
      rfl
    rw [List.get_eq_getElem, List.get_eq_getElem, looked]
  have first : call.step.inputs.find? (fun input => base input.id = base name) =
      some call.input := by
    have one := filter_eq_singleton sound.names.inputs sound.listed
    rw [← List.head?_filter, same, one]
    rfl
  have sourced : scatterSource call.lookup call.step name = .ok ("_array_", call.values) := by
    have listing : (call.sources.map some).mapM id = some call.sources := by
      induction call.sources with
      | nil => rfl
      | cons src rest inductionHypothesis =>
          rw [List.map_cons, List.mapM_cons, inductionHypothesis]
          rfl
    unfold scatterSource
    rw [first]
    dsimp only
    rw [sound.source]
    dsimp only
    rw [listing]
    dsimp only
    rw [read]
  unfold Core.scatterArrays
  rw [scatter]
  have all : [name].mapM (scatterSource call.lookup call.step) = .ok
      [("_array_", call.values)] := by
    rw [List.mapM_cons, sourced]
    rfl
  rw [all]
  rfl

end

end MergeCall

namespace MergeCall

section

variable {call : MergeCall}

/-- The index tuples: those of an array with an element for each source. -/
def tuples (call : MergeCall) : List (List Nat) :=
  (List.range call.sources.length).map fun i => [i]

theorem indexTuples_single (method : ScatterMethod) (length : Nat) :
    indexTuples method [length] = (List.range length).map fun i => [i] := by
  have product : Odometer.tuples [length] = (List.range length).map fun i => [i] := by
    simp only [Odometer.tuples, List.map_cons, List.map_nil]
    exact List.map_eq_flatMap.symm
  cases method with
  | dotproduct => rfl
  | nestedCrossproduct => exact product
  | flatCrossproduct => exact product

theorem Sound.rounds (sound : call.Sound) (nonempty : call.sources ≠ []) :
    (SetCounter.new call.step.scatter.length [call.values] call.method.scatterType).rounds
      (([call.values].map List.length).prod + 1) = some call.tuples := by
  rcases sound.scatters with ⟨name, scatter, _⟩
  have filled : forall items, items ∈ [call.values] -> items ≠ [] := by
    intro items member empty
    rw [List.mem_singleton.mp member] at empty
    have long := sound.length_values
    rw [empty] at long
    exact nonempty (List.length_eq_zero_iff.mp long.symm)
  have counted := @rounds_eq [call.values] (List.cons_ne_nil _ _) filled call.method
  rw [List.map_singleton, indexTuples_single, sound.length_values] at counted
  rw [scatter, List.length_singleton, List.map_singleton, sound.length_values]
  exact counted

/-- The call up to the loops. -/
theorem Sound.result_eq (sound : call.Sound) {after : ServerMgr}
    (stops : call.stopped = (after, none)) :
    call.result =
      if [call.values].any List.isEmpty then after.scatterEmpty call.env call.jobid call.job
          call.step call.process
      else
        match (SetCounter.new call.step.scatter.length [call.values] call.method.scatterType).rounds
            (([call.values].map List.length).prod + 1) with
        | none => .error .diverges
        | some counters =>
            let added := after.scatterChildren call.spare call.order call.uuids call.jobid
                call.parentID call.job
              call.parent call.step counters call.process
            .ok (added.1, none, added.2) := by
  have started : ¬call.parent.inputs.isNone = true := by
    rw [← Option.not_isSome, sound.started]
    exact Bool.false_ne_true
  have found : call.qm.store.instanceOf call.jobid call.parentID = some call.parent := by
    unfold Store.instanceOf
    rw [sound.loaded]
    exact sound.found
  have scatters : call.step.scatter ≠ [] := by
    rcases sound.scatters with ⟨name, scatter, _⟩
    rw [scatter]
    exact List.cons_ne_nil _ _
  have some_input : ¬(templateScatterStepIns call.step).entries.isEmpty = true := by
    rw [List.isEmpty_iff, ← List.length_eq_zero_iff, sound.template]
    exact Nat.one_ne_zero
  unfold result ServerMgr.processInstanceEnQueueScatter
  rw [sound.loaded, found]
  dsimp only
  rw [if_neg started, sound.stepFound]
  dsimp only
  rw [if_neg scatters, sound.scatterArrays]
  dsimp only
  rw [sound.method]
  dsimp only
  unfold stopped at stops
  rw [stops]
  dsimp only
  exact if_neg some_input

theorem Sound.result_children (sound : call.Sound) (nonempty : call.sources ≠ [])
    {after : ServerMgr} (stops : call.stopped = (after, none)) :
    call.result = .ok
      ((after.scatterChildren call.spare call.order call.uuids call.jobid call.parentID
          call.job call.parent
          call.step call.tuples call.process).1, none,
        (after.scatterChildren call.spare call.order call.uuids call.jobid call.parentID
            call.job call.parent
          call.step call.tuples call.process).2) := by
  have filled : ¬[call.values].any List.isEmpty = true := by
    intro some_empty
    rcases List.any_eq_true.mp some_empty with ⟨items, member, empty⟩
    rw [List.mem_singleton.mp member, List.isEmpty_iff] at empty
    have long := sound.length_values
    rw [empty] at long
    exact nonempty (List.length_eq_zero_iff.mp long.symm)
  rw [sound.result_eq stops, if_neg filled, sound.rounds nonempty]

/-- The identifier of a workflow instance with its job does not start like the
entrypoint, so no task is made for it. -/
theorem Sound.newTask_refused (sound : call.Sound) (uuid localID : String) :
    Exists fun err => newTask call.job uuid (call.jobid ++ "_" ++ localID) "dummyTask" =
        .error err := by
  have hash (text : String) (starts : hasPrefix text call.job.entrypoint = true) :
      hasPrefix text "#" = true := by
    have both := (List.isPrefixOf_iff_prefix.1 sound.entrypoint).trans
        (List.isPrefixOf_iff_prefix.1 starts)
    exact List.isPrefixOf_iff_prefix.2 both
  have outside : ¬hasPrefix (call.jobid ++ "_" ++ localID) call.job.entrypoint = true := by
    intro starts
    have plain := hash _ starts
    rw [String.append_assoc, hasPrefix_hash_append sound.jobNamed, sound.plainJob] at plain
    cases plain
  have different : "dummyTask" ≠ call.job.entrypoint := by
    intro same
    have absolute := sound.entrypoint
    rw [← same] at absolute
    exact absurd absolute (by decide)
  unfold newTask
  rw [if_neg (by decide)]
  by_cases starts : hasPrefix "dummyTask" call.job.entrypoint = true
  · rw [if_pos starts]
    exact ⟨_, rfl⟩
  · rw [if_neg starts, if_pos ⟨sound.cwl, different, outside⟩]
    exact ⟨_, rfl⟩

/-- A workflow instance of the job is still there after the suspension. -/
theorem Stopped.instance {after : ServerMgr} (stopped : call.Stopped after) {name : String}
    {wi : WorkflowInstance} (found : call.job.instances.lookup name = some wi) :
    Exists fun other => after.store.instanceOf call.jobid name = some other ∧
    other.jobID = wi.jobID ∧
      other.uuid = wi.uuid := by
  rcases stopped.job with ⟨job, loaded, _, instances⟩
  unfold Store.instanceOf
  rw [loaded, Option.bind_some]
  rcases instances name with same | ⟨_, same⟩
  · exact ⟨wi, by rw [same, found], rfl, rfl⟩
  · refine ⟨{ wi with state := .suspend }, ?_, rfl, rfl⟩
    rw [same, found]
    rfl

/-- Without a source nothing is added. -/
theorem Sound.result_empty (sound : call.Sound) (empty : call.sources = []) :
    Exists fun last => Exists fun notice => Exists fun err =>
        call.result = .ok (last, notice, err) ∧
      forall process, ¬call.New last process := by
  rcases sound.stops with ⟨after, stops, stopped⟩
  have noValue : call.values = [] := by
    rw [← List.length_eq_zero_iff, sound.length_values, empty]
    rfl
  have unchanged (last : ServerMgr) (store : last.store = after.store) (process : ProcessInstance) :
      ¬call.New last process := by
    cases process with
    | task ptr =>
        rintro ⟨old, small⟩
        rw [store, stopped.nextTask] at small
        omega
    | workflowInstance localID =>
        rintro ⟨absent, present⟩
        rcases stopped.job with ⟨job, loaded, _, instances⟩
        unfold Store.instanceOf at absent present
        rw [sound.loaded, Option.bind_some] at absent
        rw [store, loaded, Option.bind_some] at present
        rcases instances localID with same | ⟨_, same⟩
        · rw [same, absent] at present
          cases present
        · rw [same, absent] at present
          cases present
  rw [sound.result_eq stops, noValue, if_pos (show [[]].any List.isEmpty = true from rfl)]
  unfold ServerMgr.scatterEmpty
  cases isProcess : call.process with
  | task ptr =>
      dsimp only
      cases newWorkunit call.env after.store (after.store.task ptr) 0 with
      | error err => exact ⟨after, _, _, rfl, unchanged after rfl⟩
      | ok workunit =>
          dsimp only
          cases added : after.addInternalWorkunit workunit with
          | mk last err =>
              have store : last.store = after.store :=
                  (congrArg (fun answer => answer.1.store) added).symm
              cases err with
              | none => exact ⟨last, _, _, rfl, unchanged last store⟩
              | some text => exact ⟨last, _, _, rfl, unchanged last store⟩
  | workflowInstance localID =>
      have opened := sound.opened
      unfold Open at opened
      rw [isProcess] at opened
      rcases opened with ⟨_, _, ⟨wi, found, _, wiJob⟩, _⟩
      rcases stopped.instance found with ⟨other, there, otherJob, _⟩
      dsimp only
      rw [there]
      dsimp only
      rw [otherJob, wiJob]
      rcases sound.newTask_refused other.uuid other.localID with ⟨err, refused⟩
      rw [refused]
      exact ⟨after, _, _, rfl, unchanged after rfl⟩

end

end MergeCall

end ScatterMerge

end Core
end Awe
