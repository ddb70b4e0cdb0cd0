import Awe.Core.Requirements

namespace Awe
namespace Core
namespace ToolDefaults

open Lib Lib.Path Sources StepInputs KeyedWrites Requirements

/-!
# The defaults of a tool

`NewWorkunit` takes the values that `GetStepInputObjects` gathers for the step,
adds the defaults of the tool and keeps what the tool has an input for.  There
are two loops for the defaults, one for each kind of tool, and they should follow
one rule: a default stands for a value that is missing or null.

A step input without a source is null and not missing.  The loop for a
`CommandLineTool` looks for null, that for an `ExpressionTool` only for what is
missing, so the default of an `ExpressionTool` is never taken for such an input.
-/

/-- The name under which the values of an input are kept. -/
def nameOf (input : ToolInput) : String :=
  base input.id

/-- The value of an input: that of the step, or the default if the step has none or null. -/
def effective : Option CWLValue -> Option CWLValue -> Option CWLValue
  | none, default => default
  | some .null, some default => some default
  | some value, _ => some value

/-- The values that the step provides. Defaults of the tool come after it, for the inputs that are
still without a value. -/
def Provides (js : Javascript) (call : WorkunitCall) (given : GoMap String CWLValue) : Prop :=
  Exists fun wi => call.job.instances.lookup call.workflowInstanceID = some wi ∧
    getStepInputObjects js call.store call.job wi call.step.inputs = .ok given

section

variable (inputs : List ToolInput) (given : GoMap String CWLValue)

/-- The inputs that have a value or a default. -/
def supplied : List ToolInput :=
  inputs.filter fun input => (given.lookup (nameOf input)).isSome || input.default.isSome

/-- The rule: every input with a value or a default has an entry of its own with the value that it
should have, and there are no other entries. -/
structure Uniform (document : JobDocument) : Prop where
  values : forall input, input ∈ inputs -> forall value,
    effective (given.lookup (nameOf input)) input.default = some value ->
        (nameOf input, value) ∈ document
  entries : (document.map Prod.fst).Perm ((supplied inputs given).map nameOf)

/-- An input of an `ExpressionTool` for which the step provides null, although it has another
default. For the step the null is a value, as good as any other; for the tool it is what its
default is there to replace. -/
def Overlooked (kind : ToolKind) : Prop :=
  kind = .expressionTool ∧ Exists fun input => input ∈ inputs ∧
      given.lookup (nameOf input) = some .null ∧
    Exists fun default => input.default = some default ∧ default ≠ .null

end

/-! ## What the step provides -/

section

variable {js : Javascript} {store : Store} {job : Job} {wi : WorkflowInstance}

/-- The keys of a map are names. -/
def Named (map : GoMap String CWLValue) : Prop :=
  forall key value, map.lookup key = some value -> base key = key

theorem Named.insert {map : GoMap String CWLValue} (named : Named map) (text : String)
    (value : CWLValue) :
    Named (map.insert (base text) value) := by
  intro key found present
  rcases GoMap.lookup_insert_eq_some.mp present with ⟨same, _⟩ | ⟨_, before⟩
  · rw [same]
    exact base_base text
  · exact named key found before

theorem Named.empty : Named ∅ := by
  intro key value present
  rw [AList.lookup_empty] at present
  cases present

theorem Named.useDefault {map last : GoMap String CWLValue} (named : Named map) {input : StepInput}
    (done : useDefault js map input = .ok last) : Named last := by
  rw [useDefault_eq] at done
  cases written : defaultWrite js (map.lookup input.cmdID) input with
  | error err =>
      rw [written] at done
      cases done
  | ok value =>
      rw [written] at done
      cases value with
      | none =>
          cases done
          exact named
      | some value =>
          cases done
          exact named.insert input.id value

theorem Named.getStepInputObject {map last : GoMap String CWLValue} (named : Named map)
    {input : StepInput} (done : getStepInputObject js store job wi map input = .ok last) :
    Named last := by
  unfold StepInputs.getStepInputObject at done
  cases source : input.source with
  | none =>
      rw [source] at done
      exact named.useDefault done
  | some source' =>
      rw [source] at done
      cases source' with
      | strings sources => cases done
      | other => cases done
      | array sources =>
          dsimp only at done
          cases found : arraySource store job wi input sources with
          | error err =>
              rw [found] at done
              cases done
          | ok obj =>
              rw [found] at done
              exact (named.insert input.id obj).useDefault done
      | string text =>
          dsimp only at done
          cases found : singleSource js store job wi input text with
          | error err =>
              rw [found] at done
              cases done
          | ok obj =>
              rw [found] at done
              cases obj with
              | none =>
                  cases done
                  exact named
              | some obj => exact (named.insert input.id obj).useDefault done

theorem Named.sourceLoop {inputs : List StepInput} {map last : GoMap String CWLValue}
    (named : Named map) (done : sourceLoop js store job wi map inputs = .ok last) : Named last := by
  induction inputs generalizing map with
  | nil =>
      cases done
      exact named
  | cons input rest inductionHypothesis =>
      rw [StepInputs.sourceLoop] at done
      cases round : StepInputs.getStepInputObject js store job wi map input with
      | error err =>
          rw [round] at done
          cases done
      | ok next =>
          rw [round] at done
          exact inductionHypothesis (named.getStepInputObject round) done

theorem Named.valueFromLoop {inputs : List StepInput} {map last : GoMap String CWLValue}
    (named : Named map) (done : valueFromLoop js map inputs = .ok last) : Named last := by
  induction inputs generalizing map with
  | nil =>
      cases done
      exact named
  | cons input rest inductionHypothesis =>
      rw [StepInputs.valueFromLoop] at done
      by_cases silent : input.valueFrom = ""
      · rw [if_pos silent] at done
        exact inductionHypothesis named done
      · rw [if_neg silent] at done
        cases evaluated : evaluate js map.lookup input with
        | error err =>
            rw [evaluated] at done
            cases done
        | ok value =>
            rw [evaluated] at done
            exact inductionHypothesis (named.insert input.id value) done

theorem provides_named {call : WorkunitCall} {given : GoMap String CWLValue}
    (provided : Provides js call given) :
    Named given := by
  rcases provided with ⟨wi, _, gathered⟩
  unfold getStepInputObjects at gathered
  cases started : sourceLoop js call.store call.job wi ∅ call.step.inputs with
  | error err =>
      rw [started] at gathered
      cases gathered
  | ok first =>
      rw [started] at gathered
      exact (Named.empty.sourceLoop started).valueFromLoop gathered

end

/-! ## What the defaults add -/

section

/-- What a round makes of the value for an input with this default. -/
def roundValue (kind : ToolKind) (value default : Option CWLValue) : Option CWLValue :=
  if isGiven kind value then value else default <|> value

theorem roundValue_none (kind : ToolKind) (value : Option CWLValue) :
    roundValue kind value none = value := by
  unfold roundValue
  split_ifs <;> rfl

theorem lookup_addDefault (kind : ToolKind) (map : GoMap String CWLValue) (input : ToolInput)
    (key : String) :
    (addDefault kind map input).lookup key =
      if key = nameOf input then roundValue kind (map.lookup key) input.default else
      map.lookup key := by
  unfold addDefault nameOf
  by_cases own : key = base input.id
  · rw [if_pos own, <- own]
    unfold roundValue
    by_cases present : isGiven kind (map.lookup key) = true
    · rw [if_pos present, if_pos present]
    · rw [if_neg present, if_neg present]
      cases input.default with
      | none => rfl
      | some default => exact AList.lookup_insert _
  · rw [if_neg own]
    split_ifs
    · rfl
    · cases input.default with
      | none => rfl
      | some default => exact AList.lookup_insert_ne own

/-- Inputs of other names and inputs without a default leave a value as it is. -/
theorem lookup_foldl_of_none (kind : ToolKind) {inputs : List ToolInput} {key : String}
    (silent : forall input, input ∈ inputs -> nameOf input = key -> input.default = none)
    (map : GoMap String CWLValue) :
    (inputs.foldl (addDefault kind) map).lookup key = map.lookup key := by
  induction inputs generalizing map with
  | nil => rfl
  | cons input rest inductionHypothesis =>
      rw [List.foldl_cons, inductionHypothesis fun other member =>
          silent other (List.mem_cons_of_mem _ member),
        lookup_addDefault]
      split_ifs with own
      · rw [silent input List.mem_cons_self own.symm, roundValue_none]
      · rfl

/-- After the loop a name has a value if it had one or a default. -/
theorem isSome_lookup_foldl (kind : ToolKind) (inputs : List ToolInput)
    (map : GoMap String CWLValue) (key : String) :
    ((inputs.foldl (addDefault kind) map).lookup key).isSome ↔
      (map.lookup key).isSome ∨ Exists fun input => input ∈ inputs ∧ nameOf input = key ∧
      input.default.isSome := by
  induction inputs generalizing map with
  | nil =>
      constructor
      · exact Or.inl
      · rintro (present | ⟨_, absent, _⟩)
        · exact present
        · cases absent
  | cons input rest inductionHypothesis =>
      have round : ((addDefault kind map input).lookup key).isSome ↔
          (map.lookup key).isSome ∨ nameOf input = key ∧ input.default.isSome := by
        rw [lookup_addDefault]
        by_cases own : key = nameOf input
        · rw [if_pos own, roundValue]
          cases kind <;> cases map.lookup key with
          | none => cases input.default <;> simp [isGiven, own]
          | some value => cases value <;> cases input.default <;> simp [isGiven]
        · rw [if_neg own]
          exact ⟨Or.inl, fun either => either.elim id fun both => absurd both.1.symm own⟩
      rw [List.foldl_cons, inductionHypothesis, round]
      constructor
      · rintro ((present | own) | ⟨other, member, rest⟩)
        · exact Or.inl present
        · exact Or.inr ⟨input, List.mem_cons_self, own⟩
        · exact Or.inr ⟨other, List.mem_cons_of_mem _ member, rest⟩
      · rintro (present | ⟨other, member, own⟩)
        · exact Or.inl (Or.inl present)
        · rcases List.mem_cons.mp member with same | later
          · exact Or.inl (Or.inr (same ▸ own))
          · exact Or.inr ⟨other, later, own⟩

variable {inputs : List ToolInput} {given : GoMap String CWLValue}

theorem mem_supplied {input : ToolInput} :
    input ∈ supplied inputs given ↔ input ∈ inputs ∧
    ((given.lookup (nameOf input)).isSome ∨ input.default.isSome) := by
  rw [supplied, List.mem_filter, Bool.or_eq_true]

/-- Where names are not shared, only one round decides on the value of an input. -/
theorem lookup_foldl_of_supplied (kind : ToolKind)
    (distinct : ((supplied inputs given).map nameOf).Nodup) {input : ToolInput}
    (member : input ∈ inputs) (has : (given.lookup (nameOf input)).isSome ∨ input.default.isSome) :
    (inputs.foldl (addDefault kind) given).lookup (nameOf input) =
      roundValue kind (given.lookup (nameOf input)) input.default := by
  rcases List.append_of_mem member with ⟨front, back, parts⟩
  have own : ((given.lookup (nameOf input)).isSome || input.default.isSome) = true :=
      Bool.or_eq_true _ _ |>.mpr has
  have split : supplied inputs given = supplied front given ++ input :: supplied back given := by
    rw [parts, supplied, List.filter_append, List.filter_cons, if_pos own]
    rfl
  rw [split, List.map_append, List.map_cons, List.nodup_append] at distinct
  have inFront : forall other, other ∈ front -> nameOf other = nameOf input ->
      other.default = none := by
    intro other inside same
    by_contra default
    have kept : other ∈ supplied front given :=
        mem_supplied.mpr ⟨inside, Or.inr (Option.isSome_iff_ne_none.mpr default)⟩
    exact distinct.2.2 _ (List.mem_map.mpr ⟨other, kept, rfl⟩) _ List.mem_cons_self same
  have inBack : forall other, other ∈ back -> nameOf other = nameOf input ->
      other.default = none := by
    intro other inside same
    by_contra default
    have kept : other ∈ supplied back given :=
        mem_supplied.mpr ⟨inside, Or.inr (Option.isSome_iff_ne_none.mpr default)⟩
    exact (List.nodup_cons.mp distinct.2.1).1 (List.mem_map.mpr ⟨other, kept, same⟩)
  rw [parts, List.foldl_append, List.foldl_cons, lookup_foldl_of_none kind inBack,
      lookup_addDefault, if_pos rfl,
    lookup_foldl_of_none kind inFront]

/-- A round follows the rule unless it overlooks a null. -/
theorem roundValue_eq_effective {kind : ToolKind} {value default : Option CWLValue}
    (looked : kind = .expressionTool -> value = some .null -> default = none ∨
    default = some .null) :
    roundValue kind value default = effective value default := by
  cases kind with
  | commandLineTool =>
      cases value with
      | none => cases default <;> rfl
      | some value => cases value <;> cases default <;> rfl
  | expressionTool =>
      cases value with
      | none => cases default <;> rfl
      | some value =>
          cases value with
          | null => rcases looked rfl rfl with none | null <;>
              simp_all [roundValue, isGiven, effective]
          | _ => cases default <;> rfl

end

/-! ## The job input -/

section

variable {inputs : List ToolInput} {given : GoMap String CWLValue}

theorem mem_jobInput {map : GoMap String CWLValue} {name : String} {value : CWLValue} :
    (name, value) ∈ jobInput inputs map ↔
      map.lookup name = some value ∧ base name ∈ inputs.map nameOf := by
  unfold jobInput
  rw [List.mem_filter, decide_eq_true_iff]
  refine and_congr_left fun _ => ?_
  constructor
  · intro member
    rcases List.mem_map.mp member with ⟨entry, inside, same⟩
    cases same
    exact AList.mem_lookup_iff.mpr inside
  · intro present
    exact List.mem_map.mpr ⟨⟨name, value⟩, AList.mem_lookup_iff.mp present, rfl⟩

/-- No name has two entries. -/
theorem jobInput_nodup (map : GoMap String CWLValue) :
    ((jobInput inputs map).map Prod.fst).Nodup := by
  have keys : ((map.entries.map fun entry => (entry.1, entry.2)).map Prod.fst).Nodup := by
    rw [List.map_map]
    exact map.nodupKeys
  unfold jobInput
  exact List.Nodup.sublist (List.Sublist.map _ List.filter_sublist) keys

/-- The names in the job input are those of the inputs with a value or a default. -/
theorem mem_jobInput_names (named : Named given) (kind : ToolKind) (name : String) :
    name ∈ (jobInput inputs (inputs.foldl (addDefault kind) given)).map Prod.fst ↔
    name ∈ (supplied inputs given).map nameOf := by
  have known : name ∈ (jobInput inputs (inputs.foldl (addDefault kind) given)).map Prod.fst ↔
      ((inputs.foldl (addDefault kind) given).lookup name).isSome ∧
          base name ∈ inputs.map nameOf := by
    constructor
    · intro member
      rcases List.mem_map.mp member with ⟨⟨_, value⟩, inside, same⟩
      cases same
      rcases mem_jobInput.mp inside with ⟨present, wanted⟩
      exact ⟨Option.isSome_iff_exists.mpr ⟨value, present⟩, wanted⟩
    · rintro ⟨present, wanted⟩
      rcases Option.isSome_iff_exists.mp present with ⟨value, isValue⟩
      exact List.mem_map.mpr ⟨(name, value), mem_jobInput.mpr ⟨isValue, wanted⟩, rfl⟩
  rw [known, isSome_lookup_foldl]
  constructor
  · rintro ⟨present | ⟨input, member, same, default⟩, wanted⟩
    · rcases Option.isSome_iff_exists.mp present with ⟨value, isValue⟩
      rw [named name value isValue] at wanted
      rcases List.mem_map.mp wanted with ⟨input, member, same⟩
      exact List.mem_map.mpr ⟨input, mem_supplied.mpr ⟨member, Or.inl (same ▸ present)⟩, same⟩
    · exact List.mem_map.mpr ⟨input, mem_supplied.mpr ⟨member, Or.inr default⟩, same⟩
  · intro member
    rcases List.mem_map.mp member with ⟨input, inside, same⟩
    rcases mem_supplied.mp inside with ⟨there, has⟩
    refine ⟨?_, List.mem_map.mpr ⟨input, there, ?_⟩⟩
    · rcases has with present | default
      · exact Or.inl (same ▸ present)
      · exact Or.inr ⟨input, there, same, default⟩
    · rw [<- same]
      exact (base_base input.id).symm

/-- The rule for the job input that the loop for a kind of tool gives. -/
theorem uniform_iff (named : Named given) (kind : ToolKind) :
    Uniform inputs given (jobInput inputs (inputs.foldl (addDefault kind) given)) ↔
      ((supplied inputs given).map nameOf).Nodup ∧ ¬Overlooked inputs given kind := by
  constructor
  · intro uniform
    have distinct : ((supplied inputs given).map nameOf).Nodup :=
        uniform.entries.nodup_iff.mp (jobInput_nodup _)
    refine ⟨distinct, ?_⟩
    rintro ⟨isExpression, input, member, null, default, isDefault, notNull⟩
    have entry := uniform.values input member default (by rw [null, isDefault]; rfl)
    have present := (mem_jobInput.mp entry).1
    rw [lookup_foldl_of_supplied kind distinct member
        (Or.inl (Option.isSome_iff_exists.mpr ⟨_, null⟩)), null,
      isExpression] at present
    cases present
    exact notNull rfl
  · rintro ⟨distinct, looked⟩
    constructor
    · intro input member value isValue
      have has : (given.lookup (nameOf input)).isSome ∨ input.default.isSome := by
        by_contra missing
        rw [not_or, Option.not_isSome_iff_eq_none, Option.not_isSome_iff_eq_none] at missing
        rw [missing.1, missing.2] at isValue
        cases isValue
      refine mem_jobInput.mpr ⟨?_, List.mem_map.mpr ⟨input, member, (base_base input.id).symm⟩⟩
      rw [lookup_foldl_of_supplied kind distinct member has, <- isValue]
      apply roundValue_eq_effective
      intro isExpression null
      cases isDefault : input.default with
      | none => exact Or.inl rfl
      | some default =>
          by_contra other
          exact looked ⟨isExpression, input, member, null, default, isDefault, fun same =>
            other (Or.inr (congrArg some same))⟩
    · exact (List.perm_ext_iff_of_nodup (jobInput_nodup _) distinct).mpr fun name =>
        mem_jobInput_names named kind name

variable {js : Javascript} {context : ToolContext}

/-- The three stages of a call that gives a workunit. -/
theorem newWorkunit_jobInput {tools after : Nat -> Tool} {call : WorkunitCall} {ptr : Nat}
    {tool : Tool} {workunit : CWLWorkunit}
    (selected : selectTool context tools call = .ok (ptr, tool)) (provided : Provides js call given)
    (built : Requirements.newWorkunit js context tools call = (.ok workunit, after)) :
    workunit.jobInput = jobInput tool.inputs (tool.inputs.foldl (addDefault tool.kind) given) := by
  rw [newWorkunit_selected selected, buildWorkunit] at built
  cases gathered : gatherInputs js call tool.kind tool.inputs with
  | error err =>
      rw [gathered] at built
      cases built
  | ok found =>
      rcases found with ⟨host, map⟩
      have isMap : map = tool.inputs.foldl (addDefault tool.kind) given := by
        rcases provided with ⟨wi, present, values⟩
        unfold gatherInputs at gathered
        cases url : call.shockApiUrl with
        | none =>
            rw [url] at gathered
            cases gathered
        | some shockApiUrl =>
            rw [url] at gathered
            dsimp only at gathered
            by_cases empty : shockApiUrl = ""
            · rw [if_pos empty] at gathered
              cases gathered
            · rw [if_neg empty, present] at gathered
              dsimp only at gathered
              rw [values] at gathered
              cases gathered
              rfl
      rw [gathered] at built
      dsimp only at built
      cases evaluated : (evaluateTool js map.lookup tool).2 with
      | some err =>
          rw [evaluated] at built
          cases built
      | none =>
          rw [evaluated] at built
          cases built
          rw [isMap]

end

/-- The defaults are uniform if and only if no two inputs share a name and no null is overlooked.
The loop for a `CommandLineTool` takes null for missing, the one for an `ExpressionTool` does not;
and both write under the base name, so that two inputs of one name share an entry. -/
theorem defaults_uniform_iff (js : Javascript) (context : ToolContext) (tools : Nat -> Tool)
    (call : WorkunitCall) {ptr : Nat} {tool : Tool} {given : GoMap String CWLValue}
    {workunit : CWLWorkunit} {after : Nat -> Tool}
    (selected : selectTool context tools call = .ok (ptr, tool)) (provided : Provides js call given)
    (built : Requirements.newWorkunit js context tools call = (.ok workunit, after)) :
    Uniform tool.inputs given workunit.jobInput ↔
      ((supplied tool.inputs given).map nameOf).Nodup ∧
          ¬Overlooked tool.inputs given tool.kind := by
  rw [newWorkunit_jobInput selected provided built]
  exact uniform_iff (provides_named provided) tool.kind

section

variable {js : Javascript} {store : Store} {job : Job} {wi : WorkflowInstance}

/-- The second round leaves what no expression is written for. -/
theorem valueFromLoop_lookup {inputs : List StepInput} {key : String}
    (silent : forall input, input ∈ inputs -> input.cmdID = key -> input.valueFrom = "")
    {map last : GoMap String CWLValue} (done : valueFromLoop js map inputs = .ok last) :
    last.lookup key = map.lookup key := by
  induction inputs generalizing map with
  | nil =>
      cases done
      rfl
  | cons input rest inductionHypothesis =>
      have later : forall other, other ∈ rest -> other.cmdID = key -> other.valueFrom = "" :=
        fun other member => silent other (List.mem_cons_of_mem _ member)
      rw [valueFromLoop] at done
      by_cases quiet : input.valueFrom = ""
      · rw [if_pos quiet] at done
        exact inductionHypothesis later done
      · rw [if_neg quiet] at done
        cases evaluated : evaluate js map.lookup input with
        | error err =>
            rw [evaluated] at done
            cases done
        | ok value =>
            rw [evaluated] at done
            rw [inductionHypothesis later done]
            exact AList.lookup_insert_ne fun same =>
                quiet (silent input List.mem_cons_self same.symm)

/-- Nothing is given for the input. The step names the input, so it is evaluated like all others,
and what comes out is null. -/
structure Unconnected (input : StepInput) : Prop where
  source : input.source = none
  default : input.default = none
  valueFrom : input.valueFrom = ""

theorem ownRound_of_unconnected {input : StepInput} (unconnected : Unconnected input) :
    ownRound js store job wi input = .ok (some .null) := by
  unfold ownRound ownValue getStepInputObject
  rw [unconnected.source]
  dsimp only
  rw [useDefault, if_pos (Or.inl unconnected.source), unconnected.default]
  dsimp only
  rw [if_pos unconnected.valueFrom]
  change Except.ok (AList.lookup input.cmdID
      ((∅ : GoMap String CWLValue).insert input.cmdID .null)) = _
  rw [AList.lookup_insert]

/-- An input for which nothing is given is null, it is not missing. -/
theorem unconnected_is_null {call : WorkunitCall} {given : GoMap String CWLValue}
    (provided : Provides js call given) (distinct : (call.step.inputs.map StepInput.cmdID).Nodup)
    {input : StepInput} (member : input ∈ call.step.inputs) (unconnected : Unconnected input) :
    given.lookup input.cmdID = some .null := by
  rcases provided with ⟨wi, _, gathered⟩
  unfold getStepInputObjects at gathered
  cases started : sourceLoop js call.store call.job wi ∅ call.step.inputs with
  | error err =>
      rw [started] at gathered
      cases gathered
  | ok first =>
      rw [started] at gathered
      have alone : forall other, other ∈ call.step.inputs -> other.cmdID = input.cmdID ->
          other.valueFrom = "" := by
        intro other inside same
        rw [List.inj_on_of_nodup_map distinct inside member same]
        exact unconnected.valueFrom
      rw [valueFromLoop_lookup alone gathered]
      rw [sourceLoop_eq distinct fun _ _ => AList.lookup_empty _] at started
      rcases writeAll_cases distinct ∅ with ⟨⟨err, failed⟩, _⟩ | ⟨last, passed, values, _⟩
      · rw [failed] at started
        cases started
      · rw [passed] at started
        cases started
        rcases values input member with ⟨value, round, present⟩
        rw [ownRound_of_unconnected unconnected] at round
        cases round
        exact present

/-- So the default of an `ExpressionTool` is overlooked for every step input without a source. -/
theorem overlooked_of_unconnected {call : WorkunitCall} {given : GoMap String CWLValue}
    (provided : Provides js call given) (distinct : (call.step.inputs.map StepInput.cmdID).Nodup)
    {input : StepInput} (member : input ∈ call.step.inputs) (unconnected : Unconnected input)
    {inputs : List ToolInput} {toolInput : ToolInput} (inside : toolInput ∈ inputs)
    (same : nameOf toolInput = input.cmdID) {default : CWLValue}
    (hasDefault : toolInput.default = some default) (notNull : default ≠ .null) :
    Overlooked inputs given .expressionTool := by
  refine ⟨rfl, toolInput, inside, ?_, default, hasDefault, notNull⟩
  rw [same]
  exact unconnected_is_null provided distinct member unconnected

end

private def silentVM : Javascript :=
  Javascript.plain (fun _ => .ok .null) (fun _ => "null") (fun _ => "{}") fun _ => .error "not used"

/-- A tool whose only input has a default. -/
private def countingTool (kind : ToolKind) : Tool :=
  ⟨kind, "v1.0", none, [⟨"#tool/count", some (.other "int" "5")⟩], [], []⟩

/-- A step that names the input and gives nothing for it. -/
private def countingCall : WorkunitCall where
  store := ⟨fun _ => Task.blank, 0, ∅⟩
  job := ⟨"j", .inProgress, true, "#main", ⟨1, 0, "", false⟩, [], 0, ∅,
      AList.insert "#main" WorkflowInstance.blank ∅⟩
  shockApiUrl := some "http://shock"
  taskStr := "task"
  workflowInstanceID := "#main"
  step := ⟨some (.process (.tool 0)), [⟨"#main/step/count", none, 0, none, none, ""⟩], []⟩

private def countingValues : GoMap String CWLValue :=
  AList.insert "count" .null ∅

private theorem countingCall_provides : Provides silentVM countingCall countingValues :=
  ⟨WorkflowInstance.blank, rfl, rfl⟩

/-- A `CommandLineTool` uses its default. -/
theorem command_line_tool_uniform :
    Uniform (countingTool .commandLineTool).inputs countingValues
        [("count", .other "int" "5")] := by
  have built : Requirements.newWorkunit silentVM ⟨∅, "v1.0", none⟩
      (fun _ => countingTool .commandLineTool) countingCall =
      (.ok ⟨0, "http://shock", [("count", .other "int" "5")], []⟩,
        (Requirements.newWorkunit silentVM ⟨∅, "v1.0", none⟩
        (fun _ => countingTool .commandLineTool) countingCall).2) := rfl
  refine (defaults_uniform_iff silentVM ⟨∅, "v1.0", none⟩ (fun _ => countingTool .commandLineTool)
      countingCall rfl
    countingCall_provides built).mpr ⟨by decide, ?_⟩
  rintro ⟨isExpression, _⟩
  cases isExpression

/-- The same input of an `ExpressionTool` is null, so the rule does not hold for every call. -/
theorem expression_tool_not_uniform :
    ¬ forall (js : Javascript) (context : ToolContext) (tools : Nat -> Tool) (call : WorkunitCall)
        (ptr : Nat) (tool : Tool)
        (given : GoMap String CWLValue) (workunit : CWLWorkunit) (after : Nat -> Tool),
      selectTool context tools call = .ok (ptr, tool) -> Provides js call given ->
        Requirements.newWorkunit js context tools call = (.ok workunit, after) ->
            Uniform tool.inputs given workunit.jobInput := by
  intro rule
  have uniform := rule silentVM ⟨∅, "v1.0", none⟩ (fun _ => countingTool .expressionTool)
      countingCall 0
    (countingTool .expressionTool) countingValues ⟨0, "http://shock", [("count", .null)], []⟩
    (Requirements.newWorkunit silentVM ⟨∅, "v1.0", none⟩ (fun _ => countingTool .expressionTool)
    countingCall).2 rfl
    countingCall_provides rfl
  have entry := uniform.values ⟨"#tool/count", some (.other "int" "5")⟩ List.mem_cons_self
      (.other "int" "5") rfl
  cases List.mem_singleton.mp entry

end ToolDefaults
end Core
end Awe
