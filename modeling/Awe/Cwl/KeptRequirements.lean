import Awe.Cwl.Processes

namespace Awe
namespace Cwl
namespace KeptRequirements

open Lib Lib.Path Natives Cwl.Types Requirements Processes

/-!
# What becomes of the requirements of a process

The three constructors read the requirements of a document in the middle of its
other parts.  `CreateRequirementArrayAndInject` returns an error if an entry is
refused, and otherwise a list with an entry for every class of the document.  The
constructors word the error anew, but do not return: the next assignment
overwrites it.  A document whose requirements are refused is therefore accepted
without requirements, unless something else in it is refused as well.

There is a second way to lose requirements.  The tag of the embedded
`ProcessImpl` is meant to hide it from the decoder, which takes the tag for a
name.  A document can thus reset the requirements once they are read.
-/

section

variable {A B : Type} {library : Library} {context other : Context}

/-- The class of an element of a list of requirements. -/
def classOf (context : Context) (element : Tree) : Option String :=
  match makeStringMap context element with
  | .ok (.strMap fields) => (getClass fields).toOption
  | _ => none

/-- The classes that the requirements of a document list, as a map or as a list. -/
def listedClasses (context : Context) : Option Tree -> List String
  | none => []
  | some tree =>
      match makeStringMap context tree with
      | .ok (.strMap fields) => fields.map Prod.fst
      | .ok (.list elements) => elements.filterMap (classOf context)
      | _ => []

/-- The context decides whether a tree can be read, and never what it is read as. -/
theorem makeStringMap_agree {tree first second : Tree}
    (here : makeStringMap context tree = .ok first)
    (there : makeStringMap other tree = .ok second) : first = second := by
  cases tree with
  | strMap fields =>
      simp only [makeStringMap] at here there
      cases read : checkImport context (fields.lookup "$import") with
      | error failure => rw [read] at here; cases here
      | ok done =>
          cases readThere : checkImport other (fields.lookup "$import") with
          | error failure => rw [readThere] at there; cases there
          | ok doneThere =>
              rw [read] at here
              rw [readThere] at there
              cases here
              cases there
              rfl
  | anyMap entries =>
      rw [makeStringMap] at here there
      rw [here] at there
      exact Except.ok.inj there
  | _ =>
      cases here
      cases there
      rfl

/-! ### Every constructor gives a requirement its class -/

theorem decodeRequirement_cls {cls : RequirementClass} {struct : List (String × FieldKind)}
    {original : Tree} {requirement : Requirement}
    (made : decodeRequirement cls struct original = .ok requirement) :
    requirement.cls = cls := by
  unfold decodeRequirement at made
  split at made
  · cases made
    rfl
  · cases made

theorem newShockRequirement_cls {original : Tree} {requirement : Requirement}
    (made : newShockRequirement original = .ok requirement) : requirement.cls = .shock := by
  unfold newShockRequirement at made
  split at made
  · cases made
    rfl
  · cases made

theorem newResourceRequirement_cls {original : Tree} {requirement : Requirement}
    (made : newResourceRequirement context original = .ok requirement) :
    requirement.cls = .resource := by
  unfold newResourceRequirement at made
  cases read : makeStringMap context original with
  | error failure => rw [read] at made; cases made
  | ok tree =>
      rw [read] at made
      simp only [Except.bind, bind, pure, Except.pure] at made
      split at made
      · split at made
        · cases made
          rfl
        · cases made
      · cases made

theorem newEnvVarRequirement_cls {original : Tree} {requirement : Requirement}
    (made : newEnvVarRequirement context original = .ok requirement) :
    requirement.cls = .envVar := by
  unfold newEnvVarRequirement at made
  simp only [Except.bind, bind] at made
  split at made
  · cases made
  · split at made
    · split at made
      · cases made
      · split at made
        · cases made
        · exact decodeRequirement_cls made
    · cases made

theorem newInitialWorkDirRequirement_cls {original : Tree} {requirement : Requirement}
    (made : newInitialWorkDirRequirement library context original = .ok requirement) :
    requirement.cls = .initialWorkDir := by
  unfold newInitialWorkDirRequirement at made
  simp only [Except.bind, bind] at made
  split at made
  · cases made
  · split at made
    · split at made
      · cases made
      · split at made
        · cases made
        · exact decodeRequirement_cls made
    · cases made

theorem newSchemaDefRequirement_cls {original : Tree} {requirement : Requirement}
    (made : (newSchemaDefRequirement original context).1 = .ok requirement) :
    requirement.cls = .schemaDef := by
  unfold newSchemaDefRequirement at made
  split at made
  · cases made
  · split at made
    · cases made
    · split at made
      · cases made
      · split at made
        · cases made
          rfl
        · cases made
  · cases made

theorem newRequirement_class {className : String} {obj : Tree} {requirement : Requirement}
    (made : (newRequirement library className obj context).1 = .ok requirement) :
    requirement.cls.text = className := by
  unfold newRequirement at made
  split at made
  · cases made
  · rw [decodeRequirement_cls (wrap_eq_ok.mp (wrap_eq_ok.mp made))]; rfl
  · rw [decodeRequirement_cls (wrap_eq_ok.mp made)]; rfl
  · rw [newResourceRequirement_cls (wrap_eq_ok.mp made)]; rfl
  · rw [decodeRequirement_cls (wrap_eq_ok.mp made)]; rfl
  · rw [newEnvVarRequirement_cls (wrap_eq_ok.mp made)]; rfl
  · rw [decodeRequirement_cls (wrap_eq_ok.mp made)]; rfl
  · rw [newShockRequirement_cls (wrap_eq_ok.mp made)]; rfl
  · rw [newInitialWorkDirRequirement_cls (wrap_eq_ok.mp made)]; rfl
  · rw [decodeRequirement_cls (wrap_eq_ok.mp made)]; rfl
  · rw [decodeRequirement_cls (wrap_eq_ok.mp made)]; rfl
  · rw [newSchemaDefRequirement_cls (wrap_eq_ok.mp made)]; rfl
  · cases made; rfl
  · cases made

theorem newRequirementFromInterface_class {element : Tree} {requirement : Requirement}
    {className : String}
    (made : (newRequirementFromInterface library element context).1 = .ok requirement)
    (listed : classOf other element = some className) : requirement.cls.text = className := by
  unfold classOf at listed
  unfold newRequirementFromInterface at made
  split at listed
  · next fields there =>
      split at made
      · cases made
      · next found here =>
          cases makeStringMap_agree there here
          cases read : getClass fields with
          | error text => rw [read] at made; cases made
          | ok name =>
              rw [read] at made listed
              cases listed
              exact newRequirement_class (wrap_eq_ok.mp made)
      · cases made
  · cases listed

/-! ### Nothing is lost in the lists -/

/-- The loop returns a list only if every attempt gave a requirement, and then the
list has them all. -/
theorem createAll_made {caller : String}
    {attempts : List (Context -> Except Failure Requirement × Context)}
    {requirements : List Requirement}
    (made : (createAll false caller attempts context).1 = .ok requirements) :
    forall attempt, attempt ∈ attempts -> Exists fun before => Exists fun requirement =>
      (attempt before).1 = .ok requirement ∧ requirement ∈ requirements := by
  induction attempts generalizing context requirements with
  | nil =>
      intro attempt member
      cases member
  | cons first rest inductionHypothesis =>
      rw [createAll] at made
      split at made
      · next requirement next here =>
          rcases others : createAll false caller rest next with ⟨_ | later, last⟩
          · rw [others] at made
            cases made
          · rw [others] at made
            cases made
            intro attempt member
            rcases List.mem_cons.mp member with rfl | member
            · exact ⟨context, requirement, by rw [here], List.mem_cons_self⟩
            · obtain ⟨before, found, given, listed⟩ :=
                inductionHypothesis (by rw [others]) attempt member
              exact ⟨before, found, given, List.mem_cons_of_mem _ listed⟩
      · cases made
      · cases made

/-- A class is in a list of requirements. -/
def Has (requirements : List Requirement) (className : String) : Prop :=
  Exists fun requirement => requirement ∈ requirements ∧ requirement.cls.text = className

theorem createRequirementArray_has {original : Tree} {requirements : List Requirement}
    {className : String}
    (made : (createRequirementArray library original false context).1 = .ok requirements)
    (listed : className ∈ listedClasses other (some original)) : Has requirements className := by
  unfold listedClasses at listed
  unfold createRequirementArray at made
  split at made
  · cases made
  · next fields here =>
      cases there : makeStringMap other original with
      | error failure => simp [there] at listed
      | ok tree =>
          cases makeStringMap_agree here there
          simp only [there] at listed
          rcases List.mem_map.mp listed with ⟨field, member, rfl⟩
          have attempted := createAll_made made _ (List.mem_map_of_mem member)
          rcases attempted with ⟨before, requirement, given, inside⟩
          exact ⟨requirement, inside, newRequirement_class given⟩
  · next elements here =>
      cases there : makeStringMap other original with
      | error failure => simp [there] at listed
      | ok tree =>
          cases makeStringMap_agree here there
          simp only [there] at listed
          rcases List.mem_filterMap.mp listed with ⟨element, member, named⟩
          have attempted := createAll_made made _ (List.mem_map_of_mem member)
          rcases attempted with ⟨before, requirement, given, inside⟩
          exact ⟨requirement, inside, newRequirementFromInterface_class given named⟩
  · cases made

theorem ownRequirements_has {original : Option Tree} {requirements : List Requirement}
    {className : String} (made : (ownRequirements library original context).1 = .ok requirements)
    (listed : className ∈ listedClasses other original) : Has requirements className := by
  unfold ownRequirements at made
  split at made
  · cases listed
  · cases listed
  · exact createRequirementArray_has (wrap_eq_ok.mp made) listed

theorem has_cons {first : Requirement} {rest : List Requirement} {className : String} :
    Has (first :: rest) className ↔ first.cls.text = className ∨ Has rest className := by
  unfold Has
  simp only [List.mem_cons, exists_eq_or_imp]

/-- One injected requirement only adds its class. -/
theorem injectOne_has {injected : Requirement} {own requirements : List Requirement}
    {className : String} (made : injectOne injected own = .ok requirements) :
    Has requirements className ↔ Has own className ∨ injected.cls.text = className := by
  induction own generalizing requirements with
  | nil =>
      cases made
      rw [has_cons, or_comm]
  | cons current rest inductionHypothesis =>
      rw [injectOne] at made
      split at made
      · next same =>
          -- the requirement that is found keeps its class, whatever becomes of its types
          have kept : Has requirements className ↔ Has (current :: rest) className := by
            split at made
            · cases merged : mergeTypes current.types injected.types with
              | error failure => rw [merged] at made; cases made
              | ok types =>
                  rw [merged] at made
                  cases made
                  rw [has_cons, has_cons]
            · cases made
              exact Iff.rfl
          rw [kept, has_cons, same]
          constructor
          · exact Or.inl
          · rintro (found | found)
            · exact found
            · exact Or.inl found
      · cases later : injectOne injected rest with
        | error failure => rw [later] at made; cases made
        | ok others =>
            rw [later] at made
            cases made
            rw [has_cons, has_cons, inductionHypothesis later, or_assoc]

theorem inject_has {injected own requirements : List Requirement} {className : String}
    (made : inject injected own = .ok requirements) :
    Has requirements className ↔ Has own className ∨ Has injected className := by
  induction injected generalizing own with
  | nil =>
      cases made
      simp [Has]
  | cons first rest inductionHypothesis =>
      rw [inject] at made
      cases one : injectOne first own with
      | error failure => rw [one] at made; cases made
      | ok next =>
          rw [one] at made
          rw [inductionHypothesis made, injectOne_has one, has_cons, or_assoc]

/-- A list that is accepted has every class of the document. -/
theorem createRequirementArrayAndInject_has {original : Option Tree}
    {injected requirements : List Requirement} {className : String}
    (made : (createRequirementArrayAndInject library original injected context).1 =
    .ok requirements)
    (listed : className ∈ listedClasses other original) : Has requirements className := by
  unfold createRequirementArrayAndInject at made
  cases read : (ownRequirements library original context).1 with
  | error failure => rw [read] at made; cases made
  | ok own =>
      rw [read] at made
      exact (inject_has made).mpr (Or.inl (ownRequirements_has read listed))

end

section

variable (env : Environment) (fields : Fields)

/-- A parser is refused with an error. -/
def Refused {A : Type} (parser : Parse A) (state : State) : Prop :=
  Exists fun text => Exists fun after => parser state = some (.error (.error text), after)

theorem refused_bind {A B : Type} {first : Parse A} {next : A -> Parse B} {state : State} :
    Refused (first >>= next) state ↔
      Refused first state ∨
        Exists fun value => Exists fun after => first state = some (.ok value, after) ∧
            Refused (next value) after := by
  unfold Refused
  simp only [Computation.bind_eq_error]
  constructor
  · rintro ⟨text, final, failed | ⟨value, after, given, failed⟩⟩
    · exact Or.inl ⟨text, final, failed⟩
    · exact Or.inr ⟨value, after, given, text, final, failed⟩
  · rintro (⟨text, final, failed⟩ | ⟨value, after, given, text, final, failed⟩)
    · exact ⟨text, final, Or.inl failed⟩
    · exact ⟨text, final, Or.inr ⟨value, after, given, failed⟩⟩

/-- The context in which the requirements are read: the types of a schema definition
have been entered. -/
def readContext (context : Context) : Context :=
  match fields.lookup "requirements" with
  | none => context
  | some tree => .of (Context.names (getSchemaDefRequirement tree context).2)

/-- The document resets its requirements through an entry that the decoder takes for
the embedded `ProcessImpl`. -/
def resets : Bool :=
  match findField "-" fields with
  | none => false
  | some tree =>
      match findField "requirements" (foundFields tree) with
      | some (.list _) => true
      | _ => false

/-- A process carries a requirement of a class. -/
def Carries (process : Process) (className : String) : Prop :=
  Exists fun requirement => some requirement ∈ process.requirements ∧
      requirement.cls.text = className

/-- A constructor as what it does before its requirements are read and what it does
with them, together with the classes that it adds by itself. -/
structure Constructor where
  parts : Parse String
  finish : String -> List Requirement -> Parse Process
  adds : List String
  /-- The parts before the requirements enter no other types. -/
  entered : forall state id next, parts state = some (.ok id, next) ->
    next.context = readContext fields state.context
  /-- The requirements arrive in the process, unless the document resets them. -/
  arrives : forall id requirements state process final, finish id requirements state = some
      (.ok process, final) ->
    forall className, Carries process className ↔
      className ∈ adds ∨ (resets fields = false ∧ Has requirements className)

variable {fields}

/-- The constructor: an error of the requirements is passed over. -/
def Constructor.run (constructor : Constructor fields) (injected : List Requirement) :
    Parse Process := do
  let id <- constructor.parts
  let requirements <- requirementsPassedOver env fields injected
  constructor.finish id requirements

/-! ## The law and the condition -/

variable (fields) in
/-- An entry of the requirements is refused, or cannot be put together with what is
injected. -/
def Rejected (injected : List Requirement) (context : Context) : Prop :=
  Exists fun text =>
    (createRequirementArrayAndInject env.library (fields.lookup "requirements")
        injected context).1 =
      .error (.error text)

variable (fields) in
/-- The context after requirements that are refused. -/
def afterRejection (injected : List Requirement) (state : State) : State :=
  { state with
    schemata := Context.names
      (createRequirementArrayAndInject env.library (fields.lookup "requirements") injected
          state.context).2 }

variable (fields) in
/-- No requirement is dropped: a document whose requirements are refused is refused, and a process
carries every class of its document. The first half forbids to return a process without the
requirements that were refused, the second to lose any of the others on the way. -/
structure Lawful (injected : List Requirement) (state : State) (make : Parse Process) : Prop where
  refused : Rejected env fields injected (readContext fields state.context) -> Refused make state
  carried : forall process final, make state = some (.ok process, final) ->
    forall className, className ∈ listedClasses state.context (fields.lookup "requirements") ->
        Carries process className

/-- Something other than the requirements is refused.  What follows the requirements
is then given none. -/
def RefusedApart (constructor : Constructor fields) (injected : List Requirement) (state : State) :
    Prop :=
  Refused constructor.parts state ∨
    Exists fun id => Exists fun next => constructor.parts state = some (.ok id, next) ∧
      Refused (constructor.finish id []) (afterRejection env fields injected next)

/-- Everything in the document is accepted, and its requirements are reset. -/
def ResetUnseen (constructor : Constructor fields) (injected : List Requirement) (state : State) :
    Prop :=
  resets fields = true ∧
    Exists fun id => Exists fun next => Exists fun requirements => Exists fun after =>
      Exists fun process => Exists fun final => constructor.parts state = some (.ok id, next) ∧
        requirementsPassedOver env fields injected next = some (.ok requirements, after) ∧
          constructor.finish id requirements after = some (.ok process, final)

/-- The condition under which a constructor drops nothing. It is asked of the entries of the
document and of what else there is in it, and of the constructor no more than what it adds itself.
-/
structure Sound (constructor : Constructor fields) (injected : List Requirement) (state : State) :
    Prop where
  apart : Rejected env fields injected (readContext fields state.context) ->
      RefusedApart env constructor injected state
  unreset : ResetUnseen env constructor injected state ->
    forall className, className ∈ listedClasses state.context (fields.lookup "requirements") ->
      className ∈ constructor.adds

variable {env}

/-- Requirements that are refused are passed over, and nothing is handed on. -/
theorem requirementsPassedOver_of_rejected {injected : List Requirement} {state : State}
    (rejected : Rejected env fields injected state.context) :
    requirementsPassedOver env fields injected state = some
        (.ok [], afterRejection env fields injected state) := by
  rcases rejected with ⟨text, rejected⟩
  rcases made : createRequirementArrayAndInject env.library (fields.lookup "requirements")
      injected state.context
    with ⟨outcome, next⟩
  rw [made] at rejected
  cases rejected
  simp only [requirementsPassedOver, entering, createRequirementAndHints, afterRejection, made,
      wrap, passOver]

theorem passOver_eq_ok {outcome : Except Failure Unit} {requirements handed : List Requirement}
    {context : Context} (passed : (passOver (outcome, requirements, context)).1 = .ok handed) :
    handed = requirements := by
  rcases outcome with (text | text) | ⟨⟩
  · exact (Except.ok.inj passed).symm
  · cases passed
  · exact (Except.ok.inj passed).symm

/-- Requirements that are handed on have been accepted, unless they were refused. -/
theorem accepted_of_passedOver {injected requirements : List Requirement} {state after : State}
    (handed : requirementsPassedOver env fields injected state = some (.ok requirements, after)) :
    Rejected env fields injected state.context ∨
      (createRequirementArrayAndInject env.library (fields.lookup "requirements") injected
          state.context).1 =
        .ok requirements := by
  rcases made : createRequirementArrayAndInject env.library (fields.lookup "requirements")
      injected state.context
    with ⟨(text | text) | accepted, next⟩
  · exact Or.inl ⟨text, by rw [made]⟩
  · simp only [requirementsPassedOver, entering, createRequirementAndHints, made, wrap, passOver]
      at handed
    cases handed
  · right
    simp only [requirementsPassedOver, entering, createRequirementAndHints, made] at handed
    rw [passOver_eq_ok (congrArg Prod.fst (Option.some.inj handed))]

theorem lawful_iff_sound (constructor : Constructor fields) (injected : List Requirement)
    (state : State) :
    Lawful env fields injected state (constructor.run env injected) ↔
    Sound env constructor injected state := by
  constructor
  · intro lawful
    constructor
    · intro rejected
      rcases refused_bind.mp (lawful.refused rejected) with early | ⟨id, next, given, late⟩
      · exact Or.inl early
      · have entered := constructor.entered state id next given
        rw [<- entered] at rejected
        have handed := requirementsPassedOver_of_rejected rejected
        rcases refused_bind.mp late with ⟨text, after, impossible⟩
            | ⟨requirements, after, same, late⟩
        · rw [handed] at impossible
          cases impossible
        · rw [handed] at same
          cases same
          exact Or.inr ⟨id, next, given, late⟩
    · rintro ⟨reset, id, next, requirements, after, process, final, given, handed, finished⟩
        className listed
      have made : constructor.run env injected state = some (.ok process, final) :=
        Computation.bind_eq_ok.mpr
            ⟨id, next, given, Computation.bind_eq_ok.mpr ⟨requirements, after, handed, finished⟩⟩
      have carried := lawful.carried process final made className listed
      rcases (constructor.arrives id requirements after process final finished className).mp carried
          with added | ⟨kept, _⟩
      · exact added
      · rw [reset] at kept
        cases kept
  · intro sound
    constructor
    · intro rejected
      rcases sound.apart rejected with early | ⟨id, next, given, late⟩
      · exact refused_bind.mpr (Or.inl early)
      · rw [<- constructor.entered state id next given] at rejected
        have handed := requirementsPassedOver_of_rejected rejected
        exact refused_bind.mpr
            (Or.inr ⟨id, next, given, refused_bind.mpr (Or.inr ⟨[], _, handed, late⟩)⟩)
    · intro process final made className listed
      rcases Computation.bind_eq_ok.mp made with ⟨id, next, given, made⟩
      rcases Computation.bind_eq_ok.mp made with ⟨requirements, after, handed, finished⟩
      apply (constructor.arrives id requirements after process final finished className).mpr
      cases reset : resets fields with
      | true =>
          exact Or.inl (sound.unreset
            ⟨reset, id, next, requirements, after, process, final, given, handed, finished⟩
                className listed)
      | false =>
          refine Or.inr ⟨rfl, ?_⟩
          have entered := constructor.entered state id next given
          rcases accepted_of_passedOver handed with rejected | accepted
          · -- a refusal elsewhere does not go with a process
            rw [requirementsPassedOver_of_rejected rejected] at handed
            cases handed
            rw [entered] at rejected
            rcases sound.apart rejected with ⟨text, failed, refused⟩
                | ⟨other, later, same, text, failed, refused⟩
            · rw [given] at refused
              cases refused
            · rw [given] at same
              cases same
              rw [finished] at refused
              cases refused
          · exact createRequirementArrayAndInject_has accepted listed

/-! ## What the parts do to the context -/

/-- A parser that enters no names of schemas. Names of schemas decide how later types are read, so
a parser of this kind cannot change what its neighbours mean. -/
def Keeps {A : Type} (parser : Parse A) : Prop :=
  forall state outcome after, parser state = some (outcome, after) ->
      after.schemata = state.schemata

theorem keeps_give {A : Type} (result : Except Failure A) : Keeps (give result) := by
  intro state outcome after same
  cases same
  rfl

theorem keeps_pure {A : Type} (value : A) : Keeps (pure value) :=
  keeps_give (.ok value)

theorem keeps_reading {A : Type} (parser : Context -> Except Failure A) :
    Keeps (reading parser) := by
  intro state outcome after same
  cases same
  rfl

theorem keeps_currentVersion : Keeps currentVersion := by
  intro state outcome after same
  cases same
  rfl

theorem keeps_bind {A B : Type} {first : Parse A} {next : A -> Parse B} (kept : Keeps first)
    (later : forall value, Keeps (next value)) : Keeps (first >>= next) := by
  intro state outcome final ran
  rw [Computation.bind_apply] at ran
  rcases here : first state with _ | ⟨failure | value, after⟩
  · rw [here] at ran
    cases ran
  · rw [here] at ran
    cases ran
    exact kept state _ _ here
  · rw [here] at ran
    rw [later value after outcome final ran, kept state _ _ here]

theorem keeps_readPart (key : String) (parser : Context -> Tree -> Except Failure Unit) :
    Keeps (readPart fields key parser) := by
  unfold readPart
  split
  · apply keeps_give
  · apply keeps_reading

theorem keeps_toolOutputs : Keeps (toolOutputs env fields) := by
  unfold toolOutputs
  split
  · apply keeps_give
  · apply keeps_reading

theorem keeps_checkObjectID (objectID : String) : Keeps (checkObjectID objectID) := by
  unfold checkObjectID
  split
  all_goals apply keeps_give

theorem keeps_checkVersion : Keeps (checkVersion fields) := by
  apply keeps_bind keeps_currentVersion
  intro version
  cases fields.lookup "cwlVersion" with
  | none =>
      dsimp only
      split <;> apply keeps_give
  | some tree =>
      cases tree with
      | text own =>
          dsimp only
          split <;> apply keeps_give
      | _ => apply keeps_give

theorem keeps_identify (parentID objectID : String) :
    Keeps (identify env fields parentID objectID) := by
  unfold identify
  repeat' split
  all_goals first | apply keeps_give | skip
  intro state outcome after same
  cases same
  rfl

/-- Only the schema definition changes the context of the parts that come first. -/
theorem processImplInit_context {parentID objectID id : String} {state next : State}
    (given : processImplInit env fields parentID objectID state = some (.ok id, next)) :
    next.context = readContext fields state.context := by
  rcases Computation.bind_eq_ok.mp given with ⟨own, after, identified, given⟩
  rcases Computation.bind_eq_ok.mp given with ⟨⟨⟩, last, entered, given⟩
  cases given
  have kept : after.context = state.context :=
      congrArg Context.of (keeps_identify parentID objectID state _ _ identified)
  rw [<- kept]
  unfold enterSchemata at entered
  unfold readContext
  cases listed : fields.lookup "requirements" with
  | none =>
      rw [listed] at entered
      cases entered
      rfl
  | some tree =>
      simp only [listed, entering, Option.some.injEq, Prod.mk.injEq] at entered
      rw [<- entered.2]
      rfl

theorem context_of_keeps {A : Type} {parser : Parse A} (kept : Keeps parser) {state after : State}
    {value : A} (given : parser state = some (.ok value, after)) : after.context = state.context :=
  congrArg Context.of (kept state _ _ given)

/-- Parts that keep the names, around the initialisation of the process. -/
theorem context_of_parts {before : Parse Unit} {rest : Parse Unit} {parentID objectID id : String}
    {state next : State} (early : Keeps before) (late : Keeps rest)
    (given : (do before; let id <- processImplInit env fields parentID objectID; rest; pure id :
    Parse String) state =
      some (.ok id, next)) : next.context = readContext fields state.context := by
  rcases Computation.bind_eq_ok.mp given with ⟨⟨⟩, first, began, given⟩
  rcases Computation.bind_eq_ok.mp given with ⟨own, second, initialised, given⟩
  rcases Computation.bind_eq_ok.mp given with ⟨⟨⟩, third, rested, given⟩
  cases given
  rw [context_of_keeps late rested, processImplInit_context initialised,
      context_of_keeps early began]

theorem decoded_of_kept {impl decoded : Impl} (kept : resets fields = false)
    (done : decodeProcessImpl fields impl = .ok decoded) :
    decoded.requirements = impl.requirements := by
  unfold decodeProcessImpl at done
  unfold resets at kept
  split at done
  · cases done
    rfl
  · next tree found =>
      simp only [found] at kept
      split at done
      · cases done
        dsimp only
        split
        · next elements listed => simp [listed] at kept
        · rfl
      · cases done

theorem decoded_of_reset {impl decoded : Impl} (reset : resets fields = true)
    (done : decodeProcessImpl fields impl = .ok decoded) :
    forall entry, entry ∈ decoded.requirements -> entry = none := by
  unfold decodeProcessImpl at done
  unfold resets at reset
  split at done
  · next missing => simp [missing] at reset
  · next tree found =>
      simp only [found] at reset
      split at done
      · cases done
        dsimp only
        split
        · next elements listed =>
            intro entry member
            rcases List.mem_map.mp member with ⟨element, _, same⟩
            exact same.symm
        · next unlisted =>
            split at reset
            · next elements listed => exact (unlisted elements listed).elim
            · cases reset
      · cases done

/-- A class in a list of requirements of which some are nil. -/
def HasEntry (requirements : List (Option Requirement)) (className : String) : Prop :=
  Exists fun requirement => some requirement ∈ requirements ∧ requirement.cls.text = className

theorem decodeProcess_hasEntry {kind : ProcessKind} {id className : String}
    {requirements : List Requirement} {impl : Impl} {state after : State}
    (decoded : decodeProcess env kind fields { id, requirements := requirements.map some } state =
    some (.ok impl, after)) :
    HasEntry impl.requirements className ↔ resets fields = false ∧ Has requirements className := by
  rcases Computation.bind_eq_ok.mp decoded with ⟨⟨⟩, next, _, decoded⟩
  have done : decodeProcessImpl fields { id, requirements := requirements.map some } = .ok impl :=
    congrArg Prod.fst (Option.some.inj decoded)
  cases reset : resets fields with
  | true =>
      have only := decoded_of_reset reset done
      constructor
      · rintro ⟨requirement, member, _⟩
        cases only _ member
      · rintro ⟨impossible, _⟩
        cases impossible
  | false =>
      have same := decoded_of_kept reset done
      unfold HasEntry Has
      rw [same]
      simp only [true_and, List.mem_map, Option.some.injEq, exists_eq_right]

/-- `AddRequirement` adds the class, unless it is there. -/
theorem addRequirement_hasEntry {requirement : Requirement} {old added : List (Option Requirement)}
    {className : String} (done : addRequirement requirement old = .ok added) :
    HasEntry added className ↔ requirement.cls.text = className ∨ HasEntry old className := by
  unfold HasEntry
  induction old generalizing added with
  | nil =>
      cases done
      simp
  | cons entry rest inductionHypothesis =>
      cases entry with
      | none => cases done
      | some current =>
          rw [addRequirement] at done
          split at done
          · next same =>
              cases done
              constructor
              · exact Or.inr
              · rintro (named | found)
                · exact ⟨current, List.mem_cons_self, by rw [same, named]⟩
                · exact found
          · cases later : addRequirement requirement rest with
            | error failure => rw [later] at done; cases done
            | ok others =>
                rw [later] at done
                cases done
                simp only [List.mem_cons, Option.some.injEq, or_and_right, exists_or,
                    exists_eq_left,
                  inductionHypothesis later]
                tauto

end

section

variable (env : Environment) (fields : Fields) (parentID objectID : String)

/-- `NewCommandLineTool`. -/
def commandLineTool : Constructor fields where
  parts := toolParts env fields parentID objectID
  finish := finishTool env fields
  adds := []
  entered := by
    intro state id next given
    have rest : Keeps (do
        readPart fields "inputs" (env.inputs .commandLineTool)
        toolOutputs env fields
        readPart fields "baseCommand" fun _ tree => env.baseCommand tree
        readPart fields "arguments" env.arguments) := by
      apply keeps_bind (keeps_readPart _ _)
      intro _
      apply keeps_bind keeps_toolOutputs
      intro _
      apply keeps_bind (keeps_readPart _ _)
      intro _
      apply keeps_readPart
    apply context_of_parts (keeps_checkObjectID objectID) rest
    simpa only [toolParts, bind_assoc] using given
  arrives := by
    intro id requirements state process final finished className
    rcases Computation.bind_eq_ok.mp finished with ⟨impl, next, decoded, finished⟩
    rcases Computation.bind_eq_ok.mp finished with ⟨⟨⟩, _, _, finished⟩
    rcases Computation.bind_eq_ok.mp finished with ⟨version, _, _, finished⟩
    cases finished
    exact (decodeProcess_hasEntry decoded).trans (by simp)

/-- `NewExpressionTool`, which adds a requirement of its own. -/
def expressionTool : Constructor fields where
  parts := expressionParts env fields parentID objectID
  finish := finishExpression env fields
  adds := [inlineJavascriptRequirement.cls.text]
  entered := by
    intro state id next given
    have rest : Keeps (do
        readPart fields "inputs" (env.inputs .expressionTool)
        readPart fields "outputs" (env.outputs .expressionTool)) := by
      apply keeps_bind (keeps_readPart _ _)
      intro _
      apply keeps_readPart
    apply context_of_parts (keeps_pure ()) rest
    simpa only [expressionParts, bind_assoc, pure_bind] using given
  arrives := by
    intro id requirements state process final finished className
    rcases Computation.bind_eq_ok.mp finished with ⟨impl, next, decoded, finished⟩
    rcases Computation.bind_eq_ok.mp finished with ⟨version, after, _, finished⟩
    split at finished
    · cases finished
    · rcases Computation.bind_eq_ok.mp finished with ⟨added, last, given, finished⟩
      cases finished
      have done : addRequirement inlineJavascriptRequirement impl.requirements = .ok added :=
        congrArg Prod.fst (Option.some.inj given)
      refine (addRequirement_hasEntry done).trans ?_
      rw [decodeProcess_hasEntry decoded, List.mem_singleton, eq_comm]

/-- `NewWorkflow`. -/
def workflow (newProcess : ProcessCall -> Parse Process) : Constructor fields where
  parts := workflowParts env fields parentID objectID
  finish := finishWorkflow env newProcess fields
  adds := []
  entered := by
    intro state id next given
    have rest : Keeps (do
        checkVersion fields
        readPart fields "inputs" (env.inputs .workflow)
        readPart fields "outputs" (env.outputs .workflow)) := by
      apply keeps_bind keeps_checkVersion
      intro _
      apply keeps_bind (keeps_readPart _ _)
      intro _
      apply keeps_readPart
    apply context_of_parts (keeps_reading fun context =>
        checkImport context (fields.lookup "$import")) rest
    simpa only [workflowParts, bind_assoc] using given
  arrives := by
    intro id requirements state process final finished className
    rcases Computation.bind_eq_ok.mp finished with ⟨steps, next, _, finished⟩
    rcases Computation.bind_eq_ok.mp finished with ⟨impl, last, decoded, finished⟩
    cases finished
    exact (decodeProcess_hasEntry decoded).trans (by simp)

/-- A constructor drops no requirement exactly if none is refused, unless something else in the
document is refused too, and if the document does not reset them.  The constructors word the error
of `CreateRequirementAndHints` anew and go on, until the next assignment takes it away. -/
theorem requirements_kept_iff (injected : List Requirement) (state : State)
    (newProcess : ProcessCall -> Parse Process) :
    (Lawful env fields injected state (newCommandLineTool env fields parentID objectID injected) ↔
        Sound env (commandLineTool env fields parentID objectID) injected state) ∧
      (Lawful env fields injected state (newExpressionTool env fields parentID objectID injected) ↔
        Sound env (expressionTool env fields parentID objectID) injected state) ∧
      (Lawful env fields injected state
          (newWorkflow env newProcess fields parentID objectID injected) ↔
        Sound env (workflow env fields parentID objectID newProcess) injected state) :=
  ⟨lawful_iff_sound (commandLineTool env fields parentID objectID) injected state,
    lawful_iff_sound (expressionTool env fields parentID objectID) injected state,
    lawful_iff_sound (workflow env fields parentID objectID newProcess) injected state⟩

end

/-- Everything but requirements is accepted. -/
private def lenient : Environment where
  library := { sha1 := fun _ => "", parseURL := fun _ => none }
  uuid := fun _ => "5f1c"
  inputs := fun _ _ _ => .ok ()
  outputs := fun _ _ _ => .ok ()
  baseCommand := fun _ => .ok ()
  arguments := fun _ _ => .ok ()
  stepOut := fun _ _ => .ok ()
  decode := fun _ _ _ => .ok ()
  decodeStep := fun _ _ => .ok ()

/-- A tool without inputs and outputs that asks for a requirement of no known class. -/
private def demandingTool : Fields :=
  [("id", .text "#tool"), ("class", .text "CommandLineTool"), ("inputs", .list []),
      ("outputs", .list []),
    ("requirements", .list [.strMap [("class", .text "NoSuchRequirement")]])]

/-- Not every constructor is lawful: the tool is returned without requirements. -/
theorem tool_drops_requirement :
    ¬ forall (env : Environment) (fields : Fields) (parentID objectID : String)
        (injected : List Requirement)
        (state : State) (newProcess : ProcessCall -> Parse Process),
      Lawful env fields injected state (newCommandLineTool env fields parentID objectID injected) ∧
        Lawful env fields injected state (newExpressionTool env fields parentID objectID injected) ∧
          Lawful env fields injected state
              (newWorkflow env newProcess fields parentID objectID injected) := by
  intro lawful
  have law := (lawful lenient demandingTool "" "" [] { version := "v1.0" } fun _ => refuse "").1
  rcases law.refused ⟨_, rfl⟩ with ⟨text, after, refused⟩
  have made : newCommandLineTool lenient demandingTool "" "" [] { version := "v1.0" } =
      some (.ok (.mk .commandLineTool "#tool" "v1.0" [] []), { version := "v1.0" }) := rfl
  rw [made] at refused
  cases refused

end KeptRequirements
end Cwl
end Awe
