import Awe.Core.Requirements
import Awe.Cwl.Requirements

namespace Awe
namespace Cwl
namespace EvaluatedRequirements

open Lib.InPlace Awe.Core Core.Requirements

/-!
# What evaluation makes of a requirement

A `ResourceRequirement` is looked at twice: `NewResourceRequirement` checks the
types of its fields, and `Evaluate` puts the values of expressions into them.
What the first accepts, the second should evaluate.  Both have a list of types of
their own, and a `float64` is only on the first.

The listing of an `InitialWorkDirRequirement` is evaluated element by element, and
every text should become the value of its expression.  The loop returns where it
finds a `Dirent`, without an error, so the texts behind it stay as they are.
-/

/-! ## Fields of resources -/

/-- The value of a field, after the decoder; nil for null. -/
def resourceValue (json : Option (Decimal maxFloat64) -> String) : Tree -> Option ResourceValue
  | .text text => some (.string text)
  | .int value => some (.int value.toInt)
  | .int64 value => some (.int64 value.toInt)
  | .float64 value => some (.float64 (json value))
  | _ => none

/-- The fields of a `ResourceRequirement`, in the order of both functions. -/
def fieldsOf (json : Option (Decimal maxFloat64) -> String)
    (requirement : Requirements.Requirement) :
    List (Option ResourceValue) :=
  Requirements.resourceFields.map fun field =>
    (findField field (Requirements.foundFields requirement.content)).bind (resourceValue json)

section

variable (js : Javascript) (inputs : String -> Option CWLValue)

/-- The expression evaluates. -/
def Evaluates (text : String) : Prop :=
  Exists fun value => evaluateExpression js inputs none text = .ok value

/-- A field before and after the evaluation: a text has become the value of its expression, all else
is unchanged. -/
def FieldDone : Option ResourceValue -> Option ResourceValue -> Prop
  | some (.string text), after => Exists fun value =>
      evaluateExpression js inputs none text = .ok value ∧ after = some (.evaluated value)
  | before, after => after = before

/-- If its expressions evaluate, the requirement is accepted and each field is as it should be.
The condition speaks of each expression by itself, as it stands before the call. -/
def ResourceComplete (fields : List (Option ResourceValue)) : Prop :=
  (forall text, some (ResourceValue.string text) ∈ fields -> Evaluates js inputs text) ->
    Exists fun after => evaluateRequirement js inputs (.resource fields) = (.resource after, none) ∧
      List.Forall₂ (FieldDone js inputs) fields after

/-- An element before and after the evaluation. -/
def EntryDone : ListingEntry -> ListingEntry -> Prop
  | .string text, after => Exists fun value =>
      evaluateExpression js inputs none text = .ok value ∧ listingEntry value = some after
  | before, after => after = before

/-- If the evaluation returns no error, each element is as it should be. An element is as it
should be if it is no expression, or if the value of the expression stands in its place. -/
def ListingComplete (entries : List ListingEntry) : Prop :=
  forall after, evaluateRequirement js inputs (.initialWorkDir (some (.array entries))) =
      (.initialWorkDir (some (.array after)), none) ->
    List.Forall₂ (EntryDone js inputs) entries after

/-- The text is its own value. A second evaluation has to leave the result of the first one alone.
-/
def Constant (text : String) : Prop :=
  evaluateExpression js inputs none text = .ok (.string text)

end

section

variable {js : Javascript} {inputs : String -> Option CWLValue}

/-- A field that is evaluated is as it should be. -/
theorem fieldDone_of_ok {before after : Option ResourceValue}
    (evaluated : evaluateField js inputs before = .ok after) :
    FieldDone js inputs before after := by
  cases before with
  | none =>
      cases evaluated
      rfl
  | some value =>
      cases value with
      | string text =>
          rw [evaluateField] at evaluated
          cases found : evaluateExpression js inputs none text with
          | error err =>
              rw [found] at evaluated
              cases evaluated
          | ok result =>
              rw [found] at evaluated
              cases evaluated
              exact ⟨result, found, rfl⟩
      | int value =>
          cases evaluated
          rfl
      | int64 value =>
          cases evaluated
          rfl
      | float64 json => cases evaluated
      | evaluated value => cases evaluated

/-- A field that came out of the constructor is evaluated unless it is a number with a fraction or
an expression that does not evaluate. -/
theorem passes_field {json : Option (Decimal maxFloat64) -> String}
    {requirement : Requirements.Requirement} {field : Option ResourceValue}
    (member : field ∈ fieldsOf json requirement) (whole : forall text, field ≠ some (.float64 text))
    (evaluates : forall text, field = some (.string text) -> Evaluates js inputs text) :
    passes (evaluateField js inputs) field = true := by
  rcases List.mem_map.mp member with ⟨name, _, isField⟩
  cases found : findField name (Requirements.foundFields requirement.content) with
  | none =>
      rw [found] at isField
      cases isField
      rfl
  | some tree =>
      rw [found] at isField
      change resourceValue json tree = field at isField
      cases tree with
      | text text =>
          cases isField
          rcases evaluates text rfl with ⟨value, isValue⟩
          have evaluated : evaluateField js inputs (some (.string text)) = .ok
              (some (.evaluated value)) := by
            rw [evaluateField, isValue]
          exact passes_of_ok evaluated
      | float64 value =>
          cases isField
          exact absurd rfl (whole (json value))
      | _ =>
          cases isField
          rfl

/-- Evaluation completes what the constructor has accepted if no field is a number with a fraction.
-/
theorem resourceComplete_iff (json : Option (Decimal maxFloat64) -> String)
    (requirement : Requirements.Requirement) :
    ResourceComplete js inputs (fieldsOf json requirement) ↔
      (forall text, some (ResourceValue.float64 text) ∉ fieldsOf json requirement) ∨
        Exists fun text => some (ResourceValue.string text) ∈ fieldsOf json requirement ∧
        ¬Evaluates js inputs text := by
  constructor
  · intro complete
    by_cases evaluates : forall text, some (ResourceValue.string text) ∈ fieldsOf json
        requirement -> Evaluates js inputs text
    · refine Or.inl fun text member => ?_
      rcases complete evaluates with ⟨after, accepted, _⟩
      have through : (sweep (evaluateField js inputs) (fieldsOf json requirement)).2 = none :=
          congrArg Prod.snd accepted
      have passed := (sweep_passes_iff _).mp through _ member
      cases passed
    · push Not at evaluates
      exact Or.inr evaluates
  · intro condition evaluates
    have whole : forall text, some (ResourceValue.float64 text) ∉ fieldsOf json requirement :=
      condition.resolve_right fun ⟨text, member, fails⟩ => fails (evaluates text member)
    have through : (sweep (evaluateField js inputs) (fieldsOf json requirement)).2 = none := by
      refine (sweep_passes_iff _).mpr fun field member => passes_field member ?_ ?_
      · intro text same
        exact whole text (same ▸ member)
      · intro text same
        exact evaluates text (same ▸ member)
    refine ⟨_, Prod.ext rfl through, ?_⟩
    exact (sweep_forall2 through).imp fun before after evaluated => fieldDone_of_ok evaluated

/-! ## Elements of listings -/

theorem entryDone_of_ok {before after : ListingEntry}
    (evaluated : evaluateEntry js inputs before = .ok after) :
    EntryDone js inputs before after := by
  cases before with
  | string text =>
      rw [evaluateEntry] at evaluated
      cases found : evaluateExpression js inputs none text with
      | error err =>
          rw [found] at evaluated
          cases evaluated
      | ok value =>
          rw [found] at evaluated
          dsimp only at evaluated
          cases accepted : listingEntry value with
          | none =>
              rw [accepted] at evaluated
              cases evaluated
          | some entry =>
              rw [accepted] at evaluated
              cases evaluated
              exact ⟨value, found, accepted⟩
  | file json =>
      cases evaluated
      rfl
  | directory json =>
      cases evaluated
      rfl
  | dirent json => cases evaluated
  | other cwlClass => cases evaluated

/-- An element is done without being touched if it is no text, or a text that is its own value. -/
theorem entryDone_self_iff {entry : ListingEntry} :
    EntryDone js inputs entry entry ↔ forall text, entry = .string text ->
    Constant js inputs text := by
  cases entry with
  | string text =>
      constructor
      · rintro ⟨value, found, accepted⟩ other same
        cases same
        cases value with
        | string own =>
            cases accepted
            exact found
        | other cwlClass json =>
            unfold listingEntry at accepted
            split at accepted
            · next same => cases same
            · cases accepted
            · cases accepted
            · cases accepted
        | _ => cases accepted
      · intro constant
        exact ⟨.string text, constant text rfl, rfl⟩
  | _ => exact ⟨fun _ _ impossible => (nomatch impossible), fun _ => rfl⟩

theorem evaluateRequirement_array_iff {entries after : List ListingEntry} :
    evaluateRequirement js inputs (.initialWorkDir (some (.array entries))) =
        (.initialWorkDir (some (.array after)), none) ↔
      (sweep (evaluateEntry js inputs) (entries.takeWhile isNoDirent)).2 = none ∧
        after = (sweep (evaluateEntry js inputs) (entries.takeWhile isNoDirent)).1 ++
        entries.dropWhile isNoDirent := by
  rw [evaluateRequirement, evaluateEntries_eq]
  constructor
  · intro same
    have first := congrArg Prod.fst same
    cases first
    exact ⟨congrArg Prod.snd same, rfl⟩
  · rintro ⟨through, same⟩
    rw [same]
    exact Prod.ext rfl through

/-- Evaluation completes a listing if the texts behind the first `Dirent` are their own values, or
nothing is returned. -/
theorem listingComplete_iff (entries : List ListingEntry) :
    ListingComplete js inputs entries ↔
      (Exists fun entry => entry ∈ entries.takeWhile isNoDirent ∧
          passes (evaluateEntry js inputs) entry = false) ∨
        forall text, .string text ∈ entries.dropWhile isNoDirent -> Constant js inputs text := by
  have front (through : (sweep (evaluateEntry js inputs) (entries.takeWhile isNoDirent)).2 = none) :
      List.Forall₂ (EntryDone js inputs) (entries.takeWhile isNoDirent)
        (sweep (evaluateEntry js inputs) (entries.takeWhile isNoDirent)).1 :=
    (sweep_forall2 through).imp fun before after evaluated => entryDone_of_ok evaluated
  constructor
  · intro complete
    by_cases through : (sweep (evaluateEntry js inputs) (entries.takeWhile isNoDirent)).2 = none
    · refine Or.inr fun text member => ?_
      have done := complete _ (evaluateRequirement_array_iff.mpr ⟨through, rfl⟩)
      have rest : List.Forall₂ (EntryDone js inputs) (entries.dropWhile isNoDirent)
          (entries.dropWhile isNoDirent) := by
        have parts := List.forall₂_drop (entries.takeWhile isNoDirent).length done
        rw [List.drop_left' (sweep_length _)] at parts
        have left : entries.drop (entries.takeWhile isNoDirent).length =
            entries.dropWhile isNoDirent :=
          calc
            entries.drop (entries.takeWhile isNoDirent).length
                = (entries.takeWhile isNoDirent ++ entries.dropWhile isNoDirent).drop
                    (entries.takeWhile isNoDirent).length := by
                  rw [List.takeWhile_append_dropWhile]
            _ = entries.dropWhile isNoDirent := List.drop_left' rfl
        rw [left] at parts
        exact parts
      exact entryDone_self_iff.mp (List.forall₂_same.mp rest _ member) text rfl
    · refine Or.inl ?_
      rw [sweep_passes_iff] at through
      push Not at through
      rcases through with ⟨entry, member, fails⟩
      exact ⟨entry, member, Bool.eq_false_iff.mpr fails⟩
  · intro condition after returned
    rcases evaluateRequirement_array_iff.mp returned with ⟨through, isAfter⟩
    have constant : forall text, .string text ∈ entries.dropWhile isNoDirent ->
        Constant js inputs text := by
      refine condition.resolve_left ?_
      rintro ⟨entry, member, fails⟩
      rw [(sweep_passes_iff _).mp through entry member] at fails
      cases fails
    have rest : List.Forall₂ (EntryDone js inputs) (entries.dropWhile isNoDirent)
        (entries.dropWhile isNoDirent) :=
      List.forall₂_same.mpr fun entry member => entryDone_self_iff.mpr fun text same =>
          constant text (same ▸ member)
    have both : List.Forall₂ (EntryDone js inputs)
        (entries.takeWhile isNoDirent ++ entries.dropWhile isNoDirent)
        ((sweep (evaluateEntry js inputs) (entries.takeWhile isNoDirent)).1 ++ entries.dropWhile
        isNoDirent) :=
      List.rel_append (front through) rest
    rw [List.takeWhile_append_dropWhile, <- isAfter] at both
    exact both

end

section

/-- The evaluation of what the constructor has accepted is complete if and only if no field is a
`float64`, or an expression does not evaluate anyway; that of a listing if and only if every text
behind its first `Dirent` is its own value, or an element before it cannot be evaluated.

The switch of the constructor has one case more than that of `Evaluate`, and the loop over a
listing returns at a `Dirent` where it means to go on. -/
theorem evaluation_complete_iff (js : Javascript) (inputs : String -> Option CWLValue)
    (context : Context) (json : Option (Decimal maxFloat64) -> String) :
    (forall original requirement, Requirements.newResourceRequirement context original =
        .ok requirement ->
      (ResourceComplete js inputs (fieldsOf json requirement) ↔
        (forall text, some (ResourceValue.float64 text) ∉ fieldsOf json requirement) ∨
          Exists fun text => some (ResourceValue.string text) ∈ fieldsOf json requirement ∧
          ¬Evaluates js inputs text)) ∧
      forall entries, ListingComplete js inputs entries ↔
        (Exists fun entry => entry ∈ entries.takeWhile isNoDirent ∧
            passes (evaluateEntry js inputs) entry = false) ∨
          forall text, .string text ∈ entries.dropWhile isNoDirent -> Constant js inputs text :=
  ⟨fun _ requirement _ => resourceComplete_iff json requirement, listingComplete_iff⟩

end

/-- A VM in which every program returns the same text. -/
private def answeringVM : Javascript :=
  Javascript.plain (fun _ => .ok .null) (fun _ => "null") (fun _ => "{}") fun _ =>
    .ok (.ok "reads.fa", .string "reads.fa")

private def noNumber (_ : Option (Decimal maxFloat64)) : String :=
  ""

private def coresOf (cores : Tree) : Tree :=
  .strMap [("class", .text "ResourceRequirement"), ("coresMin", cores)]

private theorem half_within : |(1 / 2 : Rat)| <= maxFloat64 := by
  have large : (1 : Rat) <= 2 ^ 971 := one_le_pow₀ (by norm_num)
  rw [abs_of_pos (by norm_num)]
  calc
    (1 / 2 : Rat) <= (2 ^ 53 - 1) * 1 := by norm_num
    _ <= maxFloat64 := mul_le_mul_of_nonneg_left large (by norm_num)

/-- Cores that are an expression are evaluated, and so is a listing without a `Dirent`. -/
theorem expression_is_evaluated :
    ResourceComplete answeringVM (fun _ => none)
        (fieldsOf noNumber ⟨.resource, coresOf (.text "$(inputs.cores)"), []⟩) ∧
      ListingComplete answeringVM (fun _ => none) [.file "{}", .string "$(inputs.reads)"] := by
  have complete := evaluation_complete_iff answeringVM (fun _ => none) (.of []) noNumber
  constructor
  · refine (complete.1 (coresOf (.text "$(inputs.cores)"))
      ⟨.resource, coresOf (.text "$(inputs.cores)"), []⟩ rfl).mpr
      (Or.inl fun text member => ?_)
    rcases List.mem_map.mp member with ⟨field, inside, same⟩
    have fields : fieldsOf noNumber ⟨.resource, coresOf (.text "$(inputs.cores)"), []⟩ =
        [some (.string "$(inputs.cores)"), none, none, none, none, none, none, none] := rfl
    rw [fields] at member
    simp at member
  · exact (complete.2 _).mpr (Or.inr fun text member => by cases member)

/-- Half a core is accepted and cannot be evaluated, and a text behind a `Dirent` is not replaced.
-/
theorem evaluation_incomplete :
    (Exists fun half => Requirements.newResourceRequirement (.of [])
        (coresOf (.float64 (some half))) =
        .ok ⟨.resource, coresOf (.float64 (some half)), []⟩ ∧
      ¬ResourceComplete answeringVM (fun _ => none)
        (fieldsOf noNumber ⟨.resource, coresOf (.float64 (some half)), []⟩)) ∧
      ¬ListingComplete answeringVM (fun _ => none) [.dirent "{}", .string "$(inputs.reads)"] := by
  constructor
  · refine ⟨.finite (1 / 2) half_within, rfl, fun complete => ?_⟩
    have fields : fieldsOf noNumber
        ⟨.resource, coresOf (.float64 (some (.finite (1 / 2) half_within))), []⟩ =
        [some (.float64 ""), none, none, none, none, none, none, none] := rfl
    rw [fields] at complete
    rcases complete (fun text member => by simp at member) with ⟨after, accepted, _⟩
    cases congrArg Prod.snd accepted
  · intro complete
    have done := complete [.dirent "{}", .string "$(inputs.reads)"] rfl
    rcases done with _ | ⟨_, _ | ⟨⟨value, found, accepted⟩, _⟩⟩
    have evaluated : evaluateExpression answeringVM (fun _ => none) none "$(inputs.reads)" = .ok
        (.string "reads.fa") := rfl
    rw [evaluated] at found
    cases found
    exact absurd (ListingEntry.string.inj (Option.some.inj accepted)) (by decide)

end EvaluatedRequirements
end Cwl
end Awe
