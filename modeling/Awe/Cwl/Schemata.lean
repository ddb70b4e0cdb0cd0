import Mathlib.Data.List.Permutation
import Awe.Lib.GoMap
import Awe.Cwl.Requirements

namespace Awe
namespace Cwl
namespace Schemata

open Lib Requirements Cwl.Types

/-!
# The schemata of a context

A context collects the schemas that are defined by name.  The definitions of
a document are entered more than once while it is read, so a name that is
known already is the normal case, and the first schema under a name is the
one to be kept.  `AddSchemata` keeps the first one, but it returns as soon as
it meets a name it knows: the schemas that stand behind it in the list are
not looked at.

Nothing is lost exactly if, in every list, what stands behind a known name is
known too.  `HarmlessIn` says this of one list and the names entered before
it.  Whether a family of lists can be entered in any order and any number of
times is a condition on each pair of them, `Compatible`.
-/

/-- The name a schema is entered under: the part of its identifier after the last `#`. -/
def nameOf (schema : Schema) : String :=
  afterHash (getID schema)

def names (obj : List Schema) : List String :=
  obj.map nameOf

/-- `AddSchemata`, with the error and the map it leaves behind. -/
def addSchemata : List Schema -> GoMap String Schema -> Option String × GoMap String Schema
  | [], schemata => (none, schemata)
  | schema :: rest, schemata =>
      if getID schema = "" then (some "id empty", schemata)
      else if (schemata.lookup (nameOf schema)).isSome then (none, schemata)
      else addSchemata rest (AList.insert (nameOf schema) schema schemata)

/-- `context.Schemata` after a sequence of calls on a new context. -/
def afterCalls (calls : List (List Schema)) : GoMap String Schema :=
  calls.foldl (fun schemata obj => (addSchemata obj schemata).2) ∅

/-- The calls that `NewSchemaDefRequirement` makes for the types of one requirement: one
before it decodes the requirement and one after it. -/
def requirementCalls (types : List Schema) : List (List Schema) :=
  [types, types]

/-- Every schema of a list has an identifier. -/
def Named (obj : List Schema) : Prop :=
  forall schema, schema ∈ obj -> getID schema ≠ ""

/-- No definition is lost: the keys are the names passed so far, and each key has the first schema
that was passed under it. The first definition stands: a later one of the same name is dropped by
design, and only this one. -/
structure Kept (calls : List (List Schema)) : Prop where
  keys : forall key, (Exists fun schema => (afterCalls calls).lookup key = some schema) ↔
    Exists fun obj => obj ∈ calls ∧ key ∈ names obj
  first : forall key schema, (afterCalls calls).lookup key = some schema ->
    Exists fun earlier => Exists fun later =>
      calls.flatten = earlier ++ schema :: later ∧ nameOf schema = key ∧ key ∉ names earlier

/-- Wherever a list comes to a name that is known, to the context or from the list itself, the
rest of the list brings no other name. The rest of the list is what the early `return` drops. -/
def HarmlessIn (known : Set String) (obj : List Schema) : Prop :=
  forall front schema rest, obj = front ++ schema :: rest ->
    nameOf schema ∈ known ∨ nameOf schema ∈ names front ->
    forall name, name ∈ names rest -> name ∈ known ∨ name ∈ names (front ++ [schema])

/-- Lists that may be entered in any order and any number of times: each of them alone,
and each of them after any other. -/
def Compatible (lists : List (List Schema)) : Prop :=
  forall obj, obj ∈ lists -> HarmlessIn ∅ obj ∧
    forall other, other ∈ lists -> HarmlessIn { name | name ∈ names other } obj

/-! ## One call -/

theorem names_append (front rest : List Schema) :
    names (front ++ rest) = names front ++ names rest :=
  List.map_append

theorem mem_names {obj : List Schema} {key : String} :
    key ∈ names obj ↔ Exists fun schema => schema ∈ obj ∧ nameOf schema = key :=
  List.mem_map

/-- The first schema of a list under a name. -/
def firstNamed (obj : List Schema) (key : String) : Option Schema :=
  obj.find? fun schema => nameOf schema = key

theorem firstNamed_append (front rest : List Schema) (key : String) :
    firstNamed (front ++ rest) key = (firstNamed front key).or (firstNamed rest key) :=
  List.find?_append

theorem firstNamed_eq_none_iff {obj : List Schema} {key : String} :
    firstNamed obj key = none ↔ key ∉ names obj := by
  rw [mem_names]
  simp [firstNamed]

theorem isSome_firstNamed_iff {obj : List Schema} {key : String} :
    (firstNamed obj key).isSome = true ↔ key ∈ names obj := by
  rw [<- not_iff_not, <- firstNamed_eq_none_iff]
  cases firstNamed obj key <;> simp

/-- No entry is overwritten. -/
theorem lookup_addSchemata_of_known {schemata : GoMap String Schema} {key : String}
    {stored : Schema} (known : schemata.lookup key = some stored) (obj : List Schema) :
    (addSchemata obj schemata).2.lookup key = some stored := by
  induction obj generalizing schemata with
  | nil => exact known
  | cons schema tail inductionHypothesis =>
      simp only [addSchemata]
      split
      · exact known
      · split
        · exact known
        · next unknown =>
            apply inductionHypothesis
            rw [GoMap.lookup_insert_if, if_neg, known]
            rintro rfl
            rw [known] at unknown
            exact unknown rfl

/-- What is entered under a name is the first schema of the list with this name. -/
theorem lookup_addSchemata {obj : List Schema} {schemata : GoMap String Schema} {key : String}
    (unknown : schemata.lookup key = none) {stored : Schema}
    (found : (addSchemata obj schemata).2.lookup key = some stored) :
    firstNamed obj key = some stored := by
  induction obj generalizing schemata with
  | nil =>
      rw [addSchemata, unknown] at found
      cases found
  | cons schema tail inductionHypothesis =>
      simp only [addSchemata] at found
      by_cases unnamed : getID schema = ""
      · rw [if_pos unnamed, unknown] at found
        cases found
      · rw [if_neg unnamed] at found
        by_cases known : (schemata.lookup (nameOf schema)).isSome = true
        · rw [if_pos known, unknown] at found
          cases found
        · rw [if_neg known] at found
          by_cases same : nameOf schema = key
          · have inserted : (AList.insert (nameOf schema) schema schemata).lookup key =
              some schema := by
              rw [GoMap.lookup_insert_if, if_pos same.symm]
            rw [lookup_addSchemata_of_known inserted] at found
            cases found
            simp [firstNamed, same]
          · have later := inductionHypothesis
              (by rw [GoMap.lookup_insert_if, if_neg (Ne.symm same), unknown]) found
            simpa [firstNamed, same] using later

theorem harmlessIn_nil (known : Set String) : HarmlessIn known [] := by
  intro front schema rest split
  exact absurd split.symm (List.append_ne_nil_of_right_ne_nil front (List.cons_ne_nil schema rest))

/-- A list that is entered again, as `NewSchemaDefRequirement` does it, loses nothing. -/
theorem harmlessIn_of_known {known : Set String} {obj : List Schema} 
    (all : forall name, name ∈ names obj -> name ∈ known) : HarmlessIn known obj := by
  rintro front schema rest rfl _ name inside
  refine Or.inl (all name ?_)
  rw [names_append]
  exact List.mem_append_right _ (List.mem_cons_of_mem _ inside)

/-- A list that starts with a known name is harmless if it has only known names. -/
theorem harmlessIn_cons_known {known : Set String} {schema : Schema} {tail : List Schema}
    (member : nameOf schema ∈ known) :
    HarmlessIn known (schema :: tail) ↔ forall name, name ∈ names tail -> name ∈ known := by
  constructor
  · intro harmless name inside
    rcases harmless [] schema tail rfl (Or.inl member) name inside with there | same
    · exact there
    · rw [List.mem_singleton.mp same]
      exact member
  · intro all
    apply harmlessIn_of_known
    intro name inside
    rcases List.mem_cons.mp inside with rfl | later
    · exact member
    · exact all name later

/-- A list that starts with a new name makes it known to the rest. -/
theorem harmlessIn_cons_unknown {known : Set String} {schema : Schema} {tail : List Schema}
    (missing : nameOf schema ∉ known) :
    HarmlessIn known (schema :: tail) ↔ HarmlessIn (insert (nameOf schema) known) tail := by
  have shift : forall (front : List Schema) (name : String),
      name ∈ insert (nameOf schema) known ∨ name ∈ names front ↔ name ∈ known ∨
          name ∈ names (schema :: front) := by
    intro front name
    rw [Set.mem_insert_iff, names, names, List.map_cons, List.mem_cons]
    exact or_right_comm.trans (by rw [or_comm, or_left_comm])
  constructor
  · intro harmless front stop rest split stopped name inside
    exact (shift _ name).mpr (harmless (schema :: front) stop rest (by rw [split, List.cons_append])
      ((shift front _).mp stopped) name inside)
  · intro harmless front stop rest split stopped name inside
    cases front with
    | nil =>
        cases split
        exact absurd (stopped.resolve_right List.not_mem_nil) missing
    | cons first others =>
        cases split
        exact (shift _ name).mp
            (harmless others stop rest rfl ((shift others _).mpr stopped) name inside)

/-- A call enters all names of its list if and only if the list is harmless. -/
theorem complete_iff {obj : List Schema} (named : Named obj) (schemata : GoMap String Schema) :
    (forall key, key ∈ names obj -> ((addSchemata obj schemata).2.lookup key).isSome = true) ↔
      HarmlessIn { name | (schemata.lookup name).isSome = true } obj := by
  induction obj generalizing schemata with
  | nil => exact iff_of_true (fun _ member => nomatch member) (harmlessIn_nil _)
  | cons schema tail inductionHypothesis =>
      have tailNamed : Named tail :=
          fun other member => named other (List.mem_cons_of_mem schema member)
      simp only [addSchemata, if_neg (named schema List.mem_cons_self)]
      by_cases known : (schemata.lookup (nameOf schema)).isSome = true
      · rw [harmlessIn_cons_known known, if_pos known]
        constructor
        · intro all name inside
          exact all name (List.mem_cons_of_mem _ inside)
        · intro all key member
          rcases List.mem_cons.mp member with rfl | inside
          · exact known
          · exact all key inside
      · rw [harmlessIn_cons_unknown known, if_neg known]
        have extended : { name
            | ((AList.insert (nameOf schema) schema schemata).lookup name).isSome = true } =
            insert (nameOf schema) { name | (schemata.lookup name).isSome = true } := by
          ext name
          change (AList.lookup name (AList.insert (nameOf schema) schema schemata)).isSome = true ↔
            name = nameOf schema ∨ _
          rw [GoMap.lookup_insert_if]
          by_cases same : name = nameOf schema
          · simp [same]
          · simp [same]
        rw [<- extended, <- inductionHypothesis tailNamed]
        constructor
        · intro all key inside
          exact all key (List.mem_cons_of_mem _ inside)
        · intro all key member
          rcases List.mem_cons.mp member with rfl | inside
          · have inserted : (AList.insert (nameOf schema) schema schemata).lookup (nameOf schema) =
              some schema :=
              AList.lookup_insert _
            rw [lookup_addSchemata_of_known inserted]
            rfl
          · exact all key inside

/-- The names that the model of the requirements passes along are the keys of the map. -/
theorem keys_addSchemata (obj : List Schema) {schemata : GoMap String Schema} {known : List String}
    (same : forall key, key ∈ known ↔ (schemata.lookup key).isSome = true) (key : String) :
    key ∈ addNames obj known ↔ ((addSchemata obj schemata).2.lookup key).isSome = true := by
  induction obj generalizing schemata known with
  | nil => exact same key
  | cons schema tail inductionHypothesis =>
      simp only [addSchemata, addNames]
      by_cases unnamed : getID schema = ""
      · rw [if_pos unnamed, if_pos unnamed]
        exact same key
      · rw [if_neg unnamed, if_neg unnamed]
        by_cases there : nameOf schema ∈ known
        · rw [if_pos ((same _).mp there)]
          change key ∈ (if nameOf schema ∈ known then known else _) ↔ _
          rw [if_pos there]
          exact same key
        · rw [if_neg fun found => there ((same _).mpr found)]
          change key ∈ (if nameOf schema ∈ known then known else _) ↔ _
          rw [if_neg there]
          apply inductionHypothesis
          intro other
          change other ∈ known ++ [nameOf schema] ↔ _
          rw [List.mem_append, List.mem_singleton, GoMap.lookup_insert_if, same]
          by_cases equal : other = nameOf schema
          · simp [equal]
          · simp [equal]

theorem afterCalls_concat (calls : List (List Schema)) (obj : List Schema) :
    afterCalls (calls ++ [obj]) = (addSchemata obj (afterCalls calls)).2 := by
  rw [afterCalls, List.foldl_append, List.foldl_cons, List.foldl_nil, afterCalls]

theorem mem_names_flatten {calls : List (List Schema)} {key : String} :
    key ∈ names calls.flatten ↔ Exists fun obj => obj ∈ calls ∧ key ∈ names obj := by
  simp only [mem_names, List.mem_flatten]
  constructor
  · rintro ⟨schema, ⟨obj, member, inside⟩, same⟩
    exact ⟨obj, member, schema, inside, same⟩
  · rintro ⟨obj, member, schema, inside, same⟩
    exact ⟨schema, ⟨obj, member, inside⟩, same⟩

/-- Nothing is lost if and only if the map finds what a search through everything passed
so far finds. -/
theorem kept_iff (calls : List (List Schema)) :
    Kept calls ↔ forall key, (afterCalls calls).lookup key = firstNamed calls.flatten key := by
  constructor
  · intro kept key
    cases found : (afterCalls calls).lookup key with
    | none =>
        refine (firstNamed_eq_none_iff.mpr fun member => ?_).symm
        rcases (kept.keys key).mpr (mem_names_flatten.mp member) with ⟨schema, there⟩
        rw [found] at there
        cases there
    | some schema =>
        rcases kept.first key schema found with ⟨earlier, later, split, same, fresh⟩
        rw [split, firstNamed_append, firstNamed_eq_none_iff.mpr fresh, Option.none_or]
        simp [firstNamed, same]
  · intro same
    constructor
    · intro key
      rw [<- mem_names_flatten, <- isSome_firstNamed_iff, <- same, Option.isSome_iff_exists]
    · intro key schema found
      rw [same, firstNamed, List.find?_eq_some_iff_append] at found
      rcases found with ⟨named, earlier, later, split, fresh⟩
      refine ⟨earlier, later, split, of_decide_eq_true named, fun member => ?_⟩
      rcases mem_names.mp member with ⟨other, inside, same⟩
      simpa [same] using fresh other inside

theorem kept_nil : Kept [] := by
  rw [kept_iff]
  exact fun _ => rfl

/-- The step: after a sequence that lost nothing, a call loses nothing if and only if its
list is harmless for the names passed so far. -/
theorem kept_concat_iff {calls : List (List Schema)} (kept : Kept calls) {obj : List Schema}
    (named : Named obj) :
    Kept (calls ++ [obj]) ↔ HarmlessIn { name | name ∈ names calls.flatten } obj := by
  have before := (kept_iff calls).mp kept
  have known : { name | ((afterCalls calls).lookup name).isSome = true } =
      { name | name ∈ names calls.flatten } := by
    ext name
    change ((afterCalls calls).lookup name).isSome = true ↔ name ∈ names calls.flatten
    rw [before, isSome_firstNamed_iff]
  have passed : (calls ++ [obj]).flatten = calls.flatten ++ obj := by
    rw [List.flatten_append, List.flatten_singleton]
  rw [kept_iff, <- known, <- complete_iff named, afterCalls_concat, passed]
  constructor
  · intro same key member
    rw [same, firstNamed_append, Option.isSome_or, isSome_firstNamed_iff.mpr member, Bool.or_true]
  · intro all key
    rw [firstNamed_append, <- before]
    cases stored : (afterCalls calls).lookup key with
    | some schema => rw [lookup_addSchemata_of_known stored, Option.some_or]
    | none =>
        rw [Option.none_or]
        cases found : (addSchemata obj (afterCalls calls)).2.lookup key with
        | some schema => exact (lookup_addSchemata stored found).symm
        | none =>
            refine (firstNamed_eq_none_iff.mpr fun member => ?_).symm
            have there := all key member
            rw [found] at there
            cases there

/-- At every point of a sequence nothing is lost if and only if each list is harmless for
the names that were passed before it. -/
theorem kept_throughout_iff {calls : List (List Schema)}
    (named : forall obj, obj ∈ calls -> Named obj) :
    (forall made, made <+: calls -> Kept made) ↔
      forall earlier obj later, calls = earlier ++ obj :: later ->
        HarmlessIn { name | name ∈ names earlier.flatten } obj := by
  constructor
  · intro kept earlier obj later split
    have whole : calls = (earlier ++ [obj]) ++ later := by
      rw [split, List.append_assoc, List.singleton_append]
    have member : obj ∈ calls := split ▸ List.mem_append_right earlier List.mem_cons_self
    have before := kept earlier (split ▸ List.prefix_append earlier _)
    exact (kept_concat_iff before (named obj member)).mp
        (kept _ (whole ▸ List.prefix_append _ later))
  · intro harmless made
    induction made using List.reverseRecOn with
    | nil => exact fun _ => kept_nil
    | append_singleton earlier obj inductionHypothesis =>
        rintro ⟨later, split⟩
        have start : earlier <+: calls :=
            ⟨obj :: later, by rw [<- split, List.append_assoc, List.singleton_append]⟩
        have made : obj ∈ earlier ++ [obj] := List.mem_append_right earlier List.mem_cons_self
        have member : obj ∈ calls := split ▸ List.mem_append_left later made
        apply (kept_concat_iff (inductionHypothesis start) (named obj member)).mpr
        exact harmless earlier obj later
            (by rw [<- split, List.append_assoc, List.singleton_append])

/-! ## Any order -/

/-- Lists that are harmless after each single list are harmless after any number of them. -/
theorem Compatible.harmlessIn {lists : List (List Schema)} (compatible : Compatible lists)
    {calls : List (List Schema)} (from_lists : forall obj, obj ∈ calls -> obj ∈ lists)
    {obj : List Schema} (member : obj ∈ lists) :
    HarmlessIn { name | name ∈ names calls.flatten } obj := by
  rcases compatible obj member with ⟨alone, after⟩
  intro front schema rest split stopped name inside
  rcases stopped with passed | repeated
  · rcases mem_names_flatten.mp passed with ⟨other, made, there⟩
    refine (after other (from_lists other made) front schema rest split (Or.inl there) name
        inside).imp_left ?_
    exact fun found => mem_names_flatten.mpr ⟨other, made, found⟩
  · exact (alone front schema rest split (Or.inr repeated) name inside).imp_left fun impossible =>
      impossible.elim

theorem Compatible.kept {lists : List (List Schema)} (compatible : Compatible lists)
    (named : forall obj, obj ∈ lists -> Named obj) {calls : List (List Schema)}
    (from_lists : forall obj, obj ∈ calls -> obj ∈ lists) : Kept calls := by
  have throughout : forall made, made <+: calls -> Kept made := by
    rw [kept_throughout_iff fun obj made => named obj (from_lists obj made)]
    intro earlier obj later split
    apply compatible.harmlessIn
        (fun other made => from_lists other (split ▸ List.mem_append_left _ made))
    exact from_lists obj (split ▸ List.mem_append_right earlier List.mem_cons_self)
  exact throughout calls List.prefix_rfl

/-- Where nothing is lost, the keys depend on the lists alone and not on their order. -/
theorem Kept.same_keys {calls other : List (List Schema)} (kept : Kept calls)
    (otherKept : Kept other) (order : other.Perm calls) (key : String) :
    (Exists fun schema => (afterCalls other).lookup key = some schema) ↔
      Exists fun schema => (afterCalls calls).lookup key = some schema := by
  rw [kept.keys, otherKept.keys]
  simp only [order.mem_iff]

/-- A sequence of calls on a new context loses nothing, at any of its points, if and only if every
list is harmless for the names passed before it; and all the sequences that can be made of some
lists lose nothing and have keys that do not depend on the order if and only if the lists are
compatible.

The loop returns at the first name that it knows already, and the names behind it are lost unless
they are known as well. -/
theorem schemata_kept_iff (lists : List (List Schema))
    (named : forall obj, obj ∈ lists -> Named obj) :
    (forall calls : List (List Schema), (forall obj, obj ∈ calls -> obj ∈ lists) ->
      ((forall made, made <+: calls -> Kept made) ↔
        forall earlier obj later, calls = earlier ++ obj :: later ->
          HarmlessIn { name | name ∈ names earlier.flatten } obj)) ∧
    ((forall calls : List (List Schema), (forall obj, obj ∈ calls -> obj ∈ lists) ->
      Kept calls ∧ forall other, other.Perm calls -> forall key,
        (Exists fun schema => (afterCalls other).lookup key = some schema) ↔
          Exists fun schema => (afterCalls calls).lookup key = some schema) ↔
      Compatible lists) := by
  refine ⟨fun calls from_lists => kept_throughout_iff fun obj made =>
      named obj (from_lists obj made), ?_, ?_⟩
  · intro all obj member
    have alone : Kept ([] ++ [obj]) := (all [obj] (List.forall_mem_singleton.mpr member)).1
    constructor
    · have harmless := (kept_concat_iff kept_nil (named obj member)).mp alone
      have nothing : { name | name ∈ names (([] : List (List Schema)).flatten) } =
          (∅ : Set String) :=
        Set.eq_empty_of_forall_notMem fun _ => List.not_mem_nil
      rwa [nothing] at harmless
    · intro other otherMember
      have first : Kept [other] := (all [other] (List.forall_mem_singleton.mpr otherMember)).1
      have both : Kept ([other] ++ [obj]) := by
        refine (all [other, obj] fun made inside => ?_).1
        rcases List.mem_cons.mp inside with rfl | last
        · exact otherMember
        · exact List.mem_singleton.mp last ▸ member
      have harmless := (kept_concat_iff first (named obj member)).mp both
      rwa [List.flatten_singleton] at harmless
  · intro compatible calls from_lists
    have kept := compatible.kept named from_lists
    refine ⟨kept, fun other order => ?_⟩
    exact kept.same_keys (compatible.kept named fun obj made =>
        from_lists obj (order.mem_iff.mp made)) order

/-- The types of one requirement, two records. -/
private def twoRecords : List Schema :=
  [.record .input "main.cwl#first", .record .input "main.cwl#second"]

private theorem twoRecords_named : Named twoRecords := by
  unfold Named
  decide

private theorem twoRecords_compatible : Compatible [twoRecords] := by
  intro obj member
  rw [List.mem_singleton.mp member]
  constructor
  · have second : nameOf (.record .input "main.cwl#second") ∉
        insert (nameOf (.record .input "main.cwl#first")) (∅ : Set String) := by
      rw [Set.mem_insert_iff, not_or]
      exact ⟨by decide, Set.notMem_empty _⟩
    apply (harmlessIn_cons_unknown (Set.notMem_empty _)).mpr
    apply (harmlessIn_cons_unknown second).mpr
    exact harmlessIn_nil _
  · intro other otherMember
    rw [List.mem_singleton.mp otherMember]
    exact harmlessIn_of_known fun name inside => inside

/-- The two calls of `NewSchemaDefRequirement` for one requirement lose nothing: all that
stands behind a known name is known too. -/
theorem requirement_types_kept : Kept (requirementCalls twoRecords) := by
  refine (((schemata_kept_iff [twoRecords] fun obj member => ?_).2.mpr twoRecords_compatible)
      _ ?_).1
  · rw [List.mem_singleton.mp member]
    exact twoRecords_named
  · unfold requirementCalls
    simp

/-- A requirement that repeats a known type before a new one: the new type is never
entered, so a reference to it is not found. -/
theorem type_behind_known_lost :
    Not (forall calls : List (List Schema), (forall obj, obj ∈ calls -> Named obj) ->
        Kept calls) := by
  intro all
  have kept : Kept [[.record .input "main.cwl#first"], twoRecords] := by
    apply all
    unfold Named
    decide
  rcases (kept.keys "second").mpr ⟨twoRecords, List.mem_cons_of_mem _ List.mem_cons_self, by decide⟩
      with ⟨schema, found⟩
  have lost : (afterCalls [[.record .input "main.cwl#first"], twoRecords]).lookup "second" = none :=
      rfl
  rw [lost] at found
  cases found

end Schemata
end Cwl
end Awe
