import Awe.Core.Identifiers
import Awe.Lib.Fallible

namespace Awe
namespace Core
namespace Identifiers
namespace Dependencies

open Lib

/-!
# The predecessors of an old-style task

A task names the tasks it waits for twice: in the list `DependsOn` and in the
origins of its inputs.  Each name is a task name or a full identifier with the
job in front.  `CollectDependencies` brings both to full identifiers in one
list, through a map whose order is not fixed, and `ValidateDependants` later
looks all of them up, the origins once more from their fields.

The two agree if no origin is a full identifier already, which only the first
of them expects, and if the names survive being written and read again.
-/

/-- The fields of a task that its predecessors are read from.  Of the inputs only the
origins are read. -/
structure Task where
  id : Bytes
  jobId : Bytes
  dependsOn : List Bytes
  origins : List Bytes
  deriving DecidableEq, Repr

/-- How a loop ends early. -/
inductive Failure where
  | halt (halt : Halt)
  | err (message : Bytes)
  deriving DecidableEq

/-- The keys of the map `deps`, as they were inserted, and `depsChanged`. `deps` is a Go map whose
values nobody reads, hence a list of its keys. -/
structure Found where
  deps : List TaskUniqueIdentifier
  depsChanged : Bool
  deriving DecidableEq

def Found.insert (found : Found) (t : TaskUniqueIdentifier) : List TaskUniqueIdentifier :=
  if t ∈ found.deps then found.deps else found.deps ++ [t]

def parse (complaint : Bytes) (deptask : Bytes) : Except Failure TaskUniqueIdentifier :=
  match newTaskUniqueIdentifierFromString deptask with
  | .error halt => .error (.halt halt)
  | .ok (.error yerr) => .error (.err (complaint ++ yerr))
  | .ok (.ok t) => .ok t

/-- What is parsed for an entry. -/
def fullID (jobPrefix entry : Bytes) : Bytes :=
  if jobPrefix.isPrefixOf entry then entry else jobPrefix ++ entry

/-- A round of the loop over `DependsOn`. -/
def collectEntry (jobPrefix : Bytes) (found : Found) (deptask : Bytes) : Except Failure Found :=
  if deptask = [] then .ok { found with depsChanged := true }
  else if jobPrefix.isPrefixOf deptask ∧ deptask.drop jobPrefix.length = [] then
    .ok { found with depsChanged := true }
  else
    match parse (ascii "(CollectDependencies) Cannot parse entry in DependsOn: ")
        (fullID jobPrefix deptask) with
    | .error failure => .error failure
    | .ok t =>
        if t.taskName = [] then .ok { found with depsChanged := true }
        else .ok ⟨found.insert t, found.depsChanged || !jobPrefix.isPrefixOf deptask⟩

/-- A round of the loop over the inputs. -/
def collectOrigin (jobPrefix : Bytes) (found : Found) (deptask : Bytes) : Except Failure Found :=
  if deptask = [] then .ok { found with depsChanged := true }
  else
    match parse (ascii "(CollectDependencies) Cannot parse Origin entry in Input: ")
        (fullID jobPrefix deptask) with
    | .error failure => .error failure
    | .ok t =>
        .ok ⟨found.insert t, found.depsChanged || !jobPrefix.isPrefixOf deptask || decide
            (t ∉ found.deps)⟩

/-- The loop that writes the list.  What was written before an error stays. -/
def writeDependsOn : List TaskUniqueIdentifier -> List Bytes × Option Bytes
  | [] => ([], none)
  | deptask :: rest =>
      match deptask.string with
      | (_, some err) => ([],
          some (ascii "(CollectDependencies) dep_task.String returned: " ++ err))
      | (text, none) => (text :: (writeDependsOn rest).1, (writeDependsOn rest).2)

def jobPrefix (task : Task) : Bytes :=
  task.jobId ++ [underscore]

/-- Both loops that fill the map. -/
def collect (task : Task) : Except Failure Found :=
  match task.dependsOn.foldlM (collectEntry (jobPrefix task)) ⟨[], false⟩ with
  | .error failure => .error failure
  | .ok found => task.origins.foldlM (collectOrigin (jobPrefix task)) found

/-- `CollectDependencies`: the task and the answer `changed`.  `order` is the order in which the
map gives its keys. -/
def collectDependencies (order : List TaskUniqueIdentifier -> List TaskUniqueIdentifier)
    (task : Task) :
    Task × Except Failure Bool :=
  if task.jobId = [] then (task, .error (.err (ascii "(CollectDependencies) jobid is empty")))
  else
    match collect task with
    | .error failure => (task, .error failure)
    | .ok found =>
        if found.depsChanged then
          ({ task with dependsOn := (writeDependsOn (order found.deps)).1 },
            match (writeDependsOn (order found.deps)).2 with
            | some err => .error (.err err)
            | none => .ok true)
        else (task, .ok false)

/-- What `ValidateDependants` sees of a task in the map: the state and whether another holds
the lock for more than a second. -/
structure Known where
  state : Bytes
  locked : Bool

/-- How `ValidateDependants` returns before its end. -/
inductive Verdict where
  | halt (halt : Halt)
  | returned (reason : Bytes) (skip : Bool) (err : Option Bytes)
  deriving DecidableEq

/-- The part that both loops share, with the name of the field. -/
def validatePredecessor (taskMap : TaskUniqueIdentifier -> Option Known) (task : Task)
    (field preTaskStr : Bytes) (preId : TaskUniqueIdentifier) : Except Verdict Unit :=
  match taskMap preId with
  | none =>
      .error (.returned (ascii "(ValidateDependants) (field " ++ field ++
          ascii ") predecessor task not found: task=" ++
        task.id ++ ascii ", pretask=" ++ preTaskStr) false none)
  | some preTask =>
      if preTask.locked then .error (.returned [] true none)
      else if preTask.state ≠ ascii "completed" then
        .error (.returned (ascii "(ValidateDependants) (field " ++ field ++
          ascii ") predecessor task state is not completed: task=" ++ task.id ++
              ascii ", pretask=" ++ preTaskStr ++
          ascii ", pretask.state=" ++ preTask.state) false none)
      else .ok ()

/-- A round of the loop over `DependsOn`. -/
def validateEntry (taskMap : TaskUniqueIdentifier -> Option Known) (task : Task)
    (preTaskStr : Bytes) :
    Except Verdict Unit :=
  match newTaskUniqueIdentifierFromString preTaskStr with
  | .error halt => .error (.halt halt)
  | .ok (.error err) =>
      .error (.returned [] false (some (ascii ("(ValidateDependants) (field DependsOn) " ++
        "New_Task_Unique_Identifier_FromString returns: ") ++ err)))
  | .ok (.ok preId) => validatePredecessor taskMap task (ascii "DependsOn") preTaskStr preId

/-- A round of the loop over the inputs. -/
def validateOrigin (taskMap : TaskUniqueIdentifier -> Option Known) (task : Task) (origin : Bytes) :
    Except Verdict Unit :=
  if origin = [] then .ok ()
  else
    match newTaskUniqueIdentifier task.jobId origin with
    | .error err =>
        .error (.returned [] false (some (ascii ("(ValidateDependants) (field Inputs) " ++
          "New_Task_Unique_Identifier returns: ") ++ err)))
    | .ok preId =>
        match preId.string with
        | (_, some err) =>
            .error (.returned [] false
                (some (ascii "(ValidateDependants) (field Inputs) task.String returned: " ++ err)))
        | (preTaskStr, none) => validatePredecessor taskMap task (ascii "Inputs") preTaskStr preId

/-- `ValidateDependants`.  The return at the end, without a reason, is `ok`. -/
def validateDependants (taskMap : TaskUniqueIdentifier -> Option Known) (task : Task) :
    Except Verdict Unit :=
  match task.dependsOn.forM (validateEntry taskMap task) with
  | .error verdict => .error verdict
  | .ok () => task.origins.forM (validateOrigin taskMap task)

/-- The entry names the task: its full identifier is read as the task, which has a name. An entry
may be short, a bare task name; the prefix of the job is put in front of it. -/
def Names (jobid entry : Bytes) (t : TaskUniqueIdentifier) : Prop :=
  entry ≠ [] ∧ t.taskName ≠ [] ∧
    newTaskUniqueIdentifierFromString (fullID (jobid ++ [underscore]) entry) = .ok (.ok t)

/-- The task is named in `DependsOn` or as an origin. -/
def Task.Predecessor (task : Task) (t : TaskUniqueIdentifier) : Prop :=
  Exists fun entry => entry ∈ task.dependsOn ++ task.origins ∧ Names task.jobId entry t

/-- The predecessor is known, and seen to be completed. -/
def Completed (taskMap : TaskUniqueIdentifier -> Option Known) (t : TaskUniqueIdentifier) : Prop :=
  taskMap t = some ⟨ascii "completed", false⟩

section

variable {jobid entry : Bytes}

theorem parse_ok_iff {complaint deptask : Bytes} {t : TaskUniqueIdentifier} :
    parse complaint deptask = .ok t ↔ newTaskUniqueIdentifierFromString deptask = .ok (.ok t) := by
  unfold parse
  cases newTaskUniqueIdentifierFromString deptask with
  | error halt => exact iff_of_false nofun nofun
  | ok answer =>
      cases answer with
      | error err => exact iff_of_false nofun nofun
      | ok task => exact ⟨fun same => by cases same; rfl, fun same => by cases same; rfl⟩

/-- The part of an entry that is read as the name. -/
def entryName (jobid entry : Bytes) : Bytes :=
  if (jobid ++ [underscore]).isPrefixOf entry then entry.drop 37 else entry

theorem fullID_eq (valid : isValidUUID jobid = true) (entry : Bytes) :
    fullID (jobid ++ [underscore]) entry = jobid ++ underscore :: entryName jobid entry := by
  unfold fullID entryName
  by_cases full : (jobid ++ [underscore]).isPrefixOf entry = true
  · rw [if_pos full, if_pos full]
    rcases List.isPrefixOf_iff_prefix.mp full with ⟨name, rfl⟩
    rw [List.append_assoc, List.singleton_append, (slices valid underscore name).2.2.2]
  · rw [if_neg full, if_neg full, List.append_assoc, List.singleton_append]

/-- What a full identifier is read as. -/
theorem read_iff (valid : isValidUUID jobid = true) {name : Bytes} {t : TaskUniqueIdentifier} :
    newTaskUniqueIdentifierFromString (jobid ++ underscore :: name) = .ok (.ok t) ↔
      name ≠ [] ∧ isValidUUID name = false ∧ t = ⟨trimSlash name, jobid⟩ := by
  rcases slices valid underscore name with ⟨long, job, _, tail⟩
  rw [newTask_ok_iff, Refused, job, tail, valid, not_or, not_or, Bool.not_eq_true]
  constructor
  · rintro ⟨_, ⟨named, _, noUUID⟩, same⟩
    exact ⟨named, noUUID, same⟩
  · rintro ⟨named, noUUID, same⟩
    exact ⟨long, ⟨named, nofun, noUUID⟩, same⟩

theorem names_iff (valid : isValidUUID jobid = true) {t : TaskUniqueIdentifier} :
    Names jobid entry t ↔ entryName jobid entry ≠ [] ∧ isValidUUID (entryName jobid entry) = false ∧
      trimSlash (entryName jobid entry) ≠ [] ∧ t = ⟨trimSlash (entryName jobid entry), jobid⟩ := by
  unfold Names
  rw [fullID_eq valid, read_iff valid]
  constructor
  · rintro ⟨_, named, written, noUUID, rfl⟩
    exact ⟨written, noUUID, named, rfl⟩
  · rintro ⟨written, noUUID, named, rfl⟩
    refine ⟨?_, named, written, noUUID, rfl⟩
    rintro rfl
    unfold entryName at written
    split at written <;> exact written rfl

/-- A predecessor belongs to the job, and its text can be written. -/
theorem Names.string (valid : isValidUUID jobid = true) {t : TaskUniqueIdentifier}
    (names : Names jobid entry t) :
    t.jobId = jobid ∧ t.string = (jobid ++ underscore :: t.taskName, none) := by
  have job : t.jobId = jobid := by
    rcases (names_iff valid).mp names with ⟨_, _, _, rfl⟩
    rfl
  refine ⟨job, ?_⟩
  rw [TaskUniqueIdentifier.string_of_named (job.symm ▸ valid) names.2.1, job]

end

/-! ## What the loops collect -/

section

variable {jobid : Bytes}

theorem Found.mem_insert {found : Found} {t other : TaskUniqueIdentifier} :
    other ∈ found.insert t ↔ other ∈ found.deps ∨ other = t := by
  unfold Found.insert
  split
  · exact ⟨Or.inl, fun either => either.elim id fun same => same ▸ ‹_›⟩
  · rw [List.mem_append, List.mem_singleton]

theorem Found.nodup_insert {found : Found} (distinct : found.deps.Nodup)
    (t : TaskUniqueIdentifier) :
    (found.insert t).Nodup := by
  unfold Found.insert
  split
  · exact distinct
  · rename_i missing
    exact List.Nodup.append distinct (List.nodup_singleton t)
      (List.disjoint_singleton.mpr missing)

/-- An entry of the map is a full identifier that names a task. If every entry is one and the
origins add nothing, nothing is written back. -/
def Full (jobid entry : Bytes) : Prop :=
  (jobid ++ [underscore]).isPrefixOf entry = true ∧ Exists fun t => Names jobid entry t

/-- A round adds the task that the entry names, and notes a change if there is none or the entry is
not a full identifier. -/
theorem collectEntry_cases (valid : isValidUUID jobid = true) {found after : Found} {entry : Bytes}
    (collected : collectEntry (jobid ++ [underscore]) found entry = .ok after) :
    ((forall t, ¬Names jobid entry t) ∧ after = { found with depsChanged := true }) ∨
      Exists fun t => Names jobid entry t ∧
        after = ⟨found.insert t,
            found.depsChanged || !(jobid ++ [underscore]).isPrefixOf entry⟩ := by
  unfold collectEntry at collected
  by_cases empty : entry = []
  · rw [if_pos empty] at collected
    cases collected
    exact Or.inl ⟨fun t names => names.1 empty, rfl⟩
  rw [if_neg empty] at collected
  by_cases bare : (jobid ++ [underscore]).isPrefixOf entry = true ∧
      entry.drop (jobid ++ [underscore]).length = []
  · rw [if_pos bare] at collected
    cases collected
    refine Or.inl ⟨fun t names => ?_, rfl⟩
    have written := ((names_iff valid).mp names).1
    unfold entryName at written
    rw [if_pos bare.1] at written
    rw [List.length_append, length_of_isValidUUID valid] at bare
    exact written bare.2
  rw [if_neg bare] at collected
  cases read : parse (ascii "(CollectDependencies) Cannot parse entry in DependsOn: ")
      (fullID (jobid ++ [underscore]) entry) with
  | error failure =>
      rw [read] at collected
      cases collected
  | ok t =>
      rw [read] at collected
      dsimp only at collected
      have parsed := parse_ok_iff.mp read
      by_cases nameless : t.taskName = []
      · rw [if_pos nameless] at collected
        cases collected
        refine Or.inl ⟨fun other names => ?_, rfl⟩
        have same := names.2.2
        rw [parsed] at same
        cases same
        exact names.2.1 nameless
      · rw [if_neg nameless] at collected
        cases collected
        exact Or.inr ⟨t, ⟨empty, nameless, parsed⟩, rfl⟩

/-- What is collected from the entries. -/
structure OfEntries (jobid : Bytes) (entries : List Bytes) (found : Found) : Prop where
  mem : forall t, t ∈ found.deps ↔ Exists fun entry => entry ∈ entries ∧ Names jobid entry t
  distinct : found.deps.Nodup
  unchanged : found.depsChanged = false ↔ forall entry, entry ∈ entries -> Full jobid entry

theorem OfEntries.round (valid : isValidUUID jobid = true) {done : List Bytes} {found after : Found}
    {entry : Bytes} (before : OfEntries jobid done found)
    (collected : collectEntry (jobid ++ [underscore]) found entry = .ok after) :
    OfEntries jobid (done ++ [entry]) after := by
  rcases collectEntry_cases valid collected with ⟨nothing, rfl⟩ | ⟨t, names, rfl⟩
  · refine ⟨fun t => ?_, before.distinct, ?_⟩
    · rw [before.mem t]
      constructor
      · rintro ⟨other, member, names⟩
        exact ⟨other, List.mem_append_left _ member, names⟩
      · rintro ⟨other, member, names⟩
        rcases List.mem_append.mp member with earlier | last
        · exact ⟨other, earlier, names⟩
        · rw [List.mem_singleton.mp last] at names
          exact absurd names (nothing t)
    · refine iff_of_false nofun fun every => ?_
      rcases (every entry (List.mem_append_right _ List.mem_cons_self)).2 with ⟨t, names⟩
      exact nothing t names
  · refine ⟨fun other => ?_, Found.nodup_insert before.distinct t, ?_⟩
    · rw [Found.mem_insert, before.mem other]
      constructor
      · rintro (⟨earlier, member, named⟩ | rfl)
        · exact ⟨earlier, List.mem_append_left _ member, named⟩
        · exact ⟨entry, List.mem_append_right _ List.mem_cons_self, names⟩
      · rintro ⟨earlier, member, named⟩
        rcases List.mem_append.mp member with inside | last
        · exact Or.inl ⟨earlier, inside, named⟩
        · rw [List.mem_singleton.mp last] at named
          have same := named.2.2
          rw [names.2.2] at same
          cases same
          exact Or.inr rfl
    · rw [List.forall_mem_append, List.forall_mem_singleton, <- before.unchanged]
      dsimp only
      rw [Bool.or_eq_false_iff, Bool.not_eq_false']
      exact and_congr_right fun _ => ⟨fun full => ⟨full, t, names⟩, And.left⟩

theorem ofEntries (valid : isValidUUID jobid = true) {entries : List Bytes} {found : Found}
    (collected : entries.foldlM (collectEntry (jobid ++ [underscore])) ⟨[], false⟩ = .ok found) :
    OfEntries jobid entries found := by
  refine Fallible.foldlM_ok_induction ⟨fun t => ?_, List.nodup_nil, ?_⟩
    (fun done entry before after holds collected => holds.round valid collected) collected
  · exact iff_of_false List.not_mem_nil fun ⟨entry, member, _⟩ => List.not_mem_nil member
  · exact iff_of_true rfl fun entry member => absurd member List.not_mem_nil

/-- The origin is read as the identifier, which may be without a name. -/
def Reads (jobid origin : Bytes) (t : TaskUniqueIdentifier) : Prop :=
  origin ≠ [] ∧ newTaskUniqueIdentifierFromString (fullID (jobid ++ [underscore]) origin) = .ok
      (.ok t)

theorem collectOrigin_cases {found after : Found} {origin : Bytes}
    (collected : collectOrigin (jobid ++ [underscore]) found origin = .ok after) :
    (origin = [] ∧ after = { found with depsChanged := true }) ∨
      Exists fun t => Reads jobid origin t ∧
        after = ⟨found.insert t,
          found.depsChanged || !(jobid ++ [underscore]).isPrefixOf origin || decide
              (t ∉ found.deps)⟩ := by
  unfold collectOrigin at collected
  by_cases empty : origin = []
  · rw [if_pos empty] at collected
    cases collected
    exact Or.inl ⟨empty, rfl⟩
  rw [if_neg empty] at collected
  cases read : parse (ascii "(CollectDependencies) Cannot parse Origin entry in Input: ")
      (fullID (jobid ++ [underscore]) origin) with
  | error failure =>
      rw [read] at collected
      cases collected
  | ok t =>
      rw [read] at collected
      cases collected
      exact Or.inr ⟨t, ⟨empty, parse_ok_iff.mp read⟩, rfl⟩

/-- What the origins add.  Without a change they add nothing. -/
structure OfOrigins (jobid : Bytes) (first : Found) (origins : List Bytes) (found : Found) :
    Prop where
  mem : forall t, t ∈ found.deps ↔ t ∈ first.deps ∨ Exists fun origin => origin ∈ origins ∧
      Reads jobid origin t
  distinct : found.deps.Nodup
  unchanged : found.depsChanged = false -> first.depsChanged = false ∧ found.deps = first.deps ∧
    forall origin, origin ∈ origins -> (jobid ++ [underscore]).isPrefixOf origin = true
  same : origins = [] -> found = first
  read : forall origin, origin ∈ origins -> origin ≠ [] -> Exists fun t => Reads jobid origin t

theorem OfOrigins.round {first found after : Found} {done : List Bytes} {origin : Bytes}
    (before : OfOrigins jobid first done found)
    (collected : collectOrigin (jobid ++ [underscore]) found origin = .ok after) :
    OfOrigins jobid first (done ++ [origin]) after := by
  rcases collectOrigin_cases collected with ⟨rfl, rfl⟩ | ⟨t, reads, rfl⟩
  · refine ⟨fun t => ?_, before.distinct, nofun, fun none =>
      absurd none (List.append_ne_nil_of_right_ne_nil _ nofun), ?_⟩
    · rw [before.mem t]
      refine or_congr_right ⟨?_, ?_⟩
      · rintro ⟨other, member, reads⟩
        exact ⟨other, List.mem_append_left _ member, reads⟩
      · rintro ⟨other, member, reads⟩
        rcases List.mem_append.mp member with earlier | last
        · exact ⟨other, earlier, reads⟩
        · exact absurd (List.mem_singleton.mp last) reads.1
    · rw [List.forall_mem_append, List.forall_mem_singleton]
      exact ⟨before.read, fun some => absurd rfl some⟩
  · refine ⟨fun other => ?_, Found.nodup_insert before.distinct t, fun unchanged => ?_,
      fun none => absurd none (List.append_ne_nil_of_right_ne_nil _ nofun), ?_⟩
    · rw [Found.mem_insert, before.mem other, or_assoc]
      refine or_congr_right ⟨?_, ?_⟩
      · rintro (⟨earlier, member, read⟩ | rfl)
        · exact ⟨earlier, List.mem_append_left _ member, read⟩
        · exact ⟨origin, List.mem_append_right _ List.mem_cons_self, reads⟩
      · rintro ⟨earlier, member, read⟩
        rcases List.mem_append.mp member with inside | last
        · exact Or.inl ⟨earlier, inside, read⟩
        · rw [List.mem_singleton.mp last] at read
          have same := read.2
          rw [reads.2] at same
          cases same
          exact Or.inr rfl
    · dsimp only at unchanged
      rw [Bool.or_eq_false_iff, Bool.or_eq_false_iff, Bool.not_eq_false', decide_eq_false_iff_not,
          not_not] at unchanged
      rcases unchanged with ⟨⟨quiet, full⟩, known⟩
      rcases before.unchanged quiet with ⟨quiet, sameDeps, every⟩
      refine ⟨quiet, ?_, ?_⟩
      · unfold Found.insert
        rw [if_pos known]
        exact sameDeps
      · rw [List.forall_mem_append, List.forall_mem_singleton]
        exact ⟨every, full⟩
    · rw [List.forall_mem_append, List.forall_mem_singleton]
      exact ⟨before.read, fun _ => ⟨t, reads⟩⟩

theorem ofOrigins {first found : Found} {origins : List Bytes} (distinct : first.deps.Nodup)
    (collected : origins.foldlM (collectOrigin (jobid ++ [underscore])) first = .ok found) :
    OfOrigins jobid first origins found := by
  refine Fallible.foldlM_ok_induction ⟨fun t => ?_, distinct, fun quiet => ⟨quiet, rfl, ?_⟩,
      fun _ => rfl, ?_⟩
    (fun done origin before after holds collected => holds.round collected) collected
  · exact ⟨Or.inl, fun either => either.elim id fun ⟨_, member, _⟩ =>
      absurd member List.not_mem_nil⟩
  · exact fun origin member => absurd member List.not_mem_nil
  · exact fun origin member => absurd member List.not_mem_nil

end

/-! ## What is written -/

theorem writeDependsOn_of_named {deps : List TaskUniqueIdentifier}
    (named : forall t, t ∈ deps -> t.string.2 = none) :
    writeDependsOn deps = (deps.map fun t => t.string.1, none) := by
  induction deps with
  | nil => rfl
  | cons t rest inductionHypothesis =>
      have later := inductionHypothesis fun other member =>
          named other (List.mem_cons_of_mem _ member)
      have here := named t List.mem_cons_self
      rw [writeDependsOn]
      cases written : t.string with
      | mk text err =>
          rw [written] at here
          cases here
          dsimp only
          rw [later, List.map_cons, written]

theorem named_of_written {deps : List TaskUniqueIdentifier}
    (written : (writeDependsOn deps).2 = none) :
    forall t, t ∈ deps -> t.taskName ≠ [] := by
  induction deps with
  | nil => exact fun t member => absurd member List.not_mem_nil
  | cons t rest inductionHypothesis =>
      rw [writeDependsOn] at written
      rw [List.forall_mem_cons]
      cases text : t.string with
      | mk text' err =>
          rw [text] at written
          cases err with
          | some err => cases written
          | none =>
              refine ⟨fun nameless => ?_, inductionHypothesis written⟩
              unfold TaskUniqueIdentifier.string at text
              rw [if_pos nameless] at text
              cases text

section

variable {order : List TaskUniqueIdentifier -> List TaskUniqueIdentifier} {task : Task}

/-- What the map holds after both loops. It also says when `depsChanged` stays false, since
otherwise the entries come back in the order of a map. -/
structure Collected (task : Task) (found : Found) : Prop where
  mem : forall t, t ∈ found.deps ↔
      (Exists fun entry => entry ∈ task.dependsOn ∧ Names task.jobId entry t) ∨
    Exists fun origin => origin ∈ task.origins ∧ Reads task.jobId origin t
  distinct : found.deps.Nodup
  full : found.depsChanged = false ->
      (forall entry, entry ∈ task.dependsOn -> Full task.jobId entry) ∧
    (forall origin, origin ∈ task.origins -> (jobPrefix task).isPrefixOf origin = true) ∧
    forall t, t ∈ found.deps -> t.taskName ≠ []
  unchanged : task.origins = [] ->
      (forall entry, entry ∈ task.dependsOn -> Full task.jobId entry) ->
    found.depsChanged = false
  reads : forall origin, origin ∈ task.origins -> origin ≠ [] -> Exists fun t =>
      Reads task.jobId origin t

theorem collected (valid : isValidUUID task.jobId = true) {found : Found}
    (done : collect task = .ok found) :
    Collected task found := by
  unfold collect at done
  cases looped : task.dependsOn.foldlM (collectEntry (jobPrefix task)) ⟨[], false⟩ with
  | error failure =>
      rw [looped] at done
      cases done
  | ok first =>
      rw [looped] at done
      have entries := ofEntries valid looped
      have origins := ofOrigins entries.distinct done
      refine ⟨fun t => ?_, origins.distinct, fun quiet => ?_, fun none every => ?_, origins.read⟩
      · rw [origins.mem t, entries.mem t]
      · rcases origins.unchanged quiet with ⟨quiet, same, every⟩
        refine ⟨entries.unchanged.mp quiet, every, fun t member => ?_⟩
        rw [same, entries.mem t] at member
        rcases member with ⟨entry, _, names⟩
        exact names.2.1
      · rw [origins.same none]
        exact entries.unchanged.mpr every

/-- The text of a predecessor. -/
def textOf (task : Task) (t : TaskUniqueIdentifier) : Bytes :=
  task.jobId ++ underscore :: t.taskName

/-- A map whose keys all have names holds the predecessors. -/
theorem Collected.mem_iff {found : Found} (facts : Collected task found)
    (named : forall t, t ∈ found.deps -> t.taskName ≠ []) (t : TaskUniqueIdentifier) :
    t ∈ found.deps ↔ task.Predecessor t := by
  unfold Task.Predecessor
  constructor
  · intro member
    have name := named t member
    rcases (facts.mem t).mp member with ⟨entry, listed, names⟩ | ⟨origin, listed, reads⟩
    · exact ⟨entry, List.mem_append_left _ listed, names⟩
    · exact ⟨origin, List.mem_append_right _ listed, reads.1, name, reads.2⟩
  · rintro ⟨entry, listed, names⟩
    rw [facts.mem t]
    rcases List.mem_append.mp listed with inside | inside
    · exact Or.inl ⟨entry, inside, names⟩
    · exact Or.inr ⟨entry, inside, names.1, names.2.2⟩

theorem predecessor_string (valid : isValidUUID task.jobId = true) {t : TaskUniqueIdentifier}
    (predecessor : task.Predecessor t) : t.string = (textOf task t, none) := by
  rcases predecessor with ⟨entry, _, names⟩
  exact (names.string valid).2

/-- How `CollectDependencies` succeeds. The order is any function of the keys, as Go visits a map
at random. -/
structure Succeeded (order : List TaskUniqueIdentifier -> List TaskUniqueIdentifier)
    (task after : Task) (changed : Bool) (found : Found) : Prop where
  facts : Collected task found
  flag : changed = found.depsChanged
  holds : forall t, t ∈ found.deps ↔ task.Predecessor t
  result : after = if found.depsChanged then
      { task with dependsOn := (order found.deps).map (textOf task) } else task

theorem succeeded (valid : isValidUUID task.jobId = true)
    (shuffles : forall deps, (order deps).Perm deps) {after : Task} {changed : Bool}
    (done : collectDependencies order task = (after, .ok changed)) :
    Exists fun found => Succeeded order task after changed found := by
  unfold collectDependencies at done
  by_cases empty : task.jobId = []
  · rw [if_pos empty] at done
    cases done
  rw [if_neg empty] at done
  cases gathered : collect task with
  | error failure =>
      rw [gathered] at done
      cases done
  | ok found =>
      rw [gathered] at done
      dsimp only at done
      have facts := collected valid gathered
      cases quiet : found.depsChanged with
      | false =>
          rw [quiet, if_neg Bool.false_ne_true] at done
          cases done
          exact ⟨found, facts, quiet.symm, facts.mem_iff (facts.full quiet).2.2,
              by rw [quiet, if_neg Bool.false_ne_true]⟩
      | true =>
          rw [quiet, if_pos rfl] at done
          cases failed : (writeDependsOn (order found.deps)).2 with
          | some err =>
              rw [failed] at done
              cases done
          | none =>
              have named : forall t, t ∈ found.deps -> t.taskName ≠ [] := fun t member =>
                named_of_written failed t ((shuffles found.deps).mem_iff.mpr member)
              have holds := facts.mem_iff named
              have strings : forall t, t ∈ order found.deps -> t.string = (textOf task t, none) :=
                  fun t member =>
                predecessor_string valid ((holds t).mp ((shuffles found.deps).mem_iff.mp member))
              rw [writeDependsOn_of_named fun t member => congrArg Prod.snd (strings t member)]
                  at done
              have texts : (order found.deps).map (fun t => t.string.1) = (order found.deps).map
                  (textOf task) :=
                List.map_congr_left fun t member => congrArg Prod.fst (strings t member)
              rw [texts] at done
              cases done
              exact ⟨found, facts, quiet.symm, holds, by rw [quiet, if_pos rfl]⟩

end

section

variable {taskMap : TaskUniqueIdentifier -> Option Known} {task : Task}

theorem validatePredecessor_ok_iff {field preTaskStr : Bytes} {preId : TaskUniqueIdentifier} :
    validatePredecessor taskMap task field preTaskStr preId = .ok () ↔ Completed taskMap preId := by
  unfold validatePredecessor Completed
  cases taskMap preId with
  | none => exact iff_of_false nofun nofun
  | some known =>
      rcases known with ⟨state, locked⟩
      dsimp only
      cases locked with
      | true =>
          rw [if_pos rfl]
          exact iff_of_false nofun nofun
      | false =>
          rw [if_neg Bool.false_ne_true]
          by_cases completed : state = ascii "completed"
          · rw [if_neg (fun other => other completed), completed]
            exact iff_of_true rfl rfl
          · rw [if_pos completed]
            refine iff_of_false nofun fun same => completed ?_
            cases same
            rfl

theorem validateEntry_of_read {text : Bytes} {t : TaskUniqueIdentifier}
    (read : newTaskUniqueIdentifierFromString text = .ok (.ok t)) :
    validateEntry taskMap task text = .ok () ↔ Completed taskMap t := by
  unfold validateEntry
  rw [read]
  exact validatePredecessor_ok_iff

theorem validateOrigin_of_made {origin : Bytes} {t : TaskUniqueIdentifier} (some : origin ≠ [])
    (made : newTaskUniqueIdentifier task.jobId origin = .ok t) (text : t.string.2 = none) :
    validateOrigin taskMap task origin = .ok () ↔ Completed taskMap t := by
  unfold validateOrigin
  rw [if_neg some, made]
  dsimp only
  cases written : t.string with
  | mk preTaskStr err =>
      rw [written] at text
      cases text
      exact validatePredecessor_ok_iff

theorem validateDependants_ok_iff :
    validateDependants taskMap task = .ok () ↔
      (forall entry, entry ∈ task.dependsOn -> validateEntry taskMap task entry = .ok ()) ∧
        forall origin, origin ∈ task.origins -> validateOrigin taskMap task origin = .ok () := by
  unfold validateDependants
  rw [<- Fallible.forM_ok_iff, <- Fallible.forM_ok_iff]
  cases task.dependsOn.forM (validateEntry taskMap task) with
  | error verdict => exact iff_of_false nofun fun both => (nomatch both.1)
  | ok done => exact ⟨fun later => ⟨rfl, later⟩, And.right⟩

end

/-! ## One list of full identifiers -/

/-- What is asked of `CollectDependencies` when it has made `after` of a task and answered
`changed`: `DependsOn` lists the predecessors under their full identifiers, without repetition if
it was changed, and stays as it is when the function is called `again`; and `ValidateDependants`
finds each predecessor under the same identifier, from the list as well as from the origins.

`ValidateDependants` is the reader of what is written here, so that it finds every predecessor is
part of what is asked. -/
structure Normalised (again : List TaskUniqueIdentifier -> List TaskUniqueIdentifier)
    (task after : Task) (changed : Bool) : Prop where
  listed : forall text, text ∈ after.dependsOn ↔
    Exists fun t => task.Predecessor t ∧ text = task.jobId ++ underscore :: t.taskName
  distinct : changed = true -> after.dependsOn.Nodup
  stable : forall text, text ∈ (collectDependencies again after).1.dependsOn ↔
      text ∈ after.dependsOn
  entryFound : forall t, task.Predecessor t ->
    newTaskUniqueIdentifierFromString (task.jobId ++ underscore :: t.taskName) = .ok (.ok t)
  originFound : forall origin, origin ∈ task.origins -> forall t, Names task.jobId origin t ->
    newTaskUniqueIdentifier task.jobId origin = .ok t
  validated : forall taskMap, validateDependants taskMap after = .ok () ↔
    forall t, task.Predecessor t -> Completed taskMap t

/-- The names can be written and read again, no origin is a full identifier, and a list that is
not changed has no entry that ends in a slash. It can be read off the task as it was submitted. -/
structure Settled (task : Task) : Prop where
  regular : forall t, task.Predecessor t -> t.Regular
  short : forall origin, origin ∈ task.origins ->
      ¬(task.jobId ++ [underscore]).isPrefixOf origin = true
  unslashed : task.origins = [] ->
      (forall entry, entry ∈ task.dependsOn -> Full task.jobId entry) ->
    forall entry, entry ∈ task.dependsOn -> entry.getLast? ≠ some slash

section

variable {order again : List TaskUniqueIdentifier -> List TaskUniqueIdentifier} {task after : Task}
    {changed : Bool}

theorem textOf_injective (job : Bytes) {t other : TaskUniqueIdentifier}
    (same : t.jobId = other.jobId)
    (texts : job ++ underscore :: t.taskName = job ++ underscore :: other.taskName) :
    t = other := by
  have names := (List.cons.inj (List.append_cancel_left texts)).2
  cases t
  cases other
  cases same
  cases names
  rfl

theorem predecessor_job (valid : isValidUUID task.jobId = true) {t : TaskUniqueIdentifier}
    (predecessor : task.Predecessor t) : t.jobId = task.jobId := by
  rcases predecessor with ⟨entry, _, names⟩
  exact (names.string valid).1

theorem predecessor_named {t : TaskUniqueIdentifier} (predecessor : task.Predecessor t) :
    t.taskName ≠ [] := by
  rcases predecessor with ⟨entry, _, names⟩
  exact names.2.1

/-- A regular identifier is named by its own text, and by nothing else that has this text. -/
theorem names_text_iff (valid : isValidUUID task.jobId = true) {t other : TaskUniqueIdentifier}
    (job : t.jobId = task.jobId) (regular : t.Regular) :
    Names task.jobId (task.jobId ++ underscore :: t.taskName) other ↔ other = t := by
  have name : entryName task.jobId (task.jobId ++ underscore :: t.taskName) = t.taskName := by
    unfold entryName
    have full : (task.jobId ++ [underscore]).isPrefixOf (task.jobId ++ underscore :: t.taskName) =
        true := by
      rw [List.isPrefixOf_iff_prefix]
      exact ⟨t.taskName, by rw [List.append_assoc, List.singleton_append]⟩
    rw [if_pos full, (slices valid underscore t.taskName).2.2.2]
  have self : (⟨t.taskName, task.jobId⟩ : TaskUniqueIdentifier) = t := by
    rw [<- job]
  rw [names_iff valid, name, (trimSlash_eq_self_iff _).mpr regular.unslashed, self]
  constructor
  · rintro ⟨_, _, _, same⟩
    exact same
  · intro same
    exact ⟨regular.named, regular.noUUID, regular.named, same⟩

/-- The list after the first call, which was changed or needed no change. -/
theorem listed_of_settled (valid : isValidUUID task.jobId = true)
    (shuffles : forall deps, (order deps).Perm deps) {found : Found}
    (success : Succeeded order task after changed found) (settled : Settled task) (text : Bytes) :
    text ∈ after.dependsOn ↔ Exists fun t => task.Predecessor t ∧
    text = task.jobId ++ underscore :: t.taskName := by
  rw [success.result]
  cases quiet : found.depsChanged with
  | true =>
      rw [if_pos rfl, List.mem_map]
      constructor
      · rintro ⟨t, member, rfl⟩
        exact ⟨t, (success.holds t).mp ((shuffles found.deps).mem_iff.mp member), rfl⟩
      · rintro ⟨t, predecessor, rfl⟩
        exact ⟨t, (shuffles found.deps).mem_iff.mpr ((success.holds t).mpr predecessor), rfl⟩
  | false =>
      rw [if_neg Bool.false_ne_true]
      rcases success.facts.full quiet with ⟨full, everyOrigin, _⟩
      have none : task.origins = [] := by
        refine List.eq_nil_iff_forall_not_mem.mpr fun origin member => ?_
        exact settled.short origin member (everyOrigin origin member)
      have unslashed := settled.unslashed none full
      -- an entry that is a full identifier without a slash at its end is the text of what it names
      have itself {entry : Bytes} {t : TaskUniqueIdentifier} (member : entry ∈ task.dependsOn)
          (names : Names task.jobId entry t) : entry = task.jobId ++ underscore :: t.taskName := by
        have whole := List.isPrefixOf_iff_prefix.mp (full entry member).1
        rcases whole with ⟨name, rfl⟩
        rcases (names_iff valid).mp names with ⟨_, _, named, rfl⟩
        have cut : entryName task.jobId (task.jobId ++ [underscore] ++ name) = name := by
          unfold entryName
          rw [if_pos (full _ member).1, List.append_assoc, List.singleton_append,
            (slices valid underscore name).2.2.2]
        rw [cut] at named ⊢
        have free : name.getLast? ≠ some slash := by
          intro slashed
          apply unslashed _ member
          rw [List.getLast?_append, slashed]
          rfl
        rw [(trimSlash_eq_self_iff name).mpr free, List.append_assoc, List.singleton_append]
      constructor
      · intro member
        rcases (full text member).2 with ⟨t, names⟩
        exact ⟨t, ⟨text, List.mem_append_left _ member, names⟩, itself member names⟩
      · rintro ⟨t, ⟨entry, member, names⟩, rfl⟩
        rw [none, List.append_nil] at member
        rw [<- itself member names]
        exact member

end

section

variable {order again : List TaskUniqueIdentifier -> List TaskUniqueIdentifier} {task after : Task}
    {changed : Bool}

theorem Succeeded.kept {found : Found} (success : Succeeded order task after changed found) :
    after.jobId = task.jobId ∧ after.origins = task.origins := by
  rw [success.result]
  split <;> exact ⟨rfl, rfl⟩

/-- A list that names the predecessors of the task by their texts gives the same predecessors again.
-/
theorem predecessor_again_iff (valid : isValidUUID task.jobId = true) {found : Found}
    (success : Succeeded order task after changed found)
    (regular : forall t, task.Predecessor t -> t.Regular)
    (listed : forall text, text ∈ after.dependsOn ↔
      Exists fun t => task.Predecessor t ∧ text = task.jobId ++ underscore :: t.taskName)
      (t : TaskUniqueIdentifier) :
    after.Predecessor t ↔ task.Predecessor t := by
  rcases success.kept with ⟨job, origins⟩
  unfold Task.Predecessor
  rw [job, origins]
  constructor
  · rintro ⟨entry, member, names⟩
    rcases List.mem_append.mp member with inside | inside
    · rcases (listed entry).mp inside with ⟨other, predecessor, rfl⟩
      rw [(names_text_iff valid (predecessor_job valid predecessor) (regular other predecessor)).mp
          names]
      exact predecessor
    · exact ⟨entry, List.mem_append_right _ inside, names⟩
  · intro predecessor
    refine ⟨task.jobId ++ underscore :: t.taskName, List.mem_append_left _
        ((listed _).mpr ⟨t, predecessor, rfl⟩), ?_⟩
    exact (names_text_iff valid (predecessor_job valid predecessor) (regular t predecessor)).mpr rfl

/-- A second call finds the same predecessors, so it changes the order of the list at most. -/
theorem stable_of_settled (valid : isValidUUID task.jobId = true)
    (shuffles : forall deps, (order deps).Perm deps)
    (reshuffles : forall deps, (again deps).Perm deps) {found : Found}
    (success : Succeeded order task after changed found) (settled : Settled task) (text : Bytes) :
    text ∈ (collectDependencies again after).1.dependsOn ↔ text ∈ after.dependsOn := by
  have listed := listed_of_settled valid shuffles success settled
  rcases success.kept with ⟨job, origins⟩
  have validAfter : isValidUUID after.jobId = true := job.symm ▸ valid
  unfold collectDependencies
  split
  · rfl
  cases gathered : collect after with
  | error failure => rfl
  | ok second =>
      dsimp only
      cases quiet : second.depsChanged with
      | false => rw [if_neg Bool.false_ne_true]
      | true =>
          rw [if_pos rfl]
          have facts := collected validAfter gathered
          have named : forall t, t ∈ second.deps -> t.taskName ≠ [] := by
            intro t member
            rcases (facts.mem t).mp member with ⟨entry, _, names⟩ | ⟨origin, inside, reads⟩
            · exact names.2.1
            · rw [job] at reads
              rw [origins] at inside
              have before := (success.facts.mem t).mpr (Or.inr ⟨origin, inside, reads⟩)
              exact predecessor_named ((success.holds t).mp before)
          have holds (t : TaskUniqueIdentifier) : t ∈ again second.deps ↔ task.Predecessor t := by
            rw [(reshuffles second.deps).mem_iff, facts.mem_iff named,
              predecessor_again_iff valid success settled.regular listed]
          have strings : forall t, t ∈ again second.deps -> t.string = (textOf task t, none) :=
              fun t member =>
            predecessor_string valid ((holds t).mp member)
          rw [writeDependsOn_of_named fun t member => congrArg Prod.snd (strings t member),
              listed text, List.mem_map]
          constructor
          · rintro ⟨t, member, rfl⟩
            exact ⟨t, (holds t).mp member, congrArg Prod.fst (strings t member)⟩
          · rintro ⟨t, predecessor, rfl⟩
            have member := (holds t).mpr predecessor
            exact ⟨t, member, congrArg Prod.fst (strings t member)⟩

/-- `ValidateDependants` makes the identifier of an origin without a look at the job that may stand
in front of it. -/
theorem origin_found_iff (valid : isValidUUID task.jobId = true) {origin : Bytes}
    {t : TaskUniqueIdentifier} (names : Names task.jobId origin t) :
    newTaskUniqueIdentifier task.jobId origin = .ok t ↔
    ¬(task.jobId ++ [underscore]).isPrefixOf origin = true := by
  rcases (names_iff valid).mp names with ⟨written, _, _, rfl⟩
  have trim_le (text : Bytes) : text.length ≤ (trimSlash text).length + 1 ∧
      (trimSlash text).length ≤ text.length := by
    unfold trimSlash
    split
    · rw [List.length_dropLast]
      omega
    · omega
  unfold newTaskUniqueIdentifier entryName
  rw [if_neg names.1]
  by_cases full : (task.jobId ++ [underscore]).isPrefixOf origin = true
  · rw [if_pos full]
    refine iff_of_false (fun same => ?_) (fun short => short full)
    have texts := congrArg (fun t => t.taskName.length) (Except.ok.inj same)
    rcases List.isPrefixOf_iff_prefix.mp full with ⟨name, rfl⟩
    have long := length_of_isValidUUID valid
    have bound := trim_le (task.jobId ++ [underscore] ++ name)
    have other := trim_le ((task.jobId ++ [underscore] ++ name).drop 37)
    dsimp only at texts
    rw [List.length_drop, List.length_append, List.length_append, List.length_singleton, long]
        at other
    rw [List.length_append, List.length_append, List.length_singleton, long] at bound
    omega
  · rw [if_neg full]
    exact iff_of_true rfl full

theorem regular_of_found (valid : isValidUUID task.jobId = true) {t : TaskUniqueIdentifier}
    (predecessor : task.Predecessor t)
    (found : newTaskUniqueIdentifierFromString (task.jobId ++ underscore :: t.taskName) =
    .ok (.ok t)) :
    t.Regular := by
  rcases (read_iff valid).mp found with ⟨named, noUUID, same⟩
  have unslashed : t.taskName.getLast? ≠ some slash :=
    (trimSlash_eq_self_iff t.taskName).mp (congrArg TaskUniqueIdentifier.taskName same).symm
  exact ⟨(predecessor_job valid predecessor).symm ▸ valid, named, unslashed, noUUID⟩

theorem found_of_regular (valid : isValidUUID task.jobId = true) {t : TaskUniqueIdentifier}
    (predecessor : task.Predecessor t) (regular : t.Regular) :
    newTaskUniqueIdentifierFromString (task.jobId ++ underscore :: t.taskName) = .ok (.ok t) := by
  rw [read_iff valid, (trimSlash_eq_self_iff _).mpr regular.unslashed]
  refine ⟨regular.named, regular.noUUID, ?_⟩
  rw [<- predecessor_job valid predecessor]

/-- With identifiers that are found from either side, validation passes exactly if all predecessors
have been completed. -/
theorem validated_of_found (valid : isValidUUID task.jobId = true) {found : Found}
    (success : Succeeded order task after changed found)
    (listed : forall text, text ∈ after.dependsOn ↔
      Exists fun t => task.Predecessor t ∧ text = task.jobId ++ underscore :: t.taskName)
    (entryFound : forall t, task.Predecessor t ->
      newTaskUniqueIdentifierFromString (task.jobId ++ underscore :: t.taskName) = .ok (.ok t))
    (originFound : forall origin, origin ∈ task.origins -> forall t, Names task.jobId origin t ->
      newTaskUniqueIdentifier task.jobId origin = .ok t) (taskMap : TaskUniqueIdentifier ->
      Option Known) :
    validateDependants taskMap after = .ok () ↔ forall t, task.Predecessor t ->
    Completed taskMap t := by
  rcases success.kept with ⟨job, origins⟩
  rw [validateDependants_ok_iff]
  constructor
  · rintro ⟨entries, _⟩ t predecessor
    have passed := entries _ ((listed _).mpr ⟨t, predecessor, rfl⟩)
    exact (validateEntry_of_read (entryFound t predecessor)).mp passed
  · intro completed
    constructor
    · intro entry member
      rcases (listed entry).mp member with ⟨t, predecessor, rfl⟩
      exact (validateEntry_of_read (entryFound t predecessor)).mpr (completed t predecessor)
    · intro origin member
      by_cases empty : origin = []
      · unfold validateOrigin
        rw [if_pos empty]
      rw [origins] at member
      -- the first call has read every origin that is not empty
      have read : Exists fun t => Names task.jobId origin t := by
        have predecessors := success.facts.reads origin member empty
        rcases predecessors with ⟨t, reads⟩
        have inside := (success.facts.mem t).mpr (Or.inr ⟨origin, member, reads⟩)
        exact ⟨t, empty, predecessor_named ((success.holds t).mp inside), reads.2⟩
      rcases read with ⟨t, names⟩
      have predecessor : task.Predecessor t := ⟨origin, List.mem_append_right _ member, names⟩
      have made := originFound origin member t names
      rw [<- job] at made
      refine (validateOrigin_of_made empty made ?_).mpr (completed t predecessor)
      exact congrArg Prod.snd (predecessor_string valid predecessor)

end

section

variable {order again : List TaskUniqueIdentifier -> List TaskUniqueIdentifier} {task after : Task}
    {changed : Bool}

theorem settled_of_normalised (valid : isValidUUID task.jobId = true) {found : Found}
    (success : Succeeded order task after changed found)
    (normalised : Normalised again task after changed) :
    Settled task := by
  have regular : forall t, task.Predecessor t -> t.Regular := fun t predecessor =>
    regular_of_found valid predecessor (normalised.entryFound t predecessor)
  refine ⟨regular, fun origin member full => ?_, fun none every entry member slashed => ?_⟩
  · have some : origin ≠ [] := by
      rintro rfl
      rcases List.isPrefixOf_iff_prefix.mp full with ⟨rest, empty⟩
      rw [List.append_assoc] at empty
      exact List.append_ne_nil_of_right_ne_nil _ (by exact nofun) empty
    rcases success.facts.reads origin member some with ⟨t, reads⟩
    have inside := (success.facts.mem t).mpr (Or.inr ⟨origin, member, reads⟩)
    have names : Names task.jobId origin t :=
        ⟨some, predecessor_named ((success.holds t).mp inside), reads.2⟩
    exact (origin_found_iff valid names).mp (normalised.originFound origin member t names) full
  · have quiet := success.facts.unchanged none every
    have same : after = task := by
      rw [success.result, quiet, if_neg Bool.false_ne_true]
    rw [<- same] at member
    rcases (normalised.listed entry).mp member with ⟨t, predecessor, rfl⟩
    rw [List.getLast?_append, List.getLast?_cons] at slashed
    have unslashed := (regular t predecessor).unslashed
    cases last : t.taskName.getLast? with
    | none => exact (regular t predecessor).named (List.getLast?_eq_none_iff.mp last)
    | some byte =>
        rw [last] at slashed unslashed
        exact unslashed slashed

theorem normalised_of_settled (valid : isValidUUID task.jobId = true)
    (shuffles : forall deps, (order deps).Perm deps)
    (reshuffles : forall deps, (again deps).Perm deps) {found : Found}
    (success : Succeeded order task after changed found) (settled : Settled task) :
    Normalised again task after changed := by
  have listed := listed_of_settled valid shuffles success settled
  have entryFound := fun t predecessor => found_of_regular valid predecessor
      (settled.regular t predecessor)
  have originFound : forall origin, origin ∈ task.origins -> forall t, Names task.jobId origin t ->
      newTaskUniqueIdentifier task.jobId origin = .ok t := fun origin member t names =>
    (origin_found_iff valid names).mpr (settled.short origin member)
  refine ⟨listed, fun isChanged => ?_, stable_of_settled valid shuffles reshuffles success settled,
      entryFound,
    originFound, validated_of_found valid success listed entryFound originFound⟩
  rw [success.flag] at isChanged
  rw [success.result, isChanged, if_pos rfl]
  refine (List.nodup_map_iff_inj_on
      ((shuffles found.deps).nodup_iff.mpr success.facts.distinct)).mpr ?_
  intro t member other otherMember texts
  have job := predecessor_job valid ((success.holds t).mp ((shuffles found.deps).mem_iff.mp member))
  have otherJob := predecessor_job valid
      ((success.holds other).mp ((shuffles found.deps).mem_iff.mp otherMember))
  exact textOf_injective task.jobId (job.trans otherJob.symm) texts

/-- `CollectDependencies` normalises the predecessors of a task and leaves them where
`ValidateDependants` finds them exactly if the task is settled.  One side writes full identifiers
into `Origin`, the other puts the job in front of whatever stands there, so the two do not agree
on a name that has the job in it already. -/
theorem collectDependencies_normalises_iff (valid : isValidUUID task.jobId = true)
    (shuffles : forall deps, (order deps).Perm deps)
    (reshuffles : forall deps, (again deps).Perm deps)
    (done : collectDependencies order task = (after, .ok changed)) :
    Normalised again task after changed ↔ Settled task := by
  rcases succeeded valid shuffles done with ⟨found, success⟩
  exact ⟨settled_of_normalised valid success, normalised_of_settled valid shuffles
      reshuffles success⟩

end

private def dependentJob : Bytes := ascii "6ba7b810-9dad-41d1-80b4-00c04fd430c8"

/-- A task that waits for `a` by name and for `b` by its origin. -/
private def waitingTask : Task :=
  ⟨ascii "6ba7b810-9dad-41d1-80b4-00c04fd430c8_c", dependentJob, [ascii "a"], [ascii "b"]⟩

private theorem waitingTask_predecessors {t : TaskUniqueIdentifier}
    (predecessor : waitingTask.Predecessor t) :
    t = ⟨ascii "a", dependentJob⟩ ∨ t = ⟨ascii "b", dependentJob⟩ := by
  rcases predecessor with ⟨entry, member, names⟩
  have valid : isValidUUID waitingTask.jobId = true := by decide
  rcases (names_iff valid).mp names with ⟨_, _, _, rfl⟩
  have either : entry ∈ [ascii "a", ascii "b"] := member
  rcases List.mem_pair.mp either with rfl | rfl
  · exact Or.inl (by decide)
  · exact Or.inr (by decide)

/-- Short names come out as full identifiers and are found again. -/
theorem collectDependencies_normalises_short :
    Normalised id waitingTask
        { waitingTask with dependsOn := [dependentJob ++ ascii "_a", dependentJob ++ ascii "_b"] }
      true := by
  refine (collectDependencies_normalises_iff (by decide)
      (fun deps => (List.Perm.refl deps : (id deps).Perm deps))
    (fun deps => List.Perm.refl deps) (by decide)).mpr ⟨fun t predecessor => ?_, by decide, nofun⟩
  rcases waitingTask_predecessors predecessor with rfl | rfl
  · exact ⟨by decide, by decide, by decide, by decide⟩
  · exact ⟨by decide, by decide, by decide, by decide⟩

/-- A task whose origin is a full identifier. -/
private def fullOrigin : Task :=
  ⟨ascii "6ba7b810-9dad-41d1-80b4-00c04fd430c8_c", dependentJob, [], [dependentJob ++ ascii "_a"]⟩

private def afterCollecting : Task :=
  { fullOrigin with dependsOn := [dependentJob ++ ascii "_a"] }

/-- The map of a server on which `a` has been completed. -/
private def completedA (t : TaskUniqueIdentifier) : Option Known :=
  if t = ⟨ascii "a", dependentJob⟩ then some ⟨ascii "completed", false⟩ else none

/-- The origin is listed as the task that it names, but validation then looks for a task whose name
is the whole identifier and does not find it.  A slash at the end stays in a list that needs no
other change, and a name with two slashes is another one after every call. -/
theorem full_origin_not_found :
    (collectDependencies id fullOrigin = (afterCollecting, .ok true) ∧
      validateDependants completedA afterCollecting ≠ .ok () ∧
      validateEntry completedA afterCollecting (dependentJob ++ ascii "_a") = .ok () ∧
      ¬Normalised id fullOrigin afterCollecting true) ∧
    (collectDependencies id
        { fullOrigin with dependsOn := [dependentJob ++ ascii "_a/"], origins := [] } =
      ({ fullOrigin with dependsOn := [dependentJob ++ ascii "_a/"], origins := [] }, .ok false)) ∧
    (collectDependencies id { fullOrigin with dependsOn := [ascii "a//"], origins := [[]] } =
        ({ fullOrigin with dependsOn := [dependentJob ++ ascii "_a/"], origins := [[]] },
        .ok true) ∧
      collectDependencies id
          { fullOrigin with dependsOn := [dependentJob ++ ascii "_a/"], origins := [[]] } =
        ({ fullOrigin with dependsOn := [dependentJob ++ ascii "_a"], origins := [[]] },
            .ok true)) := by
  refine ⟨⟨by decide, by decide, by decide, fun normalised => ?_⟩, by decide, by decide, by decide⟩
  have made := normalised.originFound (dependentJob ++ ascii "_a") List.mem_cons_self
      ⟨ascii "a", dependentJob⟩
    ⟨by decide, by decide, by decide⟩
  exact absurd made (by decide)

end Dependencies
end Identifiers
end Core
end Awe
