import Awe.Core.Completion
import Awe.Lib.Decimal

namespace Awe
namespace Core
namespace Identifiers

open Lib

/-!
# Identifiers as texts

A task is named by its job and its task name, and a workunit by its rank as
well.  Both are written with underscores in between, although the name may
contain underscores too.  The rank can be cut off behind the last one, and the
job is a UUID, which has a fixed length.

The parser takes the text apart at fixed places before it looks at it.  It never
looks at the byte between the job and the name, and it removes a slash from
the end of the name.
-/

def underscore : UInt8 := 95
def slash : UInt8 := 47

/-- `Task_Unique_Identifier`. -/
structure TaskUniqueIdentifier where
  taskName : Bytes
  jobId : Bytes
  deriving DecidableEq, Repr

/-- `Workunit_Unique_Identifier`. -/
structure WorkunitUniqueIdentifier extends TaskUniqueIdentifier where
  rank : Int64
  deriving DecidableEq

/-- What the parser refuses with: the error of `strconv.Atoi`, which says whether the number is too
large, or a text. -/
inductive Refusal where
  | atoi (number : Bytes) (outOfRange : Bool)
  | text (message : Bytes)
  deriving DecidableEq, Repr

namespace TaskUniqueIdentifier

/-- `String` of a task identifier: the text and the error. -/
def string (taskid : TaskUniqueIdentifier) : Bytes × Option Bytes :=
  if taskid.taskName = [] then
      ([], some (ascii "(Task_Unique_Identifier/String) TaskName is empty! "))
  else if taskid.jobId = [] then
      ([], some (ascii "(Task_Unique_Identifier/String) JobId is empty! "))
  else (taskid.jobId ++ underscore :: taskid.taskName, none)

end TaskUniqueIdentifier

namespace WorkunitUniqueIdentifier

/-- `String` of a workunit identifier. -/
def string (w : WorkunitUniqueIdentifier) : Bytes × Option Bytes :=
  (w.toTaskUniqueIdentifier.string.1 ++ underscore :: Decimal.format w.rank.toInt,
    w.toTaskUniqueIdentifier.string.2)

end WorkunitUniqueIdentifier

def isHex (byte : UInt8) : Bool :=
  byte ∈ ascii "0123456789abcdefABCDEF"

/-- What the regular expression admits at a place.  The class for the variant contains a bar. -/
def fitsAt (place : Nat) (byte : UInt8) : Bool :=
  if place ∈ [8, 13, 18, 23] then byte ∈ ascii "-"
  else if place = 14 then byte ∈ ascii "4"
  else if place = 19 then byte ∈ ascii "8|9aAbB"
  else isHex byte

/-- `IsValidUUID`. -/
def isValidUUID (uuid : Bytes) : Bool :=
  uuid.length = 36 && uuid.zipIdx.all fun entry => fitsAt entry.2 entry.1

/-- `strings.TrimSuffix` with a slash. -/
def trimSlash (text : Bytes) : Bytes :=
  if text.getLast? = some slash then text.dropLast else text

/-- `New_Task_Unique_Identifier`. -/
def newTaskUniqueIdentifier (jobid taskname : Bytes) : Except Bytes TaskUniqueIdentifier :=
  if taskname = [] then .error (ascii "(New_Task_Unique_Identifier) taskname empty")
  else .ok ⟨trimSlash taskname, jobid⟩

/-- `New_Task_Unique_Identifier_FromString`.  Both slices are taken first; the second one panics
already if the text ends in front of it. -/
def newTaskUniqueIdentifierFromString (oldStyleID : Bytes) :
    Except Halt (Except Bytes TaskUniqueIdentifier) :=
  if oldStyleID.length < 37 then .error .panic
  else
    let jobID := oldStyleID.take 36
    let tail := oldStyleID.drop 37
    if tail = [] then
      .ok (.error (ascii "(New_Task_Unique_Identifier_FromString) taskname is empty: " ++
          oldStyleID))
    else if ¬isValidUUID jobID then
      .ok (.error (ascii ("(New_Task_Unique_Identifier_FromString) Cannot parse workunit identifier, " ++
        "job id is not valid uuid: ") ++ oldStyleID))
    else if isValidUUID tail then
      .ok (.error (ascii ("(New_Task_Unique_Identifier_FromString) Cannot parse workunit identifier, " ++
        "second item should not be uuid: ") ++ oldStyleID))
    else
      match newTaskUniqueIdentifier jobID tail with
      | .error err =>
          .ok (.error (ascii ("(New_Task_Unique_Identifier_FromString) " ++
            "New_Task_Unique_Identifier returned: ") ++ err))
      | .ok task => .ok (.ok task)

/-- `strconv.Atoi`. -/
def atoi (text : Bytes) : Except Refusal Int64 :=
  match Decimal.parse text with
  | none => .error (.atoi text false)
  | some number =>
      if -2 ^ 63 ≤ number ∧ number < 2 ^ 63 then .ok (Int64.ofInt number) else
          .error (.atoi text true)

/-- The text behind the last underscore. -/
def rankString (oldStyleID : Bytes) : Bytes :=
  (oldStyleID.splitOn underscore).getLastD []

/-- The text in front of it, which is empty if there is none. -/
def rankPrefix (oldStyleID : Bytes) : Bytes :=
  [underscore].intercalate (oldStyleID.splitOn underscore).dropLast

/-- `New_Workunit_Unique_Identifier_FromString`. -/
def newWorkunitUniqueIdentifierFromString (oldStyleID : Bytes) :
    Except Halt (Except Refusal WorkunitUniqueIdentifier) :=
  match atoi (rankString oldStyleID) with
  | .error err => .ok (.error err)
  | .ok rank =>
      match newTaskUniqueIdentifierFromString (rankPrefix oldStyleID) with
      | .error halt => .error halt
      | .ok (.error err) =>
          .ok (.error (.text (ascii ("(New_Workunit_Unique_Identifier_FromString) " ++
            "New_Task_Unique_Identifier_FromString returns: ") ++ err ++ ascii " (prefix=" ++
            rankPrefix oldStyleID ++ ascii ", old_style_id=" ++ oldStyleID ++ ascii ")")))
      | .ok (.ok task) => .ok (.ok ⟨task, rank⟩)

/-! ## What the parsers accept -/

/-- The reasons for which a task identifier of sufficient length is refused. -/
def Refused (text : Bytes) : Prop :=
  text.drop 37 = [] ∨ isValidUUID (text.take 36) = false ∨ isValidUUID (text.drop 37) = true

theorem newTask_panics_iff (text : Bytes) :
    newTaskUniqueIdentifierFromString text = .error .panic ↔ text.length < 37 := by
  unfold newTaskUniqueIdentifierFromString
  by_cases short : text.length < 37
  · rw [if_pos short]
    exact iff_of_true rfl short
  · rw [if_neg short]
    refine iff_of_false (fun halted => ?_) short
    dsimp only at halted
    split_ifs at halted
    split at halted <;> cases halted

theorem newTask_ok_iff {text : Bytes} {task : TaskUniqueIdentifier} :
    newTaskUniqueIdentifierFromString text = .ok (.ok task) ↔
      37 ≤ text.length ∧ ¬Refused text ∧ task = ⟨trimSlash (text.drop 37), text.take 36⟩ := by
  unfold newTaskUniqueIdentifierFromString Refused
  by_cases short : text.length < 37
  · rw [if_pos short]
    exact iff_of_false nofun fun accepted => by omega
  rw [if_neg short]
  dsimp only
  by_cases empty : text.drop 37 = []
  · rw [if_pos empty]
    exact iff_of_false nofun fun accepted => accepted.2.1 (Or.inl empty)
  rw [if_neg empty]
  cases uuid : isValidUUID (text.take 36) with
  | false =>
      rw [if_pos Bool.false_ne_true]
      exact iff_of_false nofun fun accepted => accepted.2.1 (Or.inr (Or.inl rfl))
  | true =>
      rw [if_neg (fun refused => refused rfl)]
      cases second : isValidUUID (text.drop 37) with
      | true =>
          rw [if_pos rfl]
          exact iff_of_false nofun fun accepted => accepted.2.1 (Or.inr (Or.inr rfl))
      | false =>
          rw [if_neg Bool.false_ne_true]
          unfold newTaskUniqueIdentifier
          rw [if_neg empty]
          constructor
          · intro made
            cases made
            exact ⟨by omega, fun refused => refused.elim empty fun either => either.elim nofun nofun, rfl⟩
          · rintro ⟨_, _, rfl⟩
            rfl

/-- The parser comes to an answer if both slices are in range. -/
theorem newTask_returns {text : Bytes} (long : 37 ≤ text.length) :
    Exists fun answer => newTaskUniqueIdentifierFromString text = .ok answer := by
  unfold newTaskUniqueIdentifierFromString
  rw [if_neg (by omega)]
  dsimp only
  split_ifs
  · exact ⟨_, rfl⟩
  · exact ⟨_, rfl⟩
  · split
    · exact ⟨_, rfl⟩
    · exact ⟨_, rfl⟩
  · exact ⟨_, rfl⟩

theorem newWorkunit_ok_iff {text : Bytes} {id : WorkunitUniqueIdentifier} :
    newWorkunitUniqueIdentifierFromString text = .ok (.ok id) ↔
      atoi (rankString text) = .ok id.rank ∧
        newTaskUniqueIdentifierFromString (rankPrefix text) = .ok
            (.ok id.toTaskUniqueIdentifier) := by
  unfold newWorkunitUniqueIdentifierFromString
  cases number : atoi (rankString text) with
  | error err => exact iff_of_false nofun fun accepted => (nomatch accepted.1)
  | ok rank =>
      dsimp only
      cases parsed : newTaskUniqueIdentifierFromString (rankPrefix text) with
      | error halt => exact iff_of_false nofun fun accepted => (nomatch accepted.2)
      | ok answer =>
          cases answer with
          | error err => exact iff_of_false nofun fun accepted => (nomatch accepted.2)
          | ok task =>
              constructor
              · intro made
                cases made
                exact ⟨rfl, rfl⟩
              · rintro ⟨sameRank, sameTask⟩
                cases sameRank
                cases sameTask
                rfl

theorem newWorkunit_returns_iff (text : Bytes) :
    (Exists fun answer => newWorkunitUniqueIdentifierFromString text = .ok answer) ↔
      ((Exists fun err => atoi (rankString text) = .error err) ∨
      37 ≤ (rankPrefix text).length) := by
  unfold newWorkunitUniqueIdentifierFromString
  cases number : atoi (rankString text) with
  | error err => exact iff_of_true ⟨_, rfl⟩ (Or.inl ⟨err, rfl⟩)
  | ok rank =>
      dsimp only
      by_cases long : 37 ≤ (rankPrefix text).length
      · rcases newTask_returns long with ⟨answer, parsed⟩
        rw [parsed]
        refine iff_of_true ?_ (Or.inr long)
        cases answer with
        | error err => exact ⟨_, rfl⟩
        | ok task => exact ⟨_, rfl⟩
      · rw [(newTask_panics_iff _).mpr (by omega)]
        refine iff_of_false (fun ⟨_, returned⟩ => (nomatch returned)) fun either => ?_
        rcases either with ⟨err, failed⟩ | enough
        · cases failed
        · exact long enough

/-- A rank that is written behind an underscore is found again. -/
theorem rank_of_written (front : Bytes) (number : Int) :
    rankString (front ++ underscore :: Decimal.format number) = Decimal.format number ∧
      rankPrefix (front ++ underscore :: Decimal.format number) = front := by
  have free : underscore ∉ Decimal.format number :=
      Decimal.not_mem_format (Or.inr (by decide)) (by decide) number
  unfold rankString rankPrefix
  rw [Decimal.splitOn_append free]
  refine ⟨List.getLastD_concat, ?_⟩
  rw [List.dropLast_concat]
  exact List.intercalate_splitOn underscore

/-- Where there is a prefix, the text is the prefix and the rank. -/
theorem rank_split {text : Bytes} (some : rankPrefix text ≠ []) :
    text = rankPrefix text ++ underscore :: rankString text := by
  unfold rankPrefix rankString at *
  have whole : [underscore].intercalate (text.splitOn underscore) = text :=
      List.intercalate_splitOn underscore
  have parts : text.splitOn underscore = (text.splitOn underscore).dropLast ++
      [(text.splitOn underscore).getLastD []] := by
    have nonempty := List.splitOn_ne_nil underscore text
    rw [List.getLastD_eq_getLast?, List.getLast?_eq_some_getLast nonempty, Option.getD_some]
    exact (List.dropLast_append_getLast nonempty).symm
  generalize (text.splitOn underscore).dropLast = front at *
  generalize (text.splitOn underscore).getLastD [] = last at *
  have front_ne : front ≠ [] := by
    intro empty
    rw [empty] at some
    exact some rfl
  rw [<- Decimal.intercalate_append front_ne, <- parts, whole]

theorem atoi_format (rank : Int64) : atoi (Decimal.format rank.toInt) = .ok rank := by
  unfold atoi
  rw [Decimal.parse_format]
  dsimp only
  rw [if_pos ⟨rank.le_toInt, rank.toInt_lt⟩, Int64.ofInt_toInt]

/-! ## Round trips -/

/-- An identifier whose text names it: the job is a UUID, and the name is neither empty nor a UUID
and does not end in a slash. Identifiers are written one behind the other with underscores between
them, so a name that looks like an identifier itself could be cut at the wrong place. -/
structure TaskUniqueIdentifier.Regular (task : TaskUniqueIdentifier) : Prop where
  job : isValidUUID task.jobId = true
  named : task.taskName ≠ []
  unslashed : task.taskName.getLast? ≠ some slash
  noUUID : isValidUUID task.taskName = false

theorem length_of_isValidUUID {uuid : Bytes} (valid : isValidUUID uuid = true) :
    uuid.length = 36 := by
  unfold isValidUUID at valid
  rw [Bool.and_eq_true, decide_eq_true_eq] at valid
  exact valid.1

/-- The slices of a text that begins with a UUID. -/
theorem slices {uuid : Bytes} (valid : isValidUUID uuid = true) (between : UInt8) (name : Bytes) :
    37 ≤ (uuid ++ between :: name).length ∧ (uuid ++ between :: name).take 36 = uuid ∧
      (uuid ++ between :: name)[36]? = some between ∧ (uuid ++ between :: name).drop 37 = name := by
  have long := length_of_isValidUUID valid
  refine ⟨?_, ?_, ?_, ?_⟩
  · rw [List.length_append, List.length_cons]
    omega
  · exact List.take_left' long
  · rw [List.getElem?_append_right (by omega), long]
    rfl
  · rw [List.drop_append, long, List.drop_eq_nil_of_le (by omega)]
    rfl

theorem trimSlash_eq_self_iff (text : Bytes) :
    trimSlash text = text ↔ text.getLast? ≠ some slash := by
  unfold trimSlash
  by_cases slashed : text.getLast? = some slash
  · rw [if_pos slashed]
    refine iff_of_false (fun same => ?_) (fun unslashed => unslashed slashed)
    have shorter := congrArg List.length same
    rw [List.length_dropLast] at shorter
    have empty : text = [] := List.eq_nil_of_length_eq_zero (by omega)
    rw [empty] at slashed
    cases slashed
  · rw [if_neg slashed]
    exact iff_of_true rfl slashed

theorem TaskUniqueIdentifier.string_of_named {task : TaskUniqueIdentifier}
    (job : isValidUUID task.jobId = true) (named : task.taskName ≠ []) :
    task.string = (task.jobId ++ underscore :: task.taskName, none) := by
  have written : task.jobId ≠ [] := by
    intro empty
    have long := length_of_isValidUUID job
    rw [empty] at long
    cases long
  unfold string
  rw [if_neg named, if_neg written]

theorem newTask_string {task : TaskUniqueIdentifier} (regular : task.Regular) :
    task.string.2 = none ∧ newTaskUniqueIdentifierFromString task.string.1 = .ok (.ok task) := by
  rw [TaskUniqueIdentifier.string_of_named regular.job regular.named]
  rcases slices regular.job underscore task.taskName with ⟨long, job, _, name⟩
  refine ⟨rfl, newTask_ok_iff.mpr ⟨long, ?_, ?_⟩⟩
  · unfold Refused
    dsimp only
    rw [job, name, regular.job, regular.noUUID]
    exact fun refused => refused.elim regular.named fun either => either.elim nofun nofun
  · dsimp only
    rw [job, name, (trimSlash_eq_self_iff _).mpr regular.unslashed]

theorem newWorkunit_string {id : WorkunitUniqueIdentifier}
    (regular : id.toTaskUniqueIdentifier.Regular) :
    id.string.2 = none ∧ newWorkunitUniqueIdentifierFromString id.string.1 = .ok (.ok id) := by
  rcases newTask_string regular with ⟨written, parsed⟩
  rcases rank_of_written id.toTaskUniqueIdentifier.string.1 id.rank.toInt with ⟨rank, front⟩
  refine ⟨written, newWorkunit_ok_iff.mpr ⟨?_, ?_⟩⟩
  · unfold WorkunitUniqueIdentifier.string
    dsimp only
    rw [rank, atoi_format]
  · unfold WorkunitUniqueIdentifier.string
    dsimp only
    rw [front, parsed]

/-- What remains of a name without its slash can be written and read again. The text is taken
apart at slashes and underscores and tested for a UUID, and each of these tests may be misled by a
name. -/
structure Clean (name : Bytes) : Prop where
  named : trimSlash name ≠ []
  unslashed : (trimSlash name).getLast? ≠ some slash
  noUUID : isValidUUID (trimSlash name) = false

/-- What a parser made of a text is read again from its own text exactly if the name was clean. -/
theorem newWorkunit_fixed_iff {text : Bytes} {id : WorkunitUniqueIdentifier}
    (accepted : newWorkunitUniqueIdentifierFromString text = .ok (.ok id)) :
    newWorkunitUniqueIdentifierFromString id.string.1 = .ok (.ok id) ↔
    Clean ((rankPrefix text).drop 37) := by
  rcases newWorkunit_ok_iff.mp accepted with ⟨_, parsed⟩
  rcases newTask_ok_iff.mp parsed with ⟨_, admitted, task⟩
  have name : id.taskName = trimSlash ((rankPrefix text).drop 37) :=
      congrArg TaskUniqueIdentifier.taskName task
  have job : isValidUUID id.jobId = true := by
    rw [show id.jobId = (rankPrefix text).take 36 from congrArg TaskUniqueIdentifier.jobId task]
    cases uuid : isValidUUID ((rankPrefix text).take 36) with
    | true => rfl
    | false => exact absurd (Or.inr (Or.inl uuid)) admitted
  constructor
  · intro again
    rcases newWorkunit_ok_iff.mp again with ⟨_, reparsed⟩
    rcases rank_of_written id.toTaskUniqueIdentifier.string.1 id.rank.toInt with ⟨_, front⟩
    unfold WorkunitUniqueIdentifier.string at reparsed
    dsimp only at reparsed
    rw [front] at reparsed
    rcases newTask_ok_iff.mp reparsed with ⟨long, readmitted, same⟩
    have named : id.taskName ≠ [] := by
      intro empty
      unfold TaskUniqueIdentifier.string at long
      rw [if_pos empty] at long
      exact absurd long (by decide)
    rw [TaskUniqueIdentifier.string_of_named job named] at readmitted same
    rcases slices job underscore id.taskName with ⟨_, _, _, tail⟩
    unfold Refused at readmitted
    dsimp only at readmitted same
    rw [tail] at readmitted same
    have trimmed : id.taskName = trimSlash id.taskName :=
        congrArg TaskUniqueIdentifier.taskName same
    rw [name] at named trimmed readmitted
    refine ⟨named, (trimSlash_eq_self_iff _).mp trimmed.symm, ?_⟩
    cases uuid : isValidUUID (trimSlash ((rankPrefix text).drop 37)) with
    | false => rfl
    | true => exact absurd (Or.inr (Or.inr uuid)) readmitted
  · intro clean
    refine (newWorkunit_string ⟨job, ?_, ?_, ?_⟩).2
    · rw [name]
      exact clean.named
    · rw [name]
      exact clean.unslashed
    · rw [name]
      exact clean.noUUID

/-- Every regular identifier is read back from its text, so no two of them have the same text. A
text that is accepted is read again from its canonical form exactly if its name is clean.  A
trailing slash is taken off behind all the checks, which may leave an empty name, another slash,
or a UUID. -/
theorem identifiers_round_trip (task otherTask : TaskUniqueIdentifier)
    (work otherWork : WorkunitUniqueIdentifier) (text : Bytes) :
    (task.Regular -> task.string.2 = none ∧ newTaskUniqueIdentifierFromString task.string.1 =
        .ok (.ok task)) ∧
    (work.toTaskUniqueIdentifier.Regular ->
      work.string.2 = none ∧ newWorkunitUniqueIdentifierFromString work.string.1 = .ok (.ok work)) ∧
    (task.Regular -> otherTask.Regular -> task.string = otherTask.string -> task = otherTask) ∧
    (work.toTaskUniqueIdentifier.Regular -> otherWork.toTaskUniqueIdentifier.Regular ->
      work.string = otherWork.string -> work = otherWork) ∧
    (newWorkunitUniqueIdentifierFromString text = .ok (.ok work) ->
      (newWorkunitUniqueIdentifierFromString work.string.1 = .ok (.ok work) ↔
      Clean ((rankPrefix text).drop 37))) := by
  refine ⟨newTask_string, newWorkunit_string, fun regular other same =>
      ?_, fun regular other same => ?_,
    newWorkunit_fixed_iff⟩
  · have read := (newTask_string regular).2
    rw [same, (newTask_string other).2] at read
    cases read
    rfl
  · have read := (newWorkunit_string regular).2
    rw [same, (newWorkunit_string other).2] at read
    cases read
    rfl

private def someJob : Bytes := ascii "6ba7b810-9dad-41d1-80b4-00c04fd430c8"

/-- The slash is removed from the name without a look at what is left: here nothing is left, and
there the slash in front. -/
theorem canonical_text_not_fixed :
    (Exists fun id => newWorkunitUniqueIdentifierFromString (someJob ++ ascii "_/_5") =
        .ok (.ok id) ∧
      newWorkunitUniqueIdentifierFromString id.string.1 = .error .panic) ∧
    Exists fun id => Exists fun other =>
      newWorkunitUniqueIdentifierFromString (someJob ++ ascii "_a//_5") = .ok (.ok id) ∧
      newWorkunitUniqueIdentifierFromString id.string.1 = .ok (.ok other) ∧ other ≠ id := by
  refine ⟨⟨⟨⟨[], someJob⟩, 5⟩, by decide, by decide⟩, ⟨⟨ascii "a/", someJob⟩, 5⟩,
      ⟨⟨ascii "a", someJob⟩, 5⟩, by decide,
    by decide, by decide⟩

/-! ## Forms -/

/-- A UUID, an underscore and a name. The name is whatever stands behind; only an empty one and
one that is a UUID are excluded by the parser. -/
def TaskForm (text : Bytes) : Prop :=
  Exists fun uuid => Exists fun name => isValidUUID uuid = true ∧ name ≠ [] ∧
      text = uuid ++ underscore :: name

/-- A UUID, an underscore, a name, an underscore and a number. -/
def WorkunitForm (text : Bytes) : Prop :=
  Exists fun uuid => Exists fun name => Exists fun number => isValidUUID uuid = true ∧ name ≠ [] ∧
    Decimal.Written number ∧ text = uuid ++ underscore :: name ++ underscore :: number

/-- A text that is not refused is cut into the UUID, a byte that is not looked at, and the name. -/
theorem cut_of_admitted {text : Bytes} (long : 37 ≤ text.length) (admitted : ¬Refused text) :
    isValidUUID (text.take 36) = true ∧ text.drop 37 ≠ [] ∧
      Exists fun between => text[36]? = some between ∧
          text = text.take 36 ++ between :: text.drop 37 := by
  refine ⟨?_, fun empty => admitted (Or.inl empty), text[36], List.getElem?_eq_getElem (by omega),
      ?_⟩
  · cases uuid : isValidUUID (text.take 36) with
    | true => rfl
    | false => exact absurd (Or.inr (Or.inl uuid)) admitted
  · rw [<- List.drop_eq_getElem_cons (by omega), List.take_append_drop]

theorem newTask_safe_and_exact_iff (text : Bytes) :
    ((Exists fun answer => newTaskUniqueIdentifierFromString text = .ok answer) ∧
      (forall task, newTaskUniqueIdentifierFromString text = .ok (.ok task) -> TaskForm text)) ↔
    37 ≤ text.length ∧ (Refused text ∨ text[36]? = some underscore) := by
  constructor
  · rintro ⟨⟨answer, returned⟩, formed⟩
    have long : 37 ≤ text.length := by
      by_contra short
      rw [(newTask_panics_iff text).mpr (by omega)] at returned
      cases returned
    refine ⟨long, ?_⟩
    by_cases refused : Refused text
    · exact Or.inl refused
    · rcases formed _ (newTask_ok_iff.mpr ⟨long, refused, rfl⟩) with ⟨uuid, name, valid, _, same⟩
      rw [same]
      exact Or.inr (slices valid underscore name).2.2.1
  · rintro ⟨long, either⟩
    refine ⟨newTask_returns long, fun task accepted => ?_⟩
    rcases newTask_ok_iff.mp accepted with ⟨_, admitted, _⟩
    rcases cut_of_admitted long admitted with ⟨valid, named, between, found, whole⟩
    rw [either.resolve_left admitted] at found
    cases found
    exact ⟨_, _, valid, named, whole⟩

theorem written_of_atoi {text : Bytes} {rank : Int64} (read : atoi text = .ok rank) :
    Decimal.Written text := by
  unfold atoi at read
  rw [<- Decimal.parse_isSome_iff]
  cases parsed : Decimal.parse text with
  | none =>
      rw [parsed] at read
      cases read
  | some number => rfl

theorem newWorkunit_safe_and_exact_iff (text : Bytes) :
    ((Exists fun answer => newWorkunitUniqueIdentifierFromString text = .ok answer) ∧
      (forall id, newWorkunitUniqueIdentifierFromString text = .ok (.ok id) -> WorkunitForm text)) ↔
    (Exists fun err => atoi (rankString text) = .error err) ∨
      (37 ≤ (rankPrefix text).length ∧
      (Refused (rankPrefix text) ∨ (rankPrefix text)[36]? = some underscore)) := by
  rw [newWorkunit_returns_iff]
  cases number : atoi (rankString text) with
  | error err =>
      refine iff_of_true ⟨Or.inl ⟨err, rfl⟩, fun id accepted => ?_⟩ (Or.inl ⟨err, rfl⟩)
      have read := (newWorkunit_ok_iff.mp accepted).1
      rw [number] at read
      cases read
  | ok rank =>
      have readable : ¬Exists fun err => (.ok rank : Except Refusal Int64) = .error err :=
          fun ⟨_, failed⟩ => (nomatch failed)
      simp only [readable, false_or]
      constructor
      · rintro ⟨long, formed⟩
        refine ⟨long, ?_⟩
        by_cases refused : Refused (rankPrefix text)
        · exact Or.inl refused
        · obtain ⟨uuid, name, number', valid, _, _, same⟩ := formed ⟨_, rank⟩
            (newWorkunit_ok_iff.mpr ⟨number, newTask_ok_iff.mpr ⟨long, refused, rfl⟩⟩)
          have front : rankPrefix text ≠ [] := by
            intro empty
            rw [empty] at long
            exact absurd long (by decide)
          have place : text[36]? = (rankPrefix text)[36]? := by
            conv_lhs => rw [rank_split front]
            exact List.getElem?_append_left (by omega)
          rw [<- place, same, List.append_assoc]
          exact Or.inr (slices valid underscore (name ++ underscore :: number')).2.2.1
      · rintro ⟨long, either⟩
        refine ⟨long, fun id accepted => ?_⟩
        have front : rankPrefix text ≠ [] := by
          intro empty
          rw [empty] at long
          exact absurd long (by decide)
        rcases newWorkunit_ok_iff.mp accepted with ⟨_, parsed⟩
        obtain ⟨uuid, name, valid, named, same⟩ :=
          ((newTask_safe_and_exact_iff (rankPrefix text)).mpr ⟨long, either⟩).2 _ parsed
        refine ⟨uuid, name, rankString text, valid, named, written_of_atoi number, ?_⟩
        rw [<- same]
        exact rank_split front

/-- The parsers answer every text, and accept only those of the right form, exactly if the text is
long enough and has an underscore behind the UUID or is refused for another reason.  The text is
sliced before its length is known, and the byte behind the UUID is not looked at. -/
theorem parsers_safe_and_exact_iff (text : Bytes) :
    (((Exists fun answer => newTaskUniqueIdentifierFromString text = .ok answer) ∧
        (forall task, newTaskUniqueIdentifierFromString text = .ok (.ok task) -> TaskForm text)) ↔
      37 ≤ text.length ∧ (Refused text ∨ text[36]? = some underscore)) ∧
    (((Exists fun answer => newWorkunitUniqueIdentifierFromString text = .ok answer) ∧
        (forall id, newWorkunitUniqueIdentifierFromString text = .ok (.ok id) ->
        WorkunitForm text)) ↔
      (Exists fun err => atoi (rankString text) = .error err) ∨
        (37 ≤ (rankPrefix text).length ∧
        (Refused (rankPrefix text) ∨ (rankPrefix text)[36]? = some underscore))) :=
  ⟨newTask_safe_and_exact_iff text, newWorkunit_safe_and_exact_iff text⟩

/-- A number alone panics, and any byte is taken for the underscore behind the UUID. -/
theorem number_panics_and_separator_unchecked :
    newWorkunitUniqueIdentifierFromString (ascii "5") = .error .panic ∧
    newTaskUniqueIdentifierFromString [] = .error .panic ∧
    Exists fun id => newWorkunitUniqueIdentifierFromString (someJob ++ ascii "xa_5") =
        .ok (.ok id) ∧
      ¬WorkunitForm (someJob ++ ascii "xa_5") := by
  refine ⟨by decide, by decide, ⟨⟨ascii "a", someJob⟩, 5⟩, by decide, ?_⟩
  rintro ⟨uuid, name, number, valid, _, _, same⟩
  have place := (slices valid underscore (name ++ underscore :: number)).2.2.1
  rw [List.append_assoc, List.cons_append] at same
  rw [<- same] at place
  exact absurd place (by decide)

end Identifiers
end Core
end Awe
