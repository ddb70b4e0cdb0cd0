import Awe.Core.Identifiers

namespace Awe
namespace Core
namespace Identifiers
namespace WorkPath

open Lib

/-!
# Working directories

The directory of a workunit is made of its job, its task name and its rank.
Every character of the name that is no letter, digit, underscore or dash becomes
an underscore, so that the name is a single part of the path.  The rank stands
behind the last underscore and has none itself; two directories of one job are
the same exactly if the ranks are and the names look alike.

What is removed and made anew is only what lies under the directory.
-/

/-- `syntax.IsWordChar`, and the dash.  All of these characters are single bytes. -/
def isKept (byte : UInt8) : Bool :=
  (65 ≤ byte.toNat && byte.toNat ≤ 90) || (97 ≤ byte.toNat && byte.toNat ≤ 122) ||
    (48 ≤ byte.toNat && byte.toNat ≤ 57) || byte = underscore || byte = Decimal.minus

/-- How many bytes have to follow the first one of a character, and between which bounds the second
one has to be. -/
def lead (first : UInt8) : Option (Nat × Nat × Nat) :=
  let byte := first.toNat
  if 0xC2 ≤ byte ∧ byte ≤ 0xDF then some (1, 0x80, 0xBF)
  else if byte = 0xE0 then some (2, 0xA0, 0xBF)
  else if byte = 0xED then some (2, 0x80, 0x9F)
  else if 0xE1 ≤ byte ∧ byte ≤ 0xEF then some (2, 0x80, 0xBF)
  else if byte = 0xF0 then some (3, 0x90, 0xBF)
  else if byte = 0xF4 then some (3, 0x80, 0x8F)
  else if 0xF1 ≤ byte ∧ byte ≤ 0xF3 then some (3, 0x80, 0xBF)
  else none

/-- The number of bytes that belong to the character of the first one.  A byte that begins no
character stands for itself. -/
def following (first : UInt8) (rest : Bytes) : Nat :=
  match lead first with
  | none => 0
  | some (count, low, high) =>
      match rest.take count with
      | [] => 0
      | second :: others =>
          if others.length + 1 = count ∧ low ≤ second.toNat ∧ second.toNat ≤ high ∧
              others.all (fun byte => 0x80 ≤ byte.toNat && byte.toNat ≤ 0xBF) = true then count
          else 0

/-- `strings.Map` over what is left of a name, some bytes of which belong to the last character. -/
def mapRunes : Nat -> Bytes -> Bytes
  | _, [] => []
  | skip + 1, _ :: rest => mapRunes skip rest
  | 0, first :: rest => (if isKept first then first else underscore) :: mapRunes
      (following first rest) rest

/-- The name of a task, made compatible with a file system. -/
def fileName (taskName : Bytes) : Bytes :=
  mapRunes 0 taskName

theorem kept_of_mem_mapRunes {byte : UInt8} {skip : Nat} {name : Bytes}
    (member : byte ∈ mapRunes skip name) :
    isKept byte = true := by
  induction name generalizing skip with
  | nil => cases member
  | cons first rest inductionHypothesis =>
      cases skip with
      | succ skip => exact inductionHypothesis member
      | zero =>
          unfold mapRunes at member
          rcases List.mem_cons.mp member with same | later
          · rw [same]
            cases kept : isKept first with
            | true => rw [if_pos rfl, kept]
            | false => rfl
          · exact inductionHypothesis later

theorem slash_not_mem_fileName (taskName : Bytes) : slash ∉ fileName taskName := by
  intro member
  exact absurd (kept_of_mem_mapRunes member) (by decide)

/-- A workunit and its `WorkPath`, which is empty until it is asked for. -/
structure Located where
  id : WorkunitUniqueIdentifier
  workPath : Bytes

/-- The directory in which those of a job lie, and the beginning of their names. -/
def jobPath (root id : Bytes) : Bytes :=
  root ++ slash :: id.take 2 ++ slash :: (id.drop 2).take 2 ++ slash :: (id.drop 4).take
      2 ++ slash :: id

/-- The end of the name. -/
def lastPart (id : WorkunitUniqueIdentifier) : Bytes :=
  underscore :: fileName id.taskName ++ underscore :: Decimal.format id.rank.toInt

/-- `Workunit.Path` under the configured `WORK_PATH`.  A job identifier that is too short cannot be
cut into directories. -/
def path (root : Bytes) (work : Located) : Except Halt (Located × Except Bytes Bytes) :=
  if work.workPath = [] then
    if work.id.jobId = [] then .ok (work, .error (ascii "(Workunit/Path) JobId is missing"))
    else if work.id.jobId.length < 6 then .error .panic
    else
      let workPath := jobPath root work.id.jobId ++ lastPart work.id
      .ok ({ work with workPath }, .ok workPath)
  else .ok (work, .ok work.workPath)

/-- The contents of the files; a directory is empty. -/
abbrev Disk := Bytes -> Option Bytes

/-- The file is the directory or lies in it at some depth. -/
def Under (directory file : Bytes) : Prop :=
  file = directory ∨ (directory ++ [slash]).isPrefixOf file = true

instance (directory file : Bytes) : Decidable (Under directory file) :=
  inferInstanceAs (Decidable (_ ∨ _))

/-- `os.RemoveAll`. -/
def removeAll (disk : Disk) (directory : Bytes) : Disk :=
  fun file => if Under directory file then none else disk file

/-- `os.MkdirAll`. -/
def mkdirAll (disk : Disk) (directory : Bytes) : Disk :=
  fun file => if Under file directory then some ((disk file).getD []) else disk file

/-- `Workunit.Mkdir`. -/
def mkdir (root : Bytes) (work : Located) (disk : Disk) : Except Halt (Disk × Option Bytes) :=
  match path root work with
  | .error halt => .error halt
  | .ok (_, .error err) => .ok (disk, some (ascii "(Workunit/Mkdir) work.Path() returned: " ++ err))
  | .ok (_, .ok workPath) => .ok (mkdirAll (removeAll disk workPath) workPath, none)

/-- `Workunit.RemoveDir`. -/
def removeDir (root : Bytes) (work : Located) (disk : Disk) : Except Halt (Disk × Option Bytes) :=
  match path root work with
  | .error halt => .error halt
  | .ok (_, .error err) => .ok (disk, some err)
  | .ok (_, .ok workPath) => .ok (removeAll disk workPath, none)

theorem format_injective {first second : Int}
    (same : Decimal.format first = Decimal.format second) : first = second := by
  have read := Decimal.parse_format first
  rw [same, Decimal.parse_format] at read
  exact (Option.some.inj read).symm

/-- The rank is what stands behind the last underscore. -/
theorem lastPart_eq_iff (first second : WorkunitUniqueIdentifier) :
    lastPart first = lastPart second ↔
    fileName first.taskName = fileName second.taskName ∧ first.rank = second.rank := by
  constructor
  · intro same
    obtain ⟨rank, name⟩ := rank_of_written (underscore :: fileName first.taskName) first.rank.toInt
    obtain ⟨otherRank, otherName⟩ :=
        rank_of_written (underscore :: fileName second.taskName) second.rank.toInt
    unfold lastPart at same
    rw [same] at rank name
    refine ⟨?_, Int64.toInt_inj.mp (format_injective (rank.symm.trans otherRank))⟩
    exact List.tail_eq_of_cons_eq (name.symm.trans otherName)
  · rintro ⟨name, rank⟩
    unfold lastPart
    rw [name, rank]

theorem slash_not_mem_lastPart (id : WorkunitUniqueIdentifier) : slash ∉ lastPart id := by
  unfold lastPart
  intro member
  rcases List.mem_append.mp member with name | number
  · rcases List.mem_cons.mp name with same | inside
    · exact absurd same (by decide)
    · exact slash_not_mem_fileName _ inside
  · rcases List.mem_cons.mp number with same | inside
    · exact absurd same (by decide)
    · exact Decimal.not_mem_format (Or.inl (by decide)) (by decide) _ inside

/-- A part without slashes in front of a slash is found again. -/
theorem part_eq_of_common {first second rest : Bytes} (free : slash ∉ first)
    (other : slash ∉ second) (begins : first ++ [slash] <+: second ++ slash :: rest) :
    first = second := by
  rcases begins with ⟨tail, whole⟩
  rw [List.append_assoc, List.singleton_append] at whole
  have parts := congrArg (List.splitOn slash) whole
  rw [List.splitOn_append_cons_self_of_not_mem free, List.splitOn_append_cons_self_of_not_mem other]
      at parts
  exact List.head_eq_of_cons_eq parts

/-- In different directories of one job there are different files. -/
theorem not_under_both {front first second file : Bytes} (free : slash ∉ first)
    (other : slash ∉ second) (different : first ≠ second) (inside : Under (front ++ second) file) :
    ¬Under (front ++ first) file := by
  unfold Under at inside ⊢
  rw [List.isPrefixOf_iff_prefix, List.append_assoc] at inside ⊢
  rintro (same | begins)
  · rw [same] at inside
    rcases inside with equal | inner
    · exact different (List.append_cancel_left equal)
    · have member : slash ∈ first := by
        refine ((List.prefix_append_right_inj front).mp inner).subset ?_
        exact List.mem_append_right _ (List.mem_singleton_self slash)
      exact free member
  · rcases inside with equal | inner
    · rw [equal] at begins
      have member : slash ∈ second := by
        refine ((List.prefix_append_right_inj front).mp begins).subset ?_
        exact List.mem_append_right _ (List.mem_singleton_self slash)
      exact other member
    · rcases inner with ⟨rest, whole⟩
      rw [<- whole, List.append_assoc, List.append_assoc, List.prefix_append_right_inj] at begins
      exact different (part_eq_of_common free other begins)

/-! ## Two workunits of a job -/

/-- Both workunits have a directory, they are not the same, and neither making nor removing the
first one touches anything in the second. -/
def Apart (root : Bytes) (first second : Located) : Prop :=
  Exists fun ours => Exists fun theirs => Exists fun directory => Exists fun otherDirectory =>
    path root first = .ok (ours, .ok directory) ∧
        path root second = .ok (theirs, .ok otherDirectory) ∧
      directory ≠ otherDirectory ∧
      forall disk after err, (mkdir root first disk = .ok (after, err) ∨
          removeDir root first disk = .ok (after, err)) ->
        forall file, Under otherDirectory file -> after file = disk file

theorem path_of_fresh {root : Bytes} {work : Located} (fresh : work.workPath = [])
    (long : 6 ≤ work.id.jobId.length) :
    path root work = .ok (⟨work.id, jobPath root work.id.jobId ++ lastPart work.id⟩,
      .ok (jobPath root work.id.jobId ++ lastPart work.id)) := by
  have some : work.id.jobId ≠ [] := by
    intro empty
    rw [empty] at long
    exact absurd long (by decide)
  unfold path
  rw [if_pos fresh, if_neg some, if_neg (by omega)]

/-- A job identifier that is too short to be cut gives no directory. -/
theorem long_of_path {root directory : Bytes} {work after : Located} (fresh : work.workPath = [])
    (given : path root work = .ok (after, .ok directory)) : 6 ≤ work.id.jobId.length := by
  unfold path at given
  rw [if_pos fresh] at given
  by_cases empty : work.id.jobId = []
  · rw [if_pos empty] at given
    cases given
  rw [if_neg empty] at given
  by_cases short : work.id.jobId.length < 6
  · rw [if_pos short] at given
    cases given
  · omega

/-- What lies above a directory is not under another one that the directory is not under. -/
theorem not_above {directory otherDirectory file : Bytes}
    (outside : forall file, Under otherDirectory file ->
    ¬Under directory file) (outside' : forall file, Under directory file ->
        ¬Under otherDirectory file)
    (inside : Under otherDirectory file) : ¬Under directory file ∧ ¬Under file directory := by
  refine ⟨outside file inside, fun above => ?_⟩
  refine outside' directory (Or.inl rfl) ?_
  rcases above with same | begins
  · rw [same]
    exact inside
  · rw [List.isPrefixOf_iff_prefix] at begins
    right
    rw [List.isPrefixOf_iff_prefix]
    rcases inside with same | inner
    · rw [<- same]
      exact begins
    · rw [List.isPrefixOf_iff_prefix] at inner
      exact inner.trans ((List.prefix_append file [slash]).trans begins)

/-- Two workunits of one job have different directories, which do not touch each other, exactly if
the ranks differ or the names still differ as parts of a path.  Every character that is not a word
character becomes an underscore in the path, and making the directory of one workunit deletes that
of another with the same path. -/
theorem workPaths_apart_iff {root : Bytes} {first second : Located}
    (sameJob : first.id.jobId = second.id.jobId) (fresh : first.workPath = [])
    (otherFresh : second.workPath = []) : Apart root first second ↔
      6 ≤ first.id.jobId.length ∧
        (fileName first.id.taskName ≠ fileName second.id.taskName ∨
            first.id.rank ≠ second.id.rank) := by
  constructor
  · rintro ⟨ours, theirs, directory, otherDirectory, given, otherGiven, different, _⟩
    have long := long_of_path fresh given
    refine ⟨long, ?_⟩
    rw [path_of_fresh fresh long] at given
    rw [path_of_fresh otherFresh (sameJob ▸ long)] at otherGiven
    cases given
    cases otherGiven
    rw [<- sameJob] at different
    by_contra alike
    push Not at alike
    exact different (congrArg _ ((lastPart_eq_iff _ _).mpr alike))
  · rintro ⟨long, differ⟩
    have parts : lastPart first.id ≠ lastPart second.id := by
      intro same
      rcases (lastPart_eq_iff _ _).mp same with ⟨name, rank⟩
      exact differ.elim (fun names => names name) fun ranks => ranks rank
    have given := @path_of_fresh root first fresh long
    have otherGiven := @path_of_fresh root second otherFresh (sameJob ▸ long)
    rw [<- sameJob] at otherGiven
    refine ⟨_, _, _, _, given, otherGiven, fun same => parts (List.append_cancel_left same), ?_⟩
    have free := slash_not_mem_lastPart first.id
    have otherFree := slash_not_mem_lastPart second.id
    intro disk after err done file inside
    obtain ⟨outside, above⟩ := not_above (fun _ => not_under_both free otherFree parts)
      (fun _ => not_under_both otherFree free parts.symm) inside
    unfold mkdir removeDir at done
    rw [given] at done
    rcases done with made | removed
    · cases made
      unfold mkdirAll removeAll
      rw [if_neg above, if_neg outside]
    · cases removed
      unfold removeAll
      rw [if_neg outside]

/-- What was in the directory is gone. -/
theorem gone_of_mkdir (disk : Disk) (directory name : Bytes) :
    mkdirAll (removeAll disk directory) directory (directory ++ slash :: name) = none := by
  have inside : Under directory (directory ++ slash :: name) := by
    right
    rw [List.isPrefixOf_iff_prefix, List.prefix_append_right_inj]
    exact ⟨name, rfl⟩
  have below : ¬Under (directory ++ slash :: name) directory := by
    unfold Under
    rw [List.isPrefixOf_iff_prefix]
    rintro (same | begins)
    · have length := congrArg List.length same
      rw [List.length_append, List.length_cons] at length
      omega
    · have length := begins.length_le
      rw [List.length_append, List.length_append, List.length_cons] at length
      omega
  unfold mkdirAll removeAll
  rw [if_neg below, if_pos inside]

private def numberedJob : Bytes := ascii "6ba7b810-9dad-41d1-80b4-00c04fd430c8"

private def stepCalled (name : String) (rank : Int64) : Located :=
  ⟨⟨⟨ascii name, numberedJob⟩, rank⟩, []⟩

/-- Two workunits of one task lie apart. -/
theorem workPaths_apart_iff_ranks :
    Apart (ascii "/mnt/data/awe/work") (stepCalled "#main/a" 1) (stepCalled "#main/a" 2) :=
  (@workPaths_apart_iff _ (stepCalled "#main/a" 1) (stepCalled "#main/a" 2) rfl rfl rfl).mpr
    ⟨by decide, Or.inr (by decide)⟩

/-- The step `b` of a subworkflow `a` and a step `a_b` share a directory: what one of them wrote is
gone when the other one begins. -/
theorem nested_step_shares_directory :
    (stepCalled "#main/a/b" 0).id ≠ (stepCalled "#main/a_b" 0).id ∧
    Exists fun work => Exists fun other => Exists fun directory =>
      path (ascii "/work") (stepCalled "#main/a/b" 0) = .ok (work, .ok directory) ∧
      path (ascii "/work") (stepCalled "#main/a_b" 0) = .ok (other, .ok directory) ∧
      forall disk, Exists fun after => mkdir (ascii "/work") (stepCalled "#main/a/b" 0) disk = .ok
          (after, none) ∧
        after (directory ++ ascii "/result") = none := by
  have given := @path_of_fresh (ascii "/work") (stepCalled "#main/a/b" 0) rfl (by decide)
  have otherGiven := @path_of_fresh (ascii "/work") (stepCalled "#main/a_b" 0) rfl (by decide)
  have same : lastPart (stepCalled "#main/a/b" 0).id = lastPart (stepCalled "#main/a_b" 0).id := by
    decide
  rw [<- same] at otherGiven
  refine ⟨by decide, _, _, _, given, otherGiven, fun disk => ?_⟩
  unfold mkdir
  rw [given]
  exact ⟨_, rfl, gone_of_mkdir disk _ (ascii "result")⟩

end WorkPath
end Identifiers
end Core
end Awe
