import Awe.Core.Scheduling
import Awe.Lib.EvenSplit

namespace Awe
namespace Core

open Lib

/-!
# Splitting the data of a task

A task of the old style can ask for several workunits that share one input
file.  `InitPartIndex` decides on the server how many there will be and writes
a partition into the task; `Part` computes on the worker which records of the
indexed file are its own.  The two have only the numbers in the partition and
in the workunit in common.

The task is looked at here with its partition, of which the scheduling needs
the presence only.  `initPartIndex_views` says that both show the same thing.

No document that is sent in can contain a partition, because the field is left
out of the JSON of a task.  A task gets its first one from `InitPartIndex`.
-/

/-- `PartInfo`. -/
structure PartInfo where
  input : String
  index : String
  totalIndex : Int
  maxPartSizeMB : Int
  options : String
  deriving DecidableEq, Repr

/-- `DEFAULT_INDEX` and `DEFAULT_CHUNK_SIZE` of the configuration. -/
def defaultIndex : String := "chunkrecord"
def defaultChunkSize : Int := 1048576 * 1

/-- The part of a task that decides how its data are split. The inputs are given by their file
names; `none` is the nil slice. The other fields of a task have no say in it, and leaving them out
keeps the statements about all tasks short. -/
structure Sizing where
  workflowInstanceID : String
  inputs : Option (List String)
  totalWork : Int
  maxWorkSize : Int
  remainWork : Int
  partition : Option PartInfo
  deriving DecidableEq, Repr

/-- The fields of a workunit that `Part` reads. -/
structure Piece where
  rank : Int
  totalWork : Int
  partition : Option PartInfo
  deriving DecidableEq, Repr

/-- `IndexFile` for an input, given by its place in the list, and an index: the
number of units. -/
abbrev IndexFile := Nat -> String -> Except String Nat

namespace Sizing

/-- The input with the given file name; the loop keeps the last one. -/
def partitionInput (inputs : List String) (wanted : String) : Option Nat :=
  ((List.range inputs.length).filter fun place => inputs[place]? = some wanted).getLast?

/-- `task.checkPartIndex`: the partition and the number of units, or nothing for a
single workunit. -/
def checkPartIndex (indexFile : IndexFile) (task : Sizing) :
    Except String (Option (PartInfo × Nat)) :=
  match task.inputs with
  | none => .error "(checkPartIndex) no inputs found"
  | some [] => .error "(checkPartIndex) array task.Inputs empty"
  | some (first :: others) =>
      let index := match task.partition with
        | some partition => if partition.index ≠ "" then partition.index else defaultIndex
        | none => defaultIndex
      let chosen : Option Nat := match others, task.partition with
        | [], _ => some 0
        | _ :: _, some partition => if partition.input ≠ "" then
            partitionInput (first :: others) partition.input else none
        | _ :: _, none => none
      match chosen with
      | none => .ok none
      | some place =>
          match indexFile place index with
          | .error _ => .ok none
          | .ok units => .ok (some
              (⟨(first :: others)[place]?.getD "", index, 0, task.maxWorkSize, ""⟩, units))

/-- A write of one field behind `dbUpdateJobTaskFields`, which refuses a task of a workflow
instance.  The write to the document of the job is taken to succeed for every other task:
when it does not, the setter returns the error and keeps the field, as it does here for the
refusal. -/
def update (task : Sizing) (refusal : String) (change : Sizing -> Sizing) : Sizing × Err :=
  if task.workflowInstanceID ≠ "" then (task, some refusal) else (change task, none)

/-- `task.SetRemainWork`. -/
def setRemainWork (task : Sizing) (num : Int) : Sizing × Err :=
  task.update ("(task/SetRemainWork) dbUpdateJobTaskInt returned: (dbUpdateJobTaskInt) " ++
      Store.notSupported)
    fun task => { task with remainWork := num }

/-- `task.setTotalWork`. -/
def setTotalWork (task : Sizing) (num : Int) : Sizing × Err :=
  match task.update ("(task/setTotalWork) dbUpdateJobTaskInt returned: (dbUpdateJobTaskInt) " ++
      Store.notSupported)
      fun task => { task with totalWork := num } with
  | (task, some err) => (task, some err)
  | (task, none) => task.setRemainWork num

/-- `task.setPartition`. -/
def setPartition (task : Sizing) (partition : Option PartInfo) : Sizing × Err :=
  task.update
    ("(task/setPartition) dbUpdateJobTaskPartition returned: (dbUpdateJobTaskPartition) " ++
        Store.notSupported)
    fun task => { task with partition }

/-- `task.setMaxWorkSize`. -/
def setMaxWorkSize (task : Sizing) (num : Int) : Sizing × Err :=
  task.update ("(task/setMaxWorkSize) dbUpdateJobTaskInt returned: (dbUpdateJobTaskInt) " ++
      Store.notSupported)
    fun task => { task with maxWorkSize := num }

/-- `task.setSingleWorkunit`. -/
def setSingleWorkunit (task : Sizing) : Sizing × Err :=
  let total := if task.totalWork ≠ 1 then task.setTotalWork 1 else (task, none)
  match total with
  | (task, some err) => (task, some ("(task/setSingleWorkunit) setTotalWork returned: " ++ err))
  | (task, none) =>
      let partition := if task.partition.isSome then task.setPartition none else (task, none)
      match partition with
      | (task, some err) => (task, some ("(task/setSingleWorkunit) setPartition returned: " ++ err))
      | (task, none) =>
          let size := if task.maxWorkSize ≠ 0 then task.setMaxWorkSize 0 else (task, none)
          match size with
          | (task, some err) =>
              (task, some ("(task/setSingleWorkunit) setMaxWorkSize returned: " ++ err))
          | (task, none) => (task, none)

/-- `task.InitPartIndex`. -/
def initPartIndex (indexFile : IndexFile) (task : Sizing) : Sizing × Err :=
  if task.totalWork = 1 ∧ task.maxWorkSize = 0 then (task, none)
  else
    match task.checkPartIndex indexFile with
    | .error err => (task, some err)
    | .ok none => task.setSingleWorkunit
    | .ok (some (newPartition, units)) =>
        let chunkmb := defaultChunkSize.tdiv 1048576
        let wanted := Store.wantedWork (units * chunkmb) newPartition.maxPartSizeMB task.totalWork
        let sized :=
          if newPartition.maxPartSizeMB > 0 ∧ wanted ≠ task.totalWork then task.setTotalWork wanted
          else (task, none)
        match sized with
        | (task, some err) => (task, some err)
        | (task, none) =>
            let totalunits : Int := if units = 0 then 1 else units
            let bounded :=
              if totalunits < task.totalWork then task.setTotalWork totalunits else (task, none)
            match bounded with
            | (task, some err) => (task, some err)
            | (task, none) =>
                if task.totalWork = 1 then task.setSingleWorkunit
                else task.setPartition (some { newPartition with totalIndex := totalunits })

/-- The workunits of `task.CreateWorkunits`, as far as their data go. -/
def createWorkunits (task : Sizing) : Except String (List Piece) :=
  if task.totalWork = 0 then .error "(CreateWorkunits) task.TotalWork == 0"
  else if task.totalWork = 1 then .ok [⟨0, task.totalWork, task.partition⟩]
  else .ok ((List.range task.totalWork.toNat).map fun i =>
      ⟨(i + 1 : Nat), task.totalWork, task.partition⟩)

end Sizing

namespace Piece

/-- The range that `Part` computes: the first and the last record. -/
def range (totalIndex totalWork rank : Int) : Int × Int :=
  let partsize := totalIndex.tdiv totalWork
  let remainder := totalIndex.tmod totalWork
  if rank ≤ remainder then
    let start := (partsize + 1) * (rank - 1) + 1
    (start, start + partsize)
  else
    let start := (partsize + 1) * remainder + partsize * (rank - remainder - 1) + 1
    (start, start + partsize - 1)

/-- How a range is printed. -/
def rangeText (range : Int × Int) : String :=
  if range.1 = range.2 then toString range.1 else toString range.1 ++ "-" ++ toString range.2

/-- `workunit.Part`.  A nil partition is dereferenced, and the division panics at zero. -/
def part (piece : Piece) : Except Halt String :=
  if piece.rank = 0 then .ok ""
  else
    match piece.partition with
    | none => .error .panic
    | some partition =>
        if piece.totalWork = 0 then .error .panic
        else .ok (rangeText (range partition.totalIndex piece.totalWork piece.rank))

/-- The ranges are those of an even split. -/
theorem range_eq {totalIndex : Int} (enough : 0 ≤ totalIndex) (totalWork rank : Int) :
    range totalIndex totalWork rank =
      (EvenSplit.bound totalIndex totalWork (rank - 1) + 1,
          EvenSplit.bound totalIndex totalWork rank) := by
  have share : totalIndex.tdiv totalWork = totalIndex / totalWork :=
      Int.tdiv_eq_ediv_of_nonneg enough
  have rest : totalIndex.tmod totalWork = totalIndex % totalWork :=
      Int.tmod_eq_emod_of_nonneg enough
  unfold range EvenSplit.bound
  rw [share, rest]
  generalize totalIndex / totalWork = q
  generalize totalIndex % totalWork = r
  dsimp only
  split
  · next small =>
      rw [min_eq_left (show rank - 1 ≤ r by omega), min_eq_left small, Prod.mk.injEq]
      constructor <;> ring
  · next large =>
      rw [min_eq_right (show r ≤ rank - 1 by omega), min_eq_right (show r ≤ rank by omega),
          Prod.mk.injEq]
      constructor <;> ring

end Piece

namespace Sizing

/-! ## What `InitPartIndex` leaves -/

section

variable {task : Sizing} (oldStyle : task.workflowInstanceID = "")

include oldStyle

theorem setTotalWork_eq (num : Int) :
    task.setTotalWork num = ({ task with totalWork := num, remainWork := num }, none) := by
  simp only [setTotalWork, setRemainWork, update, oldStyle, ne_eq, not_true_eq_false, if_false]

theorem setSingleWorkunit_eq : task.setSingleWorkunit =
    ({ task with
        totalWork := 1
        partition := none
        maxWorkSize := 0
        remainWork := if task.totalWork ≠ 1 then 1 else task.remainWork }, none) := by
  rcases task with ⟨workflowInstanceID, inputs, totalWork, maxWorkSize, remainWork, partition⟩
  dsimp only at oldStyle
  subst oldStyle
  unfold setSingleWorkunit
  by_cases one : totalWork = 1
  · subst one
    by_cases zero : maxWorkSize = 0
    · cases partition <;> simp [setPartition, update, zero]
    · cases partition <;> simp [setPartition, setMaxWorkSize, update, zero]
  · by_cases zero : maxWorkSize = 0
    · cases partition <;> simp [setTotalWork_eq, setPartition, update, one, zero]
    · cases partition <;> simp [setTotalWork_eq, setPartition, setMaxWorkSize, update, one, zero]

end

/-- What a new number of workunits leaves alone. The remaining work follows the total, or neither
has changed. -/
structure Keeps (task after : Sizing) : Prop where
  workflowInstanceID : after.workflowInstanceID = task.workflowInstanceID
  inputs : after.inputs = task.inputs
  maxWorkSize : after.maxWorkSize = task.maxWorkSize
  remainWork : after.remainWork = after.totalWork ∨
    (after.remainWork = task.remainWork ∧ after.totalWork = task.totalWork)

theorem Keeps.trans {task middle after : Sizing} (first : Keeps task middle)
    (second : Keeps middle after) :
    Keeps task after where
  workflowInstanceID := second.workflowInstanceID.trans first.workflowInstanceID
  inputs := second.inputs.trans first.inputs
  maxWorkSize := second.maxWorkSize.trans first.maxWorkSize
  remainWork := by
    rcases second.remainWork with same | ⟨kept, same⟩
    · exact Or.inl same
    · rw [kept, same]
      exact first.remainWork

theorem setTotalWork_unless {task : Sizing} (oldStyle : task.workflowInstanceID = "") (num : Int)
    (asked : Prop) [Decidable asked] :
    Exists fun after => (if asked then task.setTotalWork num else (task, none)) = (after, none) ∧
      after.totalWork = (if asked then num else task.totalWork) ∧ Keeps task after := by
  by_cases yes : asked
  · rw [if_pos yes, if_pos yes]
    exact ⟨_, setTotalWork_eq oldStyle num, rfl, rfl, rfl, rfl, Or.inl rfl⟩
  · rw [if_neg yes, if_neg yes]
    exact ⟨task, rfl, rfl, rfl, rfl, rfl, Or.inr ⟨rfl, rfl⟩⟩

/-- The number of workunits for an index with the given number of units. -/
def work (units : Nat) (maxPartSizeMB totalWork : Int) : Int :=
  min (if maxPartSizeMB > 0 then Store.wantedWork units maxPartSizeMB totalWork else totalWork)
    (if units = 0 then 1 else units)

/-- Everything that a call without an error can leave behind. -/
structure Indexed (indexFile : IndexFile) (task after : Sizing) : Prop where
  workflowInstanceID : after.workflowInstanceID = task.workflowInstanceID
  inputs : after.inputs = task.inputs
  remainWork : after.remainWork = after.totalWork ∨
    (after.remainWork = task.remainWork ∧ after.totalWork = task.totalWork)
  outcome : (task.totalWork = 1 ∧ task.maxWorkSize = 0 ∧ after = task) ∨
    (after.totalWork = 1 ∧ after.maxWorkSize = 0 ∧ after.partition = none ∧
      (task.checkPartIndex indexFile = .ok none ∨ Exists fun partition => Exists fun units =>
        task.checkPartIndex indexFile = .ok (some (partition, units)) ∧
          work units task.maxWorkSize task.totalWork = 1)) ∨
    Exists fun partition => Exists fun units => task.checkPartIndex indexFile = .ok
        (some (partition, units)) ∧
      after.totalWork = work units task.maxWorkSize task.totalWork ∧ after.totalWork ≠ 1 ∧
      after.maxWorkSize = task.maxWorkSize ∧
      after.partition = some { partition with totalIndex := if units = 0 then 1 else units }

theorem checkPartIndex_maxPartSizeMB {indexFile : IndexFile} {task : Sizing} {partition : PartInfo}
    {units : Nat} (checked : task.checkPartIndex indexFile = .ok (some (partition, units))) :
    partition.maxPartSizeMB = task.maxWorkSize := by
  unfold checkPartIndex at checked
  split at checked
  · cases checked
  · cases checked
  · dsimp only at checked
    split at checked
    · cases checked
    · split at checked
      · cases checked
      · cases checked
        rfl

/-- A single workunit is left. -/
theorem indexed_single {indexFile : IndexFile} {task middle : Sizing}
    (oldStyle : middle.workflowInstanceID = "")
    (workflowInstanceID : middle.workflowInstanceID = task.workflowInstanceID)
    (inputs : middle.inputs = task.inputs) (remainWork : middle.remainWork = middle.totalWork ∨
      (middle.remainWork = task.remainWork ∧ middle.totalWork = task.totalWork))
    (reason : task.checkPartIndex indexFile = .ok none ∨ Exists fun partition => Exists fun units =>
      task.checkPartIndex indexFile = .ok (some (partition, units)) ∧
        work units task.maxWorkSize task.totalWork = 1) :
    Exists fun after => middle.setSingleWorkunit = (after, none) ∧
    Indexed indexFile task after := by
  refine ⟨_, setSingleWorkunit_eq oldStyle, workflowInstanceID, inputs, ?_,
      Or.inr (Or.inl ⟨rfl, rfl, rfl, reason⟩)⟩
  dsimp only
  by_cases one : middle.totalWork = 1
  · rw [if_neg (fun other => other one)]
    rcases remainWork with same | ⟨kept, same⟩
    · exact Or.inl (same.trans one)
    · exact Or.inr ⟨kept, one.symm.trans same⟩
  · rw [if_pos one]
    exact Or.inl rfl

/-- For a task of the old style only the check of the inputs can fail. -/
theorem initPartIndex_spec (indexFile : IndexFile) {task : Sizing}
    (oldStyle : task.workflowInstanceID = "") :
    (Exists fun err => task.checkPartIndex indexFile = .error err ∧
      task.initPartIndex indexFile = (task, some err)) ∨
    (Exists fun after => task.initPartIndex indexFile = (after, none) ∧
        Indexed indexFile task after) := by
  unfold initPartIndex
  split_ifs with early
  · exact Or.inr ⟨task, rfl, rfl, rfl, Or.inr ⟨rfl, rfl⟩, Or.inl ⟨early.1, early.2, rfl⟩⟩
  cases checked : task.checkPartIndex indexFile with
  | error err => exact Or.inl ⟨err, rfl, rfl⟩
  | ok chosen =>
      refine Or.inr ?_
      cases chosen with
      | none => exact indexed_single oldStyle rfl rfl (Or.inr ⟨rfl, rfl⟩) (Or.inl checked)
      | some found =>
          rcases found with ⟨partition, units⟩
          have size := checkPartIndex_maxPartSizeMB checked
          have chunkmb : (units : Int) * defaultChunkSize.tdiv 1048576 = units := by
            have one : defaultChunkSize.tdiv 1048576 = 1 := by decide
            rw [one, mul_one]
          dsimp only
          rw [chunkmb, size]
          -- the number of workunits that the size asks for, and not more than there are units
          obtain ⟨sized, sizedEq, total, sizedKeeps⟩ := setTotalWork_unless oldStyle
            (Store.wantedWork units task.maxWorkSize task.totalWork)
            (task.maxWorkSize > 0 ∧ Store.wantedWork units task.maxWorkSize task.totalWork ≠
            task.totalWork)
          rw [sizedEq]
          dsimp only
          obtain ⟨fitted, fittedEq, least, fittedKeeps⟩ := setTotalWork_unless
            (sizedKeeps.workflowInstanceID.trans oldStyle) (if units = 0 then 1 else (units : Int))
            ((if units = 0 then 1 else (units : Int)) < sized.totalWork)
          rw [fittedEq]
          dsimp only
          have keeps := sizedKeeps.trans fittedKeeps
          have fittedOld : fitted.workflowInstanceID = "" := keeps.workflowInstanceID.trans oldStyle
          have worked : fitted.totalWork = work units task.maxWorkSize task.totalWork := by
            rw [least, total, work]
            split_ifs <;> omega
          by_cases one : fitted.totalWork = 1
          · rw [if_pos one]
            exact indexed_single fittedOld keeps.workflowInstanceID keeps.inputs keeps.remainWork
              (Or.inr ⟨partition, units, checked, worked.symm.trans one⟩)
          · rw [if_neg one]
            refine ⟨{ fitted with
                partition := some { partition with totalIndex := if units = 0 then 1 else units } },
              ?_, keeps.workflowInstanceID, keeps.inputs, keeps.remainWork,
              Or.inr (Or.inr ⟨partition, units, checked, worked, one, keeps.maxWorkSize, rfl⟩)⟩
            unfold setPartition update
            rw [if_neg (fun differs => differs fittedOld), size]

/-! ## The workunits share the data -/

/-- With a bound on the size there are enough workunits for all units, and at least one. -/
theorem wantedWork_spec {units : Nat} {maxPartSizeMB totalWork : Int}
    (bounded : 0 < maxPartSizeMB) :
    1 ≤ Store.wantedWork units maxPartSizeMB totalWork ∧
    totalWork ≤ Store.wantedWork units maxPartSizeMB totalWork ∧
      (units : Int) ≤ Store.wantedWork units maxPartSizeMB totalWork * maxPartSizeMB := by
  have some : (0 : Int) ≤ units := Int.natCast_nonneg units
  have share : (units : Int).tdiv maxPartSizeMB = units / maxPartSizeMB :=
      Int.tdiv_eq_ediv_of_nonneg some
  have rest : (units : Int).tmod maxPartSizeMB = units % maxPartSizeMB :=
      Int.tmod_eq_emod_of_nonneg some
  have division := Int.mul_ediv_add_emod (units : Int) maxPartSizeMB
  have small := Int.emod_lt_of_pos (units : Int) bounded
  have shares : 0 ≤ (units : Int) / maxPartSizeMB := Int.ediv_nonneg some (le_of_lt bounded)
  -- rounding up leaves nothing over
  have ceiling : Exists fun bySize :
      Int => (if (units : Int).tmod maxPartSizeMB = 0 then (units : Int).tdiv maxPartSizeMB
      else (units : Int).tdiv maxPartSizeMB + 1) = bySize ∧ 0 ≤ bySize ∧
          units ≤ bySize * maxPartSizeMB := by
    rw [share, rest]
    refine ⟨_, rfl, ?_, ?_⟩
    · split <;> omega
    · split
      · rw [Int.mul_comm]
        omega
      · rw [add_mul, one_mul, Int.mul_comm]
        omega
  rcases ceiling with ⟨bySize, rounded, nonneg, enough⟩
  have grows {more : Int} (le : bySize ≤ more) : (units : Int) ≤ more * maxPartSizeMB :=
    enough.trans (Int.mul_le_mul_of_nonneg_right le (le_of_lt bounded))
  unfold Store.wantedWork
  dsimp only
  rw [rounded]
  split_ifs <;> refine ⟨by omega, by omega, grows (by omega)⟩

/-- The number of workunits is between one and the number of records, and their size is bounded. -/
theorem work_spec {units : Nat} {maxPartSizeMB totalWork : Int} (positive : 1 ≤ totalWork) :
    1 ≤ work units maxPartSizeMB totalWork ∧
      work units maxPartSizeMB totalWork ≤ (if units = 0 then 1 else (units : Int)) ∧
      (0 < maxPartSizeMB -> (if units = 0 then 1 else (units : Int)) ≤
        work units maxPartSizeMB totalWork * maxPartSizeMB) := by
  have records : (1 : Int) ≤ if units = 0 then 1 else (units : Int) := by
    split <;> omega
  have atMost : (units : Int) ≤ if units = 0 then 1 else (units : Int) := by
    split <;> omega
  unfold work
  refine ⟨?_, min_le_right _ _, ?_⟩
  · apply le_min _ records
    split
    · next bounded => exact (wantedWork_spec bounded).1
    · exact positive
  · intro bounded
    rcases @wantedWork_spec units maxPartSizeMB totalWork bounded with ⟨one, _, enough⟩
    rw [if_pos bounded]
    rcases min_choice (Store.wantedWork units maxPartSizeMB totalWork)
        (if units = 0 then 1 else (units : Int)) with
      wanted | all
    · rw [wanted]
      split
      · have product := Int.mul_le_mul one bounded (by omega) (by omega)
        rw [one_mul] at product
        exact product
      · exact enough
    · rw [all]
      have product := Int.mul_le_mul_of_nonneg_left bounded (show 0 ≤ if units = 0 then 1 else
          (units : Int) by omega)
      rw [zero_add, mul_one] at product
      exact product

/-- What has to hold of the workunits of a task that asked for parts of the given size. The parts
follow one another without a gap from the first record to the last, and no two of them differ by
more than one. -/
structure ExactlySplit (maxWorkSize : Int) (task : Sizing) : Prop where
  created : Exists fun pieces => task.createWorkunits = .ok pieces ∧
      (pieces.length : Int) = task.totalWork ∧
    (task.totalWork = 1 -> pieces = [⟨0, 1, none⟩]) ∧
    (task.totalWork ≠ 1 -> Exists fun partition => task.partition = some partition ∧
      pieces = (List.range task.totalWork.toNat).map
      (fun i => ⟨(i + 1 : Nat), task.totalWork, some partition⟩) ∧
      2 ≤ task.totalWork ∧ task.totalWork ≤ partition.totalIndex ∧
      EvenSplit.Exact partition.totalIndex task.totalWork
          (Piece.range partition.totalIndex task.totalWork) ∧
      (0 < maxWorkSize -> forall rank, 1 ≤ rank -> rank ≤ task.totalWork ->
        ((Piece.range partition.totalIndex task.totalWork rank).2 -
          (Piece.range partition.totalIndex task.totalWork rank).1 + 1) * defaultChunkSize ≤
          maxWorkSize * 1048576) ∧
      forall piece, piece ∈ pieces ->
        piece.part = .ok (Piece.rangeText
            (Piece.range partition.totalIndex task.totalWork piece.rank)))

/-- A task of one workunit without a partition. -/
theorem exactlySplit_single {maxWorkSize : Int} {task : Sizing} (one : task.totalWork = 1)
    (unpartitioned : task.partition = none) : ExactlySplit maxWorkSize task := by
  refine ⟨[⟨0, 1, none⟩], ?_, one.symm, fun _ => rfl, fun other => (other one).elim⟩
  simp only [createWorkunits, one, unpartitioned, one_ne_zero, if_false, if_true]

/-- A task of several workunits with a partition that has enough records. -/
theorem exactlySplit_several {maxWorkSize : Int} {task : Sizing} {partition : PartInfo}
    (several : 2 ≤ task.totalWork) (partitioned : task.partition = some partition)
    (enough : task.totalWork ≤ partition.totalIndex)
    (small : 0 < maxWorkSize -> partition.totalIndex ≤ task.totalWork * maxWorkSize) :
    ExactlySplit maxWorkSize task := by
  have positive : 0 < task.totalWork := by omega
  have nonneg : 0 ≤ partition.totalIndex := by omega
  have ranges : Piece.range partition.totalIndex task.totalWork = fun rank =>
      (EvenSplit.bound partition.totalIndex task.totalWork (rank - 1) + 1,
        EvenSplit.bound partition.totalIndex task.totalWork rank) :=
    funext fun rank => Piece.range_eq nonneg task.totalWork rank
  refine ⟨_, ?_, ?_, fun one => ?_, fun _ =>
      ⟨partition, partitioned, rfl, several, enough, ?_, ?_, ?_⟩⟩
  · unfold createWorkunits
    rw [if_neg (by omega), if_neg (by omega), partitioned]
  · rw [List.length_map, List.length_range]
    exact Int.toNat_of_nonneg (by omega)
  · omega
  · rw [ranges]
    exact EvenSplit.exact_bound positive enough
  · intro bounded rank low high
    have size := EvenSplit.size_le positive (small bounded) low
    rw [ranges]
    dsimp only
    unfold defaultChunkSize
    omega
  · intro piece member
    rcases List.mem_map.mp member with ⟨i, _, rfl⟩
    unfold Piece.part
    dsimp only
    rw [if_neg (by omega), if_neg (by omega)]

/-- The tasks there can be: one is submitted without a partition, and `InitPartIndex` is called
each time it is enqueued, whatever its inputs are by then. -/
inductive Reached : Sizing -> Prop
  | submitted {task : Sizing} (unpartitioned : task.partition = none) (some : 1 ≤ task.totalWork)
      (nonneg : 0 ≤ task.maxWorkSize) : Reached task
  | located {task : Sizing} (inputs : Option (List String)) (before : Reached task) :
      Reached { task with inputs }
  | indexed {task after : Sizing} {indexFile : IndexFile} {err : Err} (before : Reached task)
      (called : task.initPartIndex indexFile = (after, err)) : Reached after

/-- A task of a workflow instance is not written to. -/
theorem initPartIndex_refused (indexFile : IndexFile) {task : Sizing}
    (cwl : task.workflowInstanceID ≠ "") :
    (task.initPartIndex indexFile = (task, none) ∧ task.totalWork = 1 ∧ task.maxWorkSize = 0) ∨
      Exists fun err => task.initPartIndex indexFile = (task, some err) := by
  have refused (refusal : String) (change : Sizing -> Sizing) :
      task.update refusal change = (task, some refusal) :=
    if_pos cwl
  have total (num : Int) : Exists fun err => task.setTotalWork num = (task, some err) :=
    ⟨_, by rw [setTotalWork, refused]⟩
  by_cases early : task.totalWork = 1 ∧ task.maxWorkSize = 0
  · exact Or.inl ⟨if_pos early, early.1, early.2⟩
  have single : Exists fun err => task.setSingleWorkunit = (task, some err) := by
    rcases total 1 with ⟨err, stopped⟩
    unfold setSingleWorkunit
    by_cases one : task.totalWork = 1
    · have sized : task.maxWorkSize ≠ 0 := fun zero => early ⟨one, zero⟩
      rw [if_neg (fun other => other one)]
      dsimp only
      by_cases partitioned : task.partition.isSome
      · rw [if_pos partitioned, setPartition, refused]
        exact ⟨_, rfl⟩
      · rw [if_neg partitioned]
        dsimp only
        rw [if_pos sized, setMaxWorkSize, refused]
        exact ⟨_, rfl⟩
    · rw [if_pos one, stopped]
      exact ⟨_, rfl⟩
  refine Or.inr ?_
  unfold initPartIndex
  rw [if_neg early]
  cases task.checkPartIndex indexFile with
  | error err => exact ⟨err, rfl⟩
  | ok chosen =>
      cases chosen with
      | none => exact single
      | some found =>
          dsimp only
          by_cases wants : found.1.maxPartSizeMB > 0 ∧
              Store.wantedWork (found.2 * defaultChunkSize.tdiv 1048576)
              found.1.maxPartSizeMB task.totalWork ≠ task.totalWork
          · obtain ⟨err, stopped⟩ :=
              total (Store.wantedWork (found.2 * defaultChunkSize.tdiv 1048576)
              found.1.maxPartSizeMB task.totalWork)
            rw [if_pos wants, stopped]
            exact ⟨err, rfl⟩
          · rw [if_neg wants]
            dsimp only
            by_cases few : (if found.2 = 0 then 1 else (found.2 : Int)) < task.totalWork
            · rcases total (if found.2 = 0 then 1 else (found.2 : Int)) with ⟨err, stopped⟩
              rw [if_pos few, stopped]
              exact ⟨err, rfl⟩
            · rw [if_neg few]
              dsimp only
              by_cases one : task.totalWork = 1
              · rw [if_pos one]
                exact single
              · rw [if_neg one, setPartition, refused]
                exact ⟨_, rfl⟩

/-- What is true of every task that can be reached: a single workunit has no partition. -/
structure Sound (task : Sizing) : Prop where
  some : 1 ≤ task.totalWork
  nonneg : 0 ≤ task.maxWorkSize
  unpartitioned : task.totalWork = 1 -> task.maxWorkSize = 0 -> task.partition = none

/-- One call keeps it, and after a call without an error the data are split exactly. -/
theorem sound_initPartIndex {indexFile : IndexFile} {task after : Sizing} {err : Err}
    (sound : Sound task) (called : task.initPartIndex indexFile = (after, err)) :
    Sound after ∧ (err = none -> ExactlySplit task.maxWorkSize after) := by
  by_cases oldStyle : task.workflowInstanceID = ""
  · rcases initPartIndex_spec indexFile oldStyle with ⟨text, _, failed⟩ | ⟨_, done, indexed⟩
    · rw [called] at failed
      cases failed
      exact ⟨sound, nofun⟩
    · rw [called] at done
      cases done
      rcases indexed.outcome with ⟨one, zero, same⟩ | ⟨one, zero, none, _⟩ |
        ⟨partition, units, _, total, several, kept, partitioned⟩
      · rw [same]
        exact ⟨sound, fun _ => exactlySplit_single one (sound.unpartitioned one zero)⟩
      · exact ⟨⟨le_of_eq one.symm, le_of_eq zero.symm, fun _ _ => none⟩, fun _ =>
          exactlySplit_single one none⟩
      · obtain ⟨positive, enough, small⟩ :=
          @work_spec units task.maxWorkSize task.totalWork sound.some
        rw [<- total] at positive enough small
        refine ⟨⟨positive, by rw [kept]; exact sound.nonneg, fun one => (several one).elim⟩,
            fun _ => ?_⟩
        exact exactlySplit_several (by omega) partitioned enough small
  · rcases initPartIndex_refused indexFile oldStyle with ⟨same, one, zero⟩ | ⟨text, failed⟩
    · rw [called] at same
      cases same
      exact ⟨sound, fun _ => exactlySplit_single one (sound.unpartitioned one zero)⟩
    · rw [called] at failed
      cases failed
      exact ⟨sound, nofun⟩

theorem Reached.sound {task : Sizing} (reached : Reached task) : Sound task := by
  induction reached with
  | submitted unpartitioned some nonneg => exact ⟨some, nonneg, fun _ _ => unpartitioned⟩
  | located inputs _ inductionHypothesis =>
      exact ⟨inductionHypothesis.some, inductionHypothesis.nonneg,
          inductionHypothesis.unpartitioned⟩
  | indexed _ called inductionHypothesis => exact (sound_initPartIndex inductionHypothesis called).1

/-- Whatever the input and its index are, `InitPartIndex` leaves a task whose workunits share the
data exactly; and for a task of the old style with an input it does not fail. -/
theorem partition_exact {task : Sizing} (reached : Reached task) (indexFile : IndexFile) :
    (forall after, task.initPartIndex indexFile = (after, none) ->
        ExactlySplit task.maxWorkSize after) ∧
      (task.workflowInstanceID = "" ->
        (Exists fun first => Exists fun others => task.inputs = some (first :: others)) ->
          Exists fun after => task.initPartIndex indexFile = (after, none)) := by
  refine ⟨fun after called => (sound_initPartIndex reached.sound called).2 rfl, ?_⟩
  rintro oldStyle ⟨first, others, inputs⟩
  rcases initPartIndex_spec indexFile oldStyle with ⟨err, failed, _⟩ | ⟨after, done, _⟩
  · unfold checkPartIndex at failed
    rw [inputs] at failed
    dsimp only at failed
    split at failed
    · cases failed
    · split at failed <;> cases failed
  · exact ⟨after, done⟩

/-- Ten records for four workunits. -/
private def tenRecords : Sizing :=
  ⟨"", some ["reads"], 4, 0, 4, none⟩

/-- The four workunits have three, three, two and two of them. -/
theorem partition_exact_ten : Exists fun after =>
    tenRecords.initPartIndex (fun _ _ => .ok 10) = (after, none) ∧ ExactlySplit 0 after ∧
      after.createWorkunits.toOption.map (fun pieces => pieces.map fun piece =>
          piece.part.toOption) =
        some [some "1-3", some "4-6", some "7-8", some "9-10"] := by
  have exact_ := partition_exact (@Reached.submitted tenRecords rfl (by decide) (by decide))
      fun _ _ => .ok 10
  rcases exact_.2 rfl ⟨"reads", [], rfl⟩ with ⟨after, called⟩
  refine ⟨after, called, exact_.1 after called, ?_⟩
  cases called
  decide

/-! ## The same in the model of the scheduling -/

/-- The fields of a task that the split does not concern. -/
def frame (task : Task) : TaskUniqueIdentifier × ProcessType × Option WorkflowStep :=
  (task.ident, task.processType, task.workflowStep)

/-- A stored task and its partition; `origin` is the task as it was before. The two models of a
task have the fields of the partition in common, and this is the relation between them. -/
structure Views (origin task : Task) (sizing : Sizing) : Prop where
  framed : frame task = frame origin
  workflowInstanceID : task.workflowInstanceID = sizing.workflowInstanceID
  totalWork : task.totalWork = sizing.totalWork
  maxWorkSize : task.maxWorkSize = sizing.maxWorkSize
  remainWork : task.remainWork = sizing.remainWork
  partitioned : task.partitioned = sizing.partition.isSome

/-- The same step on both sides. It relates one result of the store with one of the small model,
error for error. -/
structure Agree (origin : Task) (ptr : Nat) (stored : Store × Err) (sized : Sizing × Err) :
    Prop where
  views : Views origin (stored.1.task ptr) sized.1
  err : stored.2 = sized.2

theorem Agree.cases {origin : Task} {ptr : Nat} {stored : Store × Err} {sized : Sizing × Err}
    (agree : Agree origin ptr stored sized) :
    (Exists fun store => Exists fun sizing => Exists fun err => stored = (store, some err) ∧
        sized = (sizing, some err) ∧
      Views origin (store.task ptr) sizing) ∨
    (Exists fun store => Exists fun sizing => stored = (store, none) ∧ sized = (sizing, none) ∧
      Views origin (store.task ptr) sizing) := by
  rcases stored with ⟨store, failed⟩
  rcases sized with ⟨sizing, text⟩
  have same : failed = text := agree.err
  subst same
  cases failed with
  | some err => exact Or.inl ⟨store, sizing, err, rfl, rfl, agree.views⟩
  | none => exact Or.inr ⟨store, sizing, rfl, rfl, agree.views⟩

section

variable {origin : Task} {store : Store} {ptr : Nat} {sizing : Sizing}

/-- A write of one field shows on both sides. -/
theorem Views.update (views : Views origin (store.task ptr) sizing) (refusal : String)
    {change : Task -> Task} {changeSizing : Sizing -> Sizing}
    (same : Views origin (change (store.task ptr)) (changeSizing sizing)) :
    Agree origin ptr (store.updateJobTask ptr refusal change)
        (sizing.update refusal changeSizing) := by
  unfold Store.updateJobTask Sizing.update
  rw [views.workflowInstanceID]
  split
  · exact ⟨views, rfl⟩
  · refine ⟨?_, rfl⟩
    rw [Store.modifyTask_self]
    exact same

/-- A step that is made under a condition, or left out. -/
theorem Views.unless (views : Views origin (store.task ptr) sizing) (asked : Prop) [Decidable asked]
    {stored : Store × Err} {sized : Sizing × Err} (agree : Agree origin ptr stored sized) :
    Agree origin ptr (if asked then stored else (store, none))
        (if asked then sized else (sizing, none)) := by
  by_cases yes : asked
  · rw [if_pos yes, if_pos yes]
    exact agree
  · rw [if_neg yes, if_neg yes]
    exact ⟨views, rfl⟩

theorem Views.setTotalWork (views : Views origin (store.task ptr) sizing) (num : Int) :
    Agree origin ptr (store.setTotalWork ptr num) (sizing.setTotalWork num) := by
  have total := @Views.update origin store ptr sizing views
    ("(task/setTotalWork) dbUpdateJobTaskInt returned: (dbUpdateJobTaskInt) " ++ Store.notSupported)
    (fun task => { task with totalWork := num }) (fun task => { task with totalWork := num })
    ⟨views.framed, views.workflowInstanceID, rfl, views.maxWorkSize, views.remainWork,
        views.partitioned⟩
  unfold Store.setTotalWork Sizing.setTotalWork
  rcases total.cases with ⟨after, sized, err, stored, shown, later⟩
      | ⟨after, sized, stored, shown, later⟩
  · rw [stored, shown]
    exact ⟨later, rfl⟩
  · rw [stored, shown]
    exact later.update _ ⟨later.framed, later.workflowInstanceID, later.totalWork,
        later.maxWorkSize, rfl, later.partitioned⟩

theorem Views.setPartition (views : Views origin (store.task ptr) sizing)
    (partition : Option PartInfo) :
    Agree origin ptr (store.setPartition ptr partition.isSome) (sizing.setPartition partition) :=
  views.update _ ⟨views.framed, views.workflowInstanceID, views.totalWork, views.maxWorkSize,
      views.remainWork, rfl⟩

theorem Views.setSingleWorkunit (views : Views origin (store.task ptr) sizing) :
    Agree origin ptr (store.setSingleWorkunit ptr) sizing.setSingleWorkunit := by
  unfold Store.setSingleWorkunit Sizing.setSingleWorkunit
  rw [views.totalWork]
  dsimp only
  rcases (views.unless (sizing.totalWork ≠ 1) (views.setTotalWork 1)).cases with
    ⟨store, sizing, err, stored, shown, views⟩ | ⟨store, sizing, stored, shown, views⟩
  · rw [stored, shown]
    exact ⟨views, rfl⟩
  rw [stored, shown]
  dsimp only
  rw [views.partitioned]
  rcases (views.unless (sizing.partition.isSome = true) (views.setPartition none)).cases with
    ⟨store, sizing, err, stored, shown, views⟩ | ⟨store, sizing, stored, shown, views⟩
  · rw [Option.isSome_none] at stored
    rw [stored, shown]
    exact ⟨views, rfl⟩
  rw [Option.isSome_none] at stored
  rw [stored, shown]
  dsimp only
  rw [views.maxWorkSize]
  have size : Agree origin ptr (store.setMaxWorkSize ptr 0) (sizing.setMaxWorkSize 0) :=
    views.update _ ⟨views.framed, views.workflowInstanceID, views.totalWork, rfl, views.remainWork,
        views.partitioned⟩
  rcases (views.unless (sizing.maxWorkSize ≠ 0) size).cases with
    ⟨store, sizing, err, stored, shown, views⟩ | ⟨store, sizing, stored, shown, views⟩
  · rw [stored, shown]
    exact ⟨views, rfl⟩
  · rw [stored, shown]
    exact ⟨views, rfl⟩

/-- The answer of `checkPartIndex` in the model of the scheduling. -/
def answer (indexFile : IndexFile) (sizing : Sizing) : Option Int :=
  match sizing.checkPartIndex indexFile with
  | .ok (some (_, units)) => some units
  | _ => none

/-- A task with inputs is treated alike by both. -/
theorem initPartIndex_views {outside : Scheduler} {indexFile : IndexFile}
    (views : Views origin (store.task ptr) sizing)
    (checked : outside.checkPartIndex (store.task ptr) = answer indexFile sizing)
    (located : Exists fun first => Exists fun others => sizing.inputs = some (first :: others)) :
    Agree origin ptr (store.initPartIndex outside ptr) (sizing.initPartIndex indexFile) := by
  rcases located with ⟨first, others, inputs⟩
  unfold Store.initPartIndex Sizing.initPartIndex
  dsimp only
  rw [checked, views.totalWork, views.maxWorkSize]
  split
  · exact ⟨views, rfl⟩
  unfold answer
  cases found : sizing.checkPartIndex indexFile with
  | error err =>
      unfold checkPartIndex at found
      rw [inputs] at found
      dsimp only at found
      split at found
      · cases found
      · split at found <;> cases found
  | ok chosen =>
      cases chosen with
      | none => exact views.setSingleWorkunit
      | some pair =>
          rcases pair with ⟨partition, units⟩
          have size := checkPartIndex_maxPartSizeMB found
          have chunkmb : (units : Int) * defaultChunkSize.tdiv 1048576 = units := by
            have one : defaultChunkSize.tdiv 1048576 = 1 := by decide
            rw [one, mul_one]
          dsimp only
          rw [chunkmb, size]
          rcases (views.unless (sizing.maxWorkSize > 0 ∧
              Store.wantedWork units sizing.maxWorkSize sizing.totalWork ≠ sizing.totalWork)
              (views.setTotalWork (Store.wantedWork units sizing.maxWorkSize
                  sizing.totalWork))).cases with
            ⟨store, sizing, err, stored, shown, views⟩ | ⟨store, sizing, stored, shown, views⟩
          · rw [stored, shown]
            exact ⟨views, rfl⟩
          rw [stored, shown]
          have zero : ((units : Int) = 0) = (units = 0) := by rw [Int.natCast_eq_zero]
          simp only [zero]
          rw [views.totalWork]
          rcases (views.unless ((if units = 0 then 1 else (units : Int)) < sizing.totalWork)
              (views.setTotalWork (if units = 0 then 1 else (units : Int)))).cases with
            ⟨store, sizing, err, stored, shown, views⟩ | ⟨store, sizing, stored, shown, views⟩
          · rw [stored, shown]
            exact ⟨views, rfl⟩
          rw [stored, shown]
          dsimp only
          rw [views.totalWork]
          split
          · exact views.setSingleWorkunit
          · exact views.setPartition (some _)

end

end Sizing

end Core
end Awe
