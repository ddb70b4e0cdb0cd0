import Awe.Core.Partition
import Awe.Core.CheckoutAccounting
import Awe.Lib.Fallible

namespace Awe
namespace Core

open Lib Checkout

/-!
# The workunits of an enqueued task

`taskEnQueue` makes workunits out of a task of the old style as its document
asked for them.  The numbers in the document are normalised in four places:
`InitRaw` replaces a zero, `taskEnQueue` calls `InitPartIndex` if there are
inputs, `InitPartIndex` adjusts the number of workunits to the data, and
`CreateWorkunits` refuses a zero.  A negative number passes all four, and
without inputs nothing looks at the number of workunits and at the partition.
-/

namespace Sizing

/-- What `taskEnQueue` does to the fields of a task before the workunits are made: a marked
task is reset, and one with inputs is indexed. -/
def prepared (indexFile : IndexFile) (reset : Bool) (task : Sizing) : Sizing × Err :=
  let task := if reset then { task with remainWork := task.totalWork } else task
  match task.inputs with
  | some (_ :: _) => task.initPartIndex indexFile
  | _ => (task, none)

/-- The answers from outside that concern the inputs of the task. Two functions look at the
inputs, and they have to be told the same. -/
structure Answers (outside : Scheduler) (indexFile : IndexFile) (sizing : Sizing) : Prop where
  located : forall task, (outside.locateInputs task).1 ≠ [] ↔
    Exists fun first => Exists fun others => sizing.inputs = some (first :: others)
  indexed : forall task, outside.checkPartIndex task = answer indexFile sizing

section

variable {origin : Task} {outside : Scheduler} {indexFile : IndexFile} {sizing : Sizing} {ptr : Nat}

theorem Answers.of_inputs {other : Sizing} (answers : Answers outside indexFile sizing)
    (inputs : other.inputs = sizing.inputs) (maxWorkSize : other.maxWorkSize = sizing.maxWorkSize)
    (partition : other.partition = sizing.partition) : Answers outside indexFile other := by
  refine ⟨fun task => by rw [inputs]; exact answers.located task, fun task => ?_⟩
  rw [answers.indexed task]
  unfold answer checkPartIndex
  rw [inputs, partition, maxWorkSize]

/-- A task that is marked gets back the work it had. -/
theorem views_setResetTask {store after : Store} (views : Views origin (store.task ptr) sizing)
    (oldStyle : sizing.workflowInstanceID = "") {info : Info}
    (done : store.setResetTask outside ptr info = (after, none)) :
    Views origin (after.task ptr)
      (if (store.task ptr).resetTask then { sizing with remainWork := sizing.totalWork }
          else sizing) := by
  unfold Store.setResetTask at done
  split at done
  · next unmarked =>
      cases done
      rw [unmarked]
      exact views
  · next marked =>
      have flag : (store.task ptr).resetTask = true := by simpa using marked
      rw [if_pos flag]
      generalize opened : (store.modifyTask ptr fun task =>
          { task with info := some (task.info.getD info) }) = first at done
      have shown : Views origin (first.task ptr) sizing := by
        rw [<- opened, Store.modifyTask_self]
        exact ⟨views.framed, views.workflowInstanceID, views.totalWork, views.maxWorkSize,
            views.remainWork,
          views.partitioned⟩
      have stays : (first.task ptr).workflowInstanceID = "" :=
          shown.workflowInstanceID.trans oldStyle
      simp only [Store.setRemainWork, Store.updateJobTask, stays, ne_eq, not_true_eq_false,
          if_false] at done
      split at done
      · cases done
      · cases done
        rw [Store.modifyTask_self, Store.modifyTask_self, Store.modifyTask_self]
        exact ⟨shown.framed, shown.workflowInstanceID, shown.totalWork, shown.maxWorkSize,
            shown.totalWork,
          shown.partitioned⟩

/-- `prepare` does to a task of the old style what `prepared` says, and touches no workunit. -/
theorem views_prepare {qm after : ServerMgr} {job : Job}
    (views : Views origin (qm.store.task ptr) sizing) (answers : Answers outside indexFile sizing)
    (oldStyle : sizing.workflowInstanceID = "") (plain : origin.workflowStep = none)
    (done : qm.prepare outside job ptr = (after, none)) :
    Exists fun sized => sizing.prepared indexFile (qm.store.task ptr).resetTask = (sized, none) ∧
      Views origin (after.store.task ptr) sized ∧ after.cq = qm.cq ∧
          after.actJobs = qm.actJobs := by
  unfold ServerMgr.prepare at done
  split at done
  · cases done
  next store reset =>
  have marked := views_setResetTask views oldStyle reset
  unfold prepared
  generalize kept : (if (qm.store.task ptr).resetTask then
      { sizing with remainWork := sizing.totalWork } else sizing) =
    current at marked ⊢
  have inputs : current.inputs = sizing.inputs := by
    rw [<- kept]
    split <;> rfl
  have asked : Answers outside indexFile current := answers.of_inputs inputs
    (by rw [<- kept]; split <;> rfl) (by rw [<- kept]; split <;> rfl)
  have step : (store.task ptr).workflowStep = none :=
      (congrArg (fun fields => fields.2.2) marked.framed).trans plain
  unfold ServerMgr.locateInputs at done
  rw [if_neg (fun both => by rw [step] at both; cases both.1)] at done
  dsimp only at done
  split at done
  · cases done
  next located found =>
  rcases Prod.mk.inj found with ⟨rfl, _⟩
  have shown : Views origin ((store.modifyTask ptr fun task =>
      { task with inputs := (outside.locateInputs (store.task ptr)).1 }).task ptr) current := by
    rw [Store.modifyTask_self]
    exact ⟨marked.framed, marked.workflowInstanceID, marked.totalWork, marked.maxWorkSize,
        marked.remainWork,
      marked.partitioned⟩
  have sizes : ((store.modifyTask ptr fun task =>
      { task with inputs := (outside.locateInputs (store.task ptr)).1 }).task ptr).inputs =
        (outside.locateInputs (store.task ptr)).1 := by
    rw [Store.modifyTask_self]
  generalize (store.modifyTask ptr fun task =>
    { task with inputs := (outside.locateInputs (store.task ptr)).1 }) = store' at shown sizes done
  rw [sizes] at done
  have there := asked.located (store.task ptr)
  -- the task is indexed on both sides, or on neither
  have agree : Agree origin ptr
      (if (outside.locateInputs (store.task ptr)).1 = [] then (store', none) else
          store'.initPartIndex outside ptr)
      (match current.inputs with
        | some (_ :: _) => current.initPartIndex indexFile
        | _ => (current, none)) := by
    by_cases empty : (outside.locateInputs (store.task ptr)).1 = []
    · rw [if_pos empty]
      split
      · next first others same => exact (there.mpr ⟨first, others, same⟩ empty).elim
      · exact ⟨shown, rfl⟩
    · rw [if_neg empty]
      rcases there.mp empty with ⟨first, others, same⟩
      have indexed := initPartIndex_views shown (asked.indexed _) ⟨first, others, same⟩
      rw [same]
      exact indexed
  rcases agree.cases with ⟨last, sized, err, stored, told, _⟩ | ⟨last, sized, stored, told, later⟩
  · rw [stored] at done
    cases done
  · rw [stored] at done
    dsimp only at done
    split at done
    · cases done
    · cases done
      exact ⟨sized, told, later, rfl, rfl⟩

end

end Sizing

namespace ServerMgr

/-! ## The workunits in the queue -/

section

variable {outside : Scheduler} {qm after : ServerMgr}

/-- A new workunit is queued under its identifier. -/
theorem addWorkunit_lookup (ok : QueueOk qm.cq.workQueue) {workunit : Workunit}
    (named : workunit.globalId ≠ "") (printable : workunit.ident.Printable)
    (fresh : workunit.state = workStatInit) :
    (qm.addWorkunit workunit).2 = none ∧ QueueOk (qm.addWorkunit workunit).1.cq.workQueue ∧
      (qm.addWorkunit workunit).1.store = qm.store ∧
      (forall id, ((qm.addWorkunit workunit).1.cq.workQueue.all.lookup id).isSome ↔
        id = workunit.ident ∨ (qm.cq.workQueue.all.lookup id).isSome) ∧
      (forall id, ((qm.addWorkunit workunit).1.cq.workQueue.queue.lookup id).isSome ↔
        id = workunit.ident ∨ (qm.cq.workQueue.queue.lookup id).isSome) := by
  have kept : QueueOk (qm.addWorkunit workunit).1.cq.workQueue := ok.add workunit
  unfold addWorkunit at kept ⊢
  dsimp only at kept ⊢
  have object : (qm.cq.workQueue.alloc workunit).1.work (qm.cq.workQueue.alloc workunit).2 =
      workunit :=
    Function.update_self ..
  have within : (qm.cq.workQueue.alloc workunit).1.Within .queue fun _ => True :=
      ok.queue.alloc ok.stored workunit
  have all : (qm.cq.workQueue.alloc workunit).1.all = qm.cq.workQueue.all := rfl
  have queue : (qm.cq.workQueue.alloc workunit).1.sub .queue = qm.cq.workQueue.sub .queue :=
      WorkQueue.alloc_sub workunit
  generalize (qm.cq.workQueue.alloc workunit).1 = wq at kept object within all queue ⊢
  generalize (qm.cq.workQueue.alloc workunit).2 = ptr at kept object ⊢
  have added := @WorkQueue.add_eq wq ptr (by rw [object]; exact named)
      (by rw [object]; exact printable)
  have state : ((wq.replace ptr).work ptr).state ≠ workStatQueued := by
    rw [WorkQueue.replace_work, object, fresh]
    decide
  rw [WorkQueue.moveTo_eq, if_neg state, if_neg (by decide), WorkQueue.replace_work, object]
      at added
  rw [added] at kept ⊢
  refine ⟨rfl, kept, rfl, fun id => ?_, fun id => ?_⟩
  · have placed : ((wq.replace ptr).placed workunit.ident ptr workStatQueued "").all =
      (wq.replace ptr).all := rfl
    dsimp only
    rw [placed, WorkQueue.replace_all_lookup, object, all]
    by_cases own : id = workunit.ident
    · rw [if_pos own]
      exact iff_of_true rfl (Or.inl own)
    · rw [if_neg own]
      simp only [own, false_or]
  · have filed := WorkQueue.placed_sub_lookup (wq.replace ptr) ptr workStatQueued "" .queue
      workunit.ident id
    have cleared := WorkQueue.replace_sub_lookup within ptr id
    dsimp only
    change (((wq.replace ptr).placed workunit.ident ptr workStatQueued "").sub .queue |>.lookup
        id).isSome ↔ _
    rw [filed]
    by_cases own : id = workunit.ident
    · have home : workStatQueued = SubMap.queue.home := rfl
      rw [if_pos own, if_pos home]
      exact iff_of_true rfl (Or.inl own)
    · rw [object, if_neg own, queue] at cleared
      rw [if_neg own, cleared]
      simp only [own, false_or]
      exact Iff.rfl

/-- All new workunits are queued, unless there is an error. -/
theorem enqueueWorkunits_lookup {workunits : List Workunit} (ok : QueueOk qm.cq.workQueue)
    (named : forall workunit, workunit ∈ workunits -> workunit.globalId ≠ "" ∧
    workunit.ident.Printable ∧
      workunit.state = workStatInit)
          (done : enqueueWorkunits outside qm workunits = (after, none)) :
    after.store = qm.store ∧
      (forall id, (after.cq.workQueue.all.lookup id).isSome ↔
        (Exists fun workunit => workunit ∈ workunits ∧ id = workunit.ident) ∨
        (qm.cq.workQueue.all.lookup id).isSome) ∧
      (forall id, (after.cq.workQueue.queue.lookup id).isSome ↔
        (Exists fun workunit => workunit ∈ workunits ∧ id = workunit.ident) ∨
          (qm.cq.workQueue.queue.lookup id).isSome) := by
  induction workunits generalizing qm with
  | nil =>
      cases done
      exact ⟨rfl, fun id =>
          ⟨Or.inr, fun either => either.resolve_left (fun ⟨_, member, _⟩ => (nomatch member))⟩,
        fun id => ⟨Or.inr, fun either =>
            either.resolve_left (fun ⟨_, member, _⟩ => (nomatch member))⟩⟩
  | cons workunit rest inductionHypothesis =>
      rcases named workunit List.mem_cons_self with ⟨hasName, printable, fresh⟩
      rcases addWorkunit_lookup ok hasName printable fresh with ⟨accepted, kept, store, all, queue⟩
      unfold enqueueWorkunits at done
      generalize qm.addWorkunit workunit = added at accepted kept store all queue done
      rcases added with ⟨middle, err⟩
      dsimp only at accepted kept store all queue
      subst accepted
      dsimp only at done
      split at done
      · cases done
      · obtain ⟨same, laterAll, laterQueue⟩ := inductionHypothesis kept
          (fun other member => named other (List.mem_cons_of_mem _ member)) done
        refine ⟨same.trans store, fun id => ?_, fun id => ?_⟩
        · rw [laterAll id, all id, List.exists_mem_cons_iff, or_assoc, or_left_comm]
        · rw [laterQueue id, queue id, List.exists_mem_cons_iff, or_assoc, or_left_comm]

theorem newWorkunit_made {env : Environment} {store : Store} {task : Task} {rank : Int}
    {workunit : Workunit} (made : newWorkunit env store task rank = .ok workunit) :
    workunit.ident = ⟨task.ident, rank⟩ ∧
      workunit.globalId ≠ "" ∧ workunit.ident.Printable ∧ workunit.state = workStatInit := by
  unfold newWorkunit at made
  dsimp only at made
  split at made
  · cases made
  next text printed =>
  have printable : (⟨task.ident, rank⟩ : WorkunitUniqueIdentifier).Printable :=
      congrArg Prod.snd printed
  have written : text ≠ "" := by
    intro empty
    have same := congrArg Prod.fst printed
    rw [empty] at same
    have long := congrArg String.length same
    simp only [WorkunitUniqueIdentifier.string, String.length_append] at long
    have mark : "_".length = 1 := rfl
    have none : "".length = 0 := rfl
    omega
  split at made
  · split at made
    · cases made
    · cases made
      exact ⟨rfl, written, printable, rfl⟩
  · cases made
    exact ⟨rfl, written, printable, rfl⟩

/-- The ranks of the workunits of a task: zero for a single one, or from one on. -/
def HasRank (totalWork rank : Int) : Prop :=
  (totalWork = 1 ∧ rank = 0) ∨ (totalWork ≠ 1 ∧ 1 ≤ rank ∧ rank ≤ totalWork)

/-- A round of the loop in `CreateWorkunits`. -/
private theorem newWorkunit_of_round {env : Environment} {store : Store} {task : Task} {rank : Int}
    {workunit : Workunit} (round : (match newWorkunit env store task rank with
      | .error err => .error ("(CreateWorkunits) (multi) NewWorkunit failed: " ++ err)
      | .ok workunit => .ok workunit : Except String Workunit) = .ok workunit) :
    newWorkunit env store task rank = .ok workunit := by
  split at round
  · cases round
  · next other done =>
    cases round
    exact done

/-- What `CreateWorkunits` makes: one workunit for each rank. -/
theorem createWorkunits_ranks {env : Environment} {store : Store} {task : Task}
    {workunits : List Workunit} (made : createWorkunits env store task = .ok workunits) :
    task.totalWork ≠ 0 ∧
      (forall workunit, workunit ∈ workunits ->
        workunit.globalId ≠ "" ∧ workunit.ident.Printable ∧ workunit.state = workStatInit) ∧
      forall id, (Exists fun workunit => workunit ∈ workunits ∧ id = workunit.ident) ↔
        Exists fun rank => id = ⟨task.ident, rank⟩ ∧ HasRank task.totalWork rank := by
  unfold createWorkunits at made
  split at made
  · cases made
  next nonzero =>
  split at made
  · next one =>
    split at made
    · cases made
    next workunit single =>
    cases made
    rcases newWorkunit_made single with ⟨ident, good⟩
    refine ⟨nonzero, fun other member => by rw [List.mem_singleton.mp member]; exact good, fun id =>
        ?_⟩
    constructor
    · rintro ⟨other, member, same⟩
      rw [List.mem_singleton.mp member, ident] at same
      exact ⟨0, same, Or.inl ⟨one, rfl⟩⟩
    · rintro ⟨rank, same, ⟨_, rfl⟩ | ⟨several, _⟩⟩
      · exact ⟨workunit, List.mem_singleton_self _, by rw [same, ident]⟩
      · exact (several one).elim
  · next several =>
    refine ⟨nonzero, fun workunit member => ?_, fun id => ?_⟩
    · rcases Fallible.mem_of_mapM_ok made member with ⟨i, _, round⟩
      exact (newWorkunit_made (newWorkunit_of_round round)).2
    · constructor
      · rintro ⟨workunit, member, same⟩
        rcases Fallible.mem_of_mapM_ok made member with ⟨i, small, round⟩
        rw [(newWorkunit_made (newWorkunit_of_round round)).1] at same
        have below := List.mem_range.mp small
        exact ⟨_, same, Or.inr ⟨several, by omega, by omega⟩⟩
      · rintro ⟨rank, same, ⟨one, _⟩ | ⟨_, low, high⟩⟩
        · exact (several one).elim
        · have listed : (List.range task.totalWork.toNat)[(rank - 1).toNat]? = some
            (rank - 1).toNat :=
            List.getElem?_range (by omega)
          rcases Fallible.getElem?_mapM_ok made listed with ⟨workunit, found, round⟩
          refine ⟨workunit, List.mem_of_getElem? found, ?_⟩
          have back : (((rank - 1).toNat + 1 : Nat) : Int) = rank := by omega
          rw [same, (newWorkunit_made (newWorkunit_of_round round)).1, back]

/-- The end of `taskEnQueue` for a task that is not scattered. -/
theorem launch_spec {ptr : Nat} (ok : QueueOk qm.cq.workQueue)
    (normal : (qm.store.task ptr).processType ≠ .scatter)
    (done : qm.launch outside ptr = (after, none)) :
    (qm.store.task ptr).totalWork ≠ 0 ∧
      (after.store.task ptr).ident = (qm.store.task ptr).ident ∧
      (after.store.task ptr).totalWork = (qm.store.task ptr).totalWork ∧
      (after.store.task ptr).remainWork = (qm.store.task ptr).remainWork ∧
      (forall id, (after.cq.workQueue.all.lookup id).isSome ↔
        (Exists fun rank => id = ⟨(qm.store.task ptr).ident, rank⟩ ∧
        HasRank (qm.store.task ptr).totalWork rank) ∨
          (qm.cq.workQueue.all.lookup id).isSome) ∧
      (forall id, (after.cq.workQueue.queue.lookup id).isSome ↔
        (Exists fun rank => id = ⟨(qm.store.task ptr).ident, rank⟩ ∧
        HasRank (qm.store.task ptr).totalWork rank) ∨
          (qm.cq.workQueue.queue.lookup id).isSome) := by
  unfold launch at done
  rw [if_neg normal] at done
  dsimp only at done
  unfold createAndEnqueueWorkunits at done
  cases made : createWorkunits outside.env qm.store (qm.store.task ptr) with
  | error err =>
      rw [made] at done
      cases done
  | ok workunits =>
      rw [made] at done
      dsimp only at done
      rcases createWorkunits_ranks made with ⟨nonzero, good, ranks⟩
      cases queued : enqueueWorkunits outside qm workunits with
      | mk middle err =>
          rw [queued] at done
          cases err with
          | some err => cases done
          | none =>
              rcases enqueueWorkunits_lookup ok good queued with ⟨store, all, queue⟩
              dsimp only at done
              rw [store] at done
              simp only [ranks] at all queue
              have kept : forall store err, qm.store.taskSetState ptr .queued = (store, err) ->
                  (store.task ptr).ident = (qm.store.task ptr).ident ∧
                  (store.task ptr).totalWork = (qm.store.task ptr).totalWork ∧
                  (store.task ptr).remainWork = (qm.store.task ptr).remainWork := by
                intro store err set
                rcases qm.store.taskSetState_cases ptr .queued with ⟨same, _⟩ | ⟨_, _, wrote⟩
                    | ⟨_, completes, _⟩ |
                  ⟨_, completes, _⟩
                · rw [set] at same
                  cases same
                  exact ⟨rfl, rfl, rfl⟩
                · rw [set] at wrote
                  cases wrote
                  rw [Store.withState, Store.modifyTask_self]
                  exact ⟨rfl, rfl, rfl⟩
                · cases completes
                · cases completes
              cases set : qm.store.taskSetState ptr .queued with
              | mk last failed =>
                  rw [set] at done
                  cases failed with
                  | some err => cases done
                  | none =>
                      rcases kept last none set with ⟨ident, total, remain⟩
                      dsimp only at done
                      split at done
                      · split at done
                        · cases done
                        · cases done
                          exact ⟨nonzero, ident, total, remain, all, queue⟩
                      · cases done
                        exact ⟨nonzero, ident, total, remain, all, queue⟩

end

/-! ## From the document to the workunits -/

/-- What has to hold of the workunits of a task that has been enqueued: there is one in the queue,
they are counted, and each that takes a part of the data can say which. A workunit that cannot say
which part it takes makes whoever asks for it panic, long after the task was accepted. -/
structure WellFormed (after : ServerMgr) (ptr : Nat) (sized : Sizing) : Prop where
  queued : Exists fun rank =>
      (after.cq.workQueue.queue.lookup ⟨(after.store.task ptr).ident, rank⟩).isSome
  remaining : (after.store.task ptr).remainWork = (after.store.task ptr).totalWork
  counted : Exists fun ranks : List Int => ranks.Nodup ∧
      (ranks.length : Int) = (after.store.task ptr).totalWork ∧
    forall rank, rank ∈ ranks ↔
        (after.cq.workQueue.all.lookup ⟨(after.store.task ptr).ident, rank⟩).isSome
  partitioned : forall rank,
      (after.cq.workQueue.all.lookup ⟨(after.store.task ptr).ident, rank⟩).isSome -> 0 < rank ->
    Exists fun partition => sized.partition = some partition ∧
      (after.store.task ptr).totalWork ≤ partition.totalIndex ∧
      Exists fun text => Piece.part ⟨rank, (after.store.task ptr).totalWork, sized.partition⟩ =
          .ok text

/-- What a document has to ask for. With inputs the number of workunits is not negative, or it is
set by the bound on their size, or it does not matter because the inputs have no index; without
inputs there is one workunit, or the document brings a partition that is large enough.

The three ways of a task with inputs are the three outcomes of the index: a number as the document
has it, a number of our own, or a single workunit. -/
def Splittable (indexFile : IndexFile) (sizing : Sizing) : Prop :=
  match sizing.inputs with
  | some (_ :: _) =>
      0 ≤ sizing.totalWork ∨ 0 < sizing.maxWorkSize ∨ sizing.checkPartIndex indexFile = .ok none
  | _ => sizing.totalWork = 1 ∨ (2 ≤ sizing.totalWork ∧
      Exists fun partition => sizing.partition = some partition ∧
          sizing.totalWork ≤ partition.totalIndex)

/-- The task in the store is the one that `Init` made of a document.  A task that was completed is
made ready again only by `ResetTaskTrue`, and no workunits were made before. -/
structure Stands (outside : Scheduler) (indexFile : IndexFile) (qm : ServerMgr) (ptr : Nat)
    (task : Task) (sizing : Sizing) : Prop where
  views : Sizing.Views task (qm.store.task ptr) sizing
  totalWork : sizing.totalWork = task.totalWork
  remainWork : sizing.remainWork = task.remainWork
  oldStyle : sizing.workflowInstanceID = ""
  plain : task.workflowStep = none
  normal : task.processType ≠ .scatter
  marked : task.state = .completed -> (qm.store.task ptr).resetTask = true
  answers : Sizing.Answers outside indexFile sizing
  queue : QueueOk qm.cq.workQueue
  fresh : forall rank, qm.cq.workQueue.all.lookup ⟨task.ident, rank⟩ = none

section

variable {outside : Scheduler} {indexFile : IndexFile} {qm after : ServerMgr} {ptr : Nat}

/-- `Init` makes the numbers agree unless the task is completed. -/
theorem initRaw_counts {doc task : Task} {info : Info} {jobID : String}
    (accepted : doc.initRaw info jobID = .ok task) (open_ : task.state ≠ .completed) :
    task.remainWork = task.totalWork := by
  unfold Task.initRaw at accepted
  by_cases noJob : jobID = ""
  · rw [if_pos noJob] at accepted
    cases accepted
  rw [if_neg noJob] at accepted
  by_cases foreign : doc.globalId = "" ∨ ¬Path.hasPrefix doc.globalId (jobID ++ "_")
  · rw [if_pos foreign] at accepted
    cases accepted
  rw [if_neg foreign] at accepted
  by_cases noName : doc.ident.taskName = ""
  · rw [if_pos noName] at accepted
    cases accepted
  rw [if_neg noName] at accepted
  dsimp only at accepted
  split at accepted
  · cases accepted
  · cases accepted
    unfold Task.init at open_ ⊢
    by_cases state : doc.state ≠ .completed
    · simp only [if_pos state]
    · rw [if_neg state] at open_
      exact (state open_).elim

/-- The ranks from a number on are as many as it says, if it is positive. -/
theorem ranks_of_pos {totalWork : Int} (positive : 1 ≤ totalWork) :
    Exists fun ranks : List Int => ranks.Nodup ∧ (ranks.length : Int) = totalWork ∧
    forall rank, rank ∈ ranks ↔ HasRank totalWork rank := by
  unfold HasRank
  by_cases one : totalWork = 1
  · refine ⟨[0], List.nodup_singleton 0, one.symm, fun rank => ?_⟩
    rw [List.mem_singleton]
    omega
  · refine ⟨(List.range totalWork.toNat).map fun i : Nat => ((i : Int) + 1), ?_, ?_, fun rank => ?_⟩
    · refine List.Nodup.map ?_ List.nodup_range
      intro first second same
      dsimp only at same
      omega
    · rw [List.length_map, List.length_range]
      omega
    · rw [List.mem_map]
      constructor
      · rintro ⟨i, small, rfl⟩
        rw [List.mem_range] at small
        omega
      · intro has
        refine ⟨(rank - 1).toNat, List.mem_range.mpr (by omega), by omega⟩

/-- What the numbers have to be once the task is prepared. -/
theorem wellFormed_iff_numbers {sized : Sizing} {ident : TaskUniqueIdentifier}
    (nonzero : sized.totalWork ≠ 0) (named : (after.store.task ptr).ident = ident)
    (total : (after.store.task ptr).totalWork = sized.totalWork)
    (remain : (after.store.task ptr).remainWork = sized.remainWork)
    (all : forall rank, (after.cq.workQueue.all.lookup ⟨ident, rank⟩).isSome ↔
    HasRank sized.totalWork rank)
    (queue : forall rank, HasRank sized.totalWork rank ->
    (after.cq.workQueue.queue.lookup ⟨ident, rank⟩).isSome)
    (within : forall rank, (after.cq.workQueue.queue.lookup ⟨ident, rank⟩).isSome ->
    HasRank sized.totalWork rank) :
    WellFormed after ptr sized ↔ sized.remainWork = sized.totalWork ∧ 1 ≤ sized.totalWork ∧
      (sized.totalWork ≠ 1 -> Exists fun partition => sized.partition = some partition ∧
        sized.totalWork ≤ partition.totalIndex) := by
  constructor
  · rintro ⟨⟨rank, queued⟩, remaining, _, partitioned⟩
    rw [named] at queued
    have has := within rank queued
    have positive : 1 ≤ sized.totalWork := by
      rcases has with ⟨one, _⟩ | ⟨_, low, high⟩ <;> omega
    refine ⟨by rw [<- remain, remaining, total], positive, fun several => ?_⟩
    have first : HasRank sized.totalWork 1 := Or.inr ⟨several, by omega, by omega⟩
    have there := (all 1).mpr first
    rw [<- named] at there
    obtain ⟨partition, given, enough, _⟩ := partitioned 1 there (by omega)
    exact ⟨partition, given, by rwa [<- total]⟩
  · rintro ⟨remaining, positive, several⟩
    refine ⟨?_, by rw [remain, total, remaining], ?_, fun rank there positiveRank => ?_⟩
    · rw [named]
      by_cases one : sized.totalWork = 1
      · exact ⟨0, queue 0 (Or.inl ⟨one, rfl⟩)⟩
      · exact ⟨1, queue 1 (Or.inr ⟨one, by omega, positive⟩)⟩
    · rcases ranks_of_pos positive with ⟨ranks, distinct, length, has⟩
      refine ⟨ranks, distinct, by rw [length, total], fun rank => ?_⟩
      rw [has, named, all]
    · rw [named, all] at there
      have notOne : sized.totalWork ≠ 1 := by
        rcases there with ⟨_, zero⟩ | ⟨notOne, _⟩
        · omega
        · exact notOne
      rcases several notOne with ⟨partition, given, enough⟩
      refine ⟨partition, given, by rwa [total], ?_⟩
      unfold Piece.part
      dsimp only
      rw [if_neg (by omega), given, total]
      dsimp only
      rw [if_neg nonzero]
      exact ⟨_, rfl⟩

/-- What the numbers have to be before. -/
theorem prepared_numbers_iff {sizing sized : Sizing} {reset : Bool}
    (oldStyle : sizing.workflowInstanceID = "")
    (counts : reset = false -> sizing.remainWork = sizing.totalWork)
    (prepared : sizing.prepared indexFile reset = (sized, none)) (nonzero : sized.totalWork ≠ 0) :
    (sized.remainWork = sized.totalWork ∧ 1 ≤ sized.totalWork ∧
      (sized.totalWork ≠ 1 -> Exists fun partition => sized.partition = some partition ∧
        sized.totalWork ≤ partition.totalIndex)) ↔ Splittable indexFile sizing := by
  unfold Sizing.prepared at prepared
  generalize kept : (if reset then { sizing with remainWork := sizing.totalWork } else sizing) =
      current at prepared
  have remain : current.remainWork = sizing.totalWork := by
    cases reset with
    | true => rw [<- kept]; rfl
    | false => rw [<- kept]; exact counts rfl
  have total : current.totalWork = sizing.totalWork := by rw [<- kept]; split <;> rfl
  have size : current.maxWorkSize = sizing.maxWorkSize := by rw [<- kept]; split <;> rfl
  have partition : current.partition = sizing.partition := by rw [<- kept]; split <;> rfl
  have inputs : current.inputs = sizing.inputs := by rw [<- kept]; split <;> rfl
  have checked : current.checkPartIndex indexFile = sizing.checkPartIndex indexFile := by
    unfold Sizing.checkPartIndex
    rw [inputs, partition, size]
  have old : current.workflowInstanceID = "" := by
    rw [<- kept]
    split <;> exact oldStyle
  unfold Splittable
  rw [<- inputs, <- total, <- size, <- partition, <- checked]
  rw [<- total] at remain
  dsimp only at prepared
  clear kept counts
  split at prepared
  · -- the task is indexed
    next first others listed =>
    rcases Sizing.initPartIndex_spec indexFile old with ⟨err, _, failed⟩ | ⟨_, done, indexed⟩
    · rw [prepared] at failed
      cases failed
    rw [prepared] at done
    cases done
    have counted : sized.remainWork = sized.totalWork := by
      rcases indexed.remainWork with same | ⟨kept, same⟩
      · exact same
      · rw [kept, same, remain]
    rcases indexed.outcome with ⟨one, zero, same⟩ | ⟨one, _, none, reason⟩ |
      ⟨made, units, found, worked, several, _, given⟩
    · rw [same]
      exact iff_of_true ⟨remain, by omega, fun several => (several one).elim⟩ (Or.inl (by omega))
    · refine iff_of_true ⟨counted, by omega, fun several => (several one).elim⟩ ?_
      rcases reason with single | ⟨made, units, _, worked⟩
      · exact Or.inr (Or.inr single)
      · unfold Sizing.work at worked
        by_cases bounded : 0 < current.maxWorkSize
        · exact Or.inr (Or.inl bounded)
        · rw [if_neg bounded] at worked
          exact Or.inl (by omega)
    · constructor
      · rintro ⟨_, positive, _⟩
        rw [worked] at positive
        unfold Sizing.work at positive
        by_cases bounded : 0 < current.maxWorkSize
        · exact Or.inr (Or.inl bounded)
        · rw [if_neg bounded] at positive
          exact Or.inl (by omega)
      · intro admitted
        have most : sized.totalWork ≤ (if units = 0 then 1 else (units : Int)) := by
          rw [worked]
          exact min_le_right _ _
        refine ⟨counted, ?_, fun _ => ⟨_, given, most⟩⟩
        rcases admitted with nonneg | bounded | single
        · rw [worked] at nonzero ⊢
          unfold Sizing.work at nonzero ⊢
          by_cases bounded : current.maxWorkSize > 0
          · have wanted := (@Sizing.wantedWork_spec units current.maxWorkSize
              current.totalWork bounded).1
            rw [if_pos bounded]
            split <;> omega
          · rw [if_neg bounded] at nonzero ⊢
            split at nonzero <;> split <;> omega
        · have wanted := (@Sizing.wantedWork_spec units current.maxWorkSize
            current.totalWork bounded).1
          rw [worked]
          unfold Sizing.work
          rw [if_pos bounded]
          split <;> omega
        · rw [found] at single
          cases single
  · -- it is left as it is
    next unlisted =>
    cases prepared
    constructor
    · rintro ⟨_, positive, several⟩
      by_cases one : sized.totalWork = 1
      · exact Or.inl one
      · exact Or.inr ⟨by omega, several one⟩
    · rintro (one | ⟨two, given⟩)
      · exact ⟨remain, by omega, fun several => (several one).elim⟩
      · exact ⟨remain, by omega, fun _ => given⟩

/-- A task that `taskEnQueue` accepts has well-formed workunits exactly if its document asked for
them in one of the ways above.  The partition is only made for a task with inputs, and a negative
number of workunits passes every test; the ways of `Splittable` are the documents that need
neither. -/
theorem wellFormed_iff_splittable {doc task : Task} {info : Info} {jobID : String} {sizing : Sizing}
    {job : Job} {notice : Option Notice} (accepted : doc.initRaw info jobID = .ok task)
    (stands : Stands outside indexFile qm ptr task sizing)
    (enqueued : qm.taskEnQueue outside job ptr = .ok (after, notice, none)) :
    Exists fun sized => sizing.prepared indexFile (qm.store.task ptr).resetTask = (sized, none) ∧
      (WellFormed after ptr sized ↔ Splittable indexFile sizing) := by
  unfold taskEnQueue expandTask at enqueued
  have outsideInstance : (qm.store.task ptr).workflowInstanceID = "" :=
    stands.views.workflowInstanceID.trans stands.oldStyle
  dsimp only at enqueued
  rw [if_pos outsideInstance] at enqueued
  split at enqueued
  · cases enqueued
  dsimp only at enqueued
  split at enqueued
  · cases enqueued
  next middle ready =>
  split at enqueued
  · cases enqueued
  next last launched =>
  cases enqueued
  obtain ⟨sized, prepared, shown, sameQueue, _⟩ :=
    Sizing.views_prepare stands.views stands.answers stands.oldStyle stands.plain ready
  refine ⟨sized, prepared, ?_⟩
  have ident : (middle.store.task ptr).ident = task.ident := congrArg Prod.fst shown.framed
  have normal : (middle.store.task ptr).processType ≠ .scatter := by
    rw [show (middle.store.task ptr).processType = task.processType from congrArg
        (fun fields => fields.2.1) shown.framed]
    exact stands.normal
  obtain ⟨nonzero, named, total, remain, all, queue⟩ :=
      launch_spec (sameQueue ▸ stands.queue) normal launched
  rw [shown.totalWork] at nonzero total all queue
  rw [shown.remainWork] at remain
  rw [ident] at named all queue
  rw [sameQueue] at all queue
  have unqueued (rank : Int) : qm.cq.workQueue.queue.lookup ⟨task.ident, rank⟩ = none := by
    cases found : qm.cq.workQueue.queue.lookup ⟨task.ident, rank⟩ with
    | none => rfl
    | some other =>
        have stored := (stands.queue.queue _ other found).1
        rw [stands.fresh rank] at stored
        cases stored
  have onlyRank (rank : Int) :
      (Exists fun other => (⟨task.ident, rank⟩ : WorkunitUniqueIdentifier) = ⟨task.ident, other⟩ ∧
      HasRank sized.totalWork other) ↔ HasRank sized.totalWork rank := by
    constructor
    · rintro ⟨other, same, has⟩
      cases same
      exact has
    · intro has
      exact ⟨rank, rfl, has⟩
  have counts : (qm.store.task ptr).resetTask = false -> sizing.remainWork = sizing.totalWork := by
    intro unmarked
    rw [stands.remainWork, stands.totalWork]
    refine initRaw_counts accepted fun completed => ?_
    rw [stands.marked completed] at unmarked
    cases unmarked
  rw [<- prepared_numbers_iff stands.oldStyle counts prepared nonzero]
  refine wellFormed_iff_numbers nonzero named total remain (fun rank => ?_) (fun rank => ?_)
      fun rank => ?_
  · rw [all, onlyRank, stands.fresh]
    simp only [Option.isSome_none, Bool.false_eq_true, or_false]
  · rw [queue, onlyRank]
    exact Or.inl
  · rw [queue, onlyRank, unqueued]
    simp only [Option.isSome_none, Bool.false_eq_true, or_false, imp_self]

end

private def openJob : Job :=
  ⟨"j", .inProgress, false, "", ⟨1, 0, "", false⟩, [0], 1, ∅, ∅⟩

private def askedFor (totalWork : Int) (inputs : List Int) : Task :=
  { Task.blank with
    ident := ⟨"0", "j"⟩
    globalId := "j_0"
    info := some openJob.info
    inputs
    totalWork
    remainWork := totalWork }

private def holding (task : Task) : ServerMgr :=
  .newServerMgr
    { task := fun _ => { task with state := .ready }
      nextTask := 1
      jobs := AList.insert "j" openJob ∅ }

private def replying (inputs : List Int) (units : Option Int) : Scheduler where
  env := ⟨fun _ _ _ => .error "no outputs", fun _ => none, fun _ _ => none, 3, 3⟩
  getCWLSource := fun _ _ _ _ => .ok none
  spare := fun _ => 0
  order := fun _ _ => []
  uuids := fun _ _ => ""
  resetInputs := fun _ => inputs
  deleteLogs := fun _ => none
  locateInputs := fun _ => (inputs, none)
  checkPartIndex := fun _ => units
  createOutputNode := fun _ => none
  perfLogWorkunit := false

private theorem askedFor_stands {totalWork : Int} {files : Option (List String)} {sizes : List Int}
    {units : Option Int} {indexFile : IndexFile}
    (listed : sizes ≠ [] ↔ Exists fun first => Exists fun others => files = some (first :: others))
    (indexed : units = Sizing.answer indexFile ⟨"", files, totalWork, 0, totalWork, none⟩) :
    Stands (replying sizes units) indexFile (holding (askedFor totalWork sizes)) 0
        (askedFor totalWork sizes)
      ⟨"", files, totalWork, 0, totalWork, none⟩ where
  views := ⟨rfl, rfl, rfl, rfl, rfl, rfl⟩
  totalWork := rfl
  remainWork := rfl
  oldStyle := rfl
  plain := rfl
  normal := by
    intro scatter
    cases scatter
  marked := by
    intro completed
    cases completed
  answers := ⟨fun _ => listed, fun _ => indexed⟩
  queue := QueueOk.newWorkQueue
  fresh := fun _ => rfl

/-- Four workunits of a file with ten records are well-formed. -/
theorem wellFormed_iff_splittable_ten :
    Exists fun after => Exists fun sized => (holding (askedFor 4 [100])).taskEnQueue
        (replying [100] (some 10)) openJob 0 = .ok (after, none, none) ∧
    WellFormed after 0 sized := by
  have ran : Exists fun after =>
      (holding (askedFor 4 [100])).taskEnQueue (replying [100] (some 10)) openJob 0 = .ok
          (after, none, none) := ⟨_, rfl⟩
  rcases ran with ⟨after, enqueued⟩
  have stands : Stands (replying [100] (some 10)) (fun _ _ => .ok 10) (holding (askedFor 4 [100])) 0
      (askedFor 4 [100])
      ⟨"", some ["reads"], 4, 0, 4, none⟩ :=
    askedFor_stands (iff_of_true (by decide) ⟨"reads", [], rfl⟩) rfl
  have accepted : (askedFor 4 [100]).initRaw openJob.info "j" = .ok (askedFor 4 [100]) := by rfl
  rcases wellFormed_iff_splittable accepted stands enqueued with ⟨sized, _, exactly⟩
  exact ⟨after, sized, enqueued, exactly.mpr (Or.inl (by decide))⟩

/-- Without a file two workunits are made all the same, and neither can say which part of the data
it takes. -/
theorem enqueued_without_partition : Exists fun after =>
    (askedFor 2 []).initRaw openJob.info "j" = .ok (askedFor 2 []) ∧
    Stands (replying [] none) (fun _ _ => .ok 10) (holding (askedFor 2 [])) 0 (askedFor 2 [])
        ⟨"", none, 2, 0, 2, none⟩ ∧
    (holding (askedFor 2 [])).taskEnQueue (replying [] none) openJob 0 = .ok (after, none, none) ∧
    (after.cq.workQueue.queue.lookup ⟨⟨"0", "j"⟩, 1⟩).isSome ∧
    Piece.part ⟨1, 2, none⟩ = .error .panic ∧
    ¬WellFormed after 0 ⟨"", none, 2, 0, 2, none⟩ := by
  refine ⟨_, rfl, askedFor_stands
      (iff_of_false (fun some => some rfl) (fun ⟨_, _, same⟩ => (nomatch same))) rfl, rfl,
    by decide, rfl, fun wellFormed => ?_⟩
  obtain ⟨_, none, _⟩ := wellFormed.partitioned 1 (by decide) (by decide)
  cases none

end ServerMgr

end Core
end Awe
