import Awe.Core.JobControl

namespace Awe
namespace Core

open Lib

/-!
# Ending a job

Two operations end a job: `finalizeJob`, when its last task is completed, and
`DeleteJobByUser`.  Both loop over `Tasks` to clear the task map, but they name
the tasks in different ways, and the tasks of a CWL job are not in `Tasks` at
all.  This module says what exactly is left behind.
-/

/-- What a full deletion meets outside the server: the configured `DATA_PATH`,
the error of the removal from the database, and the error of `os.RemoveAll` for
the directory of the job. -/
structure Erasure where
  dataPath : String
  dbDelete : Err
  removeAll : Err
  deriving DecidableEq, Repr

/-- `Job.Rmdir`.  A job whose identifier is too short for a path has no directory. -/
def Erasure.rmdir (erasure : Erasure) (jobid : String) : Err :=
  match getPathByJobID erasure.dataPath jobid with
  | .error err => some err
  | .ok _ => erasure.removeAll

/-- `Job.Delete`.  The directory is removed behind the document, so that an error
there finds the job gone from the database already. -/
def Store.deleteJob (store : Store) (jobid : String) (erasure : Erasure) : Store × Err :=
  match erasure.dbDelete with
  | some err => (store, some err)
  | none => ({ store with jobs := store.jobs.erase jobid }, erasure.rmdir jobid)

namespace ServerMgr

/-- The loop of `DeleteJobByUser` over the workunits. -/
def deleteWorkunits (wq : WorkQueue) (jobid : String) (listing : List Nat) : WorkQueue :=
  listing.foldl (fun wq ptr =>
    if (wq.work ptr).ident.jobId = jobid then wq.delete (wq.work ptr).ident else wq) wq

/-- `New_Task_Unique_Identifier` of a number in decimal, which is neither empty
nor ends with a slash. -/
def numberedTask (jobid : String) (i : Nat) : TaskUniqueIdentifier :=
  ⟨toString i, jobid⟩

/-- `DeleteJobByUser`; `authorised` is the answer of the check of the user's
rights.  A job that is not deleted in `full` stays in the database, where
`GetJob` finds it again.  One that is returns what `Job.Delete` returns, although
the maps of the server are cleared by then. -/
def deleteJobByUser (qm : ServerMgr) (jobid : String) (authorised full : Bool) (erasure : Erasure) :
    ServerMgr × Err :=
  match qm.store.getJob jobid with
  | .error err => (qm, some err)
  | .ok job =>
      if ¬authorised then (qm, some "User Unauthorized")
      else
        let store := qm.store.jobSetState jobid .deleted
        let deleted := if full then store.deleteJob jobid erasure else (store, none)
        ({ qm with
            cq := { qm.cq with
              workQueue := deleteWorkunits qm.cq.workQueue jobid qm.cq.workQueue.all.values }
            store := deleted.1
            taskMap := (List.range job.tasks.length).foldl
                (fun map i => map.erase (numberedTask jobid i))
              qm.taskMap
            actJobs := qm.actJobs.filter (· ≠ jobid) }, deleted.2)

end ServerMgr

namespace Store

variable {store : Store} {jobid other : String} {erasure : Erasure}

theorem deleteJob_task (store : Store) (jobid : String) (erasure : Erasure) :
    (store.deleteJob jobid erasure).1.task = store.task := by
  unfold deleteJob
  split <;> rfl

theorem deleteJob_others (erasure : Erasure) (different : other ≠ jobid) :
    (store.deleteJob jobid erasure).1.jobs.lookup other = store.jobs.lookup other := by
  unfold deleteJob
  split
  · rfl
  · dsimp only
    rw [GoMap.lookup_erase_if, if_neg different]

end Store

namespace JobRemoval

/-- The maps of the server are keyed by what they hold, and every workunit in a
sub-map is in `all`. -/
structure Filed (qm : ServerMgr) : Prop where
  stored : qm.cq.workQueue.Stored
  within : forall kind, qm.cq.workQueue.Within kind fun _ => True
  named : forall id ptr, qm.taskMap.lookup id = some ptr -> (qm.store.task ptr).ident = id

/-- The ways to end a job. -/
inductive Ending where
  | delete (authorised full : Bool) (erasure : Erasure)
  | finalize
  deriving DecidableEq, Repr

def Ending.run (qm : ServerMgr) (jobid : String) : Ending -> ServerMgr × Err
  | .delete authorised full erasure => qm.deleteJobByUser jobid authorised full erasure
  | .finalize => qm.finalizeJob jobid

def NoTasks (qm : ServerMgr) (jobid : String) : Prop :=
  forall id ptr, qm.taskMap.lookup id = some ptr -> (qm.store.task ptr).ident.jobId ≠ jobid

def NoWorkunits (qm : ServerMgr) (jobid : String) : Prop :=
  (forall id ptr, qm.cq.workQueue.all.lookup id = some ptr ->
    (qm.cq.workQueue.work ptr).ident.jobId ≠ jobid) ∧
  forall kind id ptr, (qm.cq.workQueue.sub kind).lookup id = some ptr ->
    (qm.cq.workQueue.work ptr).ident.jobId ≠ jobid

/-- An instance is registered under its job and its `LocalID`. -/
def NoInstances (qm : ServerMgr) (jobid : String) : Prop :=
  forall localID, jobid ++ "_" ++ localID ∉ qm.globalInstances

/-- Everything of other jobs is as before. Entries are named by identifiers that begin with the
job, so what belongs to another job can be told from the key. -/
structure OthersKept (qm after : ServerMgr) (jobid : String) : Prop where
  taskMap : forall id, id.jobId ≠ jobid -> after.taskMap.lookup id = qm.taskMap.lookup id
  task : after.store.task = qm.store.task
  all : forall id, id.jobId ≠ jobid ->
      after.cq.workQueue.all.lookup id = qm.cq.workQueue.all.lookup id
  sub : forall kind id, id.jobId ≠ jobid ->
    (after.cq.workQueue.sub kind).lookup id = (qm.cq.workQueue.sub kind).lookup id
  work : after.cq.workQueue.work = qm.cq.workQueue.work
  jobs : forall other, other ≠ jobid -> after.store.jobs.lookup other = qm.store.jobs.lookup other
  registered : after.globalInstances = qm.globalInstances

/-- Ending the job removes all its traces and touches nothing else. Traces are what the server
still finds of the job: registered tasks, and of a job that is deleted also workunits in the queue
and registered instances. -/
def Ending.Removes (qm : ServerMgr) (jobid : String) (ending : Ending) : Prop :=
  NoTasks (ending.run qm jobid).1 jobid ∧
  (ending ≠ .finalize -> NoWorkunits (ending.run qm jobid).1 jobid ∧
      NoInstances (ending.run qm jobid).1 jobid) ∧
  OthersKept qm (ending.run qm jobid).1 jobid

/-- The names under which the loop over `Tasks` deletes from the task map. -/
def Ending.deletes (qm : ServerMgr) (jobid : String) (job : Job) :
    Ending -> List TaskUniqueIdentifier
  | .delete _ _ _ => (List.range job.tasks.length).map (ServerMgr.numberedTask jobid)
  | .finalize => job.tasks.map fun ptr => (qm.store.task ptr).ident

/-- The loop over `Tasks` names every registered task of the job, and a job that is deleted has no
registered instance. It is a condition on the job and the maps before the call, and says nothing
of what the call does with them. -/
def Ending.Covers (qm : ServerMgr) (jobid : String) (job : Job) (ending : Ending) : Prop :=
  (forall id ptr, qm.taskMap.lookup id = some ptr -> id.jobId = jobid ->
      id ∈ ending.deletes qm jobid job) ∧
  (ending ≠ .finalize -> NoInstances qm jobid)

section

variable {wq : WorkQueue} {jobid : String}

theorem deleteWorkunits_cons (ptr : Nat) (rest : List Nat) :
    ServerMgr.deleteWorkunits wq jobid (ptr :: rest) =
      ServerMgr.deleteWorkunits
        (if (wq.work ptr).ident.jobId = jobid then wq.delete (wq.work ptr).ident else
            wq) jobid rest :=
  rfl

/-- Workunits of other jobs are not deleted, and no object is written to. -/
theorem deleteWorkunits_frame (listing : List Nat) :
    (ServerMgr.deleteWorkunits wq jobid listing).work = wq.work ∧
      forall id, id.jobId ≠ jobid ->
        (ServerMgr.deleteWorkunits wq jobid listing).all.lookup id = wq.all.lookup id ∧
        forall kind, ((ServerMgr.deleteWorkunits wq jobid listing).sub kind).lookup id =
          (wq.sub kind).lookup id := by
  induction listing generalizing wq with
  | nil => exact ⟨rfl, fun _ _ => ⟨rfl, fun _ => rfl⟩⟩
  | cons ptr rest inductionHypothesis =>
      rw [deleteWorkunits_cons]
      by_cases own : (wq.work ptr).ident.jobId = jobid
      · rw [if_pos own]
        rcases @inductionHypothesis (wq.delete (wq.work ptr).ident) with ⟨work, others⟩
        refine ⟨work, fun id different => ?_⟩
        have apart : id ≠ (wq.work ptr).ident := by
          rintro rfl
          exact different own
        rcases others id different with ⟨all, sub⟩
        refine ⟨?_, fun kind => ?_⟩
        · rw [all, WorkQueue.delete_all_lookup, if_neg apart]
        · rw [sub kind, WorkQueue.delete_sub_lookup, if_neg apart]
      · rw [if_neg own]
        exact inductionHypothesis

/-- What is not there before the loop is not there after it. -/
theorem deleteWorkunits_all_none {id : WorkunitUniqueIdentifier} (listing : List Nat)
    (missing : wq.all.lookup id = none) :
    (ServerMgr.deleteWorkunits wq jobid listing).all.lookup id = none := by
  induction listing generalizing wq with
  | nil => exact missing
  | cons ptr rest inductionHypothesis =>
      rw [deleteWorkunits_cons]
      apply inductionHypothesis
      split
      · rw [WorkQueue.delete_all_lookup]
        split
        · rfl
        · exact missing
      · exact missing

/-- A workunit of the job that the loop visits is gone afterwards. -/
theorem deleteWorkunits_gone {ptr : Nat} (listing : List Nat) (visited : ptr ∈ listing)
    (own : (wq.work ptr).ident.jobId = jobid) :
    (ServerMgr.deleteWorkunits wq jobid listing).all.lookup (wq.work ptr).ident = none := by
  induction listing generalizing wq with
  | nil => cases visited
  | cons first rest inductionHypothesis =>
      rw [deleteWorkunits_cons]
      rcases List.mem_cons.mp visited with rfl | later
      · rw [if_pos own]
        apply deleteWorkunits_all_none
        rw [WorkQueue.delete_all_lookup, if_pos rfl]
      · by_cases deleted : (wq.work first).ident.jobId = jobid
        · rw [if_pos deleted]
          exact @inductionHypothesis (wq.delete (wq.work first).ident) later own
        · rw [if_neg deleted]
          exact inductionHypothesis later own

theorem deleteWorkunits_within {kind : SubMap} {holds : String -> Prop}
    (within : wq.Within kind holds) (listing : List Nat) :
    (ServerMgr.deleteWorkunits wq jobid listing).Within kind holds := by
  induction listing generalizing wq with
  | nil => exact within
  | cons ptr rest inductionHypothesis =>
      rw [deleteWorkunits_cons]
      apply inductionHypothesis
      split
      · exact within.delete _
      · exact within

/-- The loop visits `all`, so no workunit of the job is left in it. -/
theorem deleteWorkunits_clears (stored : wq.Stored) {id : WorkunitUniqueIdentifier} {ptr : Nat}
    (found : (ServerMgr.deleteWorkunits wq jobid wq.all.values).all.lookup id = some ptr) :
    (wq.work ptr).ident.jobId ≠ jobid := by
  have gone (other : Nat) (present : wq.all.lookup id = some other) (own : id.jobId = jobid) :
      False := by
    have visited : other ∈ wq.all.values := GoMap.mem_values.mpr ⟨id, present⟩
    have named := stored.named present
    have deleted := @deleteWorkunits_gone wq jobid other wq.all.values visited
        (by rw [named]; exact own)
    rw [named, found] at deleted
    cases deleted
  cases present : wq.all.lookup id with
  | none =>
      rw [deleteWorkunits_all_none _ present] at found
      cases found
  | some other =>
      have different : id.jobId ≠ jobid := gone other present
      rw [((deleteWorkunits_frame wq.all.values).2 id different).1, present] at found
      cases found
      rw [stored.named present]
      exact different

end

/-! ## Both operations -/

section

variable {qm : ServerMgr} {jobid : String} {ending : Ending} {job : Job}

/-- What an operation that reports no error does to the two maps and the jobs. -/
theorem Ending.run_eq (loaded : qm.store.jobs.lookup jobid = some job)
    (returned : (ending.run qm jobid).2 = none) :
    (ending.run qm jobid).1.taskMap = GoMap.eraseAll qm.taskMap (ending.deletes qm jobid job) ∧
      (ending.run qm jobid).1.store.task = qm.store.task ∧
      (ending.run qm jobid).1.globalInstances = qm.globalInstances ∧
      (forall other, other ≠ jobid ->
        (ending.run qm jobid).1.store.jobs.lookup other = qm.store.jobs.lookup other) ∧
      (ending.run qm jobid).1.cq.workQueue =
        if ending = .finalize then qm.cq.workQueue
        else ServerMgr.deleteWorkunits qm.cq.workQueue jobid qm.cq.workQueue.all.values := by
  have written (state : JobState) (other : String) (different : other ≠ jobid) :
      (qm.store.jobSetState jobid state).jobs.lookup other = qm.store.jobs.lookup other := by
    unfold Store.jobSetState
    rw [Store.modifyJob_lookup, if_neg different]
  have sameTasks (state : JobState) : (qm.store.jobSetState jobid state).task = qm.store.task :=
    Store.modifyJob_task ..
  cases ending with
  | finalize =>
      unfold Ending.run ServerMgr.finalizeJob at returned ⊢
      rw [loaded] at returned ⊢
      dsimp only at returned ⊢
      by_cases done : job.state = .completed
      · rw [if_pos done] at returned
        cases returned
      · rw [if_neg done]
        refine ⟨?_, sameTasks .completed, rfl, written .completed, rfl⟩
        unfold Ending.deletes GoMap.eraseAll
        rw [List.foldl_map]
  | delete authorised full erasure =>
      unfold Ending.run ServerMgr.deleteJobByUser Store.getJob at returned ⊢
      rw [loaded] at returned ⊢
      dsimp only at returned ⊢
      cases authorised with
      | false => cases returned
      | true =>
          rw [if_neg (fun refused => refused rfl)]
          refine ⟨?_, ?_, rfl, fun other different => ?_, rfl⟩
          · unfold Ending.deletes GoMap.eraseAll
            rw [List.foldl_map]
          · cases full with
            | true => exact (Store.deleteJob_task ..).trans (sameTasks .deleted)
            | false => exact sameTasks .deleted
          · cases full with
            | true =>
                apply Eq.trans _ (written .deleted other different)
                exact Store.deleteJob_others _ different
            | false => exact written .deleted other different

/-- Every name that the loop deletes under belongs to the job. -/
theorem Ending.deletes_own
    (owned : forall ptr, ptr ∈ job.tasks -> (qm.store.task ptr).ident.jobId = jobid)
    {id : TaskUniqueIdentifier} (member : id ∈ ending.deletes qm jobid job) : id.jobId = jobid := by
  cases ending with
  | finalize =>
      rcases List.mem_map.mp member with ⟨ptr, listed, rfl⟩
      exact owned ptr listed
  | delete authorised full erasure =>
      rcases List.mem_map.mp member with ⟨i, _, rfl⟩
      rfl

/-- Ending a job removes all its traces exactly if the loop over `Tasks` names every task that is
registered for it, and if, when it is deleted, none of its workflow instances is registered.

The two ways of ending a job go over the same list, which holds no task of a workflow instance,
and the deletion makes up the identifiers from the positions in that list; the map of the
instances has no operation that takes one out. -/
theorem ending_removes_iff (filed : Filed qm) (loaded : qm.store.jobs.lookup jobid = some job)
    (owned : forall ptr, ptr ∈ job.tasks -> (qm.store.task ptr).ident.jobId = jobid)
    (returned : (ending.run qm jobid).2 = none) :
    ending.Removes qm jobid ↔ ending.Covers qm jobid job := by
  rcases ending.run_eq loaded returned with ⟨taskMap, tasks, registered, jobs, workQueue⟩
  have frame := @deleteWorkunits_frame qm.cq.workQueue jobid qm.cq.workQueue.all.values
  have others : OthersKept qm (ending.run qm jobid).1 jobid := by
    refine ⟨fun id different => ?_, tasks, fun id different => ?_, fun kind id different =>
        ?_, ?_, jobs, registered⟩
    · rw [taskMap, GoMap.lookup_eraseAll, if_neg fun member =>
        different (ending.deletes_own owned member)]
    · rw [workQueue]
      split
      · rfl
      · exact (frame.2 id different).1
    · rw [workQueue]
      split
      · rfl
      · exact (frame.2 id different).2 kind
    · rw [workQueue]
      split
      · rfl
      · exact frame.1
  have noTasks : NoTasks (ending.run qm jobid).1 jobid ↔
      forall id ptr, qm.taskMap.lookup id = some ptr ->
      id.jobId = jobid -> id ∈ ending.deletes qm jobid job := by
    unfold NoTasks
    rw [taskMap, tasks]
    constructor
    · intro none id ptr found own
      by_contra missed
      refine none id ptr ?_ (by rw [filed.named id ptr found]; exact own)
      rw [GoMap.lookup_eraseAll, if_neg missed]
      exact found
    · intro covers id ptr found own
      rw [GoMap.lookup_eraseAll] at found
      split at found
      · cases found
      · next missed =>
          rw [filed.named id ptr found] at own
          exact missed (covers id ptr found own)
  have noInstances : NoInstances (ending.run qm jobid).1 jobid ↔ NoInstances qm jobid := by
    unfold NoInstances
    rw [registered]
  have noWorkunits (deletes : ending ≠ .finalize) : NoWorkunits (ending.run qm jobid).1 jobid := by
    unfold NoWorkunits
    rw [workQueue, if_neg deletes, frame.1]
    refine ⟨fun id ptr found => deleteWorkunits_clears filed.stored found, fun kind id ptr entry =>
        ?_⟩
    exact deleteWorkunits_clears filed.stored
        (deleteWorkunits_within (filed.within kind) _ id ptr entry).1
  constructor
  · rintro ⟨free, cleared, _⟩
    exact ⟨noTasks.mp free, fun deletes => noInstances.mp (cleared deletes).2⟩
  · rintro ⟨covers, free⟩
    exact ⟨noTasks.mpr covers, fun deletes => ⟨noWorkunits deletes, noInstances.mpr (free deletes)⟩,
        others⟩

end

private def deletedJob : String := "7bd1dfa9-4f0c-4ee2-9f3e-5bb1b4f0c2a6"

/-- An old-style job with one task of this name, which is registered. -/
private def namedTaskServer (taskName : String) : ServerMgr :=
  { ServerMgr.newServerMgr
      { task := fun _ => { Task.blank with ident := ⟨taskName, deletedJob⟩, state := .inProgress }
        nextTask := 1
        jobs := AList.insert deletedJob ⟨deletedJob, .inProgress, false, "", ⟨1, 0, "", false⟩, [0],
            1, ∅, ∅⟩ ∅ } with
    taskMap := AList.insert ⟨taskName, deletedJob⟩ 0 ∅ }

/-- A deletion that succeeds everywhere. -/
private def fullDeletion : Ending :=
  .delete true true ⟨"/data", none, none⟩

private theorem namedTaskServer_filed (taskName : String) : Filed (namedTaskServer taskName) where
  stored := ⟨nofun, nofun, nofun⟩
  within kind := by
    intro id ptr entry
    cases kind <;> cases entry
  named id ptr found := by
    rcases GoMap.lookup_insert_eq_some.mp found with ⟨rfl, _⟩ | ⟨_, missing⟩
    · rfl
    · cases missing

/-- An identifier that is a UUID is long enough for a directory. -/
private theorem fullDeletion_returned (taskName : String) :
    (fullDeletion.run (namedTaskServer taskName) deletedJob).2 = none := by
  have removed : Erasure.rmdir ⟨"/data", none, none⟩ deletedJob = none := by decide +kernel
  exact removed

theorem ending_removes_numbered :
    Filed (namedTaskServer "0") ∧ fullDeletion.Removes (namedTaskServer "0") deletedJob := by
  have filed := namedTaskServer_filed "0"
  refine ⟨filed, (ending_removes_iff filed rfl (fun _ _ => rfl) (fullDeletion_returned "0")).mpr
    ⟨fun id ptr found _ => ?_, fun _ => ?_⟩⟩
  · rcases GoMap.lookup_insert_eq_some.mp found with ⟨rfl, _⟩ | ⟨_, missing⟩
    · exact List.mem_singleton.mpr rfl
    · cases missing
  · intro localID registered
    cases registered

/-- A task with a name of its own survives the deletion of its job. -/
theorem ending_leaves_named :
    Filed (namedTaskServer "align") ∧
    (fullDeletion.run (namedTaskServer "align") deletedJob).2 = none ∧
      ¬fullDeletion.Removes (namedTaskServer "align") deletedJob := by
  refine ⟨namedTaskServer_filed "align", fullDeletion_returned "align", fun removes => ?_⟩
  have left : (fullDeletion.run (namedTaskServer "align") deletedJob).1.taskMap.lookup
      ⟨"align", deletedJob⟩ =
      some 0 := by
    decide
  exact removes.1 _ _ left rfl

end JobRemoval

end Core
end Awe
