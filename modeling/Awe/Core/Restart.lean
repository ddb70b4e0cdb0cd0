import Awe.Core.JobControl

namespace Awe
namespace Core

open Lib Lib.Path

/-!
# Loading a job

After a restart the server reads its jobs back from the database.  `LoadJob`
takes the document of the job, initialises it, and adds the stored workflow
instances one by one, through the same `AddWorkflowInstance` that creation
uses.  That function was written for instances which are new: it refuses an
instance with tasks, and it makes every other one pending.

The documents are taken as they come out of the decoders: the job without
instances, the tasks as objects of the store, and each instance with pointers
to its tasks.  Times, and the priority of the job, are left out.
-/

/-- A document of the collection of workflow instances.  Of its access control
list only the presence is read. -/
structure InstanceDocument where
  wi : WorkflowInstance
  hasACL : Bool

/-- `job.AddWorkflowInstance` of an instance that may have tasks. -/
def Job.addWorkflowInstance (job : Job) (wi : WorkflowInstance) : Except String Job :=
  if (job.instances.lookup wi.localID).isSome then .ok job
  else if wi.tasks ≠ [] then .error "(AddWorkflowInstance) already has tasks !?"
  else .ok { job with instances := job.instances.insert wi.localID { wi with state := .pending } }

namespace Store

/-- The loop of `wi.Init` over the tasks. -/
def initInstanceTasks (info : Info) (jobID : String) : Store -> List Nat -> Except String Store
  | store, [] => .ok store
  | store, ptr :: rest =>
      match (store.task ptr).initRaw info jobID with
      | .error err => .error ("(WorkflowInstance/Init) task.Init returned: " ++ err)
      | .ok task => initInstanceTasks info jobID (store.modifyTask ptr fun _ => task) rest

/-- `wi.Init`.  An instance without an access control list takes that of the job. -/
def instanceInit (info : Info) (owner : String) (store : Store) (document : InstanceDocument) :
    Except String Store :=
  if document.hasACL = false ∧ owner = "" then .error "(WorkflowInstance/Init) no job.ACL.Owner"
  else store.initInstanceTasks info document.wi.jobID document.wi.tasks

/-- `NewWorkflowInstanceArrayFromInterface`, which initialises what it decodes. -/
def initInstances (info : Info) (owner : String) :
    Store -> List InstanceDocument -> Except String Store
  | store, [] => .ok store
  | store, document :: rest =>
      if document.wi.uuid = "" then
        .error ("(NewWorkflowInstanceArrayFromInterface) NewWorkflowInstanceFromInterface returned: " ++
          "(NewWorkflowInstanceFromInterface) wi.ID empty")
      else
        match store.instanceInit info owner document with
        | .error err =>
            .error ("(NewWorkflowInstanceArrayFromInterface) NewWorkflowInstanceFromInterface returned: " ++
              "(NewWorkflowInstanceFromInterface) wi.Init returned: " ++ err)
        | .ok store => initInstances info owner store rest

/-- The key of an instance in `GlobalWorkflowInstanceMap`. -/
def globalKey (wi : WorkflowInstance) : String :=
  wi.jobID ++ "_" ++ wi.localID

/-- The loop of `LoadJob`: the job with the instances so far, and the keys of
`GlobalWorkflowInstanceMap`. -/
def loadInstances (owner : String) : Store -> Job -> List String -> List InstanceDocument ->
    Except String (Store × Job × List String)
  | store, job, global, [] => .ok (store, job, global)
  | store, job, global, document :: rest =>
      if document.wi.uuid = "" then .error "(LoadJob) wi.ID empty"
      else
        match store.instanceInit job.info owner document with
        | .error err => .error ("(LoadJob) wis[i].Init returned: " ++ err)
        | .ok store =>
            match job.addWorkflowInstance document.wi with
            | .error err => .error ("(LoadJob) AddWorkflowInstance returned: " ++ err)
            | .ok job =>
                if globalKey document.wi ∈ global then
                  .error ("(LoadJob) GlobalWorkflowInstanceMap.Add returned: " ++
                    "(WorkflowInstanceMap/Add) workflow_instance " ++ globalKey document.wi ++
                        " already in map")
                else loadInstances owner store job (global ++ [globalKey document.wi]) rest

/-- `LoadJob`, with the documents of the database.  The job document is the
one of the store; the loaded job takes its place there. -/
def loadJob (owner : String) (store : Store) (global : List String)
    (documents : List InstanceDocument) (jobid : String) : Except String (Store × List String) :=
  match store.jobInit jobid with
  | .error err => .error ("(LoadJob) job.Init failed: " ++ err)
  | .ok store =>
      match store.jobs.lookup jobid with
      | none => .error "(LoadJob) c.Find failed: not found"
      | some job =>
          if job.isCWL = false then .ok (store, global)
          else
            match job.context.getWorkflow job.entrypoint with
            | .error err =>
                .error ("(LoadJob) job.Init failed: (job.Init) Workflow \"" ++ job.entrypoint ++
                    "\" not found: " ++ err)
            | .ok _ =>
                if documents = [] then
                  .error ("(LoadJob) no matching WorkflowInstances found for job " ++ jobid)
                else
                  match store.initInstances job.info owner documents with
                  | .error err => .error
                      ("(LoadJob) NewWorkflowInstanceArrayFromInterface returned: " ++ err)
                  | .ok store =>
                      match loadInstances owner store job global documents with
                      | .error err => .error err
                      | .ok (store, job, global) => .ok (store.modifyJob jobid fun _ => job, global)

end Store

namespace Restart

variable {owner jobid : String} {store after : Store} {job : Job} {global : List String}
  {documents : List InstanceDocument}

/-- The documents that the running server leaves in the database for a CWL job:
its workflow is in the context, every instance has an identifier and a name of
its own, and an owner can be found.  The server has just started, so none of
the instances is registered. -/
structure Persisted (owner : String) (store : Store) (global : List String)
    (documents : List InstanceDocument) (jobid : String) (job : Job) : Prop where
  stored : store.jobs.lookup jobid = some job
  isCWL : job.isCWL = true
  noTasks : job.tasks = []
  bare : job.instances = ∅
  workflow : Exists fun definition => job.context.getWorkflow job.entrypoint = .ok definition
  named : forall document, document ∈ documents -> document.wi.uuid ≠ ""
  owned : forall document, document ∈ documents -> document.hasACL = true ∨ owner ≠ ""
  own : forall document, document ∈ documents -> document.wi.jobID = jobid
  distinct : (documents.map fun document => document.wi.localID).Nodup
  fresh : forall document, document ∈ documents -> Store.globalKey document.wi ∉ global

/-- The loaded job has the instance as it was stored, with the same tasks. Tasks are compared as
objects, so that every field of them is included. -/
def Unchanged (store after : Store) (jobid : String) (document : InstanceDocument) : Prop :=
  Exists fun wi => after.instanceOf jobid document.wi.localID = some wi ∧
    wi.state = document.wi.state ∧ wi.tasks = document.wi.tasks ∧
    wi.subworkflows = document.wi.subworkflows ∧ wi.remainSteps = document.wi.remainSteps ∧
    forall ptr, ptr ∈ wi.tasks -> after.task ptr = store.task ptr

/-- The job loads, and every instance comes back unchanged. An instance that comes back in another
state would be run again, or never, so nothing less than equality will do. -/
def Restores (owner : String) (store : Store) (global : List String)
    (documents : List InstanceDocument) (jobid : String) : Prop :=
  Exists fun after => Exists fun registered =>
    store.loadJob owner global documents jobid = .ok (after, registered) ∧
      forall document, document ∈ documents -> Unchanged store after jobid document

/-! ## The loop -/

/-- An instance without tasks passes `Init` as it is. -/
theorem instanceInit_bare {info : Info} {document : InstanceDocument}
    (bare : document.wi.tasks = []) (owned : document.hasACL = true ∨ owner ≠ "") :
    store.instanceInit info owner document = .ok store := by
  unfold Store.instanceInit
  rw [bare, if_neg]
  · rfl
  · rintro ⟨missing, nobody⟩
    rcases owned with present | somebody
    · rw [missing] at present
      cases present
    · exact somebody nobody

theorem initInstances_bare {info : Info}
    (bare : forall document, document ∈ documents -> document.wi.tasks = [])
    (named : forall document, document ∈ documents -> document.wi.uuid ≠ "")
    (owned : forall document, document ∈ documents -> document.hasACL = true ∨ owner ≠ "") :
    store.initInstances info owner documents = .ok store := by
  induction documents with
  | nil => rfl
  | cons document rest inductionHypothesis =>
      unfold Store.initInstances
      rw [if_neg (named document List.mem_cons_self),
        instanceInit_bare (bare document List.mem_cons_self) (owned document List.mem_cons_self)]
      exact inductionHypothesis (fun other member => bare other (List.mem_cons_of_mem _ member))
        (fun other member => named other (List.mem_cons_of_mem _ member))
        (fun other member => owned other (List.mem_cons_of_mem _ member))

/-- An instance with tasks, under a name that is new, ends the loop. -/
theorem loadInstances_bare {loaded : Job} {registered : List String}
    (distinct : (documents.map fun document => document.wi.localID).Nodup)
    (new : forall document, document ∈ documents -> job.instances.lookup document.wi.localID = none)
    (passed : Store.loadInstances owner store job global documents = .ok
    (after, loaded, registered)) :
    forall document, document ∈ documents -> document.wi.tasks = [] := by
  induction documents generalizing store job global with
  | nil => exact fun _ absent => nomatch absent
  | cons document rest inductionHypothesis =>
      unfold Store.loadInstances at passed
      split at passed
      · cases passed
      · cases initialised : store.instanceInit job.info owner document with
        | error err =>
            rw [initialised] at passed
            cases passed
        | ok next =>
            rw [initialised] at passed
            dsimp only at passed
            unfold Job.addWorkflowInstance at passed
            rw [new document List.mem_cons_self, if_neg (by decide)] at passed
            by_cases bare : document.wi.tasks = []
            · rw [if_neg (not_not.mpr bare)] at passed
              dsimp only at passed
              split at passed
              · cases passed
              · intro other member
                rcases List.mem_cons.mp member with rfl | later
                · exact bare
                · rw [List.map_cons, List.nodup_cons] at distinct
                  refine inductionHypothesis distinct.2 (fun another among => ?_) passed other later
                  dsimp only
                  have different : another.wi.localID ≠ document.wi.localID := by
                    intro same
                    exact distinct.1 (List.mem_map.mpr ⟨another, among, same⟩)
                  rw [GoMap.lookup_insert_if, if_neg different]
                  exact new another (List.mem_cons_of_mem _ among)
            · rw [if_pos bare] at passed
              cases passed

/-- Instances without tasks are all added, as pending ones. -/
theorem loadInstances_adds (bare : forall document, document ∈ documents -> document.wi.tasks = [])
    (named : forall document, document ∈ documents -> document.wi.uuid ≠ "")
    (owned : forall document, document ∈ documents -> document.hasACL = true ∨ owner ≠ "")
    (distinct : (documents.map fun document => document.wi.localID).Nodup)
    (own : forall document, document ∈ documents -> document.wi.jobID = jobid)
    (new : forall document, document ∈ documents -> job.instances.lookup document.wi.localID = none)
    (fresh : forall document, document ∈ documents -> Store.globalKey document.wi ∉ global) :
    Exists fun loaded => Exists fun registered =>
      Store.loadInstances owner store job global documents = .ok (store, loaded, registered) ∧
        (forall document, document ∈ documents ->
          loaded.instances.lookup document.wi.localID = some
          { document.wi with state := .pending }) ∧
        forall localID, (forall document, document ∈ documents -> document.wi.localID ≠ localID) ->
          loaded.instances.lookup localID = job.instances.lookup localID := by
  induction documents generalizing job global with
  | nil => exact ⟨job, global, rfl, fun _ absent => (nomatch absent), fun _ _ => rfl⟩
  | cons document rest inductionHypothesis =>
      rw [List.map_cons, List.nodup_cons] at distinct
      have different (other : InstanceDocument) (member : other ∈ rest) :
          other.wi.localID ≠ document.wi.localID := by
        intro same
        exact distinct.1 (List.mem_map.mpr ⟨other, member, same⟩)
      obtain ⟨loaded, registered, passed, added, others⟩ :=
        @inductionHypothesis
          { job with instances := job.instances.insert document.wi.localID { document.wi with
              state := .pending } }
          (global ++ [Store.globalKey document.wi])
          (fun other member => bare other (List.mem_cons_of_mem _ member))
          (fun other member => named other (List.mem_cons_of_mem _ member))
          (fun other member => owned other (List.mem_cons_of_mem _ member)) distinct.2
          (fun other member => own other (List.mem_cons_of_mem _ member))
          (fun other member => by
            dsimp only
            rw [GoMap.lookup_insert_if, if_neg (different other member)]
            exact new other (List.mem_cons_of_mem _ member))
          (fun other member => by
            rw [List.mem_append, List.mem_singleton]
            rintro (before | same)
            · exact fresh other (List.mem_cons_of_mem _ member) before
            · unfold Store.globalKey at same
              rw [own other (List.mem_cons_of_mem _ member), own document List.mem_cons_self]
                  at same
              exact different other member (String.append_right_inj _ |>.mp same))
      refine ⟨loaded, registered, ?_, fun other member => ?_, fun localID missing => ?_⟩
      · unfold Store.loadInstances Job.addWorkflowInstance
        rw [if_neg (named document List.mem_cons_self),
          instanceInit_bare (bare document List.mem_cons_self) (owned document List.mem_cons_self),
          new document List.mem_cons_self]
        dsimp only
        rw [if_neg (by decide), if_neg (not_not.mpr (bare document List.mem_cons_self))]
        dsimp only
        rw [if_neg (fresh document List.mem_cons_self)]
        exact passed
      · rcases List.mem_cons.mp member with rfl | later
        · rw [others other.wi.localID fun another among => different another among]
          dsimp only
          rw [GoMap.lookup_insert_if, if_pos rfl]
        · exact added other later
      · rw [others localID fun other member => missing other (List.mem_cons_of_mem _ member)]
        dsimp only
        rw [GoMap.lookup_insert_if, if_neg (missing document List.mem_cons_self).symm]

/-- `LoadJob` of a CWL job is the initialisation of its instances and the loop. -/
theorem loadJob_eq (persisted : Persisted owner store global documents jobid job) :
    Exists fun ready : Store => ready.task = store.task ∧ ready.jobs.lookup jobid = some job ∧
      store.loadJob owner global documents jobid =
        if documents = [] then
            .error ("(LoadJob) no matching WorkflowInstances found for job " ++ jobid)
        else
          match ready.initInstances job.info owner documents with
          | .error err => .error
              ("(LoadJob) NewWorkflowInstanceArrayFromInterface returned: " ++ err)
          | .ok store =>
              match Store.loadInstances owner store job global documents with
              | .error err => .error err
              | .ok (store, job, global) => .ok (store.modifyJob jobid fun _ => job, global) := by
  rcases persisted.workflow with ⟨definition, resolved⟩
  obtain ⟨ready, isReady⟩ : Exists fun ready : Store => ready = store.modifyJob jobid fun job =>
    if job.isCWL then job else { job with remainTasks := store.uncompleted job.tasks } := ⟨_, rfl⟩
  have initialised : store.jobInit jobid = .ok ready := by
    unfold Store.jobInit
    rw [persisted.stored]
    dsimp only
    rw [persisted.noTasks]
    dsimp only [Store.initTasks]
    rw [isReady]
  have found : ready.jobs.lookup jobid = some job := by
    rw [isReady, Store.modifyJob_lookup, if_pos rfl, persisted.stored, Option.map_some,
        if_pos persisted.isCWL]
  refine ⟨ready, by rw [isReady, Store.modifyJob_task], found, ?_⟩
  unfold Store.loadJob
  rw [initialised]
  dsimp only
  rw [found]
  dsimp only
  rw [if_neg (by rw [persisted.isCWL]; decide), resolved]

/-- A job comes back as it was exactly if all its instances are pending and have no tasks yet.
What was persisted is put in by the function that adds new instances, and this function makes an
instance pending and takes none that has tasks. -/
theorem loadJob_restores_iff (persisted : Persisted owner store global documents jobid job) :
    Restores owner store global documents jobid ↔
      documents ≠ [] ∧ forall document, document ∈ documents ->
        document.wi.tasks = [] ∧ document.wi.state = .pending := by
  have new (document : InstanceDocument) (_ : document ∈ documents) :
      job.instances.lookup document.wi.localID = none := by
    rw [persisted.bare]
    exact AList.lookup_empty _
  rcases loadJob_eq persisted with ⟨ready, tasks, found, isLoad⟩
  have loads (bare : forall document, document ∈ documents -> document.wi.tasks = [])
      (present : documents ≠ []) :
      Exists fun loaded => Exists fun registered =>
        store.loadJob owner global documents jobid = .ok (ready.modifyJob jobid fun _ =>
            loaded, registered) ∧
          forall document, document ∈ documents ->
            (ready.modifyJob jobid fun _ => loaded).instanceOf jobid document.wi.localID =
              some { document.wi with state := .pending } := by
    obtain ⟨loaded, registered, passed, added, _⟩ :=
        @loadInstances_adds owner jobid ready job global documents bare
      persisted.named persisted.owned persisted.distinct persisted.own new persisted.fresh
    refine ⟨loaded, registered, ?_, fun document member => ?_⟩
    · rw [isLoad, if_neg present, initInstances_bare bare persisted.named persisted.owned]
      dsimp only
      rw [passed]
    · unfold Store.instanceOf
      rw [Store.modifyJob_lookup, if_pos rfl, found]
      exact added document member
  constructor
  · rintro ⟨after, registered, loaded, unchanged⟩
    have present : documents ≠ [] := by
      intro empty
      rw [isLoad, if_pos empty] at loaded
      cases loaded
    have bare : forall document, document ∈ documents -> document.wi.tasks = [] := by
      rw [isLoad, if_neg present] at loaded
      cases initialised : ready.initInstances job.info owner documents with
      | error err =>
          rw [initialised] at loaded
          cases loaded
      | ok next =>
          rw [initialised] at loaded
          dsimp only at loaded
          cases passed : Store.loadInstances owner next job global documents with
          | error err =>
              rw [passed] at loaded
              cases loaded
          | ok result =>
              rcases result with ⟨last, final, keys⟩
              exact loadInstances_bare persisted.distinct new passed
    refine ⟨present, fun document member => ⟨bare document member, ?_⟩⟩
    rcases loads bare present with ⟨final, keys, returned, pending⟩
    rw [returned] at loaded
    cases loaded
    rcases unchanged document member with ⟨wi, inside, state, _⟩
    rw [pending document member] at inside
    cases inside
    exact state.symm
  · rintro ⟨present, condition⟩
    obtain ⟨final, keys, returned, pending⟩ :=
        loads (fun document member => (condition document member).1) present
    refine ⟨_, keys, returned, fun document member => ?_⟩
    refine ⟨_, pending document member, (condition document member).2.symm, rfl, rfl, rfl,
        fun ptr inside => ?_⟩
    rw [Store.modifyJob_task, tasks]

private def storedContext : WorkflowContext :=
  AList.insert "#main" (.workflow ⟨"#main", [], [], []⟩) ∅

private def storedJob : Store where
  task := fun _ =>
    { Task.blank with
      ident := ⟨"#main/a", "j"⟩
      globalId := "j_#main/a"
      state := .completed
      workflowInstanceID := "#main"
      workflowInstanceUUID := "u" }
  nextTask := 1
  jobs := AList.insert "j" ⟨"j", .inProgress, true, "#main", ⟨1, 0, "", false⟩, [], 0,
      storedContext, ∅⟩ ∅

/-- The root instance of the job in a state, with some tasks. -/
private def storedInstance (state : ProcessState) (tasks : List Nat) : InstanceDocument :=
  ⟨{ WorkflowInstance.blank with uuid := "u", localID := "#main", jobID := "j", state, tasks },
      true⟩

private theorem storedInstance_persisted (state : ProcessState) (tasks : List Nat) :
    Persisted "owner" storedJob [] [storedInstance state tasks] "j"
      ⟨"j", .inProgress, true, "#main", ⟨1, 0, "", false⟩, [], 0, storedContext, ∅⟩ where
  stored := rfl
  isCWL := rfl
  noTasks := rfl
  bare := rfl
  workflow := ⟨⟨"#main", [], [], []⟩, rfl⟩
  named document member := by
    rw [List.mem_singleton.mp member]
    exact (show "u" ≠ "" by decide)
  owned document member := by
    rw [List.mem_singleton.mp member]
    exact Or.inl rfl
  own document member := by
    rw [List.mem_singleton.mp member]
    rfl
  distinct := List.nodup_singleton _
  fresh _ _ absent := nomatch absent

theorem loadJob_restores_pending :
    Restores "owner" storedJob [] [storedInstance .pending []] "j" := by
  refine (loadJob_restores_iff (storedInstance_persisted .pending [])).mpr
      ⟨List.cons_ne_nil _ _, ?_⟩
  intro document member
  rw [List.mem_singleton.mp member]
  exact ⟨rfl, rfl⟩

/-- A running job does not load, and a completed instance without tasks comes
back as a pending one. -/
theorem loadJob_loses_progress :
    ¬Restores "owner" storedJob [] [storedInstance .queued [0]] "j" ∧
      ¬Restores "owner" storedJob [] [storedInstance .completed []] "j" := by
  constructor
  · rintro ⟨after, registered, loaded, _⟩
    have fails : storedJob.loadJob "owner" [] [storedInstance .queued [0]] "j" =
        .error ("(LoadJob) AddWorkflowInstance returned: " ++
            "(AddWorkflowInstance) already has tasks !?") := rfl
    rw [fails] at loaded
    cases loaded
  · rintro ⟨after, registered, loaded, unchanged⟩
    have state : ((storedJob.loadJob "owner" [] [storedInstance .completed []] "j").toOption.bind
        fun result =>
        (result.1.instanceOf "j" "#main").map WorkflowInstance.state) = some .pending := by
      decide
    rw [loaded] at state
    rcases unchanged _ (List.mem_singleton.mpr rfl) with ⟨wi, inside, kept, _⟩
    change (after.instanceOf "j" "#main").map WorkflowInstance.state = some .pending at state
    rw [show after.instanceOf "j" "#main" = some wi from inside, Option.map_some, kept] at state
    exact absurd state (by decide)

end Restart

end Core
end Awe
