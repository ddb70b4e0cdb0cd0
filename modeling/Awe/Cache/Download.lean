import Mathlib.Data.List.Nodup
import Awe.Cache.Upload
import Awe.Lib.Absolute

namespace Awe
namespace Cache
namespace Download

open Lib Lib.Path Cwl Natives Upload

/-!
# The download of a document

Before a tool runs, the worker calls `ProcessIOData` with the type `download`.  It
goes through the document of the workunit, fetches every `File` into the working
directory and stores where the file is, relative to that directory.  A file that
finds its place taken is diverted into a fresh directory, and so two files of one
name are both kept.

The secondary files of a file and the entries of a listing are placed by the
recursion, which knows the directory of the document only.  A diverted file leaves
its secondary files behind, and is itself left out of the directory whose listing
it is in.  The layout is the one that CWL asks for exactly if this happens to no
file that belongs to others, and the document tells whether it does.

The worker does not have the field `id` of a record removed.  An empty listing is
not sent, so that it is the same as none.
-/

/-- What there is on the disk, and the paths of the files that were fetched. -/
structure State where
  present : String -> Bool
  fetched : List String

namespace State

def add (state : State) (path : String) : State :=
  { state with present := fun other => state.present other || decide (other = path) }

/-- `os.MkdirAll` makes what is missing on the way as well. -/
def addAll (state : State) (path : String) : State :=
  { state with present := fun other => state.present other || decide (OnTheWay other path) }

def fetch (state : State) (path : String) : State :=
  { state.add path with fetched := state.fetched ++ [path] }

end State

structure ShockClient where
  host : String
  token : String

/-- The answers of the operating system and of the Shock server. -/
structure Outside where
  /-- The failure of `os.Stat` for another reason than that the path does not exist. -/
  statError : State -> String -> Option String
  /-- `ioutil.TempDir` with the prefix `input_`: the name of the new directory. -/
  tempDir : State -> String -> Except String String
  mkdirAll : State -> String -> Except String Unit
  fetchFile : State -> (filePath location token : String) -> Except String Unit

/-- The location up to its query. -/
def withoutQuery (location : String) : String :=
  String.ofList (location.toList.takeWhile (· ≠ '?'))

def basenameOf (file : FileFields) : String :=
  if file.basename = "" then base (withoutQuery file.location) else file.basename

section

variable (outside : Outside) (shockClient : Option ShockClient)

/-- The path for a file, in a fresh directory if there is something already. -/
def chooseTarget (downloadPath basename : String) (state : State) :
    Except Failure (String × State) :=
  let filePath := joinPath downloadPath basename
  if state.present filePath then
    match outside.tempDir state downloadPath with
    | .error text => .error (.error ("(DownloadFile) ioutil.TempDir returned: " ++ text))
    | .ok name =>
        let newdir := joinPath downloadPath name
        .ok (joinPath newdir basename, state.add newdir)
  else .ok (filePath, state)

/-- `os.MkdirAll` with the error of the caller. -/
def makeAll (caller path : String) (state : State) : Except Failure State :=
  match outside.mkdirAll state path with
  | .error text => .error (.error (caller ++ " returned: " ++ text))
  | .ok () => .ok (state.addAll path)

def ensureDirectory (downloadPath : String) (state : State) : Except Failure State :=
  if state.present downloadPath then .ok state
  else
    match outside.statError state downloadPath with
    | some text => .error (.error ("(DownloadFile) os.Stat returned: " ++ text))
    | none => makeAll outside "(DownloadFile) os.MkdirAll" downloadPath state

def tokenFor (location : String) : String :=
  match shockClient with
  | none => ""
  | some client => if hasPrefix location client.host then client.token else ""

/-- `shock.FetchFile`, which makes the file with this path. -/
def fetch (filePath downloadPath basename location : String) (state : State) :
    Except Failure State :=
  let token := tokenFor shockClient location
  match outside.fetchFile state filePath location token with
  | .error text =>
      .error (.error ("(DownloadFile) shock.FetchFile returned: " ++ text ++ " (download_path: " ++
          downloadPath ++
        ", basename: " ++ basename ++ ", file.Location: " ++ location ++ ", TokenLength: " ++
        toString token.utf8ByteSize ++ ")"))
  | .ok () => .ok (state.fetch filePath)

/-- `DownloadFile`. -/
def downloadFile (basePath downloadPath : String) (file : FileFields) (state : State) :
    Except Failure (FileFields × State) :=
  if file.contents ≠ "" then .error (.error "(DownloadFile) File is a literal")
  else if file.location = "" then .error (.error "(DownloadFile) Location is empty")
  else
    let basename := basenameOf file
    if basename = "" then .error (.error "(DownloadFile) Basename is empty")
    else do
      let target <- chooseTarget outside downloadPath basename state
      let ready <- ensureDirectory outside downloadPath target.2
      let after <- fetch outside shockClient target.1 downloadPath basename file.location ready
      let root := joinPath (trimSuffix basePath "/") "/"
      .ok ({ file with basename, location := relativeTo root target.1, nameroot := "" }, after)

/-- The name of the directory that a `Directory` is downloaded to. -/
def directoryName (directory : DirectoryFields) : String :=
  if directory.basename = "" then base directory.path else directory.basename

/-- What is done for a `Directory` before its listing. -/
def enterDirectory (currentPath : String) (directory : DirectoryFields) (listing : List Value)
    (state : State) :
    Except Failure (DirectoryFields × State) :=
  if listing = [] ∧ directory.location = "" ∧ directory.path = "" then
    .error (.error "(ProcessIOData) cwl.Directory needs either Listing, Location or Path")
  else
    let basename := directoryName directory
    if basename = "" then .error (.error "(ProcessIOData) basename of subdir is empty")
    else if directory.location = "" then .ok ({ directory with path := "" }, state)
    else
      (makeAll outside "(ProcessIOData) MkdirAll" (joinPath currentPath basename) state).map
        fun after => ({ directory with path := "", location := basename }, after)

variable (basePath : String)

mutual

/-- `ProcessIOData` with the type `download`, of a value.  It gives the value, what
the disk is like then, and the count of files. -/
def processIOData (currentPath : String) : Value -> State -> Except Failure (Value × State × Nat)
  | .null, state => .ok (.null, state, 0)
  | .boolean value, state => .ok (.boolean value, state, 0)
  | .int value, state => .ok (.int value, state, 0)
  | .long _, _ => noHandler "*cwl.Long"
  | .float _, _ => noHandler "*cwl.Float"
  | .double value, state => .ok (.double value, state, 0)
  | .string text, state => .ok (.string text, state, 0)
  | .file fields secondaryFiles, state => do
      let downloaded <- wrap "(ProcessIOData) DownloadFile returned: "
        (downloadFile outside shockClient basePath currentPath fields state)
      let others <- wrap "(ProcessIOData) (for SecondaryFiles) ProcessIOData returned: "
        (processValues currentPath secondaryFiles downloaded.2)
      .ok (.file downloaded.1 others.1, others.2.1, 1 + others.2.2)
  | .directory fields listing, state => do
      let entered <- enterDirectory outside currentPath fields listing state
      let entries <- wrap "(ProcessIOData) ProcessIOData for Directory.Listing returned: "
        (processValues (joinPath currentPath (directoryName fields)) listing entered.2)
      .ok (.directory entered.1 entries.1, entries.2)
  | .array items, state => do
      let entries <- wrap ("(ProcessIOData) (for *cwl.Array) currentPath:" ++ currentPath ++
          " ProcessIOData returned: ")
        (processValues currentPath items state)
      .ok (.array entries.1, entries.2)
  | .record fields, state => do
      let entries <- processFields currentPath fields state
      .ok (.record entries.1, entries.2)

/-- The loop over the elements of a slice. -/
def processValues (currentPath : String) :
    List Value -> State -> Except Failure (List Value × State × Nat)
  | [], state => .ok ([], state, 0)
  | value :: rest, state => do
      let first <- processIOData currentPath value state
      let later <- processValues currentPath rest first.2.1
      .ok (first.1 :: later.1, later.2.1, first.2.2 + later.2.2)

/-- The loop over the fields of a record, in some order. -/
def processFields (currentPath : String) :
    List (String × Value) -> State -> Except Failure (List (String × Value) × State × Nat)
  | [], state => .ok ([], state, 0)
  | (key, value) :: rest, state => do
      let first <- processIOData currentPath value state
      let later <- processFields currentPath rest first.2.1
      .ok ((key, first.1) :: later.1, later.2.1, first.2.2 + later.2.2)

end

/-- `ProcessIOData` of a job document: its values are named like those of a record. -/
def processDocument (currentPath : String) (document : Document) (state : State) :
    Except Failure (Document × State × Nat) :=
  processFields outside shockClient basePath currentPath document state

end
/-- Where a downloaded file is. -/
def localPath (work : String) (file : FileFields) : String :=
  joinPath work file.location

/-- A value in a document before and after the download, with the directory that it
belongs in. -/
structure Part where
  directory : String
  before : Value
  after : Value

/-- The directory that the values in a value belong in. -/
def directoryOf (directory : String) : Value -> String
  | .directory fields _ => joinPath directory (directoryName fields)
  | _ => directory

inductive PartOf : Part -> Part -> Prop where
  | whole (part : Part) : PartOf part part
  | inside {part : Part} {directory : String} {before after childBefore childAfter : Value}
      (child : (childBefore, childAfter) ∈ (children before).zip (children after))
      (found : PartOf ⟨directoryOf directory before, childBefore, childAfter⟩ part) :
      PartOf ⟨directory, before, after⟩ part

/-- Secondary files are in the directory of their primary file. CWL promises this to a tool, which
finds an index beside its data by the name alone. -/
def Together (work : String) : Value -> Prop
  | .file primary secondaryFiles => forall secondary others,
      .file secondary others ∈ secondaryFiles ->
      dir (localPath work secondary) = dir (localPath work primary)
  | _ => True

/-- The files of a listing are in the directory. A tool is given the path of the directory and
looks the files up in it. -/
def Listed (work : String) (part : Part) : Prop :=
  match part.after with
  | .directory _ listing => forall file others, .file file others ∈ listing ->
      dir (localPath work file) = directoryOf part.directory part.before
  | _ => True

/-- The purpose of the download. It says where every file is at the end, what is at its path, and
which files have to be beside which. -/
structure LaidOut (work : String) (before after : Document) (fetched : List String) : Prop where
  /-- A file is under its location. -/
  located : fetched = (files (.record after)).map (localPath work)
  /-- No two files have one path. -/
  distinct : fetched.Nodup
  named : forall file, file ∈ files (.record after) -> base (localPath work file) = file.basename
  together : forall part, PartOf ⟨work, .record before, .record after⟩ part ->
      Together work part.after
  listed : forall part, PartOf ⟨work, .record before, .record after⟩ part -> Listed work part

/-- A path that the download of a document makes use of.  A file is tied if it has
secondary files, is one, or is an entry of a listing. -/
inductive Demand where
  | enter (path : String)
  | fetch (directory name : String) (tied : Bool)
  deriving DecidableEq

namespace Demand

def path : Demand -> String
  | .enter path => path
  | .fetch directory name _ => joinPath directory name

def isTied : Demand -> Bool
  | .enter _ => false
  | .fetch _ _ tied => tied

/-- The name is one, and the place is in the working directory. -/
def Sensible (work : String) : Demand -> Prop
  | .enter _ => True
  | .fetch directory name _ => Plain name ∧ OnTheWay work directory

instance (work : String) : DecidablePred (Sensible work)
  | .enter _ => inferInstanceAs (Decidable True)
  | .fetch directory name _ => inferInstanceAs (Decidable (Plain name ∧ OnTheWay work directory))

/-- The path of the second is neither the one of the first nor above it. A download at the first
path or below it would otherwise meet what the second one has put there. -/
def Apart (first second : Demand) : Prop :=
  second.isTied = true -> ¬ OnTheWay second.path first.path

instance (first second : Demand) : Decidable (Apart first second) :=
  inferInstanceAs (Decidable (second.isTied = true -> ¬ OnTheWay second.path first.path))

end Demand

def isFile : Value -> Bool
  | .file _ _ => true
  | _ => false

mutual

/-- What a value asks for, in the order of the download. -/
def demands (tied : Bool) (directory : String) : Value -> List Demand
  | .file fields secondaryFiles =>
      .fetch directory (basenameOf fields) (tied || secondaryFiles.any isFile) ::
        demandsOfValues true directory secondaryFiles
  | .directory fields listing =>
      let path := joinPath directory (directoryName fields)
      (if fields.location = "" then [] else [.enter path]) ++ demandsOfValues true path listing
  | .array items => demandsOfValues false directory items
  | .record fields => demandsOfFields directory fields
  | .null | .boolean _ | .int _ | .long _ | .float _ | .double _ | .string _ => []

def demandsOfValues (tied : Bool) (directory : String) : List Value -> List Demand
  | [] => []
  | value :: rest => demands tied directory value ++ demandsOfValues tied directory rest

def demandsOfFields (directory : String) : List (String × Value) -> List Demand
  | [] => []
  | (_, value) :: rest => demands false directory value ++ demandsOfFields directory rest

end

/-- Every file has a name and a place in the working directory, and whoever is tied
finds its path free: nothing before it asks for the path, or for one below it.

What comes before what is the order of the visit.  A list is visited in its order, but the
fields of a record are a Go map, and `before` is then the order in which this run happens to
range over it: the fields stand in the document in that order, and a record whose fields get
in each other's way may be laid out in one run and not in another. -/
structure Undisturbed (work : String) (document : Document) : Prop where
  sensible : forall demand, demand ∈ demandsOfFields work document -> demand.Sensible work
  free : (demandsOfFields work document).Pairwise Demand.Apart

/-- The working directory is there, and there is nothing in it. Nothing has been fetched either,
so all that is there after a download is the work of this download. -/
structure EmptyDirectory (work : String) (state : State) : Prop where
  present : state.present work = true
  empty : forall path, Absolute path -> OnTheWay work path -> path ≠ work ->
      state.present path = false
  above : forall path other, Absolute path -> Absolute other -> OnTheWay other path ->
      state.present path = true ->
    state.present other = true
  fetched : state.fetched = []

/-- A directory of `ioutil.TempDir` is new, and it is not one that the document has a
use for. -/
def FreshDirectories (outside : Outside) (asked : List Demand) : Prop :=
  forall state directory name, Absolute directory -> outside.tempDir state directory = .ok name ->
    Plain name ∧ state.present (joinPath directory name) = false ∧
      forall demand, demand ∈ asked -> ¬ OnTheWay (joinPath directory name) demand.path

/-! ## What a call has done -/

section

variable {outside : Outside} {shockClient : Option ShockClient} {basePath directory : String}
    {state : State}

theorem chooseTarget_cases {basename target : String} {chosen : State}
    (done : chooseTarget outside directory basename state = .ok (target, chosen)) :
    (state.present (joinPath directory basename) = false ∧ target = joinPath directory basename ∧
        chosen = state) ∨
      Exists fun fresh => state.present (joinPath directory basename) = true ∧
        outside.tempDir state directory = .ok fresh ∧
            target = joinPath (joinPath directory fresh) basename ∧
          chosen = state.add (joinPath directory fresh) := by
  unfold chooseTarget at done
  dsimp only at done
  by_cases taken : state.present (joinPath directory basename) = true
  · rw [if_pos taken] at done
    cases made : outside.tempDir state directory with
    | error text =>
        rw [made] at done
        cases done
    | ok fresh =>
        rw [made] at done
        have same := Prod.mk.inj (Except.ok.inj done)
        exact Or.inr ⟨fresh, taken, rfl, same.1.symm, same.2.symm⟩
  · rw [if_neg taken] at done
    have same := Prod.mk.inj (Except.ok.inj done)
    exact Or.inl ⟨Bool.eq_false_iff.mpr taken, same.1.symm, same.2.symm⟩

theorem makeAll_ok {caller path : String} {after : State}
    (done : makeAll outside caller path state = .ok after) :
    after = state.addAll path := by
  unfold makeAll at done
  cases made : outside.mkdirAll state path with
  | error text =>
      rw [made] at done
      cases done
  | ok _ =>
      rw [made] at done
      exact (Except.ok.inj done).symm

theorem ensureDirectory_cases {ready : State}
    (done : ensureDirectory outside directory state = .ok ready) :
    (state.present directory = true ∧ ready = state) ∨
      (state.present directory = false ∧ ready = state.addAll directory) := by
  unfold ensureDirectory at done
  by_cases there : state.present directory = true
  · rw [if_pos there] at done
    exact Or.inl ⟨there, (Except.ok.inj done).symm⟩
  · rw [if_neg there] at done
    cases failed : outside.statError state directory with
    | some text =>
        rw [failed] at done
        cases done
    | none =>
        rw [failed] at done
        exact Or.inr ⟨Bool.eq_false_iff.mpr there, makeAll_ok done⟩

theorem fetch_ok {filePath downloadPath basename location : String} {after : State}
    (done : fetch outside shockClient filePath downloadPath basename location state = .ok after) :
    after = state.fetch filePath := by
  unfold fetch at done
  dsimp only at done
  cases fetched : outside.fetchFile state filePath location (tokenFor shockClient location) with
  | error text =>
      rw [fetched] at done
      cases done
  | ok _ =>
      rw [fetched] at done
      exact (Except.ok.inj done).symm

theorem downloadFile_cases {file after : FileFields} {final : State}
    (done : downloadFile outside shockClient basePath directory file state = .ok (after, final)) :
    Exists fun target => Exists fun chosen => Exists fun ready =>
      chooseTarget outside directory (basenameOf file) state = .ok (target, chosen) ∧
        ensureDirectory outside directory chosen = .ok ready ∧ final = ready.fetch target ∧
          after = { file with
            basename := basenameOf file, nameroot := "",
            location := relativeTo (joinPath (trimSuffix basePath "/") "/") target } := by
  unfold downloadFile at done
  by_cases literal : file.contents ≠ ""
  · rw [if_pos literal] at done
    cases done
  rw [if_neg literal] at done
  by_cases nowhere : file.location = ""
  · rw [if_pos nowhere] at done
    cases done
  rw [if_neg nowhere] at done
  dsimp only at done
  by_cases unnamed : basenameOf file = ""
  · rw [if_pos unnamed] at done
    cases done
  rw [if_neg unnamed] at done
  rcases Fallible.bind_ok_iff.mp done with ⟨⟨target, chosen⟩, chose, done⟩
  rcases Fallible.bind_ok_iff.mp done with ⟨ready, ensured, done⟩
  rcases Fallible.bind_ok_iff.mp done with ⟨fetched, got, done⟩
  have same := Prod.mk.inj (Except.ok.inj done)
  exact ⟨target, chosen, ready, chose, ensured, same.2.symm.trans (fetch_ok got), same.1.symm⟩

theorem enterDirectory_cases {fields after : DirectoryFields} {listing : List Value} {ready : State}
    (done : enterDirectory outside directory fields listing state = .ok (after, ready)) :
    (fields.location = "" ∧ ready = state) ∨
      (fields.location ≠ "" ∧
      ready = state.addAll (joinPath directory (directoryName fields))) := by
  unfold enterDirectory at done
  dsimp only at done
  by_cases missing : listing = [] ∧ fields.location = "" ∧ fields.path = ""
  · rw [if_pos missing] at done
    cases done
  rw [if_neg missing] at done
  by_cases unnamed : directoryName fields = ""
  · rw [if_pos unnamed] at done
    cases done
  rw [if_neg unnamed] at done
  by_cases literal : fields.location = ""
  · rw [if_pos literal] at done
    have same := Prod.mk.inj (Except.ok.inj done)
    exact Or.inl ⟨literal, same.2.symm⟩
  rw [if_neg literal] at done
  cases made : makeAll outside "(ProcessIOData) MkdirAll"
      (joinPath directory (directoryName fields)) state with
  | error failure =>
      rw [made] at done
      cases done
  | ok all =>
      rw [made] at done
      have same := Prod.mk.inj (Except.ok.inj done)
      exact Or.inr ⟨literal, same.2.symm.trans (makeAll_ok made)⟩

end

/-- A value that is neither a file nor a directory. -/
def Passive : Value -> Prop
  | .file _ _ => False
  | .directory _ _ => False
  | _ => True

/-- What is done for a value before the values in it. -/
inductive Opened (outside : Outside) (shockClient : Option ShockClient)
    (basePath directory : String) :
    Value -> State -> Value -> State -> Prop where
  | file {fields after : FileFields} {state ready : State} (secondaryFiles others : List Value)
      (done : downloadFile outside shockClient basePath directory fields state = .ok
          (after, ready)) :
      Opened outside shockClient basePath directory (.file fields secondaryFiles) state
          (.file after others) ready
  | directory {fields after : DirectoryFields} {state ready : State} (listing others : List Value)
      (done : enterDirectory outside directory fields listing state = .ok (after, ready)) :
      Opened outside shockClient basePath directory (.directory fields listing) state
          (.directory after others) ready
  | passive {value after : Value} (state : State) (before : Passive value) (later : Passive after) :
      Opened outside shockClient basePath directory value state after state

section

variable {outside : Outside} {shockClient : Option ShockClient} {basePath : String}

theorem processFields_ok {directory : String} {fields after : List (String × Value)}
    {state final : State} {count : Nat}
    (done : processFields outside shockClient basePath directory fields state = .ok
    (after, final, count)) :
    processValues outside shockClient basePath directory (fields.map Prod.snd) state =
      .ok (after.map Prod.snd, final, count) := by
  induction fields generalizing after state final count with
  | nil =>
      rw [processFields] at done
      cases Except.ok.inj done
      rfl
  | cons field rest inductionHypothesis =>
      rw [processFields] at done
      rcases Fallible.bind_ok_iff.mp done with ⟨⟨first, middle, one⟩, here, done⟩
      rcases Fallible.bind_ok_iff.mp done with ⟨⟨others, last, more⟩, there, done⟩
      cases Except.ok.inj done
      rw [List.map_cons, processValues]
      apply Fallible.bind_ok_iff.mpr
      refine ⟨_, here, ?_⟩
      apply Fallible.bind_ok_iff.mpr
      exact ⟨_, inductionHypothesis there, rfl⟩

theorem processIOData_cases {directory : String} {value after : Value} {state final : State}
    {count : Nat}
    (done : processIOData outside shockClient basePath directory value state = .ok
    (after, final, count)) :
    Exists fun ready => Exists fun below =>
      Opened outside shockClient basePath directory value state after ready ∧
        processValues outside shockClient basePath (directoryOf directory value)
            (children value) ready =
          .ok (children after, final, below) := by
  cases value with
  | file fields secondaryFiles =>
      rw [processIOData] at done
      rcases Fallible.bind_ok_iff.mp done with ⟨⟨fetched, ready⟩, here, done⟩
      rcases Fallible.bind_ok_iff.mp done with ⟨⟨others, last, below⟩, there, done⟩
      cases Except.ok.inj done
      exact ⟨ready, below, .file _ _ (wrap_eq_ok.mp here), wrap_eq_ok.mp there⟩
  | directory fields listing =>
      rw [processIOData] at done
      rcases Fallible.bind_ok_iff.mp done with ⟨⟨entered, ready⟩, here, done⟩
      rcases Fallible.bind_ok_iff.mp done with ⟨⟨others, last, below⟩, there, done⟩
      cases Except.ok.inj done
      exact ⟨ready, _, .directory _ _ here, wrap_eq_ok.mp there⟩
  | array items =>
      rw [processIOData] at done
      rcases Fallible.bind_ok_iff.mp done with ⟨⟨others, last, below⟩, there, done⟩
      cases Except.ok.inj done
      exact ⟨state, _, .passive state trivial trivial, wrap_eq_ok.mp there⟩
  | record fields =>
      rw [processIOData] at done
      rcases Fallible.bind_ok_iff.mp done with ⟨⟨others, last, below⟩, there, done⟩
      cases Except.ok.inj done
      exact ⟨state, _, .passive state trivial trivial, processFields_ok there⟩
  | long _ =>
      rw [processIOData, noHandler] at done
      cases done
  | float _ =>
      rw [processIOData, noHandler] at done
      cases done
  | _ =>
      rw [processIOData] at done
      cases Except.ok.inj done
      exact ⟨state, 0, .passive state trivial trivial, rfl⟩

end

/-! ## Where a file ends up -/

/-- The working directory is still there, with everything above it. A download makes directories
and removes none, which is why this lasts through a run. -/
def Standing (work : String) (state : State) : Prop :=
  forall other, Absolute other -> OnTheWay other work -> state.present other = true

def Grows (state final : State) : Prop :=
  forall path, state.present path = true -> final.present path = true

theorem Grows.trans {first second third : State} (before : Grows first second)
    (after : Grows second third) :
    Grows first third :=
  fun path there => after path (before path there)

theorem Standing.mono {work : String} {state final : State} (standing : Standing work state)
    (grows : Grows state final) :
    Standing work final :=
  fun other absolute onTheWay => grows other (standing other absolute onTheWay)

theorem grows_add (state : State) (path : String) : Grows state (state.add path) := by
  intro other there
  exact Bool.or_eq_true_iff.mpr (Or.inl there)

theorem grows_addAll (state : State) (path : String) : Grows state (state.addAll path) := by
  intro other there
  exact Bool.or_eq_true_iff.mpr (Or.inl there)

/-- The names of new directories are new. It is what `ioutil.TempDir` documents: a name that no
entry had when it was asked for. -/
def FreshNames (outside : Outside) : Prop :=
  forall state directory name, Absolute directory -> outside.tempDir state directory = .ok name ->
    Plain name ∧ state.present (joinPath directory name) = false

/-- The files are at their locations, under their names. -/
def Located (work : String) (paths : List String) (files : List FileFields) : Prop :=
  paths = files.map (localPath work) ∧ forall file, file ∈ files ->
      base (localPath work file) = file.basename

theorem located_append {work : String} {first second : List String} {front back : List FileFields}
    (long : first.length = front.length) :
    Located work (first ++ second) (front ++ back) ↔ Located work first front ∧
    Located work second back := by
  unfold Located
  rw [List.map_append, List.forall_mem_append]
  constructor
  · rintro ⟨same, named⟩
    have parts := List.append_inj same (long.trans (List.length_map _).symm)
    exact ⟨⟨parts.1, named.1⟩, parts.2, named.2⟩
  · rintro ⟨⟨firstSame, firstNamed⟩, secondSame, secondNamed⟩
    exact ⟨congrArg₂ (· ++ ·) firstSame secondSame, firstNamed, secondNamed⟩

section

variable {outside : Outside} {shockClient : Option ShockClient} {work : String}
    (workAbsolute : Absolute work)
  (fresh : FreshNames outside)
include workAbsolute fresh

/-- The path of a file ends in its name and is in the working directory exactly if the
file asks for a sensible place.  Otherwise the path that would be the right one is
there already: it is above the working directory. -/
theorem target_sensible_iff {directory name target : String} {state chosen : State}
    (absolute : Absolute directory) (standing : Standing work state)
    (chose : chooseTarget outside directory name state = .ok (target, chosen)) :
    Absolute target ∧
      (OnTheWay work target ∧ base target = name ↔ Plain name ∧ OnTheWay work directory) := by
  have root : state.present "/" = true := by
    apply standing "/" ⟨[], fun _ absent => absurd absent List.not_mem_nil, by decide⟩
    rcases workAbsolute with ⟨elements, plain, rfl⟩
    have top : absolutePath [] = "/" := by decide
    rw [<- top]
    exact (onTheWay_absolutePath (fun _ absent => absurd absent List.not_mem_nil) plain).mpr
        List.nil_prefix
  have above : forall place : String, Absolute place ->
      state.present (joinPath place name) = false -> Plain name ->
      OnTheWay work (joinPath place name) -> OnTheWay work place := by
    intro place placeAbsolute free named inside
    refine ((placeAbsolute.onTheWay_join named workAbsolute).mp inside).resolve_left ?_
    intro same
    rw [<- same, standing work workAbsolute (onTheWay_self work)] at free
    cases free
  have plainName : forall place : String, Absolute place -> joinPath place name = target ->
      target ≠ "/" ->
      base target = name -> Plain name := by
    intro place placeAbsolute joined below ends
    rw [<- ends]
    exact (joined ▸ placeAbsolute.under name : Absolute target).plain_base below
  rcases chooseTarget_cases chose with ⟨free, rfl, rfl⟩ | ⟨tmp, taken, made, rfl, rfl⟩
  · refine ⟨absolute.under name, ?_, ?_⟩
    · rintro ⟨inside, ends⟩
      have below : joinPath directory name ≠ "/" := by
        intro same
        rw [same, root] at free
        cases free
      have named := plainName directory absolute rfl below ends
      exact ⟨named, above directory absolute free named inside⟩
    · rintro ⟨named, inside⟩
      exact ⟨inside.trans (absolute.onTheWay_of_join named), absolute.base_join named⟩
  · have new := fresh state directory tmp absolute made
    have newAbsolute := absolute.under tmp
    refine ⟨newAbsolute.under name, ?_, ?_⟩
    · rintro ⟨inside, ends⟩
      have below : joinPath (joinPath directory tmp) name ≠ "/" := by
        intro same
        rw [same] at ends
        have slash : name = "/" := ends.symm.trans (by decide)
        rw [slash, newAbsolute.join_slash] at same
        rw [same, root] at new
        cases new.2
      have named := plainName _ newAbsolute rfl below ends
      have missing : forall other, OnTheWay (joinPath directory tmp) other ->
          OnTheWay other work -> False := by
        intro other first second
        have there := standing _ newAbsolute (first.trans second)
        rw [new.2] at there
        cases there
      have insideNew : OnTheWay work (joinPath directory tmp) := by
        refine ((newAbsolute.onTheWay_join named workAbsolute).mp inside).resolve_left ?_
        intro same
        exact missing work (same ▸ newAbsolute.onTheWay_of_join named) (onTheWay_self work)
      refine ⟨named, ((absolute.onTheWay_join new.1 workAbsolute).mp insideNew).resolve_left ?_⟩
      intro same
      exact missing work (same ▸ onTheWay_self work) (onTheWay_self work)
    · rintro ⟨named, inside⟩
      exact ⟨(inside.trans (absolute.onTheWay_of_join new.1)).trans
          (newAbsolute.onTheWay_of_join named),
        newAbsolute.base_join named⟩

end

/-- Files in a value of this kind are tied. -/
def ties : Value -> Bool
  | .file _ _ => true
  | .directory _ _ => true
  | _ => false

def ownDemands (tied : Bool) (directory : String) : Value -> List Demand
  | .file fields secondaryFiles =>
      [.fetch directory (basenameOf fields) (tied || secondaryFiles.any isFile)]
  | .directory fields _ => if fields.location = "" then [] else
      [.enter (joinPath directory (directoryName fields))]
  | _ => []

theorem demandsOfFields_eq (directory : String) (fields : List (String × Value)) :
    demandsOfFields directory fields = demandsOfValues false directory (fields.map Prod.snd) := by
  induction fields with
  | nil => rw [demandsOfFields, List.map_nil, demandsOfValues]
  | cons field rest inductionHypothesis =>
      rw [demandsOfFields, List.map_cons, demandsOfValues, inductionHypothesis]

theorem demands_eq (tied : Bool) (directory : String) (value : Value) :
    demands tied directory value =
      ownDemands tied directory value ++ demandsOfValues (ties value) (directoryOf directory value)
          (children value) := by
  cases value with
  | record fields =>
      rw [demands]
      exact demandsOfFields_eq directory fields
  | file fields secondaryFiles => rw [demands, ownDemands, List.singleton_append]; rfl
  | directory fields listing => rw [demands]; rfl
  | array items => rw [demands]; rfl
  | _ => rw [demands]; rfl

theorem ownDemands_passive {value : Value} (passive : Passive value) (tied : Bool)
    (directory : String) :
    ownDemands tied directory value = [] := by
  cases value with
  | file _ _ => exact passive.elim
  | directory _ _ => exact passive.elim
  | _ => rfl

theorem files_eq (value : Value) :
    files value = (fileOf (head value)).toList ++ (children value).flatMap files := by
  have below : forall values : List Value, (values.flatMap nodes).filterMap fileOf =
      values.flatMap files := by
    intro values
    induction values with
    | nil => rfl
    | cons value rest inductionHypothesis =>
        rw [List.flatMap_cons, List.filterMap_append, inductionHypothesis, List.flatMap_cons, files]
  rw [files, nodes_eq, List.filterMap_cons, below]
  cases fileOf (head value) with
  | none => rfl
  | some file => rfl

theorem fileOf_passive {value : Value} (passive : Passive value) : fileOf (head value) = none := by
  cases value with
  | file _ _ => exact passive.elim
  | directory _ _ => exact passive.elim
  | _ => rfl

section

variable {outside : Outside} {shockClient : Option ShockClient} {work : String}
    (workAbsolute : Absolute work)
include workAbsolute

theorem downloadFile_placed (fresh : FreshNames outside) {directory : String}
    {file after : FileFields} {state final : State} (absolute : Absolute directory)
    (standing : Standing work state)
    (done : downloadFile outside shockClient work directory file state = .ok (after, final)) :
    Exists fun target => final.fetched = state.fetched ++ [target] ∧ Grows state final ∧
      (Located work [target] [after] ↔ Plain (basenameOf file) ∧ OnTheWay work directory) := by
  rcases downloadFile_cases done with ⟨target, chosen, ready, chose, ensured, rfl, rfl⟩
  have sensible := target_sensible_iff workAbsolute fresh absolute standing chose
  have kept : chosen.fetched = state.fetched ∧ Grows state chosen := by
    rcases chooseTarget_cases chose with ⟨_, _, rfl⟩ | ⟨tmp, _, _, _, rfl⟩
    · exact ⟨rfl, fun _ there => there⟩
    · exact ⟨rfl, grows_add _ _⟩
  have still : ready.fetched = chosen.fetched ∧ Grows chosen ready := by
    rcases ensureDirectory_cases ensured with ⟨_, rfl⟩ | ⟨_, rfl⟩
    · exact ⟨rfl, fun _ there => there⟩
    · exact ⟨rfl, grows_addAll _ _⟩
  refine ⟨target, congrArg (· ++ [target]) (still.1.trans kept.1), ?_, ?_⟩
  · exact (kept.2.trans still.2).trans (grows_add ready target)
  · rw [<- sensible.2, Located, workAbsolute.join_trimSuffix]
    have found := workAbsolute.joinPath_relativeTo_iff sensible.1
    simp only [List.map_cons, List.map_nil, List.cons.injEq, and_true, List.forall_mem_singleton,
        localPath]
    constructor
    · rintro ⟨same, ends⟩
      exact ⟨found.mp same.symm, by rw [<- ends, <- same]⟩
    · rintro ⟨inside, ends⟩
      have same := found.mpr inside
      exact ⟨same.symm, by rw [same, ends]⟩

end

/-- A call has fetched these files.  They are where they should be if that was
asked for. -/
def Places (work : String) (state final : State) (asked : List Demand) (files : List FileFields) :
    Prop :=
  Exists fun paths => final.fetched = state.fetched ++ paths ∧ Grows state final ∧
      paths.length = files.length ∧
    (Located work paths files ↔ forall demand, demand ∈ asked -> demand.Sensible work)

theorem places_nothing (work : String) (state : State) : Places work state state [] [] := by
  refine ⟨[], (List.append_nil _).symm, fun _ there => there, rfl, ?_⟩
  exact ⟨fun _ _ absent => absurd absent List.not_mem_nil, fun _ =>
      ⟨rfl, fun _ absent => absurd absent List.not_mem_nil⟩⟩

theorem Places.append {work : String} {first second third : State} {front back : List Demand}
    {earlier later : List FileFields} (before : Places work first second front earlier)
    (after : Places work second third back later) :
    Places work first third (front ++ back) (earlier ++ later) := by
  rcases before with ⟨paths, fetched, grows, long, placed⟩
  rcases after with ⟨others, fetchedLater, growsLater, longLater, placedLater⟩
  refine ⟨paths ++ others, ?_, grows.trans growsLater, ?_, ?_⟩
  · rw [fetchedLater, fetched, List.append_assoc]
  · rw [List.length_append, List.length_append, long, longLater]
  · rw [located_append long, placed, placedLater, List.forall_mem_append]

section

variable {outside : Outside} {shockClient : Option ShockClient} {work : String}
    (workAbsolute : Absolute work)
  (fresh : FreshNames outside)
include workAbsolute fresh

theorem opened_places {directory : String} {value after : Value} {state ready : State} (tied : Bool)
    (absolute : Absolute directory) (standing : Standing work state)
    (opened : Opened outside shockClient work directory value state after ready) :
    Places work state ready (ownDemands tied directory value) (fileOf (head after)).toList := by
  cases opened with
  | file secondaryFiles others done =>
      rcases downloadFile_placed workAbsolute fresh absolute standing done with
          ⟨target, fetched, grows, placed⟩
      refine ⟨[target], fetched, grows, rfl, ?_⟩
      rw [ownDemands, List.forall_mem_singleton]
      exact placed
  | @directory fields entered _ _ listing others done =>
      have nothing : (fileOf (head (.directory entered others))).toList = [] := rfl
      rw [ownDemands, nothing]
      rcases enterDirectory_cases done with ⟨literal, rfl⟩ | ⟨located, rfl⟩
      · rw [if_pos literal]
        exact places_nothing work _
      · rw [if_neg located]
        refine ⟨[], (List.append_nil _).symm, grows_addAll _ _, rfl, ?_⟩
        exact ⟨fun _ => List.forall_mem_singleton.mpr trivial, fun _ =>
            ⟨rfl, fun _ absent => absurd absent List.not_mem_nil⟩⟩
  | passive _ before later =>
      rw [ownDemands_passive before, fileOf_passive later]
      exact places_nothing work _

theorem processIOData_places (value : Value) :
    forall {tied : Bool} {directory : String} {after : Value} {state final : State} {count : Nat},
        Absolute directory -> Standing work state ->
      processIOData outside shockClient work directory value state = .ok (after, final, count) ->
        Places work state final (demands tied directory value) (files after) := by
  apply childInduction (P := fun value => forall {tied : Bool} {directory : String} {after : Value}
    {state final : State} {count : Nat}, Absolute directory -> Standing work state ->
      processIOData outside shockClient work directory value state = .ok (after, final, count) ->
        Places work state final (demands tied directory value) (files after))
  intro value inner tied directory after state final count absolute standing done
  rcases processIOData_cases done with ⟨ready, below, opened, processed⟩
  have own := opened_places workAbsolute fresh tied absolute standing opened
  have inside : Absolute (directoryOf directory value) := by
    cases value with
    | directory fields _ => exact absolute.under _
    | _ => exact absolute
  have standingReady : Standing work ready := by
    rcases own with ⟨_, _, grows, _⟩
    exact standing.mono grows
  rw [demands_eq, files_eq]
  refine own.append ?_
  generalize directoryOf directory value = place at inside processed ⊢
  generalize ties value = bound
  generalize children after = results at processed ⊢
  clear own opened done standing
  revert inner
  generalize children value = values at processed ⊢
  intro inner
  induction values generalizing ready results below with
  | nil =>
      rw [processValues] at processed
      cases Except.ok.inj processed
      exact places_nothing work _
  | cons child rest inductionHypothesis =>
      rw [processValues] at processed
      rcases Fallible.bind_ok_iff.mp processed with ⟨⟨first, middle, one⟩, here, processed⟩
      rcases Fallible.bind_ok_iff.mp processed with ⟨⟨others, last, more⟩, there, processed⟩
      cases Except.ok.inj processed
      have placed := @inner child List.mem_cons_self bound _ _ _ _ _ inside standingReady here
      have standingMiddle : Standing work middle := by
        rcases placed with ⟨_, _, grows, _⟩
        exact standingReady.mono grows
      rw [demandsOfValues, List.flatMap_cons]
      have later := inductionHypothesis middle more standingMiddle others there
        (fun other member => inner other (List.mem_cons_of_mem _ member))
      exact placed.append later

end

/-- What there is on the disk, as far as the document can ask for it, is what there
was at the start and what the demands so far have brought. -/
structure Accounted (start : State) (asked earlier : List Demand) (state : State) : Prop where
  above : forall path other, Absolute path -> Absolute other -> OnTheWay other path ->
      state.present path = true ->
    state.present other = true
  known : forall path, Absolute path ->
      (Exists fun demand => demand ∈ asked ∧ OnTheWay path demand.path) ->
    (state.present path = true ↔
      start.present path = true ∨ Exists fun demand => demand ∈ earlier ∧ OnTheWay path demand.path)
  there : forall path, path ∈ state.fetched -> state.present path = true
  distinct : state.fetched.Nodup

theorem exists_mem_concat {A : Type} {P : A -> Prop} {list : List A} {last : A} :
    (Exists fun value => value ∈ list ++ [last] ∧ P value) ↔
    (Exists fun value => value ∈ list ∧ P value) ∨ P last := by
  constructor
  · rintro ⟨value, member, holds⟩
    rcases List.mem_append.mp member with earlier | final
    · exact Or.inl ⟨value, earlier, holds⟩
    · exact Or.inr (List.mem_singleton.mp final ▸ holds)
  · rintro (⟨value, member, holds⟩ | holds)
    · exact ⟨value, List.mem_append_left _ member, holds⟩
    · exact ⟨last, List.mem_append_right _ (List.mem_singleton_self last), holds⟩

section

variable {start : State} {asked earlier : List Demand}

theorem accounted_start {work : String} (empty : EmptyDirectory work start) :
    Accounted start asked [] start := by
  refine ⟨empty.above, ?_, ?_, ?_⟩
  · intro path _ _
    constructor
    · exact Or.inl
    · rintro (there | ⟨_, absent, _⟩)
      · exact there
      · exact absurd absent List.not_mem_nil
  · rw [empty.fetched]
    exact fun _ absent => absurd absent List.not_mem_nil
  · rw [empty.fetched]
    exact List.nodup_nil

/-- A path has been made, with what is on the way to it, and a file may have been
fetched there. -/
theorem Accounted.made {state final : State} (accounted : Accounted start asked earlier state)
    (demand : Demand) (absolute : Absolute demand.path) (grows : Grows state final)
    (reached : forall path, Absolute path ->
      (final.present path = true ↔ state.present path = true ∨ OnTheWay path demand.path))
    (fetched : final.fetched = state.fetched ∨
      (final.fetched = state.fetched ++ [demand.path] ∧ state.present demand.path = false)) :
    Accounted start asked (earlier ++ [demand]) final := by
  have all : forall path, Absolute path -> OnTheWay path demand.path -> final.present path = true :=
    fun path other onTheWay => (reached path other).mpr (Or.inr onTheWay)
  refine ⟨?_, ?_, ?_, ?_⟩
  · intro path other pathAbsolute otherAbsolute onTheWay there
    rcases (reached path pathAbsolute).mp there with old | new
    · exact grows other (accounted.above path other pathAbsolute otherAbsolute onTheWay old)
    · exact all other otherAbsolute (onTheWay.trans new)
  · intro path pathAbsolute askedFor
    rw [reached path pathAbsolute, accounted.known path pathAbsolute askedFor,
        exists_mem_concat, or_assoc]
  · intro path member
    rcases fetched with same | ⟨same, _⟩
    · exact grows path (accounted.there path (same ▸ member))
    · rw [same] at member
      rcases List.mem_append.mp member with old | new
      · exact grows path (accounted.there path old)
      · rw [List.mem_singleton.mp new]
        exact all _ absolute (onTheWay_self _)
  · rcases fetched with same | ⟨same, free⟩
    · rw [same]
      exact accounted.distinct
    · have new : demand.path ∉ state.fetched := by
        intro member
        rw [accounted.there _ member] at free
        cases free
      rw [same]
      refine List.nodup_append.mpr ⟨accounted.distinct, List.nodup_singleton _, ?_⟩
      intro path member other single repeated
      exact new (List.mem_singleton.mp single ▸ repeated ▸ member)

end

/-! ## One file, in turn -/

theorem present_add {state : State} {path other : String} :
    (state.add path).present other = true ↔ state.present other = true ∨ other = path :=
  Bool.or_eq_true_iff.trans (or_congr_right decide_eq_true_iff)

theorem present_addAll {state : State} {path other : String} :
    (state.addAll path).present other = true ↔ state.present other = true ∨ OnTheWay other path :=
  Bool.or_eq_true_iff.trans (or_congr_right decide_eq_true_iff)

/-- A file is put where it was asked for, or else into a directory that was not there
before. -/
def Settled (state final : State) (directory target : String) : Prop :=
  dir target = directory ∨
    (dir target ≠ directory ∧ state.present (dir target) = false ∧
        final.present (dir target) = true)

section

variable {outside : Outside} {start : State} {asked earlier : List Demand}

theorem FreshDirectories.names (fresh : FreshDirectories outside asked) : FreshNames outside := by
  intro state directory name absolute made
  have new := fresh state directory name absolute made
  exact ⟨new.1, new.2.1⟩

variable {directory name : String} {state ready : State} (absolute : Absolute directory)
    (named : Plain name)
  (accounted : Accounted start asked earlier state)
include absolute named accounted

/-- The place of the file is free. -/
theorem Accounted.direct (tied : Bool) (free : state.present (joinPath directory name) = false)
    (ensured : ensureDirectory outside directory state = .ok ready) :
    Accounted start asked (earlier ++ [.fetch directory name tied])
        (ready.fetch (joinPath directory name)) ∧
      Grows state (ready.fetch (joinPath directory name)) := by
  have made : Grows state ready ∧ ready.fetched = state.fetched ∧ forall path, Absolute path ->
      (ready.present path = true ↔ state.present path = true ∨ OnTheWay path directory) := by
    rcases ensureDirectory_cases ensured with ⟨there, rfl⟩ | ⟨_, rfl⟩
    · refine ⟨fun _ there => there, rfl, fun path other => ⟨Or.inl, ?_⟩⟩
      rintro (old | onTheWay)
      · exact old
      · exact accounted.above directory path absolute other onTheWay there
    · exact ⟨grows_addAll _ _, rfl, fun _ _ => present_addAll⟩
  have grows : Grows state (ready.fetch (joinPath directory name)) :=
      made.1.trans (grows_add ready _)
  refine ⟨?_, grows⟩
  apply accounted.made (.fetch directory name tied) (absolute.under name) grows
  · intro path other
    have added : (ready.fetch (joinPath directory name)).present path = true ↔
        ready.present path = true ∨ path = joinPath directory name := present_add
    rw [added, made.2.2 path other, or_assoc, Demand.path, absolute.onTheWay_join named other]
    exact or_congr_right or_comm
  · exact Or.inr ⟨congrArg (· ++ [joinPath directory name]) made.2.1, free⟩

/-- The place of the file is taken, and a fresh directory is made for it. -/
theorem Accounted.diverted (fresh : FreshDirectories outside asked) (tied : Bool) {tmp : String}
    (taken : state.present (joinPath directory name) = true)
    (made : outside.tempDir state directory = .ok tmp) :
    Accounted start asked (earlier ++ [.fetch directory name tied])
        ((state.add (joinPath directory tmp)).fetch (joinPath (joinPath directory tmp) name)) ∧
      Grows state ((state.add (joinPath directory tmp)).fetch
          (joinPath (joinPath directory tmp) name)) := by
  have new := fresh state directory tmp absolute made
  have newAbsolute := absolute.under tmp
  have thereDirectory :=
      accounted.above _ _ (absolute.under name) absolute (absolute.onTheWay_of_join named) taken
  have finalThere : forall path, ((state.add (joinPath directory tmp)).fetch
      (joinPath (joinPath directory tmp) name)).present path = true ↔
        (state.present path = true ∨ path = joinPath directory tmp) ∨
        path = joinPath (joinPath directory tmp) name :=
    fun path => present_add.trans (or_congr_left present_add)
  have grows : Grows state
      ((state.add (joinPath directory tmp)).fetch (joinPath (joinPath directory tmp) name)) :=
    fun path there => (finalThere path).mpr (Or.inl (Or.inl there))
  have missing : state.present (joinPath (joinPath directory tmp) name) ≠ true := by
    intro there
    have above := accounted.above _ _ (newAbsolute.under name) newAbsolute
        (newAbsolute.onTheWay_of_join named) there
    rw [new.2.1] at above
    cases above
  refine ⟨⟨?_, ?_, ?_, ?_⟩, grows⟩
  · have aboveNew : forall other, Absolute other -> OnTheWay other (joinPath directory tmp) ->
        ((state.add (joinPath directory tmp)).fetch
            (joinPath (joinPath directory tmp) name)).present other = true := by
      intro other otherAbsolute onTheWay
      rcases (absolute.onTheWay_join new.1 otherAbsolute).mp onTheWay with rfl | higher
      · exact (finalThere _).mpr (Or.inl (Or.inr rfl))
      · exact grows _ (accounted.above directory other absolute otherAbsolute higher thereDirectory)
    intro path other pathAbsolute otherAbsolute onTheWay there
    rcases (finalThere path).mp there with (old | rfl) | rfl
    · exact grows other (accounted.above path other pathAbsolute otherAbsolute onTheWay old)
    · exact aboveNew other otherAbsolute onTheWay
    · rcases (newAbsolute.onTheWay_join named otherAbsolute).mp onTheWay with rfl | higher
      · exact (finalThere _).mpr (Or.inr rfl)
      · exact aboveNew other otherAbsolute higher
  · intro path other askedFor
    have strange : ¬ OnTheWay (joinPath directory tmp) path := by
      rcases askedFor with ⟨demand, listed, onTheWay⟩
      exact fun higher => new.2.2 demand listed (higher.trans onTheWay)
    have known := accounted.known path other askedFor
    rw [finalThere, exists_mem_concat]
    constructor
    · rintro ((old | rfl) | rfl)
      · exact (known.mp old).imp_right Or.inl
      · exact absurd (onTheWay_self _) strange
      · exact absurd (newAbsolute.onTheWay_of_join named) strange
    · rintro (first | before | onTheWay)
      · exact Or.inl (Or.inl (known.mpr (Or.inl first)))
      · exact Or.inl (Or.inl (known.mpr (Or.inr before)))
      · exact Or.inl (Or.inl (accounted.above _ path (absolute.under name) other onTheWay taken))
  · intro path member
    rcases List.mem_append.mp member with old | last
    · exact grows path (accounted.there path old)
    · exact (finalThere path).mpr (Or.inr (List.mem_singleton.mp last))
  · refine List.nodup_append.mpr ⟨accounted.distinct, List.nodup_singleton _, ?_⟩
    intro path old other single repeated
    exact missing (List.mem_singleton.mp single ▸ repeated ▸ accounted.there path old)

/-- Whether a file is diverted was settled by what came before it. -/
theorem Accounted.chooseTarget (fresh : FreshDirectories outside asked) (tied : Bool)
    {target : String} {chosen : State}
    (chose : chooseTarget outside directory name state = .ok (target, chosen))
    (ensured : ensureDirectory outside directory chosen = .ok ready) :
    Accounted start asked (earlier ++ [.fetch directory name tied]) (ready.fetch target) ∧
      Grows state (ready.fetch target) ∧ Settled state (ready.fetch target) directory target ∧
        (dir target = directory ↔ state.present (joinPath directory name) = false) := by
  rcases chooseTarget_cases chose with ⟨free, rfl, rfl⟩ | ⟨tmp, taken, made, rfl, rfl⟩
  · have direct := absolute.dir_join named
    have done := accounted.direct absolute named tied free ensured
    exact ⟨done.1, done.2, Or.inl direct, fun _ => free, fun _ => direct⟩
  · have new := fresh state directory tmp absolute made
    have direct := (absolute.under tmp).dir_join named
    have elsewhere : joinPath directory tmp ≠ directory := by
      intro same
      exact absolute.not_onTheWay_join new.1 (same.symm ▸ onTheWay_self _)
    have thereDirectory :=
        accounted.above _ _ (absolute.under name) absolute (absolute.onTheWay_of_join named) taken
    have same : ready = state.add (joinPath directory tmp) := by
      rcases ensureDirectory_cases ensured with ⟨_, unchanged⟩ | ⟨missing, _⟩
      · exact unchanged
      · rw [grows_add state _ directory thereDirectory] at missing
        cases missing
    subst same
    have done := accounted.diverted absolute named fresh tied taken made
    refine ⟨done.1, done.2, Or.inr ?_, ?_⟩
    · rw [direct]
      exact ⟨elsewhere, new.2.1, present_add.mpr (Or.inl (present_add.mpr (Or.inr rfl)))⟩
    · rw [direct, taken]
      exact ⟨fun same => absurd same elsewhere, fun impossible => nomatch impossible⟩

end

/-! ## The parts of a document -/

theorem forall_partOf {directory : String} {before after : Value} {Q : Part -> Prop} :
    (forall part, PartOf ⟨directory, before, after⟩ part -> Q part) ↔
      Q ⟨directory, before, after⟩ ∧ forall childBefore childAfter,
        (childBefore, childAfter) ∈ (children before).zip (children after) ->
          forall part, PartOf ⟨directoryOf directory before, childBefore, childAfter⟩ part ->
          Q part := by
  constructor
  · intro holds
    refine ⟨holds _ (.whole _), ?_⟩
    intro childBefore childAfter child part found
    exact holds part (.inside child found)
  · rintro ⟨top, below⟩ part found
    cases found with
    | whole => exact top
    | inside child found => exact below _ _ child part found

theorem exists_partner {A B : Type} {R : A -> B -> Prop} {firsts : List A} {seconds : List B}
    (related : List.Forall₂ R firsts seconds) {second : B} (member : second ∈ seconds) :
    Exists fun first => (first, second) ∈ firsts.zip seconds := by
  induction related with
  | nil => exact absurd member List.not_mem_nil
  | cons _ _ inductionHypothesis =>
      rcases List.mem_cons.mp member with rfl | later
      · exact ⟨_, List.mem_cons_self⟩
      · rcases inductionHypothesis later with ⟨first, zipped⟩
        exact ⟨first, List.mem_cons_of_mem _ zipped⟩

/-- A value with what is in it is laid out.  A tied file has to be in the directory
that it belongs in. -/
def Fits (work : String) (tied : Bool) (directory : String) (before after : Value) : Prop :=
  (tied = true -> forall file others, after = .file file others ->
      dir (localPath work file) = directory) ∧
    forall part, PartOf ⟨directory, before, after⟩ part -> Together work part.after ∧
        Listed work part

/-- A file is where it belongs, or in a directory that was not there. The directories in question
are the temporary ones, which were not there in the state before. -/
def Kept (work directory : String) (state : State) (before after : Value) : Prop :=
  isFile after = isFile before ∧ forall file others, after = .file file others ->
    dir (localPath work file) = directory ∨ state.present (dir (localPath work file)) = false

theorem Kept.mono {work directory : String} {state final : State} (grows : Grows state final)
    {before after : Value} (kept : Kept work directory final before after) :
    Kept work directory state before after := by
  refine ⟨kept.1, fun file others same => (kept.2 file others same).imp_right ?_⟩
  intro missing
  apply Bool.eq_false_iff.mpr
  intro there
  rw [grows _ there] at missing
  cases missing

section

variable {work directory : String} {tied : Bool} {befores afters : List Value}

theorem any_isFile {state : State}
    (kept : List.Forall₂ (Kept work directory state) befores afters) :
    afters.any isFile = befores.any isFile := by
  induction kept with
  | nil => rfl
  | cons here _ inductionHypothesis =>
      rw [List.any_cons, List.any_cons, here.1, inductionHypothesis]

theorem forall₂_fits {state : State}
    (kept : List.Forall₂ (Kept work directory state) befores afters) :
    List.Forall₂ (Fits work tied directory) befores afters ↔
      (tied = true -> forall file others, .file file others ∈ afters ->
          dir (localPath work file) = directory) ∧
        forall before after, (before, after) ∈ befores.zip afters ->
          forall part, PartOf ⟨directory, before, after⟩ part -> Together work part.after ∧
              Listed work part := by
  constructor
  · intro fit
    have each : forall before after, (before, after) ∈ befores.zip afters ->
        Fits work tied directory before after :=
      fun _ _ zipped => (List.forall₂_iff_zip.mp fit).2 zipped
    refine ⟨?_, fun before after zipped => (each before after zipped).2⟩
    intro bound file others member
    rcases exists_partner kept member with ⟨before, zipped⟩
    exact (each before _ zipped).1 bound file others rfl
  · rintro ⟨own, below⟩
    refine List.forall₂_iff_zip.mpr ⟨kept.length_eq, ?_⟩
    intro before after zipped
    refine ⟨?_, below before after zipped⟩
    rintro bound file others rfl
    exact own bound file others (List.of_mem_zip zipped).2

/-- Where the primary file is diverted, its secondary files are not with it. -/
theorem fits_file {state : State} {fields file : FileFields}
    (kept : List.Forall₂ (Kept work directory state) befores afters)
    (settled : dir (localPath work file) = directory ∨
    state.present (dir (localPath work file)) = true) :
    Fits work tied directory (.file fields befores) (.file file afters) ↔
      ((tied || befores.any isFile) = true -> dir (localPath work file) = directory) ∧
        List.Forall₂ (Fits work true directory) befores afters := by
  rw [forall₂_fits kept, Fits, forall_partOf]
  constructor
  · rintro ⟨own, ⟨together, _⟩, below⟩
    have withOthers : befores.any isFile = true -> dir (localPath work file) = directory := by
      intro some
      rw [<- any_isFile kept] at some
      rcases List.any_eq_true.mp some with ⟨other, member, isFileOther⟩
      cases other with
      | file secondary others =>
          have same := together secondary others member
          rcases settled with direct | there
          · exact direct
          · rcases exists_partner kept member with ⟨before, zipped⟩
            rcases ((List.forall₂_iff_zip.mp kept).2 zipped).2 secondary others rfl with
                direct | missing
            · exact same.symm.trans direct
            · rw [same, there] at missing
              cases missing
      | _ => cases isFileOther
    refine ⟨?_, ?_, below⟩
    · intro bound
      rcases Bool.or_eq_true_iff.mp bound with outer | some
      · exact own outer file afters rfl
      · exact withOthers some
    · intro _ secondary others member
      have some : befores.any isFile = true := by
        rw [<- any_isFile kept]
        exact List.any_eq_true.mpr ⟨_, member, rfl⟩
      exact (together secondary others member).trans (withOthers some)
  · rintro ⟨own, each, below⟩
    refine ⟨?_, ⟨?_, trivial⟩, below⟩
    · rintro bound other others same
      cases same
      exact own (Bool.or_eq_true_iff.mpr (Or.inl bound))
    · intro secondary others member
      have some : befores.any isFile = true := by
        rw [<- any_isFile kept]
        exact List.any_eq_true.mpr ⟨_, member, rfl⟩
      exact (each rfl secondary others member).trans
          (own (Bool.or_eq_true_iff.mpr (Or.inr some))).symm

theorem fits_directory {state : State} {fields entered : DirectoryFields}
    (kept : List.Forall₂ (Kept work (joinPath directory (directoryName fields)) state)
    befores afters) :
    Fits work tied directory (.directory fields befores) (.directory entered afters) ↔
      List.Forall₂ (Fits work true (joinPath directory (directoryName fields))) befores afters := by
  rw [forall₂_fits kept, Fits, forall_partOf]
  constructor
  · rintro ⟨_, ⟨_, listed⟩, below⟩
    exact ⟨fun _ => listed, below⟩
  · rintro ⟨listed, below⟩
    exact ⟨fun _ _ _ impossible => (nomatch impossible), ⟨trivial, listed rfl⟩, below⟩

theorem fits_passive {state : State} {before after : Value} (passive : Passive before)
    (later : Passive after)
    (kept : List.Forall₂ (Kept work directory state) (children before) (children after)) :
    Fits work tied directory before after ↔
      List.Forall₂ (Fits work false directory) (children before) (children after) := by
  have place : directoryOf directory before = directory := by
    cases before with
    | directory _ _ => exact passive.elim
    | _ => rfl
  have nothing : Together work after ∧ Listed work ⟨directory, before, after⟩ := by
    cases after with
    | file _ _ => exact later.elim
    | directory _ _ => exact later.elim
    | _ => exact ⟨trivial, trivial⟩
  rw [forall₂_fits kept, Fits, forall_partOf, place]
  constructor
  · rintro ⟨_, _, below⟩
    exact ⟨fun impossible => (nomatch impossible), below⟩
  · rintro ⟨_, below⟩
    refine ⟨?_, nothing, below⟩
    rintro _ file others rfl
    exact later.elim

end

/-! ## Whoever is tied finds its path free -/

/-- The demands do not disturb each other, nor do the earlier ones disturb them. Demands are
compared in pairs, so that two halves of a download can be put together. -/
def Clear (earlier asked : List Demand) : Prop :=
  asked.Pairwise Demand.Apart ∧ forall first, first ∈ earlier -> forall second, second ∈ asked ->
      first.Apart second

theorem clear_nil (earlier : List Demand) : Clear earlier [] :=
  ⟨List.Pairwise.nil, fun _ _ _ absent => absurd absent List.not_mem_nil⟩

theorem clear_append {earlier front back : List Demand} :
    Clear earlier (front ++ back) ↔ Clear earlier front ∧ Clear (earlier ++ front) back := by
  unfold Clear
  rw [List.pairwise_append]
  constructor
  · rintro ⟨⟨first, second, across⟩, before⟩
    refine ⟨⟨first, fun early member late among =>
        before early member late (List.mem_append_left _ among)⟩, second, ?_⟩
    intro early member late among
    rcases List.mem_append.mp member with old | new
    · exact before early old late (List.mem_append_right _ among)
    · exact across early new late among
  · rintro ⟨⟨first, before⟩, second, across⟩
    refine ⟨⟨first, second, fun early member => across early (List.mem_append_right _ member)⟩, ?_⟩
    intro early member late among
    rcases List.mem_append.mp among with old | new
    · exact before early member late old
    · exact across early (List.mem_append_left _ member) late new

theorem clear_untied {earlier : List Demand} {demand : Demand} (untied : demand.isTied = false) :
    Clear earlier [demand] := by
  refine ⟨List.pairwise_singleton _ _, ?_⟩
  intro first _ second single bound
  rw [List.mem_singleton.mp single, untied] at bound
  cases bound

section

variable {outside : Outside} {shockClient : Option ShockClient} {work : String} {start : State}
    {asked : List Demand}
  (empty : EmptyDirectory work start)
include empty

/-- A tied file finds its path free exactly if no earlier demand has made it. -/
theorem free_iff {earlier : List Demand} {directory name : String} {state : State} (tied : Bool)
    (absolute : Absolute directory) (named : Plain name) (inside : OnTheWay work directory)
    (member : .fetch directory name tied ∈ asked)
    (accounted : Accounted start asked earlier state) :
    (tied = true -> state.present (joinPath directory name) = false) ↔
      Clear earlier [.fetch directory name tied] := by
  have nothing : start.present (joinPath directory name) ≠ true := by
    rw [empty.empty _ (absolute.under name) (inside.trans (absolute.onTheWay_of_join named))]
    · exact Bool.false_ne_true
    · intro same
      exact absolute.not_onTheWay_join named (same.symm ▸ inside)
  have known := accounted.known _ (absolute.under name) ⟨_, member, onTheWay_self _⟩
  constructor
  · intro free
    refine ⟨List.pairwise_singleton _ _, ?_⟩
    intro first before second single bound onTheWay
    rw [List.mem_singleton.mp single] at bound onTheWay
    have there := known.mpr (Or.inr ⟨first, before, onTheWay⟩)
    rw [free bound] at there
    cases there
  · intro clear bound
    apply Bool.eq_false_iff.mpr
    intro there
    rcases known.mp there with old | ⟨first, before, onTheWay⟩
    · exact nothing old
    · exact clear.2 first before _ (List.mem_singleton_self _) bound onTheWay

variable (workAbsolute : Absolute work) (fresh : FreshDirectories outside asked)
include workAbsolute fresh

theorem downloadFile_accounted {earlier : List Demand} {directory : String}
    {file after : FileFields} {state final : State} (tied : Bool) (absolute : Absolute directory)
    (standing : Standing work state) (sensible : Plain (basenameOf file) ∧ OnTheWay work directory)
    (member : .fetch directory (basenameOf file) tied ∈ asked)
    (accounted : Accounted start asked earlier state)
    (done : downloadFile outside shockClient work directory file state = .ok (after, final)) :
    Accounted start asked (earlier ++ [.fetch directory (basenameOf file) tied]) final ∧
    Grows state final ∧
      Settled state final directory (localPath work after) ∧
        ((tied = true -> dir (localPath work after) = directory) ↔
          Clear earlier [.fetch directory (basenameOf file) tied]) := by
  rcases downloadFile_cases done with ⟨target, chosen, ready, chose, ensured, rfl, rfl⟩
  have located := target_sensible_iff workAbsolute fresh.names absolute standing chose
  have found : localPath work { file with
      basename := basenameOf file, nameroot := "",
      location := relativeTo (joinPath (trimSuffix work "/") "/") target } = target := by
    rw [localPath, workAbsolute.join_trimSuffix]
    exact (workAbsolute.joinPath_relativeTo_iff located.1).mpr (located.2.mpr sensible).1
  have placed := accounted.chooseTarget absolute sensible.1 fresh tied chose ensured
  rw [found, <- free_iff empty tied absolute sensible.1 sensible.2 member accounted,
    placed.2.2.2]
  exact ⟨placed.1, placed.2.1, placed.2.2.1, Iff.rfl⟩

theorem opened_accounted {earlier : List Demand} {directory : String} {value after : Value}
    {state ready : State} (tied : Bool) (absolute : Absolute directory)
    (standing : Standing work state)
    (sensible : forall demand, demand ∈ ownDemands tied directory value -> demand.Sensible work ∧
    demand ∈ asked)
    (accounted : Accounted start asked earlier state)
    (opened : Opened outside shockClient work directory value state after ready) :
    Accounted start asked (earlier ++ ownDemands tied directory value) ready ∧
    Grows state ready := by
  cases opened with
  | @file fields _ _ _ secondaryFiles others done =>
      have own := sensible _ (List.mem_singleton_self _)
      have placed := downloadFile_accounted empty workAbsolute fresh _ absolute standing own.1 own.2
          accounted done
      exact ⟨placed.1, placed.2.1⟩
  | @directory fields entered _ _ listing others done =>
      rw [ownDemands]
      rcases enterDirectory_cases done with ⟨literal, rfl⟩ | ⟨located, rfl⟩
      · rw [if_pos literal, List.append_nil]
        exact ⟨accounted, fun _ there => there⟩
      · rw [if_neg located]
        refine ⟨?_, grows_addAll _ _⟩
        exact accounted.made (.enter _) (absolute.under _) (grows_addAll _ _)
            (fun _ _ => present_addAll) (Or.inl rfl)
  | passive _ before later =>
      rw [ownDemands_passive before, List.append_nil]
      exact ⟨accounted, fun _ there => there⟩

end

/-- What the download of some values in one directory has come to. It has the form in which an
induction over a value can use it: what holds in any case, and when the demands are met. -/
structure Outcome (work : String) (start : State) (asked earlier new : List Demand) (tied : Bool)
    (directory : String) (state final : State) (befores afters : List Value) : Prop where
  accounted : Accounted start asked (earlier ++ new) final
  grows : Grows state final
  kept : List.Forall₂ (Kept work directory state) befores afters
  fits : List.Forall₂ (Fits work tied directory) befores afters ↔ Clear earlier new

theorem Outcome.cons {work : String} {start state middle final : State}
    {asked earlier first second : List Demand} {tied : Bool} {directory : String}
    {before after : Value} {befores afters : List Value}
    (here : Outcome work start asked earlier first tied directory state middle [before] [after])
    (later : Outcome work start asked (earlier ++ first) second tied directory middle final
    befores afters) :
    Outcome work start asked earlier (first ++ second) tied directory state final
        (before :: befores)
      (after :: afters) where
  accounted := List.append_assoc earlier first second ▸ later.accounted
  grows := here.grows.trans later.grows
  kept := .cons (List.forall₂_cons.mp here.kept).1 (later.kept.imp fun _ _ => Kept.mono here.grows)
  fits := by
    have single := here.fits
    rw [List.forall₂_cons, and_iff_left List.Forall₂.nil] at single
    rw [clear_append, List.forall₂_cons, single, later.fits]

section

variable {outside : Outside} {shockClient : Option ShockClient} {work : String} {start : State}
    {asked : List Demand}
  (empty : EmptyDirectory work start) (workAbsolute : Absolute work)
      (fresh : FreshDirectories outside asked)
include empty workAbsolute fresh

/-- From the values in a value to the value. -/
theorem opened_outcome {earlier : List Demand} {tied : Bool} {directory : String}
    {value after : Value} {state ready final : State} (absolute : Absolute directory)
    (standing : Standing work state)
    (sensible : forall demand, demand ∈ ownDemands tied directory value -> demand.Sensible work ∧
    demand ∈ asked)
    (accounted : Accounted start asked earlier state)
    (opened : Opened outside shockClient work directory value state after ready)
    (inner : Outcome work start asked (earlier ++ ownDemands tied directory value)
      (demandsOfValues (ties value) (directoryOf directory value) (children value)) (ties value)
      (directoryOf directory value) ready final (children value) (children after)) :
    Outcome work start asked earlier (demands tied directory value) tied directory state final
        [value] [after] := by
  have own := opened_accounted empty workAbsolute fresh tied absolute standing sensible
      accounted opened
  rw [demands_eq]
  have result : Kept work directory state value after ∧ (Fits work tied directory value after ↔
      Clear earlier (ownDemands tied directory value ++
        demandsOfValues (ties value) (directoryOf directory value) (children value))) := by
    rw [clear_append, <- inner.fits]
    cases opened with
    | @file fields entered _ _ secondaryFiles others done =>
        have first := sensible _ (List.mem_singleton_self _)
        have placed := downloadFile_accounted empty workAbsolute fresh _ absolute standing first.1
            first.2 accounted done
        have settled : dir (localPath work entered) = directory ∨
            ready.present (dir (localPath work entered)) = true :=
          placed.2.2.1.imp_right fun moved => moved.2.2
        refine ⟨⟨rfl, ?_⟩, ?_⟩
        · rintro file below same
          cases same
          exact placed.2.2.1.imp_right fun moved => moved.2.1
        · have kept : List.Forall₂ (Kept work directory ready) secondaryFiles others := inner.kept
          rw [fits_file kept settled, placed.2.2.2]
          exact Iff.rfl
    | @directory fields entered _ _ listing others done =>
        refine ⟨⟨rfl, fun _ _ impossible => nomatch impossible⟩,
            (fits_directory inner.kept).trans ?_⟩
        have free : Clear earlier (ownDemands tied directory (.directory fields listing)) := by
          rw [ownDemands]
          by_cases literal : fields.location = ""
          · rw [if_pos literal]
            exact clear_nil earlier
          · rw [if_neg literal]
            exact clear_untied rfl
        exact (and_iff_right free).symm
    | passive _ before later =>
        have place : directoryOf directory value = directory := by
          cases value with
          | directory _ _ => exact before.elim
          | _ => rfl
        have loose : ties value = false := by
          cases value with
          | file _ _ => exact before.elim
          | directory _ _ => exact before.elim
          | _ => rfl
        have kinds : isFile after = isFile value := by
          have none : forall {other : Value}, Passive other -> isFile other = false := by
            intro other passive
            cases other with
            | file _ _ => exact passive.elim
            | _ => rfl
          rw [none before, none later]
        rw [place, loose] at inner
        rw [place, loose, ownDemands_passive before]
        refine ⟨⟨kinds, ?_⟩, (fits_passive before later inner.kept).trans
            (and_iff_right (clear_nil earlier)).symm⟩
        rintro file others rfl
        exact later.elim
  refine ⟨?_, own.2.trans inner.grows, .cons result.1 .nil, ?_⟩
  · rw [<- List.append_assoc]
    exact inner.accounted
  · rw [List.forall₂_cons, and_iff_left List.Forall₂.nil]
    exact result.2

theorem processIOData_outcome (value : Value) :
    forall {tied : Bool} {directory : String} {earlier : List Demand} {after : Value}
        {state final : State} {count : Nat}, Absolute directory -> Standing work state ->
      (forall demand, demand ∈ demands tied directory value -> demand.Sensible work ∧
          demand ∈ asked) ->
        Accounted start asked earlier state ->
          processIOData outside shockClient work directory value state = .ok
              (after, final, count) ->
            Outcome work start asked earlier (demands tied directory value) tied directory state
                final [value] [after] := by
  apply childInduction (P :=
      fun value => forall {tied : Bool} {directory : String} {earlier : List Demand}
    {after : Value} {state final : State} {count : Nat}, Absolute directory ->
        Standing work state ->
      (forall demand, demand ∈ demands tied directory value -> demand.Sensible work ∧
          demand ∈ asked) ->
        Accounted start asked earlier state ->
          processIOData outside shockClient work directory value state = .ok
              (after, final, count) ->
            Outcome work start asked earlier (demands tied directory value) tied directory state
                final [value] [after])
  intro value inner tied directory earlier after state final count absolute standing sensible
      accounted done
  rcases processIOData_cases done with ⟨ready, below, opened, processed⟩
  rw [demands_eq, List.forall_mem_append] at sensible
  have own := opened_accounted empty workAbsolute fresh tied absolute standing sensible.1
      accounted opened
  apply opened_outcome empty workAbsolute fresh absolute standing sensible.1 accounted opened
  have inside : Absolute (directoryOf directory value) := by
    cases value with
    | directory fields _ => exact absolute.under _
    | _ => exact absolute
  have standingReady := standing.mono own.2
  have accountedReady := own.1
  have sensibleBelow := sensible.2
  clear opened done standing own accounted sensible
  generalize directoryOf directory value = place at inside processed sensibleBelow ⊢
  generalize ties value = bound at sensibleBelow ⊢
  generalize children after = results at processed ⊢
  generalize earlier ++ ownDemands tied directory value = before at accountedReady ⊢
  revert inner
  generalize children value = values at processed sensibleBelow ⊢
  intro inner
  induction values generalizing ready results below before with
  | nil =>
      rw [processValues] at processed
      cases Except.ok.inj processed
      rw [demandsOfValues]
      exact ⟨(List.append_nil before).symm ▸ accountedReady, fun _ there => there, .nil,
        fun _ => clear_nil before, fun _ => .nil⟩
  | cons child rest inductionHypothesis =>
      rw [processValues] at processed
      rcases Fallible.bind_ok_iff.mp processed with ⟨⟨first, middle, one⟩, here, processed⟩
      rcases Fallible.bind_ok_iff.mp processed with ⟨⟨others, last, more⟩, there, processed⟩
      cases Except.ok.inj processed
      rw [demandsOfValues, List.forall_mem_append] at sensibleBelow
      rw [demandsOfValues]
      have placed := inner child List.mem_cons_self inside standingReady sensibleBelow.1
          accountedReady here
      apply placed.cons
      exact inductionHypothesis middle more (standingReady.mono placed.grows) others
          _ placed.accounted there
        sensibleBelow.2 (fun other member => inner other (List.mem_cons_of_mem _ member))

end

/-! ## The layout of a document -/

section

variable {outside : Outside} {shockClient : Option ShockClient} {work : String}
    {document result : Document}
  {start final : State} {count : Nat} (absolute : Absolute work) (empty : EmptyDirectory work start)
  (fresh : FreshDirectories outside (demandsOfFields work document))
  (done : processDocument outside shockClient work work document start = .ok (result, final, count))
include absolute empty done

/-- A document is handled like a record with its values. -/
theorem processIOData_record : Standing work start ∧
    processIOData outside shockClient work work (.record document) start = .ok
    (.record result, final, count) ∧
      demands false work (.record document) = demandsOfFields work document := by
  refine ⟨?_, ?_, by rw [demands]⟩
  · exact fun other otherAbsolute onTheWay => empty.above work other absolute otherAbsolute
      onTheWay empty.present
  · rw [processIOData]
    exact Fallible.bind_ok_iff.mpr ⟨_, done, rfl⟩

include fresh

theorem located_iff_sensible :
    Located work final.fetched (files (.record result)) ↔
      forall demand, demand ∈ demandsOfFields work document -> demand.Sensible work := by
  rcases processIOData_record absolute empty done with ⟨standing, asRecord, asked⟩
  have places := @processIOData_places outside shockClient work absolute fresh.names
      (.record document) false work
    _ _ _ _ absolute standing asRecord
  rcases places with ⟨paths, fetched, _, _, placed⟩
  rw [empty.fetched, List.nil_append] at fetched
  rwa [asked, <- fetched] at placed

theorem fits_iff_free
    (sensible : forall demand, demand ∈ demandsOfFields work document -> demand.Sensible work) :
    final.fetched.Nodup ∧ (Fits work false work (.record document) (.record result) ↔
      (demandsOfFields work document).Pairwise Demand.Apart) := by
  rcases processIOData_record absolute empty done with ⟨standing, asRecord, asked⟩
  have outcome := @processIOData_outcome outside shockClient work start _ empty absolute fresh
      (.record document)
    false work [] _ _ _ _ absolute standing
        (fun demand member => ⟨sensible demand (asked ▸ member), asked ▸ member⟩)
    (accounted_start empty) asRecord
  have fits := outcome.fits
  rw [List.forall₂_cons, and_iff_left List.Forall₂.nil, asked] at fits
  refine ⟨outcome.accounted.distinct, fits.trans ?_⟩
  exact and_iff_left fun _ absent => absurd absent List.not_mem_nil

theorem undisturbed_of_laidOut (layout : LaidOut work document result final.fetched) :
    Undisturbed work document := by
  have sensible := (located_iff_sensible absolute empty fresh done).mp
      ⟨layout.located, layout.named⟩
  have fits := (fits_iff_free absolute empty fresh done sensible).2
  refine ⟨sensible, fits.mp ⟨fun impossible => (nomatch impossible), ?_⟩⟩
  exact fun part found => ⟨layout.together part found, layout.listed part found⟩

/-- The download lays a document out exactly if its names are names, its directories are in the
working directory, and no file that belongs to others finds its place taken.  A file that finds
its place taken is put into a directory of its own, but what belongs to it is placed as if it had
not been moved. -/
theorem laidOut_iff : LaidOut work document result final.fetched ↔ Undisturbed work document := by
  constructor
  · exact undisturbed_of_laidOut absolute empty fresh done
  · intro undisturbed
    have located := (located_iff_sensible absolute empty fresh done).mpr undisturbed.sensible
    have outcome := fits_iff_free absolute empty fresh done undisturbed.sensible
    have fits := outcome.2.mpr undisturbed.free
    exact {
      located := located.1
      distinct := outcome.1
      named := located.2
      together := fun part found => (fits.2 part found).1
      listed := fun part found => (fits.2 part found).2
    }

end

/-- A machine on which everything goes well. -/
private def willing : Outside where
  statError _ _ := none
  tempDir state directory :=
    if state.present (joinPath directory "input_1") then .error "file exists" else .ok "input_1"
  mkdirAll _ _ := .ok ()
  fetchFile _ _ _ _ := .ok ()

private def bareMachine : State where
  present path := decide (OnTheWay path "/work")
  fetched := []

private theorem workAbsolute : Absolute "/work" :=
  ⟨["work"], List.forall_mem_singleton.mpr (by decide), by decide⟩

private theorem bareMachine_empty : EmptyDirectory "/work" bareMachine where
  present := by decide
  empty := by
    intro path absolute inside other
    apply decide_eq_false
    intro above
    exact other (absolute.onTheWay_antisymm workAbsolute above inside)
  above := fun path other _ _ onTheWay there =>
      decide_eq_true (onTheWay.trans (of_decide_eq_true there))
  fetched := rfl

private theorem willing_fresh {asked : List Demand}
    (unused : forall demand, demand ∈ asked -> "input_1" ∉ elementsOf demand.path) :
    FreshDirectories willing asked := by
  intro state directory name absolute made
  have plain : Plain "input_1" := by decide
  change (if state.present (joinPath directory "input_1") then _ else _) = _ at made
  by_cases taken : state.present (joinPath directory "input_1") = true
  · rw [if_pos taken] at made
    cases made
  · rw [if_neg taken] at made
    rw [<- Except.ok.inj made]
    refine ⟨plain, Bool.eq_false_iff.mpr taken, fun demand member onTheWay => ?_⟩
    exact unused demand member (absolute.mem_of_onTheWay_join plain onTheWay)

private def remoteFile (id : String) (name : String) : FileFields :=
  { location := "http://shock/node/" ++ id ++ "?download", basename := name }

private def reads : Document :=
  [("reads", .file (remoteFile "1" "a.bam") [.file (remoteFile "2" "a.bam.bai") []]),
    ("index", .directory { basename := "index" } [.file (remoteFile "3" "a.bam") []]),
    ("more", .array [.file (remoteFile "4" "a.bam") []])]

private theorem willing_done {document : Document}
    (done : (processDocument willing none "/work" "/work" document bareMachine).isOk = true) :
    Exists fun result => Exists fun final => Exists fun count =>
      processDocument willing none "/work" "/work" document bareMachine = .ok
          (result, final, count) := by
  cases answer : processDocument willing none "/work" "/work" document bareMachine with
  | error failure =>
      rw [answer] at done
      cases done
  | ok outcome => exact ⟨outcome.1, outcome.2.1, outcome.2.2, rfl⟩

/-- Three files of one name are kept apart, and one of them has its index with it. -/
theorem reads_laidOut : Exists fun result => Exists fun final => Exists fun count =>
    processDocument willing none "/work" "/work" reads bareMachine = .ok (result, final, count) ∧
      LaidOut "/work" reads result final.fetched := by
  rcases @willing_done reads (by decide +kernel) with ⟨result, final, count, done⟩
  refine ⟨result, final, count, done, ?_⟩
  apply (laidOut_iff workAbsolute bareMachine_empty (willing_fresh (by decide +kernel)) done).mpr
  exact ⟨by decide +kernel, by decide +kernel⟩

private def twins : Document :=
  [("first", .file (remoteFile "1" "a.bam") []),
    ("second", .file (remoteFile "2" "a.bam") [.file (remoteFile "3" "a.bam.bai") []])]

/-- The second file is diverted, and its index is not. -/
theorem index_left_behind :
    ¬ forall (outside : Outside) (shockClient : Option ShockClient) (work : String)
        (document result : Document) (start final : State) (count : Nat), Absolute work ->
        EmptyDirectory work start ->
      FreshDirectories outside (demandsOfFields work document) ->
        processDocument outside shockClient work work document start = .ok (result, final, count) ->
          LaidOut work document result final.fetched := by
  intro always
  rcases @willing_done twins (by decide +kernel) with ⟨result, final, count, done⟩
  have unused : FreshDirectories willing (demandsOfFields "/work" twins) :=
      willing_fresh (by decide +kernel)
  have layout := always willing none "/work" twins result bareMachine final count workAbsolute
      bareMachine_empty
    unused done
  have free := (undisturbed_of_laidOut workAbsolute bareMachine_empty unused done layout).free
  have asked : demandsOfFields "/work" twins =
      [.fetch "/work" "a.bam" false, .fetch "/work" "a.bam" true,
      .fetch "/work" "a.bam.bai" true] := by decide +kernel
  rw [asked, List.pairwise_cons] at free
  exact free.1 (.fetch "/work" "a.bam" true) List.mem_cons_self rfl
      (onTheWay_self (joinPath "/work" "a.bam"))

end Download
end Cache
end Awe
