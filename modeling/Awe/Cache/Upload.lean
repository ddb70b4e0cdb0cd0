import Awe.Cwl.Natives

namespace Awe
namespace Cache
namespace Upload

open Lib Lib.Path Cwl Natives

/-!
# The upload of a document

Before a job is submitted, `ProcessIOData` goes through its documents and gives
every local file to Shock.  A `File` that has been uploaded stands for the node
in Shock: it has the location of the node, and neither contents nor a path.

The function has a case for each Go type.  What a call that fails leaves behind
is not modelled, since its caller gives up, and its errors do not show the values
that they are about.  A `Directory` has a listing here;
one that is only named by a path is listed from the disk, by another function.

A value is described by its nodes from the top down.  This is the view in which
the purpose is stated: the nodes of a document are the same afterwards, but for
the files, and each of these stands in Shock.
-/

/-! ## One file -/

/-- What `os.Stat` tells about a path. -/
structure FileInfo where
  isDir : Bool
  size : Int64

/-- The disk and the Shock server. -/
structure Outside where
  stat : String -> Except String FileInfo
  /-- `os.Open`, with the hexadecimal SHA-1 digest of what `io.Copy` then reads. -/
  openFile : String -> Except String (Except String String)
  getwd : String
  postFile : (filePath contents filename : String) -> Except String String
  postFileLazy : (filePath filename contents : String) -> Except String String
  /-- The location of a node, which is put together with `url.Parse`. -/
  nodeURL : String -> Except String String

/-- What stands before the first `://`. -/
def beforeMark : List Char -> Option (List Char)
  | ':' :: '/' :: '/' :: _ => some []
  | [] => none
  | letter :: rest => (beforeMark rest).map (letter :: ·)

/-- The scheme of a location, unless it is missing or empty. -/
def schemeOf (location : String) : Option String :=
  match beforeMark location.toList with
  | none | some [] => none
  | some (first :: rest) => some (String.ofList (first :: rest))

/-- Where the content of a file is. The path decides it, and without one the scheme of the
location. -/
inductive Origin where
  | remote
  | onDisk (filePath : String)
  deriving DecidableEq

/-- The last resort for an empty path. -/
def nonempty (file : FileFields) (filePath : String) : Except Failure Origin :=
  if filePath = "" then
    .error (.error ("(UploadFile) filePath is empty and could not be derived (Location: " ++
        file.location ++ ")"))
  else .ok (.onDisk filePath)

/-- The path of a file, or else its location. -/
def originOf (file : FileFields) : Except Failure Origin :=
  if trimPrefix file.path "file://" ≠ "" then .ok (.onDisk (trimPrefix file.path "file://"))
  else
    match schemeOf file.location with
    | none => nonempty file file.location
    | some scheme =>
        if scheme = "file" then nonempty file (trimPrefix file.location "file://")
        else if scheme = "http" ∨ scheme = "https" ∨ scheme = "ftp" then .ok .remote
        else .error (.error ("(UploadFile) unkown scheme \"" ++ scheme ++ "\""))

/-- A path that is not absolute is one from `inputfilePath`. -/
def absolute (inputfilePath filePath : String) : String :=
  if hasPrefix filePath "/" then filePath else joinPath inputfilePath filePath

section

variable (outside : Outside)

/-- The part of `UploadFile` that looks at the disk.  It gives the file with its
size and checksum, and the name of the new node. -/
def readLocal (inputfilePath filePath : String) (file : FileFields) :
    Except Failure (FileFields × String) :=
  match outside.stat filePath with
  | .error text =>
      .error (.error ("(UploadFile) os.Stat returned: " ++ text ++ " (inputfilePath: " ++
          inputfilePath ++
        ", file.Path: " ++ file.path ++ ", file.Location: " ++ file.location ++
            ", currentWorkingDir: " ++
        outside.getwd ++ ")"))
  | .ok info =>
      if info.isDir then .error (.error ("(UploadFile) file_path is a directory: " ++ filePath))
      else if filePath = "" then .error (.error "(UploadFile) file.Path is empty")
      else
        match outside.openFile filePath with
        | .error text => .error (.error ("(UploadFile) os.Open returned: " ++ text))
        | .ok (.error text) => .error (.error ("(UploadFile) io.Copy returned: " ++ text))
        | .ok (.ok digest) =>
            .ok ({ file with size := some info.size.toInt32, checksum := "sha1$" ++ digest },
              if file.basename ≠ "" then file.basename else base filePath)

/-- The new node in Shock. -/
def post (lazyUpload : Bool) (filePath contents newFileName : String) : Except Failure String :=
  if lazyUpload then
    wrap "(UploadFile) shockClient.PostFileLazy returned: "
      ((outside.postFileLazy filePath newFileName contents).mapError Failure.error)
  else
    wrap "(UploadFile) shockClient.PostFile returned: "
      ((outside.postFile filePath contents newFileName).mapError Failure.error)

/-- `SetPath`. -/
def setPath (file : FileFields) (path : String) : FileFields :=
  if path = "" then { updateComponents file file.path with path := "" }
  else updateComponents { file with path } path

/-- The part of `UploadFile` that gives the file to Shock. -/
def handOver (lazyUpload : Bool) (filePath newFileName : String) (file : FileFields) :
    Except Failure (FileFields × Nat) := do
  let nodeid <- post outside lazyUpload filePath file.contents newFileName
  let location <- wrap "(UploadFile) url.Parse returned: "
      ((outside.nodeURL nodeid).mapError Failure.error)
  .ok ({ setPath { file with contents := "", location } "" with basename := newFileName }, 1)

/-- `UploadFile`. -/
def uploadFile (lazyUpload : Bool) (inputfilePath : String) (file : FileFields) :
    Except Failure (FileFields × Nat) :=
  if hasPrefix inputfilePath "file:" then
    .error (.error ("(UploadFile) prefix file: not allowed in inputfile_path (" ++
        inputfilePath ++ ")"))
  else if file.contents = "" then do
    match <- originOf file with
    | .remote => .ok (file, 0)
    | .onDisk filePath =>
        let described <- readLocal outside inputfilePath (absolute inputfilePath filePath) file
        handOver outside lazyUpload (absolute inputfilePath filePath) described.2 described.1
  else
    let basename := if file.basename = "" then file.id else file.basename
    handOver outside lazyUpload "" basename { file with basename }

variable (lazyUpload : Bool) (currentPath : String)

/-- The last case. -/
def noHandler {A : Type} (goType : String) : Except Failure A :=
  .error (.error ("(processIOData) No handler for type \"" ++ goType ++ "\"\n"))

mutual

/-- `ProcessIOData` with the type `upload`, of a value. -/
def processIOData : Value -> Except Failure (Value × Nat)
  | .null => .ok (.null, 0)
  | .boolean value => .ok (.boolean value, 0)
  | .int value => .ok (.int value, 0)
  | .long _ => noHandler "*cwl.Long"
  | .float _ => noHandler "*cwl.Float"
  | .double value => .ok (.double value, 0)
  | .string text => .ok (.string text, 0)
  | .file fields secondaryFiles => do
      let uploaded <- wrap ("(ProcessIOData) *cwl.File currentPath:" ++ currentPath ++
          " UploadFile returned: ")
        (uploadFile outside lazyUpload currentPath fields)
      let others <- wrap "(ProcessIOData) (for SecondaryFiles) ProcessIOData returned: "
          (processValues secondaryFiles)
      .ok (.file uploaded.1 others.1, uploaded.2 + others.2)
  | .directory fields listing => do
      let entries <- wrap "(ProcessIOData) ProcessIOData for Directory.Listing returned: "
          (processValues listing)
      .ok (.directory fields entries.1, entries.2)
  | .array items => do
      let entries <- wrap ("(ProcessIOData) (for *cwl.Array) currentPath:" ++ currentPath ++
          " ProcessIOData returned: ")
        (processValues items)
      .ok (.array entries.1, entries.2)
  | .record fields => do
      let entries <- processFields fields
      .ok (.record entries.1, entries.2)

/-- The loop over the elements of a slice. -/
def processValues : List Value -> Except Failure (List Value × Nat)
  | [] => .ok ([], 0)
  | value :: rest => do
      let first <- processIOData value
      let later <- processValues rest
      .ok (first.1 :: later.1, first.2 + later.2)

/-- The loop over the fields of a record, in some order. -/
def processFields : List (String × Value) -> Except Failure (List (String × Value) × Nat)
  | [] => .ok ([], 0)
  | (key, value) :: rest => do
      let first <- processIOData value
      let later <- processFields rest
      .ok ((key, first.1) :: later.1, first.2 + later.2)

end

/-- `ProcessIOData` of a job document: its values are named like those of a record. -/
def processDocument (document : Document) : Except Failure (Document × Nat) :=
  processFields outside lazyUpload currentPath document

end

/-! ## Nodes -/

/-- A value without the values in it. A traversal visits these one by one, and a statement about
all files of a value is one about its nodes. -/
inductive Node where
  | null
  | boolean (value : Bool)
  | int (value : Int64)
  | long (value : Int64)
  | float (value : Option (Decimal maxFloat32))
  | double (value : Decimal maxFloat64)
  | string (text : String)
  | file (fields : FileFields) (secondaryFiles : Nat)
  | directory (fields : DirectoryFields) (listing : Nat)
  | array (items : Nat)
  | record (keys : List String)

def head : Value -> Node
  | .null => .null
  | .boolean value => .boolean value
  | .int value => .int value
  | .long value => .long value
  | .float value => .float value
  | .double value => .double value
  | .string text => .string text
  | .file fields secondaryFiles => .file fields secondaryFiles.length
  | .directory fields listing => .directory fields listing.length
  | .array items => .array items.length
  | .record fields => .record (fields.map Prod.fst)

def children : Value -> List Value
  | .file _ secondaryFiles => secondaryFiles
  | .directory _ listing => listing
  | .array items => items
  | .record fields => fields.map Prod.snd
  | _ => []

/-- The value with this node on top of these values. -/
def build : Node -> List Value -> Value
  | .null, _ => .null
  | .boolean value, _ => .boolean value
  | .int value, _ => .int value
  | .long value, _ => .long value
  | .float value, _ => .float value
  | .double value, _ => .double value
  | .string text, _ => .string text
  | .file fields _, values => .file fields values
  | .directory fields _, values => .directory fields values
  | .array _, values => .array values
  | .record keys, values => .record (keys.zip values)

mutual

/-- The nodes of a value, from the top down. -/
def nodes : Value -> List Node
  | .null => [.null]
  | .boolean value => [.boolean value]
  | .int value => [.int value]
  | .long value => [.long value]
  | .float value => [.float value]
  | .double value => [.double value]
  | .string text => [.string text]
  | .file fields secondaryFiles => .file fields secondaryFiles.length :: nodesOfValues
      secondaryFiles
  | .directory fields listing => .directory fields listing.length :: nodesOfValues listing
  | .array items => .array items.length :: nodesOfValues items
  | .record fields => .record (fields.map Prod.fst) :: nodesOfFields fields

def nodesOfValues : List Value -> List Node
  | [] => []
  | value :: rest => nodes value ++ nodesOfValues rest

def nodesOfFields : List (String × Value) -> List Node
  | [] => []
  | (_, value) :: rest => nodes value ++ nodesOfFields rest

end

theorem nodesOfValues_eq (values : List Value) : nodesOfValues values = values.flatMap nodes := by
  induction values with
  | nil => rw [nodesOfValues, List.flatMap_nil]
  | cons value rest inductionHypothesis =>
      rw [nodesOfValues, List.flatMap_cons, inductionHypothesis]

theorem nodesOfFields_eq (fields : List (String × Value)) :
    nodesOfFields fields = (fields.map Prod.snd).flatMap nodes := by
  induction fields with
  | nil => rw [nodesOfFields, List.map_nil, List.flatMap_nil]
  | cons field rest inductionHypothesis =>
      rw [nodesOfFields, List.map_cons, List.flatMap_cons, inductionHypothesis]

theorem nodes_eq (value : Value) : nodes value = head value :: (children value).flatMap nodes := by
  cases value with
  | file fields secondaryFiles => exact congrArg _ (nodesOfValues_eq secondaryFiles)
  | directory fields listing => exact congrArg _ (nodesOfValues_eq listing)
  | array items => exact congrArg _ (nodesOfValues_eq items)
  | record fields => exact congrArg _ (nodesOfFields_eq fields)
  | _ => rfl

theorem zip_fields (fields : List (String × Value)) :
    (fields.map Prod.fst).zip (fields.map Prod.snd) = fields := by
  induction fields with
  | nil => rfl
  | cons field rest inductionHypothesis => exact congrArg (field :: ·) inductionHypothesis

theorem build_head_children (value : Value) : build (head value) (children value) = value := by
  cases value with
  | record fields => exact congrArg Value.record (zip_fields fields)
  | _ => rfl

/-- The top node tells how many values stand below it. -/
theorem children_length {first second : Value} (same : head first = head second) :
    (children first).length = (children second).length := by
  have arity : forall value, (children value).length =
      match head value with
      | .file _ count => count
      | .directory _ count => count
      | .array count => count
      | .record keys => keys.length
      | _ => 0 := by
    intro value
    cases value with
    | record fields => exact (List.length_map _).trans (List.length_map _).symm
    | _ => rfl
  rw [arity first, arity second, same]

mutual

/-- What holds of a value if it holds of the values in it holds of all. -/
theorem childInduction {P : Value -> Prop}
    (step : forall value, (forall child, child ∈ children value -> P child) -> P value) :
    forall value, P value
  | .null => step _ fun _ absent => nomatch absent
  | .boolean _ => step _ fun _ absent => nomatch absent
  | .int _ => step _ fun _ absent => nomatch absent
  | .long _ => step _ fun _ absent => nomatch absent
  | .float _ => step _ fun _ absent => nomatch absent
  | .double _ => step _ fun _ absent => nomatch absent
  | .string _ => step _ fun _ absent => nomatch absent
  | .file _ secondaryFiles => step _ (childInductionValues step secondaryFiles)
  | .directory _ listing => step _ (childInductionValues step listing)
  | .array items => step _ (childInductionValues step items)
  | .record fields => step _ (childInductionFields step fields)

theorem childInductionValues {P : Value -> Prop}
    (step : forall value, (forall child, child ∈ children value -> P child) -> P value) :
    forall (values : List Value) (child : Value), child ∈ values -> P child
  | [], _, absent => nomatch absent
  | value :: rest, child, member =>
      (List.mem_cons.mp member).elim (fun same => same ▸ childInduction step value)
          (childInductionValues step rest child)

theorem childInductionFields {P : Value -> Prop}
    (step : forall value, (forall child, child ∈ children value -> P child) -> P value) :
    forall (fields : List (String × Value)) (child : Value), child ∈ fields.map Prod.snd -> P child
  | [], _, absent => nomatch absent
  | (_, value) :: rest, child, member =>
      (List.mem_cons.mp member).elim (fun same => same ▸ childInduction step value)
          (childInductionFields step rest child)

end

/-- The nodes of a value can be read off the front of a list. -/
theorem nodes_append_injective (first : Value) : forall (second : Value) (front back : List Node),
    nodes first ++ front = nodes second ++ back -> first = second ∧ front = back := by
  apply childInduction (P := fun first => forall (second : Value) (front back : List Node),
    nodes first ++ front = nodes second ++ back -> first = second ∧ front = back)
  intro first below second front back same
  have lists : forall values :
      List Value, (forall child, child ∈ values -> child ∈ children first) ->
      forall (others : List Value) (front back : List Node), values.length = others.length ->
        values.flatMap nodes ++ front = others.flatMap nodes ++ back -> values = others ∧
            front = back := by
    intro values
    induction values with
    | nil =>
        intro _ others front back long same
        rw [List.length_eq_zero_iff.mp long.symm] at same ⊢
        exact ⟨rfl, same⟩
    | cons value rest inductionHypothesis =>
        intro inside others front back long same
        cases others with
        | nil => cases long
        | cons other others =>
            rw [List.flatMap_cons, List.flatMap_cons, List.append_assoc, List.append_assoc] at same
            have here := below value (inside value List.mem_cons_self) other _ _ same
            have later := inductionHypothesis
                (fun child member => inside child (List.mem_cons_of_mem _ member)) others
              front back (Nat.succ.inj long) here.2
            exact ⟨congrArg₂ List.cons here.1 later.1, later.2⟩
  rw [nodes_eq first, nodes_eq second, List.cons_append, List.cons_append, List.cons.injEq] at same
  have parts := lists (children first) (fun _ member => member) (children second) front back
    (children_length same.1) same.2
  refine ⟨?_, parts.2⟩
  calc first = build (head first) (children first) := (build_head_children first).symm
    _ = build (head second) (children second) := by rw [same.1, parts.1]
    _ = second := build_head_children second

theorem nodes_injective {first second : Value} (same : nodes first = nodes second) :
    first = second :=
  (nodes_append_injective first second [] [] (by rw [same])).1

/-- The location names a file on the disk: it is `file://` and a path, or it has no
scheme. -/
def LocalLocation (location : String) : Prop :=
  location ≠ "" ∧
    (schemeOf location = none ∨
        (schemeOf location = some "file" ∧ trimPrefix location "file://" ≠ ""))

/-- The file has a local path or a local location. -/
def OnDisk (file : FileFields) : Prop :=
  trimPrefix file.path "file://" ≠ "" ∨ LocalLocation file.location

/-- The file is somewhere in the network. -/
def Elsewhere (file : FileFields) : Prop :=
  trimPrefix file.path "file://" = "" ∧ (schemeOf file.location = some "http" ∨
    schemeOf file.location = some "https" ∨ schemeOf file.location = some "ftp")

/-- The file is a literal, or it is on the disk. -/
def NeedsUpload (file : FileFields) : Prop :=
  file.contents ≠ "" ∨ OnDisk file

def Remote (file : FileFields) : Prop :=
  file.contents = "" ∧ Elsewhere file

instance : DecidablePred LocalLocation :=
  fun location => inferInstanceAs (Decidable (location ≠ "" ∧
    (schemeOf location = none ∨
        (schemeOf location = some "file" ∧ trimPrefix location "file://" ≠ ""))))

instance : DecidablePred OnDisk :=
  fun file => inferInstanceAs
      (Decidable (trimPrefix file.path "file://" ≠ "" ∨ LocalLocation file.location))

instance : DecidablePred NeedsUpload :=
  fun file => inferInstanceAs (Decidable (file.contents ≠ "" ∨ OnDisk file))

def fileOf : Node -> Option FileFields
  | .file fields _ => some fields
  | _ => none

/-- Every `File` that can be reached in a value. -/
def files (value : Value) : List FileFields :=
  (nodes value).filterMap fileOf

/-- How many files have to be uploaded. -/
def needed (value : Value) : Nat :=
  (files value).countP fun file => decide (NeedsUpload file)

section

variable (outside : Outside)

/-- The file stands for a node in Shock. Without its path nobody can look for it on a disk where
it is no longer. -/
structure InShock (file : FileFields) : Prop where
  location : Exists fun nodeid => outside.nodeURL nodeid = .ok file.location
  contents : file.contents = ""
  path : file.path = ""

def StagedFile (before after : FileFields) : Prop :=
  if NeedsUpload before then InShock outside after else after = before

def StagedNode : Node -> Node -> Prop
  | .file before count, after => Exists fun fields => after = .file fields count ∧
      StagedFile outside before fields
  | before, after => after = before

/-- Every file that needs it has been uploaded, and nothing else has changed. Since the nodes
carry the sizes of what is in them, the same nodes in the same order mean the same shape. -/
def Staged (before after : Value) : Prop :=
  List.Forall₂ (StagedNode outside) (nodes before) (nodes after)

/-- Under this path there is a file that can be read. -/
def IsFile (filePath : String) : Prop :=
  Exists fun info => Exists fun digest => outside.stat filePath = .ok info ∧ info.isDir = false ∧
    outside.openFile filePath = .ok (.ok digest)

/-- If the file is local, it exists. -/
def Present (currentPath : String) (file : FileFields) : Prop :=
  forall filePath, file.contents = "" -> originOf file = .ok (.onDisk filePath) ->
    IsFile outside (absolute currentPath filePath)

/-- All calls of the client succeed.  Shock is a web service, and the location of a
node says so. -/
structure ShockAnswers : Prop where
  posts : forall filePath contents filename,
    Exists fun nodeid => outside.postFile filePath contents filename = .ok nodeid
  postsLazily : forall filePath filename contents,
    Exists fun nodeid => outside.postFileLazy filePath filename contents = .ok nodeid
  locates : forall nodeid, Exists fun rest =>
    outside.nodeURL nodeid = .ok ("http://" ++ rest) ∨
        outside.nodeURL nodeid = .ok ("https://" ++ rest)

end

/-- `ProcessIOData` knows what to do with the node. -/
def Handled (currentPath : String) : Node -> Prop
  | .long _ => False
  | .float _ => False
  | .file fields _ => hasPrefix currentPath "file:" = false ∧ (NeedsUpload fields ∨ Remote fields)
  | _ => True

/-! ## The upload of one file -/

theorem absolute_nonempty {filePath : String} (named : filePath ≠ "") (inputfilePath : String) :
    absolute inputfilePath filePath ≠ "" := by
  unfold absolute joinPath
  split_ifs
  · exact named
  · exact clean_ne_empty _
  · exact clean_ne_empty _

theorem onDisk_not_elsewhere {file : FileFields} (onDisk : OnDisk file) : ¬ Elsewhere file := by
  rintro ⟨path, scheme⟩
  rcases onDisk with named | ⟨_, missing | ⟨isFile, _⟩⟩
  · exact named path
  · rw [missing] at scheme
    rcases scheme with impossible | impossible | impossible <;> cases impossible
  · rw [isFile] at scheme
    rcases scheme with impossible | impossible | impossible <;>
      exact absurd (Option.some.inj impossible) (by decide)

/-- All that `originOf` can find. -/
theorem originOf_cases (file : FileFields) :
    (Exists fun filePath => originOf file = .ok (.onDisk filePath) ∧ filePath ≠ "" ∧ OnDisk file) ∨
      (originOf file = .ok .remote ∧ Elsewhere file) ∨
      (Exists fun failure => originOf file = .error failure ∧ ¬ OnDisk file ∧
      ¬ Elsewhere file) := by
  unfold originOf
  by_cases named : trimPrefix file.path "file://" ≠ ""
  · rw [if_pos named]
    exact Or.inl ⟨_, rfl, named, Or.inl named⟩
  · rw [if_neg named]
    rw [not_not] at named
    cases scheme : schemeOf file.location with
    | none =>
        dsimp only [nonempty]
        by_cases empty : file.location = ""
        · rw [if_pos empty]
          refine Or.inr (Or.inr ⟨_, rfl, ?_, ?_⟩)
          · rintro (other | ⟨other, _⟩)
            · exact other named
            · exact other empty
          · rintro ⟨_, other⟩
            rw [scheme] at other
            rcases other with impossible | impossible | impossible <;> cases impossible
        · rw [if_neg empty]
          exact Or.inl ⟨_, rfl, empty, Or.inr ⟨empty, Or.inl scheme⟩⟩
    | some found =>
        have located : file.location ≠ "" := by
          intro empty
          rw [empty] at scheme
          cases scheme
        dsimp only
        by_cases isFile : found = "file"
        · rw [if_pos isFile, nonempty]
          rw [isFile] at scheme
          by_cases empty : trimPrefix file.location "file://" = ""
          · rw [if_pos empty]
            refine Or.inr (Or.inr ⟨_, rfl, ?_, ?_⟩)
            · rintro (other | ⟨_, other | ⟨_, other⟩⟩)
              · exact other named
              · rw [scheme] at other
                cases other
              · exact other empty
            · rintro ⟨_, other⟩
              rw [scheme] at other
              rcases other with impossible | impossible | impossible <;>
                exact absurd (Option.some.inj impossible) (by decide)
          · rw [if_neg empty]
            exact Or.inl ⟨_, rfl, empty, Or.inr ⟨located, Or.inr ⟨scheme, empty⟩⟩⟩
        · rw [if_neg isFile]
          by_cases web : found = "http" ∨ found = "https" ∨ found = "ftp"
          · rw [if_pos web]
            refine Or.inr (Or.inl ⟨rfl, named, ?_⟩)
            rw [scheme]
            simpa only [Option.some.injEq] using web
          · rw [if_neg web]
            refine Or.inr (Or.inr ⟨_, rfl, ?_, ?_⟩)
            · rintro (other | ⟨_, other | ⟨other, _⟩⟩)
              · exact other named
              · rw [scheme] at other
                cases other
              · rw [scheme] at other
                exact isFile (Option.some.inj other)
            · rintro ⟨_, other⟩
              rw [scheme] at other
              exact web (by simpa only [Option.some.injEq] using other)

/-- The location of a node is one that `originOf` takes for remote. -/
theorem schemeOf_web (rest : String) :
    schemeOf ("http://" ++ rest) = some "http" ∧ schemeOf ("https://" ++ rest) = some "https" := by
  unfold schemeOf
  rw [String.toList_append, String.toList_append]
  exact ⟨rfl, rfl⟩

section

variable {outside : Outside} {currentPath : String}

theorem inShock_remote (shock : ShockAnswers outside) {file : FileFields}
    (staged : InShock outside file) :
    Remote file := by
  rcases staged.location with ⟨nodeid, located⟩
  refine ⟨staged.contents, ?_, ?_⟩
  · rw [staged.path]
    decide
  · rcases shock.locates nodeid with ⟨rest, web | web⟩
    all_goals rw [located] at web
    all_goals rw [Except.ok.inj web]
    · exact Or.inl (schemeOf_web rest).1
    · exact Or.inr (Or.inl (schemeOf_web rest).2)

theorem remote_not_needed {file : FileFields} (remote : Remote file) : ¬ NeedsUpload file := by
  rintro (literal | onDisk)
  · exact literal remote.1
  · exact onDisk_not_elsewhere onDisk remote.2

theorem handOver_staged (shock : ShockAnswers outside) (lazyUpload : Bool)
    (filePath newFileName : String) (file : FileFields) :
    Exists fun after => handOver outside lazyUpload filePath newFileName file = .ok (after, 1) ∧
      InShock outside after := by
  have posted : Exists fun nodeid => post outside lazyUpload filePath file.contents newFileName =
      .ok nodeid := by
    cases lazyUpload with
    | true =>
        rcases shock.postsLazily filePath newFileName file.contents with ⟨nodeid, answered⟩
        exact ⟨nodeid, wrap_eq_ok.mpr (by rw [answered]; rfl)⟩
    | false =>
        rcases shock.posts filePath file.contents newFileName with ⟨nodeid, answered⟩
        exact ⟨nodeid, wrap_eq_ok.mpr (by rw [answered]; rfl)⟩
  rcases posted with ⟨nodeid, posted⟩
  have found : Exists fun location => outside.nodeURL nodeid = .ok location := by
    rcases shock.locates nodeid with ⟨rest, web | web⟩
    · exact ⟨_, web⟩
    · exact ⟨_, web⟩
  rcases found with ⟨location, located⟩
  refine ⟨_, Fallible.bind_ok_iff.mpr
      ⟨nodeid, posted, Fallible.bind_ok_iff.mpr ⟨location, ?_, rfl⟩⟩,
    ⟨nodeid, located⟩, rfl, rfl⟩
  exact wrap_eq_ok.mpr (by rw [located]; rfl)

theorem readLocal_ok {filePath : String} (present : IsFile outside filePath) (named : filePath ≠ "")
    (inputfilePath : String) (file : FileFields) :
    Exists fun described => readLocal outside inputfilePath filePath file = .ok described := by
  rcases present with ⟨info, digest, found, notDirectory, opened⟩
  unfold readLocal
  rw [found]
  dsimp only
  rw [notDirectory, if_neg Bool.false_ne_true, if_neg named, opened]
  exact ⟨_, rfl⟩

theorem uploadFile_staged (shock : ShockAnswers outside) {file : FileFields}
    (present : Present outside currentPath file)
    (handled : hasPrefix currentPath "file:" = false ∧ (NeedsUpload file ∨ Remote file))
    (lazyUpload : Bool) :
    Exists fun after => uploadFile outside lazyUpload currentPath file =
      .ok (after, if NeedsUpload file then 1 else 0) ∧ StagedFile outside file after := by
  unfold uploadFile
  rw [handled.1, if_neg Bool.false_ne_true]
  by_cases literal : file.contents = ""
  · rw [if_pos literal]
    rcases originOf_cases file with ⟨filePath, origin, named, onDisk⟩ | ⟨origin, elsewhere⟩
        | ⟨_, _, neither⟩
    · rcases readLocal_ok (present filePath literal origin) (absolute_nonempty named currentPath)
        currentPath file with
        ⟨described, read⟩
      rcases handOver_staged shock lazyUpload (absolute currentPath filePath) described.2
          described.1 with
        ⟨after, given, staged⟩
      have needs : NeedsUpload file := Or.inr onDisk
      rw [if_pos needs, origin]
      refine ⟨after, ?_, by rw [StagedFile, if_pos needs]; exact staged⟩
      change (readLocal outside currentPath (absolute currentPath filePath) file >>=
          fun described =>
        handOver outside lazyUpload (absolute currentPath filePath) described.2 described.1) = _
      rw [read]
      exact given
    · have notNeeded := remote_not_needed ⟨literal, elsewhere⟩
      rw [if_neg notNeeded, origin]
      exact ⟨file, rfl, by rw [StagedFile, if_neg notNeeded]⟩
    · rcases handled.2 with (other | onDisk) | remote
      · exact absurd literal other
      · exact absurd onDisk neither.1
      · exact absurd remote.2 neither.2
  · have needs : NeedsUpload file := Or.inl literal
    rw [if_neg literal, if_pos needs]
    rcases handOver_staged shock lazyUpload "" _ _ with ⟨after, given, staged⟩
    exact ⟨after, given, by rw [StagedFile, if_pos needs]; exact staged⟩

theorem handled_of_uploadFile {lazyUpload : Bool} {file : FileFields} {result : FileFields × Nat}
    (uploaded : uploadFile outside lazyUpload currentPath file = .ok result) :
    hasPrefix currentPath "file:" = false ∧ (NeedsUpload file ∨ Remote file) := by
  unfold uploadFile at uploaded
  by_cases refused : hasPrefix currentPath "file:" = true
  · rw [if_pos refused] at uploaded
    cases uploaded
  rw [if_neg refused] at uploaded
  refine ⟨Bool.eq_false_iff.mpr refused, ?_⟩
  by_cases literal : file.contents = ""
  · rw [if_pos literal] at uploaded
    rcases originOf_cases file with ⟨_, _, _, onDisk⟩ | ⟨_, elsewhere⟩ | ⟨failure, failed, _⟩
    · exact Or.inl (Or.inr onDisk)
    · exact Or.inr ⟨literal, elsewhere⟩
    · rw [failed] at uploaded
      cases uploaded
  · exact Or.inl (Or.inl literal)

end

/-! ## The upload of a value -/

section

variable (outside : Outside) (lazyUpload : Bool) (currentPath : String)

/-- What `ProcessIOData` does to one node, and how many files this uploads. -/
def visit : Node -> Except Failure (Node × Nat)
  | .long _ => noHandler "*cwl.Long"
  | .float _ => noHandler "*cwl.Float"
  | .file fields count =>
      (uploadFile outside lazyUpload currentPath fields).map fun uploaded =>
          (.file uploaded.1 count, uploaded.2)
  | node => .ok (node, 0)

/-- The nodes are visited one after the other. The upload of a value is this visit, so the
recursion over values is used once and not for each property. -/
def VisitsTo (before after : List Node) (count : Nat) : Prop :=
  Exists fun results : List (Node × Nat) =>
    List.Forall₂ (fun node result => visit outside lazyUpload currentPath node = .ok result)
        before results ∧
      after = results.map Prod.fst ∧ count = (results.map Prod.snd).sum

end

section

variable {outside : Outside} {lazyUpload : Bool} {currentPath : String}

theorem visitsTo_cons {node visited : Node} {before after : List Node} {first count : Nat}
    (here : visit outside lazyUpload currentPath node = .ok (visited, first))
    (later : VisitsTo outside lazyUpload currentPath before after count) :
    VisitsTo outside lazyUpload currentPath (node :: before) (visited :: after)
        (first + count) := by
  rcases later with ⟨results, every, rfl, rfl⟩
  exact ⟨(visited, first) :: results, List.Forall₂.cons here every, rfl, List.sum_cons.symm⟩

theorem visitsTo_append {before after others further : List Node} {first count : Nat}
    (here : VisitsTo outside lazyUpload currentPath before after first)
    (later : VisitsTo outside lazyUpload currentPath others further count) :
    VisitsTo outside lazyUpload currentPath (before ++ others) (after ++ further)
        (first + count) := by
  rcases here with ⟨results, every, rfl, rfl⟩
  rcases later with ⟨more, everyOther, rfl, rfl⟩
  refine ⟨results ++ more, List.rel_append every everyOther, ?_, ?_⟩
  · rw [List.map_append]
  · rw [List.map_append, List.sum_append]

theorem processValues_nil : processValues outside lazyUpload currentPath [] = .ok ([], 0) := by
  rw [processValues]

theorem processValues_cons_ok {value : Value} {rest after : List Value} {count : Nat} :
    processValues outside lazyUpload currentPath (value :: rest) = .ok (after, count) ↔
      Exists fun first : Value × Nat => Exists fun later : List Value × Nat =>
        processIOData outside lazyUpload currentPath value = .ok first ∧
          processValues outside lazyUpload currentPath rest = .ok later ∧
          after = first.1 :: later.1 ∧ count = first.2 + later.2 := by
  rw [processValues, Fallible.bind_ok_iff]
  constructor
  · rintro ⟨first, here, more⟩
    rcases Fallible.bind_ok_iff.mp more with ⟨later, there, same⟩
    cases same
    exact ⟨first, later, here, there, rfl, rfl⟩
  · rintro ⟨first, later, here, there, rfl, rfl⟩
    exact ⟨first, here, Fallible.bind_ok_iff.mpr ⟨later, there, rfl⟩⟩

theorem length_processValues {values after : List Value} {count : Nat}
    (processed : processValues outside lazyUpload currentPath values = .ok (after, count)) :
    after.length = values.length := by
  induction values generalizing after count with
  | nil =>
      rw [processValues_nil] at processed
      cases processed
      rfl
  | cons value rest inductionHypothesis =>
      rcases processValues_cons_ok.mp processed with ⟨first, later, _, there, rfl, _⟩
      exact congrArg Nat.succ (inductionHypothesis there)

/-- The loop over a record is the one over its values. -/
theorem processFields_eq (fields : List (String × Value)) :
    processFields outside lazyUpload currentPath fields =
      (processValues outside lazyUpload currentPath (fields.map Prod.snd)).map fun entries =>
        ((fields.map Prod.fst).zip entries.1, entries.2) := by
  induction fields with
  | nil =>
      simp only [processFields, List.map_nil, processValues]
      rfl
  | cons field rest inductionHypothesis =>
      simp only [processFields, List.map_cons, processValues, inductionHypothesis]
      cases processIOData outside lazyUpload currentPath field.2 with
      | error failure => rfl
      | ok first => cases processValues outside lazyUpload currentPath (rest.map Prod.snd) <;> rfl

/-- `ProcessIOData` visits the top node, and then the values below it. -/
theorem head_of_processIOData {value after : Value} {count : Nat}
    (processed : processIOData outside lazyUpload currentPath value = .ok (after, count)) :
    Exists fun first => Exists fun others =>
      visit outside lazyUpload currentPath (head value) = .ok (head after, first) ∧
        processValues outside lazyUpload currentPath (children value) = .ok
            (children after, others) ∧
        count = first + others := by
  cases value with
  | long value => exact absurd processed nofun
  | float value => exact absurd processed nofun
  | file fields secondaryFiles =>
      rw [processIOData] at processed
      rcases Fallible.bind_ok_iff.mp processed with ⟨uploaded, here, more⟩
      rcases Fallible.bind_ok_iff.mp more with ⟨others, there, same⟩
      cases same
      rw [wrap_eq_ok] at here there
      refine ⟨uploaded.2, others.2, ?_, there, rfl⟩
      change (uploadFile outside lazyUpload currentPath fields).map _ = .ok
          (Node.file uploaded.1 others.1.length, _)
      rw [here, length_processValues there]
      rfl
  | directory fields listing =>
      rw [processIOData] at processed
      rcases Fallible.bind_ok_iff.mp processed with ⟨entries, here, same⟩
      cases same
      rw [wrap_eq_ok] at here
      refine ⟨0, entries.2, ?_, here, (Nat.zero_add _).symm⟩
      change Except.ok (Node.directory fields listing.length, 0) = .ok
          (.directory fields entries.1.length, 0)
      rw [length_processValues here]
  | array items =>
      rw [processIOData] at processed
      rcases Fallible.bind_ok_iff.mp processed with ⟨entries, here, same⟩
      cases same
      rw [wrap_eq_ok] at here
      refine ⟨0, entries.2, ?_, here, (Nat.zero_add _).symm⟩
      change Except.ok (Node.array items.length, 0) = .ok (.array entries.1.length, 0)
      rw [length_processValues here]
  | record fields =>
      rw [processIOData, processFields_eq] at processed
      rcases Fallible.bind_ok_iff.mp processed with ⟨_, mapped, same⟩
      cases here : processValues outside lazyUpload currentPath (fields.map Prod.snd) with
      | error failure =>
          rw [here] at mapped
          cases mapped
      | ok entries =>
          rw [here] at mapped
          cases mapped
          cases same
          have long : entries.1.length = (fields.map Prod.fst).length := by
            rw [length_processValues here, List.length_map, List.length_map]
          refine ⟨0, entries.2, ?_, ?_, (Nat.zero_add _).symm⟩
          · change Except.ok (Node.record (fields.map Prod.fst), 0) =
              .ok (.record (((fields.map Prod.fst).zip entries.1).map Prod.fst), 0)
            rw [List.map_fst_zip (Nat.le_of_eq long.symm)]
          · change processValues outside lazyUpload currentPath (fields.map Prod.snd) =
              .ok (((fields.map Prod.fst).zip entries.1).map Prod.snd, entries.2)
            rw [List.map_snd_zip (Nat.le_of_eq long), here]
  | _ =>
      rw [processIOData] at processed
      cases processed
      exact ⟨0, 0, rfl, processValues_nil, rfl⟩

/-- Nothing else can stop it. -/
theorem processIOData_of_head {value : Value} {top : Node × Nat} {entries : List Value × Nat}
    (visited : visit outside lazyUpload currentPath (head value) = .ok top)
    (below : processValues outside lazyUpload currentPath (children value) = .ok entries) :
    Exists fun result => processIOData outside lazyUpload currentPath value = .ok result := by
  cases value with
  | long value => exact absurd visited nofun
  | float value => exact absurd visited nofun
  | file fields secondaryFiles =>
      cases uploaded : uploadFile outside lazyUpload currentPath fields with
      | error failure =>
          change (uploadFile outside lazyUpload currentPath fields).map _ = _ at visited
          rw [uploaded] at visited
          cases visited
      | ok result =>
          rw [processIOData]
          exact ⟨_, Fallible.bind_ok_iff.mpr ⟨result, wrap_eq_ok.mpr uploaded,
            Fallible.bind_ok_iff.mpr ⟨entries, wrap_eq_ok.mpr below, rfl⟩⟩⟩
  | directory fields listing =>
      rw [processIOData]
      exact ⟨_, Fallible.bind_ok_iff.mpr ⟨entries, wrap_eq_ok.mpr below, rfl⟩⟩
  | array items =>
      rw [processIOData]
      exact ⟨_, Fallible.bind_ok_iff.mpr ⟨entries, wrap_eq_ok.mpr below, rfl⟩⟩
  | record fields =>
      rw [processIOData, processFields_eq]
      exact ⟨_, Fallible.bind_ok_iff.mpr
          ⟨_, by rw [show processValues outside lazyUpload currentPath
        (fields.map Prod.snd) = .ok entries from below]; rfl, rfl⟩⟩
  | _ =>
      rw [processIOData]
      exact ⟨_, rfl⟩

/-- A value that has been processed is one whose nodes have been visited. -/
theorem visitsTo_of_processIOData (value : Value) : forall {after : Value} {count : Nat},
    processIOData outside lazyUpload currentPath value = .ok (after, count) ->
      VisitsTo outside lazyUpload currentPath (nodes value) (nodes after) count := by
  apply childInduction (P := fun value => forall {after : Value} {count : Nat},
    processIOData outside lazyUpload currentPath value = .ok (after, count) ->
      VisitsTo outside lazyUpload currentPath (nodes value) (nodes after) count)
  intro value below after count processed
  have lists : forall values :
      List Value, (forall child, child ∈ values -> child ∈ children value) ->
      forall {others : List Value} {count : Nat},
        processValues outside lazyUpload currentPath values = .ok (others, count) ->
          VisitsTo outside lazyUpload currentPath (values.flatMap nodes)
              (others.flatMap nodes) count := by
    intro values
    induction values with
    | nil =>
        intro _ others count processed
        rw [processValues_nil] at processed
        cases processed
        exact ⟨[], List.Forall₂.nil, rfl, rfl⟩
    | cons child rest inductionHypothesis =>
        intro inside others count processed
        rcases processValues_cons_ok.mp processed with ⟨first, later, here, there, rfl, rfl⟩
        rw [List.flatMap_cons, List.flatMap_cons]
        exact visitsTo_append (below child (inside child List.mem_cons_self) here)
          (inductionHypothesis (fun other member => inside other (List.mem_cons_of_mem _ member))
              there)
  rcases head_of_processIOData processed with ⟨first, others, top, rest, rfl⟩
  rw [nodes_eq value, nodes_eq after]
  exact visitsTo_cons top (lists (children value) (fun _ member => member) rest)

/-- If every node can be visited, the value can be processed. -/
theorem processIOData_of_visits (value : Value)
    (every : forall node, node ∈ nodes value ->
      Exists fun result => visit outside lazyUpload currentPath node = .ok result) :
    Exists fun result => processIOData outside lazyUpload currentPath value = .ok result := by
  revert every
  apply childInduction (P := fun value => (forall node, node ∈ nodes value ->
      Exists fun result => visit outside lazyUpload currentPath node = .ok result) ->
    Exists fun result => processIOData outside lazyUpload currentPath value = .ok result)
  intro value below every
  rw [nodes_eq] at every
  have lists : forall values :
      List Value, (forall child, child ∈ values -> child ∈ children value) ->
      Exists fun entries => processValues outside lazyUpload currentPath values = .ok entries := by
    intro values
    induction values with
    | nil =>
        intro _
        exact ⟨_, processValues_nil⟩
    | cons child rest inductionHypothesis =>
        intro inside
        have listed := inside child List.mem_cons_self
        rcases below child listed fun node member => every node
          (List.mem_cons_of_mem _ (List.mem_flatMap.mpr ⟨child, listed, member⟩)) with ⟨first, here⟩
        rcases inductionHypothesis fun other member => inside other (List.mem_cons_of_mem _ member)
            with ⟨later, there⟩
        exact ⟨_, processValues_cons_ok.mpr ⟨first, later, here, there, rfl, rfl⟩⟩
  rcases every (head value) List.mem_cons_self with ⟨top, visited⟩
  rcases lists (children value) fun _ member => member with ⟨entries, rest⟩
  exact processIOData_of_head visited rest

end

/-! ## What the upload achieves -/

/-- How many files the upload of a node counts. -/
def weight (node : Node) : Nat :=
  match fileOf node with
  | none => 0
  | some file => if NeedsUpload file then 1 else 0

theorem countP_files (list : List Node) :
    ((list.filterMap fileOf).countP fun file => decide (NeedsUpload file)) =
        (list.map weight).sum := by
  induction list with
  | nil => rfl
  | cons node rest inductionHypothesis =>
      rw [List.filterMap_cons, List.map_cons, List.sum_cons, <- inductionHypothesis, weight]
      cases fileOf node with
      | none => exact (Nat.zero_add _).symm
      | some file =>
          dsimp only
          rw [List.countP_cons, Nat.add_comm]
          simp only [decide_eq_true_eq]

theorem needed_eq (value : Value) : needed value = ((nodes value).map weight).sum :=
  countP_files (nodes value)

theorem mem_files {value : Value} {file : FileFields} :
    file ∈ files value ↔ Exists fun node => node ∈ nodes value ∧ fileOf node = some file :=
  List.mem_filterMap

section

variable {outside : Outside} {lazyUpload : Bool} {currentPath : String}

theorem visit_staged (shock : ShockAnswers outside) {node : Node}
    (present : forall file, fileOf node = some file -> Present outside currentPath file)
    (handled : Handled currentPath node) :
    Exists fun after => visit outside lazyUpload currentPath node = .ok (after, weight node) ∧
      StagedNode outside node after := by
  cases node with
  | long value => exact False.elim handled
  | float value => exact False.elim handled
  | file fields count =>
      rcases uploadFile_staged shock (present fields rfl) handled lazyUpload with
          ⟨after, uploaded, staged⟩
      refine ⟨.file after count, ?_, after, rfl, staged⟩
      change (uploadFile outside lazyUpload currentPath fields).map _ = _
      rw [uploaded]
      rfl
  | _ => exact ⟨_, rfl, rfl⟩

theorem handled_of_visit {node : Node} {result : Node × Nat}
    (visited : visit outside lazyUpload currentPath node = .ok result) :
    Handled currentPath node := by
  cases node with
  | long value => cases visited
  | float value => cases visited
  | file fields count =>
      cases uploaded : uploadFile outside lazyUpload currentPath fields with
      | error failure =>
          change (uploadFile outside lazyUpload currentPath fields).map _ = _ at visited
          rw [uploaded] at visited
          cases visited
      | ok described => exact handled_of_uploadFile uploaded
  | _ => exact trivial

/-- What is known of each visit is known of all. -/
theorem visits_describe {R : Node -> Node -> Prop} {count : Node -> Nat} {before : List Node}
    {results : List (Node × Nat)}
    (every : forall node, node ∈ before -> Exists fun after =>
      visit outside lazyUpload currentPath node = .ok (after, count node) ∧ R node after)
    (visited : List.Forall₂ (fun node result => visit outside lazyUpload currentPath node =
        .ok result) before results) :
    List.Forall₂ R before (results.map Prod.fst) ∧
    (results.map Prod.snd).sum = (before.map count).sum := by
  induction visited with
  | nil => exact ⟨List.Forall₂.nil, rfl⟩
  | @cons node result rest others here _ inductionHypothesis =>
      rcases every node List.mem_cons_self with ⟨after, described, related⟩
      rw [here] at described
      cases described
      have later := inductionHypothesis fun other member =>
          every other (List.mem_cons_of_mem _ member)
      refine ⟨List.Forall₂.cons related later.1, ?_⟩
      rw [List.map_cons, List.map_cons, List.sum_cons, List.sum_cons, later.2]

theorem handled_of_processIOData {value : Value} {result : Value × Nat}
    (processed : processIOData outside lazyUpload currentPath value = .ok result) {node : Node}
    (member : node ∈ nodes value) : Handled currentPath node := by
  rcases visitsTo_of_processIOData value processed with ⟨results, visited, _⟩
  have every : forall before results, List.Forall₂ (fun node result =>
      visit outside lazyUpload currentPath node = .ok result) before results ->
        forall node, node ∈ before -> Handled currentPath node := by
    intro before results visited
    induction visited with
    | nil => exact fun _ absent => nomatch absent
    | cons here _ inductionHypothesis =>
        intro node member
        rcases List.mem_cons.mp member with rfl | later
        · exact handled_of_visit here
        · exact inductionHypothesis node later
  exact every _ _ visited node member

theorem processIOData_staged (shock : ShockAnswers outside) {value : Value}
    (present : forall file, file ∈ files value -> Present outside currentPath file)
    (handled : forall node, node ∈ nodes value -> Handled currentPath node) (lazyUpload : Bool) :
    Exists fun after => processIOData outside lazyUpload currentPath value = .ok
        (after, needed value) ∧
      Staged outside value after := by
  have every : forall node, node ∈ nodes value -> Exists fun after =>
      visit outside lazyUpload currentPath node = .ok (after, weight node) ∧
          StagedNode outside node after :=
    fun node member => visit_staged shock
        (fun file found => present file (mem_files.mpr ⟨node, member, found⟩))
      (handled node member)
  rcases processIOData_of_visits value fun node member => (every node member).elim fun _ both =>
      ⟨_, both.1⟩ with
    ⟨⟨after, count⟩, processed⟩
  rcases visitsTo_of_processIOData value processed with ⟨results, visited, same, rfl⟩
  have described := visits_describe every visited
  refine ⟨after, ?_, ?_⟩
  · rw [processed, described.2, needed_eq]
  · rw [Staged, same]
    exact described.1

/-- A value is uploaded as it should be exactly if every node is one that
`ProcessIOData` knows. -/
theorem upload_iff (shock : ShockAnswers outside) {value : Value}
    (present : forall file, file ∈ files value -> Present outside currentPath file) :
    (Exists fun after => processIOData outside lazyUpload currentPath value = .ok
        (after, needed value) ∧
      Staged outside value after) ↔ forall node, node ∈ nodes value -> Handled currentPath node :=
  ⟨fun ⟨_, processed, _⟩ _ member => handled_of_processIOData processed member,
    fun handled => processIOData_staged shock present handled lazyUpload⟩

theorem visit_again (shock : ShockAnswers outside) {node after : Node}
    (handled : Handled currentPath node) (staged : StagedNode outside node after) :
    visit outside lazyUpload currentPath after = .ok (after, 0) := by
  cases node with
  | long value => exact False.elim handled
  | float value => exact False.elim handled
  | file fields count =>
      rcases staged with ⟨other, rfl, stagedFile⟩
      have remote : Remote other := by
        rw [StagedFile] at stagedFile
        by_cases needs : NeedsUpload fields
        · rw [if_pos needs] at stagedFile
          exact inShock_remote shock stagedFile
        · rw [if_neg needs] at stagedFile
          rw [stagedFile]
          exact handled.2.resolve_left needs
      have local_free : Present outside currentPath other := by
        intro filePath _ origin
        rcases originOf_cases other with ⟨_, _, _, onDisk⟩ | ⟨elsewhere, _⟩ | ⟨_, failed, _⟩
        · exact absurd remote.2 (onDisk_not_elsewhere onDisk)
        · rw [elsewhere] at origin
          cases origin
        · rw [failed] at origin
          cases origin
      rcases uploadFile_staged shock local_free ⟨handled.1, Or.inr remote⟩ lazyUpload with
          ⟨last, uploaded, unchanged⟩
      rw [StagedFile, if_neg (remote_not_needed remote)] at unchanged
      change (uploadFile outside lazyUpload currentPath other).map _ = _
      rw [uploaded, unchanged, if_neg (remote_not_needed remote)]
      rfl
  | _ =>
      cases staged
      rfl

/-- A value that has been uploaded is left as it is. -/
theorem processIOData_again (shock : ShockAnswers outside) {value after : Value}
    (handled : forall node, node ∈ nodes value -> Handled currentPath node)
    (staged : Staged outside value after) :
    processIOData outside lazyUpload currentPath after = .ok (after, 0) := by
  have lists : forall before later, List.Forall₂ (StagedNode outside) before later ->
      (forall node, node ∈ before -> Handled currentPath node) -> forall node, node ∈ later ->
        Exists fun last => visit outside lazyUpload currentPath node = .ok
        (last, (fun _ => 0) node) ∧ node = last := by
    intro before later staged
    induction staged with
    | nil => exact fun _ _ absent => nomatch absent
    | cons here _ inductionHypothesis =>
        intro handled node member
        rcases List.mem_cons.mp member with rfl | later
        · exact ⟨node, visit_again shock (handled _ List.mem_cons_self) here, rfl⟩
        · exact inductionHypothesis
            (fun other listed => handled other (List.mem_cons_of_mem _ listed)) node later
  have every := lists _ _ staged handled
  rcases processIOData_of_visits after fun node member => (every node member).elim fun _ both =>
      ⟨_, both.1⟩ with
    ⟨⟨last, count⟩, processed⟩
  rcases visitsTo_of_processIOData after processed with ⟨results, visited, same, rfl⟩
  have described := visits_describe every visited
  rw [<- same, List.forall₂_eq_eq_eq] at described
  rw [processed, <- nodes_injective described.1, described.2, List.map_const',
      List.sum_replicate_nat,
    Nat.mul_zero]

/-- A value stands as uploaded from the start exactly if nothing in it needs it. -/
theorem staged_self_iff (shock : ShockAnswers outside) {value : Value} :
    Staged outside value value ↔ needed value = 0 := by
  have each : forall node, StagedNode outside node node ↔ weight node = 0 := by
    intro node
    cases node with
    | file fields count =>
        change (Exists fun other => Node.file fields count = .file other count ∧
            StagedFile outside fields other) ↔
          (if NeedsUpload fields then 1 else 0) = 0
        by_cases needs : NeedsUpload fields
        · rw [if_pos needs]
          refine iff_of_false ?_ Nat.one_ne_zero
          rintro ⟨other, same, staged⟩
          cases same
          rw [StagedFile, if_pos needs] at staged
          exact remote_not_needed (inShock_remote shock staged) needs
        · rw [if_neg needs]
          exact iff_of_true ⟨fields, rfl, by rw [StagedFile, if_neg needs]⟩ rfl
    | _ => exact iff_of_true rfl rfl
  rw [Staged, List.forall₂_same, needed_eq, List.sum_eq_zero_iff_forall_eq_nat]
  simp only [List.mem_map, forall_exists_index, and_imp, forall_apply_eq_imp_iff₂, each]

end

theorem processDocument_ok_iff {outside : Outside} {lazyUpload : Bool} {currentPath : String}
    {document after : Document} {count : Nat} :
    processDocument outside lazyUpload currentPath document = .ok (after, count) ↔
      processIOData outside lazyUpload currentPath (.record document) = .ok
          (.record after, count) := by
  rw [processIOData, Fallible.bind_ok_iff, processDocument]
  constructor
  · intro processed
    exact ⟨(after, count), processed, rfl⟩
  · rintro ⟨entries, processed, same⟩
    cases same
    exact processed

/-- A document is uploaded as it should be exactly if `ProcessIOData` knows its
nodes. -/
theorem document_iff {outside : Outside} (shock : ShockAnswers outside) {lazyUpload : Bool}
    {currentPath : String} {document : Document}
    (present : forall file, file ∈ files (.record document) -> Present outside currentPath file) :
    (Exists fun after => processDocument outside lazyUpload currentPath document = .ok
        (after, needed (.record document)) ∧
      Staged outside (.record document) (.record after)) ↔
        forall node, node ∈ nodes (.record document) -> Handled currentPath node := by
  have whole := @upload_iff outside lazyUpload currentPath shock _ present
  rw [<- whole]
  constructor
  · rintro ⟨after, processed, staged⟩
    exact ⟨.record after, processDocument_ok_iff.mp processed, staged⟩
  · rintro ⟨value, processed, staged⟩
    have isRecord := processed
    rw [processIOData] at isRecord
    rcases Fallible.bind_ok_iff.mp isRecord with ⟨entries, _, same⟩
    have record : Value.record entries.1 = value := congrArg Prod.fst (Except.ok.inj same)
    rw [<- record] at processed staged
    exact ⟨entries.1, processDocument_ok_iff.mpr processed, staged⟩

end Upload
end Cache
end Awe
