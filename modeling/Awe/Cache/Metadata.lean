import Awe.Cache.Upload
import Awe.Cwl.Wire

namespace Awe
namespace Cache
namespace Metadata

open Lib Lib.Path Cwl Natives Wire Upload

/-!
# What a file says of itself after its upload

`UploadFile` sets the size, the location and the base name of a file, and it
takes the path away.  Two of these steps lose something.  The size goes through
an `int32`, which keeps only sizes below `2 ^ 31`.  And `SetPath` computes the
root and the extension of the name from the old path, before the base name is
set: for a file that came without a path, by its location or its contents, the
old path is empty and the root of the name is a dot; for a file with a path
and a base name of its own they are those of the path.

All the fields are strings and a number that JSON keeps, and `MakeFile` changes
nothing in a file without contents and path, so the fields are the same again
when the job document is read.
-/

/-- Where the content of a file is on the disk, unless it is literal. -/
def contentPath (inputfilePath : String) (file : FileFields) : Option String :=
  if file.contents ≠ "" then none
  else
    match originOf file with
    | .ok (.onDisk filePath) => some (absolute inputfilePath filePath)
    | _ => none

/-- The name of the new node: the base name of the file, or else the one of its path, or
else, for a literal, its identifier. -/
def nodeName (inputfilePath : String) (file : FileFields) : String :=
  if file.basename ≠ "" then file.basename
  else ((contentPath inputfilePath file).map base).getD file.id

/-- The number of bytes of the content. -/
def sizeOf (outside : Outside) (inputfilePath : String) (file : FileFields) : Int :=
  match contentPath inputfilePath file with
  | none => file.contents.utf8ByteSize
  | some filePath =>
      match outside.stat filePath with
      | .ok info => info.size.toInt
      | .error _ => 0

/-- The fields of a file are exact after its upload, and still so when its JSON form has been
read, whatever its secondary files are written as. The JSON form is what the server sees of the
file. -/
structure Exact (outside : Outside) (lazyUpload : Bool) (inputfilePath : String)
    (before after : FileFields) : Prop where
  size : forall size, after.size = some size -> size.toInt = sizeOf outside inputfilePath before
  given : before.basename ≠ "" -> after.basename = before.basename
  ofPath : before.basename = "" -> forall filePath, contentPath inputfilePath before =
      some filePath ->
    after.basename = base filePath
  parts : after.nameroot ++ after.nameext = after.basename
  path : after.path = ""
  location : Exists fun nodeid =>
    post outside lazyUpload ((contentPath inputfilePath before).getD "") before.contents
      (nodeName inputfilePath before) = .ok nodeid ∧ outside.nodeURL nodeid = .ok after.location
  decoded : forall library context elements values, FilesRead library context elements values ->
    newCWLType library context (.strMap (present (fileTable after elements))) "" = .ok
        (.file after values)

/-- The size fits into an `int32`, or is not set: for a literal it is the one that the file
came with. -/
def SizeFits (outside : Outside) (inputfilePath : String) (file : FileFields) : Prop :=
  if file.contents ≠ "" then
    forall size, file.size = some size -> size.toInt = sizeOf outside inputfilePath file
  else -2 ^ 31 ≤ sizeOf outside inputfilePath file ∧ sizeOf outside inputfilePath file < 2 ^ 31

/-- The path that the file came with ends in the name of the node. -/
def NamedByPath (inputfilePath : String) (file : FileFields) : Prop :=
  base file.path = nodeName inputfilePath file

theorem toInt32_exact_iff (size : Int64) :
    size.toInt32.toInt = size.toInt ↔ -2 ^ 31 ≤ size.toInt ∧ size.toInt < 2 ^ 31 := by
  rw [Int64.toInt_toInt32]
  constructor
  · intro same
    have below : size.toInt.bmod (2 ^ 32) < (2 ^ 32 + 1) / 2 := Int.bmod_lt (by decide)
    have above : -(2 ^ 32 / 2) ≤ size.toInt.bmod (2 ^ 32) := Int.le_bmod (by decide)
    omega
  · intro bounds
    exact Int.bmod_eq_of_le (by omega) (by omega)

section

variable {outside : Outside} {lazyUpload : Bool} {inputfilePath : String}

theorem handOver_ok {filePath newFileName : String} {file after : FileFields} {count : Nat}
    (given : handOver outside lazyUpload filePath newFileName file = .ok (after, count)) :
    Exists fun nodeid => Exists fun location =>
      post outside lazyUpload filePath file.contents newFileName = .ok nodeid ∧
        outside.nodeURL nodeid = .ok location ∧
        after = { setPath { file with contents := "", location } "" with
            basename := newFileName } := by
  rcases Fallible.bind_ok_iff.mp given with ⟨nodeid, posted, rest⟩
  rcases Fallible.bind_ok_iff.mp rest with ⟨location, located, done⟩
  refine ⟨nodeid, location, posted, ?_, (Prod.mk.inj (Except.ok.inj done)).1.symm⟩
  have answered := wrap_eq_ok.mp located
  cases found : outside.nodeURL nodeid with
  | error text =>
      rw [found] at answered
      cases answered
  | ok url =>
      rw [found] at answered
      exact congrArg Except.ok (Except.ok.inj answered)

theorem readLocal_described {filePath newFileName : String} {file described : FileFields}
    (read : readLocal outside inputfilePath filePath file = .ok (described, newFileName)) :
    Exists fun info => Exists fun digest => outside.stat filePath = .ok info ∧
      described = { file with size := some info.size.toInt32, checksum := "sha1$" ++ digest } ∧
      newFileName = if file.basename ≠ "" then file.basename else base filePath := by
  unfold readLocal at read
  cases found : outside.stat filePath with
  | error text =>
      rw [found] at read
      cases read
  | ok info =>
      rw [found] at read
      dsimp only at read
      by_cases directory : info.isDir = true
      · rw [if_pos directory] at read
        cases read
      rw [if_neg directory] at read
      by_cases empty : filePath = ""
      · rw [if_pos empty] at read
        cases read
      rw [if_neg empty] at read
      cases opened : outside.openFile filePath with
      | error text =>
          rw [opened] at read
          cases read
      | ok copied =>
          rw [opened] at read
          cases copied with
          | error text => cases read
          | ok digest =>
              cases read
              exact ⟨info, digest, rfl, rfl, rfl⟩

/-- A file after its upload, in terms of what it was. -/
theorem uploadFile_uploaded {before after : FileFields}
    (uploaded : uploadFile outside lazyUpload inputfilePath before = .ok (after, 1)) :
    Exists fun nodeid =>
      post outside lazyUpload ((contentPath inputfilePath before).getD "") before.contents
        (nodeName inputfilePath before) = .ok nodeid ∧
      outside.nodeURL nodeid = .ok after.location ∧ after.contents = "" ∧ after.path = "" ∧
      after.basename = nodeName inputfilePath before ∧
      after.nameroot = trimSuffix (base before.path) (ext before.path) ∧
          after.nameext = ext before.path ∧
      (before.contents ≠ "" -> after.size = before.size) ∧
      (before.contents = "" -> Exists fun filePath => Exists fun info =>
        contentPath inputfilePath before = some filePath ∧ outside.stat filePath = .ok info ∧
          after.size = some info.size.toInt32) := by
  unfold uploadFile at uploaded
  by_cases refused : hasPrefix inputfilePath "file:" = true
  · rw [if_pos refused] at uploaded
    cases uploaded
  rw [if_neg refused] at uploaded
  by_cases literal : before.contents = ""
  · rw [if_pos literal] at uploaded
    cases origin : originOf before with
    | error failure =>
        rw [origin] at uploaded
        cases uploaded
    | ok found =>
        rw [origin] at uploaded
        cases found with
        | remote => cases uploaded
        | onDisk filePath =>
            have content : contentPath inputfilePath before = some
                (absolute inputfilePath filePath) := by
              rw [contentPath, if_neg (not_not.mpr literal), origin]
            change (readLocal outside inputfilePath (absolute inputfilePath filePath) before >>=
                fun described =>
              handOver outside lazyUpload (absolute inputfilePath filePath) described.2
                  described.1) = _ at uploaded
            rcases Fallible.bind_ok_iff.mp uploaded with ⟨⟨described, newFileName⟩, read, given⟩
            rcases readLocal_described read with ⟨info, digest, stat, rfl, name⟩
            rcases handOver_ok given with ⟨nodeid, location, posted, located, rfl⟩
            have nodeName_eq : newFileName = nodeName inputfilePath before := by
              rw [name, nodeName, content, Option.map_some, Option.getD_some]
            rw [nodeName_eq] at posted
            refine ⟨nodeid, by rw [content]; exact posted, located, rfl, rfl, nodeName_eq, rfl, rfl,
              fun given => absurd literal given, fun _ => ⟨_, info, content, stat, rfl⟩⟩
  · rw [if_neg literal] at uploaded
    have content : contentPath inputfilePath before = none := if_pos literal
    have nodeName_eq : (if before.basename = "" then before.id else before.basename) =
        nodeName inputfilePath before := by
      rw [nodeName, content, Option.map_none, Option.getD_none]
      by_cases nameless : before.basename = ""
      · rw [if_pos nameless, if_neg (not_not.mpr nameless)]
      · rw [if_neg nameless, if_pos nameless]
    rcases handOver_ok uploaded with ⟨nodeid, location, posted, located, rfl⟩
    rw [nodeName_eq] at posted
    exact ⟨nodeid, by rw [content]; exact posted, located, rfl, rfl, nodeName_eq, rfl,
        rfl, fun _ => rfl,
      fun empty => absurd empty literal⟩

/-- Nothing of a file in Shock is lost or completed when its JSON form is read. -/
theorem decoded_of_shock {file : FileFields} (contents : file.contents = "") (path : file.path = "")
    {library : Library} {context : Context} {elements : List Tree} {values : List Value}
    (read : FilesRead library context elements values) :
    newCWLType library context (.strMap (present (fileTable file elements))) "" = .ok
        (.file file values) := by
  have kept : FileKept library file :=
    ⟨fun given => absurd path given, fun given => absurd contents given, fun given =>
        absurd contents given⟩
  exact newCWLType_file.mpr ⟨read, completeFile_eq_self.mpr kept⟩

/-- The fields of an uploaded file are exact, also after its JSON form has been read, if and only
if its size fits and the path it came with ends in the name of the node.  The parts of the name
are taken from the old path before the new name is set, and the size goes through 32 bits on its
way. -/
theorem metadata_exact_iff (outside : Outside) (lazyUpload : Bool) (inputfilePath : String)
    (before after : FileFields)
    (uploaded : uploadFile outside lazyUpload inputfilePath before = .ok (after, 1)) :
    Exact outside lazyUpload inputfilePath before after ↔
      SizeFits outside inputfilePath before ∧ NamedByPath inputfilePath before := by
  rcases uploadFile_uploaded uploaded with
    ⟨nodeid, posted, located, contents, path, basename, nameroot, nameext, ofLiteral, onDisk⟩
  have parts_iff : after.nameroot ++ after.nameext = after.basename ↔
      NamedByPath inputfilePath before := by
    rw [nameroot, nameext, basename, trimSuffix_base_ext]
    exact Iff.rfl
  have size_iff : (forall size, after.size = some size ->
      size.toInt = sizeOf outside inputfilePath before) ↔
      SizeFits outside inputfilePath before := by
    unfold SizeFits
    by_cases literal : before.contents = ""
    · rw [if_neg (not_not.mpr literal)]
      rcases onDisk literal with ⟨filePath, info, content, stat, size⟩
      have bytes : sizeOf outside inputfilePath before = info.size.toInt := by
        rw [sizeOf, content]
        dsimp only
        rw [stat]
      rw [size, bytes, <- toInt32_exact_iff]
      exact ⟨fun all => all _ rfl, fun same size given => Option.some.inj given ▸ same⟩
    · rw [if_pos literal, ofLiteral literal]
  constructor
  · intro precise
    exact ⟨size_iff.mp precise.size, parts_iff.mp precise.parts⟩
  · rintro ⟨fits, named⟩
    constructor
    · exact size_iff.mpr fits
    · intro given
      rw [basename, nodeName, if_pos given]
    · intro nameless filePath content
      rw [basename, nodeName, if_neg (not_not.mpr nameless), content, Option.map_some,
          Option.getD_some]
    · exact parts_iff.mpr named
    · exact path
    · exact ⟨nodeid, posted, located⟩
    · intro library context elements values read
      exact decoded_of_shock contents path read

end

/-- A disk with a file of some size under every path, and a server that takes everything. -/
private def openDisk (size : Int64) : Outside where
  stat := fun _ => .ok { isDir := false, size }
  openFile := fun _ => .ok (.ok "digest")
  getwd := "/data"
  postFile := fun _ _ _ => .ok "node1"
  postFileLazy := fun _ _ _ => .ok "node1"
  nodeURL := fun nodeid => .ok ("http://shock/node/" ++ nodeid)

/-- The file `reads.fastq` once it is in Shock. -/
private def stagedReads (nameroot nameext : String) (size : Int32) : FileFields :=
  { location := "http://shock/node/node1", basename := "reads.fastq", nameroot, nameext, checksum := "sha1$digest",
    size := some size }

/-- A small file that is given by its path. -/
theorem file_with_path_exact :
    Exact (openDisk 5) false "/data" { path := "/data/reads.fastq" }
        (stagedReads "reads" ".fastq" 5) :=
  (metadata_exact_iff (openDisk 5) false "/data" { path := "/data/reads.fastq" }
      (stagedReads "reads" ".fastq" 5)
    (by decide)).mpr ⟨by unfold SizeFits; decide, by unfold NamedByPath; decide⟩

/-- A file that is given by its location gets a dot for the root of its name, and one of
three gibibytes a negative size. -/
theorem metadata_not_exact :
    Not (forall before after, uploadFile (openDisk 5) false "/data" before = .ok (after, 1) ->
      after.nameroot ++ after.nameext = after.basename) ∧
    Not (forall before after, uploadFile (openDisk 3221225472) false "/data" before =
        .ok (after, 1) ->
      forall size, after.size = some size ->
        size.toInt = sizeOf (openDisk 3221225472) "/data" before) := by
  constructor
  · intro all
    have wrong := all { location := "file:///data/reads.fastq" } (stagedReads "." "" 5) (by decide)
    exact absurd wrong (by decide)
  · intro all
    have wrong := all { path := "/data/reads.fastq" } (stagedReads "reads" ".fastq" (-1073741824))
        (by decide)
    exact absurd (wrong _ rfl) (by decide)

end Metadata
end Cache
end Awe
