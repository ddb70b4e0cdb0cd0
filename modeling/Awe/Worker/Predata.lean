import Awe.Lib.Files
import Awe.Lib.Path
import Awe.Lib.Runs

namespace Awe
namespace Worker
namespace Predata

open Lib Lib.Path

/-!
# Predata

Prerequisite data is fetched once for a worker and kept in one directory, a file
of a Shock node under the checksum of the node.  `movePreData` fetches what is
not there and puts a copy of each file, or a link to it, into the working
directory.

A file is fetched under another name and renamed when it is complete.  But it is
renamed before its checksum is compared, so that a file with other bytes stays
under the name of the checksum; the call fails, and the next one finds the file
and takes it.  Whether the renaming worked is not looked at: the test behind it
is about the error of the download.

The answers of the file system, of Shock and of the download are given for each
piece of predata.  Of a download it is assumed that it writes the bytes that it
received and gives their checksum.
-/

/-! ## The code -/

structure Config where
  predataPath : String
  noSymlink : Bool
  useDocker : String
  dockerWorkunitPredataDir : String

/-- The fields of an `IO` that are read here, other than by `DataUrl`, `ShockGet` and
`FetchFile`.  `node` is the node after `DataUrl`, which sets it from the URL of an `IO` that
has a URL and no node; nothing reads the field before that call. -/
structure Io where
  fileName : String
  node : String

/-- What a download does with the file. -/
inductive Download (C : Type) where
  /-- An error, and what it leaves of the file. -/
  | failed (text : String) (left : Option C)
  /-- The bytes that were received, which need not be those of the node. -/
  | delivered (content : C) (size : Int)

/-- What copying does. -/
inductive Copying (C : Type) where
  | failed (text : String) (left : Option C)
  | done

/-- The answers for one piece of predata. Any of them may be an error. -/
structure Answers (C : Type) where
  mkdirAll : Option String
  dataUrl : Option String
  /-- `ShockGet`: the `md5` of the checksums of the node, or an empty text. -/
  shockGet : Except String String
  fetchFile : Download C
  /-- Whether `os.Rename` worked. -/
  renamed : Bool
  /-- `os.Create` of the file with the time, and its content. -/
  accessfile : Except String C
  copyFile : Copying C
  symlink : Option String

/-- A workunit, with the answers for its predata. -/
structure Workunit (C : Type) where
  predata : List (Io × Answers C)
  dockerimage : String
  path : Except String String

section

variable {C : Type} (md5 : C -> String) (cfg : Config)

def predataDirectory : String :=
  joinPath cfg.predataPath "predata"

def isShockPredata (io : Io) : Bool :=
  io.node != "-"

/-- Where the file is kept: under its checksum if it is from Shock, or else under its name. -/
def filePath (io : Io) (node_md5 : String) : String :=
  if isShockPredata io then joinPath (predataDirectory cfg) node_md5 else
      joinPath (predataDirectory cfg) io.fileName

def isFileExisting (files : Files C) (path : String) : Bool :=
  (files.stat path).isSome

/-- The file as an operation leaves it that has failed. -/
def leave (files : Files C) (path : String) : Option C -> Files C
  | none => files
  | some content => files.create path content

/-- The download, if there is no file: the error, the size and the files. -/
def fetchMissing (io : Io) (answers : Answers C) (node_md5 : String) (files : Files C)
    (size : Int) :
    Option String × Int × Files C :=
  let file_path := filePath cfg io node_md5
  if isFileExisting files file_path then (none, size, files)
  else
    match answers.fetchFile with
    | .failed text left =>
        (some ("error in fetchFile: " ++ text), 0, leave files (file_path ++ ".part") left)
    | .delivered content fetched =>
        let files := files.create (file_path ++ ".part") content
        let files := if answers.renamed then files.rename (file_path ++ ".part") file_path else
            files
        if isShockPredata io ∧ node_md5 ≠ md5 content then
          (some ("error downloaded file md5 does not mach shock md5, node: " ++ io.node), 0, files)
        else (none, fetched, files)

/-- The copy in the working directory. -/
def copyInto (answers : Answers C) (file_path linkname : String) (files : Files C) :
    Option String × Files C :=
  match answers.copyFile, files.read file_path with
  | .done, some content => (none, files.create linkname content)
  | .done, none =>
      (some ("error copying file from " ++ file_path ++ " to " ++ linkname ++
          ": open " ++ file_path ++
        ": no such file or directory"), files)
  | .failed text left, _ =>
      (some ("error copying file from " ++ file_path ++ " to " ++ linkname ++ ": " ++ text),
          leave files linkname left)

/-- `os.Symlink`: it makes no link where there is something. -/
def symlink (answers : Answers C) (target linkname : String) (files : Files C) :
    Option String × Files C :=
  match files linkname, answers.symlink with
  | some _, _ => (some ("symlink " ++ target ++ " " ++ linkname ++ ": file exists"), files)
  | none, some text => (some text, files)
  | none, none => (none, files.symlink target linkname)

/-- The copy or link in the working directory.  In a container the link leads to where the
directory will be mounted, and its error is ignored. -/
def placeFile (wants_docker : Bool) (io : Io) (answers : Answers C) (node_md5 linkname : String)
    (files : Files C) :
    Option String × Files C :=
  let file_path := filePath cfg io node_md5
  if cfg.noSymlink then copyInto answers file_path linkname files
  else if wants_docker then
    let docker_file_path :=
      joinPath cfg.dockerWorkunitPredataDir (if isShockPredata io then node_md5 else io.fileName)
    (none, (symlink answers docker_file_path linkname files).2)
  else
    match symlink answers file_path linkname files with
    | (some text, files) => (some ("error creating predata file symlink: " ++ text), files)
    | (none, files) => (none, files)

/-- The checks in front of the last step, and that step. -/
def moveIntoWorkpath (work : Workunit C) (io : Io) (answers : Answers C) (node_md5 : String)
    (files : Files C) :
    Option String × Files C :=
  let wants_docker := work.dockerimage != ""
  if wants_docker ∧ cfg.useDocker = "no" then
    (some "error: use of docker images has been disabled by administrator", files)
  else if wants_docker = false ∧ cfg.useDocker = "only" then
    (some "error: use of docker images is enforced by administrator", files)
  else
    match work.path with
    | .error text => (some text, files)
    | .ok work_path => placeFile cfg wants_docker io answers node_md5
        (joinPath work_path io.fileName) files

/-- One round behind the checksum: the download, the file with the time, and the last step. -/
def moveChecked (work : Workunit C) (io : Io) (answers : Answers C) (node_md5 : String)
    (files : Files C) (size : Int) :
    Option String × Int × Files C :=
  match fetchMissing md5 cfg io answers node_md5 files size with
  | (some text, _, files) => (some text, 0, files)
  | (none, size, files) =>
      match answers.accessfile with
      | .error text => (some ("error creating predata access file: " ++ text), 0, files)
      | .ok stamp =>
          match moveIntoWorkpath cfg work io answers node_md5
              (files.create (filePath cfg io node_md5 ++ ".access") stamp) with
          | (some text, files) => (some text, 0, files)
          | (none, files) => (none, size, files)

/-- One round of `movePreData`. -/
def moveOne (work : Workunit C) (io : Io) (answers : Answers C) (files : Files C) (size : Int) :
    Option String × Int × Files C :=
  match answers.mkdirAll with
  | some text => (some ("error creating predata_directory: " ++ text), 0, files)
  | none =>
      let files := files.mkdir (predataDirectory cfg)
      match answers.dataUrl with
      | some text => (some text, 0, files)
      | none =>
          if isShockPredata io then
            match answers.shockGet with
            | .error text => (some ("error in ShockGet: " ++ text), 0, files)
            | .ok node_md5 => moveChecked md5 cfg work io answers node_md5 files size
          else moveChecked md5 cfg work io answers "" files size

/-- The loop of `movePreData`. -/
def moveRest (work : Workunit C) :
    List (Io × Answers C) -> Files C -> Int -> Option String × Int × Files C
  | [], files, size => (none, size, files)
  | (io, answers) :: rest, files, size =>
      match moveOne md5 cfg work io answers files size with
      | (some text, _, files) => (some text, 0, files)
      | (none, size, files) => moveRest work rest files size

/-- `movePreData`: the error, the size and the files. -/
def movePreData (work : Workunit C) (files : Files C) : Option String × Int × Files C :=
  moveRest md5 cfg work work.predata files 0

/-- What happens on the worker: a call, or a change of files by others. Other programs may change
files between two calls, as far as a run allows it. -/
inductive Event (C : Type) where
  | call (work : Workunit C)
  | elsewhere (files : Files C)

def step (files : Files C) : Event C -> Option (Files C)
  | .call work => some (movePreData md5 cfg work files).2.2
  | .elsewhere changed => some changed

end

section

variable {C : Type} (md5 : C -> String) (cfg : Config)

/-- A checksum as it is written: 32 hexadecimal digits. -/
def IsMd5 (text : String) : Prop :=
  text.toList.length = 32 ∧ forall letter, letter ∈ text.toList ->
      letter ∈ "0123456789abcdef".toList

variable (ofNode : String -> Prop)

/-- Every file under the checksum of a node has this checksum. A file under a checksum is never
looked into again, so this is all that stands between a bad download and every workunit that comes
later. -/
def NeverCorrupt (files : Files C) : Prop :=
  forall checksum, ofNode checksum ->
    forall content, files (joinPath (predataDirectory cfg) checksum) = some (.file content) ->
        md5 content = checksum

/-- What is read at a path in the working directory: the file there, or the file that a link
leads to, where in a container the directory of the predata is mounted. -/
def Shows (files : Files C) (wants_docker : Bool) (entry : Entry C) (content : C) : Prop :=
  match entry with
  | .directory => False
  | .file here => here = content
  | .link target =>
      if wants_docker then Exists fun name => target = joinPath cfg.dockerWorkunitPredataDir name ∧
        files.read (joinPath (predataDirectory cfg) name) = some content
      else files.read target = some content

/-- Whatever has been put into the working directory for a piece of predata from Shock has the
checksum that its node declares. -/
def Delivered (files : Files C) (work : Workunit C) : Prop :=
  forall io answers, (io, answers) ∈ work.predata -> isShockPredata io = true ->
    forall checksum, answers.shockGet = .ok checksum ->
    forall work_path, work.path = .ok work_path ->
    forall entry, files (joinPath work_path io.fileName) = some entry ->
      Exists fun content => Shows cfg files (work.dockerimage != "") entry content ∧
          md5 content = checksum

/-- The condition on a piece of predata.  A download from Shock that is not an error gives the bytes
of the node, and the renaming works.  A node has a checksum, and no other predata is named like one.
-/
structure CarefulPiece (io : Io) (answers : Answers C) : Prop where
  named : Plain io.fileName
  renamed : answers.renamed = true
  declared : isShockPredata io = true -> forall checksum, answers.shockGet = .ok checksum ->
      ofNode checksum
  intact : isShockPredata io = true -> forall checksum, answers.shockGet = .ok checksum ->
    forall content size, answers.fetchFile = .delivered content size -> md5 content = checksum
  apart : isShockPredata io = false -> ¬ ofNode io.fileName

/-- The paths in the directory of the predata. -/
def InPredata (path : String) : Prop :=
  hasPrefix path (directoryPrefix (predataDirectory cfg)) = true

/-- The condition on a call: the pieces have different names, and there is nothing in their place in
the working directory, which is not the directory of the predata. -/
structure CarefulCall (files : Files C) (work : Workunit C) : Prop where
  pieces : forall io answers, (io, answers) ∈ work.predata -> CarefulPiece md5 ofNode io answers
  distinct : (work.predata.map fun piece => piece.1.fileName).Nodup
  fresh : forall work_path, work.path = .ok work_path ->
      forall io answers, (io, answers) ∈ work.predata ->
    files (joinPath work_path io.fileName) = none ∧
        ¬ InPredata cfg (joinPath work_path io.fileName) ∧
      joinPath work_path io.fileName ≠ predataDirectory cfg

/-- The condition on a step.  What others do leaves the directory of the predata alone. -/
def Careful (files : Files C) : Event C -> Prop
  | .call work => CarefulCall md5 cfg ofNode files work
  | .elsewhere changed => forall path, InPredata cfg path -> changed path = files path

/-- The files in the directory of the predata, at any time: no links, and nothing but files under
the checksums of nodes, with these checksums. A call that fails leaves the directory as it is by
then, so this is asked of every state and not only of those behind a call that went well. -/
structure Sound (files : Files C) : Prop where
  unlinked : forall path, InPredata cfg path -> files.Unlinked path
  checked : forall checksum, ofNode checksum -> forall entry,
    files (joinPath (predataDirectory cfg) checksum) = some entry ->
    Exists fun content => entry = .file content ∧ md5 content = checksum

end

section

variable {C : Type} {md5 : C -> String} {cfg : Config} {ofNode : String -> Prop}

theorem IsMd5.plain {checksum : String} (hex : IsMd5 checksum) : Plain checksum := by
  have letters : forall text : String, text.toList.length ≠ 32 -> checksum ≠ text := by
    rintro text short rfl
    exact short hex.1
  refine ⟨letters "" (by decide), letters "." (by decide), letters ".." (by decide),
      fun slash => ?_⟩
  exact absurd (hex.2 '/' slash) (by decide)

theorem inPredata_join {name : String} (plain : Plain name) (ending : String) :
    InPredata cfg (joinPath (predataDirectory cfg) name ++ ending) := by
  unfold InPredata
  rw [joinPath_plain _ plain, String.append_assoc]
  exact hasPrefix_self _ _

theorem inPredata_path {name : String} (plain : Plain name) :
    InPredata cfg (joinPath (predataDirectory cfg) name) := by
  unfold InPredata
  rw [joinPath_plain _ plain]
  exact hasPrefix_self _ _

theorem joinPath_inj {directory first second : String} (plain : Plain first) (plain' : Plain second)
    (same : joinPath directory first = joinPath directory second) : first = second := by
  rw [joinPath_plain directory plain, joinPath_plain directory plain'] at same
  exact String.append_right_inj _ |>.mp same

/-- The path of a checksum does not end in what other files of the directory end in. -/
theorem join_ne_ending {checksum : String} (hex : IsMd5 checksum) (directory front ending : String)
    {letter : Char} (last : ending.toList.getLast? = some letter)
    (other : letter ∉ "0123456789abcdef".toList) :
    joinPath directory checksum ≠ front ++ ending := by
  intro same
  have lasts := congrArg (fun text => text.toList.getLast?) same
  have nonempty : checksum.toList ≠ [] := by
    intro empty
    have length := hex.1
    rw [empty] at length
    cases length
  have found : checksum.toList.getLast? = some (checksum.toList.getLast nonempty) :=
    List.getLast?_eq_some_getLast nonempty
  rw [joinPath_plain directory hex.plain, String.toList_append, String.toList_append,
    List.getLast?_append_of_ne_nil _ nonempty, found] at lasts
  have endingNonempty : ending.toList ≠ [] := by
    intro empty
    rw [empty] at last
    cases last
  rw [List.getLast?_append_of_ne_nil _ endingNonempty, last] at lasts
  refine other ?_
  rw [<- Option.some.inj lasts]
  exact hex.2 _ (List.getLast_mem nonempty)

theorem join_ne_part {checksum : String} (hex : IsMd5 checksum) (directory front : String) :
    joinPath directory checksum ≠ front ++ ".part" :=
  @join_ne_ending checksum hex directory front ".part" 't' (by decide) (by decide)

theorem join_ne_access {checksum : String} (hex : IsMd5 checksum) (directory front : String) :
    joinPath directory checksum ≠ front ++ ".access" :=
  @join_ne_ending checksum hex directory front ".access" 's' (by decide) (by decide)

/-- The directory itself is no path of a checksum: its name is too short, and not hexadecimal. -/
theorem join_ne_directory {checksum : String} (hex : IsMd5 checksum) :
    joinPath (predataDirectory cfg) checksum ≠ predataDirectory cfg := by
  intro same
  have plain : Plain "predata" := by decide
  have whole : predataDirectory cfg = directoryPrefix cfg.predataPath ++ "predata" :=
      joinPath_plain _ plain
  have letters : (directoryPrefix (predataDirectory cfg) ++ checksum).toList.reverse =
      (directoryPrefix cfg.predataPath ++ "predata").toList.reverse := by
    rw [<- joinPath_plain _ hex.plain, same, whole]
  rw [String.toList_append, String.toList_append, List.reverse_append, List.reverse_append]
      at letters
  have front : "predata".toList.reverse <+:
      checksum.toList.reverse ++ (directoryPrefix (predataDirectory cfg)).toList.reverse :=
          ⟨_, letters.symm⟩
  have short : "predata".toList.reverse.length ≤ checksum.toList.reverse.length := by
    rw [List.length_reverse, List.length_reverse, hex.1]
    decide
  have inside : "predata".toList.reverse <+: checksum.toList.reverse :=
    List.prefix_of_prefix_length_le front (List.prefix_append _ _) short
  have member : 'p' ∈ checksum.toList := List.mem_reverse.mp (inside.subset (by decide))
  exact absurd (hex.2 'p' member) (by decide)

end

/-! ## What each operation changes -/

section

variable {C : Type} {md5 : C -> String} {cfg : Config} {ofNode : String -> Prop}

/-- From some files to others: they are sound, only the directory of the predata and some paths in
the working directory are changed, and no file under a checksum has gone. -/
structure Advances (md5 : C -> String) (cfg : Config) (ofNode links : String -> Prop)
    (files after : Files C) : Prop where
  sound : Sound md5 cfg ofNode after
  outside : forall path, ¬ InPredata cfg path -> path ≠ predataDirectory cfg -> ¬ links path ->
    after path = files path
  kept : forall checksum, ofNode checksum ->
      files (joinPath (predataDirectory cfg) checksum) ≠ none ->
    after (joinPath (predataDirectory cfg) checksum) ≠ none

variable {links : String -> Prop}

theorem Advances.refl {files : Files C} (sound : Sound md5 cfg ofNode files) :
    Advances md5 cfg ofNode links files files :=
  ⟨sound, fun _ _ _ _ => rfl, fun _ _ there => there⟩

theorem Advances.trans {first second third : Files C}
    (front : Advances md5 cfg ofNode links first second)
    (back : Advances md5 cfg ofNode links second third) :
    Advances md5 cfg ofNode links first third where
  sound := back.sound
  outside := fun path beyond unlike different =>
    (back.outside path beyond unlike different).trans (front.outside path beyond unlike different)
  kept := fun checksum known there => back.kept checksum known (front.kept checksum known there)

theorem Advances.mono {files after : Files C} {more : String -> Prop}
    (advances : Advances md5 cfg ofNode links files after)
    (wider : forall path, links path -> more path) :
    Advances md5 cfg ofNode more files after where
  sound := advances.sound
  outside := fun path beyond unlike different => advances.outside path beyond unlike fun isLink =>
    different (wider path isLink)
  kept := advances.kept

theorem advances_mkdir (hex : forall checksum, ofNode checksum -> IsMd5 checksum) {files : Files C}
    (sound : Sound md5 cfg ofNode files) :
    Advances md5 cfg ofNode links files (files.mkdir (predataDirectory cfg)) := by
  have cached : forall checksum, ofNode checksum ->
      files.mkdir (predataDirectory cfg) (joinPath (predataDirectory cfg) checksum) =
        files (joinPath (predataDirectory cfg) checksum) :=
    fun checksum known => Files.mkdir_other (join_ne_directory (hex checksum known))
  refine ⟨⟨fun path inside => Files.mkdir_unlinked (sound.unlinked path inside),
      fun checksum known entry found => ?_⟩,
    fun path _ unlike _ => Files.mkdir_other unlike, fun checksum known there => ?_⟩
  · rw [cached checksum known] at found
    exact sound.checked checksum known entry found
  · rw [cached checksum known]
    exact there

/-- A file in the directory of the predata that is not under a checksum. -/
theorem advances_create {files : Files C} (sound : Sound md5 cfg ofNode files) {path : String}
    (inside : InPredata cfg path)
    (other : forall checksum, ofNode checksum -> joinPath (predataDirectory cfg) checksum ≠ path)
    (content : C) :
    Advances md5 cfg ofNode links files (files.create path content) := by
  have unlinked := sound.unlinked path inside
  refine ⟨⟨fun others within target linked => ?_, fun checksum known entry found => ?_⟩,
    fun others beyond _ _ => ?_, fun checksum known there => ?_⟩
  · by_cases same : others = path
    · rw [same, Files.create_self unlinked] at linked
      cases linked
    · rw [Files.create_other unlinked same] at linked
      exact sound.unlinked others within target linked
  · rw [Files.create_other unlinked (other checksum known)] at found
    exact sound.checked checksum known entry found
  · refine Files.create_other unlinked ?_ content
    rintro rfl
    exact beyond inside
  · rw [Files.create_other unlinked (other checksum known)]
    exact there

theorem advances_leave {files : Files C} (sound : Sound md5 cfg ofNode files) {path : String}
    (inside : InPredata cfg path)
    (other : forall checksum, ofNode checksum -> joinPath (predataDirectory cfg) checksum ≠ path)
    (left : Option C) :
    Advances md5 cfg ofNode links files (leave files path left) := by
  cases left with
  | none => exact Advances.refl sound
  | some content => exact advances_create sound inside other content

/-- A complete file gets its name, with the checksum that the name says if it is one. -/
theorem advances_rename {files : Files C} (sound : Sound md5 cfg ofNode files)
    {oldPath newPath : String} (insideOld : InPredata cfg oldPath)
    (insideNew : InPredata cfg newPath) (unlike : newPath ≠ oldPath)
    (other : forall checksum, ofNode checksum -> joinPath (predataDirectory cfg) checksum ≠ oldPath)
    {content : C} (complete : files oldPath = some (.file content))
    (right : forall checksum, ofNode checksum ->
    joinPath (predataDirectory cfg) checksum = newPath ->
      md5 content = checksum) :
    Advances md5 cfg ofNode links files (files.rename oldPath newPath) := by
  have renamed : files.rename oldPath newPath newPath = some (.file content) :=
    (Files.rename_new unlike).trans complete
  refine ⟨⟨fun others within target linked => ?_, fun checksum known entry found => ?_⟩,
    fun others beyond _ _ => ?_, fun checksum known there => ?_⟩
  · by_cases old : others = oldPath
    · rw [old, Files.rename_old] at linked
      cases linked
    · by_cases new : others = newPath
      · rw [new, renamed] at linked
        cases linked
      · rw [Files.rename_other old new] at linked
        exact sound.unlinked others within target linked
  · by_cases new : joinPath (predataDirectory cfg) checksum = newPath
    · rw [new, renamed] at found
      cases found
      exact ⟨content, rfl, right checksum known new⟩
    · rw [Files.rename_other (other checksum known) new] at found
      exact sound.checked checksum known entry found
  · refine Files.rename_other ?_ ?_
    · rintro rfl
      exact beyond insideOld
    · rintro rfl
      exact beyond insideNew
  · by_cases new : joinPath (predataDirectory cfg) checksum = newPath
    · rw [new, renamed]
      exact Option.some_ne_none _
    · rw [Files.rename_other (other checksum known) new]
      exact there

/-- Anything at one path in the working directory. -/
theorem advances_link (hex : forall checksum, ofNode checksum -> IsMd5 checksum)
    {files after : Files C} (sound : Sound md5 cfg ofNode files) {linkname : String}
    (beyond : ¬ InPredata cfg linkname)
    (others : forall other, other ≠ linkname -> after other = files other) :
    Advances md5 cfg ofNode (· = linkname) files after := by
  have inside : forall path, InPredata cfg path -> after path = files path := by
    intro path within
    refine others path ?_
    rintro rfl
    exact beyond within
  have cached : forall checksum, ofNode checksum ->
      after (joinPath (predataDirectory cfg) checksum) =
      files (joinPath (predataDirectory cfg) checksum) :=
    fun checksum known => inside _ (inPredata_path (hex checksum known).plain)
  refine ⟨⟨fun path within target linked => ?_, fun checksum known entry found => ?_⟩,
    fun path _ _ different => others path different, fun checksum known there => ?_⟩
  · rw [inside path within] at linked
    exact sound.unlinked path within target linked
  · rw [cached checksum known] at found
    exact sound.checked checksum known entry found
  · rw [cached checksum known]
    exact there

end

/-! ## One piece of predata -/

section

variable {C : Type} {md5 : C -> String} {cfg : Config} {ofNode links : String -> Prop}

/-- The name under which a piece is kept. -/
def keyOf (io : Io) (node_md5 : String) : String :=
  if isShockPredata io then node_md5 else io.fileName

theorem filePath_eq (io : Io) (node_md5 : String) :
    filePath cfg io node_md5 = joinPath (predataDirectory cfg) (keyOf io node_md5) := by
  unfold filePath keyOf
  by_cases shock : isShockPredata io = true
  · rw [if_pos shock, if_pos shock]
  · rw [if_neg shock, if_neg shock]

/-- A piece together with the checksum that is used for it. For a node in Shock it is the one that
the server gives, if the server gives one. -/
structure Known (md5 : C -> String) (ofNode : String -> Prop) (io : Io) (answers : Answers C)
    (node_md5 : String) : Prop where
  careful : CarefulPiece md5 ofNode io answers
  declared : isShockPredata io = true -> answers.shockGet = .ok node_md5

variable {io : Io} {answers : Answers C} {node_md5 : String}

theorem Known.plain (hex : forall checksum, ofNode checksum -> IsMd5 checksum)
    (known : Known md5 ofNode io answers node_md5) : Plain (keyOf io node_md5) := by
  unfold keyOf
  by_cases shock : isShockPredata io = true
  · rw [if_pos shock]
    exact (hex node_md5 (known.careful.declared shock node_md5 (known.declared shock))).plain
  · rw [if_neg shock]
    exact known.careful.named

/-- A download that is kept under a checksum has this checksum. -/
theorem Known.right (hex : forall checksum, ofNode checksum -> IsMd5 checksum)
    (known : Known md5 ofNode io answers node_md5) {content : C} {size : Int}
    (delivered : answers.fetchFile = .delivered content size) {checksum : String}
    (isNode : ofNode checksum)
    (same : joinPath (predataDirectory cfg) checksum = filePath cfg io node_md5) :
    md5 content = checksum := by
  rw [filePath_eq] at same
  have key := joinPath_inj (hex checksum isNode).plain (known.plain hex) same
  unfold keyOf at key
  by_cases shock : isShockPredata io = true
  · rw [if_pos shock] at key
    rw [key]
    exact known.careful.intact shock node_md5 (known.declared shock) content size delivered
  · rw [if_neg shock] at key
    exact absurd (key ▸ isNode) (known.careful.apart (Bool.eq_false_of_not_eq_true shock))

/-- The download: no file under a checksum is wrong afterwards, and a file from Shock is there. -/
theorem fetchMissing_advances (hex : forall checksum, ofNode checksum -> IsMd5 checksum)
    {files : Files C} (sound : Sound md5 cfg ofNode files)
    (known : Known md5 ofNode io answers node_md5) (size : Int) :
    Advances md5 cfg ofNode links files (fetchMissing md5 cfg io answers node_md5 files size).2.2 ∧
      ((fetchMissing md5 cfg io answers node_md5 files size).1 = none ->
        (fetchMissing md5 cfg io answers node_md5 files size).2.2 (filePath cfg io node_md5) ≠
        none) := by
  have insideFile : InPredata cfg (filePath cfg io node_md5) := by
    rw [filePath_eq]
    exact inPredata_path (known.plain hex)
  have insidePart : InPredata cfg (filePath cfg io node_md5 ++ ".part") := by
    rw [filePath_eq]
    exact inPredata_join (known.plain hex) ".part"
  have notPart : forall checksum, ofNode checksum ->
      joinPath (predataDirectory cfg) checksum ≠ filePath cfg io node_md5 ++ ".part" :=
    fun checksum isNode => join_ne_part (hex checksum isNode) _ _
  have unlike : filePath cfg io node_md5 ≠ filePath cfg io node_md5 ++ ".part" := by
    intro same
    have lengths := congrArg String.length same
    rw [String.length_append] at lengths
    have long : ".part".length = 5 := by decide
    omega
  unfold fetchMissing
  dsimp only
  by_cases existing : isFileExisting files (filePath cfg io node_md5) = true
  · rw [if_pos existing]
    refine ⟨Advances.refl sound, fun _ (missing : files (filePath cfg io node_md5) = none) => ?_⟩
    rw [isFileExisting, Files.stat_unlinked (sound.unlinked _ insideFile), missing] at existing
    cases existing
  · rw [if_neg existing]
    cases fetched : answers.fetchFile with
    | failed text left =>
        dsimp only
        exact ⟨advances_leave sound insidePart notPart left, fun impossible => nomatch impossible⟩
    | delivered content received =>
        dsimp only
        have part := @advances_create _ _ _ _ links _ sound _ insidePart notPart content
        have complete := Files.create_self (sound.unlinked _ insidePart) content
        have renamed := @advances_rename _ _ _ _ links _ part.sound _ _ insidePart insideFile unlike
            notPart _ complete
          (fun checksum isNode same => known.right hex fetched isNode same)
        rw [if_pos known.careful.renamed]
        have there : (files.create (filePath cfg io node_md5 ++ ".part") content).rename
            (filePath cfg io node_md5 ++ ".part") (filePath cfg io node_md5)
                (filePath cfg io node_md5) ≠ none := by
          rw [Files.rename_new unlike, complete]
          exact Option.some_ne_none _
        by_cases wrong : isShockPredata io = true ∧ node_md5 ≠ md5 content
        · rw [if_pos wrong]
          exact ⟨part.trans renamed, fun impossible => nomatch impossible⟩
        · rw [if_neg wrong]
          exact ⟨part.trans renamed, fun _ => there⟩

/-- A piece from Shock is in its place: a copy with its checksum, or a link to the file under the
checksum. -/
def Placed (md5 : C -> String) (cfg : Config) (files : Files C) (wants_docker : Bool)
    (linkname checksum : String) :
    Prop :=
  forall entry, files linkname = some entry ->
    (Exists fun content => entry = .file content ∧ md5 content = checksum) ∨
      (entry = .link (joinPath (if wants_docker then cfg.dockerWorkunitPredataDir else
      predataDirectory cfg) checksum) ∧
        files (joinPath (predataDirectory cfg) checksum) ≠ none)

/-- The copy or the link. -/
theorem placeFile_advances (hex : forall checksum, ofNode checksum -> IsMd5 checksum)
    {files : Files C} (sound : Sound md5 cfg ofNode files)
    (known : Known md5 ofNode io answers node_md5) {linkname : String}
    (fresh : files linkname = none) (beyond : ¬ InPredata cfg linkname)
    (there : files (filePath cfg io node_md5) ≠ none) (wants_docker : Bool) :
    Advances md5 cfg ofNode (· = linkname) files
        (placeFile cfg wants_docker io answers node_md5 linkname files).2 ∧
      ((placeFile cfg wants_docker io answers node_md5 linkname files).1 = none ->
          isShockPredata io = true ->
        Placed md5 cfg (placeFile cfg wants_docker io answers node_md5 linkname files).2
            wants_docker linkname
          node_md5) := by
  have unlinked : files.Unlinked linkname := by
    intro target linked
    rw [fresh] at linked
    cases linked
  have written : forall content, Advances md5 cfg ofNode (· = linkname) files
      (files.create linkname content) :=
    fun content => advances_link hex sound beyond fun other different =>
        Files.create_other unlinked different content
  have linked : forall target, Advances md5 cfg ofNode (· = linkname) files
      (files.symlink target linkname) :=
    fun target => advances_link hex sound beyond fun other different =>
        Files.symlink_other different target
  have kept : isShockPredata io = true ->
      filePath cfg io node_md5 = joinPath (predataDirectory cfg) node_md5 :=
    fun shock => if_pos shock
  have isNode : isShockPredata io = true -> ofNode node_md5 :=
    fun shock => known.careful.declared shock node_md5 (known.declared shock)
  unfold placeFile
  dsimp only
  by_cases copies : cfg.noSymlink = true
  · rw [if_pos copies]
    unfold copyInto
    cases copied : answers.copyFile with
    | failed text left =>
        dsimp only
        refine ⟨?_, fun impossible => nomatch impossible⟩
        cases left with
        | none => exact Advances.refl sound
        | some content => exact written content
    | done =>
        cases found : files.read (filePath cfg io node_md5) with
        | none => exact ⟨Advances.refl sound, fun impossible => nomatch impossible⟩
        | some content =>
            refine ⟨written content, fun _ shock entry placed => Or.inl ?_⟩
            dsimp only at placed
            rw [Files.create_self unlinked] at placed
            cases placed
            refine ⟨content, rfl, ?_⟩
            have inside : InPredata cfg (filePath cfg io node_md5) := by
              rw [kept shock]
              exact inPredata_path (hex node_md5 (isNode shock)).plain
            rw [Files.read, Files.stat_unlinked (sound.unlinked _ inside)] at found
            cases entryFound : files (filePath cfg io node_md5) with
            | none => exact absurd entryFound there
            | some entry =>
                rcases sound.checked node_md5 (isNode shock) entry (kept shock ▸ entryFound) with
                    ⟨right, rfl, same⟩
                rw [entryFound] at found
                cases found
                exact same
  · rw [if_neg copies]
    -- a new link leads to the file under the checksum, which is still there
    have leads : forall target, isShockPredata io = true ->
        target = joinPath (if wants_docker then cfg.dockerWorkunitPredataDir else
            predataDirectory cfg) node_md5 ->
        Placed md5 cfg (files.symlink target linkname) wants_docker linkname node_md5 := by
      intro target shock same entry placed
      rw [Files.symlink_self] at placed
      cases placed
      refine Or.inr ⟨congrArg Entry.link same, ?_⟩
      exact (linked target).kept node_md5 (isNode shock) (kept shock ▸ there)
    by_cases docker : wants_docker = true
    · rw [if_pos docker]
      unfold symlink
      rw [fresh]
      cases answers.symlink with
      | some text =>
          refine ⟨Advances.refl sound, fun _ _ entry placed => ?_⟩
          dsimp only at placed
          rw [fresh] at placed
          cases placed
      | none =>
          refine ⟨linked _, fun _ shock => leads _ shock ?_⟩
          rw [if_pos shock, if_pos docker]
    · rw [if_neg docker]
      unfold symlink
      rw [fresh]
      cases answers.symlink with
      | some text => exact ⟨Advances.refl sound, fun impossible => nomatch impossible⟩
      | none =>
          refine ⟨linked _, fun _ shock => leads _ shock ?_⟩
          rw [if_neg docker]
          exact kept shock

/-- The path in the working directory. -/
def linkOf (work : Workunit C) (io : Io) : String :=
  match work.path with
  | .ok work_path => joinPath work_path io.fileName
  | .error _ => ""

/-- Nothing is at the path in the working directory, which is away from the predata. -/
def Fresh (cfg : Config) (files : Files C) (work : Workunit C) (io : Io) : Prop :=
  forall work_path, work.path = .ok work_path ->
    files (joinPath work_path io.fileName) = none ∧
        ¬ InPredata cfg (joinPath work_path io.fileName) ∧
      joinPath work_path io.fileName ≠ predataDirectory cfg

theorem Fresh.advances {files after : Files C} {work : Workunit C} {other : Io}
    (fresh : Fresh cfg files work other) (advances : Advances md5 cfg ofNode links files after)
    (free : forall work_path, work.path = .ok work_path ->
    ¬ links (joinPath work_path other.fileName)) :
    Fresh cfg after work other := by
  intro work_path found
  rcases fresh work_path found with ⟨missing, beyond, unlike⟩
  exact ⟨(advances.outside _ beyond unlike (free work_path found)).trans missing, beyond, unlike⟩

theorem moveIntoWorkpath_advances (hex : forall checksum, ofNode checksum -> IsMd5 checksum)
    {files : Files C} (sound : Sound md5 cfg ofNode files)
    (known : Known md5 ofNode io answers node_md5) {work : Workunit C}
    (fresh : Fresh cfg files work io) (there : files (filePath cfg io node_md5) ≠ none) :
    Advances md5 cfg ofNode (· = linkOf work io) files
        (moveIntoWorkpath cfg work io answers node_md5 files).2 ∧
      ((moveIntoWorkpath cfg work io answers node_md5 files).1 = none -> isShockPredata io = true ->
        Placed md5 cfg (moveIntoWorkpath cfg work io answers node_md5 files).2
        (work.dockerimage != "")
          (linkOf work io) node_md5) := by
  unfold moveIntoWorkpath
  dsimp only
  by_cases disabled : (work.dockerimage != "") = true ∧ cfg.useDocker = "no"
  · rw [if_pos disabled]
    exact ⟨Advances.refl sound, fun impossible => nomatch impossible⟩
  · rw [if_neg disabled]
    by_cases enforced : (work.dockerimage != "") = false ∧ cfg.useDocker = "only"
    · rw [if_pos enforced]
      exact ⟨Advances.refl sound, fun impossible => nomatch impossible⟩
    · rw [if_neg enforced]
      cases found : work.path with
      | error text => exact ⟨Advances.refl sound, fun impossible => nomatch impossible⟩
      | ok work_path =>
          have same : linkOf work io = joinPath work_path io.fileName := by
            rw [linkOf, found]
          rcases fresh work_path found with ⟨missing, beyond, -⟩
          rw [same]
          exact placeFile_advances hex sound known missing beyond there _

theorem moveChecked_advances (hex : forall checksum, ofNode checksum -> IsMd5 checksum)
    {files : Files C} (sound : Sound md5 cfg ofNode files)
    (known : Known md5 ofNode io answers node_md5) {work : Workunit C}
    (fresh : Fresh cfg files work io) (size : Int) :
    Advances md5 cfg ofNode (· = linkOf work io) files
        (moveChecked md5 cfg work io answers node_md5 files size).2.2 ∧
      ((moveChecked md5 cfg work io answers node_md5 files size).1 = none ->
          isShockPredata io = true ->
        Placed md5 cfg (moveChecked md5 cfg work io answers node_md5 files size).2.2
            (work.dockerimage != "")
          (linkOf work io) node_md5) := by
  have fetched := @fetchMissing_advances C md5 cfg ofNode (fun _ => False) io answers node_md5 hex
      files sound known size
  unfold moveChecked
  generalize fetchMissing md5 cfg io answers node_md5 files size = result at fetched ⊢
  rcases result with ⟨err, received, after⟩
  rcases fetched with ⟨advances, there⟩
  have front : Advances md5 cfg ofNode (· = linkOf work io) files after :=
    advances.mono fun _ impossible => impossible.elim
  cases err with
  | some text => exact ⟨front, fun impossible => nomatch impossible⟩
  | none =>
      have inside : InPredata cfg (filePath cfg io node_md5 ++ ".access") := by
        rw [filePath_eq]
        exact inPredata_join (known.plain hex) ".access"
      have unlike : filePath cfg io node_md5 ≠ filePath cfg io node_md5 ++ ".access" := by
        intro same
        have lengths := congrArg String.length same
        rw [String.length_append] at lengths
        have long : ".access".length = 7 := by decide
        omega
      dsimp only
      cases accessed : answers.accessfile with
      | error text => exact ⟨front, fun impossible => nomatch impossible⟩
      | ok stamp =>
          have stamped := @advances_create C md5 cfg ofNode (fun _ => False) after
              advances.sound _ inside
            (fun checksum isNode => join_ne_access (hex checksum isNode) _ _) stamp
          have still : after.create (filePath cfg io node_md5 ++ ".access") stamp
              (filePath cfg io node_md5) ≠ none := by
            rw [Files.create_other (advances.sound.unlinked _ inside) unlike]
            exact there rfl
          have stillFresh := fresh.advances (advances.trans stamped) fun _ _ impossible =>
              impossible
          have placed := moveIntoWorkpath_advances hex stamped.sound known stillFresh still
          have whole := (front.trans (stamped.mono fun _ impossible => impossible.elim)).trans
              placed.1
          dsimp only
          generalize moveIntoWorkpath cfg work io answers node_md5
            (after.create (filePath cfg io node_md5 ++ ".access") stamp) = result at placed whole ⊢
          rcases result with ⟨err, last⟩
          cases err with
          | some text => exact ⟨whole, fun impossible => nomatch impossible⟩
          | none => exact ⟨whole, fun _ shock => placed.2 rfl shock⟩

/-- One round. -/
theorem moveOne_advances (hex : forall checksum, ofNode checksum -> IsMd5 checksum)
    {files : Files C} (sound : Sound md5 cfg ofNode files)
    (careful : CarefulPiece md5 ofNode io answers) {work : Workunit C}
    (fresh : Fresh cfg files work io) (size : Int) :
    Advances md5 cfg ofNode (· = linkOf work io) files
        (moveOne md5 cfg work io answers files size).2.2 ∧
      ((moveOne md5 cfg work io answers files size).1 = none -> isShockPredata io = true ->
        forall checksum, answers.shockGet = .ok checksum ->
        Placed md5 cfg (moveOne md5 cfg work io answers files size).2.2 (work.dockerimage != "")
            (linkOf work io)
          checksum) := by
  unfold moveOne
  cases answers.mkdirAll with
  | some text => exact ⟨Advances.refl sound, fun impossible => nomatch impossible⟩
  | none =>
      have made := @advances_mkdir C md5 cfg ofNode (fun _ => False) hex files sound
      have front : Advances md5 cfg ofNode (· = linkOf work io) files
          (files.mkdir (predataDirectory cfg)) :=
        made.mono fun _ impossible => impossible.elim
      have stillFresh := fresh.advances made fun _ _ impossible => impossible
      dsimp only
      cases answers.dataUrl with
      | some text => exact ⟨front, fun impossible => nomatch impossible⟩
      | none =>
          dsimp only
          by_cases shock : isShockPredata io = true
          · rw [if_pos shock]
            cases declared : answers.shockGet with
            | error text => exact ⟨front, fun impossible => nomatch impossible⟩
            | ok node_md5 =>
                have moved := moveChecked_advances hex made.sound ⟨careful, fun _ => declared⟩
                    stillFresh size
                refine ⟨front.trans moved.1, fun done _ checksum same => ?_⟩
                cases same
                exact moved.2 done shock
          · rw [if_neg shock]
            have moved := @moveChecked_advances C md5 cfg ofNode io answers "" hex _ made.sound
              ⟨careful, fun isShock => absurd isShock shock⟩ work stillFresh size
            exact ⟨front.trans moved.1, fun _ isShock => absurd isShock shock⟩

/-- What is in its place stays there. -/
theorem Placed.advances {files after : Files C} {wants_docker : Bool} {linkname checksum : String}
    (placed : Placed md5 cfg files wants_docker linkname checksum)
    (advances : Advances md5 cfg ofNode links files after) (isNode : ofNode checksum)
    (beyond : ¬ InPredata cfg linkname) (unlike : linkname ≠ predataDirectory cfg)
    (free : ¬ links linkname) :
    Placed md5 cfg after wants_docker linkname checksum := by
  intro entry found
  rw [advances.outside linkname beyond unlike free] at found
  rcases placed entry found with copied | ⟨linked, there⟩
  · exact Or.inl copied
  · exact Or.inr ⟨linked, advances.kept checksum isNode there⟩

end

/-! ## All predata of a workunit -/

section

variable {C : Type} {md5 : C -> String} {cfg : Config} {ofNode : String -> Prop}

/-- The loop: it puts every piece in its place, and nothing that was there before is changed. -/
theorem moveRest_advances (hex : forall checksum, ofNode checksum -> IsMd5 checksum)
    {work : Workunit C} {pieces : List (Io × Answers C)} {files : Files C}
    (sound : Sound md5 cfg ofNode files)
    (careful : forall io answers, (io, answers) ∈ pieces -> CarefulPiece md5 ofNode io answers)
    (distinct : (pieces.map fun piece => piece.1.fileName).Nodup)
    (fresh : forall io answers, (io, answers) ∈ pieces -> Fresh cfg files work io) (size : Int) :
    Advances md5 cfg ofNode (fun path => Exists fun piece => piece ∈ pieces ∧
        path = linkOf work piece.1) files
        (moveRest md5 cfg work pieces files size).2.2 ∧
      ((moveRest md5 cfg work pieces files size).1 = none ->
          forall io answers, (io, answers) ∈ pieces ->
        isShockPredata io = true -> forall checksum, answers.shockGet = .ok checksum ->
        forall work_path, work.path = .ok work_path ->
        Placed md5 cfg (moveRest md5 cfg work pieces files size).2.2 (work.dockerimage != "")
          (joinPath work_path io.fileName) checksum) := by
  induction pieces generalizing files size with
  | nil => exact ⟨Advances.refl sound, fun _ _ _ impossible => absurd impossible List.not_mem_nil⟩
  | cons piece rest inductionHypothesis =>
      rcases piece with ⟨io, answers⟩
      rw [List.map_cons, List.nodup_cons] at distinct
      have here := careful io answers List.mem_cons_self
      have first := moveOne_advances hex sound here (fresh io answers List.mem_cons_self) size
      rw [moveRest]
      generalize moveOne md5 cfg work io answers files size = result at first ⊢
      rcases result with ⟨err, received, after⟩
      rcases first with ⟨advances, placed⟩
      have front : Advances md5 cfg ofNode
          (fun path => Exists fun piece => piece ∈ (io, answers) :: rest ∧
              path = linkOf work piece.1) files after :=
        advances.mono fun path same => ⟨(io, answers), List.mem_cons_self, same⟩
      cases err with
      | some text => exact ⟨front, fun impossible => nomatch impossible⟩
      | none =>
          have apart : forall other answered, (other, answered) ∈ rest -> forall work_path,
              work.path = .ok work_path ->
                  joinPath work_path other.fileName ≠ joinPath work_path io.fileName := by
            intro other answered member work_path _ same
            have otherCareful := careful other answered (List.mem_cons_of_mem _ member)
            have names := joinPath_inj otherCareful.named here.named same
            refine distinct.1 ?_
            rw [<- names]
            exact @List.mem_map_of_mem _ _ _ _ (fun piece : Io × Answers C => piece.1.fileName)
                member
          have linked : forall other work_path, work.path = .ok work_path ->
              linkOf work other = joinPath work_path other.fileName := by
            intro other work_path found
            rw [linkOf, found]
          have later := inductionHypothesis advances.sound
            (fun other answered member => careful other answered (List.mem_cons_of_mem _ member))
                distinct.2
            (fun other answered member =>
              (fresh other answered (List.mem_cons_of_mem _ member)).advances advances
                  fun work_path found same =>
                apart other answered member work_path found
                    (same.trans (linked io work_path found))) received
          dsimp only
          refine ⟨front.trans (later.1.mono fun path => ?_), fun done other answered member shock
              checksum declared
            work_path found => ?_⟩
          · rintro ⟨piece, member, same⟩
            exact ⟨piece, List.mem_cons_of_mem _ member, same⟩
          · rcases List.mem_cons.mp member with same | inRest
            · cases same
              rcases fresh io answers List.mem_cons_self work_path found with ⟨-, beyond, unlike⟩
              have now := placed rfl shock checksum declared
              rw [linked io work_path found] at now
              refine now.advances later.1 (here.declared shock checksum declared) beyond unlike ?_
              rintro ⟨⟨next, answering⟩, nextMember, samePath⟩
              rw [linked next work_path found] at samePath
              exact apart next answering nextMember work_path found samePath.symm
            · exact later.2 done other answered inRest shock checksum declared work_path found

theorem Sound.neverCorrupt {files : Files C} (sound : Sound md5 cfg ofNode files) :
    NeverCorrupt md5 cfg ofNode files := by
  intro checksum isNode content found
  rcases sound.checked checksum isNode _ found with ⟨right, same, declared⟩
  cases same
  exact declared

/-- What is in its place shows the bytes with the checksum. -/
theorem Placed.shows (hex : forall checksum, ofNode checksum -> IsMd5 checksum) {files : Files C}
    (sound : Sound md5 cfg ofNode files) {wants_docker : Bool} {linkname checksum : String}
    (isNode : ofNode checksum) (placed : Placed md5 cfg files wants_docker linkname checksum)
    {entry : Entry C} (found : files linkname = some entry) :
    Exists fun content => Shows cfg files wants_docker entry content ∧ md5 content = checksum := by
  rcases placed entry found with ⟨content, rfl, same⟩ | ⟨rfl, there⟩
  · exact ⟨content, rfl, same⟩
  · rcases Option.ne_none_iff_exists'.mp there with ⟨kept, atChecksum⟩
    rcases sound.checked checksum isNode kept atChecksum with ⟨content, rfl, same⟩
    have read : files.read (joinPath (predataDirectory cfg) checksum) = some content := by
      rw [Files.read, Files.stat_unlinked
          (sound.unlinked _ (inPredata_path (hex checksum isNode).plain)), atChecksum]
    refine ⟨content, ?_, same⟩
    cases wants_docker with
    | true => exact ⟨checksum, rfl, read⟩
    | false => exact read

/-- A careful call keeps the files sound, and if it returns without an error, what it has put into
the working directory is right. -/
theorem movePreData_sound (hex : forall checksum, ofNode checksum -> IsMd5 checksum)
    {files : Files C} (sound : Sound md5 cfg ofNode files) {work : Workunit C}
    (careful : CarefulCall md5 cfg ofNode files work) :
    Sound md5 cfg ofNode (movePreData md5 cfg work files).2.2 ∧
      ((movePreData md5 cfg work files).1 = none ->
          Delivered md5 cfg (movePreData md5 cfg work files).2.2 work) := by
  have moved := moveRest_advances hex sound careful.pieces careful.distinct
    (fun io answers member work_path found => careful.fresh work_path found io answers member) 0
  refine ⟨moved.1.sound, fun done io answers member shock checksum declared work_path found
      entry atLink => ?_⟩
  exact (moved.2 done io answers member shock checksum declared work_path found).shows
      hex moved.1.sound
    ((careful.pieces io answers member).declared shock checksum declared) atLink

end

/-- In a run whose steps are all careful, no file under a checksum is ever wrong, and whatever a
call that returns without an error has put into the working directory is right.  A download gets
its final name before its checksum is compared, and what has that name is trusted from then on. A
careful step is one in which the comparison would have found nothing. -/
theorem predata_never_corrupt {C : Type} {md5 : C -> String} {cfg : Config}
    {ofNode : String -> Prop} (hex : forall checksum, ofNode checksum -> IsMd5 checksum)
    {start files : Files C} (sound : Sound md5 cfg ofNode start)
    (reached : Reaches (step md5 cfg) (Careful md5 cfg ofNode) start files) :
    NeverCorrupt md5 cfg ofNode files ∧
      forall work, CarefulCall md5 cfg ofNode files work ->
          (movePreData md5 cfg work files).1 = none ->
        Delivered md5 cfg (movePreData md5 cfg work files).2.2 work := by
  have still : Sound md5 cfg ofNode files := by
    refine reached.invariant sound ?_
    intro before event after soundBefore careful stepped
    cases event with
    | call work =>
        cases stepped
        exact (movePreData_sound hex soundBefore careful).1
    | elsewhere changed =>
        cases stepped
        refine ⟨fun path inside target linked => ?_, fun checksum isNode entry found => ?_⟩
        · rw [careful path inside] at linked
          exact soundBefore.unlinked path inside target linked
        · rw [careful _ (inPredata_path (hex checksum isNode).plain)] at found
          exact soundBefore.checked checksum isNode entry found
  exact ⟨still.neverCorrupt, fun work careful done => (movePreData_sound hex still careful).2 done⟩

private def oneCache : Config :=
  { predataPath := "/data", noSymlink := false, useDocker := "yes", dockerWorkunitPredataDir := "/db/" }

private def digest : String := "0123456789abcdef0123456789abcdef"

private def wanted (text : String) : Prop := text = digest

private theorem wanted_hex (text : String) (isNode : wanted text) : IsMd5 text := by
  rw [isNode]
  have listed : (digest.toList.all fun letter => "0123456789abcdef".toList.contains letter) =
      true := by
    decide +kernel
  exact ⟨by decide, fun letter member => List.contains_iff_mem.mp (List.all_eq_true.mp listed letter member)⟩

private def emptyDisk : Files String := fun _ => none

private theorem emptyDisk_sound : Sound id oneCache wanted emptyDisk :=
  ⟨fun _ _ _ impossible => (nomatch impossible), fun _ _ _ impossible => (nomatch impossible)⟩

/-- A piece from Shock, for which some bytes are received. -/
private def reference (received : String) : Io × Answers String :=
  ({ fileName := "ref.db", node := "n1" },
    { mkdirAll := none, dataUrl := none, shockGet := .ok digest, fetchFile := .delivered received 3, renamed := true,
      accessfile := .ok "now", copyFile := .done, symlink := none })

private def workWith (received work_path : String) : Workunit String :=
  { predata := [reference received], dockerimage := "", path := .ok work_path }

private theorem workWith_careful {files : Files String} {work_path : String}
    (fresh : files (joinPath work_path "ref.db") = none)
    (beyond : ¬ InPredata oneCache (joinPath work_path "ref.db"))
    (unlike : joinPath work_path "ref.db" ≠ predataDirectory oneCache) :
    CarefulCall id oneCache wanted files (workWith digest work_path) where
  pieces := by
    intro io answers member
    cases List.mem_singleton.mp member
    refine ⟨by decide, rfl, fun _ checksum declared => (Except.ok.inj declared).symm, ?_,
        fun shock => nomatch shock⟩
    intro _ checksum declared content size delivered
    cases declared
    cases delivered
    rfl
  distinct := List.nodup_cons.mpr ⟨List.not_mem_nil, List.nodup_nil⟩
  fresh := by
    intro found same io answers member
    cases same
    cases List.mem_singleton.mp member
    exact ⟨fresh, beyond, unlike⟩

/-- The second workunit gets the file that was fetched for the first. -/
theorem reference_delivered :
    Delivered id oneCache
      (movePreData id oneCache (workWith digest "/work/2")
        (movePreData id oneCache (workWith digest "/work/1") emptyDisk).2.2).2.2
        (workWith digest "/work/2") := by
  have first : CarefulCall id oneCache wanted emptyDisk (workWith digest "/work/1") :=
    workWith_careful rfl (by unfold InPredata; decide) (by decide)
  have reached : Reaches (step id oneCache) (Careful id oneCache wanted) emptyDisk
      (movePreData id oneCache (workWith digest "/work/1") emptyDisk).2.2 :=
    Reaches.snoc (.call (workWith digest "/work/1")) Relation.ReflTransGen.refl first rfl
  refine (predata_never_corrupt wanted_hex emptyDisk_sound reached).2
      (workWith digest "/work/2") ?_ rfl
  exact workWith_careful rfl (by unfold InPredata; decide) (by decide)

/-- Other bytes than those of the node are kept under its checksum, and the next call, for which
nothing is fetched, takes them without an error. -/
theorem other_bytes_kept :
    (¬ forall files : Files String, Reaches (step id oneCache) anyEvent emptyDisk files ->
        NeverCorrupt id oneCache wanted files) ∧
      ¬ forall (files : Files String) (work : Workunit String),
          Reaches (step id oneCache) anyEvent emptyDisk files ->
        (movePreData id oneCache work files).1 = none ->
        Delivered id oneCache (movePreData id oneCache work files).2.2 work := by
  have reached : Reaches (step id oneCache) anyEvent emptyDisk
      (movePreData id oneCache (workWith "other" "/work/1") emptyDisk).2.2 :=
    Reaches.snoc (.call (workWith "other" "/work/1")) Relation.ReflTransGen.refl trivial rfl
  constructor
  · intro sound
    have wrong := sound _ reached digest rfl "other" rfl
    exact absurd wrong (by decide)
  · intro right
    rcases right _ (workWith digest "/work/2") reached rfl { fileName := "ref.db", node := "n1" }
      (reference digest).2 List.mem_cons_self rfl digest rfl "/work/2" rfl
          (.link "/data/predata/0123456789abcdef0123456789abcdef")
      rfl with ⟨content, shown, same⟩
    have read : some content = some "other" := by
      rw [<- show _ = some content from shown]
      rfl
    rw [show content = "other" from Option.some.inj read] at same
    exact absurd same (by decide)

end Predata
end Worker
end Awe
