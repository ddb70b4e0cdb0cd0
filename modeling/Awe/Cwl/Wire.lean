import Awe.Cwl.Natives
import Mathlib.Data.List.Nodup

namespace Awe
namespace Cwl
namespace Wire

open Lib Lib.Path Natives

/-!
# Values between server and worker

A job document travels as JSON.  It is written by `json.Marshal` and read by
`NewJob_documentFromNamedTypes`, which sees a tree without types and hands every
value to `NewCWLType`.

The values of a document are null, booleans, strings, finite doubles, files,
directories, arrays and records.  Files and records come back changed in ways
that depend on their content: a file is completed from its path or its
contents, a map is taken for something else by the keys it has, and a record
that stands under a name is given that name as its field `id`.  `Survives` says
for which values none of this makes a difference, and the main result that it
says so exactly.
-/

/-- A field with `omitempty`. -/
def textEntry (text : String) : Option Tree :=
  if text = "" then none else some (.text text)

def listEntry (elements : List Tree) : Option Tree :=
  if elements.isEmpty then none else some (.list elements)

/-- A size is written as a number, and numbers are read as `float64`. -/
def ofInt32 (size : Int32) : Decimal maxFloat64 :=
  .finite size.toInt (by
    have bounded : |size.toInt| <= 2 ^ 31 := abs_le.mpr ⟨size.le_toInt, size.toInt_lt.le⟩
    calc |(size.toInt : Rat)| = ((|size.toInt| : Int) : Rat) := (Int.cast_abs).symm
      _ <= ((2 ^ 31 : Int) : Rat) := Int.cast_le.mpr bounded
      _ <= maxFloat64 := by decide +kernel)

/-- The entries of an object that are not omitted. -/
def present (table : List (String × Option Tree)) : List (String × Tree) :=
  table.filterMap fun entry => entry.2.map fun tree => (entry.1, tree)

/-- The fields of a `File`. -/
def fileTable (file : FileFields) (secondaryFiles : List Tree) : List (String × Option Tree) :=
  [("class", some (.text "File")), ("id", textEntry file.id), ("location", textEntry file.location),
    ("path", textEntry file.path), ("basename", textEntry file.basename),
    ("dirname", textEntry file.dirname),
    ("nameroot", textEntry file.nameroot), ("nameext", textEntry file.nameext),
    ("checksum", textEntry file.checksum),
    ("size", file.size.map fun size => .float64 (some (ofInt32 size))),
    ("secondaryFiles", listEntry secondaryFiles), ("format", textEntry file.format),
    ("contents", textEntry file.contents)]

/-- The fields of a `Directory`. -/
def directoryTable (directory : DirectoryFields) (listing : List Tree) :
    List (String × Option Tree) :=
  [("class", some (.text "Directory")), ("location", textEntry directory.location),
    ("path", textEntry directory.path), ("basename", textEntry directory.basename),
    ("listing", listEntry listing)]

mutual

/-- `json.Marshal` of a value, as the tree that `json.Unmarshal` makes of it.
The values whose numbers would be read back as another kind, or not at all, are
left out. -/
def toJson : Value -> Option Tree
  | .null => some .null
  | .boolean value => some (.bool value)
  | .int _ => none
  | .long _ => none
  | .float _ => none
  | .double (.infinite _) => none
  | .double (.finite value within) => some (.float64 (some (.finite value within)))
  | .string text => some (.text text)
  | .file fields secondaryFiles =>
      (listToJson secondaryFiles).map fun elements => .strMap (present (fileTable fields elements))
  | .directory fields listing =>
      (listToJson listing).map fun elements => .strMap (present (directoryTable fields elements))
  | .array items => (listToJson items).map .list
  | .record fields => (fieldsToJson fields).map .strMap

def listToJson : List Value -> Option (List Tree)
  | [] => some []
  | value :: rest =>
      match toJson value, listToJson rest with
      | some tree, some others => some (tree :: others)
      | _, _ => none

def fieldsToJson : List (String × Value) -> Option (List (String × Tree))
  | [] => some []
  | (key, value) :: rest =>
      match toJson value, fieldsToJson rest with
      | some tree, some others => some ((key, tree) :: others)
      | _, _ => none

end

/-- A `NamedCWLType`. -/
def namedToJson (entry : String × Value) : Option Tree :=
  (toJson entry.2).map fun tree =>
      .strMap (present [("id", textEntry entry.1), ("value", some tree)])

def documentToJson (document : Document) : Option Tree :=
  (document.mapM namedToJson).map .list

/-! ## The values that come back -/

/-- The three fields that a file takes from a path. -/
structure Components (file : FileFields) (path : String) : Prop where
  basename : file.basename = base path
  nameext : file.nameext = ext path
  nameroot : file.nameroot = trimSuffix (base path) (ext path)

/-- A file that `MakeFile` completes to itself: one with a path has the
components of the path; one with contents is located at its base name, has the
checksum and the size of the contents, and a base name that is no URL of
another scheme. -/
structure FileKept (library : Library) (file : FileFields) : Prop where
  ofPath : file.path ≠ "" -> Components file file.path
  ofContents : file.contents ≠ "" ->
    file.location = file.basename ∧ file.checksum = "sha1$" ++ library.sha1 file.contents ∧
      file.size = some (Int32.ofNat file.contents.utf8ByteSize)
  ofLocation : file.contents ≠ "" -> file.basename ≠ "" ->
    Exists fun url => library.parseURL file.basename = some url ∧
      ((url.scheme = "http" ∨ url.scheme = "https" ∨ url.scheme = "") ∨
        (url.scheme = "file" ∧ (file.path = "" -> Components file url.path)))

/-- A field that is decoded into a string. -/
def Textual : Option Value -> Prop
  | none => True
  | some .null => True
  | some (.string _) => True
  | some _ => False

/-- The class that the fields of a record are taken for. -/
def classText : Option Value -> String
  | some (.string text) => text
  | _ => ""

/-- What the decoder may find for a field: the value under the name itself or,
if there is none, under any key that is the name in another case. -/
def MayFind (name : String) (fields : List (String × Value)) (value : Value) : Prop :=
  fields.lookup name = some value ∨
    fields.lookup name = none ∧
      Exists fun key => key ∈ keys fields ∧ equalFold key name = true ∧
          fields.lookup key = some value

/-- The fields under which a map is taken for a record: no import, no items of
an array, nothing under the name `-`, and as `id` and `class`, in whichever
spelling they are found, nothing but texts, the class not being that of another
value. -/
structure TakenForRecord (fields : List (String × Value)) : Prop where
  noImport : fields.lookup "$import" = none
  noItems : fields.lookup "items" = none
  noDash : forall value, MayFind "-" fields value -> value = .null
  textualID : forall value, MayFind "ID" fields value -> Textual (some value)
  textualClass : forall value, MayFind "Class" fields value -> Textual (some value)
  otherClass : forall value, MayFind "Class" fields value ->
    classText (some value) ∉ ["File", "string", "boolean", "Directory"]

/-- The same in a decode that comes upon the keys in a given order. `mapstructure` decodes any map
into the struct that asks for the class, and these are the keys on which it can fail. -/
structure TakenIn (order : List String) (fields : List (String × Value)) : Prop where
  noImport : fields.lookup "$import" = none
  noItems : fields.lookup "items" = none
  noDash : forall value, findFieldIn order "-" fields = some value -> value = .null
  textualID : Textual (findFieldIn order "ID" fields)
  textualClass : Textual (findFieldIn order "Class" fields)
  otherClass : classText (findFieldIn order "Class" fields) ∉
      ["File", "string", "boolean", "Directory"]

/-- The map is taken for a record when its class is asked for in a given run. The order is part of
the run, since several keys may fit one field. -/
def TakenBy (visits : Visits) (fields : List (String × Value)) : Prop :=
  TakenIn (visits.visit "Empty" (keys fields)) fields

section

variable (kept : FileFields -> Prop) (taken : List (String × Value) -> Prop)

mutual

/-- A value that stands under a name comes back as it was, if these files and
records do. -/
def SurvivesAs : Value -> String -> Prop
  | .file fields secondaryFiles, _ =>
      kept fields ∧ AllSurviveAs secondaryFiles ∧
        forall value, value ∈ secondaryFiles -> isFileOrDirectory value = true
  | .directory _ listing, _ =>
      AllSurviveAs listing ∧ forall value, value ∈ listing -> isFileOrDirectory value = true
  | .array items, _ => AllSurviveAs items
  | .record fields, name =>
      taken fields ∧ (name = "" ∨ fields.lookup "id" = some (.string name)) ∧ FieldsSurviveAs fields
  | _, _ => True

def AllSurviveAs : List Value -> Prop
  | [] => True
  | value :: rest => SurvivesAs value "" ∧ AllSurviveAs rest

def FieldsSurviveAs : List (String × Value) -> Prop
  | [] => True
  | (key, value) :: rest => SurvivesAs value key ∧ FieldsSurviveAs rest

end

end

/-- A value that stands under a name comes back as it was in the run with the
orders of the library. -/
def SurvivesIn (library : Library) : Value -> String -> Prop :=
  SurvivesAs (FileKept library) (TakenBy library.toVisits)

/-- A value that stands under a name comes back as it was in every run. The name matters as much
as the value: the parser passes it down, and a record that does not bear it gets a field it did
not have. -/
def Survives (library : Library) : Value -> String -> Prop :=
  SurvivesAs (FileKept library) TakenForRecord

section

variable {kept : FileFields -> Prop} {taken : Visits -> List (String × Value) -> Prop}

mutual

/-- To survive in every run is to be taken for a record in every run, wherever a
record stands. -/
theorem forall_survivesAs (value : Value) (name : String) :
    (forall visits, SurvivesAs kept (taken visits) value name) ↔
      SurvivesAs kept (fun fields => forall visits, taken visits fields) value name := by
  cases value with
  | file fields secondaryFiles =>
      simp only [SurvivesAs]
      rw [forall_and, forall_and, forall_const, forall_const, forall_allSurviveAs secondaryFiles]
  | directory fields listing =>
      simp only [SurvivesAs]
      rw [forall_and, forall_const, forall_allSurviveAs listing]
  | array items =>
      simp only [SurvivesAs]
      exact forall_allSurviveAs items
  | record fields =>
      simp only [SurvivesAs]
      rw [forall_and, forall_and, forall_const, forall_fieldsSurviveAs fields]
  | _ => simp only [SurvivesAs, implies_true]

theorem forall_allSurviveAs (values : List Value) :
    (forall visits, AllSurviveAs kept (taken visits) values) ↔
      AllSurviveAs kept (fun fields => forall visits, taken visits fields) values := by
  cases values with
  | nil => simp only [AllSurviveAs, implies_true]
  | cons value rest =>
      simp only [AllSurviveAs]
      rw [forall_and, forall_survivesAs value "", forall_allSurviveAs rest]

theorem forall_fieldsSurviveAs (fields : List (String × Value)) :
    (forall visits, FieldsSurviveAs kept (taken visits) fields) ↔
      FieldsSurviveAs kept (fun fields => forall visits, taken visits fields) fields := by
  cases fields with
  | nil => simp only [FieldsSurviveAs, implies_true]
  | cons field rest =>
      rcases field with ⟨key, value⟩
      simp only [FieldsSurviveAs]
      rw [forall_and, forall_survivesAs value key, forall_fieldsSurviveAs rest]

end

end

/-! ## Looking up the fields of an object -/

section

variable {A : Type}

/-- The name of a field without regard to case. -/
def folded (name : String) : List Char :=
  name.toList.map foldLetter

theorem lookup_eq_some {fields : List (String × A)} {name : String} {value : A}
    (distinct : (fields.map fun field => folded field.1).Nodup) (member : (name, value) ∈ fields) :
    fields.lookup name = some value := by
  induction fields with
  | nil => cases member
  | cons field rest inductionHypothesis =>
      rcases field with ⟨key, other⟩
      rw [List.map_cons, List.nodup_cons] at distinct
      rcases List.mem_cons.mp member with same | listed
      · cases same
        rw [List.lookup_cons_self]
      · have different : (name == key) = false := by
          rw [beq_eq_false_iff_ne]
          rintro rfl
          exact distinct.1 (List.mem_map.mpr ⟨(name, value), listed, rfl⟩)
        rw [List.lookup_cons, different]
        exact inductionHypothesis distinct.2 listed

theorem mem_keys {fields : List (String × A)} {key : String} :
    key ∈ keys fields ↔ Exists fun value => (key, value) ∈ fields := by
  unfold keys
  rw [List.mem_map]
  constructor
  · rintro ⟨⟨other, value⟩, member, same⟩
    subst same
    exact ⟨value, member⟩
  · rintro ⟨value, member⟩
    exact ⟨(key, value), member, rfl⟩

/-- In an object whose keys differ without regard to case, `mapstructure` finds
the one entry that has the name, in whatever order it looks. -/
theorem findFieldIn_eq_some {fields : List (String × A)} {order : List String} {key name : String}
    {value : A} (visited : order.Perm (keys fields))
    (distinct : (fields.map fun field => folded field.1).Nodup) (member : (key, value) ∈ fields)
    (same : folded key = folded name) : findFieldIn order name fields = some value := by
  have only {other : String} {found : A} (listed : (other, found) ∈ fields)
      (alike : folded other = folded name) :
      found = value := by
    have one := List.inj_on_of_nodup_map distinct listed member (alike.trans same.symm)
    exact (Prod.mk.inj one).2
  unfold findFieldIn
  cases exact' : fields.lookup name with
  | some found => rw [only (mem_of_lookup exact') rfl, Option.some_or]
  | none =>
      rw [Option.none_or]
      cases search : order.find? fun key => equalFold key name with
      | none =>
          have there : key ∈ order := visited.mem_iff.mpr (mem_keys.mpr ⟨value, member⟩)
          refine absurd (List.find?_eq_none.mp search key there) (not_not_intro ?_)
          exact decide_eq_true same
      | some other =>
          have alike : equalFold other name = true := by simpa using List.find?_some search
          rcases mem_keys.mp (visited.mem_iff.mp (List.mem_of_find?_eq_some search)) with
              ⟨found, listed⟩
          rw [Option.bind_some, lookup_eq_some distinct listed,
              only listed (of_decide_eq_true alike)]

theorem findFieldIn_eq_none {fields : List (String × A)} {order : List String} {name : String}
    (visited : order.Perm (keys fields)) (absent : forall field, field ∈ fields -> folded field.1 ≠ folded name) :
    findFieldIn order name fields = none := by
  unfold findFieldIn
  cases exact' : fields.lookup name with
  | some found => exact absurd rfl (absent _ (mem_of_lookup exact'))
  | none =>
      rw [Option.none_or, List.find?_eq_none.mpr, Option.bind_none]
      intro key member alike
      rcases mem_keys.mp (visited.mem_iff.mp member) with ⟨value, listed⟩
      exact absent (key, value) listed (of_decide_eq_true alike)

end

section

variable {table : List (String × Option Tree)} {key name : String} {entry : Option Tree}

theorem mem_present {tree : Tree} : (key, tree) ∈ present table ↔ (key, some tree) ∈ table := by
  unfold present
  rw [List.mem_filterMap]
  constructor
  · rintro ⟨⟨other, entry⟩, member, found⟩
    cases entry with
    | none => cases found
    | some tree =>
        cases found
        exact member
  · intro member
    exact ⟨(key, some tree), member, rfl⟩

theorem distinct_present (distinct : (table.map fun entry => folded entry.1).Nodup) :
    ((present table).map fun field => folded field.1).Nodup := by
  induction table with
  | nil => exact List.nodup_nil
  | cons entry rest inductionHypothesis =>
      rcases entry with ⟨key, value⟩
      rw [List.map_cons, List.nodup_cons] at distinct
      have others := inductionHypothesis distinct.2
      cases value with
      | none => exact others
      | some tree =>
          refine List.nodup_cons.mpr ⟨?_, others⟩
          intro again
          rcases List.mem_map.mp again with ⟨⟨other, found⟩, member, same⟩
          exact distinct.1 (List.mem_map.mpr ⟨(other, some found), mem_present.mp member, same⟩)

/-- A field of a table is found under its name, or absent if it is omitted. -/
theorem findFieldIn_present {order : List String} (visited : order.Perm (keys (present table)))
    (distinct : (table.map fun entry => folded entry.1).Nodup) (member : (key, entry) ∈ table)
    (same : folded key = folded name) : findFieldIn order name (present table) = entry := by
  cases entry with
  | some tree => exact findFieldIn_eq_some visited (distinct_present distinct) (mem_present.mpr member) same
  | none =>
      refine findFieldIn_eq_none visited fun field listed alike => ?_
      have one := List.inj_on_of_nodup_map distinct (mem_present.mp listed) member
          (alike.trans same.symm)
      cases (Prod.mk.inj one).2

theorem lookup_present (distinct : (table.map fun entry => folded entry.1).Nodup)
    (member : (key, entry) ∈ table) :
    (present table).lookup key = entry := by
  cases entry with
  | some tree => exact lookup_eq_some (distinct_present distinct) (mem_present.mpr member)
  | none =>
      cases found : (present table).lookup key with
      | none => rfl
      | some tree =>
          have one := List.inj_on_of_nodup_map distinct
              (mem_present.mp (mem_of_lookup found)) member rfl
          cases (Prod.mk.inj one).2

theorem lookup_present_none (absent : key ∉ table.map Prod.fst) :
    (present table).lookup key = none := by
  cases found : (present table).lookup key with
  | none => rfl
  | some tree => exact absurd (List.mem_map.mpr ⟨_, mem_present.mp (mem_of_lookup found), rfl⟩) absent

theorem findFieldIn_present_none {order : List String} (visited : order.Perm (keys (present table)))
    (absent : folded name ∉ table.map fun entry => folded entry.1) :
    findFieldIn order name (present table) = none :=
  findFieldIn_eq_none visited fun _ listed alike =>
      absent (List.mem_map.mpr ⟨_, mem_present.mp listed, alike⟩)

end

/-! ## Files and directories -/

section

variable {library : Library} {context : Context} {file : FileFields} {directory : DirectoryFields}
  {elements : List Tree}

theorem textOf_textEntry (text : String) : textOf (textEntry text) = text := by
  unfold textEntry
  by_cases empty : text = ""
  · rw [if_pos empty, empty]
    rfl
  · rw [if_neg empty]
    rfl

theorem decodes_textEntry (text : String) :
    ((textEntry text).map (decodes .string)).getD true = true := by
  unfold textEntry
  by_cases empty : text = ""
  · rw [if_pos empty]
    rfl
  · rw [if_neg empty]
    rfl

theorem int32Of_ofInt32 (size : Option Int32) :
    int32Of (size.map fun size => .float64 (some (ofInt32 size))) = size := by
  cases size with
  | none => rfl
  | some size => simp [int32Of, ofInt32]

theorem fileTable_distinct : ((fileTable file elements).map fun entry => folded entry.1).Nodup :=
  (by decide : (["class", "id", "location", "path", "basename", "dirname", "nameroot", "nameext", "checksum",
    "size", "secondaryFiles", "format", "contents"].map folded).Nodup)

theorem findFieldIn_file {order : List String}
    (visited : order.Perm (keys (present (fileTable file elements)))) {key name : String}
    {entry : Option Tree} (same : folded key = folded name)
    (member : (key, entry) ∈ fileTable file elements) :
    findFieldIn order name (present (fileTable file elements)) = entry :=
  findFieldIn_present visited fileTable_distinct member same

/-- The struct that is decoded from the fields of a file is the file. -/
theorem decodeFile_present {order : List String}
    (visited : order.Perm (keys (present (fileTable file elements)))) :
    decodeFile order (present (fileTable file elements)) = file := by
  have text {key name value : String} (same : folded key = folded name)
      (member : (key, textEntry value) ∈ fileTable file elements) :
      textOf (findFieldIn order name (present (fileTable file elements))) = value := by
    rw [findFieldIn_file visited same member, textOf_textEntry]
  have size : int32Of (findFieldIn order "size" (present (fileTable file elements))) =
      file.size := by
    have member : ("size", file.size.map fun size => Tree.float64 (some (ofInt32 size))) ∈ fileTable
        file elements := by
      simp [fileTable]
    rw [findFieldIn_file visited rfl member, int32Of_ofInt32]
  simp only [decodeFile, size]
  rw [@text "id" "ID" file.id (by decide) (by simp [fileTable]),
      @text "location" _ file.location rfl (by simp [fileTable]),
    @text "path" _ file.path rfl (by simp [fileTable]), @text "basename" _ file.basename rfl
        (by simp [fileTable]),
    @text "dirname" _ file.dirname rfl (by simp [fileTable]), @text "nameroot" _ file.nameroot rfl
        (by simp [fileTable]),
    @text "nameext" _ file.nameext rfl (by simp [fileTable]), @text "checksum" _ file.checksum rfl
        (by simp [fileTable]),
    @text "format" _ file.format rfl (by simp [fileTable]), @text "contents" _ file.contents rfl
        (by simp [fileTable])]

theorem decodesStruct_file {order : List String}
    (visited : order.Perm (keys (present (fileTable file elements)))) :
    decodesStructIn order fileStruct (present (fileTable file elements)) = true := by
  have fits {key name : String} {entry : Option Tree} {kind : FieldKind}
      (same : folded key = folded name)
      (member : (key, entry) ∈ fileTable file elements)
      (fit : (entry.map (decodes kind)).getD true = true) :
      ((findFieldIn order name (present (fileTable file elements))).map (decodes kind)).getD
          true = true := by
    rw [findFieldIn_file visited same member]
    exact fit
  have text {key name value : String} (same : folded key = folded name)
      (member : (key, textEntry value) ∈ fileTable file elements) :
      ((findFieldIn order name (present (fileTable file elements))).map (decodes .string)).getD
          true = true :=
    fits same member (decodes_textEntry value)
  have dash : findFieldIn order "-" (present (fileTable file elements)) = none :=
    findFieldIn_present_none visited (by simp [fileTable]; decide)
  simp only [decodesStructIn, fileStruct, List.all_cons, List.all_nil, Bool.and_true,
      Bool.and_eq_true, dash]
  refine ⟨@fits "class" _ (some (.text "File")) _ (by decide) (by simp [fileTable]) rfl,
    @text "id" _ file.id (by decide) (by simp [fileTable]), rfl,
    @text "location" _ file.location rfl (by simp [fileTable]), @text "path" _ file.path rfl
        (by simp [fileTable]),
    @text "basename" _ file.basename rfl (by simp [fileTable]), @text "dirname" _ file.dirname rfl
        (by simp [fileTable]),
    @text "nameroot" _ file.nameroot rfl (by simp [fileTable]), @text "nameext" _ file.nameext rfl
        (by simp [fileTable]),
    @text "checksum" _ file.checksum rfl (by simp [fileTable]), @fits "size" _ _ _ rfl
        (by simp [fileTable]; rfl) ?_,
    @text "format" _ file.format rfl (by simp [fileTable]), @text "contents" _ file.contents rfl
        (by simp [fileTable])⟩
  cases file.size <;> rfl

/-- The elements of a list come back as the values, all of them files or
directories. -/
def FilesRead (library : Library) (context : Context) (elements : List Tree) (values : List Value) :
    Prop :=
  List.Forall₂ (fun tree value => newCWLType library context tree "" = .ok value ∧
      isFileOrDirectory value = true)
    elements values

theorem mapM_fileOrDirectory {caller refused : String} {values : List Value} :
    (elementsOf library context (.list elements)).mapM (fileOrDirectory caller refused) =
        .ok values ↔
      FilesRead library context elements values := by
  rw [elementsOf, newElements_eq, Fallible.mapM_ok_iff, List.forall₂_map_left_iff]
  simp only [fileOrDirectory_eq_ok]
  rfl

theorem filesRead_nil {values : List Value} : FilesRead library context [] values ↔ values = [] :=
  List.forall₂_nil_left_iff

theorem secondaryFilesOf_file {values : List Value} :
    secondaryFilesOf (childrenOfFields library context (present (fileTable file elements))) =
        .ok values ↔
      FilesRead library context elements values := by
  have found : (present (fileTable file elements)).lookup "secondaryFiles" = listEntry elements :=
    lookup_present fileTable_distinct (by simp [fileTable])
  unfold secondaryFilesOf
  rw [lookup_childrenOfFields, found]
  cases elements with
  | nil =>
      rw [filesRead_nil]
      exact ⟨fun same => (Except.ok.inj same).symm, fun same => congrArg Except.ok same.symm⟩
  | cons first rest =>
      simp only [listEntry, List.isEmpty_cons, Bool.false_eq_true, if_false,
          Option.map_some, wrap_eq_ok]
      exact mapM_fileOrDirectory

theorem makeFile_file {values : List Value} {completed : FileFields} :
    makeFile library (childrenOfFields library context (present (fileTable file elements))) =
        .ok (.file completed values) ↔
      FilesRead library context elements values ∧ completeFile library file = .ok completed := by
  have visited := library.visited "File" (keys (present (fileTable file elements)))
  have struct (absent : (present (fileTable file elements)).lookup "secondaryFiles" = none) :
      findFieldIn (library.visit "File" (keys (present (fileTable file elements)))) "secondaryFiles"
        (present (fileTable file elements)) = none := by
    rw [lookup_present fileTable_distinct
        (show ("secondaryFiles", listEntry elements) ∈ fileTable file elements by
      simp [fileTable])] at absent
    rw [<- absent]
    exact findFieldIn_file visited rfl (by simp [fileTable])
  rw [<- secondaryFilesOf_file, makeFile]
  cases secondaryFilesOf (childrenOfFields library context (present (fileTable file elements))) with
  | error failure => simp
  | ok found =>
      have fit : decodesStructIn (library.visit "File" (keys (present (fileTable file elements))))
          (if ((childrenOfFields library context (present (fileTable file elements))).lookup
          "secondaryFiles").isSome then fileStruct else
              ("secondaryFiles", .list .interface) :: fileStruct)
          (present (fileTable file elements)) = true := by
        rw [lookup_childrenOfFields, Option.isSome_map]
        cases absent : (present (fileTable file elements)).lookup "secondaryFiles" with
        | some tree => exact decodesStruct_file visited
        | none =>
            have rest := decodesStruct_file visited
            simp only [decodesStructIn, Option.isSome_none, Bool.false_eq_true, if_false,
                List.all_cons, struct absent,
              Option.map_none, Option.getD_none, Bool.true_and] at rest ⊢
            exact rest
      simp only [trees_childrenOfFields, fit, if_true, decodeFile_present visited]
      cases completeFile library file with
      | error failure => simp [Except.map]
      | ok done => simp [Except.map, and_comm]

theorem fileKept_iff : FileKept library file ↔
    (file.path ≠ "" -> Components file file.path) ∧
      (file.contents ≠ "" ->
        (file.location = file.basename ∧ file.checksum = "sha1$" ++ library.sha1 file.contents ∧
          file.size = some (Int32.ofNat file.contents.utf8ByteSize)) ∧
        (file.basename ≠ "" -> Exists fun url => library.parseURL file.basename = some url ∧
          ((url.scheme = "http" ∨ url.scheme = "https" ∨ url.scheme = "") ∨
            (url.scheme = "file" ∧ (file.path = "" -> Components file url.path))))) := by
  constructor
  · intro kept
    exact ⟨kept.ofPath, fun given => ⟨kept.ofContents given, kept.ofLocation given⟩⟩
  · rintro ⟨ofPath, ofContents⟩
    exact ⟨ofPath, fun given => (ofContents given).1, fun given => (ofContents given).2⟩

theorem components_iff {path : String} : Components file path ↔
    file.basename = base path ∧ file.nameext = ext path ∧ file.nameroot = trimSuffix (base path)
    (ext path) := by
  constructor
  · rintro ⟨basename, nameext, nameroot⟩
    exact ⟨basename, nameext, nameroot⟩
  · rintro ⟨basename, nameext, nameroot⟩
    exact ⟨basename, nameext, nameroot⟩

theorem completeFile_eq_self : completeFile library file = .ok file ↔ FileKept library file := by
  rw [fileKept_iff]
  simp only [components_iff]
  obtain ⟨id, location, path, basename, dirname, nameroot, nameext, checksum, size, format,
      contents⟩ := file
  simp only [completeFile, describeContents, parseLocation]
  by_cases empty : contents = ""
  · by_cases pathless : path = ""
    · simp [empty, pathless, Except.map]
    · simp only [empty, pathless, Except.map, updateComponents, ne_eq, not_true, if_false,
        not_false_eq_true, if_true,
        and_false, Except.ok.injEq, FileFields.mk.injEq]
      grind
  · by_cases nameless : basename = ""
    · by_cases pathless : path = "" <;>
        simp [empty, nameless, pathless, Except.map, updateComponents] <;> grind
    · cases parsed : library.parseURL basename with
      | none => simp [empty, nameless, parsed, Except.map]
      | some url =>
          by_cases plain : url.scheme = "http" ∨ url.scheme = "https" ∨ url.scheme = ""
          · by_cases pathless : path = "" <;>
              simp [empty, nameless, parsed, plain, pathless, Except.map, updateComponents] <;>
                  grind
          · by_cases isFile : url.scheme = "file"
            · by_cases pathless : path = "" <;>
                simp [empty, nameless, parsed, isFile, pathless, Except.map, updateComponents] <;>
                    grind
            · simp [empty, nameless, parsed, plain, isFile, Except.map]

/-- The class of a map with nothing but texts in the fields of `Empty`. -/
theorem getClassIn_of_texts {order : List String} {fields : List (String × Tree)} {id : Option Tree}
    {className : String} (idFound : findFieldIn order "ID" fields = id)
    (textual : (id.map (decodes .string)).getD true = true)
    (classFound : findFieldIn order "Class" fields = some (.text className))
    (dash : findFieldIn order "-" fields = none) : getClassIn order fields = .ok className := by
  have fits : decodesStructIn order emptyStruct fields = true := by
    simp only [decodesStructIn, emptyStruct, List.all_cons, List.all_nil, idFound, textual,
        classFound, dash]
    rfl
  unfold getClassIn
  rw [if_pos fits, classFound]
  rfl

theorem newCWLType_file {name : String} {values : List Value} {completed : FileFields} :
    newCWLType library context (.strMap (present (fileTable file elements))) name = .ok
        (.file completed values) ↔
      FilesRead library context elements values ∧ completeFile library file = .ok completed := by
  have visited := library.visited "Empty" (keys (present (fileTable file elements)))
  have className : getClassIn (library.visit "Empty" (keys (present (fileTable file elements))))
      (present (fileTable file elements)) = .ok "File" := by
    refine getClassIn_of_texts (findFieldIn_file visited (show folded "id" = folded "ID" by decide)
      (show ("id", textEntry file.id) ∈ _ by simp [fileTable])) (decodes_textEntry file.id) ?_ ?_
    · exact findFieldIn_file visited (show folded "class" = folded "Class" by decide)
        (by simp [fileTable])
    · exact findFieldIn_present_none visited (by simp [fileTable]; decide)
  rw [newCWLType, lookup_present_none (by simp [fileTable])]
  simp only [checkImport, ofMap, trees_childrenOfFields, className, newCWLTypeByClass, if_true]
  rw [lookup_present_none (by simp [fileTable])]
  simp only [Option.isSome_none, Bool.false_eq_true, if_false, wrap_eq_ok]
  exact makeFile_file

theorem directoryTable_distinct :
    ((directoryTable directory elements).map fun entry => folded entry.1).Nodup :=
  (by decide : (["class", "location", "path", "basename", "listing"].map folded).Nodup)

theorem findFieldIn_directory {order : List String}
    (visited : order.Perm (keys (present (directoryTable directory elements)))) {key name : String}
    {entry : Option Tree} (same : folded key = folded name)
    (member : (key, entry) ∈ directoryTable directory elements) :
    findFieldIn order name (present (directoryTable directory elements)) = entry :=
  findFieldIn_present visited directoryTable_distinct member same

theorem decodeDirectory_present {order : List String}
    (visited : order.Perm (keys (present (directoryTable directory elements)))) :
    decodeDirectory order (present (directoryTable directory elements)) = directory := by
  have text {key name value : String} (same : folded key = folded name)
      (member : (key, textEntry value) ∈ directoryTable directory elements) :
      textOf (findFieldIn order name (present (directoryTable directory elements))) = value := by
    rw [findFieldIn_directory visited same member, textOf_textEntry]
  simp only [decodeDirectory]
  rw [@text "location" _ directory.location rfl (by simp [directoryTable]),
    @text "path" _ directory.path rfl (by simp [directoryTable]),
    @text "basename" _ directory.basename rfl (by simp [directoryTable])]

theorem decodesStruct_directory {order : List String}
    (visited : order.Perm (keys (present (directoryTable directory elements)))) :
    decodesStructIn order directoryStruct (present (directoryTable directory elements)) = true := by
  have text {key name value : String} (same : folded key = folded name)
      (member : (key, textEntry value) ∈ directoryTable directory elements) :
      ((findFieldIn order name (present (directoryTable directory elements))).map
          (decodes .string)).getD true = true := by
    rw [findFieldIn_directory visited same member]
    exact decodes_textEntry value
  have dash : findFieldIn order "-" (present (directoryTable directory elements)) = none :=
    findFieldIn_present_none visited (by simp [directoryTable]; decide)
  have className : findFieldIn order "Class" (present (directoryTable directory elements)) = some
      (.text "Directory") :=
    findFieldIn_directory visited (show folded "class" = folded "Class" by decide)
        (by simp [directoryTable])
  simp only [decodesStructIn, directoryStruct, List.all_cons, List.all_nil, Bool.and_true,
      Bool.and_eq_true, dash, className]
  exact ⟨rfl, rfl, @text "location" _ directory.location rfl (by simp [directoryTable]),
    @text "path" _ directory.path rfl (by simp [directoryTable]),
    @text "basename" _ directory.basename rfl (by simp [directoryTable])⟩

theorem listingOf_directory {values : List Value} :
    listingOf (childrenOfFields library context (present (directoryTable directory elements))) =
        .ok values ↔
      FilesRead library context elements values := by
  have found : (present (directoryTable directory elements)).lookup "listing" =
      listEntry elements :=
    lookup_present directoryTable_distinct (by simp [directoryTable])
  unfold listingOf
  rw [lookup_childrenOfFields, found]
  cases elements with
  | nil =>
      rw [filesRead_nil]
      exact ⟨fun same => (Except.ok.inj same).symm, fun same => congrArg Except.ok same.symm⟩
  | cons first rest =>
      simp only [listEntry, List.isEmpty_cons, Bool.false_eq_true, if_false,
          Option.map_some, wrap_eq_ok]
      exact mapM_fileOrDirectory

theorem newDirectory_directory {values : List Value} :
    newDirectory library
        (childrenOfFields library context (present (directoryTable directory elements))) =
        .ok (.directory directory values) ↔ FilesRead library context elements values := by
  rw [<- listingOf_directory, newDirectory]
  cases listingOf (childrenOfFields library context (present (directoryTable directory elements)))
      with
  | error failure => simp
  | ok found =>
      have visited := library.visited "Directory"
          (keys (present (directoryTable directory elements)))
      have entry : findFieldIn
          (library.visit "Directory" (keys (present (directoryTable directory elements))))
          "listing" (present (directoryTable directory elements)) = listEntry elements :=
        findFieldIn_directory visited rfl (by simp [directoryTable])
      have fit : decodesStructIn
          (library.visit "Directory" (keys (present (directoryTable directory elements))))
          (if ((childrenOfFields library context
          (present (directoryTable directory elements))).lookup
          "listing").isSome then directoryStruct else ("listing", .list .typed) :: directoryStruct)
          (present (directoryTable directory elements)) = true := by
        rw [lookup_childrenOfFields, Option.isSome_map,
          lookup_present directoryTable_distinct
              (show ("listing", listEntry elements) ∈ _ by simp [directoryTable])]
        have rest := decodesStruct_directory visited
        cases listed : listEntry elements with
        | some tree => exact rest
        | none =>
            simp only [decodesStructIn, Option.isSome_none, Bool.false_eq_true, if_false,
                List.all_cons, entry, listed,
              Option.map_none, Option.getD_none, Bool.true_and] at rest ⊢
            exact rest
      simp only [trees_childrenOfFields, fit, if_true, decodeDirectory_present visited]
      simp

theorem newCWLType_directory {name : String} {values : List Value} :
    newCWLType library context (.strMap (present (directoryTable directory elements))) name =
        .ok (.directory directory values) ↔ FilesRead library context elements values := by
  have visited := library.visited "Empty" (keys (present (directoryTable directory elements)))
  have className : getClassIn
      (library.visit "Empty" (keys (present (directoryTable directory elements))))
      (present (directoryTable directory elements)) = .ok "Directory" := by
    refine getClassIn_of_texts (findFieldIn_present_none visited (by simp [directoryTable]; decide))
        rfl ?_ ?_
    · exact findFieldIn_directory visited (show folded "class" = folded "Class" by decide)
        (by simp [directoryTable])
    · exact findFieldIn_present_none visited (by simp [directoryTable]; decide)
  rw [newCWLType, lookup_present_none (by simp [directoryTable])]
  simp only [checkImport, ofMap, trees_childrenOfFields, className, newCWLTypeByClass]
  rw [lookup_present_none (by simp [directoryTable])]
  simp only [Option.isSome_none, Bool.false_eq_true, if_false, if_true, String.reduceEq, wrap_eq_ok]
  exact newDirectory_directory

end

/-! ## Records -/

/-- The entries of an object are those of the record, in the same order. -/
def SameFields (fields : List (String × Value)) (objects : List (String × Tree)) : Prop :=
  List.Forall₂ (fun field object => field.1 = object.1 ∧ toJson field.2 = some object.2)
      fields objects

theorem fieldsToJson_cons {key : String} {value : Value} {rest : List (String × Value)}
    {objects : List (String × Tree)}
    (written : fieldsToJson ((key, value) :: rest) = some objects) :
    Exists fun tree => Exists fun others =>
      toJson value = some tree ∧ fieldsToJson rest = some others ∧
          objects = (key, tree) :: others := by
  rw [fieldsToJson] at written
  cases first : toJson value with
  | none => simp [first] at written
  | some tree =>
      cases later : fieldsToJson rest with
      | none => simp [first, later] at written
      | some others =>
          simp only [first, later, Option.some.injEq] at written
          exact ⟨tree, others, rfl, rfl, written.symm⟩

theorem listToJson_cons {value : Value} {rest : List Value} {elements : List Tree}
    (written : listToJson (value :: rest) = some elements) :
    Exists fun tree => Exists fun others =>
      toJson value = some tree ∧ listToJson rest = some others ∧ elements = tree :: others := by
  rw [listToJson] at written
  cases first : toJson value with
  | none => simp [first] at written
  | some tree =>
      cases later : listToJson rest with
      | none => simp [first, later] at written
      | some others =>
          simp only [first, later, Option.some.injEq] at written
          exact ⟨tree, others, rfl, rfl, written.symm⟩

theorem sameFields_of_fieldsToJson {fields : List (String × Value)} {objects : List (String × Tree)}
    (written : fieldsToJson fields = some objects) : SameFields fields objects := by
  induction fields generalizing objects with
  | nil =>
      rw [fieldsToJson] at written
      cases written
      exact List.Forall₂.nil
  | cons field rest inductionHypothesis =>
      rcases fieldsToJson_cons written with ⟨tree, others, first, later, rfl⟩
      exact List.Forall₂.cons ⟨rfl, first⟩ (inductionHypothesis later)

/-- What is found in the record and in the object. -/
def SameFind (value : Option Value) (tree : Option Tree) : Prop :=
  (value = none ∧ tree = none) ∨ Exists fun found => Exists fun json =>
    value = some found ∧ tree = some json ∧ toJson found = some json

section

variable {fields : List (String × Value)} {objects : List (String × Tree)}

theorem SameFields.lookup (same : SameFields fields objects) (name : String) :
    SameFind (fields.lookup name) (objects.lookup name) := by
  induction same with
  | nil => exact Or.inl ⟨rfl, rfl⟩
  | cons here rest inductionHypothesis =>
      rename_i field object _ _
      rw [List.lookup_cons, List.lookup_cons, <- here.1]
      cases name == field.1 with
      | true => exact Or.inr ⟨field.2, object.2, rfl, rfl, here.2⟩
      | false => exact inductionHypothesis

theorem SameFields.findFieldIn (same : SameFields fields objects) (order : List String)
    (name : String) :
    SameFind (Cwl.findFieldIn order name fields) (Cwl.findFieldIn order name objects) := by
  unfold Cwl.findFieldIn
  rcases same.lookup name with ⟨absent, missing⟩ | ⟨value, tree, found, read, written⟩
  · rw [absent, missing, Option.none_or, Option.none_or]
    cases order.find? fun key => equalFold key name with
    | none => exact Or.inl ⟨rfl, rfl⟩
    | some key => exact same.lookup key
  · rw [found, read, Option.some_or, Option.some_or]
    exact Or.inr ⟨value, tree, rfl, rfl, written⟩

theorem SameFields.keys (same : SameFields fields objects) :
    Cwl.keys objects = Cwl.keys fields := by
  induction same with
  | nil => rfl
  | cons here rest inductionHypothesis =>
      unfold Cwl.keys at inductionHypothesis ⊢
      rw [List.map_cons, List.map_cons, inductionHypothesis, here.1]

theorem SameFind.none_iff {value : Option Value} {tree : Option Tree} (same : SameFind value tree) :
    tree = none ↔ value = none := by
  rcases same with ⟨absent, missing⟩ | ⟨found, json, present, read, _⟩
  · rw [absent, missing]
    exact ⟨fun _ => rfl, fun _ => rfl⟩
  · rw [present, read]
    exact ⟨fun impossible => (nomatch impossible), fun impossible => (nomatch impossible)⟩

/-- Of the values that are written, null and texts fit into a string and only
null fits into an interface of its own. -/
theorem toJson_plain {value : Value} {tree : Tree} (written : toJson value = some tree) :
    (value = .null ∧ tree = .null) ∨ (Exists fun text => value = .string text ∧ tree = .text text) ∨
      (¬ Textual (some value) ∧ decodes .string tree = false ∧ decodes .typed tree = false) := by
  cases value with
  | null =>
      rw [toJson] at written
      exact Or.inl ⟨rfl, (Option.some.inj written).symm⟩
  | string text =>
      rw [toJson] at written
      exact Or.inr (Or.inl ⟨text, rfl, (Option.some.inj written).symm⟩)
  | boolean value =>
      rw [toJson] at written
      cases written
      exact Or.inr (Or.inr ⟨id, rfl, rfl⟩)
  | int value =>
      rw [toJson] at written
      cases written
  | long value =>
      rw [toJson] at written
      cases written
  | float value =>
      rw [toJson] at written
      cases written
  | double number =>
      cases number with
      | infinite negative =>
          rw [toJson] at written
          cases written
      | finite value within =>
          rw [toJson] at written
          cases written
          exact Or.inr (Or.inr ⟨id, rfl, rfl⟩)
  | file file secondaryFiles =>
      rw [toJson, Option.map_eq_some_iff] at written
      rcases written with ⟨elements, _, rfl⟩
      exact Or.inr (Or.inr ⟨id, rfl, rfl⟩)
  | directory directory listing =>
      rw [toJson, Option.map_eq_some_iff] at written
      rcases written with ⟨elements, _, rfl⟩
      exact Or.inr (Or.inr ⟨id, rfl, rfl⟩)
  | array items =>
      rw [toJson, Option.map_eq_some_iff] at written
      rcases written with ⟨elements, _, rfl⟩
      exact Or.inr (Or.inr ⟨id, rfl, rfl⟩)
  | record fields =>
      rw [toJson, Option.map_eq_some_iff] at written
      rcases written with ⟨elements, _, rfl⟩
      exact Or.inr (Or.inr ⟨id, rfl, rfl⟩)

theorem SameFind.string_iff {value : Option Value} {tree : Option Tree}
    (same : SameFind value tree) :
    (tree.map (decodes .string)).getD true = true ↔ Textual value := by
  rcases same with ⟨rfl, rfl⟩ | ⟨found, json, rfl, rfl, written⟩
  · exact ⟨fun _ => trivial, fun _ => rfl⟩
  · rcases toJson_plain written with ⟨rfl, rfl⟩ | ⟨text, rfl, rfl⟩ | ⟨other, refused, _⟩
    · exact ⟨fun _ => trivial, fun _ => rfl⟩
    · exact ⟨fun _ => trivial, fun _ => rfl⟩
    · rw [Option.map_some, Option.getD_some, refused]
      exact ⟨fun impossible => (nomatch impossible), fun textual => absurd textual other⟩

theorem SameFind.typed_iff {value : Option Value} {tree : Option Tree}
    (same : SameFind value tree) :
    (tree.map (decodes .typed)).getD true = true ↔ forall found, value = some found ->
    found = .null := by
  rcases same with ⟨rfl, rfl⟩ | ⟨found, json, rfl, rfl, written⟩
  · exact ⟨fun _ _ impossible => (nomatch impossible), fun _ => rfl⟩
  · rcases toJson_plain written with ⟨rfl, rfl⟩ | ⟨text, rfl, rfl⟩ | ⟨other, _, refused⟩
    · exact ⟨fun _ _ same => (Option.some.inj same).symm, fun _ => rfl⟩
    · exact ⟨fun impossible => (nomatch impossible), fun only => (nomatch only _ rfl)⟩
    · rw [Option.map_some, Option.getD_some, refused]
      refine ⟨fun impossible => (nomatch impossible), fun only => absurd ?_ other⟩
      rw [only found rfl]
      trivial

theorem SameFind.textOf_eq {value : Option Value} {tree : Option Tree}
    (same : SameFind value tree) :
    textOf tree = classText value := by
  rcases same with ⟨rfl, rfl⟩ | ⟨found, json, rfl, rfl, written⟩
  · rfl
  · rcases toJson_plain written with ⟨rfl, rfl⟩ | ⟨text, rfl, rfl⟩ | ⟨other, refused, _⟩
    · rfl
    · rfl
    · have noText : textOf (some json) = "" := by
        cases json with
        | text value => cases refused
        | _ => rfl
      have noString : classText (some found) = "" := by
        cases found with
        | string text => exact absurd trivial other
        | _ => rfl
      rw [noText, noString]

/-- The class that is read off the object of a record. -/
theorem SameFields.getClassIn_eq_ok (same : SameFields fields objects) {order : List String}
    {className : String} :
    getClassIn order objects = .ok className ↔
      (Textual (Cwl.findFieldIn order "ID" fields) ∧
          Textual (Cwl.findFieldIn order "Class" fields) ∧
        forall value, Cwl.findFieldIn order "-" fields = some value -> value = .null) ∧
      className = classText (Cwl.findFieldIn order "Class" fields) := by
  have fits : decodesStructIn order emptyStruct objects = true ↔
      Textual (Cwl.findFieldIn order "ID" fields) ∧ Textual (Cwl.findFieldIn order "Class" fields) ∧
        forall value, Cwl.findFieldIn order "-" fields = some value -> value = .null := by
    simp only [decodesStructIn, emptyStruct, List.all_cons, List.all_nil, Bool.and_true,
        Bool.and_eq_true,
      (same.findFieldIn order "ID").string_iff, (same.findFieldIn order "Class").string_iff,
      (same.findFieldIn order "-").typed_iff]
  unfold getClassIn
  rw [<- fits, (same.findFieldIn order "Class").textOf_eq]
  by_cases fit : decodesStructIn order emptyStruct objects = true
  · rw [if_pos fit, Except.ok.injEq]
    exact ⟨fun named => ⟨fit, named.symm⟩, fun both => both.2.symm⟩
  · rw [if_neg fit]
    exact ⟨fun impossible => (nomatch impossible), fun both => absurd both.1 fit⟩

/-! ### What is read -/

/-- The entries of an object, each read under its own key. -/
def FieldsRead (library : Library) (context : Context) (objects : List (String × Tree))
    (values : List (String × Value)) : Prop :=
  List.Forall₂ (fun object value => object.1 = value.1 ∧
      newCWLType library context object.2 object.1 = .ok value.2)
    objects values

variable {library : Library} {context : Context}

theorem recordField_eq_ok {object : String × Tree} {value : String × Value} :
    recordField (object.1, childOf library context object.2) = .ok value ↔
      object.1 = value.1 ∧ newCWLType library context object.2 object.1 = .ok value.2 := by
  rcases object with ⟨key, tree⟩
  rcases value with ⟨name, result⟩
  simp only [recordField, childOf]
  cases read : newCWLType library context tree key with
  | error failure =>
      cases failure <;> exact ⟨fun impossible => (nomatch impossible), fun both => (nomatch both.2)⟩
  | ok found => simp [wrap, Except.map]

theorem newRecord_eq_ok {name : String} {fields : List (String × Value)} :
    newRecord context name (childrenOfFields library context objects) = .ok (.record fields) ↔
      objects.lookup "$import" = none ∧ Exists fun values =>
          FieldsRead library context objects values ∧
        (if name ≠ "" then setID name values else values) = fields := by
  have read {values : List (String × Value)} :
      (childrenOfFields library context objects).mapM recordField = .ok values ↔
        FieldsRead library context objects values := by
    rw [childrenOfFields_eq, Fallible.mapM_ok_iff, List.forall₂_map_left_iff]
    simp only [recordField_eq_ok]
    rfl
  simp only [newRecord, trees_childrenOfFields]
  cases imported : checkImport context (objects.lookup "$import") with
  | error failure =>
      refine ⟨fun impossible => (nomatch impossible), fun both => ?_⟩
      rw [checkImport_eq_ok.mpr both.1] at imported
      cases imported
  | ok passed =>
      rw [checkImport_eq_ok] at imported
      cases found : (childrenOfFields library context objects).mapM recordField with
      | error failure =>
          refine ⟨fun impossible => (nomatch impossible), ?_⟩
          rintro ⟨_, values, each, _⟩
          rw [read.mpr each] at found
          cases found
      | ok values =>
          simp only [Except.map, Except.ok.injEq, Value.record.injEq]
          constructor
          · intro done
            exact ⟨imported, values, read.mp found, done⟩
          · rintro ⟨_, others, each, done⟩
            rw [read.mpr each] at found
            cases found
            exact done

theorem makeFile_not_record {children : List (String × Child)} {fields : List (String × Value)} :
    makeFile library children ≠ .ok (.record fields) := by
  unfold makeFile
  cases secondaryFilesOf children with
  | error failure => exact fun impossible => (nomatch impossible)
  | ok secondaryFiles =>
      simp only []
      generalize decodesStructIn _ _ (trees children) = fit
      cases completeFile library (decodeFile (library.visit "File" (keys (trees children)))
          (trees children)) <;>
        cases fit <;> simp [Except.map]

theorem newDirectory_not_record {children : List (String × Child)}
    {fields : List (String × Value)} :
    newDirectory library children ≠ .ok (.record fields) := by
  unfold newDirectory
  cases listingOf children with
  | error failure => exact fun impossible => (nomatch impossible)
  | ok listing =>
      simp only []
      generalize decodesStructIn _ _ (trees children) = fit
      cases fit <;> simp

/-- Only a class that no other value has leads to a record. -/
theorem newCWLTypeByClass_eq_record {className name : String} {children : List (String × Child)}
    {fields : List (String × Value)} :
    newCWLTypeByClass library context className name children = .ok (.record fields) ↔
      className ∉ ["File", "string", "boolean", "Directory"] ∧ newRecord context name children = .ok
          (.record fields) := by
  unfold newCWLTypeByClass
  by_cases isFile : className = "File"
  · simp [isFile, makeFile_not_record]
  · by_cases isString : className = "string"
    · simp [isString]
    · by_cases isBoolean : className = "boolean"
      · simp [isBoolean]
      · by_cases isDirectory : className = "Directory"
        · simp [isDirectory, newDirectory_not_record]
        · simp [isFile, isString, isBoolean, isDirectory]

/-- A name is assigned to the field `id`, so nothing changes exactly if the name
stood there. -/
theorem setID_eq_iff {name : String} {fields values : List (String × Value)}
    (same : SameFields fields objects) (read : FieldsRead library context objects values) :
    setID name values = fields ↔ fields.lookup "id" = some (.string name) ∧ values = fields := by
  induction same generalizing values with
  | nil =>
      cases read
      exact ⟨fun impossible => (nomatch impossible), fun both => (nomatch both.1)⟩
  | cons here rest inductionHypothesis =>
      rename_i field object laterFields laterObjects
      cases read with
      | cons readHere readRest =>
          rename_i value laterValues
          rcases field with ⟨key, content⟩
          rcases object with ⟨_, tree⟩
          rcases value with ⟨_, result⟩
          rcases here with ⟨rfl, written⟩
          rcases readHere with ⟨rfl, readBack⟩
          by_cases isID : key = "id"
          · subst isID
            simp only [setID, if_true, List.lookup_cons_self, Option.some.injEq, List.cons.injEq,
                Prod.mk.injEq, true_and]
            constructor
            · rintro ⟨rfl, rfl⟩
              rw [toJson] at written
              cases written
              rw [newCWLType] at readBack
              exact ⟨rfl, (Except.ok.inj readBack).symm, rfl⟩
            · rintro ⟨rfl, _, rfl⟩
              exact ⟨rfl, rfl⟩
          · have different : ("id" == key) = false := beq_eq_false_iff_ne.mpr (Ne.symm isID)
            simp only [setID, if_neg isID, List.lookup_cons, different, List.cons.injEq,
                Prod.mk.injEq, true_and,
              inductionHypothesis readRest]
            exact and_left_comm

/-- A record is read back exactly if it is taken for one, keeps its `id`, and
every field is read back. -/
theorem newCWLType_record {name : String} {fields : List (String × Value)}
    (same : SameFields fields objects) :
    newCWLType library context (.strMap objects) name = .ok (.record fields) ↔
      TakenBy library.toVisits fields ∧
        (name = "" ∨ fields.lookup "id" = some (.string name)) ∧
            FieldsRead library context objects fields := by
  have named {values : List (String × Value)} (read : FieldsRead library context objects values) :
      (if name ≠ "" then setID name values else values) = fields ↔
        (name = "" ∨ fields.lookup "id" = some (.string name)) ∧ values = fields := by
    by_cases nameless : name = ""
    · simp [nameless]
    · simp [nameless, setID_eq_iff same read]
  rw [newCWLType]
  cases imported : checkImport context (objects.lookup "$import") with
  | error failure =>
      refine ⟨(fun impossible => by cases impossible), fun both => ?_⟩
      rw [checkImport_eq_ok.mpr ((same.lookup "$import").none_iff.mpr both.1.noImport)] at imported
      cases imported
  | ok passed =>
      rw [checkImport_eq_ok] at imported
      simp only [ofMap, trees_childrenOfFields, same.keys]
      by_cases items : objects.lookup "items" = none
      · rw [items]
        simp only [Option.isSome_none, Bool.false_eq_true, if_false]
        cases class' : getClassIn (library.visit "Empty" (keys fields)) objects with
        | error text =>
            refine ⟨(fun impossible => by cases impossible), fun both => ?_⟩
            rw [same.getClassIn_eq_ok.mpr ⟨⟨both.1.textualID, both.1.textualClass, both.1.noDash⟩,
                rfl⟩] at class'
            cases class'
        | ok className =>
            rcases same.getClassIn_eq_ok.mp class' with ⟨⟨textualID, textualClass, noDash⟩, rfl⟩
            simp only [wrap_eq_ok, newCWLTypeByClass_eq_record, newRecord_eq_ok]
            constructor
            · rintro ⟨otherClass, _, values, read, done⟩
              rcases (named read).mp done with ⟨keeps, rfl⟩
              exact ⟨⟨(same.lookup _).none_iff.mp imported, (same.lookup _).none_iff.mp items, noDash, textualID,
                textualClass, otherClass⟩, keeps, read⟩
            · rintro ⟨taken, keeps, read⟩
              exact ⟨taken.otherClass, imported, fields, read, (named read).mpr ⟨keeps, rfl⟩⟩
      · rw [if_pos (Option.isSome_iff_ne_none.mpr items)]
        refine ⟨(fun impossible => by cases impossible), fun both => absurd ?_ items⟩
        exact (same.lookup "items").none_iff.mpr both.1.noItems

end

/-! ## Reading back what was written -/

section

variable {library : Library} {context : Context}

theorem filesRead_iff {elements : List Tree} {values : List Value} : FilesRead library context elements values ↔
    List.Forall₂ (fun tree value => newCWLType library context tree "" = .ok value) elements values ∧
      forall value, value ∈ values -> isFileOrDirectory value = true := by
  unfold FilesRead
  constructor
  · intro read
    refine ⟨read.imp fun _ _ both => both.1, ?_⟩
    induction read with
    | nil => exact fun _ impossible => absurd impossible List.not_mem_nil
    | cons here _ inductionHypothesis => exact List.forall_mem_cons.mpr ⟨here.2, inductionHypothesis⟩
  · rintro ⟨read, suit⟩
    induction read with
    | nil => exact List.Forall₂.nil
    | cons here _ inductionHypothesis =>
        rw [List.forall_mem_cons] at suit
        exact List.Forall₂.cons ⟨here, suit.1⟩ (inductionHypothesis suit.2)

theorem newCWLType_array {name : String} {elements : List Tree} {items : List Value} :
    newCWLType library context (.list elements) name = .ok (.array items) ↔
      List.Forall₂ (fun tree value => newCWLType library context tree "" = .ok value)
          elements items := by
  have read {values : List Value} : newArray (newElements library context elements) = .ok values ↔
      List.Forall₂ (fun tree value => newCWLType library context tree "" = .ok value)
          elements values := by
    rw [newArray, newElements_eq, Fallible.mapM_ok_iff, List.forall₂_map_left_iff]
    simp only [wrap_eq_ok]
  rw [newCWLType, <- read]
  cases newArray (newElements library context elements) with
  | error failure => cases failure <;> simp [wrap, Except.map]
  | ok values => simp [wrap, Except.map]

mutual

/-- The induction follows the value; the name under which it stands is used only
for a record. -/
theorem newCWLType_toJson (value : Value) (name : String) (tree : Tree)
    (written : toJson value = some tree) :
    newCWLType library context tree name = .ok value ↔ SurvivesIn library value name := by
  cases value with
  | null =>
      rw [toJson] at written
      cases written
      simp [newCWLType, SurvivesIn, SurvivesAs]
  | boolean flag =>
      rw [toJson] at written
      cases written
      simp [newCWLType, SurvivesIn, SurvivesAs]
  | string text =>
      rw [toJson] at written
      cases written
      simp [newCWLType, SurvivesIn, SurvivesAs]
  | int number =>
      rw [toJson] at written
      cases written
  | long number =>
      rw [toJson] at written
      cases written
  | float number =>
      rw [toJson] at written
      cases written
  | double number =>
      cases number with
      | infinite negative =>
          rw [toJson] at written
          cases written
      | finite number within =>
          rw [toJson] at written
          cases written
          simp [newCWLType, SurvivesIn, SurvivesAs]
  | file file secondaryFiles =>
      rw [toJson, Option.map_eq_some_iff] at written
      rcases written with ⟨elements, listed, rfl⟩
      rw [newCWLType_file, filesRead_iff, forall₂_listToJson secondaryFiles elements listed,
          completeFile_eq_self, SurvivesIn, SurvivesAs,
        and_comm]
  | directory directory listing =>
      rw [toJson, Option.map_eq_some_iff] at written
      rcases written with ⟨elements, listed, rfl⟩
      rw [newCWLType_directory, filesRead_iff, forall₂_listToJson listing elements listed,
          SurvivesIn, SurvivesAs]
  | array items =>
      rw [toJson, Option.map_eq_some_iff] at written
      rcases written with ⟨elements, listed, rfl⟩
      rw [newCWLType_array, forall₂_listToJson items elements listed, SurvivesIn, SurvivesAs]
  | record fields =>
      rw [toJson, Option.map_eq_some_iff] at written
      rcases written with ⟨objects, listed, rfl⟩
      rw [newCWLType_record (sameFields_of_fieldsToJson listed),
          fieldsRead_fieldsToJson fields objects listed, SurvivesIn,
        SurvivesAs]

theorem forall₂_listToJson (values : List Value) (elements : List Tree)
    (written : listToJson values = some elements) :
    List.Forall₂ (fun tree value => newCWLType library context tree "" = .ok value)
        elements values ↔
      AllSurviveAs (FileKept library) (TakenBy library.toVisits) values := by
  cases values with
  | nil =>
      rw [listToJson] at written
      cases written
      rw [AllSurviveAs]
      exact ⟨fun _ => trivial, fun _ => List.Forall₂.nil⟩
  | cons value rest =>
      rcases listToJson_cons written with ⟨tree, others, first, later, rfl⟩
      rw [List.forall₂_cons, newCWLType_toJson value "" tree first,
          forall₂_listToJson rest others later, AllSurviveAs,
        SurvivesIn]

theorem fieldsRead_fieldsToJson (fields : List (String × Value)) (objects : List (String × Tree))
    (written : fieldsToJson fields = some objects) :
    FieldsRead library context objects fields ↔
      FieldsSurviveAs (FileKept library) (TakenBy library.toVisits) fields := by
  cases fields with
  | nil =>
      rw [fieldsToJson] at written
      cases written
      rw [FieldsSurviveAs]
      exact ⟨fun _ => trivial, fun _ => List.Forall₂.nil⟩
  | cons field rest =>
      rcases field with ⟨key, value⟩
      rcases fieldsToJson_cons written with ⟨tree, others, first, later, rfl⟩
      rw [FieldsRead, List.forall₂_cons, newCWLType_toJson value key tree first,
          FieldsSurviveAs, SurvivesIn,
        <- fieldsRead_fieldsToJson rest others later]
      simp only [true_and]
      rfl

end

end

/-! ## Documents -/

mutual

/-- The values a document may be built from: null, booleans, strings, finite doubles, files,
directories, arrays and records. JSON has one kind of number, which is read back as a double, and
no form for one that is not finite. -/
def Plain : Value -> Prop
  | .int _ => False
  | .long _ => False
  | .float _ => False
  | .double (.infinite _) => False
  | .file _ secondaryFiles => AllPlain secondaryFiles
  | .directory _ listing => AllPlain listing
  | .array items => AllPlain items
  | .record fields => FieldsPlain fields
  | _ => True

def AllPlain : List Value -> Prop
  | [] => True
  | value :: rest => Plain value ∧ AllPlain rest

def FieldsPlain : List (String × Value) -> Prop
  | [] => True
  | (_, value) :: rest => Plain value ∧ FieldsPlain rest

end

mutual

theorem toJson_of_plain (value : Value) (plain : Plain value) :
    Exists fun tree => toJson value = some tree := by
  cases value with
  | null => exact ⟨.null, by rw [toJson]⟩
  | boolean flag => exact ⟨.bool flag, by rw [toJson]⟩
  | string text => exact ⟨.text text, by rw [toJson]⟩
  | int number => exact absurd plain (by simp [Plain])
  | long number => exact absurd plain (by simp [Plain])
  | float number => exact absurd plain (by simp [Plain])
  | double number =>
      cases number with
      | infinite negative => exact absurd plain (by simp [Plain])
      | finite number within => exact ⟨.float64 (some (.finite number within)), by rw [toJson]⟩
  | file file secondaryFiles =>
      rw [Plain] at plain
      rcases listToJson_of_plain secondaryFiles plain with ⟨elements, written⟩
      exact ⟨_, by rw [toJson, written, Option.map_some]⟩
  | directory directory listing =>
      rw [Plain] at plain
      rcases listToJson_of_plain listing plain with ⟨elements, written⟩
      exact ⟨_, by rw [toJson, written, Option.map_some]⟩
  | array items =>
      rw [Plain] at plain
      rcases listToJson_of_plain items plain with ⟨elements, written⟩
      exact ⟨_, by rw [toJson, written, Option.map_some]⟩
  | record fields =>
      rw [Plain] at plain
      rcases fieldsToJson_of_plain fields plain with ⟨objects, written⟩
      exact ⟨_, by rw [toJson, written, Option.map_some]⟩

theorem listToJson_of_plain (values : List Value) (plain : AllPlain values) :
    Exists fun elements => listToJson values = some elements := by
  cases values with
  | nil => exact ⟨[], by rw [listToJson]⟩
  | cons value rest =>
      rw [AllPlain] at plain
      rcases toJson_of_plain value plain.1 with ⟨tree, first⟩
      rcases listToJson_of_plain rest plain.2 with ⟨others, later⟩
      exact ⟨tree :: others, by rw [listToJson, first, later]⟩

theorem fieldsToJson_of_plain (fields : List (String × Value)) (plain : FieldsPlain fields) :
    Exists fun objects => fieldsToJson fields = some objects := by
  cases fields with
  | nil => exact ⟨[], by rw [fieldsToJson]⟩
  | cons field rest =>
      rcases field with ⟨key, value⟩
      rw [FieldsPlain] at plain
      rcases toJson_of_plain value plain.1 with ⟨tree, first⟩
      rcases fieldsToJson_of_plain rest plain.2 with ⟨others, later⟩
      exact ⟨(key, tree) :: others, by rw [fieldsToJson, first, later]⟩

end

section

variable {library : Library} {context : Context}

/-- The import check that comes before a value is repeated by `NewCWLType`, which
fails where it does. -/
theorem makeStringMap_toJson {value : Value} {tree : Tree} (written : toJson value = some tree) :
    makeStringMap context tree = .ok tree ∨
      (Exists fun failure => makeStringMap context tree = .error failure) ∧
        forall name, newCWLType library context tree name ≠ .ok value := by
  cases tree with
  | anyMap entries =>
      rcases toJson_plain written with ⟨_, impossible⟩ | ⟨_, _, impossible⟩ | _
      · cases impossible
      · cases impossible
      · cases value with
        | double number => cases number <;> simp [toJson] at written
        | _ => simp [toJson] at written
  | strMap fields =>
      cases imported : checkImport context (fields.lookup "$import") with
      | ok passed => exact Or.inl (by rw [makeStringMap, imported]; rfl)
      | error failure =>
          refine Or.inr ⟨⟨failure, by rw [makeStringMap, imported]; rfl⟩, fun name read => ?_⟩
          rw [newCWLType, imported] at read
          cases read
  | _ => exact Or.inl rfl

theorem newNamed_namedToJson {entry : String × Value} {named : Tree}
    (written : namedToJson entry = some named) :
    newNamed library context named = .ok entry ↔ SurvivesIn library entry.2 entry.1 := by
  rcases entry with ⟨name, value⟩
  rw [namedToJson, Option.map_eq_some_iff] at written
  rcases written with ⟨tree, written, rfl⟩
  rw [<- @newCWLType_toJson library context value name tree written]
  have distinct : ([("id", textEntry name), ("value", some tree)].map fun entry =>
      folded entry.1).Nodup :=
    (by decide : (["id", "value"].map folded).Nodup)
  have noImport : (present [("id", textEntry name), ("value", some tree)]).lookup "$import" =
      none :=
    lookup_present_none (by simp)
  have valueFound : (present [("id", textEntry name), ("value", some tree)]).lookup
      "value" = some tree :=
    lookup_present distinct (by simp)
  have nameFound : (present [("id", textEntry name), ("value", some tree)]).lookup "id" =
      textEntry name :=
    lookup_present distinct (by simp)
  have passed : checkImport context none = .ok () := rfl
  have named : makeStringMap context
      (.strMap (present [("id", textEntry name), ("value", some tree)])) =
      .ok (.strMap (present [("id", textEntry name), ("value", some tree)])) := by
    rw [makeStringMap, noImport, passed]
    rfl
  simp only [newNamed, named, newNamedCWLType, valueFound, nameFound]
  rcases makeStringMap_toJson written with passed | ⟨⟨failure, refused⟩, never⟩
  · rw [passed]
    by_cases nameless : name = ""
    · subst nameless
      cases read : newCWLType library context tree "" with
      | error failure => cases failure <;> simp [textEntry, wrap, read, Except.map]
      | ok found => simp [textEntry, wrap, read, Except.map]
    · cases read : newCWLType library context tree name with
      | error failure => cases failure <;> simp [textEntry, nameless, wrap, read, Except.map]
      | ok found => simp [textEntry, nameless, wrap, read, Except.map]
  · rw [refused]
    exact ⟨(fun impossible => by cases impossible), fun read => absurd read (never name)⟩

theorem forall₂_newNamed {document : Document} {elements : List Tree}
    (written : document.mapM namedToJson = some elements) :
    List.Forall₂ (fun element entry => newNamed library context element = .ok entry)
        elements document ↔
      forall entry, entry ∈ document -> SurvivesIn library entry.2 entry.1 := by
  induction document generalizing elements with
  | nil =>
      cases written
      exact ⟨fun _ _ impossible => (nomatch impossible), fun _ => List.Forall₂.nil⟩
  | cons entry rest inductionHypothesis =>
      rw [List.mapM_cons] at written
      cases first : namedToJson entry with
      | none => simp [first] at written
      | some named =>
          cases later : rest.mapM namedToJson with
          | none => simp [first, later] at written
          | some others =>
              simp only [first, later, Option.bind_eq_bind, Option.bind_some, Option.pure_def,
                  Option.some.injEq] at written
              subst written
              rw [List.forall₂_cons, newNamed_namedToJson first, inductionHypothesis later,
                  List.forall_mem_cons]

theorem documentToJson_of_plain {document : Document}
    (plain : forall entry, entry ∈ document -> Plain entry.2) :
    Exists fun elements => document.mapM namedToJson = some elements := by
  induction document with
  | nil => exact ⟨[], rfl⟩
  | cons entry rest inductionHypothesis =>
      rw [List.forall_mem_cons] at plain
      rcases toJson_of_plain entry.2 plain.1 with ⟨tree, first⟩
      rcases inductionHypothesis plain.2 with ⟨others, later⟩
      exact ⟨_, by rw [List.mapM_cons, namedToJson, first, later]; rfl⟩

end

/-! ### Every run -/

/-- A key that is another spelling of the name comes first in some order. -/
theorem exists_visits (struct key : String) (listed : List String) (member : key ∈ listed) :
    Exists fun visits : Visits => (visits.visit struct listed).head? = some key :=
  ⟨{ visit := fun _ listed => if key ∈ listed then key :: listed.erase key else listed
     visited := fun _ listed => by
      by_cases there : key ∈ listed
      · rw [if_pos there]
        exact (List.perm_cons_erase there).symm
      · rw [if_neg there] }, by
      dsimp only
      rw [if_pos member]
      rfl⟩

/-- What may be found is found in some run, and nothing else. -/
theorem mayFind_iff {struct name : String} {fields : List (String × Value)} {value : Value} :
    MayFind name fields value ↔
      Exists fun visits : Visits => findFieldIn (visits.visit struct (keys fields)) name fields =
          some value := by
  unfold findFieldIn
  constructor
  · rintro (own | ⟨missing, key, member, alike, found⟩)
    · exact ⟨{}, by rw [own, Option.some_or]⟩
    · rcases exists_visits struct key (keys fields) member with ⟨visits, first⟩
      refine ⟨visits, ?_⟩
      rw [missing, Option.none_or]
      cases order : visits.visit struct (keys fields) with
      | nil =>
          rw [order] at first
          cases first
      | cons other rest =>
          rw [order] at first
          cases first
          rw [@List.find?_cons_of_pos _ (fun key => equalFold key name) _ _ alike,
              Option.bind_some, found]
  · rintro ⟨visits, found⟩
    cases own : fields.lookup name with
    | some given =>
        rw [own, Option.some_or] at found
        exact Or.inl (own.trans found)
    | none =>
        rw [own, Option.none_or] at found
        rcases Option.bind_eq_some_iff.mp found with ⟨key, search, found⟩
        have member := (visits.visited struct (keys fields)).mem_iff.mp
            (List.mem_of_find?_eq_some search)
        exact Or.inr ⟨own, key, member, by simpa using List.find?_some search, found⟩

theorem forall_takenBy_iff {fields : List (String × Value)} :
    (forall visits : Visits, TakenBy visits fields) ↔ TakenForRecord fields := by
  constructor
  · intro taken
    have found {name : String} {value : Value} (may : MayFind name fields value) :
        Exists fun visits : Visits => TakenBy visits fields ∧
          findFieldIn (visits.visit "Empty" (keys fields)) name fields = some value := by
      rcases (@mayFind_iff "Empty" name fields value).mp may with ⟨visits, found⟩
      exact ⟨visits, taken visits, found⟩
    refine ⟨(taken {}).noImport, (taken {}).noItems, ?_, ?_, ?_, ?_⟩
    · intro value may
      rcases found may with ⟨_, here, same⟩
      exact here.noDash value same
    · intro value may
      rcases found may with ⟨_, here, same⟩
      exact same ▸ here.textualID
    · intro value may
      rcases found may with ⟨_, here, same⟩
      exact same ▸ here.textualClass
    · intro value may
      rcases found may with ⟨_, here, same⟩
      exact same ▸ here.otherClass
  · intro taken visits
    have may {name : String} {value : Value}
        (found : findFieldIn (visits.visit "Empty" (keys fields)) name fields = some value) :
            MayFind name fields value :=
      mayFind_iff.mpr ⟨visits, found⟩
    refine ⟨taken.noImport, taken.noItems, fun value found => taken.noDash value (may found), ?_,
        ?_, ?_⟩
    · cases found : findFieldIn (visits.visit "Empty" (keys fields)) "ID" fields with
      | none => trivial
      | some value => exact taken.textualID value (may found)
    · cases found : findFieldIn (visits.visit "Empty" (keys fields)) "Class" fields with
      | none => trivial
      | some value => exact taken.textualClass value (may found)
    · cases found : findFieldIn (visits.visit "Empty" (keys fields)) "Class" fields with
      | none =>
          change "" ∉ ["File", "string", "boolean", "Directory"]
          decide
      | some value => exact taken.otherClass value (may found)

theorem fileKept_visiting (library : Library) (visits : Visits) :
    FileKept (library.visiting visits) = FileKept library := by
  funext file
  exact propext ((@fileKept_iff (library.visiting visits) file).trans
      (@fileKept_iff library file).symm)

/-- What survives every run, whatever the orders are. -/
theorem forall_survivesIn_iff (library : Library) (value : Value) (name : String) :
    (forall visits, SurvivesIn (library.visiting visits) value name) ↔
    Survives library value name := by
  have same (visits : Visits) : SurvivesIn (library.visiting visits) value name ↔
      SurvivesAs (FileKept library) (TakenBy visits) value name := by
    unfold SurvivesIn
    rw [fileKept_visiting]
    rfl
  have records : (fun fields => forall visits : Visits, TakenBy visits fields) =
      TakenForRecord := by
    funext fields
    exact propext forall_takenBy_iff
  rw [forall_congr' same, forall_survivesAs, records]
  rfl

/-- A document is written, and read back as it was in every run exactly if each of its values
survives under its name.  The decoder knows the kind of an object by its keys and takes names down
into records, so that survival is a matter of every value and its name; and since keys are found
without regard to case in any order, it is asked of every run. -/
theorem document_round_trip (library : Library) (context : Context) (document : Document)
    (plain : forall entry, entry ∈ document -> Plain entry.2) :
    Exists fun wire => documentToJson document = some wire ∧
      ((forall visits, newJobDocumentFromNamedTypes (library.visiting visits) context wire =
          .ok document) ↔
        forall entry, entry ∈ document -> Survives library entry.2 entry.1) := by
  rcases documentToJson_of_plain plain with ⟨elements, written⟩
  refine ⟨.list elements, by rw [documentToJson, written, Option.map_some], ?_⟩
  have once (visits : Visits) :
      newJobDocumentFromNamedTypes (library.visiting visits) context (.list elements) =
          .ok document ↔
        forall entry, entry ∈ document -> SurvivesIn (library.visiting visits) entry.2 entry.1 := by
    simp only [newJobDocumentFromNamedTypes, makeStringMap]
    rw [Fallible.mapM_ok_iff]
    simp only [wrap_eq_ok]
    exact forall₂_newNamed written
  rw [forall_congr' once]
  constructor
  · intro survives entry member
    exact (forall_survivesIn_iff library entry.2 entry.1).mp fun visits =>
        survives visits entry member
  · intro survives visits entry member
    exact (forall_survivesIn_iff library entry.2 entry.1).mpr (survives entry member) visits

private def anyLibrary : Library where
  sha1 := fun _ => "da39a3ee5e6b4b0d3255bfef95601890afd80709"
  parseURL := fun text => some ⟨"", text⟩

/-- A list of a file and a text. -/
private def sampleList : Value :=
  .array [.file { path := "/tmp/a.txt", basename := "a.txt", nameroot := "a", nameext := ".txt" }
      [], .string "b"]

theorem document_round_trip_sample :
    Exists fun wire => documentToJson [("x", sampleList)] = some wire ∧ forall visits,
      newJobDocumentFromNamedTypes (anyLibrary.visiting visits) .nil wire = .ok
          [("x", sampleList)] := by
  rcases document_round_trip anyLibrary .nil [("x", sampleList)]
    (by simp [sampleList, Plain, AllPlain]) with ⟨wire, written, back⟩
  refine ⟨wire, written, back.mpr ?_⟩
  simp only [List.mem_singleton, forall_eq, sampleList, Survives, SurvivesAs, AllSurviveAs,
      and_true, List.not_mem_nil,
    false_implies, implies_true]
  exact ⟨fun _ => ⟨by decide, by decide, by decide⟩, fun given => absurd rfl given, fun given =>
      absurd rfl given⟩

/-- A record that stands under the name `x` comes back with a further field. -/
theorem record_gains_id :
    documentToJson [("x", .record [("a", .string "b")])] =
        some (.list [.strMap [("id", .text "x"), ("value", .strMap [("a", .text "b")])]]) ∧
      newJobDocumentFromNamedTypes anyLibrary .nil
          (.list [.strMap [("id", .text "x"), ("value", .strMap [("a", .text "b")])]]) =
        .ok [("x", .record [("a", .string "b"), ("id", .string "x")])] ∧
      [("x", Value.record [("a", .string "b"), ("id", .string "x")])] ≠
          [("x", .record [("a", .string "b")])] :=
  ⟨rfl, rfl, by simp⟩

end Wire
end Cwl
end Awe
