import Awe.Cwl.Natives

namespace Awe
namespace Cwl
namespace Imports

open Lib Lib.Path Natives

/-!
# Imports and includes

Before a document is parsed, `translate` should put the contents of files into
it: a map with the key `$import` stands for the document in a file, and one with
the key `$include` for the text of a file.  `translateRecursive` reports such a
map to the container that holds it, and the container replaces it.

What the reports stand for depends on the container: a list replaces both kinds,
a map only imports, and it panics at an include.  At the root nobody listens.  A
document that is put in is not translated itself, so the imports in it stay.

Resolution is stated by its purpose, a tree at a time: every directive becomes
the contents of its file, and a file is resolved before it is put in.  If the
imports of files have no cycle, some number of rounds is enough.
-/

/-- The trees in a container. -/
def children : Tree -> List Tree
  | .list elements => elements
  | .anyMap entries => entries.map Prod.snd
  | .strMap fields => fields.map Prod.snd
  | _ => []

/-- The container with other trees in it. -/
def rebuild : Tree -> List Tree -> Tree
  | .list _, trees => .list trees
  | .anyMap entries, trees => .anyMap (entries.zipWith (fun entry tree => (entry.1, tree)) trees)
  | .strMap fields, trees => .strMap (fields.zipWith (fun field tree => (field.1, tree)) trees)
  | tree, _ => tree

def isMap : Tree -> Bool
  | .anyMap _ => true
  | .strMap _ => true
  | _ => false

theorem zipWith_keys {K : Type} (entries : List (K × Tree)) :
    entries.zipWith (fun entry tree => (entry.1, tree)) (entries.map Prod.snd) = entries := by
  induction entries with
  | nil => rfl
  | cons entry rest inductionHypothesis => exact congrArg (entry :: ·) inductionHypothesis

theorem map_snd_zipWith {K : Type} {entries : List (K × Tree)} {trees : List Tree}
    (long : trees.length = entries.length) :
    (entries.zipWith (fun entry tree => (entry.1, tree)) trees).map Prod.snd = trees := by
  induction entries generalizing trees with
  | nil =>
      rw [List.length_eq_zero_iff.mp long]
      rfl
  | cons entry rest inductionHypothesis =>
      cases trees with
      | nil => cases long
      | cons tree others => exact congrArg (tree :: ·) (inductionHypothesis (Nat.succ.inj long))

theorem rebuild_children (tree : Tree) : rebuild tree (children tree) = tree := by
  cases tree with
  | anyMap entries => exact congrArg Tree.anyMap (zipWith_keys entries)
  | strMap fields => exact congrArg Tree.strMap (zipWith_keys fields)
  | _ => rfl

theorem children_rebuild {tree : Tree} {trees : List Tree}
    (long : trees.length = (children tree).length) :
    children (rebuild tree trees) = trees := by
  cases tree with
  | list elements => rfl
  | anyMap entries => exact map_snd_zipWith (long.trans (List.length_map _))
  | strMap fields => exact map_snd_zipWith (long.trans (List.length_map _))
  | _ => exact (List.length_eq_zero_iff.mp long).symm

mutual

/-- What holds of a tree if it holds of the trees in it holds of all. -/
theorem childInduction {P : Tree -> Prop}
    (step : forall tree, (forall child, child ∈ children tree -> P child) -> P tree) :
    forall tree, P tree
  | .null => step _ fun _ absent => nomatch absent
  | .bool _ => step _ fun _ absent => nomatch absent
  | .int _ => step _ fun _ absent => nomatch absent
  | .int64 _ => step _ fun _ absent => nomatch absent
  | .uint64 _ => step _ fun _ absent => nomatch absent
  | .float32 _ => step _ fun _ absent => nomatch absent
  | .float64 _ => step _ fun _ absent => nomatch absent
  | .text _ => step _ fun _ absent => nomatch absent
  | .list elements => step _ (childInductionList step elements)
  | .anyMap entries => step _ (childInductionEntries step entries)
  | .strMap fields => step _ (childInductionFields step fields)

theorem childInductionList {P : Tree -> Prop}
    (step : forall tree, (forall child, child ∈ children tree -> P child) -> P tree) :
    forall (elements : List Tree) (child : Tree), child ∈ elements -> P child
  | [], _, absent => nomatch absent
  | tree :: rest, child, member =>
      (List.mem_cons.mp member).elim (fun same => same ▸ childInduction step tree)
          (childInductionList step rest child)

theorem childInductionEntries {P : Tree -> Prop}
    (step : forall tree, (forall child, child ∈ children tree -> P child) -> P tree) :
    forall (entries : List (Tree × Tree)) (child : Tree), child ∈ entries.map Prod.snd -> P child
  | [], _, absent => nomatch absent
  | (_, tree) :: rest, child, member =>
      (List.mem_cons.mp member).elim (fun same => same ▸ childInduction step tree)
          (childInductionEntries step rest child)

theorem childInductionFields {P : Tree -> Prop}
    (step : forall tree, (forall child, child ∈ children tree -> P child) -> P tree) :
    forall (fields : List (String × Tree)) (child : Tree), child ∈ fields.map Prod.snd -> P child
  | [], _, absent => nomatch absent
  | (_, tree) :: rest, child, member =>
      (List.mem_cons.mp member).elim (fun same => same ▸ childInduction step tree)
          (childInductionFields step rest child)

end

/-- A map that stands for the contents of a file. The contents of a document are parsed, while
those of a text are taken as they are. -/
inductive Directive where
  | document (name : String)
  | content (name : String)

/-- `MapIndex`, with a text as the key. -/
def findKey (key : String) : List (Tree × Tree) -> Option Tree
  | [] => none
  | (.text other, value) :: rest => if other = key then some value else findKey key rest
  | _ :: rest => findKey key rest

/-- `String` of a reflected value: the text, or the name of any other type. -/
def valueString : Tree -> String
  | .text text => text
  | .null => "<invalid Value>"
  | .bool _ => "<bool Value>"
  | .int _ => "<int Value>"
  | .int64 _ => "<int64 Value>"
  | .uint64 _ => "<uint64 Value>"
  | .float32 _ => "<float32 Value>"
  | .float64 _ => "<float64 Value>"
  | .list _ => "<[]interface {} Value>"
  | .anyMap _ => "<map[interface {}]interface {} Value>"
  | .strMap _ => "<map[string]interface {} Value>"

/-- The values under the two keys; an import goes first. -/
def directiveOf (imported included : Option Tree) : Option Directive :=
  match imported with
  | some value => some (.document (valueString value))
  | none => included.map fun value => .content (valueString value)

/-- What a tree stands for, if it is a map with one of the keys. -/
def directive : Tree -> Option Directive
  | .anyMap entries => directiveOf (findKey "$import" entries) (findKey "$include" entries)
  | .strMap fields => directiveOf (fields.lookup "$import") (fields.lookup "$include")
  | _ => none

/-- The map of the same type without entries. -/
def hollow (tree : Tree) : Tree :=
  rebuild tree []

/-- The decoders for JSON and YAML, on the text of a file. -/
structure Decoders where
  json : String -> Except String Tree
  yaml : String -> Except String Tree

/-- The files, and the path of the document. Reading a file is the only thing that is asked of the
disk, and it gives the same answer each time. -/
structure Place where
  decoders : Decoders
  files : String -> Option String
  workingPath : String

section

variable (place : Place)

/-- `Unmarshal`, which looks at the first letter. -/
def unmarshal (text : String) : Except Failure Tree :=
  match text.toList with
  | [] => .error (.panic "runtime error: index out of range [0] with length 0")
  | first :: _ => (if first = '{' then place.decoders.json text else
      place.decoders.yaml text).mapError Failure.error

/-- `ReadYamlFile`. -/
def readYamlFile (filePath : String) : Except Failure Tree :=
  match place.files filePath with
  | none => .error (.error ("error in reading file " ++ filePath ++ ": "))
  | some text => wrap "(ParseCWLSimpleDocument) Unmarshal returns: " (unmarshal place text)

/-- The path of an import: what follows a hash is left away. -/
def importPath (name : String) : String :=
  String.ofList ((joinPath place.workingPath name).toList.takeWhile (· ≠ '#'))

/-- An import, as both containers put it in. -/
def importFile (name : String) : Except Failure Tree :=
  wrap "(translateRecursive) ReadYamlFile returned: " (readYamlFile place (importPath place name))

def includePath (name : String) : String :=
  joinPath place.workingPath name

/-- An include, as a list puts it in. -/
def includeFile (name : String) : Except Failure Tree :=
  match place.files (includePath place name) with
  | none => .error (.error
      ("(translateRecursive) could not read file " ++ includePath place name ++ ": "))
  | some text => .ok (.text text)

/-- What `translateRecursive` returns, with the copy. -/
structure Translated where
  includeString : String := ""
  importString : String := ""
  copy : Tree

/-- A map with a directive is copied as an empty one. -/
def report (tree : Tree) : Directive -> Translated
  | .document name => { importString := name, copy := hollow tree }
  | .content name => { includeString := name, copy := hollow tree }

/-- What a list does with an element. -/
def inList (element : Translated) : Except Failure Tree := do
  let copy <- if element.includeString ≠ "" then includeFile place element.includeString else
      pure element.copy
  if element.importString ≠ "" then importFile place element.importString else pure copy

/-- What a map does with a value. -/
def inMap (value : Translated) : Except Failure Tree :=
  if value.includeString ≠ "" then .error (.panic "E")
  else if value.importString ≠ "" then importFile place value.importString
  else pure value.copy

mutual

/-- `translateRecursive`. -/
def translateRecursive : Tree -> Except Failure Translated
  | .list elements => do
      let copies <- (translateElements elements).mapM (· >>= inList place)
      pure { copy := rebuild (.list elements) copies }
  | .anyMap entries =>
      match directiveOf (findKey "$import" entries) (findKey "$include" entries) with
      | some found => pure (report (.anyMap entries) found)
      | none => do
          let copies <- (translateEntries entries).mapM (· >>= inMap place)
          pure { copy := rebuild (.anyMap entries) copies }
  | .strMap fields =>
      match directiveOf (fields.lookup "$import") (fields.lookup "$include") with
      | some found => pure (report (.strMap fields) found)
      | none => do
          let copies <- (translateFields fields).mapM (· >>= inMap place)
          pure { copy := rebuild (.strMap fields) copies }
  | tree => pure { copy := tree }

/-- `translateRecursive` on the elements of a list. -/
def translateElements : List Tree -> List (Except Failure Translated)
  | [] => []
  | tree :: rest => translateRecursive tree :: translateElements rest

def translateEntries : List (Tree × Tree) -> List (Except Failure Translated)
  | [] => []
  | (_, tree) :: rest => translateRecursive tree :: translateEntries rest

def translateFields : List (String × Tree) -> List (Except Failure Translated)
  | [] => []
  | (_, tree) :: rest => translateRecursive tree :: translateFields rest

end

/-- `translate`. -/
def translate : Tree -> Except Failure Tree
  | .null => .error (.panic "reflect: call of reflect.Value.Type on zero Value")
  | tree => (translateRecursive place tree).map Translated.copy

end

section

variable (contents : Directive -> Option Tree)

mutual

/-- The tree in which every directive is replaced by its contents. -/
def resolveWith : Tree -> Option Tree
  | .list elements => do
      let trees <- (resolveElements elements).mapM id
      pure (rebuild (.list elements) trees)
  | .anyMap entries =>
      match directiveOf (findKey "$import" entries) (findKey "$include" entries) with
      | some found => contents found
      | none => do
          let trees <- (resolveEntries entries).mapM id
          pure (rebuild (.anyMap entries) trees)
  | .strMap fields =>
      match directiveOf (fields.lookup "$import") (fields.lookup "$include") with
      | some found => contents found
      | none => do
          let trees <- (resolveFields fields).mapM id
          pure (rebuild (.strMap fields) trees)
  | tree => some tree

def resolveElements : List Tree -> List (Option Tree)
  | [] => []
  | tree :: rest => resolveWith tree :: resolveElements rest

def resolveEntries : List (Tree × Tree) -> List (Option Tree)
  | [] => []
  | (_, tree) :: rest => resolveWith tree :: resolveEntries rest

def resolveFields : List (String × Tree) -> List (Option Tree)
  | [] => []
  | (_, tree) :: rest => resolveWith tree :: resolveFields rest

end

end

section

variable (place : Place)

/-- The document in a file. -/
def documentOf (name : String) : Option Tree := do
  let text <- place.files (importPath place name)
  (if text.toList.head? = some '{' then place.decoders.json text else
      place.decoders.yaml text).toOption

/-- What a directive stands for, if documents are resolved in this way. -/
def contentsWith (resolve : Tree -> Option Tree) : Directive -> Option Tree
  | .document name => (documentOf place name).bind resolve
  | .content name => (place.files (includePath place name)).map Tree.text

/-- The tree with files put in, in so many rounds. -/
def resolve : Nat -> Tree -> Option Tree
  | 0 => resolveWith (contentsWith place fun _ => none)
  | depth + 1 => resolveWith (contentsWith place (resolve depth))

/-- The tree in which every import and every include is replaced, also in files that are imported.
It is defined for the whole tree at once, with imported documents resolved in their turn, and does
not know of roots and containers. -/
def Resolves (tree out : Tree) : Prop :=
  Exists fun depth => resolve place depth tree = some out

end

/-! ## One step into a tree -/

section

variable {place : Place} {contents : Directive -> Option Tree}

/-- What a container does with a tree in it. -/
def putIn (place : Place) (map : Bool) : Translated -> Except Failure Tree :=
  if map then inMap place else inList place

theorem translateElements_eq (elements : List Tree) :
    translateElements place elements = elements.map (translateRecursive place) := by
  induction elements with
  | nil => rw [translateElements, List.map_nil]
  | cons tree rest inductionHypothesis => rw [translateElements, inductionHypothesis, List.map_cons]

theorem translateEntries_eq (entries : List (Tree × Tree)) :
    translateEntries place entries = (entries.map Prod.snd).map (translateRecursive place) := by
  induction entries with
  | nil => rw [translateEntries, List.map_nil, List.map_nil]
  | cons entry rest inductionHypothesis =>
      rw [translateEntries, inductionHypothesis, List.map_cons, List.map_cons]

theorem translateFields_eq (fields : List (String × Tree)) :
    translateFields place fields = (fields.map Prod.snd).map (translateRecursive place) := by
  induction fields with
  | nil => rw [translateFields, List.map_nil, List.map_nil]
  | cons field rest inductionHypothesis =>
      rw [translateFields, inductionHypothesis, List.map_cons, List.map_cons]

/-- A tree reports its directive, or puts what its children report into a copy. -/
theorem translateRecursive_eq (tree : Tree) :
    translateRecursive place tree =
      match directive tree with
      | some found => .ok (report tree found)
      | none => ((children tree).mapM fun child => translateRecursive place child >>= putIn place
          (isMap tree)).map
          fun copies => { copy := rebuild tree copies } := by
  cases tree with
  | list elements =>
      rw [translateRecursive, translateElements_eq, List.mapM_map]
      rfl
  | anyMap entries =>
      rw [translateRecursive, translateEntries_eq, List.mapM_map, directive]
      cases directiveOf (findKey "$import" entries) (findKey "$include" entries) <;> rfl
  | strMap fields =>
      rw [translateRecursive, translateFields_eq, List.mapM_map, directive]
      cases directiveOf (fields.lookup "$import") (fields.lookup "$include") <;> rfl
  | _ =>
      rw [translateRecursive]
      rfl
      all_goals intro _ impossible; cases impossible

theorem resolveElements_eq (elements : List Tree) :
    resolveElements contents elements = elements.map (resolveWith contents) := by
  induction elements with
  | nil => rw [resolveElements, List.map_nil]
  | cons tree rest inductionHypothesis => rw [resolveElements, inductionHypothesis, List.map_cons]

theorem resolveEntries_eq (entries : List (Tree × Tree)) :
    resolveEntries contents entries = (entries.map Prod.snd).map (resolveWith contents) := by
  induction entries with
  | nil => rw [resolveEntries, List.map_nil, List.map_nil]
  | cons entry rest inductionHypothesis =>
      rw [resolveEntries, inductionHypothesis, List.map_cons, List.map_cons]

theorem resolveFields_eq (fields : List (String × Tree)) :
    resolveFields contents fields = (fields.map Prod.snd).map (resolveWith contents) := by
  induction fields with
  | nil => rw [resolveFields, List.map_nil, List.map_nil]
  | cons field rest inductionHypothesis =>
      rw [resolveFields, inductionHypothesis, List.map_cons, List.map_cons]

theorem resolveWith_eq (tree : Tree) :
    resolveWith contents tree =
      match directive tree with
      | some found => contents found
      | none => ((children tree).mapM (resolveWith contents)).map (rebuild tree) := by
  cases tree with
  | list elements =>
      rw [resolveWith, resolveElements_eq, List.mapM_map, Function.id_comp]
      change _ = (elements.mapM (resolveWith contents)).map (rebuild (.list elements))
      cases elements.mapM (resolveWith contents) <;> rfl
  | anyMap entries =>
      rw [resolveWith, resolveEntries_eq, List.mapM_map, Function.id_comp, directive]
      cases directiveOf (findKey "$import" entries) (findKey "$include" entries) with
      | some found => rfl
      | none =>
          change _ = ((entries.map Prod.snd).mapM (resolveWith contents)).map
              (rebuild (.anyMap entries))
          cases (entries.map Prod.snd).mapM (resolveWith contents) <;> rfl
  | strMap fields =>
      rw [resolveWith, resolveFields_eq, List.mapM_map, Function.id_comp, directive]
      cases directiveOf (fields.lookup "$import") (fields.lookup "$include") with
      | some found => rfl
      | none =>
          change _ = ((fields.map Prod.snd).mapM (resolveWith contents)).map
              (rebuild (.strMap fields))
          cases (fields.map Prod.snd).mapM (resolveWith contents) <;> rfl
  | _ =>
      rw [resolveWith]
      rfl
      all_goals intro _ impossible; cases impossible

theorem translateRecursive_of_directive {tree : Tree} {found : Directive}
    (stands : directive tree = some found) :
    translateRecursive place tree = .ok (report tree found) := by
  rw [translateRecursive_eq, stands]

theorem resolveWith_of_directive {tree : Tree} {found : Directive}
    (stands : directive tree = some found) :
    resolveWith contents tree = contents found := by
  rw [resolveWith_eq, stands]

/-- What a tree without a directive of its own resolves to. -/
theorem resolveWith_some_iff {tree out : Tree} (plain : directive tree = none) :
    resolveWith contents tree = some out ↔
      Exists fun trees => List.Forall₂
          (fun child result => resolveWith contents child = some result) (children tree) trees ∧
        rebuild tree trees = out := by
  rw [resolveWith_eq, plain]
  change ((children tree).mapM (resolveWith contents)).map (rebuild tree) = some out ↔ _
  rw [Option.map_eq_some_iff]
  exact exists_congr fun trees => and_congr_left fun _ => Fallible.mapM_some_iff

/-- What it is translated to: there is nothing to report. -/
theorem translateRecursive_ok_iff {tree : Tree} {result : Translated}
    (plain : directive tree = none) :
    translateRecursive place tree = .ok result ↔
      Exists fun trees => List.Forall₂ (fun child copy =>
          (translateRecursive place child >>= putIn place (isMap tree)) = .ok copy)
              (children tree) trees ∧
        result = { copy := rebuild tree trees } := by
  rw [translateRecursive_eq, plain]
  change Except.map _ ((children tree).mapM _) = .ok result ↔ _
  constructor
  · intro done
    cases copied : (children tree).mapM fun child => translateRecursive place child >>= putIn place
        (isMap tree) with
    | error failure =>
        rw [copied] at done
        cases done
    | ok trees =>
        rw [copied] at done
        cases done
        exact ⟨trees, Fallible.mapM_ok_iff.mp copied, rfl⟩
  · rintro ⟨trees, every, same⟩
    rw [Fallible.mapM_ok_iff.mpr every, same]
    rfl

/-- Without a report the copy itself is put in. -/
theorem putIn_copy (map : Bool) (copy : Tree) : putIn place map { copy } = .ok copy := by
  cases map <;> rfl

end

/-- A directive stands in a container of the tree, which is a map or a list. A directive inside a
directive is no occurrence, since the whole map is replaced before anything in it is read. -/
inductive Occurs : Tree -> Bool -> Directive -> Prop where
  | here {tree child : Tree} {found : Directive} (plain : directive tree = none)
      (member : child ∈ children tree)
      (stands : directive child = some found) : Occurs tree (isMap tree) found
  | inside {tree child : Tree} {map : Bool} {found : Directive} (plain : directive tree = none)
      (member : child ∈ children tree) (occurs : Occurs child map found) : Occurs tree map found

/-- The tree is a directive, or one stands in it. -/
def Names (tree : Tree) (found : Directive) : Prop :=
  directive tree = some found ∨ Exists fun map => Occurs tree map found

/-- There is no directive in the tree. -/
def Plain (tree : Tree) : Prop :=
  forall found, ¬Names tree found

section

variable {place : Place} {contents more : Directive -> Option Tree}

theorem names_child {tree child : Tree} {found : Directive} (plain : directive tree = none)
    (member : child ∈ children tree) (names : Names child found) : Names tree found := by
  rcases names with stands | ⟨map, occurs⟩
  · exact Or.inr ⟨_, Occurs.here plain member stands⟩
  · exact Or.inr ⟨map, Occurs.inside plain member occurs⟩

theorem Plain.directive {tree : Tree} (plain : Plain tree) : directive tree = none := by
  cases stands : Imports.directive tree with
  | none => rfl
  | some found => exact absurd (Or.inl stands) (plain found)

theorem Plain.child {tree child : Tree} (plain : Plain tree) (member : child ∈ children tree) :
    Plain child :=
  fun found names => plain found (names_child plain.directive member names)

theorem plain_of_children {tree : Tree} (plain : directive tree = none)
    (every : forall child, child ∈ children tree -> Plain child) : Plain tree := by
  rintro found (stands | ⟨map, occurs⟩)
  · rw [plain] at stands
    cases stands
  · cases occurs with
    | here _ member stands => exact every _ member found (Or.inl stands)
    | inside _ member occurs => exact every _ member found (Or.inr ⟨map, occurs⟩)

/-- More contents do not change what a tree resolves to. -/
theorem resolveWith_mono {tree out : Tree}
    (known : forall found result, contents found = some result -> more found = some result)
    (resolved : resolveWith contents tree = some out) : resolveWith more tree = some out := by
  induction tree using childInduction generalizing out with
  | step tree inductionHypothesis =>
      cases stands : directive tree with
      | some found =>
          rw [resolveWith_of_directive stands] at resolved ⊢
          exact known found out resolved
      | none =>
          rcases (resolveWith_some_iff stands).mp resolved with ⟨trees, every, same⟩
          refine (resolveWith_some_iff stands).mpr ⟨trees, ?_, same⟩
          rw [List.forall₂_iff_get] at every ⊢
          refine ⟨every.1, fun k small short => ?_⟩
          exact inductionHypothesis _ (List.get_mem _ _) (every.2 k small short)

/-- A tree without directives stays as it is. -/
theorem resolveWith_plain {tree : Tree} (plain : Plain tree) :
    resolveWith contents tree = some tree := by
  induction tree using childInduction with
  | step tree inductionHypothesis =>
      refine (resolveWith_some_iff plain.directive).mpr ⟨children tree, ?_, rebuild_children tree⟩
      exact List.forall₂_same.mpr fun child member => inductionHypothesis child member
          (plain.child member)

theorem translateRecursive_plain {tree : Tree} (plain : Plain tree) :
    translateRecursive place tree = .ok { copy := tree } := by
  induction tree using childInduction with
  | step tree inductionHypothesis =>
      refine (translateRecursive_ok_iff plain.directive).mpr ⟨children tree, ?_, ?_⟩
      · refine List.forall₂_same.mpr fun child member => ?_
        rw [inductionHypothesis child member (plain.child member)]
        exact putIn_copy _ child
      · rw [rebuild_children]

theorem findKey_zipWith (key : String) {entries : List (Tree × Tree)}
    (missing : findKey key entries = none) (trees : List Tree) :
    findKey key (entries.zipWith (fun entry tree => (entry.1, tree)) trees) = none := by
  induction entries generalizing trees with
  | nil => rfl
  | cons entry rest inductionHypothesis =>
      rcases entry with ⟨other, value⟩
      cases trees with
      | nil => rfl
      | cons tree others =>
          rw [List.zipWith_cons_cons]
          cases other with
          | text text =>
              rw [findKey] at missing ⊢
              split_ifs at missing ⊢
              exact inductionHypothesis missing others
          | _ => exact inductionHypothesis missing others

theorem lookup_zipWith (key : String) {fields : List (String × Tree)}
    (missing : fields.lookup key = none) (trees : List Tree) :
    (fields.zipWith (fun field tree => (field.1, tree)) trees).lookup key = none := by
  induction fields generalizing trees with
  | nil => rfl
  | cons field rest inductionHypothesis =>
      cases trees with
      | nil => rfl
      | cons tree others =>
          rw [List.lookup_cons] at missing
          rw [List.zipWith_cons_cons, List.lookup_cons]
          cases same : key == field.1 with
          | true =>
              rw [same] at missing
              cases missing
          | false =>
              rw [same] at missing
              exact inductionHypothesis missing others

theorem directiveOf_none {imported included : Option Tree} :
    directiveOf imported included = none ↔ imported = none ∧ included = none := by
  cases imported with
  | none => cases included with
    | none => exact ⟨fun _ => ⟨rfl, rfl⟩, fun _ => rfl⟩
    | some value => exact ⟨fun impossible => (nomatch impossible), fun both => (nomatch both.2)⟩
  | some value => exact ⟨fun impossible => (nomatch impossible), fun both => (nomatch both.1)⟩

/-- Whether a map is a directive depends on its keys. -/
theorem directive_rebuild {tree : Tree} (plain : directive tree = none) (trees : List Tree) :
    directive (rebuild tree trees) = none := by
  cases tree with
  | anyMap entries =>
      have keys := directiveOf_none.mp plain
      exact directiveOf_none.mpr ⟨findKey_zipWith _ keys.1 trees, findKey_zipWith _ keys.2 trees⟩
  | strMap fields =>
      have keys := directiveOf_none.mp plain
      exact directiveOf_none.mpr ⟨lookup_zipWith _ keys.1 trees, lookup_zipWith _ keys.2 trees⟩
  | _ => rfl

/-- If the contents have no directives, a resolved tree has none. -/
theorem plain_of_resolveWith
    (clean : forall found result, contents found = some result -> Plain result) {tree out : Tree}
    (resolved : resolveWith contents tree = some out) : Plain out := by
  induction tree using childInduction generalizing out with
  | step tree inductionHypothesis =>
      cases stands : directive tree with
      | some found =>
          rw [resolveWith_of_directive stands] at resolved
          exact clean found out resolved
      | none =>
          rcases (resolveWith_some_iff stands).mp resolved with ⟨trees, every, same⟩
          rw [<- same]
          refine plain_of_children (directive_rebuild stands trees) fun child member => ?_
          rw [children_rebuild every.length_eq.symm] at member
          rw [List.forall₂_iff_get] at every
          rcases List.mem_iff_getElem.mp member with ⟨k, short, isChild⟩
          have small : k < (children tree).length := every.1 ▸ short
          exact inductionHypothesis _ (List.get_mem _ ⟨k, small⟩) (isChild ▸ every.2 k small short)

end

/-! ## Rounds -/

section

variable (place : Place)

/-- The contents that are known in a round. -/
def contentsAt : Nat -> Directive -> Option Tree
  | 0 => contentsWith place fun _ => none
  | depth + 1 => contentsWith place (resolve place depth)

theorem resolve_eq (depth : Nat) : resolve place depth = resolveWith (contentsAt place depth) := by
  cases depth <;> rfl

/-- The file that a directive names is there; an imported one holds a document. -/
def Present : Directive -> Prop
  | .document name => name ≠ "" ∧ Exists fun document => documentOf place name = some document
  | .content name => name ≠ "" ∧ Exists fun text => place.files (includePath place name) = some text

/-- All files are there that the tree and the files name, and no file imports itself, directly or
through others. -/
structure Sound (tree : Tree) : Prop where
  here : forall found, Names tree found -> Present place found
  inFiles : forall name document, documentOf place name = some document ->
    forall found, Names document found -> Present place found
  acyclic : WellFounded fun inner outer =>
    Exists fun document => documentOf place outer = some document ∧ Names document (.document inner)

end

section

variable {place : Place}

theorem contentsAt_succ {depth : Nat} : forall {found : Directive} {result : Tree},
    contentsAt place depth found = some result ->
    contentsAt place (depth + 1) found = some result := by
  induction depth with
  | zero =>
      intro found result known
      cases found with
      | content name => exact known
      | document name =>
          change (documentOf place name).bind (fun _ => none) = some result at known
          rcases Option.bind_eq_some_iff.mp known with ⟨_, _, impossible⟩
          cases impossible
  | succ depth inductionHypothesis =>
      intro found result known
      cases found with
      | content name => exact known
      | document name =>
          change (documentOf place name).bind (resolve place depth) = some result at known
          rcases Option.bind_eq_some_iff.mp known with ⟨document, isDocument, resolved⟩
          rw [resolve_eq] at resolved
          refine Option.bind_eq_some_iff.mpr ⟨document, isDocument, ?_⟩
          rw [resolve_eq]
          exact resolveWith_mono (fun found result => inductionHypothesis) resolved

/-- More rounds change nothing. -/
theorem resolve_le {depth later : Nat} (le : depth <= later) {tree out : Tree}
    (resolved : resolve place depth tree = some out) :
    resolve place later tree = some out := by
  induction le with
  | refl => exact resolved
  | step _ inductionHypothesis =>
      rw [resolve_eq] at inductionHypothesis ⊢
      exact resolveWith_mono (fun _ _ => contentsAt_succ) inductionHypothesis

theorem Resolves.unique {tree first second : Tree} (one : Resolves place tree first)
    (two : Resolves place tree second) :
    first = second := by
  rcases one with ⟨depth, resolved⟩
  rcases two with ⟨later, alsoResolved⟩
  have same := (resolve_le (Nat.le_max_left depth later) resolved).symm.trans
    (resolve_le (Nat.le_max_right depth later) alsoResolved)
  exact Option.some.inj same

/-- Nothing is left to be put in. -/
theorem plain_of_resolve {depth : Nat} :
    forall {tree out : Tree}, resolve place depth tree = some out -> Plain out := by
  have text (text : String) : Plain (.text text) :=
      plain_of_children rfl fun _ absent => nomatch absent
  induction depth with
  | zero =>
      intro tree out resolved
      refine plain_of_resolveWith (fun found result known => ?_) resolved
      cases found with
      | content name =>
          rcases Option.map_eq_some_iff.mp known with ⟨content, _, same⟩
          rw [<- same]
          exact text content
      | document name =>
          rcases Option.bind_eq_some_iff.mp known with ⟨_, _, impossible⟩
          cases impossible
  | succ depth inductionHypothesis =>
      intro tree out resolved
      refine plain_of_resolveWith (fun found result known => ?_) resolved
      cases found with
      | content name =>
          rcases Option.map_eq_some_iff.mp known with ⟨content, _, same⟩
          rw [<- same]
          exact text content
      | document name =>
          rcases Option.bind_eq_some_iff.mp known with ⟨document, _, done⟩
          exact inductionHypothesis done

/-- A list of trees that resolve do so in the same round. -/
theorem common_depth {trees : List Tree}
    (every : forall tree, tree ∈ trees -> Exists fun out => Resolves place tree out) :
    Exists fun depth => forall tree, tree ∈ trees -> Exists fun out =>
        resolve place depth tree = some out := by
  induction trees with
  | nil => exact ⟨0, fun _ absent => nomatch absent⟩
  | cons tree rest inductionHypothesis =>
      rcases every tree List.mem_cons_self with ⟨out, depth, resolved⟩
      rcases inductionHypothesis fun other member => every other (List.mem_cons_of_mem _ member)
          with ⟨later, others⟩
      refine ⟨max depth later, fun other member => ?_⟩
      rcases List.mem_cons.mp member with same | behind
      · rw [same]
        exact ⟨out, resolve_le (Nat.le_max_left depth later) resolved⟩
      · rcases others other behind with ⟨result, done⟩
        exact ⟨result, resolve_le (Nat.le_max_right depth later) done⟩

/-- A tree resolves if what it names does. -/
theorem resolves_of_names {tree : Tree}
    (known : forall found, Names tree found -> Exists fun depth => Exists fun out =>
    contentsAt place depth found = some out) :
    Exists fun out => Resolves place tree out := by
  induction tree using childInduction with
  | step tree inductionHypothesis =>
      cases stands : directive tree with
      | some found =>
          rcases known found (Or.inl stands) with ⟨depth, out, resolved⟩
          refine ⟨out, depth, ?_⟩
          rw [resolve_eq, resolveWith_of_directive stands]
          exact resolved
      | none =>
          rcases common_depth fun child member =>
            inductionHypothesis child member fun found names =>
                known found (names_child stands member names) with ⟨depth, every⟩
          cases resolved : (children tree).mapM (resolve place depth) with
          | none =>
              rcases Fallible.exists_none_of_mapM resolved with ⟨child, member, refused⟩
              rcases every child member with ⟨out, done⟩
              rw [done] at refused
              cases refused
          | some trees =>
              refine ⟨rebuild tree trees, depth, ?_⟩
              rw [resolve_eq] at resolved ⊢
              exact (resolveWith_some_iff stands).mpr
                  ⟨trees, Fallible.mapM_some_iff.mp resolved, rfl⟩

/-- Every directive has contents if the files are there and no file imports itself. -/
theorem known_of_present (inFiles : forall name document, documentOf place name = some document ->
      forall found, Names document found -> Present place found)
    (acyclic : WellFounded fun inner outer =>
      Exists fun document => documentOf place outer = some document ∧
          Names document (.document inner)) :
    forall found, Present place found -> Exists fun depth => Exists fun out =>
        contentsAt place depth found = some out := by
  have documents : forall name, Present place (.document name) ->
      Exists fun depth => Exists fun out => contentsAt place depth (.document name) = some out := by
    intro name
    induction name using acyclic.induction with
    | _ name inductionHypothesis =>
        rintro ⟨_, document, isDocument⟩
        have resolved : Exists fun out => Resolves place document out := by
          refine resolves_of_names fun found names => ?_
          cases found with
          | content inner =>
              rcases inFiles name document isDocument _ names with ⟨_, text, isText⟩
              exact ⟨0, .text text, congrArg (Option.map Tree.text) isText⟩
          | document inner =>
              exact inductionHypothesis inner ⟨document, isDocument, names⟩
                  (inFiles name document isDocument _ names)
        rcases resolved with ⟨out, depth, done⟩
        exact ⟨depth + 1, out, Option.bind_eq_some_iff.mpr ⟨document, isDocument, done⟩⟩
  intro found present
  cases found with
  | content name =>
      rcases present with ⟨_, text, isText⟩
      exact ⟨0, .text text, congrArg (Option.map Tree.text) isText⟩
  | document name => exact documents name present

theorem Sound.resolves {tree : Tree} (sound : Sound place tree) :
    Exists fun out => Resolves place tree out :=
  resolves_of_names fun found names =>
    known_of_present sound.inFiles sound.acyclic found (sound.here found names)

end

/-! ## What the containers put in -/

section

variable (place : Place)

/-- What a container makes of a directive in it. -/
def serve (map : Bool) : Directive -> Except Failure Tree
  | .document name => importFile place name
  | .content name => if map then .error (.panic "E") else includeFile place name

def Directive.name : Directive -> String
  | .document name => name
  | .content name => name

/-- A container puts the contents in. Maps and lists do not accept the same contents, hence the
flag for the kind of the container. -/
def Served (contents : Directive -> Option Tree) (map : Bool) (found : Directive) : Prop :=
  Exists fun result => contents found = some result ∧ serve place map found = .ok result

end

section

variable {place : Place} {contents : Directive -> Option Tree}

theorem putIn_report (map : Bool) (tree : Tree) {found : Directive} (named : found.name ≠ "") :
    putIn place map (report tree found) = serve place map found := by
  cases found with
  | document name =>
      have isNamed : name ≠ "" := named
      cases map with
      | true =>
          rw [putIn, if_pos rfl, inMap, report, if_neg fun impossible => impossible rfl,
              if_pos isNamed]
          rfl
      | false =>
          rw [putIn, if_neg Bool.false_ne_true, inList, report, if_neg fun impossible =>
              impossible rfl, pure_bind]
          exact if_pos isNamed
  | content name =>
      have isNamed : name ≠ "" := named
      cases map with
      | true =>
          rw [putIn, if_pos rfl, inMap, report, if_pos isNamed]
          rfl
      | false =>
          rw [putIn, if_neg Bool.false_ne_true, inList, report, if_pos isNamed]
          simp only [ne_eq, not_true_eq_false, if_false]
          exact bind_pure _

theorem copy_of_plain {tree copy : Tree} (plain : directive tree = none) :
    (translateRecursive place tree).map Translated.copy = .ok copy ↔
    translateRecursive place tree = .ok { copy } := by
  cases translated : translateRecursive place tree with
  | error failure => exact ⟨fun impossible => (nomatch impossible), fun impossible =>
      (nomatch impossible)⟩
  | ok result =>
      rcases (translateRecursive_ok_iff plain).mp translated with ⟨trees, _, same⟩
      rw [same]
      constructor
      · intro done
        cases done
        rfl
      · intro done
        cases done
        rfl

/-- A tree that is no directive is put in as it was translated. -/
theorem putIn_of_plain {tree copy : Tree} (map : Bool) (plain : directive tree = none) :
    (translateRecursive place tree >>= putIn place map) = .ok copy ↔
    translateRecursive place tree = .ok { copy } := by
  rw [Fallible.bind_ok_iff]
  constructor
  · rintro ⟨result, translated, done⟩
    rcases (translateRecursive_ok_iff plain).mp translated with ⟨trees, _, same⟩
    rw [same, putIn_copy] at done
    cases done
    rw [translated, same]
  · intro translated
    exact ⟨{ copy }, translated, putIn_copy map copy⟩

/-- A tree is translated to what it resolves to if and only if every directive in it is served by
its container. -/
theorem translated_iff {tree out : Tree} (plain : directive tree = none)
    (named : forall found, Names tree found -> found.name ≠ "")
    (resolved : resolveWith contents tree = some out) :
    translateRecursive place tree = .ok { copy := out } ↔
      forall map found, Occurs tree map found -> Served place contents map found := by
  induction tree using childInduction generalizing out with
  | step tree inductionHypothesis =>
      rcases (resolveWith_some_iff plain).mp resolved with ⟨trees, every, same⟩
      have one : forall child result, child ∈ children tree ->
          resolveWith contents child = some result ->
          ((translateRecursive place child >>= putIn place (isMap tree)) = .ok result ↔
            forall map found, (directive child = some found ∧ map = isMap tree ∨
            Occurs child map found) ->
              Served place contents map found) := by
        intro child result member known
        cases stands : directive child with
        | some found =>
            rw [translateRecursive_of_directive stands]
            change putIn place (isMap tree) (report child found) = .ok result ↔ _
            rw [putIn_report _ _ (named found (names_child plain member (Or.inl stands)))]
            rw [resolveWith_of_directive stands] at known
            constructor
            · rintro served map other (⟨equal, isIts⟩ | occurs)
              · cases equal
                rw [isIts]
                exact ⟨result, known, served⟩
              · cases occurs with
                | here free _ _ =>
                    rw [stands] at free
                    cases free
                | inside free _ _ =>
                    rw [stands] at free
                    cases free
            · intro served
              rcases served (isMap tree) found (Or.inl ⟨rfl, rfl⟩) with ⟨other, isOther, done⟩
              rw [known] at isOther
              cases isOther
              exact done
        | none =>
            rw [putIn_of_plain _ stands,
              inductionHypothesis child member stands
                  (fun found names => named found (names_child plain member names)) known]
            constructor
            · rintro served map found (⟨impossible, _⟩ | occurs)
              · cases impossible
              · exact served map found occurs
            · intro served map found occurs
              exact served map found (Or.inr occurs)
      rw [List.forall₂_iff_get] at every
      rw [translateRecursive_ok_iff plain]
      constructor
      · rintro ⟨copies, done, equal⟩ map found occurs
        have isOut : rebuild tree copies = rebuild tree trees :=
          (congrArg Translated.copy equal).symm.trans same.symm
        have sameCopies : copies = trees := by
          rw [<- children_rebuild done.length_eq.symm, <- children_rebuild every.1.symm, isOut]
        rw [sameCopies, List.forall₂_iff_get] at done
        have inChild : forall child, child ∈ children tree -> forall map found,
            (directive child = some found ∧ map = isMap tree ∨ Occurs child map found) ->
                Served place contents map found := by
          intro child member
          rcases List.mem_iff_get.mp member with ⟨k, isChild⟩
          have short : k.val < trees.length := every.1 ▸ k.isLt
          rw [<- isChild]
          exact (one _ _ (List.get_mem _ k) (every.2 k.val k.isLt short)).mp
              (done.2 k.val k.isLt short)
        cases occurs with
        | here _ member stands => exact inChild _ member _ found (Or.inl ⟨stands, rfl⟩)
        | inside _ member occurs => exact inChild _ member map found (Or.inr occurs)
      · intro served
        refine ⟨trees, ?_, by rw [same]⟩
        rw [List.forall₂_iff_get]
        refine ⟨every.1, fun k small short => ?_⟩
        refine (one _ _ (List.get_mem _ ⟨k, small⟩) (every.2 k small short)).mpr fun map
            found either => ?_
        rcases either with ⟨stands, isIts⟩ | occurs
        · rw [isIts]
          exact served _ found (Occurs.here plain (List.get_mem _ _) stands)
        · exact served map found (Occurs.inside plain (List.get_mem _ _) occurs)

end

/-! ## When a document is resolved -/

section

variable (place : Place)

/-- A directive that its container serves: an import of a file that is not empty and names no
others, or an include in a list. The container decides, because the code has a case for each of
them, and not all of them have a case for each directive. -/
def Settled (map : Bool) : Directive -> Prop
  | .document name => place.files (importPath place name) ≠ some "" ∧
      forall document, documentOf place name = some document -> Plain document
  | .content _ => map = false

/-- `translate` returns the resolved tree. -/
def Translates (tree : Tree) : Prop :=
  Exists fun out => Resolves place tree out ∧ translate place tree = .ok out

end

section

variable {place : Place} {contents : Directive -> Option Tree}

/-- A tree that resolves names only what has contents. -/
theorem known_of_resolveWith {tree out : Tree} (resolved : resolveWith contents tree = some out)
    {found : Directive} (names : Names tree found) :
    Exists fun result => contents found = some result := by
  induction tree using childInduction generalizing out with
  | step tree inductionHypothesis =>
      rcases names with stands | ⟨map, occurs⟩
      · rw [resolveWith_of_directive stands] at resolved
        exact ⟨out, resolved⟩
      · have inChild : forall child, directive tree = none -> child ∈ children tree ->
          Names child found ->
            Exists fun result => contents found = some result := by
          intro child plain member names
          rcases (resolveWith_some_iff plain).mp resolved with ⟨trees, every, _⟩
          rw [List.forall₂_iff_get] at every
          rcases List.mem_iff_get.mp member with ⟨k, isChild⟩
          have short : k.val < trees.length := every.1 ▸ k.isLt
          have resolvedChild : resolveWith contents child = some (trees.get ⟨k.val, short⟩) := by
            rw [<- isChild]
            exact every.2 k.val k.isLt short
          exact inductionHypothesis child member resolvedChild names
        cases occurs with
        | here plain member stands => exact inChild _ plain member (Or.inl stands)
        | inside plain member occurs => exact inChild _ plain member (Or.inr ⟨map, occurs⟩)

/-- The reader gives the document, but panics if the file is empty. -/
theorem importFile_ok_iff {name : String} {document result : Tree}
    (isDocument : documentOf place name = some document) :
    importFile place name = .ok result ↔ place.files (importPath place name) ≠ some "" ∧
    document = result := by
  unfold documentOf at isDocument
  rcases Option.bind_eq_some_iff.mp isDocument with ⟨text, isText, parsed⟩
  unfold importFile readYamlFile
  rw [isText, wrap_eq_ok]
  dsimp only
  rw [wrap_eq_ok, unmarshal]
  cases letters : text.toList with
  | nil =>
      have empty : text = "" := String.toList_eq_nil_iff.mp letters
      rw [empty]
      exact ⟨fun impossible => (nomatch impossible), fun both => absurd rfl both.1⟩
  | cons first rest =>
      have nonempty : some text ≠ some "" := by
        intro same
        rw [Option.some.inj same] at letters
        cases letters
      rw [letters] at parsed
      dsimp only
      by_cases brace : first = '{'
      · rw [if_pos brace]
        rw [List.head?_cons, if_pos (congrArg some brace)] at parsed
        cases json : place.decoders.json text with
        | error err =>
            rw [json] at parsed
            cases parsed
        | ok tree =>
            rw [json] at parsed
            cases parsed
            exact ⟨fun same => ⟨nonempty, Except.ok.inj same⟩, fun both =>
                congrArg Except.ok both.2⟩
      · rw [if_neg brace]
        rw [List.head?_cons, if_neg fun same => brace (Option.some.inj same)] at parsed
        cases yaml : place.decoders.yaml text with
        | error err =>
            rw [yaml] at parsed
            cases parsed
        | ok tree =>
            rw [yaml] at parsed
            cases parsed
            exact ⟨fun same => ⟨nonempty, Except.ok.inj same⟩, fun both =>
                congrArg Except.ok both.2⟩

/-- What is served is settled. -/
theorem served_iff_settled {depth : Nat} {map : Bool} {found : Directive} {result : Tree}
    (known : contentsAt place depth found = some result) :
    Served place (contentsAt place depth) map found ↔ Settled place map found := by
  cases found with
  | content name =>
      have contentsOf : (place.files (includePath place name)).map Tree.text = some result := by
        cases depth <;> exact known
      rcases Option.map_eq_some_iff.mp contentsOf with ⟨text, isText, same⟩
      cases map with
      | true => exact ⟨fun ⟨_, _, impossible⟩ => (nomatch impossible), fun impossible =>
          (nomatch impossible)⟩
      | false =>
          refine ⟨fun _ => rfl, fun _ => ⟨result, known, ?_⟩⟩
          change includeFile place name = .ok result
          rw [includeFile, isText, <- same]
  | document name =>
      cases depth with
      | zero =>
          rcases Option.bind_eq_some_iff.mp known with ⟨_, _, impossible⟩
          cases impossible
      | succ depth =>
          rcases Option.bind_eq_some_iff.mp known with ⟨document, isDocument, resolved⟩
          have plain : Plain document ↔ document = result := by
            constructor
            · intro plain
              rw [resolve_eq, resolveWith_plain plain] at resolved
              exact Option.some.inj resolved
            · intro same
              rw [same]
              exact plain_of_resolve resolved
          constructor
          · rintro ⟨other, isOther, done⟩
            rw [known] at isOther
            cases isOther
            have both := (importFile_ok_iff isDocument).mp done
            refine ⟨both.1, fun other isOther => ?_⟩
            rw [isDocument] at isOther
            cases isOther
            exact plain.mpr both.2
          · rintro ⟨nonempty, every⟩
            exact ⟨result, known, (importFile_ok_iff isDocument).mpr
                ⟨nonempty, plain.mp (every document isDocument)⟩⟩

theorem translate_eq {tree : Tree} (some : tree ≠ .null) :
    translate place tree = (translateRecursive place tree).map Translated.copy := by
  cases tree with
  | null => exact absurd rfl some
  | _ => rfl

/-- A document is resolved if and only if it is not null, it is no directive itself (an import of
an empty map does no harm), and every directive in it is served. -/
theorem translates_iff {tree : Tree} (sound : Sound place tree) :
    Translates place tree ↔
      tree ≠ .null ∧ (forall found, directive tree = some found ->
          Resolves place tree (hollow tree)) ∧
        forall map found, Occurs tree map found -> Settled place map found := by
  rcases sound.resolves with ⟨out, depth, resolved⟩
  have translates (some : tree ≠ .null) : Translates place tree ↔
      (translateRecursive place tree).map Translated.copy = .ok out := by
    rw [<- translate_eq some]
    constructor
    · rintro ⟨other, isOther, done⟩
      rw [Resolves.unique ⟨depth, resolved⟩ isOther]
      exact done
    · exact fun done => ⟨out, ⟨depth, resolved⟩, done⟩
  by_cases empty : tree = .null
  · refine ⟨fun translated => ?_, fun both => absurd empty both.1⟩
    rcases translated with ⟨_, _, impossible⟩
    rw [empty] at impossible
    cases impossible
  · rw [translates empty]
    cases stands : directive tree with
    | some found =>
        rw [translateRecursive_of_directive stands]
        have copied : (report tree found).copy = hollow tree := by
          cases found <;> rfl
        constructor
        · intro done
          have same : hollow tree = out := copied.symm.trans (Except.ok.inj done)
          refine ⟨empty, fun _ _ => ⟨depth, same ▸ resolved⟩, fun map other occurs => ?_⟩
          cases occurs with
          | here plain _ _ =>
              rw [stands] at plain
              cases plain
          | inside plain _ _ =>
              rw [stands] at plain
              cases plain
        · rintro ⟨_, hollows, _⟩
          rw [Resolves.unique ⟨depth, resolved⟩ (hollows found rfl)]
          exact congrArg Except.ok copied
    | none =>
        rw [resolve_eq] at resolved
        rw [copy_of_plain stands, translated_iff stands (fun found names => ?_) resolved]
        · constructor
          · intro served
            refine ⟨empty, fun _ impossible => (nomatch impossible), fun map found occurs => ?_⟩
            rcases known_of_resolveWith resolved (Or.inr ⟨map, occurs⟩) with ⟨result, known⟩
            exact (served_iff_settled known).mp (served map found occurs)
          · rintro ⟨_, _, settled⟩ map found occurs
            rcases known_of_resolveWith resolved (Or.inr ⟨map, occurs⟩) with ⟨result, known⟩
            exact (served_iff_settled known).mpr (settled map found occurs)
        · have present := sound.here found names
          cases found with
          | document name => exact present.1
          | content name => exact present.1

/-- Without directives everything stays as it is, null apart. -/
theorem translate_plain_iff {tree : Tree} (plain : Plain tree) :
    translate place tree = .ok tree ↔ tree ≠ .null := by
  constructor
  · intro done empty
    rw [empty] at done
    cases done
  · intro some
    rw [translate_eq some, translateRecursive_plain plain]
    rfl

end

/-- `translate` resolves a document, all of whose files are there and import each other without a
cycle, if and only if its containers serve every directive; a document without directives stays as
it is if and only if it is not null.

The root is handled by a function that ignores what is reported to it, imported documents are put
in as they are read, and the branch for maps has no case for an included text. -/
theorem translate_correct_iff (place : Place) :
    (forall tree, Sound place tree ->
      (Translates place tree ↔
        tree ≠ .null ∧ (forall found, directive tree = some found ->
        Resolves place tree (hollow tree)) ∧
          forall map found, Occurs tree map found -> Settled place map found)) ∧
      forall tree, Plain tree -> (translate place tree = .ok tree ↔ tree ≠ .null) :=
  ⟨fun _ sound => translates_iff sound, fun _ plain => translate_plain_iff plain⟩

/-- One file, a script. -/
private def scripts : Place where
  decoders := { json := fun _ => .error "invalid character", yaml := fun text => .ok (.text text) }
  files path := if path = "script.js" then some "return 1;" else none
  workingPath := ""

private theorem scripts_plain {name : String} {document : Tree}
    (isDocument : documentOf scripts name = some document) :
    Plain document := by
  unfold documentOf at isDocument
  rcases Option.bind_eq_some_iff.mp isDocument with ⟨text, _, parsed⟩
  split_ifs at parsed
  · cases parsed
  · cases parsed
    exact plain_of_children rfl fun _ absent => nomatch absent

/-- A document that only names the script is sound. -/
private theorem scripts_sound {tree : Tree}
    (only : forall found, Names tree found -> found = .content "script.js") :
    Sound scripts tree where
  here found names := by
    rw [only found names]
    exact ⟨by decide, "return 1;", by decide⟩
  inFiles name document isDocument found names := absurd names (scripts_plain isDocument found)
  acyclic := by
    refine ⟨fun name => Acc.intro name fun inner below => ?_⟩
    rcases below with ⟨document, isDocument, names⟩
    exact absurd names (scripts_plain isDocument _)

private def includeScript : Tree :=
  .strMap [("$include", .text "script.js")]

/-- In a list and in a map. -/
private def listed : Tree :=
  .list [includeScript]

private def mapped : Tree :=
  .strMap [("expression", includeScript)]

private theorem occurs_in {tree : Tree} (only : children tree = [includeScript]) {map : Bool}
    {found : Directive} (occurs : Occurs tree map found) :
    map = isMap tree ∧ found = .content "script.js" := by
  cases occurs with
  | here _ member stands =>
      rw [only] at member
      cases List.mem_singleton.mp member
      cases stands
      exact ⟨rfl, rfl⟩
  | inside _ member occurs =>
      rw [only] at member
      cases List.mem_singleton.mp member
      cases occurs with
      | here plain _ _ => cases plain
      | inside plain _ _ => cases plain

private theorem names_in {tree : Tree} (only : children tree = [includeScript])
    (plain : directive tree = none) (found : Directive) (names : Names tree found) :
    found = .content "script.js" := by
  rcases names with stands | ⟨map, occurs⟩
  · rw [plain] at stands
    cases stands
  · exact (occurs_in only occurs).2

/-- The text of the script is put into a list. -/
theorem listed_translates : Translates scripts listed := by
  refine ((translate_correct_iff scripts).1 listed (scripts_sound (names_in rfl rfl))).mpr
      ⟨?_, ?_, ?_⟩
  · exact fun impossible => nomatch impossible
  · exact fun _ impossible => nomatch impossible
  · intro map found occurs
    rcases occurs_in rfl occurs with ⟨isList, isScript⟩
    rw [isList, isScript]
    rfl

/-- As a value of a map the same include panics, and at the root it becomes an empty map. -/
theorem mapped_panics :
    translate scripts mapped = .error (.panic "E") ∧ translate scripts includeScript = .ok
        (.strMap []) ∧
      ¬ forall (place : Place) (tree : Tree), Sound place tree -> Translates place tree := by
  have panics : translate scripts mapped = .error (.panic "E") := rfl
  refine ⟨panics, rfl, fun law => ?_⟩
  rcases law scripts mapped (scripts_sound (names_in rfl rfl)) with ⟨out, _, done⟩
  rw [panics] at done
  cases done

end Imports
end Cwl
end Awe
