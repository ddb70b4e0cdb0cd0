import Mathlib.Logic.Function.Basic

namespace Awe
namespace Lib

/-!
# Files, directories and links

A file system is a map from paths to entries.  A link stands for what its target
is, and targets are followed up to a number of links.  What is created at the
path of a link is created at the end of the links; renaming a file replaces the
entry at the new path itself.

Each operation changes few entries.  The lemmas say which, so that a fact about
some paths is kept by everything that is done at others.
-/

/-- What is at a path. The entry of a directory only says that it is one: what is in it is what has
a path below it. -/
inductive Entry (C : Type) where
  | directory
  | file (content : C)
  | link (target : String)

/-- A file system as the entries at its paths. -/
abbrev Files (C : Type) : Type := String -> Option (Entry C)

namespace Files

variable {C : Type}

/-- The path at the end of the links, of which only so many are followed. The bound is that of the
operating system, without which a circle of links would have no end. -/
def follow (files : Files C) : Nat -> String -> Option String
  | 0, _ => none
  | links + 1, path =>
      match files path with
      | some (.link target) => follow files links target
      | _ => some path

/-- How many links are followed. -/
def maxLinks : Nat := 40

/-- The entry behind a path. -/
def stat (files : Files C) (path : String) : Option (Entry C) :=
  (files.follow maxLinks path).bind files

/-- The content of the file behind a path. -/
def read (files : Files C) (path : String) : Option C :=
  match files.stat path with
  | some (.file content) => some content
  | _ => none

/-- Writes a file, at the end of the links. -/
def create (files : Files C) (path : String) (content : C) : Files C :=
  match files.follow maxLinks path with
  | some last => Function.update files last (some (.file content))
  | none => files

/-- Moves an entry to another path. It moves a link and not what the link points to, and it
replaces what is at the new path. -/
def rename (files : Files C) (oldPath newPath : String) : Files C :=
  Function.update (Function.update files newPath (files oldPath)) oldPath none

/-- Puts a link at a path. Whether something is there already is for the caller to see. -/
def symlink (files : Files C) (target linkname : String) : Files C :=
  Function.update files linkname (some (.link target))

/-- Makes a directory where there is nothing. -/
def mkdir (files : Files C) (path : String) : Files C :=
  match files path with
  | none => Function.update files path (some .directory)
  | some _ => files

/-- There is no link at the path. -/
def Unlinked (files : Files C) (path : String) : Prop :=
  forall target, files path ≠ some (.link target)

variable {files : Files C} {path : String}

theorem follow_unlinked (unlinked : files.Unlinked path) :
    files.follow maxLinks path = some path := by
  rw [maxLinks, follow]
  cases found : files path with
  | none => rfl
  | some entry =>
      cases entry with
      | directory => rfl
      | file content => rfl
      | link target => exact absurd found (unlinked target)

theorem stat_unlinked (unlinked : files.Unlinked path) : files.stat path = files path := by
  rw [stat, follow_unlinked unlinked]
  rfl

theorem create_unlinked (unlinked : files.Unlinked path) (content : C) :
    files.create path content = Function.update files path (some (.file content)) := by
  rw [create, follow_unlinked unlinked]

theorem create_other (unlinked : files.Unlinked path) {other : String} (different : other ≠ path)
    (content : C) :
    files.create path content other = files other := by
  rw [create_unlinked unlinked, Function.update_of_ne different]

theorem create_self (unlinked : files.Unlinked path) (content : C) :
    files.create path content path = some (.file content) := by
  rw [create_unlinked unlinked, Function.update_self]

theorem rename_other {oldPath newPath other : String} (unlike : other ≠ oldPath)
    (different : other ≠ newPath) :
    files.rename oldPath newPath other = files other := by
  rw [rename, Function.update_of_ne unlike, Function.update_of_ne different]

theorem rename_new {oldPath newPath : String} (unlike : newPath ≠ oldPath) :
    files.rename oldPath newPath newPath = files oldPath := by
  rw [rename, Function.update_of_ne unlike, Function.update_self]

theorem rename_old (oldPath newPath : String) : files.rename oldPath newPath oldPath = none := by
  rw [rename, Function.update_self]

theorem symlink_other {linkname other : String} (different : other ≠ linkname) (target : String) :
    files.symlink target linkname other = files other :=
  Function.update_of_ne different _ _

theorem symlink_self (target linkname : String) :
    files.symlink target linkname linkname = some (.link target) :=
  Function.update_self _ _ _

theorem mkdir_other {other : String} (different : other ≠ path) :
    files.mkdir path other = files other := by
  unfold mkdir
  cases files path with
  | none => exact Function.update_of_ne different _ _
  | some entry => rfl

theorem mkdir_unlinked {other : String} (unlinked : files.Unlinked other) :
    (files.mkdir path).Unlinked other := by
  intro target linked
  by_cases same : other = path
  · unfold mkdir at linked
    cases found : files path with
    | none =>
        rw [found] at linked
        dsimp only at linked
        rw [same, Function.update_self] at linked
        cases linked
    | some entry =>
        rw [found] at linked
        exact unlinked target linked
  · rw [mkdir_other same] at linked
    exact unlinked target linked

end Files
end Lib
end Awe
