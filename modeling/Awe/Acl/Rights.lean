import Mathlib.Data.List.Nodup
import Mathlib.Data.Set.Insert
import Awe.Lib.GoMap
import Awe.Lib.LastWrite

namespace Awe

open Lib

namespace Acl

/-!
# Access control lists

An access control list keeps one slice of user names for each of the three
rights.  `Set` appends a name unless the slice has it, `UnSet` removes the
first occurrence of a name and keeps what follows it.  A slice with the same
name twice would therefore keep a right that was taken away; the slices that
`Set` and `UnSet` build never have one, and on these the three slices are
three sets: `Set` inserts a name, `UnSet` takes it out, and `Check` reports
whether it is there.
-/

/-- The three rights that a slice is kept for. -/
inductive Right where
  | read
  | write
  | delete
  deriving DecidableEq, Repr

/-- The key of a right in a `Rights` map. -/
def Right.key : Right -> String
  | .read => "read"
  | .write => "write"
  | .delete => "delete"

/-- The type `Rights`; a key that is missing reads as `false`. -/
abbrev Rights := GoMap String Bool

namespace Rights

/-- The expression `r[key]`. -/
def has (r : Rights) (key : String) : Bool :=
  (r.lookup key).getD false

end Rights

end Acl

/-- The struct `Acl`. -/
structure Acl where
  owner : String
  read : List String
  write : List String
  delete : List String
  deriving DecidableEq, Repr

namespace Acl

/-- The list before anything is granted. -/
def empty : Acl :=
  ⟨"", [], [], []⟩

def del : List String -> String -> List String
  | [], _ => []
  | item :: rest, s => if item != s then item :: del rest s else rest

def insert (arr : List String) (s : String) : List String :=
  if arr.any fun item => item == s then arr else arr ++ [s]

def unSet (a : Acl) (str : String) (r : Rights) : Acl :=
  { a with
    read := if r.has "read" then del a.read str else a.read
    write := if r.has "write" then del a.write str else a.write
    delete := if r.has "delete" then del a.delete str else a.delete }

def set (a : Acl) (str : String) (r : Rights) : Acl :=
  { a with
    read := if r.has "read" then insert a.read str else a.read
    write := if r.has "write" then insert a.write str else a.write
    delete := if r.has "delete" then insert a.delete str else a.delete }

/-- One round of the loop of `Check`.  A round writes its own key only, so the
order in which the map of slices is visited does not matter. -/
def checkList (str : String) (r : Rights) (k : String) (v : List String) : Rights :=
  if v.any fun id => str == id then AList.insert k true r else r

/-- The map that `Check` starts from. -/
def noRights : Rights :=
  AList.insert "delete" false (AList.insert "write" false (AList.insert "read" false ∅))

/-- `Check`: the rights of a user, as a map with a key for each right that the user has. -/
def check (a : Acl) (str : String) : Rights :=
  let r := noRights
  checkList str (checkList str (checkList str r "read" a.read) "write" a.write) "delete" a.delete

/-! ## The slice of a right -/

/-- The users that a list names under a right. -/
def users (a : Acl) : Right -> List String
  | .read => a.read
  | .write => a.write
  | .delete => a.delete

/-- What a list is for: a set of users for each right. -/
def granted (a : Acl) (right : Right) : Set String :=
  { user | user ∈ a.users right }

/-- No slice names a user twice. Without it a deletion would leave the second entry behind, for
only the first one is taken out. -/
def Distinct (a : Acl) : Prop :=
  forall right, (a.users right).Nodup

theorem users_set (a : Acl) (str : String) (r : Rights) (right : Right) :
    (set a str r).users right = if r.has right.key then insert (a.users right) str else
        a.users right := by
  cases right <;> rfl

theorem users_unSet (a : Acl) (str : String) (r : Rights) (right : Right) :
    (unSet a str r).users right = if r.has right.key then del (a.users right) str else
        a.users right := by
  cases right <;> rfl

/-- The loop of `del` is Mathlib's `erase`: both remove the first occurrence. -/
theorem del_eq_erase (arr : List String) (s : String) : del arr s = arr.erase s := by
  induction arr with
  | nil => rfl
  | cons item rest inductionHypothesis =>
      by_cases same : item = s
      · simp [del, same]
      · simp [del, same, inductionHypothesis]

theorem mem_insert {arr : List String} {s user : String} :
    user ∈ insert arr s ↔ user = s ∨ user ∈ arr := by
  unfold insert
  by_cases there : s ∈ arr
  · have found : (arr.any fun item => item == s) = true := by simpa using there
    rw [if_pos found]
    exact ⟨Or.inr, fun either => either.elim (fun same => same ▸ there) id⟩
  · have missing : ¬ (arr.any fun item => item == s) = true := by simpa using there
    rw [if_neg missing, List.mem_append, List.mem_singleton]
    exact Or.comm

theorem nodup_insert {arr : List String} (distinct : arr.Nodup) (s : String) :
    (insert arr s).Nodup := by
  unfold insert
  by_cases there : s ∈ arr
  · have found : (arr.any fun item => item == s) = true := by simpa using there
    rw [if_pos found]
    exact distinct
  · have missing : ¬ (arr.any fun item => item == s) = true := by simpa using there
    rw [if_neg missing, <- List.concat_eq_append]
    exact distinct.concat there

theorem Distinct.set {a : Acl} (distinct : a.Distinct) (str : String) (r : Rights) :
    (Acl.set a str r).Distinct := by
  intro right
  rw [users_set]
  by_cases named : r.has right.key = true
  · rw [if_pos named]
    exact nodup_insert (distinct right) str
  · rw [if_neg named]
    exact distinct right

theorem Distinct.unSet {a : Acl} (distinct : a.Distinct) (str : String) (r : Rights) :
    (Acl.unSet a str r).Distinct := by
  intro right
  rw [users_unSet]
  by_cases named : r.has right.key = true
  · rw [if_pos named, del_eq_erase]
    exact (distinct right).erase str
  · rw [if_neg named]
    exact distinct right

theorem granted_set (a : Acl) (str : String) (r : Rights) (right : Right) :
    (set a str r).granted right = if r.has right.key then Insert.insert str (a.granted right) else
        a.granted right := by
  ext user
  unfold granted
  rw [users_set]
  by_cases named : r.has right.key = true
  · rw [if_pos named, if_pos named]
    exact mem_insert
  · rw [if_neg named, if_neg named]

/-- Removing one occurrence removes the user, since a slice has no second one. -/
theorem granted_unSet {a : Acl} (distinct : a.Distinct) (str : String) (r : Rights)
    (right : Right) :
    (unSet a str r).granted right = if r.has right.key then a.granted right \ {str} else
        a.granted right := by
  ext user
  unfold granted
  rw [users_unSet]
  by_cases named : r.has right.key = true
  · rw [if_pos named, if_pos named, del_eq_erase]
    change user ∈ (a.users right).erase str ↔ user ∈ a.users right ∧ user ≠ str
    rw [(distinct right).mem_erase_iff, and_comm]
  · rw [if_neg named, if_neg named]

theorem has_insert (r : Rights) (key other : String) (value : Bool) :
    Rights.has (AList.insert key value r) other = if other = key then value else r.has other := by
  unfold Rights.has
  rw [GoMap.lookup_insert_if]
  by_cases same : other = key
  · rw [if_pos same, if_pos same, Option.getD_some]
  · rw [if_neg same, if_neg same]

theorem has_noRights (key : String) : noRights.has key = false := by
  unfold noRights
  rw [has_insert, has_insert, has_insert]
  split_ifs <;> rfl

theorem has_checkList (str : String) (r : Rights) (k other : String) (v : List String) :
    (checkList str r k v).has other = if other = k then decide (str ∈ v) || r.has k else
        r.has other := by
  unfold checkList
  by_cases there : str ∈ v
  · have found : (v.any fun id => str == id) = true := by simpa using there
    rw [if_pos found, has_insert, decide_eq_true there, Bool.true_or]
  · have missing : ¬ (v.any fun id => str == id) = true := by simpa using there
    rw [if_neg missing, decide_eq_false there, Bool.false_or]
    by_cases same : other = k
    · rw [if_pos same, same]
    · rw [if_neg same]

/-- `Check` reports the slice of each right. -/
theorem check_iff (a : Acl) (str : String) (right : Right) :
    (check a str).has right.key = true ↔ str ∈ a.granted right := by
  cases right <;> simp [check, has_checkList, has_noRights, Right.key, granted, users]

/-! ## Sequences of operations -/

/-- A call of `Set` or of `UnSet`. The two are the only ways in which the code changes the slices.
-/
inductive Operation where
  | set (str : String) (r : Rights)
  | unSet (str : String) (r : Rights)

namespace Operation

def apply (a : Acl) : Operation -> Acl
  | set str r => Acl.set a str r
  | unSet str r => Acl.unSet a str r

/-- The operation names the user and has the right set. -/
def Names (user : String) (right : Right) : Operation -> Prop
  | set str r => str = user ∧ r.has right.key = true
  | unSet str r => str = user ∧ r.has right.key = true

instance (user : String) (right : Right) (operation : Operation) :
    Decidable (operation.Names user right) := by
  cases operation <;> exact inferInstanceAs (Decidable (_ ∧ _))

/-- The operation is a `Set`. -/
def grants : Operation -> Bool
  | set _ _ => true
  | unSet _ _ => false

/-- What an operation writes for a user and a right. -/
def writes (user : String) (right : Right) (operation : Operation) : Option Bool :=
  if operation.Names user right then some operation.grants else none

theorem writes_eq_some_iff {user : String} {right : Right} {operation : Operation} {value : Bool} :
    operation.writes user right = some value ↔ operation.Names user right ∧
    operation.grants = value := by
  unfold writes
  by_cases named : operation.Names user right
  · rw [if_pos named, Option.some_inj]
    exact (and_iff_right named).symm
  · rw [if_neg named]
    exact iff_of_false (fun impossible => nomatch impossible) fun both => named both.1

theorem writes_eq_none_iff {user : String} {right : Right} {operation : Operation} :
    operation.writes user right = none ↔ ¬ operation.Names user right := by
  unfold writes
  by_cases named : operation.Names user right
  · rw [if_pos named]
    exact iff_of_false (fun impossible => nomatch impossible) fun unnamed => unnamed named
  · rw [if_neg named]
    exact iff_of_true rfl named

end Operation

/-- The list after a sequence of operations. -/
def run (operations : List Operation) : Acl :=
  operations.foldl Operation.apply empty

theorem distinct_empty : empty.Distinct := by
  intro right
  cases right <;> exact List.nodup_nil

theorem distinct_apply (a : Acl) (operation : Operation) (distinct : a.Distinct) :
    (operation.apply a).Distinct := by
  cases operation with
  | set str r => exact distinct.set str r
  | unSet str r => exact distinct.unSet str r

/-- What `Check` reports for a user and a right is a register of the list. -/
theorem isRegister_check (user : String) (right : Right) :
    IsRegister Distinct Operation.apply (fun a => (check a user).has right.key)
      (Operation.writes user right) := by
  intro a distinct operation
  rw [Bool.eq_iff_iff, check_iff]
  cases operation with
  | set str r =>
      change user ∈ (set a str r).granted right ↔ _
      rw [granted_set]
      by_cases named : r.has right.key = true
      · by_cases same : str = user
        · simp [Operation.writes, Operation.Names, Operation.grants, named, same]
        · simp [Operation.writes, Operation.Names, named, same, check_iff, Ne.symm same]
      · simp [Operation.writes, Operation.Names, named, check_iff]
  | unSet str r =>
      change user ∈ (unSet a str r).granted right ↔ _
      rw [granted_unSet distinct]
      by_cases named : r.has right.key = true
      · by_cases same : str = user
        · simp [Operation.writes, Operation.Names, Operation.grants, named, same]
        · simp [Operation.writes, Operation.Names, named, same, check_iff, Ne.symm same]
      · simp [Operation.writes, Operation.Names, named, check_iff]

/-- After any sequence of operations on an empty list, a user has a right if
and only if the last operation that names the user and has the right set is a
`Set`; and no operation changes what is reported for a user and a right that
it does not name. -/
theorem check_run_iff (operations : List Operation) (user : String) (right : Right) :
    ((check (run operations) user).has right.key = true ↔
      Exists fun earlier => Exists fun last => Exists fun later =>
        operations = earlier ++ last :: later ∧ last.Names user right ∧ last.grants = true ∧
          forall operation, operation ∈ later -> ¬ operation.Names user right) ∧
    forall operation : Operation, ¬ operation.Names user right ->
      (check (operation.apply (run operations)) user).has right.key =
        (check (run operations) user).has right.key := by
  have register := isRegister_check user right
  constructor
  · have fresh : (check empty user).has right.key ≠ true := by
      rw [ne_eq, check_iff]
      cases right <;> exact List.not_mem_nil
    have written := register.read_foldl_iff distinct_apply distinct_empty fresh operations
    rw [LastWritten] at written
    simpa only [run, Operation.writes_eq_some_iff, Operation.writes_eq_none_iff, and_assoc]
        using written
  · intro operation unnamed
    have reached : (run operations).Distinct :=
        foldl_invariant distinct_apply operations distinct_empty
    have after := register _ reached operation
    rw [Operation.writes_eq_none_iff.mpr unnamed, Option.getD_none] at after
    exact after

end Acl
end Awe
