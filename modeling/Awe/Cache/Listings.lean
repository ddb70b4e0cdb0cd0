import Awe.Cache.Download

namespace Awe
namespace Cache
namespace Listings

open Lib Lib.Path Cwl Natives Upload Download

/-!
# A download that fetches nothing

`ProcessIOData` also downloads while it uploads: it has the type `download` for the
values in the listing of an `InitialWorkDirRequirement`.  Nothing may be counted
there, so no value may hold a `File`.

Even then a download leaves its mark.  A `Directory` loses its path, and its
location becomes its name.  The values belong to the tool, and a tool that is run
by several steps has them downloaded as often, so a `Directory` that has only a
path is taken once and refused from then on: it has neither a listing nor a
location nor a path any more.
-/

/-- A value without files, numbers that have no case, and directories that the
download refuses. -/
def Quiet : Node -> Prop
  | .file _ _ => False
  | .long _ => False
  | .float _ => False
  | .directory fields count => count = 0 -> fields.location = "" -> fields.path ≠ ""
  | _ => True

/-- As before, and every directory can do without its path. -/
def Lasting : Node -> Prop
  | .file _ _ => False
  | .long _ => False
  | .float _ => False
  | .directory fields count => count = 0 -> fields.location ≠ ""
  | _ => True

/-- What a download makes of a directory. -/
def leaveDirectory (fields : DirectoryFields) : DirectoryFields :=
  { fields with path := "", location := if fields.location = "" then "" else directoryName fields }

def leaveNode : Node -> Node
  | .directory fields count => .directory (leaveDirectory fields) count
  | node => node

mutual

/-- What a download without files leaves of a value. -/
def leave : Value -> Value
  | .null => .null
  | .boolean value => .boolean value
  | .int value => .int value
  | .long value => .long value
  | .float value => .float value
  | .double value => .double value
  | .string text => .string text
  | .file fields secondaryFiles => .file fields (leaveValues secondaryFiles)
  | .directory fields listing => .directory (leaveDirectory fields) (leaveValues listing)
  | .array items => .array (leaveValues items)
  | .record fields => .record (leaveFields fields)

def leaveValues : List Value -> List Value
  | [] => []
  | value :: rest => leave value :: leaveValues rest

def leaveFields : List (String × Value) -> List (String × Value)
  | [] => []
  | (key, value) :: rest => (key, leave value) :: leaveFields rest

end

theorem length_leaveValues (values : List Value) : (leaveValues values).length = values.length := by
  induction values with
  | nil => rfl
  | cons value rest inductionHypothesis => exact congrArg Nat.succ inductionHypothesis

theorem keys_leaveFields (fields : List (String × Value)) :
    (leaveFields fields).map Prod.fst = fields.map Prod.fst := by
  induction fields with
  | nil => rfl
  | cons field rest inductionHypothesis => exact congrArg (field.1 :: ·) inductionHypothesis

mutual

theorem nodes_leave : forall value : Value, nodes (leave value) = (nodes value).map leaveNode
  | .null | .boolean _ | .int _ | .long _ | .float _ | .double _ | .string _ => rfl
  | .file fields secondaryFiles => by
      change Node.file fields (leaveValues secondaryFiles).length :: nodesOfValues
          (leaveValues secondaryFiles) =
        .file fields secondaryFiles.length :: (nodesOfValues secondaryFiles).map leaveNode
      rw [length_leaveValues, nodesOfValues_leave]
  | .directory fields listing => by
      change Node.directory (leaveDirectory fields) (leaveValues listing).length :: nodesOfValues
          (leaveValues listing) =
        .directory (leaveDirectory fields) listing.length :: (nodesOfValues listing).map leaveNode
      rw [length_leaveValues, nodesOfValues_leave]
  | .array items => by
      change Node.array (leaveValues items).length :: nodesOfValues (leaveValues items) =
        .array items.length :: (nodesOfValues items).map leaveNode
      rw [length_leaveValues, nodesOfValues_leave]
  | .record fields => by
      change Node.record ((leaveFields fields).map Prod.fst) :: nodesOfFields (leaveFields fields) =
        .record (fields.map Prod.fst) :: (nodesOfFields fields).map leaveNode
      rw [keys_leaveFields, nodesOfFields_leave]

theorem nodesOfValues_leave : forall values : List Value,
    nodesOfValues (leaveValues values) = (nodesOfValues values).map leaveNode
  | [] => rfl
  | value :: rest => by
      change nodes (leave value) ++ nodesOfValues (leaveValues rest) =
        (nodes value ++ nodesOfValues rest).map leaveNode
      rw [nodes_leave value, nodesOfValues_leave rest, List.map_append]

theorem nodesOfFields_leave : forall fields : List (String × Value),
    nodesOfFields (leaveFields fields) = (nodesOfFields fields).map leaveNode
  | [] => rfl
  | (key, value) :: rest => by
      change nodes (leave value) ++ nodesOfFields (leaveFields rest) =
        (nodes value ++ nodesOfFields rest).map leaveNode
      rw [nodes_leave value, nodesOfFields_leave rest, List.map_append]

end

/-- A directory always has a name, since the base name of no path at all is a dot. -/
theorem directoryName_ne_empty (fields : DirectoryFields) : directoryName fields ≠ "" := by
  unfold directoryName
  by_cases named : fields.basename = ""
  · rw [if_pos named]
    exact base_ne_empty fields.path
  · rw [if_neg named]
    exact named

theorem leaveDirectory_located (fields : DirectoryFields) :
    (leaveDirectory fields).location = "" ↔ fields.location = "" := by
  change (if fields.location = "" then "" else directoryName fields) = "" ↔ _
  by_cases located : fields.location = ""
  · rw [if_pos located]
    exact iff_of_true rfl located
  · rw [if_neg located]
    exact iff_of_false (directoryName_ne_empty fields) located

theorem quiet_of_lasting {node : Node} (lasting : Lasting node) : Quiet node := by
  cases node with
  | directory fields count => exact fun none noLocation => absurd noLocation (lasting none)
  | _ => exact lasting

theorem quiet_leaveNode (node : Node) : Quiet (leaveNode node) ↔ Lasting node := by
  cases node with
  | directory fields count =>
      change (count = 0 -> (leaveDirectory fields).location = "" -> "" ≠ "") ↔
          (count = 0 -> fields.location ≠ "")
      rw [leaveDirectory_located]
      exact ⟨fun quiet none noLocation => quiet none noLocation rfl,
        fun lasting none noLocation _ => lasting none noLocation⟩
  | _ => exact Iff.rfl

theorem lasting_leaveNode (node : Node) : Lasting (leaveNode node) ↔ Lasting node := by
  cases node with
  | directory fields count =>
      change (count = 0 -> (leaveDirectory fields).location ≠ "") ↔
          (count = 0 -> fields.location ≠ "")
      rw [ne_eq, leaveDirectory_located]
  | _ => exact Iff.rfl

/-- The values that can be downloaded so many times. -/
def LastsFor (visits : Nat) (value : Value) : Prop :=
  match visits with
  | 0 => True
  | 1 => forall node, node ∈ nodes value -> Quiet node
  | _ => forall node, node ∈ nodes value -> Lasting node

/-- One visit, and what is left lasts for the others. -/
theorem lastsFor_succ (visits : Nat) (value : Value) :
    LastsFor (visits + 1) value ↔ (forall node, node ∈ nodes value -> Quiet node) ∧
    LastsFor visits (leave value) := by
  have left (P Q : Node -> Prop) (same : forall node, P (leaveNode node) ↔ Q node) :
      (forall node, node ∈ nodes (leave value) -> P node) ↔ forall node, node ∈ nodes value ->
      Q node := by
    rw [nodes_leave, List.forall_mem_map]
    exact forall₂_congr fun node _ => same node
  have implied : (forall node, node ∈ nodes value -> Lasting node) -> forall node, node ∈ nodes value -> Quiet node :=
    fun every node member => quiet_of_lasting (every node member)
  cases visits with
  | zero => exact (and_iff_left trivial).symm
  | succ others =>
      cases others with
      | zero => exact (and_iff_right_of_imp implied).symm.trans (and_congr_right fun _ => (left _ _ quiet_leaveNode).symm)
      | succ more => exact (and_iff_right_of_imp implied).symm.trans (and_congr_right fun _ => (left _ _ lasting_leaveNode).symm)

section

variable {outside : Download.Outside} {shockClient : Option ShockClient} {basePath : String}

/-- A directory is entered unless it names nothing that could be downloaded. -/
theorem enterDirectory_iff (made : forall state path, outside.mkdirAll state path = .ok ())
    (currentPath : String) (fields after : DirectoryFields) (listing : List Value) (state : State) :
    (Exists fun last => enterDirectory outside currentPath fields listing state = .ok
        (after, last)) ↔
      Quiet (.directory fields listing.length) ∧ after = leaveDirectory fields := by
  unfold enterDirectory
  dsimp only
  by_cases nothing : listing = [] ∧ fields.location = "" ∧ fields.path = ""
  · rw [if_pos nothing]
    refine iff_of_false (by rintro ⟨_, ⟨⟩⟩) ?_
    rintro ⟨quiet, _⟩
    exact quiet (List.length_eq_zero_iff.mpr nothing.1) nothing.2.1 nothing.2.2
  have quiet : Quiet (.directory fields listing.length) :=
    fun none noLocation noPath => nothing ⟨List.length_eq_zero_iff.mp none, noLocation, noPath⟩
  rw [if_neg nothing, if_neg (directoryName_ne_empty fields), and_iff_right quiet, leaveDirectory]
  by_cases literal : fields.location = ""
  · rw [if_pos literal, if_pos literal]
    constructor
    · rintro ⟨last, entered⟩
      rw [<- (Prod.mk.inj (Except.ok.inj entered)).1, <- literal]
    · intro same
      refine ⟨state, ?_⟩
      rw [same, <- literal]
  · rw [if_neg literal, if_neg literal, makeAll, made]
    constructor
    · rintro ⟨last, entered⟩
      exact (Prod.mk.inj (Except.ok.inj entered)).1.symm
    · intro same
      exact ⟨_, by rw [same]; rfl⟩

mutual

/-- A value is downloaded without a file exactly if it is quiet, and this is what it
leaves.  What is on the disk before plays no part. -/
theorem processIOData_iff (made : forall state path, outside.mkdirAll state path = .ok ()) :
    forall (value : Value) (currentPath : String) (state : State) (after : Value),
      (Exists fun last => Download.processIOData outside shockClient basePath
          currentPath value state =
          .ok (after, last, 0)) ↔
        (forall node, node ∈ nodes value -> Quiet node) ∧ after = leave value
  | .null, _, _, _ | .boolean _, _, _, _ | .int _, _, _, _ | .double _, _, _,
      _ | .string _, _, _, _ => by
      rw [Download.processIOData, nodes, List.forall_mem_singleton, leave]
      constructor
      · rintro ⟨last, done⟩
        cases done
        exact ⟨trivial, rfl⟩
      · rintro ⟨_, rfl⟩
        exact ⟨_, rfl⟩
  | .long _, _, _, _ | .float _, _, _, _ => by
      rw [Download.processIOData, nodes, List.forall_mem_singleton]
      exact iff_of_false (by rintro ⟨_, ⟨⟩⟩) And.left
  | .file fields secondaryFiles, currentPath, state, after => by
      rw [Download.processIOData, nodes, List.forall_mem_cons]
      refine iff_of_false ?_ fun both => both.1.1
      rintro ⟨last, done⟩
      rcases Fallible.bind_ok_iff.mp done with ⟨_, _, more⟩
      rcases Fallible.bind_ok_iff.mp more with ⟨others, _, same⟩
      have counted : 1 + others.2.2 = 0 := (Prod.mk.inj (Prod.mk.inj (Except.ok.inj same)).2).2
      omega
  | .directory fields listing, currentPath, state, after => by
      rw [Download.processIOData, nodes, List.forall_mem_cons, leave]
      constructor
      · rintro ⟨last, done⟩
        rcases Fallible.bind_ok_iff.mp done with ⟨⟨entered, ready⟩, here, more⟩
        rcases Fallible.bind_ok_iff.mp more with ⟨⟨entries, final, count⟩, there, same⟩
        cases same
        rcases (enterDirectory_iff made currentPath fields entered listing state).mp ⟨ready, here⟩
            with ⟨quiet, rfl⟩
        rcases (processValues_iff made listing _ ready entries).mp ⟨_, wrap_eq_ok.mp there⟩
            with ⟨every, rfl⟩
        exact ⟨⟨quiet, every⟩, rfl⟩
      · rintro ⟨⟨quiet, every⟩, rfl⟩
        rcases (enterDirectory_iff made currentPath fields _ listing state).mpr ⟨quiet, rfl⟩
            with ⟨ready, here⟩
        rcases (processValues_iff made listing (joinPath currentPath (directoryName fields)) ready
            _).mpr
          ⟨every, rfl⟩ with ⟨last, there⟩
        refine ⟨last, Fallible.bind_ok_iff.mpr ⟨_, here, ?_⟩⟩
        exact Fallible.bind_ok_iff.mpr ⟨_, wrap_eq_ok.mpr there, rfl⟩
  | .array items, currentPath, state, after => by
      rw [Download.processIOData, nodes, List.forall_mem_cons, leave]
      constructor
      · rintro ⟨last, done⟩
        rcases Fallible.bind_ok_iff.mp done with ⟨⟨entries, final, count⟩, there, same⟩
        cases same
        rcases (processValues_iff made items _ state entries).mp ⟨_, wrap_eq_ok.mp there⟩
            with ⟨every, rfl⟩
        exact ⟨⟨trivial, every⟩, rfl⟩
      · rintro ⟨⟨_, every⟩, rfl⟩
        rcases (processValues_iff made items currentPath state _).mpr ⟨every, rfl⟩
            with ⟨last, there⟩
        exact ⟨last, Fallible.bind_ok_iff.mpr ⟨_, wrap_eq_ok.mpr there, rfl⟩⟩
  | .record fields, currentPath, state, after => by
      rw [Download.processIOData, nodes, List.forall_mem_cons, leave]
      constructor
      · rintro ⟨last, done⟩
        rcases Fallible.bind_ok_iff.mp done with ⟨⟨entries, final, count⟩, there, same⟩
        cases same
        rcases (processFields_iff made fields _ state entries).mp ⟨_, there⟩ with ⟨every, rfl⟩
        exact ⟨⟨trivial, every⟩, rfl⟩
      · rintro ⟨⟨_, every⟩, rfl⟩
        rcases (processFields_iff made fields currentPath state _).mpr ⟨every, rfl⟩
            with ⟨last, there⟩
        exact ⟨last, Fallible.bind_ok_iff.mpr ⟨_, there, rfl⟩⟩

theorem processValues_iff (made : forall state path, outside.mkdirAll state path = .ok ()) :
    forall (values : List Value) (currentPath : String) (state : State) (after : List Value),
      (Exists fun last => Download.processValues outside shockClient basePath currentPath
          values state =
          .ok (after, last, 0)) ↔
        (forall node, node ∈ nodesOfValues values -> Quiet node) ∧ after = leaveValues values
  | [], currentPath, state, after => by
      rw [Download.processValues, nodesOfValues, leaveValues]
      constructor
      · rintro ⟨last, done⟩
        cases done
        exact ⟨List.forall_mem_nil _, rfl⟩
      · rintro ⟨_, rfl⟩
        exact ⟨state, rfl⟩
  | value :: rest, currentPath, state, after => by
      rw [Download.processValues, nodesOfValues, leaveValues, List.forall_mem_append]
      constructor
      · rintro ⟨last, done⟩
        rcases Fallible.bind_ok_iff.mp done with ⟨⟨first, middle, one⟩, here, more⟩
        rcases Fallible.bind_ok_iff.mp more with ⟨⟨others, final, count⟩, there, same⟩
        have counts : one + count = 0 := congrArg (·.2.2) (Except.ok.inj same)
        rcases Nat.add_eq_zero_iff.mp counts with ⟨rfl, rfl⟩
        rcases (processIOData_iff made value currentPath state first).mp ⟨_, here⟩ with ⟨quiet, rfl⟩
        rcases (processValues_iff made rest currentPath middle others).mp ⟨_, there⟩
            with ⟨every, rfl⟩
        exact ⟨⟨quiet, every⟩, (congrArg (·.1) (Except.ok.inj same)).symm⟩
      · rintro ⟨⟨quiet, every⟩, rfl⟩
        rcases (processIOData_iff made value currentPath state _).mpr ⟨quiet, rfl⟩ with
            ⟨middle, here⟩
        rcases (processValues_iff made rest currentPath middle _).mpr ⟨every, rfl⟩
            with ⟨last, there⟩
        refine ⟨last, Fallible.bind_ok_iff.mpr ⟨_, here, ?_⟩⟩
        exact Fallible.bind_ok_iff.mpr ⟨_, there, rfl⟩

theorem processFields_iff (made : forall state path, outside.mkdirAll state path = .ok ()) :
    forall (fields : List (String × Value)) (currentPath : String) (state : State)
        (after : List (String × Value)),
      (Exists fun last => Download.processFields outside shockClient basePath currentPath
          fields state =
          .ok (after, last, 0)) ↔
        (forall node, node ∈ nodesOfFields fields -> Quiet node) ∧ after = leaveFields fields
  | [], currentPath, state, after => by
      rw [Download.processFields, nodesOfFields, leaveFields]
      constructor
      · rintro ⟨last, done⟩
        cases done
        exact ⟨List.forall_mem_nil _, rfl⟩
      · rintro ⟨_, rfl⟩
        exact ⟨state, rfl⟩
  | (key, value) :: rest, currentPath, state, after => by
      rw [Download.processFields, nodesOfFields, leaveFields, List.forall_mem_append]
      constructor
      · rintro ⟨last, done⟩
        rcases Fallible.bind_ok_iff.mp done with ⟨⟨first, middle, one⟩, here, more⟩
        rcases Fallible.bind_ok_iff.mp more with ⟨⟨others, final, count⟩, there, same⟩
        have counts : one + count = 0 := congrArg (·.2.2) (Except.ok.inj same)
        rcases Nat.add_eq_zero_iff.mp counts with ⟨rfl, rfl⟩
        rcases (processIOData_iff made value currentPath state first).mp ⟨_, here⟩ with ⟨quiet, rfl⟩
        rcases (processFields_iff made rest currentPath middle others).mp ⟨_, there⟩
            with ⟨every, rfl⟩
        exact ⟨⟨quiet, every⟩, (congrArg (·.1) (Except.ok.inj same)).symm⟩
      · rintro ⟨⟨quiet, every⟩, rfl⟩
        rcases (processIOData_iff made value currentPath state _).mpr ⟨quiet, rfl⟩ with
            ⟨middle, here⟩
        rcases (processFields_iff made rest currentPath middle _).mpr ⟨every, rfl⟩
            with ⟨last, there⟩
        refine ⟨last, Fallible.bind_ok_iff.mpr ⟨_, here, ?_⟩⟩
        exact Fallible.bind_ok_iff.mpr ⟨_, there, rfl⟩

end

end

end Listings
end Cache
end Awe
