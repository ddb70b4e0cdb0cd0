import Mathlib.Data.List.AList

namespace Awe
namespace Lib

/-!
# Go maps and stored objects

A Go map is a finite association without an order.  We use Mathlib's
`AList`, whose keys are distinct by construction.  `range` over a Go map may
visit the entries in any order, so a function whose result depends on that
order takes the visited list as an argument, and `Listing` says which lists
a `range` can produce.
-/

/-- The type `map[K]V`. -/
abbrev GoMap (K V : Type) := AList (fun _ : K => V)

namespace GoMap

variable {K V : Type} [DecidableEq K]

/-- The values of a map, in the order of its representation. -/
def values (m : GoMap K V) : List V :=
  m.entries.map Sigma.snd

/-- A list of values that `range` over the map may visit. Go visits a map in another order each
time, so a result about a loop is one about every listing. -/
def Listing (m : GoMap K V) (listing : List V) : Prop :=
  listing.Perm m.values

theorem mem_values {m : GoMap K V} {value : V} :
    value ∈ m.values ↔ Exists fun key => m.lookup key = some value := by
  unfold values
  rw [List.mem_map]
  constructor
  · rintro ⟨⟨key, stored⟩, member, rfl⟩
    exact ⟨key, AList.mem_lookup_iff.mpr member⟩
  · rintro ⟨key, found⟩
    exact ⟨⟨key, value⟩, AList.mem_lookup_iff.mp found, rfl⟩

theorem Listing.mem {m : GoMap K V} {listing : List V} (order : Listing m listing) {value : V} :
    value ∈ listing ↔ Exists fun key => m.lookup key = some value :=
  order.mem_iff.trans mem_values

theorem lookup_insert_if (m : GoMap K V) (key other : K) (value : V) :
    AList.lookup other (AList.insert key value m) =
      if other = key then some value else m.lookup other := by
  split
  · next same => rw [same, AList.lookup_insert]
  · next different => exact AList.lookup_insert_ne different

theorem lookup_erase_if (m : GoMap K V) (key other : K) :
    AList.lookup other (AList.erase key m) =
      if other = key then none else m.lookup other := by
  split
  · next same => rw [same, AList.lookup_erase]
  · next different => exact AList.lookup_erase_ne different

theorem lookup_insert_eq_some {m : GoMap K V} {key other : K} {value found : V} :
    AList.lookup other (AList.insert key value m) = some found ↔
      (other = key ∧ found = value) ∨ (other ≠ key ∧ m.lookup other = some found) := by
  rw [lookup_insert_if]
  by_cases same : other = key
  · simp [same, eq_comm]
  · simp [same]

theorem lookup_erase_eq_some {m : GoMap K V} {key other : K} {found : V} :
    AList.lookup other (AList.erase key m) = some found ↔
      other ≠ key ∧ m.lookup other = some found := by
  rw [lookup_erase_if]
  by_cases same : other = key <;> simp [same]

/-- A loop that writes entries into a map, one after the other. A later entry replaces an earlier
one under the same key. -/
def insertAll (m : GoMap K V) (entries : List (K × V)) : GoMap K V :=
  entries.foldl (fun map entry => AList.insert entry.1 entry.2 map) m

theorem insertAll_cons (m : GoMap K V) (entry : K × V) (entries : List (K × V)) :
    insertAll m (entry :: entries) = insertAll (AList.insert entry.1 entry.2 m) entries :=
  rfl

theorem lookup_insertAll_of_notMem (m : GoMap K V) {entries : List (K × V)} {key : K}
    (missing : key ∉ entries.map Prod.fst) : (insertAll m entries).lookup key = m.lookup key := by
  induction entries generalizing m with
  | nil => rfl
  | cons entry rest inductionHypothesis =>
      rw [List.map_cons, List.mem_cons, not_or] at missing
      rw [insertAll_cons, inductionHypothesis _ missing.2, lookup_insert_if, if_neg missing.1]

/-- Where no key is written twice, every entry is found. -/
theorem lookup_insertAll_of_mem (m : GoMap K V) {entries : List (K × V)}
    (once : (entries.map Prod.fst).Nodup) {key : K} {value : V} (member : (key, value) ∈ entries) :
    (insertAll m entries).lookup key = some value := by
  induction entries generalizing m with
  | nil => cases member
  | cons entry rest inductionHypothesis =>
      rw [List.map_cons, List.nodup_cons] at once
      rw [insertAll_cons]
      rcases List.mem_cons.mp member with rfl | later
      · rw [lookup_insertAll_of_notMem _ once.1, lookup_insert_if, if_pos rfl]
      · exact inductionHypothesis _ once.2 later

/-- A key that is written, or was there, is there afterwards. -/
theorem isSome_lookup_insertAll (m : GoMap K V) {entries : List (K × V)} {key : K}
    (there : key ∈ entries.map Prod.fst ∨ (m.lookup key).isSome) :
    ((insertAll m entries).lookup key).isSome := by
  induction entries generalizing m with
  | nil => exact there.resolve_left (by simp)
  | cons entry rest inductionHypothesis =>
      rw [insertAll_cons]
      apply inductionHypothesis
      rw [lookup_insert_if]
      by_cases same : key = entry.1
      · rw [if_pos same]
        exact Or.inr rfl
      · rw [if_neg same]
        refine there.imp_left fun member => ?_
        exact (List.mem_cons.mp member).resolve_left same

theorem lookup_of_entries_nil {m : GoMap K V} (empty : m.entries = []) (key : K) :
    m.lookup key = none := by
  have isEmpty : m = ∅ := AList.ext empty
  rw [isEmpty, AList.lookup_empty]

/-- A loop that deletes keys from a map. -/
def eraseAll (m : GoMap K V) (keys : List K) : GoMap K V :=
  keys.foldl (fun map key => AList.erase key map) m

theorem lookup_eraseAll (m : GoMap K V) (keys : List K) (key : K) :
    (eraseAll m keys).lookup key = if key ∈ keys then none else m.lookup key := by
  induction keys generalizing m with
  | nil => rfl
  | cons first rest inductionHypothesis =>
      change (eraseAll (AList.erase first m) rest).lookup key = _
      rw [inductionHypothesis, lookup_erase_if]
      by_cases later : key ∈ rest
      · rw [if_pos later, if_pos (List.mem_cons_of_mem first later)]
      · rw [if_neg later]
        by_cases same : key = first
        · rw [if_pos same, if_pos (by rw [same]; exact List.mem_cons_self)]
        · rw [if_neg same, if_neg fun member => (List.mem_cons.mp member).elim same later]

end GoMap

end Lib
end Awe
