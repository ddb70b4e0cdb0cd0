import Awe.Lib.Path

namespace Awe
namespace Lib
namespace Path

/-!
# Absolute paths

A clean absolute path is a slash and plain elements with slashes between them.
The functions of `path` are functions of the elements here: `Join` adds elements
at the end, or takes them away for each `..`; `Base` is the last element and
`Dir` leaves it out.

A program that works in one directory may store a path relative to it, by
cutting the text of the directory off in front.  The path is found again under
the directory exactly if it was there in the first place, although the text of
the directory may also stand in front of a path that is elsewhere.
-/

/-- The absolute path with these elements. -/
def absolutePath (elements : List String) : String :=
  "/" ++ join elements

/-- Each element names something, which leaves out the empty one and the two dots. -/
def AllPlain (elements : List String) : Prop :=
  forall element, element ∈ elements -> Plain element

theorem AllPlain.append {front back : List String} (first : AllPlain front)
    (second : AllPlain back) :
    AllPlain (front ++ back) :=
  fun element member => (List.mem_append.mp member).elim (first element) (second element)

theorem AllPlain.concat {elements : List String} (plain : AllPlain elements) {name : String}
    (named : Plain name) :
    AllPlain (elements ++ [name]) :=
  plain.append (List.forall_mem_singleton.mpr named)

theorem AllPlain.reverse {elements : List String} (plain : AllPlain elements) :
    AllPlain elements.reverse :=
  fun element member => plain element (List.mem_reverse.mp member)

/-- A clean absolute path. Paths that were joined and cleaned all have this form, and on it two
paths can be compared element by element. -/
def Absolute (text : String) : Prop :=
  Exists fun elements => AllPlain elements ∧ text = absolutePath elements

/-- The elements on the stack of `path.Clean`, top first, after the elements of a text have been
pushed. A relative path does not start from nothing when it is joined: it goes on where the
directory has left the stack. -/
def pushAll (stack : List String) (text : String) : List String :=
  (split text).foldl (pushElement true) stack

theorem split_absolutePath {elements : List String} (plain : AllPlain elements) :
    split (absolutePath elements) = "" :: (if elements = [] then [""] else elements) := by
  have splits : split (join elements) = if elements = [] then [""] else elements := by
    by_cases bare : elements = []
    · rw [if_pos bare, bare]
      decide
    · rw [if_neg bare, split_plain plain bare]
  have parts := split_append "" (join elements)
  rw [String.empty_append, splits] at parts
  exact parts

theorem absolutePath_injective {first second : List String} (firstPlain : AllPlain first)
    (secondPlain : AllPlain second) (same : absolutePath first = absolutePath second) :
    first = second := by
  have splits := congrArg split same
  rw [split_absolutePath firstPlain, split_absolutePath secondPlain, List.cons.injEq] at splits
  have named : forall {elements : List String}, AllPlain elements -> elements ≠ [""] := by
    intro elements plain single
    exact (plain "" (single ▸ List.mem_singleton_self _)).1 rfl
  by_cases firstBare : first = []
  · by_cases secondBare : second = []
    · rw [firstBare, secondBare]
    · rw [if_pos firstBare, if_neg secondBare] at splits
      exact absurd splits.2.symm (named secondPlain)
  · by_cases secondBare : second = []
    · rw [if_neg firstBare, if_pos secondBare] at splits
      exact absurd splits.2 (named firstPlain)
    · rw [if_neg firstBare, if_neg secondBare] at splits
      exact splits.2

theorem absolutePath_ne_empty (elements : List String) : absolutePath elements ≠ "" := by
  intro empty
  have letters := congrArg String.toList empty
  rw [absolutePath, String.toList_append] at letters
  cases letters

theorem absolutePath_rooted (elements : List String) :
    hasPrefix (absolutePath elements) "/" = true :=
  hasPrefix_self "/" (join elements)

theorem pushElement_plain {stack : List String} (plain : AllPlain stack) {element : String}
    (whole : Whole element) :
    AllPlain (pushElement true stack element) := by
  unfold pushElement
  by_cases ignored : element = "" ∨ element = "."
  · rw [if_pos ignored]
    exact plain
  · rw [if_neg ignored]
    push Not at ignored
    by_cases up : element = ".."
    · rw [if_pos up]
      cases stack with
      | nil => exact plain
      | cons top rest =>
          dsimp only
          rw [if_neg (plain top List.mem_cons_self).2.2.1]
          exact fun other member => plain other (List.mem_cons_of_mem _ member)
    · rw [if_neg up]
      exact List.forall_mem_cons.mpr ⟨⟨ignored.1, ignored.2, up, whole⟩, plain⟩

theorem pushAll_allPlain {stack : List String} (plain : AllPlain stack) (text : String) :
    AllPlain (pushAll stack text) := by
  have pushed : forall (elements : List String) (stack : List String), AllPlain stack ->
      (forall element, element ∈ elements -> Whole element) ->
        AllPlain (elements.foldl (pushElement true) stack) := by
    intro elements
    induction elements with
    | nil => exact fun _ plain _ => plain
    | cons element rest inductionHypothesis =>
        intro stack plain whole
        exact inductionHypothesis _ (pushElement_plain plain (whole element List.mem_cons_self))
          (fun other member => whole other (List.mem_cons_of_mem _ member))
  exact pushed _ stack plain (fun _ member => whole_of_mem_split member)

/-- Plain elements are all pushed. -/
theorem pushAll_plain (stack : List String) {text : String} (plain : AllPlain (split text)) :
    pushAll stack text = (split text).reverse ++ stack :=
  foldl_push_plain plain true stack

theorem pushAll_name (stack : List String) {name : String} (plain : Plain name) :
    pushAll stack name = name :: stack := by
  have single := split_whole plain.2.2.2
  have pushed := @pushAll_plain stack name
      (by rw [single]; exact List.forall_mem_singleton.mpr plain)
  rw [pushed, single, List.reverse_singleton, List.singleton_append]

theorem clean_absolute {text : String} (rooted : hasPrefix text "/" = true) :
    clean text = absolutePath (pushAll [] text).reverse := by
  have nonempty : text ≠ "" := by
    intro empty
    rw [empty] at rooted
    exact absurd rooted (by decide)
  rw [clean, if_neg nonempty]
  dsimp only
  rw [if_pos rooted, rooted]
  rfl

theorem joinPath_absolutePath {elements : List String} (plain : AllPlain elements) (name : String) :
    joinPath (absolutePath elements) name = absolutePath
        (pushAll elements.reverse name).reverse := by
  have joined : join [absolutePath elements, name] = absolutePath elements ++ "/" ++ name := by
    have parts := @join_append [absolutePath elements] [name] (List.cons_ne_nil _ _)
        (List.cons_ne_nil _ _)
    rwa [join_singleton, join_singleton] at parts
  have rooted : hasPrefix (absolutePath elements ++ "/" ++ name) "/" = true :=
    hasPrefix_append (hasPrefix_append (absolutePath_rooted elements) "/") name
  have stack : pushAll [] (absolutePath elements ++ "/" ++ name) =
      pushAll elements.reverse name := by
    have start : (split (absolutePath elements)).foldl (pushElement true) [] =
        elements.reverse := by
      rw [split_absolutePath plain]
      by_cases bare : elements = []
      · rw [if_pos bare, bare]
        rfl
      · rw [if_neg bare]
        exact (foldl_push_plain plain true []).trans (List.append_nil _)
    rw [pushAll, split_append, List.foldl_append, start, pushAll]
  rw [joinPath, if_pos (absolutePath_ne_empty elements), joined, clean_absolute rooted, stack]

/-- Everything that is joined to a clean absolute path gives one. -/
theorem Absolute.under {directory : String} (absolute : Absolute directory) (name : String) :
    Absolute (joinPath directory name) := by
  rcases absolute with ⟨elements, plain, rfl⟩
  exact ⟨_, (pushAll_allPlain plain.reverse name).reverse, joinPath_absolutePath plain name⟩

theorem joinPath_name {elements : List String} (plain : AllPlain elements) {name : String}
    (named : Plain name) :
    joinPath (absolutePath elements) name = absolutePath (elements ++ [name]) := by
  rw [joinPath_absolutePath plain, pushAll_name _ named, List.reverse_cons, List.reverse_reverse]

/-- The slash alone, and everything else that is cleaned away. -/
theorem joinPath_slash {elements : List String} (plain : AllPlain elements) :
    joinPath (absolutePath elements) "/" = absolutePath elements := by
  have nothing : pushAll elements.reverse "/" = elements.reverse := by
    have blanks : split "/" = ["", ""] := by decide
    rw [pushAll, blanks]
    rfl
  rw [joinPath_absolutePath plain, nothing, List.reverse_reverse]

theorem base_absolutePath {elements : List String} (plain : AllPlain elements) :
    base (absolutePath elements) = elements.getLastD "/" := by
  rw [base, if_neg (absolutePath_ne_empty elements), split_absolutePath plain]
  rcases List.eq_nil_or_concat' elements with bare | ⟨front, last, rfl⟩
  · rw [bare]
    rfl
  · have named := plain last (List.mem_append_right _ (List.mem_singleton_self last))
    rw [if_neg (by simp), List.reverse_cons, List.reverse_append, List.reverse_singleton,
        List.append_assoc,
      List.singleton_append, List.dropWhile_cons_of_neg (by simpa using named.1)]
    simp

theorem dir_absolutePath {elements : List String} (plain : AllPlain elements) {name : String}
    (named : Plain name) :
    dir (absolutePath (elements ++ [name])) = absolutePath elements := by
  have splits : split (absolutePath (elements ++ [name])) = "" :: (elements ++ [name]) := by
    rw [split_absolutePath (plain.concat named), if_neg (by simp)]
  have front : join (("" :: (elements ++ [name])).dropLast ++ [""]) = absolutePath elements ++
      (if elements = [] then "" else "/") := by
    have without : ("" :: (elements ++ [name])).dropLast = "" :: elements := by
      rw [← List.cons_append, List.dropLast_concat]
    rw [without]
    by_cases bare : elements = []
    · rw [if_pos bare, bare]
      decide
    · rw [if_neg bare, List.cons_append]
      have outer := @join_append [""] (elements ++ [""]) (List.cons_ne_nil _ _) (by simp)
      have inner := @join_append elements [""] bare (List.cons_ne_nil _ _)
      rw [join_singleton, String.append_empty] at inner
      rw [join_singleton, inner, String.empty_append, List.singleton_append] at outer
      rw [outer, absolutePath, String.append_assoc]
  have shape : dir (absolutePath (elements ++ [name])) =
      clean (join (("" :: (elements ++ [name])).dropLast ++ [""])) := by
    rw [dir, splits]
    rcases List.exists_cons_of_ne_nil (show elements ++ [name] ≠ [] by simp) with
        ⟨first, rest, same⟩
    rw [same]
  rw [shape, front, clean_absolute (hasPrefix_append (absolutePath_rooted elements) _)]
  have stack : pushAll [] (absolutePath elements ++ (if elements = [] then "" else "/")) =
      elements.reverse := by
    by_cases bare : elements = []
    · rw [if_pos bare, bare]
      decide
    · rw [if_neg bare]
      have trailing := split_append (absolutePath elements) ""
      rw [String.append_empty, split_absolutePath plain, if_neg bare] at trailing
      rw [pushAll, trailing, List.foldl_append, List.foldl_cons]
      have pushed : elements.foldl (pushElement true) (pushElement true [] "") = elements.reverse :=
        (foldl_push_plain plain true []).trans (List.append_nil _)
      rw [pushed]
      rfl
  rw [stack, List.reverse_reverse]

/-! ## Relative to a directory -/

/-- The path without the text of the directory in front of it. The code cuts by length and does
not ask whether the directory is in front. -/
def relativeTo (directory path : String) : String :=
  trimPrefix (trimPrefix path directory) "/"

theorem trimPrefix_slash {elements : List String} (plain : AllPlain elements) :
    trimPrefix (join elements) "/" = join elements := by
  by_cases bare : elements = []
  · rw [bare]
    decide
  · rcases List.exists_cons_of_ne_nil bare with ⟨first, rest, rfl⟩
    have splits := split_plain plain bare
    exact if_neg (Bool.eq_false_iff.mp
        (unrooted_of_split splits (plain first List.mem_cons_self).1).2)

/-- A path in the directory is stored as what follows the directory. -/
theorem relativeTo_under {front rest : List String} (plain : AllPlain rest) :
    relativeTo (absolutePath front) (absolutePath (front ++ rest)) = join rest := by
  unfold relativeTo
  by_cases bare : front = []
  · have root : absolutePath [] = "/" := by decide
    rw [bare, List.nil_append, root, absolutePath, trimPrefix_append]
    exact trimPrefix_slash plain
  · by_cases ends : rest = []
    · have whole := trimPrefix_append (absolutePath front) ""
      rw [String.append_empty] at whole
      rw [ends, List.append_nil, whole]
      decide
    · have further : absolutePath (front ++ rest) = absolutePath front ++ ("/" ++ join rest) := by
        rw [absolutePath, join_append bare ends, absolutePath, String.append_assoc,
            String.append_assoc]
      rw [further, trimPrefix_append, trimPrefix_append]

theorem joinPath_relativeTo {front rest : List String} (frontPlain : AllPlain front)
    (restPlain : AllPlain rest) :
    joinPath (absolutePath front) (relativeTo (absolutePath front) (absolutePath (front ++ rest))) =
      absolutePath (front ++ rest) := by
  have pushed : pushAll front.reverse (join rest) = rest.reverse ++ front.reverse := by
    by_cases ends : rest = []
    · have blank : split (join []) = [""] := by decide
      rw [pushAll, ends, blank]
      rfl
    · have splits := split_plain restPlain ends
      rw [pushAll_plain _ (splits.symm ▸ restPlain), splits]
  rw [relativeTo_under restPlain, joinPath_absolutePath frontPlain, pushed, List.reverse_append,
      List.reverse_reverse,
    List.reverse_reverse]

theorem length_split (text : String) : (split text).length = text.toList.count '/' + 1 := by
  rw [split, List.length_map]
  induction text.toList with
  | nil => rfl
  | cons letter rest inductionHypothesis =>
      rw [List.splitOn_cons_eq_if_modifyHead]
      by_cases slash : letter = '/'
      · rw [if_pos (by simpa using slash), List.length_cons, inductionHypothesis, slash,
          List.count_cons_self]
      · rw [if_neg (by simpa using slash), List.length_modifyHead, inductionHypothesis,
          List.count_cons_of_ne slash]

theorem length_split_append (front back : String) :
    (split (front ++ back)).length + 1 = (split front).length + (split back).length := by
  rw [length_split, length_split, length_split, String.toList_append, List.count_append]
  omega

/-- An element adds at most itself. -/
theorem length_pushElement_le (stack : List String) (element : String) :
    (pushElement true stack element).length ≤ stack.length + 1 := by
  unfold pushElement
  by_cases ignored : element = "" ∨ element = "."
  · rw [if_pos ignored]
    exact Nat.le_succ _
  · rw [if_neg ignored]
    by_cases up : element = ".."
    · rw [if_pos up]
      cases stack with
      | nil => exact Nat.zero_le _
      | cons top rest =>
          dsimp only
          split_ifs
          · exact Nat.le_refl _
          · exact Nat.le_trans (Nat.le_succ _) (Nat.le_succ _)
    · rw [if_neg up]
      exact Nat.le_refl _

theorem length_foldl_pushElement_le (elements : List String) (stack : List String) :
    (elements.foldl (pushElement true) stack).length ≤ stack.length + elements.length := by
  induction elements generalizing stack with
  | nil => exact Nat.le_refl _
  | cons element rest inductionHypothesis =>
      have here := length_pushElement_le stack element
      have later := inductionHypothesis (pushElement true stack element)
      rw [List.foldl_cons, List.length_cons]
      omega

/-- Without a `..` nothing is taken away. -/
theorem suffix_foldl_pushElement {elements : List String} (kept : ".." ∉ elements)
    (stack : List String) :
    stack <:+ elements.foldl (pushElement true) stack := by
  induction elements generalizing stack with
  | nil => exact List.suffix_rfl
  | cons element rest inductionHypothesis =>
      have down : ".." ≠ element := fun same => kept (same ▸ List.mem_cons_self)
      have here : stack <:+ pushElement true stack element := by
        unfold pushElement
        rw [if_neg down.symm]
        split_ifs
        · exact List.suffix_rfl
        · exact List.suffix_cons _ _
      exact here.trans (inductionHypothesis (fun member => kept (List.mem_cons_of_mem _ member)) _)

/-- Where there is something to take away, a `..` leaves two elements less than there
could be. -/
theorem length_foldl_pushElement_up {elements : List String} (up : ".." ∈ elements)
    {stack : List String} (plain : AllPlain stack) (nonempty : stack ≠ [])
    (whole : forall element, element ∈ elements -> Whole element) :
    (elements.foldl (pushElement true) stack).length + 2 ≤ stack.length + elements.length := by
  induction elements generalizing stack with
  | nil => exact absurd up List.not_mem_nil
  | cons element rest inductionHypothesis =>
      rw [List.foldl_cons, List.length_cons]
      by_cases here : element = ".."
      · cases stack with
        | nil => exact absurd rfl nonempty
        | cons top below =>
            have popped : pushElement true (top :: below) element = below := by
              unfold pushElement
              rw [here, if_neg (by decide), if_pos rfl]
              dsimp only
              rw [if_neg (plain top List.mem_cons_self).2.2.1]
            have later := length_foldl_pushElement_le rest below
            rw [popped, List.length_cons]
            omega
      · have grows : stack <:+ pushElement true stack element := by
          have single := @suffix_foldl_pushElement [element]
            (fun member => here (List.mem_singleton.mp member).symm) stack
          exact single
        have later := inductionHypothesis ((List.mem_cons.mp up).resolve_left (Ne.symm here))
          (pushElement_plain plain (whole element List.mem_cons_self))
          (fun bare => nonempty (List.suffix_nil.mp (bare ▸ grows)))
          (fun other member => whole other (List.mem_cons_of_mem _ member))
        have added := length_pushElement_le stack element
        omega

/-- What is found again under the directory was there.  The text of the directory
may be in front of the path all the same, as that of `/tmp/a` is in front of
`/tmp/a..`, but then a `..` would take something away. -/
theorem prefix_of_joinPath_relativeTo {front elements : List String} (frontPlain : AllPlain front)
    (plain : AllPlain elements)
    (found : joinPath (absolutePath front)
    (relativeTo (absolutePath front) (absolutePath elements)) =
      absolutePath elements) : front <+: elements := by
  rw [joinPath_absolutePath frontPlain] at found
  have same := absolutePath_injective (pushAll_allPlain frontPlain.reverse _).reverse plain found
  by_cases bare : front = []
  · rw [bare]
    exact List.nil_prefix
  by_cases up : ".." ∈ split (relativeTo (absolutePath front) (absolutePath elements))
  · have nonempty : front.reverse ≠ [] := fun vanished => bare (List.reverse_eq_nil_iff.mp vanished)
    have short := length_foldl_pushElement_up up frontPlain.reverse nonempty
        (fun _ member => whole_of_mem_split member)
    have counted : (pushAll front.reverse
        (relativeTo (absolutePath front) (absolutePath elements))).length =
        elements.length := by
      rw [← List.length_reverse, same]
    rw [← pushAll, counted, List.length_reverse] at short
    unfold relativeTo at up short
    by_cases starts : hasPrefix (absolutePath elements) (absolutePath front) = true
    · rcases List.isPrefixOf_iff_prefix.mp starts with ⟨letters, parts⟩
      have further : absolutePath elements = absolutePath front ++ String.ofList letters := by
        apply String.toList_injective
        rw [String.toList_append, String.toList_ofList, parts]
      have sum := length_split_append (absolutePath front) (String.ofList letters)
      rw [← further, split_absolutePath plain, split_absolutePath frontPlain, if_neg bare] at sum
      rw [further, trimPrefix_append] at short
      have cut : (split (trimPrefix (String.ofList letters) "/")).length ≤
          (split (String.ofList letters)).length := by
        by_cases slash : hasPrefix (String.ofList letters) "/" = true
        · rcases List.isPrefixOf_iff_prefix.mp slash with ⟨others, starts⟩
          have begins : String.ofList letters = "/" ++ String.ofList others := by
            apply String.toList_injective
            exact starts.symm.trans (by rw [String.toList_append, @String.toList_ofList others])
          have sum := length_split_append "/" (String.ofList others)
          have two : (split "/").length = 2 := by decide
          rw [begins, trimPrefix_append]
          omega
        · rw [trimPrefix, if_neg slash]
      have positive : 1 ≤ front.length := List.length_pos_iff.mpr bare
      by_cases root : elements = []
      · have letters := congrArg String.toList further
        have slash : absolutePath [] = "/" := by decide
        rw [root, slash, absolutePath, String.toList_append, String.toList_append] at letters
        have tails := (List.append_eq_nil_iff.mp (List.cons.inj letters).2.symm).1
        exact absurd (String.toList_injective (tails.trans String.toList_empty.symm))
            (join_plain_ne_empty frontPlain bare)
      · rw [if_neg root, List.length_cons, List.length_cons] at sum
        omega
    · have untouched : trimPrefix (absolutePath elements) (absolutePath front) = "/" ++
        join elements := if_neg starts
      rw [untouched, trimPrefix_append] at up
      by_cases root : elements = []
      · rw [root] at up
        exact absurd up (by decide)
      · rw [split_plain plain root] at up
        exact absurd rfl (plain _ up).2.2.1
  · have suffix := suffix_foldl_pushElement up front.reverse
    rw [← pushAll] at suffix
    rw [← same]
    have turned := List.reverse_prefix.mpr suffix
    rwa [List.reverse_reverse] at turned

/-! ## Above and below -/

/-- The elements that `path.Clean` looks at. -/
def elementsOf (text : String) : List String :=
  (split text).filter fun element => decide (element ≠ "")

/-- The first path is the second one or a directory above it. These are the paths that have to be
directories for the first one to be there. -/
def OnTheWay (first second : String) : Prop :=
  hasPrefix first "/" = hasPrefix second "/" ∧ elementsOf first <+: elementsOf second

instance (first second : String) : Decidable (OnTheWay first second) :=
  inferInstanceAs (Decidable (hasPrefix first "/" = hasPrefix second "/" ∧
      elementsOf first <+: elementsOf second))

theorem OnTheWay.trans {first second third : String} (before : OnTheWay first second)
    (after : OnTheWay second third) :
    OnTheWay first third :=
  ⟨before.1.trans after.1, before.2.trans after.2⟩

theorem onTheWay_self (path : String) : OnTheWay path path :=
  ⟨rfl, List.prefix_rfl⟩

theorem elementsOf_absolutePath {elements : List String} (plain : AllPlain elements) :
    elementsOf (absolutePath elements) = elements := by
  have kept : elements.filter (fun element => decide (element ≠ "")) = elements :=
    List.filter_eq_self.mpr fun element member => decide_eq_true (plain element member).1
  rw [elementsOf, split_absolutePath plain]
  by_cases bare : elements = []
  · rw [if_pos bare, bare]
    decide
  · rw [if_neg bare, List.filter_cons_of_neg (by decide), kept]

theorem onTheWay_absolutePath {first second : List String} (firstPlain : AllPlain first)
    (secondPlain : AllPlain second) :
    OnTheWay (absolutePath first) (absolutePath second) ↔ first <+: second := by
  rw [OnTheWay, elementsOf_absolutePath firstPlain, elementsOf_absolutePath secondPlain,
      absolutePath_rooted,
    absolutePath_rooted]
  exact and_iff_right rfl

section

variable {directory : String} (absolute : Absolute directory) {name : String} (named : Plain name)
include absolute named

theorem Absolute.dir_join : dir (joinPath directory name) = directory := by
  rcases absolute with ⟨elements, plain, rfl⟩
  rw [joinPath_name plain named, dir_absolutePath plain named]

theorem Absolute.base_join : base (joinPath directory name) = name := by
  rcases absolute with ⟨elements, plain, rfl⟩
  rw [joinPath_name plain named, base_absolutePath (plain.concat named), List.getLastD_concat]

/-- On the way to a name in a directory are the path itself and what is on the way to
the directory. -/
theorem Absolute.onTheWay_join {path : String} (other : Absolute path) :
    OnTheWay path (joinPath directory name) ↔ path = joinPath directory name ∨
    OnTheWay path directory := by
  rcases absolute with ⟨elements, plain, rfl⟩
  rcases other with ⟨others, otherPlain, rfl⟩
  rw [joinPath_name plain named, onTheWay_absolutePath otherPlain (plain.concat named),
    onTheWay_absolutePath otherPlain plain, List.prefix_concat_iff]
  apply or_congr_left
  exact ⟨congrArg absolutePath, absolutePath_injective otherPlain (plain.concat named)⟩

/-- A name in a directory is not on the way to the directory. -/
theorem Absolute.not_onTheWay_join : ¬ OnTheWay (joinPath directory name) directory := by
  rcases absolute with ⟨elements, plain, rfl⟩
  rw [joinPath_name plain named, onTheWay_absolutePath (plain.concat named) plain]
  intro shorter
  have bound := shorter.length_le
  rw [List.length_append, List.length_singleton] at bound
  omega

theorem Absolute.mem_of_onTheWay_join {path : String}
    (onTheWay : OnTheWay (joinPath directory name) path) :
    name ∈ elementsOf path := by
  rcases absolute with ⟨elements, plain, rfl⟩
  have start := onTheWay.2
  rw [joinPath_name plain named, elementsOf_absolutePath (plain.concat named)] at start
  exact start.subset (List.mem_append_right _ (List.mem_singleton_self name))

theorem Absolute.onTheWay_of_join : OnTheWay directory (joinPath directory name) :=
  (absolute.onTheWay_join named absolute).mpr (Or.inr (onTheWay_self directory))

end

theorem Absolute.onTheWay_antisymm {first second : String} (absolute : Absolute first)
    (other : Absolute second) (down : OnTheWay first second) (up : OnTheWay second first) :
    first = second := by
  rcases absolute with ⟨elements, plain, rfl⟩
  rcases other with ⟨others, otherPlain, rfl⟩
  rw [onTheWay_absolutePath plain otherPlain] at down
  rw [onTheWay_absolutePath otherPlain plain] at up
  exact congrArg absolutePath (down.eq_of_length_le up.length_le)

/-- The end of a clean absolute path names something, but for the root. -/
theorem Absolute.plain_base {path : String} (absolute : Absolute path) (below : path ≠ "/") :
    Plain (base path) := by
  rcases absolute with ⟨elements, plain, rfl⟩
  rw [base_absolutePath plain]
  rcases List.eq_nil_or_concat' elements with bare | ⟨front, last, rfl⟩
  · rw [bare] at below
    exact absurd (by decide) below
  · rw [List.getLastD_concat]
    exact plain last (List.mem_append_right _ (List.mem_singleton_self last))

theorem Absolute.join_slash {directory : String} (absolute : Absolute directory) :
    joinPath directory "/" = directory := by
  rcases absolute with ⟨elements, plain, rfl⟩
  exact joinPath_slash plain

/-- A path is found again under a directory exactly if it is below it. -/
theorem Absolute.joinPath_relativeTo_iff {directory path : String} (absolute : Absolute directory)
    (other : Absolute path) :
    joinPath directory (relativeTo directory path) = path ↔ OnTheWay directory path := by
  rcases absolute with ⟨elements, plain, rfl⟩
  rcases other with ⟨others, otherPlain, rfl⟩
  rw [onTheWay_absolutePath plain otherPlain]
  constructor
  · exact prefix_of_joinPath_relativeTo plain otherPlain
  · rintro ⟨rest, rfl⟩
    exact joinPath_relativeTo plain fun element member =>
        otherPlain element (List.mem_append_right _ member)

/-- A slash at the end is put away, and one is put back at the root only. -/
theorem Absolute.join_trimSuffix {directory : String} (absolute : Absolute directory) :
    joinPath (trimSuffix directory "/") "/" = directory := by
  rcases absolute with ⟨elements, plain, rfl⟩
  rcases List.eq_nil_or_concat' elements with bare | ⟨front, last, rfl⟩
  · rw [bare]
    decide
  · have named := plain last (List.mem_append_right _ (List.mem_singleton_self last))
    have ends : Exists fun start => absolutePath (front ++ [last]) = start ++ last := by
      by_cases single : front = []
      · exact ⟨"/", by rw [single, List.nil_append, absolutePath, join_singleton]⟩
      · refine ⟨"/" ++ (join front ++ "/"), ?_⟩
        rw [absolutePath, join_append single (List.cons_ne_nil _ _), join_singleton]
        simp only [String.append_assoc]
    rcases ends with ⟨start, ends⟩
    have kept : trimSuffix (absolutePath (front ++ [last])) "/" = absolutePath
        (front ++ [last]) := by
      rw [trimSuffix, ends, if_neg]
      exact Bool.eq_false_iff.mp (hasSuffix_append_whole start named.1 named.2.2.2)
    rw [kept]
    exact joinPath_slash plain


end Path
end Lib
end Awe
