import Mathlib.Data.String.Basic

namespace Awe
namespace Lib
namespace Path

/-!
# Slash-separated paths

The functions of Go's `path` and `strings` packages that treat a text as a
sequence of elements between slashes.  `split` and `join` are
`strings.Split` and `strings.Join` with the separator `/`; everything else is
defined through the elements, because that is how callers reason about a path.

An element is `Plain` when it names something: it is not empty, holds no slash
and is neither `.` nor `..`.  On plain elements the lexical functions do what
their names say, and the lemmas at the end state it.
-/

/-- `strings.Split` at the slashes; a text without one is its only element. -/
def split (text : String) : List String :=
  (text.toList.splitOn '/').map String.ofList

/-- `strings.Join` with slashes. -/
def join (elements : List String) : String :=
  "/".intercalate elements

/-- `strings.HasPrefix`. -/
def hasPrefix (text start : String) : Bool :=
  start.toList.isPrefixOf text.toList

/-- `strings.TrimPrefix`. -/
def trimPrefix (text start : String) : String :=
  if hasPrefix text start then String.ofList (text.toList.drop start.length) else text

/-- `strings.HasSuffix`. -/
def hasSuffix (text ending : String) : Bool :=
  ending.toList.isSuffixOf text.toList

/-- `strings.TrimSuffix`. -/
def trimSuffix (text ending : String) : String :=
  if hasSuffix text ending then
    String.ofList (text.toList.take (text.length - ending.length))
  else text

/-- One element in the loop of `path.Clean`; the stack has its top first. -/
def pushElement (rooted : Bool) (stack : List String) (element : String) : List String :=
  if element = "" ∨ element = "." then stack
  else if element = ".." then
    match stack with
    | [] => if rooted then [] else [".."]
    | top :: rest => if top = ".." then ".." :: top :: rest else rest
  else element :: stack

/-- `path.Clean`. It takes away empty elements and dots, and a double dot together with what
stands before it. -/
def clean (text : String) : String :=
  if text = "" then "."
  else
    let rooted := hasPrefix text "/"
    let body := join ((split text).foldl (pushElement rooted) []).reverse
    if rooted then "/" ++ body
    else if body = "" then "."
    else body

/-- `path.Join` of two elements: leading empty elements are dropped. -/
def joinPath (first second : String) : String :=
  if first ≠ "" then clean (join [first, second])
  else if second ≠ "" then clean second
  else ""

/-- `path.Dir`: everything up to and including the last slash, cleaned. -/
def dir (text : String) : String :=
  match split text with
  | [] | [_] => clean ""
  | first :: second :: rest => clean (join ((first :: second :: rest).dropLast ++ [""]))

/-- `path.Base`: the last element after the trailing slashes. -/
def base (text : String) : String :=
  if text = "" then "."
  else
    match (split text).reverse.dropWhile (· = "") with
    | [] => "/"
    | last :: _ => last

/-- `path.Ext`: what follows the last dot of the last element, with the dot. -/
def ext (text : String) : String :=
  let last := (text.toList.splitOn '/').getLastD []
  if '.' ∈ last then String.ofList ('.' :: (last.splitOn '.').getLastD []) else ""

example : clean "a//b/./../c/" = "a/c" := by decide
example : ext "a.b/c.tar.gz" = ".gz" := by decide
example : joinPath "#main" "step/out" = "#main/step/out" := by decide
example : dir "#main/step/out" = "#main/step" := by decide
example : base "#main/step/" = "step" := by decide

/-! ## Splitting and joining -/

/-- An element without a slash. Such elements come out of a split as they went into a join. -/
def Whole (element : String) : Prop :=
  '/' ∉ element.toList

instance : DecidablePred Whole :=
  fun element => inferInstanceAs (Decidable ('/' ∉ element.toList))

theorem Whole.append {front back : String} (first : Whole front) (second : Whole back) :
    Whole (front ++ back) := by
  unfold Whole at first second ⊢
  rw [String.toList_append, List.mem_append]
  rintro (member | member)
  · exact first member
  · exact second member

private theorem ofList_comp_toList : String.ofList ∘ String.toList = id := by
  funext text
  exact String.ofList_toList

private theorem toList_comp_ofList : String.toList ∘ String.ofList = id := by
  funext letters
  exact String.toList_ofList

private theorem slash_toList : "/".toList = ['/'] := by
  decide

theorem join_split (text : String) : join (split text) = text := by
  apply String.toList_injective
  unfold join split
  rw [String.toList_intercalate, List.map_map, toList_comp_ofList, List.map_id, slash_toList,
    List.intercalate_splitOn]

theorem split_join {elements : List String}
    (whole : forall element, element ∈ elements -> Whole element) (nonempty : elements ≠ []) :
    split (join elements) = elements := by
  unfold join split
  rw [String.toList_intercalate, slash_toList, List.splitOn_intercalate, List.map_map,
    ofList_comp_toList, List.map_id]
  · intro letters member
    rcases List.mem_map.1 member with ⟨element, listed, rfl⟩
    exact whole element listed
  · simpa using nonempty

@[simp] theorem join_singleton (element : String) : join [element] = element :=
  String.intercalate_singleton

theorem join_append {front back : List String} (front_nonempty : front ≠ [])
    (back_nonempty : back ≠ []) : join (front ++ back) = join front ++ "/" ++ join back :=
  String.intercalate_append_of_ne_nil front_nonempty back_nonempty

/-- A split of a text that is continued after a slash is split at that slash. -/
theorem split_append (front back : String) :
    split (front ++ "/" ++ back) = split front ++ split back := by
  unfold split
  rw [String.toList_append, String.toList_append, slash_toList, List.append_assoc,
    List.singleton_append, List.splitOn_append_cons_self, List.map_append]

/-- A text that starts with `#` has a first element that does. -/
theorem split_hash {text : String} (absolute : hasPrefix text "#" = true) :
    Exists fun first => Exists fun rest => split text = first :: rest ∧
    hasPrefix first "#" = true := by
  rcases List.isPrefixOf_iff_prefix.1 absolute with ⟨letters, starts⟩
  have hashed : text.toList = '#' :: letters := starts.symm
  unfold split
  rw [hashed, List.splitOn_cons_eq_if_modifyHead, if_neg (by decide)]
  rcases List.exists_cons_of_ne_nil (List.splitOn_ne_nil '/' letters) with ⟨first, rest, splits⟩
  refine ⟨String.ofList ('#' :: first), rest.map String.ofList, ?_, ?_⟩
  · rw [splits, List.modifyHead_cons, List.map_cons]
  · exact List.isPrefixOf_iff_prefix.2 ⟨first, String.toList_ofList.symm⟩

theorem hasPrefix_append {front start : String} (starts : hasPrefix front start = true)
    (back : String) :
    hasPrefix (front ++ back) start = true := by
  unfold hasPrefix at starts ⊢
  rw [String.toList_append]
  exact List.isPrefixOf_iff_prefix.2
      ((List.isPrefixOf_iff_prefix.1 starts).trans (List.prefix_append ..))

theorem hasPrefix_self (front back : String) : hasPrefix (front ++ back) front = true := by
  unfold hasPrefix
  rw [String.toList_append]
  exact List.isPrefixOf_iff_prefix.2 (List.prefix_append ..)

/-- Only the first letter decides whether a text begins with one letter. -/
theorem hasPrefix_letter_append {front start : String} {letter : Char}
    (single : start.toList = [letter]) (named : front ≠ "") (back : String) :
    hasPrefix (front ++ back) start = hasPrefix front start := by
  unfold hasPrefix
  rw [String.toList_append, single]
  cases letters : front.toList with
  | nil => exact absurd (String.toList_injective (letters.trans String.toList_empty.symm)) named
  | cons first rest =>
      simp only [List.cons_append, List.isPrefixOf_cons_cons, List.isPrefixOf_nil_left,
      Bool.and_true]

/-- Only the first letter decides whether a text is absolute. -/
theorem hasPrefix_hash_append {front : String} (named : front ≠ "") (back : String) :
    hasPrefix (front ++ back) "#" = hasPrefix front "#" :=
  @hasPrefix_letter_append front "#" '#' (by decide) named back

theorem trimPrefix_append (front back : String) : trimPrefix (front ++ back) front = back := by
  unfold trimPrefix
  rw [if_pos (hasPrefix_self front back), String.toList_append, ← String.length_toList,
    List.drop_left, String.ofList_toList]

theorem split_whole {element : String} (whole : Whole element) : split element = [element] := by
  have alone := @split_join [element]
      (fun other member => by rw [List.mem_singleton.mp member]; exact whole)
    (by simp)
  rwa [join_singleton] at alone

/-- The base name of a path that ends in a whole, named element. -/
theorem base_append (front : String) {last : String} (named : last ≠ "") (whole : Whole last) :
    base (front ++ "/" ++ last) = last := by
  have text : front ++ "/" ++ last ≠ "" := by
    intro empty
    have ends := congrArg String.toList empty
    rw [String.toList_append, String.toList_empty, List.append_eq_nil_iff] at ends
    exact named (String.toList_injective (ends.2.trans String.toList_empty.symm))
  unfold base
  rw [if_neg text, split_append, split_whole whole, List.reverse_append, List.reverse_singleton,
      List.singleton_append,
    List.dropWhile_cons_of_neg (by simpa using named)]

theorem whole_of_mem_split {text element : String} (member : element ∈ split text) :
    Whole element := by
  have pieces (letters : List Char) : forall piece, piece ∈ letters.splitOn '/' -> '/' ∉ piece := by
    induction letters with
    | nil => simp
    | cons letter rest inductionHypothesis =>
        intro piece listed
        rw [List.splitOn_cons_eq_if_modifyHead] at listed
        split at listed
        · rcases List.mem_cons.mp listed with rfl | later
          · exact List.not_mem_nil
          · exact inductionHypothesis piece later
        · next different =>
            obtain ⟨first, others, splits⟩ :=
                List.exists_cons_of_ne_nil (List.splitOn_ne_nil '/' rest)
            rw [splits, List.modifyHead_cons] at listed
            rw [splits] at inductionHypothesis
            rcases List.mem_cons.mp listed with rfl | later
            · intro slash
              rcases List.mem_cons.mp slash with here | there
              · exact different (beq_of_eq here.symm)
              · exact inductionHypothesis first List.mem_cons_self there
            · exact inductionHypothesis piece (List.mem_cons_of_mem _ later)
  rcases List.mem_map.mp member with ⟨piece, listed, rfl⟩
  unfold Whole
  rw [String.toList_ofList]
  exact pieces _ piece listed

/-- A cleaned path is never empty: `path.Clean` writes a dot for nothing. -/
theorem clean_ne_empty (text : String) : clean text ≠ "" := by
  unfold clean
  by_cases empty : text = ""
  · rw [if_pos empty]
    decide
  · rw [if_neg empty]
    dsimp only
    by_cases rooted : hasPrefix text "/" = true
    · rw [if_pos rooted]
      intro nothing
      exact absurd (String.append_eq_empty_iff.mp nothing).1 (by decide)
    · rw [if_neg rooted]
      by_cases bare : join ((split text).foldl (pushElement (hasPrefix text "/")) []).reverse = ""
      · rw [if_pos bare]
        decide
      · rw [if_neg bare]
        exact bare

theorem dir_ne_empty (text : String) : dir text ≠ "" := by
  unfold dir
  cases split text with
  | nil => exact clean_ne_empty _
  | cons first rest =>
      cases rest with
      | nil => exact clean_ne_empty _
      | cons second others => exact clean_ne_empty _

theorem base_ne_empty (text : String) : base text ≠ "" := by
  unfold base
  by_cases empty : text = ""
  · rw [if_pos empty]
    decide
  · rw [if_neg empty]
    cases remaining : (split text).reverse.dropWhile (· = "") with
    | nil => decide
    | cons last others =>
        have first := List.head?_dropWhile_not (fun element : String => decide (element = ""))
            (split text).reverse
        rw [remaining] at first
        simpa using first

/-- A base name is its own base name. -/
theorem base_base (text : String) : base (base text) = base text := by
  unfold base
  by_cases empty : text = ""
  · rw [if_pos empty]
    decide
  · rw [if_neg empty]
    cases remaining : (split text).reverse.dropWhile (· = "") with
    | nil => decide
    | cons last others =>
        have member : last ∈ (split text).reverse.dropWhile (· = "") := by
          rw [remaining]
          exact List.mem_cons_self
        have whole : Whole last :=
          whole_of_mem_split (List.mem_reverse.mp ((List.dropWhile_sublist _).subset member))
        have named : last ≠ "" := by
          have first := List.head?_dropWhile_not (fun element : String => decide (element = ""))
              (split text).reverse
          rw [remaining] at first
          simpa using first
        dsimp only
        rw [if_neg named, split_whole whole, List.reverse_singleton, List.dropWhile_cons_of_neg
            (by simpa using named)]

theorem trimSuffix_append (front ending : String) :
    trimSuffix (front ++ ending) ending = front := by
  have ends : hasSuffix (front ++ ending) ending = true := by
    unfold hasSuffix
    rw [String.toList_append]
    exact List.isSuffixOf_iff_suffix.2 (List.suffix_append ..)
  unfold trimSuffix
  rw [if_pos ends, String.length_append, Nat.add_sub_cancel, String.toList_append,
      ← String.length_toList,
    List.take_left, String.ofList_toList]

theorem hasSuffix_append_whole (front : String) {last : String} (named : last ≠ "")
    (whole : Whole last) :
    hasSuffix (front ++ last) "/" = false := by
  by_contra ends
  rw [Bool.not_eq_false] at ends
  unfold hasSuffix at ends
  rw [String.toList_append, slash_toList, List.isSuffixOf_iff_suffix] at ends
  rcases ends with ⟨letters, same⟩
  have nonempty : last.toList ≠ [] := fun empty =>
    named (String.toList_injective (empty.trans String.toList_empty.symm))
  have final := congrArg List.getLast? same
  rw [List.getLast?_concat, List.getLast?_append_of_ne_nil _ nonempty] at final
  exact whole (List.mem_of_getLast? final.symm)

theorem hasPrefix_join {first start : String} (starts : hasPrefix first start = true)
    (rest : List String) : hasPrefix (join (first :: rest)) start = true := by
  cases rest with
  | nil =>
      rw [join_singleton]
      exact starts
  | cons second others =>
      rw [show first :: second :: others = [first] ++ second :: others from rfl,
        join_append (by simp) (by simp), join_singleton, String.append_assoc]
      exact hasPrefix_append starts _

/-! ## Plain elements -/

/-- An element that names something. Neither empty nor one of the two dots, so that cleaning keeps
it. -/
def Plain (element : String) : Prop :=
  element ≠ "" ∧ element ≠ "." ∧ element ≠ ".." ∧ Whole element

instance : DecidablePred Plain :=
  fun element => inferInstanceAs
    (Decidable (element ≠ "" ∧ element ≠ "." ∧ element ≠ ".." ∧ Whole element))

/-- A text whose first element is not empty is not empty and not rooted. -/
theorem unrooted_of_split {text first : String} {rest : List String}
    (splits : split text = first :: rest) (named : first ≠ "") :
    text ≠ "" ∧ hasPrefix text "/" = false := by
  constructor
  · intro empty
    have heads : split "" = [""] := by decide
    rw [empty, heads] at splits
    exact named (List.cons.inj splits).1.symm
  · by_contra rooted
    rw [Bool.not_eq_false] at rooted
    -- A leading slash puts an empty element in front.
    rcases List.isPrefixOf_iff_prefix.1 rooted with ⟨letters, starts⟩
    have slashed : text = "" ++ "/" ++ String.ofList letters := by
      apply String.toList_injective
      rw [← starts]
      simp
    have heads : split "" = [""] := by decide
    rw [slashed, split_append, heads, List.singleton_append] at splits
    exact named (List.cons.inj splits).1.symm

/-- Empty elements are all dropped by the loop of `path.Clean`. -/
private theorem foldl_push_blank {blanks : List String}
    (blank : forall element, element ∈ blanks -> element = "") (rooted : Bool)
    (stack : List String) :
    blanks.foldl (pushElement rooted) stack = stack := by
  induction blanks with
  | nil => rfl
  | cons element rest inductionHypothesis =>
      have push : pushElement rooted stack element = stack := by
        unfold pushElement
        rw [if_pos (Or.inl (blank element List.mem_cons_self))]
      rw [List.foldl_cons, push]
      exact inductionHypothesis fun other member => blank other (List.mem_cons_of_mem _ member)

section

variable {elements : List String} (plain : forall element, element ∈ elements -> Plain element)

include plain

theorem split_plain (nonempty : elements ≠ []) : split (join elements) = elements :=
  split_join (fun element member => (plain element member).2.2.2) nonempty

/-- Plain elements are all kept by the loop of `path.Clean`. -/
theorem foldl_push_plain (rooted : Bool) (stack : List String) :
    elements.foldl (pushElement rooted) stack = elements.reverse ++ stack := by
  induction elements generalizing stack with
  | nil => rfl
  | cons element rest inductionHypothesis =>
      have here := plain element List.mem_cons_self
      have push : pushElement rooted stack element = element :: stack := by
        unfold pushElement
        rw [if_neg (by simp [here.1, here.2.1]), if_neg here.2.2.1]
      rw [List.foldl_cons, push,
        inductionHypothesis (fun other member => plain other (List.mem_cons_of_mem _ member)),
        List.reverse_cons, List.append_assoc, List.singleton_append]

theorem join_plain_ne_empty (nonempty : elements ≠ []) : join elements ≠ "" := by
  rcases List.exists_cons_of_ne_nil nonempty with ⟨first, rest, rfl⟩
  exact (unrooted_of_split (split_plain plain nonempty) (plain first List.mem_cons_self).1).1

/-- Plain elements followed by empty ones are cleaned to the plain ones: the
case of no empty element is `path.Clean` of a clean path, the case of one is
what `path.Dir` cleans. -/
theorem clean_of_split {text : String} {blanks : List String} (nonempty : elements ≠ [])
    (splits : split text = elements ++ blanks)
    (blank : forall element, element ∈ blanks -> element = "") :
    clean text = join elements := by
  rcases List.exists_cons_of_ne_nil nonempty with ⟨first, rest, rfl⟩
  have unrooted := unrooted_of_split splits (plain first List.mem_cons_self).1
  unfold clean
  rw [if_neg unrooted.1]
  simp only [unrooted.2, splits, List.foldl_append, foldl_push_plain plain, List.append_nil,
    foldl_push_blank blank, List.reverse_reverse, Bool.false_eq_true, if_false]
  rw [if_neg (join_plain_ne_empty plain nonempty)]

theorem clean_eq_join {text : String} (nonempty : elements ≠ []) (splits : split text = elements) :
    clean text = join elements :=
  clean_of_split plain nonempty (splits.trans (List.append_nil _).symm)
    (fun _ member => absurd member List.not_mem_nil)

theorem base_join (nonempty : elements ≠ []) :
    base (join elements) = elements.getLast nonempty := by
  have lastPlain := plain _ (List.getLast_mem nonempty)
  unfold base
  rw [if_neg (join_plain_ne_empty plain nonempty), split_plain plain nonempty]
  have ends : elements.reverse = elements.getLast nonempty :: elements.dropLast.reverse := by
    conv => lhs; rw [← List.dropLast_append_getLast nonempty]
    rw [List.reverse_append, List.reverse_singleton, List.singleton_append]
  rw [ends, List.dropWhile_cons_of_neg (by simpa using lastPlain.1)]

/-- The directory of at least two plain elements drops the last one. -/
theorem dir_join {last : String} (lastPlain : Plain last) (nonempty : elements ≠ []) :
    dir (join (elements ++ [last])) = join elements := by
  have allPlain : forall element, element ∈ elements ++ [last] -> Plain element := by
    intro element member
    rcases List.mem_append.1 member with earlier | final
    · exact plain element earlier
    · rw [List.mem_singleton.1 final]
      exact lastPlain
  have trailing : split (join (elements ++ [""])) = elements ++ [""] := by
    rw [join_append nonempty (by simp), join_singleton, split_append, split_plain plain nonempty]
    congr 1
  rcases List.exists_cons_of_ne_nil nonempty with ⟨first, rest, rfl⟩
  unfold dir
  rw [split_plain allPlain (by simp)]
  cases rest with
  | nil => exact clean_of_split plain nonempty trailing (by simp)
  | cons second others =>
      simp only [List.cons_append]
      rw [show first :: second :: (others ++ [last]) = (first :: second :: others) ++
          [last] from rfl,
        List.dropLast_concat]
      exact clean_of_split plain nonempty trailing (by simp)

end

theorem hasSuffix_iff {text ending : String} :
    hasSuffix text ending = true ↔ ending.toList <:+ text.toList :=
  List.isSuffixOf_iff_suffix

/-- The last occurrence of a letter. -/
theorem last_occurrence {letter : Char} {text : List Char} (member : letter ∈ text) :
    Exists fun front => Exists fun back => text = front ++ letter :: back ∧ letter ∉ back := by
  rcases List.eq_append_cons_of_mem (List.mem_reverse.mpr member) with
      ⟨before, after, same, missing⟩
  refine ⟨after.reverse, before.reverse, ?_, fun inside => missing (List.mem_reverse.mp inside)⟩
  have whole := congrArg List.reverse same
  rw [List.reverse_reverse, List.reverse_append, List.reverse_cons, List.append_assoc] at whole
  exact whole

/-- The part of a text behind the last separator. -/
theorem splitOn_getLastD {letter : Char} (front : List Char) {back : List Char}
    (missing : letter ∉ back) :
    ((front ++ letter :: back).splitOn letter).getLastD [] = back := by
  rw [List.splitOn_append_cons_self, List.splitOn_eq_singleton missing, List.getLastD_concat]
/-- A base name is what stands before its extension, and the extension. -/
theorem trimSuffix_base_ext (text : String) :
    trimSuffix (base text) (ext text) ++ ext text = base text := by
  by_cases dotted : '.' ∈ (text.toList.splitOn '/').getLastD []
  · rcases last_occurrence dotted with ⟨front, back, same, missing⟩
    have extension : ext text = String.ofList ('.' :: back) := by
      unfold ext
      rw [if_pos dotted, same, splitOn_getLastD front missing]
    have nonempty : text ≠ "" := by
      rintro rfl
      exact absurd dotted (by decide)
    have last : (split text).reverse = String.ofList (front ++ '.' :: back) ::
        (split text).dropLast.reverse := by
      have pieces := List.splitOn_ne_nil '/' text.toList
      rw [List.getLastD_eq_getLast?, List.getLast?_eq_some_getLast pieces, Option.getD_some] at same
      have parts : split text = (split text).dropLast ++
          [String.ofList (front ++ '.' :: back)] := by
        unfold split
        rw [<- same, <- List.map_dropLast, <- List.map_singleton, <- List.map_append,
            List.dropLast_append_getLast]
      rw [parts, List.reverse_append, List.reverse_singleton, List.singleton_append,
          List.dropLast_concat]
    have name : base text = String.ofList front ++ String.ofList ('.' :: back) := by
      unfold base
      rw [if_neg nonempty, last, List.dropWhile_cons_of_neg (by simp), String.ofList_append]
    rw [extension, name, trimSuffix_append]
  · have none : ext text = "" := if_neg dotted
    rw [none]
    have whole := trimSuffix_append (base text) ""
    rw [String.append_empty] at whole
    rw [whole, String.append_empty]

/-- What stands in front of a plain name that is joined to a directory. -/
def directoryPrefix (text : String) : String :=
  if text = "" then ""
  else
    let rooted := hasPrefix text "/"
    let stack := (split text).foldl (pushElement rooted) []
    (if rooted then "/" else "") ++ (if stack = [] then "" else join stack.reverse ++ "/")

/-- A path in a directory is the directory's own text and the name. -/
theorem joinPath_plain (directory : String) {name : String} (plain : Plain name) :
    joinPath directory name = directoryPrefix directory ++ name := by
  have splits : split name = [name] := split_whole plain.2.2.2
  unfold joinPath directoryPrefix
  by_cases empty : directory = ""
  · rw [if_neg (not_not.mpr empty), if_pos empty, if_pos plain.1, String.empty_append]
    have cleaned := @clean_eq_join [name] (List.forall_mem_singleton.mpr plain) name
        (List.cons_ne_nil _ _) splits
    rw [cleaned, join_singleton]
  · rw [if_pos empty, if_neg empty]
    have joined : join [directory, name] = directory ++ "/" ++ name := by
      have parts := @join_append [directory] [name] (List.cons_ne_nil _ _) (List.cons_ne_nil _ _)
      rwa [join_singleton, join_singleton] at parts
    have rooted : hasPrefix (directory ++ "/" ++ name) "/" = hasPrefix directory "/" := by
      rw [String.append_assoc]
      exact @hasPrefix_letter_append directory "/" '/' (by decide) empty _
    have nonempty : directory ++ "/" ++ name ≠ "" := by
      intro vanished
      have letters := congrArg String.toList vanished
      rw [String.toList_append, String.toList_empty, List.append_eq_nil_iff] at letters
      exact plain.1 (String.toList_injective (letters.2.trans String.toList_empty.symm))
    rw [joined, clean, if_neg nonempty]
    dsimp only
    rw [rooted, split_append, splits, List.foldl_append]
    generalize (split directory).foldl (pushElement (hasPrefix directory "/")) [] = stack
    have pushed : [name].foldl (pushElement (hasPrefix directory "/")) stack = name :: stack := by
      rw [List.foldl_cons, List.foldl_nil]
      unfold pushElement
      rw [if_neg (by simp [plain.1, plain.2.1]), if_neg plain.2.2.1]
    have body : join (name :: stack).reverse = (if stack = [] then "" else
        join stack.reverse ++ "/") ++ name := by
      by_cases bare : stack = []
      · rw [if_pos bare, bare, List.reverse_singleton, join_singleton, String.empty_append]
      · rw [if_neg bare, List.reverse_cons, join_append (List.reverse_ne_nil_iff.mpr bare)
          (List.cons_ne_nil _ _),
          join_singleton]
    have named : join (name :: stack).reverse ≠ "" := by
      intro vanished
      rw [body] at vanished
      have letters := congrArg String.toList vanished
      rw [String.toList_append, String.toList_empty, List.append_eq_nil_iff] at letters
      exact plain.1 (String.toList_injective (letters.2.trans String.toList_empty.symm))
    rw [pushed, if_neg named, body]
    by_cases absolute : hasPrefix directory "/" = true
    · rw [if_pos absolute, if_pos absolute, String.append_assoc]
    · rw [if_neg absolute, if_neg absolute, String.empty_append]

end Path
end Lib
end Awe
