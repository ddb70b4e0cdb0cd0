import Mathlib.Data.List.Forall2

namespace Awe
namespace Lib

/-!
# The fields of a line

A line is cut at its separators, and the pieces that are not empty are its
fields.  A separator keeps the two sides of a line apart, so the fields of some
words that are joined are the fields of each.  The words come back from such a
line exactly if none of them is empty or has a separator.
-/

variable {A : Type}

/-- What is in a line is a separator or in one of the words. -/
theorem Fields.mem_intercalate {separator letter : A} {words : List (List A)}
    (member : letter ∈ [separator].intercalate words) :
    letter = separator ∨ Exists fun word => word ∈ words ∧ letter ∈ word := by
  induction words with
  | nil => cases member
  | cons word rest inductionHypothesis =>
      cases rest with
      | nil =>
          rw [List.intercalate_singleton] at member
          exact Or.inr ⟨word, List.mem_cons_self, member⟩
      | cons second others =>
          rw [List.intercalate_cons_cons, List.append_assoc, List.mem_append, List.singleton_append,
            List.mem_cons] at member
          rcases member with here | same | later
          · exact Or.inr ⟨word, List.mem_cons_self, here⟩
          · exact Or.inl same
          · rcases inductionHypothesis later with same | ⟨found, listed, inFound⟩
            · exact Or.inl same
            · exact Or.inr ⟨found, List.mem_cons_of_mem word listed, inFound⟩

section

variable [DecidableEq A]

/-- The pieces between the separators, without the empty ones. This is how a shell takes a line
apart when nothing is quoted. -/
def fields (separator : A) (line : List A) : List (List A) :=
  (line.splitOn separator).filter (· ≠ [])

namespace Fields

theorem fields_nil (separator : A) : fields separator [] = [] := by
  rw [fields, List.splitOn_nil]
  rfl

/-- A separator keeps its two sides apart. All else about fields follows from this equation. -/
theorem fields_append (separator : A) (front back : List A) :
    fields separator (front ++ separator :: back) = fields separator front ++
        fields separator back := by
  unfold fields
  rw [List.splitOn_append_cons_self, List.filter_append]

theorem fields_word {separator : A} {word : List A} (nonempty : word ≠ [])
    (whole : separator ∉ word) :
    fields separator word = [word] := by
  unfold fields
  rw [List.splitOn_eq_singleton whole]
  exact List.filter_eq_self.mpr (List.forall_mem_singleton.mpr (decide_eq_true nonempty))

/-- A separator at the end adds no field. -/
theorem fields_concat (separator : A) (line : List A) :
    fields separator (line ++ [separator]) = fields separator line := by
  rw [fields_append, fields_nil, List.append_nil]

/-- The fields of words that are joined are those of each word. -/
theorem fields_intercalate (separator : A) (words : List (List A)) :
    fields separator ([separator].intercalate words) = words.flatMap (fields separator) := by
  induction words with
  | nil => exact fields_nil separator
  | cons word rest inductionHypothesis =>
      cases rest with
      | nil => rw [List.intercalate_singleton, List.flatMap_singleton]
      | cons second others =>
          rw [List.intercalate_cons_cons, List.append_assoc, List.singleton_append, fields_append,
            inductionHypothesis, <- List.flatMap_cons]

theorem flatMap_fields {separator : A} {words : List (List A)}
    (whole : forall word, word ∈ words -> word ≠ [] ∧ separator ∉ word) :
    words.flatMap (fields separator) = words := by
  induction words with
  | nil => rfl
  | cons word rest inductionHypothesis =>
      rw [List.forall_mem_cons] at whole
      rw [List.flatMap_cons, fields_word whole.1.1 whole.1.2, inductionHypothesis whole.2,
          List.singleton_append]

theorem mem_splitOn {separator : A} {letters piece : List A}
    (member : piece ∈ letters.splitOn separator) :
    separator ∉ piece ∧ forall letter, letter ∈ piece -> letter ∈ letters := by
  induction letters generalizing piece with
  | nil =>
      rw [List.splitOn_nil, List.mem_singleton] at member
      rw [member]
      exact ⟨List.not_mem_nil, fun _ inPiece => inPiece⟩
  | cons first rest inductionHypothesis =>
      by_cases here : first = separator
      · have split : (first :: rest).splitOn separator = [[]] ++ rest.splitOn separator := by
          rw [here]
          exact List.splitOn_append_cons_self [] rest
        rw [split, List.singleton_append, List.mem_cons] at member
        rcases member with rfl | later
        · exact ⟨List.not_mem_nil, List.forall_mem_nil _⟩
        · rcases inductionHypothesis later with ⟨free, inRest⟩
          exact ⟨free, fun letter inPiece => List.mem_cons_of_mem first (inRest letter inPiece)⟩
      · rcases List.exists_cons_of_ne_nil (List.splitOn_ne_nil separator rest) with
          ⟨front, pieces, splits⟩
        have different : ¬ (first == separator) = true := fun same => here (eq_of_beq same)
        rw [List.splitOn_cons_eq_if_modifyHead, if_neg different, splits, List.modifyHead_cons]
            at member
        rw [splits] at inductionHypothesis
        rcases List.mem_cons.mp member with rfl | later
        · rcases inductionHypothesis List.mem_cons_self with ⟨free, inRest⟩
          constructor
          · rw [List.mem_cons, not_or]
            exact ⟨Ne.symm here, free⟩
          · exact List.forall_mem_cons.mpr
              ⟨List.mem_cons_self, fun letter inPiece =>
                  List.mem_cons_of_mem first (inRest letter inPiece)⟩
        · rcases inductionHypothesis (List.mem_cons_of_mem front later) with ⟨free, inRest⟩
          exact ⟨free, fun letter inPiece => List.mem_cons_of_mem first (inRest letter inPiece)⟩

/-- A field is not empty, has no separator, and consists of what is in the line. -/
theorem mem_fields {separator : A} {line field : List A} (member : field ∈ fields separator line) :
    field ≠ [] ∧ separator ∉ field ∧ forall letter, letter ∈ field -> letter ∈ line := by
  rcases List.mem_filter.mp member with ⟨listed, nonempty⟩
  exact ⟨of_decide_eq_true nonempty, mem_splitOn listed⟩

/-- A line has a field if and only if it is not only separators. -/
theorem fields_ne_nil_iff {separator : A} {line : List A} :
    fields separator line ≠ [] ↔ Exists fun letter => letter ∈ line ∧ letter ≠ separator := by
  constructor
  · intro some_field
    rcases List.exists_mem_of_ne_nil _ some_field with ⟨field, member⟩
    rcases mem_fields member with ⟨nonempty, whole, inLine⟩
    rcases List.exists_mem_of_ne_nil _ nonempty with ⟨letter, inField⟩
    exact ⟨letter, inLine letter inField, fun same => whole (same ▸ inField)⟩
  · rintro ⟨letter, member, different⟩ none_left
    -- the letter is in one of the pieces, which then is a field
    induction line with
    | nil => cases member
    | cons first rest inductionHypothesis =>
        by_cases separates : first = separator
        · have shorter : fields separator (first :: rest) = fields separator rest := by
            rw [separates]
            exact (fields_append separator [] rest).trans (congrArg (· ++ _) (fields_nil separator))
          rw [shorter] at none_left
          rcases List.mem_cons.mp member with same | later
          · exact different (same.trans separates)
          · exact inductionHypothesis later none_left
        · by_cases divided : separator ∈ rest
          · rcases List.eq_append_cons_of_mem divided with ⟨word, others, cut, whole⟩
            have free : separator ∉ first :: word :=
              fun inWord => (List.mem_cons.mp inWord).elim (Ne.symm separates) whole
            rw [cut, <- List.cons_append, fields_append, fields_word (List.cons_ne_nil _ _) free]
                at none_left
            cases none_left
          · have free : separator ∉ first :: rest :=
              fun inWord => (List.mem_cons.mp inWord).elim (Ne.symm separates) divided
            rw [fields_word (List.cons_ne_nil _ _) free] at none_left
            cases none_left

/-- A line with a single field is that field, if no separator stands at either end. -/
theorem eq_of_single_field {separator : A} {line word : List A}
    (single : fields separator line = [word]) (first : line.head? ≠ some separator)
    (last : line.getLast? ≠ some separator) : line = word := by
  by_cases divided : separator ∈ line
  · rcases List.eq_append_cons_of_mem divided with ⟨front, back, split, whole⟩
    rw [split] at single first last
    have opened : front ≠ [] := by
      rintro rfl
      exact first rfl
    have closed : Exists fun letter => letter ∈ back ∧ letter ≠ separator := by
      rcases List.eq_nil_or_concat back with rfl | ⟨rest, letter, rfl⟩
      · exact absurd List.getLast?_concat last
      · rw [List.concat_eq_append] at *
        refine ⟨letter, List.mem_append_right _ List.mem_cons_self, ?_⟩
        rintro rfl
        rw [<- List.cons_append, <- List.append_assoc] at last
        exact last List.getLast?_concat
    rw [fields_append, fields_word opened whole] at single
    exact absurd (List.cons.inj single).2 (fields_ne_nil_iff.mpr closed)
  · have nonempty : line ≠ [] := by
      rintro rfl
      rw [fields_nil] at single
      cases single
    rw [fields_word nonempty divided] at single
    exact (List.cons.inj single).1

end Fields

end

/-- Each element on the left is related to one on the right. -/
theorem exists_of_forall₂ {B : Type} {R : A -> B -> Prop} {firsts : List A} {seconds : List B}
    (related : List.Forall₂ R firsts seconds) :
    forall first, first ∈ firsts -> Exists fun second => second ∈ seconds ∧ R first second := by
  induction related with
  | nil => exact List.forall_mem_nil _
  | cons here _ inductionHypothesis =>
      refine List.forall_mem_cons.mpr ⟨⟨_, List.mem_cons_self, here⟩, fun first member => ?_⟩
      rcases inductionHypothesis first member with ⟨second, listed, holds⟩
      exact ⟨second, List.mem_cons_of_mem _ listed, holds⟩

/-- Where every element gives something, and all together give as many as there are, each gives
one, and that in its own place. It is how from the number of words in a line one learns that no
word was divided: there are too few of them. -/
theorem single_of_forall₂ {B C : Type} {R : B -> C -> Prop} {place : A -> B} {pieces : A -> List C}
    {elements : List A} (some_piece : forall element, element ∈ elements -> pieces element ≠ [])
    (related : List.Forall₂ R (elements.map place) (elements.flatMap pieces)) :
    forall element, element ∈ elements -> Exists fun piece => pieces element = [piece] ∧
    R (place element) piece := by
  have enough (others : List A) (some_each : forall element, element ∈ others ->
      pieces element ≠ []) :
      others.length ≤ (others.flatMap pieces).length := by
    induction others with
    | nil => exact Nat.zero_le _
    | cons element rest inductionHypothesis =>
        rw [List.forall_mem_cons] at some_each
        have first := List.length_pos_iff.mpr some_each.1
        have later := inductionHypothesis some_each.2
        rw [List.flatMap_cons, List.length_append, List.length_cons]
        omega
  induction elements with
  | nil => exact List.forall_mem_nil _
  | cons element rest inductionHypothesis =>
      rw [List.forall_mem_cons] at some_piece
      rcases List.exists_cons_of_ne_nil some_piece.1 with ⟨piece, more, here⟩
      rw [List.map_cons, List.flatMap_cons, here, List.cons_append, List.forall₂_cons] at related
      have counts := related.2.length_eq
      rw [List.length_map, List.length_append] at counts
      have nothing : more = [] := List.length_eq_zero_iff.mp (by
        have later := enough rest some_piece.2
        omega)
      rw [nothing, List.nil_append] at related
      rw [nothing] at here
      exact List.forall_mem_cons.mpr
          ⟨⟨piece, here, related.1⟩, inductionHypothesis some_piece.2 related.2⟩

end Lib
end Awe
