import Awe.Core.Requirements

namespace Awe
namespace Core
namespace Interpolation

open Lib Lib.Path StepInputs Requirements

/-!
# Expressions inside a text

A text may contain expressions in the form of references `$(...)`, and it should
come out with each of them replaced by the string form of its value; a text
that is nothing but one reference should come out as the value itself.  There
are two copies of the code for this, `EvaluateExpression` and a part of
`GetStepInputObjects`.

Both find the references with the pattern `\$\(.+\)`, which extends to the last
closing parenthesis of the line.  Two references in a line are one match, and
a parenthesis behind a reference belongs to it.  With a single match they
return its value and forget the text around it.  With several they replace the
first occurrence of each match in what the replacements so far have made of the
text, which may be inside a value.
-/

def reference (expression : List Char) : List Char :=
  '$' :: '(' :: (expression ++ [')'])

/-- A text with references: what stands in front of the first one, and each expression with what
stands behind it. Text and references are kept apart, so that what a text stands for can be said
before it is written as one line. -/
structure Template where
  first : List Char
  parts : List (List Char × List Char)

def renderParts : List (List Char × List Char) -> List Char
  | [] => []
  | (expression, after) :: rest => reference expression ++ (after ++ renderParts rest)

def Template.text (template : Template) : List Char :=
  template.first ++ renderParts template.parts

/-- The number of parentheses that are open behind a text, if none is closed too early. -/
def depth (opened : Nat) : List Char -> Option Nat
  | [] => some opened
  | letter :: rest =>
      if letter = '(' then depth (opened + 1) rest
      else if letter = ')' then
        match opened with
        | 0 => none
        | before + 1 => depth before rest
      else depth opened rest

def Balanced (text : List Char) : Prop :=
  depth 0 text = some 0

/-- An expression and the text behind it: the text has no dollar sign, and neither has the
expression, which is a balanced text within a line. -/
structure Plain (part : List Char × List Char) : Prop where
  some : part.1 ≠ []
  noDollar : '$' ∉ part.1
  inLine : '\n' ∉ part.1
  balanced : Balanced part.1
  afterNoDollar : '$' ∉ part.2

structure Template.WellFormed (template : Template) : Prop where
  some : template.parts ≠ []
  firstNoDollar : '$' ∉ template.first
  plain : forall part, part ∈ template.parts -> Plain part

/-- The text with the references replaced by the strings that `form` gives. -/
def fillParts (form : List Char -> List Char) : List (List Char × List Char) -> List Char
  | [] => []
  | (expression, after) :: rest => form expression ++ (after ++ fillParts form rest)

def Template.filled (template : Template) (form : List Char -> List Char) : List Char :=
  template.first ++ fillParts form template.parts

/-- No parenthesis is closed behind a reference in its line. -/
def Apart : List (List Char × List Char) -> Prop
  | [] => True
  | (_, after) :: rest => ')' ∉ (after ++ renderParts rest).takeWhile (· ≠ '\n') ∧ Apart rest

section

theorem depth_cons (opened : Nat) (letter : Char) (rest : List Char) :
    depth opened (letter :: rest) =
      if letter = '(' then depth (opened + 1) rest
      else if letter = ')' then
        match opened with
        | 0 => none
        | before + 1 => depth before rest
      else depth opened rest := by
  cases opened <;> rfl

theorem depth_close {opened : Nat} {text : List Char} (closed : depth opened text = some 0)
    (rest : List Char) :
    depth opened (text ++ ')' :: rest) = none := by
  induction text generalizing opened with
  | nil =>
      cases closed
      rfl
  | cons letter others inductionHypothesis =>
      rw [depth_cons] at closed
      rw [List.cons_append, depth_cons]
      by_cases opens : letter = '('
      · rw [if_pos opens] at closed ⊢
        exact inductionHypothesis closed
      · rw [if_neg opens] at closed ⊢
        by_cases closes : letter = ')'
        · rw [if_pos closes] at closed ⊢
          cases opened with
          | zero => rfl
          | succ before => exact inductionHypothesis closed
        · rw [if_neg closes] at closed ⊢
          exact inductionHypothesis closed

/-- A text that goes on behind a balanced one with a closing parenthesis is not balanced. -/
theorem not_balanced {text : List Char} (balanced : Balanced text) (rest : List Char) :
    ¬Balanced (text ++ ')' :: rest) := by
  intro again
  unfold Balanced at again
  rw [depth_close balanced rest] at again
  cases again

/-- The first occurrence of a letter. -/
theorem first_occurrence {letter : Char} {text : List Char} (member : letter ∈ text) :
    Exists fun front => Exists fun back => text = front ++ letter :: back ∧ letter ∉ front :=
  List.eq_append_cons_of_mem member

end

/-! ## Matches -/

section

/-- The matches of the pattern, line by line. -/
def lineMatches (text : List Char) : List (List Char) :=
  (text.splitOn '\n').filterMap (greedy ['$', '('] ')')

theorem expressionMatches_eq (text : List Char) :
    expressionMatches (String.ofList text) = (lineMatches text).map String.ofList := by
  unfold expressionMatches lineMatches
  rw [String.toList_ofList, List.map_filterMap]

theorem greedy_plain_append {before : List Char} (plain : '$' ∉ before) (text : List Char) :
    greedy ['$', '('] ')' (before ++ text) = greedy ['$', '('] ')' text := by
  induction before with
  | nil => rfl
  | cons letter rest inductionHypothesis =>
      rw [List.mem_cons, not_or] at plain
      rw [List.cons_append, greedy]
      rw [if_neg, inductionHypothesis plain.2]
      rintro ⟨starts, _⟩
      rcases List.isPrefixOf_iff_prefix.mp starts with ⟨others, same⟩
      exact plain.1 (List.cons.inj same).1

theorem greedy_plain {text : List Char} (plain : '$' ∉ text) :
    greedy ['$', '('] ')' text = none := by
  have whole := greedy_plain_append plain []
  rw [List.append_nil] at whole
  exact whole

/-- What is left when the letters behind the last closing parenthesis are dropped. -/
theorem upTo_close (front : List Char) {back : List Char} (missing : ')' ∉ back) :
    ((front ++ ')' :: back).reverse.dropWhile (· ≠ ')')).reverse = front ++ [')'] := by
  rw [List.reverse_append, List.reverse_cons, List.append_assoc, List.dropWhile_append_of_pos]
  · rw [List.singleton_append, List.dropWhile_cons_of_neg (by simp), List.reverse_cons,
      List.reverse_reverse]
  · intro letter member
    refine decide_eq_true fun same => missing ?_
    rw [<- same]
    exact List.mem_reverse.mp member

/-- At a reference the match begins, and ends with the last closing parenthesis of the line. -/
theorem greedy_at {expression front : List Char} (some : expression ≠ []) {line back : List Char}
    (same : reference expression ++ line = front ++ ')' :: back) (missing : ')' ∉ back)
    (long : (reference expression).length ≤ front.length + 1) :
    greedy ['$', '('] ')' (reference expression ++ line) = Option.some (front ++ [')']) := by
  have first : reference expression ++ line = '$' :: ('(' :: (expression ++ [')']) ++ line) := rfl
  rw [first, greedy]
  rw [<- first, same, upTo_close front missing, if_pos]
  constructor
  · rw [<- same]
    rfl
  · have letters : expression.length ≠ 0 := fun none => some (List.eq_nil_of_length_eq_zero none)
    unfold reference at long
    rw [List.length_cons, List.length_cons, List.length_append, List.length_singleton] at long
    rw [List.length_append, List.length_singleton, List.length_cons, List.length_cons,
        List.length_nil]
    omega

theorem greedy_reference_alone {expression line : List Char} (some : expression ≠ [])
    (missing : ')' ∉ line) :
    greedy ['$', '('] ')' (reference expression ++ line) = Option.some (reference expression) := by
  have same : reference expression ++ line = ('$' :: '(' :: expression) ++ ')' :: line := by
    unfold reference
    simp only [List.cons_append, List.append_assoc, List.nil_append]
  rw [greedy_at some same missing (by unfold reference; simp)]
  rfl

theorem greedy_reference_longer {expression line : List Char} (some : expression ≠ [])
    (inside : ')' ∈ line) :
    Exists fun longer => greedy ['$', '('] ')' (reference expression ++ line) =
      Option.some (reference expression ++ (longer ++ [')'])) := by
  rcases last_occurrence inside with ⟨front, back, rfl, missing⟩
  refine ⟨front, ?_⟩
  rw [@greedy_at expression (reference expression ++ front) some _ _
      (List.append_assoc ..).symm missing
    (by rw [List.length_append]; omega), List.append_assoc]

theorem lineMatches_newline (first second : List Char) :
    lineMatches (first ++ '\n' :: second) = lineMatches first ++ lineMatches second := by
  unfold lineMatches
  rw [List.splitOn_append_cons_self, List.filterMap_append]

theorem lineMatches_line {line : List Char} (single : '\n' ∉ line) :
    lineMatches line = (greedy ['$', '('] ')' line).toList := by
  unfold lineMatches
  rw [List.splitOn_eq_singleton single, List.filterMap_cons, List.filterMap_nil]
  cases greedy ['$', '('] ')' line <;> rfl

/-- A text without dollar signs adds no match to what stands behind it. -/
theorem lineMatches_plain_append {before : List Char} (plain : '$' ∉ before) (text : List Char) :
    lineMatches (before ++ text) = lineMatches text := by
  -- line by line: the last line of the plain text continues with the first one behind it
  induction size : before.length using Nat.strong_induction_on generalizing before with
  | _ count inductionHypothesis =>
      by_cases broken : '\n' ∈ before
      · rcases first_occurrence broken with ⟨line, rest, rfl, single⟩
        rw [List.mem_append, List.mem_cons, not_or, not_or] at plain
        rw [List.length_append, List.length_cons] at size
        rw [List.append_assoc, List.cons_append, lineMatches_newline, lineMatches_line single,
            greedy_plain plain.1]
        exact inductionHypothesis rest.length (by omega) plain.2.2 rfl
      · by_cases continues : '\n' ∈ text
        · rcases first_occurrence continues with ⟨line, rest, rfl, single⟩
          have both : '\n' ∉ before ++ line := by
            rw [List.mem_append, not_or]
            exact ⟨broken, single⟩
          rw [<- List.append_assoc, lineMatches_newline, lineMatches_newline, lineMatches_line both,
            lineMatches_line single, greedy_plain_append plain]
        · have both : '\n' ∉ before ++ text := by
            rw [List.mem_append, not_or]
            exact ⟨broken, continues⟩
          rw [lineMatches_line both, lineMatches_line continues, greedy_plain_append plain]

theorem reference_inLine {expression : List Char} (inLine : '\n' ∉ expression) :
    '\n' ∉ reference expression := by
  unfold reference
  rw [List.mem_cons, List.mem_cons, List.mem_append, List.mem_singleton]
  rintro (same | same | inside | same)
  · cases same
  · cases same
  · exact inLine inside
  · cases same

/-- A reference begins a match; the others are those behind its line. -/
theorem lineMatches_reference {expression : List Char} (inLine : '\n' ∉ expression)
    (rest : List Char) :
    lineMatches (reference expression ++ rest) =
      (greedy ['$', '('] ')' (reference expression ++ rest.takeWhile (· ≠ '\n'))).toList ++
        lineMatches (rest.dropWhile (· ≠ '\n')) := by
  by_cases broken : '\n' ∈ rest
  · rcases first_occurrence broken with ⟨line, later, rfl, single⟩
    have stays : forall letter, letter ∈ line -> decide (letter ≠ '\n') = true :=
        fun letter member =>
      decide_eq_true fun same => single (same ▸ member)
    rw [List.takeWhile_append_of_pos stays, List.dropWhile_append_of_pos stays,
      List.takeWhile_cons_of_neg (by simp), List.dropWhile_cons_of_neg (by simp), List.append_nil]
    have whole : '\n' ∉ reference expression ++ line := by
      rw [List.mem_append, not_or]
      exact ⟨reference_inLine inLine, single⟩
    rw [<- List.append_assoc, lineMatches_newline, lineMatches_line whole]
    have next : lineMatches ('\n' :: later) = lineMatches later := lineMatches_newline [] later
    rw [next]
  · have stays : forall letter, letter ∈ rest -> decide (letter ≠ '\n') = true :=
      fun letter member =>
      decide_eq_true fun same => broken (same ▸ member)
    have whole : '\n' ∉ reference expression ++ rest := by
      rw [List.mem_append, not_or]
      exact ⟨reference_inLine inLine, broken⟩
    rw [List.takeWhile_eq_self_iff.mpr stays, List.dropWhile_eq_nil_iff.mpr stays,
        lineMatches_line whole]
    exact (List.append_nil _).symm

theorem close_mem_reference (expression : List Char) : ')' ∈ reference expression := by
  unfold reference
  simp

/-- References that stand apart are matched one by one. -/
theorem lineMatches_apart {parts : List (List Char × List Char)}
    (plain : forall part, part ∈ parts -> Plain part) (apart : Apart parts) :
    lineMatches (renderParts parts) = parts.map fun part => reference part.1 := by
  induction parts with
  | nil => rfl
  | cons part rest inductionHypothesis =>
      rcases part with ⟨expression, after⟩
      have here := plain _ List.mem_cons_self
      have later := inductionHypothesis
          (fun part member => plain part (List.mem_cons_of_mem _ member)) apart.2
      rw [renderParts, lineMatches_reference here.inLine, greedy_reference_alone here.some apart.1,
          List.map_cons, <- later]
      refine congrArg (reference expression :: ·) ?_
      -- a later reference begins in a later line
      by_cases broken : '\n' ∈ after
      · rcases first_occurrence broken with ⟨line, others, rfl, single⟩
        have stays : forall letter, letter ∈ line -> decide (letter ≠ '\n') = true :=
            fun letter member =>
          decide_eq_true fun same => single (same ▸ member)
        rw [List.append_assoc, List.dropWhile_append_of_pos stays, List.cons_append,
          List.dropWhile_cons_of_neg (by simp)]
        have noDollar : '$' ∉ '\n' :: others := by
          intro member
          exact here.afterNoDollar (List.mem_append_right _ member)
        exact lineMatches_plain_append noDollar (renderParts rest)
      · cases rest with
        | nil =>
            have stays : forall letter, letter ∈ after ++ renderParts [] ->
                decide (letter ≠ '\n') = true := by
              rw [renderParts, List.append_nil]
              exact fun letter member => decide_eq_true fun same => broken (same ▸ member)
            rw [List.dropWhile_eq_nil_iff.mpr stays]
            rfl
        | cons next others =>
            rcases next with ⟨second, behind⟩
            have secondPlain := plain (second, behind) (List.mem_cons_of_mem _ List.mem_cons_self)
            have stays : forall letter, letter ∈ after ++ reference second ->
                decide (letter ≠ '\n') = true := by
              intro letter member
              refine decide_eq_true fun same => ?_
              rw [same] at member
              exact (List.mem_append.mp member).elim broken (reference_inLine secondPlain.inLine)
            have inLine := apart.1
            rw [renderParts, <- List.append_assoc, List.takeWhile_append_of_pos stays] at inLine
            exact absurd (List.mem_append_left _
                (List.mem_append_right _ (close_mem_reference second))) inLine

/-- Where they do not, a match goes on behind its reference. -/
theorem lineMatches_not_apart {parts : List (List Char × List Char)}
    (plain : forall part, part ∈ parts -> Plain part) (together : ¬Apart parts) :
    Exists fun part => part ∈ parts ∧ Exists fun longer =>
      reference part.1 ++ (longer ++ [')']) ∈ lineMatches (renderParts parts) := by
  induction parts with
  | nil => exact absurd trivial together
  | cons part rest inductionHypothesis =>
      rcases part with ⟨expression, after⟩
      have here := plain _ List.mem_cons_self
      by_cases inside : ')' ∈ (after ++ renderParts rest).takeWhile (· ≠ '\n')
      · rcases greedy_reference_longer here.some inside with ⟨longer, found⟩
        refine ⟨_, List.mem_cons_self, longer, ?_⟩
        rw [renderParts, lineMatches_reference here.inLine, found]
        exact List.mem_append_left _ List.mem_cons_self
      · have restTogether : ¬Apart rest := fun apart => together ⟨inside, apart⟩
        rcases inductionHypothesis (fun part member => plain part (List.mem_cons_of_mem _ member))
            restTogether with
          ⟨other, member, longer, found⟩
        refine ⟨other, List.mem_cons_of_mem _ member, longer, ?_⟩
        rw [renderParts, lineMatches_reference here.inLine]
        refine List.mem_append_right _ ?_
        rw [List.dropWhile_append]
        by_cases broken : '\n' ∈ after
        · rcases first_occurrence broken with ⟨line, others, rfl, single⟩
          have stays : forall letter, letter ∈ line -> decide (letter ≠ '\n') = true :=
              fun letter member =>
            decide_eq_true fun same => single (same ▸ member)
          have noDollar : '$' ∉ '\n' :: others := by
            intro member
            exact here.afterNoDollar (List.mem_append_right _ member)
          rw [List.dropWhile_append_of_pos stays, List.dropWhile_cons_of_neg (by simp),
              if_neg (by simp),
            lineMatches_plain_append noDollar]
          exact found
        · -- the rest begins in the same line, so it has no reference
          cases rest with
          | nil => exact absurd trivial restTogether
          | cons next others =>
              rcases next with ⟨second, behind⟩
              have secondPlain := plain (second, behind) (List.mem_cons_of_mem _ List.mem_cons_self)
              have stays : forall letter, letter ∈ after ++ reference second ->
                  decide (letter ≠ '\n') = true := by
                intro letter member
                refine decide_eq_true fun same => ?_
                rw [same] at member
                exact (List.mem_append.mp member).elim broken (reference_inLine secondPlain.inLine)
              rw [renderParts, <- List.append_assoc, List.takeWhile_append_of_pos stays] at inside
              exact absurd (List.mem_append_left _
                  (List.mem_append_right _ (close_mem_reference second))) inside

end

section

theorem replaceFirst_prefix {old rest : List Char} (some : old ≠ []) (new : List Char) :
    replaceFirst old new (old ++ rest) = new ++ rest := by
  cases old with
  | nil => exact absurd rfl some
  | cons letter others =>
      rw [List.cons_append, replaceFirst, if_pos, <- List.cons_append, List.drop_left]
      rw [List.isPrefixOf_iff_prefix, <- List.cons_append]
      exact List.prefix_append _ _

/-- A reference is found in front of itself only as a whole: its dollar sign is its first letter. -/
theorem reference_prefix {expression before rest : List Char} (noDollar : '$' ∉ expression)
    (starts : reference expression <+: before ++ (reference expression ++ rest)) :
    before = [] ∨ reference expression <+: before := by
  rcases Nat.lt_or_ge before.length (reference expression).length with short | long
  · cases before with
    | nil => exact Or.inl rfl
    | cons letter others =>
        -- the second dollar sign would be a letter of the first reference behind its head
        rcases starts with ⟨behind, same⟩
        have head : letter = '$' := (List.cons.inj same).1.symm
        have tail : '(' :: (expression ++ [')']) ++ behind = others ++
            (reference expression ++ rest) :=
          (List.cons.inj same).2
        have second := congrArg (fun text => text[others.length]?) tail
        unfold reference at short
        rw [List.length_cons, List.length_cons, Nat.add_lt_add_iff_right] at short
        rw [List.getElem?_append_left short, List.getElem?_append_right (Nat.le_refl _),
            Nat.sub_self] at second
        have member : '$' ∈ '(' :: (expression ++ [')']) := List.mem_of_getElem? second
        rw [List.mem_cons, List.mem_append, List.mem_singleton] at member
        rcases member with same | inside | same
        · cases same
        · exact absurd inside noDollar
        · cases same
  · exact Or.inr (List.prefix_of_prefix_length_le starts (List.prefix_append _ _) long)

/-- The reference that is replaced is the first one. -/
theorem replaceFirst_reference {expression before : List Char} (noDollar : '$' ∉ expression)
    (missing : ¬reference expression <:+: before) (new rest : List Char) :
    replaceFirst (reference expression) new (before ++ (reference expression ++ rest)) = before ++
        (new ++ rest) := by
  induction before with
  | nil => exact replaceFirst_prefix (List.cons_ne_nil _ _) new
  | cons letter others inductionHypothesis =>
      rw [List.cons_append, replaceFirst, if_neg, inductionHypothesis fun within =>
          missing (within.trans ⟨[letter], [], by simp⟩)]
      · rfl
      · intro starts
        rw [List.isPrefixOf_iff_prefix, <- List.cons_append] at starts
        rcases reference_prefix noDollar starts with none | inside
        · cases none
        · exact missing inside.isInfix

/-- The references are replaced one after the other. -/
def replaceParts (form : List Char -> List Char) (parts : List (List Char × List Char))
    (text : List Char) : List Char :=
  parts.foldl (fun parsed part => replaceFirst (reference part.1) (form part.1) parsed) text

/-- No reference is found again in the filled text in front of it. The replacement looks for the
first occurrence in the text as it is by then, which may lie in a value that has been put in. -/
def Undisturbed (form : List Char -> List Char) : List Char -> List (List Char × List Char) -> Prop
  | _, [] => True
  | before, (expression, after) :: rest =>
      ¬reference expression <:+: before ∧
          Undisturbed form (before ++ (form expression ++ after)) rest

theorem replaceParts_undisturbed {form : List Char -> List Char}
    {parts : List (List Char × List Char)} (plain : forall part, part ∈ parts -> Plain part)
    {before : List Char} (undisturbed : Undisturbed form before parts) :
    replaceParts form parts (before ++ renderParts parts) = before ++ fillParts form parts := by
  induction parts generalizing before with
  | nil => rfl
  | cons part rest inductionHypothesis =>
      rcases part with ⟨expression, after⟩
      have here := plain _ List.mem_cons_self
      have later := inductionHypothesis
          (fun part member => plain part (List.mem_cons_of_mem _ member)) undisturbed.2
      have step := replaceFirst_reference here.noDollar undisturbed.1 (form expression)
          (after ++ renderParts rest)
      have first : replaceParts form ((expression, after) :: rest)
          (before ++ renderParts ((expression, after) :: rest)) =
          replaceParts form rest (replaceFirst (reference expression) (form expression)
            (before ++ (reference expression ++ (after ++ renderParts rest)))) := rfl
      rw [first, step, fillParts]
      rw [List.append_assoc, List.append_assoc, List.append_assoc, List.append_assoc] at later
      exact later

end

section

variable (js : Javascript) (switch : Native -> Except Stop CWLValue) (self inputs : String)

/-- The text in which the matches are replaced, unless a program fails. -/
def replaceAll : String -> List String -> Option String
  | parsed, [] => some parsed
  | parsed, found :: rest =>
      match js.run (expressionProgram self inputs (inside found)) with
      | .ok (.ok text, _) =>
          replaceAll (String.ofList (replaceFirst found.toList text.toList parsed.toList)) rest
      | _ => none

/-- The value of a text with these matches.  The copies differ in the type switch
on what a single match returns, and in the texts of their errors. -/
def answer (text : String) : List String -> Option CWLValue
  | [found] =>
      match js.run (expressionProgram self inputs (inside found)) with
      | .ok (_, exported) => (switch exported).toOption
      | .error _ => none
  | several => (replaceAll js self inputs text several).map .string

theorem replaceMatches_toOption (parsed : String) (found : List String) :
    (replaceMatches js self inputs parsed found).toOption = replaceAll js self inputs
        parsed found := by
  induction found generalizing parsed with
  | nil => rfl
  | cons expression rest inductionHypothesis =>
      rw [replaceMatches, replaceAll]
      cases js.run (expressionProgram self inputs (inside expression)) with
      | error err => rfl
      | ok answer =>
          rcases answer with ⟨_ | text, exported⟩
          · rfl
          · exact inductionHypothesis _

theorem concatenate_toOption (parsed : String) (found : List String) :
    (concatenate js self inputs parsed found).toOption = replaceAll js self inputs
        parsed found := by
  induction found generalizing parsed with
  | nil => rfl
  | cons expression rest inductionHypothesis =>
      rw [concatenate, replaceAll]
      cases js.run (expressionProgram self inputs (inside expression)) with
      | error err => rfl
      | ok answer =>
          rcases answer with ⟨_ | text, exported⟩
          · rfl
          · exact inductionHypothesis _

theorem string_toOption (computed : Except Stop String) :
    (match computed with
      | .error stop => Except.error stop
      | .ok parsed => Except.ok (CWLValue.string parsed)).toOption =
          computed.toOption.map .string := by
  cases computed <;> rfl

theorem evaluateOriginal_answer {text : String} (some : expressionMatches text ≠ []) :
    (evaluateOriginal js self inputs text).toOption =
      answer js (exportedValue js) self inputs text (expressionMatches text) := by
  unfold evaluateOriginal
  cases found : expressionMatches text with
  | nil => exact absurd found some
  | cons expression rest =>
      cases rest with
      | nil =>
          rw [answer]
          dsimp only
          cases js.run (expressionProgram self inputs (inside expression)) with
          | error err => rfl
          | ok returned => rfl
      | cons second others =>
          rw [answer, <- replaceMatches_toOption]
          · exact string_toOption _
          · rintro alone same
            cases same

theorem evaluateText_answer {text : String} (some : expressionMatches text ≠ []) :
    (evaluateText js self inputs text).toOption = answer js (returned js) self inputs text
        (expressionMatches text) := by
  unfold evaluateText
  cases found : expressionMatches text with
  | nil => exact absurd found some
  | cons expression rest =>
      cases rest with
      | nil =>
          rw [answer]
          dsimp only
          cases js.run (expressionProgram self inputs (inside expression)) with
          | error err => rfl
          | ok returned => rfl
      | cons second others =>
          rw [answer, <- concatenate_toOption]
          · exact string_toOption _
          · rintro alone same
            cases same

end

/-! ## The law -/

/-- What an expression returns: the value and its string form. -/
structure Returned where
  native : Native
  form : String
  own : forall text, native = .string text -> form = text

/-- A number of CWL, of any of its types. -/
def IsNumber (json : String) (value : CWLValue) : Prop :=
  Exists fun kind => kind ∈ ["int", "long", "float", "double"] ∧ value = .other kind json

/-- The CWL value that stands for a value of JavaScript.  For a number it is a
number again, whatever the Go type in which the VM happens to hand it over; an
array or an object is what `NewCWLType` makes of it, as it does for a function
body. -/
def IsValue (js : Javascript) : Native -> CWLValue -> Prop
  | .string text, value => value = .string text
  | .boolean own, value => value = .other "boolean" (toString own)
  | .null, value => value = .null
  | .nan, value => IsNumber "NaN" value
  | .int json, value | .int64 json, value | .uint64 json, value | .float32 json,
      value | .double json, value
  | .number _ json, value => IsNumber json value
  | .array json, value => js.newCWLType (.array json) = .ok value
  | .object json, value => js.newCWLType (.object json) = .ok value

section

variable (js : Javascript) (self inputs : Except String String) (values : List Char -> Returned)
    (template : Template)

def formOf (expression : List Char) : List Char :=
  (values expression).form.toList

/-- The VM gives these values to the expressions of the template, with `self` and the inputs.
Nothing is said of other programs, and a VM may answer those as it likes. -/
def GivesValues (run : String -> Except String (Except String String × Native)) : Prop :=
  forall selfJson inputsJson, self = .ok selfJson -> inputs = .ok inputsJson ->
      forall part, part ∈ template.parts ->
    run (expressionProgram selfJson inputsJson (String.ofList part.1)) =
      .ok (.ok (values part.1).form, (values part.1).native)

/-- The expression of a template that is nothing but a reference. -/
def Template.alone : Option (List Char) :=
  match template.first, template.parts with
  | [], [(expression, [])] => some expression
  | _, _ => none

/-- What a template stands for: the value of its reference, or the text with the string forms of the
values in their places. -/
def Stands (value : CWLValue) : Prop :=
  match template.alone with
  | some expression => IsValue js (values expression).native value
  | none => value = .string (String.ofList (template.filled (formOf values)))

/-- With every VM that gives these values, a value is computed, and it is what the template stands
for. A VM is any function from programs to values that knows the references; what it makes of
other programs is left open, so that a program which is none of them says nothing. -/
def Interpolates
    (compute : (String -> Except String (Except String String × Native)) -> Except Stop CWLValue) :
    Prop :=
  forall run, GivesValues self inputs values template run ->
    Exists fun value => compute run = .ok value ∧ Stands js values template value

/-- `NewCWLType` makes the same number of a number. A number that comes out in another type still
counts, since CWL tells its numbers apart by value. -/
def KeepsNumber (native : Native) (json : String) : Prop :=
  Exists fun value => js.newCWLType native = .ok value ∧ IsNumber json value

/-- What the type switch of `EvaluateExpression` lets through.  It refuses arrays
and what is not a number, panics at a `uint64`, and leaves every type it does not
know to `NewCWLType`. -/
def Passes : Native -> Prop
  | .nan | .uint64 _ | .array _ => False
  | .number goType json => KeepsNumber js (.number goType json) json
  | .object json => Exists fun value => js.newCWLType (.object json) = .ok value
  | _ => True

/-- The other switch does not know `int64`. -/
def PassesFrom : Native -> Prop
  | .int64 json => KeepsNumber js (.int64 json) json
  | native => Passes js native

/-- When the text comes out right: there is nothing but one reference, and its value passes the
switch; or there are several, each in its own line, with no parenthesis closed behind it there, and
each replacement falls on its reference. -/
def ComesOut (passes : Native -> Prop) : Prop :=
  (Exists fun expression => template.alone = some expression ∧ passes (values expression).native) ∨
    (2 ≤ template.parts.length ∧ Apart template.parts ∧
      replaceParts (formOf values) template.parts template.text = template.filled (formOf values))

/-- `json.Marshal` can write it. -/
def Written (json : Except String String) : Prop :=
  Exists fun text => json = .ok text

/-- `NewCWLType` makes a string of a Go string only. Otherwise a string that comes out could be
the text of something else, and nothing could be learnt from it. -/
def OnlyStringsAreStrings : Prop :=
  forall native text, js.newCWLType native = .ok (.string text) -> native = .string text

end

/-- A switch that makes values or fails, and makes a string of a string only. Both copies of the
code have a switch of their own, and the rest of the argument is the same for any two. -/
structure Switches (js : Javascript) (switch : Native -> Except Stop CWLValue)
    (passes : Native -> Prop) : Prop where
  exact_iff : forall native,
    (Exists fun value => switch native = .ok value ∧ IsValue js native value) ↔ passes native
  strings : forall native text, switch native = .ok (.string text) -> native = .string text

section

variable {js : Javascript}

/-- What `NewCWLType` decides in both switches. -/
theorem native_cases {native : Native} {value : CWLValue} {context : String} :
    (match js.newCWLType native with
      | .error err => Except.error (Stop.err (context ++ err))
      | .ok value => .ok value) = .ok value ↔ js.newCWLType native = .ok value := by
  cases js.newCWLType native with
  | error err => exact iff_of_false (by rintro ⟨⟩) (by rintro ⟨⟩)
  | ok made =>
      dsimp only
      rw [Except.ok.injEq, Except.ok.injEq]

theorem exportedValue_switches (strings : OnlyStringsAreStrings js) :
    Switches js (exportedValue js) (Passes js) := by
  constructor
  · intro native
    cases native with
    | nan => exact iff_of_false (by rintro ⟨_, ⟨⟩, _⟩) id
    | uint64 json => exact iff_of_false (by rintro ⟨_, ⟨⟩, _⟩) id
    | array json => exact iff_of_false (by rintro ⟨_, ⟨⟩, _⟩) id
    | null => exact iff_of_true ⟨_, rfl, rfl⟩ trivial
    | string text => exact iff_of_true ⟨_, rfl, rfl⟩ trivial
    | boolean own => exact iff_of_true ⟨_, rfl, rfl⟩ trivial
    | int json => exact iff_of_true ⟨_, rfl, "int", by decide, rfl⟩ trivial
    | int64 json => exact iff_of_true ⟨_, rfl, "long", by decide, rfl⟩ trivial
    | float32 json => exact iff_of_true ⟨_, rfl, "float", by decide, rfl⟩ trivial
    | double json => exact iff_of_true ⟨_, rfl, "double", by decide, rfl⟩ trivial
    | number goType json => exact exists_congr fun value => and_congr_left' native_cases
    | object json =>
        constructor
        · rintro ⟨value, _, made⟩
          exact ⟨value, made⟩
        · rintro ⟨value, made⟩
          exact ⟨value, native_cases.mpr made, made⟩
  · intro native text made
    cases native with
    | string own =>
        cases made
        rfl
    | number goType json => exact strings _ _ (native_cases.mp made)
    | object json => exact strings _ _ (native_cases.mp made)
    | _ => cases made

theorem returned_switches (strings : OnlyStringsAreStrings js) :
    Switches js (returned js) (PassesFrom js) := by
  constructor
  · intro native
    cases native with
    | nan => exact iff_of_false (by rintro ⟨_, ⟨⟩, _⟩) id
    | uint64 json => exact iff_of_false (by rintro ⟨_, ⟨⟩, _⟩) id
    | array json => exact iff_of_false (by rintro ⟨_, ⟨⟩, _⟩) id
    | null => exact iff_of_true ⟨_, rfl, rfl⟩ trivial
    | string text => exact iff_of_true ⟨_, rfl, rfl⟩ trivial
    | boolean own => exact iff_of_true ⟨_, rfl, rfl⟩ trivial
    | int json => exact iff_of_true ⟨_, rfl, "int", by decide, rfl⟩ trivial
    | int64 json => exact exists_congr fun value => and_congr_left' native_cases
    | float32 json => exact iff_of_true ⟨_, rfl, "float", by decide, rfl⟩ trivial
    | double json => exact iff_of_true ⟨_, rfl, "double", by decide, rfl⟩ trivial
    | number goType json => exact exists_congr fun value => and_congr_left' native_cases
    | object json =>
        constructor
        · rintro ⟨value, _, made⟩
          exact ⟨value, made⟩
        · rintro ⟨value, made⟩
          exact ⟨value, native_cases.mpr made, made⟩
  · intro native text made
    cases native with
    | string own =>
        cases made
        rfl
    | int64 json => exact strings _ _ (native_cases.mp made)
    | number goType json => exact strings _ _ (native_cases.mp made)
    | object json => exact strings _ _ (native_cases.mp made)
    | _ => cases made

end

section

variable {self inputs : String} {values : List Char -> Returned} {template : Template}

theorem expressionProgram_injective {first second : String}
    (same : expressionProgram self inputs first = expressionProgram self inputs second) :
    first = second := by
  have letters := congrArg String.toList same
  unfold expressionProgram at letters
  simp only [String.toList_append, List.append_assoc] at letters
  have tail := List.append_cancel_left (List.append_cancel_left (List.append_cancel_left
    (List.append_cancel_left (List.append_cancel_left letters))))
  exact String.toList_injective (List.append_cancel_right tail)

variable (self inputs values template) in
def strictRun (program : String) : Except String (Except String String × Native) :=
  match template.parts.find? fun part => program = expressionProgram self inputs
      (String.ofList part.1) with
  | some part => .ok (.ok (values part.1).form, (values part.1).native)
  | none => .error "SyntaxError"

theorem strictRun_givesValues :
    GivesValues (.ok self) (.ok inputs) values template
        (strictRun self inputs values template) := by
  intro selfJson inputsJson isSelf isInputs part member
  cases isSelf
  cases isInputs
  unfold strictRun
  cases found : template.parts.find? fun other =>
      expressionProgram self inputs (String.ofList part.1) = expressionProgram self inputs
          (String.ofList other.1) with
  | none =>
      have missing := List.find?_eq_none.mp found part member
      exact absurd (decide_eq_true rfl) missing
  | some other =>
      have same : expressionProgram self inputs (String.ofList part.1) =
          expressionProgram self inputs (String.ofList other.1) := by
            simpa using List.find?_some found
      rw [String.ofList_injective (expressionProgram_injective same)]

theorem strictRun_refuses {text : List Char}
    (missing : forall part, part ∈ template.parts -> part.1 ≠ text) :
    strictRun self inputs values template (expressionProgram self inputs (String.ofList text)) =
        .error "SyntaxError" := by
  unfold strictRun
  rw [List.find?_eq_none.mpr]
  intro part member same
  exact missing part member
      (String.ofList_injective (expressionProgram_injective (of_decide_eq_true same))).symm

end

/-! ## The value of a template -/

section

variable {js : Javascript} {switch : Native -> Except Stop CWLValue} {self inputs : String}
variable {values : List Char -> Returned} {template : Template}

theorem inside_reference (expression : List Char) :
    inside (String.ofList (reference expression)) = String.ofList expression := by
  unfold inside reference
  rw [String.toList_ofList, List.drop_succ_cons, List.drop_succ_cons, List.drop_zero,
      List.dropLast_concat]

theorem inside_longer (expression longer : List Char) :
    inside (String.ofList (reference expression ++ (longer ++ [')']))) =
      String.ofList (expression ++ ')' :: longer) := by
  have longerReference : reference expression ++ (longer ++ [')']) = reference
      (expression ++ ')' :: longer) := by
    unfold reference
    simp only [List.cons_append, List.append_assoc, List.nil_append]
  rw [longerReference, inside_reference]

theorem Template.alone_eq {expression : List Char} (alone : template.alone = some expression) :
    template.first = [] ∧ template.parts = [(expression, [])] := by
  rcases template with ⟨_ | _, parts⟩
  · rcases parts with _ | ⟨⟨first, _ | _⟩, _ | _⟩
    all_goals cases alone
    exact ⟨rfl, rfl⟩
  · cases alone

theorem lineMatches_text (wellFormed : template.WellFormed) :
    lineMatches template.text = lineMatches (renderParts template.parts) :=
  lineMatches_plain_append wellFormed.firstNoDollar _

theorem expressionMatches_ne_nil (wellFormed : template.WellFormed) :
    expressionMatches (String.ofList template.text) ≠ [] := by
  rw [expressionMatches_eq, lineMatches_text wellFormed]
  by_cases apart : Apart template.parts
  · rw [lineMatches_apart wellFormed.plain apart]
    intro none
    exact wellFormed.some (List.map_eq_nil_iff.mp (List.map_eq_nil_iff.mp none))
  · rcases lineMatches_not_apart wellFormed.plain apart with ⟨_, _, _, found⟩
    exact List.ne_nil_of_mem (List.mem_map_of_mem found)

/-- A program that fails leaves no text. -/
theorem replaceAll_fails {found : List String} {bad err : String} (member : bad ∈ found)
    (fails : js.run (expressionProgram self inputs (inside bad)) = .error err) (parsed : String) :
    replaceAll js self inputs parsed found = none := by
  induction found generalizing parsed with
  | nil => cases member
  | cons first rest inductionHypothesis =>
      rw [replaceAll]
      rcases List.mem_cons.mp member with rfl | later
      · rw [fails]
      · cases js.run (expressionProgram self inputs (inside first)) with
        | error err => rfl
        | ok returned =>
            rcases returned with ⟨_ | text, exported⟩
            · rfl
            · exact inductionHypothesis later _

theorem answer_fails {found : List String} {bad err : String} (member : bad ∈ found)
    (fails : js.run (expressionProgram self inputs (inside bad)) = .error err) (text : String) :
    answer js switch self inputs text found = none := by
  cases found with
  | nil => cases member
  | cons first rest =>
      cases rest with
      | nil =>
          rw [answer, <- List.mem_singleton.mp member, fails]
      | cons second others =>
          rw [answer, replaceAll_fails member fails]
          · rfl
          · intro alone same
            cases same

theorem replaceAll_references {parts : List (List Char × List Char)} (text : List Char)
    (gives : forall part, part ∈ parts ->
    js.run (expressionProgram self inputs (String.ofList part.1)) =
      .ok (.ok (values part.1).form, (values part.1).native)) :
    replaceAll js self inputs (String.ofList text)
        (parts.map fun part => String.ofList (reference part.1)) =
      some (String.ofList (replaceParts (formOf values) parts text)) := by
  induction parts generalizing text with
  | nil => rfl
  | cons part rest inductionHypothesis =>
      rw [List.map_cons, replaceAll, inside_reference, gives part List.mem_cons_self]
      dsimp only
      rw [String.toList_ofList, String.toList_ofList]
      exact inductionHypothesis _ fun part member => gives part (List.mem_cons_of_mem _ member)

theorem expressionMatches_apart (wellFormed : template.WellFormed) (apart : Apart template.parts) :
    expressionMatches (String.ofList template.text) =
      template.parts.map fun part => String.ofList (reference part.1) := by
  rw [expressionMatches_eq, lineMatches_text wellFormed, lineMatches_apart wellFormed.plain apart,
      List.map_map]
  rfl

/-- The value of a template with one reference that stands apart. -/
theorem answer_single (wellFormed : template.WellFormed) {part : List Char × List Char}
    (count : template.parts = [part]) (apart : Apart template.parts)
    {run : String -> Except String (Except String String × Native)}
    (gives : GivesValues (.ok self) (.ok inputs) values template run) :
    answer { js with run } switch self inputs (String.ofList template.text)
      (expressionMatches (String.ofList template.text)) =
          (switch (values part.1).native).toOption := by
  have here := gives self inputs rfl rfl part (by rw [count]; exact List.mem_cons_self)
  rw [expressionMatches_apart wellFormed apart, count, List.map_cons, List.map_nil, answer,
      inside_reference]
  dsimp only
  rw [here]

/-- The value of a template with several references that stand apart. -/
theorem answer_several (wellFormed : template.WellFormed) (several : 2 ≤ template.parts.length)
    (apart : Apart template.parts) {run : String -> Except String (Except String String × Native)}
    (gives : GivesValues (.ok self) (.ok inputs) values template run) :
    answer { js with run } switch self inputs (String.ofList template.text)
      (expressionMatches (String.ofList template.text)) =
      some (.string (String.ofList
          (replaceParts (formOf values) template.parts template.text))) := by
  have whole := @replaceAll_references { js with run } self inputs values
      template.parts template.text
    (gives self inputs rfl rfl)
  rw [expressionMatches_apart wellFormed apart, answer, whole]
  · rfl
  · intro alone single
    have size := congrArg List.length single
    rw [List.length_map, List.length_singleton] at size
    omega

/-- Where they do not, a VM that knows the values refuses the match that goes on behind its
reference. -/
theorem answer_not_apart (wellFormed : template.WellFormed) (together : ¬Apart template.parts) :
    answer { js with run := strictRun self inputs values template } switch self inputs
        (String.ofList template.text)
      (expressionMatches (String.ofList template.text)) = none := by
  rcases lineMatches_not_apart wellFormed.plain together with ⟨part, member, longer, found⟩
  rw [expressionMatches_eq, lineMatches_text wellFormed]
  refine answer_fails (List.mem_map_of_mem found) (?_ : _ = Except.error "SyntaxError") _
  rw [inside_longer]
  refine strictRun_refuses fun other otherMember same => ?_
  have balanced := (wellFormed.plain other otherMember).balanced
  rw [same] at balanced
  exact not_balanced (wellFormed.plain part member).balanced longer balanced

theorem apart_of_alone {expression : List Char} (parts : template.parts = [(expression, [])]) :
    Apart template.parts := by
  rw [parts]
  exact ⟨List.not_mem_nil, trivial⟩

end

/-! ## When the text comes out right -/

section

variable {js : Javascript} {switch : Native -> Except Stop CWLValue} {passes : Native -> Prop}
variable {self inputs : String} {values : List Char -> Returned} {template : Template}

theorem Template.alone_none_of_several (several : 2 ≤ template.parts.length) :
    template.alone = none := by
  cases alone : template.alone with
  | none => rfl
  | some expression =>
      rw [(template.alone_eq alone).2, List.length_singleton] at several
      omega

/-- A single reference with a text around it stands for a longer text than its value. -/
theorem filled_longer {part : List Char × List Char} (parts : template.parts = [part])
    (around : template.alone = none) :
    (values part.1).form ≠ String.ofList (template.filled (formOf values)) := by
  rcases template with ⟨first, others⟩
  rcases part with ⟨expression, after⟩
  cases parts
  intro same
  have letters : formOf values expression = first ++ (formOf values expression ++ (after ++ [])) :=
    (congrArg String.toList same).trans String.toList_ofList
  have size := congrArg List.length letters
  rw [List.length_append, List.length_append, List.length_append, List.length_nil] at size
  have noFirst : first = [] := List.eq_nil_of_length_eq_zero (by omega)
  have noAfter : after = [] := List.eq_nil_of_length_eq_zero (by omega)
  subst noFirst noAfter
  cases around

theorem stands_of_alone {expression : List Char} (alone : template.alone = some expression)
    (value : CWLValue) :
    Stands js values template value ↔ IsValue js (values expression).native value := by
  unfold Stands
  rw [alone]

theorem stands_of_text (around : template.alone = none) (value : CWLValue) :
    Stands js values template value ↔
    value = .string (String.ofList (template.filled (formOf values))) := by
  unfold Stands
  rw [around]

theorem toOption_eq_some {computed : Except Stop CWLValue} {value : CWLValue} :
    computed.toOption = some value ↔ computed = .ok value := by
  cases computed with
  | error stop => exact iff_of_false (by rintro ⟨⟩) (by rintro ⟨⟩)
  | ok own => exact ⟨fun same => congrArg Except.ok (Option.some.inj same), fun same =>
      congrArg some (Except.ok.inj same)⟩

/-- The VM that knows nothing but the values decides when the text comes out. -/
theorem comesOut_of_answer (switches : Switches js switch passes) (wellFormed : template.WellFormed)
    {value : CWLValue}
    (computed : answer { js with run := strictRun self inputs values template } switch self inputs
      (String.ofList template.text) (expressionMatches (String.ofList template.text)) = some value)
    (stands : Stands js values template value) : ComesOut values template passes := by
  by_cases apart : Apart template.parts
  · rcases Nat.lt_or_ge template.parts.length 2 with few | several
    · rcases List.length_eq_one_iff.mp (Nat.le_antisymm (Nat.le_of_lt_succ few)
        (List.length_pos_of_ne_nil wellFormed.some)) with ⟨part, count⟩
      rw [answer_single wellFormed count apart strictRun_givesValues, toOption_eq_some] at computed
      cases alone : template.alone with
      | none =>
          rw [stands_of_text alone] at stands
          rw [stands] at computed
          exact absurd ((values part.1).own _ (switches.strings _ _ computed))
              (filled_longer count alone)
      | some expression =>
          have same := (template.alone_eq alone).2
          rw [count] at same
          cases same
          rw [stands_of_alone alone] at stands
          exact Or.inl ⟨expression, alone, (switches.exact_iff _).mp ⟨value, computed, stands⟩⟩
    · refine Or.inr ⟨several, apart, ?_⟩
      rw [stands_of_text (Template.alone_none_of_several several)] at stands
      rw [answer_several wellFormed several apart strictRun_givesValues, stands] at computed
      exact String.ofList_injective (CWLValue.string.inj (Option.some.inj computed))
  · rw [answer_not_apart wellFormed apart] at computed
    cases computed

theorem answer_of_comesOut (switches : Switches js switch passes) (wellFormed : template.WellFormed)
    (sound : ComesOut values template passes)
    {run : String -> Except String (Except String String × Native)}
    (gives : GivesValues (.ok self) (.ok inputs) values template run) :
    Exists fun value => answer { js with run } switch self inputs (String.ofList template.text)
      (expressionMatches (String.ofList template.text)) = some value ∧
          Stands js values template value := by
  rcases sound with ⟨expression, alone, pass⟩ | ⟨several, apart, replaced⟩
  · have parts := (template.alone_eq alone).2
    rcases (switches.exact_iff _).mpr pass with ⟨value, made, isValue⟩
    refine ⟨value, ?_, (stands_of_alone alone value).mpr isValue⟩
    rw [answer_single wellFormed parts (apart_of_alone parts) gives, toOption_eq_some]
    exact made
  · refine ⟨_, answer_several wellFormed several apart gives, ?_⟩
    rw [stands_of_text (Template.alone_none_of_several several), replaced]

/-- Both copies give every VM the same texts, so one condition decides both, up to the type switch.
-/
theorem interpolates_iff_of_answer (switches : Switches js switch passes)
    (wellFormed : template.WellFormed)
    {compute : (String -> Except String (Except String String × Native)) -> Except Stop CWLValue}
    {selfText inputsText : Except String String}
    (computes : forall self inputs, selfText = .ok self -> inputsText = .ok inputs ->
      forall run, (compute run).toOption = answer { js with run } switch self inputs
      (String.ofList template.text)
        (expressionMatches (String.ofList template.text)))
    (stops : ¬(Written selfText ∧ Written inputsText) ->
        forall run, (compute run).toOption = none) :
    Interpolates js selfText inputsText values template compute ↔
      Written selfText ∧ Written inputsText ∧ ComesOut values template passes := by
  by_cases written : Written selfText ∧ Written inputsText
  · rcases written with ⟨⟨self, isSelf⟩, inputs, isInputs⟩
    constructor
    · intro law
      refine ⟨⟨self, isSelf⟩, ⟨inputs, isInputs⟩, ?_⟩
      rw [isSelf, isInputs] at law
      rcases law (strictRun self inputs values template) strictRun_givesValues with
          ⟨value, computed, stands⟩
      rw [<- toOption_eq_some, computes self inputs isSelf isInputs] at computed
      exact comesOut_of_answer switches wellFormed computed stands
    · rintro ⟨_, _, sound⟩ run gives
      rw [isSelf, isInputs] at gives
      rcases answer_of_comesOut switches wellFormed sound gives with ⟨value, computed, stands⟩
      rw [<- computes self inputs isSelf isInputs, toOption_eq_some] at computed
      exact ⟨value, computed, stands⟩
  · refine iff_of_false (fun law => ?_) fun given => written ⟨given.1, given.2.1⟩
    rcases law js.run (fun self inputs isSelf isInputs =>
        absurd ⟨⟨self, isSelf⟩, inputs, isInputs⟩ written) with
      ⟨value, computed, _⟩
    have none := stops written js.run
    rw [computed] at none
    cases none

end

private def constantVM : Javascript :=
  Javascript.plain
    (fun native =>
      match native with
      | .string text => .ok (.string text)
      | .object json => .ok (.other "File" json)
      | _ => .error "(NewCWLType) Type unknown")
    (fun _ => "null") (fun _ => "{}") fun _ => .ok (.ok "v", .string "v")

private def constantly (_ : List Char) : Returned where
  native := .string "v"
  form := "v"
  own := fun _ same => Native.string.inj same

private def inText : Template where
  first := "in ".toList
  parts := [("a".toList, [])]

private def twoLines : Template where
  first := "x ".toList
  parts := [("a".toList, "\ny ".toList), ("b".toList, [])]

end Interpolation
end Core
end Awe
