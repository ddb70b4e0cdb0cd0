import Awe.Worker.Arguments

namespace Awe
namespace Worker
namespace Arguments

open Lib Lib.Path

/-!
# The names and variables of an argument

An argument is a sequence of bytes, of names behind an `@` and of variables.
What it should become is these parts, each replaced at once.  The code replaces
the names first, which gives the line of the argument, and then one variable after
the other, each at its first occurrence; without a variable a last `@` is looked at
once more.  The two agree on the arguments that are called handled here: the paths
bring in no variable, no variable's text occurs in front of it after the
replacement, and without a variable every `@` begins the name of an input file.

In a string a quote may open in the middle of an argument.  The names are replaced
while the quote is still there, so it ends a name that would go on without it, and
the two sides of the quote are replaced each by itself.
-/

/-! ## What an argument means -/

/-- A part of an argument: a byte, a name behind an `@`, or a variable. The replacement is
described on parts, where a name cannot be mistaken for the bytes of a path. -/
inductive Part where
  | byte (value : UInt8)
  | file (name : Bytes)
  | environment (name : Bytes)
  deriving DecidableEq, Repr

/-- What is being read of a part. -/
inductive PartReading where
  | text
  | file (name : Bytes)
  | dollar
  | braced (name : Bytes)
  deriving DecidableEq, Repr

/-- The first byte of a part. -/
def beginPart (byte : UInt8) : List Part × PartReading :=
  if byte = atByte then ([], .file [])
  else if byte = dollarByte then ([], .dollar)
  else ([.byte byte], .text)

/-- A byte behind parts that are complete. -/
def endParts (parts : List Part) (byte : UInt8) : List Part × PartReading :=
  (parts ++ (beginPart byte).1, (beginPart byte).2)

/-- A name behind an `@`, or the `@` alone. -/
def filePart (name : Bytes) : List Part :=
  if name = [] then [.byte atByte] else [.file name]

def bytesPart (bytes : Bytes) : List Part :=
  bytes.map .byte

/-- The parts of an argument. -/
def argParts : Scanner UInt8 Part PartReading where
  step
    | .text, byte => beginPart byte
    | .file name, byte =>
        if isNameByte byte then ([], .file (name ++ [byte])) else endParts (filePart name) byte
    | .dollar, byte =>
        if byte = openBrace then ([], .braced []) else endParts (bytesPart [dollarByte]) byte
    | .braced name, byte =>
        if isWordByte byte then ([], .braced (name ++ [byte]))
        else if byte = closeBrace ∧ name ≠ [] then ([.environment name], .text)
        else endParts (bytesPart (dollarByte :: openBrace :: name)) byte
  finish
    | .text => []
    | .file name => filePart name
    | .dollar => bytesPart [dollarByte]
    | .braced name => bytesPart (dollarByte :: openBrace :: name)

def partsOf (arg : Bytes) : List Part :=
  argParts.run .text arg

def variableName : Part -> Option Bytes
  | .byte _ => none
  | .file _ => none
  | .environment name => some name

/-- The names of the variables in an argument. -/
def variablesIn (arg : Bytes) : List Bytes :=
  (partsOf arg).filterMap variableName

/-- An argument as it is written: what is bare, and what stands between quotes behind
that.  In an array everything is bare. -/
structure Written where
  bare : Bytes
  quoted : Bytes := []

def Written.text (arg : Written) : Bytes :=
  arg.bare ++ arg.quoted

section

variable (inputs : List String) (workpath : String) (getenv : Bytes -> Bytes)

/-- What stands for a part in the end: the path of the input file that it names, or the value
of the variable. -/
def valueOf : Part -> Bytes
  | .byte value => [value]
  | .file name => replaceWithFullPath inputs workpath name
  | .environment name => getenv name

/-- All parts replaced at once. -/
def substitute (arg : Bytes) : Bytes :=
  (partsOf arg).flatMap (valueOf inputs workpath getenv)

/-- An input file may have a name with other characters.  It is named by all that stands
behind the last `@`, unless the name characters there are the name of an input file
themselves. -/
def namedBehind (arg : Bytes) : Option (Bytes × Bytes) :=
  match (arg.splitOn atByte).reverse with
  | name :: second :: others =>
      if inputsNamed inputs name ≠ [] ∧
          (name.takeWhile isNameByte = [] ∨ inputsNamed inputs (name.takeWhile isNameByte) = [])
              then
        some ([atByte].intercalate (second :: others).reverse, name)
      else none
  | _ => none

/-- An argument with its names and variables replaced. -/
def expected (arg : Bytes) : Bytes :=
  match namedBehind inputs arg with
  | some (front, name) => substitute inputs workpath getenv front ++ replaceWithFullPath
      inputs workpath name
  | none => substitute inputs workpath getenv arg

/-- The line of an argument: its names are replaced, and its variables are not. -/
def lineOf (arg : Written) : Bytes :=
  replaceFilepath inputs workpath arg.bare ++ replaceFilepath inputs workpath arg.quoted

/-- The quote cuts no name in two: the line is that of the argument without its quote. -/
def Joined (arg : Written) : Prop :=
  lineOf inputs workpath arg = replaceFilepath inputs workpath arg.text

/-- The text of no variable occurs in what stands in front of it after the replacement.
`strings.Replace` takes the first occurrence, wherever it comes from. -/
def Undisturbed (arg : Bytes) : Prop :=
  forall before name later, partsOf arg = before ++ .environment name :: later ->
    ¬ variableText name <:+: before.flatMap (valueOf inputs workpath getenv)

/-- Every `@` begins the name of an input file, and no path brings in another. -/
def AllNamed (arg : Written) : Prop :=
  Joined inputs workpath arg ∧ atByte ∉ lineOf inputs workpath arg

/-- One `@` is left, and all that stands behind it is the name of one input file.  It
was left because the name has other characters than those that are looked for, or
because a quote opens within it. -/
def LastNamed (arg : Written) : Prop :=
  Exists fun front => Exists fun name => Exists fun fileName =>
    arg.text = front ++ atByte :: name ∧ atByte ∉ name ∧ inputsNamed inputs name = [fileName] ∧
      atByte ∉ replaceFilepath inputs workpath front ∧
      lineOf inputs workpath arg = replaceFilepath inputs workpath front ++ atByte :: name ∧
      (name.takeWhile isNameByte = [] ∨ inputsNamed inputs (name.takeWhile isNameByte) = [] ∨
        name.takeWhile isNameByte = name)

/-- The condition on an argument with variables. It is about one argument, and the arguments of a
command are handled one by one. -/
structure VariablesHandled (arg : Written) : Prop where
  joined : Joined inputs workpath arg
  /-- The names are those that can be found with name characters alone. -/
  named : namedBehind inputs arg.text = none
  undisturbed : Undisturbed inputs workpath getenv arg.text

/-- The condition on an argument: the paths that come in make no variable and break
none, and then it depends on whether there are variables. -/
structure Handled (arg : Written) : Prop where
  sameVariables : variablesOf (lineOf inputs workpath arg) = variablesIn arg.text
  without : variablesIn arg.text = [] -> AllNamed inputs workpath arg ∨
      LastNamed inputs workpath arg
  withVariables : variablesIn arg.text ≠ [] -> VariablesHandled inputs workpath getenv arg

/-- Two `@` or more are left, which is an error. -/
def Refused (arg : Written) : Prop :=
  variablesOf (lineOf inputs workpath arg) = [] ∧ 2 ≤ (lineOf inputs workpath arg).count atByte

end

section

variable {inputs : List String} {workpath : String} {getenv : Bytes -> Bytes}

/-- The text of a line whose files are replaced, from a state of the scanner on. -/
def replacedFrom (inputs : List String) (workpath : String) (state : Option Bytes) (text : Bytes) :
    Bytes :=
  replaceAll (replaceWithFullPath inputs workpath) (fileTokens.run state text)

/-- What a name behind an `@` becomes. -/
def nameText (inputs : List String) (workpath : String) (name : Bytes) : Bytes :=
  if name = [] then [atByte] else replaceWithFullPath inputs workpath name

theorem replaceAll_append (replace : Bytes -> Bytes) (front back : List Token) :
    replaceAll replace (front ++ back) = replaceAll replace front ++ replaceAll replace back :=
  List.flatMap_append

theorem replaceAll_fileToken (name : Bytes) :
    replaceAll (replaceWithFullPath inputs workpath) (fileToken name) = nameText inputs
        workpath name := by
  unfold fileToken nameText
  by_cases empty : name = []
  · rw [if_pos empty, if_pos empty]
    rfl
  · rw [if_neg empty, if_neg empty]
    exact List.append_nil _

theorem replacedFrom_none_cons (byte : UInt8) (rest : Bytes) :
    replacedFrom inputs workpath none (byte :: rest) =
      if byte = atByte then replacedFrom inputs workpath (some []) rest
      else byte :: replacedFrom inputs workpath none rest := by
  unfold replacedFrom
  by_cases mark : byte = atByte
  · rw [if_pos mark, Scanner.run]
    simp only [fileTokens, if_pos mark, List.nil_append]
  · rw [if_neg mark, Scanner.run]
    simp only [fileTokens, if_neg mark]
    rfl

theorem replacedFrom_some_nil (name : Bytes) :
    replacedFrom inputs workpath (some name) [] = nameText inputs workpath name :=
  replaceAll_fileToken name

theorem replacedFrom_some_cons (name : Bytes) (byte : UInt8) (rest : Bytes) :
    replacedFrom inputs workpath (some name) (byte :: rest) =
      if isNameByte byte then replacedFrom inputs workpath (some (name ++ [byte])) rest
      else nameText inputs workpath name ++ replacedFrom inputs workpath none (byte :: rest) := by
  rw [replacedFrom_none_cons]
  unfold replacedFrom
  by_cases inName : isNameByte byte = true
  · rw [if_pos inName, Scanner.run]
    simp only [fileTokens, if_pos inName, List.nil_append]
  · rw [if_neg inName, Scanner.run]
    by_cases mark : byte = atByte
    · simp only [fileTokens, if_neg inName, if_pos mark]
      rw [replaceAll_append, replaceAll_fileToken]
    · simp only [fileTokens, if_neg inName, if_neg mark]
      rw [List.append_assoc, replaceAll_append, replaceAll_fileToken]
      rfl

/-! ## The line of an argument -/

/-- The text of a part when the files are replaced and the variables are not. -/
def fileText (inputs : List String) (workpath : String) : Part -> Bytes
  | .byte value => [value]
  | .file name => replaceWithFullPath inputs workpath name
  | .environment name => variableText name

/-- The name that is being read by the scanner for files. -/
def PartReading.file? : PartReading -> Option Bytes
  | .text => none
  | .file name => some name
  | .dollar => none
  | .braced _ => none

/-- What the scanner for files has written already. -/
def PartReading.held : PartReading -> Bytes
  | .text => []
  | .file _ => []
  | .dollar => [dollarByte]
  | .braced name => dollarByte :: openBrace :: name

theorem name_byte_plain {byte : UInt8} (inName : isNameByte byte = true) :
    byte ≠ atByte ∧ byte ≠ dollarByte ∧ byte ≠ quoteByte ∧ byte ≠ spaceByte := by
  refine ⟨?_, ?_, ?_, ?_⟩
  all_goals
    rintro rfl
    exact absurd inName (by decide)

theorem word_byte_plain {byte : UInt8} (inWord : isWordByte byte = true) :
    byte ≠ atByte ∧ byte ≠ dollarByte := by
  have inName : isNameByte byte = true := by
    rw [isNameByte, inWord]
    rfl
  exact ⟨(name_byte_plain inName).1, (name_byte_plain inName).2.1⟩

/-- The path of an input file, or the name behind an `@` as it stands. -/
theorem replaceWithFullPath_cases (inputs : List String) (workpath : String) (name : Bytes) :
    (Exists fun fileName => fileName ∈ inputs ∧ Utf8.ofString fileName = name ∧
        replaceWithFullPath inputs workpath name = inputFilePath workpath fileName) ∨
      (inputsNamed inputs name = [] ∧ replaceWithFullPath inputs workpath name =
          atByte :: name) := by
  unfold replaceWithFullPath
  cases found : inputsNamed inputs name with
  | nil => exact Or.inr ⟨rfl, rfl⟩
  | cons fileName others =>
      have member : fileName ∈ inputsNamed inputs name := by
        rw [found]
        exact List.mem_cons_self
      rw [inputsNamed, List.mem_filter] at member
      exact Or.inl ⟨fileName, member.1, of_decide_eq_true member.2, rfl⟩

theorem fileText_bytes (bytes : Bytes) :
    (bytesPart bytes).flatMap (fileText inputs workpath) = bytes := by
  induction bytes with
  | nil => rfl
  | cons byte rest inductionHypothesis => exact congrArg (byte :: ·) inductionHypothesis

theorem fileText_filePart (name : Bytes) :
    (filePart name).flatMap (fileText inputs workpath) = nameText inputs workpath name := by
  unfold filePart nameText
  by_cases empty : name = []
  · rw [if_pos empty, if_pos empty]
    rfl
  · rw [if_neg empty, if_neg empty]
    exact List.append_nil _

theorem fileText_endParts (parts : List Part) (byte : UInt8) (rest : Bytes) :
    ((endParts parts byte).1 ++ argParts.run (endParts parts byte).2 rest).flatMap
        (fileText inputs workpath) =
      parts.flatMap (fileText inputs workpath) ++
        ((beginPart byte).1 ++ argParts.run (beginPart byte).2 rest).flatMap
            (fileText inputs workpath) := by
  rw [endParts, List.append_assoc, List.flatMap_append]

/-- The scanner for files and that of the parts read the same names.  A variable that is
being read is still held by the one and has been written by the other. -/
theorem replacedFrom_parts (text : Bytes) (state : PartReading) :
    state.held ++ replacedFrom inputs workpath state.file? text =
      (argParts.run state text).flatMap (fileText inputs workpath) := by
  induction text generalizing state with
  | nil =>
      cases state with
      | text => rfl
      | dollar => rfl
      | file name => exact (replacedFrom_some_nil name).trans (fileText_filePart name).symm
      | braced name => exact (List.append_nil _).trans (fileText_bytes _).symm
  | cons byte rest inductionHypothesis =>
      have begun : replacedFrom inputs workpath none (byte :: rest) =
          ((beginPart byte).1 ++ argParts.run (beginPart byte).2 rest).flatMap
              (fileText inputs workpath) := by
        rw [replacedFrom_none_cons]
        unfold beginPart
        by_cases mark : byte = atByte
        · rw [if_pos mark, if_pos mark]
          exact inductionHypothesis (.file [])
        · rw [if_neg mark, if_neg mark]
          by_cases dollar : byte = dollarByte
          · rw [if_pos dollar, dollar]
            exact inductionHypothesis .dollar
          · rw [if_neg dollar]
            exact congrArg (byte :: ·) (inductionHypothesis .text)
      cases state with
      | text => exact begun
      | dollar =>
          rw [Scanner.run]
          by_cases opening : byte = openBrace
          · have step : argParts.step .dollar byte = ([], .braced []) := if_pos opening
            have plain : byte ≠ atByte := by
              rw [opening]
              decide
            rw [step, PartReading.file?, replacedFrom_none_cons, if_neg plain, opening]
            exact inductionHypothesis (.braced [])
          · have step : argParts.step .dollar byte = endParts (bytesPart [dollarByte]) byte :=
              if_neg opening
            rw [step, fileText_endParts, fileText_bytes, <- begun]
            rfl
      | braced name =>
          rw [Scanner.run]
          by_cases inWord : isWordByte byte = true
          · have step : argParts.step (.braced name) byte = ([], .braced (name ++ [byte])) :=
              if_pos inWord
            rw [step, PartReading.file?, replacedFrom_none_cons, if_neg (word_byte_plain inWord).1,
                List.nil_append,
              <- inductionHypothesis (.braced (name ++ [byte]))]
            simp only [PartReading.held, PartReading.file?, List.cons_append, List.append_assoc,
                List.nil_append]
          · by_cases closing : byte = closeBrace ∧ name ≠ []
            · have step : argParts.step (.braced name) byte = ([.environment name], .text) := by
                simp only [argParts]
                rw [if_neg inWord, if_pos closing]
              have plain : byte ≠ atByte := by
                rw [closing.1]
                decide
              rw [step, PartReading.file?, replacedFrom_none_cons, if_neg plain, closing.1,
                  List.flatMap_append,
                <- inductionHypothesis .text]
              simp only [PartReading.held, PartReading.file?, List.flatMap_singleton,
                  fileText, variableText,
                List.cons_append, List.append_assoc, List.nil_append]
            · have step : argParts.step (.braced name) byte =
                  endParts (bytesPart (dollarByte :: openBrace :: name)) byte := by
                simp only [argParts]
                rw [if_neg inWord, if_neg closing]
              rw [step, fileText_endParts, fileText_bytes, <- begun]
              rfl
      | file name =>
          rw [Scanner.run, PartReading.file?, replacedFrom_some_cons]
          by_cases inName : isNameByte byte = true
          · have step : argParts.step (.file name) byte = ([], .file (name ++ [byte])) :=
              if_pos inName
            rw [step, if_pos inName]
            exact inductionHypothesis (.file (name ++ [byte]))
          · have step : argParts.step (.file name) byte = endParts (filePart name) byte :=
              if_neg inName
            rw [step, if_neg inName, fileText_endParts, fileText_filePart, <- begun]
            rfl

/-- A text whose files are replaced, by its parts. -/
theorem replaceFilepath_eq (text : Bytes) :
    replaceFilepath inputs workpath text = (partsOf text).flatMap (fileText inputs workpath) :=
  replacedFrom_parts text .text

/-! ## One variable after the other -/

/-- The bytes that the names of the parts have. -/
def WellNamed : Part -> Prop
  | .byte _ => True
  | .file name => forall byte, byte ∈ name -> isNameByte byte = true
  | .environment name => name ≠ [] ∧ forall byte, byte ∈ name -> isWordByte byte = true

/-- The same of a name that is being read. -/
def WellRead : PartReading -> Prop
  | .text => True
  | .file name => forall byte, byte ∈ name -> isNameByte byte = true
  | .dollar => True
  | .braced name => forall byte, byte ∈ name -> isWordByte byte = true

theorem bytesPart_named (bytes : Bytes) :
    forall part, part ∈ bytesPart bytes -> WellNamed part := by
  intro part member
  rcases List.mem_map.mp member with ⟨byte, -, rfl⟩
  trivial

theorem filePart_named {name : Bytes} (named : forall byte, byte ∈ name -> isNameByte byte = true) :
    forall part, part ∈ filePart name -> WellNamed part := by
  intro part member
  unfold filePart at member
  by_cases empty : name = []
  · rw [if_pos empty] at member
    rw [List.mem_singleton.mp member]
    trivial
  · rw [if_neg empty] at member
    rw [List.mem_singleton.mp member]
    exact named

theorem beginPart_wellNamed (byte : UInt8) :
    (forall part, part ∈ (beginPart byte).1 -> WellNamed part) ∧ WellRead (beginPart byte).2 := by
  unfold beginPart
  by_cases mark : byte = atByte
  · rw [if_pos mark]
    exact ⟨List.forall_mem_nil _, List.forall_mem_nil _⟩
  · rw [if_neg mark]
    by_cases dollar : byte = dollarByte
    · rw [if_pos dollar]
      exact ⟨List.forall_mem_nil _, trivial⟩
    · rw [if_neg dollar]
      exact ⟨bytesPart_named [byte], trivial⟩

theorem endParts_wellNamed {parts : List Part} (named : forall part, part ∈ parts -> WellNamed part)
    (byte : UInt8) :
    (forall part, part ∈ (endParts parts byte).1 -> WellNamed part) ∧
    WellRead (endParts parts byte).2 := by
  refine ⟨?_, (beginPart_wellNamed byte).2⟩
  intro part member
  rcases List.mem_append.mp member with old | new
  · exact named part old
  · exact (beginPart_wellNamed byte).1 part new

/-- Every step keeps the names in order. -/
theorem argParts_wellNamed (state : PartReading) (byte : UInt8) (named : WellRead state) :
    (forall part, part ∈ (argParts.step state byte).1 -> WellNamed part) ∧
    WellRead (argParts.step state byte).2 := by
  have longer {Good : UInt8 -> Prop} {name : Bytes} (old : forall other, other ∈ name -> Good other)
      (new : Good byte) :
      forall other, other ∈ name ++ [byte] -> Good other := by
    intro other member
    rcases List.mem_append.mp member with inName | last
    · exact old other inName
    · rw [List.mem_singleton.mp last]
      exact new
  cases state with
  | text => exact beginPart_wellNamed byte
  | dollar =>
      by_cases opening : byte = openBrace
      · have step : argParts.step .dollar byte = ([], .braced []) := if_pos opening
        rw [step]
        exact ⟨List.forall_mem_nil _, List.forall_mem_nil _⟩
      · have step : argParts.step .dollar byte = endParts (bytesPart [dollarByte]) byte :=
          if_neg opening
        rw [step]
        exact endParts_wellNamed (bytesPart_named _) byte
  | file name =>
      by_cases inName : isNameByte byte = true
      · have step : argParts.step (.file name) byte = ([], .file (name ++ [byte])) := if_pos inName
        rw [step]
        exact ⟨List.forall_mem_nil _, longer named inName⟩
      · have step : argParts.step (.file name) byte = endParts (filePart name) byte := if_neg inName
        rw [step]
        exact endParts_wellNamed (filePart_named named) byte
  | braced name =>
      simp only [argParts]
      by_cases inWord : isWordByte byte = true
      · rw [if_pos inWord]
        exact ⟨List.forall_mem_nil _, longer named inWord⟩
      · rw [if_neg inWord]
        by_cases closing : byte = closeBrace ∧ name ≠ []
        · rw [if_pos closing]
          exact ⟨List.forall_mem_singleton.mpr ⟨closing.2, named⟩, trivial⟩
        · rw [if_neg closing]
          exact endParts_wellNamed (bytesPart_named _) byte

theorem argParts_finish_wellNamed (state : PartReading) (named : WellRead state) :
    forall part, part ∈ argParts.finish state -> WellNamed part := by
  cases state with
  | text => exact List.forall_mem_nil _
  | dollar => exact bytesPart_named _
  | file name => exact filePart_named named
  | braced name => exact bytesPart_named _

theorem partsOf_wellNamed (arg : Bytes) : forall part, part ∈ partsOf arg -> WellNamed part :=
  @Scanner.forall_mem_run _ _ _ argParts WellRead WellNamed argParts_wellNamed
      argParts_finish_wellNamed .text trivial arg

/-- The first occurrence of a variable is its own if its text does not occur in front of it. -/
theorem replaceFirst_behind {name before : Bytes} (plain : dollarByte ∉ name)
    (fresh : ¬ variableText name <:+: before) (new later : Bytes) :
    replaceFirst (variableText name) new (before ++ (variableText name ++ later)) = before ++
        (new ++ later) := by
  induction before with
  | nil =>
      have here : (variableText name).isPrefixOf (variableText name ++ later) = true :=
        List.isPrefixOf_iff_prefix.mpr (List.prefix_append _ _)
      have step : forall text, (variableText name).isPrefixOf text = true -> text ≠ [] ->
          replaceFirst (variableText name) new text = new ++ text.drop
              (variableText name).length := by
        intro text found nonempty
        cases text with
        | nil => exact absurd rfl nonempty
        | cons byte rest => exact if_pos found
      rw [List.nil_append, step _ here (List.cons_ne_nil _ _), List.drop_left]
      rfl
  | cons byte rest inductionHypothesis =>
      have elsewhere : ¬ (variableText name).isPrefixOf
          (byte :: (rest ++ (variableText name ++ later))) = true := by
        intro found
        have found := List.isPrefixOf_iff_prefix.mp found
        have front : byte :: rest <+: byte :: (rest ++ (variableText name ++ later)) := ⟨_, rfl⟩
        rcases List.prefix_or_prefix_of_prefix found front with inside | overlap
        · exact fresh inside.isInfix
        · -- what is left of the variable would begin with another `$`
          rcases overlap with ⟨left, same⟩
          have rejoined : byte :: rest ++ left <+: byte :: rest ++
              (variableText name ++ later) := by
            rw [same]
            exact found
          have next : left <+: variableText name ++ later :=
              (List.prefix_append_right_inj (byte :: rest)).mp rejoined
          cases left with
          | nil =>
              rw [List.append_nil] at same
              exact fresh (same ▸ List.infix_refl _)
          | cons first others =>
              have isDollar : first = dollarByte := (List.cons_prefix_cons.mp next).1
              have tail : rest ++ first :: others = openBrace :: name ++ [closeBrace] :=
                  (List.cons.inj same).2
              have member : dollarByte ∈ openBrace :: name ++ [closeBrace] := by
                rw [<- tail, isDollar]
                exact List.mem_append_right _ List.mem_cons_self
              rw [List.cons_append, List.mem_cons, List.mem_append, List.mem_singleton] at member
              rcases member with opening | inside | closing
              · exact absurd opening (by decide)
              · exact plain inside
              · exact absurd closing (by decide)
      have shorter : ¬ variableText name <:+: rest := by
        rintro occurs
        exact fresh (occurs.trans (List.suffix_cons byte rest).isInfix)
      rw [List.cons_append, replaceFirst, if_neg elsewhere, inductionHypothesis shorter]
      rfl

/-- The loop over the variables replaces each by its value. -/
theorem foldl_variables {parts : List Part} (named : forall part, part ∈ parts -> WellNamed part)
    (before : Bytes)
    (undisturbed : forall front name later, parts = front ++ .environment name :: later ->
      ¬ variableText name <:+: before ++ front.flatMap (valueOf inputs workpath getenv)) :
    (parts.filterMap variableName).foldl
        (fun parsedArg vab => replaceFirst (variableText vab) (getenv vab) parsedArg)
        (before ++ parts.flatMap (fileText inputs workpath)) =
      before ++ parts.flatMap (valueOf inputs workpath getenv) := by
  induction parts generalizing before with
  | nil => rfl
  | cons part rest inductionHypothesis =>
      have restNamed : forall other, other ∈ rest -> WellNamed other :=
        fun other member => named other (List.mem_cons_of_mem part member)
      have restUndisturbed : forall front name later, rest = front ++ .environment name :: later ->
          ¬ variableText name <:+:
            (before ++ valueOf inputs workpath getenv part) ++ front.flatMap
                (valueOf inputs workpath getenv) := by
        intro front name later same
        have fresh := undisturbed (part :: front) name later (congrArg (part :: ·) same)
        rwa [List.flatMap_cons, <- List.append_assoc] at fresh
      have go := inductionHypothesis restNamed _ restUndisturbed
      rw [List.flatMap_cons, List.flatMap_cons, <- List.append_assoc before
          (valueOf inputs workpath getenv part)]
      cases part with
      | byte value =>
          rw [<- List.append_assoc]
          exact go
      | file name =>
          rw [<- List.append_assoc]
          exact go
      | environment name =>
          have fresh := undisturbed [] name rest rfl
          rw [List.flatMap_nil, List.append_nil] at fresh
          have names : (Part.environment name :: rest).filterMap variableName =
              name :: rest.filterMap variableName :=
            List.filterMap_cons_some rfl
          have plain : dollarByte ∉ name :=
            fun member => (word_byte_plain ((named _ List.mem_cons_self).2 dollarByte member)).2 rfl
          rw [names, List.foldl_cons, fileText, replaceFirst_behind plain fresh,
              <- List.append_assoc]
          exact go

/-! ## One argument -/

theorem noVariable_iff (arg : Bytes) :
    variablesIn arg = [] ↔ forall name, Part.environment name ∉ partsOf arg := by
  rw [variablesIn, List.filterMap_eq_nil_iff]
  constructor
  · intro missing name member
    exact absurd (missing _ member) (Option.some_ne_none name)
  · intro noVariable part member
    cases part with
    | byte value => rfl
    | file name => rfl
    | environment name => exact absurd member (noVariable name)

/-- Without variables nothing is left to do once the files are replaced. -/
theorem replaceFilepath_substitute {arg : Bytes} (noVariable : variablesIn arg = []) :
    replaceFilepath inputs workpath arg = substitute inputs workpath getenv arg := by
  rw [replaceFilepath_eq, substitute]
  refine List.flatMap_congr fun part member => ?_
  cases part with
  | byte value => rfl
  | file name => rfl
  | environment name => exact absurd member ((noVariable_iff arg).mp noVariable name)

/-- An `@` ends what was read before. -/
theorem argParts_at_mark (state : PartReading) :
    argParts.step state atByte = (argParts.finish state, .file []) := by
  have ends : forall parts, endParts parts atByte = (parts, .file []) :=
    fun parts => Prod.ext (List.append_nil parts) rfl
  cases state with
  | text => rfl
  | file name => exact ends _
  | dollar => exact ends _
  | braced name =>
      have closing : ¬ (atByte = closeBrace ∧ name ≠ []) := fun both => absurd both.1 (by decide)
      simp only [argParts]
      rw [if_neg (by decide), if_neg closing, ends]

theorem fileTokens_at_mark (state : Option Bytes) :
    fileTokens.step state atByte = (fileTokens.finish state, some []) := by
  cases state with
  | none => rfl
  | some name => rfl

theorem partsOf_append_mark (front name : Bytes) :
    partsOf (front ++ atByte :: name) = partsOf front ++ argParts.run (.file []) name := by
  unfold partsOf
  rw [Scanner.run_append, Scanner.run, argParts_at_mark, <- List.append_assoc, <- Scanner.run_eq]

theorem replaceFilepath_append_mark (front name : Bytes) :
    replaceFilepath inputs workpath (front ++ atByte :: name) =
      replaceFilepath inputs workpath front ++ replacedFrom inputs workpath (some []) name := by
  unfold replaceFilepath replacedFrom
  rw [Scanner.run_append, Scanner.run, fileTokens_at_mark, <- List.append_assoc, <- Scanner.run_eq,
    replaceAll_append]

theorem replacedFrom_plain {text : Bytes} (plain : atByte ∉ text) :
    replacedFrom inputs workpath none text = text := by
  induction text with
  | nil => rfl
  | cons byte rest inductionHypothesis =>
      rw [List.mem_cons, not_or] at plain
      rw [replacedFrom_none_cons, if_neg (Ne.symm plain.1), inductionHypothesis plain.2]

/-- Without another `@`, the name characters behind one are its name. -/
theorem replacedFrom_name {text : Bytes} (plain : atByte ∉ text) (name : Bytes) :
    replacedFrom inputs workpath (some name) text =
      nameText inputs workpath (name ++ text.takeWhile isNameByte) ++ text.dropWhile
          isNameByte := by
  induction text generalizing name with
  | nil => rw [replacedFrom_some_nil, List.takeWhile_nil, List.append_nil, List.dropWhile_nil,
      List.append_nil]
  | cons byte rest inductionHypothesis =>
      have restPlain := (not_or.mp (List.mem_cons.not.mp plain)).2
      rw [replacedFrom_some_cons]
      by_cases inName : isNameByte byte = true
      · rw [if_pos inName, List.takeWhile_cons_of_pos inName, List.dropWhile_cons_of_pos inName,
          inductionHypothesis restPlain, List.append_assoc, List.singleton_append]
      · rw [if_neg inName, List.takeWhile_cons_of_neg inName, List.dropWhile_cons_of_neg inName,
          List.append_nil,
          replacedFrom_plain plain]

/-- A name that no input file has stays as it is. -/
theorem replacedFrom_unknown {text : Bytes} (plain : atByte ∉ text)
    (unknown : text.takeWhile isNameByte = [] ∨
    inputsNamed inputs (text.takeWhile isNameByte) = []) :
    replacedFrom inputs workpath (some []) text = atByte :: text := by
  have kept : nameText inputs workpath (text.takeWhile isNameByte) = atByte :: text.takeWhile
      isNameByte := by
    unfold nameText
    by_cases empty : text.takeWhile isNameByte = []
    · rw [if_pos empty, empty]
    · rw [if_neg empty, replaceWithFullPath, unknown.resolve_left empty]
  rw [replacedFrom_name plain, List.nil_append, kept, List.cons_append,
      List.takeWhile_append_dropWhile]

theorem namedBehind_append {name : Bytes} (free : atByte ∉ name) (front : Bytes) :
    namedBehind inputs (front ++ atByte :: name) =
      if inputsNamed inputs name ≠ [] ∧
          (name.takeWhile isNameByte = [] ∨ inputsNamed inputs (name.takeWhile isNameByte) = [])
              then
        some (front, name)
      else none := by
  rcases List.exists_cons_of_ne_nil (List.reverse_ne_nil_iff.mpr (List.splitOn_ne_nil atByte front))
      with
    ⟨second, others, pieces⟩
  have joined : [atByte].intercalate (second :: others).reverse = front := by
    rw [<- pieces, List.reverse_reverse, List.intercalate_splitOn]
  rw [namedBehind, Decimal.splitOn_append free, List.reverse_append, List.reverse_singleton,
      List.singleton_append,
    pieces]
  dsimp only
  rw [joined]

/-- A name is behind the last `@`, and is not one that was found before. -/
theorem namedBehind_some {arg front name : Bytes}
    (found : namedBehind inputs arg = some (front, name)) :
    arg = front ++ atByte :: name ∧ atByte ∉ name ∧ inputsNamed inputs name ≠ [] ∧
      (name.takeWhile isNameByte = [] ∨ inputsNamed inputs (name.takeWhile isNameByte) = []) := by
  by_cases marked : atByte ∈ arg
  · rcases List.eq_append_cons_of_mem (List.mem_reverse.mpr marked) with
      ⟨behind, before, reversed, last⟩
    have split : arg = before.reverse ++ atByte :: behind.reverse := by
      rw [<- List.reverse_reverse arg, reversed, List.reverse_append, List.reverse_cons,
          List.append_assoc,
        List.singleton_append]
    have free : atByte ∉ behind.reverse := fun member => last (List.mem_reverse.mp member)
    rw [split, namedBehind_append free] at found
    by_cases named : inputsNamed inputs behind.reverse ≠ [] ∧
        (behind.reverse.takeWhile isNameByte = [] ∨
            inputsNamed inputs (behind.reverse.takeWhile isNameByte) = [])
    · rw [if_pos named] at found
      cases found
      exact ⟨split, free, named⟩
    · rw [if_neg named] at found
      cases found
  · rw [namedBehind, List.splitOn_eq_singleton marked] at found
    cases found

/-- The front of an argument has no variable that the argument has not. -/
theorem variablesIn_front {front name : Bytes}
    (noVariable : variablesIn (front ++ atByte :: name) = []) :
    variablesIn front = [] := by
  rw [noVariable_iff] at noVariable ⊢
  intro other member
  refine noVariable other ?_
  rw [partsOf_append_mark]
  exact List.mem_append_left _ member

/-- Where no `@` is left, none was left in front of a name with other characters. -/
theorem namedBehind_unmarked {arg : Bytes}
    (unmarked : atByte ∉ replaceFilepath inputs workpath arg) :
    namedBehind inputs arg = none := by
  cases behind : namedBehind inputs arg with
  | none => rfl
  | some pair =>
      rcases pair with ⟨front, name⟩
      rcases namedBehind_some behind with ⟨split, plain, -, unknown⟩
      rw [split, replaceFilepath_append_mark, replacedFrom_unknown plain unknown] at unmarked
      exact absurd (List.mem_append_right _ List.mem_cons_self) unmarked

theorem parseArg_plain {line : Bytes} (noVariable : variablesOf line = []) (plain : atByte ∉ line) :
    parseArg inputs workpath getenv line = .ok [line] := by
  rw [parseArg, if_neg (fun some_variable => some_variable noVariable),
      List.splitOn_eq_singleton plain]

theorem parseArg_named {front name : Bytes}
    (noVariable : variablesOf (front ++ atByte :: name) = []) (plain : atByte ∉ front)
    (free : atByte ∉ name) :
    parseArg inputs workpath getenv (front ++ atByte :: name) =
      .ok ((inputsNamed inputs name).map fun fileName =>
          front ++ inputFilePath workpath fileName) := by
  rw [parseArg, if_neg (fun some_variable => some_variable noVariable), Decimal.splitOn_append free,
    List.splitOn_eq_singleton plain]
  rfl

/-- What should become of an argument without variables whose last `@` is left. -/
theorem expected_lastNamed {arg : Written} (noVariable : variablesIn arg.text = [])
    {front name : Bytes} {fileName : String} (split : arg.text = front ++ atByte :: name)
    (free : atByte ∉ name) (single : inputsNamed inputs name = [fileName])
    (found : name.takeWhile isNameByte = [] ∨ inputsNamed inputs (name.takeWhile isNameByte) = [] ∨
      name.takeWhile isNameByte = name) :
    expected inputs workpath getenv arg.text =
      replaceFilepath inputs workpath front ++ inputFilePath workpath fileName := by
  rw [split] at noVariable ⊢
  have path : replaceWithFullPath inputs workpath name = inputFilePath workpath fileName := by
    rw [replaceWithFullPath, single]
  have known : inputsNamed inputs name ≠ [] := by
    rw [single]
    exact List.cons_ne_nil _ _
  by_cases unknown : name.takeWhile isNameByte = [] ∨
      inputsNamed inputs (name.takeWhile isNameByte) = []
  · rw [expected, namedBehind_append free, if_pos ⟨known, unknown⟩]
    dsimp only
    rw [<- replaceFilepath_substitute (variablesIn_front noVariable), path]
  · have whole : name.takeWhile isNameByte = name :=
      (found.resolve_left fun empty => unknown (Or.inl empty)).resolve_left
      fun missing => unknown (Or.inr missing)
    rw [expected, namedBehind_append free, if_neg fun both => unknown both.2]
    dsimp only
    have nothing : name.dropWhile isNameByte = [] := by
      have parts := List.takeWhile_append_dropWhile (p := isNameByte) (l := name)
      rw [whole] at parts
      exact List.append_right_eq_self.mp parts
    have named : name ≠ [] := fun empty => unknown (Or.inl (whole.trans empty))
    rw [<- replaceFilepath_substitute noVariable, replaceFilepath_append_mark,
        replacedFrom_name free, List.nil_append,
      whole, nothing, List.append_nil, nameText, if_neg named, path]

/-- A handled argument arrives with its names and variables replaced. -/
theorem parseArg_handled {arg : Written} (handled : Handled inputs workpath getenv arg) :
    parseArg inputs workpath getenv (lineOf inputs workpath arg) = .ok
        [expected inputs workpath getenv arg.text] := by
  have names := handled.sameVariables
  by_cases noVariable : variablesIn arg.text = []
  · rw [noVariable] at names
    rcases handled.without noVariable with ⟨joined, unmarked⟩ | last
    · have whole := unmarked
      rw [joined] at whole
      rw [parseArg_plain names unmarked, joined, expected, namedBehind_unmarked whole,
        replaceFilepath_substitute noVariable]
    · rcases last with ⟨front, name, fileName, split, free, single, unmarked, line, found⟩
      rw [line] at names ⊢
      rw [parseArg_named names unmarked free, single,
          expected_lastNamed noVariable split free single found]
      rfl
  · rcases handled.withVariables noVariable with ⟨joined, named, undisturbed⟩
    have replaced := @foldl_variables inputs workpath getenv _ (partsOf_wellNamed arg.text)
        [] undisturbed
    rw [List.nil_append, List.nil_append, <- replaceFilepath_eq] at replaced
    have given : variablesOf (lineOf inputs workpath arg) ≠ [] := by
      rw [names]
      exact noVariable
    rw [parseArg, if_pos given, replaceVariables, names, joined, variablesIn, replaced,
        expected, named]
    rfl

/-- A second `@` that is left is an error. -/
theorem parseArg_several {line : Bytes} (silent : variablesOf line = [])
    (several : 2 ≤ line.count atByte) :
    parseArg inputs workpath getenv line = .error multipleAt := by
  have marked : atByte ∈ line := List.count_pos_iff.mp (Nat.lt_of_lt_of_le Nat.zero_lt_two several)
  rcases List.eq_append_cons_of_mem marked with ⟨front, behind, split, first⟩
  rw [split, List.count_append, List.count_eq_zero.mpr first, List.count_cons_self] at several
  have again : atByte ∈ behind := List.count_pos_iff.mp (by omega)
  rcases List.eq_append_cons_of_mem again with ⟨second, third, split', free⟩
  rw [parseArg, if_neg (fun some_variable => some_variable silent), split, split',
      List.splitOn_append_cons_self,
    List.splitOn_append_cons_self, List.splitOn_eq_singleton first, List.splitOn_eq_singleton free]
  rcases List.exists_cons_of_ne_nil (List.splitOn_ne_nil atByte third) with ⟨piece, pieces, splits⟩
  rw [splits]
  rfl

/-- Two or more names of no input file are an error. -/
theorem parseArg_refused {arg : Written} (refused : Refused inputs workpath arg) :
    parseArg inputs workpath getenv (lineOf inputs workpath arg) = .error multipleAt :=
  parseArg_several refused.1 refused.2

/-! ## Arguments without variables -/

/-- The input files have names without a slash, and paths with one and without an `@`. Under it a
path in the result can be recognised, and the argument can be read back from it. -/
def FlatNames (inputs : List String) (workpath : String) : Prop :=
  forall fileName, fileName ∈ inputs ->
    47 ∉ Utf8.ofString fileName ∧ 47 ∈ inputFilePath workpath fileName ∧
        atByte ∉ inputFilePath workpath fileName

/-- A text with one `@` is split at it in one way. -/
theorem split_unique {front other back name : Bytes} (first : atByte ∉ front)
    (second : atByte ∉ other) (same : front ++ atByte :: back = other ++ atByte :: name) :
    front = other ∧ back = name := by
  rcases List.append_eq_append_iff.mp same with ⟨middle, split, rest⟩ | ⟨middle, split, rest⟩
  · cases middle with
    | nil =>
        cases rest
        exact ⟨(split.trans (List.append_nil front)).symm, rfl⟩
    | cons byte others =>
        cases rest
        refine absurd ?_ second
        rw [split]
        exact List.mem_append_right _ List.mem_cons_self
  · cases middle with
    | nil =>
        cases rest
        exact ⟨split.trans (List.append_nil other), rfl⟩
    | cons byte others =>
        cases rest
        refine absurd ?_ first
        rw [split]
        exact List.mem_append_right _ List.mem_cons_self

/-- A text is empty of `@`, or has a last one. -/
theorem last_mark {text : Bytes} (marked : atByte ∈ text) :
    Exists fun front => Exists fun behind => text = front ++ atByte :: behind ∧
    atByte ∉ behind := by
  rcases List.eq_append_cons_of_mem (List.mem_reverse.mpr marked) with
      ⟨behind, before, reversed, last⟩
  refine ⟨before.reverse, behind.reverse, ?_, fun member => last (List.mem_reverse.mp member)⟩
  rw [<- List.reverse_reverse text, reversed, List.reverse_append, List.reverse_cons,
      List.append_assoc,
    List.singleton_append]

/-- A handled argument without variables has no `@` in the end. -/
theorem unmarked_of_handled (flat : FlatNames inputs workpath) {arg : Written}
    (noVariable : variablesIn arg.text = []) (handled : Handled inputs workpath getenv arg) :
    atByte ∉ expected inputs workpath getenv arg.text := by
  rcases handled.without noVariable with ⟨joined, unmarked⟩ | last
  · rw [joined] at unmarked
    rw [expected, namedBehind_unmarked unmarked]
    dsimp only
    rw [<- replaceFilepath_substitute noVariable]
    exact unmarked
  · rcases last with ⟨front, name, fileName, split, free, single, unmarked, -, found⟩
    have listed : fileName ∈ inputsNamed inputs name := by
      rw [single]
      exact List.mem_cons_self
    rw [expected_lastNamed noVariable split free single found, List.mem_append]
    exact fun either => either.elim unmarked (flat fileName (List.mem_filter.mp listed).1).2.2

/-- Of an argument with a single `@` in front of the name of an input file, the `@` was
the last one.  A path that stood behind it would bring a slash into the name. -/
theorem lastNamed_of_single (flat : FlatNames inputs workpath) {arg : Written}
    (joined : Joined inputs workpath arg) {front name : Bytes} (free : atByte ∉ front)
    (last : atByte ∉ name) (line : lineOf inputs workpath arg = front ++ atByte :: name)
    {fileName : String} (single : inputsNamed inputs name = [fileName]) :
    LastNamed inputs workpath arg := by
  have listed : fileName ∈ inputs ∧ Utf8.ofString fileName = name := by
    have member : fileName ∈ inputsNamed inputs name := by
      rw [single]
      exact List.mem_cons_self
    rw [inputsNamed, List.mem_filter, decide_eq_true_eq] at member
    exact member
  have whole := line
  rw [joined] at whole
  have marked : atByte ∈ arg.text := by
    by_contra unmarked
    have kept : replaceFilepath inputs workpath arg.text = arg.text := replacedFrom_plain unmarked
    rw [<- kept, whole] at unmarked
    exact unmarked (List.mem_append_right _ List.mem_cons_self)
  rcases last_mark marked with ⟨before, behind, split, plain⟩
  rw [split, replaceFilepath_append_mark] at whole
  by_cases unknown : behind.takeWhile isNameByte = [] ∨
      inputsNamed inputs (behind.takeWhile isNameByte) = []
  · rw [replacedFrom_unknown plain unknown] at whole
    -- the last mark is the only one that stays
    have alone : atByte ∉ replaceFilepath inputs workpath before := by
      have counts := congrArg (List.count atByte) whole
      rw [List.count_append, List.count_append, List.count_cons_self, List.count_cons_self,
        List.count_eq_zero.mpr free, List.count_eq_zero.mpr last, List.count_eq_zero.mpr plain]
            at counts
      exact List.count_eq_zero.mp (by omega)
    rcases split_unique alone free whole with ⟨rfl, rfl⟩
    exact ⟨before, behind, fileName, split, plain, single, alone, line, unknown.imp_right Or.inl⟩
  · -- the path of a file stands behind the mark, and with it a slash
    rw [not_or] at unknown
    have path : Exists fun later => replacedFrom inputs workpath (some []) behind = later ∧
        47 ∈ later ∧ atByte ∉ later := by
      rcases replaceWithFullPath_cases inputs workpath (behind.takeWhile isNameByte) with
        ⟨other, member, -, replaced⟩ | ⟨missing, -⟩
      · rcases flat other member with ⟨-, slash, noMark⟩
        refine ⟨_, rfl, ?_, ?_⟩
        · rw [replacedFrom_name plain, List.nil_append, nameText, if_neg unknown.1, replaced]
          exact List.mem_append_left _ slash
        · rw [replacedFrom_name plain, List.nil_append, nameText, if_neg unknown.1, replaced,
            List.mem_append]
          exact fun either => either.elim noMark fun inRest =>
              plain ((List.dropWhile_suffix _).mem inRest)
      · exact absurd missing unknown.2
    rcases path with ⟨later, written, slash, noMark⟩
    rw [written] at whole
    have slashed : 47 ∈ name := by
      rcases List.append_eq_append_iff.mp whole with ⟨middle, -, rest⟩ | ⟨middle, -, rest⟩
      · refine absurd ?_ noMark
        rw [rest]
        exact List.mem_append_right _ List.mem_cons_self
      · cases middle with
        | nil =>
            refine absurd ?_ noMark
            rw [<- List.nil_append later, <- rest]
            exact List.mem_cons_self
        | cons byte others =>
            rw [(List.cons.inj rest).2]
            exact List.mem_append_right _ slash
    exact absurd (listed.2 ▸ slashed) (flat fileName listed.1).1

/-- An argument that is not handled is an error, is dropped, or is put in several times. -/
theorem parseArg_unhandled (flat : FlatNames inputs workpath) {arg : Written}
    (noVariable : variablesIn arg.text = [])
    (silent : variablesOf (lineOf inputs workpath arg) = []) (joined : Joined inputs workpath arg)
    (few : (lineOf inputs workpath arg).count atByte ≤ 1)
    (unhandled : ¬ Handled inputs workpath getenv arg) :
    Exists fun pieces => parseArg inputs workpath getenv (lineOf inputs workpath arg) = .ok pieces ∧
      (forall piece, piece ∈ pieces -> atByte ∉ piece) ∧
      ((pieces = [] ∧ atByte ∈ expected inputs workpath getenv arg.text) ∨ 2 ≤ pieces.length) := by
  have handles (given : AllNamed inputs workpath arg ∨ LastNamed inputs workpath arg) : False :=
    unhandled ⟨silent.trans noVariable.symm, fun _ => given, fun some_variable =>
        absurd noVariable some_variable⟩
  have marked : atByte ∈ lineOf inputs workpath arg := by
    by_contra unmarked
    exact handles (Or.inl ⟨joined, unmarked⟩)
  rcases List.eq_append_cons_of_mem marked with ⟨front, name, line, free⟩
  have last : atByte ∉ name := by
    rw [line, List.count_append, List.count_eq_zero.mpr free, List.count_cons_self] at few
    exact List.count_eq_zero.mp (by omega)
  have parsed := @parseArg_named inputs workpath getenv front name (line ▸ silent) free last
  rw [<- line] at parsed
  refine ⟨_, parsed, ?_, ?_⟩
  · intro piece member
    rcases List.mem_map.mp member with ⟨fileName, listed, rfl⟩
    rw [List.mem_append]
    exact fun either => either.elim free (flat fileName (List.mem_filter.mp listed).1).2.2
  · rw [List.length_map, List.map_eq_nil_iff]
    cases named : inputsNamed inputs name with
    | nil =>
        refine Or.inl ⟨rfl, ?_⟩
        cases behind : namedBehind inputs arg.text with
        | none =>
            rw [expected, behind]
            dsimp only
            rw [<- replaceFilepath_substitute noVariable, <- joined]
            exact marked
        | some pair =>
            rcases pair with ⟨before, other⟩
            rcases namedBehind_some behind with ⟨split, plain, known, unknown⟩
            have whole := line
            rw [joined, split, replaceFilepath_append_mark, replacedFrom_unknown plain unknown]
                at whole
            have alone : atByte ∉ replaceFilepath inputs workpath before := by
              have counts := congrArg (List.count atByte) whole
              rw [List.count_append, List.count_append, List.count_cons_self, List.count_cons_self,
                List.count_eq_zero.mpr free, List.count_eq_zero.mpr last,
                    List.count_eq_zero.mpr plain] at counts
              exact List.count_eq_zero.mp (by omega)
            exact absurd ((split_unique alone free whole).2 ▸ named) known
    | cons fileName others =>
        refine Or.inr ?_
        cases others with
        | nil => exact (handles
            (Or.inr (lastNamed_of_single flat joined free last line named))).elim
        | cons second more =>
            rw [List.length_cons, List.length_cons]
            omega

end

end Arguments
end Worker
end Awe
