import Awe.Lib.Fields
import Awe.Worker.ArgumentStrings

namespace Awe
namespace Worker
namespace Arguments

open Lib Lib.Path

/-!
# One argument under two directories

A command can be run directly or in a container, with its input files in one
directory or in another.  What an argument becomes is described here once for
both, by bytes and by the names of the files in it.  Under the two directories
this gives the texts of the two runs, and each part of them begins and ends with
the same byte in both.

A shell that splits a line at its spaces gives these texts back if each of them
is one word.  No other list of texts comes back: each has a word of its own in
what the shell finds, so each has one only, and this word ends where the text
does.
-/

/-- A letter, a digit or a character of paths. -/
def isPlainByte (byte : UInt8) : Bool :=
  isNameByte byte || byte == 47

/-- A set of characters that mean nothing to bash.  It has those of the arguments, and not
the one that begins a variable. -/
structure Meaningless (literal : UInt8 -> Prop) : Prop where
  plain : forall byte, isPlainByte byte = true -> literal byte
  mark : literal atByte
  dollar : ¬ literal dollarByte

/-- A quote ends a name that is being read. -/
def closeName : PartReading -> List Part × PartReading
  | .file name => (filePart name, .text)
  | state => ([], state)

/-- The parts of an argument as it is written: a variable may go on behind a quote, and a
name may not. -/
def Written.parts (arg : Written) : List Part :=
  let ended := closeName (argParts.after .text arg.bare)
  argParts.written .text arg.bare ++ (ended.1 ++ argParts.run ended.2 arg.quoted)

def PlainOrSpace (byte : UInt8) : Prop :=
  isPlainByte byte = true ∨ byte = spaceByte

/-- A part of an argument of letters, digits, characters of paths, spaces, `@` and
variables. -/
def OrdinaryPart : Part -> Prop
  | .byte value => PlainOrSpace value ∨ value = atByte
  | .file _ => True
  | .environment _ => True

/-- The names of the input files: some characters of paths and spaces. -/
def PlainNames (inputs : List String) : Prop :=
  forall fileName, fileName ∈ inputs -> fileName ≠ "" ∧
      forall byte, byte ∈ Utf8.ofString fileName -> PlainOrSpace byte

/-- The input files are in a directory, which is an absolute path, and none has a name in
which that path occurs. -/
structure InDirectory (inputs : List String) (workpath : String) (directory : Bytes) : Prop where
  path : forall fileName, fileName ∈ inputs -> inputFilePath workpath fileName = directory ++
      Utf8.ofString fileName
  rooted : Exists fun rest => directory = 47 :: rest
  letters : forall byte, byte ∈ directory -> PlainOrSpace byte
  foreign : forall fileName, fileName ∈ inputs -> ¬ directory <:+: Utf8.ofString fileName

/-- A byte of some kind, or the name of an input file. -/
def TextPart (inputs : List String) (Kind : UInt8 -> Prop) : Part -> Prop
  | .byte value => Kind value
  | .file name => inputsNamed inputs name ≠ []
  | .environment _ => False

/-- A text of bytes and names of input files. -/
def Shape (inputs : List String) (parts : List Part) : Prop :=
  forall part, part ∈ parts -> TextPart inputs (fun _ => True) part

def textOf (inputs : List String) (workpath : String) (parts : List Part) : Bytes :=
  parts.flatMap (fileText inputs workpath)

/-- The two texts are one text with file names in it, under two directories. This is what "apart
from the prefix of the working directory" means. -/
def SameArg (inputs : List String) (workpath other : String) (arg otherArg : Bytes) : Prop :=
  Exists fun parts : List Part => Shape inputs parts ∧ arg = textOf inputs workpath parts ∧
      otherArg = textOf inputs other parts

/-- A part as it is written. -/
def rawText : Part -> Bytes
  | .byte value => [value]
  | .file name => atByte :: name
  | .environment name => variableText name

/-- What stands in front of the first `@` that begins the name of no input file, and what
stands behind it. -/
def leftName (inputs : List String) : List Part -> Option (List Part × Bytes)
  | [] => none
  | .byte value :: rest =>
      if value = atByte then some ([], rest.flatMap rawText)
      else (leftName inputs rest).map fun found => (.byte value :: found.1, found.2)
  | .file name :: rest =>
      if inputsNamed inputs name = [] then some ([], name ++ rest.flatMap rawText)
      else (leftName inputs rest).map fun found => (.file name :: found.1, found.2)
  | .environment name :: rest => (leftName inputs rest).map fun found =>
      (.environment name :: found.1, found.2)

def NoVariable (parts : List Part) : Prop :=
  forall name, Part.environment name ∉ parts

/-- Neither run gets the argument: it has an `@` left that no input file is named behind. -/
def LeftOut (inputs : List String) (parts : List Part) : Prop :=
  NoVariable parts ∧ Exists fun front => Exists fun name =>
    leftName inputs parts = some (front, name) ∧ inputsNamed inputs name = []

/-- The argument is one word once its variables are replaced: it has no space, nor have the
values of its variables, and not everything in it is a variable without a value. -/
structure OneWord (getenv : Bytes -> Bytes) (parts : List Part) : Prop where
  whole : Part.byte spaceByte ∉ parts
  values : forall name, Part.environment name ∈ parts -> spaceByte ∉ getenv name
  visible : Exists fun part => part ∈ parts ∧ forall name, part = .environment name ->
      getenv name ≠ []

theorem plain_byte {byte : UInt8} (plain : isPlainByte byte = true) :
    byte ≠ atByte ∧ byte ≠ dollarByte ∧ byte ≠ quoteByte ∧ byte ≠ spaceByte ∧ byte.toNat < 128 := by
  rcases Bool.or_eq_true_iff.mp plain with inName | slash
  · rcases name_byte_plain inName with ⟨noMark, noDollar, noQuote, noSpace⟩
    exact ⟨noMark, noDollar, noQuote, noSpace, name_byte_narrow inName⟩
  · rw [eq_of_beq slash]
    decide

theorem plainOrSpace_byte {byte : UInt8} (plain : PlainOrSpace byte) :
    byte ≠ atByte ∧ byte ≠ dollarByte ∧ byte ≠ quoteByte ∧ byte.toNat < 128 := by
  rcases plain with isPlain | space
  · rcases plain_byte isPlain with ⟨noMark, noDollar, noQuote, -, narrow⟩
    exact ⟨noMark, noDollar, noQuote, narrow⟩
  · rw [space]
    decide

theorem ordinaryPart_dollar : ¬ OrdinaryPart (.byte dollarByte) := by
  rintro (plain | mark)
  · exact (plainOrSpace_byte plain).2.1 rfl
  · exact absurd mark (by decide)

theorem closeName_wellNamed {state : PartReading} (named : WellRead state) :
    (forall part, part ∈ (closeName state).1 -> WellNamed part) ∧ WellRead (closeName state).2 := by
  cases state with
  | text => exact ⟨List.forall_mem_nil _, trivial⟩
  | file name => exact ⟨filePart_named named, trivial⟩
  | dollar => exact ⟨List.forall_mem_nil _, trivial⟩
  | braced name => exact ⟨List.forall_mem_nil _, named⟩

theorem Written.parts_wellNamed (arg : Written) :
    forall part, part ∈ arg.parts -> WellNamed part := by
  rcases @Scanner.forall_mem_written _ _ _ argParts WellRead WellNamed argParts_wellNamed .text
      trivial arg.bare with
    ⟨written, reading⟩
  rcases closeName_wellNamed reading with ⟨ended, going⟩
  intro part member
  rcases List.mem_append.mp member with inBare | behind
  · exact written part inBare
  · rcases List.mem_append.mp behind with inName | inQuoted
    · exact ended part inName
    · exact @Scanner.forall_mem_run _ _ _ argParts WellRead WellNamed argParts_wellNamed
        argParts_finish_wellNamed _ going
        arg.quoted part inQuoted

section

variable {inputs : List String} {workpath : String} {getenv : Bytes -> Bytes}

theorem textOf_append (front back : List Part) :
    textOf inputs workpath (front ++ back) = textOf inputs workpath front ++ textOf inputs
        workpath back :=
  List.flatMap_append

theorem textOf_cons (part : Part) (rest : List Part) :
    textOf inputs workpath (part :: rest) = fileText inputs workpath part ++ textOf inputs
        workpath rest :=
  List.flatMap_cons

/-- At a quote a name has its text, and of a variable only the beginning is there. -/
theorem textOf_closeName (state : PartReading) :
    textOf inputs workpath (argParts.finish state) =
      textOf inputs workpath (closeName state).1 ++ (closeName state).2.held := by
  cases state with
  | text => rfl
  | file name => exact (List.append_nil _).symm
  | dollar => rfl
  | braced name => exact fileText_bytes _

theorem closeName_file? (state : PartReading) : (closeName state).2.file? = none := by
  cases state with
  | text => rfl
  | file name => rfl
  | dollar => rfl
  | braced name => rfl

/-- The line of an argument is made of its parts. -/
theorem line_parts (arg : Written) :
    lineOf inputs workpath arg = textOf inputs workpath arg.parts := by
  have quoted := @replacedFrom_parts inputs workpath arg.quoted
      (closeName (argParts.after .text arg.bare)).2
  rw [closeName_file?] at quoted
  have bare : replaceFilepath inputs workpath arg.bare = textOf inputs workpath
      (argParts.written .text arg.bare) ++
      textOf inputs workpath (argParts.finish (argParts.after .text arg.bare)) := by
    rw [replaceFilepath_eq, partsOf, Scanner.run_eq]
    exact textOf_append _ _
  rw [lineOf, bare, textOf_closeName, Written.parts, textOf_append, textOf_append,
      List.append_assoc, List.append_assoc]
  refine congrArg₂ _ rfl (congrArg₂ _ rfl ?_)
  exact quoted

/-- Without a `$` no variable begins. -/
theorem variablesOf_plain {front : Bytes} (plain : dollarByte ∉ front) (back : Bytes) :
    variablesOf (front ++ back) = variablesOf back := by
  induction front with
  | nil => rfl
  | cons byte rest inductionHypothesis =>
      rw [List.mem_cons, not_or] at plain
      have step : variableTokens.step .text byte = ([.byte byte], .text) := if_neg (Ne.symm plain.1)
      have onwards := inductionHypothesis plain.2
      unfold variablesOf at onwards ⊢
      rw [List.cons_append, Scanner.run, step]
      exact onwards

/-- The name of a variable that is being read ends at the brace. -/
theorem run_braced {name : Bytes} (word : forall byte, byte ∈ name -> isWordByte byte = true)
    {read : Bytes} (nonempty : read ++ name ≠ []) (back : Bytes) :
    variableTokens.run (.braced read) (name ++ closeBrace :: back) =
      .found (read ++ name) :: variableTokens.run .text back := by
  induction name generalizing read with
  | nil =>
      rw [List.append_nil] at nonempty ⊢
      have step : variableTokens.step (.braced read) closeBrace = ([.found read], .text) := by
        simp only [variableTokens]
        rw [if_neg (by decide), if_pos ⟨trivial, nonempty⟩]
      rw [List.nil_append, Scanner.run, step]
      rfl
  | cons byte rest inductionHypothesis =>
      rw [List.forall_mem_cons] at word
      have step : variableTokens.step (.braced read) byte = ([], .braced (read ++ [byte])) :=
          if_pos word.1
      have whole : read ++ [byte] ++ rest = read ++ byte :: rest := by
        rw [List.append_assoc, List.singleton_append]
      have onwards := @inductionHypothesis word.2 (read ++ [byte]) (by
        rw [whole]
        exact nonempty)
      rw [whole] at onwards
      rw [List.cons_append, Scanner.run, step]
      exact onwards

theorem variablesOf_variable {name : Bytes} (nonempty : name ≠ [])
    (word : forall byte, byte ∈ name -> isWordByte byte = true) (back : Bytes) :
    variablesOf (variableText name ++ back) = name :: variablesOf back := by
  have opened : variableTokens.run .text (variableText name ++ back) =
      variableTokens.run (.braced []) (name ++ closeBrace :: back) := by
    have text : variableText name ++ back = dollarByte :: openBrace ::
        (name ++ closeBrace :: back) := by
      simp only [variableText, List.cons_append, List.append_assoc, List.nil_append]
    rw [text]
    rfl
  rw [variablesOf, opened, @run_braced name word [] nonempty]
  rfl

/-- The parts of a line bring in no `$`, but for the variables. -/
theorem variablesOf_parts {parts : List Part} (named : forall part, part ∈ parts -> WellNamed part)
    (plain : forall part, part ∈ parts -> variableName part = none ->
    dollarByte ∉ fileText inputs workpath part) :
    variablesOf (textOf inputs workpath parts) = parts.filterMap variableName := by
  induction parts with
  | nil => rfl
  | cons part rest inductionHypothesis =>
      rw [List.forall_mem_cons] at named plain
      have onwards := inductionHypothesis named.2 plain.2
      rw [textOf_cons]
      cases part with
      | byte value =>
          rw [variablesOf_plain (plain.1 rfl), onwards]
          rfl
      | file name =>
          rw [variablesOf_plain (plain.1 rfl), onwards]
          rfl
      | environment name =>
          rw [fileText, variablesOf_variable named.1.1 named.1.2, onwards]
          rfl

end

/-! ## What becomes of a line -/

/-- A part with the value of its variable, or the name of an unknown file, as bytes. -/
def resolved (inputs : List String) (getenv : Bytes -> Bytes) : Part -> List Part
  | .byte value => [.byte value]
  | .file name => if inputsNamed inputs name = [] then bytesPart (atByte :: name) else [.file name]
  | .environment name => bytesPart (getenv name)

/-- What an argument becomes in both runs: with its variables replaced, or as it is.  An `@`
that is left is looked at once more, and without an input file nothing is left of it. -/
def meanings (inputs : List String) (getenv : Bytes -> Bytes) (parts : List Part) :
    List (List Part) :=
  if parts.filterMap variableName ≠ [] then [parts.flatMap (resolved inputs getenv)]
  else
    match leftName inputs parts with
    | none => [parts]
    | some (front, name) => (inputsNamed inputs name).map fun _ => front ++ [.file name]

/-- A byte without a mark, a name that an input file has, or a variable. -/
def Settled (inputs : List String) (part : Part) : Prop :=
  part ≠ .byte atByte ∧ forall name, part = .file name -> inputsNamed inputs name ≠ []

theorem noVariable_parts {parts : List Part} :
    parts.filterMap variableName = [] ↔ NoVariable parts := by
  rw [List.filterMap_eq_nil_iff]
  constructor
  · intro missing name member
    exact absurd (missing _ member) (Option.some_ne_none name)
  · intro noVariable part member
    cases part with
    | byte value => rfl
    | file name => rfl
    | environment name => exact absurd member (noVariable name)

section

variable {inputs : List String} {workpath : String} {directory : Bytes} {getenv : Bytes -> Bytes}

/-- Where nothing is left, every `@` begins the name of an input file. -/
theorem leftName_none {parts : List Part} (nothing : leftName inputs parts = none) :
    forall part, part ∈ parts -> Settled inputs part := by
  induction parts with
  | nil => exact List.forall_mem_nil _
  | cons part rest inductionHypothesis =>
      cases part with
      | byte value =>
          rw [leftName] at nothing
          by_cases mark : value = atByte
          · rw [if_pos mark] at nothing
            cases nothing
          · rw [if_neg mark, Option.map_eq_none_iff] at nothing
            refine List.forall_mem_cons.mpr
                ⟨⟨fun same => mark (Part.byte.inj same), fun name same => ?_⟩,
              inductionHypothesis nothing⟩
            cases same
      | file name =>
          rw [leftName] at nothing
          by_cases unknown : inputsNamed inputs name = []
          · rw [if_pos unknown] at nothing
            cases nothing
          · rw [if_neg unknown, Option.map_eq_none_iff] at nothing
            refine List.forall_mem_cons.mpr ⟨⟨(fun same => nomatch same), fun other same => ?_⟩,
                inductionHypothesis nothing⟩
            rw [<- Part.file.inj same]
            exact unknown
      | environment name =>
          rw [leftName, Option.map_eq_none_iff] at nothing
          refine List.forall_mem_cons.mpr ⟨⟨(fun same => nomatch same), fun other same => ?_⟩,
              inductionHypothesis nothing⟩
          cases same

/-- The part that is left, and what is in front of it. -/
theorem leftName_some {parts front : List Part} {name : Bytes}
    (found : leftName inputs parts = some (front, name)) :
    (forall part, part ∈ front -> Settled inputs part) ∧
      Exists fun left => Exists fun rest => Exists fun behind => parts = front ++ left :: rest ∧
      ¬ Settled inputs left ∧
        rawText left = atByte :: behind ∧ name = behind ++ rest.flatMap rawText ∧
        forall workpath, fileText inputs workpath left = rawText left := by
  induction parts generalizing front with
  | nil => cases found
  | cons part others inductionHypothesis =>
      -- a part that is settled stands in front of what is found behind it
      have onwards (settled : Settled inputs part)
          (later : (leftName inputs others).map (fun pair => (part :: pair.1, pair.2)) = some
              (front, name)) :
          (forall part, part ∈ front -> Settled inputs part) ∧
            Exists fun left => Exists fun rest => Exists fun behind =>
            part :: others = front ++ left :: rest ∧
              ¬ Settled inputs left ∧ rawText left = atByte :: behind ∧
                  name = behind ++ rest.flatMap rawText ∧
              forall workpath, fileText inputs workpath left = rawText left := by
        rcases Option.map_eq_some_iff.mp later with ⟨⟨before, behind⟩, inOthers, same⟩
        cases same
        rcases inductionHypothesis inOthers with
            ⟨settledFront, left, rest, behind, split, unsettled, text⟩
        refine ⟨List.forall_mem_cons.mpr ⟨settled, settledFront⟩, left, rest, behind, ?_,
            unsettled, text⟩
        rw [split]
        rfl
      cases part with
      | byte value =>
          rw [leftName] at found
          by_cases mark : value = atByte
          · rw [if_pos mark] at found
            cases found
            refine ⟨List.forall_mem_nil _, .byte value, others, [], rfl, fun settled =>
                settled.1 (congrArg Part.byte mark),
              ?_, rfl, fun _ => rfl⟩
            rw [mark]
            rfl
          · rw [if_neg mark] at found
            refine onwards ⟨fun same => mark (Part.byte.inj same), fun other same => ?_⟩ found
            cases same
      | file other =>
          rw [leftName] at found
          by_cases unknown : inputsNamed inputs other = []
          · rw [if_pos unknown] at found
            cases found
            refine ⟨List.forall_mem_nil _, .file other, others, other, rfl, fun settled =>
                settled.2 other rfl unknown, rfl,
              rfl, fun workpath => ?_⟩
            rw [fileText, replaceWithFullPath, unknown]
            rfl
          · rw [if_neg unknown] at found
            refine onwards ⟨(fun same => Part.noConfusion same), fun another same => ?_⟩ found
            rw [<- Part.file.inj same]
            exact unknown
      | environment other =>
          refine onwards ⟨(fun same => Part.noConfusion same), fun another same => ?_⟩ found
          cases same

/-- The path of a name is the directory with the name. -/
theorem InDirectory.known (inDirectory : InDirectory inputs workpath directory) {name : Bytes}
    (known : inputsNamed inputs name ≠ []) :
    replaceWithFullPath inputs workpath name = directory ++ name := by
  rcases replaceWithFullPath_cases inputs workpath name with ⟨fileName, member, same, path⟩
      | ⟨unknown, -⟩
  · rw [path, inDirectory.path fileName member, same]
  · exact absurd unknown known

/-- A name that is known is that of an input file. -/
theorem inputsNamed_mem {name : Bytes} (known : inputsNamed inputs name ≠ []) :
    Exists fun fileName => fileName ∈ inputs ∧ Utf8.ofString fileName = name := by
  rcases List.exists_mem_of_ne_nil _ known with ⟨fileName, member⟩
  rw [inputsNamed, List.mem_filter, decide_eq_true_eq] at member
  exact ⟨fileName, member⟩

theorem PlainNames.known (plain : PlainNames inputs) {name : Bytes}
    (known : inputsNamed inputs name ≠ []) :
    name ≠ [] ∧ forall byte, byte ∈ name -> PlainOrSpace byte := by
  rcases inputsNamed_mem known with ⟨fileName, member, same⟩
  rw [<- same]
  refine ⟨fun empty => (plain fileName member).1 ?_, (plain fileName member).2⟩
  cases listed : fileName.toList with
  | nil => exact String.toList_eq_nil_iff.mp listed
  | cons letter rest =>
      have letters : Utf8.encode fileName.toList = [] := empty
      rw [listed, Utf8.encode_cons] at letters
      exact absurd (List.append_eq_nil_iff.mp letters).1 (Utf8.utf8EncodeChar_ne_nil letter)

/-- A path has no mark and no `$`. -/
theorem known_plain (inDirectory : InDirectory inputs workpath directory)
    (plain : PlainNames inputs) {name : Bytes} (known : inputsNamed inputs name ≠ []) :
    forall byte, byte ∈ replaceWithFullPath inputs workpath name -> PlainOrSpace byte := by
  rw [inDirectory.known known]
  intro byte member
  exact (List.mem_append.mp member).elim (inDirectory.letters byte) ((plain.known known).2 byte)

/-- A `$` in the text of a part is that of a variable. -/
theorem fileText_dollar (inDirectory : InDirectory inputs workpath directory)
    (plain : PlainNames inputs) {part : Part} (ordinary : OrdinaryPart part)
    (named : WellNamed part) (noVariable : variableName part = none) :
    dollarByte ∉ fileText inputs workpath part := by
  intro member
  cases part with
  | byte value =>
      rw [fileText, List.mem_singleton] at member
      rw [<- member] at ordinary
      exact ordinaryPart_dollar ordinary
  | file name =>
      by_cases known : inputsNamed inputs name = []
      · rw [fileText, replaceWithFullPath, known] at member
        rcases List.mem_cons.mp member with mark | inName
        · exact absurd mark (by decide)
        · exact (name_byte_plain (named _ inName)).2.1 rfl
      · exact (plainOrSpace_byte (known_plain inDirectory plain known _ member)).2.1 rfl
  | environment name => cases noVariable

/-- Neither the settled parts nor the paths in their place have a mark. -/
theorem textOf_settled (inDirectory : InDirectory inputs workpath directory) (plain : PlainNames inputs)
    {parts : List Part} (settled : forall part, part ∈ parts -> Settled inputs part)
    (noVariable : NoVariable parts) : atByte ∉ textOf inputs workpath parts := by
  intro member
  rcases List.mem_flatMap.mp member with ⟨part, listed, inPart⟩
  cases part with
  | byte value =>
      rw [fileText, List.mem_singleton] at inPart
      exact (settled _ listed).1 (congrArg Part.byte inPart.symm)
  | file name => exact (plainOrSpace_byte (known_plain inDirectory plain ((settled _ listed).2 name rfl) _ inPart)).1 rfl
  | environment name => exact noVariable name listed

/-- Text with a path in it names no input file, and neither does the text that was there before. -/
theorem inputsNamed_rest (inDirectory : InDirectory inputs workpath directory)
    (plain : PlainNames inputs) {parts : List Part} (noVariable : NoVariable parts)
    (front : Bytes) :
    inputsNamed inputs (front ++ textOf inputs workpath parts) = inputsNamed inputs
        (front ++ parts.flatMap rawText) := by
  by_cases replaced : Exists fun name => Part.file name ∈ parts ∧ inputsNamed inputs name ≠ []
  · rcases replaced with ⟨name, member, known⟩
    have noPath : inputsNamed inputs (front ++ textOf inputs workpath parts) = [] := by
      by_contra found
      rcases inputsNamed_mem found with ⟨fileName, listed, same⟩
      rcases List.append_of_mem member with ⟨before, behind, split⟩
      apply inDirectory.foreign fileName listed
      rw [same, split, textOf_append, textOf_cons, fileText, inDirectory.known known]
      refine ⟨front ++ textOf inputs workpath before, name ++ textOf inputs workpath behind, ?_⟩
      simp only [List.append_assoc]
    have noMark : inputsNamed inputs (front ++ parts.flatMap rawText) = [] := by
      by_contra found
      have marked : atByte ∈ front ++ parts.flatMap rawText :=
        List.mem_append_right _ (List.mem_flatMap.mpr ⟨_, member, List.mem_cons_self⟩)
      exact (plainOrSpace_byte ((plain.known found).2 _ marked)).1 rfl
    rw [noPath, noMark]
  · refine congrArg (fun behind => inputsNamed inputs (front ++ behind))
      (List.flatMap_congr fun part member => ?_)
    cases part with
    | byte value => rfl
    | file name =>
        have unknown : inputsNamed inputs name = [] := by
          by_contra known
          exact replaced ⟨name, member, known⟩
        rw [fileText, replaceWithFullPath, unknown]
        rfl
    | environment name => exact absurd member (noVariable name)

end

/-! ## One argument in both runs -/

section

variable {inputs : List String} {workpath : String} {directory : Bytes} {getenv : Bytes -> Bytes}
  {literal : UInt8 -> Prop}

theorem textOf_resolved (parts : List Part) :
    textOf inputs workpath (parts.flatMap (resolved inputs getenv)) = parts.flatMap
        (valueOf inputs workpath getenv) := by
  rw [textOf, List.flatMap_assoc]
  refine List.flatMap_congr fun part _ => ?_
  cases part with
  | byte value => rfl
  | file name =>
      rw [resolved, valueOf]
      by_cases unknown : inputsNamed inputs name = []
      · rw [if_pos unknown, fileText_bytes, replaceWithFullPath, unknown]
      · rw [if_neg unknown]
        exact List.append_nil _
  | environment name => exact fileText_bytes _

/-- What comes out of the parts of an argument whose variables bring in no other. -/
theorem parseArg_parts (inDirectory : InDirectory inputs workpath directory)
    (plain : PlainNames inputs) {parts : List Part}
    (named : forall part, part ∈ parts -> WellNamed part)
    (ordinary : forall part, part ∈ parts -> OrdinaryPart part)
    (values : forall name, Part.environment name ∈ parts -> dollarByte ∉ getenv name)
    {pieces : List Bytes}
    (done : parseArg inputs workpath getenv (textOf inputs workpath parts) = .ok pieces) :
    pieces = (meanings inputs getenv parts).map (textOf inputs workpath) := by
  have dollars : forall part, part ∈ parts -> variableName part = none ->
      dollarByte ∉ fileText inputs workpath part :=
    fun part member => fileText_dollar inDirectory plain (ordinary part member) (named part member)
  have names := variablesOf_parts named dollars
  unfold meanings
  by_cases silent : parts.filterMap variableName = []
  · rw [if_neg (not_not.mpr silent)]
    rw [silent] at names
    have noVariable : NoVariable parts := noVariable_parts.mp silent
    cases found : leftName inputs parts with
    | none =>
        rw [parseArg_plain names
            (textOf_settled inDirectory plain (leftName_none found) noVariable)] at done
        cases done
        rfl
    | some pair =>
        rcases pair with ⟨front, name⟩
        rcases leftName_some found with ⟨settled, left, rest, behind, split, -, raw, whole, text⟩
        have frontVariable : NoVariable front := by
          intro other member
          apply noVariable other
          rw [split]
          exact List.mem_append_left _ member
        have restVariable : NoVariable rest := by
          intro other member
          apply noVariable other
          rw [split]
          exact List.mem_append_right _ (List.mem_cons_of_mem left member)
        have line : textOf inputs workpath parts =
            textOf inputs workpath front ++ atByte :: (behind ++ textOf inputs workpath rest) := by
          rw [split, textOf_append, textOf_cons, text, raw, List.cons_append]
        rw [line] at names done
        have free : atByte ∉ textOf inputs workpath front :=
            textOf_settled inDirectory plain settled frontVariable
        by_cases again : atByte ∈ behind ++ textOf inputs workpath rest
        · have several : 2 ≤
            (textOf inputs workpath front ++ atByte ::
            (behind ++ textOf inputs workpath rest)).count atByte := by
            have more := List.count_pos_iff.mpr again
            rw [List.count_append, List.count_cons_self]
            omega
          rw [parseArg_several names several] at done
          cases done
        · rw [parseArg_named names free again, inputsNamed_rest inDirectory plain restVariable,
            <- whole] at done
          cases done
          rw [List.map_map]
          refine List.map_congr_left fun fileName member => ?_
          have known : inputsNamed inputs name ≠ [] := List.ne_nil_of_mem member
          rw [inputsNamed, List.mem_filter, decide_eq_true_eq] at member
          rw [Function.comp_apply, textOf_append, inDirectory.path fileName member.1, member.2,
              <- inDirectory.known known]
          exact congrArg (textOf inputs workpath front ++ ·) (List.append_nil _).symm
  · have undisturbed : forall front name later, parts = front ++ .environment name :: later ->
        ¬ variableText name <:+: [] ++ front.flatMap (valueOf inputs workpath getenv) := by
      intro front name later split occurs
      have inFront : dollarByte ∈ front.flatMap (valueOf inputs workpath getenv) :=
          occurs.subset List.mem_cons_self
      rcases List.mem_flatMap.mp inFront with ⟨part, member, inPart⟩
      have listed : part ∈ parts := by
        rw [split]
        exact List.mem_append_left _ member
      cases part with
      | byte value => exact dollars _ listed rfl inPart
      | file other => exact dollars _ listed rfl inPart
      | environment other => exact values other listed inPart
    have replaced := @foldl_variables inputs workpath getenv parts named [] undisturbed
    rw [List.nil_append, List.nil_append, <- names] at replaced
    rw [<- names] at silent
    rw [parseArg, if_pos silent] at done
    cases done
    rw [names] at silent
    rw [if_pos silent, List.map_singleton, textOf_resolved]
    exact congrArg (fun piece => [piece]) replaced

/-- What an argument becomes is a text, with bytes of which each means nothing to bash or is
a space. -/
theorem meanings_text (meaningless : Meaningless literal) {parts : List Part}
    (named : forall part, part ∈ parts -> WellNamed part)
    (ordinary : forall part, part ∈ parts -> OrdinaryPart part)
    (values : forall name, Part.environment name ∈ parts -> forall byte, byte ∈ getenv name ->
    literal byte ∨ byte = spaceByte)
    {text : List Part} (member : text ∈ meanings inputs getenv parts) :
    forall part, part ∈ text ->
    TextPart inputs (fun byte => literal byte ∨ byte = spaceByte) part := by
  have plain {value : UInt8} (inParts : Part.byte value ∈ parts) : literal value ∨
      value = spaceByte := by
    rcases ordinary _ inParts with (isPlain | space) | mark
    · exact Or.inl (meaningless.plain value isPlain)
    · exact Or.inr space
    · exact Or.inl (mark ▸ meaningless.mark)
  have settledText {some_parts : List Part} (inside : forall part, part ∈ some_parts ->
      part ∈ parts)
      (noVariable : NoVariable parts) (settled : forall part, part ∈ some_parts ->
          Settled inputs part) :
      forall part, part ∈ some_parts ->
      TextPart inputs (fun byte => literal byte ∨ byte = spaceByte) part := by
    intro part listed
    cases part with
    | byte value => exact plain (inside _ listed)
    | file name => exact (settled _ listed).2 name rfl
    | environment name => exact absurd (inside _ listed) (noVariable name)
  unfold meanings at member
  by_cases silent : parts.filterMap variableName = []
  · rw [if_neg (not_not.mpr silent)] at member
    have noVariable : NoVariable parts := noVariable_parts.mp silent
    cases found : leftName inputs parts with
    | none =>
        rw [found] at member
        rw [List.mem_singleton.mp member]
        exact settledText (fun _ inParts => inParts) noVariable (leftName_none found)
    | some pair =>
        rcases pair with ⟨front, name⟩
        rw [found] at member
        rcases List.mem_map.mp member with ⟨fileName, listed, rfl⟩
        rcases leftName_some found with ⟨settled, left, rest, -, split, -⟩
        intro part inText
        rcases List.mem_append.mp inText with inFront | last
        · refine settledText (fun other inFront => ?_) noVariable settled part inFront
          rw [split]
          exact List.mem_append_left _ inFront
        · rw [List.mem_singleton.mp last]
          exact List.ne_nil_of_mem listed
  · rw [if_pos silent] at member
    rw [List.mem_singleton.mp member]
    have bytesText {bytes : Bytes} (good : forall byte, byte ∈ bytes -> literal byte ∨
        byte = spaceByte) :
        forall part, part ∈ bytesPart bytes ->
        TextPart inputs (fun byte => literal byte ∨ byte = spaceByte) part := by
      intro part listed
      rcases List.mem_map.mp listed with ⟨byte, inBytes, rfl⟩
      exact good byte inBytes
    intro part inText
    rcases List.mem_flatMap.mp inText with ⟨source, inParts, resolves⟩
    cases source with
    | byte value =>
        rw [resolved, List.mem_singleton] at resolves
        rw [resolves]
        exact plain inParts
    | file name =>
        rw [resolved] at resolves
        by_cases unknown : inputsNamed inputs name = []
        · rw [if_pos unknown] at resolves
          refine bytesText (List.forall_mem_cons.mpr ⟨Or.inl meaningless.mark, fun byte inName =>
              ?_⟩) part resolves
          have isPlain : isPlainByte byte = true := by
            rw [isPlainByte, named _ inParts byte inName]
            rfl
          exact Or.inl (meaningless.plain byte isPlain)
        · rw [if_neg unknown, List.mem_singleton] at resolves
          rw [resolves]
          exact unknown
    | environment name => exact bytesText (values name inParts) part resolves

/-- Without variables no `@` is left of an argument that is not taken as it is. -/
theorem meanings_unmarked (inDirectory : InDirectory inputs workpath directory)
    (plain : PlainNames inputs) {parts : List Part} (noVariable : NoVariable parts)
    {text : List Part} (member : text ∈ meanings inputs getenv parts) :
    atByte ∉ textOf inputs workpath text := by
  unfold meanings at member
  rw [if_neg (not_not.mpr (noVariable_parts.mpr noVariable))] at member
  cases found : leftName inputs parts with
  | none =>
      rw [found] at member
      rw [List.mem_singleton.mp member]
      exact textOf_settled inDirectory plain (leftName_none found) noVariable
  | some pair =>
      rcases pair with ⟨front, name⟩
      rw [found] at member
      rcases List.mem_map.mp member with ⟨fileName, listed, rfl⟩
      rcases leftName_some found with ⟨settled, left, rest, -, split, -⟩
      apply textOf_settled inDirectory plain
      · intro part inText
        rcases List.mem_append.mp inText with inFront | last
        · exact settled part inFront
        · rw [List.mem_singleton.mp last]
          refine ⟨(fun same => nomatch same), fun other same => ?_⟩
          rw [<- Part.file.inj same]
          exact List.ne_nil_of_mem listed
      · intro other inText
        rcases List.mem_append.mp inText with inFront | last
        · apply noVariable other
          rw [split]
          exact List.mem_append_left _ inFront
        · exact nomatch List.mem_singleton.mp last

/-! ## One word -/

/-- A text that is one word for bash. -/
def WholeWord (text : Bytes) : Prop :=
  text ≠ [] ∧ spaceByte ∉ text

theorem value_ne_nil_iff (inDirectory : InDirectory inputs workpath directory) {part : Part} :
    valueOf inputs workpath getenv part ≠ [] ↔ forall name, part = .environment name ->
    getenv name ≠ [] := by
  cases part with
  | byte value => exact iff_of_true (List.cons_ne_nil _ _) fun _ same => nomatch same
  | file name =>
      refine iff_of_true ?_ fun _ same => nomatch same
      by_cases known : inputsNamed inputs name = []
      · rw [valueOf, replaceWithFullPath, known]
        exact List.cons_ne_nil _ _
      · rcases inDirectory.rooted with ⟨rest, rooted⟩
        rw [valueOf, inDirectory.known known, rooted]
        exact List.cons_ne_nil _ _
  | environment name =>
      constructor
      · intro some_value other same
        rw [<- Part.environment.inj same]
        exact some_value
      · intro some_value
        exact some_value name rfl

/-- In a directory without spaces, a space comes from the argument or from the value of a
variable. -/
theorem space_value_iff (inDirectory : InDirectory inputs workpath directory)
    (whole : spaceByte ∉ directory) {part : Part} (named : WellNamed part) :
    spaceByte ∈ valueOf inputs workpath getenv part ↔
      part = .byte spaceByte ∨ Exists fun name => part = .environment name ∧
          spaceByte ∈ getenv name := by
  cases part with
  | byte value =>
      rw [valueOf, List.mem_singleton, Part.byte.injEq]
      constructor
      · intro same
        exact Or.inl same.symm
      · rintro (same | ⟨_, impossible, -⟩)
        · exact same.symm
        · cases impossible
  | file name =>
      have inName : spaceByte ∉ name := fun member => (name_byte_plain (named _ member)).2.2.2 rfl
      refine iff_of_false ?_ ?_
      · by_cases known : inputsNamed inputs name = []
        · rw [valueOf, replaceWithFullPath, known, List.mem_cons]
          exact fun either => either.elim (by decide) inName
        · rw [valueOf, inDirectory.known known, List.mem_append]
          exact fun either => either.elim whole inName
      · rintro (impossible | ⟨_, impossible, -⟩)
        · cases impossible
        · cases impossible
  | environment name =>
      constructor
      · intro member
        exact Or.inr ⟨name, rfl, member⟩
      · rintro (impossible | ⟨other, same, member⟩)
        · cases impossible
        · rw [Part.environment.inj same]
          exact member

/-- An argument is one word if and only if what it becomes in the container is one. -/
theorem wholeWord_substitute_iff (inDirectory : InDirectory inputs workpath directory)
    (whole : spaceByte ∉ directory) {parts : List Part}
    (named : forall part, part ∈ parts -> WellNamed part) :
    WholeWord (parts.flatMap (valueOf inputs workpath getenv)) ↔ OneWord getenv parts := by
  constructor
  · rintro ⟨nonempty, noSpace⟩
    have inText : forall part, part ∈ parts -> spaceByte ∉ valueOf inputs workpath getenv part :=
      fun part member inPart => noSpace (List.mem_flatMap.mpr ⟨part, member, inPart⟩)
    refine ⟨fun member => inText _ member List.mem_cons_self, fun name member =>
        inText _ member, ?_⟩
    rcases List.exists_mem_of_ne_nil _ nonempty with ⟨byte, member⟩
    rcases List.mem_flatMap.mp member with ⟨part, listed, inPart⟩
    exact ⟨part, listed, (value_ne_nil_iff inDirectory).mp (List.ne_nil_of_mem inPart)⟩
  · intro oneWord
    constructor
    · rcases oneWord.visible with ⟨part, member, visible⟩
      intro empty
      exact (value_ne_nil_iff inDirectory).mpr visible
          (List.flatMap_eq_nil_iff.mp empty part member)
    · intro member
      rcases List.mem_flatMap.mp member with ⟨part, listed, inPart⟩
      rcases (space_value_iff inDirectory whole (named part listed)).mp inPart with
          rfl | ⟨name, rfl, inValue⟩
      · exact oneWord.whole listed
      · exact oneWord.values name listed inValue

/-- A space in an argument is one of its bytes. -/
theorem space_raw {parts : List Part} (named : forall part, part ∈ parts -> WellNamed part)
    (noVariable : NoVariable parts) :
    spaceByte ∈ parts.flatMap rawText ↔ Part.byte spaceByte ∈ parts := by
  rw [List.mem_flatMap]
  constructor
  · rintro ⟨part, member, inPart⟩
    cases part with
    | byte value =>
        rw [List.mem_singleton.mp inPart]
        exact member
    | file name =>
        rcases List.mem_cons.mp inPart with mark | inName
        · exact absurd mark (by decide)
        · exact absurd rfl (name_byte_plain (named _ member _ inName)).2.2.2
    | environment name => exact absurd member (noVariable name)
  · intro member
    exact ⟨_, member, List.mem_cons_self⟩

/-- A space in the text with the path of a file in it is one that the argument had. -/
theorem space_left_iff (inDirectory : InDirectory inputs workpath directory)
    (whole : spaceByte ∉ directory) {parts front : List Part} {name : Bytes}
    (named : forall part, part ∈ parts -> WellNamed part) (noVariable : NoVariable parts)
    (found : leftName inputs parts = some (front, name)) (known : inputsNamed inputs name ≠ []) :
    spaceByte ∈ textOf inputs workpath (front ++ [.file name]) ↔ Part.byte spaceByte ∈ parts := by
  rcases leftName_some found with ⟨-, left, rest, behind, split, -, raw, behindMark, -⟩
  rw [split] at named noVariable
  rw [List.forall_mem_append] at named
  have frontVariable : NoVariable front :=
      fun other member => noVariable other (List.mem_append_left _ member)
  have behindVariable : NoVariable (left :: rest) :=
      fun other member => noVariable other (List.mem_append_right _ member)
  have inFront : spaceByte ∈ textOf inputs workpath front ↔ Part.byte spaceByte ∈ front := by
    rw [textOf, List.mem_flatMap]
    constructor
    · rintro ⟨part, member, inPart⟩
      cases part with
      | byte value =>
          rw [List.mem_singleton.mp inPart]
          exact member
      | file other =>
          rcases (@space_value_iff inputs workpath directory (fun _ => []) inDirectory whole _
              (named.1 _ member)).mp inPart with
            impossible | ⟨_, impossible, -⟩
          · cases impossible
          · cases impossible
      | environment other => exact absurd member (frontVariable other)
    · intro member
      exact ⟨_, member, List.mem_cons_self⟩
  have inName : spaceByte ∈ name ↔ Part.byte spaceByte ∈ left :: rest := by
    rw [<- space_raw named.2 behindVariable, List.flatMap_cons, raw, List.cons_append,
        <- behindMark, List.mem_cons]
    exact (or_iff_right (by decide)).symm
  have path : textOf inputs workpath [.file name] = directory ++ name :=
    (List.append_nil _).trans (inDirectory.known known)
  rw [textOf_append, path, List.mem_append, List.mem_append, or_iff_right whole, inFront, inName,
      split, List.mem_append]

/-- All that an argument becomes is one word, if and only if nothing is left of it or it is
one word. -/
theorem wholeWords_iff (inDirectory : InDirectory inputs workpath directory)
    (whole : spaceByte ∉ directory) {parts : List Part}
    (named : forall part, part ∈ parts -> WellNamed part) :
    (forall text, text ∈ meanings inputs getenv parts -> WholeWord (textOf inputs workpath text)) ↔
      LeftOut inputs parts ∨ OneWord getenv parts := by
  have substituted := @wholeWord_substitute_iff inputs workpath directory getenv inDirectory
      whole parts named
  unfold meanings
  by_cases silent : parts.filterMap variableName = []
  · have noVariable : NoVariable parts := noVariable_parts.mp silent
    rw [if_neg (not_not.mpr silent)]
    cases found : leftName inputs parts with
    | none =>
        have same_text : textOf inputs workpath parts = parts.flatMap
            (valueOf inputs workpath getenv) := by
          refine List.flatMap_congr fun part member => ?_
          cases part with
          | byte value => rfl
          | file name => rfl
          | environment name => exact absurd member (noVariable name)
        rw [List.forall_mem_singleton, same_text, substituted]
        refine (or_iff_right ?_).symm
        rintro ⟨-, front, name, impossible, -⟩
        rw [found] at impossible
        cases impossible
    | some pair =>
        rcases pair with ⟨front, name⟩
        by_cases unknown : inputsNamed inputs name = []
        · refine iff_of_true ?_ (Or.inl ⟨noVariable, front, name, found, unknown⟩)
          dsimp only
          rw [unknown]
          exact List.forall_mem_nil _
        · have notLeft : ¬ LeftOut inputs parts := by
            rintro ⟨-, otherFront, otherName, otherFound, missing⟩
            rw [found] at otherFound
            cases otherFound
            exact unknown missing
          have one : (forall text, text ∈ (inputsNamed inputs name).map
              (fun _ => front ++ [Part.file name]) ->
              WholeWord (textOf inputs workpath text)) ↔
                  WholeWord (textOf inputs workpath (front ++ [.file name])) := by
            rcases List.exists_cons_of_ne_nil unknown with ⟨fileName, others, listed⟩
            rw [listed]
            constructor
            · intro each
              exact each _ List.mem_cons_self
            · intro this text member
              rcases List.mem_map.mp member with ⟨-, -, rfl⟩
              exact this
          have visible : textOf inputs workpath (front ++ [.file name]) ≠ [] := by
            rcases inDirectory.rooted with ⟨letters, rooted⟩
            rw [textOf_append, textOf_cons, fileText, inDirectory.known unknown, rooted]
            exact List.append_ne_nil_of_right_ne_nil _ (List.cons_ne_nil _ _)
          rw [or_iff_right notLeft, one, WholeWord, and_iff_right visible,
            @space_left_iff inputs workpath directory inDirectory whole _ _ _ named noVariable
                found unknown]
          constructor
          · intro noSpace
            rcases leftName_some found with ⟨-, left, rest, behind, split, -⟩
            have member : left ∈ parts := by
              rw [split]
              exact List.mem_append_right _ List.mem_cons_self
            refine ⟨noSpace, fun other inParts => absurd inParts (noVariable other), left, member,
                fun other same => ?_⟩
            exact absurd (same ▸ member) (noVariable other)
          · exact OneWord.whole
  · rw [if_pos silent, List.forall_mem_singleton, textOf_resolved, substituted]
    refine (or_iff_right ?_).symm
    rintro ⟨noVariable, -⟩
    exact silent (noVariable_parts.mpr noVariable)

end

/-! ## One text under two directories -/

section

variable {inputs : List String} {path other : String} {host container : Bytes}
    {Kind : UInt8 -> Prop}

/-- A part of a text begins and ends with the same byte in both runs. -/
theorem fileText_ends (direct : InDirectory inputs path host)
    (mounted : InDirectory inputs other container) (plain : PlainNames inputs) {part : Part}
    (inText : TextPart inputs Kind part) :
    fileText inputs path part ≠ [] ∧ fileText inputs other part ≠ [] ∧
      (fileText inputs path part).head? = (fileText inputs other part).head? ∧
      (fileText inputs path part).getLast? = (fileText inputs other part).getLast? := by
  cases part with
  | byte value => exact ⟨List.cons_ne_nil _ _, List.cons_ne_nil _ _, rfl, rfl⟩
  | file name =>
      rcases direct.rooted with ⟨letters, rooted⟩
      rcases mounted.rooted with ⟨otherLetters, otherRooted⟩
      have named : name ≠ [] := (plain.known inText).1
      rw [fileText, fileText, direct.known inText, mounted.known inText,
          List.getLast?_append_of_ne_nil _ named,
        List.getLast?_append_of_ne_nil _ named, rooted, otherRooted]
      exact ⟨List.cons_ne_nil _ _, List.cons_ne_nil _ _, rfl, rfl⟩
  | environment name => exact False.elim inText

theorem textOf_ends (direct : InDirectory inputs path host)
    (mounted : InDirectory inputs other container) (plain : PlainNames inputs) {parts : List Part}
    (shape : Shape inputs parts) :
    (textOf inputs path parts).head? = (textOf inputs other parts).head? ∧
      (textOf inputs path parts).getLast? = (textOf inputs other parts).getLast? := by
  induction parts with
  | nil => exact ⟨rfl, rfl⟩
  | cons part rest inductionHypothesis =>
      have shapes := List.forall_mem_cons.mp shape
      rcases fileText_ends direct mounted plain shapes.1 with ⟨nonempty, otherNonempty, first, last⟩
      rcases inductionHypothesis shapes.2 with ⟨-, behind⟩
      constructor
      · rw [textOf_cons, textOf_cons, List.head?_append_of_ne_nil _ nonempty,
          List.head?_append_of_ne_nil _ otherNonempty,
          first]
      · rw [textOf_cons, textOf_cons, List.getLast?_append, List.getLast?_append, behind, last]

/-- What is not only spaces in one run is not in the other. -/
theorem visible_other (mounted : InDirectory inputs other container) {parts : List Part}
    (shape : Shape inputs parts)
    (visible : Exists fun byte => byte ∈ textOf inputs path parts ∧ byte ≠ spaceByte) :
    Exists fun byte => byte ∈ textOf inputs other parts ∧ byte ≠ spaceByte := by
  rcases visible with ⟨byte, member, different⟩
  rcases List.mem_flatMap.mp member with ⟨part, listed, inPart⟩
  cases part with
  | byte value => exact ⟨byte, List.mem_flatMap.mpr ⟨_, listed, inPart⟩, different⟩
  | file name =>
      rcases mounted.rooted with ⟨letters, rooted⟩
      refine ⟨47, List.mem_flatMap.mpr ⟨_, listed, ?_⟩, by decide⟩
      rw [fileText, mounted.known (shape _ listed), rooted]
      exact List.mem_cons_self
  | environment name => exact False.elim (shape _ listed)

theorem SameArg.ends (direct : InDirectory inputs path host)
    (mounted : InDirectory inputs other container) (plain : PlainNames inputs)
    {arg otherArg : Bytes} (same : SameArg inputs path other arg otherArg) :
    arg.head? = otherArg.head? ∧ arg.getLast? = otherArg.getLast? := by
  rcases same with ⟨parts, shape, rfl, rfl⟩
  exact textOf_ends direct mounted plain shape

/-- A byte that is in no path is in both arguments or in none. -/
theorem SameArg.mem (direct : InDirectory inputs path host) (plain : PlainNames inputs)
    {arg otherArg : Bytes} (same : SameArg inputs path other arg otherArg) {byte : UInt8}
    (strange : ¬ PlainOrSpace byte) (member : byte ∈ arg) :
    byte ∈ otherArg := by
  rcases same with ⟨parts, shape, rfl, rfl⟩
  rcases List.mem_flatMap.mp member with ⟨part, listed, inPart⟩
  cases part with
  | byte value => exact List.mem_flatMap.mpr ⟨_, listed, inPart⟩
  | file name => exact absurd (known_plain direct plain (shape _ listed) byte inPart) strange
  | environment name => exact False.elim (shape _ listed)

/-- A text without names is the same in both runs. -/
theorem sameArg_bytes (bytes : Bytes) : SameArg inputs path other bytes bytes := by
  refine ⟨bytesPart bytes, fun part member => ?_, (fileText_bytes bytes).symm,
      (fileText_bytes bytes).symm⟩
  rcases List.mem_map.mp member with ⟨byte, -, rfl⟩
  trivial

/-- The texts of a direct run are the fields of those of the other, if and only if each of
these is one word.  Every text has a field there, since a word begins its own.  So each
has one, and with the same ends as the text it is all of it. -/
theorem same_words_iff (direct : InDirectory inputs path host)
    (mounted : InDirectory inputs other container) (plain : PlainNames inputs)
    {texts : List (List Part)} (shapes : forall text, text ∈ texts -> Shape inputs text) :
    List.Forall₂ (SameArg inputs path other) (texts.map (textOf inputs path))
        ((texts.map (textOf inputs other)).flatMap (fields spaceByte)) ↔
      forall text, text ∈ texts -> WholeWord (textOf inputs other text) := by
  constructor
  · intro related
    rw [List.flatMap_map] at related
    have some_field : forall text, text ∈ texts ->
        fields spaceByte (textOf inputs other text) ≠ [] := by
      intro text member
      rcases exists_of_forall₂ related _ (List.mem_map_of_mem member) with ⟨word, listed, same⟩
      rcases List.mem_flatMap.mp listed with ⟨source, -, inText⟩
      rcases Fields.mem_fields inText with ⟨nonempty, whole, -⟩
      rcases List.exists_cons_of_ne_nil nonempty with ⟨byte, rest, begins⟩
      have first : (textOf inputs path text).head? = some byte := by
        rw [(same.ends direct mounted plain).1, begins]
        rfl
      have different : byte ≠ spaceByte := by
        rintro rfl
        apply whole
        rw [begins]
        exact List.mem_cons_self
      exact Fields.fields_ne_nil_iff.mpr
        (visible_other mounted (shapes text member) ⟨byte, List.mem_of_mem_head? first, different⟩)
    intro text member
    rcases single_of_forall₂ some_field related text member with ⟨word, single, same⟩
    have inWord : word ∈ fields spaceByte (textOf inputs other text) := by
      rw [single]
      exact List.mem_cons_self
    rcases Fields.mem_fields inWord with ⟨nonempty, whole, -⟩
    rcases textOf_ends direct mounted plain (shapes text member) with ⟨first, last⟩
    rcases same.ends direct mounted plain with ⟨wordFirst, wordLast⟩
    have same_text : textOf inputs other text = word := by
      apply Fields.eq_of_single_field single
      · rw [<- first, wordFirst]
        exact fun space => whole (List.mem_of_mem_head? space)
      · rw [<- last, wordLast]
        exact fun space => whole (List.mem_of_mem_getLast? space)
    rw [same_text]
    exact ⟨nonempty, whole⟩
  · intro words
    have unbroken : (texts.map (textOf inputs other)).flatMap (fields spaceByte) = texts.map
        (textOf inputs other) := by
      apply Fields.flatMap_fields
      intro word member
      rcases List.mem_map.mp member with ⟨text, listed, rfl⟩
      exact words text listed
    rw [unbroken, List.forall₂_map_left_iff, List.forall₂_map_right_iff, List.forall₂_same]
    exact fun text member => ⟨text, shapes text member, rfl, rfl⟩

end

end Arguments
end Worker
end Awe
