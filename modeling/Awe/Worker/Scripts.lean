import Awe.Worker.ArgumentTexts

namespace Awe
namespace Worker
namespace Arguments

open Lib Lib.Path

/-!
# Running a command directly and in a container

`RunWorkunitDirect` gives a program its arguments as a list: the array of the
command, if it has one, and the parsed arguments otherwise.  The array has its
file names replaced, and all else is as it was.  `RunWorkunitDocker` joins the
parsed arguments with spaces and leaves it to bash to take them apart again.

So a space inside of an argument divides it in the container, and an empty argument
disappears there.  In an array a variable has its value only in the container, and
an argument with an `@` that names no file is only in the direct run.  A string is
split after its names are replaced, so a space in the path of the working directory
divides an argument of the direct run.  Where none of this is the case, both ways
run the program on the same list, up to the directory in front of the file names.

Of bash only this is assumed: on a line of characters that mean nothing to it, and of
spaces, it runs the first word with the other words as its arguments.
-/

/-- The arguments that `RunWorkunitDirect` chooses. -/
def directArgs (cmd : Command) : List Bytes :=
  if cmd.argsArray ≠ [] then cmd.argsArray else cmd.parsedArgs

def STDOUT_FILENAME : String := "awe_stdout.txt"
def STDERR_FILENAME : String := "awe_stderr.txt"

/-- The redirection behind the command, to two files. -/
def redirection (stderrFile stdoutFile : Bytes) : Bytes :=
  Utf8.ofString " 2> " ++ stderrFile ++ Utf8.ofString " 1> " ++ stdoutFile

/-- `pipe_output`. -/
def pipeOutput (dockerWorkDir : String) : Bytes :=
  redirection (Utf8.ofString (joinPath dockerWorkDir STDERR_FILENAME))
    (Utf8.ofString (joinPath dockerWorkDir STDOUT_FILENAME))

/-- The command line without the redirection. -/
def commandLine (cmd : Command) : Bytes :=
  cmd.name ++ [spaceByte] ++ [spaceByte].intercalate cmd.parsedArgs ++ [spaceByte]

def bashCommand (dockerWorkDir : String) (cmd : Command) : Bytes :=
  commandLine cmd ++ pipeOutput dockerWorkDir

/-- A script with one command. -/
def scriptOf (command : Bytes) : Bytes :=
  Utf8.ofString "#!/bin/bash\n" ++ command ++ Utf8.ofString "\n"

/-- The script that `RunWorkunitDocker` writes for a command without a script of its own. -/
def wrapperContent (dockerWorkDir : String) (cmd : Command) : Bytes :=
  scriptOf (bashCommand dockerWorkDir cmd)

/-- The program and the arguments of a direct run.  The command has no image. -/
def directVector (outside : Outside) (inputs : List String) (cmd : Command) : List Bytes :=
  let prepared := (parseWorkunitArgs outside inputs
      { cmd with dockerimage := "", dockerPull := "" }).2
  prepared.name :: directArgs prepared

/-- The program and the arguments in the container, where `bash` gives what a script runs. -/
def containerVector (bash : Bytes -> List Bytes) (outside : Outside) (inputs : List String)
    (cmd : Command) :
    List Bytes :=
  bash (wrapperContent outside.dockerWorkDir (parseWorkunitArgs outside inputs cmd).2)

/-- The words with which bash begins something else than a command. -/
def reservedWords : List Bytes :=
  ["if", "then", "elif", "else", "fi", "time", "for", "in", "until", "while", "do", "done", "case",
      "esac", "coproc",
    "select", "function"].map Utf8.ofString

def PlainWord (word : Bytes) : Prop :=
  word ≠ [] ∧ forall byte, byte ∈ word -> isPlainByte byte = true

/-- On a line of such characters and spaces that does not begin with a reserved word, and
whose output goes to two files, bash splits at the spaces. -/
def SplitsAtSpaces (literal : UInt8 -> Prop) (bash : Bytes -> List Bytes) : Prop :=
  forall line stderrFile stdoutFile,
    (forall byte, byte ∈ line -> literal byte ∨ byte = spaceByte) ->
    (forall word, (fields spaceByte line).head? = some word -> word ∉ reservedWords) ->
    PlainWord stderrFile -> PlainWord stdoutFile ->
    bash (scriptOf (line ++ redirection stderrFile stdoutFile)) = fields spaceByte line

/-- A command with a plain name that has its arguments in one of the two forms, before it is
prepared.  The directories of both runs, and the names of the input files, consist of
characters of paths and spaces; that of the container, which is fixed, has no spaces. -/
structure Ordinary (outside : Outside) (inputs : List String) (path : String)
    (host container : Bytes) (cmd : Command) :
    Prop where
  name : PlainWord cmd.name
  unreserved : cmd.name ∉ reservedWords
  form : cmd.args = [] ∨ cmd.argsArray = []
  narrow : Narrow cmd.args
  parts : forall arg, arg ∈ writtenOf cmd -> forall part, part ∈ arg.parts -> OrdinaryPart part
  unparsed : cmd.parsedArgs = []
  image : cmd.dockerimage ≠ "" ∨ cmd.dockerPull ≠ ""
  inputNames : PlainNames inputs
  direct : InDirectory inputs path host
  mounted : InDirectory inputs outside.dockerWorkDir container
  whole : spaceByte ∉ container
  stderrFile : PlainWord (Utf8.ofString (joinPath outside.dockerWorkDir STDERR_FILENAME))
  stdoutFile : PlainWord (Utf8.ofString (joinPath outside.dockerWorkDir STDOUT_FILENAME))

/-- The values of the variables in the arguments mean nothing to bash, but for spaces. A value
with a quote or a dollar would be a program of its own; what bash makes of it is not asked here.
-/
def LiteralValues (literal : UInt8 -> Prop) (getenv : Bytes -> Bytes) (cmd : Command) : Prop :=
  forall arg, arg ∈ writtenOf cmd -> forall name, Part.environment name ∈ arg.parts ->
    forall byte, byte ∈ getenv name -> literal byte ∨ byte = spaceByte

/-- `ParseWorkunitArgs` prepares the command for either run. The two differ in the directory that
is put in front of the names. -/
structure Prepared (outside : Outside) (inputs : List String) (cmd : Command) : Prop where
  direct : (parseWorkunitArgs outside inputs { cmd with dockerimage := "", dockerPull := "" }).1 =
      none
  mounted : (parseWorkunitArgs outside inputs cmd).1 = none

/-- Both runs give the program the same list, up to the directory in front of the names of files.
The two runs have different working directories, so a name that stands for a file stands for
different paths in them. -/
def SameVector (bash : Bytes -> List Bytes) (outside : Outside) (inputs : List String)
    (path : String) (cmd : Command) :
    Prop :=
  List.Forall₂ (SameArg inputs path outside.dockerWorkDir) (directVector outside inputs cmd)
    (containerVector bash outside inputs cmd)

/-- An argument of an array is the same in both runs: it has no variables, no `@` that begins
no name, and is one word. -/
structure Unchanged (inputs : List String) (getenv : Bytes -> Bytes) (parts : List Part) :
    Prop where
  noVariable : NoVariable parts
  named : leftName inputs parts = none
  oneWord : OneWord getenv parts

/-- In a string, the path of a name that is not between quotes has no space. -/
def WholePaths (inputs : List String) (path : String) (cmd : Command) : Prop :=
  forall reference, reference ∈ references cmd.args -> inputsNamed inputs reference.name ≠ [] ->
    spaceByte ∈ replaceWithFullPath inputs path reference.name -> reference.quoted = true

/-- The condition on a command, which depends on the form of its arguments. Each clause can be
read off the command as it was sent, its input files and the values of its variables. -/
structure Unbroken (inputs : List String) (path : String) (getenv : Bytes -> Bytes)
    (cmd : Command) : Prop where
  array : cmd.args = [] -> forall arg, arg ∈ writtenOf cmd -> Unchanged inputs getenv arg.parts
  string : cmd.args ≠ [] -> WholePaths inputs path cmd ∧
    forall arg, arg ∈ writtenOf cmd -> LeftOut inputs arg.parts ∨ OneWord getenv arg.parts

/-! ## The two runs of a command -/

section

variable {literal : UInt8 -> Prop} {bash : Bytes -> List Bytes} {outside : Outside}
    {inputs : List String} {path : String}
  {host container : Bytes} {cmd : Command}

theorem parseArgs_parts {workpath : String} {directory : Bytes} {getenv : Bytes -> Bytes}
    (inDirectory : InDirectory inputs workpath directory) (plain : PlainNames inputs)
    {args : List Written}
    (ordinary : forall arg, arg ∈ args -> forall part, part ∈ arg.parts -> OrdinaryPart part)
    (values : forall arg, arg ∈ args -> forall name, Part.environment name ∈ arg.parts ->
    dollarByte ∉ getenv name)
    {parsed : List Bytes}
    (done : parseArgs inputs workpath getenv (args.map (lineOf inputs workpath)) = .ok parsed) :
    parsed = (args.flatMap fun arg => meanings inputs getenv arg.parts).map
        (textOf inputs workpath) := by
  induction args generalizing parsed with
  | nil =>
      cases done
      rfl
  | cons arg rest inductionHypothesis =>
      rw [List.forall_mem_cons] at ordinary values
      rcases Fallible.bind_ok_iff.mp done with ⟨pieces, first, later⟩
      rcases Fallible.bind_ok_iff.mp later with ⟨others, parsedRest, appended⟩
      rw [line_parts] at first
      cases appended
      rw [parseArg_parts inDirectory plain arg.parts_wellNamed ordinary.1 values.1 first,
        inductionHypothesis ordinary.2 values.2 parsedRest, List.flatMap_cons, List.map_append]

/-- A string is split as it is written if no path divides an argument. -/
theorem textKept_of_paths {workpath : String} {directory text : Bytes}
    (inDirectory : InDirectory inputs workpath directory) (plain : PlainNames inputs)
    (narrow : Narrow text)
    (whole : forall reference, reference ∈ references text ->
    inputsNamed inputs reference.name ≠ [] ->
      spaceByte ∈ replaceWithFullPath inputs workpath reference.name -> reference.quoted = true) :
    TextKept inputs workpath text where
  narrow := narrow
  paths := by
    intro reference member known byte inPath
    rcases plainOrSpace_byte (known_plain inDirectory plain known byte inPath) with
        ⟨-, -, noQuote, small⟩
    refine ⟨small, noQuote, ?_⟩
    rintro rfl
    exact whole reference member known inPath

/-- What is left of a command that has been prepared. -/
theorem parsed_meanings {directory : Bytes} (found : outside.path = .ok path)
    (inDirectory : InDirectory inputs (workpathOf outside path cmd) directory)
    (plain : PlainNames inputs)
    (kept : cmd.args ≠ [] -> TextKept inputs (workpathOf outside path cmd) cmd.args)
    (ordinary : forall arg, arg ∈ writtenOf cmd -> forall part, part ∈ arg.parts ->
    OrdinaryPart part)
    (values : forall arg, arg ∈ writtenOf cmd -> forall name, Part.environment name ∈ arg.parts ->
      dollarByte ∉ outside.getenv name)
    (unparsed : cmd.parsedArgs = []) (returned : (parseWorkunitArgs outside inputs cmd).1 = none) :
    (parseWorkunitArgs outside inputs cmd).2.parsedArgs =
        ((writtenOf cmd).flatMap fun arg => meanings inputs outside.getenv arg.parts).map
          (textOf inputs (workpathOf outside path cmd)) ∧
      (parseWorkunitArgs outside inputs cmd).2.argsArray =
        (prepared inputs (workpathOf outside path cmd) cmd).argsArray ∧
      (parseWorkunitArgs outside inputs cmd).2.name = cmd.name := by
  by_cases nothing : cmd.args = [] ∧ cmd.argsArray = []
  · rcases @parse_nothing outside inputs cmd path found nothing with ⟨run, none_written⟩
    rw [run, none_written, prepared, if_neg (not_not.mpr nothing.1), nothing.2]
    exact ⟨unparsed, rfl, rfl⟩
  · have run := parse_lines found kept nothing
    rw [run, finishArgs] at returned ⊢
    cases done : parseArgs inputs (workpathOf outside path cmd) outside.getenv
        ((writtenOf cmd).map (lineOf inputs (workpathOf outside path cmd))) with
    | error text =>
        rw [done] at returned
        cases returned
    | ok parsed => exact ⟨parseArgs_parts inDirectory plain ordinary values done, rfl, rfl⟩

theorem LiteralValues.noDollar (meaningless : Meaningless literal)
    (values : LiteralValues literal outside.getenv cmd) :
    forall arg, arg ∈ writtenOf cmd -> forall name, Part.environment name ∈ arg.parts ->
      dollarByte ∉ outside.getenv name := by
  intro arg member name inArg inValue
  rcases values arg member name inArg dollarByte inValue with isLiteral | space
  · exact meaningless.dollar isLiteral
  · exact absurd space (by decide)

/-- The command without an image, as a direct run has it. -/
def withoutImage (cmd : Command) : Command :=
  { cmd with dockerimage := "", dockerPull := "" }

/-- The texts that the arguments become. -/
def textsOf (outside : Outside) (inputs : List String) (cmd : Command) : List (List Part) :=
  (writtenOf cmd).flatMap fun arg => meanings inputs outside.getenv arg.parts

theorem directPath (outside : Outside) (path : String) (cmd : Command) :
    workpathOf outside path (withoutImage cmd) = path := by
  have noImage : ¬ ((withoutImage cmd).dockerimage ≠ "" ∨ (withoutImage cmd).dockerPull ≠ "") :=
    fun either => either.elim (fun named => named rfl) fun named => named rfl
  rw [workpathOf, if_neg noImage]

theorem Ordinary.mountedPath (ordinary : Ordinary outside inputs path host container cmd) :
    workpathOf outside path cmd = outside.dockerWorkDir :=
  if_pos ordinary.image

/-- In a direct run the program gets an array with its file names replaced. -/
theorem directVector_array (found : outside.path = .ok path) (meaningless : Meaningless literal)
    (ordinary : Ordinary outside inputs path host container cmd)
    (prepares : Prepared outside inputs cmd) (values : LiteralValues literal outside.getenv cmd)
    (array : cmd.args = []) :
    directVector outside inputs cmd = cmd.name :: (writtenOf cmd).map fun arg =>
        textOf inputs path arg.parts := by
  have direct := ordinary.direct
  rw [<- directPath outside path cmd] at direct
  rcases @parsed_meanings outside inputs path (withoutImage cmd) host found direct
      ordinary.inputNames
    (fun written => absurd array written) ordinary.parts (values.noDollar meaningless)
        ordinary.unparsed prepares.direct with
    ⟨parsed, replaced, named⟩
  rw [directPath] at replaced parsed
  have written : writtenOf cmd = cmd.argsArray.map fun arg => { bare := arg } :=
      if_neg (not_not.mpr array)
  have lines : (prepared inputs path (withoutImage cmd)).argsArray =
      (writtenOf cmd).map fun arg => textOf inputs path arg.parts := by
    have same : (prepared inputs path (withoutImage cmd)).argsArray = cmd.argsArray.map
        (replaceFilepath inputs path) :=
      if_neg (not_not.mpr array)
    rw [same, written, List.map_map]
    refine List.map_congr_left fun arg _ => ?_
    rw [Function.comp_apply, <- line_parts]
    exact (List.append_nil _).symm
  change (parseWorkunitArgs outside inputs (withoutImage cmd)).2.name ::
    directArgs (parseWorkunitArgs outside inputs (withoutImage cmd)).2 = _
  rw [named, directArgs, replaced, lines]
  by_cases nothing : (writtenOf cmd).map (fun arg => textOf inputs path arg.parts) = []
  · have none_written : writtenOf (withoutImage cmd) = [] := List.map_eq_nil_iff.mp nothing
    rw [if_neg (not_not.mpr nothing), parsed, none_written, nothing]
    rfl
  · rw [if_pos nothing]
    rfl

/-- In a direct run the program gets what a string was split into. -/
theorem directVector_string (found : outside.path = .ok path) (meaningless : Meaningless literal)
    (ordinary : Ordinary outside inputs path host container cmd)
    (prepares : Prepared outside inputs cmd) (values : LiteralValues literal outside.getenv cmd)
    (string : cmd.args ≠ []) (whole : WholePaths inputs path cmd) :
    directVector outside inputs cmd = cmd.name :: (textsOf outside inputs cmd).map
        (textOf inputs path) := by
  have direct := ordinary.direct
  have kept := textKept_of_paths direct ordinary.inputNames ordinary.narrow whole
  rw [<- directPath outside path cmd] at direct kept
  rcases @parsed_meanings outside inputs path (withoutImage cmd) host found direct
      ordinary.inputNames
    (fun _ => kept) ordinary.parts (values.noDollar meaningless) ordinary.unparsed prepares.direct
        with
    ⟨parsed, replaced, named⟩
  rw [directPath] at replaced parsed
  have noArray : (prepared inputs path (withoutImage cmd)).argsArray = [] :=
    (if_pos string).trans (ordinary.form.resolve_left string)
  change (parseWorkunitArgs outside inputs (withoutImage cmd)).2.name ::
    directArgs (parseWorkunitArgs outside inputs (withoutImage cmd)).2 = _
  rw [named, directArgs, replaced, if_neg (not_not.mpr noArray), parsed]
  rfl

/-- The texts of the arguments have bytes that mean nothing to bash, and spaces. -/
theorem textsOf_text (meaningless : Meaningless literal)
    (ordinary : Ordinary outside inputs path host container cmd)
    (values : LiteralValues literal outside.getenv cmd) {text : List Part}
    (member : text ∈ textsOf outside inputs cmd) :
    forall part, part ∈ text ->
    TextPart inputs (fun byte => literal byte ∨ byte = spaceByte) part := by
  rcases List.mem_flatMap.mp member with ⟨arg, listed, meaning⟩
  exact meanings_text meaningless arg.parts_wellNamed (ordinary.parts arg listed)
      (values arg listed) meaning

theorem textsOf_shape (meaningless : Meaningless literal)
    (ordinary : Ordinary outside inputs path host container cmd)
    (values : LiteralValues literal outside.getenv cmd) {text : List Part}
    (member : text ∈ textsOf outside inputs cmd) :
    Shape inputs text := by
  intro part inText
  have good := textsOf_text meaningless ordinary values member part inText
  cases part with
  | byte value => trivial
  | file name => exact good
  | environment name => exact good

theorem textsOf_literal (meaningless : Meaningless literal)
    (ordinary : Ordinary outside inputs path host container cmd)
    (values : LiteralValues literal outside.getenv cmd) {text : List Part}
    (member : text ∈ textsOf outside inputs cmd) :
    forall byte, byte ∈ textOf inputs outside.dockerWorkDir text -> literal byte ∨
    byte = spaceByte := by
  intro byte inText
  rcases List.mem_flatMap.mp inText with ⟨part, listed, inPart⟩
  have good := textsOf_text meaningless ordinary values member part listed
  cases part with
  | byte value =>
      rw [List.mem_singleton.mp inPart]
      exact good
  | file name =>
      exact (known_plain ordinary.mounted ordinary.inputNames good byte inPart).imp_left
          (meaningless.plain byte)
  | environment name => exact False.elim good

/-- In the container bash takes the texts apart at their spaces. -/
theorem containerVector_fields (found : outside.path = .ok path) (meaningless : Meaningless literal)
    (splits : SplitsAtSpaces literal bash)
    (ordinary : Ordinary outside inputs path host container cmd)
    (prepares : Prepared outside inputs cmd) (values : LiteralValues literal outside.getenv cmd)
    (whole : cmd.args ≠ [] -> WholePaths inputs path cmd) :
    containerVector bash outside inputs cmd =
      cmd.name :: ((textsOf outside inputs cmd).map (textOf inputs outside.dockerWorkDir)).flatMap
          (fields spaceByte) := by
  have mounted := ordinary.mounted
  have kept : cmd.args ≠ [] -> TextKept inputs outside.dockerWorkDir cmd.args := by
    intro string
    refine textKept_of_paths mounted ordinary.inputNames ordinary.narrow fun reference member
        known space => ?_
    apply whole string reference member known
    -- the directory of the container has no space, so that the name has one
    rw [mounted.known known, List.mem_append, or_iff_right ordinary.whole] at space
    rw [ordinary.direct.known known]
    exact List.mem_append_right _ space
  rw [<- ordinary.mountedPath] at mounted kept
  rcases @parsed_meanings outside inputs path cmd container found mounted ordinary.inputNames kept
      ordinary.parts
    (values.noDollar meaningless) ordinary.unparsed prepares.mounted with ⟨parsed, -, named⟩
  rw [ordinary.mountedPath] at parsed
  have nameWhole : spaceByte ∉ cmd.name :=
      fun member => (plain_byte (ordinary.name.2 _ member)).2.2.2.1 rfl
  have line : commandLine (parseWorkunitArgs outside inputs cmd).2 = cmd.name ++ [spaceByte] ++
      [spaceByte].intercalate
          ((textsOf outside inputs cmd).map (textOf inputs outside.dockerWorkDir)) ++
          [spaceByte] := by
    rw [commandLine, parsed, named]
    rfl
  have words : fields spaceByte (commandLine (parseWorkunitArgs outside inputs cmd).2) =
      cmd.name :: ((textsOf outside inputs cmd).map (textOf inputs outside.dockerWorkDir)).flatMap
          (fields spaceByte) := by
    rw [line, Fields.fields_concat, List.append_assoc, List.singleton_append, Fields.fields_append,
      Fields.fields_word ordinary.name.1 nameWhole, Fields.fields_intercalate]
    rfl
  unfold containerVector wrapperContent bashCommand pipeOutput
  rw [splits _ _ _ ?_ ?_ ordinary.stderrFile ordinary.stdoutFile, words]
  · rw [line]
    intro byte member
    simp only [List.mem_append, List.mem_singleton] at member
    rcases member with ((inName | space) | inArgs) | space
    · exact Or.inl (meaningless.plain byte (ordinary.name.2 byte inName))
    · exact Or.inr space
    · rcases Fields.mem_intercalate inArgs with separator | ⟨piece, listed, inPiece⟩
      · exact Or.inr separator
      · rcases List.mem_map.mp listed with ⟨text, inTexts, rfl⟩
        exact textsOf_literal meaningless ordinary values inTexts byte inPiece
    · exact Or.inr space
  · rw [words]
    intro word first
    cases first
    exact ordinary.unreserved

/-- The texts of the arguments are the same in both runs, if and only if each argument is left
out or is one word. -/
theorem sameTexts_iff (meaningless : Meaningless literal)
    (ordinary : Ordinary outside inputs path host container cmd)
    (values : LiteralValues literal outside.getenv cmd) :
    List.Forall₂ (SameArg inputs path outside.dockerWorkDir)
        ((textsOf outside inputs cmd).map (textOf inputs path))
        (((textsOf outside inputs cmd).map (textOf inputs outside.dockerWorkDir)).flatMap
        (fields spaceByte)) ↔
      forall arg, arg ∈ writtenOf cmd -> LeftOut inputs arg.parts ∨
          OneWord outside.getenv arg.parts := by
  rw [same_words_iff ordinary.direct ordinary.mounted ordinary.inputNames fun text member =>
    textsOf_shape meaningless ordinary values member]
  constructor
  · intro words arg member
    apply (wholeWords_iff ordinary.mounted ordinary.whole arg.parts_wellNamed).mp
    exact fun text meaning => words text (List.mem_flatMap.mpr ⟨arg, member, meaning⟩)
  · intro each text member
    rcases List.mem_flatMap.mp member with ⟨arg, listed, meaning⟩
    exact (wholeWords_iff ordinary.mounted ordinary.whole arg.parts_wellNamed).mpr
        (each arg listed) text meaning

/-- A string gives the same in both runs if and only if each of its arguments is left out or
is one word. -/
theorem sameString_iff (found : outside.path = .ok path) (meaningless : Meaningless literal)
    (splits : SplitsAtSpaces literal bash)
    (ordinary : Ordinary outside inputs path host container cmd)
    (prepares : Prepared outside inputs cmd) (values : LiteralValues literal outside.getenv cmd)
    (string : cmd.args ≠ []) (whole : WholePaths inputs path cmd) :
    SameVector bash outside inputs path cmd ↔
      forall arg, arg ∈ writtenOf cmd -> LeftOut inputs arg.parts ∨
          OneWord outside.getenv arg.parts := by
  unfold SameVector
  rw [directVector_string found meaningless ordinary prepares values string whole,
    containerVector_fields found meaningless splits ordinary prepares values fun _ =>
        whole, List.forall₂_cons,
    and_iff_right (sameArg_bytes cmd.name), sameTexts_iff meaningless ordinary values]

/-- Arguments without variables, and with only names of input files, become what they are. -/
theorem textsOf_array
    (plain : forall arg, arg ∈ writtenOf cmd -> NoVariable arg.parts ∧
    leftName inputs arg.parts = none) :
    textsOf outside inputs cmd = (writtenOf cmd).map Written.parts := by
  rw [List.map_eq_flatMap]
  refine List.flatMap_congr fun arg member => ?_
  rcases plain arg member with ⟨noVariable, named⟩
  rw [meanings, if_neg (not_not.mpr (noVariable_parts.mpr noVariable)), named]

/-- An argument of a direct run has in the container what is in no path. -/
theorem mem_container {arg : Bytes} (found : outside.path = .ok path)
    (meaningless : Meaningless literal) (splits : SplitsAtSpaces literal bash)
    (ordinary : Ordinary outside inputs path host container cmd)
    (prepares : Prepared outside inputs cmd) (values : LiteralValues literal outside.getenv cmd)
    (array : cmd.args = []) (same : SameVector bash outside inputs path cmd) {byte : UInt8}
    (strange : ¬ PlainOrSpace byte)
    (member : arg ∈ (writtenOf cmd).map fun arg => textOf inputs path arg.parts)
    (inArg : byte ∈ arg) :
    Exists fun text => text ∈ textsOf outside inputs cmd ∧
    byte ∈ textOf inputs outside.dockerWorkDir text := by
  unfold SameVector at same
  rw [directVector_array found meaningless ordinary prepares values array,
    containerVector_fields found meaningless splits ordinary prepares values fun string =>
        absurd array string,
    List.forall₂_cons] at same
  rcases exists_of_forall₂ same.2 arg member with ⟨word, inWords, sameWord⟩
  rw [List.flatMap_map] at inWords
  rcases List.mem_flatMap.mp inWords with ⟨text, inTexts, inText⟩
  exact ⟨text, inTexts, (Fields.mem_fields inText).2.2 byte
      (sameWord.mem ordinary.direct ordinary.inputNames strange inArg)⟩

/-- If an array gives the same in both runs, it has no variable, since the `$` of one is not in
the container.  Then it has no `@` there either, and so each begins a name. -/
theorem array_plain (found : outside.path = .ok path) (meaningless : Meaningless literal)
    (splits : SplitsAtSpaces literal bash)
    (ordinary : Ordinary outside inputs path host container cmd)
    (prepares : Prepared outside inputs cmd) (values : LiteralValues literal outside.getenv cmd)
    (array : cmd.args = []) (same : SameVector bash outside inputs path cmd) :
    forall arg, arg ∈ writtenOf cmd -> NoVariable arg.parts ∧ leftName inputs arg.parts = none := by
  have noVariable : forall arg, arg ∈ writtenOf cmd -> NoVariable arg.parts := by
    intro arg member name inArg
    have strange : ¬ PlainOrSpace dollarByte := fun plain => (plainOrSpace_byte plain).2.1 rfl
    rcases mem_container found meaningless splits ordinary prepares values array same strange
        (List.mem_map_of_mem member)
      (List.mem_flatMap.mpr ⟨_, inArg, List.mem_cons_self⟩) with ⟨text, inTexts, inText⟩
    rcases textsOf_literal meaningless ordinary values inTexts _ inText with isLiteral | space
    · exact meaningless.dollar isLiteral
    · exact absurd space (by decide)
  intro arg member
  refine ⟨noVariable arg member, ?_⟩
  cases left : leftName inputs arg.parts with
  | none => rfl
  | some pair =>
      rcases pair with ⟨front, name⟩
      rcases leftName_some left with ⟨-, part, rest, behind, split, -, raw, -, text⟩
      have marked : atByte ∈ textOf inputs path arg.parts := by
        rw [split, textOf_append, textOf_cons, text, raw]
        exact List.mem_append_right _ List.mem_cons_self
      have strange : ¬ PlainOrSpace atByte := fun plain => (plainOrSpace_byte plain).1 rfl
      rcases mem_container found meaningless splits ordinary prepares values array same strange
        (List.mem_map_of_mem member) marked with ⟨other, inTexts, inText⟩
      rcases List.mem_flatMap.mp inTexts with ⟨source, listed, meaning⟩
      exact absurd inText
        (meanings_unmarked ordinary.mounted ordinary.inputNames (noVariable source listed) meaning)

/-- An array gives the same in both runs if and only if its arguments are the same in both. -/
theorem sameArray_iff (found : outside.path = .ok path) (meaningless : Meaningless literal)
    (splits : SplitsAtSpaces literal bash)
    (ordinary : Ordinary outside inputs path host container cmd)
    (prepares : Prepared outside inputs cmd) (values : LiteralValues literal outside.getenv cmd)
    (array : cmd.args = []) :
    SameVector bash outside inputs path cmd ↔
      forall arg, arg ∈ writtenOf cmd -> Unchanged inputs outside.getenv arg.parts := by
  -- where nothing is replaced but names, the one question is whether the arguments are words
  have words (plain : forall arg, arg ∈ writtenOf cmd -> NoVariable arg.parts ∧
      leftName inputs arg.parts = none) :
      SameVector bash outside inputs path cmd ↔
        forall arg, arg ∈ writtenOf cmd -> LeftOut inputs arg.parts ∨
            OneWord outside.getenv arg.parts := by
    have texts := @textsOf_array outside inputs cmd plain
    have direct : (writtenOf cmd).map (fun arg => textOf inputs path arg.parts) =
        (textsOf outside inputs cmd).map (textOf inputs path) := by
      rw [texts, List.map_map]
      rfl
    unfold SameVector
    rw [directVector_array found meaningless ordinary prepares values array, direct,
      containerVector_fields found meaningless splits ordinary prepares values fun string =>
          absurd array string,
      List.forall₂_cons, and_iff_right (sameArg_bytes cmd.name),
          sameTexts_iff meaningless ordinary values]
  constructor
  · intro same arg member
    have plain := array_plain found meaningless splits ordinary prepares values array same
    refine ⟨(plain arg member).1, (plain arg member).2,
        ((words plain).mp same arg member).resolve_left ?_⟩
    rintro ⟨-, front, name, impossible, -⟩
    rw [(plain arg member).2] at impossible
    cases impossible
  · intro unchanged
    have plain : forall arg, arg ∈ writtenOf cmd -> NoVariable arg.parts ∧
        leftName inputs arg.parts = none :=
      fun arg member => ⟨(unchanged arg member).noVariable, (unchanged arg member).named⟩
    exact (words plain).mpr fun arg member => Or.inr (unchanged arg member).oneWord

end

/-- The plain characters, `@` and the colon. -/
private def unquoted (byte : UInt8) : Prop :=
  isPlainByte byte = true ∨ byte = atByte ∨ byte = 58

private theorem unquoted_meaningless : Meaningless unquoted where
  plain := fun _ plain => Or.inl plain
  mark := Or.inr (Or.inl rfl)
  dollar := by
    unfold unquoted
    decide

/-- Cuts the command of a script off at its redirection, and that at the spaces. -/
private def cutBash (script : Bytes) : List Bytes :=
  fields spaceByte (((script.drop 12).takeWhile (· != 62)).dropLast)

private theorem cutBash_splits : SplitsAtSpaces unquoted cutBash := by
  intro line stderrFile stdoutFile plain _ _ _
  have shape : scriptOf (line ++ redirection stderrFile stdoutFile) =
      Utf8.ofString "#!/bin/bash\n" ++
        ((line ++ [spaceByte, 50]) ++ 62 ::
            (spaceByte :: stderrFile ++ Utf8.ofString " 1> " ++ stdoutFile ++
          Utf8.ofString "\n")) := by
    have opening : Utf8.ofString " 2> " = [spaceByte, 50, 62, spaceByte] := by decide
    rw [scriptOf, redirection, opening]
    simp only [List.append_assoc, List.cons_append, List.nil_append]
  have length : (Utf8.ofString "#!/bin/bash\n").length = 12 := by decide
  have front : forall byte, byte ∈ line ++ [spaceByte, 50] -> (byte != 62) = true := by
    intro byte member
    rcases List.mem_append.mp member with inLine | behind
    · rw [bne_iff_ne]
      rintro rfl
      rcases plain _ inLine with isLiteral | space
      · exact absurd isLiteral (by unfold unquoted; decide)
      · exact absurd space (by decide)
    · have short : forall other, other ∈ [spaceByte, 50] -> (other != 62) = true := by
        decide +kernel
      exact short byte behind
  have cut : (line ++ [spaceByte, 50]).dropLast = line ++ [spaceByte] := by
    rw [List.dropLast_append_of_ne_nil (List.cons_ne_nil _ _)]
    rfl
  rw [cutBash, shape, <- length, List.drop_left, List.takeWhile_append_of_pos front,
    List.takeWhile_cons_of_neg (by decide), List.append_nil, cut, Fields.fields_concat]

private def homeDirectory : Outside :=
  { path := .ok "/work", dockerWorkDir := "/workdir/", getenv := fun _ => Utf8.ofString "/home" }

private def programName : Bytes := Utf8.ofString "run"

private theorem programName_plain : PlainWord programName := ⟨by decide, by decide +kernel⟩

private theorem programName_unreserved : programName ∉ reservedWords := by decide

private def imagedCommand (argsArray : List Bytes) : Command :=
  { name := programName, args := [], argsArray, dockerimage := "image", dockerPull := "", parsedArgs := [] }

private theorem oneDirectory_holds {workpath : String} {directory rest : Bytes}
    (path : inputFilePath workpath "in.txt" = directory ++ Utf8.ofString "in.txt")
    (rooted : directory = 47 :: rest) (letters : directory.all isPlainByte = true)
    (foreign : ¬ directory <:+: Utf8.ofString "in.txt") :
    InDirectory ["in.txt"] workpath directory where
  path := List.forall_mem_singleton.mpr path
  rooted := ⟨rest, rooted⟩
  letters := fun byte member => Or.inl (List.all_eq_true.mp letters byte member)
  foreign := List.forall_mem_singleton.mpr foreign

private theorem imagedCommand_ordinary {argsArray : List Bytes}
    (parts : forall arg, arg ∈ writtenOf (imagedCommand argsArray) ->
    forall part, part ∈ arg.parts -> OrdinaryPart part) :
    Ordinary homeDirectory ["in.txt"] "/work" (Utf8.ofString "/work/") (Utf8.ofString "/workdir/")
      (imagedCommand argsArray) where
  name := programName_plain
  unreserved := programName_unreserved
  form := Or.inl rfl
  narrow := List.forall_mem_nil _
  parts := parts
  unparsed := rfl
  image := Or.inl (show "image" ≠ "" by decide)
  inputNames := by
    have letters : (Utf8.ofString "in.txt").all isPlainByte = true := by decide
    exact List.forall_mem_singleton.mpr
        ⟨by decide, fun byte member => Or.inl (List.all_eq_true.mp letters byte member)⟩
  direct := @oneDirectory_holds "/work" _ (Utf8.ofString "work/") (by decide) (by decide)
      (by decide) (by decide)
  mounted := @oneDirectory_holds "/workdir/" _ (Utf8.ofString "workdir/") (by decide) (by decide)
      (by decide) (by decide)
  whole := by decide
  stderrFile := ⟨by decide, by decide +kernel⟩
  stdoutFile := ⟨by decide, by decide +kernel⟩

private def fileArgument : Command :=
  imagedCommand [Utf8.ofString "@in.txt"]

private theorem fileArgument_parts (Good : List Part -> Prop)
    (good : Good [.file (Utf8.ofString "in.txt")]) :
    forall arg, arg ∈ writtenOf fileArgument -> Good arg.parts := by
  have one : writtenOf fileArgument = [{ bare := Utf8.ofString "@in.txt" }] := rfl
  have parts : ({ bare := Utf8.ofString "@in.txt" } : Written).parts =
      [.file (Utf8.ofString "in.txt")] := by decide
  rw [one, List.forall_mem_singleton, parts]
  exact good

private def variableArgument : Command :=
  imagedCommand [Utf8.ofString "${HOME}"]

private theorem variableArgument_parts (Good : List Part -> Prop)
    (good : Good [.environment (Utf8.ofString "HOME")]) :
    forall arg, arg ∈ writtenOf variableArgument -> Good arg.parts := by
  have one : writtenOf variableArgument = [{ bare := Utf8.ofString "${HOME}" }] := rfl
  have parts : ({ bare := Utf8.ofString "${HOME}" } : Written).parts =
      [.environment (Utf8.ofString "HOME")] := by
    decide
  rw [one, List.forall_mem_singleton, parts]
  exact good

end Arguments
end Worker
end Awe
