import Awe.Lib.Path
import Awe.Lib.Scanner
import Awe.Lib.Utf8

namespace Awe
namespace Worker
namespace Arguments

open Lib Lib.Path

/-!
# The arguments of a command

A command has its arguments as one string or as an array.  Before it is run,
`ParseWorkunitArgs` puts the paths of the input files in the place of their
names and the values of the environment in the place of its variables; the
string is also split, at spaces that are not between single quotes.

Three things go wrong here.  The splitter walks over runes but keeps one byte of
each, and it compares the position of the last rune with that of the last byte,
so that only arguments of single-byte characters arrive, and a last argument
that ends in another character is lost.  An argument with an `@` that names no
input file is left out.  And the variables of an argument are replaced one after
the other, each at its first occurrence, which may by then be one that a value
brought in.
-/

def quoteByte : UInt8 := 39
def spaceByte : UInt8 := 32

/-- The loop of `parse_arg_string` over the runes and their positions: with the flag
`startquote` and the buffer `buf`. -/
def parseRunes (length : Nat) : List (Nat × Nat) -> Bool -> Bytes -> List Bytes
  | [], _, _ => []
  | (j, c) :: rest, startquote, buf =>
      if c = quoteByte.toNat then
        if startquote then buf :: parseRunes length rest false []
        else parseRunes length rest true buf
      else if startquote = false ∧ c = spaceByte.toNat then
        if buf.length > 0 then buf :: parseRunes length rest false []
        else parseRunes length rest startquote buf
      else
        let buf := buf ++ [UInt8.ofNat c]
        if j + 1 = length then buf :: parseRunes length rest startquote buf
        else parseRunes length rest startquote buf

def parseArgString (argstr : Bytes) : List Bytes :=
  parseRunes argstr.length (Utf8.range argstr) false []

def atByte : UInt8 := 64
def dollarByte : UInt8 := 36
def openBrace : UInt8 := 123
def closeBrace : UInt8 := 125

/-- The class `\w`. -/
def isWordByte (byte : UInt8) : Bool :=
  (65 ≤ byte.toNat && byte.toNat ≤ 90) || (97 ≤ byte.toNat && byte.toNat ≤ 122) ||
    (48 ≤ byte.toNat && byte.toNat ≤ 57) || byte == 95

/-- The class `[\w-\.]`. -/
def isNameByte (byte : UInt8) : Bool :=
  isWordByte byte || byte == 45 || byte == 46

/-- A byte outside of the matches, or a match without its marks: the name behind the `@`
or between the braces. -/
inductive Token where
  | byte (value : UInt8)
  | found (name : Bytes)
  deriving DecidableEq, Repr

/-- The name of a match. -/
def Token.name? : Token -> Option Bytes
  | .byte _ => none
  | .found name => some name

/-- The text of a name behind an `@`, which matches only if there is a name. -/
def fileToken (name : Bytes) : List Token :=
  if name = [] then [.byte atByte] else [.found name]

/-- The matches of the expression for files: an `@` and as many name characters as follow.
The state is the name that is being read. -/
def fileTokens : Scanner UInt8 Token (Option Bytes) where
  step
    | none, byte => if byte = atByte then ([], some []) else ([.byte byte], none)
    | some name, byte =>
        if isNameByte byte then ([], some (name ++ [byte]))
        else if byte = atByte then (fileToken name, some [])
        else (fileToken name ++ [.byte byte], none)
  finish
    | none => []
    | some name => fileToken name

/-- What has been read of a variable. -/
inductive Reading where
  | text
  | dollar
  | braced (name : Bytes)
  deriving DecidableEq, Repr

/-- The bytes of a variable that was not completed. -/
def Reading.held : Reading -> Bytes
  | text => []
  | dollar => [dollarByte]
  | braced name => dollarByte :: openBrace :: name

/-- A byte that does not go on with what is being read. -/
def restart (held : Bytes) (byte : UInt8) : List Token × Reading :=
  if byte = dollarByte then (held.map .byte, .dollar) else (held.map .byte ++ [.byte byte], .text)

/-- The matches of the expression for variables: a name between `${` and `}`. -/
def variableTokens : Scanner UInt8 Token Reading where
  step
    | .text, byte => restart [] byte
    | .dollar, byte => if byte = openBrace then ([], .braced []) else restart [dollarByte] byte
    | .braced name, byte =>
        if isWordByte byte then ([], .braced (name ++ [byte]))
        else if byte = closeBrace ∧ name ≠ [] then ([.found name], .text)
        else restart (dollarByte :: openBrace :: name) byte
  finish state := state.held.map .byte

/-! ## The replacements -/

/-- `ReplaceAllStringFunc`, with a function of the name. -/
def replaceAll (replace : Bytes -> Bytes) (tokens : List Token) : Bytes :=
  tokens.flatMap fun
    | .byte value => [value]
    | .found name => replace name

/-- `strings.Replace` of the first occurrence. -/
def replaceFirst (old new : Bytes) : Bytes -> Bytes
  | [] => if old = [] then new else []
  | byte :: rest =>
      if old.isPrefixOf (byte :: rest) then new ++ (byte :: rest).drop old.length
      else byte :: replaceFirst old new rest

/-- The text of a variable. -/
def variableText (name : Bytes) : Bytes :=
  dollarByte :: openBrace :: name ++ [closeBrace]

section

variable (inputs : List String) (workpath : String)

/-- The input files with a name, in the order in which they are looked through. -/
def inputsNamed (name : Bytes) : List String :=
  inputs.filter fun fileName => Utf8.ofString fileName = name

/-- `path.Join(workpath, inputname)`. -/
def inputFilePath (fileName : String) : Bytes :=
  Utf8.ofString (joinPath workpath fileName)

/-- `replace_with_full_path`: the first input file with the name, or the text as it is. -/
def replaceWithFullPath (inputname : Bytes) : Bytes :=
  match inputsNamed inputs inputname with
  | fileName :: _ => inputFilePath workpath fileName
  | [] => atByte :: inputname

/-- `replace_filepath_with_full_filepath` of one line. -/
def replaceFilepath (line : Bytes) : Bytes :=
  replaceAll (replaceWithFullPath inputs workpath) (fileTokens.run none line)

/-- The names of the variables in an argument, as `FindAll` gives them. -/
def variablesOf (arg : Bytes) : List Bytes :=
  (variableTokens.run .text arg).filterMap Token.name?

variable (getenv : Bytes -> Bytes)

/-- The loop over the variables of an argument. -/
def replaceVariables (arg : Bytes) : Bytes :=
  (variablesOf arg).foldl
      (fun parsedArg vab => replaceFirst (variableText vab) (getenv vab) parsedArg) arg

def multipleAt : String :=
  "invalid format in command args, multiple @ within one arg"

/-- What the loop of `ParseWorkunitArgs` appends for one argument. -/
def parseArg (arg : Bytes) : Except String (List Bytes) :=
  if variablesOf arg ≠ [] then .ok [replaceVariables getenv arg]
  else
    match arg.splitOn atByte with
    | [segment, inputname] => .ok ((inputsNamed inputs inputname).map fun fileName =>
        segment ++ inputFilePath workpath fileName)
    | _ :: _ :: _ :: _ => .error multipleAt
    | _ => .ok [arg]

/-- The loop over the arguments. -/
def parseArgs : List Bytes -> Except String (List Bytes)
  | [] => .ok []
  | arg :: rest => do
      let appended <- parseArg inputs workpath getenv arg
      let others <- parseArgs rest
      .ok (appended ++ others)

end

/-- The fields of a command that are read here. -/
structure Command where
  name : Bytes
  args : Bytes
  argsArray : List Bytes
  dockerimage : String
  dockerPull : String
  parsedArgs : List Bytes
  deriving DecidableEq, Repr

/-- The worker: the path of a workunit, the working directory in a container, and the
environment. -/
structure Outside where
  path : Except String String
  dockerWorkDir : String
  getenv : Bytes -> Bytes

/-- The end of `ParseWorkunitArgs`. -/
def finishArgs (outside : Outside) (inputs : List String) (workpath : String) (cmd : Command)
    (argList : List Bytes) : Option String × Command :=
  match parseArgs inputs workpath outside.getenv argList with
  | .error text => (some text, cmd)
  | .ok args => (none, { cmd with parsedArgs := args })

/-- The directory of the input files: the working directory of the container, if there is
one. -/
def workpathOf (outside : Outside) (path : String) (cmd : Command) : String :=
  if cmd.dockerimage ≠ "" ∨ cmd.dockerPull ≠ "" then outside.dockerWorkDir else path

/-- `ParseWorkunitArgs`: the error and the command it leaves.  The array is changed in
place. -/
def parseWorkunitArgs (outside : Outside) (inputs : List String) (cmd : Command) :
    Option String × Command :=
  match outside.path with
  | .error text => (some text, cmd)
  | .ok path =>
      let workpath := workpathOf outside path cmd
      if cmd.args ≠ [] then
        finishArgs outside inputs workpath cmd
            (parseArgString (replaceFilepath inputs workpath cmd.args))
      else if cmd.argsArray = [] then (none, cmd)
      else
        let argsArray := cmd.argsArray.map (replaceFilepath inputs workpath)
        finishArgs outside inputs workpath { cmd with argsArray } argsArray

/-! ## Splitting what was written -/

/-- The loop of `parse_arg_string` over characters.  Only a single-byte character can be at
the position of the last byte. -/
def parseChars : List Char -> Bool -> Bytes -> List Bytes
  | [], _, _ => []
  | c :: rest, startquote, buf =>
      if c = '\'' then
        if startquote then buf :: parseChars rest false []
        else parseChars rest true buf
      else if startquote = false ∧ c = ' ' then
        if buf.length > 0 then buf :: parseChars rest false []
        else parseChars rest startquote buf
      else if rest = [] ∧ Utf8.Narrow c then [buf ++ [Utf8.lowByte c]]
      else parseChars rest startquote (buf ++ [Utf8.lowByte c])

theorem toNat_eq_iff (c other : Char) : c.toNat = other.toNat ↔ c = other := by
  constructor
  · intro same
    exact Char.ext (UInt32.toNat_inj.mp same)
  · rintro rfl
    rfl

theorem parseRunes_positions (letters : List Char) (position : Nat) (startquote : Bool)
    (buf : Bytes) :
    parseRunes (position + (Utf8.encode letters).length) (Utf8.positions position letters)
        startquote buf =
      parseChars letters startquote buf := by
  induction letters generalizing position startquote buf with
  | nil => rfl
  | cons c rest inductionHypothesis =>
      have length_eq : position + (Utf8.encode (c :: rest)).length =
          position + c.utf8Size + (Utf8.encode rest).length := by
        rw [Utf8.encode_cons, List.length_append, String.length_utf8EncodeChar, Nat.add_assoc]
      have last_iff : position + 1 = position + c.utf8Size + (Utf8.encode rest).length ↔
          rest = [] ∧ Utf8.Narrow c := by
        have some_byte := c.utf8Size_pos
        have long := Utf8.length_le_encode rest
        unfold Utf8.Narrow
        constructor
        · intro same
          exact ⟨List.length_eq_zero_iff.mp (by omega), by omega⟩
        · rintro ⟨rfl, narrow⟩
          rw [narrow]
          rfl
      rw [length_eq, Utf8.positions, parseRunes, parseChars]
      have quote_iff : c.toNat = quoteByte.toNat ↔ c = '\'' := toNat_eq_iff c '\''
      have space_iff : c.toNat = spaceByte.toNat ↔ c = ' ' := toNat_eq_iff c ' '
      simp only [quote_iff, space_iff, last_iff, inductionHypothesis]
      by_cases last : rest = [] ∧ Utf8.Narrow c
      · rw [if_pos last, if_pos last]
        rw [last.1]
        rfl
      · rw [if_neg last, if_neg last]
        rfl

/-- On the encoding of some characters, the splitter walks over the characters. -/
theorem parseArgString_encode (letters : List Char) :
    parseArgString (Utf8.encode letters) = parseChars letters false [] := by
  have loop := parseRunes_positions letters 0 false []
  rw [Nat.zero_add] at loop
  rw [parseArgString, Utf8.range_encode, loop]

/-- An argument as it is written: bare if it is not empty and has no space, and between
single quotes otherwise. -/
def writeArg (arg : List Char) : List Char :=
  if arg ≠ [] ∧ ' ' ∉ arg then arg else '\'' :: arg ++ ['\'']

/-- Some arguments, joined with single spaces. -/
def writeArgs (args : List (List Char)) : List Char :=
  [' '].intercalate (args.map writeArg)

/-- What the splitter keeps of an argument. -/
def lowBytes (arg : List Char) : Bytes :=
  arg.map Utf8.lowByte

theorem writeArgs_cons (arg second : List Char) (rest : List (List Char)) :
    writeArgs (arg :: second :: rest) = writeArg arg ++ ' ' :: writeArgs (second :: rest) := by
  unfold writeArgs
  rw [List.map_cons, List.map_cons, List.intercalate_cons_cons, List.append_assoc,
      List.singleton_append]

theorem writeArgs_singleton (arg : List Char) : writeArgs [arg] = writeArg arg :=
  List.intercalate_singleton

/-- Between quotes every character is taken into the buffer. -/
theorem parseChars_quoted {arg : List Char} (plain : '\'' ∉ arg) (rest : List Char) (buf : Bytes) :
    parseChars (arg ++ '\'' :: rest) true buf = (buf ++ lowBytes arg) :: parseChars rest
        false [] := by
  induction arg generalizing buf with
  | nil =>
      rw [List.nil_append, parseChars, if_pos rfl, if_pos rfl]
      exact congrArg (· :: parseChars rest false []) (List.append_nil buf).symm
  | cons c others inductionHypothesis =>
      rw [List.mem_cons, not_or] at plain
      rw [List.cons_append, parseChars, if_neg (Ne.symm plain.1), if_neg (by simp),
          if_neg (by simp),
        inductionHypothesis plain.2, lowBytes, lowBytes, List.map_cons, List.append_assoc,
            List.singleton_append]

/-- Without quotes an argument ends at the next space. -/
theorem parseChars_bare {arg : List Char} (plain : '\'' ∉ arg) (whole : ' ' ∉ arg)
    (rest : List Char) {buf : Bytes} (nonempty : buf ++ lowBytes arg ≠ []) :
    parseChars (arg ++ ' ' :: rest) false buf = (buf ++ lowBytes arg) :: parseChars rest
        false [] := by
  induction arg generalizing buf with
  | nil =>
      have started : buf.length > 0 := by
        rw [lowBytes, List.map_nil, List.append_nil] at nonempty
        exact List.length_pos_iff.mpr nonempty
      rw [List.nil_append, parseChars, if_neg (by decide), if_pos ⟨rfl, rfl⟩, if_pos started]
      exact congrArg (· :: parseChars rest false []) (List.append_nil buf).symm
  | cons c others inductionHypothesis =>
      rw [List.mem_cons, not_or] at plain whole
      have joined : buf ++ lowBytes (c :: others) = (buf ++ [Utf8.lowByte c]) ++
          lowBytes others := by
        rw [lowBytes, lowBytes, List.map_cons, List.append_assoc, List.singleton_append]
      rw [joined] at nonempty ⊢
      rw [List.cons_append, parseChars, if_neg (Ne.symm plain.1),
          if_neg (fun both => whole.1 both.2.symm),
        if_neg (by simp), inductionHypothesis plain.2 whole.2 nonempty]

/-- At the end of the text an argument without quotes is kept only if its last character
takes a single byte. -/
theorem parseChars_last {arg : List Char} (plain : '\'' ∉ arg) (whole : ' ' ∉ arg)
    (nonempty : arg ≠ []) (buf : Bytes) :
    parseChars arg false buf = if Utf8.Narrow (arg.getLast nonempty) then [buf ++ lowBytes arg] else
        [] := by
  induction arg generalizing buf with
  | nil => exact absurd rfl nonempty
  | cons c others inductionHypothesis =>
      rw [List.mem_cons, not_or] at plain whole
      rw [parseChars, if_neg (Ne.symm plain.1), if_neg (fun both => whole.1 both.2.symm)]
      cases others with
      | nil =>
          rw [List.getLast_singleton]
          by_cases narrow : Utf8.Narrow c
          · rw [if_pos ⟨rfl, narrow⟩, if_pos narrow]
            rfl
          · rw [if_neg (fun both => narrow both.2), if_neg narrow]
            rfl
      | cons second rest =>
          have joined : buf ++ lowBytes (c :: second :: rest) = (buf ++ [Utf8.lowByte c]) ++
              lowBytes (second :: rest) := by
            rw [lowBytes, lowBytes, List.map_cons, List.append_assoc, List.singleton_append]
          rw [if_neg (fun both => (List.cons_ne_nil second rest) both.1),
            inductionHypothesis plain.2 whole.2 (List.cons_ne_nil second rest), joined]
          rw [List.getLast_cons (List.cons_ne_nil second rest)]

/-- An argument that is not found at the end of the text: one that is written bare and ends
in a character of several bytes. -/
def Lost (arg : List Char) : Prop :=
  ' ' ∉ arg ∧ Exists fun c => arg.getLast? = some c ∧ ¬ Utf8.Narrow c

/-- The arguments that the splitter finds in the text of some arguments. -/
def Arrived : List (List Char) -> List Bytes -> Prop
  | [], found => found = []
  | [arg], found => (Lost arg ∧ found = []) ∨ (¬ Lost arg ∧ found = [lowBytes arg])
  | arg :: rest, found => Exists fun others => found = lowBytes arg :: others ∧ Arrived rest others

theorem parseChars_writeArg {arg : List Char} (plain : '\'' ∉ arg) (rest : List Char) :
    parseChars (writeArg arg ++ ' ' :: rest) false [] = lowBytes arg :: parseChars rest
        false [] := by
  unfold writeArg
  by_cases bare : arg ≠ [] ∧ ' ' ∉ arg
  · rw [if_pos bare]
    refine parseChars_bare plain bare.2 rest fun empty => bare.1 ?_
    exact List.map_eq_nil_iff.mp empty
  · rw [if_neg bare, List.cons_append, List.cons_append, List.append_assoc,
      List.singleton_append, parseChars,
      if_pos rfl, if_neg Bool.false_ne_true, parseChars_quoted plain]
    rw [parseChars, if_neg (by decide), if_pos ⟨rfl, rfl⟩]
    rfl

/-- What arrives of arguments that are written and split again. -/
theorem arrived_writeArgs {args : List (List Char)} (plain : forall arg, arg ∈ args -> '\'' ∉ arg) :
    Arrived args (parseChars (writeArgs args) false []) := by
  induction args with
  | nil => rfl
  | cons arg rest inductionHypothesis =>
      have first := plain arg List.mem_cons_self
      cases rest with
      | nil =>
          rw [writeArgs_singleton, writeArg]
          by_cases bare : arg ≠ [] ∧ ' ' ∉ arg
          · rw [if_pos bare, parseChars_last first bare.2 bare.1]
            have last : arg.getLast? = some (arg.getLast bare.1) :=
                List.getLast?_eq_some_getLast bare.1
            by_cases narrow : Utf8.Narrow (arg.getLast bare.1)
            · rw [if_pos narrow]
              refine Or.inr ⟨?_, rfl⟩
              rintro ⟨-, c, found, wide⟩
              rw [last] at found
              exact wide (Option.some.inj found ▸ narrow)
            · rw [if_neg narrow]
              exact Or.inl ⟨⟨bare.2, _, last, narrow⟩, rfl⟩
          · rw [if_neg bare, List.cons_append, parseChars, if_pos rfl, if_neg Bool.false_ne_true,
              parseChars_quoted first]
            refine Or.inr ⟨?_, rfl⟩
            rintro ⟨whole, c, found, -⟩
            refine bare ⟨?_, whole⟩
            rintro rfl
            cases found
      | cons second others =>
          rw [writeArgs_cons, parseChars_writeArg first]
          exact ⟨_, rfl, inductionHypothesis fun other member =>
              plain other (List.mem_cons_of_mem arg member)⟩

theorem arrived_encode_iff (args : List (List Char)) :
    Arrived args (args.map Utf8.encode) ↔ forall arg, arg ∈ args -> forall c, c ∈ arg ->
    Utf8.Narrow c := by
  have intact : forall arg, Utf8.encode arg = lowBytes arg ↔ forall c, c ∈ arg -> Utf8.Narrow c :=
    Utf8.encode_eq_lowBytes_iff
  induction args with
  | nil => exact iff_of_true rfl (List.forall_mem_nil _)
  | cons arg rest inductionHypothesis =>
      rw [List.forall_mem_cons, <- intact]
      cases rest with
      | nil =>
          rw [List.map_singleton]
          constructor
          · rintro (⟨-, none⟩ | ⟨-, same⟩)
            · cases none
            · exact ⟨(List.cons.inj same).1, List.forall_mem_nil _⟩
          · rintro ⟨same, -⟩
            refine Or.inr ⟨?_, by rw [same]⟩
            rintro ⟨-, c, last, wide⟩
            exact wide ((intact arg).mp same c (List.mem_of_getLast? last))
      | cons second others =>
          constructor
          · rintro ⟨found, same, arrived⟩
            rw [List.map_cons, List.cons.injEq] at same
            exact ⟨same.1, inductionHypothesis.mp (same.2 ▸ arrived)⟩
          · rintro ⟨same, narrow⟩
            exact ⟨_, by rw [List.map_cons, same], inductionHypothesis.mpr narrow⟩

theorem Arrived.unique {args : List (List Char)} {found other : List Bytes}
    (first : Arrived args found) (second : Arrived args other) : found = other := by
  induction args generalizing found other with
  | nil => exact first.trans second.symm
  | cons arg rest inductionHypothesis =>
      cases rest with
      | nil =>
          rcases first with ⟨lost, rfl⟩ | ⟨kept, rfl⟩
          · rcases second with ⟨-, rfl⟩ | ⟨kept, -⟩
            · rfl
            · exact absurd lost kept
          · rcases second with ⟨lost, -⟩ | ⟨-, rfl⟩
            · exact absurd lost kept
            · rfl
      | cons next others =>
          rcases first with ⟨_, rfl, firstRest⟩
          rcases second with ⟨_, rfl, secondRest⟩
          rw [inductionHypothesis firstRest secondRest]

/-- The splitter gives back the arguments that were written if and only if all their
characters take a single byte. -/
theorem parse_written_iff {args : List (List Char)} (plain : forall arg, arg ∈ args -> '\'' ∉ arg) :
    parseArgString (Utf8.encode (writeArgs args)) = args.map Utf8.encode ↔
      forall arg, arg ∈ args -> forall c, c ∈ arg -> Utf8.Narrow c := by
  rw [parseArgString_encode, <- arrived_encode_iff]
  constructor
  · intro same
    rw [<- same]
    exact arrived_writeArgs plain
  · intro arrived
    exact (arrived_writeArgs plain).unique arrived

end Arguments
end Worker
end Awe
