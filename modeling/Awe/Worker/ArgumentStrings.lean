import Awe.Lib.Fallible
import Awe.Worker.ArgumentParts

namespace Awe
namespace Worker
namespace Arguments

open Lib Lib.Path

/-!
# Arguments in one string

When the arguments come as one string, the names in it are replaced before it is
split.  A path in the place of a name does not move the ends of the arguments as
long as it has no quote, and no space where the name is not between quotes.  Then
what comes out are the lines of the arguments that are written in the string.

With that, the arguments of a command arrive with their names and variables
replaced, in both forms.
-/

/-! ## Splitting bytes -/

/-- The loop of `parse_arg_string` on bytes below 128. -/
def parseBytes : Bytes -> Bool -> Bytes -> List Bytes
  | [], _, _ => []
  | byte :: rest, startquote, buf =>
      if byte = quoteByte then
        if startquote then buf :: parseBytes rest false []
        else parseBytes rest true buf
      else if startquote = false ∧ byte = spaceByte then
        if buf.length > 0 then buf :: parseBytes rest false []
        else parseBytes rest startquote buf
      else if rest = [] then [buf ++ [byte]]
      else parseBytes rest startquote (buf ++ [byte])

/-- The character of a byte. -/
def letterOf (byte : UInt8) : Char :=
  Char.ofNat byte.toNat

/-- The bytes of a text of characters that take one byte each, on which a loop over bytes and one
over characters agree. -/
def Narrow (text : Bytes) : Prop :=
  forall byte, byte ∈ text -> byte.toNat < 128

theorem letterOf_toNat (byte : UInt8) : (letterOf byte).toNat = byte.toNat := by
  have valid : byte.toNat.isValidChar := Or.inl (Nat.lt_trans byte.toNat_lt (by decide))
  rw [letterOf, Char.ofNat, dif_pos valid]
  rfl

theorem letterOf_narrow {byte : UInt8} (narrow : byte.toNat < 128) :
    Utf8.Narrow (letterOf byte) := by
  refine Char.utf8Size_eq_one_iff.mpr ?_
  rw [UInt32.le_iff_toNat_le]
  exact (letterOf_toNat byte).trans_le (Nat.le_of_lt_succ narrow)

theorem lowByte_letterOf (byte : UInt8) : Utf8.lowByte (letterOf byte) = byte := by
  rw [Utf8.lowByte, letterOf_toNat]
  exact UInt8.ofNat_toNat

theorem letterOf_eq_iff (byte other : UInt8) : letterOf byte = letterOf other ↔ byte = other := by
  rw [<- toNat_eq_iff, letterOf_toNat, letterOf_toNat]
  exact UInt8.toNat_inj

theorem encode_letters {text : Bytes} (narrow : Narrow text) :
    Utf8.encode (text.map letterOf) = text := by
  have small : forall letter, letter ∈ text.map letterOf -> Utf8.Narrow letter := by
    intro letter member
    rcases List.mem_map.mp member with ⟨byte, inText, rfl⟩
    exact letterOf_narrow (narrow byte inText)
  rw [(Utf8.encode_eq_lowBytes_iff _).mpr small, List.map_map]
  exact (List.map_congr_left fun byte _ => lowByte_letterOf byte).trans (List.map_id text)

theorem parseChars_letters {text : Bytes} (narrow : Narrow text) (startquote : Bool) (buf : Bytes) :
    parseChars (text.map letterOf) startquote buf = parseBytes text startquote buf := by
  induction text generalizing startquote buf with
  | nil => rfl
  | cons byte rest inductionHypothesis =>
      have here : Utf8.Narrow (letterOf byte) := letterOf_narrow (narrow byte List.mem_cons_self)
      have restNarrow : Narrow rest :=
          fun other member => narrow other (List.mem_cons_of_mem byte member)
      have quote_iff : letterOf byte = '\'' ↔ byte = quoteByte := letterOf_eq_iff byte quoteByte
      have space_iff : letterOf byte = ' ' ↔ byte = spaceByte := letterOf_eq_iff byte spaceByte
      have last_iff : rest.map letterOf = [] ∧ Utf8.Narrow (letterOf byte) ↔ rest = [] := by
        rw [List.map_eq_nil_iff]
        exact and_iff_left here
      rw [List.map_cons, parseChars, parseBytes]
      simp only [quote_iff, space_iff, last_iff, lowByte_letterOf, inductionHypothesis restNarrow]

theorem parseArgString_narrow {text : Bytes} (narrow : Narrow text) :
    parseArgString text = parseBytes text false [] := by
  rw [<- parseChars_letters narrow, <- parseArgString_encode, encode_letters narrow]

theorem parseBytes_open (rest buf : Bytes) :
    parseBytes (quoteByte :: rest) false buf = parseBytes rest true buf :=
  rfl

theorem parseBytes_close (rest buf : Bytes) :
    parseBytes (quoteByte :: rest) true buf = buf :: parseBytes rest false [] :=
  rfl

theorem parseBytes_space (rest buf : Bytes) :
    parseBytes (spaceByte :: rest) false buf =
      if buf.length > 0 then buf :: parseBytes rest false [] else parseBytes rest false buf :=
  rfl

theorem parseBytes_ordinary {byte : UInt8} {startquote : Bool} (plain : byte ≠ quoteByte)
    (ordinary : ¬ (startquote = false ∧ byte = spaceByte)) (rest buf : Bytes) :
    parseBytes (byte :: rest) startquote buf =
      if rest = [] then [buf ++ [byte]] else parseBytes rest startquote (buf ++ [byte]) := by
  rw [parseBytes, if_neg plain, if_neg ordinary]

/-- Bytes without quotes go into the buffer, and spaces among them only between quotes. -/
theorem parseBytes_append {front : Bytes} {startquote : Bool} (plain : quoteByte ∉ front)
    (whole : startquote = true ∨ spaceByte ∉ front) {back : Bytes} (nonempty : back ≠ [])
    (buf : Bytes) :
    parseBytes (front ++ back) startquote buf = parseBytes back startquote (buf ++ front) := by
  induction front generalizing buf with
  | nil => rw [List.nil_append, List.append_nil]
  | cons byte rest inductionHypothesis =>
      rw [List.mem_cons, not_or] at plain
      have ordinary : ¬ (startquote = false ∧ byte = spaceByte) := by
        rintro ⟨bare, rfl⟩
        rcases whole with quoted | missing
        · rw [bare] at quoted
          cases quoted
        · exact missing List.mem_cons_self
      have restWhole : startquote = true ∨ spaceByte ∉ rest :=
        whole.imp_right fun missing member => missing (List.mem_cons_of_mem byte member)
      rw [List.cons_append, parseBytes_ordinary (Ne.symm plain.1) ordinary,
        if_neg (List.append_ne_nil_of_right_ne_nil rest nonempty),
            inductionHypothesis plain.2 restWhole,
        List.append_assoc, List.singleton_append]

theorem parseBytes_last {front : Bytes} {startquote : Bool} (plain : quoteByte ∉ front)
    (whole : startquote = true ∨ spaceByte ∉ front) (nonempty : front ≠ []) (buf : Bytes) :
    parseBytes front startquote buf = [buf ++ front] := by
  rcases List.eq_nil_or_concat front with rfl | ⟨rest, last, rfl⟩
  · exact absurd rfl nonempty
  · rw [List.concat_eq_append] at *
    rw [List.mem_append, not_or, List.mem_singleton] at plain
    have restWhole : startquote = true ∨ spaceByte ∉ rest :=
      whole.imp_right fun missing member => missing (List.mem_append_left _ member)
    have ordinary : ¬ (startquote = false ∧ last = spaceByte) := by
      rintro ⟨bare, rfl⟩
      rcases whole with quoted | missing
      · rw [bare] at quoted
        cases quoted
      · exact missing (List.mem_append_right _ List.mem_cons_self)
    rw [parseBytes_append plain.1 restWhole (List.cons_ne_nil last []),
      parseBytes_ordinary (Ne.symm plain.2) ordinary, if_pos rfl, List.append_assoc]

/-- The arguments of a string, with one that has begun.  It ends at the quote that
closes, at a space that is not between quotes, and at the end of the string. -/
def splitString : Bytes -> Written -> Bool -> List Written
  | [], _, _ => []
  | byte :: rest, arg, startquote =>
      if byte = quoteByte then
        if startquote then arg :: splitString rest { bare := [] } false
        else splitString rest arg true
      else if startquote = false ∧ byte = spaceByte then
        if arg.bare ≠ [] then arg :: splitString rest { bare := [] } false
        else splitString rest arg false
      else
        let longer := if startquote then { arg with quoted := arg.quoted ++ [byte] } else
            { arg with bare := arg.bare ++ [byte] }
        if rest = [] then [longer] else splitString rest longer startquote

/-- A name in a string, and whether it is between quotes. -/
structure Reference where
  name : Bytes
  quoted : Bool

/-- The names among some matches. -/
def namesOf (tokens : List Token) : List Bytes :=
  tokens.filterMap Token.name?

/-- The names behind an `@` in the rest of a string, from a state of the scanner on. -/
def referencesFrom : Bool -> Option Bytes -> Bytes -> List Reference
  | startquote, state, [] => (namesOf (fileTokens.finish state)).map fun name => ⟨name, startquote⟩
  | startquote, state, byte :: rest =>
      ((namesOf (fileTokens.step state byte).1).map fun name => ⟨name, startquote⟩) ++
        referencesFrom (if byte = quoteByte then !startquote else startquote)
        (fileTokens.step state byte).2 rest

def references (text : Bytes) : List Reference :=
  referencesFrom false none text

section

variable (inputs : List String) (workpath : String)

/-- The path of the file that is named, if there is one, has single-byte characters, no
quote, and a space only between quotes. -/
def Fits (reference : Reference) : Prop :=
  inputsNamed inputs reference.name ≠ [] ->
      forall byte, byte ∈ replaceWithFullPath inputs workpath reference.name ->
    byte.toNat < 128 ∧ byte ≠ quoteByte ∧ (byte = spaceByte -> reference.quoted = true)

/-- The condition on a string, under which it is split as it is written. The names are replaced in
the whole string before it is split, so a space in a path would be one in the string. -/
structure TextKept (text : Bytes) : Prop where
  narrow : Narrow text
  paths : forall reference, reference ∈ references text -> Fits inputs workpath reference

end

/-! ## Replacing and splitting -/

section

variable {inputs : List String} {workpath : String}

/-- A name that is being read has name characters. -/
def NameRead (state : Option Bytes) : Prop :=
  forall name, state = some name -> forall byte, byte ∈ name -> isNameByte byte = true

theorem nameRead_none : NameRead none :=
  fun _ absent => nomatch absent

theorem NameRead.step {state : Option Bytes} (named : NameRead state) (byte : UInt8) :
    NameRead (fileTokens.step state byte).2 := by
  have begun : NameRead (some []) := by
    intro name same
    cases same
    exact List.forall_mem_nil _
  cases state with
  | none =>
      simp only [fileTokens]
      by_cases mark : byte = atByte
      · rw [if_pos mark]
        exact begun
      · rw [if_neg mark]
        exact nameRead_none
  | some name =>
      simp only [fileTokens]
      by_cases inName : isNameByte byte = true
      · rw [if_pos inName]
        intro longer same other member
        cases same
        rcases List.mem_append.mp member with old | new
        · exact named name rfl other old
        · rw [List.mem_singleton.mp new]
          exact inName
      · rw [if_neg inName]
        by_cases mark : byte = atByte
        · rw [if_pos mark]
          exact begun
        · rw [if_neg mark]
          exact nameRead_none

theorem NameRead.after {state : Option Bytes} (named : NameRead state) (text : Bytes) :
    NameRead (fileTokens.after state text) := by
  induction text generalizing state with
  | nil => exact named
  | cons byte rest inductionHypothesis => exact inductionHypothesis (named.step byte)

/-- What a name that is being read becomes if it ends here. -/
def finishedText (inputs : List String) (workpath : String) (state : Option Bytes) : Bytes :=
  replaceAll (replaceWithFullPath inputs workpath) (fileTokens.finish state)

/-- What a byte adds to the replaced text. -/
def stepText (inputs : List String) (workpath : String) (state : Option Bytes) (byte : UInt8) :
    Bytes :=
  replaceAll (replaceWithFullPath inputs workpath) (fileTokens.step state byte).1

/-- The replaced text of what has been read, without a name that is being read. -/
def writtenText (inputs : List String) (workpath : String) (text : Bytes) : Bytes :=
  replaceAll (replaceWithFullPath inputs workpath) (fileTokens.written none text)

theorem replacedFrom_cons (state : Option Bytes) (byte : UInt8) (rest : Bytes) :
    replacedFrom inputs workpath state (byte :: rest) =
      stepText inputs workpath state byte ++ replacedFrom inputs workpath
          (fileTokens.step state byte).2 rest :=
  replaceAll_append _ _ _

theorem replaceFilepath_written (text : Bytes) :
    replaceFilepath inputs workpath text =
      writtenText inputs workpath text ++ finishedText inputs workpath
          (fileTokens.after none text) := by
  rw [replaceFilepath, Scanner.run_eq, replaceAll_append]
  rfl

theorem writtenText_concat (text : Bytes) (byte : UInt8) :
    writtenText inputs workpath (text ++ [byte]) =
      writtenText inputs workpath text ++ stepText inputs workpath
          (fileTokens.after none text) byte := by
  rw [writtenText, Scanner.written_append, replaceAll_append, Scanner.written, Scanner.written,
      List.append_nil]
  rfl

theorem finishedText_some (name : Bytes) :
    finishedText inputs workpath (some name) = nameText inputs workpath name :=
  replaceAll_fileToken name

/-- A byte that belongs to no name ends one that is being read. -/
theorem step_outside {byte : UInt8} (outside : isNameByte byte = false) (plain : byte ≠ atByte)
    (state : Option Bytes) :
    fileTokens.step state byte = (fileTokens.finish state ++ [.byte byte], none) := by
  cases state with
  | none => exact if_neg plain
  | some name =>
      simp only [fileTokens]
      rw [if_neg (by rw [outside]; exact Bool.false_ne_true), if_neg plain]

theorem replacedFrom_outside {byte : UInt8} (outside : isNameByte byte = false)
    (plain : byte ≠ atByte) (state : Option Bytes) (rest : Bytes) :
    replacedFrom inputs workpath state (byte :: rest) =
      finishedText inputs workpath state ++ byte :: replacedFrom inputs workpath none rest := by
  rw [replacedFrom_cons, stepText, step_outside outside plain, replaceAll_append, List.append_assoc]
  rfl

theorem namesOf_byte (tokens : List Token) (byte : UInt8) :
    namesOf (tokens ++ [.byte byte]) = namesOf tokens := by
  rw [namesOf, List.filterMap_append]
  exact List.append_nil _

/-- The path of an input file is a path. -/
theorem inputFilePath_ne_nil {fileName : String} (named : fileName ≠ "") :
    inputFilePath workpath fileName ≠ [] := by
  have path : joinPath workpath fileName ≠ "" := by
    unfold joinPath
    by_cases rooted : workpath ≠ ""
    · rw [if_pos rooted]
      exact clean_ne_empty _
    · rw [if_neg rooted, if_pos named]
      exact clean_ne_empty _
  intro empty
  have letters : Utf8.encode (joinPath workpath fileName).toList = [] := empty
  cases listed : (joinPath workpath fileName).toList with
  | nil => exact path (String.toList_eq_nil_iff.mp listed)
  | cons letter rest =>
      rw [listed, Utf8.encode_cons] at letters
      exact Utf8.utf8EncodeChar_ne_nil letter (List.append_eq_nil_iff.mp letters).1

theorem nameText_ne_nil (name : Bytes) : nameText inputs workpath name ≠ [] := by
  unfold nameText
  by_cases empty : name = []
  · rw [if_pos empty]
    exact List.cons_ne_nil _ _
  · rw [if_neg empty]
    rcases replaceWithFullPath_cases inputs workpath name with ⟨fileName, -, same, path⟩ | ⟨-, kept⟩
    · rw [path]
      apply inputFilePath_ne_nil
      rintro rfl
      exact empty same.symm
    · rw [kept]
      exact List.cons_ne_nil _ _

theorem replacedFrom_some_ne_nil (text name : Bytes) :
    replacedFrom inputs workpath (some name) text ≠ [] := by
  induction text generalizing name with
  | nil =>
      rw [replacedFrom_some_nil]
      exact nameText_ne_nil name
  | cons byte rest inductionHypothesis =>
      rw [replacedFrom_some_cons]
      by_cases inName : isNameByte byte = true
      · rw [if_pos inName]
        exact inductionHypothesis _
      · rw [if_neg inName]
        exact List.append_ne_nil_of_left_ne_nil (nameText_ne_nil name) _

/-- Something stays of every text. -/
theorem replacedFrom_ne_nil {text : Bytes} (nonempty : text ≠ []) (state : Option Bytes) :
    replacedFrom inputs workpath state text ≠ [] := by
  cases state with
  | some name => exact replacedFrom_some_ne_nil text name
  | none =>
      cases text with
      | nil => exact absurd rfl nonempty
      | cons byte rest =>
          rw [replacedFrom_none_cons]
          by_cases marked : byte = atByte
          · rw [if_pos marked]
            exact replacedFrom_some_ne_nil rest []
          · rw [if_neg marked]
            exact List.cons_ne_nil _ _

/-- What holds of the `@`, of the bytes of the names and of those of the paths, holds of
the bytes that come out of a name. -/
theorem forall_mem_finishedText {Good : UInt8 -> Prop} (mark : Good atByte)
    (names : forall byte, isNameByte byte = true -> Good byte) {state : Option Bytes}
    (named : NameRead state)
    (paths : forall name, name ∈ namesOf (fileTokens.finish state) ->
    inputsNamed inputs name ≠ [] ->
      forall byte, byte ∈ replaceWithFullPath inputs workpath name -> Good byte) :
    forall byte, byte ∈ finishedText inputs workpath state -> Good byte := by
  cases state with
  | none => exact List.forall_mem_nil _
  | some name =>
      rw [finishedText_some]
      unfold nameText
      by_cases empty : name = []
      · rw [if_pos empty]
        exact List.forall_mem_singleton.mpr mark
      · rw [if_neg empty]
        have token : fileTokens.finish (some name) = [.found name] := if_neg empty
        rw [token] at paths
        by_cases known : inputsNamed inputs name = []
        · rw [replaceWithFullPath, known]
          exact List.forall_mem_cons.mpr
              ⟨mark, fun byte member => names byte (named name rfl byte member)⟩
        · exact paths name List.mem_cons_self known

theorem forall_mem_stepText {Good : UInt8 -> Prop} (mark : Good atByte)
    (names : forall byte, isNameByte byte = true -> Good byte) {state : Option Bytes}
    (named : NameRead state) {byte : UInt8} (good : Good byte)
    (paths : forall name, name ∈ namesOf (fileTokens.step state byte).1 ->
    inputsNamed inputs name ≠ [] ->
      forall other, other ∈ replaceWithFullPath inputs workpath name -> Good other) :
    forall other, other ∈ stepText inputs workpath state byte -> Good other := by
  by_cases marked : byte = atByte
  · rw [marked, fileTokens_at_mark] at paths
    rw [stepText, marked, fileTokens_at_mark]
    exact forall_mem_finishedText mark names named paths
  · by_cases inName : isNameByte byte = true
    · cases state with
      | none =>
          have step : fileTokens.step none byte = ([.byte byte], none) := if_neg marked
          rw [stepText, step]
          exact List.forall_mem_singleton.mpr good
      | some name =>
          have step : fileTokens.step (some name) byte = ([], some (name ++ [byte])) :=
              if_pos inName
          rw [stepText, step]
          exact List.forall_mem_nil _
    · have step := step_outside (Bool.eq_false_of_not_eq_true inName) marked state
      rw [step, namesOf_byte] at paths
      rw [stepText, step, replaceAll_append]
      intro other member
      rcases List.mem_append.mp member with before | here
      · exact forall_mem_finishedText mark names named paths other before
      · rw [List.mem_singleton.mp here]
        exact good

theorem forall_mem_replacedFrom {Good : UInt8 -> Prop} (mark : Good atByte)
    (names : forall byte, isNameByte byte = true -> Good byte) {text : Bytes}
    (good : forall byte, byte ∈ text -> Good byte) {startquote : Bool} {state : Option Bytes}
    (named : NameRead state)
    (paths : forall reference, reference ∈ referencesFrom startquote state text ->
    inputsNamed inputs reference.name ≠ [] ->
      forall byte, byte ∈ replaceWithFullPath inputs workpath reference.name -> Good byte) :
    forall byte, byte ∈ replacedFrom inputs workpath state text -> Good byte := by
  induction text generalizing startquote state with
  | nil => exact forall_mem_finishedText mark names named fun name member =>
      paths ⟨name, startquote⟩ (List.mem_map_of_mem member)
  | cons byte rest inductionHypothesis =>
      rw [List.forall_mem_cons] at good
      rw [replacedFrom_cons]
      intro other member
      rcases List.mem_append.mp member with here | later
      · refine forall_mem_stepText mark names named good.1 (fun name found => ?_) other here
        exact paths ⟨name, startquote⟩ (List.mem_append_left _ (List.mem_map_of_mem found))
      · exact inductionHypothesis good.2 (named.step byte)
          (fun reference found => paths reference (List.mem_append_right _ found))
          other later

theorem name_byte_narrow {byte : UInt8} (inName : isNameByte byte = true) : byte.toNat < 128 := by
  unfold isNameByte isWordByte at inName
  simp only [Bool.or_eq_true, Bool.and_eq_true, decide_eq_true_eq, beq_iff_eq] at inName
  rcases inName with ((((⟨-, small⟩ | ⟨-, small⟩) | ⟨-, small⟩) | rfl) | rfl) | rfl
  · omega
  · omega
  · omega
  · decide
  · decide
  · decide

/-- What comes out of a name brings in no quote, and a space only between quotes. -/
theorem finishedText_plain {startquote : Bool} {state : Option Bytes} (named : NameRead state)
    (fits : forall name, name ∈ namesOf (fileTokens.finish state) ->
    Fits inputs workpath ⟨name, startquote⟩) :
    quoteByte ∉ finishedText inputs workpath state ∧
      (startquote = true ∨ spaceByte ∉ finishedText inputs workpath state) := by
  have good := @forall_mem_finishedText inputs workpath
    (fun byte => byte ≠ quoteByte ∧ (byte = spaceByte -> startquote = true))
        ⟨by decide, fun mark => absurd mark (by decide)⟩
    (fun byte inName => ⟨(name_byte_plain inName).2.2.1, fun space =>
        absurd space (name_byte_plain inName).2.2.2⟩)
    state named (fun name found known byte inPath => (fits name found known byte inPath).2)
  refine ⟨fun member => (good _ member).1 rfl, ?_⟩
  by_cases quoted : startquote = true
  · exact Or.inl quoted
  · exact Or.inr fun member => quoted ((good _ member).2 rfl)

/-- A byte that is no quote brings in no quote, and a space only if it is one. -/
theorem stepText_plain {startquote : Bool} {state : Option Bytes} (named : NameRead state)
    {byte : UInt8}
    (fits : forall name, name ∈ namesOf (fileTokens.step state byte).1 ->
    Fits inputs workpath ⟨name, startquote⟩)
    (plain : byte ≠ quoteByte) (ordinary : ¬ (startquote = false ∧ byte = spaceByte)) :
    quoteByte ∉ stepText inputs workpath state byte ∧
      (startquote = true ∨ spaceByte ∉ stepText inputs workpath state byte) := by
  have bare : byte = spaceByte -> startquote = true := by
    intro space
    by_contra open_
    exact ordinary ⟨Bool.eq_false_of_not_eq_true open_, space⟩
  have good := @forall_mem_stepText inputs workpath
    (fun byte => byte ≠ quoteByte ∧ (byte = spaceByte -> startquote = true))
        ⟨by decide, fun mark => absurd mark (by decide)⟩
    (fun byte inName => ⟨(name_byte_plain inName).2.2.1, fun space =>
        absurd space (name_byte_plain inName).2.2.2⟩)
    state named byte ⟨plain, bare⟩ (fun name found known other inPath =>
        (fits name found known other inPath).2)
  refine ⟨fun member => (good _ member).1 rfl, ?_⟩
  by_cases quoted : startquote = true
  · exact Or.inl quoted
  · exact Or.inr fun member => quoted ((good _ member).2 rfl)

/-- What is being read of an argument: what is between quotes, or else what is bare. -/
def current (arg : Written) (startquote : Bool) : Bytes :=
  if startquote then arg.quoted else arg.bare

/-- What is in the buffer of the splitter by then: the replaced text without a name that
is being read. -/
def bufferOf (inputs : List String) (workpath : String) (arg : Written) (startquote : Bool) :
    Bytes :=
  if startquote then replaceFilepath inputs workpath arg.bare ++ writtenText inputs
      workpath arg.quoted
  else writtenText inputs workpath arg.bare

/-- The step of the loop over a string whose names are replaced.  A quote or a space ends
a name that is being read in both texts. -/
theorem parse_replacedFrom (text : Bytes) {startquote : Bool} {arg : Written}
    (begun : startquote = false -> arg.quoted = [])
    (unfinished : text ≠ [] ∨ fileTokens.after none (current arg startquote) = none)
    (fits : forall reference, reference ∈ referencesFrom startquote
    (fileTokens.after none (current arg startquote)) text ->
      Fits inputs workpath reference) :
    parseBytes (replacedFrom inputs workpath (fileTokens.after none (current arg startquote)) text)
        startquote
        (bufferOf inputs workpath arg startquote) =
      (splitString text arg startquote).map (lineOf inputs workpath) := by
  induction text generalizing startquote arg with
  | nil =>
      rw [unfinished.resolve_left (fun nonempty => nonempty rfl)]
      rfl
  | cons byte rest inductionHypothesis =>
      have named : NameRead (fileTokens.after none (current arg startquote)) :=
          nameRead_none.after _
      have here : forall name,
          name ∈ namesOf (fileTokens.step (fileTokens.after none (current arg startquote))
          byte).1 ->
          Fits inputs workpath ⟨name, startquote⟩ :=
        fun name member => fits _ (List.mem_append_left _ (List.mem_map_of_mem member))
      have later : forall reference, reference ∈ referencesFrom
          (if byte = quoteByte then !startquote else startquote)
          (fileTokens.step (fileTokens.after none (current arg startquote)) byte).2 rest ->
          Fits inputs workpath reference :=
        fun reference member => fits _ (List.mem_append_right _ member)
      by_cases quote : byte = quoteByte
      · have outside := @replacedFrom_outside inputs workpath quoteByte (by decide) (by decide)
          (fileTokens.after none (current arg startquote)) rest
        have step := @step_outside quoteByte (by decide) (by decide)
            (fileTokens.after none (current arg startquote))
        rw [quote, step, namesOf_byte] at here
        rw [if_pos quote, quote, step] at later
        have ended := finishedText_plain named here
        rw [quote, outside, splitString, if_pos rfl]
        cases startquote with
        | true =>
            rw [if_pos rfl, parseBytes_append ended.1 (Or.inl rfl) (List.cons_ne_nil _ _),
                parseBytes_close, List.map_cons]
            refine congrArg₂ List.cons ?_ (@inductionHypothesis false { bare := [] } (fun _ => rfl)
                (Or.inr rfl) later)
            change replaceFilepath inputs workpath arg.bare ++ writtenText inputs workpath
                arg.quoted ++ _ = _
            rw [List.append_assoc, lineOf, replaceFilepath_written arg.quoted]
            rfl
        | false =>
            have empty : arg.quoted = [] := begun rfl
            have onwards := @inductionHypothesis true arg (fun impossible => nomatch impossible)
              (Or.inr (by rw [current, if_pos rfl, empty]; rfl)) (by
                rw [current, if_pos rfl, empty]
                exact later)
            rw [if_neg Bool.false_ne_true, parseBytes_append ended.1 ended.2 (List.cons_ne_nil _ _),
                parseBytes_open]
            have whole : bufferOf inputs workpath arg false ++
                finishedText inputs workpath (fileTokens.after none (current arg false)) =
                  bufferOf inputs workpath arg true := by
              change _ = replaceFilepath inputs workpath arg.bare ++ writtenText inputs
                  workpath arg.quoted
              rw [replaceFilepath_written arg.bare, empty]
              exact (List.append_nil _).symm
            rw [current, if_pos rfl, empty] at onwards
            rw [whole]
            exact onwards
      · rw [if_neg quote] at later
        rw [splitString, if_neg quote]
        by_cases ends : startquote = false ∧ byte = spaceByte
        · rcases ends with ⟨rfl, rfl⟩
          have outside := @replacedFrom_outside inputs workpath spaceByte (by decide) (by decide)
            (fileTokens.after none (current arg false)) rest
          have step := @step_outside spaceByte (by decide) (by decide)
              (fileTokens.after none (current arg false))
          rw [step, namesOf_byte] at here
          rw [step] at later
          have ended := finishedText_plain named here
          have whole : bufferOf inputs workpath arg false ++
              finishedText inputs workpath (fileTokens.after none (current arg false)) =
                replaceFilepath inputs workpath arg.bare := (replaceFilepath_written arg.bare).symm
          have onwards := @inductionHypothesis false { bare := [] } (fun _ => rfl)
              (Or.inr rfl) later
          rw [if_pos (show false = false ∧ spaceByte = spaceByte from ⟨rfl, rfl⟩), outside,
            parseBytes_append ended.1 ended.2 (List.cons_ne_nil _ _), whole, parseBytes_space]
          by_cases started : arg.bare ≠ []
          · have kept : (replaceFilepath inputs workpath arg.bare).length > 0 :=
              List.length_pos_iff.mpr (replacedFrom_ne_nil started none)
            have line : lineOf inputs workpath arg = replaceFilepath inputs workpath arg.bare := by
              rw [lineOf, begun rfl]
              exact List.append_nil _
            rw [if_pos started, if_pos kept, List.map_cons, line]
            exact congrArg (_ :: ·) onwards
          · have nothing : arg = { bare := [] } := by
              cases arg with
              | mk bare quoted =>
                  rw [show bare = [] from not_not.mp started, show quoted = [] from begun rfl]
            rw [if_neg started, nothing]
            exact onwards
        · have plain := stepText_plain named here quote ends
          have state : forall text : Bytes, fileTokens.after none (text ++ [byte]) =
              (fileTokens.step (fileTokens.after none text) byte).2 := by
            intro text
            rw [Scanner.after_append]
            rfl
          rw [if_neg ends]
          dsimp only
          -- the argument with the byte, and what is then in the buffer
          have grown : Exists fun longer : Written =>
              (if startquote then { arg with quoted := arg.quoted ++ [byte] } else
                  { arg with bare := arg.bare ++ [byte] }) =
                  longer ∧ current longer startquote = current arg startquote ++ [byte] ∧
                bufferOf inputs workpath longer startquote = bufferOf inputs workpath
                    arg startquote ++
                  stepText inputs workpath (fileTokens.after none (current arg startquote)) byte ∧
                (startquote = false -> longer.quoted = []) ∧
                lineOf inputs workpath longer = bufferOf inputs workpath longer startquote ++
                  finishedText inputs workpath
                      (fileTokens.after none (current longer startquote)) := by
            cases startquote with
            | true =>
                refine ⟨_, if_pos rfl, rfl, ?_, (fun impossible => nomatch impossible), ?_⟩
                · change _ ++ writtenText inputs workpath (arg.quoted ++ [byte]) = _
                  rw [writtenText_concat, <- List.append_assoc]
                  rfl
                · change replaceFilepath inputs workpath arg.bare ++ replaceFilepath inputs workpath
                    (arg.quoted ++ [byte]) = _
                  rw [replaceFilepath_written (arg.quoted ++ [byte]), <- List.append_assoc]
                  rfl
            | false =>
                refine ⟨_, if_neg Bool.false_ne_true, rfl, writtenText_concat arg.bare byte, begun,
                    ?_⟩
                change replaceFilepath inputs workpath (arg.bare ++ [byte]) ++ replaceFilepath
                    inputs workpath arg.quoted = _
                rw [begun rfl, replaceFilepath_written (arg.bare ++ [byte])]
                exact List.append_nil _
          rcases grown with ⟨longer, same, reading, buffer, whole, line⟩
          rw [same]
          by_cases last : rest = []
          · rw [if_pos last]
            subst last
            have next := finishedText_plain (named.step byte) fun name member =>
                later ⟨name, startquote⟩ (List.mem_map_of_mem member)
            have written : quoteByte ∉ replacedFrom inputs workpath
                (fileTokens.after none (current arg startquote)) [byte] ∧
                (startquote = true ∨
                  spaceByte ∉ replacedFrom inputs workpath
                  (fileTokens.after none (current arg startquote)) [byte]) := by
              rw [replacedFrom_cons]
              refine ⟨fun member => (List.mem_append.mp member).elim plain.1 next.1, ?_⟩
              exact plain.2.elim Or.inl fun missing =>
                next.2.imp_right fun absent member =>
                    (List.mem_append.mp member).elim missing absent
            rw [parseBytes_last written.1 written.2 (replacedFrom_ne_nil (List.cons_ne_nil _ _) _),
                List.map_singleton, line,
              buffer, reading, state, replacedFrom_cons, List.append_assoc]
            rfl
          · rw [if_neg last, replacedFrom_cons, parseBytes_append plain.1 plain.2
              (replacedFrom_ne_nil last _), <- buffer,
              <- state, <- reading]
            refine inductionHypothesis whole (Or.inl last) ?_
            rw [reading, state]
            exact later

/-- Replacing the names in a string and splitting it gives the lines of the arguments
that are written in it. -/
theorem parse_replaced {text : Bytes} (kept : TextKept inputs workpath text) :
    parseArgString (replaceFilepath inputs workpath text) =
      (splitString text { bare := [] } false).map (lineOf inputs workpath) := by
  have replacedNarrow : Narrow (replaceFilepath inputs workpath text) :=
    @forall_mem_replacedFrom inputs workpath (fun byte => byte.toNat < 128) (by decide)
      (fun _ inName => name_byte_narrow inName) text kept.narrow false none nameRead_none
      (fun reference member known byte inPath => (kept.paths reference member known byte inPath).1)
  rw [parseArgString_narrow replacedNarrow]
  exact @parse_replacedFrom inputs workpath text false { bare := [] } (fun _ => rfl)
      (Or.inr rfl) kept.paths

end

/-! ## The arguments of a command -/

/-- The arguments as they are written: those in the string, or the array. -/
def writtenOf (cmd : Command) : List Written :=
  if cmd.args ≠ [] then splitString cmd.args { bare := [] } false else cmd.argsArray.map fun arg =>
      { bare := arg }

/-- The arguments as they are given. -/
def argumentsOf (cmd : Command) : List Bytes :=
  (writtenOf cmd).map Written.text

/-- If `ParseWorkunitArgs` returns without an error, every argument is there with its names and
variables replaced. Arguments are compared with what was written and not with what the loop makes
of it, so that a quote that is cut counts as a loss. -/
def Intact (outside : Outside) (inputs : List String) (cmd : Command) : Prop :=
  forall path, outside.path = .ok path -> (parseWorkunitArgs outside inputs cmd).1 = none ->
    (parseWorkunitArgs outside inputs cmd).2.parsedArgs =
      (argumentsOf cmd).map (expected inputs (workpathOf outside path cmd) outside.getenv)

/-- The condition on a command: on the string as a whole, where there is one, and on each
argument, unless one of them is an error.  Where there are no arguments, none may have
been left from before. -/
structure ArgumentsHandled (outside : Outside) (inputs : List String) (workpath : String)
    (cmd : Command) : Prop where
  text : cmd.args ≠ [] -> TextKept inputs workpath cmd.args
  fresh : cmd.args = [] -> cmd.argsArray = [] -> cmd.parsedArgs = []
  each : (Exists fun arg => arg ∈ writtenOf cmd ∧ Refused inputs workpath arg) ∨
    forall arg, arg ∈ writtenOf cmd -> Handled inputs workpath outside.getenv arg

section

variable {outside : Outside} {inputs : List String} {workpath : String} {getenv : Bytes -> Bytes}
    {cmd : Command}

/-- The command whose arguments are looked at: an array has its file names replaced. -/
def prepared (inputs : List String) (workpath : String) (cmd : Command) : Command :=
  { cmd with argsArray := if cmd.args ≠ [] then cmd.argsArray else cmd.argsArray.map (replaceFilepath inputs workpath) }

/-- `ParseWorkunitArgs` goes through the lines of the arguments. -/
theorem parse_lines {path : String} (found : outside.path = .ok path)
    (kept : cmd.args ≠ [] -> TextKept inputs (workpathOf outside path cmd) cmd.args)
    (given : ¬ (cmd.args = [] ∧ cmd.argsArray = [])) :
    parseWorkunitArgs outside inputs cmd =
      finishArgs outside inputs (workpathOf outside path cmd)
          (prepared inputs (workpathOf outside path cmd) cmd)
        ((writtenOf cmd).map (lineOf inputs (workpathOf outside path cmd))) := by
  unfold parseWorkunitArgs writtenOf prepared
  rw [found]
  dsimp only
  by_cases written : cmd.args ≠ []
  · rw [if_pos written, if_pos written, if_pos written, parse_replaced (kept written)]
  · have nonempty : cmd.argsArray ≠ [] := fun empty => given ⟨not_not.mp written, empty⟩
    rw [if_neg written, if_neg written, if_neg written, if_neg nonempty, List.map_map]
    refine congrArg _ (List.map_congr_left fun arg _ => ?_)
    exact (List.append_nil _).symm

/-- Without arguments nothing happens. -/
theorem parse_nothing {path : String} (found : outside.path = .ok path)
    (nothing : cmd.args = [] ∧ cmd.argsArray = []) :
    parseWorkunitArgs outside inputs cmd = (none, cmd) ∧ writtenOf cmd = [] := by
  unfold parseWorkunitArgs writtenOf
  rw [found]
  dsimp only
  rw [if_neg (not_not.mpr nothing.1), if_neg (not_not.mpr nothing.1), if_pos nothing.2, nothing.2]
  exact ⟨rfl, rfl⟩

theorem parseArgs_handled {args : List Written}
    (handled : forall arg, arg ∈ args -> Handled inputs workpath getenv arg) :
    parseArgs inputs workpath getenv (args.map (lineOf inputs workpath)) =
      .ok (args.map fun arg => expected inputs workpath getenv arg.text) := by
  induction args with
  | nil => rfl
  | cons arg rest inductionHypothesis =>
      rw [List.forall_mem_cons] at handled
      rw [List.map_cons, parseArgs, parseArg_handled handled.1, inductionHypothesis handled.2]
      rfl

theorem parseArgs_each {args parsed : List Bytes}
    (done : parseArgs inputs workpath getenv args = .ok parsed) :
    forall arg, arg ∈ args -> Exists fun pieces => parseArg inputs workpath getenv arg =
        .ok pieces := by
  induction args generalizing parsed with
  | nil => exact List.forall_mem_nil _
  | cons arg rest inductionHypothesis =>
      rcases Fallible.bind_ok_iff.mp done with ⟨pieces, first, later⟩
      rcases Fallible.bind_ok_iff.mp later with ⟨others, parsedRest, -⟩
      exact List.forall_mem_cons.mpr ⟨⟨pieces, first⟩, inductionHypothesis parsedRest⟩

/-- One argument that is an error is one for the command. -/
theorem not_parsed_of_refused {args : List Written} {arg : Written} (member : arg ∈ args)
    (refused : Refused inputs workpath arg) (parsed : List Bytes) :
    parseArgs inputs workpath getenv (args.map (lineOf inputs workpath)) ≠ .ok parsed := by
  intro done
  rcases parseArgs_each done _ (List.mem_map_of_mem member) with ⟨pieces, first⟩
  rw [parseArg_refused refused] at first
  cases first

/-- The arguments of a handled command arrive, unless one of them is an error. -/
theorem intact_of_handled {path : String} (found : outside.path = .ok path)
    (handled : ArgumentsHandled outside inputs (workpathOf outside path cmd) cmd) :
    Intact outside inputs cmd ∧ ((parseWorkunitArgs outside inputs cmd).1 = none ∨
      Exists fun arg => arg ∈ writtenOf cmd ∧
          Refused inputs (workpathOf outside path cmd) arg) := by
  by_cases nothing : cmd.args = [] ∧ cmd.argsArray = []
  · rcases @parse_nothing outside inputs cmd path found nothing with ⟨run, none_written⟩
    unfold Intact
    rw [run, argumentsOf, none_written]
    exact ⟨fun _ _ _ => handled.fresh nothing.1 nothing.2, Or.inl rfl⟩
  · have run := parse_lines found handled.text nothing
    rcases handled.each with ⟨arg, member, refused⟩ | each
    · refine ⟨?_, Or.inr ⟨arg, member, refused⟩⟩
      intro other _ returned
      rw [run, finishArgs] at returned
      cases done : parseArgs inputs (workpathOf outside path cmd) outside.getenv
          ((writtenOf cmd).map (lineOf inputs (workpathOf outside path cmd))) with
      | error text =>
          rw [done] at returned
          cases returned
      | ok parsed => exact absurd done (not_parsed_of_refused member refused parsed)
    · rw [finishArgs, parseArgs_handled each] at run
      rw [run]
      refine ⟨?_, Or.inl rfl⟩
      intro other found' _
      rw [found] at found'
      cases found'
      rw [run, argumentsOf, List.map_map]
      rfl

/-- What comes out of arguments of which none is an error: none is lost and none is put in
twice only if each is handled. -/
theorem parseArgs_counts (flat : FlatNames inputs workpath) {args : List Written}
    (plain : forall arg, arg ∈ args -> variablesIn arg.text = [] ∧
    variablesOf (lineOf inputs workpath arg) = [] ∧
      Joined inputs workpath arg)
    (few : forall arg, arg ∈ args -> (lineOf inputs workpath arg).count atByte ≤ 1) :
    Exists fun parsed => parseArgs inputs workpath getenv (args.map (lineOf inputs workpath)) =
        .ok parsed ∧
      (forall piece, piece ∈ parsed -> atByte ∉ piece) ∧
      ((Exists fun arg => arg ∈ args ∧ atByte ∈ expected inputs workpath getenv arg.text) ∨
        (args.length ≤ parsed.length ∧
          (parsed.length = args.length -> forall arg, arg ∈ args ->
          Handled inputs workpath getenv arg))) := by
  induction args with
  | nil => exact ⟨[], rfl, List.forall_mem_nil _,
      Or.inr ⟨Nat.le_refl 0, fun _ => List.forall_mem_nil _⟩⟩
  | cons arg rest inductionHypothesis =>
      rw [List.forall_mem_cons] at plain few
      rcases inductionHypothesis plain.2 few.2 with ⟨others, parsedRest, unmarked, counted⟩
      by_cases handled : Handled inputs workpath getenv arg
      · have first := parseArg_handled handled
        refine ⟨[expected inputs workpath getenv arg.text] ++ others, ?_, ?_, ?_⟩
        · rw [List.map_cons, parseArgs, first, parsedRest]
          rfl
        · intro piece member
          rcases List.mem_cons.mp member with rfl | later
          · exact unmarked_of_handled flat plain.1.1 handled
          · exact unmarked piece later
        · rcases counted with ⟨other, member, marked⟩ | ⟨enough, each⟩
          · exact Or.inl ⟨other, List.mem_cons_of_mem arg member, marked⟩
          · refine Or.inr ⟨Nat.succ_le_succ enough, fun same => ?_⟩
            exact List.forall_mem_cons.mpr ⟨handled, each (Nat.succ.inj same)⟩
      · rcases parseArg_unhandled flat plain.1.1 plain.1.2.1 plain.1.2.2 few.1 handled with
          ⟨pieces, first, clean, lost⟩
        refine ⟨pieces ++ others, ?_, ?_, ?_⟩
        · rw [List.map_cons, parseArgs, first, parsedRest]
          rfl
        · intro piece member
          exact (List.mem_append.mp member).elim (clean piece) (unmarked piece)
        · rcases lost with ⟨-, marked⟩ | several
          · exact Or.inl ⟨arg, List.mem_cons_self, marked⟩
          · rcases counted with ⟨other, member, marked⟩ | ⟨enough, -⟩
            · exact Or.inl ⟨other, List.mem_cons_of_mem arg member, marked⟩
            · rw [List.length_append, List.length_cons]
              exact Or.inr ⟨by omega, fun same => absurd same (by omega)⟩

/-- Without variables, and where no quote cuts a name, a command arrives if and only if it
is handled, in both forms. -/
theorem plain_intact_iff {path : String} (found : outside.path = .ok path)
    (kept : cmd.args ≠ [] -> TextKept inputs (workpathOf outside path cmd) cmd.args)
    (flat : FlatNames inputs (workpathOf outside path cmd))
    (plain : forall arg, arg ∈ writtenOf cmd -> variablesIn arg.text = [] ∧
      variablesOf (lineOf inputs (workpathOf outside path cmd) arg) = [] ∧
      Joined inputs (workpathOf outside path cmd) arg) :
    Intact outside inputs cmd ↔
    ArgumentsHandled outside inputs (workpathOf outside path cmd) cmd := by
  refine ⟨fun intact => ?_, fun handled => (intact_of_handled found handled).1⟩
  by_cases nothing : cmd.args = [] ∧ cmd.argsArray = []
  · rcases @parse_nothing outside inputs cmd path found nothing with ⟨run, none_written⟩
    have empty := intact path found (by rw [run])
    rw [run, argumentsOf, none_written] at empty
    refine ⟨kept, fun _ _ => empty, Or.inr ?_⟩
    rw [none_written]
    exact List.forall_mem_nil _
  · refine ⟨kept, fun form empty => absurd ⟨form, empty⟩ nothing, ?_⟩
    by_cases several : Exists fun arg => arg ∈ writtenOf cmd ∧
        Refused inputs (workpathOf outside path cmd) arg
    · exact Or.inl several
    · have few : forall arg, arg ∈ writtenOf cmd ->
          (lineOf inputs (workpathOf outside path cmd) arg).count atByte ≤ 1 := by
        intro arg member
        by_contra more
        exact several ⟨arg, member, (plain arg member).2.1, by omega⟩
      rcases @parseArgs_counts inputs (workpathOf outside path cmd) outside.getenv flat _ plain few
          with
        ⟨parsed, done, unmarked, counted⟩
      have run := parse_lines found kept nothing
      rw [finishArgs, done] at run
      have same := intact path found (by rw [run])
      rw [run, argumentsOf, List.map_map] at same
      dsimp only at same
      rcases counted with ⟨arg, member, marked⟩ | ⟨-, each⟩
      · refine absurd marked (unmarked _ ?_)
        rw [same]
        exact List.mem_map_of_mem (f :=
            expected inputs (workpathOf outside path cmd) outside.getenv ∘ Written.text) member
      · refine Or.inr (each ?_)
        rw [same, List.length_map]

end

/-- Arguments survive being written and split if and only if their characters take single bytes. A
command's arguments arrive with their names and variables replaced if they are handled, and where
there are no variables and no quote cuts a name, only then.

The loop keeps one byte of every character, and recognises the last one by its position, which is
right for characters of one byte. -/
theorem arguments_intact (outside : Outside) (inputs : List String) (cmd : Command) (path : String)
    (found : outside.path = .ok path) :
    (forall args : List (List Char), (forall arg, arg ∈ args -> '\'' ∉ arg) ->
      (parseArgString (Utf8.encode (writeArgs args)) = args.map Utf8.encode ↔
        forall arg, arg ∈ args -> forall c, c ∈ arg -> Utf8.Narrow c)) ∧
    (ArgumentsHandled outside inputs (workpathOf outside path cmd) cmd ->
      Intact outside inputs cmd ∧ ((parseWorkunitArgs outside inputs cmd).1 = none ∨
        Exists fun arg => arg ∈ writtenOf cmd ∧ Refused inputs (workpathOf outside path cmd) arg)) ∧
    ((cmd.args ≠ [] -> TextKept inputs (workpathOf outside path cmd) cmd.args) ->
      FlatNames inputs (workpathOf outside path cmd) ->
      (forall arg, arg ∈ writtenOf cmd -> variablesIn arg.text = [] ∧
        variablesOf (lineOf inputs (workpathOf outside path cmd) arg) = [] ∧
        Joined inputs (workpathOf outside path cmd) arg) ->
      (Intact outside inputs cmd ↔
          ArgumentsHandled outside inputs (workpathOf outside path cmd) cmd)) :=
  ⟨fun _ plain => parse_written_iff plain, intact_of_handled found, plain_intact_iff found⟩

private def oneDirectory : Outside :=
  { path := .ok "/work", dockerWorkDir := "/workdir", getenv := fun _ => Utf8.ofString "/home" }

private def twoArguments : Command :=
  { name := Utf8.ofString "run", args := [], argsArray := [Utf8.ofString "@in.txt", Utf8.ofString "${HOME}"],
    dockerimage := "", dockerPull := "", parsedArgs := [] }

private theorem home_undisturbed : Undisturbed ["in.txt"] "/work" (fun _ => Utf8.ofString "/home")
    (Utf8.ofString "${HOME}") := by
  have home : partsOf (Utf8.ofString "${HOME}") = [.environment (Utf8.ofString "HOME")] := by decide
  intro before name later split
  rw [home] at split
  cases before with
  | nil =>
      intro occurs
      exact absurd (List.infix_nil.mp occurs) (List.cons_ne_nil _ _)
  | cons part others => cases others <;> cases split

private theorem twoArguments_handled :
    ArgumentsHandled oneDirectory ["in.txt"] "/work" twoArguments where
  text := fun written => absurd rfl written
  fresh := fun _ _ => rfl
  each := by
    have plain : variablesIn (Utf8.ofString "@in.txt") = [] := by decide
    have home : variablesIn (Utf8.ofString "${HOME}") ≠ [] := by decide
    refine Or.inr (List.forall_mem_cons.mpr ⟨?_, List.forall_mem_singleton.mpr ?_⟩)
    · exact ⟨by decide, fun _ => Or.inl (by unfold AllNamed Joined; decide), fun given =>
        absurd plain given⟩
    · exact ⟨by decide, fun nothing => absurd nothing home,
        fun _ => ⟨by unfold Joined; decide, by decide, home_undisturbed⟩⟩

/-- The path of a file and the value of a variable arrive. -/
theorem two_arguments_intact :
    Intact oneDirectory ["in.txt"] twoArguments ∧
    ((parseWorkunitArgs oneDirectory ["in.txt"] twoArguments).1 = none ∨
      Exists fun arg => arg ∈ writtenOf twoArguments ∧ Refused ["in.txt"] "/work" arg) :=
  (arguments_intact oneDirectory ["in.txt"] twoArguments "/work" rfl).2.1 twoArguments_handled

private def oneAddress : Command :=
  { twoArguments with argsArray := [Utf8.ofString "user@example.com"] }

/-- A last argument that ends in a letter of two bytes is lost, and so is an argument that
only contains an `@`. -/
theorem arguments_lost :
    ¬ (forall args : List (List Char), (forall arg, arg ∈ args -> '\'' ∉ arg) ->
        parseArgString (Utf8.encode (writeArgs args)) = args.map Utf8.encode) ∧
      ¬ forall outside inputs cmd, Intact outside inputs cmd := by
  constructor
  · intro survive
    have plain : forall arg, arg ∈ [['c', 'a', 'f', 'é']] -> '\'' ∉ arg := by decide
    have narrow := (parse_written_iff plain).mp (survive _ plain)
    exact absurd (narrow _ List.mem_cons_self 'é' (by decide)) (by decide)
  · intro intact
    have kept := intact oneDirectory [] oneAddress "/work" rfl (by decide)
    have dropped : (parseWorkunitArgs oneDirectory [] oneAddress).2.parsedArgs = [] := by decide
    rw [dropped] at kept
    cases kept

end Arguments
end Worker
end Awe
