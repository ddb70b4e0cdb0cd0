import Awe.Lib.Decimal

namespace Awe
namespace Lib

/-!
# Bytes and runes

A Go string is a sequence of bytes, and `range` walks over its runes: it gives
the position of the first byte of each rune and the rune itself, and for a byte
that begins no rune it gives the replacement rune and goes on with the next
byte.  On the encoding of some characters it gives these characters, each at
the number of bytes in front of it; on bytes below 128 it gives the bytes.
-/

namespace Utf8

/-- The bytes of a sequence of characters. -/
def encode (letters : List Char) : Bytes :=
  letters.flatMap String.utf8EncodeChar

/-- The bytes of a text. -/
def ofString (text : String) : Bytes :=
  encode text.toList

/-- The first rune of a text that is not empty, and how many bytes it takes. Bytes that are no
encoding count as one wrong character of one byte, as in Go. -/
def decodeRune (text : Bytes) : Nat × Nat :=
  match text.toByteArray.utf8DecodeChar? 0 with
  | some letter => (letter.toNat, letter.utf8Size)
  | none => (0xFFFD, 1)

/-- The loop of `range`, which takes at least one byte in each round. -/
def rangeFrom : Nat -> Nat -> Bytes -> List (Nat × Nat)
  | 0, _, _ => []
  | rounds + 1, position, text =>
      if text = [] then []
      else (position, (decodeRune text).1) ::
        rangeFrom rounds (position + (decodeRune text).2) (text.drop (decodeRune text).2)

/-- The pairs of a position and a rune that `range` visits. The positions count bytes while the
values are characters, which is where programs go wrong that mix the two. -/
def range (text : Bytes) : List (Nat × Nat) :=
  rangeFrom text.length 0 text

/-- Characters with the numbers of bytes in front of them. -/
def positions : Nat -> List Char -> List (Nat × Nat)
  | _, [] => []
  | position, letter :: rest => (position, letter.toNat) :: positions
      (position + letter.utf8Size) rest

theorem encode_cons (letter : Char) (rest : List Char) :
    encode (letter :: rest) = String.utf8EncodeChar letter ++ encode rest :=
  List.flatMap_cons

theorem decodeRune_encode (letter : Char) (rest : Bytes) :
    decodeRune (String.utf8EncodeChar letter ++ rest) = (letter.toNat, letter.utf8Size) := by
  unfold decodeRune
  rw [List.toByteArray_append, ByteArray.utf8DecodeChar?_utf8EncodeChar_append]

theorem utf8EncodeChar_ne_nil (letter : Char) : String.utf8EncodeChar letter ≠ [] := by
  intro empty
  have size := String.length_utf8EncodeChar letter
  rw [empty] at size
  exact absurd size.symm (Nat.ne_of_gt letter.utf8Size_pos)

theorem rangeFrom_encode {rounds : Nat} {letters : List Char}
    (enough : (encode letters).length ≤ rounds) (position : Nat) :
    rangeFrom rounds position (encode letters) = positions position letters := by
  induction letters generalizing rounds position with
  | nil => cases rounds <;> rfl
  | cons letter rest inductionHypothesis =>
      rw [encode_cons] at enough ⊢
      rw [List.length_append, String.length_utf8EncodeChar] at enough
      have some_byte := letter.utf8Size_pos
      cases rounds with
      | zero => omega
      | succ rounds =>
          have size : letter.utf8Size = (String.utf8EncodeChar letter).length :=
              (String.length_utf8EncodeChar letter).symm
          rw [rangeFrom, if_neg
              (List.append_ne_nil_of_left_ne_nil (utf8EncodeChar_ne_nil letter) _),
              decodeRune_encode,
            positions]
          dsimp only
          rw [size, List.drop_left, <- size, inductionHypothesis (by omega)]

/-- On the bytes of some characters `range` visits the characters. -/
theorem range_encode (letters : List Char) : range (encode letters) = positions 0 letters :=
  rangeFrom_encode (Nat.le_refl _) 0

theorem length_le_encode (letters : List Char) : letters.length ≤ (encode letters).length := by
  induction letters with
  | nil => exact Nat.le_refl 0
  | cons letter rest inductionHypothesis =>
      have some_byte := letter.utf8Size_pos
      rw [encode_cons, List.length_append, String.length_utf8EncodeChar, List.length_cons]
      omega

/-- A character that takes one byte. For a text of these, positions of bytes and of characters are
the same. -/
def Narrow (letter : Char) : Prop :=
  letter.utf8Size = 1

instance (letter : Char) : Decidable (Narrow letter) :=
  inferInstanceAs (Decidable (_ = _))

/-- The byte that `byte(c)` makes of a rune. Go drops all but the lowest eight bits without a
word. -/
def lowByte (letter : Char) : UInt8 :=
  UInt8.ofNat letter.toNat

theorem utf8EncodeChar_narrow {letter : Char} (narrow : Narrow letter) :
    String.utf8EncodeChar letter = [lowByte letter] :=
  String.utf8EncodeChar_eq_singleton narrow

/-- The low bytes of some characters are their encoding if and only if each takes one byte. -/
theorem encode_eq_lowBytes_iff (letters : List Char) :
    encode letters = letters.map lowByte ↔ forall letter, letter ∈ letters -> Narrow letter := by
  induction letters with
  | nil => exact iff_of_true rfl (List.forall_mem_nil _)
  | cons letter rest inductionHypothesis =>
      rw [encode_cons, List.map_cons, List.forall_mem_cons, <- inductionHypothesis]
      constructor
      · intro same
        have narrow : Narrow letter := by
          have lengths := congrArg List.length same
          have long := length_le_encode rest
          have some_byte := letter.utf8Size_pos
          rw [List.length_append, String.length_utf8EncodeChar, List.length_cons, List.length_map]
              at lengths
          unfold Narrow
          omega
        rw [utf8EncodeChar_narrow narrow] at same
        exact ⟨narrow, (List.cons.inj same).2⟩
      · rintro ⟨narrow, same⟩
        rw [utf8EncodeChar_narrow narrow, same, List.singleton_append]

end Utf8
end Lib
end Awe
