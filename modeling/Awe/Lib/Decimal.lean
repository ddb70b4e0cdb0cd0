import Mathlib.Data.List.Basic
import Mathlib.Tactic.IntervalCases

namespace Awe
namespace Lib

/-!
# Decimal numbers in texts of bytes

A number is written with the least number of digits and a sign only if it is
negative.  The reader is more lenient: it takes a plus sign and leading zeros.
It reads back what is written, and the digits and the sign never hide a
separator, so a number at the end of a joined text can be cut off again.
-/

/-- A text as the sequence of its bytes, which need not be UTF-8. Go's strings are of this kind,
and cutting one need not respect its characters. -/
abbrev Bytes := List UInt8

/-- A text of ASCII letters. -/
def ascii (letters : String) : Bytes :=
  letters.toList.map fun letter => UInt8.ofNat letter.toNat

namespace Decimal

/-- The sign `+`, which may stand in front of a number and is never written. -/
def plus : UInt8 := 43
/-- The sign `-`. -/
def minus : UInt8 := 45

def isDigit (byte : UInt8) : Bool :=
  48 ≤ byte.toNat && byte.toNat ≤ 57

/-- The digits of a number, the most significant one first. -/
def digits (number : Nat) : Bytes :=
  (Nat.toDigits 10 number).map fun letter => UInt8.ofNat letter.toNat

/-- The number that digits stand for; leading zeros do not count. -/
def value (text : Bytes) : Nat :=
  text.foldl (fun value digit => 10 * value + (digit.toNat - 48)) 0

/-- A number as it is written: without a plus sign and without leading zeros. -/
def format (number : Int) : Bytes :=
  if number < 0 then minus :: digits number.natAbs else digits number.natAbs

/-- The text behind an optional sign. -/
def unsigned (text : Bytes) : Bytes :=
  if text.head? = some minus ∨ text.head? = some plus then text.tail else text

/-- A number with an optional sign and any number of leading zeros. -/
def Written (text : Bytes) : Prop :=
  unsigned text ≠ [] ∧ (unsigned text).all isDigit = true

instance (text : Bytes) : Decidable (Written text) :=
  inferInstanceAs (Decidable (_ ∧ _))

/-- A number as it is read, which is more than what is ever written. -/
def parse (text : Bytes) : Option Int :=
  if Written text then
    some (if text.head? = some minus then -(value (unsigned text) : Int) else value (unsigned text))
  else none

theorem digitChar_byte {digit : Nat} (small : digit < 10) :
    UInt8.ofNat (Nat.digitChar digit).toNat = UInt8.ofNat (48 + digit) := by
  interval_cases digit <;> rfl

/-- The last digit comes off the end. -/
theorem digits_eq (number : Nat) : digits number =
    (if number < 10 then [] else digits (number / 10)) ++ [UInt8.ofNat (48 + number % 10)] := by
  unfold digits
  rw [Nat.toDigits_eq_if (by omega)]
  by_cases small : number < 10
  · rw [if_pos small, if_pos small, Nat.mod_eq_of_lt small, List.map_singleton,
      digitChar_byte small]
    rfl
  · rw [if_neg small, if_neg small, List.map_append, List.map_singleton,
      digitChar_byte (Nat.mod_lt _ (by omega))]

theorem digit_toNat (number : Nat) : (UInt8.ofNat (48 + number % 10)).toNat = 48 + number % 10 := by
  have small : number % 10 < 10 := Nat.mod_lt _ (by omega)
  rw [UInt8.toNat_ofNat']
  omega

theorem digits_ne_nil (number : Nat) : digits number ≠ [] := by
  rw [digits_eq]
  exact List.append_ne_nil_of_right_ne_nil _ (List.cons_ne_nil _ _)

theorem value_append (text : Bytes) (digit : UInt8) :
    value (text ++ [digit]) = 10 * value text + (digit.toNat - 48) := by
  unfold value
  rw [List.foldl_append]
  rfl

theorem value_digits (number : Nat) : value (digits number) = number := by
  induction number using Nat.strongRecOn with
  | ind number inductionHypothesis =>
      rw [digits_eq, value_append, digit_toNat]
      by_cases small : number < 10
      · rw [if_pos small, Nat.mod_eq_of_lt small]
        change 10 * 0 + (48 + number - 48) = number
        omega
      · rw [if_neg small, inductionHypothesis (number / 10) (Nat.div_lt_self (by omega) (by omega))]
        omega

theorem all_digits (number : Nat) : (digits number).all isDigit = true := by
  induction number using Nat.strongRecOn with
  | ind number inductionHypothesis =>
      have last : isDigit (UInt8.ofNat (48 + number % 10)) = true := by
        unfold isDigit
        rw [digit_toNat, Bool.and_eq_true, decide_eq_true_eq, decide_eq_true_eq]
        omega
      rw [digits_eq, List.all_append, List.all_cons, List.all_nil, last]
      by_cases small : number < 10
      · rw [if_pos small]
        rfl
      · rw [if_neg small, inductionHypothesis (number / 10) (Nat.div_lt_self (by omega) (by omega))]
        rfl

theorem isDigit_ne {byte sign : UInt8} (digit : isDigit byte = true)
    (outside : sign.toNat < 48 ∨ 57 < sign.toNat) :
    byte ≠ sign := by
  intro same
  unfold isDigit at digit
  rw [same, Bool.and_eq_true, decide_eq_true_eq, decide_eq_true_eq] at digit
  omega

/-- Digits do not begin with a sign. -/
theorem unsigned_of_digits {text : Bytes} (digit : text.all isDigit = true) :
    unsigned text = text ∧ text.head? ≠ some minus := by
  have first {sign : UInt8} (outside : sign.toNat < 48 ∨ 57 < sign.toNat) :
      text.head? ≠ some sign := by
    intro signed
    have member : sign ∈ text := List.mem_of_mem_head? signed
    exact isDigit_ne (List.all_eq_true.mp digit sign member) outside rfl
  have noMinus : text.head? ≠ some minus := first (Or.inl (by decide))
  have noPlus : text.head? ≠ some plus := first (Or.inl (by decide))
  unfold unsigned
  rw [if_neg (fun either => either.elim noMinus noPlus)]
  exact ⟨rfl, noMinus⟩

theorem parse_format (number : Int) : parse (format number) = some number := by
  have written := digits_ne_nil number.natAbs
  have digit := all_digits number.natAbs
  by_cases negative : number < 0
  · have text : format number = minus :: digits number.natAbs := if_pos negative
    have cut : unsigned (minus :: digits number.natAbs) = digits number.natAbs :=
        if_pos (Or.inl rfl)
    have read : Written (minus :: digits number.natAbs) := ⟨written, digit⟩
    rw [text]
    unfold parse
    rw [if_pos read, cut, List.head?_cons, if_pos rfl, value_digits]
    congr 1
    omega
  · have text : format number = digits number.natAbs := if_neg negative
    rcases unsigned_of_digits digit with ⟨cut, noSign⟩
    have read : Written (digits number.natAbs) := by
      unfold Written
      rw [cut]
      exact ⟨written, digit⟩
    rw [text]
    unfold parse
    rw [if_pos read, cut, if_neg noSign, value_digits]
    congr 1
    omega

theorem parse_isSome_iff (text : Bytes) : (parse text).isSome ↔ Written text := by
  unfold parse
  by_cases written : Written text
  · rw [if_pos written]
    exact iff_of_true rfl written
  · rw [if_neg written]
    exact iff_of_false (by decide) written

/-- A byte that is neither a digit nor a sign is in no number. -/
theorem not_mem_format {separator : UInt8} (outside : separator.toNat < 48 ∨ 57 < separator.toNat)
    (unlike : separator ≠ minus) (number : Int) : separator ∉ format number := by
  have digit : separator ∉ digits number.natAbs := by
    intro member
    exact isDigit_ne (List.all_eq_true.mp (all_digits number.natAbs) separator member) outside rfl
  unfold format
  by_cases negative : number < 0
  · rw [if_pos negative, List.mem_cons]
    exact fun either => either.elim unlike digit
  · rw [if_neg negative]
    exact digit

/-- What is behind the last separator, and in front of it. -/
theorem splitOn_append {separator : UInt8} {last : Bytes} (free : separator ∉ last)
    (front : Bytes) :
    (front ++ separator :: last).splitOn separator = front.splitOn separator ++ [last] := by
  rw [List.splitOn_append_cons_self, List.splitOn_eq_singleton free]

theorem intercalate_append {separator : UInt8} {front : List Bytes} (some : front ≠ [])
    (last : Bytes) :
    [separator].intercalate (front ++ [last]) = [separator].intercalate front ++
        separator :: last := by
  induction front with
  | nil => exact absurd rfl some
  | cons first rest inductionHypothesis =>
      by_cases single : rest = []
      · rw [single, List.cons_append, List.nil_append, List.intercalate_cons_cons,
          List.intercalate_singleton,
          List.intercalate_singleton, List.append_assoc]
        rfl
      · rw [List.cons_append, List.intercalate_cons_of_ne_nil
          (List.append_ne_nil_of_left_ne_nil single _),
          inductionHypothesis single, List.intercalate_cons_of_ne_nil single]
        simp only [List.append_assoc]

end Decimal

end Lib
end Awe
