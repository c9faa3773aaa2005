/-
Numbers read from the front of a text, in a radix up to 36.

A reader takes as many digits as there are.  It may bound their count, refuse a
superfluous leading zero, and refuse a value that is too large.  Decimal
numerals without one are exactly what `Nat.toDigits` writes.
-/

import Mathlib.Data.List.Basic
import Mathlib.Data.List.Induction
import Mathlib.Data.List.TakeWhile
import Mathlib.Tactic.Common

namespace ServiceNetwork.Numeral

def digitValue (character : Char) : Nat :=
  if character.isDigit then character.toNat - '0'.toNat
  else if character.isLower then character.toNat - 'a'.toNat + 10
  else if character.isUpper then character.toNat - 'A'.toNat + 10
  else 36

def isDigitIn (radix : Nat) (character : Char) : Bool :=
  digitValue character < radix

def numeral (radix : Nat) (digits : List Char) : Nat :=
  digits.foldl (fun value character => radix * value + digitValue character) 0

structure NumberFormat where
  radix : Nat
  maxDigits : Option Nat
  allowZeroPrefix : Bool
  bound : Nat

/-- More than one digit, the first of them zero. -/
def hasZeroPrefix (digits : List Char) : Bool :=
  digits.head? == some '0' && 1 < digits.length

def NumberFormat.accepts (format : NumberFormat) (digits : List Char) : Bool :=
  digits ≠ [] && format.maxDigits.all (digits.length ≤ ·) &&
    (format.allowZeroPrefix || !hasZeroPrefix digits) && numeral format.radix digits ≤ format.bound

def readNumber (format : NumberFormat) (input : List Char) : Option (Nat × List Char) :=
  let digits := input.takeWhile (isDigitIn format.radix)
  if format.accepts digits then
    some (numeral format.radix digits, input.dropWhile (isDigitIn format.radix))
  else none

theorem NumberFormat.accepts_iff {format : NumberFormat} {digits : List Char} :
    format.accepts digits = true ↔
      digits ≠ [] ∧ (∀ most ∈ format.maxDigits, digits.length ≤ most) ∧
        (format.allowZeroPrefix = true ∨ hasZeroPrefix digits = false) ∧
        numeral format.radix digits ≤ format.bound := by
  simp only [accepts, Bool.and_eq_true, decide_eq_true_eq, Bool.or_eq_true, Bool.not_eq_true',
    Option.all_eq_true, and_assoc]
  rfl

/-- A number that is read is the value of the digits it was read from. -/
theorem readNumber_eq_some {format : NumberFormat} {input rest : List Char} {value : Nat}
    (read : readNumber format input = some (value, rest)) :
    ∃ digits, input = digits ++ rest ∧
      (∀ character ∈ digits, isDigitIn format.radix character = true) ∧
      format.accepts digits = true ∧ value = numeral format.radix digits := by
  simp only [readNumber] at read
  split at read
  · rename_i accepted
    cases read
    refine ⟨_, List.takeWhile_append_dropWhile.symm, ?_, accepted, rfl⟩
    exact List.all_eq_true.mp List.all_takeWhile
  · cases read

theorem readNumber_of_accepts {format : NumberFormat} {digits : List Char}
    (inRadix : ∀ character ∈ digits, isDigitIn format.radix character = true)
    (accepted : format.accepts digits = true) :
    readNumber format digits = some (numeral format.radix digits, []) := by
  have all : digits.takeWhile (isDigitIn format.radix) = digits :=
    List.takeWhile_eq_self_iff.mpr inRadix
  have none : digits.dropWhile (isDigitIn format.radix) = [] :=
    List.dropWhile_eq_nil_iff.mpr inRadix
  simp only [readNumber, all, none, accepted, if_true]

theorem numeral_concat (radix : Nat) (digits : List Char) (last : Char) :
    numeral radix (digits ++ [last]) = radix * numeral radix digits + digitValue last := by
  unfold numeral
  rw [List.foldl_append]
  rfl

theorem isDigit_of_isDigitIn_ten {character : Char} (digit : isDigitIn 10 character = true) :
    character.isDigit = true := by
  unfold isDigitIn digitValue at digit
  by_contra notDigit
  rw [if_neg notDigit] at digit
  simp only [decide_eq_true_eq] at digit
  split at digit
  · omega
  · split at digit
    · omega
    · omega

theorem digitValue_of_isDigit {character : Char} (digit : character.isDigit = true) :
    digitValue character = character.toNat - '0'.toNat ∧ digitValue character < 10 := by
  have value : digitValue character = character.toNat - '0'.toNat := if_pos digit
  refine ⟨value, ?_⟩
  obtain ⟨_, most⟩ := Char.isDigit_iff_toNat.mp digit
  have zero : '0'.toNat = 48 := rfl
  have nine : '9'.toNat = 57 := rfl
  omega

theorem isDigitIn_ten {character : Char} (digit : character.isDigit = true) :
    isDigitIn 10 character = true :=
  decide_eq_true (digitValue_of_isDigit digit).2

theorem code_of_isDigitIn {radix : Nat} (most : radix ≤ 36) {character : Char}
    (digit : isDigitIn radix character = true) :
    48 ≤ character.toNat ∧ character.toNat < 128 := by
  have small : digitValue character < 36 := Nat.lt_of_lt_of_le (of_decide_eq_true digit) most
  unfold digitValue at small
  split at small
  · rename_i decimal
    obtain ⟨least, most⟩ := Char.isDigit_iff_toNat.mp decimal
    have zero : '0'.toNat = 48 := rfl
    have nine : '9'.toNat = 57 := rfl
    omega
  · split at small
    · rename_i lower
      obtain ⟨fromA, toZ⟩ := Bool.and_eq_true_iff.mp lower
      have least : 97 ≤ character.toNat := UInt32.le_iff_toNat_le.mp (of_decide_eq_true fromA)
      have most : character.toNat ≤ 122 := UInt32.le_iff_toNat_le.mp (of_decide_eq_true toZ)
      omega
    · split at small
      · rename_i upper
        obtain ⟨fromA, toZ⟩ := of_decide_eq_true upper
        have least : 65 ≤ character.toNat := UInt32.le_iff_toNat_le.mp fromA
        have most : character.toNat ≤ 90 := UInt32.le_iff_toNat_le.mp toZ
        omega
      · exact absurd small (Nat.lt_irrefl 36)

theorem toDigits_digitValue {character : Char} (digit : character.isDigit = true) :
    Nat.toDigits 10 (digitValue character) = [character] := by
  obtain ⟨value, small⟩ := digitValue_of_isDigit digit
  obtain ⟨least, _⟩ := Char.isDigit_iff_toNat.mp digit
  have zero : '0'.toNat = 48 := rfl
  rw [Nat.toDigits_of_lt_base small, List.singleton_inj]
  apply Char.toNat_inj.mp
  rw [Nat.toNat_digitChar_of_lt_ten small]
  omega

/-- A decimal numeral without a superfluous zero is the way its value is written. -/
theorem toDigits_numeral {digits : List Char} (nonempty : digits ≠ [])
    (decimal : ∀ character ∈ digits, character.isDigit = true)
    (canonical : hasZeroPrefix digits = false) : Nat.toDigits 10 (numeral 10 digits) = digits := by
  induction digits using List.reverseRecOn with
  | nil => exact absurd rfl nonempty
  | append_singleton initial last ih =>
      have lastDecimal : last.isDigit = true := decimal last (by simp)
      rw [numeral_concat]
      by_cases single : initial = []
      · subst single
        rw [numeral, List.foldl_nil, Nat.mul_zero, Nat.zero_add, toDigits_digitValue lastDecimal]
        rfl
      · obtain ⟨first, rest, rfl⟩ := List.exists_cons_of_ne_nil single
        have nonzero : first ≠ '0' := by
          rintro rfl
          cases rest <;> cases canonical
        have canonicalInitial : hasZeroPrefix (first :: rest) = false := by
          simp [hasZeroPrefix, nonzero]
        have written := ih single
          (fun character member => decimal character (List.mem_append_left [last] member))
          canonicalInitial
        have positive : 0 < numeral 10 (first :: rest) := by
          rw [Nat.pos_iff_ne_zero]
          intro zero
          rw [zero] at written
          exact nonzero (List.cons.inj written).1.symm
        rw [← Nat.toDigits_append_toDigits (by decide) positive
          (digitValue_of_isDigit lastDecimal).2, written, toDigits_digitValue lastDecimal]

/-- The way a value is written has that value. -/
theorem numeral_toDigits (value : Nat) : numeral 10 (Nat.toDigits 10 value) = value := by
  refine Eq.trans ?_ (@Nat.ofDigitChars_ten_toDigits value)
  rw [Nat.ofDigitChars_eq_foldl]
  refine List.foldl_ext _ _ 0 ?_
  intro value character member
  rw [(digitValue_of_isDigit (Nat.isDigit_of_mem_toDigits (by decide) (by decide) member)).1]

end ServiceNetwork.Numeral
