/-
Self-delimiting text: quoted strings and decimal numbers.

A quoted string escapes the quote and the backslash, so a reader finds its end
without knowing what follows.  A decimal number ends at the first character
that is not a digit.
-/

import Mathlib.Data.List.Basic
import Mathlib.Tactic.Common

namespace ServiceNetwork.Quoting

def escapeChar (character : Char) : List Char :=
  if character = '"' ∨ character = '\\' then ['\\', character] else [character]

def quoted (text : List Char) : List Char :=
  '"' :: (text.flatMap escapeChar ++ ['"'])

/-- The rest of a quoted string after its opening quote. -/
def readEscaped : List Char → Option (List Char × List Char)
  | [] => none
  | [character] => if character = '"' then some ([], []) else none
  | character :: next :: rest =>
      if character = '"' then some ([], next :: rest)
      else if character = '\\' then
        (readEscaped rest).map fun (text, after) => (next :: text, after)
      else
        (readEscaped (next :: rest)).map fun (text, after) => (character :: text, after)

def readQuoted : List Char → Option (List Char × List Char)
  | [] => none
  | character :: rest => if character = '"' then readEscaped rest else none

theorem readEscaped_close (after : List Char) : readEscaped ('"' :: after) = some ([], after) := by
  cases after with
  | nil => rfl
  | cons next rest => simp [readEscaped]

theorem readEscaped_plain {character : Char} (notQuote : character ≠ '"')
    (notBackslash : character ≠ '\\') {rest text after : List Char}
    (read : readEscaped rest = some (text, after)) :
    readEscaped (character :: rest) = some (character :: text, after) := by
  cases rest with
  | nil => cases read
  | cons next rest =>
      simp only [readEscaped, if_neg notQuote, if_neg notBackslash, read, Option.map_some]

theorem readEscaped_escape (text after : List Char) :
    readEscaped (text.flatMap escapeChar ++ '"' :: after) = some (text, after) := by
  induction text with
  | nil => exact readEscaped_close after
  | cons character rest ih =>
      rw [List.flatMap_cons, List.append_assoc]
      by_cases special : character = '"' ∨ character = '\\'
      · simp only [escapeChar, if_pos special, List.cons_append, List.nil_append, readEscaped,
          ih, Option.map_some]
        simp
      · simp only [escapeChar, if_neg special, List.cons_append, List.nil_append]
        exact readEscaped_plain (fun same => special (Or.inl same))
          (fun same => special (Or.inr same)) ih

theorem readQuoted_quoted (text after : List Char) :
    readQuoted (quoted text ++ after) = some (text, after) := by
  unfold quoted readQuoted
  simp only [List.cons_append, List.append_assoc, List.nil_append, if_true]
  exact readEscaped_escape text after

/-- Drop an expected piece of text. -/
def expect (piece input : List Char) : Option (List Char) :=
  if piece.isPrefixOf input then some (input.drop piece.length) else none

theorem expect_append (piece after : List Char) : expect piece (piece ++ after) = some after := by
  have matches' : piece.isPrefixOf (piece ++ after) = true :=
    List.isPrefixOf_iff_prefix.mpr (List.prefix_append piece after)
  simp only [expect, matches', if_true, List.drop_left]

def readNat (input : List Char) : Option (Nat × List Char) :=
  let digits := input.takeWhile Char.isDigit
  if digits = [] then none
  else some (Nat.ofDigitChars 10 digits 0, input.dropWhile Char.isDigit)

theorem readNat_repr (value : Nat) {after : List Char}
    (ended : ∀ character, after.head? = some character → character.isDigit = false) :
    readNat (value.repr.toList ++ after) = some (value, after) := by
  have digits : ∀ character ∈ value.repr.toList, character.isDigit = true := by
    intro character member
    rw [Nat.toList_repr] at member
    exact Nat.isDigit_of_mem_toDigits (by decide) (by decide) member
  have stop : after.takeWhile Char.isDigit = [] ∧ after.dropWhile Char.isDigit = after := by
    cases after with
    | nil => exact ⟨rfl, rfl⟩
    | cons character rest =>
        have notDigit := ended character rfl
        simp [notDigit]
  unfold readNat
  rw [List.takeWhile_append_of_pos digits, List.dropWhile_append_of_pos digits, stop.1, stop.2,
    List.append_nil, Nat.toList_repr, if_neg Nat.toDigits_ne_nil, Nat.ofDigitChars_ten_toDigits]

end ServiceNetwork.Quoting
