/-
Rust-level vocabulary of the two programs.

A function that may panic returns `Except Panic`.  Machine integers keep their
width.  Arithmetic that overflows panics in a debug build and wraps in a
release build, so the increments take the build profile as an argument.
-/

import Mathlib.Data.List.Basic
import Mathlib.Tactic.Common

namespace ServiceNetwork

inductive Panic where
  | unwrapNone
  | arithmeticOverflow
  | message (text : String)
  deriving DecidableEq, Repr

def unwrap {Value : Type} : Option Value → Except Panic Value
  | some value => .ok value
  | none => .error .unwrapNone

@[simp] theorem unwrap_some {Value : Type} (value : Value) : unwrap (some value) = .ok value := rfl

@[simp] theorem unwrap_none {Value : Type} :
    unwrap (none : Option Value) = .error .unwrapNone := rfl

theorem unwrap_eq_ok {Value : Type} (option : Option Value) (value : Value) :
    unwrap option = .ok value ↔ option = some value := by
  cases option <;> simp

theorem bind_eq_ok {First Second : Type} {call : Except Panic First}
    {rest : First → Except Panic Second} {result : Second} :
    (call >>= rest) = .ok result ↔ ∃ value, call = .ok value ∧ rest value = .ok result := by
  cases call with
  | error panic =>
      constructor
      · intro impossible
        cases impossible
      · rintro ⟨value, impossible, _⟩
        cases impossible
  | ok value =>
      constructor
      · intro returned
        exact ⟨value, rfl, returned⟩
      · rintro ⟨other, same, returned⟩
        cases same
        exact returned

inductive BuildProfile where
  | debug
  | release
  deriving DecidableEq, Repr

/-- `count += 1` on a `u8`. -/
def u8AddOne (profile : BuildProfile) (count : UInt8) : Except Panic UInt8 :=
  match profile with
  | .debug => if count = 255 then .error .arithmeticOverflow else .ok (count + 1)
  | .release => .ok (count + 1)

theorem u8AddOne_of_lt (profile : BuildProfile) {count : UInt8} (below : count.toNat < 255) :
    u8AddOne profile count = .ok (count + 1) := by
  cases profile with
  | release => rfl
  | debug =>
      have notFull : count ≠ 255 := by
        intro full
        rw [full] at below
        exact absurd below (by decide)
      simp only [u8AddOne, if_neg notFull]

/-- `str::split` on one character. -/
def splitChar (separator : Char) (text : String) : List String :=
  (text.toList.splitOn separator).map String.ofList

theorem splitChar_of_absent {separator : Char} {text : String} (absent : separator ∉ text.toList) :
    splitChar separator text = [text] := by
  unfold splitChar
  rw [List.splitOn_eq_singleton absent, List.map_singleton, String.ofList_toList]

theorem splitChar_append {separator : Char} {first : String} (absent : separator ∉ first.toList)
    (rest : String) :
    splitChar separator (first ++ String.singleton separator ++ rest) =
      first :: splitChar separator rest := by
  unfold splitChar
  rw [String.toList_append, String.toList_append, String.toList_singleton, List.append_assoc,
    List.singleton_append, List.splitOn_append_cons_self_of_not_mem absent, List.map_cons,
    String.ofList_toList]

theorem splitChar_ne_nil (separator : Char) (text : String) : splitChar separator text ≠ [] := by
  unfold splitChar
  rw [ne_eq, List.map_eq_nil_iff]
  exact List.splitOn_ne_nil separator text.toList

/-- A text with the separator in it, cut at the first one. -/
theorem exists_cut {separator : Char} {text : String} (present : separator ∈ text.toList) :
    ∃ first rest, text = first ++ String.singleton separator ++ rest ∧
      separator ∉ first.toList := by
  obtain ⟨first, rest, split, absent⟩ := List.eq_append_cons_of_mem present
  refine ⟨String.ofList first, String.ofList rest, ?_, ?_⟩
  · apply String.toList_inj.mp
    simp [split]
  · rw [String.toList_ofList]
    exact absent

theorem splitChar_head {separator : Char} {text first : String} {pieces : List String}
    (split : splitChar separator text = first :: pieces) : first.toList <+: text.toList := by
  by_cases present : separator ∈ text.toList
  · obtain ⟨cut, rest, rfl, absent⟩ := exists_cut present
    rw [splitChar_append absent] at split
    cases split
    exact ⟨(String.singleton separator ++ rest).toList, by simp⟩
  · rw [splitChar_of_absent present] at split
    cases split
    exact List.prefix_rfl

/-- The `White_Space` characters that `str::trim` removes. -/
def isWhiteSpace (character : Char) : Bool :=
  let code := character.toNat
  (0x09 ≤ code && code ≤ 0x0D) || code == 0x20 || code == 0x85 || code == 0xA0 ||
    code == 0x1680 || (0x2000 ≤ code && code ≤ 0x200A) || code == 0x2028 || code == 0x2029 ||
    code == 0x202F || code == 0x205F || code == 0x3000

/-- `str::trim`. -/
def trim (text : String) : String :=
  String.ofList
    ((text.toList.dropWhile isWhiteSpace).reverse.dropWhile isWhiteSpace).reverse

theorem dropWhile_of_plain {text : List Char}
    (plain : ∀ character ∈ text, isWhiteSpace character = false) :
    text.dropWhile isWhiteSpace = text := by
  cases text with
  | nil => rfl
  | cons first rest =>
      have first := plain first List.mem_cons_self
      exact List.dropWhile_cons_of_neg (by rw [first]; exact Bool.false_ne_true)

theorem trim_of_plain {text : String}
    (plain : ∀ character ∈ text.toList, isWhiteSpace character = false) : trim text = text := by
  unfold trim
  rw [dropWhile_of_plain plain, dropWhile_of_plain, List.reverse_reverse, String.ofList_toList]
  intro character member
  exact plain character (List.mem_reverse.mp member)

/-- `str::rsplit_once` on one character. -/
def rsplitOnce (separator : Char) (text : String) : Option (String × String) :=
  let back := text.toList.reverse
  match back.dropWhile (· != separator) with
  | [] => none
  | _ :: front =>
      some (String.ofList front.reverse,
        String.ofList (back.takeWhile (· != separator)).reverse)

theorem rsplitOnce_eq_some {separator : Char} {text front last : String}
    (split : rsplitOnce separator text = some (front, last)) :
    text = front ++ String.singleton separator ++ last := by
  cases dropped : text.toList.reverse.dropWhile (· != separator) with
  | nil =>
      simp only [rsplitOnce, dropped] at split
      cases split
  | cons found rest =>
      simp only [rsplitOnce, dropped] at split
      cases split
      have nonempty : text.toList.reverse.dropWhile (· != separator) ≠ [] := by
        rw [dropped]
        exact List.cons_ne_nil found rest
      have atSeparator := List.head_dropWhile_not (· != separator) nonempty
      simp only [dropped, List.head_cons, bne_eq_false_iff_eq] at atSeparator
      have whole : text.toList.reverse.takeWhile (· != separator) ++
          text.toList.reverse.dropWhile (· != separator) = text.toList.reverse :=
        List.takeWhile_append_dropWhile
      rw [dropped, atSeparator] at whole
      have front := congrArg List.reverse whole
      rw [List.reverse_append, List.reverse_cons, List.reverse_reverse] at front
      apply String.toList_inj.mp
      rw [String.toList_append, String.toList_append, String.toList_singleton,
        String.toList_ofList, String.toList_ofList]
      exact front.symm

/-- The two components of `urlparse::Url` that the programs read. -/
structure Uri where
  hostname : Option String
  port : Option UInt16
  deriving DecidableEq, Repr

structure Ipv4Addr where
  a : UInt8
  b : UInt8
  c : UInt8
  d : UInt8
  deriving DecidableEq, Repr

def Ipv4Addr.toString (addr : Ipv4Addr) : String :=
  s!"{addr.a}.{addr.b}.{addr.c}.{addr.d}"

abbrev Bytes := List UInt8

/-- `str::as_bytes`. -/
def asBytes (text : String) : Bytes :=
  text.toByteArray.data.toList

/-- `String::from_utf8`. -/
def fromUtf8 (bytes : Bytes) : Option String :=
  String.fromUTF8? ⟨bytes.toArray⟩

theorem asBytes_append (first second : String) :
    asBytes (first ++ second) = asBytes first ++ asBytes second := by
  simp [asBytes]

theorem fromUtf8_asBytes (text : String) : fromUtf8 (asBytes text) = some text := by
  have same : (⟨text.toByteArray.data.toList.toArray⟩ : ByteArray) = text.toByteArray := by simp
  unfold fromUtf8 asBytes String.fromUTF8?
  rw [same, dif_pos text.isValidUTF8]
  rfl

theorem asBytes_of_fromUtf8 {bytes : Bytes} {text : String} (read : fromUtf8 bytes = some text) :
    asBytes text = bytes := by
  unfold fromUtf8 String.fromUTF8? at read
  split at read
  · cases read
    simp [asBytes, String.fromUTF8]
  · cases read

theorem asBytes_injective {first second : String} (same : asBytes first = asBytes second) :
    first = second := by
  have read := fromUtf8_asBytes first
  rw [same, fromUtf8_asBytes] at read
  exact (Option.some.inj read).symm

end ServiceNetwork
