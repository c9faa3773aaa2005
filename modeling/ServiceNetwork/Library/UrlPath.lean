/-
The path of a URL, from the text behind the authority's slash to the decoded
name of a single segment.

The parser of special schemes trims the end of the text, drops tabs and line
breaks, cuts off query and fragment, splits at either slash, removes dot
segments and percent-encodes what is left.  Texts are lists of bytes; nothing
is said about hosts.
-/

import Mathlib.Data.List.DropRight
import Mathlib.Tactic.Common

namespace ServiceNetwork.UrlPath

/-! ### Percent escapes -/

def hexDigit (value : UInt8) : UInt8 :=
  if value < 10 then 0x30 + value else 0x37 + value

def hexValue (byte : UInt8) : Option UInt8 :=
  if 0x30 ≤ byte ∧ byte ≤ 0x39 then some (byte - 0x30)
  else if 0x41 ≤ byte ∧ byte ≤ 0x46 then some (byte - 0x37)
  else if 0x61 ≤ byte ∧ byte ≤ 0x66 then some (byte - 0x57)
  else none

/-- The byte that three bytes stand for as an escape. -/
def escaped (first high low : UInt8) : Option UInt8 :=
  if first = 0x25 then
    match hexValue high, hexValue low with
    | some high, some low => some (high * 16 + low)
    | _, _ => none
  else none

def percentDecode : List UInt8 → List UInt8
  | first :: high :: low :: rest =>
      match escaped first high low with
      | some byte => byte :: percentDecode rest
      | none => first :: percentDecode (high :: low :: rest)
  | short => short

/-- The bytes that a path percent-encodes. -/
def inPathSet (byte : UInt8) : Bool :=
  byte ≤ 0x20 || 0x7E < byte || byte == 0x22 || byte == 0x23 || byte == 0x3C || byte == 0x3E ||
    byte == 0x3F || byte == 0x60 || byte == 0x7B || byte == 0x7D

def encodeByte (byte : UInt8) : List UInt8 :=
  if inPathSet byte then [0x25, hexDigit (byte / 16), hexDigit (byte % 16)] else [byte]

def percentEncode (segment : List UInt8) : List UInt8 :=
  segment.flatMap encodeByte

theorem hexValue_not_inPathSet {byte value : UInt8} (hex : hexValue byte = some value) :
    inPathSet byte = false := by
  unfold hexValue at hex
  unfold inPathSet
  have bounds : (0x30 ≤ byte ∧ byte ≤ 0x39) ∨ (0x41 ≤ byte ∧ byte ≤ 0x46) ∨
      (0x61 ≤ byte ∧ byte ≤ 0x66) := by
    split at hex
    · exact Or.inl ‹_›
    · split at hex
      · exact Or.inr (Or.inl ‹_›)
      · split at hex
        · exact Or.inr (Or.inr ‹_›)
        · cases hex
  simp only [UInt8.le_iff_toNat_le, UInt8.lt_iff_toNat_lt, Bool.or_eq_false_iff,
    decide_eq_false_iff_not, beq_eq_false_iff_ne, ne_eq, ← UInt8.toNat_inj] at bounds ⊢
  simp at bounds ⊢
  omega

theorem hexValue_hexDigit (value : UInt8) (small : value < 16) :
    hexValue (hexDigit value) = some value := by
  have all : ∀ digit : Fin 16,
      hexValue (hexDigit (UInt8.ofNat digit)) = some (UInt8.ofNat digit) := by
    decide
  have bound : value.toNat < 16 := UInt8.lt_iff_toNat_lt.mp small
  have here := all ⟨value.toNat, bound⟩
  simpa using here

theorem digits_small (byte : UInt8) : byte / 16 < 16 ∧ byte % 16 < 16 := by
  rw [UInt8.lt_iff_toNat_lt, UInt8.lt_iff_toNat_lt, UInt8.toNat_div, UInt8.toNat_mod]
  have bound := byte.toNat_lt
  simp
  omega

theorem escaped_encodeByte (byte : UInt8) :
    escaped 0x25 (hexDigit (byte / 16)) (hexDigit (byte % 16)) = some byte := by
  obtain ⟨high, low⟩ := digits_small byte
  unfold escaped
  rw [if_pos rfl, hexValue_hexDigit _ high, hexValue_hexDigit _ low]
  simp only [Option.some.injEq]
  apply UInt8.toNat_inj.mp
  rw [UInt8.toNat_add, UInt8.toNat_mul, UInt8.toNat_div, UInt8.toNat_mod]
  have bound := byte.toNat_lt
  simp
  omega

theorem escaped_eq_some {first high low byte : UInt8} (read : escaped first high low = some byte) :
    first = 0x25 ∧ (hexValue high).isSome ∧ (hexValue low).isSome := by
  unfold escaped at read
  by_cases percent : first = 0x25
  · rw [if_pos percent] at read
    cases highValue : hexValue high with
    | none =>
        rw [highValue] at read
        cases read
    | some _ =>
        cases lowValue : hexValue low with
        | none =>
            rw [highValue, lowValue] at read
            cases read
        | some _ => exact ⟨percent, rfl, rfl⟩
  · rw [if_neg percent] at read
    cases read

theorem escaped_isSome {high low : UInt8} (highHex : (hexValue high).isSome)
    (lowHex : (hexValue low).isSome) : (escaped 0x25 high low).isSome := by
  obtain ⟨highValue, highAt⟩ := Option.isSome_iff_exists.mp highHex
  obtain ⟨lowValue, lowAt⟩ := Option.isSome_iff_exists.mp lowHex
  unfold escaped
  rw [if_pos rfl, highAt, lowAt]
  rfl

theorem percentDecode_escape {first high low byte : UInt8} {rest : List UInt8}
    (read : escaped first high low = some byte) :
    percentDecode (first :: high :: low :: rest) = byte :: percentDecode rest := by
  simp only [percentDecode, read]

theorem percentDecode_plain {first : UInt8} {rest : List UInt8}
    (plain : ∀ high low after, rest = high :: low :: after → escaped first high low = none) :
    percentDecode (first :: rest) = first :: percentDecode rest := by
  match rest with
  | [] => rfl
  | [_] => rfl
  | high :: low :: after => simp only [percentDecode, plain high low after rfl]

theorem percentEncode_cons (byte : UInt8) (rest : List UInt8) :
    percentEncode (byte :: rest) = encodeByte byte ++ percentEncode rest :=
  List.flatMap_cons

theorem percentEncode_kept {byte : UInt8} (kept : inPathSet byte = false) (rest : List UInt8) :
    percentEncode (byte :: rest) = byte :: percentEncode rest := by
  rw [percentEncode_cons]
  unfold encodeByte
  rw [kept]
  rfl

theorem percentDecode_encoded {byte : UInt8} (encoded : inPathSet byte = true)
    (rest : List UInt8) :
    percentDecode (percentEncode (byte :: rest)) = byte :: percentDecode (percentEncode rest) := by
  rw [percentEncode_cons]
  unfold encodeByte
  rw [encoded]
  exact percentDecode_escape (escaped_encodeByte byte)

/-- The encoding of a text begins with a hexadecimal digit only if the text
does. -/
theorem percentEncode_head_hex {segment rest : List UInt8} {byte : UInt8}
    (head : percentEncode segment = byte :: rest) (hex : (hexValue byte).isSome) :
    ∃ after, segment = byte :: after ∧ rest = percentEncode after := by
  cases segment with
  | nil => cases head
  | cons first after =>
      cases encoded : inPathSet first with
      | true =>
          rw [percentEncode_cons] at head
          unfold encodeByte at head
          rw [encoded] at head
          cases head
          exact absurd hex (by decide)
      | false =>
          rw [percentEncode_kept encoded] at head
          cases head
          exact ⟨after, rfl, rfl⟩

/-- A kept byte that starts no escape starts none in the encoding either. -/
theorem percentDecode_kept {first : UInt8} {rest : List UInt8} (kept : inPathSet first = false)
    (plain : ∀ high low after, rest = high :: low :: after → escaped first high low = none) :
    percentDecode (percentEncode (first :: rest)) =
      first :: percentDecode (percentEncode rest) := by
  rw [percentEncode_kept kept]
  apply percentDecode_plain
  intro high low after encodedRest
  by_contra escape
  obtain ⟨byte, read⟩ := Option.ne_none_iff_exists'.mp escape
  obtain ⟨_, highHex, lowHex⟩ := escaped_eq_some read
  obtain ⟨afterHigh, rfl, encodedHigh⟩ := percentEncode_head_hex encodedRest highHex
  obtain ⟨afterLow, rfl, _⟩ := percentEncode_head_hex encodedHigh.symm lowHex
  rw [plain high low afterLow rfl] at read
  cases read

theorem percentDecode_percentEncode (segment : List UInt8) :
    percentDecode (percentEncode segment) = percentDecode segment := by
  have step (first : UInt8) (rest : List UInt8)
      (plain : ∀ high low after, rest = high :: low :: after → escaped first high low = none)
      (ih : percentDecode (percentEncode rest) = percentDecode rest) :
      percentDecode (percentEncode (first :: rest)) = percentDecode (first :: rest) := by
    rw [percentDecode_plain plain, ← ih]
    cases encoded : inPathSet first with
    | true => exact percentDecode_encoded encoded rest
    | false => exact percentDecode_kept encoded plain
  induction segment using percentDecode.induct with
  | case1 first high low rest byte read ih =>
      obtain ⟨rfl, highHex, lowHex⟩ := escaped_eq_some read
      obtain ⟨_, highAt⟩ := Option.isSome_iff_exists.mp highHex
      obtain ⟨_, lowAt⟩ := Option.isSome_iff_exists.mp lowHex
      have kept : inPathSet 0x25 = false := by decide
      rw [percentEncode_kept kept, percentEncode_kept (hexValue_not_inPathSet highAt),
        percentEncode_kept (hexValue_not_inPathSet lowAt), percentDecode_escape read,
        percentDecode_escape read, ih]
  | case2 first high low rest refused ih =>
      apply step first (high :: low :: rest) _ ih
      intro other otherLow after same
      cases same
      exact refused
  | case3 short other =>
      match short with
      | [] => rfl
      | [first] => exact step first [] (by simp) rfl
      | [first, second] =>
          exact step first [second] (by simp) (step second [] (by simp) rfl)
      | first :: high :: low :: rest => exact absurd rfl (other first high low rest)

/-! ### Texts without escapes -/

/-- No escape is anywhere in the text. -/
def NoEscape (text : List UInt8) : Prop :=
  ∀ before high low after, text = before ++ 0x25 :: high :: low :: after →
    hexValue high = none ∨ hexValue low = none

theorem percentDecode_length_le (text : List UInt8) :
    (percentDecode text).length ≤ text.length := by
  induction text using percentDecode.induct with
  | case1 first high low rest byte read ih =>
      rw [percentDecode_escape read]
      simp only [List.length_cons]
      omega
  | case2 first high low rest refused ih =>
      simp only [percentDecode, refused, List.length_cons] at ih ⊢
      omega
  | case3 short other => simp [percentDecode]

/-- Decoding keeps the length of a text exactly when it has no escape. -/
theorem noEscape_of_length {text : List UInt8}
    (same : (percentDecode text).length = text.length) : NoEscape text := by
  induction text using percentDecode.induct with
  | case1 first high low rest byte read ih =>
      rw [percentDecode_escape read] at same
      have shorter := percentDecode_length_le rest
      simp only [List.length_cons] at same
      omega
  | case2 first high low rest refused ih =>
      simp only [percentDecode, refused, List.length_cons] at same ih
      intro before high' low' after split
      cases before with
      | nil =>
          cases split
          by_contra both
          rw [not_or] at both
          have escape := escaped_isSome (Option.isSome_iff_ne_none.mpr both.1)
            (Option.isSome_iff_ne_none.mpr both.2)
          rw [refused] at escape
          cases escape
      | cons byte before =>
          exact ih (by omega) before high' low' after (List.cons.inj split).2
  | case3 short other =>
      intro before high low after split
      match before with
      | [] => exact (other _ _ _ _ split).elim
      | [_] => exact (other _ _ _ _ split).elim
      | [_, _] => exact (other _ _ _ _ split).elim
      | _ :: _ :: _ :: _ => exact (other _ _ _ _ split).elim

theorem NoEscape.tail {first : UInt8} {rest : List UInt8} (plain : NoEscape (first :: rest)) :
    NoEscape rest := by
  intro before high low after split
  exact plain (first :: before) high low after (by rw [split]; rfl)

theorem percentDecode_of_noEscape {text : List UInt8} (plain : NoEscape text) :
    percentDecode text = text := by
  induction text with
  | nil => rfl
  | cons first rest ih =>
      rw [percentDecode_plain, ih plain.tail]
      intro high low after same
      by_contra escape
      obtain ⟨byte, read⟩ := Option.ne_none_iff_exists'.mp escape
      obtain ⟨rfl, highHex, lowHex⟩ := escaped_eq_some read
      rcases plain [] high low after (by rw [same]; rfl) with none | none
      · rw [none] at highHex
        cases highHex
      · rw [none] at lowHex
        cases lowHex

/-! ### From the text to its segments -/

def isTabOrNewline (byte : UInt8) : Bool :=
  byte == 0x09 || byte == 0x0A || byte == 0x0D

/-- Special schemes take the backslash for a slash. -/
def isSlash (byte : UInt8) : Bool :=
  byte == 0x2F || byte == 0x5C

/-- The query or the fragment starts here. -/
def endsPath (byte : UInt8) : Bool :=
  byte == 0x3F || byte == 0x23

/-- The end of the input loses its control characters and spaces, and all of it
its tabs and line breaks. -/
def cleaned (text : List UInt8) : List UInt8 :=
  (text.rdropWhile fun byte => byte ≤ 0x20).filter fun byte => !isTabOrNewline byte

def pathText (text : List UInt8) : List UInt8 :=
  (cleaned text).takeWhile fun byte => !endsPath byte

def toLower (byte : UInt8) : UInt8 :=
  if 0x41 ≤ byte ∧ byte ≤ 0x5A then byte + 0x20 else byte

/-- `.` and `%2e`. -/
def isSingleDot (segment : List UInt8) : Bool :=
  [[0x2E], [0x25, 0x32, 0x65]].contains (segment.map toLower)

/-- `..`, with either dot escaped or not. -/
def isDoubleDot (segment : List UInt8) : Bool :=
  [[0x2E, 0x2E], [0x2E, 0x25, 0x32, 0x65], [0x25, 0x32, 0x65, 0x2E],
    [0x25, 0x32, 0x65, 0x25, 0x32, 0x65]].contains (segment.map toLower)

/-- Add the segments to a path one by one; dot segments add nothing, but that a
last one leaves the path open. -/
def addSegments : List (List UInt8) → List (List UInt8) → List (List UInt8)
  | path, [] => path
  | path, [last] =>
      if isDoubleDot last then path.dropLast ++ [[]]
      else if isSingleDot last then path ++ [[]]
      else path ++ [percentEncode last]
  | path, segment :: rest =>
      if isDoubleDot segment then addSegments path.dropLast rest
      else if isSingleDot segment then addSegments path rest
      else addSegments (path ++ [percentEncode segment]) rest

def pathSegments (text : List UInt8) : List (List UInt8) :=
  addSegments [] ((pathText text).splitOnP isSlash)

/-- The path as it is sent. -/
def pathBytes (text : List UInt8) : List UInt8 :=
  (pathSegments text).flatMap fun segment => 0x2F :: segment

/-- The segment that a route of one segment matches. -/
def singleSegment : List UInt8 → Option (List UInt8)
  | [] => none
  | slash :: segment =>
      if slash = 0x2F ∧ segment ≠ [] ∧ 0x2F ∉ segment then some segment else none

/-- Where a router redirects a path that such a route would match but for a
slash at its end. -/
def withoutSlash (path : List UInt8) : Option (List UInt8) :=
  if path.getLast? = some 0x2F ∧ (singleSegment path.dropLast).isSome then some path.dropLast
  else none

/-- The path that is asked for in the end, by a client that follows redirects. -/
def followed (path : List UInt8) : List UInt8 :=
  (withoutSlash path).getD path

/-- The decoded name that the path of the text gives to such a route. -/
def segmentName (text : List UInt8) : Option (List UInt8) :=
  (singleSegment (followed (pathBytes text))).map percentDecode

/-! ### Which names come through unchanged -/

theorem mem_splitOnP {separates : UInt8 → Bool} {text piece : List UInt8}
    (member : piece ∈ text.splitOnP separates) :
    piece.Sublist text ∧ ∀ byte ∈ piece, separates byte = false := by
  induction text generalizing piece with
  | nil =>
      rw [List.splitOnP_nil] at member
      rw [List.mem_singleton.mp member]
      exact ⟨List.Sublist.refl _, by simp⟩
  | cons first rest ih =>
      rw [List.splitOnP_cons_eq_if_modifyHead] at member
      cases separator : separates first with
      | true =>
          rw [if_pos separator] at member
          rcases List.mem_cons.mp member with rfl | later
          · exact ⟨List.nil_sublist _, by simp⟩
          · exact ⟨(ih later).1.cons first, (ih later).2⟩
      | false =>
          rw [if_neg (by simp [separator])] at member
          cases pieces : rest.splitOnP separates with
          | nil => exact absurd pieces (List.splitOnP_ne_nil _ _)
          | cons head others =>
              rw [pieces] at member ih
              rcases List.mem_cons.mp member with rfl | later
              · obtain ⟨within, kept⟩ := ih List.mem_cons_self
                refine ⟨within.cons_cons first, ?_⟩
                intro byte inPiece
                rcases List.mem_cons.mp inPiece with rfl | inHead
                · exact separator
                · exact kept byte inHead
              · obtain ⟨within, kept⟩ := ih (List.mem_cons_of_mem _ later)
                exact ⟨within.cons first, kept⟩

/-- A path holds what it held, encoded segments, and the empty segment. -/
theorem mem_addSegments {path segments : List (List UInt8)} {piece : List UInt8}
    (member : piece ∈ addSegments path segments) :
    piece = [] ∨ piece ∈ path ∨ ∃ segment ∈ segments, piece = percentEncode segment := by
  induction path, segments using addSegments.induct with
  | case1 path => exact Or.inr (Or.inl member)
  | case2 path last doubleDot =>
      simp only [addSegments, doubleDot, if_true] at member
      rcases List.mem_append.mp member with kept | opened
      · exact Or.inr (Or.inl (List.dropLast_subset _ kept))
      · exact Or.inl (List.mem_singleton.mp opened)
  | case3 path last notDouble singleDot =>
      simp only [addSegments, notDouble, singleDot, if_true, if_false, Bool.false_eq_true]
        at member
      rcases List.mem_append.mp member with kept | opened
      · exact Or.inr (Or.inl kept)
      · exact Or.inl (List.mem_singleton.mp opened)
  | case4 path last notDouble notSingle =>
      simp only [addSegments, notDouble, notSingle, if_false, Bool.false_eq_true] at member
      rcases List.mem_append.mp member with kept | added
      · exact Or.inr (Or.inl kept)
      · exact Or.inr (Or.inr ⟨last, List.mem_cons_self, List.mem_singleton.mp added⟩)
  | case5 path segment rest more doubleDot ih =>
      simp only [addSegments, doubleDot, if_true] at member
      rcases ih member with empty | kept | ⟨other, inRest, same⟩
      · exact Or.inl empty
      · exact Or.inr (Or.inl (List.dropLast_subset _ kept))
      · exact Or.inr (Or.inr ⟨other, List.mem_cons_of_mem _ inRest, same⟩)
  | case6 path segment rest more notDouble singleDot ih =>
      simp only [addSegments, notDouble, singleDot, if_true, if_false, Bool.false_eq_true]
        at member
      rcases ih member with empty | kept | ⟨other, inRest, same⟩
      · exact Or.inl empty
      · exact Or.inr (Or.inl kept)
      · exact Or.inr (Or.inr ⟨other, List.mem_cons_of_mem _ inRest, same⟩)
  | case7 path segment rest more notDouble notSingle ih =>
      simp only [addSegments, notDouble, notSingle, if_false, Bool.false_eq_true] at member
      rcases ih member with empty | kept | ⟨other, inRest, same⟩
      · exact Or.inl empty
      · rcases List.mem_append.mp kept with inPath | added
        · exact Or.inr (Or.inl inPath)
        · exact Or.inr (Or.inr ⟨segment, List.mem_cons_self, List.mem_singleton.mp added⟩)
      · exact Or.inr (Or.inr ⟨other, List.mem_cons_of_mem _ inRest, same⟩)

theorem singleSegment_eq_some {path segment : List UInt8} :
    singleSegment path = some segment ↔
      path = 0x2F :: segment ∧ segment ≠ [] ∧ 0x2F ∉ segment := by
  cases path with
  | nil => exact iff_of_false nofun nofun
  | cons slash rest =>
      unfold singleSegment
      rw [Option.ite_none_right_eq_some]
      constructor
      · rintro ⟨⟨rfl, nonempty, noSlash⟩, same⟩
        cases same
        exact ⟨rfl, nonempty, noSlash⟩
      · rintro ⟨same, nonempty, noSlash⟩
        cases same
        exact ⟨⟨rfl, nonempty, noSlash⟩, rfl⟩

/-- A path that is matched in the end is one segment, and perhaps a slash. -/
theorem singleSegment_followed {path segment : List UInt8}
    (matched : singleSegment (followed path) = some segment) :
    (path = 0x2F :: segment ∨ path = 0x2F :: (segment ++ [0x2F])) ∧ segment ≠ [] ∧
      0x2F ∉ segment := by
  unfold followed withoutSlash at matched
  split at matched
  · rename_i conditions
    obtain ⟨short, nonempty, noSlash⟩ := singleSegment_eq_some.mp matched
    refine ⟨Or.inr ?_, nonempty, noSlash⟩
    rw [← List.dropLast_append_getLast? _ conditions.1]
    change path.dropLast = _ at short
    rw [short]
    rfl
  · obtain ⟨whole, nonempty, noSlash⟩ := singleSegment_eq_some.mp matched
    exact ⟨Or.inl whole, nonempty, noSlash⟩

theorem takeWhile_slash {piece rest : List UInt8} (plain : 0x2F ∉ piece)
    (begins : ∀ byte, rest.head? = some byte → byte = 0x2F) :
    ((piece ++ rest).takeWhile fun byte => byte != 0x2F) = piece := by
  have within : ∀ byte ∈ piece, (byte != 0x2F) = true := by
    intro byte member
    rw [bne_iff_ne]
    rintro rfl
    exact plain member
  rw [List.takeWhile_append_of_pos within]
  cases rest with
  | nil => simp
  | cons byte rest =>
      rw [begins byte rfl]
      simp

/-- The first of a path's segments is what is between its first two slashes. -/
theorem first_of_path {segments : List (List UInt8)} {segment rest : List UInt8}
    (noSlash : ∀ piece ∈ segments, 0x2F ∉ piece) (plain : 0x2F ∉ segment)
    (begins : ∀ byte, rest.head? = some byte → byte = 0x2F)
    (path : (segments.flatMap fun piece => 0x2F :: piece) = 0x2F :: (segment ++ rest)) :
    segment ∈ segments := by
  cases segments with
  | nil => cases path
  | cons first others =>
      rw [List.flatMap_cons, List.cons_append] at path
      have same := (List.cons.inj path).2
      have othersBegin : ∀ byte,
          (others.flatMap fun piece => 0x2F :: piece).head? = some byte → byte = 0x2F := by
        intro byte head
        cases others with
        | nil => cases head
        | cons second others =>
            rw [List.flatMap_cons, List.cons_append, List.head?_cons] at head
            exact (Option.some.inj head).symm
      have firstIs := takeWhile_slash (noSlash first List.mem_cons_self) othersBegin
      rw [same, takeWhile_slash plain begins] at firstIs
      rw [firstIs]
      exact List.mem_cons_self

theorem percentEncode_noSlash {segment : List UInt8} (plain : 0x2F ∉ segment) :
    0x2F ∉ percentEncode segment := by
  have digit : ∀ value : UInt8, value < 16 → hexDigit value ≠ 0x2F := by
    intro value small same
    have back := hexValue_hexDigit value small
    rw [same] at back
    cases back
  intro member
  obtain ⟨byte, inSegment, encoded⟩ := List.mem_flatMap.mp member
  unfold encodeByte at encoded
  split at encoded
  · obtain ⟨high, low⟩ := digits_small byte
    rcases List.mem_cons.mp encoded with percent | encoded
    · cases percent
    · rcases List.mem_cons.mp encoded with first | encoded
      · exact digit _ high first.symm
      · exact digit _ low (List.mem_singleton.mp encoded).symm
  · rw [List.mem_singleton.mp encoded] at plain
    exact plain inSegment

theorem pathSegments_noSlash {text segment : List UInt8} (member : segment ∈ pathSegments text) :
    0x2F ∉ segment := by
  rcases mem_addSegments member with rfl | impossible | ⟨piece, inText, rfl⟩
  · exact List.not_mem_nil
  · cases impossible
  · apply percentEncode_noSlash
    intro slash
    have apart := (mem_splitOnP inText).2 _ slash
    cases apart

theorem singleSegment_pathBytes {text segment : List UInt8}
    (matched : singleSegment (followed (pathBytes text)) = some segment) :
    segment ∈ pathSegments text ∧ segment ≠ [] := by
  obtain ⟨path, nonempty, plain⟩ := singleSegment_followed matched
  refine ⟨?_, nonempty⟩
  rcases path with whole | slashed
  · rw [← List.append_nil segment] at whole
    exact first_of_path (fun _ => pathSegments_noSlash) plain (by simp) whole
  · exact first_of_path (fun _ => pathSegments_noSlash) plain (by simp) slashed

/-- A name that is routed is the decoding of one piece of the text. -/
theorem segmentName_piece {text name : List UInt8} (routed : segmentName text = some name) :
    ∃ piece ∈ (pathText text).splitOnP isSlash, name = percentDecode piece := by
  obtain ⟨segment, matched, rfl⟩ := Option.map_eq_some_iff.mp routed
  obtain ⟨member, nonempty⟩ := singleSegment_pathBytes matched
  rcases mem_addSegments member with empty | impossible | ⟨piece, inText, rfl⟩
  · exact absurd empty nonempty
  · cases impossible
  · exact ⟨piece, inText, percentDecode_percentEncode piece⟩

/-- Nothing in the text means something else in a URL. -/
structure Verbatim (text : List UInt8) : Prop where
  noBreak : ∀ byte ∈ text, isTabOrNewline byte = false
  noSlash : ∀ byte ∈ text, isSlash byte = false
  noEnd : ∀ byte ∈ text, endsPath byte = false
  last : ∀ byte, text.getLast? = some byte → 0x20 < byte
  noEscape : NoEscape text

theorem Verbatim.pathText_eq {text : List UInt8} (verbatim : Verbatim text) :
    pathText text = text := by
  have untrimmed : (text.rdropWhile fun byte => byte ≤ 0x20) = text := by
    rw [List.rdropWhile_eq_self_iff]
    intro nonempty small
    have above := verbatim.last _ (List.getLast?_eq_some_getLast nonempty)
    rw [decide_eq_true_eq, UInt8.le_iff_toNat_le] at small
    rw [UInt8.lt_iff_toNat_lt] at above
    omega
  have uncleaned : cleaned text = text := by
    unfold cleaned
    rw [untrimmed, List.filter_eq_self]
    intro byte member
    simp [verbatim.noBreak byte member]
  unfold pathText
  rw [uncleaned, List.takeWhile_eq_self_iff]
  intro byte member
  simp [verbatim.noEnd byte member]

/-- A text that a piece of its path is as long as had nothing cut from it. -/
theorem verbatim_of_whole_piece {text : List UInt8}
    (member : text ∈ (pathText text).splitOnP isSlash) (noEscape : NoEscape text) :
    Verbatim text := by
  obtain ⟨inPath, noSlash⟩ := mem_splitOnP member
  have pathWithin : (pathText text).Sublist (cleaned text) := List.takeWhile_sublist _
  have cleanedWithin : (cleaned text).Sublist (text.rdropWhile fun byte => byte ≤ 0x20) :=
    List.filter_sublist
  have trimmedWithin : (text.rdropWhile fun byte => byte ≤ 0x20).Sublist text :=
    (List.rdropWhile_prefix _ _).sublist
  -- the text is a sublist of what it is cut down to, so every cut is empty
  have untrimmed : (text.rdropWhile fun byte => byte ≤ 0x20) = text :=
    trimmedWithin.antisymm (inPath.trans (pathWithin.trans cleanedWithin))
  have uncleaned : cleaned text = text :=
    (cleanedWithin.trans trimmedWithin).antisymm (inPath.trans pathWithin)
  have uncut : pathText text = text :=
    (pathWithin.trans (cleanedWithin.trans trimmedWithin)).antisymm inPath
  refine ⟨?_, noSlash, ?_, ?_, noEscape⟩
  · intro byte inText
    unfold cleaned at uncleaned
    rw [untrimmed, List.filter_eq_self] at uncleaned
    simpa using uncleaned byte inText
  · intro byte inText
    unfold pathText at uncut
    rw [uncleaned, List.takeWhile_eq_self_iff] at uncut
    simpa using uncut byte inText
  · intro byte last
    rw [List.rdropWhile_eq_self_iff] at untrimmed
    have nonempty : text ≠ [] := by
      rintro rfl
      cases last
    have large := untrimmed nonempty
    rw [List.getLast?_eq_some_getLast nonempty] at last
    cases last
    simpa using large

/-- A routed name is the text itself exactly when the text is verbatim. -/
theorem segmentName_eq_text_iff {text name : List UInt8} (routed : segmentName text = some name) :
    name = text ↔ Verbatim text := by
  obtain ⟨piece, member, rfl⟩ := segmentName_piece routed
  constructor
  · intro same
    have within : piece.Sublist text :=
      (mem_splitOnP member).1.trans ((List.takeWhile_sublist _).trans
        (List.filter_sublist.trans (List.rdropWhile_prefix _ _).sublist))
    have shorter := percentDecode_length_le piece
    have whole : piece = text := within.eq_of_length_le (by rw [same] at shorter; exact shorter)
    rw [whole] at member same
    exact verbatim_of_whole_piece member (noEscape_of_length (by rw [same]))
  · intro verbatim
    rw [verbatim.pathText_eq, List.splitOnP_eq_singleton verbatim.noSlash] at member
    rw [List.mem_singleton.mp member]
    exact percentDecode_of_noEscape verbatim.noEscape

end ServiceNetwork.UrlPath
