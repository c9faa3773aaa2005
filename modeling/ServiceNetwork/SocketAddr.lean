/-
Socket addresses, as the standard library reads them from text.

The reader takes one address from the front and must leave nothing.  IPv4
octets have no superfluous zeros, so an accepted IPv4 address is the text it is
written as.  The zone of an IPv6 address is read and dropped.
-/

import ServiceNetwork.Library.Numeral
import ServiceNetwork.Rust

namespace ServiceNetwork

open ServiceNetwork.Numeral

structure Ipv6Addr where
  segments : Vector UInt16 8
  deriving DecidableEq, Repr

inductive IpAddr where
  | v4 (ip : Ipv4Addr)
  | v6 (ip : Ipv6Addr)
  deriving DecidableEq, Repr

structure SocketAddr where
  ip : IpAddr
  port : UInt16
  deriving DecidableEq, Repr

def IpAddr.isUnspecified : IpAddr → Bool
  | .v4 ip => ip == ⟨0, 0, 0, 0⟩
  | .v6 ip => ip == ⟨Vector.replicate 8 0⟩

def octetFormat : NumberFormat :=
  { radix := 10, maxDigits := some 3, allowZeroPrefix := false, bound := 255 }

def groupFormat : NumberFormat :=
  { radix := 16, maxDigits := some 4, allowZeroPrefix := true, bound := 65535 }

def portFormat : NumberFormat :=
  { radix := 10, maxDigits := none, allowZeroPrefix := true, bound := 65535 }

def zoneFormat : NumberFormat :=
  { radix := 10, maxDigits := none, allowZeroPrefix := true, bound := 4294967295 }

def readChar (expected : Char) : List Char → Option (List Char)
  | [] => none
  | character :: rest => if character = expected then some rest else none

def readOctet (input : List Char) : Option (UInt8 × List Char) :=
  (readNumber octetFormat input).map fun (value, rest) => (UInt8.ofNat value, rest)

def readIpv4Addr (input : List Char) : Option (Ipv4Addr × List Char) := do
  let (a, input) ← readOctet input
  let (b, input) ← readOctet (← readChar '.' input)
  let (c, input) ← readOctet (← readChar '.' input)
  let (d, input) ← readOctet (← readChar '.' input)
  return (⟨a, b, c, d⟩, input)

/-- Every part but the first comes after a colon. -/
def readSeparated {Value : Type} (index : Nat) (reader : List Char → Option (Value × List Char))
    (input : List Char) : Option (Value × List Char) :=
  if index = 0 then reader input else (readChar ':' input).bind reader

/-- An IPv4 address at the end stands for the last two groups. -/
def ipv4Groups (ip : Ipv4Addr) : List UInt16 :=
  [ip.a.toUInt16 * 256 + ip.b.toUInt16, ip.c.toUInt16 * 256 + ip.d.toUInt16]

/-- At most `left` groups, and whether an IPv4 address ended them. -/
def readGroups : Nat → Nat → List Char → List UInt16 × Bool × List Char
  | 0, _, input => ([], false, input)
  | left + 1, index, input =>
      match if 0 < left then readSeparated index readIpv4Addr input else none with
      | some (ip, rest) => (ipv4Groups ip, true, rest)
      | none =>
          match readSeparated index (readNumber groupFormat) input with
          | some (group, rest) =>
              let (groups, endsInIpv4, rest) := readGroups left (index + 1) rest
              (UInt16.ofNat group :: groups, endsInIpv4, rest)
          | none => ([], false, input)

/-- The groups before and after `::`, with zeros between. -/
def ipv6Segments (head tail : List UInt16) : Ipv6Addr :=
  ⟨Vector.ofFn fun index =>
    if index.val < head.length then head.getD index.val 0
    else if 8 - tail.length ≤ index.val then tail.getD (index.val - (8 - tail.length)) 0
    else 0⟩

def readIpv6Addr (input : List Char) : Option (Ipv6Addr × List Char) := do
  let (head, endsInIpv4, input) := readGroups 8 0 input
  if head.length = 8 then return (ipv6Segments head [], input)
  if endsInIpv4 then none
  let input ← readChar ':' input
  let input ← readChar ':' input
  let (tail, _, input) := readGroups (8 - (head.length + 1)) 0 input
  return (ipv6Segments head tail, input)

def readPort (input : List Char) : Option (UInt16 × List Char) := do
  let (port, input) ← readNumber portFormat (← readChar ':' input)
  return (UInt16.ofNat port, input)

/-- What follows the zone, or the input itself when there is none. -/
def skipZone (input : List Char) : List Char :=
  match (readChar '%' input).bind (readNumber zoneFormat) with
  | some (_, rest) => rest
  | none => input

def readSocketAddrV4 (input : List Char) : Option (SocketAddr × List Char) := do
  let (ip, input) ← readIpv4Addr input
  let (port, input) ← readPort input
  return (⟨.v4 ip, port⟩, input)

def readSocketAddrV6 (input : List Char) : Option (SocketAddr × List Char) := do
  let (ip, input) ← readIpv6Addr (← readChar '[' input)
  let (port, input) ← readPort (← readChar ']' (skipZone input))
  return (⟨.v6 ip, port⟩, input)

/-- `str::parse::<SocketAddr>`. -/
def SocketAddr.parse (text : String) : Option SocketAddr := do
  let (addr, rest) ← (readSocketAddrV4 text.toList).or (readSocketAddrV6 text.toList)
  if rest = [] then return addr else none

example : SocketAddr.parse "10.0.0.2:1982" = some ⟨.v4 ⟨10, 0, 0, 2⟩, 1982⟩ := by decide
example : SocketAddr.parse "10.0.0.02:1982" = none := by decide
example : SocketAddr.parse "[::ffff:1.2.3.4]:080" =
    some ⟨.v6 ⟨#v[0, 0, 0, 0, 0, 65535, 258, 772]⟩, 80⟩ := by decide
example : SocketAddr.parse "[1:2:3:4:5:6:7:8%3]:80" =
    some ⟨.v6 ⟨#v[1, 2, 3, 4, 5, 6, 7, 8]⟩, 80⟩ := by decide
example : SocketAddr.parse "[fe80::1]" = none := by decide

def skipPlus : List Char → List Char
  | [] => []
  | character :: rest => if character = '+' then rest else character :: rest

/-- `str::parse::<u16>`, which takes a plus sign. -/
def parseU16 (text : String) : Option UInt16 :=
  match readNumber portFormat (skipPlus text.toList) with
  | some (port, []) => some (UInt16.ofNat port)
  | _ => none

inductive BindHost where
  | ip (ip : IpAddr)
  | name (name : String)
  deriving DecidableEq, Repr

/-- The host and the port that a listener binds, as `ToSocketAddrs` reads them
before it resolves a name. -/
def bindTarget (address : String) : Option (BindHost × UInt16) :=
  match SocketAddr.parse address with
  | some addr => some (.ip addr.ip, addr.port)
  | none => do
      let (host, port) ← rsplitOnce ':' address
      let port ← parseU16 port
      match readIpv4Addr host.toList with
      | some (ip, []) => return (.ip (.v4 ip), port)
      | _ => return (.name host, port)

example : bindTarget "[::1]:1081" =
    some (.ip (.v6 ⟨#v[0, 0, 0, 0, 0, 0, 0, 1]⟩), 1081) := by decide
example : bindTarget "0.0.0.0:+1081" = some (.ip (.v4 ⟨0, 0, 0, 0⟩), 1081) := by decide
example : bindTarget "broker.local:1081" = some (.name "broker.local", 1081) := by decide

/-- The host is the address, an IPv6 one in any spelling and with or without its
brackets. -/
def NamesIp (host : String) : IpAddr → Prop
  | .v4 ip => host = ip.toString
  | .v6 ip => ∃ text, readIpv6Addr text = some (ip, []) ∧
      (host.toList = text ∨ host.toList = '[' :: (text ++ [']']))

/-! ### What an accepted text looks like -/

theorem readChar_eq_some {expected : Char} {input rest : List Char} :
    readChar expected input = some rest ↔ input = expected :: rest := by
  cases input with
  | nil => simp [readChar]
  | cons character after =>
      by_cases same : character = expected
      · simp [readChar, same]
      · simp [readChar, same]

def octetText (octet : UInt8) : List Char :=
  Nat.toDigits 10 octet.toNat

theorem Ipv4Addr.toList_toString (ip : Ipv4Addr) :
    ip.toString.toList = octetText ip.a ++ '.' :: (octetText ip.b ++ '.' ::
      (octetText ip.c ++ '.' :: octetText ip.d)) := by
  have written : ∀ octet : UInt8, (ToString.toString octet).toList = octetText octet :=
    fun _ => Nat.toList_repr
  have dot : (ToString.toString ".").toList = ['.'] := rfl
  simp only [Ipv4Addr.toString, String.toList_append, written, dot]
  simp

theorem mem_octetText {octet : UInt8} {character : Char} (member : character ∈ octetText octet) :
    character.isDigit = true :=
  Nat.isDigit_of_mem_toDigits (by decide) (by decide) member

theorem octetText_injective {octet other : UInt8} (same : octetText octet = octetText other) :
    octet = other := by
  have values := congrArg (fun digits => Nat.ofDigitChars 10 digits 0) same
  simp only [octetText, Nat.ofDigitChars_ten_toDigits] at values
  exact UInt8.toNat_inj.mp values

theorem Ipv4Addr.mem_toString {ip : Ipv4Addr} {character : Char}
    (member : character ∈ ip.toString.toList) : character.isDigit = true ∨ character = '.' := by
  rw [toList_toString] at member
  simp only [List.mem_append, List.mem_cons] at member
  rcases member with a | dot | b | dot | c | dot | d
  · exact Or.inl (mem_octetText a)
  · exact Or.inr dot
  · exact Or.inl (mem_octetText b)
  · exact Or.inr dot
  · exact Or.inl (mem_octetText c)
  · exact Or.inr dot
  · exact Or.inl (mem_octetText d)

theorem Ipv4Addr.noColon (ip : Ipv4Addr) : ':' ∉ ip.toString.toList := by
  intro member
  rcases ip.mem_toString member with digit | dot
  · exact absurd digit (by decide)
  · exact absurd dot (by decide)

theorem Ipv4Addr.dot_mem_toString (ip : Ipv4Addr) : '.' ∈ ip.toString.toList := by
  rw [toList_toString]
  exact List.mem_append_right _ List.mem_cons_self

theorem Ipv4Addr.toString_injective {ip other : Ipv4Addr} (same : ip.toString = other.toString) :
    ip = other := by
  have noDot : ∀ octet, '.' ∉ octetText octet := fun octet member =>
    absurd (mem_octetText member) (by decide)
  have pieces := congrArg (fun text => text.toList.splitOn '.') same
  simp only [toList_toString, List.splitOn_append_cons_self_of_not_mem (noDot _),
    List.splitOn_eq_singleton (noDot _), List.cons.injEq, and_true] at pieces
  obtain ⟨a, b, c, d⟩ := pieces
  cases ip
  cases other
  exact Ipv4Addr.mk.injEq .. |>.mpr ⟨octetText_injective a, octetText_injective b,
    octetText_injective c, octetText_injective d⟩

theorem readOctet_sound {input rest : List Char} {octet : UInt8}
    (read : readOctet input = some (octet, rest)) : input = octetText octet ++ rest := by
  obtain ⟨⟨value, after⟩, number, same⟩ := Option.map_eq_some_iff.mp read
  cases same
  obtain ⟨digits, split, decimal, accepted, rfl⟩ := readNumber_eq_some number
  obtain ⟨nonempty, _, canonical, small⟩ := NumberFormat.accepts_iff.mp accepted
  have canonical : hasZeroPrefix digits = false := canonical.resolve_left Bool.false_ne_true
  have fits : (UInt8.ofNat (numeral octetFormat.radix digits)).toNat = numeral 10 digits :=
    UInt8.toNat_ofNat_of_lt (Nat.lt_succ_of_le small)
  rw [split, octetText, fits, toDigits_numeral nonempty
    (fun character member => isDigit_of_isDigitIn_ten (decimal character member)) canonical]

theorem readIpv4Addr_sound {input rest : List Char} {ip : Ipv4Addr}
    (read : readIpv4Addr input = some (ip, rest)) : input = ip.toString.toList ++ rest := by
  obtain ⟨⟨a, afterA⟩, readA, read⟩ := Option.bind_eq_some_iff.mp read
  obtain ⟨atB, dotB, read⟩ := Option.bind_eq_some_iff.mp read
  obtain ⟨⟨b, afterB⟩, readB, read⟩ := Option.bind_eq_some_iff.mp read
  obtain ⟨atC, dotC, read⟩ := Option.bind_eq_some_iff.mp read
  obtain ⟨⟨c, afterC⟩, readC, read⟩ := Option.bind_eq_some_iff.mp read
  obtain ⟨atD, dotD, read⟩ := Option.bind_eq_some_iff.mp read
  obtain ⟨⟨d, afterD⟩, readD, read⟩ := Option.bind_eq_some_iff.mp read
  cases read
  rw [readOctet_sound readA, readChar_eq_some.mp dotB, readOctet_sound readB,
    readChar_eq_some.mp dotC, readOctet_sound readC, readChar_eq_some.mp dotD,
    readOctet_sound readD, Ipv4Addr.toList_toString]
  simp

/-- The text of a port: digits whose value is the port. -/
structure IsPortText (text : String) (port : UInt16) : Prop where
  nonempty : text ≠ ""
  decimal : ∀ character ∈ text.toList, character.isDigit = true
  value : numeral 10 text.toList = port.toNat

theorem IsPortText.absent {text : String} {port : UInt16} (isPort : IsPortText text port)
    {character : Char} (notDigit : character.isDigit = false) : character ∉ text.toList := by
  intro member
  rw [isPort.decimal character member] at notDigit
  cases notDigit

theorem IsPortText.read {text : String} {port : UInt16} (isPort : IsPortText text port) :
    readNumber portFormat text.toList = some (port.toNat, []) := by
  have nonempty : text.toList ≠ [] := fun empty =>
    isPort.nonempty (String.toList_eq_nil_iff.mp empty)
  have small : numeral 10 text.toList ≤ 65535 := by
    rw [isPort.value]
    exact Nat.le_of_lt_succ port.toNat_lt
  have accepted : portFormat.accepts text.toList = true :=
    NumberFormat.accepts_iff.mpr ⟨nonempty, nofun, Or.inl rfl, small⟩
  have read := readNumber_of_accepts
    (fun character member => isDigitIn_ten (isPort.decimal character member)) accepted
  rw [read]
  exact congrArg (fun value => some (value, [])) isPort.value

theorem readPort_sound {input rest : List Char} {port : UInt16}
    (read : readPort input = some (port, rest)) :
    ∃ text, IsPortText text port ∧ input = ':' :: (text.toList ++ rest) := by
  obtain ⟨afterColon, colon, read⟩ := Option.bind_eq_some_iff.mp read
  obtain ⟨⟨value, after⟩, number, read⟩ := Option.bind_eq_some_iff.mp read
  cases read
  obtain ⟨digits, split, decimal, accepted, rfl⟩ := readNumber_eq_some number
  obtain ⟨nonempty, _, _, small⟩ := NumberFormat.accepts_iff.mp accepted
  refine ⟨String.ofList digits, ⟨?_, ?_, ?_⟩, ?_⟩
  · intro empty
    exact nonempty (by simpa using congrArg String.toList empty)
  · intro character member
    rw [String.toList_ofList] at member
    exact isDigit_of_isDigitIn_ten (decimal character member)
  · rw [String.toList_ofList]
    exact (UInt16.toNat_ofNat_of_lt (Nat.lt_succ_of_le small)).symm
  · rw [readChar_eq_some.mp colon, split, String.toList_ofList]

theorem parse_eq_some {text : String} {addr : SocketAddr}
    (parsed : SocketAddr.parse text = some addr) :
    readSocketAddrV4 text.toList = some (addr, []) ∨
      readSocketAddrV6 text.toList = some (addr, []) := by
  obtain ⟨⟨found, rest⟩, read, parsed⟩ := Option.bind_eq_some_iff.mp parsed
  simp only at parsed
  split at parsed
  · rename_i finished
    cases parsed
    rw [finished] at read
    rcases Option.or_eq_some_iff.mp read with isV4 | ⟨_, isV6⟩
    · exact Or.inl isV4
    · exact Or.inr isV6
  · cases parsed

theorem readSocketAddrV4_sound {input rest : List Char} {addr : SocketAddr}
    (read : readSocketAddrV4 input = some (addr, rest)) :
    ∃ ip portText, addr.ip = .v4 ip ∧ IsPortText portText addr.port ∧
      input = ip.toString.toList ++ ':' :: (portText.toList ++ rest) := by
  obtain ⟨⟨ip, after⟩, readIp, read⟩ := Option.bind_eq_some_iff.mp read
  obtain ⟨⟨port, afterPort⟩, portRead, read⟩ := Option.bind_eq_some_iff.mp read
  cases read
  obtain ⟨portText, isPort, split⟩ := readPort_sound portRead
  refine ⟨ip, portText, rfl, isPort, ?_⟩
  rw [readIpv4Addr_sound readIp, split]

theorem readSocketAddrV6_sound {input rest : List Char} {addr : SocketAddr}
    (read : readSocketAddrV6 input = some (addr, rest)) :
    ∃ ip inside after, addr.ip = .v6 ip ∧ input = '[' :: inside ∧
      readIpv6Addr inside = some (ip, after) := by
  obtain ⟨inside, opened, read⟩ := Option.bind_eq_some_iff.mp read
  obtain ⟨⟨ip, after⟩, readIp, read⟩ := Option.bind_eq_some_iff.mp read
  obtain ⟨closed, _, read⟩ := Option.bind_eq_some_iff.mp read
  obtain ⟨⟨port, afterPort⟩, _, read⟩ := Option.bind_eq_some_iff.mp read
  cases read
  exact ⟨ip, inside, after, rfl, readChar_eq_some.mp opened, readIp⟩

/-- An accepted IPv4 socket address is its address, a colon and its port. -/
theorem parse_v4_sound {text : String} {addr : SocketAddr} {ip : Ipv4Addr}
    (parsed : SocketAddr.parse text = some addr) (isV4 : addr.ip = .v4 ip) :
    ∃ portText, IsPortText portText addr.port ∧ text = ip.toString ++ ":" ++ portText := by
  rcases parse_eq_some parsed with read | read
  · obtain ⟨other, portText, same, isPort, split⟩ := readSocketAddrV4_sound read
    rw [isV4] at same
    cases same
    refine ⟨portText, isPort, ?_⟩
    apply String.toList_inj.mp
    rw [split]
    simp
  · obtain ⟨other, _, _, same, _⟩ := readSocketAddrV6_sound read
    rw [isV4] at same
    cases same

/-! ### IPv6 texts start with two colon-separated groups -/

def IsHex (text : List Char) : Prop :=
  ∀ character ∈ text, isDigitIn 16 character = true

theorem IsHex.absent {text : List Char} (hex : IsHex text) {character : Char}
    (notHex : isDigitIn 16 character = false) : character ∉ text := by
  intro member
  rw [hex character member] at notHex
  cases notHex

theorem readGroups_succ {left index : Nat} {input rest : List Char} {groups : List UInt16}
    {endsInIpv4 : Bool} (read : readGroups (left + 1) index input = (groups, endsInIpv4, rest)) :
    (groups.length = 2 ∧ endsInIpv4 = true ∧
      ∃ ip, readSeparated index readIpv4Addr input = some (ip, rest)) ∨
    (∃ group later after,
      readSeparated index (readNumber groupFormat) input = some (group, after) ∧
      groups = UInt16.ofNat group :: later ∧
      readGroups left (index + 1) after = (later, endsInIpv4, rest)) ∨
    (groups = [] ∧ endsInIpv4 = false ∧ rest = input) := by
  rw [readGroups] at read
  split at read
  · rename_i ip after readIp
    cases read
    split at readIp
    · exact Or.inl ⟨rfl, rfl, ip, readIp⟩
    · cases readIp
  · split at read
    · rename_i group after readGroup
      cases read
      exact Or.inr (Or.inl ⟨group, _, after, readGroup, rfl, rfl⟩)
    · cases read
      exact Or.inr (Or.inr ⟨rfl, rfl, rfl⟩)

theorem readGroup_sound {index : Nat} {input after : List Char} {group : Nat}
    (read : readSeparated index (readNumber groupFormat) input = some (group, after)) :
    ∃ digits, IsHex digits ∧
      input = if index = 0 then digits ++ after else ':' :: (digits ++ after) := by
  unfold readSeparated at read
  split at read
  · rename_i first
    obtain ⟨digits, split, hex, _⟩ := readNumber_eq_some read
    exact ⟨digits, hex, by rw [if_pos first, split]⟩
  · rename_i later
    obtain ⟨afterColon, colon, read⟩ := Option.bind_eq_some_iff.mp read
    obtain ⟨digits, split, hex, _⟩ := readNumber_eq_some read
    exact ⟨digits, hex, by rw [if_neg later, readChar_eq_some.mp colon, split]⟩

theorem readSeparated_colon {Value : Type} {index : Nat} (later : index ≠ 0)
    {reader : List Char → Option (Value × List Char)} {input : List Char}
    {result : Value × List Char} (read : readSeparated index reader input = some result) :
    ∃ after, input = ':' :: after := by
  rw [readSeparated, if_neg later] at read
  obtain ⟨after, colon, _⟩ := Option.bind_eq_some_iff.mp read
  exact ⟨after, readChar_eq_some.mp colon⟩

/-- Later groups start with a colon; no group leaves the input as it was. -/
theorem readGroups_colon {left index : Nat} (later : index ≠ 0) {input rest : List Char}
    {groups : List UInt16} {endsInIpv4 : Bool}
    (read : readGroups left index input = (groups, endsInIpv4, rest)) :
    (∃ after, input = ':' :: after) ∨ (groups = [] ∧ rest = input) := by
  cases left with
  | zero =>
      cases read
      exact Or.inr ⟨rfl, rfl⟩
  | succ left =>
      rcases readGroups_succ read with
        ⟨_, _, ip, readIp⟩ | ⟨group, _, after, readGroup, _⟩ | ⟨none, _, same⟩
      · exact Or.inl (readSeparated_colon later readIp)
      · exact Or.inl (readSeparated_colon later readGroup)
      · exact Or.inr ⟨none, same⟩

/-- A read IPv6 address has either all its groups or `::` after some of them. -/
theorem readIpv6Addr_cases {input rest : List Char} {ip : Ipv6Addr}
    (read : readIpv6Addr input = some (ip, rest)) :
    ∃ head endsInIpv4 after, readGroups 8 0 input = (head, endsInIpv4, after) ∧
      (head.length = 8 ∨ (endsInIpv4 = false ∧ ∃ later, after = ':' :: ':' :: later)) := by
  unfold readIpv6Addr at read
  rcases groups : readGroups 8 0 input with ⟨head, endsInIpv4, after⟩
  refine ⟨head, endsInIpv4, after, rfl, ?_⟩
  simp only [groups] at read
  by_cases full : head.length = 8
  · exact Or.inl full
  · rw [if_neg full] at read
    cases endsInIpv4 with
    | true => cases read
    | false =>
        refine Or.inr ⟨rfl, ?_⟩
        obtain ⟨second, firstColon, read⟩ := Option.bind_eq_some_iff.mp read
        obtain ⟨later, secondColon, _⟩ := Option.bind_eq_some_iff.mp read
        rw [readChar_eq_some.mp firstColon, readChar_eq_some.mp secondColon]
        exact ⟨later, rfl⟩

/-- An IPv6 text has two colons, with only hexadecimal digits before each. -/
theorem readIpv6Addr_colons {input rest : List Char} {ip : Ipv6Addr}
    (read : readIpv6Addr input = some (ip, rest)) :
    ∃ first second after, IsHex first ∧ IsHex second ∧
      input = first ++ ':' :: (second ++ ':' :: after) := by
  have noHex : IsHex [] := nofun
  obtain ⟨head, endsInIpv4, afterHead, groups, shape⟩ := readIpv6Addr_cases read
  rcases readGroups_succ groups with
    ⟨two, ends, _⟩ | ⟨group, others, afterFirst, readFirst, rfl, laterGroups⟩ | ⟨rfl, _, rfl⟩
  · -- an IPv4 address in front of everything else
    rcases shape with full | ⟨noIpv4, _⟩
    · omega
    · rw [noIpv4] at ends
      cases ends
  · obtain ⟨first, hexFirst, split⟩ := readGroup_sound readFirst
    rw [if_pos rfl] at split
    rcases readGroups_succ laterGroups with
      ⟨two, ends, _⟩ | ⟨group, others, afterSecond, readSecond, rfl, lastGroups⟩ | ⟨rfl, _, rfl⟩
    · -- an IPv4 address after the first group
      rcases shape with full | ⟨noIpv4, _⟩
      · rw [List.length_cons, two] at full
        omega
      · rw [noIpv4] at ends
        cases ends
    · obtain ⟨second, hexSecond, splitSecond⟩ := readGroup_sound readSecond
      rw [if_neg (by decide)] at splitSecond
      have colon : ∃ after, afterSecond = ':' :: after := by
        rcases readGroups_colon (by decide) lastGroups with colon | ⟨rfl, rfl⟩
        · exact colon
        · rcases shape with full | ⟨_, later, colons⟩
          · cases full
          · exact ⟨_, colons⟩
      obtain ⟨after, rfl⟩ := colon
      exact ⟨first, second, after, hexFirst, hexSecond, by rw [split, splitSecond]⟩
    · rcases shape with full | ⟨_, later, colons⟩
      · cases full
      · exact ⟨first, [], later, hexFirst, noHex, by rw [split, colons]; rfl⟩
  · rcases shape with full | ⟨_, later, colons⟩
    · cases full
    · exact ⟨[], [], later, noHex, noHex, colons⟩

/-- An accepted IPv6 socket address is a bracket before such a text. -/
theorem parse_v6_sound {text : String} {addr : SocketAddr} {ip : Ipv6Addr}
    (parsed : SocketAddr.parse text = some addr) (isV6 : addr.ip = .v6 ip) :
    ∃ first second after, IsHex first ∧ IsHex second ∧
      text.toList = '[' :: (first ++ ':' :: (second ++ ':' :: after)) := by
  rcases parse_eq_some parsed with read | read
  · obtain ⟨other, _, same, _⟩ := readSocketAddrV4_sound read
    rw [isV6] at same
    cases same
  · obtain ⟨other, inside, after, _, split, readIp⟩ := readSocketAddrV6_sound read
    obtain ⟨first, second, after, hexFirst, hexSecond, shape⟩ := readIpv6Addr_colons readIp
    exact ⟨first, second, after, hexFirst, hexSecond, by rw [split, shape]⟩

/-- The text of an IPv6 socket address, cut at its first two colons. -/
theorem parse_v6_cut {text : String} {addr : SocketAddr} {ip : Ipv6Addr}
    (parsed : SocketAddr.parse text = some addr) (isV6 : addr.ip = .v6 ip) :
    ∃ first second after, text = first ++ ":" ++ (second ++ ":" ++ after) ∧
      (':' ∉ first.toList ∧ '.' ∉ first.toList) ∧ ':' ∉ second.toList ∧ '.' ∉ second.toList := by
  obtain ⟨group, next, after, hexGroup, hexNext, shape⟩ := parse_v6_sound parsed isV6
  refine ⟨String.ofList ('[' :: group), String.ofList next, String.ofList after, ?_, ?_, ?_⟩
  · apply String.toList_inj.mp
    rw [shape]
    simp
  · simp only [String.toList_ofList, List.mem_cons, not_or]
    exact ⟨⟨by decide, hexGroup.absent rfl⟩, by decide, hexGroup.absent rfl⟩
  · simp only [String.toList_ofList]
    exact ⟨hexNext.absent rfl, hexNext.absent rfl⟩

/-- A host that names an IPv6 address has two colons. -/
theorem NamesIp.colons {host : String} {ip : Ipv6Addr} (names : NamesIp host (.v6 ip)) :
    2 ≤ host.toList.count ':' := by
  obtain ⟨text, read, spelled⟩ := names
  obtain ⟨first, second, after, _, _, shape⟩ := readIpv6Addr_colons read
  have two : 2 ≤ text.count ':' := by
    rw [shape]
    simp only [List.count_append, List.count_cons_self]
    omega
  rcases spelled with same | bracketed
  · rw [same]
    exact two
  · rw [bracketed, List.count_cons, List.count_append]
    omega

/-! ### The characters of an accepted text -/

def isAddressCharacter (character : Char) : Bool :=
  isDigitIn 16 character || character ∈ ['.', ':', '[', ']', '%']

theorem isAddressCharacter_of_hex {character : Char} (hex : isDigitIn 16 character = true) :
    isAddressCharacter character = true := by
  rw [isAddressCharacter, hex, Bool.true_or]

theorem isAddressCharacter_ascii {character : Char}
    (allowed : isAddressCharacter character = true) : character.toNat < 128 := by
  rcases Bool.or_eq_true_iff.mp allowed with hex | listed
  · exact (code_of_isDigitIn (by decide) hex).2
  · have member := of_decide_eq_true listed
    simp only [List.mem_cons, List.not_mem_nil, or_false] at member
    rcases member with rfl | rfl | rfl | rfl | rfl <;> decide

/-- What was read from the front is made of address characters. -/
def Consumes (input rest : List Char) : Prop :=
  ∃ used, input = used ++ rest ∧ ∀ character ∈ used, isAddressCharacter character = true

theorem Consumes.refl (input : List Char) : Consumes input input :=
  ⟨[], rfl, nofun⟩

theorem Consumes.trans {input middle rest : List Char} (first : Consumes input middle)
    (second : Consumes middle rest) : Consumes input rest := by
  obtain ⟨used, rfl, allowed⟩ := first
  obtain ⟨later, rfl, allowedLater⟩ := second
  refine ⟨used ++ later, (List.append_assoc used later rest).symm, ?_⟩
  intro character member
  rcases List.mem_append.mp member with inUsed | inLater
  · exact allowed character inUsed
  · exact allowedLater character inLater

theorem readChar_consumes {expected : Char} {input rest : List Char}
    (allowed : isAddressCharacter expected = true) (read : readChar expected input = some rest) :
    Consumes input rest :=
  ⟨[expected], readChar_eq_some.mp read, by simpa using allowed⟩

theorem readNumber_consumes {format : NumberFormat} (radix : format.radix ≤ 16)
    {input rest : List Char} {value : Nat} (read : readNumber format input = some (value, rest)) :
    Consumes input rest := by
  obtain ⟨digits, split, inRadix, _⟩ := readNumber_eq_some read
  refine ⟨digits, split, fun character member => ?_⟩
  have small : digitValue character < format.radix :=
    of_decide_eq_true (inRadix character member)
  exact isAddressCharacter_of_hex (decide_eq_true (Nat.lt_of_lt_of_le small radix))

theorem readIpv4Addr_consumes {input rest : List Char} {ip : Ipv4Addr}
    (read : readIpv4Addr input = some (ip, rest)) : Consumes input rest := by
  refine ⟨ip.toString.toList, readIpv4Addr_sound read, fun character member => ?_⟩
  rcases ip.mem_toString member with digit | rfl
  · have small := (digitValue_of_isDigit digit).2
    exact isAddressCharacter_of_hex (decide_eq_true (by omega))
  · decide

theorem readSeparated_consumes {Value : Type} {index : Nat}
    {reader : List Char → Option (Value × List Char)}
    (consumes : ∀ {input value rest}, reader input = some (value, rest) → Consumes input rest)
    {input rest : List Char} {value : Value}
    (read : readSeparated index reader input = some (value, rest)) : Consumes input rest := by
  unfold readSeparated at read
  split at read
  · exact consumes read
  · obtain ⟨afterColon, colon, read⟩ := Option.bind_eq_some_iff.mp read
    exact (readChar_consumes (by decide) colon).trans (consumes read)

theorem readGroups_consumes {left index : Nat} {input rest : List Char} {groups : List UInt16}
    {endsInIpv4 : Bool} (read : readGroups left index input = (groups, endsInIpv4, rest)) :
    Consumes input rest := by
  induction left generalizing index input groups with
  | zero =>
      cases read
      exact Consumes.refl _
  | succ left ih =>
      rcases readGroups_succ read with
        ⟨_, _, ip, readIp⟩ | ⟨group, later, after, readGroup, _, readLater⟩ | ⟨_, _, same⟩
      · exact readSeparated_consumes readIpv4Addr_consumes readIp
      · have first : Consumes input after :=
          readSeparated_consumes (readNumber_consumes (by decide)) readGroup
        exact first.trans (ih readLater)
      · rw [same]
        exact Consumes.refl input

theorem readIpv6Addr_consumes {input rest : List Char} {ip : Ipv6Addr}
    (read : readIpv6Addr input = some (ip, rest)) : Consumes input rest := by
  unfold readIpv6Addr at read
  rcases groups : readGroups 8 0 input with ⟨head, endsInIpv4, after⟩
  have front := readGroups_consumes groups
  simp only [groups] at read
  by_cases full : head.length = 8
  · rw [if_pos full] at read
    cases read
    exact front
  · rw [if_neg full] at read
    cases endsInIpv4 with
    | true => cases read
    | false =>
        obtain ⟨second, firstColon, read⟩ := Option.bind_eq_some_iff.mp read
        obtain ⟨later, secondColon, read⟩ := Option.bind_eq_some_iff.mp read
        cases read
        exact front.trans <| (readChar_consumes (by decide) firstColon).trans <|
          (readChar_consumes (by decide) secondColon).trans <| readGroups_consumes rfl

theorem skipZone_consumes (input : List Char) : Consumes input (skipZone input) := by
  unfold skipZone
  split
  · rename_i zone rest read
    obtain ⟨afterPercent, percent, read⟩ := Option.bind_eq_some_iff.mp read
    exact (readChar_consumes (by decide) percent).trans (readNumber_consumes (by decide) read)
  · exact Consumes.refl input

theorem readPort_consumes {input rest : List Char} {port : UInt16}
    (read : readPort input = some (port, rest)) : Consumes input rest := by
  obtain ⟨afterColon, colon, read⟩ := Option.bind_eq_some_iff.mp read
  obtain ⟨⟨value, after⟩, number, read⟩ := Option.bind_eq_some_iff.mp read
  cases read
  exact (readChar_consumes (by decide) colon).trans (readNumber_consumes (by decide) number)

theorem readSocketAddrV4_consumes {input rest : List Char} {addr : SocketAddr}
    (read : readSocketAddrV4 input = some (addr, rest)) : Consumes input rest := by
  obtain ⟨⟨ip, after⟩, readIp, read⟩ := Option.bind_eq_some_iff.mp read
  obtain ⟨⟨port, afterPort⟩, portRead, read⟩ := Option.bind_eq_some_iff.mp read
  cases read
  exact (readIpv4Addr_consumes readIp).trans (readPort_consumes portRead)

theorem readSocketAddrV6_consumes {input rest : List Char} {addr : SocketAddr}
    (read : readSocketAddrV6 input = some (addr, rest)) : Consumes input rest := by
  obtain ⟨inside, opened, read⟩ := Option.bind_eq_some_iff.mp read
  obtain ⟨⟨ip, after⟩, readIp, read⟩ := Option.bind_eq_some_iff.mp read
  obtain ⟨afterBracket, closed, read⟩ := Option.bind_eq_some_iff.mp read
  obtain ⟨⟨port, afterPort⟩, portRead, read⟩ := Option.bind_eq_some_iff.mp read
  cases read
  exact (readChar_consumes (by decide) opened).trans <| (readIpv6Addr_consumes readIp).trans <|
    (skipZone_consumes after).trans <| (readChar_consumes (by decide) closed).trans <|
    readPort_consumes portRead

theorem parse_characters {text : String} {addr : SocketAddr}
    (parsed : SocketAddr.parse text = some addr) :
    ∀ character ∈ text.toList, isAddressCharacter character = true := by
  have consumes : Consumes text.toList [] := by
    rcases parse_eq_some parsed with read | read
    · exact readSocketAddrV4_consumes read
    · exact readSocketAddrV6_consumes read
  obtain ⟨used, split, allowed⟩ := consumes
  rw [split, List.append_nil]
  exact allowed

/-! ### Bind targets -/

theorem skipPlus_of_absent {input : List Char} (absent : '+' ∉ input) :
    skipPlus input = input := by
  cases input with
  | nil => rfl
  | cons first rest =>
      refine if_neg ?_
      rintro rfl
      exact absent List.mem_cons_self

theorem IsPortText.parseU16_eq {text : String} {port : UInt16} (isPort : IsPortText text port) :
    parseU16 text = some port := by
  unfold parseU16
  rw [skipPlus_of_absent (isPort.absent rfl), isPort.read]
  exact congrArg some UInt16.ofNat_toNat

theorem mem_skipPlus {input : List Char} {character : Char} (member : character ∈ input) :
    character = '+' ∨ character ∈ skipPlus input := by
  cases input with
  | nil => cases member
  | cons first rest =>
      rw [skipPlus]
      split
      · rename_i plus
        rcases List.mem_cons.mp member with same | inRest
        · exact Or.inl (same.trans plus)
        · exact Or.inr inRest
      · exact Or.inr member

/-- A parsed port is digits, after a plus sign perhaps. -/
theorem parseU16_characters {text : String} {port : UInt16} (parsed : parseU16 text = some port) :
    ∀ character ∈ text.toList, character = '+' ∨ character.isDigit = true := by
  intro character member
  refine (mem_skipPlus member).imp_right fun inDigits => ?_
  unfold parseU16 at parsed
  split at parsed
  · rename_i value read
    obtain ⟨digits, split, decimal, _⟩ := readNumber_eq_some read
    rw [split, List.append_nil] at inDigits
    exact isDigit_of_isDigitIn_ten (decimal character inDigits)
  · cases parsed

/-- The shapes of the texts that can be bound. -/
inductive BindShape : String → BindHost → UInt16 → Prop where
  | v4 (ip : Ipv4Addr) (portText : String) (port : UInt16)
      (parsed : parseU16 portText = some port) :
      BindShape (ip.toString ++ ":" ++ portText) (.ip (.v4 ip)) port
  | v6 (address : String) (ip : Ipv6Addr) (port : UInt16)
      (parsed : SocketAddr.parse address = some ⟨.v6 ip, port⟩) :
      BindShape address (.ip (.v6 ip)) port
  | name (name portText : String) (port : UInt16) (parsed : parseU16 portText = some port)
      (notUnspecified : name ≠ "0.0.0.0") : BindShape (name ++ ":" ++ portText) (.name name) port

theorem bindTarget_shape {address : String} {host : BindHost} {port : UInt16}
    (target : bindTarget address = some (host, port)) : BindShape address host port := by
  unfold bindTarget at target
  split at target
  · rename_i addr parsed
    cases target
    cases isIp : addr.ip with
    | v4 ip =>
        obtain ⟨portText, isPort, rfl⟩ := parse_v4_sound parsed isIp
        exact .v4 ip portText addr.port isPort.parseU16_eq
    | v6 ip =>
        refine .v6 address ip addr.port ?_
        rw [parsed, ← isIp]
  · obtain ⟨⟨hostText, portText⟩, split, target⟩ := Option.bind_eq_some_iff.mp target
    obtain ⟨parsedPort, parsed, target⟩ := Option.bind_eq_some_iff.mp target
    rw [rsplitOnce_eq_some split]
    split at target
    · rename_i ip read
      cases target
      have text : hostText = ip.toString := by
        apply String.toList_inj.mp
        rw [readIpv4Addr_sound read, List.append_nil]
      rw [text]
      exact .v4 ip portText port parsed
    · rename_i notIp
      cases target
      refine .name hostText portText port parsed ?_
      rintro rfl
      exact notIp ⟨0, 0, 0, 0⟩ (by decide)

/-! ### Network interfaces -/

structure NetInterface where
  ip : IpAddr
  deriving DecidableEq, Repr

def NetInterface.isLoopback (interface : NetInterface) : Bool :=
  match interface.ip with
  | .v4 ip => ip.a == 127
  | .v6 ip => ip.segments == #v[0, 0, 0, 0, 0, 0, 0, 1]

/-- The IPv4 addresses of the interfaces other than loopback. -/
def myIpv4Interfaces (interfaces : List NetInterface) : List Ipv4Addr :=
  interfaces.filterMap fun interface =>
    if interface.isLoopback then none
    else
      match interface.ip with
      | .v4 ip => some ip
      | .v6 _ => none

end ServiceNetwork
