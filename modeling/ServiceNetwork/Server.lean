/-
The HTTP servers of both programs, from their configured addresses to their
tasks.

A server panics on an address that does not parse, on one that cannot be bound
and on an error while it serves; a group of them is joined by the task that
started them.
-/

import ServiceNetwork.Library.Joining
import ServiceNetwork.SocketAddr

namespace ServiceNetwork

open ServiceNetwork.Joining
open ServiceNetwork.Numeral

/-- What becomes of a server when it starts; `bind` is how the system answers
the attempt to bind the address. -/
def startServer (bind : SocketAddr → Except String Unit) (addr : String) : Fate :=
  match SocketAddr.parse addr with
  | none => .panicked
  | some addr =>
      match bind addr with
      | .error _ => .panicked
      | .ok () => .running

inductive ServerEvent where
  | starts (index : Nat) (bind : SocketAddr → Except String Unit)
  | stops (index : Nat) (outcome : Except String Unit)

/-- One of the servers of the addresses starts, or stops serving. -/
def serverStep (addresses : List String) (servers : List Fate) : ServerEvent → Option (List Fate)
  | .starts index bind =>
      match addresses[index]? with
      | none => none
      | some addr => some (servers.set index (startServer bind addr))
  | .stops index outcome =>
      match outcome with
      | .ok () => some (servers.set index .ended)
      | .error _ => some (servers.set index .panicked)

/-- One of the addresses turns out not to be served. -/
inductive Unserved (addresses : List String) : ServerEvent → Prop where
  | unreadable (index : Nat) (bind : SocketAddr → Except String Unit) (addr : String)
      (configured : addresses[index]? = some addr) (unread : SocketAddr.parse addr = none) :
      Unserved addresses (.starts index bind)
  | unbound (index : Nat) (bind : SocketAddr → Except String Unit) (addr : String)
      (parsed : SocketAddr) (error : String) (configured : addresses[index]? = some addr)
      (read : SocketAddr.parse addr = some parsed) (refused : bind parsed = .error error) :
      Unserved addresses (.starts index bind)
  | failed (index : Nat) (error : String) (served : index < addresses.length) :
      Unserved addresses (.stops index (.error error))

variable {addresses : List String} {servers after : List Fate} {event : ServerEvent}

theorem startServer_panicked_iff {bind : SocketAddr → Except String Unit} {addr : String} :
    startServer bind addr = .panicked ↔
      SocketAddr.parse addr = none ∨
        ∃ parsed error, SocketAddr.parse addr = some parsed ∧ bind parsed = .error error := by
  unfold startServer
  cases read : SocketAddr.parse addr with
  | none => exact iff_of_true rfl (Or.inl rfl)
  | some parsed =>
      simp only
      cases bound : bind parsed with
      | error error => exact iff_of_true rfl (Or.inr ⟨parsed, error, rfl, bound⟩)
      | ok _ =>
          refine iff_of_false nofun ?_
          rintro (impossible | ⟨other, error, same, refused⟩)
          · cases impossible
          · cases same
            rw [bound] at refused
            cases refused

theorem serverStep_length (taken : serverStep addresses servers event = some after) :
    after.length = servers.length := by
  cases event with
  | starts index bind =>
      simp only [serverStep] at taken
      split at taken
      · cases taken
      · cases taken
        exact List.length_set
  | stops index outcome =>
      cases outcome with
      | ok | error =>
          cases taken
          exact List.length_set

/-- Among servers that are well, a step makes one panic exactly when it leaves
an address unserved. -/
theorem serverStep_panics_iff (unharmed : .panicked ∉ servers)
    (started : servers.length = addresses.length)
    (taken : serverStep addresses servers event = some after) :
    .panicked ∈ after ↔ Unserved addresses event := by
  cases event with
  | starts index bind =>
      simp only [serverStep] at taken
      split at taken
      · cases taken
      · rename_i addr configured
        cases taken
        have inside := (List.getElem?_eq_some_iff.mp configured).1
        rw [panicked_mem_set unharmed, started, and_iff_right inside, startServer_panicked_iff]
        constructor
        · rintro (unread | ⟨parsed, error, read, refused⟩)
          · exact .unreadable index bind addr configured unread
          · exact .unbound index bind addr parsed error configured read refused
        · intro unserved
          cases unserved with
          | unreadable _ _ other configuredToo unread =>
              rw [configured] at configuredToo
              cases configuredToo
              exact Or.inl unread
          | unbound _ _ other parsed error configuredToo read refused =>
              rw [configured] at configuredToo
              cases configuredToo
              exact Or.inr ⟨parsed, error, read, refused⟩
  | stops index outcome =>
      cases outcome with
      | ok =>
          cases taken
          rw [panicked_mem_set unharmed]
          refine iff_of_false ?_ nofun
          rintro ⟨_, impossible⟩
          cases impossible
      | error error =>
          cases taken
          rw [panicked_mem_set unharmed, started, and_iff_left rfl]
          constructor
          · exact .failed index error
          · intro unserved
            cases unserved with
            | failed _ _ served => exact served

/-! ### An address on every interface -/

theorem toList_toString_port (port : UInt16) :
    (toString port).toList = Nat.toDigits 10 port.toNat := by
  change port.toNat.repr.toList = _
  exact Nat.toList_repr

theorem isPortText_toString (port : UInt16) : IsPortText (toString port) port where
  nonempty := by
    intro empty
    have written := toList_toString_port port
    rw [empty] at written
    exact Nat.toDigits_ne_nil written.symm
  decimal := by
    intro character member
    rw [toList_toString_port] at member
    exact Nat.isDigit_of_mem_toDigits (by decide) (by decide) member
  value := by
    rw [toList_toString_port]
    exact numeral_toDigits port.toNat

theorem parse_unspecified (port : UInt16) :
    SocketAddr.parse ("0.0.0.0:" ++ toString port) = some ⟨.v4 ⟨0, 0, 0, 0⟩, port⟩ := by
  have front : readIpv4Addr ("0.0.0.0:".toList ++ (toString port).toList) =
      some (⟨0, 0, 0, 0⟩, ':' :: (toString port).toList) := rfl
  have back : readPort (':' :: (toString port).toList) = some (port, []) := by
    simp only [readPort, readChar, if_true, Option.bind_eq_bind, Option.bind_some,
      (isPortText_toString port).read]
    simp
  have whole : readSocketAddrV4 ("0.0.0.0:".toList ++ (toString port).toList) =
      some (⟨.v4 ⟨0, 0, 0, 0⟩, port⟩, []) := by
    simp only [readSocketAddrV4, front, back, Option.bind_eq_bind, Option.bind_some]
    rfl
  unfold SocketAddr.parse
  rw [String.toList_append, whole]
  rfl

end ServiceNetwork
