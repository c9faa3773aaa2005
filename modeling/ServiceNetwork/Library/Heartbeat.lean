/-
Leases kept alive by heartbeats and counted down by periodic checks.

One lease is opened by an admitted beat, renewed by every later beat while it
has missed fewer than `expiry` checks, and opened afresh by an admitted beat
once it has expired.  A beat that would open a lease and is not admitted is
refused.  The lease remembers the seat its opening beat was given and the
latest beat; it says nothing about how a table of leases is stored.
-/

import Mathlib.Data.List.Basic
import Mathlib.Tactic.Common

namespace ServiceNetwork.Heartbeat

inductive Signal (Beat : Type) where
  | beat (content : Beat)
  | check

structure Lease (Beat Seat : Type) where
  seat : Seat
  latest : Beat
  misses : Nat

variable {Beat Seat : Type}

def Lease.miss (lease : Lease Beat Seat) : Lease Beat Seat :=
  { lease with misses := lease.misses + 1 }

def Lease.renew (lease : Lease Beat Seat) (content : Beat) : Lease Beat Seat :=
  { lease with latest := content, misses := 0 }

def Lease.fresh (seat : Seat) (content : Beat) : Lease Beat Seat :=
  { seat := seat
    latest := content
    misses := 0 }

section

variable (seatFor : Beat → Option Seat) (expiry : Nat)

/-- What a beat leaves: `none` before the first admitted beat. -/
def beatOn (lease : Option (Lease Beat Seat)) (content : Beat) : Option (Lease Beat Seat) :=
  match lease with
  | some lease =>
      if lease.misses < expiry then some (lease.renew content)
      else match seatFor content with
        | some seat => some (Lease.fresh seat content)
        | none => some lease
  | none => (seatFor content).map fun seat => Lease.fresh seat content

def observe (lease : Option (Lease Beat Seat)) : Signal Beat → Option (Lease Beat Seat)
  | .beat content => beatOn seatFor expiry lease content
  | .check => lease.map Lease.miss

def observeAll (signals : List (Signal Beat)) : Option (Lease Beat Seat) :=
  signals.foldl (observe seatFor expiry) none

/-- A beat is accepted by a running lease, or when it is admitted itself. -/
def Accepts (lease : Option (Lease Beat Seat)) (content : Beat) : Prop :=
  (∃ running, lease = some running ∧ running.misses < expiry) ∨ (seatFor content).isSome

theorem beatOn_of_running {lease : Lease Beat Seat} (running : lease.misses < expiry)
    (content : Beat) : beatOn seatFor expiry (some lease) content = some (lease.renew content) := by
  simp only [beatOn, if_pos running]

theorem beatOn_of_admitted {lease : Option (Lease Beat Seat)} {content : Beat} {seat : Seat}
    (stopped : ∀ running, lease = some running → expiry ≤ running.misses)
    (admitted : seatFor content = some seat) :
    beatOn seatFor expiry lease content = some (Lease.fresh seat content) := by
  cases lease with
  | none => simp only [beatOn, admitted, Option.map_some]
  | some expired =>
      have notRunning : ¬ expired.misses < expiry := Nat.not_lt.mpr (stopped expired rfl)
      simp only [beatOn, if_neg notRunning, admitted]

/-- Every accepted beat leaves a lease that has missed nothing and whose latest
beat is that one. -/
theorem beatOn_of_accepted {lease : Option (Lease Beat Seat)} {content : Beat}
    (accepted : Accepts seatFor expiry lease content) :
    ∃ next, beatOn seatFor expiry lease content = some next ∧
      next.latest = content ∧ next.misses = 0 := by
  by_cases running : ∃ current, lease = some current ∧ current.misses < expiry
  · obtain ⟨current, rfl, within⟩ := running
    exact ⟨current.renew content, beatOn_of_running seatFor expiry within content, rfl, rfl⟩
  · rcases accepted with running' | admitted
    · exact absurd running' running
    · obtain ⟨seat, admitted⟩ := Option.isSome_iff_exists.mp admitted
      refine ⟨Lease.fresh seat content, ?_, rfl, rfl⟩
      apply beatOn_of_admitted seatFor expiry _ admitted
      intro expired same
      exact Nat.le_of_not_lt fun within => running ⟨expired, same, within⟩

theorem beatOn_seat {lease : Option (Lease Beat Seat)} {content : Beat} {next : Lease Beat Seat}
    (left : beatOn seatFor expiry lease content = some next) :
    (∃ earlier, lease = some earlier ∧ earlier.seat = next.seat) ∨
      seatFor content = some next.seat := by
  cases lease with
  | none =>
      obtain ⟨seat, given, rfl⟩ := Option.map_eq_some_iff.mp left
      exact Or.inr given
  | some earlier =>
      by_cases running : earlier.misses < expiry
      · rw [beatOn_of_running seatFor expiry running] at left
        cases left
        exact Or.inl ⟨_, rfl, rfl⟩
      · simp only [beatOn, if_neg running] at left
        cases given : seatFor content with
        | none =>
            rw [given] at left
            cases left
            exact Or.inl ⟨_, rfl, rfl⟩
        | some seat =>
            rw [given] at left
            cases left
            exact Or.inr rfl

theorem observeAll_append (before after : List (Signal Beat)) :
    observeAll seatFor expiry (before ++ after) =
      after.foldl (observe seatFor expiry) (observeAll seatFor expiry before) := by
  unfold observeAll
  exact List.foldl_append

theorem observeAll_concat (signals : List (Signal Beat)) (signal : Signal Beat) :
    observeAll seatFor expiry (signals ++ [signal]) =
      observe seatFor expiry (observeAll seatFor expiry signals) signal := by
  rw [observeAll_append]
  rfl

theorem checks_count (lease : Lease Beat Seat) (after : List (Signal Beat))
    (quiet : ∀ signal ∈ after, signal = .check) :
    after.foldl (observe seatFor expiry) (some lease) =
      some { lease with misses := lease.misses + after.length } := by
  induction after generalizing lease with
  | nil => rfl
  | cons signal rest ih =>
      have isCheck : signal = .check := quiet signal List.mem_cons_self
      subst isCheck
      have restQuiet : ∀ other ∈ rest, other = .check :=
        fun other member => quiet other (List.mem_cons_of_mem _ member)
      rw [List.foldl_cons]
      change rest.foldl (observe seatFor expiry) (some lease.miss) = _
      rw [ih lease.miss restQuiet]
      simp only [Lease.miss, List.length_cons]
      congr 2
      omega

theorem checks_absent (after : List (Signal Beat)) (quiet : ∀ signal ∈ after, signal = .check) :
    after.foldl (observe seatFor expiry) none = none := by
  induction after with
  | nil => rfl
  | cons signal rest ih =>
      have isCheck : signal = .check := quiet signal List.mem_cons_self
      subst isCheck
      exact ih fun other member => quiet other (List.mem_cons_of_mem _ member)

/-- After an accepted beat and nothing but checks, the lease carries that beat
and the number of the checks. -/
theorem observeAll_last_beat {before after : List (Signal Beat)} {content : Beat}
    (accepted : Accepts seatFor expiry (observeAll seatFor expiry before) content)
    (quiet : ∀ signal ∈ after, signal = .check) :
    ∃ lease, observeAll seatFor expiry (before ++ .beat content :: after) = some lease ∧
      lease.latest = content ∧ lease.misses = after.length := by
  obtain ⟨opened, opened_eq, latest, misses⟩ := beatOn_of_accepted seatFor expiry accepted
  have settled :
      observeAll seatFor expiry (before ++ .beat content :: after) =
        some { opened with misses := opened.misses + after.length } := by
    rw [observeAll_append, List.foldl_cons]
    change after.foldl (observe seatFor expiry)
      (beatOn seatFor expiry (observeAll seatFor expiry before) content) = _
    rw [opened_eq]
    exact checks_count seatFor expiry opened after quiet
  refine ⟨_, settled, latest, ?_⟩
  simp only [misses, Nat.zero_add]

theorem observeAll_no_beat {signals : List (Signal Beat)}
    (quiet : ∀ signal ∈ signals, signal = .check) :
    observeAll seatFor expiry signals = none :=
  checks_absent seatFor expiry signals quiet

end

end ServiceNetwork.Heartbeat
