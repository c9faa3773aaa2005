/-
A run without end as one of its parties sees it.

In each step of a joint run a party takes one step of its own, or none.  If it
takes steps again and again, they make up a run without end of its own, and what
holds of that one from some moment on, holds so of the joint one.
-/

import Mathlib.Data.Nat.Nth
import Mathlib.Order.Filter.Cofinite
import ServiceNetwork.Library.Behavior

namespace ServiceNetwork.Replay

open Filter

variable {Joint Event Local Action : Type} {step : Joint → Event → Option Joint}
  {localStep : Local → Action → Option Local} {run : Behavior step}

/-- A party with its part of the joint state, and with the step that it takes at
each moment of the joint run. -/
structure Party (run : Behavior step) (localStep : Local → Action → Option Local) where
  view : Joint → Local
  own : Nat → Option Action
  idles : ∀ n, own n = none → view (run.state (n + 1)) = view (run.state n)
  acts : ∀ n action, own n = some action →
    localStep (view (run.state n)) action = some (view (run.state (n + 1)))
  recurs : ∃ᶠ n in atTop, (own n).isSome

namespace Party

variable (party : Party run localStep)

theorem infinitely_often : (Set.ofPred fun n => (party.own n).isSome = true).Infinite :=
  Nat.frequently_atTop_iff_infinite.mp party.recurs

/-- The moment of the party's step with this number. -/
noncomputable def moment (turn : Nat) : Nat :=
  Nat.nth (fun n => (party.own n).isSome = true) turn

/-- The steps that the party has taken before a moment. -/
def turn (n : Nat) : Nat :=
  Nat.count (fun n => (party.own n).isSome = true) n

theorem moment_acts (turn : Nat) : (party.own (party.moment turn)).isSome = true :=
  Nat.nth_mem_of_infinite party.infinitely_often turn

theorem turn_moment (turn : Nat) : party.turn (party.moment turn) = turn :=
  Nat.count_nth_of_infinite party.infinitely_often turn

theorem moment_turn {n : Nat} (acting : (party.own n).isSome = true) :
    party.moment (party.turn n) = n :=
  Nat.nth_count acting

theorem le_moment_turn (n : Nat) : n ≤ party.moment (party.turn n) :=
  Nat.le_nth_count party.infinitely_often n

theorem turn_mono {n m : Nat} (later : n ≤ m) : party.turn n ≤ party.turn m :=
  Nat.count_monotone _ later

theorem moment_mono : StrictMono party.moment :=
  Nat.nth_strictMono party.infinitely_often

theorem idle_before {n m : Nat} (since : n ≤ m) (before : m < party.moment (party.turn n)) :
    party.own m = none := by
  rw [← Option.not_isSome_iff_eq_none]
  intro acting
  have sooner := party.moment_mono.monotone (party.turn_mono since)
  rw [party.moment_turn acting] at sooner
  omega

theorem view_constant {n m : Nat} (later : n ≤ m) (idle : ∀ k, n ≤ k → k < m → party.own k = none) :
    party.view (run.state m) = party.view (run.state n) := by
  induction m, later using Nat.le_induction with
  | base => rfl
  | succ m later ih =>
      rw [party.idles m (idle m later (Nat.lt_succ_self m))]
      exact ih fun k since before => idle k since (Nat.lt_succ_of_lt before)

theorem view_moment_turn (n : Nat) :
    party.view (run.state (party.moment (party.turn n))) = party.view (run.state n) :=
  party.view_constant (party.le_moment_turn n) fun _ since before => party.idle_before since before

/-- The run of the party by itself. -/
noncomputable def behavior : Behavior localStep where
  state turn := party.view (run.state (party.moment turn))
  action turn := (party.own (party.moment turn)).get (party.moment_acts turn)
  taken := by
    intro turn
    have next : party.turn (party.moment turn + 1) = turn + 1 := by
      have counted := Nat.count_succ (fun n => (party.own n).isSome = true) (party.moment turn)
      rw [if_pos (party.moment_acts turn)] at counted
      change party.turn (party.moment turn + 1) = party.turn (party.moment turn) + 1 at counted
      rw [counted, party.turn_moment]
    rw [← next, party.view_moment_turn]
    exact party.acts _ _ (Option.some_get _).symm

theorem own_moment (turn : Nat) :
    party.own (party.moment turn) = some (party.behavior.action turn) :=
  (Option.some_get (party.moment_acts turn)).symm

theorem behavior_state (n : Nat) :
    party.behavior.state (party.turn n) = party.view (run.state n) :=
  party.view_moment_turn n

theorem behavior_action {n : Nat} {action : Action} (acting : party.own n = some action) :
    party.behavior.action (party.turn n) = action := by
  have isSome : (party.own n).isSome = true := by
    rw [acting]
    rfl
  have same := party.own_moment (party.turn n)
  rw [party.moment_turn isSome, acting] at same
  exact (Option.some.inj same).symm

theorem turn_atTop : Tendsto party.turn atTop atTop := by
  refine tendsto_atTop_atTop.mpr ?_
  intro turn
  refine ⟨party.moment turn, ?_⟩
  intro n later
  rw [← party.turn_moment turn]
  exact party.turn_mono later

/-- What holds for good in the party's own run, holds for good in the joint one. -/
theorem eventually_view {holds : Local → Prop}
    (settles : ∀ᶠ turn in atTop, holds (party.behavior.state turn)) :
    ∀ᶠ n in atTop, holds (party.view (run.state n)) := by
  refine (party.turn_atTop.eventually settles).mono ?_
  intro n settled
  rw [party.behavior_state] at settled
  exact settled

theorem eventually_action {holds : Action → Prop}
    (settles : ∀ᶠ n in atTop, ∀ action, party.own n = some action → holds action) :
    ∀ᶠ turn in atTop, holds (party.behavior.action turn) :=
  (party.moment_mono.tendsto_atTop.eventually settles).mono fun turn settled =>
    settled _ (party.own_moment turn)

theorem later_action {turn m : Nat} {action : Action} (later : party.moment turn ≤ m)
    (acting : party.own m = some action) :
    ∃ k, turn ≤ k ∧ party.behavior.action k = action := by
  refine ⟨party.turn m, ?_, party.behavior_action acting⟩
  rw [← party.turn_moment turn]
  exact party.turn_mono later

end Party

end ServiceNetwork.Replay
