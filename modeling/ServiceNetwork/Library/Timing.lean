/-
Events with the moments they happen at, and the ticks of a timer among them.

A timer sleeps for an interval, or longer, before each tick.  Ticks are then
never closer than the interval, which bounds from above how many of them fit
between two moments; a timer that is never late by more than a slack also has
a least number of ticks there.
-/

import Mathlib.Data.List.Basic
import Mathlib.Data.Nat.Basic
import Mathlib.Tactic.Common

namespace ServiceNetwork.Timing

/-! ### A timer -/

/-- The ticks of a timer started at `start`; `delays` says how late each is. -/
def ticksFrom (interval start : Nat) : List Nat → List Nat
  | [] => []
  | late :: rest =>
      let tick := start + interval + late
      tick :: ticksFrom interval tick rest

/-- When the timer last ticked, or was started. -/
def lastTick (interval start : Nat) : List Nat → Nat
  | [] => start
  | late :: rest => lastTick interval (start + interval + late) rest

/-- At least `gap` apart, the first one at least `gap` after `start`. -/
def Spaced (gap start : Nat) : List Nat → Prop
  | [] => True
  | moment :: rest => start + gap ≤ moment ∧ Spaced gap moment rest

theorem ticksFrom_spaced (interval start : Nat) (delays : List Nat) :
    Spaced interval start (ticksFrom interval start delays) := by
  induction delays generalizing start with
  | nil => trivial
  | cons late rest ih => exact ⟨Nat.le_add_right _ late, ih (start + interval + late)⟩

theorem Spaced.suffix {gap start moment : Nat} {before after : List Nat}
    (spaced : Spaced gap start (before ++ moment :: after)) : Spaced gap moment after := by
  induction before generalizing start with
  | nil => exact spaced.2
  | cons first rest ih => exact ih spaced.2

theorem Spaced.span {gap start : Nat} {moments : List Nat} (spaced : Spaced gap start moments)
    {bound : Nat} (within : ∀ moment ∈ moments, moment < bound) (some : moments ≠ []) :
    start + gap * moments.length < bound := by
  induction moments generalizing start with
  | nil => exact absurd rfl some
  | cons moment rest ih =>
      obtain ⟨later, restSpaced⟩ := spaced
      have here : moment < bound := within moment List.mem_cons_self
      rw [List.length_cons, Nat.mul_succ]
      by_cases last : rest = []
      · subst last
        rw [List.length_nil, Nat.mul_zero]
        omega
      · have further := ih restSpaced
          (fun other member => within other (List.mem_cons_of_mem _ member)) last
        omega

/-- At most `n` spaced moments fit into less than `n` gaps. -/
theorem Spaced.count_le {gap start since n : Nat} {before after : List Nat}
    (spaced : Spaced gap start (before ++ after)) (later : ∀ moment ∈ after, since ≤ moment)
    (within : ∀ moment ∈ after, moment < since + n * gap) : after.length ≤ n := by
  cases after with
  | nil => exact Nat.zero_le n
  | cons first rest =>
      have notBefore : since ≤ first := later first List.mem_cons_self
      have restSpaced : Spaced gap first rest := spaced.suffix
      by_cases only : rest = []
      · subst only
        have inTime : first < since + n * gap := within first List.mem_cons_self
        cases n with
        | zero => omega
        | succ n => exact Nat.succ_le_succ (Nat.zero_le n)
      · have spanned : first + gap * rest.length < since + n * gap :=
          restSpaced.span (fun other member => within other (List.mem_cons_of_mem _ member)) only
        rw [List.length_cons]
        by_contra more
        have enough : gap * n ≤ gap * rest.length := Nat.mul_le_mul_left gap (by omega)
        rw [Nat.mul_comm n gap] at spanned
        omega

/-! ### A timer that is not late -/

/-- By `now` the timer has been late by at most `slack` and is not overdue. -/
structure Prompt (interval slack start : Nat) (delays : List Nat) (now : Nat) : Prop where
  within : ∀ late ∈ delays, late ≤ slack
  running : now < lastTick interval start delays + (interval + slack)

theorem Prompt.tail {interval slack start now late : Nat} {rest : List Nat}
    (prompt : Prompt interval slack start (late :: rest) now) :
    Prompt interval slack (start + interval + late) rest now where
  within := fun other member => prompt.within other (List.mem_cons_of_mem _ member)
  running := prompt.running

/-- A prompt timer ticks at least once in each interval and slack that pass. -/
theorem Prompt.count_ge {interval slack start now : Nat} {delays : List Nat}
    (prompt : Prompt interval slack start delays now) {since n : Nat} (started : start ≤ since)
    (passed : since + n * (interval + slack) ≤ now) :
    n ≤ (ticksFrom interval start delays).countP (since < ·) := by
  induction delays generalizing start since n with
  | nil =>
      have running : now < start + (interval + slack) := prompt.running
      cases n with
      | zero => exact Nat.zero_le _
      | succ n =>
          rw [Nat.succ_mul] at passed
          omega
  | cons late rest ih =>
      have inTime : late ≤ slack := prompt.within late List.mem_cons_self
      change n ≤ ((start + interval + late) ::
        ticksFrom interval (start + interval + late) rest).countP (since < ·)
      by_cases first : since < start + interval + late
      · rw [List.countP_cons_of_pos (by simpa using first)]
        cases n with
        | zero => exact Nat.zero_le _
        | succ n =>
            rw [Nat.succ_mul] at passed
            have further := ih prompt.tail (Nat.le_refl _)
              (show start + interval + late + n * (interval + slack) ≤ now by omega)
            apply Nat.succ_le_succ
            apply Nat.le_trans further
            apply List.countP_mono_left
            intro tick _ after
            simp only [decide_eq_true_eq] at after ⊢
            omega
      · rw [List.countP_cons_of_neg (by simpa using first)]
        exact ih prompt.tail (Nat.le_of_not_lt first) passed

/-! ### Ticks among other events -/

variable {Event : Type}

def momentsOf (isTick : Event → Bool) (history : List (Nat × Event)) : List Nat :=
  (history.filter fun entry => isTick entry.2).map Prod.fst

def Ordered (history : List (Nat × Event)) : Prop :=
  (history.map Prod.fst).Pairwise (· ≤ ·)

theorem momentsOf_append (isTick : Event → Bool) (before after : List (Nat × Event)) :
    momentsOf isTick (before ++ after) = momentsOf isTick before ++ momentsOf isTick after := by
  unfold momentsOf
  rw [List.filter_append, List.map_append]

theorem mem_momentsOf {isTick : Event → Bool} {history : List (Nat × Event)} {moment : Nat} :
    moment ∈ momentsOf isTick history ↔
      ∃ event, (moment, event) ∈ history ∧ isTick event = true := by
  simp [momentsOf]

theorem momentsOf_length (isTick : Event → Bool) (history : List (Nat × Event)) :
    (momentsOf isTick history).length = (history.map Prod.snd).countP isTick := by
  unfold momentsOf
  rw [List.length_map, ← List.countP_eq_length_filter, List.countP_map]
  rfl

theorem Ordered.later {before after : List (Nat × Event)} {sent : Nat} {event : Event}
    (ordered : Ordered (before ++ (sent, event) :: after)) :
    ∀ entry ∈ after, sent ≤ entry.1 := by
  unfold Ordered at ordered
  rw [List.map_append, List.pairwise_append] at ordered
  have fromHere := (List.pairwise_cons.mp ordered.2.1).1
  intro entry member
  exact fromHere entry.1 (List.mem_map_of_mem member)

theorem Ordered.earlier {before after : List (Nat × Event)} {sent : Nat} {event : Event}
    (ordered : Ordered (before ++ (sent, event) :: after)) :
    ∀ entry ∈ before, entry.1 ≤ sent := by
  unfold Ordered at ordered
  rw [List.map_append, List.pairwise_append] at ordered
  intro entry member
  exact ordered.2.2 entry.1 (List.mem_map_of_mem member) sent List.mem_cons_self

section

variable {isTick : Event → Bool} {interval start sent n : Nat} {delays : List Nat}
variable {before after : List (Nat × Event)} {event : Event}

/-- Too early for the next tick, at most `n` ticks have followed an event. -/
theorem ticks_after_le (ordered : Ordered (before ++ (sent, event) :: after))
    (timer : momentsOf isTick (before ++ (sent, event) :: after) =
      ticksFrom interval start delays)
    (within : ∀ moment ∈ momentsOf isTick after, moment < sent + n * interval) :
    (momentsOf isTick after).length ≤ n := by
  have spaced : Spaced interval start
      (momentsOf isTick (before ++ [(sent, event)]) ++ momentsOf isTick after) := by
    rw [← momentsOf_append, List.append_assoc]
    change Spaced interval start (momentsOf isTick (before ++ (sent, event) :: after))
    rw [timer]
    exact ticksFrom_spaced interval start delays
  apply spaced.count_le _ within
  intro moment member
  obtain ⟨tick, inAfter, _⟩ := mem_momentsOf.mp member
  exact ordered.later (moment, tick) inAfter

/-- Once `n` intervals with their slack have passed since an event, at least `n`
ticks have followed it. -/
theorem ticks_after_ge {slack now : Nat} (ordered : Ordered (before ++ (sent, event) :: after))
    (timer : momentsOf isTick (before ++ (sent, event) :: after) =
      ticksFrom interval start delays)
    (prompt : Prompt interval slack start delays now) (started : start ≤ sent)
    (passed : sent + n * (interval + slack) ≤ now) :
    n ≤ (momentsOf isTick after).length := by
  have atLeast := prompt.count_ge started passed
  have noneUpTo : (momentsOf isTick (before ++ [(sent, event)])).countP (sent < ·) = 0 := by
    rw [List.countP_eq_zero]
    intro moment member
    obtain ⟨tick, inFront, _⟩ := mem_momentsOf.mp member
    have notAfter : moment ≤ sent := by
      rcases List.mem_append.mp inFront with inBefore | here
      · exact ordered.earlier (moment, tick) inBefore
      · rw [List.mem_singleton] at here
        cases here
        exact Nat.le_refl _
    simpa using notAfter
  have split : momentsOf isTick (before ++ (sent, event) :: after) =
      momentsOf isTick (before ++ [(sent, event)]) ++ momentsOf isTick after := by
    rw [← momentsOf_append, List.append_assoc]
    rfl
  rw [← timer, split, List.countP_append, noneUpTo, Nat.zero_add] at atLeast
  exact Nat.le_trans atLeast List.countP_le_length

end

end ServiceNetwork.Timing
