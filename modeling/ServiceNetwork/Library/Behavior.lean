/-
Infinite runs, and what holds of them from some moment on.

A stable property that keeps being reached holds for good.  A measure that no
longer grows, and falls again and again while it is not zero, ends at zero.  In
a queue that only grows behind and is served in front, every entry has its turn.
-/

import Mathlib.Order.Filter.AtTopBot.Basic
import ServiceNetwork.Library.Replay

namespace ServiceNetwork.Replay

open Filter

variable {State Action : Type} {step : State → Action → Option State}

/-- A run without end. -/
structure Behavior (step : State → Action → Option State) where
  state : Nat → State
  action : Nat → Action
  taken : ∀ n, step (state n) (action n) = some (state (n + 1))

theorem Behavior.reached (run : Behavior step) {start : State} {actions : List Action}
    (replayed : replay step start actions = some (run.state 0)) (n : Nat) :
    replay step start (actions ++ (List.range n).map run.action) = some (run.state n) := by
  induction n with
  | zero =>
      rw [List.range_zero, List.map_nil, List.append_nil]
      exact replayed
  | succ n ih =>
      rw [List.range_succ, List.map_append, ← List.append_assoc, List.map_singleton,
        replay_concat, ih, Option.bind_some]
      exact run.taken n

/-- A run without end after a finite one. -/
def Behavior.after (run : Behavior step) {start : State} {actions : List Action}
    (replayed : replay step start actions = some (run.state 0)) : Behavior step where
  state n :=
    if n < actions.length then (replay step start (actions.take n)).getD start
    else run.state (n - actions.length)
  action n := actions[n]?.getD (run.action (n - actions.length))
  taken := by
    intro n
    by_cases within : n < actions.length
    · have split : actions.take n ++ actions[n] :: actions.drop (n + 1) = actions := by
        rw [← List.drop_eq_getElem_cons within, List.take_append_drop]
      rw [← split] at replayed
      obtain ⟨current, next, reached, stepped, rest⟩ := replay_split replayed
      have reachedNext : replay step start (actions.take (n + 1)) = some next := by
        rw [List.take_succ_eq_append_getElem within, replay_concat, reached]
        exact stepped
      rw [if_pos within, reached, Option.getD_some, List.getElem?_eq_getElem within,
        Option.getD_some, stepped]
      split
      · rw [reachedNext, Option.getD_some]
      · rename_i last
        have whole : n + 1 = actions.length := by omega
        rw [List.drop_of_length_le (by omega)] at rest
        rw [whole, Nat.sub_self]
        exact rest
    · have beyond : actions.length ≤ n := Nat.le_of_not_lt within
      rw [if_neg within, if_neg (by omega), List.getElem?_eq_none beyond, Option.getD_none,
        Nat.succ_sub beyond]
      exact run.taken _

theorem Behavior.after_state (run : Behavior step) {start : State} {actions : List Action}
    (replayed : replay step start actions = some (run.state 0)) (n : Nat) :
    (run.after replayed).state (actions.length + n) = run.state n := by
  change (if actions.length + n < actions.length then _ else
    run.state (actions.length + n - actions.length)) = _
  rw [if_neg (by omega), Nat.add_sub_cancel_left]

theorem Behavior.after_action (run : Behavior step) {start : State} {actions : List Action}
    (replayed : replay step start actions = some (run.state 0)) (n : Nat) :
    (run.after replayed).action (actions.length + n) = run.action n := by
  change actions[actions.length + n]?.getD (run.action (actions.length + n - actions.length)) = _
  rw [List.getElem?_eq_none (by omega), Option.getD_none, Nat.add_sub_cancel_left]

/-- Two steps that lead back to where they began, for ever. -/
def Behavior.alternate {first second : State} {there back : Action}
    (goes : step first there = some second) (returns : step second back = some first) :
    Behavior step where
  state n := if n % 2 = 0 then first else second
  action n := if n % 2 = 0 then there else back
  taken := by
    intro n
    rcases Nat.mod_two_eq_zero_or_one n with even | odd
    · have next : (n + 1) % 2 = 1 := by omega
      simp only [even, next, if_true, Nat.one_ne_zero, if_false, goes]
    · have next : (n + 1) % 2 = 0 := by omega
      simp only [odd, next, if_true, Nat.one_ne_zero, if_false, returns]

/-- Actions that lead back to where they began, for ever. -/
def Behavior.cycle {start : State} {actions : List Action} (nonempty : 0 < actions.length)
    (replayed : replay step start actions = some start) : Behavior step where
  state n := (replay step start (actions.take (n % actions.length))).getD start
  action n := actions.get ⟨n % actions.length, Nat.mod_lt n nonempty⟩
  taken := by
    intro n
    have within := Nat.mod_lt n nonempty
    obtain ⟨i, position⟩ : ∃ i, n % actions.length = i := ⟨_, rfl⟩
    rw [position] at within
    have split : actions.take i ++ actions[i] :: actions.drop (i + 1) = actions := by
      rw [← List.drop_eq_getElem_cons within, List.take_append_drop]
    have whole := replayed
    rw [← split] at whole
    obtain ⟨current, next, reached, stepped, rest⟩ := replay_split whole
    simp only [List.get_eq_getElem, position, reached, Option.getD_some, stepped]
    have follows : (n + 1) % actions.length = (i + 1) % actions.length := by
      rw [← position, Nat.mod_add_mod]
    by_cases last : i + 1 = actions.length
    · rw [List.drop_of_length_le (Nat.le_of_eq last.symm)] at rest
      rw [follows, last, Nat.mod_self, List.take_zero, replay_nil, Option.getD_some]
      exact rest
    · rw [follows, Nat.mod_eq_of_lt (by omega), List.take_succ_eq_append_getElem within,
        replay_concat, reached, Option.bind_some, stepped, Option.getD_some]

theorem Behavior.cycle_state {start : State} {actions : List Action}
    (nonempty : 0 < actions.length) (replayed : replay step start actions = some start)
    (turns : Nat) : (Behavior.cycle nonempty replayed).state (actions.length * turns) = start := by
  change (replay step start (actions.take (actions.length * turns % actions.length))).getD start = _
  rw [Nat.mul_mod_right]
  rfl

theorem Behavior.cycle_action {start : State} {actions : List Action}
    (nonempty : 0 < actions.length) (replayed : replay step start actions = some start)
    (turns : Nat) (i : Fin actions.length) :
    (Behavior.cycle nonempty replayed).action (actions.length * turns + i) = actions.get i := by
  change actions.get ⟨(actions.length * turns + i) % actions.length, _⟩ = _
  congr 1
  exact Fin.ext ((Nat.mul_add_mod _ _ _).trans (Nat.mod_eq_of_lt i.isLt))

/-- Actions that what holds of each state makes possible, and keeps so, make up
a run without end. -/
theorem exists_behavior (actions : Nat → Action) {holds : Nat → State → Prop}
    (possible : ∀ n state, holds n state →
      ∃ next, step state (actions n) = some next ∧ holds (n + 1) next) {start : State}
    (begins : holds 0 start) :
    ∃ run : Behavior step, run.state 0 = start ∧ run.action = actions ∧
      ∀ n, holds n (run.state n) := by
  choose next taken kept using possible
  let states : (n : Nat) → Subtype (holds n) := fun n =>
    Nat.rec ⟨start, begins⟩ (fun n state => ⟨next n state.1 state.2, kept n state.1 state.2⟩) n
  exact ⟨⟨fun n => (states n).1, actions, fun n => taken n _ (states n).2⟩, rfl, rfl,
    fun n => (states n).2⟩

/-! ### Settling -/

section

variable {holds : Nat → Prop} {measure : Nat → Nat}

theorem settled_of_stable (stable : ∀ᶠ n in atTop, holds n → holds (n + 1))
    (recurs : ∃ᶠ n in atTop, holds n) : ∀ᶠ n in atTop, holds n := by
  obtain ⟨start, stable⟩ := eventually_atTop.mp stable
  obtain ⟨first, late, reached⟩ := frequently_atTop.mp recurs start
  refine eventually_atTop.mpr ⟨first, ?_⟩
  intro n later
  induction n, later using Nat.le_induction with
  | base => exact reached
  | succ n later ih => exact stable n (Nat.le_trans late later) ih

/-- What held once and does not later stopped holding in some step. -/
theorem last_of_change {n m : Nat} (later : n ≤ m) (now : holds n) (changed : ¬ holds m) :
    ∃ k, n ≤ k ∧ holds k ∧ ¬ holds (k + 1) := by
  by_contra none
  apply changed
  induction m, later using Nat.le_induction with
  | base => exact now
  | succ k later ih =>
      by_contra stopped
      exact none ⟨k, later, by_contra fun never => absurd (ih never) never, stopped⟩

theorem first_of_later {n : Nat} (later : ∃ m, n ≤ m ∧ holds m) :
    ∃ m, n ≤ m ∧ holds m ∧ ∀ k, n ≤ k → k < m → ¬ holds k := by
  classical
  obtain ⟨after, reached⟩ := Nat.find_spec later
  refine ⟨Nat.find later, after, reached, ?_⟩
  intro k since before now
  exact Nat.find_min later before ⟨since, now⟩

/-- What fails to fail for good recurs. -/
theorem recurs_of_refuted (refuted : ∀ start, (∀ n, start ≤ n → ¬ holds n) → False) :
    ∃ᶠ n in atTop, holds n := by
  apply frequently_atTop.mpr
  intro start
  by_contra never
  exact refuted start fun n late reached => never ⟨n, late, reached⟩

theorem zero_of_falling (falls : ∀ᶠ n in atTop, measure (n + 1) ≤ measure n)
    (progress : ∀ᶠ n in atTop, measure n ≠ 0 → ∃ m, n ≤ m ∧ measure (m + 1) < measure m) :
    ∀ᶠ n in atTop, measure n = 0 := by
  obtain ⟨start, settled⟩ := eventually_atTop.mp (falls.and progress)
  have lower : ∀ n, start ≤ n → ∀ m, n ≤ m → measure m ≤ measure n := by
    intro n late m later
    induction m, later using Nat.le_induction with
    | base => exact Nat.le_refl _
    | succ m later ih => exact Nat.le_trans (settled m (Nat.le_trans late later)).1 ih
  -- induction on a bound of what is left
  have reaches : ∀ bound n, start ≤ n → measure n ≤ bound → ∃ m, n ≤ m ∧ measure m = 0 := by
    intro bound
    induction bound with
    | zero => exact fun n _ small => ⟨n, Nat.le_refl n, Nat.le_zero.mp small⟩
    | succ bound ih =>
        intro n late small
        by_cases done : measure n = 0
        · exact ⟨n, Nat.le_refl n, done⟩
        · obtain ⟨m, later, fell⟩ := (settled n late).2 done
          have below := lower n late m later
          obtain ⟨last, after, zero⟩ := ih (m + 1) (by omega) (by omega)
          exact ⟨last, by omega, zero⟩
  refine settled_of_stable ?_ (frequently_atTop.mpr ?_)
  · refine falls.mono ?_
    intro n fell zero
    omega
  · intro first
    obtain ⟨m, later, zero⟩ := reaches _ (max start first) (Nat.le_max_left _ _) (Nat.le_refl _)
    exact ⟨m, Nat.le_trans (Nat.le_max_right _ _) later, zero⟩

end

/-! ### Queues -/

/-- A queue that grows behind and is served in front as long as it is not empty. -/
structure Fifo {Message : Type} (queue : Nat → List Message) (serves : Nat → Prop) : Prop where
  grows : ∀ n, ¬ serves n → queue n <+: queue (n + 1)
  advances : ∀ n, serves n → (queue n).tail <+: queue (n + 1)
  recurs : ∀ n, queue n ≠ [] → ∃ m, n ≤ m ∧ serves m

variable {Message : Type} {queue : Nat → List Message} {serves : Nat → Prop}

/-- What is queued is still in front when the queue is served next. -/
theorem Fifo.next_service (fifo : Fifo queue serves) {n : Nat} (present : queue n ≠ []) :
    ∃ m, n ≤ m ∧ serves m ∧ queue n <+: queue m := by
  have waits : ∀ distance n, serves (n + distance) →
      ∃ m, n ≤ m ∧ serves m ∧ queue n <+: queue m := by
    intro distance
    induction distance with
    | zero => exact fun n served => ⟨n, Nat.le_refl n, served, List.prefix_refl _⟩
    | succ distance ih =>
        intro n served
        by_cases now : serves n
        · exact ⟨n, Nat.le_refl n, now, List.prefix_refl _⟩
        · have nearer : n + (distance + 1) = n + 1 + distance := by omega
          rw [nearer] at served
          obtain ⟨m, later, service, grown⟩ := ih (n + 1) served
          exact ⟨m, by omega, service, (fifo.grows n now).trans grown⟩
  obtain ⟨m, later, served⟩ := fifo.recurs n present
  obtain ⟨distance, rfl⟩ := Nat.exists_eq_add_of_le later
  exact waits distance n served

/-- Every entry comes to the front and is served. -/
theorem Fifo.served (fifo : Fifo queue serves) {n : Nat} {message : Message}
    (queued : message ∈ queue n) :
    ∃ m, n ≤ m ∧ serves m ∧ ∃ rest, queue m = message :: rest := by
  obtain ⟨before, after, split⟩ := List.append_of_mem queued
  -- induction on the entries in front
  induction before generalizing n after with
  | nil =>
      obtain ⟨m, later, served, grown⟩ := fifo.next_service (List.ne_nil_of_mem queued)
      obtain ⟨more, extended⟩ := grown
      refine ⟨m, later, served, after ++ more, ?_⟩
      rw [← extended, split]
      rfl
  | cons first before ih =>
      obtain ⟨m, later, served, grown⟩ := fifo.next_service (List.ne_nil_of_mem queued)
      obtain ⟨more, extended⟩ := grown
      obtain ⟨sent, advanced⟩ := fifo.advances m served
      have moved : queue (m + 1) = before ++ message :: (after ++ (more ++ sent)) := by
        rw [← advanced, ← extended, split]
        simp
      obtain ⟨last, after', service, front⟩ := ih (by rw [moved]; simp) _ moved
      exact ⟨last, by omega, service, front⟩

end ServiceNetwork.Replay
