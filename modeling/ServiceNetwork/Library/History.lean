/-
What a replay leaves behind besides its state.

A chronicle folds a note of every step taken, which may read the state the step
was taken in; it restricts nothing.  A tally is the chronicle that adds up what
the steps count for.  Where each step keeps a measure of the state balanced
against what it counts for, so does the whole replay.
-/

import Mathlib.Algebra.GroupWithZero.Nat
import ServiceNetwork.Library.Replay

namespace ServiceNetwork.Replay

variable {State Action History : Type} {step : State → Action → Option State}

/-- Fold a note of each step into the history, up to the first refusal. -/
def chronicle (step : State → Action → Option State) (note : State → Action → History → History) :
    State → History → List Action → History
  | _, history, [] => history
  | state, history, action :: rest =>
      match step state action with
      | none => history
      | some next => chronicle step note next (note state action history) rest

variable {note : State → Action → History → History} {start current next final : State}
  {history : History} {before actions : List Action} {action : Action}

theorem chronicle_cons (stepped : step start action = some next) (rest : List Action) :
    chronicle step note start history (action :: rest) =
      chronicle step note next (note start action history) rest := by
  simp only [chronicle, stepped]

theorem chronicle_append (reached : replay step start before = some current)
    (after : List Action) :
    chronicle step note start history (before ++ after) =
      chronicle step note current (chronicle step note start history before) after := by
  induction before generalizing start history with
  | nil =>
      cases reached
      rfl
  | cons first rest ih =>
      rw [replay_cons] at reached
      obtain ⟨following, stepped, reached⟩ := Option.bind_eq_some_iff.mp reached
      rw [List.cons_append, chronicle_cons stepped, chronicle_cons stepped]
      exact ih reached

theorem chronicle_concat (reached : replay step start before = some current)
    (stepped : step current action = some next) :
    chronicle step note start history (before ++ [action]) =
      note current action (chronicle step note start history before) := by
  rw [chronicle_append reached, chronicle_cons stepped]
  rfl

/-- Invariant rule for the state together with what has been noted. -/
theorem replay_holds_chronicle {Holds : History → State → Prop}
    (initially : Holds history start)
    (preserved : ∀ noted current action next, Holds noted current →
      step current action = some next → Holds (note current action noted) next)
    (replayed : replay step start actions = some final) :
    Holds (chronicle step note start history actions) final := by
  refine @replay_holds State Action step
    (fun taken state => Holds (chronicle step note start history taken) state) start initially
    ?_ actions final replayed
  intro before current action next reached holds stepped
  rw [chronicle_concat reached stepped]
  exact preserved _ current action next holds stepped

/-! ### Tallies -/

/-- What the steps of a replay count for, added up. -/
def tally (step : State → Action → Option State) (count : State → Action → Nat) (start : State)
    (actions : List Action) : Nat :=
  chronicle step (fun state action sum => sum + count state action) start 0 actions

variable {count debit credit : State → Action → Nat} {measure : State → Nat}

theorem tally_concat (reached : replay step start before = some current)
    (stepped : step current action = some next) :
    tally step count start (before ++ [action]) =
      tally step count start before + count current action := by
  unfold tally
  rw [chronicle_concat reached stepped]

theorem tally_congr {other : State → Action → Nat}
    (agree : ∀ before current action next, replay step start before = some current →
      step current action = some next → count current action = other current action)
    (replayed : replay step start actions = some final) :
    tally step count start actions = tally step other start actions := by
  refine @replay_holds State Action step
    (fun taken _ => tally step count start taken = tally step other start taken) start rfl ?_
    actions final replayed
  intro before current action next reached same stepped
  rw [tally_concat reached stepped, tally_concat reached stepped, same,
    agree before current action next reached stepped]

theorem tally_add (first second : State → Action → Nat)
    (replayed : replay step start actions = some final) :
    tally step (fun state action => first state action + second state action) start actions =
      tally step first start actions + tally step second start actions := by
  refine @replay_holds State Action step
    (fun taken _ => tally step (fun state action => first state action + second state action)
      start taken = tally step first start taken + tally step second start taken) start rfl ?_
    actions final replayed
  intro before current action next reached sum stepped
  rw [tally_concat reached stepped, tally_concat reached stepped, tally_concat reached stepped,
    sum]
  omega

theorem tally_of_actions (worth : Action → Nat)
    (replayed : replay step start actions = some final) :
    tally step (fun _ => worth) start actions = (actions.map worth).sum := by
  refine @replay_holds State Action step
    (fun taken _ => tally step (fun _ => worth) start taken = (taken.map worth).sum) start rfl ?_
    actions final replayed
  intro before current action next reached sum stepped
  rw [tally_concat reached stepped, sum, List.map_append, List.sum_append]
  simp

/-- A measure that each step keeps balanced is balanced over the replay. -/
theorem tally_balanced
    (balanced : ∀ current action next, step current action = some next →
      measure next + debit current action = measure current + credit current action)
    (replayed : replay step start actions = some final) :
    measure final + tally step debit start actions =
      measure start + tally step credit start actions := by
  refine @replay_holds State Action step
    (fun taken state => measure state + tally step debit start taken =
      measure start + tally step credit start taken) start rfl ?_ actions final replayed
  intro before current action next reached sum stepped
  rw [tally_concat reached stepped, tally_concat reached stepped]
  have last := balanced current action next stepped
  omega

/-- A measure that each step pays from is never overdrawn by a replay. -/
theorem tally_bounded
    (paid : ∀ current action next, step current action = some next →
      measure next + debit current action ≤ measure current + credit current action)
    (replayed : replay step start actions = some final) :
    measure final + tally step debit start actions ≤
      measure start + tally step credit start actions := by
  refine @replay_holds State Action step
    (fun taken state => measure state + tally step debit start taken ≤
      measure start + tally step credit start taken) start (Nat.le_refl _) ?_
    actions final replayed
  intro before current action next reached sum stepped
  rw [tally_concat reached stepped, tally_concat reached stepped]
  have last := paid current action next stepped
  omega

end ServiceNetwork.Replay
