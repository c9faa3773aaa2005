/-
Replaying action lists through a partial step function.

An action that is not enabled, or that ends the process, refuses the whole
replay.  A predicate that survives one step survives every replay; the
history-indexed rule also lets it speak about the actions already taken.
-/

import Mathlib.Data.List.Induction

namespace ServiceNetwork.Replay

variable {State Action : Type}

/-- Take the actions in order, stopping with `none` at the first refusal. -/
def replay (step : State → Action → Option State) : State → List Action → Option State
  | state, [] => some state
  | state, action :: rest =>
      match step state action with
      | none => none
      | some next => replay step next rest

variable {step : State → Action → Option State}

@[simp] theorem replay_nil (state : State) : replay step state [] = some state := rfl

theorem replay_cons (state : State) (action : Action) (rest : List Action) :
    replay step state (action :: rest) =
      (step state action).bind (fun next => replay step next rest) := by
  simp only [replay]
  cases step state action <;> rfl

theorem replay_append (state : State) (first second : List Action) :
    replay step state (first ++ second) =
      (replay step state first).bind (fun next => replay step next second) := by
  induction first generalizing state with
  | nil => rfl
  | cons action rest ih =>
      rw [List.cons_append, replay_cons, replay_cons]
      cases step state action with
      | none => rfl
      | some next => exact ih next

theorem replay_concat (state : State) (actions : List Action) (action : Action) :
    replay step state (actions ++ [action]) =
      (replay step state actions).bind (fun next => step next action) := by
  rw [replay_append]
  cases replay step state actions with
  | none => rfl
  | some next =>
      rw [Option.bind_some, Option.bind_some, replay_cons]
      cases step next action <;> rfl

/-- A successful replay splits at every action it took. -/
theorem replay_split {state final : State} {before after : List Action} {action : Action}
    (replayed : replay step state (before ++ action :: after) = some final) :
    ∃ current next, replay step state before = some current ∧
      step current action = some next ∧ replay step next after = some final := by
  rw [replay_append] at replayed
  cases reached : replay step state before with
  | none =>
      rw [reached] at replayed
      cases replayed
  | some current =>
      rw [reached, Option.bind_some, replay_cons] at replayed
      cases stepped : step current action with
      | none =>
          rw [stepped] at replayed
          cases replayed
      | some next =>
          rw [stepped, Option.bind_some] at replayed
          exact ⟨current, next, rfl, stepped, replayed⟩

/-- Invariant rule with history: `Holds` may speak about the actions taken so
far, and its step premise about the replay that reached the current state. -/
theorem replay_holds {Holds : List Action → State → Prop} {start : State}
    (initially : Holds [] start)
    (preserved : ∀ before current action next, replay step start before = some current →
      Holds before current → step current action = some next → Holds (before ++ [action]) next)
    {actions : List Action} {final : State} (replayed : replay step start actions = some final) :
    Holds actions final := by
  induction actions using List.reverseRecOn generalizing final with
  | nil =>
      cases replayed
      exact initially
  | append_singleton before action ih =>
      obtain ⟨current, next, reached, stepped, rest⟩ := replay_split replayed
      cases rest
      exact preserved before current action final reached (ih reached) stepped

/-- Invariant rule without history. -/
theorem replay_preserves {Holds : State → Prop} {start : State} (initially : Holds start)
    (preserved : ∀ current action next, Holds current → step current action = some next →
      Holds next)
    {actions : List Action} {final : State} (replayed : replay step start actions = some final) :
    Holds final :=
  @replay_holds State Action step (fun _ state => Holds state) start initially
    (fun _ current action next _ holds stepped => preserved current action next holds stepped)
    actions final replayed

/-! ### Conditions on each step of a replay -/

variable {start : State} {Clean : State → Action → State → Prop}

/-- Each step that a replay of `actions` takes meets the condition. -/
def AtEveryStep (step : State → Action → Option State) (start : State)
    (Clean : State → Action → State → Prop) (actions : List Action) : Prop :=
  ∀ before action after current next, actions = before ++ action :: after →
    replay step start before = some current → step current action = some next →
    Clean current action next

theorem atEveryStep_nil : AtEveryStep step start Clean [] := by
  intro before action after current next split
  cases before <;> cases split

theorem AtEveryStep.initial {before after : List Action}
    (clean : AtEveryStep step start Clean (before ++ after)) :
    AtEveryStep step start Clean before := by
  intro earlier taken rest current next split
  exact clean earlier taken (rest ++ after) current next (by rw [split]; simp)

theorem concat_eq_split {before earlier after : List Action} {action last : Action}
    (split : before ++ [last] = earlier ++ action :: after) :
    (before = earlier ∧ last = action) ∨ ∃ rest, before = earlier ++ action :: rest := by
  cases after using List.reverseRecOn with
  | nil =>
      obtain ⟨same, sameLast⟩ := List.append_inj' split rfl
      exact Or.inl ⟨same, List.singleton_inj.mp sameLast⟩
  | append_singleton rest final _ =>
      rw [← List.cons_append, ← List.append_assoc] at split
      obtain ⟨same, _⟩ := List.append_inj' split rfl
      exact Or.inr ⟨rest, same⟩

theorem atEveryStep_concat {before : List Action} {action : Action} :
    AtEveryStep step start Clean (before ++ [action]) ↔
      AtEveryStep step start Clean before ∧
        ∀ current next, replay step start before = some current →
          step current action = some next → Clean current action next := by
  constructor
  · intro clean
    exact ⟨clean.initial, fun current next => clean before action [] current next rfl⟩
  · rintro ⟨clean, last⟩ earlier taken after current next split
    rcases concat_eq_split split with ⟨rfl, rfl⟩ | ⟨rest, split⟩
    · exact last current next
    · exact clean earlier taken rest current next split

theorem atEveryStep_cons {action : Action} {rest : List Action} {next : State}
    (stepped : step start action = some next) :
    AtEveryStep step start Clean (action :: rest) ↔
      Clean start action next ∧ AtEveryStep step next Clean rest := by
  constructor
  · intro clean
    refine ⟨clean [] action rest start next rfl rfl stepped, ?_⟩
    intro before taken after current following split reached
    refine clean (action :: before) taken after current following (by rw [split]; rfl) ?_
    rw [replay_cons, stepped]
    exact reached
  · rintro ⟨first, clean⟩ before taken after current following split reached takenStep
    cases before with
    | nil =>
        cases split
        cases reached
        rw [stepped] at takenStep
        cases takenStep
        exact first
    | cons other before =>
        cases split
        rw [replay_cons, stepped] at reached
        exact clean before taken after current following rfl reached takenStep

/-- Invariant rule for replays whose steps all meet a condition. -/
theorem replay_preserves_atEveryStep {Holds : State → Prop} (initially : Holds start)
    (preserved : ∀ current action next, Holds current → Clean current action next →
      step current action = some next → Holds next)
    {actions : List Action} {final : State} (replayed : replay step start actions = some final)
    (clean : AtEveryStep step start Clean actions) : Holds final := by
  refine @replay_holds State Action step
    (fun taken current => AtEveryStep step start Clean taken → Holds current) start
    (fun _ => initially) ?_ actions final replayed clean
  intro before current action next reached holds taken clean
  obtain ⟨clean, last⟩ := atEveryStep_concat.mp clean
  exact preserved current action next (holds clean) (last current next reached taken) taken

/-! ### The most recent event of a replay -/

variable {Event : State → Action → Prop}

/-- The most recent step of the actions at which the event held is `action`,
taken after `before` in the state `current`. -/
inductive MostRecent (step : State → Action → Option State) (start : State)
    (Event : State → Action → Prop) : List Action → List Action → State → Action → Prop where
  | here {before : List Action} {current : State} {action : Action}
      (reached : replay step start before = some current) (event : Event current action) :
      MostRecent step start Event (before ++ [action]) before current action
  | later {actions before : List Action} {latest current : State} {action last : Action}
      (reached : replay step start actions = some latest) (silent : ¬ Event latest last)
      (recent : MostRecent step start Event actions before current action) :
      MostRecent step start Event (actions ++ [last]) before current action

theorem MostRecent.occurred {actions before : List Action} {current : State} {action : Action}
    (recent : MostRecent step start Event actions before current action) :
    (∃ after, actions = before ++ action :: after) ∧
      replay step start before = some current ∧ Event current action := by
  induction recent with
  | here reached event => exact ⟨⟨[], rfl⟩, reached, event⟩
  | later reached silent recent ih =>
      obtain ⟨⟨after, split⟩, reachedThere, event⟩ := ih
      exact ⟨⟨after ++ [_], by rw [split]; simp; rfl⟩, reachedThere, event⟩

theorem MostRecent.unique {actions before before' : List Action} {current current' : State}
    {action action' : Action}
    (recent : MostRecent step start Event actions before current action)
    (other : MostRecent step start Event actions before' current' action') :
    before = before' ∧ current = current' ∧ action = action' := by
  induction recent with
  | @here before current action reached event =>
      generalize joined : before ++ [action] = actions at other
      cases other with
      | here reached' _ =>
          obtain ⟨rfl, same⟩ := List.append_inj' joined rfl
          cases same
          rw [reached] at reached'
          cases reached'
          exact ⟨rfl, rfl, rfl⟩
      | later reached' silent _ =>
          obtain ⟨rfl, same⟩ := List.append_inj' joined rfl
          cases same
          rw [reached] at reached'
          cases reached'
          exact absurd event silent
  | @later taken before latest current action last reached silent _ ih =>
      generalize joined : taken ++ [last] = actions at other
      cases other with
      | here reached' event =>
          obtain ⟨rfl, same⟩ := List.append_inj' joined rfl
          cases same
          rw [reached] at reached'
          cases reached'
          exact absurd event silent
      | later _ _ recent' =>
          obtain ⟨rfl, _⟩ := List.append_inj' joined rfl
          exact ih recent'

theorem MostRecent.within {actions before initial : List Action} {current : State}
    {action : Action} (recent : MostRecent step start Event actions before current action)
    (segment : initial <+: actions) (longer : before.length < initial.length) :
    MostRecent step start Event initial before current action := by
  induction recent with
  | here reached event =>
      rcases List.prefix_concat_iff.mp segment with rfl | shorter
      · exact .here reached event
      · exact absurd shorter.length_le (by omega)
  | later reached silent recent ih =>
      rcases List.prefix_concat_iff.mp segment with rfl | shorter
      · exact .later reached silent recent
      · exact ih shorter longer

end ServiceNetwork.Replay
