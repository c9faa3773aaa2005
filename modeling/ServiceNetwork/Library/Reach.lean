/-
What can be reached from a state, and that a goal can be.

Where every state short of the goal can reach one that is nearer to it, the goal
can be reached.
-/

import ServiceNetwork.Library.Replay

namespace ServiceNetwork.Replay

variable {State Action : Type} {step : State → Action → Option State}

/-- Some actions lead from the state to the other. -/
def CanReach (step : State → Action → Option State) (state final : State) : Prop :=
  ∃ actions, replay step state actions = some final

variable {start current next final : State} {action : Action}

theorem CanReach.refl (state : State) : CanReach step state state :=
  ⟨[], rfl⟩

theorem CanReach.trans (first : CanReach step start current)
    (second : CanReach step current final) : CanReach step start final := by
  obtain ⟨before, reached⟩ := first
  obtain ⟨after, replayed⟩ := second
  refine ⟨before ++ after, ?_⟩
  rw [replay_append, reached]
  exact replayed

theorem CanReach.single (stepped : step start action = some next) : CanReach step start next := by
  refine ⟨[action], ?_⟩
  rw [replay_cons, stepped]
  rfl

theorem CanReach.then (first : CanReach step start current)
    (stepped : step current action = some next) : CanReach step start next :=
  first.trans (.single stepped)

/-- Getting nearer to the goal as long as it is not reached, it is reached. -/
theorem reach_of_nearer {Holds Goal : State → Prop} {distance : State → Nat}
    (nearer : ∀ state, Holds state → ¬ Goal state →
      ∃ next, CanReach step state next ∧ Holds next ∧ distance next < distance state)
    {state : State} (holds : Holds state) :
    ∃ final, CanReach step state final ∧ Holds final ∧ Goal final := by
  -- induction on a bound of the distance
  have within : ∀ bound state, Holds state → distance state ≤ bound →
      ∃ final, CanReach step state final ∧ Holds final ∧ Goal final := by
    intro bound
    induction bound with
    | zero =>
        intro state holds near
        by_cases goal : Goal state
        · exact ⟨state, .refl state, holds, goal⟩
        · obtain ⟨next, _, _, less⟩ := nearer state holds goal
          omega
    | succ bound ih =>
        intro state holds near
        by_cases goal : Goal state
        · exact ⟨state, .refl state, holds, goal⟩
        · obtain ⟨next, reaches, holdsNext, less⟩ := nearer state holds goal
          obtain ⟨final, further, holdsFinal, reached⟩ := ih next holdsNext (by omega)
          exact ⟨final, reaches.trans further, holdsFinal, reached⟩
  exact within _ state holds (Nat.le_refl _)

end ServiceNetwork.Replay
