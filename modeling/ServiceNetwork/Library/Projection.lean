/-
The part of one party in the runs of a joint machine.

A step of the joint machine is, for a party, no step or some steps of its own;
which ones may depend on the joint state.  If each joint step moves the party's
part of the state by those steps, the steps collected over a joint run are a
run of the party.
-/

import ServiceNetwork.Library.History

namespace ServiceNetwork.Replay

variable {Joint Event Local Action : Type} {step : Joint → Event → Option Joint}
  {localStep : Local → Action → Option Local} {own : Joint → Event → List Action}
  {start current next final : Joint} {events before : List Event} {event : Event}

/-- The steps that the party takes in a joint run. -/
def ownSteps (step : Joint → Event → Option Joint) (own : Joint → Event → List Action)
    (start : Joint) (events : List Event) : List Action :=
  chronicle step (fun state event taken => taken ++ own state event) start [] events

theorem ownSteps_concat (reached : replay step start before = some current)
    (stepped : step current event = some next) :
    ownSteps step own start (before ++ [event]) =
      ownSteps step own start before ++ own current event := by
  unfold ownSteps
  rw [chronicle_concat reached stepped]

/-- A joint run restricted to one party is a run of that party. -/
theorem replay_ownSteps (view : Joint → Local)
    (simulates : ∀ current event next, step current event = some next →
      replay localStep (view current) (own current event) = some (view next))
    (replayed : replay step start events = some final) :
    replay localStep (view start) (ownSteps step own start events) = some (view final) := by
  refine @replay_holds Joint Event step
    (fun taken state =>
      replay localStep (view start) (ownSteps step own start taken) = some (view state))
    start rfl ?_ events final replayed
  intro before current event next reached restricted stepped
  rw [ownSteps_concat reached stepped, replay_append, restricted, Option.bind_some]
  exact simulates current event next stepped

theorem mem_ownSteps {action : Action} (replayed : replay step start events = some final)
    (member : action ∈ ownSteps step own start events) :
    ∃ before event after current, events = before ++ event :: after ∧
      replay step start before = some current ∧ action ∈ own current event := by
  revert member
  refine @replay_holds Joint Event step
    (fun taken _ => action ∈ ownSteps step own start taken →
      ∃ before event after current, taken = before ++ event :: after ∧
        replay step start before = some current ∧ action ∈ own current event)
    start (fun impossible => by cases impossible) ?_ events final replayed
  intro before current event next reached earlier stepped member
  rw [ownSteps_concat reached stepped, List.mem_append] at member
  rcases member with already | now
  · obtain ⟨before', event', after', current', rfl, reached', own'⟩ := earlier already
    exact ⟨before', event', after' ++ [event], current', by simp, reached', own'⟩
  · exact ⟨before, event, [], current, rfl, reached, now⟩

/-- The steps of a party that are of a kind, tallied over the joint run. -/
theorem tally_ownSteps (kind : Action → Bool)
    (replayed : replay step start events = some final) :
    tally step (fun state event => (own state event).countP kind) start events =
      (ownSteps step own start events).countP kind := by
  refine @replay_holds Joint Event step
    (fun taken _ => tally step (fun state event => (own state event).countP kind) start taken =
      (ownSteps step own start taken).countP kind) start rfl ?_ events final replayed
  intro before current event next reached same stepped
  rw [tally_concat reached stepped, ownSteps_concat reached stepped, List.countP_append, same]

end ServiceNetwork.Replay
