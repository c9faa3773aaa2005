/-
Groups of joined tasks.

A group that is joined with `tryJoinAll` fails with the first of its tasks that
panics, and one joined with `joinAll` waits for all of them whatever becomes of
them.  A system that runs as long as its group does is stopped by one step.
-/

import ServiceNetwork.Library.Replay

namespace ServiceNetwork.Joining

open ServiceNetwork.Replay

/-- What has become of a task. -/
inductive Fate where
  | running
  | ended
  | panicked
  deriving DecidableEq, Repr

def tryJoinAll (tasks : List Fate) : Fate :=
  if .panicked ∈ tasks then .panicked
  else if ∀ task ∈ tasks, task = .ended then .ended
  else .running

def joinAll (tasks : List Fate) : Fate :=
  if .running ∈ tasks then .running else .ended

variable {tasks : List Fate}

theorem tryJoinAll_eq_panicked : tryJoinAll tasks = .panicked ↔ .panicked ∈ tasks := by
  unfold tryJoinAll
  split
  · rename_i panicked
    exact iff_of_true rfl panicked
  · rename_i unharmed
    refine iff_of_false ?_ unharmed
    split <;> exact nofun

theorem tryJoinAll_eq_ended : tryJoinAll tasks = .ended ↔ ∀ task ∈ tasks, task = .ended := by
  unfold tryJoinAll
  split
  · rename_i panicked
    refine iff_of_false nofun ?_
    intro ended
    cases ended _ panicked
  · split
    · rename_i ended
      exact iff_of_true rfl ended
    · rename_i unfinished
      exact iff_of_false nofun unfinished

/-- A group with a task that runs on ends only by a panic. -/
theorem tryJoinAll_ne_ended (member : .running ∈ tasks) : tryJoinAll tasks ≠ .ended := by
  intro ended
  cases tryJoinAll_eq_ended.mp ended _ member

theorem joinAll_ne_panicked : joinAll tasks ≠ .panicked := by
  unfold joinAll
  split <;> exact nofun

theorem panicked_mem_set {index : Nat} {fate : Fate} (unharmed : .panicked ∉ tasks) :
    .panicked ∈ tasks.set index fate ↔ index < tasks.length ∧ fate = .panicked := by
  constructor
  · intro member
    rcases List.mem_or_eq_of_mem_set member with before | same
    · exact absurd before unharmed
    · refine ⟨?_, same.symm⟩
      by_contra outside
      rw [List.set_eq_of_length_le (by omega)] at member
      exact unharmed member
  · rintro ⟨inside, rfl⟩
    exact List.mem_set inside .panicked

/-! ### Systems that run as long as their group -/

variable {State Event : Type}

/-- Take steps only while the group is running. -/
def whileRunning (handles : State → List Fate) (step : State → Event → Option State)
    (state : State) (event : Event) : Option State :=
  if tryJoinAll (handles state) = .running then step state event else none

variable {handles : State → List Fate} {step : State → Event → Option State}
  {start state next final : State} {event : Event} {events : List Event}

theorem whileRunning_eq_some :
    whileRunning handles step state event = some next ↔
      tryJoinAll (handles state) = .running ∧ step state event = some next := by
  unfold whileRunning
  split
  · rename_i running
    exact (and_iff_right running).symm
  · rename_i stopped
    refine iff_of_false nofun ?_
    rintro ⟨running, _⟩
    exact stopped running

/-- A run whose group no longer runs was running up to its last step. -/
theorem last_of_stopped (running : tryJoinAll (handles start) = .running)
    (run : replay (whileRunning handles step) start events = some final)
    (stopped : tryJoinAll (handles final) ≠ .running) :
    ∃ before event current, events = before ++ [event] ∧
      replay (whileRunning handles step) start before = some current := by
  cases events using List.reverseRecOn with
  | nil =>
      cases run
      exact absurd running stopped
  | append_singleton before event =>
      obtain ⟨current, _, reached, _, _⟩ := replay_split run
      exact ⟨before, event, current, rfl, reached⟩

/-- Where it is known which steps make a task of the group panic, a run has
failed exactly when its last step was one of them. -/
theorem fails_iff_last {Holds : State → Prop} {Fatal : State → Event → Prop}
    (running : tryJoinAll (handles start) = .running) (initially : Holds start)
    (preserved : ∀ current event next, Holds current → step current event = some next →
      Holds next)
    (panics : ∀ current event next, Holds current → tryJoinAll (handles current) = .running →
      step current event = some next →
      (tryJoinAll (handles next) = .panicked ↔ Fatal current event))
    (run : replay (whileRunning handles step) start events = some final) :
    tryJoinAll (handles final) = .panicked ↔
      ∃ before event current, events = before ++ [event] ∧
        replay (whileRunning handles step) start before = some current ∧
        Fatal current event := by
  have atLast : ∀ before event current, events = before ++ [event] →
      replay (whileRunning handles step) start before = some current →
      (tryJoinAll (handles final) = .panicked ↔ Fatal current event) := by
    intro before event current split reached
    rw [split, replay_concat, reached] at run
    obtain ⟨runningThere, taken⟩ := whileRunning_eq_some.mp run
    have holds : Holds current := by
      refine replay_preserves initially ?_ reached
      intro earlier taken later holds stepped
      exact preserved earlier taken later holds (whileRunning_eq_some.mp stepped).2
    exact panics current event final holds runningThere taken
  constructor
  · intro failed
    obtain ⟨before, event, current, split, reached⟩ :=
      last_of_stopped running run (by rw [failed]; exact nofun)
    exact ⟨before, event, current, split, reached, (atLast before event current split reached).mp
      failed⟩
  · rintro ⟨before, event, current, split, reached, fatal⟩
    exact (atLast before event current split reached).mpr fatal

end ServiceNetwork.Joining
