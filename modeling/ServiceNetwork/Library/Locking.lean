/-
Tasks that take locks, wait in line for them and send into a bounded channel.

A task runs sections, lists of awaits.  A lock is held by readers or by one
writer, and is granted to those who wait for it in the order in which they
asked.  If sections nest their locks upward in one order, tasks can only be
stuck on the channel.
-/

import Mathlib.Logic.Function.Basic
import Mathlib.Data.List.Nodup
import ServiceNetwork.Library.Replay

namespace ServiceNetwork.Locking

open Function
open ServiceNetwork.Replay

inductive Mode where
  | shared
  | exclusive
  deriving DecidableEq, Repr

/-- One await of a section.  `pause` is for what answers from outside. -/
inductive Op (Lock Message : Type) where
  | acquire (lock : Lock) (mode : Mode)
  | release (lock : Lock)
  | send (message : Message)
  | pause
  deriving DecidableEq, Repr

inductive Holders (Task : Type) where
  | readers (tasks : List Task)
  | writer (task : Task)
  deriving DecidableEq, Repr

variable {Task Lock Message : Type}

def Holders.tasks : Holders Task → List Task
  | .readers tasks => tasks
  | .writer task => [task]

/-- The holders with one more, where the lock can be had in this mode. -/
def Holders.enter (task : Task) : Mode → Holders Task → Option (Holders Task)
  | .shared, .readers tasks => some (.readers (task :: tasks))
  | .exclusive, .readers [] => some (.writer task)
  | _, _ => none

theorem Holders.tasks_enter {task : Task} {mode : Mode} {holders holders' : Holders Task}
    (admitted : holders.enter task mode = some holders') :
    holders'.tasks = task :: holders.tasks := by
  unfold Holders.enter at admitted
  split at admitted
  · cases admitted
    rfl
  · cases admitted
    rfl
  · cases admitted

theorem Holders.enter_of_free {holders : Holders Task} (free : holders.tasks = []) (task : Task)
    (mode : Mode) : ∃ holders', holders.enter task mode = some holders' := by
  cases holders with
  | readers tasks =>
      cases free
      cases mode with
      | shared => exact ⟨_, rfl⟩
      | exclusive => exact ⟨_, rfl⟩
  | writer owner => cases free

variable [DecidableEq Task]

def Holders.leave (task : Task) : Holders Task → Holders Task
  | .readers tasks => .readers (tasks.erase task)
  | .writer owner => if owner = task then .readers [] else .writer owner

theorem Holders.tasks_leave (task : Task) (holders : Holders Task) :
    (holders.leave task).tasks = holders.tasks.erase task := by
  cases holders with
  | readers tasks => rfl
  | writer owner =>
      by_cases same : owner = task
      · subst same
        simp [Holders.leave, Holders.tasks]
      · simp [Holders.leave, Holders.tasks, same]

/-- What each task still has to do in its section and the locks it holds; who
holds each lock and who waits for it, the longest first; the channel. -/
structure State (Task Lock Message : Type) where
  ops : Task → List (Op Lock Message)
  held : Task → List Lock
  holders : Lock → Holders Task
  waiting : Lock → List Task
  channel : List Message

def State.initial : State Task Lock Message :=
  { ops := fun _ => []
    held := fun _ => []
    holders := fun _ => .readers []
    waiting := fun _ => []
    channel := [] }

inductive Event (Task Lock Message : Type) where
  | begins (task : Task) (ops : List (Op Lock Message))
  | receives (task : Task) (message : Message) (ops : List (Op Lock Message))
  | moves (task : Task)
  | grants (lock : Lock)

def State.begins (task : Task) (ops : List (Op Lock Message)) (state : State Task Lock Message) :
    Option (State Task Lock Message) :=
  match state.ops task with
  | [] => some { state with ops := update state.ops task ops }
  | _ :: _ => none

variable [DecidableEq Lock]

/-- A task may only ask for a lock once; it then waits for the grant. -/
def State.moves (capacity : Nat) (task : Task) (state : State Task Lock Message) :
    Option (State Task Lock Message) :=
  match state.ops task with
  | [] => none
  | .acquire lock _ :: _ =>
      if task ∈ state.waiting lock then none
      else
        some { state with waiting := update state.waiting lock (state.waiting lock ++ [task]) }
  | .release lock :: rest =>
      if lock ∈ state.held task then
        some
          { state with
            ops := update state.ops task rest
            held := update state.held task ((state.held task).erase lock)
            holders := update state.holders lock ((state.holders lock).leave task) }
      else none
  | .send message :: rest =>
      if state.channel.length < capacity then
        some
          { state with
            ops := update state.ops task rest
            channel := state.channel ++ [message] }
      else none
  | .pause :: rest => some { state with ops := update state.ops task rest }

/-- The task that has waited longest gets the lock, once its mode can be had. -/
def State.grants (lock : Lock) (state : State Task Lock Message) :
    Option (State Task Lock Message) :=
  match state.waiting lock with
  | [] => none
  | task :: behind =>
      match state.ops task with
      | .acquire wanted mode :: rest =>
          if wanted = lock then
            match (state.holders lock).enter task mode with
            | none => none
            | some holders =>
                some
                  { state with
                    ops := update state.ops task rest
                    held := update state.held task (lock :: state.held task)
                    holders := update state.holders lock holders
                    waiting := update state.waiting lock behind }
          else none
      | _ => none

def step [DecidableEq Message] (capacity : Nat) (state : State Task Lock Message) :
    Event Task Lock Message → Option (State Task Lock Message)
  | .begins task ops => state.begins task ops
  | .receives task message ops =>
      match state.channel with
      | [] => none
      | first :: rest =>
          if first = message then { state with channel := rest }.begins task ops else none
  | .moves task => state.moves capacity task
  | .grants lock => state.grants lock

/-! ### What each event can do -/

/-- The steps, one case for each kind of await. -/
inductive Outcome (capacity : Nat) (state : State Task Lock Message) :
    Event Task Lock Message → State Task Lock Message → Prop where
  | begins (task : Task) (ops : List (Op Lock Message)) (idle : state.ops task = []) :
      Outcome capacity state (.begins task ops) { state with ops := update state.ops task ops }
  | receives (task : Task) (message : Message) (ops : List (Op Lock Message))
      (idle : state.ops task = []) (rest : List Message) (head : state.channel = message :: rest) :
      Outcome capacity state (.receives task message ops)
        { state with ops := update state.ops task ops, channel := rest }
  | asks (task : Task) (lock : Lock) (mode : Mode) (rest : List (Op Lock Message))
      (next : state.ops task = .acquire lock mode :: rest) (absent : task ∉ state.waiting lock) :
      Outcome capacity state (.moves task)
        { state with waiting := update state.waiting lock (state.waiting lock ++ [task]) }
  | releases (task : Task) (lock : Lock) (rest : List (Op Lock Message))
      (next : state.ops task = .release lock :: rest) (holds : lock ∈ state.held task) :
      Outcome capacity state (.moves task)
        { state with
          ops := update state.ops task rest
          held := update state.held task ((state.held task).erase lock)
          holders := update state.holders lock ((state.holders lock).leave task) }
  | sends (task : Task) (message : Message) (rest : List (Op Lock Message))
      (next : state.ops task = .send message :: rest) (room : state.channel.length < capacity) :
      Outcome capacity state (.moves task)
        { state with ops := update state.ops task rest, channel := state.channel ++ [message] }
  | pauses (task : Task) (rest : List (Op Lock Message))
      (next : state.ops task = .pause :: rest) :
      Outcome capacity state (.moves task) { state with ops := update state.ops task rest }
  | grants (lock : Lock) (task : Task) (behind : List Task) (mode : Mode)
      (rest : List (Op Lock Message)) (holders : Holders Task)
      (first : state.waiting lock = task :: behind)
      (next : state.ops task = .acquire lock mode :: rest)
      (admitted : (state.holders lock).enter task mode = some holders) :
      Outcome capacity state (.grants lock)
        { state with
          ops := update state.ops task rest
          held := update state.held task (lock :: state.held task)
          holders := update state.holders lock holders
          waiting := update state.waiting lock behind }

variable {capacity : Nat} {state next : State Task Lock Message}
  {event : Event Task Lock Message}

omit [DecidableEq Lock] in
theorem begins_eq_some {task : Task} {ops : List (Op Lock Message)}
    (taken : state.begins task ops = some next) :
    state.ops task = [] ∧ next = { state with ops := update state.ops task ops } := by
  unfold State.begins at taken
  split at taken
  · rename_i idle
    cases taken
    exact ⟨idle, rfl⟩
  · cases taken

theorem moves_outcome {task : Task} (taken : state.moves capacity task = some next) :
    Outcome capacity state (.moves task) next := by
  unfold State.moves at taken
  split at taken
  · cases taken
  · rename_i lock mode rest ahead
    split at taken
    · cases taken
    · rename_i absent
      cases taken
      exact .asks task lock mode rest ahead absent
  · rename_i lock rest ahead
    split at taken
    · rename_i holds
      cases taken
      exact .releases task lock rest ahead holds
    · cases taken
  · rename_i message rest ahead
    split at taken
    · rename_i room
      cases taken
      exact .sends task message rest ahead room
    · cases taken
  · rename_i rest ahead
    cases taken
    exact .pauses task rest ahead

theorem grants_outcome {lock : Lock} (taken : state.grants lock = some next) :
    Outcome capacity state (.grants lock) next := by
  unfold State.grants at taken
  split at taken
  · cases taken
  · rename_i task behind first
    split at taken
    · rename_i wanted mode rest ahead
      split at taken
      · rename_i same
        subst same
        split at taken
        · cases taken
        · rename_i holders admitted
          cases taken
          exact .grants wanted task behind mode rest holders first ahead admitted
      · cases taken
    · cases taken

variable [DecidableEq Message]

theorem step_outcome (taken : step capacity state event = some next) :
    Outcome capacity state event next := by
  cases event with
  | begins task ops =>
      obtain ⟨idle, rfl⟩ := begins_eq_some taken
      exact .begins task ops idle
  | receives task message ops =>
      unfold step at taken
      simp only at taken
      split at taken
      · cases taken
      · rename_i first rest head
        split at taken
        · rename_i same
          subst same
          obtain ⟨idle, rfl⟩ := begins_eq_some taken
          have idle : state.ops task = [] := idle
          exact .receives task first ops idle rest head
        · cases taken
  | moves task => exact moves_outcome taken
  | grants lock => exact grants_outcome taken

theorem step_ops (taken : step capacity state event = some next) (task : Task) :
    next.ops task = state.ops task ∨ state.ops task = [] ∨
      ∃ op rest, state.ops task = op :: rest ∧ next.ops task = rest := by
  cases step_outcome taken with
  | begins actor ops idle | receives actor message ops idle =>
      by_cases same : task = actor
      · subst same
        exact Or.inr (Or.inl idle)
      · exact Or.inl (update_of_ne same _ _)
  | asks => exact Or.inl rfl
  | releases actor lock rest ahead | sends actor message rest ahead | pauses actor rest ahead
  | grants lock actor behind mode rest holders first ahead =>
      by_cases same : task = actor
      · subst same
        exact Or.inr (Or.inr ⟨_, rest, ahead, update_self _ _ _⟩)
      · exact Or.inl (update_of_ne same _ _)

/-- The sections that a task may begin, and those it may begin with a message
that it takes from the channel. -/
def Legal (sections : Task → Option Message → List (Op Lock Message) → Prop) :
    Event Task Lock Message → Prop
  | .begins task ops => sections task none ops
  | .receives task message ops => sections task (some message) ops
  | _ => True

theorem holds_of_legal {sections : Task → Option Message → List (Op Lock Message) → Prop}
    {Holds : State Task Lock Message → Prop}
    (preserved : ∀ current event next, Holds current → Legal sections event →
      step capacity current event = some next → Holds next)
    (initially : Holds state) {events : List (Event Task Lock Message)}
    (legal : ∀ event ∈ events, Legal sections event) {final : State Task Lock Message}
    (replayed : replay (step capacity) state events = some final) : Holds final := by
  induction events generalizing state with
  | nil =>
      cases replayed
      exact initially
  | cons event rest ih =>
      rw [replay_cons] at replayed
      obtain ⟨next, taken, replayed⟩ := Option.bind_eq_some_iff.mp replayed
      have first := preserved state event next initially (legal event List.mem_cons_self) taken
      exact ih first (fun other member => legal other (List.mem_cons_of_mem _ member)) replayed

end ServiceNetwork.Locking
