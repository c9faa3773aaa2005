/-
No task waits for a lock for ever.

In a fair run whose channel has room again and again, every holder releases in
the end, the holders of the highest locks first.  Whoever waits longest is then
granted the lock, however many others ask for it meanwhile, and everyone else
moves up.
-/

import ServiceNetwork.Library.Behavior
import ServiceNetwork.Library.Deadlock

namespace ServiceNetwork.Locking

open Filter
open Function
open ServiceNetwork.Replay

variable {Task Lock Message : Type} [DecidableEq Task] [DecidableEq Lock] [DecidableEq Message]
  {capacity : Nat} {state next : State Task Lock Message} {event : Event Task Lock Message}

/-- A task that can go on again and again, and a lock that can be granted from some
time on, is not passed over for ever. -/
structure Fair (run : Behavior (@step Task Lock Message _ _ _ capacity)) : Prop where
  moves : ∀ task n,
    (∀ m, n ≤ m → ∃ k, m ≤ k ∧ (run.state k).moves capacity task ≠ none) →
    ∃ m, n ≤ m ∧ run.action m = .moves task
  grants : ∀ lock n, (∀ m, n ≤ m → (run.state m).grants lock ≠ none) →
    ∃ m, n ≤ m ∧ run.action m = .grants lock

theorem holds_always {run : Behavior (@step Task Lock Message _ _ _ capacity)}
    {sections : Task → Option Message → List (Op Lock Message) → Prop}
    {Holds : State Task Lock Message → Prop}
    (preserved : ∀ current event next, Holds current → Legal sections event →
      step capacity current event = some next → Holds next)
    (initially : Holds (run.state 0)) (legal : ∀ n, Legal sections (run.action n)) (n : Nat) :
    Holds (run.state n) := by
  induction n with
  | zero => exact initially
  | succ n ih => exact preserved _ _ _ ih (legal n) (run.taken n)

/-- The task that begins a section. -/
def Event.starter : Event Task Lock Message → Option Task
  | .begins task _ => some task
  | .receives task _ _ => some task
  | _ => none

theorem step_idle (taken : step capacity state event = some next) {task : Task}
    (idle : state.ops task = []) (elsewhere : event.starter ≠ some task) : next.ops task = [] := by
  cases step_outcome taken with
  | begins actor ops | receives actor message ops =>
      have different : task ≠ actor := fun same => elsewhere (same ▸ rfl)
      simp only [update_of_ne different, idle]
  | asks => exact idle
  | releases actor lock rest ahead | sends actor message rest ahead | pauses actor rest ahead
  | grants lock actor behind mode rest holders first ahead =>
      have different : task ≠ actor := by
        rintro rfl
        rw [idle] at ahead
        cases ahead
      simp only [update_of_ne different, idle]

/-! ### What a step does to one lock -/

/-- Those who wait for a lock keep their places until it is granted. -/
theorem step_waiting (taken : step capacity state event = some next) {lock : Lock}
    (withheld : event ≠ .grants lock) : state.waiting lock <+: next.waiting lock := by
  cases step_outcome taken with
  | asks task wanted =>
      by_cases same : lock = wanted
      · subst same
        simp only [update_self]
        exact List.prefix_append _ _
      · simp only [update_of_ne same]
        exact List.prefix_refl _
  | grants wanted =>
      have different : lock ≠ wanted := fun same => withheld (same ▸ rfl)
      simp only [update_of_ne different]
      exact List.prefix_refl _
  | begins | receives | releases | sends | pauses => exact List.prefix_refl _

/-- Nobody comes to hold a lock that is not granted. -/
theorem step_holders (taken : step capacity state event = some next) {lock : Lock}
    (withheld : event ≠ .grants lock) :
    (next.holders lock).tasks.Sublist (state.holders lock).tasks := by
  cases step_outcome taken with
  | releases task wanted =>
      by_cases same : lock = wanted
      · subst same
        simp only [update_self, Holders.tasks_leave]
        exact List.erase_sublist
      · simp only [update_of_ne same]
        exact List.Sublist.refl _
  | grants wanted =>
      have different : lock ≠ wanted := fun same => withheld (same ▸ rfl)
      simp only [update_of_ne different]
      exact List.Sublist.refl _
  | begins | receives | asks | sends | pauses => exact List.Sublist.refl _

theorem grants_serves {lock : Lock} (taken : step capacity state (.grants lock) = some next) :
    ∃ task behind mode rest, state.waiting lock = task :: behind ∧
      state.ops task = .acquire lock mode :: rest ∧ next.ops task = rest ∧
      next.waiting lock = behind := by
  cases step_outcome taken with
  | grants lock task behind mode rest holders first ahead admitted =>
      exact ⟨task, behind, mode, rest, first, ahead, update_self _ _ _, update_self _ _ _⟩

/-! ### Fair runs -/

section

variable {rank : Lock → Nat} {run : Behavior (@step Task Lock Message _ _ _ capacity)}
  (sound : ∀ n, Sound rank (run.state n)) (fair : Fair run)

/-- The channel has room again and again. -/
def Roomy (run : Behavior (@step Task Lock Message _ _ _ capacity)) : Prop :=
  ∀ n, ∃ m, n ≤ m ∧ (run.state m).channel.length < capacity

/-- Whoever sends with a lock in its hands can expect room. -/
def Patient (run : Behavior (@step Task Lock Message _ _ _ capacity)) : Prop :=
  ∀ task n message rest, (run.state n).ops task = .send message :: rest →
    (run.state n).held task ≠ [] → Roomy run

/-- The section of the task goes on at some time. -/
def GoesOn (run : Behavior (@step Task Lock Message _ _ _ capacity)) (task : Task) (n : Nat) :
    Prop :=
  ∃ m, n ≤ m ∧ (run.state m).ops task ≠ (run.state n).ops task

/-- A section that goes on does so by its next await. -/
theorem GoesOn.leaves {task : Task} {n : Nat} {op : Op Lock Message} {rest : List (Op Lock Message)}
    (goesOn : GoesOn run task n) (ahead : (run.state n).ops task = op :: rest) :
    ∃ m, n ≤ m ∧ (run.state (m + 1)).ops task = rest := by
  obtain ⟨m, later, changed⟩ := goesOn
  rw [ahead] at changed
  obtain ⟨k, after, still, moved⟩ :=
    @last_of_change (fun k => (run.state k).ops task = op :: rest) n m later ahead changed
  rcases step_ops (run.taken k) task with same | idle | ⟨other, behind, front, left⟩
  · exact absurd (same.trans still) moved
  · rw [still] at idle
    cases idle
  · rw [still] at front
    cases front
    exact ⟨k, after, left⟩

include sound fair

/-- A task at a lock comes to wait for it, if it does not go on at once. -/
theorem waits_or_goesOn {task : Task} {n : Nat} {lock : Lock} {mode : Mode}
    {rest : List (Op Lock Message)}
    (ahead : (run.state n).ops task = .acquire lock mode :: rest) :
    GoesOn run task n ∨ ∃ m, n ≤ m ∧ task ∈ (run.state m).waiting lock := by
  by_contra neither
  rw [not_or] at neither
  obtain ⟨stays, absent⟩ := neither
  have same : ∀ m, n ≤ m → (run.state m).ops task = .acquire lock mode :: rest := by
    intro m later
    by_contra changed
    exact stays ⟨m, later, by rwa [ahead]⟩
  obtain ⟨m, later, moved⟩ := fair.moves task n <| by
    intro m later
    refine ⟨m, Nat.le_refl m, fun refused => ?_⟩
    rcases (sound m).stuck_cases (same m later) refused with ⟨_, sends, _⟩ | ⟨_, _, asks, waits⟩
    · cases sends
    · cases asks
      exact absent ⟨m, later, waits⟩
  have taken := run.taken m
  rw [moved] at taken
  have before := same m later
  apply absent
  refine ⟨m + 1, by omega, ?_⟩
  generalize run.state (m + 1) = next at taken
  cases step_outcome taken with
  | asks _ wanted wantedMode behind acquires =>
      rw [before] at acquires
      cases acquires
      simp only [update_self, List.mem_append, List.mem_singleton, or_true]
  | releases _ _ behind front | sends _ _ behind front | pauses _ behind front =>
      rw [before] at front
      cases front

/-- An await that is no wait for a lock ends, a send if there is room. -/
theorem goesOn_of_op {task : Task} {n : Nat} {op : Op Lock Message}
    {rest : List (Op Lock Message)} (ahead : (run.state n).ops task = op :: rest)
    (free : ∀ lock mode, op ≠ .acquire lock mode)
    (room : ∀ message, op = .send message → Roomy run) : GoesOn run task n := by
  by_contra stays
  have same : ∀ m, n ≤ m → (run.state m).ops task = op :: rest := by
    intro m later
    by_contra changed
    exact stays ⟨m, later, by rwa [ahead]⟩
  obtain ⟨m, later, moved⟩ := fair.moves task n <| by
    intro m later
    by_contra refused
    have stays : ∀ k, m ≤ k → (run.state k).moves capacity task = none :=
      fun k after => by_contra fun moves => refused ⟨k, after, moves⟩
    rcases (sound m).stuck_cases (same m later) (stays m (Nat.le_refl m)) with
      ⟨message, sends, _⟩ | ⟨lock, mode, asks, _⟩
    · obtain ⟨k, after, roomy⟩ := room message sends m
      rcases (sound k).stuck_cases (same k (by omega)) (stays k after) with
        ⟨_, _, full⟩ | ⟨lock, mode, asks, _⟩
      · exact absurd roomy (Nat.not_lt.mpr full)
      · exact free lock mode asks
    · exact free lock mode asks
  have taken := run.taken m
  rw [moved] at taken
  have after := same (m + 1) (by omega)
  have before := same m later
  generalize run.state (m + 1) = next at taken after
  cases step_outcome taken with
  | asks _ lock mode behind acquires =>
      rw [before] at acquires
      cases acquires
      exact free lock mode rfl
  | releases _ _ behind front | sends _ _ behind front | pauses _ behind front =>
      rw [before] at front
      cases front
      simp only [update_self] at after
      exact absurd (congrArg List.length after) (by simp)

section

variable (patient : Patient run)

include patient

/-- Where every higher lock is granted in the end, a holder releases. -/
theorem released_in_time {lock : Lock}
    (above : ∀ higher, rank lock < rank higher → ∀ task n mode rest,
      (run.state n).ops task = .acquire higher mode :: rest → GoesOn run task n)
    (holder : Task) (n : Nat) : ∃ m, n ≤ m ∧ lock ∉ (run.state m).held holder := by
  -- induction on what is left of the holder's section
  generalize left : (run.state n).ops holder = ops
  induction ops generalizing n with
  | nil =>
      refine ⟨n, Nat.le_refl n, fun holds => ?_⟩
      obtain ⟨op, rest, ahead⟩ := (sound n).busy_of_held holds
      rw [left] at ahead
      cases ahead
  | cons op rest ih =>
      by_cases holds : lock ∈ (run.state n).held holder
      · have goesOn : GoesOn run holder n := by
          by_cases acquires : ∃ wanted mode, op = .acquire wanted mode
          · obtain ⟨wanted, mode, rfl⟩ := acquires
            have higher := (sound n).below_of_acquire left lock holds
            exact above wanted higher holder n mode rest left
          · refine goesOn_of_op sound fair left
              (fun wanted mode same => acquires ⟨wanted, mode, same⟩) ?_
            rintro message rfl
            exact patient holder n message rest left (List.ne_nil_of_mem holds)
        obtain ⟨m, later, moved⟩ := goesOn.leaves left
        obtain ⟨k, after, free⟩ := ih (m + 1) moved
        exact ⟨k, by omega, free⟩
      · exact ⟨n, Nat.le_refl n, holds⟩

/-- Where every higher lock is granted in the end, so is this one to the first
who waits. -/
theorem granted_in_time {lock : Lock}
    (above : ∀ higher, rank lock < rank higher → ∀ task n mode rest,
      (run.state n).ops task = .acquire higher mode :: rest → GoesOn run task n)
    (n : Nat) (waited : (run.state n).waiting lock ≠ []) :
    ∃ m, n ≤ m ∧ run.action m = .grants lock := by
  by_contra withheld
  have never : ∀ m, n ≤ m → run.action m ≠ .grants lock :=
    fun m later grants => withheld ⟨m, later, grants⟩
  have waits : ∀ m, n ≤ m → (run.state m).waiting lock ≠ [] := by
    intro m later
    induction m, later using Nat.le_induction with
    | base => exact waited
    | succ m later ih =>
        intro nobody
        have kept := step_waiting (run.taken m) (never m later)
        rw [nobody] at kept
        exact ih (List.prefix_nil.mp kept)
  have freed : ∀ᶠ m in atTop, ((run.state m).holders lock).tasks.length = 0 := by
    have falls := fun m later => (step_holders (run.taken m) (never m later)).length_le
    refine @zero_of_falling (fun m => ((run.state m).holders lock).tasks.length)
      (eventually_atTop.mpr ⟨n, falls⟩) (eventually_atTop.mpr ⟨n, ?_⟩)
    intro m later someone
    obtain ⟨holder, holds⟩ := List.exists_mem_of_length_pos (Nat.pos_of_ne_zero someone)
    obtain ⟨k, after, released⟩ := released_in_time sound fair patient above holder m
    rw [(sound k).holds_iff] at released
    obtain ⟨last, between, still, left⟩ :=
      @last_of_change (fun k => holder ∈ ((run.state k).holders lock).tasks) m k after holds
        released
    have fewer := step_holders (run.taken last) (never last (by omega))
    refine ⟨last, between, Nat.lt_of_le_of_ne fewer.length_le fun same => left ?_⟩
    rw [fewer.eq_of_length same]
    exact still
  obtain ⟨start, free⟩ := eventually_atTop.mp freed
  obtain ⟨m, later, granted⟩ := fair.grants lock (max n start) <| by
    intro m later refused
    obtain ⟨holder, holds⟩ := (sound m).holder_of_waiting (waits m (by omega)) refused
    rw [(sound m).holds_iff, List.length_eq_zero_iff.mp (free m (by omega))] at holds
    cases holds
  exact never m (by omega) granted

/-- A lock that a task asks for is granted to it. -/
theorem goesOn_of_acquire {top : Nat} (bounded : ∀ lock, rank lock ≤ top) {lock : Lock}
    {task : Task} {n : Nat} {mode : Mode} {rest : List (Op Lock Message)}
    (ahead : (run.state n).ops task = .acquire lock mode :: rest) : GoesOn run task n := by
  -- induction on how far the lock is from the top
  generalize distance : top - rank lock = above
  induction above using Nat.strongRecOn generalizing lock task n mode rest with
  | ind above ih =>
      have higherGranted : ∀ higher, rank lock < rank higher → ∀ task n mode rest,
          (run.state n).ops task = .acquire higher mode :: rest → GoesOn run task n := by
        intro higher isHigher task n mode rest ahead
        have atMost := bounded higher
        exact ih (top - rank higher) (by omega) ahead rfl
      rcases waits_or_goesOn sound fair ahead with goesOn | ⟨m, later, waits⟩
      · exact goesOn
      · have fifo : Fifo (fun n => (run.state n).waiting lock)
            (fun n => run.action n = .grants lock) := by
          refine ⟨fun n => step_waiting (run.taken n), fun n grants => ?_,
            granted_in_time sound fair patient higherGranted⟩
          have taken := run.taken n
          rw [grants] at taken
          obtain ⟨first, behind, _, _, front, _, _, left⟩ := grants_serves taken
          simp only [front, left, List.tail_cons]
          exact List.prefix_refl _
        obtain ⟨k, after, grants, others, front⟩ := fifo.served waits
        have taken := run.taken k
        rw [grants] at taken
        obtain ⟨first, _, wantedMode, behind, served, asks, left, _⟩ := grants_serves taken
        rw [front] at served
        cases served
        by_cases same : (run.state k).ops task = (run.state n).ops task
        · refine ⟨k + 1, by omega, ?_⟩
          rw [left, ← same, asks]
          exact fun equal => absurd (congrArg List.length equal) (by simp)
        · exact ⟨k, by omega, same⟩

/-- A section ends if there is room for what it still sends. -/
theorem section_ends {top : Nat} (bounded : ∀ lock, rank lock ≤ top) (task : Task) (n : Nat)
    (room : ∀ message, .send message ∈ (run.state n).ops task → Roomy run) :
    ∃ m, n ≤ m ∧ (run.state m).ops task = [] := by
  generalize left : (run.state n).ops task = ops at room
  induction ops generalizing n with
  | nil => exact ⟨n, Nat.le_refl n, left⟩
  | cons op rest ih =>
      have goesOn : GoesOn run task n := by
        by_cases acquires : ∃ lock mode, op = .acquire lock mode
        · obtain ⟨lock, mode, rfl⟩ := acquires
          exact goesOn_of_acquire sound fair patient bounded left
        · refine goesOn_of_op sound fair left
            (fun lock mode same => acquires ⟨lock, mode, same⟩) ?_
          rintro message rfl
          exact room message List.mem_cons_self
      obtain ⟨m, later, moved⟩ := goesOn.leaves left
      obtain ⟨k, after, ended⟩ := ih (m + 1) moved fun message member =>
        room message (List.mem_cons_of_mem _ member)
      exact ⟨k, by omega, ended⟩

end

/-- A task that takes the messages one by one, and sends none itself, keeps the
channel open. -/
theorem roomy_of_receiver {top : Nat} (bounded : ∀ lock, rank lock ≤ top) (patient : Patient run)
    {receiver : Task} (positive : 0 < capacity)
    (within : ∀ n, (run.state n).channel.length ≤ capacity)
    (silent : ∀ n message, .send message ∉ (run.state n).ops receiver)
    (only : ∀ n ops, run.action n ≠ .begins receiver ops)
    (receives : ∀ n, (∀ m, n ≤ m → (run.state m).ops receiver = [] ∧ (run.state m).channel ≠ []) →
      ∃ m, n ≤ m ∧ ∃ message ops, run.action m = .receives receiver message ops) :
    Roomy run := by
  by_contra closed
  obtain ⟨n, never⟩ := not_forall.mp closed
  have full : ∀ m, n ≤ m → capacity ≤ (run.state m).channel.length :=
    fun m later => Nat.le_of_not_lt fun room => never ⟨m, later, room⟩
  obtain ⟨m, later, idle⟩ := section_ends sound fair patient bounded receiver n
    fun message member => absurd member (silent n message)
  obtain ⟨k, after, message, ops, received⟩ : ∃ k, m ≤ k ∧ ∃ message ops,
      run.action k = .receives receiver message ops := by
    by_contra deaf
    have stays : ∀ k, m ≤ k → (run.state k).ops receiver = [] := by
      intro k after
      induction k, after using Nat.le_induction with
      | base => exact idle
      | succ k after ih =>
          refine step_idle (run.taken k) ih ?_
          cases action : run.action k with
          | begins task ops =>
              rintro ⟨⟩
              exact only k ops action
          | receives task message ops =>
              rintro ⟨⟩
              exact deaf ⟨k, after, message, ops, action⟩
          | moves task | grants lock => exact nofun
    obtain ⟨k, after, received⟩ := receives m <| by
      intro k after
      refine ⟨stays k after, List.ne_nil_of_length_pos ?_⟩
      exact Nat.lt_of_lt_of_le positive (full k (by omega))
    exact deaf ⟨k, after, received⟩
  have taken := run.taken k
  have fullAfter := full (k + 1) (by omega)
  have bound := within k
  rw [received] at taken
  generalize run.state (k + 1) = next at taken fullAfter
  cases step_outcome taken with
  | receives _ _ _ _ rest head =>
      rw [head, List.length_cons] at bound
      exact absurd fullAfter (Nat.not_le.mpr bound)

end

theorem step_channel (taken : step capacity state event = some next)
    (within : state.channel.length ≤ capacity) : next.channel.length ≤ capacity := by
  cases step_outcome taken with
  | receives task message ops idle rest head =>
      rw [head, List.length_cons] at within
      exact Nat.le_of_succ_le within
  | sends task message rest ahead room =>
      simp only [List.length_append, List.length_singleton]
      exact room
  | begins | asks | releases | pauses | grants => exact within

/-! ### Rounds -/

section

variable {events : List (Event Task Lock Message)} (nonempty : 0 < events.length)
  (replayed : replay (@step Task Lock Message _ _ _ capacity) State.initial events =
    some State.initial)

theorem cycle_idle {task : Task} (elsewhere : ∀ event ∈ events, event.starter ≠ some task)
    (n : Nat) : ((Behavior.cycle nonempty replayed).state n).ops task = [] := by
  induction n with
  | zero =>
      have rests := Behavior.cycle_state nonempty replayed 0
      rw [Nat.mul_zero] at rests
      rw [rests]
      rfl
  | succ n ih =>
      exact step_idle ((Behavior.cycle nonempty replayed).taken n) ih
        (elsewhere _ (List.get_mem events _))

/-- Rounds in which every task that begins something also moves are fair. -/
theorem cycle_fair
    (moves : ∀ event ∈ events, ∀ task, event.starter = some task → .moves task ∈ events) :
    Fair (Behavior.cycle nonempty replayed) where
  moves := by
    intro task n again
    by_cases begins : ∃ event ∈ events, event.starter = some task
    · obtain ⟨event, member, starts⟩ := begins
      obtain ⟨i, here⟩ := List.mem_iff_get.mp (moves event member task starts)
      refine ⟨events.length * n + i, ?_, ?_⟩
      · exact Nat.le_trans (Nat.le_mul_of_pos_left n nonempty) (Nat.le_add_right _ _)
      · rw [Behavior.cycle_action, here]
    · obtain ⟨k, _, moves⟩ := again n (Nat.le_refl n)
      have idle := cycle_idle nonempty replayed
        (fun event member starts => begins ⟨event, member, starts⟩) k
      simp [State.moves, idle] at moves
  grants := by
    intro lock n always
    have rests := always (events.length * n) (Nat.le_mul_of_pos_left n nonempty)
    rw [Behavior.cycle_state] at rests
    exact absurd rfl rests

end

end ServiceNetwork.Locking
