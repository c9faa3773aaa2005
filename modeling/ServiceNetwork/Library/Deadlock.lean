/-
Locks that sections nest upward in one order.

Every section takes only locks above all that it holds, and ends with none.
Then whoever waits for a lock waits, through a chain of ever higher locks, for a
task that can go on, unless it sends into a full channel.
-/

import ServiceNetwork.Library.Locking

namespace ServiceNetwork.Locking

open Function

variable {Task Lock Message : Type} [DecidableEq Lock]

/-- From the locks held: only locks above all of them are taken, only locks held
are released, and none is held in the end. -/
def Disciplined (rank : Lock → Nat) :
    List Lock → List (Op Lock Message) → Prop
  | held, [] => held = []
  | held, .acquire lock _ :: rest =>
      (∀ other ∈ held, rank other < rank lock) ∧ Disciplined rank (lock :: held) rest
  | held, .release lock :: rest => lock ∈ held ∧ Disciplined rank (held.erase lock) rest
  | held, .send _ :: rest => Disciplined rank held rest
  | held, .pause :: rest => Disciplined rank held rest

/-- What holds of the locks in every state that disciplined sections lead to. -/
structure Sound (rank : Lock → Nat) (state : State Task Lock Message) : Prop where
  disciplined : ∀ task, Disciplined rank (state.held task) (state.ops task)
  holds_iff : ∀ task lock, lock ∈ state.held task ↔ task ∈ (state.holders lock).tasks
  heldOnce : ∀ task, (state.held task).Nodup
  holdersOnce : ∀ lock, (state.holders lock).tasks.Nodup
  waits : ∀ lock, ∀ task ∈ state.waiting lock,
    ∃ mode rest, state.ops task = .acquire lock mode :: rest
  waitsOnce : ∀ lock, (state.waiting lock).Nodup

variable {rank : Lock → Nat} {state : State Task Lock Message}

theorem initial_sound : Sound rank (State.initial : State Task Lock Message) where
  disciplined _ := rfl
  holds_iff _ _ := by simp [State.initial, Holders.tasks]
  heldOnce _ := List.nodup_nil
  holdersOnce _ := List.nodup_nil
  waits _ _ member := by cases member
  waitsOnce _ := List.nodup_nil

theorem Sound.held_of_idle (sound : Sound rank state) {task : Task}
    (idle : state.ops task = []) : state.held task = [] := by
  have disciplined := sound.disciplined task
  rw [idle] at disciplined
  exact disciplined

theorem Sound.busy_of_held (sound : Sound rank state) {task : Task} {lock : Lock}
    (holds : lock ∈ state.held task) : ∃ op rest, state.ops task = op :: rest := by
  cases ahead : state.ops task with
  | nil =>
      rw [sound.held_of_idle ahead] at holds
      cases holds
  | cons op rest => exact ⟨op, rest, rfl⟩

theorem Sound.below_of_acquire (sound : Sound rank state) {task : Task} {lock : Lock} {mode : Mode}
    {rest : List (Op Lock Message)} (ahead : state.ops task = .acquire lock mode :: rest) :
    ∀ other ∈ state.held task, rank other < rank lock := by
  have disciplined := sound.disciplined task
  rw [ahead] at disciplined
  exact disciplined.1

theorem Sound.asked (sound : Sound rank state) {task : Task} {lock : Lock} {mode : Mode}
    {rest : List (Op Lock Message)} (ahead : state.ops task = .acquire lock mode :: rest)
    (absent : task ∉ state.waiting lock) :
    Sound rank
      { state with waiting := update state.waiting lock (state.waiting lock ++ [task]) } := by
  refine { sound with waits := ?_, waitsOnce := ?_ }
  · intro wanted other waits
    by_cases sameLock : wanted = lock
    · subst sameLock
      simp only [update_self, List.mem_append, List.mem_singleton] at waits
      rcases waits with waited | rfl
      · exact sound.waits wanted other waited
      · exact ⟨mode, rest, ahead⟩
    · simp only [update_of_ne sameLock] at waits
      exact sound.waits wanted other waits
  · intro wanted
    by_cases sameLock : wanted = lock
    · subst sameLock
      simp only [update_self]
      exact List.nodup_append.mpr ⟨sound.waitsOnce wanted, List.nodup_singleton task, by
        intro other waits another member
        rw [List.mem_singleton.mp member]
        rintro rfl
        exact absent waits⟩
    · simp only [update_of_ne sameLock]
      exact sound.waitsOnce wanted

variable [DecidableEq Task]

theorem Sound.goes_on (sound : Sound rank state) {task : Task} {ops : List (Op Lock Message)}
    (channel : List Message) (disciplined : Disciplined rank (state.held task) ops)
    (elsewhere : ∀ lock mode rest, state.ops task ≠ .acquire lock mode :: rest) :
    Sound rank { state with ops := update state.ops task ops, channel := channel } := by
  refine { sound with disciplined := ?_, waits := ?_ }
  · intro other
    by_cases same : other = task
    · subst same
      simp only [update_self]
      exact disciplined
    · simp only [update_of_ne same]
      exact sound.disciplined other
  · intro lock other waits
    obtain ⟨mode, rest, ahead⟩ := sound.waits lock other waits
    have different : other ≠ task := by
      rintro rfl
      exact elsewhere lock mode rest ahead
    exact ⟨mode, rest, by simp only [update_of_ne different, ahead]⟩

theorem Sound.released (sound : Sound rank state) {task : Task} {lock : Lock}
    {rest : List (Op Lock Message)} (ahead : state.ops task = .release lock :: rest) :
    Sound rank
      { state with
        ops := update state.ops task rest
        held := update state.held task ((state.held task).erase lock)
        holders := update state.holders lock ((state.holders lock).leave task) } where
  disciplined := by
    intro other
    by_cases same : other = task
    · subst same
      have disciplined := sound.disciplined other
      rw [ahead] at disciplined
      simp only [update_self]
      exact disciplined.2
    · simp only [update_of_ne same]
      exact sound.disciplined other
  holds_iff := by
    intro other wanted
    have before := sound.holds_iff other wanted
    by_cases sameLock : wanted = lock
    · subst sameLock
      simp only [update_self, Holders.tasks_leave, (sound.holdersOnce wanted).mem_erase_iff]
      by_cases same : other = task
      · subst same
        simp [(sound.heldOnce other).mem_erase_iff]
      · simp [same, before]
    · simp only [update_of_ne sameLock, ← before]
      by_cases same : other = task
      · subst same
        simp [(sound.heldOnce other).mem_erase_iff, sameLock]
      · simp [update_of_ne same]
  heldOnce := by
    intro other
    by_cases same : other = task
    · subst same
      simp only [update_self]
      exact (sound.heldOnce other).erase lock
    · simp only [update_of_ne same]
      exact sound.heldOnce other
  holdersOnce := by
    intro wanted
    by_cases sameLock : wanted = lock
    · subst sameLock
      simp only [update_self, Holders.tasks_leave]
      exact (sound.holdersOnce wanted).erase task
    · simp only [update_of_ne sameLock]
      exact sound.holdersOnce wanted
  waits := by
    intro wanted other waits
    obtain ⟨mode, behind, asks⟩ := sound.waits wanted other waits
    have different : other ≠ task := by
      rintro rfl
      rw [ahead] at asks
      cases asks
    exact ⟨mode, behind, by simp only [update_of_ne different, asks]⟩
  waitsOnce := sound.waitsOnce

theorem Sound.granted (sound : Sound rank state) {task : Task} {lock : Lock} {behind : List Task}
    {mode : Mode} {rest : List (Op Lock Message)} {holders : Holders Task}
    (first : state.waiting lock = task :: behind)
    (ahead : state.ops task = .acquire lock mode :: rest)
    (admitted : (state.holders lock).enter task mode = some holders) :
    Sound rank
      { state with
        ops := update state.ops task rest
        held := update state.held task (lock :: state.held task)
        holders := update state.holders lock holders
        waiting := update state.waiting lock behind } where
  disciplined := by
    intro other
    by_cases same : other = task
    · subst same
      have disciplined := sound.disciplined other
      rw [ahead] at disciplined
      simp only [update_self]
      exact disciplined.2
    · simp only [update_of_ne same]
      exact sound.disciplined other
  holds_iff := by
    intro other wanted
    have before := sound.holds_iff other wanted
    by_cases sameLock : wanted = lock
    · subst sameLock
      simp only [update_self, Holders.tasks_enter admitted, List.mem_cons, ← before]
      by_cases same : other = task
      · subst same
        simp
      · simp [same]
    · simp only [update_of_ne sameLock, ← before]
      by_cases same : other = task
      · subst same
        simp [sameLock]
      · simp [update_of_ne same]
  heldOnce := by
    intro other
    by_cases same : other = task
    · subst same
      simp only [update_self, List.nodup_cons]
      refine ⟨fun holds => ?_, sound.heldOnce other⟩
      exact Nat.lt_irrefl _ (sound.below_of_acquire ahead lock holds)
    · simp only [update_of_ne same]
      exact sound.heldOnce other
  holdersOnce := by
    intro wanted
    by_cases sameLock : wanted = lock
    · subst sameLock
      simp only [update_self, Holders.tasks_enter admitted, List.nodup_cons, ← sound.holds_iff]
      refine ⟨fun holds => ?_, sound.holdersOnce wanted⟩
      exact Nat.lt_irrefl _ (sound.below_of_acquire ahead wanted holds)
    · simp only [update_of_ne sameLock]
      exact sound.holdersOnce wanted
  waits := by
    intro wanted other waits
    have different : other ≠ task ∧ other ∈ state.waiting wanted := by
      by_cases sameLock : wanted = lock
      · subst sameLock
        simp only [update_self] at waits
        have once := sound.waitsOnce wanted
        rw [first] at once ⊢
        refine ⟨?_, List.mem_cons_of_mem _ waits⟩
        rintro rfl
        exact (List.nodup_cons.mp once).1 waits
      · simp only [update_of_ne sameLock] at waits
        refine ⟨?_, waits⟩
        rintro rfl
        obtain ⟨_, _, asks⟩ := sound.waits wanted other waits
        rw [ahead] at asks
        cases asks
        exact sameLock rfl
    obtain ⟨mode, further, asks⟩ := sound.waits wanted other different.2
    exact ⟨mode, further, by simp only [update_of_ne different.1, asks]⟩
  waitsOnce := by
    intro wanted
    by_cases sameLock : wanted = lock
    · subst sameLock
      have once := sound.waitsOnce wanted
      rw [first] at once
      simp only [update_self]
      exact (List.nodup_cons.mp once).2
    · simp only [update_of_ne sameLock]
      exact sound.waitsOnce wanted

/-- Sections that nest their locks upward keep the locks sound. -/
theorem Sound.step [DecidableEq Message] {capacity : Nat} {next : State Task Lock Message}
    {event : Event Task Lock Message}
    {sections : Task → Option Message → List (Op Lock Message) → Prop}
    (nested : ∀ task received ops, sections task received ops → Disciplined rank [] ops)
    (sound : Sound rank state) (legal : Legal sections event)
    (taken : Locking.step capacity state event = some next) : Sound rank next := by
  cases step_outcome taken with
  | begins task ops idle =>
      refine sound.goes_on state.channel ?_ (by simp [idle])
      rw [sound.held_of_idle idle]
      exact nested task none ops legal
  | receives task message ops idle behind head =>
      refine sound.goes_on behind ?_ (by simp [idle])
      rw [sound.held_of_idle idle]
      exact nested task (some message) ops legal
  | asks task lock mode rest ahead absent => exact sound.asked ahead absent
  | releases task lock rest ahead holds => exact sound.released ahead
  | sends task message rest ahead room =>
      have disciplined := sound.disciplined task
      rw [ahead] at disciplined
      exact sound.goes_on _ disciplined (by simp [ahead])
  | pauses task rest ahead =>
      have disciplined := sound.disciplined task
      rw [ahead] at disciplined
      exact sound.goes_on state.channel disciplined (by simp [ahead])
  | grants lock task behind mode rest holders first ahead admitted =>
      exact sound.granted first ahead admitted

/-! ### What a section keeps until its end -/

/-- A property of the locks held and of what is left that no await ends. -/
structure Inherited (Keeps : List Lock → List (Op Lock Message) → Prop) : Prop where
  acquire : ∀ held lock mode rest, Keeps held (.acquire lock mode :: rest) →
    Keeps (lock :: held) rest
  release : ∀ held lock rest, Keeps held (.release lock :: rest) → Keeps (held.erase lock) rest
  send : ∀ held message rest, Keeps held (.send message :: rest) → Keeps held rest
  pause : ∀ held rest, Keeps held (.pause :: rest) → Keeps held rest

theorem Inherited.step [DecidableEq Message] {capacity : Nat} {next : State Task Lock Message}
    {event : Event Task Lock Message}
    {sections : Task → Option Message → List (Op Lock Message) → Prop}
    {Keeps : List Lock → List (Op Lock Message) → Prop} (inherited : Inherited Keeps) {task : Task}
    (begun : ∀ received ops, sections task received ops → Keeps [] ops) (sound : Sound rank state)
    (legal : Legal sections event) (taken : Locking.step capacity state event = some next)
    (keeps : Keeps (state.held task) (state.ops task)) :
    Keeps (next.held task) (next.ops task) := by
  cases step_outcome taken with
  | begins actor ops idle | receives actor message ops idle =>
      by_cases same : task = actor
      · subst same
        simp only [update_self, sound.held_of_idle idle]
        exact begun _ ops legal
      · simp only [update_of_ne same]
        exact keeps
  | asks => exact keeps
  | releases actor lock rest ahead =>
      by_cases same : task = actor
      · subst same
        rw [ahead] at keeps
        simp only [update_self]
        exact inherited.release _ lock rest keeps
      · simp only [update_of_ne same]
        exact keeps
  | sends actor message rest ahead =>
      by_cases same : task = actor
      · subst same
        rw [ahead] at keeps
        simp only [update_self]
        exact inherited.send _ message rest keeps
      · simp only [update_of_ne same]
        exact keeps
  | pauses actor rest ahead =>
      by_cases same : task = actor
      · subst same
        rw [ahead] at keeps
        simp only [update_self]
        exact inherited.pause _ rest keeps
      · simp only [update_of_ne same]
        exact keeps
  | grants lock actor behind mode rest holders first ahead =>
      by_cases same : task = actor
      · subst same
        rw [ahead] at keeps
        simp only [update_self]
        exact inherited.acquire _ lock mode rest keeps
      · simp only [update_of_ne same]
        exact keeps

/-- Whatever is sent is sent under this condition on the locks held. -/
def SendsWhen (condition : List Lock → Prop) : List Lock → List (Op Lock Message) → Prop
  | _, [] => True
  | held, .acquire lock _ :: rest => SendsWhen condition (lock :: held) rest
  | held, .release lock :: rest => SendsWhen condition (held.erase lock) rest
  | held, .send _ :: rest => condition held ∧ SendsWhen condition held rest
  | held, .pause :: rest => SendsWhen condition held rest

theorem sendsWhen_inherited (condition : List Lock → Prop) :
    Inherited (@SendsWhen Lock Message _ condition) where
  acquire _ _ _ _ keeps := keeps
  release _ _ _ keeps := keeps
  send _ _ _ keeps := keeps.2
  pause _ _ keeps := keeps

theorem silent_of_sendsWhen {held : List Lock} {ops : List (Op Lock Message)}
    (sends : SendsWhen (fun _ => False) held ops) (message : Message) : .send message ∉ ops := by
  induction ops generalizing held with
  | nil => exact List.not_mem_nil
  | cons op rest ih =>
      rw [List.mem_cons, not_or]
      cases op with
      | acquire lock mode => exact ⟨nofun, ih sends⟩
      | release lock => exact ⟨nofun, ih sends⟩
      | send other => exact absurd sends.1 id
      | pause => exact ⟨nofun, ih sends⟩

/-! ### Sections in order -/

/-- The locks are nested upward, and what is sent is sent under the condition. -/
def Orderly (rank : Lock → Nat) (condition : List Lock → Prop) (held : List Lock)
    (ops : List (Op Lock Message)) : Prop :=
  Disciplined rank held ops ∧ SendsWhen condition held ops

section

variable {condition : List Lock → Prop} {held : List Lock} {rest : List (Op Lock Message)}

theorem Orderly.ends : Orderly rank condition [] ([] : List (Op Lock Message)) :=
  ⟨rfl, trivial⟩

theorem Orderly.acquires {lock : Lock} (mode : Mode)
    (below : ∀ other ∈ held, rank other < rank lock)
    (after : Orderly rank condition (lock :: held) rest) :
    Orderly rank condition held (.acquire lock mode :: rest) :=
  ⟨⟨below, after.1⟩, after.2⟩

/-- The lock released is the one taken last. -/
theorem Orderly.releases {lock : Lock} (after : Orderly rank condition held rest) :
    Orderly rank condition (lock :: held) (.release lock :: rest) := by
  unfold Orderly at after ⊢
  simp only [Disciplined, SendsWhen, List.erase_cons_head]
  exact ⟨⟨List.mem_cons_self, after.1⟩, after.2⟩

theorem Orderly.sends (message : Message) (allowed : condition held)
    (after : Orderly rank condition held rest) :
    Orderly rank condition held (.send message :: rest) :=
  ⟨after.1, allowed, after.2⟩

theorem Orderly.pauses (after : Orderly rank condition held rest) :
    Orderly rank condition held (.pause :: rest) :=
  after

theorem Orderly.sends_all (messages : List Message) (allowed : condition held)
    (after : Orderly rank condition held rest) :
    Orderly rank condition held (messages.map .send ++ rest) := by
  induction messages with
  | nil => exact after
  | cons message messages ih => exact ih.sends message allowed

end

/-! ### Deadlock -/

variable {capacity : Nat}

/-- No section can go on. -/
def Stuck (capacity : Nat) (state : State Task Lock Message) : Prop :=
  (∀ task, state.moves capacity task = none) ∧ ∀ lock, state.grants lock = none

/-- A section that cannot go on sends into a full channel or waits for a lock. -/
theorem Sound.stuck_cases (sound : Sound rank state) {task : Task} {op : Op Lock Message}
    {rest : List (Op Lock Message)} (ahead : state.ops task = op :: rest)
    (stays : state.moves capacity task = none) :
    (∃ message, op = .send message ∧ capacity ≤ state.channel.length) ∨
      ∃ lock mode, op = .acquire lock mode ∧ task ∈ state.waiting lock := by
  unfold State.moves at stays
  rw [ahead] at stays
  cases op with
  | acquire lock mode =>
      by_cases waits : task ∈ state.waiting lock
      · exact Or.inr ⟨lock, mode, rfl, waits⟩
      · simp [waits] at stays
  | release lock =>
      have disciplined := sound.disciplined task
      rw [ahead] at disciplined
      simp [disciplined.1] at stays
  | send message =>
      by_cases room : state.channel.length < capacity
      · simp [room] at stays
      · exact Or.inl ⟨message, rfl, Nat.le_of_not_lt room⟩
  | pause => cases stays

theorem Sound.holder_of_waiting (sound : Sound rank state) {lock : Lock}
    (waited : state.waiting lock ≠ []) (withheld : state.grants lock = none) :
    ∃ holder, lock ∈ state.held holder := by
  by_contra free
  have nobody : (state.holders lock).tasks = [] := by
    apply List.eq_nil_iff_forall_not_mem.mpr
    intro task holds
    exact free ⟨task, (sound.holds_iff task lock).mpr holds⟩
  cases first : state.waiting lock with
  | nil => exact waited first
  | cons task behind =>
      obtain ⟨mode, rest, ahead⟩ := sound.waits lock task (by rw [first]; exact List.mem_cons_self)
      obtain ⟨holders, admitted⟩ := Holders.enter_of_free nobody task mode
      simp [State.grants, first, ahead, admitted] at withheld

/-- Behind every wait that does not end is a holder of a lock that sends into
the full channel. -/
theorem Sound.sender_of_waiting (sound : Sound rank state) {top : Nat}
    (bounded : ∀ lock, rank lock ≤ top) (stuck : Stuck capacity state) {lock : Lock}
    (waited : state.waiting lock ≠ []) :
    ∃ sender message rest, state.ops sender = .send message :: rest ∧
      capacity ≤ state.channel.length ∧ state.held sender ≠ [] := by
  -- induction on how far the lock is from the top
  generalize distance : top - rank lock = above
  induction above using Nat.strongRecOn generalizing lock with
  | ind above ih =>
      obtain ⟨holder, holds⟩ := sound.holder_of_waiting waited (stuck.2 lock)
      obtain ⟨op, rest, ahead⟩ := sound.busy_of_held holds
      rcases sound.stuck_cases ahead (stuck.1 holder) with
        ⟨message, rfl, full⟩ | ⟨higher, mode, rfl, waits⟩
      · exact ⟨holder, message, rest, ahead, full, List.ne_nil_of_mem holds⟩
      · have above' := sound.below_of_acquire ahead lock holds
        have atMost := bounded higher
        exact ih (top - rank higher) (by omega) (List.ne_nil_of_mem waits) rfl

/-- Sections that nest their locks upward are only ever stuck on the channel. -/
theorem Sound.full_of_stuck (sound : Sound rank state) {top : Nat}
    (bounded : ∀ lock, rank lock ≤ top) (stuck : Stuck capacity state) {task : Task}
    (busy : state.ops task ≠ []) :
    ∃ sender message rest, state.ops sender = .send message :: rest ∧
      capacity ≤ state.channel.length ∧ (sender = task ∨ state.held sender ≠ []) := by
  cases ahead : state.ops task with
  | nil => exact absurd ahead busy
  | cons op rest =>
      rcases sound.stuck_cases ahead (stuck.1 task) with
        ⟨message, rfl, full⟩ | ⟨lock, mode, rfl, waits⟩
      · exact ⟨task, message, rest, ahead, full, Or.inl rfl⟩
      · obtain ⟨sender, message, rest, sends, full, holds⟩ :=
          sound.sender_of_waiting bounded stuck (List.ne_nil_of_mem waits)
        exact ⟨sender, message, rest, sends, full, Or.inr holds⟩

/-- The state of tasks whose sections are in order, each under its own condition on
what it sends. -/
structure InOrder (rank : Lock → Nat) (conditions : Task → List Lock → Prop)
    (state : State Task Lock Message) : Prop where
  sound : Sound rank state
  sends : ∀ task, SendsWhen (conditions task) (state.held task) (state.ops task)

variable {conditions : Task → List Lock → Prop}

omit [DecidableEq Task] in
theorem initial_inOrder :
    InOrder rank conditions (State.initial : State Task Lock Message) where
  sound := initial_sound
  sends _ := trivial

theorem InOrder.step [DecidableEq Message] {next : State Task Lock Message}
    {event : Event Task Lock Message}
    {sections : Task → Option Message → List (Op Lock Message) → Prop}
    (orderly : ∀ task received ops, sections task received ops →
      Orderly rank (conditions task) [] ops)
    (inOrder : InOrder rank conditions state) (legal : Legal sections event)
    (taken : Locking.step capacity state event = some next) : InOrder rank conditions next where
  sound := inOrder.sound.step (fun task received ops begins => (orderly task received ops begins).1)
    legal taken
  sends task := (sendsWhen_inherited (conditions task)).step
    (fun received ops begins => (orderly task received ops begins).2) inOrder.sound legal taken
    (inOrder.sends task)

omit [DecidableEq Task] in
theorem InOrder.allowed (inOrder : InOrder rank conditions state) {task : Task} {message : Message}
    {rest : List (Op Lock Message)} (ahead : state.ops task = .send message :: rest) :
    conditions task (state.held task) := by
  have sends := inOrder.sends task
  rw [ahead] at sends
  exact sends.1

/-- The task that is to empty the channel sends into it while it is full, and
holds the lock alone. -/
structure Wedged (capacity : Nat) (receiver : Task) (lock : Lock)
    (state : State Task Lock Message) : Prop where
  sends : ∃ message rest, state.ops receiver = .send message :: rest
  full : capacity ≤ state.channel.length
  holds : state.holders lock = .writer receiver

/-- There is no way out of this. -/
theorem Wedged.step [DecidableEq Message] {receiver : Task} {lock : Lock}
    {next : State Task Lock Message} {event : Event Task Lock Message}
    {sections : Task → Option Message → List (Op Lock Message) → Prop}
    (only : ∀ task message ops, sections task (some message) ops → task = receiver)
    (sound : Sound rank state) (legal : Legal sections event)
    (wedged : Wedged capacity receiver lock state)
    (taken : Locking.step capacity state event = some next) :
    Wedged capacity receiver lock next := by
  obtain ⟨⟨message, rest, sends⟩, full, holds⟩ := wedged
  cases step_outcome taken with
  | begins task ops idle =>
      have different : receiver ≠ task := by
        rintro rfl
        rw [sends] at idle
        cases idle
      exact ⟨⟨message, rest, by simp only [update_of_ne different, sends]⟩, full, holds⟩
  | receives task received ops idle =>
      rw [only task received ops legal, sends] at idle
      cases idle
  | asks => exact ⟨⟨message, rest, sends⟩, full, holds⟩
  | releases task wanted behind ahead held =>
      have different : receiver ≠ task := by
        rintro rfl
        rw [sends] at ahead
        cases ahead
      have other : lock ≠ wanted := by
        rintro rfl
        rw [sound.holds_iff, holds] at held
        exact different (List.mem_singleton.mp held).symm
      exact ⟨⟨message, rest, by simp only [update_of_ne different, sends]⟩, full,
        by simp only [update_of_ne other, holds]⟩
  | sends task sent behind ahead room => exact absurd room (Nat.not_lt.mpr full)
  | pauses task behind ahead =>
      have different : receiver ≠ task := by
        rintro rfl
        rw [sends] at ahead
        cases ahead
      exact ⟨⟨message, rest, by simp only [update_of_ne different, sends]⟩, full, holds⟩
  | grants wanted task others mode behind holders first ahead admitted =>
      have different : receiver ≠ task := by
        rintro rfl
        rw [sends] at ahead
        cases ahead
      have other : lock ≠ wanted := by
        rintro rfl
        rw [holds] at admitted
        cases mode <;> cases admitted
      exact ⟨⟨message, rest, by simp only [update_of_ne different, sends]⟩, full,
        by simp only [update_of_ne other, holds]⟩

end ServiceNetwork.Locking
