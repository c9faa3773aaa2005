/-
The counter of one `waitForBrokerPeer` task.

Both branches of the loop count, but only the one that has found a peer tests
the count.  Without a peer the loop therefore goes on past what a `u8` holds.
-/

import Mathlib.Data.List.Forall2
import ServiceNetwork.ServiceWorker.System

namespace ServiceNetwork.ServiceWorker

open ServiceNetwork.Peer

/-- What a task has done after some turns. -/
inductive Waiting where
  | waiting (loopNum : UInt8)
  | locked (turn : Nat) (peer : BrokerPeer)
  | ended
  deriving DecidableEq, Repr

/-- The loop of one task while the status stays `WaitingForBroker`, on the
manager that each turn finds; `turn` numbers the turns taken before. -/
def waitLoop (profile : BuildProfile) :
    Nat → UInt8 → List BrokerPeerManager → Except Panic Waiting
  | _, loopNum, [] => .ok (.waiting loopNum)
  | turn, loopNum, peers :: later => do
      let (waiterTurn, _) ← waitForBrokerPeer profile .waitingForBroker peers loopNum
      match waiterTurn with
      | .locks peer => return .locked (turn + 1) peer
      | .waits loopNum => waitLoop profile (turn + 1) loopNum later
      | .ends => return .ended

/-- The first turn from the fifth on that finds a peer. -/
def firstLock : Nat → List (Option BrokerPeer) → Option (Nat × BrokerPeer)
  | _, [] => none
  | turn, none :: later => firstLock (turn + 1) later
  | turn, some peer :: later =>
      if 5 ≤ turn + 1 then some (turn + 1, peer) else firstLock (turn + 1) later

/-- The selection from the manager returns this result. -/
def Sees (peers : BrokerPeerManager) (result : Option BrokerPeer) : Prop :=
  ∃ after, peers.verifyBestInstance = .ok (result, after)

/-- After any number of turns the task has sent the first lock and nothing else,
or has sent nothing and counted its turns. -/
def CountsCorrectly (profile : BuildProfile) (managers : List BrokerPeerManager)
    (results : List (Option BrokerPeer)) : Prop :=
  ∀ turns ≤ managers.length,
    match firstLock 0 (results.take turns) with
    | some (locking, peer) =>
        waitLoop profile 0 0 (managers.take turns) = .ok (.locked locking peer)
    | none =>
        ∃ loopNum, waitLoop profile 0 0 (managers.take turns) = .ok (.waiting loopNum) ∧
          loopNum.toNat = turns

/-- The results run out, or a peer is found, while the count still fits. -/
def InTime (turn : Nat) (results : List (Option BrokerPeer)) : Prop :=
  turn + results.length ≤ 255 ∨
    ∃ index peer, results[index]? = some (some peer) ∧
      5 ≤ turn + index + 1 ∧ turn + index + 1 ≤ 255

variable {profile : BuildProfile}

theorem waitForBrokerPeer_none {peers : BrokerPeerManager} {loopNum count : UInt8}
    (seen : Sees peers none) (counted : u8AddOne profile loopNum = .ok count) :
    ∃ after, waitForBrokerPeer profile .waitingForBroker peers loopNum =
      .ok (.waits count, after) := by
  obtain ⟨after, verified⟩ := seen
  refine ⟨after, ?_⟩
  simp only [waitForBrokerPeer, verified, counted, bind, Except.bind]
  rfl

theorem waitForBrokerPeer_some {peers : BrokerPeerManager} {peer : BrokerPeer}
    {loopNum count : UInt8} (seen : Sees peers (some peer))
    (counted : u8AddOne profile loopNum = .ok count) :
    ∃ after, waitForBrokerPeer profile .waitingForBroker peers loopNum =
      .ok (if 5 ≤ count then .locks peer else .waits count, after) := by
  obtain ⟨after, verified⟩ := seen
  refine ⟨after, ?_⟩
  simp only [waitForBrokerPeer, verified, counted, bind, Except.bind, ge_iff_le]
  split <;> rfl

/-- A turn whose count overflows panics, or starts counting anew without locking. -/
theorem waitForBrokerPeer_overflow {peers : BrokerPeerManager} {result : Option BrokerPeer}
    (seen : Sees peers result) :
    (∃ panic, waitForBrokerPeer profile .waitingForBroker peers 255 = .error panic) ∨
      ∃ after, waitForBrokerPeer profile .waitingForBroker peers 255 = .ok (.waits 0, after) := by
  cases profile with
  | debug =>
      obtain ⟨after, verified⟩ := seen
      refine Or.inl ⟨.arithmeticOverflow, ?_⟩
      simp only [waitForBrokerPeer, verified, bind, Except.bind]
      cases result <;> rfl
  | release =>
      have wraps : u8AddOne .release 255 = .ok 0 := rfl
      cases result with
      | none => exact Or.inr (waitForBrokerPeer_none seen wraps)
      | some peer =>
          obtain ⟨after, turned⟩ := waitForBrokerPeer_some seen wraps
          exact Or.inr ⟨after, turned⟩

theorem waitLoop_append {turn : Nat} {loopNum count : UInt8} {first : List BrokerPeerManager}
    (waited : waitLoop profile turn loopNum first = .ok (.waiting count))
    (second : List BrokerPeerManager) :
    waitLoop profile turn loopNum (first ++ second) =
      waitLoop profile (turn + first.length) count second := by
  induction first generalizing turn loopNum with
  | nil =>
      cases waited
      rfl
  | cons peers later ih =>
      obtain ⟨⟨waiterTurn, after⟩, turned, waited⟩ := bind_eq_ok.mp waited
      rw [List.cons_append, List.length_cons, waitLoop, turned]
      cases waiterTurn with
      | locks peer => cases waited
      | ends => cases waited
      | waits next =>
          have continued := ih waited
          rw [Nat.add_right_comm, Nat.add_assoc turn] at continued
          exact continued

theorem firstLock_eq_none {turn : Nat} {results : List (Option BrokerPeer)}
    (early : ∀ (index : Nat) (peer : BrokerPeer), results[index]? = some (some peer) →
      turn + index + 1 < 5) :
    firstLock turn results = none := by
  induction results generalizing turn with
  | nil => rfl
  | cons result later ih =>
      have continued : firstLock (turn + 1) later = none := by
        refine ih ?_
        intro index peer found
        have bound := early (index + 1) peer found
        omega
      cases result with
      | none => exact continued
      | some peer =>
          have bound := early 0 peer rfl
          rw [firstLock, if_neg (by omega)]
          exact continued

theorem InTime.take {turn : Nat} {results : List (Option BrokerPeer)}
    (inTime : InTime turn results) (turns : Nat) : InTime turn (results.take turns) := by
  rcases inTime with short | ⟨index, peer, found, late, fits⟩
  · left
    rw [List.length_take]
    omega
  · by_cases within : index < turns
    · right
      refine ⟨index, peer, ?_, late, fits⟩
      rw [List.getElem?_take_of_lt within]
      exact found
    · left
      rw [List.length_take]
      omega

theorem InTime.later {turn : Nat} {result : Option BrokerPeer}
    {later : List (Option BrokerPeer)} (inTime : InTime turn (result :: later))
    (unlocked : result = none ∨ turn + 1 < 5) : InTime (turn + 1) later := by
  rcases inTime with short | ⟨index, peer, found, late, fits⟩
  · left
    rw [List.length_cons] at short
    omega
  · right
    cases index with
    | zero =>
        rcases unlocked with rfl | early
        · cases found
        · omega
    | succ index => exact ⟨index, peer, found, by omega, by omega⟩

theorem InTime.countFits {turn : Nat} {result : Option BrokerPeer}
    {later : List (Option BrokerPeer)} (inTime : InTime turn (result :: later)) : turn < 255 := by
  rcases inTime with short | ⟨index, _, _, _, fits⟩
  · rw [List.length_cons] at short
    omega
  · omega

theorem waitLoop_of_waits {turn : Nat} {loopNum count : UInt8} {peers : BrokerPeerManager}
    {later : List BrokerPeerManager}
    (turned : ∃ after, waitForBrokerPeer profile .waitingForBroker peers loopNum =
      .ok (.waits count, after)) :
    waitLoop profile turn loopNum (peers :: later) = waitLoop profile (turn + 1) count later := by
  obtain ⟨after, turned⟩ := turned
  rw [waitLoop, turned]
  rfl

/-- While the count fits, the loop does what is asked of it. -/
theorem waitLoop_inTime {managers : List BrokerPeerManager} {results : List (Option BrokerPeer)}
    (seen : List.Forall₂ Sees managers results) {turn : Nat} {loopNum : UInt8}
    (counted : loopNum.toNat = turn) (inTime : InTime turn results) :
    match firstLock turn results with
    | some (locking, peer) => waitLoop profile turn loopNum managers = .ok (.locked locking peer)
    | none =>
        ∃ count, waitLoop profile turn loopNum managers = .ok (.waiting count) ∧
          count.toNat = turn + results.length := by
  induction seen generalizing turn loopNum with
  | nil => exact ⟨loopNum, rfl, counted⟩
  | @cons peers result managers results sees _ ih =>
      have fits := inTime.countFits
      have counts : u8AddOne profile loopNum = .ok (loopNum + 1) :=
        u8AddOne_of_lt profile (by omega)
      have next : (loopNum + 1).toNat = turn + 1 := by
        rw [UInt8.toNat_add, counted]
        exact Nat.mod_eq_of_lt (by change turn + 1 < 256; omega)
      rw [List.length_cons, Nat.add_comm results.length, ← Nat.add_assoc]
      cases result with
      | none =>
          rw [firstLock, waitLoop_of_waits (waitForBrokerPeer_none sees counts)]
          exact ih next (inTime.later (Or.inl rfl))
      | some peer =>
          obtain ⟨after, turned⟩ := waitForBrokerPeer_some sees counts
          by_cases late : 5 ≤ turn + 1
          · have tested : 5 ≤ loopNum + 1 := by
              rw [UInt8.le_iff_toNat_le, next]
              exact late
            rw [if_pos tested] at turned
            rw [firstLock, if_pos late]
            rw [waitLoop, turned]
            rfl
          · have tested : ¬ 5 ≤ loopNum + 1 := by
              rw [UInt8.le_iff_toNat_le, next]
              exact late
            rw [if_neg tested] at turned
            rw [firstLock, if_neg late, waitLoop_of_waits ⟨after, turned⟩]
            exact ih next (inTime.later (Or.inr (by omega)))

/-- The loop counts correctly exactly when the results run out, or a peer is
found from the fifth turn on, before the count overflows. -/
theorem countsCorrectly_iff {managers : List BrokerPeerManager}
    {results : List (Option BrokerPeer)} (seen : List.Forall₂ Sees managers results) :
    CountsCorrectly profile managers results ↔ InTime 0 results := by
  constructor
  · intro counts
    by_contra late
    simp only [InTime, Nat.zero_add, not_or, not_exists, not_and] at late
    obtain ⟨long, unlocked⟩ := late
    have sameLength := seen.length_eq
    -- the first 255 turns fit, and none of them locks
    have silent : firstLock 0 (results.take 255) = none := by
      refine firstLock_eq_none ?_
      intro index peer found
      have within : index < 255 := by
        have bound := (List.getElem?_eq_some_iff.mp found).1
        rw [List.length_take] at bound
        omega
      rw [List.getElem?_take_of_lt within] at found
      have unlocked := unlocked index peer found
      omega
    have full := counts 255 (by omega)
    rw [silent] at full
    obtain ⟨count, waited, counted⟩ := full
    have isFull : count = 255 := UInt8.toNat_inj.mp counted
    subst isFull
    -- the next one overflows
    have overflowed := counts 256 (by omega)
    have isNext : 255 < managers.length := by omega
    have isNextResult : 255 < results.length := by omega
    rw [List.take_succ_eq_append_getElem isNext, waitLoop_append waited] at overflowed
    have sees : Sees managers[255] results[255] := seen.get isNext isNextResult
    rcases @waitForBrokerPeer_overflow profile _ _ sees with ⟨panic, turned⟩ | turned
    · have panics : waitLoop profile (0 + (managers.take 255).length) 255 [managers[255]] =
          .error panic := by
        rw [waitLoop, turned]
        rfl
      rw [panics] at overflowed
      split at overflowed
      · cases overflowed
      · obtain ⟨_, impossible, _⟩ := overflowed
        cases impossible
    · rw [waitLoop_of_waits turned] at overflowed
      split at overflowed
      · cases overflowed
      · obtain ⟨count, waited, counted⟩ := overflowed
        cases waited
        cases counted
  · intro inTime turns within
    have taken := @waitLoop_inTime profile _ _ (List.forall₂_take turns seen) 0 0 rfl
      (inTime.take turns)
    split at taken
    · exact taken
    · obtain ⟨count, waited, counted⟩ := taken
      refine ⟨count, waited, ?_⟩
      rw [counted, List.length_take, ← seen.length_eq]
      omega

/-- In either build, one task counts correctly on a sequence of results exactly
when it sees at most 255 of them, or a peer among the fifth to the 255th. -/
theorem waitLoop_countsCorrectly_iff (profile : BuildProfile) (managers : List BrokerPeerManager)
    (results : List (Option BrokerPeer)) (seen : List.Forall₂ Sees managers results) :
    CountsCorrectly profile managers results ↔
      results.length ≤ 255 ∨
        ∃ turn peer, 5 ≤ turn ∧ turn ≤ 255 ∧ results[turn - 1]? = some (some peer) := by
  rw [countsCorrectly_iff seen]
  unfold InTime
  rw [Nat.zero_add]
  refine or_congr_right ⟨?_, ?_⟩
  · rintro ⟨index, peer, found, late, fits⟩
    exact ⟨index + 1, peer, by omega, by omega, found⟩
  · rintro ⟨turn, peer, late, fits, found⟩
    exact ⟨turn - 1, peer, found, by omega, by omega⟩

theorem sees_none_of_new (turns : Nat) :
    List.Forall₂ Sees (List.replicate turns BrokerPeerManager.new) (List.replicate turns none) := by
  induction turns with
  | zero => exact .nil
  | succ turns ih => exact .cons ⟨BrokerPeerManager.new, rfl⟩ ih

/-- A task that has found no broker for 255 turns counts correctly. -/
theorem waitLoop_countsCorrectly_iff_silent :
    CountsCorrectly .debug (List.replicate 255 BrokerPeerManager.new) (List.replicate 255 none) :=
  (waitLoop_countsCorrectly_iff .debug _ _ (sees_none_of_new 255)).mpr
    (Or.inl (Nat.le_of_eq (List.length_replicate ..)))

theorem firstLock_silent (turns : Nat) : firstLock 0 (List.replicate turns none) = none := by
  refine firstLock_eq_none ?_
  intro index peer found
  cases List.eq_of_mem_replicate (List.mem_of_getElem? found)

/-- The 256th turn in a row without a broker meets a full count. -/
theorem waitLoop_silent (profile : BuildProfile) :
    waitLoop profile 0 0 (List.replicate 256 BrokerPeerManager.new) =
      waitLoop profile 255 255 [BrokerPeerManager.new] := by
  have taken := @waitLoop_inTime profile _ _ (sees_none_of_new 255) 0 0 rfl
    (Or.inl (by rw [List.length_replicate]))
  rw [firstLock_silent] at taken
  obtain ⟨count, waited, counted⟩ := taken
  rw [List.length_replicate] at counted
  have full : count = 255 := UInt8.toNat_inj.mp counted
  rw [full] at waited
  rw [List.replicate_succ', waitLoop_append waited, List.length_replicate]

/-- With no broker to be heard of, the 256th turn panics in a debug build and
starts counting anew in a release build. -/
theorem waitLoop_overflows :
    waitLoop .debug 0 0 (List.replicate 256 BrokerPeerManager.new) = .error .arithmeticOverflow ∧
    waitLoop .release 0 0 (List.replicate 256 BrokerPeerManager.new) = .ok (.waiting 0) ∧
    ¬ CountsCorrectly .debug (List.replicate 256 BrokerPeerManager.new) (List.replicate 256 none) ∧
    ¬ CountsCorrectly .release (List.replicate 256 BrokerPeerManager.new)
        (List.replicate 256 none) := by
  have panics : waitLoop .debug 0 0 (List.replicate 256 BrokerPeerManager.new) =
      .error .arithmeticOverflow := (waitLoop_silent .debug).trans rfl
  have wraps : waitLoop .release 0 0 (List.replicate 256 BrokerPeerManager.new) =
      .ok (.waiting 0) := (waitLoop_silent .release).trans rfl
  have isLast : 256 ≤ (List.replicate 256 BrokerPeerManager.new).length := by
    rw [List.length_replicate]
  have allManagers : (List.replicate 256 BrokerPeerManager.new).take 256 =
      List.replicate 256 BrokerPeerManager.new := by rw [List.take_replicate, Nat.min_self]
  have allResults : (List.replicate 256 (none : Option BrokerPeer)).take 256 =
      List.replicate 256 none := by rw [List.take_replicate, Nat.min_self]
  refine ⟨panics, wraps, ?_, ?_⟩
  · intro counts
    have last := counts 256 isLast
    rw [allManagers, allResults, firstLock_silent, panics] at last
    obtain ⟨_, impossible, _⟩ := last
    cases impossible
  · intro counts
    have last := counts 256 isLast
    rw [allManagers, allResults, firstLock_silent, wraps] at last
    obtain ⟨count, waited, counted⟩ := last
    cases waited
    cases counted

end ServiceNetwork.ServiceWorker
