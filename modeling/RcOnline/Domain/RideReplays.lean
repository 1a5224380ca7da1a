import RcOnline.Domain.Rides

/-!
# Replayed ride operations

An operation that is delivered again finds its key in the history, or a ride that has moved on. Only
`negotiationStarted` never looks at the key of an attempt that follows the first: its replay counts
one more attempt, unless the attempts are used up (`replay_unchanged_iff`).
-/

namespace RcOnline.Domain

open RcOnline.Lib

namespace RideOrchestrator

variable {ride ride' start : RideOrchestrator} {call : RideCall}

/-- What every operation keeps of a ride: its record, and a start for the negotiation. -/
structure Begun (ride : RideOrchestrator) : Prop where
  recorded : ride.Recorded
  negotiating : ride.machine.state = .negotiating →
    ∃ startedAt, ride.startedAt = some (some startedAt)

theorem begun_new {input : RideOrchestratorInput} (h : new input = .ok start) : start.Begun := by
  unfold new at h
  split at h
  · cases h
  · obtain rfl := Except.ok.inj h
    exact ⟨VersionedStateMachine.recorded_new _ _ _ _, nofun⟩

theorem Begun.perform (h : ride.Begun) (call : RideCall) : (ride.perform call).2.Begun := by
  have hperforms := perform_performs h.recorded call
  generalize ride.perform call = outcome at hperforms
  cases hperforms with
  | refused | known | attemptRefused | failureRefused | endRefused => exact h
  | moved htransition hmoved =>
    next operation _ _ _ =>
    refine ⟨hmoved.recorded, fun hstate => ?_⟩
    have hgoal : operation.goal = .negotiating := hmoved.state.symm.trans hstate
    cases operation with
    | negotiationStarted => cases htransition
    | _ => cases hgoal
  | attemptKnown hstate =>
    refine ⟨h.recorded, fun hstate' => ?_⟩
    dsimp only at hstate'
    rw [hstate] at hstate'
    cases hstate'
  | attemptLate _ _ hmoved => exact ⟨hmoved.recorded, fun _ => ⟨_, rfl⟩⟩
  | started _ _ hmoved => exact ⟨hmoved.recorded, fun _ => ⟨_, rfl⟩⟩
  | attempted | failureKnown | endKnown | endHalfKnown => exact ⟨h.recorded, h.negotiating⟩
  | failed _ _ hmoved =>
    refine ⟨hmoved.recorded, fun hstate => ?_⟩
    cases hmoved.state.symm.trans hstate
  | halfEnded _ _ _ _ hmoved =>
    refine ⟨hmoved.recorded, fun hstate => ?_⟩
    cases hmoved.state.symm.trans hstate
  | ended _ _ _ _ hmoved =>
    refine ⟨hmoved.recorded, fun hstate => ?_⟩
    cases hmoved.state.symm.trans hstate

theorem Begun.after (h : ride.Begun) (calls : List RideCall) : (ride.after calls).Begun :=
  (run_foldl _ ride calls).invariant h fun h hstep => hstep ▸ h.perform _

/-! ## One call twice -/

/-- A transition with a known key changes nothing. -/
theorem perform_of_known {operation : RideOperation} {key : String} {at' : Date}
    (htransition : operation.isTransition = true) (hknown : ride.Knows key) :
    ride.perform ⟨operation, key, at'⟩ = (.ok (), ride) := by
  cases operation with
  | offer => exact transition_known hknown
  | accept => exact transition_known hknown
  | connected => exact transition_known hknown
  | negotiationStarted | failAllAttempts | endRide => cases htransition

/-- One more attempt changes what is read of the ride, and a refused one does not. -/
theorem attempted_twice_iff {key : String} {at' : Date} (h : ride.Begun)
    (hstate : ride.machine.state = .negotiating) :
    (ride.perform ⟨.negotiationStarted, key, at'⟩).2.snapshot = ride.snapshot ↔
      5 ≤ ride.attemptCount := by
  have hattempt : ride.perform ⟨.negotiationStarted, key, at'⟩ = ride.attempt := by
    refine if_neg ?_
    rw [hstate]
    decide
  rw [hattempt]
  rcases attempt_cases ride with ⟨hother, -⟩ | ⟨-, ⟨hcount, heq⟩ | ⟨hcount, heq⟩⟩
  · exact absurd hstate hother
  · rw [heq]
    exact iff_of_true rfl hcount
  · rw [heq]
    refine iff_of_false (fun hsame => ?_) (Nat.not_le_of_lt hcount)
    obtain ⟨startedAt, hstarted⟩ := h.negotiating hstate
    unfold snapshot at hsame
    rw [hstarted] at hsame
    have hcounts := congrArg RideSnapshot.attemptCount (Except.ok.inj hsame)
    dsimp only at hcounts
    omega

/-- A failure that has succeeded is not repeated. -/
theorem failure_twice {key : String} {at' : Date} (h : ride.Recorded)
    (hused : ride.usedSeconds = .ofInt 0)
    (hover : ride.Knows key ∨ ride.machine.state = .fullyCompensated) :
    (ride.perform ⟨.failAllAttempts, key, at'⟩).2.snapshot = ride.snapshot := by
  have hperforms := perform_performs h ⟨.failAllAttempts, key, at'⟩
  generalize ride.perform ⟨.failAllAttempts, key, at'⟩ = outcome at hperforms
  cases hperforms with
  | refused _ htransition | known htransition | moved htransition => cases htransition
  | failureRefused => rfl
  | failureKnown =>
    dsimp only
    rw [← hused]
  | failed _ hstate hmoved =>
    rcases hover with hknown | hstate'
    · exact absurd hknown hmoved.fresh
    · rw [hstate] at hstate'
      cases hstate'

/-- An end that has succeeded is not repeated, nor are its seconds settled anew. -/
theorem end_twice {key : String} {at' : Date} (h : ride.Recorded)
    (hover : ride.machine.state ≠ .active ∨ (ride.Knows (key ++ ":ending") ∧
      ride.Knows (key ++ ":completed") ∧ ride.usedSeconds = ride.settled at')) :
    (ride.perform ⟨.endRide, key, at'⟩).2.snapshot = ride.snapshot := by
  have hperforms := perform_performs h ⟨.endRide, key, at'⟩
  generalize ride.perform ⟨.endRide, key, at'⟩ = outcome at hperforms
  cases hperforms with
  | refused _ htransition | known htransition | moved htransition => cases htransition
  | endRefused => rfl
  | endKnown hstate =>
    obtain ⟨-, -, hused⟩ := hover.resolve_left (not_not.2 hstate)
    dsimp only
    rw [← hused]
  | endHalfKnown _ hstate _ hcompleted =>
    exact absurd (hover.resolve_left (not_not.2 hstate)).2.1 hcompleted
  | halfEnded hstate _ hending =>
    exact absurd (hover.resolve_left (not_not.2 hstate)).1 hending
  | ended hstate hending =>
    exact absurd (hover.resolve_left (not_not.2 hstate)).1 hending

/-- **Main result.** Whatever has been asked of a ride, the replay of a call that has just succeeded
leaves what is read of it unchanged if and only if the call is not an attempt before the fifth. -/
theorem replay_unchanged_iff {input : RideOrchestratorInput} (hnew : new input = .ok start)
    (calls : List RideCall) (hok : (start.after calls).perform call = (.ok (), ride')) :
    (ride'.perform call).2.snapshot = ride'.snapshot ↔
      (call.operation = .negotiationStarted → 4 ≤ (start.after calls).attemptCount) := by
  have h : (start.after calls).Begun := (begun_new hnew).after calls
  generalize start.after calls = ride at h hok
  have hafter : ride'.Begun := by
    have := h.perform call
    rwa [hok] at this
  have hperforms := perform_performs h.recorded call
  rw [hok] at hperforms
  cases hperforms with
  | known htransition hknown =>
    rw [perform_of_known htransition hknown]
    refine iff_of_true rfl fun hoperation => ?_
    dsimp only at hoperation
    rw [hoperation] at htransition
    cases htransition
  | moved htransition hmoved =>
    rw [perform_of_known htransition ((hmoved.knows _).2 (.inr rfl))]
    refine iff_of_true rfl fun hoperation => ?_
    dsimp only at hoperation
    rw [hoperation] at htransition
    cases htransition
  | started _ _ hmoved =>
    rw [attempted_twice_iff hafter hmoved.state]
    simp
  | attempted hstate =>
    rw [attempted_twice_iff hafter hstate]
    simp
  | failureKnown _ _ hknown =>
    exact iff_of_true (failure_twice hafter.recorded rfl (.inl hknown)) nofun
  | failed _ _ hmoved =>
    exact iff_of_true (failure_twice hafter.recorded rfl (.inr hmoved.state)) nofun
  | endKnown _ hending hcompleted =>
    exact iff_of_true (end_twice hafter.recorded (.inr ⟨hending, hcompleted, rfl⟩)) nofun
  | halfEnded _ _ _ _ hmoved =>
    refine iff_of_true (end_twice hafter.recorded (.inl ?_)) nofun
    dsimp only
    rw [hmoved.state]
    decide
  | ended _ _ _ _ hmoved =>
    refine iff_of_true (end_twice hafter.recorded (.inl ?_)) nofun
    dsimp only
    rw [hmoved.state]
    decide

/-! ## A ride -/

def demoInput : RideOrchestratorInput :=
  { id := "ride", userId := "user", carId := "car", purchasedSeconds := .ofInt 300 }

/-- The ride as it is created. -/
def demoRide : RideOrchestrator :=
  { input := demoInput, machine := createRideStateMachine "ride", attemptCount := 0,
    usedSeconds := .ofInt 0, startedAt := none }

theorem new_demoInput : new demoInput = .ok demoRide := rfl

def acceptedCalls : List RideCall :=
  [⟨.offer, "offer-ride", some 0⟩, ⟨.accept, "accept-ride", some 0⟩]

def firstAttempt : RideCall := ⟨.negotiationStarted, "attempt-1", some 1000⟩

/-- An acceptance may be delivered again. -/
theorem acceptance_replayed :
    let ride := demoRide.after [⟨.offer, "offer-ride", some 0⟩]
    (ride.perform ⟨.accept, "accept-ride", some 0⟩).1 = .ok () ∧
      ((ride.perform ⟨.accept, "accept-ride", some 0⟩).2.perform
          ⟨.accept, "accept-ride", some 0⟩).2.snapshot =
        (ride.perform ⟨.accept, "accept-ride", some 0⟩).2.snapshot :=
  ⟨rfl, (replay_unchanged_iff new_demoInput [⟨.offer, "offer-ride", some 0⟩] rfl).2 nofun⟩

/-- An attempt that is delivered again is counted twice. -/
theorem attempt_counted_twice :
    ((demoRide.after acceptedCalls).perform firstAttempt).1 = .ok () ∧
      (((demoRide.after acceptedCalls).perform firstAttempt).2.perform firstAttempt).2.snapshot ≠
        ((demoRide.after acceptedCalls).perform firstAttempt).2.snapshot := by
  refine ⟨rfl, fun hsame => ?_⟩
  have hcounts : 2 = 1 := congrArg RideSnapshot.attemptCount (Except.ok.inj hsame)
  cases hcounts

end RideOrchestrator

end RcOnline.Domain
