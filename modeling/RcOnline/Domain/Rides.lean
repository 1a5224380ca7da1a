import RcOnline.Domain.StateMachine
import RcOnline.Lib.Number

/-!
# Rides

`RideOrchestrator` of `packages/domain/src/rides.ts`: a ride goes from its offer over the connection
attempts to its settlement, on the state machine of rides. An operation returns or throws, and
leaves a ride behind either way.
-/

namespace RcOnline.Domain

open RcOnline.Lib

/-- `RideStateSchema` of `packages/contracts`. -/
inductive RideState where
  | created
  | offered
  | accepted
  | negotiating
  | active
  | reconnectGrace
  | pausedSiteFailover
  | ending
  | completed
  | failed
  | partiallyCompensated
  | fullyCompensated
  deriving DecidableEq

def rideTransitions : RideState → List RideState
  | .created => [.offered, .failed]
  | .offered => [.accepted, .failed]
  | .accepted => [.negotiating, .failed]
  | .negotiating => [.active, .failed, .fullyCompensated]
  | .active => [.reconnectGrace, .pausedSiteFailover, .ending]
  | .reconnectGrace => [.active, .ending, .partiallyCompensated]
  | .pausedSiteFailover => [.active, .ending, .partiallyCompensated]
  | .ending => [.completed, .partiallyCompensated, .fullyCompensated]
  | .completed => []
  | .failed => [.fullyCompensated]
  | .partiallyCompensated => []
  | .fullyCompensated => []

def createRideStateMachine (rideId : String) : VersionedStateMachine RideState :=
  .new .ride rideId .created rideTransitions

structure RideOrchestratorInput where
  id : String
  userId : String
  carId : String
  purchasedSeconds : Number
  deriving DecidableEq

inductive RideError where
  | purchaseTooShort
  | transition (error : TransitionError RideState)
  | notReady
  | maximumAttempts
  | notExhausted
  | notActive
  /-- `toISOString` of an invalid date. -/
  | invalidTime
  deriving DecidableEq

/-- The text of an error of the orchestrator's own. -/
def RideError.message : RideError → Option String
  | .purchaseTooShort => some "A ride requires at least five minutes"
  | .transition _ => none
  | .notReady => some "Ride is not ready for WebRTC negotiation"
  | .maximumAttempts => some "Maximum WebRTC attempts reached"
  | .notExhausted => some "Full connection failure requires exactly five failed attempts"
  | .notActive => some "Only an active ride can end normally"
  | .invalidTime => some "Invalid time value"

structure RideSnapshot where
  id : String
  userId : String
  carId : String
  state : RideState
  version : Nat
  purchasedSeconds : Number
  usedSeconds : Number
  remainingSeconds : Number
  attemptCount : Nat
  startedAt : Option Int
  deriving DecidableEq

structure RideOrchestrator where
  input : RideOrchestratorInput
  machine : VersionedStateMachine RideState
  attemptCount : Nat
  usedSeconds : Number
  startedAt : Option Date

/-- `date.getTime()`. -/
def getTime : Date → Number
  | some time => .ofInt time
  | none => .nan

/-- `Math.max(0, Math.ceil((endedAt.getTime() - startedAt.getTime()) / 1000))`. -/
def secondsBetween (startedAt endedAt : Date) : Number :=
  (Number.ofInt 0).max (((getTime endedAt).sub (getTime startedAt)).divNat 1000).ceil

/-- What an operation returns or throws, and the ride after it. -/
abbrev RideOutcome := Except RideError Unit × RideOrchestrator

namespace RideOrchestrator

def new (input : RideOrchestratorInput) : Except RideError RideOrchestrator :=
  if input.purchasedSeconds.lt (.ofInt 300) then .error .purchaseTooShort
  else
    .ok
      { input, machine := createRideStateMachine input.id, attemptCount := 0,
        usedSeconds := .ofInt 0, startedAt := none }

variable (ride : RideOrchestrator)

/-- `#machine.transition`. -/
def transition (toState : RideState) (reason : String) (initiator : ActorType) (key : String)
    (at' : Date) : RideOutcome :=
  match ride.machine.transition at'
      { toState, reason, initiator, idempotencyKey := key, occurredAt := some at' } with
  | (.error error, machine) => (.error (.transition error), { ride with machine })
  | (.ok _, machine) => (.ok (), { ride with machine })

def offer (key : String) (at' : Date) : RideOutcome :=
  ride.transition .offered "fifo_offer" .system key at'

def accept (key : String) (at' : Date) : RideOutcome :=
  ride.transition .accepted "user_accepted_offer" .user key at'

/-- The second part of `negotiationStarted`: one more attempt. -/
def attempt : RideOutcome :=
  if ride.machine.state ≠ .negotiating then (.error .notReady, ride)
  else if 5 ≤ ride.attemptCount then (.error .maximumAttempts, ride)
  else (.ok (), { ride with attemptCount := ride.attemptCount + 1 })

def negotiationStarted (key : String) (at' : Date) : RideOutcome :=
  if ride.machine.state = .accepted then
    match ride.transition .negotiating "webrtc_negotiation_started" .system key at' with
    | (.error error, ride) => (.error error, ride)
    | (.ok (), ride) => { ride with startedAt := some at' }.attempt
  else ride.attempt

def connected (key : String) (at' : Date) : RideOutcome :=
  ride.transition .active "webrtc_connected" .system key at'

def failAllAttempts (key : String) (at' : Date) : RideOutcome :=
  if ride.attemptCount ≠ 5 ∨ ride.machine.state ≠ .negotiating then (.error .notExhausted, ride)
  else
    match ride.transition .fullyCompensated "all_webrtc_attempts_failed" .system key at' with
    | (.error error, ride) => (.error error, ride)
    | (.ok (), ride) => (.ok (), { ride with usedSeconds := .ofInt 0 })

/-- The seconds since the start, rounded up. -/
def elapsed (at' : Date) : Number :=
  match ride.startedAt with
  | none => .ofInt 0
  | some startedAt => secondsBetween startedAt at'

/-- The seconds that the end of a ride settles. -/
def settled (at' : Date) : Number := ride.input.purchasedSeconds.min (ride.elapsed at')

/-- The second part of `end`: the seconds are settled. -/
def settle (key : String) (at' : Date) : RideOutcome :=
  { ride with usedSeconds := ride.settled at' }.transition .completed "time_settled" .system
    (key ++ ":completed") at'

/-- `end`. -/
def endRide (key : String) (at' : Date) : RideOutcome :=
  if ride.machine.state ≠ .active then (.error .notActive, ride)
  else
    match ride.transition .ending "user_ended" .user (key ++ ":ending") at' with
    | (.error error, ride) => (.error error, ride)
    | (.ok (), ride) => ride.settle key at'

def snapshot : Except RideError RideSnapshot :=
  let snapshot (startedAt : Option Int) : RideSnapshot :=
    { id := ride.input.id, userId := ride.input.userId, carId := ride.input.carId,
      state := ride.machine.state, version := ride.machine.version,
      purchasedSeconds := ride.input.purchasedSeconds, usedSeconds := ride.usedSeconds,
      remainingSeconds := (Number.ofInt 0).max (ride.input.purchasedSeconds.sub ride.usedSeconds),
      attemptCount := ride.attemptCount, startedAt }
  match ride.startedAt with
  | none => .ok (snapshot none)
  | some (some startedAt) => .ok (snapshot (some startedAt))
  | some none => .error .invalidTime

end RideOrchestrator

/-! ## Calls -/

inductive RideOperation where
  | offer
  | accept
  | negotiationStarted
  | connected
  | failAllAttempts
  | endRide
  deriving DecidableEq

structure RideCall where
  operation : RideOperation
  key : String
  at' : Date
  deriving DecidableEq

def RideOrchestrator.perform (ride : RideOrchestrator) (call : RideCall) : RideOutcome :=
  match call.operation with
  | .offer => ride.offer call.key call.at'
  | .accept => ride.accept call.key call.at'
  | .negotiationStarted => ride.negotiationStarted call.key call.at'
  | .connected => ride.connected call.key call.at'
  | .failAllAttempts => ride.failAllAttempts call.key call.at'
  | .endRide => ride.endRide call.key call.at'

/-- The ride after some calls, whatever they return or throw. -/
def RideOrchestrator.after (ride : RideOrchestrator) (calls : List RideCall) : RideOrchestrator :=
  calls.foldl (fun ride call => (ride.perform call).2) ride

/-! ## What a transition does -/

namespace RideOrchestrator

variable {ride : RideOrchestrator} {toState : RideState} {reason key : String}
  {initiator : ActorType} {at' : Date}

/-- The ride's machine is one of `createRideStateMachine`. -/
def Recorded (ride : RideOrchestrator) : Prop :=
  VersionedStateMachine.Recorded rideTransitions .created ride.machine

/-- A key that the ride's machine has an event for. -/
abbrev Knows (ride : RideOrchestrator) (key : String) : Prop := ride.machine.Knows key

/-- A ride that has moved on, with the key that it has now. -/
structure Moved (ride : RideOrchestrator) (toState : RideState) (key : String)
    (machine : VersionedStateMachine RideState) : Prop where
  fresh : ¬ ride.Knows key
  state : machine.state = toState
  allowed : toState ∈ rideTransitions ride.machine.state
  knows : ∀ other, machine.Knows other ↔ ride.Knows other ∨ other = key
  recorded : VersionedStateMachine.Recorded rideTransitions .created machine

theorem transition_known (h : ride.Knows key) :
    ride.transition toState reason initiator key at' = (.ok (), ride) := by
  unfold transition
  rcases ride.machine.transition_cases at' ⟨toState, reason, initiator, key, some at'⟩ with
    ⟨_, -, -, heq⟩ | ⟨hfresh, -⟩
  · rw [heq]
  · exact absurd h hfresh

theorem transition_fresh (hride : ride.Recorded) (h : ¬ ride.Knows key) :
    (∃ error, ride.transition toState reason initiator key at' = (.error error, ride) ∧
      (toState ∉ rideTransitions ride.machine.state ∨ at' = none)) ∨
    ∃ machine, ride.transition toState reason initiator key at' = (.ok (), { ride with machine }) ∧
      ride.Moved toState key machine ∧ at' ≠ none := by
  unfold transition
  have hrecorded := hride.transition at' ⟨toState, reason, initiator, key, some at'⟩
  rcases ride.machine.transition_cases at' ⟨toState, reason, initiator, key, some at'⟩ with
    ⟨existing, hmem, hkey, -⟩ |
    ⟨-, ⟨error, heq, hwhy⟩ | ⟨event, heq, -, hto, hallowed, -, hkey, hvalid⟩⟩
  · exact absurd ⟨existing, hmem, hkey⟩ h
  · rw [heq]
    exact .inl ⟨_, rfl, by rwa [hride.table] at hwhy⟩
  · rw [heq] at hrecorded ⊢
    dsimp only at hto hkey
    rw [hride.table, hto] at hallowed
    refine .inr ⟨_, rfl, ⟨h, hto, hallowed, fun other => ?_, hrecorded⟩, ?_⟩
    · rw [VersionedStateMachine.knows_append rfl, hkey]
    · dsimp only [Option.getD_some] at hvalid
      rw [hvalid]
      exact Option.some_ne_none _

/-! ## What an operation does -/

end RideOrchestrator

namespace RideOperation

/-- The operations that are one transition. -/
def isTransition : RideOperation → Bool
  | .offer | .accept | .connected => true
  | _ => false

/-- The state that an operation is for. -/
def goal : RideOperation → RideState
  | .offer => .offered
  | .accept => .accepted
  | .negotiationStarted => .negotiating
  | .connected => .active
  | .failAllAttempts => .fullyCompensated
  | .endRide => .completed

end RideOperation

namespace RideOrchestrator

variable (ride : RideOrchestrator)

/-- The outcomes of each operation. -/
inductive Performs : RideCall → RideOutcome → Prop where
  | refused {operation : RideOperation} {key : String} {at' : Date} (error : RideError)
    (htransition : operation.isTransition = true) (hfresh : ¬ ride.Knows key) :
    Performs ⟨operation, key, at'⟩ (.error error, ride)
  | known {operation : RideOperation} {key : String} {at' : Date}
    (htransition : operation.isTransition = true) (hknown : ride.Knows key) :
    Performs ⟨operation, key, at'⟩ (.ok (), ride)
  | moved {operation : RideOperation} {key : String} {at' : Date}
    {machine : VersionedStateMachine RideState} (htransition : operation.isTransition = true)
    (hmoved : ride.Moved operation.goal key machine) :
    Performs ⟨operation, key, at'⟩ (.ok (), { ride with machine })
  | attemptRefused {key : String} {at' : Date} (error : RideError)
    (hfresh : ride.machine.state = .accepted → ¬ ride.Knows key) :
    Performs ⟨.negotiationStarted, key, at'⟩ (.error error, ride)
  | attemptKnown {key : String} {at' : Date} (hstate : ride.machine.state = .accepted)
    (hknown : ride.Knows key) :
    Performs ⟨.negotiationStarted, key, at'⟩
      (.error .notReady, { ride with startedAt := some at' })
  | attemptLate {key : String} {startedAt : Int} {machine : VersionedStateMachine RideState}
    (hstate : ride.machine.state = .accepted) (hcount : 5 ≤ ride.attemptCount)
    (hmoved : ride.Moved .negotiating key machine) :
    Performs ⟨.negotiationStarted, key, some startedAt⟩
      (.error .maximumAttempts, { ride with machine, startedAt := some (some startedAt) })
  | started {key : String} {startedAt : Int} {machine : VersionedStateMachine RideState}
    (hstate : ride.machine.state = .accepted) (hcount : ride.attemptCount < 5)
    (hmoved : ride.Moved .negotiating key machine) :
    Performs ⟨.negotiationStarted, key, some startedAt⟩
      (.ok (),
        { ride with
          machine, startedAt := some (some startedAt), attemptCount := ride.attemptCount + 1 })
  | attempted {key : String} {at' : Date} (hstate : ride.machine.state = .negotiating)
    (hcount : ride.attemptCount < 5) :
    Performs ⟨.negotiationStarted, key, at'⟩
      (.ok (), { ride with attemptCount := ride.attemptCount + 1 })
  | failureRefused {key : String} {at' : Date} (error : RideError)
    (hfresh : ride.attemptCount = 5 → ride.machine.state = .negotiating → ¬ ride.Knows key) :
    Performs ⟨.failAllAttempts, key, at'⟩ (.error error, ride)
  | failureKnown {key : String} {at' : Date} (hcount : ride.attemptCount = 5)
    (hstate : ride.machine.state = .negotiating) (hknown : ride.Knows key) :
    Performs ⟨.failAllAttempts, key, at'⟩ (.ok (), { ride with usedSeconds := .ofInt 0 })
  | failed {key : String} {at' : Date} {machine : VersionedStateMachine RideState}
    (hcount : ride.attemptCount = 5) (hstate : ride.machine.state = .negotiating)
    (hmoved : ride.Moved .fullyCompensated key machine) :
    Performs ⟨.failAllAttempts, key, at'⟩ (.ok (), { ride with machine, usedSeconds := .ofInt 0 })
  | endRefused {key : String} {at' : Date} (error : RideError)
    (hfresh : ride.machine.state = .active → ¬ ride.Knows (key ++ ":ending") ∧ at' = none) :
    Performs ⟨.endRide, key, at'⟩ (.error error, ride)
  | endKnown {key : String} {at' : Date} (hstate : ride.machine.state = .active)
    (hending : ride.Knows (key ++ ":ending")) (hcompleted : ride.Knows (key ++ ":completed")) :
    Performs ⟨.endRide, key, at'⟩ (.ok (), { ride with usedSeconds := ride.settled at' })
  | endHalfKnown {key : String} {at' : Date} (error : RideError)
    (hstate : ride.machine.state = .active) (hending : ride.Knows (key ++ ":ending"))
    (hcompleted : ¬ ride.Knows (key ++ ":completed")) :
    Performs ⟨.endRide, key, at'⟩ (.error error, { ride with usedSeconds := ride.settled at' })
  | halfEnded {key : String} {at' : Date} {machine : VersionedStateMachine RideState}
    (hstate : ride.machine.state = .active) (hvalid : at' ≠ none)
    (hending : ¬ ride.Knows (key ++ ":ending")) (hcompleted : ride.Knows (key ++ ":completed"))
    (hmoved : ride.Moved .ending (key ++ ":ending") machine) :
    Performs ⟨.endRide, key, at'⟩ (.ok (), { ride with machine, usedSeconds := ride.settled at' })
  | ended {key : String} {at' : Date} {machine machine' : VersionedStateMachine RideState}
    (hstate : ride.machine.state = .active) (hending : ¬ ride.Knows (key ++ ":ending"))
    (hcompleted : ¬ ride.Knows (key ++ ":completed"))
    (hmoved : ride.Moved .ending (key ++ ":ending") machine)
    (hmoved' : { ride with machine }.Moved .completed (key ++ ":completed") machine') :
    Performs ⟨.endRide, key, at'⟩
      (.ok (), { ride with machine := machine', usedSeconds := ride.settled at' })

variable {ride} {key : String} {at' : Date}

theorem transition_performs {operation : RideOperation} (hride : ride.Recorded)
    (htransition : operation.isTransition = true) (reason : String) (initiator : ActorType) :
    ride.Performs ⟨operation, key, at'⟩
      (ride.transition operation.goal reason initiator key at') := by
  by_cases hknown : ride.Knows key
  · rw [transition_known hknown]
    exact .known htransition hknown
  · rcases transition_fresh hride hknown with ⟨error, heq, -⟩ | ⟨machine, heq, hmoved, -⟩
    · rw [heq]
      exact .refused error htransition hknown
    · rw [heq]
      exact .moved htransition hmoved

theorem attempt_cases (ride : RideOrchestrator) :
    (ride.machine.state ≠ .negotiating ∧ ride.attempt = (.error .notReady, ride)) ∨
    (ride.machine.state = .negotiating ∧
      ((5 ≤ ride.attemptCount ∧ ride.attempt = (.error .maximumAttempts, ride)) ∨
        (ride.attemptCount < 5 ∧
          ride.attempt = (.ok (), { ride with attemptCount := ride.attemptCount + 1 })))) := by
  unfold attempt
  split
  · next hstate => exact .inl ⟨hstate, rfl⟩
  · next hstate =>
    refine .inr ⟨not_not.1 hstate, ?_⟩
    split
    · next hcount => exact .inl ⟨hcount, rfl⟩
    · next hcount => exact .inr ⟨Nat.lt_of_not_le hcount, rfl⟩

theorem negotiationStarted_performs (hride : ride.Recorded) :
    ride.Performs ⟨.negotiationStarted, key, at'⟩ (ride.negotiationStarted key at') := by
  unfold negotiationStarted
  split
  · next hstate =>
    by_cases hknown : ride.Knows key
    · rw [transition_known hknown]
      rcases attempt_cases { ride with startedAt := some at' } with ⟨-, heq⟩ | ⟨hnegotiating, -⟩
      · dsimp only
        rw [heq]
        exact .attemptKnown hstate hknown
      · rw [hstate] at hnegotiating
        cases hnegotiating
    · rcases transition_fresh hride hknown with ⟨error, heq, -⟩ | ⟨machine, heq, hmoved, hvalid⟩
      · rw [heq]
        exact .attemptRefused error fun _ => hknown
      · rw [heq]
        obtain ⟨startedAt, rfl⟩ := Option.ne_none_iff_exists'.1 hvalid
        dsimp only
        rcases attempt_cases { ride with machine, startedAt := some (some startedAt) } with
          ⟨hstate', -⟩ | ⟨-, ⟨hcount, heq⟩ | ⟨hcount, heq⟩⟩
        · exact absurd hmoved.state hstate'
        · rw [heq]
          exact .attemptLate hstate hcount hmoved
        · rw [heq]
          exact .started hstate hcount hmoved
  · next hstate =>
    rcases attempt_cases ride with ⟨-, heq⟩ | ⟨hnegotiating, ⟨-, heq⟩ | ⟨hcount, heq⟩⟩
    · rw [heq]
      exact .attemptRefused _ fun h => absurd h hstate
    · rw [heq]
      exact .attemptRefused _ fun h => absurd h hstate
    · rw [heq]
      exact .attempted hnegotiating hcount

theorem failAllAttempts_performs (hride : ride.Recorded) :
    ride.Performs ⟨.failAllAttempts, key, at'⟩ (ride.failAllAttempts key at') := by
  unfold failAllAttempts
  split
  · next hguard =>
    refine .failureRefused _ fun hcount hstate => ?_
    rcases hguard with hcount' | hstate'
    · exact absurd hcount hcount'
    · exact absurd hstate hstate'
  · next hguard =>
    obtain ⟨hcount, hstate⟩ := not_or.1 hguard
    rw [not_not] at hcount hstate
    by_cases hknown : ride.Knows key
    · rw [transition_known hknown]
      exact .failureKnown hcount hstate hknown
    · rcases transition_fresh hride hknown with ⟨error, heq, -⟩ | ⟨machine, heq, hmoved, -⟩
      · rw [heq]
        exact .failureRefused _ fun _ _ => hknown
      · rw [heq]
        exact .failed hcount hstate hmoved

/-- The keys of the two transitions of an end differ. -/
theorem completed_ne_ending (key : String) : key ++ ":completed" ≠ key ++ ":ending" := by
  intro h
  have hlists := congrArg String.toList h
  rw [String.toList_append, String.toList_append] at hlists
  have hsuffix := List.append_cancel_left hlists
  exact absurd hsuffix (by decide)

theorem settle_known (h : ride.Knows (key ++ ":completed")) :
    ride.settle key at' = (.ok (), { ride with usedSeconds := ride.settled at' }) := by
  have h' : { ride with usedSeconds := ride.settled at' }.Knows (key ++ ":completed") := h
  exact transition_known h'

theorem settle_fresh (hride : ride.Recorded) (h : ¬ ride.Knows (key ++ ":completed")) :
    (∃ error, ride.settle key at' =
        (.error error, { ride with usedSeconds := ride.settled at' }) ∧
      (.completed ∉ rideTransitions ride.machine.state ∨ at' = none)) ∨
    ∃ machine, ride.settle key at' =
        (.ok (), { ride with machine, usedSeconds := ride.settled at' }) ∧
      ride.Moved .completed (key ++ ":completed") machine := by
  have hride' : { ride with usedSeconds := ride.settled at' }.Recorded := hride
  have h' : ¬ { ride with usedSeconds := ride.settled at' }.Knows (key ++ ":completed") := h
  rcases transition_fresh hride' h' with hrefused | ⟨machine, heq, hmoved, -⟩
  · exact .inl hrefused
  · exact .inr ⟨machine, heq, h, hmoved.state, hmoved.allowed, hmoved.knows, hmoved.recorded⟩

theorem endRide_performs (hride : ride.Recorded) :
    ride.Performs ⟨.endRide, key, at'⟩ (ride.endRide key at') := by
  unfold endRide
  split
  · next hstate => exact .endRefused _ fun h => absurd h hstate
  · next hstate =>
    rw [not_not] at hstate
    by_cases hending : ride.Knows (key ++ ":ending")
    · rw [transition_known hending]
      dsimp only
      by_cases hcompleted : ride.Knows (key ++ ":completed")
      · rw [settle_known hcompleted]
        exact .endKnown hstate hending hcompleted
      · rcases settle_fresh hride hcompleted with ⟨error, heq, -⟩ | ⟨machine, -, hmoved⟩
        · rw [heq]
          exact .endHalfKnown error hstate hending hcompleted
        · have hallowed := hmoved.allowed
          rw [hstate] at hallowed
          exact absurd hallowed (by decide)
    · rcases transition_fresh hride hending with ⟨error, heq, hwhy⟩ | ⟨machine, heq, hmoved, hvalid⟩
      · rw [heq]
        refine .endRefused _ fun _ => ⟨hending, hwhy.resolve_left ?_⟩
        rw [hstate, not_not]
        decide
      · rw [heq]
        dsimp only
        let ending : RideOrchestrator := { ride with machine }
        have hknows : ending.Knows (key ++ ":completed") ↔ ride.Knows (key ++ ":completed") :=
          (hmoved.knows _).trans (or_iff_left (completed_ne_ending key))
        by_cases hcompleted : ending.Knows (key ++ ":completed")
        · rw [settle_known hcompleted]
          exact .halfEnded hstate hvalid hending (hknows.1 hcompleted) hmoved
        · have hrecorded : ending.Recorded := hmoved.recorded
          rcases settle_fresh hrecorded hcompleted with
            ⟨error, -, hdenied | hinvalid⟩ | ⟨machine', heq', hmoved'⟩
          · have hstate' : ending.machine.state = .ending := hmoved.state
            rw [hstate'] at hdenied
            exact absurd List.mem_cons_self hdenied
          · exact absurd hinvalid hvalid
          · rw [heq']
            exact .ended hstate hending (fun h => hcompleted (hknows.2 h)) hmoved hmoved'

theorem perform_performs (hride : ride.Recorded) (call : RideCall) :
    ride.Performs call (ride.perform call) := by
  obtain ⟨operation, key, at'⟩ := call
  cases operation with
  | offer => exact transition_performs hride rfl _ _
  | accept => exact transition_performs hride rfl _ _
  | connected => exact transition_performs hride rfl _ _
  | negotiationStarted => exact negotiationStarted_performs hride
  | failAllAttempts => exact failAllAttempts_performs hride
  | endRide => exact endRide_performs hride

end RideOrchestrator

end RcOnline.Domain
