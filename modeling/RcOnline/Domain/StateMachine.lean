import RcOnline.Lib.Host
import RcOnline.Lib.Steps

/-!
# Versioned state machines

`VersionedStateMachine` of `packages/domain/src/state-machine.ts`: a state moves along a table of
transitions, and every move is recorded under the key that it was asked for with. A key that is in
the history is answered with the event it has. Whatever is asked for, the history leads from the
initial state to the current one, step by step and version by version (`calls_recorded`).
-/

namespace RcOnline.Domain

open RcOnline.Lib

/-- `ActorTypeSchema` of `packages/contracts`. -/
inductive ActorType where
  | user
  | system
  | operator
  | technicalAdmin
  | businessAdmin
  | device
  deriving DecidableEq

inductive Entity where
  | car
  | ride
  deriving DecidableEq

structure StateTransition (State : Type) where
  entityId : String
  fromState : State
  toState : State
  reason : String
  initiator : ActorType
  version : Nat
  /-- The time value of the instant that the ISO text denotes. -/
  occurredAt : Int
  idempotencyKey : String
  deriving DecidableEq

inductive TransitionError (State : Type) where
  /-- `InvalidTransitionError`. -/
  | invalidTransition (entity : Entity) (fromState toState : State)
  /-- `toISOString` of an invalid date. -/
  | invalidTime
  deriving DecidableEq

structure TransitionInput (State : Type) where
  toState : State
  reason : String
  initiator : ActorType
  idempotencyKey : String
  occurredAt : Option Date := none

structure VersionedStateMachine (State : Type) where
  transitions : State → List State
  entity : Entity
  entityId : String
  history : List (StateTransition State)
  state : State
  version : Nat

namespace VersionedStateMachine

variable {State : Type}

/-- A machine as it is constructed. -/
def new (entity : Entity) (entityId : String) (initialState : State)
    (transitions : State → List State) : VersionedStateMachine State :=
  { transitions, entity, entityId, history := [], state := initialState, version := 1 }

variable (machine : VersionedStateMachine State)

/-- What a call returns or throws, and the machine after it; `now` is the clock that a missing
`occurredAt` is read from. -/
def transition [DecidableEq State] (now : Date) (input : TransitionInput State) :
    Except (TransitionError State) (StateTransition State) × VersionedStateMachine State :=
  match machine.history.find? (·.idempotencyKey = input.idempotencyKey) with
  | some existing => (.ok existing, machine)
  | none =>
    if input.toState ∈ machine.transitions machine.state then
      -- the event is built before anything is assigned
      match input.occurredAt.getD now with
      | none => (.error .invalidTime, machine)
      | some occurredAt =>
        let event : StateTransition State :=
          { entityId := machine.entityId, fromState := machine.state, toState := input.toState,
            reason := input.reason, initiator := input.initiator, version := machine.version + 1,
            occurredAt, idempotencyKey := input.idempotencyKey }
        (.ok event,
          { machine with
            state := input.toState
            version := event.version
            history := machine.history ++ [event] })
    else (.error (.invalidTransition machine.entity machine.state input.toState), machine)

/-! ## What a call does -/

/-- A key that has an event. -/
def Knows (key : String) : Prop := ∃ event ∈ machine.history, event.idempotencyKey = key

instance (key : String) : Decidable (machine.Knows key) :=
  inferInstanceAs (Decidable (∃ event ∈ machine.history, event.idempotencyKey = key))

variable {machine} {now : Date} {input : TransitionInput State}

theorem knows_append {machine' : VersionedStateMachine State} {event : StateTransition State}
    (h : machine'.history = machine.history ++ [event]) (key : String) :
    machine'.Knows key ↔ machine.Knows key ∨ key = event.idempotencyKey := by
  simp only [Knows, h, List.mem_append, List.mem_singleton, or_and_right, exists_or,
    exists_eq_left, eq_comm (a := key)]

/-- A known key, a move that is not in the table, an invalid date, or a move. -/
theorem transition_cases [DecidableEq State] (machine : VersionedStateMachine State) (now : Date)
    (input : TransitionInput State) :
    (∃ existing ∈ machine.history, existing.idempotencyKey = input.idempotencyKey ∧
      machine.transition now input = (.ok existing, machine)) ∨
    (¬ machine.Knows input.idempotencyKey ∧
      ((∃ error, machine.transition now input = (.error error, machine) ∧
          (input.toState ∉ machine.transitions machine.state ∨
            input.occurredAt.getD now = none)) ∨
        ∃ event, machine.transition now input =
            (.ok event,
              { machine with
                state := event.toState
                version := event.version
                history := machine.history ++ [event] }) ∧
          event.fromState = machine.state ∧ event.toState = input.toState ∧
          event.toState ∈ machine.transitions machine.state ∧
          event.version = machine.version + 1 ∧ event.idempotencyKey = input.idempotencyKey ∧
          input.occurredAt.getD now = some event.occurredAt)) := by
  unfold transition
  split
  · next existing hfind =>
    have hkey := List.find?_some hfind
    exact .inl ⟨existing, List.mem_of_find?_eq_some hfind, of_decide_eq_true hkey, rfl⟩
  · next hfind =>
    have hfresh : ¬ machine.Knows input.idempotencyKey := by
      rintro ⟨event, hmem, hkey⟩
      exact List.find?_eq_none.1 hfind event hmem (decide_eq_true hkey)
    refine .inr ⟨hfresh, ?_⟩
    split
    · next hallowed =>
      split
      · next hinvalid => exact .inl ⟨_, rfl, .inr hinvalid⟩
      · next hvalid => exact .inr ⟨_, rfl, rfl, rfl, hallowed, rfl, rfl, hvalid⟩
    · next hdenied => exact .inl ⟨_, rfl, .inl hdenied⟩

/-! ## The history -/

/-- An event leads from one state to the next, along the table. -/
def Follows (transitions : State → List State) (s : State) (event : StateTransition State)
    (t : State) : Prop :=
  event.fromState = s ∧ event.toState = t ∧ t ∈ transitions s

/-- The history leads from the initial state to the current one. -/
structure Recorded (transitions : State → List State) (initialState : State)
    (machine : VersionedStateMachine State) : Prop where
  table : machine.transitions = transitions
  chain : Run (Follows transitions) initialState machine.history machine.state
  versions : machine.history.map (·.version) = List.range' 2 machine.history.length
  version : machine.version = machine.history.length + 1
  keys : (machine.history.map (·.idempotencyKey)).Nodup

variable {transitions : State → List State} {initialState : State}

theorem recorded_new (entity : Entity) (entityId : String) (initialState : State)
    (transitions : State → List State) :
    Recorded transitions initialState (new entity entityId initialState transitions) where
  table := rfl
  chain := .nil
  versions := rfl
  version := rfl
  keys := List.nodup_nil

/-- The last event entered the current state, under the current version. -/
theorem Recorded.last (h : Recorded transitions initialState machine)
    {event : StateTransition State} (hlast : machine.history.getLast? = some event) :
    machine.state = event.toState ∧ machine.version = event.version := by
  obtain ⟨before, hhistory⟩ := List.getLast?_eq_some_iff.1 hlast
  constructor
  · have hchain := h.chain
    rw [hhistory] at hchain
    obtain ⟨s, -, hfollows⟩ := hchain.last
    exact hfollows.2.1.symm
  · have hversions := h.versions
    rw [hhistory, List.map_append, List.length_append, List.length_singleton,
      List.range'_concat] at hversions
    obtain ⟨-, hevent⟩ := List.append_inj' hversions rfl
    rw [h.version, hhistory, List.length_append, List.length_singleton]
    have hversion : event.version = 2 + 1 * before.length := List.singleton_inj.1 hevent
    omega

variable [DecidableEq State]

/-- The event that a known key has is the only one. -/
theorem Recorded.transition_known (h : Recorded transitions initialState machine)
    {event : StateTransition State} (hmem : event ∈ machine.history)
    (hkey : event.idempotencyKey = input.idempotencyKey) :
    machine.transition now input = (.ok event, machine) := by
  rcases machine.transition_cases now input with ⟨existing, hexisting, hsame, heq⟩ | ⟨hfresh, -⟩
  · have hevent : existing = event :=
      List.inj_on_of_nodup_map h.keys hexisting hmem (hsame.trans hkey.symm)
    rw [heq, hevent]
  · exact absurd ⟨event, hmem, hkey⟩ hfresh

theorem transition_error {error : TransitionError State}
    (h : (machine.transition now input).1 = .error error) :
    (machine.transition now input).2 = machine := by
  rcases machine.transition_cases now input with
    ⟨_, -, -, heq⟩ | ⟨-, ⟨_, heq, -⟩ | ⟨_, heq, -⟩⟩
  · rw [heq]
  · rw [heq]
  · rw [heq] at h
    cases h

theorem Recorded.transition (h : Recorded transitions initialState machine) (now : Date)
    (input : TransitionInput State) :
    Recorded transitions initialState (machine.transition now input).2 := by
  rcases machine.transition_cases now input with
    ⟨_, -, -, heq⟩ | ⟨hfresh, ⟨_, heq, -⟩ | ⟨event, heq, hfrom, hto, hallowed, hversion, hkey, -⟩⟩
  · rwa [heq]
  · rwa [heq]
  · rw [heq]
    refine ⟨h.table, h.chain.snoc ⟨hfrom, rfl, h.table ▸ hallowed⟩, ?_, ?_, ?_⟩
    · dsimp only
      rw [List.map_append, h.versions, List.length_append, List.length_singleton,
        List.range'_concat, List.map_singleton, hversion, h.version, one_mul, add_comm 2,
        add_assoc]
    · dsimp only
      rw [hversion, h.version, List.length_append, List.length_singleton]
    · dsimp only
      rw [List.map_append, List.map_singleton]
      refine List.nodup_append'.2 ⟨h.keys, List.nodup_singleton _, ?_⟩
      rw [List.disjoint_singleton]
      intro hmem
      obtain ⟨other, hother, hsame⟩ := List.mem_map.1 hmem
      exact hfresh ⟨other, hother, hsame.trans hkey⟩

/-! ## Every run -/

/-- The machine after some calls, whatever they return or throw. -/
def after (machine : VersionedStateMachine State) (calls : List (Date × TransitionInput State)) :
    VersionedStateMachine State :=
  calls.foldl (fun machine call => (machine.transition call.1 call.2).2) machine

theorem Recorded.after (h : Recorded transitions initialState machine)
    (calls : List (Date × TransitionInput State)) :
    Recorded transitions initialState (machine.after calls) :=
  (run_foldl _ machine calls).invariant h fun h hstep => hstep ▸ h.transition _ _

/-- **Main result.** Whatever is asked of a machine, its history leads along the table from the
initial state to the current one, with the versions 2, 3 and so on and a key of its own for each
event; a call that throws changes nothing, and one with a known key returns the key's event. -/
theorem calls_recorded (entity : Entity) (entityId : String) (initialState : State)
    (transitions : State → List State) (calls : List (Date × TransitionInput State)) :
    let machine := (new entity entityId initialState transitions).after calls
    Recorded transitions initialState machine ∧
      (machine.history = [] → machine.state = initialState ∧ machine.version = 1) ∧
      (∀ event, machine.history.getLast? = some event →
        machine.state = event.toState ∧ machine.version = event.version) ∧
      ∀ now input,
        (∀ error, (machine.transition now input).1 = .error error →
          (machine.transition now input).2 = machine) ∧
        ∀ event ∈ machine.history, event.idempotencyKey = input.idempotencyKey →
          machine.transition now input = (.ok event, machine) := by
  intro machine
  have h : Recorded transitions initialState machine :=
    (recorded_new entity entityId initialState transitions).after calls
  refine ⟨h, fun hempty => ?_, fun event => h.last, fun now input => ⟨fun error => ?_, ?_⟩⟩
  · have hchain := h.chain
    rw [hempty] at hchain
    exact ⟨hchain.eq_start, by rw [h.version, hempty, List.length_nil]⟩
  · exact transition_error
  · exact fun event hmem hkey => h.transition_known hmem hkey

end VersionedStateMachine

end RcOnline.Domain
