import RcOnline.Lib.Number
import RcOnline.Lib.Steps

/-!
# The safety gate of the edge

`EdgeSafetyGate` of `apps/edge/src/safety.ts`, which every control command of a ride passes through,
and what it promises over a run: a command is accepted once, and none after a stop
(`Guarded`). Activating a ride resets both the replay counter and the latch, so the promise is kept
by the runs that do not activate a ride again once it has something to lose (`guarded_run`).
-/

namespace RcOnline.Edge

open RcOnline.Lib

structure ControlInput where
  rideId : String
  sequence : Number
  steering : Number
  throttle : Number
  brake : Number
  receivedMonotonicMs : Number
  deriving DecidableEq

structure SafetyDecision where
  accepted : Bool
  steering : Number
  throttle : Number
  brake : Number
  reason : String
  deriving DecidableEq

structure EdgeSafetyGate where
  operatorStop : Bool
  activeRideId : Option String
  lastSequence : Number
  deriving DecidableEq

namespace EdgeSafetyGate

/-- A gate as it is constructed. -/
def new : EdgeSafetyGate :=
  { operatorStop := false, activeRideId := none, lastSequence := .ofInt (-1) }

def activateRide (_gate : EdgeSafetyGate) (rideId : String) : EdgeSafetyGate :=
  { operatorStop := false, activeRideId := some rideId, lastSequence := .ofInt (-1) }

def stop (gate : EdgeSafetyGate) (reason : String) : SafetyDecision × EdgeSafetyGate :=
  ({ accepted := false, steering := .ofInt 0, throttle := .ofInt 0, brake := .ofInt 1000,
     reason := "operator_stop:" ++ reason },
    { gate with operatorStop := true })

def neutral (reason : String) : SafetyDecision :=
  { accepted := false, steering := .ofInt 0, throttle := .ofInt 0, brake := .ofInt 1000, reason }

/-- A command that took more than 100 ms to reach the gate. -/
def staleCommand (input : ControlInput) (nowMonotonicMs : Number) : Bool :=
  (Number.ofInt 100).lt (nowMonotonicMs.sub input.receivedMonotonicMs)

def apply (gate : EdgeSafetyGate) (input : ControlInput) (nowMonotonicMs : Number) :
    SafetyDecision × EdgeSafetyGate :=
  if gate.operatorStop then gate.stop "latched"
  else if some input.rideId ≠ gate.activeRideId then (neutral "ride_mismatch", gate)
  else if input.sequence.le gate.lastSequence then (neutral "stale_or_replayed_sequence", gate)
  else if staleCommand input nowMonotonicMs then (neutral "stale_command", gate)
  else
    ({ accepted := true
       steering := (Number.ofInt (-1000)).max ((Number.ofInt 1000).min input.steering)
       throttle := (Number.ofInt 0).max ((Number.ofInt 1000).min input.throttle)
       brake := (Number.ofInt 0).max ((Number.ofInt 1000).min input.brake)
       reason := "accepted" },
      { gate with lastSequence := input.sequence })

/-- A rejected command leaves the gate as it is, an accepted one moves the replay counter. -/
theorem apply_cases (gate : EdgeSafetyGate) (input : ControlInput) (nowMonotonicMs : Number) :
    ((gate.apply input nowMonotonicMs).1.accepted = false ∧
      (gate.apply input nowMonotonicMs).2 = gate) ∨
    (gate.operatorStop = false ∧ gate.activeRideId = some input.rideId ∧
      input.sequence.le gate.lastSequence = false ∧ staleCommand input nowMonotonicMs = false ∧
      (gate.apply input nowMonotonicMs).1.accepted = true ∧
      (gate.apply input nowMonotonicMs).2 = { gate with lastSequence := input.sequence }) := by
  unfold apply
  split
  · next hstop => exact .inl ⟨rfl, by rw [stop, ← hstop]⟩
  · next hstop =>
    split
    · exact .inl ⟨rfl, rfl⟩
    · next hride =>
      split
      · exact .inl ⟨rfl, rfl⟩
      · next hsequence =>
        split
        · exact .inl ⟨rfl, rfl⟩
        · next hstale =>
          exact .inr ⟨Bool.eq_false_iff.2 hstop, (not_not.1 hride).symm,
            Bool.eq_false_iff.2 hsequence, Bool.eq_false_iff.2 hstale, rfl, rfl⟩

end EdgeSafetyGate

/-! ## Runs -/

inductive GateCall where
  | activateRide (rideId : String)
  | stop (reason : String)
  | apply (input : ControlInput) (nowMonotonicMs : Number)

/-- What a run is judged by: the accepted commands, and the rides that were active at a stop. -/
inductive GateEntry where
  | accepted (rideId : String) (sequence : Number)
  | stopped (rideId : String)
  deriving DecidableEq

def GateEntry.rideId : GateEntry → String
  | .accepted rideId _ => rideId
  | .stopped rideId => rideId

structure GateRun where
  gate : EdgeSafetyGate
  log : List GateEntry

namespace GateRun

def start : GateRun := { gate := .new, log := [] }

def call (run : GateRun) : GateCall → GateRun
  | .activateRide rideId => { run with gate := run.gate.activateRide rideId }
  | .stop reason =>
    { gate := (run.gate.stop reason).2
      log := run.log ++ (run.gate.activeRideId.map GateEntry.stopped).toList }
  | .apply input nowMonotonicMs =>
    let (decision, gate) := run.gate.apply input nowMonotonicMs
    { gate
      log := if decision.accepted then run.log ++ [.accepted input.rideId input.sequence]
        else run.log }

end GateRun

/-- Nothing before an accepted command forbids it. -/
def Permits (earlier : GateEntry) : GateEntry → Prop
  | .accepted rideId sequence => earlier ≠ .accepted rideId sequence ∧ earlier ≠ .stopped rideId
  | .stopped _ => True

instance : DecidableRel Permits := fun earlier later => by
  cases later <;> unfold Permits <;> infer_instance

/-- No command is accepted twice, and none after a stop of its ride. -/
def Guarded (log : List GateEntry) : Prop := log.Pairwise Permits

instance (log : List GateEntry) : Decidable (Guarded log) := by unfold Guarded; infer_instance

/-- A ride is activated before anything happens to it, and no command that only its sequence could
keep out has none that compares. -/
def Careful (run : GateRun) : GateCall → Prop
  | .activateRide rideId => ∀ entry ∈ run.log, entry.rideId ≠ rideId
  | .stop _ => True
  | .apply input nowMonotonicMs =>
    input.sequence = .nan →
      run.gate.operatorStop = true ∨ run.gate.activeRideId ≠ some input.rideId ∨
        EdgeSafetyGate.staleCommand input nowMonotonicMs = true

/-- A call that meets the condition. -/
def CarefulStep (run : GateRun) (call : GateCall) (after : GateRun) : Prop :=
  Careful run call ∧ after = run.call call

/-- What a gate has to remember of the active ride. -/
structure Armed (run : GateRun) : Prop where
  guarded : Guarded run.log
  counts : run.gate.lastSequence ≠ .nan
  counted : ∀ rideId sequence, run.gate.activeRideId = some rideId →
    .accepted rideId sequence ∈ run.log → sequence.le run.gate.lastSequence = true
  latched : ∀ rideId, run.gate.activeRideId = some rideId →
    .stopped rideId ∈ run.log → run.gate.operatorStop = true

theorem Armed.activateRide {run : GateRun} (h : Armed run) {rideId : String}
    (hnew : ∀ entry ∈ run.log, entry.rideId ≠ rideId) :
    Armed (run.call (.activateRide rideId)) where
  guarded := h.guarded
  counts := nofun
  counted := by
    rintro _ sequence ⟨⟩ hmem
    exact absurd rfl (hnew _ hmem)
  latched := by
    rintro _ ⟨⟩ hmem
    exact absurd rfl (hnew _ hmem)

theorem Armed.stop {run : GateRun} (h : Armed run) (reason : String) :
    Armed (run.call (.stop reason)) := by
  have hlog : ∀ entry ∈ (run.call (.stop reason)).log,
      entry ∈ run.log ∨ ∃ rideId, entry = .stopped rideId := by
    intro entry hentry
    rcases List.mem_append.1 hentry with hentry | hentry
    · exact .inl hentry
    · rw [Option.mem_toList, Option.map_eq_some_iff] at hentry
      obtain ⟨rideId, -, rfl⟩ := hentry
      exact .inr ⟨rideId, rfl⟩
  constructor
  case guarded =>
    refine List.pairwise_append.2 ⟨h.guarded, ?_, ?_⟩
    · cases run.gate.activeRideId <;> simp
    · intro earlier _ later hlater
      rw [Option.mem_toList, Option.map_eq_some_iff] at hlater
      obtain ⟨rideId, -, rfl⟩ := hlater
      trivial
  case counts => exact h.counts
  case counted =>
    intro rideId sequence hactive hmem
    rcases hlog _ hmem with hmem | ⟨_, ⟨⟩⟩
    exact h.counted rideId sequence hactive hmem
  case latched =>
    intro _ _ _
    rfl

/-- An accepted command is above every one of its ride, which has not been stopped. -/
theorem Armed.apply {run : GateRun} (h : Armed run) {input : ControlInput}
    {nowMonotonicMs : Number} (hcareful : Careful run (.apply input nowMonotonicMs)) :
    Armed (run.call (.apply input nowMonotonicMs)) := by
  unfold GateRun.call
  rcases run.gate.apply_cases input nowMonotonicMs with
    ⟨hrejected, hgate⟩ | ⟨hstop, hactive, hsequence, hstale, haccepted, hgate⟩
  · simp only [hrejected, hgate]
    exact h
  · simp only [haccepted, hgate, if_true]
    have hnumber : input.sequence ≠ .nan := by
      intro hnan
      rcases hcareful hnan with hstop' | hride | hstale'
      · rw [hstop] at hstop'
        cases hstop'
      · exact hride hactive
      · rw [hstale] at hstale'
        cases hstale'
    constructor
    case guarded =>
      refine List.pairwise_append.2 ⟨h.guarded, List.pairwise_singleton _ _, ?_⟩
      intro earlier hearlier later hlater
      obtain rfl := List.mem_singleton.1 hlater
      constructor
      · rintro rfl
        rw [h.counted _ _ hactive hearlier] at hsequence
        cases hsequence
      · rintro rfl
        rw [h.latched _ hactive hearlier] at hstop
        cases hstop
    case counts => exact hnumber
    case counted =>
      intro rideId sequence hride hmem
      rcases List.mem_append.1 hmem with hmem | hmem
      · have hbelow := h.counted rideId sequence hride hmem
        exact Number.le_trans hbelow (Number.le_of_not_le hnumber h.counts hsequence)
      · obtain ⟨rfl, rfl⟩ := GateEntry.accepted.inj (List.mem_singleton.1 hmem)
        exact Number.le_refl hnumber
    case latched =>
      intro rideId hride hmem
      rcases List.mem_append.1 hmem with hmem | hmem
      · exact h.latched rideId hride hmem
      · cases List.mem_singleton.1 hmem

/-- **Main result.** Where no ride is activated again after a command or a stop of it, every command
is accepted once at most, and none of a ride after its stop. -/
theorem guarded_run {calls : List GateCall} {run : GateRun}
    (h : Run CarefulStep .start calls run) : Guarded run.log := by
  have harmed : Armed run := by
    refine h.invariant ⟨.nil, nofun, nofun, nofun⟩ ?_
    rintro before _ call hbefore ⟨hcareful, rfl⟩
    cases call with
    | activateRide rideId => exact hbefore.activateRide hcareful
    | stop reason => exact hbefore.stop reason
    | apply input nowMonotonicMs => exact hbefore.apply hcareful
  exact harmed.guarded

/-- A command of the given sequence that reaches the gate in one millisecond. -/
def demoCommand (sequence : Int) : ControlInput :=
  { rideId := "ride-a", sequence := .ofInt sequence, steering := .ofInt 0,
    throttle := .ofInt 500, brake := .ofInt 0, receivedMonotonicMs := .ofInt 1000 }

/-- Two commands, a replay of the second, a stop and a command after it. -/
def demoCalls : List GateCall :=
  [.activateRide "ride-a", .apply (demoCommand 1) (.ofInt 1001),
    .apply (demoCommand 2) (.ofInt 1001), .apply (demoCommand 2) (.ofInt 1001),
    .stop "track obstruction", .apply (demoCommand 3) (.ofInt 1001)]

theorem demoCalls_guarded :
    (demoCalls.foldl GateRun.call .start).log =
        [.accepted "ride-a" (.ofInt 1), .accepted "ride-a" (.ofInt 2), .stopped "ride-a"] ∧
      Guarded (demoCalls.foldl GateRun.call .start).log :=
  ⟨by decide +kernel,
    guarded_run (show Run CarefulStep .start demoCalls _ from
      .cons ⟨nofun, rfl⟩ (.cons ⟨nofun, rfl⟩ (.cons ⟨nofun, rfl⟩ (.cons ⟨nofun, rfl⟩
        (.cons ⟨trivial, rfl⟩ (.cons ⟨nofun, rfl⟩ .nil))))))⟩

/-- Activating a ride again lets a command in twice, and one in after a stop. -/
theorem reactivated_not_guarded :
    ¬ Guarded ([.activateRide "ride-a", .apply (demoCommand 1) (.ofInt 1001),
        .activateRide "ride-a", .apply (demoCommand 1) (.ofInt 1001)].foldl
          GateRun.call .start).log ∧
      ¬ Guarded ([.activateRide "ride-a", .stop "track obstruction",
        .activateRide "ride-a", .apply (demoCommand 1) (.ofInt 1001)].foldl
          GateRun.call .start).log := by
  decide +kernel

end RcOnline.Edge
