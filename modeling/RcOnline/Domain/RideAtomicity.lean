import RcOnline.Domain.RideReplays
import RcOnline.Domain.RideSeconds

/-!
# Ride operations, all or nothing

The state machine answers a key that it knows with the event of the key, whichever operation that
was for, and the orchestrator takes it for the transition that it asked for. So a call is all or
nothing as long as its keys are its own: throughout a run the calls are all or nothing if and only
if none of them meets a key of another operation at a point where it matters
(`all_or_nothing_iff`).
-/

namespace RcOnline.Domain

open RcOnline.Lib

/-- A ride with the calls that have returned. -/
structure RideRun where
  ride : RideOrchestrator
  done : List RideCall

namespace RideRun

def perform (run : RideRun) (call : RideCall) : RideRun :=
  match run.ride.perform call with
  | (.error _, ride) => { run with ride }
  | (.ok (), ride) => { ride, done := run.done ++ [call] }

/-- The call has returned before, under the same key. -/
def Repeats (run : RideRun) (call : RideCall) : Prop :=
  ∃ earlier ∈ run.done, earlier.operation = call.operation ∧ earlier.key = call.key

/-- A call that throws changes nothing, and one that returns leaves the ride in the state that it is
for, unless it repeats an earlier one. -/
def AllOrNothing (run : RideRun) (call : RideCall) : Prop :=
  match run.ride.perform call with
  | (.error _, ride) => ride.snapshot = run.ride.snapshot
  | (.ok (), ride) => ride.machine.state = call.operation.goal ∨ run.Repeats call

/-- An end at the start or before it settles nothing. -/
def SettlesNothing (ride : RideOrchestrator) (at' : Date) : Prop :=
  ride.input.purchasedSeconds ≠ .nan ∧ ∃ startedAt, ride.startedAt = some startedAt ∧
    at'.le startedAt = true

/-- No transition that the call asks for meets the key of another one, where it matters. -/
def Apart (run : RideRun) (call : RideCall) : Prop :=
  match call.operation with
  | .offer | .accept | .connected =>
    ¬ run.ride.Knows call.key ∨ run.ride.machine.state = call.operation.goal ∨ run.Repeats call
  | .negotiationStarted =>
    run.ride.machine.state = .accepted → ¬ run.ride.Knows call.key
  | .failAllAttempts =>
    run.ride.attemptCount = 5 → run.ride.machine.state = .negotiating →
      ¬ run.ride.Knows call.key ∨ run.Repeats call
  | .endRide =>
    run.ride.machine.state = .active →
      if run.ride.Knows (call.key ++ ":ending") then
        ¬ run.ride.Knows (call.key ++ ":completed") ∧ SettlesNothing run.ride call.at'
      else run.ride.Knows (call.key ++ ":completed") → call.at' = none

end RideRun

/-! ## Phases -/

namespace RideState

/-- Before the negotiation. -/
def booking : RideState → Bool
  | .created | .offered | .accepted => true
  | _ => false

/-- From the negotiation on, before the end. -/
def running : RideState → Bool
  | .negotiating | .active | .reconnectGrace | .pausedSiteFailover => true
  | _ => false

/-- From the end on. -/
def settling : RideState → Bool
  | .ending | .completed => true
  | _ => false

end RideState

/-- A single transition enters no later phase than the state before it. -/
theorem RideOperation.goal_phases {operation : RideOperation} {state : RideState}
    (htransition : operation.isTransition = true) (h : operation.goal ∈ rideTransitions state) :
    (operation.goal.booking = true → state.booking = true) ∧
      (operation.goal.running = true → state.running = true) ∧ state.settling = false ∧
      operation.goal.settling = false := by
  revert htransition h
  cases operation <;> cases state <;> decide

namespace RideRun

open RideOrchestrator

variable {run : RideRun} {call : RideCall}

/-- What the calls keep as long as their keys are their own. -/
structure Orderly (run : RideRun) : Prop where
  recorded : run.ride.Recorded
  purchased : run.ride.input.purchasedSeconds.lt (.ofInt 300) = false
  booking : run.ride.machine.state.booking = true →
    run.ride.attemptCount = 0 ∧ run.ride.startedAt = none
  running : run.ride.machine.state.running = true →
    ∃ startedAt, run.ride.startedAt = some (some startedAt)
  unused : run.ride.machine.state.settling = false → run.ride.usedSeconds = .ofInt 0
  ended : ∀ call ∈ run.done, call.operation = .endRide → run.ride.machine.state = .completed

theorem orderly_new {input : RideOrchestratorInput} {start : RideOrchestrator}
    (h : new input = .ok start) : Orderly ⟨start, []⟩ := by
  unfold new at h
  split at h
  · cases h
  · next hpurchased =>
    obtain rfl := Except.ok.inj h
    exact ⟨VersionedStateMachine.recorded_new _ _ _ _, Bool.eq_false_iff.2 hpurchased,
      fun _ => ⟨rfl, rfl⟩, nofun, fun _ => rfl, nofun⟩

/-- No end has returned while the ride is not completed. -/
theorem Orderly.not_repeats (h : run.Orderly) (hstate : run.ride.machine.state ≠ .completed)
    (hoperation : call.operation = .endRide) : ¬ run.Repeats call := by
  rintro ⟨earlier, hmem, hsame, -⟩
  exact hstate (h.ended earlier hmem (hsame.trans hoperation))

/-- A start that is set where there was none is read. -/
theorem snapshot_start {ride : RideOrchestrator} {at' : Date} (h : ride.startedAt = none) :
    { ride with startedAt := some at' }.snapshot ≠ ride.snapshot := by
  intro hsame
  unfold snapshot at hsame
  rw [h] at hsame
  cases at' with
  | none => cases hsame
  | some at' => cases congrArg RideSnapshot.startedAt (Except.ok.inj hsame)

/-- What the constructor takes for a purchase. -/
theorem purchase_cases {purchased : Number} (h : purchased.lt (.ofInt 300) = false) :
    purchased = .nan ∨ purchased = .posInf ∨ ∃ q, purchased = .finite q ∧ 300 ≤ q := by
  cases purchased with
  | nan => exact .inl rfl
  | posInf => exact .inr (.inl rfl)
  | negInf => cases h
  | finite q =>
    refine .inr (.inr ⟨q, rfl, ?_⟩)
    simp only [Number.lt, Number.le, Number.ofInt, Bool.and_eq_false_iff, decide_eq_false_iff_not,
      Bool.not_eq_false', decide_eq_true_eq, not_le] at h
    rcases h with hlt | hle
    · exact_mod_cast hlt.le
    · exact_mod_cast hle

/-- A long enough purchase is drawn on by nothing only where nothing has elapsed. -/
theorem min_eq_zero_iff {purchased seconds : Number}
    (hpurchased : purchased.lt (.ofInt 300) = false) :
    purchased.min seconds = .ofInt 0 ↔ purchased ≠ .nan ∧ seconds = .ofInt 0 := by
  have hzero : Number.ofInt 0 = .finite 0 := by simp [Number.ofInt]
  rw [hzero]
  rcases purchase_cases hpurchased with rfl | rfl | ⟨q, rfl, hq⟩
  · exact iff_of_false (fun h => by cases h) fun h => h.1 rfl
  · cases seconds <;> simp [Number.min, Number.le]
  · have hnumber : Number.finite q ≠ .nan := fun heq => by cases heq
    refine Iff.trans ?_ (and_iff_right hnumber).symm
    have hq' : q ≠ 0 := fun heq => by norm_num [heq] at hq
    cases seconds with
    | nan | posInf | negInf => simp [Number.min, Number.le, hq']
    | finite r =>
      rw [Number.min_finite, Number.finite.injEq, Number.finite.injEq]
      constructor
      · intro heq
        rcases min_choice q r with hmin | hmin
        · exact absurd (hmin.symm.trans heq) hq'
        · exact hmin.symm.trans heq
      · rintro rfl
        exact min_eq_right (by linarith)

/-- The seconds that are settled are none if and only if the end is not after the start. -/
theorem settled_eq_zero_iff {ride : RideOrchestrator} {at' : Date} {startedAt : Int}
    (hpurchased : ride.input.purchasedSeconds.lt (.ofInt 300) = false)
    (hstarted : ride.startedAt = some (some startedAt)) :
    ride.settled at' = .ofInt 0 ↔ SettlesNothing ride at' := by
  unfold settled elapsed SettlesNothing
  rw [hstarted]
  dsimp only
  rw [min_eq_zero_iff hpurchased]
  refine and_congr_right fun _ => ?_
  cases at' with
  | none =>
    refine iff_of_false (fun hnan => by cases hnan) ?_
    rintro ⟨_, -, hle⟩
    cases hle
  | some at' =>
    rw [secondsBetween_eq_zero_iff]
    refine ⟨fun hle => ⟨_, rfl, decide_eq_true hle⟩, ?_⟩
    rintro ⟨_, hsame, hle⟩
    obtain rfl := Option.some.inj hsame
    exact of_decide_eq_true hle

/-- Other seconds are read. -/
theorem snapshot_used {ride : RideOrchestrator} {used : Number} {startedAt : Int}
    (hstarted : ride.startedAt = some (some startedAt)) :
    { ride with usedSeconds := used }.snapshot = ride.snapshot ↔ used = ride.usedSeconds := by
  constructor
  · intro hsame
    unfold snapshot at hsame
    rw [hstarted] at hsame
    exact congrArg RideSnapshot.usedSeconds (Except.ok.inj hsame)
  · rintro rfl
    rfl

/-! ## One call -/

theorem Orderly.allOrNothing_iff (h : run.Orderly) (call : RideCall) :
    run.AllOrNothing call ↔ run.Apart call := by
  have hperforms := perform_performs h.recorded call
  unfold AllOrNothing
  generalize run.ride.perform call = outcome at hperforms
  cases hperforms with
  | refused _ htransition hfresh =>
    next operation _ _ _ =>
    refine iff_of_true rfl ?_
    cases operation with
    | offer | accept | connected => exact .inl hfresh
    | negotiationStarted | failAllAttempts | endRide => cases htransition
  | known htransition hknown =>
    next operation _ _ =>
    have hapart : ∀ p : Prop, p ↔ ¬ run.ride.Knows _ ∨ p := fun p =>
      (or_iff_right (not_not.2 hknown)).symm
    cases operation with
    | offer | accept | connected => exact hapart _
    | negotiationStarted | failAllAttempts | endRide => cases htransition
  | moved htransition hmoved =>
    next operation _ _ _ =>
    refine iff_of_true (.inl hmoved.state) ?_
    cases operation with
    | offer | accept | connected => exact .inl hmoved.fresh
    | negotiationStarted | failAllAttempts | endRide => cases htransition
  | attemptRefused _ hfresh => exact iff_of_true rfl hfresh
  | attemptKnown hstate hknown =>
    have hnone := (h.booking (by rw [hstate]; rfl)).2
    exact iff_of_false (snapshot_start hnone) fun hapart => hapart hstate hknown
  | attemptLate hstate hcount =>
    rw [(h.booking (by rw [hstate]; rfl)).1] at hcount
    exact absurd hcount (by decide)
  | started _ _ hmoved => exact iff_of_true (.inl hmoved.state) fun _ => hmoved.fresh
  | attempted hstate =>
    refine iff_of_true (.inl hstate) fun hstate' => ?_
    cases hstate.symm.trans hstate'
  | failureRefused _ hfresh =>
    exact iff_of_true rfl fun hcount hstate => .inl (hfresh hcount hstate)
  | failureKnown hcount hstate hknown =>
    have hgoal : run.ride.machine.state ≠ .fullyCompensated := by
      rw [hstate]
      decide
    refine (or_iff_right hgoal).trans ⟨fun hrepeats _ _ => .inr hrepeats, fun hapart => ?_⟩
    exact (hapart hcount hstate).resolve_left (not_not.2 hknown)
  | failed _ _ hmoved => exact iff_of_true (.inl hmoved.state) fun _ _ => .inl hmoved.fresh
  | endRefused _ hfresh =>
    refine iff_of_true rfl fun hstate => ?_
    obtain ⟨hending, hinvalid⟩ := hfresh hstate
    rw [if_neg hending]
    exact fun _ => hinvalid
  | endKnown hstate hending hcompleted =>
    have hgoal : run.ride.machine.state ≠ .completed := by
      rw [hstate]
      decide
    refine iff_of_false (fun hreturns => ?_) fun hapart => ?_
    · exact h.not_repeats hgoal rfl (hreturns.resolve_left hgoal)
    · have hboth := hapart hstate
      rw [if_pos hending] at hboth
      exact hboth.1 hcompleted
  | endHalfKnown _ hstate hending hcompleted =>
    obtain ⟨startedAt, hstarted⟩ := h.running (by rw [hstate]; rfl)
    have hused := h.unused (by rw [hstate]; rfl)
    dsimp only
    rw [snapshot_used hstarted, hused, settled_eq_zero_iff h.purchased hstarted]
    refine ⟨fun hnothing _ => ?_, fun hapart => ?_⟩
    · rw [if_pos hending]
      exact ⟨hcompleted, hnothing⟩
    · have hboth := hapart hstate
      rw [if_pos hending] at hboth
      exact hboth.2
  | halfEnded hstate hvalid hending hcompleted hmoved =>
    next machine =>
    have hgoal : run.ride.machine.state ≠ .completed := by
      rw [hstate]
      decide
    have hgoal' : machine.state ≠ .completed := by
      rw [hmoved.state]
      decide
    refine iff_of_false (fun hreturns => ?_) fun hapart => ?_
    · exact h.not_repeats hgoal rfl (hreturns.resolve_left hgoal')
    · have hboth := hapart hstate
      rw [if_neg hending] at hboth
      exact hvalid (hboth hcompleted)
  | ended hstate hending hcompleted _ hmoved =>
    refine iff_of_true (.inl hmoved.state) fun _ => ?_
    rw [if_neg hending]
    exact fun hknown => absurd hknown hcompleted

/-- A ride that is not completed has not ended. -/
theorem Orderly.not_ended (h : run.Orderly) (hstate : run.ride.machine.state ≠ .completed)
    (hoperation : call.operation ≠ .endRide) (state : RideState) :
    ∀ other ∈ run.done ++ [call], other.operation = .endRide → state = .completed := by
  intro other hmem hend
  rcases List.mem_append.1 hmem with hmem | hmem
  · exact absurd (h.ended other hmem hend) hstate
  · obtain rfl := List.mem_singleton.1 hmem
    exact absurd hend hoperation

/-- A call that keeps its keys apart leaves an orderly run. -/
theorem Orderly.perform (h : run.Orderly) (hapart : run.Apart call) :
    (run.perform call).Orderly := by
  have hperforms := perform_performs h.recorded call
  unfold RideRun.perform
  generalize run.ride.perform call = outcome at hperforms
  cases hperforms with
  | refused | attemptRefused | failureRefused | endRefused => exact h
  | known htransition =>
    refine ⟨h.recorded, h.purchased, h.booking, h.running, h.unused, fun other hmem hend => ?_⟩
    rcases List.mem_append.1 hmem with hmem | hmem
    · exact h.ended other hmem hend
    · obtain rfl := List.mem_singleton.1 hmem
      dsimp only at hend
      rw [hend] at htransition
      cases htransition
  | moved htransition hmoved =>
    next operation _ _ machine =>
    obtain ⟨hbooking, hrunning, hsettling, -⟩ := operation.goal_phases htransition hmoved.allowed
    rw [← hmoved.state] at hbooking hrunning
    refine ⟨hmoved.recorded, h.purchased, fun hphase => h.booking (hbooking hphase),
      fun hphase => h.running (hrunning hphase), fun _ => h.unused hsettling,
      h.not_ended (fun hstate => ?_) (fun hend => ?_) _⟩
    · rw [hstate] at hsettling
      cases hsettling
    · dsimp only at hend
      rw [hend] at htransition
      cases htransition
  | attemptKnown hstate hknown => exact absurd hknown (hapart hstate)
  | attemptLate hstate hcount =>
    rw [(h.booking (by rw [hstate]; rfl)).1] at hcount
    exact absurd hcount (by decide)
  | started hstate _ hmoved =>
    have hopen : run.ride.machine.state ≠ .completed := by
      rw [hstate]
      decide
    refine ⟨hmoved.recorded, h.purchased, fun hphase => ?_, fun _ => ⟨_, rfl⟩,
      fun _ => h.unused (by rw [hstate]; rfl), h.not_ended hopen ?_ _⟩
    · rw [hmoved.state] at hphase
      cases hphase
    · nofun
  | attempted hstate =>
    have hopen : run.ride.machine.state ≠ .completed := by
      rw [hstate]
      decide
    refine ⟨h.recorded, h.purchased, fun hphase => ?_, h.running, h.unused,
      h.not_ended hopen ?_ _⟩
    · dsimp only at hphase
      rw [hstate] at hphase
      cases hphase
    · nofun
  | failureKnown _ hstate =>
    have hopen : run.ride.machine.state ≠ .completed := by
      rw [hstate]
      decide
    refine ⟨h.recorded, h.purchased, h.booking, h.running, fun _ => rfl, h.not_ended hopen ?_ _⟩
    nofun
  | failed _ hstate hmoved =>
    have hopen : run.ride.machine.state ≠ .completed := by
      rw [hstate]
      decide
    refine ⟨hmoved.recorded, h.purchased, fun hphase => ?_, fun hphase => ?_, fun _ => rfl,
      h.not_ended hopen ?_ _⟩
    · rw [hmoved.state] at hphase
      cases hphase
    · rw [hmoved.state] at hphase
      cases hphase
    · nofun
  | endKnown hstate hending hcompleted =>
    have hboth := hapart hstate
    rw [if_pos hending] at hboth
    exact absurd hcompleted hboth.1
  | endHalfKnown _ hstate hending =>
    have hboth := hapart hstate
    rw [if_pos hending] at hboth
    obtain ⟨startedAt, hstarted⟩ := h.running (by rw [hstate]; rfl)
    have hnothing := (settled_eq_zero_iff h.purchased hstarted).2 hboth.2
    exact ⟨h.recorded, h.purchased, h.booking, h.running, fun _ => hnothing, h.ended⟩
  | halfEnded hstate hvalid hending hcompleted =>
    have hboth := hapart hstate
    rw [if_neg hending] at hboth
    exact absurd (hboth hcompleted) hvalid
  | ended _ _ _ _ hmoved =>
    refine ⟨hmoved.recorded, h.purchased, fun hphase => ?_, fun hphase => ?_, fun hphase => ?_,
      fun _ _ _ => hmoved.state⟩
    · rw [hmoved.state] at hphase
      cases hphase
    · rw [hmoved.state] at hphase
      cases hphase
    · rw [hmoved.state] at hphase
      cases hphase

/-- **Main result.** Whatever is asked of a ride, its calls are all or nothing throughout the run if
and only if they keep their keys apart throughout it. -/
theorem all_or_nothing_iff {input : RideOrchestratorInput} {start : RideOrchestrator}
    (hnew : new input = .ok start) (calls : List RideCall) :
    Throughout RideRun.perform AllOrNothing ⟨start, []⟩ calls ↔
      Throughout RideRun.perform Apart ⟨start, []⟩ calls :=
  throughout_congr (fun _ call h => h.allOrNothing_iff call) (fun _ _ h hapart => h.perform hapart)
    (orderly_new hnew) calls

theorem acceptedCalls_all_or_nothing :
    Throughout RideRun.perform AllOrNothing ⟨demoRide, []⟩ (acceptedCalls ++ [firstAttempt]) :=
  (all_or_nothing_iff new_demoInput _).2
    ⟨.inl (by decide), .inl (by decide), fun _ => by decide, trivial⟩

def misnamedAttempt : RideCall := ⟨.negotiationStarted, "offer-ride", some 1000⟩

/-- A negotiation under the key of the offer throws, and the ride has a start. -/
theorem misnamedAttempt_not_atomic :
    ((demoRide.after acceptedCalls).perform misnamedAttempt).1 = .error .notReady ∧
      ¬ Throughout RideRun.perform AllOrNothing ⟨demoRide, []⟩
        (acceptedCalls ++ [misnamedAttempt]) := by
  refine ⟨rfl, ?_⟩
  rintro ⟨-, -, hatomic, -⟩
  have hsame : (Except.ok _ : Except RideError RideSnapshot) = .ok _ := hatomic
  cases congrArg RideSnapshot.startedAt (Except.ok.inj hsame)

end RideRun

end RcOnline.Domain
