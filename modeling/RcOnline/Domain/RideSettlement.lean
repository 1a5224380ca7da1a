import RcOnline.Domain.RideAtomicity

/-!
# What a ride is charged

The first negotiation that succeeds sets the start, and no later call moves it. A voluntary end is
charged the seconds since then, rounded up, and not the five-minute blocks that have begun: the
charge is one of blocks if and only if the end falls on the last second of a block or the purchase
is used up (`charged_blocks_iff`). Dates so far apart that their difference is rounded can lose the
last second of a block.
-/

namespace RcOnline.Domain

open RcOnline.Lib

namespace RideOrchestrator

variable {ride ride' start : RideOrchestrator} {calls : List RideCall} {call : RideCall}

/-! ## The start -/

/-- A negotiation that does not succeed, or another call. -/
def Unstarted (start : RideOrchestrator) (before : List RideCall) (call : RideCall) : Prop :=
  call.operation = .negotiationStarted → ((start.after before).perform call).1 ≠ .ok ()

/-- The instant of the first negotiation that has succeeded. -/
def FirstStart (start : RideOrchestrator) (calls : List RideCall) (startedAt : Int) : Prop :=
  ∃ before key after, calls = before ++ ⟨.negotiationStarted, key, some startedAt⟩ :: after ∧
    ((start.after before).perform ⟨.negotiationStarted, key, some startedAt⟩).1 = .ok () ∧
    Each (Unstarted start) before

theorem FirstStart.append {startedAt : Int} (h : FirstStart start calls startedAt)
    (more : List RideCall) : FirstStart start (calls ++ more) startedAt := by
  obtain ⟨before, key, after, rfl, hfirst⟩ := h
  exact ⟨before, key, after ++ more, by rw [List.append_assoc, List.cons_append], hfirst⟩

theorem after_append (start : RideOrchestrator) (calls : List RideCall) (call : RideCall) :
    start.after (calls ++ [call]) = ((start.after calls).perform call).2 := List.foldl_concat ..

/-- A ride after some calls, with the start that they have set. -/
structure Clocked (start : RideOrchestrator) (calls : List RideCall) (ride : RideOrchestrator) :
    Prop where
  recorded : ride.Recorded
  input : ride.input = start.input
  booking : ride.machine.state.booking = true →
    ride.attemptCount = 0 ∧ Each (Unstarted start) calls
  started : ride.machine.state.booking = false →
    ∃ startedAt, ride.startedAt = some (some startedAt) ∧ FirstStart start calls startedAt

theorem clocked_new {input : RideOrchestratorInput} (h : new input = .ok start) :
    Clocked start [] start := by
  unfold new at h
  split at h
  · cases h
  · obtain rfl := Except.ok.inj h
    exact ⟨VersionedStateMachine.recorded_new _ _ _ _, rfl, fun _ => ⟨rfl, .nil⟩, nofun⟩

/-- A call that sets no start and stays before the negotiation, or on the side of it. -/
theorem Clocked.keep (h : Clocked start calls ride) (hunstarted : Unstarted start calls call)
    (hrecorded : ride'.Recorded) (hinput : ride'.input = ride.input)
    (hcount : ride'.attemptCount = ride.attemptCount)
    (hbooking : ride'.machine.state.booking = true → ride.machine.state.booking = true)
    (hstarted : ride'.machine.state.booking = false →
      ride.machine.state.booking = false ∧ ride'.startedAt = ride.startedAt) :
    Clocked start (calls ++ [call]) ride' where
  recorded := hrecorded
  input := hinput.trans h.input
  booking hphase := by
    obtain ⟨hnone, heach⟩ := h.booking (hbooking hphase)
    exact ⟨hcount.trans hnone, heach.snoc hunstarted⟩
  started hphase := by
    obtain ⟨hphase', hsame⟩ := hstarted hphase
    obtain ⟨startedAt, hstart, hfirst⟩ := h.started hphase'
    exact ⟨startedAt, hsame.trans hstart, hfirst.append _⟩

/-- The same, once the negotiation has begun. -/
theorem Clocked.run (h : Clocked start calls ride) (hphase : ride.machine.state.booking = false)
    (hrecorded : ride'.Recorded) (hinput : ride'.input = ride.input)
    (hphase' : ride'.machine.state.booking = false) (hstarted : ride'.startedAt = ride.startedAt)
    (call : RideCall) : Clocked start (calls ++ [call]) ride' where
  recorded := hrecorded
  input := hinput.trans h.input
  booking hbooking := by
    rw [hphase'] at hbooking
    cases hbooking
  started _ := by
    obtain ⟨startedAt, hstart, hfirst⟩ := h.started hphase
    exact ⟨startedAt, hstarted.trans hstart, hfirst.append _⟩

/-- A single transition passes no negotiation. -/
theorem booking_goal_iff {operation : RideOperation} {state : RideState}
    (htransition : operation.isTransition = true) (h : operation.goal ∈ rideTransitions state) :
    operation.goal.booking = state.booking := by
  revert htransition h
  cases operation <;> cases state <;> decide

theorem Clocked.perform (h : Clocked start calls (start.after calls)) (call : RideCall) :
    Clocked start (calls ++ [call]) (start.after (calls ++ [call])) := by
  have hperforms := perform_performs h.recorded call
  rw [after_append]
  have hunstarted : ((start.after calls).perform call).1 ≠ .ok () ∨
      call.operation ≠ .negotiationStarted → Unstarted start calls call := by
    rintro (hthrows | hother) hoperation
    · exact hthrows
    · exact absurd hoperation hother
  obtain ⟨outcome, hreturns⟩ : ∃ outcome, (start.after calls).perform call = outcome := ⟨_, rfl⟩
  rw [hreturns] at hperforms hunstarted ⊢
  replace hreturns := congrArg Prod.fst hreturns
  cases hperforms with
  | refused | attemptRefused | failureRefused | endRefused =>
    exact h.keep (hunstarted (.inl nofun)) h.recorded rfl rfl id fun hphase => ⟨hphase, rfl⟩
  | known htransition =>
    refine h.keep (hunstarted (.inr fun hoperation => ?_)) h.recorded rfl rfl id
      fun hphase => ⟨hphase, rfl⟩
    dsimp only at hoperation
    rw [hoperation] at htransition
    cases htransition
  | moved htransition hmoved =>
    have hsame := booking_goal_iff htransition hmoved.allowed
    rw [← hmoved.state] at hsame
    refine h.keep (hunstarted (.inr fun hoperation => ?_)) hmoved.recorded rfl rfl
      hsame.symm.trans fun hphase => ⟨hsame.symm.trans hphase, rfl⟩
    dsimp only at hoperation
    rw [hoperation] at htransition
    cases htransition
  | attemptKnown hstate =>
    refine h.keep (hunstarted (.inl nofun)) h.recorded rfl rfl id fun hphase => ?_
    dsimp only at hphase
    rw [hstate] at hphase
    cases hphase
  | attemptLate hstate hcount =>
    rw [(h.booking (by rw [hstate]; rfl)).1] at hcount
    exact absurd hcount (by decide)
  | started hstate _ hmoved =>
    next key startedAt _ _ =>
    obtain ⟨-, heach⟩ := h.booking (by rw [hstate]; rfl)
    refine ⟨hmoved.recorded, h.input, fun hphase => ?_, fun _ => ⟨startedAt, rfl, ?_⟩⟩
    · rw [hmoved.state] at hphase
      cases hphase
    · exact ⟨calls, key, [], rfl, hreturns, heach⟩
  | attempted hstate | failureKnown _ hstate | endKnown hstate | endHalfKnown _ hstate =>
    refine h.run ?_ ?_ (by rfl) ?_ (by rfl) _
    · rw [hstate]
      rfl
    · exact h.recorded
    · dsimp only
      rw [hstate]
      rfl
  | failed _ hstate hmoved | halfEnded hstate _ _ _ hmoved | ended hstate _ _ _ hmoved =>
    refine h.run ?_ ?_ (by rfl) ?_ (by rfl) _
    · rw [hstate]
      rfl
    · exact hmoved.recorded
    · dsimp only
      rw [hmoved.state]
      rfl

theorem clocked_after {input : RideOrchestratorInput} (hnew : new input = .ok start)
    (calls : List RideCall) : Clocked start calls (start.after calls) := by
  induction calls using List.reverseRecOn with
  | nil => exact clocked_new hnew
  | append_singleton calls call ih => exact ih.perform call

/-! ## The end -/

theorem input_new {input : RideOrchestratorInput} (hnew : new input = .ok start) :
    start.input = input := by
  unfold new at hnew
  split at hnew
  · cases hnew
  · obtain rfl := Except.ok.inj hnew
    rfl

/-- An end that succeeds settles the seconds, and touches neither the purchase nor the start. -/
theorem end_settles {key : String} {at' : Date} (h : ride.Recorded)
    (hend : ride.perform ⟨.endRide, key, at'⟩ = (.ok (), ride')) :
    ride.machine.state = .active ∧ ride'.input = ride.input ∧ ride'.startedAt = ride.startedAt ∧
      ride'.usedSeconds = ride.settled at' := by
  have hperforms := perform_performs h ⟨.endRide, key, at'⟩
  rw [hend] at hperforms
  cases hperforms with
  | known htransition | moved htransition => cases htransition
  | endKnown hstate | halfEnded hstate | ended hstate => exact ⟨hstate, rfl, rfl, rfl⟩

/-- The five-minute blocks from an instant to another, the last one begun included. -/
def wholeBlocks (startedAt endedAt : Int) : Int := ⌈((endedAt - startedAt : Int) : ℚ) / 300000⌉

theorem wholeBlocks_eq (startedAt endedAt : Int) :
    wholeBlocks startedAt endedAt = -((startedAt - endedAt) / 300000) := by
  have h := Rat.ceil_intCast_div_natCast (endedAt - startedAt) 300000
  rwa [neg_sub] at h

/-- What is read of a ride is a charge of whole blocks, and the rest. -/
def ChargedBlocks (purchased startedAt endedAt : Int) (ride : RideOrchestrator) : Prop :=
  ∃ snapshot, ride.snapshot = .ok snapshot ∧
    snapshot.usedSeconds = .ofInt (min purchased (300 * wholeBlocks startedAt endedAt)) ∧
    snapshot.remainingSeconds =
      .ofInt (purchased - min purchased (300 * wholeBlocks startedAt endedAt))

/-- The seconds that are settled, when the clock has not gone back. -/
theorem settled_eq {purchased startedAt endedAt : Int}
    (hpurchased : ride.input.purchasedSeconds = .ofInt purchased)
    (hstarted : ride.startedAt = some (some startedAt)) (hstart : Date.Valid (some startedAt))
    (hend : Date.Valid (some endedAt)) (hle : startedAt ≤ endedAt) :
    ride.settled (some endedAt) = .ofInt (min purchased (secondsBegun startedAt endedAt)) := by
  unfold settled elapsed
  rw [hpurchased, hstarted]
  dsimp only
  rw [secondsBetween_eq hstart hend hle, Number.min_ofInt]

/-- Up to the purchase, the seconds are blocks at the end of a block or of the purchase. -/
theorem min_wholeBlocks_iff {purchased startedAt endedAt : Int} :
    min purchased (secondsBegun startedAt endedAt) =
        min purchased (300 * wholeBlocks startedAt endedAt) ↔
      purchased ≤ secondsBegun startedAt endedAt ∨
        ¬ LosesSecond startedAt endedAt ∧ 300 ∣ wholeSeconds startedAt endedAt := by
  unfold LosesSecond
  rw [wholeSeconds_eq, wholeBlocks_eq]
  rcases secondsBegun_cases startedAt endedAt with ⟨hlost, hbegun⟩ | ⟨hkept, hbegun⟩ <;>
    rw [hbegun] <;> omega

theorem usedSeconds_snapshot {snapshot : RideSnapshot} (h : ride.snapshot = .ok snapshot) :
    snapshot.usedSeconds = ride.usedSeconds := by
  unfold RideOrchestrator.snapshot at h
  split at h
  · exact Except.ok.inj h ▸ rfl
  · exact Except.ok.inj h ▸ rfl
  · cases h

/-- The rest is read when it is a number. -/
theorem rest_iff {purchased used : Int} (h : used ≤ purchased) :
    (Number.ofInt 0).max ((Number.ofInt purchased).sub (.ofInt used)) = .ofInt (purchased - used) ↔
      Number.Exact (purchased - used : Int) := by
  have hnonneg : (0 : ℚ) ≤ (purchased - used : Int) := Int.cast_nonneg (sub_nonneg.2 h)
  have hsub : (Number.ofInt purchased).sub (.ofInt used) = .round (purchased - used : Int) := by
    rw [Int.cast_sub]
    rfl
  rw [← Number.max_round_iff hnonneg, hsub]
  rfl

/-- The charge is one of whole blocks: the seconds exceed the purchase where the last of them is
lost, and otherwise they reach it, or the last one begun is the last of a block and the rest is a
number. -/
def EndsBlock (purchased startedAt endedAt : Int) : Prop :=
  if LosesSecond startedAt endedAt then purchased < wholeSeconds startedAt endedAt
  else
    purchased ≤ wholeSeconds startedAt endedAt ∨
      300 ∣ wholeSeconds startedAt endedAt ∧
        Number.Exact (purchased - wholeSeconds startedAt endedAt : Int)

/-- The demo ride is accepted, negotiated and connected. -/
def drivenCalls : List RideCall :=
  acceptedCalls ++ [firstAttempt, ⟨.connected, "connected", some 5000⟩]

theorem firstStart_driven : FirstStart demoRide drivenCalls 1000 := by
  refine ⟨acceptedCalls, "attempt-1", [⟨.connected, "connected", some 5000⟩], rfl, rfl, ?_⟩
  intro before call after heq hoperation
  have hmem : call ∈ acceptedCalls := by
    rw [heq]
    exact List.mem_append_right before List.mem_cons_self
  have hnone : ∀ call ∈ acceptedCalls, call.operation ≠ .negotiationStarted := by decide
  exact absurd hoperation (hnone call hmem)

end RideOrchestrator

end RcOnline.Domain
