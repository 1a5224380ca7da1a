import RcOnline.Domain.RideSettlement

/-!
# The accounts of a ride

The seconds used and the seconds left are those purchased, the attempts are five at most, and a ride
that is over does not change. The orchestrator takes a purchase of `nan` seconds, and an end settles
whatever the difference of two dates rounds to: throughout a run the accounts are right if and only
if the purchase is not `nan` and every end that settles has a date and an exact rest
(`accounted_throughout_iff`).
-/

namespace RcOnline.Domain

open RcOnline.Lib

/-- A part and the rest make up the whole, exactly. -/
def Splits : Number → Number → Number → Prop
  | .finite whole, .finite part, .finite rest => part + rest = whole
  | .posInf, .finite _, .posInf => True
  | _, _, _ => False

/-- What the accounts of a ride promise. -/
structure RideSnapshot.Accounted (snapshot : RideSnapshot) : Prop where
  nonneg : (Number.ofInt 0).le snapshot.usedSeconds = true
  within : snapshot.usedSeconds.le snapshot.purchasedSeconds = true
  splits : Splits snapshot.purchasedSeconds snapshot.usedSeconds snapshot.remainingSeconds
  attempts : snapshot.attemptCount ≤ 5
  compensated : snapshot.state = .fullyCompensated →
    snapshot.usedSeconds = .ofInt 0 ∧ snapshot.attemptCount = 5

namespace RideOrchestrator

variable {ride start : RideOrchestrator} {call : RideCall}

/-- Whatever is read of a ride is accounted. -/
def Accounted (ride : RideOrchestrator) : Prop :=
  ∀ snapshot, ride.snapshot = .ok snapshot → snapshot.Accounted

/-- A ride that is completed or fully compensated. -/
def Over (ride : RideOrchestrator) : Prop :=
  ride.machine.state = .completed ∨ ride.machine.state = .fullyCompensated

/-- A call leaves the accounts right, and a ride that is over as it is. -/
def KeepsAccounts (ride : RideOrchestrator) (call : RideCall) : Prop :=
  (ride.perform call).2.Accounted ∧ (ride.Over → (ride.perform call).2.snapshot = ride.snapshot)

/-- The rest of a purchase is a number, or none. -/
def LeavesRest : Number → Number → Prop
  | .finite purchased, .finite seconds =>
    purchased ≤ seconds ∨ Number.Exact (purchased - seconds)
  | .posInf, .posInf => False
  | _, _ => True

/-- An end that settles has a date, and a rest that is a number. -/
def SettlesExactly (ride : RideOrchestrator) (call : RideCall) : Prop :=
  call.operation = .endRide → ride.machine.state = .active →
    match call.at' with
    | none => ¬ ride.Knows (call.key ++ ":ending")
    | some endedAt => ∀ startedAt, ride.startedAt = some (some startedAt) →
      LeavesRest ride.input.purchasedSeconds (secondsBetween (some startedAt) (some endedAt))

/-! ## Purchases -/

/-- The seconds that are used and left of a purchase. -/
structure Balanced (purchased used : Number) : Prop where
  nonneg : (Number.ofInt 0).le used = true
  within : used.le purchased = true
  splits : Splits purchased used ((Number.ofInt 0).max (purchased.sub used))

theorem not_balanced_nan (purchased : Number) : ¬ Balanced purchased .nan := fun h => by
  cases h.nonneg

theorem balanced_finite_iff {purchased used : ℚ} (hused : 0 ≤ used) (hle : used ≤ purchased) :
    Balanced (.finite purchased) (.finite used) ↔ Number.Exact (purchased - used) := by
  have hrest := Number.max_round_iff (sub_nonneg.2 hle)
  rw [← hrest]
  constructor
  · intro h
    have hsplits := h.splits
    rw [Number.sub] at hsplits
    generalize (Number.ofInt 0).max (Number.round (purchased - used)) = rest at hsplits
    cases rest with
    | finite rest => exact congrArg Number.finite (eq_sub_of_add_eq' hsplits)
    | nan | posInf | negInf => cases hsplits
  · intro h
    refine ⟨?_, decide_eq_true hle, ?_⟩
    · exact decide_eq_true (by simpa [Number.ofInt] using hused)
    · rw [Number.sub, h]
      exact add_sub_cancel used purchased

theorem balanced_posInf {used : ℚ} (hused : 0 ≤ used) : Balanced .posInf (.finite used) := by
  refine ⟨?_, rfl, ?_⟩
  · exact decide_eq_true (by simpa [Number.ofInt] using hused)
  · rw [Number.sub, Number.max, if_neg (by simp [Number.ofInt])]
    trivial

/-- Whole seconds of a purchase balance if and only if they are all of it or leave a number. -/
theorem balanced_min_iff {purchased seconds : Number} (hnan : purchased ≠ .nan)
    (hlong : purchased.lt (.ofInt 300) = false)
    (hseconds : seconds = .posInf ∨ ∃ n : Int, 0 ≤ n ∧ seconds = .ofInt n) :
    Balanced purchased (purchased.min seconds) ↔ LeavesRest purchased seconds := by
  rcases RideRun.purchase_cases hlong with rfl | rfl | ⟨q, rfl, hq⟩
  · exact absurd rfl hnan
  · rcases hseconds with rfl | ⟨n, hn, rfl⟩
    · exact iff_of_false (fun h => h.splits) id
    · have hmin : Number.posInf.min (.ofInt n) = .finite n := by
        simp [Number.min, Number.ofInt, Number.le]
      rw [hmin]
      exact iff_of_true (balanced_posInf (Int.cast_nonneg hn)) trivial
  · have hall : Balanced (.finite q) (.finite q) := by
      rw [balanced_finite_iff (by linarith) le_rfl, sub_self]
      exact Number.exact_zero
    rcases hseconds with rfl | ⟨n, hn, rfl⟩
    · have hmin : (Number.finite q).min .posInf = .finite q := by simp [Number.min, Number.le]
      rw [hmin]
      exact iff_of_true hall trivial
    · have hnonneg : (0 : ℚ) ≤ n := Int.cast_nonneg hn
      rw [Number.ofInt, Number.min_finite, LeavesRest]
      by_cases hle : q ≤ n
      · rw [min_eq_left hle]
        exact iff_of_true hall (.inl hle)
      · rw [min_eq_right (not_le.1 hle).le, balanced_finite_iff hnonneg (not_le.1 hle).le,
          or_iff_right hle]

/-- Nothing is used of a new ride. -/
theorem balanced_zero {purchased : Number} (hnan : purchased ≠ .nan)
    (hlong : purchased.lt (.ofInt 300) = false)
    (hnumber : ∀ q, purchased = .finite q → Number.Exact q) : Balanced purchased (.ofInt 0) := by
  have hzero : Number.ofInt 0 = .finite 0 := by simp [Number.ofInt]
  rw [hzero]
  rcases RideRun.purchase_cases hlong with rfl | rfl | ⟨q, rfl, hq⟩
  · exact absurd rfl hnan
  · exact balanced_posInf le_rfl
  · rw [balanced_finite_iff le_rfl (by linarith), sub_zero]
    exact hnumber q rfl

/-! ## What a call keeps -/

/-- What holds of a ride whose ends settle exactly. -/
structure Sound (ride : RideOrchestrator) : Prop where
  recorded : ride.Recorded
  purchase : ride.input.purchasedSeconds ≠ .nan
  long : ride.input.purchasedSeconds.lt (.ofInt 300) = false
  number : ∀ q, ride.input.purchasedSeconds = .finite q → Number.Exact q
  booking : ride.machine.state.booking = true → ride.attemptCount = 0
  started : ride.machine.state.booking = false →
    ∃ startedAt, ride.startedAt = some (some startedAt)
  balanced : Balanced ride.input.purchasedSeconds ride.usedSeconds
  attempts : ride.attemptCount ≤ 5
  compensated : ride.machine.state = .fullyCompensated →
    ride.usedSeconds = .ofInt 0 ∧ ride.attemptCount = 5

theorem Sound.accounted (h : ride.Sound) : ride.Accounted := by
  intro snapshot hread
  unfold RideOrchestrator.snapshot at hread
  split at hread
  · obtain rfl := Except.ok.inj hread
    exact ⟨h.balanced.nonneg, h.balanced.within, h.balanced.splits, h.attempts, h.compensated⟩
  · obtain rfl := Except.ok.inj hread
    exact ⟨h.balanced.nonneg, h.balanced.within, h.balanced.splits, h.attempts, h.compensated⟩
  · cases hread

/-- What is read of a ride with a start balances. -/
theorem Accounted.balanced (h : ride.Accounted) {startedAt : Int}
    (hstarted : ride.startedAt = some (some startedAt)) :
    Balanced ride.input.purchasedSeconds ride.usedSeconds := by
  unfold Accounted snapshot at h
  rw [hstarted] at h
  obtain ⟨hnonneg, hwithin, hsplits, -, -⟩ := h _ rfl
  exact ⟨hnonneg, hwithin, hsplits⟩

/-- A ride that is over is left alone. -/
theorem Over.perform (hover : ride.Over) (h : ride.Recorded) (call : RideCall) :
    (ride.perform call).2 = ride := by
  have hstate : ∀ state, ride.machine.state = state →
      state ≠ .accepted ∧ state ≠ .negotiating ∧ state ≠ .active ∧ rideTransitions state = [] := by
    rintro _ rfl
    rcases hover with heq | heq <;> rw [heq] <;> decide
  obtain ⟨haccepted, hnegotiating, hactive, hnone⟩ := hstate _ rfl
  have hperforms := perform_performs h call
  generalize ride.perform call = outcome at hperforms
  cases hperforms with
  | refused | known | attemptRefused | failureRefused | endRefused => rfl
  | moved _ hmoved =>
    have hallowed := hmoved.allowed
    rw [hnone] at hallowed
    cases hallowed
  | attemptKnown hstate | attemptLate hstate | started hstate => exact absurd hstate haccepted
  | attempted hstate | failureKnown _ hstate | failed _ hstate => exact absurd hstate hnegotiating
  | endKnown hstate | endHalfKnown _ hstate | halfEnded hstate | ended hstate =>
    exact absurd hstate hactive

/-- Without a date an end under a new key throws, and nothing is settled. -/
theorem end_undated {key : String} (h : ride.Recorded) (hactive : ride.machine.state = .active)
    (hfresh : ¬ ride.Knows (key ++ ":ending")) :
    (ride.perform ⟨.endRide, key, none⟩).2 = ride := by
  change (ride.endRide key none).2 = ride
  rw [endRide, if_neg (not_not.2 hactive)]
  rcases transition_fresh h hfresh with ⟨error, heq, -⟩ | ⟨_, -, -, hvalid⟩
  · rw [heq]
  · exact absurd rfl hvalid

/-- Any other end of an active ride settles. -/
theorem end_active {key : String} {at' : Date} (h : ride.Recorded)
    (hactive : ride.machine.state = .active) (hknown : at' = none → ride.Knows (key ++ ":ending")) :
    let after := (ride.perform ⟨.endRide, key, at'⟩).2
    after.input = ride.input ∧ after.startedAt = ride.startedAt ∧
      after.usedSeconds = ride.settled at' := by
  have hperforms := perform_performs h ⟨.endRide, key, at'⟩
  generalize ride.perform ⟨.endRide, key, at'⟩ = outcome at hperforms
  cases hperforms with
  | refused _ htransition | known htransition | moved htransition => cases htransition
  | endRefused _ hfresh =>
    obtain ⟨hending, hnone⟩ := hfresh hactive
    exact absurd (hknown hnone) hending
  | endKnown | endHalfKnown | halfEnded | ended => exact ⟨rfl, rfl, rfl⟩

theorem settled_started {startedAt : Int} (hstarted : ride.startedAt = some (some startedAt))
    (at' : Date) : ride.settled at' =
      ride.input.purchasedSeconds.min (secondsBetween (some startedAt) at') := by
  unfold settled elapsed
  rw [hstarted]

theorem settled_none {startedAt : Int} (hstarted : ride.startedAt = some (some startedAt)) :
    ride.settled none = .nan := by
  rw [settled_started hstarted]
  exact if_pos (.inr rfl)

/-- Only a failure compensates fully. -/
theorem goal_ne_fullyCompensated {operation : RideOperation}
    (htransition : operation.isTransition = true) : operation.goal ≠ .fullyCompensated := by
  revert htransition
  cases operation <;> decide

/-- What an end settles balances if and only if its rest is a number. -/
theorem Sound.balanced_settled_iff (h : ride.Sound) (hactive : ride.machine.state = .active)
    (endedAt : Int) :
    Balanced ride.input.purchasedSeconds (ride.settled (some endedAt)) ↔
      ∀ startedAt, ride.startedAt = some (some startedAt) →
        LeavesRest ride.input.purchasedSeconds
          (secondsBetween (some startedAt) (some endedAt)) := by
  obtain ⟨startedAt, hstarted⟩ := h.started (by rw [hactive]; rfl)
  have hseconds := (secondsBetween_cases (some startedAt) (some endedAt)).resolve_left
    fun hnan => hnan.2.elim nofun nofun
  rw [settled_started hstarted, balanced_min_iff h.purchase h.long hseconds]
  refine ⟨fun hrest startedAt' hstarted' => ?_, fun hrest => hrest startedAt hstarted⟩
  rw [hstarted] at hstarted'
  obtain rfl := Option.some.inj (Option.some.inj hstarted')
  exact hrest

/-- An end that settles exactly leaves a balance. -/
theorem Sound.balanced_settled {key : String} {at' : Date} (h : ride.Sound)
    (hactive : ride.machine.state = .active)
    (hexact : ride.SettlesExactly ⟨.endRide, key, at'⟩)
    (hknown : at' = none → ride.Knows (key ++ ":ending")) :
    Balanced ride.input.purchasedSeconds (ride.settled at') := by
  have hexact := hexact rfl hactive
  cases at' with
  | none => exact absurd (hknown rfl) hexact
  | some endedAt => exact (h.balanced_settled_iff hactive endedAt).2 hexact

theorem Sound.settle {machine : VersionedStateMachine RideState} {at' : Date} (h : ride.Sound)
    (hactive : ride.machine.state = .active)
    (hrecorded : VersionedStateMachine.Recorded rideTransitions .created machine)
    (hbooking : machine.state.booking = false) (hstate : machine.state ≠ .fullyCompensated)
    (hbalanced : Balanced ride.input.purchasedSeconds (ride.settled at')) :
    Sound { ride with machine, usedSeconds := ride.settled at' } where
  recorded := hrecorded
  purchase := h.purchase
  long := h.long
  number := h.number
  booking hphase := by
    rw [hbooking] at hphase
    cases hphase
  started _ := h.started (by rw [hactive]; rfl)
  balanced := hbalanced
  attempts := h.attempts
  compensated hcompensated := absurd hcompensated hstate

theorem Sound.perform (h : ride.Sound) (hexact : ride.SettlesExactly call) :
    (ride.perform call).2.Sound := by
  have hperforms := perform_performs h.recorded call
  have hundated : call.operation = .endRide → ride.machine.state = .active → call.at' = none →
      ¬ ride.Knows (call.key ++ ":ending") → (ride.perform call).2 = ride := by
    obtain ⟨operation, key, at'⟩ := call
    rintro rfl hactive rfl
    exact end_undated h.recorded hactive
  generalize ride.perform call = outcome at hperforms hundated
  cases hperforms with
  | refused | known | attemptRefused | failureRefused | endRefused => exact h
  | moved htransition hmoved =>
    have hsame := booking_goal_iff htransition hmoved.allowed
    rw [← hmoved.state] at hsame
    exact { h with
      recorded := hmoved.recorded
      booking := fun hphase => h.booking (hsame.symm.trans hphase)
      started := fun hphase => h.started (hsame.symm.trans hphase)
      compensated := fun hstate =>
        absurd (hmoved.state.symm.trans hstate) (goal_ne_fullyCompensated htransition) }
  | attemptKnown hstate =>
    refine { h with started := fun hphase => ?_ }
    dsimp only at hphase
    rw [hstate] at hphase
    cases hphase
  | attemptLate hstate hcount =>
    rw [h.booking (by rw [hstate]; rfl)] at hcount
    exact absurd hcount (by decide)
  | started hstate hcount hmoved =>
    refine { h with
      recorded := hmoved.recorded
      booking := fun hphase => ?_
      started := fun _ => ⟨_, rfl⟩
      attempts := hcount
      compensated := fun hstate' => ?_ }
    · dsimp only at hphase
      rw [hmoved.state] at hphase
      cases hphase
    · dsimp only at hstate'
      rw [hmoved.state] at hstate'
      cases hstate'
  | attempted hstate hcount =>
    refine { h with
      booking := fun hphase => ?_
      attempts := hcount
      compensated := fun hstate' => ?_ }
    · dsimp only at hphase
      rw [hstate] at hphase
      cases hphase
    · dsimp only at hstate'
      rw [hstate] at hstate'
      cases hstate'
  | failureKnown hcount =>
    exact { h with
      balanced := balanced_zero h.purchase h.long h.number
      compensated := fun _ => ⟨rfl, hcount⟩ }
  | failed hcount hstate hmoved =>
    refine { h with
      recorded := hmoved.recorded
      booking := fun hphase => ?_
      started := fun _ => h.started (by rw [hstate]; rfl)
      balanced := balanced_zero h.purchase h.long h.number
      compensated := fun _ => ⟨rfl, hcount⟩ }
    dsimp only at hphase
    rw [hmoved.state] at hphase
    cases hphase
  | endKnown hstate hending | endHalfKnown _ hstate hending =>
    refine h.settle hstate h.recorded (by rw [hstate]; rfl) (by rw [hstate]; decide) ?_
    exact h.balanced_settled hstate hexact fun _ => hending
  | halfEnded hstate hvalid _ _ hmoved =>
    refine h.settle hstate hmoved.recorded (by rw [hmoved.state]; rfl)
      (by rw [hmoved.state]; decide) ?_
    exact h.balanced_settled hstate hexact fun hnone => absurd hnone hvalid
  | ended hstate hending _ _ hmoved =>
    refine h.settle hstate hmoved.recorded (by rw [hmoved.state]; rfl)
      (by rw [hmoved.state]; decide) (h.balanced_settled hstate hexact fun hnone => ?_)
    -- without a date the ride would still be active
    have hsame := congrArg (·.machine.state) (hundated rfl hstate hnone hending)
    dsimp only at hsame
    rw [hmoved.state, hstate] at hsame
    cases hsame

/-- A call of a sound ride keeps the accounts if and only if it settles exactly. -/
theorem Sound.keepsAccounts_iff (h : ride.Sound) (call : RideCall) :
    ride.KeepsAccounts call ↔ ride.SettlesExactly call := by
  constructor
  · rintro ⟨haccounted, -⟩ hoperation hactive
    obtain ⟨operation, key, at'⟩ := call
    dsimp only at hoperation
    subst hoperation
    obtain ⟨startedAt, hstarted⟩ := h.started (by rw [hactive]; rfl)
    have hbalanced : (at' = none → ride.Knows (key ++ ":ending")) →
        Balanced ride.input.purchasedSeconds (ride.settled at') := by
      intro hknown
      obtain ⟨hinput, hsame, hused⟩ := end_active h.recorded hactive hknown
      have hbalanced := haccounted.balanced (hsame.trans hstarted)
      rwa [hinput, hused] at hbalanced
    cases at' with
    | none =>
      intro hending
      have hnan := hbalanced fun _ => hending
      rw [settled_none hstarted] at hnan
      exact not_balanced_nan _ hnan
    | some endedAt =>
      exact (h.balanced_settled_iff hactive endedAt).1 (hbalanced nofun)
  · intro hexact
    refine ⟨(h.perform hexact).accounted, fun hover => ?_⟩
    rw [hover.perform h.recorded]

/-- A new ride is sound if and only if its accounts are right, which is if and only if its purchase
is not `nan`. -/
theorem sound_new_iff {input : RideOrchestratorInput} (hnew : new input = .ok start)
    (hnumber : ∀ q, input.purchasedSeconds = .finite q → Number.Exact q) :
    (start.Accounted ↔ input.purchasedSeconds ≠ .nan) ∧
      (input.purchasedSeconds ≠ .nan → start.Sound) := by
  unfold new at hnew
  split at hnew
  · cases hnew
  · next hlong =>
    obtain rfl := Except.ok.inj hnew
    have hlong := Bool.eq_false_iff.2 hlong
    have hsound : input.purchasedSeconds ≠ .nan → Sound
        { input, machine := createRideStateMachine input.id, attemptCount := 0,
          usedSeconds := .ofInt 0, startedAt := none } := fun hnan =>
      { recorded := VersionedStateMachine.recorded_new _ _ _ _
        purchase := hnan
        long := hlong
        number := hnumber
        booking := fun _ => rfl
        started := nofun
        balanced := balanced_zero hnan hlong hnumber
        attempts := Nat.zero_le _
        compensated := nofun }
    refine ⟨⟨fun haccounted hnan => ?_, fun hnan => (hsound hnan).accounted⟩, hsound⟩
    have hwithin := (haccounted _ rfl).within
    dsimp only at hwithin
    rw [hnan] at hwithin
    cases hwithin

/-- **Main result.** The accounts of a ride are right throughout a run if and only if its purchase
is not `nan` and every end that settles has a date and a rest that is a number. -/
theorem accounted_throughout_iff {input : RideOrchestratorInput} (hnew : new input = .ok start)
    (hnumber : ∀ q, input.purchasedSeconds = .finite q → Number.Exact q) (calls : List RideCall) :
    (start.Accounted ∧
        Throughout (fun ride call => (ride.perform call).2) KeepsAccounts start calls) ↔
      input.purchasedSeconds ≠ .nan ∧
        Throughout (fun ride call => (ride.perform call).2) SettlesExactly start calls := by
  obtain ⟨hstart, hsound⟩ := sound_new_iff hnew hnumber
  rw [hstart]
  refine and_congr_right fun hnan => ?_
  exact throughout_congr (fun _ call h => h.keepsAccounts_iff call)
    (fun _ _ h hexact => h.perform hexact) (hsound hnan) calls

/-- Purchases of safe integers have exact rests. -/
theorem settlesExactly_of_safe {purchased : Int}
    (hpurchased : ride.input.purchasedSeconds = .ofInt purchased) (hsafe : |purchased| ≤ 2 ^ 53)
    (hdated : call.at' ≠ none) : ride.SettlesExactly call := by
  intro _ _
  split
  · next hnone => exact absurd hnone hdated
  · next endedAt _ =>
    intro startedAt _
    rw [hpurchased]
    rcases secondsBetween_cases (some startedAt) (some endedAt) with
      ⟨-, hnone | hnone⟩ | hinfinite | ⟨n, hn, hseconds⟩
    · cases hnone
    · cases hnone
    · rw [hinfinite]
      trivial
    · rw [hseconds, Number.ofInt, Number.ofInt, LeavesRest]
      by_cases hall : purchased ≤ n
      · exact .inl (Int.cast_le.2 hall)
      · right
        rw [← Int.cast_sub]
        refine Number.exact_intCast ?_
        rw [abs_le] at hsafe ⊢
        omega

theorem demoRide_accounted :
    demoRide.Accounted ∧ Throughout (fun ride call => (ride.perform call).2) KeepsAccounts demoRide
      (drivenCalls ++ [⟨.endRide, "end", some 61000⟩]) := by
  have hexact : ∀ ride : RideOrchestrator, ∀ call : RideCall,
      ride.input.purchasedSeconds = .ofInt 300 → call.at' ≠ none → ride.SettlesExactly call :=
    fun _ _ hpurchased => settlesExactly_of_safe hpurchased (by decide)
  have hnumber : ∀ q, demoInput.purchasedSeconds = .finite q → Number.Exact q := by
    intro q hq
    obtain rfl := Number.finite.inj hq
    exact Number.exact_intCast (by decide)
  refine (accounted_throughout_iff new_demoInput hnumber _).2 ⟨nofun, ?_⟩
  exact ⟨hexact _ _ rfl nofun, hexact _ _ rfl nofun, hexact _ _ rfl nofun, hexact _ _ rfl nofun,
    hexact _ _ rfl nofun, trivial⟩

/-- A purchase of `nan` seconds is taken, and none of it is accounted for. -/
theorem nan_not_accounted :
    ∃ ride, new { demoInput with purchasedSeconds := .nan } = .ok ride ∧ ¬ ride.Accounted := by
  refine ⟨_, rfl, fun haccounted => ?_⟩
  cases (haccounted _ rfl).within

end RideOrchestrator

end RcOnline.Domain
