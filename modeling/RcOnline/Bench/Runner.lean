import RcOnline.Bench.Controller
import RcOnline.Lib.Rounding

/-!
# The one-shot test of the bench

`execute_test` of `tests/hardware/pi-direct-pwm/rc_bench/runner.py`. The clock and the sleeper may
do anything: the readings need not go forward, and either may raise. However the test is left it
leaves neutral pulses behind (`benchTest_neutral`); only a clock that stays before the end at every
check keeps it going for ever (`stoppedClock_endless`).
-/

namespace RcOnline.Bench

open RcOnline.Lib

/-- A test, with what `__post_init__` checks. -/
structure TestCommand where
  steeringUs : Int
  throttleUs : Int
  durationS : Number
  settleS : Number
  duration_range : (Number.ofInt 0).lt durationS = true ∧ durationS.le (.ofInt 2) = true
  settle_range : (Number.ofInt 0).le settleS = true ∧ settleS.le (.ofInt 5) = true

/-- The readings of the clock, none where it raises, and whether a sleep of some seconds returns. -/
structure BenchHost where
  clock : Nat → Option Number
  sleeper : Nat → Number → Bool

/-- `min(x, y)`. -/
def pyMin (x y : Number) : Number := if y.lt x then y else x

/-- `min(limits.watchdog_ms / 2_000, 0.1)`. -/
def SafetyLimits.refreshS (limits : SafetyLimits) : Number :=
  pyMin (.round (limits.watchdogMs / 2000)) (.round (1 / 10))

/-- The controller, and how often the clock was read and the sleeper called. -/
structure BenchLoop where
  controller : BenchController
  readings : Nat
  sleeps : Nat

/-- How the body of the test is left: normally or with an error. -/
abbrev BenchExit := Except BenchError Unit × BenchController

/-- A round of the loop, which leaves it or goes on to the next. -/
def testRound (limits : SafetyLimits) (host : BenchHost) (command : TestCommand) (endS : Number)
    (state : BenchLoop) : BenchExit ⊕ BenchLoop :=
  match host.clock state.readings with
  | none => .inl (.error .clock, state.controller)
  | some now =>
    if !now.lt endS then .inl (.ok (), state.controller)
    else
      match state.controller.setPulses limits command.steeringUs command.throttleUs
          (host.clock (state.readings + 1)) with
      | (.error error, controller) => .inl (.error error, controller)
      | (.ok (), controller) =>
        match host.clock (state.readings + 2) with
        | none => .inl (.error .clock, controller)
        | some now =>
          let remaining := endS.sub now
          if remaining.le (.ofInt 0) then .inl (.ok (), controller)
          else if !host.sleeper state.sleeps (pyMin limits.refreshS remaining) then
            .inl (.error .sleeper, controller)
          else
            -- the pulses have set a deadline, so that the clock is read once more
            match controller.expireIfNeeded limits (host.clock (state.readings + 3)) with
            | (.error error, controller) => .inl (.error error, controller)
            | (.ok _, controller) => .inr ⟨controller, state.readings + 4, state.sleeps + 1⟩

/-- The loop, for some rounds at most. -/
def loop (limits : SafetyLimits) (host : BenchHost) (command : TestCommand) (endS : Number) :
    Nat → BenchLoop → Option BenchExit
  | 0, _ => none
  | rounds + 1, state =>
    match testRound limits host command endS state with
    | .inl exit => some exit
    | .inr state => loop limits host command endS rounds state

/-- The body of the `try`. -/
def testBody (limits : SafetyLimits) (host : BenchHost) (command : TestCommand) (rounds : Nat) :
    Option BenchExit :=
  let controller := BenchController.new limits
  let settles := command.settleS ≠ .ofInt 0
  if settles ∧ host.sleeper 0 command.settleS = false then some (.error .sleeper, controller)
  else
    let controller := controller.arm limits
    match host.clock 0 with
    | none => some (.error .clock, controller)
    | some now =>
      loop limits host command (now.add command.durationS) rounds
        ⟨controller, 1, if settles then 1 else 0⟩

/-- `execute_test`, if it is left within some rounds of its loop; its `finally` is the last line. -/
def executeTest (limits : SafetyLimits) (host : BenchHost) (command : TestCommand) (rounds : Nat) :
    Option BenchExit :=
  (testBody limits host command rounds).map fun (result, controller) =>
    (result, controller.neutral limits)

variable {limits : SafetyLimits} {host : BenchHost} {command : TestCommand} {endS : Number}

/-! ## How long it goes on -/

/-- A round that goes on has read a time before the end. -/
theorem testRound_continues {state next : BenchLoop}
    (h : testRound limits host command endS state = .inr next) :
    (∃ now, host.clock state.readings = some now ∧ now.lt endS = true) ∧
      next.readings = state.readings + 4 := by
  unfold testRound at h
  cases hclock : host.clock state.readings with
  | none =>
    rw [hclock] at h
    cases h
  | some now =>
    simp only [hclock] at h
    split at h
    · cases h
    · next hbefore =>
      refine ⟨⟨now, rfl, by simpa using hbefore⟩, ?_⟩
      split at h
      · cases h
      · split at h
        · cases h
        · split at h
          · cases h
          · split at h
            · cases h
            · split at h
              · cases h
              · cases h
                rfl

/-- A loop that is never left reads times before the end for ever. -/
theorem loop_endless {state : BenchLoop}
    (h : ∀ rounds, loop limits host command endS rounds state = none) (n : Nat) :
    ∃ now, host.clock (state.readings + 4 * n) = some now ∧ now.lt endS = true := by
  induction n generalizing state with
  | zero =>
    have hfirst := h 1
    unfold loop at hfirst
    split at hfirst
    · cases hfirst
    · next next hround => exact (testRound_continues hround).1
  | succ n ih =>
    have hfirst := h 1
    unfold loop at hfirst
    split at hfirst
    · cases hfirst
    · next next hround =>
      have hnext : ∀ rounds, loop limits host command endS rounds next = none := by
        intro rounds
        have hmore := h (rounds + 1)
        unfold loop at hmore
        rwa [hround] at hmore
      obtain ⟨now, hclock, hbefore⟩ := ih hnext
      rw [(testRound_continues hround).2] at hclock
      exact ⟨now, by rwa [Nat.mul_succ, Nat.add_comm _ 4, ← Nat.add_assoc], hbefore⟩

theorem executeTest_endless (h : ∀ rounds, executeTest limits host command rounds = none) :
    ∃ start, host.clock 0 = some start ∧ ∀ n, ∃ now, host.clock (4 * n + 1) = some now ∧
      now.lt (start.add command.durationS) = true := by
  have hbody : ∀ rounds, testBody limits host command rounds = none :=
    fun rounds => Option.map_eq_none_iff.1 (h rounds)
  unfold testBody at hbody
  dsimp only at hbody
  split at hbody
  · exact absurd (hbody 0) (by simp)
  · cases hstart : host.clock 0 with
    | none =>
      simp only [hstart] at hbody
      exact absurd (hbody 0) (by simp)
    | some start =>
      simp only [hstart] at hbody
      refine ⟨start, rfl, fun n => ?_⟩
      have hloop := loop_endless hbody n
      rwa [Nat.add_comm] at hloop

/-- The readings are binary64 values, and after every sleep it is later than at the check before. -/
structure Advances (clock : Nat → Option Number) : Prop where
  binary64 : ∀ n (q : ℚ), clock n = some (.finite q) → ∃ p : ℚ, Number.round p = .finite q
  later : ∀ n before after, clock (4 * n + 1) = some before → clock (4 * (n + 1) + 1) = some after →
    before.lt after = true

/-- A number above one and below another is finite. -/
theorem finite_of_lt {x y z : Number} (hxy : x.lt y = true) (hyz : y.lt z = true) :
    ∃ q : ℚ, y = .finite q := by
  cases y with
  | finite q => exact ⟨q, rfl⟩
  | nan => cases z <;> cases hyz
  | posInf => cases z <;> cases hyz
  | negInf => cases x <;> cases hxy

/-- A clock that advances reaches the end. -/
theorem executeTest_ends (h : Advances host.clock) :
    ∃ rounds exit, executeTest limits host command rounds = some exit := by
  by_contra hnever
  have hnone : ∀ rounds, executeTest limits host command rounds = none := by
    intro rounds
    by_contra hsome
    obtain ⟨exit, hexit⟩ := Option.ne_none_iff_exists'.1 hsome
    exact hnever ⟨rounds, exit, hexit⟩
  obtain ⟨start, -, hbefore⟩ := executeTest_endless hnone
  choose now hclock hend using hbefore
  have hlater : ∀ n, (now n).lt (now (n + 1)) = true :=
    fun n => h.later n _ _ (hclock n) (hclock (n + 1))
  have hfinite : ∀ n, ∃ q : ℚ, now (n + 1) = .finite q :=
    fun n => finite_of_lt (hlater n) (hend (n + 1))
  choose f hf using hfinite
  refine Number.not_increasing (f := f) (fun n => h.binary64 (4 * (n + 1) + 1) _ ?_) fun n => ?_
  · rw [← hf]
    exact hclock (n + 1)
  · have hlt := hlater (n + 1)
    rw [hf, hf, Number.lt, Bool.and_eq_true] at hlt
    simpa [Number.le] using hlt.2

/-! ## How it ends -/

/-- **Main result.** However the test is left, neutral pulses were sent last and the controller is
disarmed; and it is left, unless the clock reads a time before the end at every check for ever. The
controller's own invariants hold after every run of calls. -/
theorem benchTest_neutral (limits : SafetyLimits) :
    (∀ (command : TestCommand) (host : BenchHost),
      (∀ rounds result controller,
        executeTest limits host command rounds = some (result, controller) →
          controller.Neutral limits ∧ controller.armed = false) ∧
      ((∀ rounds, executeTest limits host command rounds = none) →
        ∃ start, host.clock 0 = some start ∧ ∀ n, ∃ now, host.clock (4 * n + 1) = some now ∧
          now.lt (start.add command.durationS) = true) ∧
      (Advances host.clock →
        ∃ rounds exit, executeTest limits host command rounds = some exit)) ∧
    ∀ calls, (BenchController.after limits calls).Kept limits ∧
      ∀ steeringUs throttleUs now error,
        ((BenchController.after limits calls).setPulses limits steeringUs throttleUs
          (some now)).1 = .error error →
        ((BenchController.after limits calls).setPulses limits steeringUs throttleUs
          (some now)).2.Neutral limits ∧
        ((BenchController.after limits calls).setPulses limits steeringUs throttleUs
          (some now)).2.armed = false := by
  refine ⟨fun command host => ⟨fun rounds result controller hexit => ?_, executeTest_endless,
    executeTest_ends⟩, fun calls => ⟨BenchController.kept_run limits calls, ?_⟩⟩
  · obtain ⟨⟨_, body⟩, -, heq⟩ := Option.map_eq_some_iff.1 hexit
    obtain ⟨-, rfl⟩ := Prod.mk.inj heq
    exact ⟨BenchController.neutral_neutral limits body, rfl⟩
  · exact fun _ _ _ _ hrefused => BenchController.setPulses_refused hrefused

/-! ## A clock that stands still -/

/-- A bench with pulses from 1400 to 1600 around 1500, and a watchdog of 200 ms. -/
def narrowLimits : SafetyLimits where
  steeringNeutralUs := 1500
  throttleNeutralUs := 1500
  steeringMinUs := 1400
  steeringMaxUs := 1600
  throttleMinUs := 1400
  throttleMaxUs := 1600
  watchdogMs := 200
  steering_range := by decide
  throttle_range := by decide
  watchdog_range := by decide

/-- A second of steering to the right. -/
def steerRight : TestCommand where
  steeringUs := 1550
  throttleUs := 1500
  durationS := .ofInt 1
  settleS := .ofInt 0
  duration_range := by decide +kernel
  settle_range := by decide +kernel

def stoppedClock : BenchHost where
  clock := fun _ => some (.ofInt 0)
  sleeper := fun _ _ => true

theorem stoppedClock_round {state : BenchLoop} (h : state.controller.armed = true) :
    ∃ next, testRound narrowLimits stoppedClock steerRight (.ofInt 1) state = .inr next ∧
      next.controller.armed = true := by
  have hbefore : (Number.ofInt 0).lt (.ofInt 1) = true := by decide +kernel
  have hallows : narrowLimits.allows 1550 1500 = true := by decide +kernel
  have hremaining : ((Number.ofInt 1).sub (.ofInt 0)).le (.ofInt 0) = false := by decide +kernel
  have hdeadline : (Number.ofInt 0).lt ((Number.ofInt 0).add narrowLimits.watchdogS) = true := by
    decide +kernel
  have hpulses : state.controller.setPulses narrowLimits 1550 1500 (some (.ofInt 0)) =
      (.ok (),
        { state.controller with
          steeringUs := 1550
          throttleUs := 1500
          sent := (1550, 1500) :: state.controller.sent
          deadline := some ((Number.ofInt 0).add narrowLimits.watchdogS) }) := by
    simp [BenchController.setPulses, h, hallows]
  unfold testRound
  simp only [stoppedClock, steerRight, hbefore, hpulses, hremaining, BenchController.expireIfNeeded,
    hdeadline, Bool.not_true, Bool.false_eq_true, if_false, if_true]
  exact ⟨_, rfl, h⟩

theorem stoppedClock_loop {state : BenchLoop} (h : state.controller.armed = true) (rounds : Nat) :
    loop narrowLimits stoppedClock steerRight (.ofInt 1) rounds state = none := by
  induction rounds generalizing state with
  | zero => rfl
  | succ rounds ih =>
    obtain ⟨next, hround, harmed⟩ := stoppedClock_round h
    rw [loop, hround]
    exact ih harmed

/-- Where the clock stands still the test neither finishes nor raises. -/
theorem stoppedClock_endless :
    ¬∃ rounds exit, executeTest narrowLimits stoppedClock steerRight rounds = some exit := by
  rintro ⟨rounds, exit, hexit⟩
  have hend : (Number.ofInt 0).add steerRight.durationS = .ofInt 1 := by decide +kernel
  have hbody : testBody narrowLimits stoppedClock steerRight rounds =
      loop narrowLimits stoppedClock steerRight ((Number.ofInt 0).add steerRight.durationS) rounds
        ⟨(BenchController.new narrowLimits).arm narrowLimits, 1, 0⟩ := by
    simp [testBody, stoppedClock, steerRight]
  rw [executeTest, hbody, hend, stoppedClock_loop rfl] at hexit
  cases hexit

end RcOnline.Bench
