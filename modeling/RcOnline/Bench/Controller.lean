import RcOnline.Lib.Number

/-!
# The bench controller

`SafetyLimits` and `BenchController` of `tests/hardware/pi-direct-pwm/rc_bench/controller.py`, on an
output that does not fail. An operation that asks the clock gets a reading, or nothing when the
clock raises. Whatever is called, the output holds the pulses that are reported, and they are
neutral while the controller is disarmed (`kept_run`).
-/

namespace RcOnline.Bench

open RcOnline.Lib

/-- The limits of a bench, with what `__post_init__` checks. -/
structure SafetyLimits where
  steeringNeutralUs : Int
  throttleNeutralUs : Int
  steeringMinUs : Int
  steeringMaxUs : Int
  throttleMinUs : Int
  throttleMaxUs : Int
  watchdogMs : Int
  steering_range : steeringMinUs ≤ steeringNeutralUs ∧ steeringNeutralUs ≤ steeringMaxUs
  throttle_range : throttleMinUs ≤ throttleNeutralUs ∧ throttleNeutralUs ≤ throttleMaxUs
  watchdog_range : 50 ≤ watchdogMs ∧ watchdogMs ≤ 1000

/-- What an operation raises. -/
inductive BenchError where
  | permission
  | outsideLimits
  | clock
  | sleeper
  deriving DecidableEq

/-- The texts of the errors that the controller itself raises. -/
def BenchError.message? : BenchError → Option String
  | .permission => some "controller must be armed before a non-neutral command"
  | .outsideLimits => some "command is outside configured bench limits"
  | .clock => none
  | .sleeper => none

/-- The fields of a controller, and the pulses that the output was given, the latest first. -/
structure BenchController where
  armed : Bool
  steeringUs : Int
  throttleUs : Int
  deadline : Option Number
  sent : List (Int × Int)
  deriving DecidableEq

namespace SafetyLimits

variable (limits : SafetyLimits)

/-- Steering and throttle pulses that are allowed. -/
def allows (steeringUs throttleUs : Int) : Bool :=
  limits.steeringMinUs ≤ steeringUs && steeringUs ≤ limits.steeringMaxUs &&
    limits.throttleMinUs ≤ throttleUs && throttleUs ≤ limits.throttleMaxUs

theorem allows_neutral :
    limits.allows limits.steeringNeutralUs limits.throttleNeutralUs = true := by
  simp [allows, limits.steering_range, limits.throttle_range]

/-- `watchdog_ms / 1_000`. -/
def watchdogS : Number := .round (limits.watchdogMs / 1000)

end SafetyLimits

namespace BenchController

variable (limits : SafetyLimits) (controller : BenchController)

/-- `_apply_neutral`. -/
def applyNeutral : BenchController :=
  { controller with
    steeringUs := limits.steeringNeutralUs
    throttleUs := limits.throttleNeutralUs
    deadline := none
    sent := (limits.steeringNeutralUs, limits.throttleNeutralUs) :: controller.sent }

/-- A controller as it is constructed. -/
def new : BenchController :=
  applyNeutral limits
    { armed := false
      steeringUs := limits.steeringNeutralUs
      throttleUs := limits.throttleNeutralUs
      deadline := none
      sent := [] }

def arm : BenchController := { controller.applyNeutral limits with armed := true }

def neutral : BenchController := { controller.applyNeutral limits with armed := false }

def setPulses (steeringUs throttleUs : Int) (clock : Option Number) :
    Except BenchError Unit × BenchController :=
  if !controller.armed then (.error .permission, controller.applyNeutral limits)
  else if !limits.allows steeringUs throttleUs then
    (.error .outsideLimits, controller.neutral limits)
  else
    let controller :=
      { controller with
        steeringUs
        throttleUs
        sent := (steeringUs, throttleUs) :: controller.sent }
    match clock with
    | none => (.error .clock, controller)
    | some now => (.ok (), { controller with deadline := some (now.add limits.watchdogS) })

/-- The clock is asked only where there is a deadline. -/
def expireIfNeeded (clock : Option Number) : Except BenchError Bool × BenchController :=
  match controller.deadline with
  | none => (.ok false, controller)
  | some deadline =>
    match clock with
    | none => (.error .clock, controller)
    | some now =>
      if now.lt deadline then (.ok false, controller) else (.ok true, controller.neutral limits)

end BenchController

/-- A call, with the reading of a clock that does not raise. -/
inductive BenchCall where
  | arm
  | neutral
  | setPulses (steeringUs throttleUs : Int) (now : Number)
  | expireIfNeeded (now : Number)

namespace BenchController

variable {limits : SafetyLimits} {controller : BenchController}

def perform (limits : SafetyLimits) (controller : BenchController) : BenchCall → BenchController
  | .arm => controller.arm limits
  | .neutral => controller.neutral limits
  | .setPulses steeringUs throttleUs now =>
    (controller.setPulses limits steeringUs throttleUs (some now)).2
  | .expireIfNeeded now => (controller.expireIfNeeded limits (some now)).2

/-- A controller after some calls. -/
def after (limits : SafetyLimits) (calls : List BenchCall) : BenchController :=
  calls.foldl (perform limits) (new limits)

/-! ## What every operation keeps -/

/-- Neutral pulses were sent last, and are reported. -/
structure Neutral (limits : SafetyLimits) (controller : BenchController) : Prop where
  sent : controller.sent.head? = some (limits.steeringNeutralUs, limits.throttleNeutralUs)
  steering : controller.steeringUs = limits.steeringNeutralUs
  throttle : controller.throttleUs = limits.throttleNeutralUs

/-- The output holds what is reported, within the limits, and neutral while disarmed. -/
structure Kept (limits : SafetyLimits) (controller : BenchController) : Prop where
  sent : controller.sent.head? = some (controller.steeringUs, controller.throttleUs)
  within : limits.allows controller.steeringUs controller.throttleUs = true
  disarmed : controller.armed = false → Neutral limits controller

theorem neutral_applyNeutral (limits : SafetyLimits) (controller : BenchController) :
    Neutral limits (controller.applyNeutral limits) := ⟨rfl, rfl, rfl⟩

theorem neutral_neutral (limits : SafetyLimits) (controller : BenchController) :
    Neutral limits (controller.neutral limits) := ⟨rfl, rfl, rfl⟩

theorem Neutral.kept (h : Neutral limits controller) : Kept limits controller where
  sent := by rw [h.sent, h.steering, h.throttle]
  within := by
    rw [h.steering, h.throttle]
    exact limits.allows_neutral
  disarmed := fun _ => h

theorem kept_new (limits : SafetyLimits) : Kept limits (new limits) :=
  (neutral_applyNeutral limits _).kept

theorem kept_setPulses (steeringUs throttleUs : Int) (clock : Option Number) :
    Kept limits (controller.setPulses limits steeringUs throttleUs clock).2 := by
  unfold setPulses
  split
  · exact (neutral_applyNeutral limits controller).kept
  · next harmed =>
    split
    · exact (neutral_neutral limits controller).kept
    · next hallowed =>
      have hallows : limits.allows steeringUs throttleUs = true := by simpa using hallowed
      have hdisarmed : controller.armed ≠ false := by simpa using harmed
      cases clock with
      | none => exact ⟨rfl, hallows, fun hoff => absurd hoff hdisarmed⟩
      | some now => exact ⟨rfl, hallows, fun hoff => absurd hoff hdisarmed⟩

theorem Kept.expireIfNeeded (h : Kept limits controller) (clock : Option Number) :
    Kept limits (controller.expireIfNeeded limits clock).2 := by
  unfold BenchController.expireIfNeeded
  split
  · exact h
  · cases clock with
    | none => exact h
    | some now =>
      dsimp only
      split
      · exact h
      · exact (neutral_neutral limits controller).kept

theorem Kept.perform (h : Kept limits controller) (call : BenchCall) :
    Kept limits (controller.perform limits call) := by
  cases call with
  | arm =>
    have harmed := (neutral_applyNeutral limits controller).kept
    exact ⟨harmed.sent, harmed.within, fun hoff => by cases hoff⟩
  | neutral => exact (neutral_neutral limits controller).kept
  | setPulses steeringUs throttleUs now => exact kept_setPulses steeringUs throttleUs (some now)
  | expireIfNeeded now => exact h.expireIfNeeded (some now)

theorem kept_run (limits : SafetyLimits) (calls : List BenchCall) :
    Kept limits (after limits calls) := by
  induction calls using List.reverseRecOn with
  | nil => exact kept_new limits
  | append_singleton calls call ih =>
    rw [after, List.foldl_append]
    exact ih.perform call

/-- Pulses that are refused, and not because the clock raises, leave the controller disarmed. -/
theorem setPulses_refused {steeringUs throttleUs : Int} {now : Number} {error : BenchError}
    (h : (controller.setPulses limits steeringUs throttleUs (some now)).1 = .error error) :
    Neutral limits (controller.setPulses limits steeringUs throttleUs (some now)).2 ∧
      (controller.setPulses limits steeringUs throttleUs (some now)).2.armed = false := by
  unfold setPulses at h ⊢
  split
  · next hoff =>
    have hdisarmed : controller.armed = false := by simpa using hoff
    exact ⟨neutral_applyNeutral limits controller, hdisarmed⟩
  · next harmed =>
    rw [if_neg harmed] at h
    split
    · exact ⟨neutral_neutral limits controller, rfl⟩
    · next hallowed =>
      rw [if_neg hallowed] at h
      cases h

end BenchController

end RcOnline.Bench
