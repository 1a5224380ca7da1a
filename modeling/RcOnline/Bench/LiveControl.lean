import RcOnline.Lib.Number

/-!
# Live control of the bench car

`InputFrame`, `LiveConfig` and `LiveControl` of
`tests/hardware/pi-direct-pwm/rc_bench/live_control.py`: what a browser asks for, the pulses that a
bench car may get, and the pulses that a frame stands for at an instant. A frame and a configuration
carry what their `__post_init__` checks. Shares of a span are rounded, and stay on their side of
neutral for every span (`pulses_mapped`).
-/

namespace RcOnline.Bench

open RcOnline.Lib

/-- `NORMAL_DRIVE_PERCENT`. -/
def normalDrivePercent : Int := 63

/-- A value of a request's body. -/
inductive PyValue where
  | none
  | bool (b : Bool)
  | int (n : Int)
  | float (x : Number)
  | str (s : String)
  | list
  | dict
  deriving DecidableEq

/-- `math.isfinite(x)`. -/
def isFinite : Number → Bool
  | .finite _ => true
  | _ => false

structure InputFrame where
  armed : Bool
  steering : Int
  throttle : Int
  receivedAt : Number
  nitro : Bool
  steeringTrimPercent : Int
  steering_mem : steering ∈ ([-1, 0, 1] : List Int)
  throttle_mem : throttle ∈ ([-1, 0, 1] : List Int)
  received_finite : isFinite receivedAt = true
  trim_range : -20 ≤ steeringTrimPercent ∧ steeringTrimPercent ≤ 20
  deriving DecidableEq

inductive FrameError where
  | steering
  | throttle
  | receivedAt
  | nitro
  | steeringTrimPercent
  deriving DecidableEq

def FrameError.message : FrameError → String
  | .steering => "steering must be -1, 0, or 1"
  | .throttle => "throttle must be -1, 0, or 1"
  | .receivedAt => "received_at must be finite"
  | .nitro => "nitro must be boolean"
  | .steeringTrimPercent => "steering_trim_percent must be an integer between -20 and 20"

/-- `InputFrame(...)`, with the checks of its `__post_init__`. -/
def InputFrame.new (armed : Bool) (steering throttle : Int) (receivedAt : Number)
    (nitro steeringTrimPercent : PyValue) : Except FrameError InputFrame :=
  if steering_mem : steering ∈ ([-1, 0, 1] : List Int) then
    if throttle_mem : throttle ∈ ([-1, 0, 1] : List Int) then
      if received_finite : isFinite receivedAt = true then
        match nitro with
        | .bool nitro =>
          match steeringTrimPercent with
          | .int steeringTrimPercent =>
            if trim_range : -20 ≤ steeringTrimPercent ∧ steeringTrimPercent ≤ 20 then
              .ok
                { armed, steering, throttle, receivedAt, nitro, steeringTrimPercent, steering_mem,
                  throttle_mem, received_finite, trim_range }
            else .error .steeringTrimPercent
          | _ => .error .steeringTrimPercent
        | _ => .error .nitro
      else .error .receivedAt
    else .error .throttle
  else .error .steering

/-- A frame has what it was made of. -/
theorem InputFrame.of_new {armed : Bool} {steering throttle : Int} {receivedAt : Number}
    {nitro trim : PyValue} {frame : InputFrame}
    (h : InputFrame.new armed steering throttle receivedAt nitro trim = .ok frame) :
    frame.armed = armed ∧ frame.receivedAt = receivedAt := by
  unfold InputFrame.new at h
  split at h
  · split at h
    · split at h
      · split at h
        · split at h
          · split at h
            · obtain rfl := Except.ok.inj h
              exact ⟨rfl, rfl⟩
            · cases h
          · cases h
        · cases h
      · cases h
    · cases h
  · cases h

/-- The pulses of a bench car, in microseconds. -/
structure LiveConfig where
  steeringLeftUs : Int := 1000
  steeringNeutralUs : Int := 1500
  steeringRightUs : Int := 2000
  throttleReverseUs : Int := 1250
  throttleNeutralUs : Int := 1500
  throttleForwardUs : Int := 1750
  watchdogS : Number := .round (1 / 5)
  steering_ordered : steeringLeftUs < steeringNeutralUs ∧ steeringNeutralUs < steeringRightUs
  throttle_ordered :
    throttleReverseUs < throttleNeutralUs ∧ throttleNeutralUs < throttleForwardUs
  watchdog_range :
    (Number.round (1 / 20)).le watchdogS = true ∧ watchdogS.le (.ofInt 1) = true

structure OutputState where
  steeringUs : Int
  throttleUs : Int
  armed : Bool
  stale : Bool
  deriving DecidableEq

namespace LiveConfig

variable (config : LiveConfig)

def mapSteering (steering trimPercent : Int) : Int :=
  if steering < 0 then config.steeringLeftUs
  else if 0 < steering then config.steeringRightUs
  else if trimPercent < 0 then
    let spanUs := config.steeringNeutralUs - config.steeringLeftUs
    config.steeringNeutralUs - (spanUs * -trimPercent + 50) / 100
  else
    let spanUs := config.steeringRightUs - config.steeringNeutralUs
    config.steeringNeutralUs + (spanUs * trimPercent + 50) / 100

def scaledForwardUs : Int :=
  let delta := config.throttleForwardUs - config.throttleNeutralUs
  config.throttleNeutralUs + (delta * normalDrivePercent + 50) / 100

def neutral (stale : Bool) : OutputState :=
  { steeringUs := config.steeringNeutralUs, throttleUs := config.throttleNeutralUs, armed := false,
    stale }

def mapThrottle (frame : InputFrame) : Int :=
  if 0 < frame.throttle then
    if frame.nitro then config.throttleForwardUs else config.scaledForwardUs
  else if frame.throttle < 0 then config.throttleReverseUs
  else config.throttleNeutralUs

/-- A frame that was received more than the watchdog's time ago. -/
def overdue (frame : InputFrame) (now : Number) : Bool :=
  config.watchdogS.lt (now.sub frame.receivedAt)

/-- `LiveControl.step`. -/
def step (frame : Option InputFrame) (now : Number) : OutputState :=
  match frame with
  | none => config.neutral true
  | some frame =>
    if config.overdue frame now then config.neutral true
    else if !frame.armed then config.neutral false
    else
      { steeringUs := config.mapSteering frame.steering frame.steeringTrimPercent
        throttleUs := config.mapThrottle frame
        armed := true
        stale := false }

/-! ## The limits -/

/-- Pulses between left and right, and between reverse and forward. -/
structure Within (state : OutputState) : Prop where
  steering : config.steeringLeftUs ≤ state.steeringUs ∧ state.steeringUs ≤ config.steeringRightUs
  throttle :
    config.throttleReverseUs ≤ state.throttleUs ∧ state.throttleUs ≤ config.throttleForwardUs

variable {config}

/-- A share of a span, rounded to whole microseconds, stays within it. -/
theorem share_le {span : Int} (hspan : 0 < span) (percent : Int) (hpercent : 0 ≤ percent)
    (hle : percent ≤ 63) :
    0 ≤ (span * percent + 50) / 100 ∧ (span * percent + 50) / 100 ≤ span := by
  have hlow : 0 ≤ span * percent := mul_nonneg hspan.le hpercent
  have hhigh : span * percent ≤ span * 63 := mul_le_mul_of_nonneg_left hle hspan.le
  omega

theorem mapSteering_mem {steering trim : Int} (htrim : -20 ≤ trim ∧ trim ≤ 20) :
    config.steeringLeftUs ≤ config.mapSteering steering trim ∧
      config.mapSteering steering trim ≤ config.steeringRightUs := by
  obtain ⟨hleft, hright⟩ := config.steering_ordered
  unfold mapSteering
  split
  · omega
  · split
    · omega
    · split
      · have hspan : 0 < config.steeringNeutralUs - config.steeringLeftUs := by omega
        have hshare := share_le hspan (-trim) (by omega) (by omega)
        dsimp only
        omega
      · have hspan : 0 < config.steeringRightUs - config.steeringNeutralUs := by omega
        have hshare := share_le hspan trim (by omega) (by omega)
        dsimp only
        omega

theorem scaledForwardUs_mem :
    config.throttleNeutralUs ≤ config.scaledForwardUs ∧
      config.scaledForwardUs ≤ config.throttleForwardUs := by
  have hforward := config.throttle_ordered.2
  have hspan : 0 < config.throttleForwardUs - config.throttleNeutralUs := by omega
  have hshare := share_le hspan normalDrivePercent (by decide) (by decide)
  unfold scaledForwardUs
  dsimp only
  omega

theorem mapThrottle_mem (frame : InputFrame) :
    config.throttleReverseUs ≤ config.mapThrottle frame ∧
      config.mapThrottle frame ≤ config.throttleForwardUs := by
  obtain ⟨hreverse, hforward⟩ := config.throttle_ordered
  unfold mapThrottle
  split
  · split
    · omega
    · have hscaled := config.scaledForwardUs_mem
      omega
  · split <;> omega

theorem within_neutral (stale : Bool) : config.Within (config.neutral stale) := by
  obtain ⟨hleft, hright⟩ := config.steering_ordered
  obtain ⟨hreverse, hforward⟩ := config.throttle_ordered
  exact ⟨⟨hleft.le, hright.le⟩, ⟨hreverse.le, hforward.le⟩⟩

theorem within_step (frame : Option InputFrame) (now : Number) :
    config.Within (config.step frame now) := by
  unfold step
  split
  · exact within_neutral true
  · next frame =>
    split
    · exact within_neutral true
    · split
      · exact within_neutral false
      · exact ⟨mapSteering_mem frame.trim_range, mapThrottle_mem frame⟩

/-- Without a frame that is armed and in time the car stands still. -/
theorem step_eq_neutral {frame : Option InputFrame} {now : Number}
    (h : ∀ f, frame = some f → config.overdue f now = true ∨ f.armed = false) :
    ∃ stale, config.step frame now = config.neutral stale := by
  unfold step
  split
  · exact ⟨true, rfl⟩
  · next frame =>
    split
    · exact ⟨true, rfl⟩
    · next hoverdue =>
      have harmed := (h frame rfl).resolve_left hoverdue
      rw [harmed]
      exact ⟨false, rfl⟩

/-! ## The trim -/

/-- The part of a span that a trim moves the pulse by. -/
theorem share_mono {span percent percent' : Int} (hspan : 0 < span) (hle : percent ≤ percent') :
    (span * percent + 50) / 100 ≤ (span * percent' + 50) / 100 := by
  have hmul : span * percent ≤ span * percent' := mul_le_mul_of_nonneg_left hle hspan.le
  exact Int.ediv_le_ediv (by decide) (by omega)

/-- A fifth of a span, rounded to the nearest pulse. -/
theorem round_fifth (span : Int) : round ((span : ℚ) / 5) = (span * 20 + 50) / 100 := by
  have hsum : (span : ℚ) / 5 + 1 / 2 = ((span * 20 + 50 : Int) : ℚ) / ((100 : Nat) : ℚ) := by
    push_cast
    ring
  rw [round_eq, hsum, Rat.floor_intCast_div_natCast]
  rfl

/-- The pulse of a centred wheel with a trim: on its side of neutral, within the limits, and at most
a fifth of the side's span away. -/
structure Trimmed (config : LiveConfig) (trimPercent steeringUs : Int) : Prop where
  centred : trimPercent = 0 → steeringUs = config.steeringNeutralUs
  left : trimPercent < 0 → steeringUs ≤ config.steeringNeutralUs
  right : 0 < trimPercent → config.steeringNeutralUs ≤ steeringUs
  within : config.steeringLeftUs ≤ steeringUs ∧ steeringUs ≤ config.steeringRightUs
  left_share : config.steeringNeutralUs - steeringUs ≤
    round (((config.steeringNeutralUs - config.steeringLeftUs : Int) : ℚ) / 5)
  right_share : steeringUs - config.steeringNeutralUs ≤
    round (((config.steeringRightUs - config.steeringNeutralUs : Int) : ℚ) / 5)

theorem trimmed_neutral (trimPercent : Int) :
    Trimmed config trimPercent config.steeringNeutralUs where
  centred := fun _ => rfl
  left := fun _ => le_rfl
  right := fun _ => le_rfl
  within := ⟨config.steering_ordered.1.le, config.steering_ordered.2.le⟩
  left_share := by
    have hleft := config.steering_ordered.1
    rw [round_fifth]
    omega
  right_share := by
    have hright := config.steering_ordered.2
    rw [round_fifth]
    omega

/-- A centred wheel, by the side of its trim. -/
theorem mapSteering_zero (trimPercent : Int) :
    config.mapSteering 0 trimPercent =
      if trimPercent < 0 then
        config.steeringNeutralUs -
          ((config.steeringNeutralUs - config.steeringLeftUs) * -trimPercent + 50) / 100
      else
        config.steeringNeutralUs +
          ((config.steeringRightUs - config.steeringNeutralUs) * trimPercent + 50) / 100 := rfl

theorem trimmed_mapSteering {trimPercent : Int} (htrim : -20 ≤ trimPercent ∧ trimPercent ≤ 20) :
    Trimmed config trimPercent (config.mapSteering 0 trimPercent) := by
  obtain ⟨hleft, hright⟩ := config.steering_ordered
  have hspan : 0 < config.steeringNeutralUs - config.steeringLeftUs := by omega
  have hspan' : 0 < config.steeringRightUs - config.steeringNeutralUs := by omega
  have hwithin : config.steeringLeftUs ≤ config.mapSteering 0 trimPercent ∧
      config.mapSteering 0 trimPercent ≤ config.steeringRightUs := mapSteering_mem htrim
  rw [mapSteering_zero] at hwithin ⊢
  split
  · next hneg =>
    rw [if_pos hneg] at hwithin
    obtain ⟨hnonneg, -⟩ := share_le hspan (-trimPercent) (by omega) (by omega)
    have hshare := share_mono hspan (show -trimPercent ≤ 20 by omega)
    refine ⟨fun hzero => by omega, fun _ => by omega, fun hpos => by omega, hwithin, ?_, ?_⟩
    · rw [round_fifth]
      omega
    · rw [round_fifth]
      omega
  · next hnonneg =>
    rw [if_neg hnonneg] at hwithin
    obtain ⟨hshare, -⟩ := share_le hspan' trimPercent (by omega) (by omega)
    have hshare' := share_mono hspan' htrim.2
    refine ⟨fun hzero => ?_, fun hneg => absurd hneg hnonneg, fun _ => by omega, hwithin, ?_, ?_⟩
    · rw [hzero, mul_zero]
      omega
    · rw [round_fifth]
      omega
    · rw [round_fifth]
      omega

/-- A trim further to the right moves the pulse no further to the left. -/
theorem mapSteering_mono {trimPercent trimPercent' : Int} (hle : trimPercent ≤ trimPercent')
    (htrim : -20 ≤ trimPercent ∧ trimPercent' ≤ 20) :
    config.mapSteering 0 trimPercent ≤ config.mapSteering 0 trimPercent' := by
  obtain ⟨hleft, hright⟩ := config.steering_ordered
  have hspan : 0 < config.steeringNeutralUs - config.steeringLeftUs := by omega
  have hspan' : 0 < config.steeringRightUs - config.steeringNeutralUs := by omega
  rcases lt_or_ge trimPercent' 0 with hneg' | hpos'
  · have hshare := share_mono hspan (neg_le_neg hle)
    rw [mapSteering_zero, mapSteering_zero, if_pos (hle.trans_lt hneg'), if_pos hneg']
    omega
  · rcases lt_or_ge trimPercent 0 with hneg | hpos
    · have hbelow : config.mapSteering 0 trimPercent ≤ config.steeringNeutralUs :=
        (trimmed_mapSteering ⟨htrim.1, by omega⟩).left hneg
      obtain ⟨hshare, -⟩ := share_le hspan' trimPercent' hpos' (by omega)
      refine hbelow.trans ?_
      rw [mapSteering_zero, if_neg (not_lt.2 hpos')]
      omega
    · have hshare := share_mono hspan' hle
      rw [mapSteering_zero, mapSteering_zero, if_neg (not_lt.2 hpos), if_neg (not_lt.2 hpos')]
      omega

/-! ## The pulses of a frame -/

/-- A frame drives the car if and only if it is armed and in time. -/
theorem step_armed_iff {frame : InputFrame} {now : Number} :
    (config.step (some frame) now).armed = true ↔
      frame.armed = true ∧ config.overdue frame now = false := by
  unfold step
  dsimp only
  cases config.overdue frame now with
  | true => exact iff_of_false Bool.false_ne_true nofun
  | false =>
    cases frame.armed with
    | true => exact iff_of_true rfl ⟨rfl, rfl⟩
    | false => exact iff_of_false Bool.false_ne_true nofun

/-- What a step maps such a frame to. -/
theorem step_of_armed {frame : InputFrame} {now : Number} (harmed : frame.armed = true)
    (htime : config.overdue frame now = false) :
    config.step (some frame) now =
      { steeringUs := config.mapSteering frame.steering frame.steeringTrimPercent
        throttleUs := config.mapThrottle frame
        armed := true
        stale := false } := by
  unfold step
  dsimp only
  rw [htime, harmed]
  rfl

theorem trimmed_step {frame : InputFrame} (hcentred : frame.steering = 0) (now : Number) :
    config.Trimmed frame.steeringTrimPercent (config.step (some frame) now).steeringUs := by
  by_cases hdrives : frame.armed = true ∧ config.overdue frame now = false
  · rw [step_of_armed hdrives.1 hdrives.2, hcentred]
    exact trimmed_mapSteering frame.trim_range
  · rw [not_and_or, Bool.not_eq_true, Bool.not_eq_false] at hdrives
    have hstill : ∀ f, some frame = some f → config.overdue f now = true ∨ f.armed = false :=
      fun f hf => Option.some.inj hf ▸ hdrives.symm
    obtain ⟨stale, hneutral⟩ := config.step_eq_neutral hstill
    rw [hneutral]
    exact trimmed_neutral _

/-- **Main result.** A centred wheel is trimmed by at most a fifth of the side's span. A frame that
is armed and in time drives the car: its trim moves the wheel monotonically, full left and right are
what they are whatever the trim, and forward without nitro is between neutral and full. -/
theorem pulses_mapped (config : LiveConfig) (frame : InputFrame) (now : Number) :
    (frame.steering = 0 →
      config.Trimmed frame.steeringTrimPercent (config.step (some frame) now).steeringUs) ∧
    (frame.armed = true → config.overdue frame now = false →
      (config.step (some frame) now).armed = true ∧
      (frame.steering = 0 → ∀ (frame' : InputFrame) (now' : Number), frame'.steering = 0 →
        frame'.armed = true → config.overdue frame' now' = false →
        frame.steeringTrimPercent ≤ frame'.steeringTrimPercent →
          (config.step (some frame) now).steeringUs ≤
            (config.step (some frame') now').steeringUs) ∧
      (frame.steering < 0 →
        (config.step (some frame) now).steeringUs = config.steeringLeftUs) ∧
      (0 < frame.steering →
        (config.step (some frame) now).steeringUs = config.steeringRightUs) ∧
      (0 < frame.throttle → frame.nitro = false →
        config.throttleNeutralUs ≤ (config.step (some frame) now).throttleUs ∧
          (config.step (some frame) now).throttleUs ≤ config.throttleForwardUs)) := by
  refine ⟨fun hcentred => trimmed_step hcentred now, fun harmed htime => ?_⟩
  rw [step_of_armed harmed htime]
  refine ⟨rfl, fun hcentred frame' now' hcentred' harmed' htime' hle => ?_, fun hleft => ?_,
    fun hright => ?_, fun hforward hnormal => ?_⟩
  · rw [step_of_armed harmed' htime', hcentred, hcentred']
    exact mapSteering_mono hle ⟨frame.trim_range.1, frame'.trim_range.2⟩
  · dsimp only
    rw [mapSteering, if_pos hleft]
  · dsimp only
    rw [mapSteering, if_neg (not_lt.2 hright.le), if_pos hright]
  · dsimp only
    rw [mapThrottle, if_pos hforward, hnormal, if_neg Bool.false_ne_true]
    exact scaledForwardUs_mem

end LiveConfig

/-- The pulses of the source. -/
def defaultConfig : LiveConfig where
  steering_ordered := by decide
  throttle_ordered := by decide
  watchdog_range := by decide +kernel

/-- A frame of a car that goes forward with a trim to the right. -/
def trimmedFrame (steeringTrimPercent : Int)
    (trim_range : -20 ≤ steeringTrimPercent ∧ steeringTrimPercent ≤ 20) : InputFrame where
  armed := true
  steering := 0
  throttle := 1
  receivedAt := .ofInt 0
  nitro := false
  steeringTrimPercent := steeringTrimPercent
  steering_mem := by decide
  throttle_mem := by decide
  received_finite := rfl
  trim_range := trim_range

/-- A trim of ten percent moves the wheel, and one of twenty no less. -/
theorem trimmedFrame_mapped :
    let state := defaultConfig.step (some (trimmedFrame 10 (by decide))) (.ofInt 0)
    let state' := defaultConfig.step (some (trimmedFrame 20 (by decide))) (.ofInt 0)
    state.armed = true ∧ (1500 ≤ state.steeringUs ∧ state.steeringUs ≤ state'.steeringUs) ∧
      (1500 ≤ state.throttleUs ∧ state.throttleUs ≤ 1750) := by
  have htime : defaultConfig.overdue (trimmedFrame 10 (by decide)) (.ofInt 0) = false := by
    decide +kernel
  obtain ⟨htrimmed, hdrives⟩ :=
    defaultConfig.pulses_mapped (trimmedFrame 10 (by decide)) (.ofInt 0)
  obtain ⟨harmed, hmono, -, -, hforward⟩ := hdrives rfl htime
  refine ⟨harmed, ⟨(htrimmed rfl).right (by decide), ?_⟩, hforward (by decide) rfl⟩
  exact hmono rfl (trimmedFrame 20 (by decide)) (.ofInt 0) rfl rfl htime (by decide)

end RcOnline.Bench
