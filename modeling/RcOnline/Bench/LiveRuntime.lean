import RcOnline.Bench.CommandMailbox

/-!
# The runtime of the bench

`LiveRuntime` of `tests/hardware/pi-direct-pwm/rc_bench/live_server.py` beside the mailbox that it
reads. A tick sends pulses only where they differ from those sent last, so what the car has is a
copy of what was computed (`Synced`). In every run it is the right one, and neutral without a frame
in time (`watchdog_stops`).
-/

namespace RcOnline.Bench

open RcOnline.Lib

/-- The runtime with the pulses that it has applied to its output. -/
structure LiveRuntime where
  config : LiveConfig
  lastApplied : Option (Int × Int)
  state : OutputState
  applied : List (Int × Int)
  outputClosed : Bool

structure RuntimeStatus where
  armed : Bool
  stale : Bool
  steeringUs : Int
  throttleUs : Int
  deriving DecidableEq

namespace LiveRuntime

def new (config : LiveConfig) : LiveRuntime where
  config := config
  lastApplied := none
  state := { steeringUs := 1500, throttleUs := 1500, armed := false, stale := true }
  applied := []
  outputClosed := false

variable (runtime : LiveRuntime)

/-- `self._output.apply(*pulses)`, which does not fail. -/
def apply (pulses : Int × Int) : LiveRuntime :=
  { runtime with applied := runtime.applied ++ [pulses] }

def tick (frame : Option InputFrame) (now : Number) : OutputState × LiveRuntime :=
  let state := runtime.config.step frame now
  let pulses := (state.steeringUs, state.throttleUs)
  let runtime :=
    if some pulses ≠ runtime.lastApplied then
      { runtime.apply pulses with lastApplied := some pulses }
    else runtime
  (state, { runtime with state })

def status : RuntimeStatus where
  armed := runtime.state.armed
  stale := runtime.state.stale
  steeringUs := runtime.state.steeringUs
  throttleUs := runtime.state.throttleUs

def close : LiveRuntime := { runtime.apply (1500, 1500) with outputClosed := true }

/-- The pulses that are remembered are those that the output got last. -/
def Synced (runtime : LiveRuntime) : Prop := runtime.lastApplied = runtime.applied.getLast?

theorem synced_new (config : LiveConfig) : Synced (new config) := rfl

variable {runtime}

theorem getLast?_apply (pulses : Int × Int) :
    (runtime.apply pulses).applied.getLast? = some pulses :=
  List.getLast?_concat

/-- A tick leaves the output with the pulses that it has computed. -/
theorem Synced.tick (h : runtime.Synced) (frame : Option InputFrame) (now : Number) :
    (runtime.tick frame now).2.Synced ∧
      (runtime.tick frame now).2.applied.getLast? =
        some ((runtime.tick frame now).1.steeringUs, (runtime.tick frame now).1.throttleUs) := by
  unfold LiveRuntime.tick
  dsimp only
  split
  · exact ⟨(getLast?_apply _).symm, getLast?_apply _⟩
  · next hsame => exact ⟨h, h.symm.trans (not_not.1 hsame).symm⟩

theorem config_tick (frame : Option InputFrame) (now : Number) :
    (runtime.tick frame now).2.config = runtime.config := by
  unfold LiveRuntime.tick
  dsimp only
  split <;> rfl

end LiveRuntime

/-! ## The bench -/

structure LiveBench where
  mailbox : MailboxRun
  runtime : LiveRuntime

inductive BenchEvent where
  | publish (input : PublishInput)
  | tick (now : Number)

namespace LiveBench

def start (mailbox : CommandMailbox) (config : LiveConfig) : LiveBench where
  mailbox := ⟨mailbox, []⟩
  runtime := .new config

def tick (bench : LiveBench) (now : Number) : OutputState × LiveBench :=
  let (state, runtime) := bench.runtime.tick bench.mailbox.mailbox.snapshot now
  (state, { bench with runtime })

def step (bench : LiveBench) : BenchEvent → LiveBench
  | .publish input => { bench with mailbox := bench.mailbox.publish input }
  | .tick now => (bench.tick now).2

/-- No frame was accepted, or the last one is disarmed or has not been followed in time. -/
def MustStop (bench : LiveBench) (now : Number) : Prop :=
  ∀ last, bench.mailbox.accepted.getLast? = some last →
    last.frame.armed = false ∨
      bench.runtime.config.watchdogS.lt (now.sub last.frame.receivedAt) = true

/-- What a tick that computes a state leaves behind. -/
structure Watched (config : LiveConfig) (stop : Prop) (state : OutputState) (after : LiveRuntime) :
    Prop where
  applied : after.applied.getLast? = some (state.steeringUs, state.throttleUs)
  within : config.Within state
  stopped : stop → state.steeringUs = 1500 ∧ state.throttleUs = 1500 ∧ state.armed = false ∧
    after.status.armed = false

/-- What holds of a bench between its events. -/
structure Running (config : LiveConfig) (bench : LiveBench) : Prop where
  config : bench.runtime.config = config
  synced : bench.runtime.Synced
  holds : bench.mailbox.Holds

variable {config : LiveConfig} {bench : LiveBench}

theorem Running.step (h : Running config bench) (event : BenchEvent) :
    Running config (bench.step event) := by
  cases event with
  | publish input => exact ⟨h.config, h.synced, h.holds.publish input⟩
  | tick now =>
    exact ⟨(LiveRuntime.config_tick _ _).trans h.config, (h.synced.tick _ now).1, h.holds⟩

/-- A tick that must stop the car sees no frame that could move it. -/
theorem Running.stop_of_mustStop (h : Running config bench) {now : Number}
    (hstop : bench.MustStop now) :
    ∀ frame, bench.mailbox.mailbox.snapshot = some frame →
      config.overdue frame now = true ∨ frame.armed = false := by
  intro frame hframe
  have hholds := h.holds
  unfold MailboxRun.Holds at hholds
  split at hholds
  · rw [CommandMailbox.snapshot, hholds.2] at hframe
    cases hframe
  · next last hlast =>
    rw [CommandMailbox.snapshot, hholds.2.2.2] at hframe
    obtain rfl := Option.some.inj hframe
    have hlate := hstop last hlast
    rw [h.config] at hlate
    exact hlate.symm

theorem Running.watched (h : Running config bench)
    (hneutral : config.steeringNeutralUs = 1500 ∧ config.throttleNeutralUs = 1500)
    (now : Number) :
    Watched config (bench.MustStop now) (bench.tick now).1 (bench.tick now).2.runtime := by
  have hstate : (bench.tick now).1 = config.step bench.mailbox.mailbox.snapshot now := by
    rw [← h.config]
    rfl
  refine ⟨(h.synced.tick _ now).2, ?_, fun hstop => ?_⟩
  · rw [hstate]
    exact LiveConfig.within_step _ now
  · obtain ⟨stale, hstep⟩ := LiveConfig.step_eq_neutral (h.stop_of_mustStop hstop)
    have hreported : (bench.tick now).2.runtime.status.armed = (bench.tick now).1.armed := rfl
    rw [hreported, hstate, hstep]
    exact ⟨hneutral.1, hneutral.2, rfl, rfl⟩

/-- **Main result.** Whatever is published to a bench, and whenever it ticks, after each tick the
output has the pulses that the tick has computed; they are within the limits, and neutral without an
armed frame in time. Closed, the bench is neutral. -/
theorem watchdog_stops {takeoverS : Number} {mailbox : CommandMailbox}
    (hnew : CommandMailbox.new takeoverS = some mailbox)
    (hneutral : config.steeringNeutralUs = 1500 ∧ config.throttleNeutralUs = 1500)
    (events : List BenchEvent) :
    let bench := events.foldl step (start mailbox config)
    (∀ now, Watched config (bench.MustStop now) (bench.tick now).1 (bench.tick now).2.runtime) ∧
      bench.runtime.close.applied.getLast? = some (1500, 1500) := by
  intro bench
  have hstart : Running config (start mailbox config) :=
    ⟨rfl, LiveRuntime.synced_new config, MailboxRun.holds_new hnew⟩
  have hrunning : Running config bench :=
    (run_foldl step (start mailbox config) events).invariant hstart fun h hstep =>
      hstep ▸ h.step _
  exact ⟨hrunning.watched hneutral, LiveRuntime.getLast?_apply _⟩

theorem defaultConfig_neutral :
    defaultConfig.steeringNeutralUs = 1500 ∧ defaultConfig.throttleNeutralUs = 1500 := ⟨rfl, rfl⟩

/-- A second after an armed frame the car stands still. -/
theorem overdue_stops :
    ∃ bench : LiveBench, bench.mailbox.accepted ≠ [] ∧ (bench.tick (.ofInt 1)).1.armed = false ∧
      (bench.tick (.ofInt 1)).2.runtime.applied.getLast? = some (1500, 1500) := by
  have hnew : CommandMailbox.new (.ofInt 1) = some benchMailbox := by decide +kernel
  obtain ⟨hwatched, -⟩ := watchdog_stops hnew defaultConfig_neutral
    [.publish (benchFrame "browser-a" 1 0), .tick (.ofInt 0)]
  have hstop : MustStop ([BenchEvent.publish (benchFrame "browser-a" 1 0), .tick (.ofInt 0)].foldl
      step (start benchMailbox defaultConfig)) (.ofInt 1) := by
    intro last hlast
    obtain rfl := Option.some.inj hlast
    exact .inr (by decide +kernel)
  obtain ⟨hsteering, hthrottle, harmed, -⟩ := (hwatched (.ofInt 1)).stopped hstop
  refine ⟨_, ?_, harmed, ?_⟩
  · decide +kernel
  · rw [(hwatched (.ofInt 1)).applied, hsteering, hthrottle]

end LiveBench

end RcOnline.Bench
