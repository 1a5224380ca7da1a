import RcOnline.Web.RideConnection

/-!
# The life of a ride connection attempt

An attempt is new, alive or over (`Reached`). While it is alive it holds what it has created; its
end releases that and is the last of its outputs that is not quiet (`Alive.over`). Once over, no
call, callback or timer does anything (`Over.step`).
-/

namespace RcOnline.Web

open RcOnline.Lib

namespace RideOutput

variable {Stream Stats : Type}

/-- What an attempt may still do once it is over. -/
def Quiet : RideOutput Stream Stats → Prop
  | .timeoutSet | .timeoutCleared | .snapshot _ | .channelsBound => True
  | .loopDisarmed _ | .loopStopped | .clientClosed _ => True
  | .telemetry values => values = clearedTelemetry
  | .videoStats stats => stats = none
  | _ => False

def isReady : RideOutput Stream Stats → Bool
  | .ready _ => true
  | _ => false

def isDisarmed : RideOutput Stream Stats → Bool
  | .loopDisarmed _ => true
  | _ => false

def isStopped : RideOutput Stream Stats → Bool
  | .loopStopped => true
  | _ => false

def isClosed : RideOutput Stream Stats → Bool
  | .clientClosed _ => true
  | _ => false

/-- An output that creates, releases and ends nothing. -/
def Keeps : RideOutput Stream Stats → Prop
  | .clientCreated | .loopCreated | .ended => False
  | .loopDisarmed _ | .loopStopped | .clientClosed _ => False
  | _ => True

/-- An output that does not make the attempt ready either. -/
def Plain : RideOutput Stream Stats → Prop
  | .loopStarted | .loopArmed | .ready _ => False
  | output => output.Keeps

/-- What an output owes to those before it. -/
structure Allowed (before : List (RideOutput Stream Stats)) (output : RideOutput Stream Stats) :
    Prop where
  quiet : .ended ∈ before → output.Quiet
  ready : ∀ route, output = .ready route → .routeReported route ∈ before ∧
    .videoReported ∈ before ∧ ∀ earlier ∈ before, earlier.isReady = false

theorem Allowed.of_quiet {before : List (RideOutput Stream Stats)}
    {output : RideOutput Stream Stats} (h : output.Quiet) : Allowed before output := by
  refine ⟨fun _ => h, ?_⟩
  rintro route rfl
  exact h.elim

theorem Allowed.of_unended {before : List (RideOutput Stream Stats)}
    {output : RideOutput Stream Stats} (h : .ended ∉ before) (hready : output.isReady = false) :
    Allowed before output := by
  refine ⟨fun hended => absurd hended h, ?_⟩
  rintro route rfl
  cases hready

/-- The loop is armed right before the attempt says that it is ready. -/
def ArmedAtReady (outputs : List (RideOutput Stream Stats)) : Prop :=
  ∀ before after, outputs = before ++ .loopArmed :: after →
    ∃ route rest, after = .ready route :: rest

variable {outputs new : List (RideOutput Stream Stats)}

theorem armedAtReady_of_notMem (h : .loopArmed ∉ outputs) : ArmedAtReady outputs := by
  rintro before after rfl
  exact absurd (List.mem_append_right _ List.mem_cons_self) h

theorem ArmedAtReady.append (h : ArmedAtReady outputs) (hnew : ArmedAtReady new) :
    ArmedAtReady (outputs ++ new) := by
  intro before after heq
  rcases List.append_eq_append_iff.1 heq with ⟨rest, -, hrest⟩ | ⟨rest, hbefore, hrest⟩
  · exact hnew rest after hrest
  · cases rest with
    | nil => exact hnew [] after hrest.symm
    | cons first rest =>
      obtain ⟨rfl, rfl⟩ := List.cons.inj hrest
      obtain ⟨route, rest', rfl⟩ := h before rest hbefore
      exact ⟨route, rest' ++ new, rfl⟩

end RideOutput

namespace RideConnectionAttempt

open RideOutput

variable {Stream Stats : Type}

/-- An attempt that was started and has not ended. -/
structure Alive (attempt : RideConnectionAttempt Stream Stats) : Prop where
  active : attempt.active = true
  started : attempt.phase ≠ .unstarted
  allowed : Each Allowed attempt.outputs
  armed : ArmedAtReady attempt.outputs
  unended : .ended ∉ attempt.outputs
  unready : attempt.isReady = false → ∀ output ∈ attempt.outputs, output.isReady = false
  route : ∀ route, attempt.connectedRoute = some route → .routeReported route ∈ attempt.outputs
  video : attempt.videoLoadedData = true → .videoReported ∈ attempt.outputs
  kept : ∀ output ∈ attempt.outputs, output.isDisarmed = false ∧ output.isStopped = false ∧
    output.isClosed = false
  uncreated : attempt.phase = .creatingSession →
    .clientCreated ∉ attempt.outputs ∧ .loopCreated ∉ attempt.outputs
  held : .clientCreated ∈ attempt.outputs → .loopCreated ∈ attempt.outputs →
    attempt.client = true ∧ attempt.loop = true

/-- The client and the loop, if both were created, have been released once. -/
def Released (outputs : List (RideOutput Stream Stats)) : Prop :=
  .clientCreated ∈ outputs → .loopCreated ∈ outputs →
    outputs.countP isDisarmed = 1 ∧ outputs.countP isStopped = 1 ∧ outputs.countP isClosed = 1

structure Over (attempt : RideConnectionAttempt Stream Stats) : Prop where
  inactive : attempt.active = false
  started : attempt.phase ≠ .unstarted
  allowed : Each Allowed attempt.outputs
  armed : ArmedAtReady attempt.outputs
  ended : .ended ∈ attempt.outputs
  noClient : attempt.client = false
  noLoop : attempt.loop = false
  cleared : attempt.hasBatteryTelemetry = false
  released : Released attempt.outputs

variable {attempt : RideConnectionAttempt Stream Stats}

theorem cancelTimeout_eq : attempt.cancelTimeout = { attempt with timeoutHandle := false }.emit
    (if attempt.timeoutHandle then [.timeoutCleared] else []) := by
  cases attempt with
  | mk => unfold cancelTimeout; split <;> simp_all [emit]

theorem clearBatteryTelemetry_eq :
    attempt.clearBatteryTelemetry = { attempt with hasBatteryTelemetry := false }.emit
      (if attempt.hasBatteryTelemetry then [.telemetry clearedTelemetry] else []) := by
  cases attempt with
  | mk => unfold clearBatteryTelemetry; split <;> simp_all [emit]

/-! ## While it is alive -/

section Alive

theorem Alive.extend (h : Alive attempt) {new : List (RideOutput Stream Stats)}
    (hallowed : Each Allowed (attempt.outputs ++ new)) (harmed : ArmedAtReady new)
    (hkeeps : ∀ output ∈ new, output.Keeps)
    (hunready : attempt.isReady = false → ∀ output ∈ new, output.isReady = false) :
    Alive (attempt.emit new) where
  active := h.active
  started := h.started
  allowed := hallowed
  armed := h.armed.append harmed
  unended := fun hmem => (List.mem_append.1 hmem).elim h.unended (hkeeps _)
  unready := fun hready output hmem =>
    (List.mem_append.1 hmem).elim (h.unready hready output) (hunready hready output)
  route := fun route hroute => List.mem_append_left _ (h.route route hroute)
  video := fun hvideo => List.mem_append_left _ (h.video hvideo)
  kept := fun output hmem => by
    rcases List.mem_append.1 hmem with hmem | hmem
    · exact h.kept output hmem
    · cases output <;> first | exact ⟨rfl, rfl, rfl⟩ | exact (hkeeps _ hmem).elim
  uncreated := fun hphase => by
    obtain ⟨hclient, hloop⟩ := h.uncreated hphase
    exact ⟨fun hmem => (List.mem_append.1 hmem).elim hclient (hkeeps _),
      fun hmem => (List.mem_append.1 hmem).elim hloop (hkeeps _)⟩
  held := fun hclient hloop =>
    h.held ((List.mem_append.1 hclient).resolve_right (hkeeps _))
      ((List.mem_append.1 hloop).resolve_right (hkeeps _))

/-- Outputs before the end that do not make the attempt ready. -/
theorem Alive.allowed_append (h : Alive attempt) {new : List (RideOutput Stream Stats)}
    (hnew : ∀ output ∈ new, output.Keeps ∧ output.isReady = false) :
    Each Allowed (attempt.outputs ++ new) := by
  refine h.allowed.append fun before output after heq => ?_
  refine .of_unended (fun hended => ?_) (hnew output (by simp [heq])).2
  rcases List.mem_append.1 hended with hended | hended
  · exact h.unended hended
  · exact (hnew .ended (by simp [heq, hended])).1

theorem Alive.emit (h : Alive attempt) {new : List (RideOutput Stream Stats)}
    (hplain : ∀ output ∈ new, output.Plain) : Alive (attempt.emit new) := by
  have hkeeps : ∀ output ∈ new, output.Keeps ∧ output.isReady = false := by
    intro output hmem
    have houtput := hplain output hmem
    cases output <;> first | exact ⟨houtput, rfl⟩ | exact houtput.elim
  exact h.extend (h.allowed_append hkeeps) (armedAtReady_of_notMem fun hmem => hplain _ hmem)
    (fun output hmem => (hkeeps output hmem).1) fun _ output hmem => (hkeeps output hmem).2

theorem Alive.append (h : Alive attempt) (code message : String) (tone : LogTone)
    (status : ConnectionLoadingStatus) (errorMessage : String) :
    Alive (attempt.append code message tone status errorMessage) := by
  have hentries : Alive { attempt with entries := attempt.entries ++ [⟨code, message, tone⟩] } :=
    { h with }
  refine hentries.emit ?_
  simp [Plain, Keeps]

theorem Alive.cancelTimeout (h : Alive attempt) : Alive attempt.cancelTimeout := by
  have hcleared : Alive { attempt with timeoutHandle := false } := { h with }
  rw [cancelTimeout_eq]
  refine hcleared.emit ?_
  simp [Plain, Keeps]

theorem Alive.clearBatteryTelemetry (h : Alive attempt) : Alive attempt.clearBatteryTelemetry := by
  have hcleared : Alive { attempt with hasBatteryTelemetry := false } := { h with }
  rw [clearBatteryTelemetry_eq]
  refine hcleared.emit ?_
  simp [Plain, Keeps]

theorem readied_eq (canArm : Bool) (route : RideRoute) :
    ∃ before : List (RideOutput Stream Stats), readied canArm route = before ++ [.ready route] ∧
      ∀ output ∈ before, output.Keeps ∧ output.isReady = false := by
  cases canArm with
  | false => exact ⟨[.loopStarted], rfl, by simp [Keeps, RideOutput.isReady]⟩
  | true => exact ⟨[.loopStarted, .loopArmed], rfl, by simp [Keeps, RideOutput.isReady]⟩

theorem armedAtReady_readied (canArm : Bool) (route : RideRoute) :
    ArmedAtReady (readied canArm route : List (RideOutput Stream Stats)) := by
  cases canArm with
  | false => exact armedAtReady_of_notMem (by simp [readied])
  | true =>
    intro before after heq
    rcases before with _ | ⟨first, _ | ⟨second, _ | ⟨third, rest⟩⟩⟩
    all_goals simp [readied] at heq
    exact ⟨route, [], heq.2.symm⟩

/-- The loop is started, and armed where that is allowed. -/
theorem Alive.ready (h : Alive attempt) (hready : attempt.isReady = false) {route : RideRoute}
    (hroute : attempt.connectedRoute = some route) (hvideo : attempt.videoLoadedData = true)
    (canArm : Bool) : Alive ({ attempt with isReady := true }.emit (readied canArm route)) := by
  have hset : Alive { attempt with isReady := true } := { h with unready := nofun }
  obtain ⟨before, hbefore, hkeeps⟩ := @readied_eq Stream Stats canArm route
  refine hset.extend ?_ (armedAtReady_readied canArm route) (fun output hmem => ?_) nofun
  · rw [hbefore, ← List.append_assoc]
    refine (h.allowed_append hkeeps).snoc ⟨fun hended => ?_, ?_⟩
    · rcases List.mem_append.1 hended with hended | hended
      · exact absurd hended h.unended
      · exact (hkeeps _ hended).1.elim
    · rintro _ ⟨⟩
      refine ⟨List.mem_append_left _ (h.route route hroute),
        List.mem_append_left _ (h.video hvideo), fun earlier hmem => ?_⟩
      rcases List.mem_append.1 hmem with hmem | hmem
      · exact h.unready hready earlier hmem
      · exact (hkeeps earlier hmem).2
  · rw [hbefore] at hmem
    rcases List.mem_append.1 hmem with hmem | hmem
    · exact (hkeeps output hmem).1
    · obtain rfl := List.mem_singleton.1 hmem
      trivial

theorem Alive.tryReady (h : Alive attempt) (canArm : Bool) : Alive (attempt.tryReady canArm) := by
  unfold RideConnectionAttempt.tryReady
  split
  · exact h
  · next route hroute =>
    split
    · exact h
    · next hguard =>
      simp only [Bool.or_eq_true, Bool.not_eq_true', not_or, Bool.not_eq_true,
        Bool.not_eq_false] at hguard
      obtain ⟨⟨⟨-, hready⟩, hvideo⟩, -⟩ := hguard
      have hcancelled := h.cancelTimeout
      rw [cancelTimeout_eq] at hcancelled ⊢
      have hstep : Alive { ({ attempt with timeoutHandle := false }.emit
          (if attempt.timeoutHandle then [.timeoutCleared] else [])) with activeStep := 7 } :=
        { hcancelled with }
      exact (hstep.append "READY" "Camera ready" .success .connected "").ready hready hroute hvideo
        canArm

end Alive

/-! ## Its end -/

section ending

/-- What a call that ends the attempt does, apart from the message that it may leave. -/
def endedTail (attempt : RideConnectionAttempt Stream Stats) (reason : String) :
    List (RideOutput Stream Stats) :=
  (if attempt.timeoutHandle then [.timeoutCleared] else []) ++
    ((if attempt.hasBatteryTelemetry then [.telemetry clearedTelemetry] else []) ++
      RideConnectionAttempt.released attempt.loop attempt.client reason)

theorem quiet_endedTail (reason : String) :
    ∀ output ∈ attempt.endedTail reason, output.Quiet := by
  unfold endedTail RideConnectionAttempt.released
  cases attempt.timeoutHandle <;> cases attempt.hasBatteryTelemetry <;> cases attempt.loop <;>
    cases attempt.client <;> simp [Quiet]

theorem countP_endedTail (reason : String) (hclient : attempt.client = true)
    (hloop : attempt.loop = true) :
    (attempt.endedTail reason).countP isDisarmed = 1 ∧
      (attempt.endedTail reason).countP isStopped = 1 ∧
      (attempt.endedTail reason).countP isClosed = 1 := by
  unfold endedTail RideConnectionAttempt.released
  rw [hclient, hloop]
  cases attempt.timeoutHandle <;> cases attempt.hasBatteryTelemetry <;>
    simp [List.countP_cons, isDisarmed, isStopped, isClosed]

theorem ended_eq (isReady : Bool) (reason : String) :
    ({ attempt with active := false, isReady }.emit [.ended]).cancelTimeout.teardown reason =
      { attempt with
        active := false, isReady, timeoutHandle := false, hasBatteryTelemetry := false,
        client := false, loop := false,
        outputs := attempt.outputs ++ .ended :: attempt.endedTail reason } := by
  unfold teardown
  rw [cancelTimeout_eq, clearBatteryTelemetry_eq]
  simp only [RideConnectionAttempt.emit, endedTail, List.append_assoc, List.singleton_append]
  rfl

theorem Alive.released (h : Alive attempt) (reason : String) :
    Released (attempt.outputs ++ .ended :: attempt.endedTail reason) := by
  have hbefore : ∀ output, ¬output.Quiet → output ≠ .ended →
      output ∈ attempt.outputs ++ .ended :: attempt.endedTail reason →
      output ∈ attempt.outputs := by
    intro output hquiet hended hmem
    rcases List.mem_append.1 hmem with hmem | hmem
    · exact hmem
    · rcases List.mem_cons.1 hmem with rfl | hmem
      · exact absurd rfl hended
      · exact absurd (quiet_endedTail reason output hmem) hquiet
  intro hclient hloop
  obtain ⟨hclient, hloop⟩ :=
    h.held (hbefore _ id nofun hclient) (hbefore _ id nofun hloop)
  obtain ⟨hdisarmed, hstopped, hclosed⟩ := countP_endedTail reason hclient hloop
  have hdisarmed' : attempt.outputs.countP isDisarmed = 0 :=
    List.countP_eq_zero.2 fun output hmem => by simp [(h.kept output hmem).1]
  have hstopped' : attempt.outputs.countP isStopped = 0 :=
    List.countP_eq_zero.2 fun output hmem => by simp [(h.kept output hmem).2.1]
  have hclosed' : attempt.outputs.countP isClosed = 0 :=
    List.countP_eq_zero.2 fun output hmem => by simp [(h.kept output hmem).2.2]
  simp [List.countP_append, hdisarmed, hstopped, hclosed, hdisarmed', hstopped', hclosed',
    isDisarmed, isStopped, isClosed]

theorem Alive.over (h : Alive attempt) (isReady : Bool) (reason : String) :
    Over (({ attempt with active := false, isReady }.emit [.ended]).cancelTimeout.teardown
      reason) := by
  have hallowed : Each Allowed (attempt.outputs ++ .ended :: attempt.endedTail reason) := by
    rw [List.append_cons]
    refine (h.allowed.snoc (.of_unended h.unended rfl)).append fun before output after heq => ?_
    have hmem : output ∈ attempt.endedTail reason := by simp [heq]
    exact .of_quiet (quiet_endedTail reason output hmem)
  rw [ended_eq]
  exact {
    inactive := rfl
    started := h.started
    allowed := hallowed
    armed := h.armed.append (armedAtReady_of_notMem fun hmem =>
      (List.mem_cons.1 hmem).elim nofun (quiet_endedTail reason _))
    ended := by simp
    noClient := rfl
    noLoop := rfl
    cleared := rfl
    released := h.released reason }

/-- Once it is over an attempt may still show something. -/
theorem Over.emit (h : Over attempt) {new : List (RideOutput Stream Stats)}
    (hnew : ∀ output ∈ new, output.Quiet ∧ output.Keeps) : Over (attempt.emit new) where
  inactive := h.inactive
  started := h.started
  allowed := h.allowed.append fun before output after heq =>
    .of_quiet (hnew output (by simp [heq])).1
  armed := h.armed.append (armedAtReady_of_notMem fun hmem => (hnew _ hmem).1)
  ended := List.mem_append_left _ h.ended
  noClient := h.noClient
  noLoop := h.noLoop
  cleared := h.cleared
  released := fun hclient hloop => by
    have hzero : ∀ p : RideOutput Stream Stats → Bool, (∀ output, p output = true → ¬output.Keeps) →
        (attempt.outputs ++ new).countP p = attempt.outputs.countP p := by
      intro p hp
      have hnone : new.countP p = 0 :=
        List.countP_eq_zero.2 fun output hmem hpo => hp output hpo (hnew output hmem).2
      rw [List.countP_append, hnone, Nat.add_zero]
    have hcounts := h.released
      ((List.mem_append.1 hclient).resolve_right fun hmem => (hnew _ hmem).2)
      ((List.mem_append.1 hloop).resolve_right fun hmem => (hnew _ hmem).2)
    change (attempt.outputs ++ new).countP isDisarmed = 1 ∧
      (attempt.outputs ++ new).countP isStopped = 1 ∧ (attempt.outputs ++ new).countP isClosed = 1
    rwa [hzero isDisarmed, hzero isStopped, hzero isClosed]
    all_goals rintro (_ | _) <;> simp [isDisarmed, isStopped, isClosed, Keeps]

theorem Over.append (h : Over attempt) (code message : String) (tone : LogTone)
    (status : ConnectionLoadingStatus) (errorMessage : String) :
    Over (attempt.append code message tone status errorMessage) := by
  have hentries : Over { attempt with entries := attempt.entries ++ [⟨code, message, tone⟩] } :=
    { h with }
  refine hentries.emit ?_
  simp [Quiet, Keeps]

theorem Alive.fail (h : Alive attempt) (message : String) : Over (attempt.fail message) := by
  have hover := h.over false "connection failed"
  unfold RideConnectionAttempt.fail
  rw [h.active]
  exact hover.append _ _ _ _ _

theorem Alive.failWith (h : Alive attempt) (error : Option String) :
    Over (attempt.failWith error) :=
  h.fail _

theorem Alive.close (h : Alive attempt) (reason : String) : Over (attempt.close reason) := by
  unfold RideConnectionAttempt.close
  rw [h.active]
  exact h.over attempt.isReady reason

end ending

/-! ## Once it is over -/

section Over

theorem Over.fail (h : Over attempt) (message : String) : attempt.fail message = attempt := by
  simp [RideConnectionAttempt.fail, h.inactive]

theorem Over.close (h : Over attempt) (reason : String) : attempt.close reason = attempt := by
  simp [RideConnectionAttempt.close, h.inactive, h.noClient, h.noLoop]

theorem Over.clearBatteryTelemetry (h : Over attempt) :
    attempt.clearBatteryTelemetry = attempt := by
  simp [RideConnectionAttempt.clearBatteryTelemetry, h.cleared]

theorem Over.markVideoLoadedData (h : Over attempt) (canArm : Bool) :
    attempt.markVideoLoadedData canArm = attempt := by
  simp [RideConnectionAttempt.markVideoLoadedData, h.inactive]

/-- A callback that comes late does nothing. -/
theorem Over.onClient (h : Over attempt) (event : RideClientEvent Stream Stats) :
    attempt.onClient event = attempt := by
  cases event with
  | progress progress => simp [RideConnectionAttempt.onClient, handleProgress, h.inactive]
  | state state canArm => simp [RideConnectionAttempt.onClient, onState, h.inactive]
  | stream stream => simp [RideConnectionAttempt.onClient, h.inactive]
  | telemetry telemetry => simp [RideConnectionAttempt.onClient, h.inactive]
  | videoStats stats => simp [RideConnectionAttempt.onClient, h.inactive]
  | error message => simp [RideConnectionAttempt.onClient, h.clearBatteryTelemetry, h.fail]

theorem Over.settled (h : Over attempt) : Over { attempt with phase := .settled } :=
  { h with started := nofun }

/-- No event has an effect that can be seen. -/
theorem Over.step {attempt' : RideConnectionAttempt Stream Stats} {event : RideEvent Stream Stats}
    (h : Over attempt) (hs : attempt.step event = some attempt') :
    Over attempt' ∧ attempt'.outputs = attempt.outputs := by
  cases event with
  | start =>
    simp only [RideConnectionAttempt.step, if_neg h.started] at hs
    cases hs
  | sessionCreated session setup =>
    obtain ⟨-, heq⟩ := Option.ite_none_right_eq_some.1 hs
    obtain rfl := Option.some.inj heq
    have hsame : attempt.sessionCreated session setup = { attempt with phase := .settled } := by
      simp [sessionCreated, h.inactive]
    rw [hsame]
    exact ⟨h.settled, rfl⟩
  | sessionRejected error =>
    obtain ⟨-, heq⟩ := Option.ite_none_right_eq_some.1 hs
    obtain rfl := Option.some.inj heq
    rw [failWith, h.settled.fail]
    exact ⟨h.settled, rfl⟩
  | client event =>
    obtain ⟨-, heq⟩ := Option.ite_none_right_eq_some.1 hs
    obtain rfl := Option.some.inj heq
    rw [h.onClient]
    exact ⟨h, rfl⟩
  | markVideoLoadedData canArm =>
    obtain rfl := Option.some.inj hs
    rw [h.markVideoLoadedData]
    exact ⟨h, rfl⟩
  | timeout =>
    obtain ⟨-, heq⟩ := Option.ite_none_right_eq_some.1 hs
    obtain rfl := Option.some.inj heq
    rw [h.fail]
    exact ⟨h, rfl⟩
  | fail message =>
    obtain rfl := Option.some.inj hs
    rw [h.fail]
    exact ⟨h, rfl⟩
  | close reason =>
    obtain rfl := Option.some.inj hs
    rw [h.close]
    exact ⟨h, rfl⟩

end Over

/-! ## Its steps -/

section steps

/-- An attempt that was started. -/
def Started (attempt : RideConnectionAttempt Stream Stats) : Prop := Alive attempt ∨ Over attempt

theorem Alive.handleProgress (h : Alive attempt) (progress : RideConnectionProgress) :
    Alive (attempt.handleProgress progress) := by
  unfold RideConnectionAttempt.handleProgress
  split
  · exact h
  · refine Alive.append ?_ _ _ _ _ _
    exact { h with }

theorem Alive.onState (h : Alive attempt) (state : RideConnectionState) (canArm : Bool) :
    Started (attempt.onState state canArm) := by
  unfold RideConnectionAttempt.onState
  rw [if_neg (by simp [h.active])]
  cases state with
  | connecting => exact .inl h
  | disconnected => exact .inr (h.clearBatteryTelemetry.fail _)
  | route route =>
    have hreported : Alive (attempt.emit [.routeReported route]) := h.emit (by simp [Plain, Keeps])
    have hroute : Alive ({ attempt with connectedRoute := some route }.emit
        [.routeReported route]) := { hreported with
      route := fun route' hroute => by
        obtain rfl := Option.some.inj hroute
        simp [RideConnectionAttempt.emit] }
    exact .inl (hroute.tryReady canArm)

theorem Alive.onClient (h : Alive attempt) (event : RideClientEvent Stream Stats) :
    Started (attempt.onClient event) := by
  cases event with
  | progress progress => exact .inl (h.handleProgress progress)
  | state state canArm => exact h.onState state canArm
  | stream stream =>
    simp only [RideConnectionAttempt.onClient, h.active, if_true]
    exact .inl (h.emit (by simp [Plain, Keeps]))
  | telemetry values =>
    simp only [RideConnectionAttempt.onClient]
    rw [if_neg (by simp [h.active])]
    refine .inl (Alive.emit ?_ (by simp [Plain, Keeps]))
    exact { h with }
  | videoStats stats =>
    simp only [RideConnectionAttempt.onClient, h.active, if_true]
    exact .inl (h.emit (by simp [Plain, Keeps]))
  | error message => exact .inr (h.clearBatteryTelemetry.fail message)

theorem Started.onClient (h : Started attempt) (event : RideClientEvent Stream Stats) :
    Started (attempt.onClient event) := by
  rcases h with h | h
  · exact h.onClient event
  · rw [h.onClient]
    exact .inr h

theorem Started.fail (h : Started attempt) (message : String) : Started (attempt.fail message) := by
  rcases h with h | h
  · exact .inr (h.fail message)
  · rw [h.fail]
    exact .inr h

/-- What the client reports while it connects, and what then throws. -/
theorem Started.connect (h : Started attempt) (reports : List (RideClientEvent Stream Stats))
    (connectError : Option (Option String)) (channels : Bool)
    (bindError : Option (Option String)) :
    Started (attempt.connect reports connectError channels bindError) := by
  have hreports : Started (reports.foldl RideConnectionAttempt.onClient attempt) := by
    induction reports generalizing attempt with
    | nil => exact h
    | cons report reports ih => exact ih (h.onClient report)
  unfold RideConnectionAttempt.connect
  cases connectError with
  | some error => exact hreports.fail _
  | none =>
    cases channels with
    | false => exact hreports.fail _
    | true =>
      cases bindError with
      | some error => exact hreports.fail _
      | none =>
        rcases hreports with hreports | hreports
        · exact .inl (hreports.emit (by simp [Plain, Keeps]))
        · exact .inr (hreports.emit (by simp [Quiet, Keeps]))

theorem Alive.markVideoLoadedData (h : Alive attempt) (canArm : Bool) :
    Alive (attempt.markVideoLoadedData canArm) := by
  unfold RideConnectionAttempt.markVideoLoadedData
  split
  · exact h
  · have hreported : Alive (attempt.emit [.videoReported]) := h.emit (by simp [Plain, Keeps])
    have hvideo : Alive ({ attempt with
        videoLoadedData := true, activeStep := max attempt.activeStep 7 }.emit
          [.videoReported]) := { hreported with
      video := fun _ => by simp [RideConnectionAttempt.emit] }
    exact (hvideo.append _ _ _ _ _).tryReady canArm

/-- An attempt whose session has come, and that created nothing yet, creates its client and loop. -/
theorem Alive.create (h : Alive attempt) (hphase : attempt.phase ≠ .creatingSession) :
    Alive ({ attempt with client := true, loop := true, wired := true }.emit
      [.clientCreated, .loopCreated]) := by
  have hkeeps : ∀ output ∈ ([.clientCreated, .loopCreated] : List (RideOutput Stream Stats)),
      output ≠ .ended ∧ output ≠ .loopArmed ∧ output.isReady = false ∧
        output.isDisarmed = false ∧ output.isStopped = false ∧ output.isClosed = false := by
    simp [RideOutput.isReady, isDisarmed, isStopped, isClosed]
  exact {
    active := h.active
    started := h.started
    allowed := h.allowed.append fun before output after heq => by
      have hmem : output ∈ ([.clientCreated, .loopCreated] : List (RideOutput Stream Stats)) := by
        simp [heq]
      refine .of_unended (fun hended => ?_) (hkeeps output hmem).2.2.1
      rcases List.mem_append.1 hended with hended | hended
      · exact h.unended hended
      · exact (hkeeps .ended (by simp [heq, hended])).1 rfl
    armed := h.armed.append (armedAtReady_of_notMem fun hmem => (hkeeps _ hmem).2.1 rfl)
    unended := fun hmem => (List.mem_append.1 hmem).elim h.unended fun hmem =>
      (hkeeps _ hmem).1 rfl
    unready := fun hready output hmem =>
      (List.mem_append.1 hmem).elim (h.unready hready output) fun hmem =>
        (hkeeps output hmem).2.2.1
    route := fun route hroute => List.mem_append_left _ (h.route route hroute)
    video := fun hvideo => List.mem_append_left _ (h.video hvideo)
    kept := fun output hmem => (List.mem_append.1 hmem).elim (h.kept output) fun hmem =>
      (hkeeps output hmem).2.2.2
    uncreated := fun heq => absurd heq hphase
    held := fun _ _ => ⟨rfl, rfl⟩ }

/-- The loop could not be created, and nothing holds the client. -/
theorem Alive.createClient (h : Alive attempt) (hphase : attempt.phase ≠ .creatingSession)
    (hloop : .loopCreated ∉ attempt.outputs) : Alive (attempt.emit [.clientCreated]) where
  active := h.active
  started := h.started
  allowed := h.allowed.snoc (.of_unended h.unended rfl)
  armed := h.armed.append (armedAtReady_of_notMem (by simp))
  unended := fun hmem => (List.mem_append.1 hmem).elim h.unended (by simp)
  unready := fun hready output hmem => (List.mem_append.1 hmem).elim (h.unready hready output) (by
    rintro (_ | _)
    · rfl
    · contradiction)
  route := fun route hroute => List.mem_append_left _ (h.route route hroute)
  video := fun hvideo => List.mem_append_left _ (h.video hvideo)
  kept := fun output hmem => (List.mem_append.1 hmem).elim (h.kept output) (by
    rintro (_ | _)
    · exact ⟨rfl, rfl, rfl⟩
    · contradiction)
  uncreated := fun heq => absurd heq hphase
  held := fun _ hmem => (List.mem_append.1 hmem).elim (absurd · hloop) (by simp)

theorem Alive.sessionCreated (h : Alive attempt) (hphase : attempt.phase = .creatingSession)
    (session : StoredDriveSession) (setup : RideSetup Stream Stats) :
    Started (attempt.sessionCreated session setup) := by
  obtain ⟨-, hloop⟩ := h.uncreated hphase
  have hsettled : Alive { attempt with phase := .settled } :=
    { h with started := nofun, uncreated := nofun }
  have hsession : Alive ({ attempt with phase := .settled }.emit [.session session]) :=
    hsettled.emit (by simp [Plain, Keeps])
  unfold RideConnectionAttempt.sessionCreated
  rw [if_neg (by simp [h.active])]
  cases setup with
  | sessionThrows error => exact .inr (hsession.failWith error)
  | clientThrows error => exact .inr (hsession.failWith error)
  | loopThrows error =>
    refine .inr (Alive.failWith ?_ error)
    exact hsession.createClient nofun (by simpa [RideConnectionAttempt.emit] using hloop)
  | connects reports connectError channels bindError =>
    exact Started.connect (.inl (hsession.create nofun)) reports connectError channels bindError

theorem Alive.step {attempt' : RideConnectionAttempt Stream Stats} {event : RideEvent Stream Stats}
    (h : Alive attempt) (hs : attempt.step event = some attempt') : Started attempt' := by
  cases event with
  | start =>
    simp only [RideConnectionAttempt.step, if_neg h.started] at hs
    cases hs
  | sessionCreated session setup =>
    obtain ⟨hphase, heq⟩ := Option.ite_none_right_eq_some.1 hs
    obtain rfl := Option.some.inj heq
    exact h.sessionCreated hphase session setup
  | sessionRejected error =>
    obtain ⟨-, heq⟩ := Option.ite_none_right_eq_some.1 hs
    obtain rfl := Option.some.inj heq
    have hsettled : Alive { attempt with phase := .settled } :=
      { h with started := nofun, uncreated := nofun }
    exact .inr (hsettled.failWith error)
  | client event =>
    obtain ⟨-, heq⟩ := Option.ite_none_right_eq_some.1 hs
    obtain rfl := Option.some.inj heq
    exact h.onClient event
  | markVideoLoadedData canArm =>
    obtain rfl := Option.some.inj hs
    exact .inl (h.markVideoLoadedData canArm)
  | timeout =>
    obtain ⟨-, heq⟩ := Option.ite_none_right_eq_some.1 hs
    obtain rfl := Option.some.inj heq
    exact .inr (h.fail _)
  | fail message =>
    obtain rfl := Option.some.inj hs
    exact .inr (h.fail message)
  | close reason =>
    obtain rfl := Option.some.inj hs
    exact .inr (h.close reason)

theorem alive_start : Alive (new.start : RideConnectionAttempt Stream Stats) := by
  have hactive : Alive ({ new with active := true, phase := .creatingSession } :
      RideConnectionAttempt Stream Stats) := {
    active := rfl
    started := nofun
    allowed := fun before output after heq => by simp [new] at heq
    armed := armedAtReady_of_notMem (by simp [new])
    unended := by simp [new]
    unready := fun _ => by simp [new]
    route := nofun
    video := nofun
    kept := by simp [new]
    uncreated := fun _ => by simp [new]
    held := by simp [new] }
  have hshown := hactive.append "SESSION" "Creating drive session" .default .connecting ""
  refine Alive.emit ?_ (by simp [Plain, Keeps])
  exact { hshown with }

/-- Before `start` nothing else does anything. -/
theorem new_step {attempt' : RideConnectionAttempt Stream Stats} {event : RideEvent Stream Stats}
    (hs : new.step event = some attempt') :
    event ≠ .start ∧ attempt' = new ∨ event = .start ∧ Alive attempt' := by
  cases event with
  | start =>
    obtain rfl := Option.some.inj hs
    exact .inr ⟨rfl, alive_start⟩
  | sessionCreated session setup => cases hs
  | sessionRejected error => cases hs
  | client event => cases hs
  | markVideoLoadedData canArm =>
    obtain rfl := Option.some.inj hs
    exact .inl ⟨nofun, rfl⟩
  | timeout => cases hs
  | fail message =>
    obtain rfl := Option.some.inj hs
    exact .inl ⟨nofun, rfl⟩
  | close reason =>
    obtain rfl := Option.some.inj hs
    exact .inl ⟨nofun, rfl⟩

theorem Started.step {attempt' : RideConnectionAttempt Stream Stats}
    {event : RideEvent Stream Stats} (h : Started attempt)
    (hs : attempt.step event = some attempt') :
    Started attempt' := by
  rcases h with h | h
  · exact h.step hs
  · exact .inr (h.step hs).1

end steps

/-! ## Its runs -/

section runs

variable {events later : List (RideEvent Stream Stats)}
  {attempt' : RideConnectionAttempt Stream Stats}

theorem started_run (h : Run (StepOf step) new events attempt) :
    .start ∉ events ∧ attempt = new ∨ .start ∈ events ∧ Started attempt := by
  induction h with
  | nil => exact .inl ⟨by simp, rfl⟩
  | snoc _ hs ih =>
    rcases ih with ⟨hnot, rfl⟩ | ⟨hmem, hstarted⟩
    · rcases new_step hs with ⟨hevent, rfl⟩ | ⟨rfl, halive⟩
      · exact .inl ⟨by simpa [hnot] using hevent.symm, rfl⟩
      · exact .inr ⟨by simp, .inl halive⟩
    · exact .inr ⟨by simp [hmem], hstarted.step hs⟩

theorem Over.run (h : Over attempt)
    (hrun : Run (StepOf RideConnectionAttempt.step) attempt later attempt') :
    Over attempt' ∧ attempt'.outputs = attempt.outputs := by
  refine hrun.invariant (I := fun s => Over s ∧ s.outputs = attempt.outputs) ⟨h, rfl⟩ ?_
  rintro s t event ⟨hover, hout⟩ hs
  obtain ⟨hover', hout'⟩ := hover.step hs
  exact ⟨hover', hout'.trans hout⟩

/-- The calls that end an attempt. -/
def Ends (event : RideEvent Stream Stats) : Prop :=
  (∃ message, event = .fail message) ∨ ∃ reason, event = .close reason

theorem Started.over_of_ends (h : Started attempt) {event : RideEvent Stream Stats}
    (hevent : Ends event) (hs : attempt.step event = some attempt') : Over attempt' := by
  rcases h with h | h
  · rcases hevent with ⟨message, rfl⟩ | ⟨reason, rfl⟩
    · obtain rfl := Option.some.inj hs
      exact h.fail message
    · obtain rfl := Option.some.inj hs
      exact h.close reason
  · exact (h.step hs).1

/-- The page is told once that the attempt is ready. -/
theorem readyOnce_of_allowed {outputs : List (RideOutput Stream Stats)} (h : Each Allowed outputs) :
    outputs.countP RideOutput.isReady ≤ 1 := by
  induction outputs using List.reverseRecOn with
  | nil => simp
  | append_singleton outputs output ih =>
    rw [List.countP_append]
    cases hready : output.isReady with
    | false =>
      have := ih fun before entry after heq => h before entry (after ++ [output]) (by simp [heq])
      simpa [hready] using this
    | true =>
      obtain ⟨route, rfl⟩ : ∃ route, output = .ready route := by
        cases output <;> first | exact ⟨_, rfl⟩ | cases hready
      have hnone : outputs.countP RideOutput.isReady = 0 :=
        List.countP_eq_zero.2 fun earlier hmem => by
          simp [((h outputs _ [] rfl).ready route rfl).2.2 earlier hmem]
      simp [hnone, hready]

/-- What the outputs of an attempt are, over its whole life. -/
structure Orderly (outputs : List (RideOutput Stream Stats)) : Prop where
  readyOnce : outputs.countP RideOutput.isReady ≤ 1
  readyAfter : ∀ before route after, outputs = before ++ .ready route :: after →
    .routeReported route ∈ before ∧ .videoReported ∈ before ∧ .ended ∉ before
  armedAtReady : ArmedAtReady outputs
  quiet : ∀ before after, outputs = before ++ .ended :: after → ∀ output ∈ after, output.Quiet
  released : .ended ∈ outputs → Released outputs

theorem Orderly.of_allowed {outputs : List (RideOutput Stream Stats)} (h : Each Allowed outputs)
    (harmed : ArmedAtReady outputs) (hreleased : .ended ∈ outputs → Released outputs) :
    Orderly outputs where
  readyOnce := readyOnce_of_allowed h
  readyAfter := fun before route after heq => by
    have hallowed := h before _ after heq
    obtain ⟨hroute, hvideo, -⟩ := hallowed.ready route rfl
    exact ⟨hroute, hvideo, hallowed.quiet⟩
  armedAtReady := harmed
  quiet := fun before after heq output hmem => by
    obtain ⟨first, rest, rfl⟩ := List.append_of_mem hmem
    exact (h (before ++ .ended :: first) output rest (by simp [heq])).quiet (by simp)
  released := hreleased

theorem orderly_run (h : Run (StepOf step) new events attempt) : Orderly attempt.outputs := by
  rcases started_run h with ⟨-, rfl⟩ | ⟨-, h | h⟩
  · refine .of_allowed (fun before output after heq => ?_) (armedAtReady_of_notMem ?_)
      fun hmem => ?_
    · simp [new] at heq
    · simp [new]
    · simp [new] at hmem
  · exact .of_allowed h.allowed h.armed fun hended => absurd hended h.unended
  · exact .of_allowed h.allowed h.armed fun _ => h.released

/-- Whatever happens to an attempt, and in whatever order: its outputs are orderly, and the first
`fail` or `close` after `start` finds it over or ends it, after which it does nothing at all. -/
theorem lifecycle (h : Run (StepOf step) new events attempt)
    (h' : Run (StepOf step) attempt later attempt') :
    Orderly attempt'.outputs ∧
      ∀ earlier event, events = earlier ++ [event] → .start ∈ earlier → Ends event →
        .ended ∈ attempt.outputs ∧ Released attempt.outputs ∧
          attempt'.outputs = attempt.outputs := by
  refine ⟨orderly_run (h.append h'), ?_⟩
  rintro earlier event rfl hstart hends
  obtain ⟨attempt₀, hrun, hs⟩ := h.last
  rcases started_run hrun with ⟨hnot, -⟩ | ⟨-, hstarted⟩
  · exact absurd hstart hnot
  · have hover := hstarted.over_of_ends hends hs
    exact ⟨hover.ended, hover.released, (hover.run h').2⟩

/-- The browser is closed on a car that was driven, and the client reports once more. -/
def drivenAndClosed : List (RideEvent Nat Nat) :=
  [.start, .sessionCreated ⟨"session-1"⟩ (.connects [.state (.route .direct) true] none true none),
    .markVideoLoadedData true, .close "browser closed session"]

theorem drivenAndClosed_lifecycle :
    ∃ attempt attempt' : RideConnectionAttempt Nat Nat,
      (RideOutput.loopArmed ∈ attempt.outputs ∧ RideOutput.ready .direct ∈ attempt.outputs) ∧
        Released attempt.outputs ∧ Orderly attempt'.outputs ∧
          attempt'.outputs = attempt.outputs := by
  have hrun : ∃ attempt : RideConnectionAttempt Nat Nat,
      runList RideConnectionAttempt.step new drivenAndClosed = some attempt :=
    ⟨_, rfl⟩
  obtain ⟨attempt, hattempt⟩ := hrun
  have hlate : ∃ attempt', runList RideConnectionAttempt.step attempt
      [.client (.stream 1), .fail "late"] = some attempt' := by
    cases hattempt
    exact ⟨_, rfl⟩
  obtain ⟨attempt', hattempt'⟩ := hlate
  obtain ⟨horderly, hends⟩ := lifecycle (run_of_runList hattempt) (run_of_runList hattempt')
  obtain ⟨-, hreleased, hsame⟩ :=
    hends (drivenAndClosed.take 3) (.close "browser closed session") rfl (by simp [drivenAndClosed])
      (.inr ⟨_, rfl⟩)
  refine ⟨attempt, attempt', ?_, hreleased, horderly, hsame⟩
  cases hattempt
  decide

end runs

end RideConnectionAttempt

end RcOnline.Web
