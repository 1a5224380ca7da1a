import RcOnline.Lib.Number
import RcOnline.Lib.Steps

/-!
# A ride connection attempt

`RideConnectionAttempt` of `apps/web/app/ride-connection-attempt.ts`: a pending session, a client
with its callbacks, a timer, and the page's own calls. Every call that an attempt makes is an entry
of `outputs`; beside them stand the moments that the properties are about (a route or a loaded video
was reported, the attempt ended).
-/

namespace RcOnline.Web

open RcOnline.Lib

structure StoredDriveSession where
  sessionId : String
  deriving DecidableEq

/-- The states of a client that are a route. -/
inductive RideRoute where
  | direct
  | turn
  | connected
  deriving DecidableEq

inductive RideConnectionState where
  | connecting
  | route (route : RideRoute)
  | disconnected
  deriving DecidableEq

structure RideBatteryTelemetry where
  batteryVoltage : Option Number
  batteryPercent : Option Number
  deriving DecidableEq

/-- The values that the telemetry is cleared with. -/
def clearedTelemetry : RideBatteryTelemetry where
  batteryVoltage := none
  batteryPercent := none

inductive LogTone where
  | default
  | success
  | danger
  deriving DecidableEq

inductive ConnectionLoadingStatus where
  | connecting
  | connected
  | failed
  deriving DecidableEq

/-- An entry without the time that it is stamped with. -/
structure ConnectionLogEntry where
  code : String
  message : String
  tone : LogTone
  deriving DecidableEq

structure RideConnectionSnapshot where
  activeStep : Nat
  entries : List ConnectionLogEntry
  errorMessage : String
  status : ConnectionLoadingStatus
  deriving DecidableEq

inductive RideConnectionProgress where
  | gatewayConnecting
  | gatewayConnected
  | sessionStarted
  | webrtcOfferSent
  | webrtcAnswerApplied
  | webrtcDirect
  | webrtcTurn
  | webrtcConnected
  | videoTrackReceived

structure ProgressDetail where
  step : Nat
  code : String
  message : String

def progressDetails : RideConnectionProgress → ProgressDetail
  | .gatewayConnecting => ⟨1, "NET", "Connecting to RC Mania gateway"⟩
  | .gatewayConnected => ⟨2, "NET", "Gateway connected"⟩
  | .sessionStarted => ⟨3, "SESSION", "Drive session started"⟩
  | .webrtcOfferSent => ⟨4, "WEBRTC", "Camera connection requested"⟩
  | .webrtcAnswerApplied => ⟨5, "WEBRTC", "Camera response received"⟩
  | .webrtcDirect => ⟨6, "WEBRTC", "Direct connection established"⟩
  | .webrtcTurn => ⟨6, "WEBRTC", "TURN fallback connection established"⟩
  | .webrtcConnected => ⟨6, "WEBRTC", "WebRTC connection established"⟩
  | .videoTrackReceived => ⟨7, "VIDEO", "Camera stream received"⟩

/-- A call of an attempt, or a moment in its life. -/
inductive RideOutput (Stream Stats : Type) where
  | timeoutSet
  | timeoutCleared
  | snapshot (snapshot : RideConnectionSnapshot)
  | session (session : StoredDriveSession)
  | clientCreated
  | loopCreated
  | channelsBound
  | stream (stream : Stream)
  | telemetry (telemetry : RideBatteryTelemetry)
  | videoStats (stats : Option Stats)
  | loopStarted
  | loopArmed
  | ready (route : RideRoute)
  | loopDisarmed (reason : String)
  | loopStopped
  | clientClosed (reason : String)
  | routeReported (route : RideRoute)
  | videoReported
  | ended
  deriving DecidableEq

/-- Whether `start` was called, and whether `createSession` has settled. -/
inductive StartPhase where
  | unstarted
  | creatingSession
  | settled
  deriving DecidableEq

/-- The fields of an attempt; a client, a loop and a timer are there or not. `wired` is set once the
client has its callbacks. -/
structure RideConnectionAttempt (Stream Stats : Type) where
  active : Bool
  isReady : Bool
  connectedRoute : Option RideRoute
  videoLoadedData : Bool
  activeStep : Nat
  entries : List ConnectionLogEntry
  client : Bool
  loop : Bool
  timeoutHandle : Bool
  hasBatteryTelemetry : Bool
  phase : StartPhase
  wired : Bool
  outputs : List (RideOutput Stream Stats)

/-- What a client reports; `canArm` is what `canArmControls` answers where it is asked. -/
inductive RideClientEvent (Stream Stats : Type) where
  | progress (progress : RideConnectionProgress)
  | state (state : RideConnectionState) (canArm : Bool)
  | stream (stream : Stream)
  | telemetry (telemetry : RideBatteryTelemetry)
  | videoStats (stats : Option Stats)
  | error (message : String)

/-- How the rest of `start` goes: what throws (an error's message, or something without one), or
what the client reports while it connects. -/
inductive RideSetup (Stream Stats : Type) where
  | sessionThrows (error : Option String)
  | clientThrows (error : Option String)
  | loopThrows (error : Option String)
  | connects (reports : List (RideClientEvent Stream Stats)) (connectError : Option (Option String))
      (channels : Bool) (bindError : Option (Option String))

inductive RideEvent (Stream Stats : Type) where
  | start
  | sessionCreated (session : StoredDriveSession) (setup : RideSetup Stream Stats)
  | sessionRejected (error : Option String)
  | client (event : RideClientEvent Stream Stats)
  | markVideoLoadedData (canArm : Bool)
  | timeout
  | fail (message : String)
  | close (reason : String)

namespace RideConnectionAttempt

variable {Stream Stats : Type}

def new : RideConnectionAttempt Stream Stats where
  active := false
  isReady := false
  connectedRoute := none
  videoLoadedData := false
  activeStep := 0
  entries := []
  client := false
  loop := false
  timeoutHandle := false
  hasBatteryTelemetry := false
  phase := .unstarted
  wired := false
  outputs := []

def emit (attempt : RideConnectionAttempt Stream Stats) (outputs : List (RideOutput Stream Stats)) :
    RideConnectionAttempt Stream Stats :=
  { attempt with outputs := attempt.outputs ++ outputs }

def append (attempt : RideConnectionAttempt Stream Stats) (code message : String)
    (tone : LogTone := .default) (status : ConnectionLoadingStatus := .connecting)
    (errorMessage : String := "") : RideConnectionAttempt Stream Stats :=
  let entries := attempt.entries ++ [⟨code, message, tone⟩]
  { attempt with entries }.emit [.snapshot ⟨attempt.activeStep, entries, errorMessage, status⟩]

def cancelTimeout (attempt : RideConnectionAttempt Stream Stats) :
    RideConnectionAttempt Stream Stats :=
  if attempt.timeoutHandle then { attempt with timeoutHandle := false }.emit [.timeoutCleared]
  else attempt

def clearBatteryTelemetry (attempt : RideConnectionAttempt Stream Stats) :
    RideConnectionAttempt Stream Stats :=
  if attempt.hasBatteryTelemetry then
    { attempt with hasBatteryTelemetry := false }.emit [.telemetry clearedTelemetry]
  else attempt

/-- What a loop and a client, if there are any, are told in the end. -/
def released (loop client : Bool) (reason : String) : List (RideOutput Stream Stats) :=
  .videoStats none :: (if loop then [.loopDisarmed reason, .loopStopped] else []) ++
    if client then [.clientClosed reason] else []

def teardown (attempt : RideConnectionAttempt Stream Stats) (reason : String) :
    RideConnectionAttempt Stream Stats :=
  { attempt with client := false, loop := false }.clearBatteryTelemetry.emit
    (released attempt.loop attempt.client reason)

def fail (attempt : RideConnectionAttempt Stream Stats) (message : String) :
    RideConnectionAttempt Stream Stats :=
  if !attempt.active then attempt
  else
    ({ attempt with active := false, isReady := false }.emit [.ended]).cancelTimeout.teardown
        "connection failed"
      |>.append "ERROR" message .danger .failed message

def close (attempt : RideConnectionAttempt Stream Stats) (reason : String) :
    RideConnectionAttempt Stream Stats :=
  if !attempt.active && !attempt.client && !attempt.loop then attempt
  else ({ attempt with active := false }.emit [.ended]).cancelTimeout.teardown reason

/-- How the loop is taken into use, and the page told of it. -/
def readied (canArm : Bool) (route : RideRoute) : List (RideOutput Stream Stats) :=
  if canArm then [.loopStarted, .loopArmed, .ready route] else [.loopStarted, .ready route]

def tryReady (attempt : RideConnectionAttempt Stream Stats) (canArm : Bool) :
    RideConnectionAttempt Stream Stats :=
  match attempt.connectedRoute with
  | none => attempt
  | some route =>
    if !attempt.active || attempt.isReady || !attempt.videoLoadedData || !attempt.loop then attempt
    else
      let attempt := { attempt with isReady := true }.cancelTimeout
      let attempt :=
        { attempt with activeStep := 7 }.append "READY" "Camera ready" .success .connected
      attempt.emit (readied canArm route)

def markVideoLoadedData (attempt : RideConnectionAttempt Stream Stats) (canArm : Bool) :
    RideConnectionAttempt Stream Stats :=
  if !attempt.active || attempt.isReady || attempt.videoLoadedData then attempt
  else
    let attempt :=
      { attempt with videoLoadedData := true, activeStep := max attempt.activeStep 7 }.emit
        [.videoReported]
    (attempt.append "VIDEO" "First camera frame decoded" .success).tryReady canArm

def handleProgress (attempt : RideConnectionAttempt Stream Stats)
    (progress : RideConnectionProgress) : RideConnectionAttempt Stream Stats :=
  if !attempt.active || attempt.isReady then attempt
  else
    let detail := progressDetails progress
    { attempt with activeStep := max attempt.activeStep detail.step }.append detail.code
      detail.message

/-- `client.onState`. -/
def onState (attempt : RideConnectionAttempt Stream Stats) (state : RideConnectionState)
    (canArm : Bool) : RideConnectionAttempt Stream Stats :=
  if !attempt.active then attempt
  else
    match state with
    | .route route =>
      ({ attempt with connectedRoute := some route }.emit [.routeReported route]).tryReady canArm
    | .disconnected => attempt.clearBatteryTelemetry.fail "Camera connection was interrupted"
    | .connecting => attempt

/-- The callbacks of the client. -/
def onClient (attempt : RideConnectionAttempt Stream Stats) :
    RideClientEvent Stream Stats → RideConnectionAttempt Stream Stats
  | .progress progress => attempt.handleProgress progress
  | .state state canArm => attempt.onState state canArm
  | .stream stream => if attempt.active then attempt.emit [.stream stream] else attempt
  | .telemetry telemetry =>
    if !attempt.active then attempt
    else
      { attempt with
        hasBatteryTelemetry :=
          telemetry.batteryVoltage.isSome || telemetry.batteryPercent.isSome }.emit
        [.telemetry telemetry]
  | .videoStats stats => if attempt.active then attempt.emit [.videoStats stats] else attempt
  | .error message => attempt.clearBatteryTelemetry.fail message

/-- `error instanceof Error ? error.message : …`. -/
def failWith (attempt : RideConnectionAttempt Stream Stats) (error : Option String) :
    RideConnectionAttempt Stream Stats :=
  attempt.fail (error.getD "Could not connect to the car")

def start (attempt : RideConnectionAttempt Stream Stats) : RideConnectionAttempt Stream Stats :=
  if attempt.active then attempt
  else
    let attempt :=
      { attempt with active := true, phase := .creatingSession }.append "SESSION"
        "Creating drive session"
    { attempt with timeoutHandle := true }.emit [.timeoutSet]

/-- The rest of `start` after the client and the loop were created. -/
def connect (attempt : RideConnectionAttempt Stream Stats)
    (reports : List (RideClientEvent Stream Stats)) (connectError : Option (Option String))
    (channels : Bool) (bindError : Option (Option String)) : RideConnectionAttempt Stream Stats :=
  let attempt := reports.foldl onClient attempt
  match connectError with
  | some error => attempt.failWith error
  | none =>
    if !channels then attempt.fail "Control channels could not be created"
    else
      match bindError with
      | some error => attempt.failWith error
      | none => attempt.emit [.channelsBound]

/-- The rest of `start` after `createSession`. -/
def sessionCreated (attempt : RideConnectionAttempt Stream Stats) (session : StoredDriveSession)
    (setup : RideSetup Stream Stats) : RideConnectionAttempt Stream Stats :=
  let attempt := { attempt with phase := .settled }
  if !attempt.active then attempt
  else
    let attempt := attempt.emit [.session session]
    match setup with
    | .sessionThrows error => attempt.failWith error
    | .clientThrows error => attempt.failWith error
    | .loopThrows error => (attempt.emit [.clientCreated]).failWith error
    | .connects reports connectError channels bindError =>
      ({ attempt with client := true, loop := true, wired := true }.emit
        [.clientCreated, .loopCreated]).connect reports connectError channels bindError

/-- `start` is called once; a client reports once it has its callbacks, and a timer that was cleared
does not fire. -/
def step (attempt : RideConnectionAttempt Stream Stats) :
    RideEvent Stream Stats → Option (RideConnectionAttempt Stream Stats)
  | .start => if attempt.phase = .unstarted then some attempt.start else none
  | .sessionCreated session setup =>
    if attempt.phase = .creatingSession then some (attempt.sessionCreated session setup) else none
  | .sessionRejected error =>
    if attempt.phase = .creatingSession then
      some ({ attempt with phase := .settled }.failWith error)
    else none
  | .client event => if attempt.wired then some (attempt.onClient event) else none
  | .markVideoLoadedData canArm => some (attempt.markVideoLoadedData canArm)
  | .timeout =>
    if attempt.timeoutHandle then some (attempt.fail "Camera connection timed out") else none
  | .fail message => some (attempt.fail message)
  | .close reason => some (attempt.close reason)

end RideConnectionAttempt

end RcOnline.Web
