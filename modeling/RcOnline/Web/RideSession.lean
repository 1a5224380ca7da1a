import RcOnline.Gateway.Protocol
import RcOnline.Lib.Coercion
import RcOnline.Lib.Host
import RcOnline.Lib.Polling
import RcOnline.Web.ControlLoop
import RcOnline.Web.RideConnection
import RcOnline.Web.VideoQuality
import RcOnline.Web.VideoStats

/-!
# The browser's end of a drive session

`RideSessionClient` of `apps/web/app/ride-session-client.ts`: the socket to the gateway, the peer
connection to the car, the optional `video-quality` channel and the loop that samples the received
video. What awaits an answer (a description, the statistics, a timer) is part of the state, and a
step takes any one of these answers. The sampler of the received video has exact arithmetic
(`VideoStatsSampler`), so the measurements of a log are rationals that the host would round.
Everything that a client sends or reports is an entry of `log`; its callbacks do not call the client
back.
-/

namespace RcOnline.Web

open RcOnline.Lib RcOnline.Schema RcOnline.Gateway

/-- `RTCPeerConnectionState`. -/
inductive PeerState where
  | new
  | connecting
  | connected
  | disconnected
  | failed
  | closed
  deriving DecidableEq

inductive IceTransportPolicy where
  | all
  | relay
  deriving DecidableEq

structure MediaTrack where
  id : Nat
  isVideo : Bool
  deriving DecidableEq

namespace RideSessionClient

/-- `StoredDriveSession`, as far as the client reads it. -/
structure StoredDriveSession where
  sessionId : Uuid
  ticket : String
  gatewayUrl : String
  iceServers : List IceServer
  iceTransportPolicy : IceTransportPolicy

/-- What a client sends or reports. -/
inductive Output where
  | peerCreated (iceServers : List IceServer) (iceTransportPolicy : IceTransportPolicy)
  | socketCreated (url : String)
  | sent (message : ClientMessage)
  | requested (profile : VideoProfile)
  | progress (event : RideConnectionProgress)
  | state (state : RideConnectionState)
  | stream (tracks : List MediaTrack)
  | telemetry (batteryVoltage : Option Number) (batteryPercent : Option Int)
  | videoStats (stats : Option VideoStatsSampler.VideoStreamStats)
  | error (message : String)

/-- What a message of the gateway waits for. -/
inductive Handler where
  | creatingOffer
  | settingLocalDescription
  | settingRemoteDescription
  | addingIceCandidate
  deriving DecidableEq

end RideSessionClient

/-- The fields of a client, and what its callbacks wait for. `channels` stands for the two control
channels, `tracks` for the tracks of the combined stream. -/
structure RideSessionClient where
  session : RideSessionClient.StoredDriveSession
  socket : Option ReadyState
  peer : Option PeerState
  tracks : List MediaTrack
  channels : Bool
  closed : Bool
  connectedReported : Bool
  controlFailed : Bool
  videoQuality : Option ChannelId
  quality : QualityClient
  videoSampler : VideoStatsSampler
  /-- `#statsTimer`, `#statsGeneration` and `#statsRunning`, with what the loop waits for. -/
  stats : Polling
  /-- The calls of `detectConnectionRoute` that have not settled. -/
  detecting : Nat
  handlers : List RideSessionClient.Handler
  log : List RideSessionClient.Output

namespace RideSessionClient

def newSampler : VideoStatsSampler := { previous := none, candidates := ∅ }

def new (session : StoredDriveSession) : RideSessionClient where
  session := session
  socket := none
  peer := none
  tracks := []
  channels := false
  closed := false
  connectedReported := false
  controlFailed := false
  videoQuality := none
  quality := .new
  videoSampler := newSampler
  stats := .idle
  detecting := 0
  handlers := []
  log := []

variable (client : RideSessionClient)

def emit (outputs : List Output) : RideSessionClient := { client with log := client.log ++ outputs }

/-- `#send`. -/
def send (message : ClientMessage) : RideSessionClient :=
  if client.socket = some .opened then client.emit [.sent message] else client

/-! ## The sampling loop -/

def startVideoStats : RideSessionClient :=
  if client.closed || client.controlFailed then client
  else { client with stats := client.stats.start }

def stopVideoStats : RideSessionClient :=
  { client with stats := client.stats.stop, videoSampler := newSampler }.emit [.videoStats none]

/-- Whether the loop of a generation goes on. -/
def current (generation : Nat) : Bool :=
  !client.closed && !client.controlFailed && generation = client.stats.generation &&
    client.peer = some .connected

/-! ## The video quality channel -/

/-- What `#canNegotiateQuality` reads of the page and of the channel. -/
structure Negotiation where
  visible : Bool
  channelOpen : Bool
  bufferedAmount : Nat

def canNegotiateQuality (negotiation : Negotiation) : Bool :=
  !client.closed && !client.controlFailed && client.peer = some .connected &&
    negotiation.visible && client.videoQuality.isSome && negotiation.channelOpen &&
    negotiation.bufferedAmount < 2048

/-- What the model leaves to the host and to the gateway's choice of identifiers. -/
structure ClientHost where
  /-- `JSON.parse`; none where it throws. -/
  parseJson : String → Option Json
  numberText : Number → String
  uuidText : Uuid → String

def videoProfileOf (name : String) : Option VideoProfile :=
  match name with
  | "720p60" => some .p720p60
  | "720p30" => some .p720p30
  | "540p30" => some .p540p30
  | "360p30" => some .p360p30
  | "240p30" => some .p240p30
  | _ => none

def profileField : Json → Option VideoProfile
  | .string name => videoProfileOf name
  | _ => none

/-- `Object.keys(message).sort().join() === names`. -/
def hasKeys (message : Json) (names : String) : Bool :=
  ((message.record?.getD []).map Prod.fst).mergeSort (fun a b => decide (a ≤ b)) |> fun keys =>
    ",".intercalate keys = names

/-- A number or null. -/
def estimateField : Json → Option (Option Number)
  | .null => some none
  | .number x => some (some x)
  | _ => none

/-- A message of the car that is of the session and has the shape of its type. -/
def readCarMessage (host : ClientHost) (sessionId : Uuid) (message : Json) : Option CarMessage :=
  let isField name value := Json.strictEquals (message.field? name) (some value)
  if !isField "v" (.number (.ofInt 1)) ||
      !isField "sessionId" (.string (host.uuidText sessionId)) then none
  else if isField "type" (.string "video.capabilities") then
    if !hasKeys message "profile,profiles,sessionId,type,v" then none
    else
      match message.field? "profiles", (message.field? "profile").bind profileField with
      | some (.array items), some profile =>
        (items.mapM profileField).map fun profiles => .capabilities profiles profile
      | _, _ => none
  else if isField "type" (.string "video.profile.applied") then
    if !hasKeys message "profile,sessionId,type,v" then none
    else ((message.field? "profile").bind profileField).map .applied
  else if isField "type" (.string "video.bandwidth") then
    if !hasKeys message "estimatedBitrateBps,sampleAgeMs,sessionId,type,v" then none
    else do
      let bps ← (message.field? "estimatedBitrateBps").bind estimateField
      let ageMs ← (message.field? "sampleAgeMs").bind estimateField
      some (.bandwidth bps ageMs)
  else none

/-- What the quality channel sends; where `send` throws, nothing goes out. -/
def ask (sendThrows : Bool) (answer : Option VideoProfile × QualityClient) : RideSessionClient :=
  { client with quality := answer.2 }.emit
    (if sendThrows then [] else answer.1.toList.map .requested)

def bindVideoQuality (channel : ChannelId) (label : String) : RideSessionClient :=
  if client.closed || label ≠ "video-quality" || client.videoQuality.isSome then client
  else { client with videoQuality := some channel }

/-- `channel.onclose` of a quality channel. -/
def qualityClosed (channel : ChannelId) : RideSessionClient :=
  if client.videoQuality ≠ some channel then client
  else { client with videoQuality := none, quality := .new }

/-- `channel.onmessage` of a quality channel; data that is not a text is none. -/
def qualityMessage (host : ClientHost) (channel : ChannelId) (data : Option String)
    (negotiation : Negotiation) (sendThrows : Bool) (now : ℚ) : RideSessionClient :=
  if client.closed || client.videoQuality ≠ some channel then client
  else
    match data.filter (utf16Length · ≤ 2048) with
    | none => client
    | some text =>
      match (host.parseJson text).bind (readCarMessage host client.session.sessionId) with
      | none => client
      | some message =>
        client.ask sendThrows (client.quality.onMessage (client.canNegotiateQuality negotiation)
          (.finite now) message)

/-- The measurements as the policy reads them. -/
def policyStats (stats : VideoStatsSampler.VideoStreamStats) : VideoStreamStats where
  fps := stats.fps.map .finite
  rttMs := stats.rttMs.map .finite
  jitterMs := stats.jitterMs.map .finite
  lossRatio := stats.lossRatio.map .finite
  jitterBufferMs := stats.jitterBufferMs.map .finite
  stalled := stats.stalled

/-- A sample that could not be taken. -/
def sampleFailed : RideSessionClient :=
  { client with videoSampler := newSampler }.emit [.videoStats none]

/-- A sample of the received video; where asking for a profile throws, it counts as failed. -/
def measure (host : ClientHost) (report : List StatsEntry) (negotiation : Negotiation)
    (sendThrows : Bool) (now : ℚ) : RideSessionClient :=
  let (stats, videoSampler) := client.videoSampler.sample host.numberText report
  let answer := client.quality.onSample (client.canNegotiateQuality negotiation) (.finite now)
    (policyStats stats)
  let asked := ({ client with videoSampler }.emit [.videoStats (some stats)]).ask sendThrows answer
  if sendThrows && answer.1.isSome then asked.sampleFailed else asked

/-- What is made of the statistics; none where `getStats` rejects. -/
def sampled (host : ClientHost) (report : Option (List StatsEntry)) (negotiation : Negotiation)
    (sendThrows : Bool) (now : ℚ) : RideSessionClient :=
  match report with
  | none => client.sampleFailed
  | some report => client.measure host report negotiation sendThrows now

/-- The rest of `sample` once `getStats` has settled. -/
def statsSettled (host : ClientHost) (place generation : Nat) (report : Option (List StatsEntry))
    (negotiation : Negotiation) (sendThrows : Bool) (now : ℚ) : RideSessionClient :=
  if client.current generation then
    { client.sampled host report negotiation sendThrows now with
      stats := client.stats.settle place true }
  else { client with stats := client.stats.settle place false }

/-! ## The route -/

/-- `detectConnectionRoute` of a report, with the key of each entry; none where `getStats`
rejects. -/
def detectConnectionRoute (report : Option (List (String × StatsEntry))) : RideRoute :=
  match report with
  | none => .connected
  | some report =>
    let stats : OrdMap String StatsEntry := report.foldl (fun stats (key, entry) =>
      stats.set ((entry "id").string?.getD key) entry) ∅
    let values := stats.entries.map Prod.snd
    let selectedPairId := (values.find? fun value => (value "type").isText "transport" &&
      (value "selectedCandidatePairId").string?.isSome).bind fun value =>
        (value "selectedCandidatePairId").string?
    let pair :=
      match selectedPairId.filter (· ≠ "") with
      | some id => stats.get? id
      | none => values.find? fun value => (value "type").isText "candidate-pair" &&
          (value "state").isText "succeeded" &&
          ((value "selected").isBool true || (value "nominated").isBool true)
    match pair with
    | none => .connected
    | some pair =>
      let candidate name := (pair name).string?.bind stats.get?
      let candidateTypes := [candidate "localCandidateId", candidate "remoteCandidateId"].filterMap
        fun entry => entry.bind fun entry => (entry "candidateType").string?
      if "relay" ∈ candidateTypes then .turn
      else if candidateTypes.isEmpty then .connected
      else .direct

def routeProgress : RideRoute → RideConnectionProgress
  | .direct => .webrtcDirect
  | .turn => .webrtcTurn
  | .connected => .webrtcConnected

/-- The rest of `#reportConnectedRoute`. -/
def routeDetected (report : Option (List (String × StatsEntry))) : RideSessionClient :=
  if client.closed || client.controlFailed || client.peer ≠ some .connected then client
  else
    let route := detectConnectionRoute report
    client.emit [.progress (routeProgress route), .state (.route route)]

/-! ## The connection -/

/-- Whether `createPeer` or `createSocket` throws. -/
inductive ConnectSetup where
  | peerThrows
  | socketThrows
  | connects

/-- A peer with its control channels and an empty stream. -/
def createPeer : RideSessionClient :=
  { client with peer := some .new, channels := true }.emit
    [.peerCreated client.session.iceServers client.session.iceTransportPolicy]

def createSocket : RideSessionClient :=
  { client with socket := some .connecting }.emit [.socketCreated client.session.gatewayUrl]

def connect (setup : ConnectSetup) : RideSessionClient :=
  if client.socket.isSome || client.closed then client
  else
    match setup with
    | .peerThrows => client.emit [.state .connecting, .progress .gatewayConnecting]
    | .socketThrows =>
      (client.emit [.state .connecting, .progress .gatewayConnecting]).createPeer
    | .connects =>
      (client.emit [.state .connecting, .progress .gatewayConnecting]).createPeer.createSocket

/-- `socket.close()`. -/
def closeSocket : ReadyState → ReadyState
  | .closed => .closed
  | _ => .closing

/-- What a client closes in the end, its channels included. -/
def release : RideSessionClient :=
  { client with
    videoQuality := none
    peer := client.peer.map fun _ => .closed
    socket := client.socket.map closeSocket }

def close (reason : String) : RideSessionClient :=
  if client.closed then client
  else
    { client.send (.relay (.sessionEnd client.session.sessionId reason)) with
      closed := true }.stopVideoStats.release.emit [.state .disconnected]

/-- `controlFailed`: a control channel closes or fails. -/
def onControlFailed : RideSessionClient :=
  if client.closed || client.controlFailed then client
  else
    { client with controlFailed := true }.stopVideoStats.emit
      [.error "Car control connection lost. Please reconnect.", .state .disconnected]

/-- The car is connected; the gateway is told once. -/
def reportConnected : RideSessionClient :=
  if client.connectedReported then client
  else
    { client with connectedReported := true }.send (.sessionConnected client.session.sessionId)

def onConnected : RideSessionClient :=
  if client.closed || client.controlFailed then client
  else { client.reportConnected with detecting := client.detecting + 1 }.startVideoStats

def onDisconnected : RideSessionClient := client.stopVideoStats.emit [.state .disconnected]

/-- `peer.onconnectionstatechange`. -/
def onConnectionState (state : PeerState) : RideSessionClient :=
  match state with
  | .connected => { client with peer := some state }.onConnected
  | .failed | .closed | .disconnected => { client with peer := some state }.onDisconnected
  | .new | .connecting => { client with peer := some state }

/-- The stream, once it has video. -/
def publishStream : RideSessionClient :=
  if client.tracks.any (·.isVideo) then client.emit [.stream client.tracks] else client

def addTrack (track : MediaTrack) : RideSessionClient :=
  if track ∈ client.tracks then client else { client with tracks := client.tracks ++ [track] }

def reportTrack (track : MediaTrack) : RideSessionClient :=
  if track.isVideo then client.emit [.progress .videoTrackReceived] else client

/-- `peer.ontrack`. -/
def onTrack (track : MediaTrack) : RideSessionClient :=
  if client.closed then client
  else ((client.addTrack track).reportTrack track).publishStream

def removeTrack (track : MediaTrack) : RideSessionClient :=
  { client with tracks := client.tracks.erase track }

/-- A track of the stream ends. -/
def onTrackEnded (track : MediaTrack) : RideSessionClient :=
  if client.closed then client.removeTrack track
  else (client.removeTrack track).publishStream

/-! ## Messages of the gateway -/

/-- The first part of `#handleMessage`, up to the first answer it waits for; a message that does not
parse is the text of its error. -/
def handleMessage (message : Except String ServerMessage) : RideSessionClient :=
  let sessionId := client.session.sessionId
  let unexpected := client.emit [.error "Unexpected session"]
  match message with
  | .error text => client.emit [.error text]
  | .ok (.error _ text) => client.emit [.error text]
  | .ok (.authRejected reason) => client.emit [.error reason]
  | .ok (.deviceTelemetry id batteryVoltage batteryPercent) =>
    if id ≠ sessionId then unexpected
    else client.emit [.telemetry batteryVoltage batteryPercent]
  | .ok (.sessionStart id _ _ _) =>
    if id ≠ sessionId then unexpected
    else
      { client with handlers := client.handlers ++ [Handler.creatingOffer] }.emit
        [.progress .sessionStarted]
  | .ok (.relay (.signalAnswer id _)) =>
    if id ≠ sessionId then unexpected
    else { client with handlers := client.handlers ++ [.settingRemoteDescription] }
  | .ok (.relay (.signalIce id _ _ _)) =>
    if id ≠ sessionId then unexpected
    else { client with handlers := client.handlers ++ [.addingIceCandidate] }
  | .ok (.relay (.sessionEnd _ reason)) => client.close reason
  | .ok _ => client

/-- What the rest of a handler meets: an answer (the text of the local description, where one was
set), or an error with its message. -/
inductive Settlement where
  | resolves (localDescription : Option String)
  | rejects (error : Option String)

/-- The next part of a handler that has its answer. -/
def settle (handler : Handler) (settlement : Settlement) : RideSessionClient :=
  match handler, settlement with
  | _, .rejects error => client.emit [.error (error.getD "Invalid gateway message")]
  | .creatingOffer, .resolves _ =>
    { client with handlers := client.handlers ++ [.settingLocalDescription] }
  | .settingLocalDescription, .resolves localDescription =>
    match localDescription.filter (· ≠ "") with
    | none => client.emit [.error "WebRTC offer has no SDP"]
    | some sdp =>
      (client.send (.relay (.signalOffer client.session.sessionId sdp))).emit
        [.progress .webrtcOfferSent]
  | .settingRemoteDescription, .resolves _ => client.emit [.progress .webrtcAnswerApplied]
  | .addingIceCandidate, .resolves _ => client

end RideSessionClient

/-! ## Steps -/

open RideSessionClient in
/-- An event of the page, the socket, the peer connection or one of its channels, or an answer. -/
inductive RideSessionEvent where
  | connect (setup : ConnectSetup)
  | close (reason : String)
  | socketOpened
  | socketMessage (message : Except String ServerMessage)
  | socketFailed
  | socketClosed
  | connectionState (state : PeerState)
  | iceCandidate (candidate : Option String) (sdpMid : Option String) (sdpMLineIndex : Option Int)
  | track (track : MediaTrack)
  | trackEnded (track : MediaTrack)
  | controlFailed
  | dataChannel (channel : ChannelId) (label : String)
  | qualityClosed (channel : ChannelId)
  | qualityMessage (channel : ChannelId) (data : Option String) (negotiation : Negotiation)
    (sendThrows : Bool) (now : ℚ)
  | statsTimer (handle : Nat)
  | statsSettled (place : Nat) (report : Option (List StatsEntry)) (negotiation : Negotiation)
    (sendThrows : Bool) (now : ℚ)
  | routeDetected (report : Option (List (String × StatsEntry)))
  | settled (place : Nat) (settlement : Settlement)

namespace RideSessionClient

/-- A socket reports in the states that it can; once it is closing, no message arrives. A peer
connection that was closed reports nothing, and a client whose socket could not be created is not
connected again. -/
def step (host : ClientHost) (client : RideSessionClient) :
    RideSessionEvent → Option RideSessionClient
  | .connect setup =>
    if client.peer.isSome && client.socket.isNone then none else some (client.connect setup)
  | .close reason => some (client.close reason)
  | .socketOpened =>
    if client.socket = some .connecting then
      some ({ client with socket := some .opened }.emit
        [.progress .gatewayConnected, .sent (.browserAuthenticate client.session.ticket)])
    else none
  | .socketMessage message =>
    if client.socket = some .opened then some (client.handleMessage message) else none
  | .socketFailed =>
    if client.socket.isSome then some (client.emit [.error "Gateway connection failed"]) else none
  | .socketClosed =>
    if client.socket.isSome && client.socket ≠ some .closed then
      some ({ client with socket := some .closed }.emit [.state .disconnected])
    else none
  | .connectionState state =>
    if client.peer.isSome && client.peer ≠ some .closed then
      some (client.onConnectionState state)
    else none
  | .iceCandidate candidate sdpMid sdpMLineIndex =>
    if client.peer.isNone then none
    else if candidate.isNone then some client
    else
      some (client.send
        (.relay (.signalIce client.session.sessionId candidate sdpMid sdpMLineIndex)))
  | .track track => if client.peer.isSome then some (client.onTrack track) else none
  | .trackEnded track => if track ∈ client.tracks then some (client.onTrackEnded track) else none
  | .controlFailed => if client.channels then some client.onControlFailed else none
  | .dataChannel channel label =>
    if client.peer.isSome then some (client.bindVideoQuality channel label) else none
  | .qualityClosed channel => some (client.qualityClosed channel)
  | .qualityMessage channel data negotiation sendThrows now =>
    some (client.qualityMessage host channel data negotiation sendThrows now)
  | .statsTimer handle => (client.stats.fire handle).map fun stats => { client with stats }
  | .statsSettled place report negotiation sendThrows now =>
    client.stats.polls[place]?.map fun generation =>
      client.statsSettled host place generation report negotiation sendThrows now
  | .routeDetected report =>
    if client.detecting = 0 then none
    else some ({ client with detecting := client.detecting - 1 }.routeDetected report)
  | .settled place settlement =>
    client.handlers[place]?.map fun handler =>
      { client with handlers := client.handlers.eraseIdx place }.settle handler settlement

end RideSessionClient

end RcOnline.Web
