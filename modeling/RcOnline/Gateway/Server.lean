import RcOnline.Gateway.Sessions
import RcOnline.Gateway.Store

/-!
# The gateway server

The `/v1/socket` connections of `createGatewayServer` (`apps/gateway/src/server.ts`). A handler runs
until it awaits a store call; it goes on when the call's reply comes, and any other event may come
before. So a connection keeps the variables that its handlers share, and a handler that waits keeps
its call and what it does next (`Continuation`), reading the shared variables again when it goes on.
-/

namespace RcOnline.Gateway

open RcOnline.Lib RcOnline.Schema

/-! ## State -/

/-- `BrowserTicketPayload`, as far as it is used. -/
structure BrowserTicket where
  sub : Uuid
  carId : Uuid
  sessionId : Uuid
  deriving DecidableEq

/-- What the server computes with its secrets and configuration. -/
structure GatewayConfig where
  /-- `hashOpaqueSecret(secret, config.deviceAuthPepper)`. -/
  hashOpaqueSecret : String → String
  /-- `verifyBrowserTicket(ticket, config.browserTicketSecret)`; none when it throws. -/
  verifyBrowserTicket : String → Int → Option BrowserTicket
  /-- `createGatewayIceServers(config, sessionId, now)`; none when it throws. -/
  iceServers : Uuid → Int → Option (List IceServer)

/-- The variables of one connection; `isOpen` is `readyState === OPEN`. -/
structure Connection where
  authenticatedDevice : Option AuthenticatedDevice
  authenticatedSessionId : Option Uuid
  closed : Bool
  isOpen : Bool
  timeoutArmed : Bool
  deriving DecidableEq

/-- A call of the store. -/
inductive StoreRequest where
  | authenticateDevice (deviceId : Uuid) (suppliedHash agentVersion : String)
    (capabilities : DeviceCapabilities) (now : Int)
  | claimPendingUpdate (deviceId : Uuid) (runtimeGeneration : Int) (now : Int)
  | recordUpdateStatus (deviceId updateId : Uuid) (status : UpdateProgressStatus)
    (reason : Option String) (now : Int)
  | recordHeartbeat (deviceId : Uuid) (health : DeviceHealth) (now : Int)
  | setPresenceState (deviceId : Uuid) (state : PresenceState) (now : Int)
  | markDeviceOffline (deviceId : Uuid) (now : Int)
  | authorizeDriveSession (sessionId userId carId : Uuid) (now : Int)
  | markDriveSessionActive (sessionId : Uuid) (now : Int)
  | endDriveSession (sessionId : Uuid) (reason : String) (now : Int)
  deriving DecidableEq

/-- Where a handler goes on. -/
inductive Continuation where
  | authenticated
  | offered (device : AuthenticatedDevice)
  | authorized (ticket : BrowserTicket)
  | unattached
  | heartbeatRecorded (deviceId : Uuid) (health : DeviceHealth) (now : Int)
  | presenceSet (health : DeviceHealth)
  | statusRecorded
  /-- The session of a relayed `session.end` has been ended. -/
  | relayed
  | markedActive (now : Int)
  | unconnected
  /-- The close handler has ended the session of its device. -/
  | deviceGone
  /-- The close handler has disconnected its device. -/
  | offline
  /-- The close handler has ended its session. -/
  | browserGone
  deriving DecidableEq

/-- A handler that awaits a call. -/
structure Handler where
  socket : Peer
  call : StoreRequest
  next : Continuation
  deriving DecidableEq

/-- What a store call resolves to, or that it rejects. -/
inductive Reply where
  | rejects
  | done
  | device (device : Option AuthenticatedDevice)
  | offer (offer : Option DeviceUpdateOffer)
  | authorized (expiresAt : Option Int)
  | heartbeat (adminBlocked : Option Bool)
  | accepted (accepted : Bool)
  deriving DecidableEq

structure Server where
  connections : OrdMap Peer Connection
  devices : OrdMap Uuid Peer
  browserPings : OrdMap Peer (Option ℚ)
  sessions : SessionRegistry
  handlers : OrdMap Nat Handler
  /-- What has been written to open sockets. -/
  sent : List (Peer × ServerMessage)

/-- What can happen next; a handler goes by the number that it is given at its start. -/
inductive Event where
  | connect (socket : Peer)
  /-- A message; none when it is binary or does not parse. -/
  | message (socket : Peer) (number : Nat) (message : Option ClientMessage) (now : Int)
  | reply (number : Nat) (reply : Reply) (now : Int)
  | pong (socket : Peer)
  /-- The peer has begun to close, or the connection is lost. -/
  | closing (socket : Peer)
  | close (socket : Peer) (number : Nat) (now : Int)
  | authenticationTimeout (socket : Peer)
  | sweep (now : Int)
  /-- The ping timer; the sockets for which `socket.ping()` throws. -/
  | pingBrowsers (now : ℚ) (failing : List Peer)

namespace Server

def empty : Server :=
  { connections := ∅, devices := ∅, browserPings := ∅, sessions := .empty, handlers := ∅
    sent := [] }

variable (config : GatewayConfig) (s : Server)

def updateConnection (socket : Peer) (f : Connection → Connection) : Server :=
  match s.connections.get? socket with
  | none => s
  | some connection => { s with connections := s.connections.set socket (f connection) }

def authenticatedDevice (socket : Peer) : Option AuthenticatedDevice :=
  (s.connections.get? socket).bind (·.authenticatedDevice)

def authenticatedSessionId (socket : Peer) : Option Uuid :=
  (s.connections.get? socket).bind (·.authenticatedSessionId)

/-- `closed`; none for a socket that never connected. -/
def closed? (socket : Peer) : Option Bool := (s.connections.get? socket).map (·.closed)

def isOpen (socket : Peer) : Bool := (s.connections.get? socket).any (·.isOpen)

/-- One `send` or `close`: a message is dropped unless the socket is open. -/
def act : PeerAction → Server
  | .send peer message =>
    if s.isOpen peer then { s with sent := s.sent ++ [(peer, message)] } else s
  | .close peer _ _ => s.updateConnection peer fun connection => { connection with isOpen := false }

def perform (actions : List PeerAction) : Server := actions.foldl act s

/-! ## Handlers -/

def await (number : Nat) (socket : Peer) (call : StoreRequest) (next : Continuation) : Server :=
  { s with handlers := s.handlers.set number { socket, call, next } }

def finish (number : Nat) : Server := { s with handlers := s.handlers.delete number }

/-- The handler throws: its `catch`. -/
def fail (number : Nat) (socket : Peer) : Server :=
  (s.perform [.send socket (.error "invalid_message" "Malformed or invalid gateway message"),
    .close socket 4400 "invalid message"]).finish number

def reject (number : Nat) (socket : Peer) (reason : String) (code : Nat) (closeReason : String) :
    Server :=
  (s.perform [.send socket (.authRejected reason), .close socket code closeReason]).finish number

def offerPendingUpdate (number : Nat) (socket : Peer) (device : AuthenticatedDevice) (now : Int) :
    Server :=
  match device.capabilities.otaRuntimeGeneration with
  | none => s.finish number
  | some runtimeGeneration =>
    if s.sessions.hasActiveCar device.carId then s.finish number
    else
      s.await number socket (.claimPendingUpdate device.deviceId runtimeGeneration now)
        (.offered device)

def endDriveSession (number : Nat) (socket : Peer) (sessionId : Uuid) (reason : String) (now : Int)
    (next : Continuation) : Server :=
  s.await number socket (.endDriveSession sessionId reason now) next

/-- A message on a connection that has not been authenticated. -/
def authenticate (number : Nat) (socket : Peer) (message : ClientMessage) (now : Int) : Server :=
  match message with
  | .deviceAuthenticate deviceId secret agentVersion capabilities =>
    s.await number socket
      (.authenticateDevice deviceId (config.hashOpaqueSecret secret) agentVersion
        (capabilities.getD { controlProtocolVersion := none, otaRuntimeGeneration := none }) now)
      .authenticated
  | .browserAuthenticate ticket =>
    match config.verifyBrowserTicket ticket now with
    | none => s.fail number socket
    | some ticket =>
      s.await number socket (.authorizeDriveSession ticket.sessionId ticket.sub ticket.carId now)
        (.authorized ticket)
  | _ => s.reject number socket "authentication required" 4401 "authentication required"

/-- What follows a relayed message: the session of a `session.end` ends in the store too. -/
def afterRelay (number : Nat) (socket : Peer) (message : RelayMessage) (now : Int)
    (result : Bool × SessionRegistry × List PeerAction) : Server :=
  match result with
  | (false, _, _) => s.fail number socket
  | (true, sessions, actions) =>
    let s := { s with sessions }.perform actions
    match message with
    | .sessionEnd sessionId reason =>
      s.endDriveSession number socket sessionId reason now .relayed
    | _ => s.finish number

/-- A message on an authenticated connection. -/
def receive (number : Nat) (socket : Peer) (message : ClientMessage) (now : Int) : Server :=
  match s.authenticatedDevice socket, s.authenticatedSessionId socket, message with
  | some device, _, .deviceHeartbeat health =>
    s.await number socket (.recordHeartbeat device.deviceId health now)
      (.heartbeatRecorded device.deviceId health now)
  | some device, _, .deviceUpdateStatus updateId status reason =>
    s.await number socket (.recordUpdateStatus device.deviceId updateId status reason now)
      .statusRecorded
  | some device, _, .relay message =>
    s.afterRelay number socket message now (s.sessions.relayFromDevice device.carId message)
  | none, some sessionId, .relay message =>
    s.afterRelay number socket message now (s.sessions.relayFromBrowser sessionId message)
  | _, some sessionId, .sessionConnected connected =>
    if connected = sessionId then
      s.await number socket (.markDriveSessionActive sessionId now) (.markedActive now)
    else s.fail number socket
  | _, _, _ =>
    (s.perform [.send socket
      (.error "unsupported_message" "Message is not valid for this connection")]).finish number

def onMessage (number : Nat) (socket : Peer) (message : Option ClientMessage) (now : Int) :
    Server :=
  match message with
  | none => s.fail number socket
  | some message =>
    if s.authenticatedDevice socket = none ∧ s.authenticatedSessionId socket = none then
      s.authenticate config number socket message now
    else s.receive number socket message now

/-- A device takes its place in the maps, under this socket. -/
def registerDevice (socket : Peer) (device : AuthenticatedDevice) : Server :=
  let s := s.updateConnection socket fun connection =>
    { connection with authenticatedDevice := some device, timeoutArmed := false }
  { s with
    devices := s.devices.set device.deviceId socket
    sessions := (s.sessions.attachDevice device.carId device.deviceId socket).1 }

/-- `authenticateDevice` has replied. -/
def onAuthenticated (number : Nat) (socket : Peer) (device : Option AuthenticatedDevice)
    (now : Int) : Server :=
  match device with
  | none =>
    (s.updateConnection socket fun connection =>
      { connection with authenticatedDevice := none }).reject number socket
      "invalid device credentials" 4403 "invalid credentials"
  | some device =>
    let prior := (s.devices.get? device.deviceId).toList.filter (· ≠ socket)
    let closePrior := prior.map fun prior =>
      PeerAction.close prior 4409 "replaced by a new connection"
    let attach := (s.sessions.attachDevice device.carId device.deviceId socket).2
    ((s.registerDevice socket device).perform
      (closePrior ++ attach ++ [.send socket (.authAccepted .device)])).offerPendingUpdate
      number socket device now

/-- A browser's session is this socket's, and the socket is pinged. -/
def registerBrowser (socket : Peer) (sessionId : Uuid) : Server :=
  let s := s.updateConnection socket fun connection =>
    { connection with authenticatedSessionId := some sessionId, timeoutArmed := false }
  { s with browserPings := s.browserPings.set socket none }

/-- `authorizeDriveSession` has replied. -/
def onAuthorized (number : Nat) (socket : Peer) (ticket : BrowserTicket) (expiresAt : Option Int)
    (now : Int) : Server :=
  match expiresAt with
  | none =>
    s.reject number socket "drive session unavailable" 4409 "drive session unavailable"
  | some expiresAt =>
    match config.iceServers ticket.sessionId now with
    | none => s.fail number socket
    | some iceServers =>
      let (attached, sessions, actions) := s.sessions.attachBrowser
        { sessionId := ticket.sessionId, carId := ticket.carId, userId := ticket.sub, expiresAt,
          iceServers } socket now
      let s := { s with sessions }.perform actions
      if attached then
        ((s.registerBrowser socket ticket.sessionId).perform
          [.send socket (.authAccepted .browser)]).finish number
      else
        s.endDriveSession number socket ticket.sessionId "car device unavailable" now .unattached

/-- `chooseState` of the presence registry. -/
def chooseState (adminBlocked : Bool) (health : DeviceHealth) : PresenceState :=
  if adminBlocked then .adminBlocked
  else if !health.cameraReady || !health.gpioReady || !health.watchdogReady then .safetyBlocked
  else .available

/-- The heartbeat is recorded: its telemetry, and an offer. -/
def onPresenceSet (number : Nat) (socket : Peer) (health : DeviceHealth) (now : Int) : Server :=
  match s.authenticatedDevice socket with
  | none => s.fail number socket
  | some device =>
    let (_, actions) := s.sessions.sendDeviceTelemetry device.carId health.batteryVoltage.join
      health.batteryPercent.join
    (s.perform actions).offerPendingUpdate number socket device now

/-- `markDriveSessionActive` has replied. -/
def onMarkedActive (number : Nat) (socket : Peer) (marked : Bool) (startedAt : Int) : Server :=
  match s.authenticatedSessionId socket with
  | none => s.fail number socket
  | some sessionId =>
    if marked then
      let (registryMarked, sessions) := s.sessions.markConnected sessionId startedAt
      let s := { s with sessions }
      if registryMarked then s.finish number
      else
        s.endDriveSession number socket sessionId "connection timed out" startedAt .unconnected
    else s.fail number socket

/-- The last part of the close handler: its session. -/
def closeBrowser (number : Nat) (socket : Peer) (now : Int) : Server :=
  match s.authenticatedSessionId socket with
  | none => s.finish number
  | some sessionId =>
    let (sessions, actions) := s.sessions.detachBrowser sessionId "browser disconnected"
    ({ s with sessions }.perform actions).endDriveSession number socket sessionId
      "browser disconnected" now .browserGone

/-- The close handler disconnects its device; it throws when there is none any more. -/
def disconnect (number : Nat) (socket : Peer) (now : Int) : Server :=
  match s.authenticatedDevice socket with
  | none => s.finish number
  | some device =>
    s.await number socket (.markDeviceOffline device.deviceId now) .offline

/-- The first part of the close handler: no message comes any more, and no ping goes out. -/
def markClosed (socket : Peer) : Server :=
  let s := s.updateConnection socket fun connection =>
    { connection with closed := true, isOpen := false, timeoutArmed := false }
  { s with browserPings := s.browserPings.delete socket }

/-- The close handler's device leaves the maps; the rest of its car's session follows. -/
def releaseDevice (number : Nat) (socket : Peer) (device : AuthenticatedDevice) (now : Int) :
    Server :=
  let (sessionId, sessions, actions) := s.sessions.detachDevice device.carId socket
  let s := { s with devices := s.devices.delete device.deviceId, sessions }.perform actions
  match sessionId with
  | some sessionId =>
    s.endDriveSession number socket sessionId "device disconnected" now .deviceGone
  | none => s.disconnect number socket now

/-- The close handler. -/
def onClose (number : Nat) (socket : Peer) (now : Int) : Server :=
  if s.closed? socket = some true then s
  else
    let s := s.markClosed socket
    match s.authenticatedDevice socket with
    | none => s.closeBrowser number socket now
    | some device =>
      if s.devices.get? device.deviceId = some socket then
        s.releaseDevice number socket device now
      else s.closeBrowser number socket now

/-- A handler goes on with the reply to its call; none when the call has no such reply. -/
def resume (number : Nat) (handler : Handler) (reply : Reply) (now : Int) : Option Server :=
  let socket := handler.socket
  match handler.next, reply with
  | .authenticated, .device device => some (s.onAuthenticated number socket device now)
  | .offered _, .offer offer =>
    let actions := offer.toList.map fun offer =>
      PeerAction.send socket (.deviceUpdateAvailable offer)
    some ((s.perform actions).finish number)
  | .authorized ticket, .authorized expiresAt =>
    some (s.onAuthorized config number socket ticket expiresAt now)
  | .unattached, .done =>
    some (s.reject number socket "drive session unavailable" 4409 "drive session unavailable")
  | .heartbeatRecorded _ _ _, .heartbeat none => some (s.fail number socket)
  | .heartbeatRecorded deviceId health at', .heartbeat (some adminBlocked) =>
    some (s.await number socket
      (.setPresenceState deviceId (chooseState adminBlocked health) at') (.presenceSet health))
  | .presenceSet health, .done => some (s.onPresenceSet number socket health now)
  | .statusRecorded, .accepted accepted =>
    some (if accepted then s.finish number else s.fail number socket)
  | .relayed, .done => some (s.finish number)
  | .markedActive startedAt, .accepted marked =>
    some (s.onMarkedActive number socket marked startedAt)
  | .unconnected, .done => some (s.fail number socket)
  -- the close handler catches what its calls throw
  | .deviceGone, .done => some (s.disconnect number socket now)
  | .deviceGone, .rejects => some (s.disconnect number socket now)
  | .offline, .done => some (s.closeBrowser number socket now)
  | .offline, .rejects => some (s.closeBrowser number socket now)
  | .browserGone, .done => some (s.finish number)
  | .browserGone, .rejects => some (s.finish number)
  | _, .rejects => some (s.fail number socket)
  | _, _ => none

/-! ## Timers -/

/-- `now - pendingSince >= 10_000`. -/
def pendingTooLong (pendingSince now : ℚ) : Bool :=
  (Number.ofInt 10000).le ((Number.finite now).sub (.finite pendingSince))

/-- One round of the ping timer's loop. -/
def pingBrowser (now : ℚ) (failing : List Peer) (s : Server) (entry : Peer × Option ℚ) : Server :=
  let terminated := { s with browserPings := s.browserPings.delete entry.1 }.updateConnection
    entry.1 fun connection => { connection with isOpen := false }
  if entry.2.any fun pendingSince => pendingTooLong pendingSince now then terminated
  else if entry.1 ∈ failing then terminated
  else if entry.2 = none then
    { s with browserPings := s.browserPings.set entry.1 (some now) }
  else s

def pingBrowsers (now : ℚ) (failing : List Peer) : Server :=
  s.browserPings.entries.foldl (pingBrowser now failing) s

/-- The sweep; its store calls are not awaited, and nothing depends on their replies. -/
def sweep (now : Int) : Server :=
  let (_, sessions, actions) := s.sessions.sweep now
  { s with sessions }.perform actions

def onAuthenticationTimeout (socket : Peer) : Server :=
  let s := s.updateConnection socket fun connection => { connection with timeoutArmed := false }
  if s.authenticatedDevice socket = none ∧ s.authenticatedSessionId socket = none then
    s.perform [.close socket 4401 "authentication required"]
  else s

/-! ## Steps -/

def connection : Connection :=
  { authenticatedDevice := none, authenticatedSessionId := none, closed := false, isOpen := true,
    timeoutArmed := true }

/-- The next event; none when it cannot happen: a socket connects once, receives nothing once it is
closed, and a handler takes a new number. -/
def step : Event → Option Server
  | .connect socket =>
    if s.connections.has socket then none
    else some { s with connections := s.connections.set socket connection }
  | .message socket number message now =>
    if s.closed? socket = some false ∧ s.handlers.has number = false then
      some (s.onMessage config number socket message now)
    else none
  | .reply number reply now =>
    (s.handlers.get? number).bind fun handler => s.resume config number handler reply now
  | .pong socket =>
    some (if s.browserPings.has socket then
      { s with browserPings := s.browserPings.set socket none } else s)
  | .closing socket =>
    some (s.updateConnection socket fun connection => { connection with isOpen := false })
  | .close socket number now =>
    if s.connections.has socket = true ∧ s.handlers.has number = false then
      some (s.onClose number socket now)
    else none
  | .authenticationTimeout socket =>
    if (s.connections.get? socket).any (·.timeoutArmed) then
      some (s.onAuthenticationTimeout socket)
    else none
  | .sweep now => some (s.sweep now)
  | .pingBrowsers now failing => some (s.pingBrowsers now failing)

end Server

end RcOnline.Gateway
