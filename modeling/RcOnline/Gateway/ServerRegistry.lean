import RcOnline.Gateway.ServerSteps
import RcOnline.Gateway.SessionDevices

/-!
# The server on top of its registry

Every event of the server does one operation of the session registry at most (`Calls`), ends or
moves on one handler at most (`Issued`), and sends for a session what the operation sends
(`step_serves`). So what is proved about the registry's operations holds of every run of the server.
-/

namespace RcOnline.Gateway

open RcOnline.Lib RcOnline.Schema

/-- The number of the handler that an event is about. -/
def Event.number? : Event → Option Nat
  | .message _ number _ _ | .reply number _ _ | .close _ number _ => some number
  | _ => none

/-- A call that has nothing to do with drive sessions and update offers. -/
def StoreRequest.plain : StoreRequest → Bool
  | .recordUpdateStatus _ _ _ _ _ | .recordHeartbeat _ _ _ | .setPresenceState _ _ _
  | .markDeviceOffline _ _ => true
  | _ => false

/-- What follows a plain call. -/
def Continuation.plain : Continuation → Bool
  | .statusRecorded | .heartbeatRecorded _ _ _ | .presenceSet _ | .offline => true
  | _ => false

/-- What follows the end of a session that the registry has ended. -/
def Continuation.ended : Continuation → Bool
  | .relayed | .deviceGone | .browserGone => true
  | _ => false

namespace Server

/-! ## What an event asks for -/

/-- The operation of the registry that an event may do. -/
inductive Calls (config : GatewayConfig) (s : Server) : Event → RegistryCall → Prop where
  | attachDevice {number : Nat} {now : Int} {handler : Handler} {device : AuthenticatedDevice}
    (hget : s.handlers.get? number = some handler) (hnext : handler.next = .authenticated) :
    Calls config s (.reply number (.device (some device)) now)
      (.attachDevice device.carId device.deviceId handler.socket)
  | attachBrowser {number : Nat} {expiresAt now : Int} {handler : Handler} {ticket : BrowserTicket}
    {iceServers : List IceServer} (hget : s.handlers.get? number = some handler)
    (hnext : handler.next = .authorized ticket) :
    Calls config s (.reply number (.authorized (some expiresAt)) now)
      (.attachBrowser { sessionId := ticket.sessionId, carId := ticket.carId, userId := ticket.sub,
                        expiresAt, iceServers } handler.socket now)
  | relayFromDevice {socket : Peer} {number : Nat} {message : RelayMessage} {now : Int}
    {device : AuthenticatedDevice} (hdevice : s.authenticatedDevice socket = some device) :
    Calls config s (.message socket number (some (.relay message)) now)
      (.relayFromDevice device.carId message)
  | relayFromBrowser {socket : Peer} {number : Nat} {message : RelayMessage} {now : Int}
    {sessionId : Uuid} (hid : s.authenticatedSessionId socket = some sessionId) :
    Calls config s (.message socket number (some (.relay message)) now)
      (.relayFromBrowser sessionId message)
  | sendDeviceTelemetry {number : Nat} {now : Int} {handler : Handler} {health : DeviceHealth}
    {device : AuthenticatedDevice} (hget : s.handlers.get? number = some handler)
    (hnext : handler.next = .presenceSet health)
    (hdevice : s.authenticatedDevice handler.socket = some device) :
    Calls config s (.reply number .done now)
      (.sendDeviceTelemetry device.carId health.batteryVoltage.join health.batteryPercent.join)
  | markConnected {number : Nat} {now startedAt : Int} {handler : Handler} {sessionId : Uuid}
    (hget : s.handlers.get? number = some handler) (hnext : handler.next = .markedActive startedAt)
    (hid : s.authenticatedSessionId handler.socket = some sessionId) :
    Calls config s (.reply number (.accepted true) now) (.markConnected sessionId startedAt)
  | detachDevice {socket : Peer} {number : Nat} {now : Int} (carId : Uuid) :
    Calls config s (.close socket number now) (.detachDevice carId socket)
  | closeBrowser {socket : Peer} {number : Nat} {now : Int} {sessionId : Uuid}
    (hid : s.authenticatedSessionId socket = some sessionId) :
    Calls config s (.close socket number now) (.detachBrowser sessionId "browser disconnected")
  | detachBrowser {number : Nat} {reply : Reply} {now : Int} {handler : Handler} {sessionId : Uuid}
    (hget : s.handlers.get? number = some handler)
    (hid : s.authenticatedSessionId handler.socket = some sessionId) :
    Calls config s (.reply number reply now)
      (.detachBrowser sessionId "browser disconnected")
  | sweep (now : Int) : Calls config s (.sweep now) (.sweep now)

/-- What a handler may await after an event, which leads from `s` to `t`. -/
inductive Issued (s t : Server) : Event → Handler → Prop where
  | plain {e : Event} {handler : Handler} (hcall : handler.call.plain = true)
    (hnext : handler.next.plain = true) : Issued s t e handler
  | authenticateDevice {socket : Peer} {number : Nat} {message : Option ClientMessage} {now : Int}
    (deviceId : Uuid) (suppliedHash agentVersion : String) (capabilities : DeviceCapabilities) :
    Issued s t (.message socket number message now)
      ⟨socket, .authenticateDevice deviceId suppliedHash agentVersion capabilities now,
        .authenticated⟩
  | authorizeDriveSession {socket : Peer} {number : Nat} {message : Option ClientMessage}
    {now : Int} (ticket : BrowserTicket) :
    Issued s t (.message socket number message now)
      ⟨socket, .authorizeDriveSession ticket.sessionId ticket.sub ticket.carId now,
        .authorized ticket⟩
  | claimPendingUpdate {e : Event} {socket : Peer} {device : AuthenticatedDevice}
    {runtimeGeneration : Int} (now : Int)
    (hcapable : device.capabilities.otaRuntimeGeneration = some runtimeGeneration) :
    Issued s t e
      ⟨socket, .claimPendingUpdate device.deviceId runtimeGeneration now, .offered device⟩
  | markDriveSessionActive {socket : Peer} {number : Nat} {message : Option ClientMessage}
    {now : Int} {sessionId : Uuid} (hid : s.authenticatedSessionId socket = some sessionId) :
    Issued s t (.message socket number message now)
      ⟨socket, .markDriveSessionActive sessionId now, .markedActive now⟩
  | ended {e : Event} {socket : Peer} {sessionId : Uuid} {next : Continuation} (reason : String)
    (now : Int) (hnext : next.ended = true)
    (hknown : s.sessions.sessions.has sessionId = true ∨
      s.authenticatedSessionId socket = some sessionId)
    (hgone : t.sessions.sessions.get? sessionId = none) :
    Issued s t e ⟨socket, .endDriveSession sessionId reason now, next⟩
  | unattached {number : Nat} {expiresAt now : Int} {handler : Handler} {ticket : BrowserTicket}
    (reason : String) (hget : s.handlers.get? number = some handler)
    (hnext : handler.next = .authorized ticket) (hsessions : t.sessions = s.sessions) :
    Issued s t (.reply number (.authorized (some expiresAt)) now)
      ⟨handler.socket, .endDriveSession ticket.sessionId reason now, .unattached⟩
  | unconnected {number : Nat} {now startedAt : Int} {handler : Handler} {sessionId : Uuid}
    (reason : String) (hget : s.handlers.get? number = some handler)
    (hnext : handler.next = .markedActive startedAt)
    (hid : s.authenticatedSessionId handler.socket = some sessionId)
    (hfalse : (s.sessions.markConnected sessionId startedAt).1 = false) :
    Issued s t (.reply number (.accepted true) now)
      ⟨handler.socket, .endDriveSession sessionId reason startedAt, .unconnected⟩

/-! ## Messages and closing sockets -/

/-- Only messages go out and sockets begin to close. -/
structure Still (s t : Server) (actions : List PeerAction) : Prop where
  sessions : t.sessions = s.sessions
  handlers : t.handlers = s.handlers
  ids : ∀ socket, t.authenticatedSessionId socket = s.authenticatedSessionId socket
  sent : ∃ new, t.sent = s.sent ++ new ∧ ∀ entry ∈ new, .send entry.1 entry.2 ∈ actions
  connected : ∀ socket, s.connections.has socket = true → t.connections.has socket = true
  isOpen : ∀ socket, t.isOpen socket = true → s.isOpen socket = true

variable {config : GatewayConfig} {s t u v : Server}

theorem Still.refl (s : Server) : Still s s [] where
  sessions := rfl
  handlers := rfl
  ids := fun _ => rfl
  sent := ⟨[], (List.append_nil _).symm, nofun⟩
  connected := fun _ => id
  isOpen := fun _ => id

theorem Still.trans {actions actions' : List PeerAction} (h : Still s t actions)
    (h' : Still t u actions') : Still s u (actions ++ actions') where
  sessions := h'.sessions.trans h.sessions
  handlers := h'.handlers.trans h.handlers
  ids := fun socket => (h'.ids socket).trans (h.ids socket)
  sent := by
    obtain ⟨new, hnew, hmem⟩ := h.sent
    obtain ⟨new', hnew', hmem'⟩ := h'.sent
    refine ⟨new ++ new', by rw [hnew', hnew, List.append_assoc], fun entry hentry => ?_⟩
    rcases List.mem_append.1 hentry with hentry | hentry
    · exact List.mem_append_left _ (hmem entry hentry)
    · exact List.mem_append_right _ (hmem' entry hentry)
  connected := fun socket => h'.connected socket ∘ h.connected socket
  isOpen := fun socket => h.isOpen socket ∘ h'.isOpen socket

theorem isOpen_eq (s : Server) (socket : Peer) :
    s.isOpen socket = ((s.connections.get? socket).map (·.isOpen)).any id := by
  unfold isOpen
  cases s.connections.get? socket <;> rfl

theorem updateConnection_connected (s : Server) (socket : Peer) (f : Connection → Connection)
    (other : Peer) (h : s.connections.has other = true) :
    (s.updateConnection socket f).connections.has other = true := by
  have hmap := updateConnection_map s socket other f fun _ => ()
  rw [OrdMap.has, ← Option.isSome_map (f := fun _ => ()), hmap]
  split <;> rwa [Option.isSome_map]

theorem updateConnection_isOpen (s : Server) (socket : Peer) {f : Connection → Connection}
    (hf : ∀ c, (f c).isOpen = true → c.isOpen = true) (other : Peer)
    (h : (s.updateConnection socket f).isOpen other = true) : s.isOpen other = true := by
  rw [isOpen_eq, updateConnection_map] at h
  rw [isOpen_eq]
  split at h
  · cases hget : s.connections.get? other with
    | none =>
      rw [hget] at h
      exact h
    | some c =>
      rw [hget] at h
      exact hf c h
  · exact h

/-- An update of a connection that opens no socket and leaves its session. -/
theorem still_updateConnection (s : Server) (socket : Peer) {f : Connection → Connection}
    (hsession : ∀ c, (f c).authenticatedSessionId = c.authenticatedSessionId)
    (hopen : ∀ c, (f c).isOpen = true → c.isOpen = true) :
    Still s (s.updateConnection socket f) [] where
  sessions := (updateConnection_rest s socket f).2.2.1
  handlers := (updateConnection_rest s socket f).2.2.2
  ids := by
    intro other
    rw [authenticatedSessionId_eq, authenticatedSessionId_eq, updateConnection_map]
    split
    · exact congrArg (fun g => ((s.connections.get? other).map g).join) (funext hsession)
    · rfl
  sent := ⟨[], by rw [updateConnection_sent, List.append_nil], nofun⟩
  connected := s.updateConnection_connected socket f
  isOpen := s.updateConnection_isOpen socket hopen

theorem still_act (s : Server) (action : PeerAction) : Still s (s.act action) [action] := by
  cases action with
  | send peer message =>
    unfold act
    dsimp only
    split
    · refine ⟨rfl, rfl, fun _ => rfl, ⟨[(peer, message)], rfl, ?_⟩, fun _ => id, fun _ => id⟩
      intro entry hentry
      rw [List.mem_singleton.1 hentry]
      exact List.mem_singleton_self _
    · exact ⟨rfl, rfl, fun _ => rfl, ⟨[], (List.append_nil _).symm, nofun⟩, fun _ => id,
        fun _ => id⟩
  | close peer code reason =>
    have hstill := s.still_updateConnection peer
      (f := fun connection => { connection with isOpen := false }) (fun _ => rfl) nofun
    obtain ⟨new, hnew, hmem⟩ := hstill.sent
    exact ⟨hstill.sessions, hstill.handlers, hstill.ids,
      ⟨new, hnew, fun entry hentry => absurd (hmem entry hentry) List.not_mem_nil⟩,
      hstill.connected, hstill.isOpen⟩

theorem still_perform (s : Server) (actions : List PeerAction) :
    Still s (s.perform actions) actions := by
  induction actions generalizing s with
  | nil => exact .refl s
  | cons action actions ih => exact (s.still_act action).trans (ih _)

/-! ## Handlers -/

/-- What an operation of the registry, if any, leaves and sends. -/
def registryStep (s : Server) (call : Option RegistryCall) : SessionRegistry × List PeerAction :=
  call.elim (s.sessions, []) s.sessions.perform

/-- What one event does, its handler apart. -/
structure Does (s t : Server) (call : Option RegistryCall) : Prop where
  sessions : t.sessions = (s.registryStep call).1
  ids : ∀ socket, t.authenticatedSessionId socket = s.authenticatedSessionId socket ∨
    ∃ session now, call = some (.attachBrowser session socket now) ∧
      t.authenticatedSessionId socket = some session.sessionId ∧
      s.sessions.attachable session.sessionId session.carId = true
  sent : ∃ new, t.sent = s.sent ++ new ∧ ∀ entry ∈ new, entry.2.sessionId? ≠ none →
    .send entry.1 entry.2 ∈ (s.registryStep call).2
  connected : ∀ socket, s.connections.has socket = true → t.connections.has socket = true
  isOpen : ∀ socket, s.connections.has socket = true → t.isOpen socket = true →
    s.isOpen socket = true

/-- An event with its operation and the handler that it leaves under its number. -/
structure Turn (config : GatewayConfig) (s : Server) (e : Event) (t : Server)
    (call : Option RegistryCall) (next : Option Handler) : Prop extends Does s t call where
  handlers : ∀ number, t.handlers.get? number =
    if e.number? = some number then next else s.handlers.get? number
  calls : ∀ c, call = some c → Calls config s e c
  issued : ∀ handler, next = some handler → Issued s t e handler

/-- The state in which a handler ends, or awaits its next call. -/
structure Before (config : GatewayConfig) (s : Server) (e : Event) (t : Server)
    (call : Option RegistryCall) : Prop extends Does s t call where
  handlers : t.handlers = s.handlers
  calls : ∀ c, call = some c → Calls config s e c

/-- An event does one operation at most and moves one handler at most. -/
def Serves (config : GatewayConfig) (s : Server) (e : Event) (t : Server) : Prop :=
  ∃ call next, Turn config s e t call next

section handlers

variable {e : Event} {call : Option RegistryCall} {number : Nat} {socket : Peer}

theorem Before.refl (config : GatewayConfig) (s : Server) (e : Event) :
    Before config s e s none where
  sessions := rfl
  ids := fun _ => .inl rfl
  sent := ⟨[], (List.append_nil _).symm, nofun⟩
  connected := fun _ => id
  isOpen := fun _ _ => id
  handlers := rfl
  calls := nofun

/-- The operation is done, and its messages have not gone out yet. -/
theorem Before.does {c : RegistryCall} (h : Before config s e t none) (hcalls : Calls config s e c)
    (hsessions : u.sessions = (t.sessions.perform c).1)
    (hconnections : u.connections = t.connections)
    (hhandlers : u.handlers = t.handlers) (hsent : u.sent = t.sent) :
    Before config s e u (some c) where
  sessions := by rw [hsessions, h.sessions]; rfl
  ids := fun other => .inl <| by
    rw [authenticatedSessionId, hconnections]
    exact (h.ids other).resolve_right (by rintro ⟨_, _, ⟨⟩, -⟩)
  sent := by
    obtain ⟨new, hnew, hmem⟩ := h.sent
    exact ⟨new, hsent.trans hnew, fun entry hentry hid =>
      absurd (hmem entry hentry hid) List.not_mem_nil⟩
  connected := fun other hother => by
    rw [hconnections]
    exact h.connected other hother
  isOpen := fun other hother hopen => by
    rw [isOpen, hconnections] at hopen
    exact h.isOpen other hother hopen
  handlers := hhandlers.trans h.handlers
  calls := by
    rintro _ ⟨⟩
    exact hcalls

theorem Before.op {c : RegistryCall} (hcalls : Calls config s e c) :
    Before config s e { s with sessions := (s.sessions.perform c).1 } (some c) :=
  (Before.refl config s e).does hcalls rfl rfl rfl rfl

/-- Messages go out that are the operation's or no session's. -/
theorem Before.still {actions : List PeerAction} (h : Before config s e u call)
    (hstill : Still u v actions) (hactions : ∀ peer message, .send peer message ∈ actions →
      message.sessionId? = none ∨ .send peer message ∈ (s.registryStep call).2) :
    Before config s e v call where
  sessions := hstill.sessions.trans h.sessions
  ids := fun other => by
    rw [hstill.ids]
    exact h.ids other
  sent := by
    obtain ⟨new, hnew, hmem⟩ := h.sent
    obtain ⟨new', hnew', hmem'⟩ := hstill.sent
    refine ⟨new ++ new', by rw [hnew', hnew, List.append_assoc], fun entry hentry hid => ?_⟩
    rcases List.mem_append.1 hentry with hentry | hentry
    · exact hmem entry hentry hid
    · exact (hactions entry.1 entry.2 (hmem' entry hentry)).resolve_left hid
  connected := fun other => hstill.connected other ∘ h.connected other
  isOpen := fun other hother => h.isOpen other hother ∘ hstill.isOpen other
  handlers := hstill.handlers.trans h.handlers
  calls := h.calls

/-- The messages of the operation go out. -/
theorem Before.perform (h : Before config s e u call) :
    Before config s e (u.perform (s.registryStep call).2) call :=
  h.still (u.still_perform _) fun _ _ => .inr

theorem Before.finish (h : Before config s e t call) (hnumber : e.number? = some number) :
    Serves config s e (t.finish number) := by
  refine ⟨call, none, ⟨h.sessions, h.ids, h.sent, h.connected, h.isOpen⟩, ?_, h.calls,
    fun _ hnone => nomatch hnone⟩
  intro other
  rw [hnumber, Server.finish, OrdMap.get?_delete, h.handlers]
  simp only [Option.some.injEq]

theorem Before.await {request : StoreRequest} {next : Continuation}
    (h : Before config s e t call) (hnumber : e.number? = some number)
    (hissued : Issued s (t.await number socket request next) e ⟨socket, request, next⟩) :
    Serves config s e (t.await number socket request next) := by
  refine ⟨call, some ⟨socket, request, next⟩,
    ⟨h.sessions, h.ids, h.sent, h.connected, h.isOpen⟩, ?_, h.calls, ?_⟩
  · intro other
    rw [hnumber, Server.await, OrdMap.get?_set, h.handlers]
    simp only [Option.some.injEq]
  · rintro _ ⟨⟩
    exact hissued

/-- The handler says something that is no session's, and ends. -/
theorem Before.reply {actions : List PeerAction} (h : Before config s e t call)
    (hnumber : e.number? = some number)
    (hactions : ∀ peer message, .send peer message ∈ actions → message.sessionId? = none) :
    Serves config s e ((t.perform actions).finish number) :=
  (h.still (t.still_perform actions) fun peer message hmem => .inl (hactions peer message hmem)
    ).finish hnumber

/-- A message of no session, and a socket that is closed. -/
theorem sessionless_pair {peer other : Peer} {message : ServerMessage} {code : Nat}
    {closeReason : String} (hmessage : message.sessionId? = none) :
    ∀ peer' message', .send peer' message' ∈
      [PeerAction.send peer message, .close other code closeReason] →
      message'.sessionId? = none := by
  intro peer' message' hmem
  rcases List.mem_pair.1 hmem with heq | heq
  · obtain ⟨-, rfl⟩ := PeerAction.send.inj heq
    exact hmessage
  · cases heq

theorem Before.fail (h : Before config s e t call) (hnumber : e.number? = some number) :
    Serves config s e (t.fail number socket) :=
  h.reply hnumber (sessionless_pair rfl)

theorem Before.reject (h : Before config s e t call) (hnumber : e.number? = some number)
    (reason : String) (code : Nat) (closeReason : String) :
    Serves config s e (t.reject number socket reason code closeReason) :=
  h.reply hnumber (sessionless_pair rfl)

theorem Before.offerPendingUpdate (h : Before config s e t call)
    (hnumber : e.number? = some number) (device : AuthenticatedDevice) (now : Int) :
    Serves config s e (t.offerPendingUpdate number socket device now) := by
  unfold Server.offerPendingUpdate
  split
  · exact h.finish hnumber
  · next runtimeGeneration hcapable =>
    split
    · exact h.finish hnumber
    · exact h.await hnumber (.claimPendingUpdate now hcapable)

/-! ## Message handlers -/

variable (now : Int)

theorem authenticate_serves (message : ClientMessage) :
    Serves config s (.message socket number (some message) now)
      (s.authenticate config number socket message now) := by
  have hbefore := Before.refl config s (.message socket number (some message) now)
  unfold authenticate
  split
  · exact hbefore.await rfl (.authenticateDevice _ _ _ _)
  · split
    · exact hbefore.fail rfl
    · exact hbefore.await rfl (.authorizeDriveSession _)
  · exact hbefore.reject rfl _ _ _

/-- A relayed end leaves no session. -/
theorem afterRelay_gone (r : SessionRegistry) (sessionId : Uuid) (reason : String) :
    (r.afterRelay (.sessionEnd sessionId reason)).1.sessions.get? sessionId = none := by
  rw [SessionRegistry.afterRelay, SessionRegistry.endSession_get?, if_pos rfl]

theorem afterRelay_serves {c : RegistryCall} {message : RelayMessage}
    {result : Bool × SessionRegistry × List PeerAction}
    (hcalls : Calls config s (.message socket number (some (.relay message)) now) c)
    (hperform : s.sessions.perform c = result.2)
    (hgone : ∀ sessionId reason, result.1 = true → message = .sessionEnd sessionId reason →
      s.sessions.sessions.has sessionId = true ∧ result.2.1.sessions.get? sessionId = none) :
    Serves config s (.message socket number (some (.relay message)) now)
      (s.afterRelay number socket message now result) := by
  obtain ⟨accepted, sessions, actions⟩ := result
  unfold Server.afterRelay
  cases accepted with
  | false => exact (Before.refl config s _).fail rfl
  | true =>
    have hbefore := (Before.op hcalls).perform
    have hstep : s.registryStep (some c) = (sessions, actions) := hperform
    rw [hperform, hstep] at hbefore
    dsimp only at hbefore ⊢
    split
    · next sessionId reason =>
      obtain ⟨hlive, hgone⟩ := hgone sessionId reason rfl rfl
      refine hbefore.await rfl (.ended reason now rfl (.inl hlive) ?_)
      have hsessions := (still_perform { s with sessions } actions).sessions
      rw [Server.await, hsessions]
      exact hgone
    · exact hbefore.finish rfl

theorem receive_serves (message : ClientMessage) :
    Serves config s (.message socket number (some message) now)
      (s.receive number socket message now) := by
  have hbefore := Before.refl config s (.message socket number (some message) now)
  unfold receive
  split
  · exact hbefore.await rfl (.plain rfl rfl)
  · exact hbefore.await rfl (.plain rfl rfl)
  · next device message hdevice =>
    refine afterRelay_serves now (.relayFromDevice hdevice) rfl ?_
    rintro sessionId reason haccepted rfl
    rcases SessionRegistry.relayFromDevice_cases (r := s.sessions) device.carId
      (.sessionEnd sessionId reason) with heq | ⟨session, -, hlive, heq⟩
    · rw [heq] at haccepted
      cases haccepted
    · rw [heq]
      exact ⟨OrdMap.has_iff.2 ⟨session, hlive⟩, afterRelay_gone _ _ _⟩
  · next id message _ hid =>
    refine afterRelay_serves now (.relayFromBrowser hid) rfl ?_
    rintro sessionId reason haccepted rfl
    rcases SessionRegistry.relayFromBrowser_cases (r := s.sessions) id
      (.sessionEnd sessionId reason) with heq | ⟨session, -, hlive, heq⟩
    · rw [heq] at haccepted
      cases haccepted
    · rw [heq]
      exact ⟨OrdMap.has_iff.2 ⟨session, hlive⟩, afterRelay_gone _ _ _⟩
  · next hid =>
    split
    · exact hbefore.await rfl (.markDriveSessionActive hid)
    · exact hbefore.fail rfl
  · refine hbefore.reply rfl fun peer message' hmem => ?_
    obtain ⟨-, rfl⟩ := PeerAction.send.inj (List.mem_singleton.1 hmem)
    rfl

theorem onMessage_serves (message : Option ClientMessage) :
    Serves config s (.message socket number message now)
      (s.onMessage config number socket message now) := by
  unfold onMessage
  split
  · exact (Before.refl config s _).fail rfl
  · split
    · exact authenticate_serves now _
    · exact receive_serves now _

/-! ## Replies -/

/-- A connection's variables change, but not its session. -/
theorem Before.updateConnection (h : Before config s e t call) (other : Peer)
    {f : Connection → Connection}
    (hsession : ∀ c, (f c).authenticatedSessionId = c.authenticatedSessionId)
    (hopen : ∀ c, (f c).isOpen = true → c.isOpen = true) :
    Before config s e (t.updateConnection other f) call :=
  h.still (t.still_updateConnection other hsession hopen) nofun

/-- The operation's part of a registration. -/
theorem still_registerDevice (s : Server) (socket : Peer) (device : AuthenticatedDevice) :
    Still { s with sessions := (s.sessions.attachDevice device.carId device.deviceId socket).1 }
      (s.registerDevice socket device) [] := by
  have hstill := s.still_updateConnection socket
    (f := fun connection =>
      { connection with authenticatedDevice := some device, timeoutArmed := false })
    (fun _ => rfl) fun _ => id
  obtain ⟨-, -, hsessions, hhandlers⟩ := s.registerDevice_rest socket device
  exact ⟨hsessions, hhandlers, hstill.ids, hstill.sent, hstill.connected, hstill.isOpen⟩

/-- What goes out when a device is registered. -/
theorem registration_sends (prior : List Peer) {r : SessionRegistry} {carId deviceId : Uuid}
    {peer : Peer} {message : ServerMessage}
    (hmem : .send peer message ∈
      prior.map (fun prior => PeerAction.close prior 4409 "replaced by a new connection") ++
        (r.attachDevice carId deviceId socket).2 ++ [.send socket (.authAccepted .device)]) :
    message.sessionId? = none ∨ .send peer message ∈ (r.attachDevice carId deviceId socket).2 := by
  rw [List.mem_append, List.mem_append, List.mem_map, List.mem_singleton] at hmem
  rcases hmem with (⟨_, -, heq⟩ | hmem) | heq
  · cases heq
  · exact .inr hmem
  · obtain ⟨-, rfl⟩ := PeerAction.send.inj heq
    exact .inl rfl

theorem onAuthenticated_serves {handler : Handler} (device : Option AuthenticatedDevice)
    (hget : s.handlers.get? number = some handler) (hnext : handler.next = .authenticated) :
    Serves config s (.reply number (.device device) now)
      (s.onAuthenticated number handler.socket device now) := by
  cases device with
  | none =>
    have hbefore := Before.refl config s (.reply number (.device none) now)
    have hforgotten := hbefore.updateConnection handler.socket
      (f := fun connection => { connection with authenticatedDevice := none })
      (fun _ => rfl) fun _ => id
    exact hforgotten.reject rfl _ _ _
  | some device =>
    have hbefore : Before config s (.reply number (.device (some device)) now)
        (s.registerDevice handler.socket device)
        (some (.attachDevice device.carId device.deviceId handler.socket)) :=
      (Before.op (.attachDevice hget hnext)).still (s.still_registerDevice handler.socket device)
        fun _ _ hmem => absurd hmem List.not_mem_nil
    refine (hbefore.still (still_perform _ _) fun _ _ => ?_).offerPendingUpdate rfl device now
    exact registration_sends ((s.devices.get? device.deviceId).toList.filter (· ≠ handler.socket))

/-- A browser's session is its connection's. -/
theorem Before.registerBrowser {session : BrowserSession} {now' : Int}
    (h : Before config s e t (some (.attachBrowser session socket now')))
    (hattachable : s.sessions.attachable session.sessionId session.carId = true) :
    Before config s e (t.registerBrowser socket session.sessionId)
      (some (.attachBrowser session socket now')) := by
  obtain ⟨-, -, hsessions, hhandlers⟩ := t.registerBrowser_rest socket session.sessionId
  have hids : ∀ other, (t.registerBrowser socket session.sessionId).authenticatedSessionId other =
      t.authenticatedSessionId other ∨ (other = socket ∧
        (t.registerBrowser socket session.sessionId).authenticatedSessionId other =
          some session.sessionId) := by
    intro other
    change (t.updateConnection socket _).authenticatedSessionId other = _ ∨ _ ∧
      (t.updateConnection socket _).authenticatedSessionId other = _
    rw [authenticatedSessionId_eq, authenticatedSessionId_eq, updateConnection_map]
    by_cases hother : socket = other
    · subst hother
      rw [if_pos rfl]
      cases t.connections.get? socket with
      | none => exact .inl rfl
      | some connection => exact .inr ⟨rfl, rfl⟩
    · rw [if_neg hother]
      exact .inl rfl
  constructor
  case toDoes =>
    refine ⟨hsessions.trans h.sessions, fun other => ?_, ?_, fun other hother => ?_,
      fun other hother hopen => ?_⟩
    · rcases hids other with heq | ⟨rfl, heq⟩
      · rw [heq]
        exact h.ids other
      · exact .inr ⟨session, now', rfl, heq, hattachable⟩
    · have hsent : (t.registerBrowser socket session.sessionId).sent = t.sent :=
        t.updateConnection_sent socket _
      rw [hsent]
      exact h.sent
    · exact t.updateConnection_connected socket _ other (h.connected other hother)
    · refine h.isOpen other hother (t.updateConnection_isOpen socket (f := fun connection =>
        { connection with authenticatedSessionId := some session.sessionId, timeoutArmed := false })
        (fun _ => id) other hopen)
  case handlers => exact hhandlers.trans h.handlers
  case calls => exact h.calls

theorem onAuthorized_serves {handler : Handler} {ticket : BrowserTicket} (expiresAt : Option Int)
    (hget : s.handlers.get? number = some handler) (hnext : handler.next = .authorized ticket) :
    Serves config s (.reply number (.authorized expiresAt) now)
      (s.onAuthorized config number handler.socket ticket expiresAt now) := by
  have hbefore := Before.refl config s (.reply number (.authorized expiresAt) now)
  unfold onAuthorized
  split
  · exact hbefore.reject rfl _ _ _
  · next expiresAt =>
    split
    · exact hbefore.fail rfl
    · next iceServers hice =>
      let session : BrowserSession :=
        { sessionId := ticket.sessionId, carId := ticket.carId, userId := ticket.sub, expiresAt,
          iceServers }
      have hop : Before config s (.reply number (.authorized (some expiresAt)) now) _
          (some (.attachBrowser session handler.socket now)) :=
        (Before.op (.attachBrowser hget hnext)).perform
      cases hattachable : s.sessions.attachable session.sessionId session.carId with
      | false =>
        rw [SessionRegistry.attachBrowser_of_not hattachable]
        exact hbefore.await rfl (.unattached _ hget hnext rfl)
      | true =>
        obtain ⟨-, -, -, hattached, -⟩ :=
          SessionRegistry.attachBrowser_of session handler.socket now hattachable
        dsimp only
        rw [if_pos hattached]
        refine (hop.registerBrowser hattachable).reply rfl fun peer message hmem => ?_
        obtain ⟨-, rfl⟩ := PeerAction.send.inj (List.mem_singleton.1 hmem)
        rfl

theorem onPresenceSet_serves {handler : Handler} {health : DeviceHealth}
    (hget : s.handlers.get? number = some handler) (hnext : handler.next = .presenceSet health) :
    Serves config s (.reply number .done now)
      (s.onPresenceSet number handler.socket health now) := by
  unfold onPresenceSet
  split
  · exact (Before.refl config s _).fail rfl
  · next device hdevice =>
    have hcalls : Calls config s (.reply number .done now)
        (.sendDeviceTelemetry device.carId health.batteryVoltage.join
          health.batteryPercent.join) := .sendDeviceTelemetry hget hnext hdevice
    exact (Before.op hcalls).perform.offerPendingUpdate rfl device now

theorem onMarkedActive_serves {handler : Handler} {startedAt : Int} (marked : Bool)
    (hget : s.handlers.get? number = some handler)
    (hnext : handler.next = .markedActive startedAt) :
    Serves config s (.reply number (.accepted marked) now)
      (s.onMarkedActive number handler.socket marked startedAt) := by
  have hbefore := Before.refl config s (.reply number (.accepted marked) now)
  unfold onMarkedActive
  split
  · exact hbefore.fail rfl
  · next sessionId hid =>
    cases marked with
    | false => exact hbefore.fail rfl
    | true =>
      have hop : Before config s (.reply number (.accepted true) now) _
          (some (.markConnected sessionId startedAt)) := .op (.markConnected hget hnext hid)
      rw [if_pos rfl]
      dsimp only
      split
      · exact hop.finish rfl
      · next hfalse =>
        exact hop.await rfl (.unconnected _ hget hnext hid (Bool.eq_false_iff.2 hfalse))

/-! ## The close handler -/

/-- An ended session is not in the registry any more. -/
theorem endSession_gone (r : SessionRegistry) (sessionId : Uuid) (reason : String)
    (notifyDevice : Bool) :
    (r.endSession sessionId reason notifyDevice).1.sessions.get? sessionId = none := by
  rw [SessionRegistry.endSession_get?, if_pos rfl]

/-- The session that a device takes with it is not in the registry any more. -/
theorem detachDevice_gone {r : SessionRegistry} {carId sessionId : Uuid} {peer : Peer}
    (h : (r.detachDevice carId peer).1 = some sessionId) :
    r.sessions.has sessionId = true ∧
      (r.detachDevice carId peer).2.1.sessions.get? sessionId = none := by
  unfold SessionRegistry.detachDevice at h ⊢
  split
  · next hnone =>
    rw [hnone] at h
    cases h
  · next device hdevice =>
    rw [hdevice] at h
    dsimp only at h ⊢
    split
    · next hpeer =>
      rw [if_pos hpeer] at h
      cases h
    · next hpeer =>
      rw [if_neg hpeer] at h
      split at h
      · cases h
      · next other hother =>
        obtain rfl := Option.some.inj h
        obtain ⟨session, hsession, -⟩ := (r.inverse carId other).1 hother
        exact ⟨OrdMap.has_iff.2 ⟨session, hsession⟩, endSession_gone _ _ _ _⟩

theorem closeBrowser_serves (h : Before config s e t none) (hnumber : e.number? = some number)
    (hcalls : ∀ sessionId, s.authenticatedSessionId socket = some sessionId →
      Calls config s e (.detachBrowser sessionId "browser disconnected")) :
    Serves config s e (t.closeBrowser number socket now) := by
  unfold Server.closeBrowser
  split
  · exact h.finish hnumber
  · next sessionId hid =>
    rw [(h.ids socket).resolve_right (by rintro ⟨_, _, ⟨⟩, -⟩)] at hid
    have hop := h.does (hcalls sessionId hid)
      (u := { t with
        sessions := (t.sessions.detachBrowser sessionId "browser disconnected").1 })
      rfl rfl rfl rfl
    have hsent := hop.perform
    rw [registryStep, Option.elim_some, ← show t.sessions = s.sessions from h.sessions] at hsent
    refine hsent.await hnumber (.ended "browser disconnected" now rfl (.inr hid) ?_)
    rw [Server.await, (still_perform _ _).sessions]
    exact endSession_gone t.sessions sessionId "browser disconnected" true

theorem disconnect_serves (h : Before config s e t call) (hnumber : e.number? = some number) :
    Serves config s e (t.disconnect number socket now) := by
  unfold Server.disconnect
  split
  · exact h.finish hnumber
  · exact h.await hnumber (.plain rfl rfl)

/-- The device that a connection gives up takes its car's session with it. -/
theorem releaseDevice_serves (h : Before config s (.close socket number now) t none)
    (device : AuthenticatedDevice) :
    Serves config s (.close socket number now) (t.releaseDevice number socket device now) := by
  have hop := h.does (.detachDevice device.carId)
    (u := { t with
      devices := t.devices.delete device.deviceId
      sessions := (t.sessions.detachDevice device.carId socket).2.1 })
    rfl rfl rfl rfl
  have hsent := hop.perform
  rw [registryStep, Option.elim_some, ← show t.sessions = s.sessions from h.sessions] at hsent
  unfold Server.releaseDevice
  dsimp only
  split
  · next sessionId hended =>
    obtain ⟨hlive, hgone⟩ := detachDevice_gone hended
    rw [show t.sessions = s.sessions from h.sessions] at hlive
    refine hsent.await rfl (.ended "device disconnected" now rfl (.inl hlive) ?_)
    rw [Server.await, (still_perform _ _).sessions]
    exact hgone
  · exact disconnect_serves now hsent rfl

/-- The first part of the close handler. -/
theorem markClosed_before (s : Server) (socket : Peer) :
    Before config s e (s.markClosed socket) none := by
  have h := (Before.refl config s e).updateConnection socket
    (f := fun connection =>
      { connection with closed := true, isOpen := false, timeoutArmed := false })
    (fun _ => rfl) nofun
  exact ⟨⟨h.sessions, h.ids, h.sent, h.connected, h.isOpen⟩, h.handlers, h.calls⟩

theorem onClose_serves (hfree : s.handlers.has number = false) :
    Serves config s (.close socket number now) (s.onClose number socket now) := by
  have hbefore : Before config s (.close socket number now) (s.markClosed socket) none :=
    s.markClosed_before socket
  have hclose : Serves config s (.close socket number now)
      ((s.markClosed socket).closeBrowser number socket now) :=
    closeBrowser_serves now hbefore rfl fun sessionId hid => .closeBrowser hid
  unfold onClose
  split
  · have hrefl := Before.refl config s (.close socket number now)
    refine ⟨none, none, hrefl.toDoes, fun other => ?_, hrefl.calls, fun _ hnone => nomatch hnone⟩
    split
    · next heq =>
      obtain rfl := Option.some.inj heq
      exact OrdMap.has_eq_false_iff.1 hfree
    · rfl
  · dsimp only
    split
    · exact hclose
    · next device _ =>
      split
      · exact releaseDevice_serves now hbefore device
      · exact hclose

theorem resume_serves {handler : Handler} {reply : Reply}
    (hget : s.handlers.get? number = some handler)
    (h : s.resume config number handler reply now = some t) :
    Serves config s (.reply number reply now) t := by
  have hbefore := Before.refl config s (.reply number reply now)
  have hclose : Serves config s (.reply number reply now)
      (s.closeBrowser number handler.socket now) :=
    closeBrowser_serves now hbefore rfl fun sessionId hid => .detachBrowser hget hid
  unfold resume at h
  dsimp only at h
  split at h <;> try obtain rfl := Option.some.inj h
  · next device hnext => exact onAuthenticated_serves now device hget hnext
  · next offer hnext =>
    refine hbefore.reply rfl fun peer message hmem => ?_
    obtain ⟨offer, -, heq⟩ := List.mem_map.1 hmem
    obtain ⟨-, rfl⟩ := PeerAction.send.inj heq
    rfl
  · next expiresAt hnext => exact onAuthorized_serves now expiresAt hget hnext
  · exact hbefore.reject rfl _ _ _
  · exact hbefore.fail rfl
  · exact hbefore.await rfl (.plain rfl rfl)
  · next hnext => exact onPresenceSet_serves now hget hnext
  · split
    · exact hbefore.finish rfl
    · exact hbefore.fail rfl
  · exact hbefore.finish rfl
  · next marked hnext => exact onMarkedActive_serves now marked hget hnext
  · exact hbefore.fail rfl
  · exact disconnect_serves now hbefore rfl
  · exact disconnect_serves now hbefore rfl
  · exact hclose
  · exact hclose
  · exact hbefore.finish rfl
  · exact hbefore.finish rfl
  · exact hbefore.fail rfl
  · cases h

/-! ## Every event -/

/-- An event that is about no handler. -/
theorem Before.timer (h : Before config s e t call) (hnumber : e.number? = none) :
    Serves config s e t := by
  refine ⟨call, none, h.toDoes, fun number => ?_, h.calls, fun _ hnone => nomatch hnone⟩
  rw [hnumber, if_neg nofun, h.handlers]

theorem connect_serves (h : s.connections.has socket = false) :
    Serves config s (.connect socket)
      { s with connections := s.connections.set socket connection } := by
  have hnone := OrdMap.has_eq_false_iff.1 h
  have hother : ∀ other, s.connections.has other = true →
      (s.connections.set socket connection).get? other = s.connections.get? other := by
    intro other hhas
    refine OrdMap.get?_set_of_ne _ _ ?_
    rintro rfl
    rw [h] at hhas
    cases hhas
  suffices hbefore : Before config s (.connect socket)
      { s with connections := s.connections.set socket connection } none from hbefore.timer rfl
  refine ⟨⟨rfl, fun other => .inl ?_, ⟨[], (List.append_nil _).symm, nofun⟩,
    fun other hhas => ?_, fun other hhas hopen => ?_⟩, rfl, nofun⟩
  · unfold authenticatedSessionId
    by_cases heq : socket = other
    · rw [← heq, hnone, OrdMap.get?_set_self]
      rfl
    · rw [OrdMap.get?_set_of_ne _ _ heq]
  · rw [OrdMap.has, hother other hhas]
    exact hhas
  · rwa [isOpen, hother other hhas] at hopen

theorem still_pingBrowser (now : ℚ) (failing : List Peer) (s : Server)
    (entry : Peer × Option ℚ) : Still s (pingBrowser now failing s entry) [] := by
  have hterminated := still_updateConnection
    { s with browserPings := s.browserPings.delete entry.1 } entry.1
    (f := fun connection => { connection with isOpen := false }) (fun _ => rfl) nofun
  have hrefl := Still.refl s
  unfold pingBrowser
  dsimp only
  split
  · exact ⟨hterminated.sessions, hterminated.handlers, hterminated.ids, hterminated.sent,
      hterminated.connected, hterminated.isOpen⟩
  · split
    · exact ⟨hterminated.sessions, hterminated.handlers, hterminated.ids, hterminated.sent,
        hterminated.connected, hterminated.isOpen⟩
    · split
      · exact ⟨rfl, rfl, hrefl.ids, hrefl.sent, hrefl.connected, hrefl.isOpen⟩
      · exact hrefl

theorem still_pingBrowsers (now : ℚ) (failing : List Peer) (s : Server) :
    Still s (s.pingBrowsers now failing) [] :=
  List.foldlRecOn (motive := fun t => Still s t []) _ _ (.refl s) fun t h entry _ =>
    h.trans (still_pingBrowser now failing t entry)

/-- **Main result.** Every event of the server does one operation of the registry at most, moves one
handler at most, and sends for a session only what the operation sends. -/
theorem step_serves (h : s.step config e = some t) : Serves config s e t := by
  have hbefore := Before.refl config s e
  cases e with
  | connect socket =>
    rw [step] at h
    split at h
    · cases h
    · next hhas =>
      obtain rfl := Option.some.inj h
      exact connect_serves (Bool.eq_false_iff.2 hhas)
  | message socket number message now =>
    rw [step] at h
    split at h
    · obtain rfl := Option.some.inj h
      exact onMessage_serves now message
    · cases h
  | reply number reply now =>
    obtain ⟨handler, hget, h⟩ := Option.bind_eq_some_iff.1 h
    exact resume_serves now hget h
  | pong socket =>
    obtain rfl := Option.some.inj h
    split
    · exact Before.timer ⟨⟨rfl, hbefore.ids, hbefore.sent, hbefore.connected, hbefore.isOpen⟩, rfl,
        hbefore.calls⟩ rfl
    · exact hbefore.timer rfl
  | closing socket =>
    obtain rfl := Option.some.inj h
    exact (hbefore.updateConnection socket
      (f := fun connection => { connection with isOpen := false }) (fun _ => rfl)
      fun _ hopen => by cases hopen).timer rfl
  | close socket number now =>
    rw [step] at h
    split at h
    · next hhandler =>
      obtain rfl := Option.some.inj h
      exact onClose_serves now hhandler.2
    · cases h
  | authenticationTimeout socket =>
    rw [step] at h
    split at h
    · obtain rfl := Option.some.inj h
      have hdisarmed := hbefore.updateConnection socket
        (f := fun connection => { connection with timeoutArmed := false })
        (fun _ => rfl) fun _ => id
      unfold onAuthenticationTimeout
      dsimp only
      split
      · refine (hdisarmed.still (still_perform _ _) fun peer message hmem => ?_).timer rfl
        cases List.mem_singleton.1 hmem
      · exact hdisarmed.timer rfl
    · cases h
  | sweep now =>
    obtain rfl := Option.some.inj h
    exact (Before.op (.sweep now)).perform.timer rfl
  | pingBrowsers now failing =>
    obtain rfl := Option.some.inj h
    refine (hbefore.still (still_pingBrowsers now failing s) fun _ _ hmem => ?_).timer rfl
    exact absurd hmem List.not_mem_nil

end handlers

end Server

end RcOnline.Gateway
