import RcOnline.Gateway.ServerSteps
import RcOnline.Lib.Steps

/-!
# State put there by a socket

The maps of the gateway name sockets: a device's, a car's, a session's browser, a ping's. A socket's
close handler takes out what the variables of the connection say is there. That is all that is there
(`Owned`) as long as a reply to an authentication is not acted on when the socket is closed already
or holds something else (`Timely`). Then nothing outlives its socket
(`nothing_outlives_its_socket`); without it a reply that comes after the close registers a dead
socket (`lateReply_registered`).
-/

namespace RcOnline.Gateway

open RcOnline.Lib RcOnline.Schema

namespace Server

/-! ## Sockets and what they hold -/

/-- The close handler of the socket and all of its message handlers have finished. -/
structure Finished (s : Server) (socket : Peer) : Prop where
  closed : s.closed? socket = some true
  handlers : ∀ number handler, s.handlers.get? number = some handler → handler.socket ≠ socket

/-- Nothing that the socket put into the maps is left. -/
structure Forgotten (s : Server) (socket : Peer) : Prop where
  devices : ∀ deviceId, s.devices.get? deviceId ≠ some socket
  browserPings : s.browserPings.has socket = false
  devicesByCar : ∀ carId device, s.sessions.devicesByCar.get? carId = some device →
    device.peer ≠ socket
  sessions : ∀ sessionId session, s.sessions.sessions.get? sessionId = some session →
    session.browser ≠ socket
  sessionsByCar : ∀ carId sessionId, s.sessions.sessionsByCar.get? carId = some sessionId →
    ∃ session, s.sessions.sessions.get? sessionId = some session ∧ session.browser ≠ socket

/-! ## Replies that come in time -/

/-- A device can be registered under the socket: the socket is not closed and holds no other device,
and a socket that it takes the device from holds no other car. -/
structure AcceptsDevice (s : Server) (socket : Peer) (device : AuthenticatedDevice) : Prop where
  alive : s.closed? socket = some false
  devices : ∀ deviceId, s.devices.get? deviceId = some socket → deviceId = device.deviceId
  cars : ∀ carId connection, s.sessions.devicesByCar.get? carId = some connection →
    (connection.peer = socket ∨ s.devices.get? device.deviceId = some connection.peer) →
    carId = device.carId

/-- The socket has no device to lose when an authentication fails, and its close handler none to
disconnect. -/
structure LosesNothing (s : Server) (socket : Peer) : Prop where
  devices : ∀ deviceId, s.devices.get? deviceId ≠ some socket
  cars : ∀ carId connection, s.sessions.devicesByCar.get? carId = some connection →
    connection.peer ≠ socket
  closing : ∀ number handler, s.handlers.get? number = some handler → handler.socket = socket →
    handler.next ≠ .deviceGone

/-- A browser can be registered under the socket: the socket is not closed and holds no session. -/
structure AcceptsBrowser (s : Server) (socket : Peer) : Prop where
  alive : s.closed? socket = some false
  sessions : ∀ sessionId session, s.sessions.sessions.get? sessionId = some session →
    session.browser ≠ socket

/-- A reply to an authentication comes when its socket can take it. -/
def Timely (config : GatewayConfig) (s : Server) : Event → Prop
  | .reply number reply now => ∀ handler, s.handlers.get? number = some handler →
    match handler.next, reply with
    | .authenticated, .device (some device) => s.AcceptsDevice handler.socket device
    | .authenticated, .device none => s.LosesNothing handler.socket
    | .authorized ticket, .authorized (some _) =>
      (config.iceServers ticket.sessionId now).isSome = true →
      s.sessions.attachable ticket.sessionId ticket.carId = true → s.AcceptsBrowser handler.socket
    | _, _ => True
  | _ => True

/-! ## The invariant -/

/-- The devices, cars and pings of a socket are those that its variables name, and it is not
closed. -/
structure Registered (s : Server) : Prop where
  devices : ∀ deviceId socket, s.devices.get? deviceId = some socket →
    s.closed? socket = some false ∧
      ∃ device, s.authenticatedDevice socket = some device ∧ device.deviceId = deviceId
  cars : ∀ carId connection, s.sessions.devicesByCar.get? carId = some connection →
    s.closed? connection.peer = some false ∧
      ∃ device, s.authenticatedDevice connection.peer = some device ∧ device.carId = carId ∧
        s.devices.get? device.deviceId = some connection.peer
  browserPings : ∀ socket, s.browserPings.has socket = true → s.closed? socket = some false

/-- A handler of the socket's close that has its session still before it. -/
def Closes (s : Server) (socket : Peer) (number : Nat) : Prop :=
  ∃ handler, s.handlers.get? number = some handler ∧ handler.socket = socket ∧
    (handler.next = .deviceGone ∨ handler.next = .offline)

/-- Everything in the maps is named by the variables of its socket, and will be taken out by the
socket's close handler. -/
structure Owned (s : Server) : Prop extends Registered s where
  sessions : ∀ sessionId session, s.sessions.sessions.get? sessionId = some session →
    s.authenticatedSessionId session.browser = some sessionId ∧
      (s.closed? session.browser = some false ∨ ∃ number, s.Closes session.browser number)
  closing : ∀ number handler, s.handlers.get? number = some handler →
    handler.next = .deviceGone → ∃ device, s.authenticatedDevice handler.socket = some device

theorem owned_empty : Owned empty where
  devices := by simp [empty]
  cars := by simp [empty, SessionRegistry.empty]
  browserPings := by simp [empty]
  sessions := by simp [empty, SessionRegistry.empty]
  closing := by simp [empty]

variable {s t : Server} {number : Nat} {socket : Peer}

theorem Owned.forgotten (h : Owned s) (hfinished : s.Finished socket) : s.Forgotten socket := by
  have hclosed : s.closed? socket ≠ some false := by
    rw [hfinished.closed]
    nofun
  have hsessions : ∀ sessionId session, s.sessions.sessions.get? sessionId = some session →
      session.browser ≠ socket := by
    rintro sessionId session hsession rfl
    rcases (h.sessions sessionId session hsession).2 with halive | ⟨number, handler, hget, heq, -⟩
    · exact hclosed halive
    · exact hfinished.handlers number handler hget heq
  constructor
  case devices => exact fun deviceId hdevice => hclosed (h.devices deviceId socket hdevice).1
  case browserPings =>
    rw [Bool.eq_false_iff]
    exact fun hping => hclosed (h.browserPings socket hping)
  case devicesByCar =>
    rintro carId device hdevice rfl
    exact hclosed (h.cars carId device hdevice).1
  case sessions => exact hsessions
  case sessionsByCar =>
    intro carId sessionId hcar
    obtain ⟨session, hsession, -⟩ := (s.sessions.inverse carId sessionId).1 hcar
    exact ⟨session, hsession, hsessions sessionId session hsession⟩

/-! ## Quiet steps and message handlers -/

theorem Registered.leaves (h : Registered s) (hleaves : Leaves s t) : Registered t where
  devices := by
    intro deviceId other hdevice
    rw [hleaves.devices] at hdevice
    rw [hleaves.closed, hleaves.authenticatedDevice]
    exact h.devices deviceId other hdevice
  cars := by
    intro carId connection hcar
    rw [hleaves.sessions.devices] at hcar
    rw [hleaves.closed, hleaves.authenticatedDevice, hleaves.devices]
    exact h.cars carId connection hcar
  browserPings := fun other hping => by
    rw [hleaves.closed]
    exact h.browserPings other (hleaves.browserPings other hping)

/-- A handler that is no part of a close handler. -/
def MessageHandler (s : Server) (number : Nat) : Prop :=
  ∀ handler, s.handlers.get? number = some handler →
    handler.next ≠ .deviceGone ∧ handler.next ≠ .offline

theorem Owned.goes (h : Owned s) (hgoes : Goes s t number socket)
    (hnumber : s.MessageHandler number) : Owned t where
  toRegistered := h.toRegistered.leaves hgoes.toLeaves
  sessions := by
    intro sessionId session' hsession'
    obtain ⟨session, hsession, hbrowser, -⟩ := hgoes.sessions.sessions sessionId session' hsession'
    rw [hbrowser, hgoes.authenticatedSessionId, hgoes.closed]
    obtain ⟨hid, hopen⟩ := h.sessions sessionId session hsession
    refine ⟨hid, hopen.imp_right ?_⟩
    rintro ⟨other, handler, hget, hsocket, hnext⟩
    have hne : number ≠ other := by
      rintro rfl
      obtain ⟨hgone, hoffline⟩ := hnumber handler hget
      exact hnext.elim hgone hoffline
    exact ⟨other, handler, hgoes.get?_of_ne hne ▸ hget, hsocket, hnext⟩
  closing := by
    intro other handler hget hnext
    rw [hgoes.authenticatedDevice]
    rcases hgoes.get? hget with hget | ⟨-, hharmless⟩
    · exact h.closing other handler hget hnext
    · exact absurd hnext hharmless.deviceGone

theorem Owned.quiet (h : Owned s) (hquiet : Quiet s t) : Owned t where
  toRegistered := h.toRegistered.leaves hquiet.toLeaves
  sessions := by
    intro sessionId session' hsession'
    obtain ⟨session, hsession, hbrowser, -⟩ := hquiet.sessions.sessions sessionId session' hsession'
    unfold Closes
    rw [hbrowser, hquiet.authenticatedSessionId, hquiet.closed, hquiet.handlers]
    exact h.sessions sessionId session hsession
  closing := by
    rw [hquiet.handlers]
    intro other handler hget hnext
    rw [hquiet.authenticatedDevice]
    exact h.closing other handler hget hnext

/-! ## Registration -/

/-- The variables after a device has been registered. -/
theorem registerDevice_views (device : AuthenticatedDevice) (halive : s.closed? socket = some false)
    (other : Peer) :
    (s.registerDevice socket device).authenticatedDevice other =
        (if socket = other then some device else s.authenticatedDevice other) ∧
      (s.registerDevice socket device).authenticatedSessionId other =
        s.authenticatedSessionId other ∧
      (s.registerDevice socket device).closed? other = s.closed? other := by
  obtain ⟨connection, hconnection, hclosed⟩ := Option.map_eq_some_iff.1 halive
  simp only [registerDevice, authenticatedDevice_eq, authenticatedSessionId_eq, closed?,
    updateConnection_map]
  by_cases h : socket = other
  · subst h
    simp [hconnection]
  · simp [h]

theorem Owned.registerDevice {device : AuthenticatedDevice} (h : Owned s)
    (haccepts : s.AcceptsDevice socket device) : Owned (s.registerDevice socket device) := by
  have hdevice := fun other => (registerDevice_views device haccepts.alive other).1
  have hsession := fun other => (registerDevice_views device haccepts.alive other).2.1
  have hclosed := fun other => (registerDevice_views device haccepts.alive other).2.2
  obtain ⟨hdevices, hpings, hsessions, hhandlers⟩ := s.registerDevice_rest socket device
  constructor
  case toRegistered =>
    constructor
    case devices =>
      intro deviceId other hget
      rw [hdevices, OrdMap.get?_set] at hget
      rw [hclosed, hdevice]
      split at hget
      · next heq =>
        obtain rfl := Option.some.inj hget
        exact ⟨haccepts.alive, device, if_pos rfl, heq⟩
      · next hne =>
        have hother : socket ≠ other := by
          rintro rfl
          exact hne (haccepts.devices deviceId hget).symm
        rw [if_neg hother]
        exact h.devices deviceId other hget
    case cars =>
      intro carId connection hget
      rw [hsessions] at hget
      change (s.sessions.devicesByCar.set device.carId _).get? carId = some connection at hget
      rw [OrdMap.get?_set] at hget
      rw [hclosed, hdevice, hdevices]
      split at hget
      · next heq =>
        obtain rfl := Option.some.inj hget
        exact ⟨haccepts.alive, device, if_pos rfl, heq, OrdMap.get?_set_self _ _ _⟩
      · next hne =>
        -- a connection of another car is not this socket's, and does not lose its device to it
        have hpeer : socket ≠ connection.peer := fun heq =>
          hne (haccepts.cars carId connection hget (.inl heq.symm)).symm
        obtain ⟨halive, other, hother, hcar, hown⟩ := h.cars carId connection hget
        refine ⟨halive, other, (if_neg hpeer).trans hother, hcar, ?_⟩
        rw [OrdMap.get?_set_of_ne]
        · exact hown
        · intro heq
          exact hne (haccepts.cars carId connection hget (.inr (heq ▸ hown))).symm
    case browserPings =>
      intro other hping
      rw [hpings] at hping
      rw [hclosed]
      exact h.browserPings other hping
  case sessions =>
    intro sessionId session hget
    rw [hsessions] at hget
    unfold Closes
    rw [hsession, hclosed, hhandlers]
    exact h.sessions sessionId session hget
  case closing =>
    intro number handler hget hnext
    rw [hhandlers] at hget
    obtain ⟨other, hother⟩ := h.closing number handler hget hnext
    rw [hdevice]
    split
    · exact ⟨device, rfl⟩
    · exact ⟨other, hother⟩

/-- An authentication has failed: the connection has no device any more. -/
theorem Owned.forgetDevice (h : Owned s) (hloses : s.LosesNothing socket) :
    Owned (s.updateConnection socket fun connection =>
      { connection with authenticatedDevice := none }) := by
  obtain ⟨hdevices, hpings, hsessions, hhandlers⟩ :=
    updateConnection_rest s socket fun connection =>
      { connection with authenticatedDevice := none }
  have hdevice : ∀ other, socket ≠ other → (s.updateConnection socket fun connection =>
      { connection with authenticatedDevice := none }).authenticatedDevice other =
      s.authenticatedDevice other := by
    intro other hne
    rw [authenticatedDevice_eq, authenticatedDevice_eq, updateConnection_map, if_neg hne]
  have hsession : ∀ other, (s.updateConnection socket fun connection =>
      { connection with authenticatedDevice := none }).authenticatedSessionId other =
      s.authenticatedSessionId other := by
    intro other
    rw [authenticatedSessionId_eq, authenticatedSessionId_eq, updateConnection_map]
    split <;> rfl
  have hclosed : ∀ other, (s.updateConnection socket fun connection =>
      { connection with authenticatedDevice := none }).closed? other = s.closed? other := by
    intro other
    unfold closed?
    rw [updateConnection_map]
    split <;> rfl
  constructor
  case toRegistered =>
    constructor
    case devices =>
      intro deviceId other hget
      rw [hdevices] at hget
      rw [hclosed, hdevice other fun heq => hloses.devices deviceId (heq ▸ hget)]
      exact h.devices deviceId other hget
    case cars =>
      intro carId connection hget
      rw [hsessions] at hget
      rw [hclosed, hdevice _ (hloses.cars carId connection hget).symm, hdevices]
      exact h.cars carId connection hget
    case browserPings =>
      intro other hping
      rw [hpings] at hping
      rw [hclosed]
      exact h.browserPings other hping
  case sessions =>
    intro sessionId session hget
    rw [hsessions] at hget
    unfold Closes
    rw [hsession, hclosed, hhandlers]
    exact h.sessions sessionId session hget
  case closing =>
    intro number handler hget hnext
    rw [hhandlers] at hget
    rw [hdevice _ fun heq => hloses.closing number handler hget heq.symm hnext]
    exact h.closing number handler hget hnext

theorem registerBrowser_views (sessionId : Uuid) (halive : s.closed? socket = some false)
    (other : Peer) :
    (s.registerBrowser socket sessionId).authenticatedDevice other =
        s.authenticatedDevice other ∧
      (s.registerBrowser socket sessionId).authenticatedSessionId other =
        (if socket = other then some sessionId else s.authenticatedSessionId other) ∧
      (s.registerBrowser socket sessionId).closed? other = s.closed? other := by
  obtain ⟨connection, hconnection, hclosed⟩ := Option.map_eq_some_iff.1 halive
  simp only [registerBrowser, authenticatedDevice_eq, authenticatedSessionId_eq, closed?,
    updateConnection_map]
  by_cases h : socket = other
  · subst h
    simp [hconnection]
  · simp [h]

/-- A browser is attached, the peers are told, and the socket takes the session. -/
theorem Owned.registerBrowser {session : BrowserSession} {now : Int} (h : Owned s)
    (hattachable : s.sessions.attachable session.sessionId session.carId = true)
    (haccepts : s.AcceptsBrowser socket)
    (hquiet : Quiet { s with sessions := (s.sessions.attachBrowser session socket now).2.1 } t) :
    Owned (t.registerBrowser socket session.sessionId) := by
  obtain ⟨active, hbrowser, -, -, hcars, hsessions⟩ :=
    SessionRegistry.attachBrowser_of session socket now hattachable
  have halive : t.closed? socket = some false := (hquiet.closed socket).trans haccepts.alive
  have hdevice : ∀ other, (t.registerBrowser socket session.sessionId).authenticatedDevice other =
      s.authenticatedDevice other := fun other =>
    (registerBrowser_views _ halive other).1.trans (hquiet.authenticatedDevice other)
  have hclosed : ∀ other, (t.registerBrowser socket session.sessionId).closed? other =
      s.closed? other := fun other =>
    (registerBrowser_views _ halive other).2.2.trans (hquiet.closed other)
  have hsession := fun other =>
    (registerBrowser_views session.sessionId halive other).2.1
  obtain ⟨hdevices, hpings, hregistry, hhandlers⟩ := t.registerBrowser_rest socket session.sessionId
  constructor
  case toRegistered =>
    constructor
    case devices =>
      intro deviceId other hget
      rw [hdevices, hquiet.devices] at hget
      rw [hclosed, hdevice]
      exact h.devices deviceId other hget
    case cars =>
      intro carId connection hget
      rw [hregistry, hquiet.sessions.devices] at hget
      change (s.sessions.attachBrowser session socket now).2.1.devicesByCar.get? carId = _ at hget
      rw [hcars] at hget
      rw [hclosed, hdevice, hdevices, hquiet.devices]
      exact h.cars carId connection hget
    case browserPings =>
      intro other hping
      rw [hclosed]
      rw [hpings] at hping
      obtain ⟨ping, hget⟩ := OrdMap.has_iff.1 hping
      rw [OrdMap.get?_set] at hget
      split at hget
      · next heq => exact heq ▸ haccepts.alive
      · exact h.browserPings other (hquiet.browserPings other (OrdMap.has_iff.2 ⟨ping, hget⟩))
  case sessions =>
    intro sessionId session' hget
    rw [hregistry] at hget
    obtain ⟨session'', hget, heq, -⟩ := hquiet.sessions.sessions sessionId session' hget
    change (s.sessions.attachBrowser session socket now).2.1.sessions.get? sessionId = _ at hget
    rw [hsessions, OrdMap.get?_set] at hget
    unfold Closes
    rw [heq, hclosed, hsession, hhandlers, hquiet.handlers]
    split at hget
    · next hid =>
      obtain rfl := Option.some.inj hget
      rw [hbrowser, if_pos rfl]
      exact ⟨congrArg some hid, .inl haccepts.alive⟩
    · rw [if_neg (haccepts.sessions sessionId session'' hget).symm,
        hquiet.authenticatedSessionId]
      exact h.sessions sessionId session'' hget
  case closing =>
    rw [hhandlers, hquiet.handlers]
    intro number handler hget hnext
    rw [hdevice]
    exact h.closing number handler hget hnext

/-! ## The close handler -/

/-- As `Owned`, but for the session of a socket whose close handler is about to take it out. -/
structure Settling (s : Server) (number : Nat) (socket : Peer) : Prop extends Registered s where
  sessions : ∀ sessionId session, s.sessions.sessions.get? sessionId = some session →
    s.authenticatedSessionId session.browser = some sessionId ∧
      (session.browser = socket ∨ s.closed? session.browser = some false ∨
        ∃ other, other ≠ number ∧ s.Closes session.browser other)
  closing : ∀ other handler, s.handlers.get? other = some handler → other ≠ number →
    handler.next = .deviceGone → ∃ device, s.authenticatedDevice handler.socket = some device

/-- A part of the close handler has its reply. -/
theorem Owned.settling (h : Owned s)
    (hnumber : ∀ handler, s.handlers.get? number = some handler → handler.socket = socket) :
    Settling s number socket where
  toRegistered := h.toRegistered
  sessions := by
    intro sessionId session hsession
    obtain ⟨hid, hopen⟩ := h.sessions sessionId session hsession
    refine ⟨hid, ?_⟩
    rcases hopen with hopen | ⟨other, handler, hget, hsocket, hnext⟩
    · exact .inr (.inl hopen)
    · by_cases heq : other = number
      · subst heq
        exact .inl (hsocket.symm.trans (hnumber handler hget))
      · exact .inr (.inr ⟨other, heq, handler, hget, hsocket, hnext⟩)
  closing := fun other handler hget _ => h.closing other handler hget

theorem Settling.quiet (h : Settling s number socket) (hquiet : Quiet s t) :
    Settling t number socket where
  toRegistered := h.toRegistered.leaves hquiet.toLeaves
  sessions := by
    intro sessionId session' hsession'
    obtain ⟨session, hsession, hbrowser, -⟩ := hquiet.sessions.sessions sessionId session' hsession'
    unfold Closes
    rw [hbrowser, hquiet.authenticatedSessionId, hquiet.closed, hquiet.handlers]
    exact h.sessions sessionId session hsession
  closing := by
    rw [hquiet.handlers]
    intro other handler hget hne hnext
    rw [hquiet.authenticatedDevice]
    exact h.closing other handler hget hne hnext

/-- The close handler waits, with its session still before it. -/
theorem Settling.await {call : StoreRequest} {next : Continuation} {device : AuthenticatedDevice}
    (h : Settling s number socket) (hdevice : s.authenticatedDevice socket = some device)
    (hnext : next = .deviceGone ∨ next = .offline) :
    Owned (s.await number socket call next) where
  toRegistered := ⟨h.devices, h.cars, h.browserPings⟩
  sessions := by
    intro sessionId session hsession
    obtain ⟨hid, hopen⟩ := h.sessions sessionId session hsession
    refine ⟨hid, ?_⟩
    rcases hopen with rfl | hopen | ⟨other, hne, handler, hget, hsocket, hlater⟩
    · exact .inr ⟨number, _, OrdMap.get?_set_self _ _ _, rfl, hnext⟩
    · exact .inl hopen
    · exact .inr ⟨other, handler, (OrdMap.get?_set_of_ne _ _ hne.symm).trans hget, hsocket, hlater⟩
  closing := by
    intro other handler hget hlater
    change (s.handlers.set number _).get? other = some handler at hget
    rw [OrdMap.get?_set] at hget
    split at hget
    · obtain rfl := Option.some.inj hget
      exact ⟨device, hdevice⟩
    · next hne => exact h.closing other handler hget (Ne.symm hne) hlater

/-- The handlers without one, or with it awaiting something else than a part of a close. -/
theorem Settling.finish (h : Settling s number socket)
    (hsessions : ∀ sessionId session, s.sessions.sessions.get? sessionId = some session →
      session.browser ≠ socket) {handlers : OrdMap Nat Handler}
    (hhandlers : handlers = s.handlers.delete number ∨ ∃ call,
      handlers = s.handlers.set number { socket, call, next := .browserGone }) :
    Owned { s with handlers } := by
  have hother : ∀ other, other ≠ number → handlers.get? other = s.handlers.get? other := by
    intro other hne
    rcases hhandlers with rfl | ⟨call, rfl⟩
    · exact OrdMap.get?_delete_of_ne _ hne.symm
    · exact OrdMap.get?_set_of_ne _ _ hne.symm
  have hself : ∀ handler, handlers.get? number = some handler → handler.next = .browserGone := by
    intro handler hget
    rcases hhandlers with rfl | ⟨call, rfl⟩
    · rw [OrdMap.get?_delete_self] at hget
      cases hget
    · rw [OrdMap.get?_set_self] at hget
      obtain rfl := Option.some.inj hget
      rfl
  constructor
  case toRegistered => exact ⟨h.devices, h.cars, h.browserPings⟩
  case sessions =>
    intro sessionId session hsession
    obtain ⟨hid, hopen⟩ := h.sessions sessionId session hsession
    refine ⟨hid, ?_⟩
    rcases hopen with heq | hopen | ⟨other, hne, handler, hget, hsocket, hnext⟩
    · exact absurd heq (hsessions sessionId session hsession)
    · exact .inl hopen
    · exact .inr ⟨other, handler, (hother other hne).trans hget, hsocket, hnext⟩
  case closing =>
    intro other handler hget hnext
    by_cases hne : other = number
    · subst hne
      cases (hself handler hget).symm.trans hnext
    · exact h.closing other handler ((hother other hne).symm.trans hget) hne hnext

/-- The last part of the close handler takes out the session. -/
theorem Settling.closeBrowser (h : Settling s number socket) (now : Int) :
    Owned (s.closeBrowser number socket now) := by
  unfold Server.closeBrowser
  split
  · next hnone =>
    refine h.finish (fun sessionId session hsession => ?_) (.inl rfl)
    rintro rfl
    cases hnone.symm.trans (h.sessions sessionId session hsession).1
  · next sessionId hsome =>
    have hdetach : Quiet s
        { s with sessions := (s.sessions.detachBrowser sessionId "browser disconnected").1 } :=
      quiet_sessions (SessionRegistry.endSession_shrinks _ _ _ _)
    have hperform := quiet_perform
      { s with sessions := (s.sessions.detachBrowser sessionId "browser disconnected").1 }
      (s.sessions.endSession_isOffer sessionId "browser disconnected" true)
    refine (h.quiet (hdetach.trans hperform)).finish (fun other session hsession heq => ?_)
      (.inr ⟨_, rfl⟩)
    -- the socket's only session is the one that goes
    obtain ⟨session', hsession', hbrowser, -⟩ := hperform.sessions.sessions other session hsession
    change (s.sessions.endSession sessionId _ true).1.sessions.get? other = _ at hsession'
    rw [SessionRegistry.endSession_get?] at hsession'
    split at hsession'
    · cases hsession'
    · next hne =>
      have hother := (h.sessions other session' hsession').1
      rw [← hbrowser, heq, hsome] at hother
      exact hne (Option.some.inj hother)

theorem markClosed_views (s : Server) (socket other : Peer) :
    (s.markClosed socket).authenticatedDevice other = s.authenticatedDevice other ∧
      (s.markClosed socket).authenticatedSessionId other = s.authenticatedSessionId other ∧
      (socket ≠ other → (s.markClosed socket).closed? other = s.closed? other) := by
  simp only [markClosed, authenticatedDevice_eq, authenticatedSessionId_eq, closed?,
    updateConnection_map]
  by_cases h : socket = other
  · subst h
    rw [if_pos rfl, if_pos rfl]
    exact ⟨rfl, rfl, fun h => absurd rfl h⟩
  · simp [h]

/-- The socket is marked closed and its device, if it still has one, is out of the maps. -/
theorem Owned.settling_of_markClosed (h : Owned s) (socket : Peer) (devices : OrdMap Uuid Peer)
    (sessions : SessionRegistry) (hnumber : s.handlers.get? number = none)
    (hdevices : ∀ deviceId other, devices.get? deviceId = some other →
      s.devices.get? deviceId = some other ∧ other ≠ socket)
    (hcars : ∀ carId connection, sessions.devicesByCar.get? carId = some connection →
      s.sessions.devicesByCar.get? carId = some connection ∧ connection.peer ≠ socket)
    (hkept : ∀ deviceId other, s.devices.get? deviceId = some other → other ≠ socket →
      devices.get? deviceId = some other)
    (hsessions : ∀ sessionId session, sessions.sessions.get? sessionId = some session →
      s.sessions.sessions.get? sessionId = some session) :
    Settling { s.markClosed socket with devices, sessions } number socket := by
  have hdevice := fun other => (s.markClosed_views socket other).1
  have hsession := fun other => (s.markClosed_views socket other).2.1
  have hclosed : ∀ {other}, other ≠ socket →
      (s.markClosed socket).closed? other = s.closed? other :=
    fun {other} hne => (s.markClosed_views socket other).2.2 hne.symm
  obtain ⟨-, hpings, -, hhandlers⟩ := s.markClosed_rest socket
  constructor
  case toRegistered =>
    constructor
    case devices =>
      intro deviceId other hget
      obtain ⟨hget, hne⟩ := hdevices deviceId other hget
      obtain ⟨halive, device, hother, hid⟩ := h.devices deviceId other hget
      exact ⟨(hclosed hne).trans halive, device, (hdevice other).trans hother, hid⟩
    case cars =>
      intro carId connection hget
      obtain ⟨hget, hne⟩ := hcars carId connection hget
      obtain ⟨halive, device, hother, hcar, hown⟩ := h.cars carId connection hget
      exact ⟨(hclosed hne).trans halive, device, (hdevice _).trans hother, hcar,
        hkept _ _ hown hne⟩
    case browserPings =>
      intro other hping
      change (s.markClosed socket).browserPings.has other = true at hping
      rw [hpings] at hping
      obtain ⟨ping, hget⟩ := OrdMap.has_iff.1 hping
      obtain ⟨hne, hget⟩ := OrdMap.get?_of_get?_delete hget
      exact (hclosed hne.symm).trans (h.browserPings other (OrdMap.has_iff.2 ⟨ping, hget⟩))
  case sessions =>
    intro sessionId session hget
    obtain ⟨hid, hopen⟩ := h.sessions sessionId session (hsessions sessionId session hget)
    refine ⟨(hsession _).trans hid, ?_⟩
    by_cases heq : session.browser = socket
    · exact .inl heq
    refine .inr (hopen.imp (hclosed heq).trans ?_)
    rintro ⟨other, handler, hget, hcloses⟩
    refine ⟨other, ?_, handler, (congrArg (·.get? other) hhandlers).trans hget, hcloses⟩
    rintro rfl
    cases hnumber.symm.trans hget
  case closing =>
    intro other handler hget _ hnext
    change (s.markClosed socket).handlers.get? other = some handler at hget
    rw [hhandlers] at hget
    obtain ⟨device, hother⟩ := h.closing other handler hget hnext
    exact ⟨device, (hdevice _).trans hother⟩

/-- The close handler takes the device out of the maps. -/
theorem Owned.releaseDevice {device : AuthenticatedDevice} {now : Int} (h : Owned s)
    (hnumber : s.handlers.get? number = none)
    (hdevice : s.authenticatedDevice socket = some device)
    (hown : s.devices.get? device.deviceId = some socket) :
    Owned ((s.markClosed socket).releaseDevice number socket device now) := by
  obtain ⟨hdevices, -, hregistry, -⟩ := s.markClosed_rest socket
  have hsettling : Settling
      { s.markClosed socket with
        devices := (s.markClosed socket).devices.delete device.deviceId
        sessions := ((s.markClosed socket).sessions.detachDevice device.carId socket).2.1 }
      number socket := by
    rw [hdevices, hregistry]
    refine h.settling_of_markClosed socket _ _ hnumber ?_ ?_ ?_ ?_
    · intro deviceId other hget
      obtain ⟨hne, hget⟩ := OrdMap.get?_of_get?_delete hget
      refine ⟨hget, ?_⟩
      rintro rfl
      obtain ⟨-, device', hdevice', rfl⟩ := h.devices deviceId other hget
      obtain rfl := Option.some.inj (hdevice.symm.trans hdevice')
      exact hne rfl
    · intro carId connection hget
      obtain ⟨hkept, hpeer⟩ := SessionRegistry.detachDevice_devices hget
      refine ⟨hkept, fun heq => ?_⟩
      obtain ⟨-, device', hdevice', hcar, -⟩ := h.cars carId connection hkept
      rw [heq, hdevice] at hdevice'
      obtain rfl := Option.some.inj hdevice'
      exact hpeer hcar.symm heq
    · intro deviceId other hget hne
      rw [OrdMap.get?_delete_of_ne]
      · exact hget
      · rintro rfl
        exact hne (Option.some.inj (hget.symm.trans hown))
    · exact fun sessionId session hget => SessionRegistry.detachDevice_sessions hget
  have hquiet := quiet_perform
    { s.markClosed socket with
      devices := (s.markClosed socket).devices.delete device.deviceId
      sessions := ((s.markClosed socket).sessions.detachDevice device.carId socket).2.1 }
    ((s.markClosed socket).sessions.detachDevice_isOffer device.carId socket)
  have hstill := (hquiet.authenticatedDevice socket).trans
    ((s.markClosed_views socket socket).1.trans hdevice)
  unfold Server.releaseDevice
  dsimp only
  split
  · exact (hsettling.quiet hquiet).await hstill (.inl rfl)
  · unfold disconnect
    rw [hstill]
    exact (hsettling.quiet hquiet).await hstill (.inr rfl)

theorem Owned.onClose {now : Int} (h : Owned s) (hnumber : s.handlers.get? number = none) :
    Owned (s.onClose number socket now) := by
  have hviews := (s.markClosed_views socket socket).1
  obtain ⟨hdevices, -, hregistry, -⟩ := s.markClosed_rest socket
  have hsettling : (∀ device, s.authenticatedDevice socket = some device →
      s.devices.get? device.deviceId ≠ some socket) →
      Settling (s.markClosed socket) number socket := by
    intro hnone
    have hsettling : Settling
        { s.markClosed socket with devices := s.devices, sessions := s.sessions } number
        socket := by
      refine h.settling_of_markClosed socket s.devices s.sessions hnumber ?_ ?_
        (fun _ _ hget _ => hget) fun _ _ hget => hget
      · intro deviceId other hget
        refine ⟨hget, ?_⟩
        rintro rfl
        obtain ⟨-, device, hdevice, rfl⟩ := h.devices deviceId other hget
        exact hnone device hdevice hget
      · intro carId connection hget
        refine ⟨hget, ?_⟩
        rintro rfl
        obtain ⟨-, device, hdevice, -, hown⟩ := h.cars carId connection hget
        exact hnone device hdevice hown
    rwa [← hdevices, ← hregistry] at hsettling
  unfold Server.onClose
  split
  · exact h
  dsimp only
  rw [hviews, hdevices]
  split
  · next hnone =>
    refine (hsettling fun device hdevice => ?_).closeBrowser now
    cases hnone.symm.trans hdevice
  · next device hdevice =>
    split
    · next hown => exact h.releaseDevice hnumber hdevice hown
    · next hother =>
      refine (hsettling fun device' hdevice' => ?_).closeBrowser now
      obtain rfl := Option.some.inj (hdevice.symm.trans hdevice')
      exact hother

/-! ## Steps -/

variable {config : GatewayConfig}

theorem Owned.connect (h : Owned s) (hfresh : s.connections.has socket = false) :
    Owned { s with connections := s.connections.set socket connection } := by
  have hnone : s.connections.get? socket = none := OrdMap.has_eq_false_iff.1 hfresh
  have hother : ∀ {other closed}, s.closed? other = some closed →
      ({ s with connections := s.connections.set socket connection } : Server).connections.get?
        other = s.connections.get? other := by
    intro other closed halive
    refine OrdMap.get?_set_of_ne _ _ ?_
    rintro rfl
    rw [closed?, hnone] at halive
    cases halive
  have hclosed : ∀ {other closed}, s.closed? other = some closed →
      ({ s with connections := s.connections.set socket connection } : Server).closed? other =
        some closed := fun {other closed} halive => by
    rw [closed?, hother halive]
    exact halive
  have hconnected : ∀ {β : Type} {other : Peer} {f : Connection → Option β} {b : β},
      (s.connections.get? other).bind f = some b → ∃ closed, s.closed? other = some closed := by
    intro β other f b hbind
    obtain ⟨connection, hget, -⟩ := Option.bind_eq_some_iff.1 hbind
    exact ⟨connection.closed, congrArg (Option.map _) hget⟩
  have hdevice : ∀ {other device}, s.authenticatedDevice other = some device →
      ({ s with connections := s.connections.set socket connection } : Server).authenticatedDevice
        other = some device := by
    intro other device hget
    obtain ⟨closed, halive⟩ := hconnected hget
    rw [authenticatedDevice, hother halive]
    exact hget
  constructor
  case toRegistered =>
    constructor
    case devices =>
      intro deviceId other hget
      obtain ⟨halive, device, hget, hid⟩ := h.devices deviceId other hget
      exact ⟨hclosed halive, device, hdevice hget, hid⟩
    case cars =>
      intro carId connection hget
      obtain ⟨halive, device, hget, hcar⟩ := h.cars carId connection hget
      exact ⟨hclosed halive, device, hdevice hget, hcar⟩
    case browserPings => exact fun other hping => hclosed (h.browserPings other hping)
  case sessions =>
    intro sessionId session hget
    obtain ⟨hid, hopen⟩ := h.sessions sessionId session hget
    obtain ⟨closed, halive⟩ := hconnected hid
    refine ⟨?_, hopen.imp_left hclosed⟩
    rw [authenticatedSessionId, hother halive]
    exact hid
  case closing =>
    intro number handler hget hnext
    obtain ⟨device, hget⟩ := h.closing number handler hget hnext
    exact ⟨device, hdevice hget⟩

/-- A handler goes on. -/
theorem Owned.resume {handler : Handler} {reply : Reply} {now : Int} (h : Owned s)
    (hhandler : s.handlers.get? number = some handler)
    (htimely : Timely config s (.reply number reply now))
    (hstep : s.resume config number handler reply now = some t) : Owned t := by
  have htimely := htimely handler hhandler
  have hself : ∀ {handler'}, s.handlers.get? number = some handler' → handler = handler' :=
    fun hget => Option.some.inj (hhandler.symm.trans hget)
  have hmessage : handler.next ≠ .deviceGone → handler.next ≠ .offline →
      s.MessageHandler number := fun hgone hoffline handler' hget =>
    hself hget ▸ ⟨hgone, hoffline⟩
  have hsettling : Settling s number handler.socket :=
    h.settling fun handler' hget => hself hget ▸ rfl
  cases s.resume_cases number hstep with
  | accepted device hnext =>
    rw [hnext] at htimely
    have hmessage : (s.registerDevice handler.socket device).MessageHandler number := by
      unfold MessageHandler
      rw [(s.registerDevice_rest handler.socket device).2.2.2]
      exact hmessage (hnext ▸ nofun) (hnext ▸ nofun)
    exact (h.registerDevice htimely).goes (s.onAuthenticated_goes number handler.socket device now)
      hmessage
  | rejected hnext =>
    rw [hnext] at htimely
    have hmessage : (s.updateConnection handler.socket fun connection =>
        { connection with authenticatedDevice := none }).MessageHandler number := by
      unfold MessageHandler
      rw [(s.updateConnection_rest handler.socket _).2.2.2]
      exact hmessage (hnext ▸ nofun) (hnext ▸ nofun)
    exact (h.forgetDevice htimely).goes (reject_goes _ _ _ _ _ _) hmessage
  | attached ticket expiresAt hnext hice hattachable =>
    rw [hnext] at htimely
    obtain ⟨session, hid, hcar, t, hquiet, hgoes⟩ :=
      s.onAuthorized_of number handler.socket ticket expiresAt now hice hattachable
    have hattachable' : s.sessions.attachable session.sessionId session.carId = true := by
      rwa [hid, hcar]
    have hmessage : (t.registerBrowser handler.socket ticket.sessionId).MessageHandler number := by
      unfold MessageHandler
      rw [(t.registerBrowser_rest handler.socket _).2.2.2, hquiet.handlers]
      exact hmessage (hnext ▸ nofun) (hnext ▸ nofun)
    have hregistered := h.registerBrowser hattachable' (htimely hice hattachable) hquiet
    rw [hid] at hregistered
    exact hregistered.goes hgoes hmessage
  | offered device offer hnext =>
    have hmessage := hmessage (hnext ▸ nofun) (hnext ▸ nofun)
    have hfinish : ∀ u : Server, Goes u (u.finish number) number handler.socket :=
      fun u => (Quiet.refl u).finish
    unfold act
    dsimp only
    split
    · have hsent : Owned { s with
          sent := s.sent ++ [(handler.socket, .deviceUpdateAvailable offer)] } :=
        ⟨⟨h.devices, h.cars, h.browserPings⟩, h.sessions, h.closing⟩
      exact hsent.goes (hfinish _) hmessage
    · exact h.goes (hfinish s) hmessage
  | deviceGone _ hnext =>
    obtain ⟨device, hdevice⟩ := h.closing number handler hhandler hnext
    unfold disconnect
    rw [hdevice]
    exact hsettling.await hdevice (.inr rfl)
  | offline _ hnext => exact hsettling.closeBrowser now
  | goes _ hgone hoffline hgoes => exact h.goes hgoes (hmessage hgone hoffline)

theorem Owned.step {event : Event} (h : Owned s) (htimely : Timely config s event)
    (hstep : s.step config event = some t) : Owned t := by
  cases event with
  | connect socket =>
    obtain ⟨hfresh, heq⟩ := Option.ite_none_left_eq_some.1 hstep
    obtain rfl := Option.some.inj heq
    exact h.connect (Bool.eq_false_iff.2 hfresh)
  | message socket number message now =>
    obtain ⟨⟨-, hnumber⟩, heq⟩ := Option.ite_none_right_eq_some.1 hstep
    obtain rfl := Option.some.inj heq
    refine h.goes (s.onMessage_goes number socket message now) fun handler hget => ?_
    cases (OrdMap.has_eq_false_iff.1 hnumber).symm.trans hget
  | reply number reply now =>
    obtain ⟨handler, hhandler, hresume⟩ := Option.bind_eq_some_iff.1 hstep
    exact h.resume hhandler htimely hresume
  | pong socket =>
    obtain rfl := Option.some.inj hstep
    exact h.quiet (s.quiet_pong socket)
  | closing socket =>
    obtain rfl := Option.some.inj hstep
    exact h.quiet (s.quiet_updateConnection socket (fun _ => rfl) (fun _ => rfl) fun _ => rfl)
  | close socket number now =>
    obtain ⟨⟨-, hnumber⟩, heq⟩ := Option.ite_none_right_eq_some.1 hstep
    obtain rfl := Option.some.inj heq
    exact h.onClose (OrdMap.has_eq_false_iff.1 hnumber)
  | authenticationTimeout socket =>
    obtain ⟨-, heq⟩ := Option.ite_none_right_eq_some.1 hstep
    obtain rfl := Option.some.inj heq
    exact h.quiet (s.quiet_onAuthenticationTimeout socket)
  | sweep now =>
    obtain rfl := Option.some.inj hstep
    exact h.quiet (s.quiet_sweep now)
  | pingBrowsers now failing =>
    obtain rfl := Option.some.inj hstep
    exact h.quiet (s.quiet_pingBrowsers now failing)

/-- **Main result.** When every reply to an authentication comes in time, nothing that a socket put
into the maps outlives its handlers. -/
theorem nothing_outlives_its_socket {events : List Event}
    (hrun : Run (fun s event t => StepOf (step config) s event t ∧ Timely config s event) empty
      events s)
    (hfinished : s.Finished socket) : s.Forgotten socket := by
  have howned : Owned s := hrun.invariant owned_empty fun h hs => h.step hs.2 hs.1
  exact howned.forgotten hfinished

/-! ## A reply that comes too late -/

def openConfig : GatewayConfig :=
  { hashOpaqueSecret := id, verifyBrowserTicket := fun _ _ => none
    iceServers := fun _ _ => some [] }

def car : AuthenticatedDevice :=
  { deviceId := 1, carId := 2, agentVersion := "1.0.0"
    capabilities := { controlProtocolVersion := none, otaRuntimeGeneration := none } }

def authenticateCar : ClientMessage := .deviceAuthenticate 1 "secret" "1.0.0" none

/-- The socket closes while `authenticateDevice` is awaited. -/
def lateReply : List Event :=
  [.connect 0, .message 0 0 (some authenticateCar) 1000, .close 0 1 1001,
    .reply 0 (.device (some car)) 1002]

def lateReplyEnd : Server :=
  let connection : Connection :=
    { authenticatedDevice := some car, authenticatedSessionId := none, closed := true
      isOpen := false, timeoutArmed := false }
  { connections := OrdMap.set ∅ 0 connection
    devices := OrdMap.set ∅ 1 0
    browserPings := ∅
    sessions := (SessionRegistry.empty.attachDevice 2 1 0).1
    handlers := ∅
    sent := [] }

/-- The device is registered under a socket that no handler will ever touch again. -/
theorem lateReply_registered :
    Run (StepOf (step openConfig)) empty lateReply lateReplyEnd ∧ lateReplyEnd.Finished 0 ∧
      ¬ lateReplyEnd.Forgotten 0 := by
  refine ⟨run_of_runList rfl, ⟨rfl, by simp [lateReplyEnd]⟩, fun hforgotten => ?_⟩
  exact hforgotten.devices 1 rfl

/-- The socket closes after the device has been registered. -/
def timelyReply : List Event :=
  [.connect 0, .message 0 0 (some authenticateCar) 1000, .reply 0 (.device (some car)) 1001,
    .close 0 1 1002, .reply 1 .done 1003]

def timelyReplyEnd : Server :=
  let connection : Connection :=
    { authenticatedDevice := some car, authenticatedSessionId := none, closed := true
      isOpen := false, timeoutArmed := false }
  { connections := OrdMap.set ∅ 0 connection
    devices := ∅
    browserPings := ∅
    sessions := .empty
    handlers := ∅
    sent := [(0, .authAccepted .device)] }

theorem timelyReply_forgotten :
    Run (fun s event t => StepOf (step openConfig) s event t ∧ Timely openConfig s event) empty
      timelyReply timelyReplyEnd ∧ timelyReplyEnd.Forgotten 0 := by
  have hrun : Run (fun s event t => StepOf (step openConfig) s event t ∧ Timely openConfig s event)
      empty timelyReply timelyReplyEnd := by
    refine .cons ⟨rfl, trivial⟩ (.cons ⟨rfl, trivial⟩ (.cons ⟨rfl, fun handler hget => ?_⟩
      (.cons ⟨rfl, trivial⟩ (.cons ⟨rfl, fun handler hget => ?_⟩ .nil))))
    · obtain rfl := Option.some.inj hget
      have hdevices : ∀ deviceId, (∅ : OrdMap Uuid Peer).get? deviceId = some 0 →
          deviceId = car.deviceId := by simp
      have hcars : ∀ carId connection,
          (∅ : OrdMap Uuid DeviceConnection).get? carId = some connection →
          (connection.peer = 0 ∨
            (∅ : OrdMap Uuid Peer).get? car.deviceId = some connection.peer) →
          carId = car.carId := by simp
      exact ⟨rfl, hdevices, hcars⟩
    · obtain rfl := Option.some.inj hget
      trivial
  exact ⟨hrun, nothing_outlives_its_socket hrun ⟨rfl, by simp [timelyReplyEnd]⟩⟩

end Server

end RcOnline.Gateway
