import RcOnline.Gateway.Server

/-!
# What the gateway's handlers leave alone

Most events leave the maps and the variables of the connections as they are (`Leaves`, `Quiet`):
messages go out, sockets begin to close, sessions and pings go. A message handler does no more than
that before it awaits its next call or ends (`Goes`); what it awaits is no part of a close handler,
and an offer of an update only for a car without a session (`Harmless`). The exceptions are a device
or a browser that is registered, an offer, and the close handler.
-/

namespace RcOnline.Gateway

open RcOnline.Lib RcOnline.Schema

namespace Server

variable {s t u : Server}

/-! ## Quiet steps -/

/-- The updates that have been offered. -/
def offers (s : Server) : List (Peer × ServerMessage) := s.sent.filter (·.2.isOffer)

/-- Nothing changes but the handlers, which sockets are open, what has been sent, when a ping went
out, and sessions and pings that go. -/
structure Leaves (s t : Server) : Prop where
  devices : t.devices = s.devices
  browserPings : ∀ socket, t.browserPings.has socket = true → s.browserPings.has socket = true
  sessions : s.sessions.Shrinks t.sessions
  authenticatedDevice : ∀ socket, t.authenticatedDevice socket = s.authenticatedDevice socket
  authenticatedSessionId : ∀ socket,
    t.authenticatedSessionId socket = s.authenticatedSessionId socket
  closed : ∀ socket, t.closed? socket = s.closed? socket
  offers : t.offers = s.offers

theorem Leaves.refl (s : Server) : Leaves s s where
  devices := rfl
  browserPings := fun _ => id
  sessions := .refl _
  authenticatedDevice := fun _ => rfl
  authenticatedSessionId := fun _ => rfl
  closed := fun _ => rfl
  offers := rfl

theorem Leaves.trans (h : Leaves s t) (h' : Leaves t u) : Leaves s u where
  devices := h'.devices.trans h.devices
  browserPings := fun socket => h.browserPings socket ∘ h'.browserPings socket
  sessions := h.sessions.trans h'.sessions
  authenticatedDevice := fun socket =>
    (h'.authenticatedDevice socket).trans (h.authenticatedDevice socket)
  authenticatedSessionId := fun socket =>
    (h'.authenticatedSessionId socket).trans (h.authenticatedSessionId socket)
  closed := fun socket => (h'.closed socket).trans (h.closed socket)
  offers := h'.offers.trans h.offers

/-- The handlers stay too. -/
structure Quiet (s t : Server) : Prop extends Leaves s t where
  handlers : t.handlers = s.handlers

theorem Quiet.refl (s : Server) : Quiet s s := ⟨.refl s, rfl⟩

theorem Quiet.trans (h : Quiet s t) (h' : Quiet t u) : Quiet s u :=
  ⟨h.toLeaves.trans h'.toLeaves, h'.handlers.trans h.handlers⟩

/-- A variable of a connection after an update of one connection. -/
theorem updateConnection_map {β : Type} (s : Server) (socket other : Peer)
    (f : Connection → Connection) (g : Connection → β) :
    ((s.updateConnection socket f).connections.get? other).map g =
      if socket = other then (s.connections.get? other).map (g ∘ f)
      else (s.connections.get? other).map g := by
  unfold updateConnection
  split
  · next hnone =>
    split
    · next heq =>
      subst heq
      rw [hnone]
      rfl
    · rfl
  · next connection hsome =>
    dsimp only
    rw [OrdMap.get?_set]
    split
    · next heq =>
      subst heq
      rw [hsome]
      rfl
    · rfl

theorem authenticatedDevice_eq (s : Server) (socket : Peer) :
    s.authenticatedDevice socket =
      ((s.connections.get? socket).map (·.authenticatedDevice)).join := by
  unfold authenticatedDevice
  cases s.connections.get? socket <;> rfl

theorem authenticatedSessionId_eq (s : Server) (socket : Peer) :
    s.authenticatedSessionId socket =
      ((s.connections.get? socket).map (·.authenticatedSessionId)).join := by
  unfold authenticatedSessionId
  cases s.connections.get? socket <;> rfl

theorem updateConnection_rest (s : Server) (socket : Peer) (f : Connection → Connection) :
    (s.updateConnection socket f).devices = s.devices ∧
      (s.updateConnection socket f).browserPings = s.browserPings ∧
      (s.updateConnection socket f).sessions = s.sessions ∧
      (s.updateConnection socket f).handlers = s.handlers := by
  unfold updateConnection
  split <;> exact ⟨rfl, rfl, rfl, rfl⟩

theorem updateConnection_sent (s : Server) (socket : Peer) (f : Connection → Connection) :
    (s.updateConnection socket f).sent = s.sent := by
  unfold updateConnection
  split <;> rfl

/-- An update of variables that no handler reads. -/
theorem quiet_updateConnection (s : Server) (socket : Peer) {f : Connection → Connection}
    (hdevice : ∀ c, (f c).authenticatedDevice = c.authenticatedDevice)
    (hsession : ∀ c, (f c).authenticatedSessionId = c.authenticatedSessionId)
    (hclosed : ∀ c, (f c).closed = c.closed) : Quiet s (s.updateConnection socket f) := by
  obtain ⟨hdevices, hpings, hsessions, hhandlers⟩ := updateConnection_rest s socket f
  refine ⟨⟨hdevices, hpings ▸ fun _ => id, hsessions ▸ .refl _, fun other => ?_, fun other => ?_,
    fun other => ?_, congrArg (List.filter _) (s.updateConnection_sent socket f)⟩, hhandlers⟩
  · rw [authenticatedDevice_eq, authenticatedDevice_eq, updateConnection_map]
    split
    · exact congrArg (fun g => ((s.connections.get? other).map g).join) (funext hdevice)
    · rfl
  · rw [authenticatedSessionId_eq, authenticatedSessionId_eq, updateConnection_map]
    split
    · exact congrArg (fun g => ((s.connections.get? other).map g).join) (funext hsession)
    · rfl
  · unfold closed?
    rw [updateConnection_map]
    split
    · exact congrArg (fun g => (s.connections.get? other).map g) (funext hclosed)
    · rfl

theorem quiet_act (s : Server) {action : PeerAction} (h : action.isOffer = false) :
    Quiet s (s.act action) := by
  cases action with
  | send peer message =>
    unfold act
    dsimp only
    split
    · refine ⟨⟨rfl, fun _ => id, .refl _, fun _ => rfl, fun _ => rfl, fun _ => rfl, ?_⟩, rfl⟩
      have hmessage : message.isOffer = false := h
      simp [offers, hmessage]
    · exact .refl s
  | close peer code reason =>
    exact s.quiet_updateConnection peer (fun _ => rfl) (fun _ => rfl) fun _ => rfl

/-- Sending and closing change none of the variables. -/
theorem quiet_perform (s : Server) {actions : List PeerAction}
    (h : actions.any PeerAction.isOffer = false) : Quiet s (s.perform actions) := by
  induction actions generalizing s with
  | nil => exact .refl s
  | cons action actions ih =>
    rw [List.any_cons, Bool.or_eq_false_iff] at h
    exact (s.quiet_act h.1).trans (ih _ h.2)

theorem quiet_sessions {sessions : SessionRegistry} (h : s.sessions.Shrinks sessions) :
    Quiet s { s with sessions } :=
  ⟨⟨rfl, fun _ => id, h, fun _ => rfl, fun _ => rfl, fun _ => rfl, rfl⟩, rfl⟩

theorem quiet_browserPings {browserPings : OrdMap Peer (Option ℚ)}
    (h : ∀ socket, browserPings.has socket = true → s.browserPings.has socket = true) :
    Quiet s { s with browserPings } :=
  ⟨⟨rfl, h, .refl _, fun _ => rfl, fun _ => rfl, fun _ => rfl, rfl⟩, rfl⟩

theorem has_of_has_set {pings : OrdMap Peer (Option ℚ)} {socket other : Peer} {ping : Option ℚ}
    (hsocket : pings.has socket = true) (h : (pings.set socket ping).has other = true) :
    pings.has other = true := by
  obtain ⟨ping', hget⟩ := OrdMap.has_iff.1 h
  rw [OrdMap.get?_set] at hget
  split at hget
  · next heq => exact heq ▸ hsocket
  · exact OrdMap.has_iff.2 ⟨ping', hget⟩

theorem quiet_pong (s : Server) (socket : Peer) :
    Quiet s (if s.browserPings.has socket then
      { s with browserPings := s.browserPings.set socket none } else s) := by
  split
  · next hping => exact quiet_browserPings fun _ => has_of_has_set hping
  · exact .refl s

theorem has_of_has_delete {pings : OrdMap Peer (Option ℚ)} {socket other : Peer}
    (h : (pings.delete socket).has other = true) : pings.has other = true := by
  obtain ⟨ping, hget⟩ := OrdMap.has_iff.1 h
  exact OrdMap.has_iff.2 ⟨ping, (OrdMap.get?_of_get?_delete hget).2⟩

theorem quiet_pingBrowser (now : ℚ) (failing : List Peer) {entry : Peer × Option ℚ}
    (h : s.browserPings.has entry.1 = true) : Quiet s (pingBrowser now failing s entry) := by
  have hterminated : Quiet s
      ({ s with browserPings := s.browserPings.delete entry.1 }.updateConnection entry.1
        fun connection => { connection with isOpen := false }) :=
    (quiet_browserPings fun _ => has_of_has_delete).trans
      (quiet_updateConnection _ entry.1 (fun _ => rfl) (fun _ => rfl) fun _ => rfl)
  unfold pingBrowser
  dsimp only
  split
  · exact hterminated
  · split
    · exact hterminated
    · split
      · exact quiet_browserPings fun _ => has_of_has_set h
      · exact .refl s

/-- A round of the ping timer's loop touches one entry. -/
theorem pingBrowser_get? (now : ℚ) (failing : List Peer) (s : Server) {entry : Peer × Option ℚ}
    {other : Peer} (h : entry.1 ≠ other) :
    (pingBrowser now failing s entry).browserPings.get? other = s.browserPings.get? other := by
  have hterminated : ({ s with browserPings := s.browserPings.delete entry.1 }.updateConnection
      entry.1 fun connection => { connection with isOpen := false }).browserPings.get? other =
      s.browserPings.get? other := by
    rw [(updateConnection_rest _ _ _).2.1]
    exact OrdMap.get?_delete_of_ne _ h
  unfold pingBrowser
  dsimp only
  split
  · exact hterminated
  · split
    · exact hterminated
    · split
      · exact OrdMap.get?_set_of_ne _ _ h
      · rfl

theorem quiet_pingBrowsers (s : Server) (now : ℚ) (failing : List Peer) :
    Quiet s (s.pingBrowsers now failing) := by
  have hfold : ∀ (entries : List (Peer × Option ℚ)) (s : Server),
      (entries.map Prod.fst).Nodup → (∀ entry ∈ entries, s.browserPings.has entry.1 = true) →
      Quiet s (entries.foldl (pingBrowser now failing) s) := by
    intro entries
    induction entries with
    | nil => exact fun s _ _ => .refl s
    | cons entry entries ih =>
      intro s hnodup hhas
      rw [List.map_cons, List.nodup_cons] at hnodup
      refine (quiet_pingBrowser now failing (hhas entry List.mem_cons_self)).trans
        (ih _ hnodup.2 fun other hother => ?_)
      have hne : entry.1 ≠ other.1 := fun heq =>
        hnodup.1 (heq ▸ List.mem_map_of_mem hother)
      rw [OrdMap.has, pingBrowser_get? now failing s hne]
      exact hhas other (List.mem_cons_of_mem _ hother)
  refine hfold _ s s.browserPings.nodup fun entry hentry => ?_
  exact OrdMap.has_iff.2 ⟨entry.2, OrdMap.mem_entries_iff.1 hentry⟩

theorem quiet_sweep (s : Server) (now : Int) : Quiet s (s.sweep now) :=
  (quiet_sessions (s.sessions.sweep_shrinks now)).trans
    (quiet_perform _ (s.sessions.sweep_isOffer now))

theorem quiet_onAuthenticationTimeout (s : Server) (socket : Peer) :
    Quiet s (s.onAuthenticationTimeout socket) := by
  have hupdate : Quiet s (s.updateConnection socket fun connection =>
      { connection with timeoutArmed := false }) :=
    s.quiet_updateConnection socket (fun _ => rfl) (fun _ => rfl) fun _ => rfl
  unfold onAuthenticationTimeout
  dsimp only
  split
  · exact hupdate.trans (quiet_perform _ rfl)
  · exact hupdate

/-! ## Registrations and closes -/

theorem registerDevice_rest (s : Server) (socket : Peer) (device : AuthenticatedDevice) :
    (s.registerDevice socket device).devices = s.devices.set device.deviceId socket ∧
      (s.registerDevice socket device).browserPings = s.browserPings ∧
      (s.registerDevice socket device).sessions =
        (s.sessions.attachDevice device.carId device.deviceId socket).1 ∧
      (s.registerDevice socket device).handlers = s.handlers := by
  obtain ⟨hdevices, hpings, hsessions, hhandlers⟩ :=
    updateConnection_rest s socket fun connection =>
      { connection with authenticatedDevice := some device, timeoutArmed := false }
  exact ⟨congrArg (·.set device.deviceId socket) hdevices, hpings,
    congrArg (fun sessions => (sessions.attachDevice device.carId device.deviceId socket).1)
      hsessions, hhandlers⟩

theorem registerBrowser_rest (s : Server) (socket : Peer) (sessionId : Uuid) :
    (s.registerBrowser socket sessionId).devices = s.devices ∧
      (s.registerBrowser socket sessionId).browserPings = s.browserPings.set socket none ∧
      (s.registerBrowser socket sessionId).sessions = s.sessions ∧
      (s.registerBrowser socket sessionId).handlers = s.handlers := by
  obtain ⟨hdevices, hpings, hsessions, hhandlers⟩ :=
    updateConnection_rest s socket fun connection =>
      { connection with authenticatedSessionId := some sessionId, timeoutArmed := false }
  exact ⟨hdevices, congrArg (·.set socket none) hpings, hsessions, hhandlers⟩

theorem markClosed_rest (s : Server) (socket : Peer) :
    (s.markClosed socket).devices = s.devices ∧
      (s.markClosed socket).browserPings = s.browserPings.delete socket ∧
      (s.markClosed socket).sessions = s.sessions ∧
      (s.markClosed socket).handlers = s.handlers := by
  obtain ⟨hdevices, hpings, hsessions, hhandlers⟩ :=
    updateConnection_rest s socket fun connection =>
      { connection with closed := true, isOpen := false, timeoutArmed := false }
  exact ⟨hdevices, congrArg (·.delete socket) hpings, hsessions, hhandlers⟩

/-! ## Message handlers -/

/-- What a message handler may go on to: not a part of a close handler, and an offer only for a car
without a session. -/
structure Harmless (s : Server) (next : Continuation) : Prop where
  deviceGone : next ≠ .deviceGone
  offline : next ≠ .offline
  offered : ∀ device, next = .offered device → s.sessions.hasActiveCar device.carId = false

/-- A message handler goes on. -/
structure Goes (s t : Server) (number : Nat) (socket : Peer) : Prop extends Leaves s t where
  handlers : t.handlers = s.handlers.delete number ∨ ∃ call next,
    t.handlers = s.handlers.set number { socket, call, next } ∧ Harmless t next

variable {number : Nat} {socket : Peer}

theorem Quiet.finish (h : Quiet s t) : Goes s (t.finish number) number socket where
  toLeaves := ⟨h.devices, h.browserPings, h.sessions, h.authenticatedDevice,
    h.authenticatedSessionId, h.closed, h.offers⟩
  handlers := .inl (congrArg (·.delete number) h.handlers)

theorem Quiet.await {call : StoreRequest} {next : Continuation} (h : Quiet s t)
    (hnext : Harmless t next) : Goes s (t.await number socket call next) number socket where
  toLeaves := ⟨h.devices, h.browserPings, h.sessions, h.authenticatedDevice,
    h.authenticatedSessionId, h.closed, h.offers⟩
  handlers := .inr ⟨call, next, congrArg (·.set number { socket, call, next }) h.handlers,
    ⟨hnext.deviceGone, hnext.offline, hnext.offered⟩⟩

theorem Quiet.goes (h : Quiet s t) (h' : Goes t u number socket) : Goes s u number socket where
  toLeaves := h.toLeaves.trans h'.toLeaves
  handlers := by
    rw [← h.handlers]
    exact h'.handlers

/-- The handlers after a message handler has gone on. -/
theorem Goes.get? (hgoes : Goes s t number socket) {other : Nat} {handler : Handler}
    (h : t.handlers.get? other = some handler) :
    s.handlers.get? other = some handler ∨ (other = number ∧ Harmless t handler.next) := by
  rcases hgoes.handlers with hdelete | ⟨call, next, hset, hnext⟩
  · rw [hdelete] at h
    exact .inl (OrdMap.get?_of_get?_delete h).2
  · rw [hset, OrdMap.get?_set] at h
    split at h
    · next heq =>
      obtain rfl := Option.some.inj h
      exact .inr ⟨heq.symm, hnext⟩
    · exact .inl h

theorem Goes.get?_of_ne (hgoes : Goes s t number socket) {other : Nat} (h : number ≠ other) :
    t.handlers.get? other = s.handlers.get? other := by
  rcases hgoes.handlers with hdelete | ⟨call, next, hset, -⟩
  · rw [hdelete, OrdMap.get?_delete_of_ne _ h]
  · rw [hset, OrdMap.get?_set_of_ne _ _ h]

variable {config : GatewayConfig} (s number socket)

theorem fail_goes : Goes s (s.fail number socket) number socket := (s.quiet_perform rfl).finish

theorem reject_goes (reason : String) (code : Nat) (closeReason : String) :
    Goes s (s.reject number socket reason code closeReason) number socket :=
  (s.quiet_perform rfl).finish

theorem offerPendingUpdate_goes (device : AuthenticatedDevice) (now : Int) :
    Goes s (s.offerPendingUpdate number socket device now) number socket := by
  unfold offerPendingUpdate
  split
  · exact (Quiet.refl s).finish
  · split
    · exact (Quiet.refl s).finish
    · next hidle =>
      refine (Quiet.refl s).await ⟨nofun, nofun, fun device' heq => ?_⟩
      obtain rfl := Continuation.offered.inj heq
      exact Bool.eq_false_iff.2 hidle

theorem endDriveSession_goes (sessionId : Uuid) (reason : String) (now : Int) {next : Continuation}
    (hnext : Harmless s next) :
    Goes s (s.endDriveSession number socket sessionId reason now next) number socket :=
  (Quiet.refl s).await hnext

theorem authenticate_goes (message : ClientMessage) (now : Int) :
    Goes s (s.authenticate config number socket message now) number socket := by
  unfold authenticate
  split
  · exact (Quiet.refl s).await ⟨nofun, nofun, nofun⟩
  · split
    · exact s.fail_goes number socket
    · exact (Quiet.refl s).await ⟨nofun, nofun, nofun⟩
  · exact s.reject_goes number socket _ _ _

theorem afterRelay_goes (message : RelayMessage) (now : Int)
    {result : Bool × SessionRegistry × List PeerAction} (h : s.sessions.Shrinks result.2.1)
    (hoffer : result.2.2.any PeerAction.isOffer = false) :
    Goes s (s.afterRelay number socket message now result) number socket := by
  unfold afterRelay
  split
  · exact s.fail_goes number socket
  · next sessions actions =>
    have hquiet : Quiet s ({ s with sessions }.perform actions) :=
      (quiet_sessions h).trans (quiet_perform _ hoffer)
    dsimp only
    split
    · exact hquiet.await ⟨nofun, nofun, nofun⟩
    · exact hquiet.finish

theorem receive_goes (message : ClientMessage) (now : Int) :
    Goes s (s.receive number socket message now) number socket := by
  unfold receive
  split
  · exact (Quiet.refl s).await ⟨nofun, nofun, nofun⟩
  · exact (Quiet.refl s).await ⟨nofun, nofun, nofun⟩
  · exact s.afterRelay_goes number socket _ now (SessionRegistry.relayFromDevice_shrinks _ _ _)
      (SessionRegistry.relayFromDevice_isOffer _ _ _)
  · exact s.afterRelay_goes number socket _ now (SessionRegistry.relayFromBrowser_shrinks _ _ _)
      (SessionRegistry.relayFromBrowser_isOffer _ _ _)
  · split
    · exact (Quiet.refl s).await ⟨nofun, nofun, nofun⟩
    · exact s.fail_goes number socket
  · exact (s.quiet_perform rfl).finish

theorem onMessage_goes (message : Option ClientMessage) (now : Int) :
    Goes s (s.onMessage config number socket message now) number socket := by
  unfold onMessage
  split
  · exact s.fail_goes number socket
  · split
    · exact s.authenticate_goes number socket _ now
    · exact s.receive_goes number socket _ now

theorem onPresenceSet_goes (health : DeviceHealth) (now : Int) :
    Goes s (s.onPresenceSet number socket health now) number socket := by
  unfold onPresenceSet
  split
  · exact s.fail_goes number socket
  · next device _ =>
    have hquiet := s.quiet_perform (s.sessions.sendDeviceTelemetry_isOffer device.carId
      health.batteryVoltage.join health.batteryPercent.join)
    exact hquiet.goes (offerPendingUpdate_goes _ _ _ _ _)

theorem onMarkedActive_goes (marked : Bool) (startedAt : Int) :
    Goes s (s.onMarkedActive number socket marked startedAt) number socket := by
  unfold onMarkedActive
  split
  · exact s.fail_goes number socket
  · next sessionId _ =>
    split
    · have hquiet := quiet_sessions (s.sessions.markConnected_shrinks sessionId startedAt)
      dsimp only
      split
      · exact hquiet.finish
      · exact hquiet.goes (endDriveSession_goes _ _ _ _ _ _ ⟨nofun, nofun, nofun⟩)
    · exact s.fail_goes number socket

/-- A browser that is not attached. -/
theorem onAuthorized_goes (ticket : BrowserTicket) (expiresAt : Option Int) (now : Int)
    (h : expiresAt = none ∨ config.iceServers ticket.sessionId now = none ∨
      s.sessions.attachable ticket.sessionId ticket.carId = false) :
    Goes s (s.onAuthorized config number socket ticket expiresAt now) number socket := by
  unfold onAuthorized
  split
  · exact s.reject_goes number socket _ _ _
  · split
    · exact s.fail_goes number socket
    · next hice =>
      have hattachable : s.sessions.attachable ticket.sessionId ticket.carId = false :=
        (h.resolve_left nofun).resolve_left fun hnone => by rw [hnone] at hice; cases hice
      rw [SessionRegistry.attachBrowser_of_not hattachable]
      exact (quiet_perform _ rfl).goes (endDriveSession_goes _ _ _ _ _ _ ⟨nofun, nofun, nofun⟩)

/-- A browser that is attached. -/
theorem onAuthorized_of (ticket : BrowserTicket) (expiresAt now : Int)
    (hice : (config.iceServers ticket.sessionId now).isSome = true)
    (hattachable : s.sessions.attachable ticket.sessionId ticket.carId = true) :
    ∃ session : BrowserSession, session.sessionId = ticket.sessionId ∧
      session.carId = ticket.carId ∧
      ∃ t, Quiet { s with sessions := (s.sessions.attachBrowser session socket now).2.1 } t ∧
        Goes (t.registerBrowser socket ticket.sessionId)
          (s.onAuthorized config number socket ticket (some expiresAt) now) number socket := by
  obtain ⟨iceServers, hice⟩ := Option.isSome_iff_exists.1 hice
  let session : BrowserSession :=
    { sessionId := ticket.sessionId, carId := ticket.carId, userId := ticket.sub, expiresAt
      iceServers }
  obtain ⟨-, -, -, hattached, -⟩ :=
    SessionRegistry.attachBrowser_of session socket now hattachable
  refine ⟨session, rfl, rfl,
    perform { s with sessions := (s.sessions.attachBrowser session socket now).2.1 }
      (s.sessions.attachBrowser session socket now).2.2,
    quiet_perform _ (s.sessions.attachBrowser_isOffer session socket now), ?_⟩
  unfold onAuthorized
  rw [hice]
  dsimp only
  rw [if_pos hattached]
  exact (quiet_perform _ rfl).finish

/-- A device that is registered: its socket is told, and an update may be claimed. -/
theorem onAuthenticated_goes (device : AuthenticatedDevice) (now : Int) :
    Goes (s.registerDevice socket device)
      (s.onAuthenticated number socket (some device) now) number socket := by
  have hattach := s.sessions.attachDevice_isOffer device.carId device.deviceId socket
  refine (quiet_perform _ ?_).goes (offerPendingUpdate_goes _ _ _ _ _)
  rw [List.any_append, List.any_append, hattach, List.any_map]
  have hprior : (PeerAction.isOffer ∘ fun prior =>
      PeerAction.close prior 4409 "replaced by a new connection") = fun _ => false := rfl
  rw [hprior, List.any_eq_false.2 fun _ _ => Bool.false_ne_true]
  rfl

/-- What a handler can do with its reply. -/
inductive Resumes (config : GatewayConfig) (number : Nat) (handler : Handler) (now : Int) :
    Reply → Server → Prop where
  | accepted (device : AuthenticatedDevice) (h : handler.next = .authenticated) :
    Resumes config number handler now (.device (some device))
      (s.onAuthenticated number handler.socket (some device) now)
  | rejected (h : handler.next = .authenticated) :
    Resumes config number handler now (.device none)
      (s.onAuthenticated number handler.socket none now)
  | attached (ticket : BrowserTicket) (expiresAt : Int) (h : handler.next = .authorized ticket)
    (hice : (config.iceServers ticket.sessionId now).isSome = true)
    (hattachable : s.sessions.attachable ticket.sessionId ticket.carId = true) :
    Resumes config number handler now (.authorized (some expiresAt))
      (s.onAuthorized config number handler.socket ticket (some expiresAt) now)
  | offered (device : AuthenticatedDevice) (offer : DeviceUpdateOffer)
    (h : handler.next = .offered device) :
    Resumes config number handler now (.offer (some offer))
      ((s.act (.send handler.socket (.deviceUpdateAvailable offer))).finish number)
  | deviceGone (reply : Reply) (h : handler.next = .deviceGone) :
    Resumes config number handler now reply (s.disconnect number handler.socket now)
  | offline (reply : Reply) (h : handler.next = .offline) :
    Resumes config number handler now reply (s.closeBrowser number handler.socket now)
  | goes {t : Server} (reply : Reply) (hgone : handler.next ≠ .deviceGone)
    (hoffline : handler.next ≠ .offline) (h : Goes s t number handler.socket) :
    Resumes config number handler now reply t

theorem resume_cases {handler : Handler} {reply : Reply} {now : Int}
    (h : s.resume config number handler reply now = some t) :
    s.Resumes config number handler now reply t := by
  obtain ⟨socket, call, next⟩ := handler
  unfold resume at h
  dsimp only at h
  split at h <;> try obtain rfl := Option.some.inj h
  · next device =>
    cases device with
    | none => exact .rejected rfl
    | some device => exact .accepted device rfl
  · next device offer =>
    cases offer with
    | none => exact .goes _ nofun nofun (Quiet.refl s).finish
    | some offer => exact .offered device offer rfl
  · next ticket expiresAt =>
    cases expiresAt with
    | none => exact .goes _ nofun nofun (s.onAuthorized_goes _ _ _ _ _ (.inl rfl))
    | some expiresAt =>
      by_cases hice : (config.iceServers ticket.sessionId now).isSome = true
      · by_cases hattachable : s.sessions.attachable ticket.sessionId ticket.carId = true
        · exact .attached ticket expiresAt rfl hice hattachable
        · exact .goes _ nofun nofun
            (s.onAuthorized_goes _ _ _ _ _ (.inr (.inr (Bool.eq_false_iff.2 hattachable))))
      · exact .goes _ nofun nofun
          (s.onAuthorized_goes _ _ _ _ _ (.inr (.inl (Option.not_isSome_iff_eq_none.1 hice))))
  · exact .goes _ nofun nofun (s.reject_goes number socket _ _ _)
  · exact .goes _ nofun nofun (s.fail_goes number socket)
  · exact .goes _ nofun nofun ((Quiet.refl s).await ⟨nofun, nofun, nofun⟩)
  · exact .goes _ nofun nofun (s.onPresenceSet_goes number socket _ now)
  · refine .goes _ nofun nofun ?_
    split
    · exact (Quiet.refl s).finish
    · exact s.fail_goes number socket
  · exact .goes _ nofun nofun (Quiet.refl s).finish
  · exact .goes _ nofun nofun (s.onMarkedActive_goes number socket _ _)
  · exact .goes _ nofun nofun (s.fail_goes number socket)
  · exact .deviceGone _ rfl
  · exact .deviceGone _ rfl
  · exact .offline _ rfl
  · exact .offline _ rfl
  · exact .goes _ nofun nofun (Quiet.refl s).finish
  · exact .goes _ nofun nofun (Quiet.refl s).finish
  · next hgone hoffline _ =>
    exact .goes _ hgone hoffline (s.fail_goes number socket)
  · cases h

end Server

end RcOnline.Gateway
