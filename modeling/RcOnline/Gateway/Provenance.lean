import RcOnline.Gateway.Grants

/-!
# Where the messages of a session come from

The registry finds the session that a device speaks in by its car. So a device that another one has
replaced can speak in the other's session, as long as its socket still takes messages
(`replaced_speaks`). Where a device only speaks while it is the one that is attached, and none is
replaced in a session, what goes to a party of a session comes from the other one
(`passed_from_other_party`).
-/

namespace RcOnline.Gateway

open RcOnline.Lib RcOnline.Schema RcOnline.Web

/-! ## What a call passes on -/

/-- What a browser may get from its device. -/
def ServerMessage.fromDevice : ServerMessage → Bool
  | .relay (.signalOffer _ _) => false
  | .relay _ => true
  | .deviceTelemetry _ _ _ => true
  | _ => false

/-- What a device may get from its browser. -/
def ServerMessage.fromBrowser : ServerMessage → Bool
  | .relay (.signalAnswer _ _) => false
  | .relay _ => true
  | _ => false

namespace SessionRegistry

variable {r : SessionRegistry} {peer origin : Peer} {message : ServerMessage}

/-- A message of a session comes from one of its parties and goes to the other. -/
def Paired (r : SessionRegistry) (origin peer : Peer) (message : ServerMessage) : Prop :=
  ∃ sessionId p, message.sessionId? = some sessionId ∧ r.parties sessionId = some p ∧
    ((origin = p.device ∧ peer = p.browser ∧ message.fromDevice = true) ∨
      (origin = p.browser ∧ peer = p.device ∧ message.fromBrowser = true))

/-- The gateway's own end of a session goes to its browser, and to nobody else after a relay. -/
theorem afterRelay_sends {relayed : RelayMessage} {session : ActiveSession}
    (hsession : r.sessions.get? relayed.sessionId = some session)
    (hmem : .send peer message ∈ (r.afterRelay relayed).2) :
    peer = session.browser ∧ ∃ reason, message = endMessage relayed.sessionId reason := by
  rcases r.afterRelay_cases relayed with ⟨reason, -, heq⟩ | ⟨-, heq⟩
  · rw [heq, endSession_eq hsession] at hmem
    obtain ⟨rfl, rfl⟩ := PeerAction.send.inj (List.mem_singleton.1 hmem)
    exact ⟨rfl, reason, rfl⟩
  · rw [heq] at hmem
    cases hmem

/-- Everything that a device's message leads to goes to the browser of its car's session. -/
theorem relayFromDevice_sends {carId : Uuid} {relayed : RelayMessage}
    (hmem : .send peer message ∈ (r.relayFromDevice carId relayed).2.2) :
    ∃ sessionId p, r.sessionsByCar.get? carId = some sessionId ∧ r.parties sessionId = some p ∧
      message.sessionId? = some sessionId ∧ peer = p.browser ∧ message.fromDevice = true := by
  rcases relayFromDevice_cases (r := r) carId relayed with heq | ⟨session, hcar, hget, heq⟩
  · rw [heq] at hmem
    cases hmem
  · have hoffer : (ServerMessage.relay relayed).fromDevice = true := by
      cases relayed with
      | signalOffer id sdp =>
        -- an offer is not let through
        unfold relayFromDevice at heq
        split at heq
        · cases heq
        · cases heq
      | _ => rfl
    rw [heq] at hmem
    refine ⟨relayed.sessionId, session.parties, hcar, parties_of_get? hget, ?_⟩
    rcases List.mem_cons.1 hmem with heq | hmem
    · obtain ⟨rfl, rfl⟩ := PeerAction.send.inj heq
      exact ⟨rfl, rfl, hoffer⟩
    · obtain ⟨rfl, reason, rfl⟩ := afterRelay_sends hget hmem
      exact ⟨rfl, rfl, rfl⟩

/-- What a browser's message leads to goes to its device, but for the gateway's own end. -/
theorem relayFromBrowser_sends {sessionId : Uuid} {relayed : RelayMessage}
    (hmem : .send peer message ∈ (r.relayFromBrowser sessionId relayed).2.2) :
    ∃ p, r.parties sessionId = some p ∧ message.sessionId? = some sessionId ∧
      ((peer = p.device ∧ message.fromBrowser = true) ∨
        (peer = p.browser ∧ message.isEnd = true)) := by
  rcases relayFromBrowser_cases (r := r) sessionId relayed with heq | ⟨session, rfl, hget, heq⟩
  · rw [heq] at hmem
    cases hmem
  · have hanswer : (ServerMessage.relay relayed).fromBrowser = true := by
      cases relayed with
      | signalAnswer id sdp =>
        -- an answer is not let through
        unfold relayFromBrowser at heq
        split at heq
        · cases heq
        · cases heq
      | _ => rfl
    rw [heq] at hmem
    refine ⟨session.parties, parties_of_get? hget, ?_⟩
    rcases List.mem_cons.1 hmem with heq | hmem
    · obtain ⟨rfl, rfl⟩ := PeerAction.send.inj heq
      exact ⟨rfl, .inl ⟨rfl, hanswer⟩⟩
    · obtain ⟨rfl, reason, rfl⟩ := afterRelay_sends hget hmem
      exact ⟨rfl, .inr ⟨rfl, rfl⟩⟩

theorem sendDeviceTelemetry_sends {carId : Uuid} {batteryVoltage : Option Number}
    {batteryPercent : Option Int}
    (hmem : .send peer message ∈ (r.sendDeviceTelemetry carId batteryVoltage batteryPercent).2) :
    ∃ sessionId p, r.sessionsByCar.get? carId = some sessionId ∧ r.parties sessionId = some p ∧
      message.sessionId? = some sessionId ∧ peer = p.browser ∧ message.fromDevice = true := by
  unfold sendDeviceTelemetry at hmem
  split at hmem
  · next sessionId session hcar hsession =>
    obtain ⟨id, hcar', hget⟩ := sessionOfCar_eq_some hsession
    obtain rfl := Option.some.inj (hcar.symm.trans hcar')
    obtain ⟨rfl, rfl⟩ := PeerAction.send.inj (List.mem_singleton.1 hmem)
    exact ⟨sessionId, session.parties, hcar, parties_of_get? hget, rfl, rfl, rfl⟩
  · cases hmem

theorem endSession_passes {sessionId : Uuid} {reason : String} {notifyDevice : Bool}
    (hmem : .send peer message ∈ (r.endSession sessionId reason notifyDevice).2) :
    message.passes = false := by
  cases hget : r.sessions.get? sessionId with
  | none =>
    rw [endSession_none hget] at hmem
    cases hmem
  | some session =>
    rw [endSession_eq hget] at hmem
    rcases List.mem_append.1 hmem with hmem | hmem
    · split at hmem
      · obtain ⟨-, rfl⟩ := PeerAction.send.inj (List.mem_singleton.1 hmem)
        rfl
      · cases hmem
    · obtain ⟨-, rfl⟩ := PeerAction.send.inj (List.mem_singleton.1 hmem)
      rfl

/-- A sweep passes nothing on. -/
theorem sweep_passes {now : Int} (hmem : .send peer message ∈ (r.sweep now).2.2) :
    message.passes = false := by
  rw [(sweep_eq r now).2.1] at hmem
  obtain ⟨entry, -, hmem⟩ := List.mem_flatMap.1 hmem
  unfold sweepActions at hmem
  cases hexpiry : entry.2.expiry now with
  | none =>
    rw [hexpiry] at hmem
    cases hmem
  | some reason =>
    rw [hexpiry] at hmem
    rcases List.mem_pair.1 hmem with heq | heq
    · obtain ⟨-, rfl⟩ := PeerAction.send.inj heq
      rfl
    · obtain ⟨-, rfl⟩ := PeerAction.send.inj heq
      rfl

theorem attachBrowser_passes {session : BrowserSession} {browser : Peer} {now : Int}
    (hmem : .send peer message ∈ (r.attachBrowser session browser now).2.2) :
    message.passes = false := by
  unfold attachBrowser at hmem
  split at hmem
  · cases hmem
  · split at hmem
    · cases hmem
    · rcases List.mem_pair.1 hmem with heq | heq
      · obtain ⟨-, rfl⟩ := PeerAction.send.inj heq
        rfl
      · obtain ⟨-, rfl⟩ := PeerAction.send.inj heq
        rfl

theorem detachDevice_passes {carId : Uuid} {other : Peer}
    (hmem : .send peer message ∈ (r.detachDevice carId other).2.2) : message.passes = false := by
  unfold detachDevice at hmem
  split at hmem
  · cases hmem
  · split at hmem
    · cases hmem
    · dsimp only at hmem
      split at hmem
      · cases hmem
      · exact endSession_passes hmem

theorem attachDevice_sends {carId deviceId : Uuid} {other : Peer} :
    .send peer message ∉ (r.attachDevice carId deviceId other).2 := by
  unfold attachDevice
  dsimp only
  split
  · split
    · intro hmem
      cases List.mem_singleton.1 hmem
    · exact List.not_mem_nil
  · exact List.not_mem_nil

end SessionRegistry

/-! ## Who speaks -/

/-- The socket whose handler an event runs. -/
def Server.origin (s : Server) : Event → Option Peer
  | .message socket _ _ _ => some socket
  | .reply number _ _ => (s.handlers.get? number).map (·.socket)
  | .close socket _ _ => some socket
  | _ => none

/-- A device that speaks in its car's session, with its socket: by a message to be passed on, or by
a heartbeat that has been recorded. -/
def Server.speaker (s : Server) : Event → Option (Peer × AuthenticatedDevice)
  | .message socket _ (some (.relay _)) _ =>
    (s.authenticatedDevice socket).map fun device => (socket, device)
  | .reply number .done _ =>
    (s.handlers.get? number).bind fun handler =>
      match handler.next with
      | .presenceSet _ =>
        (s.authenticatedDevice handler.socket).map fun device => (handler.socket, device)
      | _ => none
  | _ => none

/-- A message arrives. -/
def Event.isMessage : Event → Bool
  | .message _ _ _ _ => true
  | _ => false

/-- A device that speaks is the one that is attached for its car, and none takes the place of the
device of a live session. -/
structure Attended (s : Server) (e : Event) : Prop where
  attached : ∀ socket device, s.speaker e = some (socket, device) →
    s.sessions.hasActiveCar device.carId = true →
    ∃ connection, s.sessions.devicesByCar.get? device.carId = some connection ∧
      connection.peer = socket
  unreplaced : ∀ number device now handler, e = .reply number (.device (some device)) now →
    s.handlers.get? number = some handler → s.sessions.Unreplaced
      (.attachDevice device.carId device.deviceId handler.socket)

/-- Where a message that goes out comes from, an end that the gateway sends of its own apart: the
socket that has ended a session hears of the end from the gateway only. -/
def Passed (s : Server) (e : Event) (peer : Peer) (message : ServerMessage) : Prop :=
  message.passes = true ∨ (message.isEnd = true ∧ e.isMessage = true) →
    ∃ origin, s.origin e = some origin ∧
      (s.sessions.Paired origin peer message ∨ (message.isEnd = true ∧ peer = origin))

variable {config : GatewayConfig} {parseUrl : String → Option Url}

/-- A device that is attended speaks to its session's browser. -/
theorem paired_of_speaker {s : Server} {e : Event} {socket peer : Peer}
    {device : AuthenticatedDevice} {message : ServerMessage} (hwired : s.sessions.Wired)
    (hattended : Attended s e) (hspeaker : s.speaker e = some (socket, device))
    (hsends : ∃ sessionId p, s.sessions.sessionsByCar.get? device.carId = some sessionId ∧
      s.sessions.parties sessionId = some p ∧ message.sessionId? = some sessionId ∧
      peer = p.browser ∧ message.fromDevice = true) : s.sessions.Paired socket peer message := by
  obtain ⟨sessionId, p, hcar, hp, hid, hpeer, hfrom⟩ := hsends
  refine ⟨sessionId, p, hid, hp, .inl ⟨?_, hpeer, hfrom⟩⟩
  obtain ⟨session, hsession, hsessionCar⟩ := (s.sessions.inverse _ _).1 hcar
  obtain rfl := Option.some.inj ((SessionRegistry.parties_of_get? hsession).symm.trans hp)
  obtain ⟨connection, hconnection, hsocket⟩ := hattended.attached socket device hspeaker
    (OrdMap.has_iff.2 ⟨sessionId, hcar⟩)
  obtain ⟨connection', hconnection', hdevice⟩ := hwired sessionId session.parties hp
  have hsame : session.parties.carId = device.carId := hsessionCar
  rw [hsame] at hconnection'
  obtain rfl := Option.some.inj (hconnection.symm.trans hconnection')
  exact hsocket.symm.trans hdevice

/-- What an event of the server sends comes from where it should. -/
theorem passed_of_turn {s t : Server} {e : Event} {call : Option RegistryCall}
    {next : Option Handler} (hturn : Server.Turn config s e t call next) (hwired : s.sessions.Wired)
    (hattended : Attended s e)
    (hbrowser : ∀ socket sessionId p, s.authenticatedSessionId socket = some sessionId →
      s.sessions.parties sessionId = some p → p.browser = socket) :
    ∃ new, t.sent = s.sent ++ new ∧
      ∀ peer message, (peer, message) ∈ new → Passed s e peer message := by
  obtain ⟨new, hnew, hsent⟩ := hturn.sent
  refine ⟨new, hnew, fun peer message hmem hkind => ?_⟩
  have hid : message.sessionId? ≠ none := by
    cases message with
    | sessionStart | relay | deviceTelemetry => nofun
    | _ => rcases hkind with hpasses | ⟨hend, -⟩ <;> contradiction
  have hsend := hsent (peer, message) hmem hid
  have hnone : message.passes = false → e.isMessage = true := by
    intro hpasses
    rcases hkind with hpasses' | ⟨-, hmessage⟩
    · rw [hpasses] at hpasses'
      cases hpasses'
    · exact hmessage
  cases call with
  | none => cases hsend
  | some c =>
    cases hturn.calls c rfl with
    | attachDevice => exact absurd hsend SessionRegistry.attachDevice_sends
    | attachBrowser => cases hnone (SessionRegistry.attachBrowser_passes hsend)
    | relayFromDevice hdevice =>
      next socket number relayed now device =>
      refine ⟨socket, rfl, .inl (paired_of_speaker hwired hattended ?_
        (SessionRegistry.relayFromDevice_sends hsend))⟩
      rw [Server.speaker, hdevice]
      rfl
    | relayFromBrowser hheld =>
      next socket number relayed now sessionId =>
      refine ⟨socket, rfl, ?_⟩
      obtain ⟨p, hp, hid, ⟨hpeer, hfrom⟩ | ⟨hpeer, hend⟩⟩ :=
        SessionRegistry.relayFromBrowser_sends hsend
      · exact .inl ⟨sessionId, p, hid, hp,
          .inr ⟨(hbrowser socket sessionId p hheld hp).symm, hpeer, hfrom⟩⟩
      · exact .inr ⟨hend, hpeer.trans (hbrowser socket sessionId p hheld hp)⟩
    | sendDeviceTelemetry hget hnext hdevice =>
      next number now handler health device =>
      refine ⟨handler.socket, by rw [Server.origin, hget]; rfl, .inl (paired_of_speaker hwired
        hattended ?_ (SessionRegistry.sendDeviceTelemetry_sends hsend))⟩
      rw [Server.speaker, hget, Option.bind_some, hnext, hdevice]
      rfl
    | markConnected => cases hsend
    | detachDevice => cases hnone (SessionRegistry.detachDevice_passes hsend)
    | closeBrowser => cases hnone (SessionRegistry.endSession_passes hsend)
    | detachBrowser => cases hnone (SessionRegistry.endSession_passes hsend)
    | sweep => cases hnone (SessionRegistry.sweep_passes hsend)

/-! ## Every run -/

/-- What a step of the system keeps for the next one. -/
structure Attributes (s : System) : Prop where
  fits : s.Fits
  grants : s.Grants
  wired : s.server.sessions.Wired

/-- The condition on a step of the system. -/
def AttendedStep (config : GatewayConfig) (parseUrl : String → Option Url) (s : System)
    (e : SystemEvent) (t : System) : Prop :=
  (∀ event pick, e = .serve event pick → Attended s.server event) ∧
    s.step config parseUrl e = some t

/-- No device is replaced in a live session by an event of the server. -/
theorem wired_of_turn {s t : Server} {e : Event} {call : Option RegistryCall}
    {next : Option Handler} (hturn : Server.Turn config s e t call next) (hwired : s.sessions.Wired)
    (hunreplaced : ∀ number device now handler, e = .reply number (.device (some device)) now →
      s.handlers.get? number = some handler → s.sessions.Unreplaced
        (.attachDevice device.carId device.deviceId handler.socket)) : t.sessions.Wired := by
  rw [hturn.sessions]
  cases call with
  | none => exact hwired
  | some c =>
    refine hwired.step ?_
    cases hturn.calls c rfl with
    | attachDevice hget hnext => exact hunreplaced _ _ _ _ rfl hget
    | _ => rintro _ _ _ ⟨⟩

theorem Attributes.step {s t : System} {e : SystemEvent} (h : Attributes s)
    (hstep : AttendedStep config parseUrl s e t) : Attributes t := by
  obtain ⟨hattended, hstep⟩ := hstep
  refine ⟨h.fits.step hstep, h.grants.step h.fits hstep, ?_⟩
  cases System.step_cases hstep with
  | serve hadmits hserver =>
    obtain ⟨call, next, hturn⟩ := Server.step_serves hserver
    exact wired_of_turn hturn h.wired (hattended _ _ rfl).unreplaced
  | sweep tick pick =>
    have hserver : s.server.step config (.sweep tick.sweepNow) =
        some (s.server.sweep tick.sweepNow) := rfl
    obtain ⟨call, next, hturn⟩ := Server.step_serves hserver
    exact wired_of_turn hturn h.wired (by rintro _ _ _ _ ⟨⟩)
  | statement | sweepStatement | sweepDone | web => exact h.wired

theorem Attributes.start (store : Database) : Attributes (.start store) where
  fits := .start store
  grants := .start store
  wired := fun _ _ h => nomatch h

/-- The socket that a message of this step comes from, and whether the step is about a message. -/
def SystemEvent.passed (s : System) (e : SystemEvent) (peer : Peer) (message : ServerMessage) :
    Prop :=
  match e with
  | .serve event _ => Passed s.server event peer message
  | _ => message.passes = false

/-- **Main result.** In a run in which a device speaks only while it is the one that is attached for
its car and none is replaced in a live session, every signal, every telemetry and every end that a
step passes on to a party of a session comes from the socket of the other party. -/
theorem passed_from_other_party {store : Database} {events : List SystemEvent} {s t : System}
    {e : SystemEvent} (hrun : Run (AttendedStep config parseUrl) (.start store) events s)
    (hstep : AttendedStep config parseUrl s e t) :
    ∃ new, t.server.sent = s.server.sent ++ new ∧
      ∀ peer message, (peer, message) ∈ new → e.passed s peer message := by
  have h : Attributes s := hrun.invariant (.start store) fun h hstep => h.step hstep
  obtain ⟨hattended, hstep⟩ := hstep
  have hnone : ∃ new, s.server.sent = s.server.sent ++ new ∧
      ∀ peer message, (peer, message) ∈ new → message.passes = false :=
    ⟨[], (List.append_nil _).symm, fun _ _ hmem => absurd hmem List.not_mem_nil⟩
  cases System.step_cases hstep with
  | serve hadmits hserver =>
    obtain ⟨call, next, hturn⟩ := Server.step_serves hserver
    exact passed_of_turn hturn h.wired (hattended _ _ rfl) h.grants.browser
  | sweep tick pick =>
    obtain ⟨new, hnew, hsent⟩ := (Server.still_perform
      { s.server with sessions := (s.server.sessions.sweep tick.sweepNow).2.1 } _).sent
    exact ⟨new, hnew, fun peer message hmem => SessionRegistry.sweep_passes (hsent _ hmem)⟩
  | statement | sweepStatement | sweepDone | web => exact hnone

/-! ## A device that is replaced -/

def driveConfig : GatewayConfig :=
  { hashOpaqueSecret := fun _ => "digest", verifyBrowserTicket := fun _ _ => some ⟨4, 1, 5⟩
    iceServers := fun _ _ => some [] }

def carCredential : DeviceCredential :=
  { id := 6, deviceId := 2, secretHash := "digest", status := "active", revokedAt := none,
    lastAuthenticatedAt := none, updatedAt := 0 }

def createdSession : DriveSession :=
  { id := 5, userId := 4, carId := 1, queueEntryId := none, status := .created,
    expiresAt := 300000, startedAt := none, endedAt := none, createdAt := 0, updatedAt := 0 }

/-- A car with its device, and a drive that has been accepted. -/
def driveDb : Database where
  cars := ⟨[availableCar], offeredDb.cars.nodup⟩
  devices := ⟨[availableDevice], offeredDb.devices.nodup⟩
  deviceCredentials := ⟨[carCredential], by decide⟩
  firmwareVersions := .empty
  deviceUpdateJobs := .empty
  queueEntries := .empty
  driveSessions := ⟨[createdSession], by decide⟩

/-- The device connects. -/
def joins (socket : Peer) (number : Nat) : List SystemEvent :=
  [.serve (.connect socket) fun _ => 0,
    .serve (.message socket number (some (.deviceAuthenticate 2 "secret" "0.4.0" none)) 1000)
      fun _ => 0,
    .statement number, .statement number,
    .serve (.reply number (.device (some ⟨2, 1, "0.4.0", ⟨none, none⟩⟩)) 1000) fun _ => 0]

/-- The driver connects. -/
def drives (socket : Peer) (number : Nat) : List SystemEvent :=
  [.serve (.connect socket) fun _ => 0,
    .serve (.message socket number (some (.browserAuthenticate "ticket")) 2000) fun _ => 0,
    .statement number,
    .serve (.reply number (.authorized (some 300000)) 2001) fun _ => 0]

/-- The socket sends an ICE candidate for the drive. -/
def signals (socket : Peer) (number : Nat) : SystemEvent :=
  .serve (.message socket number (some (.relay (.signalIce 5 none none none))) 2002) fun _ => 0

/-- Nobody speaks in a session, and none loses its device, while there is none. -/
theorem attended_of_empty {s : System} {e : SystemEvent} (h : s.server.sessions.sessions = ∅) :
    ∀ event pick, e = .serve event pick → Attended s.server event := by
  rintro event pick -
  constructor
  case attached =>
    intro socket device _ hactive
    obtain ⟨sessionId, session, hget, -⟩ := SessionRegistry.hasActiveCar_iff.1 hactive
    rw [h] at hget
    cases hget
  case unreplaced =>
    rintro number device now handler - - carId deviceId peer - session hsession
    obtain ⟨sessionId, -, hget⟩ := SessionRegistry.sessionOfCar_eq_some hsession
    rw [h] at hget
    cases hget

/-- The browser's candidate goes to the device that the drive was paired with. -/
theorem drives_passed :
    ∃ s t, Run (AttendedStep driveConfig fun _ => none) (.start driveDb)
        (joins 10 0 ++ drives 20 1) s ∧
      AttendedStep driveConfig (fun _ => none) s (signals 20 2) t ∧
      t.server.sent = s.server.sent ++ [(10, .relay (.signalIce 5 none none none))] ∧
      (signals 20 2).passed s 10 (.relay (.signalIce 5 none none none)) := by
  have hrun : Run (AttendedStep driveConfig fun _ => none) (.start driveDb)
      (joins 10 0 ++ drives 20 1) _ :=
    .cons ⟨attended_of_empty rfl, rfl⟩ (.cons ⟨attended_of_empty rfl, rfl⟩
      (.cons ⟨attended_of_empty rfl, rfl⟩ (.cons ⟨attended_of_empty rfl, rfl⟩
      (.cons ⟨attended_of_empty rfl, rfl⟩ (.cons ⟨attended_of_empty rfl, rfl⟩
      (.cons ⟨attended_of_empty rfl, rfl⟩ (.cons ⟨attended_of_empty rfl, rfl⟩
      (.cons ⟨attended_of_empty rfl, rfl⟩ .nil))))))))
  obtain ⟨s, t, hrun, hstep, hsent⟩ : ∃ s t,
      Run (AttendedStep driveConfig fun _ => none) (.start driveDb) (joins 10 0 ++ drives 20 1) s ∧
      AttendedStep driveConfig (fun _ => none) s (signals 20 2) t ∧
      t.server.sent = s.server.sent ++ [(10, .relay (.signalIce 5 none none none))] := by
    refine ⟨_, _, hrun, ⟨?_, rfl⟩, rfl⟩
    rintro event pick heq
    obtain ⟨rfl, -⟩ := SystemEvent.serve.inj heq
    exact ⟨fun _ _ h => (nomatch h), by rintro _ _ _ _ ⟨⟩⟩
  obtain ⟨new, hnew, hpassed⟩ := passed_from_other_party hrun hstep
  refine ⟨s, t, hrun, hstep, hsent, hpassed 10 _ ?_⟩
  rw [← List.append_cancel_left (hsent.symm.trans hnew)]
  exact List.mem_singleton_self _

/-- The socket that has been replaced speaks to the other one's browser. -/
theorem replaced_speaks :
    ∃ s t, runList (System.step driveConfig fun _ => none) (.start driveDb)
        (joins 10 0 ++ joins 11 1 ++ drives 20 2) = some s ∧
      s.step driveConfig (fun _ => none) (signals 10 3) = some t ∧
      s.server.sessions.parties 5 = some ⟨1, 20, 11⟩ ∧
      t.server.sent = s.server.sent ++ [(20, .relay (.signalIce 5 none none none))] ∧
      ¬ (signals 10 3).passed s 20 (.relay (.signalIce 5 none none none)) := by
  refine ⟨_, _, rfl, rfl, rfl, rfl, fun hpassed => ?_⟩
  obtain ⟨origin, horigin, ⟨sessionId, p, hid, hp, hpaired⟩ | ⟨hend, -⟩⟩ := hpassed (.inl rfl)
  · obtain rfl : 10 = origin := Option.some.inj horigin
    obtain rfl : 5 = sessionId := Option.some.inj hid
    obtain rfl : ⟨1, 20, 11⟩ = p := Option.some.inj hp
    rcases hpaired with ⟨heq, -⟩ | ⟨heq, -⟩ <;> cases heq
  · cases hend

end RcOnline.Gateway
