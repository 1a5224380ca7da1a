import RcOnline.Gateway.Contracts
import RcOnline.Gateway.Provenance
import RcOnline.Gateway.UpdateJobs

/-!
# What the gateway writes is read

A browser parses what it receives with `GatewayServerMessageSchema`. Whatever devices, browsers and
the web application do, every message that the gateway writes passes that schema (`sent_valid`):
what it passes on has been parsed, what it takes from a report too, its own texts are short, and an
offer is of a release that is complete. What the schema of a received message rejects is handled
like a text that does not parse.
-/

namespace RcOnline.Gateway

open RcOnline.Lib RcOnline.Schema RcOnline.Web

/-! ## The registry -/

namespace SessionRegistry

variable {r : SessionRegistry} {parseUrl : String → Option Url}

/-- The messages of some actions pass the schema. -/
def Valid (parseUrl : String → Option Url) (actions : List PeerAction) : Prop :=
  ∀ peer message, .send peer message ∈ actions → message.valid parseUrl = true

theorem valid_nil : Valid parseUrl [] := fun _ _ h => absurd h List.not_mem_nil

theorem Valid.append {actions actions' : List PeerAction} (h : Valid parseUrl actions)
    (h' : Valid parseUrl actions') : Valid parseUrl (actions ++ actions') := by
  intro peer message hmem
  rcases List.mem_append.1 hmem with hmem | hmem
  · exact h peer message hmem
  · exact h' peer message hmem

theorem Valid.send {actions : List PeerAction} {message : ServerMessage}
    (h : message.valid parseUrl = true) (h' : Valid parseUrl actions) (peer : Peer) :
    Valid parseUrl (.send peer message :: actions) := by
  intro peer' message' hmem
  rcases List.mem_cons.1 hmem with heq | hmem
  · obtain ⟨-, rfl⟩ := PeerAction.send.inj heq
    exact h
  · exact h' peer' message' hmem

theorem Valid.close {actions : List PeerAction} (h : Valid parseUrl actions) (peer : Peer)
    (code : Nat) (reason : String) : Valid parseUrl (.close peer code reason :: actions) := by
  intro peer' message' hmem
  rcases List.mem_cons.1 hmem with heq | hmem
  · cases heq
  · exact h peer' message' hmem

theorem endSession_valid {reason : String} (h : shortText reason = true) (sessionId : Uuid)
    (notifyDevice : Bool) : Valid parseUrl (r.endSession sessionId reason notifyDevice).2 := by
  cases hget : r.sessions.get? sessionId with
  | none =>
    rw [endSession_none hget]
    exact valid_nil
  | some session =>
    rw [endSession_eq hget]
    have hend : (endMessage sessionId reason).valid parseUrl = true := h
    refine .append ?_ (.send hend valid_nil _)
    split
    · exact .send hend valid_nil _
    · exact valid_nil

theorem afterRelay_valid {message : RelayMessage} (h : validRelay message = true) :
    Valid parseUrl (r.afterRelay message).2 := by
  rcases r.afterRelay_cases message with ⟨reason, hend, heq⟩ | ⟨-, heq⟩
  · rw [heq]
    rw [hend] at h
    exact endSession_valid h _ _
  · rw [heq]
    exact valid_nil

theorem relayFromDevice_valid {message : RelayMessage} (h : validRelay message = true)
    (carId : Uuid) : Valid parseUrl (r.relayFromDevice carId message).2.2 := by
  rcases relayFromDevice_cases (r := r) carId message with heq | ⟨session, -, -, heq⟩
  · rw [heq]
    exact valid_nil
  · have hrelay : (ServerMessage.relay message).valid parseUrl = true := h
    rw [heq]
    exact .send hrelay (afterRelay_valid h) _

theorem relayFromBrowser_valid {message : RelayMessage} (h : validRelay message = true)
    (sessionId : Uuid) : Valid parseUrl (r.relayFromBrowser sessionId message).2.2 := by
  rcases relayFromBrowser_cases (r := r) sessionId message with heq | ⟨session, -, -, heq⟩
  · rw [heq]
    exact valid_nil
  · have hrelay : (ServerMessage.relay message).valid parseUrl = true := h
    rw [heq]
    exact .send hrelay (afterRelay_valid h) _

theorem sendDeviceTelemetry_valid {health : DeviceHealth} (h : validHealth health = true)
    (carId : Uuid) : Valid parseUrl
      (r.sendDeviceTelemetry carId health.batteryVoltage.join health.batteryPercent.join).2 := by
  unfold sendDeviceTelemetry
  split
  · next sessionId _ _ _ =>
    have htelemetry : (ServerMessage.deviceTelemetry sessionId health.batteryVoltage.join
        health.batteryPercent.join).valid parseUrl = true := h
    exact .send htelemetry valid_nil _
  · exact valid_nil

theorem attachBrowser_valid (session : BrowserSession) (hdate : datetime session.expiresAt = true)
    (hservers : validIceServers session.iceServers = true) (browser : Peer) (now : Int) :
    Valid parseUrl (r.attachBrowser session browser now).2.2 := by
  have hstart : (ServerMessage.sessionStart session.sessionId session.carId session.expiresAt
      session.iceServers).valid parseUrl = true := Bool.and_eq_true_iff.2 ⟨hdate, hservers⟩
  unfold attachBrowser
  split
  · exact valid_nil
  · split
    · exact valid_nil
    · exact .send hstart (.send hstart valid_nil _) _

theorem detachDevice_valid (carId : Uuid) (peer : Peer) :
    Valid parseUrl (r.detachDevice carId peer).2.2 := by
  unfold detachDevice
  split
  · exact valid_nil
  · split
    · exact valid_nil
    · dsimp only
      split
      · exact valid_nil
      · exact endSession_valid (by decide) _ _

theorem attachDevice_valid (carId deviceId : Uuid) (peer : Peer) :
    Valid parseUrl (r.attachDevice carId deviceId peer).2 := by
  unfold attachDevice
  dsimp only
  split
  · split
    · exact .close valid_nil _ _ _
    · exact valid_nil
  · exact valid_nil

theorem shortText_expiry {session : ActiveSession} {now : Int} {reason : String}
    (h : session.expiry now = some reason) : shortText reason = true := by
  unfold ActiveSession.expiry at h
  dsimp only at h
  split at h
  · obtain rfl := Option.some.inj h
    split <;> decide
  · cases h

theorem sweep_valid (now : Int) : Valid parseUrl (r.sweep now).2.2 := by
  intro peer message hmem
  rw [(sweep_eq r now).2.1] at hmem
  obtain ⟨entry, -, hmem⟩ := List.mem_flatMap.1 hmem
  unfold sweepActions at hmem
  cases hexpiry : entry.2.expiry now with
  | none =>
    rw [hexpiry] at hmem
    cases hmem
  | some reason =>
    rw [hexpiry] at hmem
    have hend : (endMessage entry.1 reason).valid parseUrl = true := shortText_expiry hexpiry
    exact Valid.send hend (.send hend valid_nil _) _ peer message hmem

end SessionRegistry

/-! ## The server -/

/-- The report that a handler goes on with has been parsed. -/
def Continuation.reports : Continuation → Bool
  | .heartbeatRecorded _ health _ | .presenceSet health => validHealth health
  | _ => true

/-- The result of a call is one that may be written. -/
def Reply.writable (parseUrl : String → Option Url) : Reply → Bool
  | .offer offered => offered.all (validOffer parseUrl)
  | .authorized expiresAt => expiresAt.all datetime
  | _ => true

namespace Server

open SessionRegistry

variable {config : GatewayConfig} {parseUrl : String → Option Url} {s t u : Server}
  {number : Nat} {socket : Peer}

/-- Only messages that pass the schema go out, and only parsed reports are waited with. -/
structure Sends (parseUrl : String → Option Url) (s t : Server) : Prop where
  sent : ∃ new, t.sent = s.sent ++ new ∧ ∀ entry ∈ new, entry.2.valid parseUrl = true
  handlers : ∀ number handler, t.handlers.get? number = some handler →
    s.handlers.get? number = some handler ∨ handler.next.reports = true

theorem Sends.same (hsent : t.sent = s.sent) (hhandlers : t.handlers = s.handlers) :
    Sends parseUrl s t where
  sent := ⟨[], by rw [hsent, List.append_nil], by simp⟩
  handlers _ _ h := .inl (hhandlers ▸ h)

theorem Sends.refl (s : Server) : Sends parseUrl s s := .same rfl rfl

theorem Sends.trans (h : Sends parseUrl s t) (h' : Sends parseUrl t u) : Sends parseUrl s u where
  sent := by
    obtain ⟨new, hnew, hall⟩ := h.sent
    obtain ⟨new', hnew', hall'⟩ := h'.sent
    refine ⟨new ++ new', by rw [hnew', hnew, List.append_assoc], fun entry hmem => ?_⟩
    rcases List.mem_append.1 hmem with hmem | hmem
    · exact hall entry hmem
    · exact hall' entry hmem
  handlers := by
    intro number handler hget
    rcases h'.handlers number handler hget with hget | hreports
    · exact h.handlers number handler hget
    · exact .inr hreports

theorem sends_perform (s : Server) {actions : List PeerAction} (h : Valid parseUrl actions) :
    Sends parseUrl s (s.perform actions) := by
  have hstill := still_perform s actions
  obtain ⟨new, hnew, hmem⟩ := hstill.sent
  exact ⟨⟨new, hnew, fun entry hentry => h _ _ (hmem entry hentry)⟩,
    fun _ _ hget => .inl (hstill.handlers ▸ hget)⟩

/-- What an operation of the registry, and one of the devices, sends. -/
theorem sends_registry (s : Server) (devices : OrdMap Uuid Peer) (sessions : SessionRegistry)
    {actions : List PeerAction} (h : Valid parseUrl actions) :
    Sends parseUrl s ({ s with devices, sessions }.perform actions) :=
  .trans (t := { s with devices, sessions }) (.same rfl rfl) (sends_perform _ h)

theorem sends_updateConnection (s : Server) (socket : Peer) (f : Connection → Connection) :
    Sends parseUrl s (s.updateConnection socket f) :=
  .same (updateConnection_sent s socket f) (updateConnection_rest s socket f).2.2.2

theorem sends_finish (s : Server) (number : Nat) : Sends parseUrl s (s.finish number) where
  sent := ⟨[], (List.append_nil _).symm, by simp⟩
  handlers _ _ h := .inl (OrdMap.get?_of_get?_delete h).2

theorem sends_await (s : Server) (number : Nat) (socket : Peer) (call : StoreRequest)
    {next : Continuation} (h : next.reports = true) :
    Sends parseUrl s (s.await number socket call next) where
  sent := ⟨[], (List.append_nil _).symm, by simp⟩
  handlers := by
    intro other handler hget
    rw [await, OrdMap.get?_set] at hget
    split at hget
    · obtain rfl := Option.some.inj hget
      exact .inr h
    · exact .inl hget

theorem valid_error {code message : String}
    (h : (hasLength 1 64 code && shortText message) = true) :
    (ServerMessage.error code message).valid parseUrl = true := h

theorem valid_authRejected {reason : String} (h : shortText reason = true) :
    (ServerMessage.authRejected reason).valid parseUrl = true := h

theorem sends_fail (s : Server) (number : Nat) (socket : Peer) :
    Sends parseUrl s (s.fail number socket) :=
  (s.sends_perform (.send (valid_error (by decide)) (.close valid_nil _ _ _) _)).trans
    (sends_finish _ _)

theorem sends_reject (s : Server) (number : Nat) (socket : Peer) {reason : String}
    (h : shortText reason = true) (code : Nat) (closeReason : String) :
    Sends parseUrl s (s.reject number socket reason code closeReason) :=
  (s.sends_perform (.send (valid_authRejected h) (.close valid_nil _ _ _) _)).trans
    (sends_finish _ _)

theorem sends_offerPendingUpdate (s : Server) (number : Nat) (socket : Peer)
    (device : AuthenticatedDevice) (now : Int) :
    Sends parseUrl s (s.offerPendingUpdate number socket device now) := by
  unfold offerPendingUpdate
  split
  · exact s.sends_finish number
  · split
    · exact s.sends_finish number
    · exact s.sends_await number socket _ rfl

theorem sends_authenticate (s : Server) (number : Nat) (socket : Peer) (message : ClientMessage)
    (now : Int) : Sends parseUrl s (s.authenticate config number socket message now) := by
  unfold authenticate
  split
  · exact s.sends_await number socket _ rfl
  · split
    · exact s.sends_fail number socket
    · exact s.sends_await number socket _ rfl
  · exact s.sends_reject number socket (by decide) _ _

theorem sends_afterRelay (s : Server) (number : Nat) (socket : Peer) (message : RelayMessage)
    (now : Int) {result : Bool × SessionRegistry × List PeerAction}
    (h : Valid parseUrl result.2.2) :
    Sends parseUrl s (s.afterRelay number socket message now result) := by
  unfold afterRelay
  split
  · exact s.sends_fail number socket
  · next sessions actions =>
    refine (s.sends_registry s.devices sessions h).trans ?_
    split
    · exact sends_await _ _ _ _ rfl
    · exact sends_finish _ _

theorem sends_receive (s : Server) (number : Nat) (socket : Peer) {message : ClientMessage}
    (h : message.valid = true) (now : Int) :
    Sends parseUrl s (s.receive number socket message now) := by
  unfold receive
  split
  · exact s.sends_await number socket _ h
  · exact s.sends_await number socket _ rfl
  · exact s.sends_afterRelay number socket _ now (relayFromDevice_valid h _)
  · exact s.sends_afterRelay number socket _ now (relayFromBrowser_valid h _)
  · split
    · exact s.sends_await number socket _ rfl
    · exact s.sends_fail number socket
  · exact (s.sends_perform (.send (valid_error (by decide)) valid_nil _)).trans (sends_finish _ _)

theorem sends_onMessage (s : Server) (number : Nat) (socket : Peer)
    {message : Option ClientMessage} (h : message.all (·.valid) = true) (now : Int) :
    Sends parseUrl s (s.onMessage config number socket message now) := by
  unfold onMessage
  split
  · exact s.sends_fail number socket
  · split
    · exact s.sends_authenticate number socket _ now
    · exact s.sends_receive number socket h now

theorem sends_registerDevice (s : Server) (socket : Peer) (device : AuthenticatedDevice) :
    Sends parseUrl s (s.registerDevice socket device) :=
  (s.sends_updateConnection socket _).trans (.same rfl rfl)

theorem sends_onAuthenticated (s : Server) (number : Nat) (socket : Peer)
    (device : Option AuthenticatedDevice) (now : Int) :
    Sends parseUrl s (s.onAuthenticated number socket device now) := by
  cases device with
  | none =>
    exact (s.sends_updateConnection socket _).trans (sends_reject _ _ _ (by decide) _ _)
  | some device =>
    refine .trans (.trans (s.sends_registerDevice socket device) (sends_perform _ ?_))
      (sends_offerPendingUpdate _ _ _ _ _)
    refine .append (.append ?_ (attachDevice_valid _ _ _)) (.send rfl valid_nil _)
    intro peer message hmem
    obtain ⟨_, -, heq⟩ := List.mem_map.1 hmem
    cases heq

theorem sends_registerBrowser (s : Server) (socket : Peer) (sessionId : Uuid) :
    Sends parseUrl s (s.registerBrowser socket sessionId) :=
  (s.sends_updateConnection socket _).trans (.same rfl rfl)

theorem sends_onAuthorized
    (hconfig : ∀ sessionId now servers, config.iceServers sessionId now = some servers →
      validIceServers servers = true)
    (s : Server) (number : Nat) (socket : Peer) (ticket : BrowserTicket) {expiresAt : Option Int}
    (h : expiresAt.all datetime = true) (now : Int) :
    Sends parseUrl s (s.onAuthorized config number socket ticket expiresAt now) := by
  cases expiresAt with
  | none => exact s.sends_reject number socket (by decide) _ _
  | some expiresAt =>
    simp only [onAuthorized]
    split
    · exact s.sends_fail number socket
    · next iceServers hservers =>
      let session : BrowserSession :=
        { sessionId := ticket.sessionId, carId := ticket.carId, userId := ticket.sub, expiresAt,
          iceServers }
      have hattach : Valid parseUrl (s.sessions.attachBrowser session socket now).2.2 :=
        attachBrowser_valid session h (hconfig _ _ _ hservers) _ _
      refine (s.sends_registry s.devices (s.sessions.attachBrowser session socket now).2.1
        hattach).trans ?_
      split
      · exact ((sends_registerBrowser _ _ _).trans
          (sends_perform _ (.send rfl valid_nil _))).trans (sends_finish _ _)
      · exact sends_await _ _ _ _ rfl

theorem sends_onPresenceSet (s : Server) (number : Nat) (socket : Peer) {health : DeviceHealth}
    (h : validHealth health = true) (now : Int) :
    Sends parseUrl s (s.onPresenceSet number socket health now) := by
  unfold onPresenceSet
  split
  · exact s.sends_fail number socket
  · exact (s.sends_perform (sendDeviceTelemetry_valid h _)).trans
      (sends_offerPendingUpdate _ _ _ _ _)

theorem sends_onMarkedActive (s : Server) (number : Nat) (socket : Peer) (marked : Bool)
    (startedAt : Int) : Sends parseUrl s (s.onMarkedActive number socket marked startedAt) := by
  unfold onMarkedActive
  split
  · exact s.sends_fail number socket
  · split
    · next sessionId _ _ =>
      dsimp only
      refine .trans (t := { s with sessions := (s.sessions.markConnected sessionId startedAt).2 })
        (.same rfl rfl) ?_
      split
      · exact sends_finish _ _
      · exact sends_await _ _ _ _ rfl
    · exact s.sends_fail number socket

theorem sends_closeBrowser (s : Server) (number : Nat) (socket : Peer) (now : Int) :
    Sends parseUrl s (s.closeBrowser number socket now) := by
  unfold closeBrowser
  split
  · exact s.sends_finish number
  · next sessionId _ =>
    have hdetach : Valid parseUrl (s.sessions.detachBrowser sessionId "browser disconnected").2 :=
      endSession_valid (by decide) _ _
    exact (s.sends_registry s.devices _ hdetach).trans (sends_await _ _ _ _ rfl)

theorem sends_disconnect (s : Server) (number : Nat) (socket : Peer) (now : Int) :
    Sends parseUrl s (s.disconnect number socket now) := by
  unfold disconnect
  split
  · exact s.sends_finish number
  · exact s.sends_await number socket _ rfl

theorem sends_releaseDevice (s : Server) (number : Nat) (socket : Peer)
    (device : AuthenticatedDevice) (now : Int) :
    Sends parseUrl s (s.releaseDevice number socket device now) := by
  have hdetach : Valid parseUrl (s.sessions.detachDevice device.carId socket).2.2 :=
    detachDevice_valid _ _
  unfold releaseDevice
  dsimp only
  refine (s.sends_registry (s.devices.delete device.deviceId)
    (s.sessions.detachDevice device.carId socket).2.1 hdetach).trans ?_
  split
  · exact sends_await _ _ _ _ rfl
  · exact sends_disconnect _ _ _ _

theorem sends_onClose (s : Server) (number : Nat) (socket : Peer) (now : Int) :
    Sends parseUrl s (s.onClose number socket now) := by
  have hmark : Sends parseUrl s (s.markClosed socket) :=
    (s.sends_updateConnection socket _).trans (.same rfl rfl)
  unfold onClose
  split
  · exact .refl s
  · refine hmark.trans ?_
    dsimp only
    split
    · exact sends_closeBrowser _ _ _ _
    · split
      · exact sends_releaseDevice _ _ _ _ _
      · exact sends_closeBrowser _ _ _ _

/-- A handler goes on with a report that has been parsed and a reply that may be written. -/
theorem sends_resume
    (hconfig : ∀ sessionId now servers, config.iceServers sessionId now = some servers →
      validIceServers servers = true)
    {handler : Handler} (hreports : handler.next.reports = true) {reply : Reply}
    (hreply : reply.writable parseUrl = true) {now : Int}
    (h : s.resume config number handler reply now = some t) : Sends parseUrl s t := by
  obtain ⟨socket, call, next⟩ := handler
  unfold resume at h
  dsimp only at h hreports
  split at h <;> try obtain rfl := Option.some.inj h
  · exact s.sends_onAuthenticated number socket _ now
  · next offer =>
    refine (sends_perform s fun peer message hmem => ?_).trans (sends_finish _ _)
    obtain ⟨offered, hoffer, heq⟩ := List.mem_map.1 hmem
    obtain ⟨-, rfl⟩ := PeerAction.send.inj heq
    obtain rfl := Option.mem_toList.1 hoffer
    exact hreply
  · next ticket expiresAt =>
    have hdate : expiresAt.all datetime = true := hreply
    exact s.sends_onAuthorized hconfig number socket ticket hdate now
  · exact s.sends_reject number socket (by decide) _ _
  · exact s.sends_fail number socket
  · exact s.sends_await number socket _ hreports
  · exact s.sends_onPresenceSet number socket hreports now
  · split
    · exact s.sends_finish number
    · exact s.sends_fail number socket
  · exact s.sends_finish number
  · exact s.sends_onMarkedActive number socket _ _
  · exact s.sends_fail number socket
  · exact s.sends_disconnect number socket now
  · exact s.sends_disconnect number socket now
  · exact s.sends_closeBrowser number socket now
  · exact s.sends_closeBrowser number socket now
  · exact s.sends_finish number
  · exact s.sends_finish number
  · exact s.sends_fail number socket
  · cases h

end Server

/-! ## What is parsed -/

/-- A message that its schema rejects is handled like one that does not parse. -/
def Event.parsed : Event → Event
  | .message socket number received now => .message socket number (received.filter (·.valid)) now
  | e => e

def SystemEvent.parsed : SystemEvent → SystemEvent
  | .serve e pick => .serve e.parsed pick
  | e => e

theorem Event.parsed_message {e : Event} {socket : Peer} {number : Nat}
    {message : Option ClientMessage} {now : Int}
    (h : e.parsed = .message socket number message now) : message.all (·.valid) = true := by
  cases e with
  | message socket number received now =>
    obtain ⟨-, -, rfl, -⟩ : _ = _ ∧ _ = _ ∧ received.filter (·.valid) = message ∧ _ = _ :=
      Event.message.inj h
    cases received with
    | none => rfl
    | some received => cases hvalid : received.valid <;> simp [Option.filter, hvalid]
  | _ => cases h

namespace Server

variable {config : GatewayConfig} {parseUrl : String → Option Url} {s t : Server}

theorem sends_step
    (hconfig : ∀ sessionId now servers, config.iceServers sessionId now = some servers →
      validIceServers servers = true)
    (hreports : ∀ number handler, s.handlers.get? number = some handler →
      handler.next.reports = true) {e : Event}
    (hmessage : ∀ socket number message now, e = .message socket number message now →
      message.all (·.valid) = true)
    (hreply : ∀ number reply now, e = .reply number reply now → reply.writable parseUrl = true)
    (h : s.step config e = some t) : Sends parseUrl s t := by
  cases e with
  | connect socket =>
    obtain ⟨-, ⟨⟩⟩ := Option.ite_none_left_eq_some.1 h
    exact .same rfl rfl
  | message socket number message now =>
    obtain ⟨-, ⟨⟩⟩ := Option.ite_none_right_eq_some.1 h
    exact s.sends_onMessage number socket (hmessage _ _ _ _ rfl) now
  | reply number reply now =>
    obtain ⟨handler, hget, h⟩ := Option.bind_eq_some_iff.1 h
    exact sends_resume hconfig (hreports number handler hget) (hreply number reply now rfl) h
  | pong socket =>
    obtain rfl := Option.some.inj h
    split <;> exact .same rfl rfl
  | closing socket =>
    obtain rfl := Option.some.inj h
    exact s.sends_updateConnection socket _
  | close socket number now =>
    obtain ⟨-, ⟨⟩⟩ := Option.ite_none_right_eq_some.1 h
    exact s.sends_onClose number socket now
  | authenticationTimeout socket =>
    obtain ⟨-, ⟨⟩⟩ := Option.ite_none_right_eq_some.1 h
    unfold onAuthenticationTimeout
    dsimp only
    refine (s.sends_updateConnection socket fun connection =>
      { connection with timeoutArmed := false }).trans ?_
    split
    · exact sends_perform _ (.close SessionRegistry.valid_nil _ _ _)
    · exact .refl _
  | sweep now =>
    obtain rfl := Option.some.inj h
    exact s.sends_registry s.devices (s.sessions.sweep now).2.1 (SessionRegistry.sweep_valid now)
  | pingBrowsers now failing =>
    obtain rfl := Option.some.inj h
    have hstill := still_pingBrowsers now failing s
    obtain ⟨new, hnew, hmem⟩ := hstill.sent
    exact ⟨⟨new, hnew, fun entry hentry => absurd (hmem entry hentry) List.not_mem_nil⟩,
      fun _ _ hget => .inl (hstill.handlers ▸ hget)⟩

end Server

/-! ## The store -/

/-- What the rows say that may be written. -/
structure Writable (parseUrl : String → Option Url) (db : Database) : Prop where
  sessions : ∀ row ∈ db.driveSessions.rows, datetime row.expiresAt = true
  /-- A pending job installs a complete release. -/
  releases : ∀ job ∈ db.deviceUpdateJobs.rows, job.status = .pending →
    ∀ firmware ∈ db.firmwareVersions.rows, firmware.id = job.firmwareVersionId →
      isCompleteAgentRelease parseUrl firmware = true

section store

variable {parseUrl : String → Option Url} {db db' : Database}

/-- No session gets a time of its own, no job becomes pending, and the releases stay. -/
structure Conserves (db db' : Database) : Prop where
  sessions : ∀ row ∈ db'.driveSessions.rows, ∃ old ∈ db.driveSessions.rows,
    row.expiresAt = old.expiresAt
  jobs : ∀ job ∈ db'.deviceUpdateJobs.rows, job.status = .pending →
    job ∈ db.deviceUpdateJobs.rows
  releases : db'.firmwareVersions = db.firmwareVersions

theorem Writable.conserved (h : Writable parseUrl db) (h' : Conserves db db') :
    Writable parseUrl db' where
  sessions row hrow := by
    obtain ⟨old, hold, heq⟩ := h'.sessions row hrow
    exact heq ▸ h.sessions old hold
  releases job hjob hpending firmware hfirmware :=
    h.releases _ (h'.jobs job hjob hpending) hpending firmware (h'.releases ▸ hfirmware)

theorem Aside.conserves (h : Aside db db') : Conserves db db' where
  sessions row hrow := ⟨row, h.driveSessions ▸ hrow, rfl⟩
  jobs _ hjob _ := h.deviceUpdateJobs ▸ hjob
  releases := h.firmwareVersions

/-- Sessions are updated, and no time that they end at. -/
theorem conserves_update {p : DriveSession → Bool} {f : DriveSession → DriveSession}
    (hsessions : db'.driveSessions.rows = db.driveSessions.rows.map (patch p f))
    (hjobs : db'.deviceUpdateJobs = db.deviceUpdateJobs)
    (hreleases : db'.firmwareVersions = db.firmwareVersions)
    (hexpires : ∀ r, (f r).expiresAt = r.expiresAt) : Conserves db db' where
  sessions row hrow := by
    rw [hsessions] at hrow
    obtain ⟨old, hold, rfl⟩ := List.mem_map.1 hrow
    exact ⟨old, hold, patch_column hexpires⟩
  jobs _ hjob _ := hjobs ▸ hjob
  releases := hreleases

theorem conserves_refl (db : Database) : Conserves db db := (Aside.refl db).conserves

theorem updateSession_conserves {sessionId : Uuid} {p : DriveSession → Bool}
    {f : DriveSession → DriveSession} {hf : ∀ r, Row.key (f r) = Row.key r} {row : DriveSession}
    {after : Database} (h : updateSession sessionId p f hf db = some (row, after))
    (hexpires : ∀ r, (f r).expiresAt = r.expiresAt) : Conserves db after := by
  obtain ⟨-, -, -, rfl⟩ := updateSession_eq_some h
  exact conserves_update (f := f) rfl rfl rfl hexpires

theorem Conserves.trans {db'' : Database} (h : Conserves db db') (h' : Conserves db' db'') :
    Conserves db db'' where
  sessions row hrow := by
    obtain ⟨old, hold, heq⟩ := h'.sessions row hrow
    obtain ⟨older, holder, heq'⟩ := h.sessions old hold
    exact ⟨older, holder, heq.trans heq'⟩
  jobs job hjob hpending := h.jobs job (h'.jobs job hjob hpending) hpending
  releases := h'.releases.trans h.releases

theorem conserves_releaseSession (pick : Uuid → Nat) (now : Int) (db : Database)
    (session : DriveSession) : Conserves db (releaseSession pick now db session) :=
  Aside.conserves ⟨rfl, rfl, rfl⟩

theorem conserves_authorize (input : AuthorizeDriveSessionInput) (db : Database) :
    Conserves db (authorizeTransaction input db).2 := by
  unfold authorizeTransaction
  split
  · exact conserves_refl db
  · next hupdate =>
    exact (updateSession_conserves hupdate fun _ => rfl).trans (Aside.conserves ⟨rfl, rfl, rfl⟩)

theorem conserves_markActive (sessionId : Uuid) (now : Int) (db : Database) :
    Conserves db (markActiveTransaction sessionId now db).2 := by
  unfold markActiveTransaction
  dsimp only
  split
  · exact conserves_refl db
  · next hupdate =>
    exact (updateSession_conserves hupdate fun _ => rfl).trans (Aside.conserves ⟨rfl, rfl, rfl⟩)

theorem conserves_end (pick : Uuid → Nat) (sessionId : Uuid) (now : Int) (db : Database) :
    Conserves db (endTransaction pick sessionId now db).2 := by
  unfold endTransaction
  split
  · exact conserves_refl db
  · next hupdate =>
    exact (updateSession_conserves hupdate fun _ => rfl).trans
      (conserves_releaseSession pick now _ _)

theorem conserves_expire (pick : Uuid → Nat) (now : Int) (db : Database) :
    Conserves db (expireTransaction pick now db).2 := by
  have hend : Conserves db (endSessions (expires now) now db) :=
    conserves_update rfl rfl rfl fun _ => rfl
  exact List.foldlRecOn (motive := fun after => Conserves db after) _ _ hend
    fun after h session _ => h.trans (conserves_releaseSession pick now after session)

/-- Jobs are updated, and none becomes pending. -/
theorem conserves_jobs {p : DeviceUpdateJob → Bool} {f : DeviceUpdateJob → DeviceUpdateJob}
    {jobs : Table DeviceUpdateJob} (hjobs : jobs.rows = db.deviceUpdateJobs.rows.map (patch p f))
    (hstatus : ∀ job, (f job).status ≠ .pending) :
    Conserves db { db with deviceUpdateJobs := jobs } where
  sessions row hrow := ⟨row, hrow, rfl⟩
  jobs job hjob hpending := by
    dsimp only at hjob
    rw [hjobs] at hjob
    obtain ⟨old, hold, rfl⟩ := List.mem_map.1 hjob
    unfold patch at hpending ⊢
    split at hpending
    · exact absurd hpending (hstatus old)
    · next hp =>
      rw [if_neg hp]
      exact hold
  releases := rfl

theorem conserves_claim (pick : Nat) (deviceId : Uuid) (runtimeGeneration now : Int)
    (db : Database) : Conserves db (claimTransaction pick deviceId runtimeGeneration now db).2 := by
  unfold claimTransaction
  dsimp only
  split
  · exact conserves_refl db
  · exact conserves_jobs rfl fun _ h => by cases h

theorem conserves_recordStatus (deviceId updateId : Uuid) (status : UpdateProgressStatus)
    (reason : Option String) (now : Int) (db : Database) :
    Conserves db (recordStatus deviceId updateId status reason now db).2 :=
  conserves_jobs rfl fun _ => by cases status <;> nofun

theorem conserves_authenticate (credential : CredentialRow) (device : AuthenticatedDevice)
    (now : Int) (db : Database) :
    Conserves db (authenticateTransaction credential device now db) where
  sessions row hrow := ⟨row, hrow, rfl⟩
  jobs job hjob hpending := by
    obtain ⟨settled, hrows, hsettles⟩ :=
      resolveApplying_settles device.deviceId device.agentVersion now db
    have hjob' : job ∈ (resolveApplying device.deviceId device.agentVersion now db).rows := hjob
    rw [hrows] at hjob'
    obtain ⟨old, hold, rfl⟩ := List.mem_map.1 hjob'
    rcases hsettles old with heq | ⟨-, -, -, hstatus, -⟩
    · rw [heq]
      exact hold
    · rw [hpending] at hstatus
      rcases hstatus with hstatus | hstatus <;> cases hstatus
  releases := rfl

/-- The offer of a complete release. -/
theorem validOffer_of_complete {job : DeviceUpdateJob} {release : FirmwareVersion}
    {offer : DeviceUpdateOffer} (hcomplete : isCompleteAgentRelease parseUrl release = true)
    (h : candidateOffer job release = some offer) : validOffer parseUrl offer = true := by
  obtain ⟨generation, hgeneration, h⟩ := Option.bind_eq_some_iff.1 h
  obtain ⟨artifactUrl, hurl, h⟩ := Option.bind_eq_some_iff.1 h
  obtain ⟨size, hsize, h⟩ := Option.bind_eq_some_iff.1 h
  obtain rfl := Option.some.inj h
  have hgeneration := (Option.filter_eq_some_iff.1 hgeneration).1
  have hurl := (Option.filter_eq_some_iff.1 hurl).1
  have hsize := (Option.filter_eq_some_iff.1 hsize).1
  simp only [isCompleteAgentRelease, hgeneration, hurl, hsize, Option.any_some,
    Bool.and_eq_true] at hcomplete
  obtain ⟨⟨⟨⟨⟨⟨-, hversion⟩, hartifact⟩, hbytes⟩, hrange⟩, hdigest⟩, hsignature⟩ := hcomplete
  simp only [validOffer, inRange, Bool.and_eq_true]
  exact ⟨⟨⟨⟨⟨hversion, hrange⟩, httpsUrl_of_isArtifactUrl hartifact⟩, hbytes⟩, hdigest⟩, hsignature⟩

/-- A claim offers a complete release. -/
theorem validOffer_of_claim (h : Writable parseUrl db) {pick : Nat} {deviceId : Uuid}
    {runtimeGeneration now : Int} {offer : DeviceUpdateOffer}
    (hclaim : (claimTransaction pick deviceId runtimeGeneration now db).1 = some offer) :
    validOffer parseUrl offer = true := by
  unfold claimTransaction at hclaim
  dsimp only at hclaim
  split at hclaim
  · cases hclaim
  · next offer' hcandidate =>
    obtain ⟨-, heq⟩ := Option.ite_none_right_eq_some.1 hclaim
    obtain rfl := Option.some.inj heq
    obtain ⟨⟨job, firmware⟩, hpick, hoffer⟩ := Option.bind_eq_some_iff.1 hcandidate
    obtain ⟨row, hrow, hjoin⟩ := List.mem_flatMap.1 (limitOne_mem hpick)
    obtain ⟨release, hrelease, heq⟩ := List.mem_map.1 hjoin
    obtain ⟨rfl, rfl⟩ := Prod.mk.inj heq
    obtain ⟨hmem, hp⟩ := List.mem_filter.1 hrow
    obtain ⟨hmem', hp'⟩ := List.mem_filter.1 hrelease
    simp only [Bool.and_eq_true, decide_eq_true_eq] at hp hp'
    exact validOffer_of_complete (h.releases row hmem hp.1.2 release hmem' hp'.1.1) hoffer

/-- A plain call comes to a reply of which nothing is written. -/
theorem writable_of_plain {request : StoreRequest} {pick : Uuid → Nat} {reply : Reply}
    (hplain : request.plain = true) (h : (request.code pick).Residual (.done reply)) :
    reply.writable parseUrl = true := by
  cases request with
  | recordUpdateStatus | recordHeartbeat | setPresenceState | markDeviceOffline =>
    obtain ⟨_, rfl⟩ := h.of_map_done
    rfl
  | authenticateDevice | claimPendingUpdate | authorizeDriveSession | markDriveSessionActive
  | endDriveSession => cases hplain

/-- A statement conserves the rows, and what it returns may be written. -/
theorem Writable.statement (h : Writable parseUrl db) {request : StoreRequest}
    {rest : Prog Database Reply} (hstatement : StatementOf db request db' rest) {pick : Uuid → Nat}
    (hresidual : (request.code pick).Residual rest) :
    Conserves db db' ∧ ∀ reply, rest = .done reply → reply.writable parseUrl = true := by
  cases hstatement with
  | authorizeDriveSession sessionId userId carId now =>
    refine ⟨conserves_authorize _ db, ?_⟩
    rintro _ ⟨⟩
    rcases authorize_cases ⟨sessionId, userId, carId, now⟩ db with
      ⟨hnone, -⟩ | ⟨row, hget, -, -, hsome, -⟩
    · rw [hnone]
      rfl
    · rw [hsome]
      exact h.sessions row (Table.get?_eq_some_iff.1 hget).1
  | markDriveSessionActive sessionId now =>
    refine ⟨conserves_markActive sessionId now db, ?_⟩
    rintro _ ⟨⟩
    rfl
  | endDriveSession pick sessionId reason now =>
    refine ⟨conserves_end pick sessionId now db, ?_⟩
    rintro _ ⟨⟩
    rfl
  | claimPendingUpdate pick deviceId runtimeGeneration now =>
    refine ⟨conserves_claim pick deviceId runtimeGeneration now db, ?_⟩
    rintro _ ⟨⟩
    cases hclaim : (claimTransaction pick deviceId runtimeGeneration now db).1 with
    | none => rfl
    | some offer => exact validOffer_of_claim h hclaim
  | recordUpdateStatus deviceId updateId status reason now =>
    refine ⟨conserves_recordStatus deviceId updateId status reason now db, ?_⟩
    rintro _ ⟨⟩
    rfl
  | authenticateDevice credential deviceId carId suppliedHash agentVersion capabilities now =>
    refine ⟨conserves_authenticate credential _ now db, ?_⟩
    rintro _ ⟨⟩
    rfl
  | credentials deviceId suppliedHash agentVersion capabilities now hrest =>
    refine ⟨conserves_refl db, ?_⟩
    rintro reply rfl
    obtain ⟨device, rfl⟩ := hresidual.of_map_done
    rfl
  | aside hplain haside =>
    refine ⟨haside.conserves, ?_⟩
    rintro reply rfl
    exact writable_of_plain hplain hresidual

theorem SweepStatement.conserves {call : SweepCall} (h : SweepStatement db call db') :
    Conserves db db' := by
  cases h with
  | presence stale cutoff now haside => exact haside.conserves
  | expireDriveSessions pick now => exact conserves_expire pick now db
  | endDriveSession pick sessionId now => exact conserves_end pick sessionId now db

/-- The session that a call of the web application creates ends at a time that can be written. -/
def WebCall.dated : WebCall → Bool
  | .create input => datetime (input.checkedAt + driveSessionDurationMs)
  | .requestDeviceUpdate _ => true

theorem create_releases (input : CreateInput) (db : Database) :
    (createTransaction input db).2.deviceUpdateJobs = db.deviceUpdateJobs ∧
      (createTransaction input db).2.firmwareVersions = db.firmwareVersions := by
  unfold createTransaction
  dsimp only
  split
  · exact ⟨rfl, rfl⟩
  · split
    · exact ⟨rfl, rfl⟩
    · split
      · exact ⟨rfl, rfl⟩
      · split
        · exact ⟨rfl, rfl⟩
        · split
          · exact ⟨rfl, rfl⟩
          · split
            · exact ⟨rfl, rfl⟩
            · unfold insertSession
              dsimp only
              split <;> exact ⟨rfl, rfl⟩

theorem Writable.create (h : Writable parseUrl db) {input : CreateInput}
    (hdated : datetime (input.checkedAt + driveSessionDurationMs) = true) :
    Writable parseUrl (createTransaction input db).2 := by
  obtain ⟨hjobs, hreleases⟩ := create_releases input db
  refine ⟨fun row hrow => ?_, by rw [hjobs, hreleases]; exact h.releases⟩
  have hget := Table.get?_eq_some_iff.2 ⟨hrow, rfl⟩
  rcases create_get? input db (Row.key row) with heq | ⟨new, -, hexpires, -, heq⟩
  · rw [heq] at hget
    exact h.sessions row (Table.get?_eq_some_iff.1 hget).1
  · rw [heq] at hget
    obtain rfl := Option.some.inj hget
    rwa [hexpires]

/-- A job that is requested installs the one release that has its id. -/
theorem Writable.request (h : Writable parseUrl db) (request : DeviceUpdateRequest) :
    Writable parseUrl (requestTransaction parseUrl request db).2 := by
  unfold requestTransaction
  split
  · exact h
  · next device _ =>
    dsimp only
    split
    · exact h
    · next release hrelease =>
      split
      · exact h
      · split
        · exact h
        · next jobs hinsert =>
          obtain ⟨hpick, hcomplete⟩ := Option.filter_eq_some_iff.1 hrelease
          have hmem := (List.mem_filter.1 (limitOne_mem hpick)).1
          refine ⟨h.sessions, fun job hjob hpending firmware hfirmware hid => ?_⟩
          rcases (Table.mem_insert? hinsert).1 hjob with hjob | rfl
          · exact h.releases job hjob hpending firmware hfirmware hid
          · obtain rfl := db.firmwareVersions.eq_of_key hfirmware hmem hid
            exact hcomplete

theorem Writable.web (h : Writable parseUrl db) {call : WebCall} (hdated : call.dated = true) :
    Writable parseUrl (call.run parseUrl db) := by
  cases call with
  | create input => exact h.create hdated
  | requestDeviceUpdate request => exact h.request request

end store

/-! ## Every run -/

namespace System

variable {config : GatewayConfig} {parseUrl : String → Option Url} {s t : System}

structure Sound (parseUrl : String → Option Url) (s : System) : Prop where
  fits : s.Fits
  store : Writable parseUrl s.store
  reports : ∀ number handler, s.server.handlers.get? number = some handler →
    handler.next.reports = true
  replies : ∀ number reply, s.calls.get? number = some (.done reply) →
    reply.writable parseUrl = true
  sent : ∀ entry ∈ s.server.sent, entry.2.valid parseUrl = true

theorem Sound.sends (h : Sound parseUrl s) {server : Server}
    (hsends : Server.Sends parseUrl s.server server) :
    (∀ number handler, server.handlers.get? number = some handler → handler.next.reports = true) ∧
      ∀ entry ∈ server.sent, entry.2.valid parseUrl = true := by
  refine ⟨fun number handler hget => ?_, fun entry hentry => ?_⟩
  · rcases hsends.handlers number handler hget with hget | hreports
    · exact h.reports number handler hget
    · exact hreports
  · obtain ⟨new, hnew, hall⟩ := hsends.sent
    rw [hnew] at hentry
    rcases List.mem_append.1 hentry with hentry | hentry
    · exact h.sent entry hentry
    · exact hall entry hentry

/-- The condition on a step: a session that is created is dated. -/
def SystemEvent.dated : SystemEvent → Bool
  | .web call => call.dated
  | _ => true

theorem Sound.step
    (hconfig : ∀ sessionId now servers, config.iceServers sessionId now = some servers →
      validIceServers servers = true)
    (h : Sound parseUrl s) {e : SystemEvent} (hdated : SystemEvent.dated e = true)
    (hstep : s.step config parseUrl e.parsed = some t) : Sound parseUrl t := by
  have hfits := h.fits.step hstep
  cases e with
  | serve e pick =>
    have hstep : s.step config parseUrl (.serve e.parsed pick) = some t := hstep
    cases step_cases hstep with
    | serve hadmits hserver =>
      next server =>
      have hreply : ∀ number reply now, e.parsed = .reply number reply now →
          reply.writable parseUrl = true := by
        intro number reply now heq
        rcases answers_of_admits hadmits number reply now heq with rfl | hdone
        · rfl
        · exact h.replies number reply hdone
      have hsends := Server.sends_step hconfig h.reports
        (fun _ _ _ _ heq => Event.parsed_message heq) hreply hserver
      obtain ⟨hreports, hsent⟩ := h.sends hsends
      refine ⟨hfits, h.store, hreports, fun number reply hcall => ?_, hsent⟩
      rw [callsAfter_get?] at hcall
      split at hcall
      · obtain ⟨handler, -, heq⟩ := Option.map_eq_some_iff.1 hcall
        exact absurd heq (code_ne_done _ _ _)
      · exact h.replies number reply hcall
  | sweep tick pick =>
    obtain rfl := Option.some.inj hstep
    obtain ⟨hreports, hsent⟩ := h.sends (s.server.sends_registry s.server.devices
      (s.server.sessions.sweep tick.sweepNow).2.1 (SessionRegistry.sweep_valid tick.sweepNow))
    exact ⟨hfits, h.store, hreports, h.replies, hsent⟩
  | statement number =>
    have hstep : s.step config parseUrl (.statement number) = some t := hstep
    cases step_cases hstep with
    | statement hcall =>
      next act next =>
      obtain ⟨handler, hget⟩ := h.fits.handler hcall
      obtain ⟨pick, rest, hrest, hresidual⟩ := h.fits.calls number handler hget
      obtain rfl := Option.some.inj (hcall.symm.trans hrest)
      obtain ⟨hconserves, hreply⟩ := h.store.statement (h.fits.statement hget hcall s.store)
        (hresidual.next s.store)
      refine ⟨hfits, h.store.conserved hconserves, h.reports, fun other reply hother => ?_, h.sent⟩
      dsimp only at hother
      rw [OrdMap.get?_set] at hother
      split at hother
      · exact hreply reply (Option.some.inj hother)
      · exact h.replies other reply hother
  | sweepStatement i =>
    have hstep : s.step config parseUrl (.sweepStatement i) = some t := hstep
    cases step_cases hstep with
    | sweepStatement hcall =>
      have hconserves := (h.fits.sweepStatement hcall s.store).conserves
      exact ⟨hfits, h.store.conserved hconserves, h.reports, h.replies, h.sent⟩
    | sweepDone => exact ⟨hfits, h.store, h.reports, h.replies, h.sent⟩
  | web call =>
    obtain rfl := Option.some.inj hstep
    exact ⟨hfits, h.store.web hdated, h.reports, h.replies, h.sent⟩

/-- The steps of a gateway that parses what it receives, with a web application whose clock can be
written. -/
def ParsedStep (config : GatewayConfig) (parseUrl : String → Option Url) (s : System)
    (e : SystemEvent) (t : System) : Prop :=
  SystemEvent.dated e = true ∧ s.step config parseUrl e.parsed = some t

/-- **Main result.** With ICE servers that pass their schema and rows that may be written, every
message that the gateway writes passes the schema that it is read with. -/
theorem sent_valid {store : Database} {events : List SystemEvent}
    (hconfig : ∀ sessionId now servers, config.iceServers sessionId now = some servers →
      validIceServers servers = true)
    (hstore : Writable parseUrl store)
    (h : Run (ParsedStep config parseUrl) (.start store) events s) :
    ∀ peer message, (peer, message) ∈ s.server.sent → message.valid parseUrl = true := by
  have hstart : Sound parseUrl (.start store) := by
    refine ⟨.start store, hstore, ?_, ?_, ?_⟩
    · exact fun _ _ hget => nomatch hget
    · exact fun _ _ hcall => nomatch hcall
    · exact fun _ hentry => absurd hentry List.not_mem_nil
  have hsound : Sound parseUrl s :=
    h.invariant hstart fun hs hstep => hs.step hconfig hstep.1 hstep.2
  exact fun peer message hmem => hsound.sent (peer, message) hmem

/-- A device and its driver connect. -/
def meeting : List SystemEvent :=
  [.serve (.connect 10) fun _ => 0,
    .serve (.message 10 0 (some (.deviceAuthenticate 2 "a secret of the device that is long" "0.4.0"
      none)) 1000) fun _ => 0,
    .statement 0, .statement 0,
    .serve (.reply 0 (.device (some ⟨2, 1, "0.4.0", ⟨none, none⟩⟩)) 1000) fun _ => 0,
    .serve (.connect 20) fun _ => 0,
    .serve (.message 20 1 (some (.browserAuthenticate "a ticket of the browser that is long")) 2000)
      fun _ => 0,
    .statement 1,
    .serve (.reply 1 (.authorized (some 300000)) 2001) fun _ => 0]

theorem driveDb_writable : Writable parseUrl driveDb where
  sessions := by decide
  releases := fun _ hjob => absurd hjob List.not_mem_nil

end System

end RcOnline.Gateway
