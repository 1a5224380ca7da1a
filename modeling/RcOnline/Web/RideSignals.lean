import RcOnline.Gateway.Sessions
import RcOnline.Lib.Steps
import RcOnline.Web.RideSession

/-!
# What the browser tells the gateway

Over every run of a client its messages to the gateway open with the ticket, are all of its own
session, say once at most that the car is connected, and end with the end of the session
(`speaks_for_its_session`). What a step tells the gateway is one of five things (`Says`); a step
that only reports (`Aside`) tells it nothing.
-/

namespace RcOnline.Web

open RcOnline.Lib RcOnline.Schema RcOnline.Gateway

namespace RideSessionClient

variable {s t u client : RideSessionClient} {event : RideSessionEvent}

/-- The message of an entry that is one to the gateway. -/
def Output.sent? : Output → Option ClientMessage
  | .sent message => some message
  | _ => none

/-- The messages to the gateway so far. -/
def sent (client : RideSessionClient) : List ClientMessage := client.log.filterMap Output.sent?

/-- What a step leaves alone that tells the gateway nothing. -/
structure Silent (s t : RideSessionClient) : Prop where
  session : t.session = s.session
  socket : t.socket = s.socket
  closed : t.closed = s.closed
  connectedReported : t.connectedReported = s.connectedReported
  sent : t.sent = s.sent

/-- What a step leaves alone that only reports: the connection and the loop too. -/
structure Aside (s t : RideSessionClient) : Prop extends Silent s t where
  peer : t.peer = s.peer
  controlFailed : t.controlFailed = s.controlFailed
  stats : t.stats = s.stats

theorem Silent.refl (s : RideSessionClient) : Silent s s := ⟨rfl, rfl, rfl, rfl, rfl⟩

theorem Silent.trans (h : Silent s t) (h' : Silent t u) : Silent s u where
  session := h'.session.trans h.session
  socket := h'.socket.trans h.socket
  closed := h'.closed.trans h.closed
  connectedReported := h'.connectedReported.trans h.connectedReported
  sent := h'.sent.trans h.sent

theorem Aside.refl (s : RideSessionClient) : Aside s s := ⟨.refl s, rfl, rfl, rfl⟩

theorem Aside.trans (h : Aside s t) (h' : Aside t u) : Aside s u where
  toSilent := h.toSilent.trans h'.toSilent
  peer := h'.peer.trans h.peer
  controlFailed := h'.controlFailed.trans h.controlFailed
  stats := h'.stats.trans h.stats

theorem sent_emit (client : RideSessionClient) (outputs : List Output) :
    (client.emit outputs).sent = client.sent ++ outputs.filterMap Output.sent? :=
  List.filterMap_append

/-- Reports that are no messages. -/
theorem emit_aside (client : RideSessionClient) {outputs : List Output}
    (h : outputs.filterMap Output.sent? = []) : Aside client (client.emit outputs) where
  session := rfl
  socket := rfl
  closed := rfl
  connectedReported := rfl
  sent := by rw [sent_emit, h, List.append_nil]
  peer := rfl
  controlFailed := rfl
  stats := rfl

theorem ask_aside (client : RideSessionClient) (sendThrows : Bool)
    (answer : Option VideoProfile × QualityClient) :
    Aside client (client.ask sendThrows answer) := by
  refine .trans (t := { client with quality := answer.2 }) ?_ (emit_aside _ ?_)
  · exact ⟨⟨rfl, rfl, rfl, rfl, rfl⟩, rfl, rfl, rfl⟩
  · cases sendThrows with
    | true => rfl
    | false => cases answer.1 <;> rfl

theorem bindVideoQuality_aside (client : RideSessionClient) (channel : ChannelId) (label : String) :
    Aside client (client.bindVideoQuality channel label) := by
  unfold bindVideoQuality
  split
  · exact .refl _
  · exact ⟨⟨rfl, rfl, rfl, rfl, rfl⟩, rfl, rfl, rfl⟩

theorem qualityClosed_aside (client : RideSessionClient) (channel : ChannelId) :
    Aside client (client.qualityClosed channel) := by
  unfold qualityClosed
  split
  · exact .refl _
  · exact ⟨⟨rfl, rfl, rfl, rfl, rfl⟩, rfl, rfl, rfl⟩

theorem qualityMessage_aside (host : ClientHost) (client : RideSessionClient) (channel : ChannelId)
    (data : Option String) (negotiation : Negotiation) (sendThrows : Bool) (now : ℚ) :
    Aside client (client.qualityMessage host channel data negotiation sendThrows now) := by
  unfold qualityMessage
  split
  · exact .refl _
  · split
    · exact .refl _
    · split
      · exact .refl _
      · exact client.ask_aside _ _

theorem sampleFailed_aside (client : RideSessionClient) : Aside client client.sampleFailed := by
  refine .trans (t := { client with videoSampler := newSampler }) ?_ (emit_aside _ rfl)
  exact ⟨⟨rfl, rfl, rfl, rfl, rfl⟩, rfl, rfl, rfl⟩

theorem publishStream_aside (client : RideSessionClient) : Aside client client.publishStream := by
  unfold publishStream
  split
  · exact emit_aside _ rfl
  · exact .refl _

theorem onTrack_aside (client : RideSessionClient) (track : MediaTrack) :
    Aside client (client.onTrack track) := by
  have hadd : Aside client (client.addTrack track) := by
    unfold addTrack
    split
    · exact .refl _
    · exact ⟨⟨rfl, rfl, rfl, rfl, rfl⟩, rfl, rfl, rfl⟩
  have hreport : Aside client ((client.addTrack track).reportTrack track) := by
    refine hadd.trans ?_
    unfold reportTrack
    split
    · exact emit_aside _ rfl
    · exact .refl _
  unfold onTrack
  split
  · exact .refl _
  · exact hreport.trans (publishStream_aside _)

theorem onTrackEnded_aside (client : RideSessionClient) (track : MediaTrack) :
    Aside client (client.onTrackEnded track) := by
  have hremove : Aside client (client.removeTrack track) :=
    ⟨⟨rfl, rfl, rfl, rfl, rfl⟩, rfl, rfl, rfl⟩
  unfold onTrackEnded
  split
  · exact hremove
  · exact hremove.trans (publishStream_aside _)

theorem routeDetected_aside (client : RideSessionClient)
    (report : Option (List (String × StatsEntry))) :
    Aside client (client.routeDetected report) := by
  unfold routeDetected
  split
  · exact .refl _
  · exact emit_aside _ rfl

theorem startVideoStats_silent (client : RideSessionClient) :
    Silent client client.startVideoStats := by
  unfold startVideoStats
  split
  · exact .refl _
  · exact ⟨rfl, rfl, rfl, rfl, rfl⟩

theorem stopVideoStats_silent (client : RideSessionClient) :
    Silent client client.stopVideoStats := by
  unfold stopVideoStats
  refine .trans ?_ (emit_aside _ rfl).toSilent
  exact ⟨rfl, rfl, rfl, rfl, rfl⟩

theorem measure_aside (host : ClientHost) (client : RideSessionClient) (report : List StatsEntry)
    (negotiation : Negotiation) (sendThrows : Bool) (now : ℚ) :
    Aside client (client.measure host report negotiation sendThrows now) := by
  have hask : ∀ videoSampler stats answer, Aside client
      (({ client with videoSampler }.emit [.videoStats (some stats)]).ask sendThrows answer) := by
    intro videoSampler stats answer
    have hsampler : Aside client { client with videoSampler } :=
      ⟨⟨rfl, rfl, rfl, rfl, rfl⟩, rfl, rfl, rfl⟩
    exact (hsampler.trans (emit_aside _ rfl)).trans (ask_aside _ _ _)
  unfold measure
  dsimp only
  split
  · exact (hask _ _ _).trans (sampleFailed_aside _)
  · exact hask _ _ _

theorem sampled_aside (host : ClientHost) (client : RideSessionClient)
    (report : Option (List StatsEntry)) (negotiation : Negotiation) (sendThrows : Bool) (now : ℚ) :
    Aside client (client.sampled host report negotiation sendThrows now) := by
  cases report with
  | none => exact client.sampleFailed_aside
  | some report => exact client.measure_aside host report negotiation sendThrows now

theorem statsSettled_silent (host : ClientHost) (client : RideSessionClient)
    (place generation : Nat) (report : Option (List StatsEntry)) (negotiation : Negotiation)
    (sendThrows : Bool) (now : ℚ) :
    Silent client
      (client.statsSettled host place generation report negotiation sendThrows now) := by
  have hsampled := (sampled_aside host client report negotiation sendThrows now).toSilent
  unfold statsSettled
  split
  · exact hsampled.trans ⟨rfl, rfl, rfl, rfl, rfl⟩
  · exact ⟨rfl, rfl, rfl, rfl, rfl⟩

/-! ## What a step tells the gateway -/

def saysConnected : ClientMessage → Bool
  | .sessionConnected _ => true
  | _ => false

def saysEnd : ClientMessage → Bool
  | .relay (.sessionEnd _ _) => true
  | _ => false

/-- A message of a session that the gateway takes from its browser. -/
inductive OfSession (sessionId : Uuid) : ClientMessage → Prop where
  | connected : OfSession sessionId (.sessionConnected sessionId)
  | offer (sdp : String) : OfSession sessionId (.relay (.signalOffer sessionId sdp))
  | ice (candidate sdpMid : Option String) (sdpMLineIndex : Option Int) :
      OfSession sessionId (.relay (.signalIce sessionId candidate sdpMid sdpMLineIndex))
  | ended (reason : String) : OfSession sessionId (.relay (.sessionEnd sessionId reason))

/-- All that a step may tell the gateway. -/
inductive Says (s t : RideSessionClient) : Prop where
  | nothing : Silent s t → Says s t
  | moves : Silent s { t with socket := s.socket } →
      (t.socket = some .closed ∨
        s.closed = false ∧ s.socket = none ∧ t.socket = some .connecting) → Says s t
  | opens : Silent ({ s with socket := some .opened }.emit
        [.sent (.browserAuthenticate s.session.ticket)]) t →
      s.socket = some .connecting → Says s t
  | signals {message : ClientMessage} : Silent (s.emit [.sent message]) t →
      s.socket = some .opened → OfSession s.session.sessionId message →
      saysConnected message = false → saysEnd message = false → Says s t
  | connects : Silent ({ s with connectedReported := true }.send
        (.sessionConnected s.session.sessionId)) t →
      s.connectedReported = false → Says s t
  | ends {reason : String} : Silent { s.send (.relay (.sessionEnd s.session.sessionId reason)) with
        closed := true
        socket := s.socket.map closeSocket } t →
      s.closed = false → Says s t

theorem send_socket (client : RideSessionClient) (message : ClientMessage) :
    (client.send message).socket = client.socket := by
  unfold send
  split <;> rfl

theorem close_speaks (client : RideSessionClient) (reason : String) :
    Says client (client.close reason) := by
  unfold close
  split
  · exact .nothing (.refl _)
  · next hopen =>
    suffices hends : Silent
        { client.send (.relay (.sessionEnd client.session.sessionId reason)) with
          closed := true
          socket := client.socket.map closeSocket } _ from .ends hends (Bool.eq_false_iff.2 hopen)
    refine .trans ?_ (emit_aside _ rfl).toSilent
    have hstop := stopVideoStats_silent
      { client.send (.relay (.sessionEnd client.session.sessionId reason)) with closed := true }
    refine ⟨hstop.session, ?_, hstop.closed, hstop.connectedReported, hstop.sent⟩
    show Option.map closeSocket _ = Option.map closeSocket _
    rw [hstop.socket, ← send_socket client]

theorem onControlFailed_silent (client : RideSessionClient) :
    Silent client client.onControlFailed := by
  unfold onControlFailed
  split
  · exact .refl _
  · refine .trans ?_ (emit_aside _ rfl).toSilent
    exact .trans (t := { client with controlFailed := true }) ⟨rfl, rfl, rfl, rfl, rfl⟩
      (stopVideoStats_silent _)

theorem onDisconnected_silent (client : RideSessionClient) :
    Silent client client.onDisconnected :=
  (stopVideoStats_silent _).trans (emit_aside _ rfl).toSilent

theorem onConnected_speaks (client : RideSessionClient) : Says client client.onConnected := by
  unfold onConnected
  split
  · exact .nothing (.refl _)
  · have hreport : Silent client.reportConnected
        { client.reportConnected with detecting := client.detecting + 1 }.startVideoStats :=
      .trans (t := { client.reportConnected with detecting := client.detecting + 1 })
        ⟨rfl, rfl, rfl, rfl, rfl⟩ (startVideoStats_silent _)
    by_cases hreported : client.connectedReported = true
    · have heq : client.reportConnected = client := if_pos hreported
      rw [heq] at hreport ⊢
      exact .nothing hreport
    · have heq : client.reportConnected = { client with connectedReported := true }.send
        (.sessionConnected client.session.sessionId) := if_neg hreported
      rw [heq] at hreport ⊢
      exact .connects hreport (Bool.eq_false_iff.2 hreported)

theorem Silent.emit (h : Silent s t) (outputs : List Output) :
    Silent (s.emit outputs) (t.emit outputs) where
  session := h.session
  socket := h.socket
  closed := h.closed
  connectedReported := h.connectedReported
  sent := by rw [sent_emit, sent_emit, h.sent]

theorem Silent.send (h : Silent s t) (message : ClientMessage) :
    Silent (s.send message) (t.send message) := by
  unfold RideSessionClient.send
  rw [h.socket]
  split
  · exact h.emit _
  · exact h

/-- A step tells the gateway the same from states that differ in nothing that it knows. -/
theorem Says.after (h : Silent s t) (h' : Says t u) : Says s u := by
  cases h' with
  | nothing h' => exact .nothing (h.trans h')
  | moves h' hsocket =>
    rw [h.closed, h.socket] at hsocket
    exact .moves ⟨h'.session.trans h.session, rfl, h'.closed.trans h.closed,
      h'.connectedReported.trans h.connectedReported, h'.sent.trans h.sent⟩ hsocket
  | opens h' hsocket =>
    refine .opens (.trans ?_ h') (h.socket ▸ hsocket)
    rw [show t.session.ticket = s.session.ticket by rw [h.session]]
    have hopened : Silent { s with socket := some .opened } { t with socket := some .opened } :=
      ⟨h.session, rfl, h.closed, h.connectedReported, h.sent⟩
    exact hopened.emit _
  | signals h' hsocket hown hconnected hend =>
    rw [h.session] at hown
    exact .signals ((h.emit _).trans h') (h.socket ▸ hsocket) hown hconnected hend
  | connects h' hreported =>
    refine .connects (.trans ?_ h') (h.connectedReported ▸ hreported)
    rw [show t.session.sessionId = s.session.sessionId by rw [h.session]]
    have hreport : Silent { s with connectedReported := true }
      { t with connectedReported := true } :=
      ⟨h.session, h.socket, h.closed, rfl, h.sent⟩
    exact hreport.send _
  | @ends reason h' hopen =>
    suffices hends : Silent { s.send (.relay (.sessionEnd s.session.sessionId reason)) with
        closed := true
        socket := s.socket.map closeSocket } _ from .ends (hends.trans h') (h.closed ▸ hopen)
    have hsend := h.send (.relay (.sessionEnd s.session.sessionId reason))
    rw [show t.session.sessionId = s.session.sessionId by rw [h.session], h.socket]
    exact ⟨hsend.session, rfl, rfl, hsend.connectedReported, hsend.sent⟩

theorem onConnectionState_speaks (client : RideSessionClient) (state : PeerState) :
    Says client (client.onConnectionState state) := by
  refine Says.after (t := { client with peer := some state }) ⟨rfl, rfl, rfl, rfl, rfl⟩ ?_
  cases state with
  | connected => exact onConnected_speaks _
  | failed | closed | disconnected => exact .nothing (onDisconnected_silent _)
  | new | connecting => exact .nothing (.refl _)

theorem connect_speaks (client : RideSessionClient) (setup : ConnectSetup) :
    Says client (client.connect setup) := by
  have hcreate : ∀ client : RideSessionClient, Silent client client.createPeer := fun client =>
    .trans (t := { client with peer := some .new, channels := true }) ⟨rfl, rfl, rfl, rfl, rfl⟩
      (emit_aside _ rfl).toSilent
  have hreport : Silent client (client.emit [.state .connecting, .progress .gatewayConnecting]) :=
    (client.emit_aside rfl).toSilent
  unfold connect
  split
  · exact .nothing (.refl _)
  · next hfresh =>
    simp only [Bool.or_eq_true, not_or, Bool.not_eq_true, Option.isSome_eq_false_iff,
      Option.isNone_iff_eq_none] at hfresh
    cases setup with
    | peerThrows => exact .nothing hreport
    | socketThrows => exact .nothing (hreport.trans (hcreate _))
    | connects =>
      refine .moves ?_ (.inr ⟨hfresh.2, hfresh.1, rfl⟩)
      have hcreated := hreport.trans (hcreate _)
      let opened := client.emit [.state .connecting, .progress .gatewayConnecting]
      let created := { opened.createPeer with socket := some .connecting }
      have hsocket : Silent created (created.emit [.socketCreated client.session.gatewayUrl]) :=
        (emit_aside _ rfl).toSilent
      exact ⟨hsocket.session.trans hcreated.session, rfl, hsocket.closed.trans hcreated.closed,
        hsocket.connectedReported.trans hcreated.connectedReported,
        hsocket.sent.trans hcreated.sent⟩

theorem handleMessage_speaks (client : RideSessionClient) (message : Except String ServerMessage) :
    Says client (client.handleMessage message) := by
  have haside : ∀ outputs, outputs.filterMap Output.sent? = [] →
    Says client (client.emit outputs) :=
    fun outputs h => .nothing (client.emit_aside h).toSilent
  have hwaits : ∀ handlers outputs, outputs.filterMap Output.sent? = [] →
      Says client ({ client with handlers }.emit outputs) := fun handlers outputs h =>
    .nothing (.trans (t := { client with handlers }) ⟨rfl, rfl, rfl, rfl, rfl⟩
      (emit_aside _ h).toSilent)
  unfold handleMessage
  dsimp only
  split
  · exact haside _ rfl
  · exact haside _ rfl
  · exact haside _ rfl
  · split <;> exact haside _ rfl
  · split
    · exact haside _ rfl
    · exact hwaits _ _ rfl
  · split
    · exact haside _ rfl
    · exact .nothing ⟨rfl, rfl, rfl, rfl, rfl⟩
  · split
    · exact haside _ rfl
    · exact .nothing ⟨rfl, rfl, rfl, rfl, rfl⟩
  · exact client.close_speaks _
  · exact .nothing (.refl _)

/-- A message that the gateway gets where the socket is open. -/
theorem send_speaks (client : RideSessionClient) {message : ClientMessage}
    (hown : OfSession client.session.sessionId message) (hconnected : saysConnected message = false)
    (hend : saysEnd message = false) : Says client (client.send message) := by
  unfold send
  split
  · next hsocket => exact .signals (.refl _) hsocket hown hconnected hend
  · exact .nothing (.refl _)

/-- What is told is told, whatever is reported next. -/
theorem Says.silent (h : Says s t) (h' : Silent t u) : Says s u := by
  cases h with
  | nothing h => exact .nothing (h.trans h')
  | moves h hsocket =>
    refine .moves ⟨h'.session.trans h.session, rfl, h'.closed.trans h.closed,
      h'.connectedReported.trans h.connectedReported, h'.sent.trans h.sent⟩ ?_
    rwa [h'.socket]
  | opens h hsocket => exact .opens (h.trans h') hsocket
  | signals h hsocket hown hconnected hend =>
    exact .signals (h.trans h') hsocket hown hconnected hend
  | connects h hreported => exact .connects (h.trans h') hreported
  | ends h hopen => exact .ends (h.trans h') hopen

theorem settle_speaks (client : RideSessionClient) (handler : Handler) (settlement : Settlement) :
    Says client (client.settle handler settlement) := by
  have haside : ∀ outputs, outputs.filterMap Output.sent? = [] →
    Says client (client.emit outputs) :=
    fun outputs h => .nothing (client.emit_aside h).toSilent
  cases settlement with
  | rejects error => cases handler <;> exact haside _ rfl
  | resolves localDescription =>
    cases handler with
    | creatingOffer => exact .nothing ⟨rfl, rfl, rfl, rfl, rfl⟩
    | settingLocalDescription =>
      simp only [settle]
      split
      · exact haside _ rfl
      · next sdp _ =>
        exact (client.send_speaks (.offer sdp) rfl rfl).silent (emit_aside _ rfl).toSilent
    | settingRemoteDescription => exact haside _ rfl
    | addingIceCandidate => exact .nothing (.refl _)

theorem step_speaks (host : ClientHost) (h : step host s event = some t) : Says s t := by
  cases event with
  | connect setup =>
    simp only [step] at h
    split at h
    · cases h
    · obtain rfl := Option.some.inj h
      exact s.connect_speaks setup
  | close reason =>
    obtain rfl := Option.some.inj h
    exact s.close_speaks reason
  | socketOpened =>
    obtain ⟨hsocket, ⟨⟩⟩ := Option.ite_none_right_eq_some.1 h
    refine .opens ⟨rfl, rfl, rfl, rfl, ?_⟩ hsocket
    rw [sent_emit, sent_emit]
    rfl
  | socketMessage message =>
    obtain ⟨-, ⟨⟩⟩ := Option.ite_none_right_eq_some.1 h
    exact s.handleMessage_speaks message
  | socketFailed =>
    obtain ⟨-, ⟨⟩⟩ := Option.ite_none_right_eq_some.1 h
    exact .nothing (emit_aside _ rfl).toSilent
  | socketClosed =>
    obtain ⟨-, ⟨⟩⟩ := Option.ite_none_right_eq_some.1 h
    have hreport : Silent { s with socket := some .closed }
        ({ s with socket := some .closed }.emit [.state .disconnected]) :=
      (emit_aside _ rfl).toSilent
    exact .moves ⟨rfl, rfl, rfl, rfl, hreport.sent⟩ (.inl rfl)
  | connectionState state =>
    obtain ⟨-, ⟨⟩⟩ := Option.ite_none_right_eq_some.1 h
    exact s.onConnectionState_speaks state
  | iceCandidate candidate sdpMid sdpMLineIndex =>
    simp only [step] at h
    split at h
    · cases h
    · split at h
      · obtain rfl := Option.some.inj h
        exact .nothing (.refl _)
      · obtain rfl := Option.some.inj h
        exact s.send_speaks (.ice candidate sdpMid sdpMLineIndex) rfl rfl
  | track track =>
    obtain ⟨-, ⟨⟩⟩ := Option.ite_none_right_eq_some.1 h
    exact .nothing (s.onTrack_aside track).toSilent
  | trackEnded track =>
    obtain ⟨-, ⟨⟩⟩ := Option.ite_none_right_eq_some.1 h
    exact .nothing (s.onTrackEnded_aside track).toSilent
  | controlFailed =>
    obtain ⟨-, ⟨⟩⟩ := Option.ite_none_right_eq_some.1 h
    exact .nothing s.onControlFailed_silent
  | dataChannel channel label =>
    obtain ⟨-, ⟨⟩⟩ := Option.ite_none_right_eq_some.1 h
    exact .nothing (s.bindVideoQuality_aside channel label).toSilent
  | qualityClosed channel =>
    obtain rfl := Option.some.inj h
    exact .nothing (s.qualityClosed_aside channel).toSilent
  | qualityMessage channel data negotiation sendThrows now =>
    obtain rfl := Option.some.inj h
    exact .nothing (qualityMessage_aside host s channel data negotiation sendThrows now).toSilent
  | statsTimer handle =>
    obtain ⟨stats, -, rfl⟩ := Option.map_eq_some_iff.1 h
    exact .nothing ⟨rfl, rfl, rfl, rfl, rfl⟩
  | statsSettled place report negotiation sendThrows now =>
    obtain ⟨generation, -, rfl⟩ := Option.map_eq_some_iff.1 h
    exact .nothing (statsSettled_silent host s place generation report negotiation sendThrows now)
  | routeDetected report =>
    obtain ⟨-, ⟨⟩⟩ := Option.ite_none_left_eq_some.1 h
    exact .nothing (.trans (t := { s with detecting := s.detecting - 1 })
      ⟨rfl, rfl, rfl, rfl, rfl⟩ (routeDetected_aside _ report).toSilent)
  | settled place settlement =>
    obtain ⟨handler, -, rfl⟩ := Option.map_eq_some_iff.1 h
    exact .after (t := { s with handlers := s.handlers.eraseIdx place })
      ⟨rfl, rfl, rfl, rfl, rfl⟩ (settle_speaks _ handler settlement)

/-! ## What a run has told the gateway -/

/-- What a client has told the gateway, against what it remembers of it. -/
structure Spoken (client : RideSessionClient) : Prop where
  unopened : client.socket = none ∨ client.socket = some .connecting → client.sent = []
  /-- The ticket comes first, and only messages of the session follow it. -/
  opens : client.sent = [] ∨ ∃ later, client.sent = .browserAuthenticate client.session.ticket ::
    later ∧ ∀ message ∈ later, OfSession client.session.sessionId message
  opened : client.socket = some .opened → client.sent ≠ []
  unreported : client.connectedReported = false → client.sent.countP saysConnected = 0
  connectedOnce : client.sent.countP saysConnected ≤ 1
  unended : client.closed = false → ∀ message ∈ client.sent, saysEnd message = false
  leaves : client.closed = true →
    client.socket ≠ some .connecting ∧ client.socket ≠ some .opened
  /-- Nothing follows the end of the session. -/
  endsLast : client.sent.Pairwise fun message _ => saysEnd message = false

theorem spoken_new (session : StoredDriveSession) : Spoken (new session) where
  unopened _ := rfl
  opens := .inl rfl
  opened h := by cases h
  unreported _ := rfl
  connectedOnce := Nat.zero_le 1
  unended _ message h := by cases h
  leaves h := by cases h
  endsLast := .nil

namespace Spoken

theorem silent (h : Spoken s) (h' : Silent s t) : Spoken t where
  unopened := by
    rw [h'.socket, h'.sent]
    exact h.unopened
  opens := by
    rw [h'.session, h'.sent]
    exact h.opens
  opened := by
    rw [h'.socket, h'.sent]
    exact h.opened
  unreported := by
    rw [h'.connectedReported, h'.sent]
    exact h.unreported
  connectedOnce := by
    rw [h'.sent]
    exact h.connectedOnce
  unended := by
    rw [h'.closed, h'.sent]
    exact h.unended
  leaves := by
    rw [h'.closed, h'.socket]
    exact h.leaves
  endsLast := by
    rw [h'.sent]
    exact h.endsLast

/-- A further message of the session, on an open socket and before the end. -/
theorem append (h : Spoken s) (hsocket : s.socket = some .opened) {message : ClientMessage}
    (hown : OfSession s.session.sessionId message) :
    (∃ later, s.sent ++ [message] = .browserAuthenticate s.session.ticket :: later ∧
        ∀ m ∈ later, OfSession s.session.sessionId m) ∧
      (s.sent ++ [message]).Pairwise (fun m _ => saysEnd m = false) := by
  have hopen : s.closed = false := by
    by_contra hclosed
    exact (h.leaves (Bool.not_eq_false _ ▸ hclosed)).2 hsocket
  refine ⟨?_, ?_⟩
  · rcases h.opens with hnil | ⟨later, hsent, hlater⟩
    · exact absurd hnil (h.opened hsocket)
    · refine ⟨later ++ [message], by rw [hsent, List.cons_append], ?_⟩
      rintro m hm
      rcases List.mem_append.1 hm with hm | hm
      · exact hlater m hm
      · rwa [List.mem_singleton.1 hm]
  · refine List.pairwise_append.2 ⟨h.endsLast, List.pairwise_singleton _ _, ?_⟩
    intro m hm _ _
    exact h.unended hopen m hm

end Spoken

theorem sent_send (client : RideSessionClient) (message : ClientMessage) :
    client.socket = some .opened ∧ (client.send message).sent = client.sent ++ [message] ∨
      client.socket ≠ some .opened ∧ client.send message = client := by
  unfold send
  split
  · next hsocket => exact .inl ⟨hsocket, sent_emit _ _⟩
  · next hsocket => exact .inr ⟨hsocket, rfl⟩

/-- The ticket, on a socket that has opened. -/
theorem Spoken.authenticated (hs : Spoken s) (hsocket : s.socket = some .connecting) :
    Spoken ({ s with socket := some .opened }.emit
      [.sent (.browserAuthenticate s.session.ticket)]) := by
  have hnil : s.sent = [] := hs.unopened (.inr hsocket)
  have hsent : ({ s with socket := some .opened }.emit
      [.sent (.browserAuthenticate s.session.ticket)]).sent =
      [.browserAuthenticate s.session.ticket] := by
    rw [sent_emit]
    show s.sent ++ _ = _
    rw [hnil]
    rfl
  refine ⟨?_, .inr ⟨[], hsent, ?_⟩, ?_, ?_, ?_, ?_, ?_, ?_⟩
  · rintro (h | h) <;> cases h
  · intro message h
    cases h
  · intro _
    rw [hsent]
    exact List.cons_ne_nil _ _
  · intro _
    rw [hsent]
    rfl
  · rw [hsent]
    exact Nat.zero_le 1
  · intro _ message h
    rw [hsent, List.mem_singleton] at h
    rw [h]
    rfl
  · intro hclosed
    exact absurd hsocket (hs.leaves hclosed).1
  · rw [hsent]
    exact List.pairwise_singleton _ _

/-- A signal of the session. -/
theorem Spoken.signalled (hs : Spoken s) (hsocket : s.socket = some .opened)
    {message : ClientMessage} (hown : OfSession s.session.sessionId message)
    (hconnected : saysConnected message = false) (hend : saysEnd message = false) :
    Spoken (s.emit [.sent message]) := by
  have hsent : (s.emit [.sent message]).sent = s.sent ++ [message] := sent_emit _ _
  obtain ⟨hopens, hlast⟩ := hs.append hsocket hown
  have hcount : (s.sent ++ [message]).countP saysConnected = s.sent.countP saysConnected := by
    simp [hconnected]
  refine ⟨?_, .inr (hsent ▸ hopens), ?_, ?_, ?_, ?_, hs.leaves, hsent ▸ hlast⟩
  · intro h
    rw [show (s.emit [.sent message]).socket = s.socket from rfl, hsocket] at h
    rcases h with h | h <;> cases h
  · intro _
    rw [hsent]
    simp
  · intro h
    rw [hsent, hcount]
    exact hs.unreported h
  · rw [hsent, hcount]
    exact hs.connectedOnce
  · intro hopen m hm
    rw [hsent] at hm
    rcases List.mem_append.1 hm with hm | hm
    · exact hs.unended hopen m hm
    · rwa [List.mem_singleton.1 hm]

/-- The first report that the car is connected, sent or not. -/
theorem Spoken.connected (hs : Spoken s) (hreported : s.connectedReported = false) :
    Spoken ({ s with connectedReported := true }.send
      (.sessionConnected s.session.sessionId)) := by
  have hmark : Spoken { s with connectedReported := true } :=
    { hs with unreported := fun h => by cases h }
  have hnone := hs.unreported hreported
  unfold send
  split
  · next hsocket =>
    have hsent : ({ s with connectedReported := true }.emit
        [.sent (.sessionConnected s.session.sessionId)]).sent =
        s.sent ++ [.sessionConnected s.session.sessionId] := sent_emit _ _
    obtain ⟨hopens, hlast⟩ := hs.append hsocket .connected
    refine ⟨?_, .inr (hsent ▸ hopens), ?_, ?_, ?_, ?_, hs.leaves, hsent ▸ hlast⟩
    · intro h
      rcases h with h | h <;> (rw [show _ = some ReadyState.opened from hsocket] at h; cases h)
    · intro _
      rw [hsent]
      simp
    · intro h
      cases h
    · rw [hsent, List.countP_append, hnone]
      exact Nat.le_refl 1
    · intro hopen m hm
      rw [hsent] at hm
      rcases List.mem_append.1 hm with hm | hm
      · exact hs.unended hopen m hm
      · rw [List.mem_singleton.1 hm]
        rfl
  · exact hmark

/-- The end of the session, sent or not; the socket closes. -/
theorem Spoken.ended (hs : Spoken s) (reason : String) :
    Spoken { s.send (.relay (.sessionEnd s.session.sessionId reason)) with
      closed := true
      socket := s.socket.map closeSocket } := by
  have hleft : s.socket.map closeSocket ≠ some .connecting ∧
      s.socket.map closeSocket ≠ some .opened := by
    cases s.socket with
    | none => simp
    | some state => cases state <;> simp [closeSocket]
  have hunopened : s.socket.map closeSocket = none ∨ s.socket.map closeSocket = some .connecting →
      s.sent = [] := by
    rintro (h | h)
    · exact hs.unopened (.inl (Option.map_eq_none_iff.1 h))
    · exact absurd h hleft.1
  rcases sent_send s (.relay (.sessionEnd s.session.sessionId reason)) with
    ⟨hsocket, hsent⟩ | ⟨-, heq⟩
  · obtain ⟨hopens, hlast⟩ := hs.append hsocket (.ended reason)
    rw [← hsent] at hopens hlast
    have hcount : (s.send (.relay (.sessionEnd s.session.sessionId reason))).sent.countP
        saysConnected = s.sent.countP saysConnected := by
      rw [hsent, List.countP_append]
      rfl
    have hsame : s.send (.relay (.sessionEnd s.session.sessionId reason)) =
        s.emit [.sent (.relay (.sessionEnd s.session.sessionId reason))] := if_pos hsocket
    rw [hsame] at hopens hlast hcount ⊢
    refine ⟨?_, .inr hopens, fun h => absurd h hleft.2, fun h => hcount.trans (hs.unreported h),
      hcount.trans_le hs.connectedOnce, ?_, fun _ => hleft, hlast⟩
    · intro h
      rw [show Option.map closeSocket s.socket = some .closing by rw [hsocket]; rfl] at h
      rcases h with h | h <;> cases h
    · intro h
      cases h
  · rw [heq]
    exact ⟨hunopened, hs.opens, fun h => absurd h hleft.2, hs.unreported, hs.connectedOnce,
      (fun h => by cases h), fun _ => hleft, hs.endsLast⟩

theorem Says.session (h : Says s t) : t.session = s.session := by
  cases h with
  | nothing h => exact h.session
  | moves h _ => exact h.session
  | opens h _ => exact h.session
  | signals h _ _ _ _ => exact h.session
  | connects h _ =>
    refine h.session.trans ?_
    unfold send
    split <;> rfl
  | ends h _ =>
    refine h.session.trans ?_
    unfold send
    split <;> rfl

theorem Says.spoken (h : Says s t) (hs : Spoken s) : Spoken t := by
  cases h with
  | nothing h => exact hs.silent h
  | moves h hsocket =>
    have hspoken := hs.silent h
    refine { hspoken with unopened := ?_, opened := ?_, leaves := ?_ }
    · rintro (hnone | hconnecting)
      · rcases hsocket with hclosed | ⟨-, -, hnew⟩
        · rw [hnone] at hclosed
          cases hclosed
        · rw [hnone] at hnew
          cases hnew
      · rcases hsocket with hclosed | ⟨-, hold, -⟩
        · rw [hconnecting] at hclosed
          cases hclosed
        · exact hspoken.unopened (.inl hold)
    · intro hopened
      rcases hsocket with hclosed | ⟨-, -, hnew⟩
      · rw [hopened] at hclosed
        cases hclosed
      · rw [hopened] at hnew
        cases hnew
    · intro hclosed
      rcases hsocket with hsocket | ⟨hopen, -, -⟩
      · rw [hsocket]
        exact ⟨by simp, by simp⟩
      · have hsame : t.closed = s.closed := h.closed
        rw [hsame, hopen] at hclosed
        cases hclosed
  | opens h hsocket => exact (hs.authenticated hsocket).silent h
  | signals h hsocket hown hconnected hend =>
    exact (hs.signalled hsocket hown hconnected hend).silent h
  | connects h hreported => exact (hs.connected hreported).silent h
  | ends h _ => exact (hs.ended _).silent h

/-- The gateway relays what a browser says of its own session, as long as that is live. -/
theorem OfSession.relayed {sessionId : Uuid} {message : RelayMessage}
    (h : OfSession sessionId (.relay message)) {r : SessionRegistry}
    (hlive : (r.sessions.get? sessionId).isSome) :
    (r.relayFromBrowser sessionId message).1 = true := by
  obtain ⟨active, hactive⟩ := Option.isSome_iff_exists.1 hlive
  cases h with
  | offer sdp => simp [SessionRegistry.relayFromBrowser, hactive, RelayMessage.sessionId]
  | ice candidate sdpMid sdpMLineIndex =>
    simp [SessionRegistry.relayFromBrowser, hactive, RelayMessage.sessionId]
  | ended reason => simp [SessionRegistry.relayFromBrowser, hactive, RelayMessage.sessionId]

/-- Over every run a client opens with its ticket and then speaks of its own session only, which the
gateway relays as long as the session is live; it says at most once that the car is connected, and
nothing after the end of the session. -/
theorem speaks_for_its_session (host : ClientHost) (session : StoredDriveSession)
    {events : List RideSessionEvent} (h : Run (StepOf (step host)) (new session) events s) :
    (s.sent = [] ∨ ∃ later, s.sent = .browserAuthenticate session.ticket :: later ∧
      (∀ message ∈ later, OfSession session.sessionId message) ∧
      ∀ r : SessionRegistry, (r.sessions.get? session.sessionId).isSome →
        ∀ message, .relay message ∈ later →
          (r.relayFromBrowser session.sessionId message).1 = true) ∧
      s.sent.countP saysConnected ≤ 1 ∧
      s.sent.Pairwise fun message _ => saysEnd message = false := by
  have hspoken : Spoken s ∧ s.session = session := by
    refine h.invariant (I := fun s => Spoken s ∧ s.session = session) ⟨spoken_new session, rfl⟩ ?_
    rintro s t event ⟨hs, hsession⟩ hstep
    have hspeaks := step_speaks host hstep
    refine ⟨hspeaks.spoken hs, ?_⟩
    rw [← hsession]
    exact hspeaks.session
  obtain ⟨hs, rfl⟩ := hspoken
  refine ⟨?_, hs.connectedOnce, hs.endsLast⟩
  rcases hs.opens with hnil | ⟨later, hsent, hlater⟩
  · exact .inl hnil
  · exact .inr ⟨later, hsent, hlater, fun r hlive message hmem => (hlater _ hmem).relayed hlive⟩

/-- A host that reads no message of the car. -/
def plainHost : ClientHost where
  parseJson _ := none
  numberText _ := ""
  uuidText _ := ""

def plainSession : StoredDriveSession where
  sessionId := 7
  ticket := "ticket"
  gatewayUrl := "wss://gateway"
  iceServers := []
  iceTransportPolicy := .all

/-- A ride that the browser ends as soon as the car is connected. -/
def plainRide : List RideSessionEvent :=
  [.connect .connects, .socketOpened, .socketMessage (.ok (.sessionStart 7 1 0 [])),
    .settled 0 (.resolves none), .settled 0 (.resolves (some "v=0")), .connectionState .connected,
    .close "browser closed session"]

theorem plainRide_speaks :
    ∃ s, Run (StepOf (step plainHost)) (new plainSession) plainRide s ∧ s.sent.length = 4 ∧
      s.sent.Pairwise fun message _ => saysEnd message = false := by
  have hrun : Run (StepOf (step plainHost)) (new plainSession) plainRide _ := run_of_runList rfl
  exact ⟨_, hrun, rfl, (speaks_for_its_session plainHost plainSession hrun).2.2⟩

end RideSessionClient

end RcOnline.Web
