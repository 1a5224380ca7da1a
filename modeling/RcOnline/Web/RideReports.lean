import RcOnline.Web.RideSamples

/-!
# What a client reports

A client publishes its stream once that has video, reports measurements and a route of a live
connection only, and asks the car for profiles that the car has named (`Justified`); this holds in
every run (`reports_justified`). After `close` only errors, the end and the outcome of what was
under way are still reported (`quiet_after_close`). What is measured, and so which profile is asked
for, is in exact arithmetic, as the sampler is (`VideoStatsSampler`).
-/

namespace RcOnline.Web

open RcOnline.Lib AdaptiveVideoPolicy

namespace QualityClient

variable {quality : QualityClient} {profile : VideoProfile}

/-- The policy of a channel chooses among the profiles that the car has named. -/
def Declared (quality : QualityClient) : Prop :=
  ∀ policy, quality.videoPolicy = some policy →
    Coupled policy ∧ policy.profiles = quality.supportedProfiles

theorem declared_of_none (h : quality.videoPolicy = none) : Declared quality :=
  fun policy hpolicy => by rw [h] at hpolicy; cases hpolicy

end QualityClient

namespace AdaptiveVideoPolicy

theorem Coupled.answer {policy : AdaptiveVideoPolicy} (h : Coupled policy) (call : VideoCall) :
    Coupled (policy.answer call).2 ∧ (policy.answer call).2.profiles = policy.profiles := by
  have hremembers : VideoRun.Remembers { policy, latest := policy.lastRequestedProfile } := ⟨h, rfl⟩
  refine ⟨(hremembers.call call).coupled, ?_⟩
  rcases h.answer_cases call with
    ⟨after, hafter, heq⟩ | ⟨kept, profile, nowMs, hkept, -, -, heq⟩ | ⟨profile, nowMs, -, -, -, heq⟩
  · rw [heq]
    exact hafter.profiles
  · rw [heq]
    exact hkept.profiles
  · rw [heq]
    rfl

theorem Coupled.requests {policy : AdaptiveVideoPolicy} (h : Coupled policy) {call : VideoCall}
    {profile : VideoProfile} (hasked : (policy.answer call).1 = some profile) :
    profile ∈ policy.profiles ∧ profile ≠ policy.current := by
  have hremembers : VideoRun.Remembers { policy, latest := policy.lastRequestedProfile } := ⟨h, rfl⟩
  exact hremembers.negotiates.requests call profile hasked

end AdaptiveVideoPolicy

namespace QualityClient

variable {quality : QualityClient} {profile : VideoProfile} {canNegotiate : Bool}

/-- A profile that the car has named, and that it does not send now. -/
def Change (quality : QualityClient) (profile : VideoProfile) : Prop :=
  profile ∈ quality.supportedProfiles ∧
    ∃ policy, quality.videoPolicy = some policy ∧ profile ≠ policy.current

theorem Declared.measured (h : quality.Declared)
    {ask : AdaptiveVideoPolicy → Option VideoProfile × AdaptiveVideoPolicy} {call : VideoCall}
    (hask : ∀ policy, ask policy = policy.answer call) : (quality.measure ask).2.Declared := by
  unfold measure
  split
  · exact h
  · next policy hpolicy =>
    obtain ⟨hcoupled, hprofiles⟩ := h policy hpolicy
    rintro after ⟨⟩
    rw [hask]
    exact ⟨(hcoupled.answer call).1, (hcoupled.answer call).2.trans hprofiles⟩

theorem Declared.measure_asks (h : quality.Declared)
    {ask : AdaptiveVideoPolicy → Option VideoProfile × AdaptiveVideoPolicy} {call : VideoCall}
    (hask : ∀ policy, ask policy = policy.answer call)
    (hasked : (quality.measure ask).1 = some profile) : quality.Change profile := by
  unfold measure at hasked
  split at hasked
  · cases hasked
  · next policy hpolicy =>
    obtain ⟨hcoupled, hprofiles⟩ := h policy hpolicy
    have hrequest : (policy.answer call).1 = some profile := by rw [← hask]; exact hasked
    obtain ⟨hmem, hother⟩ := hcoupled.requests hrequest
    exact ⟨hprofiles ▸ hmem, policy, hpolicy, hother⟩

theorem requestProfile_asks {asked : Option VideoProfile}
    (h : (quality.requestProfile canNegotiate asked).1 = some profile) :
    canNegotiate = true ∧ asked = some profile := by
  unfold requestProfile at h
  cases asked with
  | none => cases h
  | some asked =>
    cases canNegotiate with
    | false => cases h
    | true => exact ⟨rfl, h⟩

theorem requestProfile_declared (h : quality.Declared) (asked : Option VideoProfile) :
    (quality.requestProfile canNegotiate asked).2.Declared := by
  unfold requestProfile
  split
  · exact h
  · split
    · exact h
    · exact h

/-- A measurement asks for a change only while quality can be negotiated. -/
theorem Declared.negotiated (h : quality.Declared)
    {ask : AdaptiveVideoPolicy → Option VideoProfile × AdaptiveVideoPolicy} {call : VideoCall}
    (hask : ∀ policy, ask policy = policy.answer call) :
    (quality.negotiate canNegotiate ask).2.Declared ∧
      ∀ profile, (quality.negotiate canNegotiate ask).1 = some profile →
        canNegotiate = true ∧ quality.Change profile := by
  unfold negotiate
  split
  · exact ⟨h, fun profile hasked => by cases hasked⟩
  · refine ⟨requestProfile_declared (h.measured hask) _, fun profile hasked => ?_⟩
    obtain ⟨hcan, hasked⟩ := requestProfile_asks hasked
    exact ⟨hcan, h.measure_asks hask hasked⟩

theorem Declared.sampled (h : quality.Declared) (canNegotiate : Bool) (now : Number)
    (stats : VideoStreamStats) :
    (quality.onSample canNegotiate now stats).2.Declared ∧
      ∀ profile, (quality.onSample canNegotiate now stats).1 = some profile →
        canNegotiate = true ∧ quality.Change profile := by
  have hask : ∀ policy : AdaptiveVideoPolicy, policy.observe stats now =
      policy.answer (.observe stats now) := fun _ => rfl
  exact h.negotiated hask

theorem Declared.acknowledged (h : quality.Declared) (profile : VideoProfile) (now : Number) :
    Declared { quality with
      videoPolicy := quality.videoPolicy.map (·.acknowledge profile now)
      requestedProfile := none } := by
  intro after hafter
  obtain ⟨policy, hpolicy, rfl⟩ := Option.map_eq_some_iff.1 hafter
  obtain ⟨hcoupled, hprofiles⟩ := h policy hpolicy
  obtain ⟨hcoupled', hprofiles'⟩ := hcoupled.answer (.acknowledge profile now)
  exact ⟨hcoupled', hprofiles'.trans hprofiles⟩

theorem Declared.received (h : quality.Declared) (canNegotiate : Bool) (now : Number)
    (message : CarMessage) :
    (quality.onMessage canNegotiate now message).2.Declared ∧
      ∀ profile, (quality.onMessage canNegotiate now message).1 = some profile →
        canNegotiate = true ∧ quality.Change profile := by
  have hnone : ∀ after : QualityClient, after.Declared → after.Declared ∧
      ∀ profile, (none : Option VideoProfile) = some profile →
        canNegotiate = true ∧ quality.Change profile :=
    fun after hafter => ⟨hafter, fun profile hasked => by cases hasked⟩
  unfold onMessage
  cases message with
  | capabilities profiles current =>
    dsimp only
    split
    · exact hnone _ h
    · next hclosed =>
      simp only [Bool.or_eq_true, not_or, Bool.not_eq_true, Option.isSome_eq_false_iff,
        Option.isNone_iff_eq_none] at hclosed
      split
      · exact hnone _ h
      · split
        · exact hnone _ (declared_of_none hclosed.1.1)
        · next policy hpolicy =>
          refine hnone _ ?_
          rintro _ ⟨⟩
          refine ⟨coupled_new hpolicy, ?_⟩
          obtain ⟨-, rfl⟩ := new_eq hpolicy
          exact supported_supported profiles
  | applied profile =>
    dsimp only
    split
    · exact hnone _ h
    · exact hnone _ (h.acknowledged profile now)
  | bandwidth bps ageMs =>
    dsimp only
    split
    · exact hnone _ h
    · have hask : ∀ policy : AdaptiveVideoPolicy, policy.observeBandwidth bps ageMs now =
          policy.answer (.observeBandwidth bps ageMs now) := fun _ => rfl
      exact h.negotiated hask

end QualityClient

namespace RideSessionClient

variable {s t u client : RideSessionClient} {event : RideSessionEvent} {P Q : Output → Prop}

/-- The log grows by entries of a kind, and the policy goes on to choose among declared profiles. -/
structure Adds (P : Output → Prop) (s t : RideSessionClient) : Prop where
  log : ∃ outputs, t.log = s.log ++ outputs ∧ ∀ output ∈ outputs, P output
  quality : s.quality.Declared → t.quality.Declared

namespace Adds

theorem same (hlog : t.log = s.log) (hquality : t.quality = s.quality) : Adds P s t where
  log := ⟨[], by rw [hlog, List.append_nil], by simp⟩
  quality h := hquality ▸ h

theorem refl (s : RideSessionClient) : Adds P s s := same rfl rfl

theorem emit (client : RideSessionClient) {outputs : List Output}
    (h : ∀ output ∈ outputs, P output) : Adds P client (client.emit outputs) :=
  ⟨⟨outputs, rfl, h⟩, id⟩

theorem trans (h : Adds P s t) (h' : Adds P t u) : Adds P s u := by
  obtain ⟨⟨outputs, hlog, hall⟩, hquality⟩ := h
  obtain ⟨⟨outputs', hlog', hall'⟩, hquality'⟩ := h'
  refine ⟨⟨outputs ++ outputs', by rw [hlog', hlog, List.append_assoc], fun output hmem => ?_⟩,
    hquality' ∘ hquality⟩
  rcases List.mem_append.1 hmem with hmem | hmem
  · exact hall output hmem
  · exact hall' output hmem

theorem send (client : RideSessionClient) {message : Gateway.ClientMessage}
    (h : client.socket = some .opened → P (.sent message)) :
    Adds P client (client.send message) := by
  unfold RideSessionClient.send
  split
  · next hsocket => exact emit _ (by simpa using h hsocket)
  · exact refl _

theorem stopVideoStats (client : RideSessionClient) (h : P (.videoStats none)) :
    Adds P client client.stopVideoStats :=
  .trans (t := { client with stats := client.stats.stop, videoSampler := newSampler })
    (same rfl rfl) (emit _ (by simpa using h))

theorem publishStream (client : RideSessionClient)
    (h : client.tracks.any (·.isVideo) = true → P (.stream client.tracks)) :
    Adds P client client.publishStream := by
  unfold RideSessionClient.publishStream
  split
  · next hvideo => exact emit _ (by simpa using h hvideo)
  · exact refl _

end Adds

/-- The car is connected, and nothing has ended. -/
structure Live (client : RideSessionClient) : Prop where
  closed : client.closed = false
  controlFailed : client.controlFailed = false
  connected : client.peer = some .connected

/-- What an entry of the log owes to the state in which it is made. -/
def Justified (s : RideSessionClient) : Output → Prop
  | .stream tracks => s.closed = false ∧ tracks.any (·.isVideo) = true
  | .requested profile => Live s ∧ s.quality.Change profile
  | .videoStats (some _) => Live s
  | .state (.route _) => Live s
  | .progress .webrtcDirect | .progress .webrtcTurn | .progress .webrtcConnected => Live s
  | .telemetry _ _ | .progress .sessionStarted => s.socket = some .opened
  | .sent message => s.socket = some .opened ∨
      s.socket = some .connecting ∧ message = .browserAuthenticate s.session.ticket
  | .progress .gatewayConnected => s.socket = some .connecting
  | .peerCreated _ _ | .socketCreated _ | .state .connecting | .progress .gatewayConnecting
  | .progress .videoTrackReceived => s.closed = false
  | .videoStats none | .error _ | .state .disconnected | .progress .webrtcOfferSent
  | .progress .webrtcAnswerApplied => True

theorem live_of_current {generation : Nat} (h : client.current generation = true) :
    Live client := by
  simp only [current, Bool.and_eq_true, Bool.not_eq_true', decide_eq_true_eq] at h
  exact ⟨h.1.1.1, h.1.1.2, h.2⟩

theorem live_of_canNegotiate {negotiation : Negotiation}
    (h : client.canNegotiateQuality negotiation = true) : Live client := by
  simp only [canNegotiateQuality, Bool.and_eq_true, Bool.not_eq_true', decide_eq_true_eq] at h
  exact ⟨h.1.1.1.1.1.1, h.1.1.1.1.1.2, h.1.1.1.1.2⟩

/-! ## What a step reports -/

theorem ask_adds (client : RideSessionClient) (sendThrows : Bool)
    {answer : Option VideoProfile × QualityClient} (hquality : answer.2.Declared)
    (h : ∀ profile, answer.1 = some profile → P (.requested profile)) :
    Adds P client (client.ask sendThrows answer) := by
  have hanswer : Adds P client { client with quality := answer.2 } :=
    ⟨⟨[], (List.append_nil _).symm, by simp⟩, fun _ => hquality⟩
  refine hanswer.trans (.emit _ ?_)
  cases sendThrows with
  | true => simp
  | false =>
    cases hasked : answer.1 with
    | none => simp
    | some profile => simpa using h profile hasked

theorem qualityMessage_adds (host : ClientHost) (client : RideSessionClient)
    (hquality : client.quality.Declared) (channel : ChannelId) (data : Option String)
    (negotiation : Negotiation) (sendThrows : Bool) (now : ℚ) :
    Adds (Justified client) client
      (client.qualityMessage host channel data negotiation sendThrows now) := by
  unfold qualityMessage
  split
  · exact .refl _
  · split
    · exact .refl _
    · split
      · exact .refl _
      · next message _ =>
        obtain ⟨hdeclared, hasks⟩ := hquality.received (client.canNegotiateQuality negotiation)
          (.finite now) message
        refine client.ask_adds _ hdeclared fun profile hprofile => ?_
        obtain ⟨hcan, hchange⟩ := hasks profile hprofile
        exact ⟨live_of_canNegotiate hcan, hchange⟩

theorem sampleFailed_adds (client : RideSessionClient) (h : P (.videoStats none)) :
    Adds P client client.sampleFailed :=
  .trans (t := { client with videoSampler := newSampler }) (.same rfl rfl)
    (.emit _ (by simpa using h))

theorem statsSettled_adds (host : ClientHost) (client : RideSessionClient)
    (hquality : client.quality.Declared) (place generation : Nat)
    (report : Option (List StatsEntry)) (negotiation : Negotiation)
    (sendThrows : Bool) (now : ℚ) :
    Adds (Justified client) client
      (client.statsSettled host place generation report negotiation sendThrows now) := by
  unfold statsSettled
  split
  · next hcurrent =>
    refine .trans ?_ (.same (s := client.sampled host report negotiation sendThrows now) rfl rfl)
    cases report with
    | none => exact client.sampleFailed_adds trivial
    | some report =>
      have hlive := live_of_current hcurrent
      have hask : ∀ videoSampler stats,
          let answer := client.quality.onSample (client.canNegotiateQuality negotiation)
            (.finite now) (policyStats stats)
          Adds (Justified client) client
            (({ client with videoSampler }.emit [.videoStats (some stats)]).ask
              sendThrows answer) := by
        intro videoSampler stats answer
        refine .trans (t := { client with videoSampler }) (.same rfl rfl) ?_
        obtain ⟨hdeclared, hasks⟩ := hquality.sampled (client.canNegotiateQuality negotiation)
          (.finite now) (policyStats stats)
        have hreport : Adds (Justified client) { client with videoSampler }
            ({ client with videoSampler }.emit [.videoStats (some stats)]) :=
          .emit _ (by simpa [Justified] using hlive)
        exact hreport.trans (ask_adds _ _ hdeclared fun profile hasked =>
          ⟨hlive, (hasks profile hasked).2⟩)
      show Adds _ client (client.measure host report negotiation sendThrows now)
      unfold measure
      dsimp only
      split
      · exact (hask _ _).trans (sampleFailed_adds _ trivial)
      · exact hask _ _
  · exact .same rfl rfl

theorem routeDetected_adds (client : RideSessionClient)
    (report : Option (List (String × StatsEntry)))
    (h : Live client → ∀ route, P (.progress (routeProgress route)) ∧ P (.state (.route route))) :
    Adds P client (client.routeDetected report) := by
  unfold routeDetected
  split
  · exact .refl _
  · next hon =>
    simp only [Bool.or_eq_true, not_or, Bool.not_eq_true, decide_eq_true_eq, not_not] at hon
    have hroute := h ⟨hon.1.1, hon.1.2, hon.2⟩ (detectConnectionRoute report)
    exact .emit _ (by simpa using hroute)

theorem connect_adds (client : RideSessionClient) (setup : ConnectSetup) :
    Adds (Justified client) client (client.connect setup) := by
  unfold connect
  split
  · exact .refl _
  · next hopen =>
    simp only [Bool.or_eq_true, not_or, Bool.not_eq_true] at hopen
    have hreport : Adds (Justified client) client
        (client.emit [.state .connecting, .progress .gatewayConnecting]) :=
      .emit _ (by simp [Justified, hopen.2])
    have hcreate : ∀ client' : RideSessionClient,
        Adds (Justified client) client' client'.createPeer :=
      fun client' => .trans (t := { client' with peer := some .new, channels := true })
        (.same rfl rfl)
        (.emit _ (by simp [Justified, hopen.2]))
    cases setup with
    | peerThrows => exact hreport
    | socketThrows => exact hreport.trans (hcreate _)
    | connects =>
      refine (hreport.trans (hcreate _)).trans ?_
      exact .trans (t := { (client.emit [.state .connecting,
        .progress .gatewayConnecting]).createPeer with socket := some .connecting }) (.same rfl rfl)
        (.emit _ (by simp [Justified, hopen.2]))

theorem close_adds (client : RideSessionClient) (reason : String) :
    Adds (Justified client) client (client.close reason) := by
  unfold close
  split
  · exact .refl _
  · have hsend : Adds (Justified client) client
        (client.send (.relay (.sessionEnd client.session.sessionId reason))) :=
      .send client fun hsocket => .inl hsocket
    refine hsend.trans ?_
    refine .trans (t := { client.send (.relay (.sessionEnd client.session.sessionId reason)) with
      closed := true }) (.same rfl rfl) ?_
    refine (Adds.stopVideoStats _ trivial).trans ?_
    exact .trans (t := ({ client.send (.relay (.sessionEnd client.session.sessionId reason)) with
      closed := true } : RideSessionClient).stopVideoStats.release) (.same rfl rfl)
      (.emit _ (by simp [Justified]))

theorem onControlFailed_adds (client : RideSessionClient) :
    Adds (Justified client) client client.onControlFailed := by
  unfold onControlFailed
  split
  · exact .refl _
  · refine .trans (t := { client with controlFailed := true }) (.same rfl rfl) ?_
    exact (Adds.stopVideoStats _ trivial).trans (.emit _ (by simp [Justified]))

theorem onConnected_adds (client : RideSessionClient)
    (h : client.socket = some .opened → P (.sent (.sessionConnected client.session.sessionId))) :
    Adds P client client.onConnected := by
  unfold onConnected
  split
  · exact .refl _
  · have hreport : Adds P client client.reportConnected := by
      unfold reportConnected
      split
      · exact .refl _
      · exact .trans (t := { client with connectedReported := true }) (.same rfl rfl) (.send _ h)
    refine hreport.trans ?_
    unfold startVideoStats
    split <;> exact .same rfl rfl

theorem onConnectionState_adds (client : RideSessionClient) (state : PeerState) :
    Adds (Justified client) client (client.onConnectionState state) := by
  refine .trans (t := { client with peer := some state }) (.same rfl rfl) ?_
  have hdisconnected : ∀ client' : RideSessionClient,
      Adds (Justified client) client' client'.onDisconnected := fun client' =>
    (Adds.stopVideoStats client' trivial).trans (.emit _ (by simp [Justified]))
  cases state with
  | connected => exact onConnected_adds _ fun hsocket => .inl hsocket
  | failed | closed | disconnected => exact hdisconnected _
  | new | connecting => exact .refl _

theorem onTrack_adds (client : RideSessionClient) (track : MediaTrack) :
    Adds (Justified client) client (client.onTrack track) := by
  unfold onTrack
  split
  · exact .refl _
  · next hopen =>
    have hopen' : client.closed = false := Bool.eq_false_iff.2 hopen
    have hadd : Adds (Justified client) client (client.addTrack track) := by
      unfold addTrack
      split <;> exact .same rfl rfl
    have hreport : Adds (Justified client) (client.addTrack track)
        ((client.addTrack track).reportTrack track) := by
      unfold reportTrack
      split
      · exact .emit _ (by simp [Justified, hopen'])
      · exact .refl _
    exact (hadd.trans hreport).trans (.publishStream _ fun hvideo => ⟨hopen', hvideo⟩)

theorem onTrackEnded_adds (client : RideSessionClient) (track : MediaTrack) :
    Adds (Justified client) client (client.onTrackEnded track) := by
  unfold onTrackEnded
  split
  · exact .same rfl rfl
  · next hopen =>
    exact .trans (t := client.removeTrack track) (.same rfl rfl)
      (.publishStream _ fun hvideo => ⟨Bool.eq_false_iff.2 hopen, hvideo⟩)

theorem handleMessage_adds (client : RideSessionClient) (hsocket : client.socket = some .opened)
    (message : Except String Gateway.ServerMessage) :
    Adds (Justified client) client (client.handleMessage message) := by
  have herror : ∀ text, Adds (Justified client) client (client.emit [.error text]) :=
    fun text => .emit _ (by simp [Justified])
  unfold handleMessage
  dsimp only
  split
  · exact herror _
  · exact herror _
  · exact herror _
  · split
    · exact herror _
    · exact .emit _ (by simp [Justified, hsocket])
  · split
    · exact herror _
    · exact .trans (t := { client with handlers := client.handlers ++ [Handler.creatingOffer] })
        (.same rfl rfl) (.emit _ (by simp [Justified, hsocket]))
  · split
    · exact herror _
    · exact .same rfl rfl
  · split
    · exact herror _
    · exact .same rfl rfl
  · exact client.close_adds _
  · exact .refl _

theorem settle_adds (client : RideSessionClient) (handler : Handler) (settlement : Settlement)
    (herror : ∀ text, P (.error text)) (hsent : P (.progress .webrtcOfferSent))
    (happlied : P (.progress .webrtcAnswerApplied))
    (hoffer : client.socket = some .opened → ∀ message, P (.sent message)) :
    Adds P client (client.settle handler settlement) := by
  have herror : ∀ text, Adds P client (client.emit [.error text]) :=
    fun text => .emit _ (by simpa using herror text)
  cases settlement with
  | rejects error => cases handler <;> exact herror _
  | resolves localDescription =>
    cases handler with
    | creatingOffer => exact .same rfl rfl
    | settingLocalDescription =>
      simp only [settle]
      split
      · exact herror _
      · exact (Adds.send client fun hsocket => hoffer hsocket _).trans
          (.emit _ (by simpa using hsent))
    | settingRemoteDescription => exact .emit _ (by simpa using happlied)
    | addingIceCandidate => exact .refl _

theorem step_adds (host : ClientHost) (hquality : s.quality.Declared)
    (h : step host s event = some t) : Adds (Justified s) s t := by
  cases event with
  | connect setup =>
    obtain ⟨-, ⟨⟩⟩ := Option.ite_none_left_eq_some.1 h
    exact s.connect_adds setup
  | close reason =>
    obtain rfl := Option.some.inj h
    exact s.close_adds reason
  | socketOpened =>
    obtain ⟨hsocket, ⟨⟩⟩ := Option.ite_none_right_eq_some.1 h
    exact .trans (t := { s with socket := some .opened }) (.same rfl rfl)
      (.emit _ (by simp [Justified, hsocket]))
  | socketMessage message =>
    obtain ⟨hsocket, ⟨⟩⟩ := Option.ite_none_right_eq_some.1 h
    exact s.handleMessage_adds hsocket message
  | socketFailed =>
    obtain ⟨-, ⟨⟩⟩ := Option.ite_none_right_eq_some.1 h
    exact .emit _ (by simp [Justified])
  | socketClosed =>
    obtain ⟨-, ⟨⟩⟩ := Option.ite_none_right_eq_some.1 h
    exact .trans (t := { s with socket := some .closed }) (.same rfl rfl)
      (.emit _ (by simp [Justified]))
  | connectionState state =>
    obtain ⟨-, ⟨⟩⟩ := Option.ite_none_right_eq_some.1 h
    exact s.onConnectionState_adds state
  | iceCandidate candidate sdpMid sdpMLineIndex =>
    obtain ⟨-, h⟩ := Option.ite_none_left_eq_some.1 h
    split at h
    · obtain rfl := Option.some.inj h
      exact .refl _
    · obtain rfl := Option.some.inj h
      exact .send _ fun hsocket => .inl hsocket
  | track track =>
    obtain ⟨-, ⟨⟩⟩ := Option.ite_none_right_eq_some.1 h
    exact s.onTrack_adds track
  | trackEnded track =>
    obtain ⟨-, ⟨⟩⟩ := Option.ite_none_right_eq_some.1 h
    exact s.onTrackEnded_adds track
  | controlFailed =>
    obtain ⟨-, ⟨⟩⟩ := Option.ite_none_right_eq_some.1 h
    exact s.onControlFailed_adds
  | dataChannel channel label =>
    obtain ⟨-, ⟨⟩⟩ := Option.ite_none_right_eq_some.1 h
    unfold bindVideoQuality
    split <;> exact .same rfl rfl
  | qualityClosed channel =>
    obtain rfl := Option.some.inj h
    unfold qualityClosed
    split
    · exact .refl _
    · exact ⟨⟨[], (List.append_nil _).symm, by simp⟩,
        fun _ => QualityClient.declared_of_none rfl⟩
  | qualityMessage channel data negotiation sendThrows now =>
    obtain rfl := Option.some.inj h
    exact qualityMessage_adds host s hquality channel data negotiation sendThrows now
  | statsTimer handle =>
    obtain ⟨stats, -, rfl⟩ := Option.map_eq_some_iff.1 h
    exact .same rfl rfl
  | statsSettled place report negotiation sendThrows now =>
    obtain ⟨generation, -, rfl⟩ := Option.map_eq_some_iff.1 h
    exact statsSettled_adds host s hquality place generation report negotiation sendThrows now
  | routeDetected report =>
    obtain ⟨-, ⟨⟩⟩ := Option.ite_none_left_eq_some.1 h
    refine .trans (t := { s with detecting := s.detecting - 1 }) (.same rfl rfl)
      (routeDetected_adds _ report fun hlive route => ?_)
    have hlive : Live s := ⟨hlive.closed, hlive.controlFailed, hlive.connected⟩
    cases route <;> exact ⟨hlive, hlive⟩
  | settled place settlement =>
    obtain ⟨handler, -, rfl⟩ := Option.map_eq_some_iff.1 h
    exact .trans (t := { s with handlers := s.handlers.eraseIdx place }) (.same rfl rfl)
      (settle_adds _ handler settlement (fun _ => trivial) trivial trivial
        fun hsocket _ => .inl hsocket)

/-! ## Runs -/

theorem reached_declared {session : StoredDriveSession} {events : List RideSessionEvent}
    (h : Run (StepOf (step host)) (new session) events s) : s.quality.Declared :=
  h.invariant (I := fun s => s.quality.Declared) (QualityClient.declared_of_none rfl)
    fun hs hstep => (step_adds host hs hstep).quality hs

/-- Over every run, what a step reports is due to the state that it starts in: a stream has video,
measurements and a route are those of a live connection, and a requested profile is one that the car
has named and does not send now. -/
theorem reports_justified (host : ClientHost) (session : StoredDriveSession)
    {events : List RideSessionEvent} (h : Run (StepOf (step host)) (new session) events s)
    (hstep : step host s event = some t) :
    ∃ outputs, t.log = s.log ++ outputs ∧ ∀ output ∈ outputs, Justified s output :=
  (step_adds host (reached_declared h) hstep).log

theorem plainRide_justified :
    ∃ s t outputs, Run (StepOf (step plainHost)) (new plainSession) (plainRide.take 5) s ∧
      step plainHost s (.track ⟨1, true⟩) = some t ∧ t.log = s.log ++ outputs ∧
      ∀ output ∈ outputs, Justified s output := by
  obtain ⟨s, t, hrun, hstep⟩ : ∃ s t,
      Run (StepOf (step plainHost)) (new plainSession) (plainRide.take 5) s ∧
      step plainHost s (.track ⟨1, true⟩) = some t := ⟨_, _, run_of_runList rfl, rfl⟩
  obtain ⟨outputs, hlog, hall⟩ := reports_justified plainHost plainSession hrun hstep
  exact ⟨s, t, outputs, hrun, hstep, hlog, hall⟩

/-- What a closed client may still report: an error, the end, or the outcome of what was under
way. -/
def Quiet : Output → Prop
  | .error _ | .state .disconnected | .videoStats none => True
  | .progress .webrtcOfferSent | .progress .webrtcAnswerApplied => True
  | _ => False

theorem quiet_of_justified (hclosed : s.closed = true)
    (hsocket : s.socket ≠ some .connecting ∧ s.socket ≠ some .opened) {output : Output}
    (h : Justified s output) : Quiet output := by
  have hlive : ¬ Live s := fun hlive => by simp [hlive.closed] at hclosed
  unfold Justified at h
  split at h <;> simp_all [Quiet]

theorem Says.stays_closed (h : Says s t) (hclosed : s.closed = true) : t.closed = true := by
  cases h with
  | nothing h => exact h.closed.trans hclosed
  | moves h _ => exact h.closed.trans hclosed
  | opens h _ => exact h.closed.trans hclosed
  | signals h _ _ _ _ => exact h.closed.trans hclosed
  | connects h _ =>
    refine h.closed.trans ?_
    unfold send
    split <;> exact hclosed
  | ends h _ => exact h.closed

/-- A client that was closed asks for nothing, sends nothing and shows nothing any more, whatever
still arrives. -/
theorem quiet_after_close (host : ClientHost) (session : StoredDriveSession)
    {events later : List RideSessionEvent} (h : Run (StepOf (step host)) (new session) events s)
    (hclosed : s.closed = true) (hlater : Run (StepOf (step host)) s later t) :
    ∃ outputs, t.log = s.log ++ outputs ∧ ∀ output ∈ outputs, Quiet output := by
  suffices hrun : (∃ events, Run (StepOf (step host)) (new session) events t) ∧
      t.closed = true ∧ ∃ outputs, t.log = s.log ++ outputs ∧ ∀ output ∈ outputs, Quiet output from
    hrun.2.2
  refine hlater.invariant (I := fun t =>
    (∃ events, Run (StepOf (step host)) (new session) events t) ∧
    t.closed = true ∧ ∃ outputs, t.log = s.log ++ outputs ∧ ∀ output ∈ outputs, Quiet output)
    ⟨⟨events, h⟩, hclosed, [], (List.append_nil _).symm, by simp⟩ ?_
  rintro t u event ⟨⟨events, hrun⟩, htclosed, outputs, hlog, hall⟩ hstep
  have hspoken : Spoken t := hrun.invariant (I := Spoken) (spoken_new session)
    fun hs hstep => (step_speaks host hstep).spoken hs
  obtain ⟨added, hadded, hjustified⟩ := (step_adds host (reached_declared hrun) hstep).log
  refine ⟨⟨events ++ [event], hrun.snoc hstep⟩, (step_speaks host hstep).stays_closed htclosed,
    outputs ++ added, by rw [hadded, hlog, List.append_assoc], fun output hmem => ?_⟩
  rcases List.mem_append.1 hmem with hmem | hmem
  · exact hall output hmem
  · exact quiet_of_justified htclosed (hspoken.leaves htclosed) (hjustified output hmem)

theorem plainRide_quiet :
    ∃ s t outputs, Run (StepOf (step plainHost)) (new plainSession) plainRide s ∧ s.closed = true ∧
      Run (StepOf (step plainHost)) s [.socketClosed, .routeDetected none] t ∧
      t.log = s.log ++ outputs ∧ ∀ output ∈ outputs, Quiet output := by
  obtain ⟨s, t, hrun, hclosed, hlater⟩ : ∃ s t,
      Run (StepOf (step plainHost)) (new plainSession) plainRide s ∧ s.closed = true ∧
      Run (StepOf (step plainHost)) s [.socketClosed, .routeDetected none] t :=
    ⟨_, _, run_of_runList rfl, rfl, run_of_runList rfl⟩
  obtain ⟨outputs, hlog, hall⟩ := quiet_after_close plainHost plainSession hrun hclosed hlater
  exact ⟨s, t, outputs, hrun, hclosed, hlater, hlog, hall⟩

end RideSessionClient

end RcOnline.Web
