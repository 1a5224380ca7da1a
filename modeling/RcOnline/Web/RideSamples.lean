import RcOnline.Web.RideSignals

/-!
# The sampling of the received video

Over every run of a client its sampling loop waits for one timer or one call of `getStats` at most,
and for nothing once it has stopped. A slow `getStats` never adds up to several calls, and the loop
goes on as long as the peer connection, once connected, does not fall back to connecting without
being reported as disconnected (`one_sampler`).
-/

namespace RcOnline.Web

open RcOnline.Lib

namespace RideSessionClient

variable {s t u client : RideSessionClient} {event : RideSessionEvent}

/-- The loop is left to run as it does. -/
structure Untouched (s t : RideSessionClient) : Prop where
  peer : t.peer = s.peer
  closed : t.closed = s.closed
  controlFailed : t.controlFailed = s.controlFailed

/-- All that a step may do with the loop. -/
inductive Turns (s : RideSessionClient) (event : RideSessionEvent) (t : RideSessionClient) :
    Prop where
  | leaves : t.stats = s.stats → Untouched s t → Turns s event t
  | creates : t.stats = s.stats → t.closed = s.closed → t.controlFailed = s.controlFailed →
      s.peer = none → Turns s event t
  | wavers {state : PeerState} : event = .connectionState state →
      state = .new ∨ state = .connecting → t.stats = s.stats → t.closed = s.closed →
      t.controlFailed = s.controlFailed → Turns s event t
  | starts : t.stats = s.stats.start → t.peer = some .connected → s.closed = false →
      s.controlFailed = false → t.closed = s.closed → t.controlFailed = s.controlFailed →
      Turns s event t
  | refuses : t.stats = s.stats → s.closed = true ∨ s.controlFailed = true →
      t.closed = s.closed → t.controlFailed = s.controlFailed → Turns s event t
  | stops : t.stats = s.stats.stop → Turns s event t
  | fires {handle : Nat} : s.stats.fire handle = some t.stats → Untouched s t → Turns s event t
  | settles {place generation : Nat} : s.stats.polls[place]? = some generation →
      t.stats = s.stats.settle place (s.current generation) → Untouched s t → Turns s event t

theorem Untouched.refl (s : RideSessionClient) : Untouched s s := ⟨rfl, rfl, rfl⟩

theorem Aside.untouched (h : Aside s t) : Untouched s t := ⟨h.peer, h.closed, h.controlFailed⟩

theorem Aside.turns (h : Aside s t) : Turns s event t := .leaves h.stats h.untouched

theorem send_leaves (client : RideSessionClient) (message : Gateway.ClientMessage) :
    (client.send message).stats = client.stats ∧ Untouched client (client.send message) := by
  unfold send
  split
  · exact ⟨rfl, rfl, rfl, rfl⟩
  · exact ⟨rfl, .refl _⟩

theorem close_turns (client : RideSessionClient) (reason : String) :
    Turns client event (client.close reason) := by
  unfold close
  split
  · exact .leaves rfl (.refl _)
  · refine .stops ?_
    rw [← (send_leaves client _).1]
    rfl

theorem onControlFailed_turns (client : RideSessionClient) :
    Turns client event client.onControlFailed := by
  unfold onControlFailed
  split
  · exact .leaves rfl (.refl _)
  · exact .stops rfl

theorem reportConnected_leaves (client : RideSessionClient) :
    client.reportConnected.stats = client.stats ∧ Untouched client client.reportConnected := by
  unfold reportConnected
  split
  · exact ⟨rfl, .refl _⟩
  · obtain ⟨hstats, hsame⟩ := send_leaves { client with connectedReported := true }
      (.sessionConnected client.session.sessionId)
    exact ⟨hstats, hsame.peer, hsame.closed, hsame.controlFailed⟩

theorem onConnectionState_turns (client : RideSessionClient) (state : PeerState) :
    Turns client (.connectionState state) (client.onConnectionState state) := by
  cases state with
  | new => exact .wavers rfl (.inl rfl) rfl rfl rfl
  | connecting => exact .wavers rfl (.inr rfl) rfl rfl rfl
  | disconnected | failed | closed => exact .stops rfl
  | connected =>
    obtain ⟨hstats, hsame⟩ := reportConnected_leaves { client with peer := some .connected }
    show Turns client _ ({ client with peer := some .connected } : RideSessionClient).onConnected
    unfold onConnected
    split
    · next hoff => exact .refuses rfl (Bool.or_eq_true_iff.1 hoff) rfl rfl
    · next hon =>
      rw [Bool.or_eq_true, not_or, Bool.not_eq_true, Bool.not_eq_true] at hon
      unfold startVideoStats
      split
      · next hoff =>
        have hclosed := hsame.closed.trans hon.1
        have hfailed := hsame.controlFailed.trans hon.2
        simp [hclosed, hfailed] at hoff
      · refine .starts ?_ hsame.peer hon.1 hon.2 hsame.closed hsame.controlFailed
        exact congrArg Polling.start hstats

theorem connect_turns (client : RideSessionClient) (setup : ConnectSetup)
    (hfresh : ¬ (client.peer.isSome && client.socket.isNone) = true) :
    Turns client event (client.connect setup) := by
  unfold connect
  split
  · exact .leaves rfl (.refl _)
  · next hopen =>
    have hpeer : client.peer = none := by
      cases hpeer : client.peer with
      | none => rfl
      | some state =>
        cases hsocket : client.socket with
        | none => simp [hpeer, hsocket] at hfresh
        | some socket => simp [hsocket] at hopen
    cases setup with
    | peerThrows => exact .leaves rfl ⟨rfl, rfl, rfl⟩
    | socketThrows => exact .creates rfl rfl rfl hpeer
    | connects => exact .creates rfl rfl rfl hpeer

theorem handleMessage_turns (client : RideSessionClient)
    (message : Except String Gateway.ServerMessage) :
    Turns client event (client.handleMessage message) := by
  have hleaves : ∀ handlers outputs, Turns client event ({ client with handlers }.emit outputs) :=
    fun _ _ => .leaves rfl ⟨rfl, rfl, rfl⟩
  unfold handleMessage
  dsimp only
  split
  · exact hleaves _ _
  · exact hleaves _ _
  · exact hleaves _ _
  · split <;> exact hleaves _ _
  · split <;> exact hleaves _ _
  · split
    · exact hleaves _ _
    · exact .leaves rfl ⟨rfl, rfl, rfl⟩
  · split
    · exact hleaves _ _
    · exact .leaves rfl ⟨rfl, rfl, rfl⟩
  · exact client.close_turns _
  · exact .leaves rfl (.refl _)

theorem settle_turns (client : RideSessionClient) (handler : Handler) (settlement : Settlement)
    (place : Nat) :
    Turns client event
      ({ client with handlers := client.handlers.eraseIdx place }.settle handler settlement) := by
  have hleaves : ∀ handlers outputs, Turns client event ({ client with handlers }.emit outputs) :=
    fun _ _ => .leaves rfl ⟨rfl, rfl, rfl⟩
  cases settlement with
  | rejects error => cases handler <;> exact hleaves _ _
  | resolves localDescription =>
    cases handler with
    | creatingOffer => exact .leaves rfl ⟨rfl, rfl, rfl⟩
    | settingLocalDescription =>
      simp only [settle]
      split
      · exact hleaves _ _
      · obtain ⟨hstats, hsame⟩ := send_leaves
          { client with handlers := client.handlers.eraseIdx place } _
        exact .leaves hstats ⟨hsame.peer, hsame.closed, hsame.controlFailed⟩
    | settingRemoteDescription => exact hleaves _ _
    | addingIceCandidate => exact .leaves rfl ⟨rfl, rfl, rfl⟩

theorem statsSettled_turns (host : ClientHost) (client : RideSessionClient)
    {place generation : Nat} (hplace : client.stats.polls[place]? = some generation)
    (report : Option (List StatsEntry)) (negotiation : Negotiation) (sendThrows : Bool) (now : ℚ) :
    Turns client event
      (client.statsSettled host place generation report negotiation sendThrows now) := by
  have hsampled := sampled_aside host client report negotiation sendThrows now
  unfold statsSettled
  split
  · next hcurrent =>
    exact .settles hplace (by rw [hcurrent])
      ⟨hsampled.peer, hsampled.closed, hsampled.controlFailed⟩
  · next hcurrent =>
    exact .settles hplace (by rw [Bool.eq_false_iff.2 hcurrent]) ⟨rfl, rfl, rfl⟩

theorem step_turns (host : ClientHost) (h : step host s event = some t) : Turns s event t := by
  cases event with
  | connect setup =>
    obtain ⟨hfresh, ⟨⟩⟩ := Option.ite_none_left_eq_some.1 h
    exact s.connect_turns setup hfresh
  | close reason =>
    obtain rfl := Option.some.inj h
    exact s.close_turns reason
  | socketOpened =>
    obtain ⟨-, ⟨⟩⟩ := Option.ite_none_right_eq_some.1 h
    exact .leaves rfl ⟨rfl, rfl, rfl⟩
  | socketMessage message =>
    obtain ⟨-, ⟨⟩⟩ := Option.ite_none_right_eq_some.1 h
    exact s.handleMessage_turns message
  | socketFailed =>
    obtain ⟨-, ⟨⟩⟩ := Option.ite_none_right_eq_some.1 h
    exact .leaves rfl ⟨rfl, rfl, rfl⟩
  | socketClosed =>
    obtain ⟨-, ⟨⟩⟩ := Option.ite_none_right_eq_some.1 h
    exact .leaves rfl ⟨rfl, rfl, rfl⟩
  | connectionState state =>
    obtain ⟨-, ⟨⟩⟩ := Option.ite_none_right_eq_some.1 h
    exact s.onConnectionState_turns state
  | iceCandidate candidate sdpMid sdpMLineIndex =>
    obtain ⟨-, h⟩ := Option.ite_none_left_eq_some.1 h
    split at h
    · obtain rfl := Option.some.inj h
      exact .leaves rfl (.refl _)
    · obtain rfl := Option.some.inj h
      obtain ⟨hstats, hsame⟩ := s.send_leaves _
      exact .leaves hstats hsame
  | track track =>
    obtain ⟨-, ⟨⟩⟩ := Option.ite_none_right_eq_some.1 h
    exact (s.onTrack_aside track).turns
  | trackEnded track =>
    obtain ⟨-, ⟨⟩⟩ := Option.ite_none_right_eq_some.1 h
    exact (s.onTrackEnded_aside track).turns
  | controlFailed =>
    obtain ⟨-, ⟨⟩⟩ := Option.ite_none_right_eq_some.1 h
    exact s.onControlFailed_turns
  | dataChannel channel label =>
    obtain ⟨-, ⟨⟩⟩ := Option.ite_none_right_eq_some.1 h
    exact (s.bindVideoQuality_aside channel label).turns
  | qualityClosed channel =>
    obtain rfl := Option.some.inj h
    exact (s.qualityClosed_aside channel).turns
  | qualityMessage channel data negotiation sendThrows now =>
    obtain rfl := Option.some.inj h
    exact (qualityMessage_aside host s channel data negotiation sendThrows now).turns
  | statsTimer handle =>
    obtain ⟨stats, hfire, rfl⟩ := Option.map_eq_some_iff.1 h
    exact .fires hfire ⟨rfl, rfl, rfl⟩
  | statsSettled place report negotiation sendThrows now =>
    obtain ⟨generation, hplace, rfl⟩ := Option.map_eq_some_iff.1 h
    exact statsSettled_turns host s hplace report negotiation sendThrows now
  | routeDetected report =>
    obtain ⟨-, ⟨⟩⟩ := Option.ite_none_left_eq_some.1 h
    have haside := routeDetected_aside { s with detecting := s.detecting - 1 } report
    exact .leaves haside.stats ⟨haside.peer, haside.closed, haside.controlFailed⟩
  | settled place settlement =>
    obtain ⟨handler, -, rfl⟩ := Option.map_eq_some_iff.1 h
    exact s.settle_turns handler settlement place

/-- The answer to a call is taken by the generation that made it. -/
theorem generation_of_current {generation : Nat} (h : client.current generation = true) :
    generation = client.stats.generation := by
  simp only [current, Bool.and_eq_true, decide_eq_true_eq] at h
  exact h.1.2

/-- What every run keeps of the loop. -/
structure Samples (client : RideSessionClient) : Prop where
  sound : client.stats.Sound
  off : client.closed = true ∨ client.controlFailed = true → client.stats.running = false

theorem Turns.samples (h : Turns s event t) (hs : Samples s) : Samples t := by
  have hkeeps : t.stats.running = s.stats.running → t.closed = s.closed →
      t.controlFailed = s.controlFailed →
      (t.closed = true ∨ t.controlFailed = true → t.stats.running = false) := by
    intro hrunning hclosed hfailed hoff
    rw [hclosed, hfailed] at hoff
    exact hrunning.trans (hs.off hoff)
  cases h with
  | leaves hstats hsame =>
    exact ⟨hstats ▸ hs.sound, hkeeps (by rw [hstats]) hsame.closed hsame.controlFailed⟩
  | creates hstats hclosed hfailed _ =>
    exact ⟨hstats ▸ hs.sound, hkeeps (by rw [hstats]) hclosed hfailed⟩
  | wavers _ _ hstats hclosed hfailed =>
    exact ⟨hstats ▸ hs.sound, hkeeps (by rw [hstats]) hclosed hfailed⟩
  | starts hstats _ hopen hworks hclosed hfailed =>
    refine ⟨hstats ▸ hs.sound.start, fun hoff => ?_⟩
    rw [hclosed, hfailed, hopen, hworks] at hoff
    rcases hoff with hoff | hoff <;> cases hoff
  | refuses hstats _ hclosed hfailed =>
    exact ⟨hstats ▸ hs.sound, hkeeps (by rw [hstats]) hclosed hfailed⟩
  | stops hstats => exact ⟨hstats ▸ hs.sound.stop.1, fun _ => by rw [hstats]; rfl⟩
  | fires hfire hsame =>
    obtain ⟨hsound, -, hrunning⟩ := hs.sound.fire hfire
    exact ⟨hsound, hkeeps hrunning hsame.closed hsame.controlFailed⟩
  | settles hplace hstats hsame =>
    obtain ⟨hsound, hrunning, -⟩ := hs.sound.settle hplace generation_of_current
    rw [← hstats] at hsound hrunning
    exact ⟨hsound, hkeeps hrunning hsame.closed hsame.controlFailed⟩

/-- While the loop runs, the peer connection does not go back to connecting unreported. -/
def SteadyStep (host : ClientHost) (s : RideSessionClient) (event : RideSessionEvent)
    (t : RideSessionClient) : Prop :=
  step host s event = some t ∧ (s.stats.running = true →
    event ≠ .connectionState .new ∧ event ≠ .connectionState .connecting)

/-- A loop that runs samples a connection. -/
structure Steady (client : RideSessionClient) : Prop extends Samples client where
  connected : client.stats.running = true → client.peer = some .connected
  alive : client.stats.Alive

theorem Turns.steady (h : Turns s event t) (hs : Steady s)
    (hsteady : s.stats.running = true →
      event ≠ .connectionState .new ∧ event ≠ .connectionState .connecting) : Steady t := by
  refine ⟨h.samples hs.toSamples, ?_, ?_⟩
  · intro hrunning
    cases h with
    | leaves hstats hsame =>
      rw [hstats] at hrunning
      exact hsame.peer.trans (hs.connected hrunning)
    | creates hstats _ _ hpeer =>
      rw [hstats] at hrunning
      rw [hs.connected hrunning] at hpeer
      cases hpeer
    | wavers hevent hstate hstats _ _ =>
      rw [hstats] at hrunning
      obtain ⟨hnew, hconnecting⟩ := hsteady hrunning
      rcases hstate with rfl | rfl
      · exact absurd hevent hnew
      · exact absurd hevent hconnecting
    | starts _ hpeer _ _ _ _ => exact hpeer
    | refuses hstats hoff _ _ =>
      rw [hstats, hs.off hoff] at hrunning
      cases hrunning
    | stops hstats =>
      rw [hstats] at hrunning
      cases hrunning
    | fires hfire hsame =>
      rw [(hs.sound.fire hfire).2.2] at hrunning
      exact hsame.peer.trans (hs.connected hrunning)
    | settles hplace hstats hsame =>
      rw [hstats, (hs.sound.settle hplace generation_of_current).2.1] at hrunning
      exact hsame.peer.trans (hs.connected hrunning)
  · cases h with
    | leaves hstats _ => exact hstats ▸ hs.alive
    | creates hstats _ _ _ => exact hstats ▸ hs.alive
    | wavers _ _ hstats _ _ => exact hstats ▸ hs.alive
    | starts hstats _ _ _ _ _ => exact hstats ▸ Polling.alive_start hs.sound hs.alive
    | refuses hstats _ _ _ => exact hstats ▸ hs.alive
    | stops hstats => exact hstats ▸ Polling.alive_stop _
    | fires hfire _ =>
      obtain ⟨-, hpending, hrunning⟩ := hs.sound.fire hfire
      intro h
      rw [hrunning] at h
      exact hpending.trans (hs.alive h)
    | @settles place generation hplace hstats _ =>
      obtain ⟨-, hrunning, hpending⟩ := hs.sound.settle hplace
        (generation_of_current : s.current generation = true → _)
      rw [← hstats] at hrunning hpending
      intro h
      rw [hrunning] at h
      refine (hpending fun hgeneration => ?_).trans (hs.alive h)
      -- A running loop belongs to a client that is neither closed nor failed.
      have hopen : s.closed = false ∧ s.controlFailed = false := by
        by_contra hoff
        rw [not_and_or, Bool.not_eq_false, Bool.not_eq_false] at hoff
        rw [hs.off hoff] at h
        cases h
      simp [current, hopen.1, hopen.2, hgeneration, hs.connected h]

theorem steady_new (session : StoredDriveSession) : Steady (new session) where
  sound := Polling.sound_idle
  off _ := rfl
  connected h := by cases h
  alive h := by cases h

/-- In every run the loop waits for one thing at most, and for nothing once it has stopped, as it
has when the client is closed or a control channel has failed. While it runs it always waits for
one, unless the peer connection has gone back to connecting unreported. -/
theorem one_sampler (host : ClientHost) (session : StoredDriveSession) :
    (∀ events s, Run (StepOf (step host)) (new session) events s →
      s.stats.pending ≤ 1 ∧ (s.stats.running = false → s.stats.pending = 0) ∧
        (s.closed = true ∨ s.controlFailed = true → s.stats.running = false)) ∧
      ∀ events s, Run (SteadyStep host) (new session) events s →
        s.stats.running = true → s.stats.pending = 1 := by
  refine ⟨fun events s h => ?_, fun events s h => ?_⟩
  · have hsamples : Samples s := h.invariant (steady_new session).toSamples
      fun hs hstep => (step_turns host hstep).samples hs
    exact ⟨hsamples.sound.one, hsamples.sound.stopped, hsamples.off⟩
  · have hsteady : Steady s := h.invariant (steady_new session)
      fun hs hstep => (step_turns host hstep.1).steady hs hstep.2
    exact hsteady.alive

end RideSessionClient

end RcOnline.Web
