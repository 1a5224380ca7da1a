import RcOnline.Gateway.ServerSteps
import RcOnline.Lib.Steps

/-!
# Updates and drives

`offerPendingUpdate` claims an update for a car without a session, and offers it when the claim has
its reply. A browser that is attached in between is not seen. When none is (`Undisturbed`), every
claim that is outstanding is for a car without a session (`Idle`), and so is every update offered
(`offers_while_idle`); a browser that is attached in between drives a car that is then told to
update (`attachedMeanwhile_offered`).
-/

namespace RcOnline.Gateway

open RcOnline.Lib RcOnline.Schema

namespace Server

/-! ## Offers and attachments -/

/-- The next event is the reply to a claim, and an update for the device goes out on its socket. -/
def Offers (s : Server) (event : Event) (socket : Peer) (device : AuthenticatedDevice)
    (offer : DeviceUpdateOffer) : Prop :=
  ∃ number now call, event = .reply number (.offer (some offer)) now ∧
    s.handlers.get? number = some ⟨socket, call, .offered device⟩ ∧ s.isOpen socket = true

/-- The next event attaches the browser of a ticket. -/
def Attaches (config : GatewayConfig) (s : Server) (event : Event) (ticket : BrowserTicket) :
    Prop :=
  ∃ number now socket call expiresAt, event = .reply number (.authorized (some expiresAt)) now ∧
    s.handlers.get? number = some ⟨socket, call, .authorized ticket⟩ ∧
    (config.iceServers ticket.sessionId now).isSome = true ∧
    s.sessions.attachable ticket.sessionId ticket.carId = true

/-- A browser is attached only to a car for which no claim is outstanding. -/
def Undisturbed (config : GatewayConfig) (s : Server) (event : Event) : Prop :=
  ∀ ticket, s.Attaches config event ticket → ∀ number handler device,
    s.handlers.get? number = some handler → handler.next = .offered device →
    device.carId ≠ ticket.carId

/-- Every claim that is outstanding is for a car without a session. -/
def Idle (s : Server) : Prop :=
  ∀ number handler device, s.handlers.get? number = some handler →
    handler.next = .offered device → s.sessions.hasActiveCar device.carId = false

theorem idle_empty : Idle empty := by simp [Idle, empty]

/-! ## What a step can do -/

variable {config : GatewayConfig} {s t u : Server} {number : Nat} {socket : Peer}

/-- No car gets a session, no update is claimed for a car with one, and none is offered. -/
structure Calm (s t : Server) : Prop where
  active : ∀ carId, t.sessions.hasActiveCar carId = true → s.sessions.hasActiveCar carId = true
  offered : ∀ number handler device, t.handlers.get? number = some handler →
    handler.next = .offered device →
    s.handlers.get? number = some handler ∨ t.sessions.hasActiveCar device.carId = false
  offers : t.offers = s.offers

theorem Calm.trans (h : Calm s t) (h' : Calm t u) : Calm s u where
  active := fun carId => h.active carId ∘ h'.active carId
  offered := by
    intro number handler device hget hnext
    rcases h'.offered number handler device hget hnext with hget | hidle
    · refine (h.offered number handler device hget hnext).imp_right fun hidle => ?_
      exact Bool.eq_false_iff.2 fun hactive =>
        Bool.eq_false_iff.1 hidle (h'.active device.carId hactive)
    · exact .inr hidle
  offers := h'.offers.trans h.offers

theorem Idle.calm (h : Idle s) (hcalm : Calm s t) : Idle t := by
  intro number handler device hget hnext
  rcases hcalm.offered number handler device hget hnext with hget | hidle
  · exact Bool.eq_false_iff.2 fun hactive =>
      Bool.eq_false_iff.1 (h number handler device hget hnext) (hcalm.active device.carId hactive)
  · exact hidle

theorem Quiet.calm (h : Quiet s t) : Calm s t where
  active := fun _ => h.sessions.hasActiveCar
  offered := by
    rw [h.handlers]
    exact fun _ _ _ hget _ => .inl hget
  offers := h.offers

theorem Goes.calm (h : Goes s t number socket) : Calm s t where
  active := fun _ => h.sessions.hasActiveCar
  offered := by
    intro other handler device hget hnext
    rcases h.get? hget with hget | ⟨-, hharmless⟩
    · exact .inl hget
    · exact .inr (hharmless.offered device hnext)
  offers := h.offers

/-- A handler awaits something else than a claim. -/
theorem calm_await (s : Server) (number : Nat) (socket : Peer) (call : StoreRequest)
    {next : Continuation} (hnext : ∀ device, next ≠ .offered device) :
    Calm s (s.await number socket call next) where
  active := fun _ => id
  offered := by
    intro other handler device hget hoffered
    change (s.handlers.set number _).get? other = some handler at hget
    rw [OrdMap.get?_set] at hget
    split at hget
    · obtain rfl := Option.some.inj hget
      exact absurd hoffered (hnext device)
    · exact .inl hget
  offers := rfl

theorem calm_updateConnection (s : Server) (socket : Peer) (f : Connection → Connection) :
    Calm s (s.updateConnection socket f) := by
  obtain ⟨-, -, hsessions, hhandlers⟩ := updateConnection_rest s socket f
  refine ⟨fun _ => hsessions ▸ id, ?_, congrArg (List.filter _) (updateConnection_sent s socket f)⟩
  rw [hhandlers]
  exact fun _ _ _ hget _ => .inl hget

theorem calm_registerDevice (s : Server) (socket : Peer) (device : AuthenticatedDevice) :
    Calm s (s.registerDevice socket device) := by
  have hcalm := calm_updateConnection s socket fun connection =>
    { connection with authenticatedDevice := some device, timeoutArmed := false }
  exact ⟨hcalm.active, hcalm.offered, hcalm.offers⟩

theorem calm_registerBrowser (s : Server) (socket : Peer) (sessionId : Uuid) :
    Calm s (s.registerBrowser socket sessionId) := by
  have hcalm := calm_updateConnection s socket fun connection =>
    { connection with authenticatedSessionId := some sessionId, timeoutArmed := false }
  exact ⟨hcalm.active, hcalm.offered, hcalm.offers⟩

theorem calm_disconnect (s : Server) (number : Nat) (socket : Peer) (now : Int) :
    Calm s (s.disconnect number socket now) := by
  unfold disconnect
  split
  · have hfinish : Goes s (s.finish number) number socket := (Quiet.refl s).finish
    exact hfinish.calm
  · exact calm_await s number socket _ nofun

theorem calm_closeBrowser (s : Server) (number : Nat) (socket : Peer) (now : Int) :
    Calm s (s.closeBrowser number socket now) := by
  unfold closeBrowser
  split
  · have hfinish : Goes s (s.finish number) number socket := (Quiet.refl s).finish
    exact hfinish.calm
  · next sessionId _ =>
    have hdetach : Quiet s
        { s with sessions := (s.sessions.detachBrowser sessionId "browser disconnected").1 } :=
      quiet_sessions (SessionRegistry.endSession_shrinks _ _ _ _)
    have hperform := quiet_perform
      { s with sessions := (s.sessions.detachBrowser sessionId "browser disconnected").1 }
      (s.sessions.endSession_isOffer sessionId "browser disconnected" true)
    exact (hdetach.trans hperform).calm.trans (calm_await _ number socket _ nofun)

theorem calm_releaseDevice (s : Server) (number : Nat) (socket : Peer)
    (device : AuthenticatedDevice) (now : Int) :
    Calm s (s.releaseDevice number socket device now) := by
  have hdetach : Calm s
      { s with
        devices := s.devices.delete device.deviceId
        sessions := (s.sessions.detachDevice device.carId socket).2.1 } := by
    refine ⟨fun carId hactive => ?_, fun _ _ _ hget _ => .inl hget, rfl⟩
    obtain ⟨sessionId, session, hget, hcar⟩ := SessionRegistry.hasActiveCar_iff.1 hactive
    exact SessionRegistry.hasActiveCar_iff.2
      ⟨sessionId, session, SessionRegistry.detachDevice_sessions hget, hcar⟩
  have hperform := hdetach.trans
    (quiet_perform _ (s.sessions.detachDevice_isOffer device.carId socket)).calm
  unfold releaseDevice
  dsimp only
  split
  · exact hperform.trans (calm_await _ number socket _ nofun)
  · exact hperform.trans (calm_disconnect _ number socket now)

theorem calm_onClose (s : Server) (number : Nat) (socket : Peer) (now : Int) :
    Calm s (s.onClose number socket now) := by
  have hmark : Calm s (s.markClosed socket) := by
    have hcalm := calm_updateConnection s socket fun connection =>
      { connection with closed := true, isOpen := false, timeoutArmed := false }
    exact ⟨hcalm.active, hcalm.offered, hcalm.offers⟩
  unfold onClose
  split
  · exact (Quiet.refl s).calm
  · dsimp only
    split
    · exact hmark.trans (calm_closeBrowser _ number socket now)
    · split
      · exact hmark.trans (calm_releaseDevice _ number socket _ now)
      · exact hmark.trans (calm_closeBrowser _ number socket now)

/-- A browser that is attached is in a session of its car; the other cars are as they were. -/
theorem hasActiveCar_attachBrowser {r : SessionRegistry} {session : BrowserSession}
    {browser : Peer} {now : Int} {carId : Uuid}
    (h : r.attachable session.sessionId session.carId = true)
    (hactive : (r.attachBrowser session browser now).2.1.hasActiveCar carId = true) :
    r.hasActiveCar carId = true ∨ carId = session.carId := by
  obtain ⟨active, -, hcar, -, -, hsessions⟩ :=
    SessionRegistry.attachBrowser_of session browser now h
  obtain ⟨sessionId, session', hget, rfl⟩ := SessionRegistry.hasActiveCar_iff.1 hactive
  rw [hsessions, OrdMap.get?_set] at hget
  split at hget
  · obtain rfl := Option.some.inj hget
    exact .inr hcar
  · exact .inl (SessionRegistry.hasActiveCar_iff.2 ⟨sessionId, session', hget, rfl⟩)

/-- A step is calm but for an offer that goes out, or a browser that is attached. -/
inductive Moves (config : GatewayConfig) (s : Server) (event : Event) (t : Server) : Prop where
  | calm (h : Calm s t)
  | offers (socket : Peer) (device : AuthenticatedDevice) (offer : DeviceUpdateOffer)
    (h : s.Offers event socket device offer)
    (hcalm : Calm { s with sent := s.sent ++ [(socket, .deviceUpdateAvailable offer)] } t)
  | attaches (ticket : BrowserTicket) (session : BrowserSession) (socket : Peer) (now : Int)
    (h : s.Attaches config event ticket) (hid : session.sessionId = ticket.sessionId)
    (hcar : session.carId = ticket.carId)
    (hcalm : Calm { s with sessions := (s.sessions.attachBrowser session socket now).2.1 } t)

theorem moves_resume {handler : Handler} {reply : Reply} {now : Int}
    (hhandler : s.handlers.get? number = some handler)
    (hstep : s.resume config number handler reply now = some t) :
    s.Moves config (.reply number reply now) t := by
  obtain ⟨socket, call, next⟩ := handler
  cases s.resume_cases number hstep with
  | accepted device =>
    have hgoes := s.onAuthenticated_goes number socket device now
    exact .calm ((calm_registerDevice s socket device).trans hgoes.calm)
  | rejected =>
    have hcalm := calm_updateConnection s socket fun connection =>
      { connection with authenticatedDevice := none }
    exact .calm (hcalm.trans (reject_goes _ number socket _ _ _).calm)
  | attached ticket expiresAt hnext hice hattachable =>
    obtain rfl : next = .authorized ticket := hnext
    obtain ⟨session, hid, hcar, u, hquiet, hgoes⟩ :=
      s.onAuthorized_of number socket ticket expiresAt now hice hattachable
    refine .attaches ticket session socket now ⟨number, now, socket, call, expiresAt, rfl, hhandler,
      hice, hattachable⟩ hid hcar ?_
    exact (hquiet.calm.trans (calm_registerBrowser u socket _)).trans hgoes.calm
  | offered device offer hnext =>
    obtain rfl : next = .offered device := hnext
    have hfinish : ∀ u : Server, Goes u (u.finish number) number socket :=
      fun u => (Quiet.refl u).finish
    by_cases hopen : s.isOpen socket = true
    · refine .offers socket device offer ⟨number, now, call, rfl, hhandler, hopen⟩ ?_
      rw [act, if_pos hopen]
      exact (hfinish _).calm
    · rw [act, if_neg hopen]
      exact .calm (hfinish s).calm
  | deviceGone => exact .calm (calm_disconnect s number socket now)
  | offline => exact .calm (calm_closeBrowser s number socket now)
  | goes _ _ _ hgoes => exact .calm hgoes.calm

theorem moves_step {event : Event} (hstep : s.step config event = some t) :
    s.Moves config event t := by
  cases event with
  | connect socket =>
    obtain ⟨-, heq⟩ := Option.ite_none_left_eq_some.1 hstep
    obtain rfl := Option.some.inj heq
    exact .calm ⟨fun _ => id, fun _ _ _ hget _ => .inl hget, rfl⟩
  | message socket number message now =>
    obtain ⟨-, heq⟩ := Option.ite_none_right_eq_some.1 hstep
    obtain rfl := Option.some.inj heq
    exact .calm (s.onMessage_goes number socket message now).calm
  | reply number reply now =>
    obtain ⟨handler, hhandler, hresume⟩ := Option.bind_eq_some_iff.1 hstep
    exact moves_resume hhandler hresume
  | pong socket =>
    obtain rfl := Option.some.inj hstep
    exact .calm (s.quiet_pong socket).calm
  | closing socket =>
    obtain rfl := Option.some.inj hstep
    exact .calm (calm_updateConnection s socket _)
  | close socket number now =>
    obtain ⟨-, heq⟩ := Option.ite_none_right_eq_some.1 hstep
    obtain rfl := Option.some.inj heq
    exact .calm (calm_onClose s number socket now)
  | authenticationTimeout socket =>
    obtain ⟨-, heq⟩ := Option.ite_none_right_eq_some.1 hstep
    obtain rfl := Option.some.inj heq
    exact .calm (s.quiet_onAuthenticationTimeout socket).calm
  | sweep now =>
    obtain rfl := Option.some.inj hstep
    exact .calm (s.quiet_sweep now).calm
  | pingBrowsers now failing =>
    obtain rfl := Option.some.inj hstep
    exact .calm (s.quiet_pingBrowsers now failing).calm

/-! ## Runs -/

theorem Idle.step {event : Event} (h : Idle s) (hundisturbed : Undisturbed config s event)
    (hstep : s.step config event = some t) : Idle t := by
  cases moves_step hstep with
  | calm hcalm => exact h.calm hcalm
  | offers socket device offer _ hcalm =>
    have hsent : Idle { s with sent := s.sent ++ [(socket, .deviceUpdateAvailable offer)] } := h
    exact hsent.calm hcalm
  | attaches ticket session socket now hattaches hid hcar hcalm =>
    obtain ⟨_, _, _, _, _, -, -, -, hattachable⟩ := id hattaches
    rw [← hid, ← hcar] at hattachable
    have hattached : Idle
        { s with sessions := (s.sessions.attachBrowser session socket now).2.1 } := by
      intro number handler device hget hnext
      refine Bool.eq_false_iff.2 fun hactive => ?_
      rcases hasActiveCar_attachBrowser hattachable hactive with hactive | heq
      · exact Bool.eq_false_iff.1 (h number handler device hget hnext) hactive
      · exact hundisturbed ticket hattaches number handler device hget hnext (heq.trans hcar)
    exact hattached.calm hcalm

/-- **Main result.** When no browser is attached to a car while an update for it is being claimed,
the next step offers no update or one for a car without a session. -/
theorem offers_while_idle {events : List Event} {event : Event}
    (hrun : Run (fun s event t => StepOf (step config) s event t ∧ Undisturbed config s event) empty
      events s)
    (hstep : s.step config event = some t) :
    t.offers = s.offers ∨ ∃ socket device offer, s.Offers event socket device offer ∧
      t.offers = s.offers ++ [(socket, .deviceUpdateAvailable offer)] ∧
      s.sessions.hasActiveCar device.carId = false := by
  have hidle : Idle s := hrun.invariant idle_empty fun h hs => h.step hs.2 hs.1
  cases moves_step hstep with
  | calm hcalm => exact .inl hcalm.offers
  | offers socket device offer hoffers hcalm =>
    obtain ⟨number, now, call, -, hget, -⟩ := id hoffers
    refine .inr ⟨socket, device, offer, hoffers, ?_, hidle number _ device hget rfl⟩
    rw [hcalm.offers]
    simp [offers, ServerMessage.isOffer]
  | attaches _ _ _ _ _ _ _ hcalm => exact .inl hcalm.offers

/-! ## A browser that is attached in between -/

def updatableCar : AuthenticatedDevice :=
  { deviceId := 1, carId := 2, agentVersion := "0.4.0"
    capabilities := { controlProtocolVersion := some 4, otaRuntimeGeneration := some 1 } }

def updateOffer : DeviceUpdateOffer :=
  { updateId := 3, version := "0.4.1", runtimeGeneration := 1, artifactUrl := "rc-pi-agent.pyz"
    artifactSizeBytes := 1024, digestSha256 := "digest", signature := "signature" }

def driverTicket : BrowserTicket := { sub := 4, carId := 2, sessionId := 5 }

def ticketConfig : GatewayConfig :=
  { hashOpaqueSecret := id, verifyBrowserTicket := fun _ _ => some driverTicket
    iceServers := fun _ _ => some [] }

/-- The device connects, and its claim is outstanding. -/
def claimOutstanding : List Event :=
  [.connect 0,
    .message 0 0 (some (.deviceAuthenticate 1 "secret" "0.4.0" (some updatableCar.capabilities)))
      1000,
    .reply 0 (.device (some updatableCar)) 1001]

/-- A driver connects while the claim is outstanding. -/
def attachedMeanwhile : List Event :=
  claimOutstanding ++
    [.connect 1, .message 1 1 (some (.browserAuthenticate "ticket")) 1002,
      .reply 1 (.authorized (some 9000)) 1003]

def deviceConnection : Connection :=
  { authenticatedDevice := some updatableCar, authenticatedSessionId := none, closed := false
    isOpen := true, timeoutArmed := false }

def browserConnection : Connection :=
  { authenticatedDevice := none, authenticatedSessionId := some 5, closed := false, isOpen := true
    timeoutArmed := false }

def claimHandler : Handler :=
  { socket := 0, call := .claimPendingUpdate 1 1 1001, next := .offered updatableCar }

def claimOutstandingEnd : Server :=
  { connections := OrdMap.set ∅ 0 deviceConnection
    devices := OrdMap.set ∅ 1 0
    browserPings := ∅
    sessions := (SessionRegistry.empty.attachDevice 2 1 0).1
    handlers := OrdMap.set ∅ 0 claimHandler
    sent := [(0, .authAccepted .device)] }

def attachedMeanwhileEnd : Server :=
  { connections := (OrdMap.set ∅ 0 deviceConnection).set 1 browserConnection
    devices := OrdMap.set ∅ 1 0
    browserPings := OrdMap.set ∅ 1 none
    sessions := ((SessionRegistry.empty.attachDevice 2 1 0).1.attachBrowser
      { sessionId := 5, carId := 2, userId := 4, expiresAt := 9000, iceServers := [] } 1 1003).2.1
    handlers := OrdMap.set ∅ 0 claimHandler
    sent := [(0, .authAccepted .device), (0, .sessionStart 5 2 9000 []),
      (1, .sessionStart 5 2 9000 []), (1, .authAccepted .browser)] }

/-- The claim has its reply during the drive, and the update goes out. -/
theorem attachedMeanwhile_offered :
    Run (StepOf (step ticketConfig)) empty attachedMeanwhile attachedMeanwhileEnd ∧
      (∃ t, attachedMeanwhileEnd.step ticketConfig
          (.reply 0 (.offer (some updateOffer)) 1004) = some t ∧
        t.offers = attachedMeanwhileEnd.offers ++ [(0, .deviceUpdateAvailable updateOffer)]) ∧
      attachedMeanwhileEnd.Offers (.reply 0 (.offer (some updateOffer)) 1004) 0 updatableCar
        updateOffer ∧
      attachedMeanwhileEnd.sessions.hasActiveCar updatableCar.carId = true :=
  ⟨run_of_runList rfl, ⟨_, rfl, rfl⟩, ⟨0, 1004, _, rfl, rfl, rfl⟩, rfl⟩

/-- No driver connects before the claim has its reply. -/
theorem claimOutstanding_offered :
    ∃ t, claimOutstandingEnd.step ticketConfig
        (.reply 0 (.offer (some updateOffer)) 1002) = some t ∧
      t.offers = [(0, .deviceUpdateAvailable updateOffer)] ∧
      ∃ socket device offer,
        claimOutstandingEnd.Offers (.reply 0 (.offer (some updateOffer)) 1002) socket device offer ∧
        claimOutstandingEnd.sessions.hasActiveCar device.carId = false := by
  have hundisturbed : ∀ {s : Server} {event : Event},
      (∀ number expiresAt now, event ≠ .reply number (.authorized expiresAt) now) →
      Undisturbed ticketConfig s event := by
    rintro s event hevent ticket ⟨number, now, -, -, expiresAt, heq, -⟩
    exact absurd heq (hevent number expiresAt now)
  have hrun : Run (fun s event t => StepOf (step ticketConfig) s event t ∧
      Undisturbed ticketConfig s event) empty claimOutstanding claimOutstandingEnd :=
    .cons ⟨rfl, hundisturbed nofun⟩ (.cons ⟨rfl, hundisturbed nofun⟩
      (.cons ⟨rfl, hundisturbed nofun⟩ .nil))
  obtain ⟨t, hstep, hsent⟩ : ∃ t, claimOutstandingEnd.step ticketConfig
      (.reply 0 (.offer (some updateOffer)) 1002) = some t ∧
      t.offers = [(0, .deviceUpdateAvailable updateOffer)] := ⟨_, rfl, rfl⟩
  refine ⟨t, hstep, hsent, ?_⟩
  rcases offers_while_idle hrun hstep with hnone | ⟨socket, device, offer, hoffers, -, hidle⟩
  · cases hnone.symm.trans hsent
  · exact ⟨socket, device, offer, hoffers, hidle⟩

end Server

end RcOnline.Gateway
