import RcOnline.Gateway.SessionTraces

/-!
# The device of a live session

A session keeps the device peer that it was attached with. As long as no other connection takes
the place of that peer, it is the one that is attached for the car, and so whatever ends the
session tells the device that is there (`ends_reach_device`); a device that reconnects in a
session is not told (`replaced_not_told`).
-/

namespace RcOnline.Gateway

open RcOnline.Lib RcOnline.Schema

namespace SessionRegistry

variable {r : SessionRegistry} {sessionId : Uuid} {call : RegistryCall} {p : Parties}

/-- The connection of every live session's device is its car's. -/
def Wired (r : SessionRegistry) : Prop :=
  ∀ sessionId p, r.parties sessionId = some p →
    ∃ device, r.devicesByCar.get? p.carId = some device ∧ device.peer = p.device

/-- No device connection takes the place of a live session's. -/
def Unreplaced (r : SessionRegistry) (call : RegistryCall) : Prop :=
  ∀ carId deviceId peer, call = .attachDevice carId deviceId peer →
    ∀ session, r.sessionOfCar carId = some session → session.device = peer

theorem parties_eq_some : r.parties sessionId = some p ↔
    ∃ session, r.sessions.get? sessionId = some session ∧ session.parties = p :=
  Option.map_eq_some_iff

theorem parties_of_get? {session : ActiveSession}
    (h : r.sessions.get? sessionId = some session) :
    r.parties sessionId = some session.parties := parties_eq_some.2 ⟨session, h, rfl⟩

/-- Only the attachment of a browser attaches a session. -/
theorem attached_eq_some (h : r.attached call = some (sessionId, p)) :
    ∃ session browser now, call = .attachBrowser session browser now ∧
      session.sessionId = sessionId ∧ p.browser = browser := by
  cases call with
  | attachBrowser session browser now =>
    rw [attached] at h
    split at h
    · obtain ⟨device, -, heq⟩ := Option.map_eq_some_iff.1 h
      obtain ⟨hid, rfl⟩ := Prod.mk.inj heq
      exact ⟨session, browser, now, rfl, hid, rfl⟩
    · cases h
  | _ => cases h

/-- A session that is live after a call was live before, or the call attached it. -/
theorem parties_of_perform (h : (r.perform call).1.parties sessionId = some p) :
    r.parties sessionId = some p ∨ r.attached call = some (sessionId, p) := by
  rcases r.perform_effect call sessionId with heffect | ⟨-, -, -, -, hafter, -⟩
  · cases heffect with
    | keep hsent hsession => exact .inl (hsession.symm.trans h)
    | pass p' peer message hbefore hafter hsent =>
      obtain rfl := Option.some.inj (h.symm.trans hafter)
      exact .inl hbefore
    | attach p' start hbefore hafter hsent => exact .inr (attached_iff.2 ⟨hbefore, h⟩)
    | finish p' reason toDevice hbefore hafter hsent =>
      rw [hafter] at h
      cases h
  · rw [hafter] at h
    cases h

/-- Only device connections change what is attached for a car. -/
theorem perform_devices (hattach : ∀ carId deviceId peer, call ≠ .attachDevice carId deviceId peer)
    (hdetach : ∀ carId peer, call ≠ .detachDevice carId peer) :
    (r.perform call).1.devicesByCar = r.devicesByCar := by
  cases call with
  | attachDevice carId deviceId peer => exact absurd rfl (hattach carId deviceId peer)
  | detachDevice carId peer => exact absurd rfl (hdetach carId peer)
  | attachBrowser session browser now =>
    cases hattachable : r.attachable session.sessionId session.carId with
    | false => rw [perform, attachBrowser_of_not hattachable]
    | true =>
      obtain ⟨-, -, -, -, hdevices, -⟩ := attachBrowser_of session browser now hattachable
      exact hdevices
  | relayFromBrowser id message => exact (relayFromBrowser_shrinks r id message).devices
  | relayFromDevice carId message => exact (relayFromDevice_shrinks r carId message).devices
  | sendDeviceTelemetry carId batteryVoltage batteryPercent => rfl
  | detachBrowser id reason => exact (endSession_shrinks r id reason true).devices
  | markConnected id now => exact (markConnected_shrinks r id now).devices
  | sweep now => exact (sweep_shrinks r now).devices

/-- A device connection that goes takes the session of its car with it. -/
theorem detachDevice_kept {carId : Uuid} {peer : Peer} {device : DeviceConnection}
    (h : (r.detachDevice carId peer).2.1.parties sessionId = some p)
    (hdevice : r.devicesByCar.get? p.carId = some device) :
    (r.detachDevice carId peer).2.1.devicesByCar.get? p.carId = some device := by
  obtain ⟨session, hsession, rfl⟩ := parties_eq_some.1 h
  have hcar := (r.inverse session.carId sessionId).2
    ⟨session, detachDevice_sessions hsession, rfl⟩
  unfold detachDevice at h ⊢
  split
  · exact hdevice
  · next prior hprior =>
    rw [hprior] at h
    dsimp only at h
    split
    · exact hdevice
    · next hpeer =>
      rw [if_neg hpeer] at h
      by_cases hsame : carId = session.carId
      · subst hsame
        rw [hcar] at h
        dsimp only at h
        rw [endSession_parties, if_pos rfl] at h
        cases h
      · have hkept : (r.devicesByCar.delete carId).get? session.carId = some device := by
          rwa [OrdMap.get?_delete_of_ne _ hsame]
        split
        · exact hkept
        · dsimp only
          rwa [endSession_devices]

/-- What is attached after a call for the car of a session that was live before it. -/
theorem Wired.perform (h : r.Wired) (hcall : r.Unreplaced call)
    (hp : r.parties sessionId = some p) (hafter : (r.perform call).1.parties sessionId = some p) :
    ∃ device, (r.perform call).1.devicesByCar.get? p.carId = some device ∧
      device.peer = p.device := by
  obtain ⟨device, hdevice, hpeer⟩ := h sessionId p hp
  have hsame : (r.perform call).1.devicesByCar = r.devicesByCar →
      ∃ device, (r.perform call).1.devicesByCar.get? p.carId = some device ∧
        device.peer = p.device := fun heq => ⟨device, heq ▸ hdevice, hpeer⟩
  cases call with
  | attachDevice carId deviceId peer =>
    obtain ⟨session, hsession, rfl⟩ := parties_eq_some.1 hp
    by_cases hcar : carId = session.carId
    · refine ⟨⟨deviceId, peer⟩, ?_, ?_⟩
      · rw [SessionRegistry.perform, attachDevice, hcar]
        exact OrdMap.get?_set_self _ _ _
      · refine (hcall carId deviceId peer rfl session ?_).symm
        rw [sessionOfCar, hcar, (r.inverse _ _).2 ⟨session, hsession, rfl⟩]
        exact hsession
    · exact ⟨device, (OrdMap.get?_set_of_ne _ _ hcar).trans hdevice, hpeer⟩
  | detachDevice carId peer => exact ⟨device, detachDevice_kept hafter hdevice, hpeer⟩
  | _ => exact hsame (perform_devices (by rintro _ _ _ ⟨⟩) (by rintro _ _ ⟨⟩))

/-- Every session that is live after a call is wired to its car's device. -/
theorem Wired.step (h : r.Wired) (hcall : r.Unreplaced call) : (r.perform call).1.Wired := by
  intro sessionId p hafter
  rcases parties_of_perform hafter with hp | hattached
  · exact h.perform hcall hp hafter
  · cases call with
    | attachBrowser session browser now =>
      rw [attached] at hattached
      split at hattached
      · next hattachable =>
        obtain ⟨device, hdevice, heq⟩ := Option.map_eq_some_iff.1 hattached
        obtain ⟨rfl, rfl⟩ := Prod.mk.inj heq
        obtain ⟨-, -, -, -, hdevices, -⟩ := attachBrowser_of session browser now hattachable
        exact ⟨device, hdevices.symm ▸ hdevice, rfl⟩
      · cases hattached
    | _ => cases hattached

/-! ## Who is told -/

/-- What a call sends for a live session goes to its two parties. -/
theorem sentFor_perform (hp : r.parties sessionId = some p) {peer : Peer}
    {message : ServerMessage} (hmem : (peer, message) ∈ sentFor sessionId (r.perform call).2) :
    peer = p.browser ∨ peer = p.device := by
  rcases r.perform_effect call sessionId with heffect | ⟨-, p', reason, hbefore, -, hsent⟩
  · cases heffect with
    | keep hsent hsession =>
      rw [hsent] at hmem
      cases hmem
    | pass p' other message' hbefore hafter hsent hpeer =>
      rw [hsent, List.mem_singleton, Prod.mk.injEq] at hmem
      obtain rfl := Option.some.inj (hp.symm.trans hbefore)
      exact hmem.1 ▸ hpeer
    | attach p' start hbefore hafter hsent =>
      rw [hp] at hbefore
      cases hbefore
    | finish p' reason toDevice hbefore hafter hsent =>
      obtain rfl := Option.some.inj (hp.symm.trans hbefore)
      rw [hsent, List.mem_append, List.mem_singleton] at hmem
      rcases hmem with hmem | heq
      · cases toDevice with
        | false => cases hmem
        | true => exact .inr (Prod.mk.inj (List.mem_singleton.1 hmem)).1
      · exact .inl (Prod.mk.inj heq).1
  · obtain rfl := Option.some.inj (hp.symm.trans hbefore)
    rw [hsent, List.mem_pair, or_self] at hmem
    exact .inl (Prod.mk.inj hmem).1

/-- A message that the browser relays goes to the session's device. -/
theorem relayFromBrowser_device {session : ActiveSession}
    (hlive : r.sessions.get? sessionId = some session) (message : RelayMessage)
    (h : (r.relayFromBrowser sessionId message).1 = true) :
    .send session.device (.relay message) ∈ (r.relayFromBrowser sessionId message).2.2 := by
  rcases relayFromBrowser_cases (r := r) sessionId message with heq | ⟨found, rfl, hfound, heq⟩
  · rw [heq] at h
    cases h
  · obtain rfl := Option.some.inj (hlive.symm.trans hfound)
    rw [heq]
    exact List.mem_cons_self

theorem detachBrowser_device {session : ActiveSession}
    (hlive : r.sessions.get? sessionId = some session) (reason : String) :
    .send session.device (endMessage sessionId reason) ∈ (r.detachBrowser sessionId reason).2 := by
  rw [detachBrowser, endSession_eq hlive]
  exact List.mem_cons_self

theorem sweep_device {session : ActiveSession}
    (hlive : r.sessions.get? sessionId = some session) {now : Int} {reason : String}
    (hexpiry : session.expiry now = some reason) :
    .send session.device (endMessage sessionId reason) ∈ (r.sweep now).2.2 := by
  have hsent := sentFor_sweep r sessionId now
  rw [hlive, Option.elim_some, hexpiry, Option.elim_some] at hsent
  exact send_mem_of_sentFor (hsent ▸ List.mem_cons_self)

end SessionRegistry

/-- A call of a run in which no device connection takes the place of a live session's. -/
def UnreplacedStep (run : RegistryRun) (call : RegistryCall) (after : RegistryRun) : Prop :=
  run.registry.Unreplaced call ∧ RegistryRun.Step run call after

/-- **Main result.** Where no device connection is replaced in a session, the peer that is attached
for the car of a live session is the one that gets what the browser relays and the session's end,
be it by the browser, by timeout or by expiry. -/
theorem ends_reach_device {calls : List RegistryCall} {run : RegistryRun}
    (h : Run UnreplacedStep .start calls run) {sessionId : Uuid} {session : ActiveSession}
    (hlive : run.registry.sessions.get? sessionId = some session) :
    ∃ device, run.registry.devicesByCar.get? session.carId = some device ∧
      (∀ call peer message, (peer, message) ∈ sentFor sessionId (run.registry.perform call).2 →
        peer = session.browser ∨ peer = device.peer) ∧
      (∀ message, (run.registry.relayFromBrowser sessionId message).1 = true →
        .send device.peer (.relay message) ∈
          (run.registry.relayFromBrowser sessionId message).2.2) ∧
      (∀ reason, .send device.peer (SessionRegistry.endMessage sessionId reason) ∈
        (run.registry.detachBrowser sessionId reason).2) ∧
      ∀ now reason, session.expiry now = some reason →
        .send device.peer (SessionRegistry.endMessage sessionId reason) ∈
          (run.registry.sweep now).2.2 := by
  have hwired : run.registry.Wired := by
    refine h.invariant (I := fun run => run.registry.Wired) nofun ?_
    rintro before _ call hbefore ⟨hcall, rfl⟩
    exact hbefore.step hcall
  have hp := SessionRegistry.parties_of_get? hlive
  obtain ⟨device, hdevice, hpeer⟩ := hwired sessionId session.parties hp
  obtain hpeer : device.peer = session.device := hpeer
  refine ⟨device, hdevice, ?_⟩
  rw [hpeer]
  refine ⟨?_, ?_, ?_, ?_⟩
  · intro call peer message hmem
    exact SessionRegistry.sentFor_perform hp hmem
  · exact SessionRegistry.relayFromBrowser_device hlive
  · exact SessionRegistry.detachBrowser_device hlive
  · intro now reason hexpiry
    exact SessionRegistry.sweep_device hlive hexpiry

/-- A drive that a second car's device joins in the middle of. -/
def otherCarCalls : List RegistryCall :=
  [.attachDevice 1 2 10, .attachBrowser demoSession 20 1000, .attachDevice 7 8 11]

theorem otherCarCalls_told :
    ∃ device, (RegistryRun.of otherCarCalls).registry.devicesByCar.get? 1 = some device ∧
      .send device.peer (SessionRegistry.endMessage 5 "connection timed out") ∈
        ((RegistryRun.of otherCarCalls).registry.sweep 21000).2.2 := by
  have hrun : Run UnreplacedStep .start otherCarCalls (RegistryRun.of otherCarCalls) := by
    refine .cons ⟨?_, rfl⟩ (.cons ⟨by rintro _ _ _ ⟨⟩, rfl⟩ (.cons ⟨?_, rfl⟩ .nil))
    · rintro _ _ _ ⟨⟩ session hsession
      cases hsession
    · rintro _ _ _ ⟨⟩ session hsession
      cases hsession
  have hlive : (RegistryRun.of otherCarCalls).registry.sessions.get? 5 = some
      { demoSession with browser := 20, device := 10, attachedAt := 1000, connectedAt := none } :=
    rfl
  obtain ⟨device, hdevice, -, -, -, hsweep⟩ := ends_reach_device hrun hlive
  exact ⟨device, hdevice, hsweep 21000 "connection timed out" rfl⟩

/-- The device of car 1 reconnects in a session, and the session's end goes to the connection that
it has lost. -/
theorem replaced_not_told :
    let r := (RegistryRun.of [.attachDevice 1 2 10, .attachBrowser demoSession 20 1000,
      .attachDevice 1 2 11]).registry
    r.devicesByCar.get? 1 = some ⟨2, 11⟩ ∧ r.sessionsByCar.get? 1 = some 5 ∧
      sentFor 5 (r.detachBrowser 5 "browser disconnected").2 =
        [(10, SessionRegistry.endMessage 5 "browser disconnected"),
          (20, SessionRegistry.endMessage 5 "browser disconnected")] ∧
      sentFor 5 (r.sweep 21000).2.2 =
        [(10, SessionRegistry.endMessage 5 "connection timed out"),
          (20, SessionRegistry.endMessage 5 "connection timed out")] := ⟨rfl, rfl, rfl, rfl⟩

end RcOnline.Gateway
