import RcOnline.Gateway.Protocol
import RcOnline.Lib.OrdMap

/-!
# The session registry

`SessionRegistry` (`apps/gateway/src/sessions.ts`): the device connection of each car, and the
browser sessions by their id and by their car. That the two maps of sessions are inverse to each
other is part of the type, so what is live is read off one of them (`hasActiveCar_iff`). An
operation gives back the registry and what it does to the peers, in order.
-/

namespace RcOnline.Gateway

open RcOnline.Lib RcOnline.Schema

/-- A peer is the socket that it writes to. -/
abbrev Peer := Nat

/-- `peer.send(message)` and `peer.close(code, reason)`. -/
inductive PeerAction where
  | send (peer : Peer) (message : ServerMessage)
  | close (peer : Peer) (code : Nat) (reason : String)
  deriving DecidableEq

def PeerAction.isOffer : PeerAction → Bool
  | .send _ message => message.isOffer
  | .close _ _ _ => false

structure BrowserSession where
  sessionId : Uuid
  carId : Uuid
  userId : Uuid
  expiresAt : Int
  iceServers : List IceServer
  deriving DecidableEq

structure DeviceConnection where
  deviceId : Uuid
  peer : Peer
  deriving DecidableEq

structure ActiveSession extends BrowserSession where
  browser : Peer
  device : Peer
  attachedAt : Int
  connectedAt : Option Int
  deriving DecidableEq

def connectionTimeoutMs : Int := 20000

/-- No connection was reported in time. -/
def ActiveSession.timedOut (session : ActiveSession) (now : Int) : Bool :=
  session.attachedAt + connectionTimeoutMs ≤ now

/-- Why a sweep ends a session, if it does. -/
def ActiveSession.expiry (session : ActiveSession) (now : Int) : Option String :=
  let driveExpired := decide (session.expiresAt ≤ now)
  let connectionExpired := session.connectedAt.isNone && session.timedOut now
  if driveExpired || connectionExpired then
    some (if connectionExpired then "connection timed out" else "session expired")
  else none

structure SessionRegistry where
  devicesByCar : OrdMap Uuid DeviceConnection
  sessions : OrdMap Uuid ActiveSession
  sessionsByCar : OrdMap Uuid Uuid
  /-- A car's session is one of its own, and every session is the one of its car. -/
  inverse : ∀ carId sessionId, sessionsByCar.get? carId = some sessionId ↔
    ∃ session, sessions.get? sessionId = some session ∧ session.carId = carId

namespace SessionRegistry

variable (r : SessionRegistry)

def empty : SessionRegistry where
  devicesByCar := ∅
  sessions := ∅
  sessionsByCar := ∅
  inverse := by simp

/-! ## Operations -/

def attachDevice (carId deviceId : Uuid) (peer : Peer) : SessionRegistry × List PeerAction :=
  ({ r with devicesByCar := r.devicesByCar.set carId { deviceId, peer } },
    match r.devicesByCar.get? carId with
    | some prior =>
      if prior.peer ≠ peer then [.close prior.peer 4409 "replaced by a new device connection"]
      else []
    | none => [])

theorem inverse_delete {sessionId : Uuid} {session : ActiveSession}
    (h : r.sessions.get? sessionId = some session) (carId other : Uuid) :
    (r.sessionsByCar.delete session.carId).get? carId = some other ↔
      ∃ s, (r.sessions.delete sessionId).get? other = some s ∧ s.carId = carId := by
  constructor
  · intro hget
    obtain ⟨hne, hget⟩ := OrdMap.get?_of_get?_delete hget
    obtain ⟨s, hs, hcar⟩ := (r.inverse carId other).1 hget
    refine ⟨s, ?_, hcar⟩
    rwa [OrdMap.get?_delete_of_ne]
    rintro rfl
    obtain rfl := Option.some.inj (h.symm.trans hs)
    exact hne hcar
  · rintro ⟨s, hget, rfl⟩
    obtain ⟨hne, hs⟩ := OrdMap.get?_of_get?_delete hget
    have hother := (r.inverse s.carId other).2 ⟨s, hs, rfl⟩
    rwa [OrdMap.get?_delete_of_ne]
    intro hcar
    have hsession := (r.inverse session.carId sessionId).2 ⟨session, h, rfl⟩
    rw [hcar, hother] at hsession
    exact hne (Option.some.inj hsession).symm

theorem inverse_set (session : ActiveSession) (hid : r.sessions.has session.sessionId = false)
    (hcar : r.sessionsByCar.has session.carId = false) (carId sessionId : Uuid) :
    (r.sessionsByCar.set session.carId session.sessionId).get? carId = some sessionId ↔
      ∃ s, (r.sessions.set session.sessionId session).get? sessionId = some s ∧
        s.carId = carId := by
  rw [OrdMap.has_eq_false_iff] at hid hcar
  simp only [OrdMap.get?_set]
  by_cases hsame : session.carId = carId
  · subst hsame
    rw [if_pos rfl]
    constructor
    · intro h
      obtain rfl := Option.some.inj h
      exact ⟨session, if_pos rfl, rfl⟩
    · rintro ⟨s, hs, hs'⟩
      split at hs
      · next h => exact congrArg some h
      · rw [(r.inverse session.carId sessionId).2 ⟨s, hs, hs'⟩] at hcar
        cases hcar
  · rw [if_neg hsame, r.inverse]
    refine exists_congr fun s => and_congr_left fun hs => ?_
    split
    · next h =>
      subst h
      rw [hid]
      refine ⟨nofun, fun heq => ?_⟩
      obtain rfl := Option.some.inj heq
      exact absurd hs hsame
    · exact Iff.rfl

/-- `end`: the session goes, and the browser hears of it, the device only when asked for. -/
def endSession (sessionId : Uuid) (reason : String) (notifyDevice : Bool) :
    SessionRegistry × List PeerAction :=
  match h : r.sessions.get? sessionId with
  | none => (r, [])
  | some session =>
    ({ r with
        sessions := r.sessions.delete sessionId
        sessionsByCar := r.sessionsByCar.delete session.carId
        inverse := r.inverse_delete h },
      (if notifyDevice then [.send session.device (.relay (.sessionEnd sessionId reason))]
        else []) ++
        [.send session.browser (.relay (.sessionEnd sessionId reason))])

/-- The session of the car goes with its device; its id is given back. -/
def detachDevice (carId : Uuid) (peer : Peer) :
    Option Uuid × SessionRegistry × List PeerAction :=
  match r.devicesByCar.get? carId with
  | none => (none, r, [])
  | some device =>
    if device.peer ≠ peer then (none, r, [])
    else
      let r' := { r with devicesByCar := r.devicesByCar.delete carId }
      match r.sessionsByCar.get? carId with
      | none => (none, r', [])
      | some sessionId => (some sessionId, r'.endSession sessionId "device disconnected" false)

def attachBrowser (session : BrowserSession) (browser : Peer) (now : Int) :
    Bool × SessionRegistry × List PeerAction :=
  if h : r.sessions.has session.sessionId = true ∨ r.sessionsByCar.has session.carId = true then
    (false, r, [])
  else
    match r.devicesByCar.get? session.carId with
    | none => (false, r, [])
    | some device =>
      let active : ActiveSession :=
        { session with browser, device := device.peer, attachedAt := now, connectedAt := none }
      let start : ServerMessage :=
        .sessionStart session.sessionId session.carId session.expiresAt session.iceServers
      (true,
        { r with
          sessions := r.sessions.set session.sessionId active
          sessionsByCar := r.sessionsByCar.set session.carId session.sessionId
          inverse := r.inverse_set active
            (Bool.eq_false_iff.2 fun hid => h (.inl hid))
            (Bool.eq_false_iff.2 fun hcar => h (.inr hcar)) },
        [.send device.peer start, .send browser start])

/-- What follows a message that was passed on: a `session.end` ends the session. -/
def afterRelay (message : RelayMessage) : SessionRegistry × List PeerAction :=
  match message with
  | .sessionEnd sessionId reason => r.endSession sessionId reason false
  | _ => (r, [])

def relayFromBrowser (sessionId : Uuid) (message : RelayMessage) :
    Bool × SessionRegistry × List PeerAction :=
  match r.sessions.get? sessionId with
  | none => (false, r, [])
  | some session =>
    match message with
    | .signalAnswer _ _ => (false, r, [])
    | message =>
      if message.sessionId ≠ sessionId then (false, r, [])
      else
        let (r', actions) := r.afterRelay message
        (true, r', .send session.device (.relay message) :: actions)

/-- The session of a car. -/
def sessionOfCar (carId : Uuid) : Option ActiveSession :=
  (r.sessionsByCar.get? carId).bind r.sessions.get?

def relayFromDevice (carId : Uuid) (message : RelayMessage) :
    Bool × SessionRegistry × List PeerAction :=
  match r.sessionOfCar carId with
  | none => (false, r, [])
  | some session =>
    match message with
    | .signalOffer _ _ => (false, r, [])
    | message =>
      if r.sessionsByCar.get? carId ≠ some message.sessionId then (false, r, [])
      else
        let (r', actions) := r.afterRelay message
        (true, r', .send session.browser (.relay message) :: actions)

def sendDeviceTelemetry (carId : Uuid) (batteryVoltage : Option Number)
    (batteryPercent : Option Int) : Bool × List PeerAction :=
  match r.sessionsByCar.get? carId, r.sessionOfCar carId with
  | some sessionId, some session =>
    (true, [.send session.browser (.deviceTelemetry sessionId batteryVoltage batteryPercent)])
  | _, _ => (false, [])

def detachBrowser (sessionId : Uuid) (reason : String) : SessionRegistry × List PeerAction :=
  r.endSession sessionId reason true

def hasActiveCar (carId : Uuid) : Bool := r.sessionsByCar.has carId

/-- A session is written over itself. -/
theorem inverse_replace {sessionId : Uuid} {session : ActiveSession} (session' : ActiveSession)
    (h : r.sessions.get? sessionId = some session) (hcar : session'.carId = session.carId)
    (carId other : Uuid) :
    r.sessionsByCar.get? carId = some other ↔
      ∃ s, (r.sessions.set sessionId session').get? other = some s ∧ s.carId = carId := by
  rw [r.inverse, OrdMap.get?_set]
  split
  · next heq =>
    subst heq
    simp only [h, Option.some.injEq, exists_eq_left', hcar]
  · exact Iff.rfl

def markConnected (sessionId : Uuid) (now : Int) : Bool × SessionRegistry :=
  match h : r.sessions.get? sessionId with
  | none => (false, r)
  | some session =>
    if session.timedOut now then (false, r)
    else
      let session' := { session with connectedAt := some (session.connectedAt.getD now) }
      (true,
        { r with
          sessions := r.sessions.set sessionId session'
          inverse := r.inverse_replace session' h rfl })

/-- One round of the sweep's loop. -/
def sweepSession (now : Int) (state : List Uuid × SessionRegistry × List PeerAction)
    (entry : Uuid × ActiveSession) : List Uuid × SessionRegistry × List PeerAction :=
  let (expired, r, actions) := state
  match entry.2.expiry now with
  | none => state
  | some reason =>
    let (r', actions') := r.endSession entry.1 reason true
    (expired ++ [entry.1], r', actions ++ actions')

def sweep (now : Int) : List Uuid × SessionRegistry × List PeerAction :=
  r.sessions.entries.foldl (sweepSession now) ([], r, [])

/-! ## What the operations leave -/

variable {r} {r' r'' : SessionRegistry}

theorem hasActiveCar_iff {carId : Uuid} :
    r.hasActiveCar carId = true ↔
      ∃ sessionId session, r.sessions.get? sessionId = some session ∧ session.carId = carId := by
  rw [hasActiveCar, OrdMap.has_iff]
  exact exists_congr fun sessionId => r.inverse carId sessionId

/-- Sessions may end, and nothing else happens that tells one peer from another. -/
structure Shrinks (r r' : SessionRegistry) : Prop where
  devices : r'.devicesByCar = r.devicesByCar
  sessions : ∀ sessionId session', r'.sessions.get? sessionId = some session' →
    ∃ session, r.sessions.get? sessionId = some session ∧ session'.browser = session.browser ∧
      session'.carId = session.carId

theorem Shrinks.refl (r : SessionRegistry) : Shrinks r r where
  devices := rfl
  sessions := fun _ session h => ⟨session, h, rfl, rfl⟩

theorem Shrinks.trans (h : Shrinks r r') (h' : Shrinks r' r'') : Shrinks r r'' where
  devices := h'.devices.trans h.devices
  sessions := by
    intro sessionId session'' hget
    obtain ⟨session', hget', hbrowser', hcar'⟩ := h'.sessions sessionId session'' hget
    obtain ⟨session, hget, hbrowser, hcar⟩ := h.sessions sessionId session' hget'
    exact ⟨session, hget, hbrowser'.trans hbrowser, hcar'.trans hcar⟩

theorem Shrinks.hasActiveCar (h : Shrinks r r') {carId : Uuid}
    (hactive : r'.hasActiveCar carId = true) : r.hasActiveCar carId = true := by
  obtain ⟨sessionId, session', hget, rfl⟩ := hasActiveCar_iff.1 hactive
  obtain ⟨session, hget, -, hcar⟩ := h.sessions sessionId session' hget
  exact hasActiveCar_iff.2 ⟨sessionId, session, hget, hcar.symm⟩

theorem endSession_get? (sessionId other : Uuid) (reason : String) (notifyDevice : Bool) :
    (r.endSession sessionId reason notifyDevice).1.sessions.get? other =
      if sessionId = other then none else r.sessions.get? other := by
  unfold endSession
  split
  · next hnone =>
    split
    · next heq => exact heq ▸ hnone
    · rfl
  · exact r.sessions.get?_delete sessionId other

theorem endSession_devices (sessionId : Uuid) (reason : String) (notifyDevice : Bool) :
    (r.endSession sessionId reason notifyDevice).1.devicesByCar = r.devicesByCar := by
  unfold endSession
  split <;> rfl

theorem endSession_shrinks (r : SessionRegistry) (sessionId : Uuid) (reason : String)
    (notifyDevice : Bool) : Shrinks r (r.endSession sessionId reason notifyDevice).1 where
  devices := endSession_devices sessionId reason notifyDevice
  sessions := by
    intro other session' hget
    rw [endSession_get?] at hget
    split at hget
    · cases hget
    · exact ⟨session', hget, rfl, rfl⟩

theorem afterRelay_shrinks (r : SessionRegistry) (message : RelayMessage) :
    Shrinks r (r.afterRelay message).1 := by
  unfold afterRelay
  split
  · exact endSession_shrinks r _ _ _
  · exact .refl r

theorem relayFromBrowser_shrinks (r : SessionRegistry) (sessionId : Uuid) (message : RelayMessage) :
    Shrinks r (r.relayFromBrowser sessionId message).2.1 := by
  unfold relayFromBrowser
  split
  · exact .refl r
  · split
    · exact .refl r
    · split
      · exact .refl r
      · exact afterRelay_shrinks r _

theorem relayFromDevice_shrinks (r : SessionRegistry) (carId : Uuid) (message : RelayMessage) :
    Shrinks r (r.relayFromDevice carId message).2.1 := by
  unfold relayFromDevice
  split
  · exact .refl r
  · split
    · exact .refl r
    · split
      · exact .refl r
      · exact afterRelay_shrinks r _

theorem markConnected_shrinks (r : SessionRegistry) (sessionId : Uuid) (now : Int) :
    Shrinks r (r.markConnected sessionId now).2 := by
  unfold markConnected
  split
  · exact .refl r
  · next session hsession =>
    split
    · exact .refl r
    · refine ⟨rfl, fun other session' hget => ?_⟩
      dsimp only at hget
      rw [OrdMap.get?_set] at hget
      split at hget
      · next heq =>
        subst heq
        obtain rfl := Option.some.inj hget
        exact ⟨session, hsession, rfl, rfl⟩
      · exact ⟨session', hget, rfl, rfl⟩

theorem sweepSession_shrinks (now : Int) (state : List Uuid × SessionRegistry × List PeerAction)
    (entry : Uuid × ActiveSession) :
    Shrinks state.2.1 (sweepSession now state entry).2.1 := by
  unfold sweepSession
  dsimp only
  split
  · exact .refl _
  · exact endSession_shrinks _ _ _ _

theorem sweep_shrinks (r : SessionRegistry) (now : Int) : Shrinks r (r.sweep now).2.1 := by
  refine List.foldlRecOn
    (motive := fun state : List Uuid × SessionRegistry × List PeerAction => Shrinks r state.2.1)
    _ _ (.refl r) ?_
  exact fun state h entry _ => h.trans (sweepSession_shrinks now state entry)

/-- A device connection goes with its car's session; the others stay. -/
theorem detachDevice_devices {carId other : Uuid} {peer : Peer} {device : DeviceConnection}
    (h : (r.detachDevice carId peer).2.1.devicesByCar.get? other = some device) :
    r.devicesByCar.get? other = some device ∧ (other = carId → device.peer ≠ peer) := by
  unfold detachDevice at h
  split at h
  · next hnone =>
    refine ⟨h, ?_⟩
    rintro rfl
    cases hnone.symm.trans h
  · next prior hprior =>
    split at h
    · next hpeer =>
      refine ⟨h, ?_⟩
      rintro rfl
      obtain rfl := Option.some.inj (hprior.symm.trans h)
      exact hpeer
    · have hdelete : (r.devicesByCar.delete carId).get? other = some device := by
        dsimp only at h
        split at h
        · exact h
        · dsimp only at h
          rwa [endSession_devices] at h
      obtain ⟨hne, hget⟩ := OrdMap.get?_of_get?_delete hdelete
      exact ⟨hget, fun heq => absurd heq.symm hne⟩

theorem detachDevice_sessions {carId sessionId : Uuid} {peer : Peer} {session : ActiveSession}
    (h : (r.detachDevice carId peer).2.1.sessions.get? sessionId = some session) :
    r.sessions.get? sessionId = some session := by
  unfold detachDevice at h
  split at h
  · exact h
  · split at h
    · exact h
    · dsimp only at h
      split at h
      · exact h
      · dsimp only at h
        rw [endSession_get?] at h
        split at h
        · cases h
        · exact h

/-- A browser can be attached: its session is new, its car is free and has a device. -/
def attachable (r : SessionRegistry) (sessionId carId : Uuid) : Bool :=
  !r.sessions.has sessionId && !r.sessionsByCar.has carId && r.devicesByCar.has carId

theorem attachBrowser_of_not {session : BrowserSession} {browser : Peer} {now : Int}
    (h : r.attachable session.sessionId session.carId = false) :
    r.attachBrowser session browser now = (false, r, []) := by
  unfold attachBrowser
  split
  · rfl
  · next hfree =>
    split
    · rfl
    · next device hdevice =>
      rw [not_or, Bool.not_eq_true, Bool.not_eq_true] at hfree
      have hhas : r.devicesByCar.has session.carId = true := OrdMap.has_iff.2 ⟨device, hdevice⟩
      rw [attachable, hfree.1, hfree.2, hhas] at h
      cases h

theorem attachBrowser_of (session : BrowserSession) (browser : Peer) (now : Int)
    (h : r.attachable session.sessionId session.carId = true) :
    ∃ active : ActiveSession, active.browser = browser ∧ active.carId = session.carId ∧
      (r.attachBrowser session browser now).1 = true ∧
      (r.attachBrowser session browser now).2.1.devicesByCar = r.devicesByCar ∧
      (r.attachBrowser session browser now).2.1.sessions =
        r.sessions.set session.sessionId active := by
  unfold attachable at h
  simp only [Bool.and_eq_true, Bool.not_eq_true'] at h
  obtain ⟨⟨hid, hcar⟩, hdevice⟩ := h
  obtain ⟨device, hdevice⟩ := OrdMap.has_iff.1 hdevice
  unfold attachBrowser
  rw [dif_neg (by simp [hid, hcar]), hdevice]
  exact ⟨_, rfl, rfl, rfl, rfl, rfl⟩

/-! ## No operation offers an update -/

variable (r)

theorem attachDevice_isOffer (carId deviceId : Uuid) (peer : Peer) :
    (r.attachDevice carId deviceId peer).2.any PeerAction.isOffer = false := by
  unfold attachDevice
  dsimp only
  split
  · split <;> rfl
  · rfl

theorem endSession_isOffer (sessionId : Uuid) (reason : String) (notifyDevice : Bool) :
    (r.endSession sessionId reason notifyDevice).2.any PeerAction.isOffer = false := by
  unfold endSession
  split
  · rfl
  · cases notifyDevice <;> rfl

theorem detachDevice_isOffer (carId : Uuid) (peer : Peer) :
    (r.detachDevice carId peer).2.2.any PeerAction.isOffer = false := by
  unfold detachDevice
  split
  · rfl
  · split
    · rfl
    · dsimp only
      split
      · rfl
      · exact endSession_isOffer _ _ _ _

theorem attachBrowser_isOffer (session : BrowserSession) (browser : Peer) (now : Int) :
    (r.attachBrowser session browser now).2.2.any PeerAction.isOffer = false := by
  unfold attachBrowser
  split
  · rfl
  · split <;> rfl

theorem afterRelay_isOffer (message : RelayMessage) :
    (r.afterRelay message).2.any PeerAction.isOffer = false := by
  unfold afterRelay
  split
  · exact endSession_isOffer _ _ _ _
  · rfl

theorem relayFromBrowser_isOffer (sessionId : Uuid) (message : RelayMessage) :
    (r.relayFromBrowser sessionId message).2.2.any PeerAction.isOffer = false := by
  unfold relayFromBrowser
  split
  · rfl
  · split
    · rfl
    · split
      · rfl
      · exact afterRelay_isOffer r _

theorem relayFromDevice_isOffer (carId : Uuid) (message : RelayMessage) :
    (r.relayFromDevice carId message).2.2.any PeerAction.isOffer = false := by
  unfold relayFromDevice
  split
  · rfl
  · split
    · rfl
    · split
      · rfl
      · exact afterRelay_isOffer r _

theorem sendDeviceTelemetry_isOffer (carId : Uuid) (batteryVoltage : Option Number)
    (batteryPercent : Option Int) :
    (r.sendDeviceTelemetry carId batteryVoltage batteryPercent).2.any PeerAction.isOffer =
      false := by
  unfold sendDeviceTelemetry
  split <;> rfl

theorem sweepSession_isOffer (now : Int) (state : List Uuid × SessionRegistry × List PeerAction)
    (entry : Uuid × ActiveSession) (h : state.2.2.any PeerAction.isOffer = false) :
    (sweepSession now state entry).2.2.any PeerAction.isOffer = false := by
  unfold sweepSession
  dsimp only
  split
  · exact h
  · dsimp only
    rw [List.any_append, h, endSession_isOffer, Bool.or_false]

theorem sweep_isOffer (now : Int) : (r.sweep now).2.2.any PeerAction.isOffer = false := by
  refine List.foldlRecOn
    (motive := fun state : List Uuid × SessionRegistry × List PeerAction =>
      state.2.2.any PeerAction.isOffer = false)
    _ _ rfl ?_
  exact fun state h entry _ => sweepSession_isOffer now state entry h

end SessionRegistry

end RcOnline.Gateway
