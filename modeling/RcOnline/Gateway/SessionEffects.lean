import RcOnline.Gateway.Sessions

/-!
# What an operation does to one session

Every operation of the session registry leaves a session alone, passes one message on to one of its
parties, attaches it or ends it (`Effect`), and sends no other message that carries its id. The
sweep is first put into closed form (`sweep_eq`). Ids are uuids, so the tests of the source for a
session id that is present never meet an empty text.
-/

namespace RcOnline.Gateway

open RcOnline.Lib RcOnline.Schema

/-! ## Messages of a session -/

/-- The session id that a message carries. -/
def ServerMessage.sessionId? : ServerMessage → Option Uuid
  | .sessionStart sessionId _ _ _ => some sessionId
  | .relay message => some message.sessionId
  | .deviceTelemetry sessionId _ _ => some sessionId
  | _ => none

/-- A relayed signal or telemetry. -/
def ServerMessage.passes : ServerMessage → Bool
  | .relay (.sessionEnd _ _) => false
  | .relay _ => true
  | .deviceTelemetry _ _ _ => true
  | _ => false

/-- A `session.start`. -/
def ServerMessage.isStart : ServerMessage → Bool
  | .sessionStart _ _ _ _ => true
  | _ => false

/-- A `session.end`. -/
def ServerMessage.isEnd : ServerMessage → Bool
  | .relay (.sessionEnd _ _) => true
  | _ => false

/-- What an action sends that carries a session id. -/
def PeerAction.sentFor? (sessionId : Uuid) : PeerAction → Option (Peer × ServerMessage)
  | .send peer message =>
    if message.sessionId? = some sessionId then some (peer, message) else none
  | .close _ _ _ => none

/-- The messages with a session id among some actions, with the peers they go to. -/
def sentFor (sessionId : Uuid) (actions : List PeerAction) : List (Peer × ServerMessage) :=
  actions.filterMap (PeerAction.sentFor? sessionId)

/-- The car of a session, and the peers that it pairs. -/
structure Parties where
  carId : Uuid
  browser : Peer
  device : Peer
  deriving DecidableEq

def ActiveSession.parties (session : ActiveSession) : Parties :=
  { carId := session.carId, browser := session.browser, device := session.device }

namespace SessionRegistry

def parties (r : SessionRegistry) (sessionId : Uuid) : Option Parties :=
  (r.sessions.get? sessionId).map ActiveSession.parties

/-- The message that ends a session. -/
abbrev endMessage (sessionId : Uuid) (reason : String) : ServerMessage :=
  .relay (.sessionEnd sessionId reason)

/-- What an operation does to a session and sends for it. -/
inductive Effect (r r' : SessionRegistry) (actions : List PeerAction) (sessionId : Uuid) :
    Prop where
  | keep (hsent : sentFor sessionId actions = [])
    (hsession : r'.parties sessionId = r.parties sessionId)
  | pass (p : Parties) (peer : Peer) (message : ServerMessage)
    (hbefore : r.parties sessionId = some p) (hafter : r'.parties sessionId = some p)
    (hsent : sentFor sessionId actions = [(peer, message)])
    (hpeer : peer = p.browser ∨ peer = p.device) (hpasses : message.passes = true)
  | attach (p : Parties) (start : ServerMessage)
    (hbefore : r.parties sessionId = none) (hafter : r'.parties sessionId = some p)
    (hsent : sentFor sessionId actions = [(p.device, start), (p.browser, start)])
    (hstart : start.isStart = true)
  | finish (p : Parties) (reason : String) (toDevice : Bool)
    (hbefore : r.parties sessionId = some p) (hafter : r'.parties sessionId = none)
    (hsent : sentFor sessionId actions =
      (if toDevice then [(p.device, endMessage sessionId reason)] else []) ++
        [(p.browser, endMessage sessionId reason)])

/-- A session ends and its browser hears of it twice. -/
def FinishesTwice (r r' : SessionRegistry) (actions : List PeerAction) (sessionId : Uuid) :
    Prop :=
  ∃ p reason, r.parties sessionId = some p ∧ r'.parties sessionId = none ∧
    sentFor sessionId actions =
      [(p.browser, endMessage sessionId reason), (p.browser, endMessage sessionId reason)]

variable {r : SessionRegistry} {sessionId : Uuid}

theorem Effect.refl (r : SessionRegistry) (sessionId : Uuid) : Effect r r [] sessionId :=
  .keep rfl rfl

@[simp] theorem sentFor_append (actions actions' : List PeerAction) :
    sentFor sessionId (actions ++ actions') =
      sentFor sessionId actions ++ sentFor sessionId actions' := List.filterMap_append

/-- A message that carries the id comes first. -/
theorem sentFor_send {peer : Peer} {message : ServerMessage} (actions : List PeerAction)
    (h : message.sessionId? = some sessionId) :
    sentFor sessionId (.send peer message :: actions) =
      (peer, message) :: sentFor sessionId actions := List.filterMap_cons_some (if_pos h)

theorem sentFor_send_of_ne {peer : Peer} {message : ServerMessage} (actions : List PeerAction)
    (h : message.sessionId? ≠ some sessionId) :
    sentFor sessionId (.send peer message :: actions) = sentFor sessionId actions :=
  List.filterMap_cons_none (if_neg h)

/-! ## The operations -/

theorem attachDevice_effect (carId deviceId : Uuid) (peer : Peer) :
    Effect r (r.attachDevice carId deviceId peer).1 (r.attachDevice carId deviceId peer).2
      sessionId := by
  refine .keep ?_ rfl
  unfold attachDevice
  dsimp only
  split
  · split <;> rfl
  · rfl

theorem endSession_eq {session : ActiveSession} (h : r.sessions.get? sessionId = some session)
    (reason : String) (notifyDevice : Bool) :
    (r.endSession sessionId reason notifyDevice).2 =
      (if notifyDevice then [.send session.device (endMessage sessionId reason)] else []) ++
        [.send session.browser (endMessage sessionId reason)] := by
  unfold endSession
  split
  · next hnone =>
    rw [h] at hnone
    cases hnone
  · next found hfound =>
    obtain rfl := Option.some.inj (h.symm.trans hfound)
    rfl

theorem endSession_none (h : r.sessions.get? sessionId = none) (reason : String)
    (notifyDevice : Bool) : r.endSession sessionId reason notifyDevice = (r, []) := by
  unfold endSession
  split
  · rfl
  · next hsome =>
    rw [h] at hsome
    cases hsome

theorem endSession_parties (sessionId other : Uuid) (reason : String) (notifyDevice : Bool) :
    (r.endSession sessionId reason notifyDevice).1.parties other =
      if sessionId = other then none else r.parties other := by
  rw [parties, endSession_get?]
  split <;> rfl

theorem sentFor_endSession {session : ActiveSession}
    (h : r.sessions.get? sessionId = some session) (reason : String) (notifyDevice : Bool) :
    sentFor sessionId (r.endSession sessionId reason notifyDevice).2 =
      (if notifyDevice then [(session.device, endMessage sessionId reason)] else []) ++
        [(session.browser, endMessage sessionId reason)] := by
  have hid : (endMessage sessionId reason).sessionId? = some sessionId := rfl
  rw [endSession_eq h, sentFor_append, sentFor_send [] hid]
  cases notifyDevice with
  | false => rfl
  | true => rw [if_pos rfl, if_pos rfl, sentFor_send [] hid]; rfl

theorem sentFor_endSession_of_ne {other : Uuid} (h : sessionId ≠ other) (reason : String)
    (notifyDevice : Bool) :
    sentFor other (r.endSession sessionId reason notifyDevice).2 = [] := by
  have hid : (endMessage sessionId reason).sessionId? ≠ some other :=
    fun heq => h (Option.some.inj heq)
  cases hget : r.sessions.get? sessionId with
  | none => rw [endSession_none hget]; rfl
  | some session =>
    rw [endSession_eq hget, sentFor_append, sentFor_send_of_ne [] hid]
    cases notifyDevice with
    | false => rfl
    | true => rw [if_pos rfl, sentFor_send_of_ne [] hid]; rfl

theorem endSession_effect (sessionId other : Uuid) (reason : String) (notifyDevice : Bool) :
    Effect r (r.endSession sessionId reason notifyDevice).1
      (r.endSession sessionId reason notifyDevice).2 other := by
  cases hget : r.sessions.get? sessionId with
  | none =>
    rw [endSession_none hget]
    exact .refl r other
  | some session =>
    by_cases hother : sessionId = other
    · subst hother
      refine .finish session.parties reason notifyDevice ?_ ?_ (sentFor_endSession hget _ _)
      · rw [parties, hget]
        rfl
      · rw [endSession_parties, if_pos rfl]
    · refine .keep (sentFor_endSession_of_ne hother _ _) ?_
      rw [endSession_parties, if_neg hother]

/-- Without its device connection a registry has the same sessions. -/
theorem Effect.of_sessions {r₁ r' : SessionRegistry} {actions : List PeerAction}
    (h : Effect r₁ r' actions sessionId) (hsessions : r₁.sessions = r.sessions) :
    Effect r r' actions sessionId := by
  have hparties : r₁.parties sessionId = r.parties sessionId := by rw [parties, hsessions, parties]
  cases h with
  | keep hsent hsession => exact .keep hsent (hsession.trans hparties)
  | pass p peer message hbefore hafter hsent hpeer hpasses =>
    exact .pass p peer message (hparties ▸ hbefore) hafter hsent hpeer hpasses
  | attach p start hbefore hafter hsent hstart =>
    exact .attach p start (hparties ▸ hbefore) hafter hsent hstart
  | finish p reason toDevice hbefore hafter hsent =>
    exact .finish p reason toDevice (hparties ▸ hbefore) hafter hsent

theorem detachDevice_effect (carId : Uuid) (peer : Peer) :
    Effect r (r.detachDevice carId peer).2.1 (r.detachDevice carId peer).2.2 sessionId := by
  unfold detachDevice
  split
  · exact .refl r sessionId
  · split
    · exact .refl r sessionId
    · dsimp only
      split
      · exact .keep rfl rfl
      · dsimp only
        exact (endSession_effect _ _ _ _).of_sessions rfl

theorem attachBrowser_effect (session : BrowserSession) (browser : Peer) (now : Int) :
    Effect r (r.attachBrowser session browser now).2.1 (r.attachBrowser session browser now).2.2
      sessionId := by
  unfold attachBrowser
  split
  · exact .refl r sessionId
  · next hfree =>
    split
    · exact .refl r sessionId
    · next device hdevice =>
      dsimp only
      by_cases hid : session.sessionId = sessionId
      · subst hid
        have hnone : r.sessions.get? session.sessionId = none := by
          rw [← OrdMap.has_eq_false_iff, Bool.eq_false_iff]
          exact fun h => hfree (.inl h)
        refine .attach ⟨session.carId, browser, device.peer⟩ _ ?_ ?_
          (by rw [sentFor_send _ rfl, sentFor_send _ rfl]; rfl) rfl
        · rw [parties, hnone]
          rfl
        · rw [parties, OrdMap.get?_set_self]
          rfl
      · have hne : (ServerMessage.sessionStart session.sessionId session.carId session.expiresAt
            session.iceServers).sessionId? ≠ some sessionId := fun h => hid (Option.some.inj h)
        refine .keep ?_ ?_
        · rw [sentFor_send_of_ne _ hne, sentFor_send_of_ne _ hne]
          rfl
        · rw [parties, OrdMap.get?_set_of_ne _ _ hid, parties]

theorem afterRelay_cases (message : RelayMessage) :
    (∃ reason, message = .sessionEnd message.sessionId reason ∧
      r.afterRelay message = r.endSession message.sessionId reason false) ∨
    ((ServerMessage.relay message).passes = true ∧ r.afterRelay message = (r, [])) := by
  cases message with
  | sessionEnd sessionId reason => exact .inl ⟨reason, rfl, rfl⟩
  | signalOffer sessionId sdp => exact .inr ⟨rfl, rfl⟩
  | signalAnswer sessionId sdp => exact .inr ⟨rfl, rfl⟩
  | signalIce sessionId candidate sdpMid sdpMLineIndex => exact .inr ⟨rfl, rfl⟩

/-- A message that is relayed to a party passes, or ends the session; an end that the browser gets
from its device it gets once more from the gateway. -/
theorem relay_effect {message : RelayMessage} {session : ActiveSession} {peer : Peer}
    (hsession : r.sessions.get? message.sessionId = some session)
    (hpeer : peer = session.browser ∨ peer = session.device) :
    Effect r (r.afterRelay message).1 (.send peer (.relay message) :: (r.afterRelay message).2)
        sessionId ∨
      (peer ≠ session.device ∧ (∃ reason, message = .sessionEnd sessionId reason) ∧
        FinishesTwice r (r.afterRelay message).1
          (.send peer (.relay message) :: (r.afterRelay message).2) sessionId) := by
  by_cases hid : message.sessionId = sessionId
  · subst hid
    have hparties : r.parties message.sessionId = some session.parties := by
      rw [parties, hsession]
      rfl
    rcases r.afterRelay_cases message with ⟨reason, hend, heq⟩ | ⟨hpasses, heq⟩
    · have hafter : (r.endSession message.sessionId reason false).1.parties message.sessionId =
          none := by
        rw [endSession_parties, if_pos rfl]
      have hsent : sentFor message.sessionId (.send peer (.relay message) ::
          (r.endSession message.sessionId reason false).2) =
          [(peer, endMessage message.sessionId reason),
            (session.browser, endMessage message.sessionId reason)] := by
        rw [sentFor_send _ rfl, sentFor_endSession hsession, endMessage, ← hend]
        rfl
      rw [heq]
      by_cases hdevice : peer = session.device
      · subst hdevice
        exact .inl (.finish session.parties reason true hparties hafter hsent)
      · obtain rfl := hpeer.resolve_right hdevice
        exact .inr ⟨hdevice, ⟨reason, hend⟩, session.parties, reason, hparties, hafter, hsent⟩
    · rw [heq]
      refine .inl (.pass session.parties peer _ hparties hparties ?_ hpeer hpasses)
      rw [sentFor_send _ rfl]
      rfl
  · have hne : (ServerMessage.relay message).sessionId? ≠ some sessionId :=
      fun h => hid (Option.some.inj h)
    left
    rcases r.afterRelay_cases message with ⟨reason, -, heq⟩ | ⟨-, heq⟩
    · rw [heq]
      refine .keep ?_ ?_
      · rw [sentFor_send_of_ne _ hne, sentFor_endSession_of_ne hid]
      · rw [endSession_parties, if_neg hid]
    · rw [heq]
      refine .keep ?_ rfl
      rw [sentFor_send_of_ne _ hne]
      rfl

/-- The session of a car, by its id. -/
theorem sessionOfCar_eq_some {carId : Uuid} {session : ActiveSession}
    (h : r.sessionOfCar carId = some session) :
    ∃ id, r.sessionsByCar.get? carId = some id ∧ r.sessions.get? id = some session :=
  Option.bind_eq_some_iff.1 h

/-- What a device's message does when it is let through. -/
theorem relayFromDevice_cases (carId : Uuid) (message : RelayMessage) :
    r.relayFromDevice carId message = (false, r, []) ∨
    ∃ session, r.sessionsByCar.get? carId = some message.sessionId ∧
      r.sessions.get? message.sessionId = some session ∧
      r.relayFromDevice carId message = (true, (r.afterRelay message).1,
        .send session.browser (.relay message) :: (r.afterRelay message).2) := by
  unfold relayFromDevice
  split
  · exact .inl rfl
  · next session hsession =>
    split
    · exact .inl rfl
    · split
      · exact .inl rfl
      · next hid =>
        obtain ⟨id, hcar, hget⟩ := sessionOfCar_eq_some hsession
        obtain rfl := Option.some.inj (hcar.symm.trans (not_not.1 hid))
        exact .inr ⟨session, hcar, hget, rfl⟩

/-- What a browser's message does when it is let through. -/
theorem relayFromBrowser_cases (id : Uuid) (message : RelayMessage) :
    r.relayFromBrowser id message = (false, r, []) ∨
    ∃ session, id = message.sessionId ∧ r.sessions.get? message.sessionId = some session ∧
      r.relayFromBrowser id message = (true, (r.afterRelay message).1,
        .send session.device (.relay message) :: (r.afterRelay message).2) := by
  unfold relayFromBrowser
  split
  · exact .inl rfl
  · next session hsession =>
    split
    · exact .inl rfl
    · split
      · exact .inl rfl
      · next hid =>
        obtain rfl := not_not.1 hid
        exact .inr ⟨session, rfl, hsession, rfl⟩

theorem sendDeviceTelemetry_effect (carId : Uuid) (batteryVoltage : Option Number)
    (batteryPercent : Option Int) :
    Effect r r (r.sendDeviceTelemetry carId batteryVoltage batteryPercent).2 sessionId := by
  unfold sendDeviceTelemetry
  split
  · next id session hcar hsession =>
    obtain ⟨id', hcar', hget⟩ := sessionOfCar_eq_some hsession
    obtain rfl := Option.some.inj (hcar.symm.trans hcar')
    by_cases hid : id = sessionId
    · subst hid
      have hparties : r.parties id = some session.parties := by
        rw [parties, hget]
        rfl
      refine .pass session.parties session.browser _ hparties hparties
        (by rw [sentFor_send _ rfl]; rfl) (.inl rfl) rfl
    · have hne : (ServerMessage.deviceTelemetry id batteryVoltage batteryPercent).sessionId? ≠
          some sessionId := fun h => hid (Option.some.inj h)
      refine .keep ?_ rfl
      rw [sentFor_send_of_ne _ hne]
      rfl
  · exact .refl r sessionId

theorem markConnected_effect (id : Uuid) (now : Int) :
    Effect r (r.markConnected id now).2 [] sessionId := by
  refine .keep rfl ?_
  unfold markConnected
  split
  · rfl
  · next session hsession =>
    split
    · rfl
    · rw [parties, parties, OrdMap.get?_set]
      split
      · next heq =>
        subst heq
        rw [hsession]
        rfl
      · rfl

/-! ## The sweep -/

/-- What a sweep sends for one entry. -/
def sweepActions (now : Int) (entry : Uuid × ActiveSession) : List PeerAction :=
  (entry.2.expiry now).elim [] fun reason =>
    [.send entry.2.device (endMessage entry.1 reason),
      .send entry.2.browser (endMessage entry.1 reason)]

/-- The ids of the entries that a sweep ends. -/
def sweepIds (now : Int) (entries : List (Uuid × ActiveSession)) : List Uuid :=
  (entries.filter fun entry => (entry.2.expiry now).isSome).map Prod.fst

/-- The loop over entries that the registry holds. -/
theorem sweep_fold (now : Int) {entries : List (Uuid × ActiveSession)}
    (hnd : (entries.map Prod.fst).Nodup) {r : SessionRegistry}
    (hget : ∀ e ∈ entries, r.sessions.get? e.1 = some e.2) (ids : List Uuid)
    (actions : List PeerAction) :
    (entries.foldl (sweepSession now) (ids, r, actions)).1 = ids ++ sweepIds now entries ∧
      (entries.foldl (sweepSession now) (ids, r, actions)).2.2 =
        actions ++ entries.flatMap (sweepActions now) ∧
      ∀ id, (entries.foldl (sweepSession now) (ids, r, actions)).2.1.sessions.get? id =
        if id ∈ sweepIds now entries then none else r.sessions.get? id := by
  induction entries generalizing r ids actions with
  | nil => simp [sweepIds]
  | cons entry entries ih =>
    rw [List.map_cons, List.nodup_cons] at hnd
    rw [List.foldl_cons, List.flatMap_cons]
    have hentry := hget entry List.mem_cons_self
    have hrest := fun e he => hget e (List.mem_cons_of_mem entry he)
    cases hexpiry : entry.2.expiry now with
    | none =>
      have hstep : sweepSession now (ids, r, actions) entry = (ids, r, actions) := by
        simp only [sweepSession, hexpiry]
      have hids : sweepIds now (entry :: entries) = sweepIds now entries := by
        rw [sweepIds, List.filter_cons_of_neg (by simp [hexpiry])]
        rfl
      rw [hstep, hids, sweepActions, hexpiry]
      exact ih hnd.2 hrest ids actions
    | some reason =>
      have hstep : sweepSession now (ids, r, actions) entry =
          (ids ++ [entry.1], (r.endSession entry.1 reason true).1,
            actions ++ (r.endSession entry.1 reason true).2) := by
        simp only [sweepSession, hexpiry]
      have hids : sweepIds now (entry :: entries) = entry.1 :: sweepIds now entries := by
        rw [sweepIds, List.filter_cons_of_pos (by simp [hexpiry])]
        rfl
      -- the other entries stay where they are
      have hothers : ∀ e ∈ entries,
          (r.endSession entry.1 reason true).1.sessions.get? e.1 = some e.2 := by
        intro e he
        rw [endSession_get?, if_neg, hrest e he]
        exact fun heq => hnd.1 (List.mem_map.2 ⟨e, he, heq.symm⟩)
      obtain ⟨hswept, hsent, hsessions⟩ := ih hnd.2 hothers (ids ++ [entry.1])
        (actions ++ (r.endSession entry.1 reason true).2)
      rw [hstep, hids]
      refine ⟨?_, ?_, fun id => ?_⟩
      · rw [hswept, List.append_assoc]
        rfl
      · rw [hsent, List.append_assoc, endSession_eq hentry, sweepActions, hexpiry]
        rfl
      · rw [hsessions, endSession_get?]
        by_cases hid : entry.1 = id
        · subst hid
          simp
        · simp only [hid, Ne.symm hid, List.mem_cons, false_or, if_false]

/-- A sweep ends the sessions that have expired, and tells both parties of each. -/
theorem sweep_eq (r : SessionRegistry) (now : Int) :
    (r.sweep now).1 = sweepIds now r.sessions.entries ∧
      (r.sweep now).2.2 = r.sessions.entries.flatMap (sweepActions now) ∧
      ∀ id, (r.sweep now).2.1.sessions.get? id =
        if id ∈ sweepIds now r.sessions.entries then none else r.sessions.get? id := by
  have h := sweep_fold now r.sessions.nodup (r := r)
    (fun e he => OrdMap.mem_entries_iff.1 he) [] []
  rw [List.nil_append, List.nil_append] at h
  exact h

theorem mem_sweepIds {now : Int} {id : Uuid} :
    id ∈ sweepIds now r.sessions.entries ↔
      ∃ session, r.sessions.get? id = some session ∧ (session.expiry now).isSome = true := by
  unfold sweepIds
  simp only [List.mem_map, List.mem_filter, Prod.exists, exists_and_right, exists_eq_right,
    OrdMap.mem_entries_iff]

/-- The sessions that a sweep leaves are those that have not expired. -/
theorem sweep_get? (r : SessionRegistry) (now : Int) (id : Uuid) :
    (r.sweep now).2.1.sessions.get? id =
      (r.sessions.get? id).filter fun session => (session.expiry now).isNone := by
  rw [(sweep_eq r now).2.2]
  simp only [mem_sweepIds]
  cases r.sessions.get? id with
  | none => simp
  | some session => cases hexpiry : session.expiry now <;> simp [Option.filter, hexpiry]

/-- What a sweep sends for a session. -/
theorem sentFor_sweep (r : SessionRegistry) (sessionId : Uuid) (now : Int) :
    sentFor sessionId (r.sweep now).2.2 =
      (r.sessions.get? sessionId).elim [] fun session =>
        (session.expiry now).elim [] fun reason =>
          [(session.device, endMessage sessionId reason),
            (session.browser, endMessage sessionId reason)] := by
  rw [(sweep_eq r now).2.1, sentFor, List.filterMap_flatMap]
  rw [r.sessions.flatMap_entries sessionId]
  · cases r.sessions.get? sessionId with
    | none => rfl
    | some session =>
      rw [Option.elim_some, Option.elim_some, sweepActions]
      cases session.expiry now with
      | none => rfl
      | some reason =>
        rw [Option.elim_some, Option.elim_some]
        have hid : (endMessage sessionId reason).sessionId? = some sessionId := rfl
        exact (sentFor_send _ hid).trans (congrArg _ ((sentFor_send _ hid).trans rfl))
  · intro entry _ hne
    rw [sweepActions]
    cases entry.2.expiry now with
    | none => rfl
    | some reason =>
      have hid : (endMessage entry.1 reason).sessionId? ≠ some sessionId :=
        fun h => hne (Option.some.inj h)
      exact (sentFor_send_of_ne _ hid).trans ((sentFor_send_of_ne _ hid).trans rfl)

theorem sweep_effect (now : Int) :
    Effect r (r.sweep now).2.1 (r.sweep now).2.2 sessionId := by
  have hsent := sentFor_sweep r sessionId now
  have hget := sweep_get? r now sessionId
  cases hsession : r.sessions.get? sessionId with
  | none =>
    rw [hsession] at hsent hget
    refine .keep hsent ?_
    rw [parties, hget, parties, hsession]
    rfl
  | some session =>
    rw [hsession] at hsent hget
    have hbefore : r.parties sessionId = some session.parties := by
      rw [parties, hsession]
      rfl
    cases hexpiry : session.expiry now with
    | none =>
      rw [Option.elim_some, hexpiry] at hsent
      refine .keep hsent ?_
      rw [parties, hget, Option.filter_some_pos (by rw [hexpiry]; rfl), hbefore]
      rfl
    | some reason =>
      rw [Option.elim_some, hexpiry] at hsent
      refine .finish session.parties reason true hbefore ?_ hsent
      rw [parties, hget, Option.filter_some_neg (by rw [hexpiry]; rfl)]
      rfl

end SessionRegistry

end RcOnline.Gateway
