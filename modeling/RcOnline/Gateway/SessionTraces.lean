import RcOnline.Gateway.SessionEffects
import RcOnline.Lib.Steps

/-!
# Runs of the session registry

A run of the registry's operations keeps a log of the browsers that were attached and of what was
sent. Every message of a session goes to the peers of its latest attachment (`registry_isolates`);
what each of them gets is one start, signals and one end at most (`session_traces`), as long as no
device ends a session by a message of its own.
-/

namespace RcOnline.Gateway

open RcOnline.Lib RcOnline.Schema

/-! ## Calls -/

inductive RegistryCall where
  | attachDevice (carId deviceId : Uuid) (peer : Peer)
  | detachDevice (carId : Uuid) (peer : Peer)
  | attachBrowser (session : BrowserSession) (browser : Peer) (now : Int)
  | relayFromBrowser (sessionId : Uuid) (message : RelayMessage)
  | relayFromDevice (carId : Uuid) (message : RelayMessage)
  | sendDeviceTelemetry (carId : Uuid) (batteryVoltage : Option Number)
    (batteryPercent : Option Int)
  | detachBrowser (sessionId : Uuid) (reason : String)
  | markConnected (sessionId : Uuid) (now : Int)
  | sweep (now : Int)

namespace SessionRegistry

/-- What a call leaves and does to the peers; its result is dropped. -/
def perform (r : SessionRegistry) : RegistryCall → SessionRegistry × List PeerAction
  | .attachDevice carId deviceId peer => r.attachDevice carId deviceId peer
  | .detachDevice carId peer => (r.detachDevice carId peer).2
  | .attachBrowser session browser now => (r.attachBrowser session browser now).2
  | .relayFromBrowser sessionId message => (r.relayFromBrowser sessionId message).2
  | .relayFromDevice carId message => (r.relayFromDevice carId message).2
  | .sendDeviceTelemetry carId batteryVoltage batteryPercent =>
    (r, (r.sendDeviceTelemetry carId batteryVoltage batteryPercent).2)
  | .detachBrowser sessionId reason => r.detachBrowser sessionId reason
  | .markConnected sessionId now => ((r.markConnected sessionId now).2, [])
  | .sweep now => (r.sweep now).2

/-- The session that a call attaches, with its parties. -/
def attached (r : SessionRegistry) : RegistryCall → Option (Uuid × Parties)
  | .attachBrowser session browser _ =>
    if r.attachable session.sessionId session.carId then
      (r.devicesByCar.get? session.carId).map fun device =>
        (session.sessionId, ⟨session.carId, browser, device.peer⟩)
    else none
  | _ => none

variable {r : SessionRegistry} {sessionId : Uuid}

/-- A session.end that the device of a live session sends. -/
def EndedByDevice (r : SessionRegistry) (call : RegistryCall) (sessionId : Uuid) : Prop :=
  ∃ carId reason, call = .relayFromDevice carId (.sessionEnd sessionId reason) ∧
    r.sessionsByCar.get? carId = some sessionId

theorem perform_effect (call : RegistryCall) (sessionId : Uuid) :
    Effect r (r.perform call).1 (r.perform call).2 sessionId ∨
      (r.EndedByDevice call sessionId ∧
        FinishesTwice r (r.perform call).1 (r.perform call).2 sessionId) := by
  cases call with
  | attachDevice carId deviceId peer => exact .inl (attachDevice_effect carId deviceId peer)
  | detachDevice carId peer => exact .inl (detachDevice_effect carId peer)
  | attachBrowser session browser now => exact .inl (attachBrowser_effect session browser now)
  | relayFromBrowser id message =>
    rcases relayFromBrowser_cases (r := r) id message with heq | ⟨session, -, hget, heq⟩
    · left
      rw [perform, heq]
      exact .refl r sessionId
    · left
      rw [perform, heq]
      exact (relay_effect hget (.inr rfl)).resolve_right fun htwice => htwice.1 rfl
  | relayFromDevice carId message =>
    rcases relayFromDevice_cases (r := r) carId message with heq | ⟨session, hcar, hget, heq⟩
    · left
      rw [perform, heq]
      exact .refl r sessionId
    · rw [perform, heq]
      refine (relay_effect hget (.inl rfl)).imp_right fun htwice => ?_
      obtain ⟨-, ⟨reason, rfl⟩, htwice⟩ := htwice
      exact ⟨⟨carId, reason, rfl, hcar⟩, htwice⟩
  | sendDeviceTelemetry carId batteryVoltage batteryPercent =>
    exact .inl (sendDeviceTelemetry_effect carId batteryVoltage batteryPercent)
  | detachBrowser id reason => exact .inl (endSession_effect id sessionId reason true)
  | markConnected id now => exact .inl (markConnected_effect id now)
  | sweep now => exact .inl (sweep_effect now)

theorem attachBrowser_attached (session : BrowserSession) (browser : Peer) (now : Int)
    (h : r.attachable session.sessionId session.carId = true) :
    ∃ device, r.devicesByCar.get? session.carId = some device ∧
      r.parties session.sessionId = none ∧
      ∀ other, (r.attachBrowser session browser now).2.1.parties other =
        if session.sessionId = other then some ⟨session.carId, browser, device.peer⟩
        else r.parties other := by
  unfold attachable at h
  simp only [Bool.and_eq_true, Bool.not_eq_true'] at h
  obtain ⟨⟨hid, hcar⟩, hdevice⟩ := h
  obtain ⟨device, hdevice⟩ := OrdMap.has_iff.1 hdevice
  refine ⟨device, hdevice, ?_, fun other => ?_⟩
  · rw [parties, OrdMap.has_eq_false_iff.1 hid]
    rfl
  · unfold attachBrowser
    rw [dif_neg (by simp [hid, hcar]), hdevice]
    dsimp only
    rw [parties, OrdMap.get?_set]
    split <;> rfl

/-- Where sessions only go, none is brought to life. -/
theorem Shrinks.parties {r' : SessionRegistry} (h : Shrinks r r')
    (hnone : r.parties sessionId = none) : r'.parties sessionId = none := by
  rw [SessionRegistry.parties, Option.map_eq_none_iff] at hnone ⊢
  rw [Option.eq_none_iff_forall_ne_some]
  intro session' hget
  obtain ⟨session, hget, -⟩ := h.sessions sessionId session' hget
  rw [hnone] at hget
  cases hget

/-- Any other call brings no session to life. -/
theorem parties_of_other {call : RegistryCall}
    (hcall : ∀ session browser now, call ≠ .attachBrowser session browser now)
    (hnone : r.parties sessionId = none) : (r.perform call).1.parties sessionId = none := by
  cases call with
  | attachDevice carId deviceId peer => exact hnone
  | detachDevice carId peer =>
    have hnone' : r.sessions.get? sessionId = none := Option.map_eq_none_iff.1 hnone
    refine Option.map_eq_none_iff.2 (Option.eq_none_iff_forall_ne_some.2 fun session hget => ?_)
    rw [detachDevice_sessions hget] at hnone'
    cases hnone'
  | attachBrowser session browser now => exact absurd rfl (hcall session browser now)
  | relayFromBrowser id message => exact (relayFromBrowser_shrinks r id message).parties hnone
  | relayFromDevice carId message => exact (relayFromDevice_shrinks r carId message).parties hnone
  | sendDeviceTelemetry carId batteryVoltage batteryPercent => exact hnone
  | detachBrowser id reason => exact (endSession_shrinks r id reason true).parties hnone
  | markConnected id now => exact (markConnected_shrinks r id now).parties hnone
  | sweep now => exact (sweep_shrinks r now).parties hnone

/-- The session that a call attaches is the one that it brings to life. -/
theorem attached_iff {call : RegistryCall} {p : Parties} :
    r.attached call = some (sessionId, p) ↔
      r.parties sessionId = none ∧ (r.perform call).1.parties sessionId = some p := by
  cases call with
  | attachBrowser session browser now =>
    rw [attached, perform]
    cases hattachable : r.attachable session.sessionId session.carId with
    | false =>
      rw [attachBrowser_of_not hattachable, if_neg Bool.false_ne_true]
      refine iff_of_false nofun ?_
      rintro ⟨hnone, hsome⟩
      rw [hnone] at hsome
      cases hsome
    | true =>
      obtain ⟨device, hdevice, hfree, hparties⟩ :=
        attachBrowser_attached session browser now hattachable
      rw [if_pos rfl, hdevice, hparties, Option.map_some, Option.some.injEq, Prod.mk.injEq]
      constructor
      · rintro ⟨rfl, rfl⟩
        exact ⟨hfree, if_pos rfl⟩
      · rintro ⟨hnone, hsome⟩
        split at hsome
        · next hid => exact ⟨hid, Option.some.inj hsome⟩
        · rw [hnone] at hsome
          cases hsome
  | _ =>
    refine iff_of_false nofun ?_
    rintro ⟨hnone, hsome⟩
    rw [parties_of_other (by rintro _ _ _ ⟨⟩) hnone] at hsome
    cases hsome

end SessionRegistry

/-! ## Runs -/

/-- A run is judged by the sessions that are attached and by what is sent and closed. -/
inductive RegistryEntry where
  | attached (sessionId : Uuid) (p : Parties)
  | action (action : PeerAction)

structure RegistryRun where
  registry : SessionRegistry
  log : List RegistryEntry

namespace RegistryRun

def start : RegistryRun := { registry := .empty, log := [] }

/-- The entry of the session that a call attaches. -/
def attachment (r : SessionRegistry) (call : RegistryCall) : List RegistryEntry :=
  (r.attached call).toList.map fun attached => .attached attached.1 attached.2

def call (run : RegistryRun) (call : RegistryCall) : RegistryRun :=
  { registry := (run.registry.perform call).1
    log := run.log ++ attachment run.registry call ++
      (run.registry.perform call).2.map RegistryEntry.action }

/-- A step of a run. -/
def Step (run : RegistryRun) (call : RegistryCall) (after : RegistryRun) : Prop :=
  after = run.call call

/-- The run of some calls. -/
def of (calls : List RegistryCall) : RegistryRun := calls.foldl RegistryRun.call start

theorem run_of (calls : List RegistryCall) : Run Step start calls (of calls) :=
  run_foldl RegistryRun.call start calls

end RegistryRun

/-! ## What a log says of a session -/

section log

variable (sessionId : Uuid)

/-- The parties of every attachment. -/
def attachments (log : List RegistryEntry) : List Parties :=
  log.filterMap fun entry =>
    match entry with
    | .attached id p => if id = sessionId then some p else none
    | .action _ => none

/-- The messages of the session, with the peers they were sent to. -/
def sent (log : List RegistryEntry) : List (Peer × ServerMessage) :=
  log.filterMap fun entry =>
    match entry with
    | .attached _ _ => none
    | .action action => action.sentFor? sessionId

/-- The peers that a start of the session was sent to. -/
def starts (log : List RegistryEntry) : List Peer :=
  ((sent sessionId log).filter (·.2.isStart)).map Prod.fst

/-- The messages of the session that a peer was sent. -/
def trace (peer : Peer) (log : List RegistryEntry) : List ServerMessage :=
  ((sent sessionId log).filter (·.1 = peer)).map Prod.snd

/-- An action that sends a message of the session sends it to a party of its latest attachment. -/
def Isolated (before : List RegistryEntry) (entry : RegistryEntry) : Prop :=
  ∀ peer message, entry = .action (.send peer message) → message.sessionId? = some sessionId →
    ∃ p, (attachments sessionId before).getLast? = some p ∧ (peer = p.browser ∨ peer = p.device)

variable {sessionId} {run : RegistryRun} {call : RegistryCall}

theorem attachments_append (log log' : List RegistryEntry) :
    attachments sessionId (log ++ log') = attachments sessionId log ++ attachments sessionId log' :=
  List.filterMap_append

theorem attachments_actions (actions : List PeerAction) :
    attachments sessionId (actions.map .action) = [] := by
  unfold attachments
  rw [List.filterMap_map, List.filterMap_eq_nil_iff]
  exact fun _ _ => rfl

/-- What a call adds to the attachments of a session. -/
theorem attachments_call :
    attachments sessionId (run.call call).log = attachments sessionId run.log ++
      attachments sessionId (RegistryRun.attachment run.registry call) := by
  rw [RegistryRun.call, attachments_append, attachments_append, attachments_actions,
    List.append_nil]

/-- What a call adds to the messages of a session. -/
theorem sent_call :
    sent sessionId (run.call call).log = sent sessionId run.log ++
      sentFor sessionId (run.registry.perform call).2 := by
  have hattachment : sent sessionId (RegistryRun.attachment run.registry call) = [] := by
    unfold sent RegistryRun.attachment
    rw [List.filterMap_map, List.filterMap_eq_nil_iff]
    exact fun _ _ => rfl
  unfold sent at hattachment ⊢
  rw [RegistryRun.call, List.filterMap_append, List.filterMap_append, hattachment,
    List.append_nil, List.filterMap_map]
  rfl

/-- A session that a call attaches. -/
theorem attachment_of {r : SessionRegistry} {p : Parties} (hnone : r.parties sessionId = none)
    (hsome : (r.perform call).1.parties sessionId = some p) :
    attachments sessionId (RegistryRun.attachment r call) = [p] := by
  rw [RegistryRun.attachment, SessionRegistry.attached_iff.2 ⟨hnone, hsome⟩]
  exact List.filterMap_cons_some (if_pos rfl)

/-- A session that a call does not attach. -/
theorem attachment_of_not {r : SessionRegistry}
    (h : r.parties sessionId = none → (r.perform call).1.parties sessionId = none) :
    attachments sessionId (RegistryRun.attachment r call) = [] := by
  rw [RegistryRun.attachment]
  cases hattached : r.attached call with
  | none => rfl
  | some attached =>
    obtain ⟨id, p⟩ := attached
    refine List.filterMap_cons_none (if_neg ?_)
    rintro rfl
    obtain ⟨hnone, hsome⟩ := SessionRegistry.attached_iff.1 hattached
    rw [h hnone] at hsome
    cases hsome

theorem mem_sentFor {actions : List PeerAction} {peer : Peer} {message : ServerMessage}
    (h : .send peer message ∈ actions) (hid : message.sessionId? = some sessionId) :
    (peer, message) ∈ sentFor sessionId actions :=
  List.mem_filterMap.2 ⟨_, h, if_pos hid⟩

theorem send_mem_of_sentFor {actions : List PeerAction} {peer : Peer} {message : ServerMessage}
    (h : (peer, message) ∈ sentFor sessionId actions) : .send peer message ∈ actions := by
  obtain ⟨action, hmem, hsent⟩ := List.mem_filterMap.1 h
  cases action with
  | send other message' =>
    rw [PeerAction.sentFor?, Option.ite_none_right_eq_some, Option.some.injEq] at hsent
    obtain ⟨rfl, rfl⟩ := Prod.mk.inj hsent.2
    exact hmem
  | close other code reason => cases hsent

theorem isolated_call (h : Each (Isolated sessionId) run.log)
    (hsent : ∀ peer message, (peer, message) ∈ sentFor sessionId (run.registry.perform call).2 →
      ∃ p, (attachments sessionId (run.call call).log).getLast? = some p ∧
        (peer = p.browser ∨ peer = p.device)) :
    Each (Isolated sessionId) (run.call call).log := by
  refine (h.append ?_).append ?_
  · rintro before entry after heq peer message rfl
    have hmem : .action (.send peer message) ∈ RegistryRun.attachment run.registry call :=
      heq ▸ List.mem_append_right _ List.mem_cons_self
    obtain ⟨_, -, hentry⟩ := List.mem_map.1 hmem
    cases hentry
  · rintro before entry after heq peer message rfl hid
    obtain ⟨first, rest, hactions, rfl, hrest⟩ := List.map_eq_append_iff.1 heq
    obtain ⟨action, rest, rfl, haction, -⟩ := List.map_eq_cons_iff.1 hrest
    obtain rfl := RegistryEntry.action.inj haction
    have hmem : .send peer message ∈ (run.registry.perform call).2 :=
      hactions ▸ List.mem_append_right first List.mem_cons_self
    have h := hsent peer message (mem_sentFor hmem hid)
    rwa [RegistryRun.call, attachments_append, attachments_actions, ← attachments_actions first,
      ← attachments_append] at h

/-! ## Isolation -/

/-- What a run keeps for a session. -/
structure Isolates (sessionId : Uuid) (run : RegistryRun) : Prop where
  paired : ∀ p, run.registry.parties sessionId = some p →
    (attachments sessionId run.log).getLast? = some p
  isolated : Each (Isolated sessionId) run.log
  started : starts sessionId run.log =
    (attachments sessionId run.log).flatMap fun p => [p.device, p.browser]

/-- A call that starts nothing and sends to the parties of a live session only. -/
theorem Isolates.unattached (h : Isolates sessionId run)
    (hparties : ∀ p, (run.call call).registry.parties sessionId = some p →
      run.registry.parties sessionId = some p)
    (hsent : ∀ peer message, (peer, message) ∈ sentFor sessionId (run.registry.perform call).2 →
      message.isStart = false ∧ ∃ p, run.registry.parties sessionId = some p ∧
        (peer = p.browser ∨ peer = p.device)) :
    Isolates sessionId (run.call call) := by
  have hattachments :
      attachments sessionId (run.call call).log = attachments sessionId run.log := by
    rw [attachments_call, attachment_of_not, List.append_nil]
    intro hnone
    rw [Option.eq_none_iff_forall_ne_some]
    intro p hsome
    rw [hparties p hsome] at hnone
    cases hnone
  refine ⟨fun p hp => ?_, isolated_call h.isolated fun peer message hmem => ?_, ?_⟩
  · rw [hattachments]
    exact h.paired p (hparties p hp)
  · obtain ⟨-, p, hp, hpeer⟩ := hsent peer message hmem
    rw [hattachments]
    exact ⟨p, h.paired p hp, hpeer⟩
  · have hnone : (sentFor sessionId (run.registry.perform call).2).filter (·.2.isStart) = [] := by
      rw [List.filter_eq_nil_iff]
      rintro ⟨peer, message⟩ hmem
      rw [(hsent peer message hmem).1]
      exact Bool.false_ne_true
    rw [starts, sent_call, List.filter_append, hnone, List.append_nil,
      hattachments]
    exact h.started

/-- A call that ends the session. -/
theorem Isolates.finished (h : Isolates sessionId run) {p : Parties} (reason : String)
    (hbefore : run.registry.parties sessionId = some p)
    (hafter : (run.call call).registry.parties sessionId = none)
    (hsent : ∀ sent ∈ sentFor sessionId (run.registry.perform call).2,
      sent = (p.browser, SessionRegistry.endMessage sessionId reason) ∨
        sent = (p.device, SessionRegistry.endMessage sessionId reason)) :
    Isolates sessionId (run.call call) := by
  apply h.unattached
  · intro p' hp'
    rw [hafter] at hp'
    cases hp'
  · intro peer message hmem
    rcases hsent _ hmem with heq | heq <;> obtain ⟨rfl, rfl⟩ := Prod.mk.inj heq
    · exact ⟨rfl, p, hbefore, .inl rfl⟩
    · exact ⟨rfl, p, hbefore, .inr rfl⟩

theorem passes_isStart {message : ServerMessage} (h : message.passes = true) :
    message.isStart = false := by
  cases message with
  | sessionStart => cases h
  | _ => rfl

theorem Isolates.step (h : Isolates sessionId run) (call : RegistryCall) :
    Isolates sessionId (run.call call) := by
  rcases run.registry.perform_effect call sessionId with
    heffect | ⟨-, p, reason, hbefore, hafter, hsent⟩
  · cases heffect with
    | keep hsent hsession =>
      apply h.unattached
      · intro p hp
        rwa [← hsession]
      · rw [hsent]
        nofun
    | pass p peer message hbefore hafter hsent hpeer hpasses =>
      apply h.unattached
      · intro p' hp'
        rw [hbefore, ← hafter]
        exact hp'
      · intro peer' message' hmem
        rw [hsent, List.mem_singleton, Prod.mk.injEq] at hmem
        obtain ⟨rfl, rfl⟩ := hmem
        exact ⟨passes_isStart hpasses, p, hbefore, hpeer⟩
    | attach p start hbefore hafter hsent hstart =>
      have hattachments : attachments sessionId (run.call call).log =
          attachments sessionId run.log ++ [p] := by
        rw [attachments_call, attachment_of hbefore hafter]
      have hlast : (attachments sessionId (run.call call).log).getLast? = some p := by
        rw [hattachments, List.getLast?_concat]
      refine ⟨fun p' hp' => ?_, isolated_call h.isolated fun peer message hmem => ?_, ?_⟩
      · rw [hlast, ← hp']
        exact hafter.symm
      · refine ⟨p, hlast, ?_⟩
        rw [hsent, List.mem_pair, Prod.mk.injEq, Prod.mk.injEq] at hmem
        exact hmem.symm.imp And.left And.left
      · rw [starts, sent_call, hsent, hattachments, List.filter_append, List.map_append,
          List.flatMap_append, ← h.started]
        simp [starts, hstart]
    | finish p reason toDevice hbefore hafter hsent =>
      refine h.finished reason hbefore hafter fun sent hmem => ?_
      rw [hsent, List.mem_append, List.mem_singleton] at hmem
      refine hmem.symm.imp_right fun hmem => ?_
      cases toDevice with
      | false => cases hmem
      | true => exact List.mem_singleton.1 hmem
  · refine h.finished reason hbefore hafter fun sent hmem => ?_
    rw [hsent, List.mem_pair, or_self] at hmem
    exact .inl hmem

end log

/-- **Main result.** In every run a session is recorded for its own car, each car has one session at
most, every message of a session goes to a peer of its latest attachment, and each attachment sends
one start to its device and one to its browser. -/
theorem registry_isolates {calls : List RegistryCall} {run : RegistryRun}
    (h : Run RegistryRun.Step .start calls run) :
    (∀ carId sessionId, run.registry.sessionsByCar.get? carId = some sessionId ↔
      ∃ session, run.registry.sessions.get? sessionId = some session ∧ session.carId = carId) ∧
    (∀ id session id' session', run.registry.sessions.get? id = some session →
      run.registry.sessions.get? id' = some session' → session.carId = session'.carId →
      id = id') ∧
    ∀ sessionId, Each (Isolated sessionId) run.log ∧
      starts sessionId run.log =
        (attachments sessionId run.log).flatMap fun p => [p.device, p.browser] := by
  refine ⟨run.registry.inverse, ?_, fun sessionId => ?_⟩
  · intro id session id' session' hget hget' hcar
    have h := (run.registry.inverse session.carId id).2 ⟨session, hget, rfl⟩
    rw [(run.registry.inverse session.carId id').2 ⟨session', hget', hcar.symm⟩] at h
    exact (Option.some.inj h).symm
  · have hisolates : Isolates sessionId run := by
      refine h.invariant ⟨nofun, .nil, rfl⟩ ?_
      rintro before _ call hbefore rfl
      exact hbefore.step call
    exact ⟨hisolates.isolated, hisolates.started⟩

def demoSession : BrowserSession :=
  { sessionId := 5, carId := 1, userId := 4, expiresAt := 300000, iceServers := [] }

/-- A drive from its start to its expiry. -/
def driveCalls : List RegistryCall :=
  [.attachDevice 1 2 10, .attachBrowser demoSession 20 1000,
    .relayFromBrowser 5 (.signalOffer 5 "offer"), .relayFromDevice 1 (.signalAnswer 5 "answer"),
    .markConnected 5 2000, .sendDeviceTelemetry 1 none none, .sweep 300000]

theorem driveCalls_isolated :
    attachments 5 (RegistryRun.of driveCalls).log = [⟨1, 20, 10⟩] ∧
      starts 5 (RegistryRun.of driveCalls).log =
        (attachments 5 (RegistryRun.of driveCalls).log).flatMap fun p =>
          [p.device, p.browser] :=
  ⟨rfl, ((registry_isolates (RegistryRun.run_of driveCalls)).2.2 5).2⟩

/-! ## The trace of each party -/

/-- Signals and telemetry, and one end at most. -/
def endsOnce : List ServerMessage → Bool
  | [] => true
  | [message] => message.passes || message.isEnd
  | message :: rest => message.passes && endsOnce rest

/-- What a party of a session should get. -/
def isSessionTrace : List ServerMessage → Bool
  | [] => false
  | start :: rest => start.isStart && endsOnce rest

/-- What a party of a live session has got. -/
def Open (messages : List ServerMessage) : Prop :=
  ∃ start signals, messages = start :: signals ∧ start.isStart = true ∧
    ∀ message ∈ signals, message.passes = true

theorem endsOnce_passing {signals last : List ServerMessage}
    (hsignals : ∀ message ∈ signals, message.passes = true) (hlast : endsOnce last = true) :
    endsOnce (signals ++ last) = true := by
  induction signals with
  | nil => exact hlast
  | cons message signals ih =>
    have hmessage := hsignals message List.mem_cons_self
    have hrest := ih fun m hm => hsignals m (List.mem_cons_of_mem message hm)
    rw [List.cons_append]
    cases hmore : signals ++ last with
    | nil => rw [endsOnce, hmessage, Bool.true_or]
    | cons next more => rw [endsOnce, hmessage, ← hmore, hrest, Bool.and_self]; exact nofun

theorem Open.isSessionTrace {messages last : List ServerMessage} (h : Open messages)
    (hlast : endsOnce last = true) : isSessionTrace (messages ++ last) = true := by
  obtain ⟨start, signals, rfl, hstart, hsignals⟩ := h
  rw [List.cons_append, RcOnline.Gateway.isSessionTrace, hstart, endsOnce_passing hsignals hlast]
  rfl

theorem Open.snoc {messages : List ServerMessage} {message : ServerMessage} (h : Open messages)
    (hpasses : message.passes = true) : Open (messages ++ [message]) := by
  obtain ⟨start, signals, rfl, hstart, hsignals⟩ := h
  refine ⟨start, signals ++ [message], rfl, hstart, fun m hm => ?_⟩
  rcases List.mem_append.1 hm with hm | hm
  · exact hsignals m hm
  · rwa [List.mem_singleton.1 hm]

section traces

variable {sessionId : Uuid} {run : RegistryRun} {call : RegistryCall}

theorem trace_call (peer : Peer) :
    trace sessionId peer (run.call call).log = trace sessionId peer run.log ++
      ((sentFor sessionId (run.registry.perform call).2).filter (·.1 = peer)).map Prod.snd := by
  rw [trace, sent_call, List.filter_append, List.map_append]
  rfl

/-- How far a session is that is attached once. -/
inductive Traced (sessionId : Uuid) (run : RegistryRun) : Prop where
  | unused (hattachments : attachments sessionId run.log = [])
    (hsession : run.registry.parties sessionId = none) (hsent : sent sessionId run.log = [])
  | live (p : Parties) (hattachments : attachments sessionId run.log = [p])
    (hpeers : p.browser ≠ p.device) (hsession : run.registry.parties sessionId = some p)
    (hbrowser : Open (trace sessionId p.browser run.log))
    (hdevice : Open (trace sessionId p.device run.log))
  | finished (p : Parties) (hattachments : attachments sessionId run.log = [p])
    (hpeers : p.browser ≠ p.device) (hsession : run.registry.parties sessionId = none)
    (hbrowser : isSessionTrace (trace sessionId p.browser run.log) = true)
    (hdevice : isSessionTrace (trace sessionId p.device run.log) = true)

/-- A browser and a device of their own for a session that is new, and no end from the device. -/
def Tidy (run : RegistryRun) (call : RegistryCall) : Prop :=
  (∀ sessionId p, run.registry.attached call = some (sessionId, p) →
    attachments sessionId run.log = [] ∧ p.browser ≠ p.device) ∧
  ∀ sessionId, ¬ run.registry.EndedByDevice call sessionId

/-- A call that attaches nothing leaves a session that is not live as it is. -/
theorem attachments_of_live {p : Parties} (h : run.registry.parties sessionId = some p) :
    attachments sessionId (run.call call).log = attachments sessionId run.log := by
  rw [attachments_call, attachment_of_not, List.append_nil]
  rw [h]
  exact nofun

theorem Traced.keep (h : Traced sessionId run)
    (hsent : sentFor sessionId (run.registry.perform call).2 = [])
    (hsession : (run.call call).registry.parties sessionId = run.registry.parties sessionId) :
    Traced sessionId (run.call call) := by
  have hattachments :
      attachments sessionId (run.call call).log = attachments sessionId run.log := by
    rw [attachments_call, attachment_of_not, List.append_nil]
    exact fun hnone => hsession.trans hnone
  have htrace : ∀ peer,
      trace sessionId peer (run.call call).log = trace sessionId peer run.log := by
    intro peer
    rw [trace_call, hsent]
    exact List.append_nil _
  cases h with
  | unused hattachments' hsession' hsent' =>
    refine .unused (hattachments.trans hattachments') (hsession.trans hsession') ?_
    rw [sent_call, hsent, hsent']
    rfl
  | live p hattachments' hpeers hsession' hbrowser hdevice =>
    refine .live p (hattachments.trans hattachments') hpeers (hsession.trans hsession') ?_ ?_
    · rwa [htrace]
    · rwa [htrace]
  | finished p hattachments' hpeers hsession' hbrowser hdevice =>
    refine .finished p (hattachments.trans hattachments') hpeers (hsession.trans hsession') ?_ ?_
    · rwa [htrace]
    · rwa [htrace]

theorem Traced.of_live (h : Traced sessionId run) {p : Parties}
    (hp : run.registry.parties sessionId = some p) :
    attachments sessionId run.log = [p] ∧ p.browser ≠ p.device ∧
      Open (trace sessionId p.browser run.log) ∧ Open (trace sessionId p.device run.log) := by
  cases h with
  | live p' hattachments hpeers hsession hbrowser hdevice =>
    obtain rfl := Option.some.inj (hp.symm.trans hsession)
    exact ⟨hattachments, hpeers, hbrowser, hdevice⟩
  | unused _ hsession | finished _ _ _ hsession =>
    rw [hp] at hsession
    cases hsession

/-- A call that tells the browser of a live session that it ends, and the device unless the device
ended it. -/
theorem Traced.finish (h : Traced sessionId run) {p : Parties} {reason : String} {toDevice : Bool}
    (hbefore : run.registry.parties sessionId = some p)
    (hafter : (run.call call).registry.parties sessionId = none)
    (hsent : sentFor sessionId (run.registry.perform call).2 =
      (if toDevice then [(p.device, SessionRegistry.endMessage sessionId reason)] else []) ++
        [(p.browser, SessionRegistry.endMessage sessionId reason)]) :
    Traced sessionId (run.call call) := by
  obtain ⟨hattachments, hpeers, hbrowser, hdevice⟩ := h.of_live hbefore
  refine .finished p ((attachments_of_live hbefore).trans hattachments) hpeers hafter ?_ ?_
  · rw [trace_call, hsent]
    apply hbrowser.isSessionTrace
    cases toDevice <;> simp [Ne.symm hpeers, endsOnce, ServerMessage.isEnd]
  · rw [trace_call, hsent]
    apply hdevice.isSessionTrace
    cases toDevice <;> simp [hpeers, endsOnce, ServerMessage.isEnd]

theorem Traced.step (h : Traced sessionId run) (htidy : Tidy run call) :
    Traced sessionId (run.call call) := by
  rcases run.registry.perform_effect call sessionId with heffect | ⟨hended, -⟩
  · cases heffect with
    | keep hsent hsession => exact h.keep hsent hsession
    | pass p peer message hbefore hafter hsent hpeer hpasses =>
      obtain ⟨hattachments, hpeers, hbrowser, hdevice⟩ := h.of_live hbefore
      have htrace : ∀ other, Open (trace sessionId other run.log) →
          Open (trace sessionId other (run.call call).log) := by
        intro other hopen
        rw [trace_call, hsent]
        by_cases hother : peer = other
        · rw [List.filter_cons_of_pos (by simpa using hother)]
          exact hopen.snoc hpasses
        · rw [List.filter_cons_of_neg (by simpa using hother)]
          rwa [List.filter_nil, List.map_nil, List.append_nil]
      exact .live p ((attachments_of_live hbefore).trans hattachments) hpeers hafter
        (htrace _ hbrowser) (htrace _ hdevice)
    | attach p start hbefore hafter hsent hstart =>
      obtain ⟨hunused, hpeers⟩ :=
        htidy.1 sessionId p (SessionRegistry.attached_iff.2 ⟨hbefore, hafter⟩)
      have hnothing : sent sessionId run.log = [] := by
        cases h with
        | unused _ _ hsent => exact hsent
        | live p hattachments | finished p hattachments =>
          rw [hunused] at hattachments
          cases hattachments
      have htrace : ∀ peer, peer = p.browser ∨ peer = p.device →
          trace sessionId peer (run.call call).log = [start] := by
        intro peer hpeer
        rw [trace, sent_call, hnothing, hsent]
        rcases hpeer with rfl | rfl
        · simp [Ne.symm hpeers]
        · simp [hpeers]
      refine .live p ?_ hpeers hafter ?_ ?_
      · rw [attachments_call, attachment_of hbefore hafter, hunused, List.nil_append]
      · exact ⟨start, [], htrace _ (.inl rfl), hstart, nofun⟩
      · exact ⟨start, [], htrace _ (.inr rfl), hstart, nofun⟩
    | finish p reason toDevice hbefore hafter hsent => exact h.finish hbefore hafter hsent
  · exact absurd hended (htidy.2 sessionId)

end traces

/-- A call of a tidy run. -/
def TidyStep (run : RegistryRun) (call : RegistryCall) (after : RegistryRun) : Prop :=
  Tidy run call ∧ RegistryRun.Step run call after

/-- **Main result.** Where no device ends its session by a message, the browser and the device of
every session get one start, then signals and telemetry, then one end at most. -/
theorem session_traces {calls : List RegistryCall} {run : RegistryRun}
    (h : Run TidyStep .start calls run) {sessionId : Uuid} {p : Parties}
    (hp : .attached sessionId p ∈ run.log) :
    isSessionTrace (trace sessionId p.browser run.log) = true ∧
      isSessionTrace (trace sessionId p.device run.log) = true := by
  have htraced : Traced sessionId run := by
    refine h.invariant (.unused rfl rfl rfl) ?_
    rintro before _ call hbefore ⟨htidy, rfl⟩
    exact hbefore.step htidy
  have hmem : p ∈ attachments sessionId run.log := List.mem_filterMap.2 ⟨_, hp, if_pos rfl⟩
  cases htraced with
  | unused hattachments =>
    rw [hattachments] at hmem
    cases hmem
  | live p' hattachments hpeers hsession hbrowser hdevice =>
    rw [hattachments, List.mem_singleton] at hmem
    subst hmem
    have hclosed : ∀ {messages : List ServerMessage}, Open messages →
        isSessionTrace messages = true := by
      intro messages hopen
      rw [← List.append_nil messages]
      exact hopen.isSessionTrace rfl
    exact ⟨hclosed hbrowser, hclosed hdevice⟩
  | finished p' hattachments hpeers hsession hbrowser hdevice =>
    rw [hattachments, List.mem_singleton] at hmem
    subst hmem
    exact ⟨hbrowser, hdevice⟩

/-- A call that attaches no browser and is no end from a device. -/
theorem Tidy.of_none {run : RegistryRun} {call : RegistryCall}
    (hattached : run.registry.attached call = none)
    (hcall : ∀ carId sessionId reason,
      call ≠ .relayFromDevice carId (.sessionEnd sessionId reason)) :
    Tidy run call := by
  refine ⟨fun sessionId p h => ?_, ?_⟩
  · rw [hattached] at h
    cases h
  · rintro sessionId ⟨carId, reason, rfl, -⟩
    exact hcall carId sessionId reason rfl

theorem driveCalls_traces :
    (trace 5 20 (RegistryRun.of driveCalls).log).length = 4 ∧
      isSessionTrace (trace 5 20 (RegistryRun.of driveCalls).log) = true ∧
      isSessionTrace (trace 5 10 (RegistryRun.of driveCalls).log) = true := by
  have hrun : Run TidyStep .start driveCalls (RegistryRun.of driveCalls) := by
    refine .cons ⟨.of_none rfl nofun, rfl⟩ (.cons ⟨⟨?_, ?_⟩, rfl⟩ (.cons ⟨.of_none rfl nofun, rfl⟩
      (.cons ⟨.of_none rfl nofun, rfl⟩ (.cons ⟨.of_none rfl nofun, rfl⟩
        (.cons ⟨.of_none rfl nofun, rfl⟩ (.cons ⟨.of_none rfl nofun, rfl⟩ .nil))))))
    · rintro sessionId p h
      obtain ⟨rfl, rfl⟩ := Prod.mk.inj (Option.some.inj h)
      exact ⟨rfl, by decide⟩
    · rintro sessionId ⟨_, _, h, -⟩
      cases h
  exact ⟨rfl, session_traces hrun (List.mem_cons_self)⟩

/-- The browser hears twice of an end that comes from the device. -/
theorem endedByDevice_twice :
    let log := (RegistryRun.of [.attachDevice 1 2 10, .attachBrowser demoSession 20 1000,
      .relayFromDevice 1 (.sessionEnd 5 "lap finished")]).log
    attachments 5 log = [⟨1, 20, 10⟩] ∧
      (trace 5 20 log).map (·.isEnd) = [false, true, true] ∧
      isSessionTrace (trace 5 20 log) = false := ⟨rfl, rfl, rfl⟩

end RcOnline.Gateway
