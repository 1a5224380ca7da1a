import RcOnline.Gateway.ServerRegistry
import RcOnline.Gateway.UpdateStore
import RcOnline.Web.DeviceUpdate
import RcOnline.Web.DriveSession

/-!
# The gateway with its store

The server, the database and the calls between them. A call that a handler awaits takes effect
statement by statement at any time after it is made, and the handler goes on with its result at any
time after that; the calls of the sweep timer are awaited by nobody. The web application works on
the same database. `Step` says what each event does (`step_cases`).
-/

namespace RcOnline.Gateway

open RcOnline.Lib RcOnline.Schema RcOnline.Web

/-! ## Calls -/

/-- The code of a call. `pick` says which of several rows a `limit 1` returns. -/
def StoreRequest.code (pick : Uuid → Nat) : StoreRequest → Prog Database Reply
  | .authenticateDevice deviceId suppliedHash agentVersion capabilities now =>
    .device <$> Gateway.authenticateDevice (pick deviceId) deviceId suppliedHash agentVersion
      capabilities now
  | .claimPendingUpdate deviceId runtimeGeneration now =>
    .offer <$> Gateway.claimPendingUpdate (pick deviceId) deviceId (some runtimeGeneration) now
  | .recordUpdateStatus deviceId updateId status reason now =>
    .accepted <$> Gateway.recordUpdateStatus deviceId updateId status reason now
  | .recordHeartbeat deviceId health now =>
    (fun device => .heartbeat (device.map (·.2))) <$> Gateway.recordHeartbeat deviceId health now
  | .setPresenceState deviceId state now =>
    (fun _ => .done) <$> Gateway.setPresenceState deviceId state now
  | .markDeviceOffline deviceId now => (fun _ => .done) <$> Gateway.markDeviceOffline deviceId now
  | .authorizeDriveSession sessionId userId carId now =>
    .authorized <$> Gateway.authorizeDriveSession { sessionId, userId, carId, now }
  | .markDriveSessionActive sessionId now =>
    .accepted <$> Gateway.markDriveSessionActive sessionId now
  | .endDriveSession sessionId _ now =>
    (fun _ => .done) <$> Gateway.endDriveSession pick sessionId now

/-- What the sweep timer calls. -/
inductive SweepCall where
  | presence (stale : List Uuid) (cutoff now : Int)
  | expireDriveSessions (now : Int)
  | endDriveSession (sessionId : Uuid) (now : Int)

def SweepCall.code (pick : Uuid → Nat) : SweepCall → Prog Database Unit
  | .presence stale cutoff now => do
    stale.forM fun deviceId => markDeviceOffline deviceId now
    let _ ← expireStaleDevices cutoff now
  | .expireDriveSessions now => (fun _ => ()) <$> Gateway.expireDriveSessions pick now
  | .endDriveSession sessionId now => Gateway.endDriveSession pick sessionId now

/-- The devices that the presence registry gives up, and the times that the timer reads. -/
structure SweepTick where
  stale : List Uuid
  presenceCutoff : Int
  presenceNow : Int
  expireNow : Int
  sweepNow : Int
  endNow : Int

/-- What the web application does in the database. -/
inductive WebCall where
  | create (input : CreateInput)
  | requestDeviceUpdate (request : DeviceUpdateRequest)

def WebCall.run (parseUrl : String → Option Url) (db : Database) : WebCall → Database
  | .create input => (createTransaction input db).2
  | .requestDeviceUpdate request => (requestTransaction parseUrl request db).2

/-! ## Statements -/

/-- The drive sessions, the update jobs and the releases stay as they are. -/
structure Aside (db db' : Database) : Prop where
  driveSessions : db'.driveSessions = db.driveSessions
  deviceUpdateJobs : db'.deviceUpdateJobs = db.deviceUpdateJobs
  firmwareVersions : db'.firmwareVersions = db.firmwareVersions

theorem Aside.refl (db : Database) : Aside db db := ⟨rfl, rfl, rfl⟩

/-- A program of such statements. -/
abbrev IsAside {α : Type} (p : Prog Database α) : Prop := p.Keeps (fun _ => True) Aside

theorem IsAside.read {α : Type} (f : Database → α) : IsAside (.read f) :=
  Prog.Keeps.read Aside.refl f

theorem updateDevice_isAside (deviceId : Uuid) (f : Device → Device)
    (hf : ∀ r, Row.key (f r) = Row.key r) : IsAside (.stmt (updateDevice deviceId f hf)) :=
  Prog.Keeps.stmt fun _ _ => ⟨trivial, rfl, rfl, rfl⟩

theorem updateCar_isAside (carId : Uuid) (p : Database → Bool) (f : Car → Car)
    (hf : ∀ r, Row.key (f r) = Row.key r) : IsAside (.stmt (updateCar carId p f hf)) :=
  Prog.Keeps.stmt fun _ _ => ⟨trivial, rfl, rfl, rfl⟩

theorem recordHeartbeat_isAside (deviceId : Uuid) (health : DeviceHealth) (now : Int) :
    IsAside (recordHeartbeat deviceId health now) := by
  refine .bind (updateDevice_isAside _ _ _) fun carId => ?_
  cases carId with
  | none => exact .pure _
  | some carId =>
    dsimp only
    split
    · exact .bind (IsAside.read _) fun _ => .pure _
    · exact .bind (updateCar_isAside _ _ _ _) fun _ => .bind (IsAside.read _) fun _ => .pure _

theorem setPresenceState_isAside (deviceId : Uuid) (state : PresenceState) (now : Int) :
    IsAside (setPresenceState deviceId state now) := by
  refine .bind (updateDevice_isAside _ _ _) fun carId => ?_
  cases carId with
  | none => exact .pure _
  | some carId => exact .bind (IsAside.read _) fun _ => updateCar_isAside _ _ _ _

theorem markDeviceOffline_isAside (deviceId : Uuid) (now : Int) :
    IsAside (markDeviceOffline deviceId now) := by
  refine .bind (updateDevice_isAside _ _ _) fun carId => ?_
  cases carId with
  | none => exact .pure _
  | some carId => exact updateCar_isAside _ _ _ _

theorem expireStaleDevices_isAside (cutoff now : Int) :
    IsAside (expireStaleDevices cutoff now) :=
  .bind (IsAside.read _) fun _ =>
    .bind (.forM fun device => markDeviceOffline_isAside device.id now) fun _ => .pure _

/-- The second statement of an authentication that is accepted. -/
def acceptance (credential : CredentialRow) (device : AuthenticatedDevice) (now : Int) :
    Prog Database Reply :=
  (fun _ => Reply.device (some device)) <$>
    Prog.stmt fun db => ((), authenticateTransaction credential device now db)

/-- An authentication reads the credential first, and then accepts the device or not. -/
theorem authenticateDevice_next {pick : Nat} {deviceId : Uuid}
    {suppliedHash agentVersion : String} {capabilities : DeviceCapabilities} {now : Int}
    {act : Database → Database} {next : Database → Prog Database Reply}
    (h : .atomic act next = Reply.device <$> authenticateDevice pick deviceId suppliedHash
      agentVersion capabilities now) (db : Database) :
    act db = db ∧ (next db = .done (.device none) ∨ ∃ credential carId,
      next db = acceptance credential { deviceId, carId, agentVersion, capabilities } now) := by
  obtain ⟨rfl, rfl⟩ := Prog.atomic.inj h
  refine ⟨rfl, ?_⟩
  dsimp only [Prog.read, Prog.bind]
  split
  · exact .inl rfl
  · next credential _ =>
    split
    · exact .inl rfl
    · next carId _ =>
      split
      · exact .inr ⟨credential, carId, rfl⟩
      · exact .inl rfl

/-- How far an authentication can have got. -/
theorem authenticateDevice_residual {pick : Nat} {deviceId : Uuid}
    {suppliedHash agentVersion : String} {capabilities : DeviceCapabilities} {now : Int}
    {rest : Prog Database Reply}
    (h : (Reply.device <$> authenticateDevice pick deviceId suppliedHash agentVersion capabilities
      now).Residual rest) :
    rest = Reply.device <$> authenticateDevice pick deviceId suppliedHash agentVersion capabilities
        now ∨
      (∃ credential carId,
        rest = acceptance credential { deviceId, carId, agentVersion, capabilities } now) ∨
      ∃ device, rest = .done (.device device) := by
  induction h with
  | refl => exact .inl rfl
  | next db _ ih =>
    rcases ih with heq | ⟨credential, carId, heq⟩ | ⟨_, heq⟩
    · rcases (authenticateDevice_next heq db).2 with hnext | haccepted
      · exact .inr (.inr ⟨none, hnext⟩)
      · exact .inr (.inl haccepted)
    · obtain ⟨-, rfl⟩ := Prog.atomic.inj heq
      exact .inr (.inr ⟨_, rfl⟩)
    · cases heq

/-- What a statement of a handler's call does, and what it leaves of the call. -/
inductive StatementOf (db : Database) :
    StoreRequest → Database → Prog Database Reply → Prop where
  | authorizeDriveSession (sessionId userId carId : Uuid) (now : Int) :
    StatementOf db (.authorizeDriveSession sessionId userId carId now)
      (authorizeTransaction { sessionId, userId, carId, now } db).2
      (.done (.authorized (authorizeTransaction { sessionId, userId, carId, now } db).1))
  | markDriveSessionActive (sessionId : Uuid) (now : Int) :
    StatementOf db (.markDriveSessionActive sessionId now)
      (markActiveTransaction sessionId now db).2
      (.done (.accepted (markActiveTransaction sessionId now db).1))
  | endDriveSession (pick : Uuid → Nat) (sessionId : Uuid) (reason : String) (now : Int) :
    StatementOf db (.endDriveSession sessionId reason now) (endTransaction pick sessionId now db).2
      (.done .done)
  | claimPendingUpdate (pick : Nat) (deviceId : Uuid) (runtimeGeneration now : Int) :
    StatementOf db (.claimPendingUpdate deviceId runtimeGeneration now)
      (claimTransaction pick deviceId runtimeGeneration now db).2
      (.done (.offer (claimTransaction pick deviceId runtimeGeneration now db).1))
  | recordUpdateStatus (deviceId updateId : Uuid) (status : UpdateProgressStatus)
    (reason : Option String) (now : Int) :
    StatementOf db (.recordUpdateStatus deviceId updateId status reason now)
      (recordStatus deviceId updateId status reason now db).2
      (.done (.accepted (recordStatus deviceId updateId status reason now db).1))
  | authenticateDevice (credential : CredentialRow) (deviceId carId : Uuid)
    (suppliedHash agentVersion : String) (capabilities : DeviceCapabilities) (now : Int) :
    StatementOf db (.authenticateDevice deviceId suppliedHash agentVersion capabilities now)
      (authenticateTransaction credential { deviceId, carId, agentVersion, capabilities } now db)
      (.done (.device (some { deviceId, carId, agentVersion, capabilities })))
  | credentials (deviceId : Uuid) (suppliedHash agentVersion : String)
    (capabilities : DeviceCapabilities) (now : Int) {rest : Prog Database Reply}
    (hrest : ∀ device, rest ≠ .done (.device (some device))) :
    StatementOf db (.authenticateDevice deviceId suppliedHash agentVersion capabilities now) db rest
  | aside {request : StoreRequest} {db' : Database} {rest : Prog Database Reply}
    (hplain : request.plain = true) (h : Aside db db') : StatementOf db request db' rest

/-- The next statement of what is left of a call. -/
theorem statementOf {request : StoreRequest} {pick : Uuid → Nat} {act : Database → Database}
    {next : Database → Prog Database Reply}
    (h : (request.code pick).Residual (.atomic act next)) (db : Database) :
    StatementOf db request (act db) (next db) := by
  have haside : request.plain = true → IsAside (request.code pick) →
      StatementOf db request (act db) (next db) := fun hplain hcode =>
    .aside hplain ((hcode.residual (fun _ => trivial) h) db trivial).2.1
  cases request with
  | authenticateDevice deviceId suppliedHash agentVersion capabilities now =>
    rcases authenticateDevice_residual h with heq | ⟨credential, carId, heq⟩ | ⟨_, heq⟩
    · obtain ⟨hact, hnext⟩ := authenticateDevice_next heq db
      rw [hact]
      refine .credentials deviceId suppliedHash agentVersion capabilities now fun device hdone => ?_
      rcases hnext with hnext | ⟨_, _, hnext⟩
      · rw [hnext] at hdone
        cases hdone
      · rw [hnext] at hdone
        cases hdone
    · obtain ⟨rfl, rfl⟩ := Prog.atomic.inj heq
      exact .authenticateDevice credential deviceId carId suppliedHash agentVersion capabilities now
    · cases heq
  | claimPendingUpdate deviceId runtimeGeneration now =>
    obtain ⟨hact, hnext⟩ := Prog.Residual.of_map_stmt h db
    rw [hact, hnext]
    exact .claimPendingUpdate (pick deviceId) deviceId runtimeGeneration now
  | recordUpdateStatus deviceId updateId status reason now =>
    obtain ⟨hact, hnext⟩ := Prog.Residual.of_map_stmt h db
    rw [hact, hnext]
    exact .recordUpdateStatus deviceId updateId status reason now
  | recordHeartbeat deviceId health now =>
    exact haside rfl (.bind (recordHeartbeat_isAside _ _ _) fun _ => .pure _)
  | setPresenceState deviceId state now =>
    exact haside rfl (.bind (setPresenceState_isAside _ _ _) fun _ => .pure _)
  | markDeviceOffline deviceId now =>
    exact haside rfl (.bind (markDeviceOffline_isAside _ _) fun _ => .pure _)
  | authorizeDriveSession sessionId userId carId now =>
    obtain ⟨hact, hnext⟩ := Prog.Residual.of_map_stmt h db
    rw [hact, hnext]
    exact .authorizeDriveSession sessionId userId carId now
  | markDriveSessionActive sessionId now =>
    obtain ⟨hact, hnext⟩ := Prog.Residual.of_map_stmt h db
    rw [hact, hnext]
    exact .markDriveSessionActive sessionId now
  | endDriveSession sessionId reason now =>
    obtain ⟨hact, hnext⟩ := Prog.Residual.of_map_stmt h db
    rw [hact, hnext]
    exact .endDriveSession pick sessionId reason now

/-- What a statement of the sweep timer's calls does. -/
inductive SweepStatement (db : Database) : SweepCall → Database → Prop where
  | presence (stale : List Uuid) (cutoff now : Int) {db' : Database} (h : Aside db db') :
    SweepStatement db (.presence stale cutoff now) db'
  | expireDriveSessions (pick : Uuid → Nat) (now : Int) :
    SweepStatement db (.expireDriveSessions now) (expireTransaction pick now db).2
  | endDriveSession (pick : Uuid → Nat) (sessionId : Uuid) (now : Int) :
    SweepStatement db (.endDriveSession sessionId now) (endTransaction pick sessionId now db).2

theorem sweepStatement_of {call : SweepCall} {pick : Uuid → Nat} {act : Database → Database}
    {next : Database → Prog Database Unit}
    (h : (call.code pick).Residual (.atomic act next)) (db : Database) :
    SweepStatement db call (act db) := by
  cases call with
  | presence stale cutoff now =>
    have hcode : IsAside ((SweepCall.presence stale cutoff now).code pick) :=
      .bind (.forM fun deviceId => markDeviceOffline_isAside deviceId now)
        fun _ => .bind (expireStaleDevices_isAside cutoff now) fun _ => .pure _
    exact .presence stale cutoff now ((hcode.residual (fun _ => trivial) h) db trivial).2.1
  | expireDriveSessions now =>
    rw [(Prog.Residual.of_map_stmt h db).1]
    exact .expireDriveSessions pick now
  | endDriveSession sessionId now =>
    rcases Prog.Residual.of_stmt h with heq | ⟨_, heq⟩
    · obtain ⟨rfl, rfl⟩ := Prog.atomic.inj heq
      exact .endDriveSession pick sessionId now
    · cases heq

/-! ## The system -/

structure System where
  server : Server
  store : Database
  /-- What is left of the calls that the handlers await, under the handlers' numbers. -/
  calls : OrdMap Nat (Prog Database Reply)
  /-- The calls of the sweep timer, with what is left of each. -/
  sweeps : List (SweepCall × Prog Database Unit)

inductive SystemEvent where
  /-- An event of the server; a call that it makes picks its rows with `pick`. -/
  | serve (e : Event) (pick : Uuid → Nat)
  | sweep (tick : SweepTick) (pick : Uuid → Nat)
  /-- The next statement of a call that a handler awaits. -/
  | statement (number : Nat)
  /-- The next statement of a call of the sweep timer. -/
  | sweepStatement (i : Nat)
  | web (call : WebCall)

namespace System

def start (store : Database) : System := { server := .empty, store, calls := ∅, sweeps := [] }

variable (config : GatewayConfig) (parseUrl : String → Option Url) (s : System)

/-- A reply is what the call has come to, unless the call rejects; a sweep is an event of its
own. -/
def admits : Event → Bool
  | .reply number reply _ =>
    reply = .rejects ||
      match s.calls.get? number with
      | some (.done result) => decide (result = reply)
      | _ => false
  | .sweep _ => false
  | _ => true

/-- The call of a handler after the handler has run. -/
def callsAfter (server : Server) (e : Event) (pick : Uuid → Nat) :
    OrdMap Nat (Prog Database Reply) :=
  match e.number? with
  | none => s.calls
  | some number =>
    match server.handlers.get? number with
    | none => s.calls.delete number
    | some handler => s.calls.set number (handler.call.code pick)

/-- The system after an event of the server. -/
abbrev served (server : Server) (e : Event) (pick : Uuid → Nat) : System :=
  { s with server, calls := s.callsAfter server e pick }

/-- The sweep timer. -/
def sweepCalls (tick : SweepTick) : List SweepCall :=
  .presence tick.stale tick.presenceCutoff tick.presenceNow ::
    .expireDriveSessions tick.expireNow ::
    (s.server.sessions.sweep tick.sweepNow).1.map fun sessionId =>
      .endDriveSession sessionId tick.endNow

def step : SystemEvent → Option System
  | .serve e pick =>
    if s.admits e then
      (s.server.step config e).map fun server => s.served server e pick
    else none
  | .sweep tick pick =>
    some { s with
      server := s.server.sweep tick.sweepNow
      sweeps := s.sweeps ++ (s.sweepCalls tick).map fun call => (call, call.code pick) }
  | .statement number =>
    match s.calls.get? number with
    | some (.atomic act next) =>
      some { s with store := act s.store, calls := s.calls.set number (next s.store) }
    | _ => none
  | .sweepStatement i =>
    match s.sweeps[i]? with
    | some (call, .atomic act next) =>
      some { s with store := act s.store, sweeps := s.sweeps.set i (call, next s.store) }
    | some (_, .done _) => some { s with sweeps := s.sweeps.eraseIdx i }
    | none => none
  | .web call => some { s with store := call.run parseUrl s.store }

/-! ## Steps -/

variable {config parseUrl} {s} {t : System}

/-- What each event does. -/
inductive Steps (config : GatewayConfig) (parseUrl : String → Option Url) (s : System) :
    SystemEvent → System → Prop where
  | serve {e : Event} {pick : Uuid → Nat} {server : Server} (hadmits : s.admits e = true)
    (hstep : s.server.step config e = some server) :
    Steps config parseUrl s (.serve e pick) (s.served server e pick)
  | sweep (tick : SweepTick) (pick : Uuid → Nat) :
    Steps config parseUrl s (.sweep tick pick)
      { s with
        server := s.server.sweep tick.sweepNow
        sweeps := s.sweeps ++ (s.sweepCalls tick).map fun call => (call, call.code pick) }
  | statement {number : Nat} {act : Database → Database} {next : Database → Prog Database Reply}
    (hcall : s.calls.get? number = some (.atomic act next)) :
    Steps config parseUrl s (.statement number)
      { s with store := act s.store, calls := s.calls.set number (next s.store) }
  | sweepStatement {i : Nat} {call : SweepCall} {act : Database → Database}
    {next : Database → Prog Database Unit} (hcall : s.sweeps[i]? = some (call, .atomic act next)) :
    Steps config parseUrl s (.sweepStatement i)
      { s with store := act s.store, sweeps := s.sweeps.set i (call, next s.store) }
  | sweepDone {i : Nat} : Steps config parseUrl s (.sweepStatement i)
      { s with sweeps := s.sweeps.eraseIdx i }
  | web (call : WebCall) :
    Steps config parseUrl s (.web call) { s with store := call.run parseUrl s.store }

theorem step_cases {e : SystemEvent} (h : s.step config parseUrl e = some t) :
    Steps config parseUrl s e t := by
  cases e with
  | serve e pick =>
    rw [step] at h
    split at h
    · next hadmits =>
      obtain ⟨server, hstep, rfl⟩ := Option.map_eq_some_iff.1 h
      exact .serve hadmits hstep
    · cases h
  | sweep tick pick =>
    obtain rfl := Option.some.inj h
    exact .sweep tick pick
  | statement number =>
    rw [step] at h
    split at h
    · next hcall =>
      obtain rfl := Option.some.inj h
      exact .statement hcall
    · cases h
  | sweepStatement i =>
    rw [step] at h
    split at h
    · next hcall =>
      obtain rfl := Option.some.inj h
      exact .sweepStatement hcall
    · obtain rfl := Option.some.inj h
      exact .sweepDone
    · cases h
  | web call =>
    obtain rfl := Option.some.inj h
    exact .web call

/-- Every handler's call is under way under its number, and every sweep's. -/
structure Fits (s : System) : Prop where
  calls : ∀ number handler, s.server.handlers.get? number = some handler →
    ∃ pick rest, s.calls.get? number = some rest ∧ (handler.call.code pick).Residual rest
  only : ∀ number, s.server.handlers.get? number = none → s.calls.get? number = none
  sweeps : ∀ entry ∈ s.sweeps, ∃ pick, (entry.1.code pick).Residual entry.2

theorem Fits.start (store : Database) : Fits (start store) where
  calls := fun _ _ h => nomatch h
  only := fun _ _ => rfl
  sweeps := fun _ h => absurd h List.not_mem_nil

/-- A reply is what its call has come to, unless the call rejects. -/
def Answers (s : System) (e : Event) : Prop :=
  ∀ number reply now, e = .reply number reply now →
    reply = .rejects ∨ s.calls.get? number = some (.done reply)

theorem answers_of_admits {e : Event} (h : s.admits e = true) : s.Answers e := by
  rintro number reply now rfl
  rw [admits, Bool.or_eq_true, decide_eq_true_eq] at h
  refine h.imp_right fun hdone => ?_
  split at hdone
  · next result hcall => rw [hcall, of_decide_eq_true hdone]
  · cases hdone

theorem answers_sweep (now : Int) : s.Answers (.sweep now) := by
  rintro _ _ _ ⟨⟩

/-- A call that is under way is a handler's. -/
theorem Fits.handler (h : Fits s) {number : Nat} {rest : Prog Database Reply}
    (hcall : s.calls.get? number = some rest) :
    ∃ handler, s.server.handlers.get? number = some handler := by
  cases hget : s.server.handlers.get? number with
  | none =>
    rw [h.only number hget] at hcall
    cases hcall
  | some handler => exact ⟨handler, rfl⟩

theorem Fits.statement (h : Fits s) {number : Nat} {handler : Handler} {act : Database → Database}
    {next : Database → Prog Database Reply} (hget : s.server.handlers.get? number = some handler)
    (hcall : s.calls.get? number = some (.atomic act next)) (db : Database) :
    StatementOf db handler.call (act db) (next db) := by
  obtain ⟨pick, rest, hrest, hresidual⟩ := h.calls number handler hget
  obtain rfl := Option.some.inj (hcall.symm.trans hrest)
  exact statementOf hresidual db

theorem Fits.sweepStatement (h : Fits s) {i : Nat} {call : SweepCall} {act : Database → Database}
    {next : Database → Prog Database Unit} (hcall : s.sweeps[i]? = some (call, .atomic act next))
    (db : Database) : SweepStatement db call (act db) := by
  obtain ⟨pick, hresidual⟩ := h.sweeps _ (List.mem_of_getElem? hcall)
  exact sweepStatement_of hresidual db

/-- The calls after an event of the server. -/
theorem callsAfter_get? {e : Event} {pick : Uuid → Nat} {server : Server} (number : Nat) :
    (s.callsAfter server e pick).get? number =
      if e.number? = some number then
        (server.handlers.get? number).map fun handler => handler.call.code pick
      else s.calls.get? number := by
  unfold callsAfter
  cases e.number? with
  | none => rfl
  | some other =>
    dsimp only
    simp only [Option.some.injEq]
    cases hget : server.handlers.get? other with
    | none =>
      rw [OrdMap.get?_delete]
      split
      · next heq =>
        subst heq
        rw [hget]
        rfl
      · rfl
    | some handler =>
      rw [OrdMap.get?_set]
      split
      · next heq =>
        subst heq
        rw [hget]
        rfl
      · rfl

theorem Fits.step {e : SystemEvent} (h : Fits s) (hstep : s.step config parseUrl e = some t) :
    Fits t := by
  cases step_cases hstep with
  | serve hadmits hserver =>
    obtain ⟨call, next, hturn⟩ := Server.step_serves hserver
    refine ⟨fun number handler hget => ?_, fun number hget => ?_, h.sweeps⟩
    · dsimp only at hget ⊢
      rw [callsAfter_get?]
      have hget' := hget
      rw [hturn.handlers] at hget'
      split
      · exact ⟨_, _, by rw [hget]; rfl, .refl⟩
      · next hother =>
        rw [if_neg hother] at hget'
        exact h.calls number handler hget'
    · dsimp only at hget ⊢
      rw [callsAfter_get?]
      have hget' := hget
      rw [hturn.handlers] at hget'
      split
      · rw [hget]
        rfl
      · next hother =>
        rw [if_neg hother] at hget'
        exact h.only number hget'
  | sweep tick pick =>
    have hhandlers := (s.server.quiet_sweep tick.sweepNow).handlers
    refine ⟨fun number handler hget => ?_, fun number hget => ?_, fun entry hentry => ?_⟩
    · exact h.calls number handler (hhandlers ▸ hget)
    · exact h.only number (hhandlers ▸ hget)
    · rcases List.mem_append.1 hentry with hentry | hentry
      · exact h.sweeps entry hentry
      · obtain ⟨call, -, rfl⟩ := List.mem_map.1 hentry
        exact ⟨pick, .refl⟩
  | statement hcall =>
    next number act next =>
    refine ⟨fun other handler hget => ?_, fun other hget => ?_, h.sweeps⟩
    · obtain ⟨pick, rest, hrest, hresidual⟩ := h.calls other handler hget
      dsimp only
      rw [OrdMap.get?_set]
      split
      · next heq =>
        subst heq
        obtain rfl := Option.some.inj (hcall.symm.trans hrest)
        exact ⟨pick, _, rfl, hresidual.next s.store⟩
      · exact ⟨pick, rest, hrest, hresidual⟩
    · dsimp only
      rw [OrdMap.get?_set_of_ne]
      · exact h.only other hget
      · rintro rfl
        rw [h.only number hget] at hcall
        cases hcall
  | sweepStatement hcall =>
    next i call act next =>
    refine ⟨h.calls, h.only, fun entry hentry => ?_⟩
    rcases List.mem_or_eq_of_mem_set hentry with hentry | rfl
    · exact h.sweeps entry hentry
    · obtain ⟨pick, hresidual⟩ := h.sweeps _ (List.mem_of_getElem? hcall)
      exact ⟨pick, hresidual.next s.store⟩
  | sweepDone =>
    exact ⟨h.calls, h.only, fun entry hentry => h.sweeps entry (List.mem_of_mem_eraseIdx hentry)⟩
  | web call => exact ⟨h.calls, h.only, h.sweeps⟩

end System

end RcOnline.Gateway
