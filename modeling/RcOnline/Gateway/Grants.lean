import RcOnline.Gateway.System
import RcOnline.Gateway.StoreConsistency

/-!
# Drive sessions are granted once

Authorizing a drive session takes its row out of `created`, and no statement puts a row back. So a
session is granted to one handler at most, and the browser that the registry holds for it is the
only connection that speaks for it (`Grants.step`).
-/

namespace RcOnline.Gateway

open RcOnline.Lib RcOnline.Schema RcOnline.Web

/-! ## Rows -/

section rows

variable {db db' : Database} {sessionId : Uuid}

/-- A session that has been authorized, or is over. -/
def Used (db : Database) (sessionId : Uuid) : Prop :=
  ∃ row, db.driveSessions.get? sessionId = some row ∧ row.status ≠ .created

theorem Used.of_eq (h : Used db sessionId) (hrows : db'.driveSessions = db.driveSessions) :
    Used db' sessionId := by
  rwa [Used, hrows]

/-- The row that an update of one session finds, and what the rows are after it. -/
theorem updateSession_get? {p : DriveSession → Bool} {f : DriveSession → DriveSession}
    {hf : ∀ r, Row.key (f r) = Row.key r} {row : DriveSession}
    (h : updateSession sessionId p f hf db = some (row, db')) :
    db.driveSessions.get? sessionId = some row ∧ p row = true ∧
      ∀ other, db'.driveSessions.get? other =
        if sessionId = other then some (f row) else db.driveSessions.get? other := by
  obtain ⟨hmem, hid, hp, rfl⟩ := updateSession_eq_some h
  have hget : db.driveSessions.get? sessionId = some row := Table.get?_eq_some_iff.2 ⟨hmem, hid⟩
  refine ⟨hget, hp, fun other => ?_⟩
  dsimp only
  rw [Table.get?_update]
  by_cases hother : sessionId = other
  · subst hother
    rw [if_pos rfl, hget, Option.map_some, patch_of]
    rw [Bool.and_eq_true, decide_eq_true_eq]
    exact ⟨hid, hp⟩
  · rw [if_neg hother]
    cases hrow : db.driveSessions.get? other with
    | none => rfl
    | some row' =>
      rw [Option.map_some, patch_of_not]
      rw [Bool.and_eq_true, decide_eq_true_eq]
      rintro ⟨heq, -⟩
      exact hother (heq.symm.trans (Table.get?_eq_some_iff.1 hrow).2)

/-- An authorization finds its session ready, or leaves the sessions as they are. -/
theorem authorize_cases (input : AuthorizeDriveSessionInput) (db : Database) :
    ((authorizeTransaction input db).1 = none ∧
      (authorizeTransaction input db).2.driveSessions = db.driveSessions) ∨
    ∃ row, db.driveSessions.get? input.sessionId = some row ∧ row.status = .created ∧
      input.now < row.expiresAt ∧ (authorizeTransaction input db).1 = some row.expiresAt ∧
      ∀ other, (authorizeTransaction input db).2.driveSessions.get? other =
        if input.sessionId = other then some
          { row with status := .negotiating, startedAt := some input.now, updatedAt := input.now }
        else db.driveSessions.get? other := by
  unfold authorizeTransaction
  split
  · exact .inl ⟨rfl, rfl⟩
  · next row db' hupdate =>
    obtain ⟨hget, hp, hrows⟩ := updateSession_get? hupdate
    simp only [Bool.and_eq_true, decide_eq_true_eq] at hp
    exact .inr ⟨row, hget, hp.1.2, hp.2, rfl, hrows⟩

/-- A session is marked active, or the sessions stay as they are. -/
theorem markActive_cases (sessionId : Uuid) (now : Int) (db : Database) :
    ((markActiveTransaction sessionId now db).1 = false ∧
      (markActiveTransaction sessionId now db).2.driveSessions = db.driveSessions) ∨
    ∃ row, db.driveSessions.get? sessionId = some row ∧ row.status = .negotiating ∧
      (markActiveTransaction sessionId now db).1 = true ∧
      ∀ other, (markActiveTransaction sessionId now db).2.driveSessions.get? other =
        if sessionId = other then some { row with status := .active, updatedAt := now }
        else db.driveSessions.get? other := by
  unfold markActiveTransaction
  dsimp only
  split
  · exact .inl ⟨rfl, rfl⟩
  · next row db' hupdate =>
    obtain ⟨hget, hp, hrows⟩ := updateSession_get? hupdate
    simp only [Bool.and_eq_true, decide_eq_true_eq] at hp
    exact .inr ⟨row, hget, hp.1.1, rfl, hrows⟩

/-- A live session ends, or the sessions stay as they are. -/
theorem end_cases (pick : Uuid → Nat) (sessionId : Uuid) (now : Int) (db : Database) :
    (endTransaction pick sessionId now db).2.driveSessions = db.driveSessions ∨
    ∃ row, db.driveSessions.get? sessionId = some row ∧
      ∀ other, (endTransaction pick sessionId now db).2.driveSessions.get? other =
        if sessionId = other then
          some { row with status := .ended, endedAt := some now, updatedAt := now }
        else db.driveSessions.get? other := by
  unfold endTransaction
  split
  · exact .inl rfl
  · next row db' hupdate =>
    obtain ⟨hget, -, hrows⟩ := updateSession_get? hupdate
    exact .inr ⟨row, hget, hrows⟩

theorem expire_get? (pick : Uuid → Nat) (now : Int) (db : Database) (sessionId : Uuid) :
    (expireTransaction pick now db).2.driveSessions.get? sessionId =
      (db.driveSessions.get? sessionId).map (patch (expires now) fun row =>
        { row with status := .ended, endedAt := some now, updatedAt := now }) := by
  have hrows : (expireTransaction pick now db).2.driveSessions =
      db.driveSessions.update (expires now)
        (fun row => { row with status := .ended, endedAt := some now, updatedAt := now })
        (fun _ => rfl) := releaseSession_foldl _ _
  rw [hrows, Table.get?_update]

/-- What `create` makes of a session's row: it stays as it is, or it is the new one. -/
def CreatedRow (input : CreateInput) (old new : Option DriveSession) : Prop :=
  new = old ∨ ∃ row : DriveSession, row.status = .created ∧
    row.expiresAt = input.checkedAt + driveSessionDurationMs ∧ old = none ∧ new = some row

theorem insertSession_get? (db : Database) (input : CreateInput) (entry : QueueRow) (car : Car)
    (device : Device) (other : Uuid) :
    CreatedRow input (db.driveSessions.get? other)
      ((insertSession db input entry car device).2.driveSessions.get? other) := by
  unfold insertSession
  dsimp only
  split
  · exact .inl rfl
  · next driveSessions hinsert =>
    dsimp only
    rw [Table.get?_insert? hinsert]
    split
    · next hid =>
      refine .inr ⟨_, rfl, rfl, ?_, rfl⟩
      by_contra hfound
      obtain ⟨row, hget⟩ := Option.ne_none_iff_exists'.1 hfound
      obtain ⟨hmem, hrow⟩ := Table.get?_eq_some_iff.1 hget
      exact ((Table.insert?_eq_some hinsert).1 row hmem).1 (hrow.trans hid.symm)
    · exact .inl rfl

theorem create_get? (input : CreateInput) (db : Database) (other : Uuid) :
    CreatedRow input (db.driveSessions.get? other)
      ((createTransaction input db).2.driveSessions.get? other) := by
  unfold createTransaction
  dsimp only
  split
  · exact .inl rfl
  · split
    · exact .inl rfl
    · split
      · exact .inl rfl
      · split
        · exact .inl rfl
        · split
          · exact .inl rfl
          · split
            · exact .inl rfl
            · exact insertSession_get? _ input _ _ _ other

theorem request_driveSessions (parseUrl : String → Option Url) (request : DeviceUpdateRequest)
    (db : Database) :
    (requestTransaction parseUrl request db).2.driveSessions = db.driveSessions := by
  unfold requestTransaction
  split
  · rfl
  · dsimp only
    split
    · rfl
    · split
      · rfl
      · split <;> rfl

theorem claim_driveSessions (pick : Nat) (deviceId : Uuid) (runtimeGeneration now : Int)
    (db : Database) :
    (claimTransaction pick deviceId runtimeGeneration now db).2.driveSessions =
      db.driveSessions := by
  unfold claimTransaction
  dsimp only
  split <;> rfl

/-! ### No session becomes unused -/

theorem Used.update {row : DriveSession} {other : Uuid} (h : Used db sessionId)
    (hrows : ∀ id, db'.driveSessions.get? id =
      if other = id then some row else db.driveSessions.get? id)
    (hstatus : row.status ≠ .created) : Used db' sessionId := by
  rw [Used, hrows]
  split
  · exact ⟨row, rfl, hstatus⟩
  · exact h

theorem Used.end (h : Used db sessionId) (pick : Uuid → Nat) (other : Uuid) (now : Int) :
    Used (endTransaction pick other now db).2 sessionId := by
  rcases end_cases pick other now db with hrows | ⟨row, -, hrows⟩
  · exact h.of_eq hrows
  · exact h.update hrows nofun

theorem Used.statement {request : StoreRequest} {rest : Prog Database Reply}
    (h : Used db sessionId) (hstatement : StatementOf db request db' rest) :
    Used db' sessionId := by
  cases hstatement with
  | authorizeDriveSession id userId carId now =>
    rcases authorize_cases ⟨id, userId, carId, now⟩ db with ⟨-, hrows⟩ | ⟨row, -, -, -, -, hrows⟩
    · exact h.of_eq hrows
    · exact h.update hrows nofun
  | markDriveSessionActive id now =>
    rcases markActive_cases id now db with ⟨-, hrows⟩ | ⟨row, -, -, -, hrows⟩
    · exact h.of_eq hrows
    · exact h.update hrows nofun
  | endDriveSession pick id reason now => exact h.end pick id now
  | claimPendingUpdate pick deviceId runtimeGeneration now =>
    exact h.of_eq (claim_driveSessions _ _ _ _ _)
  | recordUpdateStatus deviceId updateId status reason now => exact h.of_eq rfl
  | authenticateDevice credential deviceId carId suppliedHash agentVersion capabilities now =>
    exact h.of_eq rfl
  | credentials => exact h
  | aside hplain haside => exact h.of_eq haside.driveSessions

theorem Used.sweepStatement {call : SweepCall} (h : Used db sessionId)
    (hstatement : SweepStatement db call db') : Used db' sessionId := by
  cases hstatement with
  | presence stale cutoff now haside => exact h.of_eq haside.driveSessions
  | expireDriveSessions pick now =>
    obtain ⟨row, hget, hrow⟩ := h
    refine ⟨_, by rw [expire_get?, hget]; rfl, ?_⟩
    unfold patch
    split
    · nofun
    · exact hrow
  | endDriveSession pick id now => exact h.end pick id now

theorem Used.web (h : Used db sessionId) (parseUrl : String → Option Url) (call : WebCall) :
    Used (call.run parseUrl db) sessionId := by
  cases call with
  | create input =>
    obtain ⟨row, hget, hrow⟩ := h
    rcases create_get? input db sessionId with heq | ⟨_, -, -, hnone, -⟩
    · exact ⟨row, heq.trans hget, hrow⟩
    · rw [hget] at hnone
      cases hnone
  | requestDeviceUpdate request => exact h.of_eq (request_driveSessions parseUrl request db)

end rows

/-! ## Grants -/

namespace System

variable {config : GatewayConfig} {parseUrl : String → Option Url} {s t : System} {e : Event}
  {server : Server} {call : Option RegistryCall} {next : Option Handler} {pick : Uuid → Nat}
  {number : Nat} {sessionId : Uuid}

/-- A handler's call has authorized a session, and the handler has not gone on yet. -/
def Granted (s : System) (number : Nat) (sessionId : Uuid) : Prop :=
  ∃ handler ticket expiresAt, s.server.handlers.get? number = some handler ∧
    handler.next = .authorized ticket ∧ ticket.sessionId = sessionId ∧
    s.calls.get? number = some (.done (.authorized (some expiresAt)))

structure Grants (s : System) : Prop where
  calls : ∀ number handler ticket, s.server.handlers.get? number = some handler →
    handler.next = .authorized ticket → ∃ now, handler.call =
      .authorizeDriveSession ticket.sessionId ticket.sub ticket.carId now
  granted : ∀ number sessionId, s.Granted number sessionId → Used s.store sessionId
  held : ∀ socket sessionId, s.server.authenticatedSessionId socket = some sessionId →
    Used s.store sessionId
  live : ∀ sessionId p, s.server.sessions.parties sessionId = some p → Used s.store sessionId
  once : ∀ number other sessionId, s.Granted number sessionId → s.Granted other sessionId →
    number = other
  /-- Nobody speaks for a session that is still to be attached. -/
  free : ∀ number sessionId, s.Granted number sessionId →
    (∀ socket, s.server.authenticatedSessionId socket ≠ some sessionId) ∧
      s.server.sessions.parties sessionId = none
  browser : ∀ socket sessionId p, s.server.authenticatedSessionId socket = some sessionId →
    s.server.sessions.parties sessionId = some p → p.browser = socket

theorem Grants.start (store : Database) : Grants (start store) where
  calls := fun _ _ _ h => nomatch h
  granted := fun _ _ ⟨_, _, _, h, _⟩ => nomatch h
  held := fun _ _ h => nomatch h
  live := fun _ _ h => nomatch h
  once := fun _ _ _ ⟨_, _, _, h, _⟩ => nomatch h
  free := fun _ _ ⟨_, _, _, h, _⟩ => nomatch h
  browser := fun _ _ _ h => nomatch h

/-! ### Events of the server -/

/-- A call that is made has statements to come. -/
theorem code_ne_done (request : StoreRequest) (pick : Uuid → Nat) (reply : Reply) :
    request.code pick ≠ .done reply := by
  cases request <;> exact fun h => nomatch h

/-- A call that has come to its result before an event is another one than the handler's that the
event is about. -/
theorem done_of_serve (hturn : Server.Turn config s.server e server call next) {handler : Handler}
    {reply : Reply} (hget : server.handlers.get? number = some handler)
    (hdone : (s.callsAfter server e pick).get? number = some (.done reply)) :
    s.server.handlers.get? number = some handler ∧ s.calls.get? number = some (.done reply) ∧
      e.number? ≠ some number := by
  rw [callsAfter_get?] at hdone
  have hget' := hget
  rw [hturn.handlers] at hget'
  split at hdone
  · rw [hget] at hdone
    exact absurd (Option.some.inj hdone) (code_ne_done _ _ _)
  · next hother =>
    rw [if_neg hother] at hget'
    exact ⟨hget', hdone, hother⟩

theorem granted_of_serve
    (hturn : Server.Turn config s.server e server call next)
    (h : (s.served server e pick).Granted number sessionId) :
    s.Granted number sessionId ∧ e.number? ≠ some number := by
  obtain ⟨handler, ticket, expiresAt, hget, hnext, hid, hdone⟩ := h
  obtain ⟨hget, hdone, hother⟩ := done_of_serve hturn hget hdone
  exact ⟨⟨handler, ticket, expiresAt, hget, hnext, hid, hdone⟩, hother⟩

/-- A browser is attached for the session that its handler's call has authorized. -/
theorem granted_of_attach (hanswers : s.Answers e) {session : BrowserSession}
    {browser : Peer} {now : Int}
    (h : Server.Calls config s.server e (.attachBrowser session browser now)) :
    ∃ number, e.number? = some number ∧ s.Granted number session.sessionId := by
  cases h with
  | attachBrowser hget hnext =>
    next number expiresAt handler ticket iceServers =>
    refine ⟨number, rfl, handler, ticket, expiresAt, hget, hnext, rfl, ?_⟩
    exact (hanswers number _ _ rfl).resolve_left (by rintro ⟨⟩)

/-- Who speaks for a session after an event. -/
theorem held_of_serve (hanswers : s.Answers e)
    (hturn : Server.Turn config s.server e server call next) {socket : Peer}
    (h : server.authenticatedSessionId socket = some sessionId) :
    s.server.authenticatedSessionId socket = some sessionId ∨
      ∃ number, e.number? = some number ∧ s.Granted number sessionId ∧
        ∃ session now, call = some (.attachBrowser session socket now) := by
  rcases hturn.ids socket with heq | ⟨session, now, hcall, hid, -⟩
  · exact .inl (heq.symm.trans h)
  · right
    obtain ⟨number, hnumber, hgranted⟩ := granted_of_attach hanswers (hturn.calls _ hcall)
    obtain rfl := Option.some.inj (hid.symm.trans h)
    exact ⟨number, hnumber, hgranted, session, now, hcall⟩

theorem live_of_serve (hanswers : s.Answers e)
    (hturn : Server.Turn config s.server e server call next) {p : Parties}
    (h : server.sessions.parties sessionId = some p) :
    s.server.sessions.parties sessionId = some p ∨
      ∃ number, e.number? = some number ∧ s.Granted number sessionId ∧
        ∃ session now, call = some (.attachBrowser session p.browser now) := by
  rw [hturn.sessions] at h
  cases call with
  | none => exact .inl h
  | some c =>
    refine (SessionRegistry.parties_of_perform h).imp_right fun hattached => ?_
    obtain ⟨session, browser, now, rfl, hid, hbrowser⟩ :=
      SessionRegistry.attached_eq_some hattached
    obtain ⟨number, hnumber, hgranted⟩ := granted_of_attach hanswers (hturn.calls _ rfl)
    exact ⟨number, hnumber, hid ▸ hgranted, session, now, by rw [hbrowser]⟩

/-- Only an authorization is followed by the attachment of a browser. -/
theorem authorized_of_issued {before after : Server} {handler : Handler} {ticket : BrowserTicket}
    (h : Server.Issued before after e handler) (hnext : handler.next = .authorized ticket) :
    ∃ now, handler.call =
      .authorizeDriveSession ticket.sessionId ticket.sub ticket.carId now := by
  cases h with
  | plain hcall hplain =>
    rw [hnext] at hplain
    cases hplain
  | authorizeDriveSession =>
    next now ticket' =>
    obtain rfl := Continuation.authorized.inj hnext
    exact ⟨now, rfl⟩
  | ended reason now hended =>
    dsimp only at hnext
    rw [hnext] at hended
    cases hended
  | _ => cases hnext

theorem Grants.serve (h : Grants s) (pick : Uuid → Nat) (hanswers : s.Answers e)
    (hturn : Server.Turn config s.server e server call next) :
    Grants (s.served server e pick) where
  calls := by
    intro number handler ticket hget hnext
    dsimp only at hget
    have hget' := hget
    rw [hturn.handlers] at hget'
    split at hget'
    · exact authorized_of_issued (hturn.issued handler hget') hnext
    · exact h.calls number handler ticket hget' hnext
  granted := fun number sessionId hgranted =>
    h.granted number sessionId (granted_of_serve hturn hgranted).1
  held := by
    intro socket sessionId hid
    rcases held_of_serve hanswers hturn hid with hid | ⟨number, -, hgranted, -⟩
    · exact h.held socket sessionId hid
    · exact h.granted number sessionId hgranted
  live := by
    intro sessionId p hp
    rcases live_of_serve hanswers hturn hp with hp | ⟨number, -, hgranted, -⟩
    · exact h.live sessionId p hp
    · exact h.granted number sessionId hgranted
  once := fun number other sessionId hgranted hgranted' =>
    h.once number other sessionId (granted_of_serve hturn hgranted).1
      (granted_of_serve hturn hgranted').1
  free := by
    intro number sessionId hgranted
    obtain ⟨hgranted, hother⟩ := granted_of_serve hturn hgranted
    -- an attachment takes the only grant of its session
    have hsame : ∀ other, e.number? = some other → ¬ s.Granted other sessionId :=
      fun other hnumber hgranted' =>
        hother (h.once other number sessionId hgranted' hgranted ▸ hnumber)
    obtain ⟨hfree, hnone⟩ := h.free number sessionId hgranted
    refine ⟨fun socket hid => ?_, ?_⟩
    · rcases held_of_serve hanswers hturn hid with hid | ⟨other, hnumber, hgranted', -⟩
      · exact hfree socket hid
      · exact hsame other hnumber hgranted'
    · by_contra hlive
      obtain ⟨p, hp⟩ := Option.ne_none_iff_exists'.1 hlive
      rcases live_of_serve hanswers hturn hp with hp | ⟨other, hnumber, hgranted', -⟩
      · rw [hnone] at hp
        cases hp
      · exact hsame other hnumber hgranted'
  browser := by
    intro socket sessionId p hid hp
    rcases held_of_serve hanswers hturn hid with hid | ⟨number, -, hgranted, session, now, hcall⟩
    · rcases live_of_serve hanswers hturn hp with hp | ⟨number, -, hgranted, -⟩
      · exact h.browser socket sessionId p hid hp
      · exact absurd hid ((h.free number sessionId hgranted).1 socket)
    · rcases live_of_serve hanswers hturn hp with hp | ⟨_, -, -, session', now', hcall'⟩
      · rw [(h.free number sessionId hgranted).2] at hp
        cases hp
      · obtain heq := Option.some.inj (hcall.symm.trans hcall')
        injection heq with _ hbrowser
        exact hbrowser.symm

/-! ### Statements -/

/-- An authorization that is granted finds its session unused. -/
theorem unused_of_grant {request : StoreRequest} {db db' : Database} {rest : Prog Database Reply}
    {userId carId : Uuid} {now expiresAt : Int} (h : StatementOf db request db' rest)
    (hrequest : request = .authorizeDriveSession sessionId userId carId now)
    (hrest : rest = .done (.authorized (some expiresAt))) :
    ¬ Used db sessionId ∧ Used db' sessionId := by
  cases h with
  | authorizeDriveSession id userId' carId' now' =>
    obtain rfl := (StoreRequest.authorizeDriveSession.inj hrequest).1
    rcases authorize_cases ⟨id, userId', carId', now'⟩ db with
      ⟨hnone, -⟩ | ⟨row, hget, hcreated, -, -, hrows⟩
    · rw [hnone] at hrest
      cases hrest
    · refine ⟨?_, _, (hrows id).trans (if_pos rfl), nofun⟩
      rintro ⟨row', hget', hrow'⟩
      obtain rfl := Option.some.inj (hget.symm.trans hget')
      exact hrow' hcreated
  | aside hplain haside =>
    rw [hrequest] at hplain
    cases hplain
  | _ => cases hrequest

/-- What is granted after a statement was granted before, or the statement grants it. -/
theorem granted_of_statement (h : Grants s) (hfits : Fits s) {act : Database → Database}
    {rest : Database → Prog Database Reply} {other : Nat}
    (hcall : s.calls.get? number = some (.atomic act rest))
    (hgranted : ({ s with
      store := act s.store
      calls := s.calls.set number (rest s.store) } : System).Granted other sessionId) :
    s.Granted other sessionId ∨
      (other = number ∧ ¬ Used s.store sessionId ∧ Used (act s.store) sessionId) := by
  obtain ⟨handler, ticket, expiresAt, hget, hnext, rfl, hdone⟩ := hgranted
  dsimp only at hget hdone
  rw [OrdMap.get?_set] at hdone
  split at hdone
  · next heq =>
    subst heq
    obtain ⟨now, hrequest⟩ := h.calls number handler ticket hget hnext
    have hstatement := hfits.statement hget hcall s.store
    exact .inr ⟨rfl, unused_of_grant hstatement hrequest (Option.some.inj hdone)⟩
  · exact .inl ⟨handler, ticket, expiresAt, hget, hnext, rfl, hdone⟩

/-- A statement grants its own call's session at most, and that was unused. -/
theorem Grants.of_used (h : Grants s) (hserver : t.server = s.server)
    (hused : ∀ sessionId, Used s.store sessionId → Used t.store sessionId) (number : Nat)
    (hgranted : ∀ other sessionId, t.Granted other sessionId → s.Granted other sessionId ∨
      (other = number ∧ ¬ Used s.store sessionId ∧ Used t.store sessionId)) :
    Grants t where
  calls := by
    rw [hserver]
    exact h.calls
  granted := by
    intro other sessionId hnew
    rcases hgranted other sessionId hnew with hold | ⟨-, -, hused'⟩
    · exact hused sessionId (h.granted other sessionId hold)
    · exact hused'
  held := by
    rw [hserver]
    exact fun socket sessionId hid => hused sessionId (h.held socket sessionId hid)
  live := by
    rw [hserver]
    exact fun sessionId p hp => hused sessionId (h.live sessionId p hp)
  once := by
    intro n m sessionId hnew hnew'
    rcases hgranted n sessionId hnew with hold | ⟨rfl, hunused, -⟩
    · rcases hgranted m sessionId hnew' with hold' | ⟨-, hunused, -⟩
      · exact h.once n m sessionId hold hold'
      · exact absurd (h.granted n sessionId hold) hunused
    · rcases hgranted m sessionId hnew' with hold' | ⟨rfl, -, -⟩
      · exact absurd (h.granted m sessionId hold') hunused
      · rfl
  free := by
    rw [hserver]
    intro other sessionId hnew
    rcases hgranted other sessionId hnew with hold | ⟨-, hunused, -⟩
    · exact h.free other sessionId hold
    · refine ⟨fun socket hid => hunused (h.held socket sessionId hid), ?_⟩
      by_contra hlive
      obtain ⟨p, hp⟩ := Option.ne_none_iff_exists'.1 hlive
      exact hunused (h.live sessionId p hp)
  browser := by
    rw [hserver]
    exact h.browser

theorem Grants.step {e : SystemEvent} (h : Grants s) (hfits : Fits s)
    (hstep : s.step config parseUrl e = some t) : Grants t := by
  cases step_cases hstep with
  | serve hanswers hserver =>
    obtain ⟨call, next, hturn⟩ := Server.step_serves hserver
    exact h.serve _ (answers_of_admits hanswers) hturn
  | sweep tick pick =>
    have hserver : s.server.step config (.sweep tick.sweepNow) =
        some (s.server.sweep tick.sweepNow) := rfl
    obtain ⟨call, next, hturn⟩ := Server.step_serves hserver
    have hgrants := h.serve pick (answers_sweep tick.sweepNow) hturn
    exact ⟨hgrants.calls, hgrants.granted, hgrants.held, hgrants.live, hgrants.once, hgrants.free,
      hgrants.browser⟩
  | statement hcall =>
    next number act rest =>
    obtain ⟨handler, hget⟩ := hfits.handler hcall
    exact h.of_used rfl (fun _ hused => hused.statement (hfits.statement hget hcall s.store))
      number fun other sessionId => granted_of_statement h hfits hcall
  | sweepStatement hcall =>
    exact h.of_used rfl (fun _ hused => hused.sweepStatement (hfits.sweepStatement hcall s.store))
      0 fun _ _ => .inl
  | sweepDone => exact h.of_used rfl (fun _ => id) 0 fun _ _ => .inl
  | web call => exact h.of_used rfl (fun _ hused => hused.web parseUrl call) 0 fun _ _ => .inl

end System

end RcOnline.Gateway
