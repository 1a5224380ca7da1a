import RcOnline.Gateway.StoreConsistency
import RcOnline.Web.QueueTransactions

/-!
# The gateway and the queue

What the gateway's calls do to the rows of the queue: each of their statements changes no entry but
those of drive sessions (`gateway_outside`). With the calls of the queue's own store beside them,
every interleaving keeps cars and sessions consistent and the entries of sessions out of the queue
(`queue_held`).
-/

namespace RcOnline.Gateway

open RcOnline.Lib RcOnline.Schema RcOnline.Web

/-! ## Statements of the gateway -/

/-- What ending some sessions does to an entry. -/
inductive Ends (sessions : List DriveSession) (entry : QueueEntry) : QueueEntry → Prop where
  | same : Ends sessions entry entry
  | ended {session : DriveSession} (hsession : session ∈ sessions)
      (hid : session.queueEntryId = some entry.id) (endedAt : Int) :
      Ends sessions entry
        { entry with status := .left, expiresAt := endedAt, updatedAt := endedAt }

/-- The changes that a statement may make to sessions and entries. -/
theorem outside_of_ends {before after : Database} {sessions : List DriveSession}
    (hmem : ∀ session ∈ sessions, session ∈ before.driveSessions.rows)
    (hentries : before.queueEntries.Corresponds (Ends sessions) after.queueEntries)
    (hsessions : ∀ session' ∈ after.driveSessions.rows, ∃ session ∈ before.driveSessions.rows,
      session'.queueEntryId = session.queueEntryId) : Outside before after where
  entries := hentries.mono fun {entry entry'} hends => by
    cases hends with
    | same => exact .inl rfl
    | ended hsession hid endedAt => exact .inr ⟨⟨_, hmem _ hsession, hid⟩, endedAt, rfl⟩
  sessions := hsessions

/-- A statement that leaves entries and sessions alone. -/
theorem outside_of_eq {before after : Database}
    (hentries : after.queueEntries = before.queueEntries)
    (hsessions : after.driveSessions = before.driveSessions) : Outside before after where
  entries := by
    rw [hentries]
    exact .refl (fun _ => .inl rfl) _
  sessions := fun session h => ⟨session, hsessions ▸ h, rfl⟩

/-- Releasing a session ends its entry. -/
theorem releaseSession_ends (pick : Uuid → Nat) (now : Int) (db : Database)
    (session : DriveSession) :
    db.queueEntries.Corresponds (Ends [session])
      (releaseSession pick now db session).queueEntries := by
  unfold releaseSession setCarState
  dsimp only
  split
  · exact .refl (fun _ => .same) _
  · next id hid =>
    refine Table.corresponds_update (fun row _ hrow => ?_) fun _ => .same
    refine .ended (List.mem_singleton_self session) ?_ now
    rw [hid, of_decide_eq_true hrow]

theorem releaseSession_foldl_ends (pick : Uuid → Nat) (now : Int) (sessions : List DriveSession)
    (db : Database) :
    db.queueEntries.Corresponds (Ends sessions)
      (sessions.foldl (releaseSession pick now) db).queueEntries := by
  induction sessions generalizing db with
  | nil => exact .refl (fun _ => .same) _
  | cons session rest ih =>
    refine (releaseSession_ends pick now db session).comp (ih _) fun {entry _ _} hfirst hrest => ?_
    cases hrest with
    | same =>
      cases hfirst with
      | same => exact .same
      | ended hsession hid endedAt =>
        exact .ended (List.mem_singleton.1 hsession ▸ List.mem_cons_self) hid endedAt
    | ended hsession hid endedAt =>
      cases hfirst with
      | same => exact .ended (List.mem_cons_of_mem _ hsession) hid endedAt
      | ended _ _ _ =>
        exact @Ends.ended (session :: rest) entry _ (List.mem_cons_of_mem _ hsession) hid endedAt

/-- The update of one session, and a state for its car. -/
theorem outside_of_updateSession {sessionId : Uuid} {p : DriveSession → Bool}
    {f : DriveSession → DriveSession} {hf : ∀ r, Row.key (f r) = Row.key r} {db db' : Database}
    {session : DriveSession} (h : updateSession sessionId p f hf db = some (session, db'))
    (hentry : ∀ session, (f session).queueEntryId = session.queueEntryId) {state : Car → CarState}
    {now : Int} : Outside db (setCarState session.carId state now db') := by
  obtain ⟨-, -, -, rfl⟩ := updateSession_eq_some h
  exact
    { entries := .refl (fun _ => .inl rfl) _
      sessions := fun other hother => by
        obtain ⟨old, hold, rfl⟩ := List.mem_map.1 hother
        exact ⟨old, hold, patch_column hentry⟩ }

theorem authorizeTransaction_outside (input : AuthorizeDriveSessionInput) (db : Database) :
    Outside db (authorizeTransaction input db).2 := by
  unfold authorizeTransaction
  split
  · exact outside_of_eq rfl rfl
  · next hupdate => exact outside_of_updateSession hupdate fun _ => rfl

theorem markActiveTransaction_outside (sessionId : Uuid) (now : Int) (db : Database) :
    Outside db (markActiveTransaction sessionId now db).2 := by
  unfold markActiveTransaction
  dsimp only
  split
  · exact outside_of_eq rfl rfl
  · next hupdate => exact outside_of_updateSession hupdate fun _ => rfl

theorem endTransaction_outside (pick : Uuid → Nat) (sessionId : Uuid) (now : Int) (db : Database) :
    Outside db (endTransaction pick sessionId now db).2 := by
  unfold endTransaction
  split
  · exact outside_of_eq rfl rfl
  · next session db' hupdate =>
    obtain ⟨hmem, -, -, rfl⟩ := updateSession_eq_some hupdate
    refine outside_of_ends ?_ (releaseSession_ends pick now _ session) ?_
    · intro other hother
      exact List.mem_singleton.1 hother ▸ hmem
    · intro other hother
      obtain ⟨old, hold, rfl⟩ := List.mem_map.1 hother
      exact ⟨old, hold, patch_column fun _ => rfl⟩

theorem expireTransaction_outside (pick : Uuid → Nat) (now : Int) (db : Database) :
    Outside db (expireTransaction pick now db).2 := by
  refine outside_of_ends ?_
    (releaseSession_foldl_ends pick now _ (endSessions (expires now) now db)) ?_
  · exact fun session h => (List.mem_filter.1 h).1
  · intro session hsession
    rw [expireTransaction, releaseSession_foldl] at hsession
    obtain ⟨old, hold, rfl⟩ := List.mem_map.1 hsession
    exact ⟨old, hold, patch_column fun _ => rfl⟩

/-! ## Programs of the gateway -/

/-- A program whose statements change the queue as code outside of it may. -/
abbrev StaysOutside {α : Type} (p : Prog Database α) : Prop := p.Keeps (fun _ => True) Outside

theorem StaysOutside.read {α : Type} (f : Database → α) : StaysOutside (.read f) :=
  Prog.Keeps.read (fun _ => outside_of_eq rfl rfl) f

theorem StaysOutside.stmt {α : Type} {f : Database → α × Database}
    (h : ∀ db, Outside db (f db).2) : StaysOutside (.stmt f) :=
  Prog.Keeps.stmt fun db _ => ⟨trivial, h db⟩

theorem updateDevice_outside (deviceId : Uuid) (f : Device → Device)
    (hf : ∀ r, Row.key (f r) = Row.key r) : StaysOutside (.stmt (updateDevice deviceId f hf)) :=
  .stmt fun _ => outside_of_eq rfl rfl

theorem updateCar_outside (carId : Uuid) (p : Database → Bool) (f : Car → Car)
    (hf : ∀ r, Row.key (f r) = Row.key r) : StaysOutside (.stmt (updateCar carId p f hf)) :=
  .stmt fun _ => outside_of_eq rfl rfl

theorem authenticateDevice_outside (pick : Nat) (deviceId : Uuid)
    (suppliedSecretHash agentVersion : String) (capabilities : DeviceCapabilities) (now : Int) :
    StaysOutside
      (authenticateDevice pick deviceId suppliedSecretHash agentVersion capabilities now) := by
  apply Prog.Keeps.bind (StaysOutside.read _)
  intro credential
  split
  · exact .pure _
  · split
    · exact .pure _
    · split
      · exact .bind (StaysOutside.stmt fun _ => outside_of_eq rfl rfl) fun _ => .pure _
      · exact .pure _

theorem recordHeartbeat_outside (deviceId : Uuid) (health : DeviceHealth) (now : Int) :
    StaysOutside (recordHeartbeat deviceId health now) := by
  apply Prog.Keeps.bind (updateDevice_outside deviceId _ _)
  intro carId
  split
  · exact .pure _
  · split
    · exact .bind (StaysOutside.read _) fun _ => .pure _
    · exact .bind (updateCar_outside _ _ _ _) fun _ =>
        .bind (StaysOutside.read _) fun _ => .pure _

theorem setPresenceState_outside (deviceId : Uuid) (state : PresenceState) (now : Int) :
    StaysOutside (setPresenceState deviceId state now) := by
  apply Prog.Keeps.bind (updateDevice_outside deviceId _ _)
  intro carId
  split
  · exact .pure _
  · exact .bind (StaysOutside.read _) fun _ => updateCar_outside _ _ _ _

theorem markDeviceOffline_outside (deviceId : Uuid) (now : Int) :
    StaysOutside (markDeviceOffline deviceId now) := by
  apply Prog.Keeps.bind (updateDevice_outside deviceId _ _)
  intro carId
  split
  · exact .pure _
  · exact updateCar_outside _ _ _ _

/-- Every call but `create` leaves the queue to others. -/
theorem gateway_outside (call : StoreCall) (hcall : ∀ input, call ≠ .create input) :
    StaysOutside call.code := by
  cases call with
  | create input => exact absurd rfl (hcall input)
  | authenticateDevice pick deviceId suppliedSecretHash agentVersion capabilities now =>
    exact .bind (authenticateDevice_outside _ _ _ _ _ _) fun _ => .pure _
  | recordHeartbeat deviceId health now =>
    exact .bind (recordHeartbeat_outside _ _ _) fun _ => .pure _
  | setPresenceState deviceId state now => exact setPresenceState_outside _ _ _
  | markDeviceOffline deviceId now => exact markDeviceOffline_outside _ _
  | authorizeDriveSession input =>
    exact .bind (StaysOutside.stmt (authorizeTransaction_outside input)) fun _ => .pure _
  | markDriveSessionActive sessionId now =>
    exact .bind (StaysOutside.stmt (markActiveTransaction_outside sessionId now)) fun _ => .pure _
  | endDriveSession pick sessionId now =>
    exact StaysOutside.stmt (endTransaction_outside pick sessionId now)
  | expireDriveSessions pick now =>
    exact .bind (StaysOutside.stmt (expireTransaction_outside pick now)) fun _ => .pure _

theorem held_of_outside {db db' : Database} (h : Outside db db') (hheld : Held db) : Held db' := by
  have hturns : db.queueEntries.Corresponds (Turn 0) db'.queueEntries := h.turns hheld
  exact hheld.turns hturns.after h.sessions

/-! ## Every interleaving -/

theorem StoreCall.code_held (call : StoreCall) : call.code.Keeps Held fun _ _ => True := by
  by_cases hcall : ∃ input, call = .create input
  · obtain ⟨input, rfl⟩ := hcall
    refine .bind (.stmt fun db hheld => ⟨?_, trivial⟩) fun _ => .pure _
    exact (createTransaction_creates input db).held hheld
  · refine (gateway_outside call (not_exists.1 hcall)).imp (fun _ _ => trivial) ?_
    exact fun db db' hheld _ houtside => ⟨held_of_outside houtside hheld, trivial⟩

/-- The calls of the three stores. -/
inductive QueueStoreCall where
  | store (call : StoreCall)
  | join (input : QueueInput)
  | read (input : QueueInput)
  | leave (userId : Uuid) (now : Int) (collate : String → String → Int)

/-- The code of a call, its result dropped. -/
def QueueStoreCall.code : QueueStoreCall → Prog Database Unit
  | .store call => call.code
  | .join input => do let _ ← Web.join input
  | .read input => do let _ ← Web.read input
  | .leave userId now collate => Web.leave userId now collate

/-- The transactions of the queue's store touch neither cars nor sessions. -/
theorem joinOrRefresh_keeps (explicitJoin : Bool) (input : QueueInput) {db : Database}
    (h : Consistent db ∧ Held db) :
    Consistent (joinOrRefresh explicitJoin input db).2 ∧
      Held (joinOrRefresh explicitJoin input db).2 := by
  obtain ⟨table, hrejoins, hdb⟩ := joinOrRefresh_rejoins explicitJoin input db
  rw [hdb]
  exact ⟨⟨h.1.oneLive, h.1.cars⟩,
    h.2.turns hrejoins.evolves.turn fun session h => ⟨session, h, rfl⟩⟩

theorem leaveTransaction_keeps (userId : Uuid) (now : Int) (collate : String → String → Int)
    {db : Database} (h : Consistent db ∧ Held db) :
    Consistent (leaveTransaction userId now collate db) ∧
      Held (leaveTransaction userId now collate db) := by
  have hturns := leaveTransaction_turns userId now collate db
  rw [leaveTransaction_db] at hturns ⊢
  exact ⟨⟨h.1.oneLive, h.1.cars⟩, h.2.turns hturns.after fun session h => ⟨session, h, rfl⟩⟩

theorem QueueStoreCall.code_keeps (call : QueueStoreCall) :
    call.code.Keeps (fun db => Consistent db ∧ Held db) fun _ _ => True := by
  cases call with
  | store call =>
    exact (call.code_keeps.and call.code_held).imp (fun _ h => h) fun _ _ _ h _ => ⟨h, trivial⟩
  | join input =>
    exact .bind (.stmt fun _ h => ⟨joinOrRefresh_keeps true input h, trivial⟩) fun _ => .pure _
  | read input =>
    exact .bind (.stmt fun _ h => ⟨joinOrRefresh_keeps false input h, trivial⟩) fun _ => .pure _
  | leave userId now collate =>
    exact .stmt fun _ h => ⟨leaveTransaction_keeps userId now collate h, trivial⟩

/-- Every interleaving of the calls keeps cars and sessions consistent, and the entry of every
session out of the queue. -/
theorem queue_held {start : Database} {events : List (PoolEvent QueueStoreCall)}
    {pool : Pool Database} (hstart : Consistent start) (hheld : Held start)
    (hrun : Run (StepOf (Pool.step QueueStoreCall.code)) ⟨start, []⟩ events pool) :
    Consistent pool.shared ∧ Held pool.shared := by
  have hsafe : Pool.Safe (fun db => Consistent db ∧ Held db) (fun _ _ => True) pool :=
    Pool.Safe.run QueueStoreCall.code_keeps (fun _ => trivial) ⟨⟨hstart, hheld⟩, by simp⟩ hrun
  exact hsafe.shared

end RcOnline.Gateway
