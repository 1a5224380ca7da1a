import RcOnline.Gateway.Grants
import RcOnline.Gateway.StoreOutside

/-!
# The deadline of a connection

A drive session that does not connect within twenty seconds is over. The store says so in a
predicate and in the filters of two updates, the registry in the test of a report and in that of
its sweep. They agree at every instant, the last one included (`one_deadline`).
-/

namespace RcOnline.Gateway

open RcOnline.Lib RcOnline.Schema

/-- `shouldExpireDriveSession`. -/
def shouldExpireDriveSession (session : DriveSession) (now : Int) : Bool :=
  if session.expiresAt ≤ now then true
  else connecting session.status && decide (session.updatedAt ≤ now - driveConnectionTimeoutMs)

variable {r : SessionRegistry} {db : Database} {session : DriveSession} {now : Int}

/-! ## The store -/

/-- The filter of the expiry is the predicate, on the sessions that are live. -/
theorem expires_eq (session : DriveSession) (now : Int) :
    expires now session = (session.status.live && shouldExpireDriveSession session now) := by
  unfold expires shouldExpireDriveSession
  by_cases hexpired : session.expiresAt ≤ now
  · simp [hexpired]
  · simp [hexpired]

theorem expired_iff (pick : Uuid → Nat) (hrow : db.driveSessions.get? session.id = some session)
    (hlive : session.status.live = true) :
    (∃ after, (expireTransaction pick now db).2.driveSessions.get? session.id = some after ∧
        after.status = .ended) ↔
      shouldExpireDriveSession session now = true := by
  rw [expire_get?, hrow, Option.map_some]
  have hexpires : expires now session = shouldExpireDriveSession session now := by
    rw [expires_eq, hlive, Bool.true_and]
  cases hshould : shouldExpireDriveSession session now with
  | true =>
    rw [patch_of (hexpires.trans hshould)]
    exact iff_of_true ⟨_, rfl, rfl⟩ rfl
  | false =>
    rw [patch_of_not (by rw [hexpires, hshould]; exact Bool.false_ne_true)]
    refine iff_of_false ?_ Bool.false_ne_true
    rintro ⟨_, hsame, hended⟩
    obtain rfl := Option.some.inj hsame
    rw [hended] at hlive
    cases hlive

/-- The filter of the activation is the predicate's negation, on the sessions that negotiate. -/
theorem activates_iff (session : DriveSession) (now : Int) :
    (session.status = .negotiating && decide (now - driveConnectionTimeoutMs < session.updatedAt) &&
        decide (now < session.expiresAt)) = true ↔
      session.status = .negotiating ∧ shouldExpireDriveSession session now = false := by
  simp only [Bool.and_eq_true, decide_eq_true_eq, and_assoc]
  refine and_congr_right fun hstatus => ?_
  unfold shouldExpireDriveSession
  rw [hstatus]
  by_cases hexpired : session.expiresAt ≤ now
  · rw [if_pos hexpired]
    exact iff_of_false (fun h => absurd h.2 (not_lt.2 hexpired)) nofun
  · rw [if_neg hexpired, connecting, Bool.true_and, decide_eq_false_iff_not, not_le]
    exact and_iff_left (not_le.1 hexpired)

theorem markActive_iff (hrow : db.driveSessions.get? session.id = some session) :
    (markActiveTransaction session.id now db).1 = true ↔
      session.status = .negotiating ∧ shouldExpireDriveSession session now = false := by
  rw [← activates_iff]
  unfold markActiveTransaction updateSession
  dsimp only
  rw [hrow]
  dsimp only
  split
  · next hnone =>
    split at hnone
    · cases hnone
    · next hp => exact iff_of_false Bool.false_ne_true hp
  · next hsome =>
    split at hsome
    · next hp => exact iff_of_true rfl hp
    · cases hsome

/-! ## The registry -/

theorem markConnected_iff {sessionId : Uuid} {active : ActiveSession}
    (hsession : r.sessions.get? sessionId = some active) :
    (r.markConnected sessionId now).1 = true ↔ now < active.attachedAt + connectionTimeoutMs := by
  unfold SessionRegistry.markConnected
  split
  · next hnone =>
    rw [hsession] at hnone
    cases hnone
  · next found hfound =>
    obtain rfl := Option.some.inj (hsession.symm.trans hfound)
    split
    · next hlate => exact iff_of_false Bool.false_ne_true (not_lt.2 (of_decide_eq_true hlate))
    · next hearly =>
      exact iff_of_true rfl (not_le.1 (of_decide_eq_false (Bool.eq_false_iff.2 hearly)))

/-- A session that a pass over some entries ends. -/
def Due (now : Int) (entries : List (Uuid × ActiveSession)) (sessionId : Uuid) : Prop :=
  ∃ active, (sessionId, active) ∈ entries ∧ active.expiry now ≠ none

/-- The rounds of a sweep name the sessions that are due, and leave the others. -/
theorem sweepSession_foldl (now : Int) (entries : List (Uuid × ActiveSession))
    (state : List Uuid × SessionRegistry × List PeerAction) (sessionId : Uuid) :
    let after := entries.foldl (SessionRegistry.sweepSession now) state
    (sessionId ∈ after.1 ↔ sessionId ∈ state.1 ∨ Due now entries sessionId) ∧
      (¬ Due now entries sessionId →
        after.2.1.sessions.get? sessionId = state.2.1.sessions.get? sessionId) := by
  induction entries generalizing state with
  | nil => exact ⟨(or_iff_left nofun).symm, fun _ => rfl⟩
  | cons entry entries ih =>
    obtain ⟨hnamed, hleft⟩ := ih (SessionRegistry.sweepSession now state entry)
    have hdue : Due now (entry :: entries) sessionId ↔
        (entry.1 = sessionId ∧ entry.2.expiry now ≠ none) ∨ Due now entries sessionId := by
      constructor
      · rintro ⟨active, hmem, hexpiry⟩
        rcases List.mem_cons.1 hmem with rfl | hmem
        · exact .inl ⟨rfl, hexpiry⟩
        · exact .inr ⟨active, hmem, hexpiry⟩
      · rintro (⟨rfl, hexpiry⟩ | ⟨active, hmem, hexpiry⟩)
        · exact ⟨entry.2, List.mem_cons_self, hexpiry⟩
        · exact ⟨active, List.mem_cons_of_mem _ hmem, hexpiry⟩
    rw [List.foldl_cons, hdue]
    cases hexpiry : entry.2.expiry now with
    | none =>
      have hstep : SessionRegistry.sweepSession now state entry = state := by
        unfold SessionRegistry.sweepSession
        rw [hexpiry]
      rw [hstep] at hnamed hleft ⊢
      rw [or_iff_right (a := entry.1 = sessionId ∧ none ≠ none) fun h => h.2 rfl]
      exact ⟨hnamed, hleft⟩
    | some reason =>
      have hstep : SessionRegistry.sweepSession now state entry =
          (state.1 ++ [entry.1], (state.2.1.endSession entry.1 reason true).1,
            state.2.2 ++ (state.2.1.endSession entry.1 reason true).2) := by
        unfold SessionRegistry.sweepSession
        rw [hexpiry]
      rw [hstep] at hnamed hleft ⊢
      refine ⟨hnamed.trans ?_, fun hnot => ?_⟩
      · rw [List.mem_append, List.mem_singleton, or_assoc]
        refine or_congr_right (or_congr_left ⟨fun h => ⟨h.symm, nofun⟩, fun h => h.1.symm⟩)
      · obtain ⟨hother, hnot⟩ := not_or.1 hnot
        rw [hleft hnot, SessionRegistry.endSession_get?, if_neg fun h => hother ⟨h, nofun⟩]

/-- A sweep ends a session if and only if it has expired, and leaves the others as they are. -/
theorem sweep_iff {sessionId : Uuid} {active : ActiveSession}
    (hsession : r.sessions.get? sessionId = some active) :
    (sessionId ∈ (r.sweep now).1 ↔ active.expiry now ≠ none) ∧
      (active.expiry now = none →
        (r.sweep now).2.1.sessions.get? sessionId = some active) := by
  obtain ⟨hnamed, hleft⟩ := sweepSession_foldl now r.sessions.entries ([], r, []) sessionId
  have hdue : Due now r.sessions.entries sessionId ↔ active.expiry now ≠ none := by
    constructor
    · rintro ⟨other, hmem, hexpiry⟩
      obtain rfl := Option.some.inj (hsession.symm.trans (OrdMap.mem_entries_iff.1 hmem))
      exact hexpiry
    · exact fun hexpiry => ⟨active, OrdMap.mem_entries_iff.2 hsession, hexpiry⟩
  rw [hdue] at hnamed hleft
  exact ⟨hnamed.trans (or_iff_right List.not_mem_nil),
    fun hnone => (hleft (not_not.2 hnone)).trans hsession⟩

theorem expiry_eq_none_iff (active : ActiveSession) (now : Int) :
    active.expiry now = none ↔
      now < active.expiresAt ∧
        (active.connectedAt = none → now < active.attachedAt + connectionTimeoutMs) := by
  unfold ActiveSession.expiry ActiveSession.timedOut
  rw [ite_eq_right_iff, ← not_le]
  simp only [Bool.or_eq_true, Bool.and_eq_true, decide_eq_true_eq, Option.isNone_iff_eq_none,
    reduceCtorEq, imp_false, not_or, not_and, not_le]

/-! ## One deadline -/

/-- What the registry does with a session that the store has marked active. -/
structure StaysConnected (r : SessionRegistry) (sessionId : Uuid) (active : ActiveSession)
    (now : Int) : Prop where
  marked : (r.markConnected sessionId now).1 = true
  kept : sessionId ∉ (r.sweep now).1
  held : (r.sweep now).2.1.sessions.get? sessionId = some active

/-- **Main result.** The store and the registry draw one deadline. -/
theorem one_deadline (pick : Uuid → Nat) (db : Database) (session : DriveSession) (now : Int)
    (hrow : db.driveSessions.get? session.id = some session)
    (hlive : session.status.live = true) :
    ((∃ after, (expireTransaction pick now db).2.driveSessions.get? session.id = some after ∧
        after.status = .ended) ↔ shouldExpireDriveSession session now = true) ∧
    ((markActiveTransaction session.id now db).1 = true ↔
      session.status = .negotiating ∧ shouldExpireDriveSession session now = false) ∧
    ∀ (r : SessionRegistry) (active : ActiveSession), r.sessions.get? session.id = some active →
      session.updatedAt ≤ active.attachedAt → active.expiresAt = session.expiresAt →
        (markActiveTransaction session.id now db).1 = true →
          StaysConnected r session.id active now := by
  refine ⟨expired_iff pick hrow hlive, markActive_iff hrow,
    fun r active hsession hattached hexpiresAt hmarked => ?_⟩
  have hopen := (activates_iff session now).2 ((markActive_iff hrow).1 hmarked)
  simp only [Bool.and_eq_true, decide_eq_true_eq] at hopen
  obtain ⟨⟨-, hrecent⟩, hunexpired⟩ := hopen
  have hearly : now < active.attachedAt + connectionTimeoutMs := by
    unfold connectionTimeoutMs
    unfold driveConnectionTimeoutMs at hrecent
    omega
  have hexpiry : active.expiry now = none := by
    rw [expiry_eq_none_iff, hexpiresAt]
    exact ⟨hunexpired, fun _ => hearly⟩
  obtain ⟨hnamed, hheld⟩ := sweep_iff hsession
  exact ⟨(markConnected_iff hsession).2 hearly, fun hmem => hnamed.1 hmem hexpiry, hheld hexpiry⟩

/-! ## At the deadline -/

/-- A row that began to negotiate at zero. -/
def demoNegotiation : DriveSession :=
  { id := 1, userId := 2, carId := 3, queueEntryId := none, status := .negotiating,
    expiresAt := 300000, startedAt := some 0, endedAt := none, createdAt := 0, updatedAt := 0 }

def demoRows : Database :=
  { cars := .empty, devices := .empty, deviceCredentials := .empty, firmwareVersions := .empty,
    deviceUpdateJobs := .empty, queueEntries := .empty
    driveSessions := ⟨[demoNegotiation], List.nodup_singleton _⟩ }

/-- The registry that the browser of `demoNegotiation` was attached to in the same instant. -/
def demoAttached : SessionRegistry :=
  ((SessionRegistry.empty.attachDevice 3 9 7).1.attachBrowser
    { sessionId := 1, carId := 3, userId := 2, expiresAt := 300000, iceServers := [] } 8 0).2.1

/-- In the last millisecond the connection is in time, and in the next one it is not. -/
theorem demoNegotiation_deadline :
    (markActiveTransaction 1 19999 demoRows).1 = true ∧
      (∃ active, StaysConnected demoAttached 1 active 19999) ∧
      (∃ after, (expireTransaction (fun _ => 0) 20000 demoRows).2.driveSessions.get? 1 =
        some after ∧ after.status = .ended) := by
  obtain ⟨-, hmarks, hregistry⟩ := one_deadline (fun _ => 0) demoRows demoNegotiation 19999 rfl rfl
  have hmarked := hmarks.2 ⟨rfl, by decide⟩
  obtain ⟨hends, -, -⟩ := one_deadline (fun _ => 0) demoRows demoNegotiation 20000 rfl rfl
  exact ⟨hmarked, ⟨_, hregistry demoAttached _ rfl (by decide) rfl hmarked⟩, hends.2 (by decide)⟩

end RcOnline.Gateway
