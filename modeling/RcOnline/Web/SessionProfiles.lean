import RcOnline.Web.AuthSessions

/-!
# Profiles of sessions

Any number of sessions may ask at once for the profile of a user who has none. `getSessionProfile`
reads, inserts unless another call has, and reads again; while the user does not change the profile
and it is not deleted, all calls come to the one that is stored (`profiles_agree`).
-/

namespace RcOnline.Web

open RcOnline.Lib RcOnline.Accounts

variable {folding : CaseFolding} {sha256 : String → String} {userId : Uuid} {db db' : Database}

open AuthStore (selectProfile insertProfile)

/-- A profile that the user has stays. -/
def ProfileStays (userId : Uuid) (db db' : Database) : Prop :=
  ∀ profile, selectProfile userId db = some profile → selectProfile userId db' = some profile

theorem ProfileStays.of_rows
    (h : ∀ row ∈ db.nicknames.rows, row.userId = userId → row ∈ db'.nicknames.rows) :
    ProfileStays userId db db' := by
  intro profile hprofile
  obtain ⟨row, hrow, rfl⟩ := Option.map_eq_some_iff.1 hprofile
  obtain ⟨hmem, hkey⟩ := Table.get?_eq_some_iff.1 hrow
  exact congrArg (Option.map _) (Table.get?_eq_some_iff.2 ⟨h row hmem hkey, hkey⟩)

theorem ProfileStays.of_eq (h : db'.nicknames = db.nicknames) : ProfileStays userId db db' :=
  .of_rows fun _ hrow _ => h ▸ hrow

/-- The profile that is inserted is the one that is stored. -/
theorem insertProfile_ok {owner : Uuid} {attempt : Nat} {profile : SessionProfile}
    {nicknames : Table Nickname}
    (h : insertProfile folding owner attempt db.nicknames = some (profile, nicknames)) :
    ProfileStays userId db { db with nicknames } ∧
      selectProfile owner { db with nicknames } = some profile := by
  obtain ⟨inserted, hinsert, heq⟩ := Option.map_eq_some_iff.1 h
  cases heq
  have hget := (Table.get?_insert? hinsert owner).trans (if_pos rfl)
  exact ⟨.of_rows fun row hrow _ => (Table.mem_insert? hinsert).2 (.inl hrow),
    congrArg (Option.map _) hget⟩

/-- The transaction may change or delete the profile of the user. -/
def AccountTransaction.rewrites (userId : Uuid) : AccountTransaction → Bool
  | .updateOwnProfile authenticatedSubject _ => authenticatedSubject = userId
  | .deleteOwnAccount authenticatedSubject _ _ => authenticatedSubject = userId
  | .cleanupExpiredAccountData .. => true
  | _ => false

theorem commit_profile {transaction : AccountTransaction}
    (hkeeps : transaction.rewrites userId = false)
    (h : transaction.commit folding db = .ok db') : ProfileStays userId db db' := by
  cases transaction with
  | updateOwnProfile subject profile =>
    obtain ⟨⟨result, committed⟩, hcommit, rfl⟩ := map_eq_ok h
    have hother : subject ≠ userId := of_decide_eq_false hkeeps
    exact .of_rows fun row hrow howner =>
      (updateOwnProfile_ok hcommit).2 row hrow (howner ▸ hother.symm)
  | deleteOwnAccount subject =>
    cases h
    have hother : subject ≠ userId := of_decide_eq_false hkeeps
    exact .of_rows fun row hrow howner =>
      Table.mem_delete.2 ⟨hrow, decide_eq_false (howner ▸ hother.symm)⟩
  | takeRateLimitAttempt =>
    obtain ⟨⟨attempt, authRateLimits⟩, -, rfl⟩ := map_eq_ok h
    exact .of_eq rfl
  | cleanupExpiredAccountData => cases hkeeps
  | registerPendingAccount | createOrRotateActionToken | consumeActionToken
  | replacePasswordAndRevokeSessions =>
    exact .of_rows fun row hrow _ => (commit_spares rfl h).nicknames row hrow

theorem updateUser_nicknames {user saved : StoredAuthUser} {now : Int}
    (h : AuthStore.updateUser folding user now db = .ok (saved, db')) :
    db'.nicknames = db.nicknames := by
  unfold AuthStore.updateUser at h
  dsimp only at h
  split at h
  · cases h
  · split at h
    · cases h
    · cases h
      rfl

/-! ## Calls -/

/-- The profiles that calls of `getSessionProfile` for the user have returned. -/
def profilesOf (userId : Uuid) (state : AuthState) : List ProfileLookup :=
  state.profiles.filter (·.userId = userId)

/-- The profile stays, and no call of `getSessionProfile` for the user returns. -/
def Waits (userId : Uuid) (state state' : AuthState) : Prop :=
  ProfileStays userId state.db state'.db ∧ profilesOf userId state' = profilesOf userId state

theorem Waits.refl (state : AuthState) : Waits userId state state := ⟨.of_eq rfl, rfl⟩

theorem waits_stores : StoresMove folding (Waits userId) where
  refl := .refl
  createUser {state user now created db} hok := by
    refine ⟨?_, rfl⟩
    obtain ⟨users, -, hok⟩ := bind_eq_ok.1 hok
    obtain ⟨accountBalances, -, hok⟩ := bind_eq_ok.1 hok
    split at hok
    · next hfound =>
      cases hok
      obtain ⟨attempt, -, hinsert⟩ := List.exists_of_findSome?_eq_some hfound
      exact (insertProfile_ok hinsert).1
    · cases hok
  updateSession {state session saved db} hok := by
    refine ⟨.of_eq ?_, rfl⟩
    unfold AuthStore.updateSession at hok
    split at hok
    · cases hok
    · split at hok
      · cases hok
      · cases hok
        rfl
  deleteSession := ⟨.of_eq rfl, rfl⟩
  identities := ⟨.of_eq rfl, rfl⟩
  balances := ⟨.of_eq rfl, rfl⟩
  insertProfile hinsert := ⟨(insertProfile_ok hinsert).1, rfl⟩

/-- Every call of `getSessionProfile` for the user has returned the profile that is stored. -/
def Agreed (userId : Uuid) (state : AuthState) : Prop :=
  ∀ lookup ∈ profilesOf userId state, ∀ profile, lookup.result = .ok profile →
    selectProfile userId state.db = some profile

/-- What a call of `getSessionProfile` comes to. -/
def Found (userId : Uuid) (result : Except AccountError SessionProfile) (state : AuthState) :
    Prop :=
  ∀ profile, result = .ok profile → selectProfile userId state.db = some profile

/-- How calls move the state. -/
def Agreeing (userId : Uuid) (state state' : AuthState) : Prop :=
  ProfileStays userId state.db state'.db

theorem Agreeing.refl (state : AuthState) : Agreeing userId state state := ProfileStays.of_eq rfl

theorem agreed_of_waits {state state' : AuthState} (hs : Agreed userId state)
    (h : Waits userId state state') : Agreed userId state' := by
  intro lookup hmem profile hprofile
  rw [h.2] at hmem
  exact h.1 _ (hs lookup hmem profile hprofile)

theorem keeps_of_waits {α : Type} {call : Prog AuthState α}
    (h : Prog.Keeps (fun _ => True) (Waits userId) call) :
    Prog.Keeps (Agreed userId) (Agreeing userId) call :=
  h.imp (fun _ _ => trivial) fun _ _ hs _ hwaits => ⟨agreed_of_waits hs hwaits, hwaits.1⟩

theorem relies_read (userId : Uuid) (state : AuthState) :
    Prog.Relies (Agreed userId) (Agreeing userId)
      (fun found state => ∀ profile, found = some profile →
        selectProfile userId state.db = some profile)
      (Prog.read fun state => selectProfile userId state.db) state :=
  .read .refl fun _ _ _ _ hfound => hfound

theorem relies_createProfile (userId : Uuid) (attempt : Nat) (state : AuthState) :
    Prog.Relies (Agreed userId) (Agreeing userId)
      (fun created state => ∀ profile, created = .ok (some profile) →
        selectProfile userId state.db = some profile)
      (AuthStore.createProfile folding userId attempt) state := by
  refine .stmt fun state _ hs => ?_
  have hsame : Agreeing userId state state := .refl state
  split
  · next created db hok =>
    dsimp only at hok
    split at hok
    · cases hok
      exact ⟨hs, hsame, nofun⟩
    · next profile nicknames hinsert =>
      split at hok
      · cases hok
        obtain ⟨hstays, hstored⟩ := insertProfile_ok hinsert
        refine ⟨agreed_of_waits hs ⟨hstays, rfl⟩, hstays, fun _ heq => ?_⟩
        cases heq
        exact hstored
      · cases hok
  · exact ⟨hs, hsame, nofun⟩

theorem relies_attemptProfiles (userId : Uuid) (attempts : List Nat) (state : AuthState) :
    Prog.Relies (Agreed userId) (Agreeing userId) (Found userId)
      (AuthStore.attemptProfiles folding userId attempts) state := by
  induction attempts generalizing state with
  | nil => exact nofun
  | cons attempt attempts ih =>
    refine (relies_createProfile userId attempt state).bind fun created state hcreated => ?_
    split
    · exact nofun
    · next profile =>
      rintro _ ⟨⟩
      exact hcreated profile rfl
    · refine (relies_read userId state).bind fun raced state hraced => ?_
      split
      · next profile =>
        rintro _ ⟨⟩
        exact hraced profile rfl
      · exact ih state

theorem relies_getSessionProfile (userId : Uuid) (state : AuthState) :
    Prog.Relies (Agreed userId) (Agreeing userId) (Found userId)
      (AuthStore.getSessionProfile folding userId) state := by
  refine (relies_read userId state).bind fun existing state hexisting => ?_
  split
  · next profile =>
    rintro _ ⟨⟩
    exact hexisting profile rfl
  · exact relies_attemptProfiles userId _ state

theorem relies_code {call : AuthCall}
    (hkeeps : ∀ transaction, call = .account transaction → transaction.rewrites userId = false)
    (state : AuthState) :
    Prog.Relies (Agreed userId) (Agreeing userId) (fun _ _ => True) (call.code folding sha256)
      state := by
  by_cases hprofile : ∃ number, call = .getSessionProfile number userId
  · obtain ⟨number, rfl⟩ := hprofile
    refine (relies_getSessionProfile userId state).bind fun result state hresult =>
      .stmt fun state' hmove hs => ⟨?_, .refl state', trivial⟩
    intro lookup hmem profile hlookup
    rw [profilesOf, List.filter_append] at hmem
    rcases List.mem_append.1 hmem with hmem | hmem
    · exact hs lookup hmem profile hlookup
    · obtain rfl := List.mem_singleton.1 (List.mem_of_mem_filter hmem)
      exact hmove _ (hresult profile hlookup)
  · refine (keeps_of_waits (keeps_code waits_stores ?_ ?_ ?_ ?_ ?_)).relies state
    · rintro sessionToken user expires now - state session created db - hok
      have hnicknames := congrArg Database.nicknames (createSession_eq_ok hok).2.2
      exact ⟨.of_eq hnicknames, rfl⟩
    · rintro update now - state user now' saved db - hok
      exact ⟨.of_eq (updateUser_nicknames hok), rfl⟩
    · exact fun _ _ _ => .refl _
    · intro number owner heq result state
      -- The call is for another user.
      have hother : owner ≠ userId := fun howner => hprofile ⟨number, howner ▸ heq⟩
      refine ⟨.of_eq rfl, ?_⟩
      rw [profilesOf, List.filter_append, List.filter_cons_of_neg (by simpa using hother),
        List.filter_nil, List.append_nil]
      rfl
    · rintro transaction heq state db hok
      exact ⟨commit_profile (hkeeps transaction heq) hok, rfl⟩

/-- In every interleaving in which no transaction changes or deletes the profile of a user, the
calls of `getSessionProfile` for this user that return a profile all return the one that is
stored. -/
theorem profiles_agree (folding : CaseFolding) (sha256 : String → String) (db : Database)
    {events : List (PoolEvent AuthCall)} {pool : Pool AuthState}
    (hevents : ∀ transaction, .start (.account transaction) ∈ events →
      transaction.rewrites userId = false)
    (h : Run (StepOf (Pool.step (AuthCall.code folding sha256))) ⟨⟨db, [], []⟩, []⟩ events pool) :
    ∀ lookup ∈ pool.shared.profiles, lookup.userId = userId →
      ∀ profile, lookup.result = .ok profile →
        selectProfile userId pool.shared.db = some profile ∧
        ∀ lookup' ∈ pool.shared.profiles, lookup'.userId = userId →
          ∀ profile', lookup'.result = .ok profile' → profile' = profile := by
  have hmutual : Pool.Mutual (Agreed userId) (Agreeing userId) pool :=
    Pool.Mutual.run
      (fun call hmem => relies_code fun transaction heq => hevents transaction (heq ▸ hmem))
      .refl (fun h h' _ hprofile => h' _ (h _ hprofile)) ⟨by nofun, by nofun⟩ h
  have hstored : ∀ lookup ∈ pool.shared.profiles, lookup.userId = userId →
      ∀ profile, lookup.result = .ok profile →
        selectProfile userId pool.shared.db = some profile := fun lookup hmem howner =>
    hmutual.shared lookup (List.mem_filter.2 ⟨hmem, decide_eq_true howner⟩)
  intro lookup hmem howner profile hprofile
  have hselect := hstored lookup hmem howner profile hprofile
  refine ⟨hselect, fun lookup' hmem' howner' profile' hprofile' => ?_⟩
  exact Option.some.inj ((hstored lookup' hmem' howner' profile' hprofile').symm.trans hselect)

/-- Two calls have read that there is no profile before either inserts one. Another user, who has
none either, asks for a change. -/
def askedTwice : List (PoolEvent AuthCall) :=
  [.start (.getSessionProfile 0 "ada"), .start (.getSessionProfile 1 "ada"), .advance 0, .advance 1,
    .start (.account (.updateOwnProfile "bob" ⟨"Ada", "racer-blue"⟩)), .advance 2, .advance 1,
    .advance 0, .advance 0, .advance 0, .advance 1]

theorem askedTwice_agree :
    ∃ pool, Run (StepOf (Pool.step (AuthCall.code PasswordSystem.plainFolding id)))
        ⟨⟨signedIn, [], []⟩, []⟩ askedTwice pool ∧
      pool.shared.profiles.map (·.number) = [0, 1] ∧
      ∀ lookup ∈ pool.shared.profiles, lookup.userId = "ada" →
        ∀ profile, lookup.result = .ok profile →
          selectProfile "ada" pool.shared.db = some profile ∧
          ∀ lookup' ∈ pool.shared.profiles, lookup'.userId = "ada" →
            ∀ profile', lookup'.result = .ok profile' → profile' = profile := by
  have hall : (runList (Pool.step (AuthCall.code PasswordSystem.plainFolding id))
      ⟨⟨signedIn, [], []⟩, []⟩ askedTwice).any
      (fun pool => pool.shared.profiles.map (·.number) = [0, 1]) = true := by decide +kernel
  obtain ⟨pool, hrun, hprofiles⟩ := (Option.any_eq_true _ _).1 hall
  have hreached := run_of_runList hrun
  have hevents : ∀ transaction, .start (.account transaction) ∈ askedTwice →
      transaction.rewrites "ada" = false := by
    intro transaction hmem
    simp only [askedTwice, List.mem_cons, PoolEvent.start.injEq, AuthCall.account.injEq,
      reduceCtorEq, false_or, List.not_mem_nil, or_false] at hmem
    subst hmem
    rfl
  exact ⟨pool, hreached, of_decide_eq_true hprofiles, profiles_agree _ _ _ hevents hreached⟩

end RcOnline.Web
