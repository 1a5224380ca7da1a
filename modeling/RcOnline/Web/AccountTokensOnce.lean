import RcOnline.Web.AccountTokens

/-!
# Action tokens take effect once

`Tracked` follows every token from its issue: its row keeps what it was issued with, and is consumed
or gone once it had its effect. Each transaction keeps it (`Tracked.step`), in whichever order they
commit.
-/

namespace RcOnline.Web

open RcOnline.Lib RcOnline.Accounts

/-- A user with a token has a credential, and at most one unconsumed token of a kind. -/
structure Backed (tokens : Table AccountActionToken) (credentials : Table PasswordCredential) :
    Prop where
  owned : ∀ token ∈ tokens.rows, ∃ credential ∈ credentials.rows,
    credential.userId = token.userId
  single : ∀ a ∈ tokens.rows, ∀ b ∈ tokens.rows, a.userId = b.userId → a.kind = b.kind →
    a.consumedAt = none → b.consumedAt = none → a = b

/-- The rows of a table are those of another, some of them consumed. -/
def Spends (before after : Table AccountActionToken) : Prop :=
  ∀ token ∈ after.rows, ∃ old ∈ before.rows,
    token = old ∨ ∃ now, token = { old with consumedAt := some now }

section Tables

variable {tokens tokens' : Table AccountActionToken}
  {credentials credentials' : Table PasswordCredential}

theorem Spends.refl (tokens : Table AccountActionToken) : Spends tokens tokens :=
  fun token hmem => ⟨token, hmem, .inl rfl⟩

theorem spends_delete (p : AccountActionToken → Bool) : Spends tokens (tokens.delete p) :=
  fun token hmem => ⟨token, (Table.mem_delete.1 hmem).1, .inl rfl⟩

theorem spends_update (p : AccountActionToken → Bool) (now : Int) :
    Spends tokens (tokens.update p ({ · with consumedAt := some now })) := by
  intro token hmem
  obtain ⟨old, hold, rfl⟩ := Table.mem_update.1 hmem
  rcases patch_cases p ({ · with consumedAt := some now }) old with hkept | ⟨-, hset⟩
  · exact ⟨old, hold, .inl hkept⟩
  · exact ⟨old, hold, .inr ⟨now, hset⟩⟩

theorem Spends.delete (h : Spends tokens tokens') (p : AccountActionToken → Bool) :
    Spends tokens (tokens'.delete p) :=
  fun token hmem => h token (Table.mem_delete.1 hmem).1

theorem Backed.delete (h : Backed tokens credentials) (p : AccountActionToken → Bool) :
    Backed (tokens.delete p) credentials where
  owned := fun token hmem => h.owned token (Table.mem_delete.1 hmem).1
  single := fun a ha b hb => h.single a (Table.mem_delete.1 ha).1 b (Table.mem_delete.1 hb).1

/-- Users lose their tokens with their credentials. -/
theorem Backed.deleteUsers (h : Backed tokens credentials) (p : Uuid → Bool) :
    Backed (tokens.delete (p ·.userId)) (credentials.delete (p ·.userId)) where
  owned := fun token hmem => by
    obtain ⟨hmem, hp⟩ := Table.mem_delete.1 hmem
    obtain ⟨credential, hcredential, huser⟩ := h.owned token hmem
    exact ⟨credential, Table.mem_delete.2 ⟨hcredential, by rw [huser]; exact hp⟩, huser⟩
  single := (h.delete _).single

theorem Backed.consume (h : Backed tokens credentials) (p : AccountActionToken → Bool) (now : Int) :
    Backed (tokens.update p ({ · with consumedAt := some now })) credentials := by
  refine ⟨fun token hmem => ?_, fun a ha b hb huser hkind hunused hunused' => ?_⟩
  · obtain ⟨old, hold, heq | ⟨_, heq⟩⟩ := spends_update p now token hmem
    · rw [heq]
      exact h.owned old hold
    · rw [heq]
      exact h.owned old hold
  · have hkept : ∀ token ∈ (tokens.update p ({ · with consumedAt := some now })).rows,
        token.consumedAt = none → token ∈ tokens.rows := by
      intro token hmem hunused
      obtain ⟨old, hold, heq | ⟨_, heq⟩⟩ := spends_update p now token hmem
      · rw [heq]
        exact hold
      · rw [heq] at hunused
        cases hunused
    exact h.single a (hkept a ha hunused) b (hkept b hb hunused') huser hkind hunused hunused'

theorem Backed.updateCredentials (h : Backed tokens credentials) (p : PasswordCredential → Bool)
    (f : PasswordCredential → PasswordCredential) (hf : ∀ r, Row.key (f r) = Row.key r) :
    Backed tokens (credentials.update p f hf) where
  owned := fun token hmem => by
    obtain ⟨credential, hcredential, huser⟩ := h.owned token hmem
    exact ⟨_, Table.mem_update.2 ⟨credential, hcredential, rfl⟩, (patch_column hf).trans huser⟩
  single := h.single

/-- A token is issued to a user without an unconsumed one of its kind. -/
theorem Backed.insert (h : Backed tokens credentials) {token : AccountActionToken}
    (hinsert : tokens.insert? (fun _ => false) token = some tokens')
    (howned : ∃ credential ∈ credentials.rows, credential.userId = token.userId)
    (hnone : ∀ old ∈ tokens.rows, old.userId = token.userId → old.kind = token.kind →
      old.consumedAt ≠ none) : Backed tokens' credentials := by
  refine ⟨fun a ha => ?_, fun a ha b hb huser hkind hunused hunused' => ?_⟩
  · rcases (Table.mem_insert? hinsert).1 ha with ha | rfl
    · exact h.owned a ha
    · exact howned
  · rcases (Table.mem_insert? hinsert).1 ha with ha | rfl
    · rcases (Table.mem_insert? hinsert).1 hb with hb | rfl
      · exact h.single a ha b hb huser hkind hunused hunused'
      · exact absurd hunused (hnone a ha huser hkind)
    · rcases (Table.mem_insert? hinsert).1 hb with hb | rfl
      · exact absurd hunused' (hnone b hb huser.symm hkind.symm)
      · rfl

/-- A new credential's user has no token. -/
theorem Backed.register (h : Backed tokens credentials) {credential : PasswordCredential}
    {token : AccountActionToken}
    (hcredential : credentials.insert? (fun _ => false) credential = some credentials')
    (hinsert : tokens.insert? (fun _ => false) token = some tokens')
    (huser : credential.userId = token.userId) : Backed tokens' credentials' := by
  have hgrown : Backed tokens credentials' := by
    refine ⟨fun old hold => ?_, h.single⟩
    obtain ⟨owner, howner, hsame⟩ := h.owned old hold
    exact ⟨owner, (Table.mem_insert? hcredential).2 (.inl howner), hsame⟩
  refine hgrown.insert hinsert ⟨credential, (Table.mem_insert? hcredential).2 (.inr rfl), huser⟩ ?_
  intro old hold hsame
  obtain ⟨owner, howner, howned⟩ := h.owned old hold
  have hfree := ((Table.insert?_eq_some hcredential).1 owner howner).1
  exact absurd (howned.trans (hsame.trans huser.symm)) hfree

end Tables

namespace AccountSystem

/-- What holds of every token from its issue on. -/
structure Tracked (system : AccountSystem) : Prop where
  backed : Backed system.db.accountActionTokens system.db.passwordCredentials
  distinct : (system.issued.map AccountActionToken.tokenHash).Nodup
  /-- A row is as it was issued, or consumed. -/
  traced : ∀ token ∈ system.db.accountActionTokens.rows,
    { token with consumedAt := none } ∈ system.issued
  authorized : ∀ effect ∈ system.effects, ∃ token ∈ system.issued,
    token.tokenHash = effect.tokenHash ∧ token.kind = effect.kind ∧
      token.userId = effect.userId ∧ effect.now < token.expiresAt
  once : (system.effects.map TokenEffect.tokenHash).Nodup
  spent : ∀ effect ∈ system.effects, ∀ token ∈ system.db.accountActionTokens.rows,
    token.tokenHash = effect.tokenHash → token.consumedAt ≠ none

variable {folding : CaseFolding} {system after : AccountSystem} {db : Database}

theorem tracked_start (db : Database) : Tracked (start db) := by
  constructor <;> simp [start, Table.empty]
  exact ⟨nofun, nofun⟩

/-- Rows of tokens are consumed or deleted. -/
theorem Tracked.spend (h : Tracked system)
    (hspends : Spends system.db.accountActionTokens db.accountActionTokens)
    (hbacked : Backed db.accountActionTokens db.passwordCredentials) :
    Tracked { system with db } := by
  refine { h with backed := hbacked, traced := ?_, spent := ?_ }
  · intro token hmem
    obtain ⟨old, hold, rfl | ⟨_, rfl⟩⟩ := hspends token hmem
    · exact h.traced _ hold
    · exact h.traced old hold
  · intro effect heffect token hmem hhash
    obtain ⟨old, hold, rfl | ⟨_, rfl⟩⟩ := hspends token hmem
    · exact h.spent effect heffect _ hold hhash
    · simp

/-- A usable token takes effect, and is usable no more. -/
theorem Tracked.effect (h : Tracked system)
    (hspends : Spends system.db.accountActionTokens db.accountActionTokens)
    (hbacked : Backed db.accountActionTokens db.passwordCredentials) {token : AccountActionToken}
    (hmem : token ∈ system.db.accountActionTokens.rows) {kind : AccountActionTokenKind}
    {tokenHash : String} {now : Int} (husable : usable kind tokenHash now token = true)
    (hspent : ∀ r ∈ db.accountActionTokens.rows, r.tokenHash = tokenHash → r.consumedAt ≠ none) :
    Tracked
      { system with
        db, effects := system.effects ++ [⟨tokenHash, kind, token.userId, now⟩] } := by
  simp only [usable, Bool.and_eq_true, decide_eq_true_eq, Option.isNone_iff_eq_none] at husable
  obtain ⟨⟨⟨hhash, hkind⟩, hunused⟩, hnow⟩ := husable
  have hrest := h.spend hspends hbacked
  refine { hrest with authorized := ?_, once := ?_, spent := ?_ }
  · intro effect heffect
    rcases List.mem_append.1 heffect with heffect | heffect
    · exact h.authorized effect heffect
    · rw [List.mem_singleton.1 heffect]
      exact ⟨_, h.traced token hmem, hhash, hkind, rfl, hnow⟩
  · rw [List.map_append, List.nodup_append]
    refine ⟨h.once, List.nodup_singleton _, ?_⟩
    intro hash hold _ hnew heq
    obtain ⟨effect, heffect, rfl⟩ := List.mem_map.1 hold
    rw [List.map_singleton, List.mem_singleton] at hnew
    refine h.spent effect heffect token hmem ?_ hunused
    exact hhash.trans (heq.trans hnew).symm
  · intro effect heffect r hr hsame
    rcases List.mem_append.1 heffect with heffect | heffect
    · exact hrest.spent effect heffect r hr hsame
    · rw [List.mem_singleton.1 heffect] at hsame
      exact hspent r hr hsame

/-- A token with a new hash is issued. -/
theorem Tracked.issue (h : Tracked system) {rest : Table AccountActionToken}
    (hspends : Spends system.db.accountActionTokens rest) {token : AccountActionToken}
    (hunused : token.consumedAt = none)
    (hinsert : rest.insert? (fun _ => false) token = some db.accountActionTokens)
    (hbacked : Backed db.accountActionTokens db.passwordCredentials)
    (hnew : token.tokenHash ∉ system.issued.map AccountActionToken.tokenHash) :
    Tracked { system with db, issued := system.issued ++ [token] } := by
  have hfirst : { token with consumedAt := none } = token := by
    rw [← hunused]
  have hmem : ∀ r ∈ db.accountActionTokens.rows, r ∈ rest.rows ∨ r = token :=
    fun r => (Table.mem_insert? hinsert).1
  refine ⟨hbacked, ?_, ?_, ?_, h.once, ?_⟩
  · rw [List.map_append, List.nodup_append]
    refine ⟨h.distinct, List.nodup_singleton _, ?_⟩
    rintro hash hold _ hlast rfl
    rw [List.map_singleton, List.mem_singleton] at hlast
    exact hnew (hlast ▸ hold)
  · intro r hr
    rcases hmem r hr with hr | rfl
    · obtain ⟨old, hold, rfl | ⟨_, rfl⟩⟩ := hspends r hr
      · exact List.mem_append_left _ (h.traced _ hold)
      · exact List.mem_append_left _ (h.traced old hold)
    · rw [hfirst]
      exact List.mem_append_right _ (List.mem_singleton_self _)
  · intro effect heffect
    obtain ⟨first, hissued, hrest⟩ := h.authorized effect heffect
    exact ⟨first, List.mem_append_left _ hissued, hrest⟩
  · intro effect heffect r hr hhash
    rcases hmem r hr with hr | rfl
    · obtain ⟨old, hold, rfl | ⟨_, rfl⟩⟩ := hspends r hr
      · exact h.spent effect heffect _ hold hhash
      · simp
    · obtain ⟨first, hissued, hsame, -⟩ := h.authorized effect heffect
      exact absurd (List.mem_map.2 ⟨first, hissued, hsame.trans hhash.symm⟩) hnew

theorem Tracked.consumeActionToken (h : Tracked system) {input : ActionTokenUse}
    {result : Option AccountActionResult} {token : AccountActionToken}
    (hconsumes : Consumes system.db db input result token) :
    Spends system.db.accountActionTokens db.accountActionTokens ∧
      Backed db.accountActionTokens db.passwordCredentials ∧
      ∀ r ∈ db.accountActionTokens.rows, r.tokenHash = input.tokenHash →
        r.consumedAt ≠ none := by
  obtain ⟨hmem, husable, htokens, hcredentials, -⟩ := hconsumes
  have hconsumed := h.backed.consume (usable input.kind input.tokenHash input.now) input.now
  rw [htokens]
  refine ⟨spends_update _ _, ?_, ?_⟩
  · rcases hcredentials with hsame | ⟨-, hupdated⟩
    · rw [hsame]
      exact hconsumed
    · rw [hupdated]
      exact hconsumed.updateCredentials _ _ _
  · intro r hr hhash
    have hsame : token.tokenHash = input.tokenHash := by
      simp only [usable, Bool.and_eq_true, decide_eq_true_eq] at husable
      exact husable.1.1.1
    rw [Table.eq_of_mem_update hmem hr (hhash.trans hsame.symm), patch_of husable]
    simp

theorem Tracked.replacePassword (h : Tracked system) {input : PasswordReplacement}
    {token : AccountActionToken} (hresets : Resets system.db db input token) :
    Spends system.db.accountActionTokens db.accountActionTokens ∧
      Backed db.accountActionTokens db.passwordCredentials ∧
      ∀ r ∈ db.accountActionTokens.rows, r.tokenHash = input.resetTokenHash →
        r.consumedAt ≠ none := by
  obtain ⟨hmem, husable, htokens, hcredentials, -⟩ := hresets
  have hconsumed := h.backed.consume (resettable system.db input) input.now
  simp only [usable, Bool.and_eq_true, decide_eq_true_eq] at husable
  obtain ⟨⟨⟨hsame, hkind⟩, -⟩, -⟩ := husable
  rw [htokens, hcredentials]
  refine ⟨(spends_update _ _).delete _, (hconsumed.delete _).updateCredentials _ _ _, ?_⟩
  -- The token that was used is among those that are deleted.
  intro r hr hhash
  obtain ⟨hr, hkept⟩ := Table.mem_delete.1 hr
  have hused := Table.eq_of_mem_update hmem hr (hhash.trans hsame.symm)
  have huser : r.userId = token.userId := by
    rw [hused]
    exact patch_column (g := AccountActionToken.userId) fun _ => rfl
  have hreset : r.kind = token.kind := by
    rw [hused]
    exact patch_column (g := AccountActionToken.kind) fun _ => rfl
  simp [huser, hreset, hkind] at hkept

/-- Right after a reset its user has no reset token. -/
theorem no_reset_token {input : PasswordReplacement} {token : AccountActionToken} {db' : Database}
    (hresets : Resets db db' input token) {r : AccountActionToken}
    (hr : r ∈ db'.accountActionTokens.rows) (huser : r.userId = token.userId) :
    r.kind ≠ .resetPassword := by
  rw [hresets.tokens] at hr
  have hkept := (Table.mem_delete.1 hr).2
  intro hkind
  simp [huser, hkind] at hkept

theorem Tracked.step (h : Tracked system) {event : AccountEvent}
    (hstep : DistinctStep folding system event after) : Tracked after := by
  obtain ⟨hnew, rfl⟩ := hstep
  cases event with
  | registerPendingAccount input occurredAt userId nicknameUuids =>
    simp only [AccountSystem.step]
    split
    · next result db hok =>
      have hregisters := registers_of_ok hok
      exact h.issue (.refl _) rfl hregisters.token
        (h.backed.register hregisters.credential hregisters.token rfl) (hnew _ rfl)
    · exact h
  | createOrRotateActionToken input =>
    simp only [AccountSystem.step]
    split
    · next result db hok =>
      obtain ⟨hnone, -⟩ | ⟨account, hsome, hrotates⟩ := rotates_of_ok hok
      · cases hnone
      · obtain rfl := Option.some.inj hsome
        refine h.issue (spends_delete _) rfl hrotates.tokens ?_ (hnew _ rfl)
        rw [hrotates.credentials]
        refine (h.backed.delete _).insert hrotates.tokens hrotates.credential ?_
        intro old hold huser hkind hunused
        have hkept := (Table.mem_delete.1 hold).2
        have hsame : old.userId = result.userId ∧ old.kind = input.kind := ⟨huser, hkind⟩
        simp [hsame, hunused] at hkept
    · next db hok =>
      obtain ⟨-, rfl⟩ | ⟨_, hsome, -⟩ := rotates_of_ok hok
      · exact h
      · cases hsome
    · exact h
  | consumeActionToken input =>
    simp only [AccountSystem.step]
    split
    · next result db hok =>
      obtain ⟨hnone, -⟩ | ⟨token, hconsumes⟩ := consumes_of_ok hok
      · cases hnone
      · obtain ⟨hspends, hbacked, hspent⟩ := h.consumeActionToken hconsumes
        split
        · next hkind =>
          obtain ⟨email, hresult⟩ := hconsumes.verified hkind
          obtain rfl := Option.some.inj hresult
          have husable := hconsumes.usable
          rw [hkind] at husable
          exact h.effect hspends hbacked hconsumes.mem husable hspent
        · exact h.spend hspends hbacked
    · next db hok =>
      obtain ⟨-, rfl⟩ | ⟨token, hconsumes⟩ := consumes_of_ok hok
      · exact h
      · obtain ⟨hspends, hbacked, -⟩ := h.consumeActionToken hconsumes
        exact h.spend hspends hbacked
    · exact h
  | replacePasswordAndRevokeSessions input =>
    simp only [AccountSystem.step]
    split
    · next result db hok =>
      obtain ⟨hnone, -⟩ | ⟨token, email, hresult, hresets⟩ := resets_of_ok hok
      · cases hnone
      · obtain rfl := Option.some.inj hresult
        obtain ⟨hspends, hbacked, hspent⟩ := h.replacePassword hresets
        exact h.effect hspends hbacked hresets.mem hresets.usable hspent
    · next db hok =>
      obtain ⟨-, rfl⟩ | ⟨_, _, hsome, -⟩ := resets_of_ok hok
      · exact h
      · cases hsome
    · exact h
  | deleteOwnAccount authenticatedSubject disabledAt deletedUuid =>
    exact h.spend (spends_delete _) (h.backed.deleteUsers (· = authenticatedSubject))
  | cleanupExpiredAccountData now batchSize choice =>
    simp only [AccountSystem.step]
    split
    · next result db hok =>
      obtain ⟨expired, ids, hcleans⟩ := cleansUp_of_ok hok
      refine h.spend ?_ ?_
      · rw [hcleans.tokens]
        exact (spends_delete _).delete _
      · rw [hcleans.tokens, hcleans.credentials]
        exact (h.backed.delete _).deleteUsers (· ∈ ids)
    · exact h
  | others users oauthIdentities authSessions => exact { h with }

/-! ## Main result -/

/-- Each effect is of a token issued for it, in time, and no token has two. -/
structure SingleUse (system : AccountSystem) : Prop where
  distinct : (system.issued.map AccountActionToken.tokenHash).Nodup
  authorized : ∀ effect ∈ system.effects, ∃ token ∈ system.issued,
    token.tokenHash = effect.tokenHash ∧ token.kind = effect.kind ∧
      token.userId = effect.userId ∧ effect.now < token.expiresAt
  once : (system.effects.map TokenEffect.tokenHash).Nodup

def SingleIssue (system : AccountSystem) : Prop :=
  ∀ a ∈ system.db.accountActionTokens.rows, ∀ b ∈ system.db.accountActionTokens.rows,
    a.userId = b.userId → a.kind = b.kind → a.consumedAt = none → b.consumedAt = none → a = b

/-- A reset that goes through leaves its user no reset token. -/
def NoResetTokenLeft (folding : CaseFolding) (system : AccountSystem) : Prop :=
  ∀ input account db, replacePasswordAndRevokeSessions folding system.db input =
      .ok (some account, db) →
    ∀ token ∈ db.accountActionTokens.rows, token.userId = account.userId →
      token.kind ≠ .resetPassword

/-- A step leaves a credential, or has an effect for its user: on its verification or its
password. -/
def ChangesByEffect (folding : CaseFolding) (system : AccountSystem) : Prop :=
  ∀ event, ∀ credential ∈ system.db.passwordCredentials.rows,
    ∀ credential' ∈ (system.step folding event).db.passwordCredentials.rows,
    credential'.userId = credential.userId → credential' = credential ∨
      ∃ effect, (system.step folding event).effects = system.effects ++ [effect] ∧
        effect.userId = credential.userId ∧
        (effect.kind = .verifyEmail ∧ credential'.passwordHash = credential.passwordHash ∨
          effect.kind = .resetPassword ∧ credential'.verifiedAt = credential.verifiedAt)

theorem changesByEffect (folding : CaseFolding) (system : AccountSystem) :
    ChangesByEffect folding system := by
  intro event credential hmem credential' hmem' huser
  have hsame : credential' ∈ system.db.passwordCredentials.rows → credential' = credential :=
    fun hold => Table.eq_of_key hold hmem huser
  cases event with
  | registerPendingAccount input occurredAt userId nicknameUuids =>
    simp only [AccountSystem.step] at hmem' ⊢
    split at hmem'
    · next result db hok =>
      have hinsert := (registers_of_ok hok).credential
      rcases (Table.mem_insert? hinsert).1 hmem' with hold | rfl
      · exact .inl (hsame hold)
      · exact absurd huser.symm ((Table.insert?_eq_some hinsert).1 credential hmem).1
    · exact .inl (hsame hmem')
  | createOrRotateActionToken input =>
    simp only [AccountSystem.step] at hmem' ⊢
    split at hmem'
    · next result db hok =>
      obtain ⟨hnone, -⟩ | ⟨_, -, hrotates⟩ := rotates_of_ok hok
      · cases hnone
      · exact .inl (hsame (hrotates.credentials ▸ hmem'))
    · next db hok =>
      obtain ⟨-, rfl⟩ | ⟨_, hsome, -⟩ := rotates_of_ok hok
      · exact .inl (hsame hmem')
      · cases hsome
    · exact .inl (hsame hmem')
  | consumeActionToken input =>
    simp only [AccountSystem.step] at hmem' ⊢
    split at hmem'
    · next result db hok =>
      obtain ⟨hnone, -⟩ | ⟨token, hconsumes⟩ := consumes_of_ok hok
      · cases hnone
      · rcases hconsumes.credentials with hkept | ⟨hkind, hupdated⟩
        · exact .inl (hsame (hkept ▸ hmem'))
        · obtain ⟨email, hresult⟩ := hconsumes.verified hkind
          obtain rfl := Option.some.inj hresult
          rw [hupdated] at hmem'
          have hafter := Table.eq_of_mem_update hmem hmem' huser
          rcases patch_cases _ _ credential with hkept | ⟨hp, hset⟩
          · exact .inl (hafter.trans hkept)
          · simp only [Bool.and_eq_true, decide_eq_true_eq] at hp
            refine .inr ⟨⟨input.tokenHash, .verifyEmail, token.userId, input.now⟩, ?_, hp.1.symm,
              .inl ⟨rfl, by rw [hafter.trans hset]⟩⟩
            simp only [hkind]
    · next db hok =>
      obtain ⟨-, rfl⟩ | ⟨token, hconsumes⟩ := consumes_of_ok hok
      · exact .inl (hsame hmem')
      · rcases hconsumes.credentials with hkept | ⟨hkind, -⟩
        · exact .inl (hsame (hkept ▸ hmem'))
        · obtain ⟨_, hresult⟩ := hconsumes.verified hkind
          cases hresult
    · exact .inl (hsame hmem')
  | replacePasswordAndRevokeSessions input =>
    simp only [AccountSystem.step] at hmem' ⊢
    split at hmem'
    · next result db hok =>
      obtain ⟨hnone, -⟩ | ⟨token, email, hresult, hresets⟩ := resets_of_ok hok
      · cases hnone
      · obtain rfl := Option.some.inj hresult
        rw [hresets.credentials] at hmem'
        have hafter := Table.eq_of_mem_update hmem hmem' huser
        rcases patch_cases _ _ credential with hkept | ⟨hp, hset⟩
        · exact .inl (hafter.trans hkept)
        · simp only [Bool.and_eq_true, decide_eq_true_eq] at hp
          exact .inr ⟨_, rfl, hp.1.symm, .inr ⟨rfl, by rw [hafter.trans hset]⟩⟩
    · next db hok =>
      obtain ⟨-, rfl⟩ | ⟨_, _, hsome, -⟩ := resets_of_ok hok
      · exact .inl (hsame hmem')
      · cases hsome
    · exact .inl (hsame hmem')
  | deleteOwnAccount authenticatedSubject disabledAt deletedUuid =>
    exact .inl (hsame (Table.mem_delete.1 hmem').1)
  | cleanupExpiredAccountData now batchSize choice =>
    simp only [AccountSystem.step] at hmem' ⊢
    split at hmem'
    · next result db hok =>
      obtain ⟨_, ids, hcleans⟩ := cleansUp_of_ok hok
      rw [hcleans.credentials] at hmem'
      exact .inl (hsame (Table.mem_delete.1 hmem').1)
    · exact .inl (hsame hmem')
  | others users oauthIdentities authSessions => exact .inl (hsame hmem')

/-- **Main result.** Whatever the store is asked for in whichever order, every token takes effect
once at most, for its own kind and user and before its expiry; a user has one unconsumed token of a
kind at most, and no reset token right after a reset. -/
theorem tokens_once {events : List AccountEvent}
    (h : Run (DistinctStep folding) (start db) events system) :
    SingleUse system ∧ SingleIssue system ∧ NoResetTokenLeft folding system ∧
      ChangesByEffect folding system := by
  have htracked : Tracked system :=
    h.invariant (tracked_start db) fun hbefore hstep => hbefore.step hstep
  refine ⟨⟨htracked.distinct, htracked.authorized, htracked.once⟩, htracked.backed.single, ?_,
    changesByEffect folding system⟩
  intro input account db hok token htoken huser
  obtain ⟨hnone, -⟩ | ⟨_, _, hsome, hresets⟩ := resets_of_ok hok
  · cases hnone
  · obtain rfl := Option.some.inj hsome
    exact no_reset_token hresets htoken huser

/-- A run of events whose tokens have new hashes. -/
theorem run_of_distinct {events : List AccountEvent}
    (h : Throughout (step folding) (fun system event => ∀ hash ∈ event.issues,
      hash ∉ system.issued.map AccountActionToken.tokenHash) system events) :
    Run (DistinctStep folding) system events (events.foldl (step folding) system) := by
  induction events generalizing system with
  | nil => exact .nil
  | cons event events ih => exact .cons ⟨h.1, rfl⟩ (ih h.2)

/-- A registration, its verification, and a reset after the first reset token was rotated. -/
def registeredAndReset : List AccountEvent :=
  [.registerPendingAccount ⟨"Ada@example.com", "hash-1", "verify-1", 100, "2026-08"⟩ 0 "user-1"
      ["nick-1"],
    .consumeActionToken ⟨.verifyEmail, "verify-1", 10⟩,
    .createOrRotateActionToken ⟨"ada@example.com", .resetPassword, "reset-1", 100, 20⟩,
    .createOrRotateActionToken ⟨"ada@example.com", .resetPassword, "reset-2", 100, 30⟩,
    .replacePasswordAndRevokeSessions ⟨"reset-1", "hash-2", 40⟩,
    .replacePasswordAndRevokeSessions ⟨"reset-2", "hash-3", 40⟩]

/-- Folding of texts in ASCII. -/
def asciiFolding : CaseFolding where
  toLowerCase text := .ofList (text.toList.map Char.toLower)
  normalizeNfkc text := text
  lower text := .ofList (text.toList.map Char.toLower)

def emptyDatabase : Database where
  users := .empty
  oauthIdentities := .empty
  authSessions := .empty
  passwordCredentials := .empty
  accountActionTokens := .empty
  accountBalances := .empty
  nicknames := .empty
  consents := .empty
  authRateLimits := .empty

theorem registeredAndReset_tokens_once :
    (registeredAndReset.foldl (step asciiFolding) (start emptyDatabase)).effects =
        [⟨"verify-1", .verifyEmail, "user-1", 10⟩, ⟨"reset-2", .resetPassword, "user-1", 40⟩] ∧
      SingleUse (registeredAndReset.foldl (step asciiFolding) (start emptyDatabase)) ∧
      SingleIssue (registeredAndReset.foldl (step asciiFolding) (start emptyDatabase)) := by
  have hrun : Run (DistinctStep asciiFolding) (start emptyDatabase) registeredAndReset
      (registeredAndReset.foldl (step asciiFolding) (start emptyDatabase)) :=
    run_of_distinct (by decide +kernel)
  obtain ⟨huse, hissue, -⟩ := tokens_once hrun
  exact ⟨by decide +kernel, huse, hissue⟩

end AccountSystem

end RcOnline.Web
