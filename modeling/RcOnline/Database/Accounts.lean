import RcOnline.Lib.Table

/-!
# The account tables

The tables of `packages/database/migrations/0001_simulation_core.sql`, `0003_google_auth.sql` and
`0007_account_profiles.sql` that signing in goes through, with the columns that the web app's
stores read or write. A token, an identity and a session are kept under their unique columns.
-/

namespace RcOnline.Accounts

open RcOnline.Lib

abbrev Uuid := String

structure User where
  id : Uuid
  email : String
  displayName : String
  role : String
  emailVerifiedAt : Option Int
  disabledAt : Option Int
  createdAt : Int
  updatedAt : Int
  deriving DecidableEq

structure OauthIdentity where
  userId : Uuid
  provider : String
  providerSubject : String
  deriving DecidableEq

structure AuthSession where
  userId : Uuid
  tokenHash : String
  expiresAt : Int
  lastSeenAt : Int
  deriving DecidableEq

structure PasswordCredential where
  userId : Uuid
  passwordHash : String
  passwordChangedAt : Int
  verifiedAt : Option Int
  createdAt : Int
  updatedAt : Int
  deriving DecidableEq

inductive AccountActionTokenKind where
  | verifyEmail
  | resetPassword
  deriving DecidableEq

structure AccountActionToken where
  userId : Uuid
  kind : AccountActionTokenKind
  tokenHash : String
  expiresAt : Int
  consumedAt : Option Int
  createdAt : Int
  deriving DecidableEq

structure AccountBalance where
  userId : Uuid
  currency : String
  amountMinor : Int
  deriving DecidableEq

structure Nickname where
  userId : Uuid
  nickname : String
  avatarKey : String
  deriving DecidableEq

structure Consent where
  userId : Uuid
  kind : String
  documentVersion : String
  accepted : Bool
  occurredAt : Int
  evidence : List (String × String)
  deriving DecidableEq

structure AuthRateLimit where
  keyHash : String
  kind : String
  windowStartedAt : Int
  attemptCount : Nat
  expiresAt : Int
  deriving DecidableEq

instance : Row User Uuid := ⟨User.id⟩
instance : Row OauthIdentity (String × String) := ⟨fun r => (r.provider, r.providerSubject)⟩
instance : Row AuthSession String := ⟨AuthSession.tokenHash⟩
instance : Row PasswordCredential Uuid := ⟨PasswordCredential.userId⟩
instance : Row AccountActionToken String := ⟨AccountActionToken.tokenHash⟩
instance : Row AccountBalance Uuid := ⟨AccountBalance.userId⟩
instance : Row Nickname Uuid := ⟨Nickname.userId⟩
instance : Row Consent (Uuid × String × String) :=
  ⟨fun r => (r.userId, r.kind, r.documentVersion)⟩
instance : Row AuthRateLimit (String × String × Int) :=
  ⟨fun r => (r.keyHash, r.kind, r.windowStartedAt)⟩

structure Database where
  users : Table User
  oauthIdentities : Table OauthIdentity
  authSessions : Table AuthSession
  passwordCredentials : Table PasswordCredential
  accountActionTokens : Table AccountActionToken
  accountBalances : Table AccountBalance
  nicknames : Table Nickname
  consents : Table Consent
  authRateLimits : Table AuthRateLimit

end RcOnline.Accounts
