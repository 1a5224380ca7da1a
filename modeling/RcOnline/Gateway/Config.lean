import RcOnline.Gateway.BrowserTickets
import RcOnline.Gateway.WireSafety
import RcOnline.Lib.Results

/-!
# The gateway's configuration

`loadGatewayConfig` of `apps/gateway/src/config.ts`, with the TURN credentials of
`packages/device-auth/src/index.ts`. Loading tries the ICE servers once, for a subject and a time of
its own; so they can be created for every session at every time (`loaded_serves`), and a gateway
that has loaded its configuration writes only what its peers can read (`loaded_sent_valid`).
-/

namespace RcOnline.Gateway

open RcOnline.Lib RcOnline.Schema RcOnline.Web

/-! ## TURN credentials -/

/-- `createHmac("sha1", key).update(message, "utf8").digest("base64")`. -/
abbrev HmacSha1 := String → String → String

structure TurnRestCredentials where
  username : String
  credential : String

/-- `/^[A-Za-z0-9._-]{1,128}$/u`. -/
def isSafeSubject (subject : String) : Bool :=
  1 ≤ subject.toList.length && subject.toList.length ≤ 128 &&
    subject.toList.all fun c => c.isAlphanum || c = '.' || c = '_' || c = '-'

/-- `new Date(time)`: times beyond the range of dates are invalid. -/
def newDate (time : Int) : Date := if |time| ≤ 8640000000000000 then some time else none

/-- `Math.floor(date.getTime() / 1_000)` in a text. -/
def secondsText : Date → String
  | some time => toString (time / 1000)
  | none => "NaN"

/-- The lifetime of credentials, where it is allowed. -/
def allowedLifetime (ttlSeconds : Option Number) : Option Int :=
  match ttlSeconds.getD (.ofInt 600) with
  | .finite q => if q.den = 1 ∧ 60 ≤ q.num ∧ q.num ≤ 3600 then some q.num else none
  | _ => none

def turnUsername (subject : String) (now ttlSeconds : Int) : String :=
  secondsText (newDate (now + ttlSeconds * 1000)) ++ ":" ++ subject

def createTurnRestCredentials (hmacSha1 : HmacSha1) (secret subject : String) (now : Date)
    (ttlSeconds : Option Number) : Except String TurnRestCredentials :=
  if utf16Length secret < 32 then
    .error "TURN shared secret must contain at least 32 characters"
  else if !isSafeSubject subject then
    .error "TURN credential subject must contain only safe identifier characters"
  else
    match now with
    | none => .error "TURN credential time must be valid"
    | some now =>
      match allowedLifetime ttlSeconds with
      | none => .error "TURN credential lifetime must be between 60 and 3600 seconds"
      | some ttlSeconds =>
        let username := turnUsername subject now ttlSeconds
        .ok { username, credential := hmacSha1 secret username }

def isTurnUrl (url : String) : Bool := startsWith url "turn:" || startsWith url "turns:"

/-- A template with the credentials, where it has a TURN URL. -/
def withCredentials (credentials : TurnRestCredentials) (template : IceServer) : IceServer :=
  if template.urls.any isTurnUrl then
    { template with
      username := some credentials.username
      credential := some credentials.credential }
  else template

def createSessionIceServers (hmacSha1 : HmacSha1) (templates : List IceServer)
    (secret : Option String) (subject : String) (now : Date) (ttlSeconds : Option Number) :
    Except String (List IceServer) :=
  if templates.any fun template => template.username.isSome || template.credential.isSome then
    .error "Static ICE credentials are not allowed"
  else if !templates.any (·.urls.any isTurnUrl) then .ok templates
  else
    match secret.filter (· ≠ "") with
    | none => .error "TURN shared secret is required when TURN URLs are configured"
    | some secret =>
      match createTurnRestCredentials hmacSha1 secret subject now ttlSeconds with
      | .error message => .error message
      | .ok credentials => .ok (templates.map (withCredentials credentials))

/-! ## Loading -/

/-- `GatewayConfig` of `config.ts`. -/
structure GatewaySettings where
  host : String
  port : Int
  publicGatewayUrl : String
  deviceAuthPepper : String
  browserTicketSecret : String
  authTimeoutMs : Int
  staleAfterMs : Int
  viewerCapacity : Int
  viewerOrigin : String
  iceServerTemplates : List IceServer
  turnSharedSecret : Option String
  turnCredentialTtlSeconds : Int

/-- What the configuration leaves to the host. -/
structure ConfigHost where
  /-- `Number(text)`. -/
  textNumber : String → Number
  /-- `JSON.parse`, or the message that it throws. -/
  parseJson : String → Except String Json
  /-- `new URL(text)`; none when it throws. -/
  parseUrl : String → Option Url
  /-- What `IceServerSchema.parse` throws. -/
  schemaError : Json → String
  /-- `readFileSync(path, "utf8")`, or the message that it throws. -/
  readFile : String → Except String String
  hmacSha1 : HmacSha1

variable (host : ConfigHost)

def boundedText (maximum : Nat) : Json → Option String
  | .string text => if hasLength 1 maximum text then some text else none
  | _ => none

/-- The URLs of an ICE server: one, or up to eight. -/
def urlsField : Json → Option (List String)
  | .array items => if inRange 1 8 items.length then items.mapM (boundedText 512) else none
  | item => (boundedText 512 item).map ([·])

/-- A field that may be missing. -/
def optionalField (maximum : Nat) : Option Json → Option (Option String)
  | none => some none
  | some item => (boundedText maximum item).map some

/-- `IceServerSchema.parse`; none when it throws. -/
def parseIceServer (entry : Json) : Option IceServer := do
  let fields ← entry.record?
  if fields.all fun field => field.1 ∈ ["urls", "username", "credential"] then
    let urls ← (entry.field? "urls").bind urlsField
    let username ← optionalField 256 (entry.field? "username")
    let credential ← optionalField 512 (entry.field? "credential")
    some { urls, username, credential }
  else none

def parseEntry (entry : Json) : Except String IceServer :=
  match parseIceServer entry with
  | some server => .ok server
  | none => .error (host.schemaError entry)

def defaultIceServers : List IceServer :=
  [{ urls := ["stun:stun.l.google.com:19302"], username := none, credential := none }]

def parseIceServers (value : Option String) : Except String (List IceServer) :=
  match value.filter (· ≠ "") with
  | none => .ok defaultIceServers
  | some text => do
    match ← host.parseJson text with
    | .array items =>
      if 8 < items.length then
        .error "GATEWAY_ICE_SERVERS_JSON must be an array with at most eight entries"
      else items.mapM (parseEntry host)
    | _ => .error "GATEWAY_ICE_SERVERS_JSON must be an array with at most eight entries"

def required (value : Option String) (name : String) : Except String String :=
  match value.filter (· ≠ "") with
  | none => .error (name ++ " is required")
  | some value => .ok value

def requiredSecret (value : Option String) (name : String) : Except String String := do
  let result ← required value name
  if utf16Length result < 24 then .error (name ++ " must contain at least 24 characters")
  else .ok result

def requiredCanonicalHttpsOrigin (value : Option String) (name : String) :
    Except String String := do
  let result ← required value name
  match host.parseUrl result with
  | none => .error (name ++ " must be a canonical HTTPS origin")
  | some parsed =>
    if parsed.protocol ≠ "https:" ∨ parsed.origin ≠ result then
      .error (name ++ " must be a canonical HTTPS origin")
    else .ok parsed.origin

def readInteger (value : Option String) (fallback minimum maximum : Int) : Except String Int :=
  let expected := "Expected an integer between " ++ toString minimum ++ " and " ++ toString maximum
  match value with
  | none => .ok fallback
  | some value =>
    match host.textNumber value with
    | .finite q =>
      if q.den = 1 ∧ minimum ≤ q.num ∧ q.num ≤ maximum then .ok q.num else .error expected
    | _ => .error expected

/-- The shared secret, from the file that the environment names. -/
def readSecret (path : Option String) : Except String (Option String) :=
  match (path.map trim).filter (· ≠ "") with
  | none => .ok none
  | some path => (host.readFile path).map fun text => some (trim text)

/-- `createSessionIceServers` as both callers use it. -/
def createIceServers (templates : List IceServer) (secret : Option String) (ttlSeconds : Int)
    (subject : String) (now : Date) : Except String (List IceServer) :=
  createSessionIceServers host.hmacSha1 templates (secret.filter (· ≠ "")) subject now
    (some (.ofInt ttlSeconds))

def loadGatewayConfig (env : String → Option String) : Except String GatewaySettings := do
  let iceServerTemplates ← parseIceServers host (env "GATEWAY_ICE_SERVERS_JSON")
  let turnSharedSecret ← readSecret host (env "TURN_SHARED_SECRET_FILE")
  let turnCredentialTtlSeconds ← readInteger host (env "TURN_CREDENTIAL_TTL_SECONDS") 600 60 3600
  let _ ← createIceServers host iceServerTemplates turnSharedSecret turnCredentialTtlSeconds
    "configuration-check" (some 0)
  let port ← readInteger host (env "PORT") 3002 0 65535
  let publicGatewayUrl ← required (env "GATEWAY_PUBLIC_URL") "GATEWAY_PUBLIC_URL"
  let deviceAuthPepper ← requiredSecret (env "DEVICE_AUTH_PEPPER") "DEVICE_AUTH_PEPPER"
  let browserTicketSecret ← requiredSecret (env "GATEWAY_SESSION_SECRET") "GATEWAY_SESSION_SECRET"
  let authTimeoutMs ← readInteger host (env "GATEWAY_AUTH_TIMEOUT_MS") 5000 100 30000
  let staleAfterMs ← readInteger host (env "GATEWAY_STALE_AFTER_MS") 15000 5000 120000
  let viewerCapacity ← readInteger host (env "GATEWAY_VIEWER_CAPACITY") 500 1 500
  let viewerOrigin ← requiredCanonicalHttpsOrigin host (env "GATEWAY_VIEWER_ORIGIN")
    "GATEWAY_VIEWER_ORIGIN"
  return { host := (env "HOST").getD "0.0.0.0", port, publicGatewayUrl, deviceAuthPepper,
           browserTicketSecret, authTimeoutMs, staleAfterMs, viewerCapacity, viewerOrigin,
           iceServerTemplates, turnSharedSecret, turnCredentialTtlSeconds }

def createGatewayIceServers (settings : GatewaySettings) (subject : String) (now : Date) :
    Except String (List IceServer) :=
  createIceServers host settings.iceServerTemplates settings.turnSharedSecret
    settings.turnCredentialTtlSeconds subject now

/-! ## Templates -/

section templates

variable {host : ConfigHost}

theorem boundedText_some {maximum : Nat} {item : Json} {text : String}
    (h : boundedText maximum item = some text) : hasLength 1 maximum text = true := by
  unfold boundedText at h
  split at h
  · obtain ⟨hlength, heq⟩ := Option.ite_none_right_eq_some.1 h
    exact Option.some.inj heq ▸ hlength
  · cases h

theorem urlsField_some {item : Json} {urls : List String} (h : urlsField item = some urls) :
    (inRange 1 8 urls.length && urls.all (hasLength 1 512)) = true := by
  rw [Bool.and_eq_true, List.all_eq_true]
  unfold urlsField at h
  split at h
  · obtain ⟨hlength, h⟩ := Option.ite_none_right_eq_some.1 h
    obtain ⟨heq, hall⟩ := mapM_some (fun _ _ => boundedText_some) h
    exact ⟨heq ▸ hlength, hall⟩
  · obtain ⟨url, hurl, rfl⟩ := Option.map_eq_some_iff.1 h
    exact ⟨rfl, fun text hmem => List.mem_singleton.1 hmem ▸ boundedText_some hurl⟩

theorem optionalField_some {maximum : Nat} {item : Option Json} {text : Option String}
    (h : optionalField maximum item = some text) : text.all (hasLength 1 maximum) = true := by
  cases item with
  | none =>
    obtain rfl := Option.some.inj h
    rfl
  | some item =>
    obtain ⟨text, htext, rfl⟩ := Option.map_eq_some_iff.1 h
    exact boundedText_some htext

theorem parseIceServer_some {entry : Json} {server : IceServer}
    (h : parseIceServer entry = some server) : validIceServer server = true := by
  obtain ⟨fields, -, h⟩ := Option.bind_eq_some_iff.1 h
  obtain ⟨-, h⟩ := Option.ite_none_right_eq_some.1 h
  obtain ⟨urls, hurls, h⟩ := Option.bind_eq_some_iff.1 h
  obtain ⟨username, husername, h⟩ := Option.bind_eq_some_iff.1 h
  obtain ⟨credential, hcredential, h⟩ := Option.bind_eq_some_iff.1 h
  obtain rfl := Option.some.inj h
  obtain ⟨item, -, hurls⟩ := Option.bind_eq_some_iff.1 hurls
  rw [validIceServer, urlsField_some hurls, optionalField_some husername,
    optionalField_some hcredential]
  rfl

theorem parseEntry_ok {entry : Json} {server : IceServer}
    (h : parseEntry host entry = .ok server) : validIceServer server = true := by
  unfold parseEntry at h
  split at h
  · next hserver => exact Except.ok.inj h ▸ parseIceServer_some hserver
  · cases h

/-- The templates that load pass the schema of the servers. -/
theorem parseIceServers_ok {value : Option String} {templates : List IceServer}
    (h : parseIceServers host value = .ok templates) : validIceServers templates = true := by
  unfold parseIceServers at h
  split at h
  · obtain rfl := Except.ok.inj h
    decide
  · obtain ⟨parsed, -, h⟩ := bind_eq_ok.1 h
    split at h
    · next items =>
      split at h
      · cases h
      · next hlength =>
        obtain ⟨heq, hall⟩ := mapM_ok (fun _ _ => parseEntry_ok) h
        rw [validIceServers, Bool.and_eq_true, decide_eq_true_eq, List.all_eq_true, heq]
        exact ⟨not_lt.1 hlength, hall⟩
    · cases h

end templates

/-! ## The text of credentials -/

section credentials

theorem inRange_iff {minimum maximum value : Int} :
    inRange minimum maximum value = true ↔ minimum ≤ value ∧ value ≤ maximum := by
  rw [inRange, Bool.and_eq_true, decide_eq_true_eq, decide_eq_true_eq]

theorem utf16Length_append (a b : String) :
    utf16Length (a ++ b) = utf16Length a + utf16Length b := by
  rw [utf16Length, String.toList_append, List.map_append, List.sum_append]
  rfl

/-- In a text of small characters each is one unit. -/
theorem utf16Length_eq_length {text : String} (h : ∀ c ∈ text.toList, c.toNat < 0x10000) :
    utf16Length text = text.length := by
  have hunits : text.toList.map (fun c => if c.toNat < 0x10000 then 1 else 2) =
      text.toList.map fun _ => 1 :=
    List.map_congr_left fun c hc => if_pos (h c hc)
  rw [utf16Length, hunits, List.map_const', List.sum_replicate, smul_eq_mul, mul_one,
    String.length_toList]

theorem inRange_repr {n : Nat} (h : n < 10 ^ 13) : inRange 1 13 (utf16Length n.repr) = true := by
  have hsmall : ∀ c ∈ n.repr.toList, c.toNat < 0x10000 := by
    intro c hc
    rw [Nat.toList_repr] at hc
    have hdigit := Nat.isDigit_of_mem_toDigits (by decide) (by decide) hc
    exact lt_of_le_of_lt (Char.isDigit_iff_toNat.1 hdigit).2 (by decide)
  have hpos := Nat.length_repr_pos (n := n)
  have hlength := (Nat.length_repr_le_iff (by decide)).2 h
  rw [utf16Length_eq_length hsmall, inRange_iff]
  omega

theorem isAlphanum_small {c : Char} (h : c.isAlphanum = true) : c.toNat < 0x10000 := by
  simp only [Char.isAlphanum, Char.isAlpha, Char.isUpper, Char.isLower, Char.isDigit,
    Bool.or_eq_true, Bool.and_eq_true, decide_eq_true_eq, UInt32.le_iff_toNat_le] at h
  rcases h with (⟨-, h⟩ | ⟨-, h⟩) | ⟨-, h⟩
  · exact lt_of_le_of_lt h (by decide)
  · exact lt_of_le_of_lt h (by decide)
  · exact lt_of_le_of_lt h (by decide)

/-- The seconds of a date are a text, of at most thirteen digits and a sign. -/
theorem utf16Length_secondsText (time : Int) :
    inRange 1 14 (utf16Length (secondsText (newDate time))) = true := by
  unfold newDate
  split
  · next hrange =>
    have htext : secondsText (some time) = (time / 1000).repr := rfl
    obtain ⟨hlow, hhigh⟩ := abs_le.1 hrange
    rw [htext, Int.repr_eq_if]
    split
    · have hrepr := inRange_repr (n := (time / 1000).toNat) (by omega)
      rw [inRange_iff] at hrepr ⊢
      omega
    · have hrepr := inRange_repr (n := (-(time / 1000)).toNat) (by omega)
      rw [utf16Length_append, show utf16Length "-" = 1 from rfl]
      rw [inRange_iff] at hrepr ⊢
      omega
  · decide

theorem isSafeSubject_length {subject : String} (h : isSafeSubject subject = true) :
    inRange 1 128 (utf16Length subject) = true := by
  simp only [isSafeSubject, Bool.and_eq_true, decide_eq_true_eq, List.all_eq_true] at h
  obtain ⟨⟨hpos, hlength⟩, hsafe⟩ := h
  have hsmall : ∀ c ∈ subject.toList, c.toNat < 0x10000 := by
    intro c hc
    have hsafe := hsafe c hc
    simp only [Bool.or_eq_true, decide_eq_true_eq, or_assoc] at hsafe
    rcases hsafe with hletter | rfl | rfl | rfl
    · exact isAlphanum_small hletter
    · decide
    · decide
    · decide
  rw [utf16Length_eq_length hsmall, ← String.length_toList, inRange_iff]
  omega

end credentials

/-! ## Serving -/

section serving

variable {host : ConfigHost} {env : String → Option String} {settings : GatewaySettings}
  {templates : List IceServer} {secret : Option String} {ttlSeconds : Int}

/-- Templates that every session's servers can be made of. -/
structure Servable (templates : List IceServer) (secret : Option String) : Prop where
  plain : ∀ template ∈ templates, template.username = none ∧ template.credential = none
  secret : templates.any (·.urls.any isTurnUrl) = true →
    ∃ key, secret.filter (· ≠ "") = some key ∧ 32 ≤ utf16Length key

/-- Credentials are for a safe subject and a valid time, and with a secret that is long enough. -/
theorem createTurnRestCredentials_ok {hmacSha1 : HmacSha1} {key subject : String} {now : Date}
    {lifetime : Option Number} {credentials : TurnRestCredentials}
    (h : createTurnRestCredentials hmacSha1 key subject now lifetime = .ok credentials) :
    32 ≤ utf16Length key ∧ isSafeSubject subject = true ∧
      ∃ time seconds, credentials.username = turnUsername subject time seconds ∧
        credentials.credential = hmacSha1 key credentials.username := by
  unfold createTurnRestCredentials at h
  split at h
  · cases h
  · next hlength =>
    split at h
    · cases h
    · next hsafe =>
      split at h
      · cases h
      · split at h
        · cases h
        · obtain rfl := Except.ok.inj h
          exact ⟨not_lt.1 hlength, by simpa using hsafe, _, _, rfl, rfl⟩

theorem servable_of_ok {subject : String} {now : Date} {servers : List IceServer}
    (h : createIceServers host templates secret ttlSeconds subject now = .ok servers) :
    Servable templates secret := by
  unfold createIceServers createSessionIceServers at h
  split at h
  · cases h
  · next hplain =>
    refine ⟨fun template hmem => ?_, fun hturn => ?_⟩
    · simp only [List.any_eq_true, not_exists, not_and, Bool.or_eq_true, not_or,
        Option.not_isSome_iff_eq_none] at hplain
      exact hplain template hmem
    · rw [if_neg (by rw [hturn]; decide), Option.filter_filter] at h
      simp only [Bool.and_self] at h
      split at h
      · cases h
      · next key hkey =>
        split at h
        · cases h
        · next hcredentials => exact ⟨key, hkey, (createTurnRestCredentials_ok hcredentials).1⟩

theorem readInteger_ok {value : Option String} {fallback minimum maximum result : Int}
    (hfallback : inRange minimum maximum fallback = true)
    (h : readInteger host value fallback minimum maximum = .ok result) :
    inRange minimum maximum result = true := by
  unfold readInteger at h
  split at h
  · exact Except.ok.inj h ▸ hfallback
  · split at h
    · split at h
      · next hrange => exact Except.ok.inj h ▸ inRange_iff.2 hrange.2
      · cases h
    · cases h

/-- The credentials of a subject: until the lifetime is over, with the shared secret. -/
def subjectCredentials (host : ConfigHost) (settings : GatewaySettings) (subject : String)
    (now : Int) : TurnRestCredentials :=
  let username := turnUsername subject now settings.turnCredentialTtlSeconds
  { username, credential := host.hmacSha1 (settings.turnSharedSecret.getD "") username }

theorem createGatewayIceServers_eq
    (h : Servable settings.iceServerTemplates settings.turnSharedSecret)
    (hlifetime : inRange 60 3600 settings.turnCredentialTtlSeconds = true) {subject : String}
    (hsubject : isSafeSubject subject = true) (now : Int) :
    createGatewayIceServers host settings subject (some now) =
      .ok (settings.iceServerTemplates.map
        (withCredentials (subjectCredentials host settings subject now))) := by
  obtain ⟨hlow, hhigh⟩ := inRange_iff.1 hlifetime
  have hplain : (settings.iceServerTemplates.any fun template =>
      template.username.isSome || template.credential.isSome) = false := by
    rw [List.any_eq_false]
    intro template hmem
    rw [(h.plain template hmem).1, (h.plain template hmem).2]
    decide
  unfold createGatewayIceServers createIceServers createSessionIceServers
  rw [if_neg (by rw [hplain]; decide), Option.filter_filter]
  simp only [Bool.and_self]
  split
  · -- no template has a TURN URL, and none is given credentials
    next hturn =>
    have hnone : ∀ template ∈ settings.iceServerTemplates, template.urls.any isTurnUrl = false := by
      simpa using hturn
    have hsame : settings.iceServerTemplates.map
        (withCredentials (subjectCredentials host settings subject now)) =
        settings.iceServerTemplates.map id :=
      List.map_congr_left fun template hmem =>
        if_neg (by rw [hnone template hmem]; decide)
    rw [hsame, List.map_id]
  · next hturn =>
    obtain ⟨key, hkey, hlength⟩ := h.secret (by simpa using hturn)
    obtain ⟨hsecret, -⟩ := Option.filter_eq_some_iff.1 hkey
    have hallowed : allowedLifetime (some (.ofInt settings.turnCredentialTtlSeconds)) =
        some settings.turnCredentialTtlSeconds := if_pos ⟨rfl, hlow, hhigh⟩
    have hcredentials : createTurnRestCredentials host.hmacSha1 key subject (some now)
        (some (.ofInt settings.turnCredentialTtlSeconds)) =
        .ok (subjectCredentials host settings subject now) := by
      unfold createTurnRestCredentials
      rw [if_neg (not_lt.2 hlength), hsubject, hallowed, subjectCredentials, hsecret]
      rfl
    rw [hkey]
    simp only [hcredentials]

/-- What a load leaves: templates that can be served, of valid servers, and an allowed lifetime. -/
theorem loaded (h : loadGatewayConfig host env = .ok settings) :
    validIceServers settings.iceServerTemplates = true ∧
      Servable settings.iceServerTemplates settings.turnSharedSecret ∧
      inRange 60 3600 settings.turnCredentialTtlSeconds = true := by
  unfold loadGatewayConfig at h
  obtain ⟨templates, htemplates, h⟩ := bind_eq_ok.1 h
  obtain ⟨secret, -, h⟩ := bind_eq_ok.1 h
  obtain ⟨lifetime, hlifetime, h⟩ := bind_eq_ok.1 h
  obtain ⟨servers, hservers, h⟩ := bind_eq_ok.1 h
  obtain ⟨port, -, h⟩ := bind_eq_ok.1 h
  obtain ⟨publicGatewayUrl, -, h⟩ := bind_eq_ok.1 h
  obtain ⟨deviceAuthPepper, -, h⟩ := bind_eq_ok.1 h
  obtain ⟨browserTicketSecret, -, h⟩ := bind_eq_ok.1 h
  obtain ⟨authTimeoutMs, -, h⟩ := bind_eq_ok.1 h
  obtain ⟨staleAfterMs, -, h⟩ := bind_eq_ok.1 h
  obtain ⟨viewerCapacity, -, h⟩ := bind_eq_ok.1 h
  obtain ⟨viewerOrigin, -, h⟩ := bind_eq_ok.1 h
  obtain rfl := Except.ok.inj h
  exact ⟨parseIceServers_ok htemplates, servable_of_ok hservers,
    readInteger_ok (by decide) hlifetime⟩

theorem withCredentials_valid {credentials : TurnRestCredentials} {template : IceServer}
    (hcredentials : hasLength 1 256 credentials.username = true ∧
      hasLength 1 512 credentials.credential = true)
    (h : validIceServer template = true) :
    validIceServer (withCredentials credentials template) = true := by
  unfold withCredentials
  split
  · simp only [validIceServer, Bool.and_eq_true] at h ⊢
    exact ⟨⟨h.1.1, hcredentials.1⟩, hcredentials.2⟩
  · exact h

/-- With a digest as long as the host's, 28 characters. -/
theorem credentials_valid {hmacSha1 : HmacSha1} {key subject : String} {now : Date}
    {lifetime : Option Number} {credentials : TurnRestCredentials}
    (hdigest : ∀ key text, utf16Length (hmacSha1 key text) = 28)
    (h : createTurnRestCredentials hmacSha1 key subject now lifetime = .ok credentials) :
    hasLength 1 256 credentials.username = true ∧
      hasLength 1 512 credentials.credential = true := by
  obtain ⟨-, hsubject, time, seconds, husername, hcredential⟩ := createTurnRestCredentials_ok h
  refine ⟨?_, by rw [hcredential, hasLength, hdigest]; decide⟩
  have hseconds := inRange_iff.1 (utf16Length_secondsText (time + seconds * 1000))
  have hlength := inRange_iff.1 (isSafeSubject_length hsubject)
  have hparts : utf16Length credentials.username =
      utf16Length (secondsText (newDate (time + seconds * 1000))) + 1 + utf16Length subject := by
    rw [husername, turnUsername, utf16Length_append, utf16Length_append]
    rfl
  rw [hasLength, hparts, Bool.and_eq_true, decide_eq_true_eq, decide_eq_true_eq]
  omega

/-- Servers that are created are valid, whoever they are for. -/
theorem created_valid (hdigest : ∀ key text, utf16Length (host.hmacSha1 key text) = 28)
    {subject : String} {now : Date} {servers : List IceServer}
    (hvalid : validIceServers templates = true)
    (h : createIceServers host templates secret ttlSeconds subject now = .ok servers) :
    validIceServers servers = true := by
  unfold createIceServers createSessionIceServers at h
  split at h
  · cases h
  · split at h
    · exact Except.ok.inj h ▸ hvalid
    · split at h
      · cases h
      · split at h
        · cases h
        · next hcredentials =>
          obtain rfl := Except.ok.inj h
          simp only [validIceServers, Bool.and_eq_true, List.length_map, List.all_map,
            List.all_eq_true] at hvalid ⊢
          exact ⟨hvalid.1, fun template hmem =>
            withCredentials_valid (credentials_valid hdigest hcredentials) (hvalid.2 template hmem)⟩

/-- **Main result.** A gateway that has loaded its configuration creates the ICE servers of every
subject at every time: valid ones, the templates with the subject's credentials where there is a
TURN URL, and without any where there is none. -/
theorem loaded_serves (h : loadGatewayConfig host env = .ok settings)
    (hdigest : ∀ key text, utf16Length (host.hmacSha1 key text) = 28)
    {subject : String} (hsubject : isSafeSubject subject = true) (now : Int) :
    ∃ servers, createGatewayIceServers host settings subject (some now) = .ok servers ∧
      validIceServers servers = true ∧
      servers.map (·.urls) = settings.iceServerTemplates.map (·.urls) ∧
      ∀ server ∈ servers,
        if server.urls.any isTurnUrl then
          server.username = some (subjectCredentials host settings subject now).username ∧
            server.credential = some (subjectCredentials host settings subject now).credential
        else server.username = none ∧ server.credential = none := by
  obtain ⟨hvalid, hservable, hlifetime⟩ := loaded h
  have hcreated : createGatewayIceServers host settings subject (some now) = _ :=
    createGatewayIceServers_eq hservable hlifetime hsubject now
  refine ⟨_, hcreated, created_valid hdigest hvalid hcreated, ?_, ?_⟩
  · rw [List.map_map]
    refine List.map_congr_left fun template _ => ?_
    simp only [Function.comp_apply, withCredentials]
    split <;> rfl
  · intro server hmem
    obtain ⟨template, htemplate, rfl⟩ := List.mem_map.1 hmem
    unfold withCredentials
    split
    · exact ⟨rfl, rfl⟩
    · exact hservable.plain template htemplate

/-- The configuration of the server, with what it computes with the other secrets and the text of
a session's id. -/
def serverConfig (host : ConfigHost) (settings : GatewaySettings)
    (hashOpaqueSecret : String → String → String)
    (verifyBrowserTicket : String → String → Int → Option BrowserTicket)
    (sessionText : Uuid → String) : GatewayConfig where
  hashOpaqueSecret secret := hashOpaqueSecret secret settings.deviceAuthPepper
  verifyBrowserTicket ticket := verifyBrowserTicket ticket settings.browserTicketSecret
  iceServers sessionId now :=
    (createGatewayIceServers host settings (sessionText sessionId) (newDate now)).toOption

/-- **Main result.** With rows that may be written, every message that a gateway writes after it has
loaded its configuration passes the schema that it is read with. -/
theorem loaded_sent_valid (h : loadGatewayConfig host env = .ok settings)
    (hdigest : ∀ key text, utf16Length (host.hmacSha1 key text) = 28)
    (hashOpaqueSecret : String → String → String)
    (verifyBrowserTicket : String → String → Int → Option BrowserTicket)
    (sessionText : Uuid → String) {store : Database} (hstore : Writable host.parseUrl store)
    {events : List SystemEvent} {s : System}
    (hrun : Run (System.ParsedStep
      (serverConfig host settings hashOpaqueSecret verifyBrowserTicket sessionText) host.parseUrl)
      (.start store) events s) :
    ∀ peer message, (peer, message) ∈ s.server.sent → message.valid host.parseUrl = true := by
  refine System.sent_valid (fun sessionId now servers hservers => ?_) hstore hrun
  obtain ⟨hvalid, -, -⟩ := loaded h
  have hservers : (createGatewayIceServers host settings (sessionText sessionId)
      (newDate now)).toOption = some servers := hservers
  cases hcreated : createGatewayIceServers host settings (sessionText sessionId) (newDate now) with
  | error message =>
    rw [hcreated] at hservers
    cases hservers
  | ok created =>
    rw [hcreated] at hservers
    obtain rfl := Option.some.inj hservers
    exact created_valid hdigest hvalid hcreated

end serving

/-! ## A relay -/

/-- The environment of a gateway with a relay. -/
def relayEnv : String → Option String
  | "GATEWAY_ICE_SERVERS_JSON" => some "[\x7b\x22urls\x22:\x22turn:relay.example:3478\x22\x7d]"
  | "TURN_SHARED_SECRET_FILE" => some "/run/secrets/turn"
  | "GATEWAY_PUBLIC_URL" => some "wss://gateway.example"
  | "DEVICE_AUTH_PEPPER" => some "the pepper of the device secrets"
  | "GATEWAY_SESSION_SECRET" => some "the secret of the browser tickets"
  | "GATEWAY_VIEWER_ORIGIN" => some "https://rc.example"
  | _ => none

def relayHost : ConfigHost where
  textNumber _ := .nan
  parseJson _ := .ok (.array [.object [("urls", .string "turn:relay.example:3478")]])
  parseUrl _ := some { protocol := "https:", origin := "https://rc.example", pathname := "/" }
  schemaError _ := ""
  readFile _ := .ok "the relay's shared secret, 32 characters or more\n"
  hmacSha1 _ text :=
    if text = "600:configuration-check" then "YjqW3vBq1rJk8TmCh7flWheueEg="
    else "fZ0n1P8m5OQNkbZeeRk+EMlWZJc="

def relaySettings : GatewaySettings where
  host := "0.0.0.0"
  port := 3002
  publicGatewayUrl := "wss://gateway.example"
  deviceAuthPepper := "the pepper of the device secrets"
  browserTicketSecret := "the secret of the browser tickets"
  authTimeoutMs := 5000
  staleAfterMs := 15000
  viewerCapacity := 500
  viewerOrigin := "https://rc.example"
  iceServerTemplates := [⟨["turn:relay.example:3478"], none, none⟩]
  turnSharedSecret := some "the relay's shared secret, 32 characters or more"
  turnCredentialTtlSeconds := 600

theorem relay_loads : loadGatewayConfig relayHost relayEnv = .ok relaySettings := rfl

theorem relay_digest (key text : String) : utf16Length (relayHost.hmacSha1 key text) = 28 := by
  simp only [relayHost]
  split <;> decide

def relaySubject : String := "00000000-0000-0000-0000-000000000005"

theorem relay_serves :
    ∃ servers, createGatewayIceServers relayHost relaySettings relaySubject (some 2001) =
        .ok servers ∧
      validIceServers servers = true ∧
      servers.map (·.urls) = [["turn:relay.example:3478"]] ∧
      ∀ server ∈ servers, if server.urls.any isTurnUrl then
          server.username = some "602:00000000-0000-0000-0000-000000000005" ∧
            server.credential = some "fZ0n1P8m5OQNkbZeeRk+EMlWZJc="
        else server.username = none ∧ server.credential = none :=
  loaded_serves relay_loads relay_digest (by decide : isSafeSubject relaySubject = true) 2001

theorem relay_sent_valid :
    ∃ s, Run (System.ParsedStep (serverConfig relayHost relaySettings (fun _ _ => "digest")
        (fun _ _ _ => some ⟨4, 1, 5⟩) fun _ => relaySubject) relayHost.parseUrl)
        (.start driveDb) System.meeting s ∧
      s.server.sent.length = 4 ∧
      ∀ peer message, (peer, message) ∈ s.server.sent →
        message.valid relayHost.parseUrl = true := by
  have hrun : Run (System.ParsedStep (serverConfig relayHost relaySettings (fun _ _ => "digest")
      (fun _ _ _ => some ⟨4, 1, 5⟩) fun _ => relaySubject) relayHost.parseUrl)
      (.start driveDb) System.meeting _ :=
    .cons ⟨rfl, rfl⟩ (.cons ⟨rfl, rfl⟩ (.cons ⟨rfl, rfl⟩ (.cons ⟨rfl, rfl⟩ (.cons ⟨rfl, rfl⟩
      (.cons ⟨rfl, rfl⟩ (.cons ⟨rfl, rfl⟩ (.cons ⟨rfl, rfl⟩ (.cons ⟨rfl, rfl⟩ .nil))))))))
  exact ⟨_, hrun, rfl,
    loaded_sent_valid relay_loads relay_digest _ _ _ System.driveDb_writable hrun⟩

end RcOnline.Gateway
