import RcOnline.Lib.Base64url
import RcOnline.Lib.Json

/-!
# Browser tickets

`signBrowserTicket` and `verifyBrowserTicket` of `packages/device-auth/src/index.ts`. Signer and
verifier check a payload with one validator, which accepts the objects with exactly the seven
fields, each of its type (`validateBrowserTicketPayload_iff`). What is signed is verified while its
time lasts, and nothing else is than what the secret signed (`verifyBrowserTicket_exact`). The
signature is compared as bytes, so it can be written in other ways (`TicketParts.pad`).
-/

namespace RcOnline.Gateway

open RcOnline.Lib

/-! ## Payloads -/

/-- What the tickets leave to the host. -/
structure TicketHost where
  /-- `createHmac("sha256", key).update(message, "utf8").digest()`. -/
  hmacSha256 : String → String → Vector UInt8 32
  /-- `bytes.toString("utf8")` where the bytes encode no text: replacement characters stand in. -/
  replaceInvalid : List Nat → String
  /-- `JSON.parse(text)`; none when it throws. -/
  parse : String → Option Json
  /-- `JSON.stringify(value)`. -/
  stringify : Json → String

inductive TicketError where
  | emptySecret
  | format
  | signature
  | payload
  | audience
  | expired
  | issuedInFuture
  deriving DecidableEq

def TicketError.message : TicketError → String
  | .emptySecret => "ticket secret must not be empty"
  | .format => "Invalid browser ticket format"
  | .signature => "Invalid browser ticket signature"
  | .payload => "Invalid browser ticket payload"
  | .audience => "Invalid browser ticket audience"
  | .expired => "Browser ticket expired"
  | .issuedInFuture => "Browser ticket was issued in the future"

inductive TicketRole where
  | user
  | admin
  deriving DecidableEq

def TicketRole.text : TicketRole → String
  | .user => "user"
  | .admin => "admin"

/-- A payload that passed its check; its two times are integers. -/
structure BrowserTicketPayload where
  aud : String
  sub : String
  role : TicketRole
  carId : String
  sessionId : String
  iat : Int
  exp : Int
  deriving DecidableEq

def ticketFields : List String := ["aud", "sub", "role", "carId", "sessionId", "iat", "exp"]

/-- `payload[name]`, where it is a string. -/
def textField (value : Json) (name : String) : Option String :=
  match value.field? name with
  | some (.string text) => some text
  | _ => none

/-- `payload[name]`, where `Number.isInteger` holds of it. -/
def integerField (value : Json) (name : String) : Option Int :=
  match value.field? name with
  | some (.number (.finite q)) => if q.den = 1 then some q.num else none
  | _ => none

/-- `payload.role`, where it is one of the two roles. -/
def roleField (value : Json) : Option TicketRole :=
  match textField value "role" with
  | some text => if text = "user" then some .user else if text = "admin" then some .admin else none
  | none => none

/-- The typed fields of a payload. -/
def readFields (value : Json) : Option BrowserTicketPayload := do
  let aud ← textField value "aud"
  let sub ← textField value "sub"
  let role ← roleField value
  let carId ← textField value "carId"
  let sessionId ← textField value "sessionId"
  let iat ← integerField value "iat"
  let exp ← integerField value "exp"
  return { aud, sub, role, carId, sessionId, iat, exp }

/-- `validateBrowserTicketPayload`, with the payload that it narrows the value to. -/
def validateBrowserTicketPayload (value : Json) : Except TicketError BrowserTicketPayload :=
  match value.record? with
  | none => .error .payload
  | some fields =>
    if fields.length ≠ ticketFields.length ∨
        ¬ ∀ name ∈ ticketFields, name ∈ fields.map Prod.fst then .error .payload
    else match readFields value with
      | none => .error .payload
      | some payload =>
        if payload.exp ≤ payload.iat ∨ payload.sub = "" ∨ payload.carId = "" ∨
            payload.sessionId = "" then .error .payload
        else .ok payload

/-! ## Signing and verifying -/

/-- `sign`. -/
def sign (host : TicketHost) (body secret : String) : String :=
  encodeBase64url (host.hmacSha256 secret body).toList

/-- `signBrowserTicket`. -/
def signBrowserTicket (host : TicketHost) (payload : Json) (secret : String) :
    Except TicketError String :=
  if secret = "" then .error .emptySecret
  else match validateBrowserTicketPayload payload with
    | .error e => .error e
    | .ok _ =>
      let body := encodeBase64url (utf8Bytes (host.stringify payload))
      .ok (body ++ "." ++ sign host body secret)

/-- `Buffer.from(body, "base64url").toString("utf8")`. -/
def bodyText (host : TicketHost) (body : String) : String :=
  (utf8Text? (decodeBase64url body)).getD (host.replaceInvalid (decodeBase64url body))

/-- The checks of `verifyBrowserTicket` on the two parts of a ticket. -/
def verifyParts (host : TicketHost) (body encodedSignature secret : String) (nowSeconds : Number) :
    Except TicketError Json :=
  if decodeBase64url (sign host body secret) ≠ decodeBase64url encodedSignature then
    .error .signature
  else match host.parse (bodyText host body) with
    | none => .error .payload
    | some value =>
      match validateBrowserTicketPayload value with
      | .error e => .error e
      | .ok payload =>
        if payload.aud ≠ "rcmania-gateway" then .error .audience
        else if (Number.ofInt payload.exp).lt nowSeconds then .error .expired
        else if nowSeconds.lt (Number.ofInt payload.iat) then .error .issuedInFuture
        else .ok value

/-- `verifyBrowserTicket`, with the payload as it was parsed. -/
def verifyBrowserTicket (host : TicketHost) (ticket secret : String) (nowSeconds : Number) :
    Except TicketError Json :=
  if secret = "" then .error .emptySecret
  else match ticket.toList.splitOn '.' with
    | [first, second] =>
      if first = [] ∨ second = [] then .error .format
      else verifyParts host (.ofList first) (.ofList second) secret nowSeconds
    | _ => .error .format

/-! ## What the validator accepts -/

/-- Fields that are exactly the seven of a payload, each of its type. -/
structure PayloadFields (fields : List (String × Json)) (payload : BrowserTicketPayload) :
    Prop where
  names : (fields.map Prod.fst).Perm ticketFields
  aud : ("aud", .string payload.aud) ∈ fields
  sub : ("sub", .string payload.sub) ∈ fields
  role : ("role", .string payload.role.text) ∈ fields
  carId : ("carId", .string payload.carId) ∈ fields
  sessionId : ("sessionId", .string payload.sessionId) ∈ fields
  iat : ("iat", .number (.ofInt payload.iat)) ∈ fields
  exp : ("exp", .number (.ofInt payload.exp)) ∈ fields
  sub_ne : payload.sub ≠ ""
  carId_ne : payload.carId ≠ ""
  sessionId_ne : payload.sessionId ≠ ""
  iat_lt_exp : payload.iat < payload.exp

/-- An object whose names are distinct has each of its fields. -/
theorem field?_eq_some_iff {fields : List (String × Json)} (hnodup : (fields.map Prod.fst).Nodup)
    {name : String} {value : Json} :
    (Json.object fields).field? name = some value ↔ (name, value) ∈ fields := by
  simp only [Json.field?, Json.record?, Option.bind_some, Option.map_eq_some_iff]
  constructor
  · rintro ⟨⟨key, item⟩, hfind, rfl⟩
    have hkey : key = name := by simpa using List.find?_some hfind
    exact hkey ▸ List.mem_of_find?_eq_some hfind
  · intro hmem
    have hsome : (fields.find? (·.1 = name)).isSome := List.find?_isSome.2 ⟨_, hmem, by simp⟩
    obtain ⟨⟨key, item⟩, hfind⟩ := Option.isSome_iff_exists.1 hsome
    have hkey : key = name := by simpa using List.find?_some hfind
    subst hkey
    refine ⟨_, hfind, ?_⟩
    have hsame := List.inj_on_of_nodup_map hnodup (List.mem_of_find?_eq_some hfind) hmem rfl
    exact congrArg Prod.snd hsame

section Reading

variable {fields : List (String × Json)} (hnodup : (fields.map Prod.fst).Nodup)

include hnodup

theorem textField_iff {name text : String} :
    textField (.object fields) name = some text ↔ (name, .string text) ∈ fields := by
  rw [← field?_eq_some_iff hnodup, textField]
  split
  · next read heq => rw [heq, Option.some.injEq, Option.some.injEq, Json.string.injEq]
  · next hother =>
    constructor
    · intro h
      cases h
    · intro h
      exact absurd h (hother text)

theorem integerField_iff {name : String} {n : Int} :
    integerField (.object fields) name = some n ↔ (name, .number (.ofInt n)) ∈ fields := by
  rw [← field?_eq_some_iff hnodup, integerField]
  split
  · next q heq =>
    rw [heq]
    constructor
    · intro h
      split at h
      · next hden =>
        obtain rfl := Option.some.inj h
        rw [Number.ofInt, Rat.coe_int_num_of_den_eq_one hden]
      · cases h
    · intro h
      obtain rfl : q = n := by simpa [Number.ofInt] using h
      simp
  · next hother =>
    constructor
    · intro h
      cases h
    · intro h
      exact absurd h (hother n)

theorem roleField_iff {role : TicketRole} :
    roleField (.object fields) = some role ↔ ("role", .string role.text) ∈ fields := by
  rw [← textField_iff hnodup, roleField]
  split
  · next text heq =>
    rw [heq, Option.some.injEq]
    split
    · next huser => subst huser; cases role <;> simp [TicketRole.text]
    · next huser =>
      split
      · next hadmin => subst hadmin; cases role <;> simp [TicketRole.text]
      · next hadmin => cases role <;> simp [TicketRole.text, huser, hadmin]
  · next hnone => simp [hnone]

theorem readFields_iff {payload : BrowserTicketPayload} :
    readFields (.object fields) = some payload ↔
      ("aud", .string payload.aud) ∈ fields ∧ ("sub", .string payload.sub) ∈ fields ∧
      ("role", .string payload.role.text) ∈ fields ∧
      ("carId", .string payload.carId) ∈ fields ∧
      ("sessionId", .string payload.sessionId) ∈ fields ∧
      ("iat", .number (.ofInt payload.iat)) ∈ fields ∧
      ("exp", .number (.ofInt payload.exp)) ∈ fields := by
  rw [← roleField_iff hnodup]
  simp only [← textField_iff hnodup, ← integerField_iff hnodup]
  constructor
  · intro h
    simp only [readFields, Option.bind_eq_bind, Option.bind_eq_some_iff, Option.pure_def,
      Option.some.injEq] at h
    obtain ⟨_, haud, _, hsub, _, hrole, _, hcar, _, hsession, _, hiat, _, hexp, rfl⟩ := h
    exact ⟨haud, hsub, hrole, hcar, hsession, hiat, hexp⟩
  · rintro ⟨haud, hsub, hrole, hcar, hsession, hiat, hexp⟩
    simp only [readFields, haud, hsub, hrole, hcar, hsession, hiat, hexp, Option.bind_eq_bind,
      Option.bind_some, Option.pure_def]

end Reading

/-- Seven fields with all seven names are exactly those. -/
theorem names_perm_iff {names : List String} :
    names.Perm ticketFields ↔
      names.length = ticketFields.length ∧ ∀ name ∈ ticketFields, name ∈ names := by
  constructor
  · intro hperm
    exact ⟨hperm.length_eq, fun name hname => hperm.mem_iff.2 hname⟩
  · rintro ⟨hlength, hall⟩
    have hsub : ticketFields.Subperm names :=
      (by decide : ticketFields.Nodup).subperm hall
    exact (hsub.perm_of_length_le hlength.le).symm

/-- The validator accepts exactly the objects with the seven fields of a payload. -/
theorem validateBrowserTicketPayload_iff {value : Json} {payload : BrowserTicketPayload} :
    validateBrowserTicketPayload value = .ok payload ↔
      ∃ fields, value = .object fields ∧ PayloadFields fields payload := by
  constructor
  · intro h
    unfold validateBrowserTicketPayload at h
    split at h
    · cases h
    · next fields hrecord =>
      obtain rfl : value = .object fields := by
        cases value <;> simp_all [Json.record?]
      split at h
      · cases h
      · next hnames =>
        push Not at hnames
        have hperm : (fields.map Prod.fst).Perm ticketFields :=
          names_perm_iff.2 ⟨by rw [List.length_map]; exact hnames.1, hnames.2⟩
        have hnodup := hperm.nodup_iff.2 (by decide)
        split at h
        · cases h
        · next read hread =>
          split at h
          · cases h
          · next hchecks =>
            obtain rfl : read = payload := by simpa using h
            push Not at hchecks
            obtain ⟨htimes, hsub, hcar, hsession⟩ := hchecks
            obtain ⟨haud, hsub', hrole, hcar', hsession', hiat, hexp⟩ :=
              (readFields_iff hnodup).1 hread
            exact ⟨fields, rfl, hperm, haud, hsub', hrole, hcar', hsession', hiat, hexp, hsub,
              hcar, hsession, htimes⟩
  · rintro ⟨fields, rfl, h⟩
    have hnodup := h.names.nodup_iff.2 (by decide)
    have hread : readFields (.object fields) = some payload :=
      (readFields_iff hnodup).2 ⟨h.aud, h.sub, h.role, h.carId, h.sessionId, h.iat, h.exp⟩
    have hnames := names_perm_iff.1 h.names
    rw [List.length_map] at hnames
    have hlt := h.iat_lt_exp
    simp only [validateBrowserTicketPayload, Json.record?, hread]
    rw [if_neg (by simpa using hnames),
      if_neg (by simp [h.sub_ne, h.carId_ne, h.sessionId_ne, hlt])]

/-! ## What the verifier accepts -/

theorem decode_sign (host : TicketHost) (body secret : String) :
    decodeBase64url (sign host body secret) =
      (host.hmacSha256 secret body).toList.map UInt8.toNat :=
  decode_encodeBase64url _

theorem sign_ne_empty (host : TicketHost) (body secret : String) : sign host body secret ≠ "" := by
  refine encodeBase64url_ne_empty fun hnil => ?_
  have hlength := congrArg List.length hnil
  rw [Vector.length_toList] at hlength
  cases hlength

/-- The parts that make a ticket verify at a time. -/
structure TicketParts (host : TicketHost) (ticket secret : String) (nowSeconds : Number)
    (body signature : String) (fields : List (String × Json)) (payload : BrowserTicketPayload) :
    Prop where
  split : ticket = body ++ "." ++ signature
  body_ne : body ≠ ""
  signature_ne : signature ≠ ""
  body_dot : '.' ∉ body.toList
  signature_dot : '.' ∉ signature.toList
  signed : decodeBase64url signature = (host.hmacSha256 secret body).toList.map UInt8.toNat
  parsed : host.parse (bodyText host body) = some (.object fields)
  fields : PayloadFields fields payload
  audience : payload.aud = "rcmania-gateway"
  issued : (Number.ofInt payload.iat).le nowSeconds = true
  current : nowSeconds.le (Number.ofInt payload.exp) = true

/-- A ticket goes on being one when its signature goes on after a `=`. -/
theorem TicketParts.pad {host : TicketHost} {ticket secret : String} {nowSeconds : Number}
    {body signature : String} {fields : List (String × Json)} {payload : BrowserTicketPayload}
    (h : TicketParts host ticket secret nowSeconds body signature fields payload) {rest : String}
    (hrest : '.' ∉ rest.toList) :
    TicketParts host (ticket ++ "=" ++ rest) secret nowSeconds body (signature ++ "=" ++ rest)
      fields payload := by
  refine { h with split := ?_, signature_ne := ?_, signature_dot := ?_, signed := ?_ }
  · simp only [h.split, String.append_assoc]
  · intro hempty
    have hlength := congrArg String.toList hempty
    simp at hlength
  · rw [String.toList_append, String.toList_append, List.mem_append, List.mem_append, not_or,
      not_or]
    exact ⟨⟨h.signature_dot, by decide⟩, hrest⟩
  · rw [decodeBase64url_pad, h.signed]

/-- The two time checks let through exactly the times from `iat` to `exp`. -/
theorem lt_eq_false_iff {x y : Number} (hx : x ≠ .nan) (hy : y ≠ .nan) :
    x.lt y = false ↔ y.le x = true := by
  constructor
  · exact Number.le_of_not_lt hx hy
  · intro h
    rw [Number.lt, h, Bool.not_true, Bool.and_false]

theorem verifyParts_iff {host : TicketHost} {body signature secret : String} {nowSeconds : Number}
    {value : Json} (hnow : nowSeconds ≠ .nan) :
    verifyParts host body signature secret nowSeconds = .ok value ↔
      decodeBase64url signature = (host.hmacSha256 secret body).toList.map UInt8.toNat ∧
      host.parse (bodyText host body) = some value ∧
      ∃ fields payload, value = .object fields ∧ PayloadFields fields payload ∧
        payload.aud = "rcmania-gateway" ∧ (Number.ofInt payload.iat).le nowSeconds = true ∧
        nowSeconds.le (Number.ofInt payload.exp) = true := by
  have hfinite : ∀ n : Int, Number.ofInt n ≠ .nan := by
    intro n h
    cases h
  constructor
  · intro h
    rw [verifyParts, decode_sign] at h
    split at h
    · cases h
    · next hsigned =>
      split at h
      · cases h
      · next read hparse =>
        split at h
        · cases h
        · next payload hvalid =>
          split at h
          · cases h
          · next haud =>
            split at h
            · cases h
            · next hexpired =>
              split at h
              · cases h
              · next hissued =>
                obtain rfl : read = value := by simpa using h
                obtain ⟨fields, rfl, hfields⟩ := validateBrowserTicketPayload_iff.1 hvalid
                rw [Bool.not_eq_true, lt_eq_false_iff (hfinite _) hnow] at hexpired
                rw [Bool.not_eq_true, lt_eq_false_iff hnow (hfinite _)] at hissued
                exact ⟨(not_not.1 hsigned).symm, hparse, fields, payload, rfl, hfields,
                  not_not.1 haud, hissued, hexpired⟩
  · rintro ⟨hsigned, hparse, fields, payload, rfl, hfields, haud, hissued, hcurrent⟩
    have hvalid := validateBrowserTicketPayload_iff.2 ⟨fields, rfl, hfields⟩
    rw [← lt_eq_false_iff hnow (hfinite _)] at hissued
    rw [← lt_eq_false_iff (hfinite _) hnow] at hcurrent
    rw [verifyParts, decode_sign, if_neg (not_not.2 hsigned.symm)]
    simp only [hparse, hvalid]
    rw [if_neg (not_not.2 haud), hcurrent, hissued]
    rfl

/-- The verifier accepts exactly the tickets that have all their parts. -/
theorem verifyBrowserTicket_iff {host : TicketHost} {ticket secret : String} {nowSeconds : Number}
    {value : Json} (hnow : nowSeconds ≠ .nan) :
    verifyBrowserTicket host ticket secret nowSeconds = .ok value ↔
      secret ≠ "" ∧ ∃ body signature fields payload, value = .object fields ∧
        TicketParts host ticket secret nowSeconds body signature fields payload := by
  constructor
  · intro h
    unfold verifyBrowserTicket at h
    split at h
    · cases h
    · next hsecret =>
      split at h
      · next first second hsplit =>
        obtain ⟨hticket, hfirst, hsecond⟩ := splitOn_eq_pair.1 hsplit
        split at h
        · cases h
        · next hne =>
          push Not at hne
          obtain ⟨hsigned, hparse, fields, payload, rfl, hfields, haud, hissued, hcurrent⟩ :=
            (verifyParts_iff hnow).1 h
          refine ⟨hsecret, .ofList first, .ofList second, fields, payload, rfl,
            { split := ?_, body_ne := ?_, signature_ne := ?_, body_dot := ?_, signature_dot := ?_,
              signed := hsigned, parsed := hparse, fields := hfields, audience := haud,
              issued := hissued, current := hcurrent }⟩
          · exact String.toList_inj.1 (by simp [hticket])
          · simpa [String.ofList_eq_empty_iff] using hne.1
          · simpa [String.ofList_eq_empty_iff] using hne.2
          · rwa [String.toList_ofList]
          · rwa [String.toList_ofList]
      · cases h
  · rintro ⟨hsecret, body, signature, fields, payload, rfl, h⟩
    have hsplit : ticket.toList.splitOn '.' = [body.toList, signature.toList] := by
      refine splitOn_eq_pair.2 ⟨?_, h.body_dot, h.signature_dot⟩
      rw [h.split]
      simp
    have hbody : body.toList ≠ [] := fun hnil => h.body_ne (String.toList_eq_nil_iff.1 hnil)
    have hsignature : signature.toList ≠ [] := fun hnil =>
      h.signature_ne (String.toList_eq_nil_iff.1 hnil)
    rw [verifyBrowserTicket, if_neg hsecret, hsplit]
    dsimp only
    rw [if_neg (not_or.2 ⟨hbody, hsignature⟩), String.ofList_toList, String.ofList_toList]
    exact (verifyParts_iff hnow).2 ⟨h.signed, h.parsed, fields, payload, rfl, h.fields, h.audience,
      h.issued, h.current⟩

/-! ## Round trip -/

/-- `JSON.parse` undoes `JSON.stringify` on a value, and throws on the empty text. -/
structure TicketHost.Reads (host : TicketHost) (value : Json) : Prop where
  parse_stringify : host.parse (host.stringify value) = some value
  parse_empty : host.parse "" = none

/-- The body of a signed ticket is read back as what was signed. -/
theorem bodyText_encode (host : TicketHost) (text : String) :
    bodyText host (encodeBase64url (utf8Bytes text)) = text := by
  rw [bodyText, decode_encodeBase64url, utf8Text?_utf8Bytes, Option.getD_some]

/-- A signed payload is a ticket with all its parts. -/
theorem signBrowserTicket_parts {host : TicketHost} {fields : List (String × Json)}
    {payload : BrowserTicketPayload} {secret : String} {nowSeconds : Number}
    (hreads : host.Reads (.object fields)) (hsecret : secret ≠ "")
    (hfields : PayloadFields fields payload) (haud : payload.aud = "rcmania-gateway")
    (hissued : (Number.ofInt payload.iat).le nowSeconds = true)
    (hcurrent : nowSeconds.le (Number.ofInt payload.exp) = true) :
    ∃ ticket body signature, signBrowserTicket host (.object fields) secret = .ok ticket ∧
      TicketParts host ticket secret nowSeconds body signature fields payload := by
  have htext : host.stringify (.object fields) ≠ "" := by
    intro hempty
    have hparse := hreads.parse_stringify
    rw [hempty, hreads.parse_empty] at hparse
    cases hparse
  have hvalid := validateBrowserTicketPayload_iff.2 ⟨fields, rfl, hfields⟩
  refine ⟨_, encodeBase64url (utf8Bytes (host.stringify (.object fields))), _,
    by rw [signBrowserTicket, if_neg hsecret, hvalid],
    { split := rfl
      body_ne := encodeBase64url_ne_empty (utf8Bytes_ne_nil htext)
      signature_ne := sign_ne_empty _ _ _
      body_dot := dot_not_mem_encodeBase64url _
      signature_dot := dot_not_mem_encodeBase64url _
      signed := decode_sign _ _ _
      parsed := ?_
      fields := hfields
      audience := haud
      issued := hissued
      current := hcurrent }⟩
  rw [bodyText_encode, hreads.parse_stringify]

/-- What is signed for the gateway is verified from `iat` to `exp`, and at any time only tickets
with all their parts are verified. -/
theorem verifyBrowserTicket_exact (host : TicketHost) (secret : String) :
    (∀ fields payload nowSeconds, host.Reads (.object fields) → secret ≠ "" →
      PayloadFields fields payload → payload.aud = "rcmania-gateway" →
      (Number.ofInt payload.iat).le nowSeconds = true →
      nowSeconds.le (Number.ofInt payload.exp) = true →
      ∃ ticket, signBrowserTicket host (.object fields) secret = .ok ticket ∧
        verifyBrowserTicket host ticket secret nowSeconds = .ok (.object fields)) ∧
    ∀ ticket nowSeconds value, nowSeconds ≠ .nan →
      (verifyBrowserTicket host ticket secret nowSeconds = .ok value ↔
        secret ≠ "" ∧ ∃ body signature fields payload, value = .object fields ∧
          TicketParts host ticket secret nowSeconds body signature fields payload) := by
  constructor
  · intro fields payload nowSeconds hreads hsecret hfields haud hissued hcurrent
    have hnow : nowSeconds ≠ .nan := by
      rintro rfl
      cases hissued
    obtain ⟨ticket, body, signature, hticket, hparts⟩ :=
      signBrowserTicket_parts hreads hsecret hfields haud hissued hcurrent
    exact ⟨ticket, hticket, (verifyBrowserTicket_iff hnow).2
      ⟨hsecret, body, signature, fields, payload, rfl, hparts⟩⟩
  · intro ticket nowSeconds value hnow
    exact verifyBrowserTicket_iff hnow

/-- The payload of an administrator's ride. -/
def adminPayload : BrowserTicketPayload :=
  { aud := "rcmania-gateway", sub := "user-1", role := .admin, carId := "car-1",
    sessionId := "session-1", iat := 1800000000, exp := 1800000060 }

def adminFields : List (String × Json) :=
  [("aud", .string "rcmania-gateway"), ("sub", .string "user-1"), ("role", .string "admin"),
    ("carId", .string "car-1"), ("sessionId", .string "session-1"),
    ("iat", .number (.ofInt 1800000000)), ("exp", .number (.ofInt 1800000060))]

def adminText : String :=
  "\x7b\"aud\":\"rcmania-gateway\",\"sub\":\"user-1\",\"role\":\"admin\"," ++
    "\"carId\":\"car-1\",\"sessionId\":\"session-1\"," ++
    "\"iat\":1800000000,\"exp\":1800000060\x7d"

/-- The digest of the encoded `adminText` under the key `a-long-browser-ticket-secret`. -/
def adminDigest : Vector UInt8 32 :=
  #v[56, 247, 34, 114, 63, 191, 84, 60, 248, 179, 31, 132, 88, 53, 79, 142,
    209, 48, 203, 75, 95, 80, 67, 186, 64, 29, 37, 167, 155, 32, 225, 207]

def adminHost : TicketHost :=
  { hmacSha256 := fun key message =>
      if key = "a-long-browser-ticket-secret" ∧
          message = encodeBase64url (utf8Bytes adminText) then adminDigest
      else .replicate 32 0
    replaceInvalid := fun bytes => .ofList (bytes.map fun _ => '\uFFFD')
    parse := fun text => if text = adminText then some (.object adminFields) else none
    stringify := fun _ => adminText }

theorem adminFields_payload : PayloadFields adminFields adminPayload where
  names := by rw [show adminFields.map Prod.fst = ticketFields from rfl]
  aud := by simp [adminFields, adminPayload]
  sub := by simp [adminFields, adminPayload]
  role := by simp [adminFields, adminPayload, TicketRole.text]
  carId := by simp [adminFields, adminPayload]
  sessionId := by simp [adminFields, adminPayload]
  iat := by simp [adminFields, adminPayload]
  exp := by simp [adminFields, adminPayload]
  sub_ne := by decide
  carId_ne := by decide
  sessionId_ne := by decide
  iat_lt_exp := by decide

theorem adminTicket_verified :
    ∃ ticket, signBrowserTicket adminHost (.object adminFields) "a-long-browser-ticket-secret" =
        .ok ticket ∧
      verifyBrowserTicket adminHost ticket "a-long-browser-ticket-secret" (.ofInt 1800000030) =
        .ok (.object adminFields) ∧
      ∃ body signature fields payload, Json.object adminFields = .object fields ∧
        TicketParts adminHost ticket "a-long-browser-ticket-secret" (.ofInt 1800000030) body
          signature fields payload := by
  have hreads : adminHost.Reads (.object adminFields) :=
    { parse_stringify := by simp [adminHost]
      parse_empty := by simp [adminHost, show "" ≠ adminText by decide] }
  obtain ⟨ticket, hsigned, hverified⟩ :=
    (verifyBrowserTicket_exact adminHost "a-long-browser-ticket-secret").1 adminFields adminPayload
      (.ofInt 1800000030) hreads (by decide) adminFields_payload rfl
      (by norm_num [Number.le, Number.ofInt, adminPayload])
      (by norm_num [Number.le, Number.ofInt, adminPayload])
  have hnow : Number.ofInt 1800000030 ≠ .nan := by
    intro h
    cases h
  refine ⟨ticket, hsigned, hverified, ?_⟩
  exact (((verifyBrowserTicket_exact adminHost "a-long-browser-ticket-secret").2 ticket
    (.ofInt 1800000030) (.object adminFields) hnow).1 hverified).2

end RcOnline.Gateway
