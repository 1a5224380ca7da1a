import RcOnline.Lib.Host

/-!
# URLs

The URL parser of the host for the schemes that have an origin: `http`, `https`, `ws`, `wss` and
`ftp`. Parsing the host of a URL, and every URL of another scheme, is left to a parameter
(`UrlHost`). A text that begins with an origin and a slash has that origin
(`parse_origin_slash`), and a path with one leading slash keeps the origin of its base
(`parse_path`).
-/

namespace RcOnline.Lib

/-! ## Characters -/

/-- C0 controls and the space. -/
def isC0OrSpace (c : Char) : Bool := c.toNat ≤ 0x20

def isTabOrNewline (c : Char) : Bool := c = '\t' || c = '\n' || c = '\r'

/-- With a special scheme a backslash is as good as a slash. -/
def isSlash (c : Char) : Bool := c = '/' || c = '\\'

/-- The characters that end an authority. -/
def isTerminator (c : Char) : Bool := isSlash c || c = '?' || c = '#'

/-- The characters that may follow the first letter of a scheme. -/
def isSchemeChar (c : Char) : Bool := c.isAlphanum || c = '+' || c = '-' || c = '.'

/-- The characters that no serialised host has; those of an IPv6 address are not among them. -/
def isForbiddenHost (c : Char) : Bool :=
  isC0OrSpace c || c.toNat = 0x7F || c ∈ ['#', '%', '/', '<', '>', '?', '@', '\\', '^', '|']

/-- Controls, and everything outside ASCII. -/
def inC0ControlSet (c : Char) : Bool := c.toNat ≤ 0x1F || 0x7E < c.toNat

def inFragmentSet (c : Char) : Bool := inC0ControlSet c || c ∈ [' ', '\x22', '<', '>', '\x60']

def inSpecialQuerySet (c : Char) : Bool :=
  inC0ControlSet c || c ∈ [' ', '\x22', '#', '<', '>', '\x27']

def inPathSet (c : Char) : Bool :=
  inC0ControlSet c || c ∈ [' ', '\x22', '#', '<', '>', '?', '^', '\x60', '\x7b', '\x7d']

def inUserinfoSet (c : Char) : Bool :=
  inPathSet c || c ∈ ['/', ':', ';', '=', '@', '[', '\\', ']', '|']

/-- The characters of a set as the bytes of their UTF-8 encoding. -/
def percentEncode (inSet : Char → Bool) (text : List Char) : String :=
  .ofList (text.flatMap fun c =>
    if inSet c then c.toString.toUTF8.data.toList.flatMap fun byte =>
      ['%', hexDigit (byte.toNat / 16), hexDigit (byte.toNat % 16)]
    else [c])

/-! ## URLs -/

/-- The special schemes but `file`. -/
inductive SpecialScheme where
  | http
  | https
  | ws
  | wss
  | ftp
  deriving DecidableEq

namespace SpecialScheme

def name : SpecialScheme → String
  | .http => "http"
  | .https => "https"
  | .ws => "ws"
  | .wss => "wss"
  | .ftp => "ftp"

def ofName? (name : String) : Option SpecialScheme :=
  [http, https, ws, wss, ftp].find? (·.name = name)

def defaultPort : SpecialScheme → Nat
  | .http => 80
  | .https => 443
  | .ws => 80
  | .wss => 443
  | .ftp => 21

end SpecialScheme

/-- A serialised host. -/
structure HostText where
  text : String
  ne_empty : text ≠ ""
  allowed : ∀ c ∈ text.toList, isForbiddenHost c = false

/-- A URL with a special scheme other than `file`. -/
structure SpecialUrl where
  scheme : SpecialScheme
  username : String
  password : String
  host : HostText
  port : Option Nat
  path : List String
  query : Option String
  fragment : Option String

/-- A URL with another scheme, as far as it is read. -/
structure OtherUrl where
  origin : String
  pathname : String
  search : String
  hash : String
  href : String

inductive ParsedUrl where
  | special (url : SpecialUrl)
  | other (url : OtherUrl)

namespace SpecialUrl

/-- The port of a serialised URL. -/
def portText : Option Nat → String
  | none => ""
  | some port => ":" ++ toString port

/-- The host and the port of a serialised URL. -/
def authority (url : SpecialUrl) : String := url.host.text ++ portText url.port

def origin (url : SpecialUrl) : String := url.scheme.name ++ "://" ++ url.authority

def pathname (url : SpecialUrl) : String := .ofList (url.path.flatMap fun s => '/' :: s.toList)

/-- A part of a URL after its mark; nothing when it is empty. -/
def marked (mark : String) : Option String → String
  | none => ""
  | some text => if text = "" then "" else mark ++ text

def search (url : SpecialUrl) : String := marked "?" url.query

def hash (url : SpecialUrl) : String := marked "#" url.fragment

def credentials (url : SpecialUrl) : String :=
  if url.username = "" ∧ url.password = "" then ""
  else url.username ++ (if url.password = "" then "" else ":" ++ url.password) ++ "@"

def href (url : SpecialUrl) : String :=
  url.scheme.name ++ "://" ++ url.credentials ++ url.authority ++ url.pathname ++
    (url.query.map ("?" ++ ·)).getD "" ++ (url.fragment.map ("#" ++ ·)).getD ""

end SpecialUrl

namespace ParsedUrl

def origin : ParsedUrl → String
  | .special url => url.origin
  | .other url => url.origin

def pathname : ParsedUrl → String
  | .special url => url.pathname
  | .other url => url.pathname

def search : ParsedUrl → String
  | .special url => url.search
  | .other url => url.search

def hash : ParsedUrl → String
  | .special url => url.hash
  | .other url => url.hash

/-- `url.toString()`. -/
def href : ParsedUrl → String
  | .special url => url.href
  | .other url => url.href

end ParsedUrl

/-- What the parser leaves to the host. -/
structure UrlHost where
  /-- The host parser on the host of a special URL, none when it fails. -/
  parseHost : String → Option HostText
  /-- The parser on a stripped text with another scheme, or without one and on such a base. -/
  parseOther : String → Option ParsedUrl → Option OtherUrl

/-! ## The parser -/

/-- A text without controls and spaces at its end, and without tabs and newlines. -/
def stripEnd (text : List Char) : List Char :=
  ((text.reverse.dropWhile isC0OrSpace).reverse).filter (!isTabOrNewline ·)

/-- What the parser reads of its input. -/
def stripInput (input : String) : List Char := stripEnd (input.toList.dropWhile isC0OrSpace)

/-- The scheme of a text, in lower case, and what follows its colon. -/
def splitScheme (text : List Char) : Option (String × List Char) :=
  if (text.head?.any Char.isAlpha) = true then
    match text.dropWhile isSchemeChar with
    | ':' :: rest => some (.ofList ((text.takeWhile isSchemeChar).map Char.toLower), rest)
    | _ => none
  else none

/-- The host of an authority, and its port if there is a colon outside of brackets. -/
def splitPort (insideBrackets : Bool) : List Char → List Char × Option (List Char)
  | [] => ([], none)
  | c :: rest =>
    if c = ':' ∧ insideBrackets = false then ([], some rest)
    else
      let inside := if c = '[' then true else if c = ']' then false else insideBrackets
      (c :: (splitPort inside rest).1, (splitPort inside rest).2)

/-- The port that digits give, none for no port or the default one; it fails on other texts. -/
def parsePort (scheme : SpecialScheme) (digits : List Char) : Option (Option Nat) :=
  let port := Nat.ofDigits 10 (digits.reverse.map fun c => c.toNat - '0'.toNat)
  if digits = [] then some none
  else if ¬ digits.all Char.isDigit ∨ 65535 < port then none
  else some (if port = scheme.defaultPort then none else some port)

/-- The authority, the host and the port states on the text up to a terminator. -/
def parseAuthority (host : UrlHost) (scheme : SpecialScheme) (text : List Char) :
    Option SpecialUrl :=
  -- the last at sign ends the credentials
  let credentials := ((text.reverse.dropWhile (· ≠ '@')).drop 1).reverse
  let (hostText, portText) := splitPort false ((text.reverse.takeWhile (· ≠ '@')).reverse)
  if hostText = [] then none
  else (host.parseHost (.ofList hostText)).bind fun parsedHost =>
    (parsePort scheme (portText.getD [])).map fun port =>
      { scheme
        username := percentEncode inUserinfoSet (credentials.takeWhile (· ≠ ':'))
        password := percentEncode inUserinfoSet ((credentials.dropWhile (· ≠ ':')).drop 1)
        host := parsedHost
        port
        path := []
        query := none
        fragment := none }

def isSingleDot (segment : String) : Bool := segment.toLower ∈ [".", "%2e"]

def isDoubleDot (segment : String) : Bool :=
  segment.toLower ∈ ["..", ".%2e", "%2e.", "%2e%2e"]

/-- The path state on the segments of a text, after a path. -/
def pathSegments : List String → List String → List String
  | path, [] => path
  | path, [last] =>
    if isDoubleDot last then path.dropLast ++ [""]
    else if isSingleDot last then path ++ [""]
    else path ++ [last]
  | path, segment :: next :: rest =>
    pathSegments
      (if isDoubleDot segment then path.dropLast
        else if isSingleDot segment then path
        else path ++ [segment])
      (next :: rest)

/-- The fragment that a text is from its mark on. -/
def parseFragment : List Char → Option String
  | '#' :: rest => some (percentEncode inFragmentSet rest)
  | _ => none

/-- The query that a text has before its fragment. -/
def parseQuery : List Char → Option String
  | '?' :: rest => some (percentEncode inSpecialQuerySet (rest.takeWhile (· ≠ '#')))
  | _ => none

/-- The path state: a URL with the path, the query and the fragment of a text. -/
def withPath (url : SpecialUrl) (path : List String) (text : List Char) : SpecialUrl :=
  let segments := (text.takeWhile fun c => c ≠ '?' && c ≠ '#').splitOnP isSlash
  { url with
    path := pathSegments path (segments.map (percentEncode inPathSet))
    query := parseQuery (text.dropWhile fun c => c ≠ '?' && c ≠ '#')
    fragment := parseFragment (text.dropWhile (· ≠ '#')) }

/-- The path start state: one slash is dropped. -/
def dropSlash : List Char → List Char
  | [] => []
  | c :: rest => if isSlash c then rest else c :: rest

/-- The special authority ignore slashes state. -/
def parseAfterSlashes (host : UrlHost) (scheme : SpecialScheme) (text : List Char) :
    Option SpecialUrl :=
  let text := text.dropWhile isSlash
  (parseAuthority host scheme (text.takeWhile (!isTerminator ·))).map fun url =>
    withPath url [] (dropSlash (text.dropWhile (!isTerminator ·)))

/-- The relative and the relative slash state. -/
def parseRelative (host : UrlHost) (base : SpecialUrl) : List Char → Option SpecialUrl
  | [] => some { base with fragment := none }
  | c :: rest =>
    if isSlash c then
      if (rest.head?.any isSlash) = true then parseAfterSlashes host base.scheme rest
      else some (withPath base [] rest)
    else if c = '?' then
      some { base with
        query := parseQuery (c :: rest), fragment := parseFragment (rest.dropWhile (· ≠ '#')) }
    else if c = '#' then some { base with fragment := parseFragment (c :: rest) }
    else some (withPath base base.path.dropLast (c :: rest))

/-- The basic URL parser. -/
def basicParse (host : UrlHost) (input : String) (base : Option ParsedUrl) : Option ParsedUrl :=
  let text := stripInput input
  let parseOther := (host.parseOther (.ofList text) base).map .other
  match splitScheme text with
  | some (name, rest) =>
    match SpecialScheme.ofName? name with
    | some scheme =>
      match base with
      | some (.special url) =>
        if url.scheme = scheme ∧ ['/', '/'].isPrefixOf rest = false then
          (parseRelative host url rest).map .special
        else (parseAfterSlashes host scheme rest).map .special
      | _ => (parseAfterSlashes host scheme rest).map .special
    | none => parseOther
  | none =>
    match base with
    | some (.special url) => (parseRelative host url text).map .special
    | some (.other _) => parseOther
    | none => none

/-- `new URL(input, base)`; none when it throws. -/
def newUrl (host : UrlHost) (input base : String) : Option ParsedUrl :=
  (basicParse host base none).bind fun url => basicParse host input (some url)

/-! ## Stripping -/

theorem not_c0OrSpace_of_allowed {c : Char} (h : isForbiddenHost c = false) :
    isC0OrSpace c = false := by
  simp only [isForbiddenHost, Bool.or_eq_false_iff] at h
  exact h.1.1

theorem not_terminator_of_allowed {c : Char} (h : isForbiddenHost c = false) :
    isTerminator c = false := by
  simp only [isForbiddenHost, Bool.or_eq_false_iff, decide_eq_false_iff_not, List.mem_cons,
    not_or] at h
  simp only [isTerminator, isSlash, Bool.or_eq_false_iff, decide_eq_false_iff_not]
  tauto

theorem not_tab_of_not_c0OrSpace {c : Char} (h : isC0OrSpace c = false) :
    isTabOrNewline c = false := by
  simp only [isTabOrNewline, Bool.or_eq_false_iff, decide_eq_false_iff_not]
  refine ⟨⟨?_, ?_⟩, ?_⟩ <;> rintro rfl <;> cases h

/-- A first part without controls and spaces stays as it is. -/
theorem stripEnd_append (first tail : List Char) (hfirst : ∀ c ∈ first, isC0OrSpace c = false) :
    stripEnd (first ++ tail) = first ++ stripEnd tail := by
  have hkeep : first.filter (!isTabOrNewline ·) = first := by
    refine List.filter_eq_self.2 fun c hc => ?_
    rw [not_tab_of_not_c0OrSpace (hfirst c hc)]
    rfl
  have hend : first.reverse.dropWhile isC0OrSpace = first.reverse := by
    cases hrev : first.reverse with
    | nil => rfl
    | cons c rest =>
      have hc : c ∈ first := List.mem_reverse.1 (hrev ▸ List.mem_cons_self)
      simp [hfirst c hc]
  have hdrop : (tail.reverse ++ first.reverse).dropWhile isC0OrSpace =
      tail.reverse.dropWhile isC0OrSpace ++ first.reverse := by
    rw [List.dropWhile_append]
    split
    · next hempty => rw [hend, List.isEmpty_iff.1 hempty, List.nil_append]
    · rfl
  rw [stripEnd, List.reverse_append, hdrop, List.reverse_append, List.reverse_reverse,
    List.filter_append, hkeep, stripEnd]

theorem stripInput_append (first tail : List Char) (hne : first ≠ [])
    (hfirst : ∀ c ∈ first, isC0OrSpace c = false) :
    stripInput (.ofList (first ++ tail)) = first ++ stripEnd tail := by
  have hstart : (first ++ tail).dropWhile isC0OrSpace = first ++ tail := by
    cases first with
    | nil => exact absurd rfl hne
    | cons c rest => simp [hfirst c (by simp)]
  rw [stripInput, String.toList_ofList, hstart, stripEnd_append first tail hfirst]

/-- Stripping a text without tabs and newlines cuts its end off. -/
theorem stripEnd_prefix {text : List Char} (h : ∀ c ∈ text, isTabOrNewline c = false) :
    stripEnd text <+: text := by
  have hcut : (text.reverse.dropWhile isC0OrSpace).reverse <+: text := by
    rw [← List.reverse_suffix, List.reverse_reverse]
    exact List.dropWhile_suffix _
  rw [stripEnd, List.filter_eq_self.2 fun c hc => by simp [h c (hcut.subset hc)]]
  exact hcut

/-! ## Origins -/

theorem allowed_of_isDigit {c : Char} (h : c.isDigit = true) : isForbiddenHost c = false := by
  obtain ⟨hlow, hhigh⟩ := Char.isDigit_iff_toNat.1 h
  have hlow : 48 ≤ c.toNat := hlow
  have hhigh : c.toNat ≤ 57 := hhigh
  rw [isForbiddenHost, isC0OrSpace, decide_eq_false (by omega), decide_eq_false (by omega),
    Bool.false_or, Bool.false_or, decide_eq_false_iff_not]
  intro hmem
  simp only [List.mem_cons, List.not_mem_nil, or_false] at hmem
  rcases hmem with rfl | rfl | rfl | rfl | rfl | rfl | rfl | rfl | rfl | rfl <;> cases h

theorem portText_allowed (port : Option Nat) :
    ∀ c ∈ (SpecialUrl.portText port).toList, isForbiddenHost c = false := by
  intro c hc
  cases port with
  | none => simp [SpecialUrl.portText] at hc
  | some n =>
    simp only [SpecialUrl.portText, String.toList_append, List.mem_append] at hc
    rcases hc with hc | hc
    · obtain rfl : c = ':' := by simpa using hc
      rfl
    · refine allowed_of_isDigit (Nat.isDigit_of_mem_toDigits (b := 10) (n := n) (by decide)
        (by decide) ?_)
      rwa [← Nat.toList_repr]

theorem authority_allowed (url : SpecialUrl) :
    ∀ c ∈ url.authority.toList, isForbiddenHost c = false := by
  intro c hc
  rw [SpecialUrl.authority, String.toList_append, List.mem_append] at hc
  rcases hc with hc | hc
  · exact url.host.allowed c hc
  · exact portText_allowed url.port c hc

theorem authority_ne_nil (url : SpecialUrl) : url.authority.toList ≠ [] := by
  rw [SpecialUrl.authority, String.toList_append]
  intro hnil
  exact url.host.ne_empty (String.toList_eq_nil_iff.1 (List.append_eq_nil_iff.1 hnil).1)

theorem schemeName_allowed (scheme : SpecialScheme) :
    ∀ c ∈ scheme.name.toList ++ [':', '/', '/'], isC0OrSpace c = false := by
  cases scheme <;> simp [SpecialScheme.name, isC0OrSpace]

theorem ofName?_name (scheme : SpecialScheme) :
    SpecialScheme.ofName? scheme.name = some scheme := by
  cases scheme <;> simp [SpecialScheme.ofName?, SpecialScheme.name]

theorem splitScheme_name (scheme : SpecialScheme) (rest : List Char) :
    splitScheme (scheme.name.toList ++ ':' :: rest) = some (scheme.name, rest) := by
  cases scheme <;> simp [splitScheme, SpecialScheme.name, isSchemeChar]

/-- The parser on a stripped text that begins with a special scheme and two slashes. -/
theorem parse_of_strip {host : UrlHost} {input : String} {scheme : SpecialScheme}
    {rest : List Char}
    (hstrip : stripInput input = scheme.name.toList ++ ':' :: '/' :: '/' :: rest) :
    basicParse host input none = (parseAfterSlashes host scheme rest).map .special := by
  have hslashes : parseAfterSlashes host scheme ('/' :: '/' :: rest) =
      parseAfterSlashes host scheme rest := by
    simp [parseAfterSlashes, isSlash]
  rw [basicParse, hstrip, splitScheme_name]
  simp only [ofName?_name, hslashes]

/-- The text of an authority up to a terminator is parsed as a whole. -/
theorem parseAfterSlashes_append {host : UrlHost} {scheme : SpecialScheme}
    {authority rest : List Char} (hne : authority ≠ [])
    (hauthority : ∀ c ∈ authority, isForbiddenHost c = false)
    (hrest : ∀ c ∈ rest.head?, isTerminator c = true) :
    parseAfterSlashes host scheme (authority ++ rest) =
      (parseAuthority host scheme authority).map fun url => withPath url [] (dropSlash rest) := by
  have hslash : (authority ++ rest).dropWhile isSlash = authority ++ rest := by
    cases authority with
    | nil => exact absurd rfl hne
    | cons c tail =>
      have hc := not_terminator_of_allowed (hauthority c (by simp))
      have hc : isSlash c = false := by
        simp only [isTerminator, Bool.or_eq_false_iff] at hc
        exact hc.1.1
      simp [hc]
  have hall : ∀ c ∈ authority, (!isTerminator c) = true := fun c hc => by
    rw [not_terminator_of_allowed (hauthority c hc)]
    rfl
  have htake : rest.takeWhile (!isTerminator ·) = [] := by
    cases rest with
    | nil => rfl
    | cons c tail => simp [hrest c (by simp)]
  have hdrop : rest.dropWhile (!isTerminator ·) = rest := by
    cases rest with
    | nil => rfl
    | cons c tail => simp [hrest c (by simp)]
  simp only [parseAfterSlashes, hslash]
  rw [List.takeWhile_append_of_pos hall, List.dropWhile_append_of_pos hall, htake, hdrop,
    List.append_nil]

theorem parseAuthority_scheme {host : UrlHost} {scheme : SpecialScheme} {text : List Char}
    {url : SpecialUrl} (h : parseAuthority host scheme text = some url) : url.scheme = scheme := by
  simp only [parseAuthority] at h
  split at h
  · cases h
  · obtain ⟨parsedHost, -, h⟩ := Option.bind_eq_some_iff.1 h
    obtain ⟨port, -, rfl⟩ := Option.map_eq_some_iff.1 h
    rfl

/-- Without an at sign there are no credentials. -/
theorem parseAuthority_credentials {host : UrlHost} {scheme : SpecialScheme} {text : List Char}
    {url : SpecialUrl} (hat : '@' ∉ text) (h : parseAuthority host scheme text = some url) :
    url.username = "" ∧ url.password = "" := by
  have hdrop : text.reverse.dropWhile (· ≠ '@') = [] := by
    rw [List.dropWhile_eq_nil_iff]
    intro c hc
    have hne : c ≠ '@' := fun heq => hat (heq ▸ List.mem_reverse.1 hc)
    simpa using hne
  simp only [parseAuthority, hdrop] at h
  split at h
  · cases h
  · obtain ⟨parsedHost, -, h⟩ := Option.bind_eq_some_iff.1 h
    obtain ⟨port, -, rfl⟩ := Option.map_eq_some_iff.1 h
    exact ⟨rfl, rfl⟩

/-- A text that is the origin of the URL it parses to. -/
structure CanonicalOrigin (host : UrlHost) (origin : String) (url : SpecialUrl) : Prop where
  parsed : basicParse host origin none = some (.special url)
  origin_eq : url.origin = origin

section Canonical

variable {host : UrlHost} {origin : String} {url : SpecialUrl}

/-- The text of an origin, with anything after it, is stripped after the origin. -/
theorem stripInput_origin (url : SpecialUrl) (tail : List Char) :
    stripInput (.ofList (url.origin.toList ++ tail)) =
      url.scheme.name.toList ++ ':' :: '/' :: '/' :: (url.authority.toList ++ stripEnd tail) := by
  have hchars : url.origin.toList =
      (url.scheme.name.toList ++ [':', '/', '/']) ++ url.authority.toList := by
    simp [SpecialUrl.origin]
  have hfirst : ∀ c ∈ url.origin.toList, isC0OrSpace c = false := by
    intro c hc
    rw [hchars, List.mem_append] at hc
    rcases hc with hc | hc
    · exact schemeName_allowed url.scheme c hc
    · exact not_c0OrSpace_of_allowed (authority_allowed url c hc)
  have hne : url.origin.toList ≠ [] := by
    rw [hchars]
    exact List.append_ne_nil_of_right_ne_nil _ (authority_ne_nil url)
  rw [stripInput_append _ tail hne hfirst, hchars]
  simp

/-- The authority of a canonical origin is parsed to its host and port, and has no credentials. -/
theorem CanonicalOrigin.authority (h : CanonicalOrigin host origin url) :
    ∃ parsed, parseAuthority host url.scheme url.authority.toList = some parsed ∧
      parsed.host = url.host ∧ parsed.port = url.port ∧
      url.username = "" ∧ url.password = "" := by
  have hstrip := stripInput_origin url []
  rw [List.append_nil, String.ofList_toList, h.origin_eq] at hstrip
  have hparse := h.parsed
  rw [parse_of_strip hstrip, show stripEnd [] = [] from rfl,
    parseAfterSlashes_append (authority_ne_nil url) (authority_allowed url) (by simp)] at hparse
  obtain ⟨after, hafter, hspecial⟩ := Option.map_eq_some_iff.1 hparse
  obtain ⟨parsed, hparsed, rfl⟩ := Option.map_eq_some_iff.1 hafter
  obtain rfl := ParsedUrl.special.inj hspecial
  have hat : '@' ∉ (withPath parsed [] (dropSlash [])).authority.toList := fun hmem =>
    absurd (authority_allowed _ _ hmem) (by simp [isForbiddenHost])
  obtain ⟨husername, hpassword⟩ := parseAuthority_credentials hat hparsed
  exact ⟨parsed, hparsed, rfl, rfl, husername, hpassword⟩

/-- A text that begins with a canonical origin and a slash has that origin. -/
theorem parse_origin_slash (h : CanonicalOrigin host origin url) (rest : String) :
    ∃ parsed, basicParse host (origin ++ "/" ++ rest) none = some parsed ∧
      parsed.origin = origin := by
  obtain ⟨parsed, hparsed, hhost, hport, -, -⟩ := h.authority
  have hstrip := stripInput_origin url ('/' :: rest.toList)
  have htext : origin ++ "/" ++ rest = .ofList (url.origin.toList ++ '/' :: rest.toList) := by
    rw [h.origin_eq]
    exact String.toList_inj.1 (by simp)
  have hslash : stripEnd ('/' :: rest.toList) = '/' :: stripEnd rest.toList :=
    stripEnd_append ['/'] _ (by simp [isC0OrSpace])
  rw [hslash] at hstrip
  rw [htext, parse_of_strip hstrip, parseAfterSlashes_append (authority_ne_nil url)
    (authority_allowed url) (by simp [isTerminator, isSlash]), hparsed]
  refine ⟨_, rfl, ?_⟩
  rw [ParsedUrl.origin, ← h.origin_eq]
  simp only [SpecialUrl.origin, SpecialUrl.authority, withPath, hhost, hport,
    parseAuthority_scheme hparsed]

/-! ## Paths -/

theorem pathSegments_ne_nil : ∀ {path segments : List String}, segments ≠ [] →
    pathSegments path segments ≠ []
  | _, [], h => absurd rfl h
  | path, [last], _ => by
    rw [pathSegments]
    split
    · simp
    · split <;> simp
  | path, segment :: next :: rest, _ => by
    rw [pathSegments]
    exact pathSegments_ne_nil (List.cons_ne_nil next rest)

theorem withPath_path_ne_nil (base : SpecialUrl) (path : List String) (text : List Char) :
    (withPath base path text).path ≠ [] := by
  refine pathSegments_ne_nil fun hnil => ?_
  exact List.splitOnP_ne_nil _ _ (List.map_eq_nil_iff.1 hnil)

/-- A path with one leading slash keeps the scheme, the host and the port of its base. -/
theorem parse_path (base : SpecialUrl) {input : String} {rest : List Char}
    (hinput : input.toList = '/' :: rest) (hslash : ∀ c ∈ rest.head?, isSlash c = false)
    (htab : ∀ c ∈ rest, isTabOrNewline c = false) :
    basicParse host input (some (.special base)) =
      some (.special (withPath base [] (stripEnd rest))) := by
  have hstrip : stripInput input = '/' :: stripEnd rest := by
    rw [← @String.ofList_toList input, hinput]
    exact stripInput_append ['/'] rest (by simp) (by simp [isC0OrSpace])
  have hhead : ¬ ((stripEnd rest).head?.any isSlash) = true := by
    obtain ⟨tail, htail⟩ := stripEnd_prefix htab
    cases hend : stripEnd rest with
    | nil => simp
    | cons c cs =>
      have hc := hslash c (by rw [← htail, hend]; rfl)
      simp [hc]
  have hscheme : splitScheme ('/' :: stripEnd rest) = none := by
    rw [splitScheme, if_neg (by simp)]
  rw [basicParse, hstrip, hscheme]
  simp only [parseRelative]
  rw [if_pos (by rfl), if_neg hhead]
  rfl

/-- A URL without credentials and with a path begins with its origin and a slash. -/
theorem href_eq (url : SpecialUrl) (husername : url.username = "") (hpassword : url.password = "")
    (hpath : url.path ≠ []) : ∃ rest, url.href = url.origin ++ "/" ++ rest := by
  obtain ⟨segment, segments, hsegments⟩ := List.exists_cons_of_ne_nil hpath
  refine ⟨.ofList (segment.toList ++ segments.flatMap (fun s => '/' :: s.toList)) ++
    (url.query.map ("?" ++ ·)).getD "" ++ (url.fragment.map ("#" ++ ·)).getD "", ?_⟩
  apply String.toList_inj.1
  simp [SpecialUrl.href, SpecialUrl.origin, SpecialUrl.credentials, SpecialUrl.pathname,
    husername, hpassword, hsegments]

/-- A path with one leading slash, resolved against a canonical origin, is a URL of the origin
whose text begins with it. -/
theorem newUrl_path (h : CanonicalOrigin host origin url) {input : String} {rest : List Char}
    (hinput : input.toList = '/' :: rest) (hslash : ∀ c ∈ rest.head?, isSlash c = false)
    (htab : ∀ c ∈ rest, isTabOrNewline c = false) :
    ∃ resolved after, newUrl host input origin = some resolved ∧ resolved.origin = origin ∧
      resolved.href = origin ++ "/" ++ after := by
  obtain ⟨-, -, -, -, husername, hpassword⟩ := h.authority
  obtain ⟨after, hafter⟩ := href_eq (withPath url [] (stripEnd rest)) husername hpassword
    (withPath_path_ne_nil _ _ _)
  refine ⟨.special (withPath url [] (stripEnd rest)), after, ?_, h.origin_eq, ?_⟩
  · rw [newUrl, h.parsed, Option.bind_some, parse_path url hinput hslash htab]
  · rw [ParsedUrl.href, hafter, ← h.origin_eq]
    rfl

end Canonical

end RcOnline.Lib
