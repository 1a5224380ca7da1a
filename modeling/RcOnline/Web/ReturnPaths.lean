import RcOnline.Lib.Url

/-!
# Return paths

`sanitizeReturnPath` of `apps/web/auth/config.ts` and the redirect callback of `apps/web/auth.ts`.
What passes the filter is one slash with neither slash nor backslash after it and without controls
(`sanitizeReturnPath_path`), which no URL parser takes for an authority, so every redirect stays on
the site (`redirects_stay`).
-/

namespace RcOnline.Web

open RcOnline.Lib

/-! ## The site -/

/-- `isLoopbackHostname`. -/
def isLoopbackHostname (hostname : String) : Bool :=
  hostname = "localhost" || hostname = "127.0.0.1" || hostname = "[::1]"

def isHttps : ParsedUrl → Bool
  | .special url => url.scheme = .https
  | .other _ => false

def isLocalHttp : ParsedUrl → Bool
  | .special url => url.scheme = .http && isLoopbackHostname url.host.text
  | .other _ => false

/-- The check of `AUTH_URL` in `readAuthRuntimeEnvironment`. -/
def checkAuthUrl (host : UrlHost) (isProduction : Bool) (authUrl : String) : Except String Unit :=
  match basicParse host authUrl none with
  | none => .error "AUTH_URL must be a canonical HTTPS origin"
  | some parsedAuthUrl =>
    if parsedAuthUrl.origin ≠ authUrl ∨
        (if isProduction then isHttps parsedAuthUrl = false
          else isHttps parsedAuthUrl = false ∧ isLocalHttp parsedAuthUrl = false) then
      .error (if isProduction then "AUTH_URL must be a canonical HTTPS origin"
        else "AUTH_URL must be a canonical HTTPS or loopback HTTP origin")
    else .ok ()

/-- The site is a canonical origin with one of the two schemes. -/
theorem canonical_of_checkAuthUrl {host : UrlHost} {isProduction : Bool} {authUrl : String}
    (h : checkAuthUrl host isProduction authUrl = .ok ()) :
    ∃ url, CanonicalOrigin host authUrl url ∧ (url.scheme = .http ∨ url.scheme = .https) := by
  unfold checkAuthUrl at h
  split at h
  · cases h
  · next parsed hparsed =>
    by_cases horigin : parsed.origin = authUrl
    · have hscheme : isHttps parsed = true ∨ isLocalHttp parsed = true := by
        by_contra hneither
        simp only [not_or, Bool.not_eq_true] at hneither
        rw [if_pos (.inr (by cases isProduction <;> simp [hneither]))] at h
        cases h
      cases parsed with
      | other url => rcases hscheme with hscheme | hscheme <;> cases hscheme
      | special url =>
        refine ⟨url, ⟨hparsed, horigin⟩, ?_⟩
        rcases hscheme with hscheme | hscheme
        · exact .inr (by simpa [isHttps] using hscheme)
        · simp only [isLocalHttp, Bool.and_eq_true, decide_eq_true_eq] at hscheme
          exact .inl hscheme.1
    · rw [if_pos (.inl horigin)] at h
      cases h

/-! ## The filter -/

/-- The controls that `sanitizeReturnPath` looks for. -/
def isControl (c : Char) : Bool := c.toNat ≤ 0x1F || c.toNat = 0x7F

def sanitizeReturnPath (value : Option String) : String :=
  match value with
  | none => "/"
  | some value =>
    if value = "" ∨ startsWith value "/" = false ∨ startsWith value "//" = true ∨
        '\x5c' ∈ value.toList ∨ value.toList.any isControl = true then "/"
    else value

/-- A slash, no slash or backslash after it, and no tab or newline. -/
def SitePath (path : String) : Prop :=
  ∃ rest, path.toList = '/' :: rest ∧ (∀ c ∈ rest.head?, isSlash c = false) ∧
    ∀ c ∈ rest, isTabOrNewline c = false

theorem sitePath_home : SitePath "/" := ⟨[], rfl, by simp, by simp⟩

theorem not_tab_of_not_control {c : Char} (h : isControl c = false) :
    isTabOrNewline c = false := by
  simp only [isTabOrNewline, Bool.or_eq_false_iff, decide_eq_false_iff_not]
  refine ⟨⟨?_, ?_⟩, ?_⟩ <;> rintro rfl <;> cases h

theorem sanitizeReturnPath_path (value : Option String) : SitePath (sanitizeReturnPath value) := by
  cases value with
  | none => exact sitePath_home
  | some value =>
    rw [sanitizeReturnPath]
    split
    · exact sitePath_home
    · next hpasses =>
      simp only [not_or, Bool.not_eq_true, Bool.not_eq_false] at hpasses
      obtain ⟨-, hslash, hdouble, hback, hcontrol⟩ := hpasses
      obtain ⟨after, rfl⟩ := startsWith_iff.1 hslash
      have hchars : ("/" ++ after).toList = '/' :: after.toList := by simp
      refine ⟨after.toList, hchars, ?_, ?_⟩
      · intro c hc
        obtain ⟨rest, hrest⟩ := List.head?_eq_some_iff.1 hc
        have hne : c ≠ '/' := by
          rintro rfl
          have hstarts : startsWith ("/" ++ after) "//" = true := by
            refine startsWith_iff.2 ⟨.ofList rest, String.toList_inj.1 ?_⟩
            simp [hrest]
          rw [hstarts] at hdouble
          cases hdouble
        have hne' : c ≠ '\x5c' := fun heq => hback (by simp [hrest, heq])
        simp only [isSlash, Bool.or_eq_false_iff, decide_eq_false_iff_not]
        exact ⟨hne, hne'⟩
      · intro c hc
        rw [List.any_eq_false] at hcontrol
        exact not_tab_of_not_control (Bool.not_eq_true _ ▸ hcontrol c (by simp [hc]))

/-! ## The redirect callback -/

/-- `redirect`; none when it throws. -/
def redirect (host : UrlHost) (canonicalOrigin url : String) : Option String :=
  if startsWith url "/" = true then
    (newUrl host (sanitizeReturnPath (some url)) canonicalOrigin).map ParsedUrl.href
  else
    match basicParse host url none with
    | none => some (canonicalOrigin ++ "/")
    | some parsed =>
      if parsed.origin = canonicalOrigin then
        let path := parsed.pathname ++ parsed.search ++ parsed.hash
        match newUrl host (sanitizeReturnPath (some path)) canonicalOrigin with
        | none => some (canonicalOrigin ++ "/")
        | some resolved => some resolved.href
      else some (canonicalOrigin ++ "/")

section Site

variable {host : UrlHost} {origin : String} {url : SpecialUrl}

/-- What passed the filter is resolved to a URL of the site. -/
theorem newUrl_sanitizeReturnPath (h : CanonicalOrigin host origin url) (value : Option String) :
    ∃ resolved after, newUrl host (sanitizeReturnPath value) origin = some resolved ∧
      resolved.origin = origin ∧ resolved.href = origin ++ "/" ++ after := by
  obtain ⟨rest, hrest, hslash, htab⟩ := sanitizeReturnPath_path value
  exact newUrl_path h hrest hslash htab

/-- A redirect goes to the site's origin, with a slash after it. -/
theorem redirect_eq (h : CanonicalOrigin host origin url) (target : String) :
    ∃ after, redirect host origin target = some (origin ++ "/" ++ after) := by
  have hhome : some (origin ++ "/") = some (origin ++ "/" ++ "") := by rw [String.append_empty]
  unfold redirect
  split
  · obtain ⟨resolved, after, hresolved, -, hhref⟩ := newUrl_sanitizeReturnPath h (some target)
    exact ⟨after, by rw [hresolved, Option.map_some, hhref]⟩
  · split
    · exact ⟨"", hhome⟩
    · next parsed hparsed =>
      split
      · obtain ⟨resolved, after, hresolved, -, hhref⟩ := newUrl_sanitizeReturnPath h
          (some (parsed.pathname ++ parsed.search ++ parsed.hash))
        refine ⟨after, ?_⟩
        dsimp only
        rw [hresolved]
        exact congrArg some hhref
      · exact ⟨"", hhome⟩

/-- Redirects stay on the site. -/
theorem redirects_stay (h : CanonicalOrigin host origin url) :
    (∀ value, ∃ resolved, newUrl host (sanitizeReturnPath value) origin = some resolved ∧
      resolved.origin = origin) ∧
    ∀ target, ∃ text parsed, redirect host origin target = some text ∧
      basicParse host text none = some parsed ∧ parsed.origin = origin := by
  constructor
  · intro value
    obtain ⟨resolved, -, hresolved, horigin, -⟩ := newUrl_sanitizeReturnPath h value
    exact ⟨resolved, hresolved, horigin⟩
  · intro target
    obtain ⟨after, hafter⟩ := redirect_eq h target
    obtain ⟨parsed, hparsed, horigin⟩ := parse_origin_slash h after
    exact ⟨_, parsed, hafter, hparsed, horigin⟩

end Site

/-- A host that keeps domains in lower case as they are; another scheme has no origin. -/
def siteHost : UrlHost where
  parseHost text :=
    if h : text ≠ "" ∧ ∀ c ∈ text.toList, isForbiddenHost c = false then
      if text.toList.all (fun c => c.isLower || c = '.') then some ⟨text, h.1, h.2⟩ else none
    else none
  parseOther text base :=
    if base.isNone then
      some { origin := "null", pathname := text, search := "", hash := "", href := text }
    else none

def siteUrl : SpecialUrl :=
  { scheme := .https, username := "", password := ""
    host := ⟨"rcmania.live", by decide, by simp [isForbiddenHost, isC0OrSpace]⟩
    port := none, path := [""], query := none, fragment := none }

theorem siteHost_parseHost : siteHost.parseHost "rcmania.live" = some siteUrl.host := by
  simp only [siteHost]
  rw [dif_pos ⟨siteUrl.host.ne_empty, siteUrl.host.allowed⟩, if_pos (by simp [Char.isLower])]
  rfl

theorem siteUrl_canonical : CanonicalOrigin siteHost "https://rcmania.live" siteUrl where
  parsed := by
    have hstrip := stripInput_origin siteUrl []
    rw [List.append_nil, String.ofList_toList] at hstrip
    have horigin : siteUrl.origin = "https://rcmania.live" := by decide
    rw [horigin] at hstrip
    rw [parse_of_strip hstrip, parseAfterSlashes_append (authority_ne_nil siteUrl)
      (authority_allowed siteUrl) (by simp [stripEnd])]
    have hauthority : parseAuthority siteHost siteUrl.scheme siteUrl.authority.toList =
        some { siteUrl with path := [] } := by
      have hhost := siteHost_parseHost
      simp only [siteUrl] at hhost
      simp [parseAuthority, splitPort, siteUrl, SpecialUrl.authority, SpecialUrl.portText, hhost,
        parsePort, percentEncode]
    have hpath : withPath { siteUrl with path := [] } [] (dropSlash (stripEnd [])) = siteUrl := by
      simp [withPath, stripEnd, dropSlash, siteUrl, pathSegments, isDoubleDot, isSingleDot,
        percentEncode, parseQuery, parseFragment]
    rw [hauthority, Option.map_some, hpath, Option.map_some]
  origin_eq := by decide

theorem siteRedirects_stay :
    (∀ value, ∃ resolved,
      newUrl siteHost (sanitizeReturnPath value) "https://rcmania.live" = some resolved ∧
        resolved.origin = "https://rcmania.live") ∧
    ∀ target, ∃ text parsed, redirect siteHost "https://rcmania.live" target = some text ∧
      basicParse siteHost text none = some parsed ∧ parsed.origin = "https://rcmania.live" :=
  redirects_stay siteUrl_canonical

end RcOnline.Web
