import RcOnline.Gateway.Protocol
import RcOnline.Web.DeviceUpdate

/-!
# The schemas of the gateway's messages

`GatewayClientMessageSchema` and `GatewayServerMessageSchema` of
`packages/contracts/src/device-gateway.ts`, as conditions on the parsed messages. A uuid is one by
its type, and the fields of a report that nothing reads are left out with it. Lengths count UTF-16
code units.
-/

namespace RcOnline.Gateway

open RcOnline.Lib RcOnline.Schema RcOnline.Web

/-- `z.string().min(minimum).max(maximum)`. -/
def hasLength (minimum maximum : Nat) (text : String) : Bool :=
  minimum ≤ utf16Length text && utf16Length text ≤ maximum

/-- `z.number().int().min(minimum).max(maximum)`. -/
def inRange (minimum maximum value : Int) : Bool := minimum ≤ value && value ≤ maximum

def shortText : String → Bool := hasLength 1 256

def semver : String → Bool := isReleaseVersion

def digestSha256 : String → Bool := isSha256

def ed25519Signature : String → Bool := isSignature

/-- `httpsUrl`; `parseUrl` is `new URL`, none when it throws. -/
def httpsUrl (parseUrl : String → Option Url) (value : String) : Bool :=
  (parseUrl value).any (·.protocol = "https:")

/-- `z.string().datetime()` of an instant's ISO text: its year has four digits. -/
def datetime (instant : Int) : Bool := inRange (-62167219200000) 253402300799999 instant

/-- `DeviceCapabilitiesSchema`. -/
def validCapabilities (capabilities : DeviceCapabilities) : Bool :=
  capabilities.controlProtocolVersion.all (fun version => version = 4 || version = 5) &&
    capabilities.otaRuntimeGeneration.all (inRange 1 32767)

/-- The voltage of a battery: from 0 to 16. -/
def validVoltage (voltage : Number) : Bool :=
  (Number.ofInt 0).le voltage && voltage.le (.ofInt 16)

/-- `DeviceHealthSchema`. -/
def validHealth (health : DeviceHealth) : Bool :=
  health.batteryVoltage.join.all validVoltage && health.batteryPercent.join.all (inRange 0 100)

/-- `IceServerSchema`. A single URL is a list of one. -/
def validIceServer (server : IceServer) : Bool :=
  inRange 1 8 server.urls.length && server.urls.all (hasLength 1 512) &&
    server.username.all (hasLength 1 256) && server.credential.all (hasLength 1 512)

/-- `signalOfferSchema`, `signalAnswerSchema`, `signalIceSchema` and `sessionEndSchema`, which both
unions share. -/
def validRelay : RelayMessage → Bool
  | .signalOffer _ sdp | .signalAnswer _ sdp => hasLength 1 1000000 sdp
  | .signalIce _ candidate sdpMid sdpMLineIndex =>
    candidate.all (hasLength 0 4096) && sdpMid.all (hasLength 0 256) &&
      sdpMLineIndex.all (inRange 0 128)
  | .sessionEnd _ reason => shortText reason

/-- `GatewayClientMessageSchema`. -/
def ClientMessage.valid : ClientMessage → Bool
  | .deviceAuthenticate _ secret agentVersion capabilities =>
    hasLength 32 256 secret && hasLength 1 64 agentVersion && capabilities.all validCapabilities
  | .deviceHeartbeat health => validHealth health
  | .browserAuthenticate ticket => hasLength 32 4096 ticket
  | .sessionConnected _ => true
  | .relay message => validRelay message
  | .deviceUpdateStatus _ _ reason => reason.all (hasLength 1 256)

/-- The fields of an offer. -/
def validOffer (parseUrl : String → Option Url) (offer : DeviceUpdateOffer) : Bool :=
  semver offer.version && inRange 1 32767 offer.runtimeGeneration &&
    httpsUrl parseUrl offer.artifactUrl && inRange 1 (8 * 1024 * 1024) offer.artifactSizeBytes &&
    digestSha256 offer.digestSha256 && ed25519Signature offer.signature

/-- `z.array(IceServerSchema).max(8)`. -/
def validIceServers (servers : List IceServer) : Bool :=
  servers.length ≤ 8 && servers.all validIceServer

/-- `GatewayServerMessageSchema`. -/
def ServerMessage.valid (parseUrl : String → Option Url) : ServerMessage → Bool
  | .authAccepted _ => true
  | .authRejected reason => shortText reason
  | .sessionStart _ _ expiresAt iceServers => datetime expiresAt && validIceServers iceServers
  | .relay message => validRelay message
  | .deviceUpdateAvailable offer => validOffer parseUrl offer
  | .deviceTelemetry _ batteryVoltage batteryPercent =>
    batteryVoltage.all validVoltage && batteryPercent.all (inRange 0 100)
  | .error code message => hasLength 1 64 code && shortText message

/-- An artifact of a release is at a URL that an offer may name. -/
theorem httpsUrl_of_isArtifactUrl {parseUrl : String → Option Url} {artifactUrl : String}
    (h : isArtifactUrl parseUrl artifactUrl = true) : httpsUrl parseUrl artifactUrl = true := by
  unfold isArtifactUrl at h
  unfold httpsUrl
  cases hurl : parseUrl artifactUrl with
  | none =>
    rw [hurl] at h
    cases h
  | some url =>
    rw [hurl] at h
    simp only [Option.any_some, Bool.and_eq_true] at h ⊢
    exact h.1.1

end RcOnline.Gateway
