import RcOnline.Database.Schema

/-!
# The gateway's messages

The messages of `packages/contracts/src/device-gateway.ts` as the gateway handles them, parsed. The
messages that it passes on between a browser and a device are one type, `RelayMessage`.
-/

namespace RcOnline.Gateway

open RcOnline.Lib RcOnline.Schema

structure IceServer where
  urls : List String
  username : Option String
  credential : Option String
  deriving DecidableEq

/-- `DeviceUpdateOffer`. -/
structure DeviceUpdateOffer where
  updateId : Uuid
  version : String
  runtimeGeneration : Int
  artifactUrl : String
  artifactSizeBytes : Int
  digestSha256 : String
  signature : String
  deriving DecidableEq

inductive UpdateProgressStatus where
  | downloading
  | applying
  | failed
  deriving DecidableEq

/-- The messages that are passed on: `isRelayMessage`. -/
inductive RelayMessage where
  | signalOffer (sessionId : Uuid) (sdp : String)
  | signalAnswer (sessionId : Uuid) (sdp : String)
  | signalIce (sessionId : Uuid) (candidate sdpMid : Option String) (sdpMLineIndex : Option Int)
  | sessionEnd (sessionId : Uuid) (reason : String)
  deriving DecidableEq

def RelayMessage.sessionId : RelayMessage → Uuid
  | .signalOffer sessionId _ => sessionId
  | .signalAnswer sessionId _ => sessionId
  | .signalIce sessionId _ _ _ => sessionId
  | .sessionEnd sessionId _ => sessionId

/-- `GatewayClientMessage`. -/
inductive ClientMessage where
  | deviceAuthenticate (deviceId : Uuid) (secret agentVersion : String)
    (capabilities : Option DeviceCapabilities)
  | deviceHeartbeat (health : DeviceHealth)
  | browserAuthenticate (ticket : String)
  | sessionConnected (sessionId : Uuid)
  | relay (message : RelayMessage)
  | deviceUpdateStatus (updateId : Uuid) (status : UpdateProgressStatus) (reason : Option String)
  deriving DecidableEq

inductive PeerKind where
  | device
  | browser
  deriving DecidableEq

/-- `GatewayServerMessage`. -/
inductive ServerMessage where
  | authAccepted (peer : PeerKind)
  | authRejected (reason : String)
  | sessionStart (sessionId carId : Uuid) (expiresAt : Int) (iceServers : List IceServer)
  | relay (message : RelayMessage)
  | deviceUpdateAvailable (offer : DeviceUpdateOffer)
  | deviceTelemetry (sessionId : Uuid) (batteryVoltage : Option Number)
    (batteryPercent : Option Int)
  | error (code message : String)
  deriving DecidableEq

def ServerMessage.isOffer : ServerMessage → Bool
  | .deviceUpdateAvailable _ => true
  | _ => false

end RcOnline.Gateway
