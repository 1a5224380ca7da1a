import RcOnline.Domain.Queue
import RcOnline.Domain.Rides

/-!
# The simulation service

`SimulationService` of `apps/api/src/simulation/simulation.service.ts`: one user books a ride from a
`FairRideQueue` and drives it with a `RideOrchestrator`. Every entry, offer and ride of the service
has the same id as the one before it.
-/

namespace RcOnline.Api

open RcOnline.Lib RcOnline.Domain

/-- The farthest a time value may lie from the epoch. -/
def maxTime : Int := 8640000000000000

/-- A host that writes dates as it reads them. -/
structure IsoHost extends Host where
  /-- `toISOString` of the date with a time value. -/
  toISOString : Int → String
  parse_toISOString : ∀ {time : Int}, |time| ≤ maxTime → parseDate (toISOString time) = some time

namespace Ids

def user : String := "20000000-0000-4000-8000-000000000001"
def queue : String := "30000000-0000-4000-8000-000000000001"
def offer : String := "30000000-0000-4000-8000-000000000002"
def ride : String := "30000000-0000-4000-8000-000000000003"
def carBlue : String := "40000000-0000-4000-8000-000000000001"
def carRed : String := "40000000-0000-4000-8000-000000000002"
def carReserve : String := "40000000-0000-4000-8000-000000000003"

end Ids

inductive Scenario where
  | normal
  | webrtcFiveFailures
  | tabReconnect
  | piOffline
  | esp32Offline
  | uartCorrupt
  | batteryLow
  | batteryCritical
  | wanFailover
  | redisReset
  | timingOffline
  | cameraOffline
  | publicStreamOffline
  | diskFull
  | powerLoss
  deriving DecidableEq

inductive SimulationError where
  | queue (error : QueueError)
  | ride (error : RideError)
  | rideNotFound (rideId : String)
  | extensionNotAllowed
  /-- `toISOString` of an invalid date. -/
  | invalidTime
  deriving DecidableEq

/-- The text of an error of the service's own. -/
def SimulationError.message : SimulationError → Option String
  | .queue error => some error.message
  | .ride error => error.message
  | .rideNotFound rideId => some ("Ride not found: " ++ rideId)
  | .extensionNotAllowed => some "Ride extension is not currently allowed"
  | .invalidTime => some "Invalid time value"

/-- `{ ...member, position }`. -/
structure JoinResult where
  member : QueueMember
  position : Nat
  deriving DecidableEq

structure CarStatus where
  id : String
  name : String
  state : String
  batteryPercent : Nat
  connection : String
  deriving DecidableEq

structure SimulationStatus where
  status : String
  siteId : String
  siteName : String
  siteOnline : Bool
  cars : List CarStatus
  queueOpen : Bool
  queueCount : Nat
  estimatedWaitSeconds : Nat
  scenario : Scenario
  generatedAt : String
  deriving DecidableEq

structure AppliedScenario where
  scenario : Scenario
  status : String
  appliedAt : String
  safetyAction : String
  deriving DecidableEq

structure SimulationService where
  queue : FairRideQueue
  rides : OrdMap String RideOrchestrator
  rideStartedAt : OrdMap String Date
  scenario : Scenario
  balanceSeconds : Number

namespace SimulationService

/-- A service as it is constructed. -/
def new : SimulationService where
  queue := .empty
  rides := ∅
  rideStartedAt := ∅
  scenario := .normal
  balanceSeconds := .ofInt 750

/-- What a method returns or throws, and the service after it. -/
abbrev Outcome (α : Type) := Except SimulationError α × SimulationService

variable (service : SimulationService) (host : IsoHost) (now : Int)

/-- `status`, in a process that was told whether the simulation is verified. -/
def status (verified : Bool) : SimulationStatus × SimulationService :=
  let (first, queue) := service.queue.snapshot host.toHost (some now)
  let (second, queue) := queue.snapshot host.toHost (some now)
  ({ status := if verified then "SIMULATION_READY" else "SIMULATION_CANDIDATE"
     siteId := "10000000-0000-4000-8000-000000000001"
     siteName := "Prague Neon Circuit"
     siteOnline := service.scenario ∉ [.powerLoss, .wanFailover]
     cars :=
      [{ id := Ids.carBlue
         name := "Night Runner"
         state := if service.scenario = .piOffline then "OFFLINE" else "AVAILABLE"
         batteryPercent := if service.scenario = .batteryCritical then 8 else 86
         connection := "excellent" },
       { id := Ids.carRed
         name := "Red Comet"
         state := if service.scenario = .esp32Offline then "SAFETY_BLOCKED" else "AVAILABLE"
         batteryPercent := if service.scenario = .batteryLow then 22 else 74
         connection := "good" },
       { id := Ids.carReserve
         name := "Reserve 03"
         state := "OPERATOR_RECOVERY"
         batteryPercent := 58
         connection := "offline" }]
     queueOpen := true
     queueCount := first.length
     estimatedWaitSeconds := max 60 (second.length * 300)
     scenario := service.scenario
     generatedAt := host.toISOString now },
    { service with queue })

def joinQueue : Outcome JoinResult :=
  if maxTime < |now + 1800000| then (.error .invalidTime, service)
  else
    let (member, queue) := service.queue.join
      { id := Ids.queue, userId := Ids.user, status := .waiting,
        joinedAt := host.toISOString now, expiresAt := host.toISOString (now + 1800000) }
    let (snapshot, queue) := queue.snapshot host.toHost (some now)
    -- the member is read after the snapshot, which may have expired it
    (.ok
      { member := FairRideQueue.expired host.toHost (some now) member
        position := (snapshot.findIdx? (·.id = member.id)).elim 0 (· + 1) },
      { service with queue })

/-- `leaveQueue`, which returns that the user has left. -/
def leaveQueue : SimulationService := { service with queue := service.queue.leave Ids.user }

def createOffer : Outcome RideOffer :=
  let (offer, queue) := service.queue.offer host.toHost
    { id := Ids.offer, carIds := [Ids.carBlue, Ids.carRed], offeredAt := some now,
      ttlSeconds := some (.ofInt 30) }
  (offer.mapError .queue, { service with queue })

/-- A ride as it is, or as an operation has left it. -/
def putRide (rideId : String) (ride : RideOrchestrator) : SimulationService :=
  { service with rides := service.rides.set rideId ride }

/-- The snapshot that a method returns last. -/
def returnRide (ride : RideOrchestrator) : Outcome RideSnapshot :=
  (ride.snapshot.mapError .ride, service)

def acceptOffer (carId : String) : Outcome RideSnapshot :=
  match service.queue.accept Ids.offer carId (some now) with
  | (.error error, queue) => (.error (.queue error), { service with queue })
  | (.ok _, queue) =>
    let service := { service with queue }
    match RideOrchestrator.new
      { id := Ids.ride, userId := Ids.user, carId, purchasedSeconds := .ofInt 300 } with
    | .error error => (.error (.ride error), service)
    | .ok ride =>
      match ride.offer ("offer:" ++ Ids.offer) (some now) with
      | (.error error, _) => (.error (.ride error), service)
      | (.ok (), ride) =>
        match ride.accept ("accept:" ++ Ids.offer) (some now) with
        | (.error error, _) => (.error (.ride error), service)
        | (.ok (), ride) => (service.putRide Ids.ride ride).returnRide ride

/-- The attempts of `startNegotiation`, until one throws. -/
def negotiate (rideId : String) : List Nat → RideOrchestrator → RideOutcome
  | [], ride => (.ok (), ride)
  | attempt :: rest, ride =>
    match ride.negotiationStarted
      ("negotiation:" ++ rideId ++ ":" ++ (attempt + 1).repr) (some now) with
    | (.error error, ride) => (.error error, ride)
    | (.ok (), ride) => negotiate rideId rest ride

def startNegotiation (rideId : String) : Outcome RideSnapshot :=
  match service.rides.get? rideId with
  | none => (.error (.rideNotFound rideId), service)
  | some ride =>
    let attempts := if service.scenario = .webrtcFiveFailures then 5 else 1
    match negotiate now rideId (List.range attempts) ride with
    | (.error error, ride) => (.error (.ride error), service.putRide rideId ride)
    | (.ok (), ride) =>
      if attempts = 5 then
        match ride.failAllAttempts ("full-refund:" ++ rideId) (some now) with
        | (.error error, ride) => (.error (.ride error), service.putRide rideId ride)
        | (.ok (), ride) => (service.putRide rideId ride).returnRide ride
      else
        match ride.connected ("connected:" ++ rideId) (some now) with
        | (.error error, ride) => (.error (.ride error), service.putRide rideId ride)
        | (.ok (), ride) =>
          { service.putRide rideId ride with
            rideStartedAt := service.rideStartedAt.set rideId (some now) }.returnRide ride

def ride (rideId : String) : Outcome RideSnapshot :=
  match service.rides.get? rideId with
  | none => (.error (.rideNotFound rideId), service)
  | some ride => service.returnRide ride

def extend (rideId : String) : Outcome RideSnapshot :=
  let (snapshot, queue) := service.queue.snapshot host.toHost (some now)
  let service := { service with queue }
  if 0 < snapshot.length ∨ service.balanceSeconds.lt (.ofInt 300) = true then
    (.error .extensionNotAllowed, service)
  else service.ride rideId

/-- `end`. -/
def endRide (rideId : String) : Outcome RideSnapshot :=
  match service.rides.get? rideId with
  | none => (.error (.rideNotFound rideId), service)
  | some ride =>
    let startedAt := (service.rideStartedAt.get? rideId).getD (some now)
    let endedAt := startedAt.bind fun startedAt => (Number.ofInt (startedAt + 120000)).timeClip
    match ride.endRide ("end:" ++ rideId) endedAt with
    | (.error error, ride) => (.error (.ride error), service.putRide rideId ride)
    | (.ok (), ride) =>
      let service := service.putRide rideId ride
      match ride.snapshot with
      | .error error => (.error (.ride error), service)
      | .ok snapshot =>
        (.ok snapshot,
          { service with
            balanceSeconds := service.balanceSeconds.sub snapshot.usedSeconds })

def setScenario (scenario : Scenario) : AppliedScenario × SimulationService :=
  ({ scenario, status := "applied", appliedAt := host.toISOString now
     safetyAction :=
      if scenario = .normal then "none"
      else if scenario ∈ [.cameraOffline, .publicStreamOffline, .timingOffline] then
        "degraded_non_control_path"
      else "neutral_and_block_new_rides" },
    { service with scenario })

end SimulationService

/-! ## Calls -/

inductive SimulationOperation where
  | joinQueue
  | leaveQueue
  | createOffer
  | acceptOffer (carId : String)
  | startNegotiation (rideId : String)
  | endRide (rideId : String)
  | extend (rideId : String)
  | status (verified : Bool)
  | setScenario (scenario : Scenario)
  deriving DecidableEq

structure SimulationCall where
  operation : SimulationOperation
  now : Int
  deriving DecidableEq

/-- The service after a call, whatever it returns or throws. -/
def SimulationService.perform (host : IsoHost) (service : SimulationService)
    (call : SimulationCall) : SimulationService :=
  match call.operation with
  | .joinQueue => (service.joinQueue host call.now).2
  | .leaveQueue => service.leaveQueue
  | .createOffer => (service.createOffer host call.now).2
  | .acceptOffer carId => (service.acceptOffer call.now carId).2
  | .startNegotiation rideId => (service.startNegotiation call.now rideId).2
  | .endRide rideId => (service.endRide call.now rideId).2
  | .extend rideId => (service.extend host call.now rideId).2
  | .status verified => (service.status host call.now verified).2
  | .setScenario scenario => (service.setScenario host call.now scenario).2

end RcOnline.Api
