import RcOnline.Gateway.Contracts
import RcOnline.Gateway.StoreConsistency
import RcOnline.Lib.Results

/-!
# Enrolment of devices

`provisionCar` and `consumeEnrollment` of `apps/gateway/src/postgres-store.ts` with the routes that
call them, `/v1/enroll` of `server.ts` and `provision-car.ts`. A transaction is one action beside
those of the store's other calls; an error rolls it back. The uuids, codes and secrets that a call
draws, and the time of the database, are arguments.
-/

namespace RcOnline.Gateway

open RcOnline.Lib RcOnline.Schema

/-! ## Tables that only enrolment uses -/

structure Site where
  id : Uuid
  slug : String
  name : String
  timezone : String
  status : String

/-- The `site_id` of a car. -/
structure CarSite where
  carId : Uuid
  siteId : Uuid

/-- The columns of a device that nothing else reads. -/
structure DeviceDetail where
  deviceId : Uuid
  siteId : Uuid
  kind : String
  serialNumber : String

structure DeviceEnrollmentToken where
  carId : Uuid
  tokenHash : String
  expiresAt : Int
  consumedAt : Option Int
  createdAt : Int

instance : Row Site Uuid := ⟨Site.id⟩
instance : Row CarSite Uuid := ⟨CarSite.carId⟩
instance : Row DeviceDetail Uuid := ⟨DeviceDetail.deviceId⟩
instance : Row DeviceEnrollmentToken String := ⟨DeviceEnrollmentToken.tokenHash⟩

/-- A code has been provisioned for a car. -/
structure Provision where
  tokenHash : String
  carId : Uuid
  expiresAt : Int
  deriving DecidableEq

/-- A code has enrolled a device. -/
structure Enrollment where
  tokenHash : String
  secretHash : String
  deviceId : Uuid
  carId : Uuid
  now : Int
  deriving DecidableEq

/-- A device has been authenticated. -/
structure Authentication where
  deviceId : Uuid
  carId : Uuid
  suppliedSecretHash : String
  deriving DecidableEq

inductive EnrollResponse where
  /-- 400 -/
  | invalidRequest
  /-- 409 -/
  | unavailable
  /-- 201 -/
  | created (deviceId carId : Uuid) (deviceSecret gatewayUrl : String)
  /-- 500: the transaction throws. -/
  | failed (message : Option String)
  deriving DecidableEq

/-- The database, and what has happened to it. -/
structure Fleet where
  db : Database
  sites : Table Site
  carSites : Table CarSite
  deviceDetails : Table DeviceDetail
  enrollmentTokens : Table DeviceEnrollmentToken
  provisions : List Provision
  enrollments : List Enrollment
  authentications : List Authentication
  responses : List EnrollResponse

/-- A transaction that throws; none is an error of the database. -/
abbrev Thrown := Option String

/-- `insert …`; a taken key is an error. -/
def insertOrThrow {α κ : Type} [Row α κ] [DecidableEq κ] (table : Table α) (clash : α → Bool)
    (r : α) : Except Thrown (Table α) :=
  ofOption none (table.insert? clash r)

/-! ## Provisioning -/

structure ProvisionCarInput where
  siteSlug : String
  siteName : String
  timezone : String
  carSlug : String
  carName : String
  tokenHash : String
  expiresAt : Int
  now : Int

structure ProvisionedCar where
  siteId : Uuid
  carId : Uuid

/-- `insert … on conflict (slug) do nothing`, and the select after it. -/
def provisionSite (input : ProvisionCarInput) (siteId : Uuid) (sites : Table Site) :
    Except Thrown (Uuid × Table Site) :=
  match sites.rows.find? (·.slug = input.siteSlug) with
  | some site => .ok (site.id, sites)
  | none => do
    let sites ← insertOrThrow sites (fun _ => false)
      { id := siteId, slug := input.siteSlug, name := input.siteName, timezone := input.timezone
        status := "online" }
    .ok (siteId, sites)

/-- The row of a car that is not there yet. -/
def newCar (input : ProvisionCarInput) (carId : Uuid) (dbNow : Int) : Car where
  id := carId
  slug := input.carSlug
  name := input.carName
  state := .offline
  batteryPercent := none
  adminBlocked := false
  steeringTrimPercent := 0
  updatedAt := dbNow

/-- `insert … on conflict (slug) do update set name = …, site_id = …`, and the select after it. -/
def provisionCarRow (input : ProvisionCarInput) (siteId carId : Uuid) (dbNow : Int)
    (fleet : Fleet) :
    Except Thrown (Uuid × Fleet) :=
  match fleet.db.cars.rows.find? (·.slug = input.carSlug) with
  | some car => .ok (car.id,
      { fleet with
        db := { fleet.db with
          cars := fleet.db.cars.update (·.id = car.id) fun row =>
            { row with name := input.carName, updatedAt := input.now } }
        carSites := fleet.carSites.update (·.carId = car.id) fun row => { row with siteId } })
  | none => do
    let cars ← insertOrThrow fleet.db.cars (fun _ => false) (newCar input carId dbNow)
    let carSites ← insertOrThrow fleet.carSites (fun _ => false) { carId, siteId }
    .ok (carId, { fleet with db := { fleet.db with cars }, carSites })

/-- The transaction of `provisionCar`. -/
def provisionTransaction (input : ProvisionCarInput) (siteId carId : Uuid) (dbNow : Int)
    (fleet : Fleet) : Except Thrown (ProvisionedCar × Fleet) := do
  let (siteId, sites) ← provisionSite input siteId fleet.sites
  let (carId, fleet) ← provisionCarRow input siteId carId dbNow { fleet with sites }
  let enrollmentTokens ← insertOrThrow fleet.enrollmentTokens (fun _ => false)
    { carId, tokenHash := input.tokenHash, expiresAt := input.expiresAt, consumedAt := none
      createdAt := input.now }
  .ok ({ siteId, carId },
    { fleet with
      enrollmentTokens
      provisions := fleet.provisions ++ [⟨input.tokenHash, carId, input.expiresAt⟩] })

/-- The arguments and the environment that `provision-car.ts` reads. -/
structure ProvisionArguments where
  slug : String
  name : String
  siteSlug : Option String
  siteName : Option String
  siteTimezone : Option String

/-- The code is `enr_` with 32 random bytes, and is good for half an hour. -/
def provisionCarInput (hashOpaqueSecret : String → String) (arguments : ProvisionArguments)
    (code : String) (now : Int) : ProvisionCarInput where
  siteSlug := arguments.siteSlug.getD "rcmania-primary"
  siteName := arguments.siteName.getD "RC Mania Primary"
  timezone := arguments.siteTimezone.getD "Europe/Prague"
  carSlug := arguments.slug
  carName := arguments.name
  tokenHash := hashOpaqueSecret code
  expiresAt := now + 30 * 60000
  now := now

/-! ## Enrolment -/

structure EnrollmentRequest where
  enrollmentCode : String
  serialNumber : String
  agentVersion : String
  capabilities : Json

/-- `enrollmentSchema`: the four fields and no other. -/
def parseEnrollment (body : Json) : Option EnrollmentRequest := do
  let fields ← body.record?
  let known := ["enrollmentCode", "serialNumber", "agentVersion", "capabilities"]
  if !fields.all (known.contains ·.1) then none
  else match body.field? "enrollmentCode", body.field? "serialNumber", body.field? "agentVersion",
      body.field? "capabilities" with
    | some (.string enrollmentCode), some (.string serialNumber), some (.string agentVersion),
      some (.object capabilities) =>
      if hasLength 24 256 enrollmentCode && hasLength 4 128 serialNumber &&
          hasLength 1 64 agentVersion then
        some { enrollmentCode, serialNumber, agentVersion, capabilities := .object capabilities }
      else none
    | _, _, _, _ => none

structure ConsumeEnrollmentInput where
  tokenHash : String
  secretHash : String
  serialNumber : String
  agentVersion : String
  capabilities : Json
  now : Int

/-- The uuids that the database draws, and its time. -/
structure EnrollmentDraw where
  deviceId : Uuid
  credentialId : Uuid
  dbNow : Int

structure EnrollmentResult where
  deviceId : Uuid
  carId : Uuid

/-- A code that is open. -/
def openToken (input : ConsumeEnrollmentInput) (token : DeviceEnrollmentToken) : Bool :=
  token.tokenHash = input.tokenHash && token.consumedAt.isNone &&
    decide (input.now < token.expiresAt)

def newDevice (input : ConsumeEnrollmentInput) (draw : EnrollmentDraw) (carId : Uuid) : Device where
  id := draw.deviceId
  carId := some carId
  state := .initializing
  lastSeenAt := none
  metadata := .object [("capabilities", input.capabilities)]
  agentVersion := some input.agentVersion
  health := none
  connectedAt := none
  updatedAt := draw.dbNow

def newCredential (input : ConsumeEnrollmentInput) (draw : EnrollmentDraw) : DeviceCredential where
  id := draw.credentialId
  deviceId := draw.deviceId
  secretHash := input.secretHash
  status := "active"
  revokedAt := none
  lastAuthenticatedAt := none
  updatedAt := draw.dbNow

/-- The transaction of `consumeEnrollment`. -/
def consumeTransaction (input : ConsumeEnrollmentInput) (draw : EnrollmentDraw) (fleet : Fleet) :
    Except Thrown (Option EnrollmentResult × Fleet) :=
  match fleet.enrollmentTokens.rows.find? (openToken input) with
  | none => .ok (none, fleet)
  | some token => do
    let enrollmentTokens := fleet.enrollmentTokens.update (openToken input)
      ({ · with consumedAt := some input.now })
    match fleet.carSites.get? token.carId with
    | none => .error (some "Enrollment car no longer exists")
    | some car =>
      let devices ← insertOrThrow fleet.db.devices (fun _ => false)
        (newDevice input draw token.carId)
      let deviceDetails ← insertOrThrow fleet.deviceDetails (·.serialNumber = input.serialNumber)
        { deviceId := draw.deviceId, siteId := car.siteId, kind := "raspberry-pi"
          serialNumber := input.serialNumber }
      let deviceCredentials ← insertOrThrow fleet.db.deviceCredentials
        (·.secretHash = input.secretHash) (newCredential input draw)
      .ok (some { deviceId := draw.deviceId, carId := token.carId },
        { fleet with
          db := { fleet.db with devices, deviceCredentials }
          deviceDetails
          enrollmentTokens
          enrollments := fleet.enrollments ++
            [⟨input.tokenHash, input.secretHash, draw.deviceId, token.carId, input.now⟩] })

/-- The route `/v1/enroll`. -/
def enroll (hashOpaqueSecret : String → String) (publicGatewayUrl : String) (body : Json)
    (deviceSecret : String) (now : Int) (draw : EnrollmentDraw) (fleet : Fleet) :
    EnrollResponse × Fleet :=
  match parseEnrollment body with
  | none => (.invalidRequest, fleet)
  | some request =>
    match consumeTransaction
      { tokenHash := hashOpaqueSecret request.enrollmentCode
        secretHash := hashOpaqueSecret deviceSecret
        serialNumber := request.serialNumber
        agentVersion := request.agentVersion
        capabilities := request.capabilities
        now } draw fleet with
    | .ok (some enrollment, fleet) =>
      (.created enrollment.deviceId enrollment.carId deviceSecret publicGatewayUrl, fleet)
    | .ok (none, fleet) => (.unavailable, fleet)
    | .error message => (.failed message, fleet)

/-! ## Calls -/

inductive FleetCall where
  | provision (arguments : ProvisionArguments) (code : String) (now : Int) (siteId carId : Uuid)
      (dbNow : Int)
  | enroll (body : Json) (deviceSecret : String) (now : Int) (draw : EnrollmentDraw)
  | authenticate (pick : Nat) (deviceId : Uuid) (deviceSecret agentVersion : String)
      (capabilities : DeviceCapabilities) (now : Int)
  | store (call : StoreCall)

namespace Fleet

def start (db : Database) (sites : Table Site) (carSites : Table CarSite) : Fleet where
  db := { db with devices := .empty, deviceCredentials := .empty }
  sites := sites
  carSites := carSites
  deviceDetails := .empty
  enrollmentTokens := .empty
  provisions := []
  enrollments := []
  authentications := []
  responses := []

/-- A call of the store on the shared tables. -/
def onDb {α : Type} (call : Prog Database α) : Prog Fleet α :=
  call.zoom Fleet.db fun db fleet => { fleet with db }

end Fleet

def FleetCall.code (hashOpaqueSecret : String → String) (publicGatewayUrl : String) :
    FleetCall → Prog Fleet Unit
  | .provision arguments code now siteId carId dbNow =>
    .stmt fun fleet =>
      match provisionTransaction (provisionCarInput hashOpaqueSecret arguments code now)
        siteId carId dbNow fleet with
      | .ok (_, fleet) => ((), fleet)
      | .error _ => ((), fleet)
  | .enroll body deviceSecret now draw =>
    .stmt fun fleet =>
      let (response, fleet) :=
        Gateway.enroll hashOpaqueSecret publicGatewayUrl body deviceSecret now draw fleet
      ((), { fleet with responses := fleet.responses ++ [response] })
  | .authenticate pick deviceId deviceSecret agentVersion capabilities now => do
    let suppliedSecretHash := hashOpaqueSecret deviceSecret
    match ← Fleet.onDb (authenticateDevice pick deviceId suppliedSecretHash agentVersion
        capabilities now) with
    | none => return
    | some device => .stmt fun fleet => ((),
        { fleet with authentications :=
            fleet.authentications ++ [⟨device.deviceId, device.carId, suppliedSecretHash⟩] })
  | .store call => Fleet.onDb call.code

end RcOnline.Gateway
