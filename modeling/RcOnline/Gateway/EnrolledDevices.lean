import RcOnline.Gateway.Enrollment
import RcOnline.Web.QueueTurns
import RcOnline.Lib.Results

/-!
# Enrolled devices

A code enrols one device at most, of the car it was provisioned for and before it expires, and a
device is authenticated by the secret of its enrolment only (`custody`), in every interleaving of
provisioning, enrolments and the other calls of the store.
-/

namespace RcOnline.Gateway

open RcOnline.Lib RcOnline.Schema

/-! ## The store's calls -/

/-- Devices keep their cars, and credentials their devices and secrets. -/
structure SameIdentities (db db' : Database) : Prop where
  devices : db.devices.Corresponds (fun r r' => r'.id = r.id ∧ r'.carId = r.carId) db'.devices
  credentials : db.deviceCredentials.Corresponds
    (fun r r' => r'.deviceId = r.deviceId ∧ r'.secretHash = r.secretHash) db'.deviceCredentials

theorem SameIdentities.of_eq {db db' : Database} (hdevices : db'.devices = db.devices)
    (hcredentials : db'.deviceCredentials = db.deviceCredentials) : SameIdentities db db' where
  devices := hdevices ▸ .refl (fun _ => ⟨rfl, rfl⟩) _
  credentials := hcredentials ▸ .refl (fun _ => ⟨rfl, rfl⟩) _

theorem SameIdentities.refl (db : Database) : SameIdentities db db := .of_eq rfl rfl

/-- The calls of the store enrol no devices. -/
abbrev KeepsIdentities {α : Type} (p : Prog Database α) : Prop :=
  p.Keeps (fun _ => True) SameIdentities

theorem keepsIdentities_read {α : Type} (f : Database → α) : KeepsIdentities (.read f) :=
  .read .refl f

theorem keepsIdentities_stmt {α : Type} {f : Database → α × Database}
    (hdevices : ∀ db, (f db).2.devices = db.devices)
    (hcredentials : ∀ db, (f db).2.deviceCredentials = db.deviceCredentials) :
    KeepsIdentities (.stmt f) :=
  .stmt fun db _ => ⟨trivial, .of_eq (hdevices db) (hcredentials db)⟩

theorem updateDevice_keepsIdentities (deviceId : Uuid) {f : Device → Device}
    (hf : ∀ r, Row.key (f r) = Row.key r) (hcar : ∀ r, (f r).carId = r.carId) :
    KeepsIdentities (.stmt (updateDevice deviceId f hf)) := by
  refine .stmt fun db _ => ⟨trivial, ?_, .refl (fun _ => ⟨rfl, rfl⟩) _⟩
  exact Table.corresponds_of_rows rfl fun r _ => ⟨patch_column hf, patch_column hcar⟩

theorem updateCar_keepsIdentities (carId : Uuid) (p : Database → Bool) (f : Car → Car)
    (hf : ∀ r, Row.key (f r) = Row.key r) : KeepsIdentities (.stmt (updateCar carId p f hf)) :=
  keepsIdentities_stmt (fun _ => rfl) fun _ => rfl

theorem authenticateTransaction_identities (credential : CredentialRow)
    (device : AuthenticatedDevice) (now : Int) (db : Database) :
    SameIdentities db (authenticateTransaction credential device now db) where
  devices := Table.corresponds_of_rows rfl fun r _ => by
    unfold patch
    split
    · exact ⟨rfl, rfl⟩
    · exact ⟨rfl, rfl⟩
  credentials := Table.corresponds_of_rows rfl fun r _ => by
    unfold patch
    split
    · exact ⟨rfl, rfl⟩
    · exact ⟨rfl, rfl⟩

theorem authenticateDevice_keepsIdentities (pick : Nat) (deviceId : Uuid)
    (suppliedSecretHash agentVersion : String) (capabilities : DeviceCapabilities) (now : Int) :
    KeepsIdentities
      (authenticateDevice pick deviceId suppliedSecretHash agentVersion capabilities now) := by
  refine .bind (keepsIdentities_read _) fun credential => ?_
  split
  · exact .pure _
  · split
    · exact .pure _
    · split
      · exact .bind (.stmt fun db _ => ⟨trivial, authenticateTransaction_identities _ _ now db⟩)
          fun _ => .pure _
      · exact .pure _

theorem recordHeartbeat_keepsIdentities (deviceId : Uuid) (health : DeviceHealth) (now : Int) :
    KeepsIdentities (recordHeartbeat deviceId health now) := by
  refine .bind (updateDevice_keepsIdentities deviceId _ fun _ => rfl) fun carId => ?_
  split
  · exact .pure _
  · split
    · exact .bind (keepsIdentities_read _) fun _ => .pure _
    · exact .bind (updateCar_keepsIdentities _ _ _ _) fun _ =>
        .bind (keepsIdentities_read _) fun _ => .pure _

theorem setPresenceState_keepsIdentities (deviceId : Uuid) (state : PresenceState) (now : Int) :
    KeepsIdentities (setPresenceState deviceId state now) := by
  refine .bind (updateDevice_keepsIdentities deviceId _ fun _ => rfl) fun carId => ?_
  split
  · exact .pure _
  · exact .bind (keepsIdentities_read _) fun _ => updateCar_keepsIdentities _ _ _ _

theorem markDeviceOffline_keepsIdentities (deviceId : Uuid) (now : Int) :
    KeepsIdentities (markDeviceOffline deviceId now) := by
  refine .bind (updateDevice_keepsIdentities deviceId _ fun _ => rfl) fun carId => ?_
  split
  · exact .pure _
  · exact updateCar_keepsIdentities _ _ _ _

/-- A transaction leaves devices and credentials alone. -/
structure LeavesDevices (db db' : Database) : Prop where
  devices : db'.devices = db.devices
  credentials : db'.deviceCredentials = db.deviceCredentials

theorem LeavesDevices.refl (db : Database) : LeavesDevices db db := ⟨rfl, rfl⟩

theorem LeavesDevices.trans {db db' db'' : Database} (h : LeavesDevices db db')
    (h' : LeavesDevices db' db'') :
    LeavesDevices db db'' := ⟨h'.devices.trans h.devices, h'.credentials.trans h.credentials⟩

theorem keepsIdentities_of_leavesDevices {α : Type} {f : Database → α × Database}
    (h : ∀ db, LeavesDevices db (f db).2) : KeepsIdentities (.stmt f) :=
  keepsIdentities_stmt (fun db => (h db).devices) fun db => (h db).credentials

theorem releaseSession_leavesDevices (pick : Uuid → Nat) (now : Int) (db : Database)
    (session : DriveSession) : LeavesDevices db (releaseSession pick now db session) := ⟨rfl, rfl⟩

theorem updateSession_leavesDevices {sessionId : Uuid} {p : DriveSession → Bool}
    {f : DriveSession → DriveSession} {hf : ∀ r, Row.key (f r) = Row.key r} {db db' : Database}
    {session : DriveSession} (h : updateSession sessionId p f hf db = some (session, db')) :
    LeavesDevices db db' := by
  unfold updateSession at h
  split at h
  · cases h
  · split at h
    · cases h
      exact ⟨rfl, rfl⟩
    · cases h

theorem expireTransaction_leavesDevices (pick : Uuid → Nat) (now : Int) (db : Database) :
    LeavesDevices db (expireTransaction pick now db).2 := by
  have hfold : ∀ (sessions : List DriveSession) (db : Database),
      LeavesDevices db (sessions.foldl (releaseSession pick now) db) := by
    intro sessions
    induction sessions with
    | nil => exact .refl
    | cons session sessions ih =>
      exact fun db => (releaseSession_leavesDevices pick now db session).trans (ih _)
  have hended : LeavesDevices db (endSessions (expires now) now db) := ⟨rfl, rfl⟩
  exact hended.trans (hfold _ _)

theorem advanceLiveQueue_leavesDevices (collate : String → String → Int) (now : Int)
    (db : Database) :
    LeavesDevices db (Web.advanceLiveQueue collate db now).1 := by
  rw [Web.advanceLiveQueue_table]
  exact ⟨rfl, rfl⟩

theorem createTransaction_leavesDevices (input : Web.CreateInput) (db : Database) :
    LeavesDevices db (Web.createTransaction input db).2 := by
  have hadvance := advanceLiveQueue_leavesDevices input.collate input.lockedAt db
  unfold Web.createTransaction
  dsimp only
  split
  · exact hadvance
  · split
    · exact hadvance
    · split
      · exact hadvance
      · split
        · exact hadvance
        · split
          · exact hadvance.trans (advanceLiveQueue_leavesDevices ..)
          · split
            · exact hadvance
            · refine hadvance.trans ?_
              unfold Web.insertSession
              dsimp only
              split
              · exact .refl _
              · exact ⟨rfl, rfl⟩

theorem code_keepsIdentities (call : StoreCall) : KeepsIdentities call.code := by
  cases call with
  | create input =>
    exact .bind (keepsIdentities_of_leavesDevices (createTransaction_leavesDevices input))
      fun _ => .pure _
  | authenticateDevice =>
    exact .bind (authenticateDevice_keepsIdentities _ _ _ _ _ _) fun _ => .pure _
  | recordHeartbeat => exact .bind (recordHeartbeat_keepsIdentities _ _ _) fun _ => .pure _
  | setPresenceState => exact setPresenceState_keepsIdentities _ _ _
  | markDeviceOffline => exact markDeviceOffline_keepsIdentities _ _
  | authorizeDriveSession input =>
    refine .bind (keepsIdentities_of_leavesDevices fun db => ?_) fun _ => .pure _
    unfold authorizeTransaction
    split
    · exact .refl db
    · next hsession => exact (updateSession_leavesDevices hsession).trans ⟨rfl, rfl⟩
  | markDriveSessionActive sessionId now =>
    refine .bind (keepsIdentities_of_leavesDevices fun db => ?_) fun _ => .pure _
    unfold markActiveTransaction
    dsimp only
    split
    · exact .refl db
    · next hsession => exact (updateSession_leavesDevices hsession).trans ⟨rfl, rfl⟩
  | endDriveSession pick sessionId now =>
    refine keepsIdentities_of_leavesDevices fun db => ?_
    unfold endTransaction
    split
    · exact .refl db
    · next hsession =>
      exact (updateSession_leavesDevices hsession).trans (releaseSession_leavesDevices ..)
  | expireDriveSessions pick now =>
    exact .bind (keepsIdentities_of_leavesDevices (expireTransaction_leavesDevices pick now))
      fun _ => .pure _

/-! ## Provisioning and enrolment -/

theorem insertOrThrow_eq_ok {α κ : Type} [Row α κ] [DecidableEq κ] {table table' : Table α}
    {clash : α → Bool} {r : α} (h : insertOrThrow table clash r = .ok table') :
    table.insert? clash r = some table' := ofOption_eq_ok.1 h

/-- What the transactions of enrolment leave alone. -/
structure Undisturbed (fleet fleet' : Fleet) : Prop where
  devices : fleet'.db.devices = fleet.db.devices
  credentials : fleet'.db.deviceCredentials = fleet.db.deviceCredentials
  enrollmentTokens : fleet'.enrollmentTokens = fleet.enrollmentTokens
  provisions : fleet'.provisions = fleet.provisions
  enrollments : fleet'.enrollments = fleet.enrollments
  authentications : fleet'.authentications = fleet.authentications
  responses : fleet'.responses = fleet.responses

theorem provisionCarRow_ok {input : ProvisionCarInput} {siteId carId : Uuid} {dbNow : Int}
    {fleet fleet' : Fleet}
    (h : provisionCarRow input siteId carId dbNow fleet = .ok (carId', fleet')) :
    Undisturbed fleet fleet' := by
  unfold provisionCarRow at h
  split at h
  · cases h
    exact ⟨rfl, rfl, rfl, rfl, rfl, rfl, rfl⟩
  · obtain ⟨cars, -, h⟩ := bind_eq_ok.1 h
    obtain ⟨carSites, -, h⟩ := bind_eq_ok.1 h
    cases h
    exact ⟨rfl, rfl, rfl, rfl, rfl, rfl, rfl⟩

/-- A code is provisioned, and nothing is enrolled. -/
structure Provisions (input : ProvisionCarInput) (fleet fleet' : Fleet) : Prop where
  devices : fleet'.db.devices = fleet.db.devices
  credentials : fleet'.db.deviceCredentials = fleet.db.deviceCredentials
  tokens : ∃ token : DeviceEnrollmentToken, token.tokenHash = input.tokenHash ∧
    fleet.enrollmentTokens.insert? (fun _ => false) token = some fleet'.enrollmentTokens ∧
    fleet'.provisions = fleet.provisions ++ [⟨token.tokenHash, token.carId, token.expiresAt⟩]
  enrollments : fleet'.enrollments = fleet.enrollments
  authentications : fleet'.authentications = fleet.authentications
  responses : fleet'.responses = fleet.responses

theorem provisions_of_ok {input : ProvisionCarInput} {siteId carId : Uuid} {dbNow : Int}
    {fleet fleet' : Fleet} {car : ProvisionedCar}
    (h : provisionTransaction input siteId carId dbNow fleet = .ok (car, fleet')) :
    Provisions input fleet fleet' := by
  obtain ⟨⟨siteId, sites⟩, -, h⟩ := bind_eq_ok.1 h
  obtain ⟨⟨carId, withCar⟩, hcar, h⟩ := bind_eq_ok.1 h
  have hkept := provisionCarRow_ok hcar
  obtain ⟨enrollmentTokens, htokens, h⟩ := bind_eq_ok.1 h
  cases h
  have hinsert := insertOrThrow_eq_ok htokens
  rw [hkept.enrollmentTokens] at hinsert
  exact ⟨hkept.devices, hkept.credentials,
    ⟨_, rfl, hinsert, congrArg (· ++ [_]) hkept.provisions⟩, hkept.enrollments,
    hkept.authentications, hkept.responses⟩

/-- An open code is consumed, and a device with a credential is inserted. -/
structure Enrols (input : ConsumeEnrollmentInput) (draw : EnrollmentDraw)
    (token : DeviceEnrollmentToken) (fleet fleet' : Fleet) : Prop where
  mem : token ∈ fleet.enrollmentTokens.rows
  opened : openToken input token = true
  tokens : fleet'.enrollmentTokens.rows = fleet.enrollmentTokens.rows.map
    (patch (openToken input) ({ · with consumedAt := some input.now }))
  device : fleet.db.devices.insert? (fun _ => false) (newDevice input draw token.carId) =
    some fleet'.db.devices
  credential : fleet.db.deviceCredentials.insert? (·.secretHash = input.secretHash)
    (newCredential input draw) = some fleet'.db.deviceCredentials
  provisions : fleet'.provisions = fleet.provisions
  enrollments : fleet'.enrollments = fleet.enrollments ++
    [⟨input.tokenHash, input.secretHash, draw.deviceId, token.carId, input.now⟩]
  authentications : fleet'.authentications = fleet.authentications
  responses : fleet'.responses = fleet.responses

theorem enrols_of_ok {input : ConsumeEnrollmentInput} {draw : EnrollmentDraw}
    {fleet fleet' : Fleet} {result : Option EnrollmentResult}
    (h : consumeTransaction input draw fleet = .ok (result, fleet')) :
    (result = none ∧ fleet' = fleet) ∨ ∃ token, result = some ⟨draw.deviceId, token.carId⟩ ∧
      Enrols input draw token fleet fleet' := by
  unfold consumeTransaction at h
  split at h
  · cases h
    exact .inl ⟨rfl, rfl⟩
  · next token hfind =>
    dsimp only at h
    split at h
    · cases h
    · obtain ⟨devices, hdevices, h⟩ := bind_eq_ok.1 h
      obtain ⟨deviceDetails, -, h⟩ := bind_eq_ok.1 h
      obtain ⟨deviceCredentials, hcredentials, h⟩ := bind_eq_ok.1 h
      cases h
      exact .inr ⟨token, rfl, List.mem_of_find?_eq_some hfind, List.find?_some hfind, rfl,
        insertOrThrow_eq_ok hdevices, insertOrThrow_eq_ok hcredentials, rfl, rfl, rfl, rfl⟩

/-! ## Custody -/

/-- Every code was provisioned, every device, credential and secret that was handed out is of one
enrolment, and every authentication of a device with its credential. -/
structure Custody (hashOpaqueSecret : String → String) (fleet : Fleet) : Prop where
  tokens : ∀ token ∈ fleet.enrollmentTokens.rows,
    ⟨token.tokenHash, token.carId, token.expiresAt⟩ ∈ fleet.provisions
  provisioned : ∀ e ∈ fleet.enrollments, ∃ expiresAt,
    ⟨e.tokenHash, e.carId, expiresAt⟩ ∈ fleet.provisions ∧ e.now < expiresAt
  spent : ∀ e ∈ fleet.enrollments, ∃ token ∈ fleet.enrollmentTokens.rows,
    token.tokenHash = e.tokenHash ∧ token.consumedAt.isSome = true
  codes : (fleet.enrollments.map Enrollment.tokenHash).Nodup
  enrolled : ∀ device ∈ fleet.db.devices.rows, ∃ e ∈ fleet.enrollments,
    e.deviceId = device.id ∧ device.carId = some e.carId
  present : ∀ e ∈ fleet.enrollments, ∃ device ∈ fleet.db.devices.rows, device.id = e.deviceId
  ids : (fleet.enrollments.map Enrollment.deviceId).Nodup
  credentials : ∀ credential ∈ fleet.db.deviceCredentials.rows, ∃ e ∈ fleet.enrollments,
    e.deviceId = credential.deviceId ∧ e.secretHash = credential.secretHash
  authentications : ∀ a ∈ fleet.authentications, ∃ e ∈ fleet.enrollments,
    e.deviceId = a.deviceId ∧ e.carId = a.carId ∧
      safeDigestEqual a.suppliedSecretHash e.secretHash = true
  responses : ∀ deviceId carId deviceSecret gatewayUrl,
    .created deviceId carId deviceSecret gatewayUrl ∈ fleet.responses →
    ∃ e ∈ fleet.enrollments, e.deviceId = deviceId ∧ e.carId = carId ∧
      e.secretHash = hashOpaqueSecret deviceSecret

/-- Enrolments stay. -/
def Grows (fleet fleet' : Fleet) : Prop := fleet.enrollments ⊆ fleet'.enrollments

theorem Grows.refl (fleet : Fleet) : Grows fleet fleet := List.Subset.refl _

variable {hashOpaqueSecret : String → String} {publicGatewayUrl : String} {fleet fleet' : Fleet}

theorem custody_start (db : Database) (sites : Table Site) (carSites : Table CarSite) :
    Custody hashOpaqueSecret (.start db sites carSites) where
  tokens _ hmem := (List.not_mem_nil hmem).elim
  provisioned _ hmem := (List.not_mem_nil hmem).elim
  spent _ hmem := (List.not_mem_nil hmem).elim
  codes := List.nodup_nil
  enrolled _ hmem := (List.not_mem_nil hmem).elim
  present _ hmem := (List.not_mem_nil hmem).elim
  ids := List.nodup_nil
  credentials _ hmem := (List.not_mem_nil hmem).elim
  authentications _ hmem := (List.not_mem_nil hmem).elim
  responses _ _ _ _ hmem := (List.not_mem_nil hmem).elim

namespace Custody

theorem setDb (h : Custody hashOpaqueSecret fleet) {db : Database}
    (hsame : SameIdentities fleet.db db) :
    Custody hashOpaqueSecret { fleet with db } where
  tokens := h.tokens
  provisioned := h.provisioned
  spent := h.spent
  codes := h.codes
  enrolled device hdevice := by
    obtain ⟨old, hold, hid, hcar⟩ := hsame.devices.before device hdevice
    obtain ⟨e, he, hof, hcarId⟩ := h.enrolled old hold
    exact ⟨e, he, hof.trans hid.symm, hcar.trans hcarId⟩
  present e he := by
    obtain ⟨old, hold, hof⟩ := h.present e he
    obtain ⟨device, hdevice, hid, -⟩ := hsame.devices.after old hold
    exact ⟨device, hdevice, hid.trans hof⟩
  ids := h.ids
  credentials credential hcredential := by
    obtain ⟨old, hold, hdevice, hsecret⟩ := hsame.credentials.before credential hcredential
    obtain ⟨e, he, hof, hhash⟩ := h.credentials old hold
    exact ⟨e, he, hof.trans hdevice.symm, hhash.trans hsecret.symm⟩
  authentications := h.authentications
  responses := h.responses

theorem provisions {input : ProvisionCarInput} (h : Custody hashOpaqueSecret fleet)
    (hprovisions : Provisions input fleet fleet') : Custody hashOpaqueSecret fleet' := by
  obtain ⟨hdevices, hcredentials, ⟨token, -, hinsert, hnew⟩, henrollments, hauthentications,
    hresponses⟩ := hprovisions
  have hkept : ∀ p ∈ fleet.provisions, p ∈ fleet'.provisions := fun p hp =>
    hnew ▸ List.mem_append_left _ hp
  constructor
  · intro row hrow
    rcases (Table.mem_insert? hinsert).1 hrow with hrow | rfl
    · exact hkept _ (h.tokens row hrow)
    · exact hnew ▸ List.mem_append_right _ (List.mem_singleton_self _)
  · intro e he
    obtain ⟨expiresAt, hp, hbefore⟩ := h.provisioned e (henrollments ▸ he)
    exact ⟨expiresAt, hkept _ hp, hbefore⟩
  · intro e he
    obtain ⟨row, hrow, hspent⟩ := h.spent e (henrollments ▸ he)
    exact ⟨row, (Table.mem_insert? hinsert).2 (.inl hrow), hspent⟩
  · exact henrollments ▸ h.codes
  · rw [hdevices, henrollments]
    exact h.enrolled
  · rw [hdevices, henrollments]
    exact h.present
  · exact henrollments ▸ h.ids
  · rw [hcredentials, henrollments]
    exact h.credentials
  · rw [hauthentications, henrollments]
    exact h.authentications
  · rw [hresponses, henrollments]
    exact h.responses

theorem enrols {input : ConsumeEnrollmentInput} {draw : EnrollmentDraw}
    {token : DeviceEnrollmentToken} (h : Custody hashOpaqueSecret fleet)
    (henrols : Enrols input draw token fleet fleet') : Custody hashOpaqueSecret fleet' := by
  obtain ⟨hmem, hopened, htokens, hdevice, hcredential, hprovisions, hnew, hauthentications,
    hresponses⟩ := henrols
  have hopen := hopened
  simp only [openToken, Bool.and_eq_true, decide_eq_true_eq] at hopened
  obtain ⟨⟨hhash, hunspent⟩, hbefore⟩ := hopened
  have hkept : ∀ e ∈ fleet.enrollments, e ∈ fleet'.enrollments := fun e he =>
    hnew ▸ List.mem_append_left _ he
  have hlast : (⟨input.tokenHash, input.secretHash, draw.deviceId, token.carId, input.now⟩ :
      Enrollment) ∈ fleet'.enrollments := hnew ▸ List.mem_append_right _ (List.mem_singleton_self _)
  -- The code was open, so it has enrolled nothing.
  have hcode : ∀ e ∈ fleet.enrollments, e.tokenHash ≠ input.tokenHash := by
    intro e he heq
    obtain ⟨row, hrow, hrowHash, hspent⟩ := h.spent e he
    obtain rfl := fleet.enrollmentTokens.eq_of_key hrow hmem
      (hrowHash.trans (heq.trans hhash.symm))
    rw [Option.isNone_iff_eq_none.1 hunspent] at hspent
    cases hspent
  -- The device is new, so it is of no other enrolment.
  have hid : ∀ e ∈ fleet.enrollments, e.deviceId ≠ draw.deviceId := by
    intro e he heq
    obtain ⟨device, hrow, hof⟩ := h.present e he
    exact ((Table.insert?_eq_some hdevice).1 device hrow).1 (hof.trans heq)
  constructor
  · intro row hrow
    rw [htokens] at hrow
    obtain ⟨old, hold, rfl⟩ := List.mem_map.1 hrow
    rw [hprovisions]
    have hsame := h.tokens old hold
    rcases patch_cases (openToken input) ({ · with consumedAt := some input.now }) old with
      heq | ⟨-, heq⟩
    · rw [heq]
      exact hsame
    · rw [heq]
      exact hsame
  · intro e he
    rw [hnew] at he
    rw [hprovisions]
    rcases List.mem_append.1 he with he | he
    · exact h.provisioned e he
    · obtain rfl := List.mem_singleton.1 he
      exact ⟨token.expiresAt, hhash ▸ h.tokens token hmem, hbefore⟩
  · intro e he
    rw [hnew] at he
    rw [htokens]
    rcases List.mem_append.1 he with he | he
    · obtain ⟨row, hrow, hrowHash, hspent⟩ := h.spent e he
      have hclosed : ¬ openToken input row = true := by
        intro hopen
        simp only [openToken, Bool.and_eq_true, Option.isNone_iff_eq_none] at hopen
        rw [hopen.1.2] at hspent
        cases hspent
      exact ⟨row, List.mem_map.2 ⟨row, hrow, patch_of_not hclosed⟩, hrowHash, hspent⟩
    · obtain rfl := List.mem_singleton.1 he
      exact ⟨_, List.mem_map.2 ⟨token, hmem, patch_of hopen⟩, hhash, rfl⟩
  · rw [hnew, List.map_append, List.nodup_append]
    refine ⟨h.codes, List.nodup_singleton _, ?_⟩
    rintro _ he _ hlast rfl
    obtain ⟨e, he, heq⟩ := List.mem_map.1 he
    exact hcode e he (heq.trans (List.mem_singleton.1 hlast))
  · intro device hrow
    rcases (Table.mem_insert? hdevice).1 hrow with hrow | rfl
    · obtain ⟨e, he, hof⟩ := h.enrolled device hrow
      exact ⟨e, hkept e he, hof⟩
    · exact ⟨_, hlast, rfl, rfl⟩
  · intro e he
    rw [hnew] at he
    rcases List.mem_append.1 he with he | he
    · obtain ⟨device, hrow, hof⟩ := h.present e he
      exact ⟨device, (Table.mem_insert? hdevice).2 (.inl hrow), hof⟩
    · obtain rfl := List.mem_singleton.1 he
      exact ⟨_, (Table.mem_insert? hdevice).2 (.inr rfl), rfl⟩
  · rw [hnew, List.map_append, List.nodup_append]
    refine ⟨h.ids, List.nodup_singleton _, ?_⟩
    rintro _ he _ hlast rfl
    obtain ⟨e, he, heq⟩ := List.mem_map.1 he
    exact hid e he (heq.trans (List.mem_singleton.1 hlast))
  · intro credential hrow
    rcases (Table.mem_insert? hcredential).1 hrow with hrow | rfl
    · obtain ⟨e, he, hof⟩ := h.credentials credential hrow
      exact ⟨e, hkept e he, hof⟩
    · exact ⟨_, hlast, rfl, rfl⟩
  · intro a ha
    rw [hauthentications] at ha
    obtain ⟨e, he, hof⟩ := h.authentications a ha
    exact ⟨e, hkept e he, hof⟩
  · intro deviceId carId deviceSecret gatewayUrl hmem
    rw [hresponses] at hmem
    obtain ⟨e, he, hof⟩ := h.responses _ _ _ _ hmem
    exact ⟨e, hkept e he, hof⟩

/-- A device is authenticated with the secret of its enrolment. -/
theorem authenticated (h : Custody hashOpaqueSecret fleet) {authentication : Authentication}
    {e : Enrollment} (he : e ∈ fleet.enrollments)
    (hof : e.deviceId = authentication.deviceId ∧ e.carId = authentication.carId ∧
      safeDigestEqual authentication.suppliedSecretHash e.secretHash = true) :
    Custody hashOpaqueSecret
      { fleet with authentications := fleet.authentications ++ [authentication] } := by
  refine { h with authentications := fun a ha => ?_ }
  rcases List.mem_append.1 ha with ha | ha
  · exact h.authentications a ha
  · obtain rfl := List.mem_singleton.1 ha
    exact ⟨e, he, hof⟩

/-- A request is answered; a secret that is handed out is that of an enrolment. -/
theorem responded (h : Custody hashOpaqueSecret fleet) {response : EnrollResponse}
    (hof : ∀ deviceId carId deviceSecret gatewayUrl,
      response = .created deviceId carId deviceSecret gatewayUrl →
      ∃ e ∈ fleet.enrollments, e.deviceId = deviceId ∧ e.carId = carId ∧
        e.secretHash = hashOpaqueSecret deviceSecret) :
    Custody hashOpaqueSecret { fleet with responses := fleet.responses ++ [response] } := by
  refine { h with responses := fun deviceId carId deviceSecret gatewayUrl hmem => ?_ }
  rcases List.mem_append.1 hmem with hmem | hmem
  · exact h.responses _ _ _ _ hmem
  · exact hof _ _ _ _ (List.mem_singleton.1 hmem).symm

end Custody

/-! ## Calls -/

theorem onDb_bind {α β : Type} (p : Prog Database α) (f : α → Prog Database β) :
    Fleet.onDb (p >>= f) = Fleet.onDb p >>= fun a => Fleet.onDb (f a) := Prog.zoom_bind p f

/-- A credential that is found is of the enrolment of its device. -/
theorem Custody.credentialRow (h : Custody hashOpaqueSecret fleet) {deviceId : Uuid}
    {credential : CredentialRow} (hrow : credential ∈ credentialRows deviceId fleet.db) :
    ∃ e ∈ fleet.enrollments, e.deviceId = deviceId ∧ e.secretHash = credential.secretHash ∧
      credential.carId = some e.carId := by
  obtain ⟨row, hselected, hmem⟩ := List.mem_flatMap.1 hrow
  obtain ⟨device, hdevice, rfl⟩ := List.mem_map.1 hmem
  simp only [Table.select, List.mem_filter, Bool.and_eq_true, decide_eq_true_eq]
    at hselected hdevice
  obtain ⟨hcredential, ⟨hof, -⟩, -⟩ := hselected
  obtain ⟨hdevice, hid⟩ := hdevice
  obtain ⟨e, he, heDevice, hhash⟩ := h.credentials row hcredential
  obtain ⟨e', he', heDevice', hcar⟩ := h.enrolled device hdevice
  obtain rfl := List.inj_on_of_nodup_map h.ids he he'
    (heDevice.trans (hid.symm.trans heDevice'.symm))
  exact ⟨e, he, heDevice.trans hof, hhash, hcar⟩

/-- A credential that was read is of an enrolment. -/
def ReadCredential (deviceId : Uuid) (credential : Option CredentialRow) (fleet : Fleet) : Prop :=
  ∀ row, credential = some row → ∃ e ∈ fleet.enrollments, e.deviceId = deviceId ∧
    e.secretHash = row.secretHash ∧ row.carId = some e.carId

/-- A device that is authenticated was enrolled with the secret that it supplies. -/
def Enrolled (suppliedSecretHash : String) (result : Option AuthenticatedDevice) (fleet : Fleet) :
    Prop :=
  ∀ device, result = some device → ∃ e ∈ fleet.enrollments,
    e.deviceId = device.deviceId ∧ e.carId = device.carId ∧
      safeDigestEqual suppliedSecretHash e.secretHash = true

theorem relies_authenticate (pick : Nat) (deviceId : Uuid)
    (suppliedSecretHash agentVersion : String) (capabilities : DeviceCapabilities) (now : Int)
    (fleet : Fleet) :
    Prog.Relies (Custody hashOpaqueSecret) Grows (Enrolled suppliedSecretHash)
      (Fleet.onDb
        (authenticateDevice pick deviceId suppliedSecretHash agentVersion capabilities now))
      fleet := by
  have hread : Prog.Relies (Custody hashOpaqueSecret) Grows (ReadCredential deviceId)
      (Fleet.onDb (.read fun db => limitOne pick (credentialRows deviceId db))) fleet := by
    refine Prog.Relies.read .refl fun found _ hfound row hrow => ?_
    exact hfound.credentialRow (limitOne_mem hrow)
  unfold authenticateDevice
  rw [onDb_bind]
  refine hread.bind fun credential found hcredential => ?_
  cases credential with
  | none => exact nofun
  | some credential =>
    obtain ⟨e, he, hid, hhash, hcar⟩ := hcredential credential rfl
    simp only [hcar]
    split
    · next hdigest =>
      -- The second action writes the device; the enrolment is still there.
      rw [onDb_bind]
      have hwrite : Prog.Relies (Custody hashOpaqueSecret) Grows
          (fun _ later => e ∈ later.enrollments)
          (Fleet.onDb (.stmt fun db => ((), authenticateTransaction credential
            { deviceId, carId := e.carId, agentVersion, capabilities } now db))) found :=
        fun later hgrows hlater =>
          ⟨hlater.setDb (authenticateTransaction_identities _ _ now later.db), fun _ he => he,
            hgrows he⟩
      refine hwrite.bind ?_
      rintro - later hlater _ ⟨⟩
      exact ⟨e, hlater, hid, rfl, hhash ▸ hdigest⟩
    · exact nofun

/-- What the route for enrolments does. -/
theorem enroll_custody (h : Custody hashOpaqueSecret fleet) (body : Json) (deviceSecret : String)
    (now : Int) (draw : EnrollmentDraw) {response : EnrollResponse}
    (henroll : enroll hashOpaqueSecret publicGatewayUrl body deviceSecret now draw fleet =
      (response, fleet')) :
    Custody hashOpaqueSecret fleet' ∧ Grows fleet fleet' ∧
      ∀ deviceId carId deviceSecret' gatewayUrl,
        response = .created deviceId carId deviceSecret' gatewayUrl →
        ∃ e ∈ fleet'.enrollments, e.deviceId = deviceId ∧ e.carId = carId ∧
          e.secretHash = hashOpaqueSecret deviceSecret' := by
  unfold enroll at henroll
  split at henroll
  · cases henroll
    exact ⟨h, .refl fleet, nofun⟩
  · split at henroll
    · next enrollment after hok =>
      cases henroll
      obtain ⟨hnone, -⟩ | ⟨token, heq, henrols⟩ := enrols_of_ok hok
      · cases hnone
      · obtain rfl := Option.some.inj heq
        have hnew := henrols.enrollments
        refine ⟨h.enrols henrols, fun e he => hnew ▸ List.mem_append_left _ he, ?_⟩
        rintro _ _ _ _ ⟨⟩
        exact ⟨_, hnew ▸ List.mem_append_right _ (List.mem_singleton_self _), rfl, rfl, rfl⟩
    · next hok =>
      cases henroll
      obtain ⟨-, rfl⟩ | ⟨token, heq, -⟩ := enrols_of_ok hok
      · exact ⟨h, .refl _, nofun⟩
      · cases heq
    · cases henroll
      exact ⟨h, .refl fleet, nofun⟩

theorem relies_code (call : FleetCall) (fleet : Fleet) :
    Prog.Relies (Custody hashOpaqueSecret) Grows (fun _ _ => True)
      (call.code hashOpaqueSecret publicGatewayUrl) fleet := by
  cases call with
  | provision arguments code now siteId carId dbNow =>
    refine Prog.Relies.stmt fun later _ hlater => ?_
    cases hok : provisionTransaction (provisionCarInput hashOpaqueSecret arguments code now) siteId
      carId dbNow later with
    | ok answer =>
      have hprovisions := provisions_of_ok hok
      exact ⟨hlater.provisions hprovisions, fun e he => hprovisions.enrollments ▸ he, trivial⟩
    | error => exact ⟨hlater, .refl later, trivial⟩
  | enroll body deviceSecret now draw =>
    refine Prog.Relies.stmt fun later _ hlater => ?_
    cases henroll : enroll hashOpaqueSecret publicGatewayUrl body deviceSecret now draw later with
    | mk response after =>
      obtain ⟨hafter, hgrows, hresponse⟩ := enroll_custody hlater body deviceSecret now draw henroll
      exact ⟨hafter.responded hresponse, hgrows, trivial⟩
  | authenticate pick deviceId deviceSecret agentVersion capabilities now =>
    refine (relies_authenticate pick deviceId (hashOpaqueSecret deviceSecret) agentVersion
      capabilities now fleet).bind fun result found hresult => ?_
    cases result with
    | none => trivial
    | some device =>
      obtain ⟨e, he, hof⟩ := hresult device rfl
      exact fun later hgrows hlater =>
        ⟨hlater.authenticated (hgrows he) hof, fun _ he => he, trivial⟩
  | store call =>
    have hkeeps : Prog.Keeps (Custody hashOpaqueSecret) Grows (Fleet.onDb call.code) :=
      (code_keepsIdentities call).zoom (fun _ _ => trivial)
        fun fleet db hfleet hsame => ⟨hfleet.setDb hsame, fun _ he => he⟩
    exact hkeeps.relies fleet

/-- In every interleaving from a database without devices, a code enrols one device at most, of the
car that it was provisioned for and before it expires. A secret that is handed out is the secret of
an enrolment, and a device is authenticated only with the digest of its own. -/
theorem custody (hashOpaqueSecret : String → String) (publicGatewayUrl : String) (db : Database)
    (sites : Table Site) (carSites : Table CarSite) {events : List (PoolEvent FleetCall)}
    {pool : Pool Fleet}
    (h : Run (StepOf (Pool.step (FleetCall.code hashOpaqueSecret publicGatewayUrl)))
      ⟨.start db sites carSites, []⟩ events pool) :
    (pool.shared.enrollments.map Enrollment.tokenHash).Nodup ∧
      (pool.shared.enrollments.map Enrollment.deviceId).Nodup ∧
      (∀ e ∈ pool.shared.enrollments, ∃ expiresAt,
        ⟨e.tokenHash, e.carId, expiresAt⟩ ∈ pool.shared.provisions ∧ e.now < expiresAt) ∧
      (∀ deviceId carId deviceSecret gatewayUrl,
        .created deviceId carId deviceSecret gatewayUrl ∈ pool.shared.responses →
        ∃ e ∈ pool.shared.enrollments, e.deviceId = deviceId ∧ e.carId = carId ∧
          e.secretHash = hashOpaqueSecret deviceSecret) ∧
      ∀ a ∈ pool.shared.authentications, ∃ e ∈ pool.shared.enrollments,
        e.deviceId = a.deviceId ∧ e.carId = a.carId ∧
          safeDigestEqual a.suppliedSecretHash e.secretHash = true := by
  have hmutual : Pool.Mutual (Custody hashOpaqueSecret) Grows pool :=
    Pool.Mutual.run (fun call _ fleet => relies_code call fleet) .refl
      (fun h h' _ he => h' (h he)) ⟨custody_start db sites carSites, by nofun⟩ h
  have hcustody := hmutual.shared
  exact ⟨hcustody.codes, hcustody.ids, hcustody.provisioned, hcustody.responses,
    hcustody.authentications⟩

/-- Nothing is there yet. -/
def newFleet : Fleet :=
  .start
    { cars := .empty, devices := .empty, deviceCredentials := .empty, firmwareVersions := .empty
      deviceUpdateJobs := .empty, queueEntries := .empty, driveSessions := .empty }
    .empty .empty

/-- The code of a new car enrols a device, another request with it comes too late, and the device is
authenticated with its secret. -/
def enrolledAndAuthenticated : List (PoolEvent FleetCall) :=
  let body := Json.object [("enrollmentCode", .string "enr_0123456789abcdef0123456789"),
    ("serialNumber", .string "pi-0001"), ("agentVersion", .string "1.0.0"),
    ("capabilities", .object [])]
  [.start (.provision ⟨"rc-one", "RC 01", none, none, none⟩ "enr_0123456789abcdef0123456789" 1000
      10 1 1000), .advance 0,
    .start (.enroll body "secret" 2000 ⟨2, 3, 2000⟩),
    .start (.enroll body "other" 2000 ⟨4, 5, 2000⟩), .advance 1, .advance 2,
    .start (.authenticate 0 2 "secret" "1.0.0" ⟨none, none⟩ 3000),
    .advance 3, .advance 3, .advance 3]

theorem enrolledAndAuthenticated_custody :
    ∃ pool, Run (StepOf (Pool.step (FleetCall.code id "wss://gateway.example"))) ⟨newFleet, []⟩
        enrolledAndAuthenticated pool ∧
      pool.shared.responses = [.created 2 1 "secret" "wss://gateway.example", .unavailable] ∧
      pool.shared.authentications = [⟨2, 1, "secret"⟩] ∧
      ∀ a ∈ pool.shared.authentications, ∃ e ∈ pool.shared.enrollments,
        e.deviceId = a.deviceId ∧ e.carId = a.carId ∧
          safeDigestEqual a.suppliedSecretHash e.secretHash = true := by
  have hall : (runList (Pool.step (FleetCall.code id "wss://gateway.example")) ⟨newFleet, []⟩
      enrolledAndAuthenticated).any (fun pool =>
        decide (pool.shared.responses =
          [.created 2 1 "secret" "wss://gateway.example", .unavailable]) &&
        decide (pool.shared.authentications = [⟨2, 1, "secret"⟩])) = true := by
    decide +kernel
  obtain ⟨pool, hrun, hpool⟩ := (Option.any_eq_true _ _).1 hall
  simp only [Bool.and_eq_true, decide_eq_true_eq] at hpool
  have hreached := run_of_runList hrun
  exact ⟨pool, hreached, hpool.1, hpool.2, (custody id _ _ _ _ hreached).2.2.2.2⟩

end RcOnline.Gateway
