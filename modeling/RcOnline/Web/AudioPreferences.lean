import RcOnline.Lib.Steps
import RcOnline.Web.ControlLoop

/-!
# Audio preferences of the ride screen

`RideAudioPreferences` of `apps/web/app/ride-audio-preferences.ts` against a server that applies a
write if and only if its revision equals the stored one, which it then increments. The screen waits
for one request at a time; a request that it gave up may still be applied, and other clients write
too.
-/

namespace RcOnline.Web

open RcOnline.Lib

structure PlaybackPreferences where
  volume : Number
  muted : Bool
  deriving DecidableEq

/-- The columns of the user's row. -/
structure StoredAudioPreferences where
  volumePercent : Number
  muted : Bool
  revision : Nat
  deriving DecidableEq

structure AudioPreferences extends StoredAudioPreferences where
  accountId : String
  deriving DecidableEq

inductive AudioSaveStatus where
  | saved
  | saving
  | notSaved
  deriving DecidableEq

/-- `isAudioPreferences`, on a value with the fields of the type. -/
def isAudioPreferences (preferences : AudioPreferences) : Bool :=
  preferences.accountId ≠ "" &&
    (Number.safeInteger? preferences.volumePercent).any (fun n => 0 ≤ n && n ≤ 100) &&
    (preferences.revision : Int) ≤ Number.maxSafeInteger

/-- The body of a `PATCH`, and which of the updates it carries. -/
structure PatchRequest extends AudioPreferences where
  edit : Nat
  deriving DecidableEq

/-- How far the server is with the request that the screen waits for. -/
inductive PatchPhase where
  | sent
  | conflicted
  | answered (conflict : Bool) (row : StoredAudioPreferences)
  deriving DecidableEq

/-- The save loop: its conflicts so far and the request that it waits for. -/
structure SaveLoop where
  conflicts : Nat
  request : PatchRequest
  phase : PatchPhase
  deriving DecidableEq

/-- How far the server is with a load. -/
inductive LoadPhase where
  | sent
  | answered (row : StoredAudioPreferences)
  deriving DecidableEq

/-- The fields of an instance. `#saving` is set while there is a save loop and `#loading` while a
load is under way; `status` is the last status that was reported and `edits` counts the updates. -/
structure RideAudioPreferences where
  value : PlaybackPreferences
  revision : Option Nat
  accountId : Option String
  edited : Bool
  dirty : Bool
  saving : Option SaveLoop
  closed : Bool
  timer : Bool
  loading : Option LoadPhase
  status : Option AudioSaveStatus
  edits : Nat
  deriving DecidableEq

namespace RideAudioPreferences

/-- An instance as it is constructed. -/
def new : RideAudioPreferences where
  value := { volume := .ofInt 0, muted := true }
  revision := none
  accountId := none
  edited := false
  dirty := false
  saving := none
  closed := false
  timer := false
  loading := none
  status := none
  edits := 0

/-- `#status`, silent once the instance is closed. -/
def report (preferences : RideAudioPreferences) (status : AudioSaveStatus) :
    RideAudioPreferences :=
  if preferences.closed then preferences else { preferences with status := some status }

theorem report_cases (preferences : RideAudioPreferences) (status : AudioSaveStatus) :
    preferences.report status = preferences ∨
      preferences.report status = { preferences with status := some status } := by
  unfold report
  split
  · exact .inl rfl
  · exact .inr rfl

@[simp] theorem closed_report (preferences : RideAudioPreferences) (status : AudioSaveStatus) :
    (preferences.report status).closed = preferences.closed := by
  rcases preferences.report_cases status with heq | heq <;> rw [heq]

@[simp] theorem timer_report (preferences : RideAudioPreferences) (status : AudioSaveStatus) :
    (preferences.report status).timer = preferences.timer := by
  rcases preferences.report_cases status with heq | heq <;> rw [heq]

@[simp] theorem saving_report (preferences : RideAudioPreferences) (status : AudioSaveStatus) :
    (preferences.report status).saving = preferences.saving := by
  rcases preferences.report_cases status with heq | heq <;> rw [heq]

/-- `Math.round(x * 100)`. -/
def percent (volume : Number) : Number := mathRound (volume.mul (.ofInt 100))

/-- `x / 100`. -/
def hundredth : Number → Number
  | .finite q => .round (q / 100)
  | x => x

/-- The head of the save loop: the next request, or the end of the loop. -/
def saveNext (preferences : RideAudioPreferences) (conflicts : Nat) : RideAudioPreferences :=
  match preferences.dirty, preferences.revision, preferences.accountId with
  | true, some revision, some accountId =>
    { preferences with
      dirty := false
      saving := some
        { conflicts
          request :=
            { accountId, volumePercent := percent preferences.value.volume,
              muted := preferences.value.muted, revision, edit := preferences.edits }
          phase := .sent } }
  | _, _, _ => { preferences.report .saved with saving := none }

/-- What the save loop does with an error. -/
def saveFailed (preferences : RideAudioPreferences) : RideAudioPreferences :=
  { { preferences with dirty := true }.report .notSaved with saving := none }

def flush (preferences : RideAudioPreferences) : RideAudioPreferences :=
  let preferences := { preferences with timer := false }
  if preferences.dirty && preferences.revision.isSome && preferences.saving.isNone then
    preferences.saveNext 0
  else preferences

def load (preferences : RideAudioPreferences) : RideAudioPreferences :=
  if preferences.loading.isSome then preferences else { preferences with loading := some .sent }

def update (preferences : RideAudioPreferences) (value : PlaybackPreferences) :
    RideAudioPreferences :=
  if preferences.closed || !isFinite value.volume then preferences
  else
    let volume := hundredth (percent ((Number.ofInt 0).max ((Number.ofInt 1).min value.volume)))
    { { preferences with
        value := { volume, muted := value.muted }
        edited := true
        dirty := true
        edits := preferences.edits + 1 }.report .saving with
      timer := true }

@[simp] theorem closed_update (preferences : RideAudioPreferences) (value : PlaybackPreferences) :
    (preferences.update value).closed = preferences.closed := by
  unfold update
  split
  · rfl
  · exact closed_report _ _

/-- What the timer of the last update does. -/
def timerFires (preferences : RideAudioPreferences) : RideAudioPreferences :=
  let preferences := { preferences with timer := false }
  if preferences.revision = none then preferences.load else preferences.flush

def close (preferences : RideAudioPreferences) : RideAudioPreferences :=
  { preferences with closed := true }.flush

def loadFailed (preferences : RideAudioPreferences) : RideAudioPreferences :=
  { preferences.report .notSaved with loading := none }

/-- The rest of `#load` after a good response. -/
def loadAnswered (preferences : RideAudioPreferences) (loaded : AudioPreferences) :
    RideAudioPreferences :=
  if !isAudioPreferences loaded then preferences.loadFailed
  else
    let preferences :=
      if preferences.accountId.any (· ≠ loaded.accountId) then
        { preferences with dirty := false, edited := false }
      else preferences
    let preferences :=
      { preferences with
        accountId := some loaded.accountId
        revision := some loaded.revision
        loading := none }
    let preferences :=
      -- The account fetch may finish after the driver has already touched a control.
      if !preferences.edited && !preferences.closed then
        { preferences with
          value := { volume := hundredth loaded.volumePercent, muted := loaded.muted } }
      else preferences
    if preferences.dirty then preferences.flush else preferences.report .saved

/-- A response that is taken brings its revision; an edit is flushed with it. -/
theorem loadAnswered_cases (preferences : RideAudioPreferences) (loaded : AudioPreferences) :
    preferences.loadAnswered loaded = preferences.loadFailed ∨
      ∃ value edited dirty known,
        known =
          { preferences with
            value
            edited
            dirty
            accountId := some loaded.accountId
            revision := some loaded.revision
            loading := none } ∧
        (dirty = true → preferences.dirty = true) ∧
        (preferences.loadAnswered loaded = known.flush ∨
          preferences.loadAnswered loaded = known.report .saved) := by
  have hends : ∀ known : RideAudioPreferences,
      (if known.dirty then known.flush else known.report .saved) = known.flush ∨
        (if known.dirty then known.flush else known.report .saved) = known.report .saved := by
    intro known
    split
    · exact .inl rfl
    · exact .inr rfl
  unfold loadAnswered
  split
  · exact .inl rfl
  · right
    dsimp only
    split <;> split <;> refine ⟨_, _, _, _, rfl, ?_, hends _⟩
    · exact fun hdirty => by cases hdirty
    · exact fun hdirty => by cases hdirty
    · exact id
    · exact id

/-- The rest of the save loop after a response; a conflict's is the stored row. -/
def saveAnswered (preferences : RideAudioPreferences) (conflicts : Nat) (conflict : Bool)
    (answer : AudioPreferences) : RideAudioPreferences :=
  if !isAudioPreferences answer then preferences.saveFailed
  else if some answer.accountId ≠ preferences.accountId then preferences.saveFailed
  else
    let preferences := { preferences with revision := some answer.revision }
    if conflict then
      -- A departed screen must not overwrite a newer choice.
      if preferences.closed || 2 < conflicts + 1 then preferences.saveFailed
      else { preferences with dirty := true }.saveNext (conflicts + 1)
    else preferences.saveNext conflicts

end RideAudioPreferences

/-! ## The screen and the server -/

/-- A write that the server applied: of the screen, or of another client. -/
inductive AudioWrite where
  | own (request : PatchRequest)
  | other
  deriving DecidableEq

structure AudioSystem where
  preferences : RideAudioPreferences
  account : String
  row : StoredAudioPreferences
  /-- Requests that the screen gave up and that the server has not served. -/
  abandoned : List PatchRequest
  writes : List AudioWrite
  /-- The writes since the screen was closed. -/
  sinceClose : Option (List AudioWrite)
  /-- The revision of the first of these that is another client's. -/
  newer : Option Nat

inductive AudioEvent where
  | load
  | update (value : PlaybackPreferences)
  | timer
  | flush
  | close
  | loadServed
  | loadAnswered
  | loadFails
  | patchServed
  | conflictRead
  | saveAnswered
  | saveFails
  | abandonedServed (index : Nat)
  | otherWrite (volumePercent : Number) (muted : Bool)

namespace AudioSystem

def start (account : String) (row : StoredAudioPreferences) : AudioSystem where
  preferences := .new
  account := account
  row := row
  abandoned := []
  writes := []
  sinceClose := none
  newer := none

/-- The stored row after a write. -/
def write (system : AudioSystem) (volumePercent : Number) (muted : Bool) (write : AudioWrite) :
    AudioSystem :=
  { system with
    row := { volumePercent, muted, revision := system.row.revision + 1 }
    writes := system.writes ++ [write]
    sinceClose := system.sinceClose.map (· ++ [write])
    newer :=
      if system.sinceClose.isSome && decide (write = .other) then
        system.newer.or (some (system.row.revision + 1))
      else system.newer }

/-- `save` of the store: a request with the stored revision is applied. -/
def serve (system : AudioSystem) (request : PatchRequest) : AudioSystem :=
  if request.revision = system.row.revision then
    system.write request.volumePercent request.muted (.own request)
  else system

def withPreferences (system : AudioSystem) (preferences : RideAudioPreferences) : AudioSystem :=
  { system with preferences }

/-- The request that the screen waits for is at another phase. -/
def setPhase (system : AudioSystem) (loop : SaveLoop) (phase : PatchPhase) : AudioSystem :=
  system.withPreferences
    { system.preferences with saving := some { loop with phase } }

def answer (system : AudioSystem) (row : StoredAudioPreferences) : AudioPreferences :=
  { row with accountId := system.account }

def step (system : AudioSystem) : AudioEvent → Option AudioSystem
  | .load => some (system.withPreferences system.preferences.load)
  | .update value => some (system.withPreferences (system.preferences.update value))
  | .timer =>
    if system.preferences.timer then some (system.withPreferences system.preferences.timerFires)
    else none
  | .flush => some (system.withPreferences system.preferences.flush)
  | .close =>
    some
      { system.withPreferences system.preferences.close with
        sinceClose := some (system.sinceClose.getD []) }
  | .loadServed =>
    match system.preferences.loading with
    | some .sent =>
      some (system.withPreferences
        { system.preferences with loading := some (.answered system.row) })
    | _ => none
  | .loadAnswered =>
    match system.preferences.loading with
    | some (.answered row) =>
      some (system.withPreferences (system.preferences.loadAnswered (system.answer row)))
    | _ => none
  | .loadFails =>
    if system.preferences.loading.isSome then
      some (system.withPreferences system.preferences.loadFailed)
    else none
  | .patchServed =>
    match system.preferences.saving with
    | some loop =>
      if loop.phase ≠ .sent then none
      else if loop.request.revision = system.row.revision then
        let system := system.serve loop.request
        some (system.setPhase loop (.answered false system.row))
      else some (system.setPhase loop .conflicted)
    | none => none
  | .conflictRead =>
    match system.preferences.saving with
    | some loop =>
      if loop.phase = .conflicted then some (system.setPhase loop (.answered true system.row))
      else none
    | none => none
  | .saveAnswered =>
    match system.preferences.saving with
    | some loop =>
      match loop.phase with
      | .answered conflict row =>
        some (system.withPreferences
          (system.preferences.saveAnswered loop.conflicts conflict (system.answer row)))
      | _ => none
    | none => none
  | .saveFails =>
    match system.preferences.saving with
    | some loop =>
      some
        { system.withPreferences system.preferences.saveFailed with
          abandoned := if loop.phase = .sent then system.abandoned ++ [loop.request]
            else system.abandoned }
    | none => none
  | .abandonedServed index =>
    (system.abandoned[index]?).map fun request =>
      { system.serve request with abandoned := system.abandoned.eraseIdx index }
  | .otherWrite volumePercent muted => some (system.write volumePercent muted .other)

end AudioSystem

end RcOnline.Web
