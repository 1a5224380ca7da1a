import RcOnline.Web.AudioRevisions

/-!
# Saved audio preferences

What the status `saved` stands for. A request that the server applies leaves every request before
it behind (`Saves.served`); the screen reports `saved` when that request carried the last edit
(`saved_settles`).
-/

namespace RcOnline.Web

open RcOnline.Lib

namespace AudioSystem

/-- A request with the last edit of an instance. -/
def Carries (preferences : RideAudioPreferences) (request : PatchRequest) : Prop :=
  request.edit = preferences.edits ∧
    request.volumePercent = RideAudioPreferences.percent preferences.value.volume ∧
    request.muted = preferences.value.muted

/-- What the edits of a loaded instance keep. -/
structure Saves (system : AudioSystem) : Prop where
  ofAccount : system.preferences.revision ≠ none →
    system.preferences.accountId = some system.account
  /-- A load is under way only until one was answered. -/
  firstLoad : system.preferences.loading ≠ none → system.preferences.revision = none
  unloaded : system.preferences.revision = none →
    system.preferences.saving = none ∧ system.preferences.accountId = none ∧
      (system.preferences.dirty = true ∨ system.preferences.edits = 0)
  untouched : system.preferences.edits = 0 →
    system.preferences.dirty = false ∧ system.preferences.saving = none
  /-- The request that is waited for has the last edit, or the edit is still to be saved. -/
  carries : ∀ loop, system.preferences.saving = some loop →
    system.preferences.dirty = true ∨ Carries system.preferences loop.request
  /-- A request that was applied leaves those that were given up behind. -/
  served : ∀ loop row, system.preferences.saving = some loop → loop.phase = .answered false row →
    .own loop.request ∈ system.writes ∧
      ∀ request ∈ system.abandoned, request.revision < system.row.revision
  settled : system.preferences.status = some .saved → system.preferences.edits = 0 ∨
    (system.preferences.dirty = false ∧ system.preferences.saving = none ∧
      (∃ request, .own request ∈ system.writes ∧ Carries system.preferences request) ∧
      ∀ request ∈ system.abandoned, request.revision < system.row.revision)

/-- A step on an instance that is loaded once. -/
def LoadedOnce (system : AudioSystem) (event : AudioEvent) (after : AudioSystem) : Prop :=
  (event = .load → system.preferences.revision = none) ∧ system.step event = some after

section Saves

variable {system after : AudioSystem}

theorem saves_start (account : String) (row : StoredAudioPreferences) :
    Saves (start account row) := by
  constructor <;> simp [start, RideAudioPreferences.new]

/-- The timer and the closed flag say nothing of the saves. -/
theorem Saves.setTimer (h : Saves system) (timer closed : Bool) :
    Saves (system.withPreferences { system.preferences with timer, closed }) :=
  { h with }

/-- While the screen saves it has been edited and loaded, and does not say that it has saved. -/
structure Busy (preferences : RideAudioPreferences) : Prop where
  edited : preferences.edits ≠ 0
  unsaved : preferences.status ≠ some .saved
  idle : preferences.loading = none

theorem Saves.busy (h : Saves system) {loop : SaveLoop}
    (hsaving : system.preferences.saving = some loop) :
    Busy system.preferences ∧ system.preferences.revision ≠ none := by
  have hrevision : system.preferences.revision ≠ none := by
    intro hnone
    rw [(h.unloaded hnone).1] at hsaving
    cases hsaving
  have hedits : system.preferences.edits ≠ 0 := by
    intro hzero
    rw [(h.untouched hzero).2] at hsaving
    cases hsaving
  refine ⟨⟨hedits, fun hstatus => ?_, ?_⟩, hrevision⟩
  · rcases h.settled hstatus with hzero | ⟨-, hnone, -⟩
    · exact hedits hzero
    · rw [hnone] at hsaving
      cases hsaving
  · by_contra hloading
    exact hrevision (h.firstLoad hloading)

section Head

variable {preferences : RideAudioPreferences} {revision : Nat}

/-- The loop sends the last edit. -/
theorem saves_send (hbusy : Busy preferences)
    (hrevision : preferences.revision = some revision)
    (haccount : preferences.accountId = some system.account) (hdirty : preferences.dirty = true)
    (conflicts : Nat) : Saves (system.withPreferences (preferences.saveNext conflicts)) := by
  simp only [RideAudioPreferences.saveNext, hdirty, hrevision, haccount]
  constructor
  case ofAccount => exact fun _ => rfl
  case firstLoad => exact fun hloading => absurd hbusy.idle hloading
  case unloaded =>
    intro hnone
    cases hnone
  case untouched => exact fun hzero => absurd hzero hbusy.edited
  case carries =>
    rintro _ ⟨⟩
    exact .inr ⟨rfl, rfl, rfl⟩
  case served =>
    rintro _ _ ⟨⟩ hphase
    cases hphase
  case settled => exact fun hstatus => absurd hstatus hbusy.unsaved

/-- The loop ends, and the screen says that it has saved only when it has. -/
theorem saves_ended {ended : RideAudioPreferences} {abandoned : List PatchRequest}
    (hloading : ended.loading = none) (hedits : ended.edits ≠ 0)
    (hrevision : ended.revision = some revision)
    (haccount : ended.accountId = some system.account)
    (hsettled : ended.status = some .saved → ended.dirty = false ∧
      (∃ request, .own request ∈ system.writes ∧ Carries ended request) ∧
      ∀ request ∈ abandoned, request.revision < system.row.revision) :
    Saves { system.withPreferences { ended with saving := none } with abandoned } := by
  constructor
  case ofAccount => exact fun _ => haccount
  case firstLoad => exact fun hnone => absurd hloading hnone
  case unloaded => exact fun hnone => by cases hrevision.symm.trans hnone
  case untouched => exact fun hzero => absurd hzero hedits
  case carries =>
    intro _ hsaving
    cases hsaving
  case served =>
    intro _ _ hsaving
    cases hsaving
  case settled =>
    intro hstatus
    obtain ⟨hdirty, hdone, hbehind⟩ := hsettled hstatus
    exact .inr ⟨hdirty, rfl, hdone, hbehind⟩

/-- The loop ends when the last edit was applied. -/
theorem saves_finish (hbusy : Busy preferences) (hrevision : preferences.revision = some revision)
    (haccount : preferences.accountId = some system.account) (hdirty : preferences.dirty = false)
    (hdone : ∃ request, .own request ∈ system.writes ∧ Carries preferences request)
    (hbehind : ∀ request ∈ system.abandoned, request.revision < system.row.revision)
    (conflicts : Nat) : Saves (system.withPreferences (preferences.saveNext conflicts)) := by
  simp only [RideAudioPreferences.saveNext, hdirty]
  rcases preferences.report_cases .saved with heq | heq
  · rw [heq]
    exact saves_ended hbusy.idle hbusy.edited hrevision haccount fun _ => ⟨hdirty, hdone, hbehind⟩
  · rw [heq]
    exact saves_ended hbusy.idle hbusy.edited hrevision haccount fun _ => ⟨hdirty, hdone, hbehind⟩

/-- The loop ends with an error; what it gave up may still be served. -/
theorem saves_failed (hbusy : Busy preferences) (hrevision : preferences.revision = some revision)
    (haccount : preferences.accountId = some system.account) (abandoned : List PatchRequest) :
    Saves { system.withPreferences preferences.saveFailed with abandoned } := by
  unfold RideAudioPreferences.saveFailed
  rcases RideAudioPreferences.report_cases { preferences with dirty := true } .notSaved with
    heq | heq
  · rw [heq]
    exact saves_ended hbusy.idle hbusy.edited hrevision haccount fun hstatus =>
      absurd hstatus hbusy.unsaved
  · rw [heq]
    refine saves_ended hbusy.idle hbusy.edited hrevision haccount fun hstatus => ?_
    cases hstatus

end Head

/-! ## Calls of the page -/

theorem Saves.flush (h : Saves system) :
    Saves (system.withPreferences system.preferences.flush) := by
  have htimer := h.setTimer false system.preferences.closed
  unfold RideAudioPreferences.flush
  dsimp only
  split
  · next hready =>
    simp only [Bool.and_eq_true, Option.isSome_iff_exists] at hready
    obtain ⟨⟨hdirty, revision, hrevision⟩, -⟩ := hready
    have haccount : system.preferences.accountId = some system.account :=
      h.ofAccount (by simp [hrevision])
    have hedits : system.preferences.edits ≠ 0 := by
      intro hzero
      rw [(h.untouched hzero).1] at hdirty
      cases hdirty
    have hbusy : Busy { system.preferences with timer := false } := by
      refine ⟨hedits, fun hstatus => ?_, ?_⟩
      · rcases h.settled hstatus with hzero | ⟨hclean, -⟩
        · exact hedits hzero
        · rw [hclean] at hdirty
          cases hdirty
      · by_contra hloading
        rw [h.firstLoad hloading] at hrevision
        cases hrevision
    exact saves_send hbusy hrevision haccount hdirty 0
  · exact htimer

theorem Saves.close (h : Saves system) :
    Saves (system.withPreferences system.preferences.close) :=
  (h.setTimer system.preferences.timer true).flush

theorem Saves.load (h : Saves system) (hrevision : system.preferences.revision = none) :
    Saves (system.withPreferences system.preferences.load) := by
  unfold RideAudioPreferences.load
  split
  · exact h
  · exact { h with firstLoad := fun _ => hrevision }

theorem Saves.timerFires (h : Saves system) :
    Saves (system.withPreferences system.preferences.timerFires) := by
  have htimer := h.setTimer false system.preferences.closed
  unfold RideAudioPreferences.timerFires
  dsimp only
  split
  · next hrevision => exact htimer.load hrevision
  · exact htimer.flush

/-- An update is still to be saved. -/
theorem Saves.update (h : Saves system) (value : PlaybackPreferences) :
    Saves (system.withPreferences (system.preferences.update value)) := by
  unfold RideAudioPreferences.update
  split
  · exact h
  · next hopen =>
    simp only [Bool.or_eq_true, not_or, Bool.not_eq_true] at hopen
    simp only [RideAudioPreferences.report, hopen.1, Bool.false_eq_true, if_false]
    refine { h with unloaded := ?_, untouched := ?_, carries := ?_, settled := ?_ }
    · intro hnone
      obtain ⟨hsaving, haccount, -⟩ := h.unloaded hnone
      exact ⟨hsaving, haccount, .inl rfl⟩
    · intro hzero
      cases hzero
    · exact fun _ _ => .inl rfl
    · intro hstatus
      cases hstatus

/-! ## Answers -/

theorem Saves.loadServed (h : Saves system) (hloading : system.preferences.loading = some .sent) :
    Saves (system.withPreferences
      { system.preferences with loading := some (.answered system.row) }) := by
  exact { h with firstLoad := fun _ => h.firstLoad (by simp [hloading]) }

/-- A status other than `saved`, and the end of a load. -/
theorem Saves.loadFailed (h : Saves system) :
    Saves (system.withPreferences system.preferences.loadFailed) := by
  unfold RideAudioPreferences.loadFailed
  rcases system.preferences.report_cases .notSaved with heq | heq
  · rw [heq]
    exact { h with firstLoad := fun hnone => absurd rfl hnone }
  · rw [heq]
    refine { h with firstLoad := fun hnone => absurd rfl hnone, settled := ?_ }
    intro hstatus
    cases hstatus

/-- An answered load leaves what was edited to be saved; nothing else was edited. -/
theorem Saves.loadAnswered (h : Saves system) {row : StoredAudioPreferences}
    (hloading : system.preferences.loading = some (.answered row)) :
    Saves (system.withPreferences (system.preferences.loadAnswered (system.answer row))) := by
  have hrevision := h.firstLoad (by simp [hloading])
  obtain ⟨hsaving, haccount, hedits⟩ := h.unloaded hrevision
  have hsettled : system.preferences.status = some .saved → system.preferences.edits = 0 := by
    intro hstatus
    rcases h.settled hstatus with hzero | ⟨hclean, -⟩
    · exact hzero
    · rcases hedits with hdirty | hzero
      · rw [hclean] at hdirty
        cases hdirty
      · exact hzero
  have hloaded : ∀ value : PlaybackPreferences,
      Saves (system.withPreferences
        { system.preferences with
          value
          accountId := some system.account
          revision := some row.revision
          loading := none }) := by
    intro value
    constructor
    case ofAccount => exact fun _ => rfl
    case firstLoad => exact fun hnone => absurd rfl hnone
    case unloaded =>
      intro hnone
      cases hnone
    case untouched => exact h.untouched
    case carries =>
      intro _ hsome
      cases hsaving.symm.trans hsome
    case served =>
      intro _ _ hsome
      cases hsaving.symm.trans hsome
    case settled => exact fun hstatus => .inl (hsettled hstatus)
  unfold RideAudioPreferences.loadAnswered
  split
  · exact h.loadFailed
  · simp only [haccount, Option.any_none, Bool.false_eq_true, if_false, answer]
    have hvalued : ∀ preferences : RideAudioPreferences,
        Saves (system.withPreferences preferences) →
        (preferences.dirty = true ∨ preferences.edits = 0) →
        Saves (system.withPreferences
          (if preferences.dirty then preferences.flush else preferences.report .saved)) := by
      intro preferences hsaves hedited
      split
      · exact hsaves.flush
      · next hclean =>
        have hzero : preferences.edits = 0 := hedited.resolve_left hclean
        rcases preferences.report_cases .saved with heq | heq
        · rw [heq]
          exact hsaves
        · rw [heq]
          exact { hsaves with settled := fun _ => .inl hzero }
    split
    · exact hvalued _ (hloaded _) hedits
    · exact hvalued _ (hloaded _) hedits

/-- A write raises the stored revision. -/
theorem Saves.write (h : Saves system) (volumePercent : Number) (muted : Bool)
    (write : AudioWrite) : Saves (system.write volumePercent muted write) where
  ofAccount := h.ofAccount
  firstLoad := h.firstLoad
  unloaded := h.unloaded
  untouched := h.untouched
  carries := h.carries
  served := fun loop row hsaving hphase => by
    obtain ⟨hown, hbehind⟩ := h.served loop row hsaving hphase
    exact ⟨List.mem_append_left _ hown, fun request hmem =>
      Nat.lt_succ_of_lt (hbehind request hmem)⟩
  settled := fun hstatus => by
    rcases h.settled hstatus with hzero | ⟨hclean, hsaving, ⟨request, hown, hcarries⟩, hbehind⟩
    · exact .inl hzero
    · exact .inr ⟨hclean, hsaving, ⟨request, List.mem_append_left _ hown, hcarries⟩,
        fun request hmem => Nat.lt_succ_of_lt (hbehind request hmem)⟩

theorem Saves.serve (h : Saves system) (request : PatchRequest) : Saves (system.serve request) := by
  unfold AudioSystem.serve
  split
  · exact h.write _ _ _
  · exact h

/-- The request that is waited for is at another phase. -/
theorem Saves.setPhase (h : Saves system) {loop : SaveLoop}
    (hsaving : system.preferences.saving = some loop) {phase : PatchPhase}
    (hserved : ∀ row, phase = .answered false row → .own loop.request ∈ system.writes ∧
      ∀ request ∈ system.abandoned, request.revision < system.row.revision) :
    Saves (system.setPhase loop phase) := by
  obtain ⟨hbusy, hrevision⟩ := h.busy hsaving
  refine { h with
    unloaded := ?_, untouched := ?_, carries := ?_, served := ?_, settled := ?_ }
  · exact fun hnone => absurd hnone hrevision
  · exact fun hzero => absurd hzero hbusy.edited
  · rintro _ ⟨⟩
    exact h.carries loop hsaving
  · rintro _ row ⟨⟩ hphase
    exact hserved row hphase
  · exact fun hstatus => absurd hstatus hbusy.unsaved

/-- Where the stored revision is the request's, all that was given up is left behind. -/
theorem Saves.patchServed (h : Saves system) (hknown : Known system) {loop : SaveLoop}
    (hsaving : system.preferences.saving = some loop)
    (hcurrent : loop.request.revision = system.row.revision) :
    Saves ((system.serve loop.request).setPhase loop
      (.answered false (system.serve loop.request).row)) := by
  have hsaves := h.serve loop.request
  have hwrite : system.serve loop.request =
      system.write loop.request.volumePercent loop.request.muted (.own loop.request) :=
    if_pos hcurrent
  rw [hwrite] at hsaves ⊢
  refine hsaves.setPhase hsaving ?_
  rintro row ⟨⟩
  exact ⟨List.mem_append_right _ (List.mem_singleton_self _),
    fun request hmem => Nat.lt_succ_of_le (hknown.gaveUp request hmem)⟩

theorem Saves.saveAnswered (h : Saves system) {loop : SaveLoop}
    (hsaving : system.preferences.saving = some loop) {conflict : Bool}
    {row : StoredAudioPreferences} (hphase : loop.phase = .answered conflict row) :
    Saves (system.withPreferences
      (system.preferences.saveAnswered loop.conflicts conflict (system.answer row))) := by
  obtain ⟨hbusy, hrevision⟩ := h.busy hsaving
  obtain ⟨revision, hsome⟩ := Option.ne_none_iff_exists'.1 hrevision
  have haccount := h.ofAccount hrevision
  have hbusy' : ∀ dirty, Busy { system.preferences with revision := some row.revision, dirty } :=
    fun dirty => ⟨hbusy.edited, hbusy.unsaved, hbusy.idle⟩
  unfold RideAudioPreferences.saveAnswered
  split
  · exact saves_failed hbusy hsome haccount system.abandoned
  · split
    · exact saves_failed hbusy hsome haccount system.abandoned
    · dsimp only
      split
      · split
        · exact saves_failed (hbusy' system.preferences.dirty) rfl haccount system.abandoned
        · exact saves_send (hbusy' true) rfl haccount rfl _
      · next hconflict =>
        obtain rfl : conflict = false := Bool.eq_false_iff.2 hconflict
        by_cases hdirty : system.preferences.dirty = true
        · exact saves_send (hbusy' system.preferences.dirty) rfl haccount hdirty _
        · obtain ⟨hown, hbehind⟩ := h.served loop row hsaving hphase
          exact saves_finish (hbusy' system.preferences.dirty) rfl haccount
            (Bool.eq_false_iff.2 hdirty)
            ⟨loop.request, hown, (h.carries loop hsaving).resolve_left hdirty⟩ hbehind _

theorem Saves.saveFails (h : Saves system) {loop : SaveLoop}
    (hsaving : system.preferences.saving = some loop) :
    Saves { system.withPreferences system.preferences.saveFailed with
      abandoned := if loop.phase = .sent then system.abandoned ++ [loop.request]
        else system.abandoned } := by
  obtain ⟨hbusy, hrevision⟩ := h.busy hsaving
  obtain ⟨revision, hsome⟩ := Option.ne_none_iff_exists'.1 hrevision
  exact saves_failed hbusy hsome (h.ofAccount hrevision) _

/-- Fewer requests are left to be served. -/
theorem Saves.abandon (h : Saves system) {abandoned : List PatchRequest}
    (hsub : ∀ request ∈ abandoned, request ∈ system.abandoned) :
    Saves { system with abandoned } := by
  refine { h with served := ?_, settled := ?_ }
  · intro loop row hsaving hphase
    obtain ⟨hown, hbehind⟩ := h.served loop row hsaving hphase
    exact ⟨hown, fun request hmem => hbehind request (hsub request hmem)⟩
  · intro hstatus
    rcases h.settled hstatus with hzero | ⟨hclean, hsaving, hown, hbehind⟩
    · exact .inl hzero
    · exact .inr ⟨hclean, hsaving, hown, fun request hmem => hbehind request (hsub request hmem)⟩

theorem Saves.step (h : Saves system) (hknown : Known system) {event : AudioEvent}
    (hstep : LoadedOnce system event after) : Saves after := by
  obtain ⟨hload, hstep⟩ := hstep
  cases event with
  | load =>
    cases hstep
    exact h.load (hload rfl)
  | update value =>
    cases hstep
    exact h.update value
  | timer =>
    simp only [AudioSystem.step] at hstep
    split at hstep
    · cases hstep
      exact h.timerFires
    · cases hstep
  | flush =>
    cases hstep
    exact h.flush
  | close =>
    cases hstep
    exact { h.close with }
  | loadServed =>
    simp only [AudioSystem.step] at hstep
    split at hstep
    · next hloading =>
      cases hstep
      exact h.loadServed hloading
    · cases hstep
  | loadAnswered =>
    simp only [AudioSystem.step] at hstep
    split at hstep
    · next hloading =>
      cases hstep
      exact h.loadAnswered hloading
    · cases hstep
  | loadFails =>
    simp only [AudioSystem.step] at hstep
    split at hstep
    · cases hstep
      exact h.loadFailed
    · cases hstep
  | patchServed =>
    simp only [AudioSystem.step] at hstep
    split at hstep
    · next loop hsaving =>
      split_ifs at hstep with hphase hcurrent
      · cases hstep
        exact h.patchServed hknown hsaving hcurrent
      · cases hstep
        exact h.setPhase hsaving (fun _ heq => by cases heq)
    · cases hstep
  | conflictRead =>
    simp only [AudioSystem.step] at hstep
    split at hstep
    · next loop hsaving =>
      split at hstep
      · cases hstep
        exact h.setPhase hsaving (fun _ heq => by cases heq)
      · cases hstep
    · cases hstep
  | saveAnswered =>
    simp only [AudioSystem.step] at hstep
    split at hstep
    · next loop hsaving =>
      split at hstep
      · next conflict row hphase =>
        cases hstep
        exact h.saveAnswered hsaving hphase
      · cases hstep
    · cases hstep
  | saveFails =>
    simp only [AudioSystem.step] at hstep
    split at hstep
    · next loop hsaving =>
      cases hstep
      exact h.saveFails hsaving
    · cases hstep
  | abandonedServed index =>
    obtain ⟨request, -, rfl⟩ := Option.map_eq_some_iff.1 hstep
    refine (h.serve request).abandon fun request' hmem => ?_
    rw [abandoned_serve]
    exact List.mem_of_mem_eraseIdx hmem
  | otherWrite volumePercent muted =>
    cases hstep
    exact h.write volumePercent muted .other

/-! ## After the report -/

/-- An instance past an update: the request that it waits for is not of an earlier one. -/
structure Past (edit : Nat) (preferences : RideAudioPreferences) : Prop where
  counted : edit ≤ preferences.edits
  waits : ∀ loop, preferences.saving = some loop → edit ≤ loop.request.edit

section Past

variable {edit : Nat} {preferences : RideAudioPreferences}

theorem Past.report (h : Past edit preferences) (status : AudioSaveStatus) :
    Past edit (preferences.report status) := by
  rcases preferences.report_cases status with heq | heq
  · rw [heq]
    exact h
  · rw [heq]
    exact ⟨h.counted, h.waits⟩

theorem Past.ended (h : Past edit preferences) : Past edit { preferences with saving := none } := by
  refine ⟨h.counted, ?_⟩
  intro _ hsaving
  cases hsaving

theorem Past.saveNext (h : Past edit preferences) (conflicts : Nat) :
    Past edit (preferences.saveNext conflicts) := by
  unfold RideAudioPreferences.saveNext
  split
  · refine ⟨h.counted, ?_⟩
    rintro _ ⟨⟩
    exact h.counted
  · exact (h.report .saved).ended

theorem Past.saveFailed (h : Past edit preferences) : Past edit preferences.saveFailed := by
  have hdirty : Past edit { preferences with dirty := true } := ⟨h.counted, h.waits⟩
  exact (hdirty.report .notSaved).ended

theorem Past.flush (h : Past edit preferences) : Past edit preferences.flush := by
  have htimer : Past edit { preferences with timer := false } := ⟨h.counted, h.waits⟩
  unfold RideAudioPreferences.flush
  dsimp only
  split
  · exact htimer.saveNext 0
  · exact htimer

theorem Past.load (h : Past edit preferences) : Past edit preferences.load := by
  unfold RideAudioPreferences.load
  split
  · exact h
  · exact ⟨h.counted, h.waits⟩

theorem Past.timerFires (h : Past edit preferences) : Past edit preferences.timerFires := by
  have htimer : Past edit { preferences with timer := false } := ⟨h.counted, h.waits⟩
  unfold RideAudioPreferences.timerFires
  dsimp only
  split
  · exact htimer.load
  · exact htimer.flush

theorem Past.update (h : Past edit preferences) (value : PlaybackPreferences) :
    Past edit (preferences.update value) := by
  unfold RideAudioPreferences.update
  split
  · exact h
  · next hopen =>
    simp only [Bool.or_eq_true, not_or, Bool.not_eq_true] at hopen
    simp only [RideAudioPreferences.report, hopen.1, Bool.false_eq_true, if_false]
    exact ⟨Nat.le_succ_of_le h.counted, h.waits⟩

theorem Past.loadFailed (h : Past edit preferences) : Past edit preferences.loadFailed :=
  ⟨(h.report .notSaved).counted, (h.report .notSaved).waits⟩

theorem Past.loadAnswered (h : Past edit preferences) (loaded : AudioPreferences) :
    Past edit (preferences.loadAnswered loaded) := by
  rcases preferences.loadAnswered_cases loaded with heq | ⟨_, _, _, known, hloaded, -, heq⟩
  · rw [heq]
    exact h.loadFailed
  · have hknown : Past edit known := by
      rw [hloaded]
      exact ⟨h.counted, h.waits⟩
    rcases heq with heq | heq
    · rw [heq]
      exact hknown.flush
    · rw [heq]
      exact hknown.report .saved

theorem Past.saveAnswered (h : Past edit preferences) (conflicts : Nat) (conflict : Bool)
    (answer : AudioPreferences) :
    Past edit (preferences.saveAnswered conflicts conflict answer) := by
  have hknown : ∀ dirty,
      Past edit { preferences with revision := some answer.revision, dirty } :=
    fun _ => ⟨h.counted, h.waits⟩
  unfold RideAudioPreferences.saveAnswered
  split
  · exact h.saveFailed
  · split
    · exact h.saveFailed
    · dsimp only
      split
      · split
        · exact (hknown preferences.dirty).saveFailed
        · exact (hknown true).saveNext _
      · exact (hknown preferences.dirty).saveNext _

end Past

/-- What is still to be served of the updates before the `edit`th is left behind. -/
structure Behind (edit : Nat) (system : AudioSystem) : Prop where
  past : Past edit system.preferences
  gaveUp : ∀ request ∈ system.abandoned, request.edit < edit →
    request.revision < system.row.revision

/-- The writes of a step carry no edit from before. -/
def Newer (edit : Nat) (writes after : List AudioWrite) : Prop :=
  ∃ more, after = writes ++ more ∧ ∀ request, .own request ∈ more → edit ≤ request.edit

theorem Newer.refl (edit : Nat) (writes : List AudioWrite) : Newer edit writes writes :=
  ⟨[], (List.append_nil _).symm, fun _ hmem => by cases hmem⟩

theorem Newer.trans {edit : Nat} {writes mid last : List AudioWrite} (h : Newer edit writes mid)
    (h' : Newer edit mid last) : Newer edit writes last := by
  obtain ⟨more, rfl, hmore⟩ := h
  obtain ⟨more', rfl, hmore'⟩ := h'
  refine ⟨more ++ more', List.append_assoc _ _ _, fun request hmem => ?_⟩
  rcases List.mem_append.1 hmem with hmem | hmem
  · exact hmore request hmem
  · exact hmore' request hmem

theorem Behind.write {edit : Nat} (h : Behind edit system) (volumePercent : Number) (muted : Bool)
    {write : AudioWrite} (hnew : ∀ request, write = .own request → edit ≤ request.edit) :
    Behind edit (system.write volumePercent muted write) ∧
      Newer edit system.writes (system.write volumePercent muted write).writes := by
  refine ⟨⟨h.past, fun request hmem hedit => Nat.lt_succ_of_lt (h.gaveUp request hmem hedit)⟩,
    [write], rfl, fun request hmem => ?_⟩
  exact hnew request (List.mem_singleton.1 hmem).symm

/-- Serving a request that is not left behind. -/
theorem Behind.serve {edit : Nat} (h : Behind edit system) {request : PatchRequest}
    (hrequest : request.edit < edit → request.revision < system.row.revision) :
    Behind edit (system.serve request) ∧
      Newer edit system.writes (system.serve request).writes := by
  unfold AudioSystem.serve
  split
  · next hcurrent =>
    refine h.write _ _ ?_
    rintro _ ⟨⟩
    by_contra hedit
    exact absurd (hrequest (not_le.1 hedit)) (by omega)
  · exact ⟨h, .refl _ _⟩

theorem Behind.withPreferences {edit : Nat} (h : Behind edit system)
    {preferences : RideAudioPreferences} (hpast : Past edit preferences) :
    Behind edit (system.withPreferences preferences) :=
  ⟨hpast, h.gaveUp⟩

theorem Behind.setPhase {edit : Nat} (h : Behind edit system) {loop : SaveLoop}
    (hsaving : system.preferences.saving = some loop) (phase : PatchPhase) :
    Behind edit (system.setPhase loop phase) := by
  refine ⟨⟨h.past.counted, ?_⟩, h.gaveUp⟩
  rintro _ ⟨⟩
  exact h.past.waits loop hsaving

theorem Behind.step {edit : Nat} (h : Behind edit system) {event : AudioEvent}
    (hstep : system.step event = some after) :
    Behind edit after ∧ Newer edit system.writes after.writes := by
  cases event with
  | load =>
    cases hstep
    exact ⟨h.withPreferences h.past.load, .refl _ _⟩
  | update value =>
    cases hstep
    exact ⟨h.withPreferences (h.past.update value), .refl _ _⟩
  | timer =>
    simp only [AudioSystem.step] at hstep
    split at hstep
    · cases hstep
      exact ⟨h.withPreferences h.past.timerFires, .refl _ _⟩
    · cases hstep
  | flush =>
    cases hstep
    exact ⟨h.withPreferences h.past.flush, .refl _ _⟩
  | close =>
    cases hstep
    have hclosed : Past edit { system.preferences with closed := true } :=
      ⟨h.past.counted, h.past.waits⟩
    exact ⟨⟨hclosed.flush, h.gaveUp⟩, .refl _ _⟩
  | loadServed =>
    simp only [AudioSystem.step] at hstep
    split at hstep
    · cases hstep
      exact ⟨h.withPreferences ⟨h.past.counted, h.past.waits⟩, .refl _ _⟩
    · cases hstep
  | loadAnswered =>
    simp only [AudioSystem.step] at hstep
    split at hstep
    · cases hstep
      exact ⟨h.withPreferences (h.past.loadAnswered _), .refl _ _⟩
    · cases hstep
  | loadFails =>
    simp only [AudioSystem.step] at hstep
    split at hstep
    · cases hstep
      exact ⟨h.withPreferences h.past.loadFailed, .refl _ _⟩
    · cases hstep
  | patchServed =>
    simp only [AudioSystem.step] at hstep
    split at hstep
    · next loop hsaving =>
      split_ifs at hstep with hphase hcurrent
      · cases hstep
        have hserved := h.serve fun hedit => absurd (h.past.waits loop hsaving) (not_le.2 hedit)
        refine ⟨hserved.1.setPhase ?_ _, hserved.2⟩
        rw [preferences_serve]
        exact hsaving
      · cases hstep
        exact ⟨h.setPhase hsaving _, .refl _ _⟩
    · cases hstep
  | conflictRead =>
    simp only [AudioSystem.step] at hstep
    split at hstep
    · next loop hsaving =>
      split at hstep
      · cases hstep
        exact ⟨h.setPhase hsaving _, .refl _ _⟩
      · cases hstep
    · cases hstep
  | saveAnswered =>
    simp only [AudioSystem.step] at hstep
    split at hstep
    · next loop hsaving =>
      split at hstep
      · cases hstep
        exact ⟨h.withPreferences (h.past.saveAnswered _ _ _), .refl _ _⟩
      · cases hstep
    · cases hstep
  | saveFails =>
    simp only [AudioSystem.step] at hstep
    split at hstep
    · next loop hsaving =>
      cases hstep
      refine ⟨⟨h.past.saveFailed, fun request hmem hedit => ?_⟩, .refl _ _⟩
      split at hmem
      · rcases List.mem_append.1 hmem with hmem | hmem
        · exact h.gaveUp request hmem hedit
        · rw [List.mem_singleton.1 hmem] at hedit
          exact absurd (h.past.waits loop hsaving) (not_le.2 hedit)
      · exact h.gaveUp request hmem hedit
    · cases hstep
  | abandonedServed index =>
    obtain ⟨request, hindex, rfl⟩ := Option.map_eq_some_iff.1 hstep
    have hserved := h.serve (h.gaveUp request (List.mem_of_getElem? hindex))
    refine ⟨⟨hserved.1.past, fun request' hmem => ?_⟩, hserved.2⟩
    refine hserved.1.gaveUp request' ?_
    rw [abandoned_serve]
    exact List.mem_of_mem_eraseIdx hmem
  | otherWrite volumePercent muted =>
    cases hstep
    exact h.write volumePercent muted (fun _ heq => by cases heq)

theorem Behind.run {edit : Nat} (h : Behind edit system) {events : List AudioEvent}
    (hrun : Run LoadedOnce system events after) : Newer edit system.writes after.writes := by
  have hall : Behind edit after ∧ Newer edit system.writes after.writes := by
    refine hrun.invariant (I := fun reached =>
      Behind edit reached ∧ Newer edit system.writes reached.writes) ⟨h, .refl _ _⟩ ?_
    rintro reached next event ⟨hbehind, hnewer⟩ ⟨-, hstep⟩
    obtain ⟨hbehind', hnewer'⟩ := hbehind.step hstep
    exact ⟨hbehind', hnewer.trans hnewer'⟩
  exact hall.2

/-- **Main result.** When the status is `saved`, the server has applied a request with the last
edit, if there is one, and whatever happens next it applies none with an older edit. -/
theorem saved_settles {account : String} {row : StoredAudioPreferences}
    {events later : List AudioEvent} (h : Run LoadedOnce (start account row) events system)
    (hsaved : system.preferences.status = some .saved)
    (hlater : Run LoadedOnce system later after) :
    (0 < system.preferences.edits →
      ∃ request, .own request ∈ system.writes ∧ Carries system.preferences request) ∧
    Newer system.preferences.edits system.writes after.writes := by
  have hsaves : Known system ∧ Saves system := by
    refine h.invariant (I := fun reached => Known reached ∧ Saves reached)
      ⟨known_start account row, saves_start account row⟩ ?_
    rintro reached next event ⟨hknown, hbefore⟩ hstep
    exact ⟨hknown.step hstep.2, hbefore.step hknown hstep⟩
  have hsettled := hsaves.2.settled hsaved
  refine ⟨fun hedits => ?_, ?_⟩
  · obtain ⟨-, -, hown, -⟩ := hsettled.resolve_left (by omega)
    exact hown
  · refine Behind.run ⟨⟨le_rfl, ?_⟩, ?_⟩ hlater
    · intro loop hsaving
      rcases hsettled with hzero | ⟨-, hnone, -⟩
      · rw [(hsaves.2.untouched hzero).2] at hsaving
        cases hsaving
      · rw [hnone] at hsaving
        cases hsaving
    · intro request hmem hedit
      rcases hsettled with hzero | ⟨-, -, -, hbehind⟩
      · omega
      · exact hbehind request hmem

end Saves

theorem run_loadedOnce {system after : AudioSystem} {events : List AudioEvent}
    (h : Run (StepOf step) system events after) (hloads : .load ∉ events) :
    Run LoadedOnce system events after := by
  induction h with
  | nil => exact .nil
  | snoc _ hstep ih =>
    rw [List.mem_append, not_or] at hloads
    refine (ih hloads.1).snoc ⟨?_, hstep⟩
    rintro rfl
    exact absurd (List.mem_singleton_self _) hloads.2

/-- The first request is given up, and reaches the server after the flush. -/
def savedOnFlush : List AudioEvent :=
  [.loadServed, .loadAnswered, .update { volume := .ofInt 1, muted := false }, .timer, .saveFails,
    .flush, .patchServed, .saveAnswered]

theorem savedOnFlush_settles :
    ∃ loading system after, Run LoadedOnce (start "ada" ⟨.ofInt 50, true, 3⟩) [.load] loading ∧
      Run LoadedOnce loading savedOnFlush system ∧
      Run LoadedOnce system [.abandonedServed 0] after ∧ system.abandoned ≠ [] ∧
      (∃ request, .own request ∈ system.writes ∧ Carries system.preferences request) ∧
      Newer 1 system.writes after.writes := by
  obtain ⟨loading, hload⟩ : ∃ loading,
      (start "ada" ⟨.ofInt 50, true, 3⟩).step .load = some loading := ⟨_, rfl⟩
  have hloading : Run LoadedOnce (start "ada" ⟨.ofInt 50, true, 3⟩) [.load] loading :=
    .cons ⟨fun _ => rfl, hload⟩ .nil
  have hall : (((start "ada" ⟨.ofInt 50, true, 3⟩).step .load).bind fun loading =>
      runList step loading savedOnFlush).any (fun system =>
        decide (system.preferences.status = some .saved ∧ system.preferences.edits = 1 ∧
          system.abandoned ≠ []) && (system.step (.abandonedServed 0)).isSome) = true := by
    decide +kernel
  rw [hload, Option.bind_some, Option.any_eq_true] at hall
  obtain ⟨system, hrun, hend⟩ := hall
  rw [Bool.and_eq_true, decide_eq_true_eq, Option.isSome_iff_exists] at hend
  obtain ⟨⟨hsaved, hedits, hgaveUp⟩, after, hserved⟩ := hend
  have hsystem : Run LoadedOnce loading savedOnFlush system :=
    run_loadedOnce (run_of_runList hrun) (by simp [savedOnFlush])
  have hafter : Run LoadedOnce system [.abandonedServed 0] after := .cons ⟨nofun, hserved⟩ .nil
  obtain ⟨hown, hnewer⟩ := saved_settles (hloading.append hsystem) hsaved hafter
  rw [hedits] at hown hnewer
  exact ⟨loading, system, after, hloading, hsystem, hafter, hgaveUp, hown Nat.one_pos, hnewer⟩

end AudioSystem

end RcOnline.Web
