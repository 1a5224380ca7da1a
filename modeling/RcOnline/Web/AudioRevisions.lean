import RcOnline.Web.AudioPreferences

/-!
# Revisions of the audio preferences

No revision that the screen knows, waits with or was answered is above the stored one
(`Known.step`), whatever is called in whichever order.
-/

namespace RcOnline.Web

open RcOnline.Lib

/-- The revisions of an instance are up to a bound. -/
structure UpTo (bound : Nat) (preferences : RideAudioPreferences) : Prop where
  known : ∀ revision, preferences.revision = some revision → revision ≤ bound
  waits : ∀ loop, preferences.saving = some loop → loop.request.revision ≤ bound
  answers : ∀ loop conflict row, preferences.saving = some loop →
    loop.phase = .answered conflict row → row.revision ≤ bound
  loads : ∀ row, preferences.loading = some (.answered row) → row.revision ≤ bound

namespace UpTo

variable {bound bound' : Nat} {preferences : RideAudioPreferences}

theorem mono (h : UpTo bound preferences) (hle : bound ≤ bound') :
    UpTo bound' preferences where
  known := fun revision hsome => (h.known revision hsome).trans hle
  waits := fun loop hsaving => (h.waits loop hsaving).trans hle
  answers := fun loop conflict row hsaving hphase =>
    (h.answers loop conflict row hsaving hphase).trans hle
  loads := fun row hloading => (h.loads row hloading).trans hle

/-- The fields that hold no revision. -/
theorem setFlags (h : UpTo bound preferences) (dirty closed timer : Bool) :
    UpTo bound { preferences with dirty, closed, timer } :=
  { h with }

theorem report (h : UpTo bound preferences) (status : AudioSaveStatus) :
    UpTo bound (preferences.report status) := by
  rcases preferences.report_cases status with heq | heq
  · rw [heq]
    exact h
  · rw [heq]
    exact { h with }

theorem idle (h : UpTo bound preferences) :
    UpTo bound { preferences with saving := none } := by
  refine { h with waits := ?_, answers := ?_ }
  · intro _ hsaving
    cases hsaving
  · intro _ _ _ hsaving
    cases hsaving

theorem unload (h : UpTo bound preferences) :
    UpTo bound { preferences with loading := none } := by
  refine { h with loads := ?_ }
  intro _ hloading
  cases hloading

theorem saveNext (h : UpTo bound preferences) (conflicts : Nat) :
    UpTo bound (preferences.saveNext conflicts) := by
  unfold RideAudioPreferences.saveNext
  split
  · next revision accountId _ hrevision _ =>
    refine { h with waits := ?_, answers := ?_ }
    · rintro _ ⟨⟩
      exact h.known revision hrevision
    · rintro _ _ _ ⟨⟩ hphase
      cases hphase
  · exact (h.report .saved).idle

theorem saveFailed (h : UpTo bound preferences) :
    UpTo bound preferences.saveFailed :=
  ((h.setFlags true preferences.closed preferences.timer).report .notSaved).idle

theorem flush (h : UpTo bound preferences) : UpTo bound preferences.flush := by
  have htimer := h.setFlags preferences.dirty preferences.closed false
  unfold RideAudioPreferences.flush
  dsimp only
  split
  · exact htimer.saveNext 0
  · exact htimer

theorem close (h : UpTo bound preferences) : UpTo bound preferences.close :=
  (h.setFlags preferences.dirty true preferences.timer).flush

theorem load (h : UpTo bound preferences) : UpTo bound preferences.load := by
  unfold RideAudioPreferences.load
  split
  · exact h
  · refine { h with loads := ?_ }
    intro _ hloading
    cases hloading

theorem timerFires (h : UpTo bound preferences) :
    UpTo bound preferences.timerFires := by
  have htimer := h.setFlags preferences.dirty preferences.closed false
  unfold RideAudioPreferences.timerFires
  dsimp only
  split
  · exact htimer.load
  · exact htimer.flush

theorem update (h : UpTo bound preferences) (value : PlaybackPreferences) :
    UpTo bound (preferences.update value) := by
  unfold RideAudioPreferences.update
  split
  · exact h
  · have hedited : UpTo bound
        { preferences with
          value :=
            { volume := RideAudioPreferences.hundredth
                (RideAudioPreferences.percent
                  ((Number.ofInt 0).max ((Number.ofInt 1).min value.volume)))
              muted := value.muted }
          edited := true
          dirty := true
          edits := preferences.edits + 1 } := { h with }
    exact { hedited.report .saving with }

theorem loadFailed (h : UpTo bound preferences) :
    UpTo bound preferences.loadFailed :=
  (h.report .notSaved).unload

theorem loadAnswered (h : UpTo bound preferences) {loaded : AudioPreferences}
    (hle : loaded.revision ≤ bound) :
    UpTo bound (preferences.loadAnswered loaded) := by
  rcases preferences.loadAnswered_cases loaded with heq | ⟨_, _, _, known, hloaded, -, heq⟩
  · rw [heq]
    exact h.loadFailed
  · have hknown : UpTo bound known := by
      rw [hloaded]
      refine { h with known := ?_, loads := ?_ }
      · rintro _ ⟨⟩
        exact hle
      · intro _ hloading
        cases hloading
    rcases heq with heq | heq
    · rw [heq]
      exact hknown.flush
    · rw [heq]
      exact hknown.report .saved

theorem saveAnswered (h : UpTo bound preferences) (conflicts : Nat) (conflict : Bool)
    {answer : AudioPreferences} (hle : answer.revision ≤ bound) :
    UpTo bound (preferences.saveAnswered conflicts conflict answer) := by
  unfold RideAudioPreferences.saveAnswered
  split
  · exact h.saveFailed
  · split
    · exact h.saveFailed
    · have hknown : UpTo bound { preferences with revision := some answer.revision } := by
        refine { h with known := ?_ }
        rintro _ ⟨⟩
        exact hle
      dsimp only
      split
      · split
        · exact hknown.saveFailed
        · exact (hknown.setFlags true preferences.closed preferences.timer).saveNext _
      · exact hknown.saveNext _

end UpTo

namespace AudioSystem

/-- No revision of the screen is above the stored one. -/
structure Known (system : AudioSystem) : Prop where
  upTo : UpTo system.row.revision system.preferences
  gaveUp : ∀ request ∈ system.abandoned, request.revision ≤ system.row.revision

variable {system after : AudioSystem}

theorem known_start (account : String) (row : StoredAudioPreferences) :
    Known (start account row) := by
  refine ⟨?_, ?_⟩
  · constructor <;> simp [start, RideAudioPreferences.new]
  · simp [start]

theorem preferences_serve (request : PatchRequest) :
    (system.serve request).preferences = system.preferences := by
  unfold serve
  split <;> rfl

theorem abandoned_serve (request : PatchRequest) :
    (system.serve request).abandoned = system.abandoned := by
  unfold serve
  split <;> rfl

theorem Known.withPreferences (h : Known system) {preferences : RideAudioPreferences}
    (hupTo : UpTo system.row.revision preferences) :
    Known (system.withPreferences preferences) :=
  ⟨hupTo, h.gaveUp⟩

/-- A write raises the stored revision. -/
theorem Known.write (h : Known system) (volumePercent : Number) (muted : Bool)
    (write : AudioWrite) : Known (system.write volumePercent muted write) :=
  ⟨h.upTo.mono (Nat.le_succ _), fun request hmem => Nat.le_succ_of_le (h.gaveUp request hmem)⟩

theorem Known.serve (h : Known system) (request : PatchRequest) : Known (system.serve request) := by
  unfold AudioSystem.serve
  split
  · exact h.write _ _ _
  · exact h

theorem Known.setPhase (h : Known system) {loop : SaveLoop}
    (hsaving : system.preferences.saving = some loop) {phase : PatchPhase}
    (hanswers : ∀ conflict row, phase = .answered conflict row →
      row.revision ≤ system.row.revision) : Known (system.setPhase loop phase) := by
  refine h.withPreferences { h.upTo with waits := ?_, answers := ?_ }
  · rintro _ ⟨⟩
    exact h.upTo.waits loop hsaving
  · rintro _ conflict row ⟨⟩ hphase
    exact hanswers conflict row hphase

theorem Known.abandon (h : Known system) {abandoned : List PatchRequest}
    (hsub : ∀ request ∈ abandoned, request ∈ system.abandoned) :
    Known { system with abandoned } :=
  ⟨h.upTo, fun request hmem => h.gaveUp request (hsub request hmem)⟩

theorem Known.step (h : Known system) {event : AudioEvent}
    (hstep : system.step event = some after) : Known after := by
  cases event with
  | load =>
    cases hstep
    exact h.withPreferences h.upTo.load
  | update value =>
    cases hstep
    exact h.withPreferences (h.upTo.update value)
  | timer =>
    simp only [AudioSystem.step] at hstep
    split at hstep
    · cases hstep
      exact h.withPreferences h.upTo.timerFires
    · cases hstep
  | flush =>
    cases hstep
    exact h.withPreferences h.upTo.flush
  | close =>
    cases hstep
    exact ⟨h.upTo.close, h.gaveUp⟩
  | loadServed =>
    simp only [AudioSystem.step] at hstep
    split at hstep
    · cases hstep
      refine h.withPreferences { h.upTo with loads := ?_ }
      rintro _ ⟨⟩
      exact le_rfl
    · cases hstep
  | loadAnswered =>
    simp only [AudioSystem.step] at hstep
    split at hstep
    · next row hloading =>
      cases hstep
      exact h.withPreferences (h.upTo.loadAnswered (h.upTo.loads row hloading))
    · cases hstep
  | loadFails =>
    simp only [AudioSystem.step] at hstep
    split at hstep
    · cases hstep
      exact h.withPreferences h.upTo.loadFailed
    · cases hstep
  | patchServed =>
    simp only [AudioSystem.step] at hstep
    split at hstep
    · next loop hsaving =>
      split_ifs at hstep with hphase hcurrent
      · cases hstep
        refine (h.serve loop.request).setPhase ?_ ?_
        · rw [preferences_serve]
          exact hsaving
        · rintro _ _ ⟨⟩
          exact le_rfl
      · cases hstep
        exact h.setPhase hsaving (fun _ _ heq => by cases heq)
    · cases hstep
  | conflictRead =>
    simp only [AudioSystem.step] at hstep
    split at hstep
    · next loop hsaving =>
      split at hstep
      · cases hstep
        refine h.setPhase hsaving ?_
        rintro _ _ ⟨⟩
        exact le_rfl
      · cases hstep
    · cases hstep
  | saveAnswered =>
    simp only [AudioSystem.step] at hstep
    split at hstep
    · next loop hsaving =>
      split at hstep
      · next conflict row hphase =>
        cases hstep
        have hanswered := h.upTo.answers loop conflict row hsaving hphase
        exact h.withPreferences (h.upTo.saveAnswered loop.conflicts conflict hanswered)
      · cases hstep
    · cases hstep
  | saveFails =>
    simp only [AudioSystem.step] at hstep
    split at hstep
    · next loop hsaving =>
      cases hstep
      refine ⟨h.upTo.saveFailed, fun request hmem => ?_⟩
      split at hmem
      · rcases List.mem_append.1 hmem with hmem | hmem
        · exact h.gaveUp request hmem
        · rw [List.mem_singleton.1 hmem]
          exact h.upTo.waits loop hsaving
      · exact h.gaveUp request hmem
    · cases hstep
  | abandonedServed index =>
    obtain ⟨request, -, rfl⟩ := Option.map_eq_some_iff.1 hstep
    refine (h.serve request).abandon fun request' hmem => ?_
    rw [abandoned_serve]
    exact List.mem_of_mem_eraseIdx hmem
  | otherWrite volumePercent muted =>
    cases hstep
    exact h.write volumePercent muted .other

end AudioSystem

end RcOnline.Web
