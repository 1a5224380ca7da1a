import RcOnline.Web.AudioRevisions

/-!
# A closed audio screen

What a closed screen may still write. Once another client has written since the close, a request
that was sent before has an older revision and is refused, and the save loop gives up on the
conflict (`Departed.step`). Only a flush of a revision that came with a later response writes over
that choice; a run without one keeps the choice (`keepsNewer_run`).
-/

namespace RcOnline.Web

open RcOnline.Lib

namespace AudioSystem

/-- After a write of another client there are only writes of other clients. -/
def KeepsNewer (writes : List AudioWrite) : Prop :=
  Each (fun before write => .other ∈ before → write = .other) writes

/-- The next flush of a closed screen sends its edit. -/
def Unsaved (preferences : RideAudioPreferences) : Prop :=
  preferences.closed = true ∧ preferences.dirty = true ∧ preferences.saving = none

instance (preferences : RideAudioPreferences) : Decidable (Unsaved preferences) :=
  inferInstanceAs (Decidable (_ ∧ _ ∧ _))

/-- The revision that an event flushes with: a load brings it, and a call finds it known. -/
def flushRevision (system : AudioSystem) : AudioEvent → Option Nat
  | .loadAnswered =>
    match system.preferences.loading with
    | some (.answered row) => some row.revision
    | _ => none
  | .flush => system.preferences.revision
  | .close => system.preferences.revision
  | _ => none

/-- The edit of a closed screen is not flushed with the revision of another client's write since
the close, or with a later one. -/
def InTime (system : AudioSystem) (event : AudioEvent) : Prop :=
  Unsaved system.preferences →
    ∀ newer ∈ system.newer, ∀ revision ∈ flushRevision system event, revision < newer

instance (system : AudioSystem) (event : AudioEvent) : Decidable (InTime system event) :=
  inferInstanceAs (Decidable (_ → _))

/-- A step whose flush, if there is one, is in time. -/
def timelyStep (system : AudioSystem) (event : AudioEvent) : Option AudioSystem :=
  if InTime system event then system.step event else none

/-- The save loop of an instance is older than a revision. -/
structure Older (newer : Nat) (preferences : RideAudioPreferences) : Prop where
  waits : ∀ loop, preferences.saving = some loop → loop.request.revision < newer
  applied : ∀ loop row, preferences.saving = some loop → loop.phase = .answered false row →
    row.revision < newer

/-- What holds once another client has written since the close. -/
structure Overtaken (newer : Nat) (system : AudioSystem) : Prop where
  closed : system.preferences.closed = true
  older : Older newer system.preferences
  gaveUp : ∀ request ∈ system.abandoned, request.revision < newer
  stored : newer ≤ system.row.revision

structure Departed (system : AudioSystem) : Prop where
  known : Known system
  closed : system.sinceClose.isSome → system.preferences.closed = true
  /-- The close clears the timer, and no update sets it again. -/
  timer : system.preferences.closed = true → system.preferences.timer = false
  keepsNewer : ∀ writes, system.sinceClose = some writes → KeepsNewer writes
  unseen : system.newer = none → ∀ writes, system.sinceClose = some writes → .other ∉ writes
  overtaken : ∀ newer, system.newer = some newer → Overtaken newer system

variable {system after : AudioSystem}

theorem departed_start (account : String) (row : StoredAudioPreferences) :
    Departed (start account row) := by
  refine ⟨known_start account row, ?_, ?_, ?_, ?_, ?_⟩ <;>
    simp [start, RideAudioPreferences.new]

end AudioSystem

/-! ## The functions of a closed instance -/

namespace RideAudioPreferences

variable (preferences : RideAudioPreferences)

@[simp] theorem closed_saveNext (conflicts : Nat) :
    (preferences.saveNext conflicts).closed = preferences.closed := by
  unfold saveNext
  split
  · rfl
  · exact preferences.closed_report .saved

@[simp] theorem timer_saveNext (conflicts : Nat) :
    (preferences.saveNext conflicts).timer = preferences.timer := by
  unfold saveNext
  split
  · rfl
  · exact preferences.timer_report .saved

@[simp] theorem closed_saveFailed : preferences.saveFailed.closed = preferences.closed :=
  closed_report _ _

@[simp] theorem timer_saveFailed : preferences.saveFailed.timer = preferences.timer :=
  timer_report _ _

@[simp] theorem closed_flush : preferences.flush.closed = preferences.closed := by
  unfold flush
  dsimp only
  split
  · exact closed_saveNext _ _
  · rfl

@[simp] theorem timer_flush : preferences.flush.timer = false := by
  unfold flush
  dsimp only
  split
  · exact timer_saveNext _ _
  · rfl

@[simp] theorem closed_load : preferences.load.closed = preferences.closed := by
  unfold load
  split <;> rfl

@[simp] theorem timer_load : preferences.load.timer = preferences.timer := by
  unfold load
  split <;> rfl

@[simp] theorem closed_timerFires : preferences.timerFires.closed = preferences.closed := by
  unfold timerFires
  dsimp only
  split <;> simp

/-- A closed instance takes no update. -/
theorem update_of_closed (hclosed : preferences.closed = true) (value : PlaybackPreferences) :
    preferences.update value = preferences :=
  if_pos (by simp [hclosed])

@[simp] theorem closed_loadFailed : preferences.loadFailed.closed = preferences.closed :=
  closed_report _ _

@[simp] theorem timer_loadFailed : preferences.loadFailed.timer = preferences.timer :=
  timer_report _ _

@[simp] theorem closed_loadAnswered (loaded : AudioPreferences) :
    (preferences.loadAnswered loaded).closed = preferences.closed := by
  rcases preferences.loadAnswered_cases loaded with heq | ⟨_, _, _, known, rfl, -, heq⟩
  · simp [heq]
  · rcases heq with heq | heq <;> simp [heq]

theorem timer_loadAnswered (loaded : AudioPreferences) (htimer : preferences.timer = false) :
    (preferences.loadAnswered loaded).timer = false := by
  rcases preferences.loadAnswered_cases loaded with heq | ⟨_, _, _, known, rfl, -, heq⟩
  · simp [heq, htimer]
  · rcases heq with heq | heq <;> simp [heq, htimer]

@[simp] theorem closed_saveAnswered (conflicts : Nat) (conflict : Bool)
    (answer : AudioPreferences) :
    (preferences.saveAnswered conflicts conflict answer).closed = preferences.closed := by
  unfold saveAnswered
  dsimp only
  split_ifs <;> simp

@[simp] theorem timer_saveAnswered (conflicts : Nat) (conflict : Bool)
    (answer : AudioPreferences) :
    (preferences.saveAnswered conflicts conflict answer).timer = preferences.timer := by
  unfold saveAnswered
  dsimp only
  split_ifs <;> simp

end RideAudioPreferences

namespace AudioSystem

section Older

variable {newer : Nat} {preferences : RideAudioPreferences}

theorem Older.of_saving (h : Older newer preferences) {other : RideAudioPreferences}
    (hsaving : other.saving = preferences.saving) : Older newer other := by
  refine ⟨?_, ?_⟩
  · rw [hsaving]
    exact h.waits
  · rw [hsaving]
    exact h.applied

theorem older_of_idle (hsaving : preferences.saving = none) : Older newer preferences := by
  refine ⟨?_, ?_⟩
  · rw [hsaving]
    intro _ hsome
    cases hsome
  · rw [hsaving]
    intro _ _ hsome
    cases hsome

theorem older_saveFailed : Older newer preferences.saveFailed := older_of_idle rfl

/-- A request has the revision that is known. -/
theorem older_saveNext (conflicts : Nat)
    (hrevision : ∀ revision, preferences.revision = some revision → revision < newer) :
    Older newer (preferences.saveNext conflicts) := by
  unfold RideAudioPreferences.saveNext
  split
  · next revision accountId _ hknown _ =>
    refine ⟨?_, ?_⟩
    · rintro _ ⟨⟩
      exact hrevision revision hknown
    · rintro _ _ ⟨⟩ hphase
      cases hphase
  · exact older_of_idle rfl

theorem Older.flush (h : Older newer preferences)
    (hrevision : preferences.dirty = true → preferences.saving = none →
      ∀ revision, preferences.revision = some revision → revision < newer) :
    Older newer preferences.flush := by
  unfold RideAudioPreferences.flush
  dsimp only
  split
  · next hready =>
    simp only [Bool.and_eq_true, Option.isNone_iff_eq_none] at hready
    exact older_saveNext 0 (hrevision hready.1.1 hready.2)
  · exact h.of_saving rfl

theorem Older.loadAnswered (h : Older newer preferences) {loaded : AudioPreferences}
    (hrevision : preferences.dirty = true → preferences.saving = none →
      loaded.revision < newer) : Older newer (preferences.loadAnswered loaded) := by
  rcases preferences.loadAnswered_cases loaded with
    heq | ⟨_, _, dirty, known, hknown, hdirty, heq⟩
  · rw [heq]
    exact h.of_saving (preferences.saving_report .notSaved)
  · have hsame : known.saving = preferences.saving := by rw [hknown]
    rcases heq with heq | heq
    · rw [heq]
      refine (h.of_saving hsame).flush fun hunsaved hidle => ?_
      rw [hknown] at hunsaved hidle ⊢
      rintro _ ⟨⟩
      exact hrevision (hdirty hunsaved) hidle
    · rw [heq]
      exact h.of_saving ((known.saving_report .saved).trans hsame)

/-- A closed instance does not send again after a conflict. -/
theorem older_saveAnswered (hclosed : preferences.closed = true) (conflicts : Nat)
    (conflict : Bool) {answer : AudioPreferences}
    (happlied : conflict = false → answer.revision < newer) :
    Older newer (preferences.saveAnswered conflicts conflict answer) := by
  unfold RideAudioPreferences.saveAnswered
  split
  · exact older_saveFailed
  · split
    · exact older_saveFailed
    · simp only [hclosed, Bool.true_or, if_true]
      split
      · exact older_saveFailed
      · next hconflict =>
        refine older_saveNext _ ?_
        rintro _ ⟨⟩
        exact happlied (Bool.eq_false_iff.2 hconflict)

end Older

/-! ## Steps -/

variable {system after : AudioSystem}

theorem Departed.withPreferences (h : Departed system) {preferences : RideAudioPreferences}
    (hknown : UpTo system.row.revision preferences)
    (hclosed : preferences.closed = system.preferences.closed)
    (htimer : system.preferences.closed = true → preferences.timer = false)
    (holder : ∀ newer, system.newer = some newer → Older newer preferences) :
    Departed (system.withPreferences preferences) where
  known := h.known.withPreferences hknown
  closed := fun hsince => hclosed.trans (h.closed hsince)
  timer := fun hshut => htimer (hclosed.symm.trans hshut)
  keepsNewer := h.keepsNewer
  unseen := h.unseen
  overtaken := fun newer hnewer => by
    obtain ⟨hshut, -, hgaveUp, hstored⟩ := h.overtaken newer hnewer
    exact ⟨hclosed.trans hshut, holder newer hnewer, hgaveUp, hstored⟩

/-- A write that is not the screen's, or is before any of another client. -/
theorem Departed.write (h : Departed system) (volumePercent : Number) (muted : Bool)
    {write : AudioWrite} (hwrite : write = .other ∨ system.newer = none) :
    Departed (system.write volumePercent muted write) := by
  refine ⟨h.known.write _ _ _, fun hsince => h.closed (by simpa [AudioSystem.write] using hsince),
    h.timer, ?_, ?_, ?_⟩
  · intro writes hwrites
    obtain ⟨before, hbefore, rfl⟩ := Option.map_eq_some_iff.1 hwrites
    refine (h.keepsNewer before hbefore).snoc fun hother => ?_
    exact hwrite.resolve_right fun hnone => h.unseen hnone before hbefore hother
  · intro hnone writes hwrites hother
    obtain ⟨before, hbefore, rfl⟩ := Option.map_eq_some_iff.1 hwrites
    simp only [AudioSystem.write, hbefore, Option.isSome_some, Bool.true_and] at hnone
    split at hnone
    · simp at hnone
    · next hown =>
      rcases List.mem_append.1 hother with hmem | hmem
      · exact h.unseen hnone before hbefore hmem
      · exact hown (decide_eq_true (List.mem_singleton.1 hmem).symm)
  · intro newer hnewer
    have hkept : ∀ newer, system.newer = some newer →
        Overtaken newer (system.write volumePercent muted write) := by
      intro newer hnewer
      obtain ⟨hclosed, holder, hgaveUp, hstored⟩ := h.overtaken newer hnewer
      exact ⟨hclosed, holder, hgaveUp, Nat.le_succ_of_le hstored⟩
    simp only [AudioSystem.write] at hnewer
    split at hnewer
    · next hother =>
      rw [Bool.and_eq_true] at hother
      rcases Option.or_eq_some_iff.1 hnewer with hsome | ⟨-, hfirst⟩
      · exact hkept newer hsome
      · -- The first write of another client has a revision above all that the screen has seen.
        obtain rfl := Option.some.inj hfirst
        refine ⟨h.closed hother.1, ⟨?_, ?_⟩, ?_, le_rfl⟩
        · exact fun loop hsaving => Nat.lt_succ_of_le (h.known.upTo.waits loop hsaving)
        · exact fun loop row hsaving hphase =>
            Nat.lt_succ_of_le (h.known.upTo.answers loop false row hsaving hphase)
        · exact fun request hmem => Nat.lt_succ_of_le (h.known.gaveUp request hmem)
    · exact hkept newer hnewer

/-- A request from before another client's write is refused. -/
theorem Departed.serve (h : Departed system) {request : PatchRequest}
    (hrequest : ∀ newer, system.newer = some newer → request.revision < newer) :
    Departed (system.serve request) := by
  unfold AudioSystem.serve
  split
  · next hcurrent =>
    refine h.write _ _ (.inr ?_)
    by_contra hnewer
    obtain ⟨newer, hnewer⟩ := Option.ne_none_iff_exists'.1 hnewer
    have hstored := (h.overtaken newer hnewer).stored
    have hlt := hrequest newer hnewer
    omega
  · exact h

theorem newer_serve {request : PatchRequest} {newer : Nat}
    (h : (system.serve request).newer = some newer) : system.newer = some newer := by
  unfold AudioSystem.serve at h
  split at h
  · simpa [AudioSystem.write] using h
  · exact h

/-- The request that is waited for is at another phase. -/
theorem Departed.setPhase (h : Departed system) {loop : SaveLoop}
    (hsaving : system.preferences.saving = some loop) {phase : PatchPhase}
    (hanswers : ∀ conflict row, phase = .answered conflict row →
      row.revision ≤ system.row.revision)
    (happlied : ∀ newer row, system.newer = some newer → phase = .answered false row →
      row.revision < newer) : Departed (system.setPhase loop phase) := by
  refine h.withPreferences (h.known.setPhase hsaving hanswers).upTo rfl h.timer ?_
  intro newer hnewer
  refine ⟨?_, ?_⟩
  · rintro _ ⟨⟩
    exact (h.overtaken newer hnewer).older.waits loop hsaving
  · rintro _ row ⟨⟩ hphase
    exact happlied newer row hnewer hphase

theorem Departed.flush (h : Departed system) (htimely : InTime system .flush) :
    Departed (system.withPreferences system.preferences.flush) := by
  refine h.withPreferences h.known.upTo.flush (by simp) (by simp) fun newer hnewer => ?_
  obtain ⟨hclosed, holder, -, -⟩ := h.overtaken newer hnewer
  exact holder.flush fun hdirty hidle => htimely ⟨hclosed, hdirty, hidle⟩ newer hnewer

/-- A first close comes before all that is counted since. -/
theorem Departed.close (h : Departed system) (htimely : InTime system .close) :
    Departed
      { system.withPreferences system.preferences.close with
        sinceClose := some (system.sinceClose.getD []) } := by
  refine ⟨⟨h.known.upTo.close, h.known.gaveUp⟩, fun _ => ?_, fun _ => ?_, ?_, ?_, ?_⟩
  · exact RideAudioPreferences.closed_flush _
  · exact RideAudioPreferences.timer_flush _
  · rintro _ ⟨⟩
    cases hsince : system.sinceClose with
    | none => exact Each.nil
    | some writes => exact h.keepsNewer writes hsince
  · rintro hnone _ ⟨⟩
    cases hsince : system.sinceClose with
    | none => simp
    | some writes => exact h.unseen hnone writes hsince
  · intro newer hnewer
    obtain ⟨hclosed, holder, hgaveUp, hstored⟩ := h.overtaken newer hnewer
    refine ⟨RideAudioPreferences.closed_flush _, ?_, hgaveUp, hstored⟩
    have holder' : Older newer { system.preferences with closed := true } := holder.of_saving rfl
    exact holder'.flush fun hdirty hidle => htimely ⟨hclosed, hdirty, hidle⟩ newer hnewer

theorem Departed.patchServed (h : Departed system)
    (hstep : system.step .patchServed = some after) : Departed after := by
  simp only [AudioSystem.step] at hstep
  split at hstep
  · next loop hsaving =>
    split_ifs at hstep with hphase hcurrent
    · cases hstep
      have hrequest : ∀ newer, system.newer = some newer → loop.request.revision < newer :=
        fun newer hnewer => (h.overtaken newer hnewer).older.waits loop hsaving
      refine (h.serve hrequest).setPhase ?_ ?_ ?_
      · rw [preferences_serve]
        exact hsaving
      · rintro _ _ ⟨⟩
        exact le_rfl
      · -- A request that is applied is from before any other client's write.
        intro newer _ hnewer
        have hold := newer_serve hnewer
        have hlt := hrequest newer hold
        have hstored := (h.overtaken newer hold).stored
        omega
    · cases hstep
      exact h.setPhase hsaving (fun _ _ heq => by cases heq) (fun _ _ _ heq => by cases heq)
  · cases hstep

theorem Departed.saveAnswered (h : Departed system)
    (hstep : system.step .saveAnswered = some after) : Departed after := by
  have hknown := h.known.step hstep
  simp only [AudioSystem.step] at hstep
  split at hstep
  · next loop hsaving =>
    split at hstep
    · next conflict row hphase =>
      cases hstep
      refine h.withPreferences hknown.upTo (by simp) (fun hclosed => ?_) fun newer hnewer => ?_
      · simpa using h.timer hclosed
      · obtain ⟨hclosed, holder, -, -⟩ := h.overtaken newer hnewer
        refine older_saveAnswered hclosed _ _ ?_
        rintro rfl
        exact holder.applied loop row hsaving hphase
    · cases hstep
  · cases hstep

theorem Departed.saveFails (h : Departed system)
    (hstep : system.step .saveFails = some after) : Departed after := by
  have hknown := h.known.step hstep
  simp only [AudioSystem.step] at hstep
  split at hstep
  · next loop hsaving =>
    cases hstep
    refine ⟨hknown, fun hsince => ?_, fun hclosed => ?_, h.keepsNewer, h.unseen, ?_⟩
    · exact (system.preferences.closed_saveFailed).trans (h.closed hsince)
    · refine (system.preferences.timer_saveFailed).trans (h.timer ?_)
      exact (system.preferences.closed_saveFailed).symm.trans hclosed
    · intro newer hnewer
      obtain ⟨hclosed, holder, hgaveUp, hstored⟩ := h.overtaken newer hnewer
      refine ⟨(system.preferences.closed_saveFailed).trans hclosed, older_saveFailed, ?_, hstored⟩
      intro request hmem
      dsimp only at hmem
      split at hmem
      · rcases List.mem_append.1 hmem with hmem | hmem
        · exact hgaveUp request hmem
        · rw [List.mem_singleton.1 hmem]
          exact holder.waits loop hsaving
      · exact hgaveUp request hmem
  · cases hstep

theorem Departed.abandonedServed (h : Departed system) {index : Nat}
    (hstep : system.step (.abandonedServed index) = some after) : Departed after := by
  have hknown := h.known.step hstep
  obtain ⟨request, hindex, rfl⟩ := Option.map_eq_some_iff.1 hstep
  have hserved : Departed (system.serve request) := h.serve fun newer hnewer =>
    (h.overtaken newer hnewer).gaveUp request (List.mem_of_getElem? hindex)
  refine ⟨hknown, hserved.closed, hserved.timer, hserved.keepsNewer, hserved.unseen, ?_⟩
  intro newer hnewer
  obtain ⟨hclosed, holder, hgaveUp, hstored⟩ := hserved.overtaken newer hnewer
  refine ⟨hclosed, holder, fun request' hmem => hgaveUp request' ?_, hstored⟩
  rw [abandoned_serve]
  exact List.mem_of_mem_eraseIdx hmem

theorem Departed.step (h : Departed system) {event : AudioEvent}
    (htimely : InTime system event) (hstep : system.step event = some after) : Departed after := by
  cases event with
  | load =>
    cases hstep
    refine h.withPreferences h.known.upTo.load (by simp) (fun hclosed => ?_) fun newer hnewer => ?_
    · simpa using h.timer hclosed
    · refine (h.overtaken newer hnewer).older.of_saving ?_
      unfold RideAudioPreferences.load
      split <;> rfl
  | update value =>
    cases hstep
    refine h.withPreferences (h.known.upTo.update value) (by simp) (fun hclosed => ?_)
      fun newer hnewer => ?_
    · rw [system.preferences.update_of_closed hclosed]
      exact h.timer hclosed
    · obtain ⟨hclosed, holder, -, -⟩ := h.overtaken newer hnewer
      rwa [system.preferences.update_of_closed hclosed]
  | timer =>
    simp only [AudioSystem.step] at hstep
    split at hstep
    · next hset =>
      cases hstep
      have hopen : system.preferences.closed ≠ true := by
        intro hclosed
        rw [h.timer hclosed] at hset
        cases hset
      exact h.withPreferences h.known.upTo.timerFires (by simp)
        (fun hclosed => absurd hclosed hopen)
        fun newer hnewer => absurd (h.overtaken newer hnewer).closed hopen
    · cases hstep
  | flush =>
    cases hstep
    exact h.flush htimely
  | close =>
    cases hstep
    exact h.close htimely
  | loadServed =>
    have hknown := h.known.step hstep
    simp only [AudioSystem.step] at hstep
    split at hstep
    · cases hstep
      exact h.withPreferences hknown.upTo rfl h.timer
        fun newer hnewer => (h.overtaken newer hnewer).older.of_saving rfl
    · cases hstep
  | loadAnswered =>
    have hknown := h.known.step hstep
    simp only [AudioSystem.step] at hstep
    split at hstep
    · next row hloading =>
      cases hstep
      refine h.withPreferences hknown.upTo (by simp) (fun hclosed => ?_) fun newer hnewer => ?_
      · exact system.preferences.timer_loadAnswered _ (h.timer hclosed)
      · obtain ⟨hclosed, holder, -, -⟩ := h.overtaken newer hnewer
        exact holder.loadAnswered fun hdirty hidle =>
          htimely ⟨hclosed, hdirty, hidle⟩ newer hnewer row.revision
            (by simp [flushRevision, hloading])
    · cases hstep
  | loadFails =>
    simp only [AudioSystem.step] at hstep
    split at hstep
    · cases hstep
      refine h.withPreferences h.known.upTo.loadFailed (by simp) (fun hclosed => ?_)
        fun newer hnewer => ?_
      · simpa using h.timer hclosed
      · exact (h.overtaken newer hnewer).older.of_saving (system.preferences.saving_report _)
    · cases hstep
  | patchServed => exact h.patchServed hstep
  | conflictRead =>
    simp only [AudioSystem.step] at hstep
    split at hstep
    · next loop hsaving =>
      split at hstep
      · cases hstep
        refine h.setPhase hsaving ?_ (fun _ _ _ heq => by cases heq)
        rintro _ _ ⟨⟩
        exact le_rfl
      · cases hstep
    · cases hstep
  | saveAnswered => exact h.saveAnswered hstep
  | saveFails => exact h.saveFails hstep
  | abandonedServed index => exact h.abandonedServed hstep
  | otherWrite volumePercent muted =>
    cases hstep
    exact h.write volumePercent muted (.inl rfl)

theorem Departed.timelyStep (h : Departed system) {event : AudioEvent}
    (hstep : StepOf timelyStep system event after) : Departed after := by
  unfold StepOf AudioSystem.timelyStep at hstep
  split at hstep
  · next htimely => exact h.step htimely hstep
  · cases hstep

/-- **Main result.** A run whose flushes are in time writes nothing over a newer choice. -/
theorem keepsNewer_run {account : String} {row : StoredAudioPreferences} {events : List AudioEvent}
    (h : Run (StepOf timelyStep) (start account row) events system) {writes : List AudioWrite}
    (hwrites : system.sinceClose = some writes) : KeepsNewer writes := by
  have hdeparted : Departed system :=
    h.invariant (departed_start account row) fun hbefore hstep => hbefore.timelyStep hstep
  exact hdeparted.keepsNewer writes hwrites

/-- The screen is closed while its save is under way, and another client writes first. -/
theorem conflictedAtClose_keepsNewer :
    ∃ system, Run (StepOf timelyStep) (start "ada" ⟨.ofInt 50, true, 3⟩)
        [.load, .loadServed, .loadAnswered, .update { volume := .ofInt 1, muted := false }, .close,
          .otherWrite (.ofInt 20) true, .patchServed, .conflictRead, .saveAnswered] system ∧
      system.preferences.dirty = true ∧
      ∃ writes, system.sinceClose = some writes ∧ .other ∈ writes ∧ KeepsNewer writes := by
  have hall : (runList AudioSystem.timelyStep (start "ada" ⟨.ofInt 50, true, 3⟩)
      [.load, .loadServed, .loadAnswered, .update { volume := .ofInt 1, muted := false }, .close,
        .otherWrite (.ofInt 20) true, .patchServed, .conflictRead, .saveAnswered]).any
      (fun system => decide (system.preferences.dirty = true ∧
        system.sinceClose = some [.other])) = true := by
    decide +kernel
  obtain ⟨system, hrun, hend⟩ := (Option.any_eq_true _ _).1 hall
  obtain ⟨hdirty, hsince⟩ := of_decide_eq_true hend
  have hreached := run_of_runList hrun
  exact ⟨system, hreached, hdirty, _, hsince, List.mem_singleton_self _,
    keepsNewer_run hreached hsince⟩

/-- The first load is answered after the close, and after another client's write: its revision lets
the pending edit through. -/
theorem loadedAfterClose_overwrites :
    ∃ system, Run (StepOf step) (start "ada" ⟨.ofInt 50, true, 3⟩)
        [.load, .update { volume := .ofInt 1, muted := false }, .close,
          .otherWrite (.ofInt 20) true, .loadServed, .loadAnswered, .patchServed] system ∧
      ∃ writes, system.sinceClose = some writes ∧ ¬KeepsNewer writes := by
  have hall : (runList step (start "ada" ⟨.ofInt 50, true, 3⟩)
      [.load, .update { volume := .ofInt 1, muted := false }, .close,
        .otherWrite (.ofInt 20) true, .loadServed, .loadAnswered, .patchServed]).any
      (fun system => decide (system.sinceClose = some
        [.other, .own ⟨⟨⟨.ofInt 100, false, 4⟩, "ada"⟩, 1⟩])) = true := by
    decide +kernel
  obtain ⟨system, hrun, hend⟩ := (Option.any_eq_true _ _).1 hall
  refine ⟨system, run_of_runList hrun, _, of_decide_eq_true hend, fun hkeeps => ?_⟩
  have hother := hkeeps [.other] _ [] rfl (List.mem_singleton_self _)
  cases hother

end AudioSystem

end RcOnline.Web
