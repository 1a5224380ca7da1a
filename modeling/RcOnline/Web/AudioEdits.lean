import RcOnline.Lib.Rounding
import RcOnline.Web.AudioPreferences

/-!
# Edits of the audio preferences

One instance of `RideAudioPreferences` and whatever the page, its timers and the server do to it, in
any order. Responses are arbitrary here: a load that finishes late, a conflict or an answer to an
older save never changes the value that the driver has set (`edits_kept`).
-/

namespace RcOnline.Web

open RcOnline.Lib

/-- A response: its status and, where it is of the type, its body. -/
structure AudioResponse where
  status : Nat
  preferences : Option AudioPreferences
  deriving DecidableEq

/-- `response.ok`. -/
def AudioResponse.ok (response : AudioResponse) : Bool :=
  200 ≤ response.status && response.status ≤ 299

/-- What happens to an instance. A request that is rejected, times out or whose body cannot be read
fails. -/
inductive AudioCall where
  | load
  | update (value : PlaybackPreferences)
  | timer
  | flush
  | close
  | loadResponds (response : AudioResponse)
  | loadFails
  | saveResponds (response : AudioResponse)
  | saveFails
  deriving DecidableEq

namespace RideAudioPreferences

/-- The rest of `#load` after any response. -/
def loadResponds (preferences : RideAudioPreferences) (response : AudioResponse) :
    RideAudioPreferences :=
  match response.preferences with
  | some loaded => if response.ok then preferences.loadAnswered loaded else preferences.loadFailed
  | none => preferences.loadFailed

/-- The rest of the save loop after any response. -/
def saveResponds (preferences : RideAudioPreferences) (conflicts : Nat)
    (response : AudioResponse) : RideAudioPreferences :=
  match response.preferences with
  | some answer =>
    if response.status = 409 then preferences.saveAnswered conflicts true answer
    else if response.ok then preferences.saveAnswered conflicts false answer
    else preferences.saveFailed
  | none => preferences.saveFailed

/-- None where there is no timer or no request that could do it. -/
def perform (preferences : RideAudioPreferences) : AudioCall → Option RideAudioPreferences
  | .load => some preferences.load
  | .update value => some (preferences.update value)
  | .timer => if preferences.timer then some preferences.timerFires else none
  | .flush => some preferences.flush
  | .close => some preferences.close
  | .loadResponds response =>
    if preferences.loading.isSome then some (preferences.loadResponds response) else none
  | .loadFails => if preferences.loading.isSome then some preferences.loadFailed else none
  | .saveResponds response =>
    preferences.saving.map fun loop => preferences.saveResponds loop.conflicts response
  | .saveFails => preferences.saving.map fun _ => preferences.saveFailed

/-- The value that an accepted update sets: clamped, and in whole percent. -/
def accepted (value : PlaybackPreferences) : PlaybackPreferences where
  volume := hundredth (percent ((Number.ofInt 0).max ((Number.ofInt 1).min value.volume)))
  muted := value.muted

/-- A load's value is taken while nothing has been edited and the screen is open. -/
def takes (preferences : RideAudioPreferences) (loaded : AudioPreferences) : Bool :=
  isAudioPreferences loaded && !preferences.closed &&
    (!preferences.edited || preferences.accountId.any (· ≠ loaded.accountId))

/-- What `onValue` is called with. -/
def shown (preferences : RideAudioPreferences) : AudioCall → Option PlaybackPreferences
  | .update value =>
    if preferences.closed || !isFinite value.volume then none else some (accepted value)
  | .loadResponds response =>
    match response.preferences with
    | some loaded =>
      if response.ok && preferences.takes loaded then
        some { volume := hundredth loaded.volumePercent, muted := loaded.muted }
      else none
    | none => none
  | _ => none

/-- The `PATCH` that a call sends: a response ends the request that was waited for, and other calls
send none while there is one. -/
def sent (preferences : RideAudioPreferences) (call : AudioCall) (after : RideAudioPreferences) :
    Option PatchRequest :=
  match call with
  | .saveResponds _ => after.saving.map (·.request)
  | _ => if preferences.saving.isSome then none else after.saving.map (·.request)

end RideAudioPreferences

/-! ## What the calls say -/

namespace AudioCall

/-- The body of a response. -/
def body? : AudioCall → Option AudioPreferences
  | .loadResponds response => response.preferences
  | .saveResponds response => response.preferences
  | _ => none

/-- An update with a volume that is a number. -/
def edit? : AudioCall → Option PlaybackPreferences
  | .update value => if isFinite value.volume then some value else none
  | _ => none

/-- The latest update that was accepted: a closed screen accepts none. -/
def lastEdit (calls : List AudioCall) : Option PlaybackPreferences :=
  ((calls.takeWhile (· ≠ .close)).filterMap edit?).getLast?

/-- The server has reported the revision. -/
def Reported (calls : List AudioCall) (revision : Nat) : Prop :=
  ∃ call ∈ calls, ∃ loaded, call.body? = some loaded ∧ loaded.revision = revision

/-- The server knows one account only. -/
def OfAccount (account : String) (calls : List AudioCall) : Prop :=
  ∀ call ∈ calls, ∀ loaded, call.body? = some loaded → isAudioPreferences loaded = true →
    loaded.accountId = account

variable {calls : List AudioCall} {call : AudioCall}

theorem Reported.snoc {revision : Nat} (h : Reported calls revision) :
    Reported (calls ++ [call]) revision := by
  obtain ⟨earlier, hmem, hbody⟩ := h
  exact ⟨earlier, List.mem_append_left _ hmem, hbody⟩

theorem Reported.last {loaded : AudioPreferences} (h : call.body? = some loaded) :
    Reported (calls ++ [call]) loaded.revision :=
  ⟨call, List.mem_append_right _ (List.mem_singleton_self _), loaded, h, rfl⟩

/-- An open screen takes the update that comes last; nothing else is an edit. -/
theorem lastEdit_snoc (hopen : .close ∉ calls) :
    lastEdit (calls ++ [call]) = call.edit?.or (lastEdit calls) := by
  have hall : ∀ earlier ∈ calls, decide (earlier ≠ AudioCall.close) = true := by
    rintro earlier hmem
    refine decide_eq_true ?_
    rintro rfl
    exact hopen hmem
  unfold lastEdit
  rw [List.takeWhile_append_of_pos hall, List.takeWhile_eq_self_iff.2 hall, List.filterMap_append]
  by_cases hclose : call = .close
  · subst hclose
    simp [edit?]
  · have hlast : [call].takeWhile (· ≠ AudioCall.close) = [call] := by simp [hclose]
    rw [hlast]
    cases hedit : call.edit? <;> simp [hedit]

theorem lastEdit_snoc_of_closed (hclosed : .close ∈ calls) :
    lastEdit (calls ++ [call]) = lastEdit calls := by
  unfold lastEdit
  congr 2
  rw [List.takeWhile_append]
  split
  · next hlength =>
    have hself := (List.takeWhile_prefix (l := calls) (· ≠ AudioCall.close)).eq_of_length hlength
    have hopen := List.takeWhile_eq_self_iff.1 hself _ hclosed
    simp at hopen
  · rfl

/-- A call that is no edit. -/
theorem lastEdit_snoc_of_none (h : call.edit? = none) :
    lastEdit (calls ++ [call]) = lastEdit calls := by
  by_cases hclosed : .close ∈ calls
  · exact lastEdit_snoc_of_closed hclosed
  · rw [lastEdit_snoc hclosed, h, Option.none_or]

end AudioCall

namespace RideAudioPreferences

open AudioCall

variable {preferences after : RideAudioPreferences}

/-! ## Whole percent -/

/-- Hundredths of whole percent are read back as they were written. -/
theorem percent_hundredth {n : Nat} (h : n ≤ 100) : percent (hundredth (.ofInt n)) = .ofInt n := by
  have hall : ∀ n ∈ List.range 101, percent (hundredth (.ofInt n)) = .ofInt n := by
    decide +kernel
  exact hall n (List.mem_range.2 (Nat.lt_succ_of_le h))

/-- A volume in whole percent. -/
def Whole (volume : Number) : Prop := ∃ n : Nat, n ≤ 100 ∧ volume = hundredth (.ofInt n)

theorem Whole.hundredth_percent {volume : Number} (h : Whole volume) :
    hundredth (percent volume) = volume := by
  obtain ⟨n, hn, rfl⟩ := h
  rw [percent_hundredth hn]

/-- A volume between 0 and 1 is rounded to one of the percent between 0 and 100. -/
theorem percent_mem {q : ℚ} (h : 0 ≤ q ∧ q ≤ 1) :
    ∃ n : Nat, n ≤ 100 ∧ percent (.finite q) = .ofInt n := by
  obtain ⟨r, hround, hlow, hhigh⟩ := Number.round_mem (m := 0) (n := 100) (q := q * 100)
    (by decide) (by decide) (by push_cast; linarith [h.1]) (by push_cast; linarith [h.2])
  have hmul : (Number.finite q).mul (.ofInt 100) = .finite r := by
    rw [← hround]
    simp [Number.mul, Number.ofInt]
  push_cast at hlow hhigh
  have hfloor : 0 ≤ ⌊r + 1 / 2⌋ := Int.floor_nonneg.2 (by linarith)
  have hfloor' : ⌊r + 1 / 2⌋ < 101 := Int.floor_lt.2 (by push_cast; linarith)
  refine ⟨⌊r + 1 / 2⌋.toNat, by omega, ?_⟩
  rw [percent, hmul, mathRound, Int.toNat_of_nonneg hfloor]

theorem whole_accepted {value : PlaybackPreferences} (h : isFinite value.volume = true) :
    Whole (accepted value).volume := by
  cases hvolume : value.volume with
  | finite q =>
    have hclamp : (Number.ofInt 0).max ((Number.ofInt 1).min (.finite q)) =
        .finite (max 0 (min 1 q)) := by
      rw [Number.ofInt, Number.ofInt, Number.min_finite, Number.max_finite]
      push_cast
      rfl
    obtain ⟨n, hn, heq⟩ := percent_mem
      (q := max 0 (min 1 q)) ⟨le_max_left _ _, max_le zero_le_one (min_le_left _ _)⟩
    exact ⟨n, hn, by rw [accepted, hvolume, hclamp, heq]⟩
  | nan =>
    rw [hvolume] at h
    cases h
  | posInf =>
    rw [hvolume] at h
    cases h
  | negInf =>
    rw [hvolume] at h
    cases h

theorem whole_loaded {loaded : AudioPreferences} (h : isAudioPreferences loaded = true) :
    Whole (hundredth loaded.volumePercent) := by
  simp only [isAudioPreferences, Bool.and_eq_true] at h
  obtain ⟨⟨-, hvolume⟩, -⟩ := h
  obtain ⟨n, hsafe, hrange⟩ := (Option.any_eq_true _ _).1 hvolume
  simp only [Bool.and_eq_true, decide_eq_true_eq] at hrange
  obtain ⟨heq, -⟩ := Number.safeInteger?_eq_some hsafe
  refine ⟨n.toNat, by omega, ?_⟩
  rw [heq, Int.toNat_of_nonneg hrange.1]

/-! ## What the calls leave alone -/

/-- What only an update, a response or the close changes. -/
structure Steady (preferences after : RideAudioPreferences) : Prop where
  value : after.value = preferences.value
  edited : after.edited = preferences.edited
  closed : after.closed = preferences.closed
  accountId : after.accountId = preferences.accountId
  revision : after.revision = preferences.revision

namespace Steady

theorem refl (preferences : RideAudioPreferences) : Steady preferences preferences :=
  ⟨rfl, rfl, rfl, rfl, rfl⟩

theorem trans {last : RideAudioPreferences} (h : Steady preferences after)
    (h' : Steady after last) : Steady preferences last :=
  ⟨h'.value.trans h.value, h'.edited.trans h.edited, h'.closed.trans h.closed,
    h'.accountId.trans h.accountId, h'.revision.trans h.revision⟩

theorem report (preferences : RideAudioPreferences) (status : AudioSaveStatus) :
    Steady preferences (preferences.report status) := by
  rcases preferences.report_cases status with heq | heq
  · rw [heq]
    exact refl preferences
  · rw [heq]
    exact ⟨rfl, rfl, rfl, rfl, rfl⟩

theorem saveNext (preferences : RideAudioPreferences) (conflicts : Nat) :
    Steady preferences (preferences.saveNext conflicts) := by
  unfold RideAudioPreferences.saveNext
  split
  · exact ⟨rfl, rfl, rfl, rfl, rfl⟩
  · exact { report preferences .saved with }

theorem saveFailed (preferences : RideAudioPreferences) :
    Steady preferences preferences.saveFailed :=
  { report { preferences with dirty := true } .notSaved with }

theorem flush (preferences : RideAudioPreferences) : Steady preferences preferences.flush := by
  have htimer : Steady preferences { preferences with timer := false } := ⟨rfl, rfl, rfl, rfl, rfl⟩
  unfold RideAudioPreferences.flush
  dsimp only
  split
  · exact htimer.trans (saveNext _ 0)
  · exact htimer

theorem load (preferences : RideAudioPreferences) : Steady preferences preferences.load := by
  unfold RideAudioPreferences.load
  split
  · exact refl preferences
  · exact ⟨rfl, rfl, rfl, rfl, rfl⟩

theorem timerFires (preferences : RideAudioPreferences) :
    Steady preferences preferences.timerFires := by
  have htimer : Steady preferences { preferences with timer := false } := ⟨rfl, rfl, rfl, rfl, rfl⟩
  unfold RideAudioPreferences.timerFires
  dsimp only
  split
  · exact htimer.trans (load _)
  · exact htimer.trans (flush _)

theorem loadFailed (preferences : RideAudioPreferences) :
    Steady preferences preferences.loadFailed :=
  { report preferences .notSaved with }

end Steady

/-- A response to a save brings at most its revision. -/
theorem saveAnswered_steady (preferences : RideAudioPreferences) (conflicts : Nat)
    (conflict : Bool) (answer : AudioPreferences) :
    Steady preferences (preferences.saveAnswered conflicts conflict answer) ∨
      Steady { preferences with revision := some answer.revision }
        (preferences.saveAnswered conflicts conflict answer) := by
  have hdirty : ∀ known : RideAudioPreferences, Steady known { known with dirty := true } :=
    fun _ => ⟨rfl, rfl, rfl, rfl, rfl⟩
  unfold saveAnswered
  split
  · exact .inl (.saveFailed preferences)
  · split
    · exact .inl (.saveFailed preferences)
    · right
      dsimp only
      split
      · split
        · exact .saveFailed _
        · exact (hdirty _).trans (.saveNext _ _)
      · exact .saveNext _ _

theorem saveResponds_steady (preferences : RideAudioPreferences) (conflicts : Nat)
    (response : AudioResponse) :
    Steady preferences (preferences.saveResponds conflicts response) ∨
      ∃ answer, response.preferences = some answer ∧
        Steady { preferences with revision := some answer.revision }
          (preferences.saveResponds conflicts response) := by
  unfold saveResponds
  split
  · next answer hanswer =>
    split
    · exact (preferences.saveAnswered_steady conflicts true answer).imp_right
        fun hsteady => ⟨answer, hanswer, hsteady⟩
    · split
      · exact (preferences.saveAnswered_steady conflicts false answer).imp_right
          fun hsteady => ⟨answer, hanswer, hsteady⟩
      · exact .inl (.saveFailed preferences)
  · exact .inl (.saveFailed preferences)

/-- What is known once a load of the same account was answered. -/
def loaded (preferences : RideAudioPreferences) (loaded : AudioPreferences) :
    RideAudioPreferences :=
  { preferences with
    accountId := some loaded.accountId
    revision := some loaded.revision
    loading := none
    value :=
      if preferences.takes loaded then
        { volume := hundredth loaded.volumePercent, muted := loaded.muted }
      else preferences.value }

theorem loadAnswered_steady {answer : AudioPreferences}
    (hvalid : isAudioPreferences answer = true)
    (hsame : ∀ accountId, preferences.accountId = some accountId → accountId = answer.accountId) :
    Steady (preferences.loaded answer) (preferences.loadAnswered answer) := by
  have hany : preferences.accountId.any (· ≠ answer.accountId) = false := by
    cases haccount : preferences.accountId with
    | none => rfl
    | some accountId => simp [hsame accountId haccount]
  have hends : ∀ known : RideAudioPreferences,
      Steady known (if known.dirty then known.flush else known.report .saved) := by
    intro known
    split
    · exact .flush known
    · exact .report known .saved
  have htakes : preferences.takes answer = (!preferences.edited && !preferences.closed) := by
    rw [takes, hvalid, hany, Bool.or_false, Bool.true_and, Bool.and_comm]
  unfold loadAnswered loaded
  rw [hvalid, hany, htakes]
  dsimp only
  by_cases hfree : (!preferences.edited && !preferences.closed) = true
  · simp only [hfree, Bool.not_true, Bool.false_eq_true, if_false, if_true]
    exact hends _
  · simp only [hfree, Bool.not_true, Bool.false_eq_true, if_false]
    exact hends _

/-- An update is ignored or sets the value. -/
theorem update_cases (preferences : RideAudioPreferences) (value : PlaybackPreferences) :
    (preferences.closed || !isFinite value.volume) = true ∧ preferences.update value = preferences ∨
      preferences.closed = false ∧ isFinite value.volume = true ∧
        Steady { preferences with value := accepted value, edited := true }
          (preferences.update value) := by
  unfold update
  split
  · next hignored => exact .inl ⟨hignored, rfl⟩
  · next hfree =>
    simp only [Bool.or_eq_true, not_or, Bool.not_eq_true, Bool.not_eq_false'] at hfree
    exact .inr ⟨hfree.1, hfree.2, { Steady.report _ .saving with }⟩

/-! ## The requests -/

/-- A request with the value and the revision of the instance. -/
structure Current (preferences : RideAudioPreferences) (request : PatchRequest) : Prop where
  volume : request.volumePercent = percent preferences.value.volume
  muted : request.muted = preferences.value.muted
  accountId : preferences.accountId = some request.accountId
  revision : preferences.revision = some request.revision

/-- The requests that are waited for were waited for before, or are current. -/
def Sends (preferences after : RideAudioPreferences) : Prop :=
  ∀ loop, after.saving = some loop → preferences.saving = some loop ∨ Current after loop.request

theorem sends_saveNext (preferences : RideAudioPreferences) (conflicts : Nat) :
    ∀ loop, (preferences.saveNext conflicts).saving = some loop →
      Current (preferences.saveNext conflicts) loop.request := by
  unfold saveNext
  split
  · next hrevision haccount =>
    rintro loop ⟨⟩
    exact ⟨rfl, rfl, haccount, hrevision⟩
  · intro _ hsaving
    cases hsaving

theorem sends_flush (preferences : RideAudioPreferences) : Sends preferences preferences.flush := by
  unfold flush
  dsimp only
  split
  · exact fun loop hsaving => .inr (sends_saveNext _ 0 loop hsaving)
  · exact fun loop hsaving => .inl hsaving

theorem Sends.of_saving (h : after.saving = preferences.saving) : Sends preferences after :=
  fun _ hsaving => .inl (h.symm.trans hsaving)

theorem saving_load (preferences : RideAudioPreferences) :
    preferences.load.saving = preferences.saving := by
  unfold load
  split <;> rfl

theorem saving_update (preferences : RideAudioPreferences) (value : PlaybackPreferences) :
    (preferences.update value).saving = preferences.saving := by
  unfold update
  split
  · rfl
  · exact saving_report _ _

theorem sends_timerFires (preferences : RideAudioPreferences) :
    Sends preferences preferences.timerFires := by
  unfold timerFires
  dsimp only
  split
  · exact .of_saving (saving_load _)
  · exact sends_flush { preferences with timer := false }

theorem sends_loadAnswered (preferences : RideAudioPreferences) (answer : AudioPreferences) :
    Sends preferences (preferences.loadAnswered answer) := by
  rcases preferences.loadAnswered_cases answer with heq | ⟨_, _, _, known, rfl, -, heq⟩
  · rw [heq]
    exact .of_saving (saving_report _ _)
  · rcases heq with heq | heq
    · rw [heq]
      exact sends_flush _
    · rw [heq]
      exact .of_saving (saving_report _ _)

theorem sends_loadResponds (preferences : RideAudioPreferences) (response : AudioResponse) :
    Sends preferences (preferences.loadResponds response) := by
  unfold loadResponds
  split
  · split
    · exact sends_loadAnswered _ _
    · exact .of_saving (saving_report _ _)
  · exact .of_saving (saving_report _ _)

/-- A response ends the request that was waited for. -/
theorem current_saveAnswered (preferences : RideAudioPreferences) (conflicts : Nat)
    (conflict : Bool) (answer : AudioPreferences) :
    ∀ loop, (preferences.saveAnswered conflicts conflict answer).saving = some loop →
      Current (preferences.saveAnswered conflicts conflict answer) loop.request := by
  have hfailed : ∀ known : RideAudioPreferences, ∀ loop, known.saveFailed.saving = some loop →
      Current known.saveFailed loop.request := fun _ _ hsaving => by cases hsaving
  unfold saveAnswered
  split
  · exact hfailed _
  · split
    · exact hfailed _
    · dsimp only
      split
      · split
        · exact hfailed _
        · exact sends_saveNext _ _
      · exact sends_saveNext _ _

theorem current_saveResponds (preferences : RideAudioPreferences) (conflicts : Nat)
    (response : AudioResponse) :
    ∀ loop, (preferences.saveResponds conflicts response).saving = some loop →
      Current (preferences.saveResponds conflicts response) loop.request := by
  unfold saveResponds
  split
  · split
    · exact current_saveAnswered _ _ _ _
    · split
      · exact current_saveAnswered _ _ _ _
      · exact fun _ hsaving => by cases hsaving
  · exact fun _ hsaving => by cases hsaving

/-- Whatever is sent is current. -/
theorem current_of_sent {call : AudioCall} {request : PatchRequest}
    (hperform : preferences.perform call = some after)
    (hsent : preferences.sent call after = some request) : Current after request := by
  have hnew : Sends preferences after →
      (if preferences.saving.isSome then none else after.saving.map (·.request)) = some request →
      Current after request := by
    intro hsends hsent
    split at hsent
    · cases hsent
    · next hidle =>
      obtain ⟨loop, hsaving, rfl⟩ := Option.map_eq_some_iff.1 hsent
      rcases hsends loop hsaving with hold | hcurrent
      · rw [hold] at hidle
        exact absurd rfl hidle
      · exact hcurrent
  cases call with
  | load =>
    cases hperform
    exact hnew (.of_saving (saving_load _)) hsent
  | update value =>
    cases hperform
    exact hnew (.of_saving (saving_update _ _)) hsent
  | timer =>
    obtain ⟨-, heq⟩ := Option.ite_none_right_eq_some.1 hperform
    cases heq
    exact hnew (sends_timerFires _) hsent
  | flush =>
    cases hperform
    exact hnew (sends_flush _) hsent
  | close =>
    cases hperform
    exact hnew (sends_flush { preferences with closed := true }) hsent
  | loadResponds response =>
    obtain ⟨-, heq⟩ := Option.ite_none_right_eq_some.1 hperform
    cases heq
    exact hnew (sends_loadResponds _ _) hsent
  | loadFails =>
    obtain ⟨-, heq⟩ := Option.ite_none_right_eq_some.1 hperform
    cases heq
    exact hnew (.of_saving (saving_report _ _)) hsent
  | saveResponds response =>
    obtain ⟨loop, -, rfl⟩ := Option.map_eq_some_iff.1 hperform
    obtain ⟨next, hsaving, rfl⟩ := Option.map_eq_some_iff.1 hsent
    exact current_saveResponds _ _ _ next hsaving
  | saveFails =>
    obtain ⟨loop, -, rfl⟩ := Option.map_eq_some_iff.1 hperform
    exact hnew (fun _ hsaving => by cases hsaving) hsent

/-! ## The edits -/

/-- What the calls say of an instance of one account. -/
structure Edits (account : String) (calls : List AudioCall) (preferences : RideAudioPreferences) :
    Prop where
  closed : preferences.closed = true ↔ .close ∈ calls
  whole : Whole preferences.value.volume
  edit : ∀ value, lastEdit calls = some value →
    preferences.value = accepted value ∧ preferences.edited = true
  account : ∀ accountId, preferences.accountId = some accountId → accountId = account
  revision : ∀ revision, preferences.revision = some revision → Reported calls revision

variable {account : String} {calls : List AudioCall} {call : AudioCall}

theorem edits_new (account : String) : Edits account [] new where
  closed := by simp [new]
  whole := ⟨0, Nat.zero_le _, by decide +kernel⟩
  edit := fun _ hedit => by cases hedit
  account := fun _ haccount => by cases haccount
  revision := fun _ hrevision => by cases hrevision

/-- A call that leaves the value alone and brings at most a revision. -/
theorem Edits.steady (h : Edits account calls preferences) (hedit : call.edit? = none)
    (hclose : call ≠ .close) {revision : Option Nat}
    (hrevision : ∀ known, revision = some known → Reported (calls ++ [call]) known)
    (hsteady : Steady { preferences with revision } after) :
    Edits account (calls ++ [call]) after where
  closed := by
    rw [hsteady.closed, h.closed, List.mem_append, List.mem_singleton]
    exact ⟨.inl, fun hmem => hmem.resolve_right (Ne.symm hclose)⟩
  whole := by
    rw [hsteady.value]
    exact h.whole
  edit := by
    intro value hlast
    rw [lastEdit_snoc_of_none hedit] at hlast
    rw [hsteady.value, hsteady.edited]
    exact h.edit value hlast
  account := by
    rw [hsteady.accountId]
    exact h.account
  revision := by
    rw [hsteady.revision]
    exact hrevision

/-- The same, when the revision is the one that was known. -/
theorem Edits.kept (h : Edits account calls preferences) (hedit : call.edit? = none)
    (hclose : call ≠ .close) (hsteady : Steady preferences after) :
    Edits account (calls ++ [call]) after :=
  h.steady hedit hclose (fun known hknown => (h.revision known hknown).snoc) hsteady

theorem Edits.update (h : Edits account calls preferences) (value : PlaybackPreferences) :
    Edits account (calls ++ [.update value]) (preferences.update value) := by
  have hclosed : (preferences.update value).closed = true ↔
      AudioCall.close ∈ calls ++ [.update value] := by
    rw [closed_update, h.closed]
    simp
  rcases preferences.update_cases value with ⟨hignored, heq⟩ | ⟨hopen, hfinite, hsteady⟩
  · have hlast : lastEdit (calls ++ [.update value]) = lastEdit calls := by
      by_cases hmem : .close ∈ calls
      · exact lastEdit_snoc_of_closed hmem
      · have hinfinite : isFinite value.volume = false := by
          have hopen : preferences.closed = false :=
            Bool.eq_false_iff.2 fun hclosed => hmem (h.closed.1 hclosed)
          simpa [hopen] using hignored
        exact lastEdit_snoc_of_none (by rw [edit?, hinfinite, if_neg Bool.false_ne_true])
    refine ⟨hclosed, ?_, ?_, ?_, ?_⟩
    · rw [heq]
      exact h.whole
    · rw [heq, hlast]
      exact h.edit
    · rw [heq]
      exact h.account
    · rw [heq]
      exact fun known hknown => (h.revision known hknown).snoc
  · have hmem : .close ∉ calls := fun hmem => by
      rw [h.closed.2 hmem] at hopen
      cases hopen
    refine ⟨hclosed, ?_, ?_, ?_, ?_⟩
    · rw [hsteady.value]
      exact whole_accepted hfinite
    · intro edit hlast
      rw [lastEdit_snoc hmem, edit?, if_pos hfinite, Option.some_or] at hlast
      obtain rfl := Option.some.inj hlast
      exact ⟨hsteady.value, hsteady.edited⟩
    · rw [hsteady.accountId]
      exact h.account
    · rw [hsteady.revision]
      exact fun known hknown => (h.revision known hknown).snoc

theorem Edits.close (h : Edits account calls preferences) :
    Edits account (calls ++ [.close]) preferences.close := by
  have hsteady := Steady.flush { preferences with closed := true }
  refine ⟨?_, ?_, ?_, ?_, ?_⟩
  · simp [RideAudioPreferences.close, hsteady.closed]
  · rw [RideAudioPreferences.close, hsteady.value]
    exact h.whole
  · intro value hlast
    rw [lastEdit_snoc_of_none rfl] at hlast
    rw [RideAudioPreferences.close, hsteady.value, hsteady.edited]
    exact h.edit value hlast
  · rw [RideAudioPreferences.close, hsteady.accountId]
    exact h.account
  · rw [RideAudioPreferences.close, hsteady.revision]
    exact fun known hknown => (h.revision known hknown).snoc

/-- An edited value is not replaced by a load of the same account. -/
theorem takes_of_edited {answer : AudioPreferences} (hedited : preferences.edited = true)
    (hsame : ∀ accountId, preferences.accountId = some accountId → accountId = answer.accountId) :
    preferences.takes answer = false := by
  have hany : preferences.accountId.any (· ≠ answer.accountId) = false := by
    cases haccount : preferences.accountId with
    | none => rfl
    | some accountId => simp [hsame accountId haccount]
  rw [takes, hedited, hany, Bool.not_true, Bool.or_false, Bool.and_false]

theorem Edits.loadResponds (h : Edits account calls preferences) {response : AudioResponse}
    (hone : ∀ answer, response.preferences = some answer → isAudioPreferences answer = true →
      answer.accountId = account) :
    Edits account (calls ++ [.loadResponds response]) (preferences.loadResponds response) := by
  have hfailed : Edits account (calls ++ [.loadResponds response]) preferences.loadFailed :=
    h.kept rfl (by simp) (.loadFailed preferences)
  unfold RideAudioPreferences.loadResponds
  split
  · next answer hanswer =>
    split
    · by_cases hvalid : isAudioPreferences answer = true
      · have haccount := hone answer hanswer hvalid
        have hsame : ∀ accountId, preferences.accountId = some accountId →
            accountId = answer.accountId :=
          fun accountId hknown => (h.account accountId hknown).trans haccount.symm
        have hsteady := loadAnswered_steady hvalid hsame
        constructor
        case closed =>
          rw [hsteady.closed]
          exact h.closed.trans (by simp)
        case whole =>
          rw [hsteady.value, loaded]
          dsimp only
          split
          · exact whole_loaded hvalid
          · exact h.whole
        case edit =>
          intro value hlast
          rw [lastEdit_snoc_of_none rfl] at hlast
          obtain ⟨hvalue, hedited⟩ := h.edit value hlast
          rw [hsteady.value, hsteady.edited, loaded]
          dsimp only
          rw [if_neg (by rw [takes_of_edited hedited hsame]; exact Bool.false_ne_true)]
          exact ⟨hvalue, hedited⟩
        case account =>
          rw [hsteady.accountId]
          rintro _ ⟨⟩
          exact haccount
        case revision =>
          rw [hsteady.revision]
          rintro _ ⟨⟩
          exact .last hanswer
      · have heq : preferences.loadAnswered answer = preferences.loadFailed := by
          unfold loadAnswered
          rw [if_pos (by simpa using hvalid)]
        rw [heq]
        exact hfailed
    · exact hfailed
  · exact hfailed

theorem Edits.step (h : Edits account calls preferences)
    (hone : OfAccount account (calls ++ [call]))
    (hperform : preferences.perform call = some after) : Edits account (calls ++ [call]) after := by
  cases call with
  | load =>
    cases hperform
    exact h.kept rfl (by simp) (.load preferences)
  | update value =>
    cases hperform
    exact h.update value
  | timer =>
    obtain ⟨-, heq⟩ := Option.ite_none_right_eq_some.1 hperform
    cases heq
    exact h.kept rfl (by simp) (.timerFires preferences)
  | flush =>
    cases hperform
    exact h.kept rfl (by simp) (.flush preferences)
  | close =>
    cases hperform
    exact h.close
  | loadResponds response =>
    obtain ⟨-, heq⟩ := Option.ite_none_right_eq_some.1 hperform
    cases heq
    exact h.loadResponds fun answer hanswer =>
      hone (.loadResponds response) (by simp) answer hanswer
  | loadFails =>
    obtain ⟨-, heq⟩ := Option.ite_none_right_eq_some.1 hperform
    cases heq
    exact h.kept rfl (by simp) (.loadFailed preferences)
  | saveResponds response =>
    obtain ⟨loop, -, rfl⟩ := Option.map_eq_some_iff.1 hperform
    rcases preferences.saveResponds_steady loop.conflicts response with
      hsteady | ⟨answer, hanswer, hsteady⟩
    · exact h.kept rfl (by simp) hsteady
    · refine h.steady rfl (by simp) ?_ hsteady
      rintro _ ⟨⟩
      exact .last hanswer
  | saveFails =>
    obtain ⟨loop, -, rfl⟩ := Option.map_eq_some_iff.1 hperform
    exact h.kept rfl (by simp) (.saveFailed preferences)

theorem edits_run (h : Run (StepOf perform) new calls preferences)
    (hone : OfAccount account calls) : Edits account calls preferences := by
  induction h with
  | nil => exact edits_new account
  | snoc _ hstep ih =>
    have hbefore := ih fun call hmem => hone call (List.mem_append_left _ hmem)
    exact hbefore.step hone hstep

/-- What is shown is the value then. -/
theorem Edits.shown (h : Edits account calls preferences)
    (hone : OfAccount account (calls ++ [call])) (hperform : preferences.perform call = some after)
    {value : PlaybackPreferences} (hshown : preferences.shown call = some value) :
    value = after.value := by
  cases call with
  | update edit =>
    cases hperform
    obtain ⟨hfree, heq⟩ := Option.ite_none_left_eq_some.1 hshown
    cases heq
    rcases preferences.update_cases edit with ⟨hignored, -⟩ | ⟨-, -, hsteady⟩
    · exact absurd hignored hfree
    · exact hsteady.value.symm
  | loadResponds response =>
    obtain ⟨-, heq⟩ := Option.ite_none_right_eq_some.1 hperform
    cases heq
    simp only [RideAudioPreferences.shown] at hshown
    split at hshown
    · next answer hanswer =>
      obtain ⟨htaken, heq⟩ := Option.ite_none_right_eq_some.1 hshown
      cases heq
      obtain ⟨hok, htakes⟩ := Bool.and_eq_true_iff.1 htaken
      have hvalid : isAudioPreferences answer = true := by
        simp only [takes, Bool.and_eq_true] at htakes
        exact htakes.1.1
      have haccount := hone (.loadResponds response) (by simp) answer hanswer hvalid
      have hsteady : Steady (preferences.loaded answer) (preferences.loadAnswered answer) :=
        loadAnswered_steady hvalid
          fun accountId hknown => (h.account accountId hknown).trans haccount.symm
      unfold RideAudioPreferences.loadResponds
      simp only [hanswer, hok, if_true]
      rw [hsteady.value, loaded, if_pos htakes]
    · cases hshown
  | load => cases hshown
  | timer => cases hshown
  | flush => cases hshown
  | close => cases hshown
  | loadFails => cases hshown
  | saveResponds response => cases hshown
  | saveFails => cases hshown

/-- **Main result.** Once an update was accepted the value is that of the latest one, whatever is
loaded, saved or refused in between; `onValue` is called with the value of the moment, and a `PATCH`
carries that value and a revision that the server had reported. -/
theorem edits_kept (h : Run (StepOf perform) new calls preferences)
    (hone : OfAccount account calls) :
    (∀ value, lastEdit calls = some value →
      preferences.value = accepted value ∧ Whole (accepted value).volume) ∧
    ∀ call after, preferences.perform call = some after → OfAccount account [call] →
      (∀ value, preferences.shown call = some value → value = after.value) ∧
      ∀ request, preferences.sent call after = some request →
        hundredth request.volumePercent = after.value.volume ∧
          request.muted = after.value.muted ∧ Reported (calls ++ [call]) request.revision := by
  have hedits := edits_run h hone
  refine ⟨fun value hlast => ?_, fun call after hperform hcall => ?_⟩
  · have hvalue := (hedits.edit value hlast).1
    exact ⟨hvalue, hvalue ▸ hedits.whole⟩
  · have hboth : OfAccount account (calls ++ [call]) := by
      intro call' hmem
      rcases List.mem_append.1 hmem with hmem | hmem
      · exact hone call' hmem
      · exact hcall call' hmem
    have hafter := hedits.step hboth hperform
    refine ⟨fun value hshown => hedits.shown hboth hperform hshown, fun request hsent => ?_⟩
    have hcurrent := current_of_sent hperform hsent
    refine ⟨?_, hcurrent.muted, hafter.revision _ hcurrent.revision⟩
    rw [hcurrent.volume]
    exact hafter.whole.hundredth_percent

/-- The first load is answered after an edit, and the save conflicts. -/
def lateLoad : List AudioCall :=
  [.load, .update { volume := .round (3 / 4), muted := false },
    .loadResponds ⟨200, some ⟨⟨.ofInt 20, true, 7⟩, "ada"⟩⟩,
    .saveResponds ⟨409, some ⟨⟨.ofInt 30, true, 8⟩, "ada"⟩⟩]

theorem lateLoad_kept :
    ∃ preferences, Run (StepOf perform) new lateLoad preferences ∧
      preferences.value = accepted { volume := .round (3 / 4), muted := false } ∧
      ∃ loop, preferences.saving = some loop ∧ loop.request.volumePercent = .ofInt 75 ∧
        loop.request.revision = 8 := by
  have hall : (runList perform new lateLoad).any (fun preferences =>
      preferences.saving.any fun loop =>
        decide (loop.request.volumePercent = .ofInt 75 ∧ loop.request.revision = 8)) = true := by
    decide +kernel
  obtain ⟨preferences, hrun, hend⟩ := (Option.any_eq_true _ _).1 hall
  obtain ⟨loop, hsaving, hloop⟩ := (Option.any_eq_true _ _).1 hend
  have hreached := run_of_runList hrun
  have hone : OfAccount "ada" lateLoad := by
    simp [OfAccount, lateLoad, body?]
  have hlast : lastEdit lateLoad = some { volume := .round (3 / 4), muted := false } := by
    decide +kernel
  exact ⟨preferences, hreached, ((edits_kept hreached hone).1 _ hlast).1, loop, hsaving,
    of_decide_eq_true hloop⟩

end RideAudioPreferences

end RcOnline.Web
