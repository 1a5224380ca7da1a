import RcOnline.Web.VideoHistory

/-!
# Requests of the video policy

Either stream of measurements may make a request, and either may find that the wait for an
acknowledgement is over. `traced_run` is the induction over a run: the policy agrees with its
history, and what every weighing of evidence and every request keeps holds after every run. From it
follows when requests are made (`requests_spaced`): five seconds apart, and three at most before an
acknowledgement has an effect.
-/

namespace RcOnline.Web

open RcOnline.Lib VideoEvent

/-- The calls come at times that do not go back. -/
def VideoEvent.Chronological (past : List VideoEvent) : Prop :=
  past.Pairwise fun later earlier => earlier.call.nowMs.le later.call.nowMs = true

namespace VideoHistory

open AdaptiveVideoPolicy

def start (policy : AdaptiveVideoPolicy) : VideoHistory := ⟨policy, []⟩

/-- A call at a time that cannot be read is not part of the history. -/
def call (history : VideoHistory) (call : VideoCall) : VideoHistory where
  policy := (history.policy.answer call).2
  past :=
    if isNonNegative call.nowMs then ⟨call, (history.policy.answer call).1⟩ :: history.past
    else history.past

/-- The history after some calls. -/
def run (policy : AdaptiveVideoPolicy) (calls : List VideoCall) : VideoHistory :=
  calls.foldl call (start policy)

theorem run_snoc (policy : AdaptiveVideoPolicy) (calls : List VideoCall) (c : VideoCall) :
    run policy (calls ++ [c]) = (run policy calls).call c := List.foldl_append

/-! ## The induction over a run -/

section induction

variable {I : AdaptiveVideoPolicy → List VideoEvent → Prop}

/-- What weighing the evidence keeps, and a request too. -/
structure Preserved (I : AdaptiveVideoPolicy → List VideoEvent → Prop) : Prop where
  weighs : ∀ {policy weighed past call want}, Traced policy past → I policy past →
    Weighs policy call want weighed → isNonNegative call.nowMs = true →
    I weighed (⟨call, none⟩ :: past)
  requests : ∀ {policy weighed past call profile}, Traced policy past → I policy past →
    Weighs policy call (some profile) weighed → isNonNegative call.nowMs = true →
    I (weighed.requesting profile call.nowMs) (⟨call, some profile⟩ :: past)

theorem traced_call (h : Preserved I) {history : VideoHistory} (c : VideoCall)
    (htraced : Traced history.policy history.past) (hI : I history.policy history.past) :
    Traced (history.call c).policy (history.call c).past ∧
      I (history.call c).policy (history.call c).past := by
  unfold call
  cases hnow : isNonNegative c.nowMs with
  | false =>
    rw [answer_unreadable hnow]
    exact ⟨htraced, hI⟩
  | true =>
    obtain ⟨want, weighed, hweighs, hanswer⟩ :=
      answer_weighs htraced.quiet htraced.coupled c hnow
    rcases hanswer with heq | ⟨profile, rfl, hcount, -, heq⟩
    · rw [heq]
      exact ⟨htraced.weighs hweighs hnow, h.weighs htraced hI hweighs hnow⟩
    · rw [heq]
      exact ⟨htraced.requests hweighs hnow hcount, h.requests htraced hI hweighs hnow⟩

theorem traced_new {profiles : List VideoProfile} {current : VideoProfile}
    {policy : AdaptiveVideoPolicy} (h : new profiles current = .ok policy) : Traced policy [] := by
  have hcoupled := coupled_new h
  obtain ⟨-, rfl⟩ := new_eq h
  exact ⟨hcoupled, (fun hsome => by cases hsome), (fun _ hevent => by cases hevent), rfl, rfl,
    (fun _ hpending => by cases hpending), rfl, rfl, rfl, rfl, rfl⟩

/-- What every call keeps holds after every run. -/
theorem traced_run (h : Preserved I) {profiles : List VideoProfile} {current : VideoProfile}
    {policy : AdaptiveVideoPolicy} (hnew : new profiles current = .ok policy) (hI : I policy [])
    (calls : List VideoCall) :
    Traced (run policy calls).policy (run policy calls).past ∧
      I (run policy calls).policy (run policy calls).past := by
  induction calls using List.reverseRecOn with
  | nil => exact ⟨traced_new hnew, hI⟩
  | append_singleton calls c ih =>
    rw [run_snoc]
    exact traced_call h c ih.1 ih.2

/-- A request comes from evidence that has been weighed. -/
theorem request_weighs {policy : AdaptiveVideoPolicy} {past : List VideoEvent} {c : VideoCall}
    {profile : VideoProfile} (h : Traced policy past)
    (hasked : (policy.answer c).1 = some profile) :
    ∃ weighed, Weighs policy c (some profile) weighed ∧ isNonNegative c.nowMs = true ∧
      weighed.unacknowledgedRequests < 3 := by
  cases hnow : isNonNegative c.nowMs with
  | false =>
    rw [answer_unreadable hnow] at hasked
    cases hasked
  | true =>
    obtain ⟨want, weighed, hweighs, hanswer⟩ := answer_weighs h.quiet h.coupled c hnow
    rcases hanswer with heq | ⟨profile', rfl, hcount, -, heq⟩
    · rw [heq] at hasked
      cases hasked
    · rw [heq] at hasked
      cases hasked
      exact ⟨weighed, hweighs, rfl, hcount⟩

/-- The evidence of a run that asks for a profile, with what every call keeps. -/
theorem asks_run (h : Preserved I) {profiles : List VideoProfile} {current : VideoProfile}
    {policy : AdaptiveVideoPolicy} (hnew : new profiles current = .ok policy) (hI : I policy [])
    (calls : List VideoCall) {c : VideoCall} {profile : VideoProfile}
    (hasked : ((run policy calls).policy.answer c).1 = some profile) :
    Traced (run policy calls).policy (run policy calls).past ∧ isNonNegative c.nowMs = true ∧
    ∃ weighed, Asks (run policy calls).policy c profile weighed ∧
      Keeps (run policy calls).policy weighed ∧
      I weighed (⟨c, none⟩ :: (run policy calls).past) := by
  obtain ⟨htraced, hkept⟩ := traced_run h hnew hI calls
  obtain ⟨weighed, hweighs, hnow, -⟩ := request_weighs htraced hasked
  exact ⟨htraced, hnow, weighed, hweighs.asks, (hweighs.wanted htraced.coupled).1,
    h.weighs htraced hkept hweighs hnow⟩

end induction

/-! ## The wait for an acknowledgement -/

/-- When the latest request is not waited for any more, a call has come five seconds after it. -/
def Expired (policy : AdaptiveVideoPolicy) (past : List VideoEvent) : Prop :=
  policy.pending = none → ∀ request, (unanswered past).head? = some request →
    ∃ event ∈ past, (Number.ofInt 5000).le (event.call.nowMs.sub request.requestedAt) = true

theorem sub_ne_nan {nowMs since : Number} (hnow : isNonNegative nowMs = true)
    (hsince : isNonNegative since = true) : nowMs.sub since ≠ .nan := by
  cases nowMs with
  | finite p =>
    cases since with
    | finite q => exact Number.round_ne_nan (p - q)
    | nan => cases hsince
    | posInf => cases hsince
    | negInf => cases hsince
  | nan => cases hnow
  | posInf => cases hnow
  | negInf => cases hnow

theorem le_sub_of_not_lt {nowMs since : Number} {limit : Int} (hnow : isNonNegative nowMs = true)
    (hsince : isNonNegative since = true) (h : (nowMs.sub since).lt (.ofInt limit) = false) :
    (Number.ofInt limit).le (nowMs.sub since) = true :=
  Number.le_of_not_lt (sub_ne_nan hnow hsince) (by simp [Number.ofInt]) h

theorem sub_mono {earlier later since : Number} (hearlier : isNonNegative earlier = true)
    (hlater : isNonNegative later = true) (hsince : isNonNegative since = true)
    (h : earlier.le later = true) : (earlier.sub since).le (later.sub since) = true := by
  cases earlier with
  | finite p =>
    cases later with
    | finite q =>
      cases since with
      | finite r => exact Number.sub_mono_left h r
      | nan => cases hsince
      | posInf => cases hsince
      | negInf => cases hsince
    | nan => cases hlater
    | posInf => cases hlater
    | negInf => cases hlater
  | nan => cases hearlier
  | posInf => cases hearlier
  | negInf => cases hearlier

/-- An unanswered request was made by a call of the history. -/
theorem exists_of_unanswered {past : List VideoEvent} {request : PendingRequest}
    (h : request ∈ unanswered past) : ∃ event ∈ past, request.requestedAt = event.call.nowMs := by
  induction past with
  | nil => cases h
  | cons event past ih =>
    have hearlier : request ∈ unanswered past →
        ∃ e ∈ event :: past, request.requestedAt = e.call.nowMs := by
      intro hmem
      obtain ⟨e, he, heq⟩ := ih hmem
      exact ⟨e, List.mem_cons_of_mem _ he, heq⟩
    rw [unanswered] at h
    split at h
    · rcases List.mem_cons.1 h with rfl | hmem
      · exact ⟨event, List.mem_cons_self, rfl⟩
      · exact hearlier hmem
    · split at h
      · cases h
      · exact hearlier h
    · exact hearlier h

/-- A pending request is dropped only when it is five seconds old, or by an acknowledgement. -/
theorem dropped {policy weighed : AdaptiveVideoPolicy} {c : VideoCall}
    {want : Option VideoProfile} (h : Weighs policy c want weighed) (hnone : weighed.pending = none)
    (hkeeps : Keeps policy weighed) : policy.pending = none ∨ Free policy c.nowMs := by
  cases h with
  | ignored haccepts => exact .inl hnone
  | skipped haccepts hpending =>
    rcases hpending with rfl | ⟨rfl, hfree⟩
    · exact .inl hnone
    · exact .inr hfree
  | judged haccepts hunbroken hfree hwarm => exact .inr hfree
  | unusable hinvalid =>
    refine .inl ?_
    unfold startReport at hnone
    dsimp only at hnone
    split at hnone <;> split at hnone <;> exact hnone
  | awaiting hvalid hbusy =>
    rw [pending_estimate] at hnone
    exact .inl hnone
  | enough hvalid hfree => exact .inr hfree
  | short hvalid hfree hbelow htarget hlow => exact .inr hfree
  | stray hother => exact .inl hnone
  | effective hlatest =>
    have hrequested : none = policy.lastRequestedProfile := hkeeps.requested
    rw [hlatest] at hrequested
    cases hrequested

theorem preserved_expired : Preserved Expired where
  weighs := by
    intro policy weighed past call want h hI hweighs hnow hnone request hrequest
    rcases h.answers hweighs with ⟨hkeeps, heq, -⟩ | ⟨_, _, -, -, -, heq⟩
    · rw [heq] at hrequest
      rcases dropped hweighs hnone hkeeps with hnone' | hfree
      · obtain ⟨event, hevent, hle⟩ := hI hnone' request hrequest
        exact ⟨event, List.mem_cons_of_mem _ hevent, hle⟩
      · cases hpending : policy.pending with
        | none =>
          obtain ⟨event, hevent, hle⟩ := hI hpending request hrequest
          exact ⟨event, List.mem_cons_of_mem _ hevent, hle⟩
        | some pending =>
          have hlatest := h.pending pending hpending
          rw [hrequest] at hlatest
          obtain rfl := Option.some.inj hlatest
          obtain ⟨event, hevent, heq⟩ := exists_of_unanswered (List.mem_of_mem_head? hrequest)
          have hsince := heq ▸ h.readable event hevent
          exact ⟨_, List.mem_cons_self, le_sub_of_not_lt hnow hsince (hfree request hpending)⟩
    · rw [heq] at hrequest
      cases hrequest
  requests := by
    intro policy weighed past call profile h hI hweighs hnow hnone
    cases hnone

/-- A request is made when none is awaited. -/
theorem free_of_request {policy weighed : AdaptiveVideoPolicy} {c : VideoCall}
    {profile : VideoProfile} (h : Weighs policy c (some profile) weighed) :
    Free policy c.nowMs := by
  cases h.asks with
  | judged haccepts hunbroken hfree hwarm hnext => exact hfree
  | short hvalid hfree hbelow hprofile hlow hdue => exact hfree

/-- **Main result.** Whatever is measured and acknowledged, under a clock that does not go back: a
request is made only when the latest one that is unanswered, if there is one, was made five seconds
before, and when fewer than three are unanswered. So there are three at most before an
acknowledgement has an effect. -/
theorem requests_spaced {profiles : List VideoProfile} {current : VideoProfile}
    {policy : AdaptiveVideoPolicy} (hnew : new profiles current = .ok policy)
    (calls : List VideoCall) :
    (unanswered (run policy calls).past).length ≤ 3 ∧
    ∀ c profile, Chronological (run policy (calls ++ [c])).past →
      ((run policy calls).policy.answer c).1 = some profile →
      (unanswered (run policy calls).past).length < 3 ∧
      ∀ latest, (unanswered (run policy calls).past).head? = some latest →
        (Number.ofInt 5000).le (c.nowMs.sub latest.requestedAt) = true := by
  obtain ⟨htraced, hexpired⟩ := traced_run preserved_expired hnew
    (fun _ _ h => by cases h) calls
  refine ⟨htraced.counted ▸ htraced.coupled.capped, fun c profile hclock hasked => ?_⟩
  obtain ⟨weighed, hweighs, hnow, hcount⟩ := request_weighs htraced hasked
  obtain ⟨hkeeps, -, -⟩ := hweighs.wanted htraced.coupled
  refine ⟨by rwa [← htraced.counted, ← hkeeps.counted], fun latest hlatest => ?_⟩
  obtain ⟨made, hmade, hat⟩ := exists_of_unanswered (List.mem_of_mem_head? hlatest)
  have hsince : isNonNegative latest.requestedAt = true := hat ▸ htraced.readable made hmade
  cases hpending : (run policy calls).policy.pending with
  | some pending =>
    have hhead := htraced.pending pending hpending
    rw [hlatest] at hhead
    obtain rfl := Option.some.inj hhead
    exact le_sub_of_not_lt hnow hsince (free_of_request hweighs latest hpending)
  | none =>
    obtain ⟨event, hevent, hle⟩ := hexpired hpending latest hlatest
    rw [run_snoc, call, if_pos hnow] at hclock
    have hlater := (List.pairwise_cons.1 hclock).1 event hevent
    exact Number.le_trans hle (sub_mono (htraced.readable event hevent) hnow hsince hlater)

/-- A severe shortage, reported every half second while it is waited for. -/
def severeReport (at' : Int) : VideoCall :=
  .observeBandwidth (some (.ofInt 400000)) (some (.ofInt 0)) (.ofInt at')

/-- Five seconds and a half after the first request, the second one. -/
theorem severeReports_spaced :
    let history := run (initial [.p720p30, .p540p30, .p360p30, .p240p30] .p720p30)
      [severeReport 0, severeReport 500, severeReport 5500]
    (unanswered history.past).map (·.requestedAt) = [.ofInt 500] ∧
    (unanswered history.past).length < 3 ∧
    ∀ latest, (unanswered history.past).head? = some latest →
      (Number.ofInt 5000).le ((Number.ofInt 6000).sub latest.requestedAt) = true :=
  ⟨by decide +kernel,
    (requests_spaced (show new [.p240p30, .p360p30, .p540p30, .p720p30] .p720p30 = .ok _ from rfl)
      [severeReport 0, severeReport 500, severeReport 5500]).2 (severeReport 6000) .p240p30
      (by unfold Chronological; decide +kernel) (by decide +kernel)⟩

end VideoHistory

end RcOnline.Web
