import RcOnline.Web.VideoShortages

/-!
# Impaired observations

`firstSampleAt` marks the first observation of an uninterrupted run, `badSamples` counts the
impaired ones at the end of the history, each of them after the warmup, and `lowFpsSamples` those at
its end with a low frame rate (`preserved_counting`). So a downgrade by an observation rests on
three impaired observations in a row (`impairments_justified`).
-/

namespace RcOnline.Web

open RcOnline.Lib VideoEvent AdaptiveVideoPolicy

namespace VideoEvent

/-- The event is no accepted observation after a gap. -/
def Unbroken (past : List VideoEvent) (event : VideoEvent) : Prop :=
  ∀ stats nowMs, Sampled past event stats nowMs → Steady past nowMs

/-- The history begins with the first observation of an uninterrupted run. -/
def Opens (first : Number) (opening : List VideoEvent) : Prop :=
  ∃ event stats earlier, opening = event :: earlier ∧ Sampled earlier event stats first ∧
    brokenGap (lastSample earlier) first maxSampleGapMs = true

/-- An event among impaired observations after the warmup of a run. -/
structure Impairs (first : Number) (past : List VideoEvent) (event : VideoEvent) : Prop where
  calm : Calm past event
  sample : ∀ stats nowMs, Sampled past event stats nowMs → impaired stats = true ∧
    Steady past nowMs ∧ (Number.ofInt 3000).le (nowMs.sub first) = true

theorem Impairs.unbroken {first : Number} {past : List VideoEvent} {event : VideoEvent}
    (h : Impairs first past event) : Unbroken past event :=
  fun stats nowMs hsampled => (h.sample stats nowMs hsampled).2.1

theorem samples_of_sampled {past : List VideoEvent} {event : VideoEvent} {stats : VideoStreamStats}
    {nowMs : Number} (h : Sampled past event stats nowMs) :
    samples (event :: past) = stats :: samples past := by
  obtain ⟨call, asked⟩ := event
  obtain ⟨rfl, haccepts⟩ := h
  rw [samples, haccepts, if_pos rfl]

theorem samples_of_not_sampled {past : List VideoEvent} {event : VideoEvent}
    (h : ∀ stats nowMs, ¬ Sampled past event stats nowMs) :
    samples (event :: past) = samples past := by
  obtain ⟨call, asked⟩ := event
  cases call with
  | observe stats nowMs =>
    rw [samples, if_neg]
    exact fun haccepts => h stats nowMs ⟨rfl, haccepts⟩
  | observeBandwidth bps ageMs nowMs => rfl
  | acknowledge profile nowMs => rfl

end VideoEvent

namespace AdaptiveVideoPolicy

/-- The highest supported lower profile with fewer lines, or the next one down where there is
none. -/
def FewerLines (policy : AdaptiveVideoPolicy) (profile : VideoProfile) : Prop :=
  HighestLower policy (·.height < policy.current.height) profile ∨
    (∀ other ∈ policy.profiles, rank policy.current < rank other →
      ¬ other.height < policy.current.height) ∧
    HighestLower policy (fun _ => True) profile

theorem highestLower_congr {policy after : AdaptiveVideoPolicy} (h : Keeps policy after)
    (P : VideoProfile → Prop) : HighestLower after P = HighestLower policy P := by
  obtain ⟨hprofiles, hcurrent, -, -, -⟩ := h
  funext profile
  apply propext
  constructor
  · rintro ⟨hmem, hlower, hmeets, hhighest⟩
    rw [hprofiles, hcurrent] at *
    exact ⟨hmem, hlower, hmeets, hhighest⟩
  · rintro ⟨hmem, hlower, hmeets, hhighest⟩
    rw [← hprofiles, ← hcurrent] at *
    exact ⟨hmem, hlower, hmeets, hhighest⟩

theorem profileAt_next (policy : AdaptiveVideoPolicy) :
    profileAt policy.profiles (policy.currentIndex + 1) = policy.lower.find? fun _ => true := by
  have hindex : ¬ policy.currentIndex + 1 < 0 := by
    unfold currentIndex indexOf
    split <;> omega
  have hhead : ∀ profiles : List VideoProfile, profiles.find? (fun _ => true) = profiles.head? := by
    intro profiles
    cases profiles <;> rfl
  rw [profileAt, if_neg hindex, lower, hhead, List.head?_drop]

theorem Coupled.fewerLines_spec {policy : AdaptiveVideoPolicy} (h : Coupled policy)
    {nowMs : Number} {profile : VideoProfile} (hlow : 3 ≤ policy.lowFpsSamples)
    (hnext : policy.next nowMs = some profile) : FewerLines policy profile := by
  rw [next, if_pos hlow, profileAt_next] at hnext
  rcases Option.or_eq_some_iff.1 hnext with hfind | ⟨hnone, hsucc⟩
  · have hhighest := h.find_lower hfind
    exact .inl ⟨hhighest.supported, hhighest.lower, of_decide_eq_true hhighest.meets,
      fun other hother hlower hlines =>
        hhighest.highest other hother hlower (decide_eq_true hlines)⟩
  · have hhighest := h.find_lower hsucc
    exact .inr ⟨fun other hother hlower => of_decide_eq_false (h.find_lower_none hnone other hother
        hlower), hhighest.supported, hhighest.lower, trivial,
      fun other hother hlower _ => hhighest.highest other hother hlower rfl⟩

end AdaptiveVideoPolicy

namespace VideoHistory

section counters

variable {policy weighed : AdaptiveVideoPolicy} {past : List VideoEvent} {nowMs : Number}

/-- The last observations that `badSamples` counts, in the run that `firstSampleAt` opens. -/
def Counted (first : Number) (count : Nat) (past : List VideoEvent) : Prop :=
  ∃ opening base, Opens first opening ∧ Since Unbroken opening base ∧
    Since (Impairs first) base past ∧ (samples past).length = (samples base).length + count

/-- The counters are those of the last observations. -/
structure Counting (policy : AdaptiveVideoPolicy) (past : List VideoEvent) : Prop where
  counted : ∀ first, policy.firstSampleAt = some first → Counted first policy.badSamples past
  impaired : ∀ stats ∈ (samples past).take policy.badSamples, impaired stats = true
  fewer : policy.lowFpsSamples ≤ policy.badSamples
  lowFps : ∀ count ≤ policy.badSamples,
    (∀ stats ∈ (samples past).take count, lowFps stats = true) → count ≤ policy.lowFpsSamples

/-- The run goes on without a counted observation. -/
theorem Counted.restart {first : Number} {count : Nat} {event : VideoEvent}
    (h : Counted first count past) (hunbroken : Unbroken past event) :
    Counted first 0 (event :: past) := by
  obtain ⟨opening, base, hopens, hrun, hpast, -⟩ := h
  have hwhole := hrun.trans (hpast.imp fun _ _ => Impairs.unbroken)
  exact ⟨opening, event :: past, hopens, hwhole.cons hunbroken, .refl, rfl⟩

/-- An event that is no accepted observation leaves the count. -/
theorem Counted.calm {first : Number} {count : Nat} {event : VideoEvent}
    (h : Counted first count past) (hcalm : Calm past event)
    (hsampled : ∀ stats nowMs, ¬ Sampled past event stats nowMs) :
    Counted first count (event :: past) := by
  obtain ⟨opening, base, hopens, hrun, hpast, hcount⟩ := h
  refine ⟨opening, base, hopens, hrun, hpast.cons ⟨hcalm, ?_⟩, ?_⟩
  · exact fun stats nowMs h => absurd h (hsampled stats nowMs)
  · rw [samples_of_not_sampled hsampled, hcount]

/-- Without a count there is nothing to say of it but where the run opens. -/
theorem Counting.uncounted {event : VideoEvent} (hbad : weighed.badSamples = 0)
    (hlow : weighed.lowFpsSamples = 0)
    (hcounted : ∀ first, weighed.firstSampleAt = some first → Counted first 0 (event :: past)) :
    Counting weighed (event :: past) where
  counted := by rwa [hbad]
  impaired := by
    rw [hbad, List.take_zero]
    exact fun _ hmem => absurd hmem List.not_mem_nil
  fewer := by rw [hbad, hlow]
  lowFps := fun count hcount _ => by omega

/-- What is no accepted observation may empty the counters. -/
theorem Counting.emptied (h : Counting policy past) {event : VideoEvent}
    (hsampled : ∀ stats nowMs, ¬ Sampled past event stats nowMs)
    (hfirst : weighed.firstSampleAt = policy.firstSampleAt) (hbad : weighed.badSamples = 0)
    (hlow : weighed.lowFpsSamples = 0) : Counting weighed (event :: past) := by
  refine .uncounted hbad hlow fun first hsome => ?_
  rw [hfirst] at hsome
  exact (h.counted first hsome).restart fun stats nowMs h => absurd h (hsampled stats nowMs)

/-- What is no accepted observation keeps the counters, or empties them. -/
theorem Counting.calm (h : Counting policy past) {event : VideoEvent} (hcalm : Calm past event)
    (hsampled : ∀ stats nowMs, ¬ Sampled past event stats nowMs)
    (hfirst : weighed.firstSampleAt = policy.firstSampleAt)
    (hcounters : weighed.badSamples = policy.badSamples ∧
        weighed.lowFpsSamples = policy.lowFpsSamples ∨
      weighed.badSamples = 0 ∧ weighed.lowFpsSamples = 0) :
    Counting weighed (event :: past) := by
  rcases hcounters with ⟨hbad, hlow⟩ | ⟨hbad, hlow⟩
  · constructor
    case counted =>
      rw [hfirst, hbad]
      exact fun first hsome => (h.counted first hsome).calm hcalm hsampled
    case impaired =>
      rw [samples_of_not_sampled hsampled, hbad]
      exact h.impaired
    case fewer =>
      rw [hbad, hlow]
      exact h.fewer
    case lowFps =>
      rw [samples_of_not_sampled hsampled, hbad, hlow]
      exact h.lowFps
  · exact h.emptied hsampled hfirst hbad hlow

/-- A message keeps the counters, or empties them when it is the first one. -/
theorem counters_estimate (policy : AdaptiveVideoPolicy) (bps ageMs nowMs : Number) :
    (policy.estimate bps ageMs nowMs).badSamples = policy.badSamples ∧
        (policy.estimate bps ageMs nowMs).lowFpsSamples = policy.lowFpsSamples ∨
      (policy.estimate bps ageMs nowMs).badSamples = 0 ∧
        (policy.estimate bps ageMs nowMs).lowFpsSamples = 0 := by
  unfold estimate keepEstimate startReport
  dsimp only
  split
  · left
    split <;> split <;> exact ⟨rfl, rfl⟩
  · right
    split <;> split <;> exact ⟨rfl, rfl⟩

theorem counters_startReport (policy : AdaptiveVideoPolicy) (nowMs : Number) :
    (policy.startReport nowMs).badSamples = policy.badSamples ∧
        (policy.startReport nowMs).lowFpsSamples = policy.lowFpsSamples ∨
      (policy.startReport nowMs).badSamples = 0 ∧
        (policy.startReport nowMs).lowFpsSamples = 0 := by
  unfold startReport
  dsimp only
  split
  · left
    split <;> exact ⟨rfl, rfl⟩
  · right
    split <;> exact ⟨rfl, rfl⟩

/-- An accepted observation goes on with the run, or opens one. -/
theorem Counting.opened (h : Counting policy past) (htraced : Traced policy past)
    {call : VideoCall} {asked : Option VideoProfile} {stats : VideoStreamStats}
    (hcall : call = .observe stats nowMs) (hnow : isNonNegative nowMs = true)
    (haccepts : accepts policy.lastSampleAt nowMs = true) {first : Number}
    (hfirst : (if brokenGap policy.lastSampleAt nowMs maxSampleGapMs then some nowMs
      else policy.firstSampleAt) = some first) :
    Counted first 0 (⟨call, asked⟩ :: past) := by
  subst hcall
  have hsampled : Sampled past ⟨.observe stats nowMs, asked⟩ stats nowMs :=
    ⟨rfl, htraced.sampled ▸ haccepts⟩
  cases hbroken : brokenGap policy.lastSampleAt nowMs maxSampleGapMs with
  | true =>
    rw [hbroken, if_pos rfl] at hfirst
    obtain rfl := Option.some.inj hfirst
    rw [htraced.sampled] at hbroken
    exact ⟨_, _, ⟨_, stats, past, rfl, hsampled, hbroken⟩, .refl, .refl, rfl⟩
  | false =>
    rw [hbroken, if_neg Bool.false_ne_true] at hfirst
    refine (h.counted first hfirst).restart fun stats' nowMs' h => ?_
    cases h.1
    exact steady_of_unbroken htraced hnow haccepts hbroken

theorem impaired_of_lowFps {stats : VideoStreamStats} (h : lowFps stats = true) :
    AdaptiveVideoPolicy.impaired stats = true := by
  simp [AdaptiveVideoPolicy.impaired, h]

/-- After the warmup, the run has been open for three seconds. -/
theorem warm_of_opens (htraced : Traced policy past) {first : Number} {opening : List VideoEvent}
    (hopens : Opens first opening) (hsuffix : opening <:+ past) (hnow : isNonNegative nowMs = true)
    (hfirst : policy.firstSampleAt = some first) (hwarm : policy.warmingUp nowMs = false) :
    (Number.ofInt 3000).le (nowMs.sub first) = true := by
  obtain ⟨event, stats, earlier, rfl, hsampled, -⟩ := hopens
  have hreadable : isNonNegative first = true := by
    have hevent := htraced.readable event (hsuffix.subset List.mem_cons_self)
    rwa [hsampled.1] at hevent
  rw [warmingUp, hfirst, Bool.or_eq_false_iff, Option.all_some] at hwarm
  exact le_sub_of_not_lt hnow hreadable hwarm.1

/-- A judged observation counts where it is impaired, and empties the counters where it is not. -/
theorem Counting.judge (h : Counting policy past) (htraced : Traced policy past)
    {stats : VideoStreamStats} (hnow : isNonNegative nowMs = true)
    (haccepts : accepts policy.lastSampleAt nowMs = true)
    (hunbroken : brokenGap policy.lastSampleAt nowMs maxSampleGapMs = false)
    (hwarm : policy.warmingUp nowMs = false) :
    Counting (policy.judge stats nowMs) (⟨.observe stats nowMs, none⟩ :: past) := by
  have hsampled : Sampled past ⟨.observe stats nowMs, none⟩ stats nowMs :=
    ⟨rfl, htraced.sampled ▸ haccepts⟩
  have hfirst := (judge_rest policy stats nowMs).2.1
  have hbad := judge_badSamples policy stats nowMs
  have hlow := judge_lowFpsSamples policy stats nowMs
  cases himpaired : AdaptiveVideoPolicy.impaired stats with
  | false =>
    have hfps : AdaptiveVideoPolicy.lowFps stats = false := by
      by_contra hfps
      rw [Bool.not_eq_false] at hfps
      rw [impaired_of_lowFps hfps] at himpaired
      cases himpaired
    rw [himpaired] at hbad
    rw [hfps] at hlow
    refine .uncounted hbad hlow fun first hsome => ?_
    refine h.opened htraced rfl hnow haccepts ?_
    rw [hunbroken, if_neg Bool.false_ne_true, ← hfirst, hsome]
  | true =>
    rw [himpaired, if_pos rfl] at hbad
    constructor
    case counted =>
      intro first hsome
      rw [hfirst] at hsome
      obtain ⟨opening, base, hopens, hrun, hpast, hcount⟩ := h.counted first hsome
      have hwhole := hrun.trans (hpast.imp fun _ _ => Impairs.unbroken)
      have hover := warm_of_opens htraced hopens hwhole.suffix hnow hsome hwarm
      refine ⟨opening, base, hopens, hrun, hpast.cons ⟨calm_observe past stats nowMs, ?_⟩, ?_⟩
      · intro stats' nowMs' h
        cases h.1
        exact ⟨himpaired, steady_of_unbroken htraced hnow haccepts hunbroken, hover⟩
      · rw [samples_of_sampled hsampled, hbad, List.length_cons, hcount]
        omega
    case impaired =>
      rw [samples_of_sampled hsampled, hbad, List.take_succ_cons]
      intro sample hmem
      rcases List.mem_cons.1 hmem with rfl | hmem
      · exact himpaired
      · exact h.impaired sample hmem
    case fewer =>
      rw [hbad, hlow]
      have hfewer := h.fewer
      split <;> omega
    case lowFps =>
      rw [samples_of_sampled hsampled, hbad, hlow]
      intro count hcount hall
      cases count with
      | zero => exact Nat.zero_le _
      | succ count =>
        rw [List.take_succ_cons] at hall
        have hearlier := h.lowFps count (by omega) fun sample hmem =>
          hall sample (List.mem_cons_of_mem _ hmem)
        rw [hall stats List.mem_cons_self, if_pos rfl]
        omega

theorem not_sampled_report {bps ageMs : Option Number} {asked : Option VideoProfile}
    (stats : VideoStreamStats) (at' : Number) :
    ¬ Sampled past ⟨.observeBandwidth bps ageMs nowMs, asked⟩ stats at' := by
  rintro ⟨heq, -⟩
  cases heq

theorem not_sampled_acknowledge {profile : VideoProfile} {asked : Option VideoProfile}
    (stats : VideoStreamStats) (at' : Number) :
    ¬ Sampled past ⟨.acknowledge profile nowMs, asked⟩ stats at' := by
  rintro ⟨heq, -⟩
  cases heq

theorem preserved_counting : Preserved Counting where
  weighs := by
    intro policy weighed past call want htraced h hweighs hnow
    cases hweighs with
    | @ignored stats nowMs haccepts =>
      refine h.calm (calm_observe past stats nowMs) ?_ rfl (.inl ⟨rfl, rfl⟩)
      rintro _ _ ⟨heq, hsampled⟩
      cases heq
      rw [← htraced.sampled, haccepts] at hsampled
      cases hsampled
    | skipped haccepts hpending =>
      exact .uncounted rfl rfl fun first hsome => h.opened htraced rfl hnow haccepts hsome
    | judged haccepts hunbroken hfree hwarm =>
      exact h.judge htraced hnow haccepts hunbroken hwarm
    | @unusable bps ageMs nowMs hinvalid =>
      exact h.calm (calm_observeBandwidth past bps ageMs nowMs) not_sampled_report
        (startReport_rest policy nowMs).2.2.2.2 (counters_startReport policy nowMs)
    | @awaiting bps ageMs bps' ageMs' nowMs hvalid hbusy =>
      exact h.calm (calm_observeBandwidth past bps ageMs nowMs) not_sampled_report
        (estimate_rest policy bps' ageMs' nowMs).2.2.2.2.1
        (counters_estimate policy bps' ageMs' nowMs)
    | @enough bps ageMs bps' ageMs' nowMs hvalid hfree =>
      exact h.calm (calm_observeBandwidth past bps ageMs nowMs) not_sampled_report
        (estimate_rest policy bps' ageMs' nowMs).2.2.2.2.1
        (counters_estimate policy bps' ageMs' nowMs)
    | @short bps ageMs bps' ageMs' nowMs target low hvalid hfree hbelow htarget hlow =>
      exact h.calm (calm_observeBandwidth past bps ageMs nowMs) not_sampled_report
        (estimate_rest policy bps' ageMs' nowMs).2.2.2.2.1
        (counters_estimate policy bps' ageMs' nowMs)
    | @stray profile nowMs hother =>
      exact h.calm (calm_stray htraced hother nowMs) not_sampled_acknowledge rfl (.inl ⟨rfl, rfl⟩)
    | effective hlatest => exact h.emptied not_sampled_acknowledge rfl rfl rfl
  requests := by
    intro policy weighed past call profile htraced h hweighs hnow
    cases hweighs.asks with
    | @judged stats nowMs _ haccepts hunbroken hfree hwarm hnext =>
      have hnow : isNonNegative nowMs = true := hnow
      refine .uncounted rfl rfl fun first hsome => h.opened htraced rfl hnow haccepts ?_
      rw [hunbroken, if_neg Bool.false_ne_true, ← hsome]
      exact (judge_rest policy stats nowMs).2.1.symm
    | @short bps ageMs bps' ageMs' nowMs _ low hvalid hfree hbelow hprofile hlow hdue =>
      exact h.emptied not_sampled_report (estimate_rest policy bps' ageMs' nowMs).2.2.2.2.1 rfl rfl

end counters

/-! ## Downgrades -/

/-- A downgrade by an observation rests on three impaired observations in a row, each of them after
three seconds of a run without gaps. -/
structure ImpairmentJustified (policy : AdaptiveVideoPolicy) (past : List VideoEvent)
    (stats : VideoStreamStats) (nowMs : Number) (profile : VideoProfile) : Prop where
  accepted : accepts (lastSample past) nowMs = true
  impaired : ∀ sample ∈ (stats :: samples past).take 3, impaired sample = true
  run : ∃ first opening base, Opens first opening ∧ Since Unbroken opening base ∧
    Since (Impairs first) base past ∧ Steady past nowMs ∧
    (Number.ofInt 3000).le (nowMs.sub first) = true ∧
    (samples base).length + 3 ≤ (stats :: samples past).length
  unreported : lastReport past = none → ∀ change, lastChange past = some change →
    (Number.ofInt 8000).le (nowMs.sub change) = true
  fewer : (∀ sample ∈ (stats :: samples past).take 3, lowFps sample = true) →
    FewerLines policy profile

/-- A lower profile is asked for by the counters. -/
theorem counters_of_next {policy : AdaptiveVideoPolicy} (hcoupled : Coupled policy) {nowMs : Number}
    {profile : VideoProfile} (hnext : policy.next nowMs = some profile)
    (hlower : rank policy.current < rank profile)
    (hfewer : policy.lowFpsSamples ≤ policy.badSamples) :
    3 ≤ policy.badSamples := by
  unfold next at hnext
  split at hnext
  · next hlow => exact hlow.trans hfewer
  · split at hnext
    · next hbad => exact hbad
    · split at hnext
      · exact absurd hlower (hcoupled.profileAt_pred hnext).2.1.asymm
      · cases hnext

theorem lastChange_cases (event : VideoEvent) (past : List VideoEvent) :
    lastChange (event :: past) = some event.call.nowMs ∨
      lastChange (event :: past) = lastChange past := by
  obtain ⟨call, asked⟩ := event
  cases call with
  | observe stats nowMs => exact .inr rfl
  | observeBandwidth bps ageMs nowMs => exact .inr rfl
  | acknowledge profile nowMs =>
    rw [lastChange]
    split
    · exact .inl rfl
    · exact .inr rfl

/-- Where no bandwidth is reported, the warmup includes eight seconds after a change. -/
theorem unreported_of_warm {policy : AdaptiveVideoPolicy} {past : List VideoEvent} {nowMs : Number}
    (htraced : Traced policy past) (hnow : isNonNegative nowMs = true)
    (hwarm : policy.warmingUp nowMs = false) (hreport : lastReport past = none) {change : Number}
    (hchange : lastChange past = some change) :
    (Number.ofInt 8000).le (nowMs.sub change) = true := by
  have hreadable := readable_of_reading htraced rfl lastChange_cases hchange
  rw [warmingUp, Bool.or_eq_false_iff, htraced.feedback, htraced.changed, hreport, hchange] at hwarm
  exact le_sub_of_not_lt hnow hreadable hwarm.2

/-- **Main result.** Whatever is measured, reported and acknowledged, and whatever the clock does:
an observation asks for a lower profile only after three impaired ones in a row, and for one with
fewer lines where all three had a low frame rate. -/
theorem impairments_justified {profiles : List VideoProfile} {current : VideoProfile}
    {policy : AdaptiveVideoPolicy} (hnew : new profiles current = .ok policy)
    (calls : List VideoCall) {stats : VideoStreamStats} {nowMs : Number} {profile : VideoProfile}
    (hasked : ((run policy calls).policy.observe stats nowMs).1 = some profile)
    (hlower : rank (run policy calls).policy.current < rank profile) :
    ImpairmentJustified (run policy calls).policy (run policy calls).past stats nowMs profile := by
  have hstart : Counting policy [] := by
    obtain ⟨-, rfl⟩ := new_eq hnew
    exact ⟨(fun _ hsome => by cases hsome), fun _ hmem => absurd hmem List.not_mem_nil, le_rfl,
      fun _ hcount _ => hcount⟩
  obtain ⟨htraced, hnow, weighed, hasks, hkeeps, hjudged⟩ :=
    asks_run preserved_counting hnew hstart calls (c := .observe stats nowMs) hasked
  generalize run policy calls = history at *
  obtain ⟨policy, past⟩ := history
  dsimp only at *
  cases hasks with
  | judged haccepts hunbroken hfree hwarm hnext =>
    have hcoupled := htraced.coupled.keeps hkeeps
    have hbad := counters_of_next hcoupled hnext (hkeeps.current ▸ hlower) hjudged.fewer
    have hsampled : Sampled past ⟨.observe stats nowMs, none⟩ stats nowMs :=
      ⟨rfl, htraced.sampled ▸ haccepts⟩
    have hsamples := samples_of_sampled hsampled
    have htake : (samples (⟨.observe stats nowMs, none⟩ :: past)).take 3 =
        (stats :: samples past).take 3 := by rw [hsamples]
    constructor
    case accepted => exact hsampled.2
    case impaired =>
      rw [← htake]
      exact fun sample hmem => hjudged.impaired sample (List.take_subset_take_left _ hbad hmem)
    case run =>
      obtain ⟨first, hfirst⟩ : ∃ first, policy.firstSampleAt = some first := by
        cases hfirst : policy.firstSampleAt with
        | none => simp [warmingUp, hfirst] at hwarm
        | some first => exact ⟨first, rfl⟩
      obtain ⟨opening, base, hopens, hrun, hpast, hcount⟩ :=
        hjudged.counted first ((judge_rest policy stats nowMs).2.1.trans hfirst)
      rw [hsamples] at hcount
      cases hpast with
      | refl =>
        rw [hsamples] at hcount
        omega
      | cons hpast hentry =>
        obtain ⟨-, hsteady, hover⟩ := hentry.sample stats nowMs hsampled
        exact ⟨first, opening, base, hopens, hrun, hpast, hsteady, hover, by omega⟩
    case unreported =>
      exact fun hreport change hchange =>
        unreported_of_warm htraced hnow hwarm hreport hchange
    case fewer =>
      intro hall
      have hlow := hjudged.lowFps 3 hbad (by rwa [htake])
      have hfewer := hcoupled.fewerLines_spec hlow hnext
      unfold FewerLines at hfewer ⊢
      rwa [highestLower_congr hkeeps, highestLower_congr hkeeps, hkeeps.profiles,
        hkeeps.current] at hfewer

/-- An observation with 15 frames a second. -/
def slowSample : VideoStreamStats :=
  { goodSample with fps := some (.ofInt 15) }

/-- Four slow observations, the last two of them after the warmup, and one more: from 720p60 not to
720p30, but to 540p. -/
theorem slowSamples_justified :
    let slow at' := .observe slowSample (.ofInt at')
    let history := run (initial [.p720p60, .p720p30, .p540p30, .p360p30] .p720p60)
      [slow 0, slow 1500, slow 3000, slow 4500]
    ImpairmentJustified history.policy history.past slowSample (.ofInt 6000) .p540p30 :=
  impairments_justified (show new [.p360p30, .p540p30, .p720p30, .p720p60] .p720p60 =
      .ok (initial [.p720p60, .p720p30, .p540p30, .p360p30] .p720p60) from rfl)
    [.observe slowSample (.ofInt 0), .observe slowSample (.ofInt 1500),
      .observe slowSample (.ofInt 3000), .observe slowSample (.ofInt 4500)]
    (by decide +kernel) (by decide +kernel)

end VideoHistory

end RcOnline.Web
