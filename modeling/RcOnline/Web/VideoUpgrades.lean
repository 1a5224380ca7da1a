import RcOnline.Web.VideoRequests

/-!
# Upgrades of the video policy

`goodSince` marks an accepted observation: it and all accepted ones since were healthy and had the
bandwidth of the next profile, and no message in between said otherwise (`preserved_upgrading`). So
an upgrade rests on six seconds of such evidence (`upgrades_justified`).
-/

namespace RcOnline.Web

open RcOnline.Lib VideoEvent AdaptiveVideoPolicy

namespace VideoEvent

/-- Nothing is requested, and no acknowledgement has an effect. -/
structure Calm (past : List VideoEvent) (event : VideoEvent) : Prop where
  asked : event.asked = none
  ineffective : ¬ Effective past event

/-- An observation comes between 750 and 3000 ms after the last accepted one. -/
def Steady (past : List VideoEvent) (nowMs : Number) : Prop :=
  ∃ last, lastSample past = some last ∧ (Number.ofInt 750).le (nowMs.sub last) = true ∧
    (nowMs.sub last).le (.ofInt 3000) = true

/-- The least bandwidth with which a profile is upgraded to: 1.25 times its minimum. -/
def upgradeBps (next : VideoProfile) : Number := next.minBps.mul (.finite (5 / 4))

/-- The estimate in force at a time is at most 1500 ms old, and enough for an upgrade. -/
def Affords (next : VideoProfile) (past : List VideoEvent) (nowMs : Number) : Prop :=
  ∃ bandwidth, inForce past = some bandwidth ∧
    (nowMs.sub bandwidth.sampledAt).le bandwidthMaxAgeMs = true ∧
    (upgradeBps next).le bandwidth.bps = true

/-- An event that leaves an upgrade justified. -/
structure Supports (next : VideoProfile) (past : List VideoEvent) (event : VideoEvent) : Prop where
  calm : Calm past event
  sample : ∀ stats nowMs, Sampled past event stats nowMs →
    healthy stats = true ∧ Steady past nowMs ∧ Affords next past nowMs
  report : ∀ bps ageMs nowMs, event.call = .observeBandwidth bps ageMs nowMs →
    ∃ bps' ageMs', validBandwidth bps ageMs = some (bps', ageMs') ∧
      (upgradeBps next).le bps' = true

/-- The history begins with the accepted observation that starts the evidence for an upgrade. -/
def GoodFrom (next : VideoProfile) (since : Number) (base : List VideoEvent) : Prop :=
  ∃ stats earlier, base = ⟨.observe stats since, none⟩ :: earlier ∧
    accepts (lastSample earlier) since = true ∧ healthy stats = true ∧
    Affords next earlier since

end VideoEvent

namespace VideoHistory

section evidence

variable {policy weighed : AdaptiveVideoPolicy} {past : List VideoEvent} {nowMs : Number}

/-- A reading that is the time of some event is a time that can be read. -/
theorem readable_of_reading (h : Traced policy past) {reading : List VideoEvent → Option Number}
    (hnil : reading [] = none)
    (hcons : ∀ event past, reading (event :: past) = some event.call.nowMs ∨
      reading (event :: past) = reading past)
    {last : Number} (hlast : reading past = some last) : isNonNegative last = true := by
  have hreadable := h.readable
  clear h
  induction past with
  | nil =>
    rw [hnil] at hlast
    cases hlast
  | cons event past ih =>
    rcases hcons event past with heq | heq
    · rw [heq] at hlast
      cases hlast
      exact hreadable event List.mem_cons_self
    · rw [heq] at hlast
      exact ih hlast fun e he => hreadable e (List.mem_cons_of_mem _ he)

theorem lastSample_cases (event : VideoEvent) (past : List VideoEvent) :
    lastSample (event :: past) = some event.call.nowMs ∨
      lastSample (event :: past) = lastSample past := by
  obtain ⟨call, asked⟩ := event
  cases call with
  | observe stats nowMs =>
    rw [lastSample]
    split
    · exact .inl rfl
    · exact .inr rfl
  | observeBandwidth bps ageMs nowMs => exact .inr rfl
  | acknowledge profile nowMs => exact .inr rfl

/-- An accepted sample without a gap before it. -/
theorem steady_of_unbroken (h : Traced policy past) (hnow : isNonNegative nowMs = true)
    (haccepts : accepts policy.lastSampleAt nowMs = true)
    (hunbroken : brokenGap policy.lastSampleAt nowMs maxSampleGapMs = false) :
    Steady past nowMs := by
  rw [h.sampled] at haccepts hunbroken
  cases hlast : lastSample past with
  | none =>
    rw [hlast] at hunbroken
    cases hunbroken
  | some last =>
    have hreadable := readable_of_reading h rfl lastSample_cases hlast
    have hnan := sub_ne_nan hnow hreadable
    rw [hlast] at haccepts hunbroken
    simp only [accepts, brokenGap, Option.any_some, Option.all_some, Bool.not_eq_true',
      Bool.and_eq_false_iff, Bool.or_eq_false_iff] at haccepts hunbroken
    refine ⟨last, hlast, ?_, ?_⟩
    · rcases haccepts with hpositive | hlong
      · have hle := Number.le_of_not_lt (by simp [Number.ofInt]) hnan hpositive
        rw [hunbroken.1] at hle
        cases hle
      · exact Number.le_of_not_lt hnan (by simp [Number.ofInt]) hlong
    · exact Number.le_of_not_lt (by simp [Number.ofInt]) hnan hunbroken.2

theorem calm_observe (past : List VideoEvent) (stats : VideoStreamStats) (nowMs : Number) :
    Calm past ⟨.observe stats nowMs, none⟩ :=
  ⟨rfl, fun ⟨_, _, heq, _⟩ => by cases heq⟩

theorem calm_observeBandwidth (past : List VideoEvent) (bps ageMs : Option Number)
    (nowMs : Number) : Calm past ⟨.observeBandwidth bps ageMs nowMs, none⟩ :=
  ⟨rfl, fun ⟨_, _, heq, _⟩ => by cases heq⟩

theorem calm_stray (h : Traced policy past) {profile : VideoProfile}
    (hother : policy.lastRequestedProfile ≠ some profile) (nowMs : Number) :
    Calm past ⟨.acknowledge profile nowMs, none⟩ where
  asked := rfl
  ineffective := by
    rintro ⟨_, _, heq, heffective⟩
    cases heq
    rw [h.requested] at hother
    exact hother heffective

end evidence

/-! ## The mark -/

section mark

variable {policy weighed : AdaptiveVideoPolicy} {past : List VideoEvent} {nowMs : Number}

/-- Where bandwidth is reported, a budget is that of the next profile up. -/
theorem hasUpgradeBudget_iff (hfeedback : policy.bandwidthFeedback = true) :
    policy.hasUpgradeBudget nowMs = true ↔ ∃ next bandwidth,
      profileAt policy.profiles (policy.currentIndex - 1) = some next ∧
      policy.bandwidth = some bandwidth ∧
      (nowMs.sub bandwidth.sampledAt).le bandwidthMaxAgeMs = true ∧
      (upgradeBps next).le bandwidth.bps = true := by
  unfold hasUpgradeBudget
  rw [hfeedback, Bool.not_true, if_neg Bool.false_ne_true]
  cases profileAt policy.profiles (policy.currentIndex - 1) with
  | none => simp
  | some next =>
    cases policy.bandwidth with
    | none => simp
    | some bandwidth => simp [upgradeBps]

/-- `goodSince` marks the observation that the evidence for an upgrade starts with. -/
def Upgrading (policy : AdaptiveVideoPolicy) (past : List VideoEvent) : Prop :=
  policy.bandwidthFeedback = true → ∀ next,
    profileAt policy.profiles (policy.currentIndex - 1) = some next →
    Marked (GoodFrom next) (Supports next) policy.goodSince past

theorem affords_of_budget (h : Traced policy past) (hfeedback : policy.bandwidthFeedback = true)
    {next : VideoProfile}
    (hnext : profileAt policy.profiles (policy.currentIndex - 1) = some next)
    (hbudget : policy.hasUpgradeBudget nowMs = true) : Affords next past nowMs := by
  obtain ⟨next', bandwidth, hnext', hbandwidth, hage, hbps⟩ :=
    (hasUpgradeBudget_iff hfeedback).1 hbudget
  rw [hnext] at hnext'
  obtain rfl := Option.some.inj hnext'
  exact ⟨bandwidth, h.bandwidth ▸ hbandwidth, hage, hbps⟩

/-- A judged sample keeps the mark, or sets it, when it is healthy and the budget is there. -/
theorem goodSince_judge {stats : VideoStreamStats} {since : Number}
    (h : (policy.judge stats nowMs).goodSince = some since) :
    healthy stats = true ∧ policy.hasUpgradeBudget nowMs = true ∧
      (policy.goodSince = some since ∨ since = nowMs) := by
  rw [judge_goodSince] at h
  split at h
  · cases h
  · split at h
    · next hgood =>
      obtain ⟨hhealthy, hbudget⟩ := Bool.and_eq_true_iff.1 hgood
      refine ⟨hhealthy, hbudget, ?_⟩
      cases hold : policy.goodSince with
      | none =>
        rw [hold] at h
        exact .inr (Option.some.inj h).symm
      | some old =>
        rw [hold] at h
        exact .inl h
    · cases h

/-- A valid estimate leaves the mark only where it is enough for an upgrade. -/
theorem goodSince_estimate {bps ageMs since : Number}
    (h : (policy.estimate bps ageMs nowMs).goodSince = some since) :
    policy.bandwidthFeedback = true ∧ policy.goodSince = some since ∧
      ∀ next, profileAt policy.profiles (policy.currentIndex - 1) = some next →
        (upgradeBps next).le bps = true := by
  unfold estimate keepEstimate at h
  dsimp only at h
  split at h
  · next hbudget =>
    have hstart : policy.bandwidthFeedback = true ∧ policy.goodSince = some since := by
      unfold startReport at h
      dsimp only at h
      split at h
      · next hfeedback =>
        split at h
        · cases h
        · exact ⟨hfeedback, h⟩
      · split at h <;> cases h
    refine ⟨hstart.1, hstart.2, fun next hnext => ?_⟩
    have hfeedback : (policy.startReport nowMs).bandwidthFeedback = true :=
      (startReport_rest policy nowMs).2.1
    have hkeeps := keeps_startReport policy nowMs
    obtain ⟨next', bandwidth, hnext', hbandwidth, -, hbps⟩ :=
      (hasUpgradeBudget_iff (show { policy.startReport nowMs with
        bandwidth := some { bps, sampledAt := nowMs.sub ageMs } }.bandwidthFeedback = true
        from hfeedback)).1 hbudget
    simp only [currentIndex, hkeeps.profiles, hkeeps.current] at hnext'
    rw [currentIndex, hnext'] at hnext
    obtain rfl := Option.some.inj hnext
    obtain rfl := Option.some.inj hbandwidth
    exact hbps
  · cases h

/-- A bandwidth message keeps the mark where it is valid and enough. -/
theorem supports_report {bps ageMs : Option Number} {bps' ageMs' : Number} {next : VideoProfile}
    (hvalid : validBandwidth bps ageMs = some (bps', ageMs'))
    (hbps : (upgradeBps next).le bps' = true) :
    Supports next past ⟨.observeBandwidth bps ageMs nowMs, none⟩ where
  calm := calm_observeBandwidth past bps ageMs nowMs
  sample := fun _ _ h => by cases h.1
  report := fun _ _ _ heq => by
    cases heq
    exact ⟨bps', ageMs', hvalid, hbps⟩

theorem preserved_upgrading : Preserved Upgrading where
  weighs := by
    intro policy weighed past call want h hI hweighs hnow hfeedback next hnext
    have hestimate : ∀ {bps ageMs : Option Number} {bps' ageMs' nowMs : Number}
        {weighed : AdaptiveVideoPolicy}, validBandwidth bps ageMs = some (bps', ageMs') →
        weighed.goodSince = (policy.estimate bps' ageMs' nowMs).goodSince →
        Keeps policy weighed →
        profileAt weighed.profiles (weighed.currentIndex - 1) = some next →
        Marked (GoodFrom next) (Supports next) weighed.goodSince
          (⟨.observeBandwidth bps ageMs nowMs, none⟩ :: past) := by
      intro bps ageMs bps' ageMs' nowMs weighed hvalid heq hkeeps hnext since hsince
      rw [heq] at hsince
      obtain ⟨hfeedback, hold, hbps⟩ := goodSince_estimate hsince
      rw [currentIndex, hkeeps.profiles, hkeeps.current] at hnext
      obtain ⟨base, hbase, hpast⟩ := hI hfeedback next hnext since hold
      exact ⟨base, hbase, hpast.cons (supports_report hvalid (hbps next hnext))⟩
    cases hweighs with
    | @ignored stats nowMs haccepts =>
      rw [h.sampled] at haccepts
      refine (hI hfeedback next hnext).cons fun since hsince => .inl ⟨hsince, ?_⟩
      refine ⟨calm_observe past stats nowMs, ?_, fun _ _ _ heq => by cases heq⟩
      rintro _ _ ⟨heq, hsampled⟩
      cases heq
      rw [haccepts] at hsampled
      cases hsampled
    | skipped haccepts hpending => exact .none
    | @judged stats nowMs haccepts hunbroken hfree hwarm =>
      obtain ⟨-, -, hfeedback', hprofiles, hcurrent⟩ := judge_rest policy stats nowMs
      rw [hfeedback'] at hfeedback
      rw [currentIndex, hprofiles, hcurrent] at hnext
      refine (hI hfeedback next hnext).cons fun since hsince => ?_
      obtain ⟨hhealthy, hbudget, hold⟩ := goodSince_judge hsince
      have haffords := affords_of_budget h hfeedback hnext hbudget
      rcases hold with hold | rfl
      · refine .inl ⟨hold, calm_observe past stats nowMs, ?_, fun _ _ _ heq => by cases heq⟩
        rintro _ _ ⟨heq, -⟩
        cases heq
        exact ⟨hhealthy, steady_of_unbroken h hnow haccepts hunbroken, haffords⟩
      · rw [h.sampled] at haccepts
        exact .inr ⟨stats, past, rfl, haccepts, hhealthy, haffords⟩
    | unusable hinvalid => exact .none
    | awaiting hvalid hbusy =>
      exact hestimate hvalid rfl (keeps_estimate policy _ _ _) hnext
    | enough hvalid hfree =>
      exact hestimate hvalid rfl
        ((keeps_estimate policy _ _ _).trans ⟨rfl, rfl, rfl, rfl, .inr rfl⟩) hnext
    | short hvalid hfree hbelow htarget hlow =>
      exact hestimate hvalid rfl
        ((keeps_estimate policy _ _ _).trans ⟨rfl, rfl, rfl, rfl, .inr rfl⟩) hnext
    | @stray profile nowMs hother =>
      refine (hI hfeedback next hnext).cons fun since hsince => .inl ⟨hsince, ?_⟩
      exact ⟨calm_stray h hother nowMs, (fun _ _ hsampled => by cases hsampled.1),
        fun _ _ _ heq => by cases heq⟩
    | effective hlatest => exact .none
  requests := fun _ _ _ _ _ _ _ => .none

end mark

/-! ## Upgrades -/

/-- An upgrade at an observation rests on six seconds of healthy observations with the bandwidth. -/
structure UpgradeJustified (past : List VideoEvent) (stats : VideoStreamStats) (nowMs : Number)
    (profile : VideoProfile) : Prop where
  accepted : accepts (lastSample past) nowMs = true
  healthy : healthy stats = true
  steady : Steady past nowMs
  affords : Affords profile past nowMs
  since : ∃ since base, GoodFrom profile since base ∧ Since (Supports profile) base past ∧
    (Number.ofInt 6000).le (nowMs.sub since) = true

/-- What the counters ask for is a lower profile, or the next one up after six good seconds. -/
theorem good_of_next {policy : AdaptiveVideoPolicy} (hcoupled : Coupled policy) {nowMs : Number}
    {profile : VideoProfile} (hnext : policy.next nowMs = some profile)
    (hhigher : rank profile < rank policy.current) :
    profileAt policy.profiles (policy.currentIndex - 1) = some profile ∧
      ∃ since, policy.goodSince = some since ∧
        (Number.ofInt 6000).le (nowMs.sub since) = true := by
  have hlower : profile ∉ policy.lower := fun hmem =>
    (hcoupled.rank_lower hmem).2.asymm hhigher
  unfold next at hnext
  split at hnext
  · rw [Option.or_eq_some_iff] at hnext
    rcases hnext with hfind | ⟨-, hsucc⟩
    · exact absurd (List.mem_of_find?_eq_some hfind) hlower
    · exact absurd (hcoupled.profileAt_succ hsucc) hlower
  · split at hnext
    · exact absurd (hcoupled.profileAt_succ hnext) hlower
    · split at hnext
      · next hgood =>
        obtain ⟨since, hsince, hlong⟩ := Option.any_eq_true .. |>.mp hgood
        exact ⟨hnext, since, hsince, hlong⟩
      · cases hnext

/-- **Main result.** Whatever is measured, reported and acknowledged, and whatever the clock does:
where bandwidth has been reported, an observation asks for a higher profile only after six seconds
of evidence, and then for the next one up. -/
theorem upgrades_justified {profiles : List VideoProfile} {current : VideoProfile}
    {policy : AdaptiveVideoPolicy} (hnew : new profiles current = .ok policy)
    (calls : List VideoCall) {stats : VideoStreamStats} {nowMs : Number} {profile : VideoProfile}
    (hreported : (lastReport (run policy calls).past).isSome = true)
    (hasked : ((run policy calls).policy.observe stats nowMs).1 = some profile)
    (hhigher : rank profile < rank (run policy calls).policy.current) :
    NextUp (run policy calls).policy profile ∧
      UpgradeJustified (run policy calls).past stats nowMs profile := by
  have hstart : Upgrading policy [] := by
    obtain ⟨-, rfl⟩ := new_eq hnew
    exact fun _ _ _ => .none
  obtain ⟨htraced, hnow, weighed, hasks, hkeeps, hmark⟩ :=
    asks_run preserved_upgrading hnew hstart calls (c := .observe stats nowMs) hasked
  generalize run policy calls = history at *
  obtain ⟨policy, past⟩ := history
  dsimp only at *
  cases hasks with
  | judged haccepts hunbroken hfree hwarm hnext =>
    obtain ⟨hnext, since, hsince, hlong⟩ := good_of_next (htraced.coupled.keeps hkeeps) hnext
      (hkeeps.current ▸ hhigher)
    have hfeedback : (policy.judge stats nowMs).bandwidthFeedback = true :=
      ((judge_rest policy stats nowMs).2.2.1.trans htraced.feedback).trans hreported
    obtain ⟨base, hbase, hpast⟩ := hmark hfeedback profile hnext since hsince
    have hup : NextUp policy profile := by
      rw [currentIndex, hkeeps.profiles, hkeeps.current] at hnext
      exact htraced.coupled.profileAt_pred hnext
    refine ⟨hup, ?_⟩
    cases hpast with
    | refl =>
      obtain ⟨_, _, hcons, -⟩ := hbase
      cases hcons
      have hreadable : isNonNegative nowMs = true := hnow
      rw [sub_self_of_readable hreadable] at hlong
      exact absurd hlong (by decide +kernel)
    | cons hpast hentry =>
      rw [htraced.sampled] at haccepts
      obtain ⟨hhealthy, hsteady, haffords⟩ := hentry.sample stats nowMs ⟨rfl, haccepts⟩
      exact ⟨haccepts, hhealthy, hsteady, haffords, since, base, hbase, hpast, hlong⟩

/-- A good observation. -/
def goodSample : VideoStreamStats where
  fps := some (.ofInt 30)
  rttMs := some (.ofInt 60)
  jitterMs := some (.ofInt 10)
  lossRatio := some (.ofInt 0)
  jitterBufferMs := some (.ofInt 20)
  stalled := false

/-- Every second a report of 1.1 Mbit/s and a good observation. -/
def goodSeconds (seconds : Nat) : List VideoCall :=
  (List.range seconds).flatMap fun second =>
    [.observeBandwidth (some (.ofInt 1100000)) (some (.ofInt 0)) (.ofInt (second * 1000)),
      .observe goodSample (.ofInt (second * 1000))]

/-- Three seconds of warmup and six good ones: from 360p to 540p. -/
theorem goodSeconds_justified :
    let history := run (initial [.p720p30, .p540p30, .p360p30, .p240p30] .p360p30)
      (goodSeconds 9 ++ [.observeBandwidth (some (.ofInt 1100000)) (some (.ofInt 0)) (.ofInt 9000)])
    NextUp history.policy .p540p30 ∧
      UpgradeJustified history.past goodSample (.ofInt 9000) .p540p30 :=
  upgrades_justified (show new [.p240p30, .p360p30, .p540p30, .p720p30] .p360p30 =
      .ok (initial [.p720p30, .p540p30, .p360p30, .p240p30] .p360p30) from rfl)
    (goodSeconds 9 ++ [.observeBandwidth (some (.ofInt 1100000)) (some (.ofInt 0)) (.ofInt 9000)])
    (by decide +kernel) (by decide +kernel) (by decide +kernel)

end VideoHistory

end RcOnline.Web
