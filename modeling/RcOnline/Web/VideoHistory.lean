import RcOnline.Lib.Rounding
import RcOnline.Lib.Since
import RcOnline.Web.AdaptiveVideo

/-!
# What the video policy has been told

The calls of a run at times that can be read, the latest first, with what each of them asked for. A
call at another time does nothing (`answer_unreadable`). From the history alone one reads which
requests are unanswered, which observations were accepted and which estimate is in force; the policy
agrees with these readings (`Traced`), and while it waits for an acknowledgement it has no evidence.
-/

namespace RcOnline.Web

open RcOnline.Lib

/-- When a call is made. -/
def AdaptiveVideoPolicy.VideoCall.nowMs : AdaptiveVideoPolicy.VideoCall → Number
  | .observe _ nowMs => nowMs
  | .observeBandwidth _ _ nowMs => nowMs
  | .acknowledge _ nowMs => nowMs

/-- A call, and the profile that it asked for. -/
structure VideoEvent where
  call : AdaptiveVideoPolicy.VideoCall
  asked : Option VideoProfile

namespace VideoEvent

/-- The requests since the last acknowledgement that had an effect, the latest first. -/
def unanswered : List VideoEvent → List PendingRequest
  | [] => []
  | event :: past =>
    match event.asked, event.call with
    | some profile, call => { profile, requestedAt := call.nowMs } :: unanswered past
    | none, .acknowledge profile _ =>
      if (unanswered past).head?.map (·.profile) = some profile then [] else unanswered past
    | none, _ => unanswered past

/-- An acknowledgement has an effect when it is for the latest request. -/
def Effective (past : List VideoEvent) (event : VideoEvent) : Prop :=
  ∃ profile nowMs, event.call = .acknowledge profile nowMs ∧
    (unanswered past).head?.map (·.profile) = some profile

/-- An observation is accepted unless it comes less than 750 ms after the last accepted one. -/
def accepts (last : Option Number) (nowMs : Number) : Bool :=
  !last.any fun last =>
    (Number.ofInt 0).lt (nowMs.sub last) && (nowMs.sub last).lt (.ofInt 750)

/-- When the last observation was accepted. -/
def lastSample : List VideoEvent → Option Number
  | [] => none
  | ⟨.observe _ nowMs, _⟩ :: past =>
    if accepts (lastSample past) nowMs then some nowMs else lastSample past
  | _ :: past => lastSample past

/-- The measurements of the accepted observations. -/
def samples : List VideoEvent → List VideoStreamStats
  | [] => []
  | ⟨.observe stats nowMs, _⟩ :: past =>
    if accepts (lastSample past) nowMs then stats :: samples past else samples past
  | _ :: past => samples past

/-- The event is an accepted observation. -/
def Sampled (past : List VideoEvent) (event : VideoEvent) (stats : VideoStreamStats)
    (nowMs : Number) : Prop :=
  event.call = .observe stats nowMs ∧ accepts (lastSample past) nowMs = true

/-- When the last bandwidth message came. -/
def lastReport : List VideoEvent → Option Number
  | [] => none
  | ⟨.observeBandwidth _ _ nowMs, _⟩ :: _ => some nowMs
  | _ :: past => lastReport past

/-- The estimate of the last bandwidth message, where that is valid. -/
def inForce : List VideoEvent → Option Bandwidth
  | [] => none
  | ⟨.observeBandwidth bps ageMs nowMs, _⟩ :: _ =>
    (AdaptiveVideoPolicy.validBandwidth bps ageMs).map fun (bps, ageMs) =>
      { bps, sampledAt := nowMs.sub ageMs }
  | _ :: past => inForce past

/-- When the last acknowledgement had an effect. -/
def lastChange : List VideoEvent → Option Number
  | [] => none
  | ⟨.acknowledge profile nowMs, _⟩ :: past =>
    if (unanswered past).head?.map (·.profile) = some profile then some nowMs else lastChange past
  | _ :: past => lastChange past

end VideoEvent

open VideoEvent

/-- A policy and its history. -/
structure VideoHistory where
  policy : AdaptiveVideoPolicy
  past : List VideoEvent

namespace AdaptiveVideoPolicy

/-! ## One call -/

/-- Nothing is awaited at a time: no request is pending, or it was made five seconds ago. -/
def Free (policy : AdaptiveVideoPolicy) (nowMs : Number) : Prop :=
  ∀ pending, policy.pending = some pending →
    (nowMs.sub pending.requestedAt).lt (.ofInt 5000) = false

/-- While an acknowledgement is awaited there is no evidence. -/
def Quiet (policy : AdaptiveVideoPolicy) : Prop :=
  policy.pending.isSome = true → policy.badSamples = 0 ∧ policy.lowFpsSamples = 0 ∧
    policy.goodSince = none ∧ policy.lowBandwidth = none

/-- An accepted observation that is not judged. -/
def skip (policy : AdaptiveVideoPolicy) (pending : Option PendingRequest) (nowMs : Number) :
    AdaptiveVideoPolicy :=
  { policy with
    pending
    firstSampleAt :=
      if brokenGap policy.lastSampleAt nowMs maxSampleGapMs then some nowMs
      else policy.firstSampleAt
    lastSampleAt := some nowMs
    badSamples := 0
    lowFpsSamples := 0
    goodSince := none }

/-- An accepted observation that is judged. -/
def judge (policy : AdaptiveVideoPolicy) (stats : VideoStreamStats) (nowMs : Number) :
    AdaptiveVideoPolicy :=
  { policy with lastSampleAt := some nowMs, pending := none }.assess stats nowMs

/-- What the evidence asks for is requested. -/
def requestNext (policy : AdaptiveVideoPolicy) (nowMs : Number) :
    Option VideoProfile × AdaptiveVideoPolicy :=
  match policy.next nowMs with
  | none => (none, policy)
  | some profile => policy.request profile nowMs

section judge

variable (policy : AdaptiveVideoPolicy) (stats : VideoStreamStats) (nowMs : Number)

theorem judge_lowFpsSamples : (policy.judge stats nowMs).lowFpsSamples =
    if lowFps stats then policy.lowFpsSamples + 1 else 0 := by
  unfold judge assess
  dsimp only
  split <;> rfl

theorem judge_badSamples : (policy.judge stats nowMs).badSamples =
    if impaired stats then policy.badSamples + 1 else 0 := by
  unfold judge assess
  dsimp only
  split <;> rfl

theorem judge_goodSince : (policy.judge stats nowMs).goodSince =
    if impaired stats then none
    else if healthy stats && policy.hasUpgradeBudget nowMs then some (policy.goodSince.getD nowMs)
    else none := by
  unfold judge assess
  dsimp only
  split <;> rfl

theorem judge_rest : (policy.judge stats nowMs).lowBandwidth = policy.lowBandwidth ∧
    (policy.judge stats nowMs).firstSampleAt = policy.firstSampleAt ∧
    (policy.judge stats nowMs).bandwidthFeedback = policy.bandwidthFeedback ∧
    (policy.judge stats nowMs).profiles = policy.profiles ∧
    (policy.judge stats nowMs).current = policy.current := by
  unfold judge assess
  dsimp only
  split <;> exact ⟨rfl, rfl, rfl, rfl, rfl⟩

end judge

/-- The highest lower profile that an estimate affords, or the lowest one. -/
def suitable (policy : AdaptiveVideoPolicy) (bps : Number) : Option VideoProfile :=
  (policy.lower.find? (·.minBps.le bps)).or policy.lower.getLast?

/-- An estimate below 650 kbit/s, whose profile is more than one step down and has fewer lines. -/
def severeFor (policy : AdaptiveVideoPolicy) (bps : Number) (target : VideoProfile) : Bool :=
  bps.lt (.ofInt 650000) && decide (target.height < policy.current.height) &&
    decide (1 < indexOf policy.profiles target - policy.currentIndex)

/-- A shortage of a second, or a severe one of half a second. -/
def due (low : LowBandwidth) (nowMs : Number) : Bool :=
  (Number.ofInt 1000).le (nowMs.sub low.since) ||
    low.severeSince.any fun since => (Number.ofInt 500).le (nowMs.sub since)

/-- The policy with a valid estimate. -/
def estimate (policy : AdaptiveVideoPolicy) (bps ageMs nowMs : Number) : AdaptiveVideoPolicy :=
  (policy.startReport nowMs).keepEstimate bps ageMs nowMs

/-- The policy with the evidence after a call, and what the evidence asks for. -/
inductive Weighs (policy : AdaptiveVideoPolicy) :
    VideoCall → Option VideoProfile → AdaptiveVideoPolicy → Prop where
  | ignored {stats : VideoStreamStats} {nowMs : Number}
      (haccepts : accepts policy.lastSampleAt nowMs = false) :
      Weighs policy (.observe stats nowMs) none policy
  | skipped {stats : VideoStreamStats} {nowMs : Number} {pending : Option PendingRequest}
      (haccepts : accepts policy.lastSampleAt nowMs = true)
      (hpending : pending = policy.pending ∨ pending = none ∧ Free policy nowMs) :
      Weighs policy (.observe stats nowMs) none (policy.skip pending nowMs)
  | judged {stats : VideoStreamStats} {nowMs : Number}
      (haccepts : accepts policy.lastSampleAt nowMs = true)
      (hunbroken : brokenGap policy.lastSampleAt nowMs maxSampleGapMs = false)
      (hfree : Free policy nowMs) (hwarm : policy.warmingUp nowMs = false) :
      Weighs policy (.observe stats nowMs) ((policy.judge stats nowMs).next nowMs)
        (policy.judge stats nowMs)
  | unusable {bps ageMs : Option Number} {nowMs : Number}
      (hinvalid : validBandwidth bps ageMs = none) :
      Weighs policy (.observeBandwidth bps ageMs nowMs) none
        { policy.startReport nowMs with bandwidth := none, lowBandwidth := none, goodSince := none }
  | awaiting {bps ageMs : Option Number} {bps' ageMs' nowMs : Number}
      (hvalid : validBandwidth bps ageMs = some (bps', ageMs')) (hbusy : ¬ Free policy nowMs) :
      Weighs policy (.observeBandwidth bps ageMs nowMs) none (policy.estimate bps' ageMs' nowMs)
  | enough {bps ageMs : Option Number} {bps' ageMs' nowMs : Number}
      (hvalid : validBandwidth bps ageMs = some (bps', ageMs')) (hfree : Free policy nowMs) :
      Weighs policy (.observeBandwidth bps ageMs nowMs) none
        { policy.estimate bps' ageMs' nowMs with pending := none, lowBandwidth := none }
  | short {bps ageMs : Option Number} {bps' ageMs' nowMs : Number} {target : VideoProfile}
      {low : LowBandwidth}
      (hvalid : validBandwidth bps ageMs = some (bps', ageMs')) (hfree : Free policy nowMs)
      (hbelow : policy.current.minBps.le bps' = false)
      (htarget : policy.suitable bps' = some target)
      (hlow : low = (policy.estimate bps' ageMs' nowMs).shortage
        (policy.severeFor bps' target) nowMs) :
      Weighs policy (.observeBandwidth bps ageMs nowMs)
        (if due low nowMs then some target else none)
        { policy.estimate bps' ageMs' nowMs with pending := none, lowBandwidth := some low }
  | stray {profile : VideoProfile} {nowMs : Number}
      (hother : policy.lastRequestedProfile ≠ some profile) :
      Weighs policy (.acknowledge profile nowMs) none policy
  | effective {profile : VideoProfile} {nowMs : Number}
      (hlatest : policy.lastRequestedProfile = some profile) :
      Weighs policy (.acknowledge profile nowMs) none (policy.acknowledged profile nowMs)

/-- The evidence that asks for a profile. -/
inductive Asks (policy : AdaptiveVideoPolicy) :
    VideoCall → VideoProfile → AdaptiveVideoPolicy → Prop where
  | judged {stats : VideoStreamStats} {nowMs : Number} {profile : VideoProfile}
      (haccepts : accepts policy.lastSampleAt nowMs = true)
      (hunbroken : brokenGap policy.lastSampleAt nowMs maxSampleGapMs = false)
      (hfree : Free policy nowMs) (hwarm : policy.warmingUp nowMs = false)
      (hnext : (policy.judge stats nowMs).next nowMs = some profile) :
      Asks policy (.observe stats nowMs) profile (policy.judge stats nowMs)
  | short {bps ageMs : Option Number} {bps' ageMs' nowMs : Number} {profile : VideoProfile}
      {low : LowBandwidth}
      (hvalid : validBandwidth bps ageMs = some (bps', ageMs')) (hfree : Free policy nowMs)
      (hbelow : policy.current.minBps.le bps' = false)
      (hprofile : policy.suitable bps' = some profile)
      (hlow : low = (policy.estimate bps' ageMs' nowMs).shortage
        (policy.severeFor bps' profile) nowMs)
      (hdue : due low nowMs = true) :
      Asks policy (.observeBandwidth bps ageMs nowMs) profile
        { policy.estimate bps' ageMs' nowMs with pending := none, lowBandwidth := some low }

theorem Weighs.asks {policy weighed : AdaptiveVideoPolicy} {call : VideoCall}
    {profile : VideoProfile} (h : Weighs policy call (some profile) weighed) :
    Asks policy call profile weighed := by
  generalize heq : some profile = want at h
  cases h with
  | judged haccepts hunbroken hfree hwarm =>
    exact .judged haccepts hunbroken hfree hwarm heq.symm
  | @short bps ageMs bps' ageMs' nowMs target low hvalid hfree hbelow htarget hlow =>
    split at heq
    · next hdue =>
      cases heq
      exact .short hvalid hfree hbelow htarget hlow hdue
    · cases heq
  | ignored => cases heq
  | skipped => cases heq
  | unusable => cases heq
  | awaiting => cases heq
  | enough => cases heq
  | stray => cases heq
  | effective => cases heq

section Calls

variable {policy : AdaptiveVideoPolicy} {nowMs : Number}

theorem answer_unreadable {call : VideoCall} (h : isNonNegative call.nowMs = false) :
    policy.answer call = (none, policy) := by
  cases call with
  | observe stats nowMs =>
    have h : isNonNegative nowMs = false := h
    simp [answer, observe, h]
  | observeBandwidth bps ageMs nowMs =>
    have h : isNonNegative nowMs = false := h
    simp [answer, observeBandwidth, h]
  | acknowledge profile nowMs =>
    have h : isNonNegative nowMs = false := h
    simp [answer, acknowledge, h]

/-- Waiting for an acknowledgement, where there is no evidence meanwhile. -/
theorem waitingForAck_quiet (h : Quiet policy) (nowMs : Number) :
    policy.waitingForAck nowMs = (true, policy) ∧ ¬ Free policy nowMs ∨
    policy.waitingForAck nowMs = (false, { policy with pending := none }) ∧
      Free policy nowMs := by
  cases hpending : policy.pending with
  | none =>
    refine .inr ⟨?_, fun _ heq => by rw [hpending] at heq; cases heq⟩
    rw [waitingForAck, hpending]
    simp [← hpending]
  | some pending =>
    have hquiet := h (by rw [hpending]; rfl)
    cases hlt : (nowMs.sub pending.requestedAt).lt (.ofInt 5000) with
    | true =>
      refine .inl ⟨by simp [waitingForAck, hpending, hlt], fun hfree => ?_⟩
      rw [hfree pending hpending] at hlt
      cases hlt
    | false =>
      refine .inr ⟨?_, fun _ heq => ?_⟩
      · simp only [waitingForAck, hpending, hlt]
        cases policy
        simp_all [clearEvidence]
      · rw [hpending] at heq
        obtain rfl := Option.some.inj heq
        exact hlt

theorem quiet_startSample (h : Quiet policy) (nowMs : Number) :
    Quiet (policy.startSample nowMs) := by
  intro hpending
  unfold startSample at hpending ⊢
  dsimp only at hpending ⊢
  split at hpending
  · next hbroken =>
    obtain ⟨-, -, -, hlow⟩ := h hpending
    rw [if_pos hbroken]
    exact ⟨rfl, rfl, rfl, hlow⟩
  · next hbroken =>
    rw [if_neg hbroken]
    exact h hpending

theorem sub_self_of_readable (hnow : isNonNegative nowMs = true) :
    nowMs.sub nowMs = .finite 0 := by
  cases nowMs with
  | finite q =>
    change Number.round (q - q) = _
    rw [sub_self]
    exact Number.exact_zero
  | nan => cases hnow
  | posInf => cases hnow
  | negInf => cases hnow

/-- The first sample after a gap starts the warmup. -/
theorem warmingUp_of_broken (hnow : isNonNegative nowMs = true)
    (h : brokenGap policy.lastSampleAt nowMs maxSampleGapMs = true) :
    (policy.startSample nowMs).warmingUp nowMs = true := by
  have hzero := sub_self_of_readable hnow
  have hlt : (Number.finite 0).lt (.ofInt 3000) = true := by decide +kernel
  simp [startSample, h, warmingUp, clearSamples, clearEvidence, hzero, hlt]

theorem startSample_eq_skip (h : (policy.startSample nowMs).badSamples = 0 ∧
    (policy.startSample nowMs).lowFpsSamples = 0 ∧ (policy.startSample nowMs).goodSince = none ∧
    (policy.startSample nowMs).lowBandwidth = none) :
    policy.startSample nowMs = policy.skip policy.pending nowMs := by
  unfold startSample at h ⊢
  unfold skip
  dsimp only at h ⊢
  split at h
  · next hbroken =>
    rw [if_pos hbroken, if_pos hbroken]
    rfl
  · next hbroken =>
    obtain ⟨hbad, hlow, hgood, -⟩ := h
    rw [if_neg hbroken, if_neg hbroken]
    cases policy
    simp_all

theorem clearSamples_startSample (policy : AdaptiveVideoPolicy) (nowMs : Number) :
    clearSamples { policy.startSample nowMs with pending := none } = policy.skip none nowMs := by
  unfold startSample skip
  dsimp only
  split
  · rfl
  · rfl

/-- An observation is ignored, or accepted and not judged, or judged. -/
theorem Quiet.observe_cases (h : Quiet policy) (stats : VideoStreamStats)
    (hnow : isNonNegative nowMs = true) :
    (accepts policy.lastSampleAt nowMs = false ∧ policy.observe stats nowMs = (none, policy)) ∨
    (accepts policy.lastSampleAt nowMs = true ∧
      ∃ pending, (pending = policy.pending ∨ pending = none ∧ Free policy nowMs) ∧
        policy.observe stats nowMs = (none, policy.skip pending nowMs)) ∨
    accepts policy.lastSampleAt nowMs = true ∧
      brokenGap policy.lastSampleAt nowMs maxSampleGapMs = false ∧
      Free policy nowMs ∧ policy.warmingUp nowMs = false ∧
      policy.observe stats nowMs = (policy.judge stats nowMs).requestNext nowMs := by
  unfold observe
  rw [hnow, Bool.not_true, if_neg Bool.false_ne_true]
  cases haccepts : accepts policy.lastSampleAt nowMs with
  | false =>
    have hignored := Bool.not_eq_false' .. |>.mp haccepts
    exact .inl ⟨rfl, by rw [if_pos hignored]⟩
  | true =>
    have hkept := Bool.not_eq_true' .. |>.mp haccepts
    rw [if_neg (by rw [hkept]; exact Bool.false_ne_true)]
    right
    have hstart := quiet_startSample h nowMs
    have hpending : (policy.startSample nowMs).pending = policy.pending := by
      unfold startSample
      dsimp only
      split <;> rfl
    have hfree : Free (policy.startSample nowMs) nowMs → Free policy nowMs :=
      fun hfree pending heq => hfree pending (hpending.trans heq)
    rcases waitingForAck_quiet hstart nowMs with ⟨hwait, hwaiting⟩ | ⟨hwait, hready⟩
    · rw [hwait]
      have hsome : (policy.startSample nowMs).pending.isSome = true := by
        by_contra hnone
        rw [Bool.not_eq_true, Option.isSome_eq_false_iff, Option.isNone_iff_eq_none] at hnone
        exact hwaiting fun pending heq => by rw [hnone] at heq; cases heq
      rw [startSample_eq_skip (hstart hsome)]
      exact .inl ⟨rfl, policy.pending, .inl rfl, rfl⟩
    · rw [hwait]
      cases hwarming : (policy.startSample nowMs).warmingUp nowMs with
      | true =>
        refine .inl ⟨rfl, none, .inr ⟨rfl, hfree hready⟩, ?_⟩
        have hwarming' : warmingUp { policy.startSample nowMs with pending := none } nowMs = true :=
          hwarming
        simp only [hwarming', Bool.false_eq_true, if_false, if_true, clearSamples_startSample]
      | false =>
        have hbroken : brokenGap policy.lastSampleAt nowMs maxSampleGapMs = false := by
          by_contra hbroken
          rw [Bool.not_eq_false] at hbroken
          rw [warmingUp_of_broken hnow hbroken] at hwarming
          cases hwarming
        have hstarted : policy.startSample nowMs = { policy with lastSampleAt := some nowMs } := by
          simp [startSample, hbroken]
        rw [hstarted] at hwarming hready ⊢
        refine .inr ⟨rfl, hbroken, hready, hwarming, ?_⟩
        have hwarming' : warmingUp { policy with lastSampleAt := some nowMs, pending := none }
            nowMs = false := hwarming
        simp only [hwarming', Bool.false_eq_true, if_false]
        rfl

theorem quiet_startReport (h : Quiet policy) (nowMs : Number) :
    Quiet (policy.startReport nowMs) := by
  intro hpending
  have hpending' : policy.pending.isSome = true := by
    rcases (keeps_startReport policy nowMs).pending with heq | hnone
    · rw [← heq]
      exact hpending
    · rw [hnone] at hpending
      cases hpending
  obtain ⟨hbad, hlow, hgood, hbandwidth⟩ := h hpending'
  unfold startReport
  dsimp only
  split <;> split <;> simp [clearEvidence, hbad, hlow, hgood, hbandwidth]

theorem quiet_estimate (h : Quiet policy) (bps ageMs nowMs : Number) :
    Quiet (policy.estimate bps ageMs nowMs) := by
  have hstart := quiet_startReport h nowMs
  unfold estimate keepEstimate
  dsimp only
  split
  · exact hstart
  · intro hpending
    obtain ⟨hbad, hlow, -, hbandwidth⟩ := hstart hpending
    exact ⟨hbad, hlow, rfl, hbandwidth⟩

theorem pending_estimate (policy : AdaptiveVideoPolicy) (bps ageMs nowMs : Number) :
    (policy.estimate bps ageMs nowMs).pending = policy.pending := by
  unfold estimate keepEstimate startReport
  dsimp only
  split <;> split <;> split <;> rfl

theorem lowerFor_eq (policy : AdaptiveVideoPolicy) (bps nowMs : Number) :
    (policy.lowerFor bps nowMs = (none, { policy with lowBandwidth := none }) ∧
      (policy.lower = [] ∨ policy.current.minBps.le bps = true)) ∨
    ∃ target, policy.suitable bps = some target ∧ policy.current.minBps.le bps = false ∧
      policy.lowerFor bps nowMs =
        let low := policy.shortage (policy.severeFor bps target) nowMs
        let after := { policy with lowBandwidth := some low }
        if due low nowMs then after.request target nowMs else (none, after) := by
  unfold lowerFor
  split
  · next hnone => exact .inl ⟨rfl, .inl (List.getLast?_eq_none_iff.1 hnone)⟩
  · next lowest hlowest =>
    split
    · next henough => exact .inl ⟨rfl, .inr henough⟩
    · next hshort =>
      rw [Bool.not_eq_true] at hshort
      refine .inr ⟨(policy.lower.find? (·.minBps.le bps)).getD lowest, ?_, hshort, ?_⟩
      · rw [suitable, hlowest]
        cases policy.lower.find? (·.minBps.le bps) <;> rfl
      · generalize (policy.lower.find? (·.minBps.le bps)).getD lowest = target
        dsimp only
        rw [← Bool.not_or]
        change (if (!due (policy.shortage (policy.severeFor bps target) nowMs) nowMs) = true
          then _ else _) = _
        cases due (policy.shortage (policy.severeFor bps target) nowMs) nowMs with
        | true => rfl
        | false => rfl

/-- A bandwidth message is not usable, comes while an acknowledgement is awaited, or is judged. -/
theorem Quiet.observeBandwidth_cases (h : Quiet policy) (bps ageMs : Option Number)
    (hnow : isNonNegative nowMs = true) :
    (validBandwidth bps ageMs = none ∧ policy.observeBandwidth bps ageMs nowMs =
      (none, { policy.startReport nowMs with
        bandwidth := none, lowBandwidth := none, goodSince := none })) ∨
    ∃ bps' ageMs', validBandwidth bps ageMs = some (bps', ageMs') ∧
      (policy.observeBandwidth bps ageMs nowMs = (none, policy.estimate bps' ageMs' nowMs) ∧
        ¬ Free policy nowMs ∨
      policy.observeBandwidth bps ageMs nowMs =
          { policy.estimate bps' ageMs' nowMs with pending := none }.lowerFor bps' nowMs ∧
        Free policy nowMs) := by
  unfold observeBandwidth
  rw [hnow, Bool.not_true, if_neg Bool.false_ne_true]
  dsimp only
  cases hvalid : validBandwidth bps ageMs with
  | none => exact .inl ⟨rfl, rfl⟩
  | some valid =>
    obtain ⟨bps', ageMs'⟩ := valid
    refine .inr ⟨bps', ageMs', rfl, ?_⟩
    have hfree : Free (policy.estimate bps' ageMs' nowMs) nowMs ↔ Free policy nowMs := by
      rw [Free, Free, pending_estimate]
    have hestimate := quiet_estimate h bps' ageMs' nowMs
    dsimp only
    rcases waitingForAck_quiet hestimate nowMs with ⟨hwait, hbusy⟩ | ⟨hwait, hready⟩
    · rw [estimate] at hwait
      exact .inl ⟨by rw [hwait]; rfl, fun hready => hbusy (hfree.2 hready)⟩
    · rw [estimate] at hwait
      exact .inr ⟨by rw [hwait]; rfl, hfree.1 hready⟩

theorem keeps_estimate (policy : AdaptiveVideoPolicy) (bps ageMs nowMs : Number) :
    Keeps policy (policy.estimate bps ageMs nowMs) :=
  (keeps_startReport policy nowMs).trans (keeps_keepEstimate _ bps ageMs nowMs)

theorem suitable_congr {after : AdaptiveVideoPolicy} (h : Keeps policy after) (bps : Number) :
    after.suitable bps = policy.suitable bps := by
  simp only [suitable, lower, currentIndex, h.profiles, h.current]

theorem severeFor_congr {after : AdaptiveVideoPolicy} (h : Keeps policy after) (bps : Number)
    (target : VideoProfile) : after.severeFor bps target = policy.severeFor bps target := by
  unfold severeFor currentIndex
  rw [h.profiles, h.current]

/-- What a request that the evidence asks for comes to. -/
theorem request_cases (policy : AdaptiveVideoPolicy) (profile : VideoProfile) (nowMs : Number) :
    policy.request profile nowMs = (none, policy) ∨ policy.unacknowledgedRequests < 3 ∧
      policy.request profile nowMs = (some profile, policy.requesting profile nowMs) := by
  rw [request_eq]
  split
  · exact .inl rfl
  · next hcap => exact .inr ⟨not_le.1 hcap, rfl⟩

/-- A call weighs the evidence, and at most requests what the evidence asks for. -/
theorem answer_weighs (h : Quiet policy) (hcoupled : Coupled policy) (call : VideoCall)
    (hnow : isNonNegative call.nowMs = true) :
    ∃ wanted weighed, Weighs policy call wanted weighed ∧
      (policy.answer call = (none, weighed) ∨ ∃ profile, wanted = some profile ∧
        weighed.unacknowledgedRequests < 3 ∧ weighed.pending = none ∧
        policy.answer call = (some profile, weighed.requesting profile call.nowMs)) := by
  cases call with
  | observe stats nowMs =>
    rcases h.observe_cases stats hnow with
      ⟨haccepts, heq⟩ | ⟨haccepts, pending, hpending, heq⟩ |
      ⟨haccepts, hunbroken, hfree, hwarm, heq⟩
    · exact ⟨_, _, .ignored haccepts, .inl heq⟩
    · exact ⟨_, _, .skipped haccepts hpending, .inl heq⟩
    · refine ⟨_, _, .judged haccepts hunbroken hfree hwarm, ?_⟩
      have hpending : (policy.judge stats nowMs).pending = none := by
        unfold judge assess
        dsimp only
        split <;> rfl
      change policy.observe stats nowMs = _ ∨ _
      rw [requestNext] at heq
      split at heq
      · exact .inl heq
      · next profile hnext =>
        rcases request_cases (policy.judge stats nowMs) profile nowMs with hkept | ⟨hcap, hrequest⟩
        · exact .inl (heq.trans hkept)
        · exact .inr ⟨profile, hnext, hcap, hpending, heq.trans hrequest⟩
  | observeBandwidth bps ageMs nowMs =>
    have hnow : isNonNegative nowMs = true := hnow
    change ∃ wanted weighed, _ ∧ (policy.observeBandwidth bps ageMs nowMs = _ ∨ _)
    rcases h.observeBandwidth_cases bps ageMs hnow with
      ⟨hinvalid, heq⟩ | ⟨bps', ageMs', hvalid, ⟨heq, hbusy⟩ | ⟨heq, hfree⟩⟩
    · exact ⟨_, _, .unusable hinvalid, .inl heq⟩
    · exact ⟨_, _, .awaiting hvalid hbusy, .inl heq⟩
    · have hkeeps : Keeps policy { policy.estimate bps' ageMs' nowMs with pending := none } :=
        (keeps_estimate policy bps' ageMs' nowMs).trans ⟨rfl, rfl, rfl, rfl, .inr rfl⟩
      rcases lowerFor_eq { policy.estimate bps' ageMs' nowMs with pending := none } bps' nowMs with
        ⟨henough, -⟩ | ⟨target, htarget, hbelow, hlow⟩
      · exact ⟨_, _, .enough hvalid hfree, .inl (heq.trans henough)⟩
      · rw [suitable_congr hkeeps] at htarget
        rw [severeFor_congr hkeeps] at hlow
        have hbelow : policy.current.minBps.le bps' = false := hkeeps.current ▸ hbelow
        obtain ⟨low, hlowdef⟩ : ∃ low, low = (policy.estimate bps' ageMs' nowMs).shortage
            (policy.severeFor bps' target) nowMs := ⟨_, rfl⟩
        have hcall : policy.observeBandwidth bps ageMs nowMs =
            if due low nowMs then
              { policy.estimate bps' ageMs' nowMs with
                pending := none, lowBandwidth := some low }.request target nowMs
            else (none, { policy.estimate bps' ageMs' nowMs with
              pending := none, lowBandwidth := some low }) := by
          rw [hlowdef]
          exact heq.trans hlow
        refine ⟨_, _, .short hvalid hfree hbelow htarget hlowdef, ?_⟩
        cases hdue : due low nowMs with
        | true =>
          rw [hdue, if_pos rfl] at hcall
          rcases request_cases { policy.estimate bps' ageMs' nowMs with
            pending := none, lowBandwidth := some low } target nowMs with hkept | ⟨hcap, hrequest⟩
          · exact .inl (hcall.trans hkept)
          · exact .inr ⟨target, rfl, hcap, rfl, hcall.trans hrequest⟩
        | false =>
          rw [hdue, if_neg Bool.false_ne_true] at hcall
          exact .inl hcall
  | acknowledge profile nowMs =>
    have hreadable : isNonNegative nowMs = true := hnow
    have heq : policy.answer (.acknowledge profile nowMs) =
        (none, policy.acknowledge profile nowMs) := rfl
    rw [hcoupled.acknowledge_eq] at heq
    by_cases hlatest : policy.lastRequestedProfile = some profile
    · rw [if_pos ⟨hlatest, hreadable⟩] at heq
      exact ⟨_, _, .effective hlatest, .inl heq⟩
    · rw [if_neg fun htaken => hlatest htaken.1] at heq
      exact ⟨_, _, .stray hlatest, .inl heq⟩

end Calls

/-! ## The policy and its history -/

/-- The policy agrees with what its history says. -/
structure Traced (policy : AdaptiveVideoPolicy) (past : List VideoEvent) : Prop where
  coupled : Coupled policy
  quiet : Quiet policy
  readable : ∀ event ∈ past, isNonNegative event.call.nowMs = true
  requested : policy.lastRequestedProfile = (unanswered past).head?.map (·.profile)
  counted : policy.unacknowledgedRequests = (unanswered past).length
  pending : ∀ request, policy.pending = some request → (unanswered past).head? = some request
  sampled : policy.lastSampleAt = lastSample past
  reported : policy.lastBandwidthAt = lastReport past
  feedback : policy.bandwidthFeedback = (lastReport past).isSome
  bandwidth : policy.bandwidth = inForce past
  changed : policy.lastChangeAt = lastChange past

section Traced

variable {policy weighed : AdaptiveVideoPolicy} {past : List VideoEvent} {call : VideoCall}
  {want : Option VideoProfile} {profile : VideoProfile}

theorem Weighs.keeps (h : Weighs policy call want weighed) :
    Keeps policy weighed ∨ ∃ profile nowMs, call = .acknowledge profile nowMs ∧
      policy.lastRequestedProfile = some profile ∧ weighed = policy.acknowledged profile nowMs := by
  cases h with
  | ignored => exact .inl (.refl policy)
  | skipped haccepts hpending =>
    refine .inl ⟨rfl, rfl, rfl, rfl, ?_⟩
    rcases hpending with heq | ⟨hnone, -⟩
    · exact .inl heq
    · exact .inr hnone
  | @judged stats nowMs haccepts hunbroken hfree hwarm =>
    have hcleared : Keeps policy { policy with lastSampleAt := some nowMs, pending := none } :=
      ⟨rfl, rfl, rfl, rfl, .inr rfl⟩
    exact .inl (hcleared.trans (keeps_assess _ stats nowMs))
  | unusable hinvalid =>
    exact .inl ((keeps_startReport policy _).trans ⟨rfl, rfl, rfl, rfl, .inl rfl⟩)
  | awaiting hvalid hbusy => exact .inl (keeps_estimate policy _ _ _)
  | enough hvalid hfree =>
    exact .inl ((keeps_estimate policy _ _ _).trans ⟨rfl, rfl, rfl, rfl, .inr rfl⟩)
  | short hvalid hfree hbelow htarget hlow =>
    exact .inl ((keeps_estimate policy _ _ _).trans ⟨rfl, rfl, rfl, rfl, .inr rfl⟩)
  | stray hother => exact .inl (.refl policy)
  | effective hlatest => exact .inr ⟨_, _, rfl, hlatest, rfl⟩

/-- The evidence asks for a supported profile other than the current one. -/
theorem Weighs.wanted (hcoupled : Coupled policy) (h : Weighs policy call (some profile) weighed) :
    Keeps policy weighed ∧ profile ∈ policy.profiles ∧ profile ≠ policy.current := by
  have hkeeps : Keeps policy weighed := by
    rcases h.keeps with hkeeps | ⟨_, _, rfl, -⟩
    · exact hkeeps
    · cases h
  refine ⟨hkeeps, ?_⟩
  cases h.asks with
  | @judged stats nowMs _ _ _ _ _ hnext =>
    have hcases := (hcoupled.keeps hkeeps).next_cases hnext
    have hasked : Asked (policy.judge stats nowMs) profile (.observe stats nowMs) := hcases
    exact hcoupled.asked (hasked.keeps hkeeps)
  | short hvalid hfree hbelow hprofile hlow hdue =>
    have hlower : profile ∈ policy.lower := by
      rcases Option.or_eq_some_iff.1 hprofile with hfind | ⟨-, hlast⟩
      · exact List.mem_of_find?_eq_some hfind
      · exact List.mem_of_getLast? hlast
    obtain ⟨hmem, hrank⟩ := hcoupled.rank_lower hlower
    exact ⟨hmem, fun hsame => lt_irrefl _ (hsame ▸ hrank)⟩

theorem startReport_rest (policy : AdaptiveVideoPolicy) (nowMs : Number) :
    (policy.startReport nowMs).lastBandwidthAt = some nowMs ∧
      (policy.startReport nowMs).bandwidthFeedback = true ∧
      (policy.startReport nowMs).lastSampleAt = policy.lastSampleAt ∧
      (policy.startReport nowMs).lastChangeAt = policy.lastChangeAt ∧
      (policy.startReport nowMs).firstSampleAt = policy.firstSampleAt := by
  unfold startReport
  dsimp only
  split <;> split <;> simp_all [clearEvidence]

theorem estimate_rest (policy : AdaptiveVideoPolicy) (bps ageMs nowMs : Number) :
    (policy.estimate bps ageMs nowMs).lastBandwidthAt = some nowMs ∧
      (policy.estimate bps ageMs nowMs).bandwidthFeedback = true ∧
      (policy.estimate bps ageMs nowMs).lastSampleAt = policy.lastSampleAt ∧
      (policy.estimate bps ageMs nowMs).lastChangeAt = policy.lastChangeAt ∧
      (policy.estimate bps ageMs nowMs).firstSampleAt = policy.firstSampleAt ∧
      (policy.estimate bps ageMs nowMs).bandwidth =
        some { bps, sampledAt := nowMs.sub ageMs } := by
  obtain ⟨hreported, hfeedback, hsampled, hchanged, hfirst⟩ := startReport_rest policy nowMs
  unfold estimate keepEstimate
  dsimp only
  split
  · exact ⟨hreported, hfeedback, hsampled, hchanged, hfirst, rfl⟩
  · exact ⟨hreported, hfeedback, hsampled, hchanged, hfirst, rfl⟩

/-- The readings of the samples, the reports and the changes. -/
structure Reads (policy : AdaptiveVideoPolicy) (past : List VideoEvent) : Prop where
  sampled : policy.lastSampleAt = lastSample past
  reported : policy.lastBandwidthAt = lastReport past
  feedback : policy.bandwidthFeedback = (lastReport past).isSome
  bandwidth : policy.bandwidth = inForce past
  changed : policy.lastChangeAt = lastChange past

theorem Traced.reads (h : Traced policy past) : Reads policy past :=
  ⟨h.sampled, h.reported, h.feedback, h.bandwidth, h.changed⟩

theorem Traced.reads_estimate (h : Traced policy past) {bps ageMs : Option Number}
    {bps' ageMs' : Number} (hvalid : validBandwidth bps ageMs = some (bps', ageMs'))
    (nowMs : Number) :
    Reads (policy.estimate bps' ageMs' nowMs)
      (⟨.observeBandwidth bps ageMs nowMs, none⟩ :: past) := by
  obtain ⟨hreported, hfeedback, hsampled, hchanged, -, hbandwidth⟩ :=
    estimate_rest policy bps' ageMs' nowMs
  refine ⟨hsampled.trans h.sampled, hreported, hfeedback, ?_, hchanged.trans h.changed⟩
  rw [inForce, hvalid]
  exact hbandwidth

theorem Weighs.reads (hweighs : Weighs policy call want weighed) (h : Traced policy past) :
    Reads weighed (⟨call, none⟩ :: past) := by
  cases hweighs with
  | @ignored stats nowMs haccepts =>
    rw [h.sampled] at haccepts
    refine ⟨?_, h.reported, h.feedback, h.bandwidth, h.changed⟩
    rw [lastSample, haccepts, if_neg Bool.false_ne_true]
    exact h.sampled
  | @skipped stats nowMs pending haccepts hpending =>
    rw [h.sampled] at haccepts
    refine ⟨?_, h.reported, h.feedback, h.bandwidth, h.changed⟩
    rw [lastSample, haccepts, if_pos rfl]
    rfl
  | @judged stats nowMs haccepts hunbroken hfree hwarm =>
    rw [h.sampled] at haccepts
    have hsample : lastSample (⟨.observe stats nowMs, none⟩ :: past) = some nowMs := by
      rw [lastSample, haccepts, if_pos rfl]
    unfold judge assess
    dsimp only
    split
    · exact ⟨hsample.symm, h.reported, h.feedback, h.bandwidth, h.changed⟩
    · exact ⟨hsample.symm, h.reported, h.feedback, h.bandwidth, h.changed⟩
  | @unusable bps ageMs nowMs hinvalid =>
    obtain ⟨hreported, hfeedback, hsampled, hchanged, -⟩ := startReport_rest policy nowMs
    refine ⟨hsampled.trans h.sampled, hreported, hfeedback, ?_, hchanged.trans h.changed⟩
    rw [inForce, hinvalid]
    rfl
  | awaiting hvalid hbusy => exact h.reads_estimate hvalid _
  | @enough bps ageMs bps' ageMs' nowMs hvalid hfree =>
    have hreads := h.reads_estimate hvalid nowMs
    exact ⟨hreads.sampled, hreads.reported, hreads.feedback, hreads.bandwidth, hreads.changed⟩
  | @short bps ageMs bps' ageMs' nowMs target low hvalid hfree hbelow htarget hlow =>
    have hreads := h.reads_estimate hvalid nowMs
    exact ⟨hreads.sampled, hreads.reported, hreads.feedback, hreads.bandwidth, hreads.changed⟩
  | @stray profile nowMs hother =>
    refine ⟨h.sampled, h.reported, h.feedback, h.bandwidth, ?_⟩
    rw [h.requested] at hother
    rw [lastChange, if_neg hother]
    exact h.changed
  | @effective profile nowMs hlatest =>
    refine ⟨h.sampled, h.reported, h.feedback, h.bandwidth, ?_⟩
    rw [h.requested] at hlatest
    rw [lastChange, if_pos hlatest]
    rfl

/-- The evidence after a call is empty while an acknowledgement is awaited. -/
theorem Weighs.quiet (hweighs : Weighs policy call want weighed) (h : Quiet policy) :
    Quiet weighed := by
  cases hweighs with
  | ignored => exact h
  | @skipped stats nowMs pending haccepts hpending =>
    intro hsome
    rcases hpending with rfl | ⟨rfl, -⟩
    · exact ⟨rfl, rfl, rfl, (h hsome).2.2.2⟩
    · cases hsome
  | @judged stats nowMs haccepts hunbroken hfree hwarm =>
    intro hsome
    unfold judge assess at hsome
    dsimp only at hsome
    split at hsome <;> cases hsome
  | unusable hinvalid =>
    intro hsome
    obtain ⟨hbad, hlow, -, -⟩ := quiet_startReport h _ hsome
    exact ⟨hbad, hlow, rfl, rfl⟩
  | awaiting hvalid hbusy => exact quiet_estimate h _ _ _
  | enough hvalid hfree => exact fun hsome => by cases hsome
  | short hvalid hfree hbelow htarget hlow => exact fun hsome => by cases hsome
  | stray hother => exact h
  | effective hlatest => exact fun hsome => by cases hsome

/-- What a call does to the requests that are unanswered. -/
theorem Traced.answers (h : Traced policy past) (hweighs : Weighs policy call want weighed) :
    (Keeps policy weighed ∧ unanswered (⟨call, none⟩ :: past) = unanswered past ∧
      ¬ Effective past ⟨call, none⟩) ∨
    ∃ profile nowMs, call = .acknowledge profile nowMs ∧
      weighed = policy.acknowledged profile nowMs ∧
      policy.lastRequestedProfile = some profile ∧ unanswered (⟨call, none⟩ :: past) = [] := by
  have hlatest := h.requested
  cases call with
  | observe stats nowMs =>
    rcases hweighs.keeps with hkeeps | ⟨_, _, heq, -⟩
    · refine .inl ⟨hkeeps, rfl, ?_⟩
      rintro ⟨_, _, heq, -⟩
      cases heq
    · cases heq
  | observeBandwidth bps ageMs nowMs =>
    rcases hweighs.keeps with hkeeps | ⟨_, _, heq, -⟩
    · refine .inl ⟨hkeeps, rfl, ?_⟩
      rintro ⟨_, _, heq, -⟩
      cases heq
    · cases heq
  | acknowledge profile nowMs =>
    cases hweighs with
    | stray hother =>
      rw [hlatest] at hother
      refine .inl ⟨.refl policy, by simp only [unanswered, if_neg hother], ?_⟩
      rintro ⟨_, _, heq, heffective⟩
      cases heq
      exact hother heffective
    | effective htaken =>
      refine .inr ⟨profile, nowMs, rfl, rfl, htaken, ?_⟩
      rw [hlatest] at htaken
      simp only [unanswered, if_pos htaken]

theorem Traced.weighs (h : Traced policy past) (hweighs : Weighs policy call want weighed)
    (hnow : isNonNegative call.nowMs = true) : Traced weighed (⟨call, none⟩ :: past) := by
  obtain ⟨hsampled, hreported, hfeedback, hbandwidth, hchanged⟩ := hweighs.reads h
  have hreadable : ∀ event ∈ (⟨call, none⟩ : VideoEvent) :: past,
      isNonNegative event.call.nowMs = true := by
    intro event hevent
    rcases List.mem_cons.1 hevent with rfl | hevent
    · exact hnow
    · exact h.readable event hevent
  rcases h.answers hweighs with ⟨hkeeps, heq, -⟩ | ⟨profile, nowMs, rfl, rfl, hlatest, heq⟩
  · refine ⟨h.coupled.keeps hkeeps, hweighs.quiet h.quiet, hreadable, ?_, ?_, ?_, hsampled,
      hreported, hfeedback, hbandwidth, hchanged⟩
    · rw [heq, hkeeps.requested, h.requested]
    · rw [heq, hkeeps.counted, h.counted]
    · intro request hrequest
      rw [heq]
      rcases hkeeps.pending with hsame | hnone
      · exact h.pending request (hsame ▸ hrequest)
      · rw [hnone] at hrequest
        cases hrequest
  · refine ⟨h.coupled.acknowledged hlatest, hweighs.quiet h.quiet, hreadable, ?_, ?_, ?_, hsampled,
      hreported, hfeedback, hbandwidth, hchanged⟩
    · rw [heq]
      rfl
    · rw [heq]
      rfl
    · intro request hrequest
      cases hrequest

/-- Only the requests are read from what a call asked for. -/
theorem readings_asked (call : VideoCall)
    (hcall : ∀ profile nowMs, call ≠ .acknowledge profile nowMs) (asked : Option VideoProfile)
    (past : List VideoEvent) :
    lastSample (⟨call, asked⟩ :: past) = lastSample (⟨call, none⟩ :: past) ∧
      lastReport (⟨call, asked⟩ :: past) = lastReport (⟨call, none⟩ :: past) ∧
      inForce (⟨call, asked⟩ :: past) = inForce (⟨call, none⟩ :: past) ∧
      lastChange (⟨call, asked⟩ :: past) = lastChange (⟨call, none⟩ :: past) := by
  cases call with
  | observe stats nowMs => exact ⟨rfl, rfl, rfl, rfl⟩
  | observeBandwidth bps ageMs nowMs => exact ⟨rfl, rfl, rfl, rfl⟩
  | acknowledge profile nowMs => exact absurd rfl (hcall profile nowMs)

theorem Traced.requests (h : Traced policy past)
    (hweighs : Weighs policy call (some profile) weighed) (hnow : isNonNegative call.nowMs = true)
    (hcount : weighed.unacknowledgedRequests < 3) :
    Traced (weighed.requesting profile call.nowMs) (⟨call, some profile⟩ :: past) := by
  have hcall : ∀ profile nowMs, call ≠ .acknowledge profile nowMs := by
    rintro _ _ rfl
    cases hweighs
  obtain ⟨hkeeps, hmem, hother⟩ := hweighs.wanted h.coupled
  have hkept := h.weighs hweighs hnow
  obtain ⟨hsampled, hreported, hbandwidth, hchanged⟩ :=
    readings_asked call hcall (some profile) past
  have hunanswered : unanswered (⟨call, some profile⟩ :: past) =
      { profile, requestedAt := call.nowMs } :: unanswered past := rfl
  constructor
  case coupled =>
    exact hkept.coupled.requesting hcount (hkeeps.profiles ▸ hmem) (hkeeps.current ▸ hother)
  case quiet => exact fun _ => ⟨rfl, rfl, rfl, rfl⟩
  case readable =>
    intro event hevent
    rcases List.mem_cons.1 hevent with rfl | hevent
    · exact hnow
    · exact h.readable event hevent
  case requested =>
    rw [hunanswered]
    rfl
  case counted =>
    rw [hunanswered, List.length_cons, ← h.counted, ← hkeeps.counted]
    rfl
  case pending =>
    rintro request ⟨⟩
    rw [hunanswered]
    rfl
  case sampled =>
    rw [hsampled]
    exact hkept.sampled
  case reported =>
    rw [hreported]
    exact hkept.reported
  case feedback =>
    rw [hreported]
    exact hkept.feedback
  case bandwidth =>
    rw [hbandwidth]
    exact hkept.bandwidth
  case changed =>
    rw [hchanged]
    exact hkept.changed

end Traced

end AdaptiveVideoPolicy

end RcOnline.Web
