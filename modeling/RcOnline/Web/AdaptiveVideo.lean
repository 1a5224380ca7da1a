import RcOnline.Lib.Number

/-!
# The video policy of a ride

`AdaptiveVideoPolicy` of `apps/web/app/adaptive-video.ts`, which chooses the camera profile from two
streams of measurements and has every change acknowledged. Whatever the measurements and the clock
are, a call keeps the requests as they are or ends in one `request` (`observe_cases`,
`observeBandwidth_cases`); what the requests and the acknowledgements keep is `Coupled`.
-/

namespace RcOnline.Web

open RcOnline.Lib

inductive VideoProfile where
  | p720p60
  | p720p30
  | p540p30
  | p360p30
  | p240p30
  deriving DecidableEq

/-- `PROFILE_ORDER`. -/
def profileOrder : List VideoProfile := [.p720p60, .p720p30, .p540p30, .p360p30, .p240p30]

/-- `PROFILE_HEIGHT`. -/
def VideoProfile.height : VideoProfile → Nat
  | .p720p60 => 720
  | .p720p30 => 720
  | .p540p30 => 540
  | .p360p30 => 360
  | .p240p30 => 240

/-- `MIN_PROFILE_BPS`. -/
def VideoProfile.minBps : VideoProfile → Number
  | .p720p60 => .ofInt 2800000
  | .p720p30 => .ofInt 1400000
  | .p540p30 => .ofInt 800000
  | .p360p30 => .ofInt 500000
  | .p240p30 => .ofInt 250000

/-- `BANDWIDTH_MAX_AGE_MS`. -/
def bandwidthMaxAgeMs : Number := .ofInt 1500

/-- `MIN_HEALTHY_FPS`. -/
def minHealthyFps : Number := .ofInt 21

/-- `MAX_SAMPLE_GAP_MS`. -/
def maxSampleGapMs : Number := .ofInt 3000

/-- A finite number that is not negative. -/
def isNonNegative : Number → Bool
  | .finite q => decide (0 ≤ q)
  | _ => false

/-- `nonNegative(value)`. -/
def nonNegative (value : Option Number) : Option Number := value.filter isNonNegative

/-- The measurements that the policy reads. -/
structure VideoStreamStats where
  fps : Option Number
  rttMs : Option Number
  jitterMs : Option Number
  lossRatio : Option Number
  jitterBufferMs : Option Number
  stalled : Bool

structure PendingRequest where
  profile : VideoProfile
  requestedAt : Number

structure Bandwidth where
  bps : Number
  sampledAt : Number

structure LowBandwidth where
  since : Number
  severeSince : Option Number

structure AdaptiveVideoPolicy where
  profiles : List VideoProfile
  current : VideoProfile
  firstSampleAt : Option Number
  lastSampleAt : Option Number
  lastChangeAt : Option Number
  badSamples : Nat
  lowFpsSamples : Nat
  goodSince : Option Number
  pending : Option PendingRequest
  lastRequestedProfile : Option VideoProfile
  unacknowledgedRequests : Nat
  bandwidthFeedback : Bool
  bandwidth : Option Bandwidth
  lastBandwidthAt : Option Number
  lowBandwidth : Option LowBandwidth

/-- `profiles.indexOf(profile)`. -/
def indexOf (profiles : List VideoProfile) (profile : VideoProfile) : Int :=
  if profile ∈ profiles then profiles.idxOf profile else -1

/-- `profiles[index]`; none when it is undefined. -/
def profileAt (profiles : List VideoProfile) (index : Int) : Option VideoProfile :=
  if index < 0 then none else profiles[index.toNat]?

namespace AdaptiveVideoPolicy

/-- The supported profiles, best first. -/
def supported (profiles : List VideoProfile) : List VideoProfile :=
  profileOrder.filter (· ∈ profiles)

/-- The fields before the first measurement. -/
def initial (profiles : List VideoProfile) (current : VideoProfile) : AdaptiveVideoPolicy where
  profiles := profiles
  current := current
  firstSampleAt := none
  lastSampleAt := none
  lastChangeAt := none
  badSamples := 0
  lowFpsSamples := 0
  goodSince := none
  pending := none
  lastRequestedProfile := none
  unacknowledgedRequests := 0
  bandwidthFeedback := false
  bandwidth := none
  lastBandwidthAt := none
  lowBandwidth := none

/-- The constructor, which throws when the start profile is not supported. -/
def new (profiles : List VideoProfile) (current : VideoProfile) :
    Except String AdaptiveVideoPolicy :=
  if current ∉ supported profiles then .error "Current video profile must be supported"
  else .ok (initial (supported profiles) current)

def clearEvidence (policy : AdaptiveVideoPolicy) : AdaptiveVideoPolicy :=
  { policy with badSamples := 0, lowFpsSamples := 0, goodSince := none, lowBandwidth := none }

def currentIndex (policy : AdaptiveVideoPolicy) : Int := indexOf policy.profiles policy.current

/-- `profiles.slice(profiles.indexOf(current) + 1)`. -/
def lower (policy : AdaptiveVideoPolicy) : List VideoProfile :=
  policy.profiles.drop (policy.currentIndex + 1).toNat

def hasUpgradeBudget (policy : AdaptiveVideoPolicy) (nowMs : Number) : Bool :=
  -- Older agents have no bandwidth telemetry.
  if !policy.bandwidthFeedback then true
  else match profileAt policy.profiles (policy.currentIndex - 1), policy.bandwidth with
    | some next, some bandwidth =>
      (nowMs.sub bandwidth.sampledAt).le bandwidthMaxAgeMs &&
        (next.minBps.mul (.finite (5 / 4))).le bandwidth.bps
    | _, _ => false

def waitingForAck (policy : AdaptiveVideoPolicy) (nowMs : Number) : Bool × AdaptiveVideoPolicy :=
  match policy.pending with
  | none => (false, policy)
  | some pending =>
    if (nowMs.sub pending.requestedAt).lt (.ofInt 5000) then (true, policy)
    else (false, { policy with pending := none }.clearEvidence)

def request (policy : AdaptiveVideoPolicy) (profile : VideoProfile) (nowMs : Number) :
    Option VideoProfile × AdaptiveVideoPolicy :=
  if 3 ≤ policy.unacknowledgedRequests then (none, policy)
  else
    (some profile,
      { policy with
        pending := some { profile, requestedAt := nowMs }
        lastRequestedProfile := some profile
        unacknowledgedRequests := policy.unacknowledgedRequests + 1 }.clearEvidence)

/-- An estimate that can be used: a positive safe integer, and a safe age that is not too old. -/
def validBandwidth (bps ageMs : Option Number) : Option (Number × Number) :=
  match bps, ageMs with
  | some bps, some ageMs =>
    if (Number.safeInteger? bps).isNone || bps.leZero || (Number.safeInteger? ageMs).isNone ||
        ageMs.lt (.ofInt 0) || bandwidthMaxAgeMs.lt ageMs then none
    else some (bps, ageMs)
  | _, _ => none

/-- A gap between two readings of a clock that breaks the evidence between them. -/
def brokenGap (last : Option Number) (nowMs longest : Number) : Bool :=
  last.all fun last => (nowMs.sub last).le (.ofInt 0) || longest.lt (nowMs.sub last)

/-- The evidence of a shortage after a sample that is too low for the current profile. -/
def shortage (policy : AdaptiveVideoPolicy) (severe : Bool) (nowMs : Number) : LowBandwidth :=
  let low := policy.lowBandwidth.getD { since := nowMs, severeSince := none }
  { low with severeSince := if severe then some (low.severeSince.getD nowMs) else none }

/-- The first report turns the feedback on; a gap ends the evidence of the reports before it. -/
def startReport (policy : AdaptiveVideoPolicy) (nowMs : Number) : AdaptiveVideoPolicy :=
  let policy := if policy.bandwidthFeedback then policy
    else { policy with bandwidthFeedback := true }.clearEvidence
  let policy := if brokenGap policy.lastBandwidthAt nowMs bandwidthMaxAgeMs then
      { policy with lowBandwidth := none, goodSince := none }
    else policy
  { policy with lastBandwidthAt := some nowMs }

/-- The estimate is kept; without a budget for the next profile the good time ends. -/
def keepEstimate (policy : AdaptiveVideoPolicy) (bps ageMs nowMs : Number) : AdaptiveVideoPolicy :=
  let policy := { policy with bandwidth := some { bps, sampledAt := nowMs.sub ageMs } }
  if policy.hasUpgradeBudget nowMs then policy else { policy with goodSince := none }

/-- What a usable estimate asks for when nothing is awaited. -/
def lowerFor (policy : AdaptiveVideoPolicy) (bps nowMs : Number) :
    Option VideoProfile × AdaptiveVideoPolicy :=
  match policy.lower.getLast? with
  | none => (none, { policy with lowBandwidth := none })
  | some lowest =>
    if policy.current.minBps.le bps then (none, { policy with lowBandwidth := none })
    else
      let target := (policy.lower.find? (·.minBps.le bps)).getD lowest
      let severe := bps.lt (.ofInt 650000) && decide (target.height < policy.current.height) &&
        decide (1 < indexOf policy.profiles target - policy.currentIndex)
      let low := policy.shortage severe nowMs
      let policy := { policy with lowBandwidth := some low }
      let sustained := (Number.ofInt 1000).le (nowMs.sub low.since)
      let collapsed := low.severeSince.any fun since => (Number.ofInt 500).le (nowMs.sub since)
      if !sustained && !collapsed then (none, policy) else policy.request target nowMs

def observeBandwidth (policy : AdaptiveVideoPolicy) (bps ageMs : Option Number) (nowMs : Number) :
    Option VideoProfile × AdaptiveVideoPolicy :=
  if !isNonNegative nowMs then (none, policy)
  else
    let policy := policy.startReport nowMs
    match validBandwidth bps ageMs with
    | none => (none, { policy with bandwidth := none, lowBandwidth := none, goodSince := none })
    | some (bps, ageMs) =>
      let (waiting, policy) := (policy.keepEstimate bps ageMs nowMs).waitingForAck nowMs
      if waiting then (none, policy) else policy.lowerFor bps nowMs

/-- The evidence of the samples is dropped, that of the bandwidth stays. -/
def clearSamples (policy : AdaptiveVideoPolicy) : AdaptiveVideoPolicy :=
  { policy.clearEvidence with lowBandwidth := policy.lowBandwidth }

/-- The first seconds of sampling, and those after a change where no bandwidth is reported. -/
def warmingUp (policy : AdaptiveVideoPolicy) (nowMs : Number) : Bool :=
  policy.firstSampleAt.all (fun first => (nowMs.sub first).lt (.ofInt 3000)) ||
    (!policy.bandwidthFeedback &&
      policy.lastChangeAt.any fun last => (nowMs.sub last).lt (.ofInt 8000))

def lowFps (stats : VideoStreamStats) : Bool := (nonNegative stats.fps).any (·.lt minHealthyFps)

def impaired (stats : VideoStreamStats) : Bool :=
  lowFps stats || stats.stalled ||
    (nonNegative stats.rttMs).any (fun rtt => (Number.ofInt 250).lt rtt) ||
    (nonNegative stats.jitterMs).any (fun jitter => (Number.ofInt 50).lt jitter) ||
    (nonNegative stats.lossRatio).any
      (fun loss => loss.le (.ofInt 1) && (Number.round (1 / 20)).lt loss) ||
    (nonNegative stats.jitterBufferMs).any (fun buffer => (Number.ofInt 150).lt buffer)

def healthy (stats : VideoStreamStats) : Bool :=
  !impaired stats && (nonNegative stats.fps).any (minHealthyFps.le ·) &&
    (nonNegative stats.rttMs).any (·.lt (.ofInt 160)) &&
    (nonNegative stats.jitterMs).any (·.lt (.ofInt 25)) &&
    (nonNegative stats.lossRatio).any (·.lt (.round (1 / 100))) &&
    (stats.jitterBufferMs.isNone || (nonNegative stats.jitterBufferMs).any (·.lt (.ofInt 80)))

/-- The counters after a sample. -/
def assess (policy : AdaptiveVideoPolicy) (stats : VideoStreamStats) (nowMs : Number) :
    AdaptiveVideoPolicy :=
  let policy :=
    { policy with lowFpsSamples := if lowFps stats then policy.lowFpsSamples + 1 else 0 }
  if impaired stats then
    { policy with badSamples := policy.badSamples + 1, goodSince := none }
  else
    { policy with
      badSamples := 0
      goodSince := if healthy stats && policy.hasUpgradeBudget nowMs then
          some (policy.goodSince.getD nowMs)
        else none }

/-- The profile that the counters ask for. -/
def next (policy : AdaptiveVideoPolicy) (nowMs : Number) : Option VideoProfile :=
  if 3 ≤ policy.lowFpsSamples then
    (policy.lower.find? fun profile => profile.height < policy.current.height).or
      (profileAt policy.profiles (policy.currentIndex + 1))
  else if 3 ≤ policy.badSamples then profileAt policy.profiles (policy.currentIndex + 1)
  else if policy.goodSince.any fun since => (Number.ofInt 6000).le (nowMs.sub since) then
    profileAt policy.profiles (policy.currentIndex - 1)
  else none

/-- A gap between samples starts the warmup again. -/
def startSample (policy : AdaptiveVideoPolicy) (nowMs : Number) : AdaptiveVideoPolicy :=
  let policy := if brokenGap policy.lastSampleAt nowMs maxSampleGapMs then
      { policy with firstSampleAt := some nowMs }.clearSamples
    else policy
  { policy with lastSampleAt := some nowMs }

def observe (policy : AdaptiveVideoPolicy) (stats : VideoStreamStats) (nowMs : Number) :
    Option VideoProfile × AdaptiveVideoPolicy :=
  if !isNonNegative nowMs then (none, policy)
  else if policy.lastSampleAt.any fun last =>
      (Number.ofInt 0).lt (nowMs.sub last) && (nowMs.sub last).lt (.ofInt 750) then (none, policy)
  else
    let (waiting, policy) := (policy.startSample nowMs).waitingForAck nowMs
    if waiting then (none, policy)
    -- The independent bandwidth evidence is kept during the warmup.
    else if policy.warmingUp nowMs then (none, policy.clearSamples)
    else
      let policy := policy.assess stats nowMs
      match policy.next nowMs with
      | none => (none, policy)
      | some next => policy.request next nowMs

def acknowledge (policy : AdaptiveVideoPolicy) (profile : VideoProfile) (nowMs : Number) :
    AdaptiveVideoPolicy :=
  if profile ∉ policy.profiles ∨ isNonNegative nowMs = false ∨
      policy.lastRequestedProfile ≠ some profile then policy
  else
    { policy with
      current := profile
      pending := none
      -- A timed-out request stays eligible for a late acknowledgement until here.
      lastRequestedProfile := none
      unacknowledgedRequests := 0
      lastChangeAt := some nowMs }.clearEvidence

/-! ## What a call does to the requests -/

/-- A step that makes no request: it may stop waiting. -/
structure Keeps (policy after : AdaptiveVideoPolicy) : Prop where
  profiles : after.profiles = policy.profiles
  current : after.current = policy.current
  requested : after.lastRequestedProfile = policy.lastRequestedProfile
  counted : after.unacknowledgedRequests = policy.unacknowledgedRequests
  pending : after.pending = policy.pending ∨ after.pending = none

section Steps

variable {policy after last : AdaptiveVideoPolicy} {nowMs : Number} {profile : VideoProfile}

theorem Keeps.refl (policy : AdaptiveVideoPolicy) : Keeps policy policy :=
  ⟨rfl, rfl, rfl, rfl, .inl rfl⟩

theorem Keeps.trans (h : Keeps policy after) (h' : Keeps after last) : Keeps policy last where
  profiles := h'.profiles.trans h.profiles
  current := h'.current.trans h.current
  requested := h'.requested.trans h.requested
  counted := h'.counted.trans h.counted
  pending := by
    rcases h'.pending with heq | hnone
    · rw [heq]
      exact h.pending
    · exact .inr hnone

theorem keeps_startReport (policy : AdaptiveVideoPolicy) (nowMs : Number) :
    Keeps policy (policy.startReport nowMs) := by
  unfold startReport
  dsimp only
  split <;> split <;> exact ⟨rfl, rfl, rfl, rfl, .inl rfl⟩

theorem keeps_keepEstimate (policy : AdaptiveVideoPolicy) (bps ageMs nowMs : Number) :
    Keeps policy (policy.keepEstimate bps ageMs nowMs) := by
  unfold keepEstimate
  dsimp only
  split <;> exact ⟨rfl, rfl, rfl, rfl, .inl rfl⟩

theorem keeps_startSample (policy : AdaptiveVideoPolicy) (nowMs : Number) :
    Keeps policy (policy.startSample nowMs) := by
  unfold startSample
  dsimp only
  split <;> exact ⟨rfl, rfl, rfl, rfl, .inl rfl⟩

theorem keeps_assess (policy : AdaptiveVideoPolicy) (stats : VideoStreamStats) (nowMs : Number) :
    Keeps policy (policy.assess stats nowMs) := by
  unfold assess
  dsimp only
  split <;> exact ⟨rfl, rfl, rfl, rfl, .inl rfl⟩

theorem keeps_waitingForAck (policy : AdaptiveVideoPolicy) (nowMs : Number) :
    Keeps policy (policy.waitingForAck nowMs).2 := by
  unfold waitingForAck
  split
  · exact .refl policy
  · split
    · exact .refl policy
    · exact ⟨rfl, rfl, rfl, rfl, .inr rfl⟩

/-- An estimate ends in a request of a lower profile or in none. -/
theorem lowerFor_cases (policy : AdaptiveVideoPolicy) (bps nowMs : Number) :
    (∃ after, Keeps policy after ∧ policy.lowerFor bps nowMs = (none, after)) ∨
    ∃ after target, Keeps policy after ∧ target ∈ policy.lower ∧
      policy.lowerFor bps nowMs = after.request target nowMs := by
  unfold lowerFor
  split
  · refine .inl ⟨_, ?_, rfl⟩
    exact ⟨rfl, rfl, rfl, rfl, .inl rfl⟩
  · next lowest hlowest =>
    split
    · refine .inl ⟨_, ?_, rfl⟩
      exact ⟨rfl, rfl, rfl, rfl, .inl rfl⟩
    · dsimp only
      split
      · refine .inl ⟨_, ?_, rfl⟩
        exact ⟨rfl, rfl, rfl, rfl, .inl rfl⟩
      · refine .inr ⟨_, _, ?_, ?_, rfl⟩
        · exact ⟨rfl, rfl, rfl, rfl, .inl rfl⟩
        cases hfind : policy.lower.find? (·.minBps.le bps) with
        | none => exact List.mem_of_getLast? hlowest
        | some target => exact List.mem_of_find?_eq_some hfind

theorem observeBandwidth_cases (policy : AdaptiveVideoPolicy) (bps ageMs : Option Number)
    (nowMs : Number) :
    (∃ after, Keeps policy after ∧ policy.observeBandwidth bps ageMs nowMs = (none, after)) ∨
    ∃ after target, Keeps policy after ∧ target ∈ after.lower ∧
      policy.observeBandwidth bps ageMs nowMs = after.request target nowMs := by
  have hstart := keeps_startReport policy nowMs
  unfold observeBandwidth
  split
  · exact .inl ⟨policy, .refl policy, rfl⟩
  · dsimp only
    split
    · refine .inl ⟨_, hstart.trans ?_, rfl⟩
      exact ⟨rfl, rfl, rfl, rfl, .inl rfl⟩
    · next bps ageMs _ =>
      have hwaited := (hstart.trans (keeps_keepEstimate _ bps ageMs nowMs)).trans
        (keeps_waitingForAck _ nowMs)
      split
      · exact .inl ⟨_, hwaited, rfl⟩
      · rcases lowerFor_cases (((policy.startReport nowMs).keepEstimate bps ageMs
          nowMs).waitingForAck nowMs).2 bps nowMs with
          ⟨after, hafter, heq⟩ | ⟨after, target, hafter, htarget, heq⟩
        · exact .inl ⟨after, hwaited.trans hafter, heq⟩
        · refine .inr ⟨after, target, hwaited.trans hafter, ?_, heq⟩
          rw [lower, currentIndex, hafter.profiles, hafter.current]
          exact htarget

/-- A sample ends in a request of what the counters ask for or in none. -/
theorem observe_cases (policy : AdaptiveVideoPolicy) (stats : VideoStreamStats) (nowMs : Number) :
    (∃ after, Keeps policy after ∧ policy.observe stats nowMs = (none, after)) ∨
    ∃ after target, Keeps policy after ∧ after.next nowMs = some target ∧
      policy.observe stats nowMs = after.request target nowMs := by
  have hwaited := (keeps_startSample policy nowMs).trans (keeps_waitingForAck _ nowMs)
  unfold observe
  split
  · exact .inl ⟨policy, .refl policy, rfl⟩
  · split
    · exact .inl ⟨policy, .refl policy, rfl⟩
    · dsimp only
      split
      · exact .inl ⟨_, hwaited, rfl⟩
      · split
        · refine .inl ⟨_, hwaited.trans ?_, rfl⟩
          exact ⟨rfl, rfl, rfl, rfl, .inl rfl⟩
        · have hassessed := hwaited.trans (keeps_assess _ stats nowMs)
          split
          · exact .inl ⟨_, hassessed, rfl⟩
          · next target hnext => exact .inr ⟨_, target, hassessed, hnext, rfl⟩

end Steps

/-! ## The order of the profiles -/

/-- The place of a profile in the order, the best first. -/
def rank (profile : VideoProfile) : Nat := profileOrder.idxOf profile

theorem sorted_supported (profiles : List VideoProfile) :
    (supported profiles).Pairwise (rank · < rank ·) := by
  have horder : profileOrder.Pairwise (rank · < rank ·) := by decide
  exact horder.filter _

/-- The next profile up: the worst of the better ones. -/
def NextUp (policy : AdaptiveVideoPolicy) (profile : VideoProfile) : Prop :=
  profile ∈ policy.profiles ∧ rank profile < rank policy.current ∧
    ∀ other ∈ policy.profiles, rank other < rank policy.current → rank other ≤ rank profile

/-- What the calls keep: the counter, the latest request and the pending one belong together. -/
structure Coupled (policy : AdaptiveVideoPolicy) : Prop where
  ordered : policy.profiles.Pairwise (rank · < rank ·)
  supported : policy.current ∈ policy.profiles
  pending : ∀ pending, policy.pending = some pending →
    policy.lastRequestedProfile = some pending.profile
  requested : ∀ profile, policy.lastRequestedProfile = some profile →
    profile ∈ policy.profiles ∧ profile ≠ policy.current
  counted : 0 < policy.unacknowledgedRequests ↔ policy.lastRequestedProfile.isSome = true
  capped : policy.unacknowledgedRequests ≤ 3

section Coupled

variable {policy after : AdaptiveVideoPolicy} {profile : VideoProfile} {nowMs : Number}

theorem new_eq {profiles : List VideoProfile} {current : VideoProfile}
    (h : new profiles current = .ok policy) :
    current ∈ supported profiles ∧ policy = initial (supported profiles) current := by
  unfold new at h
  split at h
  · cases h
  · next hcurrent =>
    cases h
    exact ⟨not_not.1 hcurrent, rfl⟩

theorem coupled_new {profiles : List VideoProfile} {current : VideoProfile}
    (h : new profiles current = .ok policy) : Coupled policy := by
  obtain ⟨hcurrent, rfl⟩ := new_eq h
  exact ⟨sorted_supported profiles, hcurrent, (fun _ h => by cases h), (fun _ h => by cases h),
    by simp [initial], Nat.zero_le 3⟩

theorem supported_supported (profiles : List VideoProfile) :
    supported (supported profiles) = supported profiles := by
  refine List.filter_congr fun profile hprofile => ?_
  simp [supported, hprofile]

/-- The profiles before and after the current one. -/
theorem Coupled.split (h : Coupled policy) :
    ∃ better worse, policy.profiles = better ++ policy.current :: worse ∧
      policy.currentIndex = better.length ∧ policy.lower = worse := by
  obtain ⟨better, worse, heq⟩ := List.append_of_mem h.supported
  have hbetter : policy.current ∉ better := by
    intro hmem
    have hordered := h.ordered
    rw [heq, List.pairwise_append] at hordered
    exact lt_irrefl _ (hordered.2.2 _ hmem _ List.mem_cons_self)
  have hindex : policy.currentIndex = better.length := by
    rw [currentIndex, indexOf, if_pos h.supported, heq, List.idxOf_append_of_notMem hbetter]
    simp
  refine ⟨better, worse, heq, hindex, ?_⟩
  rw [lower, hindex, heq]
  have htoNat : ((better.length : Int) + 1).toNat = better.length + 1 := by omega
  rw [htoNat, List.drop_append]
  simp

theorem Coupled.rank_lower (h : Coupled policy) (hprofile : profile ∈ policy.lower) :
    profile ∈ policy.profiles ∧ rank policy.current < rank profile := by
  obtain ⟨better, worse, heq, -, hlower⟩ := h.split
  rw [hlower] at hprofile
  have hordered := h.ordered
  rw [heq, List.pairwise_append, List.pairwise_cons] at hordered
  exact ⟨by simp [heq, hprofile], hordered.2.1.1 profile hprofile⟩

theorem Coupled.profileAt_succ (h : Coupled policy)
    (hprofile : profileAt policy.profiles (policy.currentIndex + 1) = some profile) :
    profile ∈ policy.lower := by
  obtain ⟨better, worse, heq, hindex, hlower⟩ := h.split
  rw [hlower]
  have htoNat : ((better.length : Int) + 1).toNat = better.length + 1 := by omega
  rw [profileAt, hindex, if_neg (by omega), htoNat, heq, List.getElem?_append_right (by omega)]
    at hprofile
  have hhead : worse[0]? = some profile := by simpa using hprofile
  exact List.mem_of_getElem? hhead

theorem Coupled.profileAt_pred (h : Coupled policy)
    (hprofile : profileAt policy.profiles (policy.currentIndex - 1) = some profile) :
    NextUp policy profile := by
  obtain ⟨better, worse, heq, hindex, -⟩ := h.split
  have hordered := h.ordered
  unfold profileAt at hprofile
  split at hprofile
  · cases hprofile
  · rcases List.eq_nil_or_concat' better with rfl | ⟨best, last, rfl⟩
    · simp_all
    · have htoNat : (policy.currentIndex - 1).toNat = best.length := by
        rw [hindex, List.length_append, List.length_singleton]
        omega
      rw [htoNat, heq, List.append_assoc, List.getElem?_append_right le_rfl] at hprofile
      obtain rfl : last = profile := by simpa using hprofile
      rw [heq, List.append_assoc, List.pairwise_append, List.singleton_append,
        List.pairwise_cons, List.pairwise_cons] at hordered
      refine ⟨by simp [heq], hordered.2.1.1 _ List.mem_cons_self, fun other hother hrank => ?_⟩
      rw [heq, List.append_assoc, List.mem_append, List.singleton_append, List.mem_cons,
        List.mem_cons] at hother
      rcases hother with hother | rfl | rfl | hother
      · exact (hordered.2.2 other hother _ List.mem_cons_self).le
      · exact le_rfl
      · exact absurd hrank (lt_irrefl _)
      · exact absurd hrank (hordered.2.1.2.1 other hother).asymm

/-- What the counters ask for is the next profile up or a lower one. -/
theorem Coupled.next_cases (h : Coupled policy) (hnext : policy.next nowMs = some profile) :
    profile ∈ policy.lower ∨ NextUp policy profile := by
  unfold next at hnext
  split at hnext
  · rw [Option.or_eq_some_iff] at hnext
    rcases hnext with hfind | ⟨-, hsucc⟩
    · exact .inl (List.mem_of_find?_eq_some hfind)
    · exact .inl (h.profileAt_succ hsucc)
  · split at hnext
    · exact .inl (h.profileAt_succ hnext)
    · split at hnext
      · exact .inr (h.profileAt_pred hnext)
      · cases hnext

theorem Coupled.keeps (h : Coupled policy) (hkeeps : Keeps policy after) : Coupled after where
  ordered := hkeeps.profiles ▸ h.ordered
  supported := by
    rw [hkeeps.profiles, hkeeps.current]
    exact h.supported
  pending := by
    intro pending hpending
    rcases hkeeps.pending with heq | hnone
    · rw [hkeeps.requested]
      exact h.pending pending (heq ▸ hpending)
    · rw [hnone] at hpending
      cases hpending
  requested := by
    rw [hkeeps.requested, hkeeps.profiles, hkeeps.current]
    exact h.requested
  counted := by
    rw [hkeeps.counted, hkeeps.requested]
    exact h.counted
  capped := hkeeps.counted ▸ h.capped

/-- The policy after a request that is not refused. -/
def requesting (policy : AdaptiveVideoPolicy) (profile : VideoProfile) (nowMs : Number) :
    AdaptiveVideoPolicy :=
  { policy with
    pending := some { profile, requestedAt := nowMs }
    lastRequestedProfile := some profile
    unacknowledgedRequests := policy.unacknowledgedRequests + 1 }.clearEvidence

theorem request_eq (policy : AdaptiveVideoPolicy) (profile : VideoProfile) (nowMs : Number) :
    policy.request profile nowMs =
      if 3 ≤ policy.unacknowledgedRequests then (none, policy)
      else (some profile, policy.requesting profile nowMs) := rfl

theorem Coupled.requesting (h : Coupled policy) (hcount : policy.unacknowledgedRequests < 3)
    (hprofile : profile ∈ policy.profiles) (hother : profile ≠ policy.current) :
    Coupled (policy.requesting profile nowMs) where
  ordered := h.ordered
  supported := h.supported
  pending := by
    rintro _ ⟨⟩
    rfl
  requested := by
    rintro _ ⟨⟩
    exact ⟨hprofile, hother⟩
  counted := by simp [AdaptiveVideoPolicy.requesting, clearEvidence]
  capped := hcount

/-- The policy after an acknowledgement that is taken. -/
def acknowledged (policy : AdaptiveVideoPolicy) (profile : VideoProfile) (nowMs : Number) :
    AdaptiveVideoPolicy :=
  { policy with
    current := profile
    pending := none
    lastRequestedProfile := none
    unacknowledgedRequests := 0
    lastChangeAt := some nowMs }.clearEvidence

/-- An acknowledgement is taken for the latest request, at a time that can be read. -/
theorem Coupled.acknowledge_eq (h : Coupled policy) :
    policy.acknowledge profile nowMs =
      if policy.lastRequestedProfile = some profile ∧ isNonNegative nowMs = true then
        policy.acknowledged profile nowMs
      else policy := by
  unfold acknowledge
  by_cases hlatest : policy.lastRequestedProfile = some profile
  · have hprofile := (h.requested profile hlatest).1
    cases htime : isNonNegative nowMs with
    | true =>
      rw [if_neg (by simp [hprofile, hlatest]), if_pos ⟨hlatest, rfl⟩]
      rfl
    | false => simp
  · rw [if_pos (.inr (.inr hlatest)), if_neg fun htaken => hlatest htaken.1]

theorem Coupled.acknowledged (h : Coupled policy)
    (hlatest : policy.lastRequestedProfile = some profile) :
    Coupled (policy.acknowledged profile nowMs) where
  ordered := h.ordered
  supported := (h.requested profile hlatest).1
  pending := by
    intro _ hpending
    cases hpending
  requested := by
    intro _ hrequested
    cases hrequested
  counted := by simp [AdaptiveVideoPolicy.acknowledged, clearEvidence]
  capped := Nat.zero_le 3

end Coupled

/-! ## Runs -/

inductive VideoCall where
  | observe (stats : VideoStreamStats) (nowMs : Number)
  | observeBandwidth (bps ageMs : Option Number) (nowMs : Number)
  | acknowledge (profile : VideoProfile) (nowMs : Number)

def answer (policy : AdaptiveVideoPolicy) : VideoCall → Option VideoProfile × AdaptiveVideoPolicy
  | .observe stats nowMs => policy.observe stats nowMs
  | .observeBandwidth bps ageMs nowMs => policy.observeBandwidth bps ageMs nowMs
  | .acknowledge profile nowMs => (none, policy.acknowledge profile nowMs)

/-- The profiles that a call may ask for. -/
def Asked (policy : AdaptiveVideoPolicy) (profile : VideoProfile) : VideoCall → Prop
  | .observe _ _ => profile ∈ policy.lower ∨ NextUp policy profile
  | .observeBandwidth _ _ _ => profile ∈ policy.lower
  | .acknowledge _ _ => False

theorem Asked.keeps {policy after : AdaptiveVideoPolicy} (hkeeps : Keeps policy after)
    {profile : VideoProfile} {call : VideoCall} (h : Asked after profile call) :
    Asked policy profile call := by
  cases call with
  | observe stats nowMs =>
    simpa only [Asked, NextUp, lower, currentIndex, hkeeps.profiles, hkeeps.current] using h
  | observeBandwidth bps ageMs nowMs =>
    simpa only [Asked, lower, currentIndex, hkeeps.profiles, hkeeps.current] using h
  | acknowledge profile nowMs => exact h

theorem Coupled.asked {policy : AdaptiveVideoPolicy} (h : Coupled policy) {profile : VideoProfile}
    {call : VideoCall} (hasked : Asked policy profile call) :
    profile ∈ policy.profiles ∧ profile ≠ policy.current := by
  have hlower : profile ∈ policy.lower → profile ∈ policy.profiles ∧ profile ≠ policy.current := by
    intro hprofile
    obtain ⟨hmem, hrank⟩ := h.rank_lower hprofile
    exact ⟨hmem, fun heq => lt_irrefl _ (heq ▸ hrank)⟩
  cases call with
  | observe stats nowMs =>
    rcases hasked with hprofile | ⟨hmem, hrank, -⟩
    · exact hlower hprofile
    · exact ⟨hmem, fun heq => lt_irrefl _ (heq ▸ hrank)⟩
  | observeBandwidth bps ageMs nowMs => exact hlower hasked
  | acknowledge profile nowMs => exact hasked.elim

/-- A call keeps the requests, makes one that it may ask for, or acknowledges the latest. -/
theorem Coupled.answer_cases {policy : AdaptiveVideoPolicy} (h : Coupled policy)
    (call : VideoCall) :
    (∃ after, Keeps policy after ∧ policy.answer call = (none, after)) ∨
    (∃ kept profile nowMs, Keeps policy kept ∧ Asked policy profile call ∧
      kept.unacknowledgedRequests < 3 ∧
      policy.answer call = (some profile, kept.requesting profile nowMs)) ∨
    ∃ profile nowMs, call = .acknowledge profile nowMs ∧
      policy.lastRequestedProfile = some profile ∧ isNonNegative nowMs = true ∧
      policy.answer call = (none, policy.acknowledged profile nowMs) := by
  have hrequest : ∀ kept profile nowMs, Keeps policy kept → Asked policy profile call →
      policy.answer call = kept.request profile nowMs →
      (∃ after, Keeps policy after ∧ policy.answer call = (none, after)) ∨
      ∃ kept profile nowMs, Keeps policy kept ∧ Asked policy profile call ∧
        kept.unacknowledgedRequests < 3 ∧
        policy.answer call = (some profile, kept.requesting profile nowMs) := by
    intro kept profile nowMs hkept hasked heq
    rw [request_eq] at heq
    split at heq
    · exact .inl ⟨kept, hkept, heq⟩
    · next hcap => exact .inr ⟨kept, profile, nowMs, hkept, hasked, not_le.1 hcap, heq⟩
  cases call with
  | observe stats nowMs =>
    rcases observe_cases policy stats nowMs with
      ⟨after, hafter, heq⟩ | ⟨kept, profile, hkept, hnext, heq⟩
    · exact .inl ⟨after, hafter, heq⟩
    · have hasked : Asked kept profile (.observe stats nowMs) := (h.keeps hkept).next_cases hnext
      exact (hrequest kept profile nowMs hkept (hasked.keeps hkept) heq).imp_right .inl
  | observeBandwidth bps ageMs nowMs =>
    rcases observeBandwidth_cases policy bps ageMs nowMs with
      ⟨after, hafter, heq⟩ | ⟨kept, profile, hkept, hlower, heq⟩
    · exact .inl ⟨after, hafter, heq⟩
    · have hasked : Asked kept profile (.observeBandwidth bps ageMs nowMs) := hlower
      exact (hrequest kept profile nowMs hkept (hasked.keeps hkept) heq).imp_right .inl
  | acknowledge profile nowMs =>
    have heq : policy.answer (.acknowledge profile nowMs) =
        (none, policy.acknowledge profile nowMs) := rfl
    rw [h.acknowledge_eq] at heq
    split at heq
    · next htaken => exact .inr (.inr ⟨profile, nowMs, rfl, htaken.1, htaken.2, heq⟩)
    · exact .inl ⟨policy, .refl policy, heq⟩

/-- A policy with the profile that it requested last, until that is acknowledged at a time that can
be read. -/
structure VideoRun where
  policy : AdaptiveVideoPolicy
  latest : Option VideoProfile

namespace VideoRun

def call (run : VideoRun) (call : VideoCall) : VideoRun where
  policy := (run.policy.answer call).2
  latest := match call with
    | .acknowledge profile nowMs =>
      if run.latest = some profile ∧ isNonNegative nowMs = true then none else run.latest
    | _ => (run.policy.answer call).1.or run.latest

/-- What the policy of a run keeps to, whatever is called next. -/
structure Negotiates (run : VideoRun) : Prop where
  /-- A requested profile is supported and not the current one. -/
  requests : ∀ call profile, (run.policy.answer call).1 = some profile →
    profile ∈ run.policy.profiles ∧ profile ≠ run.policy.current
  /-- Only acknowledging the latest request changes the current profile, to the requested one. -/
  changes : ∀ call, (run.policy.answer call).2.current ≠ run.policy.current →
    ∃ profile nowMs, call = .acknowledge profile nowMs ∧ run.latest = some profile ∧
      (run.policy.answer call).2.current = profile
  lowers : ∀ bps ageMs nowMs profile,
    (run.policy.observeBandwidth bps ageMs nowMs).1 = some profile →
      rank run.policy.current < rank profile
  observes : ∀ stats nowMs profile, (run.policy.observe stats nowMs).1 = some profile →
    NextUp run.policy profile ∨ rank run.policy.current < rank profile
  counted : 0 < run.policy.unacknowledgedRequests ↔ run.latest.isSome = true
  capped : run.policy.unacknowledgedRequests ≤ 3
  /-- Acknowledging the latest request enables requests again: none is awaited, and none refused. -/
  resumes : ∀ profile nowMs, run.latest = some profile → isNonNegative nowMs = true →
    (run.policy.acknowledge profile nowMs).current = profile ∧
    (run.policy.acknowledge profile nowMs).unacknowledgedRequests = 0 ∧
    ∀ later, ((run.policy.acknowledge profile nowMs).waitingForAck later).1 = false ∧
      ∀ next, ((run.policy.acknowledge profile nowMs).request next later).1 = some next

/-- The policy remembers the latest request. -/
structure Remembers (run : VideoRun) : Prop where
  coupled : Coupled run.policy
  latest : run.policy.lastRequestedProfile = run.latest

/-- After a measurement the latest request is the new one, where there is one. -/
theorem Remembers.measure {run : VideoRun} (h : Remembers run) {c : VideoCall}
    (hlatest : (run.call c).latest = (run.policy.answer c).1.or run.latest)
    (hc : ∀ profile nowMs, c ≠ .acknowledge profile nowMs) : Remembers (run.call c) := by
  have hpolicy : (run.call c).policy = (run.policy.answer c).2 := rfl
  rcases h.coupled.answer_cases c with
    ⟨after, hafter, heq⟩ | ⟨kept, profile, nowMs, hkept, hasked, hcount, heq⟩ |
    ⟨profile, nowMs, rfl, -⟩
  · rw [heq] at hlatest hpolicy
    refine ⟨hpolicy ▸ h.coupled.keeps hafter, ?_⟩
    rw [hpolicy, hlatest, hafter.requested]
    exact h.latest
  · rw [heq] at hlatest hpolicy
    obtain ⟨hmem, hother⟩ := h.coupled.asked hasked
    have hkeptcoupled := h.coupled.keeps hkept
    refine ⟨hpolicy ▸ hkeptcoupled.requesting hcount (hkept.profiles ▸ hmem)
      (hkept.current ▸ hother), ?_⟩
    rw [hpolicy, hlatest]
    rfl
  · exact absurd rfl (hc profile nowMs)

theorem Remembers.call {run : VideoRun} (h : Remembers run) (c : VideoCall) :
    Remembers (run.call c) := by
  cases c with
  | observe stats nowMs => exact h.measure rfl fun _ _ hc => by cases hc
  | observeBandwidth bps ageMs nowMs => exact h.measure rfl fun _ _ hc => by cases hc
  | acknowledge profile nowMs =>
    have hpolicy : (run.call (.acknowledge profile nowMs)).policy =
        run.policy.acknowledge profile nowMs := rfl
    have hlatest : (run.call (.acknowledge profile nowMs)).latest =
        if run.latest = some profile ∧ isNonNegative nowMs = true then none else run.latest := rfl
    rw [h.coupled.acknowledge_eq, h.latest] at hpolicy
    split at hpolicy
    · next htaken =>
      rw [if_pos htaken] at hlatest
      refine ⟨hpolicy ▸ h.coupled.acknowledged (h.latest.trans htaken.1), ?_⟩
      rw [hpolicy, hlatest]
      rfl
    · next hkept =>
      rw [if_neg hkept] at hlatest
      refine ⟨hpolicy ▸ h.coupled, ?_⟩
      rw [hpolicy, hlatest]
      exact h.latest

theorem Remembers.negotiates {run : VideoRun} (h : Remembers run) : Negotiates run := by
  have hasked : ∀ call profile, (run.policy.answer call).1 = some profile →
      Asked run.policy profile call := by
    intro call profile hprofile
    rcases h.coupled.answer_cases call with
      ⟨after, -, heq⟩ | ⟨kept, profile', nowMs, -, hasked, -, heq⟩ | ⟨profile', nowMs, -, -, -, heq⟩
    · rw [heq] at hprofile
      cases hprofile
    · rw [heq] at hprofile
      cases hprofile
      exact hasked
    · rw [heq] at hprofile
      cases hprofile
  constructor
  case requests => exact fun call profile hprofile => h.coupled.asked (hasked call profile hprofile)
  case changes =>
    intro call hchanged
    rcases h.coupled.answer_cases call with
      ⟨after, hafter, heq⟩ | ⟨kept, profile, nowMs, hkept, -, -, heq⟩ |
      ⟨profile, nowMs, rfl, hlatest, -, heq⟩
    · rw [heq] at hchanged
      exact absurd hafter.current hchanged
    · rw [heq] at hchanged
      exact absurd hkept.current hchanged
    · rw [heq]
      exact ⟨profile, nowMs, rfl, h.latest ▸ hlatest, rfl⟩
  case lowers =>
    intro bps ageMs nowMs profile hprofile
    exact (h.coupled.rank_lower (hasked (.observeBandwidth bps ageMs nowMs) profile hprofile)).2
  case observes =>
    intro stats nowMs profile hprofile
    rcases hasked (.observe stats nowMs) profile hprofile with hlower | hup
    · exact .inr (h.coupled.rank_lower hlower).2
    · exact .inl hup
  case counted =>
    rw [← h.latest]
    exact h.coupled.counted
  case capped => exact h.coupled.capped
  case resumes =>
    intro profile nowMs hlatest htime
    rw [h.coupled.acknowledge_eq, h.latest, if_pos ⟨hlatest, htime⟩]
    exact ⟨rfl, rfl, fun later => ⟨rfl, fun next => rfl⟩⟩

/-- **Main result.** Whatever the profiles, the measurements and the clock are, the policy keeps to
its rules after every sequence of calls. -/
theorem negotiates_run {profiles : List VideoProfile} {start : VideoProfile}
    {policy : AdaptiveVideoPolicy} (h : new profiles start = .ok policy) (calls : List VideoCall) :
    Negotiates (calls.foldl call { policy, latest := none }) := by
  have hremembers : Remembers (calls.foldl call { policy, latest := none }) := by
    induction calls using List.reverseRecOn with
    | nil =>
      refine ⟨coupled_new h, ?_⟩
      obtain ⟨-, rfl⟩ := new_eq h
      rfl
    | append_singleton calls c ih =>
      rw [List.foldl_append]
      exact ih.call c
  exact hremembers.negotiates

/-- A run from 720p30 with two profiles below it. -/
def shortageRun : VideoRun :=
  [.observeBandwidth (some (.ofInt 600000)) (some (.ofInt 0)) (.ofInt 0),
    .observeBandwidth (some (.ofInt 600000)) (some (.ofInt 0)) (.ofInt 1000)].foldl call
      { policy := initial [.p720p30, .p540p30, .p360p30] .p720p30, latest := none }

/-- A shortage for a second asks for the profile that the estimate affords. -/
theorem shortageRun_negotiates : shortageRun.latest = some .p360p30 ∧ Negotiates shortageRun :=
  ⟨by decide +kernel,
    negotiates_run (show new [.p360p30, .p540p30, .p720p30] .p720p30 = .ok _ from rfl) _⟩

end VideoRun

end AdaptiveVideoPolicy

end RcOnline.Web
