import RcOnline.Lib.Steps
import RcOnline.Web.AdaptiveVideo

/-!
# Agreeing on the video profile

`#bindVideoQuality` and `#requestProfile` of `apps/web/app/ride-session-client.ts` between two
ordered, reliable directions of the `video-quality` channel and a car that handles one request at a
time. The client takes an applied message for its latest request only, so a car that applies a
request after a newer one was sent is not followed; when nothing is in flight the two agree exactly
when the last applied message was one that the client could take (`agrees_iff_timely`).
-/

namespace RcOnline.Web

open RcOnline.Lib

/-- What the car sends on the channel. -/
inductive CarMessage where
  | capabilities (profiles : List VideoProfile) (profile : VideoProfile)
  | applied (profile : VideoProfile)
  | bandwidth (bps ageMs : Option Number)

/-- The fields of the client that the channel reads and writes. -/
structure QualityClient where
  videoPolicy : Option AdaptiveVideoPolicy
  supportedProfiles : List VideoProfile
  requestedProfile : Option VideoProfile

namespace QualityClient

def new : QualityClient :=
  { videoPolicy := none, supportedProfiles := [], requestedProfile := none }

/-- The policy after a measurement, and the profile that it asks for. -/
def measure (client : QualityClient)
    (ask : AdaptiveVideoPolicy → Option VideoProfile × AdaptiveVideoPolicy) :
    Option VideoProfile × QualityClient :=
  match client.videoPolicy with
  | none => (none, client)
  | some policy =>
    let (profile, policy) := ask policy
    (profile, { client with videoPolicy := some policy })

/-- `#requestProfile`, with the request that it sends. -/
def requestProfile (client : QualityClient) (canNegotiate : Bool) (profile : Option VideoProfile) :
    Option VideoProfile × QualityClient :=
  match profile with
  | none => (none, client)
  | some profile =>
    if !canNegotiate then (none, client)
    else (some profile, { client with requestedProfile := some profile })

/-- A measurement while quality can be negotiated. -/
def negotiate (client : QualityClient) (canNegotiate : Bool)
    (ask : AdaptiveVideoPolicy → Option VideoProfile × AdaptiveVideoPolicy) :
    Option VideoProfile × QualityClient :=
  if !canNegotiate then (none, client)
  else
    let (profile, client) := client.measure ask
    client.requestProfile canNegotiate profile

/-- An estimate as the protocol has it: none at all, or a positive one with its age. -/
def validEstimate : Option Number → Option Number → Bool
  | none, none => true
  | some bps, some ageMs =>
    (Number.safeInteger? bps).isSome && (Number.ofInt 0).lt bps &&
      (Number.safeInteger? ageMs).isSome && (Number.ofInt 0).le ageMs
  | _, _ => false

def onMessage (client : QualityClient) (canNegotiate : Bool) (now : Number) (message : CarMessage) :
    Option VideoProfile × QualityClient :=
  match message with
  | .capabilities profiles profile =>
    if client.videoPolicy.isSome || profiles.length < 1 || 5 < profiles.length then (none, client)
    else
      let known := profileOrder.filter (· ∈ profiles)
      if known.length ≠ profiles.length || profile ∉ known then (none, client)
      else
        match AdaptiveVideoPolicy.new known profile with
        | .error _ => (none, { client with supportedProfiles := known })
        | .ok policy =>
          (none, { client with supportedProfiles := known, videoPolicy := some policy })
  | .applied profile =>
    if some profile ≠ client.requestedProfile || profile ∉ client.supportedProfiles then
      (none, client)
    else
      (none,
        { client with
          videoPolicy := client.videoPolicy.map (·.acknowledge profile now)
          requestedProfile := none })
  | .bandwidth bps ageMs =>
    if !validEstimate bps ageMs then (none, client)
    else client.negotiate canNegotiate (·.observeBandwidth bps ageMs now)

/-- One sample of the receiver statistics. -/
def onSample (client : QualityClient) (canNegotiate : Bool) (now : Number)
    (stats : VideoStreamStats) : Option VideoProfile × QualityClient :=
  client.negotiate canNegotiate (·.observe stats now)

end QualityClient

/-! ## The browser, the channel and the car -/

structure QualitySystem where
  client : QualityClient
  /-- `performance.now()`. -/
  clock : ℚ
  /-- Requests on their way to the car. -/
  requests : List VideoProfile
  /-- The request that the car handles. -/
  handling : Option VideoProfile
  /-- The profile that the car has applied. -/
  applied : VideoProfile
  /-- Messages on their way to the browser. -/
  replies : List CarMessage
  /-- The profile that the browser asked for last. -/
  lastSent : Option VideoProfile
  /-- No applied message has arrived, or the last one named the profile that the browser asked for
  last or had already. -/
  timely : Bool

namespace QualitySystem

/-- The car has opened the channel with what it supports and has applied. -/
def start (profiles : List VideoProfile) (profile : VideoProfile) : QualitySystem where
  client := .new
  clock := 0
  requests := []
  handling := none
  applied := profile
  replies := [.capabilities profiles profile]
  lastSent := none
  timely := true

inductive Event where
  | sample (canNegotiate : Bool) (stats : VideoStreamStats)
  | report (bps ageMs : Option Number)
  | advance (ms : ℚ)
  | takeRequest
  | apply
  | ignore
  | deliverReply (canNegotiate : Bool)

/-- What the browser answers goes to the car. -/
def send (system : QualitySystem) (answer : Option VideoProfile × QualityClient) : QualitySystem :=
  { system with
    client := answer.2
    requests := system.requests ++ answer.1.toList
    lastSent := answer.1.or system.lastSent }

/-- The current profile of the browser. -/
def current (system : QualitySystem) : Option VideoProfile :=
  system.client.videoPolicy.map (·.current)

def arrive (system : QualitySystem) (message : CarMessage) : QualitySystem :=
  match message with
  | .applied profile =>
    { system with
      timely := system.lastSent = some profile || system.current = some profile }
  | _ => system

def step (system : QualitySystem) : Event → Option QualitySystem
  | .sample canNegotiate stats =>
    some (system.send (system.client.onSample canNegotiate (.finite system.clock) stats))
  | .report bps ageMs => some { system with replies := system.replies ++ [.bandwidth bps ageMs] }
  | .advance ms => if 0 ≤ ms then some { system with clock := system.clock + ms } else none
  | .takeRequest =>
    match system.handling, system.requests with
    | none, profile :: requests => some { system with handling := some profile, requests }
    | _, _ => none
  | .apply =>
    system.handling.map fun profile =>
      { system with
        handling := none
        applied := profile
        replies := system.replies ++ [.applied profile] }
  | .ignore => system.handling.map fun _ => { system with handling := none }
  | .deliverReply canNegotiate =>
    match system.replies with
    | [] => none
    | message :: replies =>
      some (({ system with replies }.arrive message).send
        (system.client.onMessage canNegotiate (.finite system.clock) message))

/-- No message is in flight and no request is being handled. -/
def Quiescent (system : QualitySystem) : Prop :=
  system.requests = [] ∧ system.replies = [] ∧ system.handling = none

/-! ## What a run keeps -/

/-- The profiles that the applied messages in flight name. -/
def appliedInFlight (replies : List CarMessage) : List VideoProfile :=
  replies.filterMap fun
    | .applied profile => some profile
    | _ => none

open AdaptiveVideoPolicy

/-- Before a policy exists: nothing was asked for, and what the car says is its profile. -/
structure Unopened (system : QualitySystem) : Prop where
  closed : system.client.videoPolicy = none
  requested : system.client.requestedProfile = none
  requests : system.requests = []
  handling : system.handling = none
  sent : system.lastSent = none
  timely : system.timely = true
  unapplied : appliedInFlight system.replies = []
  told : ∀ profiles profile, .capabilities profiles profile ∈ system.replies →
    profile = system.applied

/-- The client and its policy wait for the same profile, which is the one asked for last; the car
has applied the last one that it says so of. -/
structure Synced (system : QualitySystem) (policy : AdaptiveVideoPolicy) : Prop where
  held : system.client.videoPolicy = some policy
  coupled : Coupled policy
  supported : system.client.supportedProfiles = policy.profiles
  requested : system.client.requestedProfile = policy.lastRequestedProfile
  sent : ∀ profile, policy.lastRequestedProfile = some profile → system.lastSent = some profile
  answered : policy.lastRequestedProfile = none →
    system.lastSent = none ∨ system.lastSent = some policy.current
  applied : ∃ seen, system.applied = (appliedInFlight system.replies).getLast?.getD seen ∧
    (system.timely = true ↔ policy.current = seen)

/-- The current profile and what was asked for stay as they are. -/
theorem Synced.kept {system after : QualitySystem} {policy kept : AdaptiveVideoPolicy}
    (h : Synced system policy) (hkept : Keeps policy kept)
    (hclient : after.client = { system.client with videoPolicy := some kept })
    (hsent : after.lastSent = system.lastSent) (htimely : after.timely = system.timely)
    (happlied : ∀ seen, (appliedInFlight system.replies).getLast?.getD seen = system.applied →
      (appliedInFlight after.replies).getLast?.getD seen = after.applied) :
    Synced after kept where
  held := by rw [hclient]
  coupled := h.coupled.keeps hkept
  supported := by
    rw [hclient, hkept.profiles]
    exact h.supported
  requested := by
    rw [hclient, hkept.requested]
    exact h.requested
  sent := by
    rw [hkept.requested, hsent]
    exact h.sent
  answered := by
    rw [hkept.requested, hkept.current, hsent]
    exact h.answered
  applied := by
    obtain ⟨seen, hseen, hagree⟩ := h.applied
    refine ⟨seen, (happlied seen hseen.symm).symm, ?_⟩
    rw [htimely, hkept.current]
    exact hagree

section Steps

variable {system after : QualitySystem} {policy : AdaptiveVideoPolicy}

/-- A step that leaves the client alone and says nothing of a profile. -/
theorem Synced.same (h : Synced system policy) (hclient : after.client = system.client)
    (hsent : after.lastSent = system.lastSent) (htimely : after.timely = system.timely)
    (happlied : ∀ seen, (appliedInFlight system.replies).getLast?.getD seen = system.applied →
      (appliedInFlight after.replies).getLast?.getD seen = after.applied) :
    Synced after policy := by
  refine h.kept (.refl policy) ?_ hsent htimely happlied
  rw [hclient, ← h.held]

theorem negotiate_eq {client : QualityClient} (hheld : client.videoPolicy = some policy)
    (ask : AdaptiveVideoPolicy → Option VideoProfile × AdaptiveVideoPolicy) :
    client.negotiate true ask =
      ((ask policy).1,
        { client with
          videoPolicy := some (ask policy).2
          requestedProfile := (ask policy).1.or client.requestedProfile }) := by
  rw [QualityClient.negotiate, QualityClient.measure, hheld]
  rcases hask : ask policy with ⟨_ | profile, after⟩
  · simp [hask, QualityClient.requestProfile]
  · simp [hask, QualityClient.requestProfile]

/-- A measurement asks for nothing, or for the profile that is then the latest everywhere. -/
theorem Synced.negotiate (h : Synced system policy) (call : VideoCall)
    (hcall : ∀ profile nowMs, call ≠ .acknowledge profile nowMs) (canNegotiate : Bool) :
    ∃ policy, Synced (system.send (system.client.negotiate canNegotiate (·.answer call)))
      policy := by
  cases canNegotiate with
  | false => exact ⟨policy, h.same rfl rfl rfl fun _ => id⟩
  | true =>
    rw [negotiate_eq h.held]
    rcases h.coupled.answer_cases call with
      ⟨kept, hkept, heq⟩ | ⟨kept, profile, nowMs, hkept, hasked, hcount, heq⟩ |
      ⟨profile, nowMs, rfl, -⟩
    · rw [heq]
      exact ⟨kept, h.kept hkept rfl rfl rfl fun _ => id⟩
    · rw [heq]
      obtain ⟨hmem, hother⟩ := h.coupled.asked hasked
      obtain ⟨seen, hseen, hagree⟩ := h.applied
      refine ⟨kept.requesting profile nowMs, ?_⟩
      constructor
      case held => rfl
      case coupled =>
        exact (h.coupled.keeps hkept).requesting hcount (hkept.profiles ▸ hmem)
          (hkept.current ▸ hother)
      case supported => exact h.supported.trans hkept.profiles.symm
      case requested => rfl
      case sent => exact fun _ hrequested => hrequested
      case answered =>
        intro hnone
        cases hnone
      case applied => exact ⟨seen, hseen, hagree.trans (by rw [← hkept.current]; rfl)⟩
    · exact absurd rfl (hcall profile nowMs)

/-- An applied message is taken when it names the latest request, else it is dropped. -/
theorem Synced.deliverApplied (h : Synced system policy) (hclock : 0 ≤ system.clock)
    {profile : VideoProfile} {replies : List CarMessage}
    (hreplies : system.replies = .applied profile :: replies) (canNegotiate : Bool) :
    ∃ policy, Synced (({ system with replies }.arrive (.applied profile)).send
      (system.client.onMessage canNegotiate (.finite system.clock) (.applied profile)))
      policy := by
  obtain ⟨seen, hseen, -⟩ := h.applied
  have hlast : system.applied = (appliedInFlight replies).getLast?.getD profile := by
    have hcons : appliedInFlight system.replies = profile :: appliedInFlight replies := by
      rw [hreplies]
      rfl
    rw [hseen, hcons, List.getLast?_cons]
    rfl
  by_cases hlatest : policy.lastRequestedProfile = some profile
  · have hmem := (h.coupled.requested profile hlatest).1
    have htime : isNonNegative (.finite system.clock) = true := decide_eq_true hclock
    have hclient : system.client.onMessage canNegotiate (.finite system.clock) (.applied profile) =
        (none, { system.client with
          videoPolicy := some (policy.acknowledged profile (.finite system.clock))
          requestedProfile := none }) := by
      have hack : policy.acknowledge profile (.finite system.clock) =
          policy.acknowledged profile (.finite system.clock) := by
        rw [h.coupled.acknowledge_eq, if_pos ⟨hlatest, htime⟩]
      simp [QualityClient.onMessage, h.requested, hlatest, h.supported, hmem, h.held, hack]
    rw [hclient]
    refine ⟨policy.acknowledged profile (.finite system.clock), ?_⟩
    constructor
    case held => rfl
    case coupled => exact h.coupled.acknowledged hlatest
    case supported => exact h.supported
    case requested => rfl
    case sent =>
      intro _ hrequested
      cases hrequested
    case answered => exact fun _ => .inr (h.sent profile hlatest)
    case applied =>
      refine ⟨profile, hlast, ?_⟩
      simp [send, arrive, h.sent profile hlatest, acknowledged, clearEvidence]
  · have hclient : system.client.onMessage canNegotiate (.finite system.clock) (.applied profile) =
        (none, system.client) := by
      simp [QualityClient.onMessage, h.requested, Ne.symm hlatest]
    rw [hclient]
    refine ⟨policy, ⟨h.held, h.coupled, h.supported, h.requested, h.sent, h.answered,
      profile, hlast, ?_⟩⟩
    simp only [send, arrive, current, h.held, Option.map_some, Bool.or_eq_true,
      decide_eq_true_eq, Option.some.injEq]
    constructor
    · rintro (hsent | heq)
      · cases hrequested : policy.lastRequestedProfile with
        | none =>
          rcases h.answered hrequested with hnone | hcurrent
          · rw [hnone] at hsent
            cases hsent
          · exact Option.some.inj (hcurrent.symm.trans hsent)
        | some latest =>
          rw [h.sent latest hrequested] at hsent
          exact absurd (hrequested.trans hsent) hlatest
      · exact heq
    · exact .inr

/-! ## Steps -/

/-- The clock runs forward; there is no policy yet, or all of its copies agree. -/
def Consistent (system : QualitySystem) : Prop :=
  0 ≤ system.clock ∧ (Unopened system ∨ ∃ policy, Synced system policy)

theorem consistent_start (profiles : List VideoProfile) (profile : VideoProfile) :
    Consistent (start profiles profile) := by
  refine ⟨le_rfl, .inl ⟨rfl, rfl, rfl, rfl, rfl, rfl, rfl, ?_⟩⟩
  intro profiles' profile' hmem
  cases List.mem_singleton.1 hmem
  rfl

/-- Without a policy nothing is asked for. -/
theorem Unopened.negotiate (h : Unopened system) (canNegotiate : Bool)
    (ask : AdaptiveVideoPolicy → Option VideoProfile × AdaptiveVideoPolicy) :
    system.client.negotiate canNegotiate ask = (none, system.client) := by
  cases canNegotiate with
  | false => rfl
  | true => simp [QualityClient.negotiate, QualityClient.measure, h.closed,
      QualityClient.requestProfile]

/-- The step leaves the client without a policy, and what the car says is its profile. -/
theorem Unopened.same (h : Unopened system) (hclosed : after.client.videoPolicy = none)
    (hrequested : after.client.requestedProfile = none) (hrequests : after.requests = [])
    (hhandling : after.handling = none) (hsent : after.lastSent = none)
    (htimely : after.timely = true) (happlied : after.applied = system.applied)
    (hreplies : ∀ message ∈ after.replies, message ∈ system.replies ∨
      ∃ bps ageMs, message = .bandwidth bps ageMs) : Unopened after where
  closed := hclosed
  requested := hrequested
  requests := hrequests
  handling := hhandling
  sent := hsent
  timely := htimely
  unapplied := by
    refine List.filterMap_eq_nil_iff.2 fun message hmessage => ?_
    rcases hreplies message hmessage with hmem | ⟨bps, ageMs, rfl⟩
    · exact List.filterMap_eq_nil_iff.1 h.unapplied message hmem
    · rfl
  told := by
    intro profiles profile hmessage
    rcases hreplies _ hmessage with hmem | ⟨bps, ageMs, heq⟩
    · exact (h.told profiles profile hmem).trans happlied.symm
    · cases heq

/-- The capabilities open the policy with the profile of the car, or change nothing. -/
theorem Unopened.deliverCapabilities (h : Unopened system) {profiles : List VideoProfile}
    {profile : VideoProfile} {replies : List CarMessage}
    (hreplies : system.replies = .capabilities profiles profile :: replies)
    (canNegotiate : Bool) (now : Number) :
    let opened := ({ system with replies }.arrive (.capabilities profiles profile)).send
      (system.client.onMessage canNegotiate now (.capabilities profiles profile))
    Unopened opened ∨ ∃ policy, Synced opened policy := by
  have hrest : ∀ message ∈ replies, message ∈ system.replies := by
    intro message hmessage
    rw [hreplies]
    exact List.mem_cons_of_mem _ hmessage
  have hprofile : profile = system.applied :=
    h.told profiles profile (by rw [hreplies]; exact List.mem_cons_self)
  have hunapplied : appliedInFlight replies = [] := by
    have hnone := h.unapplied
    rw [hreplies] at hnone
    exact hnone
  have hunchanged : ∀ client : QualityClient, client.videoPolicy = none →
      client.requestedProfile = none →
      Unopened (({ system with replies }.arrive (.capabilities profiles profile)).send
        (none, client)) := by
    intro client hclosed hrequested
    exact h.same hclosed hrequested (by simp [send, arrive, h.requests]) h.handling
      (by simp [send, arrive, h.sent]) h.timely rfl
      fun message hmessage => .inl (hrest message hmessage)
  unfold QualityClient.onMessage
  dsimp only
  split
  · exact .inl (hunchanged system.client h.closed h.requested)
  · split
    · exact .inl (hunchanged system.client h.closed h.requested)
    · split
      · exact .inl (hunchanged _ h.closed h.requested)
      · next policy hnew =>
        have hcoupled := coupled_new hnew
        obtain ⟨-, rfl⟩ := new_eq hnew
        refine .inr ⟨initial (supported (supported profiles)) profile, ?_⟩
        constructor
        case held => rfl
        case coupled => exact hcoupled
        case supported => exact (supported_supported profiles).symm
        case requested => exact h.requested
        case sent =>
          intro _ hrequested
          cases hrequested
        case answered => exact fun _ => .inl (by simp [send, arrive, h.sent])
        case applied =>
          refine ⟨profile, ?_, ?_⟩
          · simp [send, arrive, hunapplied, hprofile]
          · simp [send, arrive, h.timely, initial]

theorem Unopened.step (h : Unopened system) {event : Event}
    (hstep : system.step event = some after) :
    Unopened after ∨ ∃ policy, Synced after policy := by
  cases event with
  | sample canNegotiate stats =>
    cases hstep
    rw [QualityClient.onSample, h.negotiate]
    exact .inl (h.same h.closed h.requested (by simp [send, h.requests]) h.handling
      (by simp [send, h.sent]) h.timely rfl fun message => .inl)
  | report bps ageMs =>
    cases hstep
    refine .inl (h.same h.closed h.requested h.requests h.handling h.sent h.timely rfl ?_)
    intro message hmessage
    rcases List.mem_append.1 hmessage with hmem | hmem
    · exact .inl hmem
    · exact .inr ⟨bps, ageMs, List.mem_singleton.1 hmem⟩
  | advance ms =>
    simp only [QualitySystem.step] at hstep
    split at hstep
    · cases hstep
      exact .inl (h.same h.closed h.requested h.requests h.handling h.sent h.timely rfl
        fun message => .inl)
    · cases hstep
  | takeRequest => simp [QualitySystem.step, h.requests, h.handling] at hstep
  | apply => simp [QualitySystem.step, h.handling] at hstep
  | ignore => simp [QualitySystem.step, h.handling] at hstep
  | deliverReply canNegotiate =>
    cases hreplies : system.replies with
    | nil => simp [QualitySystem.step, hreplies] at hstep
    | cons message replies =>
      simp only [QualitySystem.step, hreplies, Option.some.injEq] at hstep
      subst hstep
      cases message with
      | capabilities profiles profile => exact h.deliverCapabilities hreplies canNegotiate _
      | applied profile =>
        have hnone := h.unapplied
        rw [hreplies] at hnone
        cases hnone
      | bandwidth bps ageMs =>
        have hclient : system.client.onMessage canNegotiate (.finite system.clock)
            (.bandwidth bps ageMs) = (none, system.client) := by
          unfold QualityClient.onMessage
          dsimp only
          split
          · rfl
          · exact h.negotiate canNegotiate _
        rw [hclient]
        refine .inl (h.same h.closed h.requested (by simp [send, arrive, h.requests]) h.handling
          (by simp [send, arrive, h.sent]) h.timely rfl fun message hmessage => .inl ?_)
        rw [hreplies]
        exact List.mem_cons_of_mem _ hmessage

theorem Synced.step (h : Synced system policy) (hclock : 0 ≤ system.clock) {event : Event}
    (hstep : system.step event = some after) : ∃ policy, Synced after policy := by
  cases event with
  | sample canNegotiate stats =>
    cases hstep
    exact h.negotiate (.observe stats (.finite system.clock)) (fun _ _ heq => by cases heq)
      canNegotiate
  | report bps ageMs =>
    cases hstep
    refine ⟨policy, h.same rfl rfl rfl fun seen hseen => ?_⟩
    simpa [appliedInFlight] using hseen
  | advance ms =>
    simp only [QualitySystem.step] at hstep
    split at hstep
    · cases hstep
      exact ⟨policy, h.same rfl rfl rfl fun _ => id⟩
    · cases hstep
  | takeRequest =>
    simp only [QualitySystem.step] at hstep
    split at hstep
    · cases hstep
      exact ⟨policy, h.same rfl rfl rfl fun _ => id⟩
    · cases hstep
  | apply =>
    obtain ⟨profile, -, rfl⟩ := Option.map_eq_some_iff.1 hstep
    refine ⟨policy, h.same rfl rfl rfl fun seen _ => ?_⟩
    simp [appliedInFlight]
  | ignore =>
    obtain ⟨profile, -, rfl⟩ := Option.map_eq_some_iff.1 hstep
    exact ⟨policy, h.same rfl rfl rfl fun _ => id⟩
  | deliverReply canNegotiate =>
    cases hreplies : system.replies with
    | nil => simp [QualitySystem.step, hreplies] at hstep
    | cons message replies =>
      simp only [QualitySystem.step, hreplies, Option.some.injEq] at hstep
      subst hstep
      cases message with
      | capabilities profiles profile =>
        have hclient : system.client.onMessage canNegotiate (.finite system.clock)
            (.capabilities profiles profile) = (none, system.client) := by
          simp [QualityClient.onMessage, h.held]
        rw [hclient]
        refine ⟨policy, h.same rfl rfl rfl fun seen hseen => ?_⟩
        rw [hreplies] at hseen
        exact hseen
      | applied profile => exact h.deliverApplied hclock hreplies canNegotiate
      | bandwidth bps ageMs =>
        have hdelivered : Synced { system with replies } policy := by
          refine h.same rfl rfl rfl fun seen hseen => ?_
          rw [hreplies] at hseen
          exact hseen
        unfold QualityClient.onMessage
        dsimp only
        split
        · exact ⟨policy, hdelivered.same rfl rfl rfl fun _ => id⟩
        · exact hdelivered.negotiate (.observeBandwidth bps ageMs (.finite system.clock))
            (fun _ _ heq => by cases heq) canNegotiate

theorem step_clock {event : Event} (hclock : 0 ≤ system.clock)
    (hstep : system.step event = some after) : 0 ≤ after.clock := by
  cases event with
  | sample canNegotiate stats =>
    cases hstep
    exact hclock
  | report bps ageMs =>
    cases hstep
    exact hclock
  | advance ms =>
    simp only [QualitySystem.step] at hstep
    split at hstep
    · next hms =>
      cases hstep
      exact add_nonneg hclock hms
    · cases hstep
  | takeRequest =>
    simp only [QualitySystem.step] at hstep
    split at hstep
    · cases hstep
      exact hclock
    · cases hstep
  | apply =>
    obtain ⟨profile, -, rfl⟩ := Option.map_eq_some_iff.1 hstep
    exact hclock
  | ignore =>
    obtain ⟨profile, -, rfl⟩ := Option.map_eq_some_iff.1 hstep
    exact hclock
  | deliverReply canNegotiate =>
    simp only [QualitySystem.step] at hstep
    split at hstep
    · cases hstep
    · next message replies _ =>
      cases hstep
      cases message <;> exact hclock

theorem Consistent.step (h : Consistent system) {event : Event}
    (hstep : system.step event = some after) : Consistent after := by
  refine ⟨step_clock h.1 hstep, ?_⟩
  rcases h.2 with hunopened | ⟨policy, hsynced⟩
  · exact hunopened.step hstep
  · exact .inr (hsynced.step h.1 hstep)

end Steps

/-- **Main result.** When nothing is in flight, the browser's profile is the car's exactly when the
last applied message that came, if any, named what the browser had asked for last or had already. -/
theorem agrees_iff_timely {profiles : List VideoProfile} {profile : VideoProfile}
    {events : List Event} {system : QualitySystem} {current : VideoProfile}
    (h : Run (StepOf step) (start profiles profile) events system) (hquiet : system.Quiescent)
    (hcurrent : system.current = some current) :
    current = system.applied ↔ system.timely = true := by
  have hconsistent : Consistent system :=
    h.invariant (consistent_start profiles profile) fun hbefore hstep => hbefore.step hstep
  obtain ⟨-, hreplies, -⟩ := hquiet
  rcases hconsistent.2 with hunopened | ⟨policy, hsynced⟩
  · rw [QualitySystem.current, hunopened.closed] at hcurrent
    cases hcurrent
  · rw [QualitySystem.current, hsynced.held] at hcurrent
    obtain rfl := Option.some.inj hcurrent
    obtain ⟨seen, hseen, hagree⟩ := hsynced.applied
    rw [hreplies] at hseen
    rw [hagree, hseen]
    rfl

/-- A shortage that lasts a second: 720p30 is to be left for 360p30. -/
def askedFor360 : List Event :=
  [.deliverReply true, .report (some (.ofInt 600000)) (some (.ofInt 0)), .deliverReply true,
    .advance 1000, .report (some (.ofInt 600000)) (some (.ofInt 0)), .deliverReply true]

/-- What a run ends in: whether nothing is in flight, and the two profiles. -/
def outcome (events : List Event) : Option (Bool × Option VideoProfile × VideoProfile) :=
  (runList step (start [.p720p30, .p540p30, .p360p30] .p720p30) events).map fun system =>
    (system.requests.isEmpty && system.replies.isEmpty && system.handling.isNone, system.current,
      system.applied)

theorem exists_run_of_outcome {events : List Event} {current : Option VideoProfile}
    {applied : VideoProfile} (h : outcome events = some (true, current, applied)) :
    ∃ system, Run (StepOf step) (start [.p720p30, .p540p30, .p360p30] .p720p30) events system ∧
      system.Quiescent ∧ system.current = current ∧ system.applied = applied := by
  obtain ⟨system, hrun, houtcome⟩ := Option.map_eq_some_iff.1 h
  simp only [Prod.mk.injEq, Bool.and_eq_true, List.isEmpty_iff, Option.isNone_iff_eq_none]
    at houtcome
  obtain ⟨⟨⟨hrequests, hreplies⟩, hhandling⟩, hcurrent, happlied⟩ := houtcome
  exact ⟨system, run_of_runList hrun, ⟨hrequests, hreplies, hhandling⟩, hcurrent, happlied⟩

/-- The car applies the request, and the browser hears of it. -/
theorem askedFor360_agrees :
    ∃ system, Run (StepOf step) (start [.p720p30, .p540p30, .p360p30] .p720p30)
        (askedFor360 ++ [.takeRequest, .apply, .deliverReply true]) system ∧
      system.applied = .p360p30 ∧ system.timely = true := by
  obtain ⟨system, hrun, hquiet, hcurrent, happlied⟩ := exists_run_of_outcome
    (show outcome (askedFor360 ++ [.takeRequest, .apply, .deliverReply true]) =
      some (true, some .p360p30, .p360p30) by decide +kernel)
  exact ⟨system, hrun, happlied, (agrees_iff_timely hrun hquiet hcurrent).1 happlied.symm⟩

/-- Six seconds later the estimate affords 540p30, and the browser asks for that instead; the car
applies the first request and ignores the second. -/
theorem superseded_disagrees :
    ∃ system, Run (StepOf step) (start [.p720p30, .p540p30, .p360p30] .p720p30)
        (askedFor360 ++
          [.advance 5000, .report (some (.ofInt 1000000)) (some (.ofInt 0)), .deliverReply true,
            .advance 1000, .report (some (.ofInt 1000000)) (some (.ofInt 0)), .deliverReply true,
            .takeRequest, .apply, .deliverReply true, .takeRequest, .ignore]) system ∧
      system.Quiescent ∧ system.current = some .p720p30 ∧ system.applied = .p360p30 :=
  exists_run_of_outcome (by decide +kernel)

end QualitySystem

end RcOnline.Web
