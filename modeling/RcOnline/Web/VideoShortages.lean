import RcOnline.Web.VideoUpgrades

/-!
# Shortages of bandwidth

`lowBandwidth` marks two messages: since the first of them every message was valid and below the
current profile's minimum, and since the second every one was severely so (`preserved_lacking`). So
a downgrade by a bandwidth message rests on a second of shortage, or on half a second of a severe
one (`shortages_justified`).
-/

namespace RcOnline.Web

open RcOnline.Lib VideoEvent AdaptiveVideoPolicy

namespace VideoEvent

/-- A message comes after the one before it, and at most 1500 ms after. -/
def Brief (past : List VideoEvent) (nowMs : Number) : Prop :=
  ∃ last, lastReport past = some last ∧ (Number.ofInt 0).lt (nowMs.sub last) = true ∧
    (nowMs.sub last).le bandwidthMaxAgeMs = true

/-- An event that leaves a shortage justified: a message is valid, bad and not late. -/
structure Lacks (Bad : Number → Prop) (past : List VideoEvent) (event : VideoEvent) : Prop where
  calm : Calm past event
  report : ∀ bps ageMs nowMs, event.call = .observeBandwidth bps ageMs nowMs →
    (∃ bps' ageMs', validBandwidth bps ageMs = some (bps', ageMs') ∧ Bad bps') ∧
      Brief past nowMs

/-- The history begins with a valid message that is bad. -/
def LacksFrom (Bad : Number → Prop) (since : Number) (base : List VideoEvent) : Prop :=
  ∃ bps ageMs bps' ageMs' earlier, base = ⟨.observeBandwidth bps ageMs since, none⟩ :: earlier ∧
    validBandwidth bps ageMs = some (bps', ageMs') ∧ Bad bps'

end VideoEvent

namespace AdaptiveVideoPolicy

/-- An estimate is below the current profile's minimum. -/
def Below (policy : AdaptiveVideoPolicy) (bps : Number) : Prop :=
  policy.current.minBps.le bps = false

/-- It is also below 650 kbit/s, and its profile more than one step down and of lower height. -/
def Severe (policy : AdaptiveVideoPolicy) (bps : Number) : Prop :=
  Below policy bps ∧ ∃ target, policy.suitable bps = some target ∧
    policy.severeFor bps target = true

theorem below_congr {policy after : AdaptiveVideoPolicy} (h : Keeps policy after) :
    Below after = Below policy := by
  funext bps
  rw [Below, Below, h.current]

theorem severe_congr {policy after : AdaptiveVideoPolicy} (h : Keeps policy after) :
    Severe after = Severe policy := by
  funext bps
  rw [Severe, Severe, below_congr h, suitable_congr h]
  simp only [severeFor_congr h]

/-- The highest supported profile below the current one that has a property. -/
structure HighestLower (policy : AdaptiveVideoPolicy) (P : VideoProfile → Prop)
    (profile : VideoProfile) : Prop where
  supported : profile ∈ policy.profiles
  lower : rank policy.current < rank profile
  meets : P profile
  highest : ∀ other ∈ policy.profiles, rank policy.current < rank other → P other →
    rank profile ≤ rank other

/-- The highest of the lower profiles that an estimate affords, or the lowest profile where it
affords none of them. -/
def Suitable (policy : AdaptiveVideoPolicy) (bps : Number) (profile : VideoProfile) : Prop :=
  HighestLower policy (·.minBps.le bps = true) profile ∨
    (∀ other ∈ policy.profiles, rank policy.current < rank other →
      other.minBps.le bps = false) ∧
    profile ∈ policy.profiles ∧ rank policy.current < rank profile ∧
      ∀ other ∈ policy.profiles, rank other ≤ rank profile

theorem Coupled.mem_lower {policy : AdaptiveVideoPolicy} (h : Coupled policy)
    {profile : VideoProfile} :
    profile ∈ policy.lower ↔ profile ∈ policy.profiles ∧ rank policy.current < rank profile := by
  refine ⟨h.rank_lower, fun ⟨hmem, hrank⟩ => ?_⟩
  obtain ⟨better, worse, heq, -, hlower⟩ := h.split
  have hordered := h.ordered
  rw [heq, List.pairwise_append] at hordered
  rw [hlower]
  rw [heq, List.mem_append, List.mem_cons] at hmem
  rcases hmem with hbetter | rfl | hworse
  · exact absurd (hordered.2.2 profile hbetter _ List.mem_cons_self) hrank.asymm
  · exact absurd hrank (lt_irrefl _)
  · exact hworse

theorem Coupled.ordered_lower {policy : AdaptiveVideoPolicy} (h : Coupled policy) :
    policy.lower.Pairwise (rank · < rank ·) := by
  obtain ⟨better, worse, heq, -, hlower⟩ := h.split
  have hordered := h.ordered
  rw [heq, List.pairwise_append, List.pairwise_cons] at hordered
  rw [hlower]
  exact hordered.2.1.2

/-- The first of the lower profiles with a property is the highest one. -/
theorem Coupled.find_lower {policy : AdaptiveVideoPolicy} (h : Coupled policy)
    {p : VideoProfile → Bool} {profile : VideoProfile}
    (hfind : policy.lower.find? p = some profile) :
    HighestLower policy (p · = true) profile := by
  have hordered := h.ordered_lower
  obtain ⟨hmem, hrank⟩ := h.mem_lower.1 (List.mem_of_find?_eq_some hfind)
  obtain ⟨hmeets, before, after, heq, hbefore⟩ := List.find?_eq_some_iff_append.1 hfind
  refine ⟨hmem, hrank, hmeets, fun other hother hlower hp => ?_⟩
  have hin := h.mem_lower.2 ⟨hother, hlower⟩
  rw [heq, List.pairwise_append, List.pairwise_cons] at hordered
  rw [heq, List.mem_append, List.mem_cons] at hin
  rcases hin with hin | rfl | hin
  · have hfails := hbefore other hin
    rw [hp] at hfails
    cases hfails
  · exact le_rfl
  · exact (hordered.2.1.1 other hin).le

theorem Coupled.find_lower_none {policy : AdaptiveVideoPolicy} (h : Coupled policy)
    {p : VideoProfile → Bool} (hnone : policy.lower.find? p = none) :
    ∀ other ∈ policy.profiles, rank policy.current < rank other → p other = false := by
  intro other hother hlower
  have hfails := List.find?_eq_none.1 hnone other (h.mem_lower.2 ⟨hother, hlower⟩)
  rwa [Bool.not_eq_true] at hfails

theorem Coupled.suitable_spec {policy : AdaptiveVideoPolicy} (h : Coupled policy) {bps : Number}
    {profile : VideoProfile} (hsuitable : policy.suitable bps = some profile) :
    Suitable policy bps profile := by
  rcases Option.or_eq_some_iff.1 hsuitable with hfind | ⟨hnone, hlast⟩
  · exact .inl (h.find_lower hfind)
  · obtain ⟨hmem, hrank⟩ := h.mem_lower.1 (List.mem_of_getLast? hlast)
    refine .inr ⟨h.find_lower_none hnone, hmem, hrank, fun other hother => ?_⟩
    by_cases hlower : rank policy.current < rank other
    · have hordered := h.ordered_lower
      have hin := h.mem_lower.2 ⟨hother, hlower⟩
      obtain ⟨before, heq⟩ := List.getLast?_eq_some_iff.1 hlast
      rw [heq, List.pairwise_append] at hordered
      rw [heq, List.mem_append, List.mem_singleton] at hin
      rcases hin with hin | rfl
      · exact (hordered.2.2 other hin profile (List.mem_singleton_self profile)).le
      · exact le_rfl
    · exact (not_lt.1 hlower).trans hrank.le

end AdaptiveVideoPolicy

namespace VideoHistory

section marks

variable {policy weighed : AdaptiveVideoPolicy} {past : List VideoEvent} {nowMs : Number}
  {Bad : Number → Prop}

theorem lastReport_cases (event : VideoEvent) (past : List VideoEvent) :
    lastReport (event :: past) = some event.call.nowMs ∨
      lastReport (event :: past) = lastReport past := by
  obtain ⟨call, asked⟩ := event
  cases call with
  | observe stats nowMs => exact .inr rfl
  | observeBandwidth bps ageMs nowMs => exact .inl rfl
  | acknowledge profile nowMs => exact .inr rfl

theorem brief_of_unbroken (h : Traced policy past) (hnow : isNonNegative nowMs = true)
    (hunbroken : brokenGap policy.lastBandwidthAt nowMs bandwidthMaxAgeMs = false) :
    Brief past nowMs := by
  rw [h.reported] at hunbroken
  cases hlast : lastReport past with
  | none =>
    rw [hlast] at hunbroken
    cases hunbroken
  | some last =>
    have hnan := sub_ne_nan hnow (readable_of_reading h rfl lastReport_cases hlast)
    rw [hlast] at hunbroken
    simp only [brokenGap, Option.all_some, Bool.or_eq_false_iff] at hunbroken
    have hpositive := Number.le_of_not_le hnan (by simp [Number.ofInt]) hunbroken.1
    refine ⟨last, hlast, by simp [Number.lt, hpositive, hunbroken.1], ?_⟩
    exact Number.le_of_not_lt (by simp [bandwidthMaxAgeMs, Number.ofInt]) hnan hunbroken.2

/-- A message keeps the earlier shortage only after a short gap. -/
theorem lowBandwidth_estimate {bps ageMs : Number} {low : LowBandwidth}
    (h : (policy.estimate bps ageMs nowMs).lowBandwidth = some low) :
    policy.lowBandwidth = some low ∧
      brokenGap policy.lastBandwidthAt nowMs bandwidthMaxAgeMs = false := by
  have hstart : (policy.startReport nowMs).lowBandwidth = some low := by
    unfold estimate keepEstimate at h
    dsimp only at h
    split at h <;> exact h
  unfold startReport at hstart
  dsimp only at hstart
  split at hstart
  · split at hstart
    · cases hstart
    · next hunbroken => exact ⟨hstart, by rwa [Bool.not_eq_true] at hunbroken⟩
  · split at hstart <;> cases hstart

/-- `lowBandwidth` marks the messages that a shortage and a severe one start with. -/
def Lacking (policy : AdaptiveVideoPolicy) (past : List VideoEvent) : Prop :=
  Marked (LacksFrom (Below policy)) (Lacks (Below policy))
    (policy.lowBandwidth.map (·.since)) past ∧
  Marked (LacksFrom (Severe policy)) (Lacks (Severe policy))
    (policy.lowBandwidth.bind (·.severeSince)) past

/-- What is no message leaves the marks. -/
theorem Lacking.calm (h : Lacking policy past) {event : VideoEvent} (hcalm : Calm past event)
    (hreport : ∀ bps ageMs nowMs, event.call ≠ .observeBandwidth bps ageMs nowMs)
    (hkeeps : Keeps policy weighed) (hlow : weighed.lowBandwidth = policy.lowBandwidth) :
    Lacking weighed (event :: past) := by
  unfold Lacking
  rw [below_congr hkeeps, severe_congr hkeeps, hlow]
  refine ⟨h.1.cons fun since hsince => .inl ⟨hsince, hcalm, ?_⟩,
    h.2.cons fun since hsince => .inl ⟨hsince, hcalm, ?_⟩⟩
  · exact fun bps ageMs nowMs heq => absurd heq (hreport bps ageMs nowMs)
  · exact fun bps ageMs nowMs heq => absurd heq (hreport bps ageMs nowMs)

theorem Lacking.none (hlow : weighed.lowBandwidth = none) : Lacking weighed past := by
  unfold Lacking
  rw [hlow]
  exact ⟨.none, .none⟩

/-- A bad message leaves a mark of bad messages after a short gap. -/
theorem lacks_report {bps ageMs : Option Number} {bps' ageMs' : Number}
    (hvalid : validBandwidth bps ageMs = some (bps', ageMs')) (hbad : Bad bps')
    (hbrief : Brief past nowMs) : Lacks Bad past ⟨.observeBandwidth bps ageMs nowMs, none⟩ where
  calm := calm_observeBandwidth past bps ageMs nowMs
  report := fun _ _ _ heq => by
    cases heq
    exact ⟨⟨bps', ageMs', hvalid, hbad⟩, hbrief⟩

theorem preserved_lacking : Preserved Lacking where
  weighs := by
    intro policy weighed past call want h hI hweighs hnow
    have hkeeps := hweighs.keeps
    cases hweighs with
    | @ignored stats nowMs haccepts =>
      exact hI.calm (calm_observe past stats nowMs) (fun _ _ _ heq => by cases heq)
        (.refl policy) rfl
    | @skipped stats nowMs pending haccepts hpending =>
      refine hI.calm (calm_observe past stats nowMs) (fun _ _ _ heq => by cases heq) ?_ rfl
      exact hkeeps.resolve_right fun ⟨_, _, heq, _⟩ => by cases heq
    | @judged stats nowMs haccepts hunbroken hfree hwarm =>
      refine hI.calm (calm_observe past stats nowMs) (fun _ _ _ heq => by cases heq) ?_
        (judge_rest policy stats nowMs).1
      exact hkeeps.resolve_right fun ⟨_, _, heq, _⟩ => by cases heq
    | unusable hinvalid => exact .none rfl
    | @awaiting bps ageMs bps' ageMs' nowMs hvalid hbusy =>
      have hsome : policy.pending.isSome = true := by
        cases hpending : policy.pending with
        | none => exact absurd (fun _ heq => by rw [hpending] at heq; cases heq) hbusy
        | some pending => rfl
      rw [← pending_estimate policy bps' ageMs' nowMs] at hsome
      exact .none (quiet_estimate h.quiet bps' ageMs' nowMs hsome).2.2.2
    | enough hvalid hfree => exact .none rfl
    | @short bps ageMs bps' ageMs' nowMs target low hvalid hfree hbelow htarget hlow =>
      have hkept := hkeeps.resolve_right fun ⟨_, _, heq, _⟩ => by cases heq
      have hbrief : ∀ {old}, (policy.estimate bps' ageMs' nowMs).lowBandwidth = some old →
          policy.lowBandwidth = some old ∧ Brief past nowMs := by
        intro old hold
        obtain ⟨heq, hunbroken⟩ := lowBandwidth_estimate hold
        exact ⟨heq, brief_of_unbroken h hnow hunbroken⟩
      unfold Lacking
      rw [below_congr hkept, severe_congr hkept]
      refine ⟨hI.1.cons fun since hsince => ?_, hI.2.cons fun since hsince => ?_⟩
      · cases hold : (policy.estimate bps' ageMs' nowMs).lowBandwidth with
        | none =>
          rw [shortage, hold] at hlow
          subst hlow
          obtain rfl := Option.some.inj hsince
          exact .inr ⟨bps, ageMs, bps', ageMs', past, rfl, hvalid, hbelow⟩
        | some old =>
          rw [shortage, hold] at hlow
          subst hlow
          obtain ⟨heq, hbrief⟩ := hbrief hold
          obtain rfl := Option.some.inj hsince
          exact .inl ⟨by rw [heq]; rfl, lacks_report hvalid hbelow hbrief⟩
      · cases hsevere : policy.severeFor bps' target with
        | false =>
          rw [shortage, hsevere] at hlow
          subst hlow
          cases hsince
        | true =>
          have hbad : Severe policy bps' := ⟨hbelow, target, htarget, hsevere⟩
          rw [shortage, hsevere] at hlow
          subst hlow
          cases hold : (policy.estimate bps' ageMs' nowMs).lowBandwidth with
          | none =>
            rw [hold] at hsince
            obtain rfl := Option.some.inj hsince
            exact .inr ⟨bps, ageMs, bps', ageMs', past, rfl, hvalid, hbad⟩
          | some old =>
            rw [hold] at hsince
            obtain ⟨heq, hbrief⟩ := hbrief hold
            cases hseveresince : old.severeSince with
            | none =>
              simp only [Option.bind_some, Option.getD_some, hseveresince, if_true,
                Option.getD_none, Option.some.injEq] at hsince
              subst hsince
              exact .inr ⟨bps, ageMs, bps', ageMs', past, rfl, hvalid, hbad⟩
            | some start =>
              simp only [Option.bind_some, Option.getD_some, hseveresince, if_true,
                Option.some.injEq] at hsince
              subst hsince
              exact .inl ⟨by rw [heq]; exact hseveresince, lacks_report hvalid hbad hbrief⟩
    | @stray profile nowMs hother =>
      exact hI.calm (calm_stray h hother nowMs) (fun _ _ _ heq => by cases heq) (.refl policy) rfl
    | effective hlatest => exact .none rfl
  requests := fun _ _ _ _ => .none rfl

end marks

/-! ## Downgrades -/

/-- A downgrade by a bandwidth message rests on a second of messages below the current profile's
minimum, or on half a second of severe ones. -/
structure ShortageJustified (policy : AdaptiveVideoPolicy) (past : List VideoEvent)
    (bps ageMs : Option Number) (nowMs : Number) (profile : VideoProfile) : Prop where
  brief : Brief past nowMs
  estimate : ∃ bps' ageMs', validBandwidth bps ageMs = some (bps', ageMs') ∧ Below policy bps' ∧
    Suitable policy bps' profile ∧
    ((∃ since base, LacksFrom (Below policy) since base ∧ Since (Lacks (Below policy)) base past ∧
      (Number.ofInt 1000).le (nowMs.sub since) = true) ∨
    (Severe policy bps' ∧ ∃ since base, LacksFrom (Severe policy) since base ∧
      Since (Lacks (Severe policy)) base past ∧ (Number.ofInt 500).le (nowMs.sub since) = true))

/-- A shortage that a message ends, and that is not only this message. -/
theorem earlier_of_long {Bad : Number → Prop} {past base : List VideoEvent}
    {bps ageMs : Option Number} {nowMs since : Number} {limit : Int}
    (hnow : isNonNegative nowMs = true) (hpositive : (Number.ofInt limit).le (.finite 0) = false)
    (hbase : LacksFrom Bad since base)
    (hpast : Since (Lacks Bad) base (⟨.observeBandwidth bps ageMs nowMs, none⟩ :: past))
    (hlong : (Number.ofInt limit).le (nowMs.sub since) = true) :
    Since (Lacks Bad) base past ∧ Lacks Bad past ⟨.observeBandwidth bps ageMs nowMs, none⟩ := by
  cases hpast with
  | refl =>
    obtain ⟨_, _, _, _, _, hcons, -⟩ := hbase
    cases hcons
    rw [sub_self_of_readable hnow, hpositive] at hlong
    cases hlong
  | cons hpast hentry => exact ⟨hpast, hentry⟩

/-- **Main result.** Whatever is measured, reported and acknowledged, and whatever the clock does: a
bandwidth message asks for a profile only after a second of shortage, or half a second of a severe
one, and then for the best lower profile that its estimate affords. -/
theorem shortages_justified {profiles : List VideoProfile} {current : VideoProfile}
    {policy : AdaptiveVideoPolicy} (hnew : new profiles current = .ok policy)
    (calls : List VideoCall) {bps ageMs : Option Number} {nowMs : Number} {profile : VideoProfile}
    (hasked : ((run policy calls).policy.observeBandwidth bps ageMs nowMs).1 = some profile) :
    ShortageJustified (run policy calls).policy (run policy calls).past bps ageMs nowMs
      profile := by
  have hstart : Lacking policy [] := by
    obtain ⟨-, rfl⟩ := new_eq hnew
    exact .none rfl
  obtain ⟨htraced, hnow, weighed, hasks, hkeeps, hmarks⟩ :=
    asks_run preserved_lacking hnew hstart calls (c := .observeBandwidth bps ageMs nowMs) hasked
  generalize run policy calls = history at *
  obtain ⟨policy, past⟩ := history
  dsimp only at *
  unfold Lacking at hmarks
  rw [below_congr hkeeps, severe_congr hkeeps] at hmarks
  cases hasks with
  | @short _ _ bps' ageMs' _ _ low hvalid hfree hbelow hprofile hlow hdue =>
    have hsuitable := htraced.coupled.suitable_spec hprofile
    rcases Bool.or_eq_true_iff.1 hdue with hlong | hlong
    · obtain ⟨base, hbase, hpast⟩ := hmarks.1 low.since rfl
      obtain ⟨hpast, hentry⟩ := earlier_of_long hnow (by decide +kernel) hbase hpast hlong
      exact ⟨(hentry.report bps ageMs nowMs rfl).2, bps', ageMs', hvalid, hbelow, hsuitable,
        .inl ⟨low.since, base, hbase, hpast, hlong⟩⟩
    · obtain ⟨since, hsince, hlong⟩ := Option.any_eq_true .. |>.mp hlong
      obtain ⟨base, hbase, hpast⟩ := hmarks.2 since hsince
      obtain ⟨hpast, hentry⟩ := earlier_of_long hnow (by decide +kernel) hbase hpast hlong
      obtain ⟨⟨bps'', ageMs'', hvalid', hsevere⟩, hbrief⟩ := hentry.report bps ageMs nowMs rfl
      rw [hvalid] at hvalid'
      cases hvalid'
      exact ⟨hbrief, bps', ageMs', hvalid, hbelow, hsuitable,
        .inr ⟨hsevere, since, base, hbase, hpast, hlong⟩⟩

/-- A shortage that is not severe: a second later, one step down. -/
theorem shortReports_justified :
    let report at' := .observeBandwidth (some (.ofInt 900000)) (some (.ofInt 0)) (.ofInt at')
    let history := run (initial [.p720p30, .p540p30, .p360p30, .p240p30] .p720p30) [report 0]
    ShortageJustified history.policy history.past (some (.ofInt 900000)) (some (.ofInt 0))
      (.ofInt 1000) .p540p30 :=
  shortages_justified (show new [.p240p30, .p360p30, .p540p30, .p720p30] .p720p30 =
      .ok (initial [.p720p30, .p540p30, .p360p30, .p240p30] .p720p30) from rfl)
    [.observeBandwidth (some (.ofInt 900000)) (some (.ofInt 0)) (.ofInt 0)] (by decide +kernel)

end VideoHistory

end RcOnline.Web
