import RcOnline.Lib.Number
import RcOnline.Lib.OrdMap

/-!
# The statistics of the video stream

`VideoStatsSampler` of `apps/web/app/adaptive-video.ts`, with exact arithmetic: from each report of
the browser it selects one incoming video stream and measures it, against the one that it selected
in the report before where that is the same stream. Whatever the reports hold, what is measured over
an interval comes from two comparable samples (`reports_measured`).
-/

namespace RcOnline.Web

open RcOnline.Lib

/-! ## Reports -/

/-- A value of a report's field. Of an object only its reference and its text are seen. -/
inductive StatsValue where
  | undefined
  | null
  | bool (b : Bool)
  | number (x : Number)
  | string (s : String)
  | object (reference : Nat) (text : String)

namespace StatsValue

/-- The text, where `typeof value === "string"`. -/
def string? : StatsValue → Option String
  | .string s => some s
  | _ => none

/-- `value === text`. -/
def isText (value : StatsValue) (text : String) : Bool := value.string? = some text

/-- `value === b`. -/
def isBool : StatsValue → Bool → Bool
  | .bool b', b => b' = b
  | _, _ => false

/-- `value === 0`. -/
def isZero : StatsValue → Bool
  | .number (.finite q) => q = 0
  | _ => false

/-- `Boolean(value)`. -/
def truthy : StatsValue → Bool
  | .undefined | .null => false
  | .bool b => b
  | .number .nan => false
  | .number (.finite q) => q ≠ 0
  | .number _ => true
  | .string s => s ≠ ""
  | .object _ _ => true

/-- `a === b`. -/
def strictEquals : StatsValue → StatsValue → Bool
  | .undefined, .undefined | .null, .null => true
  | .bool a, .bool b => a = b
  | .number x, .number y => x ≠ .nan && x = y
  | .string s, .string t => s = t
  | .object a _, .object b _ => a = b
  | _, _ => false

/-- What `join` writes for a value, given what the host writes for a number. -/
def text (numberText : Number → String) : StatsValue → String
  | .undefined | .null => ""
  | .bool b => if b then "true" else "false"
  | .number x => numberText x
  | .string s => s
  | .object _ text => text

end StatsValue

/-- An entry of a report: its fields by name. -/
abbrev StatsEntry := String → StatsValue

structure VideoSample where
  identity : String
  timestamp : Option ℚ
  frames : Option ℚ
  received : Option ℚ
  lost : Option ℚ
  bytes : Option ℚ
  bufferDelay : Option ℚ
  bufferEmitted : Option ℚ

/-- The samples of the stream that was selected, and of all those in the last report. -/
structure VideoStatsSampler where
  previous : Option VideoSample
  candidates : OrdMap String VideoSample

namespace VideoStatsSampler

/-- `VideoStreamStats`, with exact numbers. -/
structure VideoStreamStats where
  width : Option ℚ
  height : Option ℚ
  fps : Option ℚ
  rttMs : Option ℚ
  jitterMs : Option ℚ
  lossRatio : Option ℚ
  jitterBufferMs : Option ℚ
  stalled : Bool

/-- A finite number. -/
def finite : StatsValue → Option ℚ
  | .number (.finite q) => some q
  | _ => none

/-- `nonNegative` of a number. -/
def nonNegativeNumber (number : ℚ) : Option ℚ := if 0 ≤ number then some number else none

/-- `nonNegative(value)`. -/
def nonNegative (value : StatsValue) : Option ℚ := (finite value).bind nonNegativeNumber

def dimension (value : StatsValue) : Option ℚ :=
  (nonNegative value).filter fun number => 0 < number && number.isInt

def milliseconds (value : StatsValue) : Option ℚ :=
  (nonNegative value).bind fun seconds => nonNegativeNumber (seconds * 1000)

def delta (current previous : Option ℚ) : Option ℚ :=
  match current, previous with
  | some current, some previous => if previous ≤ current then some (current - previous) else none
  | _, _ => none

def emptyStats : VideoStreamStats :=
  { width := none, height := none, fps := none, rttMs := none, jitterMs := none
    lossRatio := none, jitterBufferMs := none, stalled := false }

def selectedPair (entries : OrdMap String StatsEntry) (video : StatsEntry) : Option StatsEntry :=
  let values := entries.entries.map Prod.snd
  let transport := (video "transportId").string?.bind entries.get?
  match transport.bind fun transport => (transport "selectedCandidatePairId").string? with
  | some pair => entries.get? pair
  | none =>
    -- A report without the transport of the stream may still have one transport only.
    let transports := values.filter fun entry => (entry "type").isText "transport" &&
      (entry "selectedCandidatePairId").string?.isSome
    let onlyTransport := if transports.length = 1 then transports.head? else none
    match !(video "transportId").truthy, onlyTransport with
    | true, some transport => (transport "selectedCandidatePairId").string?.bind entries.get?
    | _, _ =>
      let pairs := values.filter fun entry => (entry "type").isText "candidate-pair" &&
        (entry "state").isText "succeeded" &&
        (!(entry "transportId").truthy || !(video "transportId").truthy ||
          (entry "transportId").strictEquals (video "transportId"))
      let selected := pairs.filter fun entry => (entry "selected").isBool true
      if selected.length = 1 then selected.head?
      else
        let nominated := pairs.filter fun entry => (entry "nominated").isBool true
        if nominated.length = 1 then nominated.head? else none

/-- The entries of a report that have an identifier. -/
def readEntries (report : List StatsEntry) : OrdMap String StatsEntry :=
  report.foldl (fun entries entry =>
    match (entry "id").string? with
    | some id => entries.set id entry
    | none => entries) ∅

/-- `/\/(?:rtx|red|ulpfec|flexfec(?:-03)?)$/i.test(mimeType)`. -/
def isRepair (mimeType : String) : Bool :=
  ["/rtx", "/red", "/ulpfec", "/flexfec", "/flexfec-03"].any fun ending =>
    ending.toList.isSuffixOf (mimeType.toList.map Char.toLower)

/-- An active incoming video stream that carries no repair data. -/
def isVideo (entries : OrdMap String StatsEntry) (entry : StatsEntry) : Bool :=
  if !(entry "type").isText "inbound-rtp" || (entry "isRemote").isBool true ||
      (entry "active").isBool false ||
      (!(entry "kind").isText "video" && !(entry "mediaType").isText "video") then false
  else
    let codec := (entry "codecId").string?.bind entries.get?
    match codec.bind fun codec => (codec "mimeType").string? with
    | none => true
    | some mimeType => !isRepair mimeType

/-- A counter that is known before and after, and is lower after. -/
def wentBack (current previous : Option ℚ) : Bool :=
  match current, previous with
  | some current, some previous => decide (current < previous)
  | _, _ => false

def elapsed (previous current : VideoSample) : Option ℚ :=
  match previous.timestamp, current.timestamp with
  | some before, some now => some (now - before)
  | _, _ => none

def reset (previous current : VideoSample) : Bool :=
  wentBack current.frames previous.frames || wentBack current.received previous.received ||
    wentBack current.bytes previous.bytes

/-- At least 100 ms, and at most `MAX_SAMPLE_GAP_MS`. -/
def timely (elapsed : Option ℚ) : Bool := elapsed.any fun elapsed => 100 ≤ elapsed && elapsed ≤ 3000

/-- The frame rate and whether the stream is stalled, over an interval. -/
def frameRate (video : StatsEntry) (previous current : VideoSample) (elapsed : ℚ) :
    Option ℚ × Bool :=
  match delta current.frames previous.frames with
  | some frames => (nonNegativeNumber (frames * 1000 / elapsed), frames = 0)
  | none =>
    if current.frames.isNone || previous.frames.isNone then
      let fps := nonNegative (video "framesPerSecond")
      (fps, fps = some 0)
    else (none, false)

def lossRatio (previous current : VideoSample) : Option ℚ :=
  let lost := match current.lost, previous.lost with
    | some now, some before => nonNegativeNumber (max 0 (now - before))
    | _, _ => none
  match delta current.received previous.received, lost with
  | some received, some lost =>
    if 0 < received + lost then some (lost / (received + lost)) else none
  | _, _ => none

def jitterBufferMs (previous current : VideoSample) : Option ℚ :=
  match delta current.bufferDelay previous.bufferDelay,
    delta current.bufferEmitted previous.bufferEmitted with
  | some delay, some emitted =>
    if 0 < emitted then nonNegativeNumber (delay * 1000 / emitted) else none
  | _, _ => none

/-- What a report says by itself: the size of the stream, and its times unless the sample is
stale. -/
def reported (entries : OrdMap String StatsEntry) (video : StatsEntry)
    (previous : Option VideoSample) (current : VideoSample) : VideoStreamStats :=
  let result := { emptyStats with
    width := dimension (video "frameWidth")
    height := dimension (video "frameHeight") }
  if previous.any fun previous => !timely (elapsed previous current) then result
  else
    let pair := selectedPair entries video
    { result with
      rttMs :=
        if pair.any fun pair => (pair "responsesReceived").isZero then none
        else pair.bind fun pair => milliseconds (pair "currentRoundTripTime")
      jitterMs := milliseconds (video "jitter") }

/-- What is measured of the selected stream; `previous` is its sample in the report before. -/
def measure (entries : OrdMap String StatsEntry) (video : StatsEntry)
    (previous : Option VideoSample) (current : VideoSample) : VideoStreamStats :=
  let result := reported entries video previous current
  match previous with
  -- A first report of no frames may precede the first frame.
  | none => { result with fps := nonNegative (video "framesPerSecond") }
  | some previous =>
    match elapsed previous current with
    | none => result
    | some passed =>
      if timely (some passed) && !reset previous current then
        { result with
          fps := (frameRate video previous current passed).1
          stalled := (frameRate video previous current passed).2
          lossRatio := lossRatio previous current
          jitterBufferMs := jitterBufferMs previous current }
      else result

section sampler

variable (numberText : Number → String)

def snapshot (entry : StatsEntry) : VideoSample where
  identity := ":".intercalate
    (["id", "ssrc", "trackIdentifier", "codecId"].map fun name => (entry name).text numberText)
  timestamp := nonNegative (entry "timestamp")
  frames := nonNegative (entry "framesDecoded")
  received := nonNegative (entry "packetsReceived")
  -- The estimate is signed: recovered packets can lower it.
  lost := finite (entry "packetsLost")
  bytes := nonNegative (entry "bytesReceived")
  bufferDelay := nonNegative (entry "jitterBufferDelay")
  bufferEmitted := nonNegative (entry "jitterBufferEmittedCount")

def activity (sampler : VideoStatsSampler) (entry : StatsEntry) : Nat :=
  let current := snapshot numberText entry
  let flowing := if 0 < (nonNegative (entry "framesPerSecond")).getD 0 then 1 else 0
  match sampler.candidates.get? current.identity with
  | none => flowing
  | some prior =>
    if (elapsed prior current).any (0 < ·) then
      if 0 < (delta current.frames prior.frames).getD 0 then 3
      else if 0 < (delta current.bytes prior.bytes).getD 0 ||
        0 < (delta current.received prior.received).getD 0 then 2
      else flowing
    else flowing

/-- The comparison by which the streams are sorted: negative when `left` comes first. -/
def compareVideos (sampler : VideoStatsSampler) (left right : StatsEntry) : ℚ :=
  let active := fun entry => (sampler.activity numberText entry : ℚ)
  let same := fun entry =>
    if some (snapshot numberText entry).identity = sampler.previous.map (·.identity) then (1 : ℚ)
    else 0
  let sized := fun (entry : StatsEntry) =>
    if (dimension (entry "frameWidth")).isSome then (1 : ℚ) else 0
  let decoded := fun (entry : StatsEntry) => (nonNegative (entry "framesDecoded")).getD 0
  if active right - active left ≠ 0 then active right - active left
  else if same right - same left ≠ 0 then same right - same left
  else if sized right - sized left ≠ 0 then sized right - sized left
  else decoded right - decoded left

/-- The video streams of a report, the preferred one first. -/
def videos (sampler : VideoStatsSampler) (report : List StatsEntry) : List StatsEntry :=
  let entries := readEntries report
  ((entries.entries.map Prod.snd).filter (isVideo entries)).insertionSort
    fun left right => sampler.compareVideos numberText left right ≤ 0

/-- The stream that is measured. -/
def selected (sampler : VideoStatsSampler) (report : List StatsEntry) : Option StatsEntry :=
  (sampler.videos numberText report).head?

def sample (sampler : VideoStatsSampler) (report : List StatsEntry) :
    VideoStreamStats × VideoStatsSampler :=
  let candidates := (sampler.videos numberText report).foldl (fun candidates video =>
    candidates.set (snapshot numberText video).identity (snapshot numberText video)) ∅
  match sampler.selected numberText report with
  | none => (emptyStats, { previous := none, candidates })
  | some video =>
    let current := snapshot numberText video
    let previous := sampler.previous.filter (·.identity = current.identity)
    (measure (readEntries report) video previous current,
      { previous := some current, candidates })

end sampler

/-! ## Measurements -/

/-- Every measurement is missing or not negative, and a ratio is at most one. -/
structure Sound (stats : VideoStreamStats) : Prop where
  width : ∀ q ∈ stats.width, 0 ≤ q
  height : ∀ q ∈ stats.height, 0 ≤ q
  fps : ∀ q ∈ stats.fps, 0 ≤ q
  rttMs : ∀ q ∈ stats.rttMs, 0 ≤ q
  jitterMs : ∀ q ∈ stats.jitterMs, 0 ≤ q
  lossRatio : ∀ q ∈ stats.lossRatio, 0 ≤ q ∧ q ≤ 1
  jitterBufferMs : ∀ q ∈ stats.jitterBufferMs, 0 ≤ q

/-- A counter that is known before and after has not gone back. -/
def Counts (before now : Option ℚ) : Prop := ∀ p ∈ before, ∀ q ∈ now, p ≤ q

/-- Two samples of one stream, 100 to 3000 ms apart, between which no counter has gone back. -/
structure Comparable (prior current : VideoSample) : Prop where
  same : prior.identity = current.identity
  timely : ∃ before ∈ prior.timestamp, ∃ now ∈ current.timestamp,
    100 ≤ now - before ∧ now - before ≤ 3000
  frames : Counts prior.frames current.frames
  received : Counts prior.received current.received
  bytes : Counts prior.bytes current.bytes

section measure

variable {value : StatsValue} {number q : ℚ} {previous current : VideoSample}

theorem nonNegativeNumber_eq (h : 0 ≤ number) : nonNegativeNumber number = some number := if_pos h

theorem nonNegativeNumber_nonneg (h : q ∈ nonNegativeNumber number) : 0 ≤ q := by
  unfold nonNegativeNumber at h
  split at h
  · next hnumber =>
    obtain rfl := Option.some.inj h
    exact hnumber
  · cases h

theorem nonNegative_nonneg (h : q ∈ nonNegative value) : 0 ≤ q := by
  obtain ⟨number, -, hnumber⟩ := Option.bind_eq_some_iff.1 h
  exact nonNegativeNumber_nonneg hnumber

theorem dimension_nonneg (h : q ∈ dimension value) : 0 ≤ q :=
  nonNegative_nonneg (Option.filter_eq_some_iff.1 h).1

theorem milliseconds_nonneg (h : q ∈ milliseconds value) : 0 ≤ q := by
  obtain ⟨seconds, -, hnumber⟩ := Option.bind_eq_some_iff.1 h
  exact nonNegativeNumber_nonneg hnumber

theorem delta_nonneg {before now : Option ℚ} (h : q ∈ delta now before) : 0 ≤ q := by
  unfold delta at h
  split at h
  · split at h
    · next hle =>
      obtain rfl := Option.some.inj h
      exact sub_nonneg.2 hle
    · cases h
  · cases h

theorem frameRate_nonneg {video : StatsEntry} {passed : ℚ}
    (h : q ∈ (frameRate video previous current passed).1) : 0 ≤ q := by
  unfold frameRate at h
  split at h
  · exact nonNegativeNumber_nonneg h
  · split at h
    · exact nonNegative_nonneg h
    · cases h

/-- What is lost is part of what was sent. -/
theorem lossRatio_mem (h : q ∈ lossRatio previous current) : 0 ≤ q ∧ q ≤ 1 := by
  unfold lossRatio at h
  dsimp only at h
  generalize hlost : (match current.lost, previous.lost with
    | some now, some before => nonNegativeNumber (max 0 (now - before))
    | _, _ => none) = lost at h
  split at h
  · next received lost hreceived =>
    have hlost : 0 ≤ lost := by
      split at hlost
      · exact nonNegativeNumber_nonneg hlost
      · cases hlost
    have hreceived := delta_nonneg hreceived
    split at h
    · next hpositive =>
      obtain rfl := Option.some.inj h
      exact ⟨div_nonneg hlost hpositive.le, (div_le_one hpositive).2 (by linarith)⟩
    · cases h
  · cases h

theorem jitterBufferMs_nonneg (h : q ∈ jitterBufferMs previous current) : 0 ≤ q := by
  unfold jitterBufferMs at h
  split at h
  · split at h
    · exact nonNegativeNumber_nonneg h
    · cases h
  · cases h

theorem wentBack_eq_false {before now : Option ℚ} :
    wentBack now before = false ↔ Counts before now := by
  unfold wentBack Counts
  cases now with
  | none => simp
  | some now =>
    cases before with
    | none => simp
    | some before => simp

theorem timely_iff : timely (elapsed previous current) = true ↔
    ∃ before ∈ previous.timestamp, ∃ now ∈ current.timestamp,
      100 ≤ now - before ∧ now - before ≤ 3000 := by
  unfold timely elapsed
  cases previous.timestamp with
  | none => simp
  | some before =>
    cases current.timestamp with
    | none => simp
    | some now => simp

/-- The two samples of one stream are compared exactly when they are comparable. -/
theorem comparable_iff (hsame : previous.identity = current.identity) :
    (timely (elapsed previous current) && !reset previous current) = true ↔
      Comparable previous current := by
  rw [Bool.and_eq_true_iff, timely_iff, Bool.not_eq_true', reset, Bool.or_eq_false_iff,
    Bool.or_eq_false_iff, wentBack_eq_false, wentBack_eq_false, wentBack_eq_false]
  constructor
  · rintro ⟨htimely, ⟨hframes, hreceived⟩, hbytes⟩
    exact ⟨hsame, htimely, hframes, hreceived, hbytes⟩
  · rintro ⟨-, htimely, hframes, hreceived, hbytes⟩
    exact ⟨htimely, ⟨hframes, hreceived⟩, hbytes⟩

theorem reported_sound (entries : OrdMap String StatsEntry) (video : StatsEntry)
    (previous : Option VideoSample) (current : VideoSample) :
    Sound (reported entries video previous current) := by
  have hnone : ∀ q ∈ (none : Option ℚ), 0 ≤ q := fun _ h => by cases h
  have hratio : ∀ q ∈ (none : Option ℚ), 0 ≤ q ∧ q ≤ 1 := fun _ h => by cases h
  unfold reported
  dsimp only
  split
  · exact ⟨fun _ => dimension_nonneg, fun _ => dimension_nonneg, hnone, hnone, hnone, hratio, hnone⟩
  · refine ⟨fun _ => dimension_nonneg, fun _ => dimension_nonneg, hnone, fun q h => ?_,
      fun _ => milliseconds_nonneg, hratio, hnone⟩
    dsimp only at h
    split at h
    · cases h
    · obtain ⟨pair, -, hpair⟩ := Option.bind_eq_some_iff.1 h
      exact milliseconds_nonneg hpair

/-- A report by itself says nothing of an interval. -/
theorem reported_interval (entries : OrdMap String StatsEntry) (video : StatsEntry)
    (previous : Option VideoSample) (current : VideoSample) :
    (reported entries video previous current).fps = none ∧
      (reported entries video previous current).lossRatio = none ∧
      (reported entries video previous current).jitterBufferMs = none ∧
      (reported entries video previous current).stalled = false := by
  unfold reported
  dsimp only
  split <;> exact ⟨rfl, rfl, rfl, rfl⟩

theorem measure_sound (entries : OrdMap String StatsEntry) (video : StatsEntry)
    (previous : Option VideoSample) (current : VideoSample) :
    Sound (measure entries video previous current) := by
  have hsound := reported_sound entries video previous current
  unfold measure
  dsimp only
  split
  · exact { hsound with fps := fun _ => nonNegative_nonneg }
  · split
    · exact hsound
    · split
      · exact { hsound with
          fps := fun _ => frameRate_nonneg
          lossRatio := fun _ => lossRatio_mem
          jitterBufferMs := fun _ => jitterBufferMs_nonneg }
      · exact hsound

/-- A first sample is not measured over an interval, and neither is one that cannot be compared. -/
theorem measure_cases (entries : OrdMap String StatsEntry) (video : StatsEntry)
    {prior : Option VideoSample} {stats : VideoStreamStats}
    (hstats : stats =
      measure entries video (prior.filter (·.identity = current.identity)) current) :
    (stats.lossRatio = none ∧ stats.jitterBufferMs = none ∧ stats.stalled = false ∧
      (∀ p ∈ prior, ¬ Comparable p current) ∧ (stats.fps = none ∨
        (∀ p ∈ prior, p.identity ≠ current.identity) ∧
          stats.fps = nonNegative (video "framesPerSecond"))) ∨
    ∃ p ∈ prior, Comparable p current ∧ ∃ passed, elapsed p current = some passed ∧
      stats.fps = (frameRate video p current passed).1 ∧
      stats.stalled = (frameRate video p current passed).2 := by
  obtain ⟨hfps, hloss, hbuffer, hstalled⟩ := reported_interval entries video
    (prior.filter (·.identity = current.identity)) current
  unfold measure at hstats
  dsimp only at hstats
  cases hprevious : prior.filter (·.identity = current.identity) with
  | none =>
    have hother : ∀ p ∈ prior, p.identity ≠ current.identity := by
      intro p hp heq
      have hnone := Option.filter_eq_none_iff.1 hprevious p hp
      exact hnone (decide_eq_true heq)
    rw [hprevious] at hstats hloss hbuffer hstalled
    subst hstats
    exact .inl ⟨hloss, hbuffer, hstalled, fun p hp hcomparable => hother p hp hcomparable.same,
      .inr ⟨hother, rfl⟩⟩
  | some p =>
    obtain ⟨hp, hsame⟩ := Option.filter_eq_some_iff.1 hprevious
    have hiff := comparable_iff (of_decide_eq_true hsame)
    have hunique : ∀ p' ∈ prior, p' = p := fun p' hp' => Option.mem_unique hp' hp
    rw [hprevious] at hstats hfps hloss hbuffer hstalled
    dsimp only at hstats
    cases hpassed : elapsed p current with
    | none =>
      rw [hpassed] at hstats hiff
      subst hstats
      refine .inl ⟨hloss, hbuffer, hstalled, fun p' hp' hcomparable => ?_, .inl hfps⟩
      rw [hunique p' hp'] at hcomparable
      cases hiff.2 hcomparable
    | some passed =>
      rw [hpassed] at hstats hiff
      dsimp only at hstats
      split at hstats
      · next hcompared =>
        subst hstats
        exact .inr ⟨p, hp, hiff.1 hcompared, passed, hpassed, rfl, rfl⟩
      · next hcompared =>
        subst hstats
        refine .inl ⟨hloss, hbuffer, hstalled, fun p' hp' hcomparable => ?_, .inl hfps⟩
        rw [hunique p' hp'] at hcomparable
        exact hcompared (hiff.2 hcomparable)

end measure

/-! ## Reports in a row -/

section reports

variable (numberText : Number → String)

/-- `new VideoStatsSampler()`. -/
def new : VideoStatsSampler := { previous := none, candidates := ∅ }

/-- The sampler after some reports, the latest first. -/
def after : List (List StatsEntry) → VideoStatsSampler
  | [] => new
  | report :: earlier => ((after earlier).sample numberText report).2

/-- The stream that was selected in the latest report. -/
def chosen : List (List StatsEntry) → Option StatsEntry
  | [] => none
  | report :: earlier => (after numberText earlier).selected numberText report

/-- The measurement of the latest report. -/
def shown : List (List StatsEntry) → VideoStreamStats
  | [] => emptyStats
  | report :: earlier => ((after numberText earlier).sample numberText report).1

/-- What is measured over an interval, of a stream whose sample in the report before was `prior`. -/
structure Measured (prior : Option VideoSample) (video : StatsEntry) (current : VideoSample)
    (stats : VideoStreamStats) : Prop where
  lossRatio : stats.lossRatio.isSome = true → ∃ p ∈ prior, Comparable p current
  jitterBufferMs : stats.jitterBufferMs.isSome = true → ∃ p ∈ prior, Comparable p current
  stalled : stats.stalled = true → ∃ p ∈ prior, Comparable p current
  /-- Otherwise a frame rate is that of a stream's first report, as the report has it. -/
  fps : stats.fps.isSome = true → (∃ p ∈ prior, Comparable p current) ∨
    (∀ p ∈ prior, p.identity ≠ current.identity) ∧
      stats.fps = nonNegative (video "framesPerSecond")
  counted : ∀ p ∈ prior, Comparable p current →
    ∀ before ∈ p.timestamp, ∀ now ∈ current.timestamp,
    ∀ first ∈ p.frames, ∀ last ∈ current.frames,
      stats.fps = some ((last - first) / ((now - before) / 1000)) ∧
        (stats.stalled = true ↔ last = first)
  uncounted : ∀ p ∈ prior, Comparable p current → p.frames = none ∨ current.frames = none →
    stats.fps = nonNegative (video "framesPerSecond") ∧
      (stats.stalled = true ↔ stats.fps = some 0)

theorem previous_after (reports : List (List StatsEntry)) :
    (after numberText reports).previous =
      (chosen numberText reports).map (snapshot numberText) := by
  cases reports with
  | nil => rfl
  | cons report earlier =>
    rw [after, chosen, sample]
    split
    · next hnone => rw [hnone]; rfl
    · next video hvideo => rw [hvideo]; rfl

theorem frameRate_counted {video : StatsEntry} {prior current : VideoSample} {before now : ℚ}
    (h : Comparable prior current) (hbefore : before ∈ prior.timestamp)
    (hnow : now ∈ current.timestamp) {first last : ℚ} (hfirst : first ∈ prior.frames)
    (hlast : last ∈ current.frames) :
    (frameRate video prior current (now - before)).1 =
        some ((last - first) / ((now - before) / 1000)) ∧
      ((frameRate video prior current (now - before)).2 = true ↔ last = first) := by
  have hle : first ≤ last := h.frames first hfirst last hlast
  obtain ⟨before', hbefore', now', hnow', hlong, -⟩ := h.timely
  obtain rfl := Option.mem_unique hbefore hbefore'
  obtain rfl := Option.mem_unique hnow hnow'
  have hdelta : delta current.frames prior.frames = some (last - first) := by
    rw [Option.mem_def.1 hfirst, Option.mem_def.1 hlast, delta, if_pos hle]
  have hrate : 0 ≤ (last - first) * 1000 / (now - before) :=
    div_nonneg (mul_nonneg (sub_nonneg.2 hle) (by norm_num)) (by linarith)
  unfold frameRate
  rw [hdelta]
  refine ⟨?_, ?_⟩
  · dsimp only
    rw [nonNegativeNumber_eq hrate, div_div_eq_mul_div]
  · simp [sub_eq_zero]

theorem frameRate_uncounted {video : StatsEntry} {prior current : VideoSample} {passed : ℚ}
    (h : prior.frames = none ∨ current.frames = none) :
    (frameRate video prior current passed).1 = nonNegative (video "framesPerSecond") ∧
      ((frameRate video prior current passed).2 = true ↔
        (frameRate video prior current passed).1 = some 0) := by
  have hdelta : delta current.frames prior.frames = none := by
    rcases h with hnone | hnone
    · rw [hnone]
      cases current.frames <;> rfl
    · rw [hnone]
      rfl
  have hmissing : (current.frames.isNone || prior.frames.isNone) = true := by
    rcases h with hnone | hnone <;> simp [hnone]
  unfold frameRate
  rw [hdelta]
  simp [hmissing]

/-- **Main result.** Whatever the reports hold: every measurement is missing or in its range, and
what is measured over an interval comes from two comparable samples, those of the streams that were
selected in the latest report and in the one before. -/
theorem reports_measured (earlier : List (List StatsEntry)) (report : List StatsEntry) :
    Sound (shown numberText (report :: earlier)) ∧
    (chosen numberText (report :: earlier) = none →
      shown numberText (report :: earlier) = emptyStats) ∧
    ∀ video, chosen numberText (report :: earlier) = some video →
      Measured ((chosen numberText earlier).map (snapshot numberText)) video
        (snapshot numberText video) (shown numberText (report :: earlier)) := by
  have hempty : Sound emptyStats := by
    constructor <;> exact fun _ h => by cases h
  rw [chosen, shown, sample, ← previous_after numberText]
  split
  · next hnone =>
    refine ⟨hempty, fun _ => rfl, fun video hvideo => ?_⟩
    rw [hnone] at hvideo
    cases hvideo
  · next video hvideo =>
    refine ⟨measure_sound _ _ _ _, fun hnone => ?_, fun video' hvideo' => ?_⟩
    · rw [hvideo] at hnone
      cases hnone
    rw [hvideo] at hvideo'
    obtain rfl := Option.some.inj hvideo'
    dsimp only
    generalize hstats : measure (readEntries report) video _ _ = stats
    rcases measure_cases (readEntries report) video hstats.symm with
      ⟨hloss, hbuffer, hstalled, hnot, hfps⟩ | ⟨p, hp, hcomparable, passed, hpassed, hfps, hstalled⟩
    · constructor
      case lossRatio => rw [hloss]; exact fun h => by cases h
      case jitterBufferMs => rw [hbuffer]; exact fun h => by cases h
      case stalled => rw [hstalled]; exact fun h => by cases h
      case fps =>
        rcases hfps with hnone | hfirst
        · rw [hnone]
          exact fun h => by cases h
        · exact fun _ => .inr hfirst
      case counted => exact fun p hp hcomparable => absurd hcomparable (hnot p hp)
      case uncounted => exact fun p hp hcomparable => absurd hcomparable (hnot p hp)
    · constructor
      case lossRatio => exact fun _ => ⟨p, hp, hcomparable⟩
      case jitterBufferMs => exact fun _ => ⟨p, hp, hcomparable⟩
      case stalled => exact fun _ => ⟨p, hp, hcomparable⟩
      case fps => exact fun _ => .inl ⟨p, hp, hcomparable⟩
      case counted =>
        intro p' hp' _ before hbefore now hnow first hfirst last hlast
        obtain rfl := Option.mem_unique hp hp'
        rw [elapsed, Option.mem_def.1 hbefore, Option.mem_def.1 hnow] at hpassed
        obtain rfl := Option.some.inj hpassed
        rw [hfps, hstalled]
        exact frameRate_counted hcomparable hbefore hnow hfirst hlast
      case uncounted =>
        intro p' hp' _ hmissing
        obtain rfl := Option.mem_unique hp hp'
        rw [hfps, hstalled]
        exact frameRate_uncounted hmissing

end reports

/-- A report of one video stream. -/
def inbound (timestamp framesDecoded packetsReceived packetsLost : Int) : List StatsEntry :=
  [fun name => match name with
    | "id" => .string "video-in"
    | "type" => .string "inbound-rtp"
    | "kind" => .string "video"
    | "timestamp" => .number (.ofInt timestamp)
    | "framesDecoded" => .number (.ofInt framesDecoded)
    | "packetsReceived" => .number (.ofInt packetsReceived)
    | "packetsLost" => .number (.ofInt packetsLost)
    | _ => .undefined]

/-- 29 frames in a second, and four packets of a hundred lost. -/
example :
    let stats := shown (fun _ => "") [inbound 2000 89 196 6, inbound 1000 60 100 2]
    stats.fps = some 29 ∧ stats.lossRatio = some (1 / 25) ∧ stats.stalled = false := by
  decide +kernel

end VideoStatsSampler

end RcOnline.Web
