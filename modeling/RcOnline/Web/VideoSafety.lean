import RcOnline.Lib.Since
import RcOnline.Web.AdaptiveVideo

/-!
# The freshness of the video picture

`RideVideoSafety` of `apps/web/app/ride-video-safety.ts`, which reports whether the picture that the
driver sees is fresh. Its timers only decide when the host calls `check`, and a cancelled frame
callback may still come: here the host calls either at any time. A picture is reported as fresh only
on progress that is less than a second old, of the stream that is watched, and that nothing has
interrupted since (`freshness_reported`).
-/

namespace RcOnline.Web

open RcOnline.Lib

variable {σ : Type}

/-- What the page, the video element and the clock say during a call. -/
structure VideoView (σ : Type) where
  srcObject : Option σ
  /-- `document.visibilityState === "visible"`. -/
  visible : Bool
  readyState : Nat
  paused : Bool
  ended : Bool
  videoWidth : Nat
  videoHeight : Nat
  currentTime : Number
  /-- The element has `requestVideoFrameCallback`. -/
  frameCallbacks : Bool
  /-- `totalVideoFrames` and `droppedVideoFrames` of the playback quality. -/
  playbackQuality : Option (Number × Number)
  webkitDecodedFrameCount : Option Number
  /-- `performance.now()` when a frame is noted. -/
  notedAt : Number
  /-- `performance.now()` when it is asked whether the picture is fresh. -/
  askedAt : Number

namespace VideoView

/-- The element plays the stream where it can be seen. -/
def shows [DecidableEq σ] (view : VideoView σ) (stream : Option σ) : Bool :=
  stream.isSome && view.srcObject = stream && view.visible && 2 ≤ view.readyState &&
    !view.paused && !view.ended && 0 < view.videoWidth && 0 < view.videoHeight

def frameCount (view : VideoView σ) : Option Number :=
  let displayed := view.playbackQuality.map fun (total, dropped) => total.sub dropped
  (displayed.filter isNonNegative).or (view.webkitDecodedFrameCount.filter isNonNegative)

/-- The frame counter or, where there is none, the media time is beyond a baseline. -/
def beyond (view : VideoView σ) (lastFrameCount : Option Number) (lastMediaTime : Number) : Bool :=
  match view.frameCount with
  | none =>
    match view.currentTime with
    | .finite mediaTime => lastMediaTime.lt (.finite mediaTime)
    | _ => false
  | some count => lastFrameCount.any (·.lt count)

end VideoView

structure RideVideoSafety (σ : Type) where
  stream : Option σ
  generation : Nat
  closed : Bool
  fresh : Bool
  lastFrameAt : Option Number
  lastFrameCount : Option Number
  lastPresentedFrames : Option Number
  lastMediaTime : Number

/-- What happens to the watcher. A frame callback belongs to the generation that requested it. -/
inductive SafetyEvent (σ : Type) where
  | watch (stream : σ) (view : VideoView σ)
  | check (view : VideoView σ)
  | frame (generation : Nat) (presentedFrames : Number) (view : VideoView σ)
  | close

namespace RideVideoSafety

def new : RideVideoSafety σ where
  stream := none
  generation := 0
  closed := false
  fresh := false
  lastFrameAt := none
  lastFrameCount := none
  lastPresentedFrames := none
  lastMediaTime := .ofInt 0

/-- A report is made when the freshness changes. -/
def publish (watcher : RideVideoSafety σ) (fresh : Bool) : Option Bool × RideVideoSafety σ :=
  if watcher.fresh = fresh then (none, watcher) else (some fresh, { watcher with fresh })

def resetFallbackBaseline (watcher : RideVideoSafety σ) (view : VideoView σ) : RideVideoSafety σ :=
  { watcher with lastFrameCount := view.frameCount, lastMediaTime := view.currentTime }

def noteFrame (watcher : RideVideoSafety σ) (view : VideoView σ) : RideVideoSafety σ :=
  { watcher with lastFrameAt := some view.notedAt }

/-- The callbacks and timers of the watch are cancelled. -/
def cancelWatch (watcher : RideVideoSafety σ) : RideVideoSafety σ :=
  { watcher with generation := watcher.generation + 1 }

variable [DecidableEq σ]

def ready (watcher : RideVideoSafety σ) (view : VideoView σ) : Bool := view.shows watcher.stream

def isFresh (watcher : RideVideoSafety σ) (view : VideoView σ) : Bool :=
  !watcher.closed && watcher.ready view &&
    watcher.lastFrameAt.any fun last => (view.askedAt.sub last).lt (.ofInt 1000)

def watch (watcher : RideVideoSafety σ) (stream : σ) (view : VideoView σ) :
    Option Bool × RideVideoSafety σ :=
  if watcher.closed || watcher.stream = some stream then (none, watcher)
  else
    let watcher := { watcher.cancelWatch with
      stream := some stream
      lastFrameAt := none
      lastPresentedFrames := none }
    (watcher.resetFallbackBaseline view).publish false

def check (watcher : RideVideoSafety σ) (view : VideoView σ) : Option Bool × RideVideoSafety σ :=
  if watcher.closed || watcher.stream.isNone then (none, watcher)
  else
    let watcher :=
      -- A hidden or paused picture must show a new frame before it is fresh again.
      if !watcher.ready view then { watcher with lastFrameAt := none }.resetFallbackBaseline view
      else if !view.frameCallbacks then
        let progressed := view.beyond watcher.lastFrameCount watcher.lastMediaTime
        let watcher :=
          { watcher with lastFrameCount := view.frameCount, lastMediaTime := view.currentTime }
        if progressed then watcher.noteFrame view else watcher
      else watcher
    watcher.publish (watcher.isFresh view)

/-- The callback of a frame, which belongs to the generation that requested it. -/
def frame (watcher : RideVideoSafety σ) (generation : Nat) (presentedFrames : Number)
    (view : VideoView σ) : Option Bool × RideVideoSafety σ :=
  if watcher.closed || generation ≠ watcher.generation then (none, watcher)
  else
    let watcher :=
      if watcher.ready view && watcher.lastPresentedFrames.all (·.lt presentedFrames) then
        watcher.noteFrame view
      else watcher
    let watcher := { watcher with lastPresentedFrames := some presentedFrames }
    watcher.publish (watcher.isFresh view)

def close (watcher : RideVideoSafety σ) : RideVideoSafety σ :=
  if watcher.closed then watcher
  else { { watcher with closed := true }.cancelWatch with stream := none }

/-- What is reported at an event, and the watcher after it. -/
def react (watcher : RideVideoSafety σ) : SafetyEvent σ → Option Bool × RideVideoSafety σ
  | .watch stream view => watcher.watch stream view
  | .check view => watcher.check view
  | .frame generation presentedFrames view => watcher.frame generation presentedFrames view
  | .close => (none, watcher.close)

/-- The watcher after some events, the latest first. -/
def after : List (SafetyEvent σ) → RideVideoSafety σ
  | [] => new
  | event :: past => ((after past).react event).2

/-- What is reported at an event after some others. -/
def report (past : List (SafetyEvent σ)) (event : SafetyEvent σ) : Option Bool :=
  ((after past).react event).1

/-- All reports, the latest first. -/
def reports : List (SafetyEvent σ) → List Bool
  | [] => []
  | event :: past => (report past event).toList ++ reports past

end RideVideoSafety

/-! ## What the events say -/

namespace SafetyEvent

/-- What is seen at an event. -/
def view? : SafetyEvent σ → Option (VideoView σ)
  | .watch _ view => some view
  | .check view => some view
  | .frame _ _ view => some view
  | .close => none

/-- The watcher has been closed. -/
def closed : List (SafetyEvent σ) → Bool
  | [] => false
  | .close :: _ => true
  | _ :: past => closed past

theorem closed_iff {past : List (SafetyEvent σ)} : closed past = true ↔ .close ∈ past := by
  induction past with
  | nil => simp [closed]
  | cons event past ih =>
    cases event with
    | watch stream view => simp [closed, ih]
    | check view => simp [closed, ih]
    | frame generation presentedFrames view => simp [closed, ih]
    | close => simp [closed]

/-- The stream that is watched. -/
def watched : List (SafetyEvent σ) → Option σ
  | [] => none
  | .watch stream _ :: past => if closed past then watched past else some stream
  | .close :: _ => none
  | _ :: past => watched past

theorem watched_of_closed {past : List (SafetyEvent σ)} (h : closed past = true) :
    watched past = none := by
  induction past with
  | nil => rfl
  | cons event past ih =>
    cases event with
    | watch stream view =>
      have h : closed past = true := h
      rw [watched, if_pos h, ih h]
    | check view => exact ih h
    | frame generation presentedFrames view => exact ih h
    | close => rfl

variable [DecidableEq σ]

/-- A watch has an effect when it is for another stream, before the close. -/
def effective (past : List (SafetyEvent σ)) (stream : σ) : Bool :=
  !closed past && watched past ≠ some stream

/-- How many watches have had an effect: the generation of the current one. -/
def watches : List (SafetyEvent σ) → Nat
  | [] => 0
  | .watch stream _ :: past => if effective past stream then watches past + 1 else watches past
  | _ :: past => watches past

/-- What the last frame callback of the current watch has presented. -/
def lastPresented : List (SafetyEvent σ) → Option Number
  | [] => none
  | .watch stream _ :: past => if effective past stream then none else lastPresented past
  | .frame generation presentedFrames _ :: past =>
    if !closed past && generation = watches past then some presentedFrames else lastPresented past
  | _ :: past => lastPresented past

/-- A check finds the watched video not ready. -/
def unready (past : List (SafetyEvent σ)) (view : VideoView σ) : Bool :=
  (watched past).isSome && !view.shows (watched past)

/-- The frame counter and the media time that progress is measured from: those at the current watch,
and at each later check that finds the video not ready or has no frame callbacks. -/
def baseline : List (SafetyEvent σ) → Option Number × Number
  | [] => (none, .ofInt 0)
  | .watch stream view :: past =>
    if effective past stream then (view.frameCount, view.currentTime) else baseline past
  | .check view :: past =>
    if unready past view || (watched past).isSome && !view.frameCallbacks then
      (view.frameCount, view.currentTime)
    else baseline past
  | _ :: past => baseline past

/-- Progress of the watched video at a time: a frame callback of the current watch that presents
more frames than its last one, or a counter beyond its baseline. -/
inductive Progress (past : List (SafetyEvent σ)) : SafetyEvent σ → Number → Prop where
  | frame {presentedFrames : Number} {view : VideoView σ}
      (hshows : view.shows (watched past) = true)
      (hmore : ∀ last, lastPresented past = some last → last.lt presentedFrames = true) :
      Progress past (.frame (watches past) presentedFrames view) view.notedAt
  | counter {view : VideoView σ} (hpolled : view.frameCallbacks = false)
      (hshows : view.shows (watched past) = true)
      (hbeyond : view.beyond (baseline past).1 (baseline past).2 = true) :
      Progress past (.check view) view.notedAt

/-- What ends the evidence of progress. -/
inductive Interrupts (past : List (SafetyEvent σ)) : SafetyEvent σ → Prop where
  | watch {stream : σ} {view : VideoView σ} (heffective : effective past stream = true) :
      Interrupts past (.watch stream view)
  | unready {view : VideoView σ} (hunready : unready past view = true) :
      Interrupts past (.check view)

/-- The history begins with progress at a time. -/
def ProgressAt (at' : Number) (base : List (SafetyEvent σ)) : Prop :=
  ∃ event earlier, base = event :: earlier ∧ Progress earlier event at'

/-- The evidence of the picture at an event: the video plays where it can be seen, and less than a
second before there was progress that nothing has interrupted. -/
structure Evidence (past : List (SafetyEvent σ)) (view : VideoView σ) : Prop where
  shows : view.shows (watched past) = true
  progress : ∃ at' base, ProgressAt at' base ∧
    Since (fun past event => ¬ Interrupts past event) base past ∧
    (view.askedAt.sub at').lt (.ofInt 1000) = true

end SafetyEvent

namespace RideVideoSafety

open SafetyEvent

/-- Reports, the latest first, that alternate from `true` on. -/
def Alternates : List Bool → Prop
  | [] => True
  | fresh :: earlier => fresh = !earlier.head?.getD false ∧ Alternates earlier

/-- What is published alternates, and the watcher knows the last report. -/
theorem alternates_publish {after : RideVideoSafety σ} {earlier : List Bool} (fresh : Bool)
    (hfresh : after.fresh = earlier.head?.getD false) (h : Alternates earlier) :
    Alternates ((after.publish fresh).1.toList ++ earlier) ∧
      (after.publish fresh).2 = { after with fresh } ∧
      fresh = ((after.publish fresh).1.toList ++ earlier).head?.getD false := by
  unfold publish
  split
  · next hsame =>
    subst hsame
    exact ⟨h, rfl, hfresh⟩
  · next hchanged =>
    refine ⟨⟨?_, h⟩, rfl, rfl⟩
    change fresh = !earlier.head?.getD false
    rw [← hfresh]
    exact Bool.eq_not_of_ne (Ne.symm hchanged)

variable [DecidableEq σ] {watcher : RideVideoSafety σ} {past : List (SafetyEvent σ)}

/-! ## The watcher and the events -/

/-- The watcher agrees with what the events say, whatever it has reported. -/
structure Agrees (watcher : RideVideoSafety σ) (past : List (SafetyEvent σ)) : Prop where
  stream : watcher.stream = watched past
  closed : watcher.closed = SafetyEvent.closed past
  generation : watcher.closed = false → watcher.generation = watches past
  presented : watcher.lastPresentedFrames = lastPresented past
  baseline : (watcher.lastFrameCount, watcher.lastMediaTime) = SafetyEvent.baseline past
  marked : Marked ProgressAt (fun past event => ¬ Interrupts past event) watcher.lastFrameAt past

theorem Agrees.withFresh (h : Agrees watcher past) (fresh : Bool) :
    Agrees { watcher with fresh } past :=
  ⟨h.stream, h.closed, h.generation, h.presented, h.baseline, h.marked⟩

/-- A fresh picture has its evidence. -/
theorem Agrees.evidence (h : Agrees watcher past) {view : VideoView σ}
    (hfresh : watcher.isFresh view = true) : Evidence past view := by
  unfold isFresh ready at hfresh
  simp only [Bool.and_eq_true, h.stream] at hfresh
  obtain ⟨⟨-, hshows⟩, hrecent⟩ := hfresh
  obtain ⟨at', hlast, hrecent⟩ := Option.any_eq_true .. |>.mp hrecent
  obtain ⟨base, hbase, hpast⟩ := h.marked at' hlast
  exact ⟨hshows, at', base, hbase, hpast, hrecent⟩

/-- What an event does: it is silent, or publishes whether the picture is fresh. -/
def Reacts (watcher : RideVideoSafety σ) (past : List (SafetyEvent σ)) (event : SafetyEvent σ) :
    Prop :=
  ∃ after, Agrees after (event :: past) ∧ after.fresh = watcher.fresh ∧
    (watcher.react event = (none, after) ∨ SafetyEvent.closed past = false ∧
      ∃ fresh, watcher.react event = after.publish fresh ∧
        (fresh = true → ∃ view, event.view? = some view ∧ Evidence (event :: past) view))

theorem Agrees.watch (h : Agrees watcher past) (stream : σ) (view : VideoView σ) :
    Reacts watcher past (.watch stream view) := by
  have heffective : effective past stream = !(watcher.closed || watcher.stream = some stream) := by
    rw [effective, h.closed, h.stream, Bool.not_or, decide_not]
  cases hguard : watcher.closed || watcher.stream = some stream with
  | true =>
    rw [hguard] at heffective
    have hreact : watcher.react (.watch stream view) = (none, watcher) := by
      rw [react, RideVideoSafety.watch, if_pos hguard]
    refine ⟨watcher, ⟨?_, h.closed, ?_, ?_, ?_, ?_⟩, rfl, .inl hreact⟩
    · rw [watched, h.stream, ← h.closed]
      rcases Bool.or_eq_true_iff.1 hguard with hclosed | hsame
      · rw [if_pos hclosed]
      · have hsame := of_decide_eq_true hsame
        rw [h.stream] at hsame
        rw [hsame, ite_self]
    · rw [watches, heffective]
      exact h.generation
    · rw [lastPresented, heffective]
      exact h.presented
    · rw [SafetyEvent.baseline, heffective]
      exact h.baseline
    · refine h.marked.cons fun at' hlast => .inl ⟨hlast, ?_⟩
      rintro ⟨hinterrupts⟩
      rw [heffective] at hinterrupts
      cases hinterrupts
  | false =>
    rw [hguard] at heffective
    obtain ⟨hopen, -⟩ := Bool.or_eq_false_iff.1 hguard
    have hclosed : SafetyEvent.closed past = false := h.closed ▸ hopen
    let started := { watcher.cancelWatch with
      stream := some stream
      lastFrameAt := none
      lastPresentedFrames := none }.resetFallbackBaseline view
    have hreact : watcher.react (.watch stream view) = started.publish false := by
      rw [react, RideVideoSafety.watch, hguard]
      rfl
    refine ⟨started, ⟨?_, ?_, ?_, ?_, ?_, .none⟩, rfl, .inr ⟨hclosed, false, hreact, ?_⟩⟩
    · rw [watched, hclosed]
      rfl
    · exact h.closed
    · intro _
      rw [watches, heffective, ← h.generation hopen]
      rfl
    · rw [lastPresented, heffective]
      rfl
    · rw [SafetyEvent.baseline, heffective]
      rfl
    · exact fun h => by cases h

/-- An event that ends in asking whether the picture is fresh. -/
theorem reacts_of_asked {after : RideVideoSafety σ} {event : SafetyEvent σ} {view : VideoView σ}
    (hagrees : Agrees after (event :: past)) (hfresh : after.fresh = watcher.fresh)
    (hopen : SafetyEvent.closed past = false) (hview : event.view? = some view)
    (hreact : watcher.react event = after.publish (after.isFresh view)) :
    Reacts watcher past event :=
  ⟨after, hagrees, hfresh, .inr ⟨hopen, _, hreact, fun h => ⟨view, hview, hagrees.evidence h⟩⟩⟩

theorem Agrees.check (h : Agrees watcher past) (view : VideoView σ) :
    Reacts watcher past (.check view) := by
  cases hguard : watcher.closed || watcher.stream.isNone with
  | true =>
    have hnone : watched past = none := by
      rcases Bool.or_eq_true_iff.1 hguard with hclosed | hnone
      · exact watched_of_closed (h.closed ▸ hclosed)
      · rw [← h.stream]
        exact Option.isNone_iff_eq_none.1 hnone
    have hready : unready past view = false := by
      rw [unready, hnone]
      rfl
    have hreact : watcher.react (.check view) = (none, watcher) := by
      rw [react, RideVideoSafety.check, if_pos hguard]
    refine ⟨watcher, ⟨h.stream, h.closed, h.generation, h.presented, ?_, ?_⟩, rfl, .inl hreact⟩
    · rw [SafetyEvent.baseline, hready, hnone]
      exact h.baseline
    · refine h.marked.cons fun at' hlast => .inl ⟨hlast, ?_⟩
      rintro (_ | ⟨hunready⟩)
      rw [hready] at hunready
      cases hunready
  | false =>
    obtain ⟨hopen, hsome⟩ := Bool.or_eq_false_iff.1 hguard
    have hclosed : SafetyEvent.closed past = false := h.closed ▸ hopen
    have hsome : (watched past).isSome = true := by
      rw [← h.stream, Option.isSome_iff_ne_none]
      exact fun hnone => by rw [hnone] at hsome; cases hsome
    have hshows : watcher.ready view = view.shows (watched past) := by rw [ready, h.stream]
    cases hready : view.shows (watched past) with
    | false =>
      rw [hready] at hshows
      have hunready : unready past view = true := by rw [unready, hsome, hready]; rfl
      let after := { watcher with lastFrameAt := none }.resetFallbackBaseline view
      have hreact : watcher.react (.check view) = after.publish (after.isFresh view) := by
        rw [react, RideVideoSafety.check, hguard]
        simp only [Bool.false_eq_true, if_false, hshows, Bool.not_false, if_true]
        rfl
      have hagrees : Agrees after (.check view :: past) := by
        refine ⟨h.stream, h.closed, h.generation, h.presented, ?_, .none⟩
        rw [SafetyEvent.baseline, hunready]
        rfl
      exact reacts_of_asked hagrees rfl hclosed rfl hreact
    | true =>
      rw [hready] at hshows
      have hunready : unready past view = false := by
        rw [unready, hready, Bool.not_true, Bool.and_false]
      have hquiet : ¬ Interrupts past (.check view) := by
        rintro (_ | ⟨hnot⟩)
        rw [hunready] at hnot
        cases hnot
      cases hcallbacks : view.frameCallbacks with
      | true =>
        have hreact : watcher.react (.check view) =
            watcher.publish (watcher.isFresh view) := by
          rw [react, RideVideoSafety.check, hguard]
          simp [hshows, hcallbacks]
        have hagrees : Agrees watcher (.check view :: past) := by
          refine ⟨h.stream, h.closed, h.generation, h.presented, ?_, ?_⟩
          · rw [SafetyEvent.baseline, hunready, hcallbacks, Bool.not_true, Bool.and_false]
            exact h.baseline
          · exact h.marked.cons fun at' hlast => .inl ⟨hlast, hquiet⟩
        exact reacts_of_asked hagrees rfl hclosed rfl hreact
      | false =>
        let polled :=
          { watcher with lastFrameCount := view.frameCount, lastMediaTime := view.currentTime }
        have hbaseline : (view.frameCount, view.currentTime) =
            SafetyEvent.baseline (.check view :: past) := by
          rw [SafetyEvent.baseline, hunready, hsome, hcallbacks]
          rfl
        have hmark := Prod.ext_iff.1 h.baseline
        cases hbeyond : view.beyond watcher.lastFrameCount watcher.lastMediaTime with
        | true =>
          have hreact : watcher.react (.check view) =
              (polled.noteFrame view).publish ((polled.noteFrame view).isFresh view) := by
            rw [react, RideVideoSafety.check, hguard]
            simp [hshows, hcallbacks, hbeyond, polled]
          have hagrees : Agrees (polled.noteFrame view) (.check view :: past) := by
            refine ⟨h.stream, h.closed, h.generation, h.presented, hbaseline, ?_⟩
            refine h.marked.cons fun at' hlast => .inr ⟨_, past, rfl, ?_⟩
            obtain rfl := Option.some.inj hlast
            refine .counter hcallbacks hready ?_
            rw [← hmark.1, ← hmark.2]
            exact hbeyond
          exact reacts_of_asked hagrees rfl hclosed rfl hreact
        | false =>
          have hreact : watcher.react (.check view) =
              polled.publish (polled.isFresh view) := by
            rw [react, RideVideoSafety.check, hguard]
            simp [hshows, hcallbacks, hbeyond, polled]
          have hagrees : Agrees polled (.check view :: past) := by
            refine ⟨h.stream, h.closed, h.generation, h.presented, hbaseline, ?_⟩
            exact h.marked.cons fun at' hlast => .inl ⟨hlast, hquiet⟩
          exact reacts_of_asked hagrees rfl hclosed rfl hreact

theorem Agrees.frame (h : Agrees watcher past) (generation : Nat) (presentedFrames : Number)
    (view : VideoView σ) : Reacts watcher past (.frame generation presentedFrames view) := by
  have hquiet : ¬ Interrupts past (.frame generation presentedFrames view) := by rintro ⟨⟩
  have hkept : ∀ at', watcher.lastFrameAt = some at' → watcher.lastFrameAt = some at' ∧
      ¬ Interrupts past (.frame generation presentedFrames view) ∨
      ProgressAt at' (.frame generation presentedFrames view :: past) :=
    fun at' hlast => .inl ⟨hlast, hquiet⟩
  cases hguard : watcher.closed || generation ≠ watcher.generation with
  | true =>
    have hreact : watcher.react (.frame generation presentedFrames view) = (none, watcher) := by
      rw [react, RideVideoSafety.frame, if_pos hguard]
    refine ⟨watcher, ⟨h.stream, h.closed, h.generation, ?_, h.baseline, h.marked.cons hkept⟩, rfl,
      .inl hreact⟩
    have hother : (!SafetyEvent.closed past && generation = watches past) = false := by
      rw [← h.closed]
      cases hclosed : watcher.closed with
      | true => rfl
      | false =>
        rw [hclosed, Bool.false_or, decide_eq_true_eq, h.generation hclosed] at hguard
        exact decide_eq_false hguard
    rw [lastPresented, hother]
    exact h.presented
  | false =>
    obtain ⟨hopen, hsame⟩ := Bool.or_eq_false_iff.1 hguard
    have hclosed : SafetyEvent.closed past = false := h.closed ▸ hopen
    obtain rfl : generation = watches past := by
      rw [← h.generation hopen]
      exact not_not.1 (of_decide_eq_false hsame)
    have hpresented : some presentedFrames =
        lastPresented (.frame (watches past) presentedFrames view :: past) := by
      rw [lastPresented, hclosed]
      simp
    have hshows : watcher.ready view = view.shows (watched past) := by rw [ready, h.stream]
    cases hmore : watcher.ready view && watcher.lastPresentedFrames.all (·.lt presentedFrames) with
    | true =>
      obtain ⟨hready, hlarger⟩ := Bool.and_eq_true_iff.1 hmore
      let after := { watcher.noteFrame view with lastPresentedFrames := some presentedFrames }
      have hreact : watcher.react (.frame (watches past) presentedFrames view) =
          after.publish (after.isFresh view) := by
        rw [react, RideVideoSafety.frame, hguard]
        simp only [Bool.false_eq_true, if_false, hmore, if_true, after]
      have hagrees : Agrees after (.frame (watches past) presentedFrames view :: past) := by
        refine ⟨h.stream, h.closed, h.generation, hpresented, h.baseline, ?_⟩
        refine h.marked.cons fun at' hlast => .inr ⟨_, past, rfl, ?_⟩
        obtain rfl := Option.some.inj hlast
        refine .frame (hshows ▸ hready) fun last hlast => ?_
        rw [← h.presented] at hlast
        rw [hlast] at hlarger
        exact hlarger
      exact reacts_of_asked hagrees rfl hclosed rfl hreact
    | false =>
      let after := { watcher with lastPresentedFrames := some presentedFrames }
      have hreact : watcher.react (.frame (watches past) presentedFrames view) =
          after.publish (after.isFresh view) := by
        rw [react, RideVideoSafety.frame, hguard]
        simp only [Bool.false_eq_true, if_false, hmore, after]
      have hagrees : Agrees after (.frame (watches past) presentedFrames view :: past) :=
        ⟨h.stream, h.closed, h.generation, hpresented, h.baseline, h.marked.cons hkept⟩
      exact reacts_of_asked hagrees rfl hclosed rfl hreact

theorem Agrees.close (h : Agrees watcher past) : Reacts watcher past .close := by
  have hclosed : watcher.close.closed = true := by
    unfold RideVideoSafety.close
    split
    · next hclosed => exact hclosed
    · rfl
  have hrest : watcher.close.lastPresentedFrames = watcher.lastPresentedFrames ∧
      watcher.close.lastFrameCount = watcher.lastFrameCount ∧
      watcher.close.lastMediaTime = watcher.lastMediaTime ∧
      watcher.close.lastFrameAt = watcher.lastFrameAt ∧ watcher.close.fresh = watcher.fresh := by
    unfold RideVideoSafety.close
    split <;> exact ⟨rfl, rfl, rfl, rfl, rfl⟩
  have hstream : watcher.close.stream = none := by
    unfold RideVideoSafety.close
    split
    · next hclosed =>
      rw [h.stream]
      exact watched_of_closed (h.closed ▸ hclosed)
    · rfl
  obtain ⟨hpresented, hcount, htime, hframe, hfresh⟩ := hrest
  refine ⟨watcher.close, ⟨hstream, hclosed, fun hopen => ?_, ?_, ?_, ?_⟩, hfresh, .inl rfl⟩
  · rw [hclosed] at hopen
    cases hopen
  · exact hpresented.trans h.presented
  · rw [hcount, htime]
    exact h.baseline
  · rw [hframe]
    refine h.marked.cons fun at' hlast => .inl ⟨hlast, ?_⟩
    rintro ⟨⟩

theorem Agrees.reacts (h : Agrees watcher past) (event : SafetyEvent σ) :
    Reacts watcher past event := by
  cases event with
  | watch stream view => exact h.watch stream view
  | check view => exact h.check view
  | frame generation presentedFrames view => exact h.frame generation presentedFrames view
  | close => exact h.close

/-! ## Reports -/

theorem agrees_after (past : List (SafetyEvent σ)) :
    Agrees (after past) past ∧ (after past).fresh = (reports past).head?.getD false ∧
      Alternates (reports past) := by
  induction past with
  | nil => exact ⟨⟨rfl, rfl, fun _ => rfl, rfl, rfl, .none⟩, rfl, trivial⟩
  | cons event past ih =>
    obtain ⟨hagrees, hfresh, halternates⟩ := ih
    obtain ⟨next, hnext, hsame, hreact⟩ := hagrees.reacts event
    rw [reports, report, after]
    rcases hreact with heq | ⟨-, fresh, heq, -⟩
    · rw [heq]
      exact ⟨hnext, hsame.trans hfresh, halternates⟩
    · rw [heq]
      obtain ⟨halternates, hpublished, hlast⟩ :=
        alternates_publish fresh (hsame.trans hfresh) halternates
      rw [hpublished]
      exact ⟨hnext.withFresh fresh, hlast, halternates⟩

/-- **Main result.** Whatever is watched, shown, presented and called: the reports alternate from
`true` on, a picture is reported as fresh on evidence only, and nothing is reported after the
close. -/
theorem freshness_reported (past : List (SafetyEvent σ)) (event : SafetyEvent σ) :
    Alternates (reports (event :: past)) ∧
    (report past event = some true →
      ∃ view, event.view? = some view ∧ Evidence (event :: past) view) ∧
    (.close ∈ past → report past event = none) := by
  obtain ⟨hagrees, -, -⟩ := agrees_after past
  obtain ⟨next, -, -, hreact⟩ := hagrees.reacts event
  refine ⟨(agrees_after (event :: past)).2.2, fun hreport => ?_, fun hclose => ?_⟩
  · rw [report] at hreport
    rcases hreact with heq | ⟨-, fresh, heq, hevidence⟩
    · rw [heq] at hreport
      cases hreport
    · rw [heq, publish] at hreport
      split at hreport
      · cases hreport
      · exact hevidence (Option.some.inj hreport)
  · rw [report]
    rcases hreact with heq | ⟨hopen, -⟩
    · rw [heq]
    · rw [closed_iff.2 hclose] at hopen
      cases hopen

/-- An element that plays a stream where it can be seen, at a time. -/
def playing (stream : Nat) (nowMs : Int) : VideoView Nat where
  srcObject := some stream
  visible := true
  readyState := 2
  paused := false
  ended := false
  videoWidth := 640
  videoHeight := 360
  currentTime := .ofInt 0
  frameCallbacks := true
  playbackQuality := none
  webkitDecodedFrameCount := none
  notedAt := .ofInt nowMs
  askedAt := .ofInt nowMs

/-- A late callback of the first stream is not noticed; a frame of the second one lasts a second. -/
example : reports [.check (playing 2 1100), .frame 2 (.ofInt 1) (playing 2 100),
    .frame 1 (.ofInt 50) (playing 2 90), .watch 2 (playing 2 80), .watch 1 (playing 1 0)] =
    [false, true] := by
  decide +kernel

end RideVideoSafety

end RcOnline.Web
