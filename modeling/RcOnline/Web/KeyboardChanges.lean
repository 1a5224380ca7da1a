import RcOnline.Web.KeyboardDrive

/-!
# Changes of the keys that do not matter

Between two calls the timers of the model and its intent belong together (`Settled`), so that an
update with the intent that is held only moves the clock on. Hence, under a clock that does not go
back, such an update can be left out, and while a turn is held Nitro changes neither steering nor
throttle (`changes_ignored`). Both hold for every rounding of the host.
-/

namespace RcOnline.Web

open RcOnline.Lib

namespace DriveCall

def nowMs? : DriveCall → Option Number
  | .update _ nowMs => some nowMs
  | .sample nowMs => some nowMs
  | .reset => none

/-- The calls, the latest first, come at finite times that do not go back. -/
def Chronological (calls : List DriveCall) : Prop :=
  ∃ times : List ℚ, calls.filterMap nowMs? = times.map .finite ∧
    times.Pairwise fun later earlier => earlier ≤ later

/-- The keys that are held: those of the last update since a reset. -/
def heldKeys : List DriveCall → OrdSet String
  | [] => ∅
  | .update pressed _ :: _ => pressed
  | .sample _ :: earlier => heldKeys earlier
  | .reset :: _ => ∅

theorem heldIntent_eq (calls : List DriveCall) :
    heldIntent calls = controlIntentFromPressedKeys (heldKeys calls) := by
  induction calls with
  | nil => rfl
  | cons call earlier ih =>
    cases call with
    | update pressed nowMs => rfl
    | sample nowMs => exact ih
    | reset => rfl

/-- Two sets of keys differ in the Nitro key only. -/
def ExceptNitro (pressed pressed' : OrdSet String) : Prop :=
  ∀ code, controlKeyForCode code ≠ some .nitro → (code ∈ pressed ↔ code ∈ pressed')

/-- Two calls at one time that differ in the Nitro key only. -/
inductive Corresponds : DriveCall → DriveCall → Prop where
  | update {pressed pressed' : OrdSet String} {nowMs : Number}
      (hkeys : ExceptNitro pressed pressed') :
      Corresponds (.update pressed nowMs) (.update pressed' nowMs)
  | sample {nowMs : Number} : Corresponds (.sample nowMs) (.sample nowMs)

theorem ExceptNitro.symm {pressed pressed' : OrdSet String} (h : ExceptNitro pressed pressed') :
    ExceptNitro pressed' pressed := fun code hcode => (h code hcode).symm

theorem Corresponds.symm {call call' : DriveCall} (h : Corresponds call call') :
    Corresponds call' call := by
  cases h with
  | update hkeys => exact .update hkeys.symm
  | sample => exact .sample

/-- Two runs that go on from the same calls, each with changes of the Nitro key of its own. -/
inductive NitroChanges (before : List DriveCall) : List DriveCall → List DriveCall → Prop where
  | refl : NitroChanges before before before
  | both {left right : List DriveCall} {call call' : DriveCall}
      (h : NitroChanges before left right) (hcall : Corresponds call call') :
      NitroChanges before (call :: left) (call' :: right)
  | left {left right : List DriveCall} {pressed : OrdSet String} {nowMs : Number}
      (h : NitroChanges before left right) (hkeys : ExceptNitro (heldKeys left) pressed) :
      NitroChanges before (.update pressed nowMs :: left) right
  | right {left right : List DriveCall} {pressed : OrdSet String} {nowMs : Number}
      (h : NitroChanges before left right) (hkeys : ExceptNitro (heldKeys right) pressed) :
      NitroChanges before left (.update pressed nowMs :: right)

/-- The steering has been held since some calls. -/
def TurnHeld (before calls : List DriveCall) : Prop :=
  ∀ middle, before <:+ middle → middle <:+ calls →
    (heldIntent middle).steering = (heldIntent before).steering

theorem TurnHeld.sample (before : List DriveCall) (nowMs : Number) :
    TurnHeld before (.sample nowMs :: before) := by
  intro middle hmiddle hcalls
  rcases List.suffix_cons_iff.1 hcalls with rfl | hbefore
  · rfl
  · rw [hbefore.eq_of_length_le hmiddle.length_le]

theorem TurnHeld.of_cons {before calls : List DriveCall} {call : DriveCall}
    (h : TurnHeld before (call :: calls)) : TurnHeld before calls :=
  fun middle hmiddle hcalls => h middle hmiddle (hcalls.trans (List.suffix_cons call calls))

theorem NitroChanges.suffix {before left right : List DriveCall}
    (h : NitroChanges before left right) : before <:+ left ∧ before <:+ right := by
  induction h with
  | refl => exact ⟨List.suffix_refl _, List.suffix_refl _⟩
  | both _ _ ih => exact ⟨ih.1.trans (List.suffix_cons _ _), ih.2.trans (List.suffix_cons _ _)⟩
  | left _ _ ih => exact ⟨ih.1.trans (List.suffix_cons _ _), ih.2⟩
  | right _ _ ih => exact ⟨ih.1, ih.2.trans (List.suffix_cons _ _)⟩

/-! ## Keys -/

theorem hasKey_congr {pressed pressed' : OrdSet String} {key : DriveKey}
    (h : ∀ code, controlKeyForCode code = some key → (code ∈ pressed ↔ code ∈ pressed')) :
    hasKey pressed key = hasKey pressed' key := by
  rw [Bool.eq_iff_iff, hasKey, hasKey, List.any_eq_true, List.any_eq_true]
  constructor
  · rintro ⟨code, hmem, hmatch⟩
    exact ⟨code, (h code (of_decide_eq_true hmatch)).1 hmem, hmatch⟩
  · rintro ⟨code, hmem, hmatch⟩
    exact ⟨code, (h code (of_decide_eq_true hmatch)).2 hmem, hmatch⟩

/-- The Nitro key changes neither the steering nor the throttle that is meant. -/
theorem intent_congr {pressed pressed' : OrdSet String} (h : ExceptNitro pressed pressed') :
    (controlIntentFromPressedKeys pressed).steering =
        (controlIntentFromPressedKeys pressed').steering ∧
      (controlIntentFromPressedKeys pressed).throttle =
        (controlIntentFromPressedKeys pressed').throttle := by
  have hkey : ∀ key, key ≠ .nitro → hasKey pressed key = hasKey pressed' key := by
    intro key hkey
    refine hasKey_congr fun code hcode => h code fun hnitro => hkey ?_
    rw [hcode] at hnitro
    exact Option.some.inj hnitro
  have ha := hkey .a (by decide)
  have hd := hkey .d (by decide)
  have hw := hkey .w (by decide)
  have hs := hkey .s (by decide)
  simp only [controlIntentFromPressedKeys, ha, hd, hw, hs, and_self]

/-- A press or a release of the Nitro key. -/
theorem exceptNitro_updatePressedKeys (current : OrdSet String) {code : String}
    (hcode : controlKeyForCode code = some .nitro) (pressed : Bool) :
    ExceptNitro current (updatePressedKeys current code pressed) := by
  intro other hother
  have hne : other ≠ code := fun heq => hother (heq ▸ hcode)
  cases pressed with
  | true => simp [updatePressedKeys, hne]
  | false => simp [updatePressedKeys, hne]

/-- A key that is not one of the controls is not noticed. -/
theorem intent_updatePressedKeys (current : OrdSet String) {code : String}
    (hcode : controlKeyForCode code = none) (pressed : Bool) :
    controlIntentFromPressedKeys (updatePressedKeys current code pressed) =
      controlIntentFromPressedKeys current := by
  have hkey : ∀ key, hasKey (updatePressedKeys current code pressed) key = hasKey current key := by
    intro key
    refine hasKey_congr fun other hother => ?_
    have hne : other ≠ code := by
      rintro rfl
      rw [hcode] at hother
      cases hother
    cases pressed with
    | true => simp [updatePressedKeys, hne]
    | false => simp [updatePressedKeys, hne]
  simp only [controlIntentFromPressedKeys, hkey]

/-! ## The clock -/

/-- A call at a time comes at a finite one, not before any earlier call. -/
theorem Chronological.latest {call : DriveCall} {calls : List DriveCall} {nowMs : Number}
    (h : Chronological (call :: calls)) (hnow : call.nowMs? = some nowMs) :
    ∃ q, nowMs = .finite q ∧ Chronological calls ∧
      ∀ p, .finite p ∈ calls.filterMap nowMs? → p ≤ q := by
  obtain ⟨times, htimes, hordered⟩ := h
  rw [List.filterMap_cons_some hnow] at htimes
  cases times with
  | nil => cases htimes
  | cons q times =>
    obtain ⟨rfl, hearlier⟩ := List.cons.inj htimes
    obtain ⟨hle, hordered⟩ := List.pairwise_cons.1 hordered
    refine ⟨q, rfl, ⟨times, hearlier, hordered⟩, fun p hp => ?_⟩
    rw [hearlier] at hp
    obtain ⟨p', hp', heq⟩ := List.mem_map.1 hp
    cases heq
    exact hle p hp'

theorem Chronological.of_cons {call : DriveCall} {calls : List DriveCall}
    (h : Chronological (call :: calls)) : Chronological calls := by
  cases hnow : call.nowMs? with
  | none =>
    obtain ⟨times, htimes, hordered⟩ := h
    rw [List.filterMap_cons_none hnow] at htimes
    exact ⟨times, htimes, hordered⟩
  | some nowMs =>
    obtain ⟨-, -, hearlier, -⟩ := h.latest hnow
    exact hearlier

theorem clock_nonneg (calls : List DriveCall) : 0 ≤ clock calls := by
  induction calls with
  | nil => exact le_rfl
  | cons call earlier ih =>
    cases call with
    | update pressed nowMs => exact ih.trans (KeyboardDriveModel.le_tick _ nowMs)
    | sample nowMs => exact ih.trans (KeyboardDriveModel.le_tick _ nowMs)
    | reset => exact le_rfl

theorem clock_le {calls : List DriveCall} {q : ℚ}
    (h : ∀ p, .finite p ∈ calls.filterMap nowMs? → p ≤ q) : clock calls ≤ max 0 q := by
  have htick : ∀ {last : ℚ} {nowMs : Number}, last ≤ max 0 q → (∀ p, nowMs = .finite p → p ≤ q) →
      KeyboardDriveModel.tick last nowMs ≤ max 0 q := by
    intro last nowMs hlast hnow
    cases nowMs with
    | finite p => exact max_le hlast ((hnow p rfl).trans (le_max_right 0 q))
    | nan => exact hlast
    | posInf => exact hlast
    | negInf => exact hlast
  induction calls with
  | nil => exact le_max_left 0 q
  | cons call earlier ih =>
    cases call with
    | update pressed nowMs =>
      refine htick (ih fun p hp => h p (List.mem_cons_of_mem _ hp)) fun p hp => h p ?_
      subst hp
      exact List.mem_cons_self
    | sample nowMs =>
      refine htick (ih fun p hp => h p (List.mem_cons_of_mem _ hp)) fun p hp => h p ?_
      subst hp
      exact List.mem_cons_self
    | reset => exact le_max_left 0 q

/-- Under a clock that does not go back, the model's time is that of the call. -/
theorem Chronological.tick_eq {call : DriveCall} {calls : List DriveCall} {nowMs : Number}
    (h : Chronological (call :: calls)) (hnow : call.nowMs? = some nowMs) :
    ∃ q, nowMs = .finite q ∧ KeyboardDriveModel.tick (clock calls) nowMs = max 0 q := by
  obtain ⟨q, rfl, -, hlatest⟩ := h.latest hnow
  refine ⟨q, rfl, le_antisymm ?_ ?_⟩
  · exact max_le (clock_le hlatest) (le_max_right 0 q)
  · exact max_le_max (clock_nonneg calls) le_rfl

end DriveCall

namespace KeyboardDriveModel

open DriveCall

/-- The timers of a model belong to its intent. -/
structure Settled (model : KeyboardDriveModel) : Prop where
  forward : model.intent.throttle ≠ 1 → model.forwardStartedAt = none
  reverse : model.intent.throttle ≠ -1 → model.reverseStartedAt = none
  /-- Without gas, a turn is full. -/
  full : model.intent.throttle ≠ 1 → model.turnDurationMs = 0

variable {round : ℚ → ℚ} {model : KeyboardDriveModel}

theorem Settled.answer (h : Settled model) (call : DriveCall) :
    Settled (model.answer round call).2 := by
  cases call with
  | update pressed nowMs =>
    have hforward := update_forwardStartedAt round model pressed nowMs
    constructor
    case forward =>
      intro hnot
      exact hforward.trans (if_neg hnot)
    case reverse =>
      intro hnot
      exact (update_reverseStartedAt round model pressed nowMs).trans (if_neg hnot)
    case full =>
      intro hnot
      have hnot : (controlIntentFromPressedKeys pressed).throttle ≠ 1 := hnot
      refine (update_turnDurationMs round model pressed nowMs).trans ?_
      rw [hforward, if_neg hnot, if_neg hnot]
      split <;> rfl
  | sample nowMs => exact ⟨h.forward, h.reverse, h.full⟩
  | reset => exact ⟨fun _ => rfl, fun _ => rfl, fun _ => rfl⟩

theorem settled_after (calls : List DriveCall) : Settled (after round calls) := by
  induction calls with
  | nil => exact ⟨fun _ => rfl, fun _ => rfl, fun _ => rfl⟩
  | cons call earlier ih => exact ih.answer call

/-- An update with the same steering and throttle moves the clock on, and sets Nitro. -/
theorem Settled.update_eq (h : Settled model) {pressed : OrdSet String} (nowMs : Number)
    (hsteering : (controlIntentFromPressedKeys pressed).steering = model.intent.steering)
    (hthrottle : (controlIntentFromPressedKeys pressed).throttle = model.intent.throttle) :
    (model.update round pressed nowMs).2 = { model with
      intent := controlIntentFromPressedKeys pressed
      lastNowMs := tick model.lastNowMs nowMs } := by
  apply KeyboardDriveModel.ext
  case intent => rfl
  case forwardStartedAt =>
    rw [update_forwardStartedAt, hthrottle]
    split
    · rfl
    · next hnot => exact (h.forward hnot).symm
  case reverseStartedAt =>
    rw [update_reverseStartedAt, hthrottle]
    split
    · rfl
    · next hnot => exact (h.reverse hnot).symm
  case turnStartedAt => rw [update_turnStartedAt, if_pos hsteering]
  case turnDurationMs =>
    rw [update_turnDurationMs, if_pos hsteering, hthrottle]
    split
    · rfl
    · next hnot => exact (h.full hnot).symm
  case lastNowMs => exact update_lastNowMs round model pressed nowMs

/-! ## Updates that are left out -/

/-- A call does not depend on the clock before it where that comes to the same. -/
theorem answer_clock {call : DriveCall} {lastNowMs : ℚ}
    (h : ∀ nowMs, call.nowMs? = some nowMs → tick lastNowMs nowMs = tick model.lastNowMs nowMs) :
    { model with lastNowMs := lastNowMs }.answer round call = model.answer round call := by
  cases call with
  | update pressed nowMs =>
    have hclock : { model with lastNowMs := lastNowMs }.advanceClock nowMs =
        model.advanceClock nowMs := by
      rw [advanceClock, advanceClock, h nowMs rfl]
    simp only [answer, update, hclock]
  | sample nowMs =>
    have hclock : { model with lastNowMs := lastNowMs }.advanceClock nowMs =
        model.advanceClock nowMs := by
      rw [advanceClock, advanceClock, h nowMs rfl]
    simp only [answer, sample, hclock]
  | reset => rfl

/-- An update with the intent that is held changes nothing once a later call has come. -/
theorem answer_redundant {earlier later : List DriveCall} {pressed : OrdSet String}
    {nowMs : Number} {call : DriveCall}
    (hclock : Chronological (call :: (later ++ .update pressed nowMs :: earlier)))
    (hsame : controlIntentFromPressedKeys pressed = heldIntent earlier) :
    (after round (later ++ .update pressed nowMs :: earlier)).answer round call =
      (after round (later ++ earlier)).answer round call := by
  induction later generalizing call with
  | nil =>
    have hintent := (traced_after round earlier).intent
    have hupdate : (update round (after round earlier) pressed nowMs).2 =
        { after round earlier with
          intent := controlIntentFromPressedKeys pressed
          lastNowMs := tick (after round earlier).lastNowMs nowMs } :=
      (settled_after earlier).update_eq nowMs (by rw [hsame, hintent]) (by rw [hsame, hintent])
    rw [hsame, ← hintent] at hupdate
    rw [List.nil_append, List.nil_append, after_cons]
    change KeyboardDriveModel.answer round (update round _ pressed nowMs).2 call = _
    rw [hupdate]
    refine answer_clock fun later hlater => ?_
    obtain ⟨q, rfl, -, hlatest⟩ := hclock.latest hlater
    have hearlier : (DriveCall.update pressed nowMs).nowMs? = some nowMs := rfl
    obtain ⟨p, rfl, -, -⟩ := hclock.of_cons.latest hearlier
    have hle := hlatest p List.mem_cons_self
    simp only [tick, max_assoc, max_eq_right hle]
  | cons next later ih =>
    rw [List.cons_append, List.cons_append, after_cons, after_cons, ih hclock.of_cons]

/-! ## Nitro -/

/-- Two models that agree in all but Nitro and the clock. -/
structure Alike (a b : KeyboardDriveModel) : Prop where
  steering : a.intent.steering = b.intent.steering
  throttle : a.intent.throttle = b.intent.throttle
  forward : a.forwardStartedAt = b.forwardStartedAt
  reverse : a.reverseStartedAt = b.reverseStartedAt
  started : a.turnStartedAt = b.turnStartedAt
  duration : a.turnDurationMs = b.turnDurationMs

variable {a b : KeyboardDriveModel}

theorem Alike.refl (a : KeyboardDriveModel) : Alike a a := ⟨rfl, rfl, rfl, rfl, rfl, rfl⟩

theorem Alike.symm (h : Alike a b) : Alike b a :=
  ⟨h.steering.symm, h.throttle.symm, h.forward.symm, h.reverse.symm, h.started.symm,
    h.duration.symm⟩

/-- At one time, two such models put out the same steering and throttle. -/
theorem Alike.output (h : Alike a b) (hclock : a.lastNowMs = b.lastNowMs) :
    (a.output round).steering = (b.output round).steering ∧
      (a.output round).throttle = (b.output round).throttle := by
  have hprogress : a.turnProgress round = b.turnProgress round := by
    unfold turnProgress
    rw [h.started, h.duration, hclock]
  unfold KeyboardDriveModel.output
  dsimp only
  rw [hprogress, h.steering, h.throttle, h.reverse, hclock]
  exact ⟨rfl, rfl⟩

/-- An update that changes only Nitro leaves a model alike. -/
theorem Alike.update (h : Alike a b) (hsettled : Settled a) {pressed : OrdSet String}
    (nowMs : Number)
    (hsteering : (controlIntentFromPressedKeys pressed).steering = a.intent.steering)
    (hthrottle : (controlIntentFromPressedKeys pressed).throttle = a.intent.throttle) :
    Alike (a.update round pressed nowMs).2 b := by
  rw [hsettled.update_eq nowMs hsteering hthrottle]
  exact ⟨hsteering.trans h.steering, hthrottle.trans h.throttle, h.forward, h.reverse, h.started,
    h.duration⟩

/-- Two calls at one time that differ in Nitro leave two models alike, while the turn is held. -/
theorem Alike.both (h : Alike a b) {call call' : DriveCall} (hcall : Corresponds call call')
    (hclock : ∀ nowMs, call.nowMs? = some nowMs → tick a.lastNowMs nowMs = tick b.lastNowMs nowMs)
    (hheld : (a.answer round call).2.intent.steering = a.intent.steering) :
    Alike (a.answer round call).2 (b.answer round call').2 ∧
      (a.answer round call).2.lastNowMs = (b.answer round call').2.lastNowMs := by
  cases hcall with
  | @update pressed pressed' nowMs hkeys =>
    obtain ⟨hsteering, hthrottle⟩ := intent_congr hkeys
    have hnow := hclock nowMs rfl
    have hheld : (controlIntentFromPressedKeys pressed).steering = a.intent.steering := hheld
    have hheld' : (controlIntentFromPressedKeys pressed').steering = b.intent.steering := by
      rw [← hsteering, hheld, h.steering]
    change Alike (a.update round pressed nowMs).2 (b.update round pressed' nowMs).2 ∧
      (a.update round pressed nowMs).2.lastNowMs = (b.update round pressed' nowMs).2.lastNowMs
    refine ⟨⟨hsteering, hthrottle, ?_, ?_, ?_, ?_⟩, ?_⟩
    · rw [update_forwardStartedAt, update_forwardStartedAt, hthrottle, h.throttle, h.forward, hnow]
    · rw [update_reverseStartedAt, update_reverseStartedAt, hthrottle, h.throttle, h.reverse, hnow]
    · rw [update_turnStartedAt, update_turnStartedAt, if_pos hheld, if_pos hheld', h.started]
    · rw [update_turnDurationMs, update_turnDurationMs, if_pos hheld, if_pos hheld', hthrottle,
        h.duration]
    · rw [update_lastNowMs, update_lastNowMs, hnow]
  | @sample nowMs =>
    exact ⟨⟨h.steering, h.throttle, h.forward, h.reverse, h.started, h.duration⟩,
      hclock nowMs rfl⟩

/-- The times of two corresponding calls, under clocks that do not go back. -/
theorem tick_corresponds {left right : List DriveCall} {call call' : DriveCall}
    (hcall : Corresponds call call') (hleft : Chronological (call :: left))
    (hright : Chronological (call' :: right)) (nowMs : Number) (hnow : call.nowMs? = some nowMs) :
    tick (after round left).lastNowMs nowMs = tick (after round right).lastNowMs nowMs := by
  have hnow' : call'.nowMs? = some nowMs := by
    cases hcall with
    | update hkeys => exact hnow
    | sample => exact hnow
  rw [(traced_after round left).clock, (traced_after round right).clock]
  obtain ⟨q, rfl, hclock⟩ := hleft.tick_eq hnow
  obtain ⟨q', heq, hclock'⟩ := hright.tick_eq hnow'
  cases heq
  rw [hclock, hclock']

/-- While the turn is held, two runs that differ in Nitro are alike. -/
theorem alike_after (round : ℚ → ℚ) {before left right : List DriveCall}
    (h : NitroChanges before left right) (hleft : Chronological left)
    (hright : Chronological right) (hheld : TurnHeld before left) :
    Alike (after round left) (after round right) := by
  have hsame : ∀ {calls : List DriveCall} {pressed : OrdSet String},
      ExceptNitro (heldKeys calls) pressed →
      (controlIntentFromPressedKeys pressed).steering = (after round calls).intent.steering ∧
        (controlIntentFromPressedKeys pressed).throttle = (after round calls).intent.throttle := by
    intro calls pressed hkeys
    obtain ⟨hsteering, hthrottle⟩ := intent_congr hkeys
    rw [← heldIntent_eq, ← (traced_after round calls).intent] at hsteering hthrottle
    exact ⟨hsteering.symm, hthrottle.symm⟩
  induction h with
  | refl => exact .refl _
  | @both left right call call' h hcall ih =>
    have hbefore := hheld left h.suffix.1 (List.suffix_cons call left)
    have hcalls := hheld (call :: left) (h.suffix.1.trans (List.suffix_cons call left))
      (List.suffix_refl _)
    refine ((ih hleft.of_cons hright.of_cons hheld.of_cons).both hcall
      (tick_corresponds hcall hleft hright) ?_).1
    rw [← after_cons, (traced_after round _).intent, (traced_after round left).intent, hbefore,
      hcalls]
  | left h hkeys ih =>
    obtain ⟨hsteering, hthrottle⟩ := hsame hkeys
    exact (ih hleft.of_cons hright hheld.of_cons).update (settled_after _) _ hsteering hthrottle
  | right h hkeys ih =>
    obtain ⟨hsteering, hthrottle⟩ := hsame hkeys
    have hsymm := (ih hleft hright.of_cons hheld).symm
    exact (hsymm.update (settled_after _) _ hsteering hthrottle).symm

/-- The steering and the throttle that a call has returned. -/
def driving (round : ℚ → ℚ) (calls : List DriveCall) : Option (ℚ × ℚ) :=
  (shown round calls).map fun out => (out.steering, out.throttle)

theorem driving_corresponds {calls : List DriveCall} {call call' : DriveCall}
    (hcall : Corresponds call call') :
    driving round (call :: calls) = some (((after round (call :: calls)).output round).steering,
      ((after round (call :: calls)).output round).throttle) := by
  cases hcall with
  | update hkeys => rfl
  | sample => rfl

/-- **Main result.** Whatever the host rounds, under a clock that does not go back: an update with
the intent that is held can be left out, and while a turn is held changes of Nitro leave the
steering and the throttle. -/
theorem changes_ignored (round : ℚ → ℚ) :
    (∀ (earlier later : List DriveCall) (pressed : OrdSet String) (nowMs : Number)
      (call : DriveCall), Chronological (call :: (later ++ .update pressed nowMs :: earlier)) →
      controlIntentFromPressedKeys pressed = heldIntent earlier →
      shown round (call :: (later ++ earlier)) =
        shown round (call :: (later ++ .update pressed nowMs :: earlier))) ∧
    ∀ (before left right : List DriveCall) (call call' : DriveCall),
      NitroChanges before left right → Corresponds call call' →
      Chronological (call :: left) → Chronological (call' :: right) →
      TurnHeld before (call :: left) →
      driving round (call :: left) = driving round (call' :: right) := by
  refine ⟨fun earlier later pressed nowMs call hclock hsame => ?_, ?_⟩
  · rw [shown, shown, answer_redundant hclock hsame]
  · intro before left right call call' h hcall hleft hright hheld
    have halike := alike_after round h hleft.of_cons hright.of_cons hheld.of_cons
    have hbefore := hheld left h.suffix.1 (List.suffix_cons call left)
    have hcalls := hheld (call :: left) (h.suffix.1.trans (List.suffix_cons call left))
      (List.suffix_refl _)
    obtain ⟨halike, hclock⟩ := halike.both hcall (tick_corresponds hcall hleft hright) (by
      rw [← after_cons, (traced_after round _).intent, (traced_after round left).intent, hbefore,
        hcalls])
    obtain ⟨hsteering, hthrottle⟩ := halike.output hclock
    rw [driving_corresponds hcall, driving_corresponds hcall.symm]
    exact congrArg some (Prod.ext hsteering hthrottle)

/-- A key that is no control is not noticed, and neither is Nitro in the middle of a turn. -/
theorem nitro_ignored :
    let gas := OrdSet.empty.add "KeyW"
    let turn := [.update gasRight (.ofInt 1000), .update gas (.ofInt 0)]
    shown id [.sample (.ofInt 9), .update gas (.ofInt 0)] =
      shown id [.sample (.ofInt 9), .update (updatePressedKeys gas "Space" true) (.ofInt 5),
        .update gas (.ofInt 0)] ∧
    driving id (.sample (.ofInt 1225) :: turn) =
      driving id (.sample (.ofInt 1225) ::
        .update (updatePressedKeys gasRight "KeyN" true) (.ofInt 1100) :: turn) :=
  ⟨(changes_ignored id).1 [.update (OrdSet.empty.add "KeyW") (.ofInt 0)] [] _ _ _
      ⟨[9, 5, 0], rfl, by decide +kernel⟩ (intent_updatePressedKeys _ rfl true),
    (changes_ignored id).2 _ _ _ _ _ (.right .refl (exceptNitro_updatePressedKeys _ rfl true))
      .sample ⟨[1225, 1000, 0], rfl, by decide +kernel⟩
      ⟨[1225, 1100, 1000, 0], rfl, by decide +kernel⟩ (.sample _ _)⟩

end KeyboardDriveModel

end RcOnline.Web
