import RcOnline.Lib.Number
import RcOnline.Lib.OrdSet

/-!
# Driving with the keyboard

`KeyboardDriveModel` of `apps/web/app/keyboard-drive-model.ts`, which turns the pressed keys of
`keyboard-control.ts` into steering and throttle with three timers. Every result of an operation on
numbers is rounded by a `round` of the host. Over exact numbers the output follows from the calls
alone, and a turn that is held never gets weaker (`driven`).
-/

namespace RcOnline.Web

open RcOnline.Lib

/-! ## Keys -/

inductive DriveKey where
  | w
  | a
  | s
  | d
  | nitro
  deriving DecidableEq

structure KeyboardControlIntent where
  steering : SignType
  throttle : SignType
  nitro : Bool
  deriving DecidableEq

/-- `CODE_TO_KEY`. -/
def codeToKey : List (String × DriveKey) :=
  [("KeyW", .w), ("ArrowUp", .w), ("KeyA", .a), ("ArrowLeft", .a), ("KeyS", .s), ("ArrowDown", .s),
    ("KeyD", .d), ("ArrowRight", .d), ("KeyN", .nitro)]

def controlKeyForCode (code : String) : Option DriveKey :=
  (codeToKey.find? (·.1 = code)).map Prod.snd

/-- The pressed codes after a press or a release. -/
def updatePressedKeys (current : OrdSet String) (code : String) (pressed : Bool) : OrdSet String :=
  if pressed then current.add code else current.delete code

/-- Some pressed code is that of the key. -/
def hasKey (pressed : OrdSet String) (key : DriveKey) : Bool :=
  pressed.elems.any fun code => controlKeyForCode code = some key

def controlIntentFromPressedKeys (pressed : OrdSet String) : KeyboardControlIntent :=
  let left := hasKey pressed .a
  let right := hasKey pressed .d
  let forward := hasKey pressed .w
  let reverse := hasKey pressed .s
  { steering := if left = right then 0 else if left then -1 else 1
    throttle := if forward = reverse then 0 else if forward then 1 else -1
    nitro := forward && !reverse && hasKey pressed .nitro }

/-! ## The model -/

structure KeyboardDriveOutput where
  steering : ℚ
  throttle : ℚ
  nitro : Bool
  deriving DecidableEq

@[ext]
structure KeyboardDriveModel where
  intent : KeyboardControlIntent
  forwardStartedAt : Option ℚ
  reverseStartedAt : Option ℚ
  turnStartedAt : Option ℚ
  turnDurationMs : ℚ
  lastNowMs : ℚ

/-- A call of the model. -/
inductive DriveCall where
  | update (pressed : OrdSet String) (nowMs : Number)
  | sample (nowMs : Number)
  | reset

namespace KeyboardDriveModel

/-- The fields before the first call, and after `reset`. -/
def new : KeyboardDriveModel where
  intent := { steering := 0, throttle := 0, nitro := false }
  forwardStartedAt := none
  reverseStartedAt := none
  turnStartedAt := none
  turnDurationMs := 0
  lastNowMs := 0

/-- The clock after a reading: it does not go back, and a reading that is not finite is ignored. -/
def tick (lastNowMs : ℚ) : Number → ℚ
  | .finite nowMs => max lastNowMs nowMs
  | _ => lastNowMs

def advanceClock (model : KeyboardDriveModel) (nowMs : Number) : KeyboardDriveModel :=
  { model with lastNowMs := tick model.lastNowMs nowMs }

section host

variable (round : ℚ → ℚ)

def turnProgress (model : KeyboardDriveModel) : ℚ :=
  match model.turnStartedAt with
  | some started =>
    if 0 < model.turnDurationMs then
      min 1 (max 0 (round (round (model.lastNowMs - started) / model.turnDurationMs)))
    else 1
  | none => 1

/-- What the model puts out at its own time. -/
def output (model : KeyboardDriveModel) : KeyboardDriveOutput where
  steering :=
    if model.turnProgress round = 0 then 0
    else round (model.intent.steering * model.turnProgress round)
  throttle :=
    if model.reverseStartedAt.any fun since => 500 ≤ round (model.lastNowMs - since) then
      round (-2 / 5)
    else model.intent.throttle
  nitro := model.intent.nitro

def sample (model : KeyboardDriveModel) (nowMs : Number) :
    KeyboardDriveOutput × KeyboardDriveModel :=
  let model := model.advanceClock nowMs
  (model.output round, model)

/-- The time that a turn takes which starts at `nowMs`. -/
def turnDuration (forwardStartedAt : Option ℚ) (nitro : Bool) (nowMs : ℚ) : ℚ :=
  -- Nitro counts at the start of the turn; later changes keep the ramp.
  let fullTurnDurationMs := if nitro then 600 else 450
  match forwardStartedAt with
  | none => 0
  | some started =>
    round (fullTurnDurationMs * min 1 (max 0 (round (round (nowMs - started) / 1000))))

def update (model : KeyboardDriveModel) (pressed : OrdSet String) (nowMs : Number) :
    KeyboardDriveOutput × KeyboardDriveModel :=
  let model := model.advanceClock nowMs
  let next := controlIntentFromPressedKeys pressed
  let forwardStartedAt :=
    if next.throttle ≠ 1 then none
    else if model.intent.throttle ≠ 1 then some model.lastNowMs
    else model.forwardStartedAt
  let reverseStartedAt :=
    if next.throttle ≠ -1 then none
    else if model.intent.throttle ≠ -1 then some model.lastNowMs
    else model.reverseStartedAt
  let turned :=
    if next.steering ≠ model.intent.steering then
      { model with
        turnStartedAt := if next.steering = 0 then none else some model.lastNowMs
        turnDurationMs := turnDuration round forwardStartedAt next.nitro model.lastNowMs }
    -- Once gas is released, the held turn stays full even if gas returns.
    else if next.throttle ≠ 1 then { model with turnDurationMs := 0 }
    else model
  { turned with intent := next, forwardStartedAt, reverseStartedAt }.sample round
    (.finite model.lastNowMs)

/-- What a call returns, and the model after it. -/
def answer (model : KeyboardDriveModel) :
    DriveCall → Option KeyboardDriveOutput × KeyboardDriveModel
  | .update pressed nowMs =>
    (some (model.update round pressed nowMs).1, (model.update round pressed nowMs).2)
  | .sample nowMs => (some (model.sample round nowMs).1, (model.sample round nowMs).2)
  | .reset => (none, new)

/-- The model after some calls, the latest first. -/
def after (calls : List DriveCall) : KeyboardDriveModel :=
  calls.foldr (fun call model => (model.answer round call).2) new

/-- What the latest call has returned. -/
def shown : List DriveCall → Option KeyboardDriveOutput
  | [] => none
  | call :: earlier => ((after round earlier).answer round call).1

theorem after_cons (call : DriveCall) (earlier : List DriveCall) :
    after round (call :: earlier) = ((after round earlier).answer round call).2 := rfl

theorem tick_self (nowMs : ℚ) : tick nowMs (.finite nowMs) = nowMs := max_self nowMs

/-- A call returns what the model then puts out. -/
theorem answer_output {model : KeyboardDriveModel} {call : DriveCall}
    {out : KeyboardDriveOutput} (h : (model.answer round call).1 = some out) :
    out = (model.answer round call).2.output round := by
  cases call with
  | update pressed nowMs => exact (Option.some.inj h).symm
  | sample nowMs => exact (Option.some.inj h).symm
  | reset => cases h

theorem shown_output {calls : List DriveCall} {out : KeyboardDriveOutput}
    (h : shown round calls = some out) : out = (after round calls).output round := by
  cases calls with
  | nil => cases h
  | cons call earlier => exact answer_output round h

end host

end KeyboardDriveModel

/-! ## What the calls say -/

namespace DriveCall

open KeyboardDriveModel

/-- The intent of the keys that are held: those of the last update since a reset. -/
def heldIntent : List DriveCall → KeyboardControlIntent
  | [] => controlIntentFromPressedKeys ∅
  | .update pressed _ :: _ => controlIntentFromPressedKeys pressed
  | .sample _ :: earlier => heldIntent earlier
  | .reset :: _ => controlIntentFromPressedKeys ∅

/-- The time of the model: the latest finite reading since a reset, from zero on. -/
def clock : List DriveCall → ℚ
  | [] => 0
  | .update _ nowMs :: earlier => tick (clock earlier) nowMs
  | .sample nowMs :: earlier => tick (clock earlier) nowMs
  | .reset :: _ => 0

/-- When the reverse intent began that is held. -/
def reverseSince : List DriveCall → Option ℚ
  | [] => none
  | .update pressed nowMs :: earlier =>
    if (controlIntentFromPressedKeys pressed).throttle = -1 then
      if (heldIntent earlier).throttle = -1 then reverseSince earlier
      else some (tick (clock earlier) nowMs)
    else none
  | .sample _ :: earlier => reverseSince earlier
  | .reset :: _ => none

/-- No keys are no intent. -/
theorem throttle_empty : (controlIntentFromPressedKeys ∅).throttle = 0 := by decide

theorem isSome_reverseSince (calls : List DriveCall) :
    (reverseSince calls).isSome = true ↔ (heldIntent calls).throttle = -1 := by
  induction calls with
  | nil => simp [reverseSince, heldIntent, throttle_empty]
  | cons call earlier ih =>
    cases call with
    | update pressed nowMs =>
      rw [reverseSince, heldIntent]
      split
      · next hreverse =>
        split
        · next hheld => simp [ih, hheld, hreverse]
        · simp [hreverse]
      · next hreverse => simp [hreverse]
    | sample nowMs => exact ih
    | reset => simp [reverseSince, heldIntent, throttle_empty]

end DriveCall

namespace KeyboardDriveModel

open DriveCall

section host

variable (round : ℚ → ℚ)

/-- The model agrees with what the calls say, and its timers with its intent. -/
structure Traced (model : KeyboardDriveModel) (calls : List DriveCall) : Prop where
  intent : model.intent = heldIntent calls
  clock : model.lastNowMs = clock calls
  reverse : model.reverseStartedAt = reverseSince calls

section update

variable (model : KeyboardDriveModel) (pressed : OrdSet String) (nowMs : Number)

theorem update_intent : (model.update round pressed nowMs).2.intent =
    controlIntentFromPressedKeys pressed := rfl

theorem update_lastNowMs :
    (model.update round pressed nowMs).2.lastNowMs = tick model.lastNowMs nowMs := by
  unfold update sample advanceClock
  dsimp only
  split
  · exact tick_self _
  · split <;> exact tick_self _

theorem update_forwardStartedAt : (model.update round pressed nowMs).2.forwardStartedAt =
    if (controlIntentFromPressedKeys pressed).throttle = 1 then
      if model.intent.throttle = 1 then model.forwardStartedAt
      else some (tick model.lastNowMs nowMs)
    else none := by
  unfold update sample advanceClock
  simp only [ne_eq, ite_not]

theorem update_reverseStartedAt : (model.update round pressed nowMs).2.reverseStartedAt =
    if (controlIntentFromPressedKeys pressed).throttle = -1 then
      if model.intent.throttle = -1 then model.reverseStartedAt
      else some (tick model.lastNowMs nowMs)
    else none := by
  unfold update sample advanceClock
  simp only [ne_eq, ite_not]

theorem update_turnStartedAt : (model.update round pressed nowMs).2.turnStartedAt =
    if (controlIntentFromPressedKeys pressed).steering = model.intent.steering then
      model.turnStartedAt
    else if (controlIntentFromPressedKeys pressed).steering = 0 then none
    else some (tick model.lastNowMs nowMs) := by
  unfold update sample advanceClock
  simp only [ne_eq, ite_not]
  split
  · split <;> rfl
  · rfl

theorem update_turnDurationMs : (model.update round pressed nowMs).2.turnDurationMs =
    if (controlIntentFromPressedKeys pressed).steering = model.intent.steering then
      if (controlIntentFromPressedKeys pressed).throttle = 1 then model.turnDurationMs else 0
    else turnDuration round (model.update round pressed nowMs).2.forwardStartedAt
      (controlIntentFromPressedKeys pressed).nitro (tick model.lastNowMs nowMs) := by
  rw [update_forwardStartedAt]
  unfold update sample advanceClock
  simp only [ne_eq, ite_not]
  split
  · split <;> rfl
  · rfl

end update

theorem traced_after (calls : List DriveCall) : Traced (after round calls) calls := by
  have hnew : new.intent = controlIntentFromPressedKeys ∅ := by decide
  induction calls with
  | nil => exact ⟨hnew, rfl, rfl⟩
  | cons call earlier ih =>
    rw [after_cons]
    obtain ⟨hintent, hclock, hreverse⟩ := ih
    generalize after round earlier = model at *
    cases call with
    | update pressed nowMs =>
      refine ⟨update_intent round model pressed nowMs, ?_, ?_⟩
      · rw [clock, ← hclock]
        exact update_lastNowMs round model pressed nowMs
      · rw [reverseSince, ← hclock, ← hintent, ← hreverse]
        exact update_reverseStartedAt round model pressed nowMs
    | sample nowMs =>
      refine ⟨hintent, ?_, hreverse⟩
      rw [clock, ← hclock]
      rfl
    | reset => exact ⟨hnew, rfl, rfl⟩

end host

/-! ## Exact numbers -/

section exact

variable {model later : KeyboardDriveModel} {calls : List DriveCall}

theorem turnProgress_mem (round : ℚ → ℚ) (model : KeyboardDriveModel) :
    0 ≤ model.turnProgress round ∧ model.turnProgress round ≤ 1 := by
  unfold turnProgress
  split
  · split
    · exact ⟨le_min zero_le_one (le_max_left _ _), min_le_left _ _⟩
    · exact ⟨zero_le_one, le_rfl⟩
  · exact ⟨zero_le_one, le_rfl⟩

theorem output_steering (model : KeyboardDriveModel) :
    (model.output id).steering = model.intent.steering * model.turnProgress id := by
  unfold output
  dsimp only
  split
  · next hzero => rw [hzero, mul_zero]
  · rfl

theorem abs_signType_le (s : SignType) : |(s : ℚ)| ≤ 1 := by
  cases s <;> simp

theorem le_tick (lastNowMs : ℚ) (nowMs : Number) : lastNowMs ≤ tick lastNowMs nowMs := by
  cases nowMs with
  | finite q => exact le_max_left _ _
  | nan => exact le_rfl
  | posInf => exact le_rfl
  | negInf => exact le_rfl

/-- A turn that goes on, or becomes full, gets no weaker as time passes. -/
theorem turnProgress_le (hstarted : later.turnStartedAt = model.turnStartedAt)
    (hduration : later.turnDurationMs = model.turnDurationMs ∨ later.turnDurationMs = 0)
    (hclock : model.lastNowMs ≤ later.lastNowMs) :
    model.turnProgress id ≤ later.turnProgress id := by
  have hfull := (turnProgress_mem id model).2
  rcases hduration with hsame | hzero
  · unfold turnProgress
    rw [hstarted, hsame]
    cases model.turnStartedAt with
    | none => exact le_rfl
    | some started =>
      dsimp only
      split
      · next hpositive =>
        have hpassed : (model.lastNowMs - started) / model.turnDurationMs ≤
            (later.lastNowMs - started) / model.turnDurationMs :=
          div_le_div_of_nonneg_right (sub_le_sub_right hclock started) hpositive.le
        exact min_le_min_left 1 (max_le_max_left 0 hpassed)
      · exact le_rfl
  · have hdone : later.turnProgress id = 1 := by
      unfold turnProgress
      split
      · rw [hzero, if_neg (lt_irrefl 0)]
      · rfl
    rw [hdone]
    exact hfull

/-- While the steering is held, a call leaves the turn no weaker. -/
theorem turnProgress_answer (model : KeyboardDriveModel) (call : DriveCall)
    (hheld : (model.answer id call).2.intent.steering = model.intent.steering) :
    model.turnProgress id ≤ (model.answer id call).2.turnProgress id := by
  cases call with
  | update pressed nowMs =>
    have hheld : (controlIntentFromPressedKeys pressed).steering = model.intent.steering := hheld
    refine turnProgress_le ?_ ?_ ?_
    · exact (update_turnStartedAt id model pressed nowMs).trans (if_pos hheld)
    · have hduration := update_turnDurationMs id model pressed nowMs
      rw [if_pos hheld] at hduration
      split at hduration
      · exact .inl hduration
      · exact .inr hduration
    · exact (le_tick _ nowMs).trans_eq (update_lastNowMs id model pressed nowMs).symm
  | sample nowMs => exact turnProgress_le rfl (.inl rfl) (le_tick _ nowMs)
  | reset => exact (turnProgress_mem id model).2

/-- While the steering has been held, the turn has got no weaker. -/
theorem turnProgress_after {earlier : List DriveCall} (hsuffix : earlier <:+ calls)
    (hheld : ∀ middle, earlier <:+ middle → middle <:+ calls →
      (heldIntent middle).steering = (heldIntent calls).steering) :
    (after id earlier).turnProgress id ≤ (after id calls).turnProgress id := by
  induction calls with
  | nil =>
    rw [List.suffix_nil.1 hsuffix]
  | cons call before ih =>
    rcases List.suffix_cons_iff.1 hsuffix with rfl | hbefore
    · exact le_rfl
    · have hlast := hheld before hbefore (List.suffix_cons call before)
      have hearlier := ih hbefore fun middle hmiddle hlater =>
        (hheld middle hmiddle (hlater.trans (List.suffix_cons call before))).trans hlast.symm
      refine hearlier.trans ?_
      rw [after_cons]
      apply turnProgress_answer
      rw [← after_cons, (traced_after id _).intent, (traced_after id before).intent, hlast]

/-- What the output owes to the calls. -/
structure Driven (calls : List DriveCall) (out : KeyboardDriveOutput) : Prop where
  steering_le : |out.steering| ≤ 1
  throttle_le : |out.throttle| ≤ 1
  sign : out.steering = 0 ∨ SignType.sign out.steering = (heldIntent calls).steering
  /-- While the steering is held, it gets no weaker. -/
  held : ∀ earlier before, earlier <:+ calls → shown id earlier = some before →
    (∀ middle, earlier <:+ middle → middle <:+ calls →
      (heldIntent middle).steering = (heldIntent calls).steering) →
    |before.steering| ≤ |out.steering|
  throttle : (heldIntent calls).throttle ≠ -1 → out.throttle = (heldIntent calls).throttle
  /-- In reverse, it is full for half a second. -/
  reverse : (heldIntent calls).throttle = -1 → ∃ since, reverseSince calls = some since ∧
    out.throttle = if clock calls - since < 500 then -1 else -2 / 5

theorem output_throttle (calls : List DriveCall) : ((after id calls).output id).throttle =
    if (reverseSince calls).any fun since => 500 ≤ clock calls - since then (-2 / 5 : ℚ)
    else (heldIntent calls).throttle := by
  obtain ⟨hintent, hclock, hreverse⟩ := traced_after id calls
  unfold output
  rw [hintent, hclock, hreverse]
  rfl

/-- **Main result.** Over exact numbers, whatever keys are pressed and whatever the clock says: what
a call returns is what the calls so far make of it. -/
theorem driven (calls : List DriveCall) {out : KeyboardDriveOutput}
    (hshown : shown id calls = some out) : Driven calls out := by
  obtain rfl := shown_output id hshown
  have hintent := (traced_after id calls).intent
  have hprogress := turnProgress_mem id (after id calls)
  have hthrottle := output_throttle calls
  have hsome := isSome_reverseSince calls
  constructor
  case steering_le =>
    rw [output_steering, abs_mul, abs_of_nonneg hprogress.1]
    exact mul_le_one₀ (abs_signType_le _) hprogress.1 hprogress.2
  case throttle_le =>
    rw [hthrottle]
    split
    · norm_num [abs_of_neg]
    · exact abs_signType_le _
  case sign =>
    rw [output_steering, ← hintent]
    rcases hprogress.1.eq_or_lt with hzero | hpositive
    · exact .inl (by rw [← hzero, mul_zero])
    · right
      rw [sign_mul, sign_pos hpositive, mul_one]
      cases (after id calls).intent.steering <;> simp
  case held =>
    intro earlier before hsuffix hbefore hheld
    obtain rfl := shown_output id hbefore
    have hsame := hheld earlier (List.suffix_refl earlier) hsuffix
    have hmono := turnProgress_after hsuffix hheld
    rw [output_steering, output_steering, (traced_after id earlier).intent, hintent, hsame, abs_mul,
      abs_mul, abs_of_nonneg hprogress.1, abs_of_nonneg (turnProgress_mem id _).1]
    exact mul_le_mul_of_nonneg_left hmono (abs_nonneg _)
  case throttle =>
    intro hforward
    cases hreverse : reverseSince calls with
    | none =>
      rw [hthrottle, hreverse]
      rfl
    | some since =>
      rw [hreverse] at hsome
      exact absurd (hsome.1 rfl) hforward
  case reverse =>
    intro hback
    obtain ⟨since, hsince⟩ := Option.isSome_iff_exists.1 (hsome.2 hback)
    refine ⟨since, hsince, ?_⟩
    rw [hthrottle, hsince, hback]
    by_cases hlong : clock calls - since < 500
    · simp [hlong]
    · simp [hlong, not_lt.1 hlong]

/-- The keys of a right turn with gas. -/
def gasRight : OrdSet String := updatePressedKeys (updatePressedKeys ∅ "KeyW" true) "KeyD" true

/-- A second of gas, and half of a turn to the right. -/
theorem halfTurn_driven :
    Driven [.sample (.ofInt 1225), .update gasRight (.ofInt 1000),
      .update (OrdSet.empty.add "KeyW") (.ofInt 0)]
      { steering := 1 / 2, throttle := 1, nitro := false } :=
  driven [.sample (.ofInt 1225), .update gasRight (.ofInt 1000),
    .update (OrdSet.empty.add "KeyW") (.ofInt 0)] (by decide +kernel)

end exact

end KeyboardDriveModel

end RcOnline.Web
