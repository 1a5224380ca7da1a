import RcOnline.Web.ControlMoves

/-!
# The control loop never drives unarmed

Frames of a loop that is not armed are zero; a loop that has disarmed has forgotten its input, so
its later frames are zero too until it is given input again; and sequence numbers increase.
-/

namespace RcOnline.Web

open RcOnline.Lib

/-- What the callback was last told. -/
def armedAt (effects : List Effect) : Bool :=
  effects.foldl (fun armed effect =>
    match effect with
    | .armedChange armed => armed
    | _ => armed) false

/-- Since the last change to not armed there was no input. -/
def released (effects : List Effect) : Bool :=
  effects.foldl (fun released effect =>
    match effect with
    | .armedChange armed => !armed || released
    | .input => false
    | _ => released) false

/-- The sequence number of a frame. -/
def Effect.sequence? : Effect → Option Nat
  | .intent _ command _ => some command.sequence
  | _ => none

/-- No axis and no nitro. -/
structure DriveCommand.Still (command : DriveCommand) : Prop where
  steering : command.steering = .ofInt 0
  throttle : command.throttle = .ofInt 0
  nitro : command.nitro = false

structure BrowserControlLoop.Cleared (loop : BrowserControlLoop) : Prop where
  inputProvider : loop.inputProvider = false
  steering : loop.steering = .ofInt 0
  throttle : loop.throttle = .ofInt 0
  nitro : loop.nitro = false

theorem BrowserControlLoop.cleared_clear (loop : BrowserControlLoop) : loop.clear.Cleared :=
  ⟨rfl, rfl, rfl, rfl⟩

theorem encodeAxis_zero (proportional : Bool) : encodeAxis (.ofInt 0) proportional = .ofInt 0 := by
  cases proportional with
  | false => rfl
  | true =>
    have hnormal : normalizedAxis (.ofInt 0) = .ofInt 0 := by decide
    have hmul : (Number.ofInt 0).mul (.ofInt 1000) = .ofInt 0 := Number.mul_ofInt (by decide)
    have hfloor : ⌊((0 : Int) : ℚ) + 1 / 2⌋ = 0 := by norm_num
    rw [encodeAxis, if_pos rfl, hnormal, hmul]
    exact congrArg Number.ofInt hfloor

/-- The frame of a loop that is not armed, or holds nothing. -/
theorem BrowserControlLoop.still_command {loop : BrowserControlLoop}
    (h : loop.armed = true → loop.Cleared) : loop.command.Still := by
  cases harmed : loop.armed with
  | false =>
    refine ⟨?_, ?_, ?_⟩
    · exact if_neg (by rw [harmed]; decide)
    · exact if_neg (by rw [harmed]; decide)
    · exact congrArg (· && loop.nitro) harmed
  | true =>
    have hcleared := h harmed
    refine ⟨?_, ?_, ?_⟩
    · exact (if_pos harmed).trans (hcleared.steering ▸ encodeAxis_zero _)
    · exact (if_pos harmed).trans (hcleared.throttle ▸ encodeAxis_zero _)
    · exact (congrArg (loop.armed && ·) hcleared.nitro).trans (Bool.and_false _)

/-- What holds of a loop and its effects. -/
structure Safe (trace : Trace) : Prop where
  armed : armedAt trace.2 = trace.1.armed
  released : released trace.2 = true → trace.1.Cleared
  unarmed : Each (fun before effect => ∀ channel command sent,
    effect = .intent channel command sent → armedAt before = false →
      command.Still ∧ command.armed = false) trace.2
  still : Each (fun before effect => ∀ channel command sent,
    effect = .intent channel command sent → Web.released before = true → command.Still) trace.2
  sequences : (trace.2.filterMap Effect.sequence?).Pairwise (· < ·)
  bounded : ∀ n ∈ trace.2.filterMap Effect.sequence?, n ≤ trace.1.sequence

section moves

variable {loop loop' : BrowserControlLoop} {effects : List Effect} {effect : Effect}

theorem armedAt_snoc (effects : List Effect) (effect : Effect) :
    armedAt (effects ++ [effect]) =
      match effect with
      | .armedChange armed => armed
      | _ => armedAt effects := by
  rw [armedAt, List.foldl_append]
  cases effect <;> rfl

theorem released_snoc (effects : List Effect) (effect : Effect) :
    released (effects ++ [effect]) =
      match effect with
      | .armedChange armed => !armed || released effects
      | .input => false
      | _ => released effects := by
  rw [released, List.foldl_append]
  cases effect <;> rfl

theorem sequences_snoc (effects : List Effect) (effect : Effect) :
    (effects ++ [effect]).filterMap Effect.sequence? =
      effects.filterMap Effect.sequence? ++ effect.sequence?.toList := by
  rw [List.filterMap_append]
  cases effect <;> rfl

/-- A change of the loop alone. -/
theorem Safe.change (h : Safe (loop, effects)) (harmed : loop'.armed = loop.armed)
    (hcleared : loop.Cleared → loop'.Cleared) (hsequence : loop.sequence ≤ loop'.sequence) :
    Safe (loop', effects) where
  armed := h.armed.trans harmed.symm
  released := fun hreleased => hcleared (h.released hreleased)
  unarmed := h.unarmed
  still := h.still
  sequences := h.sequences
  bounded := fun n hmem => (h.bounded n hmem).trans hsequence

/-- An effect that is no frame. -/
theorem Safe.shows (h : Safe (loop, effects)) (hother : effect.sequence? = none)
    (harmed : armedAt (effects ++ [effect]) = loop'.armed)
    (hcleared : Web.released (effects ++ [effect]) = true → loop'.Cleared)
    (hsequence : loop'.sequence = loop.sequence) : Safe (loop', effects ++ [effect]) := by
  have hsequences : (effects ++ [effect]).filterMap Effect.sequence? =
      effects.filterMap Effect.sequence? := by
    rw [sequences_snoc, hother]
    exact List.append_nil _
  refine ⟨harmed, hcleared, h.unarmed.snoc ?_, h.still.snoc ?_, ?_, ?_⟩
  · rintro channel command sent rfl
    cases hother
  · rintro channel command sent rfl
    cases hother
  · dsimp only
    rw [hsequences]
    exact h.sequences
  · dsimp only
    rw [hsequences, hsequence]
    exact h.bounded

/-- The frame of the next sequence number. -/
theorem Safe.frame (h : Safe (loop, effects)) (channel : Option ChannelId) (sent : Bool) :
    Safe (loop.next, effects ++ [.intent channel loop.next.command sent]) := by
  have hstill : Web.released effects = true → loop.next.command.Still := fun hreleased => by
    have hcleared := h.released hreleased
    exact BrowserControlLoop.still_command fun _ =>
      ⟨hcleared.inputProvider, hcleared.steering, hcleared.throttle, hcleared.nitro⟩
  have hunarmed : armedAt effects = false →
      loop.next.command.Still ∧ loop.next.command.armed = false := fun hidle => by
    have harmed : loop.next.armed = false := h.armed.symm.trans hidle
    refine ⟨BrowserControlLoop.still_command fun harmed' => ?_, harmed⟩
    rw [harmed] at harmed'
    cases harmed'
  refine ⟨?_, ?_, h.unarmed.snoc ?_, h.still.snoc ?_, ?_, ?_⟩
  · exact (armedAt_snoc ..).trans h.armed
  · intro hreleased
    have hcleared := h.released ((released_snoc ..).symm.trans hreleased)
    exact ⟨hcleared.inputProvider, hcleared.steering, hcleared.throttle, hcleared.nitro⟩
  · rintro _ _ _ heq hidle
    cases heq
    exact hunarmed hidle
  · rintro _ _ _ heq hreleased
    cases heq
    exact hstill hreleased
  · dsimp only
    rw [sequences_snoc]
    refine List.pairwise_append.2 ⟨h.sequences, List.pairwise_singleton .., fun n hmem m hm => ?_⟩
    obtain rfl := List.mem_singleton.1 hm
    exact Nat.lt_succ_of_le (h.bounded n hmem)
  · intro n hmem
    dsimp only at hmem
    rw [sequences_snoc] at hmem
    rcases List.mem_append.1 hmem with hmem | hmem
    · exact (h.bounded n hmem).trans (Nat.le_succ _)
    · obtain rfl := List.mem_singleton.1 hmem
      exact le_refl _

end moves

theorem Safe.moves {s t : Trace} (h : Safe s) (hmove : Moves s t) : Safe t := by
  cases hmove with
  | tuned =>
    exact h.change rfl
      (fun hcleared => ⟨hcleared.1, hcleared.2, hcleared.3, hcleared.4⟩) (le_refl _)
  | given input =>
    exact h.shows rfl ((armedAt_snoc ..).trans h.armed)
      (fun hreleased =>
        absurd ((released_snoc ..).symm.trans hreleased) Bool.false_ne_true) rfl
  | provided present =>
    exact h.shows rfl ((armedAt_snoc ..).trans h.armed)
      (fun hreleased =>
        absurd ((released_snoc ..).symm.trans hreleased) Bool.false_ne_true) rfl
  | sampled input harmed hprovider =>
    refine h.change rfl (fun hcleared => ?_) (le_refl _)
    rw [hcleared.inputProvider] at hprovider
    cases hprovider
  | cleared => exact h.change rfl (fun _ => BrowserControlLoop.cleared_clear _) (le_refl _)
  | disarmed =>
    exact h.shows rfl (armedAt_snoc ..) (fun _ => ⟨rfl, rfl, rfl, rfl⟩) rfl
  | armed =>
    next loop effects _ reliable _ _ _ =>
    have hmessage : Safe (loop, effects ++ [.message reliable (.arm loop.sessionId) true]) :=
      h.shows rfl ((armedAt_snoc ..).trans h.armed)
        (fun hreleased => h.released ((released_snoc ..).symm.trans hreleased)) rfl
    have harmed : Safe ({ loop with armed := true },
        (effects ++ [.message reliable (.arm loop.sessionId) true]) ++ [.armedChange true]) := by
      refine hmessage.shows rfl (armedAt_snoc ..) (fun hreleased => ?_) rfl
      have hcleared := hmessage.released ((released_snoc ..).symm.trans hreleased)
      exact ⟨hcleared.1, hcleared.2, hcleared.3, hcleared.4⟩
    rwa [List.append_assoc] at harmed
  | messaged channel message sent =>
    exact h.shows rfl ((armedAt_snoc ..).trans h.armed)
      (fun hreleased => h.released ((released_snoc ..).symm.trans hreleased)) rfl
  | dropped =>
    exact h.change rfl
      (fun hcleared => ⟨hcleared.1, hcleared.2, hcleared.3, hcleared.4⟩) (Nat.le_succ _)
  | framed sent => exact h.frame _ sent

/-! ## Runs -/

namespace Page

variable {start page : Page} {moments : List Moment}

theorem Fresh.safe (h : start.Fresh) : Safe start.trace := by
  obtain ⟨⟨sessionId, protocolVersion, hloop⟩, heffects⟩ := h
  unfold trace
  rw [hloop, heffects]
  exact ⟨rfl, nofun, .nil, .nil, .nil, nofun⟩

/-- Being given channels is no frame. -/
theorem safe_taken (h : Safe page.trace) (moment : Moment) : Safe (page.taken moment).trace := by
  unfold taken
  dsimp only
  split
  · refine Safe.shows h rfl ((armedAt_snoc ..).trans h.armed) (fun hreleased => ?_) rfl
    have hcleared := h.released ((released_snoc ..).symm.trans hreleased)
    exact ⟨hcleared.1, hcleared.2, hcleared.3, hcleared.4⟩
  · exact h

theorem safe_of_run (hstart : start.Fresh)
    (hrun : Run (fun page moment after => after = page.perform moment) start moments page) :
    Safe page.trace := by
  refine hrun.invariant (I := fun page => Safe page.trace) hstart.safe ?_
  rintro before after moment h rfl
  exact keeps_perform Safe.moves (safe_taken h moment)

/-- After a change to not armed, until there is input. -/
theorem released_between {before between : List Effect} (h : .input ∉ between) :
    released (before ++ .armedChange false :: between) = true := by
  induction between using List.reverseRecOn with
  | nil => exact released_snoc ..
  | append_singleton between effect ih =>
    rw [List.mem_append, not_or, List.mem_singleton] at h
    rw [← List.cons_append, ← List.append_assoc, released_snoc]
    have hreleased := ih h.1
    cases effect with
    | input => exact absurd rfl h.2
    | armedChange armed =>
      rw [hreleased]
      exact Bool.or_true _
    | bound | message | intent => exact hreleased

/-- **Main result.** In every run, the frames of a loop that is not armed are still and say so; the
frames after a change to not armed are still until there is new input; and the sequence numbers
increase. -/
theorem never_drives_unarmed (hstart : start.Fresh)
    (hrun : Run (fun page moment after => after = page.perform moment) start moments page) :
    armedAt page.effects = page.loop.armed ∧
    (∀ before channel command sent after,
      page.effects = before ++ .intent channel command sent :: after →
      armedAt before = false → command.Still ∧ command.armed = false) ∧
    (∀ before between channel command sent after,
      page.effects =
        (before ++ .armedChange false :: between) ++ .intent channel command sent :: after →
      .input ∉ between → command.Still) ∧
    (page.effects.filterMap Effect.sequence?).Pairwise (· < ·) := by
  have h := safe_of_run hstart hrun
  refine ⟨h.armed, fun before channel command sent after heq hidle => ?_,
    fun before between channel command sent after heq hinput => ?_, h.sequences⟩
  · exact h.unarmed before _ after heq channel command sent rfl hidle
  · exact h.still _ _ after heq channel command sent rfl (released_between hinput)

/-! ## A drive -/

/-- Two channels that are open and idle. -/
def demoPage : Page where
  loop := .new "session" .v5
  channels _ := ⟨.opened, 0⟩
  listeners := []
  edgeOrigin := none
  outcomes := []
  effects := []

/-- The loop arms, drives, and disarms when the fast channel closes. -/
def demoDrive : List Moment :=
  [⟨.bindChannels 0 1, .ofInt 0, none, []⟩, ⟨.arm, .ofInt 0, none, []⟩,
    ⟨.setInput ⟨none, some (.ofInt 1), none⟩, .ofInt 0, none, []⟩, ⟨.start, .ofInt 0, none, []⟩,
    ⟨.tick, .ofInt 20, none, []⟩, ⟨.dispatch 0 .closed, .ofInt 30, none, []⟩,
    ⟨.arm, .ofInt 40, none, []⟩, ⟨.tick, .ofInt 60, none, []⟩]

theorem fresh_demoPage : demoPage.Fresh := ⟨⟨_, _, rfl⟩, rfl⟩

theorem demoDrive_never_unarmed :
    let page := demoDrive.foldl perform demoPage
    armedAt page.effects = page.loop.armed ∧
    (∀ before channel command sent after,
      page.effects = before ++ .intent channel command sent :: after →
      armedAt before = false → command.Still ∧ command.armed = false) ∧
    (∀ before between channel command sent after,
      page.effects =
        (before ++ .armedChange false :: between) ++ .intent channel command sent :: after →
      .input ∉ between → command.Still) ∧
    (page.effects.filterMap Effect.sequence?).Pairwise (· < ·) :=
  never_drives_unarmed fresh_demoPage (run_foldl perform demoPage demoDrive)

-- the two ticks of that drive send a frame each, the second of a loop that is armed again
example : (demoDrive.foldl perform demoPage).effects.filterMap Effect.sequence? = [1, 2] := rfl

end Page

end RcOnline.Web
