import RcOnline.Web.ControlSafety

/-!
# Arming before motion

A loop that is armed has sent an arm message on the reliable channel of the pair it is bound to, as
long as it is not bound to another pair while it is armed: `bindChannels` keeps the flag.
-/

namespace RcOnline.Web

open RcOnline.Lib

/-- The channels that the loop was given last. -/
def lastBound (effects : List Effect) : Option (ChannelId × ChannelId) :=
  effects.foldl (fun pair effect =>
    match effect with
    | .bound fast reliable => some (fast, reliable)
    | _ => pair) none

/-- Since the channels were bound, and since the last change to not armed, an arm message was sent
on the reliable channel that belongs to the fast one. -/
def Handshake (effects : List Effect) (fast : ChannelId) : Prop :=
  ∃ before reliable sessionId between,
    effects = before ++ .message reliable (.arm sessionId) true :: between ∧
    lastBound before = some (fast, reliable) ∧
    ∀ effect ∈ between, (∀ fast reliable, effect ≠ .bound fast reliable) ∧
      effect ≠ .armedChange false

theorem lastBound_snoc (effects : List Effect) (effect : Effect) :
    lastBound (effects ++ [effect]) =
      match effect with
      | .bound fast reliable => some (fast, reliable)
      | _ => lastBound effects := by
  rw [lastBound, List.foldl_append]
  cases effect <;> rfl

theorem Handshake.snoc {effects : List Effect} {fast : ChannelId} {effect : Effect}
    (h : Handshake effects fast) (hbound : ∀ fast reliable, effect ≠ .bound fast reliable)
    (hchange : effect ≠ .armedChange false) : Handshake (effects ++ [effect]) fast := by
  obtain ⟨before, reliable, sessionId, between, rfl, hpair, hbetween⟩ := h
  refine ⟨before, reliable, sessionId, between ++ [effect], ?_, hpair, fun other hmem => ?_⟩
  · rw [List.append_assoc, List.cons_append]
  · rcases List.mem_append.1 hmem with hmem | hmem
    · exact hbetween other hmem
    · obtain rfl := List.mem_singleton.1 hmem
      exact ⟨hbound, hchange⟩

/-- A pair that was just bound has not been armed on. -/
theorem not_handshake_bound (effects : List Effect) (fast reliable channel : ChannelId) :
    ¬Handshake (effects ++ [.bound fast reliable]) channel := by
  rintro ⟨before, _, _, between, heq, -, hbetween⟩
  rcases List.eq_nil_or_concat' between with rfl | ⟨between, last, rfl⟩
  · cases (List.append_inj' heq rfl).2
  · rw [← List.cons_append, ← List.append_assoc] at heq
    obtain rfl := List.singleton_inj.1 (List.append_inj' heq rfl).2
    exact (hbetween _ (List.mem_append_right _ List.mem_cons_self)).1 fast reliable rfl

/-- What holds of a loop that is bound only while it is not armed. -/
structure Shaken (trace : Trace) : Prop where
  pair : ∀ {fast reliable}, trace.1.fastChannel = some fast →
    trace.1.reliableChannel = some reliable → lastBound trace.2 = some (fast, reliable)
  armed : trace.1.armed = true → ∃ fast, trace.1.fastChannel = some fast ∧ Handshake trace.2 fast
  frames : Each (fun before effect => ∀ channel command sent,
    effect = .intent channel command sent → command.armed = true →
      ∃ fast, channel = some fast ∧ Handshake before fast) trace.2

section moves

variable {loop loop' : BrowserControlLoop} {effects : List Effect} {effect : Effect}

/-- A change of the loop alone, of other fields or to not armed. -/
theorem Shaken.change (h : Shaken (loop, effects)) (hfast : loop'.fastChannel = loop.fastChannel)
    (hreliable : loop'.reliableChannel = loop.reliableChannel)
    (harmed : loop'.armed = true → loop.armed = true) : Shaken (loop', effects) where
  pair := by
    dsimp only
    rw [hfast, hreliable]
    exact h.pair
  armed := by
    dsimp only
    rw [hfast]
    exact fun harmed' => h.armed (harmed harmed')
  frames := h.frames

/-- An effect that is no frame of an armed loop without a handshake, and binds nothing. -/
theorem Shaken.shows (h : Shaken (loop, effects))
    (hbound : ∀ fast reliable, effect ≠ .bound fast reliable)
    (hchange : loop.armed = true → effect ≠ .armedChange false)
    (hframe : ∀ channel command sent, effect = .intent channel command sent →
      command.armed = true → loop.armed = true ∧ channel = loop.fastChannel) :
    Shaken (loop, effects ++ [effect]) where
  pair := by
    intro fast reliable hfast hreliable
    dsimp only
    rw [lastBound_snoc]
    have hpair := h.pair hfast hreliable
    cases effect with
    | bound fast' reliable' => exact absurd rfl (hbound fast' reliable')
    | input | armedChange | message | intent => exact hpair
  armed := by
    intro harmed
    obtain ⟨fast, hfast, hhandshake⟩ := h.armed harmed
    exact ⟨fast, hfast, hhandshake.snoc hbound (hchange harmed)⟩
  frames := by
    refine h.frames.snoc fun channel command sent heq harmed => ?_
    obtain ⟨harmed', rfl⟩ := hframe channel command sent heq harmed
    exact h.armed harmed'

/-- Input and messages are no frames. -/
theorem Shaken.input (h : Shaken (loop, effects)) : Shaken (loop, effects ++ [.input]) :=
  h.shows (fun _ _ heq => nomatch heq) (fun _ heq => nomatch heq) (fun _ _ _ heq => nomatch heq)

theorem Shaken.message (h : Shaken (loop, effects)) (channel : ChannelId)
    (message : ReliableMessage) (sent : Bool) :
    Shaken (loop, effects ++ [.message channel message sent]) :=
  h.shows (fun _ _ heq => nomatch heq) (fun _ heq => nomatch heq) (fun _ _ _ heq => nomatch heq)

end moves

theorem Shaken.moves {s t : Trace} (h : Shaken s) (hmove : Moves s t) : Shaken t := by
  cases hmove with
  | tuned | sampled | cleared | dropped => exact h.change rfl rfl fun harmed => harmed
  | given input => exact h.input.change rfl rfl fun harmed => harmed
  | provided present => exact h.input.change rfl rfl fun harmed => harmed
  | disarmed =>
    next loop effects _ =>
    have hidle : Shaken ({ loop.clear with armed := false }, effects) :=
      h.change rfl rfl fun harmed => nomatch harmed
    exact hidle.shows (fun _ _ heq => nomatch heq) (fun harmed => nomatch harmed)
      (fun _ _ _ heq => nomatch heq)
  | armed harmed hfast hreliable =>
    next loop effects fast reliable =>
    have hshown : Shaken (loop, (effects ++ [.message reliable (.arm loop.sessionId) true]) ++
        [.armedChange true]) :=
      (h.message reliable (.arm loop.sessionId) true).shows (fun _ _ heq => nomatch heq)
        (fun _ heq => nomatch heq) (fun _ _ _ heq => nomatch heq)
    rw [List.append_assoc] at hshown
    refine ⟨hshown.pair, fun _ => ⟨fast, hfast, ?_⟩, hshown.frames⟩
    refine ⟨effects, reliable, loop.sessionId, [.armedChange true], rfl, h.pair hfast hreliable, ?_⟩
    intro effect hmem
    obtain rfl := List.mem_singleton.1 hmem
    exact ⟨(fun _ _ heq => nomatch heq), fun heq => nomatch heq⟩
  | messaged channel message sent => exact h.message channel message sent
  | framed sent =>
    next loop effects =>
    have hshown : Shaken (loop, effects ++ [.intent loop.fastChannel loop.next.command sent]) := by
      refine h.shows (fun _ _ heq => nomatch heq) (fun _ heq => nomatch heq) ?_
      rintro _ _ _ heq harmed
      cases heq
      exact ⟨harmed, rfl⟩
    exact hshown.change rfl rfl fun harmed => harmed

/-! ## Runs -/

namespace Page

variable {start page : Page} {moments : List Moment}

theorem Fresh.shaken (h : start.Fresh) : Shaken start.trace := by
  obtain ⟨⟨sessionId, protocolVersion, hloop⟩, heffects⟩ := h
  unfold trace
  rw [hloop, heffects]
  exact ⟨(fun hfast => nomatch hfast), (fun harmed => nomatch harmed), .nil⟩

/-- A step that binds channels only to a loop that is not armed. -/
def UnarmedStep (page : Page) (moment : Moment) (after : Page) : Prop :=
  (∀ fast reliable, moment.event = .bindChannels fast reliable → page.loop.armed = false) ∧
    after = page.perform moment

theorem shaken_taken (h : Shaken page.trace) {moment : Moment}
    (hidle : ∀ fast reliable, moment.event = .bindChannels fast reliable →
      page.loop.armed = false) : Shaken (page.taken moment).trace := by
  unfold taken
  dsimp only
  split
  · next fast reliable hevent =>
    have harmed := hidle fast reliable hevent
    refine ⟨?_, fun harmed' => ?_, h.frames.snoc fun _ _ _ heq => nomatch heq⟩
    · intro fast' reliable' hfast hreliable
      obtain rfl := Option.some.inj hfast
      obtain rfl := Option.some.inj hreliable
      exact lastBound_snoc ..
    · cases harmed.symm.trans harmed'
  · exact h

/-- **Main result.** In every run that binds channels only while the loop is not armed, an armed
frame goes out on a fast channel, and only after an arm message on the reliable channel of the same
pair. -/
theorem arm_precedes_motion (hstart : start.Fresh)
    (hrun : Run UnarmedStep start moments page) :
    ∀ before channel command sent after,
      page.effects = before ++ .intent channel command sent :: after → command.armed = true →
      ∃ fast, channel = some fast ∧ Handshake before fast := by
  have h : Shaken page.trace := by
    refine hrun.invariant (I := fun page => Shaken page.trace) hstart.shaken ?_
    rintro before after moment h ⟨hidle, rfl⟩
    exact keeps_perform Shaken.moves (shaken_taken h hidle)
  exact fun before channel command sent after heq =>
    h.frames before _ after heq channel command sent rfl

/-! ## Binding while armed -/

/-- Two pairs of channels that are open and idle. -/
def legacyPage : Page := { demoPage with loop := .new "session" .v3 }

theorem fresh_legacyPage : legacyPage.Fresh := ⟨⟨_, _, rfl⟩, rfl⟩

/-- The loop is bound and arms, is given input and started. -/
def armedDrive : List Moment :=
  [⟨.bindChannels 0 1, .ofInt 0, none, []⟩, ⟨.arm, .ofInt 0, none, []⟩,
    ⟨.setInput ⟨none, some (.ofInt 1), none⟩, .ofInt 0, none, []⟩, ⟨.start, .ofInt 0, none, []⟩]

def tickAt (now : Int) : Moment := ⟨.tick, .ofInt now, none, []⟩

/-- The frame of a tick after that. -/
def armedCommand : DriveCommand :=
  ⟨.v3, "session", 1, .ofInt 0, .ofInt 1, false, true, none⟩

theorem armedDrive_handshakes :
    (∃ before after, ((armedDrive ++ [tickAt 20]).foldl perform legacyPage).effects =
      before ++ .intent (some 0) armedCommand true :: after) ∧
    ∀ before channel command sent after,
      ((armedDrive ++ [tickAt 20]).foldl perform legacyPage).effects =
        before ++ .intent channel command sent :: after → command.armed = true →
      ∃ fast, channel = some fast ∧ Handshake before fast := by
  have hrun : Run UnarmedStep legacyPage (armedDrive ++ [tickAt 20])
      ((armedDrive ++ [tickAt 20]).foldl perform legacyPage) := by
    refine .cons ⟨fun _ _ _ => rfl, rfl⟩ (.cons ⟨?_, rfl⟩ (.cons ⟨?_, rfl⟩ (.cons ⟨?_, rfl⟩
      (.cons ⟨?_, rfl⟩ .nil))))
    all_goals exact fun _ _ heq => nomatch heq
  exact ⟨⟨_, _, rfl⟩, arm_precedes_motion fresh_legacyPage hrun⟩

/-- Bound to another pair, the loop sends an armed frame on it at once. -/
theorem rebound_drives :
    ∃ before, ((armedDrive ++ [⟨.bindChannels 2 3, .ofInt 10, none, []⟩, tickAt 20]).foldl
        perform legacyPage).effects = before ++ [.intent (some 2) armedCommand true] ∧
      armedCommand.throttle = .ofInt 1 ∧ ¬Handshake before 2 :=
  ⟨_, rfl, rfl, not_handshake_bound [.bound 0 1, .message 1 (.arm "session") true,
    .armedChange true, .input] 2 3 2⟩

end Page

end RcOnline.Web
