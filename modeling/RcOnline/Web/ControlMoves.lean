import RcOnline.Web.ControlLoop

/-!
# What a step of the control loop can do

Every operation of the loop is a chain of a few moves of its fields and its effects
(`leads_perform`). What the moves keep holds of every page that a run reaches.
-/

namespace RcOnline.Web

open RcOnline.Lib Relation

/-- A loop and its effects so far. -/
abbrev Trace := BrowserControlLoop × List Effect

namespace BrowserControlLoop

/-- The loop under the next sequence number. -/
def next (loop : BrowserControlLoop) : BrowserControlLoop :=
  { loop with sequence := loop.sequence + 1 }

end BrowserControlLoop

/-- The moves of a loop, apart from being given channels. -/
inductive Moves : Trace → Trace → Prop where
  /-- Fields that no frame depends on, but for the trim. -/
  | tuned {loop : BrowserControlLoop} {effects : List Effect} (timer : Bool) (trim : Number)
      (armRequested : Bool) (congestedAt : Option Number) :
      Moves (loop, effects)
        ({ loop with timer, steeringTrimPercent := trim, armRequested, congestedAt }, effects)
  | given {loop : BrowserControlLoop} {effects : List Effect} (input : ControlInput) :
      Moves (loop, effects)
        ({ loop with inputProvider := false }.applyInput input, effects ++ [.input])
  | provided {loop : BrowserControlLoop} {effects : List Effect} (present : Bool) :
      Moves (loop, effects) ({ loop with inputProvider := present }, effects ++ [.input])
  /-- The provider is asked. -/
  | sampled {loop : BrowserControlLoop} {effects : List Effect} (input : ControlInput)
      (harmed : loop.armed = true) (hprovider : loop.inputProvider = true) :
      Moves (loop, effects) (loop.applyInput input, effects)
  | cleared {loop : BrowserControlLoop} {effects : List Effect} :
      Moves (loop, effects) (loop.clear, effects)
  | disarmed {loop : BrowserControlLoop} {effects : List Effect} (harmed : loop.armed = true) :
      Moves (loop, effects)
        ({ loop.clear with armed := false }, effects ++ [.armedChange false])
  | armed {loop : BrowserControlLoop} {effects : List Effect} {fast reliable : ChannelId}
      (harmed : loop.armed = false) (hfast : loop.fastChannel = some fast)
      (hreliable : loop.reliableChannel = some reliable) :
      Moves (loop, effects)
        ({ loop with armed := true },
          effects ++ [.message reliable (.arm loop.sessionId) true, .armedChange true])
  /-- Another message, or one that was not sent. -/
  | messaged {loop : BrowserControlLoop} {effects : List Effect} (channel : ChannelId)
      (message : ReliableMessage) (sent : Bool) :
      Moves (loop, effects) (loop, effects ++ [.message channel message sent])
  /-- A frame is encoded and goes nowhere. -/
  | dropped {loop : BrowserControlLoop} {effects : List Effect} :
      Moves (loop, effects) (loop.next, effects)
  | framed {loop : BrowserControlLoop} {effects : List Effect} (sent : Bool) :
      Moves (loop, effects)
        (loop.next, effects ++ [.intent loop.fastChannel loop.next.command sent])

namespace Page

variable {page : Page}

/-- The part of a page that the moves are about. -/
def trace (page : Page) : Trace := (page.loop, page.effects)

/-- A page leads to another by some moves. -/
def Leads (page after : Page) : Prop := ReflTransGen Moves page.trace after.trace

theorem Leads.trans {page' page'' : Page} (h : page.Leads page') (h' : page'.Leads page'') :
    page.Leads page'' := ReflTransGen.trans h h'

theorem leads_of_eq {after : Page} (h : after.trace = page.trace) : page.Leads after := by
  rw [Leads, h]

theorem leads_of_move {after : Page} (h : Moves page.trace after.trace) : page.Leads after :=
  .single h

/-- What `send` leaves of a page. -/
theorem transmit_trace (page : Page) (channel : ChannelId) (effect : Bool → Effect) :
    (page.transmit channel effect).2.trace =
      (page.loop, page.effects ++ [effect (page.transmit channel effect).1]) := by
  unfold transmit
  split <;> rfl

/-- Disarming lets go of the input. -/
theorem leads_disarmed (armRequested : Bool) :
    page.Leads ((page.setLoop { page.loop.clear with armRequested }).setArmed false) := by
  unfold setArmed
  split
  · next harmed =>
    refine .tail (.single .cleared) ?_
    exact .tuned page.loop.timer page.loop.steeringTrimPercent armRequested page.loop.congestedAt
  · next harmed =>
    have harmed' : page.loop.armed = true := Bool.eq_true_of_not_eq_false harmed
    refine .tail (.single (.disarmed harmed')) ?_
    exact .tuned page.loop.timer page.loop.steeringTrimPercent armRequested page.loop.congestedAt

theorem leads_transportFailed (reason : String) : page.Leads (page.transportFailed reason) := by
  refine (leads_disarmed false).trans ?_
  unfold transportFailed
  dsimp only
  generalize (page.setLoop { page.loop.clear with armRequested := false }).setArmed false = page
  split
  · exact leads_of_eq rfl
  · split
    · refine leads_of_move ?_
      rw [transmit_trace]
      exact .messaged ..
    · exact leads_of_eq rfl

/-- A message is sent, or the loop goes on without. -/
theorem sendReliable_cases (page : Page) (message : ReliableMessage) :
    (∃ channel after, page.loop.reliableChannel = some channel ∧
      page.sendReliable message = (true, after) ∧
      after.trace = (page.loop, page.effects ++ [.message channel message true])) ∨
    ∃ after, page.sendReliable message = (false, after) ∧ page.Leads after := by
  unfold sendReliable
  split
  · exact .inr ⟨page, rfl, leads_of_eq rfl⟩
  · next channel hchannel =>
    split
    · have htrace := transmit_trace page channel (.message channel message)
      split
      · next after heq =>
        rw [heq] at htrace
        exact .inl ⟨channel, after, hchannel, rfl, htrace⟩
      · next after heq =>
        rw [heq] at htrace
        have hmessaged : page.Leads after := leads_of_move (htrace ▸ .messaged ..)
        exact .inr ⟨_, rfl, hmessaged.trans (leads_transportFailed _)⟩
    · exact .inr ⟨page, rfl, leads_of_eq rfl⟩

theorem leads_sendReliable (message : ReliableMessage) :
    page.Leads (page.sendReliable message).2 := by
  rcases sendReliable_cases page message with
    ⟨channel, after, -, heq, htrace⟩ | ⟨after, heq, hleads⟩
  · rw [heq]
    exact leads_of_move (htrace ▸ .messaged ..)
  · rw [heq]
    exact hleads

theorem leads_tryArm : page.Leads page.tryArm := by
  unfold tryArm
  split
  · next fast reliable hfast hreliable =>
    split
    · next hready =>
      have harmed : page.loop.armed = false := Bool.eq_false_iff.2 hready.2.1
      rcases sendReliable_cases page (.arm page.loop.sessionId) with
        ⟨channel, after, hchannel, heq, htrace⟩ | ⟨after, heq, hleads⟩
      · obtain rfl := Option.some.inj (hreliable.symm.trans hchannel)
        rw [heq]
        refine leads_of_move ?_
        obtain ⟨hloop, heffects⟩ := Prod.mk.inj htrace
        have hset : (after.setArmed true).trace = ({ page.loop with armed := true },
            page.effects ++ [.message reliable (.arm page.loop.sessionId) true,
              .armedChange true]) := by
          unfold setArmed
          rw [hloop, if_neg (by rw [harmed]; decide)]
          refine Prod.ext rfl ?_
          change after.effects ++ [.armedChange true] = _
          rw [heffects, List.append_assoc]
          rfl
        exact hset ▸ .armed harmed hfast hreliable
      · rw [heq]
        exact hleads
    · exact leads_of_eq rfl
  · exact leads_of_eq rfl

theorem leads_congested (now : Number) : page.Leads (page.congested now) := by
  unfold congested
  dsimp only
  have htuned : page.Leads (page.setLoop
      { page.loop with congestedAt := some (page.loop.congestedAt.getD now) }) :=
    leads_of_move (.tuned page.loop.timer page.loop.steeringTrimPercent page.loop.armRequested _)
  split
  · exact htuned.trans (leads_transportFailed _)
  · exact htuned

theorem moves_framed {channel : Option ChannelId} (h : page.loop.fastChannel = channel)
    (sent : Bool) :
    Moves page.trace
      (page.loop.next, page.effects ++ [.intent channel page.loop.next.command sent]) := by
  rw [← h]
  exact .framed sent

theorem leads_sendFrame : page.Leads page.sendFrame := by
  unfold sendFrame
  dsimp only
  have hdropped : page.Leads (page.setLoop page.loop.next) := leads_of_move .dropped
  split
  · next fast hfast =>
    split
    · have htrace := transmit_trace (page.setLoop page.loop.next) fast
        (.intent (some fast) page.loop.next.command)
      split
      · next after heq =>
        have hafter : after.trace = _ :=
          (congrArg (fun result => result.2.trace) heq).symm.trans htrace
        exact leads_of_move (hafter ▸ moves_framed hfast _)
      · next after heq =>
        have hafter : after.trace = _ :=
          (congrArg (fun result => result.2.trace) heq).symm.trans htrace
        have hframed : page.Leads after := leads_of_move (hafter ▸ moves_framed hfast _)
        exact hframed.trans (leads_transportFailed _)
    · exact hdropped
  · next hnone =>
    split
    · exact hdropped
    · exact leads_of_move (moves_framed hnone true)

theorem leads_sendLatest (now : Number) (provided : Option ControlInput) :
    page.Leads (page.sendLatest now provided) := by
  unfold sendLatest
  dsimp only
  have htuned : page.Leads (page.setLoop { page.loop with congestedAt := none }) :=
    leads_of_move (.tuned page.loop.timer page.loop.steeringTrimPercent page.loop.armRequested none)
  split
  · exact leads_congested now
  · split
    · next hasked =>
      split
      · exact htuned
      · next input =>
        have hsampled : (page.setLoop { page.loop with congestedAt := none }).Leads
            ((page.setLoop { page.loop with congestedAt := none }).setLoop
              ({ page.loop with congestedAt := none }.applyInput input)) :=
          leads_of_move (.sampled input hasked.1 hasked.2)
        exact htuned.trans (hsampled.trans leads_sendFrame)
    · exact htuned.trans leads_sendFrame

theorem leads_neutral (now : Number) (reason : String) :
    page.Leads (page.neutral now reason) := by
  have hcleared : page.Leads (page.setLoop page.loop.clear) := leads_of_move .cleared
  exact hcleared.trans ((leads_sendReliable _).trans (leads_sendLatest now none))

/-- Disarming first and letting go of the input then. -/
theorem leads_released (now : Number) (reason : String) :
    page.Leads ((page.setArmed false).neutral now reason) := by
  have hreleased : page.Leads ((page.setArmed false).setLoop (page.setArmed false).loop.clear) := by
    unfold setArmed
    split
    · exact leads_of_move .cleared
    · next harmed => exact leads_of_move (.disarmed (Bool.eq_true_of_not_eq_false harmed))
  exact hreleased.trans ((leads_sendReliable _).trans (leads_sendLatest now none))

theorem leads_disarm (now : Number) (reason : String) :
    page.Leads (page.disarm now reason) := by
  have htuned : page.Leads (page.setLoop { page.loop with armRequested := false }) :=
    leads_of_move (.tuned page.loop.timer page.loop.steeringTrimPercent false page.loop.congestedAt)
  exact htuned.trans (leads_released now reason)

theorem leads_stop (now : Number) : page.Leads (page.stop now) := by
  have htuned : page.Leads
      (page.setLoop { page.loop with timer := false, armRequested := false }) :=
    leads_of_move (.tuned false page.loop.steeringTrimPercent false page.loop.congestedAt)
  exact htuned.trans ((leads_released now _).trans (leads_of_eq rfl))

theorem leads_dispatch (channel : ChannelId) (event : ChannelEvent) :
    page.Leads (page.dispatch channel event) := by
  unfold dispatch
  split
  · cases event with
    | opened => exact leads_tryArm
    | closed | error => exact leads_transportFailed _
  · exact leads_of_eq rfl

/-- The page that a step starts from: given channels are taken before anything else. -/
def taken (page : Page) (moment : Moment) : Page :=
  let page := { page with outcomes := moment.outcomes }
  match moment.event with
  | .bindChannels fast reliable => page.rebind fast reliable
  | _ => page

/-- What a step does after that is a chain of moves. -/
theorem leads_perform (page : Page) (moment : Moment) :
    (page.taken moment).Leads (page.perform moment) := by
  obtain ⟨event, now, provided, outcomes⟩ := moment
  let page' : Page := { page with outcomes }
  cases event with
  | bindChannels fast reliable => exact leads_tryArm
  | setInput input => exact leads_of_move (.given input)
  | setInputProvider present => exact leads_of_move (.provided present)
  | setSteeringTrim percent =>
    dsimp only [taken, perform, setSteeringTrim]
    split
    · exact leads_of_eq rfl
    · next trim _ =>
      exact leads_of_move
        (.tuned page.loop.timer trim page.loop.armRequested page.loop.congestedAt)
  | arm =>
    have htuned : page'.Leads (page'.setLoop { page.loop with armRequested := true }) :=
      leads_of_move
        (.tuned page.loop.timer page.loop.steeringTrimPercent true page.loop.congestedAt)
    exact htuned.trans leads_tryArm
  | disarm reason => exact leads_disarm now reason
  | neutral reason => exact leads_neutral now reason
  | start =>
    exact leads_of_move (.tuned true page.loop.steeringTrimPercent page.loop.armRequested
      page.loop.congestedAt)
  | stop => exact leads_stop now
  | tick =>
    dsimp only [taken, perform]
    split
    · exact leads_sendLatest now provided
    · exact leads_of_eq rfl
  | dispatch channel event => exact leads_dispatch channel event
  | change channel state => exact leads_of_eq rfl

/-- What the moves keep holds after a step, if it holds once the channels are taken. -/
theorem keeps_perform {I : Trace → Prop} (hmoves : ∀ {s t : Trace}, I s → Moves s t → I t)
    {page : Page} {moment : Moment} (h : I (page.taken moment).trace) :
    I (page.perform moment).trace := by
  have hleads : ReflTransGen Moves (page.taken moment).trace (page.perform moment).trace :=
    leads_perform page moment
  generalize (page.perform moment).trace = after at hleads ⊢
  induction hleads with
  | refl => exact h
  | tail _ hmove ih => exact hmoves ih hmove

end Page

end RcOnline.Web
