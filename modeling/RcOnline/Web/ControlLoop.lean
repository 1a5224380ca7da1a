import RcOnline.Lib.Number
import RcOnline.Lib.Steps

/-!
# The browser's control loop

`BrowserControlLoop` of `apps/web/app/control-loop.ts`: it sends the driver's input over a fast
channel fifty times a second, once an arm message has gone out on a reliable one, and lets go of the
input whenever it disarms. What a page does with its channels is part of the state: the readings of
a channel, the listeners, and what the sends of the running operation come to.
-/

namespace RcOnline.Web

open RcOnline.Lib

/-! ## Channels -/

inductive ReadyState where
  | connecting
  | opened
  | closing
  | closed
  deriving DecidableEq

/-- An `RTCDataChannel`, as an object. -/
abbrev ChannelId := Nat

structure ChannelState where
  readyState : ReadyState
  bufferedAmount : Nat
  deriving DecidableEq

/-- What a call of `send` comes to: whether it returns, and the channel after it. -/
structure SendOutcome where
  sent : Bool
  after : ChannelState
  deriving DecidableEq

inductive ChannelEvent where
  | opened
  | closed
  | error
  deriving DecidableEq

/-! ## Messages -/

inductive ProtocolVersion where
  | v3
  | v4
  | v5
  deriving DecidableEq

/-- A `control.intent` frame; frames of version 3 have no trim. -/
structure DriveCommand where
  v : ProtocolVersion
  sessionId : String
  sequence : Nat
  steering : Number
  throttle : Number
  nitro : Bool
  armed : Bool
  steeringTrimPercent : Option Number
  deriving DecidableEq

/-- A message of the reliable channel, always of version 3. -/
inductive ReliableMessage where
  | arm (sessionId : String)
  | neutral (reason sessionId : String)
  deriving DecidableEq

structure ControlInput where
  steering : Option Number := none
  throttle : Option Number := none
  nitro : Option Bool := none
  deriving DecidableEq

/-- `Number.isFinite(x)`. -/
def isFinite : Number → Bool
  | .finite _ => true
  | _ => false

/-- `Math.round(x)`. -/
def mathRound : Number → Number
  | .finite q => .ofInt ⌊q + 1 / 2⌋
  | x => x

def discreteAxis (value : Number) : Number :=
  if !isFinite value ∨ value = .ofInt 0 then .ofInt 0
  else if value.lt (.ofInt 0) then .ofInt (-1)
  else .ofInt 1

def normalizedAxis (value : Number) : Number :=
  if !isFinite value then .ofInt 0 else (Number.ofInt (-1)).max ((Number.ofInt 1).min value)

def encodeAxis (value : Number) (proportional : Bool) : Number :=
  if proportional then mathRound ((normalizedAxis value).mul (.ofInt 1000)) else discreteAxis value

/-- `normalizeSteeringTrim`, which throws on a number that is not finite. -/
def normalizeSteeringTrim (value : Number) : Option Number :=
  if !isFinite value then none
  else some ((Number.ofInt (-20)).max ((Number.ofInt 20).min (mathRound value)))

/-! ## The loop -/

structure BrowserControlLoop where
  sessionId : String
  protocolVersion : ProtocolVersion
  fastChannel : Option ChannelId
  reliableChannel : Option ChannelId
  timer : Bool
  sequence : Nat
  steering : Number
  throttle : Number
  nitro : Bool
  steeringTrimPercent : Number
  armRequested : Bool
  armed : Bool
  congestedAt : Option Number
  /-- Whether there is one. What it returns is an input of every step. -/
  inputProvider : Bool

namespace BrowserControlLoop

def new (sessionId : String) (protocolVersion : ProtocolVersion) : BrowserControlLoop where
  sessionId := sessionId
  protocolVersion := protocolVersion
  fastChannel := none
  reliableChannel := none
  timer := false
  sequence := 0
  steering := .ofInt 0
  throttle := .ofInt 0
  nitro := false
  steeringTrimPercent := .ofInt 0
  armRequested := false
  armed := false
  congestedAt := none
  inputProvider := false

variable (loop : BrowserControlLoop)

def applyInput (input : ControlInput) : BrowserControlLoop :=
  { loop with
    steering := normalizedAxis (input.steering.getD loop.steering)
    throttle := normalizedAxis (input.throttle.getD loop.throttle)
    nitro := input.nitro.getD loop.nitro }

/-- The held input is forgotten. -/
def clear : BrowserControlLoop :=
  { loop with inputProvider := false, steering := .ofInt 0, throttle := .ofInt 0, nitro := false }

/-- The frame that `sendLatest` encodes, under the loop's sequence number. -/
def command : DriveCommand :=
  let proportional := decide (loop.protocolVersion = .v5)
  { v := loop.protocolVersion
    sessionId := loop.sessionId
    sequence := loop.sequence
    steering := if loop.armed then encodeAxis loop.steering proportional else .ofInt 0
    throttle := if loop.armed then encodeAxis loop.throttle proportional else .ofInt 0
    nitro := loop.armed && loop.nitro
    armed := loop.armed
    steeringTrimPercent :=
      if loop.protocolVersion = .v3 then none else some loop.steeringTrimPercent }

end BrowserControlLoop

/-! ## The page -/

/-- What can be seen of a loop: its callback, what it hands out, and when it is given channels or
input. -/
inductive Effect where
  | bound (fast reliable : ChannelId)
  | input
  | armedChange (armed : Bool)
  | message (channel : ChannelId) (message : ReliableMessage) (sent : Bool)
  /-- A frame for the fast channel, or for the HTTP fallback where there is none. -/
  | intent (channel : Option ChannelId) (command : DriveCommand) (sent : Bool)
  deriving DecidableEq

structure Page where
  loop : BrowserControlLoop
  channels : ChannelId → ChannelState
  /-- The channels that the loop listens to. -/
  listeners : List ChannelId
  /-- `NEXT_PUBLIC_EDGE_ORIGIN`, or the origin of a development build. -/
  edgeOrigin : Option String
  /-- What the next sends come to; beyond the list they return and change nothing. -/
  outcomes : List SendOutcome
  effects : List Effect

namespace Page

variable (page : Page)

def record (effect : Effect) : Page := { page with effects := page.effects ++ [effect] }

def setLoop (loop : BrowserControlLoop) : Page := { page with loop }

/-- Open, with nothing left to send. -/
def idle (channel : ChannelId) : Bool :=
  (page.channels channel).readyState = .opened && (page.channels channel).bufferedAmount = 0

/-- `channel.send`. -/
def transmit (channel : ChannelId) (effect : Bool → Effect) : Bool × Page :=
  match page.outcomes with
  | [] => (true, page.record (effect true))
  | outcome :: outcomes =>
    (outcome.sent,
      { page with
        outcomes
        channels := Function.update page.channels channel outcome.after }.record
        (effect outcome.sent))

/-- `#setArmed`, with the callback. -/
def setArmed (armed : Bool) : Page :=
  if page.loop.armed = armed then page
  else (page.setLoop { page.loop with armed }).record (.armedChange armed)

/-- `#transportFailed`. -/
def transportFailed (reason : String) : Page :=
  let page := (page.setLoop { page.loop.clear with armRequested := false }).setArmed false
  match page.loop.reliableChannel with
  | none => page
  | some channel =>
    if page.idle channel then
      (page.transmit channel (.message channel (.neutral reason page.loop.sessionId))).2
    else page

def sendReliable (message : ReliableMessage) : Bool × Page :=
  match page.loop.reliableChannel with
  | none => (false, page)
  | some channel =>
    if page.idle channel then
      match page.transmit channel (.message channel message) with
      | (true, page) => (true, page)
      | (false, page) => (false, page.transportFailed "control_send_failed")
    else (false, page)

/-- `#tryArm`. -/
def tryArm : Page :=
  match page.loop.fastChannel, page.loop.reliableChannel with
  | some fast, some reliable =>
    if page.loop.armRequested ∧ ¬page.loop.armed ∧ page.idle fast ∧ page.idle reliable then
      match page.sendReliable (.arm page.loop.sessionId) with
      | (true, page) => page.setArmed true
      | (false, page) => page
    else page
  | _, _ => page

/-- `sendLatest` while the fast channel is open and has something left to send. -/
def congested (now : Number) : Page :=
  let congestedAt := page.loop.congestedAt.getD now
  let page := page.setLoop { page.loop with congestedAt := some congestedAt }
  if page.loop.armed ∧ (Number.ofInt 200).le (now.sub congestedAt) then
    page.transportFailed "control_channel_congested"
  else page

/-- The rest of `sendLatest`, after the provider has been asked. -/
def sendFrame : Page :=
  let loop := { page.loop with sequence := page.loop.sequence + 1 }
  let page := page.setLoop loop
  match loop.fastChannel with
  | some fast =>
    if (page.channels fast).readyState = .opened then
      match page.transmit fast (.intent (some fast) loop.command) with
      | (true, page) => page
      | (false, page) => page.transportFailed "control_send_failed"
    -- a broken channel is not replaced by the HTTP fallback
    else page
  | none =>
    match page.edgeOrigin with
    | none => page
    | some _ => page.record (.intent none loop.command true)

/-- `sendLatest`, at an instant, with what the provider returns if asked; none when it throws. -/
def sendLatest (now : Number) (provided : Option ControlInput) : Page :=
  if page.loop.fastChannel.any fun fast =>
    (page.channels fast).readyState = .opened && 0 < (page.channels fast).bufferedAmount
  then page.congested now
  else
    let page := page.setLoop { page.loop with congestedAt := none }
    if page.loop.armed ∧ page.loop.inputProvider then
      match provided with
      | none => page
      | some input => (page.setLoop (page.loop.applyInput input)).sendFrame
    else page.sendFrame

/-- `#unbindChannels`. -/
def unbindChannels : Page :=
  { page with
    listeners := page.listeners.filter fun channel =>
      some channel ≠ page.loop.fastChannel ∧ some channel ≠ page.loop.reliableChannel }

/-- `bindChannels` before it tries to arm. -/
def rebind (fast reliable : ChannelId) : Page :=
  let page := page.unbindChannels
  { page with
    loop := { page.loop with fastChannel := some fast, reliableChannel := some reliable }
    listeners := page.listeners ++ [fast, reliable] }.record (.bound fast reliable)

def bindChannels (fast reliable : ChannelId) : Page := (page.rebind fast reliable).tryArm

def setInput (input : ControlInput) : Page :=
  (page.setLoop ({ page.loop with inputProvider := false }.applyInput input)).record .input

def setInputProvider (present : Bool) : Page :=
  (page.setLoop { page.loop with inputProvider := present }).record .input

def setSteeringTrim (percent : Number) : Page :=
  match normalizeSteeringTrim percent with
  | none => page
  | some steeringTrimPercent => page.setLoop { page.loop with steeringTrimPercent }

def arm : Page := (page.setLoop { page.loop with armRequested := true }).tryArm

def neutral (now : Number) (reason : String) : Page :=
  let page := page.setLoop page.loop.clear
  -- the provider is gone, so nothing is asked
  (page.sendReliable (.neutral reason page.loop.sessionId)).2.sendLatest now none

def disarm (now : Number) (reason : String) : Page :=
  ((page.setLoop { page.loop with armRequested := false }).setArmed false).neutral now reason

def start : Page := page.setLoop { page.loop with timer := true }

def stop (now : Number) : Page :=
  let page := page.setLoop { page.loop with timer := false, armRequested := false }
  ((page.setArmed false).neutral now "control_loop_stopped").unbindChannels

/-- The listeners of a channel are called. -/
def dispatch (channel : ChannelId) (event : ChannelEvent) : Page :=
  if channel ∈ page.listeners then
    match event with
    | .opened => page.tryArm
    | .closed | .error => page.transportFailed "control_channel_closed"
  else page

end Page

/-! ## Steps -/

inductive ControlEvent where
  | bindChannels (fast reliable : ChannelId)
  | setInput (input : ControlInput)
  | setInputProvider (present : Bool)
  | setSteeringTrim (percent : Number)
  | arm
  | disarm (reason : String)
  | neutral (reason : String)
  | start
  | stop
  /-- The timer fires, if there is one. -/
  | tick
  | dispatch (channel : ChannelId) (event : ChannelEvent)
  /-- A channel changes by itself. -/
  | change (channel : ChannelId) (state : ChannelState)

/-- What happens, and what the page's surroundings do meanwhile: the clock, the provider's answer
and the outcomes of the sends. -/
structure Moment where
  event : ControlEvent
  now : Number
  provided : Option ControlInput := none
  outcomes : List SendOutcome := []

namespace Page

def perform (page : Page) (moment : Moment) : Page :=
  let page := { page with outcomes := moment.outcomes }
  match moment.event with
  | .bindChannels fast reliable => page.bindChannels fast reliable
  | .setInput input => page.setInput input
  | .setInputProvider present => page.setInputProvider present
  | .setSteeringTrim percent => page.setSteeringTrim percent
  | .arm => page.arm
  | .disarm reason => page.disarm moment.now reason
  | .neutral reason => page.neutral moment.now reason
  | .start => page.start
  | .stop => page.stop moment.now
  | .tick => if page.loop.timer then page.sendLatest moment.now moment.provided else page
  | .dispatch channel event => page.dispatch channel event
  | .change channel state =>
    { page with channels := Function.update page.channels channel state }

/-- A page whose loop has just been constructed. -/
structure Fresh (page : Page) : Prop where
  loop : ∃ sessionId protocolVersion, page.loop = .new sessionId protocolVersion
  effects : page.effects = []

end Page

end RcOnline.Web
