import RcOnline.Edge.Outbox
import RcOnline.Edge.Safety
import RcOnline.Lib.Steps

/-!
# The event log of the edge

The routes of `apps/edge/src/main.ts` change the safety gate and append to the outbox. Replaying
the events is to give the state of the gate. An activation under a known key adds no event, so the
log tells the truth about a sequence of requests exactly when the ride activated last is also the
one that the log saw last (`Retold`, `eventLog_agrees_iff`).
-/

namespace RcOnline.Edge

open RcOnline.Lib

/-- The payload of an event, kept for the text that it is read back from. -/
inductive EdgePayload where
  | activated (rideId : String)
  | rejected (rideId : String) (reason : String)
  | stopAll (actorId : String) (reason : String) (decision : SafetyDecision)
  deriving DecidableEq

abbrev EdgeEvent := EdgeOutboxEvent EdgePayload

inductive EdgeRequest where
  | activate (rideId : String)
  | control (input : ControlInput)
  | stopAll (reason : String) (actorId : String)
  deriving DecidableEq

inductive EdgeReply where
  | active (event : EdgeEvent)
  | decision (decision : SafetyDecision)
  | stopped (decision : SafetyDecision) (event : EdgeEvent)

/-- What a request draws: the event's id and time, and the uuid of a stop's key. -/
structure RequestDraw where
  event : AppendDraw
  stopId : String

/-- `Number(process.hrtime.bigint() / 1_000_000n)`. -/
def RequestDraw.monotonicMs (draw : RequestDraw) : Number :=
  .round (draw.event.monotonicNs.tdiv 1000000)

structure EdgeServer where
  safety : EdgeSafetyGate
  outbox : EdgeOutbox EdgePayload

def activationKey (rideId : String) : String := "ride:" ++ rideId ++ ":activated"

def stopKey (stopId : String) : String := "operator-stop:" ++ stopId

/-- The key of a rejection; `numberText` is the host's text of a number. -/
def controlKey (numberText : Number → String) (input : ControlInput) (reason : String) : String :=
  "control:" ++ input.rideId ++ ":" ++ numberText input.sequence ++ ":" ++ reason

namespace EdgeServer

def start : EdgeServer := { safety := .new, outbox := .new "edge-prague-neon" }

def append (server : EdgeServer) (topic : String) (payload : EdgePayload)
    (idempotencyKey : String) (draw : RequestDraw) : Except String EdgeEvent × EdgeServer :=
  let (result, outbox) :=
    EdgeOutbox.append .ok server.outbox topic payload idempotencyKey draw.event
  (result, { server with outbox })

def handle (numberText : Number → String) (server : EdgeServer) (request : EdgeRequest)
    (draw : RequestDraw) : Except String EdgeReply × EdgeServer :=
  match request with
  | .activate rideId =>
    let server := { server with safety := server.safety.activateRide rideId }
    let (result, server) :=
      server.append "edge.ride.activated" (.activated rideId) (activationKey rideId) draw
    (result.map .active, server)
  | .control input =>
    let (decision, safety) := server.safety.apply input draw.monotonicMs
    let server := { server with safety }
    if decision.accepted then (.ok (.decision decision), server)
    else
      let (result, server) :=
        server.append "edge.control.rejected" (.rejected input.rideId decision.reason)
          (controlKey numberText input decision.reason) draw
      (result.map fun _ => .decision decision, server)
  | .stopAll reason actorId =>
    let (decision, safety) := server.safety.stop reason
    let server := { server with safety }
    let (result, server) :=
      server.append "operator.stop_all" (.stopAll actorId reason decision) (stopKey draw.stopId)
        draw
    (result.map (.stopped decision), server)

/-- A request whose appends succeed, with a uuid that no earlier stop drew. -/
def Succeeds (numberText : Number → String) (server : EdgeServer)
    (served : EdgeRequest × RequestDraw) (after : EdgeServer) : Prop :=
  (∃ reply, server.handle numberText served.1 served.2 = (.ok reply, after)) ∧
    ∀ row ∈ server.outbox.rows, row.idempotencyKey ≠ stopKey served.2.stopId

end EdgeServer

/-! ## Replaying the log -/

/-- The active ride and the stop flag. -/
structure GateView where
  activeRideId : Option String
  operatorStop : Bool
  deriving DecidableEq

namespace GateView

def new : GateView := { activeRideId := none, operatorStop := false }

def ofGate (gate : EdgeSafetyGate) : GateView :=
  { activeRideId := gate.activeRideId, operatorStop := gate.operatorStop }

/-- What an event says about the gate. -/
def event (view : GateView) (event : EdgeEvent) : GateView :=
  if event.topic = "edge.ride.activated" then
    match event.payload with
    | .activated rideId => { activeRideId := some rideId, operatorStop := false }
    | _ => view
  else if event.topic = "operator.stop_all" then { view with operatorStop := true }
  else view

/-- The events in the order of their numbers. -/
def replay (outbox : EdgeOutbox EdgePayload) : GateView :=
  ((outbox.rows.map mapRow).mergeSort fun a b => a.producerSequence ≤ b.producerSequence).foldl
    event new

/-- What a request does to the gate. -/
def request (view : GateView) : EdgeRequest → GateView
  | .activate rideId => { activeRideId := some rideId, operatorStop := false }
  | .control _ => view
  | .stopAll _ _ => { view with operatorStop := true }

end GateView

/-! ## Sequences of requests -/

/-- The rides that the requests activate. -/
def activated (requests : List EdgeRequest) : List String :=
  requests.filterMap fun
    | .activate rideId => some rideId
    | _ => none

def EdgeRequest.isStop : EdgeRequest → Bool
  | .stopAll _ _ => true
  | _ => false

def stops (requests : List EdgeRequest) : Bool := requests.any EdgeRequest.isStop

/-- The ride activated last was not activated before; or it was, no other ride was activated for the
first time since, and a stop since then was followed by one after the last activation. -/
def Retold (requests : List EdgeRequest) : Prop :=
  ∀ rideId before after, requests = before ++ .activate rideId :: after → activated after = [] →
    rideId ∈ activated before →
      ∃ first between, before = first ++ .activate rideId :: between ∧
        rideId ∉ activated first ∧
        (∀ other ∈ activated between, other = rideId ∨ other ∈ activated first) ∧
        (stops between = true → stops after = true)

/-- The requests without the activations of a ride that was activated before. -/
def recordedAfter (seen : List String) : List EdgeRequest → List EdgeRequest
  | [] => []
  | .activate rideId :: rest =>
    if rideId ∈ seen then recordedAfter (seen ++ [rideId]) rest
    else .activate rideId :: recordedAfter (seen ++ [rideId]) rest
  | request :: rest => request :: recordedAfter seen rest

section Requests

variable {requests before after : List EdgeRequest} {seen : List String} {rideId : String}
  {view : GateView}

@[simp] theorem activated_append :
    activated (before ++ after) = activated before ++ activated after :=
  List.filterMap_append

@[simp] theorem activated_activate :
    activated (.activate rideId :: requests) = rideId :: activated requests := rfl

@[simp] theorem stops_append : stops (before ++ after) = (stops before || stops after) :=
  List.any_append

@[simp] theorem stops_activate : stops (.activate rideId :: requests) = stops requests := rfl

/-- Between two activations only a stop counts. -/
theorem foldl_request_of_not_activated (h : activated requests = []) :
    requests.foldl GateView.request view =
      { view with operatorStop := view.operatorStop || stops requests } := by
  induction requests generalizing view with
  | nil => simp [stops]
  | cons request requests ih =>
    cases request with
    | activate rideId => simp at h
    | control input => exact ih h
    | stopAll reason actorId =>
      rw [List.foldl_cons, ih h]
      simp [GateView.request, stops, EdgeRequest.isStop]

/-- The state is decided by the last activation and a stop after it. -/
theorem foldl_request_last (h : activated after = []) :
    (before ++ .activate rideId :: after).foldl GateView.request view =
      { activeRideId := some rideId, operatorStop := stops after } := by
  rw [List.foldl_append, List.foldl_cons, foldl_request_of_not_activated h]
  simp [GateView.request]

theorem exists_last_activation (h : activated requests ≠ []) :
    ∃ rideId before after, requests = before ++ .activate rideId :: after ∧
      activated after = [] := by
  induction requests with
  | nil => exact absurd rfl h
  | cons request requests ih =>
    by_cases hrest : activated requests = []
    · cases request with
      | activate rideId => exact ⟨rideId, [], requests, rfl, hrest⟩
      | control input => exact absurd hrest h
      | stopAll reason actorId => exact absurd hrest h
    · obtain ⟨rideId, before, after, rfl, hafter⟩ := ih hrest
      exact ⟨rideId, request :: before, after, rfl, hafter⟩

theorem recordedAfter_append :
    recordedAfter seen (before ++ after) =
      recordedAfter seen before ++ recordedAfter (seen ++ activated before) after := by
  induction before generalizing seen with
  | nil => simp [recordedAfter, activated]
  | cons request before ih =>
    cases request with
    | activate rideId =>
      rw [List.cons_append, recordedAfter, recordedAfter, ih]
      split <;> simp
    | control input => exact congrArg (_ :: ·) ih
    | stopAll reason actorId => exact congrArg (_ :: ·) ih

/-- Activations of rides that were all activated before leave no event. -/
theorem recordedAfter_of_seen (h : ∀ rideId ∈ activated requests, rideId ∈ seen) :
    activated (recordedAfter seen requests) = [] ∧
      stops (recordedAfter seen requests) = stops requests := by
  induction requests generalizing seen with
  | nil => exact ⟨rfl, rfl⟩
  | cons request requests ih =>
    cases request with
    | activate rideId =>
      rw [activated_activate] at h
      rw [recordedAfter, if_pos (h rideId List.mem_cons_self), stops_activate]
      exact ih fun other hother =>
        List.mem_append_left _ (h other (List.mem_cons_of_mem _ hother))
    | control input => exact ih h
    | stopAll reason actorId => exact ⟨(ih h).1, rfl⟩

theorem recordedAfter_of_not_activated (h : activated requests = []) :
    recordedAfter seen requests = requests := by
  induction requests with
  | nil => rfl
  | cons request requests ih =>
    cases request with
    | activate rideId => simp at h
    | control input => exact congrArg (_ :: ·) (ih h)
    | stopAll reason actorId => exact congrArg (_ :: ·) (ih h)

/-- The ride whose first activation came last. -/
theorem exists_last_first_activation (h : activated requests ≠ []) :
    ∃ rideId first between, requests = first ++ .activate rideId :: between ∧
      rideId ∉ activated first ∧
      ∀ other ∈ activated between, other = rideId ∨ other ∈ activated first := by
  induction requests using List.reverseRecOn with
  | nil => exact absurd rfl h
  | append_singleton requests request ih =>
    by_cases hnew : ∃ rideId, request = .activate rideId ∧ rideId ∉ activated requests
    · obtain ⟨rideId, rfl, hrideId⟩ := hnew
      exact ⟨rideId, requests, [], rfl, hrideId,
        fun other hother => absurd hother (by simp [activated])⟩
    · have hseen : ∀ other ∈ activated [request], other ∈ activated requests := by
        intro other hother
        cases request with
        | activate rideId =>
          obtain rfl : other = rideId := by simpa [activated] using hother
          by_contra hother'
          exact hnew ⟨other, rfl, hother'⟩
        | control input => simp [activated] at hother
        | stopAll reason actorId => simp [activated] at hother
      have hbefore : activated requests ≠ [] := by
        intro hempty
        refine h ?_
        rw [activated_append, hempty, List.nil_append]
        exact List.eq_nil_iff_forall_not_mem.2 fun other hother => by
          simpa [hempty] using hseen other hother
      obtain ⟨rideId, first, between, rfl, hfirst, hbetween⟩ := ih hbefore
      refine ⟨rideId, first, between ++ [request], by simp, hfirst, fun other hother => ?_⟩
      rw [activated_append, List.mem_append] at hother
      rcases hother with hother | hother
      · exact hbetween other hother
      · have := hseen other hother
        rw [activated_append, activated_activate, List.mem_append, List.mem_cons] at this
        rcases this with hother | rfl | hother
        · exact .inr hother
        · exact .inl rfl
        · exact hbetween other hother

/-- What was recorded up to the last first activation and after it. -/
theorem foldl_recorded_first {first between : List EdgeRequest}
    (hfirst : rideId ∉ activated first)
    (hbetween : ∀ other ∈ activated between, other = rideId ∨ other ∈ activated first)
    (hafter : activated after = []) :
    (recordedAfter [] (first ++ .activate rideId :: between) ++ after).foldl GateView.request .new =
      { activeRideId := some rideId, operatorStop := stops between || stops after } := by
  have hseen : ∀ other ∈ activated between, other ∈ activated first ++ [rideId] := by
    intro other hother
    rcases hbetween other hother with rfl | hother
    · simp
    · exact List.mem_append_left _ hother
  obtain ⟨hnone, hstops⟩ := recordedAfter_of_seen hseen
  rw [recordedAfter_append, List.nil_append, recordedAfter, if_neg hfirst, List.append_assoc,
    List.cons_append, foldl_request_last (by rw [activated_append, hnone, hafter]; rfl),
    stops_append, hstops]

/-- An activation of a known ride leaves the log at the ride whose first activation came last. -/
theorem recorded_again_iff (hbefore : rideId ∈ activated before) (hafter : activated after = []) :
    (recordedAfter [] before ++ after).foldl GateView.request .new =
      { activeRideId := some rideId, operatorStop := stops after } ↔
    ∃ first between, before = first ++ .activate rideId :: between ∧ rideId ∉ activated first ∧
      (∀ other ∈ activated between, other = rideId ∨ other ∈ activated first) ∧
      (stops between = true → stops after = true) := by
  constructor
  · intro hagree
    obtain ⟨last, first, between, rfl, hfirst, hbetween⟩ :=
      exists_last_first_activation (List.ne_nil_of_mem hbefore)
    rw [foldl_recorded_first hfirst hbetween hafter, GateView.mk.injEq, Option.some.injEq] at hagree
    obtain ⟨rfl, hstops⟩ := hagree
    refine ⟨first, between, rfl, hfirst, hbetween, fun hstopped => ?_⟩
    rw [← hstops, hstopped, Bool.true_or]
  · rintro ⟨first, between, rfl, hfirst, hbetween, hstops⟩
    rw [foldl_recorded_first hfirst hbetween hafter]
    cases hstopped : stops between with
    | false => rfl
    | true => rw [hstops hstopped, Bool.true_or]

/-- The recorded requests lead to the state of all of them exactly when they are retold. -/
theorem foldl_recorded_iff (requests : List EdgeRequest) :
    (recordedAfter [] requests).foldl GateView.request .new =
      requests.foldl GateView.request .new ↔ Retold requests := by
  by_cases hnone : activated requests = []
  · rw [recordedAfter_of_not_activated hnone]
    refine ⟨fun _ rideId before after heq _ _ => ?_, fun _ => rfl⟩
    rw [heq, activated_append, activated_activate] at hnone
    simp at hnone
  · have hview : ∀ rideId before after, requests = before ++ .activate rideId :: after →
        activated after = [] →
        ((recordedAfter [] requests).foldl GateView.request .new =
          requests.foldl GateView.request .new ↔
        (rideId ∈ activated before → ∃ first between,
          before = first ++ .activate rideId :: between ∧ rideId ∉ activated first ∧
          (∀ other ∈ activated between, other = rideId ∨ other ∈ activated first) ∧
          (stops between = true → stops after = true))) := by
      rintro rideId before after rfl hafter
      rw [foldl_request_last hafter, recordedAfter_append, List.nil_append]
      by_cases hbefore : rideId ∈ activated before
      · rw [recordedAfter, if_pos hbefore, recordedAfter_of_not_activated hafter]
        simp only [hbefore, forall_const]
        exact recorded_again_iff hbefore hafter
      · rw [recordedAfter, if_neg hbefore, recordedAfter_of_not_activated hafter,
          foldl_request_last hafter]
        simp [hbefore]
    constructor
    · intro hagree rideId before after heq hafter
      exact (hview rideId before after heq hafter).1 hagree
    · intro hretold
      obtain ⟨rideId, before, after, heq, hafter⟩ := exists_last_activation hnone
      exact (hview rideId before after heq hafter).2 (hretold rideId before after heq hafter)

end Requests

/-! ## What a request appends -/

theorem activationKey_inj {a b : String} : activationKey a = activationKey b ↔ a = b := by
  constructor
  · intro h
    have hchars := congrArg String.toList h
    simp only [activationKey, String.toList_append] at hchars
    exact String.toList_inj.1 (List.append_cancel_left (List.append_cancel_right hchars))
  · rintro rfl
    rfl

theorem stopKey_ne_activationKey (stopId rideId : String) :
    stopKey stopId ≠ activationKey rideId := by
  intro h
  have hchars := congrArg String.toList h
  simp [activationKey, stopKey] at hchars

theorem controlKey_ne_activationKey (numberText : Number → String) (input : ControlInput)
    (reason rideId : String) : controlKey numberText input reason ≠ activationKey rideId := by
  intro h
  have hchars := congrArg String.toList h
  simp [activationKey, controlKey] at hchars

/-- The rows after an append: as they were when the key is known, else one more. -/
def Records (topic : String) (payload : EdgePayload) (idempotencyKey : String)
    (rows after : List (EdgeOutboxRow EdgePayload)) : Prop :=
  (after = rows ∧ ∃ row ∈ rows, row.idempotencyKey = idempotencyKey) ∨
  ((∀ row ∈ rows, row.idempotencyKey ≠ idempotencyKey) ∧ ∃ row, after = rows ++ [row] ∧
    row.topic = topic ∧ row.payload = payload ∧ row.idempotencyKey = idempotencyKey)

/-- A server whose file is open and in order. -/
structure EdgeServer.Ready (server : EdgeServer) : Prop where
  ordered : server.outbox.Ordered
  isOpen : server.outbox.isOpen = true

section Append

variable {server after : EdgeServer} {topic : String} {payload : EdgePayload}
  {idempotencyKey : String} {draw : RequestDraw} {event : EdgeEvent}

theorem EdgeServer.Ready.append (h : server.Ready)
    (heq : server.append topic payload idempotencyKey draw = (.ok event, after)) :
    after.Ready ∧ after.safety = server.safety ∧
      Records topic payload idempotencyKey server.outbox.rows after.outbox.rows := by
  have hordered : EdgeOutbox.Ordered (EdgeOutbox.append .ok server.outbox topic payload
      idempotencyKey draw.event).2 :=
    h.ordered.call (.append topic payload idempotencyKey draw.event)
  unfold EdgeServer.append at heq
  rcases EdgeOutbox.append_cases .ok server.outbox topic payload idempotencyKey draw.event with
    ⟨error, happend⟩ | ⟨row, hrow, hkey, happend⟩ | ⟨hnew, text, table, htext, hinsert, happend⟩
  · rw [happend] at heq
    cases heq
  · rw [happend] at heq
    cases heq
    exact ⟨h, rfl, .inl ⟨rfl, row, hrow, hkey⟩⟩
  · rw [happend] at heq hordered
    cases heq
    cases htext
    exact ⟨⟨hordered, h.isOpen⟩, rfl,
      .inr ⟨hnew, _, (Table.insert?_eq_some hinsert).2, rfl, rfl, rfl⟩⟩

/-- A reply that is made of the appended event. -/
theorem append_of_map {ρ : Type} {result : Except String EdgeEvent × EdgeServer}
    {f : EdgeEvent → ρ} {reply : ρ} (heq : (result.1.map f, result.2) = (.ok reply, after)) :
    ∃ event, result = (.ok event, after) := by
  obtain ⟨result, server⟩ := result
  cases result with
  | error error => cases heq
  | ok event =>
    cases heq
    exact ⟨event, rfl⟩

variable {numberText : Number → String} {reply : EdgeReply}

theorem EdgeServer.Ready.activate (h : server.Ready) {rideId : String}
    (heq : server.handle numberText (.activate rideId) draw = (.ok reply, after)) :
    after.Ready ∧ after.safety = server.safety.activateRide rideId ∧
      Records "edge.ride.activated" (.activated rideId) (activationKey rideId)
        server.outbox.rows after.outbox.rows := by
  have hready : EdgeServer.Ready { server with safety := server.safety.activateRide rideId } :=
    ⟨h.ordered, h.isOpen⟩
  simp only [EdgeServer.handle] at heq
  obtain ⟨event, happend⟩ := append_of_map heq
  exact hready.append happend

/-- A control command leaves what an event can say of the gate as it is. -/
theorem view_apply (gate : EdgeSafetyGate) (input : ControlInput) (now : Number) :
    GateView.ofGate (gate.apply input now).2 = GateView.ofGate gate := by
  rcases gate.apply_cases input now with ⟨-, hgate⟩ | ⟨-, -, -, -, -, hgate⟩
  · rw [hgate]
  · rw [hgate]
    rfl

theorem EdgeServer.Ready.control (h : server.Ready) {input : ControlInput}
    (heq : server.handle numberText (.control input) draw = (.ok reply, after)) :
    after.Ready ∧ GateView.ofGate after.safety = GateView.ofGate server.safety ∧
      (after.outbox.rows = server.outbox.rows ∨ ∃ reason,
        Records "edge.control.rejected" (.rejected input.rideId reason)
          (controlKey numberText input reason) server.outbox.rows after.outbox.rows) := by
  have hview := view_apply server.safety input draw.monotonicMs
  unfold EdgeServer.handle at heq
  dsimp only at heq
  split at heq
  · cases heq
    exact ⟨⟨h.ordered, h.isOpen⟩, hview, .inl rfl⟩
  · have hready : EdgeServer.Ready
        { server with safety := (server.safety.apply input draw.monotonicMs).2 } :=
      ⟨h.ordered, h.isOpen⟩
    obtain ⟨event, happend⟩ := append_of_map heq
    obtain ⟨hafter, hsafety, hrecords⟩ := hready.append happend
    exact ⟨hafter, hsafety ▸ hview, .inr ⟨_, hrecords⟩⟩

theorem EdgeServer.Ready.stopAll (h : server.Ready) {reason actorId : String}
    (heq : server.handle numberText (.stopAll reason actorId) draw = (.ok reply, after)) :
    after.Ready ∧ after.safety = (server.safety.stop reason).2 ∧
      Records "operator.stop_all" (.stopAll actorId reason (server.safety.stop reason).1)
        (stopKey draw.stopId) server.outbox.rows after.outbox.rows := by
  have hready : EdgeServer.Ready { server with safety := (server.safety.stop reason).2 } :=
    ⟨h.ordered, h.isOpen⟩
  simp only [EdgeServer.handle] at heq
  obtain ⟨event, happend⟩ := append_of_map heq
  exact hready.append happend

end Append

/-! ## Runs -/

section Runs

variable {numberText : Number → String} {served : List (EdgeRequest × RequestDraw)}
  {server : EdgeServer}

/-- The state that the rows tell, one after the other. -/
def told (rows : List (EdgeOutboxRow EdgePayload)) : GateView :=
  (rows.map mapRow).foldl GateView.event .new

theorem told_snoc (rows : List (EdgeOutboxRow EdgePayload)) (row : EdgeOutboxRow EdgePayload) :
    told (rows ++ [row]) = (told rows).event (mapRow row) := by
  simp [told]

/-- What the log and the gate have to do with the requests so far. -/
structure Logged (requests : List EdgeRequest) (server : EdgeServer) : Prop where
  ready : server.Ready
  gate : GateView.ofGate server.safety = requests.foldl GateView.request .new
  log : told server.outbox.rows = (recordedAfter [] requests).foldl GateView.request .new
  keys : ∀ rideId, (∃ row ∈ server.outbox.rows, row.idempotencyKey = activationKey rideId) ↔
    rideId ∈ activated requests

theorem logged_start : Logged [] .start where
  ready := ⟨EdgeOutbox.ordered_new "edge-prague-neon", rfl⟩
  gate := rfl
  log := rfl
  keys := fun rideId => by simp [EdgeServer.start, EdgeOutbox.new, EdgeOutbox.rows, Table.empty,
    activated]

/-- A known key tells nothing new, a new one what its event says. -/
theorem told_records {topic : String} {payload : EdgePayload} {idempotencyKey : String}
    {rows after : List (EdgeOutboxRow EdgePayload)}
    (h : Records topic payload idempotencyKey rows after) :
    (told after = told rows ∧ ∃ row ∈ rows, row.idempotencyKey = idempotencyKey) ∨
    ((∀ row ∈ rows, row.idempotencyKey ≠ idempotencyKey) ∧ ∃ row : EdgeOutboxRow EdgePayload,
      told after = (told rows).event (mapRow row) ∧ row.topic = topic ∧ row.payload = payload) := by
  rcases h with ⟨rfl, hknown⟩ | ⟨hnew, row, rfl, htopic, hpayload, -⟩
  · exact .inl ⟨rfl, hknown⟩
  · exact .inr ⟨hnew, row, told_snoc rows row, htopic, hpayload⟩

/-- After an append a key is known when it was known before or is the appended one. -/
theorem keys_records {topic : String} {payload : EdgePayload} {idempotencyKey key : String}
    {rows after : List (EdgeOutboxRow EdgePayload)}
    (h : Records topic payload idempotencyKey rows after) :
    (∃ row ∈ after, row.idempotencyKey = key) ↔
      (∃ row ∈ rows, row.idempotencyKey = key) ∨ key = idempotencyKey := by
  rcases h with ⟨rfl, row, hrow, hkey⟩ | ⟨-, row, rfl, -, -, hkey⟩
  · constructor
    · exact .inl
    · rintro (hknown | rfl)
      · exact hknown
      · exact ⟨row, hrow, hkey⟩
  · simp only [List.mem_append, List.mem_singleton, or_and_right, exists_or, exists_eq_left, hkey]
    rw [eq_comm (a := key)]

theorem Logged.activate {requests : List EdgeRequest} (h : Logged requests server)
    {rideId : String} {draw : RequestDraw} {reply : EdgeReply} {after : EdgeServer}
    (heq : server.handle numberText (.activate rideId) draw = (.ok reply, after)) :
    Logged (requests ++ [.activate rideId]) after := by
  obtain ⟨hready, hsafety, hrecords⟩ := h.ready.activate heq
  constructor
  case ready => exact hready
  case gate =>
    rw [List.foldl_append, hsafety]
    rfl
  case log =>
    rw [recordedAfter_append, List.nil_append, recordedAfter, List.foldl_append, ← h.log]
    rcases told_records hrecords with ⟨htold, hknown⟩ | ⟨hnew, row, htold, htopic, hpayload⟩
    · rw [htold, if_pos ((h.keys rideId).1 hknown)]
      rfl
    · have hride : rideId ∉ activated requests := by
        intro hride
        obtain ⟨known, hmem, hkey⟩ := (h.keys rideId).2 hride
        exact hnew known hmem hkey
      have htopic' : (mapRow row).topic = "edge.ride.activated" := htopic
      have hpayload' : (mapRow row).payload = .activated rideId := hpayload
      rw [htold, if_neg hride, GateView.event, if_pos htopic', hpayload']
      rfl
  case keys =>
    intro other
    rw [keys_records hrecords, h.keys other, activationKey_inj, activated_append, List.mem_append]
    simp [activated]

theorem Logged.control {requests : List EdgeRequest} (h : Logged requests server)
    {input : ControlInput} {draw : RequestDraw} {reply : EdgeReply} {after : EdgeServer}
    (heq : server.handle numberText (.control input) draw = (.ok reply, after)) :
    Logged (requests ++ [.control input]) after := by
  obtain ⟨hready, hgate, hrows⟩ := h.ready.control heq
  have htold : told after.outbox.rows = told server.outbox.rows := by
    rcases hrows with hrows | ⟨reason, hrecords⟩
    · rw [hrows]
    · rcases told_records hrecords with ⟨htold, -⟩ | ⟨-, row, htold, htopic, -⟩
      · exact htold
      · have htopic' : (mapRow row).topic = "edge.control.rejected" := htopic
        rw [htold, GateView.event, htopic']
        rfl
  have hkeys : ∀ rideId, (∃ row ∈ after.outbox.rows, row.idempotencyKey = activationKey rideId) ↔
      ∃ row ∈ server.outbox.rows, row.idempotencyKey = activationKey rideId := by
    intro rideId
    rcases hrows with hrows | ⟨reason, hrecords⟩
    · rw [hrows]
    · rw [keys_records hrecords, or_iff_left (controlKey_ne_activationKey _ _ _ _).symm]
  constructor
  case ready => exact hready
  case gate =>
    rw [List.foldl_append, hgate, h.gate]
    rfl
  case log =>
    rw [recordedAfter_append, List.foldl_append, htold, h.log]
    rfl
  case keys =>
    intro rideId
    rw [hkeys, h.keys, activated_append]
    simp [activated]

/-- A stop draws a uuid of its own, so it is always recorded. -/
theorem Logged.stopAll {requests : List EdgeRequest} (h : Logged requests server)
    {reason actorId : String} {draw : RequestDraw} {reply : EdgeReply} {after : EdgeServer}
    (heq : server.handle numberText (.stopAll reason actorId) draw = (.ok reply, after))
    (hfresh : ∀ row ∈ server.outbox.rows, row.idempotencyKey ≠ stopKey draw.stopId) :
    Logged (requests ++ [.stopAll reason actorId]) after := by
  obtain ⟨hready, hsafety, hrecords⟩ := h.ready.stopAll heq
  constructor
  case ready => exact hready
  case gate =>
    rw [List.foldl_append, hsafety, ← h.gate]
    rfl
  case log =>
    rw [recordedAfter_append, List.foldl_append, ← h.log]
    rcases told_records hrecords with ⟨-, row, hrow, hkey⟩ | ⟨-, row, htold, htopic, -⟩
    · exact absurd hkey (hfresh row hrow)
    · have htopic' : (mapRow row).topic = "operator.stop_all" := htopic
      rw [htold, GateView.event, htopic']
      rfl
  case keys =>
    intro rideId
    rw [keys_records hrecords, or_iff_left (stopKey_ne_activationKey _ _).symm, h.keys,
      activated_append]
    simp [activated]

theorem logged_run (h : Run (EdgeServer.Succeeds numberText) .start served server) :
    Logged (served.map Prod.fst) server := by
  induction h with
  | nil => exact logged_start
  | snoc _ hstep ih =>
    obtain ⟨⟨reply, heq⟩, hfresh⟩ := hstep
    rename_i request _
    obtain ⟨request, draw⟩ := request
    rw [List.map_append]
    cases request with
    | activate rideId => exact ih.activate heq
    | control input => exact ih.control heq
    | stopAll reason actorId => exact ih.stopAll heq hfresh

/-- The rows of an open file are sorted, so the replay reads them one after the other. -/
theorem replay_eq_told (h : server.Ready) :
    GateView.replay server.outbox = told server.outbox.rows := by
  rw [GateView.replay, told, List.mergeSort_of_pairwise]
  rw [List.pairwise_map]
  exact h.ordered.sorted.imp fun hle => decide_eq_true hle

/-- **Main result.** Replaying the events gives the active ride and the stop flag of the gate
exactly when the requests are retold by their first activations. -/
theorem eventLog_agrees_iff (h : Run (EdgeServer.Succeeds numberText) .start served server) :
    GateView.replay server.outbox = GateView.ofGate server.safety ↔
      Retold (served.map Prod.fst) := by
  have hlogged := logged_run h
  rw [replay_eq_told hlogged.ready, hlogged.log, hlogged.gate]
  exact foldl_recorded_iff _

end Runs

/-- A request as the server answers it. -/
def EdgeServer.serve (numberText : Number → String) (server : EdgeServer)
    (served : EdgeRequest × RequestDraw) : EdgeServer :=
  (server.handle numberText served.1 served.2).2

theorem succeeds_serve {numberText : Number → String} {server : EdgeServer}
    {served : EdgeRequest × RequestDraw}
    (hok : (server.handle numberText served.1 served.2).1.toBool = true)
    (hfresh : ∀ row ∈ server.outbox.rows, row.idempotencyKey ≠ stopKey served.2.stopId) :
    server.Succeeds numberText served (server.serve numberText served) := by
  refine ⟨?_, hfresh⟩
  unfold EdgeServer.serve
  generalize server.handle numberText served.1 served.2 = answered at hok ⊢
  obtain ⟨error | reply, after⟩ := answered
  · cases hok
  · exact ⟨reply, rfl⟩

/-- The requests with one uuid each. -/
def drawn (requests : List EdgeRequest) : List (EdgeRequest × RequestDraw) :=
  requests.zipIdx.map fun (request, n) =>
    (request,
      { event := { id := toString (2 * n), monotonicNs := n }, stopId := toString (2 * n + 1) })

/-- A ride, a stop and another ride. -/
def twoRides : List EdgeRequest :=
  [.activate "ride-a", .stopAll "track obstruction" "operator", .activate "ride-b"]

/-- A ride, a stop and the same ride. -/
def sameRide : List EdgeRequest :=
  [.activate "ride-a", .stopAll "track obstruction" "operator", .activate "ride-a"]

theorem twoRides_retold :
    ∃ server, Run (EdgeServer.Succeeds fun _ => "") .start (drawn twoRides) server ∧
      GateView.replay server.outbox = GateView.ofGate server.safety := by
  have hrun : Run (EdgeServer.Succeeds fun _ => "") .start (drawn twoRides)
      ((drawn twoRides).foldl (EdgeServer.serve fun _ => "") .start) :=
    .cons (succeeds_serve (by decide +kernel) (by decide +kernel))
      (.cons (succeeds_serve (by decide +kernel) (by decide +kernel))
        (.cons (succeeds_serve (by decide +kernel) (by decide +kernel)) .nil))
  have hretold : Retold ((drawn twoRides).map Prod.fst) :=
    (foldl_recorded_iff _).1 (by decide +kernel)
  exact ⟨_, hrun, (eventLog_agrees_iff hrun).2 hretold⟩

/-- A ride that is activated again after a stop: the gate is open, the log says it is stopped. -/
theorem reactivated_not_told :
    ∃ server, Run (EdgeServer.Succeeds fun _ => "") .start (drawn sameRide) server ∧
      GateView.replay server.outbox = { activeRideId := some "ride-a", operatorStop := true } ∧
      GateView.ofGate server.safety = { activeRideId := some "ride-a", operatorStop := false } := by
  have hrun : Run (EdgeServer.Succeeds fun _ => "") .start (drawn sameRide)
      ((drawn sameRide).foldl (EdgeServer.serve fun _ => "") .start) :=
    .cons (succeeds_serve (by decide +kernel) (by decide +kernel))
      (.cons (succeeds_serve (by decide +kernel) (by decide +kernel))
        (.cons (succeeds_serve (by decide +kernel) (by decide +kernel)) .nil))
  refine ⟨_, hrun, ?_, by decide +kernel⟩
  rw [replay_eq_told (logged_run hrun).ready]
  decide +kernel

end RcOnline.Edge
