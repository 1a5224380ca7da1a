import RcOnline.Edge.Safety
import RcOnline.Lib.Coercion

/-!
# Control commands of any shape

The control route of `apps/edge/src/main.ts` declares no schema, so the gate compares and clamps
whatever a body holds. On the bodies that the types promise it is the gate of `Safety`
(`apply_typed`). Every guard is a comparison that rejects, and a value that does not compare gets
through: the decisions are safe throughout a run where no command that gets through lacks a numeric
sequence, a time that compares or axes that are numbers (`safe_run`).
-/

namespace RcOnline.Edge

open RcOnline.Lib

/-- The fields of a parsed object. -/
abbrev Body := List (String × Json)

/-- A field of a body, none when it is undefined. -/
def Body.get (body : Body) (name : String) : Option Json := (Json.object body).field? name

/-- `EdgeSafetyGate`, with the values that it really holds. -/
structure BodyGate where
  operatorStop : Bool
  activeRideId : Option Json
  lastSequence : Option Json

namespace BodyGate

/-- A gate as it is constructed. -/
def new : BodyGate :=
  { operatorStop := false, activeRideId := some .null,
    lastSequence := some (.number (.ofInt (-1))) }

def activateRide (_gate : BodyGate) (rideId : Option Json) : BodyGate :=
  { operatorStop := false, activeRideId := rideId,
    lastSequence := some (.number (.ofInt (-1))) }

def stop (gate : BodyGate) (reason : String) : SafetyDecision × BodyGate :=
  ({ accepted := false, steering := .ofInt 0, throttle := .ofInt 0, brake := .ofInt 1000,
     reason := "operator_stop:" ++ reason },
    { gate with operatorStop := true })

/-- `Math.max(low, Math.min(high, x))`. -/
def clamp (low high : Int) (x : Number) : Number :=
  (Number.ofInt low).max ((Number.ofInt high).min x)

/-- The decision that carries a command on; none when an axis throws. -/
def carry (c : Coercion) (body : Body) : Option SafetyDecision :=
  (c.toNumber (body.get "steering")).bind fun steering =>
    (c.toNumber (body.get "throttle")).bind fun throttle =>
      (c.toNumber (body.get "brake")).map fun brake =>
        { accepted := true, steering := clamp (-1000) 1000 steering,
          throttle := clamp 0 1000 throttle, brake := clamp 0 1000 brake, reason := "accepted" }

/-- `apply`; without a decision it throws. -/
def apply (c : Coercion) (gate : BodyGate) (body : Body) (nowMonotonicMs : Number) :
    Option SafetyDecision × BodyGate :=
  if gate.operatorStop then
    let (decision, gate) := gate.stop "latched"
    (some decision, gate)
  else if Json.strictEquals (body.get "rideId") gate.activeRideId = false then
    (some (EdgeSafetyGate.neutral "ride_mismatch"), gate)
  else
    match c.atMost (body.get "sequence") gate.lastSequence with
    | none => (none, gate)
    | some true => (some (EdgeSafetyGate.neutral "stale_or_replayed_sequence"), gate)
    | some false =>
      match c.toNumber (body.get "receivedMonotonicMs") with
      | none => (none, gate)
      | some receivedMonotonicMs =>
        if (Number.ofInt 100).lt (nowMonotonicMs.sub receivedMonotonicMs) then
          (some (EdgeSafetyGate.neutral "stale_command"), gate)
        else
          -- the counter moves before the axes are read
          (carry c body, { gate with lastSequence := body.get "sequence" })

end BodyGate

/-! ## Typed bodies -/

namespace ControlInput

/-- The body that the route's type promises. -/
def body (input : ControlInput) : Body :=
  [("rideId", .string input.rideId), ("sequence", .number input.sequence),
    ("steering", .number input.steering), ("throttle", .number input.throttle),
    ("brake", .number input.brake), ("receivedMonotonicMs", .number input.receivedMonotonicMs)]

end ControlInput

namespace BodyGate

variable {c : Coercion}

/-- The gate of typed bodies. -/
def ofTyped (gate : EdgeSafetyGate) : BodyGate :=
  { operatorStop := gate.operatorStop
    activeRideId := some (gate.activeRideId.elim .null .string)
    lastSequence := some (.number gate.lastSequence) }

theorem strictEquals_typed (rideId : String) (activeRideId : Option String) :
    Json.strictEquals (some (.string rideId)) (some (activeRideId.elim .null .string)) = true ↔
      some rideId = activeRideId := by
  cases activeRideId with
  | none => exact iff_of_false nofun nofun
  | some active => exact decide_eq_true_iff.trans Option.some_inj.symm

/-- **Refinement.** On typed bodies the gate is the typed one, and throws nothing. -/
theorem apply_typed (gate : EdgeSafetyGate) (input : ControlInput) (nowMonotonicMs : Number) :
    (ofTyped gate).apply c input.body nowMonotonicMs =
      (some (gate.apply input nowMonotonicMs).1, ofTyped (gate.apply input nowMonotonicMs).2) := by
  have hride : Json.strictEquals (input.body.get "rideId") (ofTyped gate).activeRideId = true ↔
      some input.rideId = gate.activeRideId := strictEquals_typed input.rideId gate.activeRideId
  have hsequence : c.atMost (input.body.get "sequence") (ofTyped gate).lastSequence =
      some (input.sequence.le gate.lastSequence) := c.atMost_number _ _
  have hreceived : c.toNumber (input.body.get "receivedMonotonicMs") =
      some input.receivedMonotonicMs := c.toNumber_number _
  have hcarry : carry c input.body = some
      { accepted := true, steering := clamp (-1000) 1000 input.steering,
        throttle := clamp 0 1000 input.throttle, brake := clamp 0 1000 input.brake,
        reason := "accepted" } := rfl
  unfold apply EdgeSafetyGate.apply
  rw [hsequence, hreceived, hcarry]
  by_cases hstop : gate.operatorStop = true
  · rw [if_pos hstop, if_pos (show (ofTyped gate).operatorStop = true from hstop)]
    rfl
  rw [if_neg hstop, if_neg (show ¬ (ofTyped gate).operatorStop = true from hstop)]
  by_cases hsame : some input.rideId = gate.activeRideId
  · rw [if_neg (not_not.2 hsame), if_neg (by simp [hride.2 hsame])]
    cases input.sequence.le gate.lastSequence with
    | true => rfl
    | false =>
      rw [if_neg Bool.false_ne_true]
      by_cases hstale : EdgeSafetyGate.staleCommand input nowMonotonicMs = true
      · rw [if_pos hstale]
        exact if_pos hstale
      · rw [if_neg hstale]
        exact if_neg hstale
  · rw [if_pos hsame, if_pos (by rwa [← hride, Bool.not_eq_true] at hsame)]

end BodyGate

/-! ## Commands that get through -/

/-- A command that no guard keeps out. -/
structure Through (c : Coercion) (gate : BodyGate) (body : Body) (nowMonotonicMs : Number) :
    Prop where
  running : gate.operatorStop = false
  ride : Json.strictEquals (body.get "rideId") gate.activeRideId = true
  sequence : c.atMost (body.get "sequence") gate.lastSequence = some false
  time : ∃ receivedMonotonicMs, c.toNumber (body.get "receivedMonotonicMs") =
    some receivedMonotonicMs ∧
    (Number.ofInt 100).lt (nowMonotonicMs.sub receivedMonotonicMs) = false

/-- What the guards take for granted: of a sequence in any case, as the counter moves to it, and of
the rest when no axis throws. -/
structure Plain (c : Coercion) (body : Body) (nowMonotonicMs : Number) : Prop where
  sequence : ∃ n, body.get "sequence" = some (.number n) ∧ n ≠ .nan
  time : BodyGate.carry c body ≠ none → ∀ receivedMonotonicMs,
    c.toNumber (body.get "receivedMonotonicMs") = some receivedMonotonicMs →
      nowMonotonicMs.sub receivedMonotonicMs ≠ .nan
  axes : BodyGate.carry c body ≠ none →
    ∀ name ∈ ["steering", "throttle", "brake"], c.toNumber (body.get name) ≠ some .nan

/-- Full brake. -/
structure Neutral (decision : SafetyDecision) : Prop where
  steering : decision.steering = .ofInt 0
  throttle : decision.throttle = .ofInt 0
  brake : decision.brake = .ofInt 1000

namespace BodyGate

variable {c : Coercion}

/-- A command is rejected, or throws before the counter moves, or gets through. -/
theorem apply_cases (gate : BodyGate) (body : Body) (nowMonotonicMs : Number) :
    (∃ decision, gate.apply c body nowMonotonicMs = (some decision, gate) ∧
      decision.accepted = false ∧ Neutral decision) ∨
    gate.apply c body nowMonotonicMs = (none, gate) ∨
    (Through c gate body nowMonotonicMs ∧ gate.apply c body nowMonotonicMs =
      (carry c body, { gate with lastSequence := body.get "sequence" })) := by
  unfold apply
  split
  · next hstop =>
    refine .inl ⟨(gate.stop "latched").1, ?_, rfl, rfl, rfl, rfl⟩
    rw [stop, ← hstop]
  · next hstop =>
    split
    · exact .inl ⟨_, rfl, rfl, rfl, rfl, rfl⟩
    · next hride =>
      split
      · exact .inr (.inl rfl)
      · exact .inl ⟨_, rfl, rfl, rfl, rfl, rfl⟩
      · next hsequence =>
        split
        · exact .inr (.inl rfl)
        · next receivedMonotonicMs hreceived =>
          split
          · exact .inl ⟨_, rfl, rfl, rfl, rfl, rfl⟩
          · next hstale =>
            exact .inr (.inr ⟨⟨Bool.eq_false_iff.2 hstop, Bool.not_eq_false _ ▸ hride, hsequence,
              receivedMonotonicMs, hreceived, Bool.eq_false_iff.2 hstale⟩, rfl⟩)

theorem clamp_bounds {x : Number} (hx : x ≠ .nan) (low high : Int) (h : low ≤ high) :
    ∃ q : ℚ, clamp low high x = .finite q ∧ low ≤ q ∧ q ≤ high := by
  have hbounds : (low : ℚ) ≤ high := Int.cast_le.2 h
  unfold clamp
  cases x with
  | nan => exact absurd rfl hx
  | posInf =>
    refine ⟨high, ?_, hbounds, le_rfl⟩
    simp [Number.min, Number.max, Number.ofInt, Number.le, hbounds]
  | negInf =>
    refine ⟨low, ?_, le_rfl, hbounds⟩
    simp [Number.min, Number.max, Number.ofInt, Number.le]
  | finite q =>
    rw [Number.ofInt, Number.ofInt, Number.min_finite, Number.max_finite]
    exact ⟨_, rfl, le_max_left _ _, max_le hbounds (min_le_left _ _)⟩

/-- The axes of an accepted decision are in range. -/
theorem carry_bounds {body : Body} {decision : SafetyDecision}
    (haxes : ∀ name ∈ ["steering", "throttle", "brake"], c.toNumber (body.get name) ≠ some .nan)
    (h : carry c body = some decision) :
    (∃ q : ℚ, decision.steering = .finite q ∧ -1000 ≤ q ∧ q ≤ 1000) ∧
      (∃ q : ℚ, decision.throttle = .finite q ∧ 0 ≤ q ∧ q ≤ 1000) ∧
      (∃ q : ℚ, decision.brake = .finite q ∧ 0 ≤ q ∧ q ≤ 1000) ∧ decision.accepted = true := by
  obtain ⟨steering, hsteering, h⟩ := Option.bind_eq_some_iff.1 h
  obtain ⟨throttle, hthrottle, h⟩ := Option.bind_eq_some_iff.1 h
  obtain ⟨brake, hbrake, rfl⟩ := Option.map_eq_some_iff.1 h
  have hnumber : ∀ name ∈ ["steering", "throttle", "brake"], ∀ x,
      c.toNumber (body.get name) = some x → x ≠ .nan := by
    rintro name hname x hx rfl
    exact haxes name hname hx
  refine ⟨?_, ?_, ?_, rfl⟩
  · have h := clamp_bounds (hnumber _ (by simp) _ hsteering) (-1000) 1000 (by decide)
    exact_mod_cast h
  · have h := clamp_bounds (hnumber _ (by simp) _ hthrottle) 0 1000 (by decide)
    exact_mod_cast h
  · have h := clamp_bounds (hnumber _ (by simp) _ hbrake) 0 1000 (by decide)
    exact_mod_cast h

end BodyGate

/-! ## Runs -/

inductive BodyCall where
  | activate (rideId : Option Json)
  | stopAll (reason : String)
  | control (body : Body) (monotonicNs : Int)

/-- `Number(process.hrtime.bigint() / 1_000_000n)`. -/
def monotonicMs (monotonicNs : Int) : Number := .round (monotonicNs.tdiv 1000000)

/-- A gate with the ride that was activated last, and the sequences accepted since. -/
structure BodyRun where
  gate : BodyGate
  rideId : Option Json
  accepted : List (Option Json)

namespace BodyRun

open BodyGate

variable {c : Coercion} {run : BodyRun}

def activate (gate : BodyGate) (rideId : Option Json) : BodyRun :=
  { gate := gate.activateRide rideId, rideId, accepted := [] }

def call (c : Coercion) (run : BodyRun) : BodyCall → BodyRun
  | .activate rideId => activate run.gate rideId
  | .stopAll reason => { run with gate := (run.gate.stop reason).2 }
  | .control body monotonicNs =>
    let (decision, gate) := run.gate.apply c body (monotonicMs monotonicNs)
    { run with
      gate
      accepted := if decision.any (·.accepted) then run.accepted ++ [body.get "sequence"]
        else run.accepted }

/-- What an accepted decision promises. -/
structure Carried (c : Coercion) (run : BodyRun) (body : Body) (nowMonotonicMs : Number)
    (decision : SafetyDecision) : Prop where
  ride : body.get "rideId" = run.rideId
  steering : ∃ q : ℚ, decision.steering = .finite q ∧ -1000 ≤ q ∧ q ≤ 1000
  throttle : ∃ q : ℚ, decision.throttle = .finite q ∧ 0 ≤ q ∧ q ≤ 1000
  brake : ∃ q : ℚ, decision.brake = .finite q ∧ 0 ≤ q ∧ q ≤ 1000
  recent : ∃ receivedMonotonicMs, c.toNumber (body.get "receivedMonotonicMs") =
    some receivedMonotonicMs ∧
    (nowMonotonicMs.sub receivedMonotonicMs).le (.ofInt 100) = true
  sequence : ∃ n, body.get "sequence" = some (.number n) ∧ n ≠ .nan ∧
    ∀ earlier ∈ run.accepted, ∃ m, earlier = some (.number m) ∧ m.lt n = true

/-- Every decision of a command is safe. -/
def Safe (c : Coercion) (run : BodyRun) : BodyCall → Prop
  | .control body monotonicNs => ∀ decision,
    (run.gate.apply c body (monotonicMs monotonicNs)).1 = some decision →
      if decision.accepted then Carried c run body (monotonicMs monotonicNs) decision
      else Neutral decision
  | _ => True

/-- A command that gets through has what the guards take for granted. -/
def Careful (c : Coercion) (run : BodyRun) : BodyCall → Prop
  | .control body monotonicNs => Through c run.gate body (monotonicMs monotonicNs) →
    Plain c body (monotonicMs monotonicNs)
  | _ => True

/-- The counter is a number, and at least every accepted sequence. -/
structure Counted (run : BodyRun) : Prop where
  ride : run.gate.activeRideId = run.rideId
  counter : ∃ last, run.gate.lastSequence = some (.number last) ∧ last ≠ .nan ∧
    ∀ earlier ∈ run.accepted, ∃ m, earlier = some (.number m) ∧ m.le last = true

theorem counted_activate (gate : BodyGate) (rideId : Option Json) :
    (activate gate rideId).Counted := ⟨rfl, .ofInt (-1), rfl, nofun, nofun⟩

/-- A command that gets through is above the counter. -/
theorem Counted.above (h : run.Counted) {body : Body} {now : Number}
    (hthrough : Through c run.gate body now) (hplain : Plain c body now) :
    ∃ n, body.get "sequence" = some (.number n) ∧ n ≠ .nan ∧
      ∀ earlier ∈ run.accepted, ∃ m, earlier = some (.number m) ∧ m.lt n = true := by
  obtain ⟨last, hlast, hnumber, hbelow⟩ := h.counter
  obtain ⟨n, hn, hnan⟩ := hplain.sequence
  have hpast := hthrough.sequence
  rw [hn, hlast, c.atMost_number] at hpast
  refine ⟨n, hn, hnan, fun earlier hearlier => ?_⟩
  obtain ⟨m, rfl, hm⟩ := hbelow earlier hearlier
  exact ⟨m, rfl, Number.lt_of_le_of_not_le hnumber hnan hm (Option.some.inj hpast)⟩

theorem Counted.safe (h : run.Counted) {call : BodyCall} (hcareful : Careful c run call) :
    Safe c run call := by
  cases call with
  | activate | stopAll => trivial
  | control body monotonicNs =>
    intro decision hdecision
    rcases run.gate.apply_cases (c := c) body (monotonicMs monotonicNs) with
      ⟨_, heq, hrejected, hneutral⟩ | heq | ⟨hthrough, heq⟩
    · rw [heq] at hdecision
      obtain rfl := Option.some.inj hdecision
      rwa [if_neg (by rw [hrejected]; exact Bool.false_ne_true)]
    · rw [heq] at hdecision
      cases hdecision
    · have hplain := hcareful hthrough
      rw [heq] at hdecision
      have hcarried : carry c body ≠ none := Option.ne_none_iff_exists'.2 ⟨decision, hdecision⟩
      obtain ⟨hsteering, hthrottle, hbrake, haccepted⟩ :=
        carry_bounds (hplain.axes hcarried) hdecision
      rw [if_pos haccepted]
      obtain ⟨received, hreceived, hrecent⟩ := hthrough.time
      refine ⟨?_, hsteering, hthrottle, hbrake, ⟨received, hreceived, ?_⟩, h.above hthrough hplain⟩
      · rw [← h.ride]
        exact Json.eq_of_strictEquals hthrough.ride
      · exact Number.le_of_not_lt nofun (hplain.time hcarried received hreceived) hrecent

/-- A careful command leaves the counter at its sequence, or where it is. -/
theorem Counted.call (h : run.Counted) {call : BodyCall} (hcareful : Careful c run call) :
    (run.call c call).Counted := by
  cases call with
  | activate rideId => exact counted_activate run.gate rideId
  | stopAll => exact ⟨h.ride, h.counter⟩
  | control body monotonicNs =>
    dsimp only [BodyRun.call]
    rcases run.gate.apply_cases (c := c) body (monotonicMs monotonicNs) with
      ⟨_, heq, hrejected, -⟩ | heq | ⟨hthrough, heq⟩
    · rw [heq]
      simp only [Option.any_some, hrejected]
      exact h
    · rw [heq]
      exact h
    · rw [heq]
      obtain ⟨n, hn, hnan, habove⟩ := h.above hthrough (hcareful hthrough)
      refine ⟨h.ride, n, hn, hnan, fun earlier hearlier => ?_⟩
      dsimp only at hearlier
      split at hearlier
      · rcases List.mem_append.1 hearlier with hearlier | hearlier
        · obtain ⟨m, rfl, hm⟩ := habove earlier hearlier
          exact ⟨m, rfl, (Bool.and_eq_true_iff.1 hm).1⟩
        · rw [List.mem_singleton.1 hearlier]
          exact ⟨n, hn, Number.le_refl hnan⟩
      · obtain ⟨m, rfl, hm⟩ := habove earlier hearlier
        exact ⟨m, rfl, (Bool.and_eq_true_iff.1 hm).1⟩

/-- **Main result.** From an activation on, the decisions are safe throughout a run in which every
command that gets through is plain. -/
theorem safe_run (gate : BodyGate) (rideId : Option Json) (calls : List BodyCall)
    (h : Throughout (BodyRun.call c) (Careful c) (activate gate rideId) calls) :
    Throughout (BodyRun.call c) (Safe c) (activate gate rideId) calls :=
  h.imp (fun _ _ hcounted hcareful => hcounted.safe hcareful)
    (fun _ _ hcounted hcareful => hcounted.call hcareful) (counted_activate gate rideId)

/-- A host that reads no text as a number. -/
def plainCoercion : Coercion where
  numberText _ := "0"
  textNumber _ := .nan

/-- The gate of the demo ride. -/
def demoRun : BodyRun := activate .new (some (.string "ride-a"))

theorem monotonicMs_demo : monotonicMs 1001000000 = .ofInt 1001 :=
  Number.round_intCast (n := 1001) (by decide)

theorem demoCommand_plain (sequence : Int) :
    Plain plainCoercion (demoCommand sequence).body (monotonicMs 1001000000) := by
  refine ⟨⟨.ofInt sequence, rfl, nofun⟩, fun _ received hreceived => ?_, fun _ => ?_⟩
  · obtain rfl := Option.some.inj hreceived
    have hage : (Number.ofInt 1001).sub (.ofInt 1000) = .ofInt 1 := Number.sub_ofInt (by decide)
    rw [monotonicMs_demo]
    change (Number.ofInt 1001).sub (.ofInt 1000) ≠ .nan
    rw [hage]
    nofun
  · intro name hname
    rcases List.mem_cons.1 hname with rfl | hname
    · nofun
    rcases List.mem_cons.1 hname with rfl | hname
    · nofun
    obtain rfl := List.mem_singleton.1 hname
    nofun

/-- The demo ride's commands are carried on, one after the other. -/
theorem demoCommands_safe :
    Throughout (BodyRun.call plainCoercion) (Safe plainCoercion) demoRun
      [.control (demoCommand 1).body 1001000000, .control (demoCommand 2).body 1001000000] :=
  safe_run .new (some (.string "ride-a")) _
    ⟨fun _ => demoCommand_plain 1, fun _ => demoCommand_plain 2, trivial⟩

/-- A body that names the ride and nothing else. -/
def bareBody : Body := [("rideId", .string "ride-a")]

/-- The bare body is carried on, again and again, without a number on any axis. -/
theorem bareBody_not_safe :
    demoRun.gate.apply plainCoercion bareBody (monotonicMs 1001000000) =
        (some ⟨true, .nan, .nan, .nan, "accepted"⟩, { demoRun.gate with lastSequence := none }) ∧
      ¬ Safe plainCoercion demoRun (.control bareBody 1001000000) := by
  have happly : demoRun.gate.apply plainCoercion bareBody (monotonicMs 1001000000) =
      (some ⟨true, .nan, .nan, .nan, "accepted"⟩, { demoRun.gate with lastSequence := none }) := by
    rw [monotonicMs_demo]
    rfl
  refine ⟨happly, fun hsafe => ?_⟩
  have hcarried := hsafe _ (congrArg Prod.fst happly)
  rw [if_pos rfl] at hcarried
  obtain ⟨q, hq, -⟩ := hcarried.steering
  cases hq

end BodyRun

end RcOnline.Edge
