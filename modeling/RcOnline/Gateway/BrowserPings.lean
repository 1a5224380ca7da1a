import RcOnline.Gateway.UpdateOffers
import RcOnline.Lib.Heartbeat
import RcOnline.Lib.Rounding

/-!
# Browser pings

The ping timer keeps of each browser the first ping that it has not answered, and terminates it at a
round ten seconds or more after that ping, by a difference that is rounded: to one socket, the
server is a watcher (`step_mark`). So a browser that has stopped answering is gone within fifteen
seconds when the rounds are five seconds apart, but not when they come a little early
(`silent_cut_iff`, `earlyRounds_not_cut`); twenty seconds are always enough
(`cutBy_twenty_seconds`).
-/

namespace RcOnline.Gateway

open RcOnline.Lib RcOnline.Schema

namespace Server

variable {config : GatewayConfig} (s : Server) (number : Nat) (socket : Peer)

/-! ## What leaves the pings alone -/

@[simp] theorem act_browserPings (action : PeerAction) :
    (s.act action).browserPings = s.browserPings := by
  cases action with
  | send peer message =>
    unfold act
    dsimp only
    split <;> rfl
  | close peer code reason => exact (s.updateConnection_rest peer _).2.1

@[simp] theorem perform_browserPings (actions : List PeerAction) :
    (s.perform actions).browserPings = s.browserPings := by
  induction actions generalizing s with
  | nil => rfl
  | cons action actions ih => exact (ih (s.act action)).trans (s.act_browserPings action)

@[simp] theorem await_browserPings (call : StoreRequest) (next : Continuation) :
    (s.await number socket call next).browserPings = s.browserPings := rfl

@[simp] theorem finish_browserPings : (s.finish number).browserPings = s.browserPings := rfl

@[simp] theorem endDriveSession_browserPings (sessionId : Uuid) (reason : String) (now : Int)
    (next : Continuation) :
    (s.endDriveSession number socket sessionId reason now next).browserPings = s.browserPings :=
  rfl

@[simp] theorem fail_browserPings : (s.fail number socket).browserPings = s.browserPings :=
  s.perform_browserPings _

@[simp] theorem reject_browserPings (reason : String) (code : Nat) (closeReason : String) :
    (s.reject number socket reason code closeReason).browserPings = s.browserPings :=
  s.perform_browserPings _

@[simp] theorem updateConnection_browserPings (f : Connection → Connection) :
    (s.updateConnection socket f).browserPings = s.browserPings :=
  (s.updateConnection_rest socket f).2.1

@[simp] theorem offerPendingUpdate_browserPings (device : AuthenticatedDevice) (now : Int) :
    (s.offerPendingUpdate number socket device now).browserPings = s.browserPings := by
  unfold offerPendingUpdate
  split
  · rfl
  · split <;> rfl

theorem authenticate_browserPings (message : ClientMessage) (now : Int) :
    (s.authenticate config number socket message now).browserPings = s.browserPings := by
  unfold authenticate
  split
  · rfl
  · split
    · exact s.fail_browserPings number socket
    · rfl
  · exact s.reject_browserPings number socket _ _ _

theorem afterRelay_browserPings (message : RelayMessage) (now : Int)
    (result : Bool × SessionRegistry × List PeerAction) :
    (s.afterRelay number socket message now result).browserPings = s.browserPings := by
  unfold afterRelay
  split
  · exact s.fail_browserPings number socket
  · dsimp only
    split <;> simp

theorem receive_browserPings (message : ClientMessage) (now : Int) :
    (s.receive number socket message now).browserPings = s.browserPings := by
  unfold receive
  split
  · rfl
  · rfl
  · exact s.afterRelay_browserPings number socket _ now _
  · exact s.afterRelay_browserPings number socket _ now _
  · split
    · rfl
    · exact s.fail_browserPings number socket
  · simp

theorem onMessage_browserPings (message : Option ClientMessage) (now : Int) :
    (s.onMessage config number socket message now).browserPings = s.browserPings := by
  unfold onMessage
  split
  · exact s.fail_browserPings number socket
  · split
    · exact s.authenticate_browserPings number socket _ now
    · exact s.receive_browserPings number socket _ now

theorem onAuthenticated_browserPings (device : Option AuthenticatedDevice) (now : Int) :
    (s.onAuthenticated number socket device now).browserPings = s.browserPings := by
  unfold onAuthenticated
  split
  · simp
  · simp [(s.registerDevice_rest socket _).2.1]

theorem onPresenceSet_browserPings (health : DeviceHealth) (now : Int) :
    (s.onPresenceSet number socket health now).browserPings = s.browserPings := by
  unfold onPresenceSet
  split <;> simp

theorem onMarkedActive_browserPings (marked : Bool) (startedAt : Int) :
    (s.onMarkedActive number socket marked startedAt).browserPings = s.browserPings := by
  unfold onMarkedActive
  split
  · simp
  · split
    · dsimp only
      split <;> simp
    · simp

theorem closeBrowser_browserPings (now : Int) :
    (s.closeBrowser number socket now).browserPings = s.browserPings := by
  unfold closeBrowser
  split <;> simp

theorem disconnect_browserPings (now : Int) :
    (s.disconnect number socket now).browserPings = s.browserPings := by
  unfold disconnect
  split <;> rfl

theorem releaseDevice_browserPings (device : AuthenticatedDevice) (now : Int) :
    (s.releaseDevice number socket device now).browserPings = s.browserPings := by
  unfold releaseDevice
  dsimp only
  split
  · simp
  · rw [disconnect_browserPings]
    simp

theorem onClose_browserPings {s : Server} {number : Nat} {socket : Peer} {now : Int}
    (h : s.closed? socket ≠ some true) :
    (s.onClose number socket now).browserPings = s.browserPings.delete socket := by
  have hmark := (s.markClosed_rest socket).2.1
  unfold onClose
  rw [if_neg h]
  dsimp only
  split
  · exact (closeBrowser_browserPings _ number socket now).trans hmark
  · split
    · exact (releaseDevice_browserPings _ number socket _ now).trans hmark
    · exact (closeBrowser_browserPings _ number socket now).trans hmark

/-! ## How long a ping is out -/

/-- An older ping is out longer, although the difference is rounded. -/
theorem oldestFirst_pendingTooLong : Beat.OldestFirst pendingTooLong := by
  intro since since' now hle hlate
  exact Number.le_trans hlate (Number.round_le_round (sub_le_sub_left hle now))

theorem pendingTooLong_of_le {since now : ℚ} (h : since + 10000 ≤ now) :
    pendingTooLong since now = true := by
  have hround := Number.round_intCast (n := 10000) (by decide)
  have hmono := Number.round_le_round (le_sub_iff_add_le'.2 h)
  push_cast at hround
  rwa [hround] at hmono

theorem pendingTooLong_of_ge {since now : ℚ} (h : now ≤ since + 9999) :
    pendingTooLong since now = false := by
  have hround := Number.round_intCast (n := 9999) (by decide)
  have hmono := Number.round_le_round (sub_le_iff_le_add'.2 h)
  push_cast at hround
  rw [hround] at hmono
  rw [Bool.eq_false_iff]
  intro hlate
  have hle := Number.le_trans hlate hmono
  revert hle
  decide

/-! ## The mark of a socket -/

/-- What the next event is to the pings of a socket. -/
def beat (config : GatewayConfig) (socket : Peer) : Event → Beat ℚ
  | .reply number (.authorized (some _)) now =>
    match s.handlers.get? number with
    | some ⟨other, _, .authorized ticket⟩ =>
      if other = socket ∧ (config.iceServers ticket.sessionId now).isSome = true ∧
          s.sessions.attachable ticket.sessionId ticket.carId = true then .watch
      else .other
    | _ => .other
  | .pong other => if other = socket then .answer else .other
  | .close other _ _ =>
    if other = socket ∧ s.closed? socket ≠ some true then .unwatch else .other
  | .pingBrowsers now failing => .tick now (decide (socket ∈ failing))
  | _ => .other

variable {s socket}

theorem onAuthorized_browserPings {other : Peer} {ticket : BrowserTicket} {expiresAt : Option Int}
    {now : Int} :
    (s.onAuthorized config number other ticket expiresAt now).browserPings =
      if expiresAt.isSome = true ∧ (config.iceServers ticket.sessionId now).isSome = true ∧
          s.sessions.attachable ticket.sessionId ticket.carId = true then
        s.browserPings.set other none
      else s.browserPings := by
  unfold onAuthorized
  split
  · simp
  · next expiresAt =>
    split
    · next hice => simp [hice]
    · next iceServers hice =>
      by_cases hattachable : s.sessions.attachable ticket.sessionId ticket.carId = true
      · obtain ⟨-, -, -, hattached, -⟩ := SessionRegistry.attachBrowser_of
          { sessionId := ticket.sessionId, carId := ticket.carId, userId := ticket.sub, expiresAt
            iceServers } other now hattachable
        dsimp only
        rw [if_pos hattached, if_pos ⟨rfl, by rw [hice]; rfl, hattachable⟩, finish_browserPings,
          perform_browserPings, (registerBrowser_rest _ other ticket.sessionId).2.1,
          perform_browserPings]
      · rw [SessionRegistry.attachBrowser_of_not (Bool.eq_false_iff.2 hattachable)]
        simp [hattachable]

theorem pingBrowser_mark (now : ℚ) (failing : List Peer) {ping : Option ℚ}
    (h : s.browserPings.get? socket = some ping) :
    (pingBrowser now failing s (socket, ping)).browserPings.get? socket =
      Beat.next pendingTooLong (some ping) (.tick now (decide (socket ∈ failing))) := by
  unfold pingBrowser Beat.next
  dsimp only
  rw [Option.bind_some]
  by_cases hlate : (ping.any fun pendingSince => pendingTooLong pendingSince now) = true
  · simp [hlate]
  · by_cases hfails : socket ∈ failing
    · simp [hfails]
    · cases ping with
      | none => simp [hfails]
      | some pendingSince =>
        rw [if_neg hlate, if_neg hfails, if_neg nofun, if_neg (by simp [hlate, hfails])]
        exact h

theorem pingBrowsers_mark (s : Server) (socket : Peer) (now : ℚ) (failing : List Peer) :
    (s.pingBrowsers now failing).browserPings.get? socket =
      Beat.next pendingTooLong (s.browserPings.get? socket)
        (.tick now (decide (socket ∈ failing))) := by
  have hothers : ∀ (entries : List (Peer × Option ℚ)) (s : Server),
      socket ∉ entries.map Prod.fst →
      (entries.foldl (pingBrowser now failing) s).browserPings.get? socket =
        s.browserPings.get? socket := by
    intro entries
    induction entries with
    | nil => exact fun _ _ => rfl
    | cons entry entries ih =>
      intro s hnot
      rw [List.map_cons, List.mem_cons, not_or] at hnot
      exact (ih _ hnot.2).trans (pingBrowser_get? now failing s (Ne.symm hnot.1))
  unfold pingBrowsers
  cases hping : s.browserPings.get? socket with
  | none =>
    rw [hothers, hping]
    · rfl
    · rintro hmem
      obtain ⟨⟨_, ping⟩, hentry, rfl⟩ := List.mem_map.1 hmem
      rw [OrdMap.mem_entries_iff.1 hentry] at hping
      cases hping
  | some ping =>
    -- its own round is the one that touches it
    obtain ⟨earlier, later, hentries⟩ := List.append_of_mem (OrdMap.mem_entries_iff.2 hping)
    have hnodup := s.browserPings.nodup
    rw [hentries, List.map_append, List.map_cons] at hnodup
    obtain ⟨-, hlater, hdisjoint⟩ := List.nodup_append.1 hnodup
    rw [hentries, List.foldl_append, List.foldl_cons, hothers later _ (List.nodup_cons.1 hlater).1]
    refine pingBrowser_mark now failing ?_
    rw [hothers earlier s fun hmem => hdisjoint _ hmem _ List.mem_cons_self rfl, hping]

theorem resume_mark {handler : Handler} {reply : Reply} {now : Int} {t : Server}
    (hhandler : s.handlers.get? number = some handler)
    (h : s.resume config number handler reply now = some t) :
    t.browserPings.get? socket = Beat.next pendingTooLong (s.browserPings.get? socket)
      (s.beat config socket (.reply number reply now)) := by
  obtain ⟨other, call, next⟩ := handler
  unfold resume at h
  dsimp only at h
  split at h <;> try obtain rfl := Option.some.inj h
  · rw [onAuthenticated_browserPings]
    rfl
  · rw [finish_browserPings, perform_browserPings]
    rfl
  · next ticket expiresAt =>
    rw [onAuthorized_browserPings]
    cases expiresAt with
    | none => rfl
    | some expiresAt =>
      unfold beat
      dsimp only
      rw [hhandler]
      dsimp only
      by_cases hattached : (config.iceServers ticket.sessionId now).isSome = true ∧
          s.sessions.attachable ticket.sessionId ticket.carId = true
      · rw [if_pos ⟨rfl, hattached⟩]
        by_cases hsocket : other = socket
        · rw [if_pos ⟨hsocket, hattached⟩, hsocket, OrdMap.get?_set_self]
          rfl
        · rw [if_neg fun h => hsocket h.1, OrdMap.get?_set_of_ne _ _ hsocket]
          rfl
      · rw [if_neg fun h => hattached h.2, if_neg fun h => hattached h.2]
        rfl
  · rw [reject_browserPings]
    rfl
  · rw [fail_browserPings]
    rfl
  · rfl
  · rw [onPresenceSet_browserPings]
    rfl
  · split
    · rfl
    · rw [fail_browserPings]
      rfl
  · rfl
  · rw [onMarkedActive_browserPings]
    rfl
  · rw [fail_browserPings]
    rfl
  · rw [disconnect_browserPings]
    rfl
  · rw [disconnect_browserPings]
    rfl
  · rw [closeBrowser_browserPings]
    rfl
  · rw [closeBrowser_browserPings]
    rfl
  · rfl
  · rfl
  · rw [fail_browserPings]
    rfl
  · cases h

theorem pong_mark {other : Peer} {t : Server} (h : s.step config (.pong other) = some t) :
    t.browserPings.get? socket =
      Beat.next pendingTooLong (s.browserPings.get? socket)
        (s.beat config socket (.pong other)) := by
  obtain rfl := Option.some.inj h
  unfold beat
  dsimp only
  by_cases hsocket : other = socket
  · subst hsocket
    rw [if_pos rfl]
    cases hping : s.browserPings.get? other with
    | none => simp [OrdMap.has, hping, Beat.next]
    | some ping => simp [OrdMap.has, hping, Beat.next]
  · rw [if_neg hsocket]
    split
    · exact OrdMap.get?_set_of_ne _ _ hsocket
    · rfl

theorem onClose_mark (other : Peer) (now : Int) :
    (s.onClose number other now).browserPings.get? socket =
      Beat.next pendingTooLong (s.browserPings.get? socket)
        (s.beat config socket (.close other number now)) := by
  unfold beat
  dsimp only
  by_cases hclosed : s.closed? other = some true
  · rw [onClose, if_pos hclosed, if_neg fun h => h.2 (h.1 ▸ hclosed)]
    rfl
  · rw [onClose_browserPings hclosed]
    by_cases hsocket : other = socket
    · subst hsocket
      rw [if_pos ⟨rfl, hclosed⟩, OrdMap.get?_delete_self]
      rfl
    · rw [if_neg fun h => hsocket h.1, OrdMap.get?_delete_of_ne _ hsocket]
      rfl

/-- Every step does to the mark of a socket what its beat says. -/
theorem step_mark (socket : Peer) {event : Event} {t : Server}
    (h : s.step config event = some t) :
    t.browserPings.get? socket =
      Beat.next pendingTooLong (s.browserPings.get? socket) (s.beat config socket event) := by
  cases event with
  | connect other =>
    obtain ⟨-, heq⟩ := Option.ite_none_left_eq_some.1 h
    obtain rfl := Option.some.inj heq
    rfl
  | message other number message now =>
    obtain ⟨-, heq⟩ := Option.ite_none_right_eq_some.1 h
    obtain rfl := Option.some.inj heq
    rw [s.onMessage_browserPings number other message now]
    rfl
  | reply number reply now =>
    obtain ⟨handler, hhandler, hresume⟩ := Option.bind_eq_some_iff.1 h
    exact resume_mark number hhandler hresume
  | pong other => exact pong_mark h
  | closing other =>
    obtain rfl := Option.some.inj h
    rw [updateConnection_browserPings]
    rfl
  | close other number now =>
    obtain ⟨-, heq⟩ := Option.ite_none_right_eq_some.1 h
    obtain rfl := Option.some.inj heq
    exact onClose_mark number other now
  | authenticationTimeout other =>
    obtain ⟨-, heq⟩ := Option.ite_none_right_eq_some.1 h
    obtain rfl := Option.some.inj heq
    unfold onAuthenticationTimeout
    dsimp only
    split
    · rw [perform_browserPings, updateConnection_browserPings]
      rfl
    · rw [updateConnection_browserPings]
      rfl
  | sweep now =>
    obtain rfl := Option.some.inj h
    exact congrArg (OrdMap.get? · socket) (perform_browserPings _ _)
  | pingBrowsers now failing =>
    obtain rfl := Option.some.inj h
    exact s.pingBrowsers_mark socket now failing

/-! ## Runs by the clock -/

/-- The time of a round of the ping timer. -/
def pingTime? : Event → Option ℚ
  | .pingBrowsers now _ => some now
  | _ => none

/-- The rounds of the ping timer. -/
def pingTimes (events : List (ℚ × Event)) : List ℚ := events.filterMap fun e => pingTime? e.2

/-- A step at a reading of `performance.now()`, which the ping timer reads too. -/
def ClockedStep (config : GatewayConfig) (s : Server) (e : ℚ × Event) (t : Server) : Prop :=
  s.step config e.2 = some t ∧ ∀ now, pingTime? e.2 = some now → now = e.1

/-- What the events of a run are to the pings of a socket. -/
def beats (config : GatewayConfig) (socket : Peer) : Server → List (ℚ × Event) → List (Beat ℚ)
  | _, [] => []
  | s, e :: events =>
    s.beat config socket e.2 ::
      match s.step config e.2 with
      | none => []
      | some t => beats config socket t events

variable {t : Server} {events : List (ℚ × Event)}

theorem beats_cons {e : ℚ × Event} (h : s.step config e.2 = some t) :
    s.beats config socket (e :: events) =
      s.beat config socket e.2 :: t.beats config socket events := by
  rw [beats, h]

theorem beats_append {events' : List (ℚ × Event)} (h : Run (ClockedStep config) s events t) :
    s.beats config socket (events ++ events') =
      s.beats config socket events ++ t.beats config socket events' := by
  induction h generalizing events' with
  | nil => rfl
  | snoc _ hs ih =>
    rw [List.append_assoc, ih, ih, List.singleton_append, beats_cons hs.1, beats_cons hs.1,
      List.append_assoc]
    rfl

theorem beats_snoc {e : ℚ × Event} (h : Run (ClockedStep config) s events t)
    {u : Server} (hs : ClockedStep config t e u) :
    s.beats config socket (events ++ [e]) =
      s.beats config socket events ++ [t.beat config socket e.2] := by
  rw [beats_append h, beats_cons hs.1]
  rfl

theorem run_mark (socket : Peer) (h : Run (ClockedStep config) s events t) :
    t.browserPings.get? socket =
      (s.beats config socket events).foldl (Beat.next pendingTooLong)
        (s.browserPings.get? socket) := by
  induction h with
  | nil => rfl
  | snoc hrun hs ih =>
    rw [beats_snoc hrun hs, List.foldl_append, ← ih]
    exact step_mark socket hs.1

/-- An answer is a pong of the socket. -/
theorem event_of_answer {event : Event} (h : s.beat config socket event = .answer) :
    event = .pong socket := by
  unfold beat at h
  split at h
  · split at h
    · split at h <;> cases h
    · cases h
  · split at h
    · next hsocket => rw [hsocket]
    · cases h
  · split at h <;> cases h
  · cases h
  · cases h

theorem time?_beat (s : Server) (event : Event) :
    (s.beat config socket event).time? = pingTime? event := by
  unfold beat
  split
  · split
    · split <;> rfl
    · rfl
  · split <;> rfl
  · split <;> rfl
  · rfl
  · next hping =>
    cases event with
    | pingBrowsers now failing => exact absurd rfl (hping now failing)
    | _ => rfl

/-- The ticks of a socket are the rounds of the timer. -/
theorem times_beats (socket : Peer) (h : Run (ClockedStep config) s events t) :
    Beat.times (s.beats config socket events) = pingTimes events := by
  induction h with
  | nil => rfl
  | snoc hrun hs ih =>
    rw [beats_snoc hrun hs, Beat.times, List.filterMap_append, pingTimes, List.filterMap_append]
    refine congrArg₂ _ ih ?_
    rw [List.filterMap_cons, List.filterMap_cons, time?_beat]
    rfl

theorem pingTime?_eq (h : Run (ClockedStep config) s events t) {e : ℚ × Event} (he : e ∈ events)
    {now : ℚ} (hnow : pingTime? e.2 = some now) : now = e.1 := by
  induction h with
  | nil => cases he
  | snoc _ hs ih =>
    rcases List.mem_append.1 he with he | he
    · exact ih he
    · obtain rfl := List.mem_singleton.1 he
      exact hs.2 now hnow

theorem pingTimes_sublist (h : Run (ClockedStep config) s events t) :
    (pingTimes events).Sublist (events.map Prod.fst) := by
  induction h with
  | nil => exact .slnil
  | snoc _ hs ih =>
    rw [pingTimes, List.filterMap_append, List.map_append]
    refine ih.append ?_
    rw [List.filterMap_cons]
    split
    · exact List.nil_sublist _
    · next now hnow =>
      rw [hs.2 now hnow]
      exact List.Sublist.refl _

/-- A run up to any of its beats. -/
theorem run_of_beats_prefix {before : List (Beat ℚ)} (h : Run (ClockedStep config) s events t)
    (hinit : before <+: s.beats config socket events) :
    ∃ before' u, before' <+: events ∧ Run (ClockedStep config) s before' u ∧
      s.beats config socket before' = before := by
  induction h with
  | nil =>
    obtain rfl := List.prefix_nil.1 hinit
    exact ⟨[], s, List.nil_prefix, .nil, rfl⟩
  | snoc hrun hs ih =>
    rw [beats_snoc hrun hs, List.prefix_concat_iff] at hinit
    rcases hinit with rfl | hinit
    · exact ⟨_, _, List.prefix_rfl, hrun.snoc hs, beats_snoc hrun hs⟩
    · obtain ⟨before', u, hbefore, hrun', hbeats⟩ := ih hinit
      exact ⟨before', u, hbefore.trans (List.prefix_append _ _), hrun', hbeats⟩

/-- The socket does not answer. -/
theorem answer_not_mem (h : Run (ClockedStep config) s events t)
    (hsilent : ∀ e ∈ events, e.2 ≠ .pong socket) :
    .answer ∉ s.beats config socket events := by
  induction h with
  | nil => exact List.not_mem_nil
  | snoc hrun hs ih =>
    rw [beats_snoc hrun hs, List.mem_append, List.mem_singleton, not_or]
    refine ⟨ih fun e he => hsilent e (List.mem_append_left _ he), fun hanswer => ?_⟩
    exact hsilent _ (List.mem_append_right _ List.mem_cons_self) (event_of_answer hanswer.symm)

/-! ## Deadlines -/

/-- The socket is terminated or removed by a deadline. -/
def CutBy (config : GatewayConfig) (socket : Peer) (s : Server) (events : List (ℚ × Event))
    (deadline : ℚ) : Prop :=
  ∃ before u, before <+: events ∧ (∀ e ∈ before, e.1 ≤ deadline) ∧
    Run (ClockedStep config) s before u ∧ u.browserPings.has socket = false

/-- The events up to a deadline. -/
def upTo (deadline : ℚ) (events : List (ℚ × Event)) : List (ℚ × Event) :=
  events.takeWhile fun e => e.1 ≤ deadline

theorem prefix_upTo {before : List (ℚ × Event)} {deadline : ℚ} :
    before <+: upTo deadline events ↔
      before <+: events ∧ ∀ e ∈ before, e.1 ≤ deadline := by
  constructor
  · intro hinit
    refine ⟨hinit.trans (List.takeWhile_prefix _), fun e he => ?_⟩
    have hle := List.mem_takeWhile_imp (hinit.subset he)
    exact of_decide_eq_true hle
  · rintro ⟨⟨rest, rfl⟩, hdeadline⟩
    rw [upTo, List.takeWhile_append_of_pos fun e he => decide_eq_true (hdeadline e he)]
    exact List.prefix_append _ _

/-- A run stops at a deadline. -/
theorem run_upTo (h : Run (ClockedStep config) s events t) (deadline : ℚ) :
    ∃ u, Run (ClockedStep config) s (upTo deadline events) u := by
  obtain ⟨rest, heq⟩ : upTo deadline events <+: events := List.takeWhile_prefix _
  rw [← heq] at h
  obtain ⟨u, hrun, -⟩ := h.split
  exact ⟨u, hrun⟩

theorem cutBy_iff {deadline : ℚ} (h : Run (ClockedStep config) s events t) :
    s.CutBy config socket events deadline ↔
      Beat.Cut pendingTooLong (s.browserPings.get? socket)
        (s.beats config socket (upTo deadline events)) := by
  constructor
  · rintro ⟨before, u, hinit, hdeadline, hrun, hgone⟩
    obtain ⟨rest, heq⟩ := prefix_upTo.2 ⟨hinit, hdeadline⟩
    refine ⟨s.beats config socket before, ?_, ?_⟩
    · rw [← heq, beats_append hrun]
      exact List.prefix_append _ _
    · rw [← run_mark socket hrun]
      exact OrdMap.has_eq_false_iff.1 hgone
  · rintro ⟨before, hinit, hnone⟩
    obtain ⟨_, hupTo⟩ := run_upTo h deadline
    obtain ⟨before', u, hbefore, hrun, rfl⟩ := run_of_beats_prefix hupTo hinit
    obtain ⟨hbefore, hdeadline⟩ := prefix_upTo.1 hbefore
    refine ⟨before', u, hbefore, hdeadline, hrun, OrdMap.has_eq_false_iff.2 ?_⟩
    rw [run_mark socket hrun, hnone]

/-- A ping without an answer went out at an earlier event. -/
theorem time_of_pending {since : ℚ} (h : Run (ClockedStep config) empty events s)
    (hpending : s.browserPings.get? socket = some (some since)) :
    since ∈ events.map Prod.fst := by
  rw [run_mark socket h] at hpending
  obtain ⟨before, fails, after, heq, -⟩ := Beat.tick_of_marked hpending
  refine (pingTimes_sublist h).subset ?_
  rw [← times_beats socket h]
  refine List.mem_filterMap.2 ⟨.tick since fails, ?_, rfl⟩
  rw [heq]
  exact List.mem_append_right _ List.mem_cons_self

/-- A socket that the timer pings stops answering. -/
structure FallsSilent (config : GatewayConfig) (socket : Peer) (time : ℚ)
    (before after : List (ℚ × Event)) (s : Server) : Prop where
  past : Run (ClockedStep config) empty before s
  future : ∃ t, Run (ClockedStep config) s after t
  ordered : ((before ++ after).map Prod.fst).Pairwise (· ≤ ·)
  before_le : ∀ e ∈ before, e.1 ≤ time
  lt_after : ∀ e ∈ after, time < e.1
  watched : s.browserPings.has socket = true
  silent : ∀ e ∈ after, e.2 ≠ .pong socket

theorem cutBy_iff_overdue {time deadline : ℚ} {before after : List (ℚ × Event)}
    (h : FallsSilent config socket time before after s) :
    s.CutBy config socket after deadline ↔
      (∃ beat ∈ s.beats config socket (upTo deadline after), beat.Drops) ∨
        Beat.Overdue pendingTooLong (s.browserPings.get? socket).join.toList
          (s.beats config socket (upTo deadline after)) := by
  obtain ⟨first, hfirst⟩ := OrdMap.has_iff.1 h.watched
  obtain ⟨t, hfuture⟩ := h.future
  obtain ⟨u, hupTo⟩ := run_upTo hfuture deadline
  have hordered := h.ordered
  rw [List.map_append] at hordered
  obtain ⟨-, hafter, hacross⟩ := List.pairwise_append.1 hordered
  have hsublist : (Beat.times (s.beats config socket (upTo deadline after))).Sublist
      (after.map Prod.fst) := by
    rw [times_beats socket hupTo]
    exact (pingTimes_sublist hupTo).trans ((List.takeWhile_sublist _).map Prod.fst)
  have hsilent : .answer ∉ s.beats config socket (upTo deadline after) :=
    answer_not_mem hupTo fun e he => h.silent e ((List.takeWhile_sublist _).subset he)
  rw [cutBy_iff hfuture, hfirst, Option.join_some]
  have hsorted : (first.toList ++ Beat.times
      (s.beats config socket (upTo deadline after))).Pairwise (· ≤ ·) := by
    refine List.pairwise_append.2 ⟨?_, hafter.sublist hsublist, fun since hsince now hnow => ?_⟩
    · cases first <;> simp
    · obtain rfl := Option.mem_toList.1 hsince
      exact hacross since (time_of_pending h.past hfirst) now (hsublist.subset hnow)
  have hhead : first = first.toList.head? := by cases first <;> rfl
  have hcut : Beat.Cut pendingTooLong _ _ ↔ _ :=
    Beat.cut_iff oldestFirst_pendingTooLong hsilent hsorted
  rwa [← hhead] at hcut

/-! ## What the timer guarantees -/

/-- From a time on, the rounds come at positive gaps of at most five seconds. -/
def ScheduledFrom (time : ℚ) (events : List (ℚ × Event)) : Prop :=
  (time :: pingTimes events).IsChain fun tick next => tick < next ∧ next ≤ tick + 5000

/-- The rounds up to a deadline. -/
theorem mem_pingTimes_upTo {deadline now : ℚ} (h : Run (ClockedStep config) s events t)
    (hordered : (events.map Prod.fst).Pairwise (· ≤ ·)) (hnow : now ∈ pingTimes events)
    (hdeadline : now ≤ deadline) : now ∈ pingTimes (upTo deadline events) := by
  obtain ⟨e, he, hping⟩ := List.mem_filterMap.1 hnow
  obtain ⟨earlier, later, rfl⟩ := List.append_of_mem he
  refine List.mem_filterMap.2 ⟨e, ?_, hping⟩
  rw [List.map_append, List.map_cons] at hordered
  have hearlier : earlier ++ [e] <+: upTo deadline (earlier ++ e :: later) := by
    refine prefix_upTo.2 ⟨⟨later, List.append_assoc earlier [e] later⟩, fun e' he' => ?_⟩
    rw [← pingTime?_eq h he hping] at hordered
    rcases List.mem_append.1 he' with hmem | hmem
    · have hle := (List.pairwise_append.1 hordered).2.2 _ (List.mem_map_of_mem hmem) now
        List.mem_cons_self
      exact hle.trans hdeadline
    · obtain rfl := List.mem_singleton.1 hmem
      rwa [← pingTime?_eq h he hping]
  exact hearlier.subset (List.mem_append_right _ List.mem_cons_self)

/-- A round ten seconds or more after the first one terminates the socket, unless it authenticates
again. -/
theorem cutBy_of_round {time deadline first now : ℚ} {before after : List (ℚ × Event)}
    {ticks : List ℚ} (h : FallsSilent config socket time before after s)
    (hwatch : .watch ∉ s.beats config socket (upTo deadline after))
    (hticks : pingTimes after = first :: ticks) (hnow : now ∈ ticks)
    (hten : first + 10000 ≤ now) (hdeadline : now ≤ deadline) :
    s.CutBy config socket after deadline := by
  obtain ⟨t, hfuture⟩ := h.future
  obtain ⟨u, hupTo⟩ := run_upTo hfuture deadline
  rw [cutBy_iff_overdue h]
  by_cases hdrops : ∃ beat ∈ s.beats config socket (upTo deadline after), beat.Drops
  · exact .inl hdrops
  have hunbroken : Beat.Unbroken (s.beats config socket (upTo deadline after)) :=
    ⟨answer_not_mem hupTo fun e he => h.silent e ((List.takeWhile_sublist _).subset he), hwatch,
      fun hunwatch => hdrops ⟨.unwatch, hunwatch, .inl rfl⟩⟩
  have hreached : now ∈ pingTimes (upTo deadline after) := by
    refine mem_pingTimes_upTo hfuture (h.ordered.sublist ?_) ?_ hdeadline
    · rw [List.map_append]
      exact List.sublist_append_right _ _
    · rw [hticks]
      exact List.mem_cons_of_mem _ hnow
  obtain ⟨later, hlater⟩ : upTo deadline after <+: after := List.takeWhile_prefix _
  rw [← hlater, pingTimes, List.filterMap_append, ← pingTimes] at hticks
  cases hwindow : pingTimes (upTo deadline after) with
  | nil =>
    rw [hwindow] at hreached
    cases hreached
  | cons first' ticks' =>
    rw [hwindow, List.cons_append] at hticks
    obtain ⟨rfl, -⟩ := List.cons.inj hticks
    rw [hwindow] at hreached
    have hnow' : now ∈ ticks' := by
      refine (List.mem_cons.1 hreached).resolve_left fun heq => ?_
      linarith
    refine .inr (Beat.overdue_of_first hunbroken ?_ hnow' (pendingTooLong_of_le hten))
    rw [times_beats socket hupTo, hwindow]

/-- Fifteen seconds are enough when the rounds are five seconds apart. -/
theorem cutBy_fifteen_seconds {time first : ℚ} {before after : List (ℚ × Event)} {ticks : List ℚ}
    (h : FallsSilent config socket time before after s)
    (hwatch : .watch ∉ s.beats config socket (upTo (time + 15000) after))
    (hticks : pingTimes after = first :: (first + 5000) :: (first + 10000) :: ticks)
    (hfirst : first ≤ time + 5000) : s.CutBy config socket after (time + 15000) := by
  refine cutBy_of_round h hwatch hticks ?_ le_rfl (by linarith)
  exact List.mem_cons_of_mem _ List.mem_cons_self

/-- Twenty seconds are always enough. -/
theorem cutBy_twenty_seconds {time last : ℚ} {before after : List (ℚ × Event)}
    (h : FallsSilent config socket time before after s)
    (hwatch : .watch ∉ s.beats config socket (upTo (time + 20000) after))
    (hscheduled : ScheduledFrom time after) (hmem : last ∈ pingTimes after)
    (hlast : time + 15000 ≤ last) : s.CutBy config socket after (time + 20000) := by
  cases hticks : pingTimes after with
  | nil =>
    rw [hticks] at hmem
    cases hmem
  | cons first ticks =>
    rw [ScheduledFrom, hticks] at hscheduled
    obtain ⟨⟨-, hfirst⟩, hchain⟩ := List.isChain_cons_cons.1 hscheduled
    have hlater : last ∈ ticks := by
      rw [hticks] at hmem
      refine (List.mem_cons.1 hmem).resolve_left fun heq => ?_
      linarith
    obtain ⟨now, hnow, hten, hfifteen⟩ := Beat.exists_tick (hchain.imp fun _ _ hgap => hgap.2)
      (lt_add_of_pos_right first (by norm_num : (0 : ℚ) < 10000)) hlater (by linarith)
    exact cutBy_of_round h hwatch hticks hnow hten (by linarith)

/-- The timer never terminates the socket. -/
def NeverTerminated (config : GatewayConfig) (socket : Peer) (events : List (ℚ × Event)) : Prop :=
  ∀ before e after now failing u v, events = before ++ e :: after →
    e.2 = .pingBrowsers now failing → Run (ClockedStep config) empty before u →
    ClockedStep config u e v → u.browserPings.has socket = true →
    v.browserPings.has socket = true

theorem neverTerminated (h : Beat.Answered pendingTooLong (empty.beats config socket events)) :
    NeverTerminated config socket events := by
  rintro before e after now failing u v rfl hevent hrun hstep hwatched
  have hmark := step_mark socket hstep.1
  rw [beats_append hrun, beats_cons hstep.1] at h
  rw [hevent] at h hmark
  have hmarked : u.browserPings.get? socket =
      (empty.beats config socket before).foldl (Beat.next pendingTooLong) none :=
    run_mark socket hrun
  have hwatched' :
      (empty.beats config socket before).foldl (Beat.next pendingTooLong) none ≠ none := by
    obtain ⟨first, hfirst⟩ := OrdMap.has_iff.1 hwatched
    rw [← hmarked, hfirst]
    exact Option.some_ne_none first
  have hkept := Beat.kept_of_answered h hwatched'
  obtain ⟨first, hfirst⟩ := Option.ne_none_iff_exists'.1 hkept
  refine OrdMap.has_iff.2 ⟨first, ?_⟩
  rw [hmark, hmarked]
  exact hfirst

/-- **Main result.** A socket that stops answering is terminated or removed within fifteen seconds
if and only if it closes or cannot be pinged, or two of its pings are ten seconds apart by then. A
socket that answers every ping before the next one is never terminated. -/
theorem silent_cut_iff {time : ℚ} {before after : List (ℚ × Event)}
    (h : FallsSilent config socket time before after s) :
    (s.CutBy config socket after (time + 15000) ↔
        (∃ beat ∈ s.beats config socket (upTo (time + 15000) after), beat.Drops) ∨
          Beat.Overdue pendingTooLong (s.browserPings.get? socket).join.toList
            (s.beats config socket (upTo (time + 15000) after))) ∧
      ∀ other events, Beat.Answered pendingTooLong (empty.beats config other events) →
        NeverTerminated config other events :=
  ⟨cutBy_iff_overdue h, fun _ _ => neverTerminated⟩

/-! ## A driver that falls silent -/

/-- Rounds of the timer in which every ping goes out. -/
def rounds (times : List ℚ) : List (ℚ × Event) := times.map fun now => (now, .pingBrowsers now [])

theorem run_rounds (config : GatewayConfig) (s : Server) (times : List ℚ) :
    ∃ t, Run (ClockedStep config) s (rounds times) t := by
  induction times generalizing s with
  | nil => exact ⟨s, .nil⟩
  | cons now times ih =>
    obtain ⟨t, hrun⟩ := ih (s.pingBrowsers now [])
    exact ⟨t, .cons ⟨rfl, fun now' hnow => (Option.some.inj hnow).symm⟩ hrun⟩

theorem beats_rounds (config : GatewayConfig) (socket : Peer) (s : Server) (times : List ℚ) :
    s.beats config socket (rounds times) = times.map fun now => .tick now false := by
  induction times generalizing s with
  | nil => rfl
  | cons now times ih => exact congrArg (Beat.tick now false :: ·) (ih (s.pingBrowsers now []))

/-- A driver connects, and answers its first ping. -/
def drivePinged : List (ℚ × Event) :=
  attachedMeanwhile.map (fun event => (0, event)) ++
    [(5000, .pingBrowsers 5000 []), (5001, .pong 1)]

theorem run_drivePinged :
    Run (ClockedStep ticketConfig) empty drivePinged attachedMeanwhileEnd := by
  have hattached : ∀ {s t u : Server} {event : Event} {events : List (ℚ × Event)},
      s.step ticketConfig event = some t → pingTime? event = none →
      Run (ClockedStep ticketConfig) t events u →
      Run (ClockedStep ticketConfig) s ((0, event) :: events) u := by
    intro s t u event events hstep hquiet hrun
    refine .cons ⟨hstep, fun now hnow => ?_⟩ hrun
    cases hquiet.symm.trans hnow
  refine hattached rfl rfl (hattached rfl rfl (hattached rfl rfl (hattached rfl rfl
    (hattached rfl rfl (hattached rfl rfl ?_)))))
  have hpinged : ClockedStep ticketConfig attachedMeanwhileEnd (5000, .pingBrowsers 5000 [])
      (attachedMeanwhileEnd.pingBrowsers 5000 []) :=
    ⟨rfl, fun now hnow => (Option.some.inj hnow).symm⟩
  refine .cons hpinged (.cons ⟨rfl, fun now hnow => ?_⟩ .nil)
  cases hnow

theorem mem_rounds {times : List ℚ} {e : ℚ × Event} :
    e ∈ rounds times ↔ ∃ now ∈ times, e = (now, .pingBrowsers now []) := by
  simp only [rounds, List.mem_map, eq_comm]

theorem drivePinged_le {e : ℚ × Event} (he : e ∈ drivePinged) : e.1 ≤ 5001 := by
  have hle : ∀ time ∈ drivePinged.map Prod.fst, time ≤ 5001 := by
    simp [drivePinged, attachedMeanwhile, claimOutstanding]
    norm_num
  exact hle _ (List.mem_map_of_mem he)

/-- Its later pings go out, and it answers none. -/
theorem fallsSilent_rounds {times : List ℚ} (h : (5001 :: times).Pairwise (· < ·)) :
    FallsSilent ticketConfig 1 5001 drivePinged (rounds times) attachedMeanwhileEnd := by
  obtain ⟨hlater, hsorted⟩ := List.pairwise_cons.1 h
  have hfst : (rounds times).map Prod.fst = times := by
    rw [rounds, List.map_map]
    exact List.map_id times
  refine ⟨run_drivePinged, run_rounds _ _ _, ?_, fun e => drivePinged_le, ?_, rfl, ?_⟩
  case refine_1 =>
    rw [List.map_append, hfst]
    refine List.pairwise_append.2 ⟨?_, hsorted.imp le_of_lt, fun time htime now hnow => ?_⟩
    · simp [drivePinged, attachedMeanwhile, claimOutstanding]
      norm_num
    · obtain ⟨e, he, rfl⟩ := List.mem_map.1 htime
      exact (drivePinged_le he).trans (hlater now hnow).le
  case refine_2 =>
    intro e he
    obtain ⟨now, hnow, rfl⟩ := mem_rounds.1 he
    exact hlater now hnow
  case refine_3 =>
    intro e he
    obtain ⟨now, -, rfl⟩ := mem_rounds.1 he
    exact nofun

/-- The rounds up to a deadline. -/
theorem beats_upTo_rounds (config : GatewayConfig) (socket : Peer) (s : Server) (deadline : ℚ)
    (times : List ℚ) :
    s.beats config socket (upTo deadline (rounds times)) =
      (times.takeWhile fun now => now ≤ deadline).map fun now => .tick now false := by
  have hrounds : upTo deadline (rounds times) =
      rounds (times.takeWhile fun now => now ≤ deadline) := List.takeWhile_map
  rw [hrounds, beats_rounds]

/-- With rounds a millisecond early, it is still there fifteen seconds later. -/
theorem earlyRounds_not_cut :
    FallsSilent ticketConfig 1 5001 drivePinged (rounds [9999, 14998, 19997, 24996])
        attachedMeanwhileEnd ∧
      ScheduledFrom 0 (drivePinged ++ rounds [9999, 14998, 19997, 24996]) ∧
      ¬ attachedMeanwhileEnd.CutBy ticketConfig 1 (rounds [9999, 14998, 19997, 24996])
        (5001 + 15000) := by
  have hsilent : FallsSilent ticketConfig 1 5001 drivePinged
      (rounds [9999, 14998, 19997, 24996]) attachedMeanwhileEnd :=
    fallsSilent_rounds (by norm_num)
  have hpending : attachedMeanwhileEnd.browserPings.get? 1 = some none := rfl
  have hwindow : ([9999, 14998, 19997, 24996] : List ℚ).takeWhile (fun now => now ≤ 5001 + 15000) =
      [9999, 14998, 19997] := by
    norm_num [List.takeWhile]
  refine ⟨hsilent, ?_, ?_⟩
  · simp [ScheduledFrom, pingTimes, drivePinged, attachedMeanwhile, claimOutstanding, rounds,
      pingTime?]
    norm_num
  · have hfirst : pendingTooLong 9999 14998 = false := pendingTooLong_of_ge (by norm_num)
    have hfirst' : pendingTooLong 9999 19997 = false := pendingTooLong_of_ge (by norm_num)
    have hsecond : pendingTooLong 14998 19997 = false := pendingTooLong_of_ge (by norm_num)
    rw [cutBy_iff_overdue hsilent, beats_upTo_rounds, hwindow, hpending]
    simp [Beat.Drops, Beat.overdue_cons, Beat.out, Beat.not_overdue_nil, hfirst, hfirst', hsecond]

/-- With rounds on the second, it is gone. -/
theorem evenRounds_cut :
    attachedMeanwhileEnd.CutBy ticketConfig 1 (rounds [10000, 15000, 20000]) (5001 + 15000) ∧
      NeverTerminated ticketConfig 1 (drivePinged ++ rounds [10000]) := by
  have hsilent : FallsSilent ticketConfig 1 5001 drivePinged (rounds [10000, 15000, 20000])
      attachedMeanwhileEnd := fallsSilent_rounds (by norm_num)
  have hpending : attachedMeanwhileEnd.browserPings.get? 1 = some none := rfl
  have hwindow : ([10000, 15000, 20000] : List ℚ).takeWhile (fun now => now ≤ 5001 + 15000) =
      [10000, 15000, 20000] := by
    norm_num [List.takeWhile]
  refine ⟨(silent_cut_iff hsilent).1.2 (.inr ?_), (silent_cut_iff hsilent).2 _ _ ?_⟩
  · have hlate : pendingTooLong 10000 20000 = true := pendingTooLong_of_le (by norm_num)
    rw [beats_upTo_rounds, hwindow, hpending]
    simp [Beat.overdue_cons, Beat.out, Beat.not_overdue_nil, hlate]
  · have hbeats : empty.beats ticketConfig 1 (drivePinged ++ rounds [10000]) =
        [.other, .other, .other, .other, .other, .watch, .tick 5000 false, .answer,
          .tick 10000 false] := rfl
    rw [hbeats]
    refine ⟨by simp, fun before now fails between now' fails' after heq _ => ?_⟩
    have hbetween : between ++ .tick now' fails' :: after = [.answer, .tick 10000 false] := by
      simp [List.cons_eq_append_iff] at heq
      exact heq.2.2
    cases between with
    | nil => simp at hbetween
    | cons first between =>
      obtain ⟨rfl, -⟩ := List.cons.inj hbetween
      exact List.mem_cons_self

end Server

end RcOnline.Gateway
