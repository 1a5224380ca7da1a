import RcOnline.Web.QueueMoments

/-!
# The live queue in the browser

`useLiveQueue` of `apps/web/app/use-live-queue.ts`: polls and rejoins overlap, are aborted and fail,
and the answer of the latest one is shown. The browser's clock may be any distance from the
server's; an offer is accepted only while the server still holds it (`accepts_live`), because its
local deadline starts from the moment the request was sent.
-/

namespace RcOnline.Web

open RcOnline.Lib RcOnline.Schema

/-- The store passes `serverNow` with every snapshot, and instants that can be read. -/
def localDeadline (snapshot : Option LiveQueueSnapshot) (requestStartedAt : Int) : Option Int :=
  match snapshot with
  | none => none
  | some snapshot =>
    if snapshot.status ≠ .ready then none
    else snapshot.offerExpiresAt.map fun offerExpiresAt =>
      -- Server-relative time, with the request's duration subtracted conservatively.
      requestStartedAt + max 0 (offerExpiresAt - snapshot.serverNow)

/-- A call of `refresh` that has sent its request. -/
structure QueueRefresh where
  post : Bool
  id : Nat
  startedAt : Int
  /-- `controller.signal.aborted`. -/
  aborted : Bool
  /-- What the server has answered. -/
  reply : Option LiveQueueSnapshot
  settled : Bool

/-- The states and refs of the hook. -/
structure LiveQueueHook where
  snapshot : Option LiveQueueSnapshot
  deadline : Option Int
  now : Int
  error : Bool
  synchronized : Bool
  rejoining : Bool
  /-- The id of `request.current`. -/
  request : Option Nat
  sequence : Nat
  /-- The requests sent so far, the first one first. -/
  refreshes : List QueueRefresh
  /-- `Date.now()`. -/
  clock : Int
  /-- The place among `refreshes` of the request whose response is shown. -/
  shownFrom : Option Nat

inductive QueueHookAction where
  /-- The effect's first request, a poll, or a rejoin. -/
  | refresh (post : Bool)
  | cleanup
  /-- The five seconds of a request are over. -/
  | timeout (index : Nat)
  /-- The server handles a request on its database. -/
  | serve (index : Nat) (input : QueueInput) (db : Database)
  /-- The response to a request has been read. -/
  | respond (index : Nat)
  /-- A request fails: it is aborted, the connection is lost, or the response is not a snapshot. -/
  | fail (index : Nat)
  /-- `setNow(Date.now())`. -/
  | tick

/-- Something happens after a wait of some milliseconds. -/
structure QueueHookEvent where
  wait : Nat
  action : QueueHookAction

namespace LiveQueueHook

/-- The hook at its first render. -/
def initial (initialSnapshot : Option LiveQueueSnapshot) (clock : Int) : LiveQueueHook where
  snapshot := initialSnapshot
  deadline := localDeadline initialSnapshot clock
  now := clock
  error := false
  synchronized := false
  rejoining := false
  request := none
  sequence := 0
  refreshes := []
  clock := clock
  shownFrom := none

variable (hook : LiveQueueHook)

/-- `request.current?.controller.abort()`. -/
def abortCurrent : LiveQueueHook :=
  { hook with
    refreshes := hook.refreshes.map fun refresh =>
      { refresh with aborted := refresh.aborted || hook.request = some refresh.id } }

/-- `refresh` up to its request. -/
def refresh (post : Bool) : LiveQueueHook :=
  if hook.request.isSome && !post then hook
  else
    let hook := hook.abortCurrent
    let id := hook.sequence + 1
    { hook with
      sequence := id
      request := some id
      rejoining := hook.rejoining || post
      refreshes := hook.refreshes ++
        [{ post, id, startedAt := hook.clock, aborted := false, reply := none, settled := false }] }

/-- What the effect leaves behind. -/
def cleanup : LiveQueueHook :=
  { hook.abortCurrent with sequence := hook.sequence + 1, request := none }

def updateRefresh (index : Nat) (f : QueueRefresh → QueueRefresh) : LiveQueueHook :=
  { hook with refreshes := hook.refreshes.modify index f }

/-- The server handles a request; `offset` is how far its clock is ahead. -/
def serve (offset : Int) (index : Nat) (input : QueueInput) (db : Database) : LiveQueueHook :=
  hook.updateRefresh index fun refresh =>
    if refresh.settled then refresh
    else
      { refresh with
        reply :=
          (joinOrRefresh refresh.post { input with now := hook.clock + offset } db).1.toOption }

/-- The function that `setState` is called with. -/
def setState (refresh : QueueRefresh) (index : Nat) (snapshot : LiveQueueSnapshot) :
    LiveQueueHook :=
  let deadline := localDeadline (some snapshot) refresh.startedAt
  { hook with
    snapshot := some snapshot
    deadline := match hook.snapshot, hook.deadline, deadline with
      | some previous, some previousDeadline, some deadline =>
        if previous.entryId = snapshot.entryId ∧
            previous.offerExpiresAt = snapshot.offerExpiresAt then
          some (min previousDeadline deadline)
        else some deadline
      | _, _, deadline => deadline
    shownFrom := some index }

/-- The `finally` of `refresh`. -/
def settle (refresh : QueueRefresh) (index : Nat) : LiveQueueHook :=
  let hook := hook.updateRefresh index fun refresh => { refresh with settled := true }
  if refresh.id = hook.sequence then { hook with request := none, rejoining := false } else hook

/-- The request at `index`, while its call of `refresh` is under way. -/
def pending? (index : Nat) : Option QueueRefresh :=
  hook.refreshes[index]?.filter fun refresh => !refresh.settled

/-- `refresh` from the response on. -/
def respond (index : Nat) : LiveQueueHook :=
  match hook.pending? index with
  | none => hook
  | some refresh =>
    match refresh.reply with
    | none => hook
    | some snapshot =>
      let hook :=
        if refresh.id ≠ hook.sequence ∨ refresh.aborted then hook
        else
          { hook.setState refresh index snapshot with
            now := hook.clock, error := false, synchronized := true }
      hook.settle refresh index

/-- `refresh` from a failure on. -/
def fail (index : Nat) : LiveQueueHook :=
  match hook.pending? index with
  | none => hook
  | some refresh =>
    let hook := if refresh.id = hook.sequence then { hook with error := true } else hook
    hook.settle refresh index

def perform (offset : Int) : QueueHookAction → LiveQueueHook
  | .refresh post => hook.refresh post
  | .cleanup => hook.cleanup
  | .timeout index => hook.updateRefresh index fun refresh => { refresh with aborted := true }
  | .serve index input db => hook.serve offset index input db
  | .respond index => hook.respond index
  | .fail index => hook.fail index
  | .tick => { hook with now := hook.clock }

def step (offset : Int) (event : QueueHookEvent) : LiveQueueHook :=
  { hook with clock := hook.clock + event.wait }.perform offset event.action

/-- `Math.ceil((state.deadline - now) / 1000)`, not below zero. -/
def remainingSeconds : Option Int :=
  hook.deadline.map fun deadline => max 0 ((deadline - hook.now + 999) / 1000)

def expired : Bool :=
  hook.snapshot.any (·.status = .expired) || hook.remainingSeconds = some 0

def canAccept : Bool :=
  hook.synchronized && !hook.error && !hook.expired && hook.snapshot.any (·.status = .ready) &&
    !hook.rejoining

/-- The function of a render, called at some later time. -/
def isAcceptCurrent (at' : Int) : Bool :=
  hook.canAccept && hook.deadline.all (at' < ·)

/-! ## The server's answers -/

/-- An answer of the server's at an instant: an offer comes with its end. -/
structure AnsweredAt (now : Int) (snapshot : LiveQueueSnapshot) : Prop where
  serverNow : snapshot.serverNow = now
  ready : snapshot.status = .ready → ∃ offerExpiresAt, snapshot.offerExpiresAt = some offerExpiresAt

theorem answeredAt_queueSnapshotFromState {userId : Uuid} {entries : List QueueRow}
    {cars : List QueueCar} {now : Int} {snapshot : LiveQueueSnapshot}
    (h : queueSnapshotFromState userId entries cars now = .ok snapshot) :
    AnsweredAt now snapshot := by
  unfold queueSnapshotFromState at h
  split at h
  · cases h
  · cases h
    refine ⟨rfl, fun hready => ?_⟩
    dsimp only at hready ⊢
    split at hready
    · next hoffered => exact ⟨_, if_pos hoffered⟩
    · cases hready

theorem answeredAt_placedSnapshot {input : QueueInput} {start db : Database}
    {snapshot : LiveQueueSnapshot} (h : (placedSnapshot input start db).1 = .ok snapshot) :
    AnsweredAt input.now snapshot := by
  unfold placedSnapshot at h
  dsimp only at h
  split at h
  · cases h
  · next hsnapshot =>
    cases h
    exact answeredAt_queueSnapshotFromState hsnapshot

theorem answeredAt_joinOrRefresh {explicitJoin : Bool} {input : QueueInput} {db : Database}
    {snapshot : LiveQueueSnapshot} (h : (joinOrRefresh explicitJoin input db).1 = .ok snapshot) :
    AnsweredAt input.now snapshot := by
  unfold joinOrRefresh at h
  dsimp only at h
  split at h
  · cases h
    exact ⟨rfl, fun hready => by cases hready⟩
  · split at h
    · split at h
      · exact answeredAt_placedSnapshot h
      · exact answeredAt_placedSnapshot h
    · split at h
      · cases h
        exact ⟨rfl, fun hready => by cases hready⟩
      · exact answeredAt_placedSnapshot h

/-! ## The local deadline -/

/-- While the deadline is ahead, the server still holds the offer. -/
def Covers (offset clock deadline offerExpiresAt : Int) : Prop :=
  ∀ at', clock ≤ at' → at' < deadline → at' + offset < offerExpiresAt

/-- The server read its clock after the request was sent, so the time that it has left for the offer
is over no later than the deadline. -/
theorem covers_localDeadline {offset clock startedAt handledAt : Int}
    {snapshot : LiveQueueSnapshot} (hstarted : startedAt ≤ clock)
    (hhandled : startedAt + offset ≤ handledAt) (h : AnsweredAt handledAt snapshot)
    (hready : snapshot.status = .ready) :
    ∃ offerExpiresAt deadline, snapshot.offerExpiresAt = some offerExpiresAt ∧
      localDeadline (some snapshot) startedAt = some deadline ∧
      Covers offset clock deadline offerExpiresAt := by
  obtain ⟨offerExpiresAt, hexpires⟩ := h.ready hready
  refine ⟨offerExpiresAt, _, hexpires, by simp [localDeadline, hready, hexpires]; rfl, ?_⟩
  intro at' hclock hdeadline
  rw [h.serverNow] at hdeadline
  omega

theorem Covers.mono {offset clock clock' deadline deadline' offerExpiresAt : Int}
    (h : Covers offset clock deadline offerExpiresAt) (hclock : clock ≤ clock')
    (hdeadline : deadline' ≤ deadline) : Covers offset clock' deadline' offerExpiresAt :=
  fun at' hat hlt => h at' (hclock.trans hat) (hlt.trans_le hdeadline)

/-! ## What the hook keeps -/

/-- A request was sent before now, and its answer comes from a moment after that. -/
structure Known (offset clock : Int) (refresh : QueueRefresh) : Prop where
  started : refresh.startedAt ≤ clock
  answered : ∀ snapshot, refresh.reply = some snapshot →
    ∃ handledAt, refresh.startedAt + offset ≤ handledAt ∧ AnsweredAt handledAt snapshot

/-- What a step leaves of a request. -/
structure Kept (offset clock : Int) (refresh after : QueueRefresh) : Prop where
  id : after.id = refresh.id
  known : Known offset clock refresh → Known offset clock after
  settled : refresh.settled = true → after.settled = true ∧ after.reply = refresh.reply

theorem Kept.refl (offset clock : Int) (refresh : QueueRefresh) :
    Kept offset clock refresh refresh := ⟨rfl, fun h => h, fun h => ⟨h, rfl⟩⟩

structure Sound (offset : Int) (hook : LiveQueueHook) : Prop where
  /-- The ids follow the order in which the requests were sent. -/
  ordered : ∀ (i j : Nat) (r r' : QueueRefresh), hook.refreshes[i]? = some r →
    hook.refreshes[j]? = some r' → i < j → r.id < r'.id
  bounded : ∀ (i : Nat) (r : QueueRefresh), hook.refreshes[i]? = some r → r.id ≤ hook.sequence
  known : ∀ (i : Nat) (r : QueueRefresh), hook.refreshes[i]? = some r → Known offset hook.clock r
  covered : hook.synchronized = true → ∀ snapshot, hook.snapshot = some snapshot →
    snapshot.status = .ready → ∃ offerExpiresAt deadline,
      snapshot.offerExpiresAt = some offerExpiresAt ∧ hook.deadline = some deadline ∧
      Covers offset hook.clock deadline offerExpiresAt
  shown : ∀ index, hook.shownFrom = some index → ∃ r, hook.refreshes[index]? = some r ∧
    r.settled = true ∧ r.reply = hook.snapshot

/-- A step that shows the same: it may change the requests, and may make the current one
outdated. -/
structure Same (offset : Int) (hook after : LiveQueueHook) : Prop where
  refreshes : ∃ f : Nat → QueueRefresh → QueueRefresh,
    (∀ i, after.refreshes[i]? = hook.refreshes[i]?.map (f i)) ∧
    ∀ i r, hook.refreshes[i]? = some r → Kept offset hook.clock r (f i r)
  sequence : hook.sequence ≤ after.sequence
  clock : after.clock = hook.clock
  synchronized : after.synchronized = hook.synchronized
  snapshot : after.snapshot = hook.snapshot
  deadline : after.deadline = hook.deadline
  shownFrom : after.shownFrom = hook.shownFrom

section kept

variable {offset : Int} {hook after : LiveQueueHook}

theorem Same.of_eq (hrefreshes : after.refreshes = hook.refreshes)
    (hsequence : hook.sequence ≤ after.sequence) (hclock : after.clock = hook.clock)
    (hsynchronized : after.synchronized = hook.synchronized)
    (hsnapshot : after.snapshot = hook.snapshot) (hdeadline : after.deadline = hook.deadline)
    (hshownFrom : after.shownFrom = hook.shownFrom) : Same offset hook after where
  refreshes := ⟨fun _ r => r, by simp [hrefreshes], fun _ r _ => .refl offset hook.clock r⟩
  sequence := hsequence
  clock := hclock
  synchronized := hsynchronized
  snapshot := hsnapshot
  deadline := hdeadline
  shownFrom := hshownFrom

theorem same_abortCurrent (offset : Int) (hook : LiveQueueHook) :
    Same offset hook hook.abortCurrent where
  refreshes := ⟨fun _ r => { r with aborted := r.aborted || hook.request = some r.id },
    fun _ => List.getElem?_map, fun _ _ _ => ⟨rfl, fun h => ⟨h.started, h.answered⟩,
      fun h => ⟨h, rfl⟩⟩⟩
  sequence := le_rfl
  clock := rfl
  synchronized := rfl
  snapshot := rfl
  deadline := rfl
  shownFrom := rfl

theorem same_updateRefresh {index : Nat} {f : QueueRefresh → QueueRefresh}
    (hf : ∀ r, hook.refreshes[index]? = some r → Kept offset hook.clock r (f r)) :
    Same offset hook (hook.updateRefresh index f) where
  refreshes := by
    refine ⟨fun i r => if index = i then f r else r, fun i => ?_, fun i r hr => ?_⟩
    · simp only [updateRefresh, List.getElem?_modify]
      rfl
    · dsimp only
      split
      · next heq => exact hf r (heq ▸ hr)
      · exact .refl offset hook.clock r
  sequence := le_rfl
  clock := rfl
  synchronized := rfl
  snapshot := rfl
  deadline := rfl
  shownFrom := rfl

theorem Sound.same (h : Sound offset hook) (hsame : Same offset hook after) :
    Sound offset after := by
  obtain ⟨f, hf, hkept⟩ := hsame.refreshes
  have hwas : ∀ (i : Nat) (r' : QueueRefresh), after.refreshes[i]? = some r' →
      ∃ r, hook.refreshes[i]? = some r ∧ Kept offset hook.clock r r' := by
    intro i r' hr'
    rw [hf, Option.map_eq_some_iff] at hr'
    obtain ⟨r, hr, rfl⟩ := hr'
    exact ⟨r, hr, hkept i r hr⟩
  constructor
  case ordered =>
    intro i j r r' hr hr' hlt
    obtain ⟨s, hs, hsr⟩ := hwas i r hr
    obtain ⟨s', hs', hsr'⟩ := hwas j r' hr'
    rw [hsr.id, hsr'.id]
    exact h.ordered i j s s' hs hs' hlt
  case bounded =>
    intro i r hr
    obtain ⟨s, hs, hsr⟩ := hwas i r hr
    rw [hsr.id]
    exact (h.bounded i s hs).trans hsame.sequence
  case known =>
    intro i r hr
    obtain ⟨s, hs, hsr⟩ := hwas i r hr
    rw [hsame.clock]
    exact hsr.known (h.known i s hs)
  case covered =>
    rw [hsame.synchronized, hsame.snapshot, hsame.deadline, hsame.clock]
    exact h.covered
  case shown =>
    intro index hindex
    rw [hsame.shownFrom] at hindex
    obtain ⟨r, hr, hsettled, hreply⟩ := h.shown index hindex
    obtain ⟨hsettled', hreply'⟩ := (hkept index r hr).settled hsettled
    refine ⟨f index r, by rw [hf, hr, Option.map_some], hsettled', ?_⟩
    rw [hreply', hreply, hsame.snapshot]

/-- Waiting. -/
theorem Sound.wait (h : Sound offset hook) (wait : Nat) :
    Sound offset { hook with clock := hook.clock + wait } where
  ordered := h.ordered
  bounded := h.bounded
  known := fun i r hr =>
    ⟨(h.known i r hr).started.trans (Int.le_add_of_nonneg_right (Int.natCast_nonneg wait)),
      (h.known i r hr).answered⟩
  covered := by
    intro hsynchronized snapshot hsnapshot hready
    obtain ⟨offerExpiresAt, deadline, hexpires, hdeadline, hcovers⟩ :=
      h.covered hsynchronized snapshot hsnapshot hready
    exact ⟨offerExpiresAt, deadline, hexpires, hdeadline,
      hcovers.mono (Int.le_add_of_nonneg_right (Int.natCast_nonneg wait)) le_rfl⟩
  shown := h.shown

/-- A request is sent. -/
theorem Sound.refresh (h : Sound offset hook) (post : Bool) : Sound offset (hook.refresh post) := by
  unfold LiveQueueHook.refresh
  split
  · exact h
  · have h' := h.same (same_abortCurrent offset hook)
    have hget : ∀ (i : Nat) (r : QueueRefresh) (new : QueueRefresh),
        (hook.abortCurrent.refreshes ++ [new])[i]? = some r →
        hook.abortCurrent.refreshes[i]? = some r ∨
          i = hook.abortCurrent.refreshes.length ∧ r = new := by
      intro i r new hr
      rw [List.getElem?_append] at hr
      split at hr
      · exact .inl hr
      · next hlength =>
        obtain ⟨hi, rfl⟩ := List.getElem?_eq_some_iff.1 hr
        simp only [List.length_singleton] at hi
        exact .inr ⟨by omega, by simp⟩
    constructor
    case ordered =>
      intro i j r r' hr hr' hlt
      rcases hget i r _ hr with hr | ⟨rfl, rfl⟩
      · rcases hget j r' _ hr' with hr' | ⟨rfl, rfl⟩
        · exact h'.ordered i j r r' hr hr' hlt
        · exact Nat.lt_succ_of_le (h'.bounded i r hr)
      · rcases hget j r' _ hr' with hr' | ⟨rfl, rfl⟩
        · have hj := (List.getElem?_eq_some_iff.1 hr').1
          omega
        · omega
    case bounded =>
      intro i r hr
      rcases hget i r _ hr with hr | ⟨rfl, rfl⟩
      · exact (h'.bounded i r hr).trans (Nat.le_succ _)
      · exact le_rfl
    case known =>
      intro i r hr
      rcases hget i r _ hr with hr | ⟨rfl, rfl⟩
      · exact h'.known i r hr
      · exact ⟨le_rfl, fun _ hreply => by cases hreply⟩
    case covered => exact h'.covered
    case shown =>
      intro index hindex
      obtain ⟨r, hr, hsettled, hreply⟩ := h'.shown index hindex
      refine ⟨r, ?_, hsettled, hreply⟩
      rw [List.getElem?_append_left (List.getElem?_eq_some_iff.1 hr).1]
      exact hr

theorem same_serve (index : Nat) (input : QueueInput) (db : Database) :
    Same offset hook (hook.serve offset index input db) := by
  refine same_updateRefresh fun r _ => ?_
  split
  · exact .refl offset hook.clock r
  · next hpending =>
    refine ⟨rfl, fun hknown => ⟨hknown.started, fun snapshot hreply => ?_⟩,
      fun hsettled => absurd hsettled hpending⟩
    refine ⟨hook.clock + offset, by have := hknown.started; dsimp only; omega, ?_⟩
    dsimp only at hreply
    cases hanswer : (joinOrRefresh r.post { input with now := hook.clock + offset } db).1 with
    | error message =>
      rw [hanswer] at hreply
      cases hreply
    | ok snapshot' =>
      rw [hanswer] at hreply
      cases hreply
      exact answeredAt_joinOrRefresh hanswer

theorem same_settle (offset : Int) (hook : LiveQueueHook) (refresh : QueueRefresh) (index : Nat) :
    Same offset hook (hook.settle refresh index) := by
  have hsame : Same offset hook
      (hook.updateRefresh index fun refresh => { refresh with settled := true }) :=
    same_updateRefresh fun r _ =>
      ⟨rfl, fun h => ⟨h.started, h.answered⟩, fun _ => ⟨rfl, rfl⟩⟩
  unfold settle
  dsimp only
  split
  · exact ⟨hsame.refreshes, hsame.sequence, hsame.clock, hsame.synchronized, hsame.snapshot,
      hsame.deadline, hsame.shownFrom⟩
  · exact hsame

/-- The hook after a response that is shown. -/
def shows (hook : LiveQueueHook) (refresh : QueueRefresh) (index : Nat)
    (snapshot : LiveQueueSnapshot) : LiveQueueHook :=
  { hook.settle refresh index with
    snapshot := some snapshot
    deadline := (hook.setState refresh index snapshot).deadline
    now := hook.clock
    error := false
    synchronized := true
    shownFrom := some index }

/-- A response shows nothing, or it is the one to the latest request. -/
theorem respond_cases (offset : Int) (hook : LiveQueueHook) (index : Nat) :
    Same offset hook (hook.respond index) ∨
    ∃ refresh snapshot, hook.refreshes[index]? = some refresh ∧ refresh.settled = false ∧
      refresh.reply = some snapshot ∧ refresh.id = hook.sequence ∧
      hook.respond index = hook.shows refresh index snapshot := by
  have hrefl : Same offset hook hook := .of_eq rfl le_rfl rfl rfl rfl rfl rfl
  unfold respond
  split
  · exact .inl hrefl
  · next refresh hpending =>
    obtain ⟨hrefresh, hunsettled⟩ := Option.filter_eq_some_iff.1 hpending
    split
    · exact .inl hrefl
    · next snapshot hreply =>
      by_cases hdropped : refresh.id ≠ hook.sequence ∨ refresh.aborted = true
      · simp only [if_pos hdropped]
        exact .inl (same_settle offset hook refresh index)
      · simp only [if_neg hdropped]
        push Not at hdropped
        refine .inr ⟨refresh, snapshot, hrefresh, by simpa using hunsettled, hreply,
          hdropped.1, ?_⟩
        unfold shows settle updateRefresh
        simp only [hdropped.1, setState, if_true]

/-- The deadline of a response covers the offer that it shows. -/
theorem covers_setState (hook : LiveQueueHook) {refresh : QueueRefresh} (index : Nat)
    {snapshot : LiveQueueSnapshot} (hknown : Known offset hook.clock refresh)
    (hreply : refresh.reply = some snapshot)
    (hready : snapshot.status = .ready) :
    ∃ offerExpiresAt deadline, snapshot.offerExpiresAt = some offerExpiresAt ∧
      (hook.setState refresh index snapshot).deadline = some deadline ∧
      Covers offset hook.clock deadline offerExpiresAt := by
  obtain ⟨handledAt, hhandled, hanswered⟩ := hknown.answered snapshot hreply
  obtain ⟨offerExpiresAt, deadline, hexpires, hdeadline, hcovers⟩ :=
    covers_localDeadline hknown.started hhandled hanswered hready
  simp only [setState, hdeadline]
  split
  · next previousDeadline deadline' _ _ heq =>
    obtain rfl := Option.some.inj heq
    split
    · exact ⟨offerExpiresAt, _, hexpires, rfl, hcovers.mono le_rfl (min_le_right _ _)⟩
    · exact ⟨offerExpiresAt, _, hexpires, rfl, hcovers⟩
  · exact ⟨offerExpiresAt, deadline, hexpires, rfl, hcovers⟩

theorem settle_refreshes {refresh : QueueRefresh} {index : Nat}
    (hrefresh : hook.refreshes[index]? = some refresh) :
    (hook.settle refresh index).refreshes[index]? = some { refresh with settled := true } := by
  have hget : (hook.refreshes.modify index fun r => { r with settled := true })[index]? =
      some { refresh with settled := true } := by simp [hrefresh]
  unfold settle updateRefresh
  dsimp only
  split
  · exact hget
  · exact hget

theorem Sound.shows (h : Sound offset hook) {refresh : QueueRefresh} {index : Nat}
    {snapshot : LiveQueueSnapshot} (hrefresh : hook.refreshes[index]? = some refresh)
    (hreply : refresh.reply = some snapshot) :
    Sound offset (hook.shows refresh index snapshot) := by
  have hsame : Same offset hook (hook.settle refresh index) := same_settle offset hook refresh index
  have h' := h.same hsame
  refine ⟨h'.ordered, h'.bounded, h'.known, fun _ shown hshown hready => ?_, fun i hi => ?_⟩
  · obtain rfl := Option.some.inj hshown
    have hcovers := covers_setState hook index (h.known index refresh hrefresh) hreply hready
    change ∃ offerExpiresAt deadline, _ ∧ _ ∧
      Covers offset (hook.settle refresh index).clock deadline offerExpiresAt
    rw [hsame.clock]
    exact hcovers
  · obtain rfl := Option.some.inj hi
    exact ⟨_, settle_refreshes hrefresh, rfl, hreply⟩

/-- The latest request was sent after the one whose response is shown. -/
theorem Sound.shownFrom_lt (h : Sound offset hook) {refresh : QueueRefresh} {index shown : Nat}
    (hrefresh : hook.refreshes[index]? = some refresh) (hsettled : refresh.settled = false)
    (hlatest : refresh.id = hook.sequence) (hshown : hook.shownFrom = some shown) :
    shown < index := by
  obtain ⟨r, hr, hsettled', -⟩ := h.shown shown hshown
  rcases Nat.lt_trichotomy shown index with hlt | rfl | hgt
  · exact hlt
  · rw [hrefresh] at hr
    obtain rfl := Option.some.inj hr
    rw [hsettled] at hsettled'
    cases hsettled'
  · have hids := h.ordered index shown refresh r hrefresh hr hgt
    have hbound := h.bounded shown r hr
    omega

/-- What is shown stays, or a response to a request that was sent later is shown. -/
def Replaces (hook after : LiveQueueHook) : Prop :=
  (after.snapshot = hook.snapshot ∧ after.shownFrom = hook.shownFrom) ∨
  ∃ index, after.shownFrom = some index ∧ ∀ shown, hook.shownFrom = some shown → shown < index

theorem Replaces.trans {last : LiveQueueHook} (h : Replaces hook after) (h' : Replaces after last) :
    Replaces hook last := by
  rcases h with ⟨hsnapshot, hshown⟩ | ⟨index, hindex, hlater⟩
  · rcases h' with ⟨hsnapshot', hshown'⟩ | ⟨index, hindex, hlater⟩
    · exact .inl ⟨hsnapshot'.trans hsnapshot, hshown'.trans hshown⟩
    · exact .inr ⟨index, hindex, fun shown h => hlater shown (hshown.trans h)⟩
  · rcases h' with ⟨-, hshown'⟩ | ⟨index', hindex', hlater'⟩
    · exact .inr ⟨index, hshown'.trans hindex, hlater⟩
    · exact .inr ⟨index', hindex', fun shown h => (hlater shown h).trans (hlater' index hindex)⟩

theorem Same.replaces (h : Same offset hook after) : Replaces hook after :=
  .inl ⟨h.snapshot, h.shownFrom⟩

/-- What an action keeps, and what it shows. -/
theorem Sound.perform (h : Sound offset hook) (action : QueueHookAction) :
    Sound offset (hook.perform offset action) ∧ Replaces hook (hook.perform offset action) := by
  have hsame : ∀ {after}, Same offset hook after → Sound offset after ∧ Replaces hook after :=
    fun hsame => ⟨h.same hsame, hsame.replaces⟩
  cases action with
  | refresh post =>
    refine ⟨h.refresh post, .inl ?_⟩
    simp only [LiveQueueHook.perform, LiveQueueHook.refresh]
    split
    · exact ⟨rfl, rfl⟩
    · exact ⟨rfl, rfl⟩
  | cleanup =>
    have haborted := same_abortCurrent offset hook
    exact hsame ⟨haborted.refreshes, Nat.le_succ _, rfl, rfl, rfl, rfl, rfl⟩
  | timeout index =>
    exact hsame (same_updateRefresh fun r _ =>
      ⟨rfl, fun h => ⟨h.started, h.answered⟩, fun h => ⟨h, rfl⟩⟩)
  | serve index input db => exact hsame (same_serve index input db)
  | respond index =>
    rcases respond_cases offset hook index with
      hkept | ⟨refresh, snapshot, hrefresh, hsettled, hreply, hlatest, heq⟩
    · exact hsame hkept
    · rw [LiveQueueHook.perform, heq]
      exact ⟨h.shows hrefresh hreply, .inr ⟨index, rfl, fun shown hshown =>
        h.shownFrom_lt hrefresh hsettled hlatest hshown⟩⟩
  | fail index =>
    have hrefl : Same offset hook hook := .of_eq rfl le_rfl rfl rfl rfl rfl rfl
    have hfail : Same offset hook (hook.fail index) := by
      unfold fail
      split
      · exact hrefl
      · next refresh _ =>
        have hsettle := same_settle offset hook refresh index
        dsimp only
        split
        · next hlatest =>
          have herror : ({ hook with error := true }.settle refresh index) =
              { hook.settle refresh index with error := true } := by
            unfold settle updateRefresh
            simp only [hlatest, if_true]
          rw [herror]
          exact ⟨hsettle.refreshes, hsettle.sequence, hsettle.clock, hsettle.synchronized,
            hsettle.snapshot, hsettle.deadline, hsettle.shownFrom⟩
        · exact hsettle
    exact hsame hfail
  | tick => exact hsame (.of_eq rfl le_rfl rfl rfl rfl rfl rfl)

theorem Sound.run (h : Sound offset hook) (events : List QueueHookEvent) :
    Sound offset (events.foldl (step · offset) hook) ∧
      Replaces hook (events.foldl (step · offset) hook) := by
  induction events generalizing hook with
  | nil => exact ⟨h, .inl ⟨rfl, rfl⟩⟩
  | cons event events ih =>
    obtain ⟨hsound, hreplaces⟩ := (h.wait event.wait).perform event.action
    obtain ⟨hsound', hreplaces'⟩ := ih hsound
    exact ⟨hsound', Replaces.trans hreplaces hreplaces'⟩

theorem sound_initial (initialSnapshot : Option LiveQueueSnapshot) (clock : Int) :
    Sound offset (initial initialSnapshot clock) where
  ordered := by simp [initial]
  bounded := by simp [initial]
  known := by simp [initial]
  covered := fun h => by cases h
  shown := fun _ h => by cases h

/-- While `isAcceptCurrent()` is true, the server still holds the offer that is shown. -/
theorem Sound.accepts (h : Sound offset hook) {at' : Int} (hlater : hook.clock ≤ at')
    (haccept : hook.isAcceptCurrent at' = true) :
    ∃ snapshot offerExpiresAt, hook.snapshot = some snapshot ∧
      snapshot.offerExpiresAt = some offerExpiresAt ∧ at' + offset < offerExpiresAt := by
  simp only [isAcceptCurrent, canAccept, Bool.and_eq_true, Option.any_eq_true,
    decide_eq_true_eq] at haccept
  obtain ⟨⟨⟨⟨⟨hsynchronized, -⟩, -⟩, snapshot, hsnapshot, hready⟩, -⟩, hdeadline⟩ := haccept
  obtain ⟨offerExpiresAt, deadline, hexpires, hlocal, hcovers⟩ :=
    h.covered hsynchronized snapshot hsnapshot hready
  rw [hlocal] at hdeadline
  exact ⟨snapshot, offerExpiresAt, hsnapshot, hexpires,
    hcovers at' hlater (of_decide_eq_true hdeadline)⟩

/-- **Main result.** However far apart the clocks are and however long the network takes, in every
interleaving of polls, rejoins, aborts, failures, answers of the server and responses: while the
`isAcceptCurrent` of a render is true, the server's time is before the end of the offer that the
render shows, and a snapshot that was shown is only replaced by the response to a request that was
sent later. -/
theorem accepts_live (offset : Int) (initialSnapshot : Option LiveQueueSnapshot) (clock : Int)
    (events later : List QueueHookEvent) :
    let hook := events.foldl (step · offset) (initial initialSnapshot clock)
    (∀ at', hook.clock ≤ at' → hook.isAcceptCurrent at' = true →
      ∃ snapshot offerExpiresAt, hook.snapshot = some snapshot ∧
        snapshot.offerExpiresAt = some offerExpiresAt ∧ at' + offset < offerExpiresAt) ∧
    (∀ shown, hook.shownFrom = some shown →
      ∃ refresh, hook.refreshes[shown]? = some refresh ∧ refresh.reply = hook.snapshot) ∧
    Replaces hook (later.foldl (step · offset) hook) := by
  intro hook
  have hsound : Sound offset hook := ((sound_initial initialSnapshot clock).run events).1
  refine ⟨fun at' hlater haccept => hsound.accepts hlater haccept, fun shown hshown => ?_,
    (hsound.run later).2⟩
  obtain ⟨refresh, hrefresh, -, hreply⟩ := hsound.shown shown hshown
  exact ⟨refresh, hrefresh, hreply⟩

/-- The server's clock is 900 ms ahead, and 100 ms pass each way. -/
def offeredPoll : List QueueHookEvent :=
  [⟨0, .refresh false⟩, ⟨100, .serve 0 ⟨4, 0, 3, 0, fun _ _ => 0⟩ idleDb⟩, ⟨100, .respond 0⟩]

/-- The offer ends at 16000 on the server, which is 15100 here; the browser gives up at 15000. -/
theorem offeredPoll_live :
    let hook := offeredPoll.foldl (step · 900) (initial none 0)
    hook.isAcceptCurrent 15000 = false ∧
    ∃ snapshot offerExpiresAt, hook.snapshot = some snapshot ∧
      snapshot.offerExpiresAt = some offerExpiresAt ∧ 14999 + 900 < offerExpiresAt := by
  intro hook
  exact ⟨rfl, (accepts_live 900 none 0 offeredPoll []).1 14999
    (show (200 : Int) ≤ 14999 by decide) rfl⟩

end kept

end LiveQueueHook

end RcOnline.Web
